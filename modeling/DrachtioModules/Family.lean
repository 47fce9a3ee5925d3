import DrachtioModules.Machine

/-!
# Families of machines over a shared state

A component that serves many clients is one machine for each of them, with a
state they share.  The label of a part carries what its step reads of the shared
state, and the events of the step say what it writes there.  So every run of
the family is, at each part, a run of that part alone.
-/

namespace DrachtioModules

/-- `common` are the steps no part takes. -/
structure Family (γ σ α ε δ φ : Type*) where
  part : Machine σ α ε
  shared : γ
  reads : γ → Nat → σ → α → Bool
  writes : Nat → γ → ε → γ
  common : γ → δ → Option (γ × List φ)

namespace Family

variable {γ σ α ε δ φ : Type*}

structure State (γ σ : Type*) where
  shared : γ
  parts : Nat → σ

inductive Act (α δ : Type*) where
  | part (n : Nat) (act : α)
  | common (act : δ)

inductive Event (ε φ : Type*) where
  | part (n : Nat) (event : ε)
  | common (event : φ)
  deriving DecidableEq

/-- What the part `n` has taken part in. -/
def Act.of (n : Nat) : Act α δ → Option α
  | .part m act => if m = n then some act else none
  | .common _ => none

def Event.of (n : Nat) : Event ε φ → Option ε
  | .part m event => if m = n then some event else none
  | .common _ => none

def step (family : Family γ σ α ε δ φ) (s : State γ σ) :
    Act α δ → Option (State γ σ × List (Event ε φ))
  | .part n act =>
      if family.reads s.shared n (s.parts n) act then
        match family.part.step (s.parts n) act with
        | none => none
        | some (next, events) =>
            some (⟨events.foldl (family.writes n) s.shared,
              Function.update s.parts n next⟩, events.map (.part n))
      else none
  | .common act =>
      match family.common s.shared act with
      | none => none
      | some (shared, events) => some (⟨shared, s.parts⟩, events.map .common)

def machine (family : Family γ σ α ε δ φ) :
    Machine (State γ σ) (Act α δ) (Event ε φ) :=
  { initial := ⟨family.shared, fun _ => family.part.initial⟩
    step := family.step }

/-- A guard on the steps of every part. -/
def onParts (allowed : σ → α → Bool) : State γ σ → Act α δ → Bool
  | s, .part n act => allowed (s.parts n) act
  | _, .common _ => true

section Rules

variable {family : Family γ σ α ε δ φ}

inductive Step (family : Family γ σ α ε δ φ) (s : State γ σ) :
    Act α δ → State γ σ → List (Event ε φ) → Prop where
  | part {n : Nat} {act : α} {next : σ} {events : List ε}
      (reads : family.reads s.shared n (s.parts n) act = true)
      (step : family.part.step (s.parts n) act = some (next, events)) :
      Step family s (.part n act)
        ⟨events.foldl (family.writes n) s.shared,
          Function.update s.parts n next⟩
        (events.map (.part n))
  | common {act : δ} {shared : γ} {events : List φ}
      (step : family.common s.shared act = some (shared, events)) :
      Step family s (.common act) ⟨shared, s.parts⟩ (events.map .common)

theorem step_cases {s s' : State γ σ} {label : Act α δ}
    {events : List (Event ε φ)}
    (step : family.machine.step s label = some (s', events)) :
    Step family s label s' events := by
  cases label with
  | part n act =>
      simp only [machine, Family.step] at step
      split at step
      · rename_i reads
        split at step <;> cases step
        rename_i taken
        exact .part reads taken
      · cases step
  | common act =>
      simp only [machine, Family.step] at step
      split at step <;> cases step
      rename_i taken
      exact .common taken

theorem step_of_part {s : State γ σ} {n : Nat} {act : α} {next : σ}
    {events : List ε} (reads : family.reads s.shared n (s.parts n) act = true)
    (step : family.part.step (s.parts n) act = some (next, events)) :
    family.machine.step s (.part n act) =
      some (⟨events.foldl (family.writes n) s.shared,
        Function.update s.parts n next⟩, events.map (.part n)) := by
  simp only [machine, Family.step, reads, step, if_true]

theorem step_of_common {s : State γ σ} {act : δ} {shared : γ}
    {events : List φ}
    (step : family.common s.shared act = some (shared, events)) :
    family.machine.step s (.common act) =
      some (⟨shared, s.parts⟩, events.map .common) := by
  simp only [machine, Family.step, step]

theorem filterMap_part (n m : Nat) (events : List ε) :
    (events.map (.part m) : List (Event ε φ)).filterMap (Event.of n) =
      if m = n then events else [] := by
  induction events with
  | nil => simp
  | cons event events ih =>
      rw [List.map_cons]
      by_cases same : m = n
      · rw [if_pos same] at ih ⊢
        rw [List.filterMap_cons_some (by rw [Event.of, if_pos same]), ih]
      · rw [if_neg same] at ih ⊢
        rw [List.filterMap_cons_none (by rw [Event.of, if_neg same]), ih]

theorem filterMap_common (n : Nat) (events : List φ) :
    (events.map .common : List (Event ε φ)).filterMap (Event.of n) = [] := by
  induction events with
  | nil => rfl
  | cons event events ih =>
      rw [List.map_cons, List.filterMap_cons_none rfl, ih]

theorem mem_of_part {n : Nat} {event : ε} {trace : List (Event ε φ)} :
    event ∈ trace.filterMap (Event.of n) ↔ .part n event ∈ trace := by
  rw [List.mem_filterMap]
  constructor
  · rintro ⟨whole, member, here⟩
    cases whole with
    | part m other =>
        simp only [Event.of, Option.ite_none_right_eq_some,
          Option.some.injEq] at here
        obtain ⟨rfl, rfl⟩ := here
        exact member
    | common other => cases here
  · exact fun member => ⟨_, member, by simp [Event.of]⟩

/-- The projection of a run to one of the parts. -/
theorem run_part {guard : State γ σ → Act α δ → Bool}
    {allowed : σ → α → Bool} {start s : State γ σ} {labels : List (Act α δ)}
    {trace : List (Event ε φ)}
    (run : family.machine.Run guard start labels trace s)
    (admits : ∀ state n act, guard state (.part n act) = true →
      allowed (state.parts n) act = true) (n : Nat) :
    family.part.Run allowed (start.parts n) (labels.filterMap (Act.of n))
      (trace.filterMap (Event.of n)) (s.parts n) := by
  induction run with
  | nil => exact .nil
  | snoc _ admitted step ih =>
      rw [List.filterMap_append, List.filterMap_append]
      cases step_cases step with
      | @part m act next events reads taken =>
          rw [filterMap_part]
          by_cases same : m = n
          · subst same
            have moved := ih.snoc (admits _ _ _ admitted) taken
            simpa [Act.of] using moved
          · simpa [Act.of, same, Function.update_of_ne (Ne.symm same)] using ih
      | common taken =>
          rw [filterMap_common, List.append_nil,
            List.filterMap_cons_none rfl, List.filterMap_nil, List.append_nil]
          exact ih

theorem run_any {guard : State γ σ → Act α δ → Bool} {start s : State γ σ}
    {labels : List (Act α δ)} {trace : List (Event ε φ)}
    (run : family.machine.Run guard start labels trace s) (n : Nat) :
    family.part.Run anyStep (start.parts n) (labels.filterMap (Act.of n))
      (trace.filterMap (Event.of n)) (s.parts n) :=
  run_part run (fun _ _ _ _ => rfl) n

end Rules

end Family

end DrachtioModules

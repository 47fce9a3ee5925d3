import Mathlib.Data.List.Basic
import Mathlib.Logic.Function.Basic
import Mathlib.Tactic.Common

/-!
# Labelled machines and their runs

A concurrent component is a machine whose labels name one atomic step each: the
thread that takes it together with every choice its environment makes there.
An interleaving is then nothing but a list of labels, and what an observer sees
is the list of events those steps emit.

`Run` collects the interleavings all of whose steps meet a guard.  The guard
`anyStep` admits every interleaving; a narrower guard states a condition on the
states in which certain steps are taken.
-/

namespace DrachtioModules

theorem updated_entry {ι β : Type*} [DecidableEq ι] {table : ι → β}
    {key other : ι} {entry value : β}
    (present : Function.update table key entry other = value) :
    (other = key ∧ entry = value) ∨ (other ≠ key ∧ table other = value) := by
  by_cases same : other = key
  · subst other
    rw [Function.update_self] at present
    exact .inl ⟨rfl, present⟩
  · rw [Function.update_of_ne same] at present
    exact .inr ⟨same, present⟩

/-- `step state label` is the outcome of one atomic step, or `none` when the
step is not enabled. -/
structure Machine (σ α ε : Type*) where
  initial : σ
  step : σ → α → Option (σ × List ε)

/-- The guard that admits every step. -/
def anyStep {σ α : Type*} : σ → α → Bool := fun _ _ => true

namespace Machine

variable {σ α ε ο : Type*}

/-- Finite runs from `start`, every step of which meets the guard `allowed`. -/
inductive Run (machine : Machine σ α ε) (allowed : σ → α → Bool) (start : σ) :
    List α → List ε → σ → Prop where
  | nil : Run machine allowed start [] [] start
  | snoc {labels : List α} {trace events : List ε} {state next : σ} {label : α} :
      Run machine allowed start labels trace state →
      allowed state label = true →
      machine.step state label = some (next, events) →
      Run machine allowed start (labels ++ [label]) (trace ++ events) next

/-- A state some interleaving reaches. -/
def Reachable (machine : Machine σ α ε) (state : σ) : Prop :=
  ∃ labels trace, machine.Run anyStep machine.initial labels trace state

section Rules

variable {machine : Machine σ α ε} {allowed : σ → α → Bool}
variable {start : σ} {labels : List α} {trace : List ε} {finish : σ}

/-- A relation between the events seen so far and the present state holds of a
whole run once it holds at the start and every admitted step preserves it. -/
theorem Run.induct (run : machine.Run allowed start labels trace finish)
    (holds : List ε → σ → Prop) (base : holds [] start)
    (preserved : ∀ {trace state label next events},
      holds trace state → allowed state label = true →
      machine.step state label = some (next, events) →
      holds (trace ++ events) next) :
    holds trace finish := by
  induction run with
  | nil => exact base
  | snoc _ admitted step ih => exact preserved ih admitted step

/-- The invariant rule for properties of states alone. -/
theorem Run.invariant (run : machine.Run allowed start labels trace finish)
    (holds : σ → Prop) (base : holds start)
    (preserved : ∀ {state label next events},
      holds state → allowed state label = true →
      machine.step state label = some (next, events) → holds next) :
    holds finish :=
  run.induct (fun _ => holds) base preserved

theorem Run.mono {wider : σ → α → Bool}
    (run : machine.Run allowed start labels trace finish)
    (admits : ∀ state label, allowed state label = true →
      wider state label = true) :
    machine.Run wider start labels trace finish := by
  induction run with
  | nil => exact .nil
  | snoc _ admitted step ih => exact ih.snoc (admits _ _ admitted) step

/-- A guard only narrows the interleavings. -/
theorem Run.unguarded (run : machine.Run allowed start labels trace finish) :
    machine.Run anyStep start labels trace finish :=
  run.mono fun _ _ _ => rfl

theorem Run.append {middle : σ} {labels' : List α} {trace' : List ε}
    (first : machine.Run allowed start labels trace middle)
    (second : machine.Run allowed middle labels' trace' finish) :
    machine.Run allowed start (labels ++ labels') (trace ++ trace') finish := by
  induction second with
  | nil => simpa using first
  | snoc _ admitted step ih =>
      rw [← List.append_assoc, ← List.append_assoc]
      exact .snoc ih admitted step

end Rules

/-- A run cut before the first of its steps that `moment` picks out; the events
are those before the cut and those after it. -/
inductive Cut (machine : Machine σ α ε) (allowed moment : σ → α → Bool)
    (start : σ) : List α → List ε → List ε → σ → Prop where
  | intro {labels labels' : List α} {before events after : List ε}
      {middle next finish : σ} {label : α} :
      machine.Run (fun state label =>
        allowed state label && !moment state label) start labels before
        middle →
      allowed middle label = true →
      moment middle label = true →
      machine.step middle label = some (next, events) →
      machine.Run allowed next labels' after finish →
      Cut machine allowed moment start (labels ++ label :: labels') before
        (events ++ after) finish

/-- Either the run has a first such step, or it has none. -/
theorem Run.cut {machine : Machine σ α ε} {allowed : σ → α → Bool}
    {start finish : σ} {labels : List α} {trace : List ε}
    (run : machine.Run allowed start labels trace finish)
    (moment : σ → α → Bool) :
    machine.Run (fun state label => allowed state label && !moment state label)
        start labels trace finish ∨
      ∃ before after, trace = before ++ after ∧
        machine.Cut allowed moment start labels before after finish := by
  induction run with
  | nil => exact .inl .nil
  | @snoc labels trace events state next label _ admitted step ih =>
      rcases ih with without | ⟨before, after, rfl, earlier⟩
      · cases here : moment state label with
        | false => exact .inl (without.snoc (by simp [admitted, here]) step)
        | true =>
            refine .inr ⟨trace, events, rfl, ?_⟩
            simpa using Cut.intro without admitted here step .nil
      · refine .inr ⟨before, after ++ events, List.append_assoc .., ?_⟩
        cases earlier with
        | intro first first_admitted picked first_step rest =>
            rw [List.append_assoc, List.cons_append, List.append_assoc]
            exact .intro first first_admitted picked first_step
              (rest.snoc admitted step)

/-- The run is in a state of which `holds` at some point. -/
inductive Visits (machine : Machine σ α ε) (allowed : σ → α → Bool)
    (holds : σ → Prop) (start : σ) : List α → List ε → σ → Prop where
  | intro {labels labels' : List α} {before after : List ε} {middle finish : σ} :
      machine.Run allowed start labels before middle → holds middle →
      machine.Run allowed middle labels' after finish →
      Visits machine allowed holds start (labels ++ labels') (before ++ after)
        finish

/-- What is pending at the start still is at the end, or came to hold on the
way. -/
theorem Run.visits {machine : Machine σ α ε} {allowed : σ → α → Bool}
    {start finish : σ} {labels : List α} {trace : List ε}
    (run : machine.Run allowed start labels trace finish)
    (pending holds : σ → Prop) (base : pending start)
    (preserved : ∀ {state label next events},
      pending state → allowed state label = true →
      machine.step state label = some (next, events) →
      holds next ∨ pending next) :
    machine.Visits allowed holds start labels trace finish ∨
      pending finish := by
  induction run with
  | nil => exact .inr base
  | snoc run admitted step ih =>
      rcases ih with visited | pending
      · cases visited with
        | intro first here rest =>
            rw [List.append_assoc, List.append_assoc]
            exact .inl (.intro first here (rest.snoc admitted step))
      · rcases preserved pending admitted step with here | still
        · have now := Visits.intro (run.snoc admitted step) here .nil
          rw [List.append_nil, List.append_nil] at now
          exact .inl now
        · exact .inr still

/-- Runs a list of labels; `none` as soon as a step is not enabled or does not
meet the guard. -/
def exec (machine : Machine σ α ε) (allowed : σ → α → Bool) :
    σ → List α → Option (σ × List ε)
  | state, [] => some (state, [])
  | state, label :: labels =>
      if allowed state label then
        match machine.step state label with
        | none => none
        | some (next, events) =>
            match exec machine allowed next labels with
            | none => none
            | some (finish, later) => some (finish, events ++ later)
      else none

section Exec

variable {machine : Machine σ α ε} {allowed : σ → α → Bool}
variable {start : σ}

private theorem run_cons {label : α} {next finish : σ} {events later : List ε}
    {labels : List α} (admitted : allowed start label = true)
    (step : machine.step start label = some (next, events))
    (rest : machine.Run allowed next labels later finish) :
    machine.Run allowed start (label :: labels) (events ++ later) finish := by
  have empty : machine.Run allowed start [] [] start := .nil
  have first : machine.Run allowed start [label] events next := by
    simpa using empty.snoc admitted step
  simpa using first.append rest

theorem run_of_exec {labels : List α} {finish : σ} {trace : List ε}
    (success : machine.exec allowed start labels = some (finish, trace)) :
    machine.Run allowed start labels trace finish := by
  induction labels generalizing start trace with
  | nil =>
      simp only [exec, Option.some.injEq, Prod.mk.injEq] at success
      obtain ⟨rfl, rfl⟩ := success
      exact .nil
  | cons label labels ih =>
      simp only [exec] at success
      split at success
      · rename_i admitted
        split at success
        · cases success
        · rename_i next events step
          split at success
          · cases success
          · rename_i last later rest
            simp only [Option.some.injEq, Prod.mk.injEq] at success
            obtain ⟨rfl, rfl⟩ := success
            exact run_cons admitted step (ih rest)
      · cases success

/-- A decidable observation of an executed list of labels yields a run of which
that observation holds. -/
theorem exists_run_of_exec {labels : List α} (observe : σ × List ε → Bool)
    (success : (machine.exec allowed start labels).map observe = some true) :
    ∃ finish trace, machine.Run allowed start labels trace finish ∧
      observe (finish, trace) = true := by
  cases result : machine.exec allowed start labels with
  | none => simp [result] at success
  | some outcome =>
      obtain ⟨finish, trace⟩ := outcome
      exact ⟨finish, trace, run_of_exec result, by simpa [result] using success⟩

end Exec

/-- The machine with a history variable, which `note` brings up to date from
the state a step starts in and the step's label.  It is read by guards and
properties only. -/
def recording {η : Type*} (machine : Machine σ α ε) (start : η)
    (note : σ → α → η → η) : Machine (σ × η) α ε :=
  { initial := (machine.initial, start)
    step := fun recorded label =>
      match machine.step recorded.1 label with
      | none => none
      | some (next, events) =>
          some ((next, note recorded.1 label recorded.2), events) }

section Recording

variable {η : Type*} {machine : Machine σ α ε} {allowed : σ → α → Bool}
variable {first : η} {note : σ → α → η → η}

theorem recording_step {state next : σ × η} {label : α} {events : List ε}
    (step : (machine.recording first note).step state label =
      some (next, events)) :
    machine.step state.1 label = some (next.1, events) ∧
      next.2 = note state.1 label state.2 := by
  simp only [recording] at step
  cases result : machine.step state.1 label with
  | none => simp [result] at step
  | some outcome =>
      simp only [result, Option.some.injEq, Prod.mk.injEq] at step
      obtain ⟨rfl, rfl⟩ := step
      exact ⟨rfl, rfl⟩

/-- A recorded run is a run of the machine, under what its guard says of the
machine's states. -/
theorem Run.plain {guard : σ × η → α → Bool} {start finish : σ × η}
    {labels : List α} {trace : List ε}
    (run : (machine.recording first note).Run guard start labels trace finish)
    (admits : ∀ state label, guard state label = true →
      allowed state.1 label = true) :
    machine.Run allowed start.1 labels trace finish.1 := by
  induction run with
  | nil => exact .nil
  | snoc _ admitted step ih =>
      exact ih.snoc (admits _ _ admitted) (recording_step step).1

end Recording

/-- The machine with what its steps cost so far. -/
def metered (machine : Machine σ α ε) (cost : σ → α → Nat) :
    Machine (σ × Nat) α ε :=
  machine.recording 0 fun state label spent => spent + cost state label

/-- Steps that are paid for keep the costs of a run within bounds when what is
not paid yet is in a potential of the state. -/
theorem Run.amortized {machine : Machine σ α ε} {cost : σ → α → Nat}
    {guard : σ × Nat → α → Bool}
    {start : σ} {finish : σ × Nat} {labels : List α} {trace : List ε}
    (run : (machine.metered cost).Run guard (start, 0) labels trace finish)
    (holds : σ → Prop) (paid : α → Bool) (potential : σ → Nat)
    (base : holds start)
    (preserved : ∀ {state label next events}, holds state →
      machine.step state label = some (next, events) → holds next)
    (covered : ∀ {state label next events}, holds state →
      machine.step state label = some (next, events) →
      cost state label + potential next ≤
        potential state + (paid label).toNat) :
    finish.2 + potential finish.1 ≤ potential start + labels.countP paid := by
  suffices holds finish.1 ∧
      finish.2 + potential finish.1 ≤ potential start + labels.countP paid from
    this.2
  induction run with
  | nil => exact ⟨base, by simp⟩
  | @snoc labels trace events state next label _ _ step ih =>
      obtain ⟨held, within⟩ := ih
      obtain ⟨moved, more⟩ := recording_step step
      have share := covered held moved
      have counted : (labels ++ [label]).countP paid =
          labels.countP paid + (paid label).toNat := by
        rw [List.countP_append, List.countP_singleton]
        cases paid label <;> rfl
      refine ⟨preserved held moved, ?_⟩
      rw [more, counted]
      omega

/-- Every step of `machine` is answered by the step of `spec` with the same
label; `see` keeps of its events those the two have in common. -/
structure Simulation {σ' δ : Type*} (machine : Machine σ α ε)
    (spec : Machine σ' α δ) (see : ε → Option δ) where
  related : σ → σ' → Prop
  initial : related machine.initial spec.initial
  step : ∀ {state abstract label next events}, related state abstract →
    machine.step state label = some (next, events) →
    ∃ abstract', spec.step abstract label =
      some (abstract', events.filterMap see) ∧ related next abstract'

theorem Simulation.run {σ' δ : Type*} {machine : Machine σ α ε}
    {spec : Machine σ' α δ} {see : ε → Option δ}
    (simulation : Simulation machine spec see) {labels : List α}
    {trace : List ε} {finish : σ}
    (run : machine.Run anyStep machine.initial labels trace finish) :
    ∃ abstract, spec.Run anyStep spec.initial labels (trace.filterMap see)
        abstract ∧
      simulation.related finish abstract := by
  induction run with
  | nil => exact ⟨spec.initial, .nil, simulation.initial⟩
  | snoc _ _ step ih =>
      obtain ⟨abstract, answered, related⟩ := ih
      obtain ⟨abstract', answer, related'⟩ := simulation.step related step
      refine ⟨abstract', ?_, related'⟩
      rw [List.filterMap_append]
      exact answered.snoc rfl answer

/-- Where `hide` forgets all that some of the steps change, and the others do not
depend on what it forgets, a run without those steps is a run. -/
theorem Run.erase {machine : Machine σ α ε} {start finish : σ}
    {labels : List α} {trace : List ε} (keep : α → Bool) (seen : ε → Bool)
    (hide : σ → σ) (holds : σ → Prop)
    (run : machine.Run anyStep start labels trace finish) (base : holds start)
    (preserved : ∀ {state label next events}, holds state →
      machine.step state label = some (next, events) → holds next)
    (kept : ∀ {state label next events}, keep label = true →
      machine.step state label = some (next, events) →
      machine.step (hide state) label =
        some (hide next, events.filter seen))
    (dropped : ∀ {state label next events}, holds state →
      keep label = false → machine.step state label = some (next, events) →
      hide next = hide state ∧ events.filter seen = []) :
    machine.Run anyStep (hide start) (labels.filter keep) (trace.filter seen)
      (hide finish) := by
  suffices holds finish ∧ machine.Run anyStep (hide start) (labels.filter keep)
      (trace.filter seen) (hide finish) from this.2
  induction run with
  | nil => exact ⟨base, .nil⟩
  | @snoc labels trace events state next label _ _ step ih =>
      obtain ⟨held, run⟩ := ih
      refine ⟨preserved held step, ?_⟩
      rw [List.filter_append, List.filter_append]
      cases here : keep label with
      | true =>
          have moved := run.snoc rfl (kept here step)
          simpa [here] using moved
      | false =>
          obtain ⟨same, unseen⟩ := dropped held here step
          rw [same, unseen]
          simpa [here] using run

theorem Run.still {machine : Machine σ α ε} {allowed : σ → α → Bool}
    {start finish : σ} {trace : List ε}
    (run : machine.Run allowed start [] trace finish) : finish = start := by
  generalize empty : ([] : List α) = labels at run
  cases run with
  | nil => rfl
  | snoc => simp at empty

/-- Steps with one label for as long as its thread is busy. -/
inductive Alone (machine : Machine σ α ε) (label : α) (busy : σ → Bool) :
    σ → List ε → σ → Prop where
  | through {state : σ} :
      busy state = false → Alone machine label busy state [] state
  | step {state next finish : σ} {events later : List ε} :
      busy state = true →
      machine.step state label = some (next, events) →
      Alone machine label busy next later finish →
      Alone machine label busy state (events ++ later) finish

theorem Alone.silent {machine : Machine σ α ε} {label : α} {busy : σ → Bool}
    {state next finish : σ} {trace : List ε} (working : busy state = true)
    (step : machine.step state label = some (next, []))
    (rest : machine.Alone label busy next trace finish) :
    machine.Alone label busy state trace finish :=
  .step working step rest

/-- A thread that runs alone ends in one way at most. -/
theorem Alone.unique {machine : Machine σ α ε} {label : α} {busy : σ → Bool}
    {start finish finish' : σ} {trace trace' : List ε}
    (one : machine.Alone label busy start trace finish)
    (other : machine.Alone label busy start trace' finish') :
    trace = trace' ∧ finish = finish' := by
  induction one generalizing trace' with
  | through idle =>
      cases other with
      | through => exact ⟨rfl, rfl⟩
      | step busy => simp [idle] at busy
  | step working taken _ ih =>
      cases other with
      | through idle => simp [working] at idle
      | step _ taken' rest =>
          obtain ⟨rfl, rfl⟩ :=
            Prod.mk.inj (Option.some.inj (taken.symm.trans taken'))
          obtain ⟨rfl, rfl⟩ := ih rest
          exact ⟨rfl, rfl⟩

/-- So there is one thing at most to see of it. -/
theorem Alone.seen_unique {machine : Machine σ α ε} {label : α}
    {busy : σ → Bool} {start : σ} (see : List ε → ο) {one other : ο}
    (seen : ∃ trace finish, machine.Alone label busy start trace finish ∧
      see trace = one)
    (seen' : ∃ trace finish, machine.Alone label busy start trace finish ∧
      see trace = other) : one = other := by
  obtain ⟨trace, _, alone, rfl⟩ := seen
  obtain ⟨trace', _, alone', rfl⟩ := seen'
  rw [(alone.unique alone').1]

/-- A deterministic automaton that reads the events of a run; it states a
property of the order of events without adding to the machine. -/
structure Observer (ε ο : Type*) where
  start : ο
  see : ο → ε → ο

namespace Observer

def after (observer : Observer ε ο) (trace : List ε) : ο :=
  trace.foldl observer.see observer.start

@[simp] theorem after_append (observer : Observer ε ο) (trace events : List ε) :
    observer.after (trace ++ events) =
      events.foldl observer.see (observer.after trace) :=
  List.foldl_append

end Observer

end Machine

section Marks

variable {ε : Type*} {mark : ε} {past new : List ε} {shows shows' : Prop}

/-- A mark is an event that the state shows from then on. -/
theorem mem_append_of_shown (shown : mark ∈ past → shows)
    (step : mark ∈ new ∨ shows → shows') : mark ∈ past ++ new → shows' := by
  intro member
  rcases List.mem_append.mp member with earlier | later
  · exact step (.inr (shown earlier))
  · exact step (.inl later)

theorem count_append_of_shown [DecidableEq ε] (once : past.count mark ≤ 1)
    (shown : mark ∈ past → shows) (fresh : mark ∈ new → ¬ shows)
    (single : new.count mark ≤ 1) : (past ++ new).count mark ≤ 1 := by
  rw [List.count_append]
  by_cases later : mark ∈ new
  · have absent : mark ∉ past := fun earlier => fresh later (shown earlier)
    rw [List.count_eq_zero_of_not_mem absent]
    omega
  · rw [List.count_eq_zero_of_not_mem later]
    omega

theorem pairwise_append_of_shown {allowed : ε → Prop}
    (kept : past.Pairwise fun earlier later => earlier = mark → allowed later)
    (shown : mark ∈ past → shows)
    (step : shows → ∀ event ∈ new, allowed event)
    (within : new.Pairwise fun earlier later =>
      earlier = mark → allowed later) :
    (past ++ new).Pairwise fun earlier later =>
      earlier = mark → allowed later := by
  rw [List.pairwise_append]
  refine ⟨kept, within, ?_⟩
  rintro earlier before later member rfl
  exact step (shown before) later member

/-- What holds of everything that precedes an event of one kind. -/
theorem append_cons_of_append {before after : List ε} (holds : List ε → Prop)
    (split : past ++ new = before ++ mark :: after)
    (earlier : ∀ rest, past = before ++ mark :: rest → holds before)
    (later : ∀ middle, new = middle ++ mark :: after →
      holds (past ++ middle)) : holds before := by
  rcases List.append_eq_append_iff.mp split with
    ⟨middle, rfl, inside⟩ | ⟨rest, inside, tail⟩
  · exact later middle inside
  · cases rest with
    | nil =>
        have empty : before = past := by simpa using inside.symm
        have first := later [] (by simpa using tail.symm)
        rwa [List.append_nil, ← empty] at first
    | cons event rest =>
        obtain ⟨rfl, _⟩ := List.cons_eq_cons.mp tail
        exact earlier rest inside

end Marks

end DrachtioModules

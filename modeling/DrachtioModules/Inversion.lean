import DrachtioModules.Locks

/-!
# Locks taken in opposite orders

A walk is what a thread can do by itself while the others keep their locks.
Where one call can walk to a lock that the other holds, and the other to a lock
that the first holds, the two wait for each other in some run.
-/

namespace DrachtioModules.Locks

section Walks

variable {ρ : Type*} [DecidableEq ρ]

/-- From `todo` with the locks `held`, without a lock of `busy`, and without a
lock that is held already. -/
inductive Walk (busy : List ρ) :
    List (Cmd ρ) → List (ρ × Mode) → List (Cmd ρ) → List (ρ × Mode) → Prop where
  | here {todo : List (Cmd ρ)} {held : List (ρ × Mode)} :
      Walk busy todo held todo held
  | skip {rest todo : List (Cmd ρ)} {held held' : List (ρ × Mode)} :
      Walk busy rest held todo held' → Walk busy (.skip :: rest) held todo held'
  | lock {r : ρ} {mode : Mode} {rest todo : List (Cmd ρ)}
      {held held' : List (ρ × Mode)} :
      r ∉ busy → r ∉ held.map Prod.fst →
      Walk busy rest ((r, mode) :: held) todo held' →
      Walk busy (.lock r mode :: rest) held todo held'
  | unlock {r : ρ} {mode : Mode} {rest todo : List (Cmd ρ)}
      {held held' : List (ρ × Mode)} :
      Walk busy rest (held.erase (r, mode)) todo held' →
      Walk busy (.unlock r mode :: rest) held todo held'
  | await {r : ρ} {rest todo : List (Cmd ρ)} {held held' : List (ρ × Mode)} :
      r ∉ busy → r ∉ held.map Prod.fst → Walk busy rest held todo held' →
      Walk busy (.await r :: rest) held todo held'
  | seq {first second : Cmd ρ} {rest todo : List (Cmd ρ)}
      {held held' : List (ρ × Mode)} :
      Walk busy (first :: second :: rest) held todo held' →
      Walk busy (.seq first second :: rest) held todo held'
  | either {one other : Cmd ρ} {rest todo : List (Cmd ρ)}
      {held held' : List (ρ × Mode)} (choice : Bool) :
      Walk busy ((if choice then one else other) :: rest) held todo held' →
      Walk busy (.either one other :: rest) held todo held'

/-- The command can be done, whatever is walked after it. -/
def Passes (busy : List ρ) (held : List (ρ × Mode)) (command : Cmd ρ) : Prop :=
  ∀ {rest todo : List (Cmd ρ)} {held' : List (ρ × Mode)},
    Walk busy rest held todo held' → Walk busy (command :: rest) held todo held'

variable {busy : List ρ} {held : List (ρ × Mode)} {body : Cmd ρ} {r : ρ}

theorem Passes.left_out : Passes busy held (.maybe body) := by
  intro rest todo held' walk
  exact .either true (.skip walk)

theorem Passes.guarded (free : r ∉ busy) (fresh : r ∉ held.map Prod.fst)
    (inside : Passes busy ((r, .exclusive) :: held) body) :
    Passes busy held (.guarded r body) := by
  intro rest todo held' walk
  refine .seq (.lock free fresh (.seq (inside (.unlock ?_))))
  rw [List.erase_cons_head]
  exact walk

theorem Walk.trans {todo todo' todo'' : List (Cmd ρ)}
    {held' held'' : List (ρ × Mode)} (first : Walk busy todo held todo' held')
    (second : Walk busy todo' held' todo'' held'') :
    Walk busy todo held todo'' held'' := by
  induction first with
  | here => exact second
  | skip _ ih => exact .skip (ih second)
  | lock free fresh _ ih => exact .lock free fresh (ih second)
  | unlock _ ih => exact .unlock (ih second)
  | await free fresh _ ih => exact .await free fresh (ih second)
  | seq _ ih => exact .seq (ih second)
  | either choice _ ih => exact .either choice (ih second)

theorem Walk.block {commands later : List (Cmd ρ)} {rest todo : List (Cmd ρ)}
    {held' : List (ρ × Mode)}
    (each : ∀ command ∈ commands, Passes busy held command)
    (walk : Walk busy (Cmd.block later :: rest) held todo held') :
    Walk busy (Cmd.block (commands ++ later) :: rest) held todo held' := by
  induction commands with
  | nil => exact walk
  | cons command commands ih =>
      apply Walk.seq
      apply each command List.mem_cons_self
      exact ih fun other member => each other (List.mem_cons_of_mem _ member)

/-- A lock is wanted for the thread alone, or waited for. -/
inductive Wants (r : ρ) : Cmd ρ → Prop where
  | lock : Wants r (.lock r .exclusive)
  | await : Wants r (.await r)

end Walks

section Reaching

variable {ρ τ κ : Type*} [DecidableEq ρ] [DecidableEq τ]
variable {d : Discipline ρ} {calls : κ → Call ρ}
variable {allowed : State ρ τ → Act τ κ → Bool}
variable {s s' next : State ρ τ} {t u : τ}
variable {busy : List ρ} {held held' : List (ρ × Mode)}
variable {todo todo' rest : List (Cmd ρ)}

/-- What thread t does leaves the other threads alone. -/
structure Beside (t : τ) (s s' : State ρ τ) : Prop where
  todo : ∀ u, u ≠ t → s'.todo u = s.todo u
  owns : ∀ u, u ≠ t → ∀ held, Owns s u held → Owns s' u held

theorem Beside.refl (t : τ) (s : State ρ τ) : Beside t s s :=
  ⟨fun _ _ => rfl, fun _ _ _ owns => owns⟩

theorem Beside.trans (first : Beside t s next) (second : Beside t next s') :
    Beside t s s' :=
  { todo := fun u different =>
      (second.todo u different).trans (first.todo u different)
    owns := fun u different held owns =>
      second.owns u different held (first.owns u different held owns) }

theorem Beside.proceed (beside : Beside t s s') (rest : List (Cmd ρ)) :
    Beside t s (s'.proceed t rest) :=
  { todo := fun u different => by
      simpa [State.proceed, different] using beside.todo u different
    owns := beside.owns }

theorem Beside.acquire (s : State ρ τ) (t : τ) (r : ρ) (mode : Mode) :
    Beside t s (s.acquire t r mode) :=
  { todo := fun _ _ => rfl
    owns := fun _ different _ owns => owns.acquire_other different r mode }

theorem Beside.release (s : State ρ τ) (t : τ) (r : ρ) (mode : Mode) :
    Beside t s (s.release t r mode) :=
  { todo := fun _ _ => rfl
    owns := fun _ different _ owns => owns.release_other different r mode }

/-- The threads beside t hold no lock but those of `busy`. -/
def Within (busy : List ρ) (t : τ) (s : State ρ τ) : Prop :=
  ∀ u, u ≠ t → ∃ held, Owns s u held ∧ ∀ lock ∈ held, lock.1 ∈ busy

theorem Within.beside (within : Within busy t s) (beside : Beside t s s') :
    Within busy t s' := by
  intro u different
  obtain ⟨held, owns, inside⟩ := within u different
  exact ⟨held, beside.owns u different held owns, inside⟩

theorem Within.free (within : Within busy t s) (owns : Owns s t held) {r : ρ}
    (free : r ∉ busy) (fresh : r ∉ held.map Prod.fst) : s.holders r = [] := by
  apply List.eq_nil_iff_forall_not_mem.mpr
  rintro ⟨u, mode⟩ member
  by_cases same : u = t
  · subst same
    exact fresh (List.mem_map_of_mem (owns.mem_iff.mp member))
  · obtain ⟨held', owns', inside⟩ := within u same
    exact free (inside _ (owns'.mem_iff.mp member))

/-- Thread t gets as far as `todo` with the locks `held`, the others standing
still. -/
def Reaches (d : Discipline ρ) (calls : κ → Call ρ)
    (allowed : State ρ τ → Act τ κ → Bool) (t : τ) (s : State ρ τ)
    (todo : List (Cmd ρ)) (held : List (ρ × Mode)) : Prop :=
  ∃ labels trace final,
    (machine d calls τ).Run allowed s labels trace final ∧
      final.todo t = todo ∧ Owns final t held ∧ Beside t s final

theorem Reaches.after {label : Act τ κ} (admitted : allowed s label = true)
    (step : step d calls s label = some (next, [])) (beside : Beside t s next)
    (reaches : Reaches d calls allowed t next todo held) :
    Reaches d calls allowed t s todo held := by
  obtain ⟨labels, trace, final, run, here, owns, beside'⟩ := reaches
  have first : (machine d calls τ).Run allowed s ([] ++ [label]) ([] ++ [])
      next :=
    .snoc .nil admitted step
  exact ⟨_, _, final, first.append run, here, owns, beside.trans beside'⟩

theorem Reaches.after_step {choice : Bool} {command : Cmd ρ}
    (admitted : allowed s (.step t choice) = true)
    (here : s.todo t = command :: rest)
    (performed : perform d s t choice rest command = some next)
    (beside : Beside t s next)
    (reaches : Reaches d calls allowed t next todo held) :
    Reaches d calls allowed t s todo held := by
  refine reaches.after admitted ?_ beside
  simp [step, here, performed]

omit [DecidableEq ρ] in
theorem proceed_todo (s : State ρ τ) (t : τ) (rest : List (Cmd ρ)) :
    (s.proceed t rest).todo t = rest := by
  simp [State.proceed]

theorem Walk.reaches (walk : Walk busy todo held todo' held')
    (steps : ∀ (s : State ρ τ) choice, allowed s (.step t choice) = true)
    (here : s.todo t = todo) (owns : Owns s t held)
    (within : Within busy t s) :
    Reaches d calls allowed t s todo' held' := by
  induction walk generalizing s with
  | here => exact ⟨[], [], s, .nil, here, owns, .refl t s⟩
  | @skip rest todo held held' _ ih =>
      have beside := (Beside.refl t s).proceed rest
      refine .after_step (steps s true) here rfl beside ?_
      exact ih (proceed_todo s t rest) owns (within.beside beside)
  | @lock r mode rest todo held held' free fresh _ ih =>
      have beside := (Beside.acquire s t r mode).proceed rest
      refine .after_step (steps s true) here ?_ beside ?_
      · simp [perform, available, within.free owns free fresh]
      · exact ih (proceed_todo _ t rest) (owns.acquire r mode)
          (within.beside beside)
  | @unlock r mode rest todo held held' _ ih =>
      have beside := (Beside.release s t r mode).proceed rest
      refine .after_step (steps s true) here rfl beside ?_
      exact ih (proceed_todo _ t rest) (owns.release r mode)
        (within.beside beside)
  | @await r rest todo held held' free fresh _ ih =>
      have beside := (Beside.refl t s).proceed rest
      refine .after_step (steps s true) here ?_ beside ?_
      · simp [perform, within.free owns free fresh]
      · exact ih (proceed_todo s t rest) owns (within.beside beside)
  | @seq first second rest todo held held' _ ih =>
      have beside := (Beside.refl t s).proceed (first :: second :: rest)
      refine .after_step (steps s true) here rfl beside ?_
      exact ih (proceed_todo s t _) owns (within.beside beside)
  | @either one other rest todo held held' choice _ ih =>
      have beside := (Beside.refl t s).proceed
        ((if choice then one else other) :: rest)
      refine .after_step (steps s choice) here rfl beside ?_
      exact ih (proceed_todo s t _) owns (within.beside beside)

/-- The locks a call is born with. -/
def Call.inborn (call : Call ρ) : List (ρ × Mode) :=
  call.born.toList.map (·, .shared)

theorem Walk.reaches_called {k : κ}
    (walk : Walk busy [(calls k).body] (calls k).inborn todo held)
    (called : ∀ s : State ρ τ, allowed s (.call t k) = true)
    (steps : ∀ (s : State ρ τ) choice, allowed s (.step t choice) = true)
    (idle : s.todo t = []) (empty : Owns s t []) (within : Within busy t s)
    (free : ∀ r, (calls k).born = some r → r ∉ busy) :
    Reaches d calls allowed t s todo held := by
  cases born : (calls k).born with
  | none =>
      have beside := (Beside.refl t s).proceed [(calls k).body]
      refine .after (called s) ?_ beside ?_
      · simp [step, start, idle, born]
      · refine walk.reaches steps (proceed_todo s t _) ?_ (within.beside beside)
        rw [Call.inborn, born]
        exact empty
  | some r =>
      have beside := (Beside.acquire s t r .shared).proceed [(calls k).body]
      refine .after (called s) ?_ beside ?_
      · have nobody := within.free empty (free r born) (by simp)
        simp [step, start, idle, born, available, nobody]
      · refine walk.reaches steps (proceed_todo _ t _) ?_ (within.beside beside)
        rw [Call.inborn, born]
        exact empty.acquire r .shared

/-- Two threads of which one holds what the other wants. -/
theorem waitsFor_of_wants {wanting : Cmd ρ} {r : ρ} (different : u ≠ t)
    (wants : Wants r wanting) (here : s.todo t = wanting :: rest)
    (owns : Owns s u held) (holds : r ∈ held.map Prod.fst) :
    WaitsFor d s t u := by
  obtain ⟨⟨_, mode⟩, member, rfl⟩ := List.mem_map.mp holds
  have holder := owns.mem_iff.mpr member
  cases wants with
  | lock => exact .lock here holder (by simp [admits, different])
  | await => exact .await here holder

/-- Thread t is called to do k, and thread u to do k'. -/
theorem cyclic_of_inversion (t u : τ) (k k' : κ) {r r' : ρ}
    {wanting wanting' : Cmd ρ} {rest' : List (Cmd ρ)} (different : u ≠ t)
    (called : ∀ s : State ρ τ,
      allowed s (.call t k) = true ∧ allowed s (.call u k') = true)
    (steps : ∀ (s : State ρ τ) v choice, allowed s (.step v choice) = true)
    (walk : Walk [] [(calls k).body] (calls k).inborn (wanting :: rest) held)
    (walk' : Walk (held.map Prod.fst) [(calls k').body] (calls k').inborn
      (wanting' :: rest') held')
    (free : ∀ r, (calls k').born = some r → r ∉ held.map Prod.fst)
    (wants : Wants r' wanting) (holds' : r' ∈ held'.map Prod.fst)
    (wants' : Wants r wanting') (holds : r ∈ held.map Prod.fst) :
    ∃ labels trace final,
      (machine d calls τ).Run allowed (machine d calls τ).initial labels trace
        final ∧ ¬ NoCyclicWait d final := by
  have empty : ∀ v, Owns (machine d calls τ).initial v [] := fun _ _ _ => rfl
  have first : Reaches d calls allowed t (machine d calls τ).initial
      (wanting :: rest) held :=
    walk.reaches_called (fun s => (called s).1) (fun s => steps s t) rfl
      (empty t) (fun v _ => ⟨[], empty v, by simp⟩) (by simp)
  obtain ⟨labels, trace, middle, run, here, owns, beside⟩ := first
  have owned : ∀ v, v ≠ u →
      ∃ mine, Owns middle v mine ∧
        ∀ lock ∈ mine, lock.1 ∈ held.map Prod.fst := by
    intro v _
    by_cases same : v = t
    · subst same
      exact ⟨held, owns, fun lock member => List.mem_map_of_mem member⟩
    · exact ⟨[], beside.owns v same [] (empty v), by simp⟩
  have second : Reaches d calls allowed u middle (wanting' :: rest') held' :=
    walk'.reaches_called (fun s => (called s).2) (fun s => steps s u)
      (beside.todo u different) (beside.owns u different [] (empty u)) owned
      free
  obtain ⟨labels', trace', final, run', here', owns', beside'⟩ := second
  refine ⟨_, _, final, run.append run', fun acyclic => acyclic t ?_⟩
  have stays : final.todo t = wanting :: rest :=
    (beside'.todo t (Ne.symm different)).trans here
  have kept := beside'.owns t (Ne.symm different) held owns
  exact .tail (.single (waitsFor_of_wants different wants stays owns' holds'))
    (waitsFor_of_wants (Ne.symm different) wants' here' kept holds)

end Reaching

section Ranks

variable {ρ τ κ : Type*} [DecidableEq ρ] [DecidableEq τ]
variable {d d' : Discipline ρ} {s : State ρ τ} {t u : τ}

omit [DecidableEq ρ] in
theorem admits_of_recursive (same : d.recursive = d'.recursive) (t : τ) (r : ρ)
    (mode : Mode) : admits d t r mode = admits d' t r mode := by
  funext holder
  simp [admits, same]

theorem machine_of_recursive (same : d.recursive = d'.recursive)
    (calls : κ → Call ρ) : machine d calls τ = machine d' calls τ := by
  obtain ⟨rank, recursive⟩ := d
  obtain ⟨rank', recursive'⟩ := d'
  cases same
  rfl

omit [DecidableEq ρ] in
theorem WaitsFor.of_recursive (same : d.recursive = d'.recursive)
    (waits : WaitsFor d s t u) : WaitsFor d' s t u := by
  cases waits with
  | lock next holds excluded =>
      rw [admits_of_recursive same] at excluded
      exact .lock next holds excluded
  | queue plain next writer waits =>
      rw [available, admits_of_recursive same] at waits
      exact .queue (same ▸ plain) next writer waits
  | await next holds => exact .await next holds

omit [DecidableEq ρ] in
theorem NoCyclicWait.of_recursive (same : d.recursive = d'.recursive)
    (acyclic : NoCyclicWait d s) : NoCyclicWait d' s := by
  intro t cycle
  have fewer : WaitsFor d' s ≤ WaitsFor d s :=
    fun _ _ waits => waits.of_recursive same.symm
  exact acyclic t (Relation.TransGen.mono fewer t t cycle)

end Ranks

end DrachtioModules.Locks

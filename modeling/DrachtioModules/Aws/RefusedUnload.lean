import DrachtioModules.Aws.UnloadGate

/-!
# A refused unload of mod_aws_transcribe

`aws_transcribe_shutdown_begin` closes the gate before it reads the count, and
nothing opens the gate again.  An unload that is refused leaves the module
loaded and the gate closed.
-/

namespace DrachtioModules.Aws

open Transcribe (Channel Control Notice)

variable {κ τ : Type}

/-- The steps of the unload `call`. -/
def ofUnload (call : Nat) : Family.Act (SessionAct κ τ) (ModuleAct κ) → Bool
  | .common (.shutdown other) => decide (other = call)
  | .common (.outside _) | .part _ _ => false

/-- How the unload `call` ends. -/
def endsUnload (call : Nat) :
    Family.Event (SessionEvent κ τ) ModuleEvent → Bool
  | .common (.refused other) | .common (.shutdownAPI other) =>
      decide (other = call)
  | .part _ _ => false

/-- The module, had the unload not been called. -/
def Module.uncalled (m : Module κ) (call : Nat) : Module κ :=
  { m with shutdowns := Function.update m.shutdowns call .notCalled }

def without (call : Nat) (s : Family.State (Module κ) (CapCb κ τ)) :
    Family.State (Module κ) (CapCb κ τ) :=
  { s with shared := s.shared.uncalled call }

/-- A run in which the unload is refused is, the unload left out, a run to the
same state: every start is accepted or refused as it would have been. -/
def Unnoticed [DecidableEq κ] (config : Config)
    (s : Family.State (Module κ) (CapCb κ τ)) (call : Nat) : Prop :=
  ∀ labels trace final,
    (sessions κ τ config).machine.Run anyStep s labels trace final →
    .common (.refused call) ∈ trace →
    (sessions κ τ config).machine.Run anyStep s
      (labels.filter fun label => !ofUnload call label)
      (trace.filter fun event => !endsUnload call event) (without call final)

variable [DecidableEq κ] {config : Config} {call : Nat}
variable {s next : Family.State (Module κ) (CapCb κ τ)}
variable {label : Family.Act (SessionAct κ τ) (ModuleAct κ)}
variable {made : List (Family.Event (SessionEvent κ τ) ModuleEvent)}

theorem writes_uncalled (n : Nat) (events : List (SessionEvent κ τ))
    (m : Module κ) :
    events.foldl (Module.writes n) (m.uncalled call) =
      (events.foldl (Module.writes n) m).uncalled call := by
  apply List.foldl_hom (fun m : Module κ => m.uncalled call)
  intro m event
  cases event <;> rfl

theorem reads_uncalled (n : Nat) (cb : CapCb κ τ) (act : SessionAct κ τ)
    (m : Module κ) : (m.uncalled call).reads n cb act = m.reads n cb act := by
  cases act <;> rfl

omit [DecidableEq κ] in
theorem shutdown_uncalled {m m' : Module κ} {other : Nat}
    {made : List ModuleEvent} (different : other ≠ call)
    (step : m.shutdown other = some (m', made)) :
    (m.uncalled call).shutdown other = some (m'.uncalled call, made) := by
  have same : (m.uncalled call).shutdowns other = m.shutdowns other :=
    Function.update_of_ne different _ _
  have apart (stage : Shutdown) :
      Function.update (m.uncalled call).shutdowns other stage =
        Function.update (Function.update m.shutdowns other stage) call
          .notCalled :=
    Function.update_comm (Ne.symm different) _ _ _
  cases shutdown_cases step with
  | close fresh =>
      simp only [Module.shutdown, same, fresh, Module.shutdownBegin, apart]
      rfl
  | refuse begun busy =>
      simp only [Module.shutdown, same, begun, if_pos busy, apart]
      rfl
  | unload begun idle =>
      simp only [Module.shutdown, same, begun, if_neg (Int.not_lt.mpr idle),
        apart]
      rfl

/-- What is not of the unload does not depend on it. -/
theorem step_without (other : ofUnload call label = false)
    (step : (sessions κ τ config).machine.step s label = some (next, made)) :
    (sessions κ τ config).machine.step (without call s) label =
      some (without call next,
        made.filter fun event => !endsUnload call event) := by
  cases Family.step_cases step with
  | @part n act after events reads taken =>
      have seen : (events.map (.part n)).filter
          (fun event => !endsUnload call event) = events.map (.part n) := by
        apply List.filter_eq_self.mpr
        intro event member
        obtain ⟨inside, _, rfl⟩ := List.mem_map.mp member
        rfl
      rw [seen]
      have moved : (sessions κ τ config).machine.step (without call s)
          (.part n act) = _ :=
        Family.step_of_part ((reads_uncalled n _ act s.shared).trans reads)
          taken
      rw [moved]
      exact congrArg (fun shared => some (Family.State.mk shared _, _))
        (writes_uncalled n events s.shared)
  | @common act shared events taken =>
      cases act with
      | outside act =>
          simp only [sessions, Module.step] at taken
          split at taken <;> cases taken
          rename_i channel outside
          have moved : (sessions κ τ config).common (s.shared.uncalled call)
              (.outside act) = some (Module.uncalled
                { s.shared with channel := channel } call, []) := by
            simp only [sessions, Module.step, Module.uncalled, outside]
          have stepped : (sessions κ τ config).machine.step (without call s)
              (.common (.outside act)) = _ := Family.step_of_common moved
          exact stepped
      | shutdown call' =>
          have different : call' ≠ call := of_decide_eq_false other
          have unseen : (events.map .common).filter
              (fun event : Family.Event (SessionEvent κ τ) ModuleEvent =>
                !endsUnload call event) = events.map .common := by
            cases shutdown_cases taken <;> simp [endsUnload, different]
          rw [unseen]
          exact Family.step_of_common (shutdown_uncalled different taken)

/-- The unload closes a gate, and does nothing to one that is closed. -/
theorem without_unload (shut : s.shared.accepting = false)
    (own : ofUnload call label = true)
    (step : (sessions κ τ config).machine.step s label = some (next, made)) :
    without call next = without call s ∧
      (made.filter fun event => !endsUnload call event) = [] := by
  cases Family.step_cases step with
  | part => cases own
  | @common act shared events taken =>
      cases act with
      | outside => cases own
      | shutdown other =>
          have same : other = call := of_decide_eq_true own
          subst same
          cases shutdown_cases taken with
          | close fresh =>
              refine ⟨?_, rfl⟩
              simp [without, Module.uncalled, Function.update_idem, shut]
          | refuse | unload =>
              refine ⟨?_, by simp [endsUnload]⟩
              simp [without, Module.uncalled, Function.update_idem]

theorem unnoticed_of_shut (uncalled : s.shared.shutdowns call = .notCalled)
    (shut : s.shared.accepting = false) : Unnoticed config s call := by
  have unchanged : without call s = s := by
    have same : Function.update s.shared.shutdowns call .notCalled =
        s.shared.shutdowns := by
      rw [← uncalled]
      exact Function.update_eq_self _ _
    simp only [without, Module.uncalled, same]
  intro labels trace final run _
  have erased := run.erase (fun label => !ofUnload call label)
    (fun event => !endsUnload call event) (without call)
    (fun state => state.shared.accepting = false) shut
    (fun held step => shut_of_step held step)
    (fun kept step => step_without (by simpa using kept) step)
    (fun held dropped step => without_unload held (by simpa using dropped) step)
  rw [unchanged] at erased
  exact erased

/-- The unload on its own. -/
theorem exists_refusal (uncalled : s.shared.shutdowns call = .notCalled)
    (busy : 0 < s.shared.activeStreamers) :
    ∃ final, (sessions κ τ config).machine.Run anyStep s
        [.common (.shutdown call), .common (.shutdown call)]
        [.common (.refused call)] final ∧
      final.shared.accepting = false := by
  let closed : Module κ :=
    { s.shared with
      accepting := false
      shutdowns := Function.update s.shared.shutdowns call
        (.begun s.shared.activeStreamers) }
  let refused : Module κ :=
    { closed with
      shutdowns := Function.update closed.shutdowns call (.returned false) }
  have begins : s.shared.shutdown call = some (closed, []) := by
    simp only [Module.shutdown, uncalled, Module.shutdownBegin]
    rfl
  have begun : closed.shutdowns call = .begun s.shared.activeStreamers :=
    Function.update_self _ _ _
  have refuses : closed.shutdown call = some (refused, [.refused call]) := by
    simp only [Module.shutdown, begun, if_pos busy]
    rfl
  have first : (sessions κ τ config).machine.step s
      (.common (.shutdown call)) = _ := Family.step_of_common begins
  have second : (sessions κ τ config).machine.step ⟨closed, s.parts⟩
      (.common (.shutdown call)) = _ := Family.step_of_common refuses
  exact ⟨⟨refused, s.parts⟩, (Machine.Run.nil.snoc rfl first).snoc rfl second,
    rfl⟩

theorem noticed_of_accepting (uncalled : s.shared.shutdowns call = .notCalled)
    (busy : 0 < s.shared.activeStreamers)
    (accepting : s.shared.accepting = true) : ¬ Unnoticed config s call := by
  intro unnoticed
  obtain ⟨final, run, shut⟩ := exists_refusal uncalled busy
  have erased := unnoticed _ _ final run List.mem_cons_self
  have empty : ([.common (.shutdown call), .common (.shutdown call)] :
      List (Family.Act (SessionAct κ τ) (ModuleAct κ))).filter
        (fun label => !ofUnload call label) = [] := by
    simp [ofUnload]
  rw [empty] at erased
  -- without the unload nothing happens, and the gate is open
  have same := erased.still
  rw [← same] at accepting
  have closed : (without call final).shared.accepting = false := shut
  rw [accepting] at closed
  cases closed

/-- A refused unload goes unnoticed just when an earlier one has closed the
gate. -/
theorem refused_unload_unnoticed (config : Config)
    {s : Family.State (Module κ) (CapCb κ τ)} {call : Nat}
    (uncalled : s.shared.shutdowns call = .notCalled)
    (busy : 0 < s.shared.activeStreamers) :
    Unnoticed config s call ↔ s.shared.accepting = false := by
  constructor
  · intro unnoticed
    by_contra accepting
    rw [Bool.not_eq_false] at accepting
    exact noticed_of_accepting uncalled busy accepting unnoticed
  · exact unnoticed_of_shut uncalled

/-- The second unload of a run is refused as well, and changes nothing. -/
theorem refused_unload_unnoticed_of_second :
    ∃ s, (sessions Nat Nat ⟨4, 2⟩).machine.Reachable s ∧
      0 < s.shared.activeStreamers ∧ Unnoticed ⟨4, 2⟩ s 1 := by
  have executed : ((sessions Nat Nat ⟨4, 2⟩).machine.exec anyStep
      (sessions Nat Nat ⟨4, 2⟩).machine.initial
      (startsSession 0 7 true ++
        [.common (.shutdown 0), .common (.shutdown 0)])).map
      (fun outcome => decide
        (outcome.1.shared.shutdowns 1 = .notCalled ∧
          0 < outcome.1.shared.activeStreamers ∧
          outcome.1.shared.accepting = false)) = some true := by
    decide
  obtain ⟨s, trace, run, observed⟩ := Machine.exists_run_of_exec _ executed
  obtain ⟨uncalled, busy, shut⟩ := of_decide_eq_true observed
  have iff := refused_unload_unnoticed ⟨4, 2⟩ uncalled busy
  exact ⟨s, ⟨_, trace, run⟩, busy, iff.mpr shut⟩

/-- One session is active when the unload is refused; the start that comes next
is refused at the gate, and without the unload it is counted. -/
theorem refused_unload_noticed :
    (∃ s, (sessions Nat Nat ⟨4, 2⟩).machine.Reachable s ∧
      s.shared.shutdowns 0 = .notCalled ∧ 0 < s.shared.activeStreamers ∧
      ¬ Unnoticed ⟨4, 2⟩ s 0) ∧
    (∃ trace s, (sessions Nat Nat ⟨4, 2⟩).machine.Run anyStep
      (sessions Nat Nat ⟨4, 2⟩).machine.initial
      (startsSession 0 7 true ++
        [.common (.shutdown 0), .common (.shutdown 0),
          .part 1 (.control (.callStart 8)), .part 1 (.control (.look false)),
          .part 1 (.init true true), .part 1 (.init false true)]) trace s ∧
      .common (.refused 0) ∈ trace ∧
      (s.parts 1).life.start = .returned false) ∧
    ∃ trace s, (sessions Nat Nat ⟨4, 2⟩).machine.Run anyStep
      (sessions Nat Nat ⟨4, 2⟩).machine.initial
      (startsSession 0 7 true ++
        [.part 1 (.control (.callStart 8)), .part 1 (.control (.look false)),
          .part 1 (.init true true), .part 1 (.init true true)]) trace s ∧
      (s.parts 1).life.start = .initializing .counted := by
  refine ⟨?_, ?_, ?_⟩
  · have executed : ((sessions Nat Nat ⟨4, 2⟩).machine.exec anyStep
        (sessions Nat Nat ⟨4, 2⟩).machine.initial
        (startsSession 0 7 true)).map
        (fun outcome => decide
          (outcome.1.shared.shutdowns 0 = .notCalled ∧
            0 < outcome.1.shared.activeStreamers ∧
            outcome.1.shared.accepting = true)) = some true := by
      decide
    obtain ⟨s, trace, run, observed⟩ := Machine.exists_run_of_exec _ executed
    obtain ⟨uncalled, busy, accepting⟩ := of_decide_eq_true observed
    exact ⟨s, ⟨_, trace, run⟩, uncalled, busy,
      noticed_of_accepting uncalled busy accepting⟩
  · have executed : ((sessions Nat Nat ⟨4, 2⟩).machine.exec anyStep
        (sessions Nat Nat ⟨4, 2⟩).machine.initial
        (startsSession 0 7 true ++
          [.common (.shutdown 0), .common (.shutdown 0),
            .part 1 (.control (.callStart 8)),
            .part 1 (.control (.look false)), .part 1 (.init true true),
            .part 1 (.init false true)])).map
        (fun outcome => decide
          (.common (.refused 0) ∈ outcome.2 ∧
            (outcome.1.parts 1).life.start = .returned false)) =
          some true := by
      decide
    obtain ⟨s, trace, run, observed⟩ := Machine.exists_run_of_exec _ executed
    exact ⟨trace, s, run, of_decide_eq_true observed⟩
  · have executed : ((sessions Nat Nat ⟨4, 2⟩).machine.exec anyStep
        (sessions Nat Nat ⟨4, 2⟩).machine.initial
        (startsSession 0 7 true ++
          [.part 1 (.control (.callStart 8)),
            .part 1 (.control (.look false)), .part 1 (.init true true),
            .part 1 (.init true true)])).map
        (fun outcome => decide
          ((outcome.1.parts 1).life.start = .initializing .counted)) =
          some true := by
      decide
    obtain ⟨s, trace, run, observed⟩ := Machine.exists_run_of_exec _ executed
    exact ⟨trace, s, run, of_decide_eq_true observed⟩

end DrachtioModules.Aws

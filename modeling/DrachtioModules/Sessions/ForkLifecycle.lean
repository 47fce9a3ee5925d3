import DrachtioModules.Sessions.Disposal

/-!
# The life of a mod_audio_fork pipe

`start_capture` connects its pipe last, through the `pAudioPipe` of its
`private_t`; a stop that comes in between has handed the pipe to the reaper and
left that pointer null.  Where no stop comes in between, no start stores its bug
late or over another one, and no stop goes on with another bug than the one it
resolved, every pipe is disposed of exactly once and every pipe a reaper waits
for is connected.
-/

namespace DrachtioModules.Sessions

def disposes (s : State) (act : Act) : Bool :=
  storesInTime s act &&
    match act with
    | .cleanup caller => rechecksOwn s caller && handsConnected s caller
    | _ => true

/-- What becomes of the connect of each start. -/
structure Joined (trace : List Event) (c : Control) : Prop where
  never : ∀ n, .connectedNull n ∉ trace
  returned : ∀ n, c.starts n = .returned true → .connected n ∈ trace
  handed : ∀ n, .handed n ∈ trace →
    c.starts n = .connecting ∨ c.starts n = .returned true

theorem joined_fresh : Joined [] .fresh := by
  constructor <;> simp [Control.fresh]

/-- Events that hand over nothing and connect through no null pointer. -/
def Event.joins : Event → Bool
  | .handed _ | .connectedNull _ => false
  | _ => true

theorem Joined.extend {trace events : List Event} {c c' : Control}
    (joined : Joined trace c)
    (quiet : ∀ event ∈ events, event.joins = true)
    (returned : ∀ n, c'.starts n = .returned true →
      c.starts n = .returned true ∨ .connected n ∈ events)
    (handed : ∀ n, c.starts n = .connecting ∨ c.starts n = .returned true →
      c'.starts n = .connecting ∨ c'.starts n = .returned true) :
    Joined (trace ++ events) c' := by
  refine ⟨?_, ?_, ?_⟩
  · intro n member
    rcases List.mem_append.mp member with before | now
    · exact joined.never n before
    · have here := quiet _ now
      cases here
  · intro n stage
    rcases returned n stage with before | now
    · exact List.mem_append_left _ (joined.returned n before)
    · exact List.mem_append_right _ now
  · intro n member
    rcases List.mem_append.mp member with before | now
    · exact handed n (joined.handed n before)
    · have here := quiet _ now
      cases here

theorem Joined.move {trace events : List Event} {c c' : Control}
    (joined : Joined trace c) {n : Nat} {stage : StartStage}
    (starts : c'.starts = Function.update c.starts n stage)
    (before : c.starts n ≠ .connecting ∧ c.starts n ≠ .returned true)
    (after : stage ≠ .returned true)
    (quiet : ∀ event ∈ events, event.joins = true) :
    Joined (trace ++ events) c' := by
  refine joined.extend quiet ?_ ?_
  · intro m here
    rw [starts] at here
    rcases updated_entry here with ⟨_, now⟩ | ⟨_, same⟩
    · exact (after now).elim
    · exact .inl same
  · intro m here
    have different : m ≠ n := by
      rintro rfl
      exact here.elim before.1 before.2
    rw [starts, Function.update_of_ne different]
    exact here

theorem Joined.start {trace events : List Event} {s s' : State} {n : Nat}
    {init : Init} {ok : Bool} (joined : Joined trace s.control)
    (kept : Kept s.control)
    (step : stepStart .audioFork s n init ok = some (s', events)) :
    Joined (trace ++ events) s'.control := by
  obtain ⟨_, stage, taken⟩ := stepStart_cases step
  cases taken with
  | reachNull absent =>
      have present := kept.relied n (by rw [stage]; rfl)
      rw [absent] at present
      cases present
  | connect =>
      refine joined.extend (by simp [Event.joins]) ?_ ?_
      · intro m here
        rcases updated_entry here with ⟨same, _⟩ | ⟨_, before⟩
        · right
          simp [same]
        · exact .inl before
      · intro m here
        by_cases same : m = n
        · subst same
          right
          simp [State.setPipe, Control.setStart]
        · dsimp only [State.setPipe, Control.setStart]
          rw [Function.update_of_ne same]
          exact here
  | _ =>
      exact joined.move rfl (by simp [stage]) (by simp) (by simp [Event.joins])

theorem StartStage.connects {stage : StartStage} (stored : stage.stored = true)
    (past : stage ≠ .published) : stage = .connecting ∨ stage = .returned true := by
  cases stage with
  | published => exact (past rfl).elim
  | connecting => exact .inl rfl
  | returned success =>
      cases success with
      | true => exact .inr rfl
      | false => cases stored
  | _ => cases stored

/-- A cleanup hands over only pipes whose start has got hold of them. -/
theorem Joined.cleanup {trace events : List Event} {s s' : State}
    {caller : Caller} (joined : Joined trace s.control) (owned : Owned s.control)
    (connected : ∀ bug held,
      (s.control.cleanups caller).stage = .handing bug held →
      s.control.starts bug ≠ .published)
    (step : stepCleanup .audioFork s caller = some (s', events)) :
    Joined (trace ++ events) s'.control := by
  obtain ⟨_, stage, taken⟩ := stepCleanup_cases step
  cases taken with
  | @hand bug held present =>
      have stored := owned.resolved caller bug (by rw [stage]; rfl)
      have past := connected bug held stage
      have reached := StartStage.connects stored past
      refine ⟨?_, ?_, ?_⟩
      · intro n member
        have before := joined.never n
        simp [before] at member
      · intro n here
        exact List.mem_append_left _ (joined.returned n here)
      · intro n member
        rcases List.mem_append.mp member with before | now
        · exact joined.handed n before
        · have same : n = bug := by simpa using now
          exact same ▸ reached
  | _ =>
      exact joined.extend (by simp [Event.joins]) (fun _ => .inl) (fun _ => id)

theorem Event.joins_of_ofPipe {events : List Event}
    (ofPipe : ∀ event ∈ events, event.ofPipe = true) :
    ∀ event ∈ events, event.joins = true := by
  intro event member
  have here := ofPipe event member
  cases event <;> first | rfl | cases here

theorem Joined.step {parse : AudioFork.Bytes → Option Deepgram.CJson}
    {trace events : List Event} {s s' : State} {act : Act}
    (joined : Joined trace s.control) (disposal : Disposal trace s)
    (connected : ∀ caller, act = .cleanup caller → ∀ bug held,
      (s.control.cleanups caller).stage = .handing bug held →
      s.control.starts bug ≠ .published)
    (step : (machine ⟨.audioFork, parse⟩).step s act = some (s', events)) :
    Joined (trace ++ events) s'.control := by
  simp only [machine, Sessions.step] at step
  cases act with
  | callStart metadata =>
      have absent := disposal.owned.uncalled s.control.idxCallCount
        (Nat.le_refl _)
      cases step
      exact joined.move rfl (by simp [absent]) (by simp) (by simp)
  | start n init ok => exact joined.start disposal.kept step
  | callStop call text =>
      dsimp only at step
      split at step <;> cases step
      exact joined.extend (by simp) (fun _ => .inl) (fun _ => id)
  | hangup bug =>
      dsimp only at step
      split at step <;> cases step
      exact joined.extend (by simp) (fun _ => .inl) (fun _ => id)
  | cleanup caller =>
      exact joined.cleanup disposal.owned (connected caller rfl) step
  | reaper n =>
      obtain ⟨same, ofPipe⟩ := stepReaper_control step
      exact joined.extend (Event.joins_of_ofPipe ofPipe)
        (by rw [same]; exact fun _ => .inl) (by rw [same]; exact fun _ => id)
  | lws n report =>
      obtain ⟨same, ofPipe⟩ := stepLws_control step
      exact joined.extend (Event.joins_of_ofPipe ofPipe)
        (by rw [same]; exact fun _ => .inl) (by rw [same]; exact fun _ => id)
  | notice n located =>
      obtain ⟨same, ofPipe⟩ := stepNotice_control step
      exact joined.extend (Event.joins_of_ofPipe ofPipe)
        (by rw [same]; exact fun _ => .inl) (by rw [same]; exact fun _ => id)

/-- What the lifecycle promises of a run: `connect()` never goes through a null
pointer, and once everything has returned each created pipe was disposed of
exactly once and each pipe with a reaper was connected. -/
def LivesWell (trace : List Event) (s : State) : Prop :=
  (∀ n, .connectedNull n ∉ trace) ∧
    (Quiescent s → ∀ n,
      (.created n ∈ trace →
        trace.count (.handed n) + trace.count (.deleted n) = 1) ∧
      (.handed n ∈ trace → .connected n ∈ trace))

theorem fork_pipe_lifecycle (parse : AudioFork.Bytes → Option Deepgram.CJson)
    {labels : List Act} {trace : List Event} {s : State}
    (run : (machine ⟨.audioFork, parse⟩).Run disposes
      (machine ⟨.audioFork, parse⟩).initial labels trace s) :
    LivesWell trace s := by
  have whole : Disposal trace s ∧ Joined trace s.control := by
    refine run.induct (fun seen state =>
      Disposal seen state ∧ Joined seen state.control)
      ⟨disposal_fresh, joined_fresh⟩ ?_
    intro seen state label next events holds guarded step
    obtain ⟨inTime, others⟩ := Bool.and_eq_true_iff.mp guarded
    have checked : ∀ caller, label = .cleanup caller → ∀ bug held,
        (state.control.cleanups caller).stage = .locked bug →
        recheck .audioFork state.control.slot bug = some held →
        held = bug := by
      rintro caller rfl
      exact recheck_own (Bool.and_eq_true_iff.mp others).1
    have connected : ∀ caller, label = .cleanup caller → ∀ bug held,
        (state.control.cleanups caller).stage = .handing bug held →
        state.control.starts bug ≠ .published := by
      rintro caller rfl bug held stage
      have handed := (Bool.and_eq_true_iff.mp others).2
      simpa [handsConnected, stage] using handed
    exact ⟨holds.1.step inTime checked connected step,
      holds.2.step holds.1 connected step⟩
  obtain ⟨disposal, joined⟩ := whole
  refine ⟨joined.never, ?_⟩
  intro quiescent n
  refine ⟨disposal.exactlyOnce quiescent, ?_⟩
  intro handed
  rcases joined.handed n handed with stage | stage
  · rcases quiescent.starts n with absent | ⟨success, returned⟩
    · rw [stage] at absent
      cases absent
    · rw [stage] at returned
      cases returned
  · exact joined.returned n stage

/-- A start whose bug is refused, and one that is stopped and reaped. -/
theorem fork_pipe_lifecycle_of_stop :
    ∃ labels trace s,
      (machine ⟨.audioFork, fun _ => none⟩).Run disposes .fresh labels trace s ∧
        Event.deleted 0 ∈ trace ∧ Event.handed 1 ∈ trace ∧
        LivesWell trace s := by
  let config : Config := ⟨.audioFork, fun _ => none⟩
  let labels : List Act :=
    [Act.callStart []] ++ List.replicate 3 (Act.start 0 .success true) ++
      List.replicate 3 (Act.start 0 .success false) ++ startsFork 1 ++
      [Act.callStop 0 none] ++ cleans (.stop 0) 8 ++ cleans (.close 1) 1 ++
      cleans (.stop 0) 1
  have executed : ((machine config).exec disposes .fresh labels).map
      (fun outcome => decide (Event.deleted 0 ∈ outcome.2) &&
        decide (Event.handed 1 ∈ outcome.2)) = some true := by
    decide
  obtain ⟨s, trace, run, both⟩ := Machine.exists_run_of_exec _ executed
  obtain ⟨deleted, handed⟩ := Bool.and_eq_true_iff.mp both
  exact ⟨labels, trace, s, run, by simpa using deleted, by simpa using handed,
    fork_pipe_lifecycle (fun _ => none) run⟩

/-- A stop between `switch_channel_set_private` and `fork_session_connect`. -/
theorem fork_connects_null :
    ¬ ∀ (parse : AudioFork.Bytes → Option Deepgram.CJson) (labels : List Act)
      (trace : List Event) (s : State),
      (machine ⟨.audioFork, parse⟩).Run anyStep
        (machine ⟨.audioFork, parse⟩).initial labels trace s →
        LivesWell trace s := by
  intro always
  let config : Config := ⟨.audioFork, fun _ => none⟩
  let labels : List Act :=
    [Act.callStart []] ++ List.replicate 5 (Act.start 0 .success true) ++
      [Act.callStop 0 none] ++ cleans (.stop 0) 7 ++ [Act.start 0 .success true]
  have executed : ((machine config).exec anyStep .fresh labels).map
      (fun outcome => decide (Event.connectedNull 0 ∈ outcome.2)) =
        some true := by
    decide
  obtain ⟨s, trace, run, null⟩ := Machine.exists_run_of_exec _ executed
  have never := (always (fun _ => none) labels trace s run).1 0
  exact never (by simpa using null)

end DrachtioModules.Sessions

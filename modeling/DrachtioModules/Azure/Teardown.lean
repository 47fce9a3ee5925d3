import DrachtioModules.Azure.Terminal

/-!
# Tearing a GStreamer down

`finish()` disconnects every handler and awaits the end of the recognition
before its caller deletes the GStreamer, unless it finds `m_finished` set.  A
cancellation, a failed write or a failed connect sets that flag without doing
any of the teardown.

Disconnecting a handler keeps the SDK from calling it again; a callback that is
under way is waited for by `StopContinuousRecognitionAsync().get()`.
-/

namespace DrachtioModules.Azure

/-- The SDK makes a callback, or goes on with one. -/
def Act.callback : Act → Bool
  | .signal _ | .handler _ _ _ => true
  | _ => false

/-- Every handler is disconnected, a recognition that was started has been
stopped and that stop awaited, and no callback can run. -/
structure TornDown (config : Config) (s : State) : Prop where
  disconnected : ∀ signal, s.registered signal = false
  stopped : s.started = true → s.stopped = true
  silent : ∀ act, act.callback = true → (machine config).step s act = none

/-- What the SDK promises: the stop of the recognition that `finish()` awaits is
not over while a callback is under way. -/
def awaitsCallbacks (s : State) : Act → Bool
  | .teardown =>
      s.teardown != .stopping ||
        (List.range s.dispatched).all fun n => !(s.handlers n).underWay
  | _ => true

/-- `finish()` is entered with `m_finished` not set. -/
def finishesFirst (s : State) : Act → Bool
  | .teardown => s.teardown != .entered || !s.finished
  | _ => true

/-- The constructor's handlers are connected before the teardown, and the
GStreamer has changed hands once it has begun. -/
structure Held (s : State) : Prop where
  handed : s.teardown ≠ .none → s.phase = .handed
  connected : s.teardown = .none ∨ s.teardown = .entered ∨
    s.teardown = .passed → s.registered .sessionStopped = true

theorem held_fresh {config : Config} : Held (.fresh config) := by
  constructor <;> simp [State.fresh]

/-- Nothing the teardown depends on changes. -/
structure Same (s s' : State) : Prop where
  teardown : s'.teardown = s.teardown
  registered : s'.registered = s.registered
  started : s'.started = s.started
  stopped : s'.stopped = s.stopped
  phase : s'.phase = s.phase

/-- A step before the teardown, or the one that hands the GStreamer over. -/
structure Before (s s' : State) : Prop where
  teardown : s.teardown = .none
  registered : s'.registered .sessionStopped = s.registered .sessionStopped
  next : s'.teardown = .none ∨ s'.teardown = .entered ∧ s'.phase = .handed

theorem Held.owned {s : State} (held : Held s) (owned : s.phase ≠ .handed) :
    s.teardown = .none := by
  by_contra begun
  exact owned (held.handed begun)

theorem atWork_attached {s : State} (working : atWork s = true) :
    s.phase ≠ .handed := by
  simp only [atWork, Bool.and_eq_true, decide_eq_true_eq] at working
  simp [working.1]

theorem stepMedia_same {s s' : State} {ok located : Bool} {events : List Event}
    (step : stepMedia s ok located = some (s', events)) : Same s s' := by
  obtain ⟨_, _, taken⟩ := stepMedia_cases step
  cases taken with
  | stage =>
      constructor <;> dsimp only [stage] <;> split <;> rfl
  | _ => constructor <;> rfl

theorem stepHandler_same {s s' : State} {n : Nat} {ok located : Bool}
    {events : List Event}
    (step : stepHandler s n ok located = some (s', events)) : Same s s' := by
  obtain ⟨_, _, taken⟩ := stepHandler_cases step
  cases taken <;> constructor <;> rfl

theorem step_outside {config : Config} {s s' : State} {act : Act}
    {events : List Event} (held : Held s) (outside : act ≠ .teardown)
    (step : (machine config).step s act = some (s', events)) :
    Before s s' ∨ Same s s' := by
  simp only [machine, Azure.step] at step
  cases act with
  | start outcome =>
      left
      obtain ⟨next, emitted, threw, result, taken⟩ := connect_cases s outcome
      simp only [result] at step
      split at step
      · rename_i enabled
        have unowned := held.owned (by simp [enabled.1])
        cases taken <;> cases step
        · exact ⟨unowned, rfl, .inl unowned⟩
        · exact ⟨unowned, rfl, .inl unowned⟩
        · exact ⟨unowned, rfl, .inr ⟨rfl, rfl⟩⟩
      · cases step
  | attach =>
      left
      dsimp only at step
      split at step <;> cases step
      rename_i enabled
      have unowned := held.owned (by simp [enabled.1])
      exact ⟨unowned, rfl, .inl unowned⟩
  | orphan =>
      left
      dsimp only at step
      split at step <;> cases step
      rename_i enabled
      have unowned := held.owned (by simp [enabled.1])
      exact ⟨unowned, rfl, .inr ⟨rfl, rfl⟩⟩
  | vad outcome =>
      left
      obtain ⟨next, emitted, threw, result, taken⟩ := connect_cases s outcome
      simp only [result] at step
      split at step
      · rename_i enabled
        have unowned := held.owned (atWork_attached enabled.1)
        cases taken <;> cases step <;> exact ⟨unowned, rfl, .inl unowned⟩
      · cases step
  | write data =>
      right
      dsimp only at step
      split at step
      · split at step <;> cases step <;> constructor <;> rfl
      · cases step
  | media ok located => exact .inr (stepMedia_same step)
  | signal callback =>
      right
      dsimp only at step
      split at step <;> cases step
      constructor <;> rfl
  | handler n ok located => exact .inr (stepHandler_same step)
  | stop =>
      left
      dsimp only at step
      split at step <;> cases step
      rename_i working
      have unowned := held.owned (atWork_attached working)
      exact ⟨unowned, rfl, .inr ⟨rfl, rfl⟩⟩
  | teardown => exact (outside rfl).elim

/-- No handler is connected, and no callback is under way. -/
structure AtRest (s : State) : Prop where
  disconnected : ∀ signal, s.registered signal = false
  stopped : s.started = true → s.stopped = true
  returned : ∀ n, (s.handlers n).underWay = false

theorem stepHandler_underWay {s s' : State} {n : Nat} {ok located : Bool}
    {events : List Event}
    (step : stepHandler s n ok located = some (s', events)) :
    (s.handlers n).underWay = true := by
  obtain ⟨_, stage, taken⟩ := stepHandler_cases step
  rw [stage]
  cases taken <;> rfl

theorem AtRest.silent {config : Config} {s : State} (atRest : AtRest s)
    {act : Act} (calls : act.callback = true) :
    (machine config).step s act = none := by
  cases act with
  | signal callback =>
      have disconnected := atRest.disconnected callback.signal
      simp [machine, Azure.step, disconnected]
  | handler n ok located =>
      cases taken : stepHandler s n ok located with
      | none => simp [machine, Azure.step, taken]
      | some outcome =>
          have underWay := stepHandler_underWay taken
          rw [atRest.returned n] at underWay
          cases underWay
  | _ => cases calls

theorem AtRest.tornDown {config : Config} {s : State} (atRest : AtRest s) :
    TornDown config s :=
  ⟨atRest.disconnected, atRest.stopped, fun _ => atRest.silent⟩

/-- Only a callback changes what the callbacks do. -/
theorem step_handlers {config : Config} {s s' : State} {act : Act}
    {events : List Event} (other : act.callback = false)
    (step : (machine config).step s act = some (s', events)) :
    s'.handlers = s.handlers := by
  simp only [machine, Azure.step] at step
  cases act with
  | start outcome | vad outcome =>
      obtain ⟨next, emitted, threw, result, taken⟩ := connect_cases s outcome
      simp only [result] at step
      split at step
      · cases taken <;> cases step <;> rfl
      · cases step
  | attach | orphan | stop =>
      dsimp only at step
      split at step <;> cases step
      rfl
  | write data =>
      dsimp only at step
      split at step
      · split at step <;> cases step <;> rfl
      · cases step
  | media ok located =>
      obtain ⟨_, _, taken⟩ := stepMedia_cases step
      cases taken with
      | stage => dsimp only [stage]; split <;> rfl
      | _ => rfl
  | signal callback | handler n ok located => cases other
  | teardown =>
      obtain ⟨_, _, taken⟩ := stepTeardown_cases step
      cases taken <;> rfl

/-- The teardown does everything, as far as it has got. -/
def Proper (s : State) : Prop :=
  match s.teardown with
  | .none | .entered | .passed => True
  | .disconnecting remaining =>
      ∀ signal, s.registered signal = true → signal ∈ remaining
  | .stopping => ∀ signal, s.registered signal = false
  | .deleting | .deleted => AtRest s

/-- `finish()` returned at once. -/
structure Early (s : State) : Prop where
  teardown : s.teardown = .deleting ∨ s.teardown = .deleted
  connected : s.registered .sessionStopped = true

theorem mem_signals (signal : Signal) : signal ∈ signals := by
  cases signal <;> decide

theorem Held.outside {s s' : State} (held : Held s)
    (outside : Before s s' ∨ Same s s') : Held s' := by
  rcases outside with before | same
  · constructor
    · intro begun
      rcases before.next with idle | ⟨_, handed⟩
      · exact (begun idle).elim
      · exact handed
    · intro _
      rw [before.registered]
      exact held.connected (.inl before.teardown)
  · constructor
    · rw [same.teardown, same.phase]
      exact held.handed
    · rw [same.teardown, same.registered]
      exact held.connected

theorem Proper.outside {config : Config} {s s' : State} {act : Act}
    {events : List Event} (proper : Proper s)
    (outside : Before s s' ∨ Same s s')
    (step : (machine config).step s act = some (s', events)) : Proper s' := by
  rcases outside with before | same
  · unfold Proper
    rcases before.next with idle | ⟨entered, _⟩
    · rw [idle]
      trivial
    · rw [entered]
      trivial
  · have atRest : AtRest s → AtRest s' := by
      intro atRest
      have other : act.callback = false := by
        cases callback : act.callback with
        | false => rfl
        | true =>
            rw [atRest.silent callback] at step
            cases step
      constructor
      · rw [same.registered]
        exact atRest.disconnected
      · rw [same.started, same.stopped]
        exact atRest.stopped
      · rw [step_handlers other step]
        exact atRest.returned
    unfold Proper at proper ⊢
    rw [same.teardown, same.registered]
    cases stage : s.teardown <;> rw [stage] at proper <;>
      first | exact proper | exact atRest proper

theorem Early.outside {s s' : State} (early : Early s)
    (outside : Before s s' ∨ Same s s') : Early s' := by
  rcases outside with before | same
  · rcases early.teardown with stage | stage <;>
      rw [before.teardown] at stage <;> cases stage
  · constructor
    · rw [same.teardown]
      exact early.teardown
    · rw [same.registered]
      exact early.connected

theorem Held.advance {s s' : State} {events : List Event} (held : Held s)
    (step : stepTeardown s = some (s', events)) : Held s' := by
  obtain ⟨_, stage, taken⟩ := stepTeardown_cases step
  have handed : s.phase = .handed := by
    apply held.handed
    rw [stage]
    cases taken <;> simp
  cases taken with
  | skip | pass =>
      have connected := held.connected (.inr (.inl stage))
      exact ⟨fun _ => handed, fun _ => connected⟩
  | finish | disconnected | disconnect | stop | delete =>
      exact ⟨fun _ => handed, by simp⟩

/-- The stop of the recognition is awaited. -/
theorem WellFormed.returned {s : State} (wellFormed : WellFormed s)
    (awaited : awaitsCallbacks s .teardown = true)
    (stopping : s.teardown = .stopping) (n : Nat) :
    (s.handlers n).underWay = false := by
  simp only [awaitsCallbacks, stopping, bne_self_eq_false, Bool.false_or,
    List.all_eq_true, List.mem_range, Bool.not_eq_true'] at awaited
  by_cases called : n < s.dispatched
  · exact awaited n called
  · rw [wellFormed.beyond n (by omega)]
    rfl

theorem Proper.advance {s s' : State} {events : List Event} (proper : Proper s)
    (wellFormed : WellFormed s)
    (awaited : awaitsCallbacks s .teardown = true)
    (first : finishesFirst s .teardown = true)
    (step : stepTeardown s = some (s', events)) : Proper s' := by
  obtain ⟨_, stage, taken⟩ := stepTeardown_cases step
  have returned := wellFormed.returned awaited
  unfold Proper at proper
  rw [stage] at proper
  cases taken with
  | skip finished => simp [finishesFirst, stage, finished] at first
  | pass => trivial
  | finish =>
      intro signal _
      exact mem_signals signal
  | disconnected =>
      intro signal
      by_contra connected
      simp only [Bool.not_eq_false] at connected
      cases proper signal connected
  | disconnect =>
      intro other connected
      rcases updated_entry connected with ⟨_, off⟩ | ⟨different, before⟩
      · cases off
      · exact List.mem_of_ne_of_mem different (proper other before)
  | stop => exact ⟨proper, fun _ => rfl, returned stage⟩
  | delete => exact ⟨proper.disconnected, proper.stopped, proper.returned⟩

theorem Held.early {s s' : State} {events : List Event} (held : Held s)
    (late : finishesFirst s .teardown = false)
    (step : stepTeardown s = some (s', events)) : Early s' := by
  simp only [finishesFirst, Bool.or_eq_false_iff, bne_eq_false_iff_eq,
    Bool.not_eq_false'] at late
  obtain ⟨entered, finished⟩ := late
  have connected := held.connected (.inr (.inl entered))
  obtain ⟨_, stage, taken⟩ := stepTeardown_cases step
  rw [entered] at stage
  subst stage
  cases taken with
  | skip => exact ⟨.inl rfl, connected⟩
  | pass running =>
      rw [running] at finished
      cases finished

theorem Early.advance {s s' : State} {events : List Event} (early : Early s)
    (step : stepTeardown s = some (s', events)) : Early s' := by
  obtain ⟨deleting | deleted, connected⟩ := early
  · obtain ⟨_, stage, taken⟩ := stepTeardown_cases step
    rw [deleting] at stage
    subst stage
    cases taken
    exact ⟨.inr rfl, connected⟩
  · obtain ⟨_, stage, taken⟩ := stepTeardown_cases step
    rw [deleted] at stage
    subst stage
    cases taken

/-- `finish()` is entered with `m_finished` not set, and the SDK keeps its
promise. -/
def tearsDownFirst (s : State) (act : Act) : Bool :=
  awaitsCallbacks s act && finishesFirst s act

theorem proper_or_early {config : Config} {labels : List Act}
    {trace : List Event} {s : State}
    (run : (machine config).Run awaitsCallbacks (machine config).initial labels
      trace s) :
    Held s ∧ WellFormed s ∧
      ((machine config).Run tearsDownFirst (machine config).initial labels trace
          s ∧ Proper s ∨ Early s) := by
  induction run with
  | nil => exact ⟨held_fresh, wellFormed_fresh, .inl ⟨.nil, trivial⟩⟩
  | @snoc labels trace events state next label _ awaited step ih =>
      obtain ⟨held, wellFormed, status⟩ := ih
      have wellFormed' := (step_spec wellFormed step).wellFormed
      by_cases teardown : label = .teardown
      · subst teardown
        have torn : stepTeardown state = some (next, events) := step
        refine ⟨held.advance torn, wellFormed', ?_⟩
        rcases status with ⟨run, proper⟩ | early
        · by_cases first : finishesFirst state .teardown = true
          · left
            have admitted : tearsDownFirst state .teardown = true := by
              rw [tearsDownFirst, awaited, first]
              rfl
            exact ⟨run.snoc admitted step,
              proper.advance wellFormed awaited first torn⟩
          · right
            apply held.early _ torn
            simpa using first
        · exact .inr (early.advance torn)
      · have outside := step_outside held teardown step
        have admitted : tearsDownFirst state label = true := by
          cases label with
          | teardown => exact (teardown rfl).elim
          | _ => rfl
        refine ⟨held.outside outside, wellFormed', ?_⟩
        rcases status with ⟨run, proper⟩ | early
        · exact .inl ⟨run.snoc admitted step, proper.outside outside step⟩
        · exact .inr (early.outside outside)

theorem proper_of_first {config : Config} {labels : List Act}
    {trace : List Event} {s : State}
    (run : (machine config).Run tearsDownFirst (machine config).initial labels
      trace s) : Held s ∧ WellFormed s ∧ Proper s := by
  refine run.invariant
    (fun state => Held state ∧ WellFormed state ∧ Proper state)
    ⟨held_fresh, wellFormed_fresh, trivial⟩ ?_
  intro state label next events holds admitted step
  obtain ⟨held, wellFormed, proper⟩ := holds
  obtain ⟨awaited, first⟩ := Bool.and_eq_true_iff.mp admitted
  have wellFormed' := (step_spec wellFormed step).wellFormed
  by_cases teardown : label = .teardown
  · subst teardown
    exact ⟨held.advance step, wellFormed',
      proper.advance wellFormed awaited first step⟩
  · have outside := step_outside held teardown step
    exact ⟨held.outside outside, wellFormed', proper.outside outside step⟩

/-- A deleted GStreamer was torn down, so that no callback can run against it,
if and only if `finish()` was entered with `m_finished` not set. -/
theorem torn_down_iff (config : Config) {labels : List Act} {trace : List Event}
    {s : State}
    (run : (machine config).Run awaitsCallbacks (machine config).initial labels
      trace s)
    (deleted : s.teardown = .deleted) :
    TornDown config s ↔
      (machine config).Run tearsDownFirst (machine config).initial labels trace
        s := by
  constructor
  · intro tornDown
    obtain ⟨_, _, first | early⟩ := proper_or_early run
    · exact first.1
    · have disconnected := tornDown.disconnected .sessionStopped
      rw [early.connected] at disconnected
      cases disconnected
  · intro first
    have proper := (proper_of_first first).2.2
    unfold Proper at proper
    rw [deleted] at proper
    exact proper.tornDown

/-- A session is started and its start attaches the bug. -/
def startsSession : List Act :=
  [.start .ok, .attach]

/-- `finish()` as far as the delete. -/
def tearsDown (steps : Nat) : List Act :=
  .stop :: List.replicate steps .teardown

/-- A SessionStarted callback is made before the stop and returns during it. -/
theorem torn_down_iff_of_stop :
    ∃ labels trace s,
      (machine ⟨true, false⟩).Run awaitsCallbacks (.fresh ⟨true, false⟩) labels
        trace s ∧ s.teardown = .deleted ∧ s.dispatched = 1 ∧
      Event.stopped ∈ trace ∧
      (TornDown ⟨true, false⟩ s ↔
        (machine ⟨true, false⟩).Run tearsDownFirst (.fresh ⟨true, false⟩) labels
          trace s) := by
  let labels : List Act :=
    startsSession ++ [Act.signal .sessionStarted] ++ tearsDown 10 ++
      [Act.handler 0 true true, .teardown, .teardown]
  have executed : ((machine ⟨true, false⟩).exec awaitsCallbacks
      (.fresh ⟨true, false⟩) labels).map (fun outcome =>
        decide (outcome.1.teardown = .deleted) &&
          (decide (outcome.1.dispatched = 1) &&
            decide (Event.stopped ∈ outcome.2))) = some true := by
    decide
  obtain ⟨s, trace, run, all⟩ := Machine.exists_run_of_exec _ executed
  simp only [Bool.and_eq_true, decide_eq_true_eq] at all
  obtain ⟨deleted, dispatched, stopped⟩ := all
  exact ⟨labels, trace, s, run, deleted, dispatched, stopped,
    torn_down_iff ⟨true, false⟩ run deleted⟩

/-- A cancellation before the stop. -/
theorem deleted_with_handlers_connected :
    ¬ ∀ (config : Config) (labels : List Act) (trace : List Event) (s : State),
      (machine config).Run awaitsCallbacks (machine config).initial labels trace
        s → s.teardown = .deleted → TornDown config s := by
  intro always
  let labels : List Act :=
    startsSession ++ [Act.signal .canceled] ++
      List.replicate 4 (Act.handler 0 true true) ++ tearsDown 2
  have executed : ((machine ⟨true, false⟩).exec awaitsCallbacks
      (.fresh ⟨true, false⟩) labels).map (fun outcome =>
        decide (outcome.1.teardown = .deleted) &&
          outcome.1.registered .recognized) = some true := by
    decide
  obtain ⟨s, trace, run, both⟩ := Machine.exists_run_of_exec _ executed
  obtain ⟨deleted, connected⟩ := Bool.and_eq_true_iff.mp both
  have tornDown := always ⟨true, false⟩ labels trace s run
    (by simpa using deleted)
  rw [tornDown.disconnected] at connected
  cases connected

end DrachtioModules.Azure

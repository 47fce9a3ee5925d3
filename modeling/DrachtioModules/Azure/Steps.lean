import DrachtioModules.Azure.GStreamer

/-!
# The branches of every step of a GStreamer

What the media thread, a callback and the teardown can do, branch by branch,
with what the branch has tested.
-/

namespace DrachtioModules.Azure

open Transcribe (Bytes SimpleBuffer)

inductive MediaStep (s : State) (located : Bool) :
    Media → State → List Event → Prop where
  | direct {data : Bytes} (connected : s.connected = true) :
      MediaStep s located (.checked data) { s with media := .pushing data } []
  | stages {data : Bytes} (unconnected : s.connected = false) :
      MediaStep s located (.checked data) { s with media := .staging data } []
  | late {data : Bytes} (free : audioBufferLocked s = false)
      (connected : s.connected = true) :
      MediaStep s located (.staging data) { s with media := .pushing data } []
  | stage {data : Bytes} (free : audioBufferLocked s = false)
      (unconnected : s.connected = false) :
      MediaStep s located (.staging data)
        { Azure.stage s data with media := .idle } [.accepted data]
  | push {data : Bytes} :
      MediaStep s located (.pushing data) { s with media := .idle }
        [.accepted data, .pushed data]
  | pushFails {data : Bytes} :
      MediaStep s located (.pushing data) { s with media := .failing }
        [.refused data]
  | fail :
      MediaStep s located .failing
        { s with finished := true, media := .notifying } []
  | notify :
      MediaStep s located .notifying { s with media := .idle }
        (reports located .error s.finished)
  | detect :
      MediaStep s located .detected { s with media := .idle }
        [.report .vadDetected false]

theorem stepMedia_cases {s s' : State} {ok located : Bool}
    {events : List Event}
    (step : stepMedia s ok located = some (s', events)) :
    ∃ stage, s.media = stage ∧ MediaStep s located stage s' events := by
  refine ⟨s.media, rfl, ?_⟩
  unfold stepMedia at step
  cases media : s.media with
  | idle => simp [media] at step
  | checked data =>
      simp only [media] at step
      split at step <;> cases step <;> rename_i connected
      · exact .direct connected
      · exact .stages (by simpa using connected)
  | staging data =>
      simp only [media] at step
      split at step
      · cases step
      · rename_i locked
        have free : audioBufferLocked s = false := by simpa using locked
        split at step <;> cases step <;> rename_i connected
        · exact .late free connected
        · exact .stage free (by simpa using connected)
  | pushing data =>
      simp only [media] at step
      split at step <;> cases step
      · exact .push
      · exact .pushFails
  | failing =>
      simp only [media] at step
      cases step
      exact .fail
  | notifying =>
      simp only [media] at step
      cases step
      exact .notify
  | detected =>
      simp only [media] at step
      cases step
      exact .detect

inductive HandlerStep (s : State) (n : Nat) (located : Bool) :
    Handler → State → List Event → Prop where
  | stop {callback : Callback} (finished : s.finished = true) :
      HandlerStep s n located (.called callback)
        (s.setHandler n (.returned false)) []
  | pass {callback : Callback} (running : s.finished = false) :
      HandlerStep s n located (.called callback)
        (s.setHandler n (.tested callback)) []
  -- onSessionStarted
  | miss (unlocated : located = false) :
      HandlerStep s n located (.tested .sessionStarted)
        (s.setHandler n (.returned false)) []
  | drain (free : audioBufferLocked s = false)
      (items : s.audioBuffer.numItems ≠ 0) :
      HandlerStep s n located (.tested .sessionStarted)
        (s.setHandler n .draining) []
  | skip (free : audioBufferLocked s = false)
      (empty : s.audioBuffer.numItems = 0) :
      HandlerStep s n located (.tested .sessionStarted)
        (s.setHandler n .flushing) []
  | drained {audioBuffer : SimpleBuffer}
      (empty : s.audioBuffer.getNextChunk = (none, audioBuffer)) :
      HandlerStep s n located .draining (s.setHandler n .flushing) []
  | push {offset : Nat} {audioBuffer : SimpleBuffer}
      (chunk : s.audioBuffer.getNextChunk = (some offset, audioBuffer)) :
      HandlerStep s n located .draining
        ({ s with audioBuffer := audioBuffer }.setHandler n .draining)
        [.pushed (s.audioBuffer.chunkAt offset)]
  | pushFails {offset : Nat} {audioBuffer : SimpleBuffer}
      (chunk : s.audioBuffer.getNextChunk = (some offset, audioBuffer)) :
      HandlerStep s n located .draining
        ({ s with audioBuffer := audioBuffer }.setHandler n (.failing false)) []
  | keep (done : s.finished = true ∨ s.prebufStaging = []) :
      HandlerStep s n located .flushing (s.setHandler n .publishing) []
  | flush (running : s.finished = false) (pending : s.prebufStaging ≠ []) :
      HandlerStep s n located .flushing (s.setHandler n .publishing)
        [.pushed s.prebufStaging]
  | flushFails (running : s.finished = false) (pending : s.prebufStaging ≠ []) :
      HandlerStep s n located .flushing (s.setHandler n (.failing true)) []
  | fail {flushed : Bool} :
      HandlerStep s n located (.failing flushed)
        ({ s with finished := true }.setHandler n (.notifying flushed)) []
  | notify {flushed : Bool} :
      HandlerStep s n located (.notifying flushed)
        (s.setHandler n (if flushed then .publishing else .flushing))
        (reports located .error s.finished)
  | publish :
      HandlerStep s n located .publishing
        ({ s with
          prebufStaging := []
          connected := true }.setHandler n (.returned false)) []
  -- onSessionStopped
  | sessionStopped (here : located = true) (uncanceled : s.canceled = false) :
      HandlerStep s n located (.tested .sessionStopped)
        (s.setHandler n (.returned true)) [.report .error true]
  | sessionStoppedQuietly (quiet : (located && !s.canceled) = false) :
      HandlerStep s n located (.tested .sessionStopped)
        (s.setHandler n (.returned false)) []
  | speechStart :
      HandlerStep s n located (.tested .speechStartDetected)
        (s.setHandler n (.returned false))
        (reports located .startOfUtterance s.finished)
  | speechEnd :
      HandlerStep s n located (.tested .speechEndDetected)
        (s.setHandler n (.returned false))
        (reports located .endOfUtterance s.finished)
  | recognition {interim : Bool} {reason : Reason} :
      HandlerStep s n located (.tested (.recognition interim reason))
        (s.setHandler n (.returned false))
        (reports located reason.response s.finished)
  -- onCanceled
  | mark :
      HandlerStep s n located (.tested .canceled)
        ({ s with canceled := true }.setHandler n .marked) []
  | finish :
      HandlerStep s n located .marked
        ({ s with finished := true }.setHandler n .canceling) []
  | cancel :
      HandlerStep s n located .canceling (s.setHandler n (.returned false))
        (reports located .error true)

theorem stepTested_cases {s s' : State} {n : Nat} {located : Bool}
    {callback : Callback} {events : List Event}
    (step : stepTested s n located callback = some (s', events)) :
    HandlerStep s n located (.tested callback) s' events := by
  cases callback with
  | sessionStarted =>
      simp only [stepTested] at step
      split at step
      · split at step
        · cases step
        · rename_i locked
          have free : audioBufferLocked s = false := by simpa using locked
          split at step <;> cases step <;> rename_i items
          · exact .drain free items
          · exact .skip free (by simpa using items)
      · rename_i unlocated
        cases step
        exact .miss (by simpa using unlocated)
  | sessionStopped =>
      simp only [stepTested] at step
      split at step <;> cases step <;> rename_i fires
      · obtain ⟨here, uncanceled⟩ := Bool.and_eq_true_iff.mp fires
        exact .sessionStopped here (by simpa using uncanceled)
      · exact .sessionStoppedQuietly (by simpa using fires)
  | speechStartDetected =>
      cases step
      exact .speechStart
  | speechEndDetected =>
      cases step
      exact .speechEnd
  | recognition interim reason =>
      cases step
      exact .recognition
  | canceled =>
      cases step
      exact .mark

theorem stepHandler_cases {s s' : State} {n : Nat} {ok located : Bool}
    {events : List Event}
    (step : stepHandler s n ok located = some (s', events)) :
    ∃ stage, s.handlers n = stage ∧
      HandlerStep s n located stage s' events := by
  refine ⟨s.handlers n, rfl, ?_⟩
  unfold stepHandler at step
  cases stage : s.handlers n with
  | notCalled | returned reported => simp [stage] at step
  | called callback =>
      simp only [stage] at step
      split at step <;> cases step <;> rename_i finished
      · exact .stop finished
      · exact .pass (by simpa using finished)
  | tested callback =>
      simp only [stage] at step
      exact stepTested_cases step
  | marked =>
      simp only [stage] at step
      cases step
      exact .finish
  | canceling =>
      simp only [stage] at step
      cases step
      exact .cancel
  | draining =>
      simp only [stage] at step
      split at step
      · rename_i audioBuffer empty
        cases step
        exact .drained empty
      · rename_i offset audioBuffer chunk
        split at step <;> cases step
        · exact .push chunk
        · exact .pushFails chunk
  | flushing =>
      simp only [stage] at step
      split at step
      · rename_i done
        cases step
        exact .keep (by simpa using done)
      · rename_i unfinished
        simp only [Bool.or_eq_true, not_or, Bool.not_eq_true,
          List.isEmpty_eq_false_iff] at unfinished
        split at step <;> cases step
        · exact .flush unfinished.1 unfinished.2
        · exact .flushFails unfinished.1 unfinished.2
  | failing flushed =>
      simp only [stage] at step
      cases step
      exact .fail
  | notifying flushed =>
      simp only [stage] at step
      cases step
      exact .notify
  | publishing =>
      simp only [stage] at step
      cases step
      exact .publish

inductive TeardownStep (s : State) : Teardown → State → List Event → Prop where
  | skip (finished : s.finished = true) :
      TeardownStep s .entered { s with teardown := .deleting } []
  | pass (running : s.finished = false) :
      TeardownStep s .entered { s with teardown := .passed } []
  | finish :
      TeardownStep s .passed
        { s with finished := true, teardown := .disconnecting signals } []
  | disconnected :
      TeardownStep s (.disconnecting []) { s with teardown := .stopping } []
  | disconnect {signal : Signal} {rest : List Signal} :
      TeardownStep s (.disconnecting (signal :: rest))
        { s with
          registered := Function.update s.registered signal false
          teardown := .disconnecting rest }
        [.disconnected signal]
  | stop :
      TeardownStep s .stopping
        { s with stopped := true, teardown := .deleting } [.stopped]
  | delete :
      TeardownStep s .deleting { s with teardown := .deleted } [.deleted]

theorem stepTeardown_cases {s s' : State} {events : List Event}
    (step : stepTeardown s = some (s', events)) :
    ∃ stage, s.teardown = stage ∧ TeardownStep s stage s' events := by
  refine ⟨s.teardown, rfl, ?_⟩
  unfold stepTeardown at step
  cases stage : s.teardown with
  | none | deleted => simp [stage] at step
  | entered =>
      simp only [stage] at step
      split at step <;> cases step <;> rename_i finished
      · exact .skip finished
      · exact .pass (by simpa using finished)
  | passed =>
      simp only [stage] at step
      cases step
      exact .finish
  | disconnecting remaining =>
      cases remaining with
      | nil =>
          simp only [stage] at step
          cases step
          exact .disconnected
      | cons signal rest =>
          simp only [stage] at step
          cases step
          exact .disconnect
  | stopping =>
      simp only [stage] at step
      cases step
      exact .stop
  | deleting =>
      simp only [stage] at step
      cases step
      exact .delete

/-- `connect()` has been called, or its caller finds `m_finished` set, or the
recognition is started. -/
inductive ConnectStep (s : State) (outcome : Start) :
    State → List Event → Bool → Prop where
  | skip (done : s.connecting = true ∨ s.finished = true) :
      ConnectStep s outcome s [] false
  | start (started : outcome = .ok) :
      ConnectStep s outcome
        { s with
          connecting := true
          registered := Function.update s.registered .sessionStarted true
          started := true }
        [.started] false
  | throws {dispatched : Bool} (threw : outcome = .threw dispatched) :
      ConnectStep s outcome
        { s with
          connecting := true
          registered := Function.update s.registered .sessionStarted true
          started := dispatched }
        (if dispatched then [.started] else []) true

theorem connect_cases (s : State) (outcome : Start) :
    ∃ next events threw, connect s outcome = (next, events, threw) ∧
      ConnectStep s outcome next events threw := by
  unfold connect
  split
  · rename_i done
    exact ⟨_, _, _, rfl, .skip (Bool.or_eq_true_iff.mp done)⟩
  · cases outcome with
    | ok => exact ⟨_, _, _, rfl, .start rfl⟩
    | threw dispatched => exact ⟨_, _, _, rfl, .throws rfl⟩

end DrachtioModules.Azure

import DrachtioModules.Aws.GStreamer

/-!
# The branches of every step of a GStreamer

What the media thread, OnStreamReady and the worker can do, branch by branch,
with what the branch has tested.
-/

namespace DrachtioModules.Aws

open Transcribe (Bytes SimpleBuffer)

variable {τ : Type}

inductive MediaStep (config : Config) (s : State τ) :
    Media → State τ → List (Event τ) → Prop where
  | direct {data : Bytes} (connected : s.connected = true) :
      MediaStep config s (.checked data) { s with media := .pushing data } []
  | stages {data : Bytes} (unconnected : s.connected = false) :
      MediaStep config s (.checked data) { s with media := .staging data } []
  | late {data : Bytes} (free : s.streamReady.holds = false)
      (connected : s.connected = true) :
      MediaStep config s (.staging data) { s with media := .pushing data } []
  | stage {data : Bytes} (free : s.streamReady.holds = false)
      (unconnected : s.connected = false) :
      MediaStep config s (.staging data)
        { Aws.stage config s data with media := .idle } [.accepted data]
  | push {data : Bytes} (free : s.worker.holds = false) :
      MediaStep config s (.pushing data)
        { s with
          deqAudio := dropOldest config.maxBufferedFrames s.deqAudio ++ [data]
          media := .idle }
        [.accepted data, .enqueued data]

theorem stepMedia_cases {config : Config} {s s' : State τ}
    {events : List (Event τ)}
    (step : stepMedia config s = some (s', events)) :
    ∃ stage, s.media = stage ∧ MediaStep config s stage s' events := by
  refine ⟨s.media, rfl, ?_⟩
  unfold stepMedia at step
  cases media : s.media with
  | idle => simp [media] at step
  | checked data =>
      simp only [media] at step
      split at step <;> cases step <;> rename_i connected
      · exact .direct connected
      · exact .stages (by simpa using connected)
  | staging data =>
      simp only [media] at step
      split at step
      · cases step
      · rename_i locked
        have free : s.streamReady.holds = false := by simpa using locked
        split at step <;> cases step <;> rename_i connected
        · exact .late free connected
        · exact .stage free (by simpa using connected)
  | pushing data =>
      simp only [media] at step
      split at step <;> cases step
      rename_i locked
      exact .push (by simpa using locked)

theorem stage_same (config : Config) (s : State τ) (data : Bytes) :
    Aws.stage config s data = { s with
      audioBuffer := (Aws.stage config s data).audioBuffer
      prebufStaging := (Aws.stage config s data).prebufStaging } := by
  dsimp only [Aws.stage]
  split <;> rfl

inductive StreamReadyStep (s : State τ) :
    StreamReady → State τ → List (Event τ) → Prop where
  | store {located : Bool} :
      StreamReadyStep s (.called located)
        { s with
          stream := true
          streamReady := if located then .locking else .notifying } []
  | drain (items : s.audioBuffer.numItems ≠ 0) :
      StreamReadyStep s .locking { s with streamReady := .drainingBuffer } []
  | skip (empty : s.audioBuffer.numItems = 0) :
      StreamReadyStep s .locking { s with streamReady := .drainingStaging } []
  | drained {audioBuffer : SimpleBuffer}
      (empty : s.audioBuffer.getNextChunk = (none, audioBuffer)) :
      StreamReadyStep s .drainingBuffer
        { s with streamReady := .drainingStaging } []
  | push {offset : Nat} {audioBuffer : SimpleBuffer}
      (chunk : s.audioBuffer.getNextChunk = (some offset, audioBuffer))
      (free : s.worker.holds = false) :
      StreamReadyStep s .drainingBuffer
        { s with
          audioBuffer := audioBuffer
          deqAudio := s.deqAudio ++ [s.audioBuffer.chunkAt offset]
          streamReady := .drainingBuffer }
        [.enqueued (s.audioBuffer.chunkAt offset)]
  | keep (empty : s.prebufStaging = []) :
      StreamReadyStep s .drainingStaging { s with streamReady := .publishing }
        []
  | flush (pending : s.prebufStaging ≠ []) (free : s.worker.holds = false) :
      StreamReadyStep s .drainingStaging
        { s with
          deqAudio := s.deqAudio ++ [s.prebufStaging]
          prebufStaging := []
          streamReady := .publishing }
        [.enqueued s.prebufStaging]
  | publish :
      StreamReadyStep s .publishing
        { s with connected := true, streamReady := .notifying } []
  | notify (free : s.worker.holds = false) :
      StreamReadyStep s .notifying { s with streamReady := .returned } []

theorem stepStreamReady_cases {s s' : State τ} {events : List (Event τ)}
    (step : stepStreamReady s = some (s', events)) :
    ∃ stage, s.streamReady = stage ∧ StreamReadyStep s stage s' events := by
  refine ⟨s.streamReady, rfl, ?_⟩
  unfold stepStreamReady at step
  cases stage : s.streamReady with
  | notCalled | returned => simp [stage] at step
  | called located =>
      simp only [stage] at step
      cases step
      exact .store
  | locking =>
      simp only [stage] at step
      split at step <;> cases step <;> rename_i items
      · exact .drain items
      · exact .skip (by simpa using items)
  | drainingBuffer =>
      simp only [stage] at step
      split at step
      · rename_i audioBuffer empty
        cases step
        exact .drained empty
      · rename_i offset audioBuffer chunk
        split at step <;> cases step
        rename_i locked
        exact .push chunk (by simpa using locked)
  | drainingStaging =>
      simp only [stage] at step
      split at step
      · rename_i empty
        cases step
        exact .keep (List.isEmpty_iff.mp empty)
      · rename_i pending
        split at step <;> cases step
        rename_i locked
        exact .flush (by simpa using pending) (by simpa using locked)
  | publishing =>
      simp only [stage] at step
      cases step
      exact .publish
  | notifying =>
      simp only [stage] at step
      split at step <;> cases step
      rename_i locked
      exact .notify (by simpa using locked)

inductive WorkerStep (s : State τ) :
    Worker τ → State τ → List (Event τ) → Prop where
  | wake (ready : ready s = true) :
      WorkerStep s .waiting { s with worker := .woken } []
  | resume : WorkerStep s .pausing { s with worker := .waiting } []
  -- processData with m_mutex held
  | takeFinal {transcript : τ} (finished : s.finished = true)
      (slot : s.transcript = some transcript) :
      WorkerStep s .woken
        { s with
          transcript := none
          worker := .delivering transcript true } []
  | finish (finished : s.finished = true) (slot : s.transcript = none) :
      WorkerStep s .woken { s with worker := .returned } [.returned]
  | abandon (running : s.finished = false)
      (idle : s.connected = false ∧ s.connecting = false) :
      WorkerStep s .woken { s with worker := .returned } [.returned]
  | take {transcript : τ} (running : s.finished = false)
      (slot : s.transcript = some transcript) :
      WorkerStep s .woken
        { s with
          transcript := none
          worker := .delivering transcript false } []
  | serve (running : s.finished = false) (slot : s.transcript = none) :
      WorkerStep s .woken { s with worker := .serving } []
  | deliver {transcript : τ} {final : Bool} :
      WorkerStep s (.delivering transcript final)
        { s with worker := .relocking final } [.delivered transcript]
  | relockFinal :
      WorkerStep s (.relocking true) { s with worker := .returned } [.returned]
  | relock :
      WorkerStep s (.relocking false) { s with worker := .serving } []
  | takeLast (finishing : s.finishing = true) (ready : s.stream = true) :
      WorkerStep s .serving
        { s with
          shutdownInitiated := true
          deqAudio := []
          worker := .draining s.deqAudio } []
  | initiate (finishing : s.finishing = true) (unready : s.stream = false) :
      WorkerStep s .serving
        { s with shutdownInitiated := true, worker := .waiting } []
  | takeAudio (running : s.finishing = false) (ready : s.stream = true) :
      WorkerStep s .serving
        { s with deqAudio := [], worker := .writing s.deqAudio } []
  | takeNothing (running : s.finishing = false) (unready : s.stream = false) :
      WorkerStep s .serving { s with worker := .writing [] } []
  -- processData with m_mutex released
  | written : WorkerStep s (.writing []) { s with worker := .waiting } []
  | write {bits : Bytes} {rest : List Bytes} :
      WorkerStep s (.writing (bits :: rest))
        { s with worker := .writing rest } [.wrote bits]
  | drain {bits : Bytes} {rest : List Bytes} :
      WorkerStep s (.draining (bits :: rest))
        { s with worker := .draining rest } [.wrote bits]
  | endStream :
      WorkerStep s (.draining []) { s with worker := .flushing } [.endOfStream]
  | flush : WorkerStep s .flushing { s with worker := .closing } [.flushed]
  | close : WorkerStep s .closing { s with worker := .clearing } [.closed]
  | clear :
      WorkerStep s .clearing
        { s with stream := false, worker := .waiting } []

theorem stepWorker_cases {s s' : State τ} {events : List (Event τ)}
    (step : stepWorker s = some (s', events)) :
    ∃ stage, s.worker = stage ∧ WorkerStep s stage s' events := by
  refine ⟨s.worker, rfl, ?_⟩
  unfold stepWorker at step
  cases stage : s.worker with
  | returned => simp [stage] at step
  | waiting =>
      simp only [stage] at step
      split at step <;> cases step
      rename_i ready
      exact .wake ready
  | pausing =>
      simp only [stage] at step
      cases step
      exact .resume
  | woken =>
      simp only [stage] at step
      split at step
      · rename_i finished
        split at step <;> cases step <;> rename_i slot
        · exact .takeFinal finished slot
        · exact .finish finished slot
      · rename_i unfinished
        have running : s.finished = false := by simpa using unfinished
        split at step
        · rename_i idle
          cases step
          exact .abandon running (by simpa using idle)
        · split at step <;> cases step <;> rename_i slot
          · exact .take running slot
          · exact .serve running slot
  | delivering transcript final =>
      simp only [stage] at step
      cases step
      exact .deliver
  | relocking final =>
      simp only [stage] at step
      split at step <;> cases step <;> rename_i last
      · rw [last]
        exact .relockFinal
      · rw [Bool.not_eq_true] at last
        rw [last]
        exact .relock
  | serving =>
      simp only [stage] at step
      split at step <;> rename_i finishing
      · split at step <;> cases step <;> rename_i ready
        · exact .takeLast finishing ready
        · exact .initiate finishing (by simpa using ready)
      · have running : s.finishing = false := by simpa using finishing
        split at step <;> cases step <;> rename_i ready
        · exact .takeAudio running ready
        · exact .takeNothing running (by simpa using ready)
  | writing remaining =>
      cases remaining with
      | nil =>
          simp only [stage] at step
          cases step
          exact .written
      | cons bits rest =>
          simp only [stage] at step
          cases step
          exact .write
  | draining remaining =>
      cases remaining with
      | nil =>
          simp only [stage] at step
          cases step
          exact .endStream
      | cons bits rest =>
          simp only [stage] at step
          cases step
          exact .drain
  | flushing =>
      simp only [stage] at step
      cases step
      exact .flush
  | closing =>
      simp only [stage] at step
      cases step
      exact .close
  | clearing =>
      simp only [stage] at step
      cases step
      exact .clear

/-- The wait ends at the deadline. -/
theorem stepTimeout_cases {s s' : State τ} {events : List (Event τ)}
    (step : stepTimeout s = some (s', events)) :
    s.worker = .waiting ∧ s.shutdownInitiated = true ∧ ready s = false ∧
      s' = { s with requestAborted := true, worker := .pausing } ∧
      (events = [] ∨ events = [.aborted]) := by
  unfold stepTimeout at step
  split at step
  · rename_i waiting
    split at step
    · rename_i late
      obtain ⟨initiated, idle⟩ := Bool.and_eq_true_iff.mp late
      have unready : ready s = false := by simpa using idle
      split at step
      · rename_i aborted
        cases step
        refine ⟨waiting, initiated, unready, ?_, .inl rfl⟩
        rw [← aborted]
      · cases step
        exact ⟨waiting, initiated, unready, rfl, .inr rfl⟩
    · cases step
  · cases step

/-- A call of the API or of the SDK, as far as it is made. -/
def Act.isCall : Act τ → Bool
  | .connect | .write _ | .finish | .onStreamReady _ | .onTranscriptEvent _
  | .onResponse => true
  | _ => false

inductive CallStep (s : State τ) :
    Act τ → State τ → List (Event τ) → Prop where
  | again (asked : s.connecting = true ∨ s.finished = true) :
      CallStep s .connect s []
  | request (unconnected : s.connecting = false)
      (running : s.finished = false) :
      CallStep s .connect { s with connecting := true } [.requested]
  | refuse {data : Bytes} (idle : s.media = .idle)
      (ended : s.finishing = true ∨ s.finished = true) :
      CallStep s (.write data) s [.refused data]
  | enter {data : Bytes} (idle : s.media = .idle)
      (running : s.finishing = false) (unfinished : s.finished = false) :
      CallStep s (.write data) { s with media := .checked data } []
  | finishAgain (finishing : s.finishing = true) : CallStep s .finish s []
  | finish (running : s.finishing = false) (free : s.worker.holds = false) :
      CallStep s .finish { s with finishing := true } [.finishing]
  | ready {located : Bool} (connecting : s.connecting = true)
      (fresh : s.streamReady = .notCalled) :
      CallStep s (.onStreamReady located)
        { s with streamReady := .called located } []
  | store {transcript : τ} (connecting : s.connecting = true)
      (free : s.worker.holds = false) :
      CallStep s (.onTranscriptEvent transcript)
        { s with transcript := some transcript } [.stored transcript]
  | respond (connecting : s.connecting = true)
      (free : s.worker.holds = false) :
      CallStep s .onResponse { s with finished := true } [.responded]

theorem call_cases {config : Config} {s s' : State τ} {label : Act τ}
    {events : List (Event τ)} (isCall : label.isCall = true)
    (step : (machine τ config).step s label = some (s', events)) :
    CallStep s label s' events := by
  cases label with
  | connect =>
      simp only [machine, Aws.step] at step
      split at step <;> cases step <;> rename_i asked
      · exact .again (by simpa using asked)
      · simp only [Bool.or_eq_true, not_or, Bool.not_eq_true] at asked
        exact .request asked.1 asked.2
  | write data =>
      simp only [machine, Aws.step, stepWrite] at step
      split at step
      · rename_i idle
        split at step <;> cases step <;> rename_i ended
        · exact .refuse idle (by simpa using ended)
        · simp only [Bool.or_eq_true, not_or, Bool.not_eq_true] at ended
          exact .enter idle ended.1 ended.2
      · cases step
  | finish =>
      simp only [machine, Aws.step] at step
      split at step
      · rename_i finishing
        cases step
        exact .finishAgain finishing
      · rename_i running
        split at step <;> cases step
        rename_i locked
        exact .finish (by simpa using running) (by simpa using locked)
  | onStreamReady located =>
      simp only [machine, Aws.step] at step
      split at step <;> cases step
      rename_i fresh
      exact .ready fresh.1 fresh.2
  | onTranscriptEvent transcript =>
      simp only [machine, Aws.step] at step
      split at step <;> cases step
      rename_i enabled
      exact .store enabled.1 enabled.2
  | onResponse =>
      simp only [machine, Aws.step] at step
      split at step <;> cases step
      rename_i enabled
      exact .respond enabled.1 enabled.2
  | media | streamReady | worker | timeout => cases isCall

/-- What a call leaves as it was. -/
structure Called (s s' : State τ) (events : List (Event τ)) : Prop where
  deqAudio : s'.deqAudio = s.deqAudio
  audioBuffer : s'.audioBuffer = s.audioBuffer
  prebufStaging : s'.prebufStaging = s.prebufStaging
  connected : s'.connected = s.connected
  stream : s'.stream = s.stream
  worker : s'.worker = s.worker
  shutdownInitiated : s'.shutdownInitiated = s.shutdownInitiated
  finishing : s.finishing = true → s'.finishing = true
  streamReady : s'.streamReady = s.streamReady ∨
    s.streamReady = .notCalled ∧ ∃ located, s'.streamReady = .called located
  media : s'.media = s.media ∨ ∃ data, s'.media = .checked data
  silent : ∀ bits, .enqueued bits ∉ events

theorem CallStep.called {s s' : State τ} {label : Act τ}
    {events : List (Event τ)} (call : CallStep s label s' events) :
    Called s s' events := by
  cases call with
  | enter =>
      exact ⟨rfl, rfl, rfl, rfl, rfl, rfl, rfl, id, .inl rfl, .inr ⟨_, rfl⟩,
        by simp⟩
  | ready _ fresh =>
      exact ⟨rfl, rfl, rfl, rfl, rfl, rfl, rfl, id, .inr ⟨fresh, _, rfl⟩,
        .inl rfl, by simp⟩
  | finish =>
      exact ⟨rfl, rfl, rfl, rfl, rfl, rfl, rfl, fun _ => rfl, .inl rfl,
        .inl rfl, by simp⟩
  | again | request | refuse | finishAgain | store | respond =>
      exact ⟨rfl, rfl, rfl, rfl, rfl, rfl, rfl, id, .inl rfl, .inl rfl,
        by simp⟩

/-- Only the worker moves the worker. -/
theorem worker_of_step {config : Config} {s s' : State τ} {label : Act τ}
    {events : List (Event τ)} (outside : label ≠ .worker ∧ label ≠ .timeout)
    (step : (machine τ config).step s label = some (s', events)) :
    s'.worker = s.worker := by
  cases label with
  | worker => exact (outside.1 rfl).elim
  | timeout => exact (outside.2 rfl).elim
  | media =>
      obtain ⟨_, _, taken⟩ := stepMedia_cases step
      cases taken with
      | stage =>
          rw [stage_same]
      | _ => rfl
  | streamReady =>
      obtain ⟨_, _, taken⟩ := stepStreamReady_cases step
      cases taken <;> rfl
  | connect | write | finish | onStreamReady | onTranscriptEvent | onResponse =>
      exact (call_cases rfl step).called.worker

end DrachtioModules.Aws

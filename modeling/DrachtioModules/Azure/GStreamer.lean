import DrachtioModules.Machine
import DrachtioModules.Transcribe.SimpleBuffer

/-!
# The GStreamer of mod_azure_transcribe

One `GStreamer` from its constructor on, with the threads that meet at it: the
session's start, the media thread under `cb->mutex`, the SDK's callbacks, and
the thread that finishes and deletes it.

Any number of callbacks may be under way at once; the n-th one the SDK made has
the number n.  `cb->mutex` keeps a stop from taking the GStreamer away while
the media thread is at work on it.
-/

namespace DrachtioModules.Azure

open Transcribe (Bytes SimpleBuffer)

/-- `interim`, and whether the channel asks to connect on voice activity. -/
structure Config where
  interim : Bool
  vad : Bool
  deriving DecidableEq, Repr

/-- `CHUNKSIZE`. -/
def chunkSize : Nat := 320

/-- The event signals of the recognizer. -/
inductive Signal where
  | sessionStarted
  | sessionStopped
  | speechStartDetected
  | speechEndDetected
  | recognizing
  | recognized
  | canceled
  deriving DecidableEq, Repr

/-- `result->Reason`. -/
inductive Reason where
  | recognizingSpeech
  | recognizedSpeech
  | noMatch
  | other
  deriving DecidableEq, Repr

/-- A callback of the SDK; `interim` tells Recognizing from Recognized. -/
inductive Callback where
  | sessionStarted
  | sessionStopped
  | speechStartDetected
  | speechEndDetected
  | recognition (interim : Bool) (reason : Reason)
  | canceled
  deriving DecidableEq, Repr

def Callback.signal : Callback → Signal
  | .sessionStarted => .sessionStarted
  | .sessionStopped => .sessionStopped
  | .speechStartDetected => .speechStartDetected
  | .speechEndDetected => .speechEndDetected
  | .recognition interim _ => if interim then .recognizing else .recognized
  | .canceled => .canceled

/-- The events of `responseHandler`. -/
inductive Response where
  | startOfUtterance
  | endOfUtterance
  | results
  | noSpeechDetected
  | vadDetected
  | error
  deriving DecidableEq, Repr

/-- What `onRecognitionEvent` reports. -/
def Reason.response : Reason → Response
  | .recognizingSpeech | .recognizedSpeech => .results
  | .noMatch => .noSpeechDetected
  | .other => .error

/-- A callback under way.  `called` is before the test of `m_finished` and
`tested` after it; the stages of `onCanceled` and of the drain in
`onSessionStarted` follow; a returned one tells whether it was a SessionStopped
that reported the end of the session. -/
inductive Handler where
  | notCalled
  | called (callback : Callback)
  | tested (callback : Callback)
  | marked
  | canceling
  | draining
  | flushing
  | failing (flushed : Bool)
  | notifying (flushed : Bool)
  | publishing
  | returned (reported : Bool)
  deriving DecidableEq, Repr

/-- The media thread: a call of `write()`, the failure of a write or of a
connect before and after it sets `m_finished`, and a connect made on voice
activity. -/
inductive Media where
  | idle
  | checked (data : Bytes)
  | staging (data : Bytes)
  | pushing (data : Bytes)
  | failing
  | notifying
  | detected
  deriving DecidableEq, Repr

/-- `finish()` and the delete that follows it. -/
inductive Teardown where
  | none
  | entered
  | passed
  | disconnecting (remaining : List Signal)
  | stopping
  | deleting
  | deleted
  deriving DecidableEq, Repr

/-- Who owns `cb->streamer`: `azure_transcribe_session_init` and its caller, the
session, or the thread that tears it down. -/
inductive Phase where
  | initializing
  | attached
  | handed
  deriving DecidableEq, Repr

structure State where
  finished : Bool
  connected : Bool
  connecting : Bool
  canceled : Bool
  audioBuffer : SimpleBuffer
  prebufStaging : Bytes
  registered : Signal → Bool
  started : Bool
  stopped : Bool
  phase : Phase
  media : Media
  dispatched : Nat
  handlers : Nat → Handler
  teardown : Teardown

/-- How `StartContinuousRecognitionAsync` ends: it may throw before or after the
recognition was dispatched. -/
inductive Start where
  | ok
  | threw (dispatched : Bool)
  deriving DecidableEq, Repr

def Start.dispatched : Start → Bool
  | .ok => true
  | .threw dispatched => dispatched

inductive Act where
  | start (outcome : Start)
  | attach
  | orphan
  | vad (outcome : Start)
  | write (data : Bytes)
  | media (ok located : Bool)
  | signal (callback : Callback)
  | handler (n : Nat) (ok located : Bool)
  | stop
  | teardown
  deriving DecidableEq, Repr

inductive Event where
  | started
  | accepted (data : Bytes)
  | refused (data : Bytes)
  | pushed (data : Bytes)
  | report (response : Response) (finished : Bool)
  | disconnected (signal : Signal)
  | stopped
  | deleted
  deriving DecidableEq, Repr

def State.setHandler (s : State) (n : Nat) (handler : Handler) : State :=
  { s with handlers := Function.update s.handlers n handler }

/-- The callback holds `m_audioBufferMutex`. -/
def Handler.holds : Handler → Bool
  | .draining | .flushing | .failing _ | .notifying _ | .publishing => true
  | _ => false

def audioBufferLocked (s : State) : Bool :=
  (List.range s.dispatched).any fun n => (s.handlers n).holds

/-- A call of `responseHandler`, if the session is located. -/
def reports (located : Bool) (response : Response) (finished : Bool) :
    List Event :=
  if located then [.report response finished] else []

/-- `connect()`; the result tells whether it threw. -/
def connect (s : State) (outcome : Start) : State × List Event × Bool :=
  if s.connecting || s.finished then (s, [], false)
  else
    ({ s with
      connecting := true
      registered := Function.update s.registered .sessionStarted true
      started := outcome.dispatched },
      if outcome.dispatched then [.started] else [],
      outcome != .ok)

/-- The pre-connect branch of `write()` under `m_audioBufferMutex`. -/
def stage (s : State) (data : Bytes) : State :=
  let staging := s.prebufStaging ++ data
  let usable := staging.length / chunkSize * chunkSize
  if usable ≠ 0 then
    { s with
      audioBuffer := s.audioBuffer.add (staging.take usable)
      prebufStaging := staging.drop usable }
  else { s with prebufStaging := staging }

/-- The media thread finds the GStreamer and is between two frames. -/
def atWork (s : State) : Bool :=
  s.phase = .attached && s.media = .idle

def stepMedia (s : State) (ok located : Bool) : Option (State × List Event) :=
  match s.media with
  | .idle => none
  | .checked data =>
      if s.connected then some ({ s with media := .pushing data }, [])
      else some ({ s with media := .staging data }, [])
  | .staging data =>
      if audioBufferLocked s then none
      else if s.connected then some ({ s with media := .pushing data }, [])
      else some ({ stage s data with media := .idle }, [.accepted data])
  | .pushing data =>
      if ok then
        some ({ s with media := .idle }, [.accepted data, .pushed data])
      else some ({ s with media := .failing }, [.refused data])
  | .failing => some ({ s with finished := true, media := .notifying }, [])
  -- notifyWriteFailure
  | .notifying =>
      some ({ s with media := .idle }, reports located .error s.finished)
  | .detected =>
      some ({ s with media := .idle }, [.report .vadDetected false])

/-- A callback after its test of `m_finished`. -/
def stepTested (s : State) (n : Nat) (located : Bool) :
    Callback → Option (State × List Event)
  | .sessionStarted =>
      if located then
        if audioBufferLocked s then none
        else if s.audioBuffer.numItems ≠ 0 then
          some (s.setHandler n .draining, [])
        else some (s.setHandler n .flushing, [])
      else some (s.setHandler n (.returned false), [])
  | .sessionStopped =>
      if located && !s.canceled then
        some (s.setHandler n (.returned true), [.report .error true])
      else some (s.setHandler n (.returned false), [])
  | .speechStartDetected =>
      some (s.setHandler n (.returned false),
        reports located .startOfUtterance s.finished)
  | .speechEndDetected =>
      some (s.setHandler n (.returned false),
        reports located .endOfUtterance s.finished)
  | .recognition _ reason =>
      some (s.setHandler n (.returned false),
        reports located reason.response s.finished)
  | .canceled => some ({ s with canceled := true }.setHandler n .marked, [])

def stepHandler (s : State) (n : Nat) (ok located : Bool) :
    Option (State × List Event) :=
  match s.handlers n with
  | .notCalled | .returned _ => none
  | .called callback =>
      if s.finished then some (s.setHandler n (.returned false), [])
      else some (s.setHandler n (.tested callback), [])
  | .tested callback => stepTested s n located callback
  -- onCanceled
  | .marked => some ({ s with finished := true }.setHandler n .canceling, [])
  | .canceling =>
      some (s.setHandler n (.returned false), reports located .error true)
  -- onSessionStarted
  | .draining =>
      match s.audioBuffer.getNextChunk with
      | (none, _) => some (s.setHandler n .flushing, [])
      | (some offset, audioBuffer) =>
          if ok then
            some ({ s with audioBuffer := audioBuffer }.setHandler n .draining,
              [.pushed (s.audioBuffer.chunkAt offset)])
          else
            some ({ s with audioBuffer := audioBuffer }.setHandler n
              (.failing false), [])
  | .flushing =>
      if s.finished || s.prebufStaging.isEmpty then
        some (s.setHandler n .publishing, [])
      else if ok then
        some (s.setHandler n .publishing, [.pushed s.prebufStaging])
      else some (s.setHandler n (.failing true), [])
  | .failing flushed =>
      some ({ s with finished := true }.setHandler n (.notifying flushed), [])
  | .notifying flushed =>
      some (s.setHandler n (if flushed then .publishing else .flushing),
        reports located .error s.finished)
  | .publishing =>
      some ({ s with
        prebufStaging := []
        connected := true }.setHandler n (.returned false), [])

/-- The signals in the order `finish()` disconnects them. -/
def signals : List Signal :=
  [.sessionStopped, .speechStartDetected, .speechEndDetected, .recognizing,
    .recognized, .canceled, .sessionStarted]

/-- `killcb` and the reaper thread take the same steps. -/
def stepTeardown (s : State) : Option (State × List Event) :=
  match s.teardown with
  | .none | .deleted => none
  | .entered =>
      if s.finished then some ({ s with teardown := .deleting }, [])
      else some ({ s with teardown := .passed }, [])
  | .passed =>
      some ({ s with
        finished := true
        teardown := .disconnecting signals }, [])
  | .disconnecting remaining =>
      match remaining with
      | [] => some ({ s with teardown := .stopping }, [])
      | signal :: rest =>
          some ({ s with
            registered := Function.update s.registered signal false
            teardown := .disconnecting rest }, [.disconnected signal])
  -- StopContinuousRecognitionAsync().get(), whether or not it rethrows
  | .stopping =>
      some ({ s with stopped := true, teardown := .deleting }, [.stopped])
  | .deleting => some ({ s with teardown := .deleted }, [.deleted])

def handOver (s : State) : State :=
  { s with phase := .handed, teardown := .entered }

def step (config : Config) (s : State) : Act → Option (State × List Event)
  | .start outcome =>
      if s.phase = .initializing ∧ config.vad = false ∧ s.connecting = false then
        match connect s outcome with
        | (next, events, true) => some (handOver next, events)
        | (next, events, false) => some (next, events)
      else none
  | .attach =>
      if s.phase = .initializing ∧ (config.vad || s.connecting) then
        some ({ s with phase := .attached }, [])
      else none
  | .orphan =>
      if s.phase = .initializing ∧ (config.vad || s.connecting) then
        some (handOver s, [])
      else none
  | .vad outcome =>
      if atWork s ∧ config.vad ∧ s.connecting = false then
        match connect s outcome with
        | (next, events, true) => some ({ next with media := .failing }, events)
        | (next, events, false) =>
            some ({ next with media := .detected }, events)
      else none
  | .write data =>
      if atWork s then
        if s.finished then some (s, [.refused data])
        else some ({ s with media := .checked data }, [])
      else none
  | .media ok located => stepMedia s ok located
  | .signal callback =>
      if s.registered callback.signal ∧ s.started then
        some ({ s with dispatched := s.dispatched + 1 }.setHandler s.dispatched
          (.called callback), [])
      else none
  | .handler n ok located => stepHandler s n ok located
  | .stop =>
      if atWork s then some (handOver s, []) else none
  | .teardown => stepTeardown s

/-- The constructor has registered its handlers. -/
def State.fresh (config : Config) : State :=
  { finished := false
    connected := false
    connecting := false
    canceled := false
    audioBuffer := SimpleBuffer.create chunkSize 15
    prebufStaging := []
    registered := fun signal =>
      match signal with
      | .sessionStarted => false
      | .recognizing => config.interim
      | _ => true
    started := false
    stopped := false
    phase := .initializing
    media := .idle
    dispatched := 0
    handlers := fun _ => .notCalled
    teardown := .none }

def machine (config : Config) : Machine State Act Event :=
  { initial := .fresh config
    step := step config }

end DrachtioModules.Azure

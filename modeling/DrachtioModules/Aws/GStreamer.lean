import DrachtioModules.Machine
import DrachtioModules.Transcribe.SimpleBuffer

/-!
# The GStreamer of mod_aws_transcribe

One `GStreamer` and the threads that meet at it: the media thread with
`write()`, the callers of `connect()` and `finish()`, the SDK with its three
callbacks, and the worker in `processData()`.

`m_mutex` is held over several steps by the worker alone, `m_audioBufferMutex`
by OnStreamReady alone; every other critical section is one step, enabled while
its mutex is free.  A wait on `m_cond` ends in a state in which its predicate
holds, or at its deadline.
-/

namespace DrachtioModules.Aws

open Transcribe (Bytes SimpleBuffer)

/-- `m_maxBufferedFrames` and `m_prebufChunkSize`. -/
structure Config where
  maxBufferedFrames : Nat
  prebufChunkSize : Nat
  deriving DecidableEq, Repr

/-- `processData()`; the lists are what remains of its local deque. -/
inductive Worker (τ : Type) where
  | waiting
  | pausing
  | woken
  | delivering (transcript : τ) (final : Bool)
  | relocking (final : Bool)
  | serving
  | writing (remaining : List Bytes)
  | draining (remaining : List Bytes)
  | flushing
  | closing
  | clearing
  | returned
  deriving DecidableEq, Repr

/-- A call of `write()`. -/
inductive Media where
  | idle
  | checked (data : Bytes)
  | staging (data : Bytes)
  | pushing (data : Bytes)
  deriving DecidableEq, Repr

/-- OnStreamReady. -/
inductive StreamReady where
  | notCalled
  | called (located : Bool)
  | locking
  | drainingBuffer
  | drainingStaging
  | publishing
  | notifying
  | returned
  deriving DecidableEq, Repr

structure State (τ : Type) where
  finishing : Bool
  finished : Bool
  connected : Bool
  connecting : Bool
  stream : Bool
  transcript : Option τ
  deqAudio : List Bytes
  audioBuffer : SimpleBuffer
  prebufStaging : Bytes
  shutdownInitiated : Bool
  requestAborted : Bool
  worker : Worker τ
  media : Media
  streamReady : StreamReady
  deriving DecidableEq, Repr

inductive Act (τ : Type) where
  | connect
  | write (data : Bytes)
  | media
  | finish
  | onStreamReady (located : Bool)
  | streamReady
  | onTranscriptEvent (transcript : τ)
  | onResponse
  | worker
  | timeout
  deriving DecidableEq, Repr

inductive Event (τ : Type) where
  | requested
  | accepted (data : Bytes)
  | refused (data : Bytes)
  | finishing
  | enqueued (bits : Bytes)
  | stored (transcript : τ)
  | responded
  | delivered (transcript : τ)
  | wrote (bits : Bytes)
  | endOfStream
  | flushed
  | closed
  | aborted
  | returned
  deriving DecidableEq, Repr

/-- The worker holds `m_mutex` between two of its steps. -/
def Worker.holds {τ : Type} : Worker τ → Bool
  | .woken | .serving => true
  | _ => false

/-- OnStreamReady holds `m_audioBufferMutex` between two of its steps. -/
def StreamReady.holds : StreamReady → Bool
  | .drainingBuffer | .drainingStaging | .publishing => true
  | _ => false

section Steps

variable {τ : Type}

/-- The loop that drops the oldest frames until there is room for one more. -/
def dropOldest (maxBufferedFrames : Nat) : List Bytes → List Bytes
  | [] => []
  | frame :: rest =>
      if maxBufferedFrames ≤ rest.length + 1 then
        dropOldest maxBufferedFrames rest
      else frame :: rest

/-- The pre-connect branch of `write()` under `m_audioBufferMutex`. -/
def stage (config : Config) (s : State τ) (data : Bytes) : State τ :=
  let staging := s.prebufStaging ++ data
  let usable :=
    staging.length / config.prebufChunkSize * config.prebufChunkSize
  if usable ≠ 0 then
    { s with
      audioBuffer := s.audioBuffer.add (staging.take usable)
      prebufStaging := staging.drop usable }
  else { s with prebufStaging := staging }

def stepWrite (s : State τ) (data : Bytes) : Option (State τ × List (Event τ)) :=
  if s.media = .idle then
    if s.finishing || s.finished then some (s, [.refused data])
    else some ({ s with media := .checked data }, [])
  else none

def stepMedia (config : Config) (s : State τ) :
    Option (State τ × List (Event τ)) :=
  match s.media with
  | .idle => none
  | .checked data =>
      if s.connected then some ({ s with media := .pushing data }, [])
      else some ({ s with media := .staging data }, [])
  | .staging data =>
      if s.streamReady.holds then none
      else if s.connected then some ({ s with media := .pushing data }, [])
      else some ({ stage config s data with media := .idle }, [.accepted data])
  | .pushing data =>
      if s.worker.holds then none
      else
        some ({ s with
          deqAudio := dropOldest config.maxBufferedFrames s.deqAudio ++ [data]
          media := .idle }, [.accepted data, .enqueued data])

/-- A call of OnStreamReady; in a session that is gone it only publishes the
stream. -/
def stepStreamReady (s : State τ) : Option (State τ × List (Event τ)) :=
  match s.streamReady with
  | .notCalled | .returned => none
  | .called located =>
      some ({ s with
        stream := true
        streamReady := if located then .locking else .notifying }, [])
  | .locking =>
      some ({ s with
        streamReady := if s.audioBuffer.numItems ≠ 0 then .drainingBuffer
          else .drainingStaging }, [])
  | .drainingBuffer =>
      match s.audioBuffer.getNextChunk with
      | (none, _) => some ({ s with streamReady := .drainingStaging }, [])
      | (some offset, audioBuffer) =>
          if s.worker.holds then none
          else
            let bits := s.audioBuffer.chunkAt offset
            some ({ s with
              audioBuffer := audioBuffer
              deqAudio := s.deqAudio ++ [bits] }, [.enqueued bits])
  | .drainingStaging =>
      if s.prebufStaging.isEmpty then
        some ({ s with streamReady := .publishing }, [])
      else if s.worker.holds then none
      else
        some ({ s with
          deqAudio := s.deqAudio ++ [s.prebufStaging]
          prebufStaging := []
          streamReady := .publishing }, [.enqueued s.prebufStaging])
  | .publishing =>
      some ({ s with connected := true, streamReady := .notifying }, [])
  | .notifying =>
      if s.worker.holds then none
      else some ({ s with streamReady := .returned }, [])

/-- The predicate of the waits on `m_cond`. -/
def ready (s : State τ) : Bool :=
  !s.deqAudio.isEmpty && !s.finishing || s.transcript.isSome || s.finished ||
    s.finishing && !s.shutdownInitiated ||
    s.finishing && s.shutdownInitiated && s.stream

def stepWorker (s : State τ) : Option (State τ × List (Event τ)) :=
  match s.worker with
  | .waiting =>
      if ready s then some ({ s with worker := .woken }, []) else none
  -- the wait of 100 ms after an abort, whatever ends it
  | .pausing => some ({ s with worker := .waiting }, [])
  | .woken =>
      if s.finished then
        match s.transcript with
        | some transcript =>
            some ({ s with
              transcript := none
              worker := .delivering transcript true }, [])
        | none => some ({ s with worker := .returned }, [.returned])
      else if !s.connected && !s.connecting then
        some ({ s with worker := .returned }, [.returned])
      else
        match s.transcript with
        | some transcript =>
            some ({ s with
              transcript := none
              worker := .delivering transcript false }, [])
        | none => some ({ s with worker := .serving }, [])
  | .delivering transcript final =>
      some ({ s with worker := .relocking final }, [.delivered transcript])
  | .relocking final =>
      if final then some ({ s with worker := .returned }, [.returned])
      else some ({ s with worker := .serving }, [])
  | .serving =>
      if s.finishing then
        if s.stream then
          some ({ s with
            shutdownInitiated := true
            deqAudio := []
            worker := .draining s.deqAudio }, [])
        else some ({ s with shutdownInitiated := true, worker := .waiting }, [])
      else if s.stream then
        some ({ s with deqAudio := [], worker := .writing s.deqAudio }, [])
      else some ({ s with worker := .writing [] }, [])
  | .writing remaining =>
      match remaining with
      | [] => some ({ s with worker := .waiting }, [])
      | bits :: rest => some ({ s with worker := .writing rest }, [.wrote bits])
  | .draining remaining =>
      match remaining with
      | [] => some ({ s with worker := .flushing }, [.endOfStream])
      | bits :: rest =>
          some ({ s with worker := .draining rest }, [.wrote bits])
  | .flushing => some ({ s with worker := .closing }, [.flushed])
  | .closing => some ({ s with worker := .clearing }, [.closed])
  | .clearing => some ({ s with stream := false, worker := .waiting }, [])
  | .returned => none

/-- `wait_until` reaches `m_shutdownDeadline`; the first time the request is
aborted. -/
def stepTimeout (s : State τ) : Option (State τ × List (Event τ)) :=
  match s.worker with
  | .waiting =>
      if s.shutdownInitiated && !ready s then
        if s.requestAborted then some ({ s with worker := .pausing }, [])
        else
          some ({ s with requestAborted := true, worker := .pausing },
            [.aborted])
      else none
  | _ => none

def step (config : Config) (s : State τ) :
    Act τ → Option (State τ × List (Event τ))
  | .connect =>
      if s.connecting || s.finished then some (s, [])
      else some ({ s with connecting := true }, [.requested])
  | .write data => stepWrite s data
  | .media => stepMedia config s
  | .finish =>
      if s.finishing then some (s, [])
      else if s.worker.holds then none
      else some ({ s with finishing := true }, [.finishing])
  | .onStreamReady located =>
      if s.connecting ∧ s.streamReady = .notCalled then
        some ({ s with streamReady := .called located }, [])
      else none
  | .streamReady => stepStreamReady s
  | .onTranscriptEvent transcript =>
      if s.connecting ∧ s.worker.holds = false then
        some ({ s with transcript := some transcript }, [.stored transcript])
      else none
  | .onResponse =>
      if s.connecting ∧ s.worker.holds = false then
        some ({ s with finished := true }, [.responded])
      else none
  | .worker => stepWorker s
  | .timeout => stepTimeout s

def State.fresh (τ : Type) (config : Config) : State τ :=
  { finishing := false
    finished := false
    connected := false
    connecting := false
    stream := false
    transcript := none
    deqAudio := []
    audioBuffer := SimpleBuffer.create config.prebufChunkSize 15
    prebufStaging := []
    shutdownInitiated := false
    requestAborted := false
    worker := .waiting
    media := .idle
    streamReady := .notCalled }

def machine (τ : Type) (config : Config) :
    Machine (State τ) (Act τ) (Event τ) :=
  { initial := .fresh τ config
    step := step config }

end Steps

end DrachtioModules.Aws

import DrachtioModules.Machine
import DrachtioModules.Transcribe.SimpleBuffer

/-!
# The GStreamer of mod_google_transcribe

One `GStreamer` and the threads that meet at it: the thread of
`google_speech_session_init`, the media thread in `google_speech_frame`, the
gRPC read thread, and the callers of `reap_streamer`.

`m_write_mutex` is held around one operation on the stream's write side at a
time; taking it and starting the operation is one step, ending it and giving the
mutex back another.  `cb->mutex` is held by the media thread for the whole of a
frame callback and by a caller of `reap_streamer` for the whole of the reap.
-/

namespace DrachtioModules.Google

open Transcribe (Bytes SimpleBuffer)

/-- Whether the session has a VAD, `wants_single_utterance` and CHUNKSIZE. -/
structure Config where
  vad : Bool
  wantsSingleUtterance : Bool
  chunkSize : Nat
  deriving DecidableEq, Repr

/-- PREBUFFER_CHUNKS -/
def prebufferChunks : Nat := 15

/-- A `StreamingRecognizeRequest`: the streaming config or audio content. -/
inductive Request where
  | streamingConfig
  | audioContent (data : Bytes)
  deriving DecidableEq, Repr

/-- What is called on `m_streamer`'s write side. -/
inductive WriteOp where
  | write (request : Request)
  | writesDone
  | finish
  deriving DecidableEq, Repr

/-- A call of `write()`: about to load `m_connected`, about to lock, in
`Write`. -/
inductive Write where
  | test
  | lock
  | inside
  deriving DecidableEq, Repr

/-- A call of `connect()`. -/
inductive Connect where
  | publish
  | promise
  | config
  | writingConfig
  | drain
  | chunk (stage : Write) (data : Bytes)
  | staging
  | rest (stage : Write) (data : Bytes)
  | clear
  deriving DecidableEq, Repr

/-- `google_speech_session_init` from the new GStreamer on. -/
inductive Init where
  | connecting (stage : Connect)
  | createThread
  | ready
  | failed
  deriving DecidableEq, Repr

/-- A media-bug frame and whether the VAD starts talking at it. -/
structure Frame where
  data : Bytes
  talking : Bool
  deriving DecidableEq, Repr

/-- `google_speech_frame`; the lists are what `switch_core_media_bug_read` still
has to return. -/
inductive Media where
  | idle
  | looping (frames : List Frame)
  | connecting (stage : Connect) (data : Bytes) (frames : List Frame)
  | writing (stage : Write) (data : Bytes) (frames : List Frame)
  deriving DecidableEq, Repr

/-- `grpc_read_thread`. -/
inductive Read where
  | absent
  | waiting
  | reading
  | responding (endOfUtterance : Bool)
  | doneTest
  | doneLock
  | doneInside
  | finishLock
  | finishInside
  | exited
  deriving DecidableEq, Repr

/-- `reap_streamer`, called with `cb->mutex` held. -/
inductive Cleanup where
  | idle
  | load
  | doneTest
  | cancelConnect
  | doneLock
  | doneInside
  | join
  | delete
  deriving DecidableEq, Repr

structure State where
  streamer : Bool
  thread : Bool
  connected : Bool
  writesDone : Bool
  writeMutex : Bool
  promise : Bool
  gotEndOfUtterance : Bool
  audioBuffer : Option SimpleBuffer
  prebufStaging : Bytes
  init : Init
  media : Media
  read : Read
  cleanup : Cleanup
  deriving DecidableEq, Repr

/-- One atomic step.  `ok` is the outcome of `switch_thread_create`; `response`
is what `Read` returns: nothing, or a response that does or does not end the
utterance. -/
inductive Act where
  | init (ok : Bool)
  | frame (frames : List Frame)
  | media
  | cleanup
  | reap
  | read (response : Option Bool)
  deriving DecidableEq, Repr

inductive Event where
  | began (op : WriteOp)
  | ended (op : WriteOp)
  | promised
  | deleted
  deriving DecidableEq, Repr

/-- The pre-connect branch of `write()`. -/
def stage (config : Config) (s : State) (data : Bytes) : State :=
  let audioBuffer := s.audioBuffer.getD
    (SimpleBuffer.create config.chunkSize prebufferChunks)
  let staging := s.prebufStaging ++ data
  let usable := staging.length / config.chunkSize * config.chunkSize
  if usable ≠ 0 then
    { s with
      audioBuffer := some (audioBuffer.add (staging.take usable))
      prebufStaging := staging.drop usable }
  else { s with audioBuffer := some audioBuffer, prebufStaging := staging }

/-- One step of `write()`: the state after it, the stage that follows, if the
function has not returned, and the events it emits. -/
def stepWrite (config : Config) (s : State) (data : Bytes) :
    Write → Option (State × Option Write × List Event)
  | .test =>
      if s.connected then some (s, some .lock, [])
      else some (stage config s data, none, [])
  | .lock =>
      if s.writeMutex then none
      else if s.writesDone then some (s, none, [])
      else
        some ({ s with writeMutex := true }, some .inside,
          [.began (.write (.audioContent data))])
  | .inside =>
      some ({ s with writeMutex := false }, none,
        [.ended (.write (.audioContent data))])

def stepConnect (config : Config) (s : State) :
    Connect → Option (State × Option Connect × List Event)
  | .publish => some ({ s with connected := true }, some .promise, [])
  | .promise => some ({ s with promise := true }, some .config, [.promised])
  -- no look at m_writesDone here
  | .config =>
      if s.writeMutex then none
      else
        some ({ s with writeMutex := true }, some .writingConfig,
          [.began (.write .streamingConfig)])
  | .writingConfig =>
      some ({ s with writeMutex := false }, some .drain,
        [.ended (.write .streamingConfig)])
  | .drain =>
      match s.audioBuffer with
      | none => some (s, some .staging, [])
      | some audioBuffer =>
          match audioBuffer.getNextChunk with
          | (none, _) => some (s, some .staging, [])
          | (some offset, rest) =>
              some ({ s with audioBuffer := some rest },
                some (.chunk .test (audioBuffer.chunkAt offset)), [])
  | .chunk stage data =>
      match stepWrite config s data stage with
      | none => none
      | some (next, some stage, events) =>
          some (next, some (.chunk stage data), events)
      | some (next, none, events) => some (next, some .drain, events)
  | .staging =>
      if s.prebufStaging = [] then some (s, none, [])
      else some (s, some (.rest .test s.prebufStaging), [])
  | .rest stage data =>
      match stepWrite config s data stage with
      | none => none
      | some (next, some stage, events) =>
          some (next, some (.rest stage data), events)
      | some (next, none, events) => some (next, some .clear, events)
  | .clear => some ({ s with prebufStaging := [] }, none, [])

def stepInit (config : Config) (s : State) (ok : Bool) :
    Option (State × List Event) :=
  match s.init with
  | .connecting stage =>
      match stepConnect config s stage with
      | none => none
      | some (next, some stage, events) =>
          some ({ next with init := .connecting stage }, events)
      | some (next, none, events) =>
          some ({ next with init := .createThread }, events)
  | .createThread =>
      if ok then
        some ({ s with thread := true, read := .waiting, init := .ready }, [])
      else some ({ s with streamer := false, init := .failed }, [.deleted])
  | .ready | .failed => none

/-- The frame callback starts; it returns at once without a streamer, after the
one utterance that was wanted, and when the try-lock of `cb->mutex` fails. -/
def stepFrame (config : Config) (s : State) (frames : List Frame) :
    Option (State × List Event) :=
  if s.init = .ready ∧ s.media = .idle then
    if s.streamer = true ∧ (config.wantsSingleUtterance && s.gotEndOfUtterance)
        = false ∧ s.cleanup = .idle then
      some ({ s with media := .looping frames }, [])
    else some (s, [])
  else none

def stepMedia (config : Config) (s : State) : Option (State × List Event) :=
  match s.media with
  | .idle => none
  | .looping [] => some ({ s with media := .idle }, [])
  | .looping (frame :: frames) =>
      if config.vad && !s.connected && frame.talking then
        some ({ s with media := .connecting .publish frame.data frames }, [])
      else some ({ s with media := .writing .test frame.data frames }, [])
  | .connecting stage data frames =>
      match stepConnect config s stage with
      | none => none
      | some (next, some stage, events) =>
          some ({ next with media := .connecting stage data frames }, events)
      | some (next, none, events) =>
          some ({ next with media := .writing .test data frames }, events)
  | .writing stage data frames =>
      match stepWrite config s data stage with
      | none => none
      | some (next, some stage, events) =>
          some ({ next with media := .writing stage data frames }, events)
      | some (next, none, events) =>
          some ({ next with media := .looping frames }, events)

def stepRead (config : Config) (s : State) (response : Option Bool) :
    Option (State × List Event) :=
  match s.read with
  | .absent | .exited => none
  | .waiting =>
      if s.promise then
        if s.connected then some ({ s with read := .reading }, [])
        else some ({ s with read := .exited }, [])
      else none
  | .reading =>
      match response with
      | none => some ({ s with read := .finishLock }, [])
      | some endOfUtterance =>
          some ({ s with read := .responding endOfUtterance }, [])
  | .responding endOfUtterance =>
      if endOfUtterance then
        some ({ s with
          gotEndOfUtterance := true
          read := if config.wantsSingleUtterance then .doneTest
            else .reading }, [])
      else some ({ s with read := .reading }, [])
  | .doneTest =>
      if s.connected then some ({ s with read := .doneLock }, [])
      else some ({ s with promise := true, read := .reading }, [.promised])
  | .doneLock =>
      if s.writeMutex then none
      else if s.writesDone then some ({ s with read := .reading }, [])
      else
        some ({ s with writeMutex := true, read := .doneInside },
          [.began .writesDone])
  | .doneInside =>
      some ({ s with writeMutex := false, writesDone := true, read := .reading },
        [.ended .writesDone])
  | .finishLock =>
      if s.writeMutex then none
      else
        some ({ s with
          writeMutex := true
          writesDone := true
          read := .finishInside }, [.began .finish])
  | .finishInside =>
      some ({ s with writeMutex := false, read := .exited }, [.ended .finish])

def stepReap (s : State) : Option (State × List Event) :=
  match s.cleanup with
  | .idle => none
  | .load =>
      if s.streamer then some ({ s with cleanup := .doneTest }, [])
      else some ({ s with cleanup := .join }, [])
  | .doneTest =>
      if s.connected then some ({ s with cleanup := .doneLock }, [])
      else some ({ s with cleanup := .cancelConnect }, [])
  | .cancelConnect =>
      some ({ s with promise := true, cleanup := .join }, [.promised])
  | .doneLock =>
      if s.writeMutex then none
      else if s.writesDone then some ({ s with cleanup := .join }, [])
      else
        some ({ s with writeMutex := true, cleanup := .doneInside },
          [.began .writesDone])
  | .doneInside =>
      some ({ s with writeMutex := false, writesDone := true, cleanup := .join },
        [.ended .writesDone])
  | .join =>
      if s.thread then
        if s.read = .exited then
          some ({ s with thread := false, cleanup := .delete }, [])
        else none
      else some ({ s with cleanup := .delete }, [])
  | .delete =>
      if s.streamer then
        some ({ s with streamer := false, cleanup := .idle }, [.deleted])
      else some ({ s with cleanup := .idle }, [])

def step (config : Config) (s : State) : Act → Option (State × List Event)
  | .init ok => stepInit config s ok
  | .frame frames => stepFrame config s frames
  | .media => stepMedia config s
  | .cleanup =>
      if s.init = .ready ∧ s.media = .idle ∧ s.cleanup = .idle then
        some ({ s with cleanup := .load }, [])
      else none
  | .reap => stepReap s
  | .read response => stepRead config s response

/-- A new GStreamer; without a VAD it is connected before the read thread is
created. -/
def State.fresh (config : Config) : State :=
  { streamer := true
    thread := false
    connected := false
    writesDone := false
    writeMutex := false
    promise := false
    gotEndOfUtterance := false
    audioBuffer := none
    prebufStaging := []
    init := if config.vad then .createThread else .connecting .publish
    media := .idle
    read := .absent
    cleanup := .idle }

def machine (config : Config) : Machine State Act Event :=
  { initial := .fresh config
    step := step config }

end DrachtioModules.Google

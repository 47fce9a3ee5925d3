import DrachtioModules.AudioFork.Pipe

/-!
# The websocket pipe of mod_deepgram_transcribe

The `AudioPipe` of this module is a copy of the one of mod_audio_fork, and its
machine is cut the same way: every access to a field another thread may touch
is a step of its own.  What differs is how a pipe ends: `finish()` queues the
text that asks the far end to close, at most once.

Nothing in the module calls `close()`, so the list of pending disconnects stays
empty and has no part here, and `finish()` is the only caller of
`bufferForSending`.
-/

namespace DrachtioModules.Deepgram

open AudioFork (Bytes LwsState Frame Wsi Config NotifyEvent ConnectCall
  FailStage Callback Outcome forkFrame)

/-- `{"type": "CloseStream"}` -/
def closeStream : Bytes :=
  [0x7b, 0x22, 0x74, 0x79, 0x70, 0x65, 0x22, 0x3a, 0x20, 0x22, 0x43, 0x6c,
    0x6f, 0x73, 0x65, 0x53, 0x74, 0x72, 0x65, 0x61, 0x6d, 0x22, 0x7d]

structure Pipe where
  state : LwsState
  metadata : Bytes
  ring : Bytes
  audioLocked : Bool
  vhd : Bool
  gracefulShutdown : Bool
  finished : Bool
  closeSignaled : Bool
  inPendingConnects : Bool
  pendingWrites : Nat
  wsi : Wsi
  adopted : Bool
  writable : Bool
  deriving DecidableEq, Repr

/-- The next atomic step of a member function in progress. -/
inductive Code where
  | finishCheck
  | finishRecord
  | finishRecheck
  | finishExchange
  | bufferCheck
  | bufferAppend
  | queueWrite
  | cancelService
  | frameCheck (reads : List Bytes)
  | frameLock (reads : List Bytes)
  | frameRead (reads : List Bytes)
  | frameQueue
  | frameCancel
  | frameUnlock
  deriving DecidableEq, Repr

/-- A call by a thread other than the service thread: the reaper's `finish()`
or the frame callback. -/
inductive Op where
  | finish
  | transcribeFrame (reads : List Bytes)
  deriving DecidableEq, Repr

def Op.entry : Op → Code
  | .finish => .finishCheck
  | .transcribeFrame reads => .frameCheck reads

structure Call where
  op : Op
  code : Code
  deriving DecidableEq, Repr

/-- The next atomic step of the service thread inside `lws_callback`. -/
inductive Service where
  | idle
  | establishedAdopt
  | establishedFinish
  | establishedFinishing (code : Code)
  | establishedNotify
  | pendingConnects
  | connectClient
  | failing (stage : FailStage) (inPass : Bool)
  | pendingWrites
  | writeWritable
  | closedGracefully
  | closedDropped
  | closedStore
  | closedSignal
  | writeableText
  | writeableState
  | writeableAudio
  deriving DecidableEq, Repr

structure State where
  pipe : Pipe
  connectCall : ConnectCall
  calls : Nat → Option Call
  service : Service

/-- One atomic step.  `ok` is the outcome of the external call the step makes,
if any. -/
inductive Act where
  | connect (ok : Bool)
  | enter (thread : Nat) (op : Op)
  | advance (thread : Nat)
  | deliver (callback : Callback)
  | serve (ok : Bool)
  deriving DecidableEq, Repr

/-- `entered` is the call of a member function, `placed` the audio one frame
callback wrote to the buffer. -/
inductive Event where
  | entered (op : Op)
  | returned (op : Op)
  | placed (data : Bytes)
  | appended (text : Bytes)
  | sent (frame : Frame)
  | requestedWritable
  | notified (event : NotifyEvent) (finished : Bool)
  | closeSignaled
  | writeableReturned (outcome : Outcome)
  deriving DecidableEq, Repr

/-- The audio `dg_transcribe_frame` writes to the buffer: all it reads, or with
a resampler what it reads before too little space is left. -/
def placedBy (config : Config) (ring : Bytes) (reads : List Bytes) : Bytes :=
  if config.resampler then
    (AudioFork.readResampled config ring reads).drop ring.length
  else reads.flatten

/-- One atomic step of a member function: the pipe after it, the step that
follows, if the function has not returned, and the events it emits. -/
def stepCode (config : Config) (pipe : Pipe) :
    Code → Option (Pipe × Option Code × List Event)
  | .finishCheck =>
      if pipe.state = .connected then some (pipe, some .finishExchange, [])
      else some (pipe, some .finishRecord, [])
  | .finishRecord =>
      some ({ pipe with gracefulShutdown := true }, some .finishRecheck, [])
  | .finishRecheck =>
      if pipe.state = .connected then some (pipe, some .finishExchange, [])
      else some (pipe, none, [])
  -- m_finished.exchange(true)
  | .finishExchange =>
      if pipe.finished then some (pipe, none, [])
      else some ({ pipe with finished := true }, some .bufferCheck, [])
  | .bufferCheck =>
      if pipe.state = .connected then some (pipe, some .bufferAppend, [])
      else some (pipe, none, [])
  | .bufferAppend =>
      some ({ pipe with metadata := pipe.metadata ++ closeStream },
        some .queueWrite, [.appended closeStream])
  -- addPendingWrite
  | .queueWrite =>
      some ({ pipe with pendingWrites := pipe.pendingWrites + 1 },
        some .cancelService, [])
  | .cancelService => some (pipe, none, [])
  | .frameCheck reads =>
      if pipe.state = .connected then some (pipe, some (.frameLock reads), [])
      else some (pipe, none, [])
  | .frameLock reads =>
      if pipe.audioLocked then none
      else some ({ pipe with audioLocked := true }, some (.frameRead reads), [])
  | .frameRead reads =>
      some ({ pipe with ring := forkFrame config pipe.ring reads },
        some .frameQueue, [.placed (placedBy config pipe.ring reads)])
  -- unlockAudioBuffer
  | .frameQueue =>
      if pipe.ring = [] then some (pipe, some .frameUnlock, [])
      else
        some ({ pipe with pendingWrites := pipe.pendingWrites + 1 },
          some .frameCancel, [])
  | .frameCancel => some (pipe, some .frameUnlock, [])
  | .frameUnlock => some ({ pipe with audioLocked := false }, none, [])

/-- `setClosed()`. -/
def setClosed (pipe : Pipe) : Pipe × List Event :=
  if pipe.closeSignaled then (pipe, [])
  else ({ pipe with closeSignaled := true }, [.closeSignaled])

/-- `connect()`, that is `addPendingConnect`. -/
def stepConnect (s : State) (ok : Bool) : Option (State × List Event) :=
  match s.connectCall with
  | .notCalled => some ({ s with connectCall := .entered }, [])
  | .entered =>
      if ok then
        some ({ s with
          pipe := { s.pipe with inPendingConnects := true }
          connectCall := .cancelService }, [])
      else
        some ({ s with
          pipe := { s.pipe with state := .failed }
          connectCall := .notify }, [])
  | .notify =>
      some ({ s with connectCall := .signal },
        [.notified .connectFail s.pipe.finished])
  | .signal =>
      some ({ s with
        pipe := (setClosed s.pipe).1
        connectCall := .returned }, (setClosed s.pipe).2)
  | .cancelService => some ({ s with connectCall := .returned }, [])
  | .returned => none

/-- lws starts a callback on the idle service thread.  The list lookup at the
head of ESTABLISHED and CONNECTION_ERROR is `findAndRemovePendingConnect`. -/
def deliver (s : State) : Callback → Option (State × List Event)
  | .established =>
      if s.pipe.wsi = .handshaking then
        if s.pipe.inPendingConnects ∧ s.pipe.state = .connecting then
          some ({ s with
            pipe := { s.pipe with inPendingConnects := false, wsi := .opened }
            service := .establishedAdopt }, [])
        else some ({ s with pipe := { s.pipe with wsi := .opened } }, [])
      else none
  | .connectionError =>
      if s.pipe.wsi = .handshaking then
        if s.pipe.inPendingConnects ∧ s.pipe.state = .connecting then
          some ({ s with
            pipe := { s.pipe with inPendingConnects := false, wsi := .freed }
            service := .failing .store false }, [])
        else some ({ s with pipe := { s.pipe with wsi := .freed } }, [])
      else none
  | .closed =>
      if s.pipe.wsi = .opened ∨ s.pipe.wsi = .closing then
        if s.pipe.adopted then
          some ({ s with
            pipe := { s.pipe with wsi := .freed }
            service := .closedGracefully }, [])
        else some ({ s with pipe := { s.pipe with wsi := .freed } }, [])
      else none
  | .receive text =>
      if s.pipe.wsi = .opened then
        if s.pipe.adopted then
          some (s, [.notified (.message text) s.pipe.finished])
        else some (s, [])
      else none
  | .writeable =>
      if s.pipe.wsi = .opened then
        if s.pipe.adopted then
          some ({ s with
            pipe := { s.pipe with writable := false }
            service := .writeableText }, [])
        else some ({ s with pipe := { s.pipe with writable := false } }, [])
      else none
  | .eventWaitCancelled => some ({ s with service := .pendingConnects }, [])

/-- A WRITEABLE callback returns; lws closes a connection whose callback
returned -1. -/
def endWriteable (s : State) (pipe : Pipe) (events : List Event)
    (outcome : Outcome) : State × List Event :=
  ({ s with
      pipe := if outcome.returned = 0 then pipe else { pipe with wsi := .closing }
      service := .idle },
    events ++ [.writeableReturned outcome])

def serve (config : Config) (s : State) (ok : Bool) :
    Option (State × List Event) :=
  match s.service with
  | .idle => none
  -- LWS_CALLBACK_CLIENT_ESTABLISHED
  | .establishedAdopt =>
      some ({ s with
        pipe := { s.pipe with adopted := true, vhd := true, state := .connected }
        service := .establishedFinish }, [])
  | .establishedFinish =>
      if s.pipe.gracefulShutdown then
        some ({ s with service := .establishedFinishing .finishCheck }, [])
      else some ({ s with service := .establishedNotify }, [])
  | .establishedFinishing code =>
      match stepCode config s.pipe code with
      | none => none
      | some (pipe, some next, events) =>
          some ({ s with pipe := pipe, service := .establishedFinishing next },
            events)
      | some (pipe, none, events) =>
          some ({ s with pipe := pipe, service := .establishedNotify }, events)
  | .establishedNotify =>
      some ({ s with service := .idle },
        [.notified .connectSuccess s.pipe.finished])
  -- LWS_CALLBACK_EVENT_WAIT_CANCELLED
  | .pendingConnects =>
      if s.pipe.inPendingConnects ∧ s.pipe.state = .idle then
        some ({ s with
          pipe := { s.pipe with state := .connecting }
          service := .connectClient }, [])
      else some ({ s with service := .pendingWrites }, [])
  | .connectClient =>
      if ok then
        some ({ s with
          pipe := { s.pipe with
            state := .connecting, vhd := true, wsi := .handshaking }
          service := .pendingWrites }, [])
      else
        some ({ s with
          pipe := { s.pipe with state := .connecting, vhd := true }
          service := .failing .store true }, [])
  | .failing .store inPass =>
      some ({ s with
        pipe := { s.pipe with state := .failed }
        service := .failing .notify inPass }, [])
  | .failing .notify inPass =>
      some ({ s with service := .failing .signal inPass },
        [.notified .connectFail s.pipe.finished])
  | .failing .signal inPass =>
      some ({ s with
        pipe := (setClosed s.pipe).1
        service := if inPass then .pendingWrites else .idle },
        (setClosed s.pipe).2)
  | .pendingWrites =>
      if s.pipe.vhd ∧ 0 < s.pipe.pendingWrites then
        if s.pipe.state = .connected then
          some ({ s with
            pipe := { s.pipe with pendingWrites := 0 }
            service := .writeWritable }, [])
        else
          some ({ s with
            pipe := { s.pipe with pendingWrites := 0 }
            service := .idle }, [])
      else some ({ s with service := .idle }, [])
  | .writeWritable =>
      some ({ s with
        pipe := { s.pipe with writable := true }
        service := .idle }, [.requestedWritable])
  -- LWS_CALLBACK_CLIENT_CLOSED: m_state is loaded once for each comparison
  | .closedGracefully =>
      if s.pipe.state = .disconnecting then
        some ({ s with service := .closedStore },
          [.notified .connectionClosedGracefully s.pipe.finished])
      else some ({ s with service := .closedDropped }, [])
  | .closedDropped =>
      if s.pipe.state = .connected then
        some ({ s with service := .closedStore },
          [.notified .connectionDropped s.pipe.finished])
      else some ({ s with service := .closedStore }, [])
  | .closedStore =>
      some ({ s with
        pipe := { s.pipe with state := .disconnected }
        service := .closedSignal }, [])
  | .closedSignal =>
      some ({ s with
        pipe := { (setClosed s.pipe).1 with adopted := false }
        service := .idle }, (setClosed s.pipe).2)
  -- LWS_CALLBACK_CLIENT_WRITEABLE
  | .writeableText =>
      if s.pipe.metadata = [] then
        some ({ s with service := .writeableState }, [])
      else if ok then
        some (endWriteable s { s.pipe with metadata := [], writable := true }
          [.sent (.text s.pipe.metadata), .requestedWritable] .textSent)
      else some (endWriteable s { s.pipe with metadata := [] } [] .writeFailed)
  | .writeableState =>
      if s.pipe.state = .disconnecting then
        some (endWriteable s s.pipe [] .closing)
      else some ({ s with service := .writeableAudio }, [])
  | .writeableAudio =>
      if s.pipe.audioLocked then none
      else if s.pipe.ring = [] then some (endWriteable s s.pipe [] .drained)
      else if ok then
        some (endWriteable s { s.pipe with ring := [] }
          [.sent (.binary s.pipe.ring)] .audioSent)
      else some (endWriteable s { s.pipe with ring := [] } [] .audioSent)

def stepCall (config : Config) (s : State) (thread : Nat) :
    Option (State × List Event) :=
  match s.calls thread with
  | none => none
  | some call =>
      match stepCode config s.pipe call.code with
      | none => none
      | some (pipe, some next, events) =>
          some ({ s with
            pipe := pipe
            calls := Function.update s.calls thread
              (some { call with code := next }) }, events)
      | some (pipe, none, events) =>
          some ({ s with
            pipe := pipe
            calls := Function.update s.calls thread none },
            events ++ [.returned call.op])

def step (config : Config) (s : State) : Act → Option (State × List Event)
  | .connect ok => stepConnect s ok
  | .enter thread op =>
      match s.calls thread with
      | none =>
          some ({ s with
            calls := Function.update s.calls thread (some ⟨op, op.entry⟩) },
            [.entered op])
      | some _ => none
  | .advance thread => stepCall config s thread
  | .deliver callback =>
      if s.service = .idle then deliver s callback else none
  | .serve ok => serve config s ok

/-- A freshly constructed `AudioPipe`. -/
def Pipe.fresh : Pipe :=
  { state := .idle
    metadata := []
    ring := []
    audioLocked := false
    vhd := false
    gracefulShutdown := false
    finished := false
    closeSignaled := false
    inPendingConnects := false
    pendingWrites := 0
    wsi := .none
    adopted := false
    writable := false }

def State.fresh : State :=
  { pipe := .fresh
    connectCall := .notCalled
    calls := fun _ => none
    service := .idle }

def machine (config : Config) : Machine State Act Event :=
  { initial := .fresh
    step := step config }

/-- `connect()`, the pass that dials and ESTABLISHED on a pipe nobody has
finished. -/
def establish : List Act :=
  List.replicate 3 (.connect true) ++ [.deliver .eventWaitCancelled] ++
    List.replicate 3 (.serve true) ++ [.deliver .established] ++
    List.replicate 3 (.serve true)

/-- One frame callback of `thread` that reads `data`. -/
def frameCallback (thread : Nat) (data : Bytes) : List Act :=
  .enter thread (.transcribeFrame [data]) ::
    List.replicate 6 (.advance thread)

end DrachtioModules.Deepgram

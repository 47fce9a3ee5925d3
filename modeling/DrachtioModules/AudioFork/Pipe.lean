import DrachtioModules.Machine
import Mathlib.Logic.Function.Basic

/-!
# The websocket pipe of mod_audio_fork

One `AudioPipe` shared by three kinds of threads: callers of its member
functions (API, media-bug and reaper threads), and the single lws service
thread that runs `lws_callback` for its connection.  Every access to a field
another thread may touch is a step of its own; a region under one of the
pipe's mutexes that touches nothing else shared is a single step, enabled
while that mutex is free.

A member function in progress is a `Code`, the same whether a caller runs it
or the service thread runs it from inside a callback.
-/

namespace DrachtioModules.AudioFork

abbrev Bytes := List UInt8

/-- `AudioPipe::LwsState_t`. -/
inductive LwsState where
  | idle
  | connecting
  | connected
  | failed
  | disconnecting
  | disconnected
  deriving DecidableEq, Repr

/-- `AudioPipe::NotifyEvent_t`, with the text of a MESSAGE. -/
inductive NotifyEvent where
  | connectSuccess
  | connectFail
  | connectionDropped
  | connectionClosedGracefully
  | message (text : Bytes)
  deriving DecidableEq, Repr

/-- A websocket frame handed to `lws_write`. -/
inductive Frame where
  | text (payload : Bytes)
  | binary (payload : Bytes)
  deriving DecidableEq, Repr

/-- What lws knows of the pipe's connection: no wsi yet, handshake outstanding,
open, closing after a callback returned -1, or freed. -/
inductive Wsi where
  | none
  | handshaking
  | opened
  | closing
  | freed
  deriving DecidableEq, Repr

/-- What `fork_data_init` fixes about the pipe's audio buffer: its bytes beyond
`LWS_PRE`, `binaryMinSpace()`, the channel count, and whether the session has a
resampler. -/
structure Config where
  capacity : Nat
  minFreespace : Nat
  channels : Nat
  resampler : Bool
  deriving DecidableEq, Repr

/-- `fork_frame` without a resampler: the buffer is dumped whenever less than
`binaryMinSpace() * channels` is left before a read; `reads` are the payloads
of the successful `switch_core_media_bug_read` calls. -/
def readNative (config : Config) (ring : Bytes) : List Bytes → Bytes
  | [] =>
      if config.capacity - ring.length < config.minFreespace * config.channels
      then [] else ring
  | data :: reads =>
      if config.capacity - ring.length < config.minFreespace * config.channels
      then readNative config data reads
      else readNative config (ring ++ data) reads

/-- `fork_frame` with a resampler: `reads` are the outputs of the resampler,
and the loop ends early once less than `binaryMinSpace()` is left. -/
def readResampled (config : Config) (ring : Bytes) : List Bytes → Bytes
  | [] => ring
  | data :: reads =>
      if config.capacity - (ring ++ data).length < config.minFreespace
      then ring ++ data
      else readResampled config (ring ++ data) reads

def forkFrame (config : Config) (ring : Bytes) (reads : List Bytes) : Bytes :=
  if config.resampler then readResampled config ring reads
  else readNative config ring reads

/-- The fields of an `AudioPipe`, its entries in the static pending lists and
what lws holds for its connection.  `adopted` says that the per-wsi user
pointer names the pipe, `writable` that a writable callback is requested. -/
structure Pipe where
  state : LwsState
  metadata : Bytes
  ring : Bytes
  audioLocked : Bool
  vhd : Bool
  gracefulShutdown : Bool
  closePending : Bool
  closeSignaled : Bool
  inPendingConnects : Bool
  pendingDisconnects : Nat
  pendingWrites : Nat
  wsi : Wsi
  adopted : Bool
  writable : Bool
  deriving DecidableEq, Repr

/-- The next atomic step of a member function in progress. -/
inductive Code where
  | gracefulCheck
  | gracefulRecord
  | gracefulRecheck
  | closeCheck
  | closeRecord
  | closeRecheck
  | closeExchange
  | closeQueue
  | bufferCheck (text : Bytes)
  | bufferAppend (text : Bytes)
  | queueWrite
  | cancelService
  | frameCheck (reads : List Bytes)
  | frameLock (reads : List Bytes)
  | frameRead (reads : List Bytes)
  | frameQueue
  | frameCancel
  | frameUnlock
  deriving DecidableEq, Repr

/-- A call of a member function by a thread other than the service thread. -/
inductive Op where
  | doGracefulShutdown
  | close
  | bufferForSending (text : Bytes)
  | forkFrame (reads : List Bytes)
  deriving DecidableEq, Repr

def Op.entry : Op → Code
  | .doGracefulShutdown => .gracefulCheck
  | .close => .closeCheck
  | .bufferForSending text => .bufferCheck text
  | .forkFrame reads => .frameCheck reads

structure Call where
  op : Op
  code : Code
  deriving DecidableEq, Repr

/-- The one call of `connect()` on the pipe. -/
inductive ConnectCall where
  | notCalled
  | entered
  | notify
  | signal
  | cancelService
  | returned
  deriving DecidableEq, Repr

/-- The common tail of every failed connect. -/
inductive FailStage where
  | store
  | notify
  | signal
  deriving DecidableEq, Repr

/-- The next atomic step of the service thread inside `lws_callback`. -/
inductive Service where
  | idle
  | establishedAdopt
  | establishedClose
  | establishedClosing (code : Code)
  | establishedGraceful
  | establishedShutdown (code : Code)
  | establishedNotify
  | establishedMetadata (code : Code)
  | pendingConnects
  | connectClient
  | failing (stage : FailStage) (inPass : Bool)
  | pendingDisconnects
  | disconnectWritable
  | pendingWrites
  | writeWritable
  | closedGracefully
  | closedDropped
  | closedStore
  | closedSignal
  | writeableFlag
  | writeableFlush
  | writeableText
  | writeableState
  | writeableAudio
  deriving DecidableEq, Repr

structure State where
  pipe : Pipe
  connectCall : ConnectCall
  calls : Nat → Option Call
  service : Service

/-- A callback lws delivers on the service thread. -/
inductive Callback where
  | established
  | connectionError
  | closed
  | receive (text : Bytes)
  | writeable
  | eventWaitCancelled
  deriving DecidableEq, Repr

/-- One atomic step.  `ok` is the outcome of the external call the step makes,
if any: a live lws context in `addPendingConnect`, `lws_client_connect_via_info`
and `lws_write`.  `metadata` is the text, if any, that the session's callback
sends on CONNECT_SUCCESS. -/
inductive Act where
  | connect (ok : Bool)
  | enter (thread : Nat) (op : Op)
  | advance (thread : Nat)
  | deliver (callback : Callback)
  | serve (ok : Bool) (metadata : Option Bytes)
  deriving DecidableEq, Repr

/-- How a WRITEABLE callback ends. -/
inductive Outcome where
  | flushed
  | textSent
  | closing
  | writeFailed
  | audioSent
  | drained
  deriving DecidableEq, Repr

/-- The value `lws_callback` returns to lws. -/
def Outcome.returned : Outcome → Int
  | .closing => -1
  | .writeFailed => -1
  | .flushed | .textSent | .audioSent | .drained => 0

inductive Event where
  | returned (op : Op)
  | accepted (text : Bytes)
  | sent (frame : Frame)
  | requestedWritable
  | notified (event : NotifyEvent)
  | closeSignaled
  | writeableEntered
  | writeableReturned (outcome : Outcome)
  deriving DecidableEq, Repr

/-- One atomic step of a member function: the pipe after it, the step that
follows, if the function has not returned, and the events it emits. -/
def stepCode (config : Config) (pipe : Pipe) :
    Code → Option (Pipe × Option Code × List Event)
  | .gracefulCheck =>
      if pipe.state = .connected then some (pipe, some .queueWrite, [])
      else some (pipe, some .gracefulRecord, [])
  | .gracefulRecord =>
      some ({ pipe with gracefulShutdown := true }, some .gracefulRecheck, [])
  | .gracefulRecheck =>
      if pipe.state = .connected then some (pipe, some .queueWrite, [])
      else some (pipe, none, [])
  | .closeCheck =>
      if pipe.state = .connected then some (pipe, some .closeExchange, [])
      else some (pipe, some .closeRecord, [])
  | .closeRecord =>
      some ({ pipe with closePending := true }, some .closeRecheck, [])
  | .closeRecheck =>
      if pipe.state = .connected then some (pipe, some .closeExchange, [])
      else some (pipe, none, [])
  -- addPendingDisconnect: only CONNECTED may become DISCONNECTING
  | .closeExchange =>
      if pipe.state = .connected then
        some ({ pipe with state := .disconnecting }, some .closeQueue, [])
      else some (pipe, none, [])
  | .closeQueue =>
      some ({ pipe with pendingDisconnects := pipe.pendingDisconnects + 1 },
        some .cancelService, [])
  | .bufferCheck text =>
      if pipe.state = .connected then some (pipe, some (.bufferAppend text), [])
      else some (pipe, none, [])
  | .bufferAppend text =>
      some ({ pipe with metadata := pipe.metadata ++ text },
        some .queueWrite, [.accepted text])
  -- addPendingWrite
  | .queueWrite =>
      some ({ pipe with pendingWrites := pipe.pendingWrites + 1 },
        some .cancelService, [])
  | .cancelService => some (pipe, none, [])
  | .frameCheck reads =>
      if pipe.state = .connected then some (pipe, some (.frameLock reads), [])
      else some (pipe, none, [])
  | .frameLock reads =>
      if pipe.audioLocked then none
      else some ({ pipe with audioLocked := true }, some (.frameRead reads), [])
  | .frameRead reads =>
      some ({ pipe with ring := forkFrame config pipe.ring reads },
        some .frameQueue, [])
  -- unlockAudioBuffer
  | .frameQueue =>
      if pipe.ring = [] then some (pipe, some .frameUnlock, [])
      else
        some ({ pipe with pendingWrites := pipe.pendingWrites + 1 },
          some .frameCancel, [])
  | .frameCancel => some (pipe, some .frameUnlock, [])
  | .frameUnlock => some ({ pipe with audioLocked := false }, none, [])

/-- `setClosed()`. -/
def setClosed (pipe : Pipe) : Pipe × List Event :=
  if pipe.closeSignaled then (pipe, [])
  else ({ pipe with closeSignaled := true }, [.closeSignaled])

/-- `connect()`, that is `addPendingConnect`. -/
def stepConnect (s : State) (ok : Bool) : Option (State × List Event) :=
  match s.connectCall with
  | .notCalled => some ({ s with connectCall := .entered }, [])
  | .entered =>
      if ok then
        some ({ s with
          pipe := { s.pipe with inPendingConnects := true }
          connectCall := .cancelService }, [])
      else
        some ({ s with
          pipe := { s.pipe with state := .failed }
          connectCall := .notify }, [])
  | .notify =>
      some ({ s with connectCall := .signal }, [.notified .connectFail])
  | .signal =>
      some ({ s with
        pipe := (setClosed s.pipe).1
        connectCall := .returned }, (setClosed s.pipe).2)
  | .cancelService => some ({ s with connectCall := .returned }, [])
  | .returned => none

/-- lws starts a callback on the idle service thread.  The list lookup at the
head of ESTABLISHED and CONNECTION_ERROR is `findAndRemovePendingConnect`. -/
def deliver (s : State) : Callback → Option (State × List Event)
  | .established =>
      if s.pipe.wsi = .handshaking then
        if s.pipe.inPendingConnects ∧ s.pipe.state = .connecting then
          some ({ s with
            pipe := { s.pipe with inPendingConnects := false, wsi := .opened }
            service := .establishedAdopt }, [])
        else some ({ s with pipe := { s.pipe with wsi := .opened } }, [])
      else none
  | .connectionError =>
      if s.pipe.wsi = .handshaking then
        if s.pipe.inPendingConnects ∧ s.pipe.state = .connecting then
          some ({ s with
            pipe := { s.pipe with inPendingConnects := false, wsi := .freed }
            service := .failing .store false }, [])
        else some ({ s with pipe := { s.pipe with wsi := .freed } }, [])
      else none
  | .closed =>
      if s.pipe.wsi = .opened ∨ s.pipe.wsi = .closing then
        if s.pipe.adopted then
          some ({ s with
            pipe := { s.pipe with wsi := .freed }
            service := .closedGracefully }, [])
        else some ({ s with pipe := { s.pipe with wsi := .freed } }, [])
      else none
  | .receive text =>
      if s.pipe.wsi = .opened then
        if s.pipe.adopted then some (s, [.notified (.message text)])
        else some (s, [])
      else none
  | .writeable =>
      if s.pipe.wsi = .opened then
        if s.pipe.adopted then
          some ({ s with
            pipe := { s.pipe with writable := false }
            service := .writeableFlag }, [.writeableEntered])
        else some ({ s with pipe := { s.pipe with writable := false } }, [])
      else none
  | .eventWaitCancelled => some ({ s with service := .pendingConnects }, [])

/-- A WRITEABLE callback returns; lws closes a connection whose callback
returned -1. -/
def endWriteable (s : State) (pipe : Pipe) (events : List Event)
    (outcome : Outcome) : State × List Event :=
  ({ s with
      pipe := if outcome.returned = 0 then pipe else { pipe with wsi := .closing }
      service := .idle },
    events ++ [.writeableReturned outcome])

/-- The service thread runs one step of a member function it called from inside
a callback. -/
def serveCode (config : Config) (s : State) (code : Code)
    (resume : Code → Service) (done : Service) :
    Option (State × List Event) :=
  match stepCode config s.pipe code with
  | none => none
  | some (pipe, some next, events) =>
      some ({ s with pipe := pipe, service := resume next }, events)
  | some (pipe, none, events) =>
      some ({ s with pipe := pipe, service := done }, events)

def serve (config : Config) (s : State) (ok : Bool) (metadata : Option Bytes) :
    Option (State × List Event) :=
  match s.service with
  | .idle => none
  -- LWS_CALLBACK_CLIENT_ESTABLISHED
  | .establishedAdopt =>
      some ({ s with
        pipe := { s.pipe with adopted := true, vhd := true, state := .connected }
        service := .establishedClose }, [])
  | .establishedClose =>
      if s.pipe.closePending then
        some ({ s with service := .establishedClosing .closeCheck }, [])
      else some ({ s with service := .establishedGraceful }, [])
  | .establishedClosing code =>
      serveCode config s code .establishedClosing .establishedGraceful
  | .establishedGraceful =>
      if s.pipe.gracefulShutdown then
        some ({ s with service := .establishedShutdown .gracefulCheck }, [])
      else some ({ s with service := .establishedNotify }, [])
  | .establishedShutdown code =>
      serveCode config s code .establishedShutdown .establishedNotify
  | .establishedNotify =>
      match metadata with
      | some text =>
          some ({ s with service := .establishedMetadata (.bufferCheck text) },
            [.notified .connectSuccess])
      | none => some ({ s with service := .idle }, [.notified .connectSuccess])
  | .establishedMetadata code =>
      serveCode config s code .establishedMetadata .idle
  -- LWS_CALLBACK_EVENT_WAIT_CANCELLED
  | .pendingConnects =>
      if s.pipe.inPendingConnects ∧ s.pipe.state = .idle then
        some ({ s with
          pipe := { s.pipe with state := .connecting }
          service := .connectClient }, [])
      else some ({ s with service := .pendingDisconnects }, [])
  | .connectClient =>
      if ok then
        some ({ s with
          pipe := { s.pipe with
            state := .connecting, vhd := true, wsi := .handshaking }
          service := .pendingDisconnects }, [])
      else
        some ({ s with
          pipe := { s.pipe with state := .connecting, vhd := true }
          service := .failing .store true }, [])
  | .failing .store inPass =>
      some ({ s with
        pipe := { s.pipe with state := .failed }
        service := .failing .notify inPass }, [])
  | .failing .notify inPass =>
      some ({ s with service := .failing .signal inPass },
        [.notified .connectFail])
  | .failing .signal inPass =>
      some ({ s with
        pipe := (setClosed s.pipe).1
        service := if inPass then .pendingDisconnects else .idle },
        (setClosed s.pipe).2)
  | .pendingDisconnects =>
      if s.pipe.vhd ∧ 0 < s.pipe.pendingDisconnects then
        if s.pipe.state = .disconnecting then
          some ({ s with
            pipe := { s.pipe with pendingDisconnects := 0 }
            service := .disconnectWritable }, [])
        else
          some ({ s with
            pipe := { s.pipe with pendingDisconnects := 0 }
            service := .pendingWrites }, [])
      else some ({ s with service := .pendingWrites }, [])
  | .disconnectWritable =>
      some ({ s with
        pipe := { s.pipe with writable := true }
        service := .pendingWrites }, [.requestedWritable])
  | .pendingWrites =>
      if s.pipe.vhd ∧ 0 < s.pipe.pendingWrites then
        if s.pipe.state = .connected then
          some ({ s with
            pipe := { s.pipe with pendingWrites := 0 }
            service := .writeWritable }, [])
        else
          some ({ s with
            pipe := { s.pipe with pendingWrites := 0 }
            service := .idle }, [])
      else some ({ s with service := .idle }, [])
  | .writeWritable =>
      some ({ s with
        pipe := { s.pipe with writable := true }
        service := .idle }, [.requestedWritable])
  -- LWS_CALLBACK_CLIENT_CLOSED: m_state is loaded once for each comparison
  | .closedGracefully =>
      if s.pipe.state = .disconnecting then
        some ({ s with service := .closedStore },
          [.notified .connectionClosedGracefully])
      else some ({ s with service := .closedDropped }, [])
  | .closedDropped =>
      if s.pipe.state = .connected then
        some ({ s with service := .closedStore }, [.notified .connectionDropped])
      else some ({ s with service := .closedStore }, [])
  | .closedStore =>
      some ({ s with
        pipe := { s.pipe with state := .disconnected }
        service := .closedSignal }, [])
  | .closedSignal =>
      some ({ s with
        pipe := { (setClosed s.pipe).1 with adopted := false }
        service := .idle }, (setClosed s.pipe).2)
  -- LWS_CALLBACK_CLIENT_WRITEABLE
  | .writeableFlag =>
      if s.pipe.gracefulShutdown then
        some ({ s with service := .writeableFlush }, [])
      else some ({ s with service := .writeableText }, [])
  | .writeableFlush =>
      if s.pipe.audioLocked then none
      else if ok then
        some (endWriteable s s.pipe [.sent (.binary [])] .flushed)
      else some (endWriteable s s.pipe [] .writeFailed)
  | .writeableText =>
      if s.pipe.metadata = [] then
        some ({ s with service := .writeableState }, [])
      else if ok then
        some (endWriteable s { s.pipe with metadata := [], writable := true }
          [.sent (.text s.pipe.metadata), .requestedWritable] .textSent)
      else some (endWriteable s { s.pipe with metadata := [] } [] .writeFailed)
  | .writeableState =>
      if s.pipe.state = .disconnecting then
        some (endWriteable s s.pipe [] .closing)
      else some ({ s with service := .writeableAudio }, [])
  | .writeableAudio =>
      if s.pipe.audioLocked then none
      else if s.pipe.ring = [] then some (endWriteable s s.pipe [] .drained)
      else if ok then
        some (endWriteable s { s.pipe with ring := [] }
          [.sent (.binary s.pipe.ring)] .audioSent)
      else some (endWriteable s { s.pipe with ring := [] } [] .audioSent)

def stepCall (config : Config) (s : State) (thread : Nat) :
    Option (State × List Event) :=
  match s.calls thread with
  | none => none
  | some call =>
      match stepCode config s.pipe call.code with
      | none => none
      | some (pipe, some next, events) =>
          some ({ s with
            pipe := pipe
            calls := Function.update s.calls thread
              (some { call with code := next }) }, events)
      | some (pipe, none, events) =>
          some ({ s with
            pipe := pipe
            calls := Function.update s.calls thread none },
            events ++ [.returned call.op])

def step (config : Config) (s : State) : Act → Option (State × List Event)
  | .connect ok => stepConnect s ok
  | .enter thread op =>
      match s.calls thread with
      | none =>
          some ({ s with
            calls := Function.update s.calls thread (some ⟨op, op.entry⟩) }, [])
      | some _ => none
  | .advance thread => stepCall config s thread
  | .deliver callback =>
      if s.service = .idle then deliver s callback else none
  | .serve ok metadata => serve config s ok metadata

/-- A freshly constructed `AudioPipe`. -/
def Pipe.fresh : Pipe :=
  { state := .idle
    metadata := []
    ring := []
    audioLocked := false
    vhd := false
    gracefulShutdown := false
    closePending := false
    closeSignaled := false
    inPendingConnects := false
    pendingDisconnects := 0
    pendingWrites := 0
    wsi := .none
    adopted := false
    writable := false }

def State.fresh : State :=
  { pipe := .fresh
    connectCall := .notCalled
    calls := fun _ => none
    service := .idle }

def machine (config : Config) : Machine State Act Event :=
  { initial := .fresh
    step := step config }

/-- The service thread takes `count` steps whose external calls succeed. -/
def serves (count : Nat) : List Act :=
  List.replicate count (.serve true none)

/-- `connect()` and the service pass that adopts the pipe: its handshake is
then outstanding. -/
def startHandshake : List Act :=
  List.replicate 3 (.connect true) ++ [.deliver .eventWaitCancelled] ++ serves 4

end DrachtioModules.AudioFork

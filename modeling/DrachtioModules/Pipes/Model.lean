import DrachtioModules.AudioFork.Pipe

/-!
# Many pipes and one lws service thread

The `AudioPipe`s of mod_audio_fork and mod_deepgram_transcribe, as many as there
are sessions, with what they share: the three static pending lists and the one
service thread that `initialize` starts.  A pipe is named by a number, and so is
the wsi of its one connection.

A session's threads use its pipe under `tech_pvt->mutex` until `reaper()` takes
the pipe out of the session; the reaper thread then closes it, waits for the
close to be signalled and deletes it.  The memory of a deleted pipe keeps what
was last in it, so that a use after free is a step like any other.

The two copies of `AudioPipe` differ in their member functions and in what
ESTABLISHED and WRITEABLE complete.  Of the text and the audio a pipe holds only
whether there is any matters to the shared lists; `m_text_mutex` and
`m_audio_mutex`, which protect the bytes, are left out.
-/

namespace DrachtioModules.Pipes

open AudioFork (Bytes LwsState NotifyEvent Wsi ConnectCall FailStage)

/-- Whose `AudioPipe` it is. -/
inductive Variant where
  | audioFork
  | deepgram
  deriving DecidableEq, Repr

/-- The next atomic step of a member function in progress. -/
inductive Code where
  | gracefulCheck
  | gracefulRecord
  | gracefulRecheck
  | finishExchange
  | closeCheck
  | closeRecord
  | closeRecheck
  | closeExchange
  | closeQueue
  | bufferCheck
  | bufferAppend
  | queueWrite
  | cancelService
  | frameCheck
  | frameRead
  | frameQueue
  deriving DecidableEq, Repr

/-- The reaper thread: `close()` or `finish()`, `waitForClose()`, and the
destructor with the three removals of `removeFromPending`. -/
inductive Reaper where
  | closing (code : Code)
  | waiting
  | fromConnects
  | fromDisconnects
  | fromWrites
  | deleted
  deriving DecidableEq, Repr

/-- Who may delete the pipe.  While `tech_pvt->pAudioPipe` names it,
`tech_pvt->mutex` is free, held by a thread in a member function, or held by the
service thread in a CONNECT_SUCCESS callback. -/
inductive Owner where
  | session (call : Option Code)
  | callback
  | reaper (stage : Reaper)
  deriving DecidableEq, Repr

/-- The fields of an `AudioPipe`, what lws holds for its connection, the one
call of `connect()` on it and its owner.  `pwsi` says that `m_wsi` is not null,
`text` and `audio` that `m_metadata` and the ring are not empty, `adopted` that
the per-wsi user pointer names the pipe. -/
structure Pipe where
  state : LwsState
  pwsi : Bool
  vhd : Bool
  gracefulShutdown : Bool
  finished : Bool
  closePending : Bool
  closeSignaled : Bool
  text : Bool
  audio : Bool
  wsi : Wsi
  adopted : Bool
  connectCall : ConnectCall
  owner : Owner
  deriving DecidableEq, Repr

inductive Established where
  | adopt
  | close
  | closing (code : Code)
  | graceful
  | shutdown (code : Code)
  | notify
  deriving DecidableEq, Repr

inductive Closed where
  | gracefully
  | dropped
  | store
  | signal
  deriving DecidableEq, Repr

inductive Writeable where
  | flag
  | text
  | state
  | audio
  deriving DecidableEq, Repr

/-- What a failed connect returns to: the event loop, the call of
`lws_client_connect_via_info` inside which lws delivered CONNECTION_ERROR, or
the loop of `processPendingConnects`. -/
inductive Back where
  | eventLoop
  | call (connects : List Nat)
  | pass (connects : List Nat)
  deriving DecidableEq, Repr

/-- The service thread inside `lws_callback`; the lists are the local lists of
the three loops, less the pipes they are done with. -/
inductive Service where
  | idle
  | connects (connects : List Nat)
  | connectNull (pipe : Nat) (connects : List Nat)
  | failing (pipe : Nat) (stage : FailStage) (back : Back)
  | disconnects (disconnects : List Nat)
  | writes (writes : List Nat)
  | established (pipe : Nat) (stage : Established)
  | eventCallback (pipe : Nat)
  | metadata (pipe : Nat) (code : Code)
  | closed (pipe : Nat) (stage : Closed)
  | writeable (pipe : Nat) (stage : Writeable)
  deriving DecidableEq, Repr

/-- `vhost` says that PROTOCOL_INIT has allocated lws's per-vhost data. -/
structure State where
  pipes : Nat → Pipe
  pendingConnects : List Nat
  pendingDisconnects : List Nat
  pendingWrites : List Nat
  vhost : Bool
  service : Service

def State.put (s : State) (n : Nat) (pipe : Pipe) : State :=
  { s with pipes := Function.update s.pipes n pipe }

/-- What a session's threads call on its pipe. -/
inductive Op where
  | doGracefulShutdown
  | bufferForSending
  | frame
  deriving DecidableEq, Repr

/-- The sessions of mod_deepgram_transcribe only ever write audio. -/
def Op.entry : Variant → Op → Option Code
  | .audioFork, .doGracefulShutdown => some .gracefulCheck
  | .audioFork, .bufferForSending => some .bufferCheck
  | .deepgram, .doGracefulShutdown | .deepgram, .bufferForSending => none
  | _, .frame => some .frameCheck

/-- `close()` or `finish()`, which the reaper calls first. -/
def Variant.reaperEntry : Variant → Code
  | .audioFork => .closeCheck
  | .deepgram => .gracefulCheck

/-- What `do_graceful_shutdown()` and `finish()` go on to do when CONNECTED. -/
def Variant.shutdown : Variant → Code
  | .audioFork => .queueWrite
  | .deepgram => .finishExchange

inductive Callback where
  | protocolInit
  | eventWaitCancelled
  | appendHandshakeHeader (pipe : Nat)
  | established (pipe : Nat)
  | connectionError (pipe : Nat)
  | closed (pipe : Nat)
  | receive (pipe : Nat) (text : Bytes)
  | writeable (pipe : Nat)
  deriving DecidableEq, Repr

/-- How `lws_client_connect_via_info` ends: with a wsi, with NULL, or with NULL
after it has delivered CONNECTION_ERROR, before which it may have `stored` the
new wsi through `pwsi`. -/
inductive Outcome where
  | returned
  | null
  | error (stored : Bool)
  deriving DecidableEq, Repr

/-- One atomic step.  `ok` is the choice the step makes, if any: a live lws
context, a successful `lws_write`, or bytes to append.  `metadata` is the pipe
that the session's callback finds on CONNECT_SUCCESS. -/
inductive Act where
  | connect (pipe : Nat) (ok : Bool)
  | enter (pipe : Nat) (op : Op)
  | advance (pipe : Nat) (ok : Bool)
  | reap (pipe : Nat)
  | reaper (pipe : Nat) (ok : Bool)
  | deliver (callback : Callback)
  | serve (outcome : Outcome) (ok : Bool) (metadata : Option Nat)
  deriving DecidableEq, Repr

/-- What happens to a pipe.  The service thread reads or writes it on its own
(`touched`), in a pending list under the list's mutex (`scanned`), or in its
session under `tech_pvt->mutex` (`borrowed`); `signaled` is a call of
`setClosed`, `dereferenced` a use of vhost data that may be null. -/
inductive Happening where
  | touched
  | scanned
  | borrowed
  | signaled
  | notified (event : NotifyEvent)
  | established
  | closed
  | requestedWritable
  | dereferenced (present : Bool)
  | deleted
  deriving DecidableEq, Repr

abbrev Event := Nat × Happening

/-- The static list an entry is added to. -/
inductive Pending where
  | disconnects
  | writes
  deriving DecidableEq, Repr

/-- One atomic step of a member function: the pipe after it, the step that
follows, if the function has not returned, the list the pipe is added to and
what happens to it. -/
def stepCode (variant : Variant) (pipe : Pipe) (ok : Bool) :
    Code → Pipe × Option Code × Option Pending × List Happening
  | .gracefulCheck =>
      if pipe.state = .connected then (pipe, some variant.shutdown, none, [])
      else (pipe, some .gracefulRecord, none, [])
  | .gracefulRecord =>
      ({ pipe with gracefulShutdown := true }, some .gracefulRecheck, none, [])
  | .gracefulRecheck =>
      if pipe.state = .connected then (pipe, some variant.shutdown, none, [])
      else (pipe, none, none, [])
  | .finishExchange =>
      if pipe.finished then (pipe, none, none, [])
      else ({ pipe with finished := true }, some .bufferCheck, none, [])
  | .closeCheck =>
      if pipe.state = .connected then (pipe, some .closeExchange, none, [])
      else (pipe, some .closeRecord, none, [])
  | .closeRecord =>
      ({ pipe with closePending := true }, some .closeRecheck, none, [])
  | .closeRecheck =>
      if pipe.state = .connected then (pipe, some .closeExchange, none, [])
      else (pipe, none, none, [])
  -- addPendingDisconnect: only CONNECTED may become DISCONNECTING
  | .closeExchange =>
      if pipe.state = .connected then
        ({ pipe with state := .disconnecting }, some .closeQueue, none, [])
      else (pipe, none, none, [])
  | .closeQueue => (pipe, some .cancelService, some .disconnects, [])
  | .bufferCheck =>
      if pipe.state = .connected then (pipe, some .bufferAppend, none, [])
      else (pipe, none, none, [])
  | .bufferAppend =>
      ({ pipe with text := pipe.text || ok }, some .queueWrite, none, [])
  -- addPendingWrite
  | .queueWrite => (pipe, some .cancelService, some .writes, [])
  | .cancelService => (pipe, none, none, [.dereferenced pipe.vhd])
  | .frameCheck =>
      if pipe.state = .connected then (pipe, some .frameRead, none, [])
      else (pipe, none, none, [])
  | .frameRead => ({ pipe with audio := ok }, some .frameQueue, none, [])
  -- unlockAudioBuffer
  | .frameQueue =>
      if pipe.audio then (pipe, some .cancelService, some .writes, [])
      else (pipe, none, none, [])

def State.push (s : State) (n : Nat) : Option Pending → State
  | none => s
  | some .disconnects =>
      { s with pendingDisconnects := s.pendingDisconnects ++ [n] }
  | some .writes => { s with pendingWrites := s.pendingWrites ++ [n] }

/-- A thread runs one step of a member function of `n`; `stand` stores in the
pipe where the thread stands then. -/
def runCode (variant : Variant) (s : State) (n : Nat) (ok : Bool) (code : Code)
    (stand : Pipe → Option Code → Pipe) : State × Option Code × List Event :=
  let (pipe, next, pending, happenings) := stepCode variant (s.pipes n) ok code
  ((s.put n (stand pipe next)).push n pending, next, happenings.map (n, ·))

/-- `connect()`, that is `addPendingConnect`; a session calls it while it has
the pipe. -/
def stepConnect (s : State) (n : Nat) (ok : Bool) :
    Option (State × List Event) :=
  let pipe := s.pipes n
  match pipe.connectCall with
  | .notCalled =>
      match pipe.owner with
      | .reaper _ => none
      | .session _ | .callback =>
          some (s.put n { pipe with connectCall := .entered }, [])
  | .entered =>
      if ok then
        some ({ s.put n { pipe with connectCall := .cancelService } with
          pendingConnects := s.pendingConnects ++ [n] }, [])
      else
        some (s.put n { pipe with
          state := .failed
          connectCall := .notify }, [])
  | .notify =>
      some (s.put n { pipe with connectCall := .signal },
        [(n, .notified .connectFail)])
  | .signal =>
      some (s.put n { pipe with
        closeSignaled := true
        connectCall := .returned }, [(n, .signaled)])
  | .cancelService =>
      some (s.put n { pipe with connectCall := .returned }, [])
  | .returned => none

/-- A thread of the session runs a member function under `tech_pvt->mutex`. -/
def stepCall (variant : Variant) (s : State) (n : Nat) (ok : Bool) :
    Option (State × List Event) :=
  match (s.pipes n).owner with
  | .session (some code) =>
      let (s, _, events) := runCode variant s n ok code
        fun pipe next => { pipe with owner := .session next }
      some (s, events)
  | .session none | .callback | .reaper _ => none

def stepReaper (variant : Variant) (s : State) (n : Nat) (ok : Bool) :
    Option (State × List Event) :=
  let pipe := s.pipes n
  match pipe.owner with
  | .session _ | .callback => none
  | .reaper (.closing code) =>
      let (s, _, events) := runCode variant s n ok code fun pipe next =>
        { pipe with owner := .reaper (next.elim .waiting .closing) }
      some (s, events)
  | .reaper .waiting =>
      if pipe.closeSignaled then
        some (s.put n { pipe with owner := .reaper .fromConnects }, [])
      else none
  | .reaper .fromConnects =>
      some ({ s.put n { pipe with owner := .reaper .fromDisconnects } with
        pendingConnects := s.pendingConnects.filter (· ≠ n) }, [])
  | .reaper .fromDisconnects =>
      some ({ s.put n { pipe with owner := .reaper .fromWrites } with
        pendingDisconnects := s.pendingDisconnects.filter (· ≠ n) }, [])
  | .reaper .fromWrites =>
      some ({ s.put n { pipe with owner := .reaper .deleted } with
        pendingWrites := s.pendingWrites.filter (· ≠ n) }, [(n, .deleted)])
  | .reaper .deleted => none

/-- The test that `findPendingConnect` and `findAndRemovePendingConnect` make at
the entry `k` for the wsi of `n`. -/
def State.matching (s : State) (n k : Nat) : Bool :=
  (s.pipes k).state = .connecting && (s.pipes k).pwsi && k = n

/-- The entries a search for the wsi of `n` looks at. -/
def State.looked (s : State) (n : Nat) : List Nat → List Nat
  | [] => []
  | k :: rest => if s.matching n k then [k] else k :: s.looked n rest

def State.finds (s : State) (n : Nat) : Bool :=
  s.pendingConnects.any (s.matching n)

/-- The entries that `findAndRemovePendingConnect` purges: those it has looked
at whose connect has failed without a wsi. -/
def State.toRemove (s : State) (n : Nat) : List Nat :=
  (s.looked n s.pendingConnects).filter fun k =>
    !(s.pipes k).pwsi && (s.pipes k).state = .failed

def findAndRemovePendingConnect (s : State) (n : Nat) : State × List Event :=
  ({ s with
      pendingConnects := s.pendingConnects.filter fun k =>
        k ∉ s.toRemove n && !(s.finds n && k = n) },
    (s.looked n s.pendingConnects).map (·, .scanned))

/-- `processPendingConnects` under `mutex_connects`: the pipes after it and the
local list. -/
def adoptIdle (pipes : Nat → Pipe) : List Nat → (Nat → Pipe) × List Nat
  | [] => (pipes, [])
  | n :: rest =>
      if (pipes n).state = .idle then
        let adopting := { pipes n with state := .connecting }
        let pipes := Function.update pipes n adopting
        ((adoptIdle pipes rest).1, n :: (adoptIdle pipes rest).2)
      else adoptIdle pipes rest

/-- The reads of one entry by `processPendingDisconnects` and
`processPendingWrites`; with one service thread every vhost data has the same
context. -/
def scanEntry (s : State) (n : Nat) : List Event :=
  if (s.pipes n).vhd then [(n, .scanned), (n, .dereferenced s.vhost)]
  else [(n, .scanned)]

/-- `processPendingDisconnects` under `mutex_disconnects`. -/
def takeDisconnects (s : State) : State × List Event :=
  ({ s with
      pendingDisconnects :=
        s.pendingDisconnects.filter fun n => !(s.pipes n).vhd
      service := .disconnects (s.pendingDisconnects.filter fun n =>
        (s.pipes n).vhd && (s.pipes n).state = .disconnecting) },
    s.pendingDisconnects.flatMap (scanEntry s))

/-- `processPendingWrites` under `mutex_writes`. -/
def takeWrites (s : State) : State × List Event :=
  ({ s with
      pendingWrites := s.pendingWrites.filter fun n => !(s.pipes n).vhd
      service := .writes (s.pendingWrites.filter fun n =>
        (s.pipes n).vhd && (s.pipes n).state = .connected) },
    s.pendingWrites.flatMap (scanEntry s))

/-- lws starts a callback on the idle service thread.  The callbacks of a wsi
come in their order: the outcome of the handshake, then any, then CLOSED. -/
def deliver (s : State) : Callback → Option (State × List Event)
  | .protocolInit => some ({ s with vhost := true }, [])
  | .eventWaitCancelled =>
      let adopted := adoptIdle s.pipes s.pendingConnects
      some ({ s with pipes := adopted.1, service := .connects adopted.2 },
        s.pendingConnects.map (·, .scanned))
  | .appendHandshakeHeader n =>
      if (s.pipes n).wsi = .handshaking then
        some (s, (s.looked n s.pendingConnects).map (·, .scanned) ++
          if s.finds n then [(n, .touched)] else [])
      else none
  | .established n =>
      if (s.pipes n).wsi = .handshaking then
        let (next, events) := findAndRemovePendingConnect s n
        some ({ next.put n { s.pipes n with wsi := .opened } with
          service := if s.finds n then .established n .adopt else .idle },
          events ++ [(n, .established)])
      else none
  | .connectionError n =>
      if (s.pipes n).wsi = .handshaking then
        let (next, events) := findAndRemovePendingConnect s n
        some ({ next.put n { s.pipes n with wsi := .freed } with
          service := if s.finds n then .failing n .store .eventLoop
            else .idle }, events)
      else none
  | .closed n =>
      if (s.pipes n).wsi = .opened ∨ (s.pipes n).wsi = .closing then
        some ({ s.put n { s.pipes n with wsi := .freed } with
          service := if (s.pipes n).adopted then .closed n .gracefully
            else .idle }, [(n, .closed)])
      else none
  | .receive n text =>
      if (s.pipes n).wsi = .opened then
        some (s, if (s.pipes n).adopted then
          [(n, .touched), (n, .notified (.message text))] else [])
      else none
  | .writeable n =>
      if (s.pipes n).wsi = .opened then
        some ({ s with
          service := if (s.pipes n).adopted then .writeable n .flag
            else .idle }, [])
      else none

/-- One step of `processPendingConnects`' loop: `connect_client`. -/
def connectClient (s : State) (n : Nat) (connects : List Nat) :
    Outcome → State × List Event
  | .returned =>
      ({ s.put n { s.pipes n with
          state := .connecting, vhd := s.vhost, pwsi := true
          wsi := .handshaking } with
        service := .connects connects },
        [(n, .touched), (n, .dereferenced s.vhost)])
  | .null =>
      ({ s.put n { s.pipes n with
          state := .connecting, vhd := s.vhost, pwsi := false } with
        service := .failing n .store (.pass connects) },
        [(n, .touched), (n, .dereferenced s.vhost)])
  -- lws delivers CONNECTION_ERROR before it returns NULL
  | .error stored =>
      let calling := s.put n { s.pipes n with
        state := .connecting, vhd := s.vhost, pwsi := stored }
      let (next, events) := findAndRemovePendingConnect calling n
      ({ next with
        service := if calling.finds n then .failing n .store (.call connects)
          else .connectNull n connects },
        [(n, .touched), (n, .dereferenced s.vhost)] ++ events)

/-- Where the service thread is once a failed connect of `n` is signalled. -/
def Back.resume (n : Nat) : Back → Service
  | .eventLoop => .idle
  | .call connects => .connectNull n connects
  | .pass connects => .connects connects

/-- LWS_CALLBACK_CLIENT_ESTABLISHED -/
def serveEstablished (variant : Variant) (s : State) (n : Nat) (ok : Bool)
    (metadata : Option Nat) : Established → State × List Event
  | .adopt =>
      ({ s.put n { s.pipes n with
          adopted := true, vhd := s.vhost, state := .connected } with
        service := .established n
          (match variant with
            | .audioFork => .close
            | .deepgram => .graceful) }, [(n, .touched)])
  | .close =>
      ({ s with
        service := .established n
          (if (s.pipes n).closePending then .closing .closeCheck
            else .graceful) }, [(n, .touched)])
  | .closing code =>
      let (s, next, events) := runCode variant s n ok code fun pipe _ => pipe
      ({ s with service := .established n (next.elim .graceful .closing) },
        (n, .touched) :: events)
  | .graceful =>
      ({ s with
        service := .established n
          (if (s.pipes n).gracefulShutdown then .shutdown .gracefulCheck
            else .notify) }, [(n, .touched)])
  | .shutdown code =>
      let (s, next, events) := runCode variant s n ok code fun pipe _ => pipe
      ({ s with service := .established n (next.elim .notify .shutdown) },
        (n, .touched) :: events)
  | .notify =>
      ({ s with
        service := match variant, metadata with
          | .audioFork, some other => .eventCallback other
          | .audioFork, none | .deepgram, _ => .idle },
        [(n, .touched), (n, .notified .connectSuccess)])

/-- LWS_CALLBACK_CLIENT_CLOSED -/
def serveClosed (s : State) (n : Nat) : Closed → State × List Event
  | .gracefully =>
      if (s.pipes n).state = .disconnecting then
        ({ s with service := .closed n .store },
          [(n, .touched), (n, .notified .connectionClosedGracefully)])
      else ({ s with service := .closed n .dropped }, [(n, .touched)])
  | .dropped =>
      if (s.pipes n).state = .connected then
        ({ s with service := .closed n .store },
          [(n, .touched), (n, .notified .connectionDropped)])
      else ({ s with service := .closed n .store }, [(n, .touched)])
  | .store =>
      ({ s.put n { s.pipes n with state := .disconnected } with
        service := .closed n .signal }, [(n, .touched)])
  | .signal =>
      ({ s.put n { s.pipes n with closeSignaled := true, adopted := false } with
        service := .idle }, [(n, .touched), (n, .signaled)])

/-- LWS_CALLBACK_CLIENT_WRITEABLE; lws closes a connection whose callback
returns -1. -/
def serveWriteable (variant : Variant) (s : State) (n : Nat) (ok : Bool) :
    Writeable → State × List Event
  | .flag =>
      if variant = .audioFork ∧ (s.pipes n).gracefulShutdown = true then
        ({ s.put n { s.pipes n with
            wsi := if ok then (s.pipes n).wsi else .closing } with
          service := .idle }, [(n, .touched)])
      else ({ s with service := .writeable n .text }, [(n, .touched)])
  | .text =>
      if (s.pipes n).text then
        if ok then
          ({ s.put n { s.pipes n with text := false } with service := .idle },
            [(n, .touched), (n, .requestedWritable)])
        else
          ({ s.put n { s.pipes n with text := false, wsi := .closing } with
            service := .idle }, [(n, .touched)])
      else ({ s with service := .writeable n .state }, [(n, .touched)])
  | .state =>
      if (s.pipes n).state = .disconnecting then
        ({ s.put n { s.pipes n with wsi := .closing } with service := .idle },
          [(n, .touched)])
      else ({ s with service := .writeable n .audio }, [(n, .touched)])
  | .audio =>
      ({ s.put n { s.pipes n with audio := false } with service := .idle },
        [(n, .touched)])

def serve (variant : Variant) (s : State) (outcome : Outcome) (ok : Bool)
    (metadata : Option Nat) : Option (State × List Event) :=
  match s.service with
  | .idle => none
  | .connects [] => some (takeDisconnects s)
  | .connects (n :: connects) => some (connectClient s n connects outcome)
  | .connectNull n connects =>
      some ({ s.put n { s.pipes n with pwsi := false } with
        service := .failing n .store (.pass connects) }, [(n, .touched)])
  | .failing n .store back =>
      some ({ s.put n { s.pipes n with state := .failed } with
        service := .failing n .notify back }, [(n, .touched)])
  | .failing n .notify back =>
      some ({ s with service := .failing n .signal back },
        [(n, .touched), (n, .notified .connectFail)])
  | .failing n .signal back =>
      some ({ s.put n { s.pipes n with closeSignaled := true } with
        service := back.resume n }, [(n, .touched), (n, .signaled)])
  | .disconnects [] => some (takeWrites s)
  | .disconnects (n :: disconnects) =>
      some ({ s with service := .disconnects disconnects },
        [(n, .touched), (n, .requestedWritable)])
  | .writes [] => some ({ s with service := .idle }, [])
  | .writes (n :: writes) =>
      some ({ s with service := .writes writes },
        [(n, .touched), (n, .requestedWritable)])
  | .established n stage =>
      some (serveEstablished variant s n ok metadata stage)
  -- the session's mutex is taken before pAudioPipe is read
  | .eventCallback n =>
      match (s.pipes n).owner with
      | .session none =>
          some ({ s.put n { s.pipes n with owner := .callback } with
            service := .metadata n .bufferCheck }, [])
      | .session (some _) | .callback => none
      | .reaper _ => some ({ s with service := .idle }, [])
  | .metadata n code =>
      let (s, next, events) := runCode variant s n ok code fun pipe next =>
        { pipe with owner := next.elim (.session none) fun _ => .callback }
      some ({ s with service := next.elim .idle (.metadata n) },
        (n, .borrowed) :: events)
  | .closed n stage => some (serveClosed s n stage)
  | .writeable n stage => some (serveWriteable variant s n ok stage)

def step (variant : Variant) (s : State) : Act → Option (State × List Event)
  | .connect n ok => stepConnect s n ok
  | .enter n op =>
      match (s.pipes n).owner, op.entry variant with
      | .session none, some code =>
          some (s.put n { s.pipes n with owner := .session (some code) }, [])
      | _, _ => none
  | .advance n ok => stepCall variant s n ok
  -- reaper(tech_pvt), with tech_pvt->mutex held
  | .reap n =>
      match (s.pipes n).owner with
      | .session none =>
          some (s.put n { s.pipes n with
            owner := .reaper (.closing variant.reaperEntry) }, [])
      | .session (some _) | .callback | .reaper _ => none
  | .reaper n ok => stepReaper variant s n ok
  | .deliver callback =>
      if s.service = .idle ∧ (callback = .protocolInit ∨ s.vhost = true) then
        deliver s callback
      else none
  | .serve outcome ok metadata => serve variant s outcome ok metadata

/-- A freshly constructed `AudioPipe`, held by its session. -/
def Pipe.fresh : Pipe :=
  { state := .idle
    pwsi := false
    vhd := false
    gracefulShutdown := false
    finished := false
    closePending := false
    closeSignaled := false
    text := false
    audio := false
    wsi := .none
    adopted := false
    connectCall := .notCalled
    owner := .session none }

def State.fresh : State :=
  { pipes := fun _ => .fresh
    pendingConnects := []
    pendingDisconnects := []
    pendingWrites := []
    vhost := false
    service := .idle }

def machine (variant : Variant) : Machine State Act Event :=
  { initial := .fresh
    step := step variant }

end DrachtioModules.Pipes

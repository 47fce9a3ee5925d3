import DrachtioModules.Aws.GStreamer
import DrachtioModules.Transcribe.Channel

/-!
# The sessions of mod_aws_transcribe

One `cap_cb` with the threads that meet there: the start that makes it, the
worker that makes its GStreamer, the media thread, the stops and the CLOSE
callback of its bug, and the SDK.  All sessions share the channel privates and
the unload gate.

A step that uses a GStreamer does not ask whether there is one: on one that is
deleted it is `dangling`.  Exceptions may leave the constructor or `connect()`;
`processData()` is taken to throw none.
-/

namespace DrachtioModules.Aws

open Transcribe (Bytes Caller Call Channel Life Control Notice Lifetime User
  Outside Owner)

/-- What every teardown does to the `cap_cb`, with `killcb` from `killing` on. -/
inductive Teardown where
  | requesting
  | loading
  | finishing
  | joining
  | killing
  | nulling
  | ungating
  | releasing
  | killed
  deriving DecidableEq, Repr

/-- `aws_transcribe_session_init`. -/
inductive Init where
  | checking
  | gating
  | counted
  | configuring
  | creating
  | killing
  | done
  | releasing
  deriving DecidableEq, Repr

/-- `aws_transcribe_frame` under `cb->mutex`. -/
inductive Frame where
  | loading
  | looping
  deriving DecidableEq, Repr

/-- A stop under `cb->mutex`. -/
inductive Critical where
  | checking
  | tearing (stage : Teardown)
  | clearing
  | unlocking
  deriving DecidableEq, Repr

/-- `aws_transcribe_thread`. -/
inductive Thread where
  | notCreated
  | entered
  | constructed
  | publishing
  | checking
  | finishing
  | processing
  | exited
  deriving DecidableEq, Repr

inductive Object (τ : Type) where
  | absent
  | alive (gstreamer : State τ)
  | deleted
  deriving DecidableEq, Repr

/-- What the SDK knows of the request of a GStreamer. -/
inductive Request where
  | notIssued
  | outstanding
  | responded
  deriving DecidableEq, Repr

/-- `streamer` and `thread` say that the pointer is not null. -/
structure CapCb (κ τ : Type) where
  life : Life κ Init
  vad : Bool
  stopRequested : Bool
  streamer : Bool
  thread : Bool
  gateCounted : Bool
  owner : Owner Frame Critical Teardown
  worker : Thread
  gstreamer : Object τ
  request : Request
  deriving DecidableEq, Repr

/-- A call of `mod_aws_transcribe_shutdown`. -/
inductive Shutdown where
  | notCalled
  | begun (active : Int)
  | returned (success : Bool)
  deriving DecidableEq, Repr

structure Module (κ : Type) where
  channel : Channel κ
  accepting : Bool
  activeStreamers : Int
  shutdowns : Nat → Shutdown

inductive FrameAct where
  | lock
  | load
  | connect
  | write (data : Bytes)
  | media
  | unlock
  deriving DecidableEq, Repr

/-- `ok` answers what the step asks. -/
inductive SessionAct (κ τ : Type) where
  | control (act : Control κ)
  | init (ok vad : Bool)
  | add (ok : Bool)
  | cleanup
  | lock (caller : Caller)
  | stop (ok : Bool)
  | frame (act : FrameAct)
  | thread (ok : Bool)
  | timeout
  | sdk (act : Act τ)
  deriving DecidableEq, Repr

inductive SessionEvent (κ τ : Type) where
  | notice (notice : Notice κ)
  | lifetime (event : Lifetime)
  | counted
  | released
  | gstreamer (event : Event τ)
  deriving DecidableEq, Repr

inductive ModuleAct (κ : Type) where
  | outside (act : Outside κ)
  | shutdown (call : Nat)
  deriving DecidableEq, Repr

inductive ModuleEvent where
  | refused (call : Nat)
  | shutdownAPI (call : Nat)
  deriving DecidableEq, Repr

def Request.see {τ : Type} (request : Request) : Event τ → Request
  | .requested => .outstanding
  | .responded => .responded
  | _ => request

/-- The callbacks of the SDK. -/
def Act.callback {τ : Type} : Act τ → Bool
  | .onStreamReady _ | .streamReady | .onTranscriptEvent _ | .onResponse => true
  | _ => false

section Steps

variable {κ τ : Type}

def CapCb.invoke (config : Config) (s : CapCb κ τ) (user : User) (act : Act τ) :
    Option (CapCb κ τ × List (SessionEvent κ τ)) :=
  match s.gstreamer with
  | .alive gstreamer =>
      match step config gstreamer act with
      | none => none
      | some (next, events) =>
          some ({ s with
            gstreamer := .alive next
            request := events.foldl Request.see s.request },
            events.map .gstreamer)
  | .absent | .deleted => some (s, [.lifetime (.dangling user)])

/-- The stage after a join that is not needed. -/
def CapCb.join (s : CapCb κ τ) : Teardown :=
  if s.thread then .joining else .killing

def stepTeardown (config : Config) (s : CapCb κ τ) :
    Teardown → Option (CapCb κ τ × Teardown × List (SessionEvent κ τ))
  | .requesting => some ({ s with stopRequested := true }, .loading, [])
  | .loading => some (s, if s.streamer then .finishing else s.join, [])
  | .finishing =>
      match s.invoke config .stop .finish with
      | none => none
      | some (next, events) => some (next, s.join, events)
  | .joining =>
      if s.worker = .exited then
        some ({ s with thread := false }, .killing, [.lifetime .joined])
      else none
  -- killcb
  | .killing =>
      if s.streamer then
        match s.gstreamer with
        | .alive _ =>
            some ({ s with gstreamer := .deleted }, .nulling,
              [.lifetime .deleted])
        | .absent | .deleted =>
            some (s, .nulling, [.lifetime (.dangling .stop)])
      else some (s, .ungating, [])
  | .nulling => some ({ s with streamer := false }, .ungating, [])
  | .ungating =>
      if s.gateCounted then
        some ({ s with gateCounted := false }, .releasing, [])
      else some (s, .killed, [])
  | .releasing => some (s, .killed, [.released])
  | .killed => none

/-- `ok`: the checks pass, the gate accepts, the session is configured, the
thread is created. -/
def stepInit (config : Config) (s : CapCb κ τ) (ok vad : Bool) :
    Option (CapCb κ τ × List (SessionEvent κ τ)) :=
  let moved (stage : Init) : CapCb κ τ :=
    { s with life := s.life.setStart (.initializing stage) }
  let failed : CapCb κ τ :=
    { s with life := s.life.setStart (.returned false) }
  match s.life.start with
  | .initializing .checking =>
      if ok then some (moved .gating, []) else some (failed, [])
  | .initializing .gating =>
      if ok then some (moved .counted, [.counted]) else some (failed, [])
  | .initializing .counted =>
      some ({ moved .configuring with gateCounted := true }, [])
  -- the language, the mutex, the resampler and the vad
  | .initializing .configuring =>
      if ok then some ({ moved .creating with vad := vad }, [])
      else some (moved .done, [])
  | .initializing .creating =>
      if ok then
        some ({ s with
          life := s.life.setStart .adding
          thread := true
          worker := .entered }, [.lifetime .spawned])
      else some ({ moved .killing with owner := .start .killing }, [])
  | .initializing .killing =>
      match s.owner with
      | .start .killed => some ({ moved .done with owner := .nobody }, [])
      | .start stage =>
          match stepTeardown config s stage with
          | none => none
          | some (next, stage, events) =>
              some ({ next with owner := .start stage }, events)
      | _ => none
  | .initializing .done =>
      if s.gateCounted then
        some ({ moved .releasing with gateCounted := false }, [])
      else some (failed, [])
  | .initializing .releasing => some (failed, [.released])
  | _ => none

/-- `switch_core_media_bug_add`. -/
def stepAdd (s : CapCb κ τ) (ok : Bool) :
    Option (CapCb κ τ × List (SessionEvent κ τ)) :=
  match s.life.start with
  | .adding =>
      if ok then
        some ({ s with
          life := { s.life with start := .attached, attached := true } }, [])
      else
        some ({ s with
          life := s.life.setStart .cleaning
          owner := .start .requesting }, [])
  | _ => none

/-- `aws_transcribe_session_cleanup`, which does not take `cb->mutex`. -/
def stepCleanup (config : Config) (s : CapCb κ τ) :
    Option (CapCb κ τ × List (SessionEvent κ τ)) :=
  match s.life.start, s.owner with
  | .cleaning, .start .killed =>
      some ({ s with
        life := s.life.setStart (.returned false)
        owner := .nobody }, [])
  | .cleaning, .start stage =>
      match stepTeardown config s stage with
      | none => none
      | some (next, stage, events) =>
          some ({ next with owner := .start stage }, events)
  | _, _ => none

/-- The CLOSE callback stops its own `cap_cb` and checks nothing. -/
def CapCb.lock (s : CapCb κ τ) (caller : Caller) :
    Option (CapCb κ τ × List (SessionEvent κ τ)) :=
  if s.owner = .nobody ∧ s.life.start.added then
    if caller.closing then
      if s.life.close = .called then
        some ({ s with owner := .stop caller (.tearing .requesting) }, [])
      else none
    else some ({ s with owner := .stop caller .checking }, [])
  else none

/-- `ok`: the channel private still holds the bug. -/
def stepStop (config : Config) (s : CapCb κ τ) (ok : Bool) :
    Option (CapCb κ τ × List (SessionEvent κ τ)) :=
  match s.owner with
  | .stop caller .checking =>
      if ok then
        some ({ s with owner := .stop caller (.tearing .requesting) }, [])
      else
        some ({ s with owner := .nobody }, [.notice (.returned caller)])
  | .stop caller (.tearing .killed) =>
      if caller.closing then
        some ({ s with
          life := { s.life with close := .returned }
          owner := .nobody }, [])
      else some ({ s with owner := .stop caller .clearing }, [])
  | .stop caller (.tearing stage) =>
      match stepTeardown config s stage with
      | none => none
      | some (next, stage, events) =>
          some ({ next with owner := .stop caller (.tearing stage) }, events)
  | .stop caller .clearing =>
      match s.life.bugname with
      | none => none
      | some bugname =>
          some ({ s with owner := .stop caller .unlocking },
            [.notice (.cleared caller bugname)])
  | .stop caller .unlocking =>
      some ({ s with owner := .nobody }, [.notice (.unlocked caller)])
  | _ => none

def stepFrame (config : Config) (s : CapCb κ τ) (act : FrameAct) :
    Option (CapCb κ τ × List (SessionEvent κ τ)) :=
  match s.owner, act with
  | .nobody, .lock =>
      if s.life.start.added then some ({ s with owner := .frame .loading }, [])
      else none
  | .frame .loading, .load =>
      if s.streamer then some ({ s with owner := .frame .looping }, [])
      else some ({ s with owner := .nobody }, [])
  -- speech is detected
  | .frame .looping, .connect =>
      match s.gstreamer with
      | .alive gstreamer =>
          if s.vad ∧ gstreamer.connecting = false then
            s.invoke config .frame .connect
          else none
      | .absent | .deleted => s.invoke config .frame .connect
  | .frame .looping, .write data => s.invoke config .frame (.write data)
  | .frame .looping, .media => s.invoke config .frame .media
  | .frame .looping, .unlock =>
      match s.gstreamer with
      | .alive gstreamer =>
          if gstreamer.media = .idle then some ({ s with owner := .nobody }, [])
          else none
      | .absent | .deleted => some ({ s with owner := .nobody }, [])
  | _, _ => none

/-- The worker goes on once its call has returned. -/
def CapCb.advance (worker : Thread)
    (outcome : Option (CapCb κ τ × List (SessionEvent κ τ))) :
    Option (CapCb κ τ × List (SessionEvent κ τ)) :=
  match outcome with
  | none => none
  | some (next, events) => some ({ next with worker := worker }, events)

/-- `ok`: the constructor, or `connect()`, throws nothing. -/
def stepThread (config : Config) (s : CapCb κ τ) (ok : Bool) :
    Option (CapCb κ τ × List (SessionEvent κ τ)) :=
  match s.worker with
  | .notCreated | .exited => none
  | .entered =>
      if ok then
        some ({ s with
          gstreamer := .alive (.fresh τ config)
          worker := .constructed }, [.lifetime .created])
      else some ({ s with worker := .exited }, [])
  | .constructed =>
      if s.vad then some ({ s with worker := .publishing }, [])
      else if ok then
        CapCb.advance .publishing (s.invoke config .thread .connect)
      else some ({ s with worker := .exited }, [])
  | .publishing => some ({ s with streamer := true, worker := .checking }, [])
  | .checking =>
      if s.stopRequested then some ({ s with worker := .finishing }, [])
      else some ({ s with worker := .processing }, [])
  | .finishing => CapCb.advance .processing (s.invoke config .thread .finish)
  | .processing =>
      match s.gstreamer with
      | .alive gstreamer =>
          match gstreamer.worker with
          | .returned => some ({ s with worker := .exited }, [])
          | _ => s.invoke config .thread .worker
      | .absent | .deleted => s.invoke config .thread .worker

def lift (s : CapCb κ τ)
    (outcome : Option (Life κ Init × List (Notice κ))) :
    Option (CapCb κ τ × List (SessionEvent κ τ)) :=
  match outcome with
  | none => none
  | some (life, notices) => some ({ s with life := life }, notices.map .notice)

def sessionStep (config : Config) (s : CapCb κ τ) :
    SessionAct κ τ → Option (CapCb κ τ × List (SessionEvent κ τ))
  | .control act => lift s (s.life.step .checking act)
  | .init ok vad => stepInit config s ok vad
  | .add ok => stepAdd s ok
  | .cleanup => stepCleanup config s
  | .lock caller => s.lock caller
  | .stop ok => stepStop config s ok
  | .frame act => stepFrame config s act
  | .thread ok => stepThread config s ok
  | .timeout =>
      if s.worker = .processing then s.invoke config .thread .timeout else none
  | .sdk act =>
      if s.request ≠ .notIssued ∧ act.callback then s.invoke config .sdk act
      else none

def CapCb.fresh (κ τ : Type) : CapCb κ τ :=
  { life := .fresh κ Init
    vad := false
    stopRequested := false
    streamer := false
    thread := false
    gateCounted := false
    owner := .nobody
    worker := .notCreated
    gstreamer := .absent
    request := .notIssued }

def session (κ τ : Type) (config : Config) :
    Machine (CapCb κ τ) (SessionAct κ τ) (SessionEvent κ τ) :=
  { initial := .fresh κ τ
    step := sessionStep config }

end Steps

section Module

variable {κ τ : Type} [DecidableEq κ]

/-- What a step of session n reads of the module. -/
def Module.reads (m : Module κ) (n : Nat) (s : CapCb κ τ) :
    SessionAct κ τ → Bool
  | .control act => m.channel.allows n s.life act
  | .init ok _ =>
      match s.life.start with
      | .initializing .gating => decide (ok = m.accepting)
      | _ => true
  | .lock caller => m.channel.admits n caller
  | .stop ok =>
      match s.owner with
      | .stop _ .checking =>
          decide (ok = decide (m.channel.slot s.life = some n))
      | _ => true
  | _ => true

def Module.writes (n : Nat) (m : Module κ) : SessionEvent κ τ → Module κ
  | .notice notice => { m with channel := m.channel.write n notice }
  | .counted => { m with activeStreamers := m.activeStreamers + 1 }
  | .released => { m with activeStreamers := m.activeStreamers - 1 }
  | .lifetime _ | .gstreamer _ => m

/-- `aws_transcribe_shutdown_begin`, under `g_gateMutex`. -/
def Module.shutdownBegin (m : Module κ) : Module κ × Int :=
  ({ m with accepting := false }, m.activeStreamers)

/-- `mod_aws_transcribe_shutdown`. -/
def Module.shutdown (m : Module κ) (call : Nat) :
    Option (Module κ × List ModuleEvent) :=
  match m.shutdowns call with
  | .notCalled =>
      let (begun, active) := m.shutdownBegin
      some ({ begun with
        shutdowns := Function.update m.shutdowns call (.begun active) }, [])
  | .begun active =>
      if 0 < active then
        some ({ m with
          shutdowns := Function.update m.shutdowns call (.returned false) },
          [.refused call])
      else
        some ({ m with
          shutdowns := Function.update m.shutdowns call (.returned true) },
          [.shutdownAPI call])
  | .returned _ => none

def Module.step (m : Module κ) :
    ModuleAct κ → Option (Module κ × List ModuleEvent)
  | .outside act =>
      match m.channel.stepOutside act with
      | none => none
      | some channel => some ({ m with channel := channel }, [])
  | .shutdown call => m.shutdown call

def Module.fresh (κ : Type) : Module κ :=
  { channel := .fresh κ
    accepting := true
    activeStreamers := 0
    shutdowns := fun _ => .notCalled }

def sessions (κ τ : Type) [DecidableEq κ] (config : Config) :
    Family (Module κ) (CapCb κ τ) (SessionAct κ τ) (SessionEvent κ τ)
      (ModuleAct κ) ModuleEvent :=
  { part := session κ τ config
    shared := .fresh κ
    reads := Module.reads
    writes := Module.writes
    common := Module.step }

end Module

end DrachtioModules.Aws

import DrachtioModules.Transcribe.Reaping

/-!
# The sessions of mod_google_transcribe

One `cap_cb` with the threads that meet there: the start that makes it and its
GStreamer, the media thread, the stops and the CLOSE callback of its bug, and
the read thread, which whoever deletes the GStreamer joins first.
-/

namespace DrachtioModules.Google.Capture

open Transcribe (Caller Channel Life Lifetime Owner Object Frame FrameAct
  CaptureAct CaptureEvent Outside lift)

/-- `reap_streamer`; `shown` is what it has found in `cb->streamer`. -/
inductive Reap where
  | loading
  | writing
  | joining (shown : Bool)
  | deleting
  | nulling
  | reaped
  deriving DecidableEq, Repr

/-- `grpc_read_thread`. -/
inductive Reader where
  | notCreated
  | running
  | exited
  deriving DecidableEq, Repr

/-- `google_speech_session_init`. -/
inductive Init where
  | checking
  | creating
  | connecting
  | spawning
  | discarding
  | nulling
  deriving DecidableEq, Repr

/-- `google_speech_session_cleanup` under `cb->mutex`; `found` says that the
channel private held a bug. -/
inductive Critical where
  | checking
  | clearing
  | reaping (found : Bool) (stage : Reap)
  deriving DecidableEq, Repr

/-- `streamer` and `thread` say that the pointers are not null, `peeked` what
the media thread has seen before it locks. -/
structure CapCb (κ : Type) where
  life : Life κ Init
  vad : Bool
  streamer : Bool
  thread : Bool
  peeked : Bool
  reader : Reader
  owner : Owner Frame Critical Reap
  gstreamer : Object
  deriving DecidableEq, Repr

variable {κ : Type}

def stepReap (s : CapCb κ) : Reap → Option (CapCb κ × Reap × List Lifetime)
  | .loading =>
      if s.streamer then some (s, .writing, [])
      else some (s, .joining false, [])
  -- writesDone()
  | .writing => some (s, .joining true, s.gstreamer.use .stop)
  | .joining shown =>
      let next : Reap := if shown then .deleting else .reaped
      if s.thread then
        match s.reader with
        | .exited => some ({ s with thread := false }, next, [.joined])
        | _ => none
      else some (s, next, [])
  | .deleting =>
      match s.gstreamer with
      | .alive => some ({ s with gstreamer := .deleted }, .nulling, [.deleted])
      | _ => some (s, .nulling, [.dangling .stop])
  | .nulling => some ({ s with streamer := false }, .reaped, [])
  | .reaped => none

/-- `done`: the thread leaves its loop. -/
def stepReader (s : CapCb κ) (done : Bool) : Option (CapCb κ × List Lifetime) :=
  match s.reader with
  | .running =>
      if done then some ({ s with reader := .exited }, [])
      else some (s, s.gstreamer.use .thread)
  | .notCreated | .exited => none

/-- `ok`: the checks pass, the constructor throws nothing, the thread is
created. -/
def stepInit (s : CapCb κ) (ok vad : Bool) :
    Option (CapCb κ × List Lifetime) :=
  let failed : CapCb κ :=
    { s with life := s.life.setStart (.returned false) }
  match s.life.start with
  -- the codec, the mutex, the resampler and the vad
  | .initializing .checking =>
      if ok then
        some ({ s with
          life := s.life.setStart (.initializing .creating)
          vad := vad }, [])
      else some (failed, [])
  | .initializing .creating =>
      if ok then
        some ({ s with
          life := s.life.setStart
            (.initializing (if s.vad then .spawning else .connecting))
          streamer := true
          gstreamer := .alive }, [.created])
      else some (failed, [])
  | .initializing .connecting =>
      some ({ s with life := s.life.setStart (.initializing .spawning) },
        s.gstreamer.use .start)
  | .initializing .spawning =>
      if ok then
        some ({ s with
          life := s.life.setStart .adding
          thread := true
          reader := .running }, [.spawned])
      else
        some ({ s with life := s.life.setStart (.initializing .discarding) },
          [])
  | .initializing .discarding =>
      if s.streamer then
        let nulling : CapCb κ :=
          { s with life := s.life.setStart (.initializing .nulling) }
        match s.gstreamer with
        | .alive => some ({ nulling with gstreamer := .deleted }, [.deleted])
        | _ => some (nulling, [.dangling .start])
      else some (failed, [])
  | .initializing .nulling => some ({ failed with streamer := false }, [])
  | _ => none

/-- `switch_core_media_bug_add`. -/
def stepAdd (s : CapCb κ) (ok : Bool) : Option (CapCb κ × List Lifetime) :=
  match s.life.start with
  | .adding =>
      if ok then
        some ({ s with
          life := { s.life with start := .attached, attached := true } }, [])
      else
        some ({ s with
          life := s.life.setStart .cleaning
          owner := .start .loading }, [])
  | _ => none

/-- `google_speech_session_orphan_cleanup`. -/
def stepOrphanCleanup (s : CapCb κ) : Option (CapCb κ × List Lifetime) :=
  match s.life.start, s.owner with
  | .cleaning, .start .reaped =>
      some ({ s with
        life := s.life.setStart (.returned false)
        owner := .nobody }, [])
  | .cleaning, .start stage =>
      match stepReap s stage with
      | none => none
      | some (next, stage, events) =>
          some ({ next with owner := .start stage }, events)
  | _, _ => none

def CapCb.lock (s : CapCb κ) (caller : Caller) :
    Option (CapCb κ × List Lifetime) :=
  if s.owner = .nobody ∧ s.life.start.added then
    if caller.closing ∧ s.life.close ≠ .called then none
    else some ({ s with owner := .stop caller .checking }, [])
  else none

/-- `ok`: the channel private holds a bug, be it this one or another. -/
def stepCleanup (s : CapCb κ) (ok : Bool) :
    Option (CapCb κ × List (CaptureEvent κ)) :=
  match s.owner with
  | .stop caller .checking =>
      if ok then some ({ s with owner := .stop caller .clearing }, [])
      else some ({ s with owner := .stop caller (.reaping false .loading) }, [])
  | .stop caller .clearing =>
      match s.life.bugname with
      | none => none
      | some bugname =>
          some ({ s with owner := .stop caller (.reaping true .loading) },
            [.notice (.cleared caller bugname)])
  | .stop caller (.reaping found .reaped) =>
      if caller.closing then
        some ({ s with
          life := { s.life with close := .returned }
          owner := .nobody }, [])
      -- the bug is removed only after the channel private held one
      else if found then
        some ({ s with owner := .nobody }, [.notice (.unlocked caller)])
      else some ({ s with owner := .nobody }, [.notice (.returned caller)])
  | .stop caller (.reaping found stage) =>
      match stepReap s stage with
      | none => none
      | some (next, stage, events) =>
          some ({ next with owner := .stop caller (.reaping found stage) },
            events.map .lifetime)
  | _ => none

def stepFrame (s : CapCb κ) (act : FrameAct) :
    Option (CapCb κ × List Lifetime) :=
  match s.owner, act with
  | .frame .loading, .load =>
      if s.streamer then some ({ s with owner := .frame .looping }, [])
      else some ({ s with owner := .nobody, peeked := false }, [])
  | .frame .looping, .call => some (s, s.gstreamer.use .frame)
  | .frame .looping, .unlock =>
      some ({ s with owner := .nobody, peeked := false }, [])
  | .frame _, _ => none
  -- before the lock; a stop may have it
  | _, .peek =>
      if s.life.start.added then some ({ s with peeked := s.streamer }, [])
      else none
  | .nobody, .lock =>
      if s.life.start.added ∧ s.peeked then
        some ({ s with owner := .frame .loading }, [])
      else none
  | _, _ => none

def sessionStep (s : CapCb κ) :
    CaptureAct κ → Option (CapCb κ × List (CaptureEvent κ))
  | .control act =>
      match s.life.step .checking act with
      | none => none
      | some (life, notices) =>
          some ({ s with life := life }, notices.map .notice)
  | .init ok vad => lift (stepInit s ok vad)
  | .add ok => lift (stepAdd s ok)
  | .cleanup => lift (stepOrphanCleanup s)
  | .lock caller => lift (s.lock caller)
  | .stop ok => stepCleanup s ok
  | .frame act => lift (stepFrame s act)
  | .thread done => lift (stepReader s done)

def CapCb.fresh (κ : Type) : CapCb κ :=
  { life := .fresh κ Init
    vad := false
    streamer := false
    thread := false
    peeked := false
    reader := .notCreated
    owner := .nobody
    gstreamer := .absent }

def session (κ : Type) : Machine (CapCb κ) (CaptureAct κ) (CaptureEvent κ) :=
  { initial := .fresh κ
    step := sessionStep }

/-- What a step of session n reads of the channel; a cleanup asks only whether
the channel private is null. -/
def reads [DecidableEq κ] (c : Channel κ) (n : Nat) (s : CapCb κ) :
    CaptureAct κ → Bool
  | .control act => c.allows n s.life act
  | .lock caller => c.admits n caller
  | .stop ok =>
      match s.owner with
      | .stop _ .checking => decide (ok = (c.slot s.life).isSome)
      | _ => true
  | _ => true

def sessions (κ : Type) [DecidableEq κ] :
    Family (Channel κ) (CapCb κ) (CaptureAct κ) (CaptureEvent κ) (Outside κ)
      Empty :=
  { part := session κ
    shared := .fresh κ
    reads := reads
    writes := Transcribe.writes
    common := Transcribe.common }

end DrachtioModules.Google.Capture

import DrachtioModules.Transcribe.Reaping

/-!
# The sessions of mod_azure_transcribe

One `cap_cb` with the threads that meet there: the start that makes it and its
GStreamer, the media thread, the stops and the CLOSE callback of its bug, and
the detached thread that finishes the GStreamer after a stop has handed it over.
The GStreamer is deleted with the last of the two pointers the reaper has to it.
-/

namespace DrachtioModules.Azure.Capture

open Transcribe (Caller Channel Life Lifetime Owner Object Frame FrameAct
  CaptureAct CaptureEvent Outside lift)

/-- `killcb`. -/
inductive Killcb where
  | loading
  | finishing
  | deleting
  | nulling
  | killed
  deriving DecidableEq, Repr

/-- `reaper`: `pStreamer` takes the pointer, the thread starts with a copy of
it, and `pStreamer` goes. -/
inductive Reap where
  | handing
  | spawning
  | leaving
  deriving DecidableEq, Repr

/-- The thread of `reaper`. -/
inductive Reaper where
  | notStarted
  | finishing
  | releasing
  | exited
  deriving DecidableEq, Repr

/-- `azure_transcribe_session_init`. -/
inductive Init where
  | checking
  | creating
  | connecting
  | killing
  deriving DecidableEq, Repr

/-- A stop under `cb->mutex`. -/
inductive Critical where
  | checking
  | clearing
  | loading
  | reaping (stage : Reap)
  | killing (stage : Killcb)
  deriving DecidableEq, Repr

/-- `streamer` says that the pointer is not null, `pStreamer` that the one of
`reaper` is not. -/
structure CapCb (κ : Type) where
  life : Life κ Init
  vad : Bool
  streamer : Bool
  pStreamer : Bool
  reaper : Reaper
  owner : Owner Frame Critical Killcb
  gstreamer : Object
  deriving DecidableEq, Repr

variable {κ : Type}

def stepKillcb (s : CapCb κ) :
    Killcb → Option (CapCb κ × Killcb × List Lifetime)
  | .loading =>
      if s.streamer then some (s, .finishing, []) else some (s, .killed, [])
  | .finishing => some (s, .deleting, s.gstreamer.use .stop)
  | .deleting =>
      match s.gstreamer with
      | .alive => some ({ s with gstreamer := .deleted }, .nulling, [.deleted])
      | _ => some (s, .nulling, [.dangling .stop])
  | .nulling => some ({ s with streamer := false }, .killed, [])
  | .killed => none

/-- A step of `reaper`; `none` as the stage that follows is its return. -/
def stepReap (s : CapCb κ) : Reap → CapCb κ × Option Reap × List Lifetime
  | .handing =>
      match s.gstreamer with
      | .alive =>
          ({ s with
            pStreamer := true
            streamer := false
            gstreamer := .handed }, some .spawning, [.handed])
      | _ => (s, some .spawning, [.dangling .stop])
  | .spawning => ({ s with reaper := .finishing }, some .leaving, [])
  | .leaving =>
      if s.reaper = .exited then
        ({ s with pStreamer := false, gstreamer := .deleted }, none, [.deleted])
      else ({ s with pStreamer := false }, none, [])

/-- The thread of `reaper`: `finish()`, and the end of its pointer. -/
def stepReaper (s : CapCb κ) : Option (CapCb κ × List Lifetime) :=
  match s.reaper with
  | .notStarted | .exited => none
  | .finishing =>
      some ({ s with reaper := .releasing }, s.gstreamer.use .thread)
  | .releasing =>
      if s.pStreamer then some ({ s with reaper := .exited }, [])
      else
        some ({ s with reaper := .exited, gstreamer := .deleted }, [.deleted])

/-- `ok`: the checks pass, the constructor and `connect()` throw nothing. -/
def stepInit (s : CapCb κ) (ok vad : Bool) :
    Option (CapCb κ × List Lifetime) :=
  let failed : CapCb κ :=
    { s with life := s.life.setStart (.returned false) }
  let killing : CapCb κ :=
    { s with
      life := s.life.setStart (.initializing .killing)
      owner := .start .loading }
  match s.life.start with
  -- the codec, the mutex, the resampler and the vad
  | .initializing .checking =>
      if ok then
        some ({ s with
          life := s.life.setStart (.initializing .creating)
          vad := vad }, [])
      else some (failed, [])
  | .initializing .creating =>
      if ok then
        some ({ s with
          life := s.life.setStart
            (if s.vad then .adding else .initializing .connecting)
          streamer := true
          gstreamer := .alive }, [.created])
      else some (killing, [])
  | .initializing .connecting =>
      if ok then
        some ({ s with life := s.life.setStart .adding },
          s.gstreamer.use .start)
      else some (killing, s.gstreamer.use .start)
  | .initializing .killing =>
      match s.owner with
      | .start .killed => some ({ failed with owner := .nobody }, [])
      | .start stage =>
          match stepKillcb s stage with
          | none => none
          | some (next, stage, events) =>
              some ({ next with owner := .start stage }, events)
      | _ => none
  | _ => none

/-- `switch_core_media_bug_add`. -/
def stepAdd (s : CapCb κ) (ok : Bool) : Option (CapCb κ × List Lifetime) :=
  match s.life.start with
  | .adding =>
      if ok then
        some ({ s with
          life := { s.life with start := .attached, attached := true } }, [])
      else
        some ({ s with
          life := s.life.setStart .cleaning
          owner := .start .loading }, [])
  | _ => none

/-- `azure_transcribe_session_cleanup`. -/
def stepCleanup (s : CapCb κ) : Option (CapCb κ × List Lifetime) :=
  match s.life.start, s.owner with
  | .cleaning, .start .killed =>
      some ({ s with
        life := s.life.setStart (.returned false)
        owner := .nobody }, [])
  | .cleaning, .start stage =>
      match stepKillcb s stage with
      | none => none
      | some (next, stage, events) =>
          some ({ next with owner := .start stage }, events)
  | _, _ => none

/-- The CLOSE callback stops its own `cap_cb` and checks nothing. -/
def CapCb.lock (s : CapCb κ) (caller : Caller) :
    Option (CapCb κ × List Lifetime) :=
  if s.owner = .nobody ∧ s.life.start.added then
    if caller.closing then
      if s.life.close = .called then
        some ({ s with owner := .stop caller .loading }, [])
      else none
    else some ({ s with owner := .stop caller .checking }, [])
  else none

/-- `ok`: the channel private still holds the bug. -/
def stepStop (s : CapCb κ) (ok : Bool) :
    Option (CapCb κ × List (CaptureEvent κ)) :=
  match s.owner with
  | .stop caller .checking =>
      if ok then some ({ s with owner := .stop caller .clearing }, [])
      else some ({ s with owner := .nobody }, [.notice (.returned caller)])
  | .stop caller .clearing =>
      match s.life.bugname with
      | none => none
      | some bugname =>
          some ({ s with owner := .stop caller .loading },
            [.notice (.cleared caller bugname)])
  | .stop caller .loading =>
      if s.streamer then
        some ({ s with owner := .stop caller (.reaping .handing) }, [])
      else some ({ s with owner := .stop caller (.killing .loading) }, [])
  | .stop caller (.reaping stage) =>
      match stepReap s stage with
      | (next, some stage, events) =>
          some ({ next with owner := .stop caller (.reaping stage) },
            events.map .lifetime)
      | (next, none, events) =>
          some ({ next with owner := .stop caller (.killing .loading) },
            events.map .lifetime)
  | .stop caller (.killing .killed) =>
      if caller.closing then
        some ({ s with
          life := { s.life with close := .returned }
          owner := .nobody }, [])
      else some ({ s with owner := .nobody }, [.notice (.unlocked caller)])
  | .stop caller (.killing stage) =>
      match stepKillcb s stage with
      | none => none
      | some (next, stage, events) =>
          some ({ next with owner := .stop caller (.killing stage) },
            events.map .lifetime)
  | _ => none

def stepFrame (s : CapCb κ) (act : FrameAct) :
    Option (CapCb κ × List Lifetime) :=
  match s.owner, act with
  | .nobody, .lock =>
      if s.life.start.added then some ({ s with owner := .frame .loading }, [])
      else none
  | .frame .loading, .load =>
      if s.streamer then some ({ s with owner := .frame .looping }, [])
      else some ({ s with owner := .nobody }, [])
  | .frame .looping, .call => some (s, s.gstreamer.use .frame)
  | .frame .looping, .unlock => some ({ s with owner := .nobody }, [])
  | _, _ => none

def sessionStep (s : CapCb κ) :
    CaptureAct κ → Option (CapCb κ × List (CaptureEvent κ))
  | .control act =>
      match s.life.step .checking act with
      | none => none
      | some (life, notices) =>
          some ({ s with life := life }, notices.map .notice)
  | .init ok vad => lift (stepInit s ok vad)
  | .add ok => lift (stepAdd s ok)
  | .cleanup => lift (stepCleanup s)
  | .lock caller => lift (s.lock caller)
  | .stop ok => stepStop s ok
  | .frame act => lift (stepFrame s act)
  | .thread _ => lift (stepReaper s)

def CapCb.fresh (κ : Type) : CapCb κ :=
  { life := .fresh κ Init
    vad := false
    streamer := false
    pStreamer := false
    reaper := .notStarted
    owner := .nobody
    gstreamer := .absent }

def session (κ : Type) : Machine (CapCb κ) (CaptureAct κ) (CaptureEvent κ) :=
  { initial := .fresh κ
    step := sessionStep }

/-- What a step of session n reads of the channel. -/
def reads [DecidableEq κ] (c : Channel κ) (n : Nat) (s : CapCb κ) :
    CaptureAct κ → Bool
  | .control act => c.allows n s.life act
  | .lock caller => c.admits n caller
  | .stop ok =>
      match s.owner with
      | .stop _ .checking =>
          decide (ok = decide (c.slot s.life = some n))
      | _ => true
  | _ => true

def sessions (κ : Type) [DecidableEq κ] :
    Family (Channel κ) (CapCb κ) (CaptureAct κ) (CaptureEvent κ) (Outside κ)
      Empty :=
  { part := session κ
    shared := .fresh κ
    reads := reads
    writes := Transcribe.writes
    common := Transcribe.common }

end DrachtioModules.Azure.Capture

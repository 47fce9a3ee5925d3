import DrachtioModules.AudioFork.Pipe
import DrachtioModules.Machine
import DrachtioModules.Percent

/-!
# The temporary files of playAudio

A playAudio message leaves its audio in a temporary file, whose path the service
thread puts into the playout list of the session's `private_t`.
`fork_session_cleanup` takes the list and removes the files.  Both hold the
mutex of the `private_t`.

The model is one session of mod_audio_fork, with its start, the handler of its
messages, its stops and its CLOSE callback.  Of other sessions it knows that
they may change the channel private and take a number for a file.
-/

namespace DrachtioModules.AudioFork.Playout

open Percent (ascii)

/-- What is read of the `data` of a playAudio message: strings and the integer
value of `sampleRate`, where they are there. -/
structure PlayAudio where
  audioContentType : Option Bytes
  sampleRate : Option Int
  audioContent : Option Bytes
  deriving DecidableEq, Repr

/-- The suffix for raw audio. -/
def rawFileType (sampleRate : Int) : Bytes :=
  match sampleRate with
  | 8000 => ascii ".r8"
  | 16000 => ascii ".r16"
  | 24000 => ascii ".r24"
  | 32000 => ascii ".r32"
  | 48000 => ascii ".r48"
  | 64000 => ascii ".r64"
  | _ => ascii ".r16"

/-- The suffix of the file, for a content type that is supported. -/
def fileType (data : PlayAudio) : Option Bytes :=
  match data.audioContentType with
  | none => none
  | some contentType =>
      if contentType = ascii "raw" then
        some (rawFileType (data.sampleRate.getD 0))
      else if contentType = ascii "wave" ∨ contentType = ascii "wav" then
        some (ascii ".wav")
      else none

/-- The suffix, if there is audio to write. -/
def validAudio (data : PlayAudio) : Option Bytes :=
  match data.audioContent with
  | none => none
  | some _ => fileType data

/-- What the paths of a session begin with. -/
structure Config where
  tempDir : Bytes
  sessionId : Bytes

/-- `%d` -/
def formatInt (n : Int) : Bytes :=
  (if n < 0 then ascii "-" else []) ++
    (Nat.toDigits 10 n.natAbs).map fun digit => digit.toNat.toUInt8

/-- The path of a file, cut to the 255 characters the buffer holds. -/
def szFilePath (config : Config) (playCount : UInt32) (fileType : Bytes) :
    Bytes :=
  (config.tempDir ++ ascii "/" ++ config.sessionId ++ ascii "_" ++
    formatInt playCount.toBitVec.toInt ++ ascii ".tmp" ++ fileType).take 255

/-- What the channel private holds. -/
inductive Slot where
  | null
  | own
  | other
  deriving DecidableEq, Repr

/-- `start_capture` from `switch_core_media_bug_add` on. -/
inductive Start where
  | adding
  | attached
  | published
  | connected
  deriving DecidableEq, Repr

/-- The service thread in `eventCallback` and `processIncomingMessage`. -/
inductive Handler where
  | idle
  | raised (data : Option PlayAudio)
  | found (data : Option PlayAudio)
  | opening (path : Bytes)
  | locking (path : Bytes)
  | linking (path : Bytes)
  | storing (path : Bytes) (next : List Bytes)
  | unlocking (path : Bytes)
  | responding (file : Option Bytes)
  deriving DecidableEq, Repr

/-- A call of `fork_session_cleanup`: from a stop or from the CLOSE callback. -/
inductive Caller where
  | stop (call : Nat)
  | close
  deriving DecidableEq, Repr

/-- `held` is the bug the call is going to remove. -/
inductive Cleanup where
  | notCalled
  | entered
  | resolved
  | locked
  | verified (held : Slot)
  | cleared (held : Slot)
  | taking (held : Slot) (playout : List Bytes)
  | removing (held : Slot) (playout : List Bytes)
  | handing (held : Slot)
  | unlocked (held : Slot)
  | closing
  | returned
  deriving DecidableEq, Repr

/-- Who can hold the mutex of the `private_t`. -/
inductive Holder where
  | handler
  | cleanup (caller : Caller)
  deriving DecidableEq, Repr

/-- `bug` says that the session has its media bug, `files` are the files that
exist. -/
structure State where
  start : Start
  bug : Bool
  slot : Slot
  mutex : Option Holder
  playout : List Bytes
  playCount : UInt32
  files : List Bytes
  handler : Handler
  cleanups : Caller → Cleanup

/-- `message` is a playAudio message with its `data`; `ok` says that the bug was
added, the session was located, the file could be opened. -/
inductive Act where
  | start (ok : Bool)
  | message (data : Option PlayAudio)
  | handler (ok : Bool)
  | callStop (call : Nat)
  | hangup
  | cleanup (caller : Caller)
  | other (named : Bool)
  | otherMessage
  deriving DecidableEq, Repr

/-- A file comes into being, is removed, or is not there to be removed. -/
inductive Event where
  | created (path : Bytes)
  | removed (path : Bytes)
  | missing (path : Bytes)
  | playAudio (file : Option Bytes)
  deriving DecidableEq, Repr

def State.setCleanup (s : State) (caller : Caller) (stage : Cleanup) : State :=
  { s with cleanups := Function.update s.cleanups caller stage }

@[simp] theorem setCleanup_files (s : State) (caller : Caller)
    (stage : Cleanup) : (s.setCleanup caller stage).files = s.files := rfl

def stepStart (s : State) (ok : Bool) : Option (State × List Event) :=
  match s.start with
  | .adding =>
      if ok then some ({ s with start := .attached, bug := true }, [])
      else none
  | .attached => some ({ s with start := .published, slot := .own }, [])
  -- fork_session_connect
  | .published => some ({ s with start := .connected }, [])
  | .connected => none

/-- `std::ofstream` on a path; a file that is there is overwritten. -/
def State.open (s : State) (path : Bytes) (ok : Bool) : State × List Event :=
  if ok ∧ path ∉ s.files then
    ({ s with files := path :: s.files }, [.created path])
  else (s, [])

/-- `std::remove` on a path. -/
def State.remove (s : State) (path : Bytes) : State × List Event :=
  if path ∈ s.files then
    ({ s with files := s.files.filter (· ≠ path) }, [.removed path])
  else (s, [.missing path])

def stepHandler (config : Config) (s : State) (ok : Bool) :
    Option (State × List Event) :=
  match s.handler with
  | .idle => none
  -- the session is located and the bug resolved from the channel private
  | .raised data =>
      if ok ∧ s.slot = .own then some ({ s with handler := .found data }, [])
      else some ({ s with handler := .idle }, [])
  | .found none => some ({ s with handler := .idle }, [])
  | .found (some data) =>
      match validAudio data with
      | none => some ({ s with handler := .responding none }, [])
      | some fileType =>
          some ({ s with
            playCount := s.playCount + 1
            handler := .opening (szFilePath config s.playCount fileType) }, [])
  | .opening path =>
      let (opened, events) := s.open path ok
      some ({ opened with handler := .locking path }, events)
  | .locking path =>
      if s.mutex = none then
        some ({ s with mutex := some .handler, handler := .linking path }, [])
      else none
  -- the channel private is not read again
  | .linking path =>
      some ({ s with handler := .storing path s.playout }, [])
  | .storing path next =>
      some ({ s with
        playout := path :: next
        handler := .unlocking path }, [])
  | .unlocking path =>
      some ({ s with mutex := none, handler := .responding (some path) }, [])
  | .responding file =>
      some ({ s with handler := .idle }, [.playAudio file])

/-- The bug leaves the session, and its CLOSE callback is called. -/
def State.detach (s : State) : State :=
  { s with bug := false }.setCleanup .close .entered

def stepCleanup (s : State) (caller : Caller) : Option (State × List Event) :=
  match s.cleanups caller with
  | .notCalled | .returned => none
  | .entered =>
      if s.slot = .own then some (s.setCleanup caller .resolved, [])
      else some (s.setCleanup caller .returned, [])
  | .resolved =>
      if s.mutex = none then
        some ({ s with mutex := some (.cleanup caller) }.setCleanup caller
          .locked, [])
      else none
  | .locked =>
      if s.slot = .null then
        some ({ s with mutex := none }.setCleanup caller .returned, [])
      else some (s.setCleanup caller (.verified s.slot), [])
  | .verified held =>
      some ({ s with slot := .null }.setCleanup caller (.cleared held), [])
  | .cleared held =>
      some (s.setCleanup caller (.taking held s.playout), [])
  | .taking held playout =>
      some ({ s with playout := [] }.setCleanup caller
        (.removing held playout), [])
  | .removing held [] => some (s.setCleanup caller (.handing held), [])
  | .removing held (path :: playout) =>
      let (left, events) := s.remove path
      some (left.setCleanup caller (.removing held playout), events)
  -- the final text, the reaper and destroy_tech_pvt leave the list alone
  | .handing held =>
      some ({ s with mutex := none }.setCleanup caller (.unlocked held), [])
  | .unlocked held =>
      if caller ≠ .close ∧ held = .own ∧ s.bug then
        some (s.detach.setCleanup caller .closing, [])
      else some (s.setCleanup caller .returned, [])
  -- the CLOSE callback runs inside switch_core_media_bug_remove
  | .closing =>
      if s.cleanups .close = .returned then
        some (s.setCleanup caller .returned, [])
      else none

def step (config : Config) (s : State) : Act → Option (State × List Event)
  | .start ok => stepStart s ok
  | .message data =>
      if s.start = .connected ∧ s.handler = .idle then
        some ({ s with handler := .raised data }, [])
      else none
  | .handler ok => stepHandler config s ok
  | .callStop call =>
      if s.cleanups (.stop call) = .notCalled then
        some (s.setCleanup (.stop call) .entered, [])
      else none
  | .hangup => if s.bug then some (s.detach, []) else none
  | .cleanup caller => stepCleanup s caller
  -- a start of another session stores its bug, or a cleanup of one clears it
  | .other named =>
      some ({ s with slot := if named then .other else .null }, [])
  | .otherMessage => some ({ s with playCount := s.playCount + 1 }, [])

def State.fresh : State :=
  { start := .adding
    bug := false
    slot := .null
    mutex := none
    playout := []
    playCount := 0
    files := []
    handler := .idle
    cleanups := fun _ => .notCalled }

def machine (config : Config) : Machine State Act Event :=
  { initial := .fresh
    step := step config }

end DrachtioModules.AudioFork.Playout

import DrachtioModules.Deepgram.Transcripts

/-!
# Sessions of one bugname on one channel

The calls of `start_capture`, the stops and the CLOSE callbacks of one bugname
on one channel, with the pipes they create: mod_audio_fork and
mod_deepgram_transcribe share this protocol and differ in a few of its steps.

Everything the n-th call of `start_capture` creates carries the number n: its
`private_t`, its `AudioPipe`, its media bug.  The calls meet in the channel
private, which holds a media bug, and in the mutex of each `private_t`.  The
media bugs are those FreeSWITCH keeps for the session under the module's
function name.
-/

namespace DrachtioModules.Sessions

open AudioFork (Bytes NotifyEvent)
open Deepgram (CJson)

inductive Module where
  | audioFork
  | deepgram
  deriving DecidableEq, Repr

/-- `cJSON_Parse` is a library function. -/
structure Config where
  module : Module
  parse : Bytes → Option CJson

/-- A call of `fork_session_cleanup` or `dg_transcribe_session_stop`: from an
API stop, from the CLOSE callback of a bug, or, in mod_deepgram_transcribe,
from the `do_stop` of a start that finds a previous session. -/
inductive Caller where
  | stop (call : Nat)
  | close (bug : Nat)
  | start (call : Nat)
  deriving DecidableEq, Repr

/-- `channelIsClosing`. -/
def Caller.closing : Caller → Bool
  | .close _ => true
  | .stop _ | .start _ => false

/-- The next atomic step of a start; a returned one tells whether it reported
SUCCESS. -/
inductive StartStage where
  | notCalled
  | entered
  | replacing
  | initializing
  | constructed
  | counting
  | adding
  | orphaned
  | releasing
  | attached
  | published
  | connecting
  | returned (success : Bool)
  deriving DecidableEq, Repr

/-- The next atomic step of a cleanup.  `bug` is the media bug it resolved from
the channel private, `held` the one it is going to remove. -/
inductive CleanupStage where
  | notCalled
  | asked
  | entered
  | resolved (bug : Nat)
  | locked (bug : Nat)
  | verified (bug held : Nat)
  | cleared (bug held : Nat)
  | handing (bug held : Nat)
  | destroying (bug held : Nat)
  | unlocked (bug held : Nat)
  | removing (held : Nat)
  | returned
  deriving DecidableEq, Repr

structure Cleanup where
  text : Option Bytes
  stage : CleanupStage
  deriving DecidableEq, Repr

/-- The fields of a `private_t` these calls share; `audioPipe` says that
`pAudioPipe` is not null, `mutex` names the call that holds the mutex. -/
structure TechPvt where
  audioPipe : Bool
  mutex : Option Caller
  initialMetadata : Bytes
  deriving DecidableEq, Repr

/-- The channel private, the session's media bugs and every call in progress. -/
structure Control where
  idxCallCount : Nat
  slot : Option Nat
  bugs : List Nat
  starts : Nat → StartStage
  cleanups : Caller → Cleanup
  techPvts : Nat → TechPvt

/-- The connection of a pipe: `connect()` not called, handshake outstanding,
open, inside its last callback, close signalled. -/
inductive Connection where
  | unconnected
  | pending
  | established
  | leaving
  | closed
  deriving DecidableEq, Repr

/-- A notification on its way through `eventCallback`: before the channel
private is read, with the bug it named, or before the initial metadata is
sent. -/
inductive Notice where
  | idle
  | raised (event : NotifyEvent) (finished : Bool)
  | found (event : NotifyEvent) (finished : Bool) (bug : Nat)
  | metadata (bug : Nat)
  | returning
  deriving DecidableEq, Repr

/-- The detached thread a pipe is handed to. -/
inductive Reaper where
  | none
  | spawned
  | waiting
  | deleted
  | done
  deriving DecidableEq, Repr

structure Pipe where
  connection : Connection
  gracefulShutdown : Bool
  finished : Bool
  notice : Notice
  reaper : Reaper
  deriving DecidableEq, Repr

structure State where
  control : Control
  pipes : Nat → Pipe
  activePipes : Int

/-- How `fork_session_init` or `dg_transcribe_session_init`, with the checks
before it, ends: before a pipe is created, with a pipe that is deleted again,
or with success. -/
inductive Init where
  | refused
  | failed
  | success
  deriving DecidableEq, Repr

/-- What lws reports on a connection. -/
inductive Lws where
  | established
  | connectionError
  | receive (text : Bytes)
  | closed (byUs : Bool)
  deriving DecidableEq, Repr

inductive Act where
  | callStart (initialMetadata : Bytes)
  | start (n : Nat) (init : Init) (ok : Bool)
  | callStop (call : Nat) (text : Option Bytes)
  | hangup (bug : Nat)
  | cleanup (caller : Caller)
  | reaper (n : Nat)
  | lws (n : Nat) (report : Lws)
  | notice (n : Nat) (located : Bool)
  deriving DecidableEq, Repr

inductive Event where
  | created (n : Nat)
  | deleted (n : Nat)
  | activated (n : Nat)
  | released (n : Nat)
  | published (n : Nat)
  | connected (n : Nat)
  | connectedNull (n : Nat)
  | cleared (caller : Caller) (bug : Nat) (slot : Option Nat)
  | finalText (caller : Caller) (bug owner : Nat) (text : Bytes)
  | tornDown (caller : Caller) (bug owner : Nat)
  | removed (caller : Caller) (bug held : Nat)
  | handed (n : Nat)
  | finish (n : Nat)
  | arrived (n : Nat) (text : Bytes)
  | handled (n bug : Nat) (event : NotifyEvent) (finished : Bool)
  | metadataSent (n bug : Nat) (text : Bytes)
  | closed (n : Nat)
  deriving DecidableEq, Repr

namespace Control

def setStart (c : Control) (n : Nat) (stage : StartStage) : Control :=
  { c with starts := Function.update c.starts n stage }

def setCleanup (c : Control) (caller : Caller) (stage : CleanupStage) :
    Control :=
  { c with
    cleanups := Function.update c.cleanups caller
      { c.cleanups caller with stage := stage } }

def call (c : Control) (caller : Caller) (text : Option Bytes)
    (stage : CleanupStage) : Control :=
  { c with cleanups := Function.update c.cleanups caller ⟨text, stage⟩ }

def setTechPvt (c : Control) (n : Nat) (techPvt : TechPvt) : Control :=
  { c with techPvts := Function.update c.techPvts n techPvt }

/-- Takes a bug off the session's list and fires its CLOSE callback. -/
def detach (c : Control) (bug : Nat) : Control :=
  { c with bugs := c.bugs.filter (· != bug) }.call (.close bug) none .entered

end Control

def State.setPipe (s : State) (n : Nat) (pipe : Pipe) : State :=
  { s with pipes := Function.update s.pipes n pipe }

/-- What the check at the head of `start_capture` does about a channel private
that is in use: mod_audio_fork refuses, mod_deepgram_transcribe stops the
previous session. -/
def startOccupied (module : Module) (s : State) (n : Nat) : State :=
  match module with
  | .audioFork => { s with control := s.control.setStart n (.returned false) }
  | .deepgram =>
      { s with
        control := (s.control.call (.start n) none .asked).setStart n
          .replacing }

/-- `fork_session_cleanup_unattached` and `dg_transcribe_session_cleanup`: the
first deletes a pipe that never connected, the second hands a connecting one to
the reaper. -/
def cleanupUnattached (module : Module) (s : State) (n : Nat) :
    State × List Event :=
  let techPvt := s.control.techPvts n
  match module with
  | .audioFork =>
      ({ s with
        control := (s.control.setTechPvt n
          { techPvt with audioPipe := false }).setStart n .releasing },
        if techPvt.audioPipe then [.deleted n] else [])
  | .deepgram =>
      if techPvt.audioPipe then
        ({ s with
          control := (s.control.setTechPvt n
            { techPvt with audioPipe := false }).setStart n (.returned false)
          }.setPipe n { s.pipes n with reaper := .spawned },
          [.handed n])
      else
        ({ s with control := s.control.setStart n .releasing }, [])

/-- `switch_core_media_bug_add`: with SMBF_ONE_ONLY a second bug of the same
function name is refused. -/
def bugAdd (module : Module) (bugs : List Nat) (ok : Bool) : Bool :=
  match module with
  | .audioFork => ok && bugs.isEmpty
  | .deepgram => ok

def stepStart (module : Module) (s : State) (n : Nat) (init : Init)
    (ok : Bool) : Option (State × List Event) :=
  let c := s.control
  match c.starts n with
  | .notCalled | .returned _ => none
  | .entered =>
      if c.slot.isSome then some (startOccupied module s n, [])
      else some ({ s with control := c.setStart n .initializing }, [])
  | .replacing =>
      if (c.cleanups (.start n)).stage = .returned then
        some ({ s with control := c.setStart n .initializing }, [])
      else none
  | .initializing =>
      match init with
      | .refused =>
          some ({ s with control := c.setStart n (.returned false) }, [])
      | .failed =>
          some ({ s with control := c.setStart n (.returned false) },
            [.created n, .deleted n])
      | .success =>
          some ({ s with
            control := (c.setTechPvt n
              { c.techPvts n with audioPipe := true }).setStart n
                .constructed },
            [.created n])
  | .constructed =>
      match module with
      | .audioFork =>
          some ({ s with
            control := c.setStart n .adding
            activePipes := s.activePipes + 1 }, [.activated n])
      | .deepgram =>
          some ({ s with control := c.setStart n .counting }.setPipe n
            { s.pipes n with connection := .pending }, [.connected n])
  | .counting =>
      some ({ s with
        control := c.setStart n .adding
        activePipes := s.activePipes + 1 }, [.activated n])
  | .adding =>
      if bugAdd module c.bugs ok then
        some ({ s with
          control := { c with bugs := n :: c.bugs }.setStart n .attached }, [])
      else some ({ s with control := c.setStart n .orphaned }, [])
  | .orphaned => some (cleanupUnattached module s n)
  | .releasing =>
      some ({ s with
        control := c.setStart n (.returned false)
        activePipes := s.activePipes - 1 }, [.released n])
  | .attached =>
      match module with
      | .audioFork =>
          some ({ s with
            control := { c with slot := some n }.setStart n .published },
            [.published n])
      | .deepgram =>
          some ({ s with
            control := { c with slot := some n }.setStart n (.returned true) },
            [.published n])
  -- fork_session_connect
  | .published =>
      if (c.techPvts n).audioPipe then
        some ({ s with control := c.setStart n .connecting }, [])
      else
        some ({ s with control := c.setStart n (.returned true) },
          [.connectedNull n])
  | .connecting =>
      some ({ s with control := c.setStart n (.returned true) }.setPipe n
        { s.pipes n with connection := .pending }, [.connected n])

/-- The check under the lock: the bug to remove, or `none` if there is nothing
left to do.  mod_audio_fork goes on with whatever the channel private holds by
now, mod_deepgram_transcribe only with the bug it resolved. -/
def recheck (module : Module) (slot : Option Nat) (bug : Nat) : Option Nat :=
  match module with
  | .audioFork => slot
  | .deepgram => if slot = some bug then some bug else none

def stepCleanup (module : Module) (s : State) (caller : Caller) :
    Option (State × List Event) :=
  let c := s.control
  match (c.cleanups caller).stage with
  | .notCalled | .returned => none
  -- the check of mod_deepgram_transcribe's do_stop
  | .asked =>
      if c.slot.isSome then
        some ({ s with control := c.setCleanup caller .entered }, [])
      else some ({ s with control := c.setCleanup caller .returned }, [])
  | .entered =>
      match c.slot with
      | none => some ({ s with control := c.setCleanup caller .returned }, [])
      | some bug =>
          some ({ s with control := c.setCleanup caller (.resolved bug) }, [])
  | .resolved bug =>
      match (c.techPvts bug).mutex with
      | none =>
          some ({ s with
            control := (c.setTechPvt bug
              { c.techPvts bug with mutex := some caller }).setCleanup caller
                (.locked bug) }, [])
      | some _ => none
  | .locked bug =>
      match recheck module c.slot bug with
      | none =>
          some ({ s with
            control := (c.setTechPvt bug
              { c.techPvts bug with mutex := none }).setCleanup caller
                .returned }, [])
      | some held =>
          some ({ s with
            control := c.setCleanup caller (.verified bug held) }, [])
  | .verified bug held =>
      some ({ s with
        control := { c with slot := none }.setCleanup caller
          (.cleared bug held) }, [.cleared caller bug c.slot])
  | .cleared bug held =>
      some ({ s with control := c.setCleanup caller (.handing bug held) },
        match (c.cleanups caller).text with
        | some text =>
            if (c.techPvts bug).audioPipe then
              [.finalText caller bug bug text]
            else []
        | none => [])
  | .handing bug held =>
      if (c.techPvts bug).audioPipe then
        some ({ s with
          control := (c.setTechPvt bug
            { c.techPvts bug with audioPipe := false }).setCleanup caller
              (.destroying bug held)
          }.setPipe bug { s.pipes bug with reaper := .spawned },
          [.tornDown caller bug bug, .handed bug])
      else
        some ({ s with
          control := c.setCleanup caller (.destroying bug held) }, [])
  -- destroy_tech_pvt and the unlock
  | .destroying bug held =>
      some ({ s with
        control := (c.setTechPvt bug
          { c.techPvts bug with audioPipe := false, mutex := none }).setCleanup
            caller (.unlocked bug held) },
        if (c.techPvts bug).audioPipe then [.deleted bug] else [])
  | .unlocked bug held =>
      if caller.closing then
        some ({ s with control := c.setCleanup caller .returned }, [])
      else if held ∈ c.bugs then
        some ({ s with
          control := (c.detach held).setCleanup caller (.removing held) },
          [.removed caller bug held])
      else
        some ({ s with control := c.setCleanup caller .returned },
          [.removed caller bug held])
  -- the CLOSE callback runs inside switch_core_media_bug_remove
  | .removing held =>
      if (c.cleanups (.close held)).stage = .returned then
        some ({ s with control := c.setCleanup caller .returned }, [])
      else none

/-- `close()` or `finish()` on a pipe in the hands of its reaper. -/
def reap (module : Module) (pipe : Pipe) : Pipe :=
  match module with
  | .audioFork => { pipe with reaper := .waiting }
  | .deepgram =>
      if pipe.connection = .established then
        { pipe with reaper := .waiting, finished := true }
      else { pipe with reaper := .waiting, gracefulShutdown := true }

def stepReaper (module : Module) (s : State) (n : Nat) :
    Option (State × List Event) :=
  match (s.pipes n).reaper with
  | .none | .done => none
  | .spawned => some (s.setPipe n (reap module (s.pipes n)), [.finish n])
  | .waiting =>
      if (s.pipes n).connection = .closed then
        some (s.setPipe n { s.pipes n with reaper := .deleted }, [])
      else none
  | .deleted =>
      some ({ s with activePipes := s.activePipes - 1 }.setPipe n
        { s.pipes n with reaper := .done }, [.released n])

/-- A callback of lws on the pipe's connection up to its call of `m_callback`.
The finish recorded before the handshake is completed by ESTABLISHED. -/
def stepLws (s : State) (n : Nat) (report : Lws) :
    Option (State × List Event) :=
  let pipe := s.pipes n
  if pipe.notice = .idle then
    match report with
    | .established =>
        if pipe.connection = .pending then
          some (s.setPipe n { pipe with
            connection := .established
            finished := pipe.finished || pipe.gracefulShutdown
            notice := .raised .connectSuccess
              (pipe.finished || pipe.gracefulShutdown) }, [])
        else none
    | .connectionError =>
        if pipe.connection = .pending then
          some (s.setPipe n { pipe with
            connection := .leaving
            notice := .raised .connectFail pipe.finished }, [])
        else none
    | .receive text =>
        if pipe.connection = .established then
          some (s.setPipe n { pipe with
            notice := .raised (.message text) pipe.finished },
            [.arrived n text])
        else none
    | .closed byUs =>
        if pipe.connection = .established then
          some (s.setPipe n { pipe with
            connection := .leaving
            notice := .raised
              (if byUs then .connectionClosedGracefully else .connectionDropped)
              pipe.finished }, [])
        else none
  else none

/-- Whether `eventCallback` acts on an event once it has found a bug. -/
def actsOn (config : Config) : NotifyEvent → Bool
  | .connectSuccess | .connectFail | .connectionDropped => true
  | .connectionClosedGracefully => false
  | .message text =>
      match config.module with
      | .audioFork => true
      | .deepgram => !Deepgram.discards (config.parse text)

/-- The last thing CONNECT_SUCCESS does in mod_audio_fork is to send the
initial metadata. -/
def afterEvent (module : Module) (event : NotifyEvent) (bug : Nat) : Notice :=
  match module, event with
  | .audioFork, .connectSuccess => .metadata bug
  | _, _ => .returning

/-- The rest of the callback: `eventCallback`, which gives up if the session is
not `located`, and what follows it. -/
def stepNotice (config : Config) (s : State) (n : Nat) (located : Bool) :
    Option (State × List Event) :=
  let pipe := s.pipes n
  match pipe.notice with
  | .idle => none
  | .raised event finished =>
      match located, s.control.slot with
      | true, some bug =>
          some (s.setPipe n { pipe with notice := .found event finished bug },
            [])
      | _, _ => some (s.setPipe n { pipe with notice := .returning }, [])
  | .found event finished bug =>
      some (s.setPipe n { pipe with
          notice := afterEvent config.module event bug },
        if actsOn config event then [.handled n bug event finished] else [])
  | .metadata bug =>
      let techPvt := s.control.techPvts bug
      match techPvt.mutex with
      | some _ => none
      | none =>
          some (s.setPipe n { pipe with notice := .returning },
            if techPvt.initialMetadata ≠ [] ∧ techPvt.audioPipe then
              [.metadataSent n bug techPvt.initialMetadata]
            else [])
  | .returning =>
      if pipe.connection = .leaving then
        some (s.setPipe n
          { pipe with connection := .closed, notice := .idle }, [.closed n])
      else some (s.setPipe n { pipe with notice := .idle }, [])

def step (config : Config) (s : State) : Act → Option (State × List Event)
  | .callStart initialMetadata =>
      let n := s.control.idxCallCount
      some ({ s with
        control := ({ s.control with idxCallCount := n + 1 }.setTechPvt n
          { s.control.techPvts n with initialMetadata := initialMetadata }
          ).setStart n .entered }, [])
  | .start n init ok => stepStart config.module s n init ok
  | .callStop call text =>
      if (s.control.cleanups (.stop call)).stage = .notCalled then
        some ({ s with
          control := s.control.call (.stop call) text
            (match config.module with
              | .audioFork => .entered
              | .deepgram => .asked) }, [])
      else none
  | .hangup bug =>
      if bug ∈ s.control.bugs then
        some ({ s with control := s.control.detach bug }, [])
      else none
  | .cleanup caller => stepCleanup config.module s caller
  | .reaper n => stepReaper config.module s n
  | .lws n report => stepLws s n report
  | .notice n located => stepNotice config s n located

def Control.fresh : Control :=
  { idxCallCount := 0
    slot := none
    bugs := []
    starts := fun _ => .notCalled
    cleanups := fun _ => ⟨none, .notCalled⟩
    techPvts := fun _ => ⟨false, none, []⟩ }

def Pipe.fresh : Pipe :=
  { connection := .unconnected
    gracefulShutdown := false
    finished := false
    notice := .idle
    reaper := .none }

def State.fresh : State :=
  { control := .fresh
    pipes := fun _ => .fresh
    activePipes := 0 }

def machine (config : Config) : Machine State Act Event :=
  { initial := .fresh
    step := step config }

end DrachtioModules.Sessions

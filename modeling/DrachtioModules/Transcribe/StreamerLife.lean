import DrachtioModules.Machine

/-!
# The life of a GStreamer whose bug is removed under the mutex

A capture of mod_nvidia_transcribe, mod_nuance_transcribe, mod_soniox_transcribe
or mod_cobalt_transcribe, under every interleaving of the media thread, the read
thread, the stops, the hangup and, in mod_nuance_transcribe, the start of the
timers.  The media thread looks at `cb->streamer` without the mutex, holding the
read side of the lock of the bugs; a stop keeps the mutex until the bug is
removed.

The channel private stands under the bug's name, so that other captures of that
name may write it too; the name is one that `cb->bugname` holds whole.  A
channel that gRPC cannot create ends the process and is left out.
-/

namespace DrachtioModules.Transcribe.StreamerLife

inductive Module where
  | nvidia
  | nuance
  | soniox
  | cobalt
  deriving DecidableEq, Repr

/-- `vad` is START_RECOGNIZING_ON_VAD; `resamples` says that the codec does not
run at 8000 Hz. -/
structure Config where
  module : Module
  vad : Bool
  resamples : Bool

/-- How far `start_capture` is. -/
inductive Start where
  | fresh
  | streaming
  | added
  | published
  | failed
  deriving DecidableEq, Repr

/-- `ending` is between the last read of mod_cobalt_transcribe and its
`finish()`. -/
inductive Reader where
  | absent
  | waiting
  | reading
  | ending
  | exited
  deriving DecidableEq, Repr

/-- The media thread in `speech_frame`, with what it read from `cb->streamer`;
`configuring` is inside `connect()`, the promise set and the configuration not
yet written. -/
inductive Media where
  | away
  | entered
  | copied (streamer : Bool)
  | listening (streamer : Bool)
  | configuring (streamer : Bool)
  deriving DecidableEq, Repr

/-- Whose `speech_session_cleanup` it is: the removal of the bug calls it again
from within that of a stop. -/
inductive Caller where
  | stop
  | nested
  | hangup
  deriving DecidableEq, Repr

inductive Stage where
  | locked
  | joining
  | deleted
  | closing
  | removing
  | unlocking
  deriving DecidableEq, Repr

inductive Holder where
  | media
  | cleanup (caller : Caller) (stage : Stage)
  | timers
  deriving DecidableEq, Repr

inductive Hangup where
  | before
  | closing
  | returned
  deriving DecidableEq, Repr

/-- The bug of this capture, or of another one with its name. -/
inductive Private where
  | none
  | mine
  | other
  deriving DecidableEq, Repr

/-- `streamer` is the pointer in the `cap_cb`, `alive` the GStreamer it once
pointed to; `finished` says that the stream's `Finish` was called; `stops` and
`timers` have looked at the channel private and wait for the mutex. -/
structure State where
  start : Start
  attached : Bool
  channelPrivate : Private
  streamer : Bool
  alive : Bool
  connected : Bool
  promised : Bool
  writesDone : Bool
  finished : Bool
  resampler : Bool
  reader : Reader
  media : Media
  mutex : Option Holder
  stops : Nat
  timers : Nat
  hangup : Hangup
  deriving DecidableEq, Repr

def State.fresh : State :=
  { start := .fresh, attached := false, channelPrivate := .none
    streamer := false, alive := false, connected := false, promised := false
    writesDone := false, finished := false, resampler := false
    reader := .absent, media := .away, mutex := none, stops := 0, timers := 0
    hangup := .before }

/-- What is done to the GStreamer, its promise, its stream and the resampler,
and whether it may be done: what is touched is alive, what is set, closed,
finished or deleted was not before, and a stream is there that is written to,
not closed by `WritesDone` and not finished. -/
inductive Event where
  | touch (alive : Bool)
  | resample (alive : Bool)
  | promise (first : Bool)
  | write (stream unclosed unfinished : Bool)
  | writesDone (first unfinished : Bool)
  | finish (first : Bool)
  | delete (alive : Bool)
  | destroy (alive : Bool)
  deriving DecidableEq, Repr

def Event.sound : Event → Bool
  | .touch alive | .resample alive | .delete alive | .destroy alive => alive
  | .promise first | .finish first => first
  | .writesDone first unfinished => first && unfinished
  | .write stream unclosed unfinished => stream && unclosed && unfinished

inductive Act where
  | init
  | add (ok : Bool)
  | publish
  | rename (present : Bool)
  | enter
  | copy
  | tryLock
  | hear (talking : Bool)
  | configure
  | leave
  | read (more : Bool)
  | finish (located : Bool)
  | lookStop
  | lockStop
  | hang
  | lockHangup
  | cleanup
  | lookTimers
  | lockTimers
  | startTimers
  deriving DecidableEq, Repr

/-- `start_capture` once it has found no bug of the name, or stopped that one:
`speech_session_init`, which connects at once without a VAD, and the rest; other
captures of the same name. -/
def stepStart (config : Config) (s : State) :
    Act → Option (State × List Event)
  | .init =>
      if s.start = .fresh ∧ s.channelPrivate = .none then
        some ({ s with
            start := .streaming, streamer := true, alive := true
            connected := !config.vad, promised := !config.vad
            resampler := config.resamples, reader := .waiting },
          if config.vad then [] else [.promise true, .write true true true])
      else none
  | .add ok =>
      if s.start = .streaming ∧ s.hangup ≠ .closing then
        if ok then some ({ s with start := .added, attached := true }, [])
        else some ({ s with start := .failed }, [])
      else none
  | .publish =>
      if s.start = .added then
        some ({ s with start := .published, channelPrivate := .mine }, [])
      else none
  | .rename present =>
      some ({ s with channelPrivate := if present then .other else .none }, [])
  | _ => none

/-- `GStreamer::write` and the writes of `connect()`, on a stream that is
there. -/
def written (s : State) : Event :=
  .write true (!s.writesDone) (!s.finished)

/-- `speech_frame`. -/
def stepMedia (config : Config) (s : State) :
    Act → Option (State × List Event)
  | .enter =>
      if s.media = .away ∧ s.attached = true ∧ s.hangup ≠ .closing then
        some (if s.streamer then { s with media := .entered } else s, [])
      else none
  | .copy =>
      if s.media = .entered then
        some ({ s with media := .copied s.streamer }, [])
      else none
  | .tryLock =>
      match s.media with
      | .copied streamer =>
          if s.mutex = none then
            some ({ s with media := .listening streamer, mutex := some .media },
              [])
          else some ({ s with media := .away }, [])
      | _ => none
  | .hear talking =>
      match s.media with
      | .listening streamer =>
          if config.vad && !s.connected && talking then
            some ({ s with
                connected := true, promised := true
                media := .configuring streamer },
              [.touch (streamer && s.alive), .promise (!s.promised)])
          else
            -- before the connect, the audio goes to the prebuffer
            some (s, .touch (streamer && s.alive) ::
              ((if config.resamples then [.resample s.resampler] else []) ++
                if s.connected then [written s] else []))
      | _ => none
  | .configure =>
      match s.media with
      | .configuring streamer =>
          some ({ s with media := .listening streamer },
            [.touch (streamer && s.alive), written s])
      | _ => none
  | .leave =>
      match s.media with
      | .listening _ => some ({ s with media := .away, mutex := none }, [])
      | _ => none
  | _ => none

/-- `grpc_read_thread`, which in mod_cobalt_transcribe finishes the stream at
its end if the session is still there. -/
def stepReader (config : Config) (s : State) :
    Act → Option (State × List Event)
  | .read more =>
      match s.reader with
      | .waiting =>
          if s.promised then
            some ({ s with
              reader := if s.connected then .reading else .exited },
              [.touch s.alive])
          else none
      | .reading =>
          some (if more then s
            else { s with
              reader := if config.module = .cobalt then .ending else .exited },
            [.touch s.alive])
      | .absent | .ending | .exited => none
  | .finish located =>
      if s.reader = .ending then
        some (if located then
            ({ s with reader := .exited, finished := true },
              [.touch s.alive, .finish (!s.finished)])
          else ({ s with reader := .exited }, []))
      else none
  | _ => none

/-- `GStreamer::writesDone`. -/
def writesDone (s : State) : State × List Event :=
  if s.connected then
    if s.writesDone then (s, []) else
      ({ s with writesDone := true }, [.writesDone true (!s.finished)])
  else ({ s with promised := true }, [.promise (!s.promised)])

def holding (caller : Caller) (stage : Stage) (s : State) : State :=
  { s with mutex := some (.cleanup caller stage) }

/-- `speech_session_cleanup`, from one stage to the next. -/
def stepCleanup (config : Config) (s : State) (caller : Caller) :
    Stage → Option (State × List Event)
  | .locked =>
      if s.channelPrivate = .none then some (holding caller .unlocking s, [])
      else
        let s := { s with channelPrivate := .none }
        if s.streamer then
          some (holding caller .joining (writesDone s).1,
            .touch s.alive :: (writesDone s).2)
        else some (holding caller .closing s, [])
  | .joining =>
      if s.reader = .exited then
        some (holding caller .deleted { s with alive := false },
          [.delete s.alive])
      else none
  | .deleted => some (holding caller .closing { s with streamer := false }, [])
  | .closing =>
      if config.resamples then
        some (holding caller .removing { s with resampler := false },
          [.destroy s.resampler])
      else some (holding caller .removing s, [])
  | .removing =>
      match caller with
      | .nested | .hangup => some (holding caller .unlocking s, [])
      | .stop =>
          if s.media = .away ∧ s.hangup ≠ .closing then
            if s.attached then
              some (holding .nested .locked { s with attached := false }, [])
            else some (holding .stop .unlocking s, [])
          else none
  | .unlocking =>
      match caller with
      | .stop => some ({ s with mutex := none }, [])
      | .nested => some (holding .stop .unlocking s, [])
      | .hangup =>
          some ({ s with
            mutex := none, hangup := .returned, attached := false }, [])

/-- `do_stop`, the hangup, and whoever of them has the mutex. -/
def stepTeardown (config : Config) (s : State) :
    Act → Option (State × List Event)
  | .lookStop =>
      if s.channelPrivate = .mine then
        some ({ s with stops := s.stops + 1 }, [])
      else none
  | .lockStop =>
      if 0 < s.stops ∧ s.mutex = none then
        some (holding .stop .locked { s with stops := s.stops - 1 }, [])
      else none
  | .hang =>
      if s.hangup = .before ∧ s.media = .away then
        some ({ s with hangup := if s.attached then .closing else .returned }, [])
      else none
  | .lockHangup =>
      if s.hangup = .closing ∧ s.mutex = none then
        some (holding .hangup .locked s, [])
      else none
  | .cleanup =>
      match s.mutex with
      | some (.cleanup caller stage) => stepCleanup config s caller stage
      | _ => none
  | _ => none

/-- `nuance_speech_session_start_timers`, which writes to the stream whether
there is one or not. -/
def stepTimers (config : Config) (s : State) :
    Act → Option (State × List Event)
  | .lookTimers =>
      if config.module = .nuance ∧ s.channelPrivate = .mine then
        some ({ s with timers := s.timers + 1 }, [])
      else none
  | .lockTimers =>
      if 0 < s.timers ∧ s.mutex = none then
        some ({ s with timers := s.timers - 1, mutex := some .timers }, [])
      else none
  | .startTimers =>
      if s.mutex = some .timers then
        some ({ s with mutex := none },
          if s.streamer then
            [.touch s.alive,
              .write s.connected (!s.writesDone) (!s.finished)]
          else [])
      else none
  | _ => none

def step (config : Config) (s : State) (act : Act) :
    Option (State × List Event) :=
  match act with
  | .init | .add _ | .publish | .rename _ => stepStart config s act
  | .enter | .copy | .tryLock | .hear _ | .configure | .leave =>
      stepMedia config s act
  | .read _ | .finish _ => stepReader config s act
  | .lookStop | .lockStop | .hang | .lockHangup | .cleanup =>
      stepTeardown config s act
  | .lookTimers | .lockTimers | .startTimers => stepTimers config s act

def machine (config : Config) : Machine State Act Event :=
  { initial := .fresh
    step := step config }

/-- A stop is under way. -/
def stopping (s : State) : Bool :=
  0 < s.stops || match s.mutex with
    | some (.cleanup .stop _) | some (.cleanup .nested _) => true
    | _ => false

/-- The start is under way. -/
def starting (s : State) : Bool :=
  match s.start with
  | .streaming | .added => true
  | .fresh | .published | .failed => false

/-- No other capture is started under the name of the bug while the start of
this one or a stop of it is under way. -/
def commandsApart (s : State) : Act → Bool
  | .rename true => !starting s && !stopping s
  | _ => true

end DrachtioModules.Transcribe.StreamerLife

import DrachtioModules.AudioFork.Steps

/-!
# The audio of a pipe

The media thread appends to the ring and the service thread sends and empties
it, each while it holds the ring's lock.  The whole stream of audio is then cut
into contents the ring had when it was emptied: each was sent as one binary
frame or, at an overrun, dumped.

The bytes the media thread has written are kept as a history variable.
-/

namespace DrachtioModules.AudioFork

/-- A whole content of the ring that is no longer there. -/
inductive Fill where
  | sent (audio : Bytes)
  | dumped (audio : Bytes)
  deriving DecidableEq, Repr

def Fill.audio : Fill → Bytes
  | .sent audio | .dumped audio => audio

def Fill.frame : Fill → Option Bytes
  | .sent audio => some audio
  | .dumped _ => none

/-- The payload of a binary frame that carries audio; the frame of a graceful
shutdown carries none. -/
def Event.audio : Event → Option Bytes
  | .sent (.binary payload) => if payload = [] then none else some payload
  | _ => none

def audioFrames (trace : List Event) : List Bytes :=
  trace.filterMap Event.audio

/-- How many outputs of the resampler a frame callback takes that finds `space`
bytes free: up to the first that leaves less than `binaryMinSpace()`. -/
def outputsTaken (config : Config) (space : Nat) : List Bytes → Nat
  | [] => 0
  | data :: outputs =>
      if space - data.length < config.minFreespace then 1
      else outputsTaken config (space - data.length) outputs + 1

/-- The bytes of the reads one frame callback takes: every read without a
resampler, with one those before the loop ends. -/
def writtenBy (config : Config) (ring : Bytes) (reads : List Bytes) : Bytes :=
  if config.resampler then
    let space := config.capacity - ring.length
    (reads.take (outputsTaken config space reads)).flatten
  else reads.flatten

def noteWritten (config : Config) (s : State) (label : Act)
    (written : Bytes) : Bytes :=
  match label with
  | .advance thread =>
      match s.calls thread with
      | some ⟨_, .frameRead reads⟩ =>
          written ++ writtenBy config s.pipe.ring reads
      | _ => written
  | _ => written

/-- The machine with the bytes the media thread has written. -/
def recordedAudio (config : Config) : Machine (State × Bytes) Act Event :=
  (machine config).recording [] (noteWritten config)

/-- `lws_write` succeeds on audio. -/
def sendsAudio (recorded : State × Bytes) : Act → Bool
  | .serve ok _ =>
      match recorded.1.service with
      | .writeableAudio => ok
      | _ => true
  | _ => true

/-- `fork_frame` finds less space than a read may need. -/
def Overrun (config : Config) (ring : Bytes) : Prop :=
  config.resampler = false ∧
    config.capacity - ring.length < config.minFreespace * config.channels

/-- All that was written, in order: the contents the ring has had and the one
it has. -/
structure Streams (config : Config) (trace : List Event)
    (written ring : Bytes) (fills : List Fill) : Prop where
  whole : written = (fills.map Fill.audio).flatten ++ ring
  frames : audioFrames trace = fills.filterMap Fill.frame
  dumped : ∀ audio, .dumped audio ∈ fills → Overrun config audio

theorem readNative_fills (config : Config) (native : config.resampler = false)
    (ring : Bytes) (reads : List Bytes) :
    ∃ dumps : List Bytes,
      ring ++ reads.flatten = dumps.flatten ++ readNative config ring reads ∧
        ∀ audio ∈ dumps, Overrun config audio := by
  induction reads generalizing ring with
  | nil =>
      simp only [readNative]
      split
      · rename_i short
        refine ⟨[ring], by simp, ?_⟩
        intro audio member
        rw [List.mem_singleton.mp member]
        exact ⟨native, short⟩
      · exact ⟨[], by simp, nofun⟩
  | cons data reads ih =>
      simp only [readNative]
      split
      · rename_i short
        obtain ⟨dumps, whole, overruns⟩ := ih data
        refine ⟨ring :: dumps, ?_, ?_⟩
        · rw [List.flatten_cons, List.flatten_cons, whole, List.append_assoc]
        · intro audio member
          rcases List.mem_cons.mp member with rfl | later
          · exact ⟨native, short⟩
          · exact overruns audio later
      · obtain ⟨dumps, whole, overruns⟩ := ih (ring ++ data)
        refine ⟨dumps, ?_, overruns⟩
        rw [← whole, List.flatten_cons, List.append_assoc]

theorem readResampled_appends (config : Config) (ring : Bytes)
    (reads : List Bytes) :
    readResampled config ring reads =
      ring ++ (reads.take
        (outputsTaken config (config.capacity - ring.length) reads)).flatten := by
  induction reads generalizing ring with
  | nil => simp [readResampled]
  | cons data reads ih =>
      have left : config.capacity - (ring ++ data).length =
          config.capacity - ring.length - data.length := by
        rw [List.length_append, Nat.sub_add_eq]
      simp only [readResampled, outputsTaken, ← left]
      split
      · simp
      · rw [ih, List.take_succ_cons, List.flatten_cons, List.append_assoc]

/-- What a frame callback wrote is in the ring, behind what was dumped. -/
theorem forkFrame_fills (config : Config) (ring : Bytes) (reads : List Bytes) :
    ∃ dumps : List Bytes,
      ring ++ writtenBy config ring reads =
          dumps.flatten ++ forkFrame config ring reads ∧
        ∀ audio ∈ dumps, Overrun config audio := by
  cases sampled : config.resampler with
  | false =>
      simp only [writtenBy, forkFrame, sampled]
      exact readNative_fills config sampled ring reads
  | true =>
      refine ⟨[], ?_, nofun⟩
      simp only [writtenBy, forkFrame, sampled, if_true, List.flatten_nil,
        List.nil_append]
      exact (readResampled_appends config ring reads).symm

theorem audioFrames_append (trace events : List Event) :
    audioFrames (trace ++ events) = audioFrames trace ++ audioFrames events :=
  List.filterMap_append

theorem Streams.silent {config : Config} {trace events : List Event}
    {written ring : Bytes} {fills : List Fill}
    (streams : Streams config trace written ring fills)
    (silent : audioFrames events = []) :
    Streams config (trace ++ events) written ring fills := by
  obtain ⟨whole, frames, dumped⟩ := streams
  refine ⟨whole, ?_, dumped⟩
  rw [audioFrames_append, silent, List.append_nil, frames]

theorem Streams.write {config : Config} {trace : List Event}
    {written ring : Bytes} {fills : List Fill}
    (streams : Streams config trace written ring fills) (reads : List Bytes) :
    ∃ fills', Streams config trace (written ++ writtenBy config ring reads)
      (forkFrame config ring reads) fills' := by
  obtain ⟨whole, frames, dumped⟩ := streams
  obtain ⟨dumps, kept, overruns⟩ := forkFrame_fills config ring reads
  refine ⟨fills ++ dumps.map .dumped, ?_, ?_, ?_⟩
  · have audio : (dumps.map Fill.dumped).map Fill.audio = dumps := by
      rw [List.map_map]
      exact List.map_id _
    rw [whole, List.append_assoc, kept, List.map_append, audio,
      List.flatten_append, List.append_assoc]
  · have unsent : (dumps.map Fill.dumped).filterMap Fill.frame = [] := by
      rw [List.filterMap_map]
      simp [Function.comp_def, Fill.frame]
    rw [List.filterMap_append, unsent, List.append_nil, frames]
  · intro audio member
    rcases List.mem_append.mp member with before | now
    · exact dumped audio before
    · obtain ⟨lost, among, same⟩ := List.mem_map.mp now
      cases same
      exact overruns audio among

theorem Streams.send {config : Config} {trace events : List Event}
    {written ring : Bytes} {fills : List Fill}
    (streams : Streams config trace written ring fills)
    (sent : audioFrames events = [ring]) :
    Streams config (trace ++ events) written [] (fills ++ [.sent ring]) := by
  obtain ⟨whole, frames, dumped⟩ := streams
  refine ⟨?_, ?_, ?_⟩
  · simp [whole, Fill.audio]
  · rw [audioFrames_append, frames, sent, List.filterMap_append]
    rfl
  · intro audio member
    apply dumped audio
    simpa using member

/-- The steps of `fork_frame`. -/
def Code.frames : Code → Bool
  | .frameCheck _ | .frameLock _ | .frameRead _ | .frameQueue | .frameCancel
  | .frameUnlock => true
  | _ => false

/-- The steps between `lockAudioBuffer()` and the unlock. -/
def Code.holds : Code → Bool
  | .frameRead _ | .frameQueue | .frameCancel | .frameUnlock => true
  | _ => false

/-- The member function the service thread is inside. -/
def Service.code : Service → Option Code
  | .establishedClosing code | .establishedShutdown code
  | .establishedMetadata code => some code
  | _ => none

/-- One frame callback at a time works on the ring, and the lock shows it. -/
structure Exclusive (s : State) : Prop where
  service : ∀ code, s.service.code = some code → code.frames = false
  locked : ∀ thread call, s.calls thread = some call →
    call.code.holds = true → s.pipe.audioLocked = true
  alone : ∀ thread other call call', s.calls thread = some call →
    s.calls other = some call' → call.code.holds = true →
    call'.code.holds = true → thread = other

theorem exclusive_fresh : Exclusive .fresh := by
  constructor <;> intros <;> contradiction

/-- What a step of a member function other than `fork_frame` does to the
audio. -/
structure Unheard (pipe next : Pipe) (rest : Option Code)
    (events : List Event) : Prop where
  ring : next.ring = pipe.ring
  locked : next.audioLocked = pipe.audioLocked
  after : ∀ code, rest = some code → code.frames = false
  silent : audioFrames events = []

theorem CodeStep.unheard {config : Config} {pipe next : Pipe} {code : Code}
    {rest : Option Code} {events : List Event}
    (step : CodeStep config pipe code next rest events)
    (other : code.frames = false) : Unheard pipe next rest events := by
  cases step with
  | frame | frameDrops | frameLock | frameRead | frameQueue | frameQueueNothing
  | frameCancel | frameUnlock => cases other
  | _ => exact ⟨rfl, rfl, by simp [Code.frames], rfl⟩

/-- What a step of a member function does to the lock. -/
structure Locking (pipe next : Pipe) (code : Code) (rest : Option Code) :
    Prop where
  taken : ∀ code', rest = some code' → code'.holds = true →
    next.audioLocked = true ∧ (code.holds = true ∨ pipe.audioLocked = false)
  kept : code.holds = false → pipe.audioLocked = true →
    next.audioLocked = true

theorem CodeStep.locking {config : Config} {pipe next : Pipe} {code : Code}
    {rest : Option Code} {events : List Event}
    (step : CodeStep config pipe code next rest events)
    (locked : code.holds = true → pipe.audioLocked = true) :
    Locking pipe next code rest := by
  cases step with
  | frameLock free => exact ⟨by simp [Code.holds, free], fun _ _ => rfl⟩
  | frameRead | frameQueue | frameQueueNothing | frameCancel =>
      have held := locked rfl
      exact ⟨by simp [Code.holds, held], fun _ _ => held⟩
  | frameUnlock => exact ⟨nofun, nofun⟩
  | _ => exact ⟨by simp [Code.holds], fun _ held => held⟩

theorem Exclusive.still {s s' : State} (exclusive : Exclusive s)
    (calls : s'.calls = s.calls)
    (locked : s'.pipe.audioLocked = s.pipe.audioLocked)
    (service : ∀ code, s'.service.code = some code → code.frames = false) :
    Exclusive s' := by
  refine ⟨service, ?_, ?_⟩
  · rw [calls, locked]
    exact exclusive.locked
  · rw [calls]
    exact exclusive.alone

theorem Exclusive.advance {config : Config} {s : State} {thread : Nat}
    {call : Call} {pipe : Pipe} {rest : Option Code} {events : List Event}
    (exclusive : Exclusive s) (running : s.calls thread = some call)
    (step : CodeStep config s.pipe call.code pipe rest events) :
    Exclusive { s with
      pipe := pipe
      calls := Function.update s.calls thread
        (rest.map fun next => { call with code := next }) } := by
  obtain ⟨taken, kept⟩ := step.locking (exclusive.locked thread call running)
  have stands : ∀ other call', Function.update s.calls thread
      (rest.map fun next => { call with code := next }) other = some call' →
      (other = thread ∧ rest = some call'.code) ∨
        (other ≠ thread ∧ s.calls other = some call') := by
    intro other call' here
    rcases updated_entry here with ⟨same, now⟩ | ⟨different, before⟩
    · cases rest with
      | none => cases now
      | some next =>
          cases now
          exact .inl ⟨same, rfl⟩
    · exact .inr ⟨different, before⟩
  -- nobody else is at the ring when this call is or comes there
  have only : ∀ other call', other ≠ thread → s.calls other = some call' →
      call'.code.holds = true →
      call.code.holds = false ∧ s.pipe.audioLocked = true := by
    intro other call' different before holds
    refine ⟨?_, exclusive.locked other call' before holds⟩
    cases held : call.code.holds with
    | false => rfl
    | true =>
        have same := exclusive.alone other thread call' call before running
          holds held
        exact (different same).elim
  refine ⟨exclusive.service, ?_, ?_⟩
  · intro other call' here holds
    rcases stands other call' here with ⟨_, now⟩ | ⟨different, before⟩
    · exact (taken _ now holds).1
    · obtain ⟨away, locked⟩ := only other call' different before holds
      exact kept away locked
  · intro first second call' call'' here there holds holds'
    rcases stands first call' here with ⟨rfl, now⟩ | ⟨different, before⟩
    · rcases stands second call'' there with ⟨rfl, _⟩ | ⟨other, before'⟩
      · rfl
      · obtain ⟨away, locked⟩ := only second call'' other before' holds'
        rcases (taken _ now holds).2 with held | free
        · rw [held] at away
          cases away
        · rw [free] at locked
          cases locked
    · rcases stands second call'' there with ⟨rfl, now⟩ | ⟨_, before'⟩
      · obtain ⟨away, locked⟩ := only first call' different before holds
        rcases (taken _ now holds').2 with held | free
        · rw [held] at away
          cases away
        · rw [free] at locked
          cases locked
      · exact exclusive.alone first second call' call'' before before' holds
          holds'

theorem Exclusive.enter {s : State} {thread : Nat} {op : Op}
    (exclusive : Exclusive s) :
    Exclusive { s with
      calls := Function.update s.calls thread (some ⟨op, op.entry⟩) } := by
  have outside : op.entry.holds = false := by cases op <;> rfl
  have before : ∀ other call, Function.update s.calls thread
      (some ⟨op, op.entry⟩) other = some call → call.code.holds = true →
      s.calls other = some call := by
    intro other call here holds
    rcases updated_entry here with ⟨_, now⟩ | ⟨_, before⟩
    · cases now
      rw [outside] at holds
      cases holds
    · exact before
  refine ⟨exclusive.service, ?_, ?_⟩
  · intro other call here holds
    exact exclusive.locked other call (before other call here holds) holds
  · intro first second call call' here there holds holds'
    exact exclusive.alone first second call call'
      (before first call here holds) (before second call' there holds') holds
      holds'

/-- A step that leaves the ring alone and sends no audio. -/
structure Inaudible (s s' : State) (events : List Event) : Prop where
  exclusive : Exclusive s'
  ring : s'.pipe.ring = s.pipe.ring
  silent : audioFrames events = []

theorem stepConnect_inaudible {s s' : State} {ok : Bool} {events : List Event}
    (exclusive : Exclusive s) (step : stepConnect s ok = some (s', events)) :
    Inaudible s s' events := by
  obtain ⟨_, _, taken⟩ := stepConnect_cases step
  cases taken with
  | _ => exact ⟨exclusive.still rfl rfl exclusive.service, rfl, rfl⟩

theorem deliver_inaudible {s s' : State} {callback : Callback}
    {events : List Event} (exclusive : Exclusive s)
    (step : deliver s callback = some (s', events)) :
    Inaudible s s' events := by
  cases deliver_cases step with
  | established | connectionError | closed | writeable | eventWaitCancelled =>
      exact ⟨exclusive.still rfl rfl nofun, rfl, rfl⟩
  | receive | receiveStray => exact ⟨exclusive, rfl, rfl⟩
  | _ => exact ⟨exclusive.still rfl rfl exclusive.service, rfl, rfl⟩

theorem serveCode_inaudible {config : Config} {s : State} {code : Code}
    {pipe : Pipe} {rest : Option Code} {events : List Event}
    {service : Service} (exclusive : Exclusive s)
    (inside : s.service.code = some code)
    (result : stepCode config s.pipe code = some (pipe, rest, events))
    (next : service.code = none ∨ service.code = rest) :
    Inaudible s { s with pipe := pipe, service := service } events := by
  obtain ⟨ring, locked, after, silent⟩ :=
    (stepCode_cases result).unheard (exclusive.service code inside)
  refine ⟨exclusive.still rfl locked ?_, ring, silent⟩
  intro code' here
  rcases next with none | same
  · have here : service.code = some code' := here
    rw [none] at here
    cases here
  · exact after code' (same.symm.trans here)

theorem endWriteable_inaudible {s : State} {events : List Event}
    {pipe : Pipe} {outcome : Outcome} (exclusive : Exclusive s)
    (locked : pipe.audioLocked = s.pipe.audioLocked)
    (ring : pipe.ring = s.pipe.ring) (silent : audioFrames events = []) :
    Inaudible s (endWriteable s pipe events outcome).1
      (endWriteable s pipe events outcome).2 := by
  refine ⟨exclusive.still rfl ?_ nofun, ?_, ?_⟩
  · dsimp only [endWriteable]
    split <;> exact locked
  · dsimp only [endWriteable]
    split <;> exact ring
  · dsimp only [endWriteable]
    rw [audioFrames_append, silent]
    rfl

theorem serve_inaudible {config : Config} {s s' : State} {ok : Bool}
    {metadata : Option Bytes} {events : List Event} (exclusive : Exclusive s)
    (step : serve config s ok metadata = some (s', events))
    (other : s.service ≠ .writeableAudio) : Inaudible s s' events := by
  obtain ⟨_, service, taken⟩ := serve_cases step
  cases taken with
  | @closing code _ rest _ result | @shutdown code _ rest _ result
  | @metadata code _ rest _ result =>
      have inside : s.service.code = some code := by rw [service]; rfl
      refine serveCode_inaudible exclusive inside result ?_
      cases rest with
      | none => exact .inl rfl
      | some next => exact .inr rfl
  | flush | flushFails | sendText | sendTextFails | shuts =>
      exact endWriteable_inaudible exclusive rfl rfl rfl
  | drained | sendAudio | sendAudioFails => exact (other service).elim
  | @failSignal inPass | @failSignalAgain inPass =>
      refine ⟨exclusive.still rfl rfl ?_, rfl, rfl⟩
      cases inPass <;> nofun
  | _ => exact ⟨exclusive.still rfl rfl (by simp [Service.code, Code.frames]), rfl, rfl⟩

/-- What was written, sent and dumped, and who holds the lock. -/
structure Heard (config : Config) (trace : List Event)
    (recorded : State × Bytes) : Prop where
  exclusive : Exclusive recorded.1
  streams : ∃ fills,
    Streams config trace recorded.2 recorded.1.pipe.ring fills

theorem heard_fresh (config : Config) : Heard config [] (.fresh, []) :=
  ⟨exclusive_fresh, [], rfl, rfl, nofun⟩

theorem Heard.silent {config : Config} {trace events : List Event}
    {s s' : State} {written : Bytes} (heard : Heard config trace (s, written))
    (inaudible : Inaudible s s' events) :
    Heard config (trace ++ events) (s', written) := by
  obtain ⟨_, fills, streams⟩ := heard
  obtain ⟨exclusive, ring, silent⟩ := inaudible
  refine ⟨exclusive, fills, ?_⟩
  rw [ring]
  exact streams.silent silent

theorem Heard.advance {config : Config} {trace events : List Event}
    {s s' : State} {written : Bytes} {thread : Nat}
    (heard : Heard config trace (s, written))
    (step : stepCall config s thread = some (s', events)) :
    Heard config (trace ++ events)
      (s', noteWritten config s (.advance thread) written) := by
  obtain ⟨⟨op, code⟩, pipe, rest, emitted, running, result, rfl, rfl⟩ :=
    stepCall_cases step
  have taken := stepCode_cases result
  have exclusive := heard.exclusive.advance running taken
  obtain ⟨_, fills, streams⟩ := heard
  have returned : audioFrames (rest.elim [Event.returned op] fun _ => []) =
      [] := by
    cases rest <;> rfl
  simp only [noteWritten, running]
  cases taken with
  | @frameRead reads =>
      obtain ⟨fills', streams'⟩ := streams.write reads
      exact ⟨exclusive, fills', streams'.silent rfl⟩
  | bufferAppend | frameLock | frameQueue | frameQueueNothing | frameCancel
  | frameUnlock | frame | frameDrops =>
      exact ⟨exclusive, fills, streams.silent rfl⟩
  | _ => exact ⟨exclusive, fills, streams.silent returned⟩

theorem Heard.send {config : Config} {trace events : List Event}
    {s s' : State} {written : Bytes} {ok : Bool} {metadata : Option Bytes}
    (heard : Heard config trace (s, written))
    (here : s.service = .writeableAudio) (succeeds : ok = true)
    (step : serve config s ok metadata = some (s', events)) :
    Heard config (trace ++ events) (s', written) := by
  obtain ⟨exclusive, fills, streams⟩ := heard
  obtain ⟨service, stands, taken⟩ := serve_cases step
  rw [here] at stands
  subst stands
  cases taken with
  | drained =>
      exact ⟨exclusive.still rfl rfl nofun, fills, streams.silent rfl⟩
  | sendAudio _ audio =>
      refine ⟨exclusive.still rfl rfl nofun, _, streams.send ?_⟩
      simp [endWriteable, audioFrames, Event.audio, audio]
  | sendAudioFails _ _ failed =>
      rw [succeeds] at failed
      cases failed

theorem Heard.step {config : Config} {trace events : List Event}
    {state next : State × Bytes} {label : Act}
    (heard : Heard config trace state)
    (guarded : sendsAudio state label = true)
    (step : (recordedAudio config).step state label = some (next, events)) :
    Heard config (trace ++ events) next := by
  obtain ⟨s, written⟩ := state
  obtain ⟨s', written'⟩ := next
  obtain ⟨taken, noted⟩ := Machine.recording_step step
  simp only at taken noted
  subst noted
  cases label with
  | connect ok => exact heard.silent (stepConnect_inaudible heard.exclusive taken)
  | enter thread op =>
      simp only [machine, AudioFork.step] at taken
      split at taken
      · cases taken
        exact heard.silent ⟨heard.exclusive.enter, rfl, rfl⟩
      · cases taken
  | advance thread => exact heard.advance taken
  | deliver callback =>
      simp only [machine, AudioFork.step] at taken
      split at taken
      · exact heard.silent (deliver_inaudible heard.exclusive taken)
      · cases taken
  | serve ok metadata =>
      by_cases here : s.service = .writeableAudio
      · have succeeds : ok = true := by
          simpa only [sendsAudio, here] using guarded
        exact heard.send here succeeds taken
      · exact heard.silent (serve_inaudible heard.exclusive taken here)

/-- While writes succeed, the frames sent and the ring's content are all that
was ever written, in order, less the contents dumped at an overrun; and while
the lock is free no frame callback is at the ring. -/
theorem audio_in_order (config : Config) {labels : List Act}
    {trace : List Event} {finish : State × Bytes}
    (run : (recordedAudio config).Run sendsAudio (recordedAudio config).initial
      labels trace finish) :
    (∃ fills, Streams config trace finish.2 finish.1.pipe.ring fills) ∧
      (finish.1.pipe.audioLocked = false → ∀ thread call,
        finish.1.calls thread = some call → call.code.holds = false) := by
  have heard : Heard config trace finish :=
    run.induct (Heard config) (heard_fresh config) fun heard guarded step =>
      heard.step guarded step
  refine ⟨heard.streams, ?_⟩
  intro free thread call running
  cases holds : call.code.holds with
  | false => rfl
  | true =>
      have locked := heard.exclusive.locked thread call running holds
      rw [free] at locked
      cases locked

/-- A run in which `written`, `ring` and `frames` are what the media thread
wrote, what the ring has at the end and what was sent. -/
def Plays (config : Config) (labels : List Act) (written ring : Bytes)
    (frames : List Bytes) : Prop :=
  ∃ trace finish,
    (recordedAudio config).Run sendsAudio (recordedAudio config).initial labels
        trace finish ∧
      finish.2 = written ∧ finish.1.pipe.ring = ring ∧
      audioFrames trace = frames ∧
      ∃ fills, Streams config trace finish.2 finish.1.pipe.ring fills

/-- Two frame callbacks of an open pipe with a WRITEABLE between them. -/
def twoCallbacks (first second : List Bytes) : List Act :=
  startHandshake ++ [Act.deliver .established] ++ serves 4 ++
    [Act.enter 1 (.forkFrame first)] ++ List.replicate 6 (Act.advance 1) ++
    [Act.deliver .writeable] ++ serves 4 ++
    [Act.enter 2 (.forkFrame second)] ++ List.replicate 6 (Act.advance 2)

/-- Without a resampler a ring of four bytes that wants two free: three bytes
are dumped before the next read, whose bytes are sent, and two more are left.
With one a ring of six: the second output leaves one byte free, so the third
is not taken, and the next callback goes on behind what was sent. -/
theorem audio_in_order_of_overrun :
    Plays ⟨4, 2, 1, false⟩ (twoCallbacks [[1, 2, 3], [4, 5]] [[6, 7]])
        [1, 2, 3, 4, 5, 6, 7] [6, 7] [[4, 5]] ∧
      Plays ⟨6, 2, 1, true⟩
        (twoCallbacks [[1, 2], [3, 4, 5], [0]] [[6], [7]])
        [1, 2, 3, 4, 5, 6, 7] [6, 7] [[1, 2, 3, 4, 5]] := by
  have native : ((recordedAudio ⟨4, 2, 1, false⟩).exec sendsAudio
      (recordedAudio ⟨4, 2, 1, false⟩).initial
      (twoCallbacks [[1, 2, 3], [4, 5]] [[6, 7]])).map (fun outcome =>
        decide (outcome.1.2 = [1, 2, 3, 4, 5, 6, 7] ∧
          outcome.1.1.pipe.ring = [6, 7] ∧
          audioFrames outcome.2 = [[4, 5]])) = some true := by
    decide
  have resampled : ((recordedAudio ⟨6, 2, 1, true⟩).exec sendsAudio
      (recordedAudio ⟨6, 2, 1, true⟩).initial
      (twoCallbacks [[1, 2], [3, 4, 5], [0]] [[6], [7]])).map (fun outcome =>
        decide (outcome.1.2 = [1, 2, 3, 4, 5, 6, 7] ∧
          outcome.1.1.pipe.ring = [6, 7] ∧
          audioFrames outcome.2 = [[1, 2, 3, 4, 5]])) = some true := by
    decide
  constructor
  · obtain ⟨finish, trace, run, observed⟩ := Machine.exists_run_of_exec _ native
    obtain ⟨written, ring, frames⟩ := of_decide_eq_true observed
    exact ⟨trace, finish, run, written, ring, frames,
      (audio_in_order _ run).1⟩
  · obtain ⟨finish, trace, run, observed⟩ :=
      Machine.exists_run_of_exec _ resampled
    obtain ⟨written, ring, frames⟩ := of_decide_eq_true observed
    exact ⟨trace, finish, run, written, ring, frames,
      (audio_in_order _ run).1⟩

end DrachtioModules.AudioFork

import DrachtioModules.Aws.HandOver
import DrachtioModules.Aws.Outstanding
import Mathlib.Data.List.Flatten

/-!
# The flush on stop

Once `m_finishing` is set and the stream is there, the worker takes the deque a
last time, writes what it took, the empty event that ends the stream, flushes
and closes.  OnStreamReady publishes the stream before it drains the pre-connect
buffer, so that last take can come before the drain; what the buffer holds then
is lost.

What `write()` accepted before `finish()`, less what the limits of the two
buffers discard, is kept as a history variable.
-/

namespace DrachtioModules.Aws

open Transcribe (Bytes SimpleBuffer Prebuffered keptBytes)

variable {τ : Type}

/-- What reaches the stream. -/
inductive Wire where
  | audio (bits : Bytes)
  | endOfStream
  | flush
  | close
  deriving DecidableEq, Repr

def Event.wire : Event τ → Option Wire
  | .wrote bits => some (.audio bits)
  | .endOfStream => some .endOfStream
  | .flushed => some .flush
  | .closed => some .close
  | _ => none

def wire (trace : List (Event τ)) : List Wire :=
  trace.filterMap Event.wire

@[simp] theorem wire_append (trace events : List (Event τ)) :
    wire (trace ++ events) = wire trace ++ wire events :=
  List.filterMap_append

/-- What ends the stream, in order. -/
def epilogue : List Wire := [.endOfStream, .flush, .close]

/-- The step of `write()` that accepts a frame before `finish()`: the oldest
whole chunks beyond the 15 of the pre-connect buffer are discarded, or the
oldest of the frames waiting in the deque. -/
def keep (config : Config) (s : State τ) (label : Act τ) (kept : Bytes) :
    Bytes :=
  match label, s.media with
  | .media, .staging data =>
      if s.finishing || s.streamReady.holds || s.connected then kept
      else keptBytes config.prebufChunkSize 15 (kept ++ data)
  | .media, .pushing data =>
      if s.finishing || s.worker.holds then kept
      else
        kept.take (kept.length - s.deqAudio.flatten.length) ++
          (s.deqAudio.rtake (config.maxBufferedFrames - 1)).flatten ++ data
  | _, _ => kept

/-- The machine with the bytes kept as a history variable. -/
def recorded (τ : Type) (config : Config) :
    Machine (State τ × Bytes) (Act τ) (Event τ) :=
  (machine τ config).recording [] (keep config)

/-- OnStreamReady has published the stream. -/
def StreamReady.stored : StreamReady → Bool
  | .notCalled | .called _ => false
  | _ => true

/-- The worker has closed the stream and forgotten it. -/
def cleared (s : State τ) : Bool := s.streamReady.stored && !s.stream

/-- The callers hold `cb->mutex` around `finish()`, so that no `write()` is under
way, and connect before it; the session is there when the stream becomes ready,
and the request ends only once the stream is closed. -/
def staysAlive (s : State τ) : Act τ → Bool
  | .connect => !s.finishing
  | .finish => decide (s.media = .idle)
  | .onStreamReady located => located
  | .onResponse =>
      (match s.worker with
        | .clearing => true
        | _ => false) || cleared s
  | _ => true

/-- The worker takes the deque for the last time. -/
def takesLast (s : State τ) : Act τ → Bool
  | .worker =>
      (match s.worker with
        | .serving => true
        | _ => false) && s.finishing && s.stream
  | _ => false

/-- The last take finds the pre-connect buffer empty. -/
def takesAll (s : State τ) (label : Act τ) : Bool :=
  staysAlive s label && (!takesLast s label ||
    decide (s.audioBuffer.numItems = 0) && s.prebufStaging.isEmpty)

/-- The cap of the deque in the terms of the queue. -/
theorem dropOldest_eq_rtake (bound : Nat) (frames : List Bytes) :
    dropOldest bound frames = frames.rtake (bound - 1) := by
  induction frames with
  | nil => simp [dropOldest, List.rtake]
  | cons frame rest ih =>
      rw [dropOldest]
      split
      · rename_i full
        rw [ih]
        unfold List.rtake
        rw [List.length_cons,
          show rest.length + 1 - (bound - 1) = rest.length - (bound - 1) + 1 by
            omega, List.drop_succ_cons]
      · rename_i room
        rw [rtake_of_length_le]
        rw [List.length_cons]
        omega

def Worker.inHand : Worker τ → List Bytes
  | .writing remaining | .draining remaining => remaining
  | _ => []

/-- The worker is past its last take. -/
def Worker.final : Worker τ → Bool
  | .draining _ | .flushing | .closing | .clearing => true
  | _ => false

/-- How much of the epilogue is on the wire. -/
def closing (s : State τ) : List Wire :=
  match s.worker with
  | .flushing => [.endOfStream]
  | .closing => [.endOfStream, .flush]
  | .clearing => epilogue
  | _ => if cleared s then epilogue else []

/-- The drain has begun. -/
def StreamReady.drains : StreamReady → Bool
  | .notCalled | .called _ | .locking => false
  | _ => true

/-- The pre-connect buffer holds all that is kept. -/
def Filling (config : Config) (s : State τ) (kept : Bytes) : Prop :=
  s.connected = false ∧ ∃ accepted,
    Prebuffered config.prebufChunkSize 15 accepted s.audioBuffer
      s.prebufStaging ∧
    kept = keptBytes config.prebufChunkSize 15 accepted

/-- Every byte kept is on the wire, in the worker's hands, in the deque or in
the pre-connect buffer, in this order. -/
structure Conserved (config : Config) (trace : List (Event τ)) (s : State τ)
    (kept : Bytes) : Prop where
  bytes : ∃ writes : List Bytes, wire trace = writes.map .audio ++ closing s ∧
    kept = writes.flatten ++ s.worker.inHand.flatten ++ s.deqAudio.flatten ++
      heldBytes s
  sublist : kept.Sublist (acceptedBytes trace)
  formed : s.audioBuffer.WellFormed
  located : s.streamReady ≠ .called false
  filling : s.streamReady.drains = false → Filling config s kept
  drained : s.streamReady.drains = true → drainedTo s
  staged : s.connected = false → ∀ data, s.media ≠ .pushing data
  idle : s.finishing = true → s.media = .idle
  stored : s.stream = true → s.streamReady.stored = true
  opened : s.worker.final = true → s.stream = true
  finished : s.worker.final = true ∨ cleared s = true →
    s.finishing = true ∧ s.deqAudio = [] ∧ heldBytes s = []
  spent : cleared s = true → s.worker.inHand = []

variable {config : Config} {trace : List (Event τ)} {s : State τ}
variable {kept : Bytes}

theorem heldBytes_fresh : heldBytes (.fresh τ config) = [] := by
  simp [heldBytes, State.fresh, SimpleBuffer.chunks, SimpleBuffer.create]

theorem conserved_fresh : Conserved config [] (.fresh τ config) [] := by
  have held : Prebuffered config.prebufChunkSize 15 [] _ [] :=
    Transcribe.prebuffered_create (by decide)
  constructor
  · refine ⟨[], rfl, ?_⟩
    rw [heldBytes_fresh]
    rfl
  · exact List.Sublist.refl _
  · exact held.sound.formed
  · simp [State.fresh]
  · exact fun _ => ⟨rfl, [], held, by simp [keptBytes]⟩
  · simp [State.fresh, StreamReady.drains]
  · simp [State.fresh]
  · simp [State.fresh]
  · simp [State.fresh]
  · simp [State.fresh, Worker.final]
  · simp [State.fresh, Worker.final, cleared, StreamReady.stored]
  · simp [State.fresh, Worker.inHand]

/-- Nothing the bytes depend on changes. -/
structure Resting (s s' : State τ) (events : List (Event τ)) : Prop where
  audioBuffer : s'.audioBuffer = s.audioBuffer
  prebufStaging : s'.prebufStaging = s.prebufStaging
  connected : s'.connected = s.connected
  deqAudio : s'.deqAudio = s.deqAudio
  stream : s'.stream = s.stream
  streamReady : s'.streamReady = s.streamReady
  finishing : s.finishing = true → s'.finishing = true
  staged : ∀ data, s'.media = .pushing data → s.media = .pushing data
  inHand : s'.worker.inHand = s.worker.inHand
  final : s'.worker.final = s.worker.final
  closing : closing s' = closing s
  wire : wire events = []
  accepted : acceptedBytes events = []

theorem Resting.held {s s' : State τ} {events : List (Event τ)}
    (same : Resting s s' events) : heldBytes s' = heldBytes s := by
  unfold heldBytes
  rw [same.audioBuffer, same.prebufStaging]

theorem Conserved.rest (holds : Conserved config trace s kept) {s' : State τ}
    {events : List (Event τ)} (same : Resting s s' events)
    (idle : s'.finishing = true → s'.media = .idle) :
    Conserved config (trace ++ events) s' kept := by
  have held := same.held
  have gone : cleared s' = cleared s := by
    unfold cleared
    rw [same.streamReady, same.stream]
  constructor
  · obtain ⟨writes, shape, content⟩ := holds.bytes
    refine ⟨writes, ?_, ?_⟩
    · rw [wire_append, same.wire, shape, same.closing, List.append_nil]
    · rw [content, same.inHand, same.deqAudio, held]
  · rw [acceptedBytes_append, same.accepted, List.append_nil]
    exact holds.sublist
  · rw [same.audioBuffer]
    exact holds.formed
  · rw [same.streamReady]
    exact holds.located
  · unfold Filling
    rw [same.streamReady, same.connected, same.audioBuffer, same.prebufStaging]
    exact holds.filling
  · unfold drainedTo
    rw [same.streamReady, same.connected, same.audioBuffer, same.prebufStaging]
    exact holds.drained
  · intro unconnected data pushing
    rw [same.connected] at unconnected
    exact holds.staged unconnected data (same.staged data pushing)
  · exact idle
  · rw [same.stream, same.streamReady]
    exact holds.stored
  · rw [same.final, same.stream]
    exact holds.opened
  · rw [same.final, gone, same.deqAudio, held]
    intro ended
    obtain ⟨finishing, empty⟩ := holds.finished ended
    exact ⟨same.finishing finishing, empty⟩
  · rw [gone, same.inHand]
    exact holds.spent

theorem closing_of_unfinal (unfinal : s.worker.final = false) :
    closing s = if cleared s then epilogue else [] := by
  unfold closing
  cases stage : s.worker with
  | flushing | closing | clearing => simp [stage, Worker.final] at unfinal
  | _ => rfl

/-- The worker goes on without taking, writing or closing anything. -/
theorem resting_move (s : State τ) (transcript : Option τ)
    (shutdownInitiated requestAborted : Bool) {worker : Worker τ}
    {events : List (Event τ)}
    (was : s.worker.final = false) (now : worker.final = false)
    (inHand : worker.inHand = s.worker.inHand)
    (silent : wire events = [] ∧ acceptedBytes events = []) :
    Resting s { s with
      transcript := transcript
      shutdownInitiated := shutdownInitiated
      requestAborted := requestAborted
      worker := worker } events := by
  constructor
  case closing => rw [closing_of_unfinal was, closing_of_unfinal now]; rfl
  case final => exact now.trans was.symm
  case inHand => exact inHand
  case wire => exact silent.1
  case accepted => exact silent.2
  case finishing => exact id
  case staged => exact fun _ => id
  all_goals rfl

theorem Conserved.takeAudio (holds : Conserved config trace s kept)
    (here : s.worker = .serving) (running : s.finishing = false) :
    Conserved config (trace ++ [])
      { s with deqAudio := [], worker := .writing s.deqAudio } kept := by
  rw [List.append_nil]
  have unfinal : s.worker.final = false := by rw [here]; rfl
  have uncleared : cleared s ≠ true := by
    intro gone
    have finishing := (holds.finished (.inr gone)).1
    rw [running] at finishing
    cases finishing
  obtain ⟨writes, shape, content⟩ := holds.bytes
  refine ⟨⟨writes, ?_, ?_⟩, holds.sublist, holds.formed, holds.located,
    holds.filling, holds.drained, holds.staged, holds.idle, holds.stored,
    by simp [Worker.final], ?_, ?_⟩
  · rw [shape, closing_of_unfinal unfinal, closing_of_unfinal rfl]
    rfl
  · rw [content, here]
    show writes.flatten ++ [].flatten ++ s.deqAudio.flatten ++ heldBytes s =
      writes.flatten ++ s.deqAudio.flatten ++ [].flatten ++ heldBytes s
    simp
  · rintro (final | gone)
    · cases final
    · exact (uncleared gone).elim
  · exact fun gone => (uncleared gone).elim

theorem Conserved.takeLast (holds : Conserved config trace s kept)
    (here : s.worker = .serving) (finishing : s.finishing = true)
    (ready : s.stream = true) (empty : heldBytes s = []) :
    Conserved config (trace ++ [])
      { s with
        shutdownInitiated := true
        deqAudio := []
        worker := .draining s.deqAudio } kept := by
  rw [List.append_nil]
  have unfinal : s.worker.final = false := by rw [here]; rfl
  have uncleared : cleared s = false := by simp [cleared, ready]
  obtain ⟨writes, shape, content⟩ := holds.bytes
  refine ⟨⟨writes, ?_, ?_⟩, holds.sublist, holds.formed, holds.located,
    holds.filling, holds.drained, holds.staged, holds.idle, holds.stored,
    fun _ => ready,
    fun _ => ⟨finishing, rfl, empty⟩, ?_⟩
  · rw [shape, closing_of_unfinal unfinal]
    rfl
  · rw [content, here]
    show writes.flatten ++ [].flatten ++ s.deqAudio.flatten ++ heldBytes s =
      writes.flatten ++ s.deqAudio.flatten ++ [].flatten ++ heldBytes s
    simp
  · intro gone
    rw [show cleared s = true from gone] at uncleared
    cases uncleared

theorem Conserved.write (holds : Conserved config trace s kept) {bits : Bytes}
    {rest : List Bytes} {worker : Worker τ}
    (taken : s.worker.inHand = bits :: rest) (left : worker.inHand = rest)
    (final : worker.final = s.worker.final)
    (unended : closing s = if cleared s then epilogue else [])
    (unended' : closing { s with worker := worker } =
      if cleared s then epilogue else []) :
    Conserved config (trace ++ [.wrote bits]) { s with worker := worker }
      kept := by
  have uncleared : cleared s ≠ true := by
    intro gone
    rw [holds.spent gone] at taken
    cases taken
  rw [if_neg uncleared] at unended unended'
  obtain ⟨writes, shape, content⟩ := holds.bytes
  refine ⟨⟨writes ++ [bits], ?_, ?_⟩, ?_, holds.formed, holds.located,
    holds.filling, holds.drained, holds.staged, holds.idle, holds.stored,
    ?_, ?_, ?_⟩
  · rw [wire_append, shape, unended, unended', List.append_nil,
      List.append_nil, List.map_append]
    rfl
  · rw [content, taken, left]
    show _ = _ ++ _ ++ s.deqAudio.flatten ++ heldBytes s
    simp
  · rw [acceptedBytes_append]
    simpa [acceptedBytes, Event.acceptedBytes] using holds.sublist
  · rw [final]
    exact holds.opened
  · rw [final]
    exact holds.finished
  · exact fun gone => (uncleared gone).elim

theorem Conserved.conclude (holds : Conserved config trace s kept)
    {worker : Worker τ} {event : Event τ} {word : Wire}
    (here : s.worker.final = true ∧ s.worker.inHand = [])
    (now : worker.final = true ∧ worker.inHand = [])
    (seen : event.wire = some word) (silent : acceptedBytes [event] = [])
    (next : closing { s with worker := worker } = closing s ++ [word]) :
    Conserved config (trace ++ [event]) { s with worker := worker } kept := by
  have ready := holds.opened here.1
  obtain ⟨writes, shape, content⟩ := holds.bytes
  refine ⟨⟨writes, ?_, ?_⟩, ?_, holds.formed, holds.located, holds.filling,
    holds.drained, holds.staged, holds.idle, holds.stored, fun _ => ready,
    fun _ => holds.finished (.inl here.1),
    fun _ => now.2⟩
  · rw [wire_append, shape, next, List.append_assoc]
    simp [wire, seen]
  · rw [content, here.2, now.2]
    rfl
  · rw [acceptedBytes_append, silent, List.append_nil]
    exact holds.sublist

theorem Conserved.clear (holds : Conserved config trace s kept)
    (here : s.worker = .clearing) :
    Conserved config (trace ++ []) { s with stream := false, worker := .waiting }
      kept := by
  rw [List.append_nil]
  have final : s.worker.final = true := by rw [here]; rfl
  have stored := holds.stored (holds.opened final)
  have gone : cleared { s with stream := false, worker := .waiting } = true := by
    simp [cleared, stored]
  obtain ⟨writes, shape, content⟩ := holds.bytes
  refine ⟨⟨writes, ?_, ?_⟩, holds.sublist, holds.formed, holds.located,
    holds.filling, holds.drained, holds.staged, holds.idle, by simp,
    by simp [Worker.final],
    fun _ => holds.finished (.inl final), fun _ => rfl⟩
  · have ended : closing { s with stream := false, worker := .waiting } =
        closing s := by
      unfold closing
      rw [here]
      exact if_pos gone
    rw [ended]
    exact shape
  · rw [content, here]
    rfl

theorem Conserved.worker (holds : Conserved config trace s kept)
    (allowed : takesAll s .worker = true) {s' : State τ}
    {events : List (Event τ)} (step : stepWorker s = some (s', events)) :
    Conserved config (trace ++ events) s' kept := by
  obtain ⟨stage, here, st⟩ := stepWorker_cases step
  have uncleared : s.worker.final = true → cleared s = false := by
    intro final
    simp [cleared, holds.opened final]
  cases st with
  | wake | resume | takeFinal | finish | abandon | take | serve | deliver
  | relockFinal | relock | initiate | takeNothing | written =>
      exact holds.rest (resting_move s _ _ _ (by rw [here]; rfl) rfl
        (by rw [here]; rfl) ⟨rfl, rfl⟩) holds.idle
  | takeAudio running ready => exact holds.takeAudio here running
  | takeLast finishing ready =>
      have empty : s.audioBuffer.numItems = 0 ∧ s.prebufStaging = [] := by
        simpa [takesAll, takesLast, staysAlive, here, finishing, ready] using
          allowed
      apply holds.takeLast here finishing ready
      rw [heldBytes, SimpleBuffer.chunks_nil_iff.mpr empty.1, empty.2]
      rfl
  | write =>
      have unfinal : s.worker.final = false := by rw [here]; rfl
      apply holds.write (by rw [here]; rfl) rfl (by rw [here]; rfl)
        (closing_of_unfinal unfinal)
      rfl
  | drain =>
      apply holds.write (by rw [here]; rfl) rfl (by rw [here]; rfl)
      · unfold closing
        rw [here]
      · rfl
  | endStream =>
      have none := uncleared (by rw [here]; rfl)
      refine holds.conclude (by rw [here]; exact ⟨rfl, rfl⟩) ⟨rfl, rfl⟩ rfl rfl
        ?_
      simp [closing, here, none]
  | flush =>
      refine holds.conclude (by rw [here]; exact ⟨rfl, rfl⟩) ⟨rfl, rfl⟩ rfl rfl
        ?_
      simp [closing, here]
  | close =>
      refine holds.conclude (by rw [here]; exact ⟨rfl, rfl⟩) ⟨rfl, rfl⟩ rfl rfl
        ?_
      simp [closing, here, epilogue]
  | clear => exact holds.clear here

theorem Conserved.entered (holds : Conserved config trace s kept)
    {media : Media} (running : s.finishing = false)
    (staged : s.connected = false → ∀ data, media ≠ .pushing data) :
    Conserved config (trace ++ []) { s with media := media } kept := by
  rw [List.append_nil]
  refine ⟨holds.bytes, holds.sublist, holds.formed, holds.located,
    holds.filling, holds.drained, staged, ?_, holds.stored, holds.opened, holds.finished, holds.spent⟩
  intro finishing
  rw [running] at finishing
  cases finishing

theorem Conserved.running (holds : Conserved config trace s kept)
    (busy : s.media ≠ .idle) : s.finishing = false := by
  cases finishing : s.finishing with
  | false => rfl
  | true => exact (busy (holds.idle finishing)).elim

/-- While nothing is published or drained the buffer holds all that is kept. -/
theorem Conserved.buffering (holds : Conserved config trace s kept)
    (unconnected : s.connected = false) (free : s.streamReady.holds = false) :
    ∃ accepted, Prebuffered config.prebufChunkSize 15 accepted s.audioBuffer
        s.prebufStaging ∧
      kept = keptBytes config.prebufChunkSize 15 accepted := by
  cases drains : s.streamReady.drains with
  | false => exact (holds.filling drains).2
  | true =>
      rw [(holds.drained drains).locked unconnected] at free
      cases free

/-- Once `m_connected` is set the buffer is empty. -/
theorem Conserved.emptied (holds : Conserved config trace s kept)
    (connected : s.connected = true) : heldBytes s = [] := by
  cases drains : s.streamReady.drains with
  | false =>
      have unconnected := (holds.filling drains).1
      rw [connected] at unconnected
      cases unconnected
  | true =>
      obtain ⟨items, staging⟩ := (holds.drained drains).empty connected
      rw [heldBytes, SimpleBuffer.chunks_nil_iff.mpr items, staging]
      rfl

theorem Conserved.staging (holds : Conserved config trace s kept)
    {data : Bytes} (media : s.media = .staging data)
    (free : s.streamReady.holds = false) (unconnected : s.connected = false) :
    Conserved config (trace ++ [.accepted data])
      { Aws.stage config s data with media := .idle }
      (keep config s .media kept) := by
  have running := holds.running (by simp [media])
  have now : keep config s .media kept =
      keptBytes config.prebufChunkSize 15 (kept ++ data) := by
    simp [keep, media, running, free, unconnected]
  obtain ⟨accepted, held, all⟩ := holds.buffering unconnected free
  have held' : Prebuffered config.prebufChunkSize 15 (accepted ++ data)
      (Aws.stage config s data).audioBuffer
      (Aws.stage config s data).prebufStaging := by
    dsimp only [Aws.stage]
    split
    · rename_i completes
      exact held.stage rfl completes
    · rename_i short
      exact held.gather (by simpa only [ne_eq, not_not] using short)
  have all' : keptBytes config.prebufChunkSize 15 (kept ++ data) =
      keptBytes config.prebufChunkSize 15 (accepted ++ data) := by
    rw [all]
    exact Transcribe.keptBytes_append ..
  have within := held'.content
  rw [← all'] at within
  obtain ⟨writes, shape, content⟩ := holds.bytes
  have gone : writes.flatten ++ s.worker.inHand.flatten ++
      s.deqAudio.flatten = [] := by
    have same : heldBytes s = kept := held.content.trans all.symm
    rw [same] at content
    exact List.append_left_eq_self.mp content.symm
  have early : s.streamReady.drains ≠ true := by
    intro drains
    rw [(holds.drained drains).locked unconnected] at free
    cases free
  have unended : ¬ (s.worker.final = true ∨ cleared s = true) := by
    intro ended
    rw [(holds.finished ended).1] at running
    cases running
  rw [now, stage_same]
  refine ⟨⟨writes, ?_, ?_⟩, ?_, held'.sound.formed, holds.located,
    fun _ => ⟨unconnected, _, held', all'⟩, fun drains => (early drains).elim,
    by simp, fun _ => rfl, holds.stored, holds.opened, fun ended => (unended ended).elim,
    holds.spent⟩
  · rw [wire_append, shape]
    exact List.append_nil _
  · rw [heldBytes, within]
    show _ = writes.flatten ++ s.worker.inHand.flatten ++ s.deqAudio.flatten ++ _
    rw [gone, List.nil_append]
  · rw [acceptedBytes_append]
    apply (List.drop_sublist _ _).trans
    apply holds.sublist.append
    simp [acceptedBytes, Event.acceptedBytes]

theorem Conserved.pushing (holds : Conserved config trace s kept)
    {data : Bytes} (media : s.media = .pushing data)
    (free : s.worker.holds = false) :
    Conserved config (trace ++ [.accepted data, .enqueued data])
      { s with
        deqAudio := dropOldest config.maxBufferedFrames s.deqAudio ++ [data]
        media := .idle }
      (keep config s .media kept) := by
  have running := holds.running (by simp [media])
  have connected : s.connected = true := by
    cases unconnected : s.connected with
    | false => exact (holds.staged unconnected _ media).elim
    | true => rfl
  have empty := holds.emptied connected
  have unended : ¬ (s.worker.final = true ∨ cleared s = true) := by
    intro ended
    rw [(holds.finished ended).1] at running
    cases running
  obtain ⟨writes, shape, content⟩ := holds.bytes
  rw [empty, List.append_nil] at content
  have before : kept.take (kept.length - s.deqAudio.flatten.length) =
      writes.flatten ++ s.worker.inHand.flatten := by
    rw [content, List.length_append, Nat.add_sub_cancel, List.take_left]
  have now : keep config s .media kept =
      writes.flatten ++ s.worker.inHand.flatten ++
        (s.deqAudio.rtake (config.maxBufferedFrames - 1)).flatten ++ data := by
    simp only [keep, media, running, free, Bool.or_self, Bool.false_eq_true,
      if_false, before]
  rw [now]
  have late : s.streamReady.drains ≠ false := by
    intro early
    rw [(holds.filling early).1] at connected
    cases connected
  refine ⟨⟨writes, ?_, ?_⟩, ?_, holds.formed, holds.located,
    fun early => (late early).elim, holds.drained, by simp, fun _ => rfl,
    holds.stored, holds.opened, fun ended => (unended ended).elim, holds.spent⟩
  · rw [wire_append, shape]
    exact List.append_nil _
  · rw [dropOldest_eq_rtake]
    show _ = writes.flatten ++ s.worker.inHand.flatten ++ _ ++ heldBytes s
    rw [empty]
    simp
  · rw [acceptedBytes_append]
    have newest : (s.deqAudio.rtake
        (config.maxBufferedFrames - 1)).flatten.Sublist s.deqAudio.flatten :=
      List.Sublist.flatten (List.drop_sublist _ _)
    have older := (List.Sublist.refl
      (writes.flatten ++ s.worker.inHand.flatten)).append newest
    rw [← content] at older
    simpa [acceptedBytes, Event.acceptedBytes] using
      (older.trans holds.sublist).append_right data
theorem Conserved.media (holds : Conserved config trace s kept) {s' : State τ}
    {events : List (Event τ)} (step : stepMedia config s = some (s', events)) :
    Conserved config (trace ++ events) s' (keep config s .media kept) := by
  obtain ⟨stage, media, st⟩ := stepMedia_cases step
  have running : s.finishing = false := by
    apply holds.running
    rw [media]
    cases st <;> simp
  cases st with
  | direct connected =>
      rw [show keep config s .media kept = kept by simp [keep, media]]
      exact holds.entered running (by simp [connected])
  | late free connected =>
      rw [show keep config s .media kept = kept by simp [keep, media, connected]]
      exact holds.entered running (by simp [connected])
  | stages unconnected =>
      rw [show keep config s .media kept = kept by simp [keep, media]]
      exact holds.entered running (by simp)
  | stage free unconnected => exact holds.staging media free unconnected
  | push free => exact holds.pushing media free

/-- OnStreamReady goes on; what it moves from the pre-connect buffer to the deque
changes places only. -/
theorem Conserved.drain (holds : Conserved config trace s kept)
    {audioBuffer : SimpleBuffer} {prebufStaging : Bytes}
    {deqAudio : List Bytes} {connected : Bool} {streamReady : StreamReady}
    {events : List (Event τ)}
    (formed : audioBuffer.WellFormed)
    (bytes : deqAudio.flatten ++ (audioBuffer.chunks.flatten ++ prebufStaging) =
      s.deqAudio.flatten ++ heldBytes s)
    (begun : streamReady.drains = true)
    (stored : s.streamReady.stored = true)
    (drained : drainedTo { s with
      audioBuffer := audioBuffer
      prebufStaging := prebufStaging
      connected := connected
      streamReady := streamReady })
    (staged : connected = false → s.connected = false)
    (finished : s.deqAudio = [] ∧ heldBytes s = [] →
      deqAudio = [] ∧ audioBuffer.chunks.flatten ++ prebufStaging = [])
    (silent : wire events = [] ∧ acceptedBytes events = []) :
    Conserved config (trace ++ events)
      { s with
        audioBuffer := audioBuffer
        prebufStaging := prebufStaging
        deqAudio := deqAudio
        connected := connected
        streamReady := streamReady } kept := by
  have still : streamReady.stored = true := by
    cases streamReady <;> simp_all [StreamReady.drains, StreamReady.stored]
  have gone : cleared { s with
      audioBuffer := audioBuffer
      prebufStaging := prebufStaging
      deqAudio := deqAudio
      connected := connected
      streamReady := streamReady } = cleared s := by
    unfold cleared
    rw [still, stored]
  obtain ⟨writes, shape, content⟩ := holds.bytes
  refine ⟨⟨writes, ?_, ?_⟩, ?_, formed, ?_, ?_, fun _ => drained, ?_, holds.idle,
    fun _ => still, holds.opened, ?_, ?_⟩
  · rw [wire_append, silent.1, shape, List.append_nil]
    congr 1
    unfold closing
    rw [gone]
  · rw [content, List.append_assoc, List.append_assoc, ← bytes]
    simp [heldBytes]
  · rw [acceptedBytes_append, silent.2, List.append_nil]
    exact holds.sublist
  · intro late
    rw [show streamReady = .called false from late] at begun
    cases begun
  · intro early
    rw [show streamReady.drains = false from early] at begun
    cases begun
  · exact fun unconnected => holds.staged (staged unconnected)
  · rw [gone]
    intro ended
    obtain ⟨finishing, empty⟩ := holds.finished ended
    exact ⟨finishing, finished empty⟩
  · rw [gone]
    exact holds.spent

theorem Conserved.store (holds : Conserved config trace s kept)
    (called : s.streamReady = .called true) :
    Conserved config (trace ++ [])
      { s with stream := true, streamReady := .locking } kept := by
  rw [List.append_nil]
  have unstored : s.stream ≠ true := by
    intro ready
    have stored := holds.stored ready
    rw [called] at stored
    cases stored
  have before : cleared s = false := by simp [cleared, called, StreamReady.stored]
  obtain ⟨writes, shape, content⟩ := holds.bytes
  refine ⟨⟨writes, ?_, content⟩, holds.sublist, holds.formed, by simp,
    fun _ => holds.filling (by rw [called]; rfl), by simp [StreamReady.drains],
    holds.staged, holds.idle, fun _ => rfl, fun _ => rfl, ?_, ?_⟩
  · rw [shape]
    congr 1
    unfold closing
    rw [before]
    rfl
  · rintro (final | after)
    · exact (unstored (holds.opened final)).elim
    · cases after
  · intro after
    cases after

theorem Conserved.streamReady (holds : Conserved config trace s kept)
    {s' : State τ} {events : List (Event τ)}
    (step : stepStreamReady s = some (s', events)) :
    Conserved config (trace ++ events) s' kept := by
  obtain ⟨stage, called, st⟩ := stepStreamReady_cases step
  have progress : s.streamReady.drains = true → drainedTo s := holds.drained
  unfold drainedTo at progress
  rw [called] at progress
  cases st with
  | @store located =>
      cases located with
      | false => exact (holds.located called).elim
      | true => exact holds.store called
  | drain items =>
      exact holds.drain holds.formed rfl rfl (by rw [called]; rfl)
        (holds.filling (by rw [called]; rfl)).1 id id ⟨rfl, rfl⟩
  | skip empty =>
      exact holds.drain holds.formed rfl rfl (by rw [called]; rfl)
        ⟨(holds.filling (by rw [called]; rfl)).1, empty⟩ id id ⟨rfl, rfl⟩
  | drained empty =>
      obtain ⟨unused, _⟩ := SimpleBuffer.getNextChunk_none empty
      exact holds.drain holds.formed rfl rfl (by rw [called]; rfl)
        ⟨progress rfl, unused⟩ id id ⟨rfl, rfl⟩
  | @push offset audioBuffer chunk free =>
      have content := SimpleBuffer.chunks_getNextChunk holds.formed chunk
      have formed := SimpleBuffer.wellFormed_getNextChunk holds.formed chunk
      refine holds.drain formed ?_ rfl (by rw [called]; rfl) (progress rfl) id ?_
        ⟨rfl, rfl⟩
      · unfold heldBytes
        rw [content]
        simp
      · -- a chunk that is still there is not empty
        rintro ⟨_, empty⟩
        obtain ⟨used, _, _⟩ := SimpleBuffer.getNextChunk_some chunk
        have positive := holds.formed.sized used
        have sized : (s.audioBuffer.chunkAt offset).length =
            s.audioBuffer.chunkSize := by
          apply holds.formed.length_of_mem_chunks
          rw [content]
          exact List.mem_cons_self
        unfold heldBytes at empty
        rw [content] at empty
        have none := congrArg List.length empty
        simp [sized] at none
        omega
  | keep empty =>
      obtain ⟨unconnected, unused⟩ := progress rfl
      exact holds.drain holds.formed rfl rfl (by rw [called]; rfl)
        ⟨unconnected, unused, empty⟩ id id ⟨rfl, rfl⟩
  | flush pending free =>
      obtain ⟨unconnected, unused⟩ := progress rfl
      have chunks := SimpleBuffer.chunks_nil_iff.mpr unused
      refine holds.drain holds.formed ?_ rfl (by rw [called]; rfl)
        ⟨unconnected, unused, rfl⟩ id ?_ ⟨rfl, rfl⟩
      · unfold heldBytes
        rw [chunks]
        simp
      · rintro ⟨_, empty⟩
        unfold heldBytes at empty
        exact (pending (List.append_eq_nil_iff.mp empty).2).elim
  | publish =>
      obtain ⟨_, empty⟩ := progress rfl
      exact holds.drain holds.formed rfl rfl (by rw [called]; rfl)
        ⟨rfl, empty⟩ (by simp) id ⟨rfl, rfl⟩
  | notify free =>
      exact holds.drain holds.formed rfl rfl (by rw [called]; rfl)
        (progress rfl) id id ⟨rfl, rfl⟩

theorem keep_elsewhere {label : Act τ} (elsewhere : label ≠ .media) :
    keep config s label kept = kept := by
  cases label with
  | media => exact (elsewhere rfl).elim
  | _ => rfl

theorem Resting.outside (s : State τ) {finishing finished connecting : Bool}
    {transcript : Option τ} {events : List (Event τ)}
    (more : s.finishing = true → finishing = true)
    (silent : Aws.wire events = [] ∧ acceptedBytes events = []) :
    Resting s { s with
      finishing := finishing
      finished := finished
      connecting := connecting
      transcript := transcript } events :=
  { audioBuffer := rfl
    prebufStaging := rfl
    connected := rfl
    deqAudio := rfl
    stream := rfl
    streamReady := rfl
    finishing := more
    staged := fun _ => id
    inHand := rfl
    final := rfl
    closing := rfl
    wire := silent.1
    accepted := silent.2 }

theorem Conserved.ready (holds : Conserved config trace s kept)
    (fresh : s.streamReady = .notCalled) :
    Conserved config (trace ++ []) { s with streamReady := .called true }
      kept := by
  have before : cleared s = false := by
    simp [cleared, fresh, StreamReady.stored]
  obtain ⟨writes, shape, content⟩ := holds.bytes
  have unstored : s.stream ≠ true := by
    intro ready
    have stored := holds.stored ready
    rw [fresh] at stored
    cases stored
  rw [List.append_nil]
  refine ⟨⟨writes, ?_, content⟩, holds.sublist, holds.formed, by simp,
    fun _ => holds.filling (by rw [fresh]; rfl),
    by simp [StreamReady.drains], holds.staged, holds.idle,
    fun ready => (unstored ready).elim, holds.opened, ?_, ?_⟩
  · rw [shape]
    congr 1
    unfold closing
    rw [before]
    rfl
  · rintro (final | after)
    · exact (unstored (holds.opened final)).elim
    · cases after
  · intro after
    cases after

theorem Conserved.step (holds : Conserved config trace s kept) {label : Act τ}
    (allowed : takesAll s label = true) {s' : State τ}
    {events : List (Event τ)}
    (step : (machine τ config).step s label = some (s', events)) :
    Conserved config (trace ++ events) s' (keep config s label kept) := by
  have alive := (Bool.and_eq_true_iff.mp allowed).1
  cases label with
  | connect | onTranscriptEvent | onResponse =>
      rw [keep_elsewhere (by simp)]
      cases call_cases rfl step <;>
        exact holds.rest (.outside s id ⟨rfl, rfl⟩) holds.idle
  | write data =>
      rw [keep_elsewhere (by simp)]
      cases call_cases rfl step with
      | refuse => exact holds.rest (.outside s id ⟨rfl, rfl⟩) holds.idle
      | enter _ running => exact holds.entered running (by simp)
  | media => exact holds.media step
  | finish =>
      rw [keep_elsewhere (by simp)]
      have idle : s.media = .idle := of_decide_eq_true alive
      cases call_cases rfl step with
      | finishAgain => exact holds.rest (.outside s id ⟨rfl, rfl⟩) holds.idle
      | finish =>
          exact holds.rest (.outside s (fun _ => rfl) ⟨rfl, rfl⟩) fun _ => idle
  | onStreamReady located =>
      rw [keep_elsewhere (by simp)]
      have here : located = true := alive
      subst here
      cases call_cases rfl step with
      | ready _ fresh => exact holds.ready fresh
  | streamReady =>
      rw [keep_elsewhere (by simp)]
      exact holds.streamReady step
  | worker =>
      rw [keep_elsewhere (by simp)]
      exact holds.worker allowed step
  | timeout =>
      rw [keep_elsewhere (by simp)]
      obtain ⟨stage, _, _, rfl, rfl | rfl⟩ := stepTimeout_cases step <;>
        exact holds.rest (resting_move s _ _ _ (by rw [stage]; rfl) rfl
          (by rw [stage]; rfl) ⟨rfl, rfl⟩) holds.idle

/-- Why the worker may be where it is. -/
structure Settling (s : State τ) : Prop where
  connecting : inquired s → s.connecting = true
  awake : s.worker ≠ .waiting → s.connecting = true ∨ s.finishing = true
  finished : s.finished = true → s.worker = .clearing ∨ cleared s = true
  last : s.worker.last = true → s.finished = true
  returned : s.worker = .returned →
    s.finished = true ∨ s.finishing = true ∧ s.connecting = false
  initiated : s.shutdownInitiated = true → s.finishing = true

theorem settling_fresh : Settling (.fresh τ config) := by
  constructor <;> simp [inquired, State.fresh, Worker.last]

theorem Settling.same (settles : Settling s) {s' : State τ}
    (worker : s'.worker = s.worker)
    (finished : s'.finished = s.finished)
    (connecting : s'.connecting = s.connecting)
    (initiated : s'.shutdownInitiated = s.shutdownInitiated)
    (finishing : s.finishing = true → s'.finishing = true)
    (inquiry : inquired s' → inquired s ∨ s.connecting = true)
    (gone : cleared s = true → cleared s' = true) : Settling s' := by
  constructor
  · intro asked
    rw [connecting]
    rcases inquiry asked with before | connected
    · exact settles.connecting before
    · exact connected
  · rw [worker, connecting]
    intro active
    exact (settles.awake active).imp_right finishing
  · rw [worker, finished]
    intro ended
    exact (settles.finished ended).imp_right gone
  · rw [worker, finished]
    exact settles.last
  · rw [worker, finished, connecting]
    intro here
    exact (settles.returned here).imp_right
      fun abandoned => ⟨finishing abandoned.1, abandoned.2⟩
  · rw [initiated]
    exact fun before => finishing (settles.initiated before)

theorem Settling.move (settles : Settling s) {worker : Worker τ}
    {transcript : Option τ} {deqAudio : List Bytes}
    {stream shutdownInitiated requestAborted : Bool}
    (going : worker ≠ .returned)
    (awake : worker ≠ .waiting → s.connecting = true ∨ s.finishing = true)
    (slot : transcript ≠ none → s.transcript ≠ none)
    (frames : deqAudio ≠ [] → s.deqAudio ≠ [])
    (finished : s.finished = true → worker = .clearing ∨
      s.streamReady.stored = true ∧ stream = false)
    (last : worker.last = true → s.finished = true)
    (initiated : shutdownInitiated = true → s.finishing = true) :
    Settling { s with
      worker := worker
      transcript := transcript
      deqAudio := deqAudio
      stream := stream
      shutdownInitiated := shutdownInitiated
      requestAborted := requestAborted } := by
  constructor
  · rintro (called | connected | queued | stored | pushing)
    · exact settles.connecting (.inl called)
    · exact settles.connecting (.inr (.inl connected))
    · exact settles.connecting (.inr (.inr (.inl (frames queued))))
    · exact settles.connecting (.inr (.inr (.inr (.inl (slot stored)))))
    · exact settles.connecting (.inr (.inr (.inr (.inr pushing))))
  · exact awake
  · intro ended
    exact (finished ended).imp_right fun gone => by simp [cleared, gone]
  · exact last
  · exact fun here => (going here).elim
  · exact initiated

theorem Settling.return (settles : Settling s)
    (ended : s.finished = true ∨ s.finishing = true ∧ s.connecting = false)
    (unclosed : s.worker ≠ .clearing) (active : s.worker ≠ .waiting) :
    Settling { s with worker := .returned } := by
  constructor
  · exact settles.connecting
  · exact fun _ => settles.awake active
  · intro finished
    exact .inr ((settles.finished finished).resolve_left unclosed)
  · simp [Worker.last]
  · exact fun _ => ended
  · exact settles.initiated

theorem Settling.gone (settles : Settling s) (unclosed : s.worker ≠ .clearing)
    (finished : s.finished = true) :
    s.streamReady.stored = true ∧ s.stream = false := by
  have gone := (settles.finished finished).resolve_left unclosed
  simpa [cleared] using gone

theorem Settling.worker (settles : Settling s)
    (holds : Conserved config trace s kept) {s' : State τ}
    {events : List (Event τ)} (step : stepWorker s = some (s', events)) :
    Settling s' := by
  obtain ⟨stage, here, st⟩ := stepWorker_cases step
  have awake : stage ≠ .waiting → s.connecting = true ∨ s.finishing = true := by
    rw [← here]
    exact settles.awake
  have gone : stage ≠ .clearing → s.finished = true →
      s.streamReady.stored = true ∧ s.stream = false := by
    rw [← here]
    exact settles.gone
  cases st with
  | wake ready =>
      refine settles.move (by simp) ?_ id id (fun ended => .inr (gone (by simp) ended))
        (by simp [Worker.last]) settles.initiated
      intro _
      simp only [Aws.ready, Bool.or_eq_true, Bool.and_eq_true,
        Bool.not_eq_true', List.isEmpty_eq_false_iff] at ready
      rcases ready with (((queued | stored) | finished) | finishing) | finishing
      · exact .inl (settles.connecting (.inr (.inr (.inl queued.1))))
      · refine .inl (settles.connecting (.inr (.inr (.inr (.inl ?_)))))
        intro none
        simp [none] at stored
      · have called := (gone (by simp) finished).1
        refine .inl (settles.connecting (.inl ?_))
        intro notCalled
        rw [notCalled] at called
        cases called
      · exact .inr finishing.1
      · exact .inr finishing.1.1
  | resume | initiate | written =>
      refine settles.move (by simp) (by simp) id id
        (fun ended => .inr (gone (by simp) ended)) (by simp [Worker.last]) ?_
      first
      | exact settles.initiated
      | exact fun _ => by assumption
  | takeFinal finished slot =>
      exact settles.move (by simp) (fun _ => awake (by simp)) (by simp) id
        (fun ended => .inr (gone (by simp) ended)) (fun _ => finished)
        settles.initiated
  | finish finished slot =>
      exact settles.return (.inl finished) (by simp [here]) (by simp [here])
  | abandon running idle =>
      refine settles.return (.inr ⟨?_, idle.2⟩) (by simp [here]) (by simp [here])
      rcases awake (by simp) with connecting | finishing
      · rw [idle.2] at connecting
        cases connecting
      · exact finishing
  | take running slot =>
      exact settles.move (by simp) (fun _ => awake (by simp)) (by simp) id
        (fun ended => .inr (gone (by simp) ended)) (by simp [Worker.last])
        settles.initiated
  | serve running slot | takeNothing running unready =>
      exact settles.move (by simp) (fun _ => awake (by simp)) id id
        (fun ended => .inr (gone (by simp) ended)) (by simp [Worker.last])
        settles.initiated
  | @deliver transcript final =>
      refine settles.move (by simp) (fun _ => awake (by simp)) id id
        (fun ended => .inr (gone (by simp) ended)) ?_ settles.initiated
      intro last
      apply settles.last
      rw [here]
      exact last
  | relockFinal =>
      have finished := settles.last (by rw [here]; rfl)
      exact settles.return (.inl finished) (by simp [here]) (by simp [here])
  | relock =>
      exact settles.move (by simp) (fun _ => awake (by simp)) id id
        (fun ended => .inr (gone (by simp) ended)) (by simp [Worker.last])
        settles.initiated
  | takeLast finishing ready =>
      exact settles.move (by simp) (fun _ => awake (by simp)) id (by simp)
        (fun ended => .inr (gone (by simp) ended)) (by simp [Worker.last])
        (fun _ => finishing)
  | takeAudio running ready =>
      exact settles.move (by simp) (fun _ => awake (by simp)) id (by simp)
        (fun ended => .inr (gone (by simp) ended)) (by simp [Worker.last])
        settles.initiated
  | write | drain | endStream | flush | close =>
      exact settles.move (by simp) (fun _ => awake (by simp)) id id
        (fun ended => .inr (gone (by simp) ended)) (by simp [Worker.last])
        settles.initiated
  | clear =>
      have final : s.worker.final = true := by rw [here]; rfl
      exact settles.move (by simp) (by simp) id id
        (fun _ => .inr ⟨holds.stored (holds.opened final), rfl⟩)
        (by simp [Worker.last]) settles.initiated

theorem Settling.media (settles : Settling s) {s' : State τ}
    {events : List (Event τ)}
    (step : stepMedia config s = some (s', events)) : Settling s' := by
  obtain ⟨stage, media, st⟩ := stepMedia_cases step
  cases st with
  | direct connected | late free connected =>
      exact settles.same rfl rfl rfl rfl id (fun _ => .inl (.inr (.inl connected)))
        id
  | stages unconnected =>
      exact settles.same rfl rfl rfl rfl id
        (fun asked => .inl (asked.before rfl rfl rfl rfl (by simp))) id
  | stage free unconnected =>
      rw [stage_same]
      exact settles.same rfl rfl rfl rfl id
        (fun asked => .inl (asked.before rfl rfl rfl rfl (by simp))) id
  | push free =>
      exact settles.same rfl rfl rfl rfl id
        (fun _ => .inl (.inr (.inr (.inr (.inr ⟨_, media⟩))))) id

theorem Settling.streamReady (settles : Settling s) {s' : State τ}
    {events : List (Event τ)}
    (step : stepStreamReady s = some (s', events)) : Settling s' := by
  obtain ⟨stage, called, st⟩ := stepStreamReady_cases step
  have asked : stage ≠ .notCalled → inquired s := by
    rw [← called]
    exact .inl
  cases st with
  | store =>
      refine settles.same rfl rfl rfl rfl id (fun _ => .inl (asked (by simp))) ?_
      simp [cleared, called, StreamReady.stored]
  | drain | skip | drained | push | keep | flush | publish | notify =>
      refine settles.same rfl rfl rfl rfl id (fun _ => .inl (asked (by simp))) ?_
      simp [cleared, called, StreamReady.stored]

theorem Settling.step (settles : Settling s)
    (holds : Conserved config trace s kept) {label : Act τ}
    (allowed : takesAll s label = true) {s' : State τ}
    {events : List (Event τ)}
    (step : (machine τ config).step s label = some (s', events)) :
    Settling s' := by
  have alive := (Bool.and_eq_true_iff.mp allowed).1
  cases label with
  | connect =>
      have running : s.finishing = false := by simpa [staysAlive] using alive
      cases call_cases rfl step with
      | again => exact settles
      | request =>
          refine ⟨fun _ => rfl, fun _ => .inl rfl, settles.finished,
            settles.last, ?_, settles.initiated⟩
          intro here
          rcases settles.returned here with finished | ⟨finishing, _⟩
          · exact .inl finished
          · rw [running] at finishing
            cases finishing
  | write data =>
      cases call_cases rfl step with
      | refuse => exact settles
      | enter =>
          exact settles.same rfl rfl rfl rfl id
            (fun asked => .inl (asked.before rfl rfl rfl rfl (by simp))) id
  | media => exact settles.media step
  | finish =>
      cases call_cases rfl step with
      | finishAgain => exact settles
      | finish => exact settles.same rfl rfl rfl rfl (fun _ => rfl) .inl id
  | onStreamReady located =>
      cases call_cases rfl step with
      | ready connecting fresh =>
          refine settles.same rfl rfl rfl rfl id (fun _ => .inr connecting) ?_
          simp [cleared, fresh, StreamReady.stored]
  | streamReady => exact settles.streamReady step
  | onTranscriptEvent transcript =>
      cases call_cases rfl step with
      | store connecting =>
          exact settles.same rfl rfl rfl rfl id (fun _ => .inr connecting) id
  | onResponse =>
      cases call_cases rfl step
      refine ⟨settles.connecting, settles.awake, fun _ => ?_, fun _ => rfl,
        fun _ => .inl rfl, settles.initiated⟩
      simp only [staysAlive, Bool.or_eq_true] at alive
      refine alive.imp_left ?_
      cases worker : s.worker <;> simp
  | worker => exact settles.worker holds step
  | timeout =>
      obtain ⟨stage, initiated, _, rfl, _⟩ := stepTimeout_cases step
      have gone := settles.gone (by simp [stage])
      have finishing := settles.initiated initiated
      exact settles.move (by simp) (fun _ => .inr finishing) id id
        (fun ended => .inr (gone ended)) (by simp [Worker.last])
        settles.initiated

/-- A worker that cannot go on has closed the stream. -/
theorem Settling.settled (settles : Settling s) (finishing : s.finishing = true)
    (ready : s.streamReady = .returned) (stuck : stepWorker s = none) :
    closing s = epilogue := by
  have stored : s.streamReady.stored = true := by rw [ready]; rfl
  have connecting := settles.connecting (.inl (by simp [ready]))
  have gone : s.worker.final = false ∧ cleared s = true := by
    unfold stepWorker at stuck
    cases stage : s.worker with
    | waiting =>
        simp only [stage] at stuck
        split at stuck
        · cases stuck
        · rename_i unready
          simp only [Aws.ready, finishing] at unready
          refine ⟨rfl, ?_⟩
          simp only [cleared, stored, Bool.true_and, Bool.not_eq_true']
          cases stream : s.stream with
          | false => rfl
          | true =>
              rw [stream] at unready
              cases initiated : s.shutdownInitiated <;> simp [initiated] at unready
    | returned =>
        refine ⟨rfl, ?_⟩
        rcases settles.returned stage with finished | ⟨_, unconnected⟩
        · simpa [cleared] using settles.gone (by simp [stage]) finished
        · rw [connecting] at unconnected
          cases unconnected
    | woken =>
        simp only [stage] at stuck
        split at stuck
        · split at stuck <;> cases stuck
        · split at stuck
          · cases stuck
          · split at stuck <;> cases stuck
    | relocking final =>
        simp only [stage] at stuck
        split at stuck <;> cases stuck
    | serving =>
        simp only [stage] at stuck
        split at stuck <;> split at stuck <;> cases stuck
    | writing remaining | draining remaining =>
        simp only [stage] at stuck
        split at stuck <;> cases stuck
    | pausing | delivering | flushing | closing | clearing =>
        simp [stage] at stuck
  rw [closing_of_unfinal gone.1, if_pos gone.2]

/-- In every interleaving of a session that stays alive in which the worker's
last take finds the pre-connect buffer empty: what is written to the stream
before it is ended is all that is kept of the frames accepted before `finish()`,
the end, a flush and a close follow once each, and nothing after them; and once
OnStreamReady has returned a worker that cannot go on has closed the stream. -/
theorem flushed_on_stop (config : Config) {labels : List (Act τ)}
    {trace : List (Event τ)} {s : State τ} {kept : Bytes}
    (run : (recorded τ config).Run (fun state label => takesAll state.1 label)
      (recorded τ config).initial labels trace (s, kept)) :
    kept.Sublist (acceptedBytes trace) ∧
      ∃ (writes : List Bytes) (last : List Wire),
        wire trace = writes.map .audio ++ last ∧ last <+: epilogue ∧
          writes.flatten <+: kept ∧ (last ≠ [] → writes.flatten = kept) ∧
          (s.finishing = true → s.streamReady = .returned →
            stepWorker s = none → last = epilogue) := by
  have holds : Conserved config trace s kept ∧ Settling s := by
    refine run.induct (fun seen state =>
      Conserved config seen state.1 state.2 ∧ Settling state.1)
      ⟨conserved_fresh, settling_fresh⟩ ?_
    intro seen state label next events holds allowed step
    obtain ⟨step, noted⟩ := Machine.recording_step step
    rw [noted]
    exact ⟨holds.1.step allowed step, holds.2.step holds.1 allowed step⟩
  obtain ⟨conserved, settles⟩ := holds
  obtain ⟨writes, shape, content⟩ := conserved.bytes
  refine ⟨conserved.sublist, writes, closing s, shape, ?_, ?_, ?_,
    settles.settled⟩
  · unfold closing
    split
    · exact ⟨[.flush, .close], rfl⟩
    · exact ⟨[.close], rfl⟩
    · exact List.prefix_rfl
    · split
      · exact List.prefix_rfl
      · exact List.nil_prefix
  · rw [content, List.append_assoc, List.append_assoc]
    exact List.prefix_append _ _
  · intro ended
    have finished : (s.worker.final = true ∨ cleared s = true) ∧
        s.worker.inHand = [] := by
      unfold closing at ended
      cases stage : s.worker with
      | flushing | closing | clearing => exact ⟨.inl rfl, rfl⟩
      | _ =>
          simp only [stage, ne_eq, ite_eq_right_iff, not_forall] at ended
          obtain ⟨gone, _⟩ := ended
          have spent := conserved.spent gone
          rw [stage] at spent
          exact ⟨.inr gone, spent⟩
    obtain ⟨_, queue, held⟩ := conserved.finished finished.1
    rw [content, finished.2, queue, held]
    simp

/-- A frame before the stream is ready and one after it. -/
theorem flushed_on_stop_after_drain :
    ∃ labels trace s kept,
      (recorded Unit ⟨400, 2⟩).Run (fun state label => takesAll state.1 label)
          (recorded Unit ⟨400, 2⟩).initial labels trace (s, kept) ∧
        wire trace = [[1, 2], [3], [4]].map .audio ++ epilogue ∧
        ∃ (writes : List Bytes) (last : List Wire),
          wire trace = writes.map .audio ++ last ∧
            (last ≠ [] → writes.flatten = kept) := by
  let labels : List (Act Unit) :=
    [Act.connect, .write [1, 2, 3], .media, .media, .onStreamReady true] ++
      List.replicate 7 Act.streamReady ++
      [Act.write [4], .media, .media, .finish] ++ List.replicate 10 Act.worker
  have executed : ((recorded Unit ⟨400, 2⟩).exec
      (fun state label => takesAll state.1 label)
      (recorded Unit ⟨400, 2⟩).initial labels).map (fun outcome =>
        decide (wire outcome.2 =
          [[1, 2], [3], [4]].map .audio ++ epilogue)) = some true := by
    decide
  obtain ⟨⟨s, kept⟩, trace, run, written⟩ :=
    Machine.exists_run_of_exec _ executed
  obtain ⟨_, writes, last, shape, _, _, all, _⟩ :=
    flushed_on_stop ⟨400, 2⟩ run
  exact ⟨labels, trace, s, kept, run, of_decide_eq_true written, writes, last,
    shape, all⟩

set_option maxRecDepth 4000 in
/-- The worker takes the deque and closes the stream after OnStreamReady has
published it and before it drains the pre-connect buffer. -/
theorem frame_lost_on_stop :
    ¬ ∀ (config : Config) (labels : List (Act Unit))
      (trace : List (Event Unit)) (s : State Unit) (kept : Bytes),
      (recorded Unit config).Run (fun state label => staysAlive state.1 label)
          (recorded Unit config).initial labels trace (s, kept) →
        ∃ (writes : List Bytes) (last : List Wire),
          wire trace = writes.map .audio ++ last ∧ last <+: epilogue ∧
            (last ≠ [] → writes.flatten = kept) := by
  intro always
  let labels : List (Act Unit) :=
    [Act.connect, .write (List.replicate 320 7), .media, .media, .finish,
      .onStreamReady true, .streamReady] ++ List.replicate 7 Act.worker ++
      List.replicate 6 Act.streamReady
  have executed : ((recorded Unit ⟨400, 320⟩).exec
      (fun state label => staysAlive state.1 label)
      (recorded Unit ⟨400, 320⟩).initial labels).map (fun outcome =>
        decide (wire outcome.2 = epilogue) &&
          decide (outcome.1.2.length = 320)) = some true := by
    decide
  obtain ⟨⟨s, kept⟩, trace, run, observed⟩ :=
    Machine.exists_run_of_exec _ executed
  obtain ⟨closed, length⟩ := Bool.and_eq_true_iff.mp observed
  obtain ⟨writes, last, shape, _, all⟩ := always _ labels trace s kept run
  rw [of_decide_eq_true closed] at shape
  cases writes with
  | cons bits rest => simp [epilogue] at shape
  | nil =>
      have ended : last = epilogue := by simpa using shape.symm
      have none := all (by rw [ended]; simp [epilogue])
      have lost : kept.length = 320 := of_decide_eq_true length
      rw [← none] at lost
      cases lost

end DrachtioModules.Aws

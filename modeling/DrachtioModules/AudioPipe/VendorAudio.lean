import DrachtioModules.AudioPipe.Vendors
import Mathlib.Tactic.Common

/-!
# What the servers of mod_assemblyai, mod_ibm and mod_jambonz_transcribe hear

The buffer is compared with a queue that is told of every step and nothing of
the buffer: it loses all it has at an overrun, and then as much of what comes
next as will be stored below `LWS_PRE`.
-/

namespace DrachtioModules.AudioPipe.Vendors

open AudioFork (base64Encode base64Decode)

/-- What was sent, what is queued to be sent, how much of the audio that comes
next will be stored below `LWS_PRE`, and whether a frame callback without a
resampler goes on reading. -/
structure Story where
  heard : List (List UInt8)
  queue : List UInt8
  skip : Nat
  reading : Bool
  deriving DecidableEq, Repr

def Story.take (story : Story) (audio : List UInt8) : Story :=
  { story with
    queue := story.queue ++ audio.drop story.skip
    skip := story.skip - audio.length }

/-- Less than one packet of one channel fits in. -/
def Story.full (config : AudioConfig) (story : Story) : Bool :=
  config.maxLen - (config.lwsPre - story.skip + story.queue.length) <
    config.minFreespace

/-- The bytes that make a message. -/
def Vendor.least : Vendor → Nat
  | .assemblyai => 1600
  | .ibm | .jambonz => 1

/-- The audio a step brings: what the media bug reads, or the resampler's output
where there is one. -/
def Act.audio (resampler : Bool) : Act → List UInt8
  | .read (some got) => if resampler then [] else got.data
  | .resample output => output
  | .frame | .media | .read none | .writeable => []

def Story.after (params : CaptureParams) (story : Story) (act : Act) : Story :=
  let config := params.audioConfig
  match act with
  | .frame => { story with reading := !config.resampler }
  | .media =>
      if story.reading && story.full config then
        { story with queue := [], skip := config.lwsPre }
      else story
  | .read none => { story with reading := false }
  | .read (some _) | .resample _ => story.take (act.audio config.resampler)
  | .writeable =>
      if params.vendor.least ≤ story.queue.length then
        { story with heard := story.heard ++ [story.queue], queue := [] }
      else story

def story (params : CaptureParams) (labels : List Act) : Story :=
  labels.foldl (Story.after params) ⟨[], [], 0, false⟩

def messages (trace : List Event) : List Message :=
  trace.filterMap fun
    | .sent message => some message
    | _ => none

@[simp] theorem slice_self (cells : Cells) (offset : Nat) :
    slice cells offset offset = [] := by
  simp [slice]

theorem length_slice (cells : Cells) (first last : Nat) :
    (slice cells first last).length = last - first := by
  simp [slice]

/-- The first `count` bytes of those stored at `offset` are behind what was
there, but for those below `first`. -/
theorem slice_store (cells : Cells) (first offset : Nat) {bytes : List UInt8}
    {count : Nat} (stored : count ≤ bytes.length) :
    slice (store cells offset bytes) first (offset + count) =
      slice cells first offset ++ (bytes.take count).drop (first - offset) := by
  apply List.ext_getElem
  · simp only [length_slice, List.length_append, List.length_drop,
      List.length_take]
    omega
  intro i bound bound'
  rw [length_slice] at bound
  rw [List.getElem_append]
  split
  · next below =>
      rw [length_slice] at below
      have outside : ¬ (offset ≤ first + i ∧
          first + i < offset + bytes.length) := by omega
      simp [slice, store, outside]
  · next above =>
      rw [length_slice] at above
      have inside : offset ≤ first + i ∧
          first + i < offset + bytes.length := by omega
      have place : first - offset + (i - (offset - first)) =
          first + i - offset := by omega
      have within : first + i - offset < bytes.length := by omega
      simp [slice, store, inside, place, within]

theorem slice_store_above (cells : Cells) (first offset : Nat)
    (bytes : List UInt8) :
    slice (store cells offset bytes) first offset =
      slice cells first offset := by
  simpa using slice_store cells first offset (Nat.zero_le bytes.length)

theorem takeWhile_append_of_forall {α : Type*} {p : α → Bool}
    {body : List α} (all : ∀ x ∈ body, p x = true) {stop : α}
    (stops : p stop = false) (rest : List α) :
    (body ++ stop :: rest).takeWhile p = body := by
  rw [List.takeWhile_append_of_pos all, List.takeWhile_cons_of_neg]
  · exact List.append_nil _
  · simp [stops]

/-- No character of base64 is a quote or a backslash. -/
theorem encode_unquoted (audio : List UInt8) :
    ∀ c ∈ base64Encode audio, c ≠ 34 ∧ c ≠ 92 := by
  obtain ⟨digits, proper, same⟩ := Base64.encode_padded audio
  have safe : ∀ c ∈ Base64.alphabet, c ≠ 34 ∧ c ≠ 92 := by decide +kernel
  intro c member
  rw [AudioFork.base64Encode_eq, same] at member
  rcases List.mem_append.mp member with char | padding
  · exact safe c (proper c char)
  · rw [List.eq_of_mem_replicate padding]
    decide

theorem audio_of_message {vendor : Vendor} {audio : List UInt8}
    {message : Message} (made : vendor.message audio = some message) :
    message.audio = some audio := by
  cases vendor with
  | ibm | jambonz =>
      cases made
      rfl
  | assemblyai =>
      simp only [Vendor.message] at made
      split at made
      · cases made
        have unquoted := encode_unquoted audio
        have body : (base64Encode audio ++ closing).takeWhile (· ≠ 34) =
            base64Encode audio := by
          apply takeWhile_append_of_forall
          · intro c member
            simpa using (unquoted c member).1
          · rfl
        have unescaped : 92 ∉ base64Encode audio := fun member =>
          (unquoted 92 member).2 rfl
        have rest : (opening ++ base64Encode audio ++ closing).drop
            (opening.length + (base64Encode audio).length) = closing := by
          rw [← List.length_append, List.drop_left]
        have start : (opening ++ base64Encode audio ++ closing).drop
            opening.length = base64Encode audio ++ closing := by
          rw [List.append_assoc, List.drop_left]
        have first : (opening ++ base64Encode audio ++ closing).take
            opening.length = opening := by
          rw [List.append_assoc, List.take_left]
        simp only [Message.audio, first, if_true, start, body]
        rw [if_pos ⟨unescaped, rest⟩, AudioFork.base64Decode_encode]
      · cases made

theorem Vendor.one_le_least (vendor : Vendor) : 1 ≤ vendor.least := by
  cases vendor <;> decide

theorem message_isSome {vendor : Vendor} {audio : List UInt8}
    (some_audio : audio ≠ []) :
    (vendor.message audio).isSome = true ↔ vendor.least ≤ audio.length := by
  cases vendor with
  | ibm | jambonz =>
      have positive := List.length_pos_iff.mpr some_audio
      simp only [Vendor.message, Vendor.least, Option.isSome_some, true_iff]
      omega
  | assemblyai => simp [Vendor.message, Vendor.least]

/-- What the callback knows, and what the story knows of the callback. -/
def Placed (config : AudioConfig) (reading : Bool) (writeOffset : Nat) :
    Stage → Prop
  | .idle | .unlocking => reading = false
  | .native frame available | .reading frame available =>
      config.resampler = false ∧ reading = true ∧ frame.data = writeOffset ∧
        available = config.maxLen - writeOffset
  | .filling _ | .resampling _ | .checking _ =>
      config.resampler = true ∧ reading = false

structure Told (config : AudioConfig) (story : Story) (audio : List UInt8)
    (trace : List Event) (s : State) : Prop where
  heard : (messages trace).map Message.audio = story.heard.map some
  queue : slice s.cells config.lwsPre s.writeOffset = story.queue
  skip : story.skip = config.lwsPre - s.writeOffset
  placed : Placed config story.reading s.writeOffset s.stage
  whole : .dropped ∉ trace →
    story.skip = 0 ∧ story.heard.flatten ++ story.queue = audio

section Told

variable {config : AudioConfig} {vendor : Vendor} {story : Story}
variable {audio : List UInt8} {trace events : List Event} {s s' : State}

theorem messages_append (trace events : List Event) :
    messages (trace ++ events) = messages trace ++ messages events :=
  List.filterMap_append

theorem Told.length (told : Told config story audio trace s) :
    story.queue.length = s.writeOffset - config.lwsPre := by
  rw [← told.queue, length_slice]

theorem Told.full_iff (told : Told config story audio trace s) :
    story.full config = true ↔
      config.maxLen - s.writeOffset < config.minFreespace := by
  have place : config.lwsPre - story.skip + story.queue.length =
      s.writeOffset := by
    rw [told.length, told.skip]
    omega
  simp [Story.full, place]

theorem Told.quiet (told : Told config story audio trace s) {reading : Bool}
    (unheard : messages events = [])
    (same : s'.writeOffset = s.writeOffset)
    (cells : slice s'.cells config.lwsPre s.writeOffset =
      slice s.cells config.lwsPre s.writeOffset)
    (placed : Placed config reading s.writeOffset s'.stage) :
    Told config { story with reading := reading } audio (trace ++ events)
      s' := by
  constructor
  · rw [messages_append, unheard, List.append_nil]
    exact told.heard
  · rw [same, cells]
    exact told.queue
  · rw [same]
    exact told.skip
  · rw [same]
    exact placed
  · intro kept
    exact told.whole fun earlier => kept (List.mem_append_left _ earlier)

theorem Told.still (told : Told config story audio trace s)
    (unheard : messages events = [])
    (same : s'.writeOffset = s.writeOffset)
    (cells : slice s'.cells config.lwsPre s.writeOffset =
      slice s.cells config.lwsPre s.writeOffset)
    (placed : Placed config story.reading s.writeOffset s'.stage) :
    Told config story audio (trace ++ events) s' :=
  told.quiet unheard same cells placed

theorem Story.take_nil (story : Story) : story.take [] = story := by
  simp [Story.take]

theorem Told.take (told : Told config story audio trace s)
    {offset length : Nat} {bytes added : List UInt8}
    (stored : added = bytes.take added.length)
    (cells : s'.cells = store s.cells s.writeOffset bytes)
    (moved : s'.writeOffset = s.writeOffset + added.length)
    (placed : Placed config story.reading s'.writeOffset s'.stage) :
    Told config (story.take added) (audio ++ added)
      (trace ++ [.wrote offset length]) s' := by
  have enough : added.length ≤ bytes.length := by
    rw [stored, List.length_take]
    exact Nat.min_le_right ..
  have grown := slice_store s.cells config.lwsPre s.writeOffset enough
  constructor
  · rw [messages_append]
    simpa [messages, Story.take] using told.heard
  · rw [cells, moved, grown, ← stored, told.queue]
    simp [Story.take, told.skip]
  · simp only [Story.take, told.skip, moved]
    omega
  · exact placed
  · intro kept
    obtain ⟨skip, whole⟩ := told.whole fun earlier =>
      kept (List.mem_append_left _ earlier)
    simp [Story.take, skip, ← whole]

theorem Told.drop (told : Told config story audio trace s)
    {reported : List Event}
    (silent : reported = [] ∨ reported = [.overrun])
    (moved : s'.writeOffset = 0)
    (placed : Placed config story.reading 0 s'.stage) :
    Told config { story with queue := [], skip := config.lwsPre } audio
      (trace ++ (reported ++ [.dropped])) s' := by
  constructor
  · rw [messages_append]
    rcases silent with rfl | rfl
    · simpa [messages] using told.heard
    · simpa [messages] using told.heard
  · rw [moved]
    simp [slice]
  · rw [moved]
    rfl
  · rw [moved]
    exact placed
  · intro kept
    simp at kept

theorem Told.send (told : Told config story audio trace s)
    {message : Message}
    (made : vendor.message (slice s.cells config.lwsPre s.writeOffset) =
      some message)
    (started : config.lwsPre < s.writeOffset)
    (moved : s'.writeOffset = config.lwsPre)
    (placed : Placed config story.reading config.lwsPre s'.stage) :
    Told config
      { story with heard := story.heard ++ [story.queue], queue := [] } audio
      (trace ++ [.sent message]) s' := by
  have carried := audio_of_message made
  have skip := told.skip
  constructor
  · rw [messages_append, List.map_append, told.heard]
    simp [messages, carried, told.queue]
  · rw [moved]
    exact slice_self ..
  · rw [moved]
    show story.skip = _
    omega
  · rw [moved]
    exact placed
  · intro kept
    obtain ⟨none, whole⟩ := told.whole fun earlier =>
      kept (List.mem_append_left _ earlier)
    simp [none, ← whole]

theorem messages_reportOverrun (s : State) : messages (reportOverrun s) = [] := by
  rcases reportOverrun_cases s with reported | reported
  · rw [reported]
    rfl
  · rw [reported]
    rfl

end Told

section Steps

variable {params : CaptureParams} {story : Story} {audio : List UInt8}
variable {trace events : List Event} {s s' : State}

/-- The story before and after a step, which brings the audio it says. -/
def Follows (params : CaptureParams) (story : Story) (audio : List UInt8)
    (act : Act) : List Event → State → Prop :=
  Told params.audioConfig (story.after params act)
    (audio ++ act.audio params.audioConfig.resampler)

theorem Told.frame (told : Told params.audioConfig story audio trace s)
    (stepped : stepFrame params.audioConfig s = some (s', events)) :
    Follows params story audio .frame (trace ++ events) s' := by
  simp only [Follows, Act.audio, List.append_nil, Story.after]
  unfold stepFrame at stepped
  split at stepped
  · split at stepped
    · next resampled =>
        cases stepped
        refine told.quiet rfl rfl rfl ⟨resampled, ?_⟩
        rw [resampled]
        rfl
    · next native =>
        have native : params.audioConfig.resampler = false :=
          Bool.eq_false_of_not_eq_true native
        cases stepped
        refine told.quiet rfl rfl rfl ⟨native, ?_, rfl, rfl⟩
        rw [native]
        rfl
  · cases stepped

theorem Told.media (told : Told params.audioConfig story audio trace s)
    (stepped : stepMedia params.audioConfig s = some (s', events)) :
    Follows params story audio .media (trace ++ events) s' := by
  simp only [Follows, Act.audio, List.append_nil, Story.after]
  have placed := told.placed
  have full := told.full_iff
  unfold stepMedia at stepped
  split at stepped
  · next frame available here =>
      rw [here] at placed
      obtain ⟨native, reading, place, counted⟩ := placed
      rw [← counted] at full
      split at stepped
      · next short =>
          cases stepped
          rw [if_pos (by rw [reading, full.mpr short]; rfl)]
          refine told.drop (reportOverrun_cases s) ?_ ?_
          · rfl
          · exact ⟨native, reading, rfl, rfl⟩
      · next enough =>
          cases stepped
          rw [if_neg (by simp [mt full.mp enough])]
          exact told.still rfl rfl rfl ⟨native, reading, place, counted⟩
  · next available here =>
      rw [here] at placed
      obtain ⟨resampled, idle⟩ := placed
      rw [if_neg (by simp [idle])]
      split at stepped
      · cases stepped
        exact told.still (messages_reportOverrun s) rfl rfl idle
      · cases stepped
        exact told.still rfl rfl rfl ⟨resampled, idle⟩
  · next here =>
      rw [here] at placed
      have idle : story.reading = false := placed
      rw [if_neg (by simp [idle])]
      cases stepped
      exact told.still rfl rfl rfl idle
  · cases stepped

theorem Told.read (told : Told params.audioConfig story audio trace s)
    {outcome : Option BugRead}
    (stepped : stepRead params.audioConfig s outcome = some (s', events)) :
    Follows params story audio (.read outcome) (trace ++ events) s' := by
  have placed := told.placed
  unfold stepRead at stepped
  split at stepped
  · simp only [Follows, Act.audio, List.append_nil, Story.after]
    cases stepped
    exact told.quiet rfl rfl rfl (show Placed _ false _ .unlocking from rfl)
  · simp only [Follows, Act.audio, List.append_nil, Story.after]
    cases stepped
    exact told.quiet rfl rfl rfl (show Placed _ false _ .unlocking from rfl)
  · next frame available read here =>
      rw [here] at placed
      obtain ⟨native, reading, place, counted⟩ := placed
      have stored : read.data =
          (read.data ++ read.beyond).take read.data.length :=
        List.take_left.symm
      simp only [Follows, Act.audio, Story.after, native, Bool.false_eq_true,
        if_false]
      split at stepped
      · cases stepped
        refine told.take stored (by rw [place]) rfl ?_
        exact ⟨native, reading, rfl, rfl⟩
      · next empty =>
          have nothing : read.data = [] :=
            List.length_eq_zero_iff.mp (not_not.mp empty)
          cases stepped
          rw [nothing, Story.take_nil, List.append_nil]
          refine told.still rfl rfl ?_ ⟨native, reading, place, counted⟩
          rw [place]
          exact slice_store_above ..
  · next available read here =>
      rw [here] at placed
      obtain ⟨resampled, idle⟩ := placed
      simp only [Follows, Act.audio, Story.after, resampled, if_true,
        Story.take_nil, List.append_nil]
      split at stepped
      · cases stepped
        exact told.still rfl rfl rfl ⟨resampled, idle⟩
      · cases stepped
        exact told.still rfl rfl rfl (by rw [here]; exact ⟨resampled, idle⟩)
  · cases stepped

theorem Told.resample (told : Told params.audioConfig story audio trace s)
    {output : List UInt8}
    (promised : contract params.audioConfig s (.resample output) = true)
    (stepped : stepResample params.vendor params.audioConfig s output =
      some (s', events)) :
    Follows params story audio (.resample output) (trace ++ events) s' := by
  have placed := told.placed
  simp only [Follows, Act.audio, Story.after]
  unfold stepResample at stepped
  split at stepped
  · next available here =>
      rw [here] at placed
      simp only [contract, here, Bool.and_eq_true, beq_iff_eq,
        decide_eq_true_eq] at promised
      have counted := bytesWritten_eq params.vendor params.channels_cases
        promised.1
      dsimp only at stepped
      split at stepped
      · cases stepped
        refine told.take (List.take_length ..).symm rfl ?_ placed
        exact congrArg _ counted
      · next none_written =>
          have nothing : output = [] := by
            apply List.length_eq_zero_iff.mp
            have none_taken : output.length / (2 * params.channels) = 0 :=
              Nat.eq_zero_of_not_pos none_written
            rw [← counted, none_taken]
            exact bytesWritten_zero ..
          cases stepped
          rw [nothing, Story.take_nil, List.append_nil]
          exact told.still rfl rfl rfl placed
  · cases stepped

theorem Told.writeable (told : Told params.audioConfig story audio trace s)
    (stepped : stepWriteable params.vendor params.audioConfig s =
      some (s', events)) :
    Follows params story audio .writeable (trace ++ events) s' := by
  simp only [Follows, Act.audio, List.append_nil, Story.after]
  have placed := told.placed
  have length := told.length
  unfold stepWriteable at stepped
  split at stepped
  · next here =>
      rw [here] at placed
      have stays : ∀ offset, Placed params.audioConfig story.reading offset
          s.stage := by
        rw [here]
        exact fun _ => placed
      split at stepped
      · next started =>
          have some_audio : story.queue ≠ [] := by
            apply List.ne_nil_of_length_pos
            omega
          have sends : (params.vendor.message story.queue).isSome = true ↔
              params.vendor.least ≤ story.queue.length :=
            message_isSome some_audio
          split at stepped
          · next message made =>
              cases stepped
              rw [told.queue] at made
              rw [if_pos (sends.mp (by rw [made]; rfl))]
              rw [← told.queue] at made
              exact told.send made started rfl (stays _)
          · next unmade =>
              cases stepped
              rw [told.queue] at unmade
              rw [if_neg (mt sends.mpr (by rw [unmade]; decide))]
              exact told.still rfl rfl rfl (stays _)
      · next empty =>
          cases stepped
          have few : ¬ params.vendor.least ≤ story.queue.length := by
            have one := params.vendor.one_le_least
            omega
          rw [if_neg few]
          exact told.still rfl rfl rfl (stays _)
  · cases stepped

end Steps

end DrachtioModules.AudioPipe.Vendors

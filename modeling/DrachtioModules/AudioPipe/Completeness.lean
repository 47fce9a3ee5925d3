import DrachtioModules.AudioPipe.Receive

/-!
# Which messages are delivered

The block for a message is as long as its first fragment, and grows by one
fixed amount whenever the next chunk does not fit.  So a message may have to be
abandoned although it is not too long itself: what counts is the length the
block grows to, and that depends on how long the first fragment is.
-/

namespace DrachtioModules.AudioPipe

open Transcribe (Bytes)

/-- What lws delivers at once, and `m_finished` at that time. -/
structure Chunk where
  bytes : Bytes
  finished : Bool
  small : bytes.length ≤ 1024

structure Fragment where
  first : Chunk
  rest : List Chunk

structure TextMessage where
  first : Fragment
  rest : List Fragment

def chunkBytes (chunks : List Chunk) : Bytes := chunks.flatMap Chunk.bytes

/-- The allocation that the chunk may call for succeeds. -/
def Chunk.piece (chunk : Chunk) (remaining : Nat) : Piece :=
  { chunk := chunk.bytes
    remaining := remaining
    allocated := true
    finished := chunk.finished
    small := chunk.small }

/-- lws reports what is still to come of the fragment. -/
def pieces : List Chunk → List Piece
  | [] => []
  | chunk :: rest => chunk.piece (chunkBytes rest).length :: pieces rest

def Fragment.pieces (fragment : Fragment) : List Piece :=
  AudioPipe.pieces (fragment.first :: fragment.rest)

def Fragment.payload (fragment : Fragment) : Bytes :=
  chunkBytes (fragment.first :: fragment.rest)

def TextMessage.message (text : TextMessage) : Message :=
  { binary := false
    first := text.first.first.piece (chunkBytes text.first.rest).length
    rest := pieces text.first.rest ++ text.rest.flatMap Fragment.pieces }

def TextMessage.payload (text : TextMessage) : Bytes :=
  text.first.payload ++ text.rest.flatMap Fragment.payload

theorem flatMap_pieces (chunks : List Chunk) :
    (pieces chunks).flatMap Piece.chunk = chunkBytes chunks := by
  induction chunks with
  | nil => rfl
  | cons chunk rest ih =>
      rw [pieces, List.flatMap_cons, ih]
      rfl

theorem allocated_pieces (chunks : List Chunk) :
    ∀ piece ∈ pieces chunks, piece.allocated = true := by
  induction chunks with
  | nil => simp [pieces]
  | cons chunk rest ih =>
      intro piece member
      rcases List.mem_cons.mp member with rfl | later
      · rfl
      · exact ih piece later

theorem TextMessage.payload_message (text : TextMessage) :
    text.message.payload = text.payload := by
  have fragments : (text.rest.flatMap Fragment.pieces).flatMap Piece.chunk =
      text.rest.flatMap Fragment.payload := by
    rw [List.flatMap_assoc]
    apply List.flatMap_congr
    intro fragment _
    exact flatMap_pieces _
  unfold Message.payload TextMessage.message TextMessage.payload
  rw [List.flatMap_append, flatMap_pieces, fragments, ← List.append_assoc]
  rfl

theorem TextMessage.allocated (text : TextMessage) :
    ∀ piece ∈ text.message.rest, piece.allocated = true := by
  intro piece member
  rcases List.mem_append.mp member with first | later
  · exact allocated_pieces _ piece first
  · obtain ⟨fragment, _, inside⟩ := List.mem_flatMap.mp later
    exact allocated_pieces _ piece inside

/-- The length of the block once `total` bytes came, when the first fragment
has `first`: what exceeds the first fragment is rounded up. -/
def blockLength (limits : Limits) (first total : Nat) : Nat :=
  first + (total - first + (limits.reallocSize - 1)) / limits.reallocSize *
    limits.reallocSize

section Length

variable {limits : Limits} {first total more : Nat}

theorem blockLength_of_le (positive : 0 < limits.reallocSize)
    (within : total ≤ first) : blockLength limits first total = first := by
  have none : (total - first + (limits.reallocSize - 1)) /
      limits.reallocSize = 0 := by
    apply Nat.div_eq_of_lt
    omega
  rw [blockLength, none, Nat.zero_mul, Nat.add_zero]

theorem blockLength_mono (grown : total ≤ more) :
    blockLength limits first total ≤ blockLength limits first more := by
  unfold blockLength
  apply Nat.add_le_add_left
  apply Nat.mul_le_mul_right
  apply Nat.div_le_div_right
  omega

theorem le_blockLength (positive : 0 < limits.reallocSize) :
    total ≤ blockLength limits first total := by
  have rounded := Nat.div_add_mod' (total - first + (limits.reallocSize - 1))
    limits.reallocSize
  have rest := Nat.mod_lt (total - first + (limits.reallocSize - 1)) positive
  unfold blockLength
  omega

/-- A chunk no longer than the growth makes the block grow once at most. -/
theorem blockLength_add (first total : Nat) (positive : 0 < limits.reallocSize)
    (small : more ≤ limits.reallocSize) :
    blockLength limits first (total + more) =
      if blockLength limits first total - total < more then
        blockLength limits first total + limits.reallocSize
      else blockLength limits first total := by
  have rounded := Nat.div_add_mod' (total - first + (limits.reallocSize - 1))
    limits.reallocSize
  have rest := Nat.mod_lt (total - first + (limits.reallocSize - 1)) positive
  unfold blockLength
  generalize (total - first + (limits.reallocSize - 1)) / limits.reallocSize =
    count at rounded ⊢
  split
  · have again : (total + more - first + (limits.reallocSize - 1)) /
        limits.reallocSize = count + 1 := by
      apply Nat.div_eq_of_lt_le
      · rw [Nat.succ_mul]
        omega
      · rw [Nat.succ_mul, Nat.succ_mul]
        omega
    rw [again, Nat.succ_mul]
    omega
  · have same : (total + more - first + (limits.reallocSize - 1)) /
        limits.reallocSize = count := by
      apply Nat.div_eq_of_lt_le
      · omega
      · rw [Nat.succ_mul]
        omega
    rw [same]

end Length

section Pieces

variable {ν : Type} {limits : Limits} {notify : Bytes → Bool → ν}
variable {first : Nat} {r : Receiver} {payload block : Bytes}

/-- The block has grown as far as the payload needs. -/
structure Gathering (limits : Limits) (first : Nat) (r : Receiver)
    (payload : Bytes) : Prop where
  receiving : ∃ block, Receiving r payload block
  length : r.recvBufLen = blockLength limits first payload.length
  within : blockLength limits first payload.length ≤ limits.maxRecvBufSize

/-- What a callback leads to when its message fits so far. -/
structure Fits (limits : Limits) (notify : Bytes → Bool → ν) (first : Nat)
    (payload : Bytes) (cb : Callback) (next : Receiver)
    (events : List (Event ν)) : Prop where
  finished : cb.final = true →
    notified events = [notify (cString payload) cb.finished]
  onward : cb.final = false →
    notified events = [] ∧ Gathering limits first next payload

theorem notified_copy (cb : Callback) (final : cb.final = true) :
    notified (copy notify r cb block).2 ≠ [] := by
  simp [copy, final, notified, Event.notification]

theorem recvBufLen_copy (cb : Callback) (more : cb.final = false) :
    (copy notify r cb block).1.recvBufLen = r.recvBufLen := by
  simp [copy, more]

theorem fits_copy {cb : Callback} (length : block.length = r.recvBufLen)
    (cursor : r.recvBufPtr = payload.length)
    (content : block.take payload.length = payload)
    (attentive : r.discarding = false)
    (room : payload.length + cb.chunk.length ≤ block.length)
    (grown : r.recvBufLen =
      blockLength limits first (payload ++ cb.chunk).length)
    (within : r.recvBufLen ≤ limits.maxRecvBufSize) :
    Fits limits notify first (payload ++ cb.chunk) cb (copy notify r cb block).1
      (copy notify r cb block).2 := by
  have outcome : Outcome notify _ cb _ _ :=
    outcome_copy length cursor content attentive room
  constructor
  · intro final
    rcases (outcome.finished final).2 with silent | delivered
    · exact (notified_copy cb final silent).elim
    · exact delivered
  · intro more
    obtain ⟨silent, receiving | abandoned⟩ := outcome.onward more
    · refine ⟨silent, receiving, ?_, ?_⟩
      · exact (recvBufLen_copy cb more).trans grown
      · rwa [← grown]
    · have stored : (copy notify r cb block).1.recvBuf ≠ none := by
        simp [copy, more]
      exact (stored abandoned.released).elim

/-- A further piece: either it fits, or the message is given up. -/
theorem append_cases (notify : Bytes → Bool → ν) (cb : Callback)
    (enough : 1024 ≤ limits.reallocSize)
    (gathering : Gathering limits first r payload)
    (small : cb.chunk.length ≤ 1024) (allocated : cb.allocated = true) :
    (blockLength limits first (payload ++ cb.chunk).length ≤
        limits.maxRecvBufSize ∧
      Fits limits notify first (payload ++ cb.chunk) cb
        (append limits notify r cb).1 (append limits notify r cb).2) ∨
    (limits.maxRecvBufSize <
        blockLength limits first (payload ++ cb.chunk).length ∧
      append limits notify r cb = (abandon cb, [])) := by
  obtain ⟨⟨block, stored, length, cursor, inside, content, attentive⟩, grown,
    within⟩ := gathering
  have next := blockLength_add first payload.length (by omega)
    (small.trans enough)
  rw [← grown, ← cursor] at next
  rw [← grown] at within
  by_cases short : r.recvBufLen - r.recvBufPtr < cb.chunk.length
  · rw [if_pos short, cursor, ← List.length_append] at next
    by_cases beyond : limits.maxRecvBufSize < r.recvBufLen + limits.reallocSize
    · refine .inr ⟨by rwa [next], ?_⟩
      simp only [append, if_pos short, if_pos beyond]
    · have grown' : (block ++ List.replicate
          (r.recvBufLen + limits.reallocSize - block.length) 0).length =
            r.recvBufLen + limits.reallocSize := by
        rw [List.length_append, List.length_replicate]
        omega
      refine .inl ⟨by rw [next]; omega, ?_⟩
      simp only [append, if_pos short, if_neg beyond, stored, allocated]
      refine fits_copy grown' cursor ?_ attentive ?_ next.symm
        (Nat.le_of_not_lt beyond)
      · rw [List.take_append_of_le_length inside]
        exact content
      · rw [grown']
        omega
  · rw [if_neg short, cursor, ← List.length_append] at next
    refine .inl ⟨by rwa [next], ?_⟩
    simp only [append, if_neg short, stored]
    apply fits_copy length cursor content attentive ?_ next.symm within
    omega

/-- Nothing is notified of a message that was given up. -/
theorem notified_discarding (discarding : r.discarding = true)
    (rest : List Piece) :
    notified (receiveAll limits notify r (continuation false rest)).2 = [] := by
  induction rest generalizing r with
  | nil => rfl
  | cons piece rest ih =>
      have skipped : receive limits notify r
          (piece.callback false false rest.isEmpty) =
            ({ r with discarding := !rest.isEmpty }, []) := by
        simp [receive, Piece.callback, discarding]
      simp only [continuation, receiveAll, skipped, List.nil_append]
      cases rest with
      | nil => rfl
      | cons another rest => exact ih rfl

/-- A message is notified if the block may grow as far as it needs. -/
structure Decided (limits : Limits) (notify : Bytes → Bool → ν) (first : Nat)
    (payload : Bytes) (events : List (Event ν)) : Prop where
  fits : blockLength limits first payload.length ≤ limits.maxRecvBufSize →
    ∃ finished, notified events = [notify (cString payload) finished]
  exceeds : limits.maxRecvBufSize < blockLength limits first payload.length →
    notified events = []

/-- Whatever was decided for the rest is decided for the message. -/
theorem Fits.decided {cb : Callback} {next : Receiver} {events : List (Event ν)}
    {rest : List Piece}
    (fits : Fits limits notify first payload cb next events)
    (last : cb.final = rest.isEmpty)
    (within : blockLength limits first payload.length ≤ limits.maxRecvBufSize)
    (decided : Gathering limits first next payload → rest ≠ [] →
      Decided limits notify first (payload ++ rest.flatMap Piece.chunk)
        (receiveAll limits notify next (continuation false rest)).2) :
    Decided limits notify first (payload ++ rest.flatMap Piece.chunk)
      (events ++
        (receiveAll limits notify next (continuation false rest)).2) := by
  cases rest with
  | nil =>
      simp only [continuation, receiveAll, List.flatMap_nil, List.append_nil]
      constructor
      · intro _
        exact ⟨cb.finished, fits.finished last⟩
      · intro beyond
        exact (Nat.not_lt.mpr within beyond).elim
  | cons another rest =>
      obtain ⟨silent, gathering⟩ := fits.onward last
      obtain ⟨fitting, beyond⟩ := decided gathering (by simp)
      constructor
      · rw [notified_append, silent]
        exact fitting
      · rw [notified_append, silent]
        exact beyond

theorem decided_continuation (enough : 1024 ≤ limits.reallocSize)
    (gathering : Gathering limits first r payload) {rest : List Piece}
    (more : rest ≠ []) (allocated : ∀ piece ∈ rest, piece.allocated = true) :
    Decided limits notify first (payload ++ rest.flatMap Piece.chunk)
      (receiveAll limits notify r (continuation false rest)).2 := by
  induction rest generalizing r payload with
  | nil => exact (more rfl).elim
  | cons piece rest ih =>
      obtain ⟨_, receiving⟩ := gathering.receiving
      have appended : receive limits notify r
          (piece.callback false false rest.isEmpty) =
            append limits notify r
              (piece.callback false false rest.isEmpty) := by
        simp [receive, Piece.callback, receiving.attentive]
      rw [List.flatMap_cons, ← List.append_assoc]
      simp only [continuation, receiveAll, appended]
      rcases append_cases notify (piece.callback false false rest.isEmpty)
        enough gathering piece.small (allocated piece List.mem_cons_self) with
        ⟨within, fits⟩ | ⟨beyond, gone⟩
      · apply fits.decided rfl within
        intro gathering' more'
        apply ih gathering' more'
        intro piece' member
        exact allocated piece' (List.mem_cons_of_mem _ member)
      · have longer : blockLength limits first
            (payload ++ piece.chunk).length ≤ blockLength limits first
              (payload ++ piece.chunk ++ rest.flatMap Piece.chunk).length := by
          apply blockLength_mono
          exact (List.prefix_append _ _).length_le
        constructor
        · intro fitting
          exact (Nat.not_lt.mpr (longer.trans fitting) beyond).elim
        · intro _
          simp only [gone, List.nil_append]
          cases rest with
          | nil => rfl
          | cons another rest => exact notified_discarding rfl _

/-- The block for a message was allocated. -/
def Receiver.begun (recvBufLen : Nat) : Receiver :=
  { recvBuf := some (List.replicate recvBufLen 0)
    recvBufPtr := 0
    recvBufLen := recvBufLen
    discarding := false }

theorem gathering_begun (positive : 0 < limits.reallocSize)
    (within : first ≤ limits.maxRecvBufSize) :
    Gathering limits first (.begun first) [] := by
  have none : blockLength limits first ([] : Bytes).length = first :=
    blockLength_of_le positive (Nat.zero_le _)
  refine ⟨⟨List.replicate first 0, ?_⟩, none.symm, ?_⟩
  · constructor <;> simp [Receiver.begun]
  · rwa [none]

theorem decided_message (enough : 1024 ≤ limits.reallocSize)
    {message : Message} (text : message.binary = false)
    (announced : message.first.chunk.length + message.first.remaining = first)
    (allocated : message.first.allocated = true)
    (later : ∀ piece ∈ message.rest, piece.allocated = true) :
    Decided limits notify first message.payload
      (receiveAll limits notify r message.callbacks).2 := by
  have shorter : message.first.chunk.length ≤ first := by omega
  unfold Message.callbacks Message.payload
  rw [text]
  by_cases long : limits.maxRecvBufSize < first
  · -- it is not taken up at all
    have skipped : receive limits notify r
        (message.first.callback false true message.rest.isEmpty) =
          ({ r with recvBufLen := 0, discarding := !message.rest.isEmpty },
            [.asserted r.recvBuf.isNone]) := by
      simp [receive, Piece.callback, announced, long]
    have silent : notified (receiveAll limits notify r
        (message.first.callback false true message.rest.isEmpty ::
          continuation false message.rest)).2 = [] := by
      simp only [receiveAll, skipped, notified_append]
      cases message.rest with
      | nil => rfl
      | cons piece rest => exact notified_discarding rfl _
    constructor
    · intro fits
      have within : first ≤ limits.maxRecvBufSize :=
        (Nat.le_add_right _ _).trans fits
      omega
    · intro _
      exact silent
  · have within : first ≤ limits.maxRecvBufSize := Nat.le_of_not_lt long
    have taken : receive limits notify r
        (message.first.callback false true message.rest.isEmpty) =
          ((append limits notify (.begun first)
              (message.first.callback false true message.rest.isEmpty)).1,
            .asserted r.recvBuf.isNone :: (append limits notify (.begun first)
              (message.first.callback false true
                message.rest.isEmpty)).2) := by
      simp [receive, Piece.callback, announced, long, allocated,
        Receiver.begun]
    rcases append_cases notify
      (message.first.callback false true message.rest.isEmpty) enough
      (gathering_begun (by omega) within) message.first.small allocated with
      ⟨within', fits⟩ | ⟨beyond, _⟩
    · have decided := fits.decided rfl within' fun gathering more =>
        decided_continuation enough gathering more later
      simp only [receiveAll, taken, List.cons_append]
      exact ⟨decided.fits, decided.exceeds⟩
    · have same : blockLength limits first message.first.chunk.length = first :=
        blockLength_of_le (by omega) shorter
      have beyond' : limits.maxRecvBufSize <
          blockLength limits first message.first.chunk.length := beyond
      omega

end Pieces

/-- The block grows no further than it may. -/
def TextMessage.hasRoom (limits : Limits) (text : TextMessage) : Prop :=
  blockLength limits text.first.payload.length text.payload.length ≤
    limits.maxRecvBufSize

def TextMessage.isShort (limits : Limits) (text : TextMessage) : Prop :=
  text.payload.length ≤ limits.maxRecvBufSize

section Text

variable {ν : Type} {limits : Limits} {notify : Bytes → Bool → ν}

theorem decided_text (notify : Bytes → Bool → ν)
    (enough : 1024 ≤ limits.reallocSize) (r : Receiver) (text : TextMessage) :
    Decided limits notify text.first.payload.length text.payload
      (receiveAll limits notify r text.message.callbacks).2 := by
  rw [← text.payload_message]
  apply decided_message enough rfl ?_ rfl text.allocated
  simp [TextMessage.message, Chunk.piece, Fragment.payload, chunkBytes]

/-- A message that has room is short. -/
theorem TextMessage.short_of_room (positive : 0 < limits.reallocSize)
    {text : TextMessage} (room : text.hasRoom limits) : text.isShort limits :=
  (le_blockLength positive).trans room

theorem delivered_iff_room (notify : Bytes → Bool → ν) (read : ν → Bytes)
    (reads : ∀ bytes finished, read (notify bytes finished) = bytes)
    (enough : 1024 ≤ limits.reallocSize) (r : Receiver) (text : TextMessage) :
    (notified (receiveAll limits notify r text.message.callbacks).2).map read =
      [cString text.payload] ↔ text.hasRoom limits := by
  have decided := decided_text notify enough r text
  constructor
  · intro delivered
    by_contra beyond
    rw [decided.exceeds (Nat.lt_of_not_le beyond)] at delivered
    cases delivered
  · intro room
    obtain ⟨finished, notice⟩ := decided.fits room
    rw [notice, List.map_cons, reads]
    rfl

end Text

/-- In both modules, whatever the receiver is at: a message is delivered exactly
if it is short, unless it is short and has no room. -/
theorem delivered_iff_short (r : Receiver) (text : TextMessage) :
    ((notified (AudioFork.receive r text.message.callbacks).2 =
          [cString text.payload] ↔ text.isShort AudioFork.recvLimits) ↔
        (text.isShort AudioFork.recvLimits →
          text.hasRoom AudioFork.recvLimits)) ∧
      (((notified (Deepgram.receive r text.message.callbacks).2).map Prod.fst =
          [cString text.payload] ↔ text.isShort Deepgram.recvLimits) ↔
        (text.isShort Deepgram.recvLimits →
          text.hasRoom Deepgram.recvLimits)) := by
  constructor
  · have decided : (notified (AudioFork.receive r text.message.callbacks).2).map
        id = [cString text.payload] ↔ text.hasRoom AudioFork.recvLimits :=
      delivered_iff_room _ id (fun _ _ => rfl) (by decide) r text
    have short : text.hasRoom AudioFork.recvLimits →
        text.isShort AudioFork.recvLimits := text.short_of_room (by decide)
    rw [List.map_id] at decided
    rw [decided]
    exact ⟨fun same => same.mpr, fun room => ⟨short, room⟩⟩
  · have decided : (notified (Deepgram.receive r
        text.message.callbacks).2).map Prod.fst = [cString text.payload] ↔
          text.hasRoom Deepgram.recvLimits :=
      delivered_iff_room Prod.mk Prod.fst (fun _ _ => rfl) (by decide) r text
    have short : text.hasRoom Deepgram.recvLimits →
        text.isShort Deepgram.recvLimits := text.short_of_room (by decide)
    rw [decided]
    exact ⟨fun same => same.mpr, fun room => ⟨short, room⟩⟩

/-- A chunk and a row of equal ones, as two fragments and as one. -/
def cutMessage (chunk other : Chunk) (count : Nat) : TextMessage :=
  ⟨⟨chunk, []⟩, [⟨other, List.replicate count other⟩]⟩

def wholeMessage (chunk other : Chunk) (count : Nat) : TextMessage :=
  ⟨⟨chunk, other :: List.replicate count other⟩, []⟩

theorem payload_cutMessage (chunk other : Chunk) (count : Nat) :
    (cutMessage chunk other count).payload =
      (wholeMessage chunk other count).payload := by
  simp [cutMessage, wholeMessage, TextMessage.payload, Fragment.payload,
    chunkBytes]

theorem length_wholeMessage (chunk other : Chunk) (count : Nat) :
    (wholeMessage chunk other count).payload.length =
      chunk.bytes.length + (count + 1) * other.bytes.length := by
  have row : (chunkBytes (other :: List.replicate count other)).length =
      (count + 1) * other.bytes.length := by
    rw [← List.replicate_succ]
    simp [chunkBytes, List.length_flatMap]
  rw [← row]
  simp [wholeMessage, TextMessage.payload, Fragment.payload, chunkBytes]

theorem first_cutMessage (chunk other : Chunk) (count : Nat) :
    (cutMessage chunk other count).first.payload.length =
      chunk.bytes.length := by
  simp [cutMessage, Fragment.payload, chunkBytes]

theorem first_wholeMessage (chunk other : Chunk) (count : Nat) :
    (wholeMessage chunk other count).first.payload =
      (wholeMessage chunk other count).payload := by
  simp [wholeMessage, TextMessage.payload]

/-- One byte, then 649 chunks of 1024 bytes: in a fragment of its own, the byte
makes the block grow past its limit in the end; in one fragment all fits. -/
theorem short_message_dropped :
    ∃ byte full : Chunk,
      let cut := cutMessage byte full 648
      let whole := wholeMessage byte full 648
      cut.payload = whole.payload ∧ cut.payload.length = 664577 ∧
        cut.isShort AudioFork.recvLimits ∧ cut.isShort Deepgram.recvLimits ∧
        notified (AudioFork.receive (.fresh 0) cut.message.callbacks).2 ≠
          [cString cut.payload] ∧
        (notified (Deepgram.receive (.fresh 0) cut.message.callbacks).2).map
          Prod.fst ≠ [cString cut.payload] ∧
        notified (AudioFork.receive (.fresh 0) whole.message.callbacks).2 =
          [cString whole.payload] := by
  have row : (List.replicate 1024 (97 : UInt8)).length = 1024 :=
    List.length_replicate
  refine ⟨⟨[97], false, by decide⟩, ⟨List.replicate 1024 97, false, row.le⟩, ?_⟩
  generalize equal : (⟨[97], false, _⟩ : Chunk) = byte
  generalize equal' : (⟨List.replicate 1024 97, false, _⟩ : Chunk) = full
  have one : byte.bytes.length = 1 := by rw [← equal]; rfl
  have many : full.bytes.length = 1024 := by rw [← equal']; exact row
  have same := payload_cutMessage byte full 648
  have first := first_cutMessage byte full 648
  have first' := congrArg List.length (first_wholeMessage byte full 648)
  have length := length_wholeMessage byte full 648
  rw [one, many] at length
  rw [one] at first
  generalize cutMessage byte full 648 = cut at *
  generalize wholeMessage byte full 648 = whole at *
  have length' : cut.payload.length = 664577 := by
    rw [same, length]
  have dropped : ¬ cut.hasRoom AudioFork.recvLimits := by
    unfold TextMessage.hasRoom
    rw [first, length']
    decide
  have room : whole.hasRoom AudioFork.recvLimits := by
    unfold TextMessage.hasRoom
    rw [first', length]
    decide
  have short : cut.payload.length ≤ 65 * 1024 * 10 := by
    rw [length']
    decide
  refine ⟨same, length', short, short, ?_, ?_, ?_⟩
  · intro delivered
    apply dropped
    apply (delivered_iff_room _ id (fun _ _ => rfl) (by decide) _ cut).mp
    rw [List.map_id]
    exact delivered
  · intro delivered
    apply dropped
    exact (delivered_iff_room Prod.mk Prod.fst (fun _ _ => rfl) (by decide) _
      cut).mp delivered
  · have delivered := (delivered_iff_room (fun text _ => text) id
      (fun _ _ => rfl) (by decide) (.fresh 0) whole).mpr room
    rwa [List.map_id] at delivered

end DrachtioModules.AudioPipe

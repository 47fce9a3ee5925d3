import DrachtioModules.AudioPipe.Completeness
import DrachtioModules.AudioPipe.Vendors

/-!
# Messages that are truncated

mod_ibm_transcribe, mod_jambonz_transcribe and mod_assemblyai_transcribe put a
message together as the other AudioPipes do, but they do not discard the rest
of one that was given up.  What comes after that is taken for a message again.

A `realloc` that fails leaves `m_recv_buf_ptr` pointing into the old block while
`m_recv_buf` is null.  The distance between the two is then the pointer's
address, and the space that seems to remain is more than any piece takes.
-/

namespace DrachtioModules.AudioPipe.Truncation

open Transcribe (Bytes)
open Vendors (Vendor)

/-- `m_recv_buf` with the block it points to, `m_recv_buf_ptr` as an offset into
that block, and `m_recv_buf_len`; `stray` is `m_recv_buf_ptr` left behind. -/
structure Receiver where
  recvBuf : Option Bytes
  recvBufPtr : Nat
  recvBufLen : Nat
  stray : Bool
  deriving DecidableEq, Repr

/-- `finishedThen` is `m_finished` once the message was passed on. -/
structure Callback extends AudioPipe.Callback where
  finishedThen : Bool
  deriving DecidableEq, Repr

inductive Notice where
  | message (text : Bytes) (finished : Bool)
  | close
  deriving DecidableEq, Repr

/-- mod_ibm_transcribe: "got final transcript, close the connection". -/
def notices (vendor : Vendor) (text : Bytes) (finished finishedThen : Bool) :
    List Notice :=
  .message text finished ::
    if vendor = .ibm ∧ finishedThen = true then [.close] else []

section Handler

variable (vendor : Vendor) (limits : Limits)

/-- The first fragment has its block, however long it is. -/
def begin (r : Receiver) (cb : Callback) : Receiver × List (Event Notice) :=
  if cb.first then
    let recvBufLen := cb.chunk.length + cb.remaining
    ({ recvBuf :=
         if cb.allocated then some (List.replicate recvBufLen 0) else none
       recvBufPtr := 0
       recvBufLen := recvBufLen
       stray := false }, [.asserted r.recvBuf.isNone])
  else (r, [])

/-- Where the piece does not fit, the block grows; "max buffer exceeded,
truncating message". -/
def makeRoom (r : Receiver) (cb : Callback) : Receiver :=
  if r.stray = false ∧ r.recvBufLen - r.recvBufPtr < cb.chunk.length then
    let newlen := r.recvBufLen + limits.reallocSize
    if limits.maxRecvBufSize < newlen then
      { recvBuf := none, recvBufPtr := 0, recvBufLen := 0, stray := false }
    else if cb.allocated then
      -- realloc of a null pointer is malloc
      let block := r.recvBuf.getD []
      { r with
        recvBuf := some (block ++ List.replicate (newlen - block.length) 0)
        recvBufLen := newlen }
    else { r with recvBuf := none, stray := r.recvBuf.isSome }
  else r

/-- `memcpy` into the block, and the notification after the last piece. -/
def copy (r : Receiver) (cb : Callback) : Receiver × List (Event Notice) :=
  match r.recvBuf with
  | none => (r, [])
  | some block =>
      let copied := if cb.chunk.isEmpty then []
        else [.copied r.recvBufPtr cb.chunk.length block.length]
      let block := if cb.chunk.isEmpty then block
        else Transcribe.SimpleBuffer.copyTo block r.recvBufPtr cb.chunk
      let recvBufPtr := r.recvBufPtr + cb.chunk.length
      if cb.final then
        ({ recvBuf := none, recvBufPtr := 0, recvBufLen := 0, stray := false },
          copied ++ (notices vendor (cString (block.take recvBufPtr))
            cb.finished cb.finishedThen).map .notified)
      else ({ r with recvBuf := some block, recvBufPtr := recvBufPtr }, copied)

def receive (r : Receiver) (cb : Callback) : Receiver × List (Event Notice) :=
  if cb.binary then (r, [])
  else
    let (r, asserted) := begin r cb
    let (next, events) := copy vendor (makeRoom limits r cb) cb
    (next, asserted ++ events)

/-- The callbacks of one connection, in order. -/
def receiveAll (r : Receiver) : List Callback → Receiver × List (Event Notice)
  | [] => (r, [])
  | cb :: rest =>
      let (next, events) := receive vendor limits r cb
      let (last, later) := receiveAll next rest
      (last, events ++ later)

end Handler

/-- `m_recv_buf_len` is not initialised. -/
def Receiver.fresh (recvBufLen : Nat) : Receiver :=
  { recvBuf := none
    recvBufPtr := 0
    recvBufLen := recvBufLen
    stray := false }

structure Piece extends AudioPipe.Piece where
  finishedThen : Bool

structure Message where
  binary : Bool
  first : Piece
  rest : List Piece

def Piece.callback (piece : Piece) (binary first final : Bool) : Callback :=
  { toCallback := piece.toPiece.callback binary first final
    finishedThen := piece.finishedThen }

/-- The callbacks for the pieces after the first one. -/
def continuation (binary : Bool) : List Piece → List Callback
  | [] => []
  | piece :: rest =>
      piece.callback binary false rest.isEmpty :: continuation binary rest

namespace Message

def callbacks (message : Message) : List Callback :=
  message.first.callback message.binary true message.rest.isEmpty ::
    continuation message.binary message.rest

def pieces (message : Message) : List Piece := message.first :: message.rest

def payload (message : Message) : Bytes :=
  message.pieces.flatMap fun piece => piece.chunk

/-- The piece with which the message is passed on. -/
def last (message : Message) : Piece := message.rest.getLastD message.first

/-- The length of the first fragment. -/
def announced (message : Message) : Nat :=
  message.first.chunk.length + message.first.remaining

end Message

/-- The block never has to grow beyond its limit. -/
def fits (limits : Limits) (first total : Nat) : Prop :=
  blockLength limits first total ≤ max first limits.maxRecvBufSize

instance (limits : Limits) (first total : Nat) :
    Decidable (fits limits first total) :=
  inferInstanceAs (Decidable (_ ≤ _))

/-- What the handler has of a message: in a block that was `first` long at
first, or in none while it counts on `recvBufLen`; after a `realloc` that failed
it skips the rest. -/
inductive Segment where
  | held (first : Nat) (bytes : Bytes)
  | without (recvBufLen : Nat)
  | skipped
  deriving DecidableEq, Repr

namespace Segment

def begin (first : Nat) (allocated : Bool) : Segment :=
  if allocated then .held first [] else .without first

/-- A piece that does not fit is lost with what came before; one for which
there is no block, but seems to be room, is lost alone. -/
def take (limits : Limits) (segment : Segment) (piece : Piece) : Segment :=
  match segment with
  | .held first bytes =>
      let came := (bytes ++ piece.chunk).length
      if ¬ fits limits first came then .without 0
      else if blockLength limits first came = blockLength limits first
          bytes.length ∨ piece.allocated = true then
        .held first (bytes ++ piece.chunk)
      else .skipped
  | .without recvBufLen =>
      if piece.chunk.length ≤ recvBufLen then .without recvBufLen
      else if ¬ fits limits recvBufLen piece.chunk.length then .without 0
      else if piece.allocated then .held recvBufLen piece.chunk
      else .without recvBufLen
  | .skipped => .skipped

def texts : Segment → List Bytes
  | .held _ bytes => [bytes]
  | .without _ | .skipped => []

end Segment

def Message.segment (limits : Limits) (message : Message) : Segment :=
  message.pieces.foldl (Segment.take limits)
    (.begin message.announced message.first.allocated)

/-- What is passed on of a message. -/
def passedOn (limits : Limits) (message : Message) : List Bytes :=
  if message.binary then [] else (message.segment limits).texts

def Message.notices (vendor : Vendor) (limits : Limits) (message : Message) :
    List Notice :=
  (passedOn limits message).flatMap fun text =>
    Truncation.notices vendor (cString text) message.last.finished
      message.last.finishedThen

/-- The block holds what was received since it was allocated. -/
structure Taking (r : Receiver) (held block : Bytes) : Prop where
  stored : r.recvBuf = some block
  length : block.length = r.recvBufLen
  cursor : r.recvBufPtr = held.length
  inside : held.length ≤ block.length
  content : block.take held.length = held
  inPlace : r.stray = false

theorem notified_map {ν : Type} (told : List ν) :
    notified (told.map Event.notified) = told := by
  unfold notified
  rw [List.filterMap_map]
  exact List.filterMap_some

section Pieces

variable {vendor : Vendor} {limits : Limits}
variable {first : Nat} {r : Receiver} {came held block : Bytes}

/-- What a copy leads to. -/
structure Copied (vendor : Vendor) (held : Bytes) (cb : Callback)
    (recvBufLen : Nat) (next : Receiver) (events : List (Event Notice)) :
    Prop where
  sound : ∀ event ∈ events, event.sound
  finished : cb.final = true → next.recvBuf = none ∧
    notified events =
      notices vendor (cString held) cb.finished cb.finishedThen
  onward : cb.final = false → notified events = [] ∧
    next.recvBufLen = recvBufLen ∧ ∃ block, Taking next held block

theorem copied (taking : Taking r held block) (cb : Callback)
    (room : held.length + cb.chunk.length ≤ block.length) :
    Copied vendor (held ++ cb.chunk) cb r.recvBufLen (copy vendor r cb).1
      (copy vendor r cb).2 := by
  obtain ⟨stored, length, cursor, inside, content, inPlace⟩ := taking
  obtain ⟨block', same, length', content'⟩ := stored_copyTo cursor content room
  have silent := @notified_copied Notice r.recvBufPtr cb.chunk block.length
  have sound := @sound_copied Notice cb.chunk r.recvBufPtr block.length
    (cursor ▸ room)
  unfold copy
  simp only [stored, same]
  constructor
  · split
    · intro event member
      rcases List.mem_append.mp member with before | last
      · exact sound event before
      · obtain ⟨notice, _, rfl⟩ := List.mem_map.mp last
        trivial
    · exact sound
  · intro final
    rw [if_pos final]
    refine ⟨rfl, ?_⟩
    rw [notified_append, silent, cursor, content', List.nil_append,
      notified_map]
  · intro more
    rw [if_neg (by simp [more])]
    refine ⟨silent, rfl, block', rfl, ?_, ?_, ?_, ?_, inPlace⟩
    · exact length'.trans length
    · rw [List.length_append, ← cursor]
    · rw [List.length_append, length']
      exact room
    · rw [List.length_append]
      exact content'

/-- The handler has of a message what `Segment` says. -/
inductive Within (limits : Limits) : Segment → Receiver → Prop where
  | held {first : Nat} {bytes block : Bytes} {r : Receiver}
      (taking : Taking r bytes block)
      (length : r.recvBufLen = blockLength limits first bytes.length)
      (fitting : fits limits first bytes.length) :
      Within limits (.held first bytes) r
  | without {recvBufLen : Nat} :
      Within limits (.without recvBufLen) ⟨none, 0, recvBufLen, false⟩
  | skipped {r : Receiver} (released : r.recvBuf = none)
      (stray : r.stray = true) : Within limits .skipped r

/-- What a piece leads to, with which a message is at `segment`. -/
structure Turned (vendor : Vendor) (limits : Limits) (segment : Segment)
    (cb : Callback) (next : Receiver) (events : List (Event Notice)) :
    Prop where
  sound : ∀ event ∈ events, event.sound
  finished : cb.final = true → next.recvBuf = none ∧
    notified events = segment.texts.flatMap fun text =>
      notices vendor (cString text) cb.finished cb.finishedThen
  onward : cb.final = false →
    notified events = [] ∧ Within limits segment next

section Turn

variable {cb : Callback} {segment : Segment}

theorem turned_without (within : Within limits segment r)
    (released : r.recvBuf = none) (none : segment.texts = []) :
    Turned vendor limits segment cb (copy vendor r cb).1
      (copy vendor r cb).2 := by
  have skipped : copy vendor r cb = (r, []) := by
    simp [copy, released]
  rw [skipped]
  constructor
  · simp
  · intro _
    rw [none]
    exact ⟨released, rfl⟩
  · intro _
    exact ⟨rfl, within⟩

theorem turned_taking (taking : Taking r held block)
    (room : held.length + cb.chunk.length ≤ block.length)
    (length : r.recvBufLen =
      blockLength limits first (held ++ cb.chunk).length)
    (fitting : fits limits first (held ++ cb.chunk).length) :
    Turned vendor limits (.held first (held ++ cb.chunk)) cb
      (copy vendor r cb).1 (copy vendor r cb).2 := by
  have copied : Copied vendor _ cb _ _ _ := copied taking cb room
  constructor
  · exact copied.sound
  · intro final
    obtain ⟨released, notice⟩ := copied.finished final
    refine ⟨released, ?_⟩
    rw [notice]
    exact (List.flatMap_singleton ..).symm
  · intro more
    obtain ⟨silent, kept, block', taking'⟩ := copied.onward more
    exact ⟨silent, .held taking' (kept.trans length) fitting⟩

end Turn

theorem Taking.grown (taking : Taking r held block) (cb : Callback)
    (short : r.recvBufLen - held.length < cb.chunk.length)
    (within : r.recvBufLen + limits.reallocSize ≤ limits.maxRecvBufSize)
    (allocated : cb.allocated = true)
    (small : cb.chunk.length ≤ limits.reallocSize) :
    ∃ block', Taking (makeRoom limits r cb) held block' ∧
      held.length + cb.chunk.length ≤ block'.length ∧
      (makeRoom limits r cb).recvBufLen =
        r.recvBufLen + limits.reallocSize := by
  obtain ⟨stored, length, cursor, inside, content, inPlace⟩ := taking
  have grown : (block ++ List.replicate
      (r.recvBufLen + limits.reallocSize - block.length) (0 : UInt8)).length =
        r.recvBufLen + limits.reallocSize := by
    rw [List.length_append, List.length_replicate]
    omega
  refine ⟨block ++ List.replicate
    (r.recvBufLen + limits.reallocSize - block.length) 0, ?_⟩
  unfold makeRoom
  rw [cursor, if_pos ⟨inPlace, short⟩]
  simp only [if_neg (Nat.not_lt.mpr within), allocated, if_true, stored,
    Option.getD_some]
  refine ⟨⟨rfl, grown, rfl, ?_, ?_, inPlace⟩, ?_, trivial⟩
  · rw [grown]
    omega
  · rw [List.take_append_of_le_length inside]
    exact content
  · rw [grown]
    omega

/-- A piece of a message of which something is held. -/
theorem turned_held (positive : 0 < limits.reallocSize)
    (taking : Taking r held block)
    (length : r.recvBufLen = blockLength limits first held.length)
    (fitting : fits limits first held.length) (piece : Piece)
    (begins final : Bool)
    (small : piece.chunk.length ≤ limits.reallocSize) :
    let cb := piece.callback false begins final
    Turned vendor limits ((Segment.held first held).take limits piece) cb
      (copy vendor (makeRoom limits r cb) cb).1
      (copy vendor (makeRoom limits r cb) cb).2 := by
  intro cb
  have started : first ≤ r.recvBufLen := length ▸ Nat.le_add_right _ _
  have next := blockLength_add first held.length positive small
  rw [← length, ← List.length_append] at next
  unfold fits at fitting
  rw [← length] at fitting
  by_cases short : r.recvBufLen - held.length < piece.chunk.length
  · rw [if_pos short] at next
    by_cases beyond : limits.maxRecvBufSize < r.recvBufLen + limits.reallocSize
    · have gone : makeRoom limits r cb = ⟨none, 0, 0, false⟩ := by
        unfold makeRoom
        rw [taking.cursor, if_pos ⟨taking.inPlace, short⟩]
        simp only [if_pos beyond]
      have unfit : ¬ fits limits first (held ++ piece.chunk).length := by
        unfold fits
        rw [next]
        omega
      rw [gone, Segment.take, if_pos unfit]
      exact turned_without .without rfl rfl
    · have further : fits limits first (held ++ piece.chunk).length := by
        unfold fits
        rw [next]
        omega
      cases allocated : piece.allocated with
      | true =>
          obtain ⟨block', taking', room, longer⟩ := taking.grown cb short
            (Nat.not_lt.mp beyond) allocated small
          rw [Segment.take, if_neg (not_not.mpr further),
            if_pos (.inr allocated)]
          exact turned_taking taking' room (longer.trans next.symm) further
      | false =>
          have lost : makeRoom limits r cb =
              { r with recvBuf := none, stray := true } := by
            unfold makeRoom
            rw [taking.cursor, if_pos ⟨taking.inPlace, short⟩]
            have failed : cb.allocated = false := allocated
            simp [beyond, failed, taking.stored]
          have grows : ¬ (blockLength limits first
              (held ++ piece.chunk).length =
                blockLength limits first held.length ∨
                  piece.allocated = true) := by
            rw [next, ← length, allocated]
            rintro (same | made)
            · omega
            · cases made
          rw [lost, Segment.take, if_neg (not_not.mpr further), if_neg grows]
          exact turned_without (.skipped rfl rfl) rfl rfl
  · rw [if_neg short] at next
    have same : makeRoom limits r cb = r := by
      unfold makeRoom
      rw [taking.cursor, if_neg fun both => short both.2]
    have further : fits limits first (held ++ piece.chunk).length := by
      unfold fits
      rw [next]
      exact fitting
    have room : held.length + cb.chunk.length ≤ block.length := by
      have inside := taking.inside
      rw [taking.length] at inside ⊢
      exact Nat.add_le_of_le_sub' inside (Nat.not_lt.mp short)
    rw [same, Segment.take, if_neg (not_not.mpr further),
      if_pos (.inl (next.trans length))]
    exact turned_taking taking room next.symm further

/-- A piece of a message of which nothing is held. -/
theorem turned_released (positive : 0 < limits.reallocSize)
    (recvBufLen : Nat) (piece : Piece) (begins final : Bool)
    (small : piece.chunk.length ≤ limits.reallocSize) :
    let cb := piece.callback false begins final
    let r : Receiver := ⟨none, 0, recvBufLen, false⟩
    Turned vendor limits ((Segment.without recvBufLen).take limits piece) cb
      (copy vendor (makeRoom limits r cb) cb).1
      (copy vendor (makeRoom limits r cb) cb).2 := by
  intro cb r
  by_cases short : piece.chunk.length ≤ recvBufLen
  · have same : makeRoom limits r cb = r := by
      unfold makeRoom
      rw [if_neg fun both => Nat.not_lt.mpr short both.2]
    rw [same, Segment.take, if_pos short]
    exact turned_without .without rfl rfl
  · have asked : r.stray = false ∧
        r.recvBufLen - r.recvBufPtr < cb.chunk.length :=
      ⟨rfl, Nat.not_le.mp short⟩
    have grown : blockLength limits recvBufLen piece.chunk.length =
        recvBufLen + limits.reallocSize := by
      have none := blockLength_of_le positive (Nat.le_refl recvBufLen)
      have some : recvBufLen - recvBufLen <
          piece.chunk.length - recvBufLen := by omega
      have next := blockLength_add recvBufLen recvBufLen positive
        ((Nat.sub_le piece.chunk.length recvBufLen).trans small)
      rw [none, if_pos some] at next
      rwa [Nat.add_sub_cancel' (by omega)] at next
    by_cases beyond : limits.maxRecvBufSize < recvBufLen + limits.reallocSize
    · have gone : makeRoom limits r cb = ⟨none, 0, 0, false⟩ := by
        unfold makeRoom
        rw [if_pos asked]
        simp only [r, if_pos beyond]
      have unfit : ¬ fits limits recvBufLen piece.chunk.length := by
        unfold fits
        rw [grown]
        omega
      rw [gone, Segment.take, if_neg short, if_pos unfit]
      exact turned_without .without rfl rfl
    · have further : fits limits recvBufLen piece.chunk.length := by
        unfold fits
        rw [grown]
        omega
      rw [Segment.take, if_neg short, if_neg (not_not.mpr further)]
      cases allocated : piece.allocated with
      | true =>
          have made : makeRoom limits r cb =
              ⟨some (List.replicate (recvBufLen + limits.reallocSize) 0), 0,
                recvBufLen + limits.reallocSize, false⟩ := by
            unfold makeRoom
            rw [if_pos asked]
            have succeeded : cb.allocated = true := allocated
            simp [r, beyond, succeeded]
          have taking : Taking
              ⟨some (List.replicate (recvBufLen + limits.reallocSize) 0), 0,
                recvBufLen + limits.reallocSize, false⟩ ([] : Bytes)
              (List.replicate (recvBufLen + limits.reallocSize) 0) := by
            constructor <;> simp
          have room : ([] : Bytes).length + cb.chunk.length ≤
              (List.replicate (recvBufLen + limits.reallocSize)
                (0 : UInt8)).length := by
            have small' : cb.chunk.length ≤ limits.reallocSize := small
            rw [List.length_replicate, List.length_nil]
            omega
          rw [made, if_pos rfl]
          exact turned_taking taking room grown.symm further
      | false =>
          have same : makeRoom limits r cb = r := by
            unfold makeRoom
            rw [if_pos asked]
            have failed : cb.allocated = false := allocated
            simp [r, beyond, failed]
          rw [same, if_neg Bool.false_ne_true]
          exact turned_without .without rfl rfl

theorem turned (positive : 0 < limits.reallocSize) {segment : Segment}
    (within : Within limits segment r) (piece : Piece) (begins final : Bool)
    (small : piece.chunk.length ≤ limits.reallocSize) :
    let cb := piece.callback false begins final
    Turned vendor limits (segment.take limits piece) cb
      (copy vendor (makeRoom limits r cb) cb).1
      (copy vendor (makeRoom limits r cb) cb).2 := by
  cases within with
  | held taking length fitting =>
      exact turned_held positive taking length fitting piece begins final
        small
  | without => exact turned_released positive _ piece begins final small
  | skipped released stray =>
      intro cb
      have same : makeRoom limits r cb = r := by
        simp [makeRoom, stray]
      rw [same]
      exact turned_without (.skipped released stray) released rfl

theorem turned_later (positive : 0 < limits.reallocSize) {segment : Segment}
    (within : Within limits segment r) (piece : Piece) (final : Bool)
    (small : piece.chunk.length ≤ limits.reallocSize) :
    let cb := piece.callback false false final
    Turned vendor limits (segment.take limits piece) cb
      (receive vendor limits r cb).1 (receive vendor limits r cb).2 :=
  turned positive within piece false final small

theorem turned_first (positive : 0 < limits.reallocSize)
    (released : r.recvBuf = none) (piece : Piece) (final : Bool)
    (small : piece.chunk.length ≤ limits.reallocSize) :
    let cb := piece.callback false true final
    let announced := piece.chunk.length + piece.remaining
    Turned vendor limits
      ((Segment.begin announced piece.allocated).take limits piece) cb
      (receive vendor limits r cb).1 (receive vendor limits r cb).2 := by
  intro cb announced
  let started : Receiver :=
    ⟨if piece.allocated then some (List.replicate announced 0) else none, 0,
      announced, false⟩
  have within : Within limits (.begin announced piece.allocated) started := by
    have none : blockLength limits announced 0 = announced :=
      blockLength_of_le positive (Nat.zero_le _)
    cases allocated : piece.allocated with
    | true =>
        have taking : Taking started [] (List.replicate announced 0) := by
          constructor <;> simp [started, allocated]
        refine .held taking none.symm ?_
        show blockLength limits announced 0 ≤ _
        rw [none]
        exact Nat.le_max_left _ _
    | false =>
        have without : started = ⟨.none, 0, announced, false⟩ := by
          simp [started, allocated]
        rw [without]
        exact .without
  have turned : Turned vendor limits _ cb _ _ :=
    turned positive within piece true final small
  have received : receive vendor limits r cb =
      ((copy vendor (makeRoom limits started cb) cb).1,
        .asserted r.recvBuf.isNone ::
          (copy vendor (makeRoom limits started cb) cb).2) := rfl
  rw [received, released]
  constructor
  · intro event member
    rcases List.mem_cons.mp member with rfl | later
    · rfl
    · exact turned.sound event later
  · exact turned.finished
  · exact turned.onward

/-- What the callbacks of a message lead to. -/
structure Ended (told : List Notice) (next : Receiver)
    (events : List (Event Notice)) : Prop where
  released : next.recvBuf = none
  sound : ∀ event ∈ events, event.sound
  told : notified events = told

theorem Turned.ended {segment : Segment} {cb : Callback} {next : Receiver}
    {events : List (Event Notice)}
    (turned : Turned vendor limits segment cb next events)
    (final : cb.final = true) :
    Ended (segment.texts.flatMap fun text =>
      notices vendor (cString text) cb.finished cb.finishedThen) next
        events := by
  obtain ⟨released, notice⟩ := turned.finished final
  exact ⟨released, turned.sound, notice⟩

theorem Ended.after {told : List Notice} {last : Receiver}
    {events later : List (Event Notice)} (ended : Ended told last later)
    (sound : ∀ event ∈ events, event.sound) (silent : notified events = []) :
    Ended told last (events ++ later) := by
  constructor
  · exact ended.released
  · intro event member
    rcases List.mem_append.mp member with before | after
    · exact sound event before
    · exact ended.sound event after
  · rw [notified_append, silent]
    exact ended.told

/-- By induction on the pieces still to come, `last` among them. -/
theorem ended_continuation (enough : 1024 ≤ limits.reallocSize)
    {segment : Segment} (within : Within limits segment r) {rest : List Piece}
    (more : rest ≠ []) (fallback : Piece) :
    Ended (((rest.foldl (Segment.take limits) segment).texts).flatMap fun
        text => notices vendor (cString text) (rest.getLastD fallback).finished
          (rest.getLastD fallback).finishedThen)
      (receiveAll vendor limits r (continuation false rest)).1
      (receiveAll vendor limits r (continuation false rest)).2 := by
  induction rest generalizing r segment fallback with
  | nil => exact (more rfl).elim
  | cons piece rest ih =>
      have turn : Turned vendor limits _ _ _ _ :=
        turned_later (by omega) within piece rest.isEmpty
          (piece.small.trans enough)
      rw [List.foldl_cons, List.getLastD_cons]
      cases rest with
      | nil =>
          have ended := turn.ended rfl
          simp only [continuation, receiveAll, List.append_nil]
          exact ended
      | cons another rest =>
          obtain ⟨silent, within'⟩ := turn.onward rfl
          have ended := ih within' (by simp) piece
          exact ended.after turn.sound silent

theorem receiveAll_binary (r : Receiver) (rest : List Piece) :
    receiveAll vendor limits r (continuation true rest) = (r, []) := by
  induction rest with
  | nil => rfl
  | cons piece rest ih =>
      have skipped : receive vendor limits r
          (piece.callback true false rest.isEmpty) = (r, []) := rfl
      simp only [continuation, receiveAll, skipped, ih, List.append_nil]

theorem ended_message (enough : 1024 ≤ limits.reallocSize)
    (released : r.recvBuf = none) (message : Message) :
    Ended (message.notices vendor limits)
      (receiveAll vendor limits r message.callbacks).1
      (receiveAll vendor limits r message.callbacks).2 := by
  obtain ⟨binary, first, rest⟩ := message
  cases binary with
  | true =>
      have skipped : receive vendor limits r
          (first.callback true true rest.isEmpty) = (r, []) := rfl
      simp only [Message.callbacks, receiveAll, skipped, receiveAll_binary,
        List.append_nil]
      exact ⟨released, by simp, rfl⟩
  | false =>
      have turn : Turned vendor limits _ _ _ _ :=
        turned_first (by omega) released first rest.isEmpty
          (first.small.trans enough)
      cases rest with
      | nil =>
          have ended := turn.ended rfl
          simp only [Message.callbacks, continuation, receiveAll,
            List.append_nil]
          exact ended
      | cons piece rest =>
          obtain ⟨silent, within⟩ := turn.onward rfl
          have more : piece :: rest ≠ [] := by simp
          refine Ended.after ?_ turn.sound silent
          exact ended_continuation enough within more first

theorem receiveAll_append (r : Receiver) (callbacks later : List Callback) :
    receiveAll vendor limits r (callbacks ++ later) =
      ((receiveAll vendor limits (receiveAll vendor limits r callbacks).1
          later).1,
        (receiveAll vendor limits r callbacks).2 ++
          (receiveAll vendor limits (receiveAll vendor limits r callbacks).1
            later).2) := by
  induction callbacks generalizing r with
  | nil => rfl
  | cons cb rest ih =>
      simp only [List.cons_append, receiveAll, ih, List.append_assoc]

theorem ended_stream (enough : 1024 ≤ limits.reallocSize)
    (released : r.recvBuf = none) (messages : List Message) :
    Ended (messages.flatMap (Message.notices vendor limits))
      (receiveAll vendor limits r (messages.flatMap Message.callbacks)).1
      (receiveAll vendor limits r (messages.flatMap Message.callbacks)).2 := by
  induction messages generalizing r with
  | nil => exact ⟨released, by simp [receiveAll], rfl⟩
  | cons message messages ih =>
      have ended : Ended (message.notices vendor limits) _ _ :=
        ended_message enough released message
      obtain ⟨released', sound, told⟩ := ih ended.released
      rw [List.flatMap_cons, List.flatMap_cons, receiveAll_append]
      refine ⟨released', ?_, ?_⟩
      · intro event member
        rcases List.mem_append.mp member with here | later
        · exact ended.sound event here
        · exact sound event later
      · rw [notified_append, told, ended.told]

end Pieces

section Segments

variable {limits : Limits} {first total : Nat}

/-- What is passed on is the end of what came. -/
theorem Segment.texts_take {segment : Segment} {came : Bytes}
    (ends : ∀ text ∈ segment.texts, text <:+ came) (piece : Piece) :
    ∀ text ∈ (segment.take limits piece).texts,
      text <:+ came ++ piece.chunk := by
  intro text member
  cases segment with
  | held first bytes =>
      unfold Segment.take at member
      dsimp only at member
      split at member
      · cases member
      · split at member
        · rw [List.mem_singleton.mp member]
          have here := ends bytes (List.mem_singleton_self _)
          obtain ⟨gone, rfl⟩ := here
          exact ⟨gone, (List.append_assoc ..).symm⟩
        · cases member
  | without recvBufLen =>
      unfold Segment.take at member
      dsimp only at member
      split at member
      · cases member
      · split at member
        · cases member
        · split at member
          · rw [List.mem_singleton.mp member]
            exact ⟨came, rfl⟩
          · cases member
  | skipped => cases member

theorem Segment.texts_foldl {segment : Segment} {came : Bytes}
    (ends : ∀ text ∈ segment.texts, text <:+ came) (pieces : List Piece) :
    ∀ text ∈ (pieces.foldl (Segment.take limits) segment).texts,
      text <:+ came ++ pieces.flatMap fun piece => piece.chunk := by
  induction pieces generalizing segment came with
  | nil => simpa using ends
  | cons piece pieces ih =>
      rw [List.foldl_cons, List.flatMap_cons, ← List.append_assoc]
      exact ih (Segment.texts_take ends piece)

theorem passedOn_suffix (message : Message) :
    ∀ text ∈ passedOn limits message, text <:+ message.payload := by
  intro text member
  unfold passedOn at member
  split at member
  · cases member
  · have ends : ∀ text ∈ (Segment.begin message.announced
        message.first.allocated).texts, text <:+ [] := by
      intro text member
      unfold Segment.begin at member
      split at member
      · cases List.mem_singleton.mp member
        exact List.suffix_rfl
      · cases member
    exact Segment.texts_foldl ends message.pieces text member

theorem length_passedOn (message : Message) :
    (passedOn limits message).length ≤ 1 := by
  unfold passedOn
  split
  · exact Nat.zero_le _
  · cases message.segment limits with
    | held => exact Nat.le_refl _
    | without | skipped => exact Nat.zero_le _

theorem fits_of_more {more : Nat} (fitting : fits limits first more)
    (less : total ≤ more) : fits limits first total :=
  (blockLength_mono less).trans fitting

/-- Little less than the limit is lost. -/
theorem lost_of_unfit (positive : 0 < limits.reallocSize)
    (beyond : ¬ fits limits first total) :
    limits.maxRecvBufSize < total + limits.reallocSize := by
  rcases Nat.le_total total first with within | longer
  · have kept := blockLength_of_le positive within
    rw [fits, kept] at beyond
    exact absurd (Nat.le_max_left _ _) beyond
  · have rounded := Nat.div_mul_le_self
      (total - first + (limits.reallocSize - 1)) limits.reallocSize
    unfold fits blockLength at beyond
    omega

/-- What the handler has when every allocation succeeded, and `came` is what the
message has brought. -/
inductive Share (limits : Limits) (first : Nat) (came : Bytes) :
    Segment → Prop where
  | whole (fitting : fits limits first came.length) :
      Share limits first came (.held first came)
  | cut {gone held : Bytes} (split : came = gone ++ held) (some : held ≠ [])
      (lost : limits.maxRecvBufSize < gone.length + limits.reallocSize)
      (beyond : ¬ fits limits first came.length) :
      Share limits first came (.held 0 held)
  | nothing (lost : limits.maxRecvBufSize < came.length + limits.reallocSize)
      (beyond : ¬ fits limits first came.length) :
      Share limits first came (.without 0)

theorem Share.take (positive : 0 < limits.reallocSize) {came : Bytes}
    {segment : Segment} (share : Share limits first came segment)
    (piece : Piece) (allocated : piece.allocated = true) :
    Share limits first (came ++ piece.chunk)
      (segment.take limits piece) := by
  have longer : came.length ≤ (came ++ piece.chunk).length :=
    (List.prefix_append _ _).length_le
  cases share with
  | whole fitting =>
      unfold Segment.take
      dsimp only
      split
      · next beyond => exact .nothing (lost_of_unfit positive beyond) beyond
      · next further =>
          rw [if_pos (.inr allocated)]
          exact .whole (not_not.mp further)
  | @cut gone held split some lost beyond =>
      have beyond' : ¬ fits limits first (came ++ piece.chunk).length :=
        fun fitting => beyond (fits_of_more fitting longer)
      have split' : came ++ piece.chunk = gone ++ (held ++ piece.chunk) := by
        rw [split, List.append_assoc]
      unfold Segment.take
      dsimp only
      split
      · refine .nothing ?_ beyond'
        rw [split', List.length_append]
        omega
      · rw [if_pos (.inr allocated)]
        exact .cut split' (by simp [some]) lost beyond'
  | nothing lost beyond =>
      have beyond' : ¬ fits limits first (came ++ piece.chunk).length :=
        fun fitting => beyond (fits_of_more fitting longer)
      have lost' : limits.maxRecvBufSize <
          (came ++ piece.chunk).length + limits.reallocSize := by omega
      unfold Segment.take
      dsimp only
      split
      · exact .nothing lost' beyond'
      · next some =>
          split
          · exact .nothing lost' beyond'
          · refine .cut rfl (fun empty => some ?_) lost beyond'
            rw [empty]
            exact Nat.le_refl 0

theorem Share.foldl (positive : 0 < limits.reallocSize) {came : Bytes}
    {segment : Segment} (share : Share limits first came segment)
    {pieces : List Piece}
    (allocated : ∀ piece ∈ pieces, piece.allocated = true) :
    Share limits first (came ++ pieces.flatMap fun piece => piece.chunk)
      (pieces.foldl (Segment.take limits) segment) := by
  induction pieces generalizing came segment with
  | nil => simpa using share
  | cons piece pieces ih =>
      rw [List.foldl_cons, List.flatMap_cons, ← List.append_assoc]
      refine ih (share.take positive piece (allocated piece (by simp))) ?_
      exact fun later member => allocated later (List.mem_cons_of_mem _ member)

theorem share_segment (positive : 0 < limits.reallocSize) (message : Message)
    (allocated : ∀ piece ∈ message.pieces, piece.allocated = true) :
    Share limits message.announced message.payload
      (message.segment limits) := by
  have none : blockLength limits message.announced 0 = message.announced :=
    blockLength_of_le positive (Nat.zero_le _)
  have made : message.first.allocated = true :=
    allocated message.first (by simp [Message.pieces])
  have begun : Share limits message.announced []
      (.begin message.announced message.first.allocated) := by
    rw [made]
    apply Share.whole
    show blockLength _ _ 0 ≤ _
    rw [none]
    exact Nat.le_max_left _ _
  exact begun.foldl positive allocated

end Segments

def recvLimits : Limits :=
  { maxRecvBufSize := 65 * 1024 * 10
    reallocSize := 8 * 1024 }

/-- The end of a message that is passed on when the allocations succeed. -/
structure Truncated (limits : Limits) (message : Message) : Prop where
  whole : passedOn limits message = [message.payload] ↔
    fits limits message.announced message.payload.length
  cut : ¬ fits limits message.announced message.payload.length →
    ∃ gone kept, message.payload = gone ++ kept ∧
      limits.maxRecvBufSize < gone.length + limits.reallocSize ∧
      passedOn limits message = if kept.isEmpty then [] else [kept]

theorem truncated (message : Message) (text : message.binary = false)
    (allocated : ∀ piece ∈ message.pieces, piece.allocated = true) :
    Truncated recvLimits message := by
  have share := share_segment (by decide : 0 < recvLimits.reallocSize) message
    allocated
  have passed : passedOn recvLimits message =
      (message.segment recvLimits).texts := by
    simp [passedOn, text]
  generalize message.segment recvLimits = segment at share passed
  constructor
  · rw [passed]
    cases share with
    | whole fitting => exact iff_of_true rfl fitting
    | @cut gone held split some lost beyond =>
        refine iff_of_false (fun same => ?_) beyond
        have missing : 0 < gone.length := by
          simp only [recvLimits] at lost
          omega
        have shorter := congrArg List.length (List.cons.inj same).1
        rw [split, List.length_append] at shorter
        omega
    | nothing lost beyond =>
        refine iff_of_false (fun same => ?_) beyond
        cases same
  · intro beyond
    rw [passed]
    cases share with
    | whole fitting => exact absurd fitting beyond
    | @cut gone held split some lost _ =>
        refine ⟨gone, held, split, lost, ?_⟩
        simp [Segment.texts, some]
    | nothing lost _ =>
        exact ⟨message.payload, [], (List.append_nil _).symm, lost, rfl⟩

/-- For every stream of messages, in every split into pieces and with every
outcome of the allocations: the assertion holds, no copy goes beyond its block,
and of each message its end is passed on, or nothing; mod_ibm_transcribe then
closes the connection if it is finished.  When the allocations succeed that is
the message exactly if its block need not grow beyond the limit.  Otherwise it
lacks at least some 640 KB, and is nothing if the message was given up at its
end. -/
theorem messages_truncated (vendor : Vendor) (recvBufLen : Nat)
    (messages : List Message) :
    let outcome := receiveAll vendor recvLimits (.fresh recvBufLen)
      (messages.flatMap Message.callbacks)
    outcome.1.recvBuf = none ∧
    (∀ event ∈ outcome.2, event.sound) ∧
    notified outcome.2 =
      messages.flatMap (Message.notices vendor recvLimits) ∧
    ∀ message : Message,
      (passedOn recvLimits message).length ≤ 1 ∧
      (∀ text ∈ passedOn recvLimits message, text <:+ message.payload) ∧
      (message.binary = false →
        (∀ piece ∈ message.pieces, piece.allocated = true) →
        Truncated recvLimits message) := by
  have ended : Ended (messages.flatMap (Message.notices vendor recvLimits))
      _ _ :=
    ended_stream (by decide) (rfl : (Receiver.fresh recvBufLen).recvBuf = none)
      messages
  refine ⟨ended.released, ended.sound, ended.told, ?_⟩
  intro message
  exact ⟨length_passedOn message, passedOn_suffix message, truncated message⟩

end DrachtioModules.AudioPipe.Truncation

import DrachtioModules.Transcribe.DropOldest

/-!
# The SimpleBuffer with one cursor

mod_nvidia_transcribe, mod_nuance_transcribe, mod_soniox_transcribe and
mod_cobalt_transcribe hold audio for a stream that is not connected yet in an
older `SimpleBuffer`, which reads from the cursor it writes at.  Their
`GStreamer`s differ only in how a request is made up.
-/

namespace DrachtioModules.Transcribe.OneCursor

structure SimpleBuffer where
  data : Bytes
  numItems : UInt32
  chunkSize : Nat
  numChunks : Nat
  nextWrite : Nat
  deriving DecidableEq, Repr

namespace SimpleBuffer

/-- `new` leaves the memory as it was. -/
def create (fresh : Bytes) (chunkSize numChunks : Nat) : SimpleBuffer :=
  { data := fresh
    numItems := 0
    chunkSize := chunkSize
    numChunks := numChunks
    nextWrite := 0 }

def advance (b : SimpleBuffer) : Nat :=
  let offset := b.nextWrite / b.chunkSize
  if b.numChunks - 1 ≤ offset then 0 else b.nextWrite + b.chunkSize

/-- The loop body of `add`. -/
def addChunk (b : SimpleBuffer) (chunk : Bytes) : SimpleBuffer :=
  { b with
    data := Transcribe.SimpleBuffer.copyTo b.data b.nextWrite chunk
    numItems :=
      if b.numItems.toNat < b.numChunks then b.numItems + 1 else b.numItems
    nextWrite := b.advance }

def addChunks (b : SimpleBuffer) : Nat → Bytes → SimpleBuffer
  | 0, _ => b
  | count + 1, data =>
      addChunks (b.addChunk (data.take b.chunkSize)) count
        (data.drop b.chunkSize)

def add (b : SimpleBuffer) (data : Bytes) : SimpleBuffer :=
  if data.length % b.chunkSize ≠ 0 then b
  else b.addChunks (data.length / b.chunkSize) data

/-- The returned pointer, as an offset.  `numItems` is decremented in the test,
below zero too. -/
def getNextChunk (b : SimpleBuffer) : Option Nat × SimpleBuffer :=
  if b.numItems = 0 then (none, { b with numItems := b.numItems - 1 })
  else
    (some b.nextWrite,
      { b with numItems := b.numItems - 1, nextWrite := b.advance })

/-- The chunk a returned pointer points to. -/
def chunkAt (b : SimpleBuffer) (offset : Nat) : Bytes :=
  (b.data.drop offset).take b.chunkSize

theorem getNextChunk_some {b next : SimpleBuffer} {offset : Nat}
    (given : b.getNextChunk = (some offset, next)) :
    b.numItems ≠ 0 ∧ offset = b.nextWrite ∧
      next = { b with numItems := b.numItems - 1, nextWrite := b.advance } := by
  unfold getNextChunk at given
  split at given <;> cases given
  exact ⟨‹_›, rfl, rfl⟩

theorem getNextChunk_fewer {b next : SimpleBuffer} {offset : Nat}
    (given : b.getNextChunk = (some offset, next)) :
    next.numItems.toNat + 1 = b.numItems.toNat := by
  obtain ⟨used, -, rfl⟩ := getNextChunk_some given
  have positive : b.numItems.toNat ≠ 0 :=
    fun zero => used (UInt32.toNat_inj.mp zero)
  have one : (1 : UInt32) ≤ b.numItems := by
    rw [UInt32.le_iff_toNat_le]
    exact Nat.one_le_iff_ne_zero.mpr positive
  show (b.numItems - 1).toNat + 1 = b.numItems.toNat
  rw [UInt32.toNat_sub_of_le _ _ one]
  show b.numItems.toNat - 1 + 1 = b.numItems.toNat
  omega

end SimpleBuffer

/-- What is written to the stream. -/
inductive Request where
  | config
  | audio (data : Bytes)
  deriving DecidableEq, Repr

structure GStreamer where
  connected : Bool
  audioBuffer : SimpleBuffer
  deriving DecidableEq, Repr

/-- `CHUNKSIZE`, and the chunks of a buffer. -/
abbrev chunksize : Nat := 320
abbrev chunks : Nat := 15

/-- What the allocation of a buffer holds before anything is added. -/
structure Memory where
  data : Bytes
  sized : data.length = chunksize * chunks

namespace GStreamer

def create (fresh : Memory) : GStreamer :=
  { connected := false
    audioBuffer := .create fresh.data chunksize chunks }

def write (g : GStreamer) (data : Bytes) : GStreamer × List Request :=
  if !g.connected then
    if data.length % chunksize = 0 then
      ({ g with audioBuffer := g.audioBuffer.add data }, [])
    else (g, [])
  else (g, [.audio data])

/-- The loop of `connect`. -/
def sendBuffered (g : GStreamer) : GStreamer × List Request :=
  match _ : g.audioBuffer.getNextChunk with
  | (none, audioBuffer) => ({ g with audioBuffer := audioBuffer }, [])
  | (some p, audioBuffer) =>
      let (_, sent) := write g (audioBuffer.chunkAt p)
      let (next, later) :=
        sendBuffered { g with audioBuffer := audioBuffer }
      (next, sent ++ later)
termination_by g.audioBuffer.numItems.toNat
decreasing_by
  have fewer := SimpleBuffer.getNextChunk_fewer ‹_›
  exact Nat.lt_of_lt_of_eq (Nat.lt_succ_self _) fewer

def connect (g : GStreamer) : GStreamer × List Request :=
  let g := { g with connected := true }
  if g.audioBuffer.numItems ≠ 0 then
    let (next, sent) := g.sendBuffered
    (next, .config :: sent)
  else (g, [.config])

end GStreamer

/-- A frame of the media bug that has data, as the loop passes over one whose
`datalen` is 0: what the VAD, where there is one, says of it, and its samples at
the recogniser's rate. -/
structure Frame where
  startTalking : Bool
  data : Bytes
  deriving DecidableEq, Repr

/-- `*_speech_session_init`: with a VAD the connection waits for speech. -/
def sessionInit (fresh : Memory) (vad : Bool) : GStreamer × List Request :=
  if vad then (.create fresh, []) else (GStreamer.create fresh).connect

/-- `*_speech_frame`, for one frame that it reads. -/
def speechFrame (vad : Bool) (g : GStreamer) (frame : Frame) :
    GStreamer × List Request :=
  let (g, first) :=
    if vad && !g.connected && frame.startTalking then g.connect else (g, [])
  let (g, later) := g.write frame.data
  (g, first ++ later)

def speechFrames (vad : Bool) (g : GStreamer) :
    List Frame → GStreamer × List Request
  | [] => (g, [])
  | frame :: frames =>
      let (g, sent) := speechFrame vad g frame
      let (last, later) := speechFrames vad g frames
      (last, sent ++ later)

/-- The requests of a session, in order. -/
def requests (fresh : Memory) (vad : Bool) (frames : List Frame) :
    List Request :=
  let (g, first) := sessionInit fresh vad
  first ++ (speechFrames vad g frames).2

namespace SimpleBuffer

/-- A buffer with a read cursor of its own: both cursors stand at the same
chunk, and so all chunks are in use. -/
def full (b : SimpleBuffer) : Transcribe.SimpleBuffer :=
  { data := b.data
    numItems := b.numChunks
    chunkSize := b.chunkSize
    numChunks := b.numChunks
    nextWrite := b.nextWrite
    nextRead := b.nextWrite }

theorem full_addChunk (b : SimpleBuffer) (chunk : Bytes) :
    (b.addChunk chunk).full = b.full.addChunk chunk := by
  simp [full, addChunk, Transcribe.SimpleBuffer.addChunk, advance,
    Transcribe.SimpleBuffer.advance]

theorem full_addChunks (b : SimpleBuffer) (count : Nat) (data : Bytes) :
    (b.addChunks count data).full = b.full.addChunks count data := by
  induction count generalizing b data with
  | zero => rfl
  | succ count ih =>
      rw [addChunks, ih, full_addChunk]
      rfl

theorem full_add (b : SimpleBuffer) (data : Bytes) :
    (b.add data).full = b.full.add data := by
  unfold add Transcribe.SimpleBuffer.add
  show _ = if data.length % b.chunkSize ≠ 0 then b.full else _
  split
  · rfl
  · exact b.full_addChunks _ data

/-- Each chunk is counted until as many are as there is room for. -/
theorem numItems_addChunk {b : SimpleBuffer} {held : Nat}
    (small : b.numChunks < 2 ^ 32)
    (counted : b.numItems.toNat = min held b.numChunks) (chunk : Bytes) :
    (b.addChunk chunk).numItems.toNat = min (held + 1) b.numChunks := by
  unfold addChunk
  split
  · rename_i room
    show (b.numItems + 1).toNat = _
    rw [UInt32.toNat_add]
    show (b.numItems.toNat + 1) % 2 ^ 32 = _
    rw [Nat.mod_eq_of_lt (by omega)]
    omega
  · show b.numItems.toNat = _
    omega

theorem numItems_addChunks {b : SimpleBuffer} {held : Nat}
    (small : b.numChunks < 2 ^ 32)
    (counted : b.numItems.toNat = min held b.numChunks) (count : Nat)
    (data : Bytes) :
    (b.addChunks count data).numItems.toNat =
      min (held + count) b.numChunks := by
  induction count generalizing b held data with
  | zero => exact counted
  | succ count ih =>
      have next := numItems_addChunk small counted (data.take b.chunkSize)
      have rest : (b.addChunks (count + 1) data).numItems.toNat =
          min (held + 1 + count) b.numChunks :=
        ih (b := b.addChunk (data.take b.chunkSize)) small next
          (data.drop b.chunkSize)
      rw [rest]
      omega

/-- Reading is adding once more what stands there already. -/
theorem full_next {b : SimpleBuffer} (formed : b.full.WellFormed)
    (numItems : UInt32) :
    ({ b with numItems := numItems, nextWrite := b.advance } :
      SimpleBuffer).full = b.full.addChunk (b.chunkAt b.nextWrite) := by
  have inside : b.nextWrite + b.chunkSize ≤ b.data.length :=
    formed.write_inside
  have length : ((b.data.drop b.nextWrite).take b.chunkSize).length =
      b.chunkSize := by
    rw [List.length_take, List.length_drop]
    omega
  have kept : Transcribe.SimpleBuffer.copyTo b.data b.nextWrite
      (b.chunkAt b.nextWrite) = b.data := by
    unfold Transcribe.SimpleBuffer.copyTo chunkAt
    rw [length, List.append_assoc, ← List.drop_drop, List.take_append_drop,
      List.take_append_drop]
  simp [full, Transcribe.SimpleBuffer.addChunk, kept, advance,
    Transcribe.SimpleBuffer.advance]

theorem head_chunks {b : SimpleBuffer} (formed : b.full.WellFormed) :
    b.full.chunks.head? = some (b.chunkAt b.nextWrite) := by
  have read : b.nextWrite = b.full.readIndex * b.chunkSize := formed.read
  have used : 0 < b.numChunks := Nat.zero_lt_of_lt formed.inside
  have here : formed.ring.place 0 = b.full.readIndex :=
    Nat.mod_eq_of_lt formed.inside
  rw [formed.chunks_eq, Ring.contents_head _ used, here]
  show some (b.chunkAt (b.full.readIndex * b.chunkSize)) = _
  rw [← read]

/-- What is returned is the chunk at the cursor, which comes last from then
on. -/
structure Gives (b next : SimpleBuffer) (chunk : Bytes) : Prop where
  formed : next.full.WellFormed
  chunkSize : next.chunkSize = b.chunkSize
  numChunks : next.numChunks = b.numChunks
  head : b.full.chunks.head? = some chunk
  turned : next.full.chunks = b.full.chunks.tail ++ [chunk]

theorem gives_of_getNextChunk {b next : SimpleBuffer} {p : Nat}
    (formed : b.full.WellFormed) (positive : 0 < b.chunkSize)
    (given : b.getNextChunk = (some p, next)) :
    b.Gives next (next.chunkAt p) := by
  obtain ⟨-, rfl, rfl⟩ := getNextChunk_some given
  have head := head_chunks formed
  have sized : (b.chunkAt b.nextWrite).length = b.chunkSize := by
    apply formed.length_of_mem_chunks
    exact List.mem_of_mem_head? head
  have counted : b.full.chunks.length = b.full.numChunks :=
    b.full.length_chunks
  have same := full_next formed (b.numItems - 1)
  constructor
  · rw [same]
    exact Transcribe.SimpleBuffer.wellFormed_addChunk formed positive sized
  · rfl
  · rfl
  · exact head
  · rw [same, Transcribe.SimpleBuffer.chunks_addChunk formed positive sized]
    exact rtake_append_singleton _ counted (Nat.zero_lt_of_lt formed.inside)

end SimpleBuffer

/-- From the cursor on, as many chunks as were counted. -/
theorem sendBuffered_eq {g : GStreamer} (connected : g.connected = true)
    (formed : g.audioBuffer.full.WellFormed)
    (positive : 0 < g.audioBuffer.chunkSize) {count : Nat}
    (left : g.audioBuffer.numItems.toNat = count)
    (counted : count ≤ g.audioBuffer.numChunks) :
    g.sendBuffered.1.connected = true ∧
    g.sendBuffered.2 =
      (g.audioBuffer.full.chunks.take count).map Request.audio := by
  induction count generalizing g with
  | zero =>
      have empty : g.audioBuffer.numItems = 0 := UInt32.toNat_inj.mp left
      rw [GStreamer.sendBuffered]
      split
      · exact ⟨connected, rfl⟩
      · rename_i given
        exact absurd empty (SimpleBuffer.getNextChunk_some given).1
  | succ count ih =>
      rw [GStreamer.sendBuffered]
      split
      · rename_i given
        rw [SimpleBuffer.getNextChunk] at given
        split at given
        · rename_i empty
          rw [empty] at left
          cases left
        · cases given
      · rename_i p next given
        have fewer := SimpleBuffer.getNextChunk_fewer given
        have gives := SimpleBuffer.gives_of_getNextChunk formed positive given
        have length : g.audioBuffer.full.chunks.length =
            g.audioBuffer.numChunks := g.audioBuffer.full.length_chunks
        obtain ⟨rest, content⟩ := List.head?_eq_some_iff.mp gives.head
        have turned := gives.turned
        rw [content, List.length_cons] at length
        rw [content, List.tail_cons] at turned
        have positive' : 0 < next.chunkSize := gives.chunkSize ▸ positive
        have counted' : count ≤ next.numChunks :=
          gives.numChunks ▸ Nat.le_of_succ_le counted
        have left' : next.numItems.toNat = count := by omega
        obtain ⟨kept, later⟩ := ih (g := { g with audioBuffer := next })
          connected gives.formed positive' left' counted'
        have sent : (g.write (next.chunkAt p)).2 =
            [.audio (next.chunkAt p)] := by
          rw [GStreamer.write, connected]
          rfl
        refine ⟨kept, ?_⟩
        show (g.write (next.chunkAt p)).2 ++ _ = _
        rw [sent, later, turned, content,
          List.take_append_of_le_length (by omega)]
        rfl

/-- `held` are the chunks that have been added to a buffer. -/
structure Holding (fresh : Memory) (held : List Bytes) (b : SimpleBuffer) :
    Prop where
  formed : b.full.WellFormed
  chunkSize : b.chunkSize = chunksize
  numChunks : b.numChunks = chunks
  content : b.full.chunks = (whole chunksize fresh.data ++ held).rtake chunks
  counted : b.numItems.toNat = min held.length chunks

theorem pieces_eq {size count : Nat} (items : Bytes) :
    pieces size count items = (List.range count).map fun offset =>
      (items.drop (offset * size)).take size := by
  induction count generalizing items with
  | zero => rfl
  | succ count ih =>
      rw [pieces, ih, List.range_succ_eq_map, List.map_cons, List.map_map,
        Nat.zero_mul, List.drop_zero]
      congr 1
      apply List.map_congr_left
      intro offset _
      rw [List.drop_drop, Function.comp, Nat.succ_mul, Nat.add_comm]

theorem length_whole (size : Nat) (items : Bytes) :
    (whole size items).length = items.length / size := by
  rw [whole, pieces_eq, List.length_map, List.length_range]

theorem holding_create (fresh : Memory) :
    Holding fresh [] (.create fresh.data chunksize chunks) := by
  have room : fresh.data.length / chunksize = chunks := by
    rw [fresh.sized]
    rfl
  have formed :
      (SimpleBuffer.create fresh.data chunksize chunks).full.WellFormed := by
    constructor
    · intro
      show 0 < chunksize
      decide
    · exact fresh.sized
    · exact Nat.le_refl _
    · show 0 = 0 / chunksize * chunksize
      decide
    · show 0 / chunksize < chunks
      decide
    · show 0 = (0 / chunksize + chunks) % chunks * chunksize
      decide
  have cells : (SimpleBuffer.create fresh.data chunksize chunks).full.chunks =
      whole chunksize fresh.data := by
    rw [whole, room, pieces_eq]
    apply List.map_congr_left
    intro offset member
    have inside : offset < chunks := List.mem_range.mp member
    show ((fresh.data.drop ((0 / chunksize + offset) % chunks * chunksize)).take
      chunksize) = _
    rw [Nat.zero_div, Nat.zero_add, Nat.mod_eq_of_lt inside]
  refine ⟨formed, rfl, rfl, ?_, rfl⟩
  rw [cells, List.append_nil, rtake_of_length_le]
  rw [length_whole, room]

theorem Holding.add {fresh : Memory} {held : List Bytes} {b : SimpleBuffer}
    (holding : Holding fresh held b) {data : Bytes}
    (fits : data.length % chunksize = 0) :
    Holding fresh (held ++ whole chunksize data) (b.add data) := by
  obtain ⟨formed, chunkSize, numChunks, content, counted⟩ := holding
  have positive : 0 < b.full.chunkSize := by
    show 0 < b.chunkSize
    rw [chunkSize]
    decide
  have exact : data.length % b.full.chunkSize = 0 := by
    show data.length % b.chunkSize = 0
    rw [chunkSize]
    exact fits
  have same := b.full_add data
  have rate : (b.add data).chunkSize = b.chunkSize :=
    congrArg Transcribe.SimpleBuffer.chunkSize same |>.trans
      (b.full.chunkSize_add data)
  have number : (b.add data).numChunks = b.numChunks :=
    congrArg Transcribe.SimpleBuffer.numChunks same |>.trans
      (b.full.numChunks_add data)
  constructor
  · rw [same]
    exact Transcribe.SimpleBuffer.wellFormed_add formed positive data
  · exact rate.trans chunkSize
  · exact number.trans numChunks
  · rw [same, Transcribe.SimpleBuffer.chunks_add formed positive exact, content]
    show ((whole chunksize fresh.data ++ held).rtake chunks ++
      whole b.chunkSize data).rtake b.numChunks = _
    rw [chunkSize, numChunks, rtake_append_rtake, List.append_assoc]
  · have small : b.numChunks < 2 ^ 32 := by
      rw [numChunks]
      decide
    rw [← numChunks] at counted ⊢
    have more := SimpleBuffer.numItems_addChunks small counted
      (data.length / b.chunkSize) data
    rw [SimpleBuffer.add, if_neg (by rw [chunkSize]; simpa using fits), more,
      List.length_append, length_whole, chunkSize]

/-- A frame is kept in whole chunks or not at all. -/
def chunksOf (frames : List Bytes) : List Bytes :=
  (frames.filter (·.length % chunksize = 0)).flatMap (whole chunksize)

section Frames

variable {fresh : Memory} {held : List Bytes} {g : GStreamer}

theorem speechFrames_append (vad : Bool) (g : GStreamer)
    (frames more : List Frame) :
    speechFrames vad g (frames ++ more) =
      ((speechFrames vad (speechFrames vad g frames).1 more).1,
        (speechFrames vad g frames).2 ++
          (speechFrames vad (speechFrames vad g frames).1 more).2) := by
  induction frames generalizing g with
  | nil => rfl
  | cons frame frames ih =>
      simp only [List.cons_append, speechFrames, ih, List.append_assoc]

/-- Once there is a connection, each frame is sent as it is. -/
theorem speechFrames_connected (connected : g.connected = true) (vad : Bool)
    (frames : List Frame) :
    speechFrames vad g frames =
      (g, frames.map fun frame => .audio frame.data) := by
  induction frames with
  | nil => rfl
  | cons frame frames ih =>
      have sent : speechFrame vad g frame = (g, [.audio frame.data]) := by
        simp [speechFrame, GStreamer.write, connected]
      simp only [speechFrames, sent, ih]
      rfl

/-- Before that the frames are held, without speech. -/
theorem speechFrames_quiet (unconnected : g.connected = false)
    (holding : Holding fresh held g.audioBuffer) (before : List Bytes) :
    ∃ next, speechFrames true g (before.map (⟨false, ·⟩)) = (next, []) ∧
      next.connected = false ∧
      Holding fresh (held ++ chunksOf before) next.audioBuffer := by
  induction before generalizing g held with
  | nil =>
      refine ⟨g, rfl, unconnected, ?_⟩
      rw [chunksOf, List.filter_nil, List.flatMap_nil, List.append_nil]
      exact holding
  | cons data before ih =>
      have written : speechFrame true g ⟨false, data⟩ = g.write data := by
        simp [speechFrame]
      by_cases fits : data.length % chunksize = 0
      · have added : g.write data =
            ({ g with audioBuffer := g.audioBuffer.add data }, []) := by
          simp [GStreamer.write, unconnected, fits]
        obtain ⟨next, same, unconnected', holding'⟩ :=
          ih (g := { g with audioBuffer := g.audioBuffer.add data })
            unconnected (holding.add fits)
        refine ⟨next, ?_, unconnected', ?_⟩
        · simp only [List.map_cons, speechFrames, written, added, same]
          rfl
        · rw [chunksOf, List.filter_cons_of_pos (by simpa using fits),
            List.flatMap_cons, ← List.append_assoc]
          exact holding'
      · have dropped : g.write data = (g, []) := by
          simp [GStreamer.write, unconnected, fits]
        obtain ⟨next, same, unconnected', holding'⟩ := ih unconnected holding
        refine ⟨next, ?_, unconnected', ?_⟩
        · simp only [List.map_cons, speechFrames, written, dropped, same]
          rfl
        · rw [chunksOf, List.filter_cons_of_neg (by simpa using fits)]
          exact holding'

theorem connect_eq (holding : Holding fresh held g.audioBuffer) :
    g.connect.1.connected = true ∧
    g.connect.2 = .config ::
      (((whole chunksize fresh.data ++ held).rtake chunks).take
        held.length).map .audio := by
  obtain ⟨formed, chunkSize, numChunks, content, counted⟩ := holding
  have room : ((whole chunksize fresh.data ++ held).rtake chunks).length =
      chunks := by
    rw [← content]
    exact (g.audioBuffer.full.length_chunks).trans numChunks
  have positive : 0 < g.audioBuffer.chunkSize := by
    rw [chunkSize]
    decide
  by_cases empty : g.audioBuffer.numItems = 0
  · have nothing : held.length = 0 := by
      rw [empty] at counted
      have zero : 0 = min held.length 15 := counted
      omega
    rw [GStreamer.connect, if_neg (not_not_intro empty), nothing]
    exact ⟨rfl, rfl⟩
  · obtain ⟨connected, sent⟩ :=
      sendBuffered_eq (g := { g with connected := true }) rfl formed positive
        counted (by rw [numChunks]; exact Nat.min_le_right _ _)
    rw [GStreamer.connect, if_pos empty]
    refine ⟨connected, ?_⟩
    show Request.config :: _ = _
    rw [sent, content]
    congr 2
    rw [List.take_eq_take_iff, room, Nat.min_assoc, Nat.min_self]

end Frames

theorem requests_plain (fresh : Memory) (frames : List Frame) :
    requests fresh false frames =
      .config :: frames.map fun frame => .audio frame.data := by
  obtain ⟨connected, sent⟩ :=
    connect_eq (g := .create fresh) (holding_create fresh)
  show (GStreamer.create fresh).connect.2 ++ _ = _
  rw [sent]
  exact congrArg (Request.config :: ·)
    (congrArg Prod.snd (speechFrames_connected connected false frames))

theorem requests_silent (fresh : Memory) (before : List Bytes) :
    requests fresh true (before.map (⟨false, ·⟩)) = [] := by
  obtain ⟨next, same, -, -⟩ :=
    speechFrames_quiet (g := .create fresh) rfl (holding_create fresh) before
  exact congrArg Prod.snd same

/-- The chunks that connect sends are read one turn on from where they were
added: up to a whole turn, what the memory held before comes first. -/
theorem requests_talking (fresh : Memory) (before : List Bytes)
    (talking : Bytes) (after : List Frame) :
    requests fresh true (before.map (⟨false, ·⟩) ++ ⟨true, talking⟩ :: after) =
      .config :: (((whole chunksize fresh.data ++ chunksOf before).rtake
        chunks).take (chunksOf before).length ++
          talking :: after.map Frame.data).map .audio := by
  obtain ⟨next, same, unconnected, holding⟩ :=
    speechFrames_quiet (g := .create fresh) rfl (holding_create fresh) before
  obtain ⟨connected, sent⟩ := connect_eq holding
  have first : speechFrame true next ⟨true, talking⟩ =
      (next.connect.1, next.connect.2 ++ [.audio talking]) := by
    simp [speechFrame, unconnected, GStreamer.write, connected]
  show (speechFrames true (.create fresh) _).2 = _
  rw [speechFrames_append, same]
  simp only [speechFrames, first, speechFrames_connected connected, sent]
  simp [Function.comp_def]

theorem rtake_append_of_le {items : List Bytes} {bound : Nat}
    (older : List Bytes) (enough : bound ≤ items.length) :
    (older ++ items).rtake bound = items.rtake bound := by
  have beyond : older.length + (items.length - bound) =
      (older ++ items).length - bound := by
    rw [List.length_append]
    omega
  rw [List.rtake, ← beyond, List.drop_length_add_append]
  rfl

/-- Memory of one byte. -/
def Memory.constant (byte : UInt8) : Memory :=
  { data := List.replicate (chunksize * chunks) byte
    sized := List.length_replicate }

theorem whole_constant (byte : UInt8) :
    whole chunksize (Memory.constant byte).data =
      List.replicate chunks (List.replicate chunksize byte) := by
  rw [List.eq_replicate_iff]
  refine ⟨?_, ?_⟩
  · rw [length_whole, (Memory.constant byte).sized]
    rfl
  · intro piece member
    rw [whole, pieces_eq] at member
    obtain ⟨offset, inside, rfl⟩ := List.mem_map.mp member
    have before : offset < chunks := by
      rw [(Memory.constant byte).sized] at inside
      exact List.mem_range.mp inside
    show ((List.replicate (chunksize * chunks) byte).drop _).take _ = _
    rw [List.drop_replicate, List.take_replicate]
    congr 1
    unfold chunksize chunks at before ⊢
    omega

theorem head_constant {held : List Bytes} (byte : UInt8) (some : held ≠ [])
    (few : held.length < chunks) :
    (((whole chunksize (Memory.constant byte).data ++ held).rtake
      chunks).take held.length).head? =
        .some (List.replicate chunksize byte) := by
  have positive : 0 < held.length := List.length_pos_of_ne_nil some
  have excess : (List.replicate chunks (List.replicate chunksize byte) ++
      held).length - chunks = held.length := by
    rw [List.length_append, List.length_replicate]
    omega
  have left : 0 < chunks - held.length := by omega
  rw [whole_constant, List.rtake, excess, List.drop_append_of_le_length
    (by rw [List.length_replicate]; omega), List.drop_replicate,
    List.head?_take, if_neg (by omega), List.head?_append]
  simp [List.head?_replicate, Nat.ne_of_gt left]

/-- With a VAD, what connect sends of the frames before speech are the newest
chunks in order if as many were added as there is room for, or none; with fewer
it begins with memory that was never written.  All that is sent after it are
the frames from speech on. -/
theorem prebuffer_sent_iff (before : List Bytes) (talking : Bytes)
    (after : List Frame) :
    (∀ fresh, requests fresh true
        (before.map (⟨false, ·⟩) ++ ⟨true, talking⟩ :: after) =
      .config :: (((whole chunksize fresh.data ++ chunksOf before).rtake
        chunks).take (chunksOf before).length ++
          talking :: after.map Frame.data).map .audio) ∧
    ((∀ fresh, requests fresh true
        (before.map (⟨false, ·⟩) ++ ⟨true, talking⟩ :: after) =
      .config :: ((chunksOf before).rtake chunks ++
        talking :: after.map Frame.data).map .audio) ↔
      chunksOf before = [] ∨ chunks ≤ (chunksOf before).length) ∧
    (∀ fresh, requests fresh true (before.map (⟨false, ·⟩)) = []) ∧
    ∀ fresh, requests fresh false after =
      .config :: after.map fun frame => .audio frame.data := by
  refine ⟨fun fresh => requests_talking fresh before talking after, ?_,
    fun fresh => requests_silent fresh before,
    fun fresh => requests_plain fresh after⟩
  constructor
  · intro newest
    by_contra short
    obtain ⟨some, few⟩ := not_or.mp short
    have same : ∀ byte : UInt8, ((chunksOf before).rtake chunks).head? =
        .some (List.replicate chunksize byte) := by
      intro byte
      have sent := newest (.constant byte)
      rw [requests_talking] at sent
      have audio := (List.map_injective_iff.mpr fun _ _ => Request.audio.inj)
        (List.cons.inj sent).2
      rw [← List.append_cancel_right audio]
      exact head_constant byte some (Nat.lt_of_not_le few)
    have equal := Option.some.inj ((same 0).symm.trans (same 1))
    exact absurd equal (by decide)
  · rintro (none | enough) fresh
    · rw [requests_talking, none]
      rfl
    · have newest : (whole chunksize fresh.data ++ chunksOf before).rtake
          chunks = (chunksOf before).rtake chunks :=
        rtake_append_of_le _ enough
      have all : ((chunksOf before).rtake chunks).length ≤
          (chunksOf before).length := by
        rw [length_rtake]
        exact Nat.min_le_right _ _
      rw [requests_talking, newest, List.take_of_length_le all]

end DrachtioModules.Transcribe.OneCursor

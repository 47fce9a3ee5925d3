import DrachtioModules.Machine
import DrachtioModules.Ring
import DrachtioModules.Transcribe.SimpleBuffer

/-!
# SimpleBuffer is a bounded drop-oldest queue

The allocation read chunk by chunk is a ring: `add` pushes chunks and
`getNextChunk` pops them.  With a product of the sizes below `2^32` and lengths
below `2^31` none of the source's operations on `uint32_t` and `int` wraps, so
they are taken on natural numbers.
-/

namespace DrachtioModules.Transcribe

namespace SimpleBuffer

theorem length_copyTo {data chunk : Bytes} {offset : Nat}
    (inside : offset + chunk.length ≤ data.length) :
    (copyTo data offset chunk).length = data.length := by
  unfold copyTo
  simp only [List.length_append, List.length_take, List.length_drop]
  omega

theorem window_copyTo {data chunk : Bytes} {offset : Nat}
    (inside : offset + chunk.length ≤ data.length) :
    ((copyTo data offset chunk).drop offset).take chunk.length = chunk := by
  have before : (data.take offset).length = offset := by
    rw [List.length_take]
    omega
  unfold copyTo
  rw [List.append_assoc, List.drop_append_of_le_length before.ge,
    List.drop_of_length_le before.le, List.nil_append, List.take_left]

theorem window_copyTo_before {data chunk : Bytes} {offset size target : Nat}
    (inside : target ≤ data.length) (before : offset + size ≤ target) :
    ((copyTo data target chunk).drop offset).take size =
      (data.drop offset).take size := by
  have long : (data.take target).length = target := by
    rw [List.length_take]
    omega
  have rest : size ≤ ((data.take target).drop offset).length := by
    rw [List.length_drop]
    omega
  unfold copyTo
  rw [List.append_assoc, List.drop_append_of_le_length (by omega),
    List.take_append_of_le_length rest, List.drop_take, List.take_take]
  congr 1
  omega

theorem window_copyTo_after {data chunk : Bytes} {offset target : Nat}
    (inside : target + chunk.length ≤ data.length)
    (after : target + chunk.length ≤ offset) :
    (copyTo data target chunk).drop offset = data.drop offset := by
  have long : (data.take target ++ chunk).length = target + chunk.length := by
    rw [List.length_append, List.length_take]
    omega
  unfold copyTo
  rw [List.drop_append, long, List.drop_of_length_le (by omega),
    List.nil_append, List.drop_drop]
  congr 1
  omega

/-- The number of the chunk to be read next. -/
def readIndex (b : SimpleBuffer) : Nat := b.nextRead / b.chunkSize

/-- The cursors stand at chunk boundaries, `numItems` chunks apart. -/
structure WellFormed (b : SimpleBuffer) : Prop where
  sized : 0 < b.numItems → 0 < b.chunkSize
  allocated : b.data.length = b.chunkSize * b.numChunks
  counted : b.numItems ≤ b.numChunks
  read : b.nextRead = b.readIndex * b.chunkSize
  inside : b.readIndex < b.numChunks
  write : b.nextWrite =
    (b.readIndex + b.numItems) % b.numChunks * b.chunkSize

theorem wellFormed_create (chunkSize : Nat) {numChunks : Nat}
    (positive : 0 < numChunks) : (create chunkSize numChunks).WellFormed := by
  constructor
  · intro used
    exact absurd used (Nat.lt_irrefl 0)
  · simp [create]
  · exact Nat.zero_le _
  · simp [create, readIndex]
  · simpa [create, readIndex] using positive
  · simp [create, readIndex]

theorem advance_boundary (b : SimpleBuffer) {index : Nat}
    (positive : 0 < b.chunkSize) (inside : index < b.numChunks) :
    b.advance (index * b.chunkSize) =
      (index + 1) % b.numChunks * b.chunkSize := by
  have offset : index * b.chunkSize / b.chunkSize = index :=
    Nat.mul_div_cancel index positive
  unfold advance
  simp only [offset]
  split
  · have last : index + 1 = b.numChunks := by omega
    rw [last, Nat.mod_self, Nat.zero_mul]
  · rw [Nat.mod_eq_of_lt (by omega), Nat.succ_mul]

def cell (b : SimpleBuffer) (index : Nat) : Bytes :=
  b.chunkAt (index * b.chunkSize)

/-- The chunks held, the oldest first. -/
def chunks (b : SimpleBuffer) : List Bytes :=
  (List.range b.numItems).map fun offset =>
    b.cell ((b.readIndex + offset) % b.numChunks)

theorem length_chunks (b : SimpleBuffer) : b.chunks.length = b.numItems := by
  simp [chunks]

namespace WellFormed

variable {b : SimpleBuffer}

/-- The buffer as a ring whose cells are its chunks. -/
def ring (formed : b.WellFormed) : Ring Bytes :=
  { cells := b.cell
    size := b.numChunks
    read := b.readIndex
    count := b.numItems
    inside := formed.inside
    bounded := formed.counted }

theorem chunks_eq (formed : b.WellFormed) : b.chunks = formed.ring.contents :=
  rfl

theorem boundary_inside (formed : b.WellFormed) {index : Nat}
    (inside : index < b.numChunks) :
    index * b.chunkSize + b.chunkSize ≤ b.data.length := by
  have room : (index + 1) * b.chunkSize ≤ b.numChunks * b.chunkSize :=
    Nat.mul_le_mul_right _ inside
  rw [formed.allocated, Nat.mul_comm b.chunkSize, ← Nat.succ_mul]
  exact room

theorem writeIndex_lt (formed : b.WellFormed) :
    (b.readIndex + b.numItems) % b.numChunks < b.numChunks :=
  Nat.mod_lt _ (Nat.zero_lt_of_lt formed.inside)

theorem write_inside (formed : b.WellFormed) :
    b.nextWrite + b.chunkSize ≤ b.data.length := by
  rw [formed.write]
  exact formed.boundary_inside formed.writeIndex_lt

theorem length_cell (formed : b.WellFormed) {index : Nat}
    (inside : index < b.numChunks) : (b.cell index).length = b.chunkSize := by
  have room := formed.boundary_inside inside
  unfold cell chunkAt
  rw [List.length_take, List.length_drop]
  omega

theorem length_of_mem_chunks (formed : b.WellFormed) {chunk : Bytes}
    (member : chunk ∈ b.chunks) : chunk.length = b.chunkSize := by
  obtain ⟨offset, _, rfl⟩ := List.mem_map.mp member
  apply formed.length_cell
  exact Nat.mod_lt _ (Nat.zero_lt_of_lt formed.inside)

end WellFormed

section AddChunk

variable {b : SimpleBuffer} {chunk : Bytes}

theorem cell_addChunk (formed : b.WellFormed)
    (sized : chunk.length = b.chunkSize) :
    (b.addChunk chunk).cell = Function.update b.cell
      ((b.readIndex + b.numItems) % b.numChunks) chunk := by
  have data : (b.addChunk chunk).data = copyTo b.data b.nextWrite chunk := by
    unfold addChunk
    split <;> rfl
  have size : (b.addChunk chunk).chunkSize = b.chunkSize := by
    unfold addChunk
    split <;> rfl
  have room : b.nextWrite + chunk.length ≤ b.data.length := by
    rw [sized]
    exact formed.write_inside
  have boundary := formed.write
  generalize (b.readIndex + b.numItems) % b.numChunks = target at boundary ⊢
  funext index
  unfold cell chunkAt
  rw [data, size]
  rcases Nat.lt_trichotomy index target with before | rfl | after
  · rw [Function.update_of_ne (by omega)]
    apply window_copyTo_before (by omega)
    rw [boundary, ← Nat.succ_mul]
    exact Nat.mul_le_mul_right _ before
  · rw [Function.update_self, ← boundary, ← sized]
    exact window_copyTo room
  · rw [Function.update_of_ne (by omega)]
    have beyond : b.nextWrite + chunk.length ≤ index * b.chunkSize := by
      rw [boundary, sized, ← Nat.succ_mul]
      exact Nat.mul_le_mul_right _ after
    rw [window_copyTo_after room beyond]

theorem readIndex_addChunk (formed : b.WellFormed) (chunk : Bytes)
    (positive : 0 < b.chunkSize) :
    (b.addChunk chunk).readIndex =
      if b.numItems < b.numChunks then b.readIndex
      else (b.readIndex + 1) % b.numChunks := by
  unfold addChunk
  split
  · rfl
  · show b.advance b.nextRead / b.chunkSize = _
    rw [formed.read, b.advance_boundary positive formed.inside,
      Nat.mul_div_cancel _ positive]

theorem wellFormed_addChunk (formed : b.WellFormed)
    (positive : 0 < b.chunkSize) (sized : chunk.length = b.chunkSize) :
    (b.addChunk chunk).WellFormed := by
  have index := readIndex_addChunk formed chunk positive
  have length : (copyTo b.data b.nextWrite chunk).length = b.data.length := by
    apply length_copyTo
    rw [sized]
    exact formed.write_inside
  have write : b.advance b.nextWrite =
      (b.readIndex + b.numItems + 1) % b.numChunks * b.chunkSize := by
    rw [formed.write, b.advance_boundary positive formed.writeIndex_lt,
      Nat.mod_add_mod]
  by_cases room : b.numItems < b.numChunks
  · have result : b.addChunk chunk = { b with
        data := copyTo b.data b.nextWrite chunk
        nextWrite := b.advance b.nextWrite
        numItems := b.numItems + 1 } := by simp [addChunk, room]
    rw [if_pos room] at index
    rw [result] at index ⊢
    exact
      { sized := fun _ => positive
        allocated := length.trans formed.allocated
        counted := room
        read := formed.read
        inside := formed.inside
        write := write }
  · have full : b.numItems = b.numChunks := by
      have := formed.counted
      omega
    have result : b.addChunk chunk = { b with
        data := copyTo b.data b.nextWrite chunk
        nextWrite := b.advance b.nextWrite
        nextRead := b.advance b.nextRead } := by simp [addChunk, room]
    rw [if_neg room] at index
    rw [result] at index ⊢
    constructor
    · exact fun _ => positive
    · exact length.trans formed.allocated
    · exact formed.counted
    · rw [index]
      show b.advance b.nextRead = _
      rw [formed.read, b.advance_boundary positive formed.inside]
    · rw [index]
      exact Nat.mod_lt _ (Nat.zero_lt_of_lt formed.inside)
    · rw [index]
      show b.advance b.nextWrite = _
      rw [write, full, Nat.mod_add_mod, Nat.add_right_comm]

/-- A chunk added is an item pushed into the ring. -/
theorem ring_addChunk (formed : b.WellFormed) (positive : 0 < b.chunkSize)
    (sized : chunk.length = b.chunkSize) :
    (wellFormed_addChunk formed positive sized).ring =
      formed.ring.push chunk := by
  apply Ring.ext
  · exact cell_addChunk formed sized
  · show (b.addChunk chunk).numChunks = b.numChunks
    unfold addChunk
    split <;> rfl
  · exact readIndex_addChunk formed chunk positive
  · show (b.addChunk chunk).numItems = _
    unfold addChunk
    split <;> rename_i room <;> simp [Ring.push, WellFormed.ring, room]

theorem chunks_addChunk (formed : b.WellFormed) (positive : 0 < b.chunkSize)
    (sized : chunk.length = b.chunkSize) :
    (b.addChunk chunk).chunks = (b.chunks ++ [chunk]).rtake b.numChunks := by
  rw [(wellFormed_addChunk formed positive sized).chunks_eq,
    ring_addChunk formed positive sized, Ring.contents_push]
  rfl

end AddChunk

@[simp] theorem chunkSize_addChunk (b : SimpleBuffer) (chunk : Bytes) :
    (b.addChunk chunk).chunkSize = b.chunkSize := by
  unfold addChunk
  split <;> rfl

@[simp] theorem numChunks_addChunk (b : SimpleBuffer) (chunk : Bytes) :
    (b.addChunk chunk).numChunks = b.numChunks := by
  unfold addChunk
  split <;> rfl

@[simp] theorem chunkSize_addChunks (b : SimpleBuffer) (count : Nat)
    (data : Bytes) : (b.addChunks count data).chunkSize = b.chunkSize := by
  induction count generalizing b data with
  | zero => rfl
  | succ count ih => rw [addChunks, ih, chunkSize_addChunk]

@[simp] theorem numChunks_addChunks (b : SimpleBuffer) (count : Nat)
    (data : Bytes) : (b.addChunks count data).numChunks = b.numChunks := by
  induction count generalizing b data with
  | zero => rfl
  | succ count ih => rw [addChunks, ih, numChunks_addChunk]

section Add

variable {b : SimpleBuffer}

/-- Every round of the loop keeps the buffer well-formed and pushes the next
piece of the data. -/
theorem addChunks_spec (formed : b.WellFormed) (positive : 0 < b.chunkSize)
    {count : Nat} {data : Bytes} (enough : count * b.chunkSize ≤ data.length) :
    (b.addChunks count data).WellFormed ∧
      (b.addChunks count data).chunks =
        (b.chunks ++ pieces b.chunkSize count data).rtake b.numChunks := by
  induction count generalizing b data with
  | zero =>
      refine ⟨formed, ?_⟩
      rw [addChunks, pieces, List.append_nil, rtake_of_length_le]
      rw [length_chunks]
      exact formed.counted
  | succ count ih =>
      rw [Nat.succ_mul] at enough
      have sized : (data.take b.chunkSize).length = b.chunkSize := by
        rw [List.length_take]
        omega
      have rest : count * (b.addChunk (data.take b.chunkSize)).chunkSize ≤
          (data.drop b.chunkSize).length := by
        rw [chunkSize_addChunk, List.length_drop]
        omega
      have first := wellFormed_addChunk formed positive sized
      obtain ⟨formed', content⟩ :=
        ih first (by rwa [chunkSize_addChunk]) rest
      refine ⟨formed', ?_⟩
      rw [addChunks, content, chunkSize_addChunk, numChunks_addChunk,
        chunks_addChunk formed positive sized, rtake_append_rtake, pieces,
        List.append_assoc]
      rfl

theorem wellFormed_add (formed : b.WellFormed) (positive : 0 < b.chunkSize)
    (data : Bytes) : (b.add data).WellFormed := by
  unfold add
  split
  · exact formed
  · exact (addChunks_spec formed positive (Nat.div_mul_le_self _ _)).1

theorem chunks_add (formed : b.WellFormed) (positive : 0 < b.chunkSize)
    {data : Bytes} (fits : data.length % b.chunkSize = 0) :
    (b.add data).chunks =
      (b.chunks ++ whole b.chunkSize data).rtake b.numChunks := by
  unfold add
  rw [if_neg (by simpa using fits)]
  exact (addChunks_spec formed positive (Nat.div_mul_le_self _ _)).2

end Add

@[simp] theorem chunkSize_add (b : SimpleBuffer) (data : Bytes) :
    (b.add data).chunkSize = b.chunkSize := by
  unfold add
  split
  · rfl
  · exact b.chunkSize_addChunks _ _

@[simp] theorem numChunks_add (b : SimpleBuffer) (data : Bytes) :
    (b.add data).numChunks = b.numChunks := by
  unfold add
  split
  · rfl
  · exact b.numChunks_addChunks _ _

section GetNextChunk

variable {b next : SimpleBuffer} {offset : Nat}

theorem getNextChunk_none (empty : b.getNextChunk = (none, next)) :
    b.numItems = 0 ∧ next = b := by
  unfold getNextChunk at empty
  split at empty
  · rename_i unused
    exact ⟨unused, (Prod.mk.inj empty).2.symm⟩
  · cases empty

theorem getNextChunk_some (given : b.getNextChunk = (some offset, next)) :
    0 < b.numItems ∧ offset = b.nextRead ∧ next = { b with
      numItems := b.numItems - 1
      nextRead := b.advance b.nextRead } := by
  unfold getNextChunk at given
  split at given
  · cases given
  · obtain ⟨pointer, rest⟩ := Prod.mk.inj given
    exact ⟨by omega, (Option.some.inj pointer).symm, rest.symm⟩

theorem getNextChunk_used (used : b.numItems ≠ 0) :
    ∃ offset next, b.getNextChunk = (some offset, next) := by
  unfold getNextChunk
  rw [if_neg used]
  exact ⟨_, _, rfl⟩

theorem wellFormed_getNextChunk (formed : b.WellFormed)
    (given : b.getNextChunk = (some offset, next)) : next.WellFormed := by
  obtain ⟨used, rfl, rfl⟩ := getNextChunk_some given
  have positive := formed.sized used
  have counted := formed.counted
  have read : b.advance b.nextRead =
      (b.readIndex + 1) % b.numChunks * b.chunkSize := by
    rw [formed.read, b.advance_boundary positive formed.inside]
  have index : b.advance b.nextRead / b.chunkSize =
      (b.readIndex + 1) % b.numChunks := by
    rw [read, Nat.mul_div_cancel _ positive]
  constructor
  · exact fun _ => positive
  · exact formed.allocated
  · show b.numItems - 1 ≤ b.numChunks
    omega
  · show b.advance b.nextRead = b.advance b.nextRead / b.chunkSize * b.chunkSize
    rw [index, read]
  · show b.advance b.nextRead / b.chunkSize < b.numChunks
    rw [index]
    exact Nat.mod_lt _ (Nat.zero_lt_of_lt formed.inside)
  · show b.nextWrite = (b.advance b.nextRead / b.chunkSize +
      (b.numItems - 1)) % b.numChunks * b.chunkSize
    rw [index, formed.write, Nat.mod_add_mod]
    congr 2
    omega

/-- The pointer returned is that of the oldest chunk, which is given up. -/
theorem chunks_getNextChunk (formed : b.WellFormed)
    (given : b.getNextChunk = (some offset, next)) :
    b.chunks = b.chunkAt offset :: next.chunks := by
  have formed' := wellFormed_getNextChunk formed given
  obtain ⟨used, rfl, rfl⟩ := getNextChunk_some given
  have oldest : b.chunks.head? = some (b.chunkAt b.nextRead) := by
    rw [formed.chunks_eq, Ring.contents_head _ used]
    show some (b.chunkAt ((b.readIndex + 0) % b.numChunks * b.chunkSize)) = _
    rw [Nat.add_zero, Nat.mod_eq_of_lt formed.inside, ← formed.read]
  have popped : formed'.ring = formed.ring.pop := by
    apply Ring.ext
    · rfl
    · rfl
    · show b.advance b.nextRead / b.chunkSize = _
      rw [formed.read, b.advance_boundary (formed.sized used) formed.inside,
        Nat.mul_div_cancel _ (formed.sized used)]
      rfl
    · rfl
  rw [formed'.chunks_eq, popped, Ring.contents_pop, ← formed.chunks_eq]
  exact (List.eq_cons_of_mem_head? oldest)

theorem chunks_nil_iff : b.chunks = [] ↔ b.numItems = 0 := by
  rw [← length_chunks, List.length_eq_zero_iff]

end GetNextChunk

inductive Call where
  | add (data : Bytes)
  | getNextChunk
  | getNumItems
  deriving DecidableEq, Repr

inductive Answer where
  | chunk (chunk : Option Bytes)
  | numItems (count : Nat)
  deriving DecidableEq, Repr

/-- A `memcpy` to an offset of the allocation, or what a call returned. -/
inductive Event where
  | copied (offset length : Nat)
  | answered (answer : Answer)
  deriving DecidableEq, Repr

def Event.answer : Event → Option Answer
  | .copied _ _ => none
  | .answered answer => some answer

/-- The copies the loop of `add` makes. -/
def copies (b : SimpleBuffer) : Nat → Bytes → List Event
  | 0, _ => []
  | count + 1, data =>
      .copied b.nextWrite b.chunkSize ::
        copies (b.addChunk (data.take b.chunkSize)) count
          (data.drop b.chunkSize)

def step (b : SimpleBuffer) : Call → Option (SimpleBuffer × List Event)
  | .add data =>
      some (b.add data,
        if data.length % b.chunkSize ≠ 0 then []
        else b.copies (data.length / b.chunkSize) data)
  | .getNextChunk =>
      some (b.getNextChunk.2,
        [.answered (.chunk (b.getNextChunk.1.map b.chunkAt))])
  | .getNumItems => some (b, [.answered (.numItems b.numItems)])

def machine (chunkSize numChunks : Nat) : Machine SimpleBuffer Call Event :=
  { initial := create chunkSize numChunks
    step := step }

/-- The queue a SimpleBuffer is meant to be. -/
def queueStep (chunkSize : Nat) {numChunks : Nat}
    (queue : DropOldest Bytes numChunks) :
    Call → Option (DropOldest Bytes numChunks × List Answer)
  | .add data =>
      if chunkSize ∣ data.length then
        some (queue.append (whole chunkSize data), [])
      else some (queue, [])
  | .getNextChunk => some (queue.pop.2, [.chunk queue.pop.1])
  | .getNumItems => some (queue, [.numItems queue.items.length])

def queueMachine (chunkSize numChunks : Nat) :
    Machine (DropOldest Bytes numChunks) Call Answer :=
  { initial := .empty
    step := queueStep chunkSize }

/-- A buffer of the given sizes in working order. -/
structure Sound (chunkSize numChunks : Nat) (b : SimpleBuffer) : Prop where
  formed : b.WellFormed
  chunkSize_eq : b.chunkSize = chunkSize
  numChunks_eq : b.numChunks = numChunks

section Simulation

variable {chunkSize numChunks : Nat} {b next : SimpleBuffer}

theorem sound_create (positive : 1 ≤ numChunks) :
    Sound chunkSize numChunks (create chunkSize numChunks) :=
  { formed := wellFormed_create chunkSize positive
    chunkSize_eq := rfl
    numChunks_eq := rfl }

theorem Sound.add (sound : Sound chunkSize numChunks b)
    (positive : 1 ≤ chunkSize) (data : Bytes) :
    Sound chunkSize numChunks (b.add data) := by
  obtain ⟨formed, rfl, rfl⟩ := sound
  constructor
  · exact wellFormed_add formed positive data
  · exact b.chunkSize_add data
  · exact b.numChunks_add data

theorem Sound.getNextChunk (sound : Sound chunkSize numChunks b) :
    Sound chunkSize numChunks b.getNextChunk.2 := by
  cases result : b.getNextChunk with
  | mk pointer next =>
      cases pointer with
      | none =>
          obtain ⟨_, rfl⟩ := getNextChunk_none result
          exact sound
      | some offset =>
          have formed := wellFormed_getNextChunk sound.formed result
          obtain ⟨_, _, rfl⟩ := getNextChunk_some result
          exact ⟨formed, sound.chunkSize_eq, sound.numChunks_eq⟩

/-- No round of the loop copies beyond the allocation. -/
theorem copies_inside (formed : b.WellFormed) (positive : 0 < b.chunkSize)
    {count : Nat} {data : Bytes} (enough : count * b.chunkSize ≤ data.length)
    {offset length : Nat}
    (member : Event.copied offset length ∈ b.copies count data) :
    offset + length ≤ b.chunkSize * b.numChunks := by
  induction count generalizing b data with
  | zero => cases member
  | succ count ih =>
      rw [Nat.succ_mul] at enough
      have sized : (data.take b.chunkSize).length = b.chunkSize := by
        rw [List.length_take]
        omega
      rw [copies, List.mem_cons] at member
      rcases member with here | later
      · obtain ⟨rfl, rfl⟩ := Event.copied.inj here
        rw [← formed.allocated]
        exact formed.write_inside
      · have rest := ih (wellFormed_addChunk formed positive sized)
          (by rwa [chunkSize_addChunk])
          (by rw [chunkSize_addChunk, List.length_drop]; omega) later
        rwa [chunkSize_addChunk, numChunks_addChunk] at rest

theorem copies_unanswered (b : SimpleBuffer) (count : Nat) (data : Bytes) :
    (b.copies count data).filterMap Event.answer = [] := by
  induction count generalizing b data with
  | zero => rfl
  | succ count ih => exact ih _ _

theorem step_sound (sound : Sound chunkSize numChunks b)
    (positive : 1 ≤ chunkSize) {call : Call} {events : List Event}
    (step : b.step call = some (next, events)) :
    Sound chunkSize numChunks next ∧ ∀ offset length,
      Event.copied offset length ∈ events →
        offset + length ≤ chunkSize * numChunks := by
  cases call with
  | add data =>
      obtain ⟨rfl, rfl⟩ := Prod.mk.inj (Option.some.inj step)
      refine ⟨sound.add positive data, ?_⟩
      intro offset length member
      obtain ⟨formed, rfl, rfl⟩ := sound
      split at member
      · cases member
      · exact copies_inside formed positive (Nat.div_mul_le_self _ _) member
  | getNextChunk =>
      obtain ⟨rfl, rfl⟩ := Prod.mk.inj (Option.some.inj step)
      exact ⟨sound.getNextChunk, by simp⟩
  | getNumItems =>
      obtain ⟨rfl, rfl⟩ := Prod.mk.inj (Option.some.inj step)
      exact ⟨sound, by simp⟩

/-- The queue answers every call as the buffer does and holds its chunks. -/
theorem step_simulated (sound : Sound chunkSize numChunks b)
    (positive : 1 ≤ chunkSize) {queue : DropOldest Bytes numChunks}
    (same : b.chunks = queue.items) {call : Call} {events : List Event}
    (step : b.step call = some (next, events)) :
    ∃ queue', queueStep chunkSize queue call =
        some (queue', events.filterMap Event.answer) ∧
      next.chunks = queue'.items := by
  cases call with
  | add data =>
      obtain ⟨rfl, rfl⟩ := Prod.mk.inj (Option.some.inj step)
      obtain ⟨formed, rfl, rfl⟩ := sound
      by_cases fits : data.length % b.chunkSize = 0
      · refine ⟨queue.append (whole b.chunkSize data), ?_, ?_⟩
        · rw [if_neg (not_not.mpr fits), copies_unanswered]
          exact if_pos (Nat.dvd_of_mod_eq_zero fits)
        · rw [chunks_add formed positive fits, same]
          rfl
      · refine ⟨queue, ?_, ?_⟩
        · rw [if_pos fits]
          exact if_neg fun divides => fits (Nat.mod_eq_zero_of_dvd divides)
        · rw [add, if_pos fits, same]
  | getNextChunk =>
      obtain ⟨rfl, rfl⟩ := Prod.mk.inj (Option.some.inj step)
      refine ⟨queue.pop.2, ?_, ?_⟩
      · cases result : b.getNextChunk with
        | mk pointer next =>
            cases pointer with
            | none =>
                obtain ⟨unused, rfl⟩ := getNextChunk_none result
                have empty := same.symm.trans (chunks_nil_iff.mpr unused)
                simp [queueStep, DropOldest.pop, empty, Event.answer]
            | some offset =>
                have content := chunks_getNextChunk sound.formed result
                simp [queueStep, DropOldest.pop, ← same, content, Event.answer]
      · cases result : b.getNextChunk with
        | mk pointer next =>
            cases pointer with
            | none =>
                obtain ⟨unused, rfl⟩ := getNextChunk_none result
                have empty := same.symm.trans (chunks_nil_iff.mpr unused)
                simp [DropOldest.pop, same, empty]
            | some offset =>
                have content := chunks_getNextChunk sound.formed result
                simp [DropOldest.pop, ← same, content]
  | getNumItems =>
      obtain ⟨rfl, rfl⟩ := Prod.mk.inj (Option.some.inj step)
      refine ⟨queue, ?_, same⟩
      simp [queueStep, Event.answer, ← same, length_chunks]

/-- The buffer and the queue hold the same chunks in the same order. -/
def simulation (chunkSize numChunks : Nat) (sized : 1 ≤ chunkSize)
    (counted : 1 ≤ numChunks) :
    Machine.Simulation (machine chunkSize numChunks)
      (queueMachine chunkSize numChunks) Event.answer :=
  { related := fun b queue =>
      Sound chunkSize numChunks b ∧ b.chunks = queue.items
    initial := ⟨sound_create counted, rfl⟩
    step := by
      intro b queue call next events related step
      obtain ⟨sound, same⟩ := related
      obtain ⟨queue', answer, same'⟩ :=
        step_simulated sound sized same step
      exact ⟨queue', answer, (step_sound sound sized step).1, same'⟩ }

end Simulation

/-- Every sequence of calls is answered as by the queue, whose length is
`numItems`; the cursors stay at chunk boundaries inside the allocation and no
copy goes outside it. -/
theorem refines_drop_oldest {chunkSize numChunks : Nat}
    (sized : 1 ≤ chunkSize) (counted : 1 ≤ numChunks) {labels : List Call}
    {trace : List Event} {b : SimpleBuffer}
    (run : (machine chunkSize numChunks).Run anyStep
      (machine chunkSize numChunks).initial labels trace b) :
    (∃ queue, (queueMachine chunkSize numChunks).Run anyStep .empty labels
        (trace.filterMap Event.answer) queue ∧
      b.chunks = queue.items ∧ b.numItems = queue.items.length) ∧
    b.data.length = chunkSize * numChunks ∧
    (∃ index < numChunks, b.nextRead = index * chunkSize) ∧
    (∃ index < numChunks, b.nextWrite = index * chunkSize) ∧
    ∀ offset length, Event.copied offset length ∈ trace →
      offset + length ≤ chunkSize * numChunks := by
  have simulated := (simulation chunkSize numChunks sized counted).run run
  have inside := run.induct
    (fun seen state => Sound chunkSize numChunks state ∧
      ∀ offset length, Event.copied offset length ∈ seen →
        offset + length ≤ chunkSize * numChunks)
    ⟨sound_create counted, by simp⟩ (by
      intro seen state call next events holds _ step
      obtain ⟨sound', copied⟩ := step_sound holds.1 sized step
      refine ⟨sound', ?_⟩
      intro offset length member
      rcases List.mem_append.mp member with earlier | now
      · exact holds.2 offset length earlier
      · exact copied offset length now)
  obtain ⟨queue, queued, _, same⟩ := simulated
  obtain ⟨⟨formed, rfl, rfl⟩, copied⟩ := inside
  refine ⟨⟨queue, queued, same, ?_⟩, formed.allocated,
    ⟨b.readIndex, formed.inside, formed.read⟩,
    ⟨_, formed.writeIndex_lt, formed.write⟩, copied⟩
  rw [← same, length_chunks]

/-- Four chunks go into a ring of three, and the oldest left is the second. -/
theorem refines_drop_oldest_of_overwrite :
    ∃ trace b, (machine 2 3).Run anyStep (machine 2 3).initial
        [.add [1, 1, 2, 2, 3, 3, 4, 4], .getNextChunk, .getNumItems] trace b ∧
      trace.filterMap Event.answer = [.chunk (some [2, 2]), .numItems 2] ∧
      b.numItems = b.chunks.length := by
  have executed : ((machine 2 3).exec anyStep (machine 2 3).initial
      [.add [1, 1, 2, 2, 3, 3, 4, 4], .getNextChunk, .getNumItems]).map
        (fun outcome => decide (outcome.2.filterMap Event.answer =
          [.chunk (some [2, 2]), .numItems 2])) = some true := by
    decide
  obtain ⟨b, trace, run, answers⟩ := Machine.exists_run_of_exec _ executed
  obtain ⟨⟨queue, _, same, length⟩, _⟩ :=
    refines_drop_oldest (by decide) (by decide) run
  exact ⟨trace, b, run, of_decide_eq_true answers, length.trans (by rw [same])⟩

end SimpleBuffer

end DrachtioModules.Transcribe

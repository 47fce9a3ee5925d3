import Mathlib.Data.List.DropRight
import Mathlib.Data.Nat.ModEq
import Mathlib.Logic.Function.Basic
import Mathlib.Tactic.Common

/-!
# Bounded queues and rings

A queue of at most `bound` items drops its oldest items when more are appended
than it can hold.  A ring of cells with a read index and a counter implements
such a queue.
-/

namespace DrachtioModules

variable {α : Type*}

theorem length_rtake (items : List α) (bound : Nat) :
    (items.rtake bound).length = min bound items.length := by
  unfold List.rtake
  rw [List.length_drop]
  omega

theorem rtake_of_length_le {items : List α} {bound : Nat}
    (fits : items.length ≤ bound) : items.rtake bound = items := by
  unfold List.rtake
  rw [Nat.sub_eq_zero_of_le fits, List.drop_zero]

/-- What has been dropped already is not missed. -/
theorem rtake_append_rtake (items more : List α) (bound : Nat) :
    (items.rtake bound ++ more).rtake bound = (items ++ more).rtake bound := by
  unfold List.rtake
  rw [← List.drop_append_of_le_length (Nat.sub_le _ _), List.drop_drop]
  congr 1
  simp only [List.length_drop, List.length_append]
  omega

theorem rtake_append_singleton {items : List α} {bound : Nat} (item : α)
    (full : items.length = bound) (positive : 0 < bound) :
    (items ++ [item]).rtake bound = items.tail ++ [item] := by
  unfold List.rtake
  have excess : (items ++ [item]).length - bound = 1 := by
    rw [List.length_append, List.length_singleton]
    omega
  rw [excess, List.drop_append_of_le_length (by omega), List.drop_one]

/-- Dropping the oldest of pieces of one length drops the oldest items. -/
theorem flatten_rtake {pieces : List (List α)} {size : Nat} (bound : Nat)
    (sized : ∀ piece ∈ pieces, piece.length = size) :
    (pieces.rtake bound).flatten = pieces.flatten.rtake (bound * size) := by
  have total : ∀ pieces : List (List α), (∀ piece ∈ pieces,
      piece.length = size) → pieces.flatten.length = pieces.length * size := by
    intro pieces sized
    induction pieces with
    | nil => simp
    | cons piece pieces ih =>
        have rest := ih fun other member => sized other (by simp [member])
        have head := sized piece (by simp)
        simp [rest, head, Nat.succ_mul, Nat.add_comm]
  have dropped : ∀ count (pieces : List (List α)), (∀ piece ∈ pieces,
      piece.length = size) →
      (pieces.drop count).flatten = pieces.flatten.drop (count * size) := by
    intro count
    induction count with
    | zero => simp
    | succ count ih =>
        intro pieces sized
        cases pieces with
        | nil => simp
        | cons piece pieces =>
            have head := sized piece (by simp)
            rw [List.drop_succ_cons, ih pieces fun other member =>
              sized other (by simp [member])]
            rw [List.flatten_cons, Nat.succ_mul, Nat.add_comm,
              ← List.drop_drop, ← head, List.drop_left]
  unfold List.rtake
  rw [dropped _ _ sized, total _ sized, Nat.sub_mul]

/-- The first `count` pieces of `size` items each. -/
def pieces (size : Nat) : Nat → List α → List (List α)
  | 0, _ => []
  | count + 1, items =>
      items.take size :: pieces size count (items.drop size)

theorem length_of_mem_pieces {size count : Nat} {items piece : List α}
    (enough : count * size ≤ items.length)
    (member : piece ∈ pieces size count items) : piece.length = size := by
  induction count generalizing items with
  | zero => cases member
  | succ count ih =>
      rw [Nat.succ_mul] at enough
      rw [pieces, List.mem_cons] at member
      rcases member with rfl | later
      · rw [List.length_take]
        omega
      · apply ih _ later
        rw [List.length_drop]
        omega

theorem flatten_pieces (size count : Nat) (items : List α) :
    (pieces size count items).flatten = items.take (count * size) := by
  induction count generalizing items with
  | zero => simp [pieces]
  | succ count ih =>
      rw [pieces, List.flatten_cons, ih, Nat.succ_mul, Nat.add_comm,
        List.take_add]

/-- As many whole pieces as there are. -/
def whole (size : Nat) (items : List α) : List (List α) :=
  pieces size (items.length / size) items

/-- What is left of the items after the whole pieces. -/
def remainder (size : Nat) (items : List α) : List α :=
  items.drop (items.length / size * size)

theorem pieces_append {size count : Nat} {front : List α} (more : Nat)
    (rest : List α) (exact : front.length = count * size) :
    pieces size (count + more) (front ++ rest) =
      pieces size count front ++ pieces size more rest := by
  induction count generalizing front with
  | zero =>
      have empty : front = [] := List.length_eq_zero_iff.mp (by simpa using exact)
      simp [empty, pieces]
  | succ count ih =>
      rw [Nat.succ_mul] at exact
      rw [Nat.add_right_comm, pieces, pieces, List.cons_append,
        List.take_append_of_le_length (by omega),
        List.drop_append_of_le_length (by omega), ih]
      rw [List.length_drop]
      omega

theorem pieces_take (size count : Nat) (items : List α) :
    pieces size count (items.take (count * size)) = pieces size count items := by
  induction count generalizing items with
  | zero => rfl
  | succ count ih =>
      rw [pieces, pieces, Nat.succ_mul, List.drop_take, Nat.add_sub_cancel, ih,
        List.take_take, Nat.min_eq_left (Nat.le_add_left _ _)]

theorem length_front (size : Nat) (items : List α) :
    (items.take (items.length / size * size)).length =
      items.length / size * size := by
  rw [List.length_take]
  exact Nat.min_eq_left (Nat.div_mul_le_self _ _)

theorem length_remainder (size : Nat) (items : List α) :
    (remainder size items).length = items.length % size := by
  have parts := Nat.div_add_mod' items.length size
  rw [remainder, List.length_drop]
  omega

theorem front_append_remainder (size : Nat) (items : List α) :
    items.take (items.length / size * size) ++ remainder size items = items :=
  List.take_append_drop _ _

theorem append_eq_front (size : Nat) (items more : List α) :
    items ++ more = items.take (items.length / size * size) ++
      (remainder size items ++ more) := by
  rw [← List.append_assoc, front_append_remainder]

theorem length_append_div {size : Nat} (positive : 0 < size)
    (items more : List α) : (items ++ more).length / size =
      items.length / size + (remainder size items ++ more).length / size := by
  rw [append_eq_front size, List.length_append, length_front, Nat.add_comm,
    Nat.add_mul_div_right _ _ positive, Nat.add_comm]

/-- Going on with what is left gives the same pieces as starting anew. -/
theorem whole_append (size : Nat) (items more : List α) :
    whole size (items ++ more) =
      whole size items ++ whole size (remainder size items ++ more) := by
  rcases Nat.eq_zero_or_pos size with rfl | positive
  · simp [whole, pieces]
  · have split := append_eq_front size items more
    unfold whole
    rw [length_append_div positive, split,
      pieces_append _ _ (length_front size items), pieces_take]

theorem remainder_append (size : Nat) (items more : List α) :
    remainder size (items ++ more) =
      remainder size (remainder size items ++ more) := by
  rcases Nat.eq_zero_or_pos size with rfl | positive
  · simp [remainder]
  · have front : (items ++ more).drop (items.length / size * size) =
        remainder size items ++ more := by
      rw [append_eq_front size]
      exact List.drop_left' (length_front size items)
    calc remainder size (items ++ more)
        = ((items ++ more).drop (items.length / size * size)).drop
            ((remainder size items ++ more).length / size * size) := by
          rw [remainder, length_append_div positive, Nat.add_mul,
            List.drop_drop]
      _ = remainder size (remainder size items ++ more) := by
          rw [front]
          rfl

/-- The newest `bound` whole pieces and the remainder are what is left when the
items of the older pieces are dropped. -/
theorem flatten_whole_rtake (size bound : Nat) (items : List α) :
    ((whole size items).rtake bound).flatten ++ remainder size items =
      items.drop ((items.length / size - bound) * size) := by
  have sized : ∀ piece ∈ whole size items, piece.length = size := by
    intro piece member
    exact length_of_mem_pieces (Nat.div_mul_le_self _ _) member
  have fewer : (items.length / size - bound) * size ≤
      items.length / size * size :=
    Nat.mul_le_mul_right _ (Nat.sub_le _ _)
  calc ((whole size items).rtake bound).flatten ++ remainder size items
      = (items.take (items.length / size * size)).drop
          ((items.length / size - bound) * size) ++ remainder size items := by
        rw [flatten_rtake bound sized, whole, flatten_pieces, List.rtake,
          length_front, Nat.sub_mul]
    _ = (items.take (items.length / size * size) ++
          remainder size items).drop
            ((items.length / size - bound) * size) := by
        rw [List.drop_append_of_le_length]
        rw [length_front]
        exact fewer
    _ = items.drop ((items.length / size - bound) * size) := by
        rw [front_append_remainder]

/-- A queue of at most `bound` items, the oldest first. -/
structure DropOldest (α : Type*) (bound : Nat) where
  items : List α
  bounded : items.length ≤ bound

namespace DropOldest

variable {bound : Nat}

def empty : DropOldest α bound := ⟨[], Nat.zero_le bound⟩

/-- Appends items and drops the oldest beyond `bound`. -/
def append (queue : DropOldest α bound) (more : List α) : DropOldest α bound :=
  ⟨(queue.items ++ more).rtake bound, by
    rw [length_rtake]
    exact Nat.min_le_left _ _⟩

/-- Removes the oldest item, if any. -/
def pop (queue : DropOldest α bound) : Option α × DropOldest α bound :=
  (queue.items.head?, ⟨queue.items.tail, by
    rw [List.length_tail]
    exact (Nat.sub_le _ _).trans queue.bounded⟩)

end DropOldest

/-- `count` cells are in use, from the cell `read` on, and the cell after the
last one is the first. -/
@[ext]
structure Ring (α : Type*) where
  cells : Nat → α
  size : Nat
  read : Nat
  count : Nat
  inside : read < size
  bounded : count ≤ size

namespace Ring

/-- The cell `offset` places after the one to be read next. -/
def place (ring : Ring α) (offset : Nat) : Nat :=
  (ring.read + offset) % ring.size

theorem place_lt (ring : Ring α) (offset : Nat) :
    ring.place offset < ring.size :=
  Nat.mod_lt _ (Nat.zero_lt_of_lt ring.inside)

/-- Places less than one turn apart are different cells. -/
theorem place_ne (ring : Ring α) {offset offset' : Nat}
    (before : offset < offset') (within : offset' < offset + ring.size) :
    ring.place offset ≠ ring.place offset' := by
  intro same
  have turn : ring.read + offset ≡ ring.read + offset' [MOD ring.size] := same
  have apart := (Nat.modEq_iff_dvd' (by omega)).mp turn
  have multiple : ring.size ∣ offset' - offset := by
    convert apart using 1
    omega
  have reached := Nat.le_of_dvd (by omega) multiple
  omega

def contents (ring : Ring α) : List α :=
  (List.range ring.count).map fun offset => ring.cells (ring.place offset)

/-- Fills the next cell; in a full ring that is the oldest one. -/
def push (ring : Ring α) (item : α) : Ring α :=
  { cells := Function.update ring.cells (ring.place ring.count) item
    size := ring.size
    read := if ring.count < ring.size then ring.read else ring.place 1
    count := if ring.count < ring.size then ring.count + 1 else ring.count
    inside := by
      split
      · exact ring.inside
      · exact ring.place_lt 1
    bounded := by
      split
      · assumption
      · exact ring.bounded }

/-- Gives up the oldest cell. -/
def pop (ring : Ring α) : Ring α :=
  { cells := ring.cells
    size := ring.size
    read := ring.place 1
    count := ring.count - 1
    inside := ring.place_lt 1
    bounded := (Nat.sub_le _ _).trans ring.bounded }

@[simp] theorem length_contents (ring : Ring α) :
    ring.contents.length = ring.count := by
  simp [contents]

theorem place_after (ring : Ring α) (offset : Nat) :
    (ring.place 1 + offset) % ring.size = ring.place (offset + 1) := by
  unfold place
  rw [Nat.mod_add_mod, Nat.add_assoc, Nat.add_comm 1 offset]

theorem contents_tail (ring : Ring α) :
    ring.contents.tail = (List.range (ring.count - 1)).map fun offset =>
      ring.cells (ring.place (offset + 1)) := by
  cases used : ring.count with
  | zero => simp [contents, used]
  | succ count =>
      simp [contents, used, List.range_succ_eq_map, Function.comp_def]

theorem contents_pop (ring : Ring α) :
    ring.pop.contents = ring.contents.tail := by
  rw [contents_tail]
  apply List.map_congr_left
  intro offset _
  exact congrArg ring.cells (ring.place_after offset)

theorem contents_head (ring : Ring α) (used : 0 < ring.count) :
    ring.contents.head? = some (ring.cells (ring.place 0)) := by
  cases total : ring.count with
  | zero => omega
  | succ count => simp [contents, total, List.range_succ_eq_map]

/-- The cell a push fills is none of those still in use after it. -/
theorem update_place (ring : Ring α) (item : α) {offset target : Nat}
    (before : offset < target) (within : target < offset + ring.size) :
    Function.update ring.cells (ring.place target) item (ring.place offset) =
      ring.cells (ring.place offset) := by
  apply Function.update_of_ne
  exact ring.place_ne before within

theorem contents_push_of_lt (ring : Ring α) (item : α)
    (room : ring.count < ring.size) :
    (ring.push item).contents = ring.contents ++ [item] := by
  unfold contents
  simp only [push, place, room, if_true, List.range_succ, List.map_append]
  congr 1
  · apply List.map_congr_left
    intro offset member
    apply ring.update_place item (List.mem_range.mp member)
    omega
  · simp

/-- In a full ring the pushed item comes last and the oldest one is lost. -/
theorem contents_push_of_full (ring : Ring α) (item : α)
    (full : ring.count = ring.size) :
    (ring.push item).contents = ring.contents.tail ++ [item] := by
  have inside := ring.inside
  have next : ring.count - 1 + 1 = ring.count := by omega
  have offsets : List.range ring.count =
      List.range (ring.count - 1) ++ [ring.count - 1] := by
    rw [← List.range_succ, Nat.succ_eq_add_one, next]
  have turn : ring.place ring.count = ring.place 0 := by
    unfold place
    rw [full, Nat.add_mod_right, Nat.add_zero]
  have read : ∀ offset, (ring.push item).place offset =
      ring.place (offset + 1) := by
    intro offset
    rw [← ring.place_after]
    simp [place, push, full]
  have counted : (ring.push item).count = ring.count := by simp [push, full]
  have cells : (ring.push item).cells =
      Function.update ring.cells (ring.place ring.count) item := rfl
  rw [contents_tail]
  unfold contents
  rw [counted, cells, offsets, List.map_append]
  congr 1
  · apply List.map_congr_left
    intro offset member
    have bound := List.mem_range.mp member
    rw [read]
    apply Function.update_of_ne
    rw [turn]
    exact (ring.place_ne (by omega) (by omega)).symm
  · rw [List.map_singleton, read, next, Function.update_self]

theorem contents_push (ring : Ring α) (item : α) :
    (ring.push item).contents = (ring.contents ++ [item]).rtake ring.size := by
  have inside := ring.inside
  by_cases room : ring.count < ring.size
  · rw [ring.contents_push_of_lt item room, rtake_of_length_le]
    rw [List.length_append, length_contents, List.length_singleton]
    omega
  · have full : ring.count = ring.size := by
      have := ring.bounded
      omega
    rw [ring.contents_push_of_full item full, rtake_append_singleton item]
    · rw [length_contents, full]
    · omega

end Ring

end DrachtioModules

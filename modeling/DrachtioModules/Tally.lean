import DrachtioModules.Family
import Mathlib.Algebra.BigOperators.Group.Finset.Basic
import Mathlib.Algebra.BigOperators.Ring.Finset
import Mathlib.Data.Int.Order.Basic
import Mathlib.Tactic.Common

/-!
# Counting what holds below a bound

A shared counter that is raised when a property begins to hold of an object and
lowered when it ceases equals the number of objects the property holds of.  A
counter that all parts of a family share is the sum of what each of them has
added to it.
-/

namespace DrachtioModules

open Finset

/-- How many numbers below `bound` have the property. -/
def tally (holds : Nat → Bool) (bound : Nat) : Int :=
  ∑ n ∈ range bound, if holds n then 1 else 0

theorem tally_eq_card (holds : Nat → Bool) (bound : Nat) :
    tally holds bound = ((range bound).filter fun n => holds n = true).card := by
  simp [tally]

theorem tally_congr {holds holds' : Nat → Bool} {bound : Nat}
    (same : ∀ n, n < bound → holds' n = holds n) :
    tally holds' bound = tally holds bound := by
  apply sum_congr rfl
  intro n member
  rw [same n (mem_range.mp member)]

theorem tally_succ {holds : Nat → Bool} {bound : Nat}
    (absent : holds bound = false) :
    tally holds (bound + 1) = tally holds bound := by
  unfold tally
  rw [sum_range_succ, absent]
  exact add_zero _

/-- The property begins to hold of one object. -/
theorem tally_raise {holds holds' : Nat → Bool} {bound n : Nat}
    (within : n < bound) (before : holds n = false) (after : holds' n = true)
    (others : ∀ m, m ≠ n → holds' m = holds m) :
    tally holds' bound = tally holds bound + 1 := by
  have member : n ∈ range bound := mem_range.mpr within
  have rest : ∑ m ∈ (range bound).erase n, (if holds' m then (1 : Int) else 0) =
      ∑ m ∈ (range bound).erase n, if holds m then (1 : Int) else 0 := by
    apply sum_congr rfl
    intro m here
    rw [others m (ne_of_mem_erase here)]
  unfold tally
  rw [← add_sum_erase _ _ member, ← add_sum_erase _ _ member, rest, before, after]
  simp [add_comm]

/-- The property ceases to hold of one object. -/
theorem tally_lower {holds holds' : Nat → Bool} {bound n : Nat}
    (within : n < bound) (before : holds n = true) (after : holds' n = false)
    (others : ∀ m, m ≠ n → holds' m = holds m) :
    tally holds' bound = tally holds bound - 1 := by
  have raised : tally holds bound = tally holds' bound + 1 :=
    tally_raise within after before fun m different => (others m different).symm
  rw [raised]
  exact (Int.add_sub_cancel _ _).symm

theorem tally_move {holds holds' : Nat → Bool} {bound n : Nat}
    (within : n < bound) (others : ∀ m, m ≠ n → holds' m = holds m) :
    tally holds' bound =
      tally holds bound + (holds' n).toNat - (holds n).toNat := by
  by_cases unmoved : holds' n = holds n
  · have same : tally holds' bound = tally holds bound := by
      apply tally_congr
      intro m _
      by_cases here : m = n
      · rw [here, unmoved]
      · exact others m here
    rw [same, unmoved]
    exact (Int.add_sub_cancel _ _).symm
  · cases before : holds n with
    | false =>
        have after : holds' n = true := by simpa [before] using unmoved
        simp [tally_raise within before after others, after]
    | true =>
        have after : holds' n = false := by simpa [before] using unmoved
        simp [tally_lower within before after others, after]

theorem tally_nonneg (holds : Nat → Bool) (bound : Nat) :
    0 ≤ tally holds bound := by
  rw [tally_eq_card]
  exact Int.natCast_nonneg _

theorem absent_of_tally {holds : Nat → Bool} {bound : Nat}
    (empty : tally holds bound ≤ 0) :
    ∀ n, n < bound → holds n = false := by
  intro n within
  by_contra held
  rw [Bool.not_eq_false] at held
  have member : n ∈ (range bound).filter fun n => holds n = true :=
    mem_filter.mpr ⟨mem_range.mpr within, held⟩
  have positive := card_pos.mpr ⟨n, member⟩
  rw [tally_eq_card] at empty
  omega

/-- Only one of the parts moves, so only finitely many ever have. -/
theorem Family.shared_total {γ σ α ε δ φ : Type*}
    {family : Family γ σ α ε δ φ} (total : γ → Int) (count : σ → Int)
    (unshared : total family.shared = 0)
    (uncounted : count family.part.initial = 0)
    (moves : ∀ {shared : γ} {n : Nat} {s next : σ} {act : α}
      {events : List ε}, family.part.step s act = some (next, events) →
      total (events.foldl (family.writes n) shared) =
        total shared + count next - count s)
    (keeps : ∀ {shared shared' : γ} {act : δ} {made : List φ},
      family.common shared act = some (shared', made) →
      total shared' = total shared)
    {allowed : Family.State γ σ → Family.Act α δ → Bool}
    {labels : List (Family.Act α δ)} {trace : List (Family.Event ε φ)}
    {state : Family.State γ σ}
    (run : family.machine.Run allowed family.machine.initial labels trace
      state) :
    ∃ bound, (∀ n, bound ≤ n → state.parts n = family.part.initial) ∧
      total state.shared = ∑ n ∈ range bound, count (state.parts n) := by
  refine run.invariant (fun state => ∃ bound,
    (∀ n, bound ≤ n → state.parts n = family.part.initial) ∧
      total state.shared = ∑ n ∈ range bound, count (state.parts n))
    ⟨0, fun _ _ => rfl, by simpa [Family.machine]⟩ ?_
  rintro state label next made ⟨bound, untouched, sum⟩ _ step
  cases Family.step_cases step with
  | @part n act after events _ taken =>
      let wider := max bound (n + 1)
      have within : n ∈ range wider :=
        mem_range.mpr (by simp only [wider]; omega)
      have widened : ∑ m ∈ range bound, count (state.parts m) =
          ∑ m ∈ range wider, count (state.parts m) := by
        apply sum_subset (range_mono (le_max_left _ _))
        intro m _ outside
        rw [untouched m (by simpa using outside), uncounted]
      refine ⟨wider, ?_, ?_⟩
      · intro m beyond
        dsimp only [wider] at beyond ⊢
        rw [Function.update_of_ne (by omega)]
        exact untouched m (by omega)
      · have others : ∑ m ∈ (range wider).erase n,
              count (Function.update state.parts n after m) =
            ∑ m ∈ (range wider).erase n, count (state.parts m) := by
          apply sum_congr rfl
          intro m member
          rw [Function.update_of_ne (ne_of_mem_erase member)]
        dsimp only
        rw [moves taken, sum, widened, ← add_sum_erase _ _ within,
          ← add_sum_erase _ _ within, others, Function.update_self]
        exact Int.sub_eq_iff_eq_add.mpr (by ac_rfl)
  | common taken =>
      exact ⟨bound, untouched, (keeps taken).trans sum⟩

end DrachtioModules

import Mathlib.Data.List.Basic
import Mathlib.Tactic.Common

/-!
# Regular expressions with backtracking

The matching that ECMAScript prescribes: a pattern is matched with the rest of
the pattern as its continuation, and where it may match in several ways they are
tried in order, a greedy quantifier beginning with another repetition and a lazy
one with none.
-/

namespace DrachtioModules.Regex

/-- `repeated` is a quantifier; `start` and `stop` match at the ends of the text
only. -/
inductive Pattern (α : Type) where
  | start
  | stop
  | char (accepts : α → Bool)
  | seq (first second : Pattern α)
  | group (number : Nat) (body : Pattern α)
  | repeated (least : Nat) (most : Option Nat) (greedy : Bool)
      (body : Pattern α)

/-- How far a match has come, what of the text is left, and what the groups
captured. -/
structure Position (α : Type) where
  index : Nat
  rest : List α
  captures : Nat → Option (List α)

section Matching

variable {α ρ : Type}

/-- The groups inside a pattern. -/
def Pattern.groups : Pattern α → List Nat
  | .start | .stop | .char _ => []
  | .seq first second => first.groups ++ second.groups
  | .group number body => number :: body.groups
  | .repeated _ _ _ body => body.groups

/-- A repetition forgets what its groups captured. -/
def Position.clear (x : Position α) (groups : List Nat) : Position α :=
  { x with captures := fun number =>
      if number ∈ groups then none else x.captures number }

def Position.advance (x : Position α) (count : Nat) : Position α :=
  { x with index := x.index + count, rest := x.rest.drop count }

/-- A group that was entered at `x` is left. -/
def Position.capture (x y : Position α) (number : Nat) : Position α :=
  { y with
    captures := Function.update y.captures number
      (some (x.rest.take (y.index - x.index))) }

/-- A quantifier, for as long as `fuel` lasts; a repetition it does not need may
not be empty. -/
def iterate (body : Position α → (Position α → Option ρ) → Option ρ)
    (groups : List Nat) (greedy : Bool) :
    Nat → Nat → Option Nat → Position α → (Position α → Option ρ) → Option ρ
  | 0, _, _, _, _ => none
  | fuel + 1, least, most, x, k =>
      if most = some 0 then k x
      else
        let again := body (x.clear groups) fun y =>
          if least = 0 ∧ y.index = x.index then none
          else
            iterate body groups greedy fuel (least - 1) (most.map (· - 1)) y k
        if least ≠ 0 then again
        else if greedy then again <|> k x
        else k x <|> again

/-- The result of the continuation at the first position that it accepts. -/
def Pattern.exec : Pattern α → Position α → (Position α → Option ρ) → Option ρ
  | .start, x, k => if x.index = 0 then k x else none
  | .stop, x, k => if x.rest = [] then k x else none
  | .char accepts, x, k =>
      match x.rest with
      | [] => none
      | c :: _ => if accepts c then k (x.advance 1) else none
  | .seq first second, x, k => first.exec x fun y => second.exec y k
  | .group number body, x, k => body.exec x fun y => k (x.capture y number)
  | .repeated least most greedy body, x, k =>
      iterate body.exec body.groups greedy (least + x.rest.length + 2) least
        most x k

/-- The leftmost match, as what its groups captured. -/
def Pattern.search (pattern : Pattern α) (text : List α) :
    Option (Nat → Option (List α)) :=
  (List.range (text.length + 1)).findSome? fun index =>
    pattern.exec ⟨index, text.drop index, fun _ => none⟩ fun y =>
      some y.captures

end Matching

section Rules

variable {α ρ : Type} {x : Position α} {k : Position α → Option ρ} {result : ρ}

@[simp] theorem Position.clear_nil (x : Position α) : x.clear [] = x := by
  simp [Position.clear]

@[simp] theorem Position.advance_advance (x : Position α) (count more : Nat) :
    (x.advance count).advance more = x.advance (count + more) := by
  simp [Position.advance, Nat.add_assoc]

@[simp] theorem exec_seq (first second : Pattern α) :
    (Pattern.seq first second).exec x k =
      first.exec x fun y => second.exec y k :=
  rfl

@[simp] theorem exec_group (number : Nat) (body : Pattern α) :
    (Pattern.group number body).exec x k =
      body.exec x fun y => k (x.capture y number) :=
  rfl

@[simp] theorem exec_stop :
    Pattern.stop.exec x k = if x.rest = [] then k x else none :=
  rfl

theorem exec_char {accepts : α → Bool} {c : α} {rest : List α}
    (here : x.rest = c :: rest) :
    (Pattern.char accepts).exec x k =
      if accepts c then k (x.advance 1) else none := by
  rw [Pattern.exec, here]

theorem exec_char_nil {accepts : α → Bool} (here : x.rest = []) :
    (Pattern.char accepts).exec x k = none := by
  rw [Pattern.exec, here]

/-- A greedy `?` takes its body if the rest matches after it. -/
theorem exec_optional_some {body : Pattern α} (groups : List Nat)
    (inside : body.groups = groups)
    (found : body.exec (x.clear groups) (fun y =>
      if y.index = x.index then none else k y) = some result) :
    (Pattern.repeated 0 (some 1) true body).exec x k = some result := by
  subst inside
  simp [Pattern.exec, iterate, found]

/-- Otherwise it goes on without. -/
theorem exec_optional_none {body : Pattern α} (groups : List Nat)
    (inside : body.groups = groups)
    (fails : body.exec (x.clear groups) (fun y =>
      if y.index = x.index then none else k y) = none) :
    (Pattern.repeated 0 (some 1) true body).exec x k = k x := by
  subst inside
  simp [Pattern.exec, iterate, fails]

variable {accepts : α → Bool}

theorem iterate_char {greedy : Bool} {fuel least : Nat} {c : α} {rest : List α}
    (here : x.rest = c :: rest) :
    iterate (Pattern.char accepts).exec [] greedy (fuel + 1) least none x k =
      (let again := if accepts c then
          iterate (Pattern.char accepts).exec [] greedy fuel (least - 1) none
            (x.advance 1) k
        else none
      if least ≠ 0 then again
      else if greedy then again <|> k x
      else k x <|> again) := by
  rw [iterate]
  simp [exec_char here, Position.advance]

theorem Position.rest_advance {c : α} {rest : List α}
    (here : x.rest = c :: rest) : (x.advance 1).rest = rest := by
  simp [Position.advance, here]

theorem accepted_cons {c : α} {rest : List α} {count : Nat}
    (accepted : ∀ d ∈ (c :: rest).take (count + 1), accepts d = true) :
    accepts c = true ∧ ∀ d ∈ rest.take count, accepts d = true := by
  rw [List.take_succ_cons] at accepted
  exact List.forall_mem_cons.mp accepted

/-- A lazy quantifier stops at the first place where the rest matches. -/
theorem iterate_lazy {fuel count : Nat} (enough : count < fuel)
    (within : count ≤ x.rest.length)
    (accepted : ∀ c ∈ x.rest.take count, accepts c = true)
    (before : ∀ shorter < count, k (x.advance shorter) = none)
    (found : k (x.advance count) = some result) :
    iterate (Pattern.char accepts).exec [] false fuel 0 none x k =
      some result := by
  induction count generalizing x fuel with
  | zero =>
      cases fuel with
      | zero => omega
      | succ fuel =>
          have stops : k x = some result := found
          rw [iterate]
          simp [stops]
  | succ count ih =>
      cases fuel with
      | zero => omega
      | succ fuel =>
          cases here : x.rest with
          | nil => simp [here] at within
          | cons c rest =>
              rw [here] at accepted within
              obtain ⟨first, others⟩ := accepted_cons accepted
              have going : k x = none := before 0 (Nat.succ_pos _)
              have rest_eq := Position.rest_advance here
              have later : iterate (Pattern.char accepts).exec [] false fuel 0
                  none (x.advance 1) k = some result := by
                apply ih
                · omega
                · rw [rest_eq]
                  exact Nat.le_of_succ_le_succ within
                · rw [rest_eq]
                  exact others
                · intro shorter less
                  rw [Position.advance_advance, Nat.add_comm]
                  exact before _ (Nat.succ_lt_succ less)
                · rw [Position.advance_advance, Nat.add_comm]
                  exact found
              rw [iterate_char here]
              simp [going, first, later]

/-- A greedy quantifier goes as far as it can if the rest matches there. -/
theorem iterate_greedy {fuel count : Nat} (enough : count < fuel)
    (within : count ≤ x.rest.length)
    (accepted : ∀ c ∈ x.rest.take count, accepts c = true)
    (ends : ∀ c ∈ (x.rest.drop count).head?, accepts c = false)
    (found : k (x.advance count) = some result) :
    iterate (Pattern.char accepts).exec [] true fuel 0 none x k =
      some result := by
  induction count generalizing x fuel with
  | zero =>
      cases fuel with
      | zero => omega
      | succ fuel =>
          have stops : k x = some result := found
          cases here : x.rest with
          | nil =>
              rw [iterate]
              simp [exec_char_nil here, stops]
          | cons c rest =>
              have refused : accepts c = false := ends c (by simp [here])
              rw [iterate_char here]
              simp [refused, stops]
  | succ count ih =>
      cases fuel with
      | zero => omega
      | succ fuel =>
          cases here : x.rest with
          | nil => simp [here] at within
          | cons c rest =>
              rw [here] at accepted within ends
              obtain ⟨first, others⟩ := accepted_cons accepted
              have rest_eq := Position.rest_advance here
              have later : iterate (Pattern.char accepts).exec [] true fuel 0
                  none (x.advance 1) k = some result := by
                apply ih
                · omega
                · rw [rest_eq]
                  exact Nat.le_of_succ_le_succ within
                · rw [rest_eq]
                  exact others
                · rw [rest_eq]
                  exact ends
                · rw [Position.advance_advance, Nat.add_comm]
                  exact found
              rw [iterate_char here]
              simp [first, later]

/-- No number of repetitions lets the rest match. -/
theorem iterate_none {greedy : Bool} {fuel least : Nat}
    (fails : ∀ count ≤ x.rest.length,
      (∀ c ∈ x.rest.take count, accepts c = true) → least ≤ count →
      k (x.advance count) = none) :
    iterate (Pattern.char accepts).exec [] greedy fuel least none x k =
      none := by
  induction fuel generalizing x least with
  | zero => rfl
  | succ fuel ih =>
      have stops : least = 0 → k x = none := by
        rintro rfl
        exact fails 0 (Nat.zero_le _) (by simp) (Nat.le_refl 0)
      cases here : x.rest with
      | nil =>
          rw [iterate]
          by_cases last : least = 0 <;>
            simp [exec_char_nil here, last, stops]
      | cons c rest =>
          have later : accepts c = true → iterate (Pattern.char accepts).exec []
              greedy fuel (least - 1) none (x.advance 1) k = none := by
            intro first
            apply ih
            intro count within accepted enough
            rw [Position.rest_advance here] at within accepted
            rw [Position.advance_advance, Nat.add_comm]
            apply fails
            · simpa [here] using within
            · rw [here, List.take_succ_cons]
              exact List.forall_mem_cons.mpr ⟨first, accepted⟩
            · omega
          rw [iterate_char here]
          cases first : accepts c with
          | false => by_cases last : least = 0 <;> simp [last, stops]
          | true =>
              have again := later first
              by_cases last : least = 0
              · subst last
                simpa [stops] using again
              · simp [last, again]

theorem exec_lazy_plus (count : Nat) (one : 1 ≤ count)
    (within : count ≤ x.rest.length)
    (accepted : ∀ c ∈ x.rest.take count, accepts c = true)
    (before : ∀ shorter, 1 ≤ shorter → shorter < count →
      k (x.advance shorter) = none)
    (found : k (x.advance count) = some result) :
    (Pattern.repeated 1 none false (.char accepts)).exec x k = some result := by
  obtain ⟨count, rfl⟩ := Nat.exists_eq_add_of_le' one
  cases here : x.rest with
  | nil => simp [here] at within
  | cons c rest =>
      rw [here] at accepted within
      obtain ⟨first, others⟩ := accepted_cons accepted
      have rest_eq := Position.rest_advance here
      have long : count ≤ rest.length := Nat.le_of_succ_le_succ within
      have enough : count < 1 + x.rest.length + 1 := by
        rw [here, List.length_cons]
        omega
      have later : iterate (Pattern.char accepts).exec [] false
          (1 + x.rest.length + 1) 0 none (x.advance 1) k = some result := by
        refine iterate_lazy enough ?_ ?_ ?_ ?_
        · rw [rest_eq]
          exact Nat.le_of_succ_le_succ within
        · rw [rest_eq]
          exact others
        · intro shorter less
          rw [Position.advance_advance, Nat.add_comm]
          exact before _ (by omega) (by omega)
        · rw [Position.advance_advance, Nat.add_comm]
          exact found
      show iterate _ [] _ (1 + x.rest.length + 1 + 1) _ _ _ _ = _
      rw [iterate_char here]
      simp [first, later]

theorem exec_greedy_star (count : Nat) (within : count ≤ x.rest.length)
    (accepted : ∀ c ∈ x.rest.take count, accepts c = true)
    (ends : ∀ c ∈ (x.rest.drop count).head?, accepts c = false)
    (found : k (x.advance count) = some result) :
    (Pattern.repeated 0 none true (.char accepts)).exec x k = some result := by
  apply iterate_greedy _ within accepted ends found
  omega

theorem exec_greedy_plus (count : Nat) (one : 1 ≤ count)
    (within : count ≤ x.rest.length)
    (accepted : ∀ c ∈ x.rest.take count, accepts c = true)
    (ends : ∀ c ∈ (x.rest.drop count).head?, accepts c = false)
    (found : k (x.advance count) = some result) :
    (Pattern.repeated 1 none true (.char accepts)).exec x k = some result := by
  obtain ⟨count, rfl⟩ := Nat.exists_eq_add_of_le' one
  cases here : x.rest with
  | nil => simp [here] at within
  | cons c rest =>
      rw [here] at accepted within ends
      obtain ⟨first, others⟩ := accepted_cons accepted
      have rest_eq := Position.rest_advance here
      have long : count ≤ rest.length := Nat.le_of_succ_le_succ within
      have enough : count < 1 + x.rest.length + 1 := by
        rw [here, List.length_cons]
        omega
      have later : iterate (Pattern.char accepts).exec [] true
          (1 + x.rest.length + 1) 0 none (x.advance 1) k = some result := by
        refine iterate_greedy enough ?_ ?_ ?_ ?_
        · rw [rest_eq]
          exact Nat.le_of_succ_le_succ within
        · rw [rest_eq]
          exact others
        · rw [rest_eq]
          exact ends
        · rw [Position.advance_advance, Nat.add_comm]
          exact found
      show iterate _ [] _ (1 + x.rest.length + 1 + 1) _ _ _ _ = _
      rw [iterate_char here]
      simp [first, later]

/-- A quantifier fails if the rest matches after no run it may take. -/
theorem exec_repeated_none {greedy : Bool} {least : Nat}
    (fails : ∀ count ≤ x.rest.length,
      (∀ c ∈ x.rest.take count, accepts c = true) → least ≤ count →
      k (x.advance count) = none) :
    (Pattern.repeated least none greedy (.char accepts)).exec x k = none :=
  iterate_none fails

/-- A pattern that begins at the start of the text matches there or nowhere. -/
theorem search_start {pattern : Pattern α} {text : List α}
    {captures : Nat → Option (List α)}
    (found : pattern.exec ⟨0, text, fun _ => none⟩ (fun y => some y.captures) =
      some captures) :
    (Pattern.seq .start pattern).search text = some captures := by
  unfold Pattern.search
  rw [List.range_succ_eq_map, List.findSome?_cons]
  simp [Pattern.exec, found]

end Rules

end DrachtioModules.Regex

import Mathlib.Data.Bool.AllAny
import Mathlib.Data.List.Forall2
import Mathlib.Tactic.Common

/-!
# Percent-encoded text

Text as a list of bytes, and the decoding that reads a percent sign and two
hexadecimal digits as one byte and every other byte as itself.
-/

namespace DrachtioModules.Percent

/-- The bytes of a string literal. -/
def ascii (text : String) : List UInt8 :=
  text.toList.map fun char => char.toNat.toUInt8

/-- Digits of either case. -/
def hexValue (digit : UInt8) : Option Nat :=
  if 48 ≤ digit ∧ digit ≤ 57 then some (digit.toNat - 48)
  else if 65 ≤ digit ∧ digit ≤ 70 then some (digit.toNat - 55)
  else if 97 ≤ digit ∧ digit ≤ 102 then some (digit.toNat - 87)
  else none

/-- The byte 37 is the percent sign. -/
def decode : List UInt8 → Option (List UInt8)
  | [] => some []
  | byte :: rest =>
      if byte = 37 then
        match rest with
        | high :: low :: rest =>
            match hexValue high, hexValue low with
            | some high, some low =>
                (decode rest).map fun decoded =>
                  (16 * high + low).toUInt8 :: decoded
            | _, _ => none
        | _ => none
      else (decode rest).map fun decoded => byte :: decoded

/-- The upper-case digit of a value below 16. -/
def hexDigit (value : Nat) : UInt8 :=
  if value < 10 then (48 + value).toUInt8 else (55 + value).toUInt8

theorem hexValue_hexDigit {value : Nat} (small : value < 16) :
    hexValue (hexDigit value) = some value := by
  revert value
  decide

theorem decode_plain {byte : UInt8} (rest : List UInt8) (plain : byte ≠ 37) :
    decode (byte :: rest) = (decode rest).map fun decoded =>
      byte :: decoded := by
  rw [decode.eq_def]
  simp only [if_neg plain]

theorem decode_escaped {high low : UInt8} {x y : Nat} (rest : List UInt8)
    (first : hexValue high = some x) (second : hexValue low = some y) :
    decode (37 :: high :: low :: rest) =
      (decode rest).map fun decoded => (16 * x + y).toUInt8 :: decoded := by
  rw [decode.eq_def]
  simp only [if_true, first, second]

theorem decode_byte (byte : UInt8) (rest : List UInt8) :
    decode (37 :: hexDigit (byte.toNat / 16) :: hexDigit (byte.toNat % 16) ::
        rest) =
      (decode rest).map fun decoded => byte :: decoded := by
  have bound := byte.toNat_lt
  have whole : 16 * (byte.toNat / 16) + byte.toNat % 16 = byte.toNat := by
    omega
  rw [decode_escaped rest (hexValue_hexDigit (by omega))
    (hexValue_hexDigit (by omega)), whole]
  simp

/-- A byte string that neither separates parameters, as the ampersand does, nor
a key from a value, as the equals sign does. -/
def Inert (text : List UInt8) : Prop := 38 ∉ text ∧ 61 ∉ text

instance (text : List UInt8) : Decidable (Inert text) :=
  inferInstanceAs (Decidable (_ ∧ _))

def Param (key param : List UInt8) : Prop :=
  ∃ value, param = key ++ 61 :: value ∧ Inert key ∧ Inert value

/-- What stands before the equals sign. -/
def keyOf (param : List UInt8) : List UInt8 :=
  param.takeWhile fun byte => byte != 61

theorem Param.unsplit {key param : List UInt8} (proper : Param key param) :
    38 ∉ param := by
  obtain ⟨value, rfl, inertKey, inertValue⟩ := proper
  simp [inertKey.1, inertValue.1]

theorem Param.separated {key param : List UInt8} (proper : Param key param) :
    param.count 61 = 1 := by
  obtain ⟨value, rfl, inertKey, inertValue⟩ := proper
  rw [List.count_append, List.count_cons_self,
    List.count_eq_zero.mpr inertKey.2, List.count_eq_zero.mpr inertValue.2]

theorem Param.key {key param : List UInt8} (proper : Param key param) :
    keyOf param = key := by
  obtain ⟨value, rfl, inertKey, inertValue⟩ := proper
  rw [keyOf, List.takeWhile_append_of_pos]
  · simp
  · intro byte member
    simp only [bne_iff_ne]
    rintro rfl
    exact inertKey.2 member

theorem params_cases {keys params : List (List UInt8)}
    (proper : List.Forall₂ Param keys params) :
    params.map keyOf = keys ∧
      ∀ param ∈ params, 38 ∉ param ∧ param.count 61 = 1 := by
  induction proper with
  | nil => simp
  | cons first rest ih =>
      obtain ⟨keys, plain⟩ := ih
      refine ⟨by rw [List.map_cons, first.key, keys], ?_⟩
      intro param member
      rcases List.mem_cons.mp member with rfl | later
      · exact ⟨first.unsplit, first.separated⟩
      · exact plain param later

/-- A piece of a query that adds one parameter for each of the keys. -/
def Splices (keys : List (List UInt8)) (piece : List UInt8) : Prop :=
  ∃ params, piece = params.flatMap (fun param => 38 :: param) ∧
    List.Forall₂ Param keys params

theorem Splices.nil : Splices [] [] := ⟨[], rfl, .nil⟩

theorem Splices.one {key head value : List UInt8}
    (named : head = 38 :: (key ++ [61])) (inertKey : Inert key)
    (inertValue : Inert value) : Splices [key] (head ++ value) := by
  refine ⟨[key ++ 61 :: value], by simp [named], ?_⟩
  exact .cons ⟨value, rfl, inertKey, inertValue⟩ .nil

theorem Splices.append {keys keys' : List (List UInt8)}
    {piece piece' : List UInt8} (left : Splices keys piece)
    (right : Splices keys' piece') :
    Splices (keys ++ keys') (piece ++ piece') := by
  obtain ⟨params, rfl, proper⟩ := left
  obtain ⟨params', rfl, proper'⟩ := right
  exact ⟨params ++ params', by rw [List.flatMap_append],
    List.rel_append proper proper'⟩

/-- The same parameter again for each of the values. -/
theorem Splices.repeated {key head : List UInt8} {values : List (List UInt8)}
    (named : head = 38 :: (key ++ [61])) (inertKey : Inert key)
    (inertValues : ∀ value ∈ values, Inert value) :
    Splices (List.replicate values.length key)
      (values.flatMap fun value => head ++ value) := by
  induction values with
  | nil => exact .nil
  | cons value values ih =>
      have rest := ih fun other member => inertValues other (by simp [member])
      have first := Splices.one named inertKey (inertValues value (by simp))
      exact first.append rest

theorem splitOn_params {param : List UInt8} {params : List (List UInt8)}
    (first : 38 ∉ param) (rest : ∀ other ∈ params, 38 ∉ other) :
    (param ++ params.flatMap fun param => 38 :: param).splitOn 38 =
      param :: params := by
  induction params generalizing param with
  | nil => simpa using List.splitOn_eq_singleton first
  | cons next params ih =>
      have later := ih (rest next (by simp))
        fun other member => rest other (by simp [member])
      rw [List.flatMap_cons, List.cons_append,
        List.splitOn_append_cons_self_of_not_mem first, later]

/-- Splitting at the ampersands gives back the parameters. -/
theorem Splices.split {keys : List (List UInt8)} {query : List UInt8}
    (spliced : Splices keys (38 :: query)) :
    (query.splitOn 38).map keyOf = keys ∧
      ∀ param ∈ query.splitOn 38, param.count 61 = 1 := by
  obtain ⟨params, same, proper⟩ := spliced
  cases params with
  | nil => cases same
  | cons param params =>
      obtain ⟨named, plain⟩ := params_cases proper
      rw [List.flatMap_cons, List.cons_append] at same
      have whole : query.splitOn 38 = param :: params := by
        rw [(List.cons.inj same).2]
        exact splitOn_params (plain param (by simp)).1
          fun other member => (plain other (by simp [member])).1
      rw [whole]
      exact ⟨named, fun other member => (plain other member).2⟩

end DrachtioModules.Percent

import DrachtioModules.Percent
import Mathlib.Data.List.GetD
import Mathlib.Tactic.Common

/-!
# Base64

The standard encoding of bytes: three bytes are written as four digits of six
bits each, and a last group of one or two bytes is filled with zero bits up to
the next digit and with equals signs (the byte 61) up to four characters.
-/

namespace DrachtioModules.Base64

def alphabet : List UInt8 :=
  Percent.ascii
    "ABCDEFGHIJKLMNOPQRSTUVWXYZabcdefghijklmnopqrstuvwxyz0123456789+/"

/-- The digit of a value below 64. -/
def digit (value : Nat) : UInt8 := alphabet.getD value 0

/-- A byte is read back from its value. -/
theorem toUInt8_of_eq {c : UInt8} {value : Nat} (same : value = c.toNat) :
    value.toUInt8 = c := by
  rw [same]
  simp

def encode : List UInt8 → List UInt8
  | [] => []
  | [a] => [digit (a.toNat / 4), digit (a.toNat % 4 * 16), 61, 61]
  | [a, b] =>
      [digit (a.toNat / 4), digit (a.toNat % 4 * 16 + b.toNat / 16),
        digit (b.toNat % 16 * 4), 61]
  | a :: b :: c :: rest =>
      digit (a.toNat / 4) :: digit (a.toNat % 4 * 16 + b.toNat / 16) ::
        digit (b.toNat % 16 * 4 + c.toNat / 64) :: digit (c.toNat % 64) ::
        encode rest

theorem length_encode (bytes : List UInt8) :
    (encode bytes).length = 4 * ((bytes.length + 2) / 3) := by
  induction bytes using encode.induct with
  | case1 => rfl
  | case2 a => simp [encode]
  | case3 a b => simp [encode]
  | case4 a b c rest ih =>
      simp only [encode, List.length_cons, ih]
      omega

theorem digit_mem {value : Nat} (small : value < 64) :
    digit value ∈ alphabet := by
  have inside : value < alphabet.length := small
  rw [digit, List.getD_eq_getElem alphabet 0 inside]
  exact List.getElem_mem inside

/-- Digits, and the padding that a last group of one or two bytes needs. -/
theorem encode_padded (bytes : List UInt8) :
    ∃ digits, (∀ char ∈ digits, char ∈ alphabet) ∧
      encode bytes =
        digits ++ List.replicate ((3 - bytes.length % 3) % 3) 61 := by
  induction bytes using encode.induct with
  | case1 => exact ⟨[], by simp, rfl⟩
  | case2 a =>
      have bound := a.toNat_lt
      refine ⟨[digit (a.toNat / 4), digit (a.toNat % 4 * 16)], ?_, by
        simp [encode]⟩
      simp only [List.forall_mem_cons]
      exact ⟨digit_mem (by omega), digit_mem (by omega), by simp⟩
  | case3 a b =>
      have bound := a.toNat_lt
      have bound' := b.toNat_lt
      refine ⟨[digit (a.toNat / 4), digit (a.toNat % 4 * 16 + b.toNat / 16),
        digit (b.toNat % 16 * 4)], ?_, by simp [encode]⟩
      simp only [List.forall_mem_cons]
      exact ⟨digit_mem (by omega), digit_mem (by omega),
        digit_mem (by omega), by simp⟩
  | case4 a b c rest ih =>
      have bound := a.toNat_lt
      have bound' := b.toNat_lt
      have bound'' := c.toNat_lt
      obtain ⟨digits, proper, same⟩ := ih
      refine ⟨digit (a.toNat / 4) :: digit (a.toNat % 4 * 16 + b.toNat / 16) ::
        digit (b.toNat % 16 * 4 + c.toNat / 64) :: digit (c.toNat % 64) ::
        digits, ?_, ?_⟩
      · simp only [List.forall_mem_cons]
        exact ⟨digit_mem (by omega), digit_mem (by omega),
          digit_mem (by omega), digit_mem (by omega), proper⟩
      · have periodic : (rest.length + 3) % 3 = rest.length % 3 := by omega
        simp [encode, same, Nat.add_assoc, periodic]

/-- No byte of the encoding ends a string. -/
theorem encode_proper (bytes : List UInt8) : 0 ∉ encode bytes := by
  obtain ⟨digits, proper, same⟩ := encode_padded bytes
  rw [same, List.mem_append]
  rintro (inDigits | inPadding)
  · exact absurd (proper 0 inDigits) (by decide)
  · exact absurd (List.eq_of_mem_replicate inPadding) (by decide)

end DrachtioModules.Base64

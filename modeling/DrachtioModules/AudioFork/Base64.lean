import DrachtioModules.Base64
import Mathlib.Algebra.Group.Nat.Defs
import Mathlib.Data.List.TakeWhile
import Mathlib.Tactic.Common

/-!
# base64.hpp

The header is the same in mod_audio_fork, which decodes what a server sends,
and in mod_assemblyai_transcribe, which encodes what it sends.  Neither end of
it is checked against the other in the source.
-/

namespace DrachtioModules.AudioFork

open Base64 (digit alphabet toUInt8_of_eq)

/-- `base64_chars` -/
def base64Chars : List UInt8 := alphabet

def isBase64 (c : UInt8) : Bool :=
  c == 43 || (47 ≤ c && c ≤ 57) || (65 ≤ c && c ≤ 90) || (97 ≤ c && c ≤ 122)

/-- `char_array_4` of a full `char_array_3`. -/
def sextets (a b c : UInt8) : List UInt8 :=
  [(a &&& 0xfc) >>> 2,
    ((a &&& 0x03) <<< 4) + ((b &&& 0xf0) >>> 4),
    ((b &&& 0x0f) <<< 2) + ((c &&& 0xc0) >>> 6),
    c &&& 0x3f]

/-- `base64_chars[value]` -/
def base64Char (value : UInt8) : UInt8 := base64Chars.getD value.toNat 0

/-- What stands in `char_array_3`, filled with zero bytes, and the characters
for it. -/
def encodeGroup (charArray3 : List UInt8) : List UInt8 :=
  (sextets (charArray3.getD 0 0) (charArray3.getD 1 0)
    (charArray3.getD 2 0)).map base64Char

/-- After the loop, with `i` bytes in `char_array_3`.  The byte 61 is the equals
sign. -/
def encodeRest (charArray3 ret : List UInt8) : List UInt8 :=
  let i := charArray3.length
  if i = 0 then ret
  else
    ret ++ (encodeGroup charArray3).take (i + 1) ++ List.replicate (3 - i) 61

def encodeLoop : List UInt8 → List UInt8 → List UInt8 → List UInt8
  | [], charArray3, ret => encodeRest charArray3 ret
  | byte :: input, charArray3, ret =>
      let charArray3 := charArray3 ++ [byte]
      if charArray3.length = 3 then
        encodeLoop input [] (ret ++ encodeGroup charArray3)
      else encodeLoop input charArray3 ret

def base64Encode (input : List UInt8) : List UInt8 := encodeLoop input [] []

/-- `static_cast<unsigned char>(base64_chars.find(c))`, where `npos` is all
ones. -/
def base64Find (c : UInt8) : UInt8 :=
  match base64Chars.idxOf? c with
  | some i => i.toUInt8
  | none => 255

/-- `char_array_3` of a full `char_array_4`. -/
def octets (a b c d : UInt8) : List UInt8 :=
  [(a <<< 2) + ((b &&& 0x30) >>> 4),
    ((b &&& 0xf) <<< 4) + ((c &&& 0x3c) >>> 2),
    ((c &&& 0x3) <<< 6) + d]

/-- What stands in `char_array_4`, filled with zero bytes, and the bytes it
stands for. -/
def decodeGroup (charArray4 : List UInt8) : List UInt8 :=
  octets (base64Find (charArray4.getD 0 0)) (base64Find (charArray4.getD 1 0))
    (base64Find (charArray4.getD 2 0)) (base64Find (charArray4.getD 3 0))

/-- After the loop, with `i` characters in `char_array_4`. -/
def decodeRest (charArray4 ret : List UInt8) : List UInt8 :=
  let i := charArray4.length
  if i = 0 then ret else ret ++ (decodeGroup charArray4).take (i - 1)

def decodeLoop : List UInt8 → List UInt8 → List UInt8 → List UInt8
  | [], charArray4, ret => decodeRest charArray4 ret
  | c :: input, charArray4, ret =>
      if c ≠ 61 ∧ isBase64 c = true then
        let charArray4 := charArray4 ++ [c]
        if charArray4.length = 4 then
          decodeLoop input [] (ret ++ decodeGroup charArray4)
        else decodeLoop input charArray4 ret
      else decodeRest charArray4 ret

def base64Decode (input : List UInt8) : List UInt8 := decodeLoop input [] []

theorem base64Char_eq (value : UInt8) : base64Char value = digit value.toNat :=
  rfl

theorem isBase64_iff (c : UInt8) :
    c ≠ 61 ∧ isBase64 c = true ↔ c ∈ alphabet := by
  have checked : ∀ n < 256, (n.toUInt8 ≠ 61 ∧ isBase64 n.toUInt8 = true ↔
      n.toUInt8 ∈ alphabet) := by decide +kernel
  simpa using checked c.toNat c.toNat_lt

theorem base64Find_digit :
    ∀ value < 64, base64Find (digit value) = value.toUInt8 := by
  decide +kernel

theorem exists_digit {c : UInt8} (char : c ∈ alphabet) :
    ∃ value < 64, c = digit value := by
  obtain ⟨value, small, same⟩ := List.getElem_of_mem char
  exact ⟨value, small, by rw [digit, List.getD_eq_getElem _ _ small, same]⟩

/-- The masks and shifts of the source, as the fields of a byte. -/
@[mk_iff fields_iff]
structure Fields (x : UInt8) : Prop where
  high6 : ((x &&& 0xfc) >>> 2).toNat = x.toNat / 4
  low2 : ((x &&& 0x03) <<< 4).toNat = x.toNat % 4 * 16
  high4 : ((x &&& 0xf0) >>> 4).toNat = x.toNat / 16
  low4 : ((x &&& 0x0f) <<< 2).toNat = x.toNat % 16 * 4
  high2 : ((x &&& 0xc0) >>> 6).toNat = x.toNat / 64
  low6 : (x &&& 0x3f).toNat = x.toNat % 64
  all6 : (x <<< 2).toNat = x.toNat % 64 * 4
  middle2 : ((x &&& 0x30) >>> 4).toNat = x.toNat / 16 % 4
  last4 : ((x &&& 0xf) <<< 4).toNat = x.toNat % 16 * 16
  middle4 : ((x &&& 0x3c) >>> 2).toNat = x.toNat / 4 % 16
  last2 : ((x &&& 0x3) <<< 6).toNat = x.toNat % 4 * 64

theorem fields (x : UInt8) : Fields x := by
  have checked : ∀ n < 256, Fields n.toUInt8 := by
    simp only [fields_iff]
    decide +kernel
  simpa using checked x.toNat x.toNat_lt

theorem sextets_eq (a b c : UInt8) : (sextets a b c).map base64Char =
    [digit (a.toNat / 4), digit (a.toNat % 4 * 16 + b.toNat / 16),
      digit (b.toNat % 16 * 4 + c.toNat / 64), digit (c.toNat % 64)] := by
  have bound := a.toNat_lt
  have bound' := b.toNat_lt
  have bound'' := c.toNat_lt
  simp only [sextets, List.map_cons, List.map_nil, base64Char_eq,
    UInt8.toNat_add, (fields a).high6, (fields a).low2, (fields b).high4,
    (fields b).low4, (fields c).high2, (fields c).low6]
  have second : (a.toNat % 4 * 16 + b.toNat / 16) % 2 ^ 8 =
      a.toNat % 4 * 16 + b.toNat / 16 := Nat.mod_eq_of_lt (by omega)
  have third : (b.toNat % 16 * 4 + c.toNat / 64) % 2 ^ 8 =
      b.toNat % 16 * 4 + c.toNat / 64 := Nat.mod_eq_of_lt (by omega)
  rw [second, third]

theorem eq_toUInt8 {c : UInt8} {value : Nat}
    (same : c.toNat = value % 256) : c = value.toUInt8 := by
  apply UInt8.toNat_inj.mp
  rw [same]
  simp

theorem toNat_toUInt8 {value : Nat} (small : value < 64) :
    value.toUInt8.toNat = value := by
  have bound : value < 256 := by omega
  simpa using Nat.mod_eq_of_lt bound

/-- Four values of six bits as three bytes; `c` and `d` may be more, as they
are for characters that are not there. -/
theorem octets_eq {a b : Nat} (ha : a < 64) (hb : b < 64) (c d : UInt8) :
    octets a.toUInt8 b.toUInt8 c d =
      [(a * 4 + b / 16).toUInt8, (b % 16 * 16 + c.toNat / 4 % 16).toUInt8,
        (c.toNat % 4 * 64 + d.toNat).toUInt8] := by
  have first := toNat_toUInt8 ha
  have second := toNat_toUInt8 hb
  have byte : (a.toUInt8 <<< 2) + ((b.toUInt8 &&& 0x30) >>> 4) =
      (a * 4 + b / 16).toUInt8 := by
    apply eq_toUInt8
    rw [UInt8.toNat_add, (fields _).all6, (fields _).middle2, first, second]
    omega
  have byte' : ((b.toUInt8 &&& 0xf) <<< 4) + ((c &&& 0x3c) >>> 2) =
      (b % 16 * 16 + c.toNat / 4 % 16).toUInt8 := by
    apply eq_toUInt8
    rw [UInt8.toNat_add, (fields _).last4, (fields _).middle4, second]
  have byte'' : ((c &&& 0x3) <<< 6) + d =
      (c.toNat % 4 * 64 + d.toNat).toUInt8 := by
    apply eq_toUInt8
    rw [UInt8.toNat_add, (fields _).last2]
  rw [octets, byte, byte', byte'']

theorem encodeLoop_group (a b c : UInt8) (input ret : List UInt8) :
    encodeLoop (a :: b :: c :: input) [] ret =
      encodeLoop input [] (ret ++ encodeGroup [a, b, c]) := by
  simp [encodeLoop]

theorem encodeLoop_eq (input ret : List UInt8) :
    encodeLoop input [] ret = ret ++ Base64.encode input := by
  induction input using Base64.encode.induct generalizing ret with
  | case1 => simp [encodeLoop, encodeRest, Base64.encode]
  | case2 a =>
      have group := sextets_eq a 0 0
      simp [encodeLoop, encodeRest, encodeGroup, group, Base64.encode]
  | case3 a b =>
      have group := sextets_eq a b 0
      simp [encodeLoop, encodeRest, encodeGroup, group, Base64.encode]
  | case4 a b c rest ih =>
      have group := sextets_eq a b c
      rw [encodeLoop_group, ih, encodeGroup]
      simp [group, Base64.encode]

theorem decodeLoop_char {c : UInt8} (char : c ∈ alphabet)
    (input charArray4 ret : List UInt8) :
    decodeLoop (c :: input) charArray4 ret =
      if (charArray4 ++ [c]).length = 4 then
        decodeLoop input [] (ret ++ decodeGroup (charArray4 ++ [c]))
      else decodeLoop input (charArray4 ++ [c]) ret := by
  rw [decodeLoop, if_pos ((isBase64_iff c).mpr char)]

theorem decodeLoop_stop {c : UInt8} (stop : c ∉ alphabet)
    (input charArray4 ret : List UInt8) :
    decodeLoop (c :: input) charArray4 ret = decodeRest charArray4 ret := by
  rw [decodeLoop, if_neg (mt (isBase64_iff c).mp stop)]

theorem decodeLoop_group {c₀ c₁ c₂ c₃ : UInt8} (h₀ : c₀ ∈ alphabet)
    (h₁ : c₁ ∈ alphabet) (h₂ : c₂ ∈ alphabet) (h₃ : c₃ ∈ alphabet)
    (input ret : List UInt8) :
    decodeLoop (c₀ :: c₁ :: c₂ :: c₃ :: input) [] ret =
      decodeLoop input [] (ret ++ decodeGroup [c₀, c₁, c₂, c₃]) := by
  rw [decodeLoop_char h₀, if_neg (by simp), decodeLoop_char h₁,
    if_neg (by simp), decodeLoop_char h₂, if_neg (by simp),
    decodeLoop_char h₃, if_pos (by simp)]
  simp

theorem digit_char {value : Nat} (small : value < 64) :
    digit value ∈ alphabet := Base64.digit_mem small

theorem padding_stop : (61 : UInt8) ∉ alphabet := by decide

theorem decodeGroup_eq {a b : Nat} (ha : a < 64) (hb : b < 64)
    (rest : List UInt8) :
    decodeGroup (digit a :: digit b :: rest) =
      [(a * 4 + b / 16).toUInt8,
        (b % 16 * 16 + (base64Find (rest.getD 0 0)).toNat / 4 % 16).toUInt8,
        ((base64Find (rest.getD 0 0)).toNat % 4 * 64 +
          (base64Find (rest.getD 1 0)).toNat).toUInt8] := by
  rw [← octets_eq ha hb, ← base64Find_digit a ha, ← base64Find_digit b hb]
  rfl

theorem toNat_find {value : Nat} (small : value < 64) :
    (base64Find (digit value)).toNat = value := by
  rw [base64Find_digit value small]
  exact toNat_toUInt8 small

theorem decodeLoop_encode (bytes ret : List UInt8) :
    decodeLoop (Base64.encode bytes) [] ret = ret ++ bytes := by
  induction bytes using Base64.encode.induct generalizing ret with
  | case1 => simp [decodeLoop, decodeRest, Base64.encode]
  | case2 a =>
      have bound := a.toNat_lt
      have h₀ : a.toNat / 4 < 64 := by omega
      have h₁ : a.toNat % 4 * 16 < 64 := by omega
      have group := decodeGroup_eq h₀ h₁ []
      rw [toUInt8_of_eq (c := a) (by omega)] at group
      rw [Base64.encode, decodeLoop_char (digit_char h₀), if_neg (by simp),
        decodeLoop_char (digit_char h₁), if_neg (by simp),
        decodeLoop_stop padding_stop]
      simp only [decodeRest, List.nil_append, List.cons_append, group]
      simp
  | case3 a b =>
      have bound := a.toNat_lt
      have bound' := b.toNat_lt
      have h₀ : a.toNat / 4 < 64 := by omega
      have h₁ : a.toNat % 4 * 16 + b.toNat / 16 < 64 := by omega
      have h₂ : b.toNat % 16 * 4 < 64 := by omega
      have group := decodeGroup_eq h₀ h₁ [digit (b.toNat % 16 * 4)]
      rw [List.getD_cons_zero, toNat_find h₂, toUInt8_of_eq (c := a) (by omega),
        toUInt8_of_eq (c := b) (by omega)] at group
      rw [Base64.encode, decodeLoop_char (digit_char h₀), if_neg (by simp),
        decodeLoop_char (digit_char h₁), if_neg (by simp),
        decodeLoop_char (digit_char h₂), if_neg (by simp),
        decodeLoop_stop padding_stop]
      simp only [decodeRest, List.nil_append, List.cons_append, group]
      simp
  | case4 a b c rest ih =>
      have bound := a.toNat_lt
      have bound' := b.toNat_lt
      have bound'' := c.toNat_lt
      have h₀ : a.toNat / 4 < 64 := by omega
      have h₁ : a.toNat % 4 * 16 + b.toNat / 16 < 64 := by omega
      have h₂ : b.toNat % 16 * 4 + c.toNat / 64 < 64 := by omega
      have h₃ : c.toNat % 64 < 64 := by omega
      have group := decodeGroup_eq h₀ h₁
        [digit (b.toNat % 16 * 4 + c.toNat / 64), digit (c.toNat % 64)]
      rw [List.getD_cons_zero, List.getD_cons_succ, List.getD_cons_zero,
        toNat_find h₂, toNat_find h₃, toUInt8_of_eq (c := a) (by omega),
        toUInt8_of_eq (c := b) (by omega), toUInt8_of_eq (c := c) (by omega)]
        at group
      rw [Base64.encode, decodeLoop_group (digit_char h₀) (digit_char h₁)
        (digit_char h₂) (digit_char h₃), ih, group]
      simp

theorem decodeLoop_takeWhile (text charArray4 ret : List UInt8) :
    decodeLoop text charArray4 ret =
      decodeLoop (text.takeWhile (· ∈ alphabet)) charArray4 ret := by
  induction text generalizing charArray4 ret with
  | nil => rfl
  | cons c text ih =>
      by_cases char : c ∈ alphabet
      · rw [List.takeWhile_cons_of_pos (by simpa using char),
          decodeLoop_char char, decodeLoop_char char, ih, ih]
      · rw [List.takeWhile_cons_of_neg (by simpa using char),
          decodeLoop_stop char, decodeLoop]

theorem length_decodeGroup (charArray4 : List UInt8) :
    (decodeGroup charArray4).length = 3 := rfl

theorem length_decodeLoop {text : List UInt8}
    (chars : ∀ c ∈ text, c ∈ alphabet) (charArray4 ret : List UInt8)
    (partly : charArray4.length < 4) :
    (decodeLoop text charArray4 ret).length = ret.length +
      ((charArray4.length + text.length) / 4 * 3 +
        ((charArray4.length + text.length) % 4 - 1)) := by
  induction text generalizing charArray4 ret with
  | nil =>
      rw [decodeLoop, decodeRest]
      split
      · next empty => simp [empty]
      · rw [List.length_append, List.length_take, length_decodeGroup,
          List.length_nil]
        omega
  | cons c text ih =>
      have rest : ∀ c ∈ text, c ∈ alphabet := fun c more =>
        chars c (List.mem_cons_of_mem _ more)
      rw [decodeLoop_char (chars c List.mem_cons_self)]
      split
      · next full =>
          rw [List.length_append, List.length_singleton] at full
          rw [ih rest [] _ (by simp), List.length_append, length_decodeGroup,
            List.length_cons, List.length_nil]
          omega
      · next more =>
          rw [List.length_append, List.length_singleton] at more
          rw [ih rest _ _ (by simp; omega), List.length_append,
            List.length_singleton, List.length_cons]
          omega

/-- Whole groups of characters are what some bytes are encoded as. -/
theorem encode_surjective : ∀ text : List UInt8, (∀ c ∈ text, c ∈ alphabet) →
    text.length % 4 = 0 → ∃ bytes, Base64.encode bytes = text
  | [], _, _ => ⟨[], rfl⟩
  | [_], _, whole | [_, _], _, whole | [_, _, _], _, whole => by
      simp at whole
  | c₀ :: c₁ :: c₂ :: c₃ :: text, chars, whole => by
      obtain ⟨v₀, h₀, rfl⟩ := exists_digit (chars c₀ (by simp))
      obtain ⟨v₁, h₁, rfl⟩ := exists_digit (chars c₁ (by simp))
      obtain ⟨v₂, h₂, rfl⟩ := exists_digit (chars c₂ (by simp))
      obtain ⟨v₃, h₃, rfl⟩ := exists_digit (chars c₃ (by simp))
      obtain ⟨bytes, same⟩ := encode_surjective text
        (fun c more => chars c (by simp [more])) (by simp at whole; omega)
      have small : ∀ {value : Nat}, value < 256 →
          value.toUInt8.toNat = value := by
        intro value bound
        simpa using Nat.mod_eq_of_lt bound
      have a := small (show v₀ * 4 + v₁ / 16 < 256 by omega)
      have b := small (show v₁ % 16 * 16 + v₂ / 4 < 256 by omega)
      have c := small (show v₂ % 4 * 64 + v₃ < 256 by omega)
      refine ⟨(v₀ * 4 + v₁ / 16).toUInt8 :: (v₁ % 16 * 16 + v₂ / 4).toUInt8 ::
        (v₂ % 4 * 64 + v₃).toUInt8 :: bytes, ?_⟩
      have d₀ : (v₀ * 4 + v₁ / 16) / 4 = v₀ := by omega
      have d₁ : (v₀ * 4 + v₁ / 16) % 4 * 16 +
          (v₁ % 16 * 16 + v₂ / 4) / 16 = v₁ := by omega
      have d₂ : (v₁ % 16 * 16 + v₂ / 4) % 16 * 4 +
          (v₂ % 4 * 64 + v₃) / 64 = v₂ := by omega
      have d₃ : (v₂ % 4 * 64 + v₃) % 64 = v₃ := by omega
      rw [Base64.encode, a, b, c, d₀, d₁, d₂, d₃, same]

theorem base64Encode_eq (input : List UInt8) :
    base64Encode input = Base64.encode input :=
  encodeLoop_eq input []

theorem base64Decode_encode (input : List UInt8) :
    base64Decode (base64Encode input) = input := by
  rw [base64Encode_eq]
  exact decodeLoop_encode input []

/-- What is written is the standard encoding and is read back.  Of any other
text the longest prefix of characters is read, a last group of two or three of
them as one or two bytes and a single one as nothing; and whole groups are
what their bytes are written as. -/
theorem base64_header (input text : List UInt8) :
    base64Encode input = Base64.encode input ∧
    base64Decode (base64Encode input) = input ∧
    base64Decode text = base64Decode (text.takeWhile (· ∈ base64Chars)) ∧
    (base64Decode text).length =
      (text.takeWhile (· ∈ base64Chars)).length / 4 * 3 +
        ((text.takeWhile (· ∈ base64Chars)).length % 4 - 1) ∧
    ((∀ c ∈ text, c ∈ base64Chars) → text.length % 4 = 0 →
      base64Encode (base64Decode text) = text) := by
  have prefixed := decodeLoop_takeWhile text [] []
  have chars : ∀ c ∈ text.takeWhile (· ∈ alphabet), c ∈ alphabet :=
    fun c member => by simpa using List.mem_takeWhile_imp member
  have length := length_decodeLoop chars [] [] (by decide)
  refine ⟨base64Encode_eq input, base64Decode_encode input, prefixed, ?_, ?_⟩
  · simp only [List.length_nil, Nat.zero_add] at length
    exact (congrArg List.length prefixed).trans length
  · intro chars whole
    obtain ⟨bytes, rfl⟩ := encode_surjective text chars whole
    rw [← base64Encode_eq, base64Decode_encode]

/-- The text `Zm9v` is four characters that stand for the bytes of `foo`. -/
theorem base64_header_of_group :
    base64Encode (base64Decode (Percent.ascii "Zm9v")) =
      Percent.ascii "Zm9v" := by
  obtain ⟨-, -, -, -, inverse⟩ := base64_header [] (Percent.ascii "Zm9v")
  exact inverse (by decide +kernel) (by decide +kernel)

end DrachtioModules.AudioFork

import DrachtioModules.AudioFork.Pipe
import DrachtioModules.Percent

/-!
# `encodeURIComponent`

The digits of an escaped byte are written without a leading zero, so a byte
below 16 takes only one, and the byte that follows it is read as the second.
-/

namespace DrachtioModules.Deepgram

open AudioFork (Bytes)
open Percent (ascii hexDigit hexValue)

/-- The class of the regular expression, whose third range is from the asterisk
to the full stop. -/
def unescaped (c : UInt8) : Bool :=
  (ascii "!'()_~:").contains c || (42 ≤ c && c ≤ 46) || (48 ≤ c && c ≤ 57) ||
    (65 ≤ c && c ≤ 90) || (97 ≤ c && c ≤ 122)

/-- `std::uppercase << std::hex`, which writes as few digits as it can. -/
def hex (c : UInt8) : Bytes :=
  if c < 16 then [hexDigit c.toNat]
  else [hexDigit (c.toNat / 16), hexDigit (c.toNat % 16)]

def encodeURIComponent : Bytes → Bytes
  | [] => []
  | c :: decoded =>
      if unescaped c then c :: encodeURIComponent decoded
      else 37 :: (hex c ++ encodeURIComponent decoded)

theorem escaped_of_low {c : UInt8} (low : c < 16) : unescaped c = false := by
  have bound : c.toNat < 16 := UInt8.lt_iff_toNat_lt.mp low
  have all : ∀ n < 16, unescaped n.toUInt8 = false := by decide
  simpa using all c.toNat bound

theorem plain_of_unescaped {c : UInt8} (plain : unescaped c = true) :
    c ≠ 37 ∧ c ≠ 38 ∧ c ≠ 61 := by
  refine ⟨?_, ?_, ?_⟩ <;>
    · rintro rfl
      revert plain
      decide

theorem encode_unescaped {c : UInt8} (decoded : Bytes)
    (plain : unescaped c = true) :
    encodeURIComponent (c :: decoded) = c :: encodeURIComponent decoded := by
  rw [encodeURIComponent, if_pos plain]

theorem encode_escaped {c : UInt8} (decoded : Bytes)
    (escaped : unescaped c = false) :
    encodeURIComponent (c :: decoded) =
      37 :: (hex c ++ encodeURIComponent decoded) := by
  rw [encodeURIComponent, if_neg (by simp [escaped])]

/-- A byte with two digits, or none to escape, is read back. -/
theorem decode_high {c : UInt8} (decoded : Bytes) (high : 16 ≤ c) :
    Percent.decode (encodeURIComponent (c :: decoded)) =
      (Percent.decode (encodeURIComponent decoded)).map fun rest =>
        c :: rest := by
  cases plain : unescaped c with
  | true =>
      rw [encode_unescaped decoded plain]
      exact Percent.decode_plain _ (plain_of_unescaped plain).1
  | false =>
      rw [encode_escaped decoded plain, hex,
        if_neg (UInt8.not_lt.mpr high)]
      exact Percent.decode_byte c _

/-- The one digit of a byte below 16 takes the next byte with it, if the two can
be read at all. -/
theorem decode_low {c : UInt8} {decoded read : Bytes} (low : c < 16)
    (success : Percent.decode (encodeURIComponent (c :: decoded)) =
      some read) :
    ∃ next rest byte after, decoded = next :: rest ∧ read = byte :: after ∧
      Percent.decode (encodeURIComponent rest) = some after := by
  rw [encode_escaped decoded (escaped_of_low low), hex, if_pos low] at success
  cases decoded with
  | nil =>
      rw [List.singleton_append, encodeURIComponent, Percent.decode.eq_def]
        at success
      simp at success
  | cons next rest =>
      cases plain : unescaped next with
      | true =>
          rw [encode_unescaped rest plain, List.singleton_append,
            Percent.decode.eq_def] at success
          simp only [if_true] at success
          split at success
          · obtain ⟨after, tail, rfl⟩ := Option.map_eq_some_iff.mp success
            exact ⟨next, rest, _, after, rfl, rfl, tail⟩
          · cases success
      | false =>
          have percent : hexValue 37 = none := by decide
          rw [encode_escaped rest plain, List.singleton_append,
            Percent.decode.eq_def] at success
          simp only [if_true, percent] at success
          split at success
          · rename_i impossible
            cases impossible
          · cases success

/-- No more bytes are read back than there were, and as many only if each had
two digits or none. -/
theorem length_of_decode {decoded : Bytes} (read : Bytes)
    (success : Percent.decode (encodeURIComponent decoded) = some read) :
    read.length ≤ decoded.length ∧
      (read.length = decoded.length → ∀ c ∈ decoded, 16 ≤ c) := by
  induction size : decoded.length using Nat.strongRecOn
    generalizing decoded read with
  | ind n ih =>
      subst size
      cases decoded with
      | nil =>
          cases success
          simp
      | cons c decoded =>
          by_cases low : c < 16
          · obtain ⟨next, rest, byte, after, rfl, rfl, tail⟩ :=
              decode_low low success
            have shorter : rest.length < (c :: next :: rest).length := by
              simp only [List.length_cons]
              omega
            have bound := (ih rest.length shorter after tail rfl).1
            simp only [List.length_cons]
            omega
          · have high : 16 ≤ c := UInt8.not_lt.mp low
            rw [decode_high decoded high] at success
            obtain ⟨after, tail, rfl⟩ := Option.map_eq_some_iff.mp success
            obtain ⟨bound, whole⟩ := ih decoded.length (by simp) after tail rfl
            refine ⟨by simpa using bound, ?_⟩
            intro same d member
            rcases List.mem_cons.mp member with rfl | later
            · exact high
            · exact whole (by simpa using same) d later

theorem decode_of_high {decoded : Bytes} (high : ∀ c ∈ decoded, 16 ≤ c) :
    Percent.decode (encodeURIComponent decoded) = some decoded := by
  induction decoded with
  | nil => rfl
  | cons c decoded ih =>
      rw [decode_high decoded (high c (by simp)),
        ih fun d member => high d (by simp [member])]
      rfl

/-- The bytes that are read back are those of which every one has two digits or
none to escape, and on these the encoding is injective. -/
theorem decodes_iff (decoded other : Bytes) :
    (Percent.decode (encodeURIComponent decoded) = some decoded ↔
      ∀ c ∈ decoded, 16 ≤ c) ∧
    ((∀ c ∈ decoded, 16 ≤ c) → (∀ c ∈ other, 16 ≤ c) →
      encodeURIComponent decoded = encodeURIComponent other →
        decoded = other) := by
  constructor
  · refine ⟨?_, decode_of_high⟩
    intro success
    exact (length_of_decode decoded success).2 rfl
  · intro high high' same
    have read := decode_of_high high
    rw [same, decode_of_high high'] at read
    exact (Option.some.inj read).symm

/-- A percent sign and a space. -/
theorem decodes_of_percent :
    Percent.decode (encodeURIComponent (ascii "5% off")) =
      some (ascii "5% off") ∧
    ascii "5% off" = [53, 37, 32, 111, 102, 102] :=
  ⟨(decodes_iff (ascii "5% off") []).1.mpr
      (List.all_iff_forall_prop.mp (by decide)),
    (decodes_iff _ _).2 (List.all_iff_forall_prop.mp (by decide))
      (List.all_iff_forall_prop.mp (by decide)) (by decide)⟩

/-- A line feed has one digit, and a one after it makes another byte of it. -/
theorem line_feed_decodes :
    ¬ ((∀ decoded : Bytes,
        Percent.decode (encodeURIComponent decoded) = some decoded) ∧
      Function.Injective encodeURIComponent) := by
  rintro ⟨decodes, _⟩
  have lost := decodes [10]
  revert lost
  decide

example : encodeURIComponent [10, 49] = encodeURIComponent [161] := by decide

end DrachtioModules.Deepgram

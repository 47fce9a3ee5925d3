import DrachtioModules.Base64
import Mathlib.Algebra.Group.Nat.Defs
import Mathlib.Tactic.Common

/-!
# `base64_encode` and `base64_decode`

Both shift into an `int` that is never masked, so the bits above those still to
be written are stale.
-/

namespace DrachtioModules.Cobalt

open Base64 (digit toUInt8_of_eq)

def chars : List UInt8 := Base64.alphabet

/-- `(val >> by) & 0x3F`, as an index into `chars`. -/
def sixBits (val : BitVec 32) (shift : Nat) : Nat :=
  (val.sshiftRight shift &&& 0x3F#32).toNat

/-- `(char) ((val >> by) & 0xFF)`. -/
def eightBits (val : BitVec 32) (shift : Nat) : UInt8 :=
  (val.sshiftRight shift &&& 0xFF#32).toNat.toUInt8

/-- The inner loop of the encoder. -/
def pushChars (val : BitVec 32) (valb : Int) (encoded : List UInt8) :
    Int × List UInt8 :=
  if 0 ≤ valb then
    pushChars val (valb - 6)
      (encoded ++ [chars.getD (sixBits val valb.toNat) 0])
  else (valb, encoded)
termination_by (valb + 1).toNat
decreasing_by omega

structure Encoding where
  val : BitVec 32 := 0
  valb : Int := -6
  encoded : List UInt8 := []

def encodeByte (state : Encoding) (c : UInt8) : Encoding :=
  let val := (state.val <<< 8) + BitVec.ofNat 32 c.toNat
  let (valb, encoded) := pushChars val (state.valb + 8) state.encoded
  { val, valb, encoded }

/-- The byte 61 is the equals sign. -/
def pad (encoded : List UInt8) : List UInt8 :=
  if encoded.length % 4 ≠ 0 then pad (encoded ++ [61]) else encoded
termination_by (4 - encoded.length % 4) % 4
decreasing_by
  simp only [List.length_append, List.length_singleton]
  omega

/-- After the last byte. -/
def finish (state : Encoding) : List UInt8 :=
  if -6 < state.valb then
    pad (state.encoded ++
      [chars.getD (sixBits (state.val <<< 8) (state.valb + 8).toNat) 0])
  else pad state.encoded

def base64Encode (input : List UInt8) : List UInt8 :=
  finish (input.foldl encodeByte {})

/-- `std::vector<int> T(256, -1)`, and then the loop that fills it. -/
def table : List Int :=
  (List.range 64).foldl (fun T i => T.set (chars.getD i 0).toNat i)
    (List.replicate 256 (-1))

/-- The inner loop of the decoder. -/
def pushBytes (val : BitVec 32) (valb : Int) (decoded : List UInt8) :
    Int × List UInt8 :=
  if 0 ≤ valb then
    pushBytes val (valb - 8) (decoded ++ [eightBits val valb.toNat])
  else (valb, decoded)
termination_by (valb + 1).toNat
decreasing_by omega

def decodeChars (val : BitVec 32) (valb : Int) (decoded : List UInt8) :
    List UInt8 → List UInt8
  | [] => decoded
  | c :: input =>
      if table.getD c.toNat (-1) = -1 then decoded
      else
        let val := (val <<< 6) + BitVec.ofInt 32 (table.getD c.toNat (-1))
        let (valb, decoded) := pushBytes val (valb + 6) decoded
        decodeChars val valb decoded input

def base64Decode (input : List UInt8) : List UInt8 :=
  decodeChars 0 (-8) [] input

/-- The bits that an arithmetic shift fills in are above those that are read. -/
theorem masked_bits (val : BitVec 32) (width : Nat) {shift : Nat}
    (fits : shift + width ≤ 32) :
    (val.sshiftRight shift &&& BitVec.ofNat 32 (2 ^ width - 1)).toNat =
      val.toNat / 2 ^ shift % 2 ^ width := by
  have mask : (BitVec.ofNat 32 (2 ^ width - 1)).toNat = 2 ^ width - 1 := by
    have small : 2 ^ width ≤ 2 ^ 32 :=
      Nat.pow_le_pow_right (by decide) (by omega)
    have positive := Nat.two_pow_pos width
    rw [BitVec.toNat_ofNat, Nat.mod_eq_of_lt (by omega)]
  rw [BitVec.toNat_and, mask, Nat.and_two_pow_sub_one_eq_mod]
  apply Nat.eq_of_testBit_eq
  intro i
  rw [Nat.testBit_mod_two_pow, Nat.testBit_mod_two_pow,
    Nat.testBit_div_two_pow, BitVec.testBit_toNat, BitVec.testBit_toNat,
    BitVec.getLsbD_sshiftRight]
  by_cases low : i < width
  · have inside : shift + i < 32 := by omega
    have small : ¬ 32 ≤ i := by omega
    rw [Nat.add_comm i shift]
    simp [low, inside, small]
  · simp [low]

theorem sixBits_eq (val : BitVec 32) {shift : Nat} (fits : shift ≤ 26) :
    sixBits val shift = val.toNat / 2 ^ shift % 64 :=
  masked_bits val 6 (by omega)

theorem eightBits_eq (val : BitVec 32) {shift : Nat} (fits : shift ≤ 24) :
    eightBits val shift = (val.toNat / 2 ^ shift % 256).toUInt8 :=
  congrArg Nat.toUInt8 (masked_bits val 8 (by omega))

theorem shiftIn_eight (val : BitVec 32) (c : UInt8) :
    ((val <<< 8) + BitVec.ofNat 32 c.toNat).toNat =
      (val.toNat * 256 + c.toNat) % 2 ^ 32 := by
  simp [Nat.shiftLeft_eq]

theorem shiftIn_six (val : BitVec 32) {value : Nat} :
    ((val <<< 6) + BitVec.ofInt 32 value).toNat =
      (val.toNat * 64 + value) % 2 ^ 32 := by
  simp [Nat.shiftLeft_eq]

theorem chars_digit (value : Nat) : chars.getD value 0 = digit value := rfl

theorem pushChars_once (val : BitVec 32) {valb : Int} (encoded : List UInt8)
    (once : 0 ≤ valb ∧ valb < 6) :
    pushChars val valb encoded =
      (valb - 6, encoded ++ [digit (val.toNat / 2 ^ valb.toNat % 64)]) := by
  rw [pushChars, if_pos once.1, pushChars, if_neg (by omega), chars_digit,
    sixBits_eq val (by omega)]

theorem pushChars_twice (val : BitVec 32) (encoded : List UInt8) :
    pushChars val 6 encoded =
      (-6, encoded ++
        [digit (val.toNat / 64 % 64), digit (val.toNat % 64)]) := by
  rw [pushChars, if_pos (by decide), pushChars_once val _ (by decide),
    chars_digit, sixBits_eq val (by decide)]
  simp

/-- Of the accumulator only the last byte is known, which is enough: fewer than
eight of its bits are still to be written. -/
structure Written (state : Encoding) (valb : Int) (encoded : List UInt8)
    (last : Nat) : Prop where
  bits : state.valb = valb
  chars : state.encoded = encoded
  low : state.val.toNat % 256 = last

theorem Written.first {state : Encoding} (a : UInt8)
    (aligned : state.valb = -6) :
    Written (encodeByte state a) (-4)
      (state.encoded ++ [digit (a.toNat / 4)]) a.toNat := by
  have bound := a.toNat_lt
  have shifted := shiftIn_eight state.val a
  have value : (state.val.toNat * 256 + a.toNat) % 2 ^ 32 / 2 ^ 2 % 64 =
      a.toNat / 4 := by omega
  simp only [encodeByte, aligned]
  rw [pushChars_once _ state.encoded (by decide)]
  refine ⟨rfl, ?_, ?_⟩
  · rw [shifted]
    exact congrArg (fun value => state.encoded ++ [digit value]) value
  · rw [shifted]
    omega

theorem Written.second {state : Encoding} {encoded : List UInt8} {a : Nat}
    (b : UInt8) (written : Written state (-4) encoded a) :
    Written (encodeByte state b) (-2)
      (encoded ++ [digit (a % 4 * 16 + b.toNat / 16)]) b.toNat := by
  have bound := b.toNat_lt
  have low := written.low
  have shifted := shiftIn_eight state.val b
  have value : (state.val.toNat * 256 + b.toNat) % 2 ^ 32 / 2 ^ 4 % 64 =
      a % 4 * 16 + b.toNat / 16 := by omega
  simp only [encodeByte, written.bits, written.chars]
  rw [pushChars_once _ encoded (by decide)]
  refine ⟨rfl, ?_, ?_⟩
  · rw [shifted]
    exact congrArg (fun value => encoded ++ [digit value]) value
  · rw [shifted]
    omega

theorem Written.third {state : Encoding} {encoded : List UInt8} {b : Nat}
    (c : UInt8) (written : Written state (-2) encoded b) :
    Written (encodeByte state c) (-6)
      (encoded ++ [digit (b % 16 * 4 + c.toNat / 64), digit (c.toNat % 64)])
      c.toNat := by
  have bound := c.toNat_lt
  have low := written.low
  have shifted := shiftIn_eight state.val c
  have value : (state.val.toNat * 256 + c.toNat) % 2 ^ 32 / 64 % 64 =
      b % 16 * 4 + c.toNat / 64 := by omega
  have value' : (state.val.toNat * 256 + c.toNat) % 2 ^ 32 % 64 =
      c.toNat % 64 := by omega
  simp only [encodeByte, written.bits, written.chars]
  rw [show (-2 + 8 : Int) = 6 from rfl, pushChars_twice _ encoded]
  refine ⟨rfl, ?_, ?_⟩
  · rw [shifted, value, value']
  · rw [shifted]
    omega

theorem pad_aligned {encoded : List UInt8} (aligned : encoded.length % 4 = 0) :
    pad encoded = encoded := by
  rw [pad, if_neg (by simpa using aligned)]

theorem pad_step {encoded : List UInt8} (unaligned : encoded.length % 4 ≠ 0) :
    pad encoded = pad (encoded ++ [61]) := by
  rw [pad, if_pos unaligned]

theorem shiftOut_eight (val : BitVec 32) :
    (val <<< 8).toNat = val.toNat * 256 % 2 ^ 32 := by
  simp [Nat.shiftLeft_eq]

/-- The bits left of the last byte, followed by zeros. -/
theorem Written.finish_first {state : Encoding} {encoded : List UInt8}
    {a : Nat} (written : Written state (-4) encoded a) :
    finish state = pad (encoded ++ [digit (a % 4 * 16)]) := by
  have low := written.low
  have value : state.val.toNat * 256 % 2 ^ 32 / 2 ^ 4 % 64 = a % 4 * 16 := by
    omega
  have bits : sixBits (state.val <<< 8) 4 = a % 4 * 16 := by
    rw [sixBits_eq _ (by decide), shiftOut_eight, value]
  rw [finish, written.bits, written.chars, if_pos (by decide),
    show ((-4 : Int) + 8).toNat = 4 from rfl, bits, chars_digit]

theorem Written.finish_second {state : Encoding} {encoded : List UInt8}
    {b : Nat} (written : Written state (-2) encoded b) :
    finish state = pad (encoded ++ [digit (b % 16 * 4)]) := by
  have low := written.low
  have value : state.val.toNat * 256 % 2 ^ 32 / 2 ^ 6 % 64 = b % 16 * 4 := by
    omega
  have bits : sixBits (state.val <<< 8) 6 = b % 16 * 4 := by
    rw [sixBits_eq _ (by decide), shiftOut_eight, value]
  rw [finish, written.bits, written.chars, if_pos (by decide),
    show ((-2 : Int) + 8).toNat = 6 from rfl, bits, chars_digit]

/-- From a state between two groups the rest is written as it would be from the
start, whatever the accumulator holds. -/
theorem encode_from {state : Encoding} (input : List UInt8)
    (aligned : state.valb = -6) (whole : state.encoded.length % 4 = 0) :
    finish (input.foldl encodeByte state) =
      state.encoded ++ Base64.encode input := by
  induction input using Base64.encode.induct generalizing state with
  | case1 =>
      rw [List.foldl_nil, finish, if_neg (by omega), pad_aligned whole]
      simp [Base64.encode]
  | case2 a =>
      have first := Written.first a aligned
      rw [List.foldl_cons, List.foldl_nil, first.finish_first,
        pad_step (by simp; omega), pad_step (by simp; omega),
        pad_aligned (by simp; omega)]
      simp [Base64.encode]
  | case3 a b =>
      have second := (Written.first a aligned).second b
      rw [List.foldl_cons, List.foldl_cons, List.foldl_nil,
        second.finish_second, pad_step (by simp; omega),
        pad_aligned (by simp; omega)]
      simp [Base64.encode]
  | case4 a b c rest ih =>
      have third := ((Written.first a aligned).second b).third c
      have continued := ih third.bits (by
        rw [third.chars]
        simp
        omega)
      rw [List.foldl_cons, List.foldl_cons, List.foldl_cons, continued,
        third.chars]
      simp [Base64.encode]

theorem table_values :
    (∀ value < 64, table.getD (digit value).toNat (-1) = value) ∧
      table.getD (61 : UInt8).toNat (-1) = -1 := by decide +kernel

theorem decodeChars_digit (val : BitVec 32) (valb : Int)
    (decoded input : List UInt8) {value : Nat} (small : value < 64) :
    ∃ val' : BitVec 32,
      val'.toNat = (val.toNat * 64 + value) % 2 ^ 32 ∧
      decodeChars val valb decoded (digit value :: input) =
        decodeChars val' (pushBytes val' (valb + 6) decoded).1
          (pushBytes val' (valb + 6) decoded).2 input := by
  refine ⟨_, shiftIn_six val, ?_⟩
  rw [decodeChars, table_values.1 value small, if_neg (by omega)]

theorem decodeChars_padding (val : BitVec 32) (valb : Int)
    (decoded input : List UInt8) :
    decodeChars val valb decoded (61 :: input) = decoded := by
  rw [decodeChars, if_pos table_values.2]

theorem pushBytes_none (val : BitVec 32) {valb : Int} (decoded : List UInt8)
    (none : valb < 0) : pushBytes val valb decoded = (valb, decoded) := by
  rw [pushBytes, if_neg (by omega)]

theorem pushBytes_once (val : BitVec 32) {valb : Int} (decoded : List UInt8)
    (once : 0 ≤ valb ∧ valb < 8) :
    pushBytes val valb decoded =
      (valb - 8, decoded ++
        [(val.toNat / 2 ^ valb.toNat % 256).toUInt8]) := by
  rw [pushBytes, if_pos once.1, pushBytes, if_neg (by omega),
    eightBits_eq val (by omega)]

/-- What follows is read from an accumulator whose low bits are a value. -/
def Resumes (read : List UInt8) (valb : Int) (decoded input : List UInt8)
    (value : Nat) : Prop :=
  ∃ val : BitVec 32, val.toNat % 64 = value ∧
    read = decodeChars val valb decoded input

theorem Resumes.first (val : BitVec 32) (decoded input : List UInt8)
    {value : Nat} (small : value < 64) :
    Resumes (decodeChars val (-8) decoded (digit value :: input)) (-2) decoded
      input value := by
  obtain ⟨val', shifted, same⟩ :=
    decodeChars_digit val (-8) decoded input small
  rw [pushBytes_none val' decoded (by decide)] at same
  exact ⟨val', by omega, same⟩

theorem Resumes.second {read decoded input : List UInt8} {value next : Nat}
    (resumes : Resumes read (-2) decoded (digit next :: input) value)
    (small : next < 64) :
    Resumes read (-4) (decoded ++ [(value * 4 + next / 16).toUInt8]) input
      next := by
  obtain ⟨val, low, read⟩ := resumes
  obtain ⟨val', shifted, same⟩ :=
    decodeChars_digit val (-2) decoded input small
  have rest : val'.toNat % 64 = next := by omega
  have byte : val'.toNat / 2 ^ 4 % 256 = value * 4 + next / 16 := by omega
  rw [pushBytes_once val' decoded (by decide)] at same
  refine ⟨val', rest, ?_⟩
  rw [read, same, ← byte]
  rfl

theorem Resumes.third {read decoded input : List UInt8} {value next : Nat}
    (resumes : Resumes read (-4) decoded (digit next :: input) value)
    (small : next < 64) :
    Resumes read (-6) (decoded ++ [(value % 16 * 16 + next / 4).toUInt8]) input
      next := by
  obtain ⟨val, low, read⟩ := resumes
  obtain ⟨val', shifted, same⟩ :=
    decodeChars_digit val (-4) decoded input small
  have rest : val'.toNat % 64 = next := by omega
  have byte : val'.toNat / 2 ^ 2 % 256 = value % 16 * 16 + next / 4 := by omega
  rw [pushBytes_once val' decoded (by decide)] at same
  refine ⟨val', rest, ?_⟩
  rw [read, same, ← byte]
  rfl

theorem Resumes.fourth {read decoded input : List UInt8} {value next : Nat}
    (resumes : Resumes read (-6) decoded (digit next :: input) value)
    (small : next < 64) :
    Resumes read (-8) (decoded ++ [(value % 4 * 64 + next).toUInt8]) input
      next := by
  obtain ⟨val, low, read⟩ := resumes
  obtain ⟨val', shifted, same⟩ :=
    decodeChars_digit val (-6) decoded input small
  have rest : val'.toNat % 64 = next := by omega
  have byte : val'.toNat / 2 ^ 0 % 256 = value % 4 * 64 + next := by omega
  rw [pushBytes_once val' decoded (by decide)] at same
  refine ⟨val', rest, ?_⟩
  rw [read, same, ← byte]
  rfl

theorem decode_from (val : BitVec 32) (decoded bytes : List UInt8) :
    decodeChars val (-8) decoded (Base64.encode bytes) = decoded ++ bytes := by
  induction bytes using Base64.encode.induct generalizing val decoded with
  | case1 => simp [Base64.encode, decodeChars]
  | case2 a =>
      have bound := a.toNat_lt
      have first := Resumes.first val decoded
        (digit (a.toNat % 4 * 16) :: [61, 61])
        (show a.toNat / 4 < 64 by omega)
      obtain ⟨val', _, same⟩ := first.second (by omega)
      rw [Base64.encode, same, decodeChars_padding,
        toUInt8_of_eq (c := a) (by omega)]
  | case3 a b =>
      have bound := a.toNat_lt
      have bound' := b.toNat_lt
      have first := Resumes.first val decoded
        (digit (a.toNat % 4 * 16 + b.toNat / 16) ::
          digit (b.toNat % 16 * 4) :: [61])
        (show a.toNat / 4 < 64 by omega)
      have second := first.second (by omega)
      obtain ⟨val', _, same⟩ := second.third (by omega)
      rw [Base64.encode, same, decodeChars_padding,
        toUInt8_of_eq (c := a) (by omega), toUInt8_of_eq (c := b) (by omega)]
      simp
  | case4 a b c rest ih =>
      have bound := a.toNat_lt
      have bound' := b.toNat_lt
      have bound'' := c.toNat_lt
      have first := Resumes.first val decoded
        (digit (a.toNat % 4 * 16 + b.toNat / 16) ::
          digit (b.toNat % 16 * 4 + c.toNat / 64) :: digit (c.toNat % 64) ::
          Base64.encode rest)
        (show a.toNat / 4 < 64 by omega)
      have second := first.second (by omega)
      have third := second.third (by omega)
      obtain ⟨val', _, same⟩ := third.fourth (by omega)
      rw [Base64.encode, same, ih,
        toUInt8_of_eq (c := a) (by omega), toUInt8_of_eq (c := b) (by omega),
        toUInt8_of_eq (c := c) (by omega)]
      simp

theorem encode_eq (s : List UInt8) : base64Encode s = Base64.encode s :=
  encode_from s rfl rfl

/-- What is written is the standard encoding, with its padding, and it is read
back. -/
theorem base64_round_trip (s : List UInt8) :
    base64Encode s = Base64.encode s ∧ (base64Encode s).length % 4 = 0 ∧
    (∃ digits, (∀ c ∈ digits, c ∈ chars) ∧
      base64Encode s = digits ++ List.replicate ((3 - s.length % 3) % 3) 61) ∧
    base64Decode (base64Encode s) = s := by
  have whole := Base64.length_encode s
  have padded := Base64.encode_padded s
  have read := decode_from 0 [] s
  rw [encode_eq]
  exact ⟨rfl, by omega, padded, read⟩

end DrachtioModules.Cobalt

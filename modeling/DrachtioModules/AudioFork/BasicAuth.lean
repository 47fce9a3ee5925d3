import DrachtioModules.AudioFork.Pipe
import DrachtioModules.Base64
import Mathlib.Data.List.TakeWhile

/-!
# The Authorization header

`dch_lws_http_basic_auth_gen` writes the header into a buffer of the handshake
callback, and the callback sends what stands in front of the first zero byte.
The functions of lws that it calls are known by what they promise.
-/

namespace DrachtioModules.AudioFork

open Percent (ascii)

/-- `lws_snprintf` of a text into a buffer of a given size, with the text that
the buffer then holds, and `lws_b64_encode_string` from a text into a buffer,
with the content of the buffer. -/
structure Lws where
  snprintf : Nat → Bytes → Nat × Bytes
  b64EncodeString : Bytes → Bytes → Int × Bytes

structure Lws.Documented (lws : Lws) : Prop where
  formats : ∀ (size : Nat) (text : Bytes), text.length < size →
    lws.snprintf size text = (text.length, text)
  encodes : ∀ text out : Bytes, (Base64.encode text).length < out.length →
    lws.b64EncodeString text out =
      (((Base64.encode text).length : Int), Base64.encode text ++
        0 :: out.drop ((Base64.encode text).length + 1))
  givesUp : ∀ text out : Bytes, out.length ≤ (Base64.encode text).length →
    (lws.b64EncodeString text out).1 = -1 ∧
      (lws.b64EncodeString text out).2.length = out.length

/-- The return value and the content of `buf`. -/
def dchLwsHttpBasicAuthGen (lws : Lws) (user pw buf : Bytes) : Nat × Bytes :=
  let n := user.length
  let m := pw.length
  let len := buf.length
  if len < 6 + 4 * (n + m + 1) / 3 + 1 then (1, buf)
  else
    let buf := ascii "Basic " ++ buf.drop 6
    let (n, b) := lws.snprintf 128 (user ++ 58 :: pw)
    if 128 - 2 ≤ n then (2, buf)
    else
      -- What lws_b64_encode_string returns is not looked at.
      let (_, encoded) := lws.b64EncodeString (b.take n) (buf.drop 6)
      (0, (buf.take 6 ++ encoded).set (len - 1) 0)

structure Credentials where
  username : Bytes
  password : Bytes
  deriving DecidableEq, Repr

def Credentials.hasBasicAuth (credentials : Credentials) : Bool :=
  !credentials.username.isEmpty && !credentials.password.isEmpty

/-- What becomes of the handshake: it is failed, or goes on with the value of an
Authorization header or without one. -/
inductive Handshake where
  | aborted
  | unauthenticated
  | authorized (header : Bytes)
  deriving DecidableEq, Repr

/-- `LWS_CALLBACK_CLIENT_APPEND_HANDSHAKE_HEADER`.  The buffer of 128 bytes is
not initialized, and lws may refuse the header for want of room. -/
def appendHandshakeHeader (lws : Lws) (ap : Option Credentials) (b : Bytes)
    (refused : Bool) : Handshake :=
  match ap with
  | none => .unauthenticated
  | some credentials =>
      if credentials.hasBasicAuth then
        let (failed, b) := dchLwsHttpBasicAuthGen lws credentials.username
          credentials.password b
        if failed ≠ 0 then .aborted
        else if refused then .aborted
        else .authorized (b.takeWhile fun c => c != 0)
      else .unauthenticated

/-- The value that is meant. -/
def basicAuth (username password : Bytes) : Bytes :=
  ascii "Basic " ++ Base64.encode (username ++ 58 :: password)

theorem length_basicAuth (username password : Bytes) :
    (basicAuth username password).length =
      6 + 4 * ((username.length + password.length + 3) / 3) := by
  have prefixed : (ascii "Basic ").length = 6 := by decide
  rw [basicAuth, List.length_append, prefixed, Base64.length_encode,
    List.length_append, List.length_cons]
  congr 3

theorem proper_basicAuth (username password : Bytes) :
    0 ∉ basicAuth username password := by
  rw [basicAuth, List.mem_append, not_or]
  exact ⟨by decide, Base64.encode_proper _⟩

theorem gen_too_long (lws : Lws) {user pw buf : Bytes}
    (size : buf.length = 128) (long : 91 ≤ user.length + pw.length) :
    (dchLwsHttpBasicAuthGen lws user pw buf).1 = 1 := by
  unfold dchLwsHttpBasicAuthGen
  dsimp only
  rw [if_pos (by omega)]

/-- Shorter ones are formatted whole and handed to the encoder, with 122 bytes
for the encoding. -/
theorem gen_encoded {lws : Lws} (documented : lws.Documented)
    {user pw buf : Bytes} (size : buf.length = 128)
    (short : user.length + pw.length ≤ 90) :
    dchLwsHttpBasicAuthGen lws user pw buf =
      (0, (ascii "Basic " ++ (lws.b64EncodeString (user ++ 58 :: pw)
        (buf.drop 6)).2).set 127 0) := by
  have whole : (user ++ 58 :: pw).length = user.length + pw.length + 1 := by
    simp [Nat.add_assoc]
  have formatted := documented.formats 128 (user ++ 58 :: pw) (by omega)
  have prefixed : (ascii "Basic ").length = 6 := by decide
  simp only [dchLwsHttpBasicAuthGen, formatted]
  rw [if_neg (by omega), if_neg (by omega), List.take_length,
    List.drop_left' prefixed, List.take_left' prefixed, size]

theorem takeWhile_terminated {text : Bytes} (rest : Bytes)
    (proper : 0 ∉ text) :
    (text ++ 0 :: rest).takeWhile (fun c => c != 0) = text := by
  rw [List.takeWhile_append_of_pos]
  · simp
  · intro c member
    simp only [bne_iff_ne]
    rintro rfl
    exact proper member

theorem length_string_le (front rest : Bytes) :
    ((front ++ 0 :: rest).takeWhile fun c => c != 0).length ≤ front.length := by
  induction front with
  | nil => simp
  | cons c front ih =>
      rw [List.cons_append, List.takeWhile_cons]
      split
      · simpa using ih
      · simp

/-- The zero byte at the end of the buffer comes no earlier than that of an
encoding that fits. -/
theorem gen_fits {lws : Lws} (documented : lws.Documented)
    (user pw : Bytes) {buf : Bytes} (size : buf.length = 128)
    (short : user.length + pw.length < 90) :
    ∃ b, dchLwsHttpBasicAuthGen lws user pw buf = (0, b) ∧
      b.takeWhile (fun c => c != 0) = basicAuth user pw := by
  have length := length_basicAuth user pw
  have room : (buf.drop 6).length = 122 := by
    rw [List.length_drop, size]
  have split : (basicAuth user pw).length =
      6 + (Base64.encode (user ++ 58 :: pw)).length := by
    rw [basicAuth, List.length_append]
    rfl
  have encoded := documented.encodes (user ++ 58 :: pw) (buf.drop 6) (by omega)
  refine ⟨_, gen_encoded documented size (by omega), ?_⟩
  rw [encoded, ← List.append_assoc, ← basicAuth,
    List.set_append_right 127 0 (by omega)]
  have proper := proper_basicAuth user pw
  cases index : 127 - (basicAuth user pw).length with
  | zero => exact takeWhile_terminated _ proper
  | succ index => exact takeWhile_terminated _ proper

theorem gen_unfit {lws : Lws} (documented : lws.Documented)
    (user pw : Bytes) {buf : Bytes} (size : buf.length = 128)
    (limit : user.length + pw.length = 90) :
    ∃ b, dchLwsHttpBasicAuthGen lws user pw buf = (0, b) ∧
      (b.takeWhile fun c => c != 0).length <
        (basicAuth user pw).length := by
  have length := length_basicAuth user pw
  have room : (buf.drop 6).length = 122 := by
    rw [List.length_drop, size]
  have split : (basicAuth user pw).length =
      6 + (Base64.encode (user ++ 58 :: pw)).length := by
    rw [basicAuth, List.length_append]
    rfl
  have stopped := documented.givesUp (user ++ 58 :: pw) (buf.drop 6) (by omega)
  refine ⟨_, gen_encoded documented size (by omega), ?_⟩
  have whole : (ascii "Basic " ++ (lws.b64EncodeString (user ++ 58 :: pw)
      (buf.drop 6)).2).length = 128 := by
    rw [List.length_append, stopped.2, room]
    rfl
  rw [List.set_eq_take_append_cons_drop, if_pos (by omega)]
  apply Nat.lt_of_le_of_lt (length_string_le _ _)
  rw [List.length_take]
  omega

theorem handshake_of_gen (lws : Lws) {credentials : Credentials}
    (authenticates : credentials.hasBasicAuth) {b : Bytes} (refused : Bool)
    {failed : Nat} {header : Bytes}
    (generated : dchLwsHttpBasicAuthGen lws credentials.username
      credentials.password b = (failed, header)) :
    appendHandshakeHeader lws (some credentials) b refused =
      if failed ≠ 0 ∨ refused = true then .aborted
      else .authorized (header.takeWhile fun c => c != 0) := by
  simp only [appendHandshakeHeader, authenticates, generated, if_true]
  by_cases success : failed = 0
  · simp [success]
  · simp [success]

/-- A handshake with credentials fails or carries exactly their header, unless
the two are 90 bytes long together and lws has room for what is sent
instead. -/
theorem authorized_iff (lws : Lws) (documented : lws.Documented)
    (credentials : Credentials) (authenticates : credentials.hasBasicAuth)
    (b : Bytes) (size : b.length = 128) (refused : Bool) :
    (appendHandshakeHeader lws (some credentials) b refused = .aborted ∨
      appendHandshakeHeader lws (some credentials) b refused = .authorized
        (ascii "Basic " ++ Base64.encode
          (credentials.username ++ 58 :: credentials.password))) ↔
    (credentials.username.length + credentials.password.length ≠ 90 ∨
      refused = true) := by
  rw [← basicAuth]
  rcases Nat.lt_trichotomy
    (credentials.username.length + credentials.password.length) 90 with
    short | limit | long
  · obtain ⟨header, generated, whole⟩ := gen_fits documented _ _ size short
    rw [handshake_of_gen lws authenticates refused generated, whole]
    cases refused <;> simp [Nat.ne_of_lt short]
  · obtain ⟨header, generated, cut⟩ := gen_unfit documented _ _ size limit
    have different : header.takeWhile (fun c => c != 0) ≠
        basicAuth credentials.username credentials.password := by
      intro same
      rw [same] at cut
      exact Nat.lt_irrefl _ cut
    rw [handshake_of_gen lws authenticates refused generated]
    cases refused <;> simp [limit, different]
  · have tooLong := gen_too_long lws size long
    rw [handshake_of_gen lws authenticates refused (Prod.ext tooLong rfl)]
    simp [Nat.ne_of_gt long]

/-- `lws_b64_encode_string` as lws has it: four characters at a time as long as
there is room for more behind them. -/
def roomyLws : Lws :=
  { snprintf := fun size text =>
      (min text.length (size - 1), text.take (size - 1))
    b64EncodeString := fun text out =>
      let encoded := Base64.encode text
      if encoded.length < out.length then
        ((encoded.length : Int), encoded ++ 0 :: out.drop (encoded.length + 1))
      else
        let done := 4 * ((out.length - 1) / 4)
        (-1, encoded.take done ++ out.drop done) }

theorem roomyLws_documented : roomyLws.Documented := by
  refine ⟨?_, ?_, ?_⟩
  · intro size text fits
    have whole : text.length ≤ size - 1 := Nat.le_pred_of_lt fits
    simp [roomyLws, Nat.min_eq_left whole, List.take_of_length_le whole]
  · intro text out fits
    simp [roomyLws, fits]
  · intro text out unfit
    simp only [roomyLws, if_neg (Nat.not_lt.mpr unfit), List.length_append,
      List.length_take, List.length_drop, true_and]
    omega

/-- The user `user` with the password `pass`. -/
theorem authorized_user :
    let handshake := appendHandshakeHeader roomyLws
      (some ⟨ascii "user", ascii "pass"⟩) (List.replicate 128 0) false
    handshake = .aborted ∨
      handshake = .authorized (ascii "Basic dXNlcjpwYXNz") := by
  have header : ascii "Basic " ++ Base64.encode (ascii "user" ++ 58 ::
      ascii "pass") = ascii "Basic dXNlcjpwYXNz" := by decide
  have meets := (authorized_iff roomyLws roomyLws_documented
    ⟨ascii "user", ascii "pass"⟩ (by decide) (List.replicate 128 0)
    List.length_replicate false).mpr (.inl (by decide))
  rwa [header] at meets

/-- A user and a password of 45 bytes each. -/
theorem long_credentials_garbled :
    ¬ ∀ (lws : Lws), lws.Documented →
      ∀ (credentials : Credentials), credentials.hasBasicAuth →
      ∀ (b : Bytes), b.length = 128 → ∀ refused : Bool,
        appendHandshakeHeader lws (some credentials) b refused = .aborted ∨
        appendHandshakeHeader lws (some credentials) b refused = .authorized
          (ascii "Basic " ++ Base64.encode
            (credentials.username ++ 58 :: credentials.password)) := by
  intro always
  let credentials : Credentials :=
    ⟨List.replicate 45 97, List.replicate 45 98⟩
  have garbled := always roomyLws roomyLws_documented credentials rfl
    (List.replicate 128 0) List.length_replicate false
  obtain ⟨header, generated, cut⟩ := gen_unfit roomyLws_documented
    credentials.username credentials.password
    (List.length_replicate : (List.replicate 128 (0 : UInt8)).length = 128) rfl
  rw [handshake_of_gen roomyLws rfl false generated] at garbled
  rcases garbled with aborted | authorized
  · simp at aborted
  · simp only [ne_eq, not_true, Bool.false_eq_true, or_self, if_false,
      Handshake.authorized.injEq] at authorized
    rw [authorized] at cut
    exact Nat.lt_irrefl _ cut

end DrachtioModules.AudioFork

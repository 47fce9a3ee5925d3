import DrachtioModules.Deepgram.Path
import Mathlib.Algebra.GroupWithZero.Nat
import Mathlib.Data.List.TakeDrop
import Mathlib.Data.List.TakeWhile

/-!
# Dialing the path

`dg_transcribe_session_init` copies what `constructPath` returns into a field of
its `private_t`, and the `AudioPipe` dials what the field holds.
-/

namespace DrachtioModules.Deepgram

open AudioFork (Bytes)
open Percent (ascii hexDigit)

def maxSessionId : Nat := 256

def maxWsUrlLen : Nat := 512

def maxPathLen : Nat := 4096

def maxBugLen : Nat := 64

/-- `strncpy` into a field of `size` bytes the last of which is then set to
zero, read as a string. -/
def strncpy (size : Nat) (source : Bytes) : Bytes :=
  (source.takeWhile fun c => c != 0).take (size - 1)

/-- The session: its channel, its uuid and its read codec. -/
structure Session where
  channel : ChannelVariables
  uuid : Bytes
  decodedBytesPerPacket : Nat

/-- What does not depend on the session.  `speex_resampler_init` is a library
function, of which only `err` is read. -/
structure Settings where
  defaultApiKey : Option Bytes
  lwsPre : Nat
  audioBufferSecs : Nat
  resamplerInit : Nat → Nat → Nat → Int

/-- The arguments of the constructor. -/
structure AudioPipe where
  uuid : Bytes
  host : Bytes
  port : Nat
  path : Bytes
  bufLen : Nat
  minFreespace : Nat
  apiKey : Bytes
  deriving DecidableEq, Repr

structure PrivateData where
  sessionId : Bytes
  bugname : Bytes
  host : Bytes
  port : Nat
  path : Bytes
  sampling : Nat
  channels : Nat
  resampler : Bool
  pAudioPipe : AudioPipe
  deriving DecidableEq, Repr

/-- There is no `private_t` if the status is FALSE. -/
def forkDataInit (settings : Settings) (session : Session)
    (sampling desiredSampling channels : Nat) (lang : Bytes) (interim : Bool)
    (bugname : Option Bytes) : Option PrivateData :=
  let path := constructPath session.channel channels lang interim
  let sessionId := strncpy maxSessionId session.uuid
  let bugname := strncpy (maxBugLen + 1)
    (bugname.getD (ascii "deepgram_transcribe"))
  let host := strncpy maxWsUrlLen (ascii "api.deepgram.com")
  let field := strncpy maxPathLen path
  let buflen := settings.lwsPre +
    320 * desiredSampling / 8000 * channels * 1000 / 20 *
      settings.audioBufferSecs
  match (session.channel.get "DEEPGRAM_API_KEY").or settings.defaultApiKey with
  | none => none
  | some apiKey =>
      let resampled := desiredSampling != sampling
      if resampled &&
          settings.resamplerInit channels sampling desiredSampling != 0 then
        none
      else
        some {
          sessionId, bugname, host, channels
          port := 443
          path := field
          sampling := desiredSampling
          resampler := resampled
          pAudioPipe := {
            uuid := sessionId
            host
            port := 443
            path := field
            bufLen := buflen
            minFreespace := session.decodedBytesPerPacket
            apiKey } }

def dgTranscribeSessionInit (settings : Settings) (session : Session)
    (samplesPerSecond channels : Nat) (lang : Bytes) (interim : Bool)
    (bugname : Option Bytes) : Option PrivateData :=
  forkDataInit settings session samplesPerSecond 8000 channels lang interim
    bugname

/-- `lws_client_connect_info` -/
structure ConnectInfo where
  port : Nat
  address : Bytes
  path : Bytes
  host : Bytes
  origin : Bytes
  useSsl : Bool

def AudioPipe.connectClient (pipe : AudioPipe) : ConnectInfo :=
  { port := pipe.port
    address := pipe.host
    path := pipe.path
    host := pipe.host
    origin := pipe.host
    useSsl := true }

theorem proper_hex (c : UInt8) : (0 : UInt8) ∉ hex c := by
  have digit : ∀ value < 16, hexDigit value ≠ 0 := by decide
  have bound := c.toNat_lt
  unfold hex
  split
  · rename_i low
    simp [Ne.symm (digit c.toNat (UInt8.lt_iff_toNat_lt.mp low))]
  · simp [Ne.symm (digit (c.toNat / 16) (by omega)),
      Ne.symm (digit (c.toNat % 16) (by omega))]

theorem proper_encode (decoded : Bytes) :
    (0 : UInt8) ∉ encodeURIComponent decoded := by
  induction decoded with
  | nil => simp [encodeURIComponent]
  | cons c decoded ih =>
      cases plain : unescaped c with
      | true =>
          have nonzero : c ≠ 0 := by
            rintro rfl
            revert plain
            decide
          rw [encode_unescaped decoded plain]
          simp [ih, Ne.symm nonzero]
      | false =>
          rw [encode_escaped decoded plain]
          simp [ih, proper_hex]

theorem proper_encoded {param : String} (proper : 0 ∉ ascii param)
    (var : Option Bytes) : 0 ∉ encoded param var := by
  cases var with
  | none => simp [encoded]
  | some value => simp [encoded, proper, proper_encode]

theorem proper_flagged {param : String} (proper : 0 ∉ ascii param)
    (set : Bool) : 0 ∉ flagged param set := by
  cases set with
  | false => simp [flagged]
  | true => simpa [flagged] using proper

theorem proper_listed {param : String} (proper : 0 ∉ ascii param)
    (channel : ChannelVariables) (var : Option Bytes) :
    0 ∉ listed channel param var := by
  cases var with
  | none => simp [listed]
  | some phrases => simp [listed, proper, proper_encode]

theorem proper_languageInfo {language : Bytes} {info : LanguageInfo}
    (found : getLanguageInfo language = some info) :
    0 ∉ info.tier ∧ 0 ∉ info.model := by
  have all : ∀ row ∈ languageLookupTable,
      0 ∉ row.2.tier ∧ 0 ∉ row.2.model := by
    decide
  obtain ⟨before, after, whole, _⟩ := List.lookup_eq_some_iff.mp found
  have member : (language, info) ∈ languageLookupTable := by
    rw [whole]
    simp
  exact all _ member

theorem proper_chooseModel (channel : ChannelVariables) (language : Bytes) :
    0 ∉ chooseModel channel language := by
  unfold chooseModel
  dsimp only
  split
  · split
    · rename_i info found
      have proper := proper_languageInfo found
      simp only [List.mem_append, not_or]
      exact ⟨⟨⟨by decide, proper.1⟩, by decide⟩, proper.2⟩
    · decide
  · rw [List.mem_append, not_or]
    refine ⟨proper_encoded (by decide) _, ?_⟩
    split
    · exact proper_encoded (by decide) _
    · exact proper_encoded (by decide) _

/-- What is escaped or written out holds no zero byte. -/
theorem proper_path (channel : ChannelVariables) (channels : Nat)
    (language : Bytes) (interim : Bool) :
    0 ∉ constructPath channel channels language interim := by
  simp only [constructPath, List.mem_append, List.flatten_cons,
    List.flatten_nil, List.not_mem_nil, not_or]
  simp (disch := decide) only [proper_encoded, proper_flagged, proper_listed,
    proper_chooseModel, proper_encode, not_false_eq_true, and_true, true_and]
  decide

/-- The parameters of the audio format. -/
def audioFormat : Bytes := ascii "&encoding=linear16&sample_rate=8000"

/-- The parameters of the audio format come last. -/
theorem audioFormat_suffix (channel : ChannelVariables) (channels : Nat)
    (language : Bytes) (interim : Bool) :
    audioFormat <:+ constructPath channel channels language interim := by
  have parts : audioFormat =
      ascii "&encoding=linear16" ++ (ascii "&sample_rate=8000" ++ []) := by
    decide
  rw [parts]
  simp only [constructPath, List.flatten_cons, List.flatten_nil]
  repeat
    first
    | exact List.suffix_rfl
    | apply List.suffix_append_of_suffix

theorem strncpy_proper {size : Nat} {source : Bytes} (proper : 0 ∉ source) :
    strncpy size source = source.take (size - 1) := by
  have whole : source.takeWhile (fun c => c != 0) = source := by
    rw [List.takeWhile_eq_self_iff]
    intro c member
    simp only [bne_iff_ne]
    rintro rfl
    exact proper member
  rw [strncpy, whole]

theorem dialed_of_init {settings : Settings} {session : Session}
    {samplesPerSecond channels : Nat} {lang : Bytes} {interim : Bool}
    {bugname : Option Bytes} {techPvt : PrivateData}
    (success : dgTranscribeSessionInit settings session samplesPerSecond
      channels lang interim bugname = some techPvt) :
    techPvt.pAudioPipe.connectClient.path =
      (constructPath session.channel channels lang interim).take
        (maxPathLen - 1) := by
  have proper := proper_path session.channel channels lang interim
  rw [← strncpy_proper proper]
  unfold dgTranscribeSessionInit forkDataInit at success
  dsimp only at success
  split at success
  · cases success
  · split at success
    · cases success
    · cases Option.some.inj success
      rfl

/-- Escaping shortens nothing. -/
theorem length_le_encode (decoded : Bytes) :
    decoded.length ≤ (encodeURIComponent decoded).length := by
  induction decoded with
  | nil => simp [encodeURIComponent]
  | cons c decoded ih =>
      rw [encodeURIComponent]
      split
      · simpa using ih
      · simp only [List.length_cons, List.length_append]
        omega

theorem length_tag_le (channel : ChannelVariables) (channels : Nat)
    (language : Bytes) (interim : Bool) {tag : Bytes}
    (tagged : channel.get "DEEPGRAM_SPEECH_TAG" = some tag) :
    tag.length ≤ (constructPath channel channels language interim).length := by
  have whole := length_le_encode tag
  have piece : (encoded "&tag=" (channel.get "DEEPGRAM_SPEECH_TAG")).length ≤
      (constructPath channel channels language interim).length := by
    unfold constructPath
    apply List.Sublist.length_le
    apply List.Sublist.trans _ (List.sublist_append_right _ _)
    apply List.sublist_flatten_of_mem
    exact List.mem_of_getElem? (i := 19) rfl
  rw [tagged, encoded, List.length_append] at piece
  omega

/-- All that a start needs is an API key and a resampler. -/
theorem init_succeeds (settings : Settings) (session : Session)
    (samplesPerSecond channels : Nat) (lang : Bytes) (interim : Bool)
    (bugname : Option Bytes) {apiKey : Bytes}
    (key : session.channel.get "DEEPGRAM_API_KEY" = some apiKey)
    (resampler : settings.resamplerInit channels samplesPerSecond 8000 = 0) :
    ∃ techPvt, dgTranscribeSessionInit settings session samplesPerSecond
      channels lang interim bugname = some techPvt := by
  unfold dgTranscribeSessionInit forkDataInit
  rw [key, Option.some_or, resampler]
  simp

/-- What a value takes in the path. -/
def encodedLength (value : Bytes) : Nat :=
  (value.map fun c => if unescaped c then 1 else if c < 16 then 2 else 3).sum

/-- What a parameter takes that has no variable of its own. -/
def flagLength (param : String) (set : Bool) : Nat :=
  if set then (ascii param).length else 0

/-- What a parameter takes for a variable. -/
def variableLength (param : String) (value : Option Bytes) : Nat :=
  (value.map fun value => (ascii param).length + encodedLength value).getD 0

/-- What a parameter takes for the phrases of a variable. -/
def phrasesLength (channel : ChannelVariables) (param : String)
    (value : Option Bytes) : Nat :=
  (((value.map channel.separate).getD []).map fun phrase =>
    (ascii param).length + encodedLength phrase).sum

/-- What `tier` and `model` take: where no variable is set they are chosen by
the language. -/
def modelLength (channel : ChannelVariables) (language : Bytes) : Nat :=
  let tier := channel.get "DEEPGRAM_SPEECH_TIER"
  let customModel := channel.get "DEEPGRAM_SPEECH_CUSTOM_MODEL"
  let model := channel.get "DEEPGRAM_SPEECH_MODEL"
  if tier.isNone && model.isNone && customModel.isNone then
    match getLanguageInfo language with
    | some info => 12 + info.tier.length + info.model.length
    | none => 23
  else
    variableLength "tier=" tier +
      variableLength (if tier.isSome then "&model=" else "model=")
        (customModel.or model)

/-- What the path takes, by the variables of the channel: 11 bytes before the
parameters, `tier` and `model`, 10 bytes and the language, one parameter for
each of the variables that are set or true, and 35 bytes for the audio
format. -/
def pathLength (channel : ChannelVariables) (channels : Nat)
    (language : Bytes) (interim : Bool) : Nat :=
  let var := channel.get
  let isTrue (name : String) := channel.isTrue (var name)
  11 + modelLength channel language + 10 + encodedLength language + 35 +
  ([(decide (channels = 2), "&multichannel=true&channels=2"),
    ((var "DEEPGRAM_SPEECH_ENABLE_SMART_FORMAT").isSome,
      "&smart_format=true&no_delay=true"),
    ((var "DEEPGRAM_SPEECH_ENABLE_AUTOMATIC_PUNCTUATION").isSome,
      "&punctuate=true"),
    (isTrue "DEEPGRAM_SPEECH_PROFANITY_FILTER", "&profanity_filter=true"),
    (isTrue "DEEPGRAM_SPEECH_DIARIZE", "&diarize=true"),
    (isTrue "DEEPGRAM_SPEECH_NER", "&ner=true"),
    (isTrue "DEEPGRAM_SPEECH_NUMERALS", "&numerals=true"),
    (interim, "&interim_results=true")].map
      fun (set, param) => flagLength param set).sum +
  ([("&version=", var "DEEPGRAM_SPEECH_MODEL_VERSION"),
    ("&redact=", var "DEEPGRAM_SPEECH_REDACT"),
    ("&diarize_version=",
      if isTrue "DEEPGRAM_SPEECH_DIARIZE" then
        var "DEEPGRAM_SPEECH_DIARIZE_VERSION"
      else none),
    ("&alternatives=", var "DEEPGRAM_SPEECH_ALTERNATIVES"),
    ("&tag=", var "DEEPGRAM_SPEECH_TAG"),
    ("&endpointing=", var "DEEPGRAM_SPEECH_ENDPOINTING"),
    ("&utterance_end_ms=", var "DEEPGRAM_SPEECH_UTTERANCE_END_MS"),
    ("&vad_turnoff=", var "DEEPGRAM_SPEECH_VAD_TURNOFF")].map
      fun (param, value) => variableLength param value).sum +
  ([("&search=", var "DEEPGRAM_SPEECH_SEARCH"),
    ("&keywords=", var "DEEPGRAM_SPEECH_KEYWORDS"),
    ("&keyterm=", var "DEEPGRAM_SPEECH_KEYTERMS"),
    ("&replace=", var "DEEPGRAM_SPEECH_REPLACE")].map
      fun (param, value) => phrasesLength channel param value).sum

theorem length_encodeURIComponent (value : Bytes) :
    (encodeURIComponent value).length = encodedLength value := by
  induction value with
  | nil => rfl
  | cons c value ih =>
      unfold encodedLength at ih ⊢
      rw [encodeURIComponent, List.map_cons, List.sum_cons, ← ih]
      split
      · exact Nat.add_comm ..
      · unfold hex
        split
        · simp only [List.length_cons, List.length_append, List.length_nil]
          omega
        · simp only [List.length_cons, List.length_append, List.length_nil]
          omega

theorem length_encoded (param : String) (value : Option Bytes) :
    (encoded param value).length = variableLength param value := by
  cases value with
  | none => rfl
  | some value =>
      rw [encoded, List.length_append, length_encodeURIComponent]
      rfl

theorem length_listed (channel : ChannelVariables) (param : String)
    (value : Option Bytes) :
    (listed channel param value).length =
      phrasesLength channel param value := by
  cases value with
  | none => rfl
  | some phrases =>
      simp only [listed, List.length_flatMap, List.length_append,
        length_encodeURIComponent]
      rfl

theorem length_chooseModel (channel : ChannelVariables) (language : Bytes) :
    (chooseModel channel language).length = modelLength channel language := by
  unfold chooseModel modelLength
  dsimp only
  split
  · cases getLanguageInfo language with
    | none => rfl
    | some info =>
        have tier : (ascii "tier=").length = 5 := rfl
        have model : (ascii "&model=").length = 7 := rfl
        simp only [List.length_append, tier, model]
        omega
  · rw [List.length_append, length_encoded, length_encoded]
    cases channel.get "DEEPGRAM_SPEECH_CUSTOM_MODEL" <;> rfl

theorem length_flagged (param : String) (set : Bool) :
    (flagged param set).length = flagLength param set := by
  cases set <;> rfl

theorem flagLength_append (one other : String) (set : Bool) :
    flagLength (one ++ other) set =
      flagLength one set + flagLength other set := by
  cases set <;> simp [flagLength, Percent.ascii]

theorem length_constructPath (channel : ChannelVariables) (channels : Nat)
    (language : Bytes) (interim : Bool) :
    (constructPath channel channels language interim).length =
      pathLength channel channels language interim := by
  have start : (ascii "/v1/listen?").length = 11 := rfl
  have spoken : (ascii "&language=").length = 10 := rfl
  have encoding : (ascii "&encoding=linear16").length = 18 := rfl
  have rate : (ascii "&sample_rate=8000").length = 17 := rfl
  have stereo := flagLength_append "&multichannel=true" "&channels=2"
  have formatted := flagLength_append "&smart_format=true" "&no_delay=true"
  unfold constructPath pathLength
  simp only [List.length_append, List.flatten_cons, List.flatten_nil,
    List.map_cons, List.map_nil, List.sum_cons, List.sum_nil,
    List.length_nil, Nat.add_zero, length_chooseModel, length_encoded,
    length_listed, length_flagged, length_encodeURIComponent, start, spoken,
    encoding, rate]
  rw [show "&multichannel=true&channels=2" =
      "&multichannel=true" ++ "&channels=2" from rfl, stereo,
    show "&smart_format=true&no_delay=true" =
      "&smart_format=true" ++ "&no_delay=true" from rfl, formatted,
    show 35 = 18 + 17 from rfl]
  ac_rfl

/-- A start that succeeds dials the path, with the parameters of the audio
format at its end, exactly if what the variables make of it fits in the
field. -/
theorem dials_path_iff (settings : Settings) (session : Session)
    (samplesPerSecond channels : Nat) (lang : Bytes) (interim : Bool)
    (bugname : Option Bytes) (techPvt : PrivateData)
    (success : dgTranscribeSessionInit settings session samplesPerSecond
      channels lang interim bugname = some techPvt) :
    let path := constructPath session.channel channels lang interim
    let dialed := techPvt.pAudioPipe.connectClient.path
    (dialed = path ∧ audioFormat <:+ dialed) ↔
      pathLength session.channel channels lang interim < maxPathLen := by
  have cut := dialed_of_init success
  have fits := List.take_eq_self_iff
    (constructPath session.channel channels lang interim) (n := maxPathLen - 1)
  have format := audioFormat_suffix session.channel channels lang interim
  dsimp only
  rw [cut, fits, ← length_constructPath]
  constructor
  · rintro ⟨short, _⟩
    exact Nat.lt_of_le_pred (by decide) short
  · intro short
    have all := Nat.le_pred_of_lt short
    exact ⟨all, by rwa [fits.mpr all]⟩

/-- A session that has an API key, and a tag if one is given. -/
def taggedSession (tag : Option Bytes) : Session :=
  { channel :=
      { get := fun name =>
          if name = "DEEPGRAM_API_KEY" then some (ascii "key")
          else if name = "DEEPGRAM_SPEECH_TAG" then tag
          else none
        isTrue := fun _ => false
        separate := fun phrases => [phrases] }
    uuid := ascii "6ff1a2"
    decodedBytesPerPacket := 320 }

def standardSettings : Settings :=
  { defaultApiKey := none
    lwsPre := 16
    audioBufferSecs := 2
    resamplerInit := fun _ _ _ => 0 }

theorem untagged_dialed :
    ∃ techPvt, dgTranscribeSessionInit standardSettings (taggedSession none)
        16000 1 (ascii "en-US") true none = some techPvt ∧
      techPvt.pAudioPipe.connectClient.path =
        constructPath (taggedSession none).channel 1 (ascii "en-US") true := by
  obtain ⟨techPvt, success⟩ :=
    init_succeeds standardSettings (taggedSession none) 16000 1
      (ascii "en-US") true none rfl rfl
  have dialed := (dials_path_iff standardSettings (taggedSession none) 16000 1
    (ascii "en-US") true none techPvt success).mpr (by decide)
  exact ⟨techPvt, success, dialed.1⟩

/-- A tag of 4096 bytes leaves no room for the audio format. -/
theorem long_tag_cut :
    ¬ ∀ (settings : Settings) (session : Session)
        (samplesPerSecond channels : Nat) (lang : Bytes) (interim : Bool)
        (bugname : Option Bytes) (techPvt : PrivateData),
      dgTranscribeSessionInit settings session samplesPerSecond channels lang
          interim bugname = some techPvt →
        techPvt.pAudioPipe.connectClient.path =
            constructPath session.channel channels lang interim ∧
          audioFormat <:+ techPvt.pAudioPipe.connectClient.path := by
  intro always
  let session := taggedSession (some (List.replicate maxPathLen 97))
  obtain ⟨techPvt, success⟩ :=
    init_succeeds standardSettings session 16000 1 (ascii "en-US") true none
      rfl rfl
  have same := (always _ _ _ _ _ _ _ techPvt success).1
  have tagged : session.channel.get "DEEPGRAM_SPEECH_TAG" =
      some (List.replicate maxPathLen 97) := rfl
  have long := length_tag_le session.channel 1 (ascii "en-US") true tagged
  rw [dialed_of_init success, List.take_eq_self_iff] at same
  rw [List.length_replicate] at long
  exact absurd (Nat.le_trans long same) (by decide)

end DrachtioModules.Deepgram

import DrachtioModules.Deepgram.UriComponent

/-!
# `constructPath`

The request path of mod_deepgram_transcribe: which parameters it has depends on
which channel variables are set, never on what a value holds.
-/

namespace DrachtioModules.Deepgram

open AudioFork (Bytes)
open Percent (ascii hexDigit Inert Splices keyOf)

/-- `switch_channel_get_variable` of the channel, `switch_true`, and
`switch_separate_string` at the commas. -/
structure ChannelVariables where
  get : String → Option Bytes
  isTrue : Option Bytes → Bool
  separate : Bytes → List Bytes

structure LanguageInfo where
  tier : Bytes
  model : Bytes
  deriving DecidableEq, Repr

/-- A row of `languageLookupTable`. -/
def languageRow (language tier model : String) : Bytes × LanguageInfo :=
  (ascii language, ⟨ascii tier, ascii model⟩)

def languageLookupTable : List (Bytes × LanguageInfo) :=
  [languageRow "zh" "base" "general",
    languageRow "zh-CN" "base" "general",
    languageRow "zh-TW" "base" "general",
    languageRow "da" "enhanced" "general",
    languageRow "en" "nova" "phonecall",
    languageRow "en-US" "nova" "phonecall",
    languageRow "en-AU" "nova" "general",
    languageRow "en-GB" "nova" "general",
    languageRow "en-IN" "nova" "general",
    languageRow "en-NZ" "nova" "general",
    languageRow "nl" "enhanced" "general",
    languageRow "fr" "enhanced" "general",
    languageRow "fr-CA" "base" "general",
    languageRow "de" "enhanced" "general",
    languageRow "hi" "enhanced" "general",
    languageRow "hi-Latn" "base" "general",
    languageRow "id" "base" "general",
    languageRow "ja" "enhanced" "general",
    languageRow "ko" "enhanced" "general",
    languageRow "no" "enhanced" "general",
    languageRow "pl" "enhanced" "general",
    languageRow "pt" "enhanced" "general",
    languageRow "pt-BR" "enhanced" "general",
    languageRow "pt-PT" "enhanced" "general",
    languageRow "ru" "base" "general",
    languageRow "es" "nova" "general",
    languageRow "es-419" "nova" "general",
    languageRow "sv" "enhanced" "general",
    languageRow "ta" "enhanced" "general",
    languageRow "tr" "base" "general",
    languageRow "uk" "base" "general"]

def getLanguageInfo (language : Bytes) : Option LanguageInfo :=
  languageLookupTable.lookup language

/-- A variable that is set is encoded after the name of its parameter. -/
def encoded (param : String) : Option Bytes → Bytes
  | none => []
  | some value => ascii param ++ encodeURIComponent value

/-- A parameter without a variable of its own. -/
def flagged (param : String) (set : Bool) : Bytes :=
  if set then ascii param else []

/-- One parameter for each phrase of a variable. -/
def listed (channel : ChannelVariables) (param : String) : Option Bytes → Bytes
  | none => []
  | some phrases =>
      (channel.separate phrases).flatMap fun phrase =>
        ascii param ++ encodeURIComponent phrase

/-- `tier` and `model`: the custom model goes before the model, and the language
decides if nothing is set. -/
def chooseModel (channel : ChannelVariables) (language : Bytes) : Bytes :=
  let model := channel.get "DEEPGRAM_SPEECH_MODEL"
  let customModel := channel.get "DEEPGRAM_SPEECH_CUSTOM_MODEL"
  let tier := channel.get "DEEPGRAM_SPEECH_TIER"
  if tier.isNone && model.isNone && customModel.isNone then
    match getLanguageInfo language with
    | some info => ascii "tier=" ++ info.tier ++ ascii "&model=" ++ info.model
    | none => ascii "tier=base&model=general"
  else
    let chosenModel := if customModel.isSome then customModel else model
    encoded "tier=" tier ++
      encoded (if tier.isSome then "&model=" else "model=") chosenModel

def constructPath (channel : ChannelVariables) (channels : Nat)
    (language : Bytes) (interim : Bool) : Bytes :=
  let var := channel.get
  let isTrue (name : String) := channel.isTrue (var name)
  ascii "/v1/listen?" ++
  [chooseModel channel language,
    encoded "&version=" (var "DEEPGRAM_SPEECH_MODEL_VERSION"),
    ascii "&language=" ++ encodeURIComponent language,
    flagged "&multichannel=true" (channels = 2),
    flagged "&channels=2" (channels = 2),
    flagged "&smart_format=true"
      (var "DEEPGRAM_SPEECH_ENABLE_SMART_FORMAT").isSome,
    flagged "&no_delay=true"
      (var "DEEPGRAM_SPEECH_ENABLE_SMART_FORMAT").isSome,
    flagged "&punctuate=true"
      (var "DEEPGRAM_SPEECH_ENABLE_AUTOMATIC_PUNCTUATION").isSome,
    flagged "&profanity_filter=true"
      (isTrue "DEEPGRAM_SPEECH_PROFANITY_FILTER"),
    encoded "&redact=" (var "DEEPGRAM_SPEECH_REDACT"),
    flagged "&diarize=true" (isTrue "DEEPGRAM_SPEECH_DIARIZE"),
    encoded "&diarize_version="
      (if isTrue "DEEPGRAM_SPEECH_DIARIZE" then
        var "DEEPGRAM_SPEECH_DIARIZE_VERSION"
      else none),
    flagged "&ner=true" (isTrue "DEEPGRAM_SPEECH_NER"),
    encoded "&alternatives=" (var "DEEPGRAM_SPEECH_ALTERNATIVES"),
    flagged "&numerals=true" (isTrue "DEEPGRAM_SPEECH_NUMERALS"),
    listed channel "&search=" (var "DEEPGRAM_SPEECH_SEARCH"),
    listed channel "&keywords=" (var "DEEPGRAM_SPEECH_KEYWORDS"),
    listed channel "&keyterm=" (var "DEEPGRAM_SPEECH_KEYTERMS"),
    listed channel "&replace=" (var "DEEPGRAM_SPEECH_REPLACE"),
    encoded "&tag=" (var "DEEPGRAM_SPEECH_TAG"),
    flagged "&interim_results=true" interim,
    encoded "&endpointing=" (var "DEEPGRAM_SPEECH_ENDPOINTING"),
    encoded "&utterance_end_ms=" (var "DEEPGRAM_SPEECH_UTTERANCE_END_MS"),
    encoded "&vad_turnoff=" (var "DEEPGRAM_SPEECH_VAD_TURNOFF"),
    ascii "&encoding=linear16",
    ascii "&sample_rate=8000"].flatten

def keyIf (wanted : Bool) (key : String) : List String :=
  if wanted then [key] else []

/-- As many keys as the variable has phrases. -/
def keyForEach (channel : ChannelVariables) (name key : String) : List String :=
  List.replicate ((channel.get name).elim 0 fun phrases =>
    (channel.separate phrases).length) key

/-- The keys by what is set and what is true, with the number of phrases. -/
def wantedKeys (channel : ChannelVariables) (channels : Nat) (interim : Bool) :
    List String :=
  let isSet (name : String) := (channel.get name).isSome
  let isTrue (name : String) := channel.isTrue (channel.get name)
  let defaults := !isSet "DEEPGRAM_SPEECH_TIER" &&
    !isSet "DEEPGRAM_SPEECH_MODEL" && !isSet "DEEPGRAM_SPEECH_CUSTOM_MODEL"
  [keyIf (defaults || isSet "DEEPGRAM_SPEECH_TIER") "tier" ++
      keyIf (defaults || isSet "DEEPGRAM_SPEECH_MODEL" ||
        isSet "DEEPGRAM_SPEECH_CUSTOM_MODEL") "model",
    keyIf (isSet "DEEPGRAM_SPEECH_MODEL_VERSION") "version",
    ["language"],
    keyIf (channels = 2) "multichannel",
    keyIf (channels = 2) "channels",
    keyIf (isSet "DEEPGRAM_SPEECH_ENABLE_SMART_FORMAT") "smart_format",
    keyIf (isSet "DEEPGRAM_SPEECH_ENABLE_SMART_FORMAT") "no_delay",
    keyIf (isSet "DEEPGRAM_SPEECH_ENABLE_AUTOMATIC_PUNCTUATION") "punctuate",
    keyIf (isTrue "DEEPGRAM_SPEECH_PROFANITY_FILTER") "profanity_filter",
    keyIf (isSet "DEEPGRAM_SPEECH_REDACT") "redact",
    keyIf (isTrue "DEEPGRAM_SPEECH_DIARIZE") "diarize",
    keyIf (isTrue "DEEPGRAM_SPEECH_DIARIZE" &&
      isSet "DEEPGRAM_SPEECH_DIARIZE_VERSION") "diarize_version",
    keyIf (isTrue "DEEPGRAM_SPEECH_NER") "ner",
    keyIf (isSet "DEEPGRAM_SPEECH_ALTERNATIVES") "alternatives",
    keyIf (isTrue "DEEPGRAM_SPEECH_NUMERALS") "numerals",
    keyForEach channel "DEEPGRAM_SPEECH_SEARCH" "search",
    keyForEach channel "DEEPGRAM_SPEECH_KEYWORDS" "keywords",
    keyForEach channel "DEEPGRAM_SPEECH_KEYTERMS" "keyterm",
    keyForEach channel "DEEPGRAM_SPEECH_REPLACE" "replace",
    keyIf (isSet "DEEPGRAM_SPEECH_TAG") "tag",
    keyIf interim "interim_results",
    keyIf (isSet "DEEPGRAM_SPEECH_ENDPOINTING") "endpointing",
    keyIf (isSet "DEEPGRAM_SPEECH_UTTERANCE_END_MS") "utterance_end_ms",
    keyIf (isSet "DEEPGRAM_SPEECH_VAD_TURNOFF") "vad_turnoff",
    ["encoding"],
    ["sample_rate"]].flatten

theorem inert_hex (c : UInt8) : Inert (hex c) := by
  have digit : ∀ value < 16, hexDigit value ≠ 38 ∧ hexDigit value ≠ 61 := by
    decide
  have bound := c.toNat_lt
  unfold hex
  split
  · rename_i low
    have first := digit c.toNat (UInt8.lt_iff_toNat_lt.mp low)
    simp [Inert, Ne.symm first.1, Ne.symm first.2]
  · have first := digit (c.toNat / 16) (by omega)
    have second := digit (c.toNat % 16) (by omega)
    simp [Inert, Ne.symm first.1, Ne.symm first.2, Ne.symm second.1,
      Ne.symm second.2]

/-- An encoded value separates nothing. -/
theorem inert_encode (decoded : Bytes) :
    Inert (encodeURIComponent decoded) := by
  induction decoded with
  | nil => decide
  | cons c decoded ih =>
      cases plain : unescaped c with
      | true =>
          obtain ⟨_, ampersand, equals⟩ := plain_of_unescaped plain
          rw [encode_unescaped decoded plain]
          simp [Inert, ih.1, ih.2, Ne.symm ampersand, Ne.symm equals]
      | false =>
          have digits := inert_hex c
          rw [encode_escaped decoded plain]
          simp [Inert, ih.1, ih.2, digits.1, digits.2]

/-- The name of a parameter in the path, with its separators. -/
def Names (param key : String) : Prop :=
  ascii param = 38 :: (ascii key ++ [61]) ∧ Inert (ascii key)

instance (param key : String) : Decidable (Names param key) :=
  inferInstanceAs (Decidable (_ ∧ _))

theorem splices_encode {param key : String} (names : Names param key)
    (value : Bytes) :
    Splices [ascii key] (ascii param ++ encodeURIComponent value) :=
  .one names.1 names.2 (inert_encode value)

theorem splices_encoded {param key : String} (names : Names param key)
    (var : Option Bytes) :
    Splices ((keyIf var.isSome key).map ascii) (encoded param var) := by
  cases var with
  | none => exact .nil
  | some value => exact splices_encode names value

/-- A parameter whose value is written out. -/
def Literal (param key value : String) : Prop :=
  ascii param = 38 :: (ascii key ++ 61 :: ascii value) ∧
    Inert (ascii key) ∧ Inert (ascii value)

instance (param key value : String) : Decidable (Literal param key value) :=
  inferInstanceAs (Decidable (_ ∧ _))

theorem splices_literal {param key : String} (value : String)
    (literal : Literal param key value) :
    Splices [ascii key] (ascii param) := by
  have whole : ascii param = 38 :: (ascii key ++ [61]) ++ ascii value := by
    rw [literal.1]
    simp
  rw [whole]
  exact .one rfl literal.2.1 literal.2.2

theorem splices_flagged {param key : String} (value : String)
    (literal : Literal param key value) (set : Bool) :
    Splices ((keyIf set key).map ascii) (flagged param set) := by
  cases set with
  | false => exact .nil
  | true => exact splices_literal value literal

theorem splices_listed {param name key : String} (names : Names param key)
    (channel : ChannelVariables) :
    Splices ((keyForEach channel name key).map ascii)
      (listed channel param (channel.get name)) := by
  unfold keyForEach listed
  rw [List.map_replicate]
  cases channel.get name with
  | none => exact .nil
  | some phrases =>
      have encodes : ∀ value ∈ (channel.separate phrases).map
          encodeURIComponent, Inert value := by
        intro value member
        obtain ⟨phrase, _, rfl⟩ := List.mem_map.mp member
        exact inert_encode phrase
      have pieces := Splices.repeated names.1 names.2 encodes
      rw [List.length_map, List.flatMap_map] at pieces
      exact pieces

theorem inert_languageInfo {language : Bytes} {info : LanguageInfo}
    (found : getLanguageInfo language = some info) :
    Inert info.tier ∧ Inert info.model := by
  have all : ∀ row ∈ languageLookupTable,
      Inert row.2.tier ∧ Inert row.2.model := by
    decide
  obtain ⟨before, after, whole, _⟩ := List.lookup_eq_some_iff.mp found
  have member : (language, info) ∈ languageLookupTable := by
    rw [whole]
    simp
  exact all _ member

/-- The parameters that come first, with the question mark read as an
ampersand. -/
theorem splices_defaults (language : Bytes) :
    Splices [ascii "tier", ascii "model"]
      (38 :: match getLanguageInfo language with
        | some info =>
            ascii "tier=" ++ info.tier ++ ascii "&model=" ++ info.model
        | none => ascii "tier=base&model=general") := by
  cases found : getLanguageInfo language with
  | some info =>
      obtain ⟨inertTier, inertModel⟩ := inert_languageInfo found
      have tier : Splices [ascii "tier"] (ascii "&tier=" ++ info.tier) :=
        .one (by decide) (by decide) inertTier
      have model : Splices [ascii "model"] (ascii "&model=" ++ info.model) :=
        .one (by decide) (by decide) inertModel
      have both := tier.append model
      rw [← List.append_assoc] at both
      exact both
  | none =>
      have tier : Splices [ascii "tier"] (ascii "&tier=" ++ ascii "base") :=
        .one (by decide) (by decide) (by decide)
      have model :
          Splices [ascii "model"] (ascii "&model=" ++ ascii "general") :=
        .one (by decide) (by decide) (by decide)
      have whole : 38 :: ascii "tier=base&model=general" =
          (ascii "&tier=" ++ ascii "base") ++
            (ascii "&model=" ++ ascii "general") := by
        decide
      rw [whole]
      exact tier.append model

theorem splices_chooseModel (channel : ChannelVariables) (language : Bytes)
    (tier model customModel : Option Bytes)
    (hasTier : channel.get "DEEPGRAM_SPEECH_TIER" = tier)
    (hasModel : channel.get "DEEPGRAM_SPEECH_MODEL" = model)
    (hasCustom : channel.get "DEEPGRAM_SPEECH_CUSTOM_MODEL" = customModel) :
    Splices
      ((keyIf ((!tier.isSome && !model.isSome && !customModel.isSome) ||
          tier.isSome) "tier" ++
        keyIf ((!tier.isSome && !model.isSome && !customModel.isSome) ||
          model.isSome || customModel.isSome) "model").map ascii)
      (38 :: chooseModel channel language) := by
  have named (value : Bytes) :
      Splices [ascii "tier"] (38 :: (ascii "tier=" ++
        encodeURIComponent value)) :=
    splices_encode (by decide : Names "&tier=" "tier") value
  have first (value : Bytes) :
      Splices [ascii "model"] (38 :: (ascii "model=" ++
        encodeURIComponent value)) :=
    splices_encode (by decide : Names "&model=" "model") value
  have second (value : Bytes) :
      Splices [ascii "model"] (ascii "&model=" ++ encodeURIComponent value) :=
    splices_encode (by decide : Names "&model=" "model") value
  simp only [chooseModel, hasTier, hasModel, hasCustom]
  cases tier with
  | none =>
      cases customModel with
      | some chosen => cases model <;> exact first chosen
      | none =>
          cases model with
          | some chosen => exact first chosen
          | none => exact splices_defaults language
  | some tier =>
      cases customModel with
      | some chosen =>
          cases model <;> exact (named tier).append (second chosen)
      | none =>
          cases model with
          | some chosen => exact (named tier).append (second chosen)
          | none => exact (named tier).append .nil

theorem Splices.flatten {keyss : List (List String)} {pieces : List Bytes}
    (each : List.Forall₂ (fun keys piece => Splices (keys.map ascii) piece)
      keyss pieces) : Splices (keyss.flatten.map ascii) pieces.flatten := by
  induction each with
  | nil => exact .nil
  | cons first _ ih =>
      rw [List.flatten_cons, List.flatten_cons, List.map_append]
      exact first.append ih

/-- The query of `constructPath` behind an ampersand. -/
theorem splices_query (channel : ChannelVariables) (channels : Nat)
    (language : Bytes) (interim : Bool) :
    ∃ query, constructPath channel channels language interim =
        ascii "/v1/listen?" ++ query ∧
      Splices ((wantedKeys channel channels interim).map ascii)
        (38 :: query) := by
  refine ⟨_, rfl, ?_⟩
  have model := splices_chooseModel channel language _ _ _ rfl rfl rfl
  have version : (if channel.isTrue (channel.get "DEEPGRAM_SPEECH_DIARIZE") then
      channel.get "DEEPGRAM_SPEECH_DIARIZE_VERSION" else none).isSome =
        (channel.isTrue (channel.get "DEEPGRAM_SPEECH_DIARIZE") &&
          (channel.get "DEEPGRAM_SPEECH_DIARIZE_VERSION").isSome) := by
    split <;> simp_all
  have diarized := splices_encoded
    (by decide : Names "&diarize_version=" "diarize_version")
    (if channel.isTrue (channel.get "DEEPGRAM_SPEECH_DIARIZE") then
      channel.get "DEEPGRAM_SPEECH_DIARIZE_VERSION" else none)
  rw [version] at diarized
  refine Splices.flatten (.cons model (.cons ?_ (.cons ?_ (.cons ?_ (.cons ?_
    (.cons ?_ (.cons ?_ (.cons ?_ (.cons ?_ (.cons ?_ (.cons ?_ (.cons diarized
    (.cons ?_ (.cons ?_ (.cons ?_ (.cons ?_ (.cons ?_ (.cons ?_ (.cons ?_
    (.cons ?_ (.cons ?_ (.cons ?_ (.cons ?_ (.cons ?_ (.cons ?_
    (.cons ?_ .nil))))))))))))))))))))))))))
  · exact splices_encoded (by decide) _
  · exact splices_encode (by decide) _
  · exact splices_flagged "true" (by decide) _
  · exact splices_flagged "2" (by decide) _
  · exact splices_flagged "true" (by decide) _
  · exact splices_flagged "true" (by decide) _
  · exact splices_flagged "true" (by decide) _
  · exact splices_flagged "true" (by decide) _
  · exact splices_encoded (by decide) _
  · exact splices_flagged "true" (by decide) _
  · exact splices_flagged "true" (by decide) _
  · exact splices_encoded (by decide) _
  · exact splices_flagged "true" (by decide) _
  · exact splices_listed (by decide) _
  · exact splices_listed (by decide) _
  · exact splices_listed (by decide) _
  · exact splices_listed (by decide) _
  · exact splices_encoded (by decide) _
  · exact splices_flagged "true" (by decide) _
  · exact splices_encoded (by decide) _
  · exact splices_encoded (by decide) _
  · exact splices_encoded (by decide) _
  · exact splices_literal "linear16" (by decide)
  · exact splices_literal "8000" (by decide)

theorem count_keyIf (wanted : Bool) (key other : String) :
    (keyIf wanted key).count other =
      if wanted = true ∧ key = other then 1 else 0 := by
  cases wanted <;> simp [keyIf, List.count_singleton]

theorem count_keyForEach (channel : ChannelVariables) (name : String)
    {key other : String} (different : key ≠ other) :
    (keyForEach channel name key).count other = 0 := by
  unfold keyForEach
  rw [List.count_replicate]
  simp [different]

/-- Only the choice of a model has the key of a model. -/
theorem model_once (channel : ChannelVariables) (channels : Nat)
    (interim : Bool) :
    (wantedKeys channel channels interim).count "model" ≤ 1 := by
  simp only [wantedKeys, List.flatten_cons, List.flatten_nil,
    List.count_append, List.count_nil, count_keyIf]
  rw [count_keyForEach channel _ (by decide), count_keyForEach channel _
    (by decide), count_keyForEach channel _ (by decide),
    count_keyForEach channel _ (by decide)]
  simp only [String.reduceEq, and_false, and_true, if_false, Nat.zero_add,
    Nat.add_zero]
  split <;> decide

/-- Splitting the query at its ampersands gives the keys that are wanted, in
order and as often as they are wanted, each with one equals sign. -/
theorem path_structure (channel : ChannelVariables) (channels : Nat)
    (language : Bytes) (interim : Bool) :
    ∃ query, constructPath channel channels language interim =
        ascii "/v1/listen?" ++ query ∧
      (query.splitOn 38).map keyOf =
        (wantedKeys channel channels interim).map ascii ∧
      (∀ param ∈ query.splitOn 38, param.count 61 = 1) ∧
      (wantedKeys channel channels interim).count "model" ≤ 1 := by
  obtain ⟨query, whole, spliced⟩ :=
    splices_query channel channels language interim
  obtain ⟨keys, separated⟩ := spliced.split
  exact ⟨query, whole, keys, separated,
    model_once channel channels interim⟩

end DrachtioModules.Deepgram

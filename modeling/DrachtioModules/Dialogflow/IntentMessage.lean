import DrachtioModules.Dialogflow.Parser

/-!
# The rendering of an Intent_Message

What the JSON of a message has to show is the rendering of its payload by
reflection, whatever the class of the payload.
-/

namespace DrachtioModules.Dialogflow

open Reflection

/-- A text, as a C string. -/
def reflectText (text : String) : Reflected Double := .text (cStr text)

mutual

def Value.reflect : Value → Reflected Double
  | .notSet => .unset
  | .nullValue => .null
  | .numberValue value => .number value
  | .stringValue value => reflectText value
  | .boolValue value => .bool value
  | .structValue fields => .message (reflectFields fields)
  | .listValue values => .repeated (reflectValues values)
termination_by structural value => value

def reflectFields : List (String × Value) → List (String × Reflected Double)
  | [] => []
  | (key, value) :: rest => (cStr key, value.reflect) :: reflectFields rest
termination_by structural fields => fields

def reflectValues : List Value → List (Reflected Double)
  | [] => []
  | value :: rest => value.reflect :: reflectValues rest
termination_by structural values => values

end

namespace Intent.Message

def Text.reflect (o : Text) : Reflected Double :=
  .message [("text", .repeated (o.text.map reflectText))]

def Image.reflect (o : Image) : Reflected Double :=
  .message [("accessibility_text", reflectText o.accessibilityText),
    ("image_uri", reflectText o.imageUri)]

def QuickReplies.reflect (o : QuickReplies) : Reflected Double :=
  .message [("title", reflectText o.title),
    ("quick_replies", .repeated (o.quickReplies.map reflectText))]

def Card.Button.reflect (o : Card.Button) : Reflected Double :=
  .message [("text", reflectText o.text), ("postback", reflectText o.postback)]

def Card.reflect (o : Card) : Reflected Double :=
  .message [("title", reflectText o.title),
    ("subtitle", reflectText o.subtitle),
    ("image_uri", reflectText o.imageUri),
    ("buttons", .repeated (o.buttons.map Card.Button.reflect))]

def SimpleResponse.reflect (o : SimpleResponse) : Reflected Double :=
  .message [("ssml", reflectText o.ssml),
    ("text_to_speech", reflectText o.textToSpeech),
    ("display_text", reflectText o.displayText)]

def SimpleResponses.reflect (o : SimpleResponses) : Reflected Double :=
  .message [("simple_responses",
    .repeated (o.simpleResponses.map SimpleResponse.reflect))]

def BasicCard.Button.OpenUriAction.reflect
    (o : BasicCard.Button.OpenUriAction) : Reflected Double :=
  .message [("uri", reflectText o.uri)]

def BasicCard.Button.reflect (o : BasicCard.Button) : Reflected Double :=
  .message [("title", reflectText o.title),
    ("open_uri_action", (o.openUriAction.getD default).reflect)]

def BasicCard.reflect (o : BasicCard) : Reflected Double :=
  .message [("title", reflectText o.title),
    ("subtitle", reflectText o.subtitle),
    ("formatted_text", reflectText o.formattedText),
    ("image", (o.image.getD default).reflect),
    ("buttons", .repeated (o.buttons.map BasicCard.Button.reflect))]

def Suggestion.reflect (o : Suggestion) : Reflected Double :=
  .message [("title", reflectText o.title)]

def Suggestions.reflect (o : Suggestions) : Reflected Double :=
  .message [("suggestions", .repeated (o.suggestions.map Suggestion.reflect))]

def LinkOutSuggestion.reflect (o : LinkOutSuggestion) : Reflected Double :=
  .message [("destination_name", reflectText o.destinationName),
    ("uri", reflectText o.uri)]

def SelectItemInfo.reflect (o : SelectItemInfo) : Reflected Double :=
  .message [("key", reflectText o.key),
    ("synonyms", .repeated (o.synonyms.map reflectText))]

def ListSelect.Item.reflect (o : ListSelect.Item) : Reflected Double :=
  .message [("info", (o.info.getD default).reflect),
    ("title", reflectText o.title),
    ("description", reflectText o.description),
    ("image", (o.image.getD default).reflect)]

def ListSelect.reflect (o : ListSelect) : Reflected Double :=
  .message [("title", reflectText o.title),
    ("items", .repeated (o.items.map ListSelect.Item.reflect))]

def CarouselSelect.Item.reflect (o : CarouselSelect.Item) : Reflected Double :=
  .message [("info", (o.info.getD default).reflect),
    ("title", reflectText o.title),
    ("description", reflectText o.description),
    ("image", (o.image.getD default).reflect)]

def CarouselSelect.reflect (o : CarouselSelect) : Reflected Double :=
  .message [("items", .repeated (o.items.map CarouselSelect.Item.reflect))]

def TelephonyPlayAudio.reflect (o : TelephonyPlayAudio) : Reflected Double :=
  .message [("audio_uri", reflectText o.audioUri)]

def TelephonySynthesizeSpeech.reflect (o : TelephonySynthesizeSpeech) :
    Reflected Double :=
  .message [("text", reflectText o.text), ("ssml", reflectText o.ssml)]

def TelephonyTransferCall.reflect (o : TelephonyTransferCall) :
    Reflected Double :=
  .message [("phone_number", reflectText o.phoneNumber)]

/-- The field of a member and its payload by reflection. -/
def MessageCase.field : MessageCase → String
  | .text => "text"
  | .image => "image"
  | .quickReplies => "quick_replies"
  | .card => "card"
  | .payload => "payload"
  | .simpleResponses => "simple_responses"
  | .basicCard => "basic_card"
  | .suggestions => "suggestions"
  | .linkOutSuggestion => "link_out_suggestion"
  | .listSelect => "list_select"
  | .carouselSelect => "carousel_select"
  | .telephonyPlayAudio => "telephony_play_audio"
  | .telephonySynthesizeSpeech => "telephony_synthesize_speech"
  | .telephonyTransferCall => "telephony_transfer_call"
  | .other field _ => field

def MessageCase.reflect : (member : MessageCase) → member.Payload →
    Reflected Double
  | .text, o => Text.reflect o
  | .image, o => Image.reflect o
  | .quickReplies, o => QuickReplies.reflect o
  | .card, o => Card.reflect o
  | .payload, o => (Value.structValue o).reflect
  | .simpleResponses, o => SimpleResponses.reflect o
  | .basicCard, o => BasicCard.reflect o
  | .suggestions, o => Suggestions.reflect o
  | .linkOutSuggestion, o => LinkOutSuggestion.reflect o
  | .listSelect, o => ListSelect.reflect o
  | .carouselSelect, o => CarouselSelect.reflect o
  | .telephonyPlayAudio, o => TelephonyPlayAudio.reflect o
  | .telephonySynthesizeSpeech, o => TelephonySynthesizeSpeech.reflect o
  | .telephonyTransferCall, o => TelephonyTransferCall.reflect o
  | .other _ _, tree => tree

/-- Under its key the whole payload, and nothing of another member. -/
structure ShowsMember (json : CJson) (field : String)
    (payload : Reflected Double) : Prop where
  own : ∃ rendering, payload.render = some rendering ∧
    json.item field = some rendering
  only : ∀ key item, (key, item) ∈ json.members →
    key = "platform" ∨ key = field

def ShownBy (json : CJson) (msg : Intent.Message) : Prop :=
  match msg.message with
  | none => ∀ key item, (key, item) ∈ json.members → key = "platform"
  | some ⟨member, payload⟩ =>
      ShowsMember json member.field (member.reflect payload)

end Intent.Message

mutual

/-- Every `Value` has its kind set. -/
def Value.complete : Value → Bool
  | .notSet => false
  | .structValue fields => completeFields fields
  | .listValue values => completeValues values
  | _ => true
termination_by structural value => value

def completeFields : List (String × Value) → Bool
  | [] => true
  | (_, value) :: rest => value.complete && completeFields rest
termination_by structural fields => fields

def completeValues : List Value → Bool
  | [] => true
  | value :: rest => value.complete && completeValues rest
termination_by structural values => values

end

/-- The member is neither a basic card nor one that the parser does not look
for, and a payload is complete. -/
def Intent.Message.rendered (msg : Intent.Message) : Bool :=
  match msg.message with
  | some ⟨.basicCard, _⟩ | some ⟨.carouselSelect, _⟩
  | some ⟨.other _ _, _⟩ => false
  | some ⟨.payload, fields⟩ => completeFields fields
  | _ => true

theorem parseCollection_eq {α : Type} (parse : α → CJson) (coll : List α) :
    parseCollection (fun value => parse value) coll =
      .array (coll.map parse) := by
  have extended : ∀ items : List CJson,
      coll.foldl (fun json value => addItemToArray json (some (parse value)))
        (.array items) = .array (items ++ coll.map parse) := by
    induction coll with
    | nil => simp
    | cons value coll ih =>
        intro items
        rw [List.foldl_cons, addItemToArray, ih, List.map_cons,
          List.append_assoc]
        rfl
  exact extended []

/-- Every element of a repeated field is shown, in order. -/
theorem render_collection {α : Type} {reflect : α → Reflected Double}
    {parse : α → CJson}
    (agree : ∀ value, (reflect value).render = some (parse value))
    (values : List α) :
    (Reflected.repeated (values.map reflect)).render =
      some (parseCollection (fun value => parse value) values) := by
  rw [parseCollection_eq]
  exact render_repeated agree values

@[simp] theorem render_reflectText (text : String) :
    (reflectText text).render = some (parseString text) := rfl

namespace Intent.Message

theorem Text.render (o : Text) : o.reflect.render = some o.parse := by
  have text := render_collection render_reflectText o.text
  exact render_message_cons text render_message_nil

theorem Image.render (o : Image) : o.reflect.render = some o.parse := rfl

theorem QuickReplies.render (o : QuickReplies) :
    o.reflect.render = some o.parse := by
  have replies := render_collection render_reflectText o.quickReplies
  exact render_message_cons rfl (render_message_cons replies render_message_nil)

theorem Card.Button.render (o : Card.Button) :
    o.reflect.render = some o.parse := rfl

theorem Card.render (o : Card) : o.reflect.render = some o.parse := by
  have buttons := render_collection Card.Button.render o.buttons
  apply render_message_cons rfl
  apply render_message_cons rfl
  apply render_message_cons rfl
  exact render_message_cons buttons render_message_nil

theorem SimpleResponse.render (o : SimpleResponse) :
    o.reflect.render = some o.parse := rfl

theorem SimpleResponses.render (o : SimpleResponses) :
    o.reflect.render = some o.parse := by
  have responses := render_collection SimpleResponse.render o.simpleResponses
  exact render_message_cons responses render_message_nil

theorem BasicCard.Button.render (o : BasicCard.Button) :
    o.reflect.render = some o.parse := rfl

theorem BasicCard.render (o : BasicCard) :
    o.reflect.render = some o.parse := by
  have buttons := render_collection BasicCard.Button.render o.buttons
  apply render_message_cons rfl
  apply render_message_cons rfl
  apply render_message_cons rfl
  apply render_message_cons rfl
  exact render_message_cons buttons render_message_nil

theorem Suggestion.render (o : Suggestion) :
    o.reflect.render = some o.parse := rfl

theorem Suggestions.render (o : Suggestions) :
    o.reflect.render = some o.parse := by
  have suggestions := render_collection Suggestion.render o.suggestions
  exact render_message_cons suggestions render_message_nil

theorem LinkOutSuggestion.render (o : LinkOutSuggestion) :
    o.reflect.render = some o.parse := rfl

theorem SelectItemInfo.render (o : SelectItemInfo) :
    o.reflect.render = some o.parse := by
  have synonyms := render_collection render_reflectText o.synonyms
  apply render_message_cons rfl
  exact render_message_cons synonyms render_message_nil

theorem ListSelect.Item.render (o : ListSelect.Item) :
    o.reflect.render = some o.parse := by
  apply render_message_cons (SelectItemInfo.render _)
  apply render_message_cons rfl
  apply render_message_cons rfl
  exact render_message_cons (Image.render _) render_message_nil

theorem ListSelect.render (o : ListSelect) :
    o.reflect.render = some o.parse := by
  have items := render_collection ListSelect.Item.render o.items
  apply render_message_cons rfl
  exact render_message_cons items render_message_nil

theorem TelephonyPlayAudio.render (o : TelephonyPlayAudio) :
    o.reflect.render = some o.parse := rfl

theorem TelephonySynthesizeSpeech.render (o : TelephonySynthesizeSpeech) :
    o.reflect.render = some o.parse := rfl

theorem TelephonyTransferCall.render (o : TelephonyTransferCall) :
    o.reflect.render = some o.parse := rfl

end Intent.Message

mutual

/-- A complete value is rendered whole. -/
theorem Value.render_complete (value : Value)
    (complete : value.complete = true) :
    ∃ json, value.reflect.render = some json ∧ value.parse = some json := by
  cases value with
  | notSet => cases complete
  | nullValue | numberValue | stringValue | boolValue => exact ⟨_, rfl, rfl⟩
  | structValue fields =>
      obtain ⟨members, rendered, parsed⟩ :=
        renderFields_complete fields complete
      refine ⟨.object members, ?_, ?_⟩
      · rw [Value.reflect, Reflected.render, rendered]
        rfl
      · rw [Value.parse, createObject, parsed]
        rfl
  | listValue values =>
      obtain ⟨items, rendered, parsed⟩ := renderValues_complete values complete
      refine ⟨.array items, ?_, ?_⟩
      · rw [Value.reflect, Reflected.render, rendered]
        rfl
      · rw [Value.parse, createArray, parsed]
        rfl

theorem renderFields_complete (fields : List (String × Value))
    (complete : completeFields fields = true) :
    ∃ members, renderFields (reflectFields fields) = some members ∧
      ∀ before, parseFields (.object before) fields =
        .object (before ++ members) := by
  cases fields with
  | nil => exact ⟨[], rfl, by simp [parseFields]⟩
  | cons field rest =>
      obtain ⟨key, value⟩ := field
      rw [completeFields, Bool.and_eq_true] at complete
      obtain ⟨json, here, shown⟩ := value.render_complete complete.1
      obtain ⟨members, rendered, parsed⟩ :=
        renderFields_complete rest complete.2
      refine ⟨(cStr key, json) :: members, ?_, ?_⟩
      · rw [reflectFields, renderFields_cons here, rendered]
        rfl
      · intro before
        rw [parseFields, shown, addItemToObject, parsed, List.append_assoc]
        rfl

theorem renderValues_complete (values : List Value)
    (complete : completeValues values = true) :
    ∃ items, renderItems (reflectValues values) = some items ∧
      ∀ before, parseValues (.array before) values =
        .array (before ++ items) := by
  cases values with
  | nil => exact ⟨[], rfl, by simp [parseValues]⟩
  | cons value rest =>
      rw [completeValues, Bool.and_eq_true] at complete
      obtain ⟨json, here, shown⟩ := value.render_complete complete.1
      obtain ⟨items, rendered, parsed⟩ := renderValues_complete rest complete.2
      refine ⟨json :: items, ?_, ?_⟩
      · rw [reflectValues, renderItems_cons here, rendered]
        rfl
      · intro before
        rw [parseValues, shown, addItemToArray, parsed, List.append_assoc]
        rfl

end

mutual

/-- Where a kind is not set, the whole has no rendering. -/
theorem Value.render_incomplete (value : Value)
    (incomplete : value.complete = false) : value.reflect.render = none := by
  cases value with
  | notSet => rfl
  | nullValue | numberValue | stringValue | boolValue => cases incomplete
  | structValue fields =>
      rw [Value.reflect, Reflected.render,
        renderFields_incomplete fields incomplete]
      rfl
  | listValue values =>
      rw [Value.reflect, Reflected.render,
        renderValues_incomplete values incomplete]
      rfl

theorem renderFields_incomplete (fields : List (String × Value))
    (incomplete : completeFields fields = false) :
    renderFields (reflectFields fields) = none := by
  cases fields with
  | nil => cases incomplete
  | cons field rest =>
      obtain ⟨key, value⟩ := field
      rw [completeFields] at incomplete
      rw [reflectFields, renderFields]
      cases here : value.complete with
      | false => rw [value.render_incomplete here]
      | true =>
          rw [here, Bool.true_and] at incomplete
          rw [renderFields_incomplete rest incomplete]
          cases value.reflect.render <;> rfl

theorem renderValues_incomplete (values : List Value)
    (incomplete : completeValues values = false) :
    renderItems (reflectValues values) = none := by
  cases values with
  | nil => cases incomplete
  | cons value rest =>
      rw [completeValues] at incomplete
      rw [reflectValues, renderItems]
      cases here : value.complete with
      | false => rw [value.render_incomplete here]
      | true =>
          rw [here, Bool.true_and] at incomplete
          rw [renderValues_incomplete rest incomplete]
          cases value.reflect.render <;> rfl

end

namespace Intent.Message

variable {platformName : Int32 → String} {platform : Int32}

/-- What the parser adds for the member that is set. -/
def MessageCase.added : (member : MessageCase) → member.Payload →
    List (String × CJson)
  | .text, o => [("text", Text.parse o)]
  | .image, o => [("image", Image.parse o)]
  | .quickReplies, o => [("quick_replies", QuickReplies.parse o)]
  | .card, o => [("card", Card.parse o)]
  | .payload, o => [("payload", Struct.parse o)]
  | .simpleResponses, o => [("simple_responses", SimpleResponses.parse o)]
  | .basicCard, _ => [("basic_card", Card.parse default)]
  | .suggestions, o => [("suggestions", Suggestions.parse o)]
  | .linkOutSuggestion, o =>
      [("link_out_suggestion", LinkOutSuggestion.parse o)]
  | .listSelect, o => [("list_select", ListSelect.parse o)]
  | .carouselSelect, _ => []
  | .telephonyPlayAudio, o =>
      [("telephony_play_audio", TelephonyPlayAudio.parse o)]
  | .telephonySynthesizeSpeech, o =>
      [("telephony_synthesize_speech", TelephonySynthesizeSpeech.parse o)]
  | .telephonyTransferCall, o =>
      [("telephony_transfer_call", TelephonyTransferCall.parse o)]
  | .other _ _, _ => []

theorem parse_member (member : MessageCase) (payload : member.Payload) :
    parse platformName ⟨platform, some ⟨member, payload⟩⟩ =
      .object (("platform", createString (cStr (platformName platform))) ::
        member.added payload) := by
  cases member <;> rfl

theorem parse_unset :
    parse platformName ⟨platform, none⟩ =
      .object [("platform", createString (cStr (platformName platform)))] :=
  rfl

theorem MessageCase.field_ne_platform (member : MessageCase) :
    member.field ≠ "platform" := by
  cases member with
  | other field unnamed =>
      intro same
      apply unnamed
      rw [show field = "platform" from same]
      exact List.mem_cons_self
  | _ => simp [field]

theorem shown_of_added {member : MessageCase} {payload : member.Payload}
    {json : CJson} (added : member.added payload = [(member.field, json)])
    (rendered : (member.reflect payload).render = some json) :
    ShownBy (parse platformName ⟨platform, some ⟨member, payload⟩⟩)
      ⟨platform, some ⟨member, payload⟩⟩ := by
  rw [parse_member, added]
  constructor
  · refine ⟨json, rendered, ?_⟩
    rw [item_cons_of_ne member.field_ne_platform]
    exact item_cons_self _ json []
  · intro key item shown
    simp only [Json.members, List.mem_cons, Prod.mk.injEq, List.not_mem_nil,
      or_false] at shown
    exact shown.imp And.left And.left

theorem unshown_of_added {member : MessageCase} {payload : member.Payload}
    (added : member.added payload = []) :
    ¬ ShownBy (parse platformName ⟨platform, some ⟨member, payload⟩⟩)
      ⟨platform, some ⟨member, payload⟩⟩ := by
  rw [parse_member, added]
  rintro ⟨⟨rendering, _, shown⟩, _⟩
  rw [item_cons_of_ne member.field_ne_platform] at shown
  cases shown

/-- A basic card has five fields, the card shown in its place has four. -/
theorem basicCard_unshown (o : BasicCard) :
    ¬ ShownBy (parse platformName ⟨platform, some ⟨.basicCard, o⟩⟩)
      ⟨platform, some ⟨.basicCard, o⟩⟩ := by
  rw [parse_member]
  rintro ⟨⟨rendering, rendered, shown⟩, _⟩
  have own : rendering = o.parse :=
    Option.some.inj (rendered.symm.trans o.render)
  have card : rendering = Card.parse default :=
    Option.some.inj (shown.symm.trans rfl)
  rw [own] at card
  have lengths := congrArg (fun json : CJson => json.members.length) card
  cases lengths

theorem payload_shown_iff (fields : Struct) :
    ShownBy (parse platformName ⟨platform, some ⟨.payload, fields⟩⟩)
        ⟨platform, some ⟨.payload, fields⟩⟩ ↔
      completeFields fields = true := by
  constructor
  · rintro ⟨⟨rendering, rendered, _⟩, _⟩
    by_contra incomplete
    have unrendered := (Value.structValue fields).render_incomplete
      (Bool.eq_false_iff.mpr incomplete)
    rw [MessageCase.reflect, unrendered] at rendered
    cases rendered
  · intro complete
    obtain ⟨json, rendered, parsed⟩ :=
      (Value.structValue fields).render_complete complete
    have same : Struct.parse fields = json := Option.some.inj parsed
    exact shown_of_added (by rw [MessageCase.added, same]; rfl) rendered

/-- The JSON shows the member that is set if and only if it is not a basic card
nor a carousel nor one that the parser has no class for, and a payload is
complete. -/
theorem shown_iff (platformName : Int32 → String) (msg : Intent.Message) :
    ShownBy (msg.parse platformName) msg ↔ msg.rendered = true := by
  obtain ⟨platform, message⟩ := msg
  cases message with
  | none =>
      refine iff_of_true ?_ rfl
      intro key item shown
      rw [parse_unset] at shown
      simp only [Json.members, List.mem_cons, Prod.mk.injEq, List.not_mem_nil,
        or_false] at shown
      exact shown.1
  | some message =>
      obtain ⟨member, o⟩ := message
      cases member with
      | text => exact iff_of_true (shown_of_added rfl (Text.render o)) rfl
      | image => exact iff_of_true (shown_of_added rfl (Image.render o)) rfl
      | quickReplies =>
          exact iff_of_true (shown_of_added rfl (QuickReplies.render o)) rfl
      | card => exact iff_of_true (shown_of_added rfl (Card.render o)) rfl
      | payload => exact payload_shown_iff o
      | simpleResponses =>
          exact iff_of_true (shown_of_added rfl (SimpleResponses.render o)) rfl
      | basicCard => exact iff_of_false (basicCard_unshown o) Bool.false_ne_true
      | suggestions =>
          exact iff_of_true (shown_of_added rfl (Suggestions.render o)) rfl
      | linkOutSuggestion =>
          exact iff_of_true (shown_of_added rfl (LinkOutSuggestion.render o))
            rfl
      | listSelect =>
          exact iff_of_true (shown_of_added rfl (ListSelect.render o)) rfl
      | telephonyPlayAudio =>
          exact iff_of_true (shown_of_added rfl (TelephonyPlayAudio.render o))
            rfl
      | telephonySynthesizeSpeech =>
          exact iff_of_true
            (shown_of_added rfl (TelephonySynthesizeSpeech.render o)) rfl
      | telephonyTransferCall =>
          exact iff_of_true
            (shown_of_added rfl (TelephonyTransferCall.render o)) rfl
      | carouselSelect | other =>
          exact iff_of_false (unshown_of_added rfl) Bool.false_ne_true

/-- The basic card "Menu" is shown as the card that is not there. -/
theorem menu_card_lost :
    ¬ ShownBy
      (parse (fun _ => "PLATFORM_UNSPECIFIED")
        ⟨0, some ⟨.basicCard, ⟨"Menu", "Today", "Soup", none, []⟩⟩⟩)
      ⟨0, some ⟨.basicCard, ⟨"Menu", "Today", "Soup", none, []⟩⟩⟩ ∧
    (parse (fun _ => "PLATFORM_UNSPECIFIED")
        ⟨0, some ⟨.basicCard, ⟨"Menu", "Today", "Soup", none, []⟩⟩⟩).item
      "basic_card" =
      some (.object [("title", .string ""), ("subtitle", .string ""),
        ("image_uri", .string ""), ("buttons", .array [])]) :=
  ⟨basicCard_unshown _, rfl⟩

end Intent.Message

end DrachtioModules.Dialogflow

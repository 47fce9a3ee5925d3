import DrachtioModules.Reflection

/-!
# The parser of mod_dialogflow

`GRPCParser` builds the JSON of a fulfillment message with cJSON.  The classes
of the messages are generated; a member of a oneof that is not set reads as its
default instance.
-/

namespace DrachtioModules.Dialogflow

open Reflection (Json Reflected)

/-- The 64 bits of a double. -/
abbrev Double := UInt64

/-- What a `cJSON *` that is not NULL points to. -/
abbrev CJson := Json Double

def createObject : CJson := .object []

def createArray : CJson := .array []

def createString (text : String) : CJson := .string text

/-- `c_str()`, as its readers see it. -/
def cStr (text : String) : String :=
  String.ofList (text.toList.takeWhile (· ≠ Char.ofNat 0))

/-- An item that is NULL is not added. -/
def addItemToObject (key : String) (item : Option CJson) (json : CJson) :
    CJson :=
  match json, item with
  | .object members, some item => .object (members ++ [(key, item)])
  | json, _ => json

def addItemToArray (json : CJson) (item : Option CJson) : CJson :=
  match json, item with
  | .array items, some item => .array (items ++ [item])
  | json, _ => json

def parseCollection {α : Type} (parse : α → Option CJson) (coll : List α) :
    CJson :=
  coll.foldl (fun json value => addItemToArray json (parse value)) createArray

/-- `google::protobuf::Value`; the fields of a `Struct` are in the order its map
is walked. -/
inductive Value where
  | notSet
  | nullValue
  | numberValue (value : Double)
  | stringValue (value : String)
  | boolValue (value : Bool)
  | structValue (fields : List (String × Value))
  | listValue (values : List Value)

abbrev Struct := List (String × Value)

mutual

def Value.parse : Value → Option CJson
  | .notSet => none
  | .nullValue => some .null
  | .numberValue value => some (.number value)
  | .stringValue value => some (createString (cStr value))
  | .boolValue value => some (.bool value)
  | .structValue fields => some (parseFields createObject fields)
  | .listValue values => some (parseValues createArray values)
termination_by structural value => value

def parseFields (json : CJson) : List (String × Value) → CJson
  | [] => json
  | (key, value) :: rest =>
      parseFields (addItemToObject (cStr key) value.parse json) rest
termination_by structural fields => fields

def parseValues (json : CJson) : List Value → CJson
  | [] => json
  | value :: rest => parseValues (addItemToArray json value.parse) rest
termination_by structural values => values

end

def Struct.parse (rpcStruct : Struct) : CJson :=
  parseFields createObject rpcStruct

/-- `parse` of a `std::string`. -/
def parseString (val : String) : CJson :=
  createString (cStr val)

namespace Intent.Message

structure Text where
  text : List String
  deriving Inhabited

def Text.parse (o : Text) : CJson :=
  createObject
    |> addItemToObject "text"
      (parseCollection (fun text => parseString text) o.text)

structure Image where
  accessibilityText : String
  imageUri : String
  deriving Inhabited

def Image.parse (o : Image) : CJson :=
  createObject
    |> addItemToObject "accessibility_text"
      (createString (cStr o.accessibilityText))
    |> addItemToObject "image_uri" (createString (cStr o.imageUri))

structure QuickReplies where
  title : String
  quickReplies : List String
  deriving Inhabited

def QuickReplies.parse (o : QuickReplies) : CJson :=
  createObject
    |> addItemToObject "title" (createString (cStr o.title))
    |> addItemToObject "quick_replies"
      (parseCollection (fun reply => parseString reply) o.quickReplies)

structure Card.Button where
  text : String
  postback : String
  deriving Inhabited

def Card.Button.parse (o : Card.Button) : CJson :=
  createObject
    |> addItemToObject "text" (createString (cStr o.text))
    |> addItemToObject "postback" (createString (cStr o.postback))

structure Card where
  title : String
  subtitle : String
  imageUri : String
  buttons : List Card.Button
  deriving Inhabited

def Card.parse (o : Card) : CJson :=
  createObject
    |> addItemToObject "title" (createString (cStr o.title))
    |> addItemToObject "subtitle" (createString (cStr o.subtitle))
    |> addItemToObject "image_uri" (createString (cStr o.imageUri))
    |> addItemToObject "buttons"
      (parseCollection (fun button => button.parse) o.buttons)

structure SimpleResponse where
  textToSpeech : String
  ssml : String
  displayText : String
  deriving Inhabited

def SimpleResponse.parse (o : SimpleResponse) : CJson :=
  createObject
    |> addItemToObject "ssml" (createString (cStr o.ssml))
    |> addItemToObject "text_to_speech" (createString (cStr o.textToSpeech))
    |> addItemToObject "display_text" (createString (cStr o.displayText))

structure SimpleResponses where
  simpleResponses : List SimpleResponse
  deriving Inhabited

def SimpleResponses.parse (o : SimpleResponses) : CJson :=
  createObject
    |> addItemToObject "simple_responses"
      (parseCollection (fun response => response.parse) o.simpleResponses)

structure BasicCard.Button.OpenUriAction where
  uri : String
  deriving Inhabited

def BasicCard.Button.OpenUriAction.parse (o : BasicCard.Button.OpenUriAction) :
    CJson :=
  createObject
    |> addItemToObject "uri" (createString (cStr o.uri))

structure BasicCard.Button where
  title : String
  openUriAction : Option BasicCard.Button.OpenUriAction
  deriving Inhabited

def BasicCard.Button.parse (o : BasicCard.Button) : CJson :=
  createObject
    |> addItemToObject "title" (createString (cStr o.title))
    |> addItemToObject "open_uri_action" (o.openUriAction.getD default).parse

structure BasicCard where
  title : String
  subtitle : String
  formattedText : String
  image : Option Image
  buttons : List BasicCard.Button
  deriving Inhabited

def BasicCard.parse (o : BasicCard) : CJson :=
  createObject
    |> addItemToObject "title" (createString (cStr o.title))
    |> addItemToObject "subtitle" (createString (cStr o.subtitle))
    |> addItemToObject "formatted_text" (createString (cStr o.formattedText))
    |> addItemToObject "image" (o.image.getD default).parse
    |> addItemToObject "buttons"
      (parseCollection (fun button => button.parse) o.buttons)

structure Suggestion where
  title : String
  deriving Inhabited

def Suggestion.parse (o : Suggestion) : CJson :=
  createObject
    |> addItemToObject "title" (createString (cStr o.title))

structure Suggestions where
  suggestions : List Suggestion
  deriving Inhabited

def Suggestions.parse (o : Suggestions) : CJson :=
  createObject
    |> addItemToObject "suggestions"
      (parseCollection (fun suggestion => suggestion.parse) o.suggestions)

structure LinkOutSuggestion where
  destinationName : String
  uri : String
  deriving Inhabited

def LinkOutSuggestion.parse (o : LinkOutSuggestion) : CJson :=
  createObject
    |> addItemToObject "destination_name"
      (createString (cStr o.destinationName))
    |> addItemToObject "uri" (createString (cStr o.uri))

structure SelectItemInfo where
  key : String
  synonyms : List String
  deriving Inhabited

def SelectItemInfo.parse (o : SelectItemInfo) : CJson :=
  createObject
    |> addItemToObject "key" (createString (cStr o.key))
    |> addItemToObject "synonyms"
      (parseCollection (fun synonym => parseString synonym) o.synonyms)

structure ListSelect.Item where
  info : Option SelectItemInfo
  title : String
  description : String
  image : Option Image
  deriving Inhabited

def ListSelect.Item.parse (o : ListSelect.Item) : CJson :=
  createObject
    |> addItemToObject "info" (o.info.getD default).parse
    |> addItemToObject "title" (createString (cStr o.title))
    |> addItemToObject "description" (createString (cStr o.description))
    |> addItemToObject "image" (o.image.getD default).parse

structure ListSelect where
  title : String
  items : List ListSelect.Item
  deriving Inhabited

def ListSelect.parse (o : ListSelect) : CJson :=
  createObject
    |> addItemToObject "title" (createString (cStr o.title))
    |> addItemToObject "items"
      (parseCollection (fun item => item.parse) o.items)

structure CarouselSelect.Item where
  info : Option SelectItemInfo
  title : String
  description : String
  image : Option Image
  deriving Inhabited

def CarouselSelect.Item.parse (o : CarouselSelect.Item) : CJson :=
  createObject
    |> addItemToObject "info" (o.info.getD default).parse
    |> addItemToObject "title" (createString (cStr o.title))
    |> addItemToObject "description" (createString (cStr o.description))
    |> addItemToObject "image" (o.image.getD default).parse

structure CarouselSelect where
  items : List CarouselSelect.Item
  deriving Inhabited

def CarouselSelect.parse (o : CarouselSelect) : CJson :=
  createObject
    |> addItemToObject "items"
      (parseCollection (fun item => item.parse) o.items)

structure TelephonyPlayAudio where
  audioUri : String
  deriving Inhabited

def TelephonyPlayAudio.parse (o : TelephonyPlayAudio) : CJson :=
  createObject
    |> addItemToObject "audio_uri" (createString (cStr o.audioUri))

structure TelephonySynthesizeSpeech where
  text : String
  ssml : String
  deriving Inhabited

def TelephonySynthesizeSpeech.parse (o : TelephonySynthesizeSpeech) : CJson :=
  createObject
    |> addItemToObject "text" (createString (cStr o.text))
    |> addItemToObject "ssml" (createString (cStr o.ssml))

structure TelephonyTransferCall where
  phoneNumber : String
  deriving Inhabited

def TelephonyTransferCall.parse (o : TelephonyTransferCall) : CJson :=
  createObject
    |> addItemToObject "phone_number" (createString (cStr o.phoneNumber))

/-- The fields of an `Intent_Message` that the parser's code has a class for. -/
def namedFields : List String :=
  ["platform", "text", "image", "quick_replies", "card", "payload",
    "simple_responses", "basic_card", "suggestions", "link_out_suggestion",
    "list_select", "carousel_select", "telephony_play_audio",
    "telephony_synthesize_speech", "telephony_transfer_call"]

/-- The members of the oneof; the API may have more of them. -/
inductive MessageCase where
  | text
  | image
  | quickReplies
  | card
  | payload
  | simpleResponses
  | basicCard
  | suggestions
  | linkOutSuggestion
  | listSelect
  | carouselSelect
  | telephonyPlayAudio
  | telephonySynthesizeSpeech
  | telephonyTransferCall
  | other (field : String) (unnamed : field ∉ namedFields)
  deriving DecidableEq

/-- What the parser's code has no class for is known by reflection only. -/
@[reducible] def MessageCase.Payload : MessageCase → Type
  | .text => Text
  | .image => Image
  | .quickReplies => QuickReplies
  | .card => Card
  | .payload => Struct
  | .simpleResponses => SimpleResponses
  | .basicCard => BasicCard
  | .suggestions => Suggestions
  | .linkOutSuggestion => LinkOutSuggestion
  | .listSelect => ListSelect
  | .carouselSelect => CarouselSelect
  | .telephonyPlayAudio => TelephonyPlayAudio
  | .telephonySynthesizeSpeech => TelephonySynthesizeSpeech
  | .telephonyTransferCall => TelephonyTransferCall
  | .other _ _ => Reflected Double

/-- The default instance of a member's class. -/
def MessageCase.defaultInstance : (member : MessageCase) → member.Payload
  | .text => default
  | .image => default
  | .quickReplies => default
  | .card => default
  | .payload => default
  | .simpleResponses => default
  | .basicCard => default
  | .suggestions => default
  | .linkOutSuggestion => default
  | .listSelect => default
  | .carouselSelect => default
  | .telephonyPlayAudio => default
  | .telephonySynthesizeSpeech => default
  | .telephonyTransferCall => default
  | .other _ _ => .message []

end Intent.Message

open Intent.Message

/-- `Intent_Message`: the number of its platform and the member of the oneof
that is set. -/
structure Intent.Message where
  platform : Int32
  message : Option (Σ member : MessageCase, member.Payload)

namespace Intent.Message

/-- `has_` of a member. -/
def has (msg : Intent.Message) (member : MessageCase) : Bool :=
  match msg.message with
  | some payload => decide (payload.1 = member)
  | none => false

/-- The accessor of a member. -/
def get (msg : Intent.Message) (member : MessageCase) : member.Payload :=
  match msg.message with
  | some payload =>
      if same : payload.1 = member then same ▸ payload.2
      else member.defaultInstance
  | none => member.defaultInstance

/-- An item that is added if its condition holds. -/
def addIf (present : Bool) (key : String) (item : CJson) (json : CJson) :
    CJson :=
  if present then addItemToObject key item json else json

/-- `Intent_Message_Platform_Name` is generated. -/
def parse (platformName : Int32 → String) (msg : Intent.Message) : CJson :=
  createObject
    |> addItemToObject "platform"
      (createString (cStr (platformName msg.platform)))
    |> addIf (msg.has .text) "text" (Text.parse (msg.get .text))
    |> addIf (msg.has .image) "image" (Image.parse (msg.get .image))
    |> addIf (msg.has .quickReplies) "quick_replies"
      (QuickReplies.parse (msg.get .quickReplies))
    |> addIf (msg.has .card) "card" (Card.parse (msg.get .card))
    |> addIf (msg.has .payload) "payload" (Struct.parse (msg.get .payload))
    |> addIf (msg.has .simpleResponses) "simple_responses"
      (SimpleResponses.parse (msg.get .simpleResponses))
    -- the card, not the basic card
    |> addIf (msg.has .basicCard) "basic_card" (Card.parse (msg.get .card))
    |> addIf (msg.has .suggestions) "suggestions"
      (Suggestions.parse (msg.get .suggestions))
    |> addIf (msg.has .linkOutSuggestion) "link_out_suggestion"
      (LinkOutSuggestion.parse (msg.get .linkOutSuggestion))
    |> addIf (msg.has .listSelect) "list_select"
      (ListSelect.parse (msg.get .listSelect))
    |> addIf (msg.has .telephonyPlayAudio) "telephony_play_audio"
      (TelephonyPlayAudio.parse (msg.get .telephonyPlayAudio))
    |> addIf (msg.has .telephonySynthesizeSpeech) "telephony_synthesize_speech"
      (TelephonySynthesizeSpeech.parse (msg.get .telephonySynthesizeSpeech))
    |> addIf (msg.has .telephonyTransferCall) "telephony_transfer_call"
      (TelephonyTransferCall.parse (msg.get .telephonyTransferCall))

end Intent.Message

end DrachtioModules.Dialogflow

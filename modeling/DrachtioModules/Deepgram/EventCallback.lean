import DrachtioModules.Deepgram.Transcripts
import DrachtioModules.Percent

/-!
# The events deepgram's AudioPipe raises

`eventCallback` hands an event to the response handler of the session it was
raised for.  Which messages it keeps back is said over the parsed tree, whatever
its shape.
-/

namespace DrachtioModules.Deepgram

open AudioFork (Bytes)
open Percent (ascii)

/-- `cJSON` is a library. -/
structure CJsonLibrary where
  parse : Bytes → Option CJson
  printUnformatted : CJson → Bytes

/-- A call of `responseHandler`. -/
structure Response where
  eventName : Bytes
  json : Option Bytes
  bugname : Bytes
  finished : Bool
  deriving DecidableEq, Repr

/-- `NotifyEvent_t`, with the message that comes with the event. -/
inductive Notified where
  | connectSuccess
  | connectFail (message : Option Bytes)
  | connectionDropped
  | connectionClosedGracefully
  | message (message : Bytes)

def transcribeEventResults : Bytes :=
  ascii "deepgram_transcribe::transcription"

def transcribeEventConnectSuccess : Bytes :=
  ascii "deepgram_transcribe::connect"

def transcribeEventConnectFail : Bytes :=
  ascii "deepgram_transcribe::connect_failed"

def transcribeEventDisconnect : Bytes :=
  ascii "deepgram_transcribe::disconnect"

/-- `{"reason": reason}`. -/
def reasonObject (reason : Bytes) : CJson :=
  .node .object none none
    [.node .string (some (ascii "reason")) (some reason) []]

/-- The calls of the response handler.  The first argument is the bugname in the
`private_t` of the bug, if the session and the bug are found. -/
def eventCallback (library : CJsonLibrary) (found : Option Bytes)
    (event : Notified) (finished : Bool) : List Response :=
  match found with
  | none => []
  | some bugname =>
      match event with
      | .connectSuccess =>
          [⟨transcribeEventConnectSuccess, none, bugname, finished⟩]
      | .connectFail message =>
          let reason := message.getD (ascii "unknown")
          let json := library.printUnformatted (reasonObject reason)
          [⟨transcribeEventConnectFail, some json, bugname, finished⟩]
      | .connectionDropped =>
          [⟨transcribeEventDisconnect, none, bugname, finished⟩]
      | .connectionClosedGracefully => []
      | .message message =>
          if discards (library.parse message) then []
          else [⟨transcribeEventResults, some message, bugname, finished⟩]

def CJson.child : CJson → List CJson
  | .node _ _ _ child => child

/-- An object or an array, into which the walk descends. -/
def CJson.isContainer (json : CJson) : Bool :=
  json.type = .object ∨ json.type = .array

inductive CJson.Below : CJson → CJson → Prop where
  | child {json node : CJson} (member : node ∈ json.child) : Below json node
  | deeper {json holder node : CJson} (member : holder ∈ json.child)
      (container : holder.isContainer) (below : Below holder node) :
      Below json node

/-- A string-valued member of that name. -/
def CJson.isTranscript (json : CJson) : Bool :=
  json.string = some transcriptKey ∧ json.type = .string

def CJson.isEmptyString (json : CJson) : Bool :=
  json.valuestring.all List.isEmpty

mutual

/-- The nodes below the root in the order of the walk. -/
def CJson.members : CJson → List CJson
  | .node _ _ _ child => allMembers child
termination_by structural json => json

def allMembers : List CJson → List CJson
  | [] => []
  | child :: rest =>
      child :: ((if child.isContainer then child.members else []) ++
        allMembers rest)
termination_by structural children => children

end

mutual

theorem below_of_members (json : CJson) {node : CJson}
    (member : node ∈ json.members) : json.Below node := by
  cases json with
  | node type string valuestring child =>
      obtain ⟨top, inside, reached⟩ := below_of_allMembers child member
      rcases reached with rfl | ⟨container, below⟩
      · exact .child inside
      · exact .deeper inside container below

theorem below_of_allMembers (children : List CJson) {node : CJson}
    (member : node ∈ allMembers children) :
    ∃ top ∈ children, node = top ∨ top.isContainer ∧ top.Below node := by
  cases children with
  | nil => cases member
  | cons child rest =>
      rw [allMembers, List.mem_cons, List.mem_append] at member
      rcases member with rfl | inside | later
      · exact ⟨node, by simp, .inl rfl⟩
      · split at inside
        · exact ⟨child, by simp, .inr ⟨‹_›, below_of_members child inside⟩⟩
        · cases inside
      · obtain ⟨top, inside, reached⟩ := below_of_allMembers rest later
        exact ⟨top, by simp [inside], reached⟩

end

theorem allMembers_of_mem {children : List CJson} {top : CJson}
    (inside : top ∈ children) :
    top ∈ allMembers children ∧
      (top.isContainer → ∀ node ∈ top.members, node ∈ allMembers children) := by
  induction children with
  | nil => cases inside
  | cons child rest ih =>
      rw [allMembers]
      rcases List.mem_cons.mp inside with rfl | later
      · refine ⟨by simp, ?_⟩
        intro container node member
        simp [container, member]
      · obtain ⟨itself, below⟩ := ih later
        refine ⟨by simp [itself], ?_⟩
        intro container node member
        simp [below container node member]

/-- The walk goes to every node below the root, through any nesting. -/
theorem mem_members_iff {json node : CJson} :
    node ∈ json.members ↔ json.Below node := by
  refine ⟨below_of_members json, ?_⟩
  intro below
  induction below with
  | @child json node member =>
      cases json with
      | node => exact (allMembers_of_mem member).1
  | @deeper json holder node member container _ ih =>
      cases json with
      | node => exact (allMembers_of_mem member).2 container node ih

mutual

theorem countTranscripts_eq (json : CJson) (counts : Counts) :
    countTranscripts json counts = json.members.foldl countChild counts := by
  cases json with
  | node type string valuestring child =>
      exact countChildren_eq child counts

theorem countChildren_eq (children : List CJson) (counts : Counts) :
    countChildren children counts =
      (allMembers children).foldl countChild counts := by
  cases children with
  | nil => rfl
  | cons child rest =>
      have inside := countTranscripts_eq child (countChild counts child)
      have later := countChildren_eq rest
      rw [countChildren, allMembers, List.foldl_cons, List.foldl_append,
        later]
      by_cases container : child.type = .object ∨ child.type = .array
      · simp [CJson.isContainer, container, inside]
      · simp [CJson.isContainer, container]

end

/-- A transcript is counted once, and a second time if it is not empty. -/
theorem countChild_eq (counts : Counts) (child : CJson) :
    countChild counts child =
      ⟨counts.total + if child.isTranscript then 1 else 0,
        counts.nonEmpty +
          if child.isTranscript && !child.isEmptyString then 1 else 0⟩ := by
  rw [countChild]
  by_cases named : child.string = some transcriptKey ∧ child.type = .string
  · rw [if_pos named]
    cases value : child.valuestring with
    | none => simp [CJson.isTranscript, CJson.isEmptyString, named, value]
    | some text =>
        cases text <;>
          simp [CJson.isTranscript, CJson.isEmptyString, named, value]
  · rw [if_neg named]
    simp [CJson.isTranscript, named]

theorem foldl_countChild (nodes : List CJson) (counts : Counts) :
    nodes.foldl countChild counts =
      ⟨counts.total + nodes.countP CJson.isTranscript,
        counts.nonEmpty + nodes.countP fun node =>
          node.isTranscript && !node.isEmptyString⟩ := by
  induction nodes generalizing counts with
  | nil => rfl
  | cons node nodes ih =>
      rw [List.foldl_cons, ih, countChild_eq, List.countP_cons,
        List.countP_cons, Counts.mk.injEq]
      dsimp only
      constructor <;> omega

/-- There is a transcript below the root, and no transcript that is not
empty. -/
def CJson.Blank (json : CJson) : Prop :=
  (∃ node, json.Below node ∧ node.isTranscript) ∧
    ∀ node, json.Below node → node.isTranscript → node.isEmptyString

theorem transcripts_eq (json : CJson) :
    transcripts json =
      ⟨json.members.countP CJson.isTranscript, json.members.countP fun node =>
        node.isTranscript && !node.isEmptyString⟩ := by
  rw [transcripts, countTranscripts_eq, foldl_countChild]
  simp

theorem discards_iff (parsed : Option CJson) :
    discards parsed = true ↔ ∃ json, parsed = some json ∧ json.Blank := by
  cases parsed with
  | none => simp [discards]
  | some json =>
      have counted := transcripts_eq json
      simp [discards, counted, CJson.Blank, List.countP_eq_zero,
        List.countP_pos_iff, mem_members_iff]

/-- A message is kept back exactly if it carries transcripts all of which are
empty; any other one is forwarded once, and so is one with a transcript that is
not. -/
theorem message_forwarded_once (library : CJsonLibrary)
    (bugname message : Bytes) (finished : Bool) :
    let responses :=
      eventCallback library (some bugname) (.message message) finished
    let forwarded : List Response :=
      [⟨transcribeEventResults, some message, bugname, finished⟩]
    (responses = [] ↔ ∃ json, library.parse message = some json ∧
      (∃ node, json.Below node ∧ node.isTranscript) ∧
      ∀ node, json.Below node → node.isTranscript → node.isEmptyString) ∧
    (responses = [] ∨ responses = forwarded) ∧
    ∀ json node, library.parse message = some json → json.Below node →
      node.isTranscript → ¬ node.isEmptyString → responses = forwarded := by
  have kept := discards_iff (library.parse message)
  simp only [eventCallback]
  cases discarded : discards (library.parse message) with
  | true =>
      obtain ⟨json, parsed, blank⟩ := kept.mp discarded
      refine ⟨?_, .inl rfl, ?_⟩
      · exact ⟨fun _ => ⟨json, parsed, blank⟩, fun _ => rfl⟩
      · intro json' node parsed' below transcript full
        cases Option.some.inj (parsed.symm.trans parsed')
        exact absurd (blank.2 node below transcript) full
  | false =>
      refine ⟨?_, .inr rfl, fun _ _ _ _ _ _ => rfl⟩
      constructor
      · intro nothing
        cases nothing
      · intro blank
        rw [kept.mpr blank] at discarded
        cases discarded

end DrachtioModules.Deepgram

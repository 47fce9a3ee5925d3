import DrachtioModules.AudioFork.Pipe

/-!
# The transcripts of a deepgram message

`countTranscripts` walks a parsed payload; `eventCallback` discards a message
that carries transcripts all of which are empty.
-/

namespace DrachtioModules.Deepgram

open AudioFork (Bytes)

/-- The low byte of a node's `type`. -/
inductive CJsonType where
  | invalid
  | false
  | true
  | null
  | number
  | string
  | array
  | object
  | raw
  deriving DecidableEq, Repr

/-- A `cJSON` node: its type, its key in the object around it, its string value
and its children in order. -/
inductive CJson where
  | node (type : CJsonType) (string : Option Bytes)
      (valuestring : Option Bytes) (child : List CJson)

def CJson.type : CJson → CJsonType
  | .node type _ _ _ => type

def CJson.string : CJson → Option Bytes
  | .node _ string _ _ => string

def CJson.valuestring : CJson → Option Bytes
  | .node _ _ valuestring _ => valuestring

/-- The key `"transcript"`. -/
def transcriptKey : Bytes := [116, 114, 97, 110, 115, 99, 114, 105, 112, 116]

/-- `total` and `nonEmpty`. -/
structure Counts where
  total : Nat
  nonEmpty : Nat
  deriving DecidableEq, Repr

/-- What the loop body does with the child itself. -/
def countChild (counts : Counts) (child : CJson) : Counts :=
  if child.string = some transcriptKey ∧ child.type = .string then
    match child.valuestring with
    | some (_ :: _) => ⟨counts.total + 1, counts.nonEmpty + 1⟩
    | _ => ⟨counts.total + 1, counts.nonEmpty⟩
  else counts

mutual

def countTranscripts : CJson → Counts → Counts
  | .node _ _ _ child, counts => countChildren child counts
termination_by structural json => json

/-- The loop over `node->child`. -/
def countChildren : List CJson → Counts → Counts
  | [], counts => counts
  | child :: rest, counts =>
      let counted := countChild counts child
      countChildren rest
        (if child.type = .object ∨ child.type = .array then
          countTranscripts child counted
        else counted)
termination_by structural children => children

end

/-- The counts `eventCallback` starts from are zero. -/
def transcripts (json : CJson) : Counts :=
  countTranscripts json ⟨0, 0⟩

/-- A parse failure and a payload without transcripts are forwarded. -/
def discards : Option CJson → Bool
  | none => false
  | some json => 0 < (transcripts json).total && (transcripts json).nonEmpty = 0

/-- The message carries a transcript that is not empty. -/
def hasTranscript : Option CJson → Bool
  | none => false
  | some json => 0 < (transcripts json).nonEmpty

end DrachtioModules.Deepgram

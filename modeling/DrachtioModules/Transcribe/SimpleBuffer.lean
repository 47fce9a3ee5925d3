import Mathlib.Data.List.Basic

/-!
# SimpleBuffer

The ring of fixed-size chunks that holds audio until a transcriber's stream is
connected.  Cursors are byte offsets into the allocation.
-/

namespace DrachtioModules.Transcribe

abbrev Bytes := List UInt8

structure SimpleBuffer where
  data : Bytes
  numItems : Nat
  chunkSize : Nat
  numChunks : Nat
  nextWrite : Nat
  nextRead : Nat
  deriving DecidableEq, Repr

namespace SimpleBuffer

/-- The content of fresh memory is never read. -/
def create (chunkSize numChunks : Nat) : SimpleBuffer :=
  { data := List.replicate (chunkSize * numChunks) 0
    numItems := 0
    chunkSize := chunkSize
    numChunks := numChunks
    nextWrite := 0
    nextRead := 0 }

/-- Moves a cursor to the next chunk, from the last one back to the first. -/
def advance (b : SimpleBuffer) (cursor : Nat) : Nat :=
  let offset := cursor / b.chunkSize
  if b.numChunks - 1 ≤ offset then 0 else cursor + b.chunkSize

/-- `memcpy` into the allocation. -/
def copyTo (data : Bytes) (offset : Nat) (chunk : Bytes) : Bytes :=
  data.take offset ++ chunk ++ data.drop (offset + chunk.length)

/-- The loop body of `add`. -/
def addChunk (b : SimpleBuffer) (chunk : Bytes) : SimpleBuffer :=
  let written := { b with
    data := copyTo b.data b.nextWrite chunk
    nextWrite := b.advance b.nextWrite }
  if b.numItems < b.numChunks then
    { written with numItems := b.numItems + 1 }
  else { written with nextRead := b.advance b.nextRead }

def addChunks (b : SimpleBuffer) : Nat → Bytes → SimpleBuffer
  | 0, _ => b
  | count + 1, data =>
      addChunks (b.addChunk (data.take b.chunkSize)) count
        (data.drop b.chunkSize)

def add (b : SimpleBuffer) (data : Bytes) : SimpleBuffer :=
  if data.length % b.chunkSize ≠ 0 then b
  else b.addChunks (data.length / b.chunkSize) data

/-- The returned pointer, as an offset. -/
def getNextChunk (b : SimpleBuffer) : Option Nat × SimpleBuffer :=
  if b.numItems = 0 then (none, b)
  else
    (some b.nextRead,
      { b with
        numItems := b.numItems - 1
        nextRead := b.advance b.nextRead })

/-- The chunk a returned pointer points to. -/
def chunkAt (b : SimpleBuffer) (offset : Nat) : Bytes :=
  (b.data.drop offset).take b.chunkSize

end SimpleBuffer

end DrachtioModules.Transcribe

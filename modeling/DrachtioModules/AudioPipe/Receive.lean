import DrachtioModules.Transcribe.DropOldest

/-!
# LWS_CALLBACK_CLIENT_RECEIVE

How the AudioPipes of mod_audio_fork and mod_deepgram_transcribe put a text
message together from the pieces in which lws delivers it.  The two handlers
differ only in what they pass to the notification.

A message is abandoned when it is longer than the buffer may grow or an
allocation fails; what is left of it is then discarded up to its last piece.
-/

namespace DrachtioModules.AudioPipe

open Transcribe (Bytes SimpleBuffer)

/-- `MAX_RECV_BUF_SIZE` and `RECV_BUF_REALLOC_SIZE`. -/
structure Limits where
  maxRecvBufSize : Nat
  reallocSize : Nat
  deriving DecidableEq, Repr

/-- `m_recv_buf` with the block it points to, `m_recv_buf_ptr` as an offset into
that block, `m_recv_buf_len` and `m_recv_buf_discarding`. -/
structure Receiver where
  recvBuf : Option Bytes
  recvBufPtr : Nat
  recvBufLen : Nat
  discarding : Bool
  deriving DecidableEq, Repr

/-- One callback: what `lws_frame_is_binary`, `lws_is_first_fragment`,
`lws_is_final_fragment` and `lws_remaining_packet_payload` tell, the bytes, the
outcome of the allocation it may make, and `m_finished`. -/
structure Callback where
  binary : Bool
  first : Bool
  final : Bool
  remaining : Nat
  chunk : Bytes
  allocated : Bool
  finished : Bool
  deriving DecidableEq, Repr

inductive Event (ν : Type) where
  | asserted (holds : Bool)
  | copied (offset length allocated : Nat)
  | notified (notification : ν)
  deriving DecidableEq, Repr

section Handler

variable {ν : Type} (limits : Limits) (notify : Bytes → Bool → ν)

/-- What a reader of a C string finds. -/
def cString (text : Bytes) : Bytes := text.takeWhile (· ≠ 0)

/-- The message is given up. -/
def abandon (cb : Callback) : Receiver :=
  { recvBuf := none
    recvBufPtr := 0
    recvBufLen := 0
    discarding := !cb.final }

/-- `memcpy` into the block, and the notification after the last piece. -/
def copy (r : Receiver) (cb : Callback) (block : Bytes) :
    Receiver × List (Event ν) :=
  let copied := if cb.chunk.isEmpty then []
    else [.copied r.recvBufPtr cb.chunk.length block.length]
  let block := if cb.chunk.isEmpty then block
    else SimpleBuffer.copyTo block r.recvBufPtr cb.chunk
  let recvBufPtr := r.recvBufPtr + cb.chunk.length
  if cb.final then
    ({ r with recvBuf := none, recvBufPtr := 0, recvBufLen := 0 },
      copied ++ [.notified (notify (cString (block.take recvBufPtr))
        cb.finished)])
  else ({ r with recvBuf := some block, recvBufPtr := recvBufPtr }, copied)

/-- From `write_offset` on; fresh memory is never read before it is written. -/
def append (r : Receiver) (cb : Callback) : Receiver × List (Event ν) :=
  let remainingSpace := r.recvBufLen - r.recvBufPtr
  if remainingSpace < cb.chunk.length then
    let newlen := r.recvBufLen + limits.reallocSize
    if limits.maxRecvBufSize < newlen then (abandon cb, [])
    else
      match r.recvBuf, cb.allocated with
      | some block, true =>
          copy notify { r with recvBufLen := newlen } cb
            (block ++ List.replicate (newlen - block.length) 0)
      -- realloc of a null pointer is malloc
      | none, true =>
          copy notify { r with recvBufLen := newlen } cb
            (List.replicate newlen 0)
      | _, false => (abandon cb, [])
  else
    match r.recvBuf with
    | some block => copy notify r cb block
    | none => (r, [])

def receive (r : Receiver) (cb : Callback) : Receiver × List (Event ν) :=
  if cb.binary then (r, [])
  else if cb.first then
    let asserted : Event ν := .asserted r.recvBuf.isNone
    let recvBufLen := cb.chunk.length + cb.remaining
    if limits.maxRecvBufSize < recvBufLen then
      ({ r with recvBufLen := 0, discarding := !cb.final }, [asserted])
    else if cb.allocated then
      let (next, events) := append limits notify
        { recvBuf := some (List.replicate recvBufLen 0)
          recvBufPtr := 0
          recvBufLen := recvBufLen
          discarding := false } cb
      (next, asserted :: events)
    else
      ({ r with
        recvBuf := none
        recvBufLen := 0
        discarding := !cb.final }, [asserted])
  else if r.discarding then
    ({ r with discarding := !cb.final }, [])
  else append limits notify r cb

/-- The callbacks of one connection, in order. -/
def receiveAll (r : Receiver) : List Callback → Receiver × List (Event ν)
  | [] => (r, [])
  | cb :: rest =>
      let (next, events) := receive limits notify r cb
      let (last, later) := receiveAll next rest
      (last, events ++ later)

end Handler

/-- What lws delivers at once. -/
structure Piece where
  chunk : Bytes
  remaining : Nat
  allocated : Bool
  finished : Bool
  small : chunk.length ≤ 1024

structure Message where
  binary : Bool
  first : Piece
  rest : List Piece

def Piece.callback (piece : Piece) (binary first final : Bool) : Callback :=
  { binary := binary
    first := first
    final := final
    remaining := piece.remaining
    chunk := piece.chunk
    allocated := piece.allocated
    finished := piece.finished }

/-- The callbacks for the pieces after the first one. -/
def continuation (binary : Bool) : List Piece → List Callback
  | [] => []
  | piece :: rest =>
      piece.callback binary false rest.isEmpty :: continuation binary rest

def Message.callbacks (message : Message) : List Callback :=
  message.first.callback message.binary true message.rest.isEmpty ::
    continuation message.binary message.rest

def Message.payload (message : Message) : Bytes :=
  message.first.chunk ++ message.rest.flatMap Piece.chunk

/-- The payloads of the text messages, in order. -/
def texts (messages : List Message) : List Bytes :=
  (messages.filter fun message => !message.binary).map Message.payload

/-- `m_recv_buf_len` is not initialised. -/
def Receiver.fresh (recvBufLen : Nat) : Receiver :=
  { recvBuf := none
    recvBufPtr := 0
    recvBufLen := recvBufLen
    discarding := false }

/-- The assertion holds, and no copy goes beyond its block. -/
def Event.sound {ν : Type} : Event ν → Prop
  | .asserted holds => holds = true
  | .copied offset length allocated => offset + length ≤ allocated
  | .notified _ => True

def Event.notification {ν : Type} : Event ν → Option ν
  | .notified notification => some notification
  | _ => none

def notified {ν : Type} (events : List (Event ν)) : List ν :=
  events.filterMap Event.notification

@[simp] theorem notified_append {ν : Type} (events later : List (Event ν)) :
    notified (events ++ later) = notified events ++ notified later :=
  List.filterMap_append

theorem cString_of_not_mem {text : Bytes} (terminated : 0 ∉ text) :
    cString text = text := by
  unfold cString
  rw [List.takeWhile_eq_self_iff]
  intro byte member
  simpa using fun zero : byte = 0 => terminated (zero ▸ member)

/-- Between messages. -/
structure Idle (r : Receiver) : Prop where
  released : r.recvBuf = none
  attentive : r.discarding = false

/-- The block holds what was received so far. -/
structure Receiving (r : Receiver) (payload block : Bytes) : Prop where
  stored : r.recvBuf = some block
  length : block.length = r.recvBufLen
  cursor : r.recvBufPtr = payload.length
  inside : payload.length ≤ block.length
  content : block.take payload.length = payload
  attentive : r.discarding = false

/-- The rest of the message is not looked at. -/
structure Abandoned (r : Receiver) : Prop where
  released : r.recvBuf = none
  discarding : r.discarding = true

section Pieces

variable {ν : Type} {limits : Limits} {notify : Bytes → Bool → ν}

/-- What a callback leads to when `payload` is what its message has brought. -/
structure Outcome (notify : Bytes → Bool → ν) (payload : Bytes) (cb : Callback)
    (next : Receiver) (events : List (Event ν)) : Prop where
  sound : ∀ event ∈ events, event.sound
  finished : cb.final = true → Idle next ∧
    (notified events = [] ∨
      notified events = [notify (cString payload) cb.finished])
  onward : cb.final = false → notified events = [] ∧
    ((∃ block, Receiving next payload block) ∨ Abandoned next)

theorem outcome_abandon {payload : Bytes} (cb : Callback) :
    Outcome notify payload cb (abandon cb) [] := by
  constructor
  · simp
  · intro final
    exact ⟨⟨rfl, by simp [abandon, final]⟩, .inl rfl⟩
  · intro more
    exact ⟨rfl, .inr ⟨rfl, by simp [abandon, more]⟩⟩

/-- A piece is put behind what was received; an empty one is not copied, and
the block stays as it is. -/
theorem stored_copyTo {block payload chunk : Bytes} {offset : Nat}
    (cursor : offset = payload.length)
    (content : block.take payload.length = payload)
    (room : payload.length + chunk.length ≤ block.length) :
    ∃ block', (if chunk.isEmpty then block
        else SimpleBuffer.copyTo block offset chunk) = block' ∧
      block'.length = block.length ∧
      block'.take (payload.length + chunk.length) = payload ++ chunk := by
  refine ⟨_, rfl, ?_⟩
  split
  · rename_i empty
    rw [List.isEmpty_iff.mp empty]
    exact ⟨rfl, by simpa using content⟩
  · have inside : offset + chunk.length ≤ block.length := by
      rw [cursor]
      exact room
    refine ⟨SimpleBuffer.length_copyTo inside, ?_⟩
    unfold SimpleBuffer.copyTo
    rw [cursor, content]
    exact List.take_left' List.length_append

theorem sound_copied {chunk : Bytes} {offset size : Nat}
    (room : offset + chunk.length ≤ size) :
    ∀ event ∈ (if chunk.isEmpty then []
      else [Event.copied offset chunk.length size] : List (Event ν)),
      event.sound := by
  intro event member
  split at member
  · cases member
  · obtain rfl := List.mem_singleton.mp member
    exact room

theorem notified_copied (offset : Nat) (chunk : Bytes) (size : Nat) :
    notified (if chunk.isEmpty then []
      else [Event.copied offset chunk.length size] : List (Event ν)) = [] := by
  split <;> rfl

theorem outcome_copy {r : Receiver} {payload block : Bytes} {cb : Callback}
    (length : block.length = r.recvBufLen)
    (cursor : r.recvBufPtr = payload.length)
    (content : block.take payload.length = payload)
    (attentive : r.discarding = false)
    (room : payload.length + cb.chunk.length ≤ block.length) :
    Outcome notify (payload ++ cb.chunk) cb (copy notify r cb block).1
      (copy notify r cb block).2 := by
  obtain ⟨block', same, length', content'⟩ := stored_copyTo cursor content room
  have silent := @notified_copied ν r.recvBufPtr cb.chunk block.length
  have sound := @sound_copied ν cb.chunk r.recvBufPtr block.length
    (cursor ▸ room)
  unfold copy
  simp only [same]
  constructor
  · split
    · intro event member
      rcases List.mem_append.mp member with before | last
      · exact sound event before
      · obtain rfl := List.mem_singleton.mp last
        trivial
    · exact sound
  · intro final
    rw [if_pos final]
    refine ⟨⟨rfl, attentive⟩, .inr ?_⟩
    rw [notified_append, silent, cursor, content']
    rfl
  · intro more
    rw [if_neg (by simp [more])]
    refine ⟨silent, .inl ⟨block', ?_⟩⟩
    constructor
    · rfl
    · exact length'.trans length
    · rw [List.length_append, ← cursor]
    · rw [List.length_append, length']
      exact room
    · rw [List.length_append]
      exact content'
    · exact attentive

theorem outcome_append (enough : 1024 ≤ limits.reallocSize) {r : Receiver}
    {payload block : Bytes} (receiving : Receiving r payload block)
    (cb : Callback) (small : cb.chunk.length ≤ 1024) :
    Outcome notify (payload ++ cb.chunk) cb (append limits notify r cb).1
      (append limits notify r cb).2 := by
  obtain ⟨stored, length, cursor, inside, content, attentive⟩ := receiving
  unfold append
  simp only [stored]
  split
  · split
    · exact outcome_abandon cb
    · cases cb.allocated with
      | false => exact outcome_abandon cb
      | true =>
          have grown : (block ++ List.replicate
              (r.recvBufLen + limits.reallocSize - block.length) 0).length =
                r.recvBufLen + limits.reallocSize := by
            rw [List.length_append, List.length_replicate]
            omega
          refine outcome_copy grown cursor ?_ attentive ?_
          · rw [List.take_append_of_le_length inside]
            exact content
          · rw [grown]
            omega
  · apply outcome_copy length cursor content attentive
    omega

theorem outcome_first (enough : 1024 ≤ limits.reallocSize) {r : Receiver}
    (idle : Idle r) (cb : Callback) (text : cb.binary = false)
    (first : cb.first = true) (small : cb.chunk.length ≤ 1024) :
    Outcome notify cb.chunk cb (receive limits notify r cb).1
      (receive limits notify r cb).2 := by
  have asserted : (Event.asserted r.recvBuf.isNone : Event ν).sound := by
    rw [idle.released]
    rfl
  -- a message that is not taken up at all
  have dropped : ∀ next : Receiver, next.recvBuf = none →
      next.discarding = !cb.final →
      Outcome notify cb.chunk cb next [.asserted r.recvBuf.isNone] := by
    intro next released discarding
    constructor
    · intro event member
      obtain rfl := List.mem_singleton.mp member
      exact asserted
    · intro final
      exact ⟨⟨released, by rw [discarding, final]; rfl⟩, .inl rfl⟩
    · intro more
      exact ⟨rfl, .inr ⟨released, by rw [discarding, more]; rfl⟩⟩
  unfold receive
  simp only [text, first, Bool.false_eq_true, if_false, if_true]
  by_cases long : limits.maxRecvBufSize < cb.chunk.length + cb.remaining
  · rw [if_pos long]
    exact dropped _ idle.released rfl
  · rw [if_neg long]
    cases cb.allocated with
    | false => exact dropped _ rfl rfl
    | true =>
        have started : Receiving
            { recvBuf := some (List.replicate
                (cb.chunk.length + cb.remaining) 0)
              recvBufPtr := 0
              recvBufLen := cb.chunk.length + cb.remaining
              discarding := false } []
            (List.replicate (cb.chunk.length + cb.remaining) 0) := by
          constructor <;> simp
        have outcome : Outcome notify _ cb _ _ :=
          outcome_append enough started cb small
        constructor
        · intro event member
          rcases List.mem_cons.mp member with rfl | later
          · exact asserted
          · exact outcome.sound event later
        · exact outcome.finished
        · exact outcome.onward

theorem outcome_discarded {r : Receiver} (abandoned : Abandoned r)
    (payload : Bytes) (cb : Callback) (text : cb.binary = false)
    (later : cb.first = false) :
    Outcome notify payload cb (receive limits notify r cb).1
      (receive limits notify r cb).2 := by
  unfold receive
  simp only [text, later, abandoned.discarding, Bool.false_eq_true, if_false,
    if_true]
  constructor
  · simp
  · intro final
    exact ⟨⟨abandoned.released, by rw [final]; rfl⟩, .inl rfl⟩
  · intro more
    exact ⟨rfl, .inr ⟨abandoned.released, by rw [more]; rfl⟩⟩

/-- What the callbacks of a message lead to: at most one notification, of its
payload. -/
structure Delivered (notify : Bytes → Bool → ν) (payload : Bytes)
    (next : Receiver) (events : List (Event ν)) : Prop where
  idle : Idle next
  sound : ∀ event ∈ events, event.sound
  once : notified events = [] ∨
    ∃ finished, notified events = [notify (cString payload) finished]

theorem Delivered.after {payload : Bytes} {last : Receiver}
    {events later : List (Event ν)}
    (delivered : Delivered notify payload last later)
    (sound : ∀ event ∈ events, event.sound) (silent : notified events = []) :
    Delivered notify payload last (events ++ later) := by
  constructor
  · exact delivered.idle
  · intro event member
    rcases List.mem_append.mp member with before | after
    · exact sound event before
    · exact delivered.sound event after
  · rw [notified_append, silent]
    exact delivered.once

theorem Outcome.delivered {payload : Bytes} {cb : Callback} {next : Receiver}
    {events : List (Event ν)} (outcome : Outcome notify payload cb next events)
    (final : cb.final = true) : Delivered notify payload next events := by
  obtain ⟨idle, once⟩ := outcome.finished final
  exact ⟨idle, outcome.sound, once.imp_right fun notice => ⟨_, notice⟩⟩

theorem outcome_continued (enough : 1024 ≤ limits.reallocSize) {r : Receiver}
    {payload : Bytes}
    (state : (∃ block, Receiving r payload block) ∨ Abandoned r)
    (piece : Piece) (final : Bool) :
    Outcome notify (payload ++ piece.chunk) (piece.callback false false final)
      (receive limits notify r (piece.callback false false final)).1
      (receive limits notify r (piece.callback false false final)).2 := by
  rcases state with ⟨block, receiving⟩ | abandoned
  · have attentive := receiving.attentive
    unfold receive
    simp only [Piece.callback, attentive, Bool.false_eq_true, if_false]
    exact outcome_append enough receiving (piece.callback false false final)
      piece.small
  · exact outcome_discarded abandoned _ _ rfl rfl

theorem delivered_continuation (enough : 1024 ≤ limits.reallocSize)
    {r : Receiver} {payload : Bytes}
    (state : (∃ block, Receiving r payload block) ∨ Abandoned r)
    {rest : List Piece} (more : rest ≠ []) :
    Delivered notify (payload ++ rest.flatMap Piece.chunk)
      (receiveAll limits notify r (continuation false rest)).1
      (receiveAll limits notify r (continuation false rest)).2 := by
  induction rest generalizing r payload with
  | nil => exact (more rfl).elim
  | cons piece rest ih =>
      have outcome : Outcome notify _ _ _ _ :=
        outcome_continued enough state piece rest.isEmpty
      rw [List.flatMap_cons, ← List.append_assoc]
      cases rest with
      | nil =>
          have delivered := outcome.delivered rfl
          simp only [continuation, receiveAll, List.flatMap_nil,
            List.append_nil]
          exact delivered
      | cons another rest =>
          obtain ⟨silent, state'⟩ := outcome.onward rfl
          have delivered := ih state' (by simp)
          exact delivered.after outcome.sound silent

theorem receiveAll_binary (r : Receiver) (rest : List Piece) :
    receiveAll limits notify r (continuation true rest) = (r, []) := by
  induction rest with
  | nil => rfl
  | cons piece rest ih =>
      have skipped : receive limits notify r
          (piece.callback true false rest.isEmpty) = (r, []) := rfl
      simp only [continuation, receiveAll, skipped, ih, List.append_nil]

theorem delivered_message (enough : 1024 ≤ limits.reallocSize) {r : Receiver}
    (idle : Idle r) {message : Message} (text : message.binary = false) :
    Delivered notify message.payload
      (receiveAll limits notify r message.callbacks).1
      (receiveAll limits notify r message.callbacks).2 := by
  have outcome : Outcome notify _ _ _ _ := outcome_first enough idle
    (message.first.callback message.binary true message.rest.isEmpty) text rfl
    message.first.small
  unfold Message.payload Message.callbacks
  cases rest : message.rest with
  | nil =>
      rw [rest] at outcome
      have delivered := outcome.delivered rfl
      simp only [continuation, receiveAll, List.flatMap_nil, List.append_nil]
      exact delivered
  | cons piece rest' =>
      rw [rest] at outcome
      obtain ⟨silent, state⟩ := outcome.onward rfl
      rw [text] at outcome silent state ⊢
      have more : piece :: rest' ≠ [] := by simp
      have delivered : Delivered notify _ _ _ :=
        delivered_continuation enough state more
      exact delivered.after outcome.sound silent

theorem receiveAll_append (r : Receiver) (callbacks later : List Callback) :
    receiveAll limits notify r (callbacks ++ later) =
      ((receiveAll limits notify (receiveAll limits notify r callbacks).1
          later).1,
        (receiveAll limits notify r callbacks).2 ++
          (receiveAll limits notify (receiveAll limits notify r callbacks).1
            later).2) := by
  induction callbacks generalizing r with
  | nil => rfl
  | cons cb rest ih =>
      simp only [List.cons_append, receiveAll, ih, List.append_assoc]

/-- What a stream of whole messages leads to. -/
structure Reassembled (read : ν → Bytes) (messages : List Message)
    (next : Receiver) (events : List (Event ν)) : Prop where
  idle : Idle next
  sound : ∀ event ∈ events, event.sound
  ordered : ((notified events).map read).Sublist ((texts messages).map cString)

theorem reassembled (read : ν → Bytes) (enough : 1024 ≤ limits.reallocSize)
    (reads : ∀ text finished, read (notify text finished) = text)
    {r : Receiver} (idle : Idle r) (messages : List Message) :
    Reassembled read messages
      (receiveAll limits notify r (messages.flatMap Message.callbacks)).1
      (receiveAll limits notify r (messages.flatMap Message.callbacks)).2 := by
  induction messages generalizing r with
  | nil => exact ⟨idle, by simp [receiveAll], by simp [notified, receiveAll]⟩
  | cons message messages ih =>
      rw [List.flatMap_cons, receiveAll_append]
      cases kind : message.binary with
      | true =>
          have skipped : receiveAll limits notify r message.callbacks =
              (r, []) := by
            have first : receive limits notify r
                (message.first.callback true true message.rest.isEmpty) =
                  (r, []) := rfl
            simp only [Message.callbacks, kind, receiveAll, first,
              receiveAll_binary, List.append_nil]
          obtain ⟨idle', sound, ordered⟩ := ih idle
          rw [skipped]
          refine ⟨idle', sound, ?_⟩
          have same : texts (message :: messages) = texts messages := by
            simp [texts, kind]
          rw [same]
          exact ordered
      | false =>
          have delivered : Delivered notify _ _ _ :=
            delivered_message enough idle kind
          obtain ⟨idle', sound, ordered⟩ := ih delivered.idle
          refine ⟨idle', ?_, ?_⟩
          · intro event member
            rcases List.mem_append.mp member with here | later
            · exact delivered.sound event here
            · exact sound event later
          · have next : texts (message :: messages) =
                message.payload :: texts messages := by
              simp [texts, kind]
            rw [notified_append, List.map_append, next, List.map_cons]
            rcases delivered.once with none | ⟨finished, one⟩
            · rw [none]
              exact ordered.cons _
            · rw [one]
              simpa [reads] using ordered

theorem reassembled_of_start (read : ν → Bytes)
    (enough : 1024 ≤ limits.reallocSize)
    (reads : ∀ text finished, read (notify text finished) = text)
    {r : Receiver} (idle : Idle r) {messages : List Message}
    {callbacks : List Callback}
    (stream : callbacks <+: messages.flatMap Message.callbacks) :
    (∀ event ∈ (receiveAll limits notify r callbacks).2, event.sound) ∧
      ((notified (receiveAll limits notify r callbacks).2).map read).Sublist
        ((texts messages).map cString) := by
  obtain ⟨later, split⟩ := stream
  have whole : Reassembled read messages _ _ :=
    reassembled read enough reads idle messages
  rw [← split, receiveAll_append] at whole
  constructor
  · intro event member
    exact whole.sound event (List.mem_append_left _ member)
  · have ordered := whole.ordered
    rw [notified_append, List.map_append] at ordered
    exact (List.sublist_append_left _ _).trans ordered

end Pieces

end DrachtioModules.AudioPipe

namespace DrachtioModules.AudioFork

def recvLimits : AudioPipe.Limits :=
  { maxRecvBufSize := 65 * 1024 * 10
    reallocSize := 8 * 1024 }

/-- The handler of mod_audio_fork. -/
def receive (r : AudioPipe.Receiver) (callbacks : List AudioPipe.Callback) :
    AudioPipe.Receiver × List (AudioPipe.Event Transcribe.Bytes) :=
  AudioPipe.receiveAll recvLimits (fun text _ => text) r callbacks

end DrachtioModules.AudioFork

namespace DrachtioModules.Deepgram

open Transcribe (Bytes)

def recvLimits : AudioPipe.Limits :=
  { maxRecvBufSize := 65 * 1024 * 10
    reallocSize := 8 * 1024 }

/-- The handler of mod_deepgram_transcribe, which passes `isFinished()` on. -/
def receive (r : AudioPipe.Receiver) (callbacks : List AudioPipe.Callback) :
    AudioPipe.Receiver × List (AudioPipe.Event (Bytes × Bool)) :=
  AudioPipe.receiveAll recvLimits Prod.mk r callbacks

end DrachtioModules.Deepgram

namespace DrachtioModules.AudioPipe

open Transcribe (Bytes)

/-- For every stream of messages, in every split into pieces and with every
outcome of the allocations, and at every point of it: the assertion holds, no
copy goes beyond its block, and the notifications are the payloads of text
messages, in order and each at most once; between messages the buffer is
released. -/
theorem messages_intact (recvBufLen : Nat) (messages : List Message)
    (callbacks : List Callback)
    (stream : callbacks <+: messages.flatMap Message.callbacks) :
    ((∀ event ∈ (AudioFork.receive (.fresh recvBufLen) callbacks).2,
        event.sound) ∧
      (notified (AudioFork.receive (.fresh recvBufLen) callbacks).2).Sublist
        ((texts messages).map cString) ∧
      (callbacks = messages.flatMap Message.callbacks →
        Idle (AudioFork.receive (.fresh recvBufLen) callbacks).1)) ∧
    ((∀ event ∈ (Deepgram.receive (.fresh recvBufLen) callbacks).2,
        event.sound) ∧
      ((notified (Deepgram.receive (.fresh recvBufLen) callbacks).2).map
        Prod.fst).Sublist ((texts messages).map cString) ∧
      (callbacks = messages.flatMap Message.callbacks →
        Idle (Deepgram.receive (.fresh recvBufLen) callbacks).1)) ∧
    ((∀ payload ∈ texts messages, 0 ∉ payload) →
      (texts messages).map cString = texts messages) := by
  have fresh : Idle (.fresh recvBufLen) := ⟨rfl, rfl⟩
  have fork : 1024 ≤ AudioFork.recvLimits.reallocSize := by decide
  have deepgram : 1024 ≤ Deepgram.recvLimits.reallocSize := by decide
  refine ⟨⟨?_, ?_, ?_⟩, ⟨?_, ?_, ?_⟩, ?_⟩
  · exact (reassembled_of_start id fork (fun _ _ => rfl) fresh stream).1
  · have ordered :=
      (reassembled_of_start id fork (fun _ _ => rfl) fresh stream).2
    rwa [List.map_id] at ordered
  · rintro rfl
    exact (reassembled id fork (fun _ _ => rfl) fresh messages).idle
  · exact (reassembled_of_start Prod.fst deepgram (fun _ _ => rfl) fresh
      stream).1
  · exact (reassembled_of_start Prod.fst deepgram (fun _ _ => rfl) fresh
      stream).2
  · rintro rfl
    exact (reassembled Prod.fst deepgram (fun _ _ => rfl) fresh messages).idle
  · intro terminated
    nth_rewrite 2 [← List.map_id (texts messages)]
    apply List.map_congr_left
    intro payload member
    exact cString_of_not_mem (terminated payload member)

/-- Three pieces, the second of which makes the block grow. -/
theorem messages_intact_of_growth :
    let first : Piece := ⟨[1, 2], 0, true, false, by decide⟩
    let second : Piece := ⟨[3], 0, true, false, by decide⟩
    let last : Piece := ⟨[4, 5], 0, true, true, by decide⟩
    let messages : List Message := [⟨false, first, [second, last]⟩]
    let callbacks := messages.flatMap Message.callbacks
    notified (AudioFork.receive (.fresh 0) callbacks).2 = [[1, 2, 3, 4, 5]] ∧
      (notified (AudioFork.receive (.fresh 0) callbacks).2).Sublist
        ((texts messages).map cString) := by
  intro first second last messages callbacks
  exact ⟨by decide, (messages_intact 0 messages callbacks
    List.prefix_rfl).1.2.1⟩

end DrachtioModules.AudioPipe

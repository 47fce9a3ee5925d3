import DrachtioModules.Transcribe.DropOldest

/-!
# Audio kept until the stream is connected

Before the stream is connected `write()` appends each frame to
`m_prebufStaging` and moves the whole chunks found there to `m_audioBuffer`.
Together the two hold the bytes accepted so far, but for those of the oldest
chunks beyond what `m_audioBuffer` can hold.
-/

namespace DrachtioModules.Transcribe

/-- All but the bytes of the oldest whole chunks beyond `numChunks`. -/
def keptBytes (chunkSize numChunks : Nat) (accepted : Bytes) : Bytes :=
  accepted.drop ((accepted.length / chunkSize - numChunks) * chunkSize)

theorem keptBytes_suffix (chunkSize numChunks : Nat) (accepted : Bytes) :
    keptBytes chunkSize numChunks accepted <:+ accepted :=
  List.drop_suffix _ _

/-- The whole chunks that fit and what is left over after the last chunk. -/
theorem length_keptBytes (chunkSize numChunks : Nat) (accepted : Bytes) :
    (keptBytes chunkSize numChunks accepted).length =
      min (accepted.length / chunkSize) numChunks * chunkSize +
        accepted.length % chunkSize := by
  have parts := Nat.div_add_mod' accepted.length chunkSize
  have split : (accepted.length / chunkSize - numChunks) * chunkSize +
      min (accepted.length / chunkSize) numChunks * chunkSize =
        accepted.length / chunkSize * chunkSize := by
    rw [← Nat.add_mul]
    congr 1
    omega
  unfold keptBytes
  rw [List.length_drop]
  omega

/-- The kept bytes are the one suffix of their length. -/
theorem eq_keptBytes_iff {chunkSize numChunks : Nat} {accepted bytes : Bytes} :
    bytes = keptBytes chunkSize numChunks accepted ↔
      bytes <:+ accepted ∧ bytes.length =
        min (accepted.length / chunkSize) numChunks * chunkSize +
          accepted.length % chunkSize := by
  constructor
  · rintro rfl
    exact ⟨keptBytes_suffix .., length_keptBytes ..⟩
  · rintro ⟨suffix, length⟩
    have same : bytes.length = (keptBytes chunkSize numChunks accepted).length :=
      length.trans (length_keptBytes ..).symm
    have within := List.suffix_of_suffix_length_le suffix
      (keptBytes_suffix chunkSize numChunks accepted) same.le
    exact within.eq_of_length same

/-- What was dropped already is not missed when more is accepted. -/
theorem keptBytes_append (chunkSize numChunks : Nat) (accepted data : Bytes) :
    keptBytes chunkSize numChunks
        (keptBytes chunkSize numChunks accepted ++ data) =
      keptBytes chunkSize numChunks (accepted ++ data) := by
  have fits : (accepted.length / chunkSize - numChunks) * chunkSize ≤
      accepted.length :=
    (Nat.mul_le_mul_right _ (Nat.sub_le _ _)).trans (Nat.div_mul_le_self _ _)
  have front : keptBytes chunkSize numChunks accepted ++ data =
      (accepted ++ data).drop
        ((accepted.length / chunkSize - numChunks) * chunkSize) :=
    (List.drop_append_of_le_length fits).symm
  have more : accepted.length / chunkSize ≤
      (accepted ++ data).length / chunkSize := by
    apply Nat.div_le_div_right
    rw [List.length_append]
    exact Nat.le_add_right _ _
  have left : ((accepted ++ data).length -
      (accepted.length / chunkSize - numChunks) * chunkSize) / chunkSize =
        (accepted ++ data).length / chunkSize -
          (accepted.length / chunkSize - numChunks) := by
    rw [Nat.mul_comm]
    exact Nat.sub_mul_div ..
  unfold keptBytes at front ⊢
  rw [front, List.length_drop, List.drop_drop, left, ← Nat.add_mul]
  congr 2
  omega

/-- `m_audioBuffer` and `m_prebufStaging` once the bytes were accepted. -/
structure Prebuffered (chunkSize numChunks : Nat) (accepted : Bytes)
    (audioBuffer : SimpleBuffer) (staging : Bytes) : Prop where
  sound : SimpleBuffer.Sound chunkSize numChunks audioBuffer
  chunks : audioBuffer.chunks = (whole chunkSize accepted).rtake numChunks
  staging : staging = remainder chunkSize accepted

section Prebuffered

variable {chunkSize numChunks : Nat} {accepted staging : Bytes}
variable {audioBuffer : SimpleBuffer}

theorem prebuffered_create (positive : 1 ≤ numChunks) :
    Prebuffered chunkSize numChunks []
      (SimpleBuffer.create chunkSize numChunks) [] := by
  constructor
  · exact SimpleBuffer.sound_create positive
  · simp [whole, pieces, SimpleBuffer.chunks, SimpleBuffer.create, List.rtake]
  · simp [remainder]

theorem Prebuffered.stage
    (held : Prebuffered chunkSize numChunks accepted audioBuffer staging)
    {data : Bytes} {usable : Nat}
    (amount : usable = (staging ++ data).length / chunkSize * chunkSize)
    (completes : usable ≠ 0) :
    Prebuffered chunkSize numChunks (accepted ++ data)
      (audioBuffer.add ((staging ++ data).take usable))
      ((staging ++ data).drop usable) := by
  obtain ⟨sound, chunks, rfl⟩ := held
  have positive : 0 < chunkSize := by
    apply Nat.pos_of_ne_zero
    rintro rfl
    exact completes amount
  have length : ((remainder chunkSize accepted ++ data).take usable).length =
      usable := by
    rw [amount]
    exact length_front _ _
  have count : usable / chunkSize =
      (remainder chunkSize accepted ++ data).length / chunkSize := by
    rw [amount, Nat.mul_div_cancel _ positive]
  have moved : whole chunkSize
      ((remainder chunkSize accepted ++ data).take usable) =
        whole chunkSize (remainder chunkSize accepted ++ data) := by
    unfold whole
    rw [length, count, amount, pieces_take]
  constructor
  · exact sound.add positive _
  · obtain ⟨formed, rfl, rfl⟩ := sound
    have fits : ((remainder audioBuffer.chunkSize accepted ++ data).take
        usable).length % audioBuffer.chunkSize = 0 := by
      rw [length, amount]
      exact Nat.mul_mod_left _ _
    rw [SimpleBuffer.chunks_add formed positive fits, moved, chunks,
      rtake_append_rtake, ← whole_append]
  · rw [remainder_append, amount]
    rfl

theorem Prebuffered.gather
    (held : Prebuffered chunkSize numChunks accepted audioBuffer staging)
    {data : Bytes}
    (short : (staging ++ data).length / chunkSize * chunkSize = 0) :
    Prebuffered chunkSize numChunks (accepted ++ data) audioBuffer
      (staging ++ data) := by
  obtain ⟨sound, chunks, rfl⟩ := held
  have none : (remainder chunkSize accepted ++ data).length / chunkSize = 0 := by
    rcases Nat.mul_eq_zero.mp short with empty | rfl
    · exact empty
    · exact Nat.div_zero _
  constructor
  · exact sound
  · rw [chunks, whole_append]
    nth_rewrite 3 [whole]
    rw [none, pieces, List.append_nil]
  · rw [remainder_append]
    nth_rewrite 2 [remainder]
    rw [short, List.drop_zero]

/-- Nothing is lost but the oldest chunks, and nothing is out of order. -/
theorem Prebuffered.content
    (held : Prebuffered chunkSize numChunks accepted audioBuffer staging) :
    audioBuffer.chunks.flatten ++ staging =
      keptBytes chunkSize numChunks accepted := by
  rw [held.chunks, held.staging]
  exact flatten_whole_rtake chunkSize numChunks accepted

theorem Prebuffered.short
    (held : Prebuffered chunkSize numChunks accepted audioBuffer staging)
    (positive : 0 < chunkSize) : staging.length < chunkSize := by
  rw [held.staging, length_remainder]
  exact Nat.mod_lt _ positive

end Prebuffered

/-- A hand-over to the live path: `accepted` and `sent` are the bytes taken and
passed on before the drain begins, `accepted'` and `sent'` those since; `ended`
tells that the drain is over. -/
structure HandedOver (chunkSize : Nat) (accepted sent accepted' sent' : Bytes)
    (ended : Bool) (audioBuffer : SimpleBuffer) (staging : Bytes) : Prop where
  unsent : sent = []
  ordered : sent' <+: keptBytes chunkSize 15 accepted ++ accepted'
  complete : ended = true →
    sent' = keptBytes chunkSize 15 accepted ++ accepted'
  emptied : ended = true → audioBuffer.numItems = 0 ∧ staging = []

end DrachtioModules.Transcribe

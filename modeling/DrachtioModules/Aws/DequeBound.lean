import DrachtioModules.Aws.Flush

/-!
# The bound of the deque

`write()` makes room for every frame it pushes; the drain of the pre-connect
buffer pushes without looking, but what it can push is bounded and comes before
any frame of `write()`.
-/

namespace DrachtioModules.Aws

open Transcribe (Bytes SimpleBuffer)

variable {τ : Type} {config : Config} {s s' : State τ} {label : Act τ}
variable {events : List (Event τ)}

def Event.frame : Event τ → Option Bytes
  | .enqueued bits => some bits
  | _ => none

/-- The worker swaps the deque out. -/
def takesDeque (s : State τ) : Act τ → Bool
  | .worker =>
      (match s.worker with
        | .serving => true
        | _ => false) && s.stream
  | _ => false

/-- The frames enqueued since the worker last took the deque. -/
def noteFrames (config : Config) (s : State τ) (label : Act τ)
    (frames : List Bytes) : List Bytes :=
  if takesDeque s label then []
  else
    match step config s label with
    | none => frames
    | some (_, events) => frames ++ events.filterMap Event.frame

/-- The deque is taken, or its oldest frames are dropped and the new ones
pushed. -/
def MovesDeque (s s' : State τ) (label : Act τ) (events : List (Event τ)) :
    Prop :=
  if takesDeque s label then s'.deqAudio = []
  else ∃ kept, kept <:+ s.deqAudio ∧
    s'.deqAudio = kept ++ events.filterMap Event.frame

theorem movesDeque_same (untaken : takesDeque s label = false)
    (deqAudio : s'.deqAudio = s.deqAudio)
    (silent : events.filterMap Event.frame = []) :
    MovesDeque s s' label events := by
  rw [MovesDeque, if_neg (by simp [untaken]), silent]
  exact ⟨s.deqAudio, List.suffix_rfl, by simp [deqAudio]⟩

theorem movesDeque_worker (step : stepWorker s = some (s', events)) :
    MovesDeque s s' .worker events := by
  obtain ⟨stage, here, taken⟩ := stepWorker_cases step
  cases taken with
  | takeLast _ ready | takeAudio _ ready =>
      rw [MovesDeque, if_pos (by simp [takesDeque, here, ready])]
  | initiate _ unready | takeNothing _ unready =>
      exact movesDeque_same (by simp [takesDeque, unready]) rfl rfl
  | _ => exact movesDeque_same (by simp [takesDeque, here]) rfl rfl

theorem movesDeque_media (step : stepMedia config s = some (s', events)) :
    MovesDeque s s' .media events := by
  obtain ⟨stage, _, taken⟩ := stepMedia_cases step
  cases taken with
  | direct | stages | late => exact movesDeque_same rfl rfl rfl
  | @stage data =>
      rw [stage_same]
      exact movesDeque_same rfl rfl rfl
  | @push data =>
      rw [MovesDeque, if_neg (by simp [takesDeque])]
      refine ⟨dropOldest config.maxBufferedFrames s.deqAudio, ?_, rfl⟩
      rw [dropOldest_eq_rtake]
      exact List.drop_suffix _ _

theorem movesDeque_streamReady
    (step : stepStreamReady s = some (s', events)) :
    MovesDeque s s' .streamReady events := by
  obtain ⟨stage, _, taken⟩ := stepStreamReady_cases step
  cases taken with
  | push | flush =>
      rw [MovesDeque, if_neg (by simp [takesDeque])]
      exact ⟨s.deqAudio, List.suffix_rfl, rfl⟩
  | _ => exact movesDeque_same rfl rfl rfl

theorem movesDeque_call (isCall : label.isCall = true)
    (step : (machine τ config).step s label = some (s', events)) :
    MovesDeque s s' label events := by
  have called := (call_cases isCall step).called
  have silent : events.filterMap Event.frame = [] := by
    apply List.filterMap_eq_nil_iff.mpr
    intro event member
    cases event with
    | enqueued bits => exact (called.silent bits member).elim
    | _ => rfl
  have untaken : takesDeque s label = false := by
    cases label with
    | worker => cases isCall
    | _ => rfl
  exact movesDeque_same untaken called.deqAudio silent

theorem movesDeque_step
    (step : (machine τ config).step s label = some (s', events)) :
    MovesDeque s s' label events := by
  cases label with
  | media => exact movesDeque_media step
  | streamReady => exact movesDeque_streamReady step
  | worker => exact movesDeque_worker step
  | timeout =>
      obtain ⟨_, _, _, rfl, rfl | rfl⟩ := stepTimeout_cases step
      · exact movesDeque_same rfl rfl rfl
      · exact movesDeque_same rfl rfl rfl
  | connect | write | finish | onStreamReady | onTranscriptEvent | onResponse =>
      exact movesDeque_call rfl step

/-- The oldest frames are all that is missing. -/
theorem suffix_step {frames : List Bytes} (suffix : s.deqAudio <:+ frames)
    (step : (machine τ config).step s label = some (s', events)) :
    s'.deqAudio <:+ noteFrames config s label frames := by
  have moves := movesDeque_step step
  rw [MovesDeque] at moves
  rw [noteFrames, show Aws.step config s label = _ from step]
  split at moves <;> rename_i taken
  · rw [if_pos taken]
    exact List.suffix_nil.mpr moves
  · rw [if_neg taken]
    obtain ⟨kept, newest, now⟩ := moves
    obtain ⟨older, whole⟩ := newest.trans suffix
    rw [now, ← whole]
    exact ⟨older, (List.append_assoc ..).symm⟩

/-- What is in the deque at each point of OnStreamReady.  Before `m_connected`
is set nothing but the drain is pushed, at most 15 chunks and what is left. -/
def Roomy (config : Config) (s : State τ) : Prop :=
  match s.streamReady with
  | .drainingBuffer =>
      s.connected = false ∧ s.deqAudio.length + s.audioBuffer.numItems ≤ 15
  | .drainingStaging => s.connected = false ∧ s.deqAudio.length ≤ 15
  | .publishing => s.connected = false ∧ s.deqAudio.length ≤ 16
  | .notifying | .returned =>
      s.deqAudio.length ≤ max config.maxBufferedFrames 16
  | _ => s.connected = false ∧ s.deqAudio = []

structure Bounded (config : Config) (s : State τ) : Prop where
  sound : SimpleBuffer.Sound config.prebufChunkSize 15 s.audioBuffer
  pushing : ∀ data, s.media = .pushing data → s.connected = true
  roomy : Roomy config s

theorem bounded_fresh : Bounded config (.fresh τ config) :=
  { sound := SimpleBuffer.sound_create (by decide)
    pushing := by simp [State.fresh]
    roomy := ⟨rfl, rfl⟩ }

theorem Bounded.length_le (holds : Bounded config s) :
    s.deqAudio.length ≤ max config.maxBufferedFrames 16 := by
  have roomy := holds.roomy
  unfold Roomy at roomy
  split at roomy
  · omega
  · omega
  · omega
  · exact roomy
  · exact roomy
  · rw [roomy.2]
    exact Nat.zero_le _

theorem Bounded.numItems_le (holds : Bounded config s) :
    s.audioBuffer.numItems ≤ 15 := by
  have counted := holds.sound.formed.counted
  rwa [holds.sound.numChunks_eq] at counted

/-- Frames leave the deque; `write()` stages while OnStreamReady has not taken
`m_audioBufferMutex`. -/
theorem Roomy.fewer (roomy : Roomy config s)
    (streamReady : s'.streamReady = s.streamReady)
    (connected : s'.connected = s.connected)
    (audioBuffer : s.streamReady.holds = true → s'.audioBuffer = s.audioBuffer)
    (fewer : s'.deqAudio.length ≤ s.deqAudio.length) : Roomy config s' := by
  unfold Roomy at roomy ⊢
  rw [streamReady, connected]
  split at roomy <;> rename_i stage
  · rw [audioBuffer (by rw [stage]; rfl)]
    exact ⟨roomy.1, by omega⟩
  · exact ⟨roomy.1, by omega⟩
  · exact ⟨roomy.1, by omega⟩
  · exact fewer.trans roomy
  · exact fewer.trans roomy
  · refine ⟨roomy.1, List.length_eq_zero_iff.mp ?_⟩
    rw [roomy.2] at fewer
    exact Nat.le_zero.mp fewer

theorem Bounded.worker (holds : Bounded config s)
    (step : stepWorker s = some (s', events)) : Bounded config s' := by
  obtain ⟨stage, _, taken⟩ := stepWorker_cases step
  cases taken with
  | takeLast | takeAudio =>
      exact ⟨holds.sound, holds.pushing,
        holds.roomy.fewer rfl rfl (fun _ => rfl) (Nat.zero_le _)⟩
  | _ =>
      exact ⟨holds.sound, holds.pushing,
        holds.roomy.fewer rfl rfl (fun _ => rfl) (Nat.le_refl _)⟩

theorem sound_stage
    (sound : SimpleBuffer.Sound config.prebufChunkSize 15 s.audioBuffer)
    (data : Bytes) :
    SimpleBuffer.Sound config.prebufChunkSize 15
      (Aws.stage config s data).audioBuffer := by
  dsimp only [Aws.stage]
  split
  · rename_i completes
    apply sound.add
    exact Nat.pos_of_ne_zero (right_ne_zero_of_mul completes)
  · exact sound

/-- A frame that finds `m_connected` set comes after the drain. -/
theorem Bounded.push (holds : Bounded config s) {data : Bytes}
    (media : s.media = .pushing data) :
    Roomy config { s with
      deqAudio := dropOldest config.maxBufferedFrames s.deqAudio ++ [data]
      media := .idle } := by
  have connected := holds.pushing data media
  have capped : (dropOldest config.maxBufferedFrames s.deqAudio ++
      [data]).length ≤ max config.maxBufferedFrames 16 := by
    rw [List.length_append, dropOldest_eq_rtake, length_rtake,
      List.length_singleton]
    omega
  have roomy := holds.roomy
  unfold Roomy at roomy
  split at roomy
  case h_4 stage | h_5 stage =>
    show Roomy config _
    simpa only [Roomy, stage] using capped
  all_goals simp [connected] at roomy

theorem Bounded.media (holds : Bounded config s)
    (step : stepMedia config s = some (s', events)) : Bounded config s' := by
  obtain ⟨stage, media, taken⟩ := stepMedia_cases step
  cases taken with
  | direct connected | late _ connected =>
      exact ⟨holds.sound, fun _ _ => connected,
        holds.roomy.fewer rfl rfl (fun _ => rfl) (Nat.le_refl _)⟩
  | stages =>
      exact ⟨holds.sound, by simp,
        holds.roomy.fewer rfl rfl (fun _ => rfl) (Nat.le_refl _)⟩
  | @stage data free =>
      have sound := sound_stage holds.sound data
      rw [stage_same]
      refine ⟨sound, by simp, holds.roomy.fewer rfl rfl ?_ (Nat.le_refl _)⟩
      intro held
      rw [free] at held
      cases held
  | push => exact ⟨holds.sound, by simp, holds.push media⟩

theorem Bounded.streamReady (holds : Bounded config s)
    (step : stepStreamReady s = some (s', events)) : Bounded config s' := by
  obtain ⟨stage, called, taken⟩ := stepStreamReady_cases step
  have roomy := holds.roomy
  rw [Roomy, called] at roomy
  cases taken with
  | @store located =>
      refine ⟨holds.sound, holds.pushing, ?_⟩
      cases located with
      | true => exact roomy
      | false =>
          show s.deqAudio.length ≤ _
          rw [roomy.2]
          exact Nat.zero_le _
  | drain =>
      refine ⟨holds.sound, holds.pushing, roomy.1, ?_⟩
      have items := holds.numItems_le
      rw [roomy.2]
      simpa using items
  | skip =>
      refine ⟨holds.sound, holds.pushing, roomy.1, ?_⟩
      rw [roomy.2]
      exact Nat.zero_le _
  | drained =>
      exact ⟨holds.sound, holds.pushing, roomy.1,
        (Nat.le_add_right _ _).trans roomy.2⟩
  | @push offset audioBuffer chunk =>
      have sound := holds.sound.getNextChunk
      rw [chunk] at sound
      obtain ⟨used, _, rest⟩ := SimpleBuffer.getNextChunk_some chunk
      have fewer : audioBuffer.numItems = s.audioBuffer.numItems - 1 := by
        rw [rest]
      refine ⟨sound, holds.pushing, roomy.1, ?_⟩
      have fits := roomy.2
      rw [List.length_append, List.length_singleton]
      show _ + 1 + audioBuffer.numItems ≤ 15
      omega
  | keep =>
      exact ⟨holds.sound, holds.pushing, roomy.1, roomy.2.trans (by decide)⟩
  | flush =>
      refine ⟨holds.sound, holds.pushing, roomy.1, ?_⟩
      rw [List.length_append]
      exact Nat.succ_le_succ roomy.2
  | publish =>
      exact ⟨holds.sound, fun _ _ => rfl,
        roomy.2.trans (Nat.le_max_right _ _)⟩
  | notify => exact ⟨holds.sound, holds.pushing, roomy⟩

theorem Bounded.call (holds : Bounded config s)
    (called : Called s s' events) : Bounded config s' := by
  constructor
  · rw [called.audioBuffer]
    exact holds.sound
  · intro data pushing
    rw [called.connected]
    rcases called.media with same | ⟨_, entered⟩
    · exact holds.pushing data (same ▸ pushing)
    · rw [entered] at pushing
      cases pushing
  · rcases called.streamReady with same | ⟨fresh, located, entered⟩
    · exact holds.roomy.fewer same called.connected
        (fun _ => called.audioBuffer) (by rw [called.deqAudio])
    · have roomy := holds.roomy
      rw [Roomy, fresh] at roomy
      rw [Roomy, entered, called.connected, called.deqAudio]
      exact roomy

theorem Bounded.step (holds : Bounded config s)
    (step : (machine τ config).step s label = some (s', events)) :
    Bounded config s' := by
  cases label with
  | media => exact holds.media step
  | streamReady => exact holds.streamReady step
  | worker => exact holds.worker step
  | timeout =>
      obtain ⟨_, _, _, rfl, _⟩ := stepTimeout_cases step
      exact ⟨holds.sound, holds.pushing,
        holds.roomy.fewer rfl rfl (fun _ => rfl) (Nat.le_refl _)⟩
  | connect | write | finish | onStreamReady | onTranscriptEvent | onResponse =>
      exact holds.call (call_cases rfl step).called

/-- Under every interleaving the deque holds `m_maxBufferedFrames` frames or 16
at most, the newest of those enqueued since it was last taken. -/
theorem deque_bounded {frames : List Bytes} {labels : List (Act τ)}
    {trace : List (Event τ)}
    (run : ((machine τ config).recording [] (noteFrames config)).Run anyStep
      (.fresh τ config, []) labels trace (s, frames)) :
    s.deqAudio.length ≤ max config.maxBufferedFrames 16 ∧
      s.deqAudio <:+ frames := by
  suffices Bounded config s ∧ s.deqAudio <:+ frames from
    ⟨this.1.length_le, this.2⟩
  apply run.invariant fun recorded =>
    Bounded config recorded.1 ∧ recorded.1.deqAudio <:+ recorded.2
  · exact ⟨bounded_fresh, List.suffix_rfl⟩
  · rintro ⟨before, past⟩ label ⟨after, now⟩ events ⟨holds, suffix⟩ _ step
    obtain ⟨moved, rfl⟩ := Machine.recording_step step
    exact ⟨holds.step moved, suffix_step suffix moved⟩

/-- Two frames staged before the stream is there, and three after it while the
worker never runs: the first frames make room for the last. -/
theorem deque_bounded_stalled :
    ∃ s labels trace frames,
      ((machine Nat ⟨3, 2⟩).recording [] (noteFrames ⟨3, 2⟩)).Run anyStep
        (.fresh Nat ⟨3, 2⟩, []) labels trace (s, frames) ∧
      s.deqAudio.length = 3 ∧ frames.length = 5 ∧
      s.deqAudio.length ≤ max 3 16 ∧ s.deqAudio <:+ frames := by
  have executed :
      (((machine Nat ⟨3, 2⟩).recording [] (noteFrames ⟨3, 2⟩)).exec anyStep
        (.fresh Nat ⟨3, 2⟩, [])
        [.write [1, 2], .media, .media, .connect, .onStreamReady true,
          .write [3], .media, .media, .streamReady, .streamReady, .streamReady,
          .streamReady, .streamReady, .streamReady,
          .write [4], .media, .media, .write [5], .media, .media,
          .write [6], .media, .media]).map (fun outcome =>
          outcome.1.1.deqAudio.length == 3 && outcome.1.2.length == 5) =
        some true := by
    decide
  obtain ⟨⟨s, frames⟩, trace, run, seen⟩ :=
    Machine.exists_run_of_exec _ executed
  obtain ⟨three, five⟩ := Bool.and_eq_true_iff.mp seen
  exact ⟨s, _, trace, frames, run, eq_of_beq three, eq_of_beq five,
    deque_bounded run⟩

end DrachtioModules.Aws

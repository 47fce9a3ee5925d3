import DrachtioModules.Aws.HandOver
import DrachtioModules.Azure.HandOver
import DrachtioModules.Google.GStreamer
import DrachtioModules.Transcribe.Prebuffer

/-!
# What the drain of the pre-connect buffer emits

The three modules stage the frames written before their stream is connected in
the same way, and each drains the buffer at connect time on a thread of its own
kind: OnStreamReady, the SessionStarted callback, `connect()` on the media
thread.  What comes out is decided by the bytes alone: neither the cut into
frames nor the number of times the ring wrapped shows.
-/

namespace DrachtioModules.Transcribe

/-- Less than a chunk is staged, and a drain emits the whole chunks that fit,
then what is staged. -/
structure DrainsSuffix (chunkSize : Nat) (accepted staging : Bytes)
    (drains : Bytes → Prop) : Prop where
  short : staging.length < chunkSize
  exact : ∀ emitted, drains emitted ↔
    emitted <:+ accepted ∧ emitted.length =
      min (accepted.length / chunkSize) 15 * chunkSize +
        accepted.length % chunkSize

/-- A drain that has one outcome, the bytes that were kept. -/
theorem Prebuffered.drainsSuffix {chunkSize : Nat} {accepted staging : Bytes}
    {audioBuffer : SimpleBuffer} {drains : Bytes → Prop}
    (held : Prebuffered chunkSize 15 accepted audioBuffer staging)
    (positive : 0 < chunkSize)
    (ends : drains (audioBuffer.chunks.flatten ++ staging))
    (unique : ∀ one other, drains one → drains other → one = other) :
    DrainsSuffix chunkSize accepted staging drains := by
  refine ⟨held.short positive, ?_⟩
  intro emitted
  rw [held.content] at ends
  rw [← eq_keptBytes_iff]
  constructor
  · intro drained
    exact unique _ _ drained ends
  · rintro rfl
    exact ends

end DrachtioModules.Transcribe

namespace DrachtioModules.Aws

open Transcribe (Bytes SimpleBuffer Prebuffered DrainsSuffix)

variable {τ : Type} {config : Config}

/-- `m_prebufChunkSize` -/
def prebufChunkSize (samplesPerSecond : Nat) : Nat :=
  320 * (if samplesPerSecond = 8000 then 1 else 2)

theorem prebufChunkSize_pos (samplesPerSecond : Nat) :
    0 < prebufChunkSize samplesPerSecond := by
  unfold prebufChunkSize
  split <;> decide

/-- The GStreamer after `write()` staged the frames. -/
def staged (τ : Type) (config : Config) (frames : List Bytes) : State τ :=
  frames.foldl (stage config) (.fresh τ config)

/-- OnStreamReady has not returned. -/
def draining (s : State τ) : Bool := decide (s.streamReady ≠ .returned)

/-- OnStreamReady, called once the request was made, emits the bytes. -/
def Drains (config : Config) (s : State τ) (emitted : Bytes) : Prop :=
  ∃ trace s', (machine τ config).Alone .streamReady draining
      { s with connecting := true, streamReady := .called true } trace s' ∧
    enqueuedBytes trace = emitted

theorem staged_prebuffered (τ : Type) (config : Config) (frames : List Bytes) :
    Prebuffered config.prebufChunkSize 15 frames.flatten
      (staged τ config frames).audioBuffer
      (staged τ config frames).prebufStaging := by
  induction frames using List.reverseRecOn with
  | nil => exact Transcribe.prebuffered_create (by decide)
  | append_singleton frames data ih =>
      rw [List.flatten_append, List.flatten_singleton]
      unfold staged at ih ⊢
      rw [List.foldl_append]
      exact prebuffered_stage ih data

theorem stage_worker (s : State τ) (data : Bytes) :
    (stage config s data).worker = s.worker := by
  dsimp only [stage]
  split <;> rfl

theorem staged_worker (frames : List Bytes) :
    (staged τ config frames).worker = .waiting := by
  induction frames using List.reverseRecOn with
  | nil => rfl
  | append_singleton frames data ih =>
      unfold staged at ih ⊢
      rw [List.foldl_append]
      exact (stage_worker _ data).trans ih

theorem drains_staging (config : Config) {s : State τ}
    (free : s.worker.holds = false)
    (here : s.streamReady = .drainingStaging) :
    ∃ trace s', (machine τ config).Alone .streamReady draining s trace s' ∧
      enqueuedBytes trace = s.prebufStaging := by
  have busy : draining s = true := by simp [draining, here]
  have ended : ∀ t : State τ, t.worker.holds = false →
      t.streamReady = .publishing →
      ∃ t', (machine τ config).Alone .streamReady draining t [] t' := by
    intro t unheld publishing
    refine ⟨{ t with connected := true, streamReady := .returned }, ?_⟩
    apply Machine.Alone.silent
    · simp [draining, publishing]
    · simp [machine, Aws.step, stepStreamReady, publishing]
      rfl
    · apply Machine.Alone.silent
      · simp [draining]
      · simp [machine, Aws.step, stepStreamReady, unheld]
        rfl
      · exact .through (by simp [draining])
  by_cases empty : s.prebufStaging = []
  · obtain ⟨s', rest⟩ :=
      ended { s with streamReady := .publishing } free rfl
    refine ⟨[], s', .silent busy ?_ rest, empty.symm⟩
    simp [machine, Aws.step, stepStreamReady, here, empty]
  · obtain ⟨s', rest⟩ := ended { s with
      deqAudio := s.deqAudio ++ [s.prebufStaging]
      prebufStaging := []
      streamReady := .publishing } free rfl
    refine ⟨[.enqueued s.prebufStaging] ++ [], s', .step busy ?_ rest, ?_⟩
    · simp [machine, Aws.step, stepStreamReady, here, empty, free]
    · simp [enqueuedBytes, Event.enqueuedBytes]

theorem drains_chunks (config : Config) {count : Nat} {s : State τ}
    (items : s.audioBuffer.numItems = count)
    (formed : s.audioBuffer.WellFormed) (free : s.worker.holds = false)
    (here : s.streamReady = .drainingBuffer) :
    ∃ trace s', (machine τ config).Alone .streamReady draining s trace s' ∧
      enqueuedBytes trace =
        s.audioBuffer.chunks.flatten ++ s.prebufStaging := by
  have busy : draining s = true := by simp [draining, here]
  induction count generalizing s with
  | zero =>
      obtain ⟨trace, s', rest, emitted⟩ := drains_staging config
        (s := { s with streamReady := .drainingStaging }) free rfl
      refine ⟨trace, s', .silent busy ?_ rest, ?_⟩
      · simp [machine, Aws.step, stepStreamReady, here,
          SimpleBuffer.getNextChunk, items]
      · rw [SimpleBuffer.chunks_nil_iff.mpr items]
        exact emitted
  | succ count ih =>
      have used : s.audioBuffer.numItems ≠ 0 := by omega
      obtain ⟨offset, audioBuffer, given⟩ := SimpleBuffer.getNextChunk_used used
      have content := SimpleBuffer.chunks_getNextChunk formed given
      have formed' := SimpleBuffer.wellFormed_getNextChunk formed given
      obtain ⟨_, _, rfl⟩ := SimpleBuffer.getNextChunk_some given
      obtain ⟨trace, s', rest, emitted⟩ := ih (s := { s with
          audioBuffer := _
          deqAudio := s.deqAudio ++ [s.audioBuffer.chunkAt offset] })
        (by simp [items]) formed' free here (by simp [draining, here])
      refine ⟨[.enqueued (s.audioBuffer.chunkAt offset)] ++ trace, s',
        .step busy ?_ rest, ?_⟩
      · simp [machine, Aws.step, stepStreamReady, here, given, free]
      · rw [enqueuedBytes_append, emitted, content]
        simp [enqueuedBytes, Event.enqueuedBytes]

theorem staged_drains (config : Config) (frames : List Bytes) :
    Drains config (staged τ config frames)
      ((staged τ config frames).audioBuffer.chunks.flatten ++
        (staged τ config frames).prebufStaging) := by
  have held := staged_prebuffered τ config frames
  have free : (staged τ config frames).worker.holds = false := by
    rw [staged_worker]
    rfl
  generalize staged τ config frames = s at held free
  -- from the lock on
  have locked : ∃ trace s', (machine τ config).Alone .streamReady draining
      { s with connecting := true, stream := true, streamReady := .locking }
      trace s' ∧ enqueuedBytes trace =
        s.audioBuffer.chunks.flatten ++ s.prebufStaging := by
    by_cases empty : s.audioBuffer.numItems = 0
    · obtain ⟨trace, s', rest, emitted⟩ := drains_staging config
        (s := { s with
          connecting := true
          stream := true
          streamReady := .drainingStaging }) free rfl
      refine ⟨trace, s', .silent (by simp [draining]) ?_ rest, ?_⟩
      · simp [machine, Aws.step, stepStreamReady, empty]
      · rw [SimpleBuffer.chunks_nil_iff.mpr empty]
        exact emitted
    · obtain ⟨trace, s', rest, emitted⟩ := drains_chunks config
        (s := { s with
          connecting := true
          stream := true
          streamReady := .drainingBuffer }) rfl held.sound.formed free rfl
      refine ⟨trace, s', .silent (by simp [draining]) ?_ rest, emitted⟩
      simp [machine, Aws.step, stepStreamReady, empty]
  obtain ⟨trace, s', rest, emitted⟩ := locked
  refine ⟨trace, s', .silent (by simp [draining]) ?_ rest, emitted⟩
  simp [machine, Aws.step, stepStreamReady]

end DrachtioModules.Aws

namespace DrachtioModules.Azure

open Transcribe (Bytes SimpleBuffer Prebuffered DrainsSuffix)

variable {config : Config}

/-- The GStreamer after `write()` staged the frames. -/
def staged (config : Config) (frames : List Bytes) : State :=
  frames.foldl stage (.fresh config)

/-- The first callback has not returned. -/
def draining (s : State) : Bool :=
  match s.handlers 0 with
  | .returned _ => false
  | _ => true

/-- The SessionStarted callback, whose writes succeed, emits the bytes. -/
def Drains (config : Config) (s : State) (emitted : Bytes) : Prop :=
  ∃ trace s', (machine config).Alone (.handler 0 true true) draining
      ({ s with connecting := true, dispatched := 1 }.setHandler 0
        (.called .sessionStarted)) trace s' ∧
    pushedBytes trace = emitted

theorem staged_prebuffered (config : Config) (frames : List Bytes) :
    Prebuffered chunkSize 15 frames.flatten (staged config frames).audioBuffer
      (staged config frames).prebufStaging := by
  induction frames using List.reverseRecOn with
  | nil => exact Transcribe.prebuffered_create (by decide)
  | append_singleton frames data ih =>
      rw [List.flatten_append, List.flatten_singleton]
      unfold staged at ih ⊢
      rw [List.foldl_append]
      exact prebuffered_stage ih data

theorem staged_finished (config : Config) (frames : List Bytes) :
    (staged config frames).finished = false := by
  induction frames using List.reverseRecOn with
  | nil => rfl
  | append_singleton frames data ih =>
      unfold staged at ih ⊢
      rw [List.foldl_append]
      exact (stage_same _ data).2.1.trans ih

theorem draining_of {s : State} {handler : Handler}
    (here : s.handlers 0 = handler) (busy : ∀ reported,
      handler ≠ .returned reported) : draining s = true := by
  unfold draining
  rw [here]
  cases handler with
  | returned reported => exact (busy reported rfl).elim
  | _ => rfl

theorem drains_flushing (config : Config) {s : State}
    (running : s.finished = false) (here : s.handlers 0 = .flushing) :
    ∃ trace s', (machine config).Alone (.handler 0 true true) draining s trace
      s' ∧ pushedBytes trace = s.prebufStaging := by
  have busy : draining s = true := draining_of here (by simp)
  have ended : ∃ s', (machine config).Alone (.handler 0 true true) draining
      (s.setHandler 0 .publishing) [] s' := by
    have publishing := setHandler_same s 0 .publishing
    have published : (machine config).step (s.setHandler 0 .publishing)
        (.handler 0 true true) =
          some ({ s.setHandler 0 .publishing with
            prebufStaging := []
            connected := true }.setHandler 0 (.returned false), []) := by
      simp [machine, Azure.step, stepHandler]
    refine ⟨_, .silent (draining_of publishing (by simp)) published
      (.through ?_)⟩
    simp [draining]
  obtain ⟨s', rest⟩ := ended
  by_cases empty : s.prebufStaging = []
  · refine ⟨[], s', .silent busy ?_ rest, empty.symm⟩
    simp [machine, Azure.step, stepHandler, here, empty]
  · refine ⟨[.pushed s.prebufStaging] ++ [], s', .step busy ?_ rest, ?_⟩
    · simp [machine, Azure.step, stepHandler, here, empty, running]
    · simp [pushedBytes, Event.pushedBytes]

theorem drains_chunks (config : Config) {count : Nat} {s : State}
    (items : s.audioBuffer.numItems = count)
    (formed : s.audioBuffer.WellFormed) (running : s.finished = false)
    (here : s.handlers 0 = .draining) :
    ∃ trace s', (machine config).Alone (.handler 0 true true) draining s trace
      s' ∧ pushedBytes trace =
        s.audioBuffer.chunks.flatten ++ s.prebufStaging := by
  have busy : draining s = true := draining_of here (by simp)
  induction count generalizing s with
  | zero =>
      obtain ⟨trace, s', rest, emitted⟩ := drains_flushing config
        (s := s.setHandler 0 .flushing) running (setHandler_same ..)
      refine ⟨trace, s', .silent busy ?_ rest, ?_⟩
      · simp [machine, Azure.step, stepHandler, here,
          SimpleBuffer.getNextChunk, items]
      · rw [SimpleBuffer.chunks_nil_iff.mpr items]
        exact emitted
  | succ count ih =>
      have used : s.audioBuffer.numItems ≠ 0 := by omega
      obtain ⟨offset, audioBuffer, given⟩ := SimpleBuffer.getNextChunk_used used
      have content := SimpleBuffer.chunks_getNextChunk formed given
      have formed' := SimpleBuffer.wellFormed_getNextChunk formed given
      obtain ⟨_, _, rfl⟩ := SimpleBuffer.getNextChunk_some given
      have again : ∀ t : State, (t.setHandler 0 .draining).handlers 0 =
          .draining := fun t => setHandler_same ..
      obtain ⟨trace, s', rest, emitted⟩ :=
        ih (s := { s with audioBuffer := _ }.setHandler 0 .draining)
          (by simp [State.setHandler, items]) formed' running (again _)
          (draining_of (again _) (by simp))
      refine ⟨[.pushed (s.audioBuffer.chunkAt offset)] ++ trace, s',
        .step busy ?_ rest, ?_⟩
      · simp [machine, Azure.step, stepHandler, here, given]
      · rw [pushedBytes_append, emitted, content]
        simp [pushedBytes, Event.pushedBytes, State.setHandler]

theorem staged_drains (config : Config) (frames : List Bytes) :
    Drains config (staged config frames)
      ((staged config frames).audioBuffer.chunks.flatten ++
        (staged config frames).prebufStaging) := by
  have held := staged_prebuffered config frames
  have running := staged_finished config frames
  generalize staged config frames = s at held running
  generalize begun : { s with connecting := true, dispatched := 1 } = start
  have same : start.finished = false ∧ start.dispatched = 1 ∧
      start.audioBuffer = s.audioBuffer ∧
      start.prebufStaging = s.prebufStaging := by
    subst start
    exact ⟨running, rfl, rfl, rfl⟩
  obtain ⟨running, dispatched, audioBuffer, prebufStaging⟩ := same
  have called := fun handler => setHandler_same start 0 handler
  -- the test of `m_finished` has passed
  have tested : ∃ trace s', (machine config).Alone (.handler 0 true true)
      draining (start.setHandler 0 (.tested .sessionStarted)) trace s' ∧
        pushedBytes trace =
          s.audioBuffer.chunks.flatten ++ s.prebufStaging := by
    have unlocked : audioBufferLocked
        (start.setHandler 0 (.tested .sessionStarted)) = false := by
      unfold audioBufferLocked
      show (List.range start.dispatched).any _ = false
      rw [dispatched]
      simp [Handler.holds]
    have busy := draining_of (called (.tested .sessionStarted)) (by simp)
    by_cases empty : start.audioBuffer.numItems = 0
    · obtain ⟨trace, s', rest, emitted⟩ := drains_flushing config
        (s := (start.setHandler 0 (.tested .sessionStarted)).setHandler 0
          .flushing) running (setHandler_same ..)
      refine ⟨trace, s', .silent busy ?_ rest, ?_⟩
      · simp [machine, Azure.step, stepHandler, stepTested, unlocked]
        simp [State.setHandler, empty]
      · rw [← audioBuffer, SimpleBuffer.chunks_nil_iff.mpr empty,
          ← prebufStaging]
        exact emitted
    · rw [← audioBuffer] at held ⊢
      rw [← prebufStaging]
      obtain ⟨trace, s', rest, emitted⟩ := drains_chunks config
        (s := (start.setHandler 0 (.tested .sessionStarted)).setHandler 0
          .draining) rfl held.sound.formed running (setHandler_same ..)
      refine ⟨trace, s', .silent busy ?_ rest, emitted⟩
      simp [machine, Azure.step, stepHandler, stepTested, unlocked]
      simp [State.setHandler, empty]
  obtain ⟨trace, s', rest, emitted⟩ := tested
  have twice : (start.setHandler 0 (.called .sessionStarted)).setHandler 0
      (.tested .sessionStarted) =
        start.setHandler 0 (.tested .sessionStarted) := by
    simp [State.setHandler]
  refine ⟨trace, s', ?_, emitted⟩
  rw [begun]
  refine .silent (draining_of (called _) (by simp)) ?_ rest
  rw [← twice]
  have passed : (start.setHandler 0 (.called .sessionStarted)).finished =
      false := running
  simp [machine, Azure.step, stepHandler, passed]

end DrachtioModules.Azure

namespace DrachtioModules.Google

open Transcribe (Bytes SimpleBuffer Prebuffered DrainsSuffix)

variable {config : Config} {s : State}

/-- `CHUNKSIZE` -/
def chunkSize : Nat := 320

/-- The GStreamer after `write()` staged the frames. -/
def staged (config : Config) (frames : List Bytes) : State :=
  frames.foldl (stage config) (.fresh config)

/-- `m_audioBuffer`, or what `write()` would allocate for it. -/
def buffer (config : Config) (s : State) : SimpleBuffer :=
  s.audioBuffer.getD (SimpleBuffer.create config.chunkSize prebufferChunks)

def Event.audioBytes : Event → Bytes
  | .began (.write (.audioContent data)) => data
  | _ => []

/-- The audio handed to the stream's `Write`, in order. -/
def audioBytes (trace : List Event) : Bytes :=
  trace.flatMap Event.audioBytes

/-- The media thread is in `connect()`, at a frame whose audio is `data`. -/
def State.inConnect (s : State) (stage : Connect) (data : Bytes)
    (frames : List Frame) : State :=
  { s with media := .connecting stage data frames }

def inConnect (s : State) : Bool :=
  match s.media with
  | .connecting .. => true
  | _ => false

/-- A `connect()` of the media thread emits the bytes. -/
def Drains (config : Config) (data : Bytes) (frames : List Frame) (s : State)
    (emitted : Bytes) : Prop :=
  ∃ trace s', (machine config).Alone .media inConnect
      (s.inConnect .publish data frames) trace s' ∧
    audioBytes trace = emitted

theorem prebuffered_stage {accepted : Bytes}
    (held : Prebuffered config.chunkSize 15 accepted (buffer config s)
      s.prebufStaging) (data : Bytes) :
    Prebuffered config.chunkSize 15 (accepted ++ data)
      (buffer config (stage config s data))
      (stage config s data).prebufStaging := by
  dsimp only [stage]
  split
  · rename_i completes
    exact held.stage rfl completes
  · rename_i short
    exact held.gather (by simpa only [ne_eq, not_not] using short)

theorem staged_prebuffered (config : Config) (frames : List Bytes) :
    Prebuffered config.chunkSize 15 frames.flatten
      (buffer config (staged config frames))
      (staged config frames).prebufStaging := by
  induction frames using List.reverseRecOn with
  | nil => exact Transcribe.prebuffered_create (by decide)
  | append_singleton frames data ih =>
      rw [List.flatten_append, List.flatten_singleton]
      unfold staged at ih ⊢
      rw [List.foldl_append]
      exact prebuffered_stage ih data

/-- The write side is open and `m_write_mutex` free. -/
structure Writable (s : State) : Prop where
  free : s.writeMutex = false
  running : s.writesDone = false

theorem Writable.staged (config : Config) (frames : List Bytes) :
    Writable (staged config frames) := by
  induction frames using List.reverseRecOn with
  | nil => exact ⟨rfl, rfl⟩
  | append_singleton frames data ih =>
      unfold Google.staged at ih ⊢
      rw [List.foldl_append]
      dsimp only [List.foldl, stage]
      split <;> exact ⟨ih.free, ih.running⟩

theorem step_inConnect (data : Bytes) (frames : List Frame)
    {stage after : Connect} (next : State) {events : List Event}
    (taken : stepConnect config (s.inConnect stage data frames) stage =
      some (next, some after, events)) :
    (machine config).step (s.inConnect stage data frames) .media =
      some (next.inConnect after data frames, events) := by
  simp only [machine, Google.step, stepMedia, State.inConnect] at taken ⊢
  rw [taken]

theorem step_connected (data : Bytes) (frames : List Frame) {stage : Connect}
    (next : State) {events : List Event}
    (taken : stepConnect config (s.inConnect stage data frames) stage =
      some (next, none, events)) :
    (machine config).step (s.inConnect stage data frames) .media =
      some ({ next with media := .writing .test data frames }, events) := by
  simp only [machine, Google.step, stepMedia, State.inConnect] at taken ⊢
  rw [taken]

/-- A call of `write()` in `connect()`, which takes the direct path. -/
theorem writes_piece (place : Write → Connect) (after : Connect)
    {piece data : Bytes} {frames : List Frame} {trace : List Event} {s' : State}
    (writes : ∀ t stage, stepConnect config t (place stage) =
      match stepWrite config t piece stage with
      | none => none
      | some (next, some stage, events) =>
          some (next, some (place stage), events)
      | some (next, none, events) => some (next, some after, events))
    (connected : s.connected = true) (writable : Writable s)
    (rest : (machine config).Alone .media inConnect
      (s.inConnect after data frames) trace s') :
    (machine config).Alone .media inConnect
      (s.inConnect (place .test) data frames)
      (.began (.write (.audioContent piece)) ::
        .ended (.write (.audioContent piece)) :: trace) s' := by
  obtain ⟨free, running⟩ := writable
  have test : (machine config).step (s.inConnect (place .test) data frames)
      .media = some (s.inConnect (place .lock) data frames, []) := by
    apply step_inConnect data frames (s.inConnect _ data frames)
    simp [writes, stepWrite, State.inConnect, connected]
    rfl
  have lock : (machine config).step (s.inConnect (place .lock) data frames)
      .media = some ({ s with writeMutex := true }.inConnect (place .inside)
        data frames, [.began (.write (.audioContent piece))]) := by
    apply step_inConnect data frames { s.inConnect _ data frames with
      writeMutex := true }
    simp [writes, stepWrite, State.inConnect, free, running]
    rfl
  have inside : (machine config).step ({ s with writeMutex := true }.inConnect
      (place .inside) data frames) .media = some (s.inConnect after data frames,
        [.ended (.write (.audioContent piece))]) := by
    apply step_inConnect data frames (s.inConnect _ data frames)
    simp [writes, stepWrite, State.inConnect, free]
    rfl
  exact .silent rfl test (.step rfl lock (.step rfl inside rest))

theorem drains_staging (config : Config) (data : Bytes) (frames : List Frame)
    (connected : s.connected = true) (writable : Writable s) :
    ∃ trace s', (machine config).Alone .media inConnect
        (s.inConnect .staging data frames) trace s' ∧
      audioBytes trace = s.prebufStaging := by
  by_cases empty : s.prebufStaging = []
  · have through : (machine config).step (s.inConnect .staging data frames)
        .media = some ({ s with media := .writing .test data frames }, []) := by
      apply step_connected data frames (s.inConnect .staging data frames)
      simp [stepConnect, State.inConnect, empty]
    exact ⟨[], _, .silent rfl through (.through rfl), empty.symm⟩
  · have clear : (machine config).step (s.inConnect .clear data frames) .media =
        some ({ s with
          prebufStaging := []
          media := .writing .test data frames }, []) :=
      step_connected data frames { s.inConnect .clear data frames with
        prebufStaging := [] } rfl
    have test : (machine config).step (s.inConnect .staging data frames)
        .media = some (s.inConnect (.rest .test s.prebufStaging) data frames,
          []) := by
      apply step_inConnect data frames (s.inConnect .staging data frames)
      simp [stepConnect, State.inConnect, empty]
    have written := writes_piece (.rest · s.prebufStaging) .clear
      (fun _ _ => rfl) connected writable (.silent rfl clear (.through rfl))
    refine ⟨_, _, .silent rfl test written, ?_⟩
    simp [audioBytes, Event.audioBytes]

/-- The loop over `getNextChunk()`, by the number of chunks. -/
theorem drains_chunks (config : Config) (data : Bytes) (frames : List Frame)
    {count : Nat} {audioBuffer : SimpleBuffer}
    (items : audioBuffer.numItems = count) (formed : audioBuffer.WellFormed)
    (connected : s.connected = true) (writable : Writable s)
    (filled : s.audioBuffer = some audioBuffer) :
    ∃ trace s', (machine config).Alone .media inConnect
        (s.inConnect .drain data frames) trace s' ∧
      audioBytes trace = audioBuffer.chunks.flatten ++ s.prebufStaging := by
  induction count generalizing s audioBuffer with
  | zero =>
      obtain ⟨trace, s', rest, emitted⟩ :=
        drains_staging config data frames connected writable
      have drained : (machine config).step (s.inConnect .drain data frames)
          .media = some (s.inConnect .staging data frames, []) := by
        apply step_inConnect data frames (s.inConnect .drain data frames)
        simp [stepConnect, State.inConnect, filled, SimpleBuffer.getNextChunk,
          items]
      refine ⟨trace, s', .silent rfl drained rest, ?_⟩
      rw [SimpleBuffer.chunks_nil_iff.mpr items]
      exact emitted
  | succ count ih =>
      have used : audioBuffer.numItems ≠ 0 := by omega
      obtain ⟨offset, fewer, given⟩ := SimpleBuffer.getNextChunk_used used
      have content := SimpleBuffer.chunks_getNextChunk formed given
      have formed' := SimpleBuffer.wellFormed_getNextChunk formed given
      have less : fewer.numItems = count := by
        obtain ⟨_, _, rfl⟩ := SimpleBuffer.getNextChunk_some given
        simp [items]
      have writable' : Writable { s with audioBuffer := some fewer } :=
        ⟨writable.free, writable.running⟩
      obtain ⟨trace, s', rest, emitted⟩ :=
        ih (s := { s with audioBuffer := some fewer }) less formed' connected
          writable' rfl
      have taken : (machine config).step (s.inConnect .drain data frames)
          .media = some ({ s with audioBuffer := some fewer }.inConnect
            (.chunk .test (audioBuffer.chunkAt offset)) data frames, []) := by
        apply step_inConnect data frames { s.inConnect .drain data frames with
          audioBuffer := some fewer }
        simp [stepConnect, State.inConnect, filled, given]
      have written := writes_piece (s := { s with audioBuffer := some fewer })
        (.chunk · (audioBuffer.chunkAt offset)) .drain (fun _ _ => rfl)
        connected writable' rest
      refine ⟨_, s', .silent rfl taken written, ?_⟩
      rw [content, List.flatten_cons, List.append_assoc, ← emitted]
      simp [audioBytes, Event.audioBytes]

/-- From the drain on, whether or not a buffer was ever allocated. -/
theorem drains_buffer {accepted : Bytes} (data : Bytes) (frames : List Frame)
    (held : Prebuffered config.chunkSize 15 accepted (buffer config s)
      s.prebufStaging)
    (connected : s.connected = true) (writable : Writable s) :
    ∃ trace s', (machine config).Alone .media inConnect
        (s.inConnect .drain data frames) trace s' ∧
      audioBytes trace =
        (buffer config s).chunks.flatten ++ s.prebufStaging := by
  rcases Option.eq_none_or_eq_some s.audioBuffer with
    unused | ⟨audioBuffer, filled⟩
  · obtain ⟨trace, s', rest, emitted⟩ :=
      drains_staging config data frames connected writable
    have drained : (machine config).step (s.inConnect .drain data frames)
        .media = some (s.inConnect .staging data frames, []) := by
      apply step_inConnect data frames (s.inConnect .drain data frames)
      simp [stepConnect, State.inConnect, unused]
    have none : (buffer config s).chunks = [] := by
      apply SimpleBuffer.chunks_nil_iff.mpr
      simp [buffer, unused, SimpleBuffer.create]
    refine ⟨trace, s', .silent rfl drained rest, ?_⟩
    rw [none]
    exact emitted
  · have same : buffer config s = audioBuffer := by simp [buffer, filled]
    rw [same] at held ⊢
    exact drains_chunks config data frames rfl held.sound.formed connected
      writable filled

theorem drains_config {data : Bytes} {frames : List Frame} {trace : List Event}
    {s' : State} (writable : Writable s)
    (rest : (machine config).Alone .media inConnect
      (s.inConnect .drain data frames) trace s') :
    (machine config).Alone .media inConnect (s.inConnect .config data frames)
      (.began (.write .streamingConfig) :: .ended (.write .streamingConfig) ::
        trace) s' := by
  have lock : (machine config).step (s.inConnect .config data frames) .media =
      some ({ s with writeMutex := true }.inConnect .writingConfig data frames,
        [.began (.write .streamingConfig)]) := by
    apply step_inConnect data frames { s.inConnect .config data frames with
      writeMutex := true }
    simp [stepConnect, State.inConnect, writable.free]
  have written : (machine config).step ({ s with writeMutex := true }.inConnect
      .writingConfig data frames) .media = some (s.inConnect .drain data frames,
        [.ended (.write .streamingConfig)]) := by
    apply step_inConnect data frames (s.inConnect .writingConfig data frames)
    simp [stepConnect, State.inConnect, writable.free]
  exact .step rfl lock (.step rfl written rest)

theorem staged_drains (config : Config) (data : Bytes) (frames : List Frame)
    (written : List Bytes) :
    Drains config data frames (staged config written)
      ((buffer config (staged config written)).chunks.flatten ++
        (staged config written).prebufStaging) := by
  have held := staged_prebuffered config written
  have writable := Writable.staged config written
  generalize staged config written = s at held writable
  obtain ⟨trace, s', rest, emitted⟩ := drains_buffer data frames
    (s := { s with connected := true, promise := true }) held rfl
    ⟨writable.free, writable.running⟩
  have configured := drains_config
    (s := { s with connected := true, promise := true })
    ⟨writable.free, writable.running⟩ rest
  have publish : (machine config).step (s.inConnect .publish data frames)
      .media = some ({ s with connected := true }.inConnect .promise data
        frames, []) :=
    rfl
  have promise : (machine config).step ({ s with connected := true }.inConnect
      .promise data frames) .media = some ({ s with
        connected := true
        promise := true }.inConnect .config data frames, [.promised]) :=
    rfl
  refine ⟨_, s', .silent rfl publish (.step rfl promise configured), ?_⟩
  calc audioBytes _
      = audioBytes trace := by simp [audioBytes, Event.audioBytes]
    _ = _ := emitted

end DrachtioModules.Google

namespace DrachtioModules.Transcribe

/-- In each of the three modules, whatever the frames `write()` took before the
stream was connected. -/
theorem drain_emits_suffix :
    (∀ (τ : Type) (maxBufferedFrames samplesPerSecond : Nat)
      (frames : List Bytes),
      let config : Aws.Config :=
        ⟨maxBufferedFrames, Aws.prebufChunkSize samplesPerSecond⟩
      DrainsSuffix config.prebufChunkSize frames.flatten
        (Aws.staged τ config frames).prebufStaging
        (Aws.Drains config (Aws.staged τ config frames))) ∧
    (∀ (config : Azure.Config) (frames : List Bytes),
      DrainsSuffix Azure.chunkSize frames.flatten
        (Azure.staged config frames).prebufStaging
        (Azure.Drains config (Azure.staged config frames))) ∧
    ∀ (vad wantsSingleUtterance : Bool) (frames : List Bytes) (data : Bytes)
      (later : List Google.Frame),
      let config : Google.Config :=
        ⟨vad, wantsSingleUtterance, Google.chunkSize⟩
      DrainsSuffix config.chunkSize frames.flatten
        (Google.staged config frames).prebufStaging
        (Google.Drains config data later (Google.staged config frames)) := by
  refine ⟨?_, ?_, ?_⟩
  · intro τ maxBufferedFrames samplesPerSecond frames config
    exact (Aws.staged_prebuffered τ config frames).drainsSuffix
      (Aws.prebufChunkSize_pos samplesPerSecond)
      (Aws.staged_drains config frames) fun _ _ => Machine.Alone.seen_unique _
  · intro config frames
    exact (Azure.staged_prebuffered config frames).drainsSuffix (by decide)
      (Azure.staged_drains config frames) fun _ _ => Machine.Alone.seen_unique _
  · intro vad wantsSingleUtterance frames data later config
    have positive : 0 < Google.chunkSize := by decide
    exact (Google.staged_prebuffered config frames).drainsSuffix positive
      (Google.staged_drains config data later frames)
      fun _ _ => Machine.Alone.seen_unique _

end DrachtioModules.Transcribe

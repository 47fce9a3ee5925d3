import DrachtioModules.Aws.Steps
import DrachtioModules.Transcribe.Prebuffer

/-!
# From the pre-connect buffer to the deque

OnStreamReady drains the pre-connect buffer into the deque and only then sets
`m_connected`, all under `m_audioBufferMutex`; `write()` looks at `m_connected`
again under that mutex.  So nothing is staged once the drain has begun, and
nothing is enqueued past it before it has ended.
-/

namespace DrachtioModules.Aws

open Transcribe (Bytes SimpleBuffer Prebuffered keptBytes)

variable {τ : Type}

def Event.acceptedBytes : Event τ → Bytes
  | .accepted data => data
  | _ => []

def Event.enqueuedBytes : Event τ → Bytes
  | .enqueued bits => bits
  | _ => []

/-- The bytes of the frames `write()` accepted, in order. -/
def acceptedBytes (trace : List (Event τ)) : Bytes :=
  trace.flatMap Event.acceptedBytes

/-- The bytes enqueued to the deque, in order. -/
def enqueuedBytes (trace : List (Event τ)) : Bytes :=
  trace.flatMap Event.enqueuedBytes

@[simp] theorem acceptedBytes_append (trace events : List (Event τ)) :
    acceptedBytes (trace ++ events) =
      acceptedBytes trace ++ acceptedBytes events :=
  List.flatMap_append

@[simp] theorem enqueuedBytes_append (trace events : List (Event τ)) :
    enqueuedBytes (trace ++ events) =
      enqueuedBytes trace ++ enqueuedBytes events :=
  List.flatMap_append

/-- OnStreamReady takes `m_audioBufferMutex` for the drain. -/
def takesBuffer (s : State τ) : Act τ → Bool
  | .streamReady => decide (s.streamReady = .locking)
  | _ => false

/-- OnStreamReady, which took `m_audioBufferMutex`, has given it back, or
`m_connected` is set already. -/
def drainOver (s : State τ) : Bool :=
  s.connected || !s.streamReady.holds

/-- What the pre-connect buffer holds, the oldest first. -/
def heldBytes (s : State τ) : Bytes :=
  s.audioBuffer.chunks.flatten ++ s.prebufStaging

structure Unmoved (s s' : State τ) (events : List (Event τ)) : Prop where
  audioBuffer : s'.audioBuffer = s.audioBuffer
  prebufStaging : s'.prebufStaging = s.prebufStaging
  connected : s'.connected = s.connected
  streamReady : s'.streamReady = s.streamReady
  media : s'.media = s.media
  accepted : acceptedBytes events = []
  enqueued : enqueuedBytes events = []

theorem stepWorker_unmoved {s s' : State τ} {events : List (Event τ)}
    (step : stepWorker s = some (s', events)) : Unmoved s s' events := by
  obtain ⟨stage, _, st⟩ := stepWorker_cases step
  cases st <;> exact ⟨rfl, rfl, rfl, rfl, rfl, rfl, rfl⟩

theorem stepTimeout_unmoved {s s' : State τ} {events : List (Event τ)}
    (step : stepTimeout s = some (s', events)) : Unmoved s s' events := by
  obtain ⟨_, _, _, rfl, rfl | rfl⟩ := stepTimeout_cases step <;>
    exact ⟨rfl, rfl, rfl, rfl, rfl, rfl, rfl⟩

/-- The steps of `write()` and OnStreamReady. -/
def Act.movesAudio : Act τ → Bool
  | .write _ | .media | .onStreamReady _ | .streamReady => true
  | _ => false

theorem step_unmoved {config : Config} {s s' : State τ} {label : Act τ}
    {events : List (Event τ)} (elsewhere : label.movesAudio = false)
    (step : (machine τ config).step s label = some (s', events)) :
    Unmoved s s' events := by
  cases label with
  | connect | finish | onTranscriptEvent | onResponse =>
      cases call_cases rfl step <;> exact ⟨rfl, rfl, rfl, rfl, rfl, rfl, rfl⟩
  | worker => exact stepWorker_unmoved step
  | timeout => exact stepTimeout_unmoved step
  | write | media | onStreamReady | streamReady => cases elsewhere

theorem Unmoved.held {s s' : State τ} {events : List (Event τ)}
    (same : Unmoved s s' events) : heldBytes s' = heldBytes s := by
  unfold heldBytes
  rw [same.audioBuffer, same.prebufStaging]

/-- Everything accepted is in the pre-connect buffer, less what did not fit. -/
structure Buffering (config : Config) (trace : List (Event τ)) (s : State τ) :
    Prop where
  held : Prebuffered config.prebufChunkSize 15 (acceptedBytes trace)
    s.audioBuffer s.prebufStaging
  silent : enqueuedBytes trace = []
  unconnected : s.connected = false
  free : s.streamReady.holds = false
  staged : ∀ data, s.media ≠ .pushing data

variable {config : Config} {trace : List (Event τ)} {s : State τ}

theorem buffering_fresh : Buffering config [] (.fresh τ config) :=
  { held := Transcribe.prebuffered_create (by decide)
    silent := rfl
    unconnected := rfl
    free := rfl
    staged := by simp [State.fresh] }

theorem Buffering.unmoved (holds : Buffering config trace s) {s' : State τ}
    {events : List (Event τ)} (same : Unmoved s s' events) :
    Buffering config (trace ++ events) s' := by
  constructor
  · rw [acceptedBytes_append, same.accepted, List.append_nil, same.audioBuffer,
      same.prebufStaging]
    exact holds.held
  · rw [enqueuedBytes_append, same.enqueued, holds.silent, List.append_nil]
  · rw [same.connected]
    exact holds.unconnected
  · rw [same.streamReady]
    exact holds.free
  · rw [same.media]
    exact holds.staged

theorem Buffering.quiet (holds : Buffering config trace s) {s' : State τ}
    {events : List (Event τ)}
    (audioBuffer : s'.audioBuffer = s.audioBuffer)
    (prebufStaging : s'.prebufStaging = s.prebufStaging)
    (connected : s'.connected = s.connected)
    (free : s'.streamReady.holds = false)
    (staged : ∀ data, s'.media ≠ .pushing data)
    (accepted : acceptedBytes events = [])
    (enqueued : enqueuedBytes events = []) :
    Buffering config (trace ++ events) s' := by
  constructor
  · rw [acceptedBytes_append, accepted, List.append_nil, audioBuffer,
      prebufStaging]
    exact holds.held
  · rw [enqueuedBytes_append, enqueued, holds.silent, List.append_nil]
  · rw [connected]
    exact holds.unconnected
  · exact free
  · exact staged

theorem prebuffered_stage {accepted : Bytes}
    (held : Prebuffered config.prebufChunkSize 15 accepted s.audioBuffer
      s.prebufStaging) (data : Bytes) :
    Prebuffered config.prebufChunkSize 15 (accepted ++ data)
      (stage config s data).audioBuffer (stage config s data).prebufStaging := by
  dsimp only [stage]
  split
  · rename_i completes
    exact held.stage rfl completes
  · rename_i short
    exact held.gather (by simpa only [ne_eq, not_not] using short)

theorem Buffering.media (holds : Buffering config trace s) {s' : State τ}
    {events : List (Event τ)}
    (step : stepMedia config s = some (s', events)) :
    Buffering config (trace ++ events) s' := by
  obtain ⟨stage, media, st⟩ := stepMedia_cases step
  have unconnected := holds.unconnected
  cases st with
  | direct connected => simp [unconnected] at connected
  | late free connected => simp [unconnected] at connected
  | push free => exact (holds.staged _ media).elim
  | stages =>
      exact holds.quiet rfl rfl rfl holds.free (by simp) rfl rfl
  | @stage data free _ =>
      have kept : ∀ t : State τ, t = Aws.stage config s data →
          t.connected = s.connected ∧ t.streamReady = s.streamReady := by
        rintro t rfl
        dsimp only [Aws.stage]
        split <;> exact ⟨rfl, rfl⟩
      obtain ⟨connected, streamReady⟩ := kept _ rfl
      constructor
      · rw [acceptedBytes_append]
        simpa [acceptedBytes, Event.acceptedBytes] using
          prebuffered_stage holds.held data
      · rw [enqueuedBytes_append, holds.silent]
        rfl
      · exact connected.trans unconnected
      · show (Aws.stage config s data).streamReady.holds = false
        rw [streamReady]
        exact holds.free
      · simp

theorem Buffering.step (holds : Buffering config trace s) {label : Act τ}
    (earlier : takesBuffer s label = false) {s' : State τ}
    {events : List (Event τ)}
    (step : (machine τ config).step s label = some (s', events)) :
    Buffering config (trace ++ events) s' := by
  cases label with
  | write data =>
      cases call_cases rfl step with
      | refuse => exact holds.unmoved ⟨rfl, rfl, rfl, rfl, rfl, rfl, rfl⟩
      | enter => exact holds.quiet rfl rfl rfl holds.free (by simp) rfl rfl
  | media => exact holds.media step
  | onStreamReady located =>
      cases call_cases rfl step
      exact holds.quiet rfl rfl rfl rfl holds.staged rfl rfl
  | streamReady =>
      obtain ⟨stage, called, st⟩ := stepStreamReady_cases step
      have free := holds.free
      rw [called] at free
      cases st with
      | @store located =>
          have unlocked : (if located then StreamReady.locking
              else .notifying).holds = false := by cases located <;> rfl
          exact holds.quiet rfl rfl rfl unlocked holds.staged rfl rfl
      | drain | skip => simp [takesBuffer, called] at earlier
      | drained | push | keep | flush | publish => cases free
      | notify => exact holds.quiet rfl rfl rfl rfl holds.staged rfl rfl
  | _ => exact holds.unmoved (step_unmoved rfl step)

/-- How far the drain has come. -/
def drainedTo (s : State τ) : Prop :=
  match s.streamReady with
  | .drainingBuffer => s.connected = false
  | .drainingStaging => s.connected = false ∧ s.audioBuffer.numItems = 0
  | .publishing =>
      s.connected = false ∧ s.audioBuffer.numItems = 0 ∧ s.prebufStaging = []
  | .notifying | .returned =>
      s.connected = true ∧ s.audioBuffer.numItems = 0 ∧ s.prebufStaging = []
  | _ => False

/-- What was enqueued and what the buffer still holds are the bytes kept and
those accepted since. -/
structure Draining (kept : Bytes) (trace : List (Event τ)) (s : State τ) :
    Prop where
  formed : s.audioBuffer.WellFormed
  stage : drainedTo s
  staged : s.connected = false → ∀ data, s.media ≠ .pushing data
  ordered : enqueuedBytes trace ++ heldBytes s = kept ++ acceptedBytes trace

variable {kept : Bytes}

/-- The buffer is empty once `m_connected` is set. -/
theorem drainedTo.empty (stage : drainedTo s) (connected : s.connected = true) :
    s.audioBuffer.numItems = 0 ∧ s.prebufStaging = [] := by
  unfold drainedTo at stage
  split at stage
  · simp [connected] at stage
  · simp [connected] at stage
  · simp [connected] at stage
  · exact stage.2
  · exact stage.2
  · exact stage.elim

/-- OnStreamReady holds `m_audioBufferMutex` until it has set `m_connected`. -/
theorem drainedTo.locked (stage : drainedTo s)
    (unconnected : s.connected = false) : s.streamReady.holds = true := by
  unfold drainedTo at stage
  cases called : s.streamReady <;> simp_all [StreamReady.holds]

theorem Draining.connected (holds : Draining kept trace s)
    (ended : drainOver s = true) : s.connected = true := by
  cases connected : s.connected with
  | true => rfl
  | false =>
      have locked := holds.stage.locked connected
      simp [drainOver, connected, locked] at ended

theorem Draining.unmoved (holds : Draining kept trace s) {s' : State τ}
    {events : List (Event τ)} (same : Unmoved s s' events) :
    Draining kept (trace ++ events) s' := by
  have held := same.held
  obtain ⟨audioBuffer, prebufStaging, connected, streamReady, media, accepted,
    enqueued⟩ := same
  constructor
  · rw [audioBuffer]
    exact holds.formed
  · unfold drainedTo
    rw [audioBuffer, prebufStaging, connected, streamReady]
    exact holds.stage
  · rw [connected, media]
    exact holds.staged
  · rw [enqueuedBytes_append, acceptedBytes_append, enqueued, accepted, held,
      List.append_nil, List.append_nil]
    exact holds.ordered

theorem Draining.enter (holds : Draining kept trace s) {data : Bytes} :
    Draining kept (trace ++ []) { s with media := .checked data } := by
  rw [List.append_nil]
  exact ⟨holds.formed, holds.stage, by simp, holds.ordered⟩

theorem Draining.media (holds : Draining kept trace s) {s' : State τ}
    {events : List (Event τ)}
    (step : stepMedia config s = some (s', events)) :
    Draining kept (trace ++ events) s' := by
  obtain ⟨stage, media, st⟩ := stepMedia_cases step
  cases st with
  | direct connected | late _ connected =>
      rw [List.append_nil]
      refine ⟨holds.formed, holds.stage, ?_, holds.ordered⟩
      intro unconnected
      simp [connected] at unconnected
  | stages =>
      rw [List.append_nil]
      exact ⟨holds.formed, holds.stage, by simp, holds.ordered⟩
  | stage free unconnected =>
      rw [holds.stage.locked unconnected] at free
      cases free
  | @push data free =>
      have connected : s.connected = true := by
        cases unconnected : s.connected with
        | false => exact (holds.staged unconnected _ media).elim
        | true => rfl
      obtain ⟨unused, staging⟩ := holds.stage.empty connected
      have empty : heldBytes s = [] := by
        unfold heldBytes
        rw [SimpleBuffer.chunks_nil_iff.mpr unused, staging]
        rfl
      have ordered := holds.ordered
      rw [empty, List.append_nil] at ordered
      refine ⟨holds.formed, holds.stage, by simp, ?_⟩
      show _ ++ heldBytes s = _
      rw [enqueuedBytes_append, acceptedBytes_append, empty, ordered,
        List.append_nil, List.append_assoc]
      rfl

theorem Draining.streamReady (holds : Draining kept trace s) {s' : State τ}
    {events : List (Event τ)}
    (step : stepStreamReady s = some (s', events)) :
    Draining kept (trace ++ events) s' := by
  obtain ⟨stage, called, st⟩ := stepStreamReady_cases step
  have progress := holds.stage
  unfold drainedTo at progress
  rw [called] at progress
  cases st with
  | store | drain | skip => exact progress.elim
  | drained empty =>
      obtain ⟨unused, _⟩ := SimpleBuffer.getNextChunk_none empty
      rw [List.append_nil]
      exact ⟨holds.formed, ⟨progress, unused⟩, holds.staged, holds.ordered⟩
  | @push offset audioBuffer chunk free =>
      have content := SimpleBuffer.chunks_getNextChunk holds.formed chunk
      have ordered := holds.ordered
      refine ⟨SimpleBuffer.wellFormed_getNextChunk holds.formed chunk, progress,
        holds.staged, ?_⟩
      unfold heldBytes at ordered ⊢
      rw [content, List.flatten_cons] at ordered
      rw [enqueuedBytes_append, acceptedBytes_append]
      simpa [enqueuedBytes, acceptedBytes, Event.enqueuedBytes,
        Event.acceptedBytes] using ordered
  | keep empty =>
      rw [List.append_nil]
      exact ⟨holds.formed, ⟨progress.1, progress.2, empty⟩, holds.staged,
        holds.ordered⟩
  | flush pending free =>
      have chunks := SimpleBuffer.chunks_nil_iff.mpr progress.2
      have ordered := holds.ordered
      refine ⟨holds.formed, ⟨progress.1, progress.2, rfl⟩, holds.staged, ?_⟩
      unfold heldBytes at ordered ⊢
      rw [chunks] at ordered ⊢
      rw [enqueuedBytes_append, acceptedBytes_append]
      simpa [enqueuedBytes, acceptedBytes, Event.enqueuedBytes,
        Event.acceptedBytes] using ordered
  | publish =>
      rw [List.append_nil]
      exact ⟨holds.formed, ⟨rfl, progress.2⟩, by simp, holds.ordered⟩
  | notify =>
      rw [List.append_nil]
      exact ⟨holds.formed, progress, holds.staged, holds.ordered⟩

theorem Draining.step (holds : Draining kept trace s) {label : Act τ}
    {s' : State τ} {events : List (Event τ)}
    (step : (machine τ config).step s label = some (s', events)) :
    Draining kept (trace ++ events) s' := by
  cases label with
  | write data =>
      cases call_cases rfl step with
      | refuse => exact holds.unmoved ⟨rfl, rfl, rfl, rfl, rfl, rfl, rfl⟩
      | enter => exact holds.enter
  | media => exact holds.media step
  | onStreamReady located =>
      cases call_cases rfl step with
      | ready _ fresh =>
          have progress := holds.stage
          unfold drainedTo at progress
          rw [fresh] at progress
          exact progress.elim
  | streamReady => exact holds.streamReady step
  | _ => exact holds.unmoved (step_unmoved rfl step)

theorem buffering_of_run {allowed : State τ → Act τ → Bool}
    {labels : List (Act τ)}
    (run : (machine τ config).Run (fun state label =>
      allowed state label && !takesBuffer state label) (.fresh τ config) labels
      trace s) : Buffering config trace s := by
  refine run.induct (Buffering config) buffering_fresh ?_
  intro seen state label next events holds admitted step
  have earlier : takesBuffer state label = false := by
    simpa using (Bool.and_eq_true_iff.mp admitted).2
  exact holds.step earlier step

/-- A located OnStreamReady that has not taken `m_audioBufferMutex`. -/
def State.undrained (s : State τ) : Prop :=
  s.streamReady = .called true ∨ s.streamReady = .locking

theorem State.undrained.step {s' : State τ} {label : Act τ}
    {events : List (Event τ)} (undrained : s.undrained)
    (earlier : takesBuffer s label = false)
    (step : (machine τ config).step s label = some (s', events)) :
    s'.undrained := by
  cases label with
  | write data =>
      cases call_cases rfl step with
      | refuse | enter => exact undrained
  | media =>
      obtain ⟨_, _, st⟩ := stepMedia_cases step
      cases st with
      | stage =>
          dsimp only [State.undrained, Aws.stage] at undrained ⊢
          split <;> exact undrained
      | _ => exact undrained
  | onStreamReady located =>
      cases call_cases rfl step with
      | ready _ fresh => simp [State.undrained, fresh] at undrained
  | streamReady =>
      obtain ⟨stage, called, st⟩ := stepStreamReady_cases step
      rcases undrained with located | locking
      · rw [located] at called
        subst called
        cases st
        exact .inr rfl
      · simp [takesBuffer, locking] at earlier
  | _ =>
      have same := step_unmoved rfl step
      unfold State.undrained
      rw [same.streamReady]
      exact undrained

/-- Without a drain, no OnStreamReady that found the session has returned. -/
theorem undrained_of_run {allowed : State τ → Act τ → Bool}
    {labels : List (Act τ)}
    (run : (machine τ config).Run (fun state label =>
      allowed state label && !takesBuffer state label) (.fresh τ config) labels
      trace s) (located : .onStreamReady true ∈ labels) : s.undrained := by
  induction run with
  | nil => cases located
  | @snoc labels trace events state next label _ admitted step ih =>
      rcases List.mem_append.mp located with before | now
      · apply (ih before).step _ step
        simpa using (Bool.and_eq_true_iff.mp admitted).2
      · obtain rfl := List.mem_singleton.mp now
        cases call_cases rfl step
        exact .inl rfl

theorem Buffering.drain (holds : Buffering config trace s) {label : Act τ}
    (begins : takesBuffer s label = true) {s' : State τ}
    {events : List (Event τ)}
    (step : (machine τ config).step s label = some (s', events)) :
    Draining (keptBytes config.prebufChunkSize 15 (acceptedBytes trace)) events
      s' := by
  have content := holds.held.content
  have formed := holds.held.sound.formed
  cases label with
  | streamReady =>
      have locking : s.streamReady = .locking := of_decide_eq_true begins
      obtain ⟨stage, called, st⟩ := stepStreamReady_cases step
      obtain rfl := locking.symm.trans called
      cases st with
      | drain items =>
          exact ⟨formed, holds.unconnected, fun _ => holds.staged,
            content.trans (List.append_nil _).symm⟩
      | skip empty =>
          exact ⟨formed, ⟨holds.unconnected, empty⟩, fun _ => holds.staged,
            content.trans (List.append_nil _).symm⟩
  | _ => cases begins

theorem draining_of_cut {allowed : State τ → Act τ → Bool}
    {labels : List (Act τ)} {before after : List (Event τ)}
    (cut : (machine τ config).Cut allowed takesBuffer (.fresh τ config) labels
      before after s) :
    enqueuedBytes before = [] ∧
      Draining (keptBytes config.prebufChunkSize 15 (acceptedBytes before))
        after s := by
  cases cut with
  | @intro _ _ _ events after middle next _ label first _ begins step rest =>
      have holds := buffering_of_run first
      refine ⟨holds.silent, ?_⟩
      refine rest.induct (fun seen => Draining _ (events ++ seen)) ?_ ?_
      · rw [List.append_nil]
        exact holds.drain begins step
      · intro seen state label next more draining _ later
        rw [← List.append_assoc]
        exact draining.step later

end DrachtioModules.Aws

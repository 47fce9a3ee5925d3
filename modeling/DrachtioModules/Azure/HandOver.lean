import DrachtioModules.Azure.Steps
import DrachtioModules.Transcribe.Prebuffer

/-!
# From the pre-connect buffer to the push stream

The first SessionStarted callback drains the pre-connect buffer into the push
stream and only then sets `m_connected`, all under `m_audioBufferMutex`; a later
one finds the buffer empty.
-/

namespace DrachtioModules.Azure

open Transcribe (Bytes SimpleBuffer Prebuffered keptBytes HandedOver)

def Event.acceptedBytes : Event → Bytes
  | .accepted data => data
  | _ => []

def Event.pushedBytes : Event → Bytes
  | .pushed data => data
  | _ => []

/-- The bytes of the frames `write()` accepted, in order. -/
def acceptedBytes (trace : List Event) : Bytes :=
  trace.flatMap Event.acceptedBytes

/-- The bytes written to the push stream, in order. -/
def pushedBytes (trace : List Event) : Bytes :=
  trace.flatMap Event.pushedBytes

@[simp] theorem acceptedBytes_append (trace events : List Event) :
    acceptedBytes (trace ++ events) =
      acceptedBytes trace ++ acceptedBytes events :=
  List.flatMap_append

@[simp] theorem pushedBytes_append (trace events : List Event) :
    pushedBytes (trace ++ events) = pushedBytes trace ++ pushedBytes events :=
  List.flatMap_append

/-- A SessionStarted callback takes `m_audioBufferMutex` for the drain. -/
def takesBuffer (s : State) : Act → Bool
  | .handler n _ located =>
      located && decide (s.handlers n = .tested .sessionStarted)
  | _ => false

/-- The SessionStarted callback that took `m_audioBufferMutex` has given it back,
or `m_connected` is set already. -/
def drainOver (s : State) : Bool :=
  s.connected || !audioBufferLocked s

def Media.pushes : Media → Bool
  | .pushing _ => true
  | _ => false

/-- The callback is about to write to the push stream. -/
def Handler.pushes : Handler → Bool
  | .draining | .flushing => true
  | _ => false

/-- The callback is about to set `m_finished`. -/
def Handler.finishes : Handler → Bool
  | .marked | .failing _ => true
  | _ => false

/-- No write to the push stream fails, and nobody sets `m_finished`. -/
def unbroken (s : State) : Act → Bool
  | .media ok _ => (ok || !s.media.pushes) && decide (s.media ≠ .failing)
  | .handler n ok _ =>
      (ok || !(s.handlers n).pushes) && !(s.handlers n).finishes
  | .teardown => decide (s.teardown ≠ .passed)
  | _ => true

theorem stepMedia_unfailed {s s' : State} {located : Bool}
    {events : List Event} (pushes : s.media.pushes = true)
    (step : stepMedia s true located = some (s', events)) :
    s'.media = .idle := by
  unfold stepMedia at step
  cases media : s.media with
  | pushing data =>
      simp only [media, if_true] at step
      cases step
      rfl
  | _ => simp [media, Media.pushes] at pushes

theorem stepHandler_unfailed {s s' : State} {n : Nat} {located flushed : Bool}
    {events : List Event} (pushes : (s.handlers n).pushes = true)
    (step : stepHandler s n true located = some (s', events)) :
    s'.handlers n ≠ .failing flushed := by
  unfold stepHandler at step
  cases stage : s.handlers n with
  | draining =>
      simp only [stage, if_true] at step
      split at step <;> cases step <;> simp [State.setHandler]
  | flushing =>
      simp only [stage, if_true] at step
      split at step <;> cases step <;> simp [State.setHandler]
  | _ => simp [stage, Handler.pushes] at pushes

structure Unmoved (s s' : State) (events : List Event) : Prop where
  audioBuffer : s'.audioBuffer = s.audioBuffer
  prebufStaging : s'.prebufStaging = s.prebufStaging
  connected : s'.connected = s.connected
  finished : s'.finished = s.finished
  dispatched : s'.dispatched = s.dispatched
  handlers : s'.handlers = s.handlers
  media : s'.media.pushes = true → s.media.pushes = true
  accepted : acceptedBytes events = []
  pushed : pushedBytes events = []

theorem bytes_reports (located finished : Bool) (response : Response) :
    acceptedBytes (reports located response finished) = [] ∧
      pushedBytes (reports located response finished) = [] := by
  cases located <;> exact ⟨rfl, rfl⟩

theorem connect_unmoved (s : State) (outcome : Start) :
    Unmoved s (connect s outcome).1 (connect s outcome).2.1 := by
  obtain ⟨next, events, threw, result, st⟩ := connect_cases s outcome
  rw [result]
  cases st with
  | skip | start => exact ⟨rfl, rfl, rfl, rfl, rfl, rfl, id, rfl, rfl⟩
  | @throws dispatched =>
      cases dispatched <;> exact ⟨rfl, rfl, rfl, rfl, rfl, rfl, id, rfl, rfl⟩

/-- What the steps that may end a connect that threw, or begin or pursue the
teardown, do to the owner and to the teardown is not looked at. -/
theorem Unmoved.moved {s s' s'' : State} {events : List Event}
    (same : Unmoved s s' events)
    (audioBuffer : s''.audioBuffer = s'.audioBuffer)
    (prebufStaging : s''.prebufStaging = s'.prebufStaging)
    (connected : s''.connected = s'.connected)
    (finished : s''.finished = s'.finished)
    (dispatched : s''.dispatched = s'.dispatched)
    (handlers : s''.handlers = s'.handlers)
    (media : s''.media.pushes = true → s'.media.pushes = true) :
    Unmoved s s'' events :=
  { audioBuffer := audioBuffer.trans same.audioBuffer
    prebufStaging := prebufStaging.trans same.prebufStaging
    connected := connected.trans same.connected
    finished := finished.trans same.finished
    dispatched := dispatched.trans same.dispatched
    handlers := handlers.trans same.handlers
    media := fun pushes => same.media (media pushes)
    accepted := same.accepted
    pushed := same.pushed }

theorem unmoved_refl (s : State) : Unmoved s s [] :=
  ⟨rfl, rfl, rfl, rfl, rfl, rfl, id, rfl, rfl⟩

theorem stepTeardown_unmoved {s s' : State} {events : List Event}
    (unfinished : s.teardown ≠ .passed)
    (step : stepTeardown s = some (s', events)) : Unmoved s s' events := by
  obtain ⟨stage, here, st⟩ := stepTeardown_cases step
  cases st with
  | finish => exact absurd here unfinished
  | _ => exact ⟨rfl, rfl, rfl, rfl, rfl, rfl, id, rfl, rfl⟩

/-- The steps of `write()`, of the callbacks and of the SDK that makes them. -/
def Act.movesAudio : Act → Bool
  | .media _ _ | .signal _ | .handler _ _ _ => true
  | _ => false

theorem step_unmoved {config : Config} {s s' : State} {label : Act}
    {events : List Event} (elsewhere : label.movesAudio = false)
    (intact : unbroken s label = true)
    (step : (machine config).step s label = some (s', events)) :
    Unmoved s s' events := by
  cases label with
  | start outcome =>
      have same := connect_unmoved s outcome
      simp only [machine, Azure.step] at step
      split at step
      · split at step <;> cases step <;> rename_i result <;>
          rw [result] at same
        · exact same.moved rfl rfl rfl rfl rfl rfl id
        · exact same
      · cases step
  | vad outcome =>
      have same := connect_unmoved s outcome
      simp only [machine, Azure.step] at step
      split at step
      · split at step <;> cases step <;> rename_i result <;>
          rw [result] at same <;>
          exact same.moved rfl rfl rfl rfl rfl rfl (by simp [Media.pushes])
      · cases step
  | attach | orphan | stop =>
      simp only [machine, Azure.step] at step
      split at step <;> cases step
      exact (unmoved_refl s).moved rfl rfl rfl rfl rfl rfl id
  | write data =>
      simp only [machine, Azure.step] at step
      split at step
      · split at step <;> cases step
        · exact ⟨rfl, rfl, rfl, rfl, rfl, rfl, id, rfl, rfl⟩
        · exact (unmoved_refl s).moved rfl rfl rfl rfl rfl rfl
            (by simp [Media.pushes])
      · cases step
  | teardown =>
      exact stepTeardown_unmoved (of_decide_eq_true intact) step
  | media | signal | handler => cases elsewhere

/-- Everything accepted is in the pre-connect buffer, less what did not fit. -/
structure Buffering (trace : List Event) (s : State) : Prop where
  held : Prebuffered chunkSize 15 (acceptedBytes trace) s.audioBuffer
    s.prebufStaging
  silent : pushedBytes trace = []
  unconnected : s.connected = false
  running : s.finished = false
  undispatched : ∀ n, s.dispatched ≤ n → s.handlers n = .notCalled
  free : ∀ n, (s.handlers n).holds = false
  staged : s.media.pushes = false

variable {config : Config} {trace : List Event} {s : State}

theorem buffering_fresh : Buffering [] (.fresh config) :=
  { held := Transcribe.prebuffered_create (by decide)
    silent := rfl
    unconnected := rfl
    running := rfl
    undispatched := fun _ _ => rfl
    free := fun _ => rfl
    staged := rfl }

theorem Buffering.unmoved (holds : Buffering trace s) {s' : State}
    {events : List Event} (same : Unmoved s s' events) :
    Buffering (trace ++ events) s' := by
  constructor
  · rw [acceptedBytes_append, same.accepted, List.append_nil, same.audioBuffer,
      same.prebufStaging]
    exact holds.held
  · rw [pushedBytes_append, same.pushed, holds.silent, List.append_nil]
  · exact same.connected.trans holds.unconnected
  · exact same.finished.trans holds.running
  · rw [same.dispatched, same.handlers]
    exact holds.undispatched
  · rw [same.handlers]
    exact holds.free
  · cases pushes : s'.media.pushes with
    | false => rfl
    | true =>
        have before := same.media pushes
        rw [holds.staged] at before
        cases before

theorem Buffering.callback (holds : Buffering trace s) {s' : State}
    {n : Nat} {handler : Handler} {events : List Event}
    (unlocked : handler.holds = false)
    (called : n < s'.dispatched)
    (more : s.dispatched ≤ s'.dispatched)
    (audioBuffer : s'.audioBuffer = s.audioBuffer)
    (prebufStaging : s'.prebufStaging = s.prebufStaging)
    (connected : s'.connected = s.connected)
    (finished : s'.finished = s.finished)
    (handlers : s'.handlers = Function.update s.handlers n handler)
    (media : s'.media = s.media)
    (bytes : acceptedBytes events = [] ∧ pushedBytes events = []) :
    Buffering (trace ++ events) s' := by
  constructor
  · rw [acceptedBytes_append, bytes.1, List.append_nil, audioBuffer,
      prebufStaging]
    exact holds.held
  · rw [pushedBytes_append, bytes.2, holds.silent, List.append_nil]
  · exact connected.trans holds.unconnected
  · exact finished.trans holds.running
  · intro m late
    rw [handlers, Function.update_of_ne (by omega)]
    exact holds.undispatched m (by omega)
  · intro m
    rw [handlers]
    rcases eq_or_ne m n with rfl | other
    · rw [Function.update_self]
      exact unlocked
    · rw [Function.update_of_ne other]
      exact holds.free m
  · rw [media]
    exact holds.staged

theorem prebuffered_stage {accepted : Bytes}
    (held : Prebuffered chunkSize 15 accepted s.audioBuffer s.prebufStaging)
    (data : Bytes) :
    Prebuffered chunkSize 15 (accepted ++ data)
      (stage s data).audioBuffer (stage s data).prebufStaging := by
  dsimp only [stage]
  split
  · rename_i completes
    exact held.stage rfl completes
  · rename_i short
    exact held.gather (by simpa only [ne_eq, not_not] using short)

theorem stage_same (s : State) (data : Bytes) :
    (stage s data).connected = s.connected ∧
      (stage s data).finished = s.finished ∧
      (stage s data).dispatched = s.dispatched ∧
      (stage s data).handlers = s.handlers := by
  dsimp only [stage]
  split <;> exact ⟨rfl, rfl, rfl, rfl⟩

theorem Buffering.media (holds : Buffering trace s) {s' : State}
    {ok located : Bool} {events : List Event}
    (intact : unbroken s (.media ok located) = true)
    (step : stepMedia s ok located = some (s', events)) :
    Buffering (trace ++ events) s' := by
  obtain ⟨stage, media, st⟩ := stepMedia_cases step
  have unconnected := holds.unconnected
  have staged := holds.staged
  rw [media] at staged
  cases st with
  | direct connected => simp [unconnected] at connected
  | late _ connected => simp [unconnected] at connected
  | push | pushFails => cases staged
  | fail => simp [unbroken, media] at intact
  | stages | detect =>
      exact holds.unmoved ⟨rfl, rfl, rfl, rfl, rfl, rfl, by simp [Media.pushes],
        rfl, rfl⟩
  | notify =>
      obtain ⟨accepted, pushed⟩ := bytes_reports located s.finished .error
      exact holds.unmoved ⟨rfl, rfl, rfl, rfl, rfl, rfl, by simp [Media.pushes],
        accepted, pushed⟩
  | @stage data _ _ =>
      obtain ⟨connected, finished, dispatched, handlers⟩ := stage_same s data
      constructor
      · rw [acceptedBytes_append]
        simpa [acceptedBytes, Event.acceptedBytes] using
          prebuffered_stage holds.held data
      · rw [pushedBytes_append, holds.silent]
        rfl
      · exact connected.trans unconnected
      · exact finished.trans holds.running
      · show ∀ n, (Azure.stage s data).dispatched ≤ n →
          (Azure.stage s data).handlers n = .notCalled
        rw [dispatched, handlers]
        exact holds.undispatched
      · show ∀ n, ((Azure.stage s data).handlers n).holds = false
        rw [handlers]
        exact holds.free
      · rfl

theorem Buffering.handler (holds : Buffering trace s) {s' : State} {n : Nat}
    {ok located : Bool} {events : List Event}
    (intact : unbroken s (.handler n ok located) = true)
    (earlier : takesBuffer s (.handler n ok located) = false)
    (step : stepHandler s n ok located = some (s', events)) :
    Buffering (trace ++ events) s' := by
  obtain ⟨stage, here, st⟩ := stepHandler_cases step
  have free := holds.free n
  rw [here] at free
  have called : n < s.dispatched := by
    by_contra late
    rw [holds.undispatched n (by omega)] at here
    subst here
    cases st
  cases st with
  | stop | pass | miss | sessionStopped | sessionStoppedQuietly | mark =>
      exact holds.callback rfl called le_rfl rfl rfl rfl rfl rfl rfl ⟨rfl, rfl⟩
  | drain | skip =>
      simp only [takesBuffer, here, decide_true, Bool.and_true] at earlier
      subst earlier
      have missed := step
      simp only [stepHandler, here, stepTested, Bool.false_eq_true, if_false,
        Option.some.injEq, Prod.mk.injEq, and_true] at missed
      have entry := congrArg (fun t : State => t.handlers n) missed
      simp [State.setHandler] at entry
  | drained | push | pushFails | keep | flush | flushFails | fail | notify
  | publish => cases free
  | speechStart | speechEnd | recognition =>
      exact holds.callback rfl called le_rfl rfl rfl rfl rfl rfl rfl
        (bytes_reports _ _ _)
  | finish => simp [unbroken, here, Handler.finishes] at intact
  | cancel =>
      exact holds.callback rfl called le_rfl rfl rfl rfl rfl rfl rfl
        (bytes_reports _ _ _)

theorem Buffering.step (holds : Buffering trace s) {label : Act}
    (intact : unbroken s label = true) (earlier : takesBuffer s label = false)
    {s' : State} {events : List Event}
    (step : (machine config).step s label = some (s', events)) :
    Buffering (trace ++ events) s' := by
  cases label with
  | media ok located => exact holds.media intact step
  | signal callback =>
      simp only [machine, Azure.step] at step
      split at step <;> cases step
      exact holds.callback rfl (Nat.lt_succ_self _) (Nat.le_succ _) rfl rfl rfl
        rfl rfl rfl ⟨rfl, rfl⟩
  | handler n ok located => exact holds.handler intact earlier step
  | _ => exact holds.unmoved (step_unmoved rfl intact step)

/-- What has been pushed while the callback holds `m_audioBufferMutex`. -/
def drainedTo (kept : Bytes) (trace : List Event) (s : State) :
    Handler → Prop
  | .draining =>
      pushedBytes trace ++ s.audioBuffer.chunks.flatten ++ s.prebufStaging =
        kept ++ acceptedBytes trace
  | .flushing =>
      s.audioBuffer.numItems = 0 ∧
        pushedBytes trace ++ s.prebufStaging = kept ++ acceptedBytes trace
  | .publishing =>
      s.audioBuffer.numItems = 0 ∧
        pushedBytes trace = kept ++ acceptedBytes trace
  | .failing _ | .notifying _ => False
  | _ => True

/-- Nothing is left in the buffer and all of it is pushed. -/
structure Drained (kept : Bytes) (trace : List Event) (s : State) : Prop where
  items : s.audioBuffer.numItems = 0
  staging : s.prebufStaging = []
  pushed : pushedBytes trace = kept ++ acceptedBytes trace

structure Draining (kept : Bytes) (trace : List Event) (s : State) : Prop where
  formed : s.audioBuffer.WellFormed
  running : s.finished = false
  undispatched : ∀ n, s.dispatched ≤ n → s.handlers n = .notCalled
  alone : ∀ n m, (s.handlers n).holds = true → (s.handlers m).holds = true →
    n = m
  stage : ∀ n, drainedTo kept trace s (s.handlers n)
  begun : s.connected = false → ∃ n, (s.handlers n).holds = true
  drained : s.connected = true → Drained kept trace s
  staged : s.connected = false → s.media.pushes = false

variable {kept : Bytes}

/-- Only the bytes seen and the buffer matter to how far the drain has come. -/
theorem drainedTo.carry {s' : State} {events : List Event} {handler : Handler}
    (holds : drainedTo kept trace s handler)
    (audioBuffer : s'.audioBuffer = s.audioBuffer)
    (prebufStaging : s'.prebufStaging = s.prebufStaging)
    (accepted : acceptedBytes events = [])
    (pushed : pushedBytes events = []) :
    drainedTo kept (trace ++ events) s' handler := by
  unfold drainedTo at holds ⊢
  simpa only [acceptedBytes_append, pushedBytes_append, accepted, pushed,
    List.append_nil, audioBuffer, prebufStaging] using holds

theorem Drained.carry {s' : State} {events : List Event}
    (holds : Drained kept trace s)
    (audioBuffer : s'.audioBuffer = s.audioBuffer)
    (prebufStaging : s'.prebufStaging = s.prebufStaging)
    (accepted : acceptedBytes events = [])
    (pushed : pushedBytes events = []) : Drained kept (trace ++ events) s' := by
  constructor
  · rw [audioBuffer]
    exact holds.items
  · exact prebufStaging.trans holds.staging
  · rw [acceptedBytes_append, pushedBytes_append, accepted, pushed,
      List.append_nil, List.append_nil]
    exact holds.pushed

/-- While `m_connected` is not set, a callback holds `m_audioBufferMutex`. -/
theorem Draining.locked (holds : Draining kept trace s)
    (unconnected : s.connected = false) : audioBufferLocked s = true := by
  obtain ⟨n, holder⟩ := holds.begun unconnected
  have called : n < s.dispatched := by
    by_contra late
    rw [holds.undispatched n (by omega)] at holder
    cases holder
  exact List.any_eq_true.mpr ⟨n, List.mem_range.mpr called, holder⟩

theorem Draining.connected (holds : Draining kept trace s)
    (ended : drainOver s = true) : s.connected = true := by
  cases connected : s.connected with
  | true => rfl
  | false =>
      have locked := holds.locked connected
      simp [drainOver, connected, locked] at ended

theorem unlocked_handlers (undispatched : ∀ n, s.dispatched ≤ n →
      s.handlers n = .notCalled) (free : audioBufferLocked s = false) (n : Nat) :
    (s.handlers n).holds = false := by
  cases holder : (s.handlers n).holds with
  | false => rfl
  | true =>
      have called : n < s.dispatched := by
        by_contra late
        rw [undispatched n (by omega)] at holder
        cases holder
      have locked : audioBufferLocked s = true :=
        List.any_eq_true.mpr ⟨n, List.mem_range.mpr called, holder⟩
      rw [free] at locked
      cases locked

theorem Draining.unmoved (holds : Draining kept trace s) {s' : State}
    {events : List Event} (same : Unmoved s s' events) :
    Draining kept (trace ++ events) s' := by
  constructor
  · rw [same.audioBuffer]
    exact holds.formed
  · exact same.finished.trans holds.running
  · rw [same.dispatched, same.handlers]
    exact holds.undispatched
  · rw [same.handlers]
    exact holds.alone
  · intro n
    rw [same.handlers]
    exact (holds.stage n).carry same.audioBuffer same.prebufStaging
      same.accepted same.pushed
  · rw [same.connected, same.handlers]
    exact holds.begun
  · rw [same.connected]
    intro connected
    exact (holds.drained connected).carry same.audioBuffer same.prebufStaging
      same.accepted same.pushed
  · rw [same.connected]
    intro unconnected
    cases pushes : s'.media.pushes with
    | false => rfl
    | true => exact (same.media pushes).symm.trans (holds.staged unconnected)

theorem Draining.callback (holds : Draining kept trace s) {s' : State}
    {n : Nat} {handler : Handler} {events : List Event}
    (was : (s.handlers n).holds = false)
    (unlocked : handler.holds = false)
    (called : n < s'.dispatched)
    (more : s.dispatched ≤ s'.dispatched)
    (audioBuffer : s'.audioBuffer = s.audioBuffer)
    (prebufStaging : s'.prebufStaging = s.prebufStaging)
    (connected : s'.connected = s.connected)
    (finished : s'.finished = s.finished)
    (handlers : s'.handlers = Function.update s.handlers n handler)
    (media : s'.media = s.media)
    (bytes : acceptedBytes events = [] ∧ pushedBytes events = []) :
    Draining kept (trace ++ events) s' := by
  have elsewhere : ∀ m, (s'.handlers m).holds = true →
      m ≠ n ∧ (s.handlers m).holds = true := by
    intro m holder
    rw [handlers] at holder
    rcases eq_or_ne m n with rfl | other
    · rw [Function.update_self, unlocked] at holder
      cases holder
    · rw [Function.update_of_ne other] at holder
      exact ⟨other, holder⟩
  constructor
  · rw [audioBuffer]
    exact holds.formed
  · exact finished.trans holds.running
  · intro m late
    rw [handlers, Function.update_of_ne (by omega)]
    exact holds.undispatched m (by omega)
  · intro m m' holder holder'
    exact holds.alone m m' (elsewhere m holder).2 (elsewhere m' holder').2
  · intro m
    rw [handlers]
    rcases eq_or_ne m n with rfl | other
    · rw [Function.update_self]
      cases handler with
      | draining | flushing | failing | notifying | publishing => cases unlocked
      | _ => trivial
    · rw [Function.update_of_ne other]
      exact (holds.stage m).carry audioBuffer prebufStaging bytes.1 bytes.2
  · intro unconnected
    obtain ⟨m, holder⟩ := holds.begun (connected.symm.trans unconnected)
    have other : m ≠ n := by
      rintro rfl
      rw [was] at holder
      cases holder
    exact ⟨m, by rw [handlers, Function.update_of_ne other]; exact holder⟩
  · intro now
    exact (holds.drained (connected.symm.trans now)).carry audioBuffer
      prebufStaging bytes.1 bytes.2
  · intro unconnected
    rw [media]
    exact holds.staged (connected.symm.trans unconnected)

/-- The callback that drains goes on; no other one holds the lock. -/
theorem Draining.holder (holds : Draining kept trace s) {s' : State} {n : Nat}
    {handler : Handler} {events : List Event}
    (was : (s.handlers n).holds = true)
    (formed : s'.audioBuffer.WellFormed)
    (dispatched : s'.dispatched = s.dispatched)
    (finished : s'.finished = s.finished)
    (handlers : s'.handlers = Function.update s.handlers n handler)
    (media : s'.media = s.media)
    (stage : drainedTo kept (trace ++ events) s' handler)
    (begun : s'.connected = false →
      handler.holds = true ∧ s.connected = false)
    (drained : s'.connected = true → Drained kept (trace ++ events) s') :
    Draining kept (trace ++ events) s' := by
  have called : n < s.dispatched := by
    by_contra late
    rw [holds.undispatched n (by omega)] at was
    cases was
  have idle : ∀ m, m ≠ n → (s.handlers m).holds = false := by
    intro m other
    cases holder : (s.handlers m).holds with
    | false => rfl
    | true => exact (other (holds.alone m n holder was)).elim
  have only : ∀ m, (s'.handlers m).holds = true → m = n := by
    intro m holder
    by_contra other
    rw [handlers, Function.update_of_ne other, idle m other] at holder
    cases holder
  constructor
  · exact formed
  · exact finished.trans holds.running
  · intro m late
    rw [dispatched] at late
    rw [handlers, Function.update_of_ne (by omega)]
    exact holds.undispatched m late
  · intro m m' holder holder'
    rw [only m holder, only m' holder']
  · intro m
    rw [handlers]
    rcases eq_or_ne m n with rfl | other
    · rw [Function.update_self]
      exact stage
    · rw [Function.update_of_ne other]
      have unlocked := idle m other
      cases other_stage : s.handlers m with
      | draining | flushing | failing | notifying | publishing =>
          rw [other_stage] at unlocked
          cases unlocked
      | _ => trivial
  · intro unconnected
    refine ⟨n, ?_⟩
    rw [handlers, Function.update_self]
    exact (begun unconnected).1
  · exact drained
  · intro unconnected
    rw [media]
    exact holds.staged (begun unconnected).2

theorem Draining.media (holds : Draining kept trace s) {s' : State}
    {ok located : Bool} {events : List Event}
    (intact : unbroken s (.media ok located) = true)
    (step : stepMedia s ok located = some (s', events)) :
    Draining kept (trace ++ events) s' := by
  obtain ⟨stage, media, st⟩ := stepMedia_cases step
  cases st with
  | direct connected | late _ connected =>
      rw [List.append_nil]
      obtain ⟨items, staging, pushed⟩ := holds.drained connected
      refine ⟨holds.formed, holds.running, holds.undispatched, holds.alone,
        holds.stage, holds.begun, fun _ => ⟨items, staging, pushed⟩, ?_⟩
      intro unconnected
      simp [connected] at unconnected
  | stages | detect =>
      exact holds.unmoved ⟨rfl, rfl, rfl, rfl, rfl, rfl, by simp [Media.pushes],
        rfl, rfl⟩
  | stage free unconnected =>
      rw [holds.locked unconnected] at free
      cases free
  | pushFails =>
      have written : ok = true := by simpa [unbroken, media, Media.pushes] using
        intact
      subst written
      have idle := stepMedia_unfailed (by rw [media]; rfl) step
      cases idle
  | fail => simp [unbroken, media] at intact
  | notify =>
      obtain ⟨accepted, pushed⟩ := bytes_reports located s.finished .error
      exact holds.unmoved ⟨rfl, rfl, rfl, rfl, rfl, rfl, by simp [Media.pushes],
        accepted, pushed⟩
  | @push data =>
      have connected : s.connected = true := by
        cases unconnected : s.connected with
        | true => rfl
        | false =>
            have staged := holds.staged unconnected
            rw [media] at staged
            cases staged
      obtain ⟨items, staging, pushed⟩ := holds.drained connected
      have both : pushedBytes (trace ++ [.accepted data, .pushed data]) =
          kept ++ acceptedBytes (trace ++ [.accepted data, .pushed data]) := by
        rw [pushedBytes_append, acceptedBytes_append, pushed, List.append_assoc]
        rfl
      refine ⟨holds.formed, holds.running, holds.undispatched, holds.alone, ?_,
        holds.begun, fun _ => ⟨items, staging, both⟩, fun _ => rfl⟩
      intro n
      show drainedTo kept _ _ (s.handlers n)
      have stage := holds.stage n
      have chunks := SimpleBuffer.chunks_nil_iff.mpr items
      cases here : s.handlers n with
      | draining =>
          show _ ++ s.audioBuffer.chunks.flatten ++ s.prebufStaging = _
          rw [both, chunks, staging]
          simp
      | flushing =>
          refine ⟨items, ?_⟩
          show _ ++ s.prebufStaging = _
          rw [both, staging, List.append_nil]
      | publishing => exact ⟨items, both⟩
      | failing | notifying =>
          rw [here] at stage
          exact stage.elim
      | _ => trivial

@[simp] theorem setHandler_same (s : State) (n : Nat) (handler : Handler) :
    (s.setHandler n handler).handlers n = handler :=
  Function.update_self ..

theorem setHandler_other (s : State) {n m : Nat} (handler : Handler)
    (other : m ≠ n) : (s.setHandler n handler).handlers m = s.handlers m :=
  Function.update_of_ne other ..

theorem draining_taken (formed : s.audioBuffer.WellFormed)
    (running : s.finished = false)
    (undispatched : ∀ n, s.dispatched ≤ n → s.handlers n = .notCalled)
    (idle : ∀ n, (s.handlers n).holds = false)
    (staged : s.connected = false → s.media.pushes = false)
    (drained : s.connected = true → Drained kept trace s)
    {n : Nat} (called : n < s.dispatched) {handler : Handler}
    (locks : handler.holds = true) (stage : drainedTo kept trace s handler) :
    Draining kept trace (s.setHandler n handler) := by
  have only : ∀ m, ((s.setHandler n handler).handlers m).holds = true →
      m = n := by
    intro m holder
    by_contra other
    rw [setHandler_other s handler other, idle m] at holder
    cases holder
  constructor
  · exact formed
  · exact running
  · intro m late
    have other : m ≠ n := by
      rintro rfl
      exact absurd called (Nat.not_lt.mpr late)
    rw [setHandler_other s handler other]
    exact undispatched m late
  · intro m m' holder holder'
    rw [only m holder, only m' holder']
  · intro m
    rcases eq_or_ne m n with rfl | other
    · rw [setHandler_same]
      exact stage
    · rw [setHandler_other s handler other]
      have free := idle m
      cases unlocked : s.handlers m with
      | draining | flushing | failing | notifying | publishing =>
          rw [unlocked] at free
          cases free
      | _ => trivial
  · exact fun _ => ⟨n, by rw [setHandler_same]; exact locks⟩
  · intro connected
    obtain ⟨items, staging, pushed⟩ := drained connected
    exact ⟨items, staging, pushed⟩
  · exact staged

theorem Draining.relock (holds : Draining kept trace s)
    (free : audioBufferLocked s = false) {n : Nat} (called : n < s.dispatched)
    {handler : Handler} (locks : handler.holds = true)
    (stage : Drained kept trace s → drainedTo kept trace s handler) :
    Draining kept trace (s.setHandler n handler) := by
  have idle := unlocked_handlers holds.undispatched free
  have connected : s.connected = true := by
    cases unconnected : s.connected with
    | true => rfl
    | false =>
        obtain ⟨m, holder⟩ := holds.begun unconnected
        rw [idle m] at holder
        cases holder
  exact draining_taken holds.formed holds.running holds.undispatched idle
    holds.staged holds.drained called locks (stage (holds.drained connected))

theorem Draining.handler (holds : Draining kept trace s) {s' : State} {n : Nat}
    {ok located : Bool} {events : List Event}
    (intact : unbroken s (.handler n ok located) = true)
    (step : stepHandler s n ok located = some (s', events)) :
    Draining kept (trace ++ events) s' := by
  obtain ⟨stage, here, st⟩ := stepHandler_cases step
  have progress := holds.stage n
  rw [here] at progress
  have called : n < s.dispatched := by
    by_contra late
    rw [holds.undispatched n (by omega)] at here
    subst here
    cases st
  have written : (s.handlers n).pushes = true → ok = true := by
    intro pushes
    have := (Bool.and_eq_true_iff.mp intact).1
    simpa [pushes] using this
  cases st with
  | stop | pass | miss | sessionStopped | sessionStoppedQuietly | mark =>
      exact holds.callback (by rw [here]; rfl) rfl called le_rfl rfl rfl rfl rfl
        rfl rfl ⟨rfl, rfl⟩
  | speechStart | speechEnd | recognition =>
      exact holds.callback (by rw [here]; rfl) rfl called le_rfl rfl rfl rfl rfl
        rfl rfl (bytes_reports _ _ _)
  | cancel =>
      exact holds.callback (by rw [here]; rfl) rfl called le_rfl rfl rfl rfl rfl
        rfl rfl (bytes_reports _ _ _)
  | finish => simp [unbroken, here, Handler.finishes] at intact
  | fail | notify => exact progress.elim
  | drain free items =>
      rw [List.append_nil]
      apply holds.relock free called rfl
      intro drained
      exact absurd drained.items items
  | skip free empty =>
      rw [List.append_nil]
      apply holds.relock free called rfl
      intro drained
      refine ⟨drained.items, ?_⟩
      rw [drained.staging, List.append_nil]
      exact drained.pushed
  | drained empty =>
      obtain ⟨unused, _⟩ := SimpleBuffer.getNextChunk_none empty
      have stage : drainedTo kept trace s .flushing := by
        refine ⟨unused, ?_⟩
        unfold drainedTo at progress
        simpa [SimpleBuffer.chunks_nil_iff.mpr unused] using progress
      rw [← List.append_nil trace] at stage
      refine holds.holder (by rw [here]; rfl) holds.formed rfl rfl rfl rfl stage
        (fun unconnected => ⟨rfl, unconnected⟩) ?_
      intro connected
      exact (holds.drained connected).carry rfl rfl rfl rfl
  | @push offset audioBuffer chunk =>
      have content := SimpleBuffer.chunks_getNextChunk holds.formed chunk
      obtain ⟨used, _, _⟩ := SimpleBuffer.getNextChunk_some chunk
      have formed := SimpleBuffer.wellFormed_getNextChunk holds.formed chunk
      refine holds.holder (by rw [here]; rfl) formed rfl rfl rfl rfl ?_
        (fun unconnected => ⟨rfl, unconnected⟩) ?_
      · unfold drainedTo at progress
        rw [content] at progress
        show _ ++ audioBuffer.chunks.flatten ++ s.prebufStaging = _
        rw [pushedBytes_append, acceptedBytes_append]
        simpa [pushedBytes, acceptedBytes, Event.pushedBytes,
          Event.acceptedBytes] using progress
      · intro connected
        have items := (holds.drained connected).items
        omega
  | pushFails | flushFails =>
      have pushes : (s.handlers n).pushes = true := by rw [here]; rfl
      rw [written pushes] at step
      exact (stepHandler_unfailed pushes step (setHandler_same ..)).elim
  | keep done =>
      have staging : s.prebufStaging = [] := by
        rcases done with finished | empty
        · rw [holds.running] at finished
          cases finished
        · exact empty
      have stage : drainedTo kept trace s .publishing := by
        refine ⟨progress.1, ?_⟩
        have pushed := progress.2
        rwa [staging, List.append_nil] at pushed
      rw [← List.append_nil trace] at stage
      refine holds.holder (by rw [here]; rfl) holds.formed rfl rfl rfl rfl stage
        (fun unconnected => ⟨rfl, unconnected⟩) ?_
      intro connected
      exact (holds.drained connected).carry rfl rfl rfl rfl
  | flush running pending =>
      refine holds.holder (by rw [here]; rfl) holds.formed rfl rfl rfl rfl ?_
        (fun unconnected => ⟨rfl, unconnected⟩) ?_
      · refine ⟨progress.1, ?_⟩
        have pushed := progress.2
        simpa [pushedBytes, acceptedBytes, Event.pushedBytes,
          Event.acceptedBytes] using pushed
      · intro connected
        exact absurd (holds.drained connected).staging pending
  | publish =>
      rw [List.append_nil]
      have pushed : pushedBytes trace = kept ++ acceptedBytes trace :=
        progress.2
      rw [← List.append_nil trace]
      refine holds.holder (by rw [here]; rfl) holds.formed rfl rfl rfl rfl
        trivial (fun unconnected => by cases unconnected) ?_
      intro _
      rw [List.append_nil]
      exact ⟨progress.1, rfl, pushed⟩

theorem Draining.step (holds : Draining kept trace s) {label : Act}
    (intact : unbroken s label = true) {s' : State} {events : List Event}
    (step : (machine config).step s label = some (s', events)) :
    Draining kept (trace ++ events) s' := by
  cases label with
  | media ok located => exact holds.media intact step
  | signal callback =>
      have fresh := holds.undispatched s.dispatched le_rfl
      simp only [machine, Azure.step] at step
      split at step <;> cases step
      exact holds.callback (by rw [fresh]; rfl) rfl (Nat.lt_succ_self _)
        (Nat.le_succ _) rfl rfl rfl rfl rfl rfl ⟨rfl, rfl⟩
  | handler n ok located => exact holds.handler intact step
  | _ => exact holds.unmoved (step_unmoved rfl intact step)

theorem buffering_of_run {labels : List Act}
    (run : (machine config).Run (fun state label =>
      unbroken state label && !takesBuffer state label) (.fresh config) labels
      trace s) : Buffering trace s := by
  refine run.induct Buffering buffering_fresh ?_
  intro seen state label next events holds admitted step
  obtain ⟨intact, earlier⟩ := Bool.and_eq_true_iff.mp admitted
  exact holds.step intact (by simpa using earlier) step

theorem Buffering.drain (holds : Buffering trace s) {label : Act}
    (begins : takesBuffer s label = true) {s' : State} {events : List Event}
    (step : (machine config).step s label = some (s', events)) :
    Draining (keptBytes chunkSize 15 (acceptedBytes trace)) events s' := by
  have content := holds.held.content
  have formed := holds.held.sound.formed
  cases label with
  | handler n ok located =>
      obtain ⟨rfl, tested⟩ := Bool.and_eq_true_iff.mp begins
      obtain ⟨stage, here, st⟩ := stepHandler_cases step
      obtain rfl := (of_decide_eq_true tested).symm.trans here
      have called : n < s.dispatched := by
        by_contra late
        rw [holds.undispatched n (by omega)] at here
        cases here
      have unconnected : ¬ s.connected = true := by simp [holds.unconnected]
      cases st with
      | drain free items =>
          refine draining_taken formed holds.running holds.undispatched
            holds.free (fun _ => holds.staged)
            (fun connected => (unconnected connected).elim) called rfl ?_
          show [] ++ s.audioBuffer.chunks.flatten ++ s.prebufStaging = _ ++ []
          rw [List.nil_append, content, List.append_nil]
      | skip free empty =>
          refine draining_taken formed holds.running holds.undispatched
            holds.free (fun _ => holds.staged)
            (fun connected => (unconnected connected).elim) called rfl ?_
          refine ⟨empty, ?_⟩
          show [] ++ s.prebufStaging = _ ++ []
          rw [SimpleBuffer.chunks_nil_iff.mpr empty] at content
          rw [List.append_nil]
          exact content
      | miss unlocated => cases unlocated
  | _ => cases begins

theorem draining_of_cut {labels : List Act} {before after : List Event}
    (cut : (machine config).Cut unbroken takesBuffer (.fresh config) labels
      before after s) :
    pushedBytes before = [] ∧
      Draining (keptBytes chunkSize 15 (acceptedBytes before)) after s := by
  cases cut with
  | @intro _ _ _ events after middle next _ label first _ begins step rest =>
      have holds := buffering_of_run first
      refine ⟨holds.silent, ?_⟩
      refine rest.induct (fun seen => Draining _ (events ++ seen)) ?_ ?_
      · rw [List.append_nil]
        exact holds.drain begins step
      · intro seen state label next more draining intact later
        rw [← List.append_assoc]
        exact draining.step intact later

end DrachtioModules.Azure

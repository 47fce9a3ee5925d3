import DrachtioModules.Aws.Flush

/-!
# The worker never spins

`processData()` waits on `m_cond` with a predicate of five disjuncts.  A pass of
its loop body that leaves one of them as it found it makes the next wait return
at once; so every pass has to see to each of them.
-/

namespace DrachtioModules.Aws

open Transcribe (Bytes SimpleBuffer)

variable {τ : Type} {config : Config} {s s' : State τ} {label : Act τ}
variable {events : List (Event τ)}

/-- The disjuncts of the predicate: audio is queued, a transcript is there, the
final response is there, `finish()` asks for the shutdown, the shutdown can
close the stream. -/
inductive Disjunct where
  | audio
  | transcript
  | finished
  | shutdown
  | close
  deriving DecidableEq, Repr

def Disjunct.holds (s : State τ) : Disjunct → Bool
  | .audio => !s.deqAudio.isEmpty && !s.finishing
  | .transcript => s.transcript.isSome
  | .finished => s.finished
  | .shutdown => s.finishing && !s.shutdownInitiated
  | .close => s.finishing && s.shutdownInitiated && s.stream

/-- The worker is in the loop body. -/
def Worker.inPass : Worker τ → Bool
  | .waiting | .pausing | .returned => false
  | _ => true

def duringPass (s : State τ) (_ : Act τ) : Bool := s.worker.inPass

/-- The wait before the loop body ends, by its predicate or by its deadline. -/
def startsPass (s : State τ) (label : Act τ) : Bool :=
  match s.worker, label with
  | .waiting, .worker | .waiting, .timeout => true
  | _, _ => false

/-- A step of `write()`, `finish()` or the SDK, or the timed wait of 100 ms. -/
def Act.renews : Act τ → Bool
  | .worker => false
  | _ => true

structure NeverSpins (config : Config) (s : State τ) : Prop where
  streaming : s.deqAudio ≠ [] → s.finishing = false → s.stream = true
  disjuncts : ready s = true ↔ ∃ disjunct : Disjunct, disjunct.holds s = true
  -- a pass that returns to the wait has made the disjunct false on the way
  served : s.worker = .waiting → ∀ {disjunct : Disjunct} {labels trace s'},
    disjunct.holds s = true →
    (machine τ config).Run duringPass { s with worker := .woken } labels trace
      s' →
    s'.worker.inPass = false →
    s'.worker = .returned ∨
      (machine τ config).Visits duringPass
        (fun middle => disjunct.holds middle = false)
        { s with worker := .woken } labels trace s'
  -- a pass that the deadline starts blocks in the timed wait
  pauses : ∀ {s' events}, step config s .timeout = some (s', events) →
    s'.worker = .pausing ∧ ready s' = false
  bounded : ∀ {labels trace s' passes},
    ((machine τ config).metered fun s label => (startsPass s label).toNat).Run
      anyStep (s, 0) labels trace (s', passes) →
    passes ≤ 1 + labels.countP Act.renews

theorem ready_iff :
    ready s = true ↔ ∃ disjunct : Disjunct, disjunct.holds s = true := by
  constructor
  · intro holds
    simp only [ready, Bool.or_eq_true] at holds
    rcases holds with (((audio | transcript) | finished) | shutdown) | close
    · exact ⟨.audio, audio⟩
    · exact ⟨.transcript, transcript⟩
    · exact ⟨.finished, finished⟩
    · exact ⟨.shutdown, shutdown⟩
    · exact ⟨.close, close⟩
  · rintro ⟨disjunct, holds⟩
    cases disjunct <;> simp_all [ready, Disjunct.holds]

/-- Audio is queued only once the stream is published, and the stream is gone
only once the shutdown has closed it. -/
structure Streaming (s : State τ) : Prop where
  connected : s.connected = true → s.streamReady.stored = true
  pushing : ∀ data, s.media = .pushing data → s.connected = true
  queued : s.deqAudio ≠ [] → s.streamReady.stored = true
  published : s.streamReady.stored = true →
    s.stream = true ∨ s.finishing = true
  final : s.worker.final = true →
    s.finishing = true ∧ s.shutdownInitiated = true

theorem streaming_fresh : Streaming (.fresh τ config) := by
  constructor <;> simp [State.fresh, Worker.final, StreamReady.stored]

theorem Streaming.stream (holds : Streaming s) (queued : s.deqAudio ≠ [])
    (running : s.finishing = false) : s.stream = true := by
  rcases holds.published (holds.queued queued) with stream | finishing
  · exact stream
  · rw [running] at finishing
    cases finishing

theorem Streaming.worker (holds : Streaming s)
    (step : stepWorker s = some (s', events)) : Streaming s' := by
  obtain ⟨stage, here, taken⟩ := stepWorker_cases step
  have final := holds.final
  rw [here] at final
  cases taken with
  | takeLast finishing =>
      exact ⟨holds.connected, holds.pushing, by simp, holds.published,
        fun _ => ⟨finishing, rfl⟩⟩
  | takeAudio =>
      exact ⟨holds.connected, holds.pushing, by simp, holds.published,
        by simp [Worker.final]⟩
  | drain | endStream | flush | close =>
      exact ⟨holds.connected, holds.pushing, holds.queued, holds.published,
        fun _ => final rfl⟩
  | clear =>
      exact ⟨holds.connected, holds.pushing, holds.queued,
        fun _ => .inr (final rfl).1, by simp [Worker.final]⟩
  | _ =>
      exact ⟨holds.connected, holds.pushing, holds.queued, holds.published,
        by simp [Worker.final]⟩

theorem Streaming.media (holds : Streaming s)
    (step : stepMedia config s = some (s', events)) : Streaming s' := by
  obtain ⟨stage, media, taken⟩ := stepMedia_cases step
  cases taken with
  | direct connected | late _ connected =>
      exact ⟨holds.connected, fun _ _ => connected, holds.queued,
        holds.published, holds.final⟩
  | stages =>
      exact ⟨holds.connected, by simp, holds.queued, holds.published,
        holds.final⟩
  | stage =>
      rw [stage_same]
      exact ⟨holds.connected, by simp, holds.queued, holds.published,
        holds.final⟩
  | push =>
      have connected := holds.pushing _ media
      exact ⟨holds.connected, by simp, fun _ => holds.connected connected,
        holds.published, holds.final⟩

theorem Streaming.streamReady (holds : Streaming s)
    (step : stepStreamReady s = some (s', events)) : Streaming s' := by
  obtain ⟨stage, called, taken⟩ := stepStreamReady_cases step
  have published := holds.published
  rw [called] at published
  cases taken with
  | @store located =>
      have stored : (if located then StreamReady.locking
          else .notifying).stored = true := by
        cases located <;> rfl
      exact ⟨fun _ => stored, holds.pushing, fun _ => stored,
        fun _ => .inl rfl, holds.final⟩
  | publish =>
      exact ⟨fun _ => rfl, fun _ _ => rfl, fun _ => rfl, fun _ => published rfl,
        holds.final⟩
  | _ =>
      exact ⟨fun _ => rfl, holds.pushing, fun _ => rfl, fun _ => published rfl,
        holds.final⟩

theorem Called.stored (called : Called s s' events) :
    s'.streamReady.stored = s.streamReady.stored := by
  rcases called.streamReady with same | ⟨fresh, located, entered⟩
  · rw [same]
  · rw [fresh, entered]
    rfl

theorem Streaming.call (holds : Streaming s) (called : Called s s' events) :
    Streaming s' := by
  constructor
  · rw [called.connected, called.stored]
    exact holds.connected
  · intro data pushing
    rw [called.connected]
    rcases called.media with same | ⟨_, entered⟩
    · exact holds.pushing data (same ▸ pushing)
    · rw [entered] at pushing
      cases pushing
  · rw [called.deqAudio, called.stored]
    exact holds.queued
  · rw [called.stored, called.stream]
    intro stored
    exact (holds.published stored).imp_right called.finishing
  · rw [called.worker, called.shutdownInitiated]
    exact fun final => (holds.final final).imp_left called.finishing

theorem Streaming.step (holds : Streaming s)
    (step : (machine τ config).step s label = some (s', events)) :
    Streaming s' := by
  cases label with
  | media => exact holds.media step
  | streamReady => exact holds.streamReady step
  | worker => exact holds.worker step
  | timeout =>
      obtain ⟨_, _, _, rfl, _⟩ := stepTimeout_cases step
      exact ⟨holds.connected, holds.pushing, holds.queued, holds.published,
        by simp [Worker.final]⟩
  | connect | write | finish | onStreamReady | onTranscriptEvent | onResponse =>
      exact holds.call (call_cases rfl step).called

theorem streaming_reachable (reachable : (machine τ config).Reachable s) :
    Streaming s := by
  obtain ⟨labels, trace, run⟩ := reachable
  apply run.invariant Streaming
  · exact streaming_fresh
  · exact fun holds _ step => holds.step step

/-- The pass has still to come to the disjunct. -/
def Worker.awaits : Worker τ → Disjunct → Bool
  | .woken, _ | .returned, _ => true
  | .delivering _ final, .finished | .relocking final, .finished => final
  | .delivering _ final, .transcript | .relocking final, .transcript => final
  | .delivering _ _, _ | .relocking _, _ => true
  | .serving, .finished | .serving, .transcript => false
  | .serving, _ => true
  | .draining _, .close | .flushing, .close | .closing, .close
  | .clearing, .close => true
  | _, _ => false

def Pending (disjunct : Disjunct) (s : State τ) : Prop :=
  disjunct.holds s = true ∧ s.worker.awaits disjunct = true

variable {disjunct : Disjunct}

theorem pending_of_awaits (awaits : s'.worker.awaits disjunct = true) :
    disjunct.holds s' = false ∨ Pending disjunct s' := by
  cases here : disjunct.holds s' with
  | false => exact .inl rfl
  | true => exact .inr ⟨here, awaits⟩

/-- What the worker tests under `m_mutex` decides every disjunct but the one it
sees to next. -/
theorem Pending.serving (pending : Pending disjunct s)
    (streaming : Streaming s) (here : s.worker = .serving)
    (step : stepWorker s = some (s', events)) :
    disjunct.holds s' = false ∨ Pending disjunct s' := by
  obtain ⟨holds, awaits⟩ := pending
  rw [here] at awaits
  obtain ⟨stage, same, taken⟩ := stepWorker_cases step
  rw [here] at same
  subst same
  cases disjunct with
  | transcript | finished => cases awaits
  | audio =>
      obtain ⟨queued, running⟩ := Bool.and_eq_true_iff.mp holds
      cases taken with
      | takeLast finishing | initiate finishing => simp [finishing] at running
      | takeAudio => exact .inl rfl
      | takeNothing running unready =>
          have stream := streaming.stream (by simpa using queued) running
          rw [unready] at stream
          cases stream
  | shutdown =>
      have finishing := (Bool.and_eq_true_iff.mp holds).1
      cases taken with
      | takeLast | initiate => exact .inl (by simp [Disjunct.holds])
      | takeAudio running | takeNothing running =>
          rw [running] at finishing
          cases finishing
  | close =>
      obtain ⟨asked, stream⟩ := Bool.and_eq_true_iff.mp holds
      have finishing := (Bool.and_eq_true_iff.mp asked).1
      cases taken with
      | takeLast => exact pending_of_awaits rfl
      | initiate _ unready =>
          rw [unready] at stream
          cases stream
      | takeAudio running | takeNothing running =>
          rw [running] at finishing
          cases finishing

theorem Pending.woken (pending : Pending disjunct s)
    (here : s.worker = .woken) (step : stepWorker s = some (s', events)) :
    disjunct.holds s' = false ∨ Pending disjunct s' := by
  have holds := pending.1
  obtain ⟨stage, same, taken⟩ := stepWorker_cases step
  rw [here] at same
  subst same
  cases taken with
  | takeFinal | finish | abandon =>
      apply pending_of_awaits
      cases disjunct <;> rfl
  | take running slot =>
      cases disjunct with
      | transcript => exact .inl rfl
      | finished => simp [Disjunct.holds, running] at holds
      | audio | shutdown | close => exact pending_of_awaits rfl
  | serve running slot =>
      cases disjunct with
      | transcript => simp [Disjunct.holds, slot] at holds
      | finished => simp [Disjunct.holds, running] at holds
      | audio | shutdown | close => exact pending_of_awaits rfl

theorem Pending.worker (pending : Pending disjunct s)
    (streaming : Streaming s) (busy : s.worker.inPass = true)
    (step : stepWorker s = some (s', events)) :
    disjunct.holds s' = false ∨ Pending disjunct s' := by
  obtain ⟨stage, here, taken⟩ := stepWorker_cases step
  have awaits := pending.2
  rw [here] at awaits busy
  cases taken with
  | wake | resume => cases busy
  | takeFinal | finish | abandon | take | serve =>
      exact pending.woken here step
  | takeLast | initiate | takeAudio | takeNothing =>
      exact pending.serving streaming here step
  | deliver =>
      apply pending_of_awaits
      cases disjunct <;> exact awaits
  | relockFinal =>
      apply pending_of_awaits
      cases disjunct <;> rfl
  | relock =>
      cases disjunct with
      | transcript | finished => cases awaits
      | audio | shutdown | close => exact pending_of_awaits rfl
  | written | write => cases disjunct <;> cases awaits
  | drain | endStream | flush | close =>
      cases disjunct with
      | close => exact pending_of_awaits rfl
      | audio | transcript | finished | shutdown => cases awaits
  | clear =>
      cases disjunct with
      | close => exact .inl (by simp [Disjunct.holds])
      | audio | transcript | finished | shutdown => cases awaits

theorem worker_elsewhere (elsewhere : label ≠ .worker)
    (busy : s.worker.inPass = true)
    (step : (machine τ config).step s label = some (s', events)) :
    s'.worker = s.worker := by
  by_cases late : label = .timeout
  · subst late
    obtain ⟨waiting, _⟩ := stepTimeout_cases step
    rw [waiting] at busy
    cases busy
  · exact worker_of_step ⟨elsewhere, late⟩ step

theorem Pending.step (pending : Pending disjunct s) (streaming : Streaming s)
    (busy : s.worker.inPass = true)
    (step : (machine τ config).step s label = some (s', events)) :
    disjunct.holds s' = false ∨ Pending disjunct s' := by
  by_cases own : label = .worker
  · subst own
    exact pending.worker streaming busy step
  · apply pending_of_awaits
    rw [worker_elsewhere own busy step]
    exact pending.2

theorem Pending.returned (pending : Pending disjunct s)
    (ended : s.worker.inPass = false) : s.worker = .returned := by
  have awaits := pending.2
  cases here : s.worker with
  | returned => rfl
  | waiting | pausing =>
      rw [here] at awaits
      cases disjunct <;> cases awaits
  | _ =>
      rw [here] at ended
      cases ended

/-- The worker comes to the wait with the predicate true, unless something
happens before. -/
def due (s : State τ) : Bool :=
  match s.worker with
  | .waiting | .pausing | .writing _ => ready s
  | .woken | .returned => false
  | .delivering _ final | .relocking final =>
      !final && (s.transcript.isSome || s.finished)
  | .serving | .draining _ | .flushing | .closing | .clearing =>
      s.transcript.isSome || s.finished

theorem due_passing (busy : s.worker ≠ .waiting)
    (due_of : due s' = true → due s = true) :
    (startsPass s .worker).toNat + (due s').toNat ≤ (due s).toNat := by
  have inside : startsPass s .worker = false := by
    unfold startsPass
    cases here : s.worker with
    | waiting => exact (busy here).elim
    | _ => rfl
  rw [inside]
  cases later : due s' with
  | false => exact Nat.zero_le _
  | true =>
      rw [due_of later]
      exact Nat.le_refl _

/-- Once the shutdown has closed the stream, or there is nothing to take, only a
transcript or the final response can end the wait. -/
theorem ready_of_served (queued : s.deqAudio = [] ∨ s.finishing = true)
    (asked : s.finishing = false ∨ s.shutdownInitiated = true)
    (closed : s.finishing = false ∨ s.stream = false) :
    ready s = (s.transcript.isSome || s.finished) := by
  unfold ready
  rcases asked with running | initiated
  · rcases queued with empty | finishing
    · simp [empty, running]
    · simp [running] at finishing
  · rcases closed with running | gone
    · rcases queued with empty | finishing
      · simp [empty, running]
      · simp [running] at finishing
    · rcases queued with empty | finishing
      · simp [empty, initiated, gone]
      · simp [finishing, initiated, gone]

/-- The pass ends with every other disjunct seen to. -/
theorem due_served (here : s.worker = .serving ∨ s.worker = .clearing)
    (later : due s' = ready s') (transcript : s'.transcript = s.transcript)
    (finished : s'.finished = s.finished)
    (queued : s'.deqAudio = [] ∨ s'.finishing = true)
    (asked : s'.finishing = false ∨ s'.shutdownInitiated = true)
    (closed : s'.finishing = false ∨ s'.stream = false) :
    (startsPass s .worker).toNat + (due s').toNat ≤ (due s).toNat := by
  have now : due s = (s.transcript.isSome || s.finished) := by
    unfold due
    rcases here with serving | clearing
    · rw [serving]
    · rw [clearing]
  apply due_passing
  · rcases here with serving | clearing
    · simp [serving]
    · simp [clearing]
  · rw [later, now, ready_of_served queued asked closed, transcript, finished]
    exact id

/-- A pass that starts with the predicate leaves none due, and none becomes due
by the worker's own steps. -/
theorem due_worker (streaming : Streaming s)
    (step : stepWorker s = some (s', events)) :
    (startsPass s .worker).toNat + (due s').toNat ≤ (due s).toNat := by
  obtain ⟨stage, here, taken⟩ := stepWorker_cases step
  cases taken with
  | wake ready => simp [startsPass, due, here, ready]
  | takeFinal | finish | abandon | relockFinal =>
      apply due_passing (by simp [here])
      exact fun later => nomatch later
  | take running | serve running slot =>
      apply due_passing (by simp [here])
      simp_all [due]
  | relock | deliver | takeLast | drain | endStream | flush | close
  | resume | written | write =>
      apply due_passing (by simp [here])
      intro later
      unfold due
      rw [here]
      exact later
  | initiate finishing unready =>
      exact due_served (.inl here) rfl rfl rfl (.inr finishing) (.inr rfl)
        (.inr unready)
  | takeAudio running =>
      exact due_served (.inl here) rfl rfl rfl (.inl rfl) (.inl running)
        (.inl running)
  | takeNothing running unready =>
      have empty : s.deqAudio = [] := by
        by_contra queued
        have stream := streaming.stream queued running
        rw [unready] at stream
        cases stream
      exact due_served (.inl here) rfl rfl rfl (.inl empty) (.inl running)
        (.inl running)
  | clear =>
      obtain ⟨finishing, initiated⟩ := streaming.final (by rw [here]; rfl)
      exact due_served (.inr here) rfl rfl rfl (.inr finishing)
        (.inr initiated) (.inr rfl)

theorem startsPass_outside (own : label ≠ .worker) (late : label ≠ .timeout) :
    startsPass s label = false := by
  unfold startsPass
  split
  · exact (own rfl).elim
  · exact (late rfl).elim
  · rfl

theorem due_step (streaming : Streaming s)
    (step : (machine τ config).step s label = some (s', events)) :
    (startsPass s label).toNat + (due s').toNat ≤
      (due s).toNat + label.renews.toNat := by
  have bit := (due s').toNat_le
  cases label with
  | worker => exact due_worker streaming step
  | timeout =>
      obtain ⟨waiting, _, unready, rfl, _⟩ := stepTimeout_cases step
      have idle : due { s with requestAborted := true, worker := .pausing } =
        false := unready
      rw [idle]
      have once := (startsPass s .timeout).toNat_le
      exact once.trans (Nat.le_add_left _ _)
  | connect | write | media | finish | onStreamReady | streamReady
  | onTranscriptEvent | onResponse =>
      rw [startsPass_outside (by simp) (by simp), Bool.toNat_false,
        Nat.zero_add]
      exact bit.trans (Nat.le_add_left _ _)

/-- In every reachable state each disjunct that ends the wait is seen to by the
pass that follows, and the worker makes one pass more at most than there are
steps of others and timed waits. -/
theorem worker_never_spins (reachable : (machine τ config).Reachable s) :
    NeverSpins config s := by
  have streaming := streaming_reachable reachable
  constructor
  · exact streaming.stream
  · exact ready_iff
  · intro waiting disjunct labels trace s' holds run ended
    have woken : Streaming { s with worker := .woken } :=
      ⟨streaming.connected, streaming.pushing, streaming.queued,
        streaming.published, by simp [Worker.final]⟩
    have passed := run.visits
      (fun middle => Streaming middle ∧ Pending disjunct middle)
      (fun middle => disjunct.holds middle = false)
      ⟨woken, holds, rfl⟩ ?_
    · rcases passed with visited | ⟨_, pending⟩
      · exact .inr visited
      · exact .inl (pending.returned ended)
    · rintro middle label next events ⟨streaming, pending⟩ busy step
      rcases pending.step streaming busy step with unheld | still
      · exact .inl unheld
      · exact .inr ⟨streaming.step step, still⟩
  · intro s' events step
    obtain ⟨_, _, unready, rfl, _⟩ := stepTimeout_cases step
    exact ⟨rfl, unready⟩
  · intro labels trace s' passes run
    have within := run.amortized Streaming Act.renews (fun s => (due s).toNat)
      streaming Streaming.step due_step
    have bit := (due s).toNat_le
    have none := Nat.le_add_right passes (due s').toNat
    exact none.trans (within.trans (Nat.add_le_add_right bit _))

/-- With a frame queued and the stream there, the worker is about to wake. -/
theorem worker_never_spins_queued :
    ∃ s : State Nat, (machine Nat ⟨3, 2⟩).Reachable s ∧ ready s = true ∧
      s.worker = .waiting ∧ NeverSpins ⟨3, 2⟩ s := by
  have executed :
      ((machine Nat ⟨3, 2⟩).exec anyStep (.fresh Nat ⟨3, 2⟩)
        [.connect, .onStreamReady true, .streamReady, .streamReady,
          .streamReady, .streamReady, .streamReady,
          .write [1, 2], .media, .media]).map (fun outcome =>
          ready outcome.1 && decide (outcome.1.worker = .waiting)) =
        some true := by
    decide
  obtain ⟨s, trace, run, seen⟩ := Machine.exists_run_of_exec _ executed
  obtain ⟨awake, waiting⟩ := Bool.and_eq_true_iff.mp seen
  have reachable : (machine Nat ⟨3, 2⟩).Reachable s := ⟨_, trace, run⟩
  exact ⟨s, reachable, awake, of_decide_eq_true waiting,
    worker_never_spins reachable⟩

end DrachtioModules.Aws

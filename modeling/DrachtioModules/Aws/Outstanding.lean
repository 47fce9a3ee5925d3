import DrachtioModules.Aws.Steps

/-!
# The request of a GStreamer and the return of its worker

Nothing happens to a GStreamer that has not been connected, and its worker wakes
only to be told to finish.  So a worker that returns has seen the final response
or leaves a GStreamer that was never connected.
-/

namespace DrachtioModules.Aws

open Transcribe (Bytes)

variable {τ : Type} {config : Config} {s : State τ}

/-- A connect has been asked for. -/
def inquired (s : State τ) : Prop :=
  s.streamReady ≠ .notCalled ∨ s.connected = true ∨ s.deqAudio ≠ [] ∨
    s.transcript ≠ none ∨ ∃ data, s.media = .pushing data

theorem inquired.before {s' : State τ} (asked : inquired s')
    (streamReady : s'.streamReady = s.streamReady)
    (connected : s'.connected = s.connected)
    (deqAudio : s'.deqAudio = s.deqAudio)
    (transcript : s'.transcript = s.transcript)
    (staged : ∀ data, s'.media ≠ .pushing data) : inquired s := by
  unfold inquired at asked ⊢
  rw [streamReady, connected, deqAudio, transcript] at asked
  rcases asked with called | accepted | queued | stored | ⟨data, pushing⟩
  · exact .inl called
  · exact .inr (.inl accepted)
  · exact .inr (.inr (.inl queued))
  · exact .inr (.inr (.inr (.inl stored)))
  · exact (staged data pushing).elim

/-- The worker delivers its last transcript. -/
def Worker.last : Worker τ → Bool
  | .delivering _ final | .relocking final => final
  | _ => false

/-- Why the worker may be where it is. -/
structure Outstanding (s : State τ) : Prop where
  connecting : inquired s → s.connecting = true
  answered : s.finished = true → s.connecting = true
  awake : s.worker ≠ .waiting → s.connecting = true ∨ s.finishing = true
  last : s.worker.last = true → s.finished = true
  returned : s.worker = .returned →
    s.finished = true ∨ s.finishing = true ∧ s.connecting = false
  initiated : s.shutdownInitiated = true → s.finishing = true

theorem outstanding_fresh : Outstanding (.fresh τ config) := by
  constructor <;> simp [inquired, State.fresh, Worker.last]

theorem Outstanding.same (held : Outstanding s) {s' : State τ}
    (worker : s'.worker = s.worker)
    (finished : s'.finished = s.finished)
    (connecting : s'.connecting = s.connecting)
    (initiated : s'.shutdownInitiated = s.shutdownInitiated)
    (finishing : s.finishing = true → s'.finishing = true)
    (inquiry : inquired s' → inquired s ∨ s.connecting = true) :
    Outstanding s' := by
  constructor
  · intro asked
    rw [connecting]
    rcases inquiry asked with before | connected
    · exact held.connecting before
    · exact connected
  · rw [finished, connecting]
    exact held.answered
  · rw [worker, connecting]
    intro active
    exact (held.awake active).imp_right finishing
  · rw [worker, finished]
    exact held.last
  · rw [worker, finished, connecting]
    intro here
    exact (held.returned here).imp_right
      fun abandoned => ⟨finishing abandoned.1, abandoned.2⟩
  · rw [initiated]
    exact fun before => finishing (held.initiated before)

theorem Outstanding.move (held : Outstanding s) {worker : Worker τ}
    {transcript : Option τ} {deqAudio : List Bytes}
    {stream shutdownInitiated requestAborted : Bool}
    (going : worker ≠ .returned)
    (awake : worker ≠ .waiting → s.connecting = true ∨ s.finishing = true)
    (slot : transcript ≠ none → s.transcript ≠ none)
    (frames : deqAudio ≠ [] → s.deqAudio ≠ [])
    (last : worker.last = true → s.finished = true)
    (initiated : shutdownInitiated = true → s.finishing = true) :
    Outstanding { s with
      worker := worker
      transcript := transcript
      deqAudio := deqAudio
      stream := stream
      shutdownInitiated := shutdownInitiated
      requestAborted := requestAborted } := by
  constructor
  · rintro (called | connected | queued | stored | pushing)
    · exact held.connecting (.inl called)
    · exact held.connecting (.inr (.inl connected))
    · exact held.connecting (.inr (.inr (.inl (frames queued))))
    · exact held.connecting (.inr (.inr (.inr (.inl (slot stored)))))
    · exact held.connecting (.inr (.inr (.inr (.inr pushing))))
  · exact held.answered
  · exact awake
  · exact last
  · exact fun here => (going here).elim
  · exact initiated

theorem Outstanding.return (held : Outstanding s)
    (ended : s.finished = true ∨ s.finishing = true ∧ s.connecting = false)
    (active : s.worker ≠ .waiting) :
    Outstanding { s with worker := .returned } := by
  constructor
  · exact held.connecting
  · exact held.answered
  · exact fun _ => held.awake active
  · simp [Worker.last]
  · exact fun _ => ended
  · exact held.initiated

theorem Outstanding.worker (held : Outstanding s) {s' : State τ}
    {events : List (Event τ)} (step : stepWorker s = some (s', events)) :
    Outstanding s' := by
  obtain ⟨stage, here, taken⟩ := stepWorker_cases step
  have awake : stage ≠ .waiting → s.connecting = true ∨ s.finishing = true := by
    rw [← here]
    exact held.awake
  cases taken with
  | wake ready =>
      refine held.move (by simp) ?_ id id (by simp [Worker.last]) held.initiated
      intro _
      simp only [Aws.ready, Bool.or_eq_true, Bool.and_eq_true,
        Bool.not_eq_true', List.isEmpty_eq_false_iff] at ready
      rcases ready with (((queued | stored) | finished) | finishing) | finishing
      · exact .inl (held.connecting (.inr (.inr (.inl queued.1))))
      · refine .inl (held.connecting (.inr (.inr (.inr (.inl ?_)))))
        intro none
        simp [none] at stored
      · exact .inl (held.answered finished)
      · exact .inr finishing.1
      · exact .inr finishing.1.1
  | resume | written =>
      exact held.move (by simp) (by simp) id id (by simp [Worker.last])
        held.initiated
  | initiate finishing unready =>
      exact held.move (by simp) (by simp) id id (by simp [Worker.last])
        (fun _ => finishing)
  | takeFinal finished slot =>
      exact held.move (by simp) (fun _ => awake (by simp)) (by simp) id
        (fun _ => finished) held.initiated
  | finish finished slot => exact held.return (.inl finished) (by simp [here])
  | abandon running idle =>
      refine held.return (.inr ⟨?_, idle.2⟩) (by simp [here])
      rcases awake (by simp) with connecting | finishing
      · rw [idle.2] at connecting
        cases connecting
      · exact finishing
  | take running slot =>
      exact held.move (by simp) (fun _ => awake (by simp)) (by simp) id
        (by simp [Worker.last]) held.initiated
  | @deliver transcript final =>
      refine held.move (by simp) (fun _ => awake (by simp)) id id ?_
        held.initiated
      intro last
      apply held.last
      rw [here]
      exact last
  | relockFinal =>
      have finished := held.last (by rw [here]; rfl)
      exact held.return (.inl finished) (by simp [here])
  | takeLast finishing ready =>
      exact held.move (by simp) (fun _ => awake (by simp)) id (by simp)
        (by simp [Worker.last]) (fun _ => finishing)
  | takeAudio running ready =>
      exact held.move (by simp) (fun _ => awake (by simp)) id (by simp)
        (by simp [Worker.last]) held.initiated
  | clear =>
      exact held.move (by simp) (by simp) id id (by simp [Worker.last])
        held.initiated
  | serve | takeNothing | relock | write | drain | endStream | flush | close =>
      exact held.move (by simp) (fun _ => awake (by simp)) id id
        (by simp [Worker.last]) held.initiated

theorem Outstanding.timeout (held : Outstanding s) {s' : State τ}
    {events : List (Event τ)} (step : stepTimeout s = some (s', events)) :
    Outstanding s' := by
  obtain ⟨_, initiated, _, rfl, _⟩ := stepTimeout_cases step
  exact held.move (by simp) (fun _ => .inr (held.initiated initiated)) id id
    (by simp [Worker.last]) held.initiated

theorem Outstanding.media (held : Outstanding s) {s' : State τ}
    {events : List (Event τ)}
    (step : stepMedia config s = some (s', events)) : Outstanding s' := by
  obtain ⟨stage, media, taken⟩ := stepMedia_cases step
  cases taken with
  | direct connected | late free connected =>
      exact held.same rfl rfl rfl rfl id (fun _ => .inl (.inr (.inl connected)))
  | stages unconnected =>
      exact held.same rfl rfl rfl rfl id
        (fun asked => .inl (asked.before rfl rfl rfl rfl (by simp)))
  | stage free unconnected =>
      rw [stage_same]
      exact held.same rfl rfl rfl rfl id
        (fun asked => .inl (asked.before rfl rfl rfl rfl (by simp)))
  | push free =>
      exact held.same rfl rfl rfl rfl id
        (fun _ => .inl (.inr (.inr (.inr (.inr ⟨_, media⟩)))))

theorem Outstanding.streamReady (held : Outstanding s) {s' : State τ}
    {events : List (Event τ)}
    (step : stepStreamReady s = some (s', events)) : Outstanding s' := by
  obtain ⟨stage, called, taken⟩ := stepStreamReady_cases step
  have asked : stage ≠ .notCalled → inquired s := by
    rw [← called]
    exact .inl
  cases taken <;>
    exact held.same rfl rfl rfl rfl id (fun _ => .inl (asked (by simp)))

theorem Outstanding.step (held : Outstanding s) {label : Act τ} {s' : State τ}
    {events : List (Event τ)}
    (unabandoned : label = .connect → s.worker = .returned →
      s.finished = true)
    (step : (machine τ config).step s label = some (s', events)) :
    Outstanding s' := by
  cases label with
  | connect =>
      cases call_cases rfl step with
      | again => exact held
      | request =>
          exact ⟨fun _ => rfl, fun _ => rfl, fun _ => .inl rfl, held.last,
            fun here => .inl (unabandoned rfl here), held.initiated⟩
  | write data =>
      cases call_cases rfl step with
      | refuse => exact held
      | enter =>
          exact held.same rfl rfl rfl rfl id
            (fun asked => .inl (asked.before rfl rfl rfl rfl (by simp)))
  | media => exact held.media step
  | finish =>
      cases call_cases rfl step with
      | finishAgain => exact held
      | finish => exact held.same rfl rfl rfl rfl (fun _ => rfl) .inl
  | onStreamReady located =>
      cases call_cases rfl step with
      | ready connecting =>
          exact held.same rfl rfl rfl rfl id (fun _ => .inr connecting)
  | streamReady => exact held.streamReady step
  | onTranscriptEvent transcript =>
      cases call_cases rfl step with
      | store connecting =>
          exact held.same rfl rfl rfl rfl id (fun _ => .inr connecting)
  | onResponse =>
      cases call_cases rfl step with
      | respond connecting =>
          exact ⟨held.connecting, fun _ => connecting, held.awake,
            fun _ => rfl, fun _ => .inl rfl, held.initiated⟩
  | worker => exact held.worker step
  | timeout => exact held.timeout step

end DrachtioModules.Aws

import DrachtioModules.Aws.Placement

/-!
# A stop is not lost on a worker that starts

A teardown sets `stop_requested` before it loads `cb->streamer`; the worker
publishes `cb->streamer` before it looks at `stop_requested`.  So whichever of
the two comes first, the GStreamer a worker waits in has been told to finish by
the time a stop waits for that worker.
-/

namespace DrachtioModules.Aws

open Transcribe (Bytes Caller Channel Life Control Notice Lifetime User Owner)

variable {κ τ : Type} {config : Config} {s s' : CapCb κ τ}
variable {events : List (SessionEvent κ τ)}

/-- The worker waits on `m_cond`. -/
def Worker.waits : Worker τ → Bool
  | .waiting | .pausing => true
  | _ => false

/-- A stop, a CLOSE callback or the cleanup of a start waits in
`switch_thread_join`, and the worker waits for a `finish()` that nobody has
called. -/
def Stranded (s : CapCb κ τ) : Prop :=
  tearing s.owner = some .joining ∧ s.worker = .processing ∧
    ∃ gstreamer, s.gstreamer = .alive gstreamer ∧
      gstreamer.worker.waits = true ∧ gstreamer.finishing = false

theorem finishing_of_step {gstreamer next : State τ} {act : Act τ}
    {made : List (Event τ)}
    (step : (machine τ config).step gstreamer act = some (next, made))
    (before : gstreamer.finishing = true) : next.finishing = true := by
  cases act with
  | media =>
      obtain ⟨stage, here, taken⟩ := stepMedia_cases step
      cases taken with
      | stage =>
          rw [stage_same]
          exact before
      | _ => exact before
  | streamReady =>
      obtain ⟨stage, here, taken⟩ := stepStreamReady_cases step
      cases taken <;> exact before
  | worker =>
      obtain ⟨stage, here, taken⟩ := stepWorker_cases step
      cases taken <;> exact before
  | timeout =>
      obtain ⟨_, _, _, rfl, _⟩ := stepTimeout_cases step
      exact before
  | connect | write | finish | onStreamReady | onTranscriptEvent | onResponse =>
      exact (call_cases rfl step).called.finishing before

theorem finishing_of_finish {gstreamer next : State τ} {made : List (Event τ)}
    (step : (machine τ config).step gstreamer .finish = some (next, made)) :
    next.finishing = true := by
  cases call_cases rfl step with
  | finishAgain before => exact before
  | finish => rfl

/-- A teardown between its request and its join. -/
def Teardown.asks : Teardown → Bool
  | .loading | .finishing | .joining => true
  | _ => false

structure Heeded (s : CapCb κ τ) : Prop where
  requested : ∀ stage, tearing s.owner = some stage → stage.asks = true →
    s.stopRequested = true
  told : tearing s.owner = some .joining → s.worker = .processing →
    ∀ gstreamer, s.gstreamer = .alive gstreamer → gstreamer.finishing = true

theorem heeded_fresh : Heeded (CapCb.fresh κ τ) := by
  constructor <;> simp [CapCb.fresh, tearing]

theorem Heeded.unasked
    (unasked : ∀ stage, tearing s.owner = some stage → stage.asks = false) :
    Heeded s := by
  constructor
  · intro stage here asks
    rw [unasked stage here] at asks
    cases asks
  · intro joining
    have asks := unasked .joining joining
    cases asks

theorem Heeded.same (held : Heeded s) (owner : s'.owner = s.owner)
    (requested : s'.stopRequested = s.stopRequested)
    (told : tearing s.owner = some .joining → s'.worker = .processing →
      ∀ gstreamer, s'.gstreamer = .alive gstreamer →
        gstreamer.finishing = true) : Heeded s' := by
  constructor
  · rw [owner, requested]
    exact held.requested
  · rw [owner]
    exact told

theorem Heeded.tear (held : Heeded s) (placed : Placed s)
    {stage stage' : Teardown} (here : tearing s.owner = some stage)
    (step : TeardownStep config s stage s' stage' events) :
    Heeded { s' with owner := retear s.owner stage' } := by
  have now : tearing (retear s.owner stage') = some stage' :=
    tearing_retear here
  have unasked (quiet : stage'.asks = false) :
      Heeded { s' with owner := retear s.owner stage' } := by
    apply Heeded.unasked
    intro other there
    rw [now] at there
    cases there
    exact quiet
  cases step with
  | request =>
      constructor
      · exact fun _ _ _ => rfl
      · intro joining
        rw [now] at joining
        cases joining
  | load shown =>
      constructor
      · exact fun _ _ _ => held.requested .loading here rfl
      · intro joining
        rw [now] at joining
        cases joining
  | loadNull hidden =>
      constructor
      · exact fun _ _ _ => held.requested .loading here rfl
      -- a worker that waits has published its GStreamer
      · intro _ worker gstreamer alive
        have pointed := placed.pointed
        dsimp only at worker alive
        rw [alive] at pointed
        have shown := pointed.published (.inr (.inr worker))
        rw [hidden] at shown
        cases shown
  | finish call =>
      obtain ⟨gstreamer, alive⟩ := placed.finishing here
      obtain ⟨next, made, taken, rfl, rfl⟩ := invoke_alive alive call
      constructor
      · exact fun _ _ _ => held.requested .finishing here rfl
      · intro _ _ gstreamer' alive'
        cases alive'
        exact finishing_of_finish taken
  | join | delete | deleteGone | skip | null | ungate | ungated | release =>
      exact unasked rfl

theorem Heeded.step (held : Heeded s) (placed : Placed s)
    {act : SessionAct κ τ}
    (step : (session κ τ config).step s act = some (s', events)) :
    Heeded s' := by
  cases sessionStep_cases step with
  | tear here taken => exact held.tear placed here taken
  | life | refuse | check | count | gate | configure | misconfigured | ungate
  | fail | release | attach => exact held.same rfl rfl held.told
  | create start =>
      exact held.same rfl rfl fun _ worker => by cases worker
  | uncreated | killed | orphan | cleaned | lock | lockClose | verify | yields
  | closed | torn | clear | unlock | frameLock | frameLoad | frameLoadNull
  | frameUnlock =>
      apply Heeded.unasked
      intro stage there
      cases there <;> rfl
  | frameCall owner made call =>
      obtain ⟨gstreamer, alive⟩ := placed.looping owner
      obtain ⟨next, made', taken, rfl, rfl⟩ := invoke_alive alive call
      exact held.same rfl rfl fun joining => by
        rw [owner] at joining
        cases joining
  | construct | throw | delay | publish | heed | exit =>
      exact held.same rfl rfl fun _ worker => by cases worker
  | connect worker call =>
      obtain ⟨gstreamer, alive⟩ := placed.running (by rw [worker]; rfl)
      obtain ⟨next, made, taken, rfl, rfl⟩ := invoke_alive alive call
      exact held.same rfl rfl fun _ worker => by cases worker
  | process worker unrequested =>
      refine held.same rfl rfl fun joining _ _ _ => ?_
      -- the stop that waits has set the flag the worker has just read
      have requested := held.requested .joining joining rfl
      rw [unrequested] at requested
      cases requested
  | finish worker call =>
      obtain ⟨gstreamer, alive⟩ := placed.running (by rw [worker]; rfl)
      obtain ⟨next, made, taken, rfl, rfl⟩ := invoke_alive alive call
      refine held.same rfl rfl fun _ _ gstreamer' alive' => ?_
      cases alive'
      exact finishing_of_finish taken
  | work worker made call =>
      obtain ⟨gstreamer, alive⟩ := placed.running (by rw [worker]; rfl)
      obtain ⟨next, made', taken, rfl, rfl⟩ := invoke_alive alive call
      refine held.same rfl rfl fun joining _ gstreamer' alive' => ?_
      cases alive'
      exact finishing_of_step taken (held.told joining worker gstreamer alive)
  | callback issued made call =>
      by_cases alive : ∃ gstreamer, s.gstreamer = .alive gstreamer
      · obtain ⟨gstreamer, alive⟩ := alive
        obtain ⟨next, made', taken, rfl, rfl⟩ := invoke_alive alive call
        refine held.same rfl rfl fun joining worker gstreamer' alive' => ?_
        cases alive'
        exact finishing_of_step taken (held.told joining worker gstreamer alive)
      · obtain ⟨rfl, rfl⟩ :=
          invoke_gone (fun gstreamer here => alive ⟨gstreamer, here⟩) call
        exact held

/-- In no reachable state of the module does a stop, a CLOSE callback or the
cleanup of a start wait for a worker that waits without having been told to
finish. -/
theorem stop_never_lost [DecidableEq κ] (config : Config)
    {s : Family.State (Module κ) (CapCb κ τ)}
    (reachable : (sessions κ τ config).machine.Reachable s) (n : Nat) :
    ¬ Stranded (s.parts n) := by
  obtain ⟨labels, trace, run⟩ := reachable
  obtain ⟨placed, heeded⟩ := (Family.run_any run n).invariant
    (fun state => Placed state ∧ Heeded state) ⟨placed_fresh, heeded_fresh⟩
    fun held _ step => ⟨held.1.step step, held.2.step held.1 step⟩
  rintro ⟨joining, worker, gstreamer, alive, _, unfinished⟩
  have told := heeded.told joining worker gstreamer alive
  rw [unfinished] at told
  cases told

/-- The stop gets to its join while the constructor still runs. -/
theorem stop_never_lost_of_early_stop :
    ∃ s, (sessions Nat Nat ⟨4, 2⟩).machine.Reachable s ∧
      tearing (s.parts 0).owner = some .joining ∧
      (s.parts 0).worker = .processing ∧ ¬ Stranded (s.parts 0) := by
  have executed : ((sessions Nat Nat ⟨4, 2⟩).machine.exec anyStep
      (sessions Nat Nat ⟨4, 2⟩).machine.initial
      (List.flatten [startsSession 0 7 true, stopsSession 0 0 7,
        [.part 0 (.stop true), .part 0 (.stop true), .part 0 (.thread true),
          .part 0 (.thread true), .part 0 (.thread true),
          .part 0 (.thread true), .part 0 (.thread true)]])).map
      (fun outcome => decide
        (tearing (outcome.1.parts 0).owner = some .joining ∧
          (outcome.1.parts 0).worker = .processing)) = some true := by
    decide
  obtain ⟨s, trace, run, observed⟩ := Machine.exists_run_of_exec _ executed
  have reachable : (sessions Nat Nat ⟨4, 2⟩).machine.Reachable s :=
    ⟨_, trace, run⟩
  obtain ⟨joining, worker⟩ := of_decide_eq_true observed
  exact ⟨s, reachable, joining, worker, stop_never_lost ⟨4, 2⟩ reachable 0⟩

end DrachtioModules.Aws

import DrachtioModules.Aws.GateCount
import DrachtioModules.Transcribe.Reaping

/-!
# Who deletes a GStreamer of mod_aws_transcribe

The worker that has made the GStreamer publishes it, and only then does it wait
for work and end.  So a teardown that has joined the worker finds in
`cb->streamer` every GStreamer there is.
-/

namespace DrachtioModules.Aws

open Transcribe (Life StartStage Control Notice Lifetime Owner Passage)

variable {κ τ : Type} {config : Config} {s s' : CapCb κ τ}
variable {events : List (SessionEvent κ τ)}

/-- The constructor and `connect()` throw nothing. -/
def nothrow (s : CapCb κ τ) : SessionAct κ τ → Bool
  | .thread ok => ok || decide (s.worker ≠ .entered ∧ s.worker ≠ .constructed)
  | _ => true

def CapCb.object (s : CapCb κ τ) : Transcribe.Object :=
  match s.gstreamer with
  | .absent => .absent
  | .alive _ => .alive
  | .deleted => .deleted

def SessionEvent.lifetime? : SessionEvent κ τ → Option Lifetime
  | .lifetime event => some event
  | .notice _ | .counted | .released | .gstreamer _ => none

theorem no_lifetimes (notices : List (Notice κ)) (made : List (Event τ)) :
    (notices.map .notice : List (SessionEvent κ τ)).filterMap
        SessionEvent.lifetime? = [] ∧
      (made.map .gstreamer : List (SessionEvent κ τ)).filterMap
        SessionEvent.lifetime? = [] := by
  constructor
  · apply List.filterMap_eq_nil_iff.mpr
    intro event member
    obtain ⟨notice, _, rfl⟩ := List.mem_map.mp member
    rfl
  · apply List.filterMap_eq_nil_iff.mpr
    intro event member
    obtain ⟨inside, _, rfl⟩ := List.mem_map.mp member
    rfl

structure Reapable (s : CapCb κ τ) : Prop where
  unleaked : ∀ gstreamer, s.gstreamer = .alive gstreamer →
    s.streamer = false → s.worker = .constructed ∨ s.worker = .publishing
  nulling : tearing s.owner = some .nulling → s.gstreamer = .deleted
  joining : tearing s.owner = some .joining → s.thread = true
  gone : s.gstreamer = .deleted → s.thread = false

theorem reapable_fresh : Reapable (CapCb.fresh κ τ) := by
  constructor <;> simp [CapCb.fresh, tearing]

/-- The session after a step, and what the step did to the GStreamer and to the
worker. -/
def Goes (s s' : CapCb κ τ) (events : List (SessionEvent κ τ)) : Prop :=
  Reapable s' ∧ Passage s.object s.thread s'.object s'.thread
    (events.filterMap SessionEvent.lifetime?)

/-- A step of a start, of a stop or of a frame that leaves the pointer, the
GStreamer and the worker alone. -/
theorem Reapable.move (reapable : Reapable s) {life : Life κ Init}
    {vad stopRequested gateCounted : Bool}
    {owner : Owner Frame Critical Teardown}
    (nulling : tearing owner = some .nulling →
      tearing s.owner = some .nulling)
    (joining : tearing owner = some .joining → s.thread = true)
    (quiet : events.filterMap SessionEvent.lifetime? = []) :
    Goes s { s with
      life := life
      vad := vad
      stopRequested := stopRequested
      gateCounted := gateCounted
      owner := owner } events := by
  refine ⟨⟨reapable.unleaked, fun here => reapable.nulling (nulling here),
    joining, reapable.gone⟩, ?_⟩
  rw [quiet]
  exact .still

theorem Reapable.own (reapable : Reapable s) {life : Life κ Init}
    {owner : Owner Frame Critical Teardown}
    (after : tearing owner = none ∨ tearing owner = some .requesting)
    (quiet : events.filterMap SessionEvent.lifetime? = []) :
    Goes s { s with life := life, owner := owner } events := by
  refine reapable.move (fun here => ?_) (fun here => ?_) quiet <;>
    rcases after with none | requesting <;> simp_all

theorem Reapable.advance (reapable : Reapable s) {life : Life κ Init}
    {vad gateCounted : Bool}
    (quiet : events.filterMap SessionEvent.lifetime? = []) :
    Goes s { s with life := life, vad := vad, gateCounted := gateCounted }
      events :=
  reapable.move id reapable.joining quiet

theorem Reapable.work (reapable : Reapable s) {worker : Thread}
    {object : Object τ} {streamer : Bool} {request : Request}
    (before : s.gstreamer ≠ .deleted) (after : object ≠ .deleted)
    (unleaked : ∀ gstreamer, object = .alive gstreamer → streamer = false →
      worker = .constructed ∨ worker = .publishing) :
    Reapable { s with
      worker := worker
      gstreamer := object
      streamer := streamer
      request := request } :=
  { unleaked := unleaked
    nulling := fun nulling => (before (reapable.nulling nulling)).elim
    joining := reapable.joining
    gone := fun deleted => (after deleted).elim }

theorem Reapable.call (reapable : Reapable s) {gstreamer next : State τ}
    {made : List (Event τ)} {worker : Thread} {streamer : Bool}
    {request : Request} (alive : s.gstreamer = .alive gstreamer)
    (unleaked : streamer = false →
      worker = .constructed ∨ worker = .publishing) :
    Goes s { s with
      worker := worker
      gstreamer := .alive next
      streamer := streamer
      request := request } (made.map .gstreamer) := by
  refine ⟨reapable.work (by simp [alive]) (by simp) fun _ _ => unleaked, ?_⟩
  rw [(no_lifetimes (κ := κ) [] made).2]
  unfold CapCb.object
  rw [alive]
  exact .still

theorem Reapable.stage (reapable : Reapable s) {stage stage' : Teardown}
    {stopRequested gateCounted : Bool} (here : tearing s.owner = some stage)
    (unnulled : stage' ≠ .nulling)
    (joining : stage' = .joining → s.thread = true)
    (quiet : events.filterMap SessionEvent.lifetime? = []) :
    Goes s { s with
      stopRequested := stopRequested
      gateCounted := gateCounted
      owner := retear s.owner stage' } events := by
  have now : tearing (retear s.owner stage') = some stage' :=
    tearing_retear here
  refine reapable.move ?_ ?_ quiet
  · rw [now]
    intro nulling
    cases nulling
    exact (unnulled rfl).elim
  · rw [now]
    intro joined
    cases joined
    exact joining rfl

theorem Reapable.tear (reapable : Reapable s) (placed : Placed s)
    {stage stage' : Teardown} (here : tearing s.owner = some stage)
    (step : TeardownStep config s stage s' stage' events) :
    Goes s { s' with owner := retear s.owner stage' } events := by
  have now : tearing (retear s.owner stage') = some stage' :=
    tearing_retear here
  have unnulled : s.join ≠ .nulling := by
    unfold CapCb.join
    split <;> simp
  have joining : s.join = .joining → s.thread = true := by
    unfold CapCb.join
    split
    · rename_i running
      exact fun _ => running
    · intro killing
      cases killing
  cases step with
  | request | load | skip | ungate | ungated | release =>
      exact reapable.stage here (by simp) (by simp) rfl
  | loadNull => exact reapable.stage here unnulled joining rfl
  | finish call =>
      obtain ⟨gstreamer, alive⟩ := placed.finishing here
      obtain ⟨next, made, _, rfl, rfl⟩ := invoke_alive alive call
      refine ⟨⟨?_, ?_, ?_, ?_⟩, ?_⟩
      · exact fun _ _ hidden => reapable.unleaked gstreamer alive hidden
      · intro nulling
        exact (unnulled (Option.some.inj (now.symm.trans nulling))).elim
      · intro joined
        exact joining (Option.some.inj (now.symm.trans joined))
      · intro deleted
        cases deleted
      · rw [(no_lifetimes (κ := κ) [] made).2]
        unfold CapCb.object
        rw [alive]
        exact .still
  | join exited =>
      have running := reapable.joining here
      refine ⟨⟨reapable.unleaked, ?_, ?_, fun _ => rfl⟩, .join running ?_⟩
      · intro nulling
        cases now.symm.trans nulling
      · intro joined
        cases now.symm.trans joined
      · unfold CapCb.object
        split
        · simp
        · simp
        · rename_i deleted
          rw [reapable.gone deleted] at running
          cases running
  | delete shown alive =>
      have idle := placed.joined _ here rfl
      refine ⟨⟨?_, fun _ => rfl, ?_, fun _ => idle⟩, .delete (.inl ?_) idle⟩
      · intro _ living
        cases living
      · intro joined
        cases now.symm.trans joined
      · unfold CapCb.object
        rw [alive]
  | deleteGone shown gone =>
      obtain ⟨gstreamer, alive⟩ := placed.alive shown (by simp [here])
      exact (gone gstreamer alive).elim
  | null =>
      have deleted := reapable.nulling here
      refine ⟨⟨?_, ?_, ?_, reapable.gone⟩, .still⟩
      · intro _ living
        dsimp only at living
        rw [deleted] at living
        cases living
      · exact fun _ => deleted
      · intro joined
        cases now.symm.trans joined

theorem Reapable.step (reapable : Reapable s) (placed : Placed s)
    {act : SessionAct κ τ} (allowed : nothrow s act = true)
    (step : (session κ τ config).step s act = some (s', events)) :
    Goes s s' events := by
  cases sessionStep_cases step with
  | life => exact reapable.advance (no_lifetimes _ ([] : List (Event τ))).1
  | tear here taken => exact reapable.tear placed here taken
  | refuse | check | count | gate | configure | misconfigured | ungate | fail
  | release | attach =>
      exact reapable.advance rfl
  | create start =>
      have fresh := placed.early (by rw [start]; rfl)
      have free := placed.unowned (by rw [start]; rfl)
      have unmade : s.gstreamer ≠ .deleted ∧
          ∀ gstreamer, s.gstreamer ≠ .alive gstreamer := by
        have pointed := placed.pointed
        rw [fresh.1] at pointed
        cases object : s.gstreamer with
        | absent => simp
        | alive gstreamer =>
            rw [object] at pointed
            cases shown : s.streamer <;> simp [shown, Pointed] at pointed
        | deleted =>
            rw [object] at pointed
            cases pointed
      refine ⟨⟨?_, ?_, fun _ => rfl, ?_⟩, .spawn fresh.2 ?_⟩
      · exact fun gstreamer alive => (unmade.2 gstreamer alive).elim
      · simp [free, tearing]
      · exact fun deleted => (unmade.1 deleted).elim
      · unfold CapCb.object
        split
        · simp
        · simp
        · rename_i deleted
          exact (unmade.1 deleted).elim
  | uncreated => exact reapable.move (by simp [tearing]) (by simp [tearing]) rfl
  | killed | cleaned | yields | closed | torn | clear | unlock | frameLock
  | frameLoadNull | frameUnlock | lock =>
      exact reapable.own (.inl rfl) rfl
  | orphan | lockClose | verify => exact reapable.own (.inr rfl) rfl
  | frameLoad => exact reapable.move (by simp [tearing]) (by simp [tearing]) rfl
  | frameCall owner made call =>
      obtain ⟨gstreamer, alive⟩ := placed.looping owner
      obtain ⟨next, made', _, rfl, rfl⟩ := invoke_alive alive call
      exact reapable.call alive (reapable.unleaked gstreamer alive)
  -- aws_transcribe_thread
  | construct worker =>
      have pointed := placed.pointed
      rw [worker] at pointed
      have absent := pointed.entered.1
      refine ⟨reapable.work (by simp [absent]) (by simp) fun _ _ _ => .inl rfl,
        .create ?_⟩
      unfold CapCb.object
      rw [absent]
  | throw worker =>
      rcases worker with worker | worker <;> simp [nothrow, worker] at allowed
  | delay worker =>
      obtain ⟨gstreamer, alive⟩ := placed.running (by rw [worker]; rfl)
      exact ⟨reapable.work (by simp [alive]) (by simp [alive])
        fun _ _ _ => .inr rfl, .still⟩
  | connect worker call =>
      obtain ⟨gstreamer, alive⟩ := placed.running (by rw [worker]; rfl)
      obtain ⟨next, made, _, rfl, rfl⟩ := invoke_alive alive call
      exact reapable.call alive fun _ => .inr rfl
  | publish worker =>
      obtain ⟨gstreamer, alive⟩ := placed.running (by rw [worker]; rfl)
      refine ⟨reapable.work (by simp [alive]) (by simp [alive]) ?_, .still⟩
      intro _ _ hidden
      cases hidden
  | heed worker | process worker | exit worker =>
      obtain ⟨gstreamer, alive⟩ := placed.running (by rw [worker]; rfl)
      have pointed := placed.pointed
      rw [alive] at pointed
      have shown := pointed.published (by simp [worker])
      refine ⟨reapable.work (by simp [alive]) (by simp [alive]) ?_, .still⟩
      intro _ _ hidden
      rw [shown] at hidden
      cases hidden
  | finish worker call =>
      obtain ⟨gstreamer, alive⟩ := placed.running (by rw [worker]; rfl)
      obtain ⟨next, made, _, rfl, rfl⟩ := invoke_alive alive call
      have pointed := placed.pointed
      rw [alive] at pointed
      have shown := pointed.published (by simp [worker])
      refine reapable.call alive ?_
      rw [shown]
      intro hidden
      cases hidden
  | work worker made call =>
      obtain ⟨gstreamer, alive⟩ := placed.running (by rw [worker]; rfl)
      obtain ⟨next, made', _, rfl, rfl⟩ := invoke_alive alive call
      exact reapable.call alive (reapable.unleaked gstreamer alive)
  | callback issued made call =>
      by_cases alive : ∃ gstreamer, s.gstreamer = .alive gstreamer
      · obtain ⟨gstreamer, alive⟩ := alive
        obtain ⟨next, made', _, rfl, rfl⟩ := invoke_alive alive call
        exact reapable.call alive (reapable.unleaked gstreamer alive)
      · obtain ⟨rfl, rfl⟩ :=
          invoke_gone (fun gstreamer here => alive ⟨gstreamer, here⟩) call
        exact ⟨reapable, .stray (by simp)⟩

theorem Reapable.settled (reapable : Reapable s) (placed : Placed s)
    (gated : Gated s) (ended : s.life.ended) :
    s.object = .absent ∨ s.object = .deleted := by
  have uncounted := gated.released (.inr (.inr (.inr ended)))
  have idle : s.thread = false ∧ s.streamer = false := by
    constructor
    · by_contra running
      rw [gated.held (.inl (by simpa using running))] at uncounted
      cases uncounted
    · by_contra shown
      rw [gated.held (.inr (by simpa using shown))] at uncounted
      cases uncounted
  unfold CapCb.object
  cases object : s.gstreamer with
  | absent => exact .inl rfl
  | deleted => exact .inr rfl
  | alive gstreamer =>
      have exited := placed.unthreaded idle.1
      rcases reapable.unleaked gstreamer object idle.2 with worker | worker <;>
        simp [worker] at exited

theorem reaped_of_run {labels : List (SessionAct κ τ)}
    {trace : List (SessionEvent κ τ)}
    (run : (session κ τ config).Run nothrow (session κ τ config).initial labels
      trace s) :
    Transcribe.ReapedOnce (trace.filterMap SessionEvent.lifetime?)
      s.life.ended := by
  have recorded := Transcribe.recorded_of_run run
    (fun s => Placed s ∧ Gated s ∧ Reapable s) CapCb.object
    (fun s => s.thread) SessionEvent.lifetime?
    ⟨placed_fresh, gated_fresh, reapable_fresh⟩ Transcribe.recorded_fresh ?_
  · obtain ⟨⟨placed, gated, reapable⟩, recorded⟩ := recorded
    exact recorded.reaped (reapable.settled placed gated)
  · rintro s s' act events ⟨placed, gated, reapable⟩ allowed step
    obtain ⟨kept, passage⟩ := reapable.step placed allowed step
    exact ⟨⟨placed.step step, gated.step placed step, kept⟩, passage⟩

end DrachtioModules.Aws

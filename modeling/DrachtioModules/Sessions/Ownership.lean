import DrachtioModules.Sessions.Steps

/-!
# Who may touch what

The facts that hold of every interleaving of either module: a bug in the channel
private was stored by its start, a cleanup past its lock holds the mutex of the
`private_t` it resolved, and a bug is attached and closed at most once.
-/

namespace DrachtioModules.Sessions

/-- The start has stored its bug in the channel private. -/
def StartStage.stored : StartStage → Bool
  | .published | .connecting | .returned true => true
  | _ => false

/-- The start has attached its bug. -/
def StartStage.added : StartStage → Bool
  | .attached | .published | .connecting | .returned true => true
  | _ => false

theorem StartStage.added_of_stored {stage : StartStage}
    (stored : stage.stored = true) : stage.added = true := by
  cases stage with
  | published | connecting => rfl
  | returned success => cases success <;> simp_all [StartStage.stored, StartStage.added]
  | _ => cases stored

/-- The start has not gone past its check of the channel private. -/
def StartStage.early : StartStage → Bool
  | .notCalled | .entered => true
  | _ => false

theorem StartStage.late_of_stored {stage : StartStage}
    (stored : stage.stored = true) : stage.early = false := by
  cases stage with
  | notCalled | entered => cases stored
  | _ => rfl

/-- The bug a cleanup in progress resolved. -/
def CleanupStage.bug : CleanupStage → Option Nat
  | .resolved bug | .locked bug | .verified bug _ | .cleared bug _
  | .handing bug _ | .destroying bug _ | .unlocked bug _ => some bug
  | _ => none

/-- The `private_t` whose mutex a cleanup in progress holds. -/
def CleanupStage.holds : CleanupStage → Option Nat
  | .locked bug | .verified bug _ | .cleared bug _ | .handing bug _
  | .destroying bug _ => some bug
  | _ => none

theorem CleanupStage.bug_of_holds {stage : CleanupStage} {n : Nat}
    (holds : stage.holds = some n) : stage.bug = some n := by
  cases stage <;> simp_all [CleanupStage.holds, CleanupStage.bug]

structure Owned (c : Control) : Prop where
  uncalled : ∀ n, c.idxCallCount ≤ n → c.starts n = .notCalled
  slot : ∀ n, c.slot = some n → (c.starts n).stored = true
  resolved : ∀ caller n, (c.cleanups caller).stage.bug = some n →
    (c.starts n).stored = true
  holds : ∀ caller n, (c.cleanups caller).stage.holds = some n →
    (c.techPvts n).mutex = some caller
  bugs : ∀ n, n ∈ c.bugs → (c.starts n).added = true ∧
    (c.cleanups (.close n)).stage = .notCalled
  closed : ∀ n, (c.cleanups (.close n)).stage ≠ .notCalled →
    (c.starts n).added = true
  unasked : ∀ n, (c.starts n).early = true →
    (c.cleanups (.start n)).stage = .notCalled

theorem owned_fresh : Owned .fresh := by
  constructor <;> simp [Control.fresh, CleanupStage.bug, CleanupStage.holds]

theorem Owned.below {c : Control} (owned : Owned c) {n : Nat}
    (called : c.starts n ≠ .notCalled) : n < c.idxCallCount := by
  by_contra beyond
  exact called (owned.uncalled n (Nat.le_of_not_lt beyond))

namespace Control

variable {c : Control}

theorem starts_setStart {n m : Nat} {stage : StartStage} :
    (c.setStart n stage).starts m = if m = n then stage else c.starts m :=
  Function.update_apply ..

theorem cleanups_setCleanup {caller other : Caller} {stage : CleanupStage} :
    (c.setCleanup caller stage).cleanups other =
      if other = caller then ⟨(c.cleanups caller).text, stage⟩
      else c.cleanups other :=
  Function.update_apply ..

theorem cleanups_call {caller other : Caller} {text : Option AudioFork.Bytes}
    {stage : CleanupStage} :
    (c.call caller text stage).cleanups other =
      if other = caller then ⟨text, stage⟩ else c.cleanups other :=
  Function.update_apply ..

theorem techPvts_setTechPvt {n m : Nat} {techPvt : TechPvt} :
    (c.setTechPvt n techPvt).techPvts m =
      if m = n then techPvt else c.techPvts m :=
  Function.update_apply ..

end Control

theorem Owned.setStart {c : Control} (owned : Owned c) {n : Nat}
    {stage : StartStage} (called : c.starts n ≠ .notCalled)
    (late : stage.early = false)
    (stored : (c.starts n).stored = true → stage.stored = true)
    (added : (c.starts n).added = true → stage.added = true) :
    Owned (c.setStart n stage) := by
  have still : ∀ m, (c.starts m).stored = true →
      ((c.setStart n stage).starts m).stored = true := by
    intro m before
    rw [Control.starts_setStart]
    split
    · rename_i same
      exact stored (same ▸ before)
    · exact before
  have attached : ∀ m, (c.starts m).added = true →
      ((c.setStart n stage).starts m).added = true := by
    intro m before
    rw [Control.starts_setStart]
    split
    · rename_i same
      exact added (same ▸ before)
    · exact before
  refine ⟨?_, ?_, ?_, owned.holds, ?_, ?_, ?_⟩
  · intro m later
    rw [Control.starts_setStart]
    split
    · rename_i same
      exact (called (same ▸ owned.uncalled m later)).elim
    · exact owned.uncalled m later
  · intro m here
    exact still m (owned.slot m here)
  · intro caller m here
    exact still m (owned.resolved caller m here)
  · intro m here
    exact ⟨attached m (owned.bugs m here).1, (owned.bugs m here).2⟩
  · intro m here
    exact attached m (owned.closed m here)
  · intro m here
    rw [Control.starts_setStart] at here
    split at here
    · rw [late] at here
      cases here
    · exact owned.unasked m here

theorem Owned.early {c : Control} (owned : Owned c) {n : Nat}
    {stage : StartStage} (called : c.starts n ≠ .notCalled)
    (late : stage.early = false) (early : (c.starts n).added = false) :
    Owned (c.setStart n stage) := by
  refine owned.setStart called late ?_ ?_
  · intro stored
    rw [StartStage.added_of_stored stored] at early
    cases early
  · intro added
    rw [added] at early
    cases early

theorem Owned.setCleanup {c : Control} (owned : Owned c) {caller : Caller}
    {stage : CleanupStage}
    (called : (c.cleanups caller).stage ≠ .notCalled)
    (bug : ∀ n, stage.bug = some n → (c.starts n).stored = true)
    (holds : ∀ n, stage.holds = some n → (c.techPvts n).mutex = some caller) :
    Owned (c.setCleanup caller stage) := by
  refine ⟨owned.uncalled, owned.slot, ?_, ?_, ?_, ?_, ?_⟩
  · intro other n here
    rw [Control.cleanups_setCleanup] at here
    split at here
    · exact bug n here
    · exact owned.resolved other n here
  · intro other n here
    rw [Control.cleanups_setCleanup] at here
    split at here
    · rename_i same
      exact same ▸ holds n here
    · exact owned.holds other n here
  · intro n here
    have before := owned.bugs n here
    refine ⟨before.1, ?_⟩
    rw [Control.cleanups_setCleanup]
    split
    · rename_i same
      exact (called (same ▸ before.2)).elim
    · exact before.2
  · intro n here
    rw [Control.cleanups_setCleanup] at here
    split at here
    · rename_i same
      exact owned.closed n (same ▸ called)
    · exact owned.closed n here
  · intro n here
    have before := owned.unasked n here
    rw [Control.cleanups_setCleanup]
    split
    · rename_i same
      exact (called (same ▸ before)).elim
    · exact before

theorem Owned.proceed {c : Control} (owned : Owned c) {caller : Caller}
    {stage : CleanupStage}
    (called : (c.cleanups caller).stage ≠ .notCalled)
    (bug : stage.bug = none ∨ stage.bug = (c.cleanups caller).stage.bug)
    (holds : stage.holds = none ∨
      stage.holds = (c.cleanups caller).stage.holds) :
    Owned (c.setCleanup caller stage) := by
  refine owned.setCleanup called ?_ ?_
  · intro n here
    rcases bug with none | same
    · rw [none] at here
      cases here
    · exact owned.resolved caller n (same ▸ here)
  · intro n here
    rcases holds with none | same
    · rw [none] at here
      cases here
    · exact owned.holds caller n (same ▸ here)

/-- A `private_t` is updated by the call that holds its mutex, or without
touching the mutex. -/
theorem Owned.setTechPvt {c : Control} (owned : Owned c) {n : Nat}
    {techPvt : TechPvt}
    (mutex : ∀ caller, (c.cleanups caller).stage.holds = some n →
      techPvt.mutex = some caller) :
    Owned (c.setTechPvt n techPvt) := by
  refine ⟨owned.uncalled, owned.slot, owned.resolved, ?_, owned.bugs,
    owned.closed, owned.unasked⟩
  intro caller m here
  rw [Control.techPvts_setTechPvt]
  split
  · rename_i same
    exact mutex caller (same ▸ here)
  · exact owned.holds caller m here

theorem Owned.unlock {c : Control} (owned : Owned c) {caller : Caller}
    {bug : Nat} {techPvt : TechPvt} {stage : CleanupStage}
    (holds : (c.cleanups caller).stage.holds = some bug)
    (named : stage.bug = none ∨ stage.bug = some bug)
    (free : stage.holds = none) :
    Owned ((c.setTechPvt bug techPvt).setCleanup caller stage) := by
  have called : (c.cleanups caller).stage ≠ .notCalled := by
    intro absent
    rw [absent] at holds
    cases holds
  have known := CleanupStage.bug_of_holds holds
  have moved : Owned (c.setCleanup caller stage) :=
    owned.proceed called (by rw [known]; exact named) (.inl free)
  have freed : Owned ((c.setCleanup caller stage).setTechPvt bug techPvt) := by
    refine moved.setTechPvt ?_
    intro other here
    rw [Control.cleanups_setCleanup] at here
    split at here
    · rw [free] at here
      cases here
    · rename_i different
      have mine := owned.holds caller bug holds
      rw [owned.holds other bug here] at mine
      cases mine
      exact (different rfl).elim
  exact freed

theorem Owned.call {c : Control} (owned : Owned c) {caller : Caller}
    {text : Option AudioFork.Bytes} {stage : CleanupStage}
    (bug : stage.bug = none) (holds : stage.holds = none)
    (outside : caller.closing = false)
    (late : ∀ n, caller = .start n → (c.starts n).early = false) :
    Owned (c.call caller text stage) := by
  have different : ∀ n, Caller.close n ≠ caller := by
    rintro n rfl
    cases outside
  refine ⟨owned.uncalled, owned.slot, ?_, ?_, ?_, ?_, ?_⟩
  · intro other n here
    rw [Control.cleanups_call] at here
    split at here
    · rw [bug] at here
      cases here
    · exact owned.resolved other n here
  · intro other n here
    rw [Control.cleanups_call] at here
    split at here
    · rw [holds] at here
      cases here
    · exact owned.holds other n here
  · intro n here
    rw [Control.cleanups_call, if_neg (different n)]
    exact owned.bugs n here
  · intro n here
    rw [Control.cleanups_call, if_neg (different n)] at here
    exact owned.closed n here
  · intro n here
    rw [Control.cleanups_call]
    split
    · rename_i same
      have early : (c.starts n).early = true := here
      rw [late n same.symm] at early
      cases early
    · exact owned.unasked n here

theorem Owned.detach {c : Control} (owned : Owned c) {bug : Nat}
    (present : bug ∈ c.bugs) : Owned (c.detach bug) := by
  refine ⟨owned.uncalled, owned.slot, ?_, ?_, ?_, ?_, ?_⟩
  · intro other n here
    rw [Control.detach, Control.cleanups_call] at here
    split at here
    · cases here
    · exact owned.resolved other n here
  · intro other n here
    rw [Control.detach, Control.cleanups_call] at here
    split at here
    · cases here
    · exact owned.holds other n here
  · intro n here
    simp only [Control.detach, Control.call, List.mem_filter,
      bne_iff_ne] at here
    rw [Control.detach, Control.cleanups_call,
      if_neg (by simpa using here.2)]
    exact owned.bugs n here.1
  · intro n here
    rw [Control.detach, Control.cleanups_call] at here
    split at here
    · rename_i same
      cases same
      exact (owned.bugs bug present).1
    · exact owned.closed n here
  · intro n here
    rw [Control.detach, Control.cleanups_call, if_neg (by simp)]
    exact owned.unasked n here

theorem Owned.attach {c : Control} (owned : Owned c) {n : Nat}
    (stage : c.starts n = .adding) :
    Owned ({ c with bugs := n :: c.bugs }.setStart n .attached) := by
  have moved : Owned (c.setStart n .attached) :=
    owned.setStart (by simp [stage]) rfl (by simp [stage, StartStage.stored])
      (fun _ => rfl)
  have unclosed : (c.cleanups (.close n)).stage = .notCalled := by
    by_contra called
    have added := owned.closed n called
    simp [stage, StartStage.added] at added
  refine ⟨moved.uncalled, moved.slot, moved.resolved, moved.holds, ?_,
    moved.closed, moved.unasked⟩
  intro m here
  rcases List.mem_cons.mp here with rfl | before
  · refine ⟨?_, unclosed⟩
    simp [Control.setStart, StartStage.added]
  · exact moved.bugs m before

theorem Owned.store {c : Control} (owned : Owned c) {n : Nat}
    {stage : StartStage} (before : c.starts n = .attached)
    (stored : stage.stored = true) :
    Owned ({ c with slot := some n }.setStart n stage) := by
  have moved : Owned (c.setStart n stage) :=
    owned.setStart (by simp [before]) (StartStage.late_of_stored stored)
      (fun _ => stored) (fun _ => StartStage.added_of_stored stored)
  refine ⟨moved.uncalled, ?_, moved.resolved, moved.holds, moved.bugs,
    moved.closed, moved.unasked⟩
  intro m here
  cases here
  simpa [Control.setStart] using stored

theorem Owned.clearSlot {c : Control} (owned : Owned c) :
    Owned { c with slot := none } :=
  ⟨owned.uncalled, by simp, owned.resolved, owned.holds, owned.bugs,
    owned.closed, owned.unasked⟩

theorem Owned.callStart {c : Control} (owned : Owned c)
    (metadata : AudioFork.Bytes) :
    Owned (({ c with idxCallCount := c.idxCallCount + 1 }.setTechPvt
      c.idxCallCount
      { c.techPvts c.idxCallCount with initialMetadata := metadata }).setStart
        c.idxCallCount .entered) := by
  have absent := owned.uncalled c.idxCallCount (Nat.le_refl _)
  have named : ∀ n, (c.starts n).stored = true ∨ (c.starts n).added = true →
      n ≠ c.idxCallCount := by
    rintro n before rfl
    rw [absent] at before
    simp [StartStage.stored, StartStage.added] at before
  refine ⟨?_, ?_, ?_, ?_, ?_, ?_, ?_⟩
  · intro n later
    have different : n ≠ c.idxCallCount := by
      rintro rfl
      exact Nat.not_succ_le_self _ later
    rw [Control.starts_setStart, if_neg different]
    exact owned.uncalled n (Nat.le_of_succ_le later)
  · intro n here
    have before := owned.slot n here
    rw [Control.starts_setStart, if_neg (named n (.inl before))]
    exact before
  · intro caller n here
    have before := owned.resolved caller n here
    rw [Control.starts_setStart, if_neg (named n (.inl before))]
    exact before
  · intro caller n here
    have before := owned.resolved caller n (CleanupStage.bug_of_holds here)
    dsimp only [Control.setStart]
    rw [Control.techPvts_setTechPvt, if_neg (named n (.inl before))]
    exact owned.holds caller n here
  · intro n here
    have before := owned.bugs n here
    rw [Control.starts_setStart, if_neg (named n (.inr before.1))]
    exact before
  · intro n here
    have before := owned.closed n here
    rw [Control.starts_setStart, if_neg (named n (.inr before))]
    exact before
  · intro n here
    rw [Control.starts_setStart] at here
    split at here
    · rename_i same
      subst same
      exact owned.unasked _ (by rw [absent]; rfl)
    · exact owned.unasked n here

/-- The events of reapers and of the service thread. -/
def Event.ofPipe : Event → Bool
  | .released _ | .finish _ | .arrived _ _ | .handled _ _ _ _
  | .metadataSent _ _ _ | .closed _ => true
  | _ => false

theorem reaper_setPipe {s : State} {n : Nat} {pipe : Pipe}
    (reaper : pipe.reaper = (s.pipes n).reaper) (m : Nat) :
    ((s.setPipe n pipe).pipes m).reaper = (s.pipes m).reaper := by
  by_cases same : m = n
  · subst same
    simpa [State.setPipe] using reaper
  · simp [State.setPipe, same]

theorem stepReaper_control {module : Module} {s s' : State} {n : Nat}
    {events : List Event} (step : stepReaper module s n = some (s', events)) :
    s'.control = s.control ∧ ∀ event ∈ events, event.ofPipe = true := by
  obtain ⟨_, _, taken⟩ := stepReaper_cases step
  cases taken <;> exact ⟨rfl, by simp [Event.ofPipe]⟩

theorem stepLws_control {s s' : State} {n : Nat} {report : Lws}
    {events : List Event} (step : stepLws s n report = some (s', events)) :
    s'.control = s.control ∧ ∀ event ∈ events, event.ofPipe = true := by
  obtain ⟨_, taken⟩ := stepLws_cases step
  cases taken <;> exact ⟨rfl, by simp [Event.ofPipe]⟩

theorem stepNotice_control {config : Config} {s s' : State} {n : Nat}
    {located : Bool} {events : List Event}
    (step : stepNotice config s n located = some (s', events)) :
    s'.control = s.control ∧ ∀ event ∈ events, event.ofPipe = true := by
  obtain ⟨_, _, taken⟩ := stepNotice_cases step
  cases taken <;> exact ⟨rfl, by simp [Event.ofPipe]⟩

theorem Owned.start {module : Module} {s s' : State} {n : Nat} {init : Init}
    {ok : Bool} {events : List Event} (owned : Owned s.control)
    (step : stepStart module s n init ok = some (s', events)) :
    Owned s'.control := by
  have kept : ∀ present, Owned (s.control.setTechPvt n
      { s.control.techPvts n with audioPipe := present }) :=
    fun _ => owned.setTechPvt fun caller here => owned.holds caller n here
  obtain ⟨_, stage, taken⟩ := stepStart_cases step
  have called : s.control.starts n ≠ .notCalled := by
    rw [stage]
    cases taken <;> simp
  cases taken with
  | replace =>
      have moved : Owned (s.control.setStart n .replacing) :=
        owned.early called rfl (by rw [stage]; rfl)
      apply moved.call rfl rfl rfl
      intro m same
      cases same
      simp [Control.setStart, StartStage.early]
  | construct =>
      have early : (s.control.starts n).added = false := by rw [stage]; rfl
      exact (kept true).early called rfl early
  | abandon | abandonNull | hand =>
      have early : (s.control.starts n).added = false := by rw [stage]; rfl
      exact (kept false).early called rfl early
  | attach => exact owned.attach stage
  | publish | store => exact owned.store stage rfl
  | reach | reachNull | connect =>
      exact owned.setStart called rfl (fun _ => rfl) (fun _ => rfl)
  | _ => exact owned.early called rfl (by rw [stage]; rfl)

theorem Owned.cleanup {module : Module} {s s' : State} {caller : Caller}
    {events : List Event} (owned : Owned s.control)
    (step : stepCleanup module s caller = some (s', events)) :
    Owned s'.control := by
  obtain ⟨_, stage, taken⟩ := stepCleanup_cases step
  have called : (s.control.cleanups caller).stage ≠ .notCalled := by
    rw [stage]
    cases taken <;> simp
  cases taken with
  | @resolve bug slot =>
      apply owned.setCleanup called
      · intro n here
        cases here
        exact owned.slot bug slot
      · intro n here
        cases here
  | @lock bug free =>
      have taken : Owned (s.control.setTechPvt bug
          { s.control.techPvts bug with mutex := some caller }) := by
        apply owned.setTechPvt
        intro other here
        rw [owned.holds other bug here] at free
        cases free
      apply taken.setCleanup called
      · intro n here
        cases here
        exact owned.resolved caller bug (by rw [stage]; rfl)
      · intro n here
        cases here
        simp [Control.setTechPvt]
  | yields => exact owned.unlock (by rw [stage]; rfl) (.inl rfl) rfl
  | verify | send | sendNothing | handNull =>
      exact owned.proceed called (.inr (by rw [stage]; rfl))
        (.inr (by rw [stage]; rfl))
  | clear =>
      apply owned.clearSlot.proceed called
      · simp [stage, CleanupStage.bug]
      · simp [stage, CleanupStage.holds]
  | @hand bug held present =>
      have kept : Owned (s.control.setTechPvt bug
          { s.control.techPvts bug with audioPipe := false }) :=
        owned.setTechPvt fun other here => owned.holds other bug here
      apply kept.proceed called
      · simp [Control.setTechPvt, stage, CleanupStage.bug]
      · simp [Control.setTechPvt, stage, CleanupStage.holds]
  | destroy | destroyNull => exact owned.unlock (by rw [stage]; rfl) (.inr rfl) rfl
  | remove outside attached =>
      apply (owned.detach attached).proceed _ (.inl rfl) (.inl rfl)
      rw [Control.detach, Control.cleanups_call]
      split
      · simp
      · exact called
  | _ => exact owned.proceed called (.inl rfl) (.inl rfl)

theorem Owned.step {config : Config} {s s' : State} {act : Act}
    {events : List Event} (owned : Owned s.control)
    (step : (machine config).step s act = some (s', events)) :
    Owned s'.control := by
  simp only [machine, Sessions.step] at step
  cases act with
  | callStart metadata =>
      cases step
      exact owned.callStart metadata
  | start n init ok => exact owned.start step
  | callStop call text =>
      dsimp only at step
      split at step
      · cases step
        refine owned.call ?_ ?_ rfl (by simp) <;> cases config.module <;> rfl
      · cases step
  | hangup bug =>
      dsimp only at step
      split at step
      · rename_i attached
        cases step
        exact owned.detach attached
      · cases step
  | cleanup caller => exact owned.cleanup step
  | reaper n =>
      rw [(stepReaper_control step).1]
      exact owned
  | lws n report =>
      rw [(stepLws_control step).1]
      exact owned
  | notice n located =>
      rw [(stepNotice_control step).1]
      exact owned

end DrachtioModules.Sessions

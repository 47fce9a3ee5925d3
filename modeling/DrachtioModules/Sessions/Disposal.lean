import DrachtioModules.Sessions.Isolation

/-!
# Every pipe finds its reaper

A pipe that was created and not yet disposed of is in the hands of its start,
is reachable through the channel private, or is about to be handed over by a
cleanup that has just cleared it; and while the channel private names a bug, a
CLOSE callback for that bug is still to come.  Both are lost by a start that
stores its bug over another one, or after the CLOSE callback of its own bug has
found nothing.
-/

namespace DrachtioModules.Sessions

/-- The CLOSE callback of the bug has not read the channel private yet. -/
def closeToCome (c : Control) (bug : Nat) : Bool :=
  bug ∈ c.bugs || (c.cleanups (.close bug)).stage = .entered

/-- A start stores its bug in an empty channel private, before the CLOSE callback
of that bug reads it. -/
def storesInTime (s : State) : Act → Bool
  | .start n _ _ =>
      s.control.starts n != .attached ||
        (s.control.slot = none && closeToCome s.control n)
  | _ => true

/-- A cleanup hands over no pipe whose start is between storing its bug and
`fork_session_connect`. -/
def handsConnected (s : State) (caller : Caller) : Bool :=
  match (s.control.cleanups caller).stage with
  | .handing bug _ => s.control.starts bug != .published
  | _ => true

/-- The pipe is known to its start alone. -/
def StartStage.building : StartStage → Bool
  | .constructed | .counting | .adding | .orphaned | .attached => true
  | _ => false

/-- The start still relies on its pipe. -/
def StartStage.relies : StartStage → Bool
  | .constructed | .counting | .adding | .orphaned | .attached | .published =>
      true
  | _ => false

/-- The `private_t` a cleanup is about to hand over. -/
def CleanupStage.owing : CleanupStage → Option Nat
  | .verified bug _ | .cleared bug _ | .handing bug _ => some bug
  | _ => none

/-- A cleanup that is going to clear the channel private while it names `n`. -/
def CleanupStage.pursues (n : Nat) : CleanupStage → Bool
  | .entered => true
  | .resolved bug | .locked bug | .verified bug _ => bug = n
  | _ => false

structure Kept (c : Control) : Prop where
  relied : ∀ n, (c.starts n).relies = true → (c.techPvts n).audioPipe = true
  kept : ∀ n, (c.techPvts n).audioPipe = true →
    (c.starts n).building = true ∨ c.slot = some n ∨
      ∃ caller, (c.cleanups caller).stage.owing = some n
  pursued : ∀ n, c.slot = some n →
    n ∈ c.bugs ∨ (c.cleanups (.close n)).stage.pursues n = true
  destroyed : ∀ caller bug held,
    (c.cleanups caller).stage = .destroying bug held →
    (c.techPvts bug).audioPipe = false

theorem kept_fresh : Kept .fresh := by
  constructor <;> simp [Control.fresh, StartStage.relies]

theorem CleanupStage.bug_of_owing {stage : CleanupStage} {n : Nat}
    (owing : stage.owing = some n) : stage.bug = some n := by
  cases stage <;> simp_all [CleanupStage.owing, CleanupStage.bug]

theorem CleanupStage.holds_of_owing {stage : CleanupStage} {n : Nat}
    (owing : stage.owing = some n) : stage.holds = some n := by
  cases stage <;> simp_all [CleanupStage.owing, CleanupStage.holds]

theorem StartStage.unreliant {stage : StartStage} (stored : stage.stored = true)
    (connecting : stage ≠ .published) : stage.relies = false := by
  cases stage <;> simp_all [StartStage.stored, StartStage.relies]

theorem Kept.setStart {c : Control} (kept : Kept c) {n : Nat}
    {stage : StartStage}
    (building : (c.starts n).building = true → stage.building = true)
    (relies : stage.relies = true → (c.techPvts n).audioPipe = true) :
    Kept (c.setStart n stage) := by
  refine ⟨?_, ?_, kept.pursued, kept.destroyed⟩
  · intro m here
    rw [Control.starts_setStart] at here
    split at here
    · rename_i same
      exact same ▸ relies here
    · exact kept.relied m here
  · intro m present
    rw [Control.starts_setStart]
    split
    · rename_i same
      subst same
      rcases kept.kept m present with before | elsewhere
      · exact .inl (building before)
      · exact .inr elsewhere
    · exact kept.kept m present

theorem Kept.setCleanup {c : Control} (kept : Kept c) {caller : Caller}
    {stage : CleanupStage}
    (owing : ∀ n, (c.techPvts n).audioPipe = true →
      (c.cleanups caller).stage.owing = some n → stage.owing = some n)
    (pursues : ∀ n, caller = .close n → c.slot = some n →
      (c.cleanups caller).stage.pursues n = true → stage.pursues n = true)
    (destroys : ∀ bug held, stage = .destroying bug held →
      (c.techPvts bug).audioPipe = false) :
    Kept (c.setCleanup caller stage) := by
  refine ⟨kept.relied, ?_, ?_, ?_⟩
  · intro n present
    rcases kept.kept n present with building | slot | ⟨other, owes⟩
    · exact .inl building
    · exact .inr (.inl slot)
    · refine .inr (.inr ⟨other, ?_⟩)
      rw [Control.cleanups_setCleanup]
      split
      · rename_i same
        exact owing n present (same ▸ owes)
      · exact owes
  · intro n slot
    rw [Control.cleanups_setCleanup]
    rcases kept.pursued n slot with attached | follows
    · exact .inl attached
    · right
      split
      · rename_i same
        exact pursues n same.symm slot (same ▸ follows)
      · exact follows
  · intro other bug held here
    rw [Control.cleanups_setCleanup] at here
    split at here
    · exact destroys bug held here
    · exact kept.destroyed other bug held here

theorem Kept.call {c : Control} (kept : Kept c) {caller : Caller}
    {text : Option AudioFork.Bytes} {stage : CleanupStage}
    (idle : (c.cleanups caller).stage = .notCalled)
    (outside : caller.closing = false)
    (begins : stage = .asked ∨ stage = .entered) :
    Kept (c.call caller text stage) := by
  have different : ∀ n, Caller.close n ≠ caller := by
    rintro n rfl
    cases outside
  refine ⟨kept.relied, ?_, ?_, ?_⟩
  · intro n present
    rcases kept.kept n present with building | slot | ⟨other, owes⟩
    · exact .inl building
    · exact .inr (.inl slot)
    · refine .inr (.inr ⟨other, ?_⟩)
      rw [Control.cleanups_call]
      split
      · rename_i same
        rw [same, idle] at owes
        cases owes
      · exact owes
  · intro n slot
    rw [Control.cleanups_call, if_neg (different n)]
    exact kept.pursued n slot
  · intro other bug held here
    rw [Control.cleanups_call] at here
    split at here
    · rcases begins with rfl | rfl <;> cases here
    · exact kept.destroyed other bug held here

theorem Kept.detach {c : Control} (kept : Kept c) (owned : Owned c) {bug : Nat}
    (present : bug ∈ c.bugs) : Kept (c.detach bug) := by
  have idle := (owned.bugs bug present).2
  refine ⟨kept.relied, ?_, ?_, ?_⟩
  · intro n here
    rcases kept.kept n here with building | slot | ⟨other, owes⟩
    · exact .inl building
    · exact .inr (.inl slot)
    · refine .inr (.inr ⟨other, ?_⟩)
      rw [Control.detach, Control.cleanups_call]
      split
      · rename_i same
        rw [same, idle] at owes
        cases owes
      · exact owes
  · intro n slot
    rw [Control.detach, Control.cleanups_call]
    by_cases same : n = bug
    · subst same
      right
      simp [CleanupStage.pursues]
    · rw [if_neg (by simpa using same)]
      rcases kept.pursued n slot with attached | follows
      · left
        simpa [Control.call] using ⟨attached, same⟩
      · exact .inr follows
  · intro other n held here
    rw [Control.detach, Control.cleanups_call] at here
    split at here
    · cases here
    · exact kept.destroyed other n held here

theorem audioPipe_setTechPvt {c : Control} {n : Nat} {techPvt : TechPvt}
    (audioPipe : techPvt.audioPipe = (c.techPvts n).audioPipe) (m : Nat) :
    ((c.setTechPvt n techPvt).techPvts m).audioPipe =
      (c.techPvts m).audioPipe := by
  rw [Control.techPvts_setTechPvt]
  split
  · rename_i same
    rw [same, audioPipe]
  · rfl

theorem Kept.setTechPvt {c : Control} (kept : Kept c) {n : Nat}
    {techPvt : TechPvt}
    (audioPipe : techPvt.audioPipe = (c.techPvts n).audioPipe) :
    Kept (c.setTechPvt n techPvt) := by
  have same := audioPipe_setTechPvt audioPipe
  refine ⟨?_, ?_, kept.pursued, ?_⟩
  · intro m here
    rw [same]
    exact kept.relied m here
  · intro m here
    rw [same] at here
    exact kept.kept m here
  · intro caller bug held here
    rw [same]
    exact kept.destroyed caller bug held here

theorem Kept.drop {c : Control} (kept : Kept c) {n : Nat} {techPvt : TechPvt}
    (null : techPvt.audioPipe = false) (free : (c.starts n).relies = false) :
    Kept (c.setTechPvt n techPvt) := by
  have shrinks : ∀ m, ((c.setTechPvt n techPvt).techPvts m).audioPipe = true →
      (c.techPvts m).audioPipe = true := by
    intro m here
    rw [Control.techPvts_setTechPvt] at here
    split at here
    · rw [null] at here
      cases here
    · exact here
  refine ⟨?_, ?_, kept.pursued, ?_⟩
  · intro m here
    rw [Control.techPvts_setTechPvt]
    split
    · rename_i same
      have relies : (c.starts m).relies = true := here
      rw [same, free] at relies
      cases relies
    · exact kept.relied m here
  · intro m here
    exact kept.kept m (shrinks m here)
  · intro caller bug held here
    have before := kept.destroyed caller bug held here
    by_contra present
    simp only [Bool.not_eq_false] at present
    rw [shrinks bug present] at before
    cases before

theorem Kept.abandon {c : Control} (kept : Kept c) {n : Nat}
    {techPvt : TechPvt} {stage : StartStage}
    (null : techPvt.audioPipe = false) (free : stage.relies = false) :
    Kept ((c.setTechPvt n techPvt).setStart n stage) := by
  have shrinks : ∀ m,
      (((c.setTechPvt n techPvt).setStart n stage).techPvts m).audioPipe =
        true → m ≠ n ∧ (c.techPvts m).audioPipe = true := by
    intro m here
    dsimp only [Control.setStart] at here
    rw [Control.techPvts_setTechPvt] at here
    split at here
    · rw [null] at here
      cases here
    · rename_i different
      exact ⟨different, here⟩
  refine ⟨?_, ?_, kept.pursued, ?_⟩
  · intro m here
    rw [Control.starts_setStart] at here
    split at here
    · rw [free] at here
      cases here
    · rename_i different
      dsimp only [Control.setStart]
      rw [Control.techPvts_setTechPvt, if_neg different]
      exact kept.relied m here
  · intro m here
    obtain ⟨different, present⟩ := shrinks m here
    rw [Control.starts_setStart, if_neg different]
    exact kept.kept m present
  · intro caller bug held here
    have before := kept.destroyed caller bug held here
    by_contra present
    simp only [Bool.not_eq_false] at present
    rw [(shrinks bug present).2] at before
    cases before

theorem Kept.construct {c : Control} (kept : Kept c) (owned : Owned c) {n : Nat}
    {techPvt : TechPvt} (before : c.starts n = .initializing)
    (created : techPvt.audioPipe = true) :
    Kept ((c.setTechPvt n techPvt).setStart n .constructed) := by
  have unresolved : ∀ caller, (c.cleanups caller).stage.bug ≠ some n := by
    intro caller here
    have stored := owned.resolved caller n here
    simp [before, StartStage.stored] at stored
  have elsewhere : ∀ m, m ≠ n →
      ((c.setTechPvt n techPvt).setStart n .constructed).techPvts m =
        c.techPvts m := by
    intro m different
    dsimp only [Control.setStart]
    rw [Control.techPvts_setTechPvt, if_neg different]
  refine ⟨?_, ?_, kept.pursued, ?_⟩
  · intro m here
    by_cases same : m = n
    · subst same
      simpa [Control.setStart, Control.setTechPvt] using created
    · rw [elsewhere m same]
      rw [Control.starts_setStart, if_neg same] at here
      exact kept.relied m here
  · intro m here
    by_cases same : m = n
    · subst same
      left
      simp [Control.setStart, StartStage.building]
    · rw [elsewhere m same] at here
      rw [Control.starts_setStart, if_neg same]
      exact kept.kept m here
  · intro caller bug held here
    have stage : (c.cleanups caller).stage = .destroying bug held := here
    have different : bug ≠ n := by
      rintro rfl
      exact unresolved caller (by rw [stage]; rfl)
    rw [elsewhere bug different]
    exact kept.destroyed caller bug held stage

theorem Kept.attach {c : Control} (kept : Kept c) {n : Nat}
    (before : c.starts n = .adding) :
    Kept ({ c with bugs := n :: c.bugs }.setStart n .attached) := by
  have present := kept.relied n (by rw [before]; rfl)
  have moved : Kept (c.setStart n .attached) :=
    kept.setStart (fun _ => rfl) (fun _ => present)
  refine ⟨moved.relied, moved.kept, ?_, moved.destroyed⟩
  intro m slot
  rcases moved.pursued m slot with attached | follows
  · exact .inl (List.mem_cons_of_mem n attached)
  · exact .inr follows

theorem Kept.store {c : Control} (kept : Kept c) {n : Nat} {stage : StartStage}
    (empty : c.slot = none) (before : c.starts n = .attached)
    (coming : closeToCome c n = true) :
    Kept ({ c with slot := some n }.setStart n stage) := by
  have present := kept.relied n (by rw [before]; rfl)
  refine ⟨?_, ?_, ?_, kept.destroyed⟩
  · intro m here
    rw [Control.starts_setStart] at here
    split at here
    · rename_i same
      exact same ▸ present
    · exact kept.relied m here
  · intro m here
    by_cases same : m = n
    · subst same
      exact .inr (.inl rfl)
    · rw [Control.starts_setStart, if_neg same]
      rcases kept.kept m here with building | slot | owes
      · exact .inl building
      · rw [empty] at slot
        cases slot
      · exact .inr (.inr owes)
  · intro m here
    cases here
    simp only [closeToCome, Bool.or_eq_true, decide_eq_true_eq] at coming
    rcases coming with attached | entered
    · exact .inl attached
    · right
      dsimp only [Control.setStart]
      rw [entered]
      rfl

theorem Kept.clear {c : Control} (kept : Kept c) (isolated : Isolated c)
    {caller : Caller} {bug held : Nat}
    (stage : (c.cleanups caller).stage = .verified bug held) :
    Kept ({ c with slot := none }.setCleanup caller (.cleared bug held)) := by
  have slot := isolated.slot caller bug held stage
  refine ⟨kept.relied, ?_, by simp [Control.setCleanup], ?_⟩
  · intro n present
    have mine : ∃ other, (({ c with slot := none }.setCleanup caller
        (.cleared bug held)).cleanups other).stage.owing = some bug :=
      ⟨caller, by simp [Control.setCleanup, CleanupStage.owing]⟩
    rcases kept.kept n present with building | here | ⟨other, owes⟩
    · exact .inl building
    · rw [slot] at here
      cases here
      exact .inr (.inr mine)
    · by_cases same : other = caller
      · rw [same, stage] at owes
        cases owes
        exact .inr (.inr mine)
      · refine .inr (.inr ⟨other, ?_⟩)
        rw [Control.cleanups_setCleanup, if_neg same]
        exact owes
  · intro other n held' here
    rw [Control.cleanups_setCleanup] at here
    split at here
    · cases here
    · exact kept.destroyed other n held' here

/-- The start has not created its pipe yet. -/
def StartStage.uncreated : StartStage → Bool
  | .notCalled | .entered | .replacing | .initializing => true
  | _ => false

/-- How often a pipe was created less how often it was disposed of. -/
structure Balanced (trace : List Event) (c : Control) : Prop where
  balance : ∀ n, trace.count (.created n) =
    (if (c.techPvts n).audioPipe then 1 else 0) + trace.count (.handed n) +
      trace.count (.deleted n)
  uncreated : ∀ n, (c.starts n).uncreated = true →
    trace.count (.created n) = 0
  single : ∀ n, trace.count (.created n) ≤ 1

theorem balanced_fresh : Balanced [] .fresh := by
  constructor <;> simp [Control.fresh]

/-- Events that are about no creation and no disposal. -/
def Event.neutral : Event → Bool
  | .created _ | .deleted _ | .handed _ => false
  | _ => true

theorem count_neutral {events : List Event}
    (neutral : ∀ event ∈ events, event.neutral = true) {event : Event}
    (counted : event.neutral = false) : events.count event = 0 := by
  apply List.count_eq_zero.mpr
  intro member
  rw [neutral event member] at counted
  cases counted

theorem Balanced.still {trace events : List Event} {c c' : Control}
    (balanced : Balanced trace c)
    (neutral : ∀ event ∈ events, event.neutral = true)
    (audioPipe : ∀ n, (c'.techPvts n).audioPipe = (c.techPvts n).audioPipe)
    (uncreated : ∀ n, (c'.starts n).uncreated = true →
      (c.starts n).uncreated = true) :
    Balanced (trace ++ events) c' := by
  have created : ∀ n, (trace ++ events).count (.created n) =
      trace.count (.created n) := by
    intro n
    rw [List.count_append, count_neutral neutral rfl, Nat.add_zero]
  refine ⟨?_, ?_, ?_⟩
  · intro n
    rw [created, List.count_append, List.count_append,
      count_neutral neutral rfl, count_neutral neutral rfl, audioPipe]
    exact balanced.balance n
  · intro n here
    rw [created]
    exact balanced.uncreated n (uncreated n here)
  · intro n
    rw [created]
    exact balanced.single n

theorem Balanced.dispose {trace events : List Event} {c c' : Control} {n : Nat}
    {techPvt : TechPvt} (balanced : Balanced trace c)
    (present : (c.techPvts n).audioPipe = true)
    (techPvts : c'.techPvts = Function.update c.techPvts n techPvt)
    (null : techPvt.audioPipe = false)
    (created : ∀ m, events.count (.created m) = 0)
    (disposed : ∀ m, events.count (.handed m) + events.count (.deleted m) =
      if n = m then 1 else 0)
    (uncreated : ∀ m, (c'.starts m).uncreated = true →
      (c.starts m).uncreated = true) :
    Balanced (trace ++ events) c' := by
  refine ⟨?_, ?_, ?_⟩
  · intro m
    have before := balanced.balance m
    have now := disposed m
    rw [List.count_append, List.count_append, List.count_append, created]
    rw [techPvts]
    by_cases same : n = m
    · subst same
      rw [present] at before
      rw [Function.update_self, null]
      simp only [if_true] at before now
      simp only [Bool.false_eq_true, if_false]
      omega
    · rw [Function.update_of_ne (Ne.symm same)]
      rw [if_neg same] at now
      omega
  · intro m here
    rw [List.count_append, created, Nat.add_zero]
    exact balanced.uncreated m (uncreated m here)
  · intro m
    rw [List.count_append, created, Nat.add_zero]
    exact balanced.single m

theorem Balanced.absent {trace : List Event} {c : Control} {n : Nat}
    (balanced : Balanced trace c) (stage : (c.starts n).uncreated = true) :
    (c.techPvts n).audioPipe = false ∧ trace.count (.handed n) = 0 ∧
      trace.count (.deleted n) = 0 := by
  have balance := balanced.balance n
  rw [balanced.uncreated n stage] at balance
  refine ⟨?_, by omega, by omega⟩
  by_contra present
  simp only [Bool.not_eq_false] at present
  rw [present, if_pos rfl] at balance
  omega

theorem Balanced.create {trace : List Event} {c c' : Control} {n : Nat}
    {techPvt : TechPvt} {stage : StartStage} (balanced : Balanced trace c)
    (before : (c.starts n).uncreated = true)
    (techPvts : c'.techPvts = Function.update c.techPvts n techPvt)
    (present : techPvt.audioPipe = true)
    (starts : c'.starts = Function.update c.starts n stage)
    (after : stage.uncreated = false) :
    Balanced (trace ++ [.created n]) c' := by
  obtain ⟨null, unhanded, undeleted⟩ := balanced.absent before
  have none := balanced.uncreated n before
  refine ⟨?_, ?_, ?_⟩
  · intro m
    have balance := balanced.balance m
    rw [techPvts]
    by_cases same : m = n
    · subst same
      simp [List.count_append, present, none, unhanded, undeleted]
    · simpa [List.count_append, same, Ne.symm same] using balance
  · intro m here
    rw [starts] at here
    by_cases same : m = n
    · subst same
      rw [Function.update_self, after] at here
      cases here
    · rw [Function.update_of_ne same] at here
      simpa [List.count_append, Ne.symm same] using balanced.uncreated m here
  · intro m
    by_cases same : m = n
    · subst same
      simp [List.count_append, none]
    · simpa [List.count_append, Ne.symm same] using balanced.single m

theorem Balanced.fail {trace : List Event} {c : Control} {n : Nat}
    {success : Bool} (balanced : Balanced trace c)
    (before : (c.starts n).uncreated = true) :
    Balanced (trace ++ [.created n, .deleted n])
      (c.setStart n (.returned success)) := by
  have none := balanced.uncreated n before
  have created : ∀ m, [Event.created n, .deleted n].count (.created m) =
      if m = n then 1 else 0 := by
    intro m
    by_cases same : m = n
    · simp [same]
    · simp [same, Ne.symm same]
  have handed : ∀ m, [Event.created n, .deleted n].count (.handed m) = 0 := by
    simp
  have deleted : ∀ m, [Event.created n, .deleted n].count (.deleted m) =
      if m = n then 1 else 0 := by
    intro m
    by_cases same : m = n
    · simp [same]
    · simp [same, Ne.symm same]
  refine ⟨?_, ?_, ?_⟩
  · intro m
    have balance := balanced.balance m
    have same : ((c.setStart n (.returned success)).techPvts m).audioPipe =
        (c.techPvts m).audioPipe := rfl
    rw [List.count_append, List.count_append, List.count_append, created,
      handed, deleted, same]
    omega
  · intro m here
    rw [Control.starts_setStart] at here
    split at here
    · cases here
    · rename_i different
      rw [List.count_append, created, if_neg different, Nat.add_zero]
      exact balanced.uncreated m here
  · intro m
    have single := balanced.single m
    rw [List.count_append, created]
    split
    · rename_i same
      subst same
      omega
    · omega

theorem uncreated_setStart {c : Control} {n : Nat} {stage : StartStage}
    (later : stage.uncreated = true → (c.starts n).uncreated = true) (m : Nat)
    (here : ((c.setStart n stage).starts m).uncreated = true) :
    (c.starts m).uncreated = true := by
  rw [Control.starts_setStart] at here
  split at here
  · rename_i same
    exact same ▸ later here
  · exact here

structure Disposal (trace : List Event) (s : State) : Prop where
  owned : Owned s.control
  isolated : Isolated s.control
  kept : Kept s.control
  balanced : Balanced trace s.control

theorem disposal_fresh : Disposal [] .fresh :=
  ⟨owned_fresh, isolated_fresh, kept_fresh, balanced_fresh⟩

theorem Isolated.settled_of_empty {c : Control} (isolated : Isolated c)
    (empty : c.slot = none) (caller : Caller) :
    (c.cleanups caller).stage.clearing = false := by
  cases stage : (c.cleanups caller).stage with
  | verified bug held =>
      have slot := isolated.slot caller bug held stage
      rw [empty] at slot
      cases slot
  | _ => rfl

theorem Disposal.startKeeps {module : Module} {trace events : List Event}
    {s s' : State} {n : Nat} {init : Init} {ok : Bool}
    (disposal : Disposal trace s)
    (inTime : s.control.starts n = .attached →
      s.control.slot = none ∧ closeToCome s.control n = true)
    (step : stepStart module s n init ok = some (s', events)) :
    Kept s'.control ∧ Balanced (trace ++ events) s'.control := by
  obtain ⟨owned, isolated, kept, balanced⟩ := disposal
  obtain ⟨_, stage, taken⟩ := stepStart_cases step
  have relied : (s.control.starts n).relies = true →
      (s.control.techPvts n).audioPipe = true := kept.relied n
  rw [stage] at relied
  cases taken with
  | replace =>
      have idle := owned.unasked n (by rw [stage]; rfl)
      constructor
      · apply (kept.call idle rfl (.inl rfl)).setStart
        · simp [Control.call, stage, StartStage.building]
        · simp [StartStage.relies]
      · refine balanced.still (by simp) (fun _ => rfl) (uncreated_setStart ?_)
        simp [Control.call, stage, StartStage.uncreated]
  | fail =>
      constructor
      · exact kept.setStart (by simp [stage, StartStage.building])
          (by simp [StartStage.relies])
      · exact balanced.fail (by rw [stage]; rfl)
  | construct =>
      constructor
      · exact kept.construct owned stage rfl
      · exact balanced.create (by rw [stage]; rfl) rfl rfl rfl rfl
  | attach =>
      constructor
      · exact kept.attach stage
      · exact balanced.still (by simp) (fun _ => rfl)
          (uncreated_setStart (by simp [StartStage.uncreated]))
  | abandonNull absent | handNull absent =>
      rw [relied rfl] at absent
      cases absent
  | abandon present | hand present =>
      constructor
      · exact kept.abandon rfl rfl
      · exact balanced.dispose present rfl rfl (by simp)
          (by simp [List.count_cons])
          (uncreated_setStart (by simp [StartStage.uncreated]))
  | publish | store =>
      obtain ⟨empty, coming⟩ := inTime stage
      constructor
      · exact kept.store empty stage coming
      · exact balanced.still (by simp [Event.neutral]) (fun _ => rfl)
          (uncreated_setStart (by simp [StartStage.uncreated]))
  | activate | dial | count | orphan =>
      constructor
      · exact kept.setStart (by simp [stage, StartStage.building])
          (fun _ => relied rfl)
      · exact balanced.still (by simp [Event.neutral]) (fun _ => rfl)
          (uncreated_setStart (by simp [StartStage.uncreated]))
  | _ =>
      constructor
      · exact kept.setStart (by simp [stage, StartStage.building])
          (by simp [StartStage.relies])
      · exact balanced.still (by simp [Event.neutral]) (fun _ => rfl)
          (uncreated_setStart (by simp [stage, StartStage.uncreated]))

theorem recheck_names {module : Module} {bug : Nat} :
    recheck module (some bug) bug = some bug := by
  cases module <;> simp [recheck]

theorem Disposal.cleanupKeeps {module : Module} {trace events : List Event}
    {s s' : State} {caller : Caller} (disposal : Disposal trace s)
    (checked : ∀ bug held, (s.control.cleanups caller).stage = .locked bug →
      recheck module s.control.slot bug = some held → held = bug)
    (connected : ∀ bug held,
      (s.control.cleanups caller).stage = .handing bug held →
      s.control.starts bug ≠ .published)
    (step : stepCleanup module s caller = some (s', events)) :
    Kept s'.control ∧ Balanced (trace ++ events) s'.control := by
  obtain ⟨owned, isolated, kept, balanced⟩ := disposal
  obtain ⟨_, stage, taken⟩ := stepCleanup_cases step
  cases taken with
  | miss empty =>
      constructor
      · exact kept.setCleanup (by simp [stage, CleanupStage.owing])
          (by simp [empty]) (by simp)
      · exact balanced.still (by simp) (fun _ => rfl) (fun _ => id)
  | @resolve bug slot =>
      constructor
      · apply kept.setCleanup (by simp [stage, CleanupStage.owing]) _ (by simp)
        intro n _ here _
        rw [slot] at here
        cases here
        simp [CleanupStage.pursues]
      · exact balanced.still (by simp) (fun _ => rfl) (fun _ => id)
  | @lock bug free =>
      have taken : Kept (s.control.setTechPvt bug
          { s.control.techPvts bug with mutex := some caller }) :=
        kept.setTechPvt rfl
      constructor
      · apply taken.setCleanup _ _ (by simp)
        · simp [Control.setTechPvt, stage, CleanupStage.owing]
        · simp [Control.setTechPvt, stage, CleanupStage.pursues]
      · exact balanced.still (by simp) (audioPipe_setTechPvt rfl) (fun _ => id)
  | @yields bug stale =>
      have given : Kept (s.control.setTechPvt bug
          { s.control.techPvts bug with mutex := none }) :=
        kept.setTechPvt rfl
      constructor
      · apply given.setCleanup _ _ (by simp)
        · simp [Control.setTechPvt, stage, CleanupStage.owing]
        · intro n _ slot follows
          simp only [Control.setTechPvt, stage, CleanupStage.pursues,
            decide_eq_true_eq] at follows
          subst follows
          have named : s.control.slot = some bug := slot
          rw [named, recheck_names] at stale
          cases stale
      · exact balanced.still (by simp) (audioPipe_setTechPvt rfl) (fun _ => id)
  | clear =>
      constructor
      · exact kept.clear isolated stage
      · exact balanced.still (by simp [Event.neutral]) (fun _ => rfl)
          (fun _ => id)
  | @hand bug held present =>
      have stored := owned.resolved caller bug (by rw [stage]; rfl)
      have free := StartStage.unreliant stored (connected bug held stage)
      have dropped : Kept (s.control.setTechPvt bug
          { s.control.techPvts bug with audioPipe := false }) :=
        kept.drop rfl free
      constructor
      · apply dropped.setCleanup
        · intro n left owes
          simp only [Control.setTechPvt, stage, CleanupStage.owing,
            Option.some.injEq] at owes
          subst owes
          simp [Control.setTechPvt] at left
        · simp [Control.setTechPvt, stage, CleanupStage.pursues]
        · intro n held' here
          cases here
          simp [Control.setTechPvt]
      · exact balanced.dispose present rfl rfl (by simp)
          (by simp [List.count_cons]) (fun _ => id)
  | @handNull bug held absent =>
      constructor
      · apply kept.setCleanup _ (by simp [stage, CleanupStage.pursues])
        · intro n held' here
          cases here
          exact absent
        · intro n present owes
          simp only [stage, CleanupStage.owing, Option.some.injEq] at owes
          rw [← owes, absent] at present
          cases present
      · exact balanced.still (by simp) (fun _ => rfl) (fun _ => id)
  | @destroy bug held present =>
      rw [kept.destroyed caller bug held stage] at present
      cases present
  | @destroyNull bug held absent =>
      have given : Kept (s.control.setTechPvt bug
          { s.control.techPvts bug with audioPipe := false, mutex := none }) :=
        kept.setTechPvt absent.symm
      constructor
      · apply given.setCleanup _ _ (by simp)
        · simp [Control.setTechPvt, stage, CleanupStage.owing]
        · simp [Control.setTechPvt, stage, CleanupStage.pursues]
      · exact balanced.still (by simp) (audioPipe_setTechPvt absent.symm)
          (fun _ => id)
  | @remove bug held outside attached =>
      have different : caller ≠ .close held := by
        rintro rfl
        cases outside
      constructor
      · apply (kept.detach owned attached).setCleanup _ _ (by simp)
        · rw [Control.detach, Control.cleanups_call, if_neg different]
          simp [stage, CleanupStage.owing]
        · rw [Control.detach, Control.cleanups_call, if_neg different]
          simp [stage, CleanupStage.pursues]
      · exact balanced.still (by simp [Event.neutral]) (fun _ => rfl)
          (fun _ => id)
  | _ =>
      constructor
      · exact kept.setCleanup (by simp [stage, CleanupStage.owing])
          (by simp [stage, CleanupStage.pursues]) (by simp)
      · exact balanced.still (by simp [Event.neutral]) (fun _ => rfl)
          (fun _ => id)

theorem Event.neutral_of_ofPipe {events : List Event}
    (ofPipe : ∀ event ∈ events, event.ofPipe = true) :
    ∀ event ∈ events, event.neutral = true := by
  intro event member
  have here := ofPipe event member
  cases event <;> first | rfl | cases here

theorem Disposal.step {config : Config} {trace events : List Event}
    {s s' : State} {act : Act} (disposal : Disposal trace s)
    (inTime : storesInTime s act = true)
    (checked : ∀ caller, act = .cleanup caller → ∀ bug held,
      (s.control.cleanups caller).stage = .locked bug →
      recheck config.module s.control.slot bug = some held → held = bug)
    (connected : ∀ caller, act = .cleanup caller → ∀ bug held,
      (s.control.cleanups caller).stage = .handing bug held →
      s.control.starts bug ≠ .published)
    (step : (machine config).step s act = some (s', events)) :
    Disposal (trace ++ events) s' := by
  have owned := disposal.owned.step step
  have isolated := disposal.isolated
  have kept := disposal.kept
  have balanced := disposal.balanced
  simp only [machine, Sessions.step] at step
  cases act with
  | callStart metadata =>
      cases step
      have absent := disposal.owned.uncalled s.control.idxCallCount
        (Nat.le_refl _)
      have named : Kept (s.control.setTechPvt s.control.idxCallCount
          { s.control.techPvts s.control.idxCallCount with
            initialMetadata := metadata }) := kept.setTechPvt rfl
      have moved : Kept ((s.control.setTechPvt s.control.idxCallCount
          { s.control.techPvts s.control.idxCallCount with
            initialMetadata := metadata }).setStart s.control.idxCallCount
              .entered) := by
        refine named.setStart ?_ (by simp [StartStage.relies])
        simp [Control.setTechPvt, absent, StartStage.building]
      refine ⟨owned, ⟨isolated.target, isolated.slot⟩,
        ⟨moved.relied, moved.kept, moved.pursued, moved.destroyed⟩, ?_⟩
      refine balanced.still (by simp) (audioPipe_setTechPvt rfl) ?_
      refine uncreated_setStart fun _ => ?_
      have stage : (s.control.starts s.control.idxCallCount).uncreated =
          true := by
        rw [absent]
        rfl
      exact stage
  | start n init ok =>
      have empty : s.control.starts n = .attached →
          s.control.slot = none ∧ closeToCome s.control n = true := by
        intro stage
        simpa [storesInTime, stage] using inTime
      have settled : s.control.starts n = .attached →
          ∀ caller, (s.control.cleanups caller).stage.clearing = false :=
        fun stage => isolated.settled_of_empty (empty stage).1
      obtain ⟨kept', balanced'⟩ := disposal.startKeeps empty step
      exact ⟨owned, (isolated.start settled step).1, kept', balanced'⟩
  | callStop call text =>
      dsimp only at step
      split at step <;> cases step
      rename_i idle
      refine ⟨owned, isolated.call ?_, kept.call idle rfl ?_,
        balanced.still (by simp) (fun _ => rfl) (fun _ => id)⟩
      · cases config.module <;> rfl
      · cases config.module
        · exact .inr rfl
        · exact .inl rfl
  | hangup bug =>
      dsimp only at step
      split at step <;> cases step
      rename_i attached
      exact ⟨owned, isolated.detach, kept.detach disposal.owned attached,
        balanced.still (by simp) (fun _ => rfl) (fun _ => id)⟩
  | cleanup caller =>
      obtain ⟨kept', balanced'⟩ := disposal.cleanupKeeps (checked caller rfl)
        (connected caller rfl) step
      exact ⟨owned,
        (isolated.cleanup disposal.owned (checked caller rfl) step).1, kept',
        balanced'⟩
  | reaper n =>
      obtain ⟨same, ofPipe⟩ := stepReaper_control step
      have quiet := Event.neutral_of_ofPipe ofPipe
      rw [← same] at isolated kept
      exact ⟨owned, isolated, kept,
        balanced.still quiet (by simp [same]) (by simp [same])⟩
  | lws n report =>
      obtain ⟨same, ofPipe⟩ := stepLws_control step
      have quiet := Event.neutral_of_ofPipe ofPipe
      rw [← same] at isolated kept
      exact ⟨owned, isolated, kept,
        balanced.still quiet (by simp [same]) (by simp [same])⟩
  | notice n located =>
      obtain ⟨same, ofPipe⟩ := stepNotice_control step
      have quiet := Event.neutral_of_ofPipe ofPipe
      rw [← same] at isolated kept
      exact ⟨owned, isolated, kept,
        balanced.still quiet (by simp [same]) (by simp [same])⟩

/-- All calls have returned, and every bug that was attached has received its
CLOSE. -/
structure Quiescent (s : State) : Prop where
  starts : ∀ n, s.control.starts n = .notCalled ∨
    ∃ success, s.control.starts n = .returned success
  cleanups : ∀ caller, (s.control.cleanups caller).stage = .notCalled ∨
    (s.control.cleanups caller).stage = .returned
  bugs : s.control.bugs = []

/-- Once everything has returned no `private_t` holds a pipe any more. -/
theorem Kept.disposed {s : State} (kept : Kept s.control)
    (quiescent : Quiescent s) (n : Nat) :
    (s.control.techPvts n).audioPipe = false := by
  by_contra present
  simp only [Bool.not_eq_false] at present
  rcases kept.kept n present with building | slot | ⟨caller, owes⟩
  · rcases quiescent.starts n with stage | ⟨success, stage⟩ <;>
      simp [stage, StartStage.building] at building
  · rcases kept.pursued n slot with attached | follows
    · rw [quiescent.bugs] at attached
      cases attached
    · rcases quiescent.cleanups (.close n) with stage | stage <;>
        simp [stage, CleanupStage.pursues] at follows
  · rcases quiescent.cleanups caller with stage | stage <;>
      simp [stage, CleanupStage.owing] at owes

theorem Disposal.exactlyOnce {trace : List Event} {s : State}
    (disposal : Disposal trace s) (quiescent : Quiescent s) {n : Nat}
    (created : .created n ∈ trace) :
    trace.count (.handed n) + trace.count (.deleted n) = 1 := by
  have null := disposal.kept.disposed quiescent n
  have balance := disposal.balanced.balance n
  have single := disposal.balanced.single n
  have positive := List.count_pos_iff.mpr created
  rw [null] at balance
  simp only [Bool.false_eq_true, if_false] at balance
  omega

end DrachtioModules.Sessions

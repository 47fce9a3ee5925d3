import DrachtioModules.Sessions.Ownership

/-!
# A stop touches only the session it resolved

`fork_session_cleanup` resolves a bug, waits for the mutex of its `private_t`
and reads the channel private again under that mutex, but goes on with whatever
bug it finds there.  A stop that waited while the session was stopped and
started anew then clears the new session's channel private and removes its bug.
The stop stays with the bug it resolved in every run in which the second read
finds that bug or nothing, and no start stores its bug between a second read
and the clear that follows it.
-/

namespace DrachtioModules.Sessions

/-- What a cleanup does to a session it does to the one it resolved. -/
def Event.isolated : Event → Bool
  | .cleared _ bug slot => slot = some bug
  | .finalText _ bug owner _ => owner = bug
  | .tornDown _ bug owner => owner = bug
  | .removed _ bug held => held = bug
  | _ => true

def CleanupStage.clearing : CleanupStage → Bool
  | .verified _ _ => true
  | _ => false

/-- The second read of the channel private finds the resolved bug or nothing. -/
def rechecksOwn (s : State) (caller : Caller) : Bool :=
  match (s.control.cleanups caller).stage with
  | .locked bug => s.control.slot = none || s.control.slot = some bug
  | _ => true

/-- No cleanup of the bug in the channel private is about to clear it. -/
def slotSettled (s : State) : Bool :=
  match s.control.slot with
  | none => true
  | some bug =>
      match (s.control.techPvts bug).mutex with
      | none => true
      | some caller => !(s.control.cleanups caller).stage.clearing

def isolates (s : State) : Act → Bool
  | .cleanup caller => rechecksOwn s caller
  | .start n _ _ =>
      match s.control.starts n with
      | .attached => slotSettled s
      | _ => true
  | _ => true

/-- The resolved bug and the one to remove, once the second read is done. -/
def CleanupStage.target : CleanupStage → Option (Nat × Nat)
  | .verified bug held | .cleared bug held | .handing bug held
  | .destroying bug held | .unlocked bug held => some (bug, held)
  | _ => none

structure Isolated (c : Control) : Prop where
  target : ∀ caller bug held,
    (c.cleanups caller).stage.target = some (bug, held) → held = bug
  slot : ∀ caller bug held, (c.cleanups caller).stage = .verified bug held →
    c.slot = some bug

theorem isolated_fresh : Isolated .fresh := by
  constructor <;> simp [Control.fresh, CleanupStage.target]

/-- A step that leaves the channel private alone and brings no cleanup past its
second read. -/
theorem Isolated.still {c c' : Control} (isolated : Isolated c)
    (slot : c'.slot = c.slot)
    (cleanups : ∀ caller, (c'.cleanups caller).stage.target = none ∨
      (c'.cleanups caller).stage = (c.cleanups caller).stage) :
    Isolated c' := by
  refine ⟨?_, ?_⟩
  · intro caller bug held here
    rcases cleanups caller with none | same
    · rw [none] at here
      cases here
    · exact isolated.target caller bug held (same ▸ here)
  · intro caller bug held here
    rw [slot]
    rcases cleanups caller with none | same
    · rw [here] at none
      cases none
    · exact isolated.slot caller bug held (same ▸ here)

theorem Isolated.proceed {c : Control} (isolated : Isolated c)
    {caller : Caller} {stage : CleanupStage}
    (target : stage.target = none ∨
      stage.target = (c.cleanups caller).stage.target)
    (past : stage.clearing = false) : Isolated (c.setCleanup caller stage) := by
  refine ⟨?_, ?_⟩
  · intro other bug held here
    rw [Control.cleanups_setCleanup] at here
    split at here
    · rcases target with none | same
      · rw [none] at here
        cases here
      · exact isolated.target caller bug held (same ▸ here)
    · exact isolated.target other bug held here
  · intro other bug held here
    rw [Control.cleanups_setCleanup] at here
    split at here
    · simp only at here
      rw [here] at past
      cases past
    · exact isolated.slot other bug held here

theorem Isolated.setTechPvt {c : Control} (isolated : Isolated c) {n : Nat}
    {techPvt : TechPvt} : Isolated (c.setTechPvt n techPvt) :=
  ⟨isolated.target, isolated.slot⟩

theorem Isolated.setStart {c : Control} (isolated : Isolated c) {n : Nat}
    {stage : StartStage} : Isolated (c.setStart n stage) :=
  ⟨isolated.target, isolated.slot⟩

theorem Isolated.call {c : Control} (isolated : Isolated c) {caller : Caller}
    {text : Option AudioFork.Bytes} {stage : CleanupStage}
    (target : stage.target = none) : Isolated (c.call caller text stage) := by
  refine isolated.still rfl ?_
  intro other
  rw [Control.cleanups_call]
  split
  · exact .inl target
  · exact .inr rfl

theorem Isolated.detach {c : Control} (isolated : Isolated c) {bug : Nat} :
    Isolated (c.detach bug) := by
  have fewer : Isolated { c with bugs := c.bugs.filter (· != bug) } :=
    ⟨isolated.target, isolated.slot⟩
  exact fewer.call rfl

theorem Isolated.verify {c : Control} (isolated : Isolated c) {caller : Caller}
    {bug : Nat} (slot : c.slot = some bug) :
    Isolated (c.setCleanup caller (.verified bug bug)) := by
  refine ⟨?_, ?_⟩
  · intro other n held here
    rw [Control.cleanups_setCleanup] at here
    split at here
    · cases here
      rfl
    · exact isolated.target other n held here
  · intro other n held here
    rw [Control.cleanups_setCleanup] at here
    split at here
    · cases here
      exact slot
    · exact isolated.slot other n held here

theorem Isolated.clear {c : Control} (isolated : Isolated c) (owned : Owned c)
    {caller : Caller} {bug held : Nat}
    (stage : (c.cleanups caller).stage = .verified bug held) :
    Isolated ({ c with slot := none }.setCleanup caller (.cleared bug held)) := by
  have mine := owned.holds caller bug (by rw [stage]; rfl)
  have slot := isolated.slot caller bug held stage
  refine ⟨?_, ?_⟩
  · intro other n held' here
    rw [Control.cleanups_setCleanup] at here
    split at here
    · exact isolated.target caller n held' (by rw [stage]; exact here)
    · exact isolated.target other n held' here
  · intro other n held' here
    rw [Control.cleanups_setCleanup] at here
    split at here
    · cases here
    · rename_i different
      have same := isolated.slot other n held' here
      rw [slot] at same
      cases same
      have theirs := owned.holds other bug (by rw [here]; rfl)
      rw [mine] at theirs
      cases theirs
      exact (different rfl).elim

/-- A start stores its bug while no cleanup is about to clear the channel
private. -/
theorem Isolated.store {c : Control} (isolated : Isolated c) {n : Nat}
    {stage : StartStage}
    (settled : ∀ caller, (c.cleanups caller).stage.clearing = false) :
    Isolated ({ c with slot := some n }.setStart n stage) := by
  refine ⟨isolated.target, ?_⟩
  intro caller bug held here
  have idle := settled caller
  simp only [Control.setStart] at here
  rw [here] at idle
  cases idle

/-- In an isolated state a cleanup about to clear is a cleanup of the bug in the
channel private, and holds its mutex. -/
theorem Isolated.settled {s : State} (isolated : Isolated s.control)
    (owned : Owned s.control) (settled : slotSettled s = true)
    (caller : Caller) :
    (s.control.cleanups caller).stage.clearing = false := by
  cases stage : (s.control.cleanups caller).stage with
  | verified bug held =>
      have slot := isolated.slot caller bug held stage
      have mine := owned.holds caller bug (by rw [stage]; rfl)
      simp [slotSettled, slot, mine, stage, CleanupStage.clearing] at settled
  | _ => rfl

theorem Isolated.start {module : Module} {s s' : State} {n : Nat} {init : Init}
    {ok : Bool} {events : List Event} (isolated : Isolated s.control)
    (settled : s.control.starts n = .attached →
      ∀ caller, (s.control.cleanups caller).stage.clearing = false)
    (step : stepStart module s n init ok = some (s', events)) :
    Isolated s'.control ∧ ∀ event ∈ events, event.isolated = true := by
  obtain ⟨_, stage, taken⟩ := stepStart_cases step
  cases taken with
  | replace => exact ⟨(isolated.call rfl).setStart, by simp⟩
  | construct | abandon | abandonNull | hand =>
      exact ⟨isolated.setTechPvt.setStart, by simp [Event.isolated]⟩
  | attach => exact ⟨⟨isolated.target, isolated.slot⟩, by simp⟩
  | publish | store =>
      exact ⟨isolated.store (settled stage), by simp [Event.isolated]⟩
  | _ => exact ⟨isolated.setStart, by simp [Event.isolated]⟩

theorem recheck_slot {module : Module} {slot : Option Nat} {bug held : Nat}
    (passed : recheck module slot bug = some held) : slot = some held := by
  cases module with
  | audioFork => exact passed
  | deepgram =>
      simp only [recheck] at passed
      split at passed
      · rename_i same
        cases passed
        exact same
      · cases passed

/-- Where the channel private names the resolved bug or nothing, the second
read keeps to that bug. -/
theorem recheck_own {module : Module} {s : State} {caller : Caller}
    (guarded : rechecksOwn s caller = true) (bug held : Nat)
    (stage : (s.control.cleanups caller).stage = .locked bug)
    (passed : recheck module s.control.slot bug = some held) : held = bug := by
  have slot := recheck_slot passed
  simpa [rechecksOwn, stage, slot] using guarded

theorem Isolated.cleanup {module : Module} {s s' : State} {caller : Caller}
    {events : List Event} (isolated : Isolated s.control)
    (owned : Owned s.control)
    (checked : ∀ bug held, (s.control.cleanups caller).stage = .locked bug →
      recheck module s.control.slot bug = some held → held = bug)
    (step : stepCleanup module s caller = some (s', events)) :
    Isolated s'.control ∧ ∀ event ∈ events, event.isolated = true := by
  obtain ⟨_, stage, taken⟩ := stepCleanup_cases step
  cases taken with
  | lock | yields =>
      exact ⟨isolated.setTechPvt.proceed (.inl rfl) rfl, by simp⟩
  | @verify bug held passed =>
      have same := checked bug held stage passed
      subst same
      exact ⟨isolated.verify (recheck_slot passed), by simp⟩
  | @clear bug held =>
      have slot := isolated.slot caller bug held stage
      exact ⟨isolated.clear owned stage, by simp [Event.isolated, slot]⟩
  | send | sendNothing | handNull =>
      exact ⟨isolated.proceed (.inr (by rw [stage]; rfl)) rfl,
        by simp [Event.isolated]⟩
  | hand | destroy | destroyNull =>
      refine ⟨isolated.setTechPvt.proceed (.inr ?_) rfl,
        by simp [Event.isolated]⟩
      simp [Control.setTechPvt, stage, CleanupStage.target]
  | @remove bug held outside attached =>
      have same := isolated.target caller bug held (by rw [stage]; rfl)
      exact ⟨isolated.detach.proceed (.inl rfl) rfl,
        by simp [Event.isolated, same]⟩
  | @removeNothing bug held outside detached =>
      have same := isolated.target caller bug held (by rw [stage]; rfl)
      exact ⟨isolated.proceed (.inl rfl) rfl, by simp [Event.isolated, same]⟩
  | _ => exact ⟨isolated.proceed (.inl rfl) rfl, by simp⟩

theorem Event.isolated_of_ofPipe {events : List Event}
    (ofPipe : ∀ event ∈ events, event.ofPipe = true) :
    ∀ event ∈ events, event.isolated = true := by
  intro event member
  have here := ofPipe event member
  cases event <;> first | rfl | cases here

theorem Isolated.step {config : Config} {s s' : State} {act : Act}
    {events : List Event} (isolated : Isolated s.control)
    (owned : Owned s.control) (guarded : isolates s act = true)
    (step : (machine config).step s act = some (s', events)) :
    Isolated s'.control ∧ ∀ event ∈ events, event.isolated = true := by
  simp only [machine, Sessions.step] at step
  cases act with
  | callStart metadata =>
      cases step
      exact ⟨⟨isolated.target, isolated.slot⟩, by simp⟩
  | start n init ok =>
      refine isolated.start ?_ step
      intro stage
      simp only [isolates, stage] at guarded
      exact isolated.settled owned guarded
  | callStop call text =>
      dsimp only at step
      split at step <;> cases step
      refine ⟨isolated.call ?_, by simp⟩
      cases config.module <;> rfl
  | hangup bug =>
      dsimp only at step
      split at step <;> cases step
      exact ⟨isolated.detach, by simp⟩
  | cleanup caller =>
      exact isolated.cleanup owned (recheck_own guarded) step
  | reaper n =>
      obtain ⟨same, ofPipe⟩ := stepReaper_control step
      rw [same]
      exact ⟨isolated, Event.isolated_of_ofPipe ofPipe⟩
  | lws n report =>
      obtain ⟨same, ofPipe⟩ := stepLws_control step
      rw [same]
      exact ⟨isolated, Event.isolated_of_ofPipe ofPipe⟩
  | notice n located =>
      obtain ⟨same, ofPipe⟩ := stepNotice_control step
      rw [same]
      exact ⟨isolated, Event.isolated_of_ofPipe ofPipe⟩

/-- Whatever starts, stops and hangups interleave on the channel: while each
second read finds the resolved bug or nothing and no start stores its bug
between such a read and its clear, every cleanup clears the channel private only
while it names the resolved bug, removes only that bug and tears down only its
`private_t`. -/
theorem stop_isolated (parse : AudioFork.Bytes → Option Deepgram.CJson)
    {labels : List Act} {trace : List Event} {s : State}
    (run : (machine ⟨.audioFork, parse⟩).Run isolates
      (machine ⟨.audioFork, parse⟩).initial labels trace s) :
    ∀ event ∈ trace, event.isolated = true := by
  have whole : Owned s.control ∧ Isolated s.control ∧
      ∀ event ∈ trace, event.isolated = true := by
    refine run.induct (fun seen state => Owned state.control ∧
      Isolated state.control ∧ ∀ event ∈ seen, event.isolated = true)
      ⟨owned_fresh, isolated_fresh, by simp⟩ ?_
    intro seen state label next events holds guarded step
    obtain ⟨owned, isolated, before⟩ := holds
    obtain ⟨kept, now⟩ := isolated.step owned guarded step
    refine ⟨owned.step step, kept, ?_⟩
    intro event member
    rcases List.mem_append.mp member with earlier | present
    · exact before event earlier
    · exact now event present
  exact whole.2.2

/-- The n-th start runs to its end on an empty channel private. -/
def startsFork (n : Nat) : List Act :=
  [.callStart [123, 125]] ++ List.replicate 7 (.start n .success true)

def cleans (caller : Caller) (count : Nat) : List Act :=
  List.replicate count (.cleanup caller)

/-- Two stops race: the second finds the channel private already cleared. -/
theorem stop_isolated_of_race :
    ∃ labels trace s,
      (machine ⟨.audioFork, fun _ => none⟩).Run isolates .fresh labels trace s ∧
        Event.removed (.stop 1) 0 0 ∈ trace ∧
        ∀ event ∈ trace, event.isolated = true := by
  let config : Config := ⟨.audioFork, fun _ => none⟩
  let labels : List Act :=
    startsFork 0 ++ [Act.callStop 0 none, .callStop 1 (some [98, 121, 101])] ++
      cleans (.stop 0) 1 ++ cleans (.stop 1) 8 ++ cleans (.close 0) 1 ++
      cleans (.stop 1) 1 ++ cleans (.stop 0) 2
  have executed : ((machine config).exec isolates .fresh labels).map
      (fun outcome => decide (Event.removed (.stop 1) 0 0 ∈ outcome.2)) =
        some true := by
    decide
  obtain ⟨s, trace, run, removed⟩ := Machine.exists_run_of_exec _ executed
  exact ⟨labels, trace, s, run, by simpa using removed,
    stop_isolated (fun _ => none) run⟩

/-- The first stop resolves bug 0 and waits; a second one stops the session and
a new one starts; the first then clears the channel private that names bug 1. -/
theorem stop_clears_new_session :
    ¬ ∀ (parse : AudioFork.Bytes → Option Deepgram.CJson) (labels : List Act)
      (trace : List Event) (s : State),
      (machine ⟨.audioFork, parse⟩).Run anyStep
        (machine ⟨.audioFork, parse⟩).initial labels trace s →
        ∀ event ∈ trace, event.isolated = true := by
  intro always
  let config : Config := ⟨.audioFork, fun _ => none⟩
  let labels : List Act :=
    startsFork 0 ++ [Act.callStop 0 none, .callStop 1 none] ++
      cleans (.stop 0) 1 ++ cleans (.stop 1) 8 ++ cleans (.close 0) 1 ++
      cleans (.stop 1) 1 ++ startsFork 1 ++ cleans (.stop 0) 7
  have executed : ((machine config).exec anyStep .fresh labels).map
      (fun outcome =>
        decide (Event.cleared (.stop 0) 0 (some 1) ∈ outcome.2) &&
          decide (Event.removed (.stop 0) 0 1 ∈ outcome.2)) = some true := by
    decide
  obtain ⟨s, trace, run, both⟩ := Machine.exists_run_of_exec _ executed
  have cleared : Event.cleared (.stop 0) 0 (some 1) ∈ trace := by
    simpa using (Bool.and_eq_true_iff.mp both).1
  have isolated := always (fun _ => none) labels trace s run _ cleared
  cases isolated

end DrachtioModules.Sessions

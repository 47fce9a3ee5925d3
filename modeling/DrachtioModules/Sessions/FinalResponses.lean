import DrachtioModules.Sessions.Disposal
import DrachtioModules.Sessions.Notifications

/-!
# The final responses of a stopped transcription

`dg_transcribe_session_stop` clears the channel private and then hands the pipe
to its reaper, which asks for the final results with `finish()`.  By the time
one arrives `eventCallback` finds no bug to pass it to.
-/

namespace DrachtioModules.Sessions

open AudioFork (Bytes)
open Deepgram (CJson)

/-- The messages with a transcript that arrive on pipe `n` between its
`finish()` and its CLOSED callback. -/
def finals (parse : Bytes → Option CJson) (n : Nat) :
    Bool → List Event → List Bytes
  | _, [] => []
  | finishing, event :: rest =>
      match event with
      | .finish m => finals parse n (finishing || m = n) rest
      | .closed m => finals parse n (finishing && m != n) rest
      | .arrived m text =>
          if finishing && m = n && Deepgram.hasTranscript (parse text) then
            text :: finals parse n finishing rest
          else finals parse n finishing rest
      | _ => finals parse n finishing rest

/-- A message of pipe `n` passed to the response handler with its transcript,
`finished` and the bugname of session `n`. -/
def Event.final (parse : Bytes → Option CJson) (n : Nat) :
    Event → Option Bytes
  | .handled m bug (.message text) true =>
      if m = n ∧ bug = n ∧ Deepgram.hasTranscript (parse text) then some text
      else none
  | _ => none

/-- When no callback is under way on the pipe, the final responses are exactly
those that arrived, in their order. -/
def DeliversFinals (parse : Bytes → Option CJson) (n : Nat)
    (later : List Event) (s : State) : Prop :=
  (s.pipes n).notice = .idle →
    later.filterMap (Event.final parse n) = finals parse n false later

/-- No start stores its bug. -/
def storesNothing (s : State) : Act → Bool
  | .start n _ _ => s.control.starts n != .attached
  | _ => true

/-- The start may still store its bug. -/
def StartStage.stores : StartStage → Bool
  | .notCalled | .entered | .replacing | .initializing | .constructed
  | .counting | .adding | .attached => true
  | _ => false

theorem StartStage.unstoring {stage : StartStage}
    (stored : stage.stored = true) : stage.stores = false := by
  cases stage with
  | published | connecting | returned success => rfl
  | _ => cases stored

/-- The bug a cleanup cleared and is going to hand over. -/
def CleanupStage.passed : CleanupStage → Option Nat
  | .cleared bug _ | .handing bug _ => some bug
  | _ => none

theorem CleanupStage.bug_of_passed {stage : CleanupStage} {n : Nat}
    (passed : stage.passed = some n) : stage.bug = some n := by
  cases stage <;> simp_all [CleanupStage.passed, CleanupStage.bug]

structure Unreaped (s : State) : Prop where
  owing : ∀ caller bug, (s.control.cleanups caller).stage.owing = some bug →
    (s.pipes bug).reaper = .none
  spent : ∀ n, (s.pipes n).reaper ≠ .none →
    s.control.slot ≠ some n ∧ (s.control.starts n).stores = false
  passed : ∀ caller bug, (s.control.cleanups caller).stage.passed = some bug →
    s.control.slot ≠ some bug

theorem unreaped_fresh : Unreaped .fresh := by
  constructor <;>
    simp [State.fresh, Control.fresh, Pipe.fresh, CleanupStage.owing,
      CleanupStage.passed]

theorem Unreaped.still {s s' : State} (unreaped : Unreaped s)
    (reapers : ∀ n, (s.pipes n).reaper = .none → (s'.pipes n).reaper = .none)
    (stores : ∀ n, (s'.control.starts n).stores = true →
      (s.control.starts n).stores = true)
    (slot : ∀ n, s'.control.slot = some n → s.control.slot = some n)
    (owing : ∀ caller bug,
      (s'.control.cleanups caller).stage.owing = some bug →
      (s.control.cleanups caller).stage.owing = some bug ∨
        s.control.slot = some bug)
    (passed : ∀ caller bug,
      (s'.control.cleanups caller).stage.passed = some bug →
      (s.control.cleanups caller).stage.passed = some bug ∨
        s'.control.slot = none) : Unreaped s' := by
  constructor
  · intro caller bug here
    apply reapers
    rcases owing caller bug here with before | named
    · exact unreaped.owing caller bug before
    · by_contra running
      exact (unreaped.spent bug running).1 named
  · intro n running
    have before : (s.pipes n).reaper ≠ .none := by
      intro none
      exact running (reapers n none)
    obtain ⟨unnamed, unstoring⟩ := unreaped.spent n before
    constructor
    · intro here
      exact unnamed (slot n here)
    · by_contra still
      simp only [Bool.not_eq_false] at still
      rw [stores n still] at unstoring
      cases unstoring
  · intro caller bug here named
    rcases passed caller bug here with before | empty
    · exact unreaped.passed caller bug before (slot bug named)
    · rw [named] at empty
      cases empty

theorem Unreaped.move {s s' : State} {n : Nat} {stage : StartStage}
    (unreaped : Unreaped s)
    (starts : s'.control.starts = Function.update s.control.starts n stage)
    (later : stage.stores = true → (s.control.starts n).stores = true)
    (slot : s'.control.slot = s.control.slot)
    (cleanups : ∀ caller, (s'.control.cleanups caller).stage.owing =
        (s.control.cleanups caller).stage.owing ∧
      (s'.control.cleanups caller).stage.passed =
        (s.control.cleanups caller).stage.passed)
    (reapers : ∀ m, (s'.pipes m).reaper = (s.pipes m).reaper) :
    Unreaped s' := by
  apply unreaped.still
  · intro m none
    rw [reapers]
    exact none
  · intro m still
    rw [starts, Function.update_apply] at still
    split at still
    · rename_i same
      rw [same]
      exact later still
    · exact still
  · intro m named
    rw [slot] at named
    exact named
  · intro caller bug owes
    rw [(cleanups caller).1] at owes
    exact .inl owes
  · intro caller bug passed
    rw [(cleanups caller).2] at passed
    exact .inl passed

theorem Unreaped.store {s s' : State} {n : Nat} {stage : StartStage}
    (unreaped : Unreaped s) (owned : Owned s.control)
    (before : s.control.starts n = .attached)
    (starts : s'.control.starts = Function.update s.control.starts n stage)
    (slot : s'.control.slot = some n)
    (cleanups : s'.control.cleanups = s.control.cleanups)
    (pipes : s'.pipes = s.pipes) : Unreaped s' := by
  constructor
  · rw [cleanups, pipes]
    exact unreaped.owing
  · intro m running
    rw [pipes] at running
    obtain ⟨_, unstoring⟩ := unreaped.spent m running
    have different : m ≠ n := by
      rintro rfl
      rw [before] at unstoring
      cases unstoring
    rw [slot, starts, Function.update_of_ne different]
    refine ⟨?_, unstoring⟩
    intro same
    exact different (Option.some.inj same).symm
  · intro caller bug here named
    rw [cleanups] at here
    rw [slot] at named
    have stored := owned.resolved caller bug (CleanupStage.bug_of_passed here)
    rw [← Option.some.inj named, before] at stored
    cases stored

theorem Unreaped.hand {s s' : State} {n : Nat} (unreaped : Unreaped s)
    (unowed : ∀ caller,
      (s'.control.cleanups caller).stage.owing ≠ some n)
    (unnamed : s.control.slot ≠ some n)
    (unstoring : (s'.control.starts n).stores = false)
    (starts : ∀ m, m ≠ n → s'.control.starts m = s.control.starts m)
    (slot : s'.control.slot = s.control.slot)
    (owing : ∀ caller bug,
      (s'.control.cleanups caller).stage.owing = some bug →
      (s.control.cleanups caller).stage.owing = some bug)
    (passed : ∀ caller bug,
      (s'.control.cleanups caller).stage.passed = some bug →
      (s.control.cleanups caller).stage.passed = some bug)
    (pipes : ∀ m, m ≠ n → s'.pipes m = s.pipes m) : Unreaped s' := by
  constructor
  · intro caller bug here
    have different : bug ≠ n := by
      rintro rfl
      exact unowed caller here
    rw [pipes bug different]
    exact unreaped.owing caller bug (owing caller bug here)
  · intro m running
    rw [slot]
    by_cases same : m = n
    · rw [same]
      exact ⟨unnamed, unstoring⟩
    · rw [pipes m same] at running
      rw [starts m same]
      exact unreaped.spent m running
  · intro caller bug here
    rw [slot]
    exact unreaped.passed caller bug (passed caller bug here)

theorem Unreaped.start {s s' : State} {n : Nat} {init : Init} {ok : Bool}
    {events : List Event} (unreaped : Unreaped s) (owned : Owned s.control)
    (step : stepStart .deepgram s n init ok = some (s', events)) :
    Unreaped s' := by
  have same : ∀ caller, (s.control.cleanups caller).stage.owing =
        (s.control.cleanups caller).stage.owing ∧
      (s.control.cleanups caller).stage.passed =
        (s.control.cleanups caller).stage.passed := fun _ => ⟨rfl, rfl⟩
  obtain ⟨_, stage, taken⟩ := stepStart_cases step
  cases taken with
  | replace =>
      have unasked := owned.unasked n (by rw [stage]; rfl)
      refine unreaped.move rfl (by simp [stage, StartStage.stores]) rfl ?_
        (fun _ => rfl)
      intro caller
      dsimp only [Control.setStart]
      rw [Control.cleanups_call]
      split
      · rename_i mine
        rw [mine, unasked]
        exact ⟨rfl, rfl⟩
      · exact ⟨rfl, rfl⟩
  | dial | connect =>
      exact unreaped.move rfl (by simp [stage, StartStage.stores]) rfl same
        (reaper_setPipe rfl)
  | hand =>
      have unstored : (s.control.starts n).stored = false := by
        rw [stage]
        rfl
      apply unreaped.hand
      · intro caller owes
        have stored := owned.resolved caller n
          (CleanupStage.bug_of_owing owes)
        rw [unstored] at stored
        cases stored
      · intro named
        rw [owned.slot n named] at unstored
        cases unstored
      · simp [State.setPipe, Control.setStart, StartStage.stores]
      · intro m different
        simp [State.setPipe, Control.setStart, Control.setTechPvt, different]
      · rfl
      · exact fun _ _ => id
      · exact fun _ _ => id
      · intro m different
        simp [State.setPipe, different]
  | store => exact unreaped.store owned stage rfl rfl rfl rfl
  | _ =>
      exact unreaped.move rfl (by simp [stage, StartStage.stores]) rfl same
        (fun _ => rfl)

theorem Unreaped.proceed {s s' : State} {caller : Caller}
    {stage : CleanupStage} (unreaped : Unreaped s)
    (starts : s'.control.starts = s.control.starts)
    (slot : ∀ n, s'.control.slot = some n → s.control.slot = some n)
    (pipes : s'.pipes = s.pipes)
    (elsewhere : ∀ other, other ≠ caller →
      (s'.control.cleanups other).stage.owing =
          (s.control.cleanups other).stage.owing ∧
        (s'.control.cleanups other).stage.passed =
          (s.control.cleanups other).stage.passed)
    (here : (s'.control.cleanups caller).stage = stage)
    (owing : ∀ bug, stage.owing = some bug →
      (s.control.cleanups caller).stage.owing = some bug ∨
        s.control.slot = some bug)
    (passed : ∀ bug, stage.passed = some bug →
      (s.control.cleanups caller).stage.passed = some bug ∨
        s'.control.slot = none) : Unreaped s' := by
  refine unreaped.still ?_ ?_ slot ?_ ?_
  · rw [pipes]
    exact fun _ => id
  · rw [starts]
    exact fun _ => id
  · intro other bug owes
    by_cases same : other = caller
    · subst same
      rw [here] at owes
      exact owing bug owes
    · rw [(elsewhere other same).1] at owes
      exact .inl owes
  · intro other bug handing
    by_cases same : other = caller
    · subst same
      rw [here] at handing
      exact passed bug handing
    · rw [(elsewhere other same).2] at handing
      exact .inl handing

theorem setCleanup_elsewhere {c : Control} {caller : Caller}
    {stage : CleanupStage} (other : Caller) (different : other ≠ caller) :
    ((c.setCleanup caller stage).cleanups other).stage.owing =
        (c.cleanups other).stage.owing ∧
      ((c.setCleanup caller stage).cleanups other).stage.passed =
        (c.cleanups other).stage.passed := by
  rw [Control.cleanups_setCleanup, if_neg different]
  exact ⟨rfl, rfl⟩

theorem setCleanup_here {c : Control} {caller : Caller} {stage : CleanupStage} :
    ((c.setCleanup caller stage).cleanups caller).stage = stage := by
  rw [Control.cleanups_setCleanup, if_pos rfl]

theorem call_elsewhere {c : Control} {caller : Caller} {text : Option Bytes}
    {stage : CleanupStage} (other : Caller) (different : other ≠ caller) :
    ((c.call caller text stage).cleanups other).stage.owing =
        (c.cleanups other).stage.owing ∧
      ((c.call caller text stage).cleanups other).stage.passed =
        (c.cleanups other).stage.passed := by
  rw [Control.cleanups_call, if_neg different]
  exact ⟨rfl, rfl⟩

theorem call_here {c : Control} {caller : Caller} {text : Option Bytes}
    {stage : CleanupStage} :
    ((c.call caller text stage).cleanups caller).stage = stage := by
  rw [Control.cleanups_call, if_pos rfl]

theorem Unreaped.cleanup {s s' : State} {caller : Caller}
    {events : List Event} (unreaped : Unreaped s) (owned : Owned s.control)
    (step : stepCleanup .deepgram s caller = some (s', events)) :
    Unreaped s' := by
  obtain ⟨_, stage, taken⟩ := stepCleanup_cases step
  cases taken with
  | @verify bug held passed =>
      have named : s.control.slot = some bug := by
        simp only [recheck] at passed
        split at passed
        · assumption
        · cases passed
      refine unreaped.proceed rfl (fun _ => id) rfl setCleanup_elsewhere
        setCleanup_here ?_ (by simp [CleanupStage.passed])
      intro b owes
      cases owes
      exact .inr named
  | clear =>
      refine unreaped.proceed rfl ?_ rfl setCleanup_elsewhere setCleanup_here ?_
        (fun _ _ => .inr rfl)
      · intro n named
        cases named
      · intro b owes
        rw [stage]
        exact .inl owes
  | send | sendNothing =>
      refine unreaped.proceed rfl (fun _ => id) rfl setCleanup_elsewhere
        setCleanup_here ?_ ?_
      · intro b owes
        rw [stage]
        exact .inl owes
      · intro b passed
        rw [stage]
        exact .inl passed
  | @hand bug held present =>
      have unnamed := unreaped.passed caller bug (by rw [stage]; rfl)
      have stored := owned.resolved caller bug (by rw [stage]; rfl)
      have holds := owned.holds caller bug (by rw [stage]; rfl)
      apply unreaped.hand
      · intro other owes
        dsimp only [State.setPipe] at owes
        rw [Control.cleanups_setCleanup] at owes
        split at owes
        · cases owes
        · rename_i different
          have other_holds := owned.holds other bug
            (CleanupStage.holds_of_owing owes)
          rw [holds] at other_holds
          exact different (Option.some.inj other_holds).symm
      · exact unnamed
      · exact StartStage.unstoring stored
      · exact fun _ _ => rfl
      · rfl
      · intro other b owes
        dsimp only [State.setPipe] at owes
        rw [Control.cleanups_setCleanup] at owes
        split at owes
        · cases owes
        · exact owes
      · intro other b passed
        dsimp only [State.setPipe] at passed
        rw [Control.cleanups_setCleanup] at passed
        split at passed
        · cases passed
        · exact passed
      · intro m different
        simp [State.setPipe, different]
  | @remove bug held outside attached =>
      have idle := (owned.bugs held attached).2
      refine unreaped.proceed rfl (fun _ => id) rfl ?_ setCleanup_here
        (by simp [CleanupStage.owing]) (by simp [CleanupStage.passed])
      intro other different
      rw [Control.cleanups_setCleanup, if_neg different, Control.detach,
        Control.cleanups_call]
      split
      · rename_i closing
        rw [closing, idle]
        exact ⟨rfl, rfl⟩
      · exact ⟨rfl, rfl⟩
  | _ =>
      exact unreaped.proceed rfl (fun _ => id) rfl setCleanup_elsewhere
        setCleanup_here (by simp [CleanupStage.owing])
        (by simp [CleanupStage.passed])

theorem Unreaped.ofPipe {s s' : State} (unreaped : Unreaped s)
    (control : s'.control = s.control)
    (reapers : ∀ n, (s.pipes n).reaper = .none → (s'.pipes n).reaper = .none) :
    Unreaped s' := by
  refine unreaped.still reapers ?_ ?_ ?_ ?_ <;> rw [control]
  · exact fun _ => id
  · exact fun _ => id
  · exact fun _ _ => .inl
  · exact fun _ _ => .inl

theorem stepReaper_unreaped {module : Module} {s s' : State} {n : Nat}
    {events : List Event} (step : stepReaper module s n = some (s', events))
    (m : Nat) (none : (s.pipes m).reaper = .none) :
    (s'.pipes m).reaper = .none := by
  obtain ⟨_, stage, taken⟩ := stepReaper_cases step
  have different : m ≠ n := by
    rintro rfl
    rw [stage] at none
    subst none
    cases taken
  cases taken <;> simpa [State.setPipe, different] using none

theorem stepLws_reaper {s s' : State} {n : Nat} {report : Lws}
    {events : List Event} (step : stepLws s n report = some (s', events)) :
    ∀ m, (s'.pipes m).reaper = (s.pipes m).reaper := by
  obtain ⟨_, taken⟩ := stepLws_cases step
  cases taken <;> exact reaper_setPipe rfl

theorem stepNotice_reaper {config : Config} {s s' : State} {n : Nat}
    {located : Bool} {events : List Event}
    (step : stepNotice config s n located = some (s', events)) :
    ∀ m, (s'.pipes m).reaper = (s.pipes m).reaper := by
  obtain ⟨_, _, taken⟩ := stepNotice_cases step
  cases taken <;> exact reaper_setPipe rfl

theorem Unreaped.step {parse : Bytes → Option CJson} {s s' : State}
    {act : Act} {events : List Event} (unreaped : Unreaped s)
    (owned : Owned s.control)
    (step : (machine ⟨.deepgram, parse⟩).step s act = some (s', events)) :
    Unreaped s' := by
  simp only [machine, Sessions.step] at step
  cases act with
  | callStart metadata =>
      have absent := owned.uncalled s.control.idxCallCount (Nat.le_refl _)
      cases step
      exact unreaped.move rfl (by simp [absent, StartStage.stores]) rfl
        (fun _ => ⟨rfl, rfl⟩) (fun _ => rfl)
  | start n init ok => exact unreaped.start owned step
  | callStop call text =>
      dsimp only at step
      split at step <;> cases step
      exact unreaped.proceed rfl (fun _ => id) rfl call_elsewhere call_here
        (by simp [CleanupStage.owing]) (by simp [CleanupStage.passed])
  | hangup bug =>
      dsimp only at step
      split at step <;> cases step
      exact unreaped.proceed rfl (fun _ => id) rfl call_elsewhere call_here
        (by simp [CleanupStage.owing]) (by simp [CleanupStage.passed])
  | cleanup caller => exact unreaped.cleanup owned step
  | reaper n =>
      obtain ⟨control, _⟩ := stepReaper_control step
      exact unreaped.ofPipe control (stepReaper_unreaped step)
  | lws n report =>
      obtain ⟨control, _⟩ := stepLws_control step
      apply unreaped.ofPipe control
      intro m none
      rw [stepLws_reaper step]
      exact none
  | notice n located =>
      obtain ⟨control, _⟩ := stepNotice_control step
      apply unreaped.ofPipe control
      intro m none
      rw [stepNotice_reaper step]
      exact none

/-- What the notification tells about `finished`. -/
def Notice.finished : Notice → Bool
  | .raised _ finished | .found _ finished _ => finished
  | _ => false

structure Pipe.Unfinished (pipe : Pipe) : Prop where
  finished : pipe.finished = false
  gracefulShutdown : pipe.gracefulShutdown = false
  notice : pipe.notice.finished = false

/-- A pipe without a reaper has not been asked for its final results. -/
def Unfinished (s : State) : Prop :=
  ∀ n, (s.pipes n).reaper = .none → (s.pipes n).Unfinished

theorem unfinished_fresh : Unfinished .fresh := by
  intro n _
  constructor <;> rfl

theorem Unfinished.updated {s s' : State} {n : Nat} {pipe : Pipe}
    (unfinished : Unfinished s)
    (pipes : s'.pipes = Function.update s.pipes n pipe)
    (kept : pipe.reaper = .none → pipe.Unfinished) : Unfinished s' := by
  intro m none
  rw [pipes] at none ⊢
  by_cases same : m = n
  · subst same
    rw [Function.update_self] at none ⊢
    exact kept none
  · rw [Function.update_of_ne same] at none ⊢
    exact unfinished m none

theorem Unfinished.start {module : Module} {s s' : State} {n : Nat}
    {init : Init} {ok : Bool} {events : List Event}
    (unfinished : Unfinished s)
    (step : stepStart module s n init ok = some (s', events)) :
    Unfinished s' := by
  obtain ⟨_, _, taken⟩ := stepStart_cases step
  cases taken with
  | dial | connect =>
      apply unfinished.updated rfl
      intro none
      have before := unfinished n none
      exact ⟨before.finished, before.gracefulShutdown, before.notice⟩
  | hand => exact unfinished.updated rfl (by simp)
  | _ => exact unfinished

theorem Unfinished.cleanup {module : Module} {s s' : State} {caller : Caller}
    {events : List Event} (unfinished : Unfinished s)
    (step : stepCleanup module s caller = some (s', events)) :
    Unfinished s' := by
  obtain ⟨_, _, taken⟩ := stepCleanup_cases step
  cases taken with
  | hand => exact unfinished.updated rfl (by simp)
  | _ => exact unfinished

theorem Unfinished.reaper {module : Module} {s s' : State} {n : Nat}
    {events : List Event} (unfinished : Unfinished s)
    (step : stepReaper module s n = some (s', events)) : Unfinished s' := by
  obtain ⟨_, _, taken⟩ := stepReaper_cases step
  cases taken with
  | finish =>
      apply unfinished.updated rfl
      intro none
      cases module
      · cases none
      · simp only [Sessions.reap] at none
        split at none <;> cases none
  | delete | release => exact unfinished.updated rfl (by simp)

theorem Unfinished.lws {s s' : State} {n : Nat} {report : Lws}
    {events : List Event} (unfinished : Unfinished s)
    (step : stepLws s n report = some (s', events)) : Unfinished s' := by
  obtain ⟨_, taken⟩ := stepLws_cases step
  cases taken with
  | established =>
      apply unfinished.updated rfl
      intro none
      have before := unfinished n none
      refine ⟨?_, before.gracefulShutdown, ?_⟩ <;>
        simp [Notice.finished, before.finished, before.gracefulShutdown]
  | connectionError | receive | closed =>
      apply unfinished.updated rfl
      intro none
      have before := unfinished n none
      exact ⟨before.finished, before.gracefulShutdown, before.finished⟩

theorem Unfinished.notice {config : Config} {s s' : State} {n : Nat}
    {located : Bool} {events : List Event} (unfinished : Unfinished s)
    (step : stepNotice config s n located = some (s', events)) :
    Unfinished s' := by
  obtain ⟨_, notice, taken⟩ := stepNotice_cases step
  cases taken with
  | find =>
      apply unfinished.updated rfl
      intro none
      have before := unfinished n none
      have unfinal := before.notice
      rw [notice] at unfinal
      exact ⟨before.finished, before.gracefulShutdown, unfinal⟩
  | @handle event finished bug | @ignore event finished bug =>
      apply unfinished.updated rfl
      intro none
      have before := unfinished n none
      refine ⟨before.finished, before.gracefulShutdown, ?_⟩
      rcases afterEvent_cases config.module event bug with ⟨_, after⟩ | after <;>
        rw [after] <;> rfl
  | lose | send | sendNothing | close | back =>
      apply unfinished.updated rfl
      intro none
      have before := unfinished n none
      exact ⟨before.finished, before.gracefulShutdown, rfl⟩

theorem Unfinished.step {config : Config} {s s' : State} {act : Act}
    {events : List Event} (unfinished : Unfinished s)
    (step : (machine config).step s act = some (s', events)) :
    Unfinished s' := by
  simp only [machine, Sessions.step] at step
  cases act with
  | callStart metadata =>
      cases step
      exact unfinished
  | start n init ok => exact unfinished.start step
  | callStop call text =>
      dsimp only at step
      split at step <;> cases step
      exact unfinished
  | hangup bug =>
      dsimp only at step
      split at step <;> cases step
      exact unfinished
  | cleanup caller => exact unfinished.cleanup step
  | reaper n => exact unfinished.reaper step
  | lws n report => exact unfinished.lws step
  | notice n located => exact unfinished.notice step

theorem Event.unfinal_of_silent {parse : Bytes → Option CJson} {n : Nat}
    {event : Event} (silent : event.ofNotice = false) :
    event.final parse n = none := by
  cases event <;> first | rfl | cases silent

/-- The channel private is empty and nothing final of the pipe has been found a
bug. -/
structure Silenced (n : Nat) (s : State) : Prop where
  slot : s.control.slot = none
  found : ∀ event finished bug,
    (s.pipes n).notice = .found event finished bug → finished = false

theorem Silenced.lws {n m : Nat} {s s' : State} {report : Lws}
    {events : List Event} (silenced : Silenced n s)
    (step : stepLws s m report = some (s', events)) : Silenced n s' := by
  obtain ⟨pipe, finished, rfl, _, _, _, raised, _⟩ := stepLws_effect step
  refine ⟨silenced.slot, ?_⟩
  intro event f bug here
  by_cases same : n = m
  · subst same
    simp [State.setPipe, raised] at here
  · apply silenced.found event f bug
    simpa [State.setPipe, same] using here

theorem Silenced.setPipe {n m : Nat} {s : State} {pipe : Pipe}
    (silenced : Silenced n s)
    (unfound : ∀ event finished bug,
      pipe.notice ≠ .found event finished bug) :
    Silenced n (s.setPipe m pipe) := by
  refine ⟨silenced.slot, ?_⟩
  intro event finished bug here
  by_cases same : n = m
  · subst same
    refine (unfound event finished bug ?_).elim
    simpa [State.setPipe] using here
  · apply silenced.found event finished bug
    simpa [State.setPipe, same] using here

theorem Silenced.notice {parse : Bytes → Option CJson} {n m : Nat}
    {s s' : State} {located : Bool} {events : List Event}
    (silenced : Silenced n s)
    (step : stepNotice ⟨.deepgram, parse⟩ s m located = some (s', events)) :
    Silenced n s' ∧ ∀ event ∈ events, event.final parse n = none := by
  obtain ⟨_, notice, taken⟩ := stepNotice_cases step
  cases taken with
  | find slot =>
      rw [silenced.slot] at slot
      cases slot
  | @handle event finished bug =>
      constructor
      · apply silenced.setPipe
        rcases afterEvent_cases .deepgram event bug with ⟨_, after⟩ | after <;>
          simp [after]
      · intro e member
        rw [List.mem_singleton] at member
        rw [member]
        by_cases same : m = n
        · subst same
          rw [silenced.found event finished bug notice]
          cases event <;> rfl
        · cases event with
          | message text => cases finished <;> simp [Event.final, same]
          | _ => rfl
  | @ignore event finished bug =>
      refine ⟨silenced.setPipe ?_, by simp⟩
      rcases afterEvent_cases .deepgram event bug with ⟨_, after⟩ | after <;>
        simp [after]
  | lose | send | sendNothing | close | back =>
      exact ⟨silenced.setPipe (by simp), by simp [Event.final]⟩

/-- No step stores into the channel private. -/
theorem slot_kept {config : Config} {s s' : State} {act : Act}
    {events : List Event} (guarded : storesNothing s act = true)
    (step : (machine config).step s act = some (s', events)) :
    s'.control.slot = s.control.slot ∨ s'.control.slot = none := by
  simp only [machine, Sessions.step] at step
  cases act with
  | callStart metadata =>
      cases step
      exact .inl rfl
  | start n init ok =>
      rcases stepStart_slot step with same | ⟨attached, _⟩
      · exact .inl same
      · simp [storesNothing, attached] at guarded
  | callStop call text =>
      dsimp only at step
      split at step <;> cases step
      exact .inl rfl
  | hangup bug =>
      dsimp only at step
      split at step <;> cases step
      exact .inl rfl
  | cleanup caller =>
      obtain ⟨_, slot, _⟩ := stepCleanup_effect step
      exact slot
  | reaper n =>
      obtain ⟨control, _⟩ := stepReaper_control step
      rw [control]
      exact .inl rfl
  | lws n report =>
      obtain ⟨control, _⟩ := stepLws_control step
      rw [control]
      exact .inl rfl
  | notice n located =>
      obtain ⟨control, _⟩ := stepNotice_control step
      rw [control]
      exact .inl rfl

theorem Silenced.step {parse : Bytes → Option CJson} {n : Nat} {s s' : State}
    {act : Act} {events : List Event} (silenced : Silenced n s)
    (dialled : Dialled .deepgram s) (owned : Owned s.control)
    (guarded : storesNothing s act = true)
    (step : (machine ⟨.deepgram, parse⟩).step s act = some (s', events)) :
    Silenced n s' ∧ ∀ event ∈ events, event.final parse n = none := by
  by_cases served : act.served = true
  · cases act with
    | lws m report =>
        obtain ⟨_, _, _, _, _, _, _, _, silent⟩ := stepLws_effect step
        refine ⟨silenced.lws step, ?_⟩
        intro event member
        exact Event.unfinal_of_silent (silent event member)
    | notice m located => exact silenced.notice step
    | _ => cases served
  · simp only [Bool.not_eq_true] at served
    have silent := (dialled.outside owned served step).2
    refine ⟨⟨?_, ?_⟩, ?_⟩
    · rcases slot_kept guarded step with same | empty
      · rw [same]
        exact silenced.slot
      · exact empty
    · rw [silent.notices]
      exact silenced.found
    · intro event member
      exact Event.unfinal_of_silent (silent.events event member)

/-- Once a stop has cleared the channel private nothing final of its pipe is
passed on until a start stores its bug. -/
theorem nothing_final {parse : Bytes → Option CJson} {caller : Caller}
    {n held : Nat} {labels labels' : List Act} {trace later : List Event}
    {s s' : State}
    (before : (machine ⟨.deepgram, parse⟩).Run anyStep
      (machine ⟨.deepgram, parse⟩).initial labels trace s)
    (cleared : (s.control.cleanups caller).stage = .cleared n held)
    (empty : s.control.slot = none)
    (after : (machine ⟨.deepgram, parse⟩).Run storesNothing s labels' later
      s') : ∀ event ∈ later, event.final parse n = none := by
  have reached : Owned s.control ∧ Dialled .deepgram s ∧ Unreaped s ∧
      Unfinished s := by
    refine before.invariant (fun state => Owned state.control ∧
      Dialled .deepgram state ∧ Unreaped state ∧ Unfinished state)
      ⟨owned_fresh, dialled_fresh, unreaped_fresh, unfinished_fresh⟩ ?_
    intro state label next events holds _ step
    obtain ⟨owned, dialled, unreaped, unfinished⟩ := holds
    exact ⟨owned.step step, dialled.step owned step, unreaped.step owned step,
      unfinished.step step⟩
  obtain ⟨owned, dialled, unreaped, unfinished⟩ := reached
  have unheld := unreaped.owing caller n (by rw [cleared]; rfl)
  have silenced : Silenced n s := by
    refine ⟨empty, ?_⟩
    intro event finished bug found
    have unfinal := (unfinished n unheld).notice
    rw [found] at unfinal
    exact unfinal
  have whole : Owned s'.control ∧ Dialled .deepgram s' ∧ Silenced n s' ∧
      ∀ event ∈ later, event.final parse n = none := by
    refine after.induct (fun seen state => Owned state.control ∧
      Dialled .deepgram state ∧ Silenced n state ∧
      ∀ event ∈ seen, event.final parse n = none)
      ⟨owned, dialled, silenced, by simp⟩ ?_
    intro seen state label next events holds guarded step
    obtain ⟨owned, dialled, silenced, unfinal⟩ := holds
    obtain ⟨still, now⟩ := silenced.step dialled owned guarded step
    refine ⟨owned.step step, dialled.step owned step, still, ?_⟩
    intro event member
    rcases List.mem_append.mp member with earlier | present
    · exact unfinal event earlier
    · exact now event present
  exact whole.2.2.2

/-- From the moment a stop has cleared the channel private, as long as no start
stores its bug, the final responses are delivered if and only if there are
none. -/
theorem finals_delivered_iff (parse : Bytes → Option CJson) {call n held : Nat}
    {labels labels' : List Act} {trace later : List Event} {s s' : State}
    (before : (machine ⟨.deepgram, parse⟩).Run anyStep
      (machine ⟨.deepgram, parse⟩).initial labels trace s)
    (cleared : (s.control.cleanups (.stop call)).stage = .cleared n held)
    (empty : s.control.slot = none)
    (after : (machine ⟨.deepgram, parse⟩).Run storesNothing s labels' later
      s') :
    DeliversFinals parse n later s' ↔
      ((s'.pipes n).notice = .idle → finals parse n false later = []) := by
  have lost : later.filterMap (Event.final parse n) = [] :=
    List.filterMap_eq_nil_iff.mpr (nothing_final before cleared empty after)
  unfold DeliversFinals
  rw [lost]
  constructor
  · intro delivers idle
    exact (delivers idle).symm
  · intro none idle
    exact (none idle).symm

/-- `{"transcript":"h"}`, which is what every message parses to here. -/
def parseHello (_ : Bytes) : Option CJson :=
  some (.node .object none none
    [.node .string (some Deepgram.transcriptKey) (some [104]) []])

/-- A transcription is started and connected; a stop runs up to its clear. -/
def transcribesAndClears : List Act :=
  [.callStart []] ++ List.replicate 6 (.start 0 .success true) ++
    [.lws 0 .established] ++ List.replicate 3 (.notice 0 true) ++
    [.callStop 0 none] ++ cleans (.stop 0) 5

/-- The stop goes on; its reaper asks for the final results, one arrives, and
its callback returns. -/
def finalArrives : List Act :=
  cleans (.stop 0) 2 ++ [.reaper 0, .lws 0 (.receive []), .notice 0 true,
    .notice 0 true]

/-- The two runs, with the final response that arrives and is not passed on. -/
theorem final_arrives :
    ∃ trace s later s',
      (machine ⟨.deepgram, parseHello⟩).Run anyStep .fresh transcribesAndClears
        trace s ∧
      (s.control.cleanups (.stop 0)).stage = .cleared 0 0 ∧
      s.control.slot = none ∧
      (machine ⟨.deepgram, parseHello⟩).Run storesNothing s finalArrives later
        s' ∧
      (s'.pipes 0).notice = .idle ∧ finals parseHello 0 false later = [[]] ∧
      later.filterMap (Event.final parseHello 0) = [] := by
  let transcribes := machine ⟨.deepgram, parseHello⟩
  have clears : (transcribes.exec anyStep .fresh transcribesAndClears).isSome =
      true := rfl
  let first := (transcribes.exec anyStep .fresh transcribesAndClears).get clears
  have executed : transcribes.exec anyStep .fresh transcribesAndClears =
      some (first.1, first.2) := (Option.some_get clears).symm
  have finishes : (transcribes.exec storesNothing first.1 finalArrives).isSome =
      true := rfl
  let second := (transcribes.exec storesNothing first.1 finalArrives).get
    finishes
  have continued : transcribes.exec storesNothing first.1 finalArrives =
      some (second.1, second.2) := (Option.some_get finishes).symm
  exact ⟨first.2, first.1, second.2, second.1, Machine.run_of_exec executed,
    rfl, rfl, Machine.run_of_exec continued, rfl, rfl, rfl⟩

theorem finals_delivered_iff_of_stop :
    ∃ later s', finals parseHello 0 false later = [[]] ∧
      (DeliversFinals parseHello 0 later s' ↔
        ((s'.pipes 0).notice = .idle →
          finals parseHello 0 false later = [])) := by
  obtain ⟨trace, s, later, s', before, cleared, empty, after, _, arrived, _⟩ :=
    final_arrives
  exact ⟨later, s', arrived,
    finals_delivered_iff parseHello before cleared empty after⟩

theorem final_response_lost :
    ¬ ∀ (parse : Bytes → Option CJson) (call n held : Nat)
      (labels labels' : List Act) (trace later : List Event) (s s' : State),
      (machine ⟨.deepgram, parse⟩).Run anyStep
        (machine ⟨.deepgram, parse⟩).initial labels trace s →
      (s.control.cleanups (.stop call)).stage = .cleared n held →
      s.control.slot = none →
      (machine ⟨.deepgram, parse⟩).Run storesNothing s labels' later s' →
        DeliversFinals parse n later s' := by
  intro always
  obtain ⟨trace, s, later, s', before, cleared, empty, after, idle, arrived,
    passed⟩ := final_arrives
  have delivers := always parseHello 0 0 0 _ _ _ _ _ _ before cleared empty after
    idle
  rw [arrived, passed] at delivers
  cases delivers

end DrachtioModules.Sessions

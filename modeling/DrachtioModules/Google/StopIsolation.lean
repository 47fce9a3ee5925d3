import DrachtioModules.Google.Reaping

/-!
# A cleanup clears a channel private of another session

`google_speech_session_cleanup` resolves a bug, waits for the mutex of its
`cap_cb` and asks under that mutex whether the channel private is null, not
whether it still names the bug.  A stop that has waited while the session was
stopped and started anew clears the channel private of the new session, which a
later stop does not find.  The bug removed and the GStreamer deleted are always
the cleanup's own.
-/

namespace DrachtioModules.Google.Capture

open Transcribe (Caller Channel Life Notice Owner CaptureAct CaptureEvent
  Outside)

variable {κ : Type}

/-- The channel and the sessions of the module. -/
abbrev Sessions (κ : Type) := Family.State (Channel κ) (CapCb κ)

/-- What a step of session n leaves alone: the other sessions, and every channel
private that names one of them, unless the step stores its own bug there. -/
structure StopIsolated (s next : Sessions κ) (n : Nat)
    (made : List (Family.Event (CaptureEvent κ) Empty)) : Prop where
  others : ∀ m, m ≠ n → next.parts m = s.parts m
  cleared : ∀ caller bugname,
    .part n (.notice (.cleared caller bugname)) ∈ made →
    s.shared.privates bugname = some n
  found : ∀ bugname m, m ≠ n → s.shared.privates bugname = some m →
    next.shared.privates bugname = some m ∨
      .part n (.notice (.published bugname)) ∈ made

/-- A cleanup has asked, and has yet to clear the channel private. -/
def clearing : Owner Transcribe.Frame Critical Reap → Bool
  | .stop _ .clearing => true
  | _ => false

/-- The channel private names session n or nothing. -/
def rechecksOwn (c : Channel κ) (n : Nat) (s : CapCb κ) : Bool :=
  match s.owner with
  | .stop _ .checking =>
      decide (c.slot s.life = none ∨ c.slot s.life = some n)
  | _ => true

/-- No cleanup of the session the channel private names is about to clear it. -/
def slotSettled (s : Sessions κ) (n : Nat) : Bool :=
  match s.shared.slot (s.parts n).life with
  | none => true
  | some m => !clearing (s.parts m).owner

def isolates (s : Sessions κ) :
    Family.Act (CaptureAct κ) (Outside κ) → Bool
  | .part n (.stop _) => rechecksOwn s.shared n (s.parts n)
  | .part n (.control .publish) => slotSettled s n
  | _ => true

/-- A bug is resolved, removed or passed over. -/
def aside : CaptureEvent κ → Bool
  | .notice (.cleared _ _) | .notice (.published _) => false
  | _ => true

theorem privates_aside [DecidableEq κ] {n : Nat} {c : Channel κ}
    {events : List (CaptureEvent κ)}
    (quiet : ∀ event ∈ events, aside event = true) :
    (events.foldl (Transcribe.writes n) c).privates = c.privates := by
  induction events generalizing c with
  | nil => rfl
  | cons event events ih =>
      rw [List.foldl_cons,
        ih fun other member => quiet other (List.mem_cons_of_mem _ member)]
      have here := quiet event List.mem_cons_self
      cases event with
      | lifetime => rfl
      | notice made =>
          cases made with
          | cleared | published => cases here
          | _ => rfl

/-- The steps of a session by what they do to its channel private. -/
inductive SlotStep (s : CapCb κ) :
    CaptureAct κ → CapCb κ → List (CaptureEvent κ) → Prop where
  | aside {act : CaptureAct κ} {next : CapCb κ}
      {events : List (CaptureEvent κ)}
      (quiet : ∀ event ∈ events, aside event = true)
      (owner : clearing next.owner = true → clearing s.owner = true)
      (named : next.life.bugname = s.life.bugname ∨
        s.life.start = .notCalled) :
      SlotStep s act next events
  | check {caller : Caller} (owner : s.owner = .stop caller .checking) :
      SlotStep s (.stop true) { s with owner := .stop caller .clearing } []
  | clear {ok : Bool} {caller : Caller} {bugname : κ}
      (owner : s.owner = .stop caller .clearing)
      (named : s.life.bugname = some bugname) :
      SlotStep s (.stop ok)
        { s with owner := .stop caller (.reaping true .loading) }
        [.notice (.cleared caller bugname)]
  | publish {bugname : κ} (attached : s.life.start = .attached)
      (named : s.life.bugname = some bugname) :
      SlotStep s (.control .publish)
        { s with life := s.life.setStart (.returned true) }
        [.notice (.published bugname)]

/-- The step of a GStreamer's life stores and clears nothing. -/
theorem aside_of_lifted {outcome : Option (CapCb κ × List Transcribe.Lifetime)}
    {next : CapCb κ} {made : List (CaptureEvent κ)}
    (lifted : Transcribe.lift outcome = some (next, made)) :
    ∀ event ∈ made, aside event = true := by
  simp only [Transcribe.lift] at lifted
  split at lifted <;> cases lifted
  intro event member
  obtain ⟨inside, _, rfl⟩ := List.mem_map.mp member
  rfl

theorem reap_same {s next : CapCb κ} {stage stage' : Reap}
    {events : List Transcribe.Lifetime}
    (step : stepReap s stage = some (next, stage', events)) :
    next.owner = s.owner ∧ next.life = s.life := by
  cases stage with
  | loading | joining | deleting =>
      simp only [stepReap] at step
      repeat' split at step
      all_goals cases step
      all_goals exact ⟨rfl, rfl⟩
  | writing | nulling =>
      cases step
      exact ⟨rfl, rfl⟩
  | reaped => cases step

variable {s next : CapCb κ} {events : List Transcribe.Lifetime}

/-- A step that leaves the bugname, and no cleanup about to clear. -/
def Quiet (s next : CapCb κ) : Prop :=
  (clearing next.owner = true → clearing s.owner = true) ∧
    next.life.bugname = s.life.bugname

theorem quiet_of_free (free : clearing next.owner = false)
    (named : next.life.bugname = s.life.bugname) : Quiet s next := by
  refine ⟨?_, named⟩
  intro here
  rw [free] at here
  cases here

theorem quiet_init {ok vad : Bool}
    (step : stepInit s ok vad = some (next, events)) : Quiet s next := by
  simp only [stepInit] at step
  split at step
  all_goals
    repeat' split at step
  all_goals
    cases step
    try exact ⟨id, rfl⟩

theorem quiet_add {ok : Bool} (step : stepAdd s ok = some (next, events)) :
    Quiet s next := by
  simp only [stepAdd] at step
  split at step
  · split at step <;> cases step
    · exact ⟨id, rfl⟩
    · exact quiet_of_free rfl rfl
  · cases step

theorem quiet_orphan (step : stepOrphanCleanup s = some (next, events)) :
    Quiet s next := by
  simp only [stepOrphanCleanup] at step
  split at step
  · cases step
    exact quiet_of_free rfl rfl
  · split at step <;> cases step
    rename_i taken
    exact quiet_of_free rfl (by rw [(reap_same taken).2])
  · cases step

theorem quiet_lock {caller : Caller}
    (step : s.lock caller = some (next, events)) : Quiet s next := by
  simp only [CapCb.lock] at step
  split at step
  · split at step <;> cases step
    exact quiet_of_free rfl rfl
  · cases step

theorem quiet_frame {act : Transcribe.FrameAct}
    (step : stepFrame s act = some (next, events)) : Quiet s next := by
  simp only [stepFrame] at step
  split at step
  · split at step <;> cases step <;> exact quiet_of_free rfl rfl
  · cases step
    exact ⟨id, rfl⟩
  · cases step
    exact quiet_of_free rfl rfl
  · cases step
  · split at step <;> cases step
    exact ⟨id, rfl⟩
  · split at step <;> cases step
    exact quiet_of_free rfl rfl
  · cases step

theorem quiet_reader {done : Bool}
    (step : stepReader s done = some (next, events)) : Quiet s next := by
  simp only [stepReader] at step
  split at step
  · split at step <;> cases step <;> exact ⟨id, rfl⟩
  · cases step
  · cases step

theorem slot_of_control {life : Life κ Init} {act : Transcribe.Control κ}
    {notices : List (Notice κ)}
    (step : Life.Step .checking s.life act life notices) :
    SlotStep s (.control act) { s with life := life }
      (notices.map .notice) := by
  cases step with
  | call fresh => exact .aside (by simp [aside]) id (.inr fresh)
  | publish attached named => exact .publish attached named
  | replace | enter | proceed | resolve | remove | removeGone | removed
  | hangup =>
      exact .aside (by simp [aside]) id (.inl rfl)

theorem slot_of_cleanup {ok : Bool} {made : List (CaptureEvent κ)}
    (step : stepCleanup s ok = some (next, made)) :
    SlotStep s (.stop ok) next made := by
  cases owner : s.owner with
  | nobody | frame | start => simp [stepCleanup, owner] at step
  | stop caller critical =>
      cases critical with
      | checking =>
          cases ok with
          | true =>
              simp only [stepCleanup, owner, if_true] at step
              cases step
              exact .check owner
          | false =>
              simp only [stepCleanup, owner] at step
              cases step
              exact .aside (by simp) (fun here => by cases here) (.inl rfl)
      | clearing =>
          simp only [stepCleanup, owner] at step
          split at step <;> cases step
          rename_i named
          exact .clear owner named
      | reaping found stage =>
          cases stage with
          | reaped =>
              simp only [stepCleanup, owner] at step
              repeat' split at step
              all_goals
                cases step
                exact .aside (by simp [aside]) (fun here => by cases here)
                  (.inl rfl)
          | _ =>
              simp only [stepCleanup, owner] at step
              split at step <;> cases step
              rename_i taken
              refine .aside ?_ (fun here => by cases here)
                (.inl (by rw [(reap_same taken).2]))
              intro event member
              obtain ⟨inside, _, rfl⟩ := List.mem_map.mp member
              rfl

theorem slotStep_cases {act : CaptureAct κ} {made : List (CaptureEvent κ)}
    (step : sessionStep s act = some (next, made)) :
    SlotStep s act next made := by
  have lifted : ∀ {outcome : Option (CapCb κ × List Transcribe.Lifetime)},
      Transcribe.lift outcome = some (next, made) →
      (∀ events, outcome = some (next, events) → Quiet s next) →
      SlotStep s act next made := by
    intro outcome lifted quiet
    obtain ⟨owner, named⟩ := quiet _ (Transcribe.lift_cases lifted)
    exact .aside (aside_of_lifted lifted) owner (.inl named)
  cases act with
  | control act =>
      simp only [sessionStep] at step
      split at step <;> cases step
      rename_i taken
      exact slot_of_control (Life.step_cases taken)
  | init ok vad => exact lifted step fun _ => quiet_init
  | add ok => exact lifted step fun _ => quiet_add
  | cleanup => exact lifted step fun _ => quiet_orphan
  | lock caller => exact lifted step fun _ => quiet_lock
  | stop ok => exact slot_of_cleanup step
  | frame act => exact lifted step fun _ => quiet_frame
  | thread done => exact lifted step fun _ => quiet_reader

/-- A cleanup about to clear clears the name of its own bug. -/
structure Slotted (s : Sessions κ) : Prop where
  kept : ∀ n, Kept (s.parts n)
  slot : ∀ n, clearing (s.parts n).owner = true →
    s.shared.slot (s.parts n).life = some n

theorem slotted_fresh [DecidableEq κ] : Slotted (sessions κ).machine.initial := by
  constructor
  · exact fun _ => kept_fresh
  · intro n here
    cases here

theorem slot_of_named {c : Channel κ} {life : Life κ Init} {bugname : κ}
    (named : life.bugname = some bugname) :
    c.slot life = c.privates bugname := by
  rw [Channel.slot, named]
  rfl

theorem named_of_slot {c : Channel κ} {life : Life κ Init} {n : Nat}
    (slot : c.slot life = some n) :
    ∃ bugname, life.bugname = some bugname ∧ c.privates bugname = some n := by
  exact Option.bind_eq_some_iff.mp slot

theorem Slotted.moved {s : Sessions κ} (slotted : Slotted s) {n : Nat}
    {c : Channel κ} {part : CapCb κ} (kept : Kept part)
    (own : clearing part.owner = true → c.slot part.life = some n)
    (others : ∀ m bugname, m ≠ n → clearing (s.parts m).owner = true →
      (s.parts m).life.bugname = some bugname →
      s.shared.privates bugname = some m → c.privates bugname = some m) :
    Slotted ⟨c, Function.update s.parts n part⟩ := by
  constructor
  · intro m
    by_cases same : m = n
    · subst same
      simpa using kept
    · simpa [Function.update_of_ne same] using slotted.kept m
  · intro m here
    by_cases same : m = n
    · subst same
      simp only [Function.update_self] at here ⊢
      exact own here
    · simp only [Function.update_of_ne same] at here ⊢
      obtain ⟨bugname, named, slot⟩ := named_of_slot (slotted.slot m here)
      rw [slot_of_named named]
      exact others m bugname same here named slot

theorem others_of_update {s : Sessions κ} {n : Nat} {c : Channel κ}
    {part : CapCb κ} (m : Nat) (other : m ≠ n) :
    (⟨c, Function.update s.parts n part⟩ : Sessions κ).parts m = s.parts m := by
  simp [Function.update_of_ne other]

theorem Slotted.part [DecidableEq κ] {s : Sessions κ} (slotted : Slotted s) {n : Nat}
    {act : CaptureAct κ} {part : CapCb κ} {made : List (CaptureEvent κ)}
    (guarded : isolates s (.part n act) = true)
    (read : reads s.shared n (s.parts n) act = true)
    (step : sessionStep (s.parts n) act = some (part, made)) :
    Slotted ⟨made.foldl (Transcribe.writes n) s.shared,
        Function.update s.parts n part⟩ ∧
      StopIsolated s ⟨made.foldl (Transcribe.writes n) s.shared,
        Function.update s.parts n part⟩ n (made.map (.part n)) := by
  have kept := ((slotted.kept n).step step).1
  cases slotStep_cases step with
  | aside quiet owner named =>
      have same := privates_aside (n := n) (c := s.shared) quiet
      refine ⟨slotted.moved kept ?_ ?_, others_of_update, ?_, ?_⟩
      · intro here
        have before := owner here
        have slot := slotted.slot n before
        rcases named with named | uncalled
        · rw [Channel.slot, same, named]
          exact slot
        · rw [(slotted.kept n).unowned (by rw [uncalled]; rfl)] at before
          cases before
      · intro m bugname _ _ _ slot
        rw [same]
        exact slot
      · intro caller bugname member
        obtain ⟨event, inside, here⟩ := List.mem_map.mp member
        cases here
        have noted := quiet _ inside
        cases noted
      · intro bugname m _ slot
        left
        rw [same]
        exact slot
  | check owner =>
      have slot : s.shared.slot (s.parts n).life = some n := by
        simp only [reads, owner, decide_eq_true_eq] at read
        simp only [isolates, rechecksOwn, owner, decide_eq_true_eq] at guarded
        rcases guarded with empty | mine
        · rw [empty] at read
          cases read
        · exact mine
      refine ⟨slotted.moved kept (fun _ => slot) ?_, others_of_update, ?_, ?_⟩
      · exact fun _ _ _ _ _ slot => slot
      · intro _ _ member
        cases member
      · exact fun _ _ _ slot => .inl slot
  | @clear _ caller bugname owner named =>
      have slot := slotted.slot n (by rw [owner]; rfl)
      rw [slot_of_named named] at slot
      have kept' : ∀ {other m}, m ≠ n → s.shared.privates other = some m →
          Function.update s.shared.privates bugname none other = some m := by
        intro other m different there
        by_cases same : other = bugname
        · rw [same, slot] at there
          cases there
          exact (different rfl).elim
        · rw [Function.update_of_ne same]
          exact there
      refine ⟨slotted.moved kept (fun here => by cases here) ?_,
        others_of_update, ?_, ?_⟩
      · exact fun _ _ different _ _ there => kept' different there
      · intro caller' bugname' member
        obtain ⟨event, inside, here⟩ := List.mem_map.mp member
        cases here
        cases List.mem_singleton.mp inside
        exact slot
      · exact fun _ _ different there => .inl (kept' different there)
  | @publish bugname attached named =>
      have settled : ∀ m, s.shared.privates bugname = some m →
          clearing (s.parts m).owner = false := by
        intro m there
        simpa [isolates, slotSettled, slot_of_named named, there] using guarded
      refine ⟨slotted.moved kept ?_ ?_, others_of_update, ?_, ?_⟩
      · intro _
        refine (slot_of_named ?_).trans (Function.update_self ..)
        exact named
      · intro m other different here _ there
        by_cases same : other = bugname
        · rw [same] at there
          rw [settled m there] at here
          cases here
        · exact (Function.update_of_ne same ..).trans there
      · intro caller' bugname' member
        obtain ⟨event, inside, here⟩ := List.mem_map.mp member
        cases here
        cases List.mem_singleton.mp inside
      · intro other m different there
        by_cases same : other = bugname
        · subst same
          exact .inr (by simp)
        · exact .inl ((Function.update_of_ne same ..).trans there)

theorem privates_of_outside [DecidableEq κ] {c c' : Channel κ} {act : Outside κ}
    (step : c.stepOutside act = some c') : c'.privates = c.privates := by
  cases act with
  | callStop bugname =>
      cases step
      rfl
  | giveUp caller =>
      simp only [Channel.stepOutside] at step
      split at step
      · split at step <;> cases step
        rfl
      · cases step

theorem Slotted.step [DecidableEq κ] {s next : Sessions κ}
    {label : Family.Act (CaptureAct κ) (Outside κ)}
    {made : List (Family.Event (CaptureEvent κ) Empty)} (slotted : Slotted s)
    (guarded : isolates s label = true)
    (step : (sessions κ).machine.step s label = some (next, made)) :
    Slotted next := by
  cases Family.step_cases step with
  | part read taken => exact (slotted.part guarded read taken).1
  | common taken =>
      rename_i act shared events
      have same : shared.privates = s.shared.privates := by
        simp only [sessions, Transcribe.common] at taken
        split at taken <;> cases taken
        rename_i outside
        exact privates_of_outside outside
      refine ⟨slotted.kept, ?_⟩
      intro n here
      rw [Channel.slot, same]
      exact slotted.slot n here

/-- Whatever starts, stops and CLOSE callbacks interleave on the channels: while
each second read of a channel private finds the resolved bug or nothing, and no
start stores its bug between such a read and the clear, no step of a session
touches another one or the channel private that names it. -/
theorem cleanup_isolated [DecidableEq κ]
    {labels : List (Family.Act (CaptureAct κ) (Outside κ))}
    {trace : List (Family.Event (CaptureEvent κ) Empty)} {s : Sessions κ}
    (run : (sessions κ).machine.Run isolates (sessions κ).machine.initial labels
      trace s) {n : Nat} {act : CaptureAct κ} {next : Sessions κ}
    {made : List (Family.Event (CaptureEvent κ) Empty)}
    (guarded : isolates s (.part n act) = true)
    (step : (sessions κ).machine.step s (.part n act) = some (next, made)) :
    StopIsolated s next n made := by
  have slotted : Slotted s := by
    refine run.invariant Slotted slotted_fresh ?_
    intro state label next events slotted guarded step
    exact slotted.step guarded step
  cases Family.step_cases step with
  | part read taken => exact (slotted.part guarded read taken).2

/-- Two stops race: the first is about to clear the channel private. -/
theorem cleanup_isolated_of_race :
    ∃ labels trace s next made,
      (sessions Nat).machine.Run isolates (sessions Nat).machine.initial labels
        trace s ∧
      (sessions Nat).machine.step s (.part 0 (.stop true)) =
        some (next, made) ∧
      .part 0 (.notice (.cleared (.stop 1) 7)) ∈ made ∧
      StopIsolated s next 0 made := by
  have executed : ((sessions Nat).machine.exec isolates
      (sessions Nat).machine.initial
      (List.flatten [Transcribe.startsCapture 0 7 4,
        [.common (.callStop 7), .part 0 (.control (.resolve (.stop 0)))],
        Transcribe.stopsCapture 0 1 7, [.part 0 (.stop true)]])).map
      (fun outcome => decide (isolates outcome.1 (.part 0 (.stop true)) = true ∧
        ((sessions Nat).machine.step outcome.1 (.part 0 (.stop true))).map
          (fun after => decide
            (.part 0 (.notice (.cleared (.stop 1) 7)) ∈ after.2)) =
          some true)) = some true := by
    decide
  obtain ⟨s, trace, run, observed⟩ := Machine.exists_run_of_exec _ executed
  obtain ⟨guarded, after⟩ := of_decide_eq_true observed
  obtain ⟨⟨next, made⟩, step, cleared⟩ := Option.map_eq_some_iff.mp after
  exact ⟨_, trace, s, next, made, run, step, of_decide_eq_true cleared,
    cleanup_isolated run guarded step⟩

/-- The first stop resolves bug 0 and waits; a second one stops the session and
a new one starts; the first then clears the channel private that names bug 1. -/
theorem cleanup_clears_new_session :
    ¬ ∀ (labels : List (Family.Act (CaptureAct Nat) (Outside Nat)))
      (trace : List (Family.Event (CaptureEvent Nat) Empty))
      (s : Sessions Nat),
      (sessions Nat).machine.Run anyStep (sessions Nat).machine.initial labels
        trace s →
      ∀ n act next made,
        (sessions Nat).machine.step s (.part n act) = some (next, made) →
        StopIsolated s next n made := by
  intro always
  have executed : ((sessions Nat).machine.exec anyStep
      (sessions Nat).machine.initial
      (List.flatten [Transcribe.startsCapture 0 7 4,
        [.common (.callStop 7), .part 0 (.control (.resolve (.stop 0)))],
        Transcribe.stopsCapture 0 1 7,
        List.replicate 4 (.part 0 (.stop true)),
        [.part 0 (.thread true)], List.replicate 4 (.part 0 (.stop true)),
        Transcribe.startsCapture 1 7 4,
        [.part 0 (.lock (.stop 0)), .part 0 (.stop true)]])).map
      (fun outcome => decide (outcome.1.shared.privates 7 = some 1 ∧
        ((sessions Nat).machine.step outcome.1 (.part 0 (.stop true))).map
          (fun after => decide
            (.part 0 (.notice (.cleared (.stop 0) 7)) ∈ after.2)) =
          some true)) = some true := by
    decide
  obtain ⟨s, trace, run, observed⟩ := Machine.exists_run_of_exec _ executed
  obtain ⟨named, after⟩ := of_decide_eq_true observed
  obtain ⟨⟨next, made⟩, step, cleared⟩ := Option.map_eq_some_iff.mp after
  have isolated := always _ trace s run 0 _ next made step
  have mine := isolated.cleared _ _ (of_decide_eq_true cleared)
  rw [named] at mine
  cases mine

end DrachtioModules.Google.Capture

import DrachtioModules.Sessions.Disposal
import DrachtioModules.Tally

/-!
# The life of a mod_deepgram_transcribe pipe

`dg_transcribe_session_init` connects the pipe it creates and counts it in
`g_activePipes`; only a reaper can let it go.  Where every start stores its bug
in an empty channel private, before the CLOSE callback of that bug has read it,
each such pipe is handed to exactly one reaper and the counter is the number of
pipes whose reaper has not finished.
-/

namespace DrachtioModules.Sessions

/-- The reaper of the pipe has not finished yet. -/
def Reaper.running : Reaper → Bool
  | .spawned | .waiting | .deleted => true
  | .none | .done => false

/-- The start has counted its pipe in `g_activePipes`. -/
def StartStage.counted : StartStage → Bool
  | .notCalled | .entered | .replacing | .initializing | .constructed
  | .counting => false
  | _ => true

/-- The stages a start of mod_deepgram_transcribe does not reach. -/
def StartStage.foreign : StartStage → Bool
  | .releasing | .published | .connecting => true
  | _ => false

/-- The pipe is counted: its session still holds it, or its reaper runs. -/
def live (s : State) (n : Nat) : Bool :=
  (s.control.techPvts n).audioPipe && (s.control.starts n).counted ||
    (s.pipes n).reaper.running

structure Counted (trace : List Event) (s : State) : Prop where
  uncounted : ∀ n, (s.control.starts n).counted = false →
    .activated n ∉ trace
  activated : ∀ n, .activated n ∈ trace →
    .created n ∈ trace ∧ .deleted n ∉ trace
  reaped : ∀ n, (s.pipes n).reaper ≠ .none → .handed n ∈ trace
  native : ∀ n, (s.control.starts n).foreign = false
  active : s.activePipes = tally (live s) s.control.idxCallCount

theorem counted_fresh : Counted [] .fresh := by
  constructor <;>
    simp [State.fresh, Control.fresh, Pipe.fresh, tally, StartStage.foreign]

theorem Balanced.unheld {trace : List Event} {c : Control} {n : Nat}
    (balanced : Balanced trace c) (handed : .handed n ∈ trace) :
    (c.techPvts n).audioPipe = false := by
  have positive := List.count_pos_iff.mpr handed
  have balance := balanced.balance n
  have single := balanced.single n
  by_contra present
  simp only [Bool.not_eq_false] at present
  rw [present, if_pos rfl] at balance
  omega

theorem Balanced.held {trace : List Event} {c : Control} {n : Nat}
    (balanced : Balanced trace c)
    (present : (c.techPvts n).audioPipe = true) :
    .created n ∈ trace ∧ .deleted n ∉ trace ∧ .handed n ∉ trace := by
  have balance := balanced.balance n
  have single := balanced.single n
  rw [present, if_pos rfl] at balance
  refine ⟨List.count_pos_iff.mp (by omega), ?_, ?_⟩
  · intro member
    have positive := List.count_pos_iff.mpr member
    omega
  · intro member
    have positive := List.count_pos_iff.mpr member
    omega

theorem Counted.still {trace events : List Event} {s s' : State}
    (counted : Counted trace s)
    (unactivated : ∀ n, .activated n ∉ events)
    (undeleted : ∀ n, .activated n ∈ trace → .deleted n ∉ events)
    (uncounted : ∀ n, (s'.control.starts n).counted = false →
      (s.control.starts n).counted = false)
    (reaped : ∀ n, (s'.pipes n).reaper ≠ .none →
      (s.pipes n).reaper ≠ .none ∨ .handed n ∈ events)
    (native : ∀ n, (s'.control.starts n).foreign = false)
    (activePipes : s'.activePipes = s.activePipes)
    (bound : s'.control.idxCallCount = s.control.idxCallCount)
    (same : ∀ n, live s' n = live s n) :
    Counted (trace ++ events) s' := by
  refine ⟨?_, ?_, ?_, native, ?_⟩
  · intro n stage member
    rcases List.mem_append.mp member with before | now
    · exact counted.uncounted n (uncounted n stage) before
    · exact unactivated n now
  · intro n member
    rcases List.mem_append.mp member with before | now
    · obtain ⟨created, kept⟩ := counted.activated n before
      refine ⟨List.mem_append_left _ created, ?_⟩
      intro deleted
      rcases List.mem_append.mp deleted with earlier | now
      · exact kept earlier
      · exact undeleted n before now
    · exact (unactivated n now).elim
  · intro n running
    rcases reaped n running with before | now
    · exact List.mem_append_left _ (counted.reaped n before)
    · exact List.mem_append_right _ now
  · rw [activePipes, bound, counted.active]
    exact (tally_congr fun n _ => same n).symm

theorem Counted.move {trace events : List Event} {s s' : State} {n : Nat}
    {stage : StartStage} (counted : Counted trace s)
    (control : s'.control.starts = Function.update s.control.starts n stage)
    (pipes : ∀ m, (s'.pipes m).reaper = (s.pipes m).reaper)
    (activePipes : s'.activePipes = s.activePipes)
    (bound : s'.control.idxCallCount = s.control.idxCallCount)
    (techPvts : ∀ m, m ≠ n → (s'.control.techPvts m).audioPipe =
      (s.control.techPvts m).audioPipe)
    (held : ((s'.control.techPvts n).audioPipe && stage.counted) =
      ((s.control.techPvts n).audioPipe && (s.control.starts n).counted))
    (later : stage.counted = false → (s.control.starts n).counted = false)
    (native : stage.foreign = false)
    (unactivated : ∀ m, .activated m ∉ events)
    (undeleted : ∀ m, .activated m ∈ trace → .deleted m ∉ events) :
    Counted (trace ++ events) s' := by
  have stages : ∀ m, s'.control.starts m =
      if m = n then stage else s.control.starts m := by
    intro m
    rw [control]
    exact Function.update_apply ..
  refine counted.still unactivated undeleted ?_ ?_ ?_ activePipes bound ?_
  · intro m here
    rw [stages] at here
    split at here
    · rename_i same
      exact same ▸ later here
    · exact here
  · intro m here
    rw [pipes] at here
    exact .inl here
  · intro m
    rw [stages]
    split
    · exact native
    · exact counted.native m
  · intro m
    unfold live
    rw [pipes, stages]
    split
    · rename_i same
      rw [same, held]
    · rename_i different
      rw [techPvts m different]

theorem Counted.count {trace : List Event} {s : State} {n : Nat}
    (counted : Counted trace s) (disposal : Disposal trace s)
    (before : s.control.starts n = .counting) :
    Counted (trace ++ [.activated n])
      { s with
        control := s.control.setStart n .adding
        activePipes := s.activePipes + 1 } := by
  have present := disposal.kept.relied n (by rw [before]; rfl)
  obtain ⟨created, undeleted, unhanded⟩ := disposal.balanced.held present
  have idle : (s.pipes n).reaper = .none := by
    by_contra running
    exact unhanded (counted.reaped n running)
  have within : n < s.control.idxCallCount :=
    disposal.owned.below (by simp [before])
  refine ⟨?_, ?_, ?_, ?_, ?_⟩
  · intro m stage member
    rw [Control.starts_setStart] at stage
    split at stage
    · cases stage
    · rename_i different
      have earlier : .activated m ∈ trace := by
        simpa [different] using member
      exact counted.uncounted m stage earlier
  · intro m member
    by_cases same : m = n
    · subst same
      exact ⟨List.mem_append_left _ created, by simpa using undeleted⟩
    · have earlier : .activated m ∈ trace := by simpa [same] using member
      obtain ⟨made, kept⟩ := counted.activated m earlier
      exact ⟨List.mem_append_left _ made, by simpa using kept⟩
  · intro m running
    exact List.mem_append_left _ (counted.reaped m running)
  · intro m
    rw [Control.starts_setStart]
    split
    · rfl
    · exact counted.native m
  · dsimp only [Control.setStart]
    rw [counted.active]
    refine (tally_raise within ?_ ?_ ?_).symm
    · simp [live, before, StartStage.counted, idle, Reaper.running]
    · simp [live, present, StartStage.counted]
    · intro m different
      simp [live, different]

theorem Counted.hand {trace events : List Event} {s s' : State} {n : Nat}
    (counted : Counted trace s)
    (present : (s.control.techPvts n).audioPipe = true)
    (stage : (s.control.starts n).counted = true)
    (starts : ∀ m, (s'.control.starts m).counted =
      (s.control.starts m).counted)
    (native : ∀ m, (s'.control.starts m).foreign = false)
    (techPvts : ∀ m, m ≠ n → (s'.control.techPvts m).audioPipe =
      (s.control.techPvts m).audioPipe)
    (spawned : (s'.pipes n).reaper = .spawned)
    (pipes : ∀ m, m ≠ n → s'.pipes m = s.pipes m)
    (activePipes : s'.activePipes = s.activePipes)
    (bound : s'.control.idxCallCount = s.control.idxCallCount)
    (unactivated : ∀ m, .activated m ∉ events)
    (undeleted : ∀ m, .deleted m ∉ events)
    (handed : .handed n ∈ events) : Counted (trace ++ events) s' := by
  refine counted.still unactivated (fun m _ => undeleted m) ?_ ?_ native
    activePipes bound ?_
  · intro m here
    rw [← starts]
    exact here
  · intro m running
    by_cases same : m = n
    · exact .inr (same ▸ handed)
    · rw [pipes m same] at running
      exact .inl running
  · intro m
    unfold live
    rw [starts]
    by_cases same : m = n
    · subst same
      simp [present, stage, spawned, Reaper.running]
    · rw [pipes m same, techPvts m same]

theorem Counted.start {trace events : List Event} {s s' : State} {n : Nat}
    {init : Init} {ok : Bool} (counted : Counted trace s)
    (disposal : Disposal trace s)
    (step : stepStart .deepgram s n init ok = some (s', events)) :
    Counted (trace ++ events) s' := by
  obtain ⟨_, stage, taken⟩ := stepStart_cases step
  have native := counted.native n
  rw [stage] at native
  have inactive := counted.uncounted n
  rw [stage] at inactive
  have null (fresh : (s.control.starts n).uncreated = true) :=
    (disposal.balanced.absent fresh).1
  rw [stage] at null
  cases taken with
  | release | reach | reachNull | connect => cases native
  | decline =>
      exact counted.move rfl (fun _ => rfl) rfl rfl (fun _ _ => rfl)
        (by simp [Control.setStart, null rfl])
        (by simp [StartStage.counted]) rfl (by simp) (by simp)
  | fail =>
      refine counted.move rfl (fun _ => rfl) rfl rfl (fun _ _ => rfl)
        (by simp [Control.setStart, null rfl])
        (by simp [StartStage.counted]) rfl (by simp) ?_
      intro m active deleted
      have same : m = n := by simpa using deleted
      exact inactive rfl (same ▸ active)
  | construct =>
      refine counted.move rfl (fun _ => rfl) rfl rfl ?_
        (by simp [Control.setStart, stage, StartStage.counted])
        (by simp [stage, StartStage.counted]) rfl (by simp) (by simp)
      intro m different
      simp [Control.setStart, Control.setTechPvt, different]
  | dial =>
      exact counted.move rfl (reaper_setPipe rfl) rfl rfl (fun _ _ => rfl)
        (by simp [State.setPipe, Control.setStart, stage, StartStage.counted])
        (by simp [stage, StartStage.counted]) rfl (by simp) (by simp)
  | count => exact counted.count disposal stage
  | handNull absent =>
      have present := disposal.kept.relied n (by rw [stage]; rfl)
      rw [absent] at present
      cases present
  | hand present =>
      refine counted.hand present (by rw [stage]; rfl) ?_ ?_ ?_ ?_ ?_ rfl rfl
        (by simp) (by simp) (by simp)
      · intro m
        by_cases same : m = n
        · subst same
          simp [State.setPipe, Control.setStart, stage, StartStage.counted]
        · simp [State.setPipe, Control.setStart, Control.setTechPvt, same]
      · intro m
        by_cases same : m = n
        · subst same
          simp [State.setPipe, Control.setStart, StartStage.foreign]
        · simpa [State.setPipe, Control.setStart, Control.setTechPvt, same]
            using counted.native m
      · intro m different
        simp [State.setPipe, Control.setStart, Control.setTechPvt, different]
      · simp [State.setPipe]
      · intro m different
        simp [State.setPipe, different]
  | _ =>
      exact counted.move rfl (fun _ => rfl) rfl rfl (fun _ _ => rfl)
        (by simp [Control.setStart, Control.call, stage, StartStage.counted])
        (by simp [stage, StartStage.counted]) rfl (by simp) (by simp)

theorem Counted.elsewhere {trace events : List Event} {s s' : State}
    (counted : Counted trace s)
    (starts : s'.control.starts = s.control.starts)
    (audioPipe : ∀ n, (s'.control.techPvts n).audioPipe =
      (s.control.techPvts n).audioPipe)
    (reapers : ∀ n, (s'.pipes n).reaper = (s.pipes n).reaper)
    (activePipes : s'.activePipes = s.activePipes)
    (bound : s'.control.idxCallCount = s.control.idxCallCount)
    (unactivated : ∀ n, .activated n ∉ events)
    (undeleted : ∀ n, .deleted n ∉ events) : Counted (trace ++ events) s' := by
  refine counted.still unactivated (fun n _ => undeleted n) ?_ ?_ ?_
    activePipes bound ?_
  · rw [starts]
    exact fun _ => id
  · intro n running
    rw [reapers] at running
    exact .inl running
  · rw [starts]
    exact counted.native
  · intro n
    unfold live
    rw [starts, audioPipe, reapers]

theorem Counted.cleanup {trace events : List Event} {s s' : State}
    {caller : Caller} (counted : Counted trace s)
    (disposal : Disposal trace s)
    (step : stepCleanup .deepgram s caller = some (s', events)) :
    Counted (trace ++ events) s' := by
  obtain ⟨_, stage, taken⟩ := stepCleanup_cases step
  cases taken with
  | lock | yields =>
      exact counted.elsewhere rfl (audioPipe_setTechPvt rfl) (fun _ => rfl) rfl
        rfl (by simp) (by simp)
  | @hand bug held present =>
      have stored := disposal.owned.resolved caller bug (by rw [stage]; rfl)
      have included : (s.control.starts bug).counted = true := by
        cases here : s.control.starts bug <;>
          simp_all [StartStage.stored, StartStage.counted]
      refine counted.hand present included (fun _ => rfl) counted.native ?_ ?_
        ?_ rfl rfl (by simp) (by simp) (by simp)
      · intro m different
        simp [State.setPipe, Control.setCleanup, Control.setTechPvt, different]
      · simp [State.setPipe]
      · intro m different
        simp [State.setPipe, different]
  | @destroy bug held present =>
      rw [disposal.kept.destroyed caller bug held stage] at present
      cases present
  | @destroyNull bug held absent =>
      exact counted.elsewhere rfl (audioPipe_setTechPvt absent.symm)
        (fun _ => rfl) rfl rfl (by simp) (by simp)
  | _ =>
      exact counted.elsewhere rfl (fun _ => rfl) (fun _ => rfl) rfl rfl
        (by simp) (by simp)

theorem Counted.lws {trace events : List Event} {s s' : State} {n : Nat}
    {report : Lws} (counted : Counted trace s)
    (step : stepLws s n report = some (s', events)) :
    Counted (trace ++ events) s' := by
  obtain ⟨_, taken⟩ := stepLws_cases step
  cases taken <;>
    exact counted.elsewhere rfl (fun _ => rfl) (reaper_setPipe rfl) rfl rfl
      (by simp) (by simp)

theorem Counted.notice {config : Config} {trace events : List Event}
    {s s' : State} {n : Nat} {located : Bool} (counted : Counted trace s)
    (step : stepNotice config s n located = some (s', events)) :
    Counted (trace ++ events) s' := by
  obtain ⟨_, _, taken⟩ := stepNotice_cases step
  cases taken <;>
    exact counted.elsewhere rfl (fun _ => rfl) (reaper_setPipe rfl) rfl rfl
      (by simp) (by simp)

theorem Counted.reap {trace events : List Event} {s : State} {n : Nat}
    {pipe : Pipe} (counted : Counted trace s)
    (before : (s.pipes n).reaper.running = true)
    (after : pipe.reaper.running = true)
    (unactivated : ∀ m, .activated m ∉ events)
    (undeleted : ∀ m, .deleted m ∉ events) :
    Counted (trace ++ events) (s.setPipe n pipe) := by
  refine counted.still unactivated (fun m _ => undeleted m) (fun _ => id) ?_
    counted.native rfl rfl ?_
  · intro m running
    by_cases same : m = n
    · left
      intro absent
      rw [← same, absent] at before
      cases before
    · left
      simpa [State.setPipe, same] using running
  · intro m
    by_cases same : m = n
    · subst same
      simp [live, State.setPipe, before, after]
    · simp [live, State.setPipe, same]

theorem Counted.reaper {trace events : List Event} {s s' : State} {n : Nat}
    (counted : Counted trace s) (disposal : Disposal trace s)
    (step : stepReaper .deepgram s n = some (s', events)) :
    Counted (trace ++ events) s' := by
  obtain ⟨_, stage, taken⟩ := stepReaper_cases step
  cases taken with
  | finish =>
      refine counted.reap (by rw [stage]; rfl) ?_ (by simp) (by simp)
      simp only [Sessions.reap]
      split <;> rfl
  | delete => exact counted.reap (by rw [stage]; rfl) rfl (by simp) (by simp)
  | release =>
      have handed := counted.reaped n (by simp [stage])
      have null := disposal.balanced.unheld handed
      have created : s.control.starts n ≠ .notCalled := by
        intro absent
        have fresh : (s.control.starts n).uncreated = true := by
          rw [absent]
          rfl
        have unhanded := (disposal.balanced.absent fresh).2.1
        exact List.count_eq_zero.mp unhanded handed
      have within := disposal.owned.below created
      refine ⟨?_, ?_, ?_, counted.native, ?_⟩
      · intro m uncounted
        simpa using counted.uncounted m uncounted
      · intro m active
        have before : .activated m ∈ trace := by simpa using active
        obtain ⟨made, undeleted⟩ := counted.activated m before
        exact ⟨List.mem_append_left _ made, by simpa using undeleted⟩
      · intro m running
        by_cases same : m = n
        · exact List.mem_append_left _ (same ▸ handed)
        · have before : (s.pipes m).reaper ≠ .none := by
            simpa [State.setPipe, same] using running
          exact List.mem_append_left _ (counted.reaped m before)
      · dsimp only [State.setPipe]
        rw [counted.active]
        apply (tally_lower within _ _ _).symm
        · simp [live, stage, Reaper.running]
        · simp [live, null, Reaper.running]
        · intro m different
          simp [live, different]

theorem Counted.callStart {trace : List Event} {s : State}
    {metadata : AudioFork.Bytes} (counted : Counted trace s)
    (disposal : Disposal trace s) :
    Counted (trace ++ [])
      { s with
        control := ({ s.control with
          idxCallCount := s.control.idxCallCount + 1 }.setTechPvt
            s.control.idxCallCount
            { s.control.techPvts s.control.idxCallCount with
              initialMetadata := metadata }).setStart
                s.control.idxCallCount .entered } := by
  have absent := disposal.owned.uncalled s.control.idxCallCount (Nat.le_refl _)
  have fresh : (s.control.starts s.control.idxCallCount).uncreated = true := by
    rw [absent]
    rfl
  have unhanded := (disposal.balanced.absent fresh).2.1
  have idle : (s.pipes s.control.idxCallCount).reaper = .none := by
    by_contra running
    exact List.count_eq_zero.mp unhanded (counted.reaped _ running)
  rw [List.append_nil]
  refine ⟨?_, counted.activated, counted.reaped, ?_, ?_⟩
  · intro m stage
    rw [Control.starts_setStart] at stage
    split at stage
    · rename_i same
      exact counted.uncounted m (by rw [same, absent]; rfl)
    · exact counted.uncounted m stage
  · intro m
    rw [Control.starts_setStart]
    split
    · rfl
    · exact counted.native m
  · dsimp only [Control.setStart, Control.setTechPvt]
    rw [counted.active, tally_succ]
    · refine (tally_congr ?_).symm
      intro m within
      have different : m ≠ s.control.idxCallCount := Nat.ne_of_lt within
      simp [live, different]
    · simp [live, StartStage.counted, idle, Reaper.running]

theorem Counted.step {parse : AudioFork.Bytes → Option Deepgram.CJson}
    {trace events : List Event} {s s' : State} {act : Act}
    (counted : Counted trace s) (disposal : Disposal trace s)
    (step : (machine ⟨.deepgram, parse⟩).step s act = some (s', events)) :
    Counted (trace ++ events) s' := by
  simp only [machine, Sessions.step] at step
  cases act with
  | callStart metadata =>
      cases step
      exact counted.callStart disposal
  | start n init ok => exact counted.start disposal step
  | callStop call text =>
      dsimp only at step
      split at step <;> cases step
      exact counted.elsewhere rfl (fun _ => rfl) (fun _ => rfl) rfl rfl
        (by simp) (by simp)
  | hangup bug =>
      dsimp only at step
      split at step <;> cases step
      exact counted.elsewhere rfl (fun _ => rfl) (fun _ => rfl) rfl rfl
        (by simp) (by simp)
  | cleanup caller => exact counted.cleanup disposal step
  | reaper n => exact counted.reaper disposal step
  | lws n report => exact counted.lws step
  | notice n located => exact counted.notice step

/-- What the lifecycle promises: each pipe of a successful
`dg_transcribe_session_init` was handed to exactly one reaper, and
`g_activePipes` is the number of pipes whose reaper has not finished. -/
def ReapedOnce (trace : List Event) (s : State) : Prop :=
  Quiescent s →
    (∀ n, .activated n ∈ trace → trace.count (.handed n) = 1) ∧
      s.activePipes = ((Finset.range s.control.idxCallCount).filter fun n =>
        (s.pipes n).reaper.running = true).card

theorem transcribe_pipe_lifecycle
    (parse : AudioFork.Bytes → Option Deepgram.CJson)
    {labels : List Act} {trace : List Event} {s : State}
    (run : (machine ⟨.deepgram, parse⟩).Run storesInTime
      (machine ⟨.deepgram, parse⟩).initial labels trace s) :
    ReapedOnce trace s := by
  have whole : Disposal trace s ∧ Counted trace s := by
    refine run.induct (fun seen state =>
      Disposal seen state ∧ Counted seen state)
      ⟨disposal_fresh, counted_fresh⟩ ?_
    intro seen state label next events holds guarded step
    obtain ⟨disposal, counted⟩ := holds
    refine ⟨disposal.step guarded ?_ ?_ step, counted.step disposal step⟩
    · intro caller _ bug held _ checked
      simp only [recheck] at checked
      split at checked
      · exact (Option.some.inj checked).symm
      · cases checked
    · intro caller _ bug held _ published
      have native := counted.native bug
      rw [published] at native
      cases native
  obtain ⟨disposal, counted⟩ := whole
  intro quiescent
  refine ⟨?_, ?_⟩
  · intro n active
    obtain ⟨created, undeleted⟩ := counted.activated n active
    have once := disposal.exactlyOnce quiescent created
    rw [List.count_eq_zero.mpr undeleted] at once
    exact once
  · rw [counted.active, ← tally_eq_card]
    apply tally_congr
    intro n _
    simp [live, disposal.kept.disposed quiescent n]

/-- A start stops the previous session, whose reaper is still waiting when the
second one is done. -/
theorem transcribe_pipe_lifecycle_of_restart :
    ∃ labels trace s,
      (machine ⟨.deepgram, fun _ => none⟩).Run storesInTime .fresh labels trace
        s ∧ Event.handed 0 ∈ trace ∧ Event.released 1 ∈ trace ∧
        ReapedOnce trace s := by
  let config : Config := ⟨.deepgram, fun _ => none⟩
  let labels : List Act :=
    [Act.callStart []] ++ List.replicate 6 (Act.start 0 .success true) ++
      [Act.callStart [], .start 1 .success true] ++ cleans (.start 1) 9 ++
      cleans (.close 0) 1 ++ cleans (.start 1) 1 ++
      List.replicate 6 (Act.start 1 .success true) ++ [Act.hangup 1] ++
      cleans (.close 1) 8 ++ [Act.reaper 1, .lws 1 .connectionError,
        .notice 1 true, .notice 1 true, .reaper 1, .reaper 1]
  have executed : ((machine config).exec storesInTime .fresh labels).map
      (fun outcome => decide (Event.handed 0 ∈ outcome.2) &&
        decide (Event.released 1 ∈ outcome.2)) = some true := by
    decide
  obtain ⟨s, trace, run, both⟩ := Machine.exists_run_of_exec _ executed
  obtain ⟨handed, released⟩ := Bool.and_eq_true_iff.mp both
  exact ⟨labels, trace, s, run, by simpa using handed, by simpa using released,
    transcribe_pipe_lifecycle (fun _ => none) run⟩

/-- Two starts find the channel private empty; the second overwrites the bug of
the first, whose CLOSE then finds nothing of its own. -/
def startsRace : List Act :=
  [.callStart [], .callStart [], .start 0 .success true,
    .start 1 .success true] ++ List.replicate 5 (.start 0 .success true) ++
    List.replicate 5 (.start 1 .success true) ++ [.hangup 1] ++
    cleans (.close 1) 8 ++ [.hangup 0] ++ cleans (.close 0) 1

theorem transcribe_pipe_leaks :
    ¬ ∀ (parse : AudioFork.Bytes → Option Deepgram.CJson) (labels : List Act)
      (trace : List Event) (s : State),
      (machine ⟨.deepgram, parse⟩).Run anyStep
        (machine ⟨.deepgram, parse⟩).initial labels trace s →
        ReapedOnce trace s := by
  intro always
  let config : Config := ⟨.deepgram, fun _ => none⟩
  have finishes : ((machine config).exec anyStep .fresh startsRace).isSome =
      true := by
    decide
  let outcome := ((machine config).exec anyStep .fresh startsRace).get finishes
  have executed : (machine config).exec anyStep .fresh startsRace =
      some (outcome.1, outcome.2) := (Option.some_get finishes).symm
  have quiescent : Quiescent outcome.1 := by
    refine ⟨?_, ?_, rfl⟩
    · intro n
      match n with
      | 0 | 1 => exact .inr ⟨true, rfl⟩
      | _ + 2 => exact .inl rfl
    · intro caller
      match caller with
      | .close 0 | .close 1 => exact .inr rfl
      | .close (_ + 2) | .stop _ | .start _ => exact .inl rfl
  have once := (always _ startsRace _ _ (Machine.run_of_exec executed)
    quiescent).1 0 (of_decide_eq_true rfl)
  have never : outcome.2.count (.handed 0) = 0 := rfl
  rw [never] at once
  cases once

end DrachtioModules.Sessions

import DrachtioModules.Transcribe.StreamerSafety

/-!
# The resampler is destroyed once

A cleanup destroys the resampler and leaves the pointer to it.  What keeps a
second cleanup from destroying it again is the channel private, which another
capture of the same name may have set meanwhile.
-/

namespace DrachtioModules.Transcribe.StreamerLife

section Apart

variable {config : Config} {s s' : State} {events : List Event}

/-- The resampler is destroyed once because the bug's name is this capture's
until it is torn down, and nobody else's while somebody waits to tear it down
again. -/
structure Once (config : Config) (s : State) : Prop where
  mine : s.channelPrivate = .mine → s.start = .published
  other : s.channelPrivate = .other → starting s = false ∧ s.stops = 0 ∧
    ∀ caller stage, s.mutex = some (.cleanup caller stage) → caller = .hangup
  begun : ∀ caller stage, s.mutex = some (.cleanup caller stage) →
    stage = .joining ∨ stage = .deleted ∨ stage = .closing →
    s.start = .published ∧ s.channelPrivate ≠ .mine ∧
      s.resampler = config.resamples
  closing : s.hangup = .closing → s.attached = true
  hanging : ∀ stage, s.mutex = some (.cleanup .hangup stage) →
    s.hangup = .closing
  waiting : 0 < s.stops → s.start = .published
  stops : ∀ stage, s.mutex = some (.cleanup .stop stage) →
    s.start = .published
  nested : ∀ stage, s.mutex = some (.cleanup .nested stage) →
    s.start = .published ∧ s.attached = false
  destroyed : s.start = .fresh ∨ s.resampler = config.resamples ∨
    s.start = .published ∧ s.channelPrivate ≠ .mine ∧
      (s.attached = false ∨ s.mutex = some (.cleanup .stop .removing) ∨
        s.mutex = some (.cleanup .hangup .removing) ∨
        s.mutex = some (.cleanup .hangup .unlocking))

/-- A resampler that is gone stays gone, with a bug that is off the list or
about to be. -/
theorem Once.destroyed_of (once : Once config s) {gone : Prop}
    (leaves : s.start = .published → s.channelPrivate ≠ .mine →
      (s.attached = false ∨ s.mutex = some (.cleanup .stop .removing) ∨
        s.mutex = some (.cleanup .hangup .removing) ∨
        s.mutex = some (.cleanup .hangup .unlocking)) → gone) :
    s.start = .fresh ∨ s.resampler = config.resamples ∨
      s.start = .published ∧ s.channelPrivate ≠ .mine ∧ gone := by
  rcases once.destroyed with fresh | whole | ⟨published, notMine, detached⟩
  · exact .inl fresh
  · exact .inr (.inl whole)
  · exact .inr (.inr ⟨published, notMine, leaves published notMine detached⟩)

theorem starting_of_start (start : s'.start = s.start)
    (settled : starting s = false) : starting s' = false := by
  simpa only [starting, start] using settled

/-- No cleanup has the mutex. -/
def NoCleanup (s : State) : Prop :=
  ∀ caller stage, s.mutex ≠ some (.cleanup caller stage)

/-- What a step leaves as it is that tears nothing down. -/
structure Beside (s s' : State) : Prop where
  start : s'.start = s.start
  channelPrivate : s'.channelPrivate = s.channelPrivate
  resampler : s'.resampler = s.resampler
  attached : s'.attached = s.attached
  hangup : s'.hangup = s.hangup
  stops : s'.stops = s.stops
  mutex : s'.mutex = s.mutex ∨ NoCleanup s ∧ NoCleanup s'

theorem Once.beside (once : Once config s) (beside : Beside s s') :
    Once config s' := by
  have held : ∀ caller stage, s'.mutex = some (.cleanup caller stage) →
      s.mutex = some (.cleanup caller stage) := by
    intro caller stage held
    rcases beside.mutex with same | ⟨_, none⟩
    · exact same.symm.trans held
    · exact absurd held (none caller stage)
  constructor
  · rw [beside.channelPrivate, beside.start]
    exact once.mine
  · rw [beside.channelPrivate, beside.stops]
    intro other
    obtain ⟨settled, alone, hangup⟩ := once.other other
    exact ⟨starting_of_start beside.start settled, alone,
      fun caller stage here => hangup caller stage (held caller stage here)⟩
  · rw [beside.channelPrivate, beside.start, beside.resampler]
    exact fun caller stage here => once.begun caller stage (held _ _ here)
  · rw [beside.hangup, beside.attached]
    exact once.closing
  · rw [beside.hangup]
    exact fun stage here => once.hanging stage (held _ _ here)
  · rw [beside.stops, beside.start]
    exact once.waiting
  · rw [beside.start]
    exact fun stage here => once.stops stage (held _ _ here)
  · rw [beside.start, beside.attached]
    exact fun stage here => once.nested stage (held _ _ here)
  · rw [beside.channelPrivate, beside.start, beside.resampler, beside.attached]
    refine once.destroyed_of fun _ _ gone => ?_
    rcases beside.mutex with same | ⟨none, _⟩
    · rw [same]
      exact gone
    · rcases gone with detached | held | held | held
      · exact .inl detached
      all_goals exact absurd held (none _ _)

theorem noCleanup_of_none (mutex : s.mutex = none) : NoCleanup s := by
  intro caller stage held
  simp [mutex] at held

theorem stopping_false (idle : stopping s = false) :
    s.stops = 0 ∧ ∀ caller stage, s.mutex = some (.cleanup caller stage) →
      caller = .hangup := by
  simp only [stopping, Bool.or_eq_false_iff, decide_eq_false_iff_not] at idle
  refine ⟨Nat.eq_zero_of_not_pos idle.1, fun caller stage held => ?_⟩
  have free := idle.2
  rw [held] at free
  cases caller with
  | stop => simp at free
  | nested => simp at free
  | hangup => rfl

theorem starting_cases (started : starting s = true) :
    s.start = .streaming ∨ s.start = .added := by
  cases start : s.start with
  | streaming => exact .inl rfl
  | added => exact .inr rfl
  | fresh | published | failed => simp [starting, start] at started

theorem Once.unnamed (once : Once config s) (started : starting s = true) :
    s.channelPrivate = .none ∧ s.resampler = config.resamples ∧
      ∀ caller stage, s.mutex = some (.cleanup caller stage) →
        ¬ (stage = .joining ∨ stage = .deleted ∨ stage = .closing) := by
  have born : s.start ≠ .fresh := by
    rcases starting_cases started with start | start <;> simp [start]
  have early : s.start ≠ .published := by
    rcases starting_cases started with start | start <;> simp [start]
  refine ⟨?_, ?_, ?_⟩
  · cases name : s.channelPrivate with
    | none => rfl
    | mine => exact absurd (once.mine name) early
    | other => simp [(once.other name).1] at started
  · rcases once.destroyed with fresh | whole | ⟨published, _⟩
    · exact absurd fresh born
    · exact whole
    · exact absurd published early
  · intro caller stage held unfinished
    exact early (once.begun caller stage held unfinished).1

/-- Another capture's bug, or none, is stored under the name. -/
theorem Once.renamed (once : Once config s) {name : Private}
    (notMine : name ≠ .mine)
    (other : name = .other → starting s = false ∧ s.stops = 0 ∧
      ∀ caller stage, s.mutex = some (.cleanup caller stage) →
        caller = .hangup) :
    Once config { s with channelPrivate := name } := by
  constructor
  · exact fun mine => absurd mine notMine
  · exact other
  · intro caller stage held unfinished
    obtain ⟨published, _, whole⟩ := once.begun caller stage held unfinished
    exact ⟨published, notMine, whole⟩
  · exact once.closing
  · exact once.hanging
  · exact once.waiting
  · exact once.stops
  · exact once.nested
  · rcases once.destroyed with fresh | whole | ⟨published, _, gone⟩
    · exact .inl fresh
    · exact .inr (.inl whole)
    · exact .inr (.inr ⟨published, notMine, gone⟩)

theorem once_start {act : Act} (inv : Inv config s) (once : Once config s)
    (apart : commandsApart s act = true)
    (step : stepStart config s act = some (s', events)) :
    Once config s' := by
  cases act with
  | init =>
      simp only [stepStart] at step
      split at step <;> cases step
      rename_i enabled
      obtain ⟨fresh, vacant⟩ := enabled
      cases inv.life with
      | unborn _ _ _ unnamed stops _ free _ _ alive =>
          constructor
          · exact fun mine => absurd mine unnamed
          · exact fun other => absurd other (by simp [vacant])
          · simp [free]
          · exact fun closing => absurd closing alive
          · simp [free]
          · simp [stops]
          · simp [free]
          · simp [free]
          · exact .inr (.inl rfl)
      | intact born | joining born | deleted born | torn born =>
          exact absurd fresh born
  | add ok =>
      simp only [stepStart] at step
      split at step
      · rename_i enabled
        obtain ⟨unnamed, whole, clean⟩ :=
          once.unnamed (by simp [starting, enabled.1])
        have begun : ∀ start : Start, ∀ caller stage,
            s.mutex = some (.cleanup caller stage) →
            stage = .joining ∨ stage = .deleted ∨ stage = .closing →
            start = .published ∧ s.channelPrivate ≠ .mine ∧
              s.resampler = config.resamples :=
          fun _ caller stage held unfinished =>
            absurd unfinished (clean caller stage held)
        have early : s.start ≠ .published := by simp [enabled.1]
        have idle : s.stops = 0 :=
          Nat.eq_zero_of_not_pos fun waiting => early (once.waiting waiting)
        have stops : ∀ stage, s.mutex ≠ some (.cleanup .stop stage) :=
          fun stage held => early (once.stops stage held)
        have nested : ∀ stage, s.mutex ≠ some (.cleanup .nested stage) :=
          fun stage held => early (once.nested stage held).1
        cases ok <;> cases step
        all_goals exact ⟨by simp [unnamed], by simp [unnamed], begun _,
          fun closing => absurd closing enabled.2, once.hanging,
          by simp [idle], by simp [stops], by simp [nested],
          .inr (.inl whole)⟩
      · cases step
  | publish =>
      simp only [stepStart] at step
      split at step <;> cases step
      rename_i added
      obtain ⟨_, whole, clean⟩ := once.unnamed (by simp [starting, added])
      constructor
      · exact fun _ => rfl
      · simp
      · exact fun caller stage held unfinished =>
          absurd unfinished (clean caller stage held)
      · exact once.closing
      · exact once.hanging
      · exact fun _ => rfl
      · exact fun _ _ => rfl
      · exact fun stage held => ⟨rfl, (once.nested stage held).2⟩
      · exact .inr (.inl whole)
  | rename present =>
      cases step
      cases present with
      | false => exact once.renamed (by simp) (by simp)
      | true =>
          simp only [commandsApart, Bool.and_eq_true, Bool.not_eq_true']
            at apart
          obtain ⟨settled, idle⟩ := apart
          obtain ⟨alone, hangup⟩ := stopping_false idle
          exact once.renamed (by simp) fun _ => ⟨settled, alone, hangup⟩
  | _ => cases step

theorem once_media {act : Act} (inv : Inv config s) (once : Once config s)
    (step : stepMedia config s act = some (s', events)) :
    Once config s' := by
  cases act with
  | enter =>
      simp only [stepMedia] at step
      split at step
      · split at step <;> cases step
        · exact once.beside ⟨rfl, rfl, rfl, rfl, rfl, rfl, .inl rfl⟩
        · exact once
      · cases step
  | copy =>
      simp only [stepMedia] at step
      split at step <;> cases step
      exact once.beside ⟨rfl, rfl, rfl, rfl, rfl, rfl, .inl rfl⟩
  | tryLock =>
      simp only [stepMedia] at step
      split at step
      · split at step <;> cases step
        · rename_i free
          exact once.beside ⟨rfl, rfl, rfl, rfl, rfl, rfl,
            .inr ⟨noCleanup_of_none free, by simp [NoCleanup]⟩⟩
        · exact once.beside ⟨rfl, rfl, rfl, rfl, rfl, rfl, .inl rfl⟩
      · cases step
  | hear talking =>
      simp only [stepMedia] at step
      split at step
      · split at step <;> cases step
        · exact once.beside ⟨rfl, rfl, rfl, rfl, rfl, rfl, .inl rfl⟩
        · exact once
      · cases step
  | configure =>
      simp only [stepMedia] at step
      split at step <;> cases step
      exact once.beside ⟨rfl, rfl, rfl, rfl, rfl, rfl, .inl rfl⟩
  | leave =>
      simp only [stepMedia] at step
      split at step <;> cases step
      rename_i listens
      obtain ⟨_, mutex, _⟩ := inv.listening (.inl listens)
      exact once.beside ⟨rfl, rfl, rfl, rfl, rfl, rfl,
        .inr ⟨by simp [NoCleanup, mutex], noCleanup_of_none rfl⟩⟩
  | _ => cases step

theorem once_reader {act : Act} (once : Once config s)
    (step : stepReader config s act = some (s', events)) :
    Once config s' := by
  cases act with
  | read more =>
      simp only [stepReader] at step
      split at step
      · split at step <;> cases step
        exact once.beside ⟨rfl, rfl, rfl, rfl, rfl, rfl, .inl rfl⟩
      · cases step
        cases more with
        | true => exact once
        | false => exact once.beside ⟨rfl, rfl, rfl, rfl, rfl, rfl, .inl rfl⟩
      · cases step
      · cases step
      · cases step
  | finish located =>
      simp only [stepReader] at step
      split at step
      · cases located with
        | true =>
            cases step
            exact once.beside ⟨rfl, rfl, rfl, rfl, rfl, rfl, .inl rfl⟩
        | false =>
            cases step
            exact once.beside ⟨rfl, rfl, rfl, rfl, rfl, rfl, .inl rfl⟩
      · cases step
  | _ => cases step

theorem once_timers {act : Act} (once : Once config s)
    (step : stepTimers config s act = some (s', events)) : Once config s' := by
  cases act with
  | lookTimers =>
      simp only [stepTimers] at step
      split at step <;> cases step
      exact once.beside ⟨rfl, rfl, rfl, rfl, rfl, rfl, .inl rfl⟩
  | lockTimers =>
      simp only [stepTimers] at step
      split at step <;> cases step
      rename_i enabled
      exact once.beside ⟨rfl, rfl, rfl, rfl, rfl, rfl,
        .inr ⟨noCleanup_of_none enabled.2, by simp [NoCleanup]⟩⟩
  | startTimers =>
      simp only [stepTimers] at step
      split at step <;> cases step
      rename_i mutex
      exact once.beside ⟨rfl, rfl, rfl, rfl, rfl, rfl,
        .inr ⟨by simp [NoCleanup, mutex], noCleanup_of_none rfl⟩⟩
  | _ => cases step

/-- The channel private as it is, and one more stop that waits for the mutex or
holds it. -/
theorem once_lookStop (once : Once config s) (mine : s.channelPrivate = .mine) :
    Once config { s with stops := s.stops + 1 } := by
  constructor
  · exact once.mine
  · simp [mine]
  · exact once.begun
  · exact once.closing
  · exact once.hanging
  · exact fun _ => once.mine mine
  · exact once.stops
  · exact once.nested
  · exact once.destroyed

theorem Once.whole_of_free (once : Once config s) (free : s.mutex = none) :
    s.start = .fresh ∨ s.resampler = config.resamples ∨
      s.start = .published ∧ s.channelPrivate ≠ .mine ∧ s.attached = false := by
  simpa [free] using once.destroyed

theorem once_lockStop (once : Once config s) (waiting : 0 < s.stops)
    (free : s.mutex = none) :
    Once config (holding .stop .locked { s with stops := s.stops - 1 }) := by
  have published := once.waiting waiting
  constructor
  · exact once.mine
  · intro other
    have none := (once.other other).2.1
    simp [none] at waiting
  · intro caller stage held unfinished
    cases held
    simp at unfinished
  · exact once.closing
  · intro stage held
    cases held
  · exact fun _ => published
  · exact fun _ _ => published
  · intro stage held
    cases held
  · rcases once.whole_of_free free with fresh | whole | ⟨_, notMine, gone⟩
    · exact .inl fresh
    · exact .inr (.inl whole)
    · exact .inr (.inr ⟨published, notMine, .inl gone⟩)

theorem once_hang (once : Once config s) (before : s.hangup = .before) :
    Once config
      { s with hangup := if s.attached then .closing else .returned } := by
  constructor
  · exact once.mine
  · exact once.other
  · exact once.begun
  · intro closing
    cases attached : s.attached with
    | true => rfl
    | false => simp [attached] at closing
  · intro stage held
    have closing := once.hanging stage held
    simp [before] at closing
  · exact once.waiting
  · exact once.stops
  · exact once.nested
  · exact once.destroyed

theorem once_lockHangup (once : Once config s) (closing : s.hangup = .closing)
    (free : s.mutex = none) : Once config (holding .hangup .locked s) := by
  have attached := once.closing closing
  constructor
  · exact once.mine
  · intro other
    obtain ⟨published, alone, _⟩ := once.other other
    refine ⟨published, alone, fun caller stage held => ?_⟩
    cases held
    rfl
  · intro caller stage held unfinished
    cases held
    simp at unfinished
  · exact once.closing
  · exact fun _ _ => closing
  · exact once.waiting
  · intro stage held
    cases held
  · intro stage held
    cases held
  · rcases once.whole_of_free free with fresh | whole | ⟨_, _, gone⟩
    · exact .inl fresh
    · exact .inr (.inl whole)
    · simp [attached] at gone

/-- The bug is added in the course of the start. -/
def BugAdded (s : State) : Prop :=
  s.attached = true → s.start = .added ∨ s.start = .published

theorem bugAdded_fresh : BugAdded .fresh := by
  simp [BugAdded, State.fresh]

theorem bugAdded_step {act : Act} (inv : Inv config s) (added : BugAdded s)
    (step : step config s act = some (s', events)) : BugAdded s' := by
  cases act with
  | init =>
      simp only [StreamerLife.step, stepStart] at step
      split at step <;> cases step
      rename_i enabled
      have detached : s.attached ≠ true := fun attached =>
        inv.life.born (.inl attached) enabled.1
      exact fun attached => absurd attached detached
  | cleanup =>
      simp only [StreamerLife.step, stepTeardown] at step
      split at step
      · rename_i caller stage mutex
        cases caller <;> cases stage <;>
          grind [BugAdded, stepCleanup, writesDone, holding]
      · cases step
  | _ => grind [BugAdded, StreamerLife.step, stepStart, stepMedia, stepReader,
      stepTeardown, stepTimers, holding]

section Cleanup

variable {caller : Caller} {stage : Stage}

theorem Once.held (once : Once config s)
    (mutex : s.mutex = some (.cleanup caller stage)) :
    (s.channelPrivate = .other → caller = .hangup) ∧
      (caller = .hangup → s.hangup = .closing ∧ s.attached = true) ∧
      (caller = .nested → s.attached = false) ∧
      (caller ≠ .hangup → s.start = .published) := by
  refine ⟨?_, ?_, ?_, ?_⟩
  · exact fun other => (once.other other).2.2 caller stage mutex
  · rintro rfl
    have closing := once.hanging stage mutex
    exact ⟨closing, once.closing closing⟩
  · rintro rfl
    exact (once.nested stage mutex).2
  · intro outer
    cases caller with
    | stop => exact once.stops stage mutex
    | nested => exact (once.nested stage mutex).1
    | hangup => exact absurd rfl outer

theorem Once.goes (once : Once config s) {caller' : Caller} {stage' : Stage}
    (mutex : s'.mutex = some (.cleanup caller' stage'))
    (start : s'.start = s.start) (stops : s'.stops = s.stops)
    (hangup : s'.hangup = s.hangup)
    (named : s'.channelPrivate = s.channelPrivate ∨
      s'.channelPrivate = .none)
    (other : s.channelPrivate = .other → caller' = .hangup)
    (closing : s.hangup = .closing → s'.attached = true)
    (hanging : caller' = .hangup → s.hangup = .closing)
    (published : caller' ≠ .hangup → s.start = .published)
    (nested : caller' = .nested → s'.attached = false)
    (begun : stage' = .joining ∨ stage' = .deleted ∨ stage' = .closing →
      s.start = .published ∧ s'.channelPrivate ≠ .mine ∧
        s'.resampler = config.resamples)
    (destroyed : s'.start = .fresh ∨ s'.resampler = config.resamples ∨
      s'.start = .published ∧ s'.channelPrivate ≠ .mine ∧
        (s'.attached = false ∨ s'.mutex = some (.cleanup .stop .removing) ∨
          s'.mutex = some (.cleanup .hangup .removing) ∨
          s'.mutex = some (.cleanup .hangup .unlocking))) :
    Once config s' := by
  have same : ∀ {caller stage}, s'.mutex = some (.cleanup caller stage) →
      caller = caller' ∧ stage = stage' := by
    intro caller stage held
    rw [mutex] at held
    cases held
    exact ⟨rfl, rfl⟩
  constructor
  · intro mine
    rw [start]
    rcases named with kept | none
    · exact once.mine (kept ▸ mine)
    · simp [none] at mine
  · intro taken
    rcases named with kept | none
    · rw [kept] at taken
      obtain ⟨settled, alone, _⟩ := once.other taken
      refine ⟨starting_of_start start settled, stops.trans alone,
        fun caller stage held => ?_⟩
      rw [(same held).1]
      exact other taken
    · simp [none] at taken
  · intro caller stage held unfinished
    rw [(same held).2] at unfinished
    rw [start]
    exact begun unfinished
  · rw [hangup]
    exact closing
  · intro stage held
    rw [hangup]
    exact hanging (same held).1.symm
  · rw [stops, start]
    exact once.waiting
  · intro stage held
    rw [start]
    apply published
    rw [← (same held).1]
    decide
  · intro stage held
    refine ⟨start.trans (published ?_), nested (same held).1.symm⟩
    rw [← (same held).1]
    decide
  · exact destroyed

theorem Once.unlocked (once : Once config s) (free : s'.mutex = none)
    (start : s'.start = s.start) (stops : s'.stops = s.stops)
    (channelPrivate : s'.channelPrivate = s.channelPrivate)
    (resampler : s'.resampler = s.resampler)
    (closing : s'.hangup = .closing → s'.attached = true)
    (gone : (s.attached = false ∨ s.mutex = some (.cleanup .stop .removing) ∨
      s.mutex = some (.cleanup .hangup .removing) ∨
      s.mutex = some (.cleanup .hangup .unlocking)) → s'.attached = false) :
    Once config s' := by
  constructor
  · rw [channelPrivate, start]
    exact once.mine
  · rw [channelPrivate, stops]
    intro taken
    obtain ⟨settled, alone, _⟩ := once.other taken
    exact ⟨starting_of_start start settled, alone, by simp [free]⟩
  · simp [free]
  · exact closing
  · simp [free]
  · rw [stops, start]
    exact once.waiting
  · simp [free]
  · simp [free]
  · rw [channelPrivate, start, resampler]
    exact once.destroyed_of fun _ _ torn => .inl (gone torn)

theorem Once.whole_of_named (once : Once config s) (added : BugAdded s)
    (mutex : s.mutex = some (.cleanup caller .locked))
    (named : s.channelPrivate ≠ .none) :
    s.start = .published ∧ s.resampler = config.resamples := by
  obtain ⟨other, hangup, _⟩ := once.held mutex
  have published : s.start = .published := by
    cases name : s.channelPrivate with
    | none => exact absurd name named
    | mine => exact once.mine name
    | other =>
        -- only the hangup cleans up under another capture's name
        have attached := (hangup (other name)).2
        rcases added attached with start | start
        · have settled := (once.other name).1
          simp [starting, start] at settled
        · exact start
  refine ⟨published, ?_⟩
  rcases once.destroyed with fresh | whole | ⟨_, notMine, gone⟩
  · simp [fresh] at published
  · exact whole
  · cases name : s.channelPrivate with
    | none => exact absurd name named
    | mine => exact absurd name notMine
    | other =>
        have attached := (hangup (other name)).2
        simp [attached, mutex] at gone

theorem once_locked (once : Once config s) (added : BugAdded s)
    (mutex : s.mutex = some (.cleanup caller .locked))
    (step : stepCleanup config s caller .locked = some (s', events)) :
    Once config s' ∧ Event.destroy false ∉ events := by
  obtain ⟨other, hangup, nested, published⟩ := once.held mutex
  simp only [stepCleanup] at step
  split at step
  · cases step
    refine ⟨?_, by simp⟩
    refine once.goes rfl rfl rfl rfl (.inl rfl) other once.closing
      (fun mine => (hangup mine).1) published nested (by simp) ?_
    refine once.destroyed_of fun _ _ gone => .inl ?_
    simpa [mutex, holding] using gone
  · rename_i named
    obtain ⟨running, whole⟩ := once.whole_of_named added mutex named
    split at step
    · cases step
      have kept : ∀ next : State,
          next.start = s.start → next.stops = s.stops →
          next.hangup = s.hangup → next.channelPrivate = .none →
          next.attached = s.attached → next.resampler = s.resampler →
          Once config (holding caller .joining next) := by
        intro next start stops hangup' unnamed attached resampler
        refine once.goes rfl start stops hangup' (.inr unnamed) other ?_ ?_ ?_
          ?_ ?_ ?_
        · exact fun closing => attached.trans (once.closing closing)
        · exact fun mine => (hangup mine).1
        · exact published
        · exact fun mine => attached.trans (nested mine)
        · exact fun _ =>
            ⟨running, by simp [holding, unnamed], resampler.trans whole⟩
        · exact .inr (.inl (resampler.trans whole))
      simp only [writesDone]
      split
      · split
        · exact ⟨kept _ rfl rfl rfl rfl rfl rfl, by simp⟩
        · exact ⟨kept _ rfl rfl rfl rfl rfl rfl, by simp⟩
      · exact ⟨kept _ rfl rfl rfl rfl rfl rfl, by simp⟩
    · cases step
      refine ⟨?_, by simp⟩
      exact once.goes rfl rfl rfl rfl (.inr rfl) other
        once.closing (fun mine => (hangup mine).1) published nested
        (fun _ => ⟨running, by simp [holding], whole⟩) (.inr (.inl whole))

theorem once_cleanup (once : Once config s) (added : BugAdded s)
    (mutex : s.mutex = some (.cleanup caller stage))
    (step : stepCleanup config s caller stage = some (s', events)) :
    Once config s' ∧ Event.destroy false ∉ events := by
  obtain ⟨other, hangup, nested, published⟩ := once.held mutex
  cases stage with
  | locked => exact once_locked once added mutex step
  | joining =>
      obtain ⟨running, notMine, whole⟩ := once.begun _ _ mutex (.inl rfl)
      simp only [stepCleanup] at step
      split at step <;> cases step
      refine ⟨?_, by simp⟩
      exact once.goes rfl rfl rfl rfl (.inl rfl) other
        once.closing (fun mine => (hangup mine).1) published nested
        (fun _ => ⟨running, notMine, whole⟩) (.inr (.inl whole))
  | deleted =>
      obtain ⟨running, notMine, whole⟩ :=
        once.begun _ _ mutex (.inr (.inl rfl))
      cases step
      refine ⟨?_, by simp⟩
      exact once.goes rfl rfl rfl rfl (.inl rfl) other
        once.closing (fun mine => (hangup mine).1) published nested
        (fun _ => ⟨running, notMine, whole⟩) (.inr (.inl whole))
  | closing =>
      obtain ⟨running, notMine, whole⟩ :=
        once.begun _ _ mutex (.inr (.inr rfl))
      simp only [stepCleanup] at step
      split at step <;> cases step
      · rename_i resamples
        refine ⟨?_, by simp [whole, resamples]⟩
        refine once.goes rfl rfl rfl rfl (.inl rfl) other once.closing
          (fun mine => (hangup mine).1) published nested (by simp) ?_
        refine .inr (.inr ⟨running, notMine, ?_⟩)
        cases caller with
        | stop => exact .inr (.inl rfl)
        | nested => exact .inl (nested rfl)
        | hangup => exact .inr (.inr (.inl rfl))
      · refine ⟨?_, by simp⟩
        exact once.goes rfl rfl rfl rfl (.inl rfl) other
          once.closing (fun mine => (hangup mine).1) published nested (by simp)
          (.inr (.inl whole))
  | removing =>
      simp only [stepCleanup] at step
      split at step
      · cases step
        refine ⟨?_, by simp⟩
        refine once.goes rfl rfl rfl rfl (.inl rfl) other once.closing (by simp)
          published nested (by simp) ?_
        exact once.destroyed_of fun _ _ _ => .inl (nested rfl)
      · cases step
        refine ⟨?_, by simp⟩
        refine once.goes rfl rfl rfl rfl (.inl rfl) other once.closing
          (fun _ => (hangup rfl).1) published (by simp) (by simp) ?_
        exact once.destroyed_of fun _ _ _ => .inr (.inr (.inr rfl))
      · split at step
        · rename_i enabled
          have alone : s.channelPrivate ≠ .other := by
            intro taken
            cases other taken
          have running := published (by decide)
          split at step
          · cases step
            refine ⟨?_, by simp⟩
            refine once.goes rfl rfl rfl rfl (.inl rfl)
              (fun taken => absurd taken alone)
              (fun closing => absurd closing enabled.2) (by simp)
              (fun _ => running) (fun _ => rfl) (by simp) ?_
            exact once.destroyed_of fun _ _ _ => .inl rfl
          · rename_i detached
            cases step
            refine ⟨?_, by simp⟩
            refine once.goes rfl rfl rfl rfl (.inl rfl)
              (fun taken => absurd taken alone)
              (fun closing => absurd closing enabled.2) (by simp)
              (fun _ => running) (by simp) (by simp) ?_
            refine once.destroyed_of fun _ _ _ => .inl ?_
            simpa [holding] using detached
        · cases step
  | unlocking =>
      cases caller with
      | stop =>
          cases step
          refine ⟨?_, by simp⟩
          refine once.unlocked rfl rfl rfl rfl rfl once.closing fun gone => ?_
          simpa [mutex] using gone
      | nested =>
          cases step
          refine ⟨?_, by simp⟩
          refine once.goes rfl rfl rfl rfl (.inl rfl)
            (fun taken => by cases other taken) once.closing (by simp)
            (fun _ => published (by decide)) (by simp) (by simp) ?_
          exact once.destroyed_of fun _ _ _ => .inl (nested rfl)
      | hangup =>
          cases step
          refine ⟨?_, by simp⟩
          exact once.unlocked rfl rfl rfl rfl rfl (by simp) fun _ => rfl

end Cleanup

theorem once_teardown {act : Act} (once : Once config s) (added : BugAdded s)
    (step : stepTeardown config s act = some (s', events)) :
    Once config s' ∧ Event.destroy false ∉ events := by
  cases act with
  | lookStop =>
      simp only [stepTeardown] at step
      split at step <;> cases step
      rename_i mine
      exact ⟨once_lookStop once mine, by simp⟩
  | lockStop =>
      simp only [stepTeardown] at step
      split at step <;> cases step
      rename_i enabled
      exact ⟨once_lockStop once enabled.1 enabled.2, by simp⟩
  | hang =>
      simp only [stepTeardown] at step
      split at step <;> cases step
      rename_i enabled
      exact ⟨once_hang once enabled.1, by simp⟩
  | lockHangup =>
      simp only [stepTeardown] at step
      split at step <;> cases step
      rename_i enabled
      exact ⟨once_lockHangup once enabled.1 enabled.2, by simp⟩
  | cleanup =>
      simp only [stepTeardown] at step
      split at step
      · rename_i caller stage mutex
        exact once_cleanup once added mutex step
      · cases step
  | _ => cases step

/-- Only a cleanup destroys. -/
theorem destroys_nothing {act : Act} (other : act ≠ .cleanup)
    (step : step config s act = some (s', events)) :
    Event.destroy false ∉ events := by
  cases act with
  | cleanup => exact absurd rfl other
  | _ => grind [StreamerLife.step, stepStart, stepMedia, written, stepReader,
      stepTeardown, stepTimers]

theorem once_fresh (config : Config) : Once config .fresh := by
  constructor <;> simp [State.fresh]

theorem once_step {act : Act} (inv : Inv config s) (once : Once config s)
    (added : BugAdded s) (apart : commandsApart s act = true)
    (step : step config s act = some (s', events)) :
    Once config s' ∧ Event.destroy false ∉ events := by
  cases act with
  | init | add | publish | rename =>
      refine ⟨?_, destroys_nothing (by simp) step⟩
      simp only [StreamerLife.step] at step
      exact once_start inv once apart step
  | enter | copy | tryLock | hear | configure | leave =>
      refine ⟨?_, destroys_nothing (by simp) step⟩
      simp only [StreamerLife.step] at step
      exact once_media inv once step
  | read | finish =>
      refine ⟨?_, destroys_nothing (by simp) step⟩
      simp only [StreamerLife.step] at step
      exact once_reader once step
  | lookTimers | lockTimers | startTimers =>
      refine ⟨?_, destroys_nothing (by simp) step⟩
      simp only [StreamerLife.step] at step
      exact once_timers once step
  | lookStop | lockStop | hang | lockHangup | cleanup =>
      simp only [StreamerLife.step] at step
      exact once_teardown once added step

theorem run_destroys_once {labels : List Act} {trace : List Event}
    {final : State}
    (run : (machine config).Run commandsApart (machine config).initial labels
      trace final) : Event.destroy false ∉ trace := by
  have kept : (Once config final ∧ BugAdded final) ∧
      (Inv config final ∧ Stream config final) ∧
      Event.destroy false ∉ trace := by
    refine run.induct (fun trace s => (Once config s ∧ BugAdded s) ∧
      (Inv config s ∧ Stream config s) ∧ Event.destroy false ∉ trace) ?_ ?_
    · exact ⟨⟨once_fresh config, bugAdded_fresh⟩,
        ⟨inv_fresh config, stream_fresh config⟩, by simp⟩
    · rintro trace s act s' events ⟨⟨once, added⟩, ⟨inv, stream⟩, absent⟩
        apart taken
      obtain ⟨once', now⟩ := once_step inv once added apart taken
      refine ⟨⟨once', bugAdded_step inv added taken⟩,
        ⟨(step_kept inv stream taken).inv, stream_step stream taken⟩, ?_⟩
      rw [List.mem_append]
      rintro (earlier | here)
      · exact absent earlier
      · exact now here
  exact kept.2.2

/-- Where no capture of the same name is started while the start of this one or
a stop of it is under way, the resampler is destroyed once, and only the timers
of mod_nuance_transcribe, with a VAD, and what follows the `finish()` of
mod_cobalt_transcribe are left to go wrong. -/
theorem unsound_apart_iff (config : Config) (event : Event) :
    ((∃ labels trace final,
        (machine config).Run commandsApart (machine config).initial labels
          trace final ∧ event ∈ trace) ∧
      event.sound = false) ↔
      event = .write false true true ∧ config.module = .nuance ∧
          config.vad = true ∨
        (event = .write true true false ∨ event = .writesDone true false) ∧
          config.module = .cobalt := by
  constructor
  · rintro ⟨⟨labels, trace, final, run, member⟩, unsound⟩
    rcases (run_kept run).1.allowed event member with
      sound | null | twice | finished
    · simp [unsound] at sound
    · exact .inl null
    · obtain ⟨rfl, _⟩ := twice
      exact absurd member (run_destroys_once run)
    · exact .inr finished
  · obtain ⟨m, vad, resamples⟩ := config
    rintro (⟨rfl, rfl, rfl⟩ | ⟨finished, rfl⟩)
    · obtain ⟨trace, final, run, member⟩ := timersFirst_runs resamples
      exact ⟨⟨_, trace, final, run, member⟩, rfl⟩
    · obtain ⟨trace, final, run, writes, closes⟩ :=
        finishesFirst_runs vad resamples
      rcases finished with rfl | rfl
      · exact ⟨⟨_, trace, final, run, writes⟩, rfl⟩
      · exact ⟨⟨_, trace, final, run, closes⟩, rfl⟩

end Apart

end DrachtioModules.Transcribe.StreamerLife

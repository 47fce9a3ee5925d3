import DrachtioModules.Aws.Placement

/-!
# The count of a session of mod_aws_transcribe

`session_init` counts the session in.  The first `killcb` of the session lowers
the count, or the exit of a `session_init` that no `killcb` has been through;
`gate_counted` is the flag between them.
-/

namespace DrachtioModules.Aws

open Transcribe (Bytes Caller Channel Life StartStage Control Notice Lifetime
  User Owner)

variable {κ τ : Type} {config : Config} {s s' : CapCb κ τ}
variable {trace events : List (SessionEvent κ τ)}

/-- The flag does not show the count: `session_init` has not set it yet, or has
cleared it and has the count to lower. -/
def unflagged : StartStage Init → Bool
  | .initializing .counted | .initializing .releasing => true
  | _ => false

/-- `killcb` has cleared the flag and has the count to lower. -/
def lowering (owner : Owner Frame Critical Teardown) : Bool :=
  decide (tearing owner = some .releasing)

/-- The session is counted in and not killed. -/
def CapCb.live (s : CapCb κ τ) : Bool :=
  s.gateCounted || unflagged s.life.start || lowering s.owner

def SessionEvent.isCounted : SessionEvent κ τ → Bool
  | .counted => true
  | _ => false

def SessionEvent.isReleased : SessionEvent κ τ → Bool
  | .released => true
  | _ => false

/-- What is counted is released once, and by the end of the session. -/
structure ReleasedOnce (trace : List (SessionEvent κ τ)) (s : CapCb κ τ) :
    Prop where
  once : trace.countP SessionEvent.isCounted ≤ 1
  balance : trace.countP SessionEvent.isCounted =
    trace.countP SessionEvent.isReleased + if s.live then 1 else 0
  ended : s.life.ended →
    trace.countP SessionEvent.isCounted = trace.countP SessionEvent.isReleased

/-- `session_init` has not been through the gate. -/
def ungated : StartStage Init → Bool
  | .notCalled | .entered | .replacing | .initializing .checking
  | .initializing .gating => true
  | _ => false

/-- The flag has been cleared, or was never set. -/
def CapCb.released (s : CapCb κ τ) : Prop :=
  s.life.start = .initializing .releasing ∨
    tearing s.owner = some .releasing ∨ tearing s.owner = some .killed ∨
    s.life.ended

structure Gated (s : CapCb κ τ) : Prop where
  hooked : s.life.Hooked
  uncounted : ungated s.life.start = true → s.gateCounted = false
  counted : s.life.start = .initializing .configuring ∨
    s.life.start = .initializing .creating → s.gateCounted = true
  held : s.thread = true ∨ s.streamer = true → s.gateCounted = true
  released : s.released → s.gateCounted = false
  lowered : s.life.ended → lowering s.owner = false
  closing : s.owner.closes = true → s.life.close = .called

theorem gated_fresh : Gated (CapCb.fresh κ τ) := by
  refine ⟨Life.hooked_fresh, ?_, ?_, ?_, ?_, ?_, ?_⟩ <;> intros <;>
    simp_all [CapCb.fresh, Life.fresh, lowering, tearing, Owner.closes]

theorem Gated.move (gated : Gated s) (flag : s'.gateCounted = s.gateCounted)
    (thread : s'.thread = true → s.gateCounted = true)
    (streamer : s'.streamer = true → s.gateCounted = true)
    (hooked : s'.life.Hooked)
    (uncounted : ungated s'.life.start = true → ungated s.life.start = true)
    (counted : s'.life.start = .initializing .configuring ∨
      s'.life.start = .initializing .creating → s.gateCounted = true)
    (released : s'.released → s.gateCounted = false)
    (lowered : s'.life.ended → lowering s'.owner = false)
    (closing : s'.owner.closes = true → s'.life.close = .called) :
    Gated s' := by
  refine ⟨hooked, ?_, ?_, ?_, ?_, lowered, closing⟩
  · exact fun before => flag.trans (gated.uncounted (uncounted before))
  · exact fun now => flag.trans (counted now)
  · rintro (here | here)
    · exact flag.trans (thread here)
    · exact flag.trans (streamer here)
  · exact fun now => flag.trans (released now)

/-- The `cap_cb` gets another owner, or its teardown goes on, not yet to
`--g_activeStreamers`. -/
theorem Gated.own (gated : Gated s) (flag : s'.gateCounted = s.gateCounted)
    (life : s'.life = s.life)
    (thread : s'.thread = true → s.thread = true)
    (streamer : s'.streamer = true → s.gateCounted = true)
    (unlowered : tearing s'.owner ≠ some .releasing)
    (unkilled : tearing s'.owner = some .killed → s.gateCounted = false)
    (closing : s'.owner.closes = true → s.life.close = .called) :
    Gated s' := by
  refine gated.move flag (fun here => gated.held (.inl (thread here))) streamer
    ?_ ?_ ?_ ?_ ?_ ?_
  · rw [life]
    exact gated.hooked
  · rw [life]
    exact id
  · rw [life]
    exact gated.counted
  · rintro (releasing | releasing | killed | ended)
    · rw [life] at releasing
      exact gated.released (.inl releasing)
    · exact (unlowered releasing).elim
    · exact unkilled killed
    · rw [life] at ended
      exact gated.released (.inr (.inr (.inr ended)))
  · intro _
    simp [lowering, unlowered]
  · rw [life]
    exact closing

theorem Gated.advance (gated : Gated s) {life : Life κ Init} {vad : Bool}
    (hooked : life.Hooked)
    (uncounted : ungated life.start = true → ungated s.life.start = true)
    (counted : life.start = .initializing .configuring ∨
      life.start = .initializing .creating → s.gateCounted = true)
    (released : life.start = .initializing .releasing ∨ life.ended →
      s.gateCounted = false)
    (lowered : life.ended → lowering s.owner = false)
    (called : s.life.close = .called → life.close = .called) :
    Gated { s with life := life, vad := vad } := by
  refine gated.move rfl (fun here => gated.held (.inl here))
    (fun here => gated.held (.inr here)) hooked uncounted counted ?_ lowered
    fun closes => called (gated.closing closes)
  rintro (releasing | releasing | killed | ended)
  · exact released (.inl releasing)
  · exact gated.released (.inr (.inl releasing))
  · exact gated.released (.inr (.inr (.inl killed)))
  · exact released (.inr ended)

/-- Who tears down has a start, or a bug, to tear down for. -/
theorem Placed.claimed (placed : Placed s) {stage : Teardown}
    (here : tearing s.owner = some stage) : unclaimed s.life.start = false := by
  by_contra unclaimed
  rw [Bool.not_eq_false] at unclaimed
  rw [placed.unowned unclaimed] at here
  cases here

theorem gated_of_claimed {stage : StartStage Init}
    (claimed : unclaimed stage = false) :
    ungated stage = false ∧ unflagged stage = false ∧
      stage ≠ .initializing .configuring ∧ stage ≠ .initializing .creating := by
  cases stage with
  | initializing init => cases init <;> simp_all [unclaimed, ungated, unflagged]
  | returned success => simp [ungated, unflagged]
  | cleaning | attached => simp [ungated, unflagged]
  | _ => cases claimed

theorem closes_retear {owner : Owner Frame Critical Teardown}
    {stage : Teardown} : (retear owner stage).closes = owner.closes := by
  cases owner with
  | stop caller critical => cases critical <;> rfl
  | _ => rfl

theorem Gated.tear (gated : Gated s) (placed : Placed s)
    {stage stage' : Teardown} (here : tearing s.owner = some stage)
    (step : TeardownStep config s stage s' stage' events) :
    Gated { s' with owner := retear s.owner stage' } := by
  have now : tearing (retear s.owner stage') = some stage' :=
    tearing_retear here
  have start := gated_of_claimed (placed.claimed here)
  have quiet (unlowered : stage' ≠ .releasing)
      (unkilled : stage' = .killed → s.gateCounted = false) :
      tearing (retear s.owner stage') ≠ some .releasing ∧
        (tearing (retear s.owner stage') = some .killed →
          s.gateCounted = false) := by
    rw [now]
    simpa using ⟨unlowered, unkilled⟩
  have join : s.join ≠ .releasing ∧ s.join ≠ .killed := by
    unfold CapCb.join
    split <;> simp
  have shown (streamer : s.streamer = true) := gated.held (.inr streamer)
  have closing (closes : (retear s.owner stage').closes = true) :=
    gated.closing (closes_retear.symm.trans closes)
  cases step with
  | request | load | delete | deleteGone | skip =>
      obtain ⟨unlowered, unkilled⟩ := quiet (by simp) (by simp)
      exact gated.own rfl rfl id shown unlowered unkilled closing
  | loadNull =>
      obtain ⟨unlowered, unkilled⟩ :=
        quiet join.1 fun killed => (join.2 killed).elim
      exact gated.own rfl rfl id shown unlowered unkilled closing
  | finish call =>
      obtain ⟨⟨object, request, rfl⟩, _⟩ := invoke_inner call
      obtain ⟨unlowered, unkilled⟩ :=
        quiet join.1 fun killed => (join.2 killed).elim
      exact gated.own rfl rfl id shown unlowered unkilled closing
  | join =>
      obtain ⟨unlowered, unkilled⟩ := quiet (by simp) (by simp)
      exact gated.own rfl rfl (fun thread => by cases thread) shown unlowered
        unkilled closing
  | null =>
      obtain ⟨unlowered, unkilled⟩ := quiet (by simp) (by simp)
      exact gated.own rfl rfl id (fun streamer => by cases streamer) unlowered
        unkilled closing
  | ungated uncounted =>
      obtain ⟨unlowered, unkilled⟩ := quiet (by simp) fun _ => uncounted
      exact gated.own rfl rfl id shown unlowered unkilled closing
  | release =>
      obtain ⟨unlowered, unkilled⟩ :=
        quiet (by simp) fun _ => gated.released (.inr (.inl here))
      exact gated.own rfl rfl id shown unlowered unkilled closing
  | ungate counted =>
      refine ⟨gated.hooked, fun _ => rfl, ?_, ?_, fun _ => rfl, ?_, closing⟩
      · rintro (configuring | creating)
        · exact (start.2.2.1 configuring).elim
        · exact (start.2.2.2 creating).elim
      · rintro (thread | streamer)
        · rw [placed.joined _ here rfl] at thread
          cases thread
        · rw [placed.nulled _ here rfl] at streamer
          cases streamer
      · intro ended
        have uncounted := gated.released (.inr (.inr (.inr ended)))
        rw [counted] at uncounted
        cases uncounted

/-- A start with nothing to tear down, on its way out of `session_init` or
further in. -/
theorem Gated.setStart (gated : Gated s) {vad : Bool}
    {stage : StartStage Init} (unadded : s.life.start.added = false)
    (free : s.owner = .nobody)
    (uncounted : ungated stage = true → ungated s.life.start = true)
    (counted : stage = .initializing .configuring ∨
      stage = .initializing .creating → s.gateCounted = true)
    (released : stage = .initializing .releasing ∨ stage = .returned false →
      s.gateCounted = false) :
    Gated { s with life := s.life.setStart stage, vad := vad } := by
  refine gated.advance (gated.hooked.setStart unadded stage) uncounted counted
    ?_ ?_ ?_
  · rintro (releasing | failed | closed)
    · exact released (.inl releasing)
    · exact released (.inr failed)
    · exact gated.released (.inr (.inr (.inr (.inr closed))))
  · intro _
    rw [free]
    rfl
  · exact id

/-- The start moves on within a session that is not torn down yet; its
`cap_cb` may get another owner. -/
theorem Gated.goOn (gated : Gated s) {stage : StartStage Init}
    (flag : s'.gateCounted = s.gateCounted)
    (unadded : s.life.start.added = false) (start : s'.life.start = stage)
    (close : s'.life.close = s.life.close) (hooked : s'.life.Hooked)
    (thread : s'.thread = true → s.gateCounted = true)
    (streamer : s'.streamer = s.streamer) (late : ungated stage = false)
    (begun : ∀ init, stage = .initializing init → init = .killing)
    (going : stage ≠ .returned false)
    (unlowered : lowering s'.owner = false)
    (unkilled : tearing s'.owner ≠ some .killed)
    (stopping : s'.owner.closes = false) : Gated s' := by
  have unended : ¬ s'.life.ended := by
    rintro (failed | closed)
    · exact going (start.symm.trans failed)
    · rw [close, (gated.hooked.unhooked unadded).2] at closed
      cases closed
  refine gated.move flag thread ?_ hooked ?_ ?_ ?_ (fun _ => unlowered) ?_
  · rw [streamer]
    exact fun shown => gated.held (.inr shown)
  · rw [start, late]
    simp
  · rw [start]
    rintro (configuring | creating)
    · cases begun _ configuring
    · cases begun _ creating
  · rintro (releasing | releasing | killed | ended)
    · cases begun _ (start.symm.trans releasing)
    · simp [lowering, releasing] at unlowered
    · exact (unkilled killed).elim
    · exact (unended ended).elim
  · rw [stopping]
    simp

/-- Before there is a thread the pointer is null. -/
theorem Placed.hidden (placed : Placed s)
    (early : s.life.start.early = true) : s.streamer = false := by
  have pointed := placed.pointed
  rw [(placed.early early).1] at pointed
  cases object : s.gstreamer with
  | absent =>
      rw [object] at pointed
      exact pointed.1
  | alive gstreamer =>
      rw [object] at pointed
      cases shown : s.streamer with
      | false => rfl
      | true => simp [shown, Pointed] at pointed
  | deleted =>
      rw [object] at pointed
      cases pointed

theorem Gated.step (gated : Gated s) (placed : Placed s)
    {act : SessionAct κ τ}
    (step : (session κ τ config).step s act = some (s', events)) :
    Gated s' := by
  have shown (streamer : s.streamer = true) := gated.held (.inr streamer)
  have thread (thread : s.thread = true) := gated.held (.inl thread)
  cases sessionStep_cases step with
  | life taken =>
      refine gated.advance (gated.hooked.step taken)
        (taken.before ungated rfl rfl rfl rfl)
        ?_ ?_ (fun ended => gated.lowered (taken.ended ended)) taken.called
      · rintro (configuring | creating)
        · exact gated.counted (.inl (taken.initializing configuring (by simp)))
        · exact gated.counted (.inr (taken.initializing creating (by simp)))
      · rintro (releasing | ended)
        · exact gated.released (.inl (taken.initializing releasing (by simp)))
        · exact gated.released (.inr (.inr (.inr (taken.ended ended))))
  | tear here taken => exact gated.tear placed here taken
  -- aws_transcribe_session_init
  | refuse start early =>
      have before : ungated s.life.start = true := by
        rcases early with rfl | rfl <;> rw [start] <;> rfl
      have free := placed.unowned (by
        rcases early with rfl | rfl <;> rw [start] <;> rfl)
      exact gated.setStart (by rw [start]; rfl) free
        (fun after => by cases after) (by simp)
        fun _ => gated.uncounted before
  | check start | count start =>
      have free := placed.unowned (by rw [start]; rfl)
      exact gated.setStart (by rw [start]; rfl) free
        (fun _ => by rw [start]; rfl) (by simp) (by simp)
  | configure start =>
      have free := placed.unowned (by rw [start]; rfl)
      exact gated.setStart (by rw [start]; rfl) free
        (fun after => by cases after) (fun _ => gated.counted (.inl start))
        (by simp)
  | misconfigured start =>
      have free := placed.unowned (by rw [start]; rfl)
      exact gated.setStart (by rw [start]; rfl) free
        (fun after => by cases after) (by simp) (by simp)
  | fail start uncounted =>
      have free := placed.unowned (by rw [start]; rfl)
      exact gated.setStart (by rw [start]; rfl) free
        (fun after => by cases after) (by simp) fun _ => uncounted
  | release start =>
      have free := placed.unowned (by rw [start]; rfl)
      exact gated.setStart (by rw [start]; rfl) free
        (fun after => by cases after) (by simp)
        fun _ => gated.released (.inl start)
  | gate start =>
      have free := placed.unowned (by rw [start]; rfl)
      have unhooked := gated.hooked.unhooked (by rw [start]; rfl)
      have unended : ¬ (s.life.setStart
          (.initializing .configuring)).ended := by
        rintro (failed | closed)
        · cases failed
        · rw [Life.setStart, unhooked.2] at closed
          cases closed
      refine ⟨gated.hooked.setStart (by rw [start]; rfl) _, ?_, fun _ => rfl,
        fun _ => rfl, ?_, fun ended => (unended ended).elim, gated.closing⟩
      · intro before
        cases before
      · rintro (releasing | releasing | killed | ended)
        · cases releasing
        · simp [free, tearing] at releasing
        · simp [free, tearing] at killed
        · exact (unended ended).elim
  | ungate start =>
      have free := placed.unowned (by rw [start]; rfl)
      have early : s.life.start.early = true := by
        rw [start]
        rfl
      refine ⟨gated.hooked.setStart (by rw [start]; rfl) _, fun _ => rfl,
        ?_, ?_, fun _ => rfl, ?_, gated.closing⟩
      · simp [Life.setStart]
      · rintro (thread | streamer)
        · rw [(placed.early early).2] at thread
          cases thread
        · rw [placed.hidden early] at streamer
          cases streamer
      · intro _
        rw [free]
        rfl
  | create start =>
      have free := placed.unowned (by rw [start]; rfl)
      exact gated.goOn rfl (by rw [start]; rfl) rfl rfl
        (gated.hooked.setStart (by rw [start]; rfl) _)
        (fun _ => gated.counted (.inr start)) rfl rfl (by rintro _ ⟨⟩)
        (by rintro ⟨⟩)
        (by rw [free]; rfl) (by simp [free, tearing]) (by rw [free]; rfl)
  | uncreated start =>
      exact gated.goOn rfl (by rw [start]; rfl) rfl rfl
        (gated.hooked.setStart (by rw [start]; rfl) _) thread rfl rfl
        (by rintro _ ⟨⟩; rfl) (by rintro ⟨⟩) rfl (by simp [tearing]) rfl
  | killed start owner =>
      have uncounted := gated.released (.inr (.inr (.inl (by rw [owner]; rfl))))
      refine gated.move rfl thread shown
        (gated.hooked.setStart (by rw [start]; rfl) _) ?_ ?_
        (fun _ => uncounted) (fun _ => rfl) (fun closes => by cases closes)
      · intro after
        cases after
      · simp [Life.setStart]
  -- switch_core_media_bug_add
  | attach start =>
      have free := placed.unowned (by rw [start]; rfl)
      exact gated.goOn rfl (by rw [start]; rfl) rfl rfl
        (gated.hooked.attach (by rw [start]; rfl)) thread rfl rfl (by simp)
        (by simp)
        (by rw [free]; rfl) (by simp [free, tearing]) (by rw [free]; rfl)
  | orphan start =>
      exact gated.goOn rfl (by rw [start]; rfl) rfl rfl
        (gated.hooked.setStart (by rw [start]; rfl) _) thread rfl rfl
        (by rintro _ ⟨⟩)
        (by rintro ⟨⟩) rfl (by simp [tearing]) rfl
  | cleaned start owner =>
      have uncounted := gated.released (.inr (.inr (.inl (by rw [owner]; rfl))))
      refine gated.move rfl thread shown
        (gated.hooked.setStart (by rw [start]; rfl) _) ?_ ?_
        (fun _ => uncounted) (fun _ => rfl) (fun closes => by cases closes)
      · intro after
        cases after
      · simp [Life.setStart]
  -- aws_transcribe_session_stop, aws_transcribe_session_close and the frame
  | closed owner closing =>
      have uncounted := gated.released (.inr (.inr (.inl (by rw [owner]; rfl))))
      have called := gated.closing (by rw [owner]; exact closing)
      exact gated.move rfl thread shown (gated.hooked.closed called) id
        gated.counted (fun _ => uncounted) (fun _ => rfl)
        fun closes => by cases closes
  | lockClose free added closing called =>
      exact gated.own rfl rfl id shown (by simp [tearing]) (by simp [tearing])
        fun _ => called
  | verify owner | torn owner | clear owner =>
      exact gated.own rfl rfl id shown (by simp [tearing]) (by simp [tearing])
        fun closes => gated.closing (by rw [owner]; exact closes)
  | lock free added stopping =>
      exact gated.own rfl rfl id shown (by simp [tearing]) (by simp [tearing])
        fun closes => by
          rw [Owner.closes, stopping] at closes
          cases closes
  | yields | unlock | frameLock | frameLoad | frameLoadNull | frameUnlock =>
      exact gated.own rfl rfl id shown (by simp [tearing]) (by simp [tearing])
        fun closes => by cases closes
  -- the rest leaves the start, the owner and the flag alone
  | frameCall owner made call | work worker made call
  | callback issued made call | connect worker call | finish worker call =>
      obtain ⟨⟨object, request, rfl⟩, _⟩ := invoke_inner call
      exact ⟨gated.hooked, gated.uncounted, gated.counted, gated.held,
        gated.released, gated.lowered, gated.closing⟩
  | construct | throw | delay | heed | process | exit =>
      exact ⟨gated.hooked, gated.uncounted, gated.counted, gated.held,
        gated.released, gated.lowered, gated.closing⟩
  | publish worker =>
      have threaded := placed.threaded (by simp [worker]) (by simp [worker])
      exact ⟨gated.hooked, gated.uncounted, gated.counted,
        fun _ => thread threaded, gated.released, gated.lowered,
        gated.closing⟩

/-- What the gate sees. -/
def SessionEvent.gate : SessionEvent κ τ → Bool
  | .counted | .released => true
  | .notice _ | .lifetime _ | .gstreamer _ => false

theorem gate_of_inner {event : SessionEvent κ τ} (inner : event.inner = true) :
    event.gate = false := by
  cases event with
  | lifetime | gstreamer => rfl
  | _ => cases inner

inductive Turn (s : CapCb κ τ) :
    SessionAct κ τ → CapCb κ τ → List (SessionEvent κ τ) → Prop where
  | still {act : SessionAct κ τ} {s' : CapCb κ τ}
      {events : List (SessionEvent κ τ)} (same : s'.live = s.live)
      (quiet : ∀ event ∈ events, event.gate = false)
      (early : ungated s'.life.start = true → ungated s.life.start = true) :
      Turn s act s' events
  | enter {vad : Bool} {s' : CapCb κ τ}
      (start : s.life.start = .initializing .gating)
      (absent : s.live = false) (present : s'.live = true)
      (late : ungated s'.life.start = false) :
      Turn s (.init true vad) s' [.counted]
  | leave {act : SessionAct κ τ} {s' : CapCb κ τ} (present : s.live = true)
      (absent : s'.live = false) (late : ungated s'.life.start = false) :
      Turn s act s' [.released]

theorem Turn.aside {act : SessionAct κ τ}
    (flag : s'.gateCounted = s.gateCounted)
    (start : unflagged s'.life.start = unflagged s.life.start)
    (owner : lowering s'.owner = lowering s.owner)
    (quiet : ∀ event ∈ events, event.gate = false)
    (early : ungated s'.life.start = true → ungated s.life.start = true) :
    Turn s act s' events := by
  refine .still ?_ quiet early
  unfold CapCb.live
  rw [flag, start, owner]

theorem unflagged_of_step {life life' : Life κ Init} {act : Control κ}
    {notices : List (Notice κ)}
    (step : Life.Step .checking life act life' notices) :
    unflagged life'.start = unflagged life.start := by
  cases step with
  | call start | replace start | enter start | proceed start | publish start =>
      rw [start]
      rfl
  | resolve | remove | removeGone | removed | hangup => rfl

theorem Gated.turn_tear (gated : Gated s) (placed : Placed s)
    {act : SessionAct κ τ} {stage stage' : Teardown}
    (here : tearing s.owner = some stage)
    (step : TeardownStep config s stage s' stage' events) :
    Turn s act { s' with owner := retear s.owner stage' } events := by
  have now : tearing (retear s.owner stage') = some stage' :=
    tearing_retear here
  have claimed := gated_of_claimed (placed.claimed here)
  have aside (before : stage ≠ .releasing) (after : stage' ≠ .releasing) :
      lowering (retear s.owner stage') = lowering s.owner := by
    simp [lowering, now, here, before, after]
  have join : s.join ≠ .releasing := by
    unfold CapCb.join
    split <;> simp
  cases step with
  | request | load | deleteGone | skip | ungated =>
      exact .aside rfl rfl (aside (by simp) (by simp))
        (by simp [SessionEvent.gate]) id
  | join | delete | null =>
      exact .aside rfl rfl (aside (by simp) (by simp))
        (by simp [SessionEvent.gate]) id
  | loadNull => exact .aside rfl rfl (aside (by simp) join) (by simp) id
  | finish call =>
      obtain ⟨⟨object, request, rfl⟩, inner⟩ := invoke_inner call
      exact .aside rfl rfl (aside (by simp) join)
        (fun event member => gate_of_inner (inner event member)) id
  | ungate counted =>
      refine .still ?_ (by simp) id
      simp [CapCb.live, lowering, now, counted]
  | release =>
      have uncounted := gated.released (.inr (.inl here))
      refine .leave ?_ ?_ claimed.1
      · simp [CapCb.live, lowering, here]
      · simp [CapCb.live, lowering, now, uncounted, claimed.2.1]

theorem Gated.turn (gated : Gated s) (placed : Placed s)
    {act : SessionAct κ τ}
    (step : (session κ τ config).step s act = some (s', events)) :
    Turn s act s' events := by
  cases sessionStep_cases step with
  | life taken =>
      exact .aside rfl (unflagged_of_step taken) rfl
        (by simp [SessionEvent.gate]) (taken.before ungated rfl rfl rfl rfl)
  | tear here taken => exact gated.turn_tear placed here taken
  -- aws_transcribe_session_init
  | refuse start early =>
      rcases early with rfl | rfl <;>
        exact .aside rfl (by rw [start]; rfl) rfl (by simp)
          (fun after => by cases after)
  | check start =>
      exact .aside rfl (by rw [start]; rfl) rfl (by simp)
        fun _ => by rw [start]; rfl
  | count start =>
      have uncounted := gated.uncounted (by rw [start]; rfl)
      have free := placed.unowned (by rw [start]; rfl)
      refine .enter start ?_ ?_ rfl
      · simp [CapCb.live, uncounted, start, unflagged, free, lowering, tearing]
      · simp [CapCb.live, Life.setStart, unflagged]
  | gate start =>
      refine .still ?_ (by simp) (fun after => by cases after)
      simp [CapCb.live, start, unflagged]
  | configure start | misconfigured start =>
      exact .aside rfl (by rw [start]; rfl) rfl (by simp)
        (fun after => by cases after)
  | create start =>
      exact .aside rfl (by rw [start]; rfl) rfl (by simp [SessionEvent.gate])
        (fun after => by cases after)
  | fail start =>
      exact .aside rfl (by rw [start]; rfl) rfl (by simp)
        (fun after => by cases after)
  | ungate start counted =>
      refine .still ?_ (by simp) (fun after => by cases after)
      simp [CapCb.live, counted, Life.setStart, unflagged]
  | release start =>
      have uncounted := gated.released (.inl start)
      have free := placed.unowned (by rw [start]; rfl)
      refine .leave ?_ ?_ rfl
      · simp [CapCb.live, start, unflagged]
      · simp [CapCb.live, uncounted, Life.setStart, unflagged, free, lowering,
          tearing]
  | uncreated start =>
      have free := placed.unowned (by rw [start]; rfl)
      exact .aside rfl (by rw [start]; rfl) (by rw [free]; rfl) (by simp)
        (fun after => by cases after)
  | killed start owner | cleaned start owner =>
      exact .aside rfl (by rw [start]; rfl) (by rw [owner]; rfl) (by simp)
        (fun after => by cases after)
  -- switch_core_media_bug_add
  | attach start =>
      exact .aside rfl (by rw [start]; rfl) rfl (by simp)
        (fun after => by cases after)
  | orphan start =>
      have free := placed.unowned (by rw [start]; rfl)
      exact .aside rfl (by rw [start]; rfl) (by rw [free]; rfl) (by simp)
        (fun after => by cases after)
  -- aws_transcribe_session_stop, aws_transcribe_session_close and the frame
  | lock owner | lockClose owner | verify owner | yields owner | closed owner
  | torn owner | clear owner | unlock owner | frameLock owner | frameLoad owner
  | frameLoadNull owner | frameUnlock owner =>
      exact .aside rfl rfl (by rw [owner]; rfl) (by simp [SessionEvent.gate]) id
  | frameCall owner made call | work worker made call
  | callback issued made call | connect worker call | finish worker call =>
      obtain ⟨⟨object, request, rfl⟩, inner⟩ := invoke_inner call
      exact .aside rfl rfl rfl
        (fun event member => gate_of_inner (inner event member)) id
  -- aws_transcribe_thread
  | construct | throw | delay | publish | heed | process | exit =>
      exact .aside rfl rfl rfl (by simp [SessionEvent.gate]) id

theorem countP_of_quiet (quiet : ∀ event ∈ events, event.gate = false) :
    events.countP SessionEvent.isCounted = 0 ∧
      events.countP SessionEvent.isReleased = 0 := by
  constructor <;> apply List.countP_eq_zero.mpr <;> intro event member <;>
    have outside := quiet event member <;>
    cases event <;> simp_all [SessionEvent.gate, SessionEvent.isCounted,
      SessionEvent.isReleased]

/-- The count of one session along its run. -/
structure Balanced (trace : List (SessionEvent κ τ)) (s : CapCb κ τ) :
    Prop where
  early : ungated s.life.start = true →
    trace.countP SessionEvent.isCounted = 0
  once : trace.countP SessionEvent.isCounted ≤ 1
  balance : trace.countP SessionEvent.isCounted =
    trace.countP SessionEvent.isReleased + if s.live then 1 else 0

theorem balanced_fresh : Balanced [] (CapCb.fresh κ τ) := by
  constructor <;> simp [CapCb.fresh, Life.fresh, CapCb.live, unflagged,
    lowering, tearing]

theorem Balanced.turn {act : SessionAct κ τ} (balanced : Balanced trace s)
    (turn : Turn s act s' events) : Balanced (trace ++ events) s' := by
  have balance := balanced.balance
  cases turn with
  | still same quiet early =>
      obtain ⟨uncounted, unreleased⟩ := countP_of_quiet quiet
      refine ⟨?_, ?_, ?_⟩
      · intro after
        rw [List.countP_append, uncounted, balanced.early (early after)]
      · rw [List.countP_append, uncounted]
        exact balanced.once
      · rw [List.countP_append, List.countP_append, uncounted, unreleased, same]
        exact balance
  | enter start absent present late =>
      have fresh := balanced.early (by rw [start]; rfl)
      rw [absent, fresh] at balance
      refine ⟨?_, ?_, ?_⟩
      · intro after
        rw [late] at after
        cases after
      · simp [fresh, SessionEvent.isCounted]
      · simp only [List.countP_append, fresh, present]
        simp_all [SessionEvent.isCounted, SessionEvent.isReleased]
  | leave present absent late =>
      rw [present] at balance
      refine ⟨?_, ?_, ?_⟩
      · intro after
        rw [late] at after
        cases after
      · rw [List.countP_append]
        exact balanced.once
      · simp only [List.countP_append, balance, absent]
        simp [SessionEvent.isCounted, SessionEvent.isReleased]

/-- A session that is over is not counted any more. -/
theorem Gated.unlive (gated : Gated s)
    (ended : s.life.ended) : s.live = false := by
  have uncounted := gated.released (.inr (.inr (.inr ended)))
  have unlowered := gated.lowered ended
  have unflagged : unflagged s.life.start = false := by
    rcases ended with failed | closed
    · rw [failed]
      rfl
    · have added := gated.hooked.added (.inr (by simp [closed]))
      cases start : s.life.start with
      | initializing => simp [start, StartStage.added] at added
      | _ => rfl
  unfold CapCb.live
  rw [uncounted, unflagged, unlowered]
  rfl

/-- A session that is not counted has nothing that runs. -/
theorem Gated.idle (gated : Gated s) (absent : s.live = false) :
    s.thread = false ∧ s.streamer = false := by
  have uncounted : s.gateCounted = false := by
    simp only [CapCb.live, Bool.or_eq_false_iff] at absent
    exact absent.1.1
  constructor
  · by_contra thread
    rw [Bool.not_eq_false] at thread
    rw [gated.held (.inl thread)] at uncounted
    cases uncounted
  · by_contra streamer
    rw [Bool.not_eq_false] at streamer
    rw [gated.held (.inr streamer)] at uncounted
    cases uncounted

theorem Gated.absent (gated : Gated s) (placed : Placed s)
    (start : s.life.start = .notCalled) : s.live = false := by
  have uncounted := gated.uncounted (by rw [start]; rfl)
  have free := placed.unowned (by rw [start]; rfl)
  simp [CapCb.live, uncounted, start, unflagged, free, lowering, tearing]

end DrachtioModules.Aws

import DrachtioModules.Google.Capture

/-!
# Who deletes a GStreamer of mod_google_transcribe

`cb->streamer` is the only pointer to the GStreamer, and `cb->thread` to the
thread that reads from it.  Whoever deletes the GStreamer has the `cap_cb` to
himself and has joined the thread before.
-/

namespace DrachtioModules.Google.Capture

open Transcribe (Caller Channel Life StartStage Lifetime Owner Object Frame
  FrameAct CaptureAct CaptureEvent Passage Control Notice)

variable {κ : Type} {s s' : CapCb κ} {events : List Lifetime}

/-- The `reap_streamer` in progress. -/
def reaping : Owner Frame Critical Reap → Option Reap
  | .stop _ (.reaping _ stage) | .start stage => some stage
  | _ => none

/-- There is no bug, and no `cap_cb` that is cleaned up for want of one. -/
def unclaimed : StartStage Init → Bool
  | .cleaning | .attached | .returned true => false
  | _ => true

/-- The constructor has not run. -/
def uncreated : StartStage Init → Bool
  | .notCalled | .entered | .replacing | .initializing .checking
  | .initializing .creating => true
  | _ => false

/-- `session_init` has the GStreamer it has made. -/
def created : StartStage Init → Bool
  | .initializing .connecting | .initializing .spawning
  | .initializing .discarding => true
  | _ => false

/-- `cb->streamer` and `cb->thread`. -/
def Pointed (streamer thread : Bool) : Object → Prop
  | .absent => streamer = false ∧ thread = false
  | .alive => streamer = true
  | .handed => False
  | .deleted => thread = false

/-- What `reap_streamer` has found in them. -/
def Reaping (streamer thread : Bool) (object : Object) : Reap → Prop
  | .loading => True
  | .writing => streamer = true
  | .joining shown => streamer = shown
  | .deleting => streamer = true ∧ thread = false
  | .nulling => object = .deleted
  | .reaped => streamer = false

/-- What the owner of the `cap_cb` has found there. -/
def Stands (streamer thread : Bool) (object : Object) :
    Owner Frame Critical Reap → Prop
  | .frame .looping => streamer = true
  | .stop _ (.reaping _ stage) | .start stage =>
      Reaping streamer thread object stage
  | _ => True

/-- The GStreamer is gone, and the pointer to it is about to. -/
def Nulling (start : StartStage Init) (owner : Owner Frame Critical Reap) :
    Prop :=
  start = .initializing .nulling ∨ reaping owner = some .nulling

theorem unclaimed_of_early {stage : StartStage Init}
    (early : stage.early = true) : unclaimed stage = true := by
  cases stage with
  | attached => cases early
  | returned success => cases early
  | cleaning => cases early
  | _ => rfl

theorem early_of_uncreated {stage : StartStage Init}
    (before : uncreated stage = true) : stage.early = true := by
  cases stage with
  | notCalled | entered | replacing | initializing => rfl
  | _ => cases before

theorem early_of_created {stage : StartStage Init}
    (made : created stage = true) : stage.early = true := by
  cases stage with
  | initializing => rfl
  | _ => cases made

theorem unadded_of_unclaimed {stage : StartStage Init}
    (free : unclaimed stage = true) : stage.added = false := by
  cases stage with
  | attached => cases free
  | returned success =>
      cases success with
      | false => rfl
      | true => cases free
  | _ => rfl

structure Kept (s : CapCb κ) : Prop where
  hooked : s.life.Hooked
  closing : s.owner.closes = true → s.life.close = .called
  unowned : unclaimed s.life.start = true → s.owner = .nobody
  absent : uncreated s.life.start = true → s.gstreamer = .absent
  created : created s.life.start = true → s.streamer = true
  unthreaded : s.life.start.early = true → s.thread = false
  reading : s.reader = .running → s.thread = true
  pointed : Pointed s.streamer s.thread s.gstreamer
  nulling : s.gstreamer = .deleted → s.streamer = true →
    Nulling s.life.start s.owner
  nulled : s.life.start = .initializing .nulling → s.gstreamer = .deleted
  stands : Stands s.streamer s.thread s.gstreamer s.owner
  ended : s.life.ended → s.streamer = false

theorem kept_fresh : Kept (CapCb.fresh κ) := by
  refine ⟨Life.hooked_fresh, ?_, ?_, ?_, ?_, ?_, ?_, ⟨rfl, rfl⟩, ?_, ?_, trivial,
    ?_⟩ <;> intros <;> simp_all [CapCb.fresh, Life.fresh, Owner.closes,
      Capture.created]

/-- The session after a step, and what the step did to the GStreamer and to the
read thread. -/
def Goes (s s' : CapCb κ) (events : List Lifetime) : Prop :=
  Kept s' ∧ Passage s.gstreamer s.thread s'.gstreamer s'.thread events

theorem Kept.claimed (kept : Kept s) (owned : s.owner ≠ .nobody) :
    unclaimed s.life.start = false := by
  by_contra unclaimed
  rw [Bool.not_eq_false] at unclaimed
  exact owned (kept.unowned unclaimed)

theorem Kept.alive (kept : Kept s) (shown : s.streamer = true)
    (unnulled : ¬ Nulling s.life.start s.owner) : s.gstreamer = .alive := by
  have pointed := kept.pointed
  cases object : s.gstreamer with
  | alive => rfl
  | deleted => exact (unnulled (kept.nulling object shown)).elim
  | handed =>
      rw [object] at pointed
      exact pointed.elim
  | absent =>
      rw [object, shown] at pointed
      cases pointed.1

theorem Kept.move (kept : Kept s) {life : Life κ Init} {vad peeked : Bool}
    {owner : Owner Frame Critical Reap} (hooked : life.Hooked)
    (closing : owner.closes = true → life.close = .called)
    (unowned : unclaimed life.start = true → owner = .nobody)
    (absent : uncreated life.start = true → uncreated s.life.start = true)
    (created : Capture.created life.start = true → s.streamer = true)
    (early : life.start.early = true → s.life.start.early = true)
    (nulling : Nulling s.life.start s.owner → Nulling life.start owner)
    (nulled : life.start = .initializing .nulling →
      s.life.start = .initializing .nulling)
    (stands : Stands s.streamer s.thread s.gstreamer owner)
    (ended : life.ended → s.streamer = false) :
    Goes s { s with
      life := life
      vad := vad
      peeked := peeked
      owner := owner } [] :=
  ⟨{ hooked := hooked
     closing := closing
     unowned := unowned
     absent := fun before => kept.absent (absent before)
     created := created
     unthreaded := fun before => kept.unthreaded (early before)
     reading := kept.reading
     pointed := kept.pointed
     nulling := fun deleted shown => nulling (kept.nulling deleted shown)
     nulled := fun now => kept.nulled (nulled now)
     stands := stands
     ended := ended }, .still⟩

theorem Kept.own (kept : Kept s) {peeked : Bool}
    {owner : Owner Frame Critical Reap}
    (closing : owner.closes = true → s.life.close = .called)
    (claimed : unclaimed s.life.start = false ∨ owner = .nobody)
    (before : reaping s.owner ≠ some .nulling)
    (stands : Stands s.streamer s.thread s.gstreamer owner) :
    Goes s { s with peeked := peeked, owner := owner } [] := by
  refine kept.move kept.hooked closing ?_ id kept.created id ?_ id stands
    kept.ended
  · intro unclaimed
    rcases claimed with claimed | nobody
    · rw [claimed] at unclaimed
      cases unclaimed
    · exact nobody
  · rintro (discarding | nulling)
    · exact .inl discarding
    · exact (before nulling).elim

theorem Kept.setStart (kept : Kept s) {stage : StartStage Init} {vad : Bool}
    (unclaimed : unclaimed s.life.start = true)
    (unnulled : s.life.start ≠ .initializing .nulling)
    (absent : uncreated stage = true → uncreated s.life.start = true)
    (created : Capture.created stage = true → s.streamer = true)
    (early : stage.early = true → s.life.start.early = true)
    (nulling : stage ≠ .initializing .nulling)
    (failed : stage = .returned false → s.streamer = false) :
    Goes s { s with life := s.life.setStart stage, vad := vad } [] := by
  have free := kept.unowned unclaimed
  have unadded := unadded_of_unclaimed unclaimed
  refine kept.move (kept.hooked.setStart unadded stage) kept.closing
    (fun _ => free) absent created early ?_ (fun now => (nulling now).elim)
    kept.stands ?_
  · rintro (discarding | nulling)
    · exact (unnulled discarding).elim
    · rw [free] at nulling
      cases nulling
  · rintro (returned | closed)
    · exact failed returned
    · exact kept.ended (.inr closed)

theorem Kept.within (kept : Kept s) {streamer thread : Bool} {object : Object}
    {owner : Owner Frame Critical Reap}
    (claimed : unclaimed s.life.start = false)
    (closing : owner.closes = true → s.life.close = .called)
    (reading : s.reader = .running → thread = true)
    (pointed : Pointed streamer thread object)
    (nulling : object = .deleted → streamer = true →
      reaping owner = some .nulling)
    (stands : Stands streamer thread object owner)
    (ended : s.life.ended → streamer = false) :
    Kept { s with
      streamer := streamer
      thread := thread
      owner := owner
      gstreamer := object } := by
  have late : s.life.start.early = true → False := by
    intro early
    rw [unclaimed_of_early early] at claimed
    cases claimed
  refine ⟨kept.hooked, closing, ?_, ?_, ?_, ?_, reading, pointed, ?_, ?_,
    stands, ended⟩
  · intro unclaimed
    rw [claimed] at unclaimed
    cases unclaimed
  · exact fun before => (late (early_of_uncreated before)).elim
  · exact fun made => (late (early_of_created made)).elim
  · exact fun early => (late early).elim
  · exact fun deleted shown => .inr (nulling deleted shown)
  · intro discarding
    dsimp only at discarding
    rw [discarding] at late
    exact (late rfl).elim

/-- The `reap_streamer` in progress goes on. -/
def rereap (owner : Owner Frame Critical Reap) (stage : Reap) :
    Owner Frame Critical Reap :=
  match owner with
  | .stop caller (.reaping found _) => .stop caller (.reaping found stage)
  | .start _ => .start stage
  | other => other

theorem owned_of_reaping {owner : Owner Frame Critical Reap} {stage : Reap}
    (here : reaping owner = some stage) : owner ≠ .nobody := by
  rintro rfl
  cases here

theorem reaping_rereap {owner : Owner Frame Critical Reap} {stage next : Reap}
    (here : reaping owner = some stage) :
    reaping (rereap owner next) = some next := by
  cases owner with
  | nobody | frame => cases here
  | start => rfl
  | stop caller critical =>
      cases critical with
      | reaping => rfl
      | _ => cases here

theorem closes_rereap {owner : Owner Frame Critical Reap} {stage : Reap} :
    (rereap owner stage).closes = owner.closes := by
  cases owner with
  | stop caller critical => cases critical <;> rfl
  | _ => rfl

theorem stands_of_reaping {streamer thread : Bool} {object : Object}
    {owner : Owner Frame Critical Reap} {stage : Reap}
    (here : reaping owner = some stage) :
    Stands streamer thread object owner ↔
      Reaping streamer thread object stage := by
  cases owner with
  | nobody | frame => cases here
  | start =>
      cases here
      rfl
  | stop caller critical =>
      cases critical with
      | reaping =>
          cases here
          rfl
      | _ => cases here

theorem Kept.unnulled (kept : Kept s) {stage : Reap}
    (here : reaping s.owner = some stage) (before : stage ≠ .nulling) :
    ¬ Nulling s.life.start s.owner := by
  rintro (discarding | nulling)
  · have claimed := kept.claimed (owned_of_reaping here)
    rw [discarding] at claimed
    cases claimed
  · rw [here] at nulling
    cases nulling
    exact before rfl

theorem Kept.rereap (kept : Kept s) {stage stage' : Reap}
    (here : reaping s.owner = some stage) (before : stage ≠ .nulling)
    (stands : Reaping s.streamer s.thread s.gstreamer stage') :
    Goes s { s with owner := Capture.rereap s.owner stage' } [] := by
  refine kept.own ?_ (.inl (kept.claimed (owned_of_reaping here))) ?_
    ((stands_of_reaping (reaping_rereap here)).mpr stands)
  · rw [closes_rereap]
    exact kept.closing
  · rw [here]
    simpa using before

theorem Kept.reap (kept : Kept s) {stage stage' : Reap}
    (here : reaping s.owner = some stage)
    (step : stepReap s stage = some (s', stage', events)) :
    Goes s { s' with owner := Capture.rereap s.owner stage' } events := by
  have stands := (stands_of_reaping here).mp kept.stands
  have now : reaping (Capture.rereap s.owner stage') = some stage' :=
    reaping_rereap here
  have claimed := kept.claimed (owned_of_reaping here)
  have pointed := kept.pointed
  have closing : (Capture.rereap s.owner stage').closes = true →
      s.life.close = .called := by
    rw [closes_rereap]
    exact kept.closing
  cases stage with
  | loading =>
      simp only [stepReap] at step
      split at step <;> cases step <;> rename_i shown
      · exact kept.rereap here (by simp) shown
      · rw [Bool.not_eq_true] at shown
        exact kept.rereap here (by simp) shown
  | writing =>
      cases step
      have alive := kept.alive stands (kept.unnulled here (by simp))
      rw [show s.gstreamer.use .stop = [] by rw [alive]; rfl]
      exact kept.rereap here (by simp) stands
  | joining shown =>
      have next : ∀ {thread : Bool}, thread = false →
          Reaping s.streamer thread s.gstreamer
            (if shown then .deleting else .reaped) := by
        intro thread idle
        cases shown with
        | true => exact ⟨stands, idle⟩
        | false => exact stands
      simp only [stepReap] at step
      split at step
      · rename_i running
        split at step <;> cases step
        rename_i exited
        rw [running] at pointed
        have undeleted : s.gstreamer ≠ .deleted := by
          intro deleted
          rw [deleted] at pointed
          cases pointed
        refine ⟨kept.within claimed closing ?_ ?_ ?_
          ((stands_of_reaping now).mpr (next rfl)) kept.ended,
          .join running undeleted⟩
        · rw [exited]
          intro reading
          cases reading
        · cases object : s.gstreamer with
          | alive =>
              rw [object] at pointed
              exact pointed
          | deleted => exact (undeleted object).elim
          | absent =>
              rw [object] at pointed
              cases pointed.2
          | handed =>
              rw [object] at pointed
              exact pointed
        · exact fun deleted => (undeleted deleted).elim
      · rename_i idle
        rw [Bool.not_eq_true] at idle
        cases step
        exact kept.rereap here (by simp) (next idle)
  | deleting =>
      have alive := kept.alive stands.1 (kept.unnulled here (by simp))
      simp only [stepReap, alive] at step
      cases step
      refine ⟨kept.within claimed closing kept.reading stands.2
        (fun _ _ => now) ((stands_of_reaping now).mpr rfl) kept.ended, ?_⟩
      exact .delete (.inl alive) stands.2
  | nulling =>
      have deleted : s.gstreamer = .deleted := stands
      rw [deleted] at pointed
      cases step
      refine ⟨kept.within claimed closing kept.reading ?_ (fun _ shown => ?_)
        ((stands_of_reaping now).mpr rfl) fun _ => rfl, .still⟩
      · rw [deleted]
        exact pointed
      · cases shown
  | reaped => cases step

theorem Kept.reader (kept : Kept s) {done : Bool}
    (step : stepReader s done = some (s', events)) : Goes s s' events := by
  simp only [stepReader] at step
  split at step
  · split at step <;> cases step
    · refine ⟨⟨kept.hooked, kept.closing, kept.unowned, kept.absent,
        kept.created, kept.unthreaded, ?_, kept.pointed, kept.nulling,
        kept.nulled, kept.stands, kept.ended⟩, .still⟩
      intro reading
      cases reading
    · exact ⟨kept, .use (by simp)⟩
  · cases step
  · cases step

theorem Kept.init (kept : Kept s) {ok vad : Bool}
    (step : stepInit s ok vad = some (s', events)) : Goes s s' events := by
  cases start : s.life.start with
  | initializing stage =>
      have unadded : s.life.start.added = false := by
        rw [start]
        rfl
      have unclaimed : unclaimed s.life.start = true := by
        rw [start]
        rfl
      have idle := kept.unthreaded (by rw [start]; rfl)
      have free := kept.unowned unclaimed
      have early : ∀ {stage : StartStage Init}, stage.early = true →
          s.life.start.early = true := by
        intro _ _
        rw [start]
        rfl
      have unclosed : s.life.close = .returned → False := by
        rw [(kept.hooked.unhooked unadded).2]
        intro closed
        cases closed
      cases stage with
      | checking =>
          have absent := kept.absent (by rw [start]; rfl)
          have pointed := kept.pointed
          rw [absent] at pointed
          simp only [stepInit, start] at step
          split at step <;> cases step
          · exact kept.setStart unclaimed (by simp [start])
              (fun _ => by rw [start]; rfl) (fun made => by cases made) early
              (by simp) (by simp)
          · exact kept.setStart unclaimed (by simp [start])
              (fun before => by cases before) (fun made => by cases made) early
              (by simp) fun _ => pointed.1
      | creating =>
          have absent := kept.absent (by rw [start]; rfl)
          have pointed := kept.pointed
          rw [absent] at pointed
          simp only [stepInit, start] at step
          split at step <;> cases step
          · refine ⟨⟨kept.hooked.setStart unadded _, kept.closing,
              fun _ => free, ?_, fun _ => rfl, fun _ => idle, kept.reading, rfl,
              ?_, ?_, ?_, ?_⟩, .create absent⟩
            · intro before
              dsimp only [Life.setStart] at before
              split at before <;> cases before
            · intro deleted
              cases deleted
            · intro nulling
              dsimp only [Life.setStart] at nulling
              split at nulling <;> cases nulling
            · rw [free]
              trivial
            · rintro (failed | closed)
              · cases failed
              · exact (unclosed closed).elim
          · exact kept.setStart unclaimed (by simp [start])
              (fun before => by cases before) (fun made => by cases made) early
              (by simp) fun _ => pointed.1
      | connecting =>
          have shown := kept.created (by rw [start]; rfl)
          simp only [stepInit, start] at step
          cases step
          exact ⟨(kept.setStart unclaimed (by simp [start])
            (fun before => by cases before) (fun _ => shown) early (by simp)
            (by simp)).1, .use (by simp)⟩
      | spawning =>
          have shown := kept.created (by rw [start]; rfl)
          have alive := kept.alive shown (by
            rw [start, free]
            simp [Nulling, reaping])
          simp only [stepInit, start] at step
          split at step <;> cases step
          · refine ⟨⟨kept.hooked.setStart unadded _, kept.closing,
              fun _ => free, ?_, ?_, ?_, fun _ => rfl, ?_, ?_, ?_, ?_, ?_⟩,
              .spawn idle (by simp [alive])⟩
            · intro before
              cases before
            · intro made
              cases made
            · intro early
              cases early
            · rw [alive]
              exact shown
            · intro deleted
              dsimp only at deleted
              rw [alive] at deleted
              cases deleted
            · intro nulling
              cases nulling
            · rw [free]
              trivial
            · rintro (failed | closed)
              · cases failed
              · exact (unclosed closed).elim
          · exact kept.setStart unclaimed (by simp [start])
              (fun before => by cases before) (fun _ => shown) early (by simp)
              (by simp)
      | discarding =>
          have shown := kept.created (by rw [start]; rfl)
          have alive := kept.alive shown (by
            rw [start, free]
            simp [Nulling, reaping])
          simp only [stepInit, start, shown, alive, if_true] at step
          cases step
          refine ⟨⟨kept.hooked.setStart unadded _, kept.closing,
            fun _ => free, ?_, ?_, fun _ => idle, kept.reading, idle,
            fun _ _ => .inl rfl, fun _ => rfl, ?_, ?_⟩, .delete (.inl alive) idle⟩
          · intro before
            cases before
          · intro made
            cases made
          · rw [free]
            trivial
          · rintro (failed | closed)
            · cases failed
            · exact (unclosed closed).elim
      | nulling =>
          have deleted := kept.nulled start
          simp only [stepInit, start] at step
          cases step
          refine ⟨⟨kept.hooked.setStart unadded _, kept.closing,
            fun _ => free, ?_, ?_, fun _ => idle, kept.reading, ?_, ?_, ?_, ?_,
            fun _ => rfl⟩, .still⟩
          · intro before
            cases before
          · intro made
            cases made
          · rw [deleted]
            exact idle
          · intro _ shown
            cases shown
          · intro nulling
            cases nulling
          · rw [free]
            trivial
  | _ => simp [stepInit, start] at step

theorem Kept.add (kept : Kept s) {ok : Bool}
    (step : stepAdd s ok = some (s', events)) : Goes s s' events := by
  simp only [stepAdd] at step
  split at step
  · rename_i start
    have free := kept.unowned (by rw [start]; rfl)
    have unadded : s.life.start.added = false := by
      rw [start]
      rfl
    have unclosed := (kept.hooked.unhooked unadded).2
    have unnulled : ¬ Nulling s.life.start s.owner := by
      rw [start, free]
      simp [Nulling, reaping]
    split at step <;> cases step
    · refine kept.move (kept.hooked.attach unadded) kept.closing
        (fun _ => free) ?_ ?_ ?_ (fun nulling => (unnulled nulling).elim) ?_
        kept.stands ?_
      · intro before
        cases before
      · intro made
        cases made
      · intro early
        cases early
      · intro nulling
        cases nulling
      · rintro (failed | closed)
        · cases failed
        · rw [unclosed] at closed
          cases closed
    · refine kept.move (kept.hooked.setStart unadded _) ?_ ?_ ?_ ?_ ?_
        (fun nulling => (unnulled nulling).elim) ?_ trivial ?_
      · intro closes
        cases closes
      · intro free
        cases free
      · intro before
        cases before
      · intro made
        cases made
      · intro early
        cases early
      · intro nulling
        cases nulling
      · rintro (failed | closed)
        · cases failed
        · rw [Life.setStart, unclosed] at closed
          cases closed
  · cases step

theorem Kept.orphan (kept : Kept s)
    (step : stepOrphanCleanup s = some (s', events)) : Goes s s' events := by
  simp only [stepOrphanCleanup] at step
  split at step
  · rename_i start owner
    have hidden : s.streamer = false := by
      have stands := kept.stands
      rw [owner] at stands
      exact stands
    cases step
    refine kept.move (kept.hooked.setStart (by rw [start]; rfl) _) ?_
      (fun _ => rfl) ?_ ?_ ?_ ?_ ?_ trivial fun _ => hidden
    · intro closes
      cases closes
    · intro before
      cases before
    · intro made
      cases made
    · intro early
      cases early
    · rw [start, owner]
      simp [Nulling, reaping]
    · intro nulling
      cases nulling
  · rename_i owner
    split at step <;> cases step
    rename_i next stage' taken
    have gone := kept.reap (by rw [owner]; rfl) taken
    rw [owner] at gone
    exact gone
  · cases step

theorem claimed_of_added {stage : StartStage Init}
    (added : stage.added = true) : unclaimed stage = false := by
  by_contra free
  rw [Bool.not_eq_false] at free
  rw [unadded_of_unclaimed free] at added
  cases added

theorem Kept.lock (kept : Kept s) {caller : Caller}
    (step : s.lock caller = some (s', events)) : Goes s s' events := by
  simp only [CapCb.lock] at step
  split at step
  · rename_i added
    split at step <;> cases step
    rename_i admitted
    refine kept.own ?_ (.inl (claimed_of_added added.2))
      (by rw [added.1]; simp [reaping]) trivial
    intro closes
    by_contra uncalled
    exact admitted ⟨closes, uncalled⟩
  · cases step

theorem Kept.frame (kept : Kept s) {act : FrameAct}
    (step : stepFrame s act = some (s', events)) : Goes s s' events := by
  simp only [stepFrame] at step
  split at step
  · rename_i owner
    split at step <;> cases step
    · rename_i shown
      exact kept.own (fun closes => by cases closes)
        (.inl (kept.claimed (by simp [owner]))) (by rw [owner]; simp [reaping])
        shown
    · exact kept.own (fun closes => by cases closes) (.inr rfl)
        (by rw [owner]; simp [reaping]) trivial
  · rename_i owner
    cases step
    -- the mutex keeps the cleanup out
    have shown : s.streamer = true := by
      have stands := kept.stands
      rw [owner] at stands
      exact stands
    have alive : s.gstreamer = .alive := by
      refine kept.alive shown ?_
      rintro (discarding | nulling)
      · rw [kept.unowned (by rw [discarding]; rfl)] at owner
        cases owner
      · rw [owner] at nulling
        cases nulling
    rw [show s.gstreamer.use .frame = [] by rw [alive]; rfl]
    exact ⟨kept, .still⟩
  · rename_i owner
    cases step
    exact kept.own (fun closes => by cases closes) (.inr rfl)
      (by rw [owner]; simp [reaping]) trivial
  · cases step
  · split at step <;> cases step
    rename_i added
    refine kept.move kept.hooked kept.closing kept.unowned id kept.created id id
      id kept.stands kept.ended
  · rename_i owner
    split at step <;> cases step
    rename_i added
    exact kept.own (fun closes => by cases closes)
      (.inl (claimed_of_added added.1)) (by rw [owner]; simp [reaping]) trivial
  · cases step

theorem Kept.cleanup (kept : Kept s) {ok : Bool}
    {made : List (CaptureEvent κ)}
    (step : stepCleanup s ok = some (s', made)) :
    Goes s s' (made.filterMap CaptureEvent.lifetime?) := by
  have stands := kept.stands
  have closing := kept.closing
  cases owner : s.owner with
  | nobody | frame | start => simp [stepCleanup, owner] at step
  | stop caller critical =>
      have claimed := kept.claimed (by simp [owner])
      rw [owner] at stands closing
      cases critical with
      | checking =>
          simp only [stepCleanup, owner] at step
          split at step <;> cases step
          · exact kept.own closing (.inl claimed) (by rw [owner]; simp [reaping])
              trivial
          · exact kept.own closing (.inl claimed) (by rw [owner]; simp [reaping])
              trivial
      | clearing =>
          simp only [stepCleanup, owner] at step
          split at step <;> cases step
          exact kept.own closing (.inl claimed) (by rw [owner]; simp [reaping])
            trivial
      | reaping found stage =>
          cases stage with
          | reaped =>
              have hidden : s.streamer = false := stands
              have quiet : reaping s.owner ≠ some .nulling := by
                rw [owner]
                simp [reaping]
              simp only [stepCleanup, owner] at step
              split at step
              · rename_i closes
                cases step
                refine kept.move (kept.hooked.closed (closing closes))
                  (fun closes => by cases closes) (fun _ => rfl) id kept.created
                  id ?_ id trivial fun _ => hidden
                rintro (discarding | nulling)
                · exact .inl discarding
                · exact (quiet nulling).elim
              · split at step <;> cases step
                · exact kept.own (fun closes => by cases closes) (.inr rfl) quiet
                    trivial
                · exact kept.own (fun closes => by cases closes) (.inr rfl) quiet
                    trivial
          | _ =>
              simp only [stepCleanup, owner] at step
              split at step <;> cases step
              rename_i taken
              rw [Transcribe.lifetimes_map]
              have gone := kept.reap (by rw [owner]; rfl) taken
              rw [owner] at gone
              exact gone

theorem Kept.control (kept : Kept s) {life : Life κ Init} {act : Control κ}
    {notices : List (Notice κ)}
    (step : Life.Step .checking s.life act life notices) :
    Goes s { s with life := life } [] := by
  have entered : ∀ {stage : Init}, stage ≠ .checking →
      life.start = .initializing stage → s.life.start = .initializing stage :=
    fun later after => step.initializing after later
  refine kept.move (kept.hooked.step step)
    (fun closes => step.called (kept.closing closes))
    (fun free => kept.unowned (step.before unclaimed rfl rfl rfl rfl free))
    (step.before uncreated rfl rfl rfl rfl) ?_ step.early ?_
    (entered (by simp)) kept.stands fun ended => kept.ended (step.ended ended)
  · intro made
    refine kept.created ?_
    cases after : life.start with
    | initializing stage =>
        rw [after] at made
        cases stage with
        | connecting | spawning | discarding =>
            rw [entered (by simp) after]
            rfl
        | _ => cases made
    | _ =>
        rw [after] at made
        cases made
  · rintro (discarding | nulling)
    · exact .inl (step.within discarding)
    · exact .inr nulling

theorem Kept.step (kept : Kept s) {act : CaptureAct κ}
    {made : List (CaptureEvent κ)}
    (step : sessionStep s act = some (s', made)) :
    Goes s s' (made.filterMap CaptureEvent.lifetime?) := by
  cases act with
  | control act =>
      simp only [sessionStep] at step
      split at step <;> cases step
      rename_i taken
      rw [Transcribe.lifetimes_notices]
      exact kept.control (Life.step_cases taken)
  | init ok vad => exact kept.init (Transcribe.lift_cases step)
  | add ok => exact kept.add (Transcribe.lift_cases step)
  | cleanup => exact kept.orphan (Transcribe.lift_cases step)
  | lock caller => exact kept.lock (Transcribe.lift_cases step)
  | stop ok => exact kept.cleanup step
  | frame act => exact kept.frame (Transcribe.lift_cases step)
  | thread done => exact kept.reader (Transcribe.lift_cases step)

theorem Kept.settled (kept : Kept s) (ended : s.life.ended) :
    s.gstreamer = .absent ∨ s.gstreamer = .deleted := by
  have pointed := kept.pointed
  have hidden := kept.ended ended
  cases object : s.gstreamer with
  | absent => exact .inl rfl
  | deleted => exact .inr rfl
  | alive =>
      rw [object, hidden] at pointed
      cases pointed
  | handed =>
      rw [object] at pointed
      exact pointed.elim

theorem reaped_of_run {labels : List (CaptureAct κ)}
    {trace : List (CaptureEvent κ)}
    (run : (session κ).Run anyStep (session κ).initial labels trace s) :
    Transcribe.ReapedOnce (trace.filterMap CaptureEvent.lifetime?)
      s.life.ended := by
  have recorded := Transcribe.recorded_of_run run Kept (fun s => s.gstreamer)
    (fun s => s.thread) CaptureEvent.lifetime? kept_fresh
    Transcribe.recorded_fresh fun kept _ step => kept.step step
  exact recorded.2.reaped recorded.1.settled

end DrachtioModules.Google.Capture

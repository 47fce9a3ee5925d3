import DrachtioModules.Azure.Capture

/-!
# Who deletes a GStreamer of mod_azure_transcribe

`cb->streamer` is the only pointer to the GStreamer until a stop hands it over,
which stores null there under `cb->mutex`.  From then on the reaper has two
pointers to it, one of which outlives the other.
-/

namespace DrachtioModules.Azure.Capture

open Transcribe (Caller Channel Life StartStage Lifetime Owner Object Frame
  FrameAct CaptureAct CaptureEvent Passage Control Notice)

variable {κ : Type} {s s' : CapCb κ} {events : List Lifetime}

/-- The `killcb` in progress. -/
def killing : Owner Frame Critical Killcb → Option Killcb
  | .stop _ (.killing stage) | .start stage => some stage
  | _ => none

/-- The start has nothing to tear down, and there is no bug. -/
def unclaimed : StartStage Init → Bool
  | .initializing .killing | .cleaning | .attached | .returned true => false
  | _ => true

/-- The constructor has not run. -/
def uncreated : StartStage Init → Bool
  | .notCalled | .entered | .replacing | .initializing .checking
  | .initializing .creating => true
  | _ => false

/-- `cb->streamer`, `pStreamer` and the thread of the reaper. -/
def Pointed (streamer pStreamer : Bool) (reaper : Reaper) : Object → Prop
  | .absent =>
      streamer = false ∧ pStreamer = false ∧ reaper = .notStarted
  | .alive => streamer = true ∧ pStreamer = false ∧ reaper = .notStarted
  | .handed =>
      streamer = false ∧
        (reaper = .notStarted ∨ reaper = .exited → pStreamer = true)
  | .deleted =>
      pStreamer = false ∧ (reaper = .notStarted ∨ reaper = .exited)

/-- The `killcb` in progress goes on. -/
def rekill (owner : Owner Frame Critical Killcb) (stage : Killcb) :
    Owner Frame Critical Killcb :=
  match owner with
  | .stop caller (.killing _) => .stop caller (.killing stage)
  | .start _ => .start stage
  | other => other

/-- What `killcb` has found in `cb->streamer`. -/
def Killing (streamer : Bool) (object : Object) : Killcb → Prop
  | .loading => True
  | .finishing | .deleting => streamer = true
  | .nulling => object = .deleted
  | .killed => streamer = false

/-- What the owner of the `cap_cb` has found there. -/
def Stands (streamer pStreamer : Bool) (reaper : Reaper) (object : Object) :
    Owner Frame Critical Killcb → Prop
  | .frame .looping | .stop _ (.reaping .handing) => streamer = true
  | .stop _ (.reaping .spawning) => pStreamer = true ∧ reaper = .notStarted
  | .stop _ (.reaping .leaving) => pStreamer = true ∧ reaper ≠ .notStarted
  | .stop _ (.killing stage) | .start stage => Killing streamer object stage
  | _ => True

structure Kept (s : CapCb κ) : Prop where
  hooked : s.life.Hooked
  closing : s.owner.closes = true → s.life.close = .called
  unowned : unclaimed s.life.start = true → s.owner = .nobody
  absent : uncreated s.life.start = true → s.gstreamer = .absent
  pointed : Pointed s.streamer s.pStreamer s.reaper s.gstreamer
  nulling : s.gstreamer = .deleted → s.streamer = true →
    killing s.owner = some .nulling
  stands : Stands s.streamer s.pStreamer s.reaper s.gstreamer s.owner
  ended : s.life.ended → s.streamer = false

theorem kept_fresh : Kept (CapCb.fresh κ) := by
  refine ⟨Life.hooked_fresh, ?_, ?_, ?_, ⟨rfl, rfl, rfl⟩, ?_, trivial, ?_⟩ <;>
    simp [CapCb.fresh, Owner.closes]

/-- The session after a step, and what the step did to the GStreamer. -/
def Goes (s s' : CapCb κ) (events : List Lifetime) : Prop :=
  Kept s' ∧ Passage s.gstreamer false s'.gstreamer false events

theorem Kept.alive (kept : Kept s) (shown : s.streamer = true)
    (unkilled : killing s.owner ≠ some .nulling) : s.gstreamer = .alive := by
  have pointed := kept.pointed
  cases object : s.gstreamer with
  | alive => rfl
  | deleted => exact (unkilled (kept.nulling object shown)).elim
  | absent | handed =>
      rw [object, shown] at pointed
      cases pointed.1

/-- Who has the `cap_cb` has it to tear down, or there is a bug. -/
theorem Kept.claimed (kept : Kept s) (owned : s.owner ≠ .nobody) :
    unclaimed s.life.start = false := by
  by_contra unclaimed
  rw [Bool.not_eq_false] at unclaimed
  exact owned (kept.unowned unclaimed)

theorem Kept.move (kept : Kept s) {life : Life κ Init} {vad : Bool}
    {owner : Owner Frame Critical Killcb} (hooked : life.Hooked)
    (closing : owner.closes = true → life.close = .called)
    (unowned : unclaimed life.start = true → owner = .nobody)
    (absent : uncreated life.start = true → uncreated s.life.start = true)
    (nulling : killing s.owner = some .nulling →
      killing owner = some .nulling)
    (stands : Stands s.streamer s.pStreamer s.reaper s.gstreamer owner)
    (ended : life.ended → s.streamer = false) :
    Goes s { s with life := life, vad := vad, owner := owner } [] :=
  ⟨{ hooked := hooked
     closing := closing
     unowned := unowned
     absent := fun before => kept.absent (absent before)
     pointed := kept.pointed
     nulling := fun deleted shown => nulling (kept.nulling deleted shown)
     stands := stands
     ended := ended }, .still⟩

theorem Kept.own (kept : Kept s) {owner : Owner Frame Critical Killcb}
    (closing : owner.closes = true → s.life.close = .called)
    (claimed : unclaimed s.life.start = false ∨ owner = .nobody)
    (before : killing s.owner ≠ some .nulling)
    (stands : Stands s.streamer s.pStreamer s.reaper s.gstreamer owner) :
    Goes s { s with owner := owner } [] := by
  refine kept.move kept.hooked closing ?_ id (fun here => (before here).elim)
    stands kept.ended
  intro unclaimed
  rcases claimed with claimed | nobody
  · rw [claimed] at unclaimed
    cases unclaimed
  · exact nobody

theorem Kept.setStart (kept : Kept s) {stage : StartStage Init} {vad : Bool}
    (unadded : s.life.start.added = false)
    (free : s.owner = .nobody)
    (absent : uncreated stage = true → uncreated s.life.start = true)
    (failed : stage = .returned false → s.streamer = false) :
    Goes s { s with life := s.life.setStart stage, vad := vad } [] := by
  refine kept.move (kept.hooked.setStart unadded stage) kept.closing
    (fun _ => free) absent id kept.stands ?_
  rintro (returned | closed)
  · exact failed returned
  · exact kept.ended (.inr closed)

theorem owned_of_killing {owner : Owner Frame Critical Killcb} {stage : Killcb}
    (here : killing owner = some stage) : owner ≠ .nobody := by
  rintro rfl
  cases here

theorem killing_rekill {owner : Owner Frame Critical Killcb}
    {stage next : Killcb} (here : killing owner = some stage) :
    killing (rekill owner next) = some next := by
  cases owner with
  | nobody | frame => cases here
  | start => rfl
  | stop caller critical =>
      cases critical with
      | killing => rfl
      | _ => cases here

theorem closes_rekill {owner : Owner Frame Critical Killcb} {stage : Killcb} :
    (rekill owner stage).closes = owner.closes := by
  cases owner with
  | stop caller critical => cases critical <;> rfl
  | _ => rfl

theorem stands_of_killing {streamer pStreamer : Bool} {reaper : Reaper}
    {object : Object} {owner : Owner Frame Critical Killcb} {stage : Killcb}
    (here : killing owner = some stage) :
    Stands streamer pStreamer reaper object owner ↔
      Killing streamer object stage := by
  cases owner with
  | nobody | frame => cases here
  | start => cases here; rfl
  | stop caller critical =>
      cases critical with
      | killing => cases here; rfl
      | _ => cases here

theorem Kept.rekill (kept : Kept s) {stage stage' : Killcb}
    (here : killing s.owner = some stage) (before : stage ≠ .nulling)
    (stands : Killing s.streamer s.gstreamer stage') :
    Goes s { s with owner := rekill s.owner stage' } [] := by
  refine kept.own ?_ (.inl (kept.claimed (owned_of_killing here))) ?_
    ((stands_of_killing (killing_rekill here)).mpr stands)
  · rw [closes_rekill]
    exact kept.closing
  · rw [here]
    simpa using before

theorem Kept.kill (kept : Kept s) {stage stage' : Killcb}
    (here : killing s.owner = some stage)
    (step : stepKillcb s stage = some (s', stage', events)) :
    Goes s { s' with owner := Capture.rekill s.owner stage' } events := by
  have killing := (stands_of_killing here).mp kept.stands
  have now : Capture.killing (Capture.rekill s.owner stage') = some stage' :=
    killing_rekill here
  have claimed := kept.claimed (owned_of_killing here)
  have unowned : unclaimed s.life.start = true →
      Capture.rekill s.owner stage' = .nobody := by
    rw [claimed]
    intro unclaimed
    cases unclaimed
  cases stage with
  | loading =>
      simp only [stepKillcb] at step
      split at step <;> cases step <;> rename_i shown
      · exact kept.rekill here (by simp) shown
      · rw [Bool.not_eq_true] at shown
        exact kept.rekill here (by simp) shown
  | finishing =>
      cases step
      have alive := kept.alive killing (by simp [here])
      rw [show s.gstreamer.use .stop = [] by rw [alive]; rfl]
      exact kept.rekill here (by simp) killing
  | deleting =>
      have alive := kept.alive killing (by simp [here])
      simp only [stepKillcb, alive] at step
      cases step
      have pointed := kept.pointed
      rw [alive] at pointed
      refine ⟨⟨kept.hooked, ?_, unowned, ?_, ⟨pointed.2.1, .inl pointed.2.2⟩,
        fun _ _ => now, (stands_of_killing now).mpr rfl, kept.ended⟩, ?_⟩
      · rw [closes_rekill]
        exact kept.closing
      · intro early
        have absent := kept.absent early
        rw [alive] at absent
        cases absent
      · rw [alive]
        exact .delete (.inl rfl) rfl
  | nulling =>
      cases step
      have deleted : s.gstreamer = .deleted := killing
      have pointed := kept.pointed
      refine ⟨⟨kept.hooked, ?_, unowned, kept.absent, ?_, ?_,
        (stands_of_killing now).mpr rfl, fun _ => rfl⟩, .still⟩
      · rw [closes_rekill]
        exact kept.closing
      · rw [deleted] at pointed ⊢
        exact pointed
      · intro _ shown
        cases shown
  | killed => cases step

theorem Kept.claim (kept : Kept s) {stage : StartStage Init}
    (free : s.owner = .nobody) (unadded : s.life.start.added = false)
    (claimed : unclaimed stage = false)
    (late : uncreated stage = false) :
    Goes s { s with
      life := s.life.setStart stage
      owner := .start .loading } [] := by
  refine kept.move (kept.hooked.setStart unadded stage) ?_ ?_ ?_ ?_ trivial ?_
  · intro closes
    cases closes
  · intro unclaimed
    dsimp only [Life.setStart] at unclaimed
    rw [claimed] at unclaimed
    cases unclaimed
  · intro early
    dsimp only [Life.setStart] at early
    rw [late] at early
    cases early
  · rw [free]
    intro nulling
    cases nulling
  · rintro (failed | closed)
    · dsimp only [Life.setStart] at failed
      rw [failed] at late claimed
      cases claimed
    · exact kept.ended (.inr closed)

theorem Kept.discharge (kept : Kept s) (owner : s.owner = .start .killed)
    (unadded : s.life.start.added = false) :
    Goes s { s with
      life := s.life.setStart (.returned false)
      owner := .nobody } [] := by
  have hidden : s.streamer = false := by
    have stands := kept.stands
    rw [owner] at stands
    exact stands
  refine kept.move (kept.hooked.setStart unadded _) ?_ (fun _ => rfl) ?_ ?_
    trivial fun _ => hidden
  · intro closes
    cases closes
  · intro early
    cases early
  · rw [owner]
    intro nulling
    cases nulling

theorem Kept.init (kept : Kept s) {ok vad : Bool}
    (step : stepInit s ok vad = some (s', events)) : Goes s s' events := by
  cases start : s.life.start with
  | initializing stage =>
      cases stage with
      | checking =>
          have free := kept.unowned (by rw [start]; rfl)
          have absent := kept.absent (by rw [start]; rfl)
          have pointed := kept.pointed
          rw [absent] at pointed
          simp only [stepInit, start] at step
          split at step <;> cases step
          · exact kept.setStart (by rw [start]; rfl) free
              (fun _ => by rw [start]; rfl) (by simp)
          · exact kept.setStart (by rw [start]; rfl) free
              (fun early => by cases early) (fun _ => pointed.1)
      | creating =>
          have free := kept.unowned (by rw [start]; rfl)
          have absent := kept.absent (by rw [start]; rfl)
          have pointed := kept.pointed
          rw [absent] at pointed
          simp only [stepInit, start] at step
          split at step <;> cases step
          · refine ⟨⟨kept.hooked.setStart (by rw [start]; rfl) _, kept.closing,
              fun _ => free, ?_, ⟨rfl, pointed.2⟩, ?_, ?_, ?_⟩,
              .create absent⟩
            · intro early
              dsimp only [Life.setStart] at early
              split at early <;> cases early
            · intro deleted
              cases deleted
            · rw [free]
              trivial
            · rintro (failed | closed)
              · dsimp only [Life.setStart] at failed
                split at failed <;> cases failed
              · rw [Life.setStart, (kept.hooked.unhooked (by
                  rw [start]; rfl)).2] at closed
                cases closed
          · exact kept.claim free (by rw [start]; rfl) rfl rfl
      | connecting =>
          have free := kept.unowned (by rw [start]; rfl)
          simp only [stepInit, start] at step
          split at step <;> cases step
          · exact ⟨(kept.setStart (by rw [start]; rfl) free
              (fun early => by cases early) (by simp)).1, .use (by simp)⟩
          · exact ⟨(kept.claim free (by rw [start]; rfl) rfl rfl).1, .use (by simp)⟩
      | killing =>
          simp only [stepInit, start] at step
          split at step
          · rename_i owner
            cases step
            exact kept.discharge owner (by rw [start]; rfl)
          · rename_i stage owner
            split at step <;> cases step
            rename_i next stage' taken
            have gone := kept.kill (by rw [owner]; rfl) taken
            rw [owner] at gone
            exact gone
          · cases step
  | _ => simp [stepInit, start] at step

theorem Kept.add (kept : Kept s) {ok : Bool}
    (step : stepAdd s ok = some (s', events)) : Goes s s' events := by
  simp only [stepAdd] at step
  split at step
  · rename_i start
    have free := kept.unowned (by rw [start]; rfl)
    have unhooked := kept.hooked.unhooked (by rw [start]; rfl)
    split at step <;> cases step
    · refine kept.move (kept.hooked.attach (by rw [start]; rfl)) kept.closing
        (fun _ => free) ?_ id kept.stands ?_
      · intro early
        cases early
      · rintro (failed | closed)
        · cases failed
        · rw [unhooked.2] at closed
          cases closed
    · exact kept.claim free (by rw [start]; rfl) rfl rfl
  · cases step

theorem Kept.cleanup (kept : Kept s)
    (step : stepCleanup s = some (s', events)) : Goes s s' events := by
  simp only [stepCleanup] at step
  split at step
  · rename_i start owner
    cases step
    exact kept.discharge owner (by rw [start]; rfl)
  · rename_i start owner
    split at step <;> cases step
    rename_i next stage' taken
    have gone := kept.kill (by rw [owner]; rfl) taken
    rw [owner] at gone
    exact gone
  · cases step

theorem claimed_of_added {stage : StartStage Init}
    (added : stage.added = true) : unclaimed stage = false := by
  cases stage with
  | attached => rfl
  | returned success => cases success <;> simp_all [StartStage.added, unclaimed]
  | _ => cases added

theorem Kept.lock (kept : Kept s) {caller : Caller}
    (step : s.lock caller = some (s', events)) : Goes s s' events := by
  simp only [CapCb.lock] at step
  split at step
  · rename_i added
    have claimed := claimed_of_added added.2
    have quiet : killing s.owner ≠ some .nulling := by
      rw [added.1]
      simp [killing]
    split at step
    · split at step <;> cases step
      rename_i called
      exact kept.own (fun _ => called) (.inl claimed) quiet trivial
    · rename_i stopping
      cases step
      exact kept.own (fun closes => (stopping closes).elim) (.inl claimed) quiet
        trivial
  · cases step

theorem Kept.frame (kept : Kept s) {act : FrameAct}
    (step : stepFrame s act = some (s', events)) : Goes s s' events := by
  simp only [stepFrame] at step
  split at step
  · rename_i owner
    split at step <;> cases step
    rename_i added
    exact kept.own (fun closes => by cases closes)
      (.inl (claimed_of_added added)) (by rw [owner]; simp [killing]) trivial
  · rename_i owner
    split at step <;> cases step
    · rename_i shown
      exact kept.own (fun closes => by cases closes)
        (.inl (kept.claimed (by simp [owner]))) (by rw [owner]; simp [killing])
        shown
    · exact kept.own (fun closes => by cases closes) (.inr rfl)
        (by rw [owner]; simp [killing]) trivial
  · rename_i owner
    cases step
    -- the mutex keeps the stop out
    have shown : s.streamer = true := by
      have stands := kept.stands
      rw [owner] at stands
      exact stands
    have alive := kept.alive shown (by rw [owner]; simp [killing])
    rw [show s.gstreamer.use .frame = [] by rw [alive]; rfl]
    exact ⟨kept, .still⟩
  · rename_i owner
    cases step
    exact kept.own (fun closes => by cases closes) (.inr rfl)
      (by rw [owner]; simp [killing]) trivial
  · cases step

theorem Kept.handed (kept : Kept s) (shown : s.pStreamer = true) :
    s.gstreamer = .handed := by
  have pointed := kept.pointed
  cases object : s.gstreamer with
  | handed => rfl
  | absent | alive =>
      rw [object, shown] at pointed
      cases pointed.2.1
  | deleted =>
      rw [object, shown] at pointed
      cases pointed.1

theorem Kept.handed_of_running (kept : Kept s) (begun : s.reaper ≠ .notStarted)
    (running : s.reaper ≠ .exited) : s.gstreamer = .handed := by
  have pointed := kept.pointed
  cases object : s.gstreamer with
  | handed => rfl
  | absent | alive =>
      rw [object] at pointed
      exact (begun pointed.2.2).elim
  | deleted =>
      rw [object] at pointed
      rcases pointed.2 with unbegun | exited
      · exact (begun unbegun).elim
      · exact (running exited).elim

/-- A step of the stop that has found a GStreamer, or of the thread it hands it
to; nobody else has a pointer to it. -/
theorem Kept.reaping (kept : Kept s) {streamer pStreamer : Bool}
    {reaper : Reaper} {object : Object}
    {owner : Owner Frame Critical Killcb}
    (present : s.gstreamer ≠ .absent)
    (closing : owner.closes = true → s.life.close = .called)
    (unowned : s.owner = .nobody → owner = .nobody)
    (pointed : Pointed streamer pStreamer reaper object)
    (hidden : streamer = false)
    (stands : Stands streamer pStreamer reaper object owner)
    (passage : Passage s.gstreamer false object false events) :
    Goes s { s with
      streamer := streamer
      pStreamer := pStreamer
      reaper := reaper
      owner := owner
      gstreamer := object } events := by
  refine ⟨⟨kept.hooked, closing, ?_, ?_, pointed, ?_, stands, ?_⟩, passage⟩
  · exact fun unclaimed => unowned (kept.unowned unclaimed)
  · exact fun early => (present (kept.absent early)).elim
  · intro _ shown
    rw [hidden] at shown
    cases shown
  · exact fun _ => hidden

/-- What a stop does after a step of `reaper`. -/
def followed : Option Reap → Critical
  | some stage => .reaping stage
  | none => .killing .loading

theorem Kept.reap (kept : Kept s) {caller : Caller} {stage : Reap}
    {stage' : Option Reap} (owner : s.owner = .stop caller (.reaping stage))
    (step : stepReap s stage = (s', stage', events)) :
    Goes s { s' with owner := .stop caller (followed stage') } events := by
  have stands := kept.stands
  have closing := kept.closing
  have pointed := kept.pointed
  rw [owner] at stands closing
  cases stage with
  | handing =>
      have alive := kept.alive stands (by rw [owner]; simp [killing])
      rw [alive] at pointed
      simp only [stepReap, alive] at step
      cases step
      refine kept.reaping (by rw [alive]; simp) closing ?_
        ⟨rfl, fun _ => rfl⟩ rfl ⟨rfl, pointed.2.2⟩ ?_
      · rw [owner]
        intro nobody
        cases nobody
      · rw [alive]
        exact .hand rfl
  | spawning =>
      have handed := kept.handed stands.1
      rw [handed] at pointed
      cases step
      refine kept.reaping (by rw [handed]; simp) closing ?_ ?_ pointed.1
        ⟨stands.1, by simp⟩ .still
      · rw [owner]
        intro nobody
        cases nobody
      · rw [handed]
        exact ⟨pointed.1, fun _ => stands.1⟩
  | leaving =>
      have handed := kept.handed stands.1
      rw [handed] at pointed
      simp only [stepReap] at step
      split at step <;> cases step <;> rename_i exited
      · refine kept.reaping (by rw [handed]; simp) closing ?_
          ⟨rfl, .inr exited⟩ pointed.1 trivial ?_
        · rw [owner]
          intro nobody
          cases nobody
        · exact .delete (.inr handed) rfl
      · refine kept.reaping (by rw [handed]; simp) closing ?_ ?_ pointed.1
          trivial .still
        · rw [owner]
          intro nobody
          cases nobody
        · rw [handed]
          refine ⟨pointed.1, ?_⟩
          rintro (unbegun | ended)
          · exact (stands.2 unbegun).elim
          · exact (exited ended).elim

theorem stands_of_reaper {streamer pStreamer : Bool} {reaper reaper' : Reaper}
    {object object' : Object} {owner : Owner Frame Critical Killcb}
    (stands : Stands streamer pStreamer reaper object owner)
    (begun : reaper ≠ .notStarted) (begun' : reaper' ≠ .notStarted)
    (undeleted : object ≠ .deleted) :
    Stands streamer pStreamer reaper' object' owner := by
  have killed : ∀ {stage : Killcb}, Killing streamer object stage →
      Killing streamer object' stage := by
    intro stage killing
    cases stage with
    | nulling => exact (undeleted killing).elim
    | _ => exact killing
  cases owner with
  | nobody => trivial
  | frame stage => cases stage <;> exact stands
  | start stage => exact killed stands
  | stop caller critical =>
      cases critical with
      | killing stage => exact killed stands
      | reaping stage =>
          cases stage with
          | handing => exact stands
          | spawning => exact (begun stands.2).elim
          | leaving => exact ⟨stands.1, begun'⟩
      | _ => trivial

theorem Kept.thread (kept : Kept s)
    (step : stepReaper s = some (s', events)) : Goes s s' events := by
  have pointed := kept.pointed
  simp only [stepReaper] at step
  split at step
  · cases step
  · cases step
  · rename_i reaper
    cases step
    have handed := kept.handed_of_running (by simp [reaper]) (by simp [reaper])
    rw [handed] at pointed
    refine kept.reaping (by rw [handed]; simp) kept.closing id ?_ pointed.1 ?_ ?_
    · rw [handed]
      exact ⟨pointed.1, by simp⟩
    · exact stands_of_reaper kept.stands (by simp [reaper]) (by simp)
        (by simp [handed])
    · exact .use (by simp)
  · rename_i reaper
    have handed := kept.handed_of_running (by simp [reaper]) (by simp [reaper])
    rw [handed] at pointed
    have stands : ∀ {object : Object},
        Stands s.streamer s.pStreamer .exited object s.owner := fun {_} =>
      stands_of_reaper kept.stands (by simp [reaper]) (by simp)
        (by simp [handed])
    split at step <;> cases step <;> rename_i shown
    · refine kept.reaping (by rw [handed]; simp) kept.closing id ?_ pointed.1
        stands .still
      rw [handed]
      exact ⟨pointed.1, fun _ => shown⟩
    · rw [Bool.not_eq_true] at shown
      exact kept.reaping (by rw [handed]; simp) kept.closing id
        ⟨shown, .inr rfl⟩ pointed.1 stands (.delete (.inr handed) rfl)

theorem Kept.stop (kept : Kept s) {ok : Bool}
    {made : List (CaptureEvent κ)}
    (step : stepStop s ok = some (s', made)) :
    Goes s s' (made.filterMap CaptureEvent.lifetime?) := by
  have stands := kept.stands
  have closing := kept.closing
  cases owner : s.owner with
  | nobody | frame | start => simp [stepStop, owner] at step
  | stop caller critical =>
      have claimed := kept.claimed (by simp [owner])
      rw [owner] at stands closing
      cases critical with
      | checking =>
          simp only [stepStop, owner] at step
          split at step <;> cases step
          · exact kept.own closing (.inl claimed) (by rw [owner]; simp [killing])
              trivial
          · exact kept.own (fun closes => by cases closes) (.inr rfl)
              (by rw [owner]; simp [killing]) trivial
      | clearing =>
          simp only [stepStop, owner] at step
          split at step <;> cases step
          exact kept.own closing (.inl claimed) (by rw [owner]; simp [killing])
            trivial
      | loading =>
          simp only [stepStop, owner] at step
          split at step <;> cases step
          · rename_i shown
            exact kept.own closing (.inl claimed)
              (by rw [owner]; simp [killing]) shown
          · exact kept.own closing (.inl claimed)
              (by rw [owner]; simp [killing]) trivial
      | reaping stage =>
          simp only [stepStop, owner] at step
          split at step <;> cases step <;> rename_i taken <;>
            rw [Transcribe.lifetimes_map] <;>
            exact kept.reap owner taken
      | killing stage =>
          have unnulled : stage ≠ .nulling →
              killing s.owner ≠ some .nulling := by
            rw [owner]
            simp [killing]
          cases stage with
          | killed =>
              have hidden : s.streamer = false := stands
              simp only [stepStop, owner] at step
              split at step <;> cases step
              · rename_i closes
                refine kept.move (kept.hooked.closed (closing closes))
                  (fun closes => by cases closes) (fun _ => rfl) id ?_ trivial
                  fun _ => hidden
                exact fun nulling => (unnulled (by simp) nulling).elim
              · exact kept.own (fun closes => by cases closes) (.inr rfl)
                  (unnulled (by simp)) trivial
          | _ =>
              simp only [stepStop, owner] at step
              split at step <;> cases step
              rename_i taken
              rw [Transcribe.lifetimes_map]
              have gone := kept.kill (by rw [owner]; rfl) taken
              rw [owner] at gone
              exact gone

theorem Kept.control (kept : Kept s) {life : Life κ Init} {act : Control κ}
    {notices : List (Notice κ)}
    (step : Life.Step .checking s.life act life notices) :
    Goes s { s with life := life } [] :=
  kept.move (kept.hooked.step step)
    (fun closes => step.called (kept.closing closes))
    (fun unowned => kept.unowned
      (step.before unclaimed rfl rfl rfl rfl unowned))
    (step.before uncreated rfl rfl rfl rfl) id kept.stands
    fun ended => kept.ended (step.ended ended)

theorem Kept.step (kept : Kept s) {act : CaptureAct κ}
    {made : List (CaptureEvent κ)}
    (step : sessionStep s act = some (s', made)) :
    Goes s s' (made.filterMap CaptureEvent.lifetime?) := by
  cases act with
  | control act =>
      simp only [sessionStep] at step
      split at step <;> cases step
      rename_i taken
      rw [Transcribe.lifetimes_notices]
      exact kept.control (Life.step_cases taken)
  | init ok vad => exact kept.init (Transcribe.lift_cases step)
  | add ok => exact kept.add (Transcribe.lift_cases step)
  | cleanup => exact kept.cleanup (Transcribe.lift_cases step)
  | lock caller => exact kept.lock (Transcribe.lift_cases step)
  | stop ok => exact kept.stop step
  | frame act => exact kept.frame (Transcribe.lift_cases step)
  | thread done => exact kept.thread (Transcribe.lift_cases step)

/-- The session has ended, and the reaper with it. -/
def CapCb.settled (s : CapCb κ) : Prop :=
  s.life.ended ∧ s.pStreamer = false ∧
    (s.reaper = .notStarted ∨ s.reaper = .exited)

theorem Kept.settled (kept : Kept s) (settled : s.settled) :
    s.gstreamer = .absent ∨ s.gstreamer = .deleted := by
  have pointed := kept.pointed
  obtain ⟨ended, unpointed, idle⟩ := settled
  have hidden := kept.ended ended
  cases object : s.gstreamer with
  | absent => exact .inl rfl
  | deleted => exact .inr rfl
  | alive =>
      rw [object, hidden] at pointed
      cases pointed.1
  | handed =>
      rw [object] at pointed
      rw [pointed.2 idle] at unpointed
      cases unpointed

theorem reaped_of_run {labels : List (CaptureAct κ)}
    {trace : List (CaptureEvent κ)}
    (run : (session κ).Run anyStep (session κ).initial labels trace s) :
    Transcribe.ReapedOnce (trace.filterMap CaptureEvent.lifetime?)
      s.settled := by
  have recorded := Transcribe.recorded_of_run run Kept (fun s => s.gstreamer)
    (fun _ => false) CaptureEvent.lifetime? kept_fresh
    Transcribe.recorded_fresh fun kept _ step => kept.step step
  exact recorded.2.reaped recorded.1.settled

end DrachtioModules.Azure.Capture

import DrachtioModules.Aws.CapCbSteps
import DrachtioModules.Aws.Steps

/-!
# Who may use the GStreamer of a session

`cb->streamer` points to a GStreamer that is not deleted, but for the moment
between the deletion and the store of null, which the teardown has to itself.
The worker is joined before that, so it does not see it either.
-/

namespace DrachtioModules.Aws

open Transcribe (Bytes Caller Channel Life StartStage Control Notice Lifetime
  User Owner)

variable {κ τ : Type} {config : Config} {s s' : CapCb κ τ}
variable {events : List (SessionEvent κ τ)}

/-- Where the worker may be, the GStreamer it makes and `cb->streamer`. -/
def Pointed (worker : Thread) : Object τ → Bool → Prop
  | .absent, shown =>
      shown = false ∧
        (worker = .notCreated ∨ worker = .entered ∨ worker = .exited)
  | .alive gstreamer, false =>
      worker = .constructed ∧ gstreamer.worker = .waiting ∨
        worker = .publishing ∨ worker = .exited
  | .alive gstreamer, true =>
      worker = .checking ∨ worker = .finishing ∨ worker = .processing ∨
        worker = .exited ∧ gstreamer.worker = .returned
  | .deleted, _ => worker = .exited

theorem Pointed.entered {object : Object τ} {shown : Bool}
    (pointed : Pointed .entered object shown) :
    object = .absent ∧ shown = false := by
  cases object with
  | absent => exact ⟨rfl, pointed.1⟩
  | alive gstreamer => cases shown <;> simp [Pointed] at pointed
  | deleted => cases pointed

theorem Pointed.constructed {gstreamer : State τ} {shown : Bool}
    (pointed : Pointed .constructed (.alive gstreamer) shown) :
    shown = false ∧ gstreamer.worker = .waiting := by
  cases shown <;> simp_all [Pointed]

theorem Pointed.published {worker : Thread} {gstreamer : State τ} {shown : Bool}
    (here : worker = .checking ∨ worker = .finishing ∨ worker = .processing)
    (pointed : Pointed worker (.alive gstreamer) shown) : shown = true := by
  cases shown with
  | true => rfl
  | false => rcases here with rfl | rfl | rfl <;> simp [Pointed] at pointed

/-- The worker is joined, or there is none. -/
def Teardown.joined : Teardown → Bool
  | .killing | .nulling | .ungating | .releasing | .killed => true
  | _ => false

/-- `killcb` has stored null in `cb->streamer`. -/
def Teardown.nulled : Teardown → Bool
  | .ungating | .releasing | .killed => true
  | _ => false

/-- The start has nothing to tear down, and there is no bug. -/
def unclaimed : StartStage Init → Bool
  | .initializing .killing | .cleaning | .attached | .returned true => false
  | _ => true

theorem claimed_of_added {stage : StartStage Init}
    (added : stage.added = true) : unclaimed stage = false := by
  cases stage with
  | attached => rfl
  | returned success => cases success <;> simp_all [StartStage.added, unclaimed]
  | _ => cases added

structure Placed (s : CapCb κ τ) : Prop where
  unowned : unclaimed s.life.start = true → s.owner = .nobody
  early : s.life.start.early = true → s.worker = .notCreated ∧ s.thread = false
  unthreaded : s.thread = false → s.worker = .notCreated ∨ s.worker = .exited
  pointed : Pointed s.worker s.gstreamer s.streamer
  nulling : s.gstreamer = .deleted → s.streamer = true →
    tearing s.owner = some .nulling
  shown : tearing s.owner = some .finishing ∨ s.owner = .frame .looping →
    s.streamer = true
  joined : ∀ stage, tearing s.owner = some stage → stage.joined = true →
    s.thread = false
  nulled : ∀ stage, tearing s.owner = some stage → stage.nulled = true →
    s.streamer = false

theorem placed_fresh : Placed (CapCb.fresh κ τ) := by
  constructor <;> simp [CapCb.fresh, tearing, Pointed]

theorem Placed.alive (placed : Placed s) (shown : s.streamer = true)
    (unkilled : tearing s.owner ≠ some .nulling) :
    ∃ gstreamer, s.gstreamer = .alive gstreamer := by
  cases object : s.gstreamer with
  | alive gstreamer => exact ⟨gstreamer, rfl⟩
  | absent =>
      have pointed := placed.pointed
      rw [object, shown] at pointed
      cases pointed.1
  | deleted => exact (unkilled (placed.nulling object shown)).elim

theorem Placed.looping (placed : Placed s) (owner : s.owner = .frame .looping) :
    ∃ gstreamer, s.gstreamer = .alive gstreamer :=
  placed.alive (placed.shown (.inr owner)) (by simp [owner, tearing])

theorem Placed.finishing (placed : Placed s)
    (here : tearing s.owner = some .finishing) :
    ∃ gstreamer, s.gstreamer = .alive gstreamer :=
  placed.alive (placed.shown (.inl here)) (by simp [here])

/-- The worker between the constructor and its return. -/
def Thread.running : Thread → Bool
  | .constructed | .publishing | .checking | .finishing | .processing => true
  | _ => false

theorem Placed.running (placed : Placed s)
    (running : s.worker.running = true) :
    ∃ gstreamer, s.gstreamer = .alive gstreamer := by
  have pointed := placed.pointed
  cases object : s.gstreamer with
  | alive gstreamer => exact ⟨gstreamer, rfl⟩
  | absent =>
      rw [object] at pointed
      rcases pointed.2 with worker | worker | worker <;>
        simp [worker, Thread.running] at running
  | deleted =>
      rw [object] at pointed
      have exited : s.worker = .exited := pointed
      simp [exited, Thread.running] at running

/-- A step of a start, of a stop or of a frame that leaves the pointer, the
GStreamer and the worker alone. -/
theorem Placed.move (placed : Placed s) {life : Life κ Init}
    {vad stopRequested gateCounted : Bool}
    {owner : Owner Frame Critical Teardown}
    (unowned : unclaimed life.start = true → owner = .nobody)
    (early : life.start.early = true → s.life.start.early = true)
    (nulling : tearing s.owner = some .nulling →
      tearing owner = some .nulling)
    (shown : tearing owner = some .finishing ∨ owner = .frame .looping →
      s.streamer = true)
    (joined : ∀ stage, tearing owner = some stage → stage.joined = true →
      s.thread = false)
    (nulled : ∀ stage, tearing owner = some stage → stage.nulled = true →
      s.streamer = false) :
    Placed { s with
      life := life
      vad := vad
      stopRequested := stopRequested
      gateCounted := gateCounted
      owner := owner } :=
  { unowned := unowned
    early := fun before => placed.early (early before)
    unthreaded := placed.unthreaded
    pointed := placed.pointed
    nulling := fun deleted shown => nulling (placed.nulling deleted shown)
    shown := shown
    joined := joined
    nulled := nulled }

theorem Placed.advance (placed : Placed s) {life : Life κ Init}
    {vad gateCounted : Bool}
    (unowned : unclaimed life.start = true →
      unclaimed s.life.start = true)
    (early : life.start.early = true → s.life.start.early = true) :
    Placed { s with life := life, vad := vad, gateCounted := gateCounted } :=
  placed.move (fun here => placed.unowned (unowned here)) early id placed.shown
    placed.joined placed.nulled

theorem Placed.own (placed : Placed s) {life : Life κ Init}
    {owner : Owner Frame Critical Teardown}
    (unowned : unclaimed life.start = true → owner = .nobody)
    (early : life.start.early = true → s.life.start.early = true)
    (before : tearing s.owner ≠ some .nulling)
    (after : tearing owner = none ∨ tearing owner = some .requesting)
    (quiet : owner ≠ .frame .looping) :
    Placed { s with life := life, owner := owner } := by
  have stage : ∀ stage, tearing owner = some stage → stage = .requesting := by
    intro stage here
    rcases after with none | requesting
    · rw [none] at here
      cases here
    · rw [requesting] at here
      cases here
      rfl
  refine placed.move unowned early (fun here => (before here).elim) ?_ ?_ ?_
  · rintro (finishing | looping)
    · cases stage _ finishing
    · exact (quiet looping).elim
  · intro other here joined
    rw [stage other here] at joined
    cases joined
  · intro other here nulled
    rw [stage other here] at nulled
    cases nulled

theorem Placed.call (placed : Placed s) {gstreamer next : State τ}
    {request : Request} (alive : s.gstreamer = .alive gstreamer)
    (idle : s.worker ≠ .processing → next.worker = gstreamer.worker) :
    Placed { s with gstreamer := .alive next, request := request } := by
  refine ⟨placed.unowned, placed.early, placed.unthreaded, ?_, ?_,
    placed.shown, placed.joined, placed.nulled⟩
  · have pointed := placed.pointed
    rw [alive] at pointed
    cases shown : s.streamer with
    | false =>
        rw [shown] at pointed
        rcases pointed with ⟨worker, waiting⟩ | later
        · exact .inl ⟨worker, (idle (by simp [worker])).trans waiting⟩
        · exact .inr later
    | true =>
        rw [shown] at pointed
        rcases pointed with worker | worker | worker | ⟨worker, returned⟩
        · exact .inl worker
        · exact .inr (.inl worker)
        · exact .inr (.inr (.inl worker))
        · exact .inr (.inr (.inr
            ⟨worker, (idle (by simp [worker])).trans returned⟩))
  · intro deleted
    cases deleted

theorem Placed.stage (placed : Placed s) {stopRequested gateCounted : Bool}
    {stage stage' : Teardown} (here : tearing s.owner = some stage)
    (before : stage ≠ .nulling)
    (finishing : stage' = .finishing → s.streamer = true)
    (joined : stage'.joined = true → s.thread = false)
    (nulled : stage'.nulled = true → s.streamer = false) :
    Placed { s with
      stopRequested := stopRequested
      gateCounted := gateCounted
      owner := retear s.owner stage' } := by
  have now : tearing (retear s.owner stage') = some stage' :=
    tearing_retear here
  refine placed.move ?_ id ?_ ?_ ?_ ?_
  · intro free
    rw [placed.unowned free] at here
    cases here
  · intro nulling
    rw [here] at nulling
    cases nulling
    exact (before rfl).elim
  · rintro (shown | looping)
    · rw [now] at shown
      cases shown
      exact finishing rfl
    · rw [looping] at now
      cases now
  · intro other there
    rw [now] at there
    cases there
    exact joined
  · intro other there
    rw [now] at there
    cases there
    exact nulled

/-- A worker that is joined has returned, if it has got as far as the
pointer. -/
theorem Placed.exited (placed : Placed s) {stage : Teardown}
    (here : tearing s.owner = some stage) (joined : stage.joined = true)
    (made : s.gstreamer ≠ .absent) : s.worker = .exited := by
  have pointed := placed.pointed
  rcases placed.unthreaded (placed.joined stage here joined) with none | exited
  · cases object : s.gstreamer with
    | absent => exact (made object).elim
    | alive gstreamer =>
        rw [object, none] at pointed
        cases shown : s.streamer <;> simp [shown, Pointed] at pointed
    | deleted =>
        rw [object] at pointed
        exact pointed
  · exact exited

theorem Placed.tear (placed : Placed s) {stage stage' : Teardown}
    (here : tearing s.owner = some stage)
    (step : TeardownStep config s stage s' stage' events) :
    Placed { s' with owner := retear s.owner stage' } := by
  have unthreaded : s.join.joined = true → s.thread = false := by
    unfold CapCb.join
    split <;> simp_all [Teardown.joined]
  have unnulled : s.join.nulled = true → s.streamer = false := by
    unfold CapCb.join
    split <;> simp [Teardown.nulled]
  have waiting : s.join ≠ .finishing := by
    unfold CapCb.join
    split <;> simp
  cases step with
  | request =>
      exact placed.stage here (by simp) (by simp) (by simp [Teardown.joined])
        (by simp [Teardown.nulled])
  | load shown =>
      exact placed.stage here (by simp) (fun _ => shown)
        (by simp [Teardown.joined]) (by simp [Teardown.nulled])
  | loadNull hidden =>
      exact placed.stage here (by simp) (fun done => (waiting done).elim)
        unthreaded unnulled
  | finish call =>
      obtain ⟨gstreamer, alive⟩ := placed.finishing here
      obtain ⟨next, made, taken, rfl, rfl⟩ := invoke_alive alive call
      have called : Placed { s with
          gstreamer := .alive next
          request := made.foldl Request.see s.request } :=
        placed.call alive fun _ => worker_of_step (by simp) taken
      exact called.stage here (by simp) (fun done => (waiting done).elim)
        unthreaded unnulled
  | join exited =>
      have now : tearing (retear s.owner .killing) = some .killing :=
        tearing_retear here
      refine ⟨?_, ?_, fun _ => .inr exited, placed.pointed, ?_, ?_, ?_, ?_⟩
      · intro free
        rw [placed.unowned free] at here
        cases here
      · exact fun early => ⟨(placed.early early).1, rfl⟩
      · intro deleted shown
        have nulling := placed.nulling deleted shown
        rw [here] at nulling
        cases nulling
      · rintro (shown | looping)
        · rw [now] at shown
          cases shown
        · dsimp only at looping
          rw [looping] at now
          cases now
      · exact fun _ _ _ => rfl
      · intro stage there nulled
        rw [now] at there
        cases there
        cases nulled
  | delete shown alive =>
      have now : tearing (retear s.owner .nulling) = some .nulling :=
        tearing_retear here
      have exited := placed.exited here rfl (by simp [alive])
      refine ⟨?_, placed.early, placed.unthreaded, exited, fun _ _ => now, ?_,
        ?_, ?_⟩
      · intro free
        rw [placed.unowned free] at here
        cases here
      · exact fun _ => shown
      · exact fun _ _ _ => placed.joined _ here rfl
      · intro stage there nulled
        rw [now] at there
        cases there
        cases nulled
  | deleteGone shown gone =>
      obtain ⟨gstreamer, alive⟩ := placed.alive shown (by simp [here])
      exact (gone gstreamer alive).elim
  | skip hidden =>
      exact placed.stage here (by simp) (by simp)
        (fun _ => placed.joined _ here rfl) (fun _ => hidden)
  | null =>
      have now : tearing (retear s.owner .ungating) = some .ungating :=
        tearing_retear here
      refine ⟨?_, placed.early, placed.unthreaded, ?_, ?_, ?_, ?_, ?_⟩
      · intro free
        rw [placed.unowned free] at here
        cases here
      · have exited := placed.exited here rfl
        have pointed := placed.pointed
        dsimp only
        cases object : s.gstreamer with
        | absent =>
            rw [object] at pointed
            exact ⟨rfl, pointed.2⟩
        | alive => exact .inr (.inr (exited (by simp [object])))
        | deleted => exact exited (by simp [object])
      · intro deleted shown
        cases shown
      · rintro (shown | looping)
        · rw [now] at shown
          cases shown
        · dsimp only at looping
          rw [looping] at now
          cases now
      · exact fun _ _ _ => placed.joined _ here rfl
      · exact fun _ _ _ => rfl
  | ungate | ungated | release =>
      exact placed.stage here (by simp) (by simp)
        (fun _ => placed.joined _ here rfl) (fun _ => placed.nulled _ here rfl)

theorem Placed.work (placed : Placed s) {worker : Thread} {object : Object τ}
    {streamer : Bool} {request : Request} (late : s.worker ≠ .notCreated)
    (unended : s.worker ≠ .exited)
    (pointed : Pointed worker object streamer)
    (undeleted : object ≠ .deleted)
    (shown : s.streamer = true → streamer = true)
    (hidden : ∀ stage, tearing s.owner = some stage → stage.nulled = true →
      streamer = false) :
    Placed { s with
      worker := worker
      gstreamer := object
      streamer := streamer
      request := request } := by
  refine ⟨placed.unowned, ?_, ?_, pointed, ?_, ?_, placed.joined, hidden⟩
  · exact fun early => (late (placed.early early).1).elim
  · intro unthreaded
    rcases placed.unthreaded unthreaded with none | exited
    · exact (late none).elim
    · exact (unended exited).elim
  · exact fun deleted => (undeleted deleted).elim
  · exact fun here => shown (placed.shown here)

theorem Placed.threaded (placed : Placed s) (late : s.worker ≠ .notCreated)
    (unended : s.worker ≠ .exited) : s.thread = true := by
  by_contra unthreaded
  rw [Bool.not_eq_true] at unthreaded
  rcases placed.unthreaded unthreaded with none | exited
  · exact late none
  · exact unended exited

theorem Placed.unjoined (placed : Placed s) (late : s.worker ≠ .notCreated)
    (unended : s.worker ≠ .exited) {stage : Teardown}
    (here : tearing s.owner = some stage) : stage.joined = false := by
  by_contra joined
  rw [Bool.not_eq_false] at joined
  have unthreaded := placed.joined stage here joined
  rw [placed.threaded late unended] at unthreaded
  cases unthreaded

theorem started_of_running {worker : Thread}
    (running : worker.running = true) :
    worker ≠ .notCreated ∧ worker ≠ .exited := by
  constructor
  · rintro rfl
    cases running
  · rintro rfl
    cases running

theorem Placed.goOn (placed : Placed s) (running : s.worker.running = true)
    {worker : Thread}
    (pointed : ∀ {gstreamer}, s.gstreamer = .alive gstreamer →
      Pointed s.worker (.alive gstreamer) s.streamer →
        Pointed worker (.alive gstreamer) s.streamer) :
    Placed { s with worker := worker } := by
  obtain ⟨gstreamer, alive⟩ := placed.running running
  have before := placed.pointed
  rw [alive] at before
  obtain ⟨late, unended⟩ := started_of_running running
  refine placed.work late unended ?_ (by simp [alive]) id placed.nulled
  rw [alive]
  exact pointed alive before

theorem Placed.step (placed : Placed s) {act : SessionAct κ τ}
    (step : (session κ τ config).step s act = some (s', events)) :
    Placed s' := by
  cases sessionStep_cases step with
  | life taken =>
      exact placed.advance (taken.before unclaimed rfl rfl rfl rfl) taken.early
  | tear here taken => exact placed.tear here taken
  | refuse start early =>
      refine placed.advance (fun _ => ?_)
        (by simp [Life.setStart, StartStage.early])
      rcases early with rfl | rfl <;> rw [start] <;> rfl
  | fail start | release start =>
      exact placed.advance (by simp [start, unclaimed])
        (by simp [Life.setStart, StartStage.early])
  | check start | count start | gate start | configure start
  | misconfigured start | ungate start =>
      exact placed.advance (by simp [start, unclaimed])
        (by simp [start, StartStage.early])
  | create start =>
      have fresh := placed.early (by rw [start]; rfl)
      have free := placed.unowned (by rw [start]; rfl)
      have pointed : Pointed .entered s.gstreamer s.streamer := by
        have before := placed.pointed
        rw [fresh.1] at before
        cases object : s.gstreamer with
        | absent =>
            rw [object] at before
            exact ⟨before.1, .inr (.inl rfl)⟩
        | alive gstreamer =>
            rw [object] at before
            cases shown : s.streamer <;> simp [shown, Pointed] at before
        | deleted =>
            rw [object] at before
            cases before
      refine ⟨fun _ => free, ?_, ?_, pointed, placed.nulling, placed.shown,
        ?_, placed.nulled⟩
      · simp [Life.setStart, StartStage.early]
      · intro unthreaded
        cases unthreaded
      · simp [free, tearing]
  | uncreated start =>
      have fresh := placed.early (by rw [start]; rfl)
      have free := placed.unowned (by rw [start]; rfl)
      refine placed.move (by simp [Life.setStart, unclaimed])
        (by simp [start, StartStage.early]) (by simp [free, tearing])
        (by simp [tearing]) (fun _ _ _ => fresh.2) ?_
      intro stage there nulled
      cases there
      cases nulled
  | killed start owner =>
      exact placed.own (fun _ => rfl) (by simp [start, StartStage.early])
        (by simp [owner, tearing]) (.inl rfl) (by simp)
  | attach start =>
      exact placed.advance (by simp [unclaimed]) (by simp [StartStage.early])
  | orphan start =>
      have free := placed.unowned (by rw [start]; rfl)
      exact placed.own (by simp [Life.setStart, unclaimed])
        (by simp [Life.setStart, StartStage.early]) (by simp [free, tearing])
        (.inr rfl) (by simp)
  | cleaned start owner =>
      exact placed.own (fun _ => rfl)
        (by simp [Life.setStart, StartStage.early])
        (by simp [owner, tearing]) (.inl rfl) (by simp)
  | yields free | closed free | unlock free | frameLoadNull free
  | frameUnlock free =>
      exact placed.own (fun _ => rfl) id (by simp [free, tearing])
        (by simp [tearing]) (by simp)
  | verify free | torn free | clear free =>
      refine placed.own (fun here => ?_) id (by simp [free, tearing])
        (by simp [tearing]) (by simp)
      rw [placed.unowned here] at free
      cases free
  | lock free added | lockClose free added | frameLock free added =>
      refine placed.own (fun here => ?_) id (by simp [free, tearing])
        (by simp [tearing]) (by simp)
      rw [claimed_of_added added] at here
      cases here
  | frameLoad owner shown =>
      refine placed.move (fun here => ?_) id (by simp [owner, tearing])
        (fun _ => shown) (by simp [tearing]) (by simp [tearing])
      rw [placed.unowned here] at owner
      cases owner
  | frameCall owner made call =>
      obtain ⟨gstreamer, alive⟩ := placed.looping owner
      obtain ⟨next, made', taken, rfl, rfl⟩ := invoke_alive alive call
      exact placed.call alive fun _ =>
        worker_of_step (outside_of_frame made) taken
  | construct worker =>
      have pointed := placed.pointed
      rw [worker] at pointed
      refine placed.work (by simp [worker]) (by simp [worker]) ?_ (by simp) id
        placed.nulled
      rw [pointed.entered.2]
      exact .inl ⟨rfl, rfl⟩
  | throw worker =>
      have pointed := placed.pointed
      rcases worker with worker | worker
      · rw [worker] at pointed
        refine placed.work (by simp [worker]) (by simp [worker]) ?_ ?_ id
          placed.nulled
        · rw [pointed.entered.1, pointed.entered.2]
          exact ⟨rfl, .inr (.inr rfl)⟩
        · simp [pointed.entered.1]
      · refine placed.goOn (by rw [worker]; rfl) fun _ here => ?_
        rw [worker] at here
        rw [here.constructed.1]
        exact .inr (.inr rfl)
  | delay worker vad =>
      refine placed.goOn (by rw [worker]; rfl) fun _ here => ?_
      rw [worker] at here
      rw [here.constructed.1]
      exact .inr (.inl rfl)
  | connect worker call =>
      obtain ⟨gstreamer, alive⟩ := placed.running (by rw [worker]; rfl)
      obtain ⟨next, made, taken, rfl, rfl⟩ := invoke_alive alive call
      have called : Placed { s with
          gstreamer := .alive next
          request := made.foldl Request.see s.request } :=
        placed.call alive fun _ => worker_of_step (by simp) taken
      refine called.goOn (by rw [worker]; rfl) fun _ here => ?_
      rw [worker] at here
      rw [here.constructed.1]
      exact .inr (.inl rfl)
  | publish worker =>
      obtain ⟨gstreamer, alive⟩ := placed.running (by rw [worker]; rfl)
      refine placed.work (by simp [worker]) (by simp [worker]) ?_
        (by simp [alive]) (fun _ => rfl) ?_
      · rw [alive]
        exact .inl rfl
      · intro stage here nulled
        have unjoined :=
          placed.unjoined (by simp [worker]) (by simp [worker]) here
        cases stage <;>
          simp [Teardown.joined, Teardown.nulled] at unjoined nulled
  | heed worker =>
      refine placed.goOn (by rw [worker]; rfl) fun _ here => ?_
      rw [here.published (.inl worker)]
      exact .inr (.inl rfl)
  | process worker =>
      refine placed.goOn (by rw [worker]; rfl) fun _ here => ?_
      rw [here.published (.inl worker)]
      exact .inr (.inr (.inl rfl))
  | finish worker call =>
      obtain ⟨gstreamer, alive⟩ := placed.running (by rw [worker]; rfl)
      obtain ⟨next, made, taken, rfl, rfl⟩ := invoke_alive alive call
      have called : Placed { s with
          gstreamer := .alive next
          request := made.foldl Request.see s.request } :=
        placed.call alive fun _ => worker_of_step (by simp) taken
      refine called.goOn (by rw [worker]; rfl) fun _ here => ?_
      rw [here.published (.inr (.inl worker))]
      exact .inr (.inr (.inl rfl))
  | exit worker alive returned =>
      refine placed.goOn (by rw [worker]; rfl) fun alive' here => ?_
      rw [alive] at alive'
      cases alive'
      rw [here.published (.inr (.inr worker))]
      exact .inr (.inr (.inr ⟨rfl, returned⟩))
  | work worker made call =>
      obtain ⟨gstreamer, alive⟩ := placed.running (by rw [worker]; rfl)
      obtain ⟨next, made', taken, rfl, rfl⟩ := invoke_alive alive call
      exact placed.call alive fun idle => (idle worker).elim
  | callback issued made call =>
      by_cases alive : ∃ gstreamer, s.gstreamer = .alive gstreamer
      · obtain ⟨gstreamer, alive⟩ := alive
        obtain ⟨next, made', taken, rfl, rfl⟩ := invoke_alive alive call
        exact placed.call alive fun _ =>
          worker_of_step (outside_of_callback made) taken
      · obtain ⟨rfl, rfl⟩ :=
          invoke_gone (fun gstreamer here => alive ⟨gstreamer, here⟩) call
        exact placed

/-- A start that attaches its bug and stores it in the channel private. -/
def startsSession (n : Nat) (bugname : κ) (vad : Bool) :
    List (Family.Act (SessionAct κ τ) (ModuleAct κ)) :=
  [.control (.callStart bugname), .control (.look false), .init true vad,
    .init true vad, .init true vad, .init true vad, .init true vad,
    .add true, .control .publish].map (.part n)

/-- A stop that finds the session of the bugname and takes its mutex. -/
def stopsSession (n call : Nat) (bugname : κ) :
    List (Family.Act (SessionAct κ τ) (ModuleAct κ)) :=
  [.common (.outside (.callStop bugname)),
    .part n (.control (.resolve (.stop call))), .part n (.lock (.stop call)),
    .part n (.stop true)]

end DrachtioModules.Aws

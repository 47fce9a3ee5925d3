import DrachtioModules.Aws.CapCb

/-!
# The branches of every step of a session

What the threads that meet at a `cap_cb` of mod_aws_transcribe can do, branch by
branch, with what the branch has tested.  The teardown is the same whoever runs
it.
-/

namespace DrachtioModules.Aws

open Transcribe (Bytes Caller Channel Life Control Notice Lifetime User Owner)

variable {κ τ : Type}

/-- The teardown in progress. -/
def tearing : Owner Frame Critical Teardown → Option Teardown
  | .stop _ (.tearing stage) | .start stage => some stage
  | _ => none

/-- The teardown in progress goes on. -/
def retear (owner : Owner Frame Critical Teardown) (stage : Teardown) :
    Owner Frame Critical Teardown :=
  match owner with
  | .stop caller (.tearing _) => .stop caller (.tearing stage)
  | .start _ => .start stage
  | other => other

@[simp] theorem tearing_retear {owner : Owner Frame Critical Teardown}
    {stage next : Teardown} (here : tearing owner = some stage) :
    tearing (retear owner next) = some next := by
  cases owner with
  | nobody | frame => cases here
  | start => rfl
  | stop caller critical =>
      cases critical with
      | tearing => rfl
      | _ => cases here

inductive TeardownStep (config : Config) (s : CapCb κ τ) :
    Teardown → CapCb κ τ → Teardown → List (SessionEvent κ τ) → Prop where
  | request :
      TeardownStep config s .requesting { s with stopRequested := true }
        .loading []
  | load (shown : s.streamer = true) :
      TeardownStep config s .loading s .finishing []
  | loadNull (hidden : s.streamer = false) :
      TeardownStep config s .loading s s.join []
  | finish {next : CapCb κ τ} {events : List (SessionEvent κ τ)}
      (call : s.invoke config .stop .finish = some (next, events)) :
      TeardownStep config s .finishing next s.join events
  | join (exited : s.worker = .exited) :
      TeardownStep config s .joining { s with thread := false } .killing
        [.lifetime .joined]
  | delete {gstreamer : State τ} (shown : s.streamer = true)
      (alive : s.gstreamer = .alive gstreamer) :
      TeardownStep config s .killing { s with gstreamer := .deleted } .nulling
        [.lifetime .deleted]
  | deleteGone (shown : s.streamer = true)
      (gone : ∀ gstreamer, s.gstreamer ≠ .alive gstreamer) :
      TeardownStep config s .killing s .nulling [.lifetime (.dangling .stop)]
  | skip (hidden : s.streamer = false) :
      TeardownStep config s .killing s .ungating []
  | null :
      TeardownStep config s .nulling { s with streamer := false } .ungating []
  | ungate (counted : s.gateCounted = true) :
      TeardownStep config s .ungating { s with gateCounted := false }
        .releasing []
  | ungated (uncounted : s.gateCounted = false) :
      TeardownStep config s .ungating s .killed []
  | release : TeardownStep config s .releasing s .killed [.released]

theorem stepTeardown_cases {config : Config} {s next : CapCb κ τ}
    {stage stage' : Teardown} {events : List (SessionEvent κ τ)}
    (step : stepTeardown config s stage = some (next, stage', events)) :
    TeardownStep config s stage next stage' events := by
  cases stage with
  | requesting =>
      cases step
      exact .request
  | loading =>
      simp only [stepTeardown] at step
      split at step <;> cases step <;> rename_i shown
      · exact .load shown
      · exact .loadNull (by simpa using shown)
  | finishing =>
      simp only [stepTeardown] at step
      split at step <;> cases step
      rename_i call
      exact .finish call
  | joining =>
      simp only [stepTeardown] at step
      split at step <;> cases step
      rename_i exited
      exact .join exited
  | killing =>
      simp only [stepTeardown] at step
      split at step
      · rename_i shown
        cases here : s.gstreamer with
        | alive gstreamer =>
            simp only [here] at step
            cases step
            exact .delete shown here
        | absent | deleted =>
            simp only [here] at step
            cases step
            exact .deleteGone shown (by simp [here])
      · rename_i hidden
        cases step
        exact .skip (by simpa using hidden)
  | nulling =>
      cases step
      exact .null
  | ungating =>
      simp only [stepTeardown] at step
      split at step <;> cases step <;> rename_i counted
      · exact .ungate counted
      · exact .ungated (by simpa using counted)
  | releasing =>
      cases step
      exact .release
  | killed => cases step

/-- The calls the media thread makes of the GStreamer. -/
def FrameAct.call : FrameAct → Option (Act τ)
  | .connect => some .connect
  | .write data => some (.write data)
  | .media => some .media
  | .lock | .load | .unlock => none

inductive SessionStep (config : Config) (s : CapCb κ τ) :
    SessionAct κ τ → CapCb κ τ → List (SessionEvent κ τ) → Prop where
  | life {act : Control κ} {life : Life κ Init} {notices : List (Notice κ)}
      (step : Life.Step .checking s.life act life notices) :
      SessionStep config s (.control act) { s with life := life }
        (notices.map .notice)
  -- whoever tears down
  | tear {act : SessionAct κ τ} {stage stage' : Teardown} {next : CapCb κ τ}
      {events : List (SessionEvent κ τ)}
      (here : tearing s.owner = some stage)
      (step : TeardownStep config s stage next stage' events) :
      SessionStep config s act
        { next with owner := retear s.owner stage' } events
  -- aws_transcribe_session_init
  | refuse {vad : Bool} {stage : Init}
      (start : s.life.start = .initializing stage)
      (early : stage = .checking ∨ stage = .gating) :
      SessionStep config s (.init false vad)
        { s with life := s.life.setStart (.returned false) } []
  | check {vad : Bool} (start : s.life.start = .initializing .checking) :
      SessionStep config s (.init true vad)
        { s with life := s.life.setStart (.initializing .gating) } []
  | count {vad : Bool} (start : s.life.start = .initializing .gating) :
      SessionStep config s (.init true vad)
        { s with life := s.life.setStart (.initializing .counted) } [.counted]
  | gate {ok vad : Bool} (start : s.life.start = .initializing .counted) :
      SessionStep config s (.init ok vad)
        { s with
          life := s.life.setStart (.initializing .configuring)
          gateCounted := true } []
  | configure {vad : Bool}
      (start : s.life.start = .initializing .configuring) :
      SessionStep config s (.init true vad)
        { s with
          life := s.life.setStart (.initializing .creating)
          vad := vad } []
  | misconfigured {vad : Bool}
      (start : s.life.start = .initializing .configuring) :
      SessionStep config s (.init false vad)
        { s with life := s.life.setStart (.initializing .done) } []
  | create {vad : Bool} (start : s.life.start = .initializing .creating) :
      SessionStep config s (.init true vad)
        { s with
          life := s.life.setStart .adding
          thread := true
          worker := .entered } [.lifetime .spawned]
  | uncreated {vad : Bool} (start : s.life.start = .initializing .creating) :
      SessionStep config s (.init false vad)
        { s with
          life := s.life.setStart (.initializing .killing)
          owner := .start .killing } []
  | killed {ok vad : Bool} (start : s.life.start = .initializing .killing)
      (owner : s.owner = .start .killed) :
      SessionStep config s (.init ok vad)
        { s with
          life := s.life.setStart (.initializing .done)
          owner := .nobody } []
  | ungate {ok vad : Bool} (start : s.life.start = .initializing .done)
      (counted : s.gateCounted = true) :
      SessionStep config s (.init ok vad)
        { s with
          life := s.life.setStart (.initializing .releasing)
          gateCounted := false } []
  | fail {ok vad : Bool} (start : s.life.start = .initializing .done)
      (uncounted : s.gateCounted = false) :
      SessionStep config s (.init ok vad)
        { s with life := s.life.setStart (.returned false) } []
  | release {ok vad : Bool} (start : s.life.start = .initializing .releasing) :
      SessionStep config s (.init ok vad)
        { s with life := s.life.setStart (.returned false) } [.released]
  -- switch_core_media_bug_add and aws_transcribe_session_cleanup
  | attach (start : s.life.start = .adding) :
      SessionStep config s (.add true)
        { s with life := { s.life with start := .attached, attached := true } }
        []
  | orphan (start : s.life.start = .adding) :
      SessionStep config s (.add false)
        { s with
          life := s.life.setStart .cleaning
          owner := .start .requesting } []
  | cleaned (start : s.life.start = .cleaning)
      (owner : s.owner = .start .killed) :
      SessionStep config s .cleanup
        { s with
          life := s.life.setStart (.returned false)
          owner := .nobody } []
  -- aws_transcribe_session_stop and aws_transcribe_session_close
  | lock {caller : Caller} (free : s.owner = .nobody)
      (added : s.life.start.added = true) (stopping : caller.closing = false) :
      SessionStep config s (.lock caller)
        { s with owner := .stop caller .checking } []
  | lockClose {caller : Caller} (free : s.owner = .nobody)
      (added : s.life.start.added = true) (closing : caller.closing = true)
      (called : s.life.close = .called) :
      SessionStep config s (.lock caller)
        { s with owner := .stop caller (.tearing .requesting) } []
  | verify {caller : Caller} (owner : s.owner = .stop caller .checking) :
      SessionStep config s (.stop true)
        { s with owner := .stop caller (.tearing .requesting) } []
  | yields {caller : Caller} (owner : s.owner = .stop caller .checking) :
      SessionStep config s (.stop false) { s with owner := .nobody }
        [.notice (.returned caller)]
  | closed {ok : Bool} {caller : Caller}
      (owner : s.owner = .stop caller (.tearing .killed))
      (closing : caller.closing = true) :
      SessionStep config s (.stop ok)
        { s with
          life := { s.life with close := .returned }
          owner := .nobody } []
  | torn {ok : Bool} {caller : Caller}
      (owner : s.owner = .stop caller (.tearing .killed))
      (stopping : caller.closing = false) :
      SessionStep config s (.stop ok)
        { s with owner := .stop caller .clearing } []
  | clear {ok : Bool} {caller : Caller} {bugname : κ}
      (owner : s.owner = .stop caller .clearing)
      (named : s.life.bugname = some bugname) :
      SessionStep config s (.stop ok)
        { s with owner := .stop caller .unlocking }
        [.notice (.cleared caller bugname)]
  | unlock {ok : Bool} {caller : Caller}
      (owner : s.owner = .stop caller .unlocking) :
      SessionStep config s (.stop ok) { s with owner := .nobody }
        [.notice (.unlocked caller)]
  -- aws_transcribe_frame
  | frameLock (free : s.owner = .nobody) (added : s.life.start.added = true) :
      SessionStep config s (.frame .lock) { s with owner := .frame .loading } []
  | frameLoad (owner : s.owner = .frame .loading)
      (shown : s.streamer = true) :
      SessionStep config s (.frame .load) { s with owner := .frame .looping } []
  | frameLoadNull (owner : s.owner = .frame .loading)
      (hidden : s.streamer = false) :
      SessionStep config s (.frame .load) { s with owner := .nobody } []
  | frameCall {frame : FrameAct} {act : Act τ} {next : CapCb κ τ}
      {events : List (SessionEvent κ τ)} (owner : s.owner = .frame .looping)
      (made : frame.call = some act)
      (call : s.invoke config .frame act = some (next, events)) :
      SessionStep config s (.frame frame) next events
  | frameUnlock (owner : s.owner = .frame .looping) :
      SessionStep config s (.frame .unlock) { s with owner := .nobody } []
  -- aws_transcribe_thread
  | construct (worker : s.worker = .entered) :
      SessionStep config s (.thread true)
        { s with
          gstreamer := .alive (.fresh τ config)
          worker := .constructed } [.lifetime .created]
  | throw (worker : s.worker = .entered ∨ s.worker = .constructed) :
      SessionStep config s (.thread false) { s with worker := .exited } []
  | delay {ok : Bool} (worker : s.worker = .constructed)
      (vad : s.vad = true) :
      SessionStep config s (.thread ok) { s with worker := .publishing } []
  | connect {next : CapCb κ τ} {events : List (SessionEvent κ τ)}
      (worker : s.worker = .constructed)
      (call : s.invoke config .thread .connect = some (next, events)) :
      SessionStep config s (.thread true)
        { next with worker := .publishing } events
  | publish {ok : Bool} (worker : s.worker = .publishing) :
      SessionStep config s (.thread ok)
        { s with streamer := true, worker := .checking } []
  | heed {ok : Bool} (worker : s.worker = .checking)
      (requested : s.stopRequested = true) :
      SessionStep config s (.thread ok) { s with worker := .finishing } []
  | process {ok : Bool} (worker : s.worker = .checking)
      (unrequested : s.stopRequested = false) :
      SessionStep config s (.thread ok) { s with worker := .processing } []
  | finish {ok : Bool} {next : CapCb κ τ} {events : List (SessionEvent κ τ)}
      (worker : s.worker = .finishing)
      (call : s.invoke config .thread .finish = some (next, events)) :
      SessionStep config s (.thread ok)
        { next with worker := .processing } events
  | exit {ok : Bool} {gstreamer : State τ} (worker : s.worker = .processing)
      (alive : s.gstreamer = .alive gstreamer)
      (returned : gstreamer.worker = .returned) :
      SessionStep config s (.thread ok) { s with worker := .exited } []
  | work {label : SessionAct κ τ} {act : Act τ} {next : CapCb κ τ}
      {events : List (SessionEvent κ τ)} (worker : s.worker = .processing)
      (made : act = .worker ∨ act = .timeout)
      (call : s.invoke config .thread act = some (next, events)) :
      SessionStep config s label next events
  | callback {act : Act τ} {next : CapCb κ τ}
      {events : List (SessionEvent κ τ)} (issued : s.request ≠ .notIssued)
      (made : act.callback = true)
      (call : s.invoke config .sdk act = some (next, events)) :
      SessionStep config s (.sdk act) next events

variable {config : Config} {s s' : CapCb κ τ}
variable {events : List (SessionEvent κ τ)}

theorem stepInit_cases {ok vad : Bool}
    (step : stepInit config s ok vad = some (s', events)) :
    SessionStep config s (.init ok vad) s' events := by
  cases start : s.life.start with
  | initializing stage =>
      cases stage with
      | checking =>
          simp only [stepInit, start] at step
          cases ok with
          | true =>
              cases step
              exact .check start
          | false =>
              cases step
              exact .refuse start (.inl rfl)
      | gating =>
          simp only [stepInit, start] at step
          cases ok with
          | true =>
              cases step
              exact .count start
          | false =>
              cases step
              exact .refuse start (.inr rfl)
      | counted =>
          simp only [stepInit, start] at step
          cases step
          exact .gate start
      | configuring =>
          simp only [stepInit, start] at step
          cases ok with
          | true =>
              cases step
              exact .configure start
          | false =>
              cases step
              exact .misconfigured start
      | creating =>
          simp only [stepInit, start] at step
          cases ok with
          | true =>
              cases step
              exact .create start
          | false =>
              cases step
              exact .uncreated start
      | killing =>
          simp only [stepInit, start] at step
          split at step
          · rename_i owner
            cases step
            exact .killed start owner
          · rename_i stage unkilled owner
            split at step <;> cases step
            rename_i taken
            have here : tearing s.owner = some stage := by rw [owner]; rfl
            have tear : SessionStep config s (.init ok vad) _ _ :=
              .tear here (stepTeardown_cases taken)
            simpa [owner, retear] using tear
          · cases step
      | done =>
          simp only [stepInit, start] at step
          split at step <;> cases step <;> rename_i counted
          · exact .ungate start counted
          · exact .fail start (by simpa using counted)
      | releasing =>
          simp only [stepInit, start] at step
          cases step
          exact .release start
  | _ => simp [stepInit, start] at step

theorem stepAdd_cases {ok : Bool} (step : stepAdd s ok = some (s', events)) :
    SessionStep config s (.add ok) s' events := by
  simp only [stepAdd] at step
  split at step
  · rename_i start
    cases ok with
    | true =>
        cases step
        exact .attach start
    | false =>
        cases step
        exact .orphan start
  · cases step

theorem stepCleanup_cases (step : stepCleanup config s = some (s', events)) :
    SessionStep config s .cleanup s' events := by
  simp only [stepCleanup] at step
  split at step
  · rename_i start owner
    cases step
    exact .cleaned start owner
  · rename_i stage unkilled start owner
    split at step <;> cases step
    rename_i taken
    have here : tearing s.owner = some stage := by rw [owner]; rfl
    have tear : SessionStep config s .cleanup _ _ :=
      .tear here (stepTeardown_cases taken)
    simpa [owner, retear] using tear
  · cases step

theorem lock_cases {caller : Caller}
    (step : s.lock caller = some (s', events)) :
    SessionStep config s (.lock caller) s' events := by
  simp only [CapCb.lock] at step
  split at step
  · rename_i free
    split at step <;> rename_i closing
    · split at step <;> cases step
      rename_i called
      exact .lockClose free.1 free.2 closing called
    · cases step
      exact .lock free.1 free.2 (by simpa using closing)
  · cases step

theorem stepStop_cases {ok : Bool}
    (step : stepStop config s ok = some (s', events)) :
    SessionStep config s (.stop ok) s' events := by
  simp only [stepStop] at step
  split at step
  · rename_i caller owner
    cases ok with
    | true =>
        cases step
        exact .verify owner
    | false =>
        cases step
        exact .yields owner
  · rename_i caller owner
    split at step <;> cases step <;> rename_i closing
    · exact .closed owner closing
    · exact .torn owner (by simpa using closing)
  · rename_i caller stage unkilled owner
    split at step <;> cases step
    rename_i taken
    have here : tearing s.owner = some stage := by rw [owner]; rfl
    have tear : SessionStep config s (.stop ok) _ _ :=
      .tear here (stepTeardown_cases taken)
    simpa [owner, retear] using tear
  · rename_i caller owner
    split at step <;> cases step
    rename_i named
    exact .clear owner named
  · rename_i caller owner
    cases step
    exact .unlock owner
  · cases step

theorem stepFrame_cases {act : FrameAct}
    (step : stepFrame config s act = some (s', events)) :
    SessionStep config s (.frame act) s' events := by
  simp only [stepFrame] at step
  split at step
  · rename_i owner
    split at step <;> cases step
    rename_i added
    exact .frameLock owner added
  · rename_i owner
    split at step <;> cases step <;> rename_i shown
    · exact .frameLoad owner shown
    · exact .frameLoadNull owner (by simpa using shown)
  · rename_i owner
    split at step
    · split at step
      · exact .frameCall owner rfl step
      · cases step
    · exact .frameCall owner rfl step
    · exact .frameCall owner rfl step
  · rename_i owner
    exact .frameCall owner rfl step
  · rename_i owner
    exact .frameCall owner rfl step
  · rename_i owner
    split at step
    · split at step <;> cases step
      exact .frameUnlock owner
    · cases step
      exact .frameUnlock owner
    · cases step
      exact .frameUnlock owner
  · cases step

theorem advance_cases {worker : Thread}
    {outcome : Option (CapCb κ τ × List (SessionEvent κ τ))}
    (step : CapCb.advance worker outcome = some (s', events)) :
    ∃ next, outcome = some (next, events) ∧
      s' = { next with worker := worker } := by
  simp only [CapCb.advance] at step
  split at step <;> cases step
  exact ⟨_, rfl, rfl⟩

theorem stepThread_cases {ok : Bool}
    (step : stepThread config s ok = some (s', events)) :
    SessionStep config s (.thread ok) s' events := by
  cases worker : s.worker with
  | notCreated | exited => simp [stepThread, worker] at step
  | entered =>
      simp only [stepThread, worker] at step
      cases ok with
      | true =>
          cases step
          exact .construct worker
      | false =>
          cases step
          exact .throw (.inl worker)
  | constructed =>
      simp only [stepThread, worker] at step
      split at step
      · rename_i vad
        cases step
        exact .delay worker vad
      · cases ok with
        | true =>
            obtain ⟨next, call, rfl⟩ := advance_cases step
            exact .connect worker call
        | false =>
            cases step
            exact .throw (.inr worker)
  | publishing =>
      simp only [stepThread, worker] at step
      cases step
      exact .publish worker
  | checking =>
      simp only [stepThread, worker] at step
      split at step <;> cases step <;> rename_i requested
      · exact .heed worker requested
      · exact .process worker (by simpa using requested)
  | finishing =>
      simp only [stepThread, worker] at step
      obtain ⟨next, call, rfl⟩ := advance_cases step
      exact .finish worker call
  | processing =>
      simp only [stepThread, worker] at step
      split at step
      · rename_i gstreamer alive
        split at step
        · rename_i returned
          cases step
          exact .exit worker alive returned
        · exact .work worker (.inl rfl) step
      · exact .work worker (.inl rfl) step
      · exact .work worker (.inl rfl) step

theorem sessionStep_cases {act : SessionAct κ τ}
    (step : (session κ τ config).step s act = some (s', events)) :
    SessionStep config s act s' events := by
  cases act with
  | control act =>
      simp only [session, sessionStep, lift] at step
      split at step <;> cases step
      rename_i taken
      exact .life (Life.step_cases taken)
  | init ok vad => exact stepInit_cases step
  | add ok => exact stepAdd_cases step
  | cleanup => exact stepCleanup_cases step
  | lock caller => exact lock_cases step
  | stop ok => exact stepStop_cases step
  | frame act => exact stepFrame_cases step
  | thread ok => exact stepThread_cases step
  | timeout =>
      simp only [session, sessionStep] at step
      split at step
      · rename_i worker
        exact .work worker (.inr rfl) step
      · cases step
  | sdk act =>
      simp only [session, sessionStep] at step
      split at step
      · rename_i issued
        exact .callback issued.1 issued.2 step
      · cases step

theorem invoke_alive {user : User} {act : Act τ} {gstreamer : State τ}
    (alive : s.gstreamer = .alive gstreamer)
    (call : s.invoke config user act = some (s', events)) :
    ∃ next made, (machine τ config).step gstreamer act = some (next, made) ∧
      events = made.map .gstreamer ∧
      s' = { s with
        gstreamer := .alive next
        request := made.foldl Request.see s.request } := by
  simp only [CapCb.invoke, alive] at call
  split at call <;> cases call
  rename_i taken
  exact ⟨_, _, taken, rfl, rfl⟩

theorem invoke_gone {user : User} {act : Act τ}
    (gone : ∀ gstreamer, s.gstreamer ≠ .alive gstreamer)
    (call : s.invoke config user act = some (s', events)) :
    s' = s ∧ events = [.lifetime (.dangling user)] := by
  simp only [CapCb.invoke] at call
  split at call
  · rename_i gstreamer alive
    exact (gone gstreamer alive).elim
  all_goals
    cases call
    exact ⟨rfl, rfl⟩

/-- An event of the session's own, which the module does not see. -/
def SessionEvent.inner : SessionEvent κ τ → Bool
  | .lifetime _ | .gstreamer _ => true
  | .notice _ | .counted | .released => false

theorem invoke_inner {user : User} {act : Act τ}
    (call : s.invoke config user act = some (s', events)) :
    (∃ object request, s' = { s with
      gstreamer := object
      request := request }) ∧
      ∀ event ∈ events, event.inner = true := by
  by_cases alive : ∃ gstreamer, s.gstreamer = .alive gstreamer
  · obtain ⟨gstreamer, alive⟩ := alive
    obtain ⟨next, made, _, rfl, rfl⟩ := invoke_alive alive call
    refine ⟨⟨_, _, rfl⟩, ?_⟩
    intro event member
    obtain ⟨inside, _, rfl⟩ := List.mem_map.mp member
    rfl
  · obtain ⟨rfl, rfl⟩ :=
      invoke_gone (fun gstreamer here => alive ⟨gstreamer, here⟩) call
    exact ⟨⟨_, _, rfl⟩, by simp [SessionEvent.inner]⟩

/-- The media thread does not do the worker's work, nor does the SDK. -/
theorem outside_of_frame {frame : FrameAct} {act : Act τ}
    (made : frame.call = some act) : act ≠ .worker ∧ act ≠ .timeout := by
  cases frame <;> cases made <;> simp

theorem outside_of_callback {act : Act τ} (made : act.callback = true) :
    act ≠ .worker ∧ act ≠ .timeout := by
  cases act with
  | onStreamReady | streamReady | onTranscriptEvent | onResponse => simp
  | _ => cases made

end DrachtioModules.Aws

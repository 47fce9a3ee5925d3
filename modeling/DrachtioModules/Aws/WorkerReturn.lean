import DrachtioModules.Aws.Outstanding
import DrachtioModules.Aws.StopHandshake

/-!
# The worker returns when nothing is outstanding

A GStreamer is deleted after its worker has returned.  The SDK, which keeps
callbacks into it from the request on to the final response, must not have one
left by then, and nobody may issue another request.
-/

namespace DrachtioModules.Aws

open Transcribe (Bytes Caller Channel Life StartStage Control Notice Lifetime
  User Owner)

variable {κ τ : Type} {config : Config} {s s' : CapCb κ τ}
variable {trace events : List (SessionEvent κ τ)}

/-- The final response comes once for a request, and no other callback of that
request comes, or goes on, after it. -/
def sdkContract (s : CapCb κ τ) : SessionAct κ τ → Bool
  | .sdk .onResponse =>
      decide (s.request = .outstanding) &&
        match s.gstreamer with
        | .alive gstreamer =>
            decide (gstreamer.streamReady = .notCalled ∨
              gstreamer.streamReady = .returned)
        | .absent | .deleted => true
  | .sdk _ => decide (s.request = .outstanding)
  | _ => true

/-- `processData()` returns after the final response, or there was no request,
and there is none from then on. -/
def ReturnsSafely (trace : List (SessionEvent κ τ)) : Prop :=
  ∀ before after, trace = before ++ .gstreamer .returned :: after →
    (.gstreamer .responded ∈ before ∨ .gstreamer .requested ∉ before) ∧
      .gstreamer .requested ∉ after

/-- The GStreamer's flags agree with what the SDK knows of the request. -/
structure Known (gstreamer : State τ) (request : Request) : Prop where
  issued : gstreamer.connecting = true ↔ request ≠ .notIssued
  answered : gstreamer.finished = true ↔ request = .responded

/-- An event that the SDK does not take part in. -/
def Event.ofSdk : Event τ → Bool
  | .requested | .responded | .returned => true
  | _ => false

theorem see_elsewhere {made : List (Event τ)} {request : Request}
    (elsewhere : ∀ event ∈ made, event.ofSdk = false) :
    made.foldl Request.see request = request := by
  induction made with
  | nil => rfl
  | cons event made ih =>
      have same : request.see event = request := by
        have outside := elsewhere event List.mem_cons_self
        cases event <;> first | rfl | cases outside
      rw [List.foldl_cons, same]
      exact ih fun other member =>
        elsewhere other (List.mem_cons_of_mem _ member)

/-- What a step of the GStreamer does about the request and the return of the
worker. -/
inductive Exchange (gstreamer next : State τ) : List (Event τ) → Prop where
  | elsewhere {made : List (Event τ)}
      (connecting : next.connecting = gstreamer.connecting)
      (finished : next.finished = gstreamer.finished)
      (outside : ∀ event ∈ made, event.ofSdk = false) :
      Exchange gstreamer next made
  | request (unconnected : gstreamer.connecting = false)
      (running : gstreamer.finished = false)
      (connecting : next.connecting = true) (finished : next.finished = false) :
      Exchange gstreamer next [.requested]
  | respond (connecting : gstreamer.connecting = true)
      (connected : next.connecting = true) (finished : next.finished = true) :
      Exchange gstreamer next [.responded]
  | leave (connecting : next.connecting = gstreamer.connecting)
      (finished : next.finished = gstreamer.finished)
      (returned : next.worker = .returned) :
      Exchange gstreamer next [.returned]

theorem exchange_of_step {gstreamer next : State τ} {act : Act τ}
    {made : List (Event τ)}
    (step : (machine τ config).step gstreamer act = some (next, made)) :
    Exchange gstreamer next made := by
  cases act with
  | connect =>
      cases call_cases rfl step with
      | again => exact .elsewhere rfl rfl (by simp)
      | request unconnected running =>
          exact .request unconnected running rfl running
  | media =>
      obtain ⟨stage, here, taken⟩ := stepMedia_cases step
      cases taken with
      | stage =>
          rw [stage_same]
          exact .elsewhere rfl rfl (by simp [Event.ofSdk])
      | _ => exact .elsewhere rfl rfl (by simp [Event.ofSdk])
  | write | finish | onStreamReady | onTranscriptEvent =>
      cases call_cases rfl step <;>
        exact .elsewhere rfl rfl (by simp [Event.ofSdk])
  | streamReady =>
      obtain ⟨stage, here, taken⟩ := stepStreamReady_cases step
      cases taken <;> exact .elsewhere rfl rfl (by simp [Event.ofSdk])
  | onResponse =>
      cases call_cases rfl step with
      | respond connecting => exact .respond connecting connecting rfl
  | worker =>
      obtain ⟨stage, here, taken⟩ := stepWorker_cases step
      cases taken with
      | finish | abandon | relockFinal => exact .leave rfl rfl rfl
      | _ => exact .elsewhere rfl rfl (by simp [Event.ofSdk])
  | timeout =>
      obtain ⟨_, _, _, rfl, rfl | rfl⟩ := stepTimeout_cases step <;>
        exact .elsewhere rfl rfl (by simp [Event.ofSdk])

theorem Exchange.requested {gstreamer next : State τ} {made : List (Event τ)}
    (taken : Exchange gstreamer next made) (member : .requested ∈ made) :
    made = [.requested] := by
  cases taken with
  | elsewhere connecting finished outside => cases outside _ member
  | request => rfl
  | respond | leave => simp at member

theorem Exchange.returned {gstreamer next : State τ} {made : List (Event τ)}
    (taken : Exchange gstreamer next made) (member : .returned ∈ made) :
    made = [.returned] ∧ next.worker = .returned := by
  cases taken with
  | elsewhere connecting finished outside => cases outside _ member
  | leave connecting finished returned => exact ⟨rfl, returned⟩
  | request | respond => simp at member

/-- A request stays issued, and a response is one the SDK has given. -/
theorem Exchange.see {gstreamer next : State τ} {made : List (Event τ)}
    {request : Request} (taken : Exchange gstreamer next made) :
    (request ≠ .notIssued → made.foldl Request.see request ≠ .notIssued) ∧
      (made.foldl Request.see request = .responded →
        request = .responded ∨ .responded ∈ made) := by
  cases taken with
  | elsewhere connecting finished outside =>
      rw [see_elsewhere outside]
      exact ⟨id, .inl⟩
  | request | respond => simp [Request.see]
  | leave => exact ⟨id, .inl⟩

theorem Known.exchange {gstreamer next : State τ} {request : Request}
    {made : List (Event τ)} (known : Known gstreamer request)
    (taken : Exchange gstreamer next made) :
    Known next (made.foldl Request.see request) := by
  cases taken with
  | elsewhere connecting finished outside =>
      rw [see_elsewhere outside]
      exact ⟨by rw [connecting]; exact known.issued,
        by rw [finished]; exact known.answered⟩
  | request unconnected running connecting finished =>
      exact ⟨by simp [connecting, Request.see],
        by simp [finished, Request.see]⟩
  | respond connecting connected finished =>
      exact ⟨by simp [connected, Request.see],
        by simp [finished, Request.see]⟩
  | leave connecting finished returned =>
      exact ⟨by rw [connecting]; exact known.issued,
        by rw [finished]; exact known.answered⟩

theorem returned_of_step {gstreamer next : State τ} {act : Act τ}
    {made : List (Event τ)}
    (step : (machine τ config).step gstreamer act = some (next, made))
    (before : gstreamer.worker = .returned) : next.worker = .returned := by
  by_cases work : act = .worker
  · subst work
    simp [machine, Aws.step, stepWorker, before] at step
  · by_cases timeout : act = .timeout
    · subst timeout
      simp [machine, Aws.step, stepTimeout, before] at step
    · rw [worker_of_step ⟨work, timeout⟩ step]
      exact before

/-- Only `finish()` tells a GStreamer to finish. -/
theorem finish_of_finishing {gstreamer next : State τ} {act : Act τ}
    {made : List (Event τ)} (elsewhere : act ≠ .finish)
    (step : (machine τ config).step gstreamer act = some (next, made))
    (after : next.finishing = true) : gstreamer.finishing = true := by
  cases act with
  | finish => exact (elsewhere rfl).elim
  | media =>
      obtain ⟨stage, here, taken⟩ := stepMedia_cases step
      cases taken with
      | stage =>
          rw [stage_same] at after
          exact after
      | _ => exact after
  | streamReady =>
      obtain ⟨stage, here, taken⟩ := stepStreamReady_cases step
      cases taken <;> exact after
  | worker =>
      obtain ⟨stage, here, taken⟩ := stepWorker_cases step
      cases taken <;> exact after
  | timeout =>
      obtain ⟨_, _, _, rfl, _⟩ := stepTimeout_cases step
      exact after
  | connect | write | onStreamReady | onTranscriptEvent | onResponse =>
      cases call_cases rfl step <;> exact after

/-- No stop has the `cap_cb`, and no cleanup that asks the worker to finish. -/
def unstopped : Owner Frame Critical Teardown → Bool
  | .nobody => true
  | .start stage => stage.joined
  | .frame _ | .stop _ _ => false

theorem joined_of_unstopped {owner : Owner Frame Critical Teardown}
    {stage : Teardown} (here : tearing owner = some stage)
    (quiet : unstopped owner = true) : stage.joined = true := by
  cases owner with
  | nobody => cases here
  | start other =>
      cases here
      exact quiet
  | frame | stop => cases quiet

theorem unstopped_retear {owner : Owner Frame Critical Teardown}
    {stage : Teardown} (quiet : unstopped owner = true)
    (joined : stage.joined = true) : unstopped (retear owner stage) = true := by
  cases owner with
  | nobody => exact quiet
  | start => exact joined
  | frame | stop => cases quiet

structure Claimed (s : CapCb κ τ) : Prop where
  early : s.life.start.early = true → s.stopRequested = false ∧
    unstopped s.owner = true
  heeding : s.worker = .finishing → s.stopRequested = true
  stopped : ∀ gstreamer, s.gstreamer = .alive gstreamer →
    gstreamer.finishing = true → s.stopRequested = true
  held : s.stopRequested = true →
    (∃ stage, tearing s.owner = some stage ∧ stage ≠ .requesting) ∨
      s.thread = false ∧ s.streamer = false

theorem claimed_fresh : Claimed (CapCb.fresh κ τ) := by
  constructor <;> simp [CapCb.fresh, tearing, unstopped]

/-- Once a stop is asked for, the media thread finds no GStreamer. -/
theorem Claimed.unrequested (claimed : Claimed s) (placed : Placed s)
    (owner : s.owner = .frame .looping) : s.stopRequested = false := by
  by_contra requested
  rw [Bool.not_eq_false] at requested
  rcases claimed.held requested with ⟨stage, here, _⟩ | ⟨_, hidden⟩
  · rw [owner] at here
    cases here
  · rw [placed.shown (.inr owner)] at hidden
    cases hidden

/-- Where nobody tears down, a stop that was asked for is over. -/
theorem Claimed.ended (claimed : Claimed s) (placed : Placed s)
    (idle : tearing s.owner = none ∨ tearing s.owner = some .killed)
    (requested : s.stopRequested = true) :
    s.thread = false ∧ s.streamer = false := by
  rcases idle with none | killed
  · rcases claimed.held requested with ⟨stage, here, _⟩ | gone
    · rw [none] at here
      cases here
    · exact gone
  · exact ⟨placed.joined .killed killed rfl, placed.nulled .killed killed rfl⟩

theorem Claimed.own (claimed : Claimed s) (placed : Placed s)
    {life : Life κ Init} {owner : Owner Frame Critical Teardown}
    (idle : tearing s.owner = none ∨ tearing s.owner = some .killed)
    (early : life.start.early = true → s.life.start.early = true ∧
      unstopped owner = true) :
    Claimed { s with life := life, owner := owner } :=
  { early := fun here =>
      ⟨(claimed.early (early here).1).1, (early here).2⟩
    heeding := claimed.heeding
    stopped := claimed.stopped
    held := fun requested => .inr (claimed.ended placed idle requested) }

theorem Claimed.move (claimed : Claimed s) {life : Life κ Init}
    {vad gateCounted : Bool} {worker : Thread}
    (early : life.start.early = true → s.life.start.early = true)
    (heeding : worker = .finishing → s.stopRequested = true) :
    Claimed { s with
      life := life
      vad := vad
      gateCounted := gateCounted
      worker := worker } :=
  { early := fun here => claimed.early (early here)
    heeding := heeding
    stopped := claimed.stopped
    held := claimed.held }

theorem Claimed.call (claimed : Claimed s) {next : State τ} {worker : Thread}
    {request : Request}
    (heeding : worker = .finishing → s.worker = .finishing)
    (stopped : next.finishing = true → s.stopRequested = true) :
    Claimed { s with
      gstreamer := .alive next
      request := request
      worker := worker } :=
  { early := claimed.early
    heeding := fun here => claimed.heeding (heeding here)
    stopped := fun gstreamer alive finishing => by
      cases alive
      exact stopped finishing
    held := claimed.held }

theorem Claimed.tear (claimed : Claimed s) (placed : Placed s)
    (heeded : Heeded s) {stage stage' : Teardown}
    (here : tearing s.owner = some stage)
    (step : TeardownStep config s stage s' stage' events) :
    Claimed { s' with owner := retear s.owner stage' } := by
  have now : tearing (retear s.owner stage') = some stage' :=
    tearing_retear here
  have joins : stage.joined = true → stage'.joined = true := by
    cases step <;> simp [Teardown.joined]
  have early (before : s.life.start.early = true) :
      s.stopRequested = false ∧
        unstopped (retear s.owner stage') = true := by
    obtain ⟨unrequested, quiet⟩ := claimed.early before
    exact ⟨unrequested,
      unstopped_retear quiet (joins (joined_of_unstopped here quiet))⟩
  have later : stage' ≠ .requesting := by
    cases step with
    | loadNull | finish =>
        unfold CapCb.join
        split <;> simp
    | _ => simp
  have held : (∃ other, tearing (retear s.owner stage') = some other ∧
      other ≠ .requesting) := ⟨stage', now, later⟩
  cases step with
  | request =>
      refine ⟨fun before => ?_, fun _ => rfl, fun _ _ _ => rfl,
        fun _ => .inl held⟩
      have joined := joined_of_unstopped here (claimed.early before).2
      cases joined
  | finish call =>
      obtain ⟨gstreamer, alive⟩ := placed.finishing here
      obtain ⟨next, made, taken, rfl, rfl⟩ := invoke_alive alive call
      exact ⟨early, claimed.heeding,
        fun _ _ _ => heeded.requested .finishing here rfl, fun _ => .inl held⟩
  | delete =>
      refine ⟨early, claimed.heeding, fun gstreamer alive => ?_,
        fun _ => .inl held⟩
      cases alive
  | load | loadNull | join | deleteGone | skip | null | ungate | ungated
  | release =>
      exact ⟨early, claimed.heeding, claimed.stopped, fun _ => .inl held⟩

theorem Claimed.step (claimed : Claimed s) (placed : Placed s)
    (heeded : Heeded s) {act : SessionAct κ τ}
    (step : (session κ τ config).step s act = some (s', events)) :
    Claimed s' := by
  have unborn (start : s.life.start.early = true) := placed.early start
  cases sessionStep_cases step with
  | tear here taken => exact claimed.tear placed heeded here taken
  | life taken => exact claimed.move taken.early claimed.heeding
  | refuse start | fail start | release start | attach start =>
      exact claimed.move (by simp [Life.setStart, StartStage.early])
        claimed.heeding
  | check start | count start | gate start | configure start
  | misconfigured start | ungate start =>
      exact claimed.move (by simp [start, StartStage.early]) claimed.heeding
  | create start =>
      have unrequested := (claimed.early (by rw [start]; rfl)).1
      refine ⟨by simp [Life.setStart, StartStage.early], by simp,
        claimed.stopped, fun requested => ?_⟩
      dsimp only at requested
      rw [unrequested] at requested
      cases requested
  | uncreated start =>
      have free := placed.unowned (by rw [start]; rfl)
      exact claimed.own placed (.inl (by rw [free]; rfl))
        fun _ => ⟨by rw [start]; rfl, rfl⟩
  | killed start owner =>
      exact claimed.own placed (.inr (by rw [owner]; rfl))
        fun _ => ⟨by rw [start]; rfl, rfl⟩
  | orphan start =>
      have free := placed.unowned (by rw [start]; rfl)
      exact claimed.own placed (.inl (by rw [free]; rfl))
        (by simp [Life.setStart, StartStage.early])
  | cleaned start owner =>
      exact claimed.own placed (.inr (by rw [owner]; rfl))
        (by simp [Life.setStart, StartStage.early])
  | lock free added | lockClose free added | frameLock free added =>
      refine claimed.own placed (.inl (by rw [free]; rfl)) fun early => ?_
      rw [StartStage.late_of_added added] at early
      cases early
  | verify owner | clear owner | frameLoad owner =>
      refine claimed.own placed (.inl (by rw [owner]; rfl)) fun early => ?_
      have quiet := (claimed.early early).2
      rw [owner] at quiet
      cases quiet
  | torn owner =>
      refine claimed.own placed (.inr (by rw [owner]; rfl)) fun early => ?_
      have quiet := (claimed.early early).2
      rw [owner] at quiet
      cases quiet
  | yields owner | unlock owner | frameLoadNull owner | frameUnlock owner =>
      exact claimed.own placed (.inl (by rw [owner]; rfl)) fun early =>
        ⟨early, rfl⟩
  | closed owner =>
      exact claimed.own placed (.inr (by rw [owner]; rfl)) fun early =>
        ⟨early, rfl⟩
  | @frameCall frame act next events owner made call =>
      obtain ⟨gstreamer, alive⟩ := placed.looping owner
      obtain ⟨next, made', taken, rfl, rfl⟩ := invoke_alive alive call
      refine claimed.call id fun after => claimed.stopped gstreamer alive ?_
      refine finish_of_finishing ?_ taken after
      rintro rfl
      cases frame <;> cases made
  | construct worker =>
      refine ⟨claimed.early, by simp, fun gstreamer alive finishing => ?_,
        claimed.held⟩
      cases alive
      cases finishing
  | throw | delay | process | exit =>
      exact claimed.move id (by simp)
  | heed worker requested => exact claimed.move id fun _ => requested
  | connect worker call =>
      obtain ⟨gstreamer, alive⟩ := placed.running (by rw [worker]; rfl)
      obtain ⟨next, made, taken, rfl, rfl⟩ := invoke_alive alive call
      exact claimed.call (by simp) fun after =>
        claimed.stopped gstreamer alive
          (finish_of_finishing (by simp) taken after)
  | publish worker =>
      refine ⟨claimed.early, by simp, claimed.stopped, fun requested => ?_⟩
      rcases claimed.held requested with held | ⟨unthreaded, _⟩
      · exact .inl held
      · rcases placed.unthreaded unthreaded with none | exited
        · rw [none] at worker
          cases worker
        · rw [exited] at worker
          cases worker
  | finish worker call =>
      obtain ⟨gstreamer, alive⟩ := placed.running (by rw [worker]; rfl)
      obtain ⟨next, made, taken, rfl, rfl⟩ := invoke_alive alive call
      exact claimed.call (by simp) fun _ => claimed.heeding worker
  | work worker made call =>
      obtain ⟨gstreamer, alive⟩ := placed.running (by rw [worker]; rfl)
      obtain ⟨next, made', taken, rfl, rfl⟩ := invoke_alive alive call
      refine claimed.call id fun after => claimed.stopped gstreamer alive ?_
      refine finish_of_finishing ?_ taken after
      rcases made with rfl | rfl <;> simp
  | callback issued made call =>
      by_cases alive : ∃ gstreamer, s.gstreamer = .alive gstreamer
      · obtain ⟨gstreamer, alive⟩ := alive
        obtain ⟨next, made', taken, rfl, rfl⟩ := invoke_alive alive call
        refine claimed.call id fun after => claimed.stopped gstreamer alive ?_
        refine finish_of_finishing ?_ taken after
        rintro rfl
        cases made
      · obtain ⟨rfl, rfl⟩ :=
          invoke_gone (fun gstreamer here => alive ⟨gstreamer, here⟩) call
        exact claimed

structure Answered (trace : List (SessionEvent κ τ)) (object : Object τ)
    (request : Request) : Prop where
  outstanding : ∀ gstreamer, object = .alive gstreamer → Outstanding gstreamer
  known : ∀ gstreamer, object = .alive gstreamer → Known gstreamer request
  absent : object = .absent → request = .notIssued
  deleted : object = .deleted → request ≠ .outstanding
  issued : .gstreamer .requested ∈ trace → request ≠ .notIssued
  answered : request = .responded → .gstreamer .responded ∈ trace
  returned : .gstreamer .returned ∈ trace → object = .deleted ∨
    ∃ gstreamer, object = .alive gstreamer ∧ gstreamer.worker = .returned
  safe : ReturnsSafely trace
  sound : ∀ user, .lifetime (.dangling user) ∉ trace

theorem answered_fresh :
    Answered ([] : List (SessionEvent κ τ)) .absent .notIssued := by
  constructor <;> simp [ReturnsSafely]

/-- Nothing is outstanding for a worker that has returned. -/
theorem settled_of_returned {gstreamer : State τ} {request : Request}
    (outstanding : Outstanding gstreamer) (known : Known gstreamer request)
    (returned : gstreamer.worker = .returned) : request ≠ .outstanding := by
  rintro rfl
  rcases outstanding.returned returned with finished | ⟨_, unconnected⟩
  · cases known.answered.mp finished
  · have connecting := known.issued.mpr (by simp)
    rw [unconnected] at connecting
    cases connecting

theorem ReturnsSafely.append (safe : ReturnsSafely trace)
    (closed : .gstreamer .returned ∈ trace → .gstreamer .requested ∉ events)
    (fresh : ∀ middle rest, events = middle ++ .gstreamer .returned :: rest →
      (.gstreamer .responded ∈ trace ++ middle ∨
        .gstreamer .requested ∉ trace ++ middle) ∧
        .gstreamer .requested ∉ rest) :
    ReturnsSafely (trace ++ events) := by
  intro before after split
  rcases List.append_eq_append_iff.mp split with
    ⟨middle, rfl, inside⟩ | ⟨rest, inside, tail⟩
  · exact fresh middle after inside
  · cases rest with
    | nil =>
        have now := fresh [] after (by simpa using tail.symm)
        rw [List.append_nil] at inside now
        rw [inside] at now
        exact now
    | cons event rest =>
        obtain ⟨rfl, later⟩ := List.cons_eq_cons.mp tail
        obtain ⟨ended, quiet⟩ := safe before rest inside
        have joined : after = rest ++ events := later
        refine ⟨ended, ?_⟩
        rw [joined, List.mem_append, not_or]
        exact ⟨quiet, closed (by rw [inside]; simp)⟩

theorem Answered.quiet {object : Object τ} {request : Request}
    (holds : Answered trace object request)
    (called : ∀ event, .gstreamer event ∉ events)
    (sound : ∀ user, .lifetime (.dangling user) ∉ events) :
    Answered (trace ++ events) object request := by
  have earlier : ∀ event, .gstreamer event ∈ trace ++ events →
      .gstreamer event ∈ trace := by
    intro event member
    rcases List.mem_append.mp member with before | now
    · exact before
    · exact (called event now).elim
  refine ⟨holds.outstanding, holds.known, holds.absent, holds.deleted,
    fun member => holds.issued (earlier _ member),
    fun here => List.mem_append_left _ (holds.answered here),
    fun member => holds.returned (earlier _ member), ?_, ?_⟩
  · apply holds.safe.append (fun _ => called _)
    intro middle rest split
    exact (called .returned (by rw [split]; simp)).elim
  · intro user member
    rcases List.mem_append.mp member with before | now
    · exact holds.sound user before
    · exact sound user now

theorem Answered.call {gstreamer next : State τ} {request : Request}
    {act : Act τ} {made : List (Event τ)}
    (holds : Answered trace (.alive gstreamer) request)
    (unabandoned : act = .connect → gstreamer.worker = .returned →
      gstreamer.finished = true)
    (step : (machine τ config).step gstreamer act = some (next, made)) :
    Answered (trace ++ made.map (.gstreamer)) (.alive next)
      (made.foldl Request.see request) := by
  have outstanding := (holds.outstanding _ rfl).step unabandoned step
  have taken := exchange_of_step step
  have known := (holds.known _ rfl).exchange taken
  have past : .gstreamer .returned ∈ trace →
      gstreamer.worker = .returned := by
    intro member
    rcases holds.returned member with deleted | ⟨_, alive, returned⟩
    · cases deleted
    · cases alive
      exact returned
  have settled : .gstreamer .returned ∈ trace →
      made.foldl Request.see request ≠ .outstanding := fun member =>
    settled_of_returned outstanding known
      (returned_of_step step (past member))
  have mapped : ∀ event, .gstreamer event ∈
      (made.map .gstreamer : List (SessionEvent κ τ)) → event ∈ made := by
    intro event member
    simpa using member
  refine ⟨?_, ?_, by simp, by simp, ?_, ?_, ?_, ?_, ?_⟩
  · intro _ alive
    cases alive
    exact outstanding
  · intro _ alive
    cases alive
    exact known
  · intro member
    rcases List.mem_append.mp member with before | now
    · exact taken.see.1 (holds.issued before)
    · rw [taken.requested (mapped _ now)]
      simp [Request.see]
  · intro responded
    rcases taken.see.2 responded with before | now
    · exact List.mem_append_left _ (holds.answered before)
    · exact List.mem_append_right _ (List.mem_map_of_mem now)
  · intro member
    refine .inr ⟨next, rfl, ?_⟩
    rcases List.mem_append.mp member with before | now
    · exact returned_of_step step (past before)
    · exact (taken.returned (mapped _ now)).2
  · apply holds.safe.append
    · intro before now
      have outstanding := settled before
      rw [taken.requested (mapped _ now)] at outstanding
      exact outstanding rfl
    · intro middle rest split
      have member : .returned ∈ made := mapped _ (by rw [split]; simp)
      obtain ⟨only, returned⟩ := taken.returned member
      rw [only] at split known
      have ended := settled_of_returned outstanding known returned
      obtain ⟨rfl, rfl⟩ : middle = [] ∧ rest = [] := by
        cases middle with
        | nil => simpa using split
        | cons event middle => simp at split
      refine ⟨?_, by simp⟩
      rw [List.append_nil]
      cases request with
      | notIssued => exact .inr fun member => holds.issued member rfl
      | outstanding => exact (ended rfl).elim
      | responded => exact .inl (holds.answered rfl)
  · intro user member
    rcases List.mem_append.mp member with before | now
    · exact holds.sound user before
    · simp at now

theorem outstanding_of_contract {act : Act τ}
    (allowed : sdkContract s (.sdk act) = true) :
    s.request = .outstanding := by
  cases act with
  | onResponse => exact of_decide_eq_true (Bool.and_eq_true_iff.mp allowed).1
  | _ => exact of_decide_eq_true allowed

theorem Answered.construct (holds : Answered trace .absent .notIssued) :
    Answered (trace ++ [.lifetime .created]) (.alive (State.fresh τ config))
      .notIssued := by
  have quiet : Answered (trace ++ [.lifetime .created]) .absent .notIssued :=
    holds.quiet (by simp) (by simp)
  refine ⟨?_, ?_, by simp, by simp, quiet.issued, quiet.answered, ?_,
    quiet.safe, quiet.sound⟩
  · intro _ alive
    cases alive
    exact outstanding_fresh
  · intro _ alive
    cases alive
    constructor <;> simp [State.fresh]
  · intro member
    rcases quiet.returned member with deleted | ⟨_, alive, _⟩
    · cases deleted
    · cases alive

theorem Answered.delete {gstreamer : State τ} {request : Request}
    (holds : Answered trace (.alive gstreamer) request)
    (returned : gstreamer.worker = .returned) :
    Answered (trace ++ [.lifetime .deleted]) .deleted request := by
  have quiet : Answered (trace ++ [.lifetime .deleted]) (.alive gstreamer)
      request := holds.quiet (by simp) (by simp)
  exact ⟨by simp, by simp, by simp,
    fun _ => settled_of_returned (holds.outstanding _ rfl) (holds.known _ rfl)
      returned,
    quiet.issued, quiet.answered, fun _ => .inl rfl, quiet.safe, quiet.sound⟩

theorem Answered.tear (holds : Answered trace s.gstreamer s.request)
    (placed : Placed s) {stage stage' : Teardown}
    (here : tearing s.owner = some stage)
    (step : TeardownStep config s stage s' stage' events) :
    Answered (trace ++ events) s'.gstreamer s'.request := by
  cases step with
  | finish call =>
      obtain ⟨gstreamer, alive⟩ := placed.finishing here
      obtain ⟨next, made, taken, rfl, rfl⟩ := invoke_alive alive call
      rw [alive] at holds
      exact holds.call (by simp) taken
  | @delete gstreamer shown alive =>
      have exited := placed.exited here rfl (by simp [alive])
      have pointed := placed.pointed
      rw [alive, shown, exited] at pointed
      have returned : gstreamer.worker = .returned := by
        simpa [Pointed] using pointed
      rw [alive] at holds
      exact holds.delete returned
  | deleteGone shown gone =>
      obtain ⟨gstreamer, alive⟩ := placed.alive shown (by simp [here])
      exact (gone gstreamer alive).elim
  | _ => exact holds.quiet (by simp) (by simp)

theorem Answered.step (holds : Answered trace s.gstreamer s.request)
    (placed : Placed s) (claimed : Claimed s) {act : SessionAct κ τ}
    (allowed : sdkContract s act = true)
    (step : (session κ τ config).step s act = some (s', events)) :
    Answered (trace ++ events) s'.gstreamer s'.request := by
  cases sessionStep_cases step with
  | tear here taken =>
      have torn := holds.tear placed here taken
      exact torn
  | frameCall owner made call =>
      obtain ⟨gstreamer, alive⟩ := placed.looping owner
      obtain ⟨next, made', taken, rfl, rfl⟩ := invoke_alive alive call
      have unrequested := claimed.unrequested placed owner
      have unstopped := claimed.stopped gstreamer alive
      rw [alive] at holds
      refine holds.call (fun _ returned => ?_) taken
      -- the media thread has the mutex, so no stop has told it to finish
      rcases (holds.outstanding _ rfl).returned returned with
        finished | ⟨finishing, _⟩
      · exact finished
      · rw [unstopped finishing] at unrequested
        cases unrequested
  | construct worker =>
      have pointed := placed.pointed
      rw [worker] at pointed
      have unissued := holds.absent pointed.entered.1
      rw [pointed.entered.1, unissued] at holds
      rw [unissued]
      exact holds.construct
  | connect worker call =>
      obtain ⟨gstreamer, alive⟩ := placed.running (by rw [worker]; rfl)
      obtain ⟨next, made, taken, rfl, rfl⟩ := invoke_alive alive call
      have pointed := placed.pointed
      rw [worker, alive] at pointed
      rw [alive] at holds
      refine holds.call (fun _ returned => ?_) taken
      rw [pointed.constructed.2] at returned
      cases returned
  | finish worker call =>
      obtain ⟨gstreamer, alive⟩ := placed.running (by rw [worker]; rfl)
      obtain ⟨next, made, taken, rfl, rfl⟩ := invoke_alive alive call
      rw [alive] at holds
      exact holds.call (by simp) taken
  | work worker made call =>
      obtain ⟨gstreamer, alive⟩ := placed.running (by rw [worker]; rfl)
      obtain ⟨next, made', taken, rfl, rfl⟩ := invoke_alive alive call
      rw [alive] at holds
      refine holds.call ?_ taken
      rcases made with rfl | rfl <;> simp
  | callback issued made call =>
      have outstanding := outstanding_of_contract allowed
      have alive : ∃ gstreamer, s.gstreamer = .alive gstreamer := by
        cases object : s.gstreamer with
        | alive gstreamer => exact ⟨gstreamer, rfl⟩
        | absent => exact (issued (holds.absent object)).elim
        | deleted => exact (holds.deleted object outstanding).elim
      obtain ⟨gstreamer, alive⟩ := alive
      obtain ⟨next, made', taken, rfl, rfl⟩ := invoke_alive alive call
      rw [alive] at holds
      refine holds.call ?_ taken
      rintro rfl
      cases made
  | _ => exact holds.quiet (by simp) (by simp)

/-- Under the SDK's contract, in every interleaving of the module: the worker of
a session returns after the final response or where no request was issued, none
is issued from then on, and nobody uses its GStreamer once it is deleted. -/
theorem worker_returns_safely [DecidableEq κ] (config : Config)
    {labels : List (Family.Act (SessionAct κ τ) (ModuleAct κ))}
    {trace : List (Family.Event (SessionEvent κ τ) ModuleEvent)}
    {s : Family.State (Module κ) (CapCb κ τ)}
    (run : (sessions κ τ config).machine.Run (Family.onParts sdkContract)
      (sessions κ τ config).machine.initial labels trace s) (n : Nat) :
    ReturnsSafely (trace.filterMap (Family.Event.of n)) ∧
      ∀ user, .part n (.lifetime (.dangling user)) ∉ trace := by
  have part : (session κ τ config).Run sdkContract _ _ _ (s.parts n) :=
    Family.run_part run (fun _ _ _ allowed => allowed) n
  obtain ⟨_, _, _, answered⟩ := part.induct
    (fun trace state => Placed state ∧ Heeded state ∧ Claimed state ∧
      Answered trace state.gstreamer state.request)
    ⟨placed_fresh, heeded_fresh, claimed_fresh, answered_fresh⟩
    fun ⟨placed, heeded, claimed, answered⟩ allowed step =>
      ⟨placed.step step, heeded.step placed step,
        claimed.step placed heeded step,
        answered.step placed claimed allowed step⟩
  refine ⟨answered.safe, fun user member => ?_⟩
  exact answered.sound user (Family.mem_of_part.mpr member)

/-- A stop comes while the connect that speech has set off is in flight: the
worker goes on until the final response. -/
theorem worker_returns_safely_of_late_connect :
    ∃ labels trace s,
      (sessions Nat Nat ⟨4, 2⟩).machine.Run (Family.onParts sdkContract)
        (sessions Nat Nat ⟨4, 2⟩).machine.initial labels trace s ∧
      (s.parts 0).gstreamer = .deleted ∧
      .gstreamer .returned ∈ trace.filterMap (Family.Event.of 0) ∧
      ReturnsSafely (trace.filterMap (Family.Event.of 0)) ∧
      ∀ user, .part 0 (.lifetime (.dangling user)) ∉ trace := by
  have executed : ((sessions Nat Nat ⟨4, 2⟩).machine.exec
      (Family.onParts sdkContract) (sessions Nat Nat ⟨4, 2⟩).machine.initial
      (List.flatten [startsSession 0 7 true,
        [.part 0 (.thread true), .part 0 (.thread true),
          .part 0 (.thread true), .part 0 (.thread true),
          .part 0 (.frame .lock), .part 0 (.frame .load),
          .part 0 (.frame .connect), .part 0 (.frame .unlock)],
        stopsSession 0 0 7,
        [.part 0 (.stop true), .part 0 (.stop true), .part 0 (.stop true),
          .part 0 (.thread true), .part 0 (.thread true),
          .part 0 (.thread true), .part 0 (.sdk .onResponse),
          .part 0 (.thread true), .part 0 (.thread true),
          .part 0 (.thread true), .part 0 (.stop true),
          .part 0 (.stop true)]])).map
      (fun outcome => decide
        ((outcome.1.parts 0).gstreamer = .deleted ∧
          .gstreamer .returned ∈
            outcome.2.filterMap (Family.Event.of 0))) = some true := by
    decide
  obtain ⟨s, trace, run, observed⟩ := Machine.exists_run_of_exec _ executed
  obtain ⟨deleted, returned⟩ := of_decide_eq_true observed
  obtain ⟨safe, sound⟩ := worker_returns_safely ⟨4, 2⟩ run 0
  exact ⟨_, trace, s, run, deleted, returned, safe, sound⟩

end DrachtioModules.Aws

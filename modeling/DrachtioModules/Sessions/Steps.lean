import DrachtioModules.Sessions.Model

/-!
# The branches of every step

What each step function can do, branch by branch, with what the branch has
tested: an invariant is proved by going through the branches and need not look
into the step functions again.
-/

namespace DrachtioModules.Sessions

open Deepgram (CJson)

/-- The branches of `start_capture` by the stage they are taken at. -/
inductive StartStep (s : State) (n : Nat) :
    Module → StartStage → State → List Event → Prop where
  | refuse (occupied : s.control.slot.isSome = true) :
      StartStep s n .audioFork .entered
        { s with control := s.control.setStart n (.returned false) } []
  | replace (occupied : s.control.slot.isSome = true) :
      StartStep s n .deepgram .entered
        { s with
          control := (s.control.call (.start n) none .asked).setStart n
            .replacing } []
  | enter {module : Module} (empty : s.control.slot = none) :
      StartStep s n module .entered
        { s with control := s.control.setStart n .initializing } []
  | replaced {module : Module}
      (done : (s.control.cleanups (.start n)).stage = .returned) :
      StartStep s n module .replacing
        { s with control := s.control.setStart n .initializing } []
  | decline {module : Module} :
      StartStep s n module .initializing
        { s with control := s.control.setStart n (.returned false) } []
  | fail {module : Module} :
      StartStep s n module .initializing
        { s with control := s.control.setStart n (.returned false) }
        [.created n, .deleted n]
  | construct {module : Module} :
      StartStep s n module .initializing
        { s with
          control := (s.control.setTechPvt n
            { s.control.techPvts n with audioPipe := true }).setStart n
              .constructed }
        [.created n]
  | activate :
      StartStep s n .audioFork .constructed
        { s with
          control := s.control.setStart n .adding
          activePipes := s.activePipes + 1 }
        [.activated n]
  | dial :
      StartStep s n .deepgram .constructed
        ({ s with control := s.control.setStart n .counting }.setPipe n
          { s.pipes n with connection := .pending })
        [.connected n]
  | count {module : Module} :
      StartStep s n module .counting
        { s with
          control := s.control.setStart n .adding
          activePipes := s.activePipes + 1 }
        [.activated n]
  | attach {module : Module} :
      StartStep s n module .adding
        { s with
          control := { s.control with
            bugs := n :: s.control.bugs }.setStart n .attached } []
  | orphan {module : Module} :
      StartStep s n module .adding
        { s with control := s.control.setStart n .orphaned } []
  | abandon (present : (s.control.techPvts n).audioPipe = true) :
      StartStep s n .audioFork .orphaned
        { s with
          control := (s.control.setTechPvt n
            { s.control.techPvts n with audioPipe := false }).setStart n
              .releasing }
        [.deleted n]
  | abandonNull (absent : (s.control.techPvts n).audioPipe = false) :
      StartStep s n .audioFork .orphaned
        { s with
          control := (s.control.setTechPvt n
            { s.control.techPvts n with audioPipe := false }).setStart n
              .releasing } []
  | hand (present : (s.control.techPvts n).audioPipe = true) :
      StartStep s n .deepgram .orphaned
        ({ s with
          control := (s.control.setTechPvt n
            { s.control.techPvts n with audioPipe := false }).setStart n
              (.returned false) }.setPipe n
          { s.pipes n with reaper := .spawned })
        [.handed n]
  | handNull (absent : (s.control.techPvts n).audioPipe = false) :
      StartStep s n .deepgram .orphaned
        { s with control := s.control.setStart n .releasing } []
  | release {module : Module} :
      StartStep s n module .releasing
        { s with
          control := s.control.setStart n (.returned false)
          activePipes := s.activePipes - 1 }
        [.released n]
  | publish :
      StartStep s n .audioFork .attached
        { s with
          control := { s.control with slot := some n }.setStart n .published }
        [.published n]
  | store :
      StartStep s n .deepgram .attached
        { s with
          control := { s.control with slot := some n }.setStart n
            (.returned true) }
        [.published n]
  | reach {module : Module}
      (present : (s.control.techPvts n).audioPipe = true) :
      StartStep s n module .published
        { s with control := s.control.setStart n .connecting } []
  | reachNull {module : Module}
      (absent : (s.control.techPvts n).audioPipe = false) :
      StartStep s n module .published
        { s with control := s.control.setStart n (.returned true) }
        [.connectedNull n]
  | connect {module : Module} :
      StartStep s n module .connecting
        ({ s with control := s.control.setStart n (.returned true) }.setPipe n
          { s.pipes n with connection := .pending })
        [.connected n]

theorem stepStart_cases {module : Module} {s s' : State} {n : Nat} {init : Init}
    {ok : Bool} {events : List Event}
    (step : stepStart module s n init ok = some (s', events)) :
    ∃ stage, s.control.starts n = stage ∧
      StartStep s n module stage s' events := by
  refine ⟨s.control.starts n, rfl, ?_⟩
  unfold stepStart at step
  cases stage : s.control.starts n with
  | notCalled | returned success => simp [stage] at step
  | entered =>
      simp only [stage] at step
      split at step
      · rename_i occupied
        cases module <;> cases step
        · exact .refuse occupied
        · exact .replace occupied
      · rename_i empty
        cases step
        exact .enter (by simpa using empty)
  | replacing =>
      simp only [stage] at step
      split at step
      · rename_i done
        cases step
        exact .replaced done
      · cases step
  | initializing =>
      simp only [stage] at step
      cases init <;> cases step
      · exact .decline
      · exact .fail
      · exact .construct
  | constructed =>
      simp only [stage] at step
      cases module <;> cases step
      · exact .activate
      · exact .dial
  | counting =>
      simp only [stage] at step
      cases step
      exact .count
  | adding =>
      simp only [stage] at step
      split at step <;> cases step
      · exact .attach
      · exact .orphan
  | orphaned =>
      simp only [stage, cleanupUnattached] at step
      cases present : (s.control.techPvts n).audioPipe <;>
        cases module <;> simp only [present] at step <;> cases step
      · exact .abandonNull present
      · exact .handNull present
      · exact .abandon present
      · exact .hand present
  | releasing =>
      simp only [stage] at step
      cases step
      exact .release
  | attached =>
      simp only [stage] at step
      cases module <;> cases step
      · exact .publish
      · exact .store
  | published =>
      simp only [stage] at step
      split at step
      · rename_i present
        cases step
        exact .reach present
      · rename_i absent
        cases step
        exact .reachNull (by simpa using absent)
  | connecting =>
      simp only [stage] at step
      cases step
      exact .connect

/-- The branches of `fork_session_cleanup` and `dg_transcribe_session_stop`. -/
inductive CleanupStep (s : State) (caller : Caller) :
    Module → CleanupStage → State → List Event → Prop where
  | stop {module : Module} (occupied : s.control.slot.isSome = true) :
      CleanupStep s caller module .asked
        { s with control := s.control.setCleanup caller .entered } []
  | spare {module : Module} (empty : s.control.slot = none) :
      CleanupStep s caller module .asked
        { s with control := s.control.setCleanup caller .returned } []
  | miss {module : Module} (empty : s.control.slot = none) :
      CleanupStep s caller module .entered
        { s with control := s.control.setCleanup caller .returned } []
  | resolve {module : Module} {bug : Nat} (slot : s.control.slot = some bug) :
      CleanupStep s caller module .entered
        { s with control := s.control.setCleanup caller (.resolved bug) } []
  | lock {module : Module} {bug : Nat}
      (free : (s.control.techPvts bug).mutex = none) :
      CleanupStep s caller module (.resolved bug)
        { s with
          control := (s.control.setTechPvt bug
            { s.control.techPvts bug with mutex := some caller }).setCleanup
              caller (.locked bug) } []
  | yields {module : Module} {bug : Nat}
      (stale : recheck module s.control.slot bug = none) :
      CleanupStep s caller module (.locked bug)
        { s with
          control := (s.control.setTechPvt bug
            { s.control.techPvts bug with mutex := none }).setCleanup caller
              .returned } []
  | verify {module : Module} {bug held : Nat}
      (passed : recheck module s.control.slot bug = some held) :
      CleanupStep s caller module (.locked bug)
        { s with control := s.control.setCleanup caller (.verified bug held) }
        []
  | clear {module : Module} {bug held : Nat} :
      CleanupStep s caller module (.verified bug held)
        { s with
          control := { s.control with slot := none }.setCleanup caller
            (.cleared bug held) }
        [.cleared caller bug s.control.slot]
  | send {module : Module} {bug held : Nat} {text : AudioFork.Bytes}
      (asked : (s.control.cleanups caller).text = some text)
      (present : (s.control.techPvts bug).audioPipe = true) :
      CleanupStep s caller module (.cleared bug held)
        { s with control := s.control.setCleanup caller (.handing bug held) }
        [.finalText caller bug bug text]
  | sendNothing {module : Module} {bug held : Nat} :
      CleanupStep s caller module (.cleared bug held)
        { s with control := s.control.setCleanup caller (.handing bug held) } []
  | hand {module : Module} {bug held : Nat}
      (present : (s.control.techPvts bug).audioPipe = true) :
      CleanupStep s caller module (.handing bug held)
        ({ s with
          control := (s.control.setTechPvt bug
            { s.control.techPvts bug with audioPipe := false }).setCleanup
              caller (.destroying bug held) }.setPipe bug
          { s.pipes bug with reaper := .spawned })
        [.tornDown caller bug bug, .handed bug]
  | handNull {module : Module} {bug held : Nat}
      (absent : (s.control.techPvts bug).audioPipe = false) :
      CleanupStep s caller module (.handing bug held)
        { s with
          control := s.control.setCleanup caller (.destroying bug held) } []
  | destroy {module : Module} {bug held : Nat}
      (present : (s.control.techPvts bug).audioPipe = true) :
      CleanupStep s caller module (.destroying bug held)
        { s with
          control := (s.control.setTechPvt bug
            { s.control.techPvts bug with
              audioPipe := false, mutex := none }).setCleanup caller
              (.unlocked bug held) }
        [.deleted bug]
  | destroyNull {module : Module} {bug held : Nat}
      (absent : (s.control.techPvts bug).audioPipe = false) :
      CleanupStep s caller module (.destroying bug held)
        { s with
          control := (s.control.setTechPvt bug
            { s.control.techPvts bug with
              audioPipe := false, mutex := none }).setCleanup caller
              (.unlocked bug held) } []
  | close {module : Module} {bug held : Nat} (closing : caller.closing = true) :
      CleanupStep s caller module (.unlocked bug held)
        { s with control := s.control.setCleanup caller .returned } []
  | remove {module : Module} {bug held : Nat}
      (outside : caller.closing = false) (attached : held ∈ s.control.bugs) :
      CleanupStep s caller module (.unlocked bug held)
        { s with
          control := (s.control.detach held).setCleanup caller (.removing held) }
        [.removed caller bug held]
  | removeNothing {module : Module} {bug held : Nat}
      (outside : caller.closing = false) (detached : held ∉ s.control.bugs) :
      CleanupStep s caller module (.unlocked bug held)
        { s with control := s.control.setCleanup caller .returned }
        [.removed caller bug held]
  | removed {module : Module} {held : Nat}
      (closed : (s.control.cleanups (.close held)).stage = .returned) :
      CleanupStep s caller module (.removing held)
        { s with control := s.control.setCleanup caller .returned } []

theorem stepCleanup_cases {module : Module} {s s' : State} {caller : Caller}
    {events : List Event}
    (step : stepCleanup module s caller = some (s', events)) :
    ∃ stage, (s.control.cleanups caller).stage = stage ∧
      CleanupStep s caller module stage s' events := by
  refine ⟨(s.control.cleanups caller).stage, rfl, ?_⟩
  unfold stepCleanup at step
  cases stage : (s.control.cleanups caller).stage with
  | notCalled | returned => simp [stage] at step
  | asked =>
      simp only [stage] at step
      split at step
      · rename_i occupied
        cases step
        exact .stop occupied
      · rename_i empty
        cases step
        exact .spare (by simpa using empty)
  | entered =>
      simp only [stage] at step
      split at step
      · rename_i empty
        cases step
        exact .miss empty
      · rename_i bug slot
        cases step
        exact .resolve slot
  | resolved bug =>
      simp only [stage] at step
      split at step
      · rename_i free
        cases step
        exact .lock free
      · cases step
  | locked bug =>
      simp only [stage] at step
      split at step
      · rename_i stale
        cases step
        exact .yields stale
      · rename_i held passed
        cases step
        exact .verify passed
  | verified bug held =>
      simp only [stage] at step
      cases step
      exact .clear
  | cleared bug held =>
      simp only [stage] at step
      cases step
      split
      · rename_i text asked
        split
        · rename_i present
          exact .send asked present
        · exact .sendNothing
      · exact .sendNothing
  | handing bug held =>
      simp only [stage] at step
      split at step
      · rename_i present
        cases step
        exact .hand present
      · rename_i absent
        cases step
        exact .handNull (by simpa using absent)
  | destroying bug held =>
      simp only [stage] at step
      cases present : (s.control.techPvts bug).audioPipe <;>
        simp only [present] at step <;> cases step
      · exact .destroyNull present
      · exact .destroy present
  | unlocked bug held =>
      simp only [stage] at step
      split at step
      · rename_i closing
        cases step
        exact .close closing
      · rename_i outside
        have outside : caller.closing = false := by simpa using outside
        split at step
        · rename_i attached
          cases step
          exact .remove outside attached
        · rename_i detached
          cases step
          exact .removeNothing outside detached
  | removing held =>
      simp only [stage] at step
      split at step
      · rename_i closed
        cases step
        exact .removed closed
      · cases step

inductive ReaperStep (s : State) (n : Nat) (module : Module) :
    Reaper → State → List Event → Prop where
  | finish :
      ReaperStep s n module .spawned (s.setPipe n (reap module (s.pipes n)))
        [.finish n]
  | delete (closed : (s.pipes n).connection = .closed) :
      ReaperStep s n module .waiting
        (s.setPipe n { s.pipes n with reaper := .deleted }) []
  | release :
      ReaperStep s n module .deleted
        ({ s with activePipes := s.activePipes - 1 }.setPipe n
          { s.pipes n with reaper := .done })
        [.released n]

theorem stepReaper_cases {module : Module} {s s' : State} {n : Nat}
    {events : List Event} (step : stepReaper module s n = some (s', events)) :
    ∃ stage, (s.pipes n).reaper = stage ∧
      ReaperStep s n module stage s' events := by
  refine ⟨(s.pipes n).reaper, rfl, ?_⟩
  unfold stepReaper at step
  cases stage : (s.pipes n).reaper with
  | none | done => simp [stage] at step
  | spawned =>
      simp only [stage] at step
      cases step
      exact .finish
  | waiting =>
      simp only [stage] at step
      split at step
      · rename_i closed
        cases step
        exact .delete closed
      · cases step
  | deleted =>
      simp only [stage] at step
      cases step
      exact .release

/-- The callbacks of lws; each finds the pipe between two notifications. -/
inductive LwsStep (s : State) (n : Nat) : Lws → State → List Event → Prop where
  | established (pending : (s.pipes n).connection = .pending) :
      LwsStep s n .established
        (s.setPipe n { s.pipes n with
          connection := .established
          finished := (s.pipes n).finished || (s.pipes n).gracefulShutdown
          notice := .raised .connectSuccess
            ((s.pipes n).finished || (s.pipes n).gracefulShutdown) }) []
  | connectionError (pending : (s.pipes n).connection = .pending) :
      LwsStep s n .connectionError
        (s.setPipe n { s.pipes n with
          connection := .leaving
          notice := .raised .connectFail (s.pipes n).finished }) []
  | receive {text : AudioFork.Bytes}
      (established : (s.pipes n).connection = .established) :
      LwsStep s n (.receive text)
        (s.setPipe n { s.pipes n with
          notice := .raised (.message text) (s.pipes n).finished })
        [.arrived n text]
  | closed {byUs : Bool}
      (established : (s.pipes n).connection = .established) :
      LwsStep s n (.closed byUs)
        (s.setPipe n { s.pipes n with
          connection := .leaving
          notice := .raised
            (if byUs then .connectionClosedGracefully else .connectionDropped)
            (s.pipes n).finished }) []

theorem stepLws_cases {s s' : State} {n : Nat} {report : Lws}
    {events : List Event} (step : stepLws s n report = some (s', events)) :
    (s.pipes n).notice = .idle ∧ LwsStep s n report s' events := by
  unfold stepLws at step
  dsimp only at step
  split at step
  · rename_i idle
    refine ⟨idle, ?_⟩
    cases report <;> dsimp only at step <;> split at step <;> cases step <;>
      rename_i connection
    · exact .established connection
    · exact .connectionError connection
    · exact .receive connection
    · exact .closed connection
  · cases step

/-- The branches of `eventCallback` and of the return from it. -/
inductive NoticeStep (config : Config) (s : State) (n : Nat) :
    Notice → State → List Event → Prop where
  | find {event : AudioFork.NotifyEvent} {finished : Bool} {bug : Nat}
      (slot : s.control.slot = some bug) :
      NoticeStep config s n (.raised event finished)
        (s.setPipe n { s.pipes n with notice := .found event finished bug }) []
  | lose {event : AudioFork.NotifyEvent} {finished : Bool} :
      NoticeStep config s n (.raised event finished)
        (s.setPipe n { s.pipes n with notice := .returning }) []
  | handle {event : AudioFork.NotifyEvent} {finished : Bool} {bug : Nat}
      (acts : actsOn config event = true) :
      NoticeStep config s n (.found event finished bug)
        (s.setPipe n { s.pipes n with
          notice := afterEvent config.module event bug })
        [.handled n bug event finished]
  | ignore {event : AudioFork.NotifyEvent} {finished : Bool} {bug : Nat}
      (idles : actsOn config event = false) :
      NoticeStep config s n (.found event finished bug)
        (s.setPipe n { s.pipes n with
          notice := afterEvent config.module event bug }) []
  | send {bug : Nat}
      (given : (s.control.techPvts bug).initialMetadata ≠ [])
      (present : (s.control.techPvts bug).audioPipe = true) :
      NoticeStep config s n (.metadata bug)
        (s.setPipe n { s.pipes n with notice := .returning })
        [.metadataSent n bug (s.control.techPvts bug).initialMetadata]
  | sendNothing {bug : Nat} :
      NoticeStep config s n (.metadata bug)
        (s.setPipe n { s.pipes n with notice := .returning }) []
  | close (leaving : (s.pipes n).connection = .leaving) :
      NoticeStep config s n .returning
        (s.setPipe n
          { s.pipes n with connection := .closed, notice := .idle })
        [.closed n]
  | back (staying : (s.pipes n).connection ≠ .leaving) :
      NoticeStep config s n .returning
        (s.setPipe n { s.pipes n with notice := .idle }) []

theorem stepNotice_cases {config : Config} {s s' : State} {n : Nat}
    {located : Bool} {events : List Event}
    (step : stepNotice config s n located = some (s', events)) :
    ∃ notice, (s.pipes n).notice = notice ∧
      NoticeStep config s n notice s' events := by
  refine ⟨(s.pipes n).notice, rfl, ?_⟩
  unfold stepNotice at step
  cases notice : (s.pipes n).notice with
  | idle => simp [notice] at step
  | raised event finished =>
      simp only [notice] at step
      split at step
      · rename_i bug slot
        cases step
        exact .find slot
      · cases step
        exact .lose
  | found event finished bug =>
      simp only [notice] at step
      cases acts : actsOn config event <;> simp only [acts] at step <;>
        cases step
      · exact .ignore acts
      · exact .handle acts
  | metadata bug =>
      simp only [notice] at step
      split at step
      · cases step
      · cases step
        split
        · rename_i sends
          exact .send sends.1 sends.2
        · exact .sendNothing
  | returning =>
      simp only [notice] at step
      split at step
      · rename_i leaving
        cases step
        exact .close leaving
      · rename_i staying
        cases step
        exact .back staying

theorem afterEvent_cases (module : Module) (event : AudioFork.NotifyEvent)
    (bug : Nat) :
    event = .connectSuccess ∧ afterEvent module event bug = .metadata bug ∨
      afterEvent module event bug = .returning := by
  cases module with
  | deepgram => exact .inr rfl
  | audioFork =>
      cases event with
      | connectSuccess => exact .inl ⟨rfl, rfl⟩
      | _ => exact .inr rfl

end DrachtioModules.Sessions

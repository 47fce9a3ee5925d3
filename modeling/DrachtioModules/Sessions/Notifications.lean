import DrachtioModules.Sessions.Isolation

/-!
# Which session a notification reaches

`eventCallback` knows the session and the bugname of the pipe that raised a
notification, not the pipe: it acts on whatever bug the channel private names
when it gets there.  A stopped pipe goes on raising notifications until its
connection is closed, and a new start may have stored its own bug by then.

Where a notification arrives only while the channel private is empty or names
the bug of its pipe, and no start stores its bug while the notification of
another pipe is on its way to the channel private, each is acted on for the
start that created its pipe.
-/

namespace DrachtioModules.Sessions

open AudioFork (NotifyEvent)

/-- The notification a callback of lws raises. -/
def Lws.raises : Lws → NotifyEvent
  | .established => .connectSuccess
  | .connectionError => .connectFail
  | .receive text => .message text
  | .closed byUs =>
      if byUs then .connectionClosedGracefully else .connectionDropped

/-- `eventCallback` is going to act on the event, and has not read the channel
private yet. -/
def Notice.unrouted (config : Config) : Notice → Bool
  | .raised event _ => actsOn config event
  | _ => false

def routes (config : Config) (s : State) : Act → Bool
  | .start n _ _ =>
      s.control.starts n != .attached ||
        (List.range s.control.idxCallCount).all fun m =>
          m == n || !(s.pipes m).notice.unrouted config
  | .lws n report =>
      !actsOn config report.raises || s.control.slot = none ||
        s.control.slot = some n
  | _ => true

/-- A notification is acted on for the start that created its pipe. -/
def Event.own : Event → Bool
  | .handled n bug _ _ | .metadataSent n bug _ => n = bug
  | _ => true

/-- The steps of `eventCallback` an observer sees. -/
def Event.ofNotice : Event → Bool
  | .handled .. | .metadataSent .. => true
  | _ => false

/-- The notifications of pipe `n` put initial metadata on a pipe. -/
def Event.sentBy (n : Nat) : Event → Bool
  | .metadataSent m _ _ => m = n
  | _ => false

/-- The initial metadata of a session is put on its pipe. -/
def Event.sentTo (bug : Nat) : Event → Bool
  | .metadataSent _ b _ => b = bug
  | _ => false

theorem Event.own_of_silent {event : Event} (silent : event.ofNotice = false) :
    event.own = true := by
  cases event <;> first | rfl | cases silent

theorem Event.unsent_of_silent {event : Event} {n : Nat}
    (silent : event.ofNotice = false) : event.sentBy n = false := by
  cases event <;> first | rfl | cases silent

/-- The start has not called `connect()` yet. -/
def StartStage.preconnect (module : Module) : StartStage → Bool
  | .notCalled | .entered | .replacing | .initializing | .constructed
  | .published | .connecting => true
  | .counting | .adding | .orphaned | .releasing | .attached =>
      module = .audioFork
  | .returned _ => false

/-- No callback of lws has been made on the connection yet. -/
def Connection.unopened : Connection → Bool
  | .unconnected | .pending => true
  | .established | .leaving | .closed => false

structure Dialled (module : Module) (s : State) : Prop where
  unconnected : ∀ n, (s.control.starts n).preconnect module = true →
    (s.pipes n).connection = .unconnected
  quiet : ∀ n, (s.pipes n).connection.unopened = true →
    (s.pipes n).notice = .idle

theorem dialled_fresh {module : Module} : Dialled module .fresh := by
  constructor <;> simp [State.fresh, Pipe.fresh]

/-- CONNECT_SUCCESS is still to come, or on its way through `eventCallback`. -/
def Pipe.announces (pipe : Pipe) : Bool :=
  pipe.connection.unopened ||
    match pipe.notice with
    | .raised .connectSuccess _ | .found .connectSuccess _ _
    | .metadata _ => true
    | _ => false

/-- A step outside the service thread: it may connect a pipe or end it, but
moves no notification. -/
structure Silent (s s' : State) (events : List Event) : Prop where
  notices : ∀ n, (s'.pipes n).notice = (s.pipes n).notice
  announces : ∀ n, (s'.pipes n).announces = (s.pipes n).announces
  events : ∀ event ∈ events, event.ofNotice = false

theorem Silent.still {s s' : State} {events : List Event}
    (pipes : ∀ n, (s'.pipes n).connection = (s.pipes n).connection ∧
      (s'.pipes n).notice = (s.pipes n).notice)
    (silent : ∀ event ∈ events, event.ofNotice = false) :
    Silent s s' events := by
  refine ⟨fun n => (pipes n).2, ?_, silent⟩
  intro n
  unfold Pipe.announces
  rw [(pipes n).1, (pipes n).2]

theorem Dialled.still {module : Module} {s s' : State}
    (dialled : Dialled module s)
    (starts : ∀ n, (s'.control.starts n).preconnect module = true →
      (s.control.starts n).preconnect module = true)
    (pipes : ∀ n, (s'.pipes n).connection = (s.pipes n).connection ∧
      (s'.pipes n).notice = (s.pipes n).notice) : Dialled module s' := by
  constructor
  · intro n before
    rw [(pipes n).1]
    exact dialled.unconnected n (starts n before)
  · intro n unopened
    rw [(pipes n).1] at unopened
    rw [(pipes n).2]
    exact dialled.quiet n unopened

theorem Dialled.move {module : Module} {s s' : State} {events : List Event}
    {n : Nat} {stage : StartStage} (dialled : Dialled module s)
    (starts : s'.control.starts = Function.update s.control.starts n stage)
    (later : stage.preconnect module = true →
      (s.control.starts n).preconnect module = true)
    (pipes : ∀ m, (s'.pipes m).connection = (s.pipes m).connection ∧
      (s'.pipes m).notice = (s.pipes m).notice)
    (silent : ∀ event ∈ events, event.ofNotice = false) :
    Dialled module s' ∧ Silent s s' events := by
  refine ⟨dialled.still ?_ pipes, Silent.still pipes silent⟩
  intro m before
  rw [starts, Function.update_apply] at before
  split at before
  · rename_i same
    rw [same]
    exact later before
  · exact before

theorem Dialled.connect {module : Module} {s s' : State} {events : List Event}
    {n : Nat} {stage : StartStage} (dialled : Dialled module s)
    (before : (s.control.starts n).preconnect module = true)
    (after : stage.preconnect module = false)
    (starts : s'.control.starts = Function.update s.control.starts n stage)
    (pipes : s'.pipes = Function.update s.pipes n
      { s.pipes n with connection := .pending })
    (silent : ∀ event ∈ events, event.ofNotice = false) :
    Dialled module s' ∧ Silent s s' events := by
  have unconnected := dialled.unconnected n before
  have idle : (s.pipes n).notice = .idle := by
    apply dialled.quiet n
    rw [unconnected]
    rfl
  have elsewhere : ∀ m, m ≠ n → s'.pipes m = s.pipes m := by
    intro m different
    rw [pipes, Function.update_of_ne different]
  have here : s'.pipes n = { s.pipes n with connection := .pending } := by
    rw [pipes, Function.update_self]
  refine ⟨⟨?_, ?_⟩, ⟨?_, ?_, silent⟩⟩
  · intro m stays
    rw [starts, Function.update_apply] at stays
    split at stays
    · rw [after] at stays
      cases stays
    · rename_i different
      rw [elsewhere m different]
      exact dialled.unconnected m stays
  · intro m unopened
    by_cases same : m = n
    · rw [same, here]
      exact idle
    · rw [elsewhere m same] at unopened ⊢
      exact dialled.quiet m unopened
  · intro m
    by_cases same : m = n
    · rw [same, here]
    · rw [elsewhere m same]
  · intro m
    by_cases same : m = n
    · rw [same, here]
      simp [Pipe.announces, Connection.unopened, unconnected]
    · rw [elsewhere m same]

theorem pipes_updated {s s' : State} {n : Nat} {pipe : Pipe}
    (pipes : s'.pipes = Function.update s.pipes n pipe)
    (connection : pipe.connection = (s.pipes n).connection)
    (notice : pipe.notice = (s.pipes n).notice) (m : Nat) :
    (s'.pipes m).connection = (s.pipes m).connection ∧
      (s'.pipes m).notice = (s.pipes m).notice := by
  rw [pipes]
  by_cases same : m = n
  · subst same
    simp [connection, notice]
  · simp [same]

theorem Dialled.start {module : Module} {s s' : State} {n : Nat} {init : Init}
    {ok : Bool} {events : List Event} (dialled : Dialled module s)
    (step : stepStart module s n init ok = some (s', events)) :
    Dialled module s' ∧ Silent s s' events := by
  have same : ∀ m, (s.pipes m).connection = (s.pipes m).connection ∧
      (s.pipes m).notice = (s.pipes m).notice := fun _ => ⟨rfl, rfl⟩
  obtain ⟨_, stage, taken⟩ := stepStart_cases step
  cases taken with
  | dial | connect =>
      exact dialled.connect (by rw [stage]; rfl) rfl rfl rfl
        (by simp [Event.ofNotice])
  | hand =>
      exact dialled.move rfl (by simp [StartStage.preconnect])
        (pipes_updated rfl rfl rfl) (by simp [Event.ofNotice])
  | _ =>
      exact dialled.move rfl (by simp [stage, StartStage.preconnect]) same
        (by simp [Event.ofNotice])

/-- What a cleanup does to the starts, the pipes and the channel private. -/
theorem stepCleanup_effect {module : Module} {s s' : State} {caller : Caller}
    {events : List Event}
    (step : stepCleanup module s caller = some (s', events)) :
    s'.control.starts = s.control.starts ∧
      (s'.control.slot = s.control.slot ∨ s'.control.slot = none) ∧
      (∀ n, (s'.pipes n).connection = (s.pipes n).connection ∧
        (s'.pipes n).notice = (s.pipes n).notice) ∧
      ∀ event ∈ events, event.ofNotice = false := by
  have same : ∀ m, (s.pipes m).connection = (s.pipes m).connection ∧
      (s.pipes m).notice = (s.pipes m).notice := fun _ => ⟨rfl, rfl⟩
  obtain ⟨_, _, taken⟩ := stepCleanup_cases step
  cases taken with
  | clear => exact ⟨rfl, .inr rfl, same, by simp [Event.ofNotice]⟩
  | hand =>
      exact ⟨rfl, .inl rfl, pipes_updated rfl rfl rfl, by simp [Event.ofNotice]⟩
  | _ => exact ⟨rfl, .inl rfl, same, by simp [Event.ofNotice]⟩

theorem stepReaper_effect {module : Module} {s s' : State} {n : Nat}
    {events : List Event} (step : stepReaper module s n = some (s', events)) :
    (∀ m, (s'.pipes m).connection = (s.pipes m).connection ∧
        (s'.pipes m).notice = (s.pipes m).notice) ∧
      ∀ event ∈ events, event.ofNotice = false := by
  obtain ⟨_, _, taken⟩ := stepReaper_cases step
  cases taken with
  | finish =>
      refine ⟨pipes_updated rfl ?_ ?_, by simp [Event.ofNotice]⟩
      · cases module
        · rfl
        · simp only [Sessions.reap]
          split <;> rfl
      · cases module
        · rfl
        · simp only [Sessions.reap]
          split <;> rfl
  | delete | release =>
      exact ⟨pipes_updated rfl rfl rfl, by simp [Event.ofNotice]⟩

/-- The steps of the service thread. -/
def Act.served : Act → Bool
  | .lws .. | .notice .. => true
  | _ => false

theorem Dialled.outside {config : Config} {s s' : State} {act : Act}
    {events : List Event} (dialled : Dialled config.module s)
    (owned : Owned s.control) (outside : act.served = false)
    (step : (machine config).step s act = some (s', events)) :
    Dialled config.module s' ∧ Silent s s' events := by
  have same : ∀ m, (s.pipes m).connection = (s.pipes m).connection ∧
      (s.pipes m).notice = (s.pipes m).notice := fun _ => ⟨rfl, rfl⟩
  simp only [machine, Sessions.step] at step
  cases act with
  | callStart metadata =>
      have absent := owned.uncalled s.control.idxCallCount (Nat.le_refl _)
      cases step
      exact dialled.move rfl (by simp [absent, StartStage.preconnect]) same
        (by simp)
  | start n init ok => exact dialled.start step
  | callStop call text =>
      dsimp only at step
      split at step <;> cases step
      exact ⟨dialled.still (fun _ => id) same, Silent.still same (by simp)⟩
  | hangup bug =>
      dsimp only at step
      split at step <;> cases step
      exact ⟨dialled.still (fun _ => id) same, Silent.still same (by simp)⟩
  | cleanup caller =>
      obtain ⟨starts, _, pipes, silent⟩ := stepCleanup_effect step
      refine ⟨dialled.still ?_ pipes, Silent.still pipes silent⟩
      rw [starts]
      exact fun _ => id
  | reaper n =>
      obtain ⟨control, _⟩ := stepReaper_control step
      obtain ⟨pipes, silent⟩ := stepReaper_effect step
      refine ⟨dialled.still ?_ pipes, Silent.still pipes silent⟩
      rw [control]
      exact fun _ => id
  | lws n report => cases outside
  | notice n located => cases outside

/-- A callback of lws leaves the pipe with its notification raised. -/
theorem stepLws_effect {s s' : State} {n : Nat} {report : Lws}
    {events : List Event} (step : stepLws s n report = some (s', events)) :
    ∃ pipe finished, s' = s.setPipe n pipe ∧
      (s.pipes n).connection ≠ .unconnected ∧
      (s.pipes n).notice = .idle ∧
      pipe.connection.unopened = false ∧
      pipe.notice = .raised report.raises finished ∧
      (report.raises = .connectSuccess → (s.pipes n).connection = .pending) ∧
      ∀ event ∈ events, event.ofNotice = false := by
  obtain ⟨idle, taken⟩ := stepLws_cases step
  cases taken with
  | established pending | connectionError pending =>
      exact ⟨_, _, rfl, by simp [pending], idle, rfl, rfl, fun _ => pending,
        by simp⟩
  | receive established =>
      exact ⟨_, _, rfl, by simp [established], idle,
        by simp [established, Connection.unopened], rfl,
        by simp [Lws.raises], by simp [Event.ofNotice]⟩
  | closed established =>
      refine ⟨_, _, rfl, by simp [established], idle, rfl, rfl, ?_, by simp⟩
      intro success
      simp only [Lws.raises] at success
      split at success <;> cases success

theorem Dialled.setPipe {module : Module} {s : State} {n : Nat} {pipe : Pipe}
    (dialled : Dialled module s)
    (connected : (s.pipes n).connection ≠ .unconnected)
    (opened : pipe.connection.unopened = false) :
    Dialled module (s.setPipe n pipe) := by
  constructor
  · intro m before
    have here := dialled.unconnected m before
    have different : m ≠ n := by
      rintro rfl
      exact connected here
    rw [← here]
    simp [State.setPipe, different]
  · intro m unopened
    by_cases same : m = n
    · subst same
      simp [State.setPipe, opened] at unopened
    · have before : (s.pipes m).connection.unopened = true := by
        simpa [State.setPipe, same] using unopened
      simpa [State.setPipe, same] using dialled.quiet m before

/-- `eventCallback` moves one notification on, on a connection that was
opened. -/
theorem stepNotice_effect {config : Config} {s s' : State} {n : Nat}
    {located : Bool} {events : List Event}
    (step : stepNotice config s n located = some (s', events)) :
    ∃ pipe, s' = s.setPipe n pipe ∧ (s.pipes n).notice ≠ .idle ∧
      ((s.pipes n).connection.unopened = false →
        pipe.connection.unopened = false) := by
  obtain ⟨_, notice, taken⟩ := stepNotice_cases step
  have busy : (s.pipes n).notice ≠ .idle := by
    rw [notice]
    cases taken <;> simp
  cases taken with
  | close => exact ⟨_, rfl, busy, fun _ => rfl⟩
  | _ => exact ⟨_, rfl, busy, id⟩

theorem Dialled.opened {module : Module} {s : State} {n : Nat}
    (dialled : Dialled module s) (busy : (s.pipes n).notice ≠ .idle) :
    (s.pipes n).connection.unopened = false := by
  by_contra unopened
  simp only [Bool.not_eq_false] at unopened
  exact busy (dialled.quiet n unopened)

theorem Dialled.step {config : Config} {s s' : State} {act : Act}
    {events : List Event} (dialled : Dialled config.module s)
    (owned : Owned s.control)
    (step : (machine config).step s act = some (s', events)) :
    Dialled config.module s' := by
  by_cases served : act.served = true
  · cases act with
    | lws n report =>
        obtain ⟨pipe, _, rfl, connected, _, opened, _⟩ := stepLws_effect step
        exact dialled.setPipe connected opened
    | notice n located =>
        obtain ⟨pipe, rfl, busy, opened⟩ := stepNotice_effect step
        have before := dialled.opened busy
        apply dialled.setPipe _ (opened before)
        intro unconnected
        rw [unconnected] at before
        cases before
    | _ => cases served
  · simp only [Bool.not_eq_true] at served
    exact (dialled.outside owned served step).1

/-- CONNECT_SUCCESS of each pipe is handled at most once, and only its handling
puts initial metadata on a pipe. -/
structure Announced (trace : List Event) (s : State) : Prop where
  once : ∀ n, trace.countP (Event.sentBy n) +
    (if (s.pipes n).announces then 1 else 0) ≤ 1
  reported : ∀ n bug, (s.pipes n).notice = .metadata bug →
    ∃ finished, .handled n bug .connectSuccess finished ∈ trace
  sent : ∀ n bug text, .metadataSent n bug text ∈ trace →
    ∃ finished, .handled n bug .connectSuccess finished ∈ trace

theorem announced_fresh : Announced [] .fresh := by
  constructor
  · intro n
    simp [State.fresh, Pipe.fresh, Pipe.announces, Connection.unopened]
  · simp [State.fresh, Pipe.fresh]
  · simp

theorem Announced.still {trace events : List Event} {s s' : State}
    (announced : Announced trace s)
    (announces : ∀ n, (s'.pipes n).announces = true →
      (s.pipes n).announces = true)
    (reported : ∀ n bug, (s'.pipes n).notice = .metadata bug →
      (s.pipes n).notice = .metadata bug ∨
        ∃ finished, .handled n bug .connectSuccess finished ∈ events)
    (unsent : ∀ n, ∀ event ∈ events, event.sentBy n = false) :
    Announced (trace ++ events) s' := by
  constructor
  · intro n
    have none : events.countP (Event.sentBy n) = 0 := by
      apply List.countP_eq_zero.mpr
      intro event member
      simp [unsent n event member]
    have before := announced.once n
    rw [List.countP_append, none, Nat.add_zero]
    by_cases after : (s'.pipes n).announces = true
    · rw [announces n after] at before
      rw [after]
      exact before
    · rw [if_neg after]
      omega
  · intro n bug here
    rcases reported n bug here with before | ⟨finished, now⟩
    · obtain ⟨finished, earlier⟩ := announced.reported n bug before
      exact ⟨finished, List.mem_append_left _ earlier⟩
    · exact ⟨finished, List.mem_append_right _ now⟩
  · intro n bug text member
    rcases List.mem_append.mp member with before | now
    · obtain ⟨finished, earlier⟩ := announced.sent n bug text before
      exact ⟨finished, List.mem_append_left _ earlier⟩
    · have here := unsent n _ now
      simp [Event.sentBy] at here

theorem Announced.lws {trace events : List Event} {s s' : State} {n : Nat}
    {report : Lws} (announced : Announced trace s)
    (step : stepLws s n report = some (s', events)) :
    Announced (trace ++ events) s' := by
  obtain ⟨pipe, finished, rfl, _, idle, opened, raised, pending, silent⟩ :=
    stepLws_effect step
  refine announced.still ?_ ?_ ?_
  · intro m after
    by_cases same : m = n
    · subst same
      have success : report.raises = .connectSuccess := by
        simp only [State.setPipe, Function.update_self, Pipe.announces, opened,
          raised, Bool.false_or] at after
        cases kind : report.raises <;> simp_all
      simp [Pipe.announces, pending success, Connection.unopened]
    · simpa [State.setPipe, same] using after
  · intro m bug here
    by_cases same : m = n
    · subst same
      simp [State.setPipe, raised] at here
    · left
      simpa [State.setPipe, same] using here
  · intro m event member
    exact Event.unsent_of_silent (silent event member)

theorem Announced.setPipe {trace events : List Event} {s : State} {n : Nat}
    {pipe : Pipe} (announced : Announced trace s)
    (announces : pipe.announces = true → (s.pipes n).announces = true)
    (reported : ∀ bug, pipe.notice = .metadata bug →
      ∃ finished, .handled n bug .connectSuccess finished ∈ events)
    (unsent : ∀ m, ∀ event ∈ events, event.sentBy m = false) :
    Announced (trace ++ events) (s.setPipe n pipe) := by
  refine announced.still ?_ ?_ unsent
  · intro m after
    by_cases same : m = n
    · subst same
      apply announces
      simpa [State.setPipe] using after
    · simpa [State.setPipe, same] using after
  · intro m bug here
    by_cases same : m = n
    · subst same
      right
      apply reported
      simpa [State.setPipe] using here
    · left
      simpa [State.setPipe, same] using here

theorem Announced.send {trace events : List Event} {s : State} {n bug : Nat}
    {pipe : Pipe} (announced : Announced trace s)
    (before : (s.pipes n).notice = .metadata bug)
    (after : pipe.announces = false) (sent : ∀ b, pipe.notice ≠ .metadata b)
    (only : events = [] ∨ ∃ text, events = [.metadataSent n bug text]) :
    Announced (trace ++ events) (s.setPipe n pipe) := by
  have announces : (s.pipes n).announces = true := by
    simp [Pipe.announces, before]
  obtain ⟨finished, handled⟩ := announced.reported n bug before
  have elsewhere : ∀ m, m ≠ n → (s.setPipe n pipe).pipes m = s.pipes m := by
    intro m different
    simp [State.setPipe, different]
  have here : (s.setPipe n pipe).pipes n = pipe := by
    simp [State.setPipe]
  constructor
  · intro m
    have once := announced.once m
    rw [List.countP_append]
    by_cases same : m = n
    · subst same
      rw [announces, if_pos rfl] at once
      rw [here, after]
      rcases only with rfl | ⟨text, rfl⟩
      · simp
        omega
      · rw [List.countP_singleton]
        simpa [Event.sentBy] using once
    · rw [elsewhere m same]
      rcases only with rfl | ⟨text, rfl⟩
      · simpa using once
      · simpa [Event.sentBy, Ne.symm same] using once
  · intro m b metadata
    by_cases same : m = n
    · subst same
      rw [here] at metadata
      exact (sent b metadata).elim
    · rw [elsewhere m same] at metadata
      obtain ⟨finished, earlier⟩ := announced.reported m b metadata
      exact ⟨finished, List.mem_append_left _ earlier⟩
  · intro m b text member
    rcases List.mem_append.mp member with earlier | now
    · obtain ⟨finished, known⟩ := announced.sent m b text earlier
      exact ⟨finished, List.mem_append_left _ known⟩
    · rcases only with rfl | ⟨text', rfl⟩
      · cases now
      · simp only [List.mem_singleton, Event.metadataSent.injEq] at now
        obtain ⟨rfl, rfl, _⟩ := now
        exact ⟨finished, List.mem_append_left _ handled⟩

theorem Announced.notice {config : Config} {trace events : List Event}
    {s s' : State} {n : Nat} {located : Bool} (announced : Announced trace s)
    (dialled : Dialled config.module s)
    (step : stepNotice config s n located = some (s', events)) :
    Announced (trace ++ events) s' := by
  obtain ⟨_, notice, taken⟩ := stepNotice_cases step
  have opened : (s.pipes n).connection.unopened = false := by
    apply dialled.opened
    rw [notice]
    cases taken <;> simp
  cases taken with
  | @find event finished bug slot =>
      refine announced.setPipe ?_ (by simp) (by simp)
      cases event <;> simp [Pipe.announces, notice, opened]
  | @handle event finished bug acts =>
      refine announced.setPipe ?_ ?_ (by simp [Event.sentBy])
      · rcases afterEvent_cases config.module event bug with
          ⟨rfl, after⟩ | after
        · simp [Pipe.announces, opened, notice, after]
        · simp [Pipe.announces, opened, after]
      · intro b metadata
        rcases afterEvent_cases config.module event bug with
          ⟨rfl, after⟩ | after
        · cases after.symm.trans metadata
          exact ⟨finished, by simp⟩
        · cases after.symm.trans metadata
  | @ignore event finished bug idles =>
      have after : afterEvent config.module event bug = .returning := by
        rcases afterEvent_cases config.module event bug with
          ⟨rfl, _⟩ | after
        · cases idles
        · exact after
      refine announced.setPipe ?_ ?_ (by simp)
      · simp [Pipe.announces, opened, after]
      · simp [after]
  | send =>
      refine announced.send notice ?_ (by simp) (.inr ⟨_, rfl⟩)
      simp [Pipe.announces, opened]
  | sendNothing =>
      refine announced.send notice ?_ (by simp) (.inl rfl)
      simp [Pipe.announces, opened]
  | close =>
      exact announced.setPipe (by simp [Pipe.announces, Connection.unopened])
        (by simp) (by simp [Event.sentBy])
  | lose | back =>
      refine announced.setPipe ?_ (by simp) (by simp)
      simp [Pipe.announces, opened]

theorem Announced.step {config : Config} {trace events : List Event}
    {s s' : State} {act : Act} (announced : Announced trace s)
    (dialled : Dialled config.module s) (owned : Owned s.control)
    (step : (machine config).step s act = some (s', events)) :
    Announced (trace ++ events) s' := by
  by_cases served : act.served = true
  · cases act with
    | lws n report => exact announced.lws step
    | notice n located => exact announced.notice dialled step
    | _ => cases served
  · simp only [Bool.not_eq_true] at served
    have silent := (dialled.outside owned served step).2
    refine announced.still ?_ ?_ ?_
    · intro n
      rw [silent.announces]
      exact id
    · intro n bug here
      rw [silent.notices] at here
      exact .inl here
    · intro n event member
      exact Event.unsent_of_silent (silent.events event member)

/-- The channel private is empty or names the bug. -/
def Control.routesTo (c : Control) (bug : Nat) : Prop :=
  c.slot = none ∨ c.slot = some bug

structure Routed (config : Config) (trace : List Event) (s : State) :
    Prop where
  own : ∀ event ∈ trace, event.own = true
  unrouted : ∀ n, (s.pipes n).notice.unrouted config = true →
    s.control.routesTo n
  found : ∀ n event finished bug,
    (s.pipes n).notice = .found event finished bug →
    actsOn config event = true → bug = n
  metadata : ∀ n bug, (s.pipes n).notice = .metadata bug → bug = n

theorem routed_fresh {config : Config} : Routed config [] .fresh := by
  constructor <;> simp [State.fresh, Pipe.fresh, Notice.unrouted]

/-- A step outside the service thread keeps every notification on its way to
its own start, if the channel private does. -/
theorem Routed.silent {config : Config} {trace events : List Event}
    {s s' : State} (routed : Routed config trace s)
    (silent : Silent s s' events)
    (slot : ∀ n, (s.pipes n).notice.unrouted config = true →
      s.control.routesTo n → s'.control.routesTo n) :
    Routed config (trace ++ events) s' := by
  constructor
  · intro event member
    rcases List.mem_append.mp member with before | now
    · exact routed.own event before
    · exact Event.own_of_silent (silent.events event now)
  · intro n here
    rw [silent.notices] at here
    exact slot n here (routed.unrouted n here)
  · intro n event finished bug here
    rw [silent.notices] at here
    exact routed.found n event finished bug here
  · intro n bug here
    rw [silent.notices] at here
    exact routed.metadata n bug here

theorem Routed.setPipe {config : Config} {trace events : List Event}
    {s : State} {n : Nat} {pipe : Pipe} (routed : Routed config trace s)
    (own : ∀ event ∈ events, event.own = true)
    (unrouted : pipe.notice.unrouted config = true → s.control.routesTo n)
    (found : ∀ event finished bug, pipe.notice = .found event finished bug →
      actsOn config event = true → bug = n)
    (metadata : ∀ bug, pipe.notice = .metadata bug → bug = n) :
    Routed config (trace ++ events) (s.setPipe n pipe) := by
  have elsewhere : ∀ m, m ≠ n → (s.setPipe n pipe).pipes m = s.pipes m := by
    intro m different
    simp [State.setPipe, different]
  have here : (s.setPipe n pipe).pipes n = pipe := by
    simp [State.setPipe]
  constructor
  · intro event member
    rcases List.mem_append.mp member with before | now
    · exact routed.own event before
    · exact own event now
  · intro m raised
    by_cases same : m = n
    · subst same
      rw [here] at raised
      exact unrouted raised
    · rw [elsewhere m same] at raised
      exact routed.unrouted m raised
  · intro m event finished bug
    by_cases same : m = n
    · subst same
      rw [here]
      exact found event finished bug
    · rw [elsewhere m same]
      exact routed.found m event finished bug
  · intro m bug
    by_cases same : m = n
    · subst same
      rw [here]
      exact metadata bug
    · rw [elsewhere m same]
      exact routed.metadata m bug

theorem Routed.lws {config : Config} {trace events : List Event}
    {s s' : State} {n : Nat} {report : Lws} (routed : Routed config trace s)
    (guarded : routes config s (.lws n report) = true)
    (step : stepLws s n report = some (s', events)) :
    Routed config (trace ++ events) s' := by
  obtain ⟨pipe, finished, rfl, _, _, _, raised, _, silent⟩ :=
    stepLws_effect step
  refine routed.setPipe ?_ ?_ ?_ ?_
  · intro event member
    exact Event.own_of_silent (silent event member)
  · rw [raised]
    intro acts
    have acted : actsOn config report.raises = true := acts
    simp only [routes, acted, Bool.not_true, Bool.false_or, Bool.or_eq_true,
      decide_eq_true_eq] at guarded
    exact guarded
  · simp [raised]
  · simp [raised]

theorem Routed.notice {config : Config} {trace events : List Event}
    {s s' : State} {n : Nat} {located : Bool} (routed : Routed config trace s)
    (step : stepNotice config s n located = some (s', events)) :
    Routed config (trace ++ events) s' := by
  obtain ⟨_, notice, taken⟩ := stepNotice_cases step
  cases taken with
  | @find event finished bug slot =>
      refine routed.setPipe (by simp) (by simp [Notice.unrouted]) ?_ (by simp)
      intro e f b here acted
      cases here
      have route : s.control.routesTo n := by
        apply routed.unrouted n
        rw [notice]
        exact acted
      rcases route with empty | mine
      · rw [slot] at empty
        cases empty
      · rw [slot] at mine
        exact Option.some.inj mine
  | @handle event finished bug acts =>
      have mine := routed.found n event finished bug notice acts
      have own : ∀ e ∈ [Event.handled n bug event finished], e.own = true := by
        simp [Event.own, mine]
      rcases afterEvent_cases config.module event bug with ⟨_, after⟩ | after
      · rw [after]
        refine routed.setPipe own (by simp [Notice.unrouted]) (by simp) ?_
        intro b metadata
        cases metadata
        exact mine
      · rw [after]
        exact routed.setPipe own (by simp [Notice.unrouted]) (by simp) (by simp)
  | @ignore event finished bug idles =>
      rcases afterEvent_cases config.module event bug with ⟨rfl, _⟩ | after
      · cases idles
      · rw [after]
        exact routed.setPipe (by simp) (by simp [Notice.unrouted]) (by simp)
          (by simp)
  | @send bug given present =>
      have mine := routed.metadata n bug notice
      exact routed.setPipe (by simp [Event.own, mine])
        (by simp [Notice.unrouted]) (by simp) (by simp)
  | lose | sendNothing | close | back =>
      exact routed.setPipe (by simp [Event.own]) (by simp [Notice.unrouted])
        (by simp) (by simp)

theorem stepStart_slot {module : Module} {s s' : State} {n : Nat} {init : Init}
    {ok : Bool} {events : List Event}
    (step : stepStart module s n init ok = some (s', events)) :
    s'.control.slot = s.control.slot ∨
      s.control.starts n = .attached ∧ s'.control.slot = some n := by
  obtain ⟨_, stage, taken⟩ := stepStart_cases step
  cases taken with
  | publish | store => exact .inr ⟨stage, rfl⟩
  | _ => exact .inl rfl

theorem Routed.step {config : Config} {trace events : List Event}
    {s s' : State} {act : Act} (routed : Routed config trace s)
    (dialled : Dialled config.module s) (owned : Owned s.control)
    (guarded : routes config s act = true)
    (step : (machine config).step s act = some (s', events)) :
    Routed config (trace ++ events) s' := by
  by_cases served : act.served = true
  · cases act with
    | lws n report => exact routed.lws guarded step
    | notice n located => exact routed.notice step
    | _ => cases served
  · simp only [Bool.not_eq_true] at served
    have silent := (dialled.outside owned served step).2
    apply routed.silent silent
    intro m unrouted route
    simp only [machine, Sessions.step] at step
    cases act with
    | callStart metadata =>
        cases step
        exact route
    | start n init ok =>
        rcases stepStart_slot step with same | ⟨attached, stored⟩
        · unfold Control.routesTo
          rw [same]
          exact route
        · have called : s.control.starts m ≠ .notCalled := by
            intro absent
            have unconnected := dialled.unconnected m (by rw [absent]; rfl)
            have idle := dialled.quiet m (by rw [unconnected]; rfl)
            rw [idle] at unrouted
            cases unrouted
          have within := owned.below called
          simp only [routes, attached, bne_self_eq_false, Bool.false_or,
            List.all_eq_true, List.mem_range, Bool.or_eq_true, beq_iff_eq,
            Bool.not_eq_true'] at guarded
          rcases guarded m within with same | settled
          · right
            rw [stored, same]
          · rw [settled] at unrouted
            cases unrouted
    | callStop call text =>
        dsimp only at step
        split at step <;> cases step
        exact route
    | hangup bug =>
        dsimp only at step
        split at step <;> cases step
        exact route
    | cleanup caller =>
        obtain ⟨_, slot, _⟩ := stepCleanup_effect step
        rcases slot with same | empty
        · unfold Control.routesTo
          rw [same]
          exact route
        · exact .inl empty
    | reaper n =>
        obtain ⟨control, _⟩ := stepReaper_control step
        rw [control]
        exact route
    | lws n report => cases served
    | notice n located => cases served

/-- Each notification is acted on for the start that created its pipe; the
initial metadata of a session is put on a pipe at most once, by the
CONNECT_SUCCESS of its own pipe. -/
def IsolatesNotifications (trace : List Event) : Prop :=
  (∀ event ∈ trace, event.own = true) ∧
    (∀ n bug text, .metadataSent n bug text ∈ trace →
      ∃ finished, .handled n bug .connectSuccess finished ∈ trace) ∧
    ∀ bug, trace.countP (Event.sentTo bug) ≤ 1

theorem notifications_isolated (config : Config) {labels : List Act}
    {trace : List Event} {s : State}
    (run : (machine config).Run (routes config) (machine config).initial labels
      trace s) : IsolatesNotifications trace := by
  have whole : Owned s.control ∧ Dialled config.module s ∧ Announced trace s ∧
      Routed config trace s := by
    refine run.induct (fun seen state => Owned state.control ∧
      Dialled config.module state ∧ Announced seen state ∧
      Routed config seen state)
      ⟨owned_fresh, dialled_fresh, announced_fresh, routed_fresh⟩ ?_
    intro seen state label next events holds guarded step
    obtain ⟨owned, dialled, announced, routed⟩ := holds
    exact ⟨owned.step step, dialled.step owned step,
      announced.step dialled owned step,
      routed.step dialled owned guarded step⟩
  obtain ⟨_, _, announced, routed⟩ := whole
  refine ⟨routed.own, announced.sent, ?_⟩
  intro bug
  have once := announced.once bug
  have fewer : trace.countP (Event.sentTo bug) ≤
      trace.countP (Event.sentBy bug) := by
    apply List.countP_mono_left
    intro event member sent
    have own := routed.own event member
    cases event with
    | metadataSent n b text =>
        simp only [Event.own, decide_eq_true_eq] at own
        simpa [Event.sentBy, Event.sentTo, own] using sent
    | _ => cases sent
  omega

/-- The pipe of a fork is opened, and its CONNECT_SUCCESS handled. -/
def opens (n : Nat) : List Act :=
  .lws n .established :: List.replicate 4 (.notice n true)

/-- A fork starts once the pipe of the one before is closed. -/
theorem notifications_isolated_of_drained :
    ∃ labels trace s,
      (machine ⟨.audioFork, fun _ => none⟩).Run
        (routes ⟨.audioFork, fun _ => none⟩) .fresh labels trace s ∧
        Event.metadataSent 1 1 [123, 125] ∈ trace ∧
        IsolatesNotifications trace := by
  let config : Config := ⟨.audioFork, fun _ => none⟩
  let labels : List Act :=
    startsFork 0 ++ opens 0 ++ [Act.callStop 0 none] ++ cleans (.stop 0) 8 ++
      cleans (.close 0) 1 ++ cleans (.stop 0) 1 ++
      [Act.reaper 0, .lws 0 (.closed true), .notice 0 true, .notice 0 true,
        .reaper 0, .reaper 0] ++ startsFork 1 ++ opens 1
  have executed : ((machine config).exec (routes config) .fresh labels).map
      (fun outcome =>
        decide (Event.metadataSent 1 1 [123, 125] ∈ outcome.2)) =
        some true := by
    decide
  obtain ⟨s, trace, run, sent⟩ := Machine.exists_run_of_exec _ executed
  exact ⟨labels, trace, s, run, by simpa using sent,
    notifications_isolated config run⟩

/-- A fork is stopped and started again while the pipe of the first is still
open; a message on that pipe is processed as the second one's. -/
theorem message_of_stopped_pipe :
    ¬ ∀ (config : Config) (labels : List Act) (trace : List Event)
      (s : State),
      (machine config).Run anyStep (machine config).initial labels trace s →
        IsolatesNotifications trace := by
  intro always
  let config : Config := ⟨.audioFork, fun _ => none⟩
  let labels : List Act :=
    startsFork 0 ++ opens 0 ++ [Act.callStop 0 none] ++ cleans (.stop 0) 8 ++
      cleans (.close 0) 1 ++ cleans (.stop 0) 1 ++ startsFork 1 ++
      [Act.lws 0 (.receive [123, 125]), .notice 0 true, .notice 0 true]
  have executed : ((machine config).exec anyStep .fresh labels).map
      (fun outcome =>
        decide (Event.handled 0 1 (.message [123, 125]) false ∈ outcome.2)) =
        some true := by
    decide
  obtain ⟨s, trace, run, handled⟩ := Machine.exists_run_of_exec _ executed
  have own := (always config labels trace s run).1 _ (by simpa using handled)
  cases own

end DrachtioModules.Sessions

import DrachtioModules.Aws.GateCount
import DrachtioModules.Tally

/-!
# The unload gate of mod_aws_transcribe

A start is counted under the mutex under which the shutdown closes the gate and
reads the count.  So it is either counted before that, and the unload refused,
or it is refused itself.
-/

namespace DrachtioModules.Aws

open Transcribe (Channel Control Notice)

variable {κ τ : Type} {config : Config} {s s' : CapCb κ τ}
variable {events : List (SessionEvent κ τ)}

/-- No session is counted, none has a worker that is not joined, and none shows
its GStreamer. -/
def Idle (s : Family.State (Module κ) (CapCb κ τ)) : Prop :=
  ∀ n, (s.parts n).live = false ∧ (s.parts n).thread = false ∧
    (s.parts n).streamer = false

def SessionEvent.isCalled : SessionEvent κ τ → Bool
  | .notice made => made.isCalled
  | .lifetime _ | .counted | .released | .gstreamer _ => false

theorem countP_notice (notices : List (Notice κ)) :
    (notices.map .notice : List (SessionEvent κ τ)).countP
        SessionEvent.isCalled = notices.countP Notice.isCalled := by
  rw [List.countP_map]
  rfl

theorem countP_inner (inner : ∀ event ∈ events, event.inner = true) :
    events.countP SessionEvent.isCalled = 0 := by
  apply List.countP_eq_zero.mpr
  intro event member
  have inside := inner event member
  cases event <;> simp_all [SessionEvent.inner, SessionEvent.isCalled]

theorem called_of_step {act : SessionAct κ τ}
    (step : (session κ τ config).step s act = some (s', events)) :
    (∃ bugname, act = .control (.callStart bugname)) ∧
        events.countP SessionEvent.isCalled = 1 ∨
      events.countP SessionEvent.isCalled = 0 ∧
        (s.life.start = .notCalled → s'.life.start = .notCalled) := by
  cases sessionStep_cases step with
  | life taken =>
      rcases taken.calls with ⟨⟨bugname, rfl⟩, rfl⟩ | ⟨uncalled, kept⟩
      · exact .inl ⟨⟨bugname, rfl⟩, rfl⟩
      · exact .inr ⟨(countP_notice _).trans uncalled, kept⟩
  | tear here taken =>
      cases taken with
      | finish call =>
          obtain ⟨⟨object, request, rfl⟩, inner⟩ := invoke_inner call
          exact .inr ⟨countP_inner inner, id⟩
      | _ => exact .inr ⟨rfl, id⟩
  | refuse start early =>
      rcases early with rfl | rfl <;> exact .inr ⟨rfl, by simp [start]⟩
  | check start | count start | gate start | configure start
  | misconfigured start | create start | uncreated start | killed start
  | ungate start | fail start | release start | attach start | orphan start
  | cleaned start =>
      exact .inr ⟨rfl, by simp [start]⟩
  | frameCall owner made call | work worker made call
  | callback issued made call | connect worker call | finish worker call =>
      obtain ⟨⟨object, request, rfl⟩, inner⟩ := invoke_inner call
      exact .inr ⟨countP_inner inner, id⟩
  | lock | lockClose | verify | yields | closed | torn | clear | unlock
  | frameLock | frameLoad | frameLoadNull | frameUnlock | construct | throw
  | delay | publish | heed | process | exit =>
      exact .inr ⟨rfl, id⟩

inductive ShutdownStep (m : Module κ) (call : Nat) :
    Module κ → List ModuleEvent → Prop where
  | close (fresh : m.shutdowns call = .notCalled) :
      ShutdownStep m call
        { m with
          accepting := false
          shutdowns := Function.update m.shutdowns call
            (.begun m.activeStreamers) } []
  | refuse {active : Int} (begun : m.shutdowns call = .begun active)
      (busy : 0 < active) :
      ShutdownStep m call
        { m with
          shutdowns := Function.update m.shutdowns call (.returned false) }
        [.refused call]
  | unload {active : Int} (begun : m.shutdowns call = .begun active)
      (idle : active ≤ 0) :
      ShutdownStep m call
        { m with
          shutdowns := Function.update m.shutdowns call (.returned true) }
        [.shutdownAPI call]

theorem shutdown_cases {m m' : Module κ} {call : Nat}
    {made : List ModuleEvent} (step : m.shutdown call = some (m', made)) :
    ShutdownStep m call m' made := by
  simp only [Module.shutdown] at step
  split at step
  · rename_i fresh
    cases step
    exact .close fresh
  · rename_i active begun
    split at step <;> cases step <;> rename_i busy
    · exact .refuse begun busy
    · exact .unload begun (Int.not_lt.mp busy)
  · cases step

structure Gate (s : Family.State (Module κ) (CapCb κ τ)) : Prop where
  placed : ∀ n, Placed (s.parts n)
  gated : ∀ n, Gated (s.parts n)
  unstarted : ∀ n, s.shared.channel.starts ≤ n →
    (s.parts n).life.start = .notCalled
  active : s.shared.activeStreamers =
    tally (fun n => (s.parts n).live) s.shared.channel.starts
  shut : ∀ call, s.shared.shutdowns call ≠ .notCalled →
    s.shared.accepting = false
  begun : ∀ call active, s.shared.shutdowns call = .begun active →
    s.shared.activeStreamers ≤ active

variable {state next : Family.State (Module κ) (CapCb κ τ)}

theorem Gate.within (gate : Gate state) {n : Nat}
    (called : (state.parts n).life.start ≠ .notCalled) :
    n < state.shared.channel.starts := by
  by_contra outside
  exact called (gate.unstarted n (by omega))

theorem Gate.present (gate : Gate state) {n : Nat}
    (present : (state.parts n).live = true) :
    n < state.shared.channel.starts := by
  apply gate.within
  intro uncalled
  rw [(gate.gated n).absent (gate.placed n) uncalled] at present
  cases present

theorem Gate.idle (gate : Gate state)
    (empty : state.shared.activeStreamers ≤ 0) : Idle state := by
  intro n
  have absent : (state.parts n).live = false := by
    by_cases within : n < state.shared.channel.starts
    · rw [gate.active] at empty
      exact absent_of_tally empty n within
    · exact (gate.gated n).absent (gate.placed n) (gate.unstarted n (by omega))
  exact ⟨absent, (gate.gated n).idle absent⟩

section Gate

variable [DecidableEq κ]

theorem write_module (n : Nat) (m : Module κ) (event : SessionEvent κ τ) :
    (m.writes n event).accepting = m.accepting ∧
      (m.writes n event).shutdowns = m.shutdowns ∧
      (m.writes n event).activeStreamers =
        m.activeStreamers + (if event.isCounted then 1 else 0) -
          (if event.isReleased then 1 else 0) ∧
      (m.writes n event).channel.starts =
        m.channel.starts + if event.isCalled then 1 else 0 := by
  cases event with
  | notice notice =>
      refine ⟨rfl, rfl, ?_, ?_⟩
      · simp [Module.writes, SessionEvent.isCounted, SessionEvent.isReleased]
      · cases notice <;> rfl
  | lifetime | gstreamer | counted | released =>
      simp [Module.writes, SessionEvent.isCounted, SessionEvent.isReleased,
        SessionEvent.isCalled]

theorem writes_module (n : Nat) (events : List (SessionEvent κ τ))
    (m : Module κ) :
    (events.foldl (Module.writes n) m).accepting = m.accepting ∧
      (events.foldl (Module.writes n) m).shutdowns = m.shutdowns ∧
      (events.foldl (Module.writes n) m).activeStreamers =
        m.activeStreamers + events.countP SessionEvent.isCounted -
          events.countP SessionEvent.isReleased ∧
      (events.foldl (Module.writes n) m).channel.starts =
        m.channel.starts + events.countP SessionEvent.isCalled := by
  induction events generalizing m with
  | nil => simp
  | cons event events ih =>
      obtain ⟨accepting, shutdowns, active, starts⟩ := ih (m.writes n event)
      obtain ⟨accepting', shutdowns', active', starts'⟩ :=
        write_module n m event
      rw [List.foldl_cons, accepting, shutdowns, active, starts, accepting',
        shutdowns', active', starts']
      refine ⟨rfl, rfl, ?_, ?_⟩
      · simp only [List.countP_cons]
        push_cast
        omega
      · simp only [List.countP_cons]
        omega

theorem gate_fresh : Gate (sessions κ τ config).machine.initial := by
  refine ⟨fun _ => placed_fresh, fun _ => gated_fresh, fun _ _ => rfl, ?_, ?_,
    ?_⟩
  · simp [Family.machine, sessions, Module.fresh, Channel.fresh, tally]
  · intro call called
    exact (called rfl).elim
  · intro call active begun
    cases begun

/-- A gate that is closed lets nobody in. -/
theorem Gate.uncounted (gate : Gate state) {n : Nat} {act : SessionAct κ τ}
    {after : CapCb κ τ} {events : List (SessionEvent κ τ)}
    (shut : state.shared.accepting = false)
    (reads : state.shared.reads n (state.parts n) act = true)
    (step : (session κ τ config).step (state.parts n) act =
      some (after, events)) :
    events.countP SessionEvent.isCounted = 0 := by
  cases (gate.gated n).turn (gate.placed n) step with
  | still same quiet => exact (countP_of_quiet quiet).1
  | enter start =>
      simp only [Module.reads, start, shut] at reads
      cases reads
  | leave => rfl

/-- The gate stays closed. -/
theorem shut_of_step (shut : state.shared.accepting = false)
    {label : Family.Act (SessionAct κ τ) (ModuleAct κ)}
    {made : List (Family.Event (SessionEvent κ τ) ModuleEvent)}
    (step : (sessions κ τ config).machine.step state label =
      some (next, made)) :
    next.shared.accepting = false := by
  cases Family.step_cases step with
  | @part n act after events reads taken =>
      exact (writes_module n events state.shared).1.trans shut
  | @common act shared events taken =>
      cases act with
      | outside act =>
          simp only [sessions, Module.step] at taken
          split at taken <;> cases taken
          exact shut
      | shutdown other =>
          cases shutdown_cases taken with
          | close => rfl
          | refuse | unload => exact shut

theorem Gate.closed (gate : Gate state)
    {label : Family.Act (SessionAct κ τ) (ModuleAct κ)}
    {made : List (Family.Event (SessionEvent κ τ) ModuleEvent)}
    (shut : state.shared.accepting = false)
    (step : (sessions κ τ config).machine.step state label =
      some (next, made)) :
    next.shared.accepting = false ∧
      next.shared.activeStreamers ≤ state.shared.activeStreamers ∧
      ∀ n, .part n .counted ∉ made := by
  refine ⟨shut_of_step shut step, ?_⟩
  cases Family.step_cases step with
  | @part n act after events reads taken =>
      obtain ⟨_, _, active, _⟩ := writes_module n events state.shared
      have uncounted := gate.uncounted shut reads taken
      refine ⟨?_, ?_⟩
      · dsimp only [sessions]
        omega
      · intro m member
        obtain ⟨event, inside, same⟩ := List.mem_map.mp member
        cases same
        exact List.countP_eq_zero.mp uncounted _ inside rfl
  | @common act shared events taken =>
      refine ⟨?_, by simp⟩
      cases act with
      | outside act =>
          simp only [sessions, Module.step] at taken
          split at taken <;> cases taken
          exact le_refl _
      | shutdown call => cases shutdown_cases taken <;> exact le_refl _

theorem Gate.count (gate : Gate state) {n : Nat} {act : SessionAct κ τ}
    {after : CapCb κ τ} {events : List (SessionEvent κ τ)}
    (uncalled : events.countP SessionEvent.isCalled = 0)
    (turn : Turn (state.parts n) act after events) :
    (events.foldl (Module.writes n) state.shared).activeStreamers =
      tally (fun m => (Function.update state.parts n after m).live)
        (events.foldl (Module.writes n) state.shared).channel.starts := by
  obtain ⟨_, _, active, starts⟩ := writes_module n events state.shared
  have others (m : Nat) (different : m ≠ n) :
      (Function.update state.parts n after m).live = (state.parts m).live := by
    rw [Function.update_of_ne different]
  let before (m : Nat) := (state.parts m).live
  let now (m : Nat) := (Function.update state.parts n after m).live
  rw [active, starts, uncalled, gate.active]
  cases turn with
  | still same quiet =>
      obtain ⟨uncounted, unreleased⟩ := countP_of_quiet quiet
      rw [uncounted, unreleased]
      simp only [Nat.cast_zero, add_zero, sub_zero]
      symm
      apply tally_congr
      intro m _
      by_cases here : m = n
      · rw [here, Function.update_self, same]
      · exact others m here
  | enter start absent present =>
      have within : n < state.shared.channel.starts :=
        gate.within (by simp [start])
      have raised : tally now state.shared.channel.starts =
          tally before state.shared.channel.starts + 1 :=
        tally_raise within absent (by simpa [now] using present) others
      rw [Nat.add_zero, raised]
      simp [before, SessionEvent.isCounted, SessionEvent.isReleased]
  | leave present absent =>
      have within := gate.present present
      have lowered : tally now state.shared.channel.starts =
          tally before state.shared.channel.starts - 1 :=
        tally_lower within present (by simpa [now] using absent) others
      rw [Nat.add_zero, lowered]
      simp [before, SessionEvent.isCounted, SessionEvent.isReleased]

theorem Gate.call (gate : Gate state) {n : Nat}
    {after : CapCb κ τ} {events : List (SessionEvent κ τ)}
    (called : events.countP SessionEvent.isCalled = 1)
    (first : state.shared.channel.starts = n)
    (quiet : ∀ event ∈ events, event.gate = false)
    (absent : after.live = false) :
    (events.foldl (Module.writes n) state.shared).activeStreamers =
      tally (fun m => (Function.update state.parts n after m).live)
        (events.foldl (Module.writes n) state.shared).channel.starts := by
  obtain ⟨_, _, active, starts⟩ := writes_module n events state.shared
  obtain ⟨uncounted, unreleased⟩ := countP_of_quiet quiet
  rw [active, starts, called, uncounted, unreleased, gate.active]
  simp only [Nat.cast_zero, add_zero, sub_zero]
  symm
  calc tally (fun m => (Function.update state.parts n after m).live)
        (state.shared.channel.starts + 1)
      = tally (fun m => (Function.update state.parts n after m).live)
          state.shared.channel.starts :=
        tally_succ (by rw [first, Function.update_self, absent])
    _ = tally (fun m => (state.parts m).live) state.shared.channel.starts := by
        apply tally_congr
        intro m within
        rw [Function.update_of_ne (by omega)]

theorem Gate.part (gate : Gate state) {n : Nat} {act : SessionAct κ τ}
    {after : CapCb κ τ} {events : List (SessionEvent κ τ)}
    (reads : state.shared.reads n (state.parts n) act = true)
    (step : (session κ τ config).step (state.parts n) act =
      some (after, events)) :
    Gate ⟨events.foldl (Module.writes n) state.shared,
      Function.update state.parts n after⟩ := by
  obtain ⟨accepting, shutdowns, active, starts⟩ :=
    writes_module n events state.shared
  have placed := gate.placed n
  have gated := gate.gated n
  have turn := gated.turn placed step
  refine ⟨?_, ?_, ?_, ?_, ?_, ?_⟩
  · intro m
    by_cases same : m = n
    · rw [same]
      simpa using placed.step step
    · simpa [Function.update_of_ne same] using gate.placed m
  · intro m
    by_cases same : m = n
    · rw [same]
      simpa using gated.step placed step
    · simpa [Function.update_of_ne same] using gate.gated m
  · intro m outside
    dsimp only at outside ⊢
    rw [starts] at outside
    by_cases same : m = n
    · subst same
      rw [Function.update_self]
      rcases called_of_step step with ⟨⟨bugname, rfl⟩, called⟩ | ⟨_, kept⟩
      · simp only [Module.reads, Channel.allows, decide_eq_true_eq] at reads
        omega
      · exact kept (gate.unstarted m (by omega))
    · rw [Function.update_of_ne same]
      exact gate.unstarted m (by omega)
  · rcases called_of_step step with ⟨⟨bugname, rfl⟩, called⟩ | ⟨uncalled, _⟩
    · simp only [Module.reads, Channel.allows, decide_eq_true_eq] at reads
      have absent :=
        gated.absent placed (gate.unstarted n (by omega))
      cases turn with
      | still same quiet =>
          exact gate.call called reads quiet (same.trans absent)
      | leave present =>
          rw [absent] at present
          cases present
    · exact gate.count uncalled turn
  · intro call begun
    rw [shutdowns] at begun
    exact accepting.trans (gate.shut call begun)
  · intro call bound begun
    rw [shutdowns] at begun
    have shut := gate.shut call (by simp [begun])
    have uncounted := gate.uncounted shut reads step
    have bounded := gate.begun call bound begun
    dsimp only
    omega

theorem Gate.step (gate : Gate state)
    {label : Family.Act (SessionAct κ τ) (ModuleAct κ)}
    {made : List (Family.Event (SessionEvent κ τ) ModuleEvent)}
    (step : (sessions κ τ config).machine.step state label =
      some (next, made)) : Gate next := by
  cases Family.step_cases step with
  | part reads taken => exact gate.part reads taken
  | @common act shared events taken =>
      cases act with
      | outside act =>
          simp only [sessions, Module.step] at taken
          split at taken <;> cases taken
          rename_i channel moved
          have starts := Channel.starts_of_outside moved
          refine ⟨gate.placed, gate.gated, ?_, ?_, gate.shut, gate.begun⟩
          · dsimp only
            rw [starts]
            exact gate.unstarted
          · dsimp only
            rw [starts]
            exact gate.active
      | shutdown call =>
          cases shutdown_cases taken with
          | close fresh =>
              refine ⟨gate.placed, gate.gated, gate.unstarted, gate.active,
                fun _ _ => rfl, ?_⟩
              intro other active begun
              dsimp only at begun ⊢
              by_cases same : other = call
              · rw [same, Function.update_self] at begun
                cases begun
                exact le_refl _
              · rw [Function.update_of_ne same] at begun
                exact gate.begun other active begun
          | refuse begun | unload begun =>
              have shut := gate.shut call (by simp [begun])
              refine ⟨gate.placed, gate.gated, gate.unstarted, gate.active,
                fun _ _ => shut, ?_⟩
              intro other active later
              dsimp only at later ⊢
              by_cases same : other = call
              · rw [same, Function.update_self] at later
                cases later
              · rw [Function.update_of_ne same] at later
                exact gate.begun other active later

theorem gate_of_run {allowed : Family.State (Module κ) (CapCb κ τ) →
      Family.Act (SessionAct κ τ) (ModuleAct κ) → Bool}
    {labels : List (Family.Act (SessionAct κ τ) (ModuleAct κ))}
    {trace : List (Family.Event (SessionEvent κ τ) ModuleEvent)}
    (run : (sessions κ τ config).machine.Run allowed
      (sessions κ τ config).machine.initial labels trace state) : Gate state :=
  run.invariant Gate gate_fresh fun gate _ step => gate.step step

/-- From a state whose gate is closed and whose count is not positive, nobody
is counted again. -/
theorem Gate.empty {labels : List (Family.Act (SessionAct κ τ) (ModuleAct κ))}
    {later : List (Family.Event (SessionEvent κ τ) ModuleEvent)}
    {final : Family.State (Module κ) (CapCb κ τ)} (gate : Gate state)
    (shut : state.shared.accepting = false)
    (empty : state.shared.activeStreamers ≤ 0)
    (run : (sessions κ τ config).machine.Run anyStep state labels later final) :
    Idle final ∧ ∀ n, .part n .counted ∉ later := by
  have kept := run.induct
    (fun later final => Gate final ∧ final.shared.accepting = false ∧
      final.shared.activeStreamers ≤ 0 ∧ ∀ n, .part n .counted ∉ later)
    ⟨gate, shut, empty, by simp⟩ (by
      rintro later state label next made ⟨gate, shut, empty, none⟩ _ step
      obtain ⟨still, lower, uncounted⟩ := gate.closed shut step
      refine ⟨gate.step step, still, lower.trans empty, ?_⟩
      intro n member
      rcases List.mem_append.mp member with before | now
      · exact none n before
      · exact uncounted n now)
  exact ⟨kept.1.idle kept.2.2.1, kept.2.2.2⟩

/-- A shutdown that gets to `Aws::ShutdownAPI` has read a count that is not
positive, with the gate closed. -/
theorem Gate.unloaded (gate : Gate state)
    {label : Family.Act (SessionAct κ τ) (ModuleAct κ)}
    {made : List (Family.Event (SessionEvent κ τ) ModuleEvent)} {call : Nat}
    (step : (sessions κ τ config).machine.step state label =
      some (next, made))
    (unloaded : .common (.shutdownAPI call) ∈ made) :
    state.shared.accepting = false ∧ state.shared.activeStreamers ≤ 0 := by
  cases Family.step_cases step with
  | part => simp at unloaded
  | @common act shared events taken =>
      cases act with
      | outside act =>
          simp only [sessions, Module.step] at taken
          split at taken <;> cases taken
          cases unloaded
      | shutdown other =>
          cases shutdown_cases taken with
          | close => cases unloaded
          | refuse => simp at unloaded
          | unload begun idle =>
              exact ⟨gate.shut other (by simp [begun]),
                (gate.begun other _ begun).trans idle⟩

/-- `g_activeStreamers` is the number of sessions counted in and not killed,
each is released once, and `Aws::ShutdownAPI` runs where there is none and there
will be none. -/
theorem unload_gate (config : Config)
    {labels : List (Family.Act (SessionAct κ τ) (ModuleAct κ))}
    {trace : List (Family.Event (SessionEvent κ τ) ModuleEvent)}
    {s : Family.State (Module κ) (CapCb κ τ)}
    (run : (sessions κ τ config).machine.Run anyStep
      (sessions κ τ config).machine.initial labels trace s) :
    s.shared.activeStreamers =
        tally (fun n => (s.parts n).live) s.shared.channel.starts ∧
      (∀ n, (s.parts n).live = true → n < s.shared.channel.starts) ∧
      (∀ n, ReleasedOnce (trace.filterMap (Family.Event.of n)) (s.parts n)) ∧
      ∀ label next made call,
        (sessions κ τ config).machine.step s label = some (next, made) →
        .common (.shutdownAPI call) ∈ made →
        Idle s ∧ ∀ labels' later final,
          (sessions κ τ config).machine.Run anyStep s labels' later final →
          Idle final ∧ ∀ n, .part n .counted ∉ later := by
  have gate := gate_of_run run
  refine ⟨gate.active, fun n present => gate.present present, ?_, ?_⟩
  · intro n
    obtain ⟨_, _, balanced⟩ := (Family.run_any run n).induct
      (fun trace state => Placed state ∧ Gated state ∧ Balanced trace state)
      ⟨placed_fresh, gated_fresh, balanced_fresh⟩ (by
        rintro trace state label next events ⟨placed, gated, balanced⟩ _ step
        exact ⟨placed.step step, gated.step placed step,
          balanced.turn (gated.turn placed step)⟩)
    refine ⟨balanced.once, balanced.balance, ?_⟩
    intro ended
    have balance := balanced.balance
    rw [(gate.gated n).unlive ended] at balance
    exact balance
  · intro label next made call step unloaded
    obtain ⟨shut, empty⟩ := gate.unloaded step unloaded
    refine ⟨gate.idle empty, ?_⟩
    intro labels' later final onward
    exact gate.empty shut empty onward

/-- A shutdown that has read a count that is not positive unloads. -/
theorem unload_of_begun {call : Nat} {active : Int}
    (begun : state.shared.shutdowns call = .begun active) (idle : active ≤ 0) :
    ∃ next, (sessions κ τ config).machine.step state
      (.common (.shutdown call)) =
        some (next, [.common (.shutdownAPI call)]) := by
  simp only [Family.machine, Family.step, sessions, Module.step,
    Module.shutdown, begun, if_neg (Int.not_lt.mpr idle)]
  exact ⟨_, rfl⟩

/-- A session that is misconfigured after it has been counted, and an unload. -/
theorem unload_gate_of_failed_start :
    ∃ trace s, (sessions Nat Nat ⟨4, 2⟩).machine.Run anyStep
        (sessions Nat Nat ⟨4, 2⟩).machine.initial
        ([.part 0 (.control (.callStart 7)), .part 0 (.control (.look false)),
          .part 0 (.init true false), .part 0 (.init true false),
          .part 0 (.init true false), .part 0 (.init false false),
          .part 0 (.init true false), .part 0 (.init true false),
          .common (.shutdown 0)] :
          List (Family.Act (SessionAct Nat Nat) (ModuleAct Nat))) trace s ∧
      ReleasedOnce (trace.filterMap (Family.Event.of 0)) (s.parts 0) ∧
      (s.parts 0).life.start = .returned false ∧
      s.shared.activeStreamers = 0 ∧ Idle s := by
  have executed : ((sessions Nat Nat ⟨4, 2⟩).machine.exec anyStep
      (sessions Nat Nat ⟨4, 2⟩).machine.initial
      [.part 0 (.control (.callStart 7)), .part 0 (.control (.look false)),
        .part 0 (.init true false), .part 0 (.init true false),
        .part 0 (.init true false), .part 0 (.init false false),
        .part 0 (.init true false), .part 0 (.init true false),
        .common (.shutdown 0)]).map
      (fun outcome => decide
        ((outcome.1.parts 0).life.start = .returned false ∧
          outcome.1.shared.activeStreamers = 0 ∧
          outcome.1.shared.shutdowns 0 = .begun 0)) = some true := by
    decide
  obtain ⟨s, trace, run, observed⟩ := Machine.exists_run_of_exec _ executed
  obtain ⟨failed, empty, begun⟩ := of_decide_eq_true observed
  obtain ⟨_, _, released, unloaded⟩ := unload_gate ⟨4, 2⟩ run
  obtain ⟨next, unload⟩ := unload_of_begun begun (le_refl 0)
  obtain ⟨idle, _⟩ := unloaded _ next _ 0 unload List.mem_cons_self
  exact ⟨trace, s, run, released 0, failed, empty, idle⟩

end Gate

end DrachtioModules.Aws

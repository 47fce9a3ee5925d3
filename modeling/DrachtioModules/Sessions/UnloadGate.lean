import DrachtioModules.Sessions.Notifications
import DrachtioModules.Sessions.TranscribeLifecycle
import Mathlib.Algebra.Order.BigOperators.Group.Finset

/-!
# The unload gate of mod_audio_fork and mod_deepgram_transcribe

Every channel counts its pipes in `g_activePipes`, and the shutdown of the
module goes on to destroy the lws contexts only where it has read zero.  A pipe
stays counted for as long as any code may still get at it, also where its
session has lost it, so behind a count of zero there is nothing to do for the
service thread and no reaper left.
-/

namespace DrachtioModules.Sessions

open Finset (range)

/-- `g_activePipes`, and what a shutdown in progress has read of it. -/
structure Gate where
  activePipes : Int
  shutdown : Option Int
  deriving DecidableEq, Repr

def Gate.writes (gate : Gate) : Event → Gate
  | .activated _ => { gate with activePipes := gate.activePipes + 1 }
  | .released _ => { gate with activePipes := gate.activePipes - 1 }
  | _ => gate

/-- `fork_sessions_active` or `dg_transcribe_sessions_active`, and the rest of
the shutdown function. -/
inductive ShutdownAct where
  | sessionsActive
  | cleanup
  deriving DecidableEq, Repr

inductive ShutdownEvent where
  | refused (active : Int)
  | deinitialized
  deriving DecidableEq, Repr

def Gate.step (gate : Gate) : ShutdownAct → Option (Gate × List ShutdownEvent)
  | .sessionsActive =>
      match gate.shutdown with
      | none => some ({ gate with shutdown := some gate.activePipes }, [])
      | some _ => none
  | .cleanup =>
      match gate.shutdown with
      | none => none
      | some active =>
          some ({ gate with shutdown := none },
            if 0 < active then [.refused active] else [.deinitialized])

/-- All channels of the module, each under its bugnames. -/
def channels (config : Config) :
    Family Gate State Act Event ShutdownAct ShutdownEvent :=
  { part := machine config
    shared := ⟨0, none⟩
    reads := fun _ _ _ _ => true
    writes := fun _ => Gate.writes
    common := Gate.step }

/-- What a start says of its pipe. -/
inductive Phase where
  | unmade
  | building
  | stored
  | failed
  deriving DecidableEq, Repr

def StartStage.phase : StartStage → Phase
  | .constructed | .counting | .adding | .orphaned | .attached => .building
  | .published | .connecting | .returned true => .stored
  | .returned false => .failed
  | _ => .unmade

theorem StartStage.phase_of_stored {stage : StartStage}
    (stored : stage.stored = true) : stage.phase = .stored := by
  cases stage with
  | returned success =>
      cases success with
      | true => rfl
      | false => cases stored
  | published | connecting => rfl
  | _ => cases stored

theorem StartStage.counted_of_stored {stage : StartStage}
    (stored : stage.stored = true) : stage.counted = true := by
  cases stage <;> first | rfl | cases stored

/-- A start, whether its `private_t` holds a pipe, and that pipe. -/
structure Lodged (phase : Phase) (audioPipe : Bool) (pipe : Pipe) : Prop where
  unmade : phase = .unmade → audioPipe = false ∧ pipe.reaper = .none
  building : phase = .building → audioPipe = true
  stored : phase = .stored → audioPipe = false → pipe.reaper ≠ .none
  failed : phase = .failed → audioPipe = false
  unhanded : audioPipe = true → pipe.reaper = .none
  undialled : audioPipe = false → pipe.reaper = .none →
    pipe.connection = .unconnected
  reaped : pipe.reaper = .deleted ∨ pipe.reaper = .done →
    pipe.connection = .closed
  idle : pipe.connection = .closed → pipe.notice = .idle

namespace Lodged

variable {phase : Phase} {audioPipe : Bool} {pipe : Pipe}

theorem fresh : Lodged .unmade false .fresh := by
  constructor <;> simp [Pipe.fresh]

theorem fail (lodged : Lodged .unmade audioPipe pipe) :
    Lodged .failed audioPipe pipe :=
  { lodged with
    unmade := by rintro ⟨⟩
    building := by rintro ⟨⟩
    stored := by rintro ⟨⟩
    failed := fun _ => (lodged.unmade rfl).1 }

theorem make (lodged : Lodged .unmade audioPipe pipe) :
    Lodged .building true pipe := by
  obtain ⟨absent, idle⟩ := lodged.unmade rfl
  have unconnected := lodged.undialled absent idle
  constructor <;> simp [idle, unconnected]

theorem store (lodged : Lodged .building audioPipe pipe) :
    Lodged .stored audioPipe pipe :=
  { lodged with
    unmade := by rintro ⟨⟩
    building := by rintro ⟨⟩
    stored := by simp [lodged.building rfl]
    failed := by rintro ⟨⟩ }

theorem abandon (lodged : Lodged .building audioPipe pipe)
    (unconnected : pipe.connection = .unconnected) :
    Lodged .unmade false pipe := by
  have idle := lodged.unhanded (lodged.building rfl)
  constructor <;> simp [idle, unconnected]

theorem hand (lodged : Lodged phase true pipe) {later : Phase}
    (left : later = .stored ∨ later = .failed) :
    Lodged later false { pipe with reaper := .spawned } := by
  have idle := lodged.idle
  rcases left with rfl | rfl <;> constructor <;>
    first | exact idle | simp

theorem dial (lodged : Lodged phase audioPipe pipe)
    (made : phase = .building ∨ phase = .stored)
    (unconnected : pipe.connection = .unconnected) :
    Lodged phase audioPipe { pipe with connection := .pending } := by
  have open_ : ¬ (pipe.reaper = .deleted ∨ pipe.reaper = .done) := by
    intro reaped
    rw [lodged.reaped reaped] at unconnected
    cases unconnected
  refine { lodged with undialled := ?_, reaped := ?_, idle := by simp }
  · intro absent idle
    rcases made with rfl | rfl
    · rw [lodged.building rfl] at absent
      cases absent
    · exact (lodged.stored rfl absent idle).elim
  · exact fun reaped => (open_ reaped).elim

theorem reap (lodged : Lodged phase audioPipe pipe) {later : Pipe}
    (before : pipe.reaper ≠ .none) (after : later.reaper ≠ .none)
    (connection : later.connection = pipe.connection)
    (notice : later.notice = pipe.notice)
    (closed : later.reaper = .deleted ∨ later.reaper = .done →
      pipe.connection = .closed) : Lodged phase audioPipe later := by
  have unheld : audioPipe ≠ true :=
    fun present => before (lodged.unhanded present)
  refine ⟨?_, lodged.building, fun _ _ => after, lodged.failed, ?_, ?_, ?_, ?_⟩
  · exact fun unmade => (before (lodged.unmade unmade).2).elim
  · exact fun present => (unheld present).elim
  · exact fun _ idle => (after idle).elim
  · rw [connection]
    exact closed
  · rw [connection, notice]
    exact lodged.idle

theorem serve (lodged : Lodged phase audioPipe pipe) {later : Pipe}
    (reaper : later.reaper = pipe.reaper)
    (dialled : pipe.connection ≠ .unconnected)
    (unclosed : pipe.connection ≠ .closed)
    (idle : later.connection = .closed → later.notice = .idle) :
    Lodged phase audioPipe later := by
  refine ⟨?_, lodged.building, ?_, lodged.failed, ?_, ?_, ?_, idle⟩ <;>
    rw [reaper]
  · exact lodged.unmade
  · exact lodged.stored
  · exact lodged.unhanded
  · exact fun absent none => (dialled (lodged.undialled absent none)).elim
  · exact fun reaped => (unclosed (lodged.reaped reaped)).elim

end Lodged

/-- `close()` and `finish()` touch neither the connection nor its callbacks. -/
theorem reap_keeps (module : Module) (pipe : Pipe) :
    (reap module pipe).reaper = .waiting ∧
      (reap module pipe).connection = pipe.connection ∧
      (reap module pipe).notice = pipe.notice := by
  cases module with
  | audioFork => exact ⟨rfl, rfl, rfl⟩
  | deepgram =>
      simp only [reap]
      split <;> exact ⟨rfl, rfl, rfl⟩

/-- The pipe is counted in `g_activePipes`. -/
def gated (s : State) (n : Nat) : Bool :=
  live s n || decide (s.control.starts n = .releasing)

/-- A step that moves the start n, its pipe or its reaper, and no other. -/
structure Moves (s s' : State) (n : Nat) (events : List Event) : Prop where
  starts : ∀ m, m ≠ n → s'.control.starts m = s.control.starts m
  audioPipe : ∀ m, m ≠ n →
    (s'.control.techPvts m).audioPipe = (s.control.techPvts m).audioPipe
  pipes : ∀ m, m ≠ n → s'.pipes m = s.pipes m
  elsewhere : ∀ m, m ≠ n → .activated m ∉ events ∧ .released m ∉ events
  bound : s'.control.idxCallCount = s.control.idxCallCount
  lodged : Lodged (s'.control.starts n).phase
    (s'.control.techPvts n).audioPipe (s'.pipes n)
  reaped : (s.pipes n).reaper ≠ .none → (s'.pipes n).reaper ≠ .none
  balance : events.count (.activated n) + (gated s n).toNat =
    events.count (.released n) + (gated s' n).toNat
  single : events.count (.activated n) + (s.control.starts n).counted.toNat ≤
    (s'.control.starts n).counted.toNat
  activePipes : s'.activePipes =
    s.activePipes + events.count (.activated n) - events.count (.released n)

theorem Moves.still {s s' : State} {events : List Event} (n : Nat)
    (starts : s'.control.starts = s.control.starts)
    (audioPipe : ∀ m, (s'.control.techPvts m).audioPipe =
      (s.control.techPvts m).audioPipe)
    (pipes : s'.pipes = s.pipes)
    (bound : s'.control.idxCallCount = s.control.idxCallCount)
    (activePipes : s'.activePipes = s.activePipes)
    (quiet : ∀ m, .activated m ∉ events ∧ .released m ∉ events)
    (lodged : Lodged (s.control.starts n).phase
      (s.control.techPvts n).audioPipe (s.pipes n)) : Moves s s' n events := by
  have none := List.count_eq_zero.mpr (quiet n).1
  have none' := List.count_eq_zero.mpr (quiet n).2
  refine ⟨fun m _ => by rw [starts], fun m _ => audioPipe m,
    fun m _ => by rw [pipes], fun m _ => quiet m, bound, ?_, ?_, ?_, ?_, ?_⟩
  · rw [starts, audioPipe, pipes]
    exact lodged
  · rw [pipes]
    exact id
  · rw [none, none']
    unfold gated live
    rw [starts, audioPipe, pipes]
  · rw [none, starts, Nat.zero_add]
  · rw [none, none', activePipes]
    simp

/-- What `gated` says of a start, its `private_t` and its pipe. -/
theorem gated_eq {s : State} {n : Nat} {stage : StartStage} {audioPipe : Bool}
    {pipe : Pipe} (start : s.control.starts n = stage)
    (present : (s.control.techPvts n).audioPipe = audioPipe)
    (here : s.pipes n = pipe) :
    gated s n = (audioPipe && stage.counted || pipe.reaper.running ||
      decide (stage = .releasing)) := by
  unfold gated live
  rw [start, present, here]

theorem audioPipe_set {c : Control} {n : Nat} {techPvt : TechPvt} (m : Nat) :
    ((c.setTechPvt n techPvt).techPvts m).audioPipe =
      if m = n then techPvt.audioPipe else (c.techPvts m).audioPipe := by
  rw [Control.techPvts_setTechPvt]
  split <;> rfl

theorem audioPipe_same {c : Control} {n : Nat} (m : Nat) :
    (c.techPvts m).audioPipe =
      if m = n then (c.techPvts n).audioPipe else (c.techPvts m).audioPipe := by
  split
  · rename_i same
    rw [same]
  · rfl

theorem pipes_same {s : State} {n : Nat} :
    s.pipes = Function.update s.pipes n (s.pipes n) :=
  (Function.update_eq_self n s.pipes).symm

theorem Moves.advance {s s' : State} {n : Nat} {stage stage' : StartStage}
    {audioPipe audioPipe' : Bool} {pipe' : Pipe} {events : List Event}
    (start : s.control.starts n = stage)
    (present : (s.control.techPvts n).audioPipe = audioPipe)
    (starts : s'.control.starts = Function.update s.control.starts n stage')
    (techPvts : ∀ m, (s'.control.techPvts m).audioPipe =
      if m = n then audioPipe' else (s.control.techPvts m).audioPipe)
    (pipes : s'.pipes = Function.update s.pipes n pipe')
    (bound : s'.control.idxCallCount = s.control.idxCallCount)
    (elsewhere : ∀ m, m ≠ n → .activated m ∉ events ∧ .released m ∉ events)
    (lodged : Lodged stage'.phase audioPipe' pipe')
    (reaped : (s.pipes n).reaper ≠ .none → pipe'.reaper ≠ .none)
    (balance : events.count (.activated n) +
        (audioPipe && stage.counted || (s.pipes n).reaper.running ||
          decide (stage = .releasing)).toNat =
      events.count (.released n) +
        (audioPipe' && stage'.counted || pipe'.reaper.running ||
          decide (stage' = .releasing)).toNat)
    (single : events.count (.activated n) + stage.counted.toNat ≤
      stage'.counted.toNat)
    (activePipes : s'.activePipes = s.activePipes +
      events.count (.activated n) - events.count (.released n)) :
    Moves s s' n events := by
  have start' : s'.control.starts n = stage' := by simp [starts]
  have present' : (s'.control.techPvts n).audioPipe = audioPipe' := by
    simp [techPvts]
  have here' : s'.pipes n = pipe' := by simp [pipes]
  refine ⟨?_, ?_, ?_, elsewhere, bound, ?_, ?_, ?_, ?_, activePipes⟩
  · intro m different
    rw [starts, Function.update_of_ne different]
  · intro m different
    rw [techPvts, if_neg different]
  · intro m different
    rw [pipes, Function.update_of_ne different]
  · rw [start', present', here']
    exact lodged
  · rw [here']
    exact reaped
  · rw [gated_eq start present rfl, gated_eq start' present' here']
    exact balance
  · rw [start, start']
    exact single

theorem Moves.pass {s s' : State} {n : Nat} {stage stage' : StartStage}
    {events : List Event} (start : s.control.starts n = stage)
    (starts : s'.control.starts = Function.update s.control.starts n stage')
    (techPvts : s'.control.techPvts = s.control.techPvts)
    (pipes : s'.pipes = s.pipes)
    (bound : s'.control.idxCallCount = s.control.idxCallCount)
    (activePipes : s'.activePipes = s.activePipes)
    (quiet : ∀ m, .activated m ∉ events ∧ .released m ∉ events)
    (lodged : Lodged stage'.phase (s.control.techPvts n).audioPipe (s.pipes n))
    (balance : ((s.control.techPvts n).audioPipe && stage.counted ||
        decide (stage = .releasing)) =
      ((s.control.techPvts n).audioPipe && stage'.counted ||
        decide (stage' = .releasing)))
    (single : stage.counted.toNat ≤ stage'.counted.toNat) :
    Moves s s' n events := by
  have none := List.count_eq_zero.mpr (quiet n).1
  have none' := List.count_eq_zero.mpr (quiet n).2
  refine Moves.advance start rfl starts ?_ ?_ bound
    (fun m _ => quiet m) lodged id ?_ ?_ ?_
  · rw [techPvts]
    exact audioPipe_same
  · exact pipes.trans pipes_same
  · rw [none, none', Bool.or_right_comm, balance, Bool.or_right_comm]
  · rw [none, Nat.zero_add]
    exact single
  · rw [none, none', activePipes]
    simp

theorem Moves.start {module : Module} {s s' : State} {n : Nat} {init : Init}
    {ok : Bool} {events : List Event}
    (lodged : Lodged (s.control.starts n).phase
      (s.control.techPvts n).audioPipe (s.pipes n))
    (dialled : Dialled module s)
    (step : stepStart module s n init ok = some (s', events)) :
    Moves s s' n events := by
  obtain ⟨stage, here, taken⟩ := stepStart_cases step
  have unconnected := dialled.unconnected n
  rw [here] at lodged unconnected
  cases taken with
  | refuse | decline | fail =>
      have absent := (lodged.unmade rfl).1
      exact Moves.pass here rfl rfl rfl rfl rfl (by simp) lodged.fail
        (by simp [absent]) (by decide)
  | replace | enter | replaced =>
      exact Moves.pass here rfl rfl rfl rfl rfl (by simp) lodged rfl
        (by decide)
  | attach | orphan =>
      exact Moves.pass here rfl rfl rfl rfl rfl (by simp) lodged rfl (by decide)
  | publish | store =>
      exact Moves.pass here rfl rfl rfl rfl rfl (by simp) lodged.store rfl
        (by decide)
  | reach | reachNull =>
      exact Moves.pass here rfl rfl rfl rfl rfl (by simp) lodged rfl (by decide)
  | abandonNull absent | handNull absent =>
      rw [lodged.building rfl] at absent
      cases absent
  | construct =>
      refine Moves.advance here rfl rfl audioPipe_set pipes_same rfl (by simp)
        lodged.make id ?_ ?_ ?_ <;> simp [StartStage.counted]
  | activate | count =>
      have present := lodged.building rfl
      have idle := lodged.unhanded present
      refine Moves.advance here rfl rfl audioPipe_same pipes_same rfl (by simp)
        lodged id ?_ ?_ ?_ <;>
        simp [StartStage.counted, Reaper.running, Control.setStart, present,
          idle]
  | dial =>
      refine Moves.advance here rfl rfl audioPipe_same rfl rfl (by simp)
        (lodged.dial (.inl rfl) (unconnected rfl)) id ?_ ?_ ?_ <;>
        simp [StartStage.counted, State.setPipe]
  | abandon present =>
      refine Moves.advance here present rfl audioPipe_set pipes_same rfl
        (by simp) (lodged.abandon (unconnected rfl)) id ?_ ?_ ?_ <;>
        simp [StartStage.counted]
  | hand present =>
      have idle := lodged.unhanded present
      rw [present] at lodged
      refine Moves.advance here present rfl audioPipe_set rfl rfl (by simp)
        (lodged.hand (.inr rfl)) (by simp) ?_ ?_ ?_ <;>
        simp [StartStage.counted, Reaper.running, State.setPipe]
  | release =>
      obtain ⟨absent, idle⟩ := lodged.unmade rfl
      refine Moves.advance here rfl rfl audioPipe_same pipes_same rfl (by simp)
        lodged.fail id ?_ ?_ ?_ <;>
        simp [StartStage.counted, Reaper.running, Control.setStart, absent,
          idle]
  | connect =>
      refine Moves.advance here rfl rfl audioPipe_same rfl rfl (by simp)
        (lodged.dial (.inr rfl) (unconnected rfl)) id ?_ ?_ ?_ <;>
        simp [StartStage.counted, State.setPipe, Control.setStart]

theorem Moves.cleanup {module : Module} {s s' : State} {caller : Caller}
    {events : List Event} (owned : Owned s.control)
    (lodged : ∀ n, Lodged (s.control.starts n).phase
      (s.control.techPvts n).audioPipe (s.pipes n))
    (handed : ∀ bug held,
      (s.control.cleanups caller).stage = .destroying bug held →
      (s.pipes bug).reaper ≠ .none)
    (step : stepCleanup module s caller = some (s', events)) :
    ∃ n, Moves s s' n events := by
  obtain ⟨stage, here, taken⟩ := stepCleanup_cases step
  cases taken with
  | @hand bug held present =>
      have stored := owned.resolved caller bug (by rw [here]; rfl)
      have idle := (lodged bug).unhanded present
      have counted := StartStage.counted_of_stored stored
      have phase := StartStage.phase_of_stored stored
      have before := lodged bug
      rw [phase, present] at before
      refine ⟨bug, Moves.advance rfl present
        (Function.update_eq_self bug s.control.starts).symm audioPipe_set rfl
        rfl (by simp) ?_ (by simp) ?_ ?_ ?_⟩
      · rw [phase]
        exact before.hand (.inl rfl)
      · simp [counted, idle, Reaper.running]
      · simp
      · simp [State.setPipe]
  | @destroy bug held present =>
      exact (handed bug held here ((lodged bug).unhanded present)).elim
  | lock | yields =>
      exact ⟨0, Moves.still 0 rfl (audioPipe_setTechPvt rfl) rfl rfl rfl
        (by simp) (lodged 0)⟩
  | destroyNull absent =>
      exact ⟨0, Moves.still 0 rfl (audioPipe_setTechPvt absent.symm) rfl rfl
        rfl (by simp) (lodged 0)⟩
  | _ =>
      exact ⟨0, Moves.still 0 rfl (fun _ => rfl) rfl rfl rfl (by simp)
        (lodged 0)⟩

theorem Moves.setPipe {s : State} {n : Nat} {pipe : Pipe} {events : List Event}
    (quiet : ∀ m, .activated m ∉ events ∧ .released m ∉ events)
    (lodged : Lodged (s.control.starts n).phase
      (s.control.techPvts n).audioPipe pipe)
    (reaped : (s.pipes n).reaper ≠ .none → pipe.reaper ≠ .none)
    (running : pipe.reaper.running = (s.pipes n).reaper.running) :
    Moves s (s.setPipe n pipe) n events := by
  have none := List.count_eq_zero.mpr (quiet n).1
  have none' := List.count_eq_zero.mpr (quiet n).2
  refine Moves.advance rfl rfl
    (Function.update_eq_self n s.control.starts).symm audioPipe_same rfl rfl
    (fun m _ => quiet m) lodged reaped ?_ ?_ ?_
  · rw [none, none', running]
    rfl
  · rw [none, Nat.zero_add]
  · rw [none, none']
    simp [State.setPipe]

theorem Moves.reaper {module : Module} {s s' : State} {n : Nat}
    {events : List Event}
    (lodged : Lodged (s.control.starts n).phase
      (s.control.techPvts n).audioPipe (s.pipes n))
    (step : stepReaper module s n = some (s', events)) :
    Moves s s' n events := by
  obtain ⟨stage, here, taken⟩ := stepReaper_cases step
  cases taken with
  | finish =>
      obtain ⟨waiting, connection, notice⟩ := reap_keeps module (s.pipes n)
      refine Moves.setPipe (by simp) ?_ (by simp [waiting]) ?_
      · exact lodged.reap (by simp [here]) (by simp [waiting]) connection
          notice (by simp [waiting])
      · rw [waiting, here]
        rfl
  | delete closed =>
      refine Moves.setPipe (by simp) ?_ (by simp) ?_
      · exact lodged.reap (by simp [here]) (by simp) rfl rfl fun _ => closed
      · rw [here]
        rfl
  | release =>
      have closed := lodged.reaped (.inl here)
      have unheld : (s.control.techPvts n).audioPipe = false := by
        by_contra present
        rw [lodged.unhanded (by simpa using present)] at here
        cases here
      have past : s.control.starts n ≠ .releasing := by
        intro releasing
        rw [releasing] at lodged
        rw [(lodged.unmade rfl).2] at here
        cases here
      refine Moves.advance rfl rfl
        (Function.update_eq_self n s.control.starts).symm audioPipe_same rfl
        rfl (by simp) ?_ (by simp) ?_ (by simp) ?_
      · exact lodged.reap (by simp [here]) (by simp) rfl rfl fun _ => closed
      · simp [here, past, unheld, Reaper.running, State.setPipe]
      · simp [State.setPipe]

theorem Moves.lws {s s' : State} {n : Nat} {report : Lws}
    {events : List Event}
    (lodged : Lodged (s.control.starts n).phase
      (s.control.techPvts n).audioPipe (s.pipes n))
    (step : stepLws s n report = some (s', events)) :
    Moves s s' n events := by
  obtain ⟨_, taken⟩ := stepLws_cases step
  cases taken with
  | established here | connectionError here | receive here | closed here =>
      exact Moves.setPipe (by simp)
        (lodged.serve rfl (by simp [here]) (by simp [here]) (by simp [here]))
        id rfl

theorem Moves.notice {config : Config} {s s' : State} {n : Nat}
    {located : Bool} {events : List Event}
    (lodged : Lodged (s.control.starts n).phase
      (s.control.techPvts n).audioPipe (s.pipes n))
    (dialled : Dialled config.module s)
    (step : stepNotice config s n located = some (s', events)) :
    Moves s s' n events := by
  obtain ⟨notice, here, taken⟩ := stepNotice_cases step
  have busy : (s.pipes n).notice ≠ .idle := by
    rw [here]
    cases taken <;> simp
  have opened := dialled.opened busy
  have dialled : (s.pipes n).connection ≠ .unconnected := by
    intro unconnected
    rw [unconnected] at opened
    cases opened
  have unclosed : (s.pipes n).connection ≠ .closed :=
    fun closed => busy (lodged.idle closed)
  cases taken <;>
    exact Moves.setPipe (by simp)
      (lodged.serve rfl dialled unclosed (by simp [unclosed])) id rfl

structure Gated (module : Module) (trace : List Event) (s : State) : Prop where
  owned : Owned s.control
  dialled : Dialled module s
  lodged : ∀ n, Lodged (s.control.starts n).phase
    (s.control.techPvts n).audioPipe (s.pipes n)
  handed : ∀ caller bug held,
    (s.control.cleanups caller).stage = .destroying bug held →
    (s.pipes bug).reaper ≠ .none
  active : s.activePipes = tally (gated s) s.control.idxCallCount
  balance : ∀ n, trace.count (.activated n) =
    trace.count (.released n) + (gated s n).toNat
  single : ∀ n, trace.count (.activated n) ≤
    (s.control.starts n).counted.toNat

theorem gated_fresh (module : Module) : Gated module [] .fresh := by
  refine ⟨owned_fresh, dialled_fresh, fun _ => Lodged.fresh, ?_, rfl, ?_, ?_⟩
  · intro caller bug held here
    cases here
  · intro n
    rfl
  · intro n
    exact Nat.zero_le _

theorem ungated_of_uncalled {s : State} {n : Nat}
    (lodged : Lodged (s.control.starts n).phase
      (s.control.techPvts n).audioPipe (s.pipes n))
    (uncalled : s.control.starts n = .notCalled) : gated s n = false := by
  rw [uncalled] at lodged
  obtain ⟨absent, idle⟩ := lodged.unmade rfl
  simp [gated_eq uncalled absent rfl, idle, Reaper.running]

section Count

variable {module : Module} {trace events : List Event} {s s' : State} {n : Nat}

theorem Moves.gated_elsewhere (moves : Moves s s' n events) {m : Nat}
    (different : m ≠ n) : gated s' m = gated s m := by
  unfold gated live
  rw [moves.starts m different, moves.audioPipe m different,
    moves.pipes m different]

theorem Gated.active_move (counted : Gated module trace s)
    (owned : Owned s'.control) (moves : Moves s s' n events) :
    s'.activePipes = tally (gated s') s'.control.idxCallCount := by
  have balance := moves.balance
  rw [moves.bound, moves.activePipes, counted.active]
  by_cases within : n < s.control.idxCallCount
  · have moved : tally (gated s') s.control.idxCallCount =
        tally (gated s) s.control.idxCallCount + (gated s' n).toNat -
          (gated s n).toNat :=
      tally_move within fun m different => moves.gated_elsewhere different
    rw [moved]
    omega
  · have before := ungated_of_uncalled (counted.lodged n)
      (counted.owned.uncalled n (Nat.le_of_not_lt within))
    have after := ungated_of_uncalled moves.lodged
      (owned.uncalled n (by rw [moves.bound]; exact Nat.le_of_not_lt within))
    have same : tally (gated s') s.control.idxCallCount =
        tally (gated s) s.control.idxCallCount := by
      apply tally_congr
      intro m below
      exact moves.gated_elsewhere (by omega)
    rw [before, after] at balance
    rw [same]
    omega

/-- One pipe at most is counted in or out, as the step says. -/
theorem Gated.move (counted : Gated module trace s) (owned : Owned s'.control)
    (dialled : Dialled module s')
    (handed : ∀ caller bug held,
      (s'.control.cleanups caller).stage = .destroying bug held →
      (s'.pipes bug).reaper ≠ .none) (moves : Moves s s' n events) :
    Gated module (trace ++ events) s' := by
  refine ⟨owned, dialled, ?_, handed, counted.active_move owned moves, ?_, ?_⟩
  · intro m
    by_cases same : m = n
    · rw [same]
      exact moves.lodged
    · rw [moves.starts m same, moves.audioPipe m same, moves.pipes m same]
      exact counted.lodged m
  · intro m
    have before := counted.balance m
    rw [List.count_append, List.count_append]
    by_cases same : m = n
    · have balance := moves.balance
      rw [same] at before ⊢
      omega
    · obtain ⟨unactivated, unreleased⟩ := moves.elsewhere m same
      rw [List.count_eq_zero.mpr unactivated,
        List.count_eq_zero.mpr unreleased, moves.gated_elsewhere same]
      exact before
  · intro m
    have before := counted.single m
    rw [List.count_append]
    by_cases same : m = n
    · have single := moves.single
      rw [same] at before ⊢
      omega
    · rw [List.count_eq_zero.mpr (moves.elsewhere m same).1,
        moves.starts m same]
      exact before

/-- The reaper of a pipe, once it has one, stays. -/
theorem Moves.reaped_anywhere (moves : Moves s s' n events) {m : Nat}
    (reaped : (s.pipes m).reaper ≠ .none) : (s'.pipes m).reaper ≠ .none := by
  by_cases same : m = n
  · rw [same] at reaped ⊢
    exact moves.reaped reaped
  · rw [moves.pipes m same]
    exact reaped

end Count

theorem Gated.callStart {module : Module} {trace : List Event} {s s' : State}
    {metadata : AudioFork.Bytes} (counted : Gated module trace s)
    (owned : Owned s'.control) (dialled : Dialled module s')
    (next : s' = { s with
      control := ({ s.control with
        idxCallCount := s.control.idxCallCount + 1 }.setTechPvt
          s.control.idxCallCount
          { s.control.techPvts s.control.idxCallCount with
            initialMetadata := metadata }).setStart
              s.control.idxCallCount .entered }) :
    Gated module (trace ++ []) s' := by
  let n := s.control.idxCallCount
  have uncalled := counted.owned.uncalled n (Nat.le_refl _)
  have lodged := counted.lodged n
  rw [uncalled] at lodged
  obtain ⟨absent, idle⟩ := lodged.unmade rfl
  have audioPipe (m : Nat) : (s'.control.techPvts m).audioPipe =
      (s.control.techPvts m).audioPipe := by
    rw [next]
    dsimp only [Control.setStart]
    exact audioPipe_setTechPvt (by rfl) m
  have starts (m : Nat) : s'.control.starts m =
      if m = n then .entered else s.control.starts m := by
    rw [next]
    exact Control.starts_setStart
  have pipes : s'.pipes = s.pipes := by rw [next]
  have same (m : Nat) : gated s' m = gated s m := by
    unfold gated live
    rw [starts, audioPipe, pipes]
    split
    · rename_i here
      rw [here, uncalled]
      rfl
    · rfl
  rw [List.append_nil]
  refine ⟨owned, dialled, ?_, ?_, ?_, ?_, ?_⟩
  · intro m
    rw [starts, audioPipe, pipes]
    split
    · rename_i here
      rw [here]
      exact lodged
    · exact counted.lodged m
  · rw [pipes, next]
    exact counted.handed
  · have fresh : gated s n = false :=
      ungated_of_uncalled (counted.lodged n) uncalled
    have bound : s'.control.idxCallCount = n + 1 := by rw [next]; rfl
    have active : s'.activePipes = s.activePipes := by rw [next]
    calc s'.activePipes
        = tally (gated s) n := active.trans counted.active
      _ = tally (gated s) (n + 1) := (tally_succ fresh).symm
      _ = tally (gated s') (n + 1) := (tally_congr fun m _ => same m).symm
      _ = tally (gated s') s'.control.idxCallCount := by rw [bound]
  · intro m
    rw [same]
    exact counted.balance m
  · intro m
    have before := counted.single m
    rw [starts]
    split
    · rename_i here
      rw [here, uncalled] at before
      exact here ▸ before
    · exact before

theorem destroying_of_call {c : Control} {caller other : Caller}
    {text : Option AudioFork.Bytes} {stage : CleanupStage} {bug held : Nat}
    (outside : stage ≠ .destroying bug held)
    (here : ((c.call caller text stage).cleanups other).stage =
      .destroying bug held) :
    (c.cleanups other).stage = .destroying bug held := by
  rw [Control.cleanups_call] at here
  split at here
  · exact (outside here).elim
  · exact here

theorem destroying_of_start {module : Module} {s s' : State} {n : Nat}
    {init : Init} {ok : Bool} {events : List Event} {caller : Caller}
    {bug held : Nat} (step : stepStart module s n init ok = some (s', events))
    (here : (s'.control.cleanups caller).stage = .destroying bug held) :
    (s.control.cleanups caller).stage = .destroying bug held := by
  obtain ⟨_, _, taken⟩ := stepStart_cases step
  cases taken with
  | replace => exact destroying_of_call (by simp) here
  | _ => exact here

theorem destroying_of_set {c : Control} {caller other : Caller}
    {stage : CleanupStage} {bug held : Nat}
    (outside : stage ≠ .destroying bug held)
    (here : ((c.setCleanup caller stage).cleanups other).stage =
      .destroying bug held) :
    (c.cleanups other).stage = .destroying bug held := by
  rw [Control.cleanups_setCleanup] at here
  split at here
  · exact (outside here).elim
  · exact here

/-- A cleanup destroys a `private_t` after it has handed the pipe over, or found
it handed over. -/
theorem destroying_of_cleanup {module : Module} {s s' : State}
    {caller other : Caller} {events : List Event} {bug held : Nat}
    (owned : Owned s.control)
    (lodged : ∀ n, Lodged (s.control.starts n).phase
      (s.control.techPvts n).audioPipe (s.pipes n))
    (step : stepCleanup module s caller = some (s', events))
    (here : (s'.control.cleanups other).stage = .destroying bug held) :
    (s.control.cleanups other).stage = .destroying bug held ∨
      (s'.pipes bug).reaper ≠ .none := by
  obtain ⟨stage, before, taken⟩ := stepCleanup_cases step
  cases taken with
  | @hand bug' held' present =>
      by_cases same : bug = bug'
      · right
        simp [State.setPipe, same]
      · left
        exact destroying_of_set (by simp [Ne.symm same]) here
  | @handNull bug' held' absent =>
      by_cases same : bug = bug'
      · right
        have stored := owned.resolved caller bug' (by rw [before]; rfl)
        rw [same]
        exact (lodged bug').stored (StartStage.phase_of_stored stored) absent
      · left
        exact destroying_of_set (by simp [Ne.symm same]) here
  | remove =>
      exact .inl (destroying_of_call (by simp)
        (destroying_of_set (by simp) here))
  | _ => exact .inl (destroying_of_set (by simp) here)

theorem Gated.step {config : Config} {trace events : List Event}
    {s s' : State} {act : Act} (counted : Gated config.module trace s)
    (step : (machine config).step s act = some (s', events)) :
    Gated config.module (trace ++ events) s' := by
  have owned := counted.owned.step step
  have dialled := counted.dialled.step counted.owned step
  simp only [machine, Sessions.step] at step
  cases act with
  | callStart metadata =>
      cases step
      exact counted.callStart owned dialled rfl
  | start n init ok =>
      have moves := Moves.start (counted.lodged n) counted.dialled step
      refine counted.move owned dialled ?_ moves
      exact fun caller bug held here => moves.reaped_anywhere
        (counted.handed caller bug held (destroying_of_start step here))
  | callStop call text =>
      dsimp only at step
      split at step <;> cases step
      refine counted.move owned dialled ?_ (Moves.still 0 rfl (fun _ => rfl)
        rfl rfl rfl (by simp) (counted.lodged 0))
      intro caller bug held here
      refine counted.handed caller bug held (destroying_of_call ?_ here)
      split <;> simp
  | hangup bug =>
      dsimp only at step
      split at step <;> cases step
      refine counted.move owned dialled ?_ (Moves.still 0 rfl (fun _ => rfl)
        rfl rfl rfl (by simp) (counted.lodged 0))
      intro caller other held here
      exact counted.handed caller other held
        (destroying_of_call (by simp) here)
  | cleanup caller =>
      obtain ⟨n, moves⟩ := Moves.cleanup counted.owned counted.lodged
        (counted.handed caller) step
      refine counted.move owned dialled ?_ moves
      intro other bug held here
      rcases destroying_of_cleanup counted.owned counted.lodged step here with
        before | now
      · exact moves.reaped_anywhere (counted.handed other bug held before)
      · exact now
  | reaper n =>
      have moves := Moves.reaper (counted.lodged n) step
      refine counted.move owned dialled ?_ moves
      rw [(stepReaper_control step).1]
      exact fun caller bug held here =>
        moves.reaped_anywhere (counted.handed caller bug held here)
  | lws n report =>
      have moves := Moves.lws (counted.lodged n) step
      refine counted.move owned dialled ?_ moves
      rw [(stepLws_control step).1]
      exact fun caller bug held here =>
        moves.reaped_anywhere (counted.handed caller bug held here)
  | notice n located =>
      have moves := Moves.notice (counted.lodged n) counted.dialled step
      refine counted.move owned dialled ?_ moves
      rw [(stepNotice_control step).1]
      exact fun caller bug held here =>
        moves.reaped_anywhere (counted.handed caller bug held here)

/-- The start has been called and has not returned. -/
def StartStage.inProgress : StartStage → Bool
  | .notCalled | .returned _ => false
  | _ => true

/-- No code is going to use a pipe: none is held by a `private_t`, none has a
reaper that still runs, and lws has no callback left to make on any. -/
structure Unused (s : State) : Prop where
  audioPipe : ∀ n, (s.control.techPvts n).audioPipe = false
  reaper : ∀ n, (s.pipes n).reaper.running = false
  connection : ∀ n, (s.pipes n).connection = .unconnected ∨
    (s.pipes n).connection = .closed
  notice : ∀ n, (s.pipes n).notice = .idle

theorem Gated.unused {module : Module} {trace : List Event} {s : State}
    (counted : Gated module trace s) (empty : s.activePipes ≤ 0)
    (quiet : ∀ n, (s.control.starts n).inProgress = false) : Unused s := by
  have ungated (n : Nat) : gated s n = false := by
    by_cases within : n < s.control.idxCallCount
    · rw [counted.active] at empty
      exact absent_of_tally empty n within
    · exact ungated_of_uncalled (counted.lodged n)
        (counted.owned.uncalled n (Nat.le_of_not_lt within))
  have both (n : Nat) : (s.control.techPvts n).audioPipe = false ∧
      (s.pipes n).reaper.running = false := by
    have here := ungated n
    have lodged := counted.lodged n
    have returned := quiet n
    cases stage : s.control.starts n with
    | notCalled =>
        rw [stage] at lodged
        obtain ⟨absent, idle⟩ := lodged.unmade rfl
        exact ⟨absent, by rw [idle]; rfl⟩
    | returned success =>
        rw [gated_eq stage rfl rfl] at here
        simpa [StartStage.counted] using here
    | _ =>
        rw [stage] at returned
        cases returned
  have connection (n : Nat) : (s.pipes n).connection = .unconnected ∨
      (s.pipes n).connection = .closed := by
    obtain ⟨absent, stopped⟩ := both n
    cases reaper : (s.pipes n).reaper with
    | none => exact .inl ((counted.lodged n).undialled absent reaper)
    | done => exact .inr ((counted.lodged n).reaped (.inr reaper))
    | spawned | waiting | deleted =>
        rw [reaper] at stopped
        cases stopped
  refine ⟨fun n => (both n).1, fun n => (both n).2, connection, ?_⟩
  intro n
  rcases connection n with unconnected | closed
  · exact counted.dialled.quiet n (by rw [unconnected]; rfl)
  · exact (counted.lodged n).idle closed

theorem Unused.still {s s' : State} (unused : Unused s)
    (audioPipe : ∀ n, (s'.control.techPvts n).audioPipe =
      (s.control.techPvts n).audioPipe)
    (pipes : s'.pipes = s.pipes) : Unused s' := by
  refine ⟨?_, ?_, ?_, ?_⟩
  · intro n
    rw [audioPipe]
    exact unused.audioPipe n
  · rw [pipes]
    exact unused.reaper
  · rw [pipes]
    exact unused.connection
  · rw [pipes]
    exact unused.notice

/-- Where no start is in progress and none is called, pipes that are not used
stay so. -/
theorem Unused.step {config : Config} {s s' : State} {act : Act}
    {events : List Event} (unused : Unused s)
    (quiet : ∀ n, (s.control.starts n).inProgress = false)
    (uncalled : ∀ metadata, act ≠ .callStart metadata)
    (step : (machine config).step s act = some (s', events)) :
    Unused s' := by
  obtain ⟨module, parse⟩ := config
  simp only [machine, Sessions.step] at step
  cases act with
  | callStart metadata => exact (uncalled metadata rfl).elim
  | start n init ok =>
      obtain ⟨stage, here, taken⟩ := stepStart_cases step
      have returned := quiet n
      rw [here] at returned
      cases taken <;> cases returned
  | callStop call text =>
      dsimp only at step
      split at step <;> cases step
      exact unused.still (fun _ => rfl) rfl
  | hangup bug =>
      dsimp only at step
      split at step <;> cases step
      exact unused.still (fun _ => rfl) rfl
  | cleanup caller =>
      obtain ⟨_, _, taken⟩ := stepCleanup_cases step
      cases taken with
      | hand present | destroy present =>
          rw [unused.audioPipe] at present
          cases present
      | lock | yields =>
          exact unused.still (audioPipe_setTechPvt rfl) rfl
      | destroyNull absent =>
          exact unused.still (audioPipe_setTechPvt absent.symm) rfl
      | _ => exact unused.still (fun _ => rfl) rfl
  | reaper n =>
      obtain ⟨_, here, taken⟩ := stepReaper_cases step
      have stopped := unused.reaper n
      rw [here] at stopped
      cases taken <;> cases stopped
  | lws n report =>
      obtain ⟨_, taken⟩ := stepLws_cases step
      have connection := unused.connection n
      cases taken <;> rename_i here <;> rw [here] at connection <;>
        simp at connection
  | notice n located =>
      obtain ⟨_, here, taken⟩ := stepNotice_cases step
      rw [unused.notice n] at here
      subst here
      cases taken

theorem returned_of_step {config : Config} {s s' : State} {act : Act}
    {events : List Event}
    (quiet : ∀ n, (s.control.starts n).inProgress = false)
    (uncalled : ∀ metadata, act ≠ .callStart metadata)
    (step : (machine config).step s act = some (s', events)) :
    s'.control.starts = s.control.starts := by
  obtain ⟨module, parse⟩ := config
  simp only [machine, Sessions.step] at step
  cases act with
  | callStart metadata => exact (uncalled metadata rfl).elim
  | start n init ok =>
      obtain ⟨stage, here, taken⟩ := stepStart_cases step
      have returned := quiet n
      rw [here] at returned
      cases taken <;> cases returned
  | callStop call text | hangup bug =>
      dsimp only at step
      split at step <;> cases step
      rfl
  | cleanup caller =>
      obtain ⟨_, _, taken⟩ := stepCleanup_cases step
      cases taken <;> rfl
  | reaper n => rw [(stepReaper_control step).1]
  | lws n report => rw [(stepLws_control step).1]
  | notice n located => rw [(stepNotice_control step).1]

/-- A channel adds to `g_activePipes` what it counts itself. -/
theorem writes_of_step {config : Config} {gate : Gate} {s s' : State}
    {act : Act} {events : List Event}
    (step : (machine config).step s act = some (s', events)) :
    (events.foldl Gate.writes gate).activePipes =
      gate.activePipes + s'.activePipes - s.activePipes := by
  obtain ⟨module, parse⟩ := config
  simp only [machine, Sessions.step] at step
  cases act with
  | callStart metadata =>
      cases step
      simp
  | start n init ok =>
      obtain ⟨_, _, taken⟩ := stepStart_cases step
      cases taken with
      | activate | count | release =>
          simp only [List.foldl_cons, List.foldl_nil, Gate.writes]
          omega
      | _ => simp [Gate.writes, State.setPipe]
  | callStop call text | hangup bug =>
      dsimp only at step
      split at step <;> cases step
      simp
  | cleanup caller =>
      obtain ⟨_, _, taken⟩ := stepCleanup_cases step
      cases taken <;> simp [Gate.writes, State.setPipe]
  | reaper n =>
      obtain ⟨_, _, taken⟩ := stepReaper_cases step
      cases taken with
      | release =>
          simp only [List.foldl_cons, List.foldl_nil, Gate.writes,
            State.setPipe]
          omega
      | _ => simp [Gate.writes, State.setPipe]
  | lws n report =>
      obtain ⟨_, taken⟩ := stepLws_cases step
      cases taken <;> simp [Gate.writes, State.setPipe]
  | notice n located =>
      obtain ⟨_, _, taken⟩ := stepNotice_cases step
      cases taken <;> simp [Gate.writes, State.setPipe]

section Channels

variable {config : Config} {s next : Family.State Gate State}
variable {labels : List (Family.Act Act ShutdownAct)}
variable {trace : List (Family.Event Event ShutdownEvent)}

theorem channels_total
    (run : (channels config).machine.Run anyStep
      (channels config).machine.initial labels trace s) :
    ∃ bound, (∀ k, bound ≤ k → s.parts k = .fresh) ∧
      s.shared.activePipes = ∑ k ∈ range bound, (s.parts k).activePipes := by
  refine Family.shared_total Gate.activePipes State.activePipes rfl rfl
    writes_of_step ?_ run
  intro gate gate' act made step
  cases act <;> simp only [channels, Gate.step] at step <;> split at step <;>
    cases step <;> rfl

theorem gated_of_run
    (run : (channels config).machine.Run anyStep
      (channels config).machine.initial labels trace s) (k : Nat) :
    Gated config.module (trace.filterMap (Family.Event.of k)) (s.parts k) :=
  (Family.run_any run k).induct (Gated config.module)
    (gated_fresh config.module) fun counted _ step => counted.step step

/-- No start is called. -/
def uncalled : Family.State Gate State → Family.Act Act ShutdownAct → Bool
  | _, .part _ (.callStart _) => false
  | _, _ => true

/-- The shutdown function, from the reading of `g_activePipes` on. -/
structure Deinitializes (later : List (Family.Event Event ShutdownEvent))
    (s : Family.State Gate State) : Prop where
  quiet : ∀ k n, ((s.parts k).control.starts n).inProgress = false
  empty : ∀ active, s.shared.shutdown = some active → active ≤ 0 →
    ∀ k, Unused (s.parts k)
  unused : .common .deinitialized ∈ later → ∀ k, Unused (s.parts k)

theorem unused_of_empty
    (run : (channels config).machine.Run anyStep
      (channels config).machine.initial labels trace s)
    (quiet : ∀ k n, ((s.parts k).control.starts n).inProgress = false)
    (empty : s.shared.activePipes ≤ 0) (k : Nat) : Unused (s.parts k) := by
  have counted := gated_of_run run
  have positive (m : Nat) : 0 ≤ (s.parts m).activePipes := by
    rw [(counted m).active]
    exact tally_nonneg _ _
  refine (counted k).unused ?_ (quiet k)
  obtain ⟨bound, untouched, total⟩ := channels_total run
  by_cases within : k < bound
  · have part : (s.parts k).activePipes ≤
        ∑ m ∈ range bound, (s.parts m).activePipes :=
      Finset.single_le_sum (fun m _ => positive m) (Finset.mem_range.mpr within)
    omega
  · rw [untouched k (Nat.le_of_not_lt within)]
    exact le_refl _

theorem writes_shutdown (events : List Event) (gate : Gate) :
    (events.foldl Gate.writes gate).shutdown = gate.shutdown := by
  induction events generalizing gate with
  | nil => rfl
  | cons event events ih =>
      rw [List.foldl_cons, ih]
      cases event <;> rfl

theorem Deinitializes.step {later : List (Family.Event Event ShutdownEvent)}
    {label : Family.Act Act ShutdownAct}
    {made : List (Family.Event Event ShutdownEvent)}
    (holds : Deinitializes later s)
    (run : (channels config).machine.Run anyStep
      (channels config).machine.initial labels trace s)
    (admitted : uncalled s label = true)
    (step : (channels config).machine.step s label = some (next, made)) :
    Deinitializes (later ++ made) next := by
  cases Family.step_cases step with
  | @part k act after events _ taken =>
      have none : ∀ metadata, act ≠ .callStart metadata := by
        rintro metadata rfl
        cases admitted
      have starts := returned_of_step (holds.quiet k) none taken
      have still (unused : ∀ m, Unused (s.parts m)) (m : Nat) :
          Unused (Function.update s.parts k after m) := by
        by_cases same : m = k
        · rw [same, Function.update_self]
          exact (unused k).step (holds.quiet k) none taken
        · rw [Function.update_of_ne same]
          exact unused m
      refine ⟨?_, ?_, ?_⟩
      · intro m n
        by_cases same : m = k
        · subst same
          dsimp only
          rw [Function.update_self, starts]
          exact holds.quiet m n
        · dsimp only
          rw [Function.update_of_ne same]
          exact holds.quiet m n
      · intro active read zero
        dsimp only [channels] at read
        rw [writes_shutdown] at read
        exact still (holds.empty active read zero)
      · intro member
        exact still (holds.unused (by simpa using member))
  | @common act shared events taken =>
      cases act with
      | sessionsActive =>
          simp only [channels, Gate.step] at taken
          split at taken <;> cases taken
          refine ⟨holds.quiet, ?_, ?_⟩
          · intro active read zero
            cases read
            have unused := unused_of_empty run holds.quiet zero
            exact unused
          · intro member
            exact holds.unused (by simpa using member)
      | cleanup =>
          simp only [channels, Gate.step] at taken
          split at taken <;> cases taken
          rename_i active read
          refine ⟨holds.quiet, by simp, ?_⟩
          intro member
          rcases List.mem_append.mp member with before | now
          · exact holds.unused before
          · split at now
            · simp at now
            · rename_i zero
              exact holds.empty active read (Int.not_lt.mp zero)

/-- `g_activePipes` is the number of pipes that some code may still use, each
is counted in and out at most once, and where no start is in progress the
contexts are destroyed only when no pipe is used any more. -/
theorem pipes_gated (config : Config)
    {labels : List (Family.Act Act ShutdownAct)}
    {trace : List (Family.Event Event ShutdownEvent)}
    {s : Family.State Gate State}
    (run : (channels config).machine.Run anyStep
      (channels config).machine.initial labels trace s) :
    (∃ bound, (∀ k, bound ≤ k → s.parts k = .fresh) ∧
      s.shared.activePipes = ∑ k ∈ range bound,
        tally (gated (s.parts k)) (s.parts k).control.idxCallCount) ∧
    (∀ k n, (trace.filterMap (Family.Event.of k)).count (.activated n) ≤ 1 ∧
      (trace.filterMap (Family.Event.of k)).count (.activated n) =
        (trace.filterMap (Family.Event.of k)).count (.released n) +
          (gated (s.parts k) n).toNat) ∧
    (s.shared.shutdown = none →
      (∀ k n, ((s.parts k).control.starts n).inProgress = false) →
      ∀ labels' later final,
        (channels config).machine.Run uncalled s labels' later final →
        .common .deinitialized ∈ later → ∀ k, Unused (final.parts k)) := by
  have counted := gated_of_run run
  refine ⟨?_, ?_, ?_⟩
  · obtain ⟨bound, untouched, total⟩ := channels_total run
    refine ⟨bound, untouched, total.trans ?_⟩
    exact Finset.sum_congr rfl fun k _ => (counted k).active
  · intro k n
    refine ⟨?_, (counted k).balance n⟩
    exact ((counted k).single n).trans (Bool.toNat_le _)
  · intro idle quiet labels' later final onward
    have whole : Deinitializes later final ∧
        ∃ labels trace, (channels config).machine.Run anyStep
          (channels config).machine.initial labels trace final := by
      refine onward.induct (fun later final => Deinitializes later final ∧
        ∃ labels trace, (channels config).machine.Run anyStep
          (channels config).machine.initial labels trace final)
        ⟨⟨quiet, by simp [idle], by simp⟩, labels, trace, run⟩ ?_
      rintro later state label next made ⟨holds, labels, trace, run⟩ admitted
        step
      exact ⟨holds.step run admitted step, _, _, run.snoc rfl step⟩
    exact whole.1.unused

/-- The first channel is used once: its session is started, stopped and, once
its connection is closed, reaped. -/
def usesOnce : List (Family.Act Act ShutdownAct) :=
  (startsFork 0 ++ [Act.callStop 0 none] ++ cleans (.stop 0) 8 ++
    cleans (.close 0) 1 ++ cleans (.stop 0) 1 ++
    [Act.reaper 0, .lws 0 .established, .notice 0 true, .notice 0 true,
      .lws 0 (.closed true), .notice 0 true, .notice 0 true, .reaper 0,
      .reaper 0]).map (.part 0)

theorem pipes_gated_of_reaped :
    ∃ trace s later final,
      (channels ⟨.audioFork, fun _ => none⟩).machine.Run anyStep
        (channels ⟨.audioFork, fun _ => none⟩).machine.initial usesOnce trace
        s ∧
      (trace.filterMap (Family.Event.of 0)).count (.released 0) = 1 ∧
      (channels ⟨.audioFork, fun _ => none⟩).machine.Run uncalled s
        [.common .sessionsActive, .common .cleanup] later final ∧
      .common .deinitialized ∈ later ∧ ∀ k, Unused (final.parts k) := by
  let module := (channels ⟨.audioFork, fun _ => none⟩).machine
  have finishes : (module.exec anyStep module.initial usesOnce).isSome =
      true := by
    decide
  let outcome := (module.exec anyStep module.initial usesOnce).get finishes
  have executed : module.exec anyStep module.initial usesOnce =
      some (outcome.1, outcome.2) := (Option.some_get finishes).symm
  have run := Machine.run_of_exec executed
  have unloads : (module.exec uncalled outcome.1
      [.common .sessionsActive, .common .cleanup]).map
      (fun unloaded => decide (.common .deinitialized ∈ unloaded.2)) =
        some true := rfl
  obtain ⟨final, later, onward, observed⟩ :=
    Machine.exists_run_of_exec _ unloads
  have deinitialized : .common .deinitialized ∈ later :=
    of_decide_eq_true observed
  have quiet : ∀ k n,
      ((outcome.1.parts k).control.starts n).inProgress = false := by
    intro k n
    match k, n with
    | 0, 0 | 0, _ + 1 | _ + 1, _ => rfl
  obtain ⟨_, released, unused⟩ := pipes_gated ⟨.audioFork, fun _ => none⟩ run
  refine ⟨outcome.2, outcome.1, later, final, run, ?_, onward, deinitialized,
    unused rfl quiet _ later final onward deinitialized⟩
  have activated : (outcome.2.filterMap (Family.Event.of 0)).count
      (.activated 0) = 1 := rfl
  have ungated : gated (outcome.1.parts 0) 0 = false := rfl
  have balance := (released 0 0).2
  rw [activated, ungated] at balance
  exact balance.symm

end Channels

end DrachtioModules.Sessions

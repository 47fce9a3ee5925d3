import DrachtioModules.Inversion
import DrachtioModules.Transcribe.LockOrder

/-!
# Modules that remove the media bug under their mutex

mod_nvidia_transcribe, mod_nuance_transcribe, mod_soniox_transcribe and
mod_cobalt_transcribe join the read thread and remove the media bug while they
hold `cb->mutex`; their GStreamers have no mutex, and their read threads take no
lock.  A hangup takes the two locks in the opposite order.

`sessionOf` tells the session of a capture.
-/

namespace DrachtioModules.Transcribe.RemovalOrder

open Locks (Cmd Above Mode NoCyclicWait Walk Passes Wants)
open Transcribe.LockOrder

inductive Module where
  | nvidia
  | nuance
  | soniox
  | cobalt
  deriving DecidableEq, Repr

/-- `nvidia_speech_session_cleanup` and its like. -/
def speechSessionCleanup (c : Nat) (removal : Cmd Lock) : Cmd Lock :=
  .guarded (.cbMutex c)
    -- the channel private may be gone
    (.maybe (.seq (.maybe (.await (.thread c))) removal))

/-- `capture_callback` with SWITCH_ABC_TYPE_CLOSE. -/
def captureClose (c : Nat) : Cmd Lock := speechSessionCleanup c .skip

def doStop (session c : Nat) : Cmd Lock :=
  .maybe (speechSessionCleanup c (mediaBugRemove session (captureClose c)))

/-- `nvidia_speech_frame` and its like. -/
def speechFrame (c : Nat) : Cmd Lock :=
  -- no streamer, or the utterance has ended
  .maybe (.tryLock (.cbMutex c) .exclusive
    (.seq .skip (.unlock (.cbMutex c) .exclusive)))

/-- The API commands; `start_timers` is one of mod_nuance_transcribe. -/
inductive Job where
  | start (session : Nat) (previous : Option Nat)
  | stop (c : Nat)
  | startTimers (c : Nat)
  deriving DecidableEq, Repr

def Job.body (m : Module) (sessionOf : Nat → Nat) : Job → Cmd Lock
  | .start session none => .maybe (mediaBugAdd session)
  | .start session (some previous) =>
      .block [doStop session previous, .maybe (mediaBugAdd session)]
  | .stop c => doStop (sessionOf c) c
  | .startTimers c =>
      match m with
      | .nuance => .maybe (.guarded (.cbMutex c) .skip)
      | .nvidia | .soniox | .cobalt => .skip

/-- The one thread of the vendor's side is `grpc_read_thread`. -/
def Module.vendor (m : Module) (sessionOf : Nat → Nat) : Vendor Job Unit :=
  { frame := speechFrame
    close := captureClose
    job := Job.body m sessionOf
    work := fun _ _ => .skip }

section Calling

variable (sessionOf : Nat → Nat)
variable (permitted : Thread Job Unit → Bool) (c : Nat)

/-- A call is about the captures of its session. -/
def proper : Thread Job Unit → Bool
  | .media session captures | .hangup session captures =>
      captures.all (sessionOf · == session)
  | .job (.start session previous) => previous.all (sessionOf · == session)
  | .job _ | .work _ _ => true

def calling {τ : Type} (_ : Locks.State Lock τ) :
    Locks.Act τ (Thread Job Unit) → Bool
  | .call _ thread => permitted thread && proper sessionOf thread
  | .step _ _ => true

/-- A command may stop capture c, or a start that replaces it. -/
def Removes : Prop :=
  permitted (.job (.stop c)) = true ∨
    permitted (.job (.start (sessionOf c) (some c))) = true

/-- A hangup may close capture c. -/
def Closes : Prop :=
  ∃ captures, permitted (.hangup (sessionOf c) captures) = true ∧
    (∀ other ∈ captures, sessionOf other = sessionOf c) ∧ c ∈ captures

end Calling

/-- A mutex stands above the bugs of its session if a hangup takes it, and
below them if a stop does. -/
noncomputable def ranked (closed : Nat → Prop) : Locks.Discipline Lock :=
  open Classical in
  { rank := fun
      | .bugRwlock _ => 1
      | .cbMutex c => if closed c then 2 else 0
      | .thread _ => 3
      | .streamerMutex _ => 4
    recursive := Lock.recursive }

section Ranked

variable {closed : Nat → Prop} {held : List (Lock × Mode)} {session c : Nat}

theorem ranked_bugRwlock (session : Nat) :
    (ranked closed).rank (.bugRwlock session) = 1 := rfl

theorem ranked_thread (c : Nat) : (ranked closed).rank (.thread c) = 3 := rfl

theorem ranked_cbMutex_closed (isClosed : closed c) :
    (ranked closed).rank (.cbMutex c) = 2 := by
  simp [ranked, isClosed]

theorem ranked_cbMutex (alive : ¬ closed c) :
    (ranked closed).rank (.cbMutex c) = 0 := by
  simp [ranked, alive]

theorem ranked_cbMutex_lt (c : Nat) : (ranked closed).rank (.cbMutex c) < 3 := by
  by_cases isClosed : closed c
  · simp [ranked_cbMutex_closed isClosed]
  · simp [ranked_cbMutex isClosed]

/-- Below the read threads. -/
def Below (closed : Nat → Prop) (held : List (Lock × Mode)) : Prop :=
  ∀ lock ∈ held, (ranked closed).rank lock.1 < 3

theorem Below.cons {r : Lock} {mode : Mode} (below : Below closed held)
    (lower : (ranked closed).rank r < 3) :
    Below closed ((r, mode) :: held) := by
  intro lock member
  rcases List.mem_cons.mp member with rfl | member
  · exact lower
  · exact below lock member

/-- The mutex may be held already. -/
theorem speechSessionCleanup_neutral {removal : Cmd Lock}
    (takes : Above (ranked closed) held (.cbMutex c) ∨
      (.cbMutex c, .exclusive) ∈ held)
    (below : Below closed held)
    (removes : removal.Neutral (ranked closed)
      ((.cbMutex c, .exclusive) :: held)) :
    (speechSessionCleanup c removal).Neutral (ranked closed) held := by
  have joins : (Cmd.await (.thread c)).Neutral (ranked closed)
      ((.cbMutex c, .exclusive) :: held) := by
    apply Cmd.Neutral.await
    intro lock member
    rw [ranked_thread]
    exact below.cons (ranked_cbMutex_lt c) lock member
  have taken := takes.imp_right fun member =>
    And.intro (show Lock.recursive (.cbMutex c) = true from rfl) member
  refine ⟨taken, Cmd.Neutral.andThen ?_ (.unlock_last rfl)⟩
  exact .maybe (.seq (.maybe joins) removes)

/-- The bug is removed above the mutex, and CLOSE takes the mutex again. -/
theorem doStop_neutral (alive : ¬ closed c)
    (above : Above (ranked closed) held (.cbMutex c))
    (below : Below closed held) :
    (doStop session c).Neutral (ranked closed) held := by
  have taken : Below closed ((.cbMutex c, .exclusive) :: held) :=
    below.cons (ranked_cbMutex_lt c)
  have outside : Above (ranked closed) ((.cbMutex c, .exclusive) :: held)
      (.bugRwlock session) := by
    apply Above.cons
    · apply above.higher
      simp [ranked_cbMutex alive, ranked_bugRwlock]
    · simp [ranked_cbMutex alive, ranked_bugRwlock]
  have closes : ∀ held', (Lock.cbMutex c, Mode.exclusive) ∈ held' →
      Below closed held' → (captureClose c).Neutral (ranked closed) held' :=
    fun _ member below' =>
      speechSessionCleanup_neutral (.inr member) below' .skip
  apply Cmd.Neutral.maybe
  apply speechSessionCleanup_neutral (.inl above) below
  apply Cmd.Neutral.either
  · apply Cmd.Neutral.guarded outside
    apply Cmd.Neutral.maybe
    apply closes _ (by simp)
    exact taken.cons (by simp [ranked_bugRwlock])
  · apply Cmd.Neutral.seq (.guarded outside .skip)
    exact .seq (.maybe (closes _ (by simp) taken)) .skip

end Ranked

section Permitted

variable {m : Module} {sessionOf : Nat → Nat}
variable {permitted : Thread Job Unit → Bool}

/-- No capture meets a stop and a hangup. -/
def Apart (sessionOf : Nat → Nat) (permitted : Thread Job Unit → Bool) : Prop :=
  ∀ c, ¬ (Removes sessionOf permitted c ∧ Closes sessionOf permitted c)

/-- The order for what is permitted. -/
noncomputable abbrev orderOf (sessionOf : Nat → Nat)
    (permitted : Thread Job Unit → Bool) : Locks.Discipline Lock :=
  ranked (Closes sessionOf permitted)

theorem speechFrame_neutral {d : Locks.Discipline Lock}
    {held : List (Lock × Mode)} (c : Nat) : (speechFrame c).Neutral d held :=
  .maybe (Cmd.Neutral.tryLocked .skip)

theorem Apart.doStop_neutral (apart : Apart sessionOf permitted) {c : Nat}
    (removes : Removes sessionOf permitted c) (session : Nat) :
    (doStop session c).Neutral (orderOf sessionOf permitted) [] := by
  have alive : ¬ Closes sessionOf permitted c :=
    fun closes => apart c ⟨removes, closes⟩
  apply RemovalOrder.doStop_neutral alive (Above.nil _ _)
  simp [Below]

theorem Apart.job_neutral (apart : Apart sessionOf permitted) {task : Job}
    (admitted : permitted (.job task) = true)
    (isProper : proper sessionOf (.job task) = true) :
    (task.body m sessionOf).Neutral (orderOf sessionOf permitted) [] := by
  have adds : ∀ session : Nat, (mediaBugAdd session).Neutral
      (orderOf sessionOf permitted) [] :=
    fun _ => .guarded (Above.nil _ _) .skip
  cases task with
  | start session previous =>
      cases previous with
      | none => exact .maybe (adds session)
      | some previous =>
          obtain rfl : sessionOf previous = session := by
            simpa [proper] using isProper
          apply Cmd.Neutral.seq (apart.doStop_neutral (.inr admitted) _)
          exact .seq (.maybe (adds _)) .skip
  | stop c => exact apart.doStop_neutral (.inl admitted) _
  | startTimers c =>
      cases m with
      | nuance => exact .maybe (.guarded (Above.nil _ _) .skip)
      | nvidia | soniox | cobalt => exact .skip

theorem captureClose_neutral {c : Nat} (closes : Closes sessionOf permitted c)
    (session : Nat) :
    (captureClose c).Neutral (orderOf sessionOf permitted)
      [(.bugRwlock session, .exclusive)] := by
  apply speechSessionCleanup_neutral (.inl _) _ .skip
  · apply (Above.nil _ _).cons
    simp [ranked_bugRwlock, ranked_cbMutex_closed closes]
  · simp [Below, ranked_bugRwlock]

theorem Apart.call_safe (apart : Apart sessionOf permitted)
    {thread : Thread Job Unit} (admitted : permitted thread = true)
    (isProper : proper sessionOf thread = true) :
    ((m.vendor sessionOf).call thread).Safe (orderOf sessionOf permitted) := by
  cases thread with
  | media session captures =>
      refine ⟨.inl (Above.nil _ _), ?_⟩
      refine Cmd.Neutral.andThen ?_ (.unlock_last rfl)
      apply Cmd.Neutral.block
      rintro _ (member : _ ∈ captures.map speechFrame)
      obtain ⟨c, -, rfl⟩ := List.mem_map.mp member
      exact speechFrame_neutral c
  | hangup session captures =>
      have same : ∀ c ∈ captures, sessionOf c = session := by
        simpa [proper] using isProper
      apply Cmd.Neutral.guarded (Above.nil _ _)
      apply Cmd.Neutral.block
      intro close member
      obtain ⟨c, closed, rfl⟩ := List.mem_map.mp member
      refine captureClose_neutral ⟨captures, ?_, ?_, closed⟩ session
      · rwa [same c closed]
      · intro other closed'
        exact (same other closed').trans (same c closed).symm
  | job task => exact apart.job_neutral admitted isProper
  | work thread c => exact Cmd.Neutral.andThen .skip (.unlock_last rfl)

end Permitted

section Walks

variable {c : Nat} {removal : Cmd Lock} {busy : List Lock}
variable {held held' : List (Lock × Mode)} {todo rest : List (Cmd Lock)}

theorem speechSessionCleanup_wants
    (walk : Walk busy todo held' (speechSessionCleanup c removal :: rest)
      held) :
    ∃ rest', Walk busy todo held'
      (.lock (.cbMutex c) .exclusive :: rest') held :=
  ⟨_, walk.trans (.seq .here)⟩

theorem speechSessionCleanup_enters
    (walk : Walk busy todo held' (speechSessionCleanup c removal :: rest) held)
    (free : .cbMutex c ∉ busy) (fresh : .cbMutex c ∉ held.map Prod.fst)
    (idle : .thread c ∉ busy) (other : .thread c ∉ held.map Prod.fst) :
    Walk busy todo held'
      (removal :: .unlock (.cbMutex c) .exclusive :: rest)
      ((.cbMutex c, .exclusive) :: held) := by
  apply walk.trans
  refine .seq (.lock free fresh (.seq (.either false (.seq ?_))))
  refine .either false (.await idle ?_ .here)
  simpa using other

theorem captureClose_passes (free : .cbMutex c ∉ busy)
    (fresh : .cbMutex c ∉ held.map Prod.fst) :
    Passes busy held (captureClose c) :=
  Passes.guarded free fresh Passes.left_out

/-- A hangup that closes capture c, after those before it. -/
theorem hangup_closes (m : Module) (sessionOf : Nat → Nat) (busy : List Lock)
    (session : Nat) {captures : List Nat} (closed : c ∈ captures)
    (free : .bugRwlock session ∉ busy)
    (alone : ∀ other, .cbMutex other ∈ busy → other = c) :
    ∃ rest', Walk busy
      [((m.vendor sessionOf).call (.hangup session captures)).body] []
      (captureClose c :: rest') [(.bugRwlock session, .exclusive)] := by
  obtain ⟨before, after, rfl, absent⟩ := List.eq_append_cons_of_mem closed
  have earlier : ∀ close ∈ before.map (m.vendor sessionOf).close,
      Passes busy [(.bugRwlock session, .exclusive)] close := by
    intro close member
    obtain ⟨other, mine, rfl⟩ := List.mem_map.mp member
    apply captureClose_passes
    · intro taken
      exact absent (alone other taken ▸ mine)
    · simp
  have closes : Walk busy
      [Cmd.block ((before ++ c :: after).map (m.vendor sessionOf).close),
        .unlock (.bugRwlock session) .exclusive]
      [(.bugRwlock session, .exclusive)]
      [captureClose c, Cmd.block (after.map (m.vendor sessionOf).close),
        .unlock (.bugRwlock session) .exclusive]
      [(.bugRwlock session, .exclusive)] := by
    rw [List.map_append]
    exact Walk.block earlier (.seq .here)
  exact ⟨_, .seq (.lock free (by simp) (.seq closes))⟩

end Walks

section Meetings

variable {m : Module} {sessionOf : Nat → Nat} {c : Nat}
variable {permitted : Thread Job Unit → Bool}

theorem Removes.call (removes : Removes sessionOf permitted c) (m : Module) :
    ∃ task, permitted (.job task) = true ∧
      proper sessionOf (.job task) = true ∧
      ∃ rest, ∀ busy, Walk busy [task.body m sessionOf] []
        (doStop (sessionOf c) c :: rest) [] := by
  rcases removes with stop | start
  · exact ⟨.stop c, stop, rfl, [], fun _ => .here⟩
  · refine ⟨.start (sessionOf c) (some c), start, by simp [proper],
      [Cmd.block [.maybe (mediaBugAdd (sessionOf c))]], ?_⟩
    exact fun _ => .seq .here

theorem calling_call (thread : Thread Job Unit)
    (admitted : permitted thread = true)
    (isProper : proper sessionOf thread = true) {τ : Type}
    (s : Locks.State Lock τ) (t : τ) :
    calling sessionOf permitted s (.call t thread) = true := by
  simp [calling, admitted, isProper]

/-- Mutex, then the lock of the bugs; the lock of the bugs, then the mutex. -/
theorem deadlocks_of_stop_and_hangup (m : Module)
    (removes : Removes sessionOf permitted c)
    (closes : Closes sessionOf permitted c) :
    ∃ labels trace final,
      (Locks.machine order (m.vendor sessionOf).call Nat).Run
        (calling sessionOf permitted)
        (Locks.machine order (m.vendor sessionOf).call Nat).initial labels trace
        final ∧ ¬ NoCyclicWait order final := by
  obtain ⟨task, admitted, isProper, rest, begins⟩ := removes.call m
  obtain ⟨captures, admitted', same, closed⟩ := closes
  have isProper' :
      proper sessionOf (.hangup (sessionOf c) captures) = true := by
    simpa [proper] using same
  have cleans := (begins []).trans (.either false .here)
  have stops := (speechSessionCleanup_enters cleans (by simp) (by simp)
    (by simp) (by simp)).trans (.either true (.seq .here))
  obtain ⟨_, hangs⟩ := hangup_closes m sessionOf [.cbMutex c] (sessionOf c)
    closed (by simp) (by simp)
  obtain ⟨_, closing⟩ := speechSessionCleanup_wants hangs
  refine Locks.cyclic_of_inversion 0 1 (.job task)
    (.hangup (sessionOf c) captures) (by decide) ?_ (fun _ _ _ => rfl) stops
    closing ?_ .lock (by simp) .lock (by simp)
  · exact fun s => ⟨calling_call _ admitted isProper s 0,
      calling_call _ admitted' isProper' s 1⟩
  · intro r born
    cases born

end Meetings

/-- Threads of these modules never wait for each other in a cycle exactly when
no capture can meet both a stop (or a start in its place) and the hangup of its
session. -/
theorem removal_waits_acyclic_iff (m : Module) (sessionOf : Nat → Nat)
    (permitted : Thread Job Unit → Bool) :
    (∀ (labels : List (Locks.Act Nat (Thread Job Unit)))
        (trace : List Empty) (final : Locks.State Lock Nat),
        (Locks.machine order (m.vendor sessionOf).call Nat).Run
          (calling sessionOf permitted)
          (Locks.machine order (m.vendor sessionOf).call Nat).initial labels
          trace final →
        NoCyclicWait order final) ↔
      ∀ c, ¬ (Removes sessionOf permitted c ∧ Closes sessionOf permitted c) := by
  constructor
  · rintro acyclic c ⟨removes, closes⟩
    obtain ⟨labels, trace, final, run, cyclic⟩ :=
      deadlocks_of_stop_and_hangup m removes closes
    exact cyclic (acyclic labels trace final run)
  · intro (apart : Apart sessionOf permitted) labels trace final run
    have same : order.recursive = (orderOf sessionOf permitted).recursive := rfl
    rw [Locks.machine_of_recursive same] at run
    have ordered := Locks.ordered_of_admitted (fun s t thread admitted => by
      obtain ⟨admitted, isProper⟩ := Bool.and_eq_true_iff.mp admitted
      exact apart.call_safe admitted isProper) run
    exact ordered.no_cyclic_wait.of_recursive same.symm

end DrachtioModules.Transcribe.RemovalOrder

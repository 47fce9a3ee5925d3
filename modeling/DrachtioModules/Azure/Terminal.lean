import DrachtioModules.Azure.Steps

/-!
# The event that ends a transcription

Every emitter tests `m_finished` or sets it some steps before it reports, and
SessionStopped reports the end without setting it at all.  Between those steps
an emitter is committed: nothing keeps it from reporting any more.  The end is
reported once, and last, in the interleavings that let nobody commit after it
and nobody else be committed at it.
-/

namespace DrachtioModules.Azure

open Transcribe (Bytes)

def Event.isReport : Event → Bool
  | .report _ _ => true
  | _ => false

/-- A call of `responseHandler` with `finished` set. -/
def Event.terminal : Event → Bool
  | .report _ finished => finished
  | _ => false

def Ordered (earlier later : Event) : Prop :=
  earlier.terminal = true → later.isReport = false

/-- At most one terminal event, and no event after it. -/
structure EndsOnce (trace : List Event) : Prop where
  once : trace.countP Event.terminal ≤ 1
  last : trace.Pairwise Ordered

theorem Event.isReport_of_terminal {event : Event}
    (terminal : event.terminal = true) : event.isReport = true := by
  cases event with
  | report response finished => rfl
  | _ => cases terminal

theorem endsOnce_of_pairwise {trace : List Event}
    (ordered : trace.Pairwise Ordered) : EndsOnce trace := by
  refine ⟨?_, ordered⟩
  induction trace with
  | nil => simp
  | cons event rest ih =>
      rw [List.pairwise_cons] at ordered
      obtain ⟨head, tail⟩ := ordered
      rw [List.countP_cons]
      by_cases terminal : event.terminal = true
      · have none : rest.countP Event.terminal = 0 := by
          rw [List.countP_eq_zero]
          intro later member ends
          have silent := head later member terminal
          rw [Event.isReport_of_terminal ends] at silent
          cases silent
        simp [none, terminal]
      · have counted := ih tail
        rw [if_neg terminal]
        omega

inductive Emitter where
  | media
  | handler (n : Nat)
  deriving DecidableEq, Repr

def Act.emitter : Act → Option Emitter
  | .vad _ | .media _ _ => some .media
  | .handler n _ _ => some (.handler n)
  | _ => none

/-- The callback has passed its test of `m_finished`, or has set it; `m_canceled`
still keeps a SessionStopped from reporting. -/
def Handler.committed (canceled : Bool) : Handler → Bool
  | .tested .sessionStarted => false
  | .tested .sessionStopped => !canceled
  | .tested _ | .marked | .canceling | .notifying _ => true
  | _ => false

/-- A failure has set `m_finished`, or a connect has succeeded. -/
def Media.committed : Media → Bool
  | .notifying | .detected => true
  | _ => false

def State.committed (s : State) : Emitter → Bool
  | .media => s.media.committed
  | .handler n => (s.handlers n).committed s.canceled

/-- The step commits its emitter. -/
def commits (s : State) : Act → Bool
  | .vad outcome => s.finished || outcome = .ok
  | .media _ _ => s.media = .failing
  | .handler n _ _ =>
      match s.handlers n with
      | .called callback =>
          !s.finished && (Handler.tested callback).committed s.canceled
      | .failing _ => true
      | _ => false
  | _ => false

/-- The step reports the end. -/
def ends (s : State) : Act → Bool
  | .media _ located => located && s.media = .notifying && s.finished
  | .handler n _ located =>
      located && match s.handlers n with
        | .tested .sessionStarted | .tested .canceled => false
        | .tested .sessionStopped => !s.canceled
        | .tested _ | .notifying _ => s.finished
        | .canceling => true
        | _ => false
  | _ => false

/-- `m_finished` is set, or a SessionStopped has reported the end. -/
def ended (s : State) : Bool :=
  s.finished ||
    (List.range s.dispatched).any fun n => s.handlers n = .returned true

/-- An emitter other than the one that takes the step is committed. -/
def others (s : State) (act : Act) : Bool :=
  (Emitter.media :: (List.range s.dispatched).map .handler).any fun emitter =>
    some emitter != act.emitter && s.committed emitter

/-- Nobody commits once the end is reported or `m_finished` is set, and the end
is reported while nobody else is committed. -/
def ordersEnd (s : State) (act : Act) : Bool :=
  (!commits s act || !ended s) && (!ends s act || !others s act)

/-- Only callbacks the SDK has made are under way, and one that reports a
cancellation has set `m_finished`. -/
structure WellFormed (s : State) : Prop where
  beyond : ∀ n, s.dispatched ≤ n → s.handlers n = .notCalled
  canceling : ∀ n, s.handlers n = .canceling → s.finished = true

theorem wellFormed_fresh {config : Config} : WellFormed (.fresh config) := by
  constructor
  · intro n _
    rfl
  · intro n canceling
    cases canceling

theorem WellFormed.dispatched {s : State} (wellFormed : WellFormed s) {n : Nat}
    (called : s.handlers n ≠ .notCalled) : n < s.dispatched := by
  by_contra beyond
  exact called (wellFormed.beyond n (by omega))

def Ended (s : State) : Prop :=
  s.finished = true ∨ ∃ n, s.handlers n = .returned true

theorem WellFormed.ended_of_Ended {s : State} (wellFormed : WellFormed s)
    (isEnded : Ended s) : ended s = true := by
  unfold ended
  rw [Bool.or_eq_true]
  rcases isEnded with finished | ⟨n, reported⟩
  · exact .inl finished
  · right
    rw [List.any_eq_true]
    refine ⟨n, ?_, by simpa using reported⟩
    rw [List.mem_range]
    apply wellFormed.dispatched
    simp [reported]

theorem WellFormed.alone {s : State} (wellFormed : WellFormed s) {act : Act}
    (alone : others s act = false) {emitter : Emitter}
    (different : act.emitter ≠ some emitter) :
    s.committed emitter = false := by
  by_contra committed
  rw [Bool.not_eq_false] at committed
  have found : others s act = true := by
    unfold others
    rw [List.any_eq_true]
    refine ⟨emitter, ?_, ?_⟩
    · cases emitter with
      | media => simp
      | handler n =>
          apply List.mem_cons_of_mem
          apply List.mem_map_of_mem
          rw [List.mem_range]
          apply wellFormed.dispatched
          intro notCalled
          simp [State.committed, notCalled, Handler.committed] at committed
    · simp [committed, different.symm]
  rw [alone] at found
  cases found

def Silent (events : List Event) : Prop :=
  ∀ event, event ∈ events → event.isReport = false

/-- A step reports nothing, or a committed emitter reports once and is done. -/
inductive Emits (s : State) (act : Act) (s' : State) (events : List Event) :
    Prop where
  | quiet
      (silent : Silent events)
      (joined : ∀ emitter, s'.committed emitter = true →
        s.committed emitter = true ∨ commits s act = true)
  | report (emitter : Emitter) (response : Response) (finished : Bool)
      (reported : events = [.report response finished])
      (acts : act.emitter = some emitter)
      (committed : s.committed emitter = true)
      (done : s'.committed emitter = false)
      (kept : ∀ other, s'.committed other = true → s.committed other = true)
      (ending : finished = true → ends s act = true ∧ Ended s')

/-- Whether the session was located decides whether a committed emitter reports
or gives up. -/
theorem Emits.of_reports {s s' : State} {act : Act} {emitter : Emitter}
    {located finished : Bool} {response : Response}
    (acts : act.emitter = some emitter)
    (committed : s.committed emitter = true)
    (done : s'.committed emitter = false)
    (kept : ∀ other, s'.committed other = true → s.committed other = true)
    (ending : located = true → finished = true → ends s act = true ∧ Ended s') :
    Emits s act s' (reports located response finished) := by
  cases located with
  | false =>
      apply Emits.quiet
      · intro event member
        cases member
      · intro other committed'
        exact .inl (kept other committed')
  | true =>
      exact .report emitter response finished rfl acts committed done kept
        (ending rfl)

/-- A cancellation commits nobody. -/
theorem Handler.committed_of_canceled {handler : Handler} {before after : Bool}
    (canceled : before = true → after = true)
    (committed : handler.committed after = true) :
    handler.committed before = true := by
  cases before with
  | true => rwa [canceled rfl] at committed
  | false =>
      cases handler with
      | tested callback => cases callback <;> first | rfl | cases committed
      | _ => exact committed

def Handler.underWay : Handler → Bool
  | .notCalled | .returned _ => false
  | _ => true

/-- One callback moves on. -/
structure Moves (s : State) (n : Nat) (handler : Handler) (s' : State) :
    Prop where
  underWay : (s.handlers n).underWay = true
  handlers : s'.handlers = Function.update s.handlers n handler
  media : s'.media = s.media
  dispatched : s'.dispatched = s.dispatched
  finished : s.finished = true → s'.finished = true
  canceled : s.canceled = true → s'.canceled = true
  canceling : handler = .canceling → s'.finished = true

namespace Moves

variable {s s' : State} {n : Nat} {handler : Handler}

theorem at_self (moves : Moves s n handler s') : s'.handlers n = handler := by
  rw [moves.handlers, Function.update_self]

theorem committed_self (moves : Moves s n handler s') :
    s'.committed (.handler n) = handler.committed s'.canceled := by
  simp only [State.committed, moves.at_self]

theorem committed_of_ne (moves : Moves s n handler s') {emitter : Emitter}
    (different : emitter ≠ .handler n) (committed : s'.committed emitter = true) :
    s.committed emitter = true := by
  cases emitter with
  | media => simpa only [State.committed, moves.media] using committed
  | handler m =>
      have apart : m ≠ n := by
        rintro rfl
        exact different rfl
      simp only [State.committed, moves.handlers, Function.update_of_ne apart]
        at committed
      exact Handler.committed_of_canceled moves.canceled committed

theorem ended (moves : Moves s n handler s') (isEnded : Ended s) : Ended s' := by
  rcases isEnded with finished | ⟨m, reported⟩
  · exact .inl (moves.finished finished)
  · right
    have apart : m ≠ n := by
      rintro rfl
      have active := moves.underWay
      rw [reported] at active
      cases active
    refine ⟨m, ?_⟩
    rw [moves.handlers, Function.update_of_ne apart, reported]

theorem wellFormed (moves : Moves s n handler s') (before : WellFormed s) :
    WellFormed s' := by
  constructor
  · intro m beyond
    rw [moves.dispatched] at beyond
    have called : n < s.dispatched := by
      apply before.dispatched
      intro notCalled
      have active := moves.underWay
      rw [notCalled] at active
      cases active
    have apart : m ≠ n := by omega
    rw [moves.handlers, Function.update_of_ne apart]
    exact before.beyond m beyond
  · intro m canceling
    rw [moves.handlers] at canceling
    rcases updated_entry canceling with ⟨_, here⟩ | ⟨_, there⟩
    · exact moves.canceling here
    · exact moves.finished (before.canceling m there)

theorem quiet (moves : Moves s n handler s') {ok located : Bool}
    {events : List Event} (silent : Silent events)
    (joined : handler.committed s'.canceled = true →
      s.committed (.handler n) = true ∨
        commits s (.handler n ok located) = true) :
    Emits s (.handler n ok located) s' events := by
  apply Emits.quiet silent
  intro emitter committed
  by_cases same : emitter = .handler n
  · subst emitter
    rw [moves.committed_self] at committed
    exact joined committed
  · exact .inl (moves.committed_of_ne same committed)

theorem free (moves : Moves s n handler s') {ok located : Bool}
    {events : List Event} (silent : Silent events)
    (uncommitted : ∀ canceled, handler.committed canceled = false) :
    Emits s (.handler n ok located) s' events := by
  apply moves.quiet silent
  intro committed
  rw [uncommitted] at committed
  cases committed

theorem stays (moves : Moves s n handler s') {ok located : Bool}
    {events : List Event} (silent : Silent events)
    (committed : s.committed (.handler n) = true) :
    Emits s (.handler n ok located) s' events := by
  apply moves.quiet silent
  intro _
  exact .inl committed

theorem tells (moves : Moves s n handler s') {ok located finished : Bool}
    {response : Response} (committed : s.committed (.handler n) = true)
    (done : ∀ canceled, handler.committed canceled = false)
    (ending : located = true → finished = true →
      ends s (.handler n ok located) = true ∧ Ended s') :
    Emits s (.handler n ok located) s' (reports located response finished) := by
  refine Emits.of_reports rfl committed ?_ ?_ ending
  · rw [moves.committed_self]
    exact done _
  · intro other committed'
    by_cases same : other = .handler n
    · subst other
      exact committed
    · exact moves.committed_of_ne same committed'

end Moves

theorem silent_nil : Silent [] := by
  intro event member
  cases member

theorem silent_pushed (data : Bytes) : Silent [.pushed data] := by
  simp [Silent, Event.isReport]

theorem moves_set {s : State} {n : Nat} {current : Handler}
    (stage : s.handlers n = current) (underWay : current.underWay = true)
    (handler : Handler) (canceling : handler ≠ .canceling) :
    Moves s n handler (s.setHandler n handler) :=
  { underWay := by rw [stage]; exact underWay
    handlers := rfl
    media := rfl
    dispatched := rfl
    finished := fun finished => finished
    canceled := fun canceled => canceled
    canceling := fun same => (canceling same).elim }

/-- What one step of a callback is: it moves, and either reports nothing or
reports and is done. -/
theorem stepHandler_spec {s s' : State} {n : Nat} {ok located : Bool}
    {events : List Event} (wellFormed : WellFormed s)
    (step : stepHandler s n ok located = some (s', events)) :
    ∃ handler, Moves s n handler s' ∧
      Emits s (.handler n ok located) s' events := by
  obtain ⟨current, stage, taken⟩ := stepHandler_cases step
  have underWay : current.underWay = true := by
    cases taken <;> rfl
  have set := moves_set stage underWay
  have committed (here : current.committed s.canceled = true) :
      s.committed (.handler n) = true := by
    rw [State.committed, stage]
    exact here
  cases taken with
  | stop | miss =>
      have moves := set (.returned false) (by simp)
      exact ⟨_, moves, moves.free silent_nil fun _ => rfl⟩
  | @pass callback running =>
      have moves := set (.tested callback) (by simp)
      refine ⟨_, moves, moves.quiet silent_nil ?_⟩
      intro passed
      right
      simpa [commits, stage, running, State.setHandler] using passed
  | drain =>
      have moves := set .draining (by simp)
      exact ⟨_, moves, moves.free silent_nil fun _ => rfl⟩
  | skip | drained =>
      have moves := set .flushing (by simp)
      exact ⟨_, moves, moves.free silent_nil fun _ => rfl⟩
  | @push offset audioBuffer chunk =>
      have moves : Moves s n .draining
          ({ s with audioBuffer := audioBuffer }.setHandler n .draining) := by
        constructor <;> simp [stage, State.setHandler, Handler.underWay]
      exact ⟨_, moves, moves.free (silent_pushed _) fun _ => rfl⟩
  | @pushFails offset audioBuffer chunk =>
      have moves : Moves s n (.failing false)
          ({ s with audioBuffer := audioBuffer }.setHandler n
            (.failing false)) := by
        constructor <;> simp [stage, State.setHandler, Handler.underWay]
      exact ⟨_, moves, moves.free silent_nil fun _ => rfl⟩
  | keep =>
      have moves := set .publishing (by simp)
      exact ⟨_, moves, moves.free silent_nil fun _ => rfl⟩
  | flush =>
      have moves := set .publishing (by simp)
      exact ⟨_, moves, moves.free (silent_pushed _) fun _ => rfl⟩
  | flushFails =>
      have moves := set (.failing true) (by simp)
      exact ⟨_, moves, moves.free silent_nil fun _ => rfl⟩
  | @fail flushed =>
      have moves : Moves s n (.notifying flushed)
          ({ s with finished := true }.setHandler n (.notifying flushed)) := by
        constructor <;> simp [stage, State.setHandler, Handler.underWay]
      refine ⟨_, moves, moves.quiet silent_nil ?_⟩
      intro _
      right
      simp [commits, stage]
  | @notify flushed =>
      have moves := set (if flushed then .publishing else .flushing)
        (by cases flushed <;> simp)
      refine ⟨_, moves, moves.tells (committed rfl) ?_ ?_⟩
      · cases flushed <;> exact fun _ => rfl
      · intro here finished
        constructor
        · simp [ends, stage, here, finished]
        · exact .inl finished
  | publish =>
      have moves : Moves s n (.returned false)
          ({ s with
            prebufStaging := []
            connected := true }.setHandler n (.returned false)) := by
        constructor <;> simp [stage, State.setHandler, Handler.underWay]
      exact ⟨_, moves, moves.free silent_nil fun _ => rfl⟩
  | sessionStopped here uncanceled =>
      subst here
      have moves := set (.returned true) (by simp)
      refine ⟨_, moves, moves.tells ?_ (fun _ => rfl) ?_⟩
      · apply committed
        simp [Handler.committed, uncanceled]
      · intro _ _
        constructor
        · simp [ends, stage, uncanceled]
        · exact .inr ⟨n, moves.at_self⟩
  | sessionStoppedQuietly =>
      have moves := set (.returned false) (by simp)
      exact ⟨_, moves, moves.free silent_nil fun _ => rfl⟩
  | speechStart | speechEnd | recognition =>
      have moves := set (.returned false) (by simp)
      refine ⟨_, moves, moves.tells (committed rfl) (fun _ => rfl) ?_⟩
      intro here finished
      constructor
      · simp [ends, stage, here, finished]
      · exact .inl finished
  | mark =>
      have moves : Moves s n .marked
          ({ s with canceled := true }.setHandler n .marked) := by
        constructor <;> simp [stage, State.setHandler, Handler.underWay]
      exact ⟨_, moves, moves.stays silent_nil (committed rfl)⟩
  | finish =>
      have moves : Moves s n .canceling
          ({ s with finished := true }.setHandler n .canceling) := by
        constructor <;> simp [stage, State.setHandler, Handler.underWay]
      exact ⟨_, moves, moves.stays silent_nil (committed rfl)⟩
  | cancel =>
      have finished := wellFormed.canceling n stage
      have moves := set (.returned false) (by simp)
      refine ⟨_, moves, moves.tells (committed rfl) (fun _ => rfl) ?_⟩
      intro here _
      constructor
      · simp [ends, stage, here]
      · exact .inl finished

/-- What every step preserves. -/
structure Steps (s : State) (act : Act) (s' : State) (events : List Event) :
    Prop where
  emits : Emits s act s' events
  ended : Ended s → Ended s'
  wellFormed : WellFormed s'

/-- The callbacks stay as they are. -/
structure Aside (s s' : State) : Prop where
  handlers : s'.handlers = s.handlers
  dispatched : s'.dispatched = s.dispatched
  canceled : s'.canceled = s.canceled
  finished : s.finished = true → s'.finished = true

namespace Aside

variable {s s' : State} {act : Act} {events : List Event}

theorem ended (aside : Aside s s') (isEnded : Ended s) : Ended s' := by
  rcases isEnded with finished | reported
  · exact .inl (aside.finished finished)
  · right
    rw [aside.handlers]
    exact reported

theorem wellFormed (aside : Aside s s') (before : WellFormed s) :
    WellFormed s' := by
  constructor
  · rw [aside.handlers, aside.dispatched]
    exact before.beyond
  · intro n canceling
    rw [aside.handlers] at canceling
    exact aside.finished (before.canceling n canceling)

theorem committed (aside : Aside s s') (n : Nat) :
    s'.committed (.handler n) = s.committed (.handler n) := by
  simp only [State.committed, aside.handlers, aside.canceled]

theorem quiet (aside : Aside s s') (before : WellFormed s)
    (silent : Silent events)
    (joined : s'.media.committed = true → s.media.committed = true ∨
      commits s act = true) : Steps s act s' events := by
  refine ⟨.quiet silent ?_, aside.ended, aside.wellFormed before⟩
  intro emitter committed
  cases emitter with
  | media => exact joined committed
  | handler n =>
      rw [aside.committed] at committed
      exact .inl committed

theorem free (aside : Aside s s') (before : WellFormed s)
    (silent : Silent events)
    (uncommitted : s'.media = s.media ∨ s'.media.committed = false) :
    Steps s act s' events := by
  apply aside.quiet before silent
  intro committed
  rcases uncommitted with same | off
  · rw [same] at committed
    exact .inl committed
  · rw [off] at committed
    cases committed

theorem tells (aside : Aside s s') (before : WellFormed s)
    {ok located here finished : Bool} {response : Response}
    (committed : s.media.committed = true)
    (done : s'.media.committed = false)
    (ending : here = true → finished = true →
      ends s (.media ok located) = true ∧ Ended s') :
    Steps s (.media ok located) s' (reports here response finished) := by
  refine ⟨?_, aside.ended, aside.wellFormed before⟩
  refine Emits.of_reports rfl (show s.committed .media = true from committed)
    done ?_ ending
  intro other committed'
  cases other with
  | media => exact committed
  | handler n => rwa [aside.committed] at committed'

end Aside

theorem stepMedia_spec {s s' : State} {ok located : Bool}
    {events : List Event} (wellFormed : WellFormed s)
    (step : stepMedia s ok located = some (s', events)) :
    Steps s (.media ok located) s' events := by
  obtain ⟨_, media, taken⟩ := stepMedia_cases step
  cases taken with
  | direct | stages | late =>
      exact Aside.free ⟨rfl, rfl, rfl, fun h => h⟩ wellFormed silent_nil
        (.inr rfl)
  | @stage data =>
      have aside : Aside s { stage s data with media := .idle } := by
        constructor <;> dsimp only [stage] <;> split <;> simp
      apply aside.free wellFormed _ (.inr rfl)
      simp [Silent, Event.isReport]
  | push | pushFails =>
      refine Aside.free ⟨rfl, rfl, rfl, fun h => h⟩ wellFormed ?_ (.inr rfl)
      simp [Silent, Event.isReport]
  | fail =>
      refine Aside.quiet ⟨rfl, rfl, rfl, fun _ => rfl⟩ wellFormed silent_nil ?_
      intro _
      right
      simp [commits, media]
  | notify =>
      refine Aside.tells ?_ wellFormed ?_ ?_ ?_
      · exact ⟨rfl, rfl, rfl, fun h => h⟩
      · rw [media]
        rfl
      · rfl
      · intro here finished
        constructor
        · simp [ends, media, here, finished]
        · exact .inl finished
  | detect =>
      change Steps s _ _ (reports true .vadDetected false)
      refine Aside.tells ?_ wellFormed ?_ ?_ ?_
      · exact ⟨rfl, rfl, rfl, fun h => h⟩
      · rw [media]
        rfl
      · rfl
      · intro _ finished
        cases finished

theorem stepTeardown_spec {s s' : State} {events : List Event}
    (wellFormed : WellFormed s)
    (step : stepTeardown s = some (s', events)) :
    Steps s .teardown s' events := by
  obtain ⟨_, _, taken⟩ := stepTeardown_cases step
  cases taken with
  | finish =>
      exact Aside.free ⟨rfl, rfl, rfl, fun _ => rfl⟩ wellFormed silent_nil
        (.inl rfl)
  | skip | pass | disconnected =>
      exact Aside.free ⟨rfl, rfl, rfl, fun h => h⟩ wellFormed silent_nil
        (.inl rfl)
  | disconnect | stop | delete =>
      refine Aside.free ⟨rfl, rfl, rfl, fun h => h⟩ wellFormed ?_ (.inl rfl)
      simp [Silent, Event.isReport]

theorem silent_started (dispatched : Bool) :
    Silent (if dispatched then [.started] else []) := by
  cases dispatched <;> simp [Silent, Event.isReport]

theorem signal_spec {s : State} (wellFormed : WellFormed s)
    (callback : Callback) :
    Steps s (.signal callback)
      ({ s with dispatched := s.dispatched + 1 }.setHandler s.dispatched
        (.called callback)) [] := by
  have unused := wellFormed.beyond s.dispatched (Nat.le_refl _)
  refine ⟨.quiet silent_nil ?_, ?_, ?_, ?_⟩
  · intro emitter committed
    left
    cases emitter with
    | media => exact committed
    | handler n =>
        by_cases new : n = s.dispatched
        · subst n
          simp [State.committed, State.setHandler, Handler.committed]
            at committed
        · simpa [State.committed, State.setHandler, new] using committed
  · rintro (finished | ⟨n, reported⟩)
    · exact .inl finished
    · right
      refine ⟨n, ?_⟩
      have old : n ≠ s.dispatched := by
        rintro rfl
        rw [unused] at reported
        cases reported
      simpa [State.setHandler, old] using reported
  · intro n beyond
    have old : n ≠ s.dispatched := by
      simp only [State.setHandler] at beyond
      omega
    simp only [State.setHandler, Function.update_of_ne old] at beyond ⊢
    exact wellFormed.beyond n (by omega)
  · intro n canceling
    simp only [State.setHandler] at canceling
    rcases updated_entry canceling with ⟨_, other⟩ | ⟨_, there⟩
    · cases other
    · exact wellFormed.canceling n there

theorem step_spec {config : Config} {s s' : State} {act : Act}
    {events : List Event} (wellFormed : WellFormed s)
    (step : (machine config).step s act = some (s', events)) :
    Steps s act s' events := by
  simp only [machine, Azure.step] at step
  cases act with
  | start outcome =>
      obtain ⟨next, emitted, threw, result, taken⟩ := connect_cases s outcome
      simp only [result] at step
      split at step
      · cases taken <;> cases step
        · exact Aside.free ⟨rfl, rfl, rfl, fun h => h⟩ wellFormed silent_nil
            (.inl rfl)
        · exact Aside.free ⟨rfl, rfl, rfl, fun h => h⟩ wellFormed
            (silent_started true) (.inl rfl)
        · exact Aside.free ⟨rfl, rfl, rfl, fun h => h⟩ wellFormed
            (silent_started _) (.inl rfl)
      · cases step
  | attach | orphan | stop =>
      dsimp only at step
      split at step
      · cases step
        exact Aside.free ⟨rfl, rfl, rfl, fun h => h⟩ wellFormed silent_nil (.inl rfl)
      · cases step
  | vad outcome =>
      obtain ⟨next, emitted, threw, result, taken⟩ := connect_cases s outcome
      simp only [result] at step
      split at step
      · rename_i enabled
        cases taken with
        | skip done =>
            cases step
            refine Aside.quiet ⟨rfl, rfl, rfl, fun h => h⟩ wellFormed silent_nil
              ?_
            intro _
            right
            rcases done with connecting | finished
            · simp [enabled.2.2] at connecting
            · simp [commits, finished]
        | start ok =>
            cases step
            refine Aside.quiet ⟨rfl, rfl, rfl, fun h => h⟩ wellFormed
              (silent_started true) ?_
            intro _
            right
            simp [commits, ok]
        | throws =>
            cases step
            exact Aside.free ⟨rfl, rfl, rfl, fun h => h⟩ wellFormed
              (silent_started _) (.inr rfl)
      · cases step
  | write data =>
      dsimp only at step
      split at step
      · split at step <;> cases step
        · refine Aside.free ⟨rfl, rfl, rfl, fun h => h⟩ wellFormed ?_ (.inl rfl)
          simp [Silent, Event.isReport]
        · exact Aside.free ⟨rfl, rfl, rfl, fun h => h⟩ wellFormed silent_nil
            (.inr rfl)
      · cases step
  | media ok located => exact stepMedia_spec wellFormed step
  | signal callback =>
      dsimp only at step
      split at step
      · cases step
        exact signal_spec wellFormed callback
      · cases step
  | handler n ok located =>
      obtain ⟨handler, moves, emits⟩ := stepHandler_spec wellFormed step
      exact ⟨emits, moves.ended, moves.wellFormed wellFormed⟩
  | teardown => exact stepTeardown_spec wellFormed step

/-- Once the end is reported, nobody is committed any more. -/
structure Settled (trace : List Event) (s : State) : Prop where
  wellFormed : WellFormed s
  ordered : trace.Pairwise Ordered
  settled : ∀ event, event ∈ trace → event.terminal = true →
    Ended s ∧ ∀ emitter, s.committed emitter = false

theorem settled_fresh {config : Config} : Settled [] (.fresh config) := by
  refine ⟨wellFormed_fresh, .nil, ?_⟩
  intro event member
  cases member

theorem Silent.ordered {events trace : List Event} (silent : Silent events)
    (ordered : trace.Pairwise Ordered) :
    (trace ++ events).Pairwise Ordered := by
  rw [List.pairwise_append]
  refine ⟨ordered, ?_, ?_⟩
  · apply List.pairwise_of_forall_mem_list
    intro earlier _ later member _
    exact silent later member
  · intro earlier _ later member _
    exact silent later member

theorem Settled.step {config : Config} {s s' : State} {act : Act}
    {trace events : List Event} (settled : Settled trace s)
    (allowed : ordersEnd s act = true)
    (step : (machine config).step s act = some (s', events)) :
    Settled (trace ++ events) s' := by
  have wellFormed := settled.wellFormed
  obtain ⟨emits, carried, wellFormed'⟩ := step_spec wellFormed step
  simp only [ordersEnd, Bool.and_eq_true, Bool.or_eq_true,
    Bool.not_eq_true'] at allowed
  obtain ⟨mayCommit, mayEnd⟩ := allowed
  cases emits with
  | quiet silent joined =>
      refine ⟨wellFormed', silent.ordered settled.ordered, ?_⟩
      intro event member terminal
      have earlier : event ∈ trace := by
        rcases List.mem_append.mp member with earlier | now
        · exact earlier
        · have unreported := silent event now
          rw [Event.isReport_of_terminal terminal] at unreported
          cases unreported
      obtain ⟨isEnded, free⟩ := settled.settled event earlier terminal
      refine ⟨carried isEnded, ?_⟩
      intro emitter
      by_contra committed
      rw [Bool.not_eq_false] at committed
      rcases joined emitter committed with before | commits
      · rw [free emitter] at before
        cases before
      · rcases mayCommit with not | notEnded
        · rw [commits] at not
          cases not
        · rw [wellFormed.ended_of_Ended isEnded] at notEnded
          cases notEnded
  | report emitter response finished reported acts committed done kept ending =>
      subst reported
      -- the emitter is still committed, so the end has not been reported
      have unended : ∀ event, event ∈ trace → event.terminal = false := by
        intro event member
        by_contra terminal
        rw [Bool.not_eq_false] at terminal
        have free := (settled.settled event member terminal).2 emitter
        rw [committed] at free
        cases free
      refine ⟨wellFormed', ?_, ?_⟩
      · rw [List.pairwise_append]
        refine ⟨settled.ordered, List.pairwise_singleton _ _, ?_⟩
        intro earlier member later _ terminal
        rw [unended earlier member] at terminal
        cases terminal
      · intro event member terminal
        rcases List.mem_append.mp member with earlier | now
        · rw [unended event earlier] at terminal
          cases terminal
        · rw [List.mem_singleton] at now
          subst event
          obtain ⟨isEnd, isEnded⟩ := ending terminal
          refine ⟨isEnded, ?_⟩
          rcases mayEnd with not | alone
          · rw [isEnd] at not
            cases not
          · intro other
            by_cases same : other = emitter
            · subst other
              exact done
            · by_contra also
              rw [Bool.not_eq_false] at also
              have before := kept other also
              have different : act.emitter ≠ some other := by
                rw [acts]
                simpa using fun equal : emitter = other => same equal.symm
              rw [wellFormed.alone alone different] at before
              cases before

/-- In every interleaving that orders the end, it is reported at most once and
nothing is reported after it. -/
theorem ends_once (config : Config) {labels : List Act} {trace : List Event}
    {s : State}
    (run : (machine config).Run ordersEnd (machine config).initial labels trace
      s) : EndsOnce trace := by
  apply endsOnce_of_pairwise
  have settled := run.induct Settled settled_fresh
    fun settled allowed step => settled.step allowed step
  exact settled.ordered

/-- A cancellation reports the end; the callback after it stops at its test. -/
theorem ends_once_of_canceled :
    ∃ labels trace s,
      (machine ⟨true, false⟩).Run ordersEnd (.fresh ⟨true, false⟩) labels trace
        s ∧ Event.report .error true ∈ trace ∧ EndsOnce trace := by
  let labels : List Act :=
    [Act.start .ok, .attach, .signal .canceled] ++
      List.replicate 4 (Act.handler 0 true true) ++
      [Act.signal .sessionStopped, .handler 1 true true]
  have executed : ((machine ⟨true, false⟩).exec ordersEnd (.fresh ⟨true, false⟩)
      labels).map (fun outcome =>
        decide (Event.report .error true ∈ outcome.2)) = some true := by
    decide
  obtain ⟨s, trace, run, reported⟩ := Machine.exists_run_of_exec _ executed
  exact ⟨labels, trace, s, run, by simpa using reported,
    ends_once ⟨true, false⟩ run⟩

/-- A SessionStopped reports the end, and the media thread, whose next write
fails, reports it again. -/
theorem write_failure_after_session_stopped :
    ¬ ∀ (config : Config) (labels : List Act) (trace : List Event) (s : State),
      (machine config).Run anyStep (machine config).initial labels trace s →
        EndsOnce trace := by
  intro always
  let labels : List Act :=
    [Act.start .ok, .attach, .signal .sessionStarted] ++
      List.replicate 4 (Act.handler 0 true true) ++
      [Act.signal .sessionStopped] ++ List.replicate 2 (Act.handler 1 true true) ++
      [Act.write [0]] ++ List.replicate 4 (Act.media false true)
  have executed : ((machine ⟨true, false⟩).exec anyStep (.fresh ⟨true, false⟩)
      labels).map (fun outcome =>
        outcome.2.countP Event.terminal == 2) = some true := by
    decide
  obtain ⟨s, trace, run, counted⟩ := Machine.exists_run_of_exec _ executed
  have twice : trace.countP Event.terminal = 2 := by simpa using counted
  have once := (always ⟨true, false⟩ labels trace s run).once
  omega

end DrachtioModules.Azure

import DrachtioModules.AudioFork.LifeCycle

/-!
# A close intent is never lost

`close()` stores either `m_closePending` or DISCONNECTING, and ESTABLISHED and
`close()` each look at what the other has stored after storing their own.  So
a returned `close()` has left its intent where the service thread will still
find it, as long as no graceful shutdown diverts the WRITEABLE callback.
-/

namespace DrachtioModules.AudioFork

inductive LwsState.Moves : LwsState → LwsState → Prop where
  | stays {state : LwsState} : Moves state state
  | dials : Moves .idle .connecting
  | refused : Moves .idle .failed
  | connects : Moves .connecting .connected
  | fails : Moves .connecting .failed
  | exchanged : Moves .connected .disconnecting
  | ends {state : LwsState} (up : state.up = true) : Moves state .disconnected

/-- How far a state is from IDLE; the terminal states come last. -/
def LwsState.rank : LwsState → Nat
  | .idle => 0
  | .connecting => 1
  | .connected => 2
  | .disconnecting => 3
  | .disconnected | .failed => 4

theorem LwsState.Moves.rank_le {state next : LwsState}
    (moves : Moves state next) : state.rank ≤ next.rank := by
  cases moves with
  | ends => cases state <;> decide
  | stays => exact Nat.le_refl _
  | dials | refused | connects | fails | exchanged => decide

theorem CodeEffect.moves {pipe next : Pipe} (effect : CodeEffect pipe next) :
    LwsState.Moves pipe.state next.state := by
  rcases effect.state with same | ⟨connected, disconnecting⟩
  · rw [same]
    exact .stays
  · rw [connected, disconnecting]
    exact .exchanged

theorem endWriteable_moves {s : State} {pipe : Pipe} {events : List Event}
    {outcome : Outcome} (same : pipe.state = s.pipe.state) :
    LwsState.Moves s.pipe.state
      (endWriteable s pipe events outcome).1.pipe.state := by
  rw [← same]
  dsimp only [endWriteable]
  split <;> exact .stays

theorem Lives.moves {config : Config} {s s' : State} {life : Life} {act : Act}
    {events : List Event} (lives : Lives s life)
    (step : (machine config).step s act = some (s', events)) :
    LwsState.Moves s.pipe.state s'.pipe.state := by
  unfold Lives at lives
  cases act with
  | connect ok =>
      obtain ⟨_, stage, taken⟩ := stepConnect_cases step
      generalize s.service.phase = phase at lives
      rw [stage] at lives
      cases taken with
      | fail =>
          cases lives with
          | unconnected idle =>
              rw [idle]
              exact .refused
      | _ => exact .stays
  | enter thread op =>
      simp only [machine, AudioFork.step] at step
      split at step
      · cases step
        exact .stays
      · cases step
  | advance thread =>
      obtain ⟨_, _, _, _, _, result, rfl, _⟩ := stepCall_cases step
      exact (stepCode_effect result).moves
  | deliver callback =>
      simp only [machine, AudioFork.step] at step
      split at step
      · cases deliver_cases step <;> exact .stays
      · cases step
  | serve ok metadata =>
      generalize s.connectCall.phase = call at lives
      obtain ⟨_, service, taken⟩ := serve_cases step
      rw [service] at lives
      cases taken with
      | adopt =>
          cases lives with
          | joining connecting =>
              rw [connecting]
              exact .connects
      | closing result | shutdown result | metadata result =>
          exact (stepCode_effect result).moves
      | connects _ idle =>
          rw [idle]
          exact .dials
      | connectClient | connectClientFails =>
          cases lives with
          | dialling connecting =>
              rw [connecting]
              exact .stays
      | failStore =>
          cases lives with
          | failStore connecting =>
              rw [connecting]
              exact .fails
      | closedStore =>
          cases lives with
          | left up => exact .ends up
      | flush | flushFails | sendText | sendTextFails | shuts | drained
      | sendAudio | sendAudioFails =>
          exact endWriteable_moves rfl
      | _ => exact .stays

/-- The steps each member function is made of. -/
def Op.runs : Op → Code → Bool
  | .doGracefulShutdown, code =>
      match code with
      | .gracefulCheck | .gracefulRecord | .gracefulRecheck | .queueWrite
      | .cancelService => true
      | _ => false
  | .close, code =>
      match code with
      | .closeCheck | .closeRecord | .closeRecheck | .closeExchange
      | .closeQueue | .cancelService => true
      | _ => false
  | .bufferForSending _, code =>
      match code with
      | .bufferCheck _ | .bufferAppend _ | .queueWrite | .cancelService => true
      | _ => false
  | .forkFrame _, code =>
      match code with
      | .frameCheck _ | .frameLock _ | .frameRead _ | .frameQueue
      | .frameCancel | .frameUnlock => true
      | _ => false

/-- The steps of `close()` up to its exchange. -/
def Code.closes : Code → Bool
  | .closeCheck | .closeRecord | .closeRecheck | .closeExchange => true
  | _ => false

theorem Op.close_of_runs {op : Op} {code : Code} (runs : op.runs code = true)
    (closing : code.closes = true ∨ code = .closeQueue) : op = .close := by
  cases op with
  | close => rfl
  | doGracefulShutdown | bufferForSending text | forkFrame reads =>
      rcases closing with closes | rfl
      · cases code <;> simp_all [Op.runs, Code.closes]
      · cases runs

/-- The member function the service thread runs from inside ESTABLISHED. -/
def Service.call : Service → Option Call
  | .establishedClosing code => some ⟨.close, code⟩
  | .establishedShutdown code => some ⟨.doGracefulShutdown, code⟩
  | .establishedMetadata code => some ⟨.bufferForSending [], code⟩
  | _ => none

def InProgress (s : State) (call : Call) : Prop :=
  (∃ thread, s.calls thread = some call) ∨ s.service.call = some call

/-- What a `close()` that has come this far has made sure of. -/
def Intends (pipe : Pipe) : Code → Prop
  | .closeRecheck => pipe.closePending = true
  | .closeExchange => 2 ≤ pipe.state.rank
  | .closeQueue | .cancelService => 3 ≤ pipe.state.rank
  | _ => True

structure Sound (pipe : Pipe) (call : Call) : Prop where
  runs : call.op.runs call.code = true
  ungraceful : call.op ≠ .doGracefulShutdown
  intends : call.op = .close → Intends pipe call.code

/-- A returned `close()` has left its intent. -/
def Requested (pipe : Pipe) : Prop :=
  pipe.closePending = true ∨ 3 ≤ pipe.state.rank

/-- What a step of a member function does to the fields a close goes through. -/
structure CloseEffect (pipe next : Pipe) (code : Code) (rest : Option Code) :
    Prop where
  kept : pipe.closePending = true → next.closePending = true
  recorded : next.closePending = true → pipe.closePending = true ∨
    ∃ code', rest = some code' ∧ code'.closes = true
  closing : code.closes = true → pipe.state = .connected →
    next.state = .connected → ∃ code', rest = some code' ∧ code'.closes = true
  exchanged : next.state = pipe.state ∨
    next.state = .disconnecting ∧ rest = some .closeQueue
  pending : 0 < pipe.pendingDisconnects → 0 < next.pendingDisconnects
  queued : code = .closeQueue → 0 < next.pendingDisconnects
  writable : next.writable = pipe.writable
  flag : next.gracefulShutdown = pipe.gracefulShutdown ∨ code = .gracefulRecord

theorem stepCode_close {config : Config} {pipe next : Pipe} {code : Code}
    {rest : Option Code} {events : List Event}
    (step : stepCode config pipe code = some (next, rest, events)) :
    CloseEffect pipe next code rest := by
  cases stepCode_cases step <;> constructor <;> simp_all [Code.closes]

theorem Sound.keep {pipe next : Pipe} {call : Call} (sound : Sound pipe call)
    (kept : pipe.closePending = true → next.closePending = true)
    (rank : pipe.state.rank ≤ next.state.rank) : Sound next call := by
  obtain ⟨runs, ungraceful, intends⟩ := sound
  refine ⟨runs, ungraceful, ?_⟩
  intro close
  have intended := intends close
  obtain ⟨op, code⟩ := call
  cases code with
  | closeRecheck => exact kept intended
  | closeExchange => exact Nat.le_trans intended rank
  | closeQueue | cancelService => exact Nat.le_trans intended rank
  | _ => trivial

theorem Requested.keep {pipe next : Pipe} (requested : Requested pipe)
    (kept : pipe.closePending = true → next.closePending = true)
    (rank : pipe.state.rank ≤ next.state.rank) : Requested next :=
  requested.imp kept (fun far => Nat.le_trans far rank)

/-- A state from CONNECTED on that is not CONNECTED is past it. -/
theorem LwsState.past {state : LwsState} (far : 2 ≤ state.rank)
    (other : state ≠ .connected) : 3 ≤ state.rank := by
  cases state with
  | connected => exact (other rfl).elim
  | idle | connecting => simp [LwsState.rank] at far
  | disconnecting | disconnected | failed => decide

/-- A step of a sound call leaves a sound call, or, at the end of a `close()`,
its intent. -/
theorem Sound.step {config : Config} {pipe next : Pipe} {call : Call}
    {rest : Option Code} {events : List Event} (sound : Sound pipe call)
    (step : stepCode config pipe call.code = some (next, rest, events)) :
    (∀ code, rest = some code → Sound next { call with code := code }) ∧
      (rest = none → call.op = .close → Requested next) := by
  obtain ⟨runs, ungraceful, intends⟩ := sound
  obtain ⟨op, code⟩ := call
  cases op with
  | doGracefulShutdown => exact (ungraceful rfl).elim
  | close =>
      have intended := intends rfl
      cases stepCode_cases step with
      | closes connected =>
          refine ⟨?_, by simp⟩
          rintro _ ⟨⟩
          exact ⟨rfl, ungraceful, fun _ => by simp [Intends, connected, LwsState.rank]⟩
      | closeRecords =>
          refine ⟨?_, by simp⟩
          rintro _ ⟨⟩
          exact ⟨rfl, ungraceful, fun _ => trivial⟩
      | closeRecord =>
          refine ⟨?_, by simp⟩
          rintro _ ⟨⟩
          exact ⟨rfl, ungraceful, fun _ => rfl⟩
      | closesLate connected =>
          refine ⟨?_, by simp⟩
          rintro _ ⟨⟩
          exact ⟨rfl, ungraceful, fun _ => by simp [Intends, connected, LwsState.rank]⟩
      | closeRecorded => exact ⟨by simp, fun _ _ => .inl intended⟩
      | exchange =>
          refine ⟨?_, by simp⟩
          rintro _ ⟨⟩
          exact ⟨rfl, ungraceful, fun _ => Nat.le_refl 3⟩
      | exchangeFails unconnected =>
          exact ⟨by simp, fun _ _ => .inr (LwsState.past intended unconnected)⟩
      | closeQueue =>
          refine ⟨?_, by simp⟩
          rintro _ ⟨⟩
          exact ⟨rfl, ungraceful, fun _ => intended⟩
      | cancelService => exact ⟨by simp, fun _ _ => .inr intended⟩
      | _ => cases runs
  | bufferForSending text | forkFrame reads =>
      refine ⟨?_, by simp⟩
      intro code following
      subst following
      refine ⟨?_, ungraceful, by simp⟩
      cases stepCode_cases step <;> first | rfl | cases runs

/-- A close recorded in a CONNECTED pipe is about to be exchanged by a `close()`
in progress, or by the ESTABLISHED that has not read the record yet. -/
def Attended (s : State) : Prop :=
  (∃ call, InProgress s call ∧ call.code.closes = true) ∨
    s.service = .establishedClose

/-- The service thread is about to ask for a WRITEABLE callback, inside one
that has not tested the state, or inside CLOSED. -/
def Service.hands : Service → Bool
  | .disconnectWritable | .writeableFlag | .writeableText | .writeableState
  | .closedGracefully | .closedDropped | .closedStore => true
  | _ => false

/-- Where the disconnect of a DISCONNECTING pipe is. -/
inductive Handed (s : State) : Prop where
  | queueing {call : Call} (running : InProgress s call)
      (code : call.code = .closeQueue)
  | queued (pending : 0 < s.pipe.pendingDisconnects)
  | requested (writable : s.pipe.writable = true)
  | shut (closing : s.pipe.wsi = .closing)
  | carried (hands : s.service.hands = true)

structure Intent (trace : List Event) (s : State) : Prop where
  lives : ∃ life, Lives s life
  sound : ∀ call, InProgress s call → Sound s.pipe call
  unflagged : s.pipe.gracefulShutdown = false
  unflushed : s.service ≠ .writeableFlush
  returned : .returned .close ∈ trace → Requested s.pipe
  attended : s.pipe.closePending = true → s.pipe.state = .connected →
    Attended s
  handed : s.pipe.state = .disconnecting → Handed s

theorem intent_fresh : Intent [] .fresh := by
  constructor
  · exact ⟨.waiting, lives_fresh⟩
  · rintro call (⟨thread, running⟩ | running) <;> cases running
  · rfl
  · rintro ⟨⟩
  · simp
  · rintro ⟨⟩
  · rintro ⟨⟩

/-- The call in progress took one step, the others are where they were. -/
structure Progressed (s s' : State) (call : Call) (rest : Option Code) :
    Prop where
  before : InProgress s call
  others : ∀ other, InProgress s other → other = call ∨ InProgress s' other
  after : ∀ code, rest = some code → InProgress s' { call with code := code }
  only : ∀ other, InProgress s' other → InProgress s other ∨
    ∃ code, rest = some code ∧ other = { call with code := code }
  service : s'.service = s.service ∨
    (∃ running, s.service.call = some running) ∧ s'.service ≠ .writeableFlush

theorem Attended.progress {s s' : State} {call : Call} {rest : Option Code}
    (attended : Attended s)
    (effect : CloseEffect s.pipe s'.pipe call.code rest)
    (progressed : Progressed s s' call rest)
    (connected : s.pipe.state = .connected)
    (still : s'.pipe.state = .connected) : Attended s' := by
  rcases attended with ⟨other, running, closes⟩ | here
  · rcases progressed.others other running with rfl | elsewhere
    · obtain ⟨code, following, closing⟩ :=
        effect.closing closes connected still
      exact .inl ⟨_, progressed.after code following, closing⟩
    · exact .inl ⟨other, elsewhere, closes⟩
  · rcases progressed.service with same | ⟨⟨running, inside⟩, _⟩
    · exact .inr (same.trans here)
    · rw [here] at inside
      cases inside

theorem Service.unhanding {service : Service} {call : Call}
    (inside : service.call = some call) : service.hands = false := by
  cases service with
  | establishedClosing | establishedShutdown | establishedMetadata => rfl
  | _ => cases inside

theorem Handed.progress {s s' : State} {call : Call} {rest : Option Code}
    (handed : Handed s) (effect : CloseEffect s.pipe s'.pipe call.code rest)
    (wsi : s'.pipe.wsi = s.pipe.wsi)
    (progressed : Progressed s s' call rest) : Handed s' := by
  cases handed with
  | @queueing other running code =>
      rcases progressed.others other running with rfl | elsewhere
      · exact .queued (effect.queued code)
      · exact .queueing elsewhere code
  | queued pending => exact .queued (effect.pending pending)
  | requested writable => exact .requested (effect.writable.trans writable)
  | shut closing => exact .shut (wsi.trans closing)
  | carried hands =>
      rcases progressed.service with same | ⟨⟨running, inside⟩, _⟩
      · exact .carried (same ▸ hands)
      · rw [Service.unhanding inside] at hands
        cases hands

theorem Intent.progress {config : Config} {trace events now : List Event}
    {s s' : State} {call : Call} {rest : Option Code} (intent : Intent trace s)
    (lives : ∃ life, Lives s' life)
    (step : stepCode config s.pipe call.code = some (s'.pipe, rest, events))
    (progressed : Progressed s s' call rest)
    (returns : .returned .close ∈ now → rest = none ∧ call.op = .close) :
    Intent (trace ++ now) s' := by
  have effect := stepCode_close step
  have rank := (stepCode_effect step).moves.rank_le
  have sound := intent.sound call progressed.before
  constructor
  · exact lives
  · intro other running
    rcases progressed.only other running with before | ⟨code, following, rfl⟩
    · exact (intent.sound other before).keep effect.kept rank
    · exact (sound.step step).1 code following
  · rcases effect.flag with same | graceful
    · exact same.trans intent.unflagged
    · have runs := sound.runs
      rw [graceful] at runs
      cases op : call.op <;> rw [op] at runs <;> try cases runs
      exact (sound.ungraceful op).elim
  · rcases progressed.service with same | ⟨_, other⟩
    · rw [same]
      exact intent.unflushed
    · exact other
  · intro member
    rcases List.mem_append.mp member with before | here
    · exact (intent.returned before).keep effect.kept rank
    · obtain ⟨ended, close⟩ := returns here
      exact (sound.step step).2 ended close
  · intro recorded connected
    rcases effect.exchanged with same | ⟨gone, _⟩
    · have before := same ▸ connected
      rcases effect.recorded recorded with earlier | ⟨code, following, closes⟩
      · exact (intent.attended earlier before).progress effect progressed before
          connected
      · exact .inl ⟨_, progressed.after code following, closes⟩
    · rw [connected] at gone
      cases gone
  · intro disconnecting
    rcases effect.exchanged with same | ⟨_, following⟩
    · exact (intent.handed (same ▸ disconnecting)).progress effect
        (stepCode_effect step).wsi progressed
    · exact .queueing (progressed.after _ following) rfl

theorem Progressed.caller {s : State} {thread : Nat} {call : Call} {pipe : Pipe}
    {rest : Option Code} (running : s.calls thread = some call) :
    Progressed s
      { s with
        pipe := pipe
        calls := Function.update s.calls thread
          (rest.map fun next => { call with code := next }) } call rest := by
  constructor
  · exact .inl ⟨thread, running⟩
  · rintro other (⟨elsewhere, present⟩ | inside)
    · by_cases same : elsewhere = thread
      · subst same
        rw [running] at present
        cases present
        exact .inl rfl
      · refine .inr (.inl ⟨elsewhere, ?_⟩)
        exact (Function.update_of_ne same _ _).trans present
    · exact .inr (.inr inside)
  · rintro code rfl
    exact .inl ⟨thread, Function.update_self _ _ _⟩
  · rintro other (⟨elsewhere, present⟩ | inside)
    · rcases updated_entry present with ⟨_, now⟩ | ⟨_, before⟩
      · obtain ⟨code, following, rfl⟩ := Option.map_eq_some_iff.mp now
        exact .inr ⟨code, following, rfl⟩
      · exact .inl (.inl ⟨elsewhere, before⟩)
    · exact .inl (.inr inside)
  · exact .inl rfl

theorem Progressed.server {s : State} {call : Call} {pipe : Pipe}
    {rest : Option Code} {resume : Code → Service} {done : Service}
    (running : s.service.call = some call)
    (resumed : ∀ code, (resume code).call = some { call with code := code })
    (ended : done.call = none) (calm : done ≠ .writeableFlush) :
    Progressed s
      { s with pipe := pipe, service := rest.elim done resume } call rest := by
  constructor
  · exact .inr running
  · rintro other (⟨thread, present⟩ | inside)
    · exact .inr (.inl ⟨thread, present⟩)
    · rw [running] at inside
      cases inside
      exact .inl rfl
  · rintro code rfl
    exact .inr (resumed code)
  · rintro other (⟨thread, present⟩ | inside)
    · exact .inl (.inl ⟨thread, present⟩)
    · cases rest with
      | none =>
          rw [Option.elim_none, ended] at inside
          cases inside
      | some code =>
          rw [Option.elim_some, resumed code] at inside
          cases inside
          exact .inr ⟨code, rfl, rfl⟩
  · refine .inr ⟨⟨call, running⟩, ?_⟩
    cases rest with
    | none => exact calm
    | some code =>
        intro flush
        have resuming : resume code = .writeableFlush := flush
        have inside := resumed code
        rw [resuming] at inside
        cases inside

section Carry

variable {s s' : State} {service : Service}

theorem InProgress.carry {call : Call} (running : InProgress s call)
    (here : s.service = service) (calls : s'.calls = s.calls)
    (free : service.call = none) : InProgress s' call := by
  rcases running with ⟨thread, present⟩ | inside
  · refine .inl ⟨thread, ?_⟩
    rw [calls]
    exact present
  · rw [here, free] at inside
    cases inside

theorem Attended.carry (attended : Attended s) (here : s.service = service)
    (calls : s'.calls = s.calls) (free : service.call = none)
    (unread : service ≠ .establishedClose) : Attended s' := by
  rcases attended with ⟨call, running, closes⟩ | reading
  · exact .inl ⟨call, running.carry here calls free, closes⟩
  · exact (unread (here.symm.trans reading)).elim

theorem Handed.carry (handed : Handed s) (here : s.service = service)
    (calls : s'.calls = s.calls) (free : service.call = none)
    (empty : service.hands = false)
    (pending : s'.pipe.pendingDisconnects = s.pipe.pendingDisconnects)
    (writable : s.pipe.writable = true → s'.pipe.writable = true)
    (wsi : s.pipe.wsi = .closing → s'.pipe.wsi = .closing) : Handed s' := by
  cases handed with
  | queueing running code =>
      exact .queueing (running.carry here calls free) code
  | queued before =>
      refine .queued ?_
      rw [pending]
      exact before
  | requested before => exact .requested (writable before)
  | shut closing => exact .shut (wsi closing)
  | carried hands =>
      rw [here, empty] at hands
      cases hands

theorem Intent.turn {config : Config} {trace events : List Event}
    {act : Act} (intent : Intent trace s)
    (step : (machine config).step s act = some (s', events))
    (calls : s'.calls = s.calls)
    (opens : ∀ call, s'.service.call = some call → Sound s'.pipe call)
    (recorded : s'.pipe.closePending = s.pipe.closePending)
    (flag : s'.pipe.gracefulShutdown = s.pipe.gracefulShutdown)
    (calm : s'.service ≠ .writeableFlush)
    (silent : .returned .close ∉ events)
    (attended : s.pipe.closePending = true → s'.pipe.state = .connected →
      Attended s')
    (handed : s'.pipe.state = .disconnecting → Handed s') :
    Intent (trace ++ events) s' := by
  obtain ⟨life, lives⟩ := intent.lives
  obtain ⟨life', lives', _⟩ := lives.step step
  have rank := (lives.moves step).rank_le
  have kept : s.pipe.closePending = true → s'.pipe.closePending = true :=
    recorded.trans
  constructor
  · exact ⟨life', lives'⟩
  · rintro call (⟨thread, present⟩ | inside)
    · rw [calls] at present
      exact (intent.sound call (.inl ⟨thread, present⟩)).keep kept rank
    · exact opens call inside
  · exact flag.trans intent.unflagged
  · exact calm
  · intro member
    rcases List.mem_append.mp member with before | here
    · exact (intent.returned before).keep kept rank
    · exact (silent here).elim
  · intro pending
    exact attended (recorded.symm.trans pending)
  · exact handed

/-- A step of the service thread outside the member functions that touches
neither the state nor what hands a disconnect on. -/
theorem Intent.still {config : Config} {trace events : List Event}
    {act : Act} (intent : Intent trace s)
    (step : (machine config).step s act = some (s', events))
    (here : s.service = service) (calls : s'.calls = s.calls)
    (free : service.call = none) (empty : service.hands = false)
    (unread : service ≠ .establishedClose)
    (opens : ∀ call, s'.service.call = some call → Sound s'.pipe call)
    (recorded : s'.pipe.closePending = s.pipe.closePending)
    (flag : s'.pipe.gracefulShutdown = s.pipe.gracefulShutdown)
    (calm : s'.service ≠ .writeableFlush)
    (silent : .returned .close ∉ events)
    (state : s'.pipe.state = s.pipe.state)
    (pending : s'.pipe.pendingDisconnects = s.pipe.pendingDisconnects)
    (writable : s.pipe.writable = true → s'.pipe.writable = true)
    (wsi : s.pipe.wsi = .closing → s'.pipe.wsi = .closing) :
    Intent (trace ++ events) s' := by
  refine intent.turn step calls opens recorded flag calm silent ?_ ?_
  · intro closing connected
    exact (intent.attended closing (state.symm.trans connected)).carry here
      calls free unread
  · intro disconnecting
    exact (intent.handed (state.symm.trans disconnecting)).carry here calls
      free empty pending writable wsi

end Carry

theorem Intent.connect (config : Config) {trace events : List Event}
    {s s' : State} {ok : Bool} (intent : Intent trace s)
    (step : stepConnect s ok = some (s', events)) :
    Intent (trace ++ events) s' := by
  obtain ⟨life, lives⟩ := intent.lives
  have taking : (machine config).step s (.connect ok) = some (s', events) := step
  obtain ⟨life', lives', _⟩ := lives.step taking
  have rank := (lives.moves taking).rank_le
  obtain ⟨_, stage, taken⟩ := stepConnect_cases step
  have before : .returned .close ∈ trace ++ events → .returned .close ∈ trace := by
    cases taken <;> simp
  cases taken with
  | fail =>
      refine ⟨⟨life', lives'⟩, ?_, intent.unflagged, intent.unflushed, ?_,
        (by simp),
        by simp⟩
      · intro call running
        exact (intent.sound call running).keep id rank
      · intro member
        exact (intent.returned (before member)).keep id rank
  | enter | add | notify | signal | signalAgain | cancelService =>
      refine ⟨⟨life', lives'⟩, ?_, intent.unflagged, intent.unflushed, ?_,
        intent.attended, ?_⟩
      · intro call running
        exact (intent.sound call running).keep id rank
      · intro member
        exact (intent.returned (before member)).keep id rank
      · intro disconnecting
        cases intent.handed disconnecting with
        | queueing running code => exact .queueing running code
        | queued pending => exact .queued pending
        | requested writable => exact .requested writable
        | shut closing => exact .shut closing
        | carried hands => exact .carried hands

theorem Intent.enter {trace : List Event} {s : State} {thread : Nat} {op : Op}
    (intent : Intent trace s) (free : s.calls thread = none)
    (ungraceful : op ≠ .doGracefulShutdown) :
    Intent trace
      { s with
        calls := Function.update s.calls thread (some ⟨op, op.entry⟩) } := by
  have kept : ∀ call, InProgress s call → InProgress
      { s with
        calls := Function.update s.calls thread (some ⟨op, op.entry⟩) }
      call := by
    rintro call (⟨other, present⟩ | inside)
    · refine .inl ⟨other, ?_⟩
      have elsewhere : other ≠ thread := by
        intro same
        rw [same, free] at present
        cases present
      exact (Function.update_of_ne elsewhere _ _).trans present
    · exact .inr inside
  constructor
  · exact intent.lives
  · rintro call (⟨other, present⟩ | inside)
    · rcases updated_entry present with ⟨_, now⟩ | ⟨_, before⟩
      · cases now
        refine ⟨?_, ungraceful, ?_⟩
        · cases op <;> rfl
        · rintro rfl
          trivial
      · exact intent.sound call (.inl ⟨other, before⟩)
    · exact intent.sound call (.inr inside)
  · exact intent.unflagged
  · exact intent.unflushed
  · exact intent.returned
  · intro recorded connected
    rcases intent.attended recorded connected with
      ⟨call, running, closes⟩ | here
    · exact .inl ⟨call, kept call running, closes⟩
    · exact .inr here
  · intro disconnecting
    cases intent.handed disconnecting with
    | queueing running code => exact .queueing (kept _ running) code
    | queued pending => exact .queued pending
    | requested writable => exact .requested writable
    | shut closing => exact .shut closing
    | carried hands => exact .carried hands

theorem Intent.deliver (config : Config) {trace events : List Event}
    {s s' : State} {callback : Callback} (intent : Intent trace s)
    (idle : s.service = .idle)
    (step : deliver s callback = some (s', events)) :
    Intent (trace ++ events) s' := by
  obtain ⟨life, lives⟩ := intent.lives
  have taking : (machine config).step s (.deliver callback) =
      some (s', events) := by
    simp only [machine, AudioFork.step, idle, if_true]
    exact step
  have living := lives
  unfold Lives at living
  rw [idle] at living
  cases deliver_cases step with
  | established _ _ connecting | connectionError _ _ connecting =>
      refine intent.turn taking rfl (by rintro _ ⟨⟩) rfl rfl (by simp) (by simp)
        ?_ ?_ <;>
        simp [connecting]
  | establishedStray handshaking lost | connectionErrorStray handshaking lost =>
      obtain ⟨_, _, state, pending, _⟩ := living.shaking handshaking
      exact (lost ⟨pending, state⟩).elim
  | closed =>
      refine intent.turn taking rfl (by rintro _ ⟨⟩) rfl rfl (by simp) (by simp)
        ?_ ?_
      · intro recorded connected
        exact (intent.attended recorded connected).carry idle rfl rfl (by simp)
      · intro _
        exact .carried rfl
  | closedStray joined unadopted =>
      obtain ⟨_, _, _, adopted, _⟩ := living.joined joined
      rw [unadopted] at adopted
      cases adopted
  | receive | receiveStray =>
      refine intent.still taking idle rfl rfl rfl (by simp) ?_ rfl rfl ?_
        (by simp)
        rfl rfl id id
      · simp [idle, Service.call]
      · simp [idle]
  | writeable =>
      refine intent.turn taking rfl (by rintro _ ⟨⟩) rfl rfl (by simp) (by simp)
        ?_ ?_
      · intro recorded connected
        exact (intent.attended recorded connected).carry idle rfl rfl (by simp)
      · intro _
        exact .carried rfl
  | writeableStray opened unadopted =>
      obtain ⟨_, _, _, adopted, _⟩ := living.joined (.inl opened)
      rw [unadopted] at adopted
      cases adopted
  | eventWaitCancelled =>
      exact intent.still taking idle rfl rfl rfl (by simp) (by rintro _ ⟨⟩) rfl
        rfl (by simp)
        (by simp) rfl rfl id id

theorem Intent.served {config : Config} {trace events : List Event}
    {s s' : State} {code : Code} {op : Op} {pipe : Pipe} {rest : Option Code}
    {resume : Code → Service} {done : Service} (intent : Intent trace s)
    (running : s.service.call = some ⟨op, code⟩)
    (result : stepCode config s.pipe code = some (pipe, rest, events))
    (after : s' = { s with pipe := pipe, service := rest.elim done resume })
    (lives : ∃ life, Lives s' life)
    (resumed : ∀ code, (resume code).call = some ⟨op, code⟩)
    (ended : done.call = none) (calm : done ≠ .writeableFlush) :
    Intent (trace ++ events) s' := by
  subst after
  have progressed : Progressed s
      { s with pipe := pipe, service := rest.elim done resume } ⟨op, code⟩
      rest := .server running resumed ended calm
  refine intent.progress lives result progressed ?_
  rcases stepCode_events result with rfl | ⟨text, rfl⟩ <;> simp

theorem Intent.serve {config : Config} {trace events : List Event}
    {s s' : State} {ok : Bool} {metadata : Option Bytes}
    (intent : Intent trace s)
    (step : serve config s ok metadata = some (s', events)) :
    Intent (trace ++ events) s' := by
  obtain ⟨life, lives⟩ := intent.lives
  have taking : (machine config).step s (.serve ok metadata) =
      some (s', events) := step
  obtain ⟨life', lives', _⟩ := lives.step taking
  have living := lives
  unfold Lives at living
  generalize s.connectCall.phase = called at living
  obtain ⟨_, service, taken⟩ := serve_cases step
  rw [service] at living
  cases taken with
  | adopt =>
      refine intent.turn taking rfl (by rintro _ ⟨⟩) rfl rfl (by simp) (by simp)
        ?_ (by simp)
      intro _ _
      exact .inr rfl
  | closeRecorded =>
      refine intent.turn taking rfl ?_ rfl rfl (by simp) (by simp) ?_ ?_
      · rintro call ⟨⟩
        exact ⟨rfl, (by simp), fun _ => trivial⟩
      · intro _ _
        exact .inl ⟨_, .inr rfl, rfl⟩
      · intro disconnecting
        exact (intent.handed disconnecting).carry service rfl rfl rfl rfl id id
  | closeUnrecorded none =>
      refine intent.turn taking rfl (by rintro _ ⟨⟩) rfl rfl (by simp) (by simp)
        ?_ ?_
      · intro recorded
        rw [none] at recorded
        cases recorded
      · intro disconnecting
        exact (intent.handed disconnecting).carry service rfl rfl rfl rfl id id
  | closing result =>
      exact intent.served (by rw [service]; rfl) result rfl ⟨life', lives'⟩
        (fun _ => rfl) rfl (by simp)
  | shutdown result =>
      exact intent.served (by rw [service]; rfl) result rfl ⟨life', lives'⟩
        (fun _ => rfl) rfl (by simp)
  | metadata result =>
      exact intent.served (by rw [service]; rfl) result rfl ⟨life', lives'⟩
        (fun _ => rfl) rfl (by simp)
  | gracefulRecorded flag | flagged flag =>
      rw [intent.unflagged] at flag
      cases flag
  | flush | flushFails => exact (intent.unflushed service).elim
  | notifyConnect =>
      refine intent.still taking service rfl rfl rfl (by simp) ?_ rfl rfl
        (by simp)
        (by simp) rfl rfl id id
      rintro call ⟨⟩
      exact ⟨rfl, (by simp), by simp⟩
  | gracefulUnrecorded | notifyConnectOnly | connectsNothing | failNotify
  | disconnectsNothing | writes | writesStale | writesNothing =>
      exact intent.still taking service rfl rfl rfl (by simp) (by rintro _ ⟨⟩)
        rfl rfl (by simp)
        (by simp) rfl rfl id id
  | connects | connectClient | connectClientFails | failStore | closedStore =>
      exact intent.turn taking rfl (by rintro _ ⟨⟩) rfl rfl (by simp) (by simp)
        (by simp) (by simp)
  | @failSignal inPass | @failSignalAgain inPass =>
      refine intent.still taking service rfl rfl rfl (by simp) ?_ rfl rfl ?_
        (by simp) rfl rfl id id
      · cases inPass <;> rintro _ ⟨⟩
      · cases inPass <;> simp
  | disconnects _ _ disconnecting =>
      refine intent.turn taking rfl (by rintro _ ⟨⟩) rfl rfl (by simp) (by simp)
        ?_ ?_
      · intro _ connected
        rw [show s.pipe.state = .connected from connected] at disconnecting
        cases disconnecting
      · intro _
        exact .carried rfl
  | disconnectsStale _ _ stale =>
      refine intent.turn taking rfl (by rintro _ ⟨⟩) rfl rfl (by simp) (by simp)
        ?_ ?_
      · intro recorded connected
        exact (intent.attended recorded connected).carry service rfl rfl
          (by simp)
      · intro disconnecting
        exact (stale disconnecting).elim
  | disconnectWritable | writeWritable =>
      refine intent.turn taking rfl (by rintro _ ⟨⟩) rfl rfl (by simp) (by simp)
        ?_ ?_
      · intro recorded connected
        exact (intent.attended recorded connected).carry service rfl rfl
          (by simp)
      · intro _
        exact .requested rfl
  | closedGracefully | closedOtherwise | closedDropped | closedQuietly
  | unflagged | noText =>
      refine intent.turn taking rfl (by rintro _ ⟨⟩) rfl rfl (by simp) (by simp)
        ?_ ?_
      · intro recorded connected
        exact (intent.attended recorded connected).carry service rfl rfl
          (by simp)
      · intro _
        exact .carried rfl
  | closedSignal | closedSignalAgain =>
      cases living with
      | releasing disconnected =>
          refine intent.turn taking rfl (by rintro _ ⟨⟩) rfl rfl (by simp)
            (by simp) ?_ ?_ <;>
            simp [disconnected]
  | sendText =>
      refine intent.turn taking rfl (by rintro _ ⟨⟩) rfl rfl (by rintro ⟨⟩)
        (by simp [endWriteable])
        ?_ ?_
      · intro recorded connected
        exact (intent.attended recorded connected).carry service rfl rfl
          (by simp)
      · intro _
        exact .requested rfl
  | sendTextFails | shuts =>
      refine intent.turn taking rfl (by rintro _ ⟨⟩) rfl rfl (by rintro ⟨⟩)
        (by simp [endWriteable])
        ?_ ?_
      · intro recorded connected
        exact (intent.attended recorded connected).carry service rfl rfl
          (by simp)
      · intro _
        exact .shut rfl
  | stays other =>
      refine intent.turn taking rfl (by rintro _ ⟨⟩) rfl rfl (by simp) (by simp)
        ?_ ?_
      · intro recorded connected
        exact (intent.attended recorded connected).carry service rfl rfl
          (by simp)
      · intro disconnecting
        exact (other disconnecting).elim
  | drained | sendAudio | sendAudioFails =>
      exact intent.still taking service rfl rfl rfl (by simp) (by rintro _ ⟨⟩)
        rfl rfl (by rintro ⟨⟩)
        (by simp [endWriteable]) rfl rfl id id

/-- No graceful shutdown is requested. -/
def ungraceful (_ : State) : Act → Bool
  | .enter _ .doGracefulShutdown => false
  | _ => true

theorem Intent.step {config : Config} {trace events : List Event}
    {s s' : State} {act : Act} (intent : Intent trace s)
    (guarded : ungraceful s act = true)
    (step : (machine config).step s act = some (s', events)) :
    Intent (trace ++ events) s' := by
  have taking := step
  cases act with
  | connect ok => exact intent.connect config step
  | enter thread op =>
      simp only [machine, AudioFork.step] at step
      split at step
      · rename_i free
        cases step
        rw [List.append_nil]
        refine intent.enter free ?_
        rintro rfl
        cases guarded
      · cases step
  | advance thread =>
      obtain ⟨life, lives⟩ := intent.lives
      obtain ⟨life', lives', _⟩ := lives.step step
      obtain ⟨call, pipe, rest, emitted, running, result, rfl, rfl⟩ :=
        stepCall_cases step
      refine intent.progress ⟨life', lives'⟩ result (.caller running) ?_
      intro member
      rcases List.mem_append.mp member with here | returned
      · rcases stepCode_events result with rfl | ⟨text, rfl⟩ <;> simp at here
      · cases rest with
        | none =>
            simp only [Option.elim_none, List.mem_singleton,
              Event.returned.injEq] at returned
            exact ⟨rfl, returned.symm⟩
        | some next => simp at returned
  | deliver callback =>
      simp only [machine, AudioFork.step] at step
      split at step
      · rename_i idle
        exact intent.deliver config idle step
      · cases step
  | serve ok metadata => exact intent.serve step

/-- Where a recorded close still waits to be acted on: the handshake is ahead,
or the disconnect is on its way to a WRITEABLE callback that returns -1. -/
inductive Pending (pipe : Pipe) : Prop where
  | queued (recorded : pipe.closePending = true) (idle : pipe.state = .idle)
      (pending : pipe.inPendingConnects = true)
  | handshaking (recorded : pipe.closePending = true)
      (connecting : pipe.state = .connecting) (wsi : pipe.wsi = .handshaking)
  | disconnecting (state : pipe.state = .disconnecting)
      (underway : 0 < pipe.pendingDisconnects ∨
        (pipe.wsi = .opened ∧ pipe.writable = true) ∨ pipe.wsi = .closing)

theorem Intent.pending {trace : List Event} {s : State}
    (intent : Intent trace s) (added : s.connectCall.phase = .added)
    (returned : .returned .close ∈ trace)
    (quiescent : ∀ thread call, s.calls thread = some call → call.op ≠ .close)
    (idle : s.service = .idle) (live : s.pipe.closeSignaled = false) :
    Pending s.pipe := by
  have requested := intent.returned returned
  have alone : ∀ call, InProgress s call → call.op ≠ .close := by
    rintro call (⟨thread, present⟩ | inside)
    · exact quiescent thread call present
    · rw [idle] at inside
      cases inside
  obtain ⟨life, lives⟩ := intent.lives
  unfold Lives at lives
  rw [added, idle] at lives
  cases lives with
  | queued state _ pending =>
      rcases requested with recorded | far
      · exact .queued recorded state pending
      · simp [state, LwsState.rank] at far
  | handshaking state wsi =>
      rcases requested with recorded | far
      · exact .handshaking recorded state wsi
      · simp [state, LwsState.rank] at far
  | opened up joined =>
      cases state : s.pipe.state with
      | connected =>
          rcases requested with recorded | far
          · rcases intent.attended recorded state with
              ⟨call, running, closes⟩ | here
            · have runs := (intent.sound call running).runs
              exact (alone call running
                (Op.close_of_runs runs (.inl closes))).elim
            · rw [idle] at here
              cases here
          · simp [state, LwsState.rank] at far
      | disconnecting =>
          refine .disconnecting state ?_
          cases intent.handed state with
          | @queueing call running code =>
              have runs := (intent.sound call running).runs
              exact (alone call running
                (Op.close_of_runs runs (.inr code))).elim
          | queued pending => exact .inl pending
          | requested writable =>
              rcases joined with opened | closing
              · exact .inr (.inl ⟨opened, writable⟩)
              · exact .inr (.inr closing)
          | shut closing => exact .inr (.inr closing)
          | carried hands =>
              rw [idle] at hands
              cases hands
      | idle | connecting | failed | disconnected => simp [state, LwsState.up] at up
  | released _ _ signaled =>
      rw [live] at signaled
      cases signaled

/-- On a pipe past the pending list of `connect()`, and with no graceful
shutdown requested: whenever a `close()` has returned, none is in progress and
the service thread is between callbacks, the close waits where it will be acted
on until the pipe is released.  DISCONNECTING is entered from CONNECTED only,
and DISCONNECTED and FAILED are never left. -/
theorem close_intent_kept (config : Config) {labels : List Act}
    {trace : List Event} {finish : State}
    (run : (machine config).Run ungraceful (machine config).initial labels
      trace finish) :
    (finish.connectCall = .cancelService ∨ finish.connectCall = .returned →
      .returned .close ∈ trace →
      (∀ thread call, finish.calls thread = some call → call.op ≠ .close) →
      finish.service = .idle → finish.pipe.closeSignaled = false →
      Pending finish.pipe) ∧
    ∀ act next events,
      (machine config).step finish act = some (next, events) →
      (next.pipe.state = .disconnecting →
        finish.pipe.state = .disconnecting ∨ finish.pipe.state = .connected) ∧
      (finish.pipe.state = .disconnected ∨ finish.pipe.state = .failed →
        next.pipe.state = finish.pipe.state) := by
  have intent : Intent trace finish :=
    run.induct Intent intent_fresh fun holds guarded step =>
      holds.step guarded step
  constructor
  · intro called returned quiescent idle live
    refine intent.pending ?_ returned quiescent idle live
    rcases called with called | called <;> rw [called] <;> rfl
  · intro act next events step
    obtain ⟨life, lives⟩ := intent.lives
    generalize before : finish.pipe.state = state
    generalize after : next.pipe.state = state'
    have moves := lives.moves step
    rw [before, after] at moves
    cases moves with
    | stays => exact ⟨.inl, fun _ => rfl⟩
    | exchanged => exact ⟨fun _ => .inr rfl, by simp⟩
    | ends up =>
        refine ⟨by simp, ?_⟩
        rintro (rfl | rfl) <;> cases up
    | dials | refused | connects | fails => exact ⟨by simp, by simp⟩

/-- A close during the handshake; ESTABLISHED hands it over. -/
theorem close_intent_kept_over_handshake :
    ∃ labels trace finish,
      (machine ⟨1600, 320, 1, false⟩).Run ungraceful State.fresh labels trace
          finish ∧
        finish.pipe.pendingDisconnects = 1 ∧ Pending finish.pipe := by
  let labels : List Act :=
    startHandshake ++ [Act.enter 0 .close] ++
      List.replicate 3 (Act.advance 0) ++ [Act.deliver .established] ++ serves 8
  obtain ⟨finish, trace, executed, connectCall, member, calls, service, live,
      pending⟩ : ∃ finish trace,
      (machine ⟨1600, 320, 1, false⟩).exec ungraceful .fresh labels =
          some (finish, trace) ∧
        finish.connectCall = .returned ∧ .returned .close ∈ trace ∧
        (∀ thread, finish.calls thread = none) ∧ finish.service = .idle ∧
        finish.pipe.closeSignaled = false ∧
        finish.pipe.pendingDisconnects = 1 := by
    refine ⟨_, _, rfl, rfl, by decide, ?_, rfl, rfl, rfl⟩
    intro thread
    cases thread <;> rfl
  have run := Machine.run_of_exec executed
  refine ⟨labels, trace, finish, run, pending, ?_⟩
  refine (close_intent_kept _ run).1 (.inr connectCall) member ?_ service live
  intro thread call present
  rw [calls thread] at present
  cases present

end DrachtioModules.AudioFork

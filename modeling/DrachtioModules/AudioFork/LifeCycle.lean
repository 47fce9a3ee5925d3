import DrachtioModules.AudioFork.Steps

/-!
# The life of a pipe

To its owner a pipe is a sequence of notifications that ends when `setClosed`
hands it to the reaper.  `Passage` is that life in its own terms.  `Living`
ties each stage of it to the fields of the pipe and to the place the service
thread has reached; every atomic step is a passage of the life.

One passage is not meant to be there: a connection may end unannounced, when
CLOSED finds the pipe in neither of the two states it asks for.
-/

namespace DrachtioModules.AudioFork

/-- How far the life of a pipe has come: `connect()` not resolved, failed,
open, ended, or handed to the reaper. -/
inductive Life where
  | waiting
  | failed
  | opened
  | ended
  | released
  deriving DecidableEq, Repr

def Event.told : Event → Bool
  | .notified _ | .closeSignaled => true
  | _ => false

/-- One step of a life and what the owner is told by it; `slip` says when a
connection may end unannounced. -/
inductive Passage (slip : Prop) : Life → List Event → Life → Prop where
  | quiet {life : Life} : Passage slip life [] life
  | fail : Passage slip .waiting [.notified .connectFail] .failed
  | success : Passage slip .waiting [.notified .connectSuccess] .opened
  | message {text : Bytes} :
      Passage slip .opened [.notified (.message text)] .opened
  | dropped : Passage slip .opened [.notified .connectionDropped] .ended
  | closed :
      Passage slip .opened [.notified .connectionClosedGracefully] .ended
  | unannounced (slipped : slip) : Passage slip .opened [] .ended
  | abandon : Passage slip .failed [.closeSignaled] .released
  | release : Passage slip .ended [.closeSignaled] .released

/-- The stretches of the service thread's work that belong to one stage of the
pipe's life; `background` belongs to none. -/
inductive Phase where
  | background
  | dialling
  | joining
  | opening
  | serving
  | leaving
  | left
  | releasing
  | failing (stage : FailStage)
  deriving DecidableEq, Repr

def Service.phase : Service → Phase
  | .connectClient => .dialling
  | .establishedAdopt => .joining
  | .establishedClose | .establishedClosing _ | .establishedGraceful
  | .establishedShutdown _ | .establishedNotify => .opening
  | .establishedMetadata _ | .writeableFlag | .writeableFlush
  | .writeableText | .writeableState | .writeableAudio => .serving
  | .closedGracefully | .closedDropped => .leaving
  | .closedStore => .left
  | .closedSignal => .releasing
  | .failing stage _ => .failing stage
  | .idle | .pendingConnects | .pendingDisconnects | .disconnectWritable
  | .pendingWrites | .writeWritable => .background

/-- How far `connect()` has come: not at the pending list yet, refused for want
of an lws context, or past it. -/
inductive Connect where
  | early
  | refusing
  | refused
  | added
  deriving DecidableEq, Repr

def ConnectCall.phase : ConnectCall → Connect
  | .notCalled | .entered => .early
  | .notify => .refusing
  | .signal => .refused
  | .cancelService | .returned => .added

/-- CONNECTED, or DISCONNECTING by the exchange of a `close()`. -/
def LwsState.up : LwsState → Bool
  | .connected | .disconnecting => true
  | .idle | .connecting | .failed | .disconnected => false

inductive Living (pipe : Pipe) : Connect → Phase → Life → Prop where
  | unconnected (state : pipe.state = .idle) (wsi : pipe.wsi = .none)
      (absent : pipe.inPendingConnects = false)
      (live : pipe.closeSignaled = false) :
      Living pipe .early .background .waiting
  | refusing (state : pipe.state = .failed)
      (wsi : pipe.wsi = .none) (live : pipe.closeSignaled = false) :
      Living pipe .refusing .background .waiting
  | refused (state : pipe.state = .failed)
      (wsi : pipe.wsi = .none) (live : pipe.closeSignaled = false) :
      Living pipe .refused .background .failed
  | queued (state : pipe.state = .idle)
      (wsi : pipe.wsi = .none) (pending : pipe.inPendingConnects = true)
      (live : pipe.closeSignaled = false) :
      Living pipe .added .background .waiting
  | dialling (state : pipe.state = .connecting)
      (wsi : pipe.wsi = .none) (pending : pipe.inPendingConnects = true)
      (live : pipe.closeSignaled = false) :
      Living pipe .added .dialling .waiting
  | handshaking (state : pipe.state = .connecting)
      (wsi : pipe.wsi = .handshaking) (pending : pipe.inPendingConnects = true)
      (live : pipe.closeSignaled = false) :
      Living pipe .added .background .waiting
  | joining (state : pipe.state = .connecting)
      (wsi : pipe.wsi = .opened) (live : pipe.closeSignaled = false) :
      Living pipe .added .joining .waiting
  | opening (up : pipe.state.up = true)
      (wsi : pipe.wsi = .opened) (adopted : pipe.adopted = true)
      (live : pipe.closeSignaled = false) :
      Living pipe .added .opening .waiting
  | opened (up : pipe.state.up = true)
      (joined : pipe.wsi = .opened ∨ pipe.wsi = .closing)
      (adopted : pipe.adopted = true) (live : pipe.closeSignaled = false) :
      Living pipe .added .background .opened
  | serving (up : pipe.state.up = true)
      (wsi : pipe.wsi = .opened) (adopted : pipe.adopted = true)
      (live : pipe.closeSignaled = false) :
      Living pipe .added .serving .opened
  | leaving (up : pipe.state.up = true)
      (wsi : pipe.wsi = .freed) (live : pipe.closeSignaled = false) :
      Living pipe .added .leaving .opened
  | left (up : pipe.state.up = true)
      (wsi : pipe.wsi = .freed) (live : pipe.closeSignaled = false) :
      Living pipe .added .left .ended
  | releasing (state : pipe.state = .disconnected)
      (wsi : pipe.wsi = .freed) (live : pipe.closeSignaled = false) :
      Living pipe .added .releasing .ended
  | failStore (state : pipe.state = .connecting)
      (wsi : pipe.wsi = .none ∨ pipe.wsi = .freed)
      (live : pipe.closeSignaled = false) :
      Living pipe .added (.failing .store) .waiting
  | failNotify (state : pipe.state = .failed)
      (wsi : pipe.wsi = .none ∨ pipe.wsi = .freed)
      (live : pipe.closeSignaled = false) :
      Living pipe .added (.failing .notify) .waiting
  | failSignal (state : pipe.state = .failed)
      (wsi : pipe.wsi = .none ∨ pipe.wsi = .freed)
      (live : pipe.closeSignaled = false) :
      Living pipe .added (.failing .signal) .failed
  | released (state : pipe.state = .failed ∨ pipe.state = .disconnected)
      (wsi : pipe.wsi = .none ∨ pipe.wsi = .freed)
      (signaled : pipe.closeSignaled = true) :
      Living pipe .added .background .released

def Lives (s : State) (life : Life) : Prop :=
  Living s.pipe s.connectCall.phase s.service.phase life

theorem lives_of {s : State} {call : Connect} {phase : Phase} {life : Life}
    (living : Living s.pipe call phase life)
    (connect : s.connectCall.phase = call) (service : s.service.phase = phase) :
    Lives s life := by
  subst connect service
  exact living

/-- CLOSED has found the pipe not DISCONNECTING and now finds it not CONNECTED
either. -/
def Slips (s : State) : Prop :=
  s.service = .closedDropped ∧ s.pipe.state ≠ .connected

theorem lives_fresh : Lives .fresh .waiting :=
  .unconnected rfl rfl rfl rfl

theorem stepCode_told {config : Config} {pipe next : Pipe} {code : Code}
    {rest : Option Code} {events : List Event}
    (step : stepCode config pipe code = some (next, rest, events)) :
    events.filter Event.told = [] := by
  rcases stepCode_events step with rfl | ⟨text, rfl⟩ <;> rfl

/-- The fields no member function stores. -/
structure Untouched (pipe next : Pipe) : Prop where
  adopted : next.adopted = pipe.adopted
  signaled : next.closeSignaled = pipe.closeSignaled

theorem stepCode_untouched {config : Config} {pipe next : Pipe} {code : Code}
    {rest : Option Code} {events : List Event}
    (step : stepCode config pipe code = some (next, rest, events)) :
    Untouched pipe next := by
  cases stepCode_cases step <;> exact ⟨rfl, rfl⟩

theorem CodeEffect.keeps {pipe next : Pipe} (effect : CodeEffect pipe next)
    {value : LwsState} (here : pipe.state = value) (other : value ≠ .connected) :
    next.state = value := by
  rcases effect.state with same | ⟨connected, _⟩
  · rw [same]
    exact here
  · rw [here] at connected
    exact (other connected).elim

theorem CodeEffect.up {pipe next : Pipe} (effect : CodeEffect pipe next)
    (here : pipe.state.up = true) : next.state.up = true := by
  rcases effect.state with same | ⟨_, disconnecting⟩
  · rw [same]
    exact here
  · rw [disconnecting]
    rfl

theorem Living.code {pipe next : Pipe} {call : Connect} {phase : Phase}
    {life : Life} (living : Living pipe call phase life)
    (effect : CodeEffect pipe next) (untouched : Untouched pipe next) :
    Living next call phase life := by
  obtain ⟨adopted, signaled⟩ := untouched
  cases living with
  | unconnected state wsi absent live =>
      exact .unconnected (effect.keeps state (by simp))
        (effect.wsi.trans wsi) (effect.pending.trans absent)
        (signaled.trans live)
  | refusing state wsi live =>
      exact .refusing (effect.keeps state (by simp))
        (effect.wsi.trans wsi) (signaled.trans live)
  | refused state wsi live =>
      exact .refused (effect.keeps state (by simp))
        (effect.wsi.trans wsi) (signaled.trans live)
  | queued state wsi pending live =>
      exact .queued (effect.keeps state (by simp))
        (effect.wsi.trans wsi) (effect.pending.trans pending)
        (signaled.trans live)
  | dialling state wsi pending live =>
      exact .dialling (effect.keeps state (by simp))
        (effect.wsi.trans wsi) (effect.pending.trans pending)
        (signaled.trans live)
  | handshaking state wsi pending live =>
      exact .handshaking (effect.keeps state (by simp))
        (effect.wsi.trans wsi) (effect.pending.trans pending)
        (signaled.trans live)
  | joining state wsi live =>
      exact .joining (effect.keeps state (by simp))
        (effect.wsi.trans wsi) (signaled.trans live)
  | opening up wsi here live =>
      exact .opening (effect.up up) (effect.wsi.trans wsi)
        (adopted.trans here) (signaled.trans live)
  | opened up joined here live =>
      refine .opened (effect.up up) ?_ (adopted.trans here)
        (signaled.trans live)
      rw [effect.wsi]
      exact joined
  | serving up wsi here live =>
      exact .serving (effect.up up) (effect.wsi.trans wsi)
        (adopted.trans here) (signaled.trans live)
  | leaving up wsi live =>
      exact .leaving (effect.up up) (effect.wsi.trans wsi)
        (signaled.trans live)
  | left up wsi live =>
      exact .left (effect.up up) (effect.wsi.trans wsi)
        (signaled.trans live)
  | releasing state wsi live =>
      exact .releasing (effect.keeps state (by simp))
        (effect.wsi.trans wsi) (signaled.trans live)
  | failStore state wsi live =>
      refine .failStore (effect.keeps state (by simp)) ?_
        (signaled.trans live)
      rw [effect.wsi]
      exact wsi
  | failNotify state wsi live =>
      refine .failNotify (effect.keeps state (by simp)) ?_
        (signaled.trans live)
      rw [effect.wsi]
      exact wsi
  | failSignal state wsi live =>
      refine .failSignal (effect.keeps state (by simp)) ?_
        (signaled.trans live)
      rw [effect.wsi]
      exact wsi
  | released state wsi here =>
      refine .released ?_ ?_ (signaled.trans here)
      · exact state.imp (fun failed => effect.keeps failed (by simp))
          (fun gone => effect.keeps gone (by simp))
      · rw [effect.wsi]
        exact wsi

theorem Living.still {pipe next : Pipe} {call : Connect} {phase : Phase}
    {life : Life} (living : Living pipe call phase life)
    (state : next.state = pipe.state) (wsi : next.wsi = pipe.wsi)
    (pending : next.inPendingConnects = pipe.inPendingConnects)
    (adopted : next.adopted = pipe.adopted)
    (signaled : next.closeSignaled = pipe.closeSignaled)
    (flag : next.gracefulShutdown = pipe.gracefulShutdown) :
    Living next call phase life :=
  living.code ⟨.inl state, wsi, pending, fun set => flag.trans set⟩
    ⟨adopted, signaled⟩

theorem Lives.connect {s s' : State} {life : Life} {ok : Bool}
    {events : List Event} (lives : Lives s life)
    (step : stepConnect s ok = some (s', events)) :
    ∃ life', Lives s' life' ∧
      Passage (Slips s) life (events.filter Event.told) life' := by
  unfold Lives at lives
  obtain ⟨_, stage, taken⟩ := stepConnect_cases step
  generalize here : s.service.phase = phase at lives
  rw [stage] at lives
  cases taken with
  | enter =>
      exact ⟨life, lives_of lives rfl here, .quiet⟩
  | add =>
      cases lives with
      | unconnected state wsi _ live =>
          exact ⟨.waiting, lives_of (.queued state wsi rfl live) rfl here,
            .quiet⟩
  | fail =>
      cases lives with
      | unconnected _ wsi _ live =>
          exact ⟨.waiting, lives_of (.refusing rfl wsi live) rfl here, .quiet⟩
  | notify =>
      cases lives with
      | refusing state wsi live =>
          exact ⟨.failed, lives_of (.refused state wsi live) rfl here, .fail⟩
  | signal =>
      cases lives with
      | refused state wsi =>
          exact ⟨.released,
            lives_of (.released (.inl state) (.inl wsi) rfl) rfl here, .abandon⟩
  | signalAgain again =>
      cases lives with
      | refused _ _ live =>
          rw [again] at live
          cases live
  | cancelService =>
      exact ⟨life, lives_of lives rfl here, .quiet⟩

/-- Between two service steps only a queued connection awaits its handshake. -/
theorem Living.shaking {pipe : Pipe} {call : Connect} {life : Life}
    (living : Living pipe call .background life)
    (handshaking : pipe.wsi = .handshaking) :
    call = .added ∧ life = .waiting ∧ pipe.state = .connecting ∧
      pipe.inPendingConnects = true ∧ pipe.closeSignaled = false := by
  cases living with
  | handshaking state _ pending live => exact ⟨rfl, rfl, state, pending, live⟩
  | unconnected _ wsi | refusing _ wsi | refused _ wsi | queued _ wsi =>
      rw [handshaking] at wsi
      cases wsi
  | opened _ joined => simp [handshaking] at joined
  | released _ wsi => simp [handshaking] at wsi

/-- Between two service steps the wsi of an open connection names the pipe. -/
theorem Living.joined {pipe : Pipe} {call : Connect} {life : Life}
    (living : Living pipe call .background life)
    (joined : pipe.wsi = .opened ∨ pipe.wsi = .closing) :
    call = .added ∧ life = .opened ∧ pipe.state.up = true ∧
      pipe.adopted = true ∧ pipe.closeSignaled = false := by
  cases living with
  | opened up _ adopted live => exact ⟨rfl, rfl, up, adopted, live⟩
  | unconnected _ wsi | refusing _ wsi | refused _ wsi | queued _ wsi
  | handshaking _ wsi => simp [wsi] at joined
  | released _ wsi => rcases wsi with wsi | wsi <;> simp [wsi] at joined

theorem Lives.deliver {s s' : State} {life : Life} {callback : Callback}
    {events : List Event} (lives : Lives s life) (idle : s.service = .idle)
    (step : deliver s callback = some (s', events)) :
    ∃ life', Lives s' life' ∧
      Passage (Slips s) life (events.filter Event.told) life' := by
  have calm : s.service.phase = .background := by rw [idle]; rfl
  have living := lives
  unfold Lives at living
  rw [calm] at living
  cases deliver_cases step with
  | established handshaking =>
      obtain ⟨called, rfl, state, _, live⟩ := living.shaking handshaking
      exact ⟨.waiting, lives_of (.joining state rfl live) called rfl, .quiet⟩
  | connectionError handshaking =>
      obtain ⟨called, rfl, state, _, live⟩ := living.shaking handshaking
      exact ⟨.waiting, lives_of (.failStore state (.inr rfl) live) called rfl,
        .quiet⟩
  | establishedStray handshaking lost | connectionErrorStray handshaking lost =>
      obtain ⟨_, _, state, pending, _⟩ := living.shaking handshaking
      exact (lost ⟨pending, state⟩).elim
  | closed joined =>
      obtain ⟨called, rfl, up, _, live⟩ := living.joined joined
      exact ⟨.opened, lives_of (.leaving up rfl live) called rfl, .quiet⟩
  | closedStray joined unadopted =>
      obtain ⟨_, _, _, adopted, _⟩ := living.joined joined
      rw [unadopted] at adopted
      cases adopted
  | receive opened =>
      obtain ⟨_, rfl, _⟩ := living.joined (.inl opened)
      exact ⟨.opened, lives, .message⟩
  | receiveStray => exact ⟨life, lives, .quiet⟩
  | writeable opened =>
      obtain ⟨called, rfl, up, adopted, live⟩ := living.joined (.inl opened)
      exact ⟨.opened, lives_of (.serving up opened adopted live) called rfl,
        .quiet⟩
  | writeableStray =>
      exact ⟨life, lives_of (living.still rfl rfl rfl rfl rfl rfl) rfl calm,
        .quiet⟩
  | eventWaitCancelled => exact ⟨life, lives_of living rfl rfl, .quiet⟩

theorem Lives.endWriteable {s : State} {pipe : Pipe} {events : List Event}
    {outcome : Outcome} {call : Connect}
    (living : Living pipe call .serving .opened)
    (called : s.connectCall.phase = call) :
    Lives (endWriteable s pipe events outcome).1 .opened := by
  cases living with
  | serving up wsi adopted live =>
      dsimp only [AudioFork.endWriteable]
      split
      · exact lives_of (.opened up (.inl wsi) adopted live) called rfl
      · exact lives_of (.opened up (.inr rfl) adopted live) called rfl

theorem Lives.serve {config : Config} {s s' : State} {life : Life} {ok : Bool}
    {metadata : Option Bytes} {events : List Event} (lives : Lives s life)
    (step : serve config s ok metadata = some (s', events)) :
    ∃ life', Lives s' life' ∧
      Passage (Slips s) life (events.filter Event.told) life' := by
  unfold Lives at lives
  generalize called : s.connectCall.phase = call at lives
  obtain ⟨_, service, taken⟩ := serve_cases step
  rw [service] at lives
  cases taken with
  | adopt =>
      cases lives with
      | joining _ wsi live =>
          exact ⟨.waiting, lives_of (.opening rfl wsi rfl live) called rfl,
            .quiet⟩
  | closeRecorded | closeUnrecorded | gracefulRecorded | gracefulUnrecorded =>
      exact ⟨life, lives_of lives called rfl, .quiet⟩
  | @closing _ _ rest _ result | @shutdown _ _ rest _ result =>
      rw [stepCode_told result]
      have coded := lives.code (stepCode_effect result)
        (stepCode_untouched result)
      refine ⟨life, lives_of coded called ?_, .quiet⟩
      cases rest <;> rfl
  | notifyConnect =>
      cases lives with
      | opening up wsi adopted live =>
          exact ⟨.opened, lives_of (.serving up wsi adopted live) called rfl,
            .success⟩
  | notifyConnectOnly =>
      cases lives with
      | opening up wsi adopted live =>
          exact ⟨.opened,
            lives_of (.opened up (.inl wsi) adopted live) called rfl, .success⟩
  | @metadata _ _ rest _ result =>
      rw [stepCode_told result]
      have coded := lives.code (stepCode_effect result)
        (stepCode_untouched result)
      cases rest with
      | some next => exact ⟨life, lives_of coded called rfl, .quiet⟩
      | none =>
          cases coded with
          | serving up wsi adopted live =>
              exact ⟨.opened,
                lives_of (.opened up (.inl wsi) adopted live) called rfl,
                .quiet⟩
  | connects found idle =>
      cases lives with
      | unconnected _ _ absent =>
          rw [found] at absent
          cases absent
      | queued _ wsi _ live =>
          exact ⟨.waiting, lives_of (.dialling rfl wsi found live) called rfl,
            .quiet⟩
      | refusing state | refused state | handshaking state =>
          rw [idle] at state
          cases state
      | opened up =>
          rw [idle] at up
          cases up
      | released state => simp [idle] at state
  | connectsNothing | disconnectsNothing | writesNothing =>
      exact ⟨life, lives_of lives called rfl, .quiet⟩
  | connectClient =>
      cases lives with
      | dialling _ _ pending live =>
          exact ⟨.waiting, lives_of (.handshaking rfl rfl pending live) called rfl,
            .quiet⟩
  | connectClientFails =>
      cases lives with
      | dialling _ wsi _ live =>
          exact ⟨.waiting, lives_of (.failStore rfl (.inl wsi) live) called rfl,
            .quiet⟩
  | failStore =>
      cases lives with
      | failStore _ wsi live =>
          exact ⟨.waiting, lives_of (.failNotify rfl wsi live) called rfl, .quiet⟩
  | failNotify =>
      cases lives with
      | failNotify state wsi live =>
          exact ⟨.failed, lives_of (.failSignal state wsi live) called rfl, .fail⟩
  | @failSignal inPass =>
      cases lives with
      | failSignal state wsi =>
          refine ⟨.released,
            lives_of (.released (.inl state) wsi rfl) called ?_, .abandon⟩
          cases inPass <;> rfl
  | failSignalAgain again =>
      cases lives with
      | failSignal _ _ live =>
          rw [again] at live
          cases live
  | disconnects | disconnectsStale | disconnectWritable | writes | writesStale
  | writeWritable =>
      exact ⟨life, lives_of (lives.still rfl rfl rfl rfl rfl rfl) called rfl,
        .quiet⟩
  | closedGracefully =>
      cases lives with
      | leaving up wsi live =>
          exact ⟨.ended, lives_of (.left up wsi live) called rfl, .closed⟩
  | closedOtherwise => exact ⟨life, lives_of lives called rfl, .quiet⟩
  | closedDropped =>
      cases lives with
      | leaving up wsi live =>
          exact ⟨.ended, lives_of (.left up wsi live) called rfl, .dropped⟩
  | closedQuietly other =>
      cases lives with
      | leaving up wsi live =>
          exact ⟨.ended, lives_of (.left up wsi live) called rfl,
            .unannounced ⟨service, other⟩⟩
  | closedStore =>
      cases lives with
      | left _ wsi live =>
          exact ⟨.ended, lives_of (.releasing rfl wsi live) called rfl, .quiet⟩
  | closedSignal =>
      cases lives with
      | releasing state wsi =>
          exact ⟨.released,
            lives_of (.released (.inr state) (.inr wsi) rfl) called rfl,
            .release⟩
  | closedSignalAgain again =>
      cases lives with
      | releasing _ _ live =>
          rw [again] at live
          cases live
  | flagged | unflagged | noText | stays =>
      exact ⟨life, lives_of lives called rfl, .quiet⟩
  | flush | flushFails | shuts | drained =>
      cases lives with
      | serving up wsi adopted live =>
          exact ⟨.opened, .endWriteable (.serving up wsi adopted live) called,
            .quiet⟩
  | sendText | sendTextFails | sendAudio | sendAudioFails =>
      cases lives with
      | serving up wsi adopted live =>
          exact ⟨.opened, .endWriteable (.serving up wsi adopted live) called,
            .quiet⟩

theorem Lives.step {config : Config} {s s' : State} {life : Life} {act : Act}
    {events : List Event} (lives : Lives s life)
    (step : (machine config).step s act = some (s', events)) :
    ∃ life', Lives s' life' ∧
      Passage (Slips s) life (events.filter Event.told) life' := by
  cases act with
  | connect ok => exact lives.connect step
  | enter thread op =>
      simp only [machine, AudioFork.step] at step
      split at step
      · cases step
        exact ⟨life, lives, .quiet⟩
      · cases step
  | advance thread =>
      obtain ⟨call, pipe, rest, emitted, _, result, rfl, rfl⟩ :=
        stepCall_cases step
      have coded := lives.code (stepCode_effect result)
        (stepCode_untouched result)
      rw [List.filter_append, stepCode_told result]
      refine ⟨life, coded, ?_⟩
      cases rest <;> exact .quiet
  | deliver callback =>
      simp only [machine, AudioFork.step] at step
      split at step
      · rename_i idle
        exact lives.deliver idle step
      · cases step
  | serve ok metadata => exact lives.serve step

end DrachtioModules.AudioFork

import DrachtioModules.AudioFork.Steps

/-!
# `m_state` and the wsi of a pipe

Several threads store `m_state`, but each value is stored under a condition
that ties it to the stage the websocket connection is in.  `Linked` states that
tie; it holds in every reachable state.
-/

namespace DrachtioModules.AudioFork

/-- The stretches of a service pass during which the wsi is known. -/
inductive Stage where
  | joining
  | leaving
  | writing
  deriving DecidableEq, Repr

/-- `joining` is about to store CONNECTED, CONNECTING or FAILED in a pipe found
CONNECTING, `leaving` is inside CLOSED before DISCONNECTED is stored, `writing`
is inside WRITEABLE. -/
def Service.stage : Service → Option Stage
  | .establishedAdopt | .connectClient | .failing .store _ => some .joining
  | .closedGracefully | .closedDropped | .closedStore => some .leaving
  | .writeableFlag | .writeableFlush | .writeableText | .writeableState
  | .writeableAudio => some .writing
  | _ => none

def Linked.During (pipe : Pipe) : Stage → Prop
  | .joining => pipe.state = .connecting ∧ pipe.wsi ≠ .handshaking
  | .leaving => pipe.state ≠ .idle ∧ pipe.wsi = .freed
  | .writing => pipe.wsi = .opened

/-- How `m_state`, the pending connect and the wsi go together. -/
structure Tied (connectCall : ConnectCall) (state : LwsState) (wsi : Wsi)
    (inPendingConnects : Bool) : Prop where
  unconnected : connectCall = .notCalled ∨ connectCall = .entered →
    state = .idle ∧ inPendingConnects = false
  idle : state = .idle → wsi = .none
  handshaking : wsi = .handshaking → state = .connecting

theorem Tied.departed {connectCall : ConnectCall} {state state' : LwsState}
    {wsi wsi' : Wsi} {pending pending' : Bool}
    (tied : Tied connectCall state wsi pending) (before : state ≠ .idle)
    (after : state' ≠ .idle)
    (handshaking : wsi' = .handshaking → state' = .connecting) :
    Tied connectCall state' wsi' pending' :=
  ⟨fun early => (before (tied.unconnected early).1).elim,
    fun idle => (after idle).elim, handshaking⟩

structure Linked (s : State) : Prop extends Tied s.connectCall s.pipe.state
    s.pipe.wsi s.pipe.inPendingConnects where
  closed : s.pipe.state = .disconnected → s.pipe.wsi = .freed
  during : ∀ stage, s.service.stage = some stage → Linked.During s.pipe stage

theorem linked_fresh : Linked .fresh := by
  refine ⟨⟨?_, ?_, ?_⟩, ?_, ?_⟩ <;>
    simp [State.fresh, Pipe.fresh, Service.stage]

theorem Linked.opened {s : State} (linked : Linked s)
    (opened : s.pipe.wsi = .opened) :
    s.pipe.state ≠ .idle ∧ s.pipe.state ≠ .disconnected := by
  constructor
  · intro idle
    rw [linked.idle idle] at opened
    cases opened
  · intro disconnected
    rw [linked.closed disconnected] at opened
    cases opened

theorem Linked.still {s s' : State} (linked : Linked s)
    (state : s'.pipe.state = s.pipe.state) (wsi : s'.pipe.wsi = s.pipe.wsi)
    (pending : s'.pipe.inPendingConnects = s.pipe.inPendingConnects)
    (early : s'.connectCall = .notCalled ∨ s'.connectCall = .entered →
      s.connectCall = .notCalled ∨ s.connectCall = .entered)
    (during : ∀ stage, s'.service.stage = some stage →
      Linked.During s.pipe stage) :
    Linked s' := by
  refine ⟨⟨?_, ?_, ?_⟩, ?_, ?_⟩
  · rw [state, pending]
    exact fun here => linked.unconnected (early here)
  · rw [state, wsi]
    exact linked.idle
  · rw [state, wsi]
    exact linked.handshaking
  · rw [state, wsi]
    exact linked.closed
  · intro stage here
    have before := during stage here
    cases stage <;> simpa only [Linked.During, state, wsi] using before

theorem Linked.departed {s s' : State} (linked : Linked s)
    (connectCall : s'.connectCall = s.connectCall)
    (before : s.pipe.state ≠ .idle) (after : s'.pipe.state ≠ .idle)
    (handshaking : s'.pipe.wsi = .handshaking → s'.pipe.state = .connecting)
    (closed : s'.pipe.state = .disconnected → s'.pipe.wsi = .freed)
    (during : ∀ stage, s'.service.stage = some stage →
      Linked.During s'.pipe stage) :
    Linked s' := by
  refine ⟨?_, closed, during⟩
  rw [connectCall]
  exact linked.toTied.departed before after handshaking

/-- A step of a member function keeps the link, whether the service thread
stays or is in no stage afterwards. -/
theorem Linked.code {s s' : State} (linked : Linked s)
    (effect : CodeEffect s.pipe s'.pipe)
    (connectCall : s'.connectCall = s.connectCall)
    (service : s'.service = s.service ∨ s'.service.stage = none) :
    Linked s' := by
  have within : ∀ stage, s'.service.stage = some stage →
      Linked.During s.pipe stage := by
    intro stage here
    rcases service with same | none
    · exact linked.during stage (same ▸ here)
    · rw [none] at here
      cases here
  obtain ⟨same | ⟨connected, disconnecting⟩, wsi, pending, _⟩ := effect
  · refine linked.still same wsi pending ?_ within
    rw [connectCall]
    exact id
  · refine linked.departed connectCall ?_ ?_ ?_ ?_ ?_
    · simp [connected]
    · simp [disconnecting]
    · rw [wsi]
      intro handshaking
      have connecting := linked.handshaking handshaking
      rw [connected] at connecting
      cases connecting
    · simp [disconnecting]
    · intro stage here
      have before := within stage here
      cases stage <;> simp_all [Linked.During]

theorem Linked.connect {s s' : State} {ok : Bool} {events : List Event}
    (linked : Linked s) (step : stepConnect s ok = some (s', events)) :
    Linked s' := by
  obtain ⟨_, stage, taken⟩ := stepConnect_cases step
  cases taken with
  | enter =>
      exact linked.still rfl rfl rfl (fun _ => .inl stage) linked.during
  | add =>
      exact ⟨⟨by simp, linked.idle, linked.handshaking⟩, linked.closed,
        linked.during⟩
  | fail =>
      have unconnected := linked.unconnected (.inr stage)
      have absent := linked.idle unconnected.1
      refine ⟨⟨by simp, by simp, by simp [absent]⟩, by simp, ?_⟩
      intro stage inside
      have before := linked.during stage inside
      cases stage <;> simp_all [Linked.During]
  | notify | signal | signalAgain | cancelService =>
      exact linked.still rfl rfl rfl (by simp) linked.during

theorem Linked.deliver {s s' : State} {callback : Callback}
    {events : List Event} (linked : Linked s) (idle : s.service = .idle)
    (step : deliver s callback = some (s', events)) : Linked s' := by
  cases deliver_cases step with
  | established handshaking | establishedStray handshaking
  | connectionError handshaking | connectionErrorStray handshaking =>
      have connecting := linked.handshaking handshaking
      refine linked.departed rfl ?_ ?_ ?_ ?_ ?_ <;>
        simp [connecting, idle, Service.stage, Linked.During]
  | closed joined | closedStray joined =>
      have departed : s.pipe.state ≠ .idle := by
        intro still
        rw [linked.idle still] at joined
        simp at joined
      refine linked.departed rfl departed departed ?_ ?_ ?_ <;>
        simp [idle, departed, Service.stage, Linked.During]
  | receive | receiveStray => exact linked
  | writeable opened =>
      refine linked.still rfl rfl rfl id ?_
      simp [Service.stage, Linked.During, opened]
  | writeableStray => exact linked.still rfl rfl rfl id linked.during
  | eventWaitCancelled =>
      exact linked.still rfl rfl rfl id (by simp [Service.stage])

theorem Linked.endWriteable {s : State} {pipe : Pipe} {events : List Event}
    {outcome : Outcome} (linked : Linked s) (opened : s.pipe.wsi = .opened)
    (state : pipe.state = s.pipe.state) (wsi : pipe.wsi = s.pipe.wsi)
    (pending : pipe.inPendingConnects = s.pipe.inPendingConnects) :
    Linked (endWriteable s pipe events outcome).1 := by
  obtain ⟨departed, live⟩ := linked.opened opened
  dsimp only [AudioFork.endWriteable]
  split
  · exact linked.still state wsi pending id (by simp [Service.stage])
  · refine linked.departed rfl departed ?_ ?_ ?_ ?_ <;>
      simp [state, departed, live, Service.stage]

theorem Linked.serve {config : Config} {s s' : State} {ok : Bool}
    {metadata : Option Bytes} {events : List Event} (linked : Linked s)
    (step : serve config s ok metadata = some (s', events)) : Linked s' := by
  obtain ⟨_, service, taken⟩ := serve_cases step
  have during := linked.during
  rw [service] at during
  cases taken with
  | adopt | connectClient | connectClientFails | failStore =>
      obtain ⟨connecting, known⟩ := during .joining rfl
      refine linked.departed rfl ?_ ?_ ?_ ?_ ?_ <;>
        simp [connecting, known, Service.stage, Linked.During]
  | @closing _ _ rest _ result | @shutdown _ _ rest _ result
  | @metadata _ _ rest _ result =>
      refine linked.code (stepCode_effect result) rfl (.inr ?_)
      cases rest <;> rfl
  | connects found idle =>
      have late :
          ¬ (s.connectCall = .notCalled ∨ s.connectCall = .entered) := by
        intro early
        rw [(linked.unconnected early).2] at found
        cases found
      have absent := linked.idle idle
      refine ⟨⟨fun early => (late early).elim, ?_, ?_⟩, ?_, ?_⟩ <;>
        simp [absent, Service.stage, Linked.During]
  | @failSignal inPass | @failSignalAgain inPass =>
      refine linked.still rfl rfl rfl id ?_
      cases inPass <;> simp [Service.stage]
  | closedGracefully | closedOtherwise | closedDropped | closedQuietly =>
      have leaving := during .leaving rfl
      refine linked.still rfl rfl rfl id ?_
      simpa [Service.stage] using leaving
  | closedStore =>
      obtain ⟨departed, freed⟩ := during .leaving rfl
      refine linked.departed rfl departed ?_ ?_ ?_ ?_ <;> simp [freed, Service.stage]
  | flagged | unflagged | noText | stays =>
      have opened := during .writing rfl
      refine linked.still rfl rfl rfl id ?_
      simpa [Service.stage] using opened
  | flush | flushFails | sendText | sendTextFails | shuts | drained | sendAudio
  | sendAudioFails =>
      exact linked.endWriteable (during .writing rfl) rfl rfl rfl
  | _ => exact linked.still rfl rfl rfl id (by simp [Service.stage])

theorem Linked.step {config : Config} {s s' : State} {act : Act}
    {events : List Event} (linked : Linked s)
    (step : (machine config).step s act = some (s', events)) : Linked s' := by
  cases act with
  | connect ok => exact linked.connect step
  | enter thread op =>
      simp only [machine, AudioFork.step] at step
      split at step
      · cases step
        exact linked.still rfl rfl rfl id linked.during
      · cases step
  | advance thread =>
      obtain ⟨_, _, _, _, _, result, rfl, _⟩ := stepCall_cases step
      exact linked.code (stepCode_effect result) rfl (.inl rfl)
  | deliver callback =>
      simp only [machine, AudioFork.step] at step
      split at step
      · rename_i idle
        exact linked.deliver idle step
      · cases step
  | serve ok metadata => exact linked.serve step

theorem linked_of_reachable {config : Config} {s : State}
    (reachable : (machine config).Reachable s) : Linked s := by
  obtain ⟨labels, trace, run⟩ := reachable
  exact run.invariant Linked linked_fresh fun linked _ step => linked.step step

end DrachtioModules.AudioFork

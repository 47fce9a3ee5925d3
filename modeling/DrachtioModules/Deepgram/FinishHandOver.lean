import DrachtioModules.AudioFork.Connection
import DrachtioModules.Deepgram.Flush

/-!
# `finish()` and ESTABLISHED

A call of `finish()` that finds the pipe unconnected stores
`m_gracefulShutdown` and loads `m_state` again; ESTABLISHED stores CONNECTED and
then loads `m_gracefulShutdown`.  Whichever store comes second is seen by the
other side's load, so somebody completes the call; `m_finished.exchange` lets
one caller append CloseStream.
-/

namespace DrachtioModules.Deepgram

open AudioFork (Bytes LwsState Wsi Config ConnectCall FailStage Callback Outcome
  Stage Tied)

/-- The connection was open and is not any more. -/
def Gone (state : LwsState) : Prop :=
  state = .disconnecting ∨ state = .disconnected

instance (state : LwsState) : Decidable (Gone state) :=
  inferInstanceAs (Decidable (_ ∨ _))

/-- The handshake completed. -/
def Handshaken (state : LwsState) : Prop :=
  state = .connected ∨ Gone state

/-- The handshake may still complete. -/
def Early (state : LwsState) : Prop :=
  state = .idle ∨ state = .connecting

def Service.stage : Service → Option Stage
  | .establishedAdopt | .connectClient | .failing .store _ => some .joining
  | .closedGracefully | .closedDropped | .closedStore => some .leaving
  | .writeableText | .writeableState | .writeableAudio => some .writing
  | _ => none

def Linked.During (pipe : Pipe) : Stage → Prop
  | .joining => pipe.state = .connecting ∧ pipe.wsi ≠ .handshaking
  | .leaving => Handshaken pipe.state
  | .writing => pipe.wsi = .opened

structure Linked (s : State) : Prop extends Tied s.connectCall s.pipe.state
    s.pipe.wsi s.pipe.inPendingConnects where
  adopted : s.pipe.adopted = true → Handshaken s.pipe.state
  during : ∀ stage, s.service.stage = some stage → Linked.During s.pipe stage

/-- What one step does to `m_state`. -/
inductive Moved (s s' : State) : Prop where
  | still (state : s'.pipe.state = s.pipe.state)
  | dial (early : Early s.pipe.state) (connecting : s'.pipe.state = .connecting)
  | fail (early : Early s.pipe.state) (failed : s'.pipe.state = .failed)
  | complete (early : Early s.pipe.state)
      (connected : s'.pipe.state = .connected)
      (service : s'.service = .establishedFinish)
  | leave (handshaken : Handshaken s.pipe.state)
      (disconnected : s'.pipe.state = .disconnected)

theorem linked_fresh : Linked .fresh := by
  refine ⟨⟨?_, ?_, ?_⟩, ?_, ?_⟩ <;>
    simp [State.fresh, Pipe.fresh, Service.stage]

theorem not_handshaken_of_early {state : LwsState} (early : Early state) :
    ¬ Handshaken state := by
  intro handshaken
  rcases early with rfl | rfl <;> simp [Handshaken, Gone] at handshaken

theorem Linked.unadopted {s : State} (linked : Linked s)
    (early : Early s.pipe.state) : s.pipe.adopted ≠ true :=
  fun owned => not_handshaken_of_early early (linked.adopted owned)

/-- A step that leaves `m_state`, the pending list, the wsi and its owner
alone. -/
theorem Linked.still {s s' : State} (linked : Linked s)
    (state : s'.pipe.state = s.pipe.state) (wsi : s'.pipe.wsi = s.pipe.wsi)
    (pending : s'.pipe.inPendingConnects = s.pipe.inPendingConnects)
    (owner : s'.pipe.adopted = true → s.pipe.adopted = true)
    (call : s'.connectCall = .notCalled ∨ s'.connectCall = .entered →
      s.connectCall = .notCalled ∨ s.connectCall = .entered)
    (during : ∀ stage, s'.service.stage = some stage →
      Linked.During s.pipe stage) : Linked s' := by
  refine ⟨⟨?_, ?_, ?_⟩, ?_, ?_⟩
  · rw [state, pending]
    exact fun here => linked.unconnected (call here)
  · rw [state, wsi]
    exact linked.idle
  · rw [state, wsi]
    exact linked.handshaking
  · rw [state]
    exact fun here => linked.adopted (owner here)
  · intro stage here
    have before := during stage here
    cases stage <;> simpa only [Linked.During, state, wsi] using before

theorem Linked.departed {s s' : State} (linked : Linked s)
    (connectCall : s'.connectCall = s.connectCall)
    (before : s.pipe.state ≠ .idle) (after : s'.pipe.state ≠ .idle)
    (handshaking : s'.pipe.wsi = .handshaking → s'.pipe.state = .connecting)
    (adopted : s'.pipe.adopted = true → Handshaken s'.pipe.state)
    (during : ∀ stage, s'.service.stage = some stage →
      Linked.During s'.pipe stage) : Linked s' := by
  refine ⟨?_, adopted, during⟩
  rw [connectCall]
  exact linked.toTied.departed before after handshaking

/-- `m_state` and what lws knows of the pipe after a step of a member
function. -/
structure Untouched (pipe next : Pipe) : Prop where
  state : next.state = pipe.state
  wsi : next.wsi = pipe.wsi
  pending : next.inPendingConnects = pipe.inPendingConnects
  adopted : next.adopted = pipe.adopted

theorem stepCode_untouched {config : Config} {pipe next : Pipe} {code : Code}
    {rest : Option Code} {events : List Event}
    (step : stepCode config pipe code = some (next, rest, events)) :
    Untouched pipe next := by
  cases code with
  | finishCheck | finishRecheck | finishExchange | bufferCheck | frameCheck
  | frameLock | frameQueue =>
      simp only [stepCode] at step
      split at step <;> cases step <;> exact ⟨rfl, rfl, rfl, rfl⟩
  | finishRecord | bufferAppend | queueWrite | cancelService | frameRead
  | frameCancel | frameUnlock =>
      cases step
      exact ⟨rfl, rfl, rfl, rfl⟩

theorem setClosed_untouched (pipe : Pipe) :
    Untouched pipe (setClosed pipe).1 := by
  unfold setClosed
  split <;> exact ⟨rfl, rfl, rfl, rfl⟩

/-- The member function in progress on a thread, or with no thread given inside
ESTABLISHED. -/
def place (s : State) : Option Nat → Option Code
  | some thread => (s.calls thread).map Call.code
  | none =>
      match s.service with
      | .establishedFinishing code => some code
      | _ => none

/-- A step that is none of `finish()`'s own, nor the one that takes up a
recorded `finish()`. -/
structure Aside (s s' : State) (events : List Event) : Prop where
  linked : Linked s'
  moved : Moved s s'
  places : place s' = place s
  finished : s'.pipe.finished = s.pipe.finished
  graceful : s'.pipe.gracefulShutdown = s.pipe.gracefulShutdown
  waiting : s.service = .establishedFinish →
    s.pipe.gracefulShutdown = true → s'.service = .establishedFinish
  silent : ∀ event ∈ events,
    event ≠ .entered .finish ∧ event ≠ .appended closeStream

theorem place_same {s s' : State} (calls : s'.calls = s.calls)
    (inside : place s' none = place s none) : place s' = place s := by
  funext thread
  cases thread with
  | none => exact inside
  | some thread =>
      show (s'.calls thread).map Call.code = (s.calls thread).map Call.code
      rw [calls]

theorem setClosed_aside (pipe : Pipe) :
    (setClosed pipe).1.finished = pipe.finished ∧
      (setClosed pipe).1.gracefulShutdown = pipe.gracefulShutdown ∧
      ∀ event ∈ (setClosed pipe).2,
        event ≠ .entered .finish ∧ event ≠ .appended closeStream := by
  unfold setClosed
  split <;> simp

theorem stepConnect_aside {s s' : State} {ok : Bool} {events : List Event}
    (linked : Linked s) (step : stepConnect s ok = some (s', events)) :
    Aside s s' events := by
  unfold stepConnect at step
  cases call : s.connectCall with
  | returned => simp [call] at step
  | notCalled =>
      simp only [call] at step
      cases step
      exact ⟨linked.still rfl rfl rfl id (fun _ => .inl call) linked.during,
        .still rfl, rfl, rfl, rfl, fun here _ => here, by simp⟩
  | entered =>
      simp only [call] at step
      split at step
      · cases step
        refine ⟨⟨⟨by simp, linked.idle, linked.handshaking⟩, linked.adopted,
          linked.during⟩, .still rfl, rfl, rfl, rfl, fun here _ => here, by
          simp⟩
      · cases step
        obtain ⟨idle, _⟩ := linked.unconnected (.inr call)
        have absent := linked.idle idle
        refine ⟨⟨⟨by simp, by simp, by simp [absent]⟩, ?_, ?_⟩,
          .fail (.inl idle) rfl, rfl, rfl, rfl, fun here _ => here, by simp⟩
        · intro owned
          have handshaken := linked.adopted owned
          exact (not_handshaken_of_early (.inl idle) handshaken).elim
        · intro stage here
          have before := linked.during stage here
          cases stage with
          | joining => simp [Linked.During, idle] at before
          | leaving =>
              exact (not_handshaken_of_early (.inl idle) before).elim
          | writing => simp [Linked.During, absent] at before
  | notify | cancelService =>
      simp only [call] at step
      cases step
      exact ⟨linked.still rfl rfl rfl id (by simp) linked.during, .still rfl,
        rfl, rfl, rfl, fun here _ => here, by simp⟩
  | signal =>
      simp only [call] at step
      cases step
      obtain ⟨state, wsi, pending, adopted⟩ := setClosed_untouched s.pipe
      obtain ⟨finished, graceful, silent⟩ := setClosed_aside s.pipe
      exact ⟨linked.still state wsi pending (by simp [adopted]) (by simp)
        linked.during, .still state, rfl, finished, graceful,
        fun here _ => here, silent⟩

theorem deliver_aside {s s' : State} {callback : Callback}
    {events : List Event} (linked : Linked s) (idle : s.service = .idle)
    (step : deliver s callback = some (s', events)) : Aside s s' events := by
  have outside : place s none = none := by simp [place, idle]
  have waiting : s.service = .establishedFinish →
      s.pipe.gracefulShutdown = true → s'.service = .establishedFinish := by
    intro here
    rw [idle] at here
    cases here
  cases callback with
  | established | connectionError =>
      simp only [deliver] at step
      split at step
      · rename_i handshaking
        have connecting := linked.handshaking handshaking
        have unowned : s.pipe.adopted = false := by
          cases owned : s.pipe.adopted with
          | false => rfl
          | true =>
              have handshaken := linked.adopted owned
              exact (not_handshaken_of_early (.inr connecting) handshaken).elim
        split at step <;> cases step <;>
          refine ⟨linked.departed rfl ?_ ?_ ?_ ?_ ?_, .still rfl,
            place_same rfl (by simp [place, idle]), rfl, rfl, waiting, by simp⟩
            <;>
          simp [connecting, unowned, idle, Service.stage, Linked.During]
      · cases step
  | closed =>
      simp only [deliver] at step
      split at step
      · rename_i joined
        have departed : s.pipe.state ≠ .idle := by
          intro still
          rw [linked.idle still] at joined
          simp at joined
        split at step
        · rename_i owned
          cases step
          refine ⟨linked.departed rfl departed departed (by simp)
            linked.adopted ?_, .still rfl,
            place_same rfl (by simp [place, idle]), rfl, rfl, waiting, by simp⟩
          rintro stage ⟨⟩
          exact linked.adopted owned
        · cases step
          exact ⟨linked.departed rfl departed departed (by simp)
            linked.adopted (by simp [idle, Service.stage]), .still rfl,
            place_same rfl (by simp [place, idle]), rfl, rfl, waiting, by simp⟩
      · cases step
  | receive text =>
      simp only [deliver] at step
      split at step
      · split at step <;> cases step <;>
          exact ⟨linked, .still rfl, rfl, rfl, rfl, waiting, by simp⟩
      · cases step
  | writeable =>
      simp only [deliver] at step
      split at step
      · rename_i opened
        split at step <;> cases step <;>
          refine ⟨linked.still rfl rfl rfl id id ?_, .still rfl,
            place_same rfl (by simp [place, idle]), rfl, rfl, waiting, by simp⟩
            <;>
          simp [Service.stage, Linked.During, idle, opened]
      · cases step
  | eventWaitCancelled =>
      cases step
      exact ⟨linked.still rfl rfl rfl id id (by simp [Service.stage]),
        .still rfl, place_same rfl (by simp [place, idle]), rfl, rfl, waiting,
        by simp⟩

theorem Aside.of_still {s s' : State} {events : List Event}
    (linked : Linked s') (state : s'.pipe.state = s.pipe.state)
    (calls : s'.calls = s.calls) (inside : place s' none = place s none)
    (finished : s'.pipe.finished = s.pipe.finished)
    (graceful : s'.pipe.gracefulShutdown = s.pipe.gracefulShutdown)
    (outside : s.service ≠ .establishedFinish)
    (silent : ∀ event ∈ events,
      event ≠ .entered .finish ∧ event ≠ .appended closeStream) :
    Aside s s' events :=
  ⟨linked, .still state, place_same calls inside, finished, graceful,
    fun here => (outside here).elim, silent⟩

theorem Linked.pass {s : State} {pipe : Pipe} {service : Service}
    {events : List Event} (linked : Linked s)
    (untouched : Untouched s.pipe pipe)
    (finished : pipe.finished = s.pipe.finished)
    (graceful : pipe.gracefulShutdown = s.pipe.gracefulShutdown)
    (during : ∀ stage, service.stage = some stage →
      Linked.During s.pipe stage)
    (inside : place { s with pipe := pipe, service := service } none =
      place s none)
    (outside : s.service ≠ .establishedFinish)
    (silent : ∀ event ∈ events,
      event ≠ .entered .finish ∧ event ≠ .appended closeStream) :
    Aside s { s with pipe := pipe, service := service } events := by
  obtain ⟨state, wsi, pending, adopted⟩ := untouched
  exact .of_still
    (linked.still state wsi pending (by simp [adopted]) id during) state rfl
    inside finished graceful outside silent

theorem Linked.endWriteable {s : State} {pipe : Pipe} {events : List Event}
    {outcome : Outcome} (linked : Linked s) (opened : s.pipe.wsi = .opened)
    (state : pipe.state = s.pipe.state) (wsi : pipe.wsi = s.pipe.wsi)
    (pending : pipe.inPendingConnects = s.pipe.inPendingConnects)
    (adopted : pipe.adopted = s.pipe.adopted) :
    Linked (endWriteable s pipe events outcome).1 := by
  have departed : s.pipe.state ≠ .idle := by
    intro idle
    rw [linked.idle idle] at opened
    cases opened
  dsimp only [Deepgram.endWriteable]
  split
  · exact linked.still state wsi pending (by simp [adopted]) id
      (by simp [Service.stage])
  · refine linked.departed rfl departed ?_ ?_ ?_ ?_
    · simpa [state] using departed
    · simp
    · simpa [state, adopted] using linked.adopted
    · simp [Service.stage]

theorem endWriteable_aside {s : State} {pipe : Pipe} {events : List Event}
    {outcome : Outcome} (linked : Linked s)
    (writing : s.service.stage = some .writing)
    (state : pipe.state = s.pipe.state) (wsi : pipe.wsi = s.pipe.wsi)
    (pending : pipe.inPendingConnects = s.pipe.inPendingConnects)
    (adopted : pipe.adopted = s.pipe.adopted)
    (finished : pipe.finished = s.pipe.finished)
    (graceful : pipe.gracefulShutdown = s.pipe.gracefulShutdown)
    (silent : ∀ event ∈ events,
      event ≠ .entered .finish ∧ event ≠ .appended closeStream) :
    Aside s (endWriteable s pipe events outcome).1
      (endWriteable s pipe events outcome).2 := by
  have moved : Linked (endWriteable s pipe events outcome).1 :=
    linked.endWriteable (linked.during .writing writing) state wsi pending
      adopted
  refine .of_still moved ?_ rfl ?_ ?_ ?_ ?_ ?_
  · dsimp only [endWriteable]
    split <;> exact state
  · cases here : s.service <;>
      simp_all [endWriteable, place, Service.stage]
  · dsimp only [endWriteable]
    split <;> exact finished
  · dsimp only [endWriteable]
    split <;> exact graceful
  · intro here
    rw [here] at writing
    cases writing
  · intro event member
    rcases List.mem_append.mp member with before | returned
    · exact silent event before
    · rw [List.mem_singleton.mp returned]
      simp

/-- A step of the service thread other than those ESTABLISHED spends on
`finish()`. -/
theorem serve_aside {config : Config} {s s' : State} {ok : Bool}
    {events : List Event} (linked : Linked s)
    (step : serve config s ok = some (s', events))
    (waits : s.service = .establishedFinish → s.pipe.gracefulShutdown = false)
    (other : ∀ code, s.service ≠ .establishedFinishing code) :
    Aside s s' events := by
  have during := linked.during
  unfold serve at step
  cases service : s.service with
  | idle => simp [service] at step
  | establishedFinishing code => exact (other code service).elim
  | establishedAdopt =>
      simp only [service] at step during
      cases step
      obtain ⟨connecting, known⟩ := during .joining rfl
      refine ⟨linked.departed rfl ?_ ?_ ?_ ?_ ?_, .complete (.inr connecting)
        rfl rfl, place_same rfl (by simp [place, service]), rfl, rfl,
        fun _ _ => rfl, by simp⟩ <;>
        simp [connecting, known, Handshaken, Gone, Service.stage]
  | establishedFinish =>
      simp only [service, waits service] at step
      cases step
      refine ⟨linked.still rfl rfl rfl id id (by simp [Service.stage]),
        .still rfl, place_same rfl (by simp [place, service]), rfl, rfl, ?_,
        by simp⟩
      intro _ graceful
      rw [waits service] at graceful
      cases graceful
  | establishedNotify | writeWritable =>
      simp only [service] at step
      cases step
      exact linked.pass ⟨rfl, rfl, rfl, rfl⟩ rfl rfl (by simp [Service.stage])
        (by simp [place, service]) (by simp [service]) (by simp)
  | pendingConnects =>
      simp only [service] at step
      split at step
      · rename_i found
        obtain ⟨pending, idle⟩ := found
        cases step
        have late :
            ¬ (s.connectCall = .notCalled ∨ s.connectCall = .entered) := by
          intro call
          rw [(linked.unconnected call).2] at pending
          cases pending
        have unowned := linked.unadopted (.inl idle)
        have absent := linked.idle idle
        refine ⟨⟨⟨fun call => (late call).elim, by simp, by simp [absent]⟩, ?_,
          ?_⟩, .dial (.inl idle) rfl,
          place_same rfl (by simp [place, service]), rfl, rfl, ?_, by simp⟩
        · intro owned
          exact (unowned owned).elim
        · simp [Service.stage, Linked.During, absent]
        · simp [service]
      · cases step
        exact linked.pass ⟨rfl, rfl, rfl, rfl⟩ rfl rfl (by simp [Service.stage])
          (by simp [place, service]) (by simp [service]) (by simp)
  | connectClient =>
      simp only [service] at step during
      obtain ⟨connecting, known⟩ := during .joining rfl
      have unowned := linked.unadopted (.inr connecting)
      split at step <;> cases step <;>
        refine ⟨linked.departed rfl ?_ ?_ ?_ ?_ ?_,
          .dial (.inr connecting) rfl, place_same rfl (by simp [place, service]),
          rfl, rfl, by simp [service], by simp⟩ <;>
        simp [connecting, known, unowned, Service.stage, Linked.During]
  | failing stage inPass =>
      cases stage with
      | store =>
          simp only [service] at step during
          cases step
          obtain ⟨connecting, known⟩ := during .joining rfl
          have unowned := linked.unadopted (.inr connecting)
          refine ⟨linked.departed rfl ?_ ?_ ?_ ?_ ?_,
            .fail (.inr connecting) rfl,
            place_same rfl (by simp [place, service]), rfl, rfl,
            by simp [service], by simp⟩ <;>
            simp [connecting, known, unowned, Service.stage]
      | notify =>
          simp only [service] at step
          cases step
          exact linked.pass ⟨rfl, rfl, rfl, rfl⟩ rfl rfl
            (by simp [Service.stage]) (by simp [place, service])
            (by simp [service]) (by simp)
      | signal =>
          simp only [service] at step
          cases step
          obtain ⟨finished, graceful, silent⟩ := setClosed_aside s.pipe
          refine linked.pass (setClosed_untouched s.pipe) finished graceful ?_
            ?_ (by simp [service]) silent
          · cases inPass <;> simp [Service.stage]
          · cases inPass <;> simp [place, service]
  | pendingWrites =>
      simp only [service] at step
      split at step
      · split at step <;> cases step <;>
          exact linked.pass ⟨rfl, rfl, rfl, rfl⟩ rfl rfl
            (by simp [Service.stage]) (by simp [place, service])
            (by simp [service]) (by simp)
      · cases step
        exact linked.pass ⟨rfl, rfl, rfl, rfl⟩ rfl rfl (by simp [Service.stage])
          (by simp [place, service]) (by simp [service]) (by simp)
  | closedGracefully | closedDropped =>
      simp only [service] at step during
      have leaving := during .leaving rfl
      split at step <;> cases step <;>
        exact linked.pass ⟨rfl, rfl, rfl, rfl⟩ rfl rfl
          (by simpa [Service.stage] using leaving) (by simp [place, service])
          (by simp [service]) (by simp)
  | closedStore =>
      simp only [service] at step during
      cases step
      have leaving : Handshaken s.pipe.state := during .leaving rfl
      have departed : s.pipe.state ≠ .idle := by
        intro idle
        exact not_handshaken_of_early (.inl idle) leaving
      refine ⟨linked.departed rfl departed ?_ ?_ ?_ ?_, .leave leaving rfl,
        place_same rfl (by simp [place, service]), rfl, rfl, by simp [service],
        by simp⟩
      · simp
      · intro handshaking
        have connecting := linked.handshaking handshaking
        exact (not_handshaken_of_early (.inr connecting) leaving).elim
      · simp [Handshaken, Gone]
      · simp [Service.stage]
  | closedSignal =>
      simp only [service] at step
      cases step
      obtain ⟨finished, graceful, silent⟩ := setClosed_aside s.pipe
      obtain ⟨state, wsi, pending, _⟩ := setClosed_untouched s.pipe
      exact .of_still
        (linked.still state wsi pending (by simp) id (by simp [Service.stage]))
        state rfl (by simp [place, service]) finished graceful
        (by simp [service]) silent
  | writeableText =>
      have writing : s.service.stage = some .writing := by rw [service]; rfl
      simp only [service] at step
      split at step
      · cases step
        exact linked.pass ⟨rfl, rfl, rfl, rfl⟩ rfl rfl
          (by simpa [Service.stage] using linked.during .writing writing)
          (by simp [place, service]) (by simp [service]) (by simp)
      · split at step <;> cases step <;>
          exact endWriteable_aside linked writing rfl rfl rfl rfl rfl rfl
            (by simp)
  | writeableState =>
      have writing : s.service.stage = some .writing := by rw [service]; rfl
      simp only [service] at step
      split at step <;> cases step
      · exact endWriteable_aside linked writing rfl rfl rfl rfl rfl rfl
          (by simp)
      · exact linked.pass ⟨rfl, rfl, rfl, rfl⟩ rfl rfl
          (by simpa [Service.stage] using linked.during .writing writing)
          (by simp [place, service]) (by simp [service]) (by simp)
  | writeableAudio =>
      have writing : s.service.stage = some .writing := by rw [service]; rfl
      simp only [service] at step
      split at step
      · cases step
      · split at step
        · cases step
          exact endWriteable_aside linked writing rfl rfl rfl rfl rfl rfl
            (by simp)
        · split at step <;> cases step <;>
            exact endWriteable_aside linked writing rfl rfl rfl rfl rfl rfl
              (by simp)

/-- A caller of `finish()` that has neither appended CloseStream nor left it to
another caller. -/
def Code.asks : Code → Bool
  | .finishCheck | .finishRecord | .finishRecheck | .finishExchange
  | .bufferCheck | .bufferAppend => true
  | _ => false

/-- The caller that `m_finished.exchange` let through. -/
def Code.won : Code → Bool
  | .bufferCheck | .bufferAppend => true
  | _ => false

/-- A caller that has loaded CONNECTED. -/
def Code.found : Code → Bool
  | .finishExchange | .bufferCheck | .bufferAppend => true
  | _ => false

theorem won_asks {code : Code} (won : code.won = true) : code.asks = true := by
  cases code <;> first | rfl | cases won

theorem found_asks {code : Code} (found : code.found = true) :
    code.asks = true := by
  cases code <;> first | rfl | cases found

/-- What a step of a member function does to what `finish()` reads and writes;
the last index counts the appends of CloseStream. -/
inductive Progress (pipe next : Pipe) : Code → Option Code → Nat → Prop where
  | checkFound (connected : pipe.state = .connected)
      (finished : next.finished = pipe.finished)
      (graceful : next.gracefulShutdown = pipe.gracefulShutdown) :
      Progress pipe next .finishCheck (some .finishExchange) 0
  | checkMissed (finished : next.finished = pipe.finished)
      (graceful : next.gracefulShutdown = pipe.gracefulShutdown) :
      Progress pipe next .finishCheck (some .finishRecord) 0
  | record (finished : next.finished = pipe.finished)
      (graceful : next.gracefulShutdown = true) :
      Progress pipe next .finishRecord (some .finishRecheck) 0
  | recheckFound (connected : pipe.state = .connected)
      (finished : next.finished = pipe.finished)
      (graceful : next.gracefulShutdown = pipe.gracefulShutdown) :
      Progress pipe next .finishRecheck (some .finishExchange) 0
  | recheckMissed (missed : pipe.state ≠ .connected)
      (finished : next.finished = pipe.finished)
      (graceful : next.gracefulShutdown = pipe.gracefulShutdown) :
      Progress pipe next .finishRecheck none 0
  | pass (first : pipe.finished = false) (finished : next.finished = true)
      (graceful : next.gracefulShutdown = pipe.gracefulShutdown) :
      Progress pipe next .finishExchange (some .bufferCheck) 0
  | leave (late : pipe.finished = true)
      (finished : next.finished = pipe.finished)
      (graceful : next.gracefulShutdown = pipe.gracefulShutdown) :
      Progress pipe next .finishExchange none 0
  | buffer (finished : next.finished = pipe.finished)
      (graceful : next.gracefulShutdown = pipe.gracefulShutdown) :
      Progress pipe next .bufferCheck (some .bufferAppend) 0
  | drop (missed : pipe.state ≠ .connected)
      (finished : next.finished = pipe.finished)
      (graceful : next.gracefulShutdown = pipe.gracefulShutdown) :
      Progress pipe next .bufferCheck none 0
  | append (finished : next.finished = pipe.finished)
      (graceful : next.gracefulShutdown = pipe.gracefulShutdown) :
      Progress pipe next .bufferAppend (some .queueWrite) 1
  | other {code : Code} {rest : Option Code} (done : code.asks = false)
      (after : ∀ code', rest = some code' → code'.asks = false)
      (finished : next.finished = pipe.finished)
      (graceful : next.gracefulShutdown = pipe.gracefulShutdown) :
      Progress pipe next code rest 0

theorem stepCode_progress {config : Config} {pipe next : Pipe} {code : Code}
    {rest : Option Code} {events : List Event}
    (step : stepCode config pipe code = some (next, rest, events)) :
    Progress pipe next code rest (events.count (.appended closeStream)) := by
  cases code with
  | finishCheck =>
      simp only [stepCode] at step
      split at step
      · rename_i connected
        cases step
        exact .checkFound connected rfl rfl
      · cases step
        exact .checkMissed rfl rfl
  | finishRecord =>
      cases step
      exact .record rfl rfl
  | finishRecheck =>
      simp only [stepCode] at step
      split at step
      · rename_i connected
        cases step
        exact .recheckFound connected rfl rfl
      · rename_i missed
        cases step
        exact .recheckMissed missed rfl rfl
  | finishExchange =>
      simp only [stepCode] at step
      split at step
      · rename_i late
        cases step
        exact .leave late rfl rfl
      · rename_i first
        cases step
        exact .pass (by simpa using first) rfl rfl
  | bufferCheck =>
      simp only [stepCode] at step
      split at step
      · cases step
        exact .buffer rfl rfl
      · rename_i missed
        cases step
        exact .drop missed rfl rfl
  | bufferAppend =>
      cases step
      rw [List.count_singleton_self]
      exact .append rfl rfl
  | frameCheck | frameLock | frameQueue =>
      simp only [stepCode] at step
      split at step <;> cases step <;> exact .other rfl (by simp [Code.asks]) rfl rfl
  | frameRead =>
      cases step
      exact .other rfl (by simp [Code.asks]) rfl rfl
  | queueWrite | cancelService | frameCancel | frameUnlock =>
      cases step
      exact .other rfl (by simp [Code.asks]) rfl rfl

/-- Where the member function runs that a label advances. -/
def Act.runner : Act → Option (Option Nat)
  | .advance thread => some (some thread)
  | .serve _ => some none
  | _ => none

/-- What a step does to the calls of `finish()`. -/
inductive Taken (s s' : State) (label : Act) : List Event → Prop where
  | aside {events : List Event} (aside : Aside s s' events) :
      Taken s s' label events
  | enter {thread : Nat} {op : Op} (labelled : label = .enter thread op)
      (pipe : s'.pipe = s.pipe)
      (service : s'.service = s.service)
      (vacant : place s (some thread) = none)
      (places : place s' =
        Function.update (place s) (some thread) (some op.entry)) :
      Taken s s' label [.entered op]
  -- ESTABLISHED finds `m_gracefulShutdown` set
  | takeUp (pipe : s'.pipe = s.pipe) (vacant : place s none = none)
      (places : place s' =
        Function.update (place s) none (some .finishCheck)) :
      Taken s s' label []
  | code {runner : Option Nat} {code : Code} {rest : Option Code}
      {events : List Event} (label_runner : label.runner = some runner)
      (running : place s runner = some code)
      (progress : Progress s.pipe s'.pipe code rest
        (events.count (.appended closeStream)))
      (untouched : Untouched s.pipe s'.pipe)
      (waiting : s.service = .establishedFinish →
        s'.service = .establishedFinish)
      (places : place s' = Function.update (place s) runner rest)
      (uncalled : .entered .finish ∉ events) : Taken s s' label events

theorem place_update (s : State) (thread : Nat) (call : Option Call)
    (pipe : Pipe) :
    place { s with
        pipe := pipe
        calls := Function.update s.calls thread call } =
      Function.update (place s) (some thread) (call.map Call.code) := by
  funext other
  cases other with
  | none => rfl
  | some other =>
      by_cases same : other = thread
      · subst same
        simp [place]
      · have different : some other ≠ some thread := by simpa using same
        rw [Function.update_of_ne different]
        simp [place, Function.update_of_ne same]

theorem place_inside {s : State} {service : Service} {pipe : Pipe}
    {inside : Option Code}
    (here : place { s with pipe := pipe, service := service } none = inside) :
    place { s with pipe := pipe, service := service } =
      Function.update (place s) none inside := by
  funext other
  cases other with
  | none => simpa using here
  | some other => rfl

theorem stepCode_uncalled {config : Config} {pipe next : Pipe} {code : Code}
    {rest : Option Code} {events : List Event}
    (step : stepCode config pipe code = some (next, rest, events)) :
    .entered .finish ∉ events := by
  cases code with
  | finishCheck | finishRecheck | finishExchange | bufferCheck | frameCheck
  | frameLock | frameQueue =>
      simp only [stepCode] at step
      split at step <;> cases step <;> exact List.not_mem_nil
  | bufferAppend | frameRead =>
      cases step
      simp
  | finishRecord | queueWrite | cancelService | frameCancel | frameUnlock =>
      cases step
      exact List.not_mem_nil

theorem Linked.code {s s' : State} (linked : Linked s)
    (untouched : Untouched s.pipe s'.pipe)
    (connectCall : s'.connectCall = s.connectCall)
    (service : s'.service = s.service ∨ s'.service.stage = none) :
    Linked s' := by
  refine linked.still untouched.state untouched.wsi untouched.pending ?_ ?_ ?_
  · rw [untouched.adopted]
    exact id
  · rw [connectCall]
    exact id
  · intro stage here
    rcases service with same | none
    · exact linked.during stage (same ▸ here)
    · rw [none] at here
      cases here

theorem serve_taken {config : Config} {s s' : State} {ok : Bool}
    {events : List Event} (linked : Linked s)
    (step : serve config s ok = some (s', events)) :
    Linked s' ∧ Taken s s' (.serve ok) events := by
  by_cases finishing : ∃ code, s.service = .establishedFinishing code
  · obtain ⟨code, service⟩ := finishing
    have running : place s none = some code := by simp [place, service]
    simp only [serve, service] at step
    cases result : stepCode config s.pipe code with
    | none => simp [result] at step
    | some outcome =>
        obtain ⟨pipe, rest, emitted⟩ := outcome
        cases rest with
        | none =>
            simp only [result] at step
            cases step
            refine ⟨linked.code (stepCode_untouched result) rfl (.inr rfl),
              .code rfl running (stepCode_progress result)
                (stepCode_untouched result) ?_ (place_inside rfl)
                (stepCode_uncalled result)⟩
            simp [service]
        | some next =>
            simp only [result] at step
            cases step
            refine ⟨linked.code (stepCode_untouched result) rfl (.inr rfl),
              .code rfl running (stepCode_progress result)
                (stepCode_untouched result) ?_ (place_inside rfl)
                (stepCode_uncalled result)⟩
            simp [service]
  · have other : ∀ code, s.service ≠ .establishedFinishing code :=
      fun code service => finishing ⟨code, service⟩
    by_cases recorded : s.service = .establishedFinish ∧
        s.pipe.gracefulShutdown = true
    · obtain ⟨service, graceful⟩ := recorded
      simp only [serve, service, graceful] at step
      cases step
      exact ⟨linked.still rfl rfl rfl id id (by simp [Service.stage]),
        .takeUp rfl (by simp [place, service]) (place_inside rfl)⟩
    · have aside := serve_aside linked step (by simpa using recorded) other
      exact ⟨aside.linked, .aside aside⟩

theorem step_taken {config : Config} {s s' : State} {label : Act}
    {events : List Event} (linked : Linked s)
    (step : (machine config).step s label = some (s', events)) :
    Linked s' ∧ Taken s s' label events := by
  cases label with
  | connect ok =>
      have aside := stepConnect_aside linked step
      exact ⟨aside.linked, .aside aside⟩
  | enter thread op =>
      simp only [machine, Deepgram.step] at step
      split at step
      · rename_i vacant
        cases step
        refine ⟨linked.still rfl rfl rfl id id linked.during, ?_⟩
        exact .enter rfl rfl rfl (by simp [place, vacant]) (place_update ..)
      · cases step
  | advance thread =>
      obtain ⟨call, pipe, rest, emitted, running, result, rfl, rfl⟩ :=
        stepCall_cases step
      have runs : place s (some thread) = some call.code := by
        simp [place, running]
      refine ⟨linked.code (stepCode_untouched result) rfl (.inl rfl), ?_⟩
      have progress : Progress s.pipe pipe call.code rest
          ((emitted ++ rest.elim [Event.returned call.op] fun _ => []).count
            (.appended closeStream)) := by
        rw [List.count_append]
        cases rest <;> simpa using stepCode_progress result
      refine .code rfl runs progress (stepCode_untouched result) id ?_ ?_
      · rw [place_update]
        cases rest <;> rfl
      · intro member
        rcases List.mem_append.mp member with before | returned
        · exact stepCode_uncalled result before
        · cases rest <;> simp at returned
  | deliver callback =>
      simp only [machine, Deepgram.step] at step
      split at step
      · rename_i idle
        have aside := deliver_aside linked idle step
        exact ⟨aside.linked, .aside aside⟩
      · cases step
  | serve ok => exact serve_taken linked step

/-- The call in progress at `runner`, if any, is at a code of the given kind. -/
def Stands (kind : Code → Bool) (s : State) (runner : Option Nat) : Prop :=
  ∃ code, place s runner = some code ∧ kind code = true

/-- How often CloseStream was appended. -/
def appends (trace : List Event) : Nat :=
  trace.count (.appended closeStream)

theorem appends_append (trace events : List Event) :
    appends (trace ++ events) = appends trace + appends events :=
  List.count_append

theorem Stands.updated {kind : Code → Bool} {s s' : State}
    {runner other : Option Nat} {rest : Option Code}
    (stands : Stands kind s' other)
    (places : place s' = Function.update (place s) runner rest) :
    (other = runner ∧ ∃ code, rest = some code ∧ kind code = true) ∨
      (other ≠ runner ∧ Stands kind s other) := by
  obtain ⟨code, here, holds⟩ := stands
  rw [places] at here
  rcases updated_entry here with ⟨same, now⟩ | ⟨different, before⟩
  · exact .inl ⟨same, code, now, holds⟩
  · exact .inr ⟨different, code, before, holds⟩

theorem Stands.update {kind : Code → Bool} {s s' : State}
    {runner other : Option Nat} {rest : Option Code}
    (stands : Stands kind s other)
    (places : place s' = Function.update (place s) runner rest)
    (different : other ≠ runner) : Stands kind s' other := by
  obtain ⟨code, here, holds⟩ := stands
  refine ⟨code, ?_, holds⟩
  rw [places, Function.update_of_ne different]
  exact here

theorem stands_runner {kind : Code → Bool} {s s' : State}
    {runner : Option Nat} {code : Code}
    (places : place s' = Function.update (place s) runner (some code))
    (holds : kind code = true) : Stands kind s' runner := by
  refine ⟨code, ?_, holds⟩
  rw [places, Function.update_self]

structure Once (trace : List Event) (s : State) : Prop where
  unfinished : s.pipe.finished = false →
    appends trace = 0 ∧ ∀ runner, ¬ Stands Code.won s runner
  alone : ∀ runner other, Stands Code.won s runner →
    Stands Code.won s other → runner = other
  unspent : ∀ runner, Stands Code.won s runner → appends trace = 0
  once : appends trace ≤ 1

theorem once_fresh : Once [] .fresh := by
  have nobody : ∀ runner, ¬ Stands Code.won .fresh runner := by
    rintro runner ⟨code, here, _⟩
    cases runner <;> cases here
  exact ⟨fun _ => ⟨rfl, nobody⟩, fun runner _ won => (nobody runner won).elim,
    fun runner won => (nobody runner won).elim, Nat.zero_le _⟩

theorem Once.still {trace events : List Event} {s s' : State}
    (once : Once trace s) (finished : s'.pipe.finished = s.pipe.finished)
    (kept : ∀ runner, Stands Code.won s' runner → Stands Code.won s runner)
    (silent : appends events = 0) : Once (trace ++ events) s' := by
  have same : appends (trace ++ events) = appends trace := by
    rw [appends_append, silent, Nat.add_zero]
  refine ⟨?_, ?_, ?_, ?_⟩
  · rw [finished, same]
    intro unfinished
    obtain ⟨none, nobody⟩ := once.unfinished unfinished
    exact ⟨none, fun runner won => nobody runner (kept runner won)⟩
  · intro runner other won won'
    exact once.alone runner other (kept runner won) (kept other won')
  · intro runner won
    rw [same]
    exact once.unspent runner (kept runner won)
  · rw [same]
    exact once.once

theorem Once.pass {trace events : List Event} {s s' : State}
    {runner : Option Nat} (once : Once trace s)
    (first : s.pipe.finished = false) (finished : s'.pipe.finished = true)
    (places : place s' = Function.update (place s) runner (some .bufferCheck))
    (silent : appends events = 0) : Once (trace ++ events) s' := by
  obtain ⟨none, nobody⟩ := once.unfinished first
  have only : ∀ other, Stands Code.won s' other → other = runner := by
    intro other won
    rcases won.updated places with ⟨same, _⟩ | ⟨_, before⟩
    · exact same
    · exact (nobody other before).elim
  have zero : appends (trace ++ events) = 0 := by
    rw [appends_append, none, silent]
  refine ⟨by simp [finished], ?_, fun _ _ => zero, by simp [zero]⟩
  intro other other' won won'
  rw [only other won, only other' won']

/-- The caller that passed the exchange appends. -/
theorem Once.append {trace events : List Event} {s s' : State}
    {runner : Option Nat} (once : Once trace s)
    (running : place s runner = some .bufferAppend)
    (finished : s'.pipe.finished = s.pipe.finished)
    (places : place s' =
      Function.update (place s) runner (some .queueWrite))
    (single : appends events = 1) : Once (trace ++ events) s' := by
  have won : Stands Code.won s runner := ⟨_, running, rfl⟩
  have first : appends (trace ++ events) = 1 := by
    rw [appends_append, once.unspent runner won, single]
  have nobody : ∀ other, ¬ Stands Code.won s' other := by
    intro other won'
    rcases won'.updated places with ⟨_, code, same, holds⟩ | ⟨different, before⟩
    · cases same
      cases holds
    · exact different (once.alone other runner before won)
  refine ⟨?_, fun other _ won' => (nobody other won').elim,
    fun other won' => (nobody other won').elim, Nat.le_of_eq first⟩
  rw [finished]
  intro unfinished
  exact ((once.unfinished unfinished).2 runner won).elim

theorem Once.step {trace events : List Event} {s s' : State} {label : Act}
    (once : Once trace s) (taken : Taken s s' label events) :
    Once (trace ++ events) s' := by
  cases taken with
  | aside aside =>
      refine once.still aside.finished ?_ ?_
      · rintro runner ⟨code, here, won⟩
        exact ⟨code, by rw [← aside.places, here], won⟩
      · apply List.count_eq_zero_of_not_mem
        intro member
        exact (aside.silent _ member).2 rfl
  | @enter thread op _ pipe _ _ places =>
      refine once.still (by rw [pipe]) ?_ (by simp [appends])
      intro runner won
      rcases won.updated places with ⟨_, code, same, holds⟩ | ⟨_, before⟩
      · cases same
        cases op <;> cases holds
      · exact before
  | takeUp pipe _ places =>
      refine once.still (by rw [pipe]) ?_ rfl
      intro runner won
      rcases won.updated places with ⟨_, code, same, holds⟩ | ⟨_, before⟩
      · cases same
        cases holds
      · exact before
  | @code runner code rest events _ running progress _ _ places _ =>
      have stays : ∀ codes : Option Code, rest = codes →
          (∀ code', codes = some code' → code'.won = true →
            code.won = true) →
          ∀ other, Stands Code.won s' other → Stands Code.won s other := by
        rintro codes rfl winners other won
        rcases won.updated places with
          ⟨rfl, code', same, holds⟩ | ⟨_, before⟩
        · exact ⟨code, running, winners code' same holds⟩
        · exact before
      generalize counted : events.count (.appended closeStream) = count
        at progress
      cases progress with
      | pass first finished =>
          exact once.pass first finished places counted
      | append finished =>
          exact once.append running finished places counted
      | buffer finished | drop _ finished | leave _ finished
      | checkFound _ finished | checkMissed finished | record finished
      | recheckFound _ finished | recheckMissed _ finished =>
          exact once.still finished (stays _ rfl (by simp [Code.won])) counted
      | other _ after finished =>
          refine once.still finished (stays _ rfl ?_) counted
          intro code' next won
          have asking := won_asks won
          rw [after code' next] at asking
          cases asking

/-- The pipe was lost before its pending `finish()` was examined; `lossless`
says that no examination came too late. -/
def Lost (lossless : Bool) (s : State) : Prop :=
  s.pipe.state = .failed ∨ (lossless = false ∧ Gone s.pipe.state)

/-- ESTABLISHED will find the recorded `finish()`. -/
def Recorded (s : State) : Prop :=
  s.pipe.gracefulShutdown = true ∧
    (Early s.pipe.state ∨ s.service = .establishedFinish)

/-- Somebody appends what `m_finished` announces. -/
def Backed (lossless : Bool) (trace : List Event) (s : State) : Prop :=
  (∃ runner, Stands Code.won s runner) ∨ appends trace = 1 ∨ Lost lossless s

/-- Somebody completes a call of `finish()`. -/
def Answered (lossless : Bool) (trace : List Event) (s : State) : Prop :=
  (∃ runner, Stands Code.asks s runner) ∨ appends trace = 1 ∨ Recorded s ∨
    Lost lossless s

structure Held (lossless : Bool) (trace : List Event) (s : State) : Prop where
  recheck : ∀ runner, place s runner = some .finishRecheck →
    s.pipe.gracefulShutdown = true
  found : ∀ runner, Stands Code.found s runner → ¬ Early s.pipe.state
  finished : s.pipe.finished = true → ¬ Early s.pipe.state
  backed : s.pipe.finished = true → Backed lossless trace s
  answered : .entered .finish ∈ trace → Answered lossless trace s

theorem held_fresh (lossless : Bool) : Held lossless [] .fresh := by
  refine ⟨?_, ?_, (by rintro ⟨⟩), (by rintro ⟨⟩), by simp⟩
  · intro runner here
    cases runner <;> cases here
  · rintro runner ⟨code, here, _⟩
    cases runner <;> cases here

theorem Moved.not_early {s s' : State} (moved : Moved s s')
    (late : ¬ Early s.pipe.state) : ¬ Early s'.pipe.state := by
  cases moved with
  | still state =>
      rw [state]
      exact late
  | dial early | fail early | complete early => exact (late early).elim
  | leave _ disconnected => simp [Early, disconnected]

theorem Moved.lost {lossless : Bool} {s s' : State} (moved : Moved s s')
    (lost : Lost lossless s) : Lost lossless s' := by
  cases moved with
  | still state => simpa only [Lost, state] using lost
  | dial early | fail early | complete early =>
      rcases lost with failed | ⟨_, gone⟩
      · simp [Early, failed] at early
      · exact (not_handshaken_of_early early (.inr gone)).elim
  | leave handshaken disconnected =>
      rcases lost with failed | ⟨lossy, _⟩
      · simp [Handshaken, Gone, failed] at handshaken
      · exact .inr ⟨lossy, .inr disconnected⟩

theorem Aside.recorded {lossless : Bool} {s s' : State} {events : List Event}
    (aside : Aside s s' events) (recorded : Recorded s) :
    Recorded s' ∨ Lost lossless s' := by
  obtain ⟨graceful, early | service⟩ := recorded
  · rw [← aside.graceful] at graceful
    cases aside.moved with
    | still state => exact .inl ⟨graceful, .inl (by rwa [state])⟩
    | dial _ connecting => exact .inl ⟨graceful, .inl (.inr connecting)⟩
    | fail _ failed => exact .inr (.inl failed)
    | complete _ _ service => exact .inl ⟨graceful, .inr service⟩
    | leave handshaken =>
        exact (not_handshaken_of_early early handshaken).elim
  · have stays := aside.waiting service graceful
    rw [← aside.graceful] at graceful
    exact .inl ⟨graceful, .inr stays⟩

theorem appends_kept {trace events : List Event} {s : State}
    (once : Once (trace ++ events) s) (first : appends trace = 1) :
    appends (trace ++ events) = 1 := by
  have bound := once.once
  rw [appends_append] at bound ⊢
  omega

theorem Backed.answered {lossless : Bool} {trace : List Event} {s : State}
    (backed : Backed lossless trace s) : Answered lossless trace s := by
  rcases backed with ⟨runner, code, here, won⟩ | first | lost
  · exact .inl ⟨runner, code, here, won_asks won⟩
  · exact .inr (.inl first)
  · exact .inr (.inr (.inr lost))

theorem Held.aside {lossless : Bool} {trace events : List Event} {s s' : State}
    (held : Held lossless trace s) (once : Once (trace ++ events) s')
    (aside : Aside s s' events) : Held lossless (trace ++ events) s' := by
  have stands : ∀ kind runner, Stands kind s' runner ↔ Stands kind s runner := by
    intro kind runner
    rw [Stands, Stands, aside.places]
  refine ⟨?_, ?_, ?_, ?_, ?_⟩
  · rw [aside.places, aside.graceful]
    exact held.recheck
  · intro runner found
    exact aside.moved.not_early (held.found runner ((stands _ _).mp found))
  · rw [aside.finished]
    intro finished
    exact aside.moved.not_early (held.finished finished)
  · rw [aside.finished]
    intro finished
    rcases held.backed finished with ⟨runner, won⟩ | first | lost
    · exact .inl ⟨runner, (stands _ _).mpr won⟩
    · exact .inr (.inl (appends_kept once first))
    · exact .inr (.inr (aside.moved.lost lost))
  · intro member
    have called : .entered .finish ∈ trace := by
      rcases List.mem_append.mp member with before | now
      · exact before
      · exact ((aside.silent _ now).1 rfl).elim
    rcases held.answered called with ⟨runner, asks⟩ | first | recorded | lost
    · exact .inl ⟨runner, (stands _ _).mpr asks⟩
    · exact .inr (.inl (appends_kept once first))
    · exact .inr (.inr (aside.recorded recorded))
    · exact .inr (.inr (.inr (aside.moved.lost lost)))

/-- A step of the call at `runner`, after which it stands at `rest`.  The last
two hypotheses say what becomes of what that call had to do. -/
theorem Held.move {lossless : Bool} {trace events : List Event} {s s' : State}
    {runner : Option Nat} {rest : Option Code} (held : Held lossless trace s)
    (once : Once (trace ++ events) s')
    (places : place s' = Function.update (place s) runner rest)
    (state : s'.pipe.state = s.pipe.state)
    (graceful : s.pipe.gracefulShutdown = true →
      s'.pipe.gracefulShutdown = true)
    (finished : s'.pipe.finished = true →
      s.pipe.finished = true ∨ Stands Code.won s' runner)
    (recheck : rest = some .finishRecheck → s'.pipe.gracefulShutdown = true)
    (found : ∀ code, rest = some code → code.found = true →
      ¬ Early s.pipe.state)
    (backed : Stands Code.won s runner → Backed lossless (trace ++ events) s')
    (answered : .entered .finish ∈ events ∨ Stands Code.asks s runner ∨
      Recorded s → Answered lossless (trace ++ events) s') :
    Held lossless (trace ++ events) s' := by
  have found' : ∀ other, Stands Code.found s' other → ¬ Early s'.pipe.state := by
    intro other stands
    rw [state]
    rcases stands.updated places with ⟨_, code, here, holds⟩ | ⟨_, before⟩
    · exact found code here holds
    · exact held.found other before
  have won_found : ∀ other, Stands Code.won s' other →
      Stands Code.found s' other := by
    rintro other ⟨code, here, won⟩
    refine ⟨code, here, ?_⟩
    cases code <;> first | rfl | cases won
  have same : ∀ {lost}, Lost lost s → Lost lost s' := by
    intro lost before
    simpa only [Lost, state] using before
  refine ⟨?_, found', ?_, ?_, ?_⟩
  · intro other here
    rw [places] at here
    rcases updated_entry here with ⟨_, now⟩ | ⟨_, before⟩
    · exact recheck now
    · exact graceful (held.recheck other before)
  · intro now
    rcases finished now with before | won
    · rw [state]
      exact held.finished before
    · exact found' runner (won_found runner won)
  · intro now
    rcases finished now with before | won
    · rcases held.backed before with ⟨other, won⟩ | first | lost
      · by_cases here : other = runner
        · subst here
          exact backed won
        · exact .inl ⟨other, won.update places here⟩
      · exact .inr (.inl (appends_kept once first))
      · exact .inr (.inr (same lost))
    · exact .inl ⟨runner, won⟩
  · intro member
    rcases List.mem_append.mp member with before | now
    · rcases held.answered before with ⟨other, asks⟩ | first | recorded | lost
      · by_cases here : other = runner
        · subst here
          exact answered (.inr (.inl asks))
        · exact .inl ⟨other, asks.update places here⟩
      · exact .inr (.inl (appends_kept once first))
      · exact answered (.inr (.inr recorded))
      · exact .inr (.inr (.inr (same lost)))
    · exact answered (.inl now)

theorem not_stands {kind : Code → Bool} {s : State} {runner : Option Nat}
    {code : Code} (running : place s runner = some code)
    (unlike : kind code = false) : ¬ Stands kind s runner := by
  rintro ⟨other, here, holds⟩
  rw [running] at here
  cases here
  rw [unlike] at holds
  cases holds

/-- A call of `finish()` that loads `m_state` to decide whether it goes on does
not find a connection that was open and is not any more. -/
def inTime (s : State) (label : Act) : Bool :=
  match label.runner with
  | none => true
  | some runner =>
      match place s runner with
      | some .finishRecheck | some .bufferCheck => !decide (Gone s.pipe.state)
      | _ => true

/-- A load that does not find CONNECTED once the handshake cannot complete any
more. -/
theorem lost_of_missed {lossless : Bool} {s s' : State} {label : Act}
    {runner : Option Nat} {code : Code}
    (timely : lossless = true → inTime s label = true)
    (labelled : label.runner = some runner)
    (running : place s runner = some code)
    (examines : code = .finishRecheck ∨ code = .bufferCheck)
    (state : s'.pipe.state = s.pipe.state)
    (missed : s.pipe.state ≠ .connected) (late : ¬ Early s.pipe.state) :
    Lost lossless s' := by
  have ended : s.pipe.state = .failed ∨ Gone s.pipe.state := by
    cases here : s.pipe.state <;> simp_all [Early, Gone]
  rw [Lost, state]
  rcases ended with failed | gone
  · exact .inl failed
  · cases lossless with
    | false => exact .inr ⟨rfl, gone⟩
    | true =>
        have examined := timely rfl
        rcases examines with rfl | rfl <;>
          simp [inTime, labelled, running, gone] at examined

/-- The call at `runner` comes to another code of `finish()`, from which it is
completed or left to another caller. -/
theorem Held.goOn {lossless : Bool} {trace events : List Event} {s s' : State}
    {runner : Option Nat} {code next : Code} (held : Held lossless trace s)
    (once : Once (trace ++ events) s') (running : place s runner = some code)
    (places : place s' = Function.update (place s) runner (some next))
    (state : s'.pipe.state = s.pipe.state)
    (graceful : s.pipe.gracefulShutdown = true →
      s'.pipe.gracefulShutdown = true)
    (finished : s'.pipe.finished = true →
      s.pipe.finished = true ∨ next.won = true)
    (recheck : next = .finishRecheck → s'.pipe.gracefulShutdown = true)
    (found : next.found = true → ¬ Early s.pipe.state)
    (won : code.won = true → next.won = true) (asks : next.asks = true) :
    Held lossless (trace ++ events) s' := by
  refine held.move once places state graceful ?_ ?_ ?_ ?_ ?_
  · exact fun now => (finished now).imp_right (stands_runner places)
  · rintro ⟨⟩
    exact recheck rfl
  · rintro _ ⟨⟩
    exact found
  · rintro ⟨before, here, ahead⟩
    rw [running] at here
    cases here
    exact .inl ⟨runner, stands_runner places (won ahead)⟩
  · exact fun _ => .inl ⟨runner, stands_runner places asks⟩

theorem Held.step {lossless : Bool} {trace events : List Event} {s s' : State}
    {label : Act} (held : Held lossless trace s)
    (once : Once (trace ++ events) s')
    (timely : lossless = true → inTime s label = true)
    (taken : Taken s s' label events) :
    Held lossless (trace ++ events) s' := by
  cases taken with
  | aside aside => exact held.aside once aside
  | @enter thread op _ pipe service vacant places =>
      have nobody : ∀ kind, ¬ Stands kind s (some thread) := by
        rintro kind ⟨code, here, _⟩
        rw [vacant] at here
        cases here
      refine held.move once places (by rw [pipe]) (by simp [pipe]) ?_ ?_ ?_ ?_ ?_
      · rw [pipe]
        exact .inl
      · cases op <;> simp [Op.entry]
      · rintro code ⟨⟩ found
        cases op <;> cases found
      · intro won
        exact (nobody _ won).elim
      · rintro (entered | asks | ⟨graceful, recorded⟩)
        · cases op with
          | finish => exact .inl ⟨_, stands_runner places rfl⟩
          | transcribeFrame reads => simp at entered
        · exact (nobody _ asks).elim
        · rw [← service] at recorded
          rw [← pipe] at graceful recorded
          exact .inr (.inr (.inl ⟨graceful, recorded⟩))
  | takeUp pipe vacant places =>
      refine held.move once places (by rw [pipe]) (by simp [pipe]) ?_ (by simp)
        ?_ ?_
        ?_
      · rw [pipe]
        exact .inl
      · rintro code ⟨⟩ ⟨⟩
      · rintro ⟨code, here, _⟩
        rw [vacant] at here
        cases here
      · intro _
        exact .inl ⟨none, stands_runner places rfl⟩
  | @code runner code rest events labelled running progress untouched waiting
      places uncalled =>
      have state := untouched.state
      have recorded : (s.pipe.gracefulShutdown = true →
          s'.pipe.gracefulShutdown = true) → Recorded s → Recorded s' := by
        rintro kept ⟨graceful, early | service⟩
        · exact ⟨kept graceful, .inl (by rwa [state])⟩
        · exact ⟨kept graceful, .inr (waiting service)⟩
      generalize counted : events.count (.appended closeStream) = count
        at progress
      cases progress with
      | checkFound connected finished graceful
      | recheckFound connected finished graceful =>
          exact held.goOn once running places state (by simp [graceful])
            (by simpa [finished] using .inl) (by simp)
            (fun _ => by simp [connected, Early]) (by rintro ⟨⟩) rfl
      | checkMissed finished graceful =>
          exact held.goOn once running places state (by simp [graceful])
            (by simpa [finished] using .inl) (by simp) (by rintro ⟨⟩)
            (by rintro ⟨⟩) rfl
      | record finished graceful =>
          exact held.goOn once running places state (by simp [graceful])
            (by simpa [finished] using .inl) (fun _ => graceful) (by rintro ⟨⟩)
            (by rintro ⟨⟩) rfl
      | recheckMissed missed finished graceful =>
          refine held.move once places state (by simp [graceful])
            (by simpa [finished] using .inl) (by simp) (by simp) ?_ ?_
          · intro won
            exact (not_stands running rfl won).elim
          · intro _
            have stored := held.recheck runner running
            by_cases early : Early s.pipe.state
            · exact .inr (.inr (.inl (recorded (by simp [graceful])
                ⟨stored, .inl early⟩)))
            · exact .inr (.inr (.inr (lost_of_missed timely labelled running
                (.inl rfl) state missed early)))
      | pass first finished graceful =>
          have found : Stands Code.found s runner := ⟨_, running, rfl⟩
          exact held.goOn once running places state (by simp [graceful])
            (fun _ => .inr rfl) (by simp) (fun _ => held.found runner found)
            (by rintro ⟨⟩)
            rfl
      | leave late finished graceful =>
          refine held.move once places state (by simp [graceful])
            (by simpa [finished] using .inl) (by simp) (by simp) ?_ ?_
          · intro won
            exact (not_stands running rfl won).elim
          · intro _
            rcases held.backed late with ⟨other, won⟩ | first | lost
            · have different : other ≠ runner := by
                rintro rfl
                exact not_stands running rfl won
              have backed : Backed lossless (trace ++ events) s' :=
                .inl ⟨other, won.update places different⟩
              exact backed.answered
            · exact .inr (.inl (appends_kept once first))
            · refine .inr (.inr (.inr ?_))
              simpa only [Lost, state] using lost
      | buffer finished graceful =>
          have found : Stands Code.found s runner := ⟨_, running, rfl⟩
          exact held.goOn once running places state (by simp [graceful])
            (by simpa [finished] using .inl) (by simp)
            (fun _ => held.found runner found) id rfl
      | drop missed finished graceful =>
          have found : Stands Code.found s runner := ⟨_, running, rfl⟩
          have lost : Lost lossless s' := lost_of_missed timely labelled running
            (.inr rfl) state missed (held.found runner found)
          refine held.move once places state (by simp [graceful])
            (by simpa [finished] using .inl) (by simp) (by simp) ?_ ?_
          · intro _
            exact .inr (.inr lost)
          · intro _
            exact .inr (.inr (.inr lost))
      | append finished graceful =>
          have first : appends (trace ++ events) = 1 := by
            have bound := once.once
            have one : appends events = 1 := counted
            rw [appends_append] at bound ⊢
            omega
          refine held.move once places state (by simp [graceful])
            (by simpa [finished] using .inl) (by simp) ?_ ?_ ?_
          · rintro code ⟨⟩ ⟨⟩
          · intro _
            exact .inr (.inl first)
          · intro _
            exact .inr (.inl first)
      | other done after finished graceful =>
          refine held.move once places state (by simp [graceful])
            (by simpa [finished] using .inl) ?_ ?_ ?_ ?_
          · intro next
            have done' := after _ next
            cases done'
          · intro code next found
            have asking := found_asks found
            rw [after code next] at asking
            cases asking
          · rintro ⟨code', here, won⟩
            rw [running] at here
            cases here
            rw [won_asks won] at done
            cases done
          · rintro (entered | asks | before)
            · exact (uncalled entered).elim
            · exact (not_stands running done asks).elim
            · exact .inr (.inr (.inl (recorded (by simp [graceful]) before)))

/-- Nobody has yet to append CloseStream, and ESTABLISHED is past its look at
`m_gracefulShutdown`. -/
structure Settled (s : State) : Prop where
  calls : ∀ runner, ¬ Stands Code.asks s runner
  service : s.service ≠ .establishedFinish

theorem linked_of_run {config : Config} {allowed : State → Act → Bool}
    {labels : List Act} {trace : List Event} {finish : State}
    (run : (machine config).Run allowed (machine config).initial labels trace
      finish) : Linked finish :=
  run.invariant Linked linked_fresh fun linked _ step =>
    (step_taken linked step).1

theorem once_of_run {config : Config} {labels : List Act} {trace : List Event}
    {finish : State}
    (run : (machine config).Run anyStep (machine config).initial labels trace
      finish) : Once trace finish := by
  have both : Linked finish ∧ Once trace finish := by
    refine run.induct (fun trace s => Linked s ∧ Once trace s)
      ⟨linked_fresh, once_fresh⟩ ?_
    rintro trace s label next events ⟨linked, once⟩ _ step
    obtain ⟨linked', taken⟩ := step_taken linked step
    exact ⟨linked', once.step taken⟩
  exact both.2

theorem held_of_run {config : Config} {allowed : State → Act → Bool}
    {lossless : Bool} {labels : List Act} {trace : List Event} {finish : State}
    (timely : ∀ s label, allowed s label = true → lossless = true →
      inTime s label = true)
    (run : (machine config).Run allowed (machine config).initial labels trace
      finish) : Held lossless trace finish := by
  have all : Linked finish ∧ Once trace finish ∧ Held lossless trace finish := by
    refine run.induct
      (fun trace s => Linked s ∧ Once trace s ∧ Held lossless trace s)
      ⟨linked_fresh, once_fresh, held_fresh lossless⟩ ?_
    rintro trace s label next events ⟨linked, once, held⟩ admitted step
    obtain ⟨linked', taken⟩ := step_taken linked step
    have once' := once.step taken
    exact ⟨linked', once', held.step once' (timely s label admitted) taken⟩
  exact all.2.2

/-- CloseStream is appended at most once.  Once every call of `finish()` has
come to its end or is recorded, it was appended if the pipe is connected, or if
the handshake completed and no call examined the pipe too late; before the
handshake completes the call is recorded. -/
theorem close_stream_handed_over (config : Config) {labels : List Act}
    {trace : List Event} {finish : State}
    (run : (machine config).Run anyStep (machine config).initial labels trace
      finish) :
    appends trace ≤ 1 ∧
      (.entered .finish ∈ trace → Settled finish →
        (Early finish.pipe.state → finish.pipe.gracefulShutdown = true) ∧
        (finish.pipe.state = .connected →
          appends trace = 1) ∧
        ((machine config).Run inTime (machine config).initial labels trace
            finish →
          Handshaken finish.pipe.state →
          appends trace = 1)) := by
  have once := once_of_run run
  refine ⟨once.once, ?_⟩
  intro called settled
  have held : Held false trace finish :=
    held_of_run (fun _ _ _ lossy => nomatch lossy) run
  have answers : ∀ {lossless}, Held lossless trace finish →
      appends trace = 1 ∨ Recorded finish ∨ Lost lossless finish := by
    intro lossless held
    rcases held.answered called with ⟨runner, asks⟩ | first | recorded | lost
    · exact (settled.calls runner asks).elim
    · exact .inl first
    · exact .inr (.inl recorded)
    · exact .inr (.inr lost)
  refine ⟨?_, ?_, ?_⟩
  · intro early
    rcases answers held with first | ⟨graceful, _⟩ | failed | ⟨_, gone⟩
    · have finished : finish.pipe.finished = true := by
        cases here : finish.pipe.finished with
        | true => rfl
        | false =>
            have none := (once.unfinished here).1
            rw [first] at none
            cases none
      exact (held.finished finished early).elim
    · exact graceful
    · simp [Early, failed] at early
    · exact (not_handshaken_of_early early (.inr gone)).elim
  · intro connected
    rcases answers held with first | ⟨_, early | service⟩ | failed | ⟨_, gone⟩
    · exact first
    · exact (not_handshaken_of_early early (.inl connected)).elim
    · exact (settled.service service).elim
    · rw [failed] at connected
      cases connected
    · simp [Gone, connected] at gone
  · intro timely handshaken
    have held : Held true trace finish :=
      held_of_run (fun _ _ admitted _ => admitted) timely
    rcases answers held with first | ⟨_, early | service⟩ | failed | ⟨lossy, _⟩
    · exact first
    · exact (not_handshaken_of_early early handshaken).elim
    · exact (settled.service service).elim
    · simp [Handshaken, Gone, failed] at handshaken
    · cases lossy

/-- Nobody has called a member function on a thread no label enters. -/
theorem vacant_of_unnamed {config : Config} {labels : List Act}
    {trace : List Event} {finish : State} {thread : Nat}
    (run : (machine config).Run anyStep (machine config).initial labels trace
      finish)
    (unnamed : ∀ op, .enter thread op ∉ labels) :
    place finish (some thread) = none := by
  induction run with
  | nil => rfl
  | snoc run _ step ih =>
      have before := ih fun op member =>
        unnamed op (List.mem_append_left _ member)
      cases (step_taken (linked_of_run run) step).2 with
      | aside aside => rw [aside.places, before]
      | @enter other op labelled _ _ _ places =>
          have different : some thread ≠ some other := by
            rintro ⟨⟩
            exact unnamed op (by simp [labelled])
          rw [places, Function.update_of_ne different, before]
      | takeUp _ _ places =>
          rw [places, Function.update_of_ne (Option.some_ne_none thread), before]
      | @code runner _ _ _ _ running _ _ _ places =>
          have different : some thread ≠ runner := by
            rintro rfl
            rw [before] at running
            cases running
          rw [places, Function.update_of_ne different, before]

/-- Two calls of `finish()`, one on either side of the handshake: the first is
recorded too late for ESTABLISHED to see it and finds CONNECTED when it looks
again, after the second has passed the exchange. -/
theorem close_stream_handed_over_of_race :
    ∃ labels trace finish,
      (machine ⟨64000, 320, 1, false⟩).Run inTime .fresh labels trace finish ∧
        trace.count (.entered .finish) = 2 ∧ Settled finish ∧
        appends trace = 1 := by
  let labels : List Act :=
    Act.enter 1 .finish :: .advance 1 :: establish ++ [Act.enter 2 .finish] ++
      List.replicate 2 (Act.advance 2) ++ List.replicate 3 (Act.advance 1) ++
      List.replicate 4 (Act.advance 2)
  have executed : ((machine ⟨64000, 320, 1, false⟩).exec inTime .fresh
      labels).map (fun outcome => decide
        (outcome.1.calls 1 = none ∧ outcome.1.calls 2 = none ∧
          outcome.1.service = .idle ∧ outcome.1.pipe.state = .connected ∧
          outcome.2.count (.entered .finish) = 2)) = some true := by
    decide
  obtain ⟨finish, trace, run, observed⟩ := Machine.exists_run_of_exec _ executed
  obtain ⟨first, second, service, connected, calls⟩ :=
    of_decide_eq_true observed
  simp only at first second service connected calls
  have free : (machine ⟨64000, 320, 1, false⟩).Run anyStep .fresh labels trace
      finish := run.unguarded
  have settled : Settled finish := by
    refine ⟨?_, by simp [service]⟩
    rintro (_ | thread) ⟨code, here, asks⟩
    · simp [place, service] at here
    · have vacant : place finish (some thread) = none := by
        by_cases one : thread = 1
        · rw [one, place, first]
          rfl
        by_cases two : thread = 2
        · rw [two, place, second]
          rfl
        apply vacant_of_unnamed free
        simp [labels, establish, one, two]
      rw [vacant] at here
      cases here
  have called : .entered .finish ∈ trace := by
    apply List.count_pos_iff.mp
    rw [calls]
    decide
  have handed := (close_stream_handed_over _ free).2 called settled
  exact ⟨labels, trace, finish, run, calls, settled,
    handed.2.2 run (.inl connected)⟩

end DrachtioModules.Deepgram

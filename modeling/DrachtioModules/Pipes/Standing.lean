import DrachtioModules.Pipes.Projection

/-!
# Where a pipe stands

What a pipe's fields are while the service thread is doing one thing or another
with it, and what has become of its entries in the pending lists while the
reaper is taking them out.  A pipe whose close has been signalled is one the
service thread has let go of.
-/

namespace DrachtioModules.Pipes

open AudioFork (Bytes LwsState NotifyEvent Wsi ConnectCall FailStage)

/-- A member function may start a close; the fields that only `connect()`, the
service thread and lws write stay as they are. -/
structure CodeEffect (pipe next : Pipe) : Prop where
  state : next.state = pipe.state ∨
    (pipe.state = .connected ∧ next.state = .disconnecting)
  pwsi : next.pwsi = pipe.pwsi
  vhd : next.vhd = pipe.vhd
  closeSignaled : next.closeSignaled = pipe.closeSignaled
  wsi : next.wsi = pipe.wsi
  adopted : next.adopted = pipe.adopted
  connectCall : next.connectCall = pipe.connectCall
  owner : next.owner = pipe.owner

/-- What happens in a member function: the vhost data is used, and nothing
else. -/
def Happening.inCode : Happening → Bool
  | .dereferenced _ => true
  | _ => false

theorem stepCode_effect {variant : Variant} {pipe next : Pipe} {ok : Bool}
    {code : Code} {rest : Option Code} {pending : Option Pending}
    {happenings : List Happening}
    (runs : stepCode variant pipe ok code = (next, rest, pending, happenings)) :
    CodeEffect pipe next ∧
      ∀ happening ∈ happenings, happening.inCode = true := by
  have same : CodeEffect pipe pipe :=
    ⟨.inl rfl, rfl, rfl, rfl, rfl, rfl, rfl, rfl⟩
  cases code with
  | gracefulRecord | closeRecord | bufferAppend | frameRead =>
      simp only [stepCode] at runs
      cases runs
      exact ⟨⟨.inl rfl, rfl, rfl, rfl, rfl, rfl, rfl, rfl⟩, by simp⟩
  | closeQueue | queueWrite =>
      simp only [stepCode] at runs
      cases runs
      exact ⟨same, by simp⟩
  | cancelService =>
      simp only [stepCode] at runs
      cases runs
      exact ⟨same, by simp [Happening.inCode]⟩
  | closeExchange =>
      simp only [stepCode] at runs
      split at runs <;> rename_i connected <;> cases runs
      · exact ⟨⟨.inr ⟨connected, rfl⟩, rfl, rfl, rfl, rfl, rfl, rfl, rfl⟩,
          by simp⟩
      · exact ⟨same, by simp⟩
  | finishExchange =>
      simp only [stepCode] at runs
      split at runs <;> cases runs
      · exact ⟨same, by simp⟩
      · exact ⟨⟨.inl rfl, rfl, rfl, rfl, rfl, rfl, rfl, rfl⟩, by simp⟩
  | gracefulCheck | gracefulRecheck | closeCheck | closeRecheck | bufferCheck
  | frameCheck | frameQueue =>
      simp only [stepCode] at runs
      split at runs <;> cases runs
      · exact ⟨same, by simp⟩
      · exact ⟨same, by simp⟩

/-- `connect()` has added the pipe to the list, or has returned. -/
def View.Added (v : View) : Prop :=
  v.pipe.connectCall = .cancelService ∨ v.pipe.connectCall = .returned

/-- lws holds an open connection for the pipe. -/
def View.Open (v : View) : Prop :=
  v.pipe.wsi = .opened ∨ v.pipe.wsi = .closing

/-- The service thread has adopted the connection and not stored its end. -/
structure Up (v : View) : Prop where
  added : v.Added
  state : v.pipe.state = .connected ∨ v.pipe.state = .disconnecting
  vhd : v.pipe.vhd = true
  adopted : v.pipe.adopted = true
  unsignaled : v.pipe.closeSignaled = false

/-- A pipe the service thread is doing nothing with. -/
inductive Rest (v : View) : Prop where
  | uncalled
      (call : v.pipe.connectCall = .notCalled ∨ v.pipe.connectCall = .entered)
      (state : v.pipe.state = .idle) (absent : v.connects = false)
      (wsi : v.pipe.wsi = .none) (unsignaled : v.pipe.closeSignaled = false)
  | refused
      (call : v.pipe.connectCall = .notify ∨ v.pipe.connectCall = .signal)
      (state : v.pipe.state = .failed) (absent : v.connects = false)
      (wsi : v.pipe.wsi = .none) (unsignaled : v.pipe.closeSignaled = false)
  | listed (added : v.Added) (state : v.pipe.state = .idle)
      (listed : v.connects = true) (wsi : v.pipe.wsi = .none)
      (unsignaled : v.pipe.closeSignaled = false)
  | shaking (added : v.Added) (state : v.pipe.state = .connecting)
      (listed : v.connects = true) (stored : v.pipe.pwsi = true)
      (wsi : v.pipe.wsi = .handshaking)
      (unsignaled : v.pipe.closeSignaled = false)
  | up (up : Up v) (wsi : v.Open)
  | spent (added : v.Added)
      (state : v.pipe.state = .failed ∨ v.pipe.state = .disconnected)
      (wsi : v.pipe.wsi = .none ∨ v.pipe.wsi = .freed)
      (signaled : v.pipe.closeSignaled = true)

/-- A pipe the service thread is about to connect. -/
structure Picked (v : View) : Prop where
  added : v.Added
  state : v.pipe.state = .connecting
  listed : v.connects = true
  wsi : v.pipe.wsi = .none
  unsignaled : v.pipe.closeSignaled = false
  ready : v.vhost = true

/-- A pipe whose connect has failed. -/
structure Failing (v : View) (state : LwsState) : Prop where
  added : v.Added
  state : v.pipe.state = state
  wsi : v.pipe.wsi = .none ∨ v.pipe.wsi = .freed
  unsignaled : v.pipe.closeSignaled = false

/-- A pipe whose handshake has just succeeded. -/
structure Adopting (v : View) : Prop where
  added : v.Added
  state : v.pipe.state = .connecting
  wsi : v.pipe.wsi = .opened
  unsignaled : v.pipe.closeSignaled = false
  ready : v.vhost = true

/-- A pipe whose connection has ended and whose close is to be signalled. -/
structure Ended (v : View) : Prop where
  added : v.Added
  state : v.pipe.state = .disconnected
  wsi : v.pipe.wsi = .freed
  unsignaled : v.pipe.closeSignaled = false

/-- Where a pipe stands while the service thread is in `role` with it. -/
def Stands (v : View) : Role → Prop
  | .away | .metadata _ => Rest v
  | .picked | .connectNull => Picked v
  | .failing .store => Failing v .connecting
  | .failing .notify | .failing .signal => Failing v .failed
  | .established .adopt => Adopting v
  | .loop | .writeable _ | .established .close | .established (.closing _)
  | .established .graceful | .established (.shutdown _)
  | .established .notify => Up v ∧ v.Open
  | .closed .signal => Ended v
  | .closed .gracefully | .closed .dropped | .closed .store =>
      Up v ∧ v.pipe.wsi = .freed

/-- A step of a thread other than the service thread: at most a close starts or
`connect()` returns. -/
structure Keeps (v v' : View) : Prop where
  state : v'.pipe.state = v.pipe.state ∨
    (v.pipe.state = .connected ∧ v'.pipe.state = .disconnecting)
  call : v'.pipe.connectCall = v.pipe.connectCall ∨
    (v.pipe.connectCall = .cancelService ∧ v'.pipe.connectCall = .returned)
  connects : v'.connects = v.connects
  pwsi : v'.pipe.pwsi = v.pipe.pwsi
  vhd : v'.pipe.vhd = v.pipe.vhd
  wsi : v'.pipe.wsi = v.pipe.wsi
  adopted : v'.pipe.adopted = v.pipe.adopted
  closeSignaled : v'.pipe.closeSignaled = v.pipe.closeSignaled
  vhost : v.vhost = true → v'.vhost = true

section Keeps

variable {v v' : View}

theorem Keeps.state_of (keeps : Keeps v v') {state : LwsState}
    (before : v.pipe.state = state) (down : state ≠ .connected) :
    v'.pipe.state = state := by
  rcases keeps.state with same | ⟨connected, _⟩
  · exact same.trans before
  · exact absurd (before.symm.trans connected) down

theorem Keeps.call_of (keeps : Keeps v v') {call : ConnectCall}
    (before : v.pipe.connectCall = call) (early : call ≠ .cancelService) :
    v'.pipe.connectCall = call := by
  rcases keeps.call with same | ⟨cancel, _⟩
  · exact same.trans before
  · exact absurd (before.symm.trans cancel) early

theorem Keeps.added (keeps : Keeps v v') (added : v.Added) : v'.Added := by
  rcases keeps.call with same | ⟨_, returned⟩
  · rw [View.Added, same]
    exact added
  · exact .inr returned

theorem Keeps.open (keeps : Keeps v v') (open' : v.Open) : v'.Open := by
  rw [View.Open, keeps.wsi]
  exact open'

theorem Keeps.up (keeps : Keeps v v') (up : Up v) : Up v' := by
  refine ⟨keeps.added up.added, ?_, keeps.vhd.trans up.vhd,
    keeps.adopted.trans up.adopted, keeps.closeSignaled.trans up.unsignaled⟩
  rcases keeps.state with same | ⟨_, closing⟩
  · rw [same]
    exact up.state
  · exact .inr closing

theorem Keeps.rest (keeps : Keeps v v') (rest : Rest v) : Rest v' := by
  cases rest with
  | uncalled call state absent wsi unsignaled =>
      refine .uncalled ?_ (keeps.state_of state (by simp))
        (keeps.connects.trans absent) (keeps.wsi.trans wsi)
        (keeps.closeSignaled.trans unsignaled)
      exact call.imp (keeps.call_of · (by simp)) (keeps.call_of · (by simp))
  | refused call state absent wsi unsignaled =>
      refine .refused ?_ (keeps.state_of state (by simp))
        (keeps.connects.trans absent) (keeps.wsi.trans wsi)
        (keeps.closeSignaled.trans unsignaled)
      exact call.imp (keeps.call_of · (by simp)) (keeps.call_of · (by simp))
  | listed added state listed wsi unsignaled =>
      exact .listed (keeps.added added) (keeps.state_of state (by simp))
        (keeps.connects.trans listed) (keeps.wsi.trans wsi)
        (keeps.closeSignaled.trans unsignaled)
  | shaking added state listed stored wsi unsignaled =>
      exact .shaking (keeps.added added) (keeps.state_of state (by simp))
        (keeps.connects.trans listed) (keeps.pwsi.trans stored)
        (keeps.wsi.trans wsi) (keeps.closeSignaled.trans unsignaled)
  | up up wsi => exact .up (keeps.up up) (keeps.open wsi)
  | spent added state wsi signaled =>
      refine .spent (keeps.added added) ?_ ?_
        (keeps.closeSignaled.trans signaled)
      · exact state.imp (keeps.state_of · (by simp))
          (keeps.state_of · (by simp))
      · rw [keeps.wsi]
        exact wsi

theorem Keeps.picked (keeps : Keeps v v') (picked : Picked v) : Picked v' :=
  { added := keeps.added picked.added
    state := keeps.state_of picked.state (by simp)
    listed := keeps.connects.trans picked.listed
    wsi := keeps.wsi.trans picked.wsi
    unsignaled := keeps.closeSignaled.trans picked.unsignaled
    ready := keeps.vhost picked.ready }

theorem Keeps.failing (keeps : Keeps v v') {state : LwsState}
    (failing : Failing v state) (down : state ≠ .connected) :
    Failing v' state := by
  refine ⟨keeps.added failing.added, keeps.state_of failing.state down, ?_,
    keeps.closeSignaled.trans failing.unsignaled⟩
  rw [keeps.wsi]
  exact failing.wsi

theorem Keeps.stands (keeps : Keeps v v') {role : Role}
    (stands : Stands v role) : Stands v' role := by
  cases role with
  | away | metadata _ => exact keeps.rest stands
  | picked | connectNull => exact keeps.picked stands
  | failing stage =>
      cases stage with
      | store => exact keeps.failing stands (by simp)
      | notify | signal => exact keeps.failing stands (by simp)
  | loop | writeable _ => exact ⟨keeps.up stands.1, keeps.open stands.2⟩
  | established stage =>
      cases stage with
      | adopt =>
          exact ⟨keeps.added stands.added,
            keeps.state_of stands.state (by simp),
            keeps.wsi.trans stands.wsi,
            keeps.closeSignaled.trans stands.unsignaled,
            keeps.vhost stands.ready⟩
      | close | closing _ | graceful | shutdown _ | notify =>
          exact ⟨keeps.up stands.1, keeps.open stands.2⟩
  | closed stage =>
      cases stage with
      | signal =>
          exact ⟨keeps.added stands.added,
            keeps.state_of stands.state (by simp),
            keeps.wsi.trans stands.wsi,
            keeps.closeSignaled.trans stands.unsignaled⟩
      | gracefully | dropped | store =>
          exact ⟨keeps.up stands.1, keeps.wsi.trans stands.2⟩

end Keeps

/-- How far `removeFromPending` has come. -/
def Owner.stage : Owner → Nat
  | .session _ | .callback | .reaper (.closing _) | .reaper .waiting => 0
  | .reaper .fromConnects => 1
  | .reaper .fromDisconnects => 2
  | .reaper .fromWrites => 3
  | .reaper .deleted => 4

/-- The reaper takes a pipe out of the lists only once its close is signalled,
and the service thread holds the session's mutex while it borrows a pipe. -/
structure Owned (v : View) : Prop where
  signaled : 1 ≤ v.pipe.owner.stage → v.pipe.closeSignaled = true
  connects : 2 ≤ v.pipe.owner.stage → v.connects = false
  disconnects : 3 ≤ v.pipe.owner.stage → v.disconnects = false
  writes : 4 ≤ v.pipe.owner.stage → v.writes = false
  borrowed : ∀ code, v.role = .metadata code → v.pipe.owner = .callback

theorem Owned.kept {v : View} (owned : Owned v)
    (unsignaled : v.pipe.closeSignaled = false) : v.pipe.owner.stage = 0 := by
  by_contra later
  have signaled := owned.signaled (by omega)
  simp [unsignaled] at signaled

theorem CodeEffect.keeps {v : View} {next : Pipe}
    (effect : CodeEffect v.pipe next) (owner : Owner) (role : Role)
    (pending : Option Pending) :
    Keeps v
      ({ v with pipe := { next with owner := owner }, role := role }.push
        pending) := by
  cases pending with
  | none =>
      exact ⟨effect.state, .inl effect.connectCall, rfl, effect.pwsi,
        effect.vhd, effect.wsi, effect.adopted, effect.closeSignaled, id⟩
  | some pending =>
      cases pending with
      | disconnects | writes =>
          exact ⟨effect.state, .inl effect.connectCall, rfl, effect.pwsi,
            effect.vhd, effect.wsi, effect.adopted, effect.closeSignaled, id⟩

@[simp] theorem push_role (v : View) (pending : Option Pending) :
    (v.push pending).role = v.role := by
  cases pending with
  | none => rfl
  | some pending => cases pending <;> rfl

@[simp] theorem push_pipe (v : View) (pending : Option Pending) :
    (v.push pending).pipe = v.pipe := by
  cases pending with
  | none => rfl
  | some pending => cases pending <;> rfl

theorem Stands.early {v : View} {role : Role} (stands : Stands v role)
    (early : ¬ v.Added) :
    Rest v ∧ ∀ {v' : View}, Rest v' → Stands v' role := by
  cases role with
  | away | metadata _ => exact ⟨stands, id⟩
  | picked | connectNull => exact absurd stands.added early
  | failing stage => cases stage <;> exact absurd stands.added early
  | loop | writeable _ => exact absurd stands.1.added early
  | established stage =>
      cases stage with
      | adopt => exact absurd stands.added early
      | close | closing _ | graceful | shutdown _ | notify =>
          exact absurd stands.1.added early
  | closed stage =>
      cases stage with
      | signal => exact absurd stands.added early
      | gracefully | dropped | store => exact absurd stands.1.added early

/-- The close of a pipe the service thread is about is not signalled. -/
theorem Stands.working {v : View} {role : Role} (stands : Stands v role)
    (about' : role ≠ .away) (elsewhere : ∀ code, role ≠ .metadata code) :
    v.pipe.closeSignaled = false := by
  cases role with
  | away => exact absurd rfl about'
  | metadata code => exact absurd rfl (elsewhere code)
  | picked | connectNull => exact stands.unsignaled
  | failing stage => cases stage <;> exact stands.unsignaled
  | loop | writeable _ => exact stands.1.unsignaled
  | established stage =>
      cases stage with
      | adopt => exact stands.unsignaled
      | close | closing _ | graceful | shutdown _ | notify =>
          exact stands.1.unsignaled
  | closed stage =>
      cases stage with
      | signal => exact stands.unsignaled
      | gracefully | dropped | store => exact stands.1.unsignaled

/-- A pipe whose close is signalled is one the service thread is not about. -/
theorem Stands.signaled {v : View} {role : Role} (stands : Stands v role)
    (signaled : v.pipe.closeSignaled = true) :
    Rest v ∧ ∀ {v' : View}, Rest v' → Stands v' role := by
  have elsewhere : role = .away ∨ ∃ code, role = .metadata code := by
    by_contra working
    simp only [not_or, not_exists] at working
    have unsignaled := stands.working working.1 working.2
    simp [signaled] at unsignaled
  rcases elsewhere with rfl | ⟨_, rfl⟩
  · exact ⟨stands, id⟩
  · exact ⟨stands, id⟩

theorem Stands.connecting {v : View} {role : Role} (stands : Stands v role)
    (connecting : v.pipe.state = .connecting) :
    v.pipe.closeSignaled = false := by
  cases signaled : v.pipe.closeSignaled with
  | false => rfl
  | true =>
      obtain ⟨rest, _⟩ := stands.signaled signaled
      cases rest with
      | spent _ state _ _ => simp [connecting] at state
      | uncalled _ _ _ _ unsignaled | refused _ _ _ _ unsignaled
      | listed _ _ _ _ unsignaled | shaking _ _ _ _ _ unsignaled =>
          simp [signaled] at unsignaled
      | up up _ => simpa [connecting] using up.state

theorem Stands.uncalled {v : View} {role : Role} (stands : Stands v role)
    (call : v.pipe.connectCall = .notCalled ∨
      v.pipe.connectCall = .entered) :
    v.pipe.state = .idle ∧ v.connects = false ∧ v.pipe.wsi = .none ∧
      v.pipe.closeSignaled = false ∧
      ∀ {v' : View}, Rest v' → Stands v' role := by
  have early : ¬ v.Added := by
    rintro (added | added) <;> simp [added] at call
  obtain ⟨rest, again⟩ := stands.early early
  cases rest with
  | uncalled _ state absent wsi unsignaled =>
      exact ⟨state, absent, wsi, unsignaled, again⟩
  | refused later _ _ _ _ =>
      rcases later with later | later <;> simp [later] at call
  | listed added _ _ _ _ | shaking added _ _ _ _ _ | spent added _ _ _ =>
      exact absurd added early
  | up up _ => exact absurd up.added early

theorem Stands.refused {v : View} {role : Role} (stands : Stands v role)
    (call : v.pipe.connectCall = .notify ∨ v.pipe.connectCall = .signal) :
    v.pipe.state = .failed ∧ v.connects = false ∧ v.pipe.wsi = .none ∧
      v.pipe.closeSignaled = false ∧
      ∀ {v' : View}, Rest v' → Stands v' role := by
  have early : ¬ v.Added := by
    rintro (added | added) <;> simp [added] at call
  obtain ⟨rest, again⟩ := stands.early early
  cases rest with
  | refused _ state absent wsi unsignaled =>
      exact ⟨state, absent, wsi, unsignaled, again⟩
  | uncalled before _ _ _ _ =>
      rcases before with before | before <;> simp [before] at call
  | listed added _ _ _ _ | shaking added _ _ _ _ _ | spent added _ _ _ =>
      exact absurd added early
  | up up _ => exact absurd up.added early

theorem Rest.idle_listed {v : View} (rest : Rest v)
    (waiting : v.pipe.state = .idle) (listed : v.connects = true) :
    v.Added ∧ v.pipe.wsi = .none ∧ v.pipe.closeSignaled = false := by
  cases rest with
  | listed added _ _ wsi unsignaled => exact ⟨added, wsi, unsignaled⟩
  | uncalled _ _ absent _ _ => simp [listed] at absent
  | refused _ _ absent _ _ => simp [listed] at absent
  | shaking _ state _ _ _ _ => simp [waiting] at state
  | up up _ => simpa [waiting] using up.state
  | spent _ state _ _ => simp [waiting] at state

theorem Rest.handshaking {v : View} (rest : Rest v)
    (handshaking : v.pipe.wsi = .handshaking) :
    v.Added ∧ v.pipe.state = .connecting ∧ v.connects = true ∧
      v.pipe.pwsi = true ∧ v.pipe.closeSignaled = false := by
  cases rest with
  | shaking added state listed stored _ unsignaled =>
      exact ⟨added, state, listed, stored, unsignaled⟩
  | uncalled _ _ _ wsi _ | refused _ _ _ wsi _ | listed _ _ _ wsi _ =>
      simp [handshaking] at wsi
  | up _ wsi => simp [View.Open, handshaking] at wsi
  | spent _ _ wsi _ => simp [handshaking] at wsi

theorem Rest.open {v : View} (rest : Rest v) (open' : v.Open) : Up v := by
  cases rest with
  | up up _ => exact up
  | uncalled _ _ _ wsi _ | refused _ _ _ wsi _ | listed _ _ _ wsi _
  | shaking _ _ _ _ wsi _ => simp [View.Open, wsi] at open'
  | spent _ _ wsi _ =>
      rcases wsi with wsi | wsi <;> simp [View.Open, wsi] at open'

theorem Rest.running {v : View} (rest : Rest v)
    (state : v.pipe.state = .connected ∨ v.pipe.state = .disconnecting) :
    Up v ∧ v.Open := by
  cases rest with
  | up up wsi => exact ⟨up, wsi⟩
  | uncalled _ other _ _ _ | refused _ other _ _ _ | listed _ other _ _ _
  | shaking _ other _ _ _ _ => simp [other] at state
  | spent _ other _ _ =>
      rcases other with other | other <;> simp [other] at state

/-- Only a pipe whose failure is told, or was, can be FAILED and in the list. -/
theorem Stands.purged {v : View} {role : Role} (stands : Stands v role)
    (listed : v.connects = true) (failed : v.pipe.state = .failed) :
    Stands { v with connects := false } role := by
  have rests : Rest v → Rest { v with connects := false } := by
    intro rest
    cases rest with
    | spent added state wsi signaled => exact .spent added state wsi signaled
    | refused _ _ absent _ _ => simp [listed] at absent
    | uncalled _ state _ _ _ | listed _ state _ _ _
    | shaking _ state _ _ _ _ => simp [failed] at state
    | up up _ => simpa [failed] using up.state
  have never : ¬ Up v := by
    intro up
    simpa [failed] using up.state
  cases role with
  | away | metadata _ => exact rests stands
  | picked | connectNull =>
      have state := stands.state
      simp [failed] at state
  | failing stage =>
      cases stage with
      | store =>
          have state := stands.state
          simp [failed] at state
      | notify | signal =>
          exact ⟨stands.added, failed, stands.wsi, stands.unsignaled⟩
  | loop | writeable _ => exact absurd stands.1 never
  | established stage =>
      cases stage with
      | adopt =>
          have state := stands.state
          simp [failed] at state
      | close | closing _ | graceful | shutdown _ | notify =>
          exact absurd stands.1 never
  | closed stage =>
      cases stage with
      | signal =>
          have state := stands.state
          simp [failed] at state
      | gracefully | dropped | store => exact absurd stands.1 never

/-- A pipe whose handshake lws is conducting is in the list, with its wsi. -/
theorem Stands.handshaking {v : View} {role : Role} (stands : Stands v role)
    (handshaking : v.pipe.wsi = .handshaking) :
    v.connects = true ∧ v.pipe.state = .connecting ∧ v.pipe.pwsi = true := by
  have shut : ¬ v.Open := by simp [View.Open, handshaking]
  cases role with
  | away | metadata _ =>
      obtain ⟨_, state, listed, stored, _⟩ :=
        Rest.handshaking stands handshaking
      exact ⟨listed, state, stored⟩
  | picked | connectNull =>
      have wsi := stands.wsi
      simp [handshaking] at wsi
  | failing stage =>
      cases stage with
      | store | notify | signal =>
          have wsi := stands.wsi
          simp [handshaking] at wsi
  | loop | writeable _ => exact absurd stands.2 shut
  | established stage =>
      cases stage with
      | adopt =>
          have wsi := stands.wsi
          simp [handshaking] at wsi
      | close | closing _ | graceful | shutdown _ | notify =>
          exact absurd stands.2 shut
  | closed stage =>
      cases stage with
      | signal =>
          have wsi := stands.wsi
          simp [handshaking] at wsi
      | gracefully | dropped | store =>
          have wsi := stands.2
          simp [handshaking] at wsi

/-- A step of a thread other than the service thread leaves the pipe where it
stands. -/
theorem Stands.kept {v v' : View} (stands : Stands v v.role)
    (keeps : Keeps v v') (role : v'.role = v.role) : Stands v' v'.role := by
  rw [role]
  exact keeps.stands stands

theorem Local.stands {variant : Variant} {v v' : View}
    {happenings : List Happening} (change : Local variant v happenings v')
    (stands : Stands v v.role) (owned : Owned v) : Stands v' v'.role := by
  cases change with
  | still | scanned _ _ | header _ _ _ | passedOver _ _ _ _ | receives _ _ _ =>
      exact stands
  | enters uncalled =>
      obtain ⟨state, absent, wsi, unsignaled, again⟩ :=
        stands.uncalled (.inl uncalled)
      exact again (.uncalled (.inr rfl) state absent wsi unsignaled)
  | pushes entered =>
      obtain ⟨state, _, wsi, unsignaled, again⟩ :=
        stands.uncalled (.inr entered)
      exact again (.listed (.inl rfl) state rfl wsi unsignaled)
  | refuses entered =>
      obtain ⟨_, absent, wsi, unsignaled, again⟩ :=
        stands.uncalled (.inr entered)
      exact again (.refused (.inl rfl) rfl absent wsi unsignaled)
  | refusalNotified call =>
      obtain ⟨state, absent, wsi, unsignaled, again⟩ :=
        stands.refused (.inl call)
      exact again (.refused (.inr rfl) state absent wsi unsignaled)
  | refusalSignaled call =>
      obtain ⟨state, _, wsi, _, again⟩ := stands.refused (.inr call)
      exact again (.spent (.inr rfl) (.inl state) (.inl wsi) rfl)
  | connectReturns call =>
      exact stands.kept ⟨.inl rfl, .inr ⟨call, rfl⟩, rfl, rfl, rfl, rfl, rfl,
        rfl, id⟩ rfl
  | calls _ _ | reaped _ | waited _ _ | fromDisconnects _ | fromWrites _ =>
      exact stands.kept ⟨.inl rfl, .inl rfl, rfl, rfl, rfl, rfl, rfl, rfl, id⟩
        rfl
  | protocolInit =>
      exact stands.kept ⟨.inl rfl, .inl rfl, rfl, rfl, rfl, rfl, rfl, rfl,
        fun _ => rfl⟩ rfl
  | dropped pending _ _ _ =>
      cases pending with
      | disconnects | writes =>
          exact stands.kept ⟨.inl rfl, .inl rfl, rfl, rfl, rfl, rfl, rfl, rfl,
            id⟩ rfl
  | advances _ runs | reaperAdvances _ runs =>
      exact stands.kept ((stepCode_effect runs).1.keeps _ v.role _)
        (push_role _ _)
  -- the close is signalled before the pipe leaves pendingConnects
  | fromConnects stage =>
      have signaled := owned.signaled (by simp [stage, Owner.stage])
      obtain ⟨rest, again⟩ := stands.signaled signaled
      cases rest with
      | spent added state wsi _ => exact again (.spent added state wsi signaled)
      | uncalled _ _ _ _ unsignaled | refused _ _ _ _ unsignaled
      | listed _ _ _ _ unsignaled | shaking _ _ _ _ _ unsignaled =>
          simp [signaled] at unsignaled
      | up up _ => simpa [signaled] using up.unsignaled
  | purged _ listed failed => exact stands.purged listed failed
  | adopts _ ready away listed waiting =>
      rw [away] at stands
      obtain ⟨added, wsi, unsignaled⟩ := Rest.idle_listed stands waiting listed
      exact ⟨added, rfl, listed, wsi, unsignaled, ready⟩
  | stray handshaking lost => exact absurd (stands.handshaking handshaking) lost
  | established _ ready away handshaking _ connecting =>
      rw [away] at stands
      obtain ⟨added, _, _, _, unsignaled⟩ :=
        Rest.handshaking stands handshaking
      exact ⟨added, connecting, rfl, unsignaled, ready⟩
  | connectionError _ away handshaking _ connecting =>
      rw [away] at stands
      obtain ⟨added, _, _, _, unsignaled⟩ :=
        Rest.handshaking stands handshaking
      exact ⟨added, connecting, .inr rfl, unsignaled⟩
  | closes away open' _ =>
      rw [away] at stands
      have up := Rest.open stands open'
      exact ⟨⟨up.added, up.state, up.vhd, up.adopted, up.unsignaled⟩, rfl⟩
  | closesStray away open' unadopted =>
      rw [away] at stands
      have up := Rest.open stands open'
      simpa [unadopted] using up.adopted
  | becomesWriteable away open' _ =>
      rw [away] at stands
      have up := Rest.open stands (.inl open')
      exact ⟨⟨up.added, up.state, up.vhd, up.adopted, up.unsignaled⟩,
        .inl open'⟩
  | dials picked =>
      rw [picked] at stands
      exact .shaking stands.added rfl stands.listed rfl rfl stands.unsignaled
  | dialFails picked =>
      rw [picked] at stands
      exact ⟨stands.added, rfl, .inl stands.wsi, stands.unsignaled⟩
  | dialErrors _ picked _ =>
      rw [picked] at stands
      exact ⟨stands.added, rfl, stands.listed, stands.wsi, stands.unsignaled,
        stands.ready⟩
  | connectNull null =>
      rw [null] at stands
      exact ⟨stands.added, stands.state, .inl stands.wsi, stands.unsignaled⟩
  | failureStored failing =>
      rw [failing] at stands
      exact ⟨stands.added, rfl, stands.wsi, stands.unsignaled⟩
  | failureNotified failing =>
      rw [failing] at stands
      exact ⟨stands.added, stands.state, stands.wsi, stands.unsignaled⟩
  | failureSignaled failing =>
      rw [failing] at stands
      exact .spent stands.added (.inl stands.state) stands.wsi rfl
  | taken pending _ away _ set wanted =>
      rw [away] at stands
      cases pending with
      | disconnects =>
          obtain ⟨up, open'⟩ := Rest.running stands (.inr wanted)
          exact ⟨⟨up.added, up.state, set, up.adopted, up.unsignaled⟩, open'⟩
      | writes =>
          obtain ⟨up, open'⟩ := Rest.running stands (.inl wanted)
          exact ⟨⟨up.added, up.state, set, up.adopted, up.unsignaled⟩, open'⟩
  | requests loop after =>
      rw [loop] at stands
      obtain ⟨⟨added, state, vhd, adopted, unsignaled⟩, open'⟩ := stands
      rcases after with rfl | rfl
      · exact ⟨⟨added, state, vhd, adopted, unsignaled⟩, open'⟩
      · exact .up ⟨added, state, vhd, adopted, unsignaled⟩ open'
  | connected adopt check =>
      rw [adopt] at stands
      rcases check with rfl | rfl
      · exact ⟨⟨stands.added, .inl rfl, stands.ready, rfl, stands.unsignaled⟩,
          .inl stands.wsi⟩
      · exact ⟨⟨stands.added, .inl rfl, stands.ready, rfl, stands.unsignaled⟩,
          .inl stands.wsi⟩
  | completes running check after =>
      rw [running] at stands
      have up : Up v ∧ v.Open := by
        rcases check with rfl | rfl <;> exact stands
      obtain ⟨⟨added, state, vhd, adopted, unsignaled⟩, open'⟩ := up
      rcases after with rfl | rfl | rfl | rfl
      all_goals exact ⟨⟨added, state, vhd, adopted, unsignaled⟩, open'⟩
  | @establishedAdvances stage code ok pipe next pending _ after running within
      runs goes =>
      rw [running] at stands
      have up : Up v ∧ v.Open := by
        rcases within with rfl | rfl <;> exact stands
      have keeps := (stepCode_effect runs).1.keeps pipe.owner
        (.established after) pending
      rw [push_role]
      have up' := And.intro (keeps.up up.1) (keeps.open up.2)
      rcases goes with ⟨_, _, rfl | rfl⟩ | rfl | rfl
      all_goals exact up'
  | announces notify =>
      rw [notify] at stands
      obtain ⟨⟨added, state, vhd, adopted, unsignaled⟩, open'⟩ := stands
      exact .up ⟨added, state, vhd, adopted, unsignaled⟩ open'
  | locks away _ =>
      rw [away] at stands
      have keeps : Keeps v { v with
          pipe := { v.pipe with owner := .callback }
          role := .metadata .bufferCheck } :=
        ⟨.inl rfl, .inl rfl, rfl, rfl, rfl, rfl, rfl, rfl, id⟩
      exact keeps.rest stands
  | @borrows code ok pipe next pending _ running runs =>
      rw [running] at stands
      rw [push_role]
      cases next with
      | none =>
          exact ((stepCode_effect runs).1.keeps _ _ _).rest stands
      | some code =>
          exact ((stepCode_effect runs).1.keeps _ _ _).rest stands
  | endTold running check _ after =>
      rw [running] at stands
      have up : Up v ∧ v.pipe.wsi = .freed := by
        rcases check with rfl | rfl <;> exact stands
      obtain ⟨⟨added, state, vhd, adopted, unsignaled⟩, freed⟩ := up
      subst after
      exact ⟨⟨added, state, vhd, adopted, unsignaled⟩, freed⟩
  | endChecked running check after =>
      rw [running] at stands
      have up : Up v ∧ v.pipe.wsi = .freed := by
        rcases check with rfl | rfl <;> exact stands
      obtain ⟨⟨added, state, vhd, adopted, unsignaled⟩, freed⟩ := up
      rcases after with rfl | rfl
      all_goals exact ⟨⟨added, state, vhd, adopted, unsignaled⟩, freed⟩
  | endStored running =>
      rw [running] at stands
      exact ⟨stands.1.added, rfl, stands.2, stands.1.unsignaled⟩
  | endSignaled running =>
      rw [running] at stands
      exact .spent stands.added (.inr stands.state) (.inr stands.wsi) rfl
  | @writes stage _ role text audio wsi running after _ kept =>
      rw [running] at stands
      obtain ⟨⟨added, state, vhd, adopted, unsignaled⟩, open'⟩ := stands
      have still : wsi = .opened ∨ wsi = .closing := by
        rcases kept with rfl | rfl
        · exact open'
        · exact .inr rfl
      rcases after with rfl | ⟨_, rfl⟩
      · exact .up ⟨added, state, vhd, adopted, unsignaled⟩ still
      · exact ⟨⟨added, state, vhd, adopted, unsignaled⟩, still⟩

theorem Owned.of_early {v : View} (early : v.pipe.owner.stage = 0)
    (borrowed : ∀ code, v.role = .metadata code → v.pipe.owner = .callback) :
    Owned v := by
  refine ⟨?_, ?_, ?_, ?_, borrowed⟩
  all_goals
    intro later
    omega

theorem Owned.mono {v v' : View} (owned : Owned v)
    (owner : v'.pipe.owner = v.pipe.owner)
    (signaled : v.pipe.closeSignaled = true → v'.pipe.closeSignaled = true)
    (connects : v'.connects = true → v.connects = true)
    (disconnects : v'.disconnects = true → v.disconnects = true)
    (writes : v'.writes = true → v.writes = true)
    (borrowed : ∀ code, v'.role = .metadata code → v.role = .metadata code) :
    Owned v' := by
  have absent : ∀ {flag flag' : Bool}, (flag' = true → flag = true) →
      flag = false → flag' = false := by
    intro flag flag' sub none
    cases flag' with
    | false => rfl
    | true => exact absurd (sub rfl) (by simp [none])
  constructor
  · rw [owner]
    exact fun later => signaled (owned.signaled later)
  · rw [owner]
    exact fun later => absent connects (owned.connects later)
  · rw [owner]
    exact fun later => absent disconnects (owned.disconnects later)
  · rw [owner]
    exact fun later => absent writes (owned.writes later)
  · intro code role
    rw [owner]
    exact owned.borrowed code (borrowed code role)

theorem Owned.turn {v v' : View} (owned : Owned v)
    (owner : v'.pipe.owner = v.pipe.owner)
    (signaled : v.pipe.closeSignaled = true → v'.pipe.closeSignaled = true)
    (connects : v'.connects = true → v.connects = true)
    (disconnects : v'.disconnects = true → v.disconnects = true)
    (writes : v'.writes = true → v.writes = true)
    (elsewhere : ∀ code, v'.role ≠ .metadata code) : Owned v' :=
  owned.mono owner signaled connects disconnects writes
    fun code role => absurd role (elsewhere code)

theorem Owned.elsewhere {v : View} (owned : Owned v)
    (owner : v.pipe.owner ≠ .callback) (code : Code) :
    v.role ≠ .metadata code := by
  intro role
  exact owner (owned.borrowed code role)

theorem Local.owned {variant : Variant} {v v' : View}
    {happenings : List Happening} (change : Local variant v happenings v')
    (stands : Stands v v.role) (owned : Owned v) : Owned v' := by
  cases change with
  | still | scanned _ _ | header _ _ _ | passedOver _ _ _ _ | receives _ _ _ =>
      exact owned
  | enters _ | refuses _ | refusalNotified _ | connectReturns _
  | protocolInit =>
      exact owned.mono rfl id id id id fun _ => id
  | refusalSignaled _ =>
      exact owned.mono rfl (fun _ => rfl) id id id fun _ => id
  | purged _ _ _ => exact owned.mono rfl id (by simp) id id fun _ => id
  | dropped pending _ _ _ =>
      cases pending with
      | disconnects =>
          exact owned.mono rfl id id (by simp [View.unlist]) id fun _ => id
      | writes =>
          exact owned.mono rfl id id id (by simp [View.unlist]) fun _ => id
  | pushes entered =>
      obtain ⟨_, _, _, unsignaled, _⟩ := stands.uncalled (.inr entered)
      exact .of_early (owned.kept unsignaled) owned.borrowed
  | calls free _ =>
      refine .of_early rfl fun code role => ?_
      exact absurd role (owned.elsewhere (by simp [free]) code)
  | reaped free =>
      refine .of_early rfl fun code role => ?_
      exact absurd role (owned.elsewhere (by simp [free]) code)
  | advances call _ =>
      refine .of_early (by simp [push_pipe, Owner.stage]) fun code role => ?_
      rw [push_role] at role
      exact absurd role (owned.elsewhere (by simp [call]) code)
  | @reaperAdvances code ok pipe next pending _ closing _ =>
      refine .of_early ?_ fun code role => ?_
      · rw [push_pipe]
        cases next <;> rfl
      · rw [push_role] at role
        exact absurd role (owned.elsewhere (by simp [closing]) code)
  | waited waiting signaled =>
      have elsewhere := owned.elsewhere (by simp [waiting])
      exact ⟨fun _ => signaled, by simp [Owner.stage], by simp [Owner.stage],
        by simp [Owner.stage], fun code role => absurd role (elsewhere code)⟩
  | fromConnects stage =>
      have elsewhere := owned.elsewhere (by simp [stage])
      have signaled := owned.signaled (by simp [stage, Owner.stage])
      exact ⟨fun _ => signaled, fun _ => rfl, by simp [Owner.stage],
        by simp [Owner.stage], fun code role => absurd role (elsewhere code)⟩
  | fromDisconnects stage =>
      have elsewhere := owned.elsewhere (by simp [stage])
      have signaled := owned.signaled (by simp [stage, Owner.stage])
      have connects := owned.connects (by simp [stage, Owner.stage])
      exact ⟨fun _ => signaled, fun _ => connects, fun _ => rfl,
        by simp [Owner.stage], fun code role => absurd role (elsewhere code)⟩
  | fromWrites stage =>
      have elsewhere := owned.elsewhere (by simp [stage])
      have signaled := owned.signaled (by simp [stage, Owner.stage])
      have connects := owned.connects (by simp [stage, Owner.stage])
      have disconnects := owned.disconnects (by simp [stage, Owner.stage])
      exact ⟨fun _ => signaled, fun _ => connects, fun _ => disconnects,
        fun _ => rfl, fun code role => absurd role (elsewhere code)⟩
  | stray handshaking lost => exact absurd (stands.handshaking handshaking) lost
  | adopts _ _ _ _ _ | closes _ _ _ | becomesWriteable _ _ _ | dials _
  | dialFails _ | dialErrors _ _ _ | connectNull _ | failureStored _
  | failureNotified _ | connected _ _ | completes _ _ _ | announces _
  | endStored _ | endTold _ _ _ _ | endChecked _ _ _ =>
      exact owned.turn rfl id id id id (by simp)
  | closesStray away _ _ =>
      exact owned.turn rfl id id id id (by simp [away])
  | established _ _ _ _ _ _ | connectionError _ _ _ _ _ =>
      exact owned.turn rfl id (by simp) id id (by simp)
  | failureSignaled _ | endSignaled _ =>
      exact owned.turn rfl (fun _ => rfl) id id id (by simp)
  | taken pending _ _ _ _ _ =>
      cases pending with
      | disconnects =>
          exact owned.turn rfl id id (by simp [View.unlist]) id (by simp)
      | writes =>
          exact owned.turn rfl id id id (by simp [View.unlist]) (by simp)
  | requests _ after =>
      rcases after with rfl | rfl
      all_goals exact owned.turn rfl id id id id (by simp)
  | establishedAdvances running within runs _ =>
      rw [running] at stands
      have up : Up v := by
        rcases within with rfl | rfl <;> exact stands.1
      refine .of_early ?_ fun code role => ?_
      · rw [push_pipe, (stepCode_effect runs).1.owner]
        exact owned.kept up.unsignaled
      · rw [push_role] at role
        cases role
  | locks _ _ => exact .of_early rfl fun _ _ => rfl
  | @borrows code ok pipe next pending _ _ _ =>
      refine .of_early ?_ fun code role => ?_
      · rw [push_pipe]
        cases next <;> rfl
      · rw [push_role] at role
        rw [push_pipe]
        cases next with
        | none => cases role
        | some code => rfl
  | writes _ after _ _ =>
      rcases after with rfl | ⟨_, rfl⟩
      all_goals exact owned.turn rfl id id id id (by simp)

theorem fresh_view (n : Nat) :
    State.fresh.view n =
      { pipe := .fresh, connects := false, disconnects := false
        writes := false, vhost := false, role := .away } := rfl

theorem fresh_stands (n : Nat) :
    Stands (State.fresh.view n) (State.fresh.view n).role := by
  rw [fresh_view]
  exact Rest.uncalled (.inl rfl) rfl rfl rfl rfl

theorem fresh_owned (n : Nat) : Owned (State.fresh.view n) := by
  rw [fresh_view]
  exact .of_early rfl fun _ role => by cases role

end DrachtioModules.Pipes

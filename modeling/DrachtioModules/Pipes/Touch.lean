import DrachtioModules.Pipes.Standing

/-!
# What the service thread does to a pipe after its close is signalled

It lets go of the pipe.  It may still read it in a pending list, under the
list's mutex, or in its session, under the session's, since `~AudioPipe` takes
the pipe out of the lists before it is freed.
-/

namespace DrachtioModules.Pipes

open AudioFork (Bytes LwsState NotifyEvent Wsi ConnectCall FailStage)

/-- The service thread reads or writes the pipe. -/
def Happening.uses : Happening → Bool
  | .touched | .scanned | .borrowed => true
  | _ => false

/-- The service thread leaves a pipe alone once its close is signalled, unless
it finds it in a list or in its session, and entirely once it is deleted. -/
structure LeftAlone (trace : List Event) : Prop where
  signaled : trace.Pairwise fun earlier later => earlier.1 = later.1 →
    earlier.2 = .signaled → later.2 ≠ .touched
  deleted : trace.Pairwise fun earlier later => earlier.1 = later.1 →
    earlier.2 = .deleted → later.2.uses = false
  failures : ∀ n, trace.count (n, .notified .connectFail) ≤ 1

/-- The service thread neither reads nor writes a pipe whose close is
signalled. -/
structure Untouched (trace : List Event) : Prop where
  signaled : trace.Pairwise fun earlier later => earlier.1 = later.1 →
    earlier.2 = .signaled → later.2.uses = false
  failures : ∀ n, trace.count (n, .notified .connectFail) ≤ 1

/-- CONNECT_FAIL has been given. -/
def View.Failed (v : View) : Prop :=
  v.pipe.closeSignaled = true ∨ v.role = .failing .signal ∨
    v.pipe.connectCall = .signal

/-- What a step does and what the pipe shows of it afterwards. -/
structure Shows (v : View) (new : List Happening) (v' : View) : Prop where
  touched : .touched ∈ new → v.pipe.closeSignaled = false
  last : new.Pairwise fun earlier later =>
    earlier = .signaled → later ≠ .touched
  used : ∀ happening ∈ new, happening.uses = true →
    v.pipe.owner.stage ≠ 4
  alone : .deleted ∈ new → new = [.deleted]
  failures : new.count (.notified .connectFail) ≤ 1
  fails : .notified .connectFail ∈ new → ¬ v.Failed
  signaled : .signaled ∈ new ∨ v.pipe.closeSignaled = true →
    v'.pipe.closeSignaled = true
  deleted : .deleted ∈ new ∨ v.pipe.owner.stage = 4 →
    v'.pipe.owner.stage = 4
  failed : .notified .connectFail ∈ new ∨ v.Failed → v'.Failed

/-- What the pipe shows from then on. -/
def Happening.mark : Happening → Bool
  | .signaled | .deleted | .notified .connectFail => true
  | _ => false

theorem Happening.mark_notified {event : NotifyEvent}
    (other : event ≠ .connectFail) :
    (Happening.notified event).mark = false := by
  cases event with
  | connectFail => exact absurd rfl other
  | _ => rfl

/-- A step that leaves no mark. -/
structure Unmarked (v : View) (new : List Happening) (v' : View) : Prop where
  unmarked : ∀ happening ∈ new, happening.mark = false
  touched : .touched ∈ new → v.pipe.closeSignaled = false
  used : ∀ happening ∈ new, happening.uses = true →
    v.pipe.owner.stage ≠ 4
  signaled : v.pipe.closeSignaled = true → v'.pipe.closeSignaled = true
  deleted : v.pipe.owner.stage = 4 → v'.pipe.owner.stage = 4
  call : v.pipe.connectCall = .signal → v'.pipe.connectCall = .signal
  role : v.role = .failing .signal → v'.role = .failing .signal

theorem pairwise_of_absent {ε : Type} {mark : ε} {list : List ε}
    {allowed : ε → Prop} (absent : mark ∉ list) :
    list.Pairwise fun earlier later => earlier = mark → allowed later := by
  induction list with
  | nil => exact .nil
  | cons event list ih =>
      simp only [List.mem_cons, not_or] at absent
      refine .cons (fun later _ same => ?_) (ih absent.2)
      exact absurd same.symm absent.1

theorem Unmarked.shows {v v' : View} {new : List Happening}
    (step : Unmarked v new v') : Shows v new v' := by
  have absent : ∀ {happening : Happening}, happening.mark = true →
      happening ∉ new := by
    intro happening mark member
    simp [step.unmarked happening member] at mark
  refine ⟨step.touched, ?_, step.used, fun member => ?_, ?_, fun member => ?_,
    ?_, ?_, ?_⟩
  · exact pairwise_of_absent (absent rfl)
  · exact absurd member (absent rfl)
  · rw [List.count_eq_zero_of_not_mem (absent rfl)]
    exact Nat.zero_le 1
  · exact absurd member (absent rfl)
  · rintro (member | before)
    · exact absurd member (absent rfl)
    · exact step.signaled before
  · rintro (member | before)
    · exact absurd member (absent rfl)
    · exact step.deleted before
  · rintro (member | before)
    · exact absurd member (absent rfl)
    · rcases before with signaled | failing | call
      · exact .inl (step.signaled signaled)
      · exact .inr (.inl (step.role failing))
      · exact .inr (.inr (step.call call))

theorem Happening.of_inCode {happening : Happening}
    (code : happening.inCode = true) :
    ∃ present, happening = .dereferenced present := by
  cases happening with
  | dereferenced present => exact ⟨present, rfl⟩
  | _ => cases code

theorem Unmarked.of_code {v v' : View} {new : List Happening}
    (only : ∀ happening ∈ new, happening.inCode = true)
    (signaled : v'.pipe.closeSignaled = v.pipe.closeSignaled)
    (deleted : v.pipe.owner.stage = 4 → v'.pipe.owner.stage = 4)
    (call : v.pipe.connectCall = .signal → v'.pipe.connectCall = .signal)
    (role : v.role = .failing .signal → v'.role = .failing .signal) :
    Unmarked v new v' := by
  refine ⟨fun happening member => ?_, fun member => ?_,
    fun happening member uses => ?_, signaled.trans, deleted, call, role⟩
  · obtain ⟨_, rfl⟩ := Happening.of_inCode (only happening member)
    rfl
  · cases only _ member
  · obtain ⟨_, rfl⟩ := Happening.of_inCode (only happening member)
    cases uses

theorem Unmarked.of_unsignaled {v v' : View} {new : List Happening}
    (owned : Owned v) (unsignaled : v.pipe.closeSignaled = false)
    (unmarked : ∀ happening ∈ new, happening.mark = false)
    (call : v'.pipe.connectCall = v.pipe.connectCall)
    (role : v.role = .failing .signal → v'.role = .failing .signal) :
    Unmarked v new v' := by
  have early := owned.kept unsignaled
  refine ⟨unmarked, fun _ => unsignaled, fun _ _ _ => ?_, fun signaled => ?_,
    fun deleted => ?_, call.trans, role⟩
  · omega
  · simp [unsignaled] at signaled
  · omega

/-- A listed pipe is not deleted. -/
theorem Owned.present {v : View} (owned : Owned v)
    (listed : v.connects = true ∨ ∃ pending, v.listed pending = true) :
    v.pipe.owner.stage ≠ 4 := by
  intro deleted
  rcases listed with listed | ⟨pending, listed⟩
  · simp [owned.connects (by omega)] at listed
  · cases pending with
    | disconnects =>
        have absent := owned.disconnects (by omega)
        simp [View.listed, absent] at listed
    | writes =>
        have absent := owned.writes (by omega)
        simp [View.listed, absent] at listed

/-- The service thread reads a listed pipe. -/
theorem Unmarked.of_scans {v v' : View} {new : List Happening}
    (only : ∀ happening ∈ new,
      happening = .scanned ∨ happening = .dereferenced v.vhost)
    (present : new ≠ [] → v.pipe.owner.stage ≠ 4)
    (same : v'.pipe = v.pipe)
    (role : v.role = .failing .signal → v'.role = .failing .signal) :
    Unmarked v new v' := by
  refine ⟨fun happening member => ?_, fun member => ?_,
    fun happening member _ => present (List.ne_nil_of_mem member),
    fun signaled => ?_, fun deleted => ?_, fun call => ?_, role⟩
  · rcases only happening member with rfl | rfl <;> rfl
  · rcases only _ member with other | other <;> cases other
  · rw [same]
    exact signaled
  · rw [same]
    exact deleted
  · rw [same]
    exact call

theorem Local.shows {variant : Variant} {v v' : View} {new : List Happening}
    (change : Local variant v new v') (stands : Stands v v.role)
    (owned : Owned v) : Shows v new v' := by
  have quiet : ∀ happening ∈ ([] : List Happening), happening.inCode = true :=
    by simp
  have touched : ∀ happening ∈ [Happening.touched], happening.mark = false :=
    by simp [Happening.mark]
  cases change with
  | still | protocolInit =>
      exact Unmarked.shows (.of_code quiet rfl id id id)
  | enters uncalled =>
      exact Unmarked.shows (.of_code quiet rfl id (by simp [uncalled]) id)
  | pushes entered | refuses entered =>
      exact Unmarked.shows (.of_code quiet rfl id (by simp [entered]) id)
  | connectReturns call =>
      exact Unmarked.shows (.of_code quiet rfl id (by simp [call]) id)
  | refusalNotified call =>
      obtain ⟨_, _, _, unsignaled, _⟩ := stands.refused (.inl call)
      have later : v.role ≠ .failing .signal := by
        intro failing
        rw [failing] at stands
        simpa [View.Added, call] using stands.added
      refine ⟨by simp, by simp, by simp [Happening.uses], by simp, by simp, ?_,
        by simp, by simp, fun _ => .inr (.inr rfl)⟩
      rintro _ (signaled | failing | signal)
      · simp [unsignaled] at signaled
      · exact later failing
      · simp [call] at signal
  | refusalSignaled call =>
      exact ⟨by simp, by simp, by simp [Happening.uses], by simp, by simp,
        by simp, fun _ => rfl, by simp, fun _ => .inl rfl⟩
  | calls free _ | reaped free =>
      exact Unmarked.shows (.of_code quiet rfl (by simp [free, Owner.stage]) id
        id)
  | waited stage _ | fromConnects stage | fromDisconnects stage =>
      exact Unmarked.shows (.of_code quiet rfl (by simp [stage, Owner.stage]) id
        id)
  | fromWrites stage =>
      refine ⟨by simp, by simp, by simp [Happening.uses], by simp, by simp,
        by simp, by simp, fun _ => rfl, ?_⟩
      rintro (other | before)
      · simp at other
      · exact before
  | advances call runs =>
      obtain ⟨effect, only⟩ := stepCode_effect runs
      refine Unmarked.shows (.of_code only ?_ ?_ ?_ ?_)
      · rw [push_pipe]
        exact effect.closeSignaled
      · simp [call, Owner.stage]
      · rw [push_pipe]
        exact effect.connectCall.trans
      · rw [push_role]
        exact id
  | reaperAdvances closing runs =>
      obtain ⟨effect, only⟩ := stepCode_effect runs
      refine Unmarked.shows (.of_code only ?_ ?_ ?_ ?_)
      · rw [push_pipe]
        exact effect.closeSignaled
      · simp [closing, Owner.stage]
      · rw [push_pipe]
        exact effect.connectCall.trans
      · rw [push_role]
        exact id
  | scanned only listed =>
      exact Unmarked.shows (.of_scans (fun _ member => .inl (only _ member))
        (fun some => owned.present (.inl (listed some))) rfl id)
  | purged only listed _ =>
      exact Unmarked.shows (.of_scans (fun _ member => .inl (only _ member))
        (fun _ => owned.present (.inl listed)) rfl id)
  | passedOver pending only listed _ =>
      exact Unmarked.shows (.of_scans (fun _ member => .inl (only _ member))
        (fun _ => owned.present (.inr ⟨pending, listed⟩)) rfl id)
  | dropped pending only listed _ =>
      have present := owned.present (.inr ⟨pending, listed⟩)
      cases pending with
      | disconnects | writes =>
          exact Unmarked.shows (.of_scans only (fun _ => present) rfl id)
  | taken pending only away listed _ _ =>
      have present := owned.present (.inr ⟨pending, listed⟩)
      cases pending with
      | disconnects | writes =>
          exact Unmarked.shows (.of_scans only (fun _ => present) rfl
            (by simp [away]))
  | stray handshaking lost => exact absurd (stands.handshaking handshaking) lost
  | adopts only _ away listed waiting =>
      rw [away] at stands
      obtain ⟨_, _, unsignaled⟩ := Rest.idle_listed stands waiting listed
      refine Unmarked.shows (.of_unsignaled owned unsignaled ?_ rfl
        (by simp [away]))
      intro happening member
      rw [only happening member]
      rfl
  | header only _ connecting =>
      have unsignaled := stands.connecting connecting
      refine Unmarked.shows (.of_unsignaled owned unsignaled ?_ rfl id)
      intro happening member
      rcases List.mem_append.mp member with scan | own
      · rw [only happening scan]
        rfl
      · exact touched happening own
  | established only _ away handshaking _ _ =>
      rw [away] at stands
      obtain ⟨_, _, _, _, unsignaled⟩ := Rest.handshaking stands handshaking
      refine Unmarked.shows (.of_unsignaled owned unsignaled ?_ rfl
        (by simp [away]))
      intro happening member
      rcases List.mem_append.mp member with scan | own
      · rw [only happening scan]
        rfl
      · rw [List.mem_singleton.mp own]
        rfl
  | connectionError only away handshaking _ _ =>
      rw [away] at stands
      obtain ⟨_, _, _, _, unsignaled⟩ := Rest.handshaking stands handshaking
      refine Unmarked.shows (.of_unsignaled owned unsignaled ?_ rfl
        (by simp [away]))
      intro happening member
      rw [only happening member]
      rfl
  | closes away open' _ | closesStray away open' _ =>
      rw [away] at stands
      have up := Rest.open stands open'
      exact Unmarked.shows (.of_unsignaled owned up.unsignaled
        (by simp [Happening.mark]) rfl (by simp [away]))
  | receives away open' _ | becomesWriteable away open' _ =>
      rw [away] at stands
      have up := Rest.open stands (.inl open')
      exact Unmarked.shows (.of_unsignaled owned up.unsignaled
        (by simp [Happening.mark]) rfl (by simp [away]))
  | dials role | dialFails role =>
      have unsignaled := stands.working (by simp [role]) (by simp [role])
      exact Unmarked.shows (.of_unsignaled owned unsignaled
        (by simp [Happening.mark]) rfl (by simp [role]))
  | dialErrors only role listed =>
      have unsignaled := stands.working (by simp [role]) (by simp [role])
      refine Unmarked.shows (.of_unsignaled owned unsignaled ?_ rfl
        (by simp [role]))
      intro happening member
      rcases List.mem_append.mp member with own | scan
      · revert own
        simp only [List.mem_cons, List.not_mem_nil, or_false]
        rintro (rfl | rfl) <;> rfl
      · rw [only happening scan]
        rfl
  | connectNull role | failureStored role | endStored role =>
      have unsignaled := stands.working (by simp [role]) (by simp [role])
      exact Unmarked.shows (.of_unsignaled owned unsignaled touched rfl
        (by simp [role]))
  | failureNotified role =>
      have unsignaled := stands.working (by simp [role]) (by simp [role])
      have early := owned.kept unsignaled
      rw [role] at stands
      have added : v.pipe.connectCall ≠ .signal := by
        rcases stands.added with call | call <;> simp [call]
      refine ⟨fun _ => unsignaled, by simp, by simp [early], by simp, by simp,
        ?_, by simp, by simp, fun _ => .inr (.inl rfl)⟩
      rintro _ (signaled | failing | signal)
      · simp [unsignaled] at signaled
      · simp [role] at failing
      · exact added signal
  | failureSignaled role | endSignaled role =>
      have unsignaled := stands.working (by simp [role]) (by simp [role])
      have early := owned.kept unsignaled
      exact ⟨fun _ => unsignaled, by simp, by simp [early], by simp, by simp,
        by simp, fun _ => rfl, by simp [early], fun _ => .inl rfl⟩
  | requests role after =>
      have unsignaled := stands.working (by simp [role]) (by simp [role])
      exact Unmarked.shows (.of_unsignaled owned unsignaled
        (by simp [Happening.mark]) rfl (by simp [role]))
  | connected role _ | completes role _ _ =>
      have unsignaled := stands.working (by simp [role]) (by simp [role])
      exact Unmarked.shows (.of_unsignaled owned unsignaled touched rfl
        (by simp [role]))
  | establishedAdvances role within runs goes =>
      have unsignaled := stands.working (by simp [role]) (by simp [role])
      obtain ⟨effect, only⟩ := stepCode_effect runs
      refine Unmarked.shows (.of_unsignaled owned unsignaled ?_ ?_
        (by simp [role]))
      · intro happening member
        rcases List.mem_cons.mp member with rfl | code
        · rfl
        · obtain ⟨_, rfl⟩ := Happening.of_inCode (only happening code)
          rfl
      · rw [push_pipe]
        exact effect.connectCall
  | announces role =>
      have unsignaled := stands.working (by simp [role]) (by simp [role])
      exact Unmarked.shows (.of_unsignaled owned unsignaled
        (by simp [Happening.mark]) rfl (by simp [role]))
  | endTold role _ told _ =>
      have unsignaled := stands.working (by simp [role]) (by simp [role])
      refine Unmarked.shows (.of_unsignaled owned unsignaled ?_ rfl
        (by simp [role]))
      simp only [List.mem_cons, List.not_mem_nil, or_false]
      rintro _ (rfl | rfl)
      · rfl
      · exact Happening.mark_notified told
  | endChecked role _ _ =>
      have unsignaled := stands.working (by simp [role]) (by simp [role])
      exact Unmarked.shows (.of_unsignaled owned unsignaled touched rfl
        (by simp [role]))
  | locks away free =>
      exact Unmarked.shows (.of_code quiet rfl (by simp [free, Owner.stage]) id
        (by simp [away]))
  | borrows role runs =>
      obtain ⟨effect, only⟩ := stepCode_effect runs
      have early : v.pipe.owner.stage = 0 := by
        rw [owned.borrowed _ role]
        rfl
      refine Unmarked.shows ⟨?_, ?_, fun _ _ _ => by omega, ?_, ?_, ?_,
        by simp [role]⟩
      · intro happening member
        rcases List.mem_cons.mp member with rfl | code
        · rfl
        · obtain ⟨_, rfl⟩ := Happening.of_inCode (only happening code)
          rfl
      · intro member
        rcases List.mem_cons.mp member with other | code
        · cases other
        · cases only _ code
      · rw [push_pipe]
        exact effect.closeSignaled.trans
      · omega
      · rw [push_pipe]
        exact effect.connectCall.trans
  | writes role after asked _ =>
      have unsignaled := stands.working (by simp [role]) (by simp [role])
      refine Unmarked.shows (.of_unsignaled owned unsignaled ?_ rfl
        (by simp [role]))
      rcases asked with rfl | rfl
      · exact touched
      · simp [Happening.mark]

/-- What has happened to a pipe, and what it shows of it. -/
structure History (trace : List Happening) (v : View) : Prop where
  signaled : .signaled ∈ trace → v.pipe.closeSignaled = true
  deleted : .deleted ∈ trace → v.pipe.owner.stage = 4
  failed : .notified .connectFail ∈ trace → v.Failed
  released : trace.Pairwise fun earlier later =>
    earlier = .signaled → later ≠ .touched
  freed : trace.Pairwise fun earlier later =>
    earlier = .deleted → later.uses = false
  failures : trace.count (.notified .connectFail) ≤ 1

theorem History.step {trace new : List Happening} {v v' : View}
    (history : History trace v) (step : Shows v new v') :
    History (trace ++ new) v' := by
  constructor
  · exact mem_append_of_shown history.signaled step.signaled
  · exact mem_append_of_shown history.deleted step.deleted
  · exact mem_append_of_shown history.failed step.failed
  · refine pairwise_append_of_shown history.released history.signaled ?_
      step.last
    rintro signaled event member rfl
    simp [step.touched member] at signaled
  · refine pairwise_append_of_shown history.freed history.deleted ?_ ?_
    · intro deleted event member
      by_contra uses
      exact step.used event member (by simpa using uses) deleted
    · by_cases member : .deleted ∈ new
      · rw [step.alone member]
        exact .cons (by simp) .nil
      · exact pairwise_of_absent member
  · exact count_append_of_shown history.failures history.failed step.fails
      step.failures

/-- A property of the happenings at each pipe, in terms of the events. -/
theorem pairwise_of_about {follows : Happening → Happening → Prop}
    {trace : List Event} (each : ∀ n, (about n trace).Pairwise follows) :
    trace.Pairwise fun earlier later =>
      earlier.1 = later.1 → follows earlier.2 later.2 := by
  induction trace with
  | nil => exact .nil
  | cons event trace ih =>
      obtain ⟨k, happening⟩ := event
      refine .cons ?_ (ih fun n => ?_)
      · rintro ⟨n, later⟩ member rfl
        have first := each k
        rw [about_cons_same] at first
        refine (List.pairwise_cons.mp first).1 later ?_
        exact mem_about.mpr member
      · by_cases same : k = n
        · subst same
          have both := each k
          rw [about_cons_same] at both
          exact (List.pairwise_cons.mp both).2
        · rw [← about_cons_other same happening]
          exact each n

theorem count_about (n : Nat) (happening : Happening) (trace : List Event) :
    trace.count (n, happening) = (about n trace).count happening := by
  induction trace with
  | nil => rfl
  | cons event trace ih =>
      obtain ⟨k, other⟩ := event
      by_cases same : k = n
      · subst same
        by_cases equal : other = happening
        · subst equal
          simp [ih]
        · simp [ih, equal]
      · rw [about_cons_other same, ← ih]
        simp [same]

/-- What the invariants of a whole run say at each pipe. -/
structure Held (trace : List Event) (s : State) : Prop where
  tidy : s.service.Tidy
  stands : ∀ n, Stands (s.view n) (s.service.role n)
  owned : ∀ n, Owned (s.view n)
  history : ∀ n, History (about n trace) (s.view n)

theorem held_fresh : Held [] .fresh := by
  refine ⟨trivial, fresh_stands, fresh_owned, fun n => ?_⟩
  exact ⟨by simp, by simp, by simp, .nil, .nil, by simp⟩

theorem Held.step {variant : Variant} {trace events : List Event}
    {s s' : State} {act : Act} (held : Held trace s)
    (admitted : reportedOnce s act = true)
    (taken : Pipes.step variant s act = some (s', events)) :
    Held (trace ++ events) s' := by
  have change := step_local held.tidy admitted taken
  refine ⟨held.tidy.step admitted taken, fun n => ?_, fun n => ?_,
    fun n => ?_⟩
  · exact (change n).stands (held.stands n) (held.owned n)
  · exact (change n).owned (held.stands n) (held.owned n)
  · rw [about_append]
    exact (held.history n).step
      ((change n).shows (held.stands n) (held.owned n))

theorem Held.leftAlone {trace : List Event} {s : State}
    (held : Held trace s) : LeftAlone trace := by
  constructor
  · exact pairwise_of_about fun n => (held.history n).released
  · exact pairwise_of_about fun n => (held.history n).freed
  · intro n
    rw [count_about]
    exact (held.history n).failures

/-- As long as no failing `lws_client_connect_via_info` has delivered
CONNECTION_ERROR for a wsi it had already stored in the pipe, the service thread
lets go of a pipe with its close, and a failure is told once. -/
theorem let_go_once_signaled {variant : Variant} {labels : List Act}
    {trace : List Event} {finish : State}
    (run : (machine variant).Run reportedOnce (machine variant).initial labels
      trace finish) : LeftAlone trace := by
  have held : Held trace finish :=
    run.induct Held held_fresh fun held admitted taken =>
      held.step admitted taken
  exact held.leftAlone

/-- A connect that lws refuses without a callback: the failure is told, the
close signalled, and the next pass reads the pipe where it still is, in
`pendingConnects`, until the reaper takes it out and deletes it. -/
theorem let_go_of_failed_connect :
    ∃ labels trace finish,
      (machine .audioFork).Run reportedOnce (machine .audioFork).initial labels
          trace finish ∧
        (0, .deleted) ∈ trace ∧ ¬ Untouched trace ∧ LeftAlone trace := by
  let labels : List Act :=
    Act.deliver .protocolInit :: List.replicate 3 (.connect 0 true) ++
      Act.deliver .eventWaitCancelled :: .serve .null true none ::
      List.replicate 6 (.serve .returned true none) ++
      [Act.deliver .eventWaitCancelled, .reap 0] ++
      List.replicate 7 (Act.reaper 0 true)
  have executed : ((machine .audioFork).exec reportedOnce
      (machine .audioFork).initial labels).map (fun outcome =>
        decide ((0, .deleted) ∈ outcome.2 ∧
          ¬ outcome.2.Pairwise fun earlier later => earlier.1 = later.1 →
            earlier.2 = .signaled → later.2.uses = false)) = some true := by
    decide
  obtain ⟨finish, trace, run, seen⟩ := Machine.exists_run_of_exec _ executed
  obtain ⟨deleted, read⟩ := of_decide_eq_true seen
  exact ⟨labels, trace, finish, run, deleted, fun still => read still.signaled,
    let_go_once_signaled run⟩

/-- A pipe that is in `pendingWrites` when its connection ends is read there
after its close is signalled, and one that is still in its session when another
pipe of the session connects is borrowed there.  A connect that fails with
CONNECTION_ERROR before it returns NULL is told a second time, of a pipe the
reaper has deleted. -/
theorem used_after_setClosed :
    (¬ ∀ (variant : Variant) (labels : List Act) (trace : List Event)
        (finish : State),
        (machine variant).Run anyStep (machine variant).initial labels trace
          finish →
        Untouched trace) ∧
      (¬ ∀ (variant : Variant) (labels : List Act) (trace : List Event)
          (finish : State),
        (machine variant).Run reportedOnce (machine variant).initial labels
          trace finish →
        trace.Pairwise fun earlier later => earlier.1 = later.1 →
          earlier.2 = .signaled → later.2 ≠ .borrowed) ∧
      ¬ ∀ (variant : Variant) (labels : List Act) (trace : List Event)
        (finish : State),
        (machine variant).Run anyStep (machine variant).initial labels trace
          finish →
        LeftAlone trace := by
  refine ⟨?_, ?_, ?_⟩
  · intro always
    let serve : Act := .serve .returned true none
    let labels : List Act :=
      Act.deliver .protocolInit :: List.replicate 3 (.connect 0 true) ++
        Act.deliver .eventWaitCancelled :: List.replicate 4 serve ++
        Act.deliver (.established 0) :: List.replicate 4 serve ++
        Act.enter 0 .frame :: List.replicate 3 (.advance 0 true) ++
        Act.deliver (.closed 0) :: List.replicate 4 serve ++
        Act.deliver .eventWaitCancelled :: List.replicate 2 serve
    have executed : ((machine .audioFork).exec anyStep
        (machine .audioFork).initial labels).map (fun outcome =>
          decide (¬ outcome.2.Pairwise fun earlier later =>
            earlier.1 = later.1 → earlier.2 = .signaled →
              later.2.uses = false)) = some true := by
      decide
    obtain ⟨finish, trace, run, seen⟩ := Machine.exists_run_of_exec _ executed
    exact of_decide_eq_true seen (always _ labels trace finish run).signaled
  · intro always
    let labels : List Act :=
      Act.deliver .protocolInit :: List.replicate 3 (.connect 0 true) ++
        List.replicate 3 (.connect 1 true) ++
        Act.deliver .eventWaitCancelled :: .serve .returned true none ::
        .serve .null true none ::
        List.replicate 6 (.serve .returned true none) ++
        Act.deliver (.established 0) ::
        List.replicate 6 (.serve .returned true (some 1))
    have executed : ((machine .audioFork).exec reportedOnce
        (machine .audioFork).initial labels).map (fun outcome =>
          decide (¬ outcome.2.Pairwise fun earlier later =>
            earlier.1 = later.1 → earlier.2 = .signaled →
              later.2 ≠ .borrowed)) = some true := by
      decide
    obtain ⟨finish, trace, run, seen⟩ := Machine.exists_run_of_exec _ executed
    exact of_decide_eq_true seen (always _ labels trace finish run)
  · intro always
    let labels : List Act :=
      Act.deliver .protocolInit :: List.replicate 3 (.connect 0 true) ++
        Act.deliver .eventWaitCancelled :: .serve (.error true) true none ::
        List.replicate 3 (.serve .returned true none) ++
        Act.reap 0 :: List.replicate 7 (.reaper 0 true) ++
        List.replicate 4 (Act.serve .returned true none)
    have executed : ((machine .audioFork).exec anyStep
        (machine .audioFork).initial labels).map (fun outcome =>
          decide (outcome.2.count (0, .notified .connectFail) = 2)) =
        some true := by
      decide
    obtain ⟨finish, trace, run, twice⟩ := Machine.exists_run_of_exec _ executed
    have once := (always _ labels trace finish run).failures 0
    rw [of_decide_eq_true twice] at once
    omega

end DrachtioModules.Pipes

import DrachtioModules.Pipes.Touch

/-!
# What the pending lists and the wsi pointers refer to

A pipe in a pending list has not been deleted, a wsi that is asked to become
writable is open, and the vhost data is there wherever it is used: a member
function reaches a use of it only after it has found the pipe CONNECTED.
-/

namespace DrachtioModules.Pipes

open AudioFork (Bytes LwsState NotifyEvent Wsi ConnectCall FailStage)

/-- The steps of a member function after it has found the pipe CONNECTED. -/
def Code.past : Code → Bool
  | .closeExchange | .closeQueue | .bufferAppend | .queueWrite | .cancelService
  | .frameRead | .frameQueue | .finishExchange => true
  | _ => false

/-- A thread is at a step of a member function of the pipe. -/
def View.Runs (v : View) (code : Code) : Prop :=
  v.pipe.owner = .session (some code) ∨
    v.pipe.owner = .reaper (.closing code) ∨ v.role = .metadata code

/-- A pipe that a thread has found CONNECTED has its vhost data. -/
structure Backed (v : View) : Prop where
  vhost : v.pipe.vhd = true → v.vhost = true
  past : ∀ code, v.Runs code → code.past = true → v.pipe.vhd = true

theorem stepCode_past {variant : Variant} {pipe next : Pipe} {ok : Bool}
    {code : Code} {rest : Option Code} {pending : Option Pending}
    {happenings : List Happening}
    (runs : stepCode variant pipe ok code = (next, rest, pending, happenings)) :
    (∀ later, rest = some later → later.past = true →
        code.past = true ∨ pipe.state = .connected) ∧
      ∀ present, .dereferenced present ∈ happenings →
        code.past = true ∧ present = pipe.vhd := by
  cases code with
  | closeQueue | queueWrite | bufferAppend | frameRead =>
      simp only [stepCode] at runs
      cases runs
      exact ⟨fun _ _ _ => .inl rfl, by simp⟩
  | gracefulRecord | closeRecord =>
      simp only [stepCode] at runs
      cases runs
      refine ⟨?_, by simp⟩
      rintro _ ⟨⟩ ⟨⟩
  | cancelService =>
      simp only [stepCode] at runs
      cases runs
      exact ⟨by simp, by simp [Code.past]⟩
  | closeExchange | finishExchange | frameQueue =>
      simp only [stepCode] at runs
      split at runs <;> cases runs
      · exact ⟨fun _ _ _ => .inl rfl, by simp⟩
      · exact ⟨fun _ _ _ => .inl rfl, by simp⟩
  | gracefulCheck | gracefulRecheck | closeCheck | closeRecheck | bufferCheck
  | frameCheck =>
      simp only [stepCode] at runs
      split at runs <;> rename_i connected <;> cases runs
      · exact ⟨fun _ _ _ => .inr connected, by simp⟩
      · refine ⟨?_, by simp⟩
        rintro _ ⟨⟩ ⟨⟩

/-- A CONNECTED pipe is one whose connection the service thread has adopted. -/
theorem Stands.up {v : View} {role : Role} (stands : Stands v role)
    (connected : v.pipe.state = .connected) : Up v := by
  cases role with
  | away | metadata _ => exact (Rest.running stands (.inl connected)).1
  | picked | connectNull =>
      have state := stands.state
      simp [connected] at state
  | failing stage =>
      cases stage with
      | store | notify | signal =>
          have state := stands.state
          simp [connected] at state
  | loop | writeable _ => exact stands.1
  | established stage =>
      cases stage with
      | adopt =>
          have state := stands.state
          simp [connected] at state
      | close | closing _ | graceful | shutdown _ | notify => exact stands.1
  | closed stage =>
      cases stage with
      | signal =>
          have state := stands.state
          simp [connected] at state
      | gracefully | dropped | store => exact stands.1

theorem Backed.mono {v v' : View} (backed : Backed v)
    (vhost : v'.pipe.vhd = true → v'.vhost = true)
    (vhd : v.pipe.vhd = true → v'.pipe.vhd = true)
    (runs : ∀ code, v'.Runs code → code.past = true → v.Runs code) :
    Backed v' := by
  refine ⟨vhost, fun code running past => ?_⟩
  exact vhd (backed.past code (runs code running past) past)

theorem Backed.turn {v v' : View} (backed : Backed v)
    (vhost : v'.pipe.vhd = true → v'.vhost = true)
    (vhd : v.pipe.vhd = true → v'.pipe.vhd = true)
    (owner : v'.pipe.owner = v.pipe.owner)
    (elsewhere : ∀ code, v'.role ≠ .metadata code) : Backed v' := by
  refine backed.mono vhost vhd ?_
  rintro code (session | reaper | borrowed) _
  · exact .inl (owner.symm.trans session)
  · exact .inr (.inl (owner.symm.trans reaper))
  · exact absurd borrowed (elsewhere code)

theorem Backed.next {variant : Variant} {v : View} {next : Pipe} {ok : Bool}
    {code later : Code} {pending : Option Pending}
    {happenings : List Happening} (backed : Backed v)
    (stands : Stands v v.role) (running : v.Runs code)
    (runs : stepCode variant v.pipe ok code =
      (next, some later, pending, happenings)) (past : later.past = true) :
    next.vhd = true := by
  rw [(stepCode_effect runs).1.vhd]
  rcases (stepCode_past runs).1 later rfl past with before | connected
  · exact backed.past code running before
  · exact (stands.up connected).vhd

@[simp] theorem push_vhost (v : View) (pending : Option Pending) :
    (v.push pending).vhost = v.vhost := by
  cases pending with
  | none => rfl
  | some pending => cases pending <;> rfl

theorem push_runs (v : View) (pending : Option Pending) (code : Code) :
    (v.push pending).Runs code ↔ v.Runs code := by
  simp only [View.Runs, push_pipe, push_role]

theorem Code.entry_past {variant : Variant} {op : Op} {code : Code}
    (entry : op.entry variant = some code) : code.past = false := by
  cases variant <;> cases op <;> cases entry <;> rfl

theorem Code.reaperEntry_past (variant : Variant) :
    variant.reaperEntry.past = false := by
  cases variant <;> rfl

theorem Local.backed {variant : Variant} {v v' : View}
    {happenings : List Happening} (change : Local variant v happenings v')
    (stands : Stands v v.role) (owned : Owned v) (backed : Backed v) :
    Backed v' := by
  cases change with
  | still | scanned _ _ | header _ _ _ | passedOver _ _ _ _ | receives _ _ _ =>
      exact backed
  | enters _ | pushes _ | refuses _ | refusalNotified _ | refusalSignaled _
  | connectReturns _ | purged _ _ _ | closesStray _ _ _ =>
      exact backed.mono backed.vhost id fun _ running _ => running
  | protocolInit =>
      exact backed.mono (fun _ => rfl) id fun _ running _ => running
  | dropped pending _ _ _ =>
      cases pending with
      | disconnects | writes =>
          exact backed.mono backed.vhost id fun _ running _ => running
  | calls free entry =>
      refine ⟨backed.vhost, ?_⟩
      rintro later (session | reaper | borrowed) past
      · cases session
        simp [Code.entry_past entry] at past
      · cases reaper
      · exact absurd borrowed (owned.elsewhere (by simp [free]) later)
  | reaped free =>
      refine ⟨backed.vhost, ?_⟩
      rintro later (session | reaper | borrowed) past
      · cases session
      · cases reaper
        simp [Code.reaperEntry_past] at past
      · exact absurd borrowed (owned.elsewhere (by simp [free]) later)
  | waited stage _ | fromConnects stage | fromDisconnects stage
  | fromWrites stage =>
      refine backed.mono backed.vhost id ?_
      rintro code (session | reaper | borrowed) _
      · cases session
      · cases reaper
      · exact .inr (.inr borrowed)
  | advances call runs =>
      constructor
      · rw [push_pipe, push_vhost, (stepCode_effect runs).1.vhd]
        exact backed.vhost
      · intro later running past
        rw [push_runs] at running
        rw [push_pipe]
        rcases running with session | reaper | borrowed
        · cases session
          have vhd := backed.next stands (.inl call) runs past
          exact vhd
        · cases reaper
        · exact absurd borrowed (owned.elsewhere (by simp [call]) later)
  | @reaperAdvances code ok pipe next pending _ closing runs =>
      constructor
      · rw [push_pipe, push_vhost, (stepCode_effect runs).1.vhd]
        exact backed.vhost
      · intro later running past
        rw [push_runs] at running
        rw [push_pipe]
        rcases running with session | reaper | borrowed
        · cases session
        · cases next with
          | none => cases reaper
          | some code =>
              cases reaper
              have vhd := backed.next stands (.inr (.inl closing)) runs past
              exact vhd
        · exact absurd borrowed (owned.elsewhere (by simp [closing]) later)
  | stray handshaking lost => exact absurd (stands.handshaking handshaking) lost
  | adopts _ _ _ _ _ | established _ _ _ _ _ _ | connectionError _ _ _ _ _
  | closes _ _ _ | becomesWriteable _ _ _ | connectNull _ | failureStored _
  | failureNotified _ | failureSignaled _ | completes _ _ _ | announces _
  | endTold _ _ _ _ | endChecked _ _ _ | endStored _ | endSignaled _ =>
      exact backed.turn backed.vhost id rfl (by simp)
  -- PROTOCOL_INIT comes before the first EVENT_WAIT_CANCELLED
  | dials picked | dialFails picked | dialErrors _ picked _ =>
      rw [picked] at stands
      exact backed.turn id (fun _ => stands.ready) rfl (by simp)
  | taken pending _ _ _ _ _ =>
      cases pending with
      | disconnects | writes => exact backed.turn backed.vhost id rfl (by simp)
  | requests _ after =>
      rcases after with rfl | rfl
      all_goals exact backed.turn backed.vhost id rfl (by simp)
  | connected adopt _ =>
      rw [adopt] at stands
      exact backed.turn id (fun _ => stands.ready) rfl (by simp)
  | establishedAdvances _ _ runs _ =>
      obtain ⟨effect, _⟩ := stepCode_effect runs
      refine backed.turn ?_ ?_ ?_ (by simp)
      · rw [push_pipe, push_vhost, effect.vhd]
        exact backed.vhost
      · rw [push_pipe, effect.vhd]
        exact id
      · rw [push_pipe, effect.owner]
  | locks _ _ =>
      refine ⟨backed.vhost, ?_⟩
      rintro later (session | reaper | borrowed) past
      · cases session
      · cases reaper
      · cases borrowed
        cases past
  | @borrows code ok pipe next pending _ running runs =>
      constructor
      · rw [push_pipe, push_vhost, (stepCode_effect runs).1.vhd]
        exact backed.vhost
      · intro later goes past
        rw [push_runs] at goes
        rw [push_pipe]
        cases next with
        | none =>
            rcases goes with session | reaper | borrowed
            · cases session
            · cases reaper
            · cases borrowed
        | some code =>
            rcases goes with session | reaper | borrowed
            · cases session
            · cases reaper
            · cases borrowed
              have vhd := backed.next stands (.inr (.inr running)) runs past
              exact vhd
  | writes _ after _ _ =>
      rcases after with rfl | ⟨_, rfl⟩
      all_goals exact backed.turn backed.vhost id rfl (by simp)

/-- Nothing that depends on the connection or the vhost data. -/
def Happening.plain : Happening → Bool
  | .established | .closed | .requestedWritable | .dereferenced _ => false
  | _ => true

/-- What a step does to the connection of a pipe. -/
structure Links (v : View) (new : List Happening) (v' : View) : Prop where
  unfreed : v'.pipe.wsi ≠ .freed → v.pipe.wsi ≠ .freed ∧ .closed ∉ new
  opened : v'.Open → v.Open ∨ .established ∈ new
  requested : .requestedWritable ∈ new → v.Open ∧ .closed ∉ new
  present : ∀ present, .dereferenced present ∈ new → present = true

theorem links_of_same {v v' : View} {new : List Happening}
    (wsi : v'.pipe.wsi = v.pipe.wsi)
    (plain : ∀ happening ∈ new, happening.plain = true ∨
      happening = .dereferenced true) : Links v new v' := by
  have absent : ∀ {happening : Happening}, happening.plain = false →
      happening ≠ .dereferenced true → happening ∉ new := by
    intro happening other set member
    rcases plain happening member with same | same
    · simp [same] at other
    · exact set same
  refine ⟨fun unfreed => ⟨?_, absent rfl (by simp)⟩, fun open' => .inl ?_,
    fun member => ?_, fun present member => ?_⟩
  · rw [← wsi]
    exact unfreed
  · rw [View.Open, ← wsi]
    exact open'
  · exact absurd member (absent rfl (by simp))
  · cases present with
    | true => rfl
    | false => exact absurd member (absent rfl (by simp))

/-- What happens in a member function past its check of the state. -/
theorem code_present {variant : Variant} {v : View} {next : Pipe} {ok : Bool}
    {code : Code} {rest : Option Code} {pending : Option Pending}
    {happenings : List Happening}
    (runs : stepCode variant v.pipe ok code = (next, rest, pending, happenings))
    (vhd : code.past = true → v.pipe.vhd = true) :
    ∀ happening ∈ happenings, happening = .dereferenced true := by
  intro happening member
  obtain ⟨effect, only⟩ := stepCode_effect runs
  obtain ⟨present, rfl⟩ := Happening.of_inCode (only happening member)
  obtain ⟨past, same⟩ := (stepCode_past runs).2 present member
  rw [same, vhd past]

theorem Local.links {variant : Variant} {v v' : View} {new : List Happening}
    (change : Local variant v new v') (stands : Stands v v.role)
    (backed : Backed v) : Links v new v' := by
  have scans : ∀ {happenings : List Happening},
      (∀ happening ∈ happenings, happening = .scanned) →
      ∀ happening ∈ happenings, happening.plain = true ∨
        happening = .dereferenced true := by
    intro happenings only happening member
    rw [only happening member]
    exact .inl rfl
  cases change with
  | still | enters _ | pushes _ | refuses _ | connectReturns _ | calls _ _
  | reaped _ | waited _ _ | fromConnects _ | fromDisconnects _ | protocolInit
  | becomesWriteable _ _ _ | locks _ _ => exact links_of_same rfl (by simp)
  | refusalNotified _ | refusalSignaled _ | fromWrites _ | receives _ _ _
  | connectNull _ | failureStored _ | failureNotified _ | failureSignaled _
  | connected _ _ | completes _ _ _ | announces _ | endTold _ _ _ _
  | endChecked _ _ _ | endStored _ | endSignaled _ =>
      exact links_of_same rfl (by simp [Happening.plain])
  | scanned only _ | purged only _ _ | adopts only _ _ _ _
  | passedOver _ only _ _ => exact links_of_same rfl (scans only)
  | stray handshaking lost => exact absurd (stands.handshaking handshaking) lost
  | header only _ _ =>
      refine links_of_same rfl fun happening member => ?_
      rcases List.mem_append.mp member with scan | own
      · exact scans only happening scan
      · rw [List.mem_singleton.mp own]
        exact .inl rfl
  | advances call runs =>
      refine links_of_same ?_ fun happening member => .inr ?_
      · rw [push_pipe]
        exact (stepCode_effect runs).1.wsi
      · exact code_present runs (backed.past _ (.inl call)) happening member
  | reaperAdvances closing runs =>
      refine links_of_same ?_ fun happening member => .inr ?_
      · rw [push_pipe]
        exact (stepCode_effect runs).1.wsi
      · exact code_present runs (backed.past _ (.inr (.inl closing)))
          happening member
  | establishedAdvances running within runs _ =>
      rw [running] at stands
      have up : Up v := by
        rcases within with rfl | rfl <;> exact stands.1
      refine links_of_same ?_ fun happening member => ?_
      · rw [push_pipe]
        exact (stepCode_effect runs).1.wsi
      · rcases List.mem_cons.mp member with rfl | code
        · exact .inl rfl
        · exact .inr (code_present runs (fun _ => up.vhd) happening code)
  | borrows running runs =>
      refine links_of_same ?_ fun happening member => ?_
      · rw [push_pipe]
        exact (stepCode_effect runs).1.wsi
      · rcases List.mem_cons.mp member with rfl | code
        · exact .inl rfl
        · exact .inr (code_present runs
            (backed.past _ (.inr (.inr running))) happening code)
  | established only _ _ handshaking _ _ =>
      refine ⟨fun _ => ⟨by simp [handshaking], ?_⟩, fun _ => .inr (by simp),
        fun member => ?_, fun present member => ?_⟩
      · intro member
        rcases List.mem_append.mp member with scan | own
        · cases only _ scan
        · simp at own
      · rcases List.mem_append.mp member with scan | own
        · cases only _ scan
        · simp at own
      · rcases List.mem_append.mp member with scan | own
        · cases only _ scan
        · simp at own
  | connectionError only _ _ _ _ =>
      refine ⟨fun unfreed => absurd rfl unfreed, ?_, fun member => ?_,
        fun present member => ?_⟩
      · rintro (freed | freed) <;> cases freed
      · cases only _ member
      · cases only _ member
  | closes _ open' _ | closesStray _ open' _ =>
      refine ⟨fun unfreed => absurd rfl unfreed, ?_, by simp, by simp⟩
      rintro (freed | freed) <;> cases freed
  | dials picked =>
      rw [picked] at stands
      refine ⟨fun _ => ⟨by simp [stands.wsi], by simp⟩, ?_, by simp, ?_⟩
      · rintro (shaking | shaking) <;> cases shaking
      · simpa using stands.ready
  | dialFails picked =>
      rw [picked] at stands
      exact links_of_same rfl (by simp [Happening.plain, stands.ready])
  | dialErrors only picked _ =>
      rw [picked] at stands
      refine links_of_same rfl fun happening member => ?_
      rcases List.mem_append.mp member with own | scan
      · revert own
        rw [stands.ready]
        simp only [List.mem_cons, List.not_mem_nil, or_false]
        rintro (rfl | rfl)
        · exact .inl rfl
        · exact .inr rfl
      · exact scans only happening scan
  | dropped pending only _ set =>
      have plain : ∀ happening ∈ new, happening.plain = true ∨
          happening = .dereferenced true := by
        intro happening member
        rw [backed.vhost set] at only
        exact (only happening member).imp_left fun scan => by rw [scan]; rfl
      cases pending with
      | disconnects | writes => exact links_of_same rfl plain
  | taken pending only _ _ set _ =>
      have plain : ∀ happening ∈ new, happening.plain = true ∨
          happening = .dereferenced true := by
        intro happening member
        rw [backed.vhost set] at only
        exact (only happening member).imp_left fun scan => by rw [scan]; rfl
      cases pending with
      | disconnects | writes => exact links_of_same rfl plain
  | requests loop _ =>
      rw [loop] at stands
      exact ⟨fun unfreed => ⟨unfreed, by simp⟩, .inl,
        fun _ => ⟨stands.2, by simp⟩, by simp⟩
  | @writes stage _ role text audio wsi running _ asked kept =>
      rw [running] at stands
      have quiet : .closed ∉ new ∧
          ∀ present, .dereferenced present ∉ new := by
        rcases asked with rfl | rfl <;> simp
      refine ⟨fun _ => ⟨?_, quiet.1⟩, fun _ => .inl stands.2,
        fun _ => ⟨stands.2, quiet.1⟩,
        fun present member => absurd member (quiet.2 present)⟩
      rcases stands.2 with opened | closing
      · simp [opened]
      · simp [closing]

/-- What the pending lists and the wsi pointers of a run refer to. -/
structure Live (trace : List Event) (finish : State) : Prop where
  writable : ∀ n before after,
    trace = before ++ (n, .requestedWritable) :: after →
    (n, .established) ∈ before ∧ (n, .closed) ∉ before
  listed : ∀ n, n ∈ finish.pendingDisconnects ∨ n ∈ finish.pendingWrites →
    (n, .deleted) ∉ trace
  vhost : ∀ n present, (n, .dereferenced present) ∈ trace → present = true

/-- No connect call fails synchronously. -/
def connectReturns (s : State) : Act → Bool
  | .serve outcome _ _ =>
      match s.service with
      | .connects (_ :: _) => outcome = .returned
      | _ => true
  | _ => true

theorem reportedOnce_of_returns {s : State} {act : Act}
    (returns : connectReturns s act = true) : reportedOnce s act = true := by
  cases act with
  | serve outcome ok metadata =>
      cases outcome with
      | returned | null => rfl
      | error stored =>
          cases stored with
          | false => rfl
          | true =>
              simp only [connectReturns] at returns
              simp only [reportedOnce]
              split
              · rename_i running
                simp [running] at returns
              · rfl
  | _ => rfl

/-- The connection of a pipe in a run. -/
structure Linked (trace : List Happening) (v : View) : Prop where
  unfreed : v.pipe.wsi ≠ .freed → .closed ∉ trace
  opened : v.Open → .established ∈ trace
  writable : ∀ before after, trace = before ++ .requestedWritable :: after →
    .established ∈ before ∧ .closed ∉ before
  present : ∀ present, .dereferenced present ∈ trace → present = true

theorem View.Open.unfreed {v : View} (open' : v.Open) :
    v.pipe.wsi ≠ .freed := by
  rcases open' with opened | closing
  · simp [opened]
  · simp [closing]

theorem Linked.step {trace new : List Happening} {v v' : View}
    (linked : Linked trace v) (links : Links v new v') :
    Linked (trace ++ new) v' := by
  constructor
  · intro unfreed member
    obtain ⟨before, quiet⟩ := links.unfreed unfreed
    rcases List.mem_append.mp member with earlier | later
    · exact linked.unfreed before earlier
    · exact quiet later
  · intro open'
    apply List.mem_append.mpr
    exact (links.opened open').imp_left linked.opened
  · intro before after split
    refine append_cons_of_append
      (fun before => .established ∈ before ∧ .closed ∉ before) split ?_ ?_
    · exact fun rest earlier => linked.writable before rest earlier
    · rintro middle rfl
      obtain ⟨open', quiet⟩ := links.requested (by simp)
      refine ⟨List.mem_append_left _ (linked.opened open'), fun member => ?_⟩
      rcases List.mem_append.mp member with earlier | later
      · exact linked.unfreed open'.unfreed earlier
      · exact quiet (List.mem_append_left _ later)
  · intro present member
    rcases List.mem_append.mp member with earlier | later
    · exact linked.present present earlier
    · exact links.present present later

structure Kept (trace : List Event) (s : State) : Prop where
  held : Held trace s
  backed : ∀ n, Backed (s.view n)
  linked : ∀ n, Linked (about n trace) (s.view n)

theorem kept_fresh : Kept [] .fresh := by
  refine ⟨held_fresh, fun n => ?_, fun n => ?_⟩
  · rw [fresh_view]
    refine ⟨by simp [Pipe.fresh], ?_⟩
    rintro code (session | reaper | borrowed) _
    · cases session
    · cases reaper
    · cases borrowed
  · rw [fresh_view]
    refine ⟨by simp, ?_, by simp, by simp⟩
    rintro (opened | closing)
    · cases opened
    · cases closing

theorem Kept.step {variant : Variant} {trace events : List Event}
    {s s' : State} {act : Act} (kept : Kept trace s)
    (admitted : reportedOnce s act = true)
    (taken : Pipes.step variant s act = some (s', events)) :
    Kept (trace ++ events) s' := by
  obtain ⟨held, backed, linked⟩ := kept
  have change := step_local held.tidy admitted taken
  refine ⟨held.step admitted taken, fun n => ?_, fun n => ?_⟩
  · exact (change n).backed (held.stands n) (held.owned n) (backed n)
  · rw [about_append]
    exact (linked n).step ((change n).links (held.stands n) (backed n))

/-- A listed pipe has not been deleted: the reaper takes it out of both lists
first, and nobody adds it again once its close is signalled. -/
theorem Held.listed {trace : List Event} {s : State} (held : Held trace s)
    {n : Nat}
    (listed : n ∈ s.pendingDisconnects ∨ n ∈ s.pendingWrites) :
    (n, .deleted) ∉ trace := by
  intro deleted
  have stage := (held.history n).deleted (mem_about.mpr deleted)
  have owned := held.owned n
  rcases listed with listed | listed
  · have absent := owned.disconnects (by omega)
    rw [(view_disconnects s n).mpr listed] at absent
    cases absent
  · have absent := owned.writes (by omega)
    rw [(view_writes s n).mpr listed] at absent
    cases absent

theorem Kept.live {trace : List Event} {s : State} (kept : Kept trace s) :
    Live trace s := by
  constructor
  · rintro n before after rfl
    have linked := kept.linked n
    rw [about_append, about_cons_same] at linked
    obtain ⟨established, open'⟩ := linked.writable _ _ rfl
    exact ⟨mem_about.mp established, fun closed =>
      open' (mem_about.mpr closed)⟩
  · exact fun n listed => kept.held.listed listed
  · intro n present member
    exact (kept.linked n).present present (mem_about.mpr member)

/-- While no connect call fails synchronously, `lws_callback_on_writable` is
asked of open connections only, the pending lists name no deleted pipe and the
vhost data is there wherever it is used. -/
theorem live_while_connect_returns {variant : Variant} {labels : List Act}
    {trace : List Event} {finish : State}
    (run : (machine variant).Run connectReturns (machine variant).initial
      labels trace finish) : Live trace finish := by
  have kept : Kept trace finish :=
    run.induct Kept kept_fresh fun kept admitted taken =>
      kept.step (reportedOnce_of_returns admitted) taken
  exact kept.live

/-- A session of mod_audio_fork: the connection is established, audio is
written, and the reaper closes the pipe, waits and deletes it. -/
theorem live_through_session :
    ∃ labels trace finish,
      (machine .audioFork).Run connectReturns (machine .audioFork).initial
          labels trace finish ∧
        trace.count (0, .requestedWritable) = 2 ∧ (0, .deleted) ∈ trace ∧
        Live trace finish := by
  let serve : Act := .serve .returned true none
  let labels : List Act :=
    Act.deliver .protocolInit :: List.replicate 3 (.connect 0 true) ++
      -- processPendingConnects, and the empty lists
      Act.deliver .eventWaitCancelled :: List.replicate 4 serve ++
      Act.deliver (.established 0) :: List.replicate 4 serve ++
      Act.enter 0 .frame :: List.replicate 4 (.advance 0 true) ++
      Act.deliver .eventWaitCancelled :: List.replicate 4 serve ++
      Act.reap 0 :: List.replicate 4 (.reaper 0 true) ++
      Act.deliver .eventWaitCancelled :: List.replicate 4 serve ++
      Act.deliver (.writeable 0) :: List.replicate 3 serve ++
      Act.deliver (.closed 0) :: List.replicate 3 serve ++
      List.replicate 4 (Act.reaper 0 true)
  have executed : ((machine .audioFork).exec connectReturns
      (machine .audioFork).initial labels).map (fun outcome =>
        decide (outcome.2.count (0, .requestedWritable) = 2 ∧
          (0, .deleted) ∈ outcome.2)) = some true := by
    decide
  obtain ⟨finish, trace, run, seen⟩ := Machine.exists_run_of_exec _ executed
  obtain ⟨requests, deleted⟩ := of_decide_eq_true seen
  exact ⟨labels, trace, finish, run, requests, deleted,
    live_while_connect_returns run⟩

end DrachtioModules.Pipes

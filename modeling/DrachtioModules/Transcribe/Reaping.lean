import DrachtioModules.Family
import DrachtioModules.Transcribe.Channel

/-!
# The life of a GStreamer and of its thread

What the sessions of mod_aws_transcribe, mod_azure_transcribe and
mod_google_transcribe have in common about the GStreamer they make: every step
of a session is one of a few passages of the GStreamer and of the thread it is
made or read by, so the events of a session say that it is deleted once.
-/

namespace DrachtioModules.Transcribe

/-- A GStreamer; `handed` is from the time only the reaper of
mod_azure_transcribe may use it. -/
inductive Object where
  | absent
  | alive
  | handed
  | deleted
  deriving DecidableEq, Repr

/-- A call of the GStreamer, which may be gone. -/
def Object.use (object : Object) (user : User) : List Lifetime :=
  match object, user with
  | .alive, _ | .handed, .thread => []
  | _, _ => [.dangling user]

/-- A frame callback; it looks at the pointer before it tries to lock in
mod_google_transcribe alone. -/
inductive FrameAct where
  | peek
  | lock
  | load
  | call
  | unlock
  deriving DecidableEq, Repr

/-- A frame callback under `cb->mutex`. -/
inductive Frame where
  | loading
  | looping
  deriving DecidableEq, Repr

/-- `ok` answers what the step asks; `thread` is a step of the read thread or of
the reaper, the last one if it is `done`. -/
inductive CaptureAct (κ : Type) where
  | control (act : Control κ)
  | init (ok vad : Bool)
  | add (ok : Bool)
  | cleanup
  | lock (caller : Caller)
  | stop (ok : Bool)
  | frame (act : FrameAct)
  | thread (done : Bool)
  deriving DecidableEq, Repr

inductive CaptureEvent (κ : Type) where
  | notice (notice : Notice κ)
  | lifetime (event : Lifetime)
  deriving DecidableEq, Repr

def CaptureEvent.lifetime? {κ : Type} : CaptureEvent κ → Option Lifetime
  | .notice _ => none
  | .lifetime event => some event

theorem lifetimes_map {κ : Type} (events : List Lifetime) :
    (events.map .lifetime : List (CaptureEvent κ)).filterMap
      CaptureEvent.lifetime? = events := by
  induction events with
  | nil => rfl
  | cons event events ih =>
      rw [List.map_cons, List.filterMap_cons]
      simp only [CaptureEvent.lifetime?]
      rw [ih]

theorem lifetimes_notices {κ : Type} (notices : List (Notice κ)) :
    (notices.map .notice : List (CaptureEvent κ)).filterMap
      CaptureEvent.lifetime? = [] := by
  induction notices with
  | nil => rfl
  | cons notice notices ih =>
      rw [List.map_cons, List.filterMap_cons]
      simp only [CaptureEvent.lifetime?]
      rw [ih]

/-- The outcome of a step that says nothing to the channel. -/
def lift {σ κ : Type} (outcome : Option (σ × List Lifetime)) :
    Option (σ × List (CaptureEvent κ)) :=
  match outcome with
  | none => none
  | some (next, events) => some (next, events.map .lifetime)

theorem lift_cases {σ κ : Type} {outcome : Option (σ × List Lifetime)}
    {next : σ} {made : List (CaptureEvent κ)}
    (lifted : lift outcome = some (next, made)) :
    outcome = some (next, made.filterMap CaptureEvent.lifetime?) := by
  simp only [lift] at lifted
  split at lifted <;> cases lifted
  rw [lifetimes_map]

def writes {κ : Type} [DecidableEq κ] (n : Nat) (c : Channel κ) :
    CaptureEvent κ → Channel κ
  | .notice notice => c.write n notice
  | .lifetime _ => c

def common {κ : Type} (c : Channel κ) (act : Outside κ) :
    Option (Channel κ × List Empty) :=
  match c.stepOutside act with
  | none => none
  | some channel => some (channel, [])

/-- What happened to the GStreamer and to its thread by the time the session is
`settled`. -/
structure ReapedOnce (lives : List Lifetime) (settled : Prop) : Prop where
  created : lives.count .created ≤ 1
  deleted : lives.count .deleted ≤ lives.count .created
  joined : ∀ before after, lives = before ++ .deleted :: after →
    .spawned ∈ lives → .joined ∈ before
  unused : .dangling .frame ∉ lives
  settled : settled → lives.count .deleted = lives.count .created

/-- `thread` says that there is a thread nobody has joined. -/
inductive Passage (object : Object) (thread : Bool) :
    Object → Bool → List Lifetime → Prop where
  | still : Passage object thread object thread []
  | stray {user : User} (other : user ≠ .frame) :
      Passage object thread object thread [.dangling user]
  | spawn (idle : thread = false) (here : object ≠ .deleted) :
      Passage object thread object true [.spawned]
  | create (absent : object = .absent) :
      Passage object thread .alive thread [.created]
  | join (running : thread = true) (here : object ≠ .deleted) :
      Passage object thread object false [.joined]
  | hand (alive : object = .alive) :
      Passage object thread .handed thread [.handed]
  | delete (made : object = .alive ∨ object = .handed) (idle : thread = false) :
      Passage object thread .deleted thread [.deleted]

theorem Passage.use {object : Object} {thread : Bool} {user : User}
    (other : user ≠ .frame) :
    Passage object thread object thread (object.use user) := by
  unfold Object.use
  split
  · exact .still
  · exact .still
  · exact .stray other

/-- The events of a session say where its GStreamer and its thread are. -/
structure Recorded (lives : List Lifetime) (object : Object) (thread : Bool) :
    Prop where
  created : lives.count .created = if object = .absent then 0 else 1
  deleted : lives.count .deleted = if object = .deleted then 1 else 0
  unjoined : .spawned ∈ lives → .joined ∈ lives ∨ thread = true
  idle : object = .deleted → thread = false
  last : lives.Pairwise fun earlier later =>
    earlier = .deleted → later ≠ .spawned ∧ later ≠ .joined
  unused : .dangling .frame ∉ lives

theorem recorded_fresh : Recorded [] .absent false := by
  constructor <;> simp

variable {lives events : List Lifetime} {object object' : Object}
variable {thread thread' : Bool}

/-- Nothing comes after the deletion but strays. -/
theorem Recorded.after (recorded : Recorded lives object thread)
    (events : List Lifetime)
    (quiet : object = .deleted →
      ∀ event ∈ events, event ≠ .spawned ∧ event ≠ .joined)
    (within : events.Pairwise fun earlier later =>
      earlier = .deleted → later ≠ .spawned ∧ later ≠ .joined) :
    (lives ++ events).Pairwise fun earlier later =>
      earlier = .deleted → later ≠ .spawned ∧ later ≠ .joined := by
  have shown : .deleted ∈ lives → object = .deleted := by
    intro member
    by_contra undeleted
    have count := recorded.deleted
    rw [if_neg undeleted] at count
    exact List.count_eq_zero.mp count member
  rw [List.pairwise_append]
  refine ⟨recorded.last, within, ?_⟩
  rintro earlier before later member rfl
  exact quiet (shown before) later member

theorem Recorded.step (recorded : Recorded lives object thread)
    (passage : Passage object thread object' thread' events) :
    Recorded (lives ++ events) object' thread' := by
  have created := recorded.created
  have deleted := recorded.deleted
  cases passage with
  | still =>
      rw [List.append_nil]
      exact recorded
  | stray other =>
      refine ⟨by simpa using created, by simpa using deleted, ?_,
        recorded.idle, recorded.after _ (by simp) (by simp), ?_⟩
      · simpa using recorded.unjoined
      · simpa [Ne.symm other] using recorded.unused
  | spawn idle here =>
      refine ⟨by simpa using created, by simpa using deleted,
        fun _ => .inr rfl, fun gone => (here gone).elim,
        recorded.after _ (fun gone => (here gone).elim) (by simp), ?_⟩
      simpa using recorded.unused
  | create absent =>
      subst absent
      refine ⟨by simpa using created, by simpa using deleted, ?_, by simp,
        recorded.after _ (by simp) (by simp), ?_⟩
      · simpa using recorded.unjoined
      · simpa using recorded.unused
  | join running here =>
      refine ⟨by simpa using created, by simpa using deleted,
        fun _ => .inl (by simp), fun _ => rfl,
        recorded.after _ (fun gone => (here gone).elim) (by simp), ?_⟩
      simpa using recorded.unused
  | hand alive =>
      subst alive
      refine ⟨by simpa using created, by simpa using deleted, ?_, by simp,
        recorded.after _ (by simp) (by simp), ?_⟩
      · simpa using recorded.unjoined
      · simpa using recorded.unused
  | delete made idle =>
      have present : object ≠ .absent ∧ object ≠ .deleted := by
        rcases made with rfl | rfl <;> simp
      rw [if_neg present.1] at created
      rw [if_neg present.2] at deleted
      refine ⟨by simpa using created, by simpa using deleted, ?_,
        fun _ => idle, recorded.after _ (by simp) (by simp), ?_⟩
      · simpa using recorded.unjoined
      · simpa using recorded.unused

theorem Recorded.reaped (recorded : Recorded lives object thread)
    {settled : Prop}
    (done : settled → object = .absent ∨ object = .deleted) :
    ReapedOnce lives settled := by
  have created := recorded.created
  have deleted := recorded.deleted
  refine ⟨?_, ?_, ?_, recorded.unused, ?_⟩
  · rw [created]
    split <;> simp
  · rw [created, deleted]
    cases object <;> simp
  · rintro before after rfl spawned
    have gone : object = .deleted := by
      by_contra undeleted
      rw [if_neg undeleted] at deleted
      simp at deleted
    have last := (List.pairwise_append.mp recorded.last).2.1
    have later := (List.pairwise_cons.mp last).1
    rcases recorded.unjoined spawned with joined | running
    · rcases List.mem_append.mp joined with earlier | now
      · exact earlier
      · rcases List.mem_cons.mp now with same | now
        · cases same
        · exact ((later .joined now rfl).2 rfl).elim
    · rw [recorded.idle gone] at running
      cases running
  · intro ended
    rw [created, deleted]
    rcases done ended with rfl | rfl <;> rfl

theorem recorded_of_run {σ α ε : Type*} {machine : Machine σ α ε}
    {allowed : σ → α → Bool} {start s : σ} {labels : List α}
    {trace : List ε} (run : machine.Run allowed start labels trace s)
    (kept : σ → Prop) (object : σ → Object) (thread : σ → Bool)
    (lifetime? : ε → Option Lifetime) (base : kept start)
    (fresh : Recorded [] (object start) (thread start))
    (preserved : ∀ {s s' act events}, kept s → allowed s act = true →
      machine.step s act = some (s', events) →
      kept s' ∧ Passage (object s) (thread s) (object s') (thread s')
        (events.filterMap lifetime?)) :
    kept s ∧
      Recorded (trace.filterMap lifetime?) (object s) (thread s) := by
  refine run.induct (fun trace s => kept s ∧
    Recorded (trace.filterMap lifetime?) (object s) (thread s))
    ⟨base, fresh⟩ ?_
  rintro trace s label next events ⟨here, recorded⟩ admitted step
  obtain ⟨there, passage⟩ := preserved here admitted step
  rw [List.filterMap_append]
  exact ⟨there, recorded.step passage⟩

/-- A start that attaches its bug and stores it in the channel private. -/
def startsCapture (n bugname : Nat) (inits : Nat) :
    List (Family.Act (CaptureAct Nat) (Outside Nat)) :=
  ([.control (.callStart bugname), .control (.look false)] ++
    List.replicate inits (.init true false) ++
    [.add true, .control .publish] : List (CaptureAct Nat)).map (.part n)

/-- A stop that finds session n and takes its mutex. -/
def stopsCapture (n call bugname : Nat) :
    List (Family.Act (CaptureAct Nat) (Outside Nat)) :=
  [.common (.callStop bugname), .part n (.control (.resolve (.stop call))),
    .part n (.lock (.stop call))]

/-- The bug is removed after a stop, and its CLOSE callback runs. -/
def closesCapture (n call : Nat) (found : Bool) (steps : Nat) :
    List (Family.Act (CaptureAct Nat) (Outside Nat)) :=
  ([.control (.remove (.stop call)), .lock .close, .stop found] ++
    List.replicate steps (.stop true) ++
    [.control (.removed (.stop call))] : List (CaptureAct Nat)).map (.part n)

end DrachtioModules.Transcribe

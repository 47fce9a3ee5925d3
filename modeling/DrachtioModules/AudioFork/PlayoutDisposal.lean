import DrachtioModules.AudioFork.Playout

/-!
# The temporary files of a session that is torn down

The handler of a playAudio message resolves the session through the channel
private, writes the file, takes the mutex and puts the path into the list; it
does not look again at the channel private once it has the mutex.  A file that
was written before the cleanup and is put into the list after it stays.  In
every run in which that does not happen, and in which no other session takes the
channel private away, all files are removed.
-/

namespace DrachtioModules.AudioFork.Playout

open Percent (ascii)

/-- A cleanup that has not begun or has returned. -/
def Cleanup.resting : Cleanup → Prop
  | .notCalled | .returned => True
  | _ => False

/-- The session was published, the channel private does not name it any more,
and its cleanups and its handler have returned. -/
structure TornDown (s : State) : Prop where
  published : s.start = .published ∨ s.start = .connected
  slot : s.slot ≠ .own
  handler : s.handler = .idle
  cleanups : ∀ caller, (s.cleanups caller).resting

/-- The list is empty, and every file is removed as often as it came into
being. -/
structure Disposed (trace : List Event) (s : State) : Prop where
  playout : s.playout = []
  files : ∀ path, trace.count (.removed path) = trace.count (.created path)

/-- The handler puts a file into the list while the channel private still names
the session, and no other session takes the channel private from it. -/
def whileOwn (s : State) : Act → Bool
  | .handler _ =>
      match s.handler with
      | .storing _ _ => s.slot = .own
      | _ => true
  | .other _ => s.slot ≠ .own
  | _ => true

def Handler.critical : Handler → Bool
  | .linking _ | .storing _ _ | .unlocking _ => true
  | _ => false

def Cleanup.critical : Cleanup → Bool
  | .locked | .verified _ | .cleared _ | .taking _ _ | .removing _ _
  | .handing _ => true
  | _ => false

/-- A file that is not in the list yet. -/
def Handler.pending : Handler → List Bytes
  | .locking path | .linking path | .storing path _ => [path]
  | _ => []

/-- The files that are in the list no more. -/
def Cleanup.taken : Cleanup → List Bytes
  | .removing _ playout => playout
  | _ => []

/-- The channel private is cleared, and the list not taken yet. -/
def Cleanup.clearing : Cleanup → Bool
  | .cleared _ | .taking _ _ => true
  | _ => false

/-- Where a file is known. -/
def State.knows (s : State) (path : Bytes) : Prop :=
  path ∈ s.handler.pending ∨ path ∈ s.playout ∨
    ∃ caller, path ∈ (s.cleanups caller).taken

/-- The list and its mutex. -/
structure Guarded (s : State) : Prop where
  handler : s.handler.critical = true → s.mutex = some .handler
  cleanup : ∀ caller, (s.cleanups caller).critical = true →
    s.mutex = some (.cleanup caller)
  /-- What the mutex holder has read of the list. -/
  linked : ∀ path next, s.handler = .storing path next → next = s.playout
  seen : ∀ caller held playout, s.cleanups caller = .taking held playout →
    playout = s.playout
  emptied : s.slot ≠ .own →
    s.playout = [] ∨ ∃ caller, (s.cleanups caller).clearing = true

structure Kept (trace : List Event) (s : State) : Prop extends Guarded s where
  known : ∀ path ∈ s.files, s.knows path
  counted : ∀ path, trace.count (.created path) =
    trace.count (.removed path) + if path ∈ s.files then 1 else 0

/-- The CLOSE callback is called when the bug goes. -/
structure Uncalled (s : State) : Prop where
  adding : s.start = .adding →
    s.bug = false ∧ s.cleanups .close = .notCalled
  attached : s.bug = true → s.cleanups .close = .notCalled

theorem Kept.disposed {trace : List Event} {s : State} (kept : Kept trace s)
    (down : TornDown s) : Disposed trace s := by
  have rests : ∀ caller, (s.cleanups caller).taken = [] ∧
      (s.cleanups caller).clearing = false := by
    intro caller
    have resting := down.cleanups caller
    cases stage : s.cleanups caller with
    | notCalled | returned => exact ⟨rfl, rfl⟩
    | _ =>
        rw [stage] at resting
        cases resting
  have playout : s.playout = [] := by
    rcases kept.emptied down.slot with empty | ⟨caller, clearing⟩
    · exact empty
    · rw [(rests caller).2] at clearing
      cases clearing
  refine ⟨playout, fun path => ?_⟩
  have gone : path ∉ s.files := by
    intro member
    rcases kept.known path member with pending | listed | ⟨caller, taken⟩
    · rw [down.handler] at pending
      cases pending
    · rw [playout] at listed
      cases listed
    · rw [(rests caller).1] at taken
      cases taken
  rw [kept.counted path, if_neg gone, Nat.add_zero]

section Steps

variable {config : Config} {trace events : List Event} {s s' : State}
variable {caller : Caller} {stage : Cleanup}

theorem setCleanup_self (s : State) (caller : Caller) (stage : Cleanup) :
    (s.setCleanup caller stage).cleanups caller = stage :=
  Function.update_self ..

theorem setCleanup_other {other : Caller} (different : other ≠ caller) :
    (s.setCleanup caller stage).cleanups other = s.cleanups other :=
  Function.update_of_ne different ..

theorem Guarded.alone (guarded : Guarded s)
    (critical : (s.cleanups caller).critical = true) {other : Caller}
    (different : other ≠ caller) : (s.cleanups other).critical = false := by
  by_contra inside
  have mutex := guarded.cleanup other (by simpa using inside)
  rw [guarded.cleanup caller critical] at mutex
  cases mutex
  exact different rfl

theorem Guarded.outside (guarded : Guarded s)
    (critical : (s.cleanups caller).critical = true) :
    s.handler.critical = false := by
  by_contra inside
  have mutex := guarded.handler (by simpa using inside)
  rw [guarded.cleanup caller critical] at mutex
  cases mutex

theorem Guarded.excluded (guarded : Guarded s)
    (critical : s.handler.critical = true) (caller : Caller) :
    (s.cleanups caller).critical = false := by
  by_contra inside
  have mutex := guarded.cleanup caller (by simpa using inside)
  rw [guarded.handler critical] at mutex
  cases mutex

theorem Guarded.free (guarded : Guarded s) (free : s.mutex = none) :
    s.handler.critical = false ∧
      ∀ caller, (s.cleanups caller).critical = false := by
  constructor
  · by_contra inside
    have mutex := guarded.handler (by simpa using inside)
    rw [free] at mutex
    cases mutex
  · intro caller
    by_contra inside
    have mutex := guarded.cleanup caller (by simpa using inside)
    rw [free] at mutex
    cases mutex

theorem Guarded.proceed (guarded : Guarded s) {stage : Cleanup}
    (critical : stage.critical = true → s.mutex = some (.cleanup caller))
    (seen : ∀ held playout, stage = .taking held playout →
      playout = s.playout)
    (clearing : (s.cleanups caller).clearing = true → stage.clearing = true) :
    Guarded (s.setCleanup caller stage) := by
  refine ⟨guarded.handler, ?_, guarded.linked, ?_, ?_⟩
  · intro other inside
    by_cases same : other = caller
    · subst same
      rw [setCleanup_self] at inside
      exact critical inside
    · rw [setCleanup_other same] at inside
      exact guarded.cleanup other inside
  · intro other held playout stands
    by_cases same : other = caller
    · subst same
      rw [setCleanup_self] at stands
      exact seen held playout stands
    · rw [setCleanup_other same] at stands
      exact guarded.seen other held playout stands
  · intro lost
    rcases guarded.emptied lost with empty | ⟨other, clears⟩
    · exact .inl empty
    · refine .inr ⟨other, ?_⟩
      by_cases same : other = caller
      · subst same
        rw [setCleanup_self]
        exact clearing clears
      · rw [setCleanup_other same]
        exact clears

theorem State.knows.proceed {path : Bytes} (known : s.knows path)
    (taken : path ∈ (s.cleanups caller).taken → path ∈ stage.taken) :
    (s.setCleanup caller stage).knows path := by
  rcases known with pending | listed | ⟨other, held⟩
  · exact .inl pending
  · exact .inr (.inl listed)
  · refine .inr (.inr ⟨other, ?_⟩)
    by_cases same : other = caller
    · subst same
      rw [setCleanup_self]
      exact taken held
    · rw [setCleanup_other same]
      exact held

theorem Kept.proceed (kept : Kept trace s) (stage : Cleanup)
    (critical : stage.critical = true → s.mutex = some (.cleanup caller))
    (seen : ∀ held playout, stage = .taking held playout →
      playout = s.playout)
    (taken : (s.cleanups caller).taken = [])
    (clearing : (s.cleanups caller).clearing = true → stage.clearing = true) :
    Kept trace (s.setCleanup caller stage) := by
  refine ⟨kept.toGuarded.proceed critical seen clearing, ?_, kept.counted⟩
  intro path member
  refine (kept.known path member).proceed ?_
  simp [taken]

theorem Kept.relock (kept : Kept trace s) (mutex : Option Holder)
    (handler : s.handler.critical = false)
    (cleanups : ∀ caller, (s.cleanups caller).critical = false) :
    Kept trace { s with mutex := mutex } := by
  refine ⟨⟨?_, ?_, kept.linked, kept.seen, kept.emptied⟩, kept.known,
    kept.counted⟩
  · intro inside
    rw [show s.handler.critical = true from inside] at handler
    cases handler
  · intro caller inside
    have outside := cleanups caller
    rw [show (s.cleanups caller).critical = true from inside] at outside
    cases outside

theorem Kept.unlock (kept : Kept trace s) (stage : Cleanup)
    (inside : (s.cleanups caller).critical = true)
    (outside : stage.critical = false)
    (unread : ∀ held playout, stage ≠ .taking held playout)
    (taken : (s.cleanups caller).taken = [])
    (clearing : (s.cleanups caller).clearing = false) :
    Kept trace ({ s with mutex := none }.setCleanup caller stage) := by
  have moved : Kept trace (s.setCleanup caller stage) := by
    refine kept.proceed stage ?_ ?_ taken ?_
    · simp [outside]
    · exact fun held playout stands => absurd stands (unread held playout)
    · simp [clearing]
  refine moved.relock none (kept.outside inside) ?_
  intro other
  by_cases same : other = caller
  · subst same
    rw [setCleanup_self]
    exact outside
  · rw [setCleanup_other same]
    exact kept.alone inside same

theorem Kept.clear {held : Slot} (kept : Kept trace s)
    (stands : s.cleanups caller = .verified held) :
    Kept trace ({ s with slot := .null }.setCleanup caller
      (.cleared held)) := by
  have inside : (s.cleanups caller).critical = true := by
    rw [stands]
    rfl
  have moved : Kept trace (s.setCleanup caller (.cleared held)) := by
    refine kept.proceed _ (fun _ => kept.cleanup caller inside) nofun ?_ ?_
    · rw [stands]
      rfl
    · simp [stands, Cleanup.clearing]
  refine ⟨⟨moved.handler, moved.cleanup, moved.linked, moved.seen,
    fun _ => .inr ⟨caller, ?_⟩⟩, moved.known, moved.counted⟩
  rw [setCleanup_self]
  rfl

theorem Kept.take {held : Slot} {playout : List Bytes} (kept : Kept trace s)
    (stands : s.cleanups caller = .taking held playout) :
    Kept trace ({ s with playout := [] }.setCleanup caller
      (.removing held playout)) := by
  obtain rfl := kept.seen caller held playout stands
  have inside : (s.cleanups caller).critical = true := by
    rw [stands]
    rfl
  refine ⟨⟨kept.handler, ?_, ?_, ?_, fun _ => .inl rfl⟩, ?_, kept.counted⟩
  · intro other busy
    by_cases same : other = caller
    · subst same
      exact kept.cleanup other inside
    · rw [setCleanup_other same] at busy
      exact kept.cleanup other busy
  · intro path next storing
    have handler := kept.outside inside
    rw [show s.handler = .storing path next from storing] at handler
    cases handler
  · intro other held' playout reading
    by_cases same : other = caller
    · subst same
      rw [setCleanup_self] at reading
      cases reading
    · have outside := kept.alone inside same
      rw [setCleanup_other same] at reading
      rw [show s.cleanups other = .taking held' playout from reading] at outside
      cases outside
  · intro path member
    rcases kept.known path member with pending | listed | ⟨other, taken⟩
    · exact .inl pending
    · refine .inr (.inr ⟨caller, ?_⟩)
      rw [setCleanup_self]
      exact listed
    · refine .inr (.inr ⟨other, ?_⟩)
      by_cases same : other = caller
      · subst same
        rw [stands] at taken
        cases taken
      · rw [setCleanup_other same]
        exact taken

theorem Kept.remove {held : Slot} {path : Bytes} {playout : List Bytes}
    (kept : Kept trace s)
    (stands : s.cleanups caller = .removing held (path :: playout)) :
    Kept (trace ++ (s.remove path).2)
      ((s.remove path).1.setCleanup caller (.removing held playout)) := by
  have guarded : Guarded (s.setCleanup caller (.removing held playout)) := by
    refine kept.toGuarded.proceed (fun _ => kept.cleanup caller ?_) nofun ?_
    · rw [stands]
      rfl
    · simp [stands, Cleanup.clearing]
  have known : ∀ other ∈ s.files, other ≠ path →
      (s.setCleanup caller (.removing held playout)).knows other := by
    intro other member different
    refine (kept.known other member).proceed ?_
    intro taken
    rw [stands] at taken
    exact (List.mem_cons.mp taken).resolve_left different
  by_cases there : path ∈ s.files
  · simp only [State.remove, if_pos there]
    refine ⟨⟨guarded.handler, guarded.cleanup, guarded.linked, guarded.seen,
      guarded.emptied⟩, ?_, ?_⟩
    · intro other member
      obtain ⟨present, different⟩ := List.mem_filter.mp member
      exact known other present (by simpa using different)
    · intro other
      rw [List.count_append, List.count_append, kept.counted other]
      by_cases same : other = path
      · subst same
        simp [there]
      · simp [same, Ne.symm same]
  · simp only [State.remove, if_neg there]
    refine ⟨guarded, ?_, ?_⟩
    · intro other member
      exact known other member (fun same => there (same ▸ member))
    · intro other
      rw [List.count_append, List.count_append]
      exact kept.counted other

theorem Kept.detach (kept : Kept trace s) (uncalled : Uncalled s)
    (attached : s.bug = true) : Kept trace s.detach := by
  have fresh := uncalled.attached attached
  have still : Kept trace { s with bug := false } :=
    ⟨⟨kept.handler, kept.cleanup, kept.linked, kept.seen, kept.emptied⟩,
      kept.known, kept.counted⟩
  exact still.proceed .entered nofun nofun (by simp [fresh, Cleanup.taken])
    (by simp [fresh, Cleanup.clearing])

theorem Uncalled.detach (uncalled : Uncalled s) (attached : s.bug = true) :
    Uncalled s.detach := by
  refine ⟨?_, nofun⟩
  intro adding
  have early := (uncalled.adding adding).1
  rw [attached] at early
  cases early

theorem Uncalled.proceed (uncalled : Uncalled s) (caller : Caller)
    (called : caller = .close → s.cleanups .close ≠ .notCalled)
    (start : s'.start = s.start) (bug : s'.bug = true → s.bug = true)
    (cleanups : s'.cleanups = (s.setCleanup caller stage).cleanups) :
    Uncalled s' := by
  have same : s.cleanups .close = .notCalled →
      s'.cleanups .close = .notCalled := by
    intro fresh
    rw [cleanups, setCleanup_other]
    · exact fresh
    · rintro rfl
      exact called rfl fresh
  constructor
  · intro adding
    obtain ⟨unattached, fresh⟩ := uncalled.adding (start ▸ adding)
    refine ⟨?_, same fresh⟩
    by_contra attached
    rw [bug (by simpa using attached)] at unattached
    cases unattached
  · exact fun attached => same (uncalled.attached (bug attached))

theorem stepCleanup_kept (kept : Kept trace s) (uncalled : Uncalled s)
    (step : stepCleanup s caller = some (s', events)) :
    Kept (trace ++ events) s' := by
  have inside := kept.cleanup caller
  cases stands : s.cleanups caller with
  | notCalled | returned => simp [stepCleanup, stands] at step
  | entered =>
      simp only [stepCleanup, stands] at step
      rw [← List.append_nil trace] at kept
      split at step <;> cases step
      all_goals
        exact kept.proceed _ nofun nofun (by rw [stands]; rfl)
          (by simp [stands, Cleanup.clearing])
  | resolved =>
      simp only [stepCleanup, stands] at step
      split at step <;> cases step
      rename_i free
      obtain ⟨handler, cleanups⟩ := kept.free free
      rw [List.append_nil]
      exact (kept.relock (some (.cleanup caller)) handler cleanups).proceed
        .locked (fun _ => rfl) nofun (by simp [stands, Cleanup.taken])
        (by simp [stands, Cleanup.clearing])
  | locked =>
      have mutex := inside (by rw [stands]; rfl)
      simp only [stepCleanup, stands] at step
      split at step <;> cases step
      · rw [List.append_nil]
        exact kept.unlock .returned (by rw [stands]; rfl) rfl nofun
          (by rw [stands]; rfl) (by rw [stands]; rfl)
      · rw [List.append_nil]
        exact kept.proceed _ (fun _ => mutex) nofun (by rw [stands]; rfl)
          (by simp [stands, Cleanup.clearing])
  | verified held =>
      simp only [stepCleanup, stands] at step
      cases step
      rw [List.append_nil]
      exact kept.clear stands
  | cleared held =>
      have mutex := inside (by rw [stands]; rfl)
      simp only [stepCleanup, stands] at step
      cases step
      rw [List.append_nil]
      refine kept.proceed _ (fun _ => mutex) ?_ (by rw [stands]; rfl) ?_
      · rintro _ _ ⟨⟩
        rfl
      · exact fun _ => rfl
  | taking held playout =>
      simp only [stepCleanup, stands] at step
      cases step
      rw [List.append_nil]
      exact kept.take stands
  | removing held playout =>
      cases playout with
      | nil =>
          have mutex := inside (by rw [stands]; rfl)
          simp only [stepCleanup, stands] at step
          cases step
          rw [List.append_nil]
          exact kept.proceed _ (fun _ => mutex) nofun (by rw [stands]; rfl)
            (by simp [stands, Cleanup.clearing])
      | cons path playout =>
          simp only [stepCleanup, stands] at step
          cases step
          exact kept.remove stands
  | handing held =>
      simp only [stepCleanup, stands] at step
      cases step
      rw [List.append_nil]
      exact kept.unlock _ (by rw [stands]; rfl) rfl nofun (by rw [stands]; rfl)
        (by rw [stands]; rfl)
  | unlocked held =>
      simp only [stepCleanup, stands] at step
      split at step <;> cases step
      · rename_i removes
        obtain ⟨stops, _, attached⟩ := removes
        rw [List.append_nil]
        have stays : s.detach.cleanups caller = s.cleanups caller :=
          setCleanup_other stops
        exact (kept.detach uncalled attached).proceed _ nofun nofun
          (by rw [stays, stands]; rfl)
          (by simp [stays, stands, Cleanup.clearing])
      · rw [List.append_nil]
        exact kept.proceed _ nofun nofun (by rw [stands]; rfl)
          (by simp [stands, Cleanup.clearing])
  | closing =>
      simp only [stepCleanup, stands] at step
      split at step <;> cases step
      rw [List.append_nil]
      exact kept.proceed _ nofun nofun (by rw [stands]; rfl)
        (by simp [stands, Cleanup.clearing])

theorem Kept.handle (kept : Kept trace s) (handler : Handler)
    (critical : handler.critical = true → s.mutex = some .handler)
    (linked : ∀ path next, handler = .storing path next → next = s.playout)
    (pending : s.handler.pending ⊆ handler.pending) :
    Kept trace { s with handler := handler } := by
  refine ⟨⟨critical, kept.cleanup, linked, kept.seen, kept.emptied⟩, ?_,
    kept.counted⟩
  intro path member
  rcases kept.known path member with held | listed | taken
  · exact .inl (pending held)
  · exact .inr (.inl listed)
  · exact .inr (.inr taken)

theorem Kept.opened {path : Bytes} (kept : Kept trace s)
    (stands : s.handler = .opening path) (ok : Bool) :
    Kept (trace ++ (s.open path ok).2)
      { (s.open path ok).1 with handler := .locking path } := by
  have moved : Kept trace { s with handler := .locking path } :=
    kept.handle _ nofun nofun (by simp [stands, Handler.pending])
  by_cases fresh : ok = true ∧ path ∉ s.files
  · simp only [State.open, if_pos fresh]
    refine ⟨⟨moved.handler, moved.cleanup, moved.linked, moved.seen,
      moved.emptied⟩, ?_, ?_⟩
    · intro other member
      rcases List.mem_cons.mp member with rfl | earlier
      · exact .inl List.mem_cons_self
      · exact moved.known other earlier
    · intro other
      rw [List.count_append, List.count_append, kept.counted other]
      by_cases same : other = path
      · subst same
        simp [fresh.2]
      · simp [same, Ne.symm same]
  · simp only [State.open, if_neg fresh, List.append_nil]
    exact moved

theorem Kept.store {path : Bytes} {next : List Bytes} (kept : Kept trace s)
    (own : s.slot = .own) (stands : s.handler = .storing path next) :
    Kept trace { s with
      playout := path :: next, handler := .unlocking path } := by
  obtain rfl := kept.linked path next stands
  have critical : s.handler.critical = true := by
    rw [stands]
    rfl
  refine ⟨⟨fun _ => kept.handler critical, kept.cleanup, nofun, ?_, ?_⟩, ?_,
    kept.counted⟩
  · intro caller held playout reading
    have outside := kept.excluded critical caller
    rw [show s.cleanups caller = .taking held playout from reading] at outside
    cases outside
  · exact fun lost => absurd own lost
  · intro other member
    rcases kept.known other member with pending | listed | taken
    · rw [stands] at pending
      obtain rfl := List.mem_singleton.mp pending
      exact .inr (.inl List.mem_cons_self)
    · exact .inr (.inl (List.mem_cons_of_mem _ listed))
    · exact .inr (.inr taken)

theorem stepHandler_kept {ok : Bool} (kept : Kept trace s)
    (allowed : whileOwn s (.handler ok) = true)
    (step : stepHandler config s ok = some (s', events)) :
    Kept (trace ++ events) s' := by
  have inside := kept.handler
  cases stands : s.handler with
  | idle => simp [stepHandler, stands] at step
  | raised data =>
      simp only [stepHandler, stands] at step
      split at step <;> cases step
      all_goals
        rw [List.append_nil]
        exact kept.handle _ nofun nofun (by simp [stands, Handler.pending])
  | found data =>
      cases data with
      | none =>
          simp only [stepHandler, stands] at step
          cases step
          rw [List.append_nil]
          exact kept.handle _ nofun nofun (by simp [stands, Handler.pending])
      | some data =>
          simp only [stepHandler, stands] at step
          split at step <;> cases step
          · rw [List.append_nil]
            exact kept.handle _ nofun nofun (by simp [stands, Handler.pending])
          · rename_i suffix _
            rw [List.append_nil]
            have moved := kept.handle
              (.opening (szFilePath config s.playCount suffix)) nofun nofun
              (by simp [stands, Handler.pending])
            exact ⟨⟨moved.handler, moved.cleanup, moved.linked, moved.seen,
              moved.emptied⟩, moved.known, moved.counted⟩
  | opening path =>
      simp only [stepHandler, stands] at step
      cases step
      exact kept.opened stands ok
  | locking path =>
      simp only [stepHandler, stands] at step
      split at step <;> cases step
      rename_i free
      obtain ⟨handler, cleanups⟩ := kept.free free
      rw [List.append_nil]
      exact (kept.relock (some .handler) handler cleanups).handle
        (.linking path) (fun _ => rfl) nofun (by simp [stands, Handler.pending])
  | linking path =>
      have mutex := inside (by rw [stands]; rfl)
      simp only [stepHandler, stands] at step
      cases step
      rw [List.append_nil]
      refine kept.handle _ (fun _ => mutex) ?_
        (by simp [stands, Handler.pending])
      rintro _ _ ⟨⟩
      rfl
  | storing path next =>
      have own : s.slot = .own := by
        simpa [whileOwn, stands] using allowed
      simp only [stepHandler, stands] at step
      cases step
      rw [List.append_nil]
      exact kept.store own stands
  | unlocking path =>
      have critical : s.handler.critical = true := by
        rw [stands]
        rfl
      simp only [stepHandler, stands] at step
      cases step
      rw [List.append_nil]
      exact (kept.handle (.responding (some path)) nofun nofun
        (by simp [stands, Handler.pending])).relock none rfl
        (kept.excluded critical)
  | responding file =>
      simp only [stepHandler, stands] at step
      cases step
      have moved := kept.handle .idle nofun nofun
        (by simp [stands, Handler.pending])
      refine ⟨moved.toGuarded, moved.known, ?_⟩
      intro path
      rw [List.count_append, List.count_append]
      exact moved.counted path

theorem step_kept {act : Act} (kept : Kept trace s) (uncalled : Uncalled s)
    (allowed : whileOwn s act = true)
    (taken : step config s act = some (s', events)) :
    Kept (trace ++ events) s' := by
  cases act with
  | start ok =>
      simp only [step, stepStart] at taken
      rw [← List.append_nil trace] at kept
      split at taken
      · split at taken <;> cases taken
        exact ⟨⟨kept.handler, kept.cleanup, kept.linked, kept.seen,
          kept.emptied⟩, kept.known, kept.counted⟩
      · cases taken
        exact ⟨⟨kept.handler, kept.cleanup, kept.linked, kept.seen,
          fun lost => absurd rfl lost⟩, kept.known, kept.counted⟩
      · cases taken
        exact ⟨⟨kept.handler, kept.cleanup, kept.linked, kept.seen,
          kept.emptied⟩, kept.known, kept.counted⟩
      · cases taken
  | message data =>
      simp only [step] at taken
      split at taken <;> cases taken
      rename_i free
      rw [List.append_nil]
      exact kept.handle _ nofun nofun (by simp [free.2, Handler.pending])
  | handler ok => exact stepHandler_kept kept allowed taken
  | callStop call =>
      simp only [step] at taken
      split at taken <;> cases taken
      rename_i fresh
      rw [List.append_nil]
      exact kept.proceed .entered nofun nofun (by rw [fresh]; rfl)
        (by simp [fresh, Cleanup.clearing])
  | hangup =>
      simp only [step] at taken
      split at taken <;> cases taken
      rename_i attached
      rw [List.append_nil]
      exact kept.detach uncalled attached
  | cleanup caller => exact stepCleanup_kept kept uncalled taken
  | other named =>
      have lost : s.slot ≠ .own := by simpa [whileOwn] using allowed
      simp only [step] at taken
      cases taken
      rw [List.append_nil]
      exact ⟨⟨kept.handler, kept.cleanup, kept.linked, kept.seen,
        fun _ => kept.emptied lost⟩, kept.known, kept.counted⟩
  | otherMessage =>
      simp only [step] at taken
      cases taken
      rw [List.append_nil]
      exact ⟨⟨kept.handler, kept.cleanup, kept.linked, kept.seen,
        kept.emptied⟩, kept.known, kept.counted⟩

theorem stepHandler_start {ok : Bool}
    (step : stepHandler config s ok = some (s', events)) :
    s'.start = s.start ∧ s'.bug = s.bug ∧ s'.cleanups = s.cleanups := by
  cases stands : s.handler with
  | idle => simp [stepHandler, stands] at step
  | opening path =>
      simp only [stepHandler, stands, State.open] at step
      cases step
      split
      · exact ⟨rfl, rfl, rfl⟩
      · exact ⟨rfl, rfl, rfl⟩
  | found data =>
      cases data with
      | none =>
          simp only [stepHandler, stands] at step
          cases step
          exact ⟨rfl, rfl, rfl⟩
      | some data =>
          simp only [stepHandler, stands] at step
          split at step <;> cases step
          all_goals exact ⟨rfl, rfl, rfl⟩
  | raised | locking =>
      simp only [stepHandler, stands] at step
      split at step <;> cases step
      all_goals exact ⟨rfl, rfl, rfl⟩
  | linking | storing | unlocking | responding =>
      simp only [stepHandler, stands] at step
      cases step
      exact ⟨rfl, rfl, rfl⟩

theorem stepCleanup_uncalled (uncalled : Uncalled s)
    (step : stepCleanup s caller = some (s', events)) : Uncalled s' := by
  have called : s.cleanups caller ≠ .notCalled := by
    intro fresh
    simp [stepCleanup, fresh] at step
  have called' : caller = .close → s.cleanups .close ≠ .notCalled := by
    rintro rfl
    exact called
  have proceed : ∀ {next : State} {stage : Cleanup}, next.start = s.start →
      next.bug = s.bug → next.cleanups = (s.setCleanup caller stage).cleanups →
      Uncalled next := by
    intro next stage start bug cleanups
    exact uncalled.proceed caller called' start (fun attached => bug ▸ attached)
      cleanups
  cases stands : s.cleanups caller with
  | notCalled | returned => simp [stepCleanup, stands] at step
  | entered | resolved | locked | closing =>
      simp only [stepCleanup, stands] at step
      split at step <;> cases step
      all_goals exact proceed rfl rfl rfl
  | verified | cleared | taking | handing =>
      simp only [stepCleanup, stands] at step
      cases step
      exact proceed rfl rfl rfl
  | removing held playout =>
      cases playout with
      | nil =>
          simp only [stepCleanup, stands] at step
          cases step
          exact proceed rfl rfl rfl
      | cons path playout =>
          simp only [stepCleanup, stands, State.remove] at step
          cases step
          split
          · exact proceed rfl rfl rfl
          · exact proceed rfl rfl rfl
  | unlocked held =>
      simp only [stepCleanup, stands] at step
      split at step <;> cases step
      · rename_i removes
        refine ⟨?_, nofun⟩
        intro adding
        have early := (uncalled.adding adding).1
        rw [removes.2.2] at early
        cases early
      · exact proceed rfl rfl rfl

theorem step_uncalled {act : Act} (uncalled : Uncalled s)
    (taken : step config s act = some (s', events)) : Uncalled s' := by
  cases act with
  | start ok =>
      simp only [step, stepStart] at taken
      split at taken
      · rename_i adding
        split at taken <;> cases taken
        exact ⟨nofun, fun _ => (uncalled.adding adding).2⟩
      · cases taken
        exact ⟨nofun, uncalled.attached⟩
      · cases taken
        exact ⟨nofun, uncalled.attached⟩
      · cases taken
  | handler ok =>
      obtain ⟨start, bug, cleanups⟩ := stepHandler_start taken
      constructor
      · rw [start, bug, cleanups]
        exact uncalled.adding
      · rw [bug, cleanups]
        exact uncalled.attached
  | callStop call =>
      simp only [step] at taken
      split at taken <;> cases taken
      exact uncalled.proceed (.stop call) nofun rfl id rfl
  | hangup =>
      simp only [step] at taken
      split at taken <;> cases taken
      rename_i attached
      exact uncalled.detach attached
  | cleanup caller => exact stepCleanup_uncalled uncalled taken
  | message data =>
      simp only [step] at taken
      split at taken <;> cases taken
      exact ⟨uncalled.adding, uncalled.attached⟩
  | other | otherMessage =>
      simp only [step] at taken
      cases taken
      exact ⟨uncalled.adding, uncalled.attached⟩

end Steps

theorem kept_fresh : Kept [] .fresh :=
  ⟨⟨nofun, nofun, nofun, nofun, fun _ => .inl rfl⟩, nofun, fun _ => rfl⟩

/-- As long as the handler finds the channel private its own when it puts a file
into the list, a session that is torn down leaves no file. -/
theorem playout_disposed {config : Config} {labels : List Act}
    {trace : List Event} {finish : State}
    (run : (machine config).Run whileOwn (machine config).initial labels trace
      finish) (down : TornDown finish) : Disposed trace finish := by
  have kept : Kept trace finish ∧ Uncalled finish := by
    refine run.induct (fun trace s => Kept trace s ∧ Uncalled s) ?_ ?_
    · exact ⟨kept_fresh, fun _ => ⟨rfl, rfl⟩, nofun⟩
    · intro trace s act s' events ⟨kept, uncalled⟩ allowed taken
      exact ⟨step_kept kept uncalled allowed taken,
        step_uncalled uncalled taken⟩
  exact kept.1.disposed down

/-- A session named a, whose files are in /tmp. -/
def sessionA : Config := ⟨ascii "/tmp", ascii "a"⟩

/-- Raw audio of 8000 samples a second. -/
def rawAudio : PlayAudio := ⟨some (ascii "raw"), some 8000, some []⟩

def connects : List Act := List.replicate 3 (.start true)

/-- A stop as a whole, with the CLOSE callback inside. -/
def stops (files : Nat) : List Act :=
  .callStop 0 :: List.replicate (9 + files) (.cleanup (.stop 0)) ++
    [.cleanup .close, .cleanup (.stop 0)]

/-- The file of a message that was handled before the stop. -/
theorem playout_disposed_of_stop :
    ∃ labels trace finish,
      (machine sessionA).Run whileOwn (machine sessionA).initial labels trace
          finish ∧
        TornDown finish ∧
        trace = [.created (ascii "/tmp/a_0.tmp.r8"),
          .playAudio (some (ascii "/tmp/a_0.tmp.r8")),
          .removed (ascii "/tmp/a_0.tmp.r8")] ∧
        Disposed trace finish := by
  let labels : List Act :=
    connects ++ Act.message (some rawAudio) ::
      List.replicate 8 (.handler true) ++ stops 1
  have executed : ((machine sessionA).exec whileOwn (machine sessionA).initial
      labels).isSome = true := by
    decide
  have run := Machine.run_of_exec (Option.some_get executed).symm
  have down : TornDown (((machine sessionA).exec whileOwn
      (machine sessionA).initial labels).get executed).1 := by
    refine ⟨.inr rfl, nofun, rfl, ?_⟩
    rintro ((_ | call) | _)
    · trivial
    · trivial
    · trivial
  exact ⟨labels, _, _, run, down, rfl, playout_disposed run down⟩

/-- The stop comes between the file and the list: the file stays, in a list
nobody will take. -/
theorem late_file_stays :
    ¬ ∀ (config : Config) (labels : List Act) (trace : List Event)
      (finish : State),
      (machine config).Run anyStep (machine config).initial labels trace
        finish → TornDown finish → Disposed trace finish := by
  intro always
  let labels : List Act :=
    connects ++ Act.message (some rawAudio) ::
      List.replicate 3 (.handler true) ++ stops 0 ++
      List.replicate 5 (Act.handler true)
  have executed : ((machine sessionA).exec anyStep (machine sessionA).initial
      labels).isSome = true := by
    decide
  have run := Machine.run_of_exec (Option.some_get executed).symm
  have down : TornDown (((machine sessionA).exec anyStep
      (machine sessionA).initial labels).get executed).1 := by
    refine ⟨.inr rfl, nofun, rfl, ?_⟩
    rintro ((_ | call) | _)
    · trivial
    · trivial
    · trivial
  exact nomatch (always _ _ _ _ run down).playout

end DrachtioModules.AudioFork.Playout

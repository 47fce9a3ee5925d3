import DrachtioModules.Machine
import Mathlib.Data.List.Basic
import Mathlib.Logic.Relation

/-!
# Lock orders

Threads that take and give back locks: mutexes, some of them recursive, and
read-write locks.  What a thread does besides is left out, so that a branch of
its code is a choice and a loop runs any number of times.  A thread may be born
with a lock that it gives back at its end, which is what another thread waits
for that joins it.

Where every command takes its locks in the order of their ranks, no reachable
state has a cycle of threads that wait for each other.
-/

namespace DrachtioModules.Locks

inductive Mode where
  | shared
  | exclusive
  deriving DecidableEq, Repr

/-- `tryLock` runs its body with the lock, which the body gives back, or does
nothing; `await` waits until nobody holds a lock, and does not take it. -/
inductive Cmd (ρ : Type*) where
  | skip
  | lock (r : ρ) (mode : Mode)
  | tryLock (r : ρ) (mode : Mode) (body : Cmd ρ)
  | unlock (r : ρ) (mode : Mode)
  | await (r : ρ)
  | seq (first second : Cmd ρ)
  | either (one other : Cmd ρ)
  | loop (body : Cmd ρ)
  deriving Repr

namespace Cmd

variable {ρ : Type*}

/-- Commands one after the other. -/
def block (commands : List (Cmd ρ)) : Cmd ρ := commands.foldr .seq .skip

/-- A command that may be left out. -/
def maybe (body : Cmd ρ) : Cmd ρ := .either .skip body

/-- A scope with a lock guard. -/
def guarded (r : ρ) (body : Cmd ρ) : Cmd ρ :=
  .seq (.lock r .exclusive) (.seq body (.unlock r .exclusive))

/-- A mutex is given back for a while. -/
def unlocked (r : ρ) (body : Cmd ρ) : Cmd ρ :=
  .seq (.unlock r .exclusive) (.seq body (.lock r .exclusive))

/-- A wait on a condition variable, which gives the mutex back meanwhile. -/
def wait (r : ρ) : Cmd ρ := unlocked r .skip

end Cmd

/-- What a thread is called to do, and the lock it is born with. -/
structure Call (ρ : Type*) where
  born : Option ρ
  body : Cmd ρ

/-- A rank for each lock, and which of them their holder may take again. -/
structure Discipline (ρ : Type*) where
  rank : ρ → Nat
  recursive : ρ → Bool

structure State (ρ τ : Type*) where
  holders : ρ → List (τ × Mode)
  todo : τ → List (Cmd ρ)

inductive Act (τ κ : Type*) where
  | call (t : τ) (k : κ)
  | step (t : τ) (choice : Bool)

section Steps

variable {ρ τ κ : Type*} [DecidableEq ρ] [DecidableEq τ]

namespace State

/-- The thread goes on. -/
def proceed (s : State ρ τ) (t : τ) (rest : List (Cmd ρ)) : State ρ τ :=
  { s with todo := Function.update s.todo t rest }

/-- A lock is taken. -/
def acquire (s : State ρ τ) (t : τ) (r : ρ) (mode : Mode) : State ρ τ :=
  { s with
    holders := Function.update s.holders r ((t, mode) :: s.holders r) }

/-- A lock is given back. -/
def release (s : State ρ τ) (t : τ) (r : ρ) (mode : Mode) : State ρ τ :=
  { s with
    holders := Function.update s.holders r ((s.holders r).erase (t, mode)) }

end State

/-- A holder does not keep thread t from taking the lock: both share it, or the
holder is t itself and the lock recursive. -/
def admits (d : Discipline ρ) (t : τ) (r : ρ) (mode : Mode)
    (holder : τ × Mode) : Bool :=
  (mode == .shared && holder.2 == .shared) ||
    (d.recursive r && holder.1 == t)

def available (d : Discipline ρ) (s : State ρ τ) (t : τ) (r : ρ)
    (mode : Mode) : Bool :=
  (s.holders r).all (admits d t r mode)

/-- One step of a thread that has `rest` to do afterwards. -/
def perform (d : Discipline ρ) (s : State ρ τ) (t : τ) (choice : Bool)
    (rest : List (Cmd ρ)) : Cmd ρ → Option (State ρ τ)
  | .skip => some (s.proceed t rest)
  | .lock r mode =>
      if available d s t r mode then
        some ((s.acquire t r mode).proceed t rest)
      else none
  | .tryLock r mode body =>
      if available d s t r mode then
        some ((s.acquire t r mode).proceed t (body :: rest))
      else some (s.proceed t rest)
  | .unlock r mode => some ((s.release t r mode).proceed t rest)
  | .await r =>
      if s.holders r = [] then some (s.proceed t rest) else none
  | .seq first second => some (s.proceed t (first :: second :: rest))
  | .either one other =>
      some (s.proceed t ((if choice then one else other) :: rest))
  | .loop body =>
      some (s.proceed t (if choice then body :: .loop body :: rest else rest))

/-- An idle thread is called. -/
def start (d : Discipline ρ) (s : State ρ τ) (t : τ) (call : Call ρ) :
    Option (State ρ τ) :=
  match s.todo t, call.born with
  | [], none => some (s.proceed t [call.body])
  | [], some r =>
      if available d s t r .shared then
        some ((s.acquire t r .shared).proceed t [call.body])
      else none
  | _ :: _, _ => none

def step (d : Discipline ρ) (calls : κ → Call ρ) (s : State ρ τ) :
    Act τ κ → Option (State ρ τ × List Empty)
  | .call t k => (start d s t (calls k)).map (·, [])
  | .step t choice =>
      match s.todo t with
      | [] => none
      | command :: rest => (perform d s t choice rest command).map (·, [])

/-- Any number of threads, each called again and again. -/
def machine (d : Discipline ρ) (calls : κ → Call ρ) (τ : Type*)
    [DecidableEq τ] : Machine (State ρ τ) (Act τ κ) Empty :=
  { initial := ⟨fun _ => [], fun _ => []⟩
    step := step d calls }

/-- Thread t waits for thread u: u holds the lock t wants in a mode that keeps t
out, or u waits to write what t wants to read, or u has yet to end. -/
inductive WaitsFor (d : Discipline ρ) (s : State ρ τ) (t u : τ) : Prop where
  | lock {r : ρ} {mode mode' : Mode} {rest : List (Cmd ρ)}
      (next : s.todo t = .lock r mode :: rest)
      (holds : (u, mode') ∈ s.holders r)
      (excluded : admits d t r mode (u, mode') = false)
  | queue {r : ρ} {rest rest' : List (Cmd ρ)} (plain : d.recursive r = false)
      (next : s.todo t = .lock r .shared :: rest)
      (writer : s.todo u = .lock r .exclusive :: rest')
      (waits : available d s u r .exclusive = false)
  | await {r : ρ} {mode : Mode} {rest : List (Cmd ρ)}
      (next : s.todo t = .await r :: rest)
      (holds : (u, mode) ∈ s.holders r)

/-- No thread waits for itself, directly or through others. -/
def NoCyclicWait (d : Discipline ρ) (s : State ρ τ) : Prop :=
  ∀ t, ¬ Relation.TransGen (WaitsFor d s) t t

end Steps

section Safe

variable {ρ : Type*}

/-- Every lock that is held has a lower rank. -/
def Above (d : Discipline ρ) (held : List (ρ × Mode)) (r : ρ) : Prop :=
  ∀ other ∈ held, d.rank other.1 < d.rank r

section Above

variable {d : Discipline ρ} {held : List (ρ × Mode)} {r r' : ρ}

theorem Above.nil (d : Discipline ρ) (r : ρ) : Above d [] r := by
  intro other member
  cases member

theorem Above.cons {mode : Mode} (above : Above d held r')
    (lower : d.rank r < d.rank r') : Above d ((r, mode) :: held) r' := by
  intro other member
  rcases List.mem_cons.mp member with rfl | member
  · exact lower
  · exact above other member

theorem Above.higher (above : Above d held r)
    (higher : d.rank r ≤ d.rank r') : Above d held r' :=
  fun other member => Nat.lt_of_lt_of_le (above other member) higher

end Above

/-- From `held` on, every lock the command takes is above those it holds then,
or held already and recursive, and what it holds at its end satisfies `post`. -/
def Cmd.Safe [DecidableEq ρ] (d : Discipline ρ) :
    Cmd ρ → List (ρ × Mode) → (List (ρ × Mode) → Prop) → Prop
  | .skip, held, post => post held
  | .lock r mode, held, post =>
      (Above d held r ∨ d.recursive r = true ∧ (r, .exclusive) ∈ held) ∧
        post ((r, mode) :: held)
  | .tryLock r mode body, held, post =>
      body.Safe d ((r, mode) :: held) post ∧ post held
  | .unlock r mode, held, post =>
      (r, mode) ∈ held ∧ post (held.erase (r, mode))
  | .await r, held, post => Above d held r ∧ post held
  | .seq first second, held, post =>
      first.Safe d held fun held' => second.Safe d held' post
  | .either one other, held, post =>
      one.Safe d held post ∧ other.Safe d held post
  | .loop body, held, post => body.Safe d held (· = held) ∧ post held

/-- A call that ends without a lock. -/
def Call.Safe [DecidableEq ρ] (d : Discipline ρ) (call : Call ρ) : Prop :=
  call.body.Safe d (call.born.toList.map (·, .shared)) (· = [])

/-- The rest of what a thread has to do, to the end without a lock. -/
def SafeAll [DecidableEq ρ] (d : Discipline ρ) :
    List (ρ × Mode) → List (Cmd ρ) → Prop
  | held, [] => held = []
  | held, command :: rest => command.Safe d held (SafeAll d · rest)

end Safe

section Rules

variable {ρ : Type*} [DecidableEq ρ] {d : Discipline ρ}
variable {held : List (ρ × Mode)} {post post' : List (ρ × Mode) → Prop}

theorem Cmd.Safe.mono {command : Cmd ρ} (safe : command.Safe d held post)
    (weaker : ∀ held', post held' → post' held') :
    command.Safe d held post' := by
  induction command generalizing held post post' with
  | skip => exact weaker _ safe
  | lock | unlock | await => exact ⟨safe.1, weaker _ safe.2⟩
  | tryLock r mode body ih => exact ⟨ih safe.1 weaker, weaker _ safe.2⟩
  | seq first second ih ih' =>
      exact ih safe fun held' safe' => ih' safe' weaker
  | either one other ih ih' => exact ⟨ih safe.1 weaker, ih' safe.2 weaker⟩
  | loop body => exact ⟨safe.1, weaker _ safe.2⟩

theorem Cmd.Safe.unlock_last {r : ρ} {mode : Mode} (next : post held) :
    (Cmd.unlock r mode).Safe d ((r, mode) :: held) post := by
  refine ⟨List.mem_cons_self, ?_⟩
  rw [List.erase_cons_head]
  exact next

theorem Cmd.Safe.unlock_then {command : Cmd ρ} {r : ρ} {mode : Mode}
    (next : command.Safe d held post) :
    (Cmd.seq (.unlock r mode) command).Safe d ((r, mode) :: held) post := by
  change (Cmd.unlock r mode).Safe d ((r, mode) :: held)
    fun held' => command.Safe d held' post
  exact unlock_last next

/-- A command that ends with the locks it began with. -/
def Cmd.Neutral (d : Discipline ρ) (held : List (ρ × Mode))
    (command : Cmd ρ) : Prop :=
  command.Safe d held (· = held)

namespace Cmd.Neutral

variable {command one other body : Cmd ρ} {r : ρ}

theorem safe (neutral : command.Neutral d held) (next : post held) :
    command.Safe d held post :=
  Cmd.Safe.mono neutral fun _ same => same ▸ next

theorem andThen (first : one.Neutral d held)
    (second : other.Safe d held post) : (Cmd.seq one other).Safe d held post :=
  first.safe second

theorem skip : (Cmd.skip : Cmd ρ).Neutral d held := rfl

theorem seq (first : one.Neutral d held) (second : other.Neutral d held) :
    (Cmd.seq one other).Neutral d held :=
  first.andThen second

theorem either (left : one.Neutral d held) (right : other.Neutral d held) :
    (Cmd.either one other).Neutral d held :=
  ⟨left, right⟩

theorem maybe (neutral : body.Neutral d held) :
    (Cmd.maybe body).Neutral d held :=
  either skip neutral

theorem loop (neutral : body.Neutral d held) :
    (Cmd.loop body).Neutral d held :=
  ⟨neutral, rfl⟩

theorem block {commands : List (Cmd ρ)}
    (each : ∀ command ∈ commands, command.Neutral d held) :
    (Cmd.block commands).Neutral d held := by
  induction commands with
  | nil => exact skip
  | cons command commands ih =>
      apply seq
      · exact each command List.mem_cons_self
      · exact ih fun other member => each other (List.mem_cons_of_mem _ member)

theorem await (above : Above d held r) : (Cmd.await r).Neutral d held :=
  ⟨above, rfl⟩

theorem guarded (above : Above d held r)
    (inside : body.Neutral d ((r, .exclusive) :: held)) :
    (Cmd.guarded r body).Neutral d held :=
  ⟨.inl above, inside.andThen (.unlock_last rfl)⟩

theorem unlocked (above : Above d held r) (outside : body.Neutral d held) :
    (Cmd.unlocked r body).Neutral d ((r, .exclusive) :: held) := by
  refine ⟨List.mem_cons_self, ?_⟩
  rw [List.erase_cons_head]
  exact outside.safe ⟨.inl above, rfl⟩

theorem wait (above : Above d held r) :
    (Cmd.wait r).Neutral d ((r, .exclusive) :: held) :=
  unlocked above skip

theorem tryLocked {mode : Mode} (inside : body.Neutral d ((r, mode) :: held)) :
    (Cmd.tryLock r mode (.seq body (.unlock r mode))).Neutral d held :=
  ⟨inside.andThen (.unlock_last rfl), rfl⟩

end Cmd.Neutral

end Rules

section Soundness

variable {ρ τ κ : Type*} [DecidableEq ρ] [DecidableEq τ]
variable {d : Discipline ρ} {s s' : State ρ τ} {t u : τ}
variable {held : List (ρ × Mode)} {rest : List (Cmd ρ)}

/-- The locks thread t holds. -/
def Owns (s : State ρ τ) (t : τ) (held : List (ρ × Mode)) : Prop :=
  ∀ r mode, (s.holders r).count (t, mode) = held.count (r, mode)

structure Ordered (d : Discipline ρ) (s : State ρ τ) : Prop where
  safe : ∀ t, ∃ held, Owns s t held ∧ SafeAll d held (s.todo t)
  alone : ∀ r t, (t, .exclusive) ∈ s.holders r →
    ∀ holder ∈ s.holders r, holder.1 = t

theorem Owns.mem_iff (owns : Owns s t held) {r : ρ} {mode : Mode} :
    (t, mode) ∈ s.holders r ↔ (r, mode) ∈ held := by
  rw [← List.count_pos_iff, ← List.count_pos_iff, owns r mode]

theorem Owns.acquire (owns : Owns s t held) (r : ρ) (mode : Mode) :
    Owns (s.acquire t r mode) t ((r, mode) :: held) := by
  intro other mode'
  by_cases same : other = r
  · subst same
    simp [State.acquire, List.count_cons, owns other mode']
  · simp [State.acquire, same, Ne.symm same, owns other mode']

theorem Owns.release (owns : Owns s t held) (r : ρ) (mode : Mode) :
    Owns (s.release t r mode) t (held.erase (r, mode)) := by
  intro other mode'
  by_cases same : other = r
  · subst same
    simp [State.release, List.count_erase, owns other mode']
  · simp [State.release, same, owns other mode']

theorem Owns.acquire_other (owns : Owns s u held) (different : u ≠ t) (r : ρ)
    (mode : Mode) : Owns (s.acquire t r mode) u held := by
  intro other mode'
  rw [← owns other mode']
  by_cases same : other = r
  · subst same
    simp [State.acquire, Ne.symm different]
  · simp [State.acquire, same]

theorem Owns.release_other (owns : Owns s u held) (different : u ≠ t) (r : ρ)
    (mode : Mode) : Owns (s.release t r mode) u held := by
  intro other mode'
  rw [← owns other mode']
  by_cases same : other = r
  · subst same
    simp [State.release, List.count_erase, Ne.symm different]
  · simp [State.release, same]

theorem Ordered.proceed (ordered : Ordered d s) (safe : SafeAll d held rest)
    (owns : Owns s' t held) (todo : s'.todo = s.todo)
    (others : ∀ {u : τ} {held' : List (ρ × Mode)}, u ≠ t → Owns s u held' →
      Owns s' u held')
    (alone : ∀ r u, (u, .exclusive) ∈ s'.holders r →
      ∀ holder ∈ s'.holders r, holder.1 = u) :
    Ordered d (s'.proceed t rest) := by
  refine ⟨fun u => ?_, alone⟩
  by_cases same : u = t
  · subst same
    refine ⟨held, owns, ?_⟩
    simpa [State.proceed] using safe
  · obtain ⟨held', owns', safe'⟩ := ordered.safe u
    refine ⟨held', others same owns', ?_⟩
    simpa [State.proceed, same, todo] using safe'

theorem Ordered.continue (ordered : Ordered d s) (owns : Owns s t held)
    (safe : SafeAll d held rest) : Ordered d (s.proceed t rest) :=
  ordered.proceed safe owns rfl (fun _ => id) ordered.alone

/-- Whoever holds a lock that thread t can take shares it or is t. -/
theorem Ordered.acquire (ordered : Ordered d s) {r : ρ} {mode : Mode}
    (free : available d s t r mode = true) (owns : Owns s t held)
    (safe : SafeAll d ((r, mode) :: held) rest) :
    Ordered d ((s.acquire t r mode).proceed t rest) := by
  refine ordered.proceed safe (owns.acquire r mode) rfl
    (fun different owns' => owns'.acquire_other different r mode) ?_
  have admitted : ∀ holder ∈ s.holders r,
      mode = .shared ∧ holder.2 = .shared ∨ holder.1 = t := by
    intro holder member
    have admits := List.all_eq_true.mp free holder member
    simp only [Locks.admits, Bool.or_eq_true, Bool.and_eq_true,
      beq_iff_eq] at admits
    exact admits.imp id And.right
  intro other u exclusive holder member
  by_cases same : other = r
  · subst same
    simp only [State.acquire, Function.update_self] at exclusive member
    rcases List.mem_cons.mp exclusive with first | earlier
    · obtain ⟨rfl, rfl⟩ := Prod.mk.inj first
      rcases List.mem_cons.mp member with rfl | before
      · rfl
      · exact (admitted holder before).resolve_left nofun
    · have mine : u = t := (admitted _ earlier).resolve_left nofun
      rcases List.mem_cons.mp member with rfl | before
      · exact mine.symm
      · exact ordered.alone other u earlier holder before
  · simp only [State.acquire, Function.update_of_ne same] at exclusive member
    exact ordered.alone other u exclusive holder member

theorem Ordered.release (ordered : Ordered d s) {r : ρ} {mode : Mode}
    (owns : Owns s t held) (safe : SafeAll d (held.erase (r, mode)) rest) :
    Ordered d ((s.release t r mode).proceed t rest) := by
  refine ordered.proceed safe (owns.release r mode) rfl
    (fun different owns' => owns'.release_other different r mode) ?_
  have kept : ∀ other, (s.release t r mode).holders other ⊆
      s.holders other := by
    intro other
    by_cases same : other = r
    · subst same
      simp only [State.release, Function.update_self]
      exact List.erase_subset
    · simp only [State.release, Function.update_of_ne same]
      exact List.Subset.refl _
  intro other u exclusive holder member
  exact ordered.alone other u (kept other exclusive) holder (kept other member)

theorem Ordered.perform (ordered : Ordered d s) {command : Cmd ρ}
    {choice : Bool} (next : s.todo t = command :: rest)
    (step : perform d s t choice rest command = some s') : Ordered d s' := by
  obtain ⟨held, owns, safe⟩ := ordered.safe t
  rw [next] at safe
  cases command with
  | skip =>
      cases step
      exact ordered.continue owns safe
  | lock r mode =>
      simp only [Locks.perform] at step
      split at step <;> cases step
      rename_i free
      exact ordered.acquire free owns safe.2
  | tryLock r mode body =>
      simp only [Locks.perform] at step
      split at step <;> cases step
      · rename_i free
        exact ordered.acquire free owns safe.1
      · exact ordered.continue owns safe.2
  | unlock r mode =>
      cases step
      exact ordered.release owns safe.2
  | await r =>
      simp only [Locks.perform] at step
      split at step <;> cases step
      exact ordered.continue owns safe.2
  | seq first second =>
      cases step
      exact ordered.continue owns safe
  | either one other =>
      cases step
      refine ordered.continue owns ?_
      cases choice with
      | true => exact safe.1
      | false => exact safe.2
  | loop body =>
      cases step
      refine ordered.continue owns ?_
      cases choice with
      | true =>
          refine Cmd.Safe.mono safe.1 ?_
          rintro _ rfl
          exact safe
      | false => exact safe.2

theorem Ordered.start (ordered : Ordered d s) {call : Call ρ}
    (safe : call.Safe d) (step : start d s t call = some s') :
    Ordered d s' := by
  obtain ⟨held, owns, idle⟩ := ordered.safe t
  simp only [Locks.start] at step
  split at step
  · rename_i todo born
    cases step
    rw [todo] at idle
    obtain rfl := idle
    rw [Call.Safe, born] at safe
    exact ordered.continue owns safe
  · rename_i r todo born
    split at step <;> cases step
    rename_i free
    rw [todo] at idle
    obtain rfl := idle
    rw [Call.Safe, born] at safe
    exact ordered.acquire free owns safe
  · cases step

/-- Every state is ordered where the calls that are admitted keep to the
order. -/
theorem ordered_of_admitted {calls : κ → Call ρ}
    {allowed : State ρ τ → Act τ κ → Bool}
    (safe : ∀ s t k, allowed s (.call t k) = true → (calls k).Safe d)
    {labels : List (Act τ κ)} {trace : List Empty}
    (run : (machine d calls τ).Run allowed (machine d calls τ).initial labels
      trace s) : Ordered d s := by
  refine run.invariant (Ordered d) ?_ ?_
  · exact ⟨fun _ => ⟨[], fun _ _ => rfl, rfl⟩, fun _ _ member => nomatch member⟩
  · intro before label after events ordered admitted taken
    cases label with
    | call t k =>
        obtain ⟨next, step, same⟩ := Option.map_eq_some_iff.mp taken
        cases same
        exact ordered.start (safe before t k admitted) step
    | step t choice =>
        simp only [machine, step] at taken
        split at taken
        · cases taken
        · rename_i todo
          obtain ⟨next, step, same⟩ := Option.map_eq_some_iff.mp taken
          cases same
          exact ordered.perform todo step

theorem ordered_of_run {calls : κ → Call ρ} (safe : ∀ k, (calls k).Safe d)
    {labels : List (Act τ κ)} {trace : List Empty}
    (run : (machine d calls τ).Run anyStep (machine d calls τ).initial labels
      trace s) : Ordered d s :=
  ordered_of_admitted (fun _ _ k _ => safe k) run

/-- How far up in the order the lock is that thread t wants; a writer stands
above the readers it holds up. -/
def urge (d : Discipline ρ) (s : State ρ τ) (t : τ) : Nat :=
  match s.todo t with
  | .lock r .shared :: _ => 2 * d.rank r
  | .lock r .exclusive :: _ | .await r :: _ => 2 * d.rank r + 1
  | _ => 0

/-- Whoever waits holds only locks below the one it wants. -/
theorem Ordered.above (ordered : Ordered d s) {v : τ} {r : ρ} {mode : Mode}
    (waits : WaitsFor d s u v) (holds : (u, mode) ∈ s.holders r) :
    2 * d.rank r + 1 < urge d s u := by
  obtain ⟨held, owns, safe⟩ := ordered.safe u
  have mine := owns.mem_iff.mp holds
  have wanted : ∀ other, Above d held other →
      d.rank r < d.rank other := fun other above => above _ mine
  cases waits with
  | @lock other mode' _ rest next holds' excluded =>
      rw [next] at safe
      have above := safe.1.resolve_right ?_
      · have lower := wanted other above
        cases mode' <;> simp only [urge, next] <;> omega
      · rintro ⟨recursive, exclusive⟩
        have same : v = u :=
          ordered.alone other u (owns.mem_iff.mpr exclusive) _ holds'
        simp [admits, recursive, same] at excluded
  | @queue other rest _ plain next =>
      rw [next] at safe
      have above := safe.1.resolve_right (by simp [plain])
      have lower := wanted other above
      simp only [urge, next]
      omega
  | @await other _ rest next =>
      rw [next] at safe
      have lower := wanted other safe.1
      simp only [urge, next]
      omega

/-- Along the waits of threads that wait, the locks that are wanted rise. -/
theorem Ordered.rises (ordered : Ordered d s) {v : τ}
    (waits : WaitsFor d s t u) (waits' : WaitsFor d s u v) :
    urge d s t < urge d s u := by
  cases waits with
  | @lock r mode _ rest next holds =>
      have above := ordered.above waits' holds
      cases mode <;> simp only [urge, next] at above ⊢ <;> omega
  | @queue r rest rest' _ next writer =>
      simp only [urge, next, writer]
      omega
  | @await r _ rest next holds =>
      have above := ordered.above waits' holds
      simp only [urge, next] at above ⊢
      omega

theorem Ordered.no_cyclic_wait (ordered : Ordered d s) : NoCyclicWait d s := by
  have rises : ∀ t u, Relation.TransGen (WaitsFor d s) t u →
      (∃ v, WaitsFor d s u v) → urge d s t < urge d s u := by
    intro t u path
    induction path with
    | single waits =>
        rintro ⟨v, waits'⟩
        exact ordered.rises waits waits'
    | tail _ waits ih =>
        rintro ⟨v, waits'⟩
        exact Nat.lt_trans (ih ⟨_, waits⟩) (ordered.rises waits waits')
  intro t cycle
  obtain ⟨u, waits, _⟩ := Relation.TransGen.head'_iff.mp cycle
  exact Nat.lt_irrefl _ (rises t t cycle ⟨u, waits⟩)

/-- Where all calls keep to the order, no thread ever waits for itself. -/
theorem no_cyclic_wait_of_safe {calls : κ → Call ρ}
    (safe : ∀ k, (calls k).Safe d) {labels : List (Act τ κ)}
    {trace : List Empty}
    (run : (machine d calls τ).Run anyStep (machine d calls τ).initial labels
      trace s) : NoCyclicWait d s :=
  (ordered_of_run safe run).no_cyclic_wait

end Soundness

end DrachtioModules.Locks

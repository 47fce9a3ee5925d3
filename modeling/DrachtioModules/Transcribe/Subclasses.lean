import DrachtioModules.Machine

/-!
# The event subclasses of the transcribe modules

mod_aws_transcribe, mod_azure_transcribe and mod_google_transcribe reserve the
names of their events when they are loaded.  The name of the error event is the
same in all three, so that at most one of them has it reserved, and whoever has
not must leave it alone: at unload, and also where a load fails half way and
gives back what it took.
-/

namespace DrachtioModules.Transcribe.Subclasses

inductive Module where
  | aws
  | azure
  | google
  deriving DecidableEq, Repr

def TRANSCRIBE_EVENT_ERROR : String := "jambonz_transcribe::error"

/-- The table `subclasses` of each load function; the shutdown function has the
same one. -/
def Module.subclasses : Module → List String
  | .aws =>
      ["aws_transcribe::transcription",
        "aws_transcribe::end_of_transcript",
        "aws_transcribe::no_audio_detected",
        "aws_transcribe::max_duration_exceeded",
        "aws_transcribe::vad_detected",
        TRANSCRIBE_EVENT_ERROR]
  | .azure =>
      ["azure_transcribe::transcription",
        "azure_transcribe::start_of_utterance",
        "azure_transcribe::end_of_utterance",
        "azure_transcribe::no_speech_detected",
        "azure_transcribe::vad_detected",
        TRANSCRIBE_EVENT_ERROR]
  | .google =>
      ["google_transcribe::transcription",
        "google_transcribe::end_of_utterance",
        "google_transcribe::start_of_transcript",
        "google_transcribe::end_of_transcript",
        "google_transcribe::no_audio_detected",
        "google_transcribe::max_duration_exceeded",
        "google_transcribe::play_interrupt",
        "google_transcribe::vad_detected",
        TRANSCRIBE_EVENT_ERROR]

def Module.N_RESERVED_SUBCLASSES : Module → Nat
  | .aws => 6
  | .azure => 6
  | .google => 9

/-- The check at the head of each load function never fails. -/
theorem Module.subclasses_length (mod : Module) :
    mod.subclasses.length = mod.N_RESERVED_SUBCLASSES := by
  cases mod <;> rfl

theorem Module.subclasses_nodup (mod : Module) : mod.subclasses.Nodup := by
  cases mod <;> decide

theorem Module.subclasses_shared {mod other : Module}
    (different : other ≠ mod) : ∀ name ∈ mod.subclasses,
    name ∈ other.subclasses → name = TRANSCRIBE_EVENT_ERROR := by
  cases mod <;> cases other <;> first | exact absurd rfl different | decide

/-- Who has a name reserved in the process: one of the three modules, or code
that is none of them. -/
inductive Owner where
  | module (mod : Module)
  | elsewhere
  deriving DecidableEq, Repr

/-- Where a module is in its load function (`loading`, and `failing` in the
loop that gives names back), or in its shutdown function. -/
inductive Stage where
  | unloaded
  | loading (i : Nat)
  | failing (i : Nat)
  | loaded
  | unloading (i : Nat)
  deriving DecidableEq, Repr

structure State where
  owner : String → Option Owner
  stage : Module → Stage
  g_reserved_subclasses : Module → Nat → Bool

def State.initial : State :=
  ⟨fun _ => none, fun _ => .unloaded, fun _ _ => false⟩

/-- One iteration of a loop is one step, as it reaches for the table of the
process at most once.  `iterate mod true` is the iteration in which
`switch_event_reserve_subclass` fails for a name that nobody has. -/
inductive Act where
  | load (mod : Module)
  | iterate (mod : Module) (fails : Bool)
  | shutdown (mod : Module) (active : Int)
  | reserve (name : String)
  | free (name : String)
  deriving DecidableEq, Repr

/-- What the module freed, and who had it reserved. -/
inductive Event where
  | freed (mod : Module) (name : String) (owner : Option Owner)
  | failed (mod : Module)
  | refused (mod : Module)
  deriving DecidableEq, Repr

namespace State

def move (state : State) (mod : Module) (stage : Stage) : State :=
  { state with stage := Function.update state.stage mod stage }

@[simp] theorem move_stage (state : State) (mod : Module) (stage : Stage) :
    (state.move mod stage).stage mod = stage :=
  Function.update_self ..

def flag (state : State) (mod : Module) (i : Nat) (value : Bool) : State :=
  { state with
    g_reserved_subclasses :=
      Function.update state.g_reserved_subclasses mod
        (Function.update (state.g_reserved_subclasses mod) i value) }

/-- `switch_event_reserve_subclass` and `switch_event_free_subclass`. -/
def own (state : State) (name : String) (owner : Option Owner) : State :=
  { state with owner := Function.update state.owner name owner }

/-- `if (g_reserved_subclasses[i]) switch_event_free_subclass(subclasses[i]);
g_reserved_subclasses[i] = 0;` -/
def giveBack (state : State) (mod : Module) (i : Nat) (name : String) :
    State × List Event :=
  if state.g_reserved_subclasses mod i then
    ((state.own name none).flag mod i false,
      [.freed mod name (state.owner name)])
  else
    (state.flag mod i false, [])

/-- An iteration of the loop in the load function. -/
def reserveNext (state : State) (mod : Module) (i : Nat) (name : String)
    (fails : Bool) : State :=
  match state.owner name with
  | some _ => (state.flag mod i false).move mod (.loading (i + 1))
  | none =>
      if fails then state.move mod (.failing i)
      else
        ((state.own name (some (.module mod))).flag mod i true).move mod
          (.loading (i + 1))

def iterate (state : State) (mod : Module) (fails : Bool) :
    Option (State × List Event) :=
  match state.stage mod with
  | .loading i =>
      match mod.subclasses[i]? with
      | some name => some (state.reserveNext mod i name fails, [])
      | none => some (state.move mod .loaded, [])
  | .failing 0 => some (state.move mod .unloaded, [.failed mod])
  | .failing (i + 1) =>
      (mod.subclasses[i]?).map fun name =>
        let (next, events) := state.giveBack mod i name
        (next.move mod (.failing i), events)
  | .unloading i =>
      match mod.subclasses[i]? with
      | some name =>
          let (next, events) := state.giveBack mod i name
          some (next.move mod (.unloading (i + 1)), events)
      | none => some (state.move mod .unloaded, [])
  | .unloaded | .loaded => none

end State

/-- A module that is none of the three reserves a name nobody has, and frees
only what such a module has reserved. -/
def step (state : State) : Act → Option (State × List Event)
  | .load mod =>
      if state.stage mod = .unloaded then
        if mod.subclasses.length ≠ mod.N_RESERVED_SUBCLASSES then
          some (state, [.failed mod])
        else some (state.move mod (.loading 0), [])
      else none
  | .iterate mod fails => state.iterate mod fails
  | .shutdown mod active =>
      if state.stage mod = .loaded then
        if 0 < active then some (state, [.refused mod])
        else some (state.move mod (.unloading 0), [])
      else none
  | .reserve name =>
      if state.owner name = none then
        some (state.own name (some .elsewhere), [])
      else none
  | .free name =>
      if state.owner name = some .elsewhere then some (state.own name none, [])
      else none

def machine : Machine State Act Event := ⟨.initial, step⟩

/-- Where in its loops the flags of a module must be down. -/
def Stage.past : Stage → Nat → Prop
  | .unloaded, _ => True
  | .loading i, j => i ≤ j
  | .failing i, j => i ≤ j
  | .unloading i, j => j < i
  | .loaded, _ => False

/-- The entries a module has gone through while it loads. -/
def Stage.before : Stage → Nat → Prop
  | .loading i, j => j < i
  | .loaded, _ => True
  | _, _ => False

/-- The flags of a module against the table of the process. -/
structure Accounts (state : State) (mod : Module) : Prop where
  held : ∀ i, state.g_reserved_subclasses mod i = true →
    ∃ name, mod.subclasses[i]? = some name ∧
      state.owner name = some (.module mod)
  listed : ∀ name, state.owner name = some (.module mod) →
    ∃ i, mod.subclasses[i]? = some name ∧
      state.g_reserved_subclasses mod i = true
  cleared : ∀ i, (state.stage mod).past i →
    state.g_reserved_subclasses mod i = false

/-- All that the books of a module depend on is as it was. -/
structure Untouched (mod : Module) (state next : State) : Prop where
  stage : next.stage mod = state.stage mod
  flags : next.g_reserved_subclasses mod = state.g_reserved_subclasses mod
  owner : ∀ name, next.owner name = some (.module mod) ↔
    state.owner name = some (.module mod)

theorem Accounts.untouched {state next : State} {mod : Module}
    (accounts : Accounts state mod) (same : Untouched mod state next) :
    Accounts next mod where
  held i := by
    intro up
    rw [same.flags] at up
    obtain ⟨name, entry, owned⟩ := accounts.held i up
    exact ⟨name, entry, (same.owner name).mpr owned⟩
  listed name := by
    intro owned
    obtain ⟨i, entry, up⟩ := accounts.listed name ((same.owner name).mp owned)
    exact ⟨i, entry, by rw [same.flags]; exact up⟩
  cleared i := by
    intro past
    rw [same.stage] at past
    rw [same.flags]
    exact accounts.cleared i past

namespace Untouched

variable {state next last : State} {mod other : Module}

theorem trans (first : Untouched mod state next)
    (second : Untouched mod next last) : Untouched mod state last where
  stage := second.stage.trans first.stage
  flags := second.flags.trans first.flags
  owner name := (second.owner name).trans (first.owner name)

theorem move (different : mod ≠ other) (stage : Stage) :
    Untouched mod state (state.move other stage) where
  stage := Function.update_of_ne different ..
  flags := rfl
  owner _ := Iff.rfl

theorem flag (different : mod ≠ other) (i : Nat) (value : Bool) :
    Untouched mod state (state.flag other i value) where
  stage := rfl
  flags := Function.update_of_ne different ..
  owner _ := Iff.rfl

theorem own {name : String} {value : Option Owner}
    (before : state.owner name ≠ some (.module mod))
    (after : value ≠ some (.module mod)) :
    Untouched mod state (state.own name value) where
  stage := rfl
  flags := rfl
  owner read := by
    by_cases same : read = name
    · subst same
      simp only [State.own, Function.update_self, before, after]
    · simp only [State.own, Function.update_of_ne same]

end Untouched

section Steps

variable {state next : State} {mod other : Module} {events : List Event}
variable {name : String} {i : Nat}

theorem Accounts.name_owned (accounts : Accounts state mod)
    (entry : mod.subclasses[i]? = some name) :
    state.g_reserved_subclasses mod i = true ↔
      state.owner name = some (.module mod) := by
  constructor
  · intro up
    obtain ⟨held, at', owned⟩ := accounts.held i up
    have same : held = name := Option.some.inj (at'.symm.trans entry)
    rw [← same]
    exact owned
  · intro owned
    obtain ⟨j, at', up⟩ := accounts.listed name owned
    have bound : j < mod.subclasses.length :=
      (List.getElem?_eq_some_iff.mp at').1
    have same : j = i :=
      (List.getElem?_inj bound mod.subclasses_nodup).mp
        (at'.trans entry.symm)
    rw [← same]
    exact up

/-- A module that gives a name back had it reserved, and nobody else is
touched. -/
theorem giveBack_elsewhere (accounts : Accounts state mod)
    (entry : mod.subclasses[i]? = some name) (different : other ≠ mod) :
    Untouched other state (state.giveBack mod i name).1 := by
  unfold State.giveBack
  split
  · next up =>
      have owned := (accounts.name_owned entry).mp up
      have freed : Untouched other state (state.own name none) :=
        .own (by rw [owned]; simpa using different.symm) (by simp)
      exact freed.trans (.flag different i false)
  · exact .flag different i false

theorem giveBack_events (accounts : Accounts state mod)
    (entry : mod.subclasses[i]? = some name)
    (event : Event) (shown : event ∈ (state.giveBack mod i name).2) :
    event = .freed mod name (some (.module mod)) := by
  unfold State.giveBack at shown
  split at shown
  · next up =>
      have owned := (accounts.name_owned entry).mp up
      rw [owned] at shown
      exact List.mem_singleton.mp shown
  · cases shown

theorem giveBack_stage :
    (state.giveBack mod i name).1.stage = state.stage := by
  unfold State.giveBack
  split <;> rfl

theorem giveBack_flags : (state.giveBack mod i name).1.g_reserved_subclasses
    mod = Function.update (state.g_reserved_subclasses mod) i false := by
  unfold State.giveBack
  split <;> exact Function.update_self ..

theorem Accounts.giveBack (accounts : Accounts state mod)
    (entry : mod.subclasses[i]? = some name) :
    Accounts (state.giveBack mod i name).1 mod := by
  have kept : ∀ read, (state.giveBack mod i name).1.owner read =
      some (.module mod) ↔
      state.owner read = some (.module mod) ∧ read ≠ name := by
    intro read
    unfold State.giveBack
    split
    · by_cases same : read = name
      · simp [State.own, State.flag, same]
      · simp [State.own, State.flag, same]
    · next down =>
        have unowned := mt (accounts.name_owned entry).mpr down
        constructor
        · intro owned
          exact ⟨owned, by rintro rfl; exact unowned owned⟩
        · exact And.left
  constructor
  · intro j up
    rw [giveBack_flags] at up
    obtain ⟨-, down⟩ | ⟨elsewhere, up⟩ := updated_entry up
    · cases down
    obtain ⟨read, at', owned⟩ := accounts.held j up
    refine ⟨read, at', (kept read).mpr ⟨owned, ?_⟩⟩
    rintro rfl
    have bound := (List.getElem?_eq_some_iff.mp at').1
    exact elsewhere
      ((List.getElem?_inj bound mod.subclasses_nodup).mp
        (at'.trans entry.symm))
  · intro read owned
    obtain ⟨owned, different⟩ := (kept read).mp owned
    obtain ⟨j, at', up⟩ := accounts.listed read owned
    refine ⟨j, at', ?_⟩
    rw [giveBack_flags, Function.update_of_ne]
    · exact up
    · rintro rfl
      exact different (Option.some.inj (at'.symm.trans entry))
  · intro j past
    rw [giveBack_stage] at past
    rw [giveBack_flags]
    by_cases same : j = i
    · subst same
      exact Function.update_self ..
    · rw [Function.update_of_ne same]
      exact accounts.cleared j past

theorem Accounts.move (accounts : Accounts state mod) {stage : Stage}
    (cleared : ∀ j, stage.past j →
      state.g_reserved_subclasses mod j = false) :
    Accounts (state.move mod stage) mod where
  held := accounts.held
  listed := accounts.listed
  cleared j := by
    intro past
    rw [State.move_stage] at past
    exact cleared j past

theorem Accounts.reserve (accounts : Accounts state mod)
    (staged : state.stage mod = .loading i)
    (entry : mod.subclasses[i]? = some name) :
    Accounts (((state.own name (some (.module mod))).flag mod i true).move mod
      (.loading (i + 1))) mod := by
  have flags : (((state.own name (some (.module mod))).flag mod i true).move
      mod (.loading (i + 1))).g_reserved_subclasses mod =
      Function.update (state.g_reserved_subclasses mod) i true :=
    Function.update_self ..
  have stage : (((state.own name (some (.module mod))).flag mod i true).move
      mod (.loading (i + 1))).stage mod = .loading (i + 1) :=
    Function.update_self ..
  constructor
  · intro j up
    rw [flags] at up
    obtain ⟨rfl, -⟩ | ⟨-, up⟩ := updated_entry up
    · exact ⟨name, entry, Function.update_self ..⟩
    obtain ⟨read, at', owned⟩ := accounts.held j up
    refine ⟨read, at', ?_⟩
    by_cases same : read = name
    · subst same
      exact Function.update_self ..
    · exact (Function.update_of_ne same ..).trans owned
  · intro read owned
    rw [flags]
    obtain ⟨rfl, -⟩ | ⟨different, owned⟩ := updated_entry owned
    · exact ⟨i, entry, Function.update_self ..⟩
    obtain ⟨j, at', up⟩ := accounts.listed read owned
    refine ⟨j, at', ?_⟩
    by_cases same : j = i
    · subst same
      exact Function.update_self ..
    · exact (Function.update_of_ne same ..).trans up
  · intro j past
    rw [stage] at past
    have later : i + 1 ≤ j := past
    rw [flags, Function.update_of_ne (by omega)]
    exact accounts.cleared j (by rw [staged]; exact Nat.le_of_succ_le later)

theorem flag_same (down : state.g_reserved_subclasses mod i = false) :
    state.flag mod i false = state := by
  unfold State.flag
  rw [← down, Function.update_eq_self, Function.update_eq_self]

/-- An iteration, said by what becomes of the books. -/
inductive Iterated (state : State) (mod : Module) :
    State → List Event → Prop where
  | moves {later : Stage} {events : List Event}
      (quiet : events = [] ∨ events = [.failed mod])
      (down : ∀ j, later.past j → state.g_reserved_subclasses mod j = false)
      (passed : ∀ j name, later.before j → mod.subclasses[j]? = some name →
        (state.stage mod).before j ∨ ∃ owner, owner ≠ .module mod ∧
          state.owner name = some owner) :
      Iterated state mod (state.move mod later) events
  | givesBack {i : Nat} {name : String} {later : Stage}
      (entry : mod.subclasses[i]? = some name)
      (next : ∀ j, later.past j → j = i ∨ (state.stage mod).past j)
      (leaves : ∀ j, ¬ later.before j) :
      Iterated state mod ((state.giveBack mod i name).1.move mod later)
        (state.giveBack mod i name).2
  | reserves {i : Nat} {name : String} (staged : state.stage mod = .loading i)
      (entry : mod.subclasses[i]? = some name)
      (free : state.owner name = none) :
      Iterated state mod
        (((state.own name (some (.module mod))).flag mod i true).move mod
          (.loading (i + 1))) []

theorem iterate_cases (accounts : Accounts state mod) {fails : Bool}
    (iterated : state.iterate mod fails = some (next, events)) :
    Iterated state mod next events := by
  have cleared := accounts.cleared
  unfold State.iterate at iterated
  split at iterated
  · next i staged =>
      rw [staged] at cleared
      have down := cleared i (Nat.le_refl i)
      split at iterated
      · next name entry =>
          cases iterated
          unfold State.reserveNext
          split
          · next owner taken =>
              -- INUSE: the flag is down already, so it is another's.
              have another : owner ≠ .module mod := by
                rintro rfl
                rw [(accounts.name_owned entry).mpr taken] at down
                cases down
              rw [flag_same down]
              refine .moves (.inl rfl)
                (fun j past => cleared j (Nat.le_of_succ_le past)) ?_
              intro j read passed entry'
              rw [staged]
              obtain passed | rfl := Nat.lt_succ_iff_lt_or_eq.mp passed
              · exact .inl passed
              · cases entry.symm.trans entry'
                exact .inr ⟨owner, another, taken⟩
          · next free =>
              split
              · exact .moves (.inl rfl) cleared fun _ _ passed => passed.elim
              · exact .reserves staged entry free
      · next beyond =>
          cases iterated
          refine .moves (.inl rfl) (fun _ past => past.elim) ?_
          intro j name _ entry
          rw [staged]
          have beyond := List.getElem?_eq_none_iff.mp beyond
          have bound := (List.getElem?_eq_some_iff.mp entry).1
          exact .inl (Nat.lt_of_lt_of_le bound beyond)
  · next staged =>
      rw [staged] at cleared
      cases iterated
      exact .moves (.inr rfl) (fun j _ => cleared j (Nat.zero_le j))
        fun _ _ passed => passed.elim
  · next i staged =>
      obtain ⟨name, entry, result⟩ := Option.map_eq_some_iff.mp iterated
      cases result
      refine .givesBack entry (fun j past => ?_) fun _ passed => passed.elim
      rw [staged]
      have later : i ≤ j := past
      obtain rfl | later := Nat.eq_or_lt_of_le later
      · exact .inl rfl
      · exact .inr later
  · next i staged =>
      split at iterated
      · next name entry =>
          cases iterated
          refine .givesBack entry (fun j past => ?_) fun _ passed => passed.elim
          rw [staged]
          exact (Nat.lt_succ_iff_lt_or_eq.mp past).symm
      · next beyond =>
          cases iterated
          refine .moves (.inl rfl) (fun j _ => ?_) fun _ _ passed => passed.elim
          by_contra up
          obtain ⟨name, entry, -⟩ :=
            accounts.held j (eq_true_of_ne_false up)
          -- The flags below `i` are down, and there is none from `i` on.
          have bound := (List.getElem?_eq_some_iff.mp entry).1
          have beyond := List.getElem?_eq_none_iff.mp beyond
          rw [staged] at cleared
          have below : j < i := by omega
          exact up (cleared j below)
  · cases iterated
  · cases iterated

theorem Iterated.accounts (iterated : Iterated state mod next events)
    (accounts : Accounts state mod) : Accounts next mod := by
  cases iterated with
  | moves quiet down passed => exact accounts.move down
  | @givesBack i _ _ entry past leaves =>
      refine (accounts.giveBack entry).move fun j later => ?_
      rw [giveBack_flags]
      by_cases same : j = i
      · subst same
        exact Function.update_self ..
      · rw [Function.update_of_ne same]
        exact accounts.cleared j ((past j later).resolve_left same)
  | reserves staged entry free => exact accounts.reserve staged entry

theorem Iterated.elsewhere (iterated : Iterated state mod next events)
    (accounts : Accounts state mod) (different : other ≠ mod) :
    Untouched other state next := by
  cases iterated with
  | moves => exact .move different _
  | givesBack entry =>
      exact (giveBack_elsewhere accounts entry different).trans
        (.move different _)
  | reserves staged entry free =>
      have taken : Untouched other state
          (state.own _ (some (.module mod))) :=
        .own (by rw [free]; simp) (by simpa using different.symm)
      exact (taken.trans (.flag different _ true)).trans (.move different _)

theorem Iterated.freed (iterated : Iterated state mod next events)
    (accounts : Accounts state mod) {freeing : Module} {owner : Option Owner}
    (shown : Event.freed freeing name owner ∈ events) :
    owner = some (.module freeing) := by
  cases iterated with
  | moves quiet => rcases quiet with rfl | rfl <;> simp at shown
  | givesBack entry =>
      have own := giveBack_events accounts entry _ shown
      cases own
      rfl
  | reserves => cases shown

end Steps

def Sound (state : State) : Prop := ∀ mod, Accounts state mod

theorem initial_sound : Sound .initial := fun mod =>
  { held := by intro i up; cases up
    listed := by intro name owned; cases owned
    cleared := fun _ _ => rfl }

/-- The module whose load or shutdown function takes the step. -/
def Act.acting : Act → Option Module
  | .load mod | .iterate mod _ | .shutdown mod _ => some mod
  | .reserve _ | .free _ => none

/-- A call of the shutdown function of `mod`. -/
def Act.shutsDown (mod : Module) : Act → Bool
  | .shutdown other _ => other = mod
  | _ => false

section Interleavings

variable {state next : State} {act : Act} {events : List Event}

theorem step_elsewhere (sound : Sound state)
    (stepped : step state act = some (next, events)) {mod : Module}
    (idle : act.acting ≠ some mod) : Untouched mod state next := by
  have refl : Untouched mod state state := ⟨rfl, rfl, fun _ => Iff.rfl⟩
  cases act with
  | load acting =>
      have different : mod ≠ acting := by rintro rfl; exact idle rfl
      simp only [step] at stepped
      split at stepped
      · split at stepped <;> cases stepped
        · exact refl
        · exact .move different _
      · cases stepped
  | iterate acting fails =>
      have different : mod ≠ acting := by rintro rfl; exact idle rfl
      exact (iterate_cases (sound acting) stepped).elsewhere (sound acting)
        different
  | shutdown acting active =>
      have different : mod ≠ acting := by rintro rfl; exact idle rfl
      simp only [step] at stepped
      split at stepped
      · split at stepped <;> cases stepped
        · exact refl
        · exact .move different _
      · cases stepped
  | reserve name =>
      simp only [step] at stepped
      split at stepped
      · next free =>
          cases stepped
          exact .own (by rw [free]; simp) (by simp)
      · cases stepped
  | free name =>
      simp only [step] at stepped
      split at stepped
      · next owned =>
          cases stepped
          exact .own (by rw [owned]; simp) (by simp)
      · cases stepped

theorem step_sound (sound : Sound state)
    (stepped : step state act = some (next, events)) : Sound next := by
  intro mod
  by_cases idle : act.acting ≠ some mod
  · exact (sound mod).untouched (step_elsewhere sound stepped idle)
  cases act with
  | load acting =>
      obtain rfl : acting = mod := Option.some.inj (not_not.mp idle)
      simp only [step] at stepped
      split at stepped
      · next unloaded =>
          have down : ∀ j, state.g_reserved_subclasses acting j = false := by
            intro j
            exact (sound acting).cleared j (by rw [unloaded]; trivial)
          split at stepped <;> cases stepped
          · exact sound acting
          · exact (sound acting).move fun j _ => down j
      · cases stepped
  | iterate acting fails =>
      obtain rfl : acting = mod := Option.some.inj (not_not.mp idle)
      exact (iterate_cases (sound acting) stepped).accounts (sound acting)
  | shutdown acting active =>
      obtain rfl : acting = mod := Option.some.inj (not_not.mp idle)
      simp only [step] at stepped
      split at stepped
      · split at stepped <;> cases stepped
        · exact sound acting
        · exact (sound acting).move fun j below =>
            absurd below (Nat.not_lt_zero j)
      · cases stepped
  | reserve | free => exact absurd (by rintro ⟨⟩) idle

theorem step_freed (sound : Sound state)
    (stepped : step state act = some (next, events)) {mod : Module}
    {name : String} {owner : Option Owner}
    (shown : Event.freed mod name owner ∈ events) :
    owner = some (.module mod) := by
  cases act with
  | iterate acting fails =>
      exact (iterate_cases (sound acting) stepped).freed (sound acting) shown
  | load | shutdown =>
      simp only [step] at stepped
      split at stepped
      · split at stepped <;> cases stepped <;> simp at shown
      · cases stepped
  | reserve | free =>
      simp only [step] at stepped
      split at stepped
      · cases stepped
        cases shown
      · cases stepped

/-- A module that is loaded moves again only when it is shut down. -/
theorem step_loaded (sound : Sound state)
    (stepped : step state act = some (next, events)) {mod : Module}
    (loaded : state.stage mod = .loaded)
    (stays : act.shutsDown mod = false) :
    Untouched mod state next := by
  apply step_elsewhere sound stepped
  intro acting
  cases act with
  | load other =>
      obtain rfl : other = mod := Option.some.inj acting
      simp [step, loaded] at stepped
  | iterate other fails =>
      obtain rfl : other = mod := Option.some.inj acting
      simp [step, State.iterate, loaded] at stepped
  | shutdown other active =>
      obtain rfl : other = mod := Option.some.inj acting
      simp [Act.shutsDown] at stays
  | reserve | free => cases acting

variable {labels : List Act} {trace : List Event}

theorem run_sound (sound : Sound state)
    (run : machine.Run anyStep state labels trace next) : Sound next :=
  run.invariant Sound sound fun kept _ stepped => step_sound kept stepped

theorem run_freed (run : machine.Run anyStep .initial labels trace next)
    {mod : Module} {name : String} {owner : Option Owner}
    (shown : Event.freed mod name owner ∈ trace) :
    owner = some (.module mod) := by
  have frees : Sound next ∧ ∀ mod name owner,
      Event.freed mod name owner ∈ trace → owner = some (.module mod) := by
    refine run.induct (fun trace state => Sound state ∧ ∀ mod name owner,
      Event.freed mod name owner ∈ trace → owner = some (.module mod))
      ⟨initial_sound, by simp⟩ ?_
    intro trace state label next events ⟨sound, earlier⟩ _ stepped
    refine ⟨step_sound sound stepped, fun mod name owner shown => ?_⟩
    rcases List.mem_append.mp shown with shown | shown
    · exact earlier mod name owner shown
    · exact step_freed sound stepped shown
  exact frees.2 mod name owner shown

theorem run_loaded (sound : Sound state) {mod : Module}
    (loaded : state.stage mod = .loaded)
    (run : machine.Run (fun _ act => !act.shutsDown mod) state labels trace
      next) :
    Untouched mod state next := by
  have kept : Sound next ∧ Untouched mod state next := by
    refine run.invariant (fun reached => Sound reached ∧
      Untouched mod state reached)
      ⟨sound, rfl, rfl, fun _ => Iff.rfl⟩ ?_
    intro reached label next events ⟨sound, same⟩ stays stepped
    exact ⟨step_sound sound stepped, same.trans
      (step_loaded sound stepped (same.stage.trans loaded)
        (by simpa using stays))⟩
  exact kept.2

end Interleavings

/-- Where nobody else takes a name of a module, the module has it once it has
gone through the name's entry. -/
structure Filled (state : State) (mod : Module) (name : String) : Prop where
  unclaimed : state.owner name ≠ some .elsewhere
  filled : ∀ j, (state.stage mod).before j → mod.subclasses[j]? = some name →
    state.owner name = some (.module mod)

section Names

variable {state next : State} {act : Act} {events : List Event}
variable {mod : Module} {name : String}

/-- Only code that is none of the three puts its own name into the table. -/
theorem step_elsewhere_owner (sound : Sound state)
    (stepped : step state act = some (next, events))
    (claimed : next.owner name = some .elsewhere) :
    state.owner name = some .elsewhere ∨ act = .reserve name := by
  cases act with
  | load other | shutdown other active =>
      simp only [step] at stepped
      split at stepped
      · split at stepped <;> cases stepped <;> exact .inl claimed
      · cases stepped
  | iterate other fails =>
      cases iterate_cases (sound other) stepped with
      | moves => exact .inl claimed
      | givesBack =>
          unfold State.giveBack at claimed
          split at claimed
          · obtain ⟨-, gone⟩ | ⟨-, claimed⟩ := updated_entry claimed
            · cases gone
            · exact .inl claimed
          · exact .inl claimed
      | reserves =>
          obtain ⟨-, own⟩ | ⟨-, claimed⟩ := updated_entry claimed
          · cases own
          · exact .inl claimed
  | reserve other =>
      simp only [step] at stepped
      split at stepped
      · cases stepped
        obtain ⟨rfl, -⟩ | ⟨-, claimed⟩ := updated_entry claimed
        · exact .inr rfl
        · exact .inl claimed
      · cases stepped
  | free other =>
      simp only [step] at stepped
      split at stepped
      · cases stepped
        obtain ⟨-, gone⟩ | ⟨-, claimed⟩ := updated_entry claimed
        · cases gone
        · exact .inl claimed
      · cases stepped

theorem Iterated.filled (iterated : Iterated state mod next events)
    (sound : Sound state) (kept : Filled state mod name)
    (own : name ≠ TRANSCRIBE_EVENT_ERROR) (j : Nat)
    (passed : (next.stage mod).before j)
    (entry : mod.subclasses[j]? = some name) :
    next.owner name = some (.module mod) := by
  cases iterated with
  | moves quiet down past =>
      rw [State.move_stage] at passed
      obtain earlier | ⟨owner, another, taken⟩ := past j name passed entry
      · exact kept.filled j earlier entry
      cases owner with
      | elsewhere => exact absurd taken kept.unclaimed
      | module other =>
          have different : other ≠ mod := by rintro rfl; exact another rfl
          obtain ⟨i, entry', -⟩ := (sound other).listed name taken
          exact absurd (Module.subclasses_shared different name
            (List.mem_of_getElem? entry) (List.mem_of_getElem? entry')) own
  | givesBack entry' past leaves =>
      rw [State.move_stage] at passed
      exact absurd passed (leaves j)
  | @reserves i reserved staged entry' free =>
      rw [State.move_stage] at passed
      obtain passed | rfl := Nat.lt_succ_iff_lt_or_eq.mp passed
      · have earlier := kept.filled j (by rw [staged]; exact passed) entry
        by_cases same : name = reserved
        · subst same
          exact Function.update_self ..
        · exact (Function.update_of_ne same ..).trans earlier
      · cases entry.symm.trans entry'
        exact Function.update_self ..

theorem step_filled (own : name ≠ TRANSCRIBE_EVENT_ERROR) (sound : Sound state)
    (kept : Filled state mod name)
    (stepped : step state act = some (next, events))
    (quiet : act ≠ .reserve name) : Filled next mod name := by
  constructor
  · intro claimed
    obtain claimed | taken := step_elsewhere_owner sound stepped claimed
    · exact kept.unclaimed claimed
    · exact quiet taken
  intro j passed entry
  by_cases idle : act.acting ≠ some mod
  · have same := step_elsewhere sound stepped idle
    rw [same.stage] at passed
    exact (same.owner name).mpr (kept.filled j passed entry)
  cases act with
  | load acting | shutdown acting active =>
      obtain rfl : acting = mod := Option.some.inj (not_not.mp idle)
      simp only [step] at stepped
      split at stepped
      · split at stepped <;> cases stepped
        · exact kept.filled j passed entry
        · rw [State.move_stage] at passed
          simp [Stage.before] at passed
      · cases stepped
  | iterate acting fails =>
      obtain rfl : acting = mod := Option.some.inj (not_not.mp idle)
      exact (iterate_cases (sound acting) stepped).filled sound kept own j
        passed entry
  | reserve | free => exact absurd (by rintro ⟨⟩) idle

theorem run_filled (own : name ≠ TRANSCRIBE_EVENT_ERROR) {labels : List Act}
    {trace : List Event}
    (run : machine.Run anyStep .initial labels trace state)
    (quiet : .reserve name ∉ labels) : Filled state mod name := by
  induction run with
  | nil =>
      exact { unclaimed := by rintro ⟨⟩
              filled := fun j passed => passed.elim }
  | snoc earlier _ stepped ih =>
      have sound := run_sound initial_sound earlier
      simp only [List.mem_append, List.mem_singleton, not_or] at quiet
      exact step_filled own sound (ih quiet.1) stepped (Ne.symm quiet.2)

end Names

/-- Whatever the order in which the three modules are loaded, fail to load and
are unloaded, and whatever else is reserved meanwhile: a module frees a name
only while it is the one that has it reserved; its flags say which names it
has; it has none unless it is loading, loaded or unloading; once loaded it has every
name but that of the error event, unless other code has reserved that very name
at some time; and it keeps what it has until it is shut down. -/
theorem reservations_owned {labels : List Act} {trace : List Event}
    {state : State}
    (run : machine.Run anyStep machine.initial labels trace state) :
    (∀ mod name owner, Event.freed mod name owner ∈ trace →
      owner = some (.module mod)) ∧
    (∀ (mod : Module) i name, mod.subclasses[i]? = some name →
      (state.g_reserved_subclasses mod i = true ↔
        state.owner name = some (.module mod))) ∧
    (∀ mod, state.stage mod = .unloaded →
      ∀ name, state.owner name ≠ some (.module mod)) ∧
    ∀ mod, state.stage mod = .loaded →
      (∀ name ∈ mod.subclasses, name ≠ TRANSCRIBE_EVENT_ERROR →
        .reserve name ∉ labels → state.owner name = some (.module mod)) ∧
      ∀ labels' trace' later,
        machine.Run (fun _ act => !act.shutsDown mod) state labels' trace'
          later →
        ∀ name, later.owner name = some (.module mod) ↔
          state.owner name = some (.module mod) := by
  have sound := run_sound initial_sound run
  refine ⟨fun mod name owner => run_freed run,
    fun mod i name => (sound mod).name_owned, ?_, ?_⟩
  · intro mod unloaded name owned
    obtain ⟨i, -, up⟩ := (sound mod).listed name owned
    have down := (sound mod).cleared i (by rw [unloaded]; trivial)
    rw [down] at up
    cases up
  · intro mod loaded
    constructor
    · intro name listed own quiet
      obtain ⟨j, entry⟩ := List.mem_iff_getElem?.mp listed
      exact (run_filled own run quiet).filled j (by rw [loaded]; trivial) entry
    · intro labels' trace' later run' name
      exact (run_loaded sound loaded run').owner name

/-- mod_azure_transcribe is loaded first, mod_aws_transcribe fails after its
first name, and mod_azure_transcribe is unloaded. -/
def failedLoad : List Act :=
  .load .azure :: List.replicate 7 (.iterate .azure false) ++
    [.load .aws, .iterate .aws false, .iterate .aws true, .iterate .aws false,
      .iterate .aws false, .shutdown .azure 0] ++
    List.replicate 7 (.iterate .azure false)

/-- Another module has the name of the error event when mod_google_transcribe is
loaded. -/
def takenError : List Act :=
  .reserve TRANSCRIBE_EVENT_ERROR :: .load .google ::
    List.replicate 10 (.iterate .google false)

theorem reservations_owned_of_failed_load :
    (∃ state trace,
      machine.Run anyStep machine.initial failedLoad trace state ∧
        Event.failed .aws ∈ trace ∧
        (∀ name owner, Event.freed .aws name owner ∈ trace →
          owner = some (.module .aws)) ∧
        ∀ name, state.owner name ≠ some (.module .azure)) ∧
    ∃ state trace,
      machine.Run anyStep machine.initial takenError trace state ∧
        state.owner TRANSCRIBE_EVENT_ERROR = some .elsewhere ∧
        ∀ name ∈ Module.google.subclasses, name ≠ TRANSCRIBE_EVENT_ERROR →
          state.owner name = some (.module .google) := by
  constructor
  · have executed : (machine.exec anyStep machine.initial failedLoad).map
        (fun outcome => decide (Event.failed .aws ∈ outcome.2) &&
          decide (outcome.1.stage .azure = .unloaded)) = some true := by
      decide
    obtain ⟨state, trace, run, observed⟩ :=
      Machine.exists_run_of_exec _ executed
    simp only [Bool.and_eq_true, decide_eq_true_eq] at observed
    obtain ⟨freed, -, released, -⟩ := reservations_owned run
    exact ⟨state, trace, run, observed.1, freed .aws,
      released .azure observed.2⟩
  · have executed : (machine.exec anyStep machine.initial takenError).map
        (fun outcome => decide (outcome.1.stage .google = .loaded) &&
          decide (outcome.1.owner TRANSCRIBE_EVENT_ERROR = some .elsewhere)) =
        some true := by
      decide
    obtain ⟨state, trace, run, observed⟩ :=
      Machine.exists_run_of_exec _ executed
    simp only [Bool.and_eq_true, decide_eq_true_eq] at observed
    obtain ⟨-, -, -, loaded⟩ := reservations_owned run
    refine ⟨state, trace, run, observed.2, fun name listed own => ?_⟩
    apply (loaded .google observed.1).1 name listed own
    simp [takenError, own]

end DrachtioModules.Transcribe.Subclasses

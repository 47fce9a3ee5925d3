import DrachtioModules.Family

/-!
# Starts and stops of the transcription modules

`start_capture`, `do_stop` and `capture_callback` are the same in
mod_aws_transcribe, mod_azure_transcribe and mod_google_transcribe.  The n-th
call of `start_capture` creates the session n: its `cap_cb` and its media bug.
The calls meet in the channel private of their bugname, which holds a media
bug; everything else a session shares with them it keeps in its `cap_cb`.
-/

namespace DrachtioModules.Transcribe

/-- Who runs a stop: a stop command, the `do_stop` of a start that finds a
previous session, or the CLOSE callback of the session's own bug. -/
inductive Caller where
  | stop (call : Nat)
  | start (n : Nat)
  | close
  deriving DecidableEq, Repr

/-- `channelIsClosing`. -/
def Caller.closing : Caller → Bool
  | .close => true
  | .stop _ | .start _ => false

/-- A stop that is not a CLOSE callback, by the bug it resolved. -/
inductive Call (κ : Type) where
  | notCalled
  | asked (bugname : κ)
  | resolved (bug : Nat)
  | unlocked (bug : Nat)
  | removing (bug : Nat)
  | returned
  deriving DecidableEq, Repr

/-- `κ` names the channel privates: a bugname on a channel. -/
structure Channel (κ : Type) where
  starts : Nat
  stops : Nat
  privates : κ → Option Nat
  calls : Caller → Call κ

/-- A call of `start_capture`; `ι` are the stages of the module's
`session_init`. -/
inductive StartStage (ι : Type) where
  | notCalled
  | entered
  | replacing
  | initializing (stage : ι)
  | adding
  | cleaning
  | attached
  | returned (success : Bool)
  deriving DecidableEq, Repr

/-- The CLOSE callback of the session's bug. -/
inductive Close where
  | notCalled
  | called
  | returned
  deriving DecidableEq, Repr

/-- `attached` says that the bug is one of the FreeSWITCH session's. -/
structure Life (κ ι : Type) where
  bugname : Option κ
  start : StartStage ι
  attached : Bool
  close : Close
  deriving DecidableEq, Repr

/-- `switch_core_media_bug_add` has succeeded: there is a bug. -/
def StartStage.added {ι : Type} : StartStage ι → Bool
  | .attached | .returned true => true
  | _ => false

/-- `session_init` has not ended. -/
def StartStage.early {ι : Type} : StartStage ι → Bool
  | .notCalled | .entered | .replacing | .initializing _ => true
  | _ => false

theorem StartStage.late_of_added {ι : Type} {stage : StartStage ι}
    (added : stage.added = true) : stage.early = false := by
  cases stage with
  | attached => rfl
  | returned success => rfl
  | _ => cases added

/-- Who has the `cap_cb` to himself: the holder of `cb->mutex`, which is the
media thread in a frame or a stop, or the start whose bug was never attached. -/
inductive Owner (φ θ ω : Type) where
  | nobody
  | frame (stage : φ)
  | stop (caller : Caller) (stage : θ)
  | start (stage : ω)
  deriving DecidableEq, Repr

/-- The CLOSE callback has the `cap_cb`. -/
def Owner.closes {φ θ ω : Type} : Owner φ θ ω → Bool
  | .stop caller _ => caller.closing
  | .nobody | .frame _ | .start _ => false

/-- The steps the modules share; what a step reads of the channel is in its
label. -/
inductive Control (κ : Type) where
  | callStart (bugname : κ)
  | look (occupied : Bool)
  | proceed
  | publish
  | resolve (caller : Caller)
  | remove (caller : Caller)
  | removed (caller : Caller)
  | hangup
  deriving DecidableEq, Repr

inductive Notice (κ : Type) where
  | called
  | replacing (bugname : κ)
  | published (bugname : κ)
  | resolved (caller : Caller)
  | cleared (caller : Caller) (bugname : κ)
  | unlocked (caller : Caller)
  | removing (caller : Caller)
  | returned (caller : Caller)
  deriving DecidableEq, Repr

/-- The call of a start. -/
def Notice.isCalled {κ : Type} : Notice κ → Bool
  | .called => true
  | _ => false

/-- Who uses a GStreamer. -/
inductive User where
  | frame
  | thread
  | sdk
  | stop
  | start
  deriving DecidableEq, Repr

/-- What becomes of a GStreamer and of the thread it is made or read by; a use
of one that is gone is `dangling`. -/
inductive Lifetime where
  | spawned
  | created
  | joined
  | handed
  | deleted
  | dangling (user : User)
  deriving DecidableEq, Repr

/-- The calls that find no session. -/
inductive Outside (κ : Type) where
  | callStop (bugname : κ)
  | giveUp (caller : Caller)
  deriving DecidableEq, Repr

namespace Channel

variable {κ : Type} [DecidableEq κ]

def setCall (c : Channel κ) (caller : Caller) (call : Call κ) : Channel κ :=
  { c with calls := Function.update c.calls caller call }

def setPrivate (c : Channel κ) (bugname : κ) (bug : Option Nat) : Channel κ :=
  { c with privates := Function.update c.privates bugname bug }

/-- The channel private of the session's bugname. -/
def slot (c : Channel κ) {ι : Type} (life : Life κ ι) : Option Nat :=
  life.bugname.bind c.privates

/-- What a step of session n says about the channel is so. -/
def allows (c : Channel κ) (n : Nat) {ι : Type} (life : Life κ ι) :
    Control κ → Bool
  | .callStart _ => decide (c.starts = n)
  | .look occupied => decide (occupied = (c.slot life).isSome)
  | .proceed => decide (c.calls (.start n) = .returned)
  | .resolve caller =>
      match life.bugname with
      | none => false
      | some bugname =>
          decide (c.calls caller = .asked bugname) &&
            decide (c.privates bugname = some n)
  | .remove caller => decide (c.calls caller = .unlocked n)
  | .removed caller => decide (c.calls caller = .removing n)
  | .publish | .hangup => true

/-- A stop may take `cb->mutex` of session n. -/
def admits (c : Channel κ) (n : Nat) : Caller → Bool
  | .close => true
  | caller => decide (c.calls caller = .resolved n)

def write (n : Nat) (c : Channel κ) : Notice κ → Channel κ
  | .called => { c with starts := c.starts + 1 }
  | .replacing bugname => c.setCall (.start n) (.asked bugname)
  | .published bugname => c.setPrivate bugname (some n)
  | .resolved caller => c.setCall caller (.resolved n)
  | .cleared _ bugname => c.setPrivate bugname none
  | .unlocked caller => c.setCall caller (.unlocked n)
  | .removing caller => c.setCall caller (.removing n)
  | .returned caller => c.setCall caller .returned

/-- A `do_stop`, or the lookup in `session_stop`, that finds no bug. -/
def stepOutside (c : Channel κ) : Outside κ → Option (Channel κ)
  | .callStop bugname =>
      some ({ c with stops := c.stops + 1 }.setCall (.stop c.stops)
        (.asked bugname))
  | .giveUp caller =>
      match c.calls caller with
      | .asked bugname =>
          if c.privates bugname = none then some (c.setCall caller .returned)
          else none
      | _ => none

def fresh (κ : Type) : Channel κ :=
  { starts := 0
    stops := 0
    privates := fun _ => none
    calls := fun _ => .notCalled }

omit [DecidableEq κ] in
theorem starts_of_outside {c c' : Channel κ} {act : Outside κ}
    (step : c.stepOutside act = some c') : c'.starts = c.starts := by
  cases act with
  | callStop bugname =>
      cases step
      rfl
  | giveUp caller =>
      simp only [stepOutside] at step
      split at step
      · split at step <;> cases step
        rfl
      · cases step

end Channel

namespace Life

variable {κ ι : Type}

def fresh (κ ι : Type) : Life κ ι :=
  { bugname := none
    start := .notCalled
    attached := false
    close := .notCalled }

def setStart (life : Life κ ι) (stage : StartStage ι) : Life κ ι :=
  { life with start := stage }

/-- `switch_core_media_bug_remove`, or the end of the call: the bug leaves the
FreeSWITCH session and its CLOSE callback is called. -/
def detach (life : Life κ ι) : Life κ ι :=
  { life with attached := false, close := .called }

/-- `first` is where `session_init` begins. -/
def step (first : ι) (life : Life κ ι) :
    Control κ → Option (Life κ ι × List (Notice κ))
  | .callStart bugname =>
      match life.start with
      | .notCalled =>
          some ({ life with bugname := some bugname, start := .entered },
            [.called])
      | _ => none
  | .look occupied =>
      match life.start, life.bugname with
      | .entered, some bugname =>
          if occupied then
            some (life.setStart .replacing, [.replacing bugname])
          else some (life.setStart (.initializing first), [])
      | _, _ => none
  | .proceed =>
      match life.start with
      | .replacing => some (life.setStart (.initializing first), [])
      | _ => none
  | .publish =>
      match life.start, life.bugname with
      | .attached, some bugname =>
          some (life.setStart (.returned true), [.published bugname])
      | _, _ => none
  | .resolve caller =>
      if life.start.added then some (life, [.resolved caller]) else none
  | .remove caller =>
      if life.attached then some (life.detach, [.removing caller])
      else some (life, [.returned caller])
  -- the CLOSE callback has run inside switch_core_media_bug_remove
  | .removed caller =>
      match life.close with
      | .returned => some (life, [.returned caller])
      | _ => none
  | .hangup => if life.attached then some (life.detach, []) else none

/-- The branches of `step`. -/
inductive Step (first : ι) (life : Life κ ι) :
    Control κ → Life κ ι → List (Notice κ) → Prop where
  | call {bugname : κ} (fresh : life.start = .notCalled) :
      Step first life (.callStart bugname)
        { life with bugname := some bugname, start := .entered } [.called]
  | replace {bugname : κ} (entered : life.start = .entered)
      (named : life.bugname = some bugname) :
      Step first life (.look true) (life.setStart .replacing)
        [.replacing bugname]
  | enter {bugname : κ} (entered : life.start = .entered)
      (named : life.bugname = some bugname) :
      Step first life (.look false) (life.setStart (.initializing first)) []
  | proceed (replacing : life.start = .replacing) :
      Step first life .proceed (life.setStart (.initializing first)) []
  | publish {bugname : κ} (attached : life.start = .attached)
      (named : life.bugname = some bugname) :
      Step first life .publish (life.setStart (.returned true))
        [.published bugname]
  | resolve {caller : Caller} (added : life.start.added = true) :
      Step first life (.resolve caller) life [.resolved caller]
  | remove {caller : Caller} (attached : life.attached = true) :
      Step first life (.remove caller) life.detach [.removing caller]
  | removeGone {caller : Caller} (detached : life.attached = false) :
      Step first life (.remove caller) life [.returned caller]
  | removed {caller : Caller} (closed : life.close = .returned) :
      Step first life (.removed caller) life [.returned caller]
  | hangup (attached : life.attached = true) :
      Step first life .hangup life.detach []

theorem step_cases {first : ι} {life life' : Life κ ι} {act : Control κ}
    {notices : List (Notice κ)}
    (step : life.step first act = some (life', notices)) :
    Step first life act life' notices := by
  cases act with
  | callStart bugname =>
      simp only [Life.step] at step
      split at step <;> cases step
      rename_i fresh
      exact .call fresh
  | look occupied =>
      simp only [Life.step] at step
      split at step
      · rename_i entered named
        split at step <;> cases step <;> rename_i answer
        · rw [answer]
          exact .replace entered named
        · rw [Bool.not_eq_true] at answer
          rw [answer]
          exact .enter entered named
      · cases step
  | proceed =>
      simp only [Life.step] at step
      split at step <;> cases step
      rename_i replacing
      exact .proceed replacing
  | publish =>
      simp only [Life.step] at step
      split at step <;> cases step
      rename_i attached named
      exact .publish attached named
  | resolve caller =>
      simp only [Life.step] at step
      split at step <;> cases step
      rename_i added
      exact .resolve added
  | remove caller =>
      simp only [Life.step] at step
      split at step <;> cases step <;> rename_i attached
      · exact .remove attached
      · exact .removeGone (by simpa using attached)
  | removed caller =>
      simp only [Life.step] at step
      split at step <;> cases step
      rename_i closed
      exact .removed closed
  | hangup =>
      simp only [Life.step] at step
      split at step <;> cases step
      rename_i attached
      exact .hangup attached

/-- A stage of the start from which `session_init` begins, and which the start
has left when it returns, is not entered later. -/
theorem Step.before {first : ι} {life life' : Life κ ι} {act : Control κ}
    {notices : List (Notice κ)} (step : Step first life act life' notices)
    (within : StartStage ι → Bool) (uncalled : within .notCalled = true)
    (entered : within .entered = true) (replacing : within .replacing = true)
    (returned : within (.returned true) = false)
    (after : within life'.start = true) : within life.start = true := by
  cases step with
  | call start =>
      rw [start]
      exact uncalled
  | replace start | enter start =>
      rw [start]
      exact entered
  | proceed start =>
      rw [start]
      exact replacing
  | publish =>
      dsimp only [setStart] at after
      rw [returned] at after
      cases after
  | resolve | remove | removeGone | removed | hangup => exact after

theorem Step.early {first : ι} {life life' : Life κ ι} {act : Control κ}
    {notices : List (Notice κ)} (step : Step first life act life' notices)
    (early : life'.start.early = true) : life.start.early = true :=
  step.before StartStage.early rfl rfl rfl rfl early

/-- A bug that is attached, or whose CLOSE callback is called, is one
`switch_core_media_bug_add` has made, and it is called only once. -/
structure Hooked (life : Life κ ι) : Prop where
  added : life.attached = true ∨ life.close ≠ .notCalled →
    life.start.added = true
  attached : life.attached = true → life.close = .notCalled

theorem hooked_fresh : Hooked (.fresh κ ι) := by
  constructor <;> simp [fresh]

theorem Hooked.unhooked {life : Life κ ι} (hooked : life.Hooked)
    (early : life.start.added = false) :
    life.attached = false ∧ life.close = .notCalled := by
  constructor
  · by_contra attached
    rw [Bool.not_eq_false] at attached
    have added := hooked.added (.inl attached)
    rw [early] at added
    cases added
  · by_contra close
    have added := hooked.added (.inr close)
    rw [early] at added
    cases added

theorem Hooked.setStart {life : Life κ ι} (hooked : life.Hooked)
    (early : life.start.added = false) (stage : StartStage ι) :
    (life.setStart stage).Hooked := by
  obtain ⟨detached, uncalled⟩ := hooked.unhooked early
  constructor <;> simp [Life.setStart, detached, uncalled]

theorem Hooked.attach {life : Life κ ι} (hooked : life.Hooked)
    (early : life.start.added = false) :
    ({ life with start := .attached, attached := true } :
      Life κ ι).Hooked := by
  constructor
  · exact fun _ => rfl
  · exact fun _ => (hooked.unhooked early).2

theorem Hooked.closed {life : Life κ ι} (hooked : life.Hooked)
    (called : life.close = .called) :
    ({ life with close := .returned } : Life κ ι).Hooked := by
  constructor
  · exact fun _ => hooked.added (.inr (by simp [called]))
  · intro attached
    rw [hooked.attached attached] at called
    cases called

theorem Hooked.step {first : ι} {life life' : Life κ ι} {act : Control κ}
    {notices : List (Notice κ)} (hooked : life.Hooked)
    (step : Step first life act life' notices) : life'.Hooked := by
  cases step with
  | call start =>
      obtain ⟨detached, uncalled⟩ := hooked.unhooked (by rw [start]; rfl)
      constructor <;> simp [detached, uncalled]
  | replace start | enter start | proceed start =>
      exact hooked.setStart (by rw [start]; rfl) _
  | publish =>
      constructor
      · exact fun _ => rfl
      · exact hooked.attached
  | remove attached | hangup attached =>
      constructor
      · exact fun _ => hooked.added (.inl attached)
      · intro still
        cases still
  | resolve | removeGone | removed => exact hooked

/-- The start has failed, or the CLOSE callback has returned. -/
def ended (life : Life κ ι) : Prop :=
  life.start = .returned false ∨ life.close = .returned

theorem Step.ended {first : ι} {life life' : Life κ ι} {act : Control κ}
    {notices : List (Notice κ)} (step : Step first life act life' notices)
    (ended : life'.ended) : life.ended := by
  cases step with
  | call | replace | enter | proceed | publish =>
      rcases ended with failed | closed
      · cases failed
      · exact .inr closed
  | remove | hangup =>
      rcases ended with failed | closed
      · exact .inl failed
      · cases closed
  | resolve | removeGone | removed => exact ended

/-- Only the call of a start calls one. -/
theorem Step.calls {first : ι} {life life' : Life κ ι} {act : Control κ}
    {notices : List (Notice κ)} (step : Step first life act life' notices) :
    (∃ bugname, act = .callStart bugname) ∧ notices = [.called] ∨
      notices.countP Notice.isCalled = 0 ∧
        (life.start = .notCalled → life'.start = .notCalled) := by
  cases step with
  | call => exact .inl ⟨⟨_, rfl⟩, rfl⟩
  | replace start | enter start | proceed start | publish start =>
      exact .inr ⟨rfl, by simp [start]⟩
  | resolve | remove | removeGone | removed | hangup => exact .inr ⟨rfl, id⟩

theorem Step.called {first : ι} {life life' : Life κ ι} {act : Control κ}
    {notices : List (Notice κ)} (step : Step first life act life' notices)
    (called : life.close = .called) : life'.close = .called := by
  cases step with
  | remove | hangup => rfl
  | _ => exact called

theorem Step.initializing {first stage : ι} {life life' : Life κ ι}
    {act : Control κ} {notices : List (Notice κ)}
    (step : Step first life act life' notices)
    (after : life'.start = .initializing stage) (later : stage ≠ first) :
    life.start = .initializing stage := by
  cases step with
  | enter | proceed =>
      cases after
      exact (later rfl).elim
  | call | replace | publish => cases after
  | resolve | remove | removeGone | removed | hangup => exact after

theorem Step.within {first stage : ι} {life life' : Life κ ι}
    {act : Control κ} {notices : List (Notice κ)}
    (step : Step first life act life' notices)
    (before : life.start = .initializing stage) :
    life'.start = .initializing stage := by
  cases step with
  | call start | replace start | enter start | proceed start | publish start =>
      rw [start] at before
      cases before
  | resolve | remove | removeGone | removed | hangup => exact before

end Life

end DrachtioModules.Transcribe

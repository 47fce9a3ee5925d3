import DrachtioModules.Machine

/-!
# Pause and resume

`fork_frame` looks at `audio_paused` and `graceful_shutdown` before it tries to
lock the mutex of the `private_t`, under which `fork_session_pauseresume`
empties the buffer of the media bug and then writes the flag.  So a frame
callback may be late by one look, and a frame that comes in between the flush
and the write is in the buffer when the flag changes.

The model is one session of mod_audio_fork from its attached bug on.  A frame of
the bug's buffer stands for the moment it was captured.
-/

namespace DrachtioModules.AudioFork.PauseResume

/-- A frame in the buffer of the bug, by its number.  It is told apart by how
often `audio_paused` had been written when it was captured, by what the flag
was then, and by the value a pause or resume between its flush and its write
was going to give it. -/
structure Frame where
  index : Nat
  writes : Nat
  paused : Bool
  pending : Option Bool
  deriving DecidableEq, Repr

/-- The calls that meet under the mutex: `fork_session_pauseresume`,
`fork_session_graceful_shutdown` and `fork_session_cleanup`. -/
inductive Request where
  | pauseresume (pause : Bool)
  | gracefulShutdown
  | cleanup
  deriving DecidableEq, Repr

/-- The next step of a call. -/
inductive Stage where
  | entered
  | resolved
  | locked
  | verified
  | acted
  | unlocking
  deriving DecidableEq, Repr

/-- Who holds the mutex of the `private_t`. -/
inductive Holder where
  | callback
  | call (n : Nat)
  deriving DecidableEq, Repr

/-- Where the frame callback stands; from its look at `audio_paused` on with the
number of writes it has seen. -/
inductive Callback where
  | idle
  | unpaused (seen : Nat)
  | checked (seen : Nat)
  | locked (seen : Nat)
  | reading (seen : Nat)
  | leaving (seen : Nat)
  deriving DecidableEq, Repr

/-- `attached` says that the channel private names the bug, `connected` that the
pipe is in LWS_CLIENT_CONNECTED. -/
structure State where
  bug : List Frame
  captured : Nat
  writes : Nat
  audioPaused : Bool
  gracefulShutdown : Bool
  audioPipe : Bool
  connected : Bool
  attached : Bool
  mutex : Option Holder
  callback : Callback
  calls : Nat → Option (Request × Stage)

/-- One step: the core captures a frame, the connection opens or closes, the
frame callback goes on, a call is made, a call goes on.  With a resampler the
callback leaves its loop once a frame has made the buffer of the pipe `full`. -/
inductive Act where
  | capture
  | lws (connected : Bool)
  | frame (full : Bool)
  | call (n : Nat) (request : Request)
  | advance (n : Nat)
  deriving DecidableEq, Repr

/-- `forwarded` is a frame that was read for the pipe, by a callback that had
seen that many writes. -/
inductive Event where
  | forwarded (frame : Frame) (seen : Nat)
  | wrote (n : Nat) (pause : Bool)
  deriving DecidableEq, Repr

/-- The value that a call between its flush and its write is about to write. -/
def State.pending (s : State) : Option Bool :=
  match s.mutex with
  | some (.call n) =>
      match s.calls n with
      | some (.pauseresume pause, .acted) => some pause
      | _ => none
  | _ => none

def stepCapture (s : State) : State :=
  { s with
    bug := s.bug ++ [⟨s.captured, s.writes, s.audioPaused, s.pending⟩]
    captured := s.captured + 1 }

/-- Behind a frame that was put into the buffer of the pipe. -/
def Callback.onward (seen : Nat) (full : Bool) : Callback :=
  if full then .leaving seen else .reading seen

/-- `fork_frame`; the two flags are read one after the other, and the read of
the bug takes the oldest frame. -/
def stepFrame (s : State) (full : Bool) : State × List Event :=
  match s.callback with
  | .idle =>
      if s.audioPaused then (s, [])
      else ({ s with callback := .unpaused s.writes }, [])
  | .unpaused seen =>
      if s.gracefulShutdown then ({ s with callback := .idle }, [])
      else ({ s with callback := .checked seen }, [])
  | .checked seen =>
      match s.mutex with
      | none =>
          ({ s with mutex := some .callback, callback := .locked seen }, [])
      | some _ => ({ s with callback := .idle }, [])
  | .locked seen =>
      if s.audioPipe ∧ s.connected then
        ({ s with callback := .reading seen }, [])
      else ({ s with mutex := none, callback := .idle }, [])
  | .reading seen =>
      match s.bug with
      | [] => ({ s with mutex := none, callback := .idle }, [])
      | frame :: bug =>
          ({ s with
            bug := bug
            callback := .onward seen full }, [.forwarded frame seen])
  | .leaving _ => ({ s with mutex := none, callback := .idle }, [])

def State.setCall (s : State) (n : Nat) (call : Option (Request × Stage)) :
    State :=
  { s with calls := Function.update s.calls n call }

/-- The first thing a call does once it knows that the bug is attached. -/
def State.act (s : State) : Request → State
  | .pauseresume _ => { s with bug := [] }
  | .gracefulShutdown => { s with gracefulShutdown := true }
  | .cleanup => { s with attached := false }

/-- What it does next: write the flag, shut the pipe down, hand it to the
reaper. -/
def State.finish (s : State) (n : Nat) : Request → State × List Event
  | .pauseresume pause =>
      ({ s with audioPaused := pause, writes := s.writes + 1 },
        [.wrote n pause])
  | .gracefulShutdown => (s, [])
  | .cleanup => ({ s with audioPipe := false }, [])

def stepCall (s : State) (n : Nat) : Option (State × List Event) :=
  match s.calls n with
  | none => none
  | some (request, .entered) =>
      if s.attached then some (s.setCall n (some (request, .resolved)), [])
      else some (s.setCall n none, [])
  | some (request, .resolved) =>
      match s.mutex with
      | none =>
          some ({ s with mutex := some (.call n) }.setCall n
            (some (request, .locked)), [])
      | some _ => none
  | some (request, .locked) =>
      if s.attached then some (s.setCall n (some (request, .verified)), [])
      else some (s.setCall n (some (request, .unlocking)), [])
  | some (request, .verified) =>
      some ((s.act request).setCall n (some (request, .acted)), [])
  | some (request, .acted) =>
      some (((s.finish n request).1).setCall n (some (request, .unlocking)),
        (s.finish n request).2)
  | some (_, .unlocking) => some ({ s with mutex := none }.setCall n none, [])

def step (s : State) : Act → Option (State × List Event)
  | .capture => some (stepCapture s, [])
  | .lws connected => some ({ s with connected := connected }, [])
  | .frame full => some (stepFrame s full)
  | .call n request =>
      match s.calls n with
      | none => some (s.setCall n (some (request, .entered)), [])
      | some _ => none
  | .advance n => stepCall s n

def State.fresh : State :=
  { bug := []
    captured := 0
    writes := 0
    audioPaused := false
    gracefulShutdown := false
    audioPipe := true
    connected := false
    attached := true
    mutex := none
    callback := .idle
    calls := fun _ => none }

def machine : Machine State Act Event :=
  { initial := .fresh
    step := step }

/-- The calls hold the mutex from one of these stages to the next. -/
def Stage.holds : Stage → Bool
  | .entered | .resolved => false
  | .locked | .verified | .acted | .unlocking => true

/-- What the callback in progress has seen of the flag. -/
def Callback.seen : Callback → Option Nat
  | .idle => none
  | .unpaused seen | .checked seen | .locked seen | .reading seen
  | .leaving seen => some seen

def Callback.holds : Callback → Bool
  | .idle | .unpaused _ | .checked _ => false
  | .locked _ | .reading _ | .leaving _ => true

def Callback.reads : Callback → Bool
  | .reading _ => true
  | _ => false

theorem Callback.seen_onward (seen : Nat) (full : Bool) :
    (Callback.onward seen full).seen = some seen := by
  cases full <;> rfl

inductive Taken (s : State) : Act → State → List Event → Prop where
  | capture : Taken s .capture (stepCapture s) []
  | lws {connected : Bool} :
      Taken s (.lws connected) { s with connected := connected } []
  | skip {full : Bool} (idle : s.callback = .idle) :
      Taken s (.frame full) s []
  | look {full : Bool} (idle : s.callback = .idle)
      (resumed : s.audioPaused = false) :
      Taken s (.frame full) { s with callback := .unpaused s.writes } []
  | shut {full : Bool} {seen : Nat} (unpaused : s.callback = .unpaused seen) :
      Taken s (.frame full) { s with callback := .idle } []
  | check {full : Bool} {seen : Nat} (unpaused : s.callback = .unpaused seen)
      (running : s.gracefulShutdown = false) :
      Taken s (.frame full) { s with callback := .checked seen } []
  | lock {full : Bool} {seen : Nat} (checked : s.callback = .checked seen)
      (free : s.mutex = none) :
      Taken s (.frame full)
        { s with mutex := some .callback, callback := .locked seen } []
  | yield {full : Bool} {seen : Nat} (checked : s.callback = .checked seen) :
      Taken s (.frame full) { s with callback := .idle } []
  | read {full : Bool} {seen : Nat} (locked : s.callback = .locked seen)
      (present : s.audioPipe = true) :
      Taken s (.frame full) { s with callback := .reading seen } []
  | leave {full : Bool} (locked : s.callback.holds = true) :
      Taken s (.frame full) { s with mutex := none, callback := .idle } []
  | forward {full : Bool} {seen : Nat} {frame : Frame} {bug : List Frame}
      (reading : s.callback = .reading seen) (filled : s.bug = frame :: bug) :
      Taken s (.frame full)
        { s with bug := bug, callback := .onward seen full }
        [.forwarded frame seen]
  | call {n : Nat} {request : Request} (fresh : s.calls n = none) :
      Taken s (.call n request) (s.setCall n (some (request, .entered))) []
  | miss {n : Nat} {request : Request}
      (entered : s.calls n = some (request, .entered)) :
      Taken s (.advance n) (s.setCall n none) []
  | resolve {n : Nat} {request : Request}
      (entered : s.calls n = some (request, .entered)) :
      Taken s (.advance n) (s.setCall n (some (request, .resolved))) []
  | take {n : Nat} {request : Request}
      (resolved : s.calls n = some (request, .resolved))
      (free : s.mutex = none) :
      Taken s (.advance n)
        ({ s with mutex := some (.call n) }.setCall n
          (some (request, .locked))) []
  | verify {n : Nat} {request : Request}
      (locked : s.calls n = some (request, .locked)) :
      Taken s (.advance n) (s.setCall n (some (request, .verified))) []
  | stale {n : Nat} {request : Request}
      (locked : s.calls n = some (request, .locked)) :
      Taken s (.advance n) (s.setCall n (some (request, .unlocking))) []
  | act {n : Nat} {request : Request}
      (verified : s.calls n = some (request, .verified)) :
      Taken s (.advance n)
        ((s.act request).setCall n (some (request, .acted))) []
  | finish {n : Nat} {request : Request}
      (acted : s.calls n = some (request, .acted)) :
      Taken s (.advance n)
        (((s.finish n request).1).setCall n (some (request, .unlocking)))
        (s.finish n request).2
  | unlock {n : Nat} {request : Request}
      (unlocking : s.calls n = some (request, .unlocking)) :
      Taken s (.advance n) ({ s with mutex := none }.setCall n none) []

theorem stepFrame_cases (s : State) (full : Bool) :
    Taken s (.frame full) (stepFrame s full).1 (stepFrame s full).2 := by
  unfold stepFrame
  cases here : s.callback with
  | idle =>
      dsimp only
      split
      · exact .skip here
      · rename_i resumed
        exact .look here (by simpa using resumed)
  | unpaused seen =>
      dsimp only
      split
      · exact .shut here
      · rename_i running
        exact .check here (by simpa using running)
  | checked seen =>
      dsimp only
      split
      · rename_i free
        exact .lock here free
      · exact .yield here
  | locked seen =>
      dsimp only
      split
      · rename_i both
        exact .read here both.1
      · exact .leave (by rw [here]; rfl)
  | reading seen =>
      dsimp only
      split
      · exact .leave (by rw [here]; rfl)
      · rename_i filled
        exact .forward here filled
  | leaving seen => exact .leave (by rw [here]; rfl)

theorem step_cases {s s' : State} {act : Act} {events : List Event}
    (step : machine.step s act = some (s', events)) :
    Taken s act s' events := by
  simp only [machine, PauseResume.step] at step
  cases act with
  | capture =>
      cases step
      exact .capture
  | lws connected =>
      cases step
      exact .lws
  | frame full =>
      have taken := stepFrame_cases s full
      rw [Option.some.inj step] at taken
      exact taken
  | call n request =>
      dsimp only at step
      split at step <;> cases step
      rename_i fresh
      exact .call fresh
  | advance n =>
      simp only [stepCall] at step
      split at step
      · cases step
      · rename_i request entered
        split at step <;> cases step
        · exact .resolve entered
        · exact .miss entered
      · rename_i request resolved
        split at step <;> cases step
        rename_i free
        exact .take resolved free
      · rename_i request locked
        split at step <;> cases step
        · exact .verify locked
        · exact .stale locked
      · rename_i request verified
        cases step
        exact .act verified
      · rename_i request acted
        cases step
        exact .finish acted
      · rename_i request unlocking
        cases step
        exact .unlock unlocking

theorem Callback.holds_of_reads {callback : Callback}
    (reads : callback.reads = true) : callback.holds = true := by
  cases callback <;> first | rfl | cases reads

/-- The mutex shows who is in the critical section, and nobody hands over the
pipe of a callback that reads. -/
structure Exclusive (s : State) : Prop where
  callback : s.callback.holds = true → s.mutex = some .callback
  call : ∀ n request stage, s.calls n = some (request, stage) →
    stage.holds = true → s.mutex = some (.call n)
  reads : s.callback.reads = true → s.audioPipe = true

/-- A frame in the buffer was captured under the value the flag has, or after
the flush that came before its last write. -/
structure Recent (s : State) (frame : Frame) : Prop where
  writes : frame.writes ≤ s.writes
  same : frame.writes = s.writes → frame.paused = s.audioPaused
  before : frame.writes < s.writes →
    frame.writes + 1 = s.writes ∧ frame.pending = some s.audioPaused
  window : ∀ pause, s.pending = some pause →
    frame.writes = s.writes ∧ frame.pending = some pause

structure Fresh (s : State) : Prop where
  frames : ∀ frame ∈ s.bug, Recent s frame
  seen : ∀ seen, s.callback.seen = some seen →
    seen ≤ s.writes ∧ (seen = s.writes → s.audioPaused = false) ∧
      ∀ frame ∈ s.bug, frame.writes = seen → frame.paused = false

section Steps

variable {s s' : State} {act : Act} {events : List Event}

@[simp]
theorem act_control (s : State) (request : Request) :
    (s.act request).mutex = s.mutex ∧ (s.act request).callback = s.callback ∧
      (s.act request).calls = s.calls ∧
      (s.act request).audioPipe = s.audioPipe := by
  cases request <;> exact ⟨rfl, rfl, rfl, rfl⟩

@[simp]
theorem finish_control (s : State) (n : Nat) (request : Request) :
    (s.finish n request).1.mutex = s.mutex ∧
      (s.finish n request).1.callback = s.callback ∧
      (s.finish n request).1.calls = s.calls := by
  cases request <;> exact ⟨rfl, rfl, rfl⟩

theorem exclusive_fresh : Exclusive .fresh := by
  constructor <;> simp [State.fresh, Callback.holds, Callback.reads]

theorem Exclusive.alone (exclusive : Exclusive s) {n : Nat}
    (held : s.mutex = some (.call n)) : s.callback.holds = false := by
  cases holds : s.callback.holds with
  | false => rfl
  | true =>
      rw [exclusive.callback holds] at held
      cases held

theorem Exclusive.setCall (exclusive : Exclusive s) {n : Nat}
    {call : Option (Request × Stage)}
    (held : ∀ request stage, call = some (request, stage) →
      stage.holds = true → s.mutex = some (.call n)) :
    Exclusive (s.setCall n call) := by
  refine ⟨exclusive.callback, ?_, exclusive.reads⟩
  intro m request stage here holds
  rcases updated_entry here with ⟨same, now⟩ | ⟨_, before⟩
  · rw [same]
    exact held request stage now holds
  · exact exclusive.call m request stage before holds

theorem Exclusive.step (exclusive : Exclusive s)
    (taken : Taken s act s' events) : Exclusive s' := by
  cases taken with
  | capture | lws =>
      exact ⟨exclusive.callback, exclusive.call, exclusive.reads⟩
  | skip => exact exclusive
  | look idle | shut unpaused | check unpaused | yield checked =>
      exact ⟨by simp [Callback.holds], exclusive.call,
        by simp [Callback.reads]⟩
  | lock checked free =>
      refine ⟨fun _ => rfl, ?_, by simp [Callback.reads]⟩
      intro n request stage here holds
      rw [exclusive.call n request stage here holds] at free
      cases free
  | read locked present =>
      have holds := exclusive.callback (by rw [locked]; rfl)
      exact ⟨fun _ => holds, exclusive.call, fun _ => present⟩
  | leave locked =>
      have holds := exclusive.callback locked
      refine ⟨by simp [Callback.holds], ?_, by simp [Callback.reads]⟩
      intro n request stage here owns
      rw [exclusive.call n request stage here owns] at holds
      cases holds
  | forward reading filled =>
      have holds := exclusive.callback (by rw [reading]; rfl)
      have present := exclusive.reads (by rw [reading]; rfl)
      exact ⟨fun _ => holds, exclusive.call, fun _ => present⟩
  | call fresh | miss entered | resolve entered =>
      exact exclusive.setCall (by simp [Stage.holds])
  | verify locked | stale locked =>
      have held := exclusive.call _ _ _ locked rfl
      exact exclusive.setCall fun _ _ _ _ => held
  | @take n request resolved free =>
      have outside : s.callback.holds = false := by
        by_contra holds
        rw [exclusive.callback (by simpa using holds)] at free
        cases free
      refine ⟨?_, ?_, exclusive.reads⟩
      · intro holds
        dsimp only [State.setCall] at holds
        rw [outside] at holds
        cases holds
      · intro m request stage here owns
        rcases updated_entry here with ⟨same, _⟩ | ⟨_, before⟩
        · rw [same]
          rfl
        · rw [exclusive.call m request stage before owns] at free
          cases free
  | @act n request verified =>
      have held := exclusive.call _ _ _ verified rfl
      obtain ⟨mutex, callback, calls, audioPipe⟩ := act_control s request
      have acted : Exclusive (s.act request) := by
        refine ⟨?_, ?_, ?_⟩
        · rw [callback, mutex]
          exact exclusive.callback
        · rw [calls, mutex]
          exact exclusive.call
        · rw [callback, audioPipe]
          exact exclusive.reads
      exact acted.setCall fun _ _ _ _ => mutex.trans held
  | @finish n request acted =>
      have held := exclusive.call _ _ _ acted rfl
      obtain ⟨mutex, callback, calls⟩ := finish_control s n request
      have outside := exclusive.alone held
      have finished : Exclusive (s.finish n request).1 := by
        refine ⟨?_, ?_, ?_⟩
        · rw [callback, mutex]
          exact exclusive.callback
        · rw [calls, mutex]
          exact exclusive.call
        · intro reads
          rw [callback] at reads
          rw [Callback.holds_of_reads reads] at outside
          cases outside
      exact finished.setCall fun _ _ _ _ => mutex.trans held
  | @unlock n request unlocking =>
      have held := exclusive.call _ _ _ unlocking rfl
      have outside := exclusive.alone held
      refine ⟨?_, ?_, exclusive.reads⟩
      · intro holds
        dsimp only [State.setCall] at holds
        rw [outside] at holds
        cases holds
      · intro m request stage here owns
        rcases updated_entry here with ⟨_, now⟩ | ⟨different, before⟩
        · cases now
        · rw [exclusive.call m request stage before owns] at held
          cases held
          exact (different rfl).elim

theorem fresh_fresh : Fresh .fresh := by
  constructor <;> simp [State.fresh, Callback.seen]

theorem pending_setCall {n : Nat} {call : Option (Request × Stage)}
    {pause : Bool} (pending : (s.setCall n call).pending = some pause) :
    call = some (.pauseresume pause, .acted) ∨
      s.mutex ≠ some (.call n) ∧ s.pending = some pause := by
  unfold State.pending at pending ⊢
  dsimp only [State.setCall] at pending
  cases held : s.mutex with
  | none => simp [held] at pending
  | some holder =>
      cases holder with
      | callback => simp [held] at pending
      | call m =>
          simp only [held] at pending ⊢
          by_cases same : m = n
          · rw [same, Function.update_self] at pending
            split at pending
            · cases pending
              exact .inl rfl
            · cases pending
          · rw [Function.update_of_ne same] at pending
            exact .inr ⟨by simpa using same, pending⟩

theorem Fresh.still (fresh : Fresh s)
    (bug : ∀ frame ∈ s'.bug, frame ∈ s.bug) (writes : s'.writes = s.writes)
    (audioPaused : s'.audioPaused = s.audioPaused)
    (callback : ∀ seen, s'.callback.seen = some seen →
      s.callback.seen = some seen)
    (pending : ∀ pause, s'.pending = some pause → s.pending = some pause) :
    Fresh s' := by
  constructor
  · intro frame member
    have recent := fresh.frames frame (bug frame member)
    constructor
    · rw [writes]
      exact recent.writes
    · rw [writes, audioPaused]
      exact recent.same
    · rw [writes, audioPaused]
      exact recent.before
    · rw [writes]
      exact fun pause now => recent.window pause (pending pause now)
  · intro seen here
    obtain ⟨bounded, now, frames⟩ := fresh.seen seen (callback seen here)
    rw [writes, audioPaused]
    exact ⟨bounded, now, fun frame member => frames frame (bug frame member)⟩

theorem Fresh.setCall (fresh : Fresh s) {n : Nat}
    {call : Option (Request × Stage)}
    (outside : ∀ pause, call ≠ some (.pauseresume pause, .acted)) :
    Fresh (s.setCall n call) := by
  refine fresh.still (fun _ => id) rfl rfl (fun _ => id) ?_
  intro pause pending
  rcases pending_setCall pending with now | ⟨_, before⟩
  · exact (outside pause now).elim
  · exact before

theorem Fresh.capture (fresh : Fresh s) : Fresh (stepCapture s) := by
  constructor
  · intro frame member
    rcases List.mem_append.mp member with before | now
    · have recent := fresh.frames frame before
      exact ⟨recent.writes, recent.same, recent.before, recent.window⟩
    · rw [List.mem_singleton.mp now]
      refine ⟨Nat.le_refl _, fun _ => rfl, ?_, ?_⟩
      · exact fun less => (Nat.lt_irrefl _ less).elim
      · exact fun pause pending => ⟨rfl, pending⟩
  · intro seen here
    obtain ⟨bounded, unpaused, frames⟩ := fresh.seen seen here
    refine ⟨bounded, unpaused, ?_⟩
    intro frame member written
    rcases List.mem_append.mp member with before | now
    · exact frames frame before written
    · rw [List.mem_singleton.mp now] at written ⊢
      exact unpaused written.symm

theorem Fresh.write (fresh : Fresh s) {n : Nat} {pause : Bool}
    (held : s.mutex = some (.call n)) (pending : s.pending = some pause) :
    Fresh ((s.finish n (.pauseresume pause)).1.setCall n
      (some (.pauseresume pause, .unlocking))) := by
  constructor
  · intro frame member
    obtain ⟨written, flushed⟩ :=
      (fresh.frames frame member).window pause pending
    constructor
    · exact Nat.le_succ_of_le (Nat.le_of_eq written)
    · intro same
      exact (Nat.succ_ne_self _ (same.symm.trans written)).elim
    · exact fun _ => ⟨congrArg (· + 1) written, flushed⟩
    · intro other later
      rcases pending_setCall later with now | ⟨unheld, _⟩
      · cases now
      · exact (unheld held).elim
  · intro seen here
    obtain ⟨bounded, _, frames⟩ := fresh.seen seen here
    refine ⟨Nat.le_succ_of_le bounded, ?_, frames⟩
    intro same
    exact (Nat.not_succ_le_self _ (same ▸ bounded)).elim

theorem Fresh.step (fresh : Fresh s) (exclusive : Exclusive s)
    (taken : Taken s act s' events) : Fresh s' := by
  cases taken with
  | capture => exact fresh.capture
  | lws => exact fresh.still (fun _ => id) rfl rfl (fun _ => id) (fun _ => id)
  | skip => exact fresh
  | look idle resumed =>
      refine ⟨fun frame member => ?_, ?_⟩
      · have recent := fresh.frames frame member
        exact ⟨recent.writes, recent.same, recent.before, recent.window⟩
      · intro seen here
        cases here
        refine ⟨Nat.le_refl _, fun _ => resumed, ?_⟩
        intro frame member written
        exact ((fresh.frames frame member).same written).trans resumed
  | shut | yield =>
      exact fresh.still (fun _ => id) rfl rfl (by simp [Callback.seen])
        (fun _ => id)
  | check here | read here =>
      exact fresh.still (fun _ => id) rfl rfl
        (by simp [here, Callback.seen]) (fun _ => id)
  | lock here =>
      exact fresh.still (fun _ => id) rfl rfl
        (by simp [here, Callback.seen]) (by simp [State.pending])
  | leave =>
      exact fresh.still (fun _ => id) rfl rfl (by simp [Callback.seen])
        (by simp [State.pending])
  | forward reading filled =>
      have seen := congrArg Callback.seen reading
      refine fresh.still ?_ rfl rfl ?_ (fun _ => id)
      · intro frame member
        rw [filled]
        exact List.mem_cons_of_mem _ member
      · intro earlier here
        rw [Callback.seen_onward] at here
        exact seen.trans here
  | call | miss | resolve | verify | stale => exact fresh.setCall (by simp)
  | @take n request resolved free =>
      have taken : Fresh { s with mutex := some (.call n) } :=
        fresh.still (fun _ => id) rfl rfl (fun _ => id)
          (by simp [State.pending, resolved])
      exact taken.setCall (by simp)
  | @act n request verified =>
      cases request with
      | pauseresume pause =>
          refine ⟨by simp [State.act, State.setCall], ?_⟩
          intro seen here
          obtain ⟨bounded, unpaused, _⟩ := fresh.seen seen here
          exact ⟨bounded, unpaused, by simp [State.act, State.setCall]⟩
      | gracefulShutdown =>
          have acted : Fresh (s.act .gracefulShutdown) :=
            fresh.still (fun _ => id) rfl rfl (fun _ => id) (fun _ => id)
          exact acted.setCall (by simp)
      | cleanup =>
          have acted : Fresh (s.act .cleanup) :=
            fresh.still (fun _ => id) rfl rfl (fun _ => id) (fun _ => id)
          exact acted.setCall (by simp)
  | @finish n request acted =>
      have held := exclusive.call _ _ _ acted rfl
      cases request with
      | pauseresume pause =>
          exact fresh.write held (by simp [State.pending, held, acted])
      | gracefulShutdown => exact fresh.setCall (by simp)
      | cleanup =>
          have finished : Fresh { s with audioPipe := false } :=
            fresh.still (fun _ => id) rfl rfl (fun _ => id) (fun _ => id)
          exact finished.setCall (by simp)
  | unlock unlocking =>
      have unlocked : Fresh { s with mutex := none } :=
        fresh.still (fun _ => id) rfl rfl (fun _ => id)
          (by simp [State.pending])
      exact unlocked.setCall (by simp)

def Event.index : Event → Option Nat
  | .forwarded frame _ => some frame.index
  | .wrote _ _ => none

/-- A frame captured while the session was paused is forwarded only by a
callback that had looked at the flag before it was set, or if it came in between
the flush of the resume and its write. -/
def Event.permitted : Event → Prop
  | .forwarded frame seen => frame.paused = true →
      seen < frame.writes ∨
        seen = frame.writes + 1 ∧ frame.pending = some false
  | .wrote _ _ => True

/-- The frames forwarded and those in the buffer are in the order of their
capture. -/
structure Ordered (trace : List Event) (s : State) : Prop where
  sorted : (trace.filterMap Event.index ++ s.bug.map Frame.index).Pairwise
    (· < ·)
  captured : ∀ index ∈
    trace.filterMap Event.index ++ s.bug.map Frame.index, index < s.captured

theorem ordered_fresh : Ordered [] .fresh := by
  constructor <;> simp [State.fresh]

theorem Fresh.permitted (fresh : Fresh s) {seen : Nat} {frame : Frame}
    (reading : s.callback.seen = some seen) (member : frame ∈ s.bug) :
    (Event.forwarded frame seen).permitted := by
  intro paused
  have recent := fresh.frames frame member
  obtain ⟨bounded, unpaused, frames⟩ := fresh.seen seen reading
  have different : frame.writes ≠ seen := by
    intro same
    rw [frames frame member same] at paused
    cases paused
  by_cases current : frame.writes = s.writes
  · left
    omega
  · obtain ⟨next, pending⟩ := recent.before
      (Nat.lt_of_le_of_ne recent.writes current)
    by_cases last : seen = s.writes
    · right
      rw [unpaused last] at pending
      exact ⟨last.trans next.symm, pending⟩
    · left
      omega

theorem permitted_step (fresh : Fresh s) (taken : Taken s act s' events) :
    ∀ event ∈ events, event.permitted := by
  intro event member
  cases taken with
  | @forward full seen frame bug reading filled =>
      rw [List.mem_singleton.mp member]
      exact fresh.permitted (by rw [reading]; rfl)
        (by rw [filled]; exact List.mem_cons_self)
  | @finish n request acted =>
      cases request with
      | pauseresume pause =>
          rw [List.mem_singleton.mp member]
          trivial
      | gracefulShutdown | cleanup => cases member
  | _ => cases member

theorem Ordered.still {trace : List Event} (ordered : Ordered trace s)
    (bug : s'.bug = s.bug ∨ s'.bug = [])
    (captured : s'.captured = s.captured)
    (quiet : events.filterMap Event.index = []) :
    Ordered (trace ++ events) s' := by
  have shorter : (s'.bug.map Frame.index).Sublist (s.bug.map Frame.index) := by
    rcases bug with same | empty
    · rw [same]
    · rw [empty]
      exact List.nil_sublist _
  have before := List.Sublist.append_left shorter
    (trace.filterMap Event.index)
  constructor
  · rw [List.filterMap_append, quiet, List.append_nil]
    exact ordered.sorted.sublist before
  · rw [List.filterMap_append, quiet, List.append_nil, captured]
    exact fun index member => ordered.captured index (before.subset member)

theorem Ordered.step {trace : List Event} (ordered : Ordered trace s)
    (taken : Taken s act s' events) : Ordered (trace ++ events) s' := by
  cases taken with
  | capture =>
      have grown : trace.filterMap Event.index ++
          (stepCapture s).bug.map Frame.index =
          (trace.filterMap Event.index ++ s.bug.map Frame.index) ++
            [s.captured] := by
        simp [stepCapture]
      constructor
      · rw [List.append_nil, grown, List.pairwise_append]
        refine ⟨ordered.sorted, List.pairwise_singleton _ _, ?_⟩
        intro index member last here
        rw [List.mem_singleton.mp here]
        exact ordered.captured index member
      · rw [List.append_nil, grown]
        intro index member
        rcases List.mem_append.mp member with before | now
        · exact Nat.lt_succ_of_lt (ordered.captured index before)
        · rw [List.mem_singleton.mp now]
          exact Nat.lt_succ_self _
  | @forward full seen frame bug reading filled =>
      have same : (trace ++ [Event.forwarded frame seen]).filterMap
            Event.index ++ bug.map Frame.index =
          trace.filterMap Event.index ++ s.bug.map Frame.index := by
        simp [filled, Event.index]
      constructor
      · rw [same]
        exact ordered.sorted
      · rw [same]
        exact ordered.captured
  | @act n request verified =>
      cases request with
      | pauseresume pause => exact ordered.still (.inr rfl) rfl rfl
      | gracefulShutdown | cleanup => exact ordered.still (.inl rfl) rfl rfl
  | @finish n request acted =>
      cases request <;> exact ordered.still (.inl rfl) rfl rfl
  | _ => exact ordered.still (.inl rfl) rfl rfl

/-- No step resumes the session. -/
def keepsPaused (s : State) : Act → Bool
  | .advance n =>
      match s.calls n with
      | some (.pauseresume false, .acted) => false
      | _ => true
  | _ => true

/-- The callback has passed both flags. -/
def Callback.admitted : Callback → Bool
  | .idle | .unpaused _ => false
  | .checked _ | .locked _ | .reading _ | .leaving _ => true

def Forwards (events : List Event) : Prop :=
  ∃ frame seen, .forwarded frame seen ∈ events

/-- Only a callback that reads forwards. -/
theorem forwards_reads (taken : Taken s act s' events)
    (forwards : Forwards events) : s.callback.reads = true := by
  obtain ⟨frame, seen, member⟩ := forwards
  cases taken with
  | forward reading => rw [reading]; rfl
  | @finish n request acted => cases request <;> simp [State.finish] at member
  | _ => cases member

theorem paused_step (taken : Taken s act s' events)
    (idle : s.callback = .idle) (paused : s.audioPaused = true)
    (admitted : keepsPaused s act = true) :
    s'.callback = .idle ∧ s'.audioPaused = true := by
  cases taken with
  | look _ resumed =>
      rw [paused] at resumed
      cases resumed
  | check here | lock here | read here | forward here =>
      rw [idle] at here
      cases here
  | leave here =>
      rw [idle] at here
      cases here
  | @act n request verified => cases request <;> exact ⟨idle, paused⟩
  | @finish n request acted =>
      cases request with
      | pauseresume pause =>
          simp only [keepsPaused, acted] at admitted
          cases pause with
          | true => exact ⟨idle, rfl⟩
          | false => cases admitted
      | gracefulShutdown | cleanup => exact ⟨idle, paused⟩
  | shut | yield => exact ⟨rfl, paused⟩
  | _ => exact ⟨idle, paused⟩

theorem shutdown_step (taken : Taken s act s' events)
    (outside : s.callback.admitted = false)
    (shutdown : s.gracefulShutdown = true) :
    s'.callback.admitted = false ∧ s'.gracefulShutdown = true := by
  cases taken with
  | check _ running =>
      rw [shutdown] at running
      cases running
  | lock here | read here | forward here =>
      rw [here] at outside
      cases outside
  | @act n request verified =>
      cases request <;> exact ⟨outside, by first | rfl | exact shutdown⟩
  | @finish n request acted => cases request <;> exact ⟨outside, shutdown⟩
  | look | shut | yield | leave => exact ⟨rfl, shutdown⟩
  | _ => exact ⟨outside, shutdown⟩

theorem handed_step (taken : Taken s act s' events)
    (outside : s.callback.reads = false) (absent : s.audioPipe = false) :
    s'.callback.reads = false ∧ s'.audioPipe = false := by
  cases taken with
  | read _ present =>
      rw [absent] at present
      cases present
  | forward here =>
      rw [here] at outside
      cases outside
  | @act n request verified => cases request <;> exact ⟨outside, absent⟩
  | @finish n request acted =>
      cases request <;> exact ⟨outside, by first | rfl | exact absent⟩
  | look | shut | yield | leave | check | lock => exact ⟨rfl, absent⟩
  | _ => exact ⟨outside, absent⟩

end Steps

/-- Nothing is forwarded on the way of a property under which no callback
reads. -/
theorem silent_of_kept {allowed : State → Act → Bool} {start final : State}
    {labels : List Act} {later : List Event} (holds : State → Prop)
    (run : machine.Run allowed start labels later final) (base : holds start)
    (kept : ∀ {s s' act events}, holds s → allowed s act = true →
      Taken s act s' events → holds s')
    (unread : ∀ s, holds s → s.callback.reads = false) : ¬ Forwards later := by
  have whole : holds final ∧ ¬ Forwards later := by
    refine run.induct (fun later s => holds s ∧ ¬ Forwards later)
      ⟨base, by simp [Forwards]⟩ ?_
    rintro later s act next events ⟨here, silent⟩ admitted step
    have taken := step_cases step
    refine ⟨kept here admitted taken, ?_⟩
    rintro ⟨frame, seen, member⟩
    rcases List.mem_append.mp member with before | now
    · exact silent ⟨frame, seen, before⟩
    · have reads := forwards_reads taken ⟨frame, seen, now⟩
      rw [unread s here] at reads
      cases reads
  exact whole.2

/-- Frames are forwarded in the order of their capture and none twice; one that
was captured during a pause only by a callback that is late or out of the gap of
the resume; and none at all once a pause, a graceful shutdown or a cleanup has
taken effect and no callback is late. -/
theorem pause_resume {labels : List Act} {trace : List Event} {s : State}
    (run : machine.Run anyStep machine.initial labels trace s) :
    (trace.filterMap Event.index).Pairwise (· < ·) ∧
      (∀ event ∈ trace, event.permitted) ∧
      (s.callback = .idle → s.audioPaused = true →
        ∀ labels' later final,
          machine.Run keepsPaused s labels' later final →
          ¬ Forwards later) ∧
      (s.callback.admitted = false ∧ s.gracefulShutdown = true ∨
          s.audioPipe = false →
        ∀ labels' later final, machine.Run anyStep s labels' later final →
          ¬ Forwards later) := by
  obtain ⟨exclusive, _, ordered, permitted⟩ := run.induct
    (fun trace s => Exclusive s ∧ Fresh s ∧ Ordered trace s ∧
      ∀ event ∈ trace, event.permitted)
    ⟨exclusive_fresh, fresh_fresh, ordered_fresh, by simp⟩ (by
      rintro trace s act next events ⟨exclusive, fresh, ordered, permitted⟩ _
        step
      have taken := step_cases step
      refine ⟨exclusive.step taken, fresh.step exclusive taken,
        ordered.step taken, ?_⟩
      intro event member
      rcases List.mem_append.mp member with before | now
      · exact permitted event before
      · exact permitted_step fresh taken event now)
  refine ⟨?_, permitted, ?_, ?_⟩
  · exact (List.pairwise_append.mp ordered.sorted).1
  · intro idle paused labels' later final onward
    refine silent_of_kept (fun s => s.callback = .idle ∧ s.audioPaused = true)
      onward ⟨idle, paused⟩ ?_ ?_
    · exact fun here admitted taken =>
        paused_step taken here.1 here.2 admitted
    · intro s here
      rw [here.1]
      rfl
  · rintro (⟨outside, shutdown⟩ | absent) labels' later final onward
    · refine silent_of_kept (fun s => s.callback.admitted = false ∧
        s.gracefulShutdown = true) onward ⟨outside, shutdown⟩ ?_ ?_
      · exact fun here _ taken => shutdown_step taken here.1 here.2
      · intro s here
        cases callback : s.callback <;> rw [callback] at here <;>
          first | rfl | cases here.1
    · have outside : s.callback.reads = false := by
        by_contra reads
        rw [exclusive.reads (by simpa using reads)] at absent
        cases absent
      refine silent_of_kept (fun s => s.callback.reads = false ∧
        s.audioPipe = false) onward ⟨outside, absent⟩ ?_ ?_
      · exact fun here _ taken => handed_step taken here.1 here.2
      · exact fun s here => here.1

/-- A callback is late: it has looked at the flag before the pause and reads
after it. -/
theorem pause_resume_of_late_callback :
    ∃ labels trace s, machine.Run anyStep machine.initial labels trace s ∧
      .forwarded ⟨1, 1, true, none⟩ 0 ∈ trace ∧
      (∀ event ∈ trace, event.permitted) ∧
      ∀ labels' later final,
        machine.Run keepsPaused s labels' later final → ¬ Forwards later := by
  let labels : List Act :=
    [.lws true, .capture, .frame false, .frame false,
      .call 0 (.pauseresume true)] ++
      List.replicate 6 (Act.advance 0) ++ [Act.capture] ++
      List.replicate 4 (Act.frame false)
  have executed : (machine.exec anyStep machine.initial labels).map
      (fun outcome => decide
        (.forwarded ⟨1, 1, true, none⟩ 0 ∈ outcome.2 ∧
          outcome.1.callback = .idle ∧ outcome.1.audioPaused = true)) =
        some true := by
    decide
  obtain ⟨s, trace, run, observed⟩ := Machine.exists_run_of_exec _ executed
  obtain ⟨late, idle, paused⟩ := of_decide_eq_true observed
  obtain ⟨_, permitted, silent, _⟩ := pause_resume run
  exact ⟨labels, trace, s, run, late, permitted, silent idle paused⟩

end DrachtioModules.AudioFork.PauseResume

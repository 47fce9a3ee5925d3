import Mathlib.Algebra.Group.Nat.Defs
import Mathlib.Data.List.GetD
import Mathlib.Tactic.Common

/-!
# The events of mod_simple_vad

A media bug hands audio to FreeSWITCH's voice activity detector and fires an
event when the state it returns is another one than before.  What one read
callback finds in the bug is any number of frames, so the states of a session
come in pieces of any length.
-/

namespace DrachtioModules.SimpleVad

/-- `switch_vad_state_t` -/
inductive VadState where
  | none
  | startTalking
  | talking
  | stopTalking
  | error
  deriving DecidableEq, Repr

structure Timeval where
  tvSec : Int
  tvUsec : Int
  deriving DecidableEq, Repr

/-- The loop of the source moves seconds into the microseconds, of which the sum
shows nothing. -/
def timevalDiff (endTime startTime : Timeval) : Int :=
  1000000 * (endTime.tvSec - startTime.tvSec) +
    (endTime.tvUsec - startTime.tvUsec)

/-- `struct cap_cb`; `vad` is false once the detector is destroyed. -/
structure CapCb where
  vad : Bool
  start : Timeval
  lastSegmentStart : Timeval
  speechSegments : UInt32
  speechDuration : Int
  vadState : VadState
  deriving DecidableEq, Repr

/-- The private of the channel, if there is one, and what the bug is called
with. -/
structure Session where
  bug : Bool
  cb : CapCb
  deriving DecidableEq, Repr

/-- A frame of the bug, the state that the detector returns for it, and the two
readings of the clock if that is another one. -/
structure Frame where
  cng : Bool
  datalen : Nat
  newState : VadState
  now : Timeval
  restarted : Timeval
  deriving DecidableEq, Repr

structure ChangeEvent where
  oldState : VadState
  newState : VadState
  duration : Int
  deriving DecidableEq, Repr

structure SummaryEvent where
  speechDuration : Int
  speechSegments : UInt32
  totalDuration : Int
  deriving DecidableEq, Repr

/-- What can be observed: a state that the detector returned, with the event
that is fired for it, and the summary of a stop. -/
inductive Observation where
  | processed (state : VadState) (event : Option ChangeEvent)
  | summary (event : SummaryEvent)
  deriving DecidableEq, Repr

/-- `start_capture` after all its calls have succeeded. -/
def startCapture : Session :=
  { bug := true
    cb := {
      vad := true
      start := ⟨0, 0⟩
      lastSegmentStart := ⟨0, 0⟩
      speechSegments := 0
      speechDuration := 0
      vadState := .none } }

/-- A change of the state. -/
def CapCb.change (cb : CapCb) (frame : Frame) : CapCb :=
  let duration := timevalDiff frame.now cb.lastSegmentStart
  { cb with
    vadState := frame.newState
    speechDuration := cb.speechDuration +
      if frame.newState = .stopTalking then duration else 0
    speechSegments := cb.speechSegments +
      if frame.newState = .startTalking then 1 else 0
    lastSegmentStart := frame.restarted }

/-- The loop of SWITCH_ABC_TYPE_READ over the frames of the bug.  The state to
compare with is read once, before the loop. -/
def readLoop (oldState : VadState) (cb : CapCb) :
    List Frame → CapCb × List Observation
  | [] => (cb, [])
  | frame :: frames =>
      if frame.cng then (cb, [])
      else if frame.datalen = 0 then readLoop oldState cb frames
      else if frame.newState ≠ oldState then
        let event : ChangeEvent :=
          { oldState
            newState := frame.newState
            duration :=
              (timevalDiff frame.now cb.lastSegmentStart).tdiv 1000 }
        let (cb, observed) := readLoop oldState (cb.change frame) frames
        (cb, .processed frame.newState (some event) :: observed)
      else
        let (cb, observed) := readLoop oldState cb frames
        (cb, .processed frame.newState none :: observed)

/-- The calls of the bug's callback and of `do_stop`, with what they find: the
two readings of the clock at the first frame, whether the mutex is free, and
the frames of the bug. -/
inductive Call where
  | read (now started : Timeval) (free : Bool) (frames : List Frame)
  | close
  | stop (now : Timeval)
  deriving DecidableEq, Repr

def captureRead (cb : CapCb) (now started : Timeval) (free : Bool)
    (frames : List Frame) : CapCb × List Observation :=
  if cb.vad then
    let cb :=
      if cb.start.tvSec = 0 then
        { cb with start := now, lastSegmentStart := started }
      else cb
    if free then readLoop cb.vadState cb frames else (cb, [])
  else (cb, [])

def doStop (cb : CapCb) (now : Timeval) : SummaryEvent :=
  let duration := timevalDiff now cb.start
  let speechDuration := cb.speechDuration +
    if cb.vadState = .talking then timevalDiff now cb.lastSegmentStart else 0
  { speechDuration := speechDuration.tdiv 1000
    speechSegments := cb.speechSegments
    totalDuration := duration.tdiv 1000 }

def step (s : Session) : Call → Session × List Observation
  | .read now started free frames =>
      let (cb, observed) := captureRead s.cb now started free frames
      ({ s with cb }, observed)
  | .close => ({ bug := false, cb := { s.cb with vad := false } }, [])
  | .stop now => (s, if s.bug then [.summary (doStop s.cb now)] else [])

def observe (s : Session) : List Call → List Observation
  | [] => []
  | call :: calls => (step s call).2 ++ observe (step s call).1 calls

/-- Each event begins with the state that the one before it ended with. -/
def Chained : VadState → List Observation → Prop
  | _, [] => True
  | last, .processed _ none :: rest => Chained last rest
  | last, .processed _ (some event) :: rest =>
      event.oldState = last ∧ Chained event.newState rest
  | last, .summary _ :: rest => Chained last rest

/-- There is an event, to the new state, exactly where the state changes. -/
def FiresAtChanges : VadState → List Observation → Prop
  | _, [] => True
  | old, .processed state event :: rest =>
      (event.map ChangeEvent.newState =
        if state ≠ old then some state else none) ∧ FiresAtChanges state rest
  | old, .summary _ :: rest => FiresAtChanges old rest

/-- Whether a state begins a segment of speech. -/
def begins (old state : VadState) : Nat :=
  if state ≠ old ∧ state = .startTalking then 1 else 0

/-- A summary tells how many segments have begun. -/
def CountsSegments : VadState → Nat → List Observation → Prop
  | _, _, [] => True
  | old, n, .processed state _ :: rest =>
      CountsSegments state (n + begins old state) rest
  | old, n, .summary event :: rest =>
      event.speechSegments.toNat = n ∧ CountsSegments old n rest

/-- The three together, after a state and a number of segments. -/
structure EventChain (old : VadState) (n : Nat) (observed : List Observation) :
    Prop where
  chained : Chained old observed
  fires : FiresAtChanges old observed
  counts : CountsSegments old n observed

/-- The states that the detector returns in a callback. -/
def vadStates : List Frame → List VadState
  | [] => []
  | frame :: frames =>
      if frame.cng then []
      else if frame.datalen = 0 then vadStates frames
      else frame.newState :: vadStates frames

/-- No state of a callback but its last one is a change. -/
def ChangesLast (old : VadState) (states : List VadState) : Prop :=
  ∀ state ∈ states.dropLast, state = old

/-- How many segments begin. -/
def segments : VadState → List VadState → Nat
  | _, [] => 0
  | old, state :: states => begins old state + segments state states

/-- No read callback sees a change before its last frame, and no summary is
made after as many segments as 32 bits count. -/
def Separated (attached : Bool) (old : VadState) (n : Nat) : List Call → Prop
  | [] => True
  | .read _ _ free frames :: calls =>
      let states := if attached && free then vadStates frames else []
      ChangesLast old states ∧
        Separated attached (states.getLastD old) (n + segments old states) calls
  | .close :: calls => Separated false old n calls
  | .stop _ :: calls =>
      (attached = true → n < 2 ^ 32) ∧ Separated attached old n calls

theorem changesLast_cons_iff {old state : VadState} {states : List VadState} :
    ChangesLast old (state :: states) ↔
      (states = [] ∨ state = old) ∧ ChangesLast old states := by
  cases states with
  | nil => simp [ChangesLast]
  | cons next states => simp [ChangesLast]

/-- A frame is not for the detector, or it is. -/
theorem readLoop_cases (frames : List Frame) (oldState : VadState)
    (cb : CapCb) :
    (vadStates frames = [] ∧ readLoop oldState cb frames = (cb, [])) ∨
    ∃ frame later, vadStates frames = frame.newState :: vadStates later ∧
      readLoop oldState cb frames =
        if frame.newState ≠ oldState then
          ((readLoop oldState (cb.change frame) later).1,
            .processed frame.newState (some ⟨oldState, frame.newState,
              (timevalDiff frame.now cb.lastSegmentStart).tdiv 1000⟩) ::
              (readLoop oldState (cb.change frame) later).2)
        else
          ((readLoop oldState cb later).1, .processed frame.newState none ::
            (readLoop oldState cb later).2) := by
  induction frames with
  | nil => exact .inl ⟨rfl, rfl⟩
  | cons frame frames ih =>
      rw [vadStates, readLoop]
      by_cases noise : frame.cng = true
      · exact .inl ⟨if_pos noise, if_pos noise⟩
      · rw [if_neg noise, if_neg noise]
        by_cases empty : frame.datalen = 0
        · rw [if_pos empty, if_pos empty]
          exact ih
        · rw [if_neg empty, if_neg empty]
          exact .inr ⟨frame, frames, rfl, rfl⟩

theorem eventChain_silent_iff {old state : VadState} {n : Nat}
    {rest : List Observation} :
    EventChain old n (.processed state none :: rest) ↔
      state = old ∧ EventChain old n rest := by
  constructor
  · intro chain
    have quiet := chain.fires.1
    by_cases same : state = old
    · subst same
      have counts := chain.counts
      simp only [CountsSegments, begins, ne_eq, not_true, false_and, if_false,
        Nat.add_zero] at counts
      exact ⟨rfl, chain.chained, chain.fires.2, counts⟩
    · simp [same] at quiet
  · rintro ⟨rfl, chained, fires, counts⟩
    refine ⟨chained, ⟨by simp, fires⟩, ?_⟩
    simpa [CountsSegments, begins] using counts

theorem eventChain_fired_iff {old state : VadState} {n : Nat} {duration : Int}
    {last : VadState} {rest : List Observation} (changed : state ≠ old) :
    EventChain old n
        (.processed state (some ⟨last, state, duration⟩) :: rest) ↔
      last = old ∧ EventChain state (n + begins old state) rest := by
  constructor
  · intro chain
    exact ⟨chain.chained.1, chain.chained.2, chain.fires.2, chain.counts⟩
  · rintro ⟨rfl, chained, fires, counts⟩
    exact ⟨⟨rfl, chained⟩, ⟨by simp [changed], fires⟩, counts⟩

/-- After a change the rest of the loop goes wrong at the next frame: it tells
of a change from the old state, or of none. -/
theorem stale_iff {old state : VadState} (frames : List Frame) (cb : CapCb)
    (n : Nat) (rest : List Observation) (changed : state ≠ old) :
    EventChain state n ((readLoop old cb frames).2 ++ rest) ↔
      vadStates frames = [] ∧ EventChain state n rest := by
  rcases readLoop_cases frames old cb with
    ⟨none, idle⟩ | ⟨frame, later, found, loop⟩
  · rw [none, idle]
    simp
  · rw [found, loop]
    simp only [reduceCtorEq, false_and, iff_false]
    by_cases back : frame.newState = old
    · rw [if_neg (by simp [back]), List.cons_append, eventChain_silent_iff]
      rintro ⟨same, _⟩
      exact changed (same.symm.trans back)
    · rw [if_pos back, List.cons_append]
      intro chain
      exact changed chain.chained.1.symm

theorem readLoop_iff {old : VadState} {states : List VadState}
    {frames : List Frame} (returned : vadStates frames = states) (cb : CapCb)
    (n : Nat) (rest : List Observation) :
    EventChain old n ((readLoop old cb frames).2 ++ rest) ↔
      ChangesLast old states ∧
        EventChain (states.getLastD old) (n + segments old states) rest := by
  induction states generalizing frames with
  | nil =>
      rcases readLoop_cases frames old cb with
        ⟨_, idle⟩ | ⟨frame, later, found, _⟩
      · simp [idle, ChangesLast, segments]
      · rw [returned] at found
        cases found
  | cons state states ih =>
      rcases readLoop_cases frames old cb with
        ⟨none, _⟩ | ⟨frame, later, found, loop⟩
      · rw [returned] at none
        cases none
      · obtain ⟨rfl, rfl⟩ := List.cons.inj (returned.symm.trans found)
        rw [loop, changesLast_cons_iff]
        by_cases same : frame.newState = old
        · rw [if_neg (by simp [same]), List.cons_append,
            eventChain_silent_iff, ih rfl, List.getLastD_cons, same]
          simp [segments, begins]
        · rw [if_pos same, List.cons_append, eventChain_fired_iff same,
            stale_iff later _ _ rest same]
          cases vadStates later with
          | nil => simp [ChangesLast, segments]
          | cons => simp [same]

/-- What the callback leaves behind if only the last state is a change. -/
theorem readLoop_state {old : VadState} {states : List VadState}
    {frames : List Frame} (returned : vadStates frames = states) {cb : CapCb}
    (held : cb.vadState = old) (changesLast : ChangesLast old states) :
    (readLoop old cb frames).1.vad = cb.vad ∧
    (readLoop old cb frames).1.vadState = states.getLastD old ∧
    (readLoop old cb frames).1.speechSegments =
      cb.speechSegments + UInt32.ofNat (segments old states) := by
  induction states generalizing frames with
  | nil =>
      rcases readLoop_cases frames old cb with
        ⟨_, idle⟩ | ⟨frame, later, found, _⟩
      · simp [idle, segments, held]
      · rw [returned] at found
        cases found
  | cons state states ih =>
      rcases readLoop_cases frames old cb with
        ⟨none, _⟩ | ⟨frame, later, found, loop⟩
      · rw [returned] at none
        cases none
      · obtain ⟨rfl, rfl⟩ := List.cons.inj (returned.symm.trans found)
        obtain ⟨single, others⟩ := changesLast_cons_iff.mp changesLast
        rw [loop, List.getLastD_cons]
        by_cases same : frame.newState = old
        · obtain ⟨vad, state, count⟩ := ih rfl others
          rw [if_neg (by simp [same])]
          refine ⟨vad, ?_, ?_⟩
          · rw [state, same]
          · rw [count, same]
            simp [segments, begins]
        · have last := single.resolve_right same
          rw [if_pos same, last]
          rcases readLoop_cases later old (cb.change frame) with
            ⟨_, idle⟩ | ⟨_, _, found', _⟩
          · rw [idle]
            refine ⟨rfl, rfl, ?_⟩
            simp only [CapCb.change, segments, begins, same, ne_eq,
              not_false_eq_true, true_and, Nat.add_zero]
            split <;> rfl
          · rw [last] at found'
            cases found'

/-- What the session knows: whether the bug is attached, the last state, and the
number of segments as far as 32 bits go. -/
structure Tracks (s : Session) (attached : Bool) (old : VadState) (n : Nat) :
    Prop where
  bug : s.bug = attached
  vad : s.cb.vad = attached
  state : s.cb.vadState = old
  count : s.cb.speechSegments = UInt32.ofNat n

theorem tracks_startCapture : Tracks startCapture true .none 0 :=
  ⟨rfl, rfl, rfl, rfl⟩

/-- A callback reads the frames of the bug if it is attached and the mutex is
free; the first one starts the clock. -/
theorem captureRead_cases (cb : CapCb) (now started : Timeval) (free : Bool)
    (frames : List Frame) :
    ∃ clocked : CapCb, clocked.vad = cb.vad ∧
      clocked.vadState = cb.vadState ∧
      clocked.speechSegments = cb.speechSegments ∧
      if cb.vad && free then
        captureRead cb now started free frames =
          readLoop cb.vadState clocked frames
      else
        (captureRead cb now started free frames).2 = [] ∧
          (captureRead cb now started free frames).1 = clocked := by
  unfold captureRead
  cases attached : cb.vad with
  | false => exact ⟨cb, attached, rfl, rfl, rfl, rfl⟩
  | true =>
      by_cases first : cb.start.tvSec = 0
      · refine ⟨{ cb with start := now, lastSegmentStart := started },
          attached, rfl, rfl, ?_⟩
        cases free <;> simp [first, attached]
      · refine ⟨cb, attached, rfl, rfl, ?_⟩
        cases free <;> simp [first]

theorem Tracks.read {s : Session} {attached : Bool} {old : VadState} {n : Nat}
    (tracks : Tracks s attached old n) (now started : Timeval) (free : Bool)
    (frames : List Frame) :
    let states := if attached && free then vadStates frames else []
    let after := step s (.read now started free frames)
    (∀ rest, EventChain old n (after.2 ++ rest) ↔
      ChangesLast old states ∧
        EventChain (states.getLastD old) (n + segments old states) rest) ∧
    (ChangesLast old states →
      Tracks after.1 attached (states.getLastD old)
        (n + segments old states)) := by
  obtain ⟨clocked, vad, state, count, captured⟩ :=
    captureRead_cases s.cb now started free frames
  simp only [step]
  rw [tracks.vad, tracks.state] at captured
  by_cases active : (attached && free) = true
  · rw [if_pos active] at captured
    rw [if_pos active, captured]
    refine ⟨readLoop_iff rfl clocked n, ?_⟩
    intro changesLast
    obtain ⟨vad', state', count'⟩ :=
      readLoop_state rfl (state.trans tracks.state) changesLast
    refine ⟨tracks.bug, vad'.trans (vad.trans tracks.vad), state', ?_⟩
    rw [count', count, tracks.count, ← UInt32.ofNat_add]
  · rw [if_neg active] at captured
    rw [if_neg active, captured.1, captured.2]
    refine ⟨fun rest => by simp [ChangesLast, segments], ?_⟩
    intro _
    exact ⟨tracks.bug, vad.trans tracks.vad, state.trans tracks.state,
      count.trans tracks.count⟩

theorem eventChain_summary_iff {old : VadState} {n : Nat}
    {event : SummaryEvent} {rest : List Observation} :
    EventChain old n (.summary event :: rest) ↔
      event.speechSegments.toNat = n ∧ EventChain old n rest := by
  constructor
  · intro chain
    exact ⟨chain.counts.1, chain.chained, chain.fires, chain.counts.2⟩
  · rintro ⟨count, chained, fires, counts⟩
    exact ⟨chained, fires, count, counts⟩

theorem observe_iff {s : Session} {attached : Bool} {old : VadState} {n : Nat}
    (tracks : Tracks s attached old n) (calls : List Call) :
    EventChain old n (observe s calls) ↔ Separated attached old n calls := by
  induction calls generalizing s attached old n with
  | nil => exact ⟨fun _ => trivial, fun _ => ⟨trivial, trivial, trivial⟩⟩
  | cons call calls ih =>
      rw [observe]
      cases call with
      | read now started free frames =>
          obtain ⟨events, tracked⟩ := tracks.read now started free frames
          rw [events]
          constructor
          · rintro ⟨changesLast, chain⟩
            exact ⟨changesLast, (ih (tracked changesLast)).mp chain⟩
          · rintro ⟨changesLast, separated⟩
            exact ⟨changesLast, (ih (tracked changesLast)).mpr separated⟩
      | close =>
          exact ih ⟨rfl, rfl, tracks.state, tracks.count⟩
      | stop now =>
          have later := ih tracks
          simp only [step, Separated, tracks.bug]
          cases attached with
          | false => simpa using later
          | true =>
              have reported : (doStop s.cb now).speechSegments.toNat =
                  n % 2 ^ 32 := by
                rw [doStop, tracks.count]
                rfl
              have small : n % 2 ^ 32 = n ↔ n < 2 ^ 32 := by omega
              rw [if_pos rfl, List.singleton_append, eventChain_summary_iff,
                reported, small, later]
              simp

/-- The events of a session form a chain, tell of every change of the state and
of nothing else, and the segments are counted right, exactly if no read callback
sees a change before its last frame, and fewer than 2^32 segments begin before
a summary. -/
theorem events_chain_iff (calls : List Call) :
    let observed := observe startCapture calls
    (Chained .none observed ∧ FiresAtChanges .none observed ∧
      CountsSegments .none 0 observed) ↔ Separated true .none 0 calls := by
  have tracked := observe_iff tracks_startCapture calls
  constructor
  · rintro ⟨chained, fires, counts⟩
    exact tracked.mp ⟨chained, fires, counts⟩
  · intro separated
    have chain := tracked.mpr separated
    exact ⟨chain.chained, chain.fires, chain.counts⟩

def speechFrame (newState : VadState) : Frame :=
  { cng := false
    datalen := 320
    newState
    now := ⟨10, 0⟩
    restarted := ⟨10, 0⟩ }

/-- Two changes in one callback are both told as changes from the state before
it. -/
theorem two_changes_unchained :
    ¬ ∀ calls : List Call,
      Chained .none (observe startCapture calls) ∧
        FiresAtChanges .none (observe startCapture calls) ∧
        CountsSegments .none 0 (observe startCapture calls) := by
  intro always
  obtain ⟨chained, _⟩ := always [.read ⟨9, 0⟩ ⟨9, 0⟩ true
    [speechFrame .startTalking, speechFrame .talking]]
  exact absurd chained.2.1 (by decide)

end DrachtioModules.SimpleVad

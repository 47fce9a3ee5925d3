import DrachtioModules.Google.GStreamer

/-!
# The contract of the stream's write side

gRPC asks of a stream's write side that its operations do not overlap, that the
streaming config comes first, that WritesDone is called once, and that nothing
but Finish follows WritesDone or Finish.

`connect()` publishes the stream by setting `m_connected` before it has written
the config, and unlike `write()` it does not look at `m_writesDone` before it
writes.  A read thread that comes to `writesDone()` or `finish()` in between
half-closes the stream under it.  Every run in which the read thread does not
keeps the contract.
-/

namespace DrachtioModules.Google

open Transcribe (Bytes SimpleBuffer)

/-- The requests that were written. -/
def WriteOp.request : WriteOp → Option Request
  | .write request => some request
  | .writesDone | .finish => none

/-- The operations that end the sequence of Writes. -/
def WriteOp.closes : WriteOp → Bool
  | .write _ => false
  | .writesDone | .finish => true

/-- The events of the write side. -/
def Event.onWriteSide : Event → Bool
  | .began _ | .ended _ => true
  | .promised | .deleted => false

def Event.begins : Event → Option WriteOp
  | .began op => some op
  | _ => none

/-- The operations of the write side in the order they were begun. -/
def begun (trace : List Event) : List WriteOp := trace.filterMap Event.begins

/-- What gRPC asks of the calls on a stream's write side. -/
structure WriteSide (trace : List Event) : Prop where
  /-- Every operation ends before the next one begins. -/
  exclusive : ∃ (complete : List WriteOp) (current : Option WriteOp),
    trace.filter Event.onWriteSide =
      complete.flatMap (fun op => [.began op, .ended op]) ++
        current.toList.map .began
  /-- The streaming config is the first Write. -/
  config_first : ∀ request ∈ ((begun trace).filterMap WriteOp.request).head?,
    request = .streamingConfig
  /-- WritesDone is called at most once. -/
  done_once : (begun trace).count .writesDone ≤ 1
  /-- Neither Write nor WritesDone follows WritesDone or Finish. -/
  closed : (begun trace).Pairwise fun earlier later =>
    earlier.closes = true → later = .finish

def Write.ops (data : Bytes) : Write → List WriteOp
  | .inside => [.write (.audioContent data)]
  | .test | .lock => []

/-- The operation a call of `connect()` is in. -/
def Connect.ops : Connect → List WriteOp
  | .writingConfig => [.write .streamingConfig]
  | .chunk stage data | .rest stage data => stage.ops data
  | _ => []

def Init.ops : Init → List WriteOp
  | .connecting stage => stage.ops
  | _ => []

def Media.ops : Media → List WriteOp
  | .connecting stage _ _ => stage.ops
  | .writing stage data _ => stage.ops data
  | _ => []

def Read.ops : Read → List WriteOp
  | .doneInside => [.writesDone]
  | .finishInside => [.finish]
  | _ => []

def Cleanup.ops : Cleanup → List WriteOp
  | .doneInside => [.writesDone]
  | _ => []

/-- The operations in progress, over all threads. -/
def State.ops (s : State) : List WriteOp :=
  s.init.ops ++ s.media.ops ++ s.read.ops ++ s.cleanup.ops

/-- A `connect()` that has published the stream and not yet begun to write the
config. -/
def Connect.pending : Connect → Bool
  | .promise | .config => true
  | _ => false

def Init.pending : Init → Bool
  | .connecting stage => stage.pending
  | _ => false

def Media.pending : Media → Bool
  | .connecting stage _ _ => stage.pending
  | _ => false

def State.configPending (s : State) : Bool := s.init.pending || s.media.pending

/-- The guard of the runs in which the read thread does not come to
`m_write_mutex` between the publication of the stream and the config. -/
def afterConfig (s : State) : Act → Bool
  | .read _ =>
      !(s.configPending && (s.read == .doneLock || s.read == .finishLock))
  | _ => true

def Write.Fits (connected : Bool) : Write → Prop
  | .test => True
  | .lock | .inside => connected = true

theorem Write.Fits.of_connected {connected : Bool} {stage : Write}
    (published : connected = true) : stage.Fits connected := by
  cases stage with
  | test => trivial
  | lock | inside => exact published

def Connect.Fits (connected : Bool) : Connect → Prop
  | .publish => connected = false
  | _ => connected = true

def Init.Fits (connected : Bool) : Init → Prop
  | .connecting stage => stage.Fits connected
  | _ => True

def Media.Fits (connected : Bool) : Media → Prop
  | .connecting stage _ _ => stage.Fits connected
  | .writing stage _ _ => stage.Fits connected
  | _ => True

def Read.Fits (connected : Bool) : Read → Prop
  | .absent | .waiting | .exited => True
  | _ => connected = true

def Cleanup.Fits (connected : Bool) : Cleanup → Prop
  | .doneLock | .doneInside => connected = true
  | _ => True

/-- Which stages can meet: the read thread, the frame callback and the cleanup
start after `google_speech_session_init`, and `cb->mutex` keeps the last two
apart. -/
structure Placed (s : State) : Prop where
  starting : s.init ≠ .ready →
    s.media = .idle ∧ s.cleanup = .idle ∧ s.read = .absent
  apart : s.media = .idle ∨ s.cleanup = .idle
  init : s.init.Fits s.connected
  media : s.media.Fits s.connected
  read : s.read.Fits s.connected
  cleanup : s.cleanup.Fits s.connected

theorem Read.Fits.later {connected : Bool} {read : Read}
    (fits : read.Fits connected) {connected' : Bool}
    (kept : connected = true → connected' = true) : read.Fits connected' := by
  cases read <;> first | trivial | exact kept fits

theorem Cleanup.Fits.later {connected : Bool} {cleanup : Cleanup}
    (fits : cleanup.Fits connected) {connected' : Bool}
    (kept : connected = true → connected' = true) :
    cleanup.Fits connected' := by
  cases cleanup <;> first | trivial | exact kept fits

/-- What one step of a thread does to the write side; `own` is the operation the
thread is in and `pending` whether it still has the config to write. -/
inductive Turn (s s' : State) :
    (own own' : List WriteOp) → (pending pending' : Bool) → List Event →
    Prop where
  | quiet {own : List WriteOp} {pending : Bool} {events : List Event}
      (silent : events.filter Event.onWriteSide = [])
      (mutex : s'.writeMutex = s.writeMutex)
      (done : s'.writesDone = s.writesDone)
      (connected : s'.connected = s.connected) :
      Turn s s' own own pending pending events
  | publish (mutex : s'.writeMutex = s.writeMutex)
      (done : s'.writesDone = s.writesDone) (unpublished : s.connected = false)
      (published : s'.connected = true) :
      Turn s s' [] [] false true []
  | config (free : s.writeMutex = false) (mutex : s'.writeMutex = true)
      (done : s'.writesDone = s.writesDone) (published : s.connected = true)
      (connected : s'.connected = s.connected) :
      Turn s s' [] [.write .streamingConfig] true false
        [.began (.write .streamingConfig)]
  | issue {op : WriteOp} (free : s.writeMutex = false)
      (mutex : s'.writeMutex = true) (opened : s.writesDone = false)
      (done : s'.writesDone = s.writesDone) (published : s.connected = true)
      (connected : s'.connected = s.connected)
      (unfinished : op ≠ .finish) :
      Turn s s' [] [op] false false [.began op]
  | finish (free : s.writeMutex = false) (mutex : s'.writeMutex = true)
      (done : s'.writesDone = true) (published : s.connected = true)
      (connected : s'.connected = s.connected) :
      Turn s s' [] [.finish] false false [.began .finish]
  | ends {op : WriteOp} {pending : Bool} (mutex : s'.writeMutex = false)
      (done : s'.writesDone = (s.writesDone || op == .writesDone))
      (connected : s'.connected = s.connected) :
      Turn s s' [op] [] pending pending [.ended op]

/-- `m_connected` is never cleared. -/
theorem Turn.connected_kept {s s' : State} {own own' : List WriteOp}
    {pending pending' : Bool} {events : List Event}
    (turn : Turn s s' own own' pending pending' events)
    (connected : s.connected = true) : s'.connected = true := by
  cases turn with
  | publish _ _ unpublished => simp [connected] at unpublished
  | quiet _ _ _ same | config _ _ _ _ same | issue _ _ _ _ _ same
  | finish _ _ _ _ same | ends _ _ same => rw [same, connected]

/-- The threads stay where they are. -/
structure Stays (s next : State) : Prop where
  init : next.init = s.init
  media : next.media = s.media
  read : next.read = s.read
  cleanup : next.cleanup = s.cleanup

theorem stage_fields (config : Config) (s : State) (data : Bytes) :
    Stays s (stage config s data) ∧
      (stage config s data).writeMutex = s.writeMutex ∧
      (stage config s data).writesDone = s.writesDone ∧
      (stage config s data).connected = s.connected := by
  unfold stage
  dsimp only
  split
  · exact ⟨⟨rfl, rfl, rfl, rfl⟩, rfl, rfl, rfl⟩
  · exact ⟨⟨rfl, rfl, rfl, rfl⟩, rfl, rfl, rfl⟩

theorem stepWrite_turn {config : Config} {s next : State} {data : Bytes}
    {stage : Write} {after : Option Write} {events : List Event}
    (fits : stage.Fits s.connected)
    (step : stepWrite config s data stage = some (next, after, events)) :
    Stays s next ∧
      Turn s next (stage.ops data) (after.elim [] (Write.ops data))
        false false events ∧
      ∀ stage' ∈ after, stage'.Fits next.connected := by
  cases stage with
  | test =>
      simp only [stepWrite] at step
      split at step <;> rename_i connected <;> cases step
      · refine ⟨⟨rfl, rfl, rfl, rfl⟩, .quiet rfl rfl rfl rfl, ?_⟩
        intro stage' member
        cases member
        exact connected
      · obtain ⟨stays, mutex, done, same⟩ := stage_fields config s data
        exact ⟨stays, .quiet rfl mutex done same, by simp⟩
  | lock =>
      simp only [stepWrite] at step
      split at step
      · cases step
      · rename_i locked
        have free : s.writeMutex = false := by simpa using locked
        split at step <;> rename_i done <;> cases step
        · exact ⟨⟨rfl, rfl, rfl, rfl⟩, .quiet rfl rfl rfl rfl, by simp⟩
        · refine ⟨⟨rfl, rfl, rfl, rfl⟩, ?_, ?_⟩
          · exact .issue free rfl (by simpa using done) rfl fits rfl (by simp)
          · intro stage' member
            cases member
            exact fits
  | inside =>
      simp only [stepWrite] at step
      cases step
      exact ⟨⟨rfl, rfl, rfl, rfl⟩, .ends rfl (by simp) rfl, by simp⟩

theorem stepConnect_turn {config : Config} {s next : State}
    {stage : Connect} {after : Option Connect} {events : List Event}
    (fits : stage.Fits s.connected)
    (step : stepConnect config s stage = some (next, after, events)) :
    Stays s next ∧
      Turn s next stage.ops (after.elim [] Connect.ops)
        stage.pending (after.elim false Connect.pending) events ∧
      ∀ stage' ∈ after, stage'.Fits next.connected := by
  cases stage with
  | publish =>
      simp only [stepConnect] at step
      cases step
      refine ⟨⟨rfl, rfl, rfl, rfl⟩, .publish rfl rfl fits rfl, ?_⟩
      intro stage' member
      cases member
      rfl
  | promise =>
      simp only [stepConnect] at step
      cases step
      refine ⟨⟨rfl, rfl, rfl, rfl⟩, .quiet rfl rfl rfl rfl, ?_⟩
      intro stage' member
      cases member
      exact fits
  | config =>
      simp only [stepConnect] at step
      split at step <;> cases step
      rename_i locked
      have free : s.writeMutex = false := by simpa using locked
      refine ⟨⟨rfl, rfl, rfl, rfl⟩, .config free rfl rfl fits rfl, ?_⟩
      intro stage' member
      cases member
      exact fits
  | writingConfig =>
      simp only [stepConnect] at step
      cases step
      refine ⟨⟨rfl, rfl, rfl, rfl⟩, .ends rfl (by simp) rfl, ?_⟩
      intro stage' member
      cases member
      exact fits
  | drain =>
      simp only [stepConnect] at step
      split at step
      · cases step
        refine ⟨⟨rfl, rfl, rfl, rfl⟩, .quiet rfl rfl rfl rfl, ?_⟩
        intro stage' member
        cases member
        exact fits
      · split at step <;> cases step
        all_goals
          refine ⟨⟨rfl, rfl, rfl, rfl⟩, .quiet rfl rfl rfl rfl, ?_⟩
          intro stage' member
          cases member
          exact fits
  | chunk stage data =>
      simp only [stepConnect] at step
      have reach : stage.Fits s.connected := Write.Fits.of_connected fits
      split at step
      · cases step
      all_goals
        rename_i result
        cases step
        obtain ⟨stays, turn, _⟩ := stepWrite_turn reach result
        refine ⟨stays, turn, ?_⟩
        intro stage' member
        cases member
        exact turn.connected_kept fits
  | staging =>
      simp only [stepConnect] at step
      split at step <;> cases step
      · exact ⟨⟨rfl, rfl, rfl, rfl⟩, .quiet rfl rfl rfl rfl, by simp⟩
      · refine ⟨⟨rfl, rfl, rfl, rfl⟩, .quiet rfl rfl rfl rfl, ?_⟩
        intro stage' member
        cases member
        exact fits
  | rest stage data =>
      simp only [stepConnect] at step
      have reach : stage.Fits s.connected := Write.Fits.of_connected fits
      split at step
      · cases step
      all_goals
        rename_i result
        cases step
        obtain ⟨stays, turn, _⟩ := stepWrite_turn reach result
        refine ⟨stays, turn, ?_⟩
        intro stage' member
        cases member
        exact turn.connected_kept fits
  | clear =>
      simp only [stepConnect] at step
      cases step
      exact ⟨⟨rfl, rfl, rfl, rfl⟩, .quiet rfl rfl rfl rfl, by simp⟩

/-- One thread takes a turn while the others stay where they are. -/
inductive Taken (s s' : State) (events : List Event) : Prop where
  | intro (before after : List WriteOp) {own own' : List WriteOp}
      {pending pending' : Bool}
      (source : s.ops = before ++ own ++ after)
      (target : s'.ops = before ++ own' ++ after)
      (source_pending : s.configPending = pending)
      (target_pending : s'.configPending = pending')
      (turn : Turn s s' own own' pending pending' events)

/-- A turn leaves the fields it reads and writes as they are when the thread's
stage is stored. -/
theorem Turn.stored {s next s' : State} {own own' : List WriteOp}
    {pending pending' : Bool} {events : List Event}
    (turn : Turn s next own own' pending pending' events)
    (mutex : s'.writeMutex = next.writeMutex)
    (done : s'.writesDone = next.writesDone)
    (connected : s'.connected = next.connected) :
    Turn s s' own own' pending pending' events := by
  cases turn with
  | quiet silent m d c =>
      exact .quiet silent (mutex.trans m) (done.trans d) (connected.trans c)
  | publish m d unpublished c =>
      exact .publish (mutex.trans m) (done.trans d) unpublished
        (connected.trans c)
  | config free m d published c =>
      exact .config free (mutex.trans m) (done.trans d) published
        (connected.trans c)
  | issue free m opened d published c unfinished =>
      exact .issue free (mutex.trans m) opened (done.trans d) published
        (connected.trans c) unfinished
  | finish free m d published c =>
      exact .finish free (mutex.trans m) (done.trans d) published
        (connected.trans c)
  | ends m d c =>
      exact .ends (mutex.trans m) (done.trans d) (connected.trans c)

theorem stepInit_connecting {config : Config} {s s' : State} {ok : Bool}
    {stage : Connect} {events : List Event} (init : s.init = .connecting stage)
    (step : stepInit config s ok = some (s', events)) :
    ∃ next after, stepConnect config s stage = some (next, after, events) ∧
      s' = { next with init := after.elim .createThread .connecting } := by
  simp only [stepInit, init] at step
  split at step <;> cases step <;> rename_i result
  · exact ⟨_, _, result, rfl⟩
  · exact ⟨_, _, result, rfl⟩

theorem stepMedia_connecting {config : Config} {s s' : State}
    {stage : Connect} {data : Bytes} {frames : List Frame}
    {events : List Event} (media : s.media = .connecting stage data frames)
    (step : stepMedia config s = some (s', events)) :
    ∃ next after, stepConnect config s stage = some (next, after, events) ∧
      s' = { next with
        media := after.elim (.writing .test data frames)
          (.connecting · data frames) } := by
  simp only [stepMedia, media] at step
  split at step <;> cases step <;> rename_i result
  · exact ⟨_, _, result, rfl⟩
  · exact ⟨_, _, result, rfl⟩

theorem stepMedia_writing {config : Config} {s s' : State} {stage : Write}
    {data : Bytes} {frames : List Frame} {events : List Event}
    (media : s.media = .writing stage data frames)
    (step : stepMedia config s = some (s', events)) :
    ∃ next after, stepWrite config s data stage = some (next, after, events) ∧
      s' = { next with
        media := after.elim (.looping frames) (.writing · data frames) } := by
  simp only [stepMedia, media] at step
  split at step <;> cases step <;> rename_i result
  · exact ⟨_, _, result, rfl⟩
  · exact ⟨_, _, result, rfl⟩

theorem Taken.quiet {s s' : State} {events : List Event}
    (silent : events.filter Event.onWriteSide = []) (ops : s'.ops = s.ops)
    (pending : s'.configPending = s.configPending)
    (mutex : s'.writeMutex = s.writeMutex)
    (done : s'.writesDone = s.writesDone)
    (connected : s'.connected = s.connected) : Taken s s' events := by
  have turn : Turn s s' s.ops s.ops s.configPending s.configPending events :=
    .quiet silent mutex done connected
  refine .intro [] [] ?_ ?_ rfl pending turn
  · simp
  · simp [ops]

theorem stepInit_taken {config : Config} {s s' : State} {ok : Bool}
    {events : List Event} (placed : Placed s)
    (step : stepInit config s ok = some (s', events)) :
    Taken s s' events ∧ Placed s' := by
  cases init : s.init with
  | connecting stage =>
      obtain ⟨idle, resting, absent⟩ := placed.starting (by simp [init])
      have fits : stage.Fits s.connected := by
        simpa [init, Init.Fits] using placed.init
      obtain ⟨next, after, result, rfl⟩ := stepInit_connecting init step
      obtain ⟨stays, turn, reach⟩ := stepConnect_turn fits result
      constructor
      · refine .intro [] [] ?_ ?_ ?_ ?_ (turn.stored ?_ ?_ ?_)
        · simp [State.ops, init, idle, resting, absent, Init.ops, Media.ops,
            Read.ops, Cleanup.ops]
        · cases after <;> simp [State.ops, stays.media, stays.read,
            stays.cleanup, idle, resting, absent, Init.ops, Media.ops,
            Read.ops, Cleanup.ops]
        · simp [State.configPending, init, idle, Init.pending, Media.pending]
        · cases after <;> simp [State.configPending, stays.media, idle,
            Init.pending, Media.pending]
        all_goals rfl
      · refine ⟨fun _ => ?_, ?_, ?_, ?_, ?_, ?_⟩
        · exact ⟨stays.media.trans idle, stays.cleanup.trans resting,
            stays.read.trans absent⟩
        · exact .inl (stays.media.trans idle)
        · cases after with
          | none => trivial
          | some stage' => exact reach stage' rfl
        · simp [stays.media, idle, Media.Fits]
        · simp [stays.read, absent, Read.Fits]
        · simp [stays.cleanup, resting, Cleanup.Fits]
  | createThread =>
      obtain ⟨idle, resting, absent⟩ := placed.starting (by simp [init])
      simp only [stepInit, init] at step
      split at step <;> cases step
      · constructor
        · refine Taken.quiet rfl ?_ ?_ rfl rfl rfl
          · simp [State.ops, init, absent, Init.ops, Read.ops]
          · simp [State.configPending, init, Init.pending]
        · exact ⟨fun early => absurd rfl early, placed.apart, trivial,
            placed.media, trivial, placed.cleanup⟩
      · constructor
        · refine Taken.quiet rfl ?_ ?_ rfl rfl rfl
          · simp [State.ops, init, Init.ops]
          · simp [State.configPending, init, Init.pending]
        · exact ⟨fun _ => ⟨idle, resting, absent⟩, placed.apart, trivial,
            placed.media, placed.read, placed.cleanup⟩
  | ready | failed =>
      simp only [stepInit, init] at step
      cases step

theorem stepMedia_taken {config : Config} {s s' : State}
    {events : List Event} (placed : Placed s)
    (step : stepMedia config s = some (s', events)) :
    Taken s s' events ∧ Placed s' := by
  have busy : s.media ≠ .idle := by
    intro idle
    simp [stepMedia, idle] at step
  have resting : s.cleanup = .idle := placed.apart.resolve_left busy
  have ready : s.init = .ready := by
    by_contra early
    exact busy (placed.starting early).1
  cases media : s.media with
  | idle => exact absurd media busy
  | looping frames =>
      cases frames with
      | nil =>
          simp only [stepMedia, media] at step
          cases step
          constructor
          · refine Taken.quiet rfl ?_ ?_ rfl rfl rfl
            · simp [State.ops, media, Media.ops]
            · simp [State.configPending, media, Media.pending]
          · exact ⟨fun early => absurd ready early, .inl rfl, placed.init,
              trivial, placed.read, placed.cleanup⟩
      | cons frame frames =>
          simp only [stepMedia, media] at step
          split at step <;> rename_i talking <;> cases step
          · constructor
            · refine Taken.quiet rfl ?_ ?_ rfl rfl rfl
              · simp [State.ops, media, Media.ops, Connect.ops]
              · simp [State.configPending, media, Media.pending,
                  Connect.pending]
            · have unpublished : s.connected = false := by
                simp only [Bool.and_eq_true, Bool.not_eq_true'] at talking
                exact talking.1.2
              exact ⟨fun early => absurd ready early, .inr resting,
                placed.init, unpublished, placed.read, placed.cleanup⟩
          · constructor
            · refine Taken.quiet rfl ?_ ?_ rfl rfl rfl
              · simp [State.ops, media, Media.ops, Write.ops]
              · simp [State.configPending, media, Media.pending]
            · exact ⟨fun early => absurd ready early, .inr resting,
                placed.init, trivial, placed.read, placed.cleanup⟩
  | connecting stage data frames =>
      have fits : stage.Fits s.connected := by
        simpa [media, Media.Fits] using placed.media
      obtain ⟨next, after, result, rfl⟩ := stepMedia_connecting media step
      obtain ⟨stays, turn, reach⟩ := stepConnect_turn fits result
      constructor
      · refine .intro [] s.read.ops ?_ ?_ ?_ ?_ (turn.stored ?_ ?_ ?_)
        · simp [State.ops, ready, media, resting, Init.ops, Media.ops,
            Cleanup.ops]
        · cases after <;> simp [State.ops, stays.init, stays.read,
            stays.cleanup, ready, resting, Init.ops, Media.ops, Write.ops,
            Cleanup.ops]
        · simp [State.configPending, ready, media, Init.pending, Media.pending]
        · cases after <;> simp [State.configPending, stays.init, ready,
            Init.pending, Media.pending]
        all_goals rfl
      · refine ⟨fun early => ?_, ?_, ?_, ?_, ?_, ?_⟩
        · exact absurd (stays.init.trans ready) early
        · exact .inr (stays.cleanup.trans resting)
        · simp [stays.init, ready, Init.Fits]
        · cases after with
          | none => trivial
          | some stage' => exact reach stage' rfl
        · rw [stays.read]
          exact placed.read.later turn.connected_kept
        · rw [stays.cleanup]
          exact placed.cleanup.later turn.connected_kept
  | writing stage data frames =>
      have fits : stage.Fits s.connected := by
        simpa [media, Media.Fits] using placed.media
      obtain ⟨next, after, result, rfl⟩ := stepMedia_writing media step
      obtain ⟨stays, turn, reach⟩ := stepWrite_turn fits result
      constructor
      · refine .intro [] s.read.ops ?_ ?_ ?_ ?_ (turn.stored ?_ ?_ ?_)
        · simp [State.ops, ready, media, resting, Init.ops, Media.ops,
            Cleanup.ops]
        · cases after <;> simp [State.ops, stays.init, stays.read,
            stays.cleanup, ready, resting, Init.ops, Media.ops, Cleanup.ops]
        · simp [State.configPending, ready, media, Init.pending, Media.pending]
        · cases after <;> simp [State.configPending, stays.init, ready,
            Init.pending, Media.pending]
        all_goals rfl
      · refine ⟨fun early => ?_, ?_, ?_, ?_, ?_, ?_⟩
        · exact absurd (stays.init.trans ready) early
        · exact .inr (stays.cleanup.trans resting)
        · simp [stays.init, ready, Init.Fits]
        · cases after with
          | none => trivial
          | some stage' => exact reach stage' rfl
        · rw [stays.read]
          exact placed.read.later turn.connected_kept
        · rw [stays.cleanup]
          exact placed.cleanup.later turn.connected_kept

/-- The read thread's step, which leaves the other threads alone. -/
structure ReadTurn (s s' : State) (events : List Event) : Prop where
  init : s'.init = s.init
  media : s'.media = s.media
  cleanup : s'.cleanup = s.cleanup
  connected : s'.connected = s.connected
  fits : s'.read.Fits s.connected
  turn : Turn s s' s.read.ops s'.read.ops s.configPending s.configPending events

theorem stepRead_turn {config : Config} {s s' : State}
    {response : Option Bool} {events : List Event}
    (fits : s.read.Fits s.connected)
    (settled : s.configPending = true →
      s.read ≠ .doneLock ∧ s.read ≠ .finishLock)
    (step : stepRead config s response = some (s', events)) :
    ReadTurn s s' events := by
  cases read : s.read with
  | absent | exited => simp [stepRead, read] at step
  | waiting =>
      simp only [stepRead, read] at step
      split at step
      · split at step <;> rename_i connected <;> cases step
        · refine ⟨rfl, rfl, rfl, rfl, connected, ?_⟩
          rw [read]
          exact .quiet rfl rfl rfl rfl
        · refine ⟨rfl, rfl, rfl, rfl, trivial, ?_⟩
          rw [read]
          exact .quiet rfl rfl rfl rfl
      · cases step
  | reading =>
      rw [read] at fits
      simp only [stepRead, read] at step
      split at step <;> cases step
      all_goals
        refine ⟨rfl, rfl, rfl, rfl, fits, ?_⟩
        rw [read]
        exact .quiet rfl rfl rfl rfl
  | responding endOfUtterance =>
      rw [read] at fits
      simp only [stepRead, read] at step
      split at step <;> cases step
      · cases single : config.wantsSingleUtterance
        all_goals
          refine ⟨rfl, rfl, rfl, rfl, fits, ?_⟩
          rw [read]
          exact .quiet rfl rfl rfl rfl
      · refine ⟨rfl, rfl, rfl, rfl, fits, ?_⟩
        rw [read]
        exact .quiet rfl rfl rfl rfl
  | doneTest =>
      rw [read] at fits
      simp only [stepRead, read] at step
      split at step <;> cases step
      all_goals
        refine ⟨rfl, rfl, rfl, rfl, fits, ?_⟩
        rw [read]
        exact .quiet rfl rfl rfl rfl
  | doneLock =>
      rw [read] at fits
      have written : s.configPending = false := by
        by_contra pending
        exact (settled (by simpa using pending)).1 read
      simp only [stepRead, read] at step
      split at step
      · cases step
      · rename_i locked
        have free : s.writeMutex = false := by simpa using locked
        split at step <;> rename_i done <;> cases step
        · refine ⟨rfl, rfl, rfl, rfl, fits, ?_⟩
          rw [read]
          exact .quiet rfl rfl rfl rfl
        · refine ⟨rfl, rfl, rfl, rfl, fits, ?_⟩
          rw [read, written]
          exact .issue free rfl (by simpa using done) rfl fits rfl (by simp)
  | doneInside =>
      rw [read] at fits
      simp only [stepRead, read] at step
      cases step
      refine ⟨rfl, rfl, rfl, rfl, fits, ?_⟩
      rw [read]
      exact .ends rfl (by simp) rfl
  | finishLock =>
      rw [read] at fits
      have written : s.configPending = false := by
        by_contra pending
        exact (settled (by simpa using pending)).2 read
      simp only [stepRead, read] at step
      split at step <;> cases step
      rename_i locked
      have free : s.writeMutex = false := by simpa using locked
      refine ⟨rfl, rfl, rfl, rfl, fits, ?_⟩
      rw [read, written]
      exact .finish free rfl rfl fits rfl
  | finishInside =>
      simp only [stepRead, read] at step
      cases step
      refine ⟨rfl, rfl, rfl, rfl, trivial, ?_⟩
      rw [read]
      exact .ends rfl (by simp) rfl

theorem stepRead_taken {config : Config} {s s' : State}
    {response : Option Bool} {events : List Event} (placed : Placed s)
    (settled : s.configPending = true →
      s.read ≠ .doneLock ∧ s.read ≠ .finishLock)
    (step : stepRead config s response = some (s', events)) :
    Taken s s' events ∧ Placed s' := by
  have ready : s.init = .ready := by
    by_contra early
    simp [stepRead, (placed.starting early).2.2] at step
  obtain ⟨init, media, cleanup, connected, fits, turn⟩ :=
    stepRead_turn placed.read settled step
  constructor
  · refine .intro (s.init.ops ++ s.media.ops) s.cleanup.ops rfl ?_ rfl ?_ turn
    · simp [State.ops, init, media, cleanup]
    · simp [State.configPending, init, media]
  · refine ⟨fun early => absurd (init.trans ready) early, ?_, ?_, ?_, ?_, ?_⟩
    · rw [media, cleanup]
      exact placed.apart
    · rw [init, connected]
      exact placed.init
    · rw [media, connected]
      exact placed.media
    · rw [connected]
      exact fits
    · rw [cleanup, connected]
      exact placed.cleanup

/-- A step of `reap_streamer`, which leaves the other threads alone. -/
structure ReapTurn (s s' : State) (events : List Event) : Prop where
  init : s'.init = s.init
  media : s'.media = s.media
  read : s'.read = s.read
  connected : s'.connected = s.connected
  fits : s'.cleanup.Fits s.connected
  turn : Turn s s' s.cleanup.ops s'.cleanup.ops false false events

theorem stepReap_turn {s s' : State} {events : List Event}
    (fits : s.cleanup.Fits s.connected)
    (step : stepReap s = some (s', events)) : ReapTurn s s' events := by
  cases cleanup : s.cleanup with
  | idle => simp [stepReap, cleanup] at step
  | load =>
      simp only [stepReap, cleanup] at step
      split at step <;> cases step
      all_goals
        refine ⟨rfl, rfl, rfl, rfl, trivial, ?_⟩
        rw [cleanup]
        exact .quiet rfl rfl rfl rfl
  | doneTest =>
      simp only [stepReap, cleanup] at step
      split at step <;> rename_i connected <;> cases step
      · refine ⟨rfl, rfl, rfl, rfl, connected, ?_⟩
        rw [cleanup]
        exact .quiet rfl rfl rfl rfl
      · refine ⟨rfl, rfl, rfl, rfl, trivial, ?_⟩
        rw [cleanup]
        exact .quiet rfl rfl rfl rfl
  | cancelConnect =>
      simp only [stepReap, cleanup] at step
      cases step
      refine ⟨rfl, rfl, rfl, rfl, trivial, ?_⟩
      rw [cleanup]
      exact .quiet rfl rfl rfl rfl
  | doneLock =>
      rw [cleanup] at fits
      simp only [stepReap, cleanup] at step
      split at step
      · cases step
      · rename_i locked
        have free : s.writeMutex = false := by simpa using locked
        split at step <;> rename_i done <;> cases step
        · refine ⟨rfl, rfl, rfl, rfl, trivial, ?_⟩
          rw [cleanup]
          exact .quiet rfl rfl rfl rfl
        · refine ⟨rfl, rfl, rfl, rfl, fits, ?_⟩
          rw [cleanup]
          exact .issue free rfl (by simpa using done) rfl fits rfl (by simp)
  | doneInside =>
      simp only [stepReap, cleanup] at step
      cases step
      refine ⟨rfl, rfl, rfl, rfl, trivial, ?_⟩
      rw [cleanup]
      exact .ends rfl (by simp) rfl
  | join =>
      simp only [stepReap, cleanup] at step
      split at step
      · split at step <;> cases step
        refine ⟨rfl, rfl, rfl, rfl, trivial, ?_⟩
        rw [cleanup]
        exact .quiet rfl rfl rfl rfl
      · cases step
        refine ⟨rfl, rfl, rfl, rfl, trivial, ?_⟩
        rw [cleanup]
        exact .quiet rfl rfl rfl rfl
  | delete =>
      simp only [stepReap, cleanup] at step
      split at step <;> cases step
      all_goals
        refine ⟨rfl, rfl, rfl, rfl, trivial, ?_⟩
        rw [cleanup]
        exact .quiet rfl rfl rfl rfl

/-- No `connect()` is in progress while `reap_streamer` runs. -/
theorem stepReap_taken {s s' : State} {events : List Event}
    (placed : Placed s) (step : stepReap s = some (s', events)) :
    Taken s s' events ∧ Placed s' := by
  have busy : s.cleanup ≠ .idle := by
    intro idle
    simp [stepReap, idle] at step
  have idle : s.media = .idle := placed.apart.resolve_right busy
  have ready : s.init = .ready := by
    by_contra early
    exact busy (placed.starting early).2.1
  obtain ⟨init, media, read, connected, fits, turn⟩ :=
    stepReap_turn placed.cleanup step
  constructor
  · refine .intro (s.init.ops ++ s.media.ops ++ s.read.ops) [] ?_ ?_ ?_ ?_ turn
    · simp [State.ops]
    · simp [State.ops, init, media, read]
    · simp [State.configPending, ready, idle, Init.pending, Media.pending]
    · simp [State.configPending, init, media, ready, idle, Init.pending,
        Media.pending]
  · refine ⟨fun early => absurd (init.trans ready) early,
      .inl (media.trans idle), ?_, ?_, ?_, ?_⟩
    · rw [init, connected]
      exact placed.init
    · rw [media, connected]
      exact placed.media
    · rw [read, connected]
      exact placed.read
    · rw [connected]
      exact fits

theorem step_taken {config : Config} {s s' : State} {act : Act}
    {events : List Event} (placed : Placed s)
    (admitted : afterConfig s act = true)
    (taken : step config s act = some (s', events)) :
    Taken s s' events ∧ Placed s' := by
  cases act with
  | init ok => exact stepInit_taken placed taken
  | frame frames =>
      simp only [step, stepFrame] at taken
      split at taken
      · rename_i called
        obtain ⟨ready, idle⟩ := called
        split at taken <;> rename_i free <;> cases taken
        · constructor
          · refine .quiet rfl ?_ ?_ rfl rfl rfl
            · simp [State.ops, idle, Media.ops]
            · simp [State.configPending, idle, Media.pending]
          · exact ⟨fun early => absurd ready early, .inr free.2.2,
              placed.init, trivial, placed.read, placed.cleanup⟩
        · exact ⟨.quiet rfl rfl rfl rfl rfl rfl, placed⟩
      · cases taken
  | media => exact stepMedia_taken placed taken
  | cleanup =>
      simp only [step] at taken
      split at taken <;> cases taken
      rename_i called
      obtain ⟨ready, idle, free⟩ := called
      constructor
      · refine .quiet rfl ?_ rfl rfl rfl rfl
        simp [State.ops, free, Cleanup.ops]
      · exact ⟨fun early => absurd ready early, .inl idle, placed.init,
          placed.media, placed.read, trivial⟩
  | reap => exact stepReap_taken placed taken
  | read response =>
      refine stepRead_taken placed ?_ taken
      intro pending
      simpa [afterConfig, pending] using admitted

/-- The mutex is held exactly during an operation, and the operations begun
before have ended. -/
structure Held (trace : List Event) (s : State) : Prop where
  mutex : (s.writeMutex = false ∧ s.ops = []) ∨
    ∃ op, s.writeMutex = true ∧ s.ops = [op]
  serial : ∃ complete : List WriteOp,
    trace.filter Event.onWriteSide =
      complete.flatMap (fun op => [.began op, .ended op]) ++
        s.ops.map .began

theorem Held.free {trace : List Event} {s : State} (held : Held trace s)
    (free : s.writeMutex = false) : s.ops = [] := by
  rcases held.mutex with ⟨_, none⟩ | ⟨op, locked, _⟩
  · exact none
  · simp [free] at locked

theorem Held.alone {trace : List Event} {s : State} (held : Held trace s)
    {before after : List WriteOp} {op : WriteOp}
    (source : s.ops = before ++ [op] ++ after) : before = [] ∧ after = [] := by
  rcases held.mutex with ⟨_, none⟩ | ⟨op', _, one⟩
  · simp [none] at source
  · rw [one] at source
    cases before with
    | nil =>
        simp only [List.nil_append, List.singleton_append,
          List.cons.injEq] at source
        exact ⟨rfl, source.2.symm⟩
    | cons first before => simp at source

theorem Held.begins {trace : List Event} {s s' : State}
    (held : Held trace s) {op : WriteOp} (free : s.writeMutex = false)
    (mutex : s'.writeMutex = true) (ops : s'.ops = [op]) :
    Held (trace ++ [.began op]) s' := by
  obtain ⟨complete, serial⟩ := held.serial
  refine ⟨.inr ⟨op, mutex, ops⟩, complete, ?_⟩
  rw [held.free free] at serial
  rw [List.filter_append, serial, ops]
  simp [Event.onWriteSide]

theorem Held.step {trace events : List Event} {s s' : State}
    (held : Held trace s) (taken : Taken s s' events) :
    Held (trace ++ events) s' := by
  obtain ⟨before, after, source, target, _, _, turn⟩ := taken
  have opened : s.writeMutex = false → before = [] ∧ after = [] := by
    intro free
    have none := held.free free
    rw [source] at none
    simp only [List.append_eq_nil_iff] at none
    exact ⟨none.1.1, none.2⟩
  cases turn with
  | quiet silent mutex =>
      obtain ⟨complete, serial⟩ := held.serial
      have same : s'.ops = s.ops := target.trans source.symm
      refine ⟨?_, complete, ?_⟩
      · rw [mutex, same]
        exact held.mutex
      · rw [List.filter_append, silent, List.append_nil, serial, same]
  | publish mutex =>
      obtain ⟨complete, serial⟩ := held.serial
      have same : s'.ops = s.ops := target.trans source.symm
      refine ⟨?_, complete, ?_⟩
      · rw [mutex, same]
        exact held.mutex
      · rw [List.append_nil, serial, same]
  | config free mutex | issue free mutex | finish free mutex =>
      obtain ⟨rfl, rfl⟩ := opened free
      exact held.begins free mutex target
  | @ends op _ mutex =>
      obtain ⟨complete, serial⟩ := held.serial
      obtain ⟨rfl, rfl⟩ := held.alone source
      refine ⟨.inl ⟨mutex, target⟩, complete ++ [op], ?_⟩
      have last : s.ops = [op] := source
      have none : s'.ops = [] := target
      rw [List.filter_append, serial, last, none]
      simp [Event.onWriteSide]

@[simp] theorem begun_append (trace events : List Event) :
    begun (trace ++ events) = begun trace ++ begun events :=
  List.filterMap_append

theorem begun_of_silent {events : List Event}
    (silent : events.filter Event.onWriteSide = []) : begun events = [] := by
  induction events with
  | nil => rfl
  | cons event events ih =>
      cases event with
      | began op | ended op => simp [Event.onWriteSide] at silent
      | promised | deleted => exact ih silent

/-- What has been begun, in terms of the stream's flags. -/
structure Ordered (trace : List Event) (s : State) : Prop where
  /-- Nothing happens before the config is about to be written. -/
  unwritten : s.connected = false ∨ s.configPending = true →
    begun trace = [] ∧ s.writesDone = false
  written : s.connected = true → s.configPending = false →
    ∃ later, begun trace = .write .streamingConfig :: later
  /-- The write side is marked closed, or is being closed. -/
  marked : ∀ op ∈ begun trace, op.closes = true →
    s.writesDone = true ∨ op = .writesDone ∧ .writesDone ∈ s.ops
  closed : (begun trace).Pairwise fun earlier later =>
    earlier.closes = true → later = .finish

/-- An operation that begins once everything before it is seen to be open. -/
theorem Ordered.closed_snoc {trace : List Event} {s : State}
    (ordered : Ordered trace s) {op : WriteOp}
    (opened : (∀ earlier ∈ begun trace, earlier.closes = false) ∨
      op = .finish) :
    (begun (trace ++ [.began op])).Pairwise fun earlier later =>
      earlier.closes = true → later = .finish := by
  rw [begun_append, List.pairwise_append]
  refine ⟨ordered.closed, List.pairwise_singleton .., ?_⟩
  intro earlier member later singleton closes
  have last : later = op := by
    simpa [begun, Event.begins] using singleton
  rcases opened with opened | finish
  · simp [opened earlier member] at closes
  · exact last.trans finish

theorem Ordered.opened {trace : List Event} {s : State}
    (held : Held trace s) (ordered : Ordered trace s)
    (free : s.writeMutex = false) (opened : s.writesDone = false) :
    ∀ earlier ∈ begun trace, earlier.closes = false := by
  intro earlier member
  by_contra closes
  rcases ordered.marked earlier member (by simpa using closes) with
    done | ⟨_, inside⟩
  · simp [opened] at done
  · simp [held.free free] at inside

theorem Held.begun {trace : List Event} {s : State} (held : Held trace s)
    {op : WriteOp} (inside : op ∈ s.ops) : op ∈ Google.begun trace := by
  obtain ⟨complete, serial⟩ := held.serial
  have began : Event.began op ∈ trace.filter Event.onWriteSide := by
    rw [serial]
    exact List.mem_append_right _ (List.mem_map_of_mem inside)
  exact List.mem_filterMap.mpr ⟨_, (List.mem_filter.mp began).1, rfl⟩

theorem Ordered.step {trace events : List Event} {s s' : State}
    (held : Held trace s) (ordered : Ordered trace s)
    (taken : Taken s s' events) : Ordered (trace ++ events) s' := by
  obtain ⟨before, after, source, target, source_pending, target_pending,
    turn⟩ := taken
  cases turn with
  | quiet silent _ done connected =>
      have same : begun (trace ++ events) = begun trace := by
        rw [begun_append, begun_of_silent silent, List.append_nil]
      have pending : s'.configPending = s.configPending :=
        target_pending.trans source_pending.symm
      have ops : s'.ops = s.ops := target.trans source.symm
      constructor
      · rw [same, connected, pending, done]
        exact ordered.unwritten
      · rw [same, connected, pending]
        exact ordered.written
      · rw [same, done, ops]
        exact ordered.marked
      · rw [same]
        exact ordered.closed
  | publish _ done unpublished published =>
      obtain ⟨empty, opened⟩ := ordered.unwritten (.inl unpublished)
      rw [List.append_nil]
      constructor
      · intro _
        exact ⟨empty, done.trans opened⟩
      · intro _ settled
        simp [target_pending] at settled
      · simp [empty]
      · simp [empty]
  | config free mutex done published connected =>
      obtain ⟨empty, _⟩ := ordered.unwritten (.inr source_pending)
      have one : begun (trace ++ [.began (.write .streamingConfig)]) =
          [.write .streamingConfig] := by
        rw [begun_append, empty]
        rfl
      constructor
      · intro early
        simp [connected, published, target_pending] at early
      · intro _ _
        exact ⟨[], one⟩
      · simp [one, WriteOp.closes]
      · simp [one]
  | @issue op free mutex opened done published connected unfinished =>
      have clear := ordered.opened held free opened
      obtain ⟨later, first⟩ := ordered.written published source_pending
      constructor
      · intro early
        simp [connected, published, target_pending] at early
      · intro _ _
        exact ⟨later ++ [op], by rw [begun_append, first]; rfl⟩
      · intro earlier member closes
        rw [begun_append, List.mem_append] at member
        rcases member with member | member
        · simp [clear earlier member] at closes
        · have last : earlier = op := by
            simpa [begun, Event.begins] using member
          have half : op = .writesDone := by
            cases op with
            | write request => simp [last, WriteOp.closes] at closes
            | writesDone => rfl
            | finish => exact absurd rfl unfinished
          exact .inr ⟨last.trans half, by simp [target, half]⟩
      · exact ordered.closed_snoc (.inl clear)
  | finish free mutex done published connected =>
      obtain ⟨later, first⟩ := ordered.written published source_pending
      constructor
      · intro early
        simp [connected, published, target_pending] at early
      · intro _ _
        exact ⟨later ++ [.finish], by rw [begun_append, first]; rfl⟩
      · intro earlier _ _
        exact .inl done
      · exact ordered.closed_snoc (.inr rfl)
  | @ends op pending mutex done connected =>
      have same : begun (trace ++ [.ended op]) = begun trace := by
        rw [begun_append]
        exact List.append_nil _
      have still : s'.configPending = s.configPending :=
        target_pending.trans source_pending.symm
      obtain ⟨rfl, rfl⟩ := held.alone source
      constructor
      · rw [same, connected, still]
        intro early
        have inside : op ∈ s.ops := by simp [source]
        have began := held.begun inside
        rw [(ordered.unwritten early).1] at began
        cases began
      · rw [same, connected, still]
        exact ordered.written
      · rw [same, done]
        intro earlier member closes
        rcases ordered.marked earlier member closes with
          marked | ⟨_, inside⟩
        · exact .inl (by simp [marked])
        · have last : op = .writesDone := by
            simpa [source, eq_comm] using inside
          exact .inl (by simp [last])
      · rw [same]
        exact ordered.closed

theorem Ordered.config_first {trace : List Event} {s : State}
    (ordered : Ordered trace s) :
    ∀ request ∈ ((begun trace).filterMap WriteOp.request).head?,
      request = .streamingConfig := by
  intro request head
  by_cases written : s.connected = true ∧ s.configPending = false
  · obtain ⟨later, first⟩ := ordered.written written.1 written.2
    rw [first] at head
    simpa [WriteOp.request, eq_comm] using head
  · have early : s.connected = false ∨ s.configPending = true := by
      by_cases connected : s.connected = true
      · exact .inr (by simpa [connected] using written)
      · exact .inl (by simpa using connected)
    rw [(ordered.unwritten early).1] at head
    cases head

/-- Of operations that nothing but Finish follows, one at most is WritesDone. -/
theorem count_writesDone_of_closed {ops : List WriteOp}
    (closed : ops.Pairwise fun earlier later =>
      earlier.closes = true → later = .finish) :
    ops.count .writesDone ≤ 1 := by
  induction closed with
  | nil => simp
  | @cons op ops follows _ ih =>
      cases op with
      | writesDone =>
          have none : WriteOp.writesDone ∉ ops := by
            intro member
            cases follows _ member rfl
          simp [List.count_eq_zero_of_not_mem none]
      | write request | finish => simpa using ih

theorem WriteSide.of {trace : List Event} {s : State} (held : Held trace s)
    (ordered : Ordered trace s) : WriteSide trace := by
  refine ⟨?_, ordered.config_first,
    count_writesDone_of_closed ordered.closed, ordered.closed⟩
  obtain ⟨complete, serial⟩ := held.serial
  rcases held.mutex with ⟨_, empty⟩ | ⟨op, _, one⟩
  · exact ⟨complete, none, by rw [serial, empty]; rfl⟩
  · exact ⟨complete, some op, by rw [serial, one]; rfl⟩

theorem State.fresh_placed (config : Config) : Placed (.fresh config) := by
  cases vad : config.vad
  all_goals
    simp only [State.fresh, vad]
    exact ⟨fun _ => ⟨rfl, rfl, rfl⟩, .inl rfl, by trivial, trivial, trivial,
      trivial⟩

theorem held_fresh (config : Config) : Held [] (.fresh config) := by
  cases vad : config.vad
  all_goals
    simp only [State.fresh, vad]
    exact ⟨.inl ⟨rfl, rfl⟩, [], rfl⟩

theorem ordered_fresh (config : Config) : Ordered [] (.fresh config) := by
  refine ⟨fun _ => ⟨rfl, rfl⟩, ?_, ?_, .nil⟩
  · intro connected
    cases connected
  · intro op member
    cases member

/-- While the read thread keeps away from the write side between the
publication of the stream and the config, every interleaving keeps the contract
of the stream's write side. -/
theorem write_side_kept {config : Config} {labels : List Act}
    {trace : List Event} {finish : State}
    (run : (machine config).Run afterConfig (machine config).initial labels
      trace finish) : WriteSide trace := by
  have kept : Placed finish ∧ Held trace finish ∧ Ordered trace finish := by
    refine run.induct
      (fun trace s => Placed s ∧ Held trace s ∧ Ordered trace s) ?_ ?_
    · exact ⟨State.fresh_placed config, held_fresh config,
        ordered_fresh config⟩
    · intro trace s act s' events ⟨placed, held, ordered⟩ admitted taken
      obtain ⟨turn, placed'⟩ := step_taken placed admitted taken
      exact ⟨placed', held.step turn, ordered.step held turn⟩
  exact .of kept.2.1 kept.2.2

/-- A VAD session for one utterance: the config, the audio, WritesDone at the
end of the utterance, and Finish. -/
theorem write_side_kept_for_utterance :
    ∃ labels trace finish,
      (machine ⟨true, true, 2⟩).Run afterConfig
          (machine ⟨true, true, 2⟩).initial labels trace finish ∧
        begun trace = [.write .streamingConfig, .write (.audioContent [1]),
          .writesDone, .finish] ∧
        WriteSide trace := by
  let labels : List Act :=
    [Act.init true, .frame [⟨[1], true⟩]] ++ List.replicate 10 Act.media ++
      List.replicate 6 (Act.read (some true)) ++
      List.replicate 3 (Act.read none)
  have executed : ((machine ⟨true, true, 2⟩).exec afterConfig
      (machine ⟨true, true, 2⟩).initial labels).map (fun outcome =>
        decide (begun outcome.2 = [.write .streamingConfig,
          .write (.audioContent [1]), .writesDone, .finish])) = some true := by
    decide
  obtain ⟨finish, trace, run, ops⟩ := Machine.exists_run_of_exec _ executed
  exact ⟨labels, trace, finish, run, of_decide_eq_true ops,
    write_side_kept run⟩

/-- The server fails the call at once: the read thread's Finish comes between
the publication of the stream and the config, which `connect()` writes then. -/
theorem config_after_finish :
    ¬ ∀ (config : Config) (labels : List Act) (trace : List Event)
      (finish : State),
      (machine config).Run anyStep (machine config).initial labels trace
        finish →
      WriteSide trace := by
  intro always
  let labels : List Act :=
    [Act.init true, .frame [⟨[1], true⟩]] ++ List.replicate 3 Act.media ++
      List.replicate 4 (Act.read none) ++ [Act.media]
  have executed : ((machine ⟨true, false, 2⟩).exec anyStep
      (machine ⟨true, false, 2⟩).initial labels).map (fun outcome =>
        decide (begun outcome.2 = [.finish, .write .streamingConfig])) =
      some true := by
    decide
  obtain ⟨finish, trace, run, ops⟩ := Machine.exists_run_of_exec _ executed
  have closed := (always _ labels trace finish run).closed
  rw [of_decide_eq_true ops] at closed
  simp [WriteOp.closes] at closed

end DrachtioModules.Google

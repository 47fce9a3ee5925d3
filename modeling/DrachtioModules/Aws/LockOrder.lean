import DrachtioModules.Locks

/-!
# The locks of a session of mod_aws_transcribe

What the functions of one session take and give back, in the order in which
their code does: the media bugs' read-write lock of the session and, for each
capture c, the mutex of its `cap_cb` and the two mutexes of its GStreamer.  The
worker thread and the threads of the SDK have a lock of their own that they hold
until they end; to join them is to wait for it.

Which way a branch goes is left open, and so is how often a loop runs.
FreeSWITCH locates a session without waiting, so that has no part in it; nor
have the events that are fired.
-/

namespace DrachtioModules.Aws.LockOrder

open Locks (Cmd Call Discipline Above Mode NoCyclicWait)

inductive Lock where
  | bugRwlock
  | cbMutex (c : Nat)
  | worker (c : Nat)
  | sdk (c : Nat)
  | audioBufferMutex (c : Nat)
  | mutex (c : Nat)
  deriving DecidableEq, Repr

/-- The order of the locks; the mutex of a `cap_cb` is a nested one. -/
@[simp]
def Lock.rank : Lock → Nat
  | .bugRwlock => 0
  | .cbMutex _ => 1
  | .worker _ => 2
  | .sdk _ => 3
  | .audioBufferMutex _ => 4
  | .mutex _ => 5

@[simp]
def Lock.recursive : Lock → Bool
  | .cbMutex _ => true
  | _ => false

def order : Discipline Lock :=
  { rank := Lock.rank
    recursive := Lock.recursive }

def onTranscriptEvent (c : Nat) : Cmd Lock := .guarded (.mutex c) .skip

/-- The chunks of the prebuffer and what is staged go into the deque one by one,
under both mutexes; without the session there is nothing but the wake-up. -/
def onStreamReady (c : Nat) : Cmd Lock :=
  .block
    [.maybe (.guarded (.audioBufferMutex c)
      (.loop (.guarded (.mutex c) .skip))),
      .guarded (.mutex c) .skip]

def onResponseCallback (c : Nat) : Cmd Lock := .guarded (.mutex c) .skip

/-- The SDK may call back before `StartStreamTranscriptionAsync` returns. -/
def connect (c : Nat) : Cmd Lock :=
  .maybe (.loop (.either (onStreamReady c) (onResponseCallback c)))

def write (c : Nat) : Cmd Lock :=
  -- finishing or finished
  .maybe
    (.either
      -- not connected, and still not under the mutex
      (.guarded (.audioBufferMutex c) .skip)
      (.block
        [.maybe (.guarded (.audioBufferMutex c) .skip),
          .guarded (.mutex c) .skip]))

def finish (c : Nat) : Cmd Lock := .maybe (.guarded (.mutex c) .skip)

/-- `SessionLock` and the response handler. -/
def deliverTranscript : Cmd Lock := .skip

/-- A round of the loop that is not the last one. -/
def processRound (c : Nat) : Cmd Lock :=
  .seq (.lock (.mutex c) .exclusive) (.seq (.loop (.wait (.mutex c)))
    (.either
      -- the final response is overdue
      (.unlock (.mutex c) .exclusive)
      (.seq (.maybe (.unlocked (.mutex c) deliverTranscript))
        (.either
          -- finishing: what is queued, the end of the stream, Close
          (.seq (.maybe (.unlocked (.mutex c) .skip))
            (.unlock (.mutex c) .exclusive))
          -- queued audio
          (.unlock (.mutex c) .exclusive)))))

/-- The round that returns: finished, or never connected. -/
def processReturn (c : Nat) : Cmd Lock :=
  .guarded (.mutex c) (.block
    [.loop (.wait (.mutex c)), .maybe (.unlocked (.mutex c) deliverTranscript)])

def processData (c : Nat) : Cmd Lock :=
  .block [.loop (processRound c), processReturn c]

/-- An exception may cut it short; the worker's own lock is given back at the
end. -/
def awsTranscribeThread (c : Nat) : Cmd Lock :=
  .seq
    (.block [.maybe (connect c), .maybe (finish c), .maybe (processData c)])
    (.unlock (.worker c) .shared)

/-- The destructor of the GStreamer waits for what the SDK has under way. -/
def killcb (c : Nat) : Cmd Lock := .maybe (.await (.sdk c))

/-- `finish()` and the join, where there is a GStreamer and a thread. -/
def finishAndJoin (c : Nat) : Cmd Lock :=
  .block [.maybe (finish c), .maybe (.await (.worker c))]

def sessionClose (c : Nat) : Cmd Lock :=
  .guarded (.cbMutex c) (.block [finishAndJoin c, killcb c])

/-- `capture_callback` with SWITCH_ABC_TYPE_CLOSE. -/
def captureClose (c : Nat) : Cmd Lock := sessionClose c

/-- `switch_core_media_bug_remove`: the bug may be gone, and CLOSE is fired
under the lock or after it. -/
def mediaBugRemove (c : Nat) : Cmd Lock :=
  .either (.guarded .bugRwlock (.maybe (captureClose c)))
    (.block [.guarded .bugRwlock .skip, .maybe (captureClose c)])

def sessionStop (c : Nat) : Cmd Lock :=
  .maybe (.seq (.lock (.cbMutex c) .exclusive)
    (.either
      -- the channel private does not hold the bug any more
      (.unlock (.cbMutex c) .exclusive)
      (.seq (finishAndJoin c) (.seq (killcb c)
        (.seq (.unlock (.cbMutex c) .exclusive)
          (.maybe (mediaBugRemove c)))))))

/-- Without a mutex: the bug was never attached. -/
def sessionCleanup (c : Nat) : Cmd Lock := .block [finishAndJoin c, killcb c]

/-- A call of `start_capture`, which may stop a session first, and whose bug may
not be added. -/
def startCapture (previous c : Nat) : Cmd Lock :=
  .block
    [.maybe (sessionStop previous), .guarded .bugRwlock .skip,
      .maybe (sessionCleanup c)]

def transcribeFrame (c : Nat) : Cmd Lock :=
  .tryLock (.cbMutex c) .exclusive
    (.seq (.maybe (.loop (.block [.maybe (connect c), write c])))
      (.unlock (.cbMutex c) .exclusive))

/-- What runs on a thread: the frame callbacks of the bugs, under the read side
of their lock; a worker; a callback of the SDK; an API call; a hangup, which
holds the write side while it closes the bugs. -/
inductive Thread where
  | media (captures : List Nat)
  | worker (c : Nat)
  | transcriptEvent (c : Nat)
  | streamReady (c : Nat)
  | response (c : Nat)
  | stop (c : Nat)
  | start (previous c : Nat)
  | hangup (captures : List Nat)
  deriving DecidableEq, Repr

/-- A callback on a thread of the SDK. -/
def sdkCall (c : Nat) (callback : Cmd Lock) : Call Lock :=
  ⟨some (.sdk c), .seq callback (.unlock (.sdk c) .shared)⟩

def Thread.call : Thread → Call Lock
  | .media captures =>
      ⟨none, .seq (.lock .bugRwlock .shared)
        (.seq (.block (captures.map transcribeFrame))
          (.unlock .bugRwlock .shared))⟩
  | .worker c => ⟨some (.worker c), awsTranscribeThread c⟩
  | .transcriptEvent c => sdkCall c (onTranscriptEvent c)
  | .streamReady c => sdkCall c (onStreamReady c)
  | .response c => sdkCall c (onResponseCallback c)
  | .stop c => ⟨none, sessionStop c⟩
  | .start previous c => ⟨none, startCapture previous c⟩
  | .hangup captures =>
      ⟨none, .guarded .bugRwlock (.block (captures.map captureClose))⟩

section Functions

variable {held : List (Lock × Mode)} {c : Nat}

theorem mutex_neutral (above : Above order held (.mutex c)) :
    (Cmd.guarded (.mutex c) .skip).Neutral order held :=
  .guarded above .skip

theorem onStreamReady_neutral (above : Above order held (.audioBufferMutex c)) :
    (onStreamReady c).Neutral order held := by
  have inside : Above order held (.mutex c) := above.higher (by simp [order])
  have nested : Above order ((.audioBufferMutex c, .exclusive) :: held)
      (.mutex c) :=
    inside.cons (by simp [order])
  apply Cmd.Neutral.seq
  · exact .maybe (.guarded above (.loop (mutex_neutral nested)))
  · exact .seq (mutex_neutral inside) .skip

theorem connect_neutral (above : Above order held (.audioBufferMutex c)) :
    (connect c).Neutral order held := by
  apply Cmd.Neutral.maybe
  apply Cmd.Neutral.loop
  apply Cmd.Neutral.either
  · exact onStreamReady_neutral above
  · exact mutex_neutral (above.higher (by simp [order]))

theorem write_neutral (above : Above order held (.audioBufferMutex c)) :
    (write c).Neutral order held := by
  have buffer : (Cmd.guarded (.audioBufferMutex c) .skip).Neutral order held :=
    .guarded above .skip
  apply Cmd.Neutral.maybe
  apply Cmd.Neutral.either
  · exact buffer
  · apply Cmd.Neutral.seq (.maybe buffer)
    exact .seq (mutex_neutral (above.higher (by simp [order]))) .skip

theorem finish_neutral (above : Above order held (.mutex c)) :
    (finish c).Neutral order held :=
  .maybe (mutex_neutral above)

theorem processRound_neutral (above : Above order held (.mutex c)) :
    (processRound c).Neutral order held := by
  have unlocks : (Cmd.unlock (Lock.mutex c) .exclusive).Safe order
      ((.mutex c, .exclusive) :: held) (· = held) :=
    .unlock_last rfl
  refine ⟨.inl above, ?_⟩
  apply Cmd.Neutral.andThen (.loop (.wait above))
  refine ⟨unlocks, ?_⟩
  apply Cmd.Neutral.andThen (.maybe (.unlocked above .skip))
  refine ⟨?_, unlocks⟩
  exact Cmd.Neutral.andThen (.maybe (.unlocked above .skip)) unlocks

theorem processData_neutral (above : Above order held (.mutex c)) :
    (processData c).Neutral order held := by
  apply Cmd.Neutral.seq
  · exact .loop (processRound_neutral above)
  · refine .seq (.guarded above ?_) .skip
    apply Cmd.Neutral.seq (.loop (.wait above))
    exact .seq (.maybe (.unlocked above .skip)) .skip

theorem finishAndJoin_neutral (above : Above order held (.worker c)) :
    (finishAndJoin c).Neutral order held := by
  apply Cmd.Neutral.seq
  · exact .maybe (finish_neutral (above.higher (by simp [order])))
  · exact .seq (.maybe (.await above)) .skip

theorem killcb_neutral (above : Above order held (.sdk c)) :
    (killcb c).Neutral order held :=
  .maybe (.await above)

/-- All that a stop does under the mutex of the `cap_cb`. -/
theorem teardown_neutral (above : Above order held (.worker c)) :
    (Cmd.block [finishAndJoin c, killcb c]).Neutral order held :=
  .seq (finishAndJoin_neutral above)
    (.seq (killcb_neutral (above.higher (by simp [order]))) .skip)

theorem sessionClose_neutral (above : Above order held (.cbMutex c)) :
    (sessionClose c).Neutral order held := by
  apply Cmd.Neutral.guarded above
  apply teardown_neutral
  exact (above.higher (by simp [order])).cons (by simp [order])

theorem mediaBugRemove_neutral (above : Above order held .bugRwlock) :
    (mediaBugRemove c).Neutral order held := by
  have outside : Above order held (.cbMutex c) :=
    above.higher (by simp [order])
  apply Cmd.Neutral.either
  · apply Cmd.Neutral.guarded above
    exact .maybe (sessionClose_neutral (outside.cons (by simp [order])))
  · apply Cmd.Neutral.seq (.guarded above .skip)
    exact .seq (.maybe (sessionClose_neutral outside)) .skip

/-- The bug is removed after the mutex is given back. -/
theorem sessionStop_neutral (above : Above order held .bugRwlock) :
    (sessionStop c).Neutral order held := by
  have outside : Above order held (.cbMutex c) :=
    above.higher (by simp [order])
  have inside : Above order ((.cbMutex c, .exclusive) :: held) (.worker c) :=
    (above.higher (by simp [order])).cons (by simp [order])
  apply Cmd.Neutral.maybe
  refine ⟨.inl outside, .unlock_last rfl, ?_⟩
  apply Cmd.Neutral.andThen (finishAndJoin_neutral inside)
  apply Cmd.Neutral.andThen (killcb_neutral (inside.higher (by simp [order])))
  apply Cmd.Safe.unlock_then
  exact Cmd.Neutral.maybe (mediaBugRemove_neutral above)

theorem startCapture_neutral {previous : Nat}
    (above : Above order held .bugRwlock) :
    (startCapture previous c).Neutral order held := by
  have cleanup : (sessionCleanup c).Neutral order held :=
    teardown_neutral (above.higher (by simp [order]))
  apply Cmd.Neutral.seq (.maybe (sessionStop_neutral above))
  apply Cmd.Neutral.seq (.guarded above .skip)
  exact .seq (.maybe cleanup) .skip

theorem transcribeFrame_neutral
    (above : Above order held (.audioBufferMutex c)) :
    (transcribeFrame c).Neutral order held := by
  have inside : Above order ((.cbMutex c, .exclusive) :: held)
      (.audioBufferMutex c) :=
    above.cons (by simp [order])
  apply Cmd.Neutral.tryLocked
  apply Cmd.Neutral.maybe
  apply Cmd.Neutral.loop
  apply Cmd.Neutral.seq (.maybe (connect_neutral inside))
  exact .seq (write_neutral inside) .skip

theorem awsTranscribeThread_safe :
    (Thread.call (.worker c)).Safe order := by
  have born : Above order [(.worker c, .shared)] (.audioBufferMutex c) :=
    (Above.nil order _).cons (by simp [order])
  have lower : Above order [(.worker c, .shared)] (.mutex c) :=
    born.higher (by simp [order])
  refine Cmd.Neutral.andThen ?_ (.unlock_last rfl)
  apply Cmd.Neutral.seq (.maybe (connect_neutral born))
  apply Cmd.Neutral.seq (.maybe (finish_neutral lower))
  exact .seq (.maybe (processData_neutral lower)) .skip

theorem sdkCall_safe {callback : Cmd Lock}
    (neutral : Above order [(.sdk c, .shared)] (.audioBufferMutex c) →
      callback.Neutral order [(.sdk c, .shared)]) :
    (sdkCall c callback).Safe order := by
  refine Cmd.Neutral.andThen (neutral ?_) (.unlock_last rfl)
  exact (Above.nil order _).cons (by simp [order])

end Functions

theorem call_safe (thread : Thread) : thread.call.Safe order := by
  have below : ∀ r : Lock, Above order [] r := Above.nil order
  cases thread with
  | media captures =>
      refine ⟨.inl (below _), ?_⟩
      refine Cmd.Neutral.andThen ?_ (.unlock_last rfl)
      apply Cmd.Neutral.block
      rintro _ (member : _ ∈ captures.map transcribeFrame)
      obtain ⟨c, -, rfl⟩ := List.mem_map.mp member
      exact transcribeFrame_neutral ((below _).cons (by simp [order]))
  | worker c => exact awsTranscribeThread_safe
  | transcriptEvent c | response c =>
      apply sdkCall_safe
      exact fun busy => mutex_neutral (busy.higher (by simp [order]))
  | streamReady c => exact sdkCall_safe onStreamReady_neutral
  | stop c => exact sessionStop_neutral (below _)
  | start previous c => exact startCapture_neutral (below _)
  | hangup captures =>
      apply Cmd.Neutral.guarded (below _)
      apply Cmd.Neutral.block
      rintro _ (member : _ ∈ captures.map captureClose)
      obtain ⟨c, -, rfl⟩ := List.mem_map.mp member
      exact sessionClose_neutral ((below _).cons (by simp [order]))

/-- However the frame callbacks, the workers, the threads of the SDK, the stops
and the CLOSE callbacks of a session interleave, there is no cycle of threads
that wait for each other. -/
theorem session_waits_acyclic {τ : Type} [DecidableEq τ]
    {labels : List (Locks.Act τ Thread)} {trace : List Empty}
    {final : Locks.State Lock τ}
    (run : (Locks.machine order Thread.call τ).Run anyStep
      (Locks.machine order Thread.call τ).initial labels trace final) :
    NoCyclicWait order final :=
  Locks.no_cyclic_wait_of_safe call_safe run

/-- A frame waits for a hangup, which waits for a stop, which waits for the
worker to end. -/
theorem session_waits_acyclic_in_a_chain :
    ∃ (labels : List (Locks.Act Nat Thread)) (trace : List Empty)
      (final : Locks.State Lock Nat),
      (Locks.machine order Thread.call Nat).Run anyStep
        (Locks.machine order Thread.call Nat).initial labels trace final ∧
        Locks.WaitsFor order final 3 2 ∧ Locks.WaitsFor order final 2 1 ∧
        Locks.WaitsFor order final 1 0 ∧ NoCyclicWait order final := by
  have executed : ((Locks.machine order Thread.call Nat).exec anyStep
      (Locks.machine order Thread.call Nat).initial
      [.call 0 (.worker 0), .call 1 (.stop 0), .step 1 false, .step 1 true,
        .step 1 true, .step 1 false,
        -- nothing to finish, but a thread to join
        .step 1 true, .step 1 true, .step 1 true, .step 1 true, .step 1 true,
        .step 1 false,
        .call 2 (.hangup [0]), .step 2 true, .step 2 true, .step 2 true,
        .step 2 true, .step 2 true,
        .call 3 (.media [0]), .step 3 true]).isSome = true := by
    decide
  have run := Machine.run_of_exec (Option.some_get executed).symm
  refine ⟨_, _, _, run, ?_, ?_, ?_, session_waits_acyclic run⟩
  · exact .lock rfl (.head _) rfl
  · exact .lock rfl (.head _) rfl
  · exact .await rfl (.head _)

end DrachtioModules.Aws.LockOrder

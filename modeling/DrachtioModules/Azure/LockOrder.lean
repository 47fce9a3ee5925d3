import DrachtioModules.Transcribe.LockOrder

/-!
# The locks of mod_azure_transcribe

What its functions take and give back, in the order in which their code does:
`cb->mutex` and `m_audioBufferMutex` of the GStreamer.  A callback of the SDK is
under way as long as it holds its thread's lock; to wait for
`StopContinuousRecognitionAsync` is to wait for the callbacks under way.
-/

namespace DrachtioModules.Azure.LockOrder

open Locks (Cmd Above Mode NoCyclicWait)
open Transcribe.LockOrder

inductive SdkThread where
  | sessionStarted
  | sessionStopped
  | speechStartDetected
  | speechEndDetected
  | recognition
  | canceled
  deriving DecidableEq, Repr

/-- The prebuffer and what is staged go to the push stream under the mutex; what
fails is notified under it too. -/
def onSessionStarted (c : Nat) : Cmd Lock :=
  .maybe (.guarded (.streamerMutex c) .skip)

def SdkThread.body : SdkThread → Nat → Cmd Lock
  | .sessionStarted, c => onSessionStarted c
  | .sessionStopped, _ | .speechStartDetected, _ | .speechEndDetected, _
  | .recognition, _ | .canceled, _ => .skip

def write (c : Nat) : Cmd Lock :=
  -- finished, or connected
  .maybe (.guarded (.streamerMutex c) .skip)

/-- The SDK may call back before `StartContinuousRecognitionAsync` returns. -/
def connect (c : Nat) : Cmd Lock := .maybe (.loop (onSessionStarted c))

def finish (c : Nat) : Cmd Lock := .maybe (.await (.thread c))

/-- `reaper`: a thread of its own finishes the GStreamer. -/
def reaper : Cmd Lock := .skip

def killcb (c : Nat) : Cmd Lock := .maybe (finish c)

/-- What a stop and a close do with the mutex held. -/
def teardown (c : Nat) : Cmd Lock := .block [.maybe reaper, killcb c]

def transcribeSessionClose (c : Nat) : Cmd Lock :=
  .maybe (.guarded (.cbMutex c) (teardown c))

/-- `capture_callback` with SWITCH_ABC_TYPE_CLOSE. -/
def captureClose (c : Nat) : Cmd Lock := transcribeSessionClose c

def transcribeSessionStop (session c : Nat) : Cmd Lock :=
  .maybe (.seq (.lock (.cbMutex c) .exclusive)
    (.either
      -- the channel private does not hold the bug any more
      (.unlock (.cbMutex c) .exclusive)
      (.seq (teardown c) (.seq (.unlock (.cbMutex c) .exclusive)
        (.maybe (mediaBugRemove session (captureClose c)))))))

/-- Without a mutex: the bug was never attached. -/
def transcribeSessionCleanup (c : Nat) : Cmd Lock := killcb c

/-- Without a VAD the session connects at once; what is thrown is caught. -/
def transcribeSessionInit (c : Nat) : Cmd Lock :=
  .block [.maybe (connect c), .maybe (killcb c)]

/-- `start_capture`, which may stop a session first, and whose bug may not be
added. -/
def startCapture (session previous c : Nat) : Cmd Lock :=
  .block
    [.maybe (transcribeSessionStop session previous),
      .maybe (.block
        [transcribeSessionInit c,
          .maybe (.block
            [mediaBugAdd session, .maybe (transcribeSessionCleanup c)])])]

def transcribeFrame (c : Nat) : Cmd Lock :=
  .tryLock (.cbMutex c) .exclusive
    (.seq (.maybe (.loop (.block [.maybe (connect c), .maybe (write c)])))
      (.unlock (.cbMutex c) .exclusive))

/-- The API commands, and the detached thread of a reaper. -/
inductive Job where
  | start (session previous c : Nat)
  | stop (session c : Nat)
  | reaper (c : Nat)
  deriving DecidableEq, Repr

def Job.body : Job → Cmd Lock
  | .start session previous c => startCapture session previous c
  | .stop session c => transcribeSessionStop session c
  | .reaper c => finish c

def vendor : Vendor Job SdkThread :=
  { frame := transcribeFrame
    close := captureClose
    job := Job.body
    work := SdkThread.body }

section Functions

variable {held : List (Lock × Mode)} {session c : Nat}

theorem onSessionStarted_neutral (above : Above order held (.streamerMutex c)) :
    (onSessionStarted c).Neutral order held :=
  .maybe (streamerMutex_neutral above)

theorem connect_neutral (above : Above order held (.streamerMutex c)) :
    (connect c).Neutral order held :=
  .maybe (.loop (onSessionStarted_neutral above))

theorem finish_neutral (above : Above order held (.thread c)) :
    (finish c).Neutral order held :=
  .maybe (.await above)

theorem killcb_neutral (above : Above order held (.thread c)) :
    (killcb c).Neutral order held :=
  .maybe (finish_neutral above)

/-- The callbacks of the SDK take no mutex of a `cap_cb`. -/
theorem teardown_neutral (above : Above order held (.cbMutex c)) :
    (teardown c).Neutral order ((.cbMutex c, .exclusive) :: held) := by
  apply Cmd.Neutral.seq (.maybe .skip)
  refine .seq (killcb_neutral ?_) .skip
  exact (above.higher (by simp [order])).cons (by simp [order])

theorem captureClose_neutral (above : Above order held (.cbMutex c)) :
    (captureClose c).Neutral order held :=
  .maybe (.guarded above (teardown_neutral above))

/-- The bug is removed after the mutex is given back. -/
theorem transcribeSessionStop_neutral
    (above : Above order held (.bugRwlock session)) :
    (transcribeSessionStop session c).Neutral order held := by
  have outside : Above order held (.cbMutex c) :=
    above.higher (by simp [order])
  apply Cmd.Neutral.maybe
  refine ⟨.inl outside, .unlock_last rfl, ?_⟩
  apply Cmd.Neutral.andThen (teardown_neutral outside)
  apply Cmd.Safe.unlock_then
  apply Cmd.Neutral.maybe
  exact mediaBugRemove_neutral above fun _ => captureClose_neutral

theorem startCapture_neutral {previous : Nat}
    (above : Above order held (.bugRwlock session)) :
    (startCapture session previous c).Neutral order held := by
  have kill : (killcb c).Neutral order held :=
    killcb_neutral (above.higher (by simp [order]))
  have connects : (connect c).Neutral order held :=
    connect_neutral (above.higher (by simp [order]))
  apply Cmd.Neutral.seq (.maybe (transcribeSessionStop_neutral above))
  refine .seq (.maybe ?_) .skip
  apply Cmd.Neutral.seq
  · exact .seq (.maybe connects) (.seq (.maybe kill) .skip)
  · refine .seq (.maybe ?_) .skip
    exact .seq (mediaBugAdd_neutral above) (.seq (.maybe kill) .skip)

theorem transcribeFrame_neutral (above : Above order held (.streamerMutex c)) :
    (transcribeFrame c).Neutral order held := by
  have inside : Above order ((.cbMutex c, .exclusive) :: held)
      (.streamerMutex c) :=
    above.cons (by simp [order])
  apply Cmd.Neutral.tryLocked
  apply Cmd.Neutral.maybe
  apply Cmd.Neutral.loop
  apply Cmd.Neutral.seq (.maybe (connect_neutral inside))
  exact .seq (.maybe (.maybe (streamerMutex_neutral inside))) .skip

end Functions

theorem vendor_ordered : vendor.Ordered :=
  { frame := fun _ _ => transcribeFrame_neutral
    close := fun _ _ => captureClose_neutral
    job := fun task => by
      cases task with
      | start session previous c =>
          exact startCapture_neutral (Above.nil order _)
      | stop session c =>
          exact transcribeSessionStop_neutral (Above.nil order _)
      | reaper c => exact finish_neutral (Above.nil order _)
    work := fun thread c held above => by
      cases thread with
      | sessionStarted => exact onSessionStarted_neutral above
      | sessionStopped | speechStartDetected | speechEndDetected
      | recognition | canceled => exact .skip }

/-- However the frame callbacks, the callbacks of the SDK, the reapers, the
starts, the stops and the CLOSE callbacks of all sessions interleave, there is
no cycle of threads that wait for each other. -/
theorem transcribe_waits_acyclic {τ : Type} [DecidableEq τ]
    {labels : List (Locks.Act τ (Thread Job SdkThread))} {trace : List Empty}
    {final : Locks.State Lock τ}
    (run : (Locks.machine order vendor.call τ).Run anyStep
      (Locks.machine order vendor.call τ).initial labels trace final) :
    NoCyclicWait order final :=
  vendor_ordered.no_cyclic_wait run

/-- A reaper waits for the callback that drains the prebuffer, which waits for a
frame; a stop waits for the frame too. -/
theorem transcribe_waits_acyclic_in_a_chain :
    ∃ (labels : List (Locks.Act Nat (Thread Job SdkThread)))
      (trace : List Empty) (final : Locks.State Lock Nat),
      (Locks.machine order vendor.call Nat).Run anyStep
        (Locks.machine order vendor.call Nat).initial labels trace final ∧
        Locks.WaitsFor order final 2 1 ∧ Locks.WaitsFor order final 1 0 ∧
        Locks.WaitsFor order final 3 0 ∧ NoCyclicWait order final := by
  have executed : ((Locks.machine order vendor.call Nat).exec anyStep
      (Locks.machine order vendor.call Nat).initial
      [.call 0 (.media 0 [0]), .step 0 true, .step 0 true, .step 0 true,
        .step 0 true, .step 0 true, .step 0 true, .step 0 false, .step 0 true,
        -- no connect, but a write before the connection is up
        .step 0 true, .step 0 true, .step 0 true, .step 0 true, .step 0 false,
        .step 0 false, .step 0 true, .step 0 true,
        .call 1 (.work .sessionStarted 0), .step 1 true, .step 1 false,
        .step 1 true,
        .call 2 (.job (.reaper 0)), .step 2 false,
        .call 3 (.job (.stop 0 0)), .step 3 false,
        .step 3 true]).isSome = true := by
    decide
  have run := Machine.run_of_exec (Option.some_get executed).symm
  refine ⟨_, _, _, run, ?_, ?_, ?_, transcribe_waits_acyclic run⟩
  · exact .await rfl (.head _)
  · exact .lock rfl (.head _) rfl
  · exact .lock rfl (.head _) rfl

end DrachtioModules.Azure.LockOrder

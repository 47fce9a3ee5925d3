import DrachtioModules.Transcribe.LockOrder

/-!
# The locks of mod_google_transcribe

What its functions take and give back, in the order in which their code does:
`cb->mutex`, `m_write_mutex` of the GStreamer, and the join of the gRPC read
thread.  That the read thread gets past `waitForConnect()` is another matter.
-/

namespace DrachtioModules.Google.LockOrder

open Locks (Cmd Above Mode NoCyclicWait)
open Transcribe.LockOrder

/-- Not connected yet, the audio is staged without a lock. -/
def write (c : Nat) : Cmd Lock := .maybe (.guarded (.streamerMutex c) .skip)

/-- The config, the chunks of the prebuffer, and what is staged. -/
def connect (c : Nat) : Cmd Lock :=
  .block
    [.guarded (.streamerMutex c) .skip, .loop (write c), .maybe (write c)]

def finish (c : Nat) : Cmd Lock := .guarded (.streamerMutex c) .skip

def writesDone (c : Nat) : Cmd Lock :=
  -- cancelConnect() takes no lock
  .maybe (.guarded (.streamerMutex c) .skip)

def grpcReadThread (c : Nat) : Cmd Lock :=
  -- exits where nothing was connected
  .maybe (.block [.loop (.maybe (writesDone c)), finish c])

def reapStreamer (c : Nat) : Cmd Lock :=
  .block [.maybe (writesDone c), .maybe (.await (.thread c))]

/-- `google_speech_session_cleanup`, with what removes the bug at its end. -/
def speechSessionCleanup (c : Nat) (removal : Cmd Lock) : Cmd Lock :=
  .seq (.lock (.cbMutex c) .exclusive)
    (.seq (reapStreamer c) (.seq (.unlock (.cbMutex c) .exclusive)
      -- it returns here where the channel private is gone
      (.maybe removal)))

/-- `capture_callback` with SWITCH_ABC_TYPE_CLOSE. -/
def captureClose (c : Nat) : Cmd Lock := speechSessionCleanup c .skip

def doStop (session c : Nat) : Cmd Lock :=
  .maybe
    (speechSessionCleanup c (mediaBugRemove session (captureClose c)))

def speechSessionOrphanCleanup (c : Nat) : Cmd Lock :=
  .guarded (.cbMutex c) (reapStreamer c)

/-- Without a VAD the session connects at once. -/
def speechSessionInit (c : Nat) : Cmd Lock := .maybe (connect c)

/-- `start_capture` and `start_capture2`, which may stop a session first, and
whose bug may not be added. -/
def startCapture (session previous c : Nat) : Cmd Lock :=
  .block
    [.maybe (doStop session previous),
      .maybe (.block
        [speechSessionInit c,
          .maybe (.block
            [mediaBugAdd session,
              .maybe (speechSessionOrphanCleanup c)])])]

def speechFrame (c : Nat) : Cmd Lock :=
  .maybe (.tryLock (.cbMutex c) .exclusive
    (.seq (.loop (.block [.maybe (connect c), write c]))
      (.unlock (.cbMutex c) .exclusive)))

inductive Command where
  | start (session previous c : Nat)
  | stop (session c : Nat)
  deriving DecidableEq, Repr

def Command.body : Command → Cmd Lock
  | .start session previous c => startCapture session previous c
  | .stop session c => doStop session c

def vendor : Vendor Command Unit :=
  { frame := speechFrame
    close := captureClose
    job := Command.body
    work := fun _ c => grpcReadThread c }

section Functions

variable {held : List (Lock × Mode)} {session c : Nat}

theorem write_neutral (above : Above order held (.streamerMutex c)) :
    (write c).Neutral order held :=
  .maybe (streamerMutex_neutral above)

theorem connect_neutral (above : Above order held (.streamerMutex c)) :
    (connect c).Neutral order held := by
  apply Cmd.Neutral.seq (streamerMutex_neutral above)
  apply Cmd.Neutral.seq (.loop (write_neutral above))
  exact .seq (.maybe (write_neutral above)) .skip

theorem writesDone_neutral (above : Above order held (.streamerMutex c)) :
    (writesDone c).Neutral order held :=
  .maybe (streamerMutex_neutral above)

theorem grpcReadThread_neutral (above : Above order held (.streamerMutex c)) :
    (grpcReadThread c).Neutral order held := by
  apply Cmd.Neutral.maybe
  apply Cmd.Neutral.seq (.loop (.maybe (writesDone_neutral above)))
  exact .seq (streamerMutex_neutral above) .skip

/-- The read thread is joined without a lock that it takes itself. -/
theorem reapStreamer_neutral (above : Above order held (.thread c)) :
    (reapStreamer c).Neutral order held := by
  apply Cmd.Neutral.seq
  · exact .maybe (writesDone_neutral (above.higher (by simp [order])))
  · exact .seq (.maybe (.await above)) .skip

/-- What is done with the mutex of the `cap_cb` held. -/
theorem reaping_neutral (above : Above order held (.cbMutex c)) :
    (reapStreamer c).Neutral order ((.cbMutex c, .exclusive) :: held) := by
  apply reapStreamer_neutral
  exact (above.higher (by simp [order])).cons (by simp [order])

/-- The bug is removed after the mutex is given back. -/
theorem speechSessionCleanup_neutral {removal : Cmd Lock}
    (above : Above order held (.cbMutex c))
    (removes : removal.Neutral order held) :
    (speechSessionCleanup c removal).Neutral order held := by
  refine ⟨.inl above, ?_⟩
  apply Cmd.Neutral.andThen (reaping_neutral above)
  apply Cmd.Safe.unlock_then
  exact Cmd.Neutral.maybe removes

theorem captureClose_neutral (above : Above order held (.cbMutex c)) :
    (captureClose c).Neutral order held :=
  speechSessionCleanup_neutral above .skip

theorem doStop_neutral (above : Above order held (.bugRwlock session)) :
    (doStop session c).Neutral order held := by
  apply Cmd.Neutral.maybe
  apply speechSessionCleanup_neutral (above.higher (by simp [order]))
  exact mediaBugRemove_neutral above fun _ => captureClose_neutral

theorem startCapture_neutral {previous : Nat}
    (above : Above order held (.bugRwlock session)) :
    (startCapture session previous c).Neutral order held := by
  have orphan : (speechSessionOrphanCleanup c).Neutral order held :=
    have outside : Above order held (.cbMutex c) :=
      above.higher (by simp [order])
    .guarded outside (reaping_neutral outside)
  have added : (Cmd.block
      [mediaBugAdd session, .maybe (speechSessionOrphanCleanup c)]).Neutral
      order held :=
    .seq (mediaBugAdd_neutral above) (.seq (.maybe orphan) .skip)
  apply Cmd.Neutral.seq (.maybe (doStop_neutral above))
  refine .seq (.maybe ?_) .skip
  apply Cmd.Neutral.seq
  · exact .maybe (connect_neutral (above.higher (by simp [order])))
  · exact .seq (.maybe added) .skip

theorem speechFrame_neutral (above : Above order held (.streamerMutex c)) :
    (speechFrame c).Neutral order held := by
  have inside : Above order ((.cbMutex c, .exclusive) :: held)
      (.streamerMutex c) :=
    above.cons (by simp [order])
  apply Cmd.Neutral.maybe
  apply Cmd.Neutral.tryLocked
  apply Cmd.Neutral.loop
  apply Cmd.Neutral.seq (.maybe (connect_neutral inside))
  exact .seq (write_neutral inside) .skip

end Functions

theorem vendor_ordered : vendor.Ordered :=
  { frame := fun _ _ => speechFrame_neutral
    close := fun _ _ => captureClose_neutral
    job := fun task => by
      cases task with
      | start session previous c =>
          exact startCapture_neutral (Above.nil order _)
      | stop session c => exact doStop_neutral (Above.nil order _)
    work := fun _ _ _ => grpcReadThread_neutral }

/-- However the frame callbacks, the read threads, the starts, the stops and the
CLOSE callbacks of all sessions interleave, there is no cycle of threads that
wait for each other. -/
theorem speech_waits_acyclic {τ : Type} [DecidableEq τ]
    {labels : List (Locks.Act τ (Thread Command Unit))} {trace : List Empty}
    {final : Locks.State Lock τ}
    (run : (Locks.machine order vendor.call τ).Run anyStep
      (Locks.machine order vendor.call τ).initial labels trace final) :
    NoCyclicWait order final :=
  vendor_ordered.no_cyclic_wait run

/-- A frame waits for a hangup, which waits for a stop, which waits for the read
thread to end. -/
theorem speech_waits_acyclic_in_a_chain :
    ∃ (labels : List (Locks.Act Nat (Thread Command Unit)))
      (trace : List Empty) (final : Locks.State Lock Nat),
      (Locks.machine order vendor.call Nat).Run anyStep
        (Locks.machine order vendor.call Nat).initial labels trace final ∧
        Locks.WaitsFor order final 3 2 ∧ Locks.WaitsFor order final 2 1 ∧
        Locks.WaitsFor order final 1 0 ∧ NoCyclicWait order final := by
  have executed : ((Locks.machine order vendor.call Nat).exec anyStep
      (Locks.machine order vendor.call Nat).initial
      [.call 0 (.work () 0), .call 1 (.job (.stop 0 0)), .step 1 false,
        .step 1 true, .step 1 true, .step 1 true,
        -- no streamer, but a thread to join
        .step 1 true, .step 1 true, .step 1 true, .step 1 true, .step 1 false,
        .call 2 (.hangup 0 [0]), .step 2 true, .step 2 true, .step 2 true,
        .step 2 true, .step 2 true,
        .call 3 (.media 0 [0]), .step 3 true]).isSome = true := by
    decide
  have run := Machine.run_of_exec (Option.some_get executed).symm
  refine ⟨_, _, _, run, ?_, ?_, ?_, speech_waits_acyclic run⟩
  · exact .lock rfl (.head _) rfl
  · exact .lock rfl (.head _) rfl
  · exact .await rfl (.head _)

end DrachtioModules.Google.LockOrder

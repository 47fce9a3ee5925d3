import DrachtioModules.Locks
import DrachtioModules.AudioFork.Pipe

/-!
# The locks of mod_audio_fork

What the functions of the module take and give back, in the order in which their
code does, over any number of sessions: the media bugs' read-write lock of
session c, the recursive mutex of the `tech_pvt` n, the audio and the text mutex
of the pipe p, and the mutexes of the three static lists.  Which `tech_pvt` a
bug name stands for, and which pipe that has, changes meanwhile, so each
function is given the ones it meets.

Which way a branch goes is left open, and so is how often a loop runs.  A reaper
that waits for the close of its pipe holds no lock, and FreeSWITCH locates a
session without waiting.
-/

namespace DrachtioModules.AudioFork.LockOrder

open Locks (Cmd Discipline Above Mode NoCyclicWait)

inductive Lock where
  | bugRwlock (c : Nat)
  | techPvtMutex (n : Nat)
  | audioMutex (p : Nat)
  | textMutex (p : Nat)
  | mutexConnects
  | mutexDisconnects
  | mutexWrites
  deriving DecidableEq, Repr

@[simp]
def Lock.rank : Lock → Nat
  | .bugRwlock _ => 0
  | .techPvtMutex _ => 1
  | .audioMutex _ => 2
  | .textMutex _ => 3
  | .mutexConnects => 4
  | .mutexDisconnects => 5
  | .mutexWrites => 6

@[simp]
def Lock.recursive : Lock → Bool
  | .techPvtMutex _ => true
  | _ => false

def order : Discipline Lock :=
  { rank := Lock.rank
    recursive := Lock.recursive }

/-- With a live context; without one the connect fails at once. -/
def addPendingConnect : Cmd Lock := .maybe (.guarded .mutexConnects .skip)

/-- Where the pipe is still connected. -/
def addPendingDisconnect : Cmd Lock := .maybe (.guarded .mutexDisconnects .skip)

def addPendingWrite : Cmd Lock := .guarded .mutexWrites .skip

def removeFromPending : Cmd Lock :=
  .block
    [.guarded .mutexConnects .skip, .guarded .mutexDisconnects .skip,
      .guarded .mutexWrites .skip]

def findPendingConnect : Cmd Lock := .guarded .mutexConnects .skip

def findAndRemovePendingConnect : Cmd Lock := .guarded .mutexConnects .skip

def bufferForSending (p : Nat) : Cmd Lock :=
  .maybe (.block [.guarded (.textMutex p) .skip, addPendingWrite])

def lockAudioBuffer (p : Nat) : Cmd Lock := .lock (.audioMutex p) .exclusive

def unlockAudioBuffer (p : Nat) : Cmd Lock :=
  .seq (.maybe addPendingWrite) (.unlock (.audioMutex p) .exclusive)

def close : Cmd Lock := .maybe addPendingDisconnect

def doGracefulShutdown : Cmd Lock := .maybe addPendingWrite

/-- The destructor of the pipe. -/
def deletePipe : Cmd Lock := removeFromPending

/-- The thread `reaper` starts. -/
def reaper : Cmd Lock := .block [close, deletePipe]

def destroyTechPvt : Cmd Lock := .maybe deletePipe

/-- `switch_core_media_bug_remove` comes last, without the mutex; it is not
called when the channel closes. -/
def forkSessionCleanup (n p : Nat) (mediaBugRemove : Cmd Lock) : Cmd Lock :=
  .maybe (.seq (.lock (.techPvtMutex n) .exclusive)
    (.either
      -- already cleaned up
      (.unlock (.techPvtMutex n) .exclusive)
      (.seq (.maybe (bufferForSending p)) (.seq destroyTechPvt
        (.seq (.unlock (.techPvtMutex n) .exclusive) mediaBugRemove)))))

/-- `capture_callback` with SWITCH_ABC_TYPE_CLOSE. -/
def captureClose (n p : Nat) : Cmd Lock := forkSessionCleanup n p .skip

/-- The bug may be gone, and CLOSE is fired under the lock or after it. -/
def mediaBugRemove (c n p : Nat) : Cmd Lock :=
  .either (.guarded (.bugRwlock c) (.maybe (captureClose n p)))
    (.block [.guarded (.bugRwlock c) .skip, .maybe (captureClose n p)])

/-- CLOSE looks the bug's name up again and may find another `tech_pvt`. -/
def stop (c n p n' p' : Nat) : Cmd Lock :=
  forkSessionCleanup n p (mediaBugRemove c n' p')

def forkSessionSendText (n p : Nat) : Cmd Lock :=
  .maybe (.guarded (.techPvtMutex n) (.maybe (bufferForSending p)))

def forkSessionPauseresume (n : Nat) : Cmd Lock :=
  .maybe (.guarded (.techPvtMutex n) .skip)

def forkSessionGracefulShutdown (n : Nat) : Cmd Lock :=
  .maybe (.guarded (.techPvtMutex n) (.maybe doGracefulShutdown))

def forkSessionCleanupUnattached (n : Nat) : Cmd Lock :=
  .guarded (.techPvtMutex n) destroyTechPvt

def forkSessionConnect : Cmd Lock := addPendingConnect

/-- The `tech_pvt` may not come to be, and the bug may not be added. -/
def startCapture (c n : Nat) : Cmd Lock :=
  .block
    [.maybe destroyTechPvt,
      .maybe (.block
        [.guarded (.bugRwlock c) .skip,
          .either (forkSessionCleanupUnattached n) forkSessionConnect])]

/-- A frame: read into the audio buffer under its mutex, where the buffer's
overrun is notified as well. -/
def forkFrame (n p : Nat) : Cmd Lock :=
  .maybe (.tryLock (.techPvtMutex n) .exclusive
    (.seq (.maybe (.seq (lockAudioBuffer p) (unlockAudioBuffer p)))
      (.unlock (.techPvtMutex n) .exclusive)))

/-- A file that is played out is kept in a list of the `tech_pvt`. -/
def processIncomingMessage (n : Nat) : Cmd Lock :=
  .maybe (.guarded (.techPvtMutex n) .skip)

/-- Nothing where the session or the bug is gone. -/
def eventCallback (event : NotifyEvent) (n p : Nat) : Cmd Lock :=
  .maybe (match event with
    | .connectSuccess =>
        .guarded (.techPvtMutex n) (.maybe (bufferForSending p))
    | .message _ => processIncomingMessage n
    | .connectFail | .connectionDropped | .connectionClosedGracefully => .skip)

/-- LWS_CALLBACK_CLIENT_CONNECTION_ERROR. -/
def clientConnectionError (n p : Nat) : Cmd Lock :=
  .block
    [findAndRemovePendingConnect, .maybe (eventCallback .connectFail n p)]

/-- lws may call back before the connect returns. -/
def connectClient (n p : Nat) : Cmd Lock :=
  .loop (.either findPendingConnect (clientConnectionError n p))

/-- The pipes to connect, each with the `tech_pvt` its callback finds. -/
def processPendingConnects (connects : List (Nat × Nat)) : Cmd Lock :=
  .seq (.guarded .mutexConnects .skip)
    (.block (connects.map fun (n, p) =>
      .block [connectClient n p, .maybe (eventCallback .connectFail n p)]))

def processPendingDisconnects : Cmd Lock := .guarded .mutexDisconnects .skip

def processPendingWrites : Cmd Lock := .guarded .mutexWrites .skip

/-- LWS_CALLBACK_EVENT_WAIT_CANCELLED. -/
def eventWaitCancelled (connects : List (Nat × Nat)) : Cmd Lock :=
  .block
    [processPendingConnects connects, processPendingDisconnects,
      processPendingWrites]

/-- LWS_CALLBACK_CLIENT_ESTABLISHED. -/
def clientEstablished (n p : Nat) : Cmd Lock :=
  .block
    [findAndRemovePendingConnect,
      .maybe (.block
        [.maybe close, .maybe doGracefulShutdown,
          eventCallback .connectSuccess n p])]

/-- LWS_CALLBACK_CLIENT_CLOSED. -/
def clientClosed (n p : Nat) : Cmd Lock :=
  .either (.maybe (eventCallback .connectionClosedGracefully n p))
    (eventCallback .connectionDropped n p)

/-- LWS_CALLBACK_CLIENT_RECEIVE: the last fragment completes a message. -/
def clientReceive (text : Bytes) (n p : Nat) : Cmd Lock :=
  .maybe (eventCallback (.message text) n p)

/-- LWS_CALLBACK_CLIENT_WRITEABLE: the frame that ends a graceful shutdown, or
text, or else audio. -/
def clientWriteable (p : Nat) : Cmd Lock :=
  .maybe (.either (.guarded (.audioMutex p) .skip)
    (.block
      [.guarded (.textMutex p) .skip,
        .maybe (.guarded (.audioMutex p) .skip)]))

/-- A call on a thread: the frame callbacks of the bugs of session c, under the
read side of their lock; an API command; a hangup, which holds the write side
while it closes the bugs; a reaper; a callback on the service thread. -/
inductive Thread where
  | media (c : Nat) (bugs : List (Nat × Nat))
  | stop (c n p n' p' : Nat)
  | sendText (n p : Nat)
  | pauseresume (n : Nat)
  | gracefulShutdown (n : Nat)
  | start (c n : Nat)
  | hangup (c : Nat) (bugs : List (Nat × Nat))
  | reaper
  | appendHandshakeHeader
  | eventWaitCancelled (connects : List (Nat × Nat))
  | connectionError (n p : Nat)
  | established (n p : Nat)
  | closed (n p : Nat)
  | receive (text : Bytes) (n p : Nat)
  | writeable (p : Nat)
  deriving DecidableEq, Repr

def Thread.body : Thread → Cmd Lock
  | .media c bugs =>
      .seq (.lock (.bugRwlock c) .shared)
        (.seq (.block (bugs.map fun (n, p) => forkFrame n p))
          (.unlock (.bugRwlock c) .shared))
  | .stop c n p n' p' => LockOrder.stop c n p n' p'
  | .sendText n p => forkSessionSendText n p
  | .pauseresume n => forkSessionPauseresume n
  | .gracefulShutdown n => forkSessionGracefulShutdown n
  | .start c n => startCapture c n
  | .hangup c bugs =>
      .guarded (.bugRwlock c) (.block (bugs.map fun (n, p) => captureClose n p))
  | .reaper => LockOrder.reaper
  | .appendHandshakeHeader => findPendingConnect
  | .eventWaitCancelled connects => LockOrder.eventWaitCancelled connects
  | .connectionError n p => clientConnectionError n p
  | .established n p => clientEstablished n p
  | .closed n p => clientClosed n p
  | .receive text n p => clientReceive text n p
  | .writeable p => clientWriteable p

def Thread.call (thread : Thread) : Locks.Call Lock := ⟨none, thread.body⟩

section Functions

variable {held : List (Lock × Mode)} {c n p : Nat}

/-- The three lists come last, and no two of their mutexes are held at once. -/
theorem mutexConnects_neutral (above : Above order held .mutexConnects) :
    (Cmd.guarded .mutexConnects .skip).Neutral order held :=
  .guarded above .skip

theorem mutexDisconnects_neutral (above : Above order held .mutexConnects) :
    (Cmd.guarded .mutexDisconnects .skip).Neutral order held :=
  .guarded (above.higher (by simp [order])) .skip

theorem addPendingWrite_neutral (above : Above order held .mutexConnects) :
    addPendingWrite.Neutral order held :=
  .guarded (above.higher (by simp [order])) .skip

theorem removeFromPending_neutral (above : Above order held .mutexConnects) :
    removeFromPending.Neutral order held := by
  apply Cmd.Neutral.seq (mutexConnects_neutral above)
  apply Cmd.Neutral.seq (mutexDisconnects_neutral above)
  exact .seq (addPendingWrite_neutral above) .skip

theorem close_neutral (above : Above order held .mutexConnects) :
    close.Neutral order held :=
  .maybe (.maybe (mutexDisconnects_neutral above))

theorem doGracefulShutdown_neutral
    (above : Above order held .mutexConnects) :
    doGracefulShutdown.Neutral order held :=
  .maybe (addPendingWrite_neutral above)

theorem bufferForSending_neutral (above : Above order held (.textMutex p)) :
    (bufferForSending p).Neutral order held := by
  apply Cmd.Neutral.maybe
  apply Cmd.Neutral.seq (.guarded above .skip)
  exact .seq (addPendingWrite_neutral (above.higher (by simp [order]))) .skip

theorem reaper_neutral (above : Above order held .mutexConnects) :
    reaper.Neutral order held :=
  .seq (close_neutral above) (.seq (removeFromPending_neutral above) .skip)

theorem destroyTechPvt_neutral (above : Above order held .mutexConnects) :
    destroyTechPvt.Neutral order held :=
  .maybe (removeFromPending_neutral above)

/-- The bug is removed after the mutex is given back. -/
theorem forkSessionCleanup_neutral {mediaBugRemove : Cmd Lock}
    (above : Above order held (.techPvtMutex n))
    (removal : mediaBugRemove.Neutral order held) :
    (forkSessionCleanup n p mediaBugRemove).Neutral order held := by
  have inside : Above order ((.techPvtMutex n, .exclusive) :: held)
      (.textMutex p) :=
    (above.higher (by simp [order])).cons (by simp [order])
  apply Cmd.Neutral.maybe
  refine ⟨.inl above, .unlock_last rfl, ?_⟩
  apply Cmd.Neutral.andThen (.maybe (bufferForSending_neutral inside))
  apply Cmd.Neutral.andThen
    (destroyTechPvt_neutral (inside.higher (by simp [order])))
  apply Cmd.Safe.unlock_then
  exact removal

theorem captureClose_neutral (above : Above order held (.techPvtMutex n)) :
    (captureClose n p).Neutral order held :=
  forkSessionCleanup_neutral above .skip

theorem mediaBugRemove_neutral (above : Above order held (.bugRwlock c)) :
    (mediaBugRemove c n p).Neutral order held := by
  have outside : Above order held (.techPvtMutex n) :=
    above.higher (by simp [order])
  apply Cmd.Neutral.either
  · apply Cmd.Neutral.guarded above
    exact .maybe (captureClose_neutral (outside.cons (by simp [order])))
  · apply Cmd.Neutral.seq (.guarded above .skip)
    exact .seq (.maybe (captureClose_neutral outside)) .skip

theorem stop_neutral {n' p' : Nat} (above : Above order held (.bugRwlock c)) :
    (stop c n p n' p').Neutral order held :=
  forkSessionCleanup_neutral (above.higher (by simp [order]))
    (mediaBugRemove_neutral above)

/-- Text is buffered under the mutex of the `tech_pvt`, whoever sends it. -/
theorem guarded_bufferForSending_neutral
    (above : Above order held (.techPvtMutex n)) :
    (Cmd.guarded (.techPvtMutex n) (.maybe (bufferForSending p))).Neutral order
      held := by
  apply Cmd.Neutral.guarded above
  apply Cmd.Neutral.maybe
  apply bufferForSending_neutral
  exact (above.higher (by simp [order])).cons (by simp [order])

theorem forkSessionGracefulShutdown_neutral
    (above : Above order held (.techPvtMutex n)) :
    (forkSessionGracefulShutdown n).Neutral order held := by
  apply Cmd.Neutral.maybe
  apply Cmd.Neutral.guarded above
  apply Cmd.Neutral.maybe
  apply doGracefulShutdown_neutral
  exact (above.higher (by simp [order])).cons (by simp [order])

theorem startCapture_neutral (above : Above order held (.bugRwlock c)) :
    (startCapture c n).Neutral order held := by
  have outside : Above order held (.techPvtMutex n) :=
    above.higher (by simp [order])
  have lists : Above order held .mutexConnects := above.higher (by simp [order])
  apply Cmd.Neutral.seq (.maybe (destroyTechPvt_neutral lists))
  refine .seq (.maybe ?_) .skip
  apply Cmd.Neutral.seq (.guarded above .skip)
  refine .seq (.either ?_ (.maybe (mutexConnects_neutral lists))) .skip
  apply Cmd.Neutral.guarded outside
  exact destroyTechPvt_neutral (lists.cons (by simp [order]))

theorem forkFrame_neutral (above : Above order held (.audioMutex p)) :
    (forkFrame n p).Neutral order held := by
  have inside : Above order ((.techPvtMutex n, .exclusive) :: held)
      (.audioMutex p) :=
    above.cons (by simp [order])
  have lists : Above order
      ((.audioMutex p, .exclusive) :: (.techPvtMutex n, .exclusive) :: held)
      .mutexConnects :=
    (inside.higher (by simp [order])).cons (by simp [order])
  apply Cmd.Neutral.maybe
  apply Cmd.Neutral.tryLocked
  apply Cmd.Neutral.maybe
  refine ⟨.inl inside, ?_⟩
  apply Cmd.Neutral.andThen (.maybe (addPendingWrite_neutral lists))
  exact .unlock_last rfl

theorem eventCallback_neutral {event : NotifyEvent}
    (above : Above order held (.techPvtMutex n)) :
    (eventCallback event n p).Neutral order held := by
  apply Cmd.Neutral.maybe
  cases event with
  | connectSuccess => exact guarded_bufferForSending_neutral above
  | message => exact .maybe (.guarded above .skip)
  | connectFail | connectionDropped | connectionClosedGracefully => exact .skip

end Functions

section Callbacks

variable {n p : Nat}

theorem below (r : Lock) : Above order [] r := Above.nil order r

theorem clientConnectionError_neutral :
    (clientConnectionError n p).Neutral order [] := by
  apply Cmd.Neutral.seq (mutexConnects_neutral (below _))
  exact .seq (.maybe (eventCallback_neutral (below _))) .skip

theorem eventWaitCancelled_neutral (connects : List (Nat × Nat)) :
    (eventWaitCancelled connects).Neutral order [] := by
  apply Cmd.Neutral.seq
  · apply Cmd.Neutral.seq (mutexConnects_neutral (below _))
    apply Cmd.Neutral.block
    intro command member
    obtain ⟨⟨n, p⟩, -, rfl⟩ := List.mem_map.mp member
    apply Cmd.Neutral.seq
    · apply Cmd.Neutral.loop
      apply Cmd.Neutral.either (mutexConnects_neutral (below _))
      exact clientConnectionError_neutral
    · exact .seq (.maybe (eventCallback_neutral (below _))) .skip
  · apply Cmd.Neutral.seq (mutexDisconnects_neutral (below _))
    exact .seq (addPendingWrite_neutral (below _)) .skip

theorem clientEstablished_neutral :
    (clientEstablished n p).Neutral order [] := by
  apply Cmd.Neutral.seq (mutexConnects_neutral (below _))
  refine .seq (.maybe ?_) .skip
  apply Cmd.Neutral.seq (.maybe (close_neutral (below _)))
  apply Cmd.Neutral.seq (.maybe (doGracefulShutdown_neutral (below _)))
  exact .seq (eventCallback_neutral (below _)) .skip

theorem clientWriteable_neutral : (clientWriteable p).Neutral order [] := by
  have audio : (Cmd.guarded (.audioMutex p) .skip).Neutral order [] :=
    .guarded (below _) .skip
  apply Cmd.Neutral.maybe
  apply Cmd.Neutral.either audio
  apply Cmd.Neutral.seq (.guarded (below _) .skip)
  exact .seq (.maybe audio) .skip

end Callbacks

theorem body_neutral (thread : Thread) : thread.body.Neutral order [] := by
  cases thread with
  | media c bugs =>
      have reading : ∀ p, Above order [(.bugRwlock c, .shared)]
          (.audioMutex p) :=
        fun p => (below _).cons (by simp [order])
      refine ⟨.inl (below _), ?_⟩
      refine Cmd.Neutral.andThen ?_ (.unlock_last rfl)
      apply Cmd.Neutral.block
      intro command member
      obtain ⟨⟨n, p⟩, -, rfl⟩ := List.mem_map.mp member
      exact forkFrame_neutral (reading p)
  | stop c n p n' p' => exact stop_neutral (below _)
  | sendText n p => exact .maybe (guarded_bufferForSending_neutral (below _))
  | pauseresume n => exact .maybe (.guarded (below _) .skip)
  | gracefulShutdown n => exact forkSessionGracefulShutdown_neutral (below _)
  | start c n => exact startCapture_neutral (below _)
  | hangup c bugs =>
      apply Cmd.Neutral.guarded (below _)
      apply Cmd.Neutral.block
      intro command member
      obtain ⟨⟨n, p⟩, -, rfl⟩ := List.mem_map.mp member
      exact captureClose_neutral ((below _).cons (by simp [order]))
  | reaper => exact reaper_neutral (below _)
  | appendHandshakeHeader => exact mutexConnects_neutral (below _)
  | eventWaitCancelled connects => exact eventWaitCancelled_neutral connects
  | connectionError n p => exact clientConnectionError_neutral
  | established n p => exact clientEstablished_neutral
  | closed n p =>
      apply Cmd.Neutral.either
      · exact .maybe (eventCallback_neutral (below _))
      · exact eventCallback_neutral (below _)
  | receive text n p => exact .maybe (eventCallback_neutral (below _))
  | writeable p => exact clientWriteable_neutral

theorem call_safe (thread : Thread) : thread.call.Safe order :=
  body_neutral thread

/-- However the frame callbacks, the API commands, the hangups, the callbacks of
lws and the reapers of all sessions interleave, there is no cycle of threads
that wait for each other. -/
theorem sessions_waits_acyclic {τ : Type} [DecidableEq τ]
    {labels : List (Locks.Act τ Thread)} {trace : List Empty}
    {final : Locks.State Lock τ}
    (run : (Locks.machine order Thread.call τ).Run anyStep
      (Locks.machine order Thread.call τ).initial labels trace final) :
    NoCyclicWait order final :=
  Locks.no_cyclic_wait_of_safe call_safe run

/-- A frame waits for a hangup, which waits for an API command, which waits for
the service thread. -/
theorem sessions_waits_acyclic_in_a_chain :
    ∃ (labels : List (Locks.Act Nat Thread)) (trace : List Empty)
      (final : Locks.State Lock Nat),
      (Locks.machine order Thread.call Nat).Run anyStep
        (Locks.machine order Thread.call Nat).initial labels trace final ∧
        Locks.WaitsFor order final 3 2 ∧ Locks.WaitsFor order final 2 1 ∧
        Locks.WaitsFor order final 1 0 ∧ NoCyclicWait order final := by
  have executed : ((Locks.machine order Thread.call Nat).exec anyStep
      (Locks.machine order Thread.call Nat).initial
      [.call 0 (.writeable 0), .step 0 false, .step 0 false, .step 0 true,
        .step 0 true, .step 0 true,
        .call 1 (.sendText 0 0), .step 1 false, .step 1 true, .step 1 true,
        .step 1 true, .step 1 false, .step 1 false, .step 1 true, .step 1 true,
        .call 2 (.hangup 0 [(0, 0)]), .step 2 true, .step 2 true, .step 2 true,
        .step 2 true, .step 2 false, .step 2 true,
        .call 3 (.media 0 [(0, 0)]), .step 3 true]).isSome = true := by
    decide
  have run := Machine.run_of_exec (Option.some_get executed).symm
  refine ⟨_, _, _, run, ?_, ?_, ?_, sessions_waits_acyclic run⟩
  · exact .lock rfl (.head _) rfl
  · exact .lock rfl (.head _) rfl
  · exact .lock rfl (.head _) rfl

end DrachtioModules.AudioFork.LockOrder

import DrachtioModules.Locks

/-!
# The locks of mod_deepgram_transcribe

What the functions of the module take and give back, in the order in which their
code does, over any number of sessions: the media bugs' read-write lock of
session c, the nested mutex of the `tech_pvt` n, the audio and the text mutex of
the pipe p, the mutexes of the three static lists, and the service thread, which
an unload joins.  The event callback finds the session's bug without a mutex.

Which way a branch goes is left open, and so is how often a loop runs.  A reaper
that waits for the close of its pipe holds no lock, and FreeSWITCH locates a
session without waiting.
-/

namespace DrachtioModules.Deepgram.LockOrder

open Locks (Cmd Discipline Above Mode NoCyclicWait)

inductive Lock where
  | bugRwlock (c : Nat)
  | techPvtMutex (n : Nat)
  | serviceThread
  | audioMutex (p : Nat)
  | textMutex (p : Nat)
  | mutexConnects
  | mutexDisconnects
  | mutexWrites
  deriving DecidableEq, Repr

@[simp]
def Lock.rank : Lock → Nat
  | .bugRwlock _ => 0
  | .techPvtMutex _ => 1
  | .serviceThread => 2
  | .audioMutex _ => 3
  | .textMutex _ => 4
  | .mutexConnects => 5
  | .mutexDisconnects => 6
  | .mutexWrites => 7

@[simp]
def Lock.recursive : Lock → Bool
  | .techPvtMutex _ => true
  | _ => false

def order : Discipline Lock :=
  { rank := Lock.rank
    recursive := Lock.recursive }

/-- With a live context; without one the connect fails at once. -/
def addPendingConnect : Cmd Lock := .maybe (.guarded .mutexConnects .skip)

def addPendingWrite : Cmd Lock := .guarded .mutexWrites .skip

/-- The three mutexes one at a time. -/
def removeFromPending : Cmd Lock :=
  .block
    [.guarded .mutexConnects .skip, .guarded .mutexDisconnects .skip,
      .guarded .mutexWrites .skip]

def findPendingConnect : Cmd Lock := .guarded .mutexConnects .skip

def findAndRemovePendingConnect : Cmd Lock := .guarded .mutexConnects .skip

def bufferForSending (p : Nat) : Cmd Lock :=
  .maybe (.block [.guarded (.textMutex p) .skip, addPendingWrite])

def lockAudioBuffer (p : Nat) : Cmd Lock := .lock (.audioMutex p) .exclusive

/-- The write is queued with the mutex still held. -/
def unlockAudioBuffer (p : Nat) : Cmd Lock :=
  .seq (.maybe addPendingWrite) (.unlock (.audioMutex p) .exclusive)

/-- Where it is connected, and not finished already. -/
def finish (p : Nat) : Cmd Lock := .maybe (bufferForSending p)

/-- The destructor of the pipe. -/
def deletePipe : Cmd Lock := removeFromPending

/-- The service threads are joined; `dg_transcribe_cleanup` calls it. -/
def deinitialize : Cmd Lock := .await .serviceThread

/-- The thread `reaper` starts. -/
def reaper (p : Nat) : Cmd Lock := .block [finish p, deletePipe]

def destroyTechPvt : Cmd Lock := .maybe deletePipe

/-- `dg_transcribe_session_stop`: the pipe goes to a reaper's thread.
`switch_core_media_bug_remove` comes last, without the mutex, and is not called
when the channel closes. -/
def transcribeSessionStop (n : Nat) (mediaBugRemove : Cmd Lock) : Cmd Lock :=
  .maybe (.seq (.lock (.techPvtMutex n) .exclusive)
    (.either
      -- already stopped
      (.unlock (.techPvtMutex n) .exclusive)
      (.seq destroyTechPvt
        (.seq (.unlock (.techPvtMutex n) .exclusive) mediaBugRemove))))

/-- `capture_callback` with SWITCH_ABC_TYPE_CLOSE. -/
def captureClose (n : Nat) : Cmd Lock := transcribeSessionStop n .skip

/-- The bug may be gone, and CLOSE is fired under the lock or after it. -/
def mediaBugRemove (c n : Nat) : Cmd Lock :=
  .either (.guarded (.bugRwlock c) (.maybe (captureClose n)))
    (.block [.guarded (.bugRwlock c) .skip, .maybe (captureClose n)])

/-- CLOSE looks up the channel private again and may find another `tech_pvt`. -/
def doStop (c n n' : Nat) : Cmd Lock :=
  transcribeSessionStop n (mediaBugRemove c n')

/-- `dg_transcribe_session_cleanup`: the bug was never attached. -/
def transcribeSessionCleanup (n : Nat) : Cmd Lock :=
  .guarded (.techPvtMutex n) destroyTechPvt

/-- `dg_transcribe_session_init`: what `fork_data_init` has made is destroyed
where it fails, and there is no mutex yet. -/
def transcribeSessionInit : Cmd Lock :=
  .either destroyTechPvt addPendingConnect

/-- A session may have to be stopped first, and the bug may not be added. -/
def startCapture (c n n' started : Nat) : Cmd Lock :=
  .block
    [.maybe (doStop c n n'),
      .maybe (.block
        [transcribeSessionInit,
          .maybe (.block
            [.guarded (.bugRwlock c) .skip,
              .maybe (transcribeSessionCleanup started)])])]

/-- A frame: read into the audio buffer under its mutex, where the buffer's
overrun is notified as well. -/
def transcribeFrame (n p : Nat) : Cmd Lock :=
  .maybe (.tryLock (.techPvtMutex n) .exclusive
    (.seq (.maybe (.seq (lockAudioBuffer p) (unlockAudioBuffer p)))
      (.unlock (.techPvtMutex n) .exclusive)))

def eventCallback : Cmd Lock := .skip

/-- LWS_CALLBACK_CLIENT_CONNECTION_ERROR. -/
def clientConnectionError : Cmd Lock :=
  .block [findAndRemovePendingConnect, .maybe eventCallback]

/-- lws may call back before the connect returns. -/
def connectClient : Cmd Lock :=
  .loop (.either findPendingConnect clientConnectionError)

def processPendingConnects : Cmd Lock :=
  .seq (.guarded .mutexConnects .skip)
    (.loop (.block [connectClient, .maybe eventCallback]))

def processPendingDisconnects : Cmd Lock := .guarded .mutexDisconnects .skip

def processPendingWrites : Cmd Lock := .guarded .mutexWrites .skip

/-- The reasons `lws_callback` is called for, with the pipe where its mutexes
are taken. -/
inductive Reason where
  | clientAppendHandshakeHeader
  | eventWaitCancelled
  | clientConnectionError
  | clientEstablished (p : Nat)
  | clientClosed
  | clientReceive
  | clientWriteable (p : Nat)
  deriving DecidableEq, Repr

def lwsCallback : Reason → Cmd Lock
  | .clientAppendHandshakeHeader => findPendingConnect
  | .eventWaitCancelled =>
      .block
        [processPendingConnects, processPendingDisconnects,
          processPendingWrites]
  | .clientConnectionError => LockOrder.clientConnectionError
  | .clientEstablished p =>
      .block
        [findAndRemovePendingConnect,
          .maybe (.block [.maybe (finish p), eventCallback])]
  | .clientClosed => .maybe eventCallback
  | .clientReceive => .maybe eventCallback
  | .clientWriteable p =>
      .maybe (.block
        [.guarded (.textMutex p) .skip,
          -- no text was sent, and the pipe is not disconnecting
          .maybe (.guarded (.audioMutex p) .skip)])

/-- A call on a thread: the frame callbacks of the bugs of session c, under the
read side of their lock; a hangup, which holds the write side while it closes
the bugs; an API command; a reaper; a callback on the service thread, which
counts as its whole life; the unload. -/
inductive Thread where
  | media (c : Nat) (bugs : List (Nat × Nat))
  | hangup (c : Nat) (bugs : List Nat)
  | stop (c n n' : Nat)
  | start (c n n' started : Nat)
  | reaper (p : Nat)
  | service (reason : Reason)
  | shutdown
  deriving DecidableEq, Repr

def Thread.call : Thread → Locks.Call Lock
  | .media c bugs =>
      ⟨none, .seq (.lock (.bugRwlock c) .shared)
        (.seq (.block (bugs.map fun (n, p) => transcribeFrame n p))
          (.unlock (.bugRwlock c) .shared))⟩
  | .hangup c bugs =>
      ⟨none, .guarded (.bugRwlock c) (.block (bugs.map captureClose))⟩
  | .stop c n n' => ⟨none, doStop c n n'⟩
  | .start c n n' started => ⟨none, startCapture c n n' started⟩
  | .reaper p => ⟨none, LockOrder.reaper p⟩
  | .service reason =>
      ⟨some .serviceThread,
        .seq (lwsCallback reason) (.unlock .serviceThread .shared)⟩
  | .shutdown => ⟨none, deinitialize⟩

section Functions

variable {held : List (Lock × Mode)} {c n n' p : Nat}

/-- The three lists come last, and no two of their mutexes are held at once. -/
theorem mutexConnects_neutral (above : Above order held .mutexConnects) :
    (Cmd.guarded .mutexConnects .skip).Neutral order held :=
  .guarded above .skip

theorem mutexDisconnects_neutral (above : Above order held .mutexConnects) :
    (Cmd.guarded .mutexDisconnects .skip).Neutral order held :=
  .guarded (above.higher (by simp [order])) .skip

theorem addPendingWrite_neutral (above : Above order held .mutexConnects) :
    addPendingWrite.Neutral order held :=
  .guarded (above.higher (by simp [order])) .skip

theorem removeFromPending_neutral (above : Above order held .mutexConnects) :
    removeFromPending.Neutral order held := by
  apply Cmd.Neutral.seq (mutexConnects_neutral above)
  apply Cmd.Neutral.seq (mutexDisconnects_neutral above)
  exact .seq (addPendingWrite_neutral above) .skip

theorem finish_neutral (above : Above order held (.textMutex p)) :
    (finish p).Neutral order held := by
  apply Cmd.Neutral.maybe
  apply Cmd.Neutral.maybe
  apply Cmd.Neutral.seq (.guarded above .skip)
  exact .seq (addPendingWrite_neutral (above.higher (by simp [order]))) .skip

theorem reaper_neutral (above : Above order held (.textMutex p)) :
    (reaper p).Neutral order held := by
  have lists : Above order held .mutexConnects := above.higher (by simp [order])
  apply Cmd.Neutral.seq (finish_neutral above)
  exact .seq (removeFromPending_neutral lists) .skip

theorem destroyTechPvt_neutral (above : Above order held .mutexConnects) :
    destroyTechPvt.Neutral order held :=
  .maybe (removeFromPending_neutral above)

/-- What is destroyed with the mutex of the `tech_pvt` held. -/
theorem destroying_neutral (above : Above order held (.techPvtMutex n)) :
    destroyTechPvt.Neutral order ((.techPvtMutex n, .exclusive) :: held) := by
  apply destroyTechPvt_neutral
  exact (above.higher (by simp [order])).cons (by simp [order])

theorem transcribeSessionStop_neutral {removal : Cmd Lock}
    (above : Above order held (.techPvtMutex n))
    (removes : removal.Neutral order held) :
    (transcribeSessionStop n removal).Neutral order held := by
  apply Cmd.Neutral.maybe
  refine ⟨.inl above, .unlock_last rfl, ?_⟩
  apply Cmd.Neutral.andThen (destroying_neutral above)
  apply Cmd.Safe.unlock_then
  exact removes

theorem captureClose_neutral (above : Above order held (.techPvtMutex n)) :
    (captureClose n).Neutral order held :=
  transcribeSessionStop_neutral above .skip

theorem mediaBugRemove_neutral (above : Above order held (.bugRwlock c)) :
    (mediaBugRemove c n).Neutral order held := by
  have outside : Above order held (.techPvtMutex n) :=
    above.higher (by simp [order])
  apply Cmd.Neutral.either
  · apply Cmd.Neutral.guarded above
    exact .maybe (captureClose_neutral (outside.cons (by simp [order])))
  · apply Cmd.Neutral.seq (.guarded above .skip)
    exact .seq (.maybe (captureClose_neutral outside)) .skip

theorem doStop_neutral (above : Above order held (.bugRwlock c)) :
    (doStop c n n').Neutral order held :=
  transcribeSessionStop_neutral (above.higher (by simp [order]))
    (mediaBugRemove_neutral above)

theorem startCapture_neutral {started : Nat}
    (above : Above order held (.bugRwlock c)) :
    (startCapture c n n' started).Neutral order held := by
  have lists : Above order held .mutexConnects := above.higher (by simp [order])
  have outside : Above order held (.techPvtMutex started) :=
    above.higher (by simp [order])
  have cleanup : (transcribeSessionCleanup started).Neutral order held :=
    .guarded outside (destroying_neutral outside)
  apply Cmd.Neutral.seq (.maybe (doStop_neutral above))
  refine .seq (.maybe ?_) .skip
  apply Cmd.Neutral.seq
  · apply Cmd.Neutral.either (destroyTechPvt_neutral lists)
    exact .maybe (mutexConnects_neutral lists)
  · refine .seq (.maybe ?_) .skip
    exact .seq (.guarded above .skip) (.seq (.maybe cleanup) .skip)

theorem transcribeFrame_neutral (above : Above order held (.audioMutex p)) :
    (transcribeFrame n p).Neutral order held := by
  have inside : Above order ((.techPvtMutex n, .exclusive) :: held)
      (.audioMutex p) :=
    above.cons (by simp [order])
  have lists : Above order
      ((.audioMutex p, .exclusive) :: (.techPvtMutex n, .exclusive) :: held)
      .mutexConnects :=
    (inside.higher (by simp [order])).cons (by simp [order])
  apply Cmd.Neutral.maybe
  apply Cmd.Neutral.tryLocked
  apply Cmd.Neutral.maybe
  refine ⟨.inl inside, ?_⟩
  apply Cmd.Neutral.andThen (.maybe (addPendingWrite_neutral lists))
  exact .unlock_last rfl

theorem clientConnectionError_neutral
    (above : Above order held .mutexConnects) :
    clientConnectionError.Neutral order held :=
  .seq (mutexConnects_neutral above) (.seq (.maybe .skip) .skip)

theorem processPendingConnects_neutral
    (above : Above order held .mutexConnects) :
    processPendingConnects.Neutral order held := by
  apply Cmd.Neutral.seq (mutexConnects_neutral above)
  apply Cmd.Neutral.loop
  refine .seq ?_ (.seq (.maybe .skip) .skip)
  apply Cmd.Neutral.loop
  apply Cmd.Neutral.either (mutexConnects_neutral above)
  exact clientConnectionError_neutral above

/-- On the service thread a pipe's two mutexes are never held together. -/
theorem lwsCallback_neutral (reason : Reason)
    (above : ∀ p, Above order held (.audioMutex p)) :
    (lwsCallback reason).Neutral order held := by
  have lists : Above order held .mutexConnects :=
    (above 0).higher (by simp [order])
  have text : ∀ p, Above order held (.textMutex p) :=
    fun p => (above p).higher (by simp [order])
  cases reason with
  | clientAppendHandshakeHeader => exact mutexConnects_neutral lists
  | eventWaitCancelled =>
      apply Cmd.Neutral.seq (processPendingConnects_neutral lists)
      apply Cmd.Neutral.seq (mutexDisconnects_neutral lists)
      exact .seq (addPendingWrite_neutral lists) .skip
  | clientConnectionError => exact clientConnectionError_neutral lists
  | clientEstablished p =>
      apply Cmd.Neutral.seq (mutexConnects_neutral lists)
      refine .seq (.maybe ?_) .skip
      apply Cmd.Neutral.seq (.maybe (finish_neutral (text p)))
      exact .seq .skip .skip
  | clientClosed | clientReceive => exact .maybe .skip
  | clientWriteable p =>
      apply Cmd.Neutral.maybe
      apply Cmd.Neutral.seq (.guarded (text p) .skip)
      exact .seq (.maybe (.guarded (above p) .skip)) .skip

end Functions

theorem call_safe (thread : Thread) : thread.call.Safe order := by
  have below : ∀ r : Lock, Above order [] r := Above.nil order
  cases thread with
  | media c bugs =>
      refine ⟨.inl (below _), ?_⟩
      refine Cmd.Neutral.andThen ?_ (.unlock_last rfl)
      apply Cmd.Neutral.block
      intro command member
      obtain ⟨⟨n, p⟩, -, rfl⟩ := List.mem_map.mp member
      exact transcribeFrame_neutral ((below _).cons (by simp [order]))
  | hangup c bugs =>
      apply Cmd.Neutral.guarded (below _)
      apply Cmd.Neutral.block
      intro command member
      obtain ⟨n, -, rfl⟩ := List.mem_map.mp member
      exact captureClose_neutral ((below _).cons (by simp [order]))
  | stop c n n' => exact doStop_neutral (below _)
  | start c n n' started => exact startCapture_neutral (below _)
  | reaper p => exact reaper_neutral (below _)
  | service reason =>
      refine Cmd.Neutral.andThen ?_ (.unlock_last rfl)
      apply lwsCallback_neutral
      exact fun p => (below _).cons (by simp [order])
  | shutdown => exact Cmd.Neutral.await (below _)

/-- However the frame callbacks, the starts, the stops, the hangups, the
callbacks of lws, the reapers and an unload interleave over all sessions, there
is no cycle of threads that wait for each other. -/
theorem pipe_waits_acyclic {τ : Type} [DecidableEq τ]
    {labels : List (Locks.Act τ Thread)} {trace : List Empty}
    {final : Locks.State Lock τ}
    (run : (Locks.machine order Thread.call τ).Run anyStep
      (Locks.machine order Thread.call τ).initial labels trace final) :
    NoCyclicWait order final :=
  Locks.no_cyclic_wait_of_safe call_safe run

/-- The unload waits for the service thread, which waits for a frame's audio
buffer; a stop waits for the frame, and a hangup for the session's frames. -/
theorem pipe_waits_acyclic_in_a_chain :
    ∃ (labels : List (Locks.Act Nat Thread)) (trace : List Empty)
      (final : Locks.State Lock Nat),
      (Locks.machine order Thread.call Nat).Run anyStep
        (Locks.machine order Thread.call Nat).initial labels trace final ∧
        Locks.WaitsFor order final 2 1 ∧ Locks.WaitsFor order final 1 0 ∧
        Locks.WaitsFor order final 3 0 ∧ Locks.WaitsFor order final 4 0 ∧
        NoCyclicWait order final := by
  have executed : ((Locks.machine order Thread.call Nat).exec anyStep
      (Locks.machine order Thread.call Nat).initial
      [.call 0 (.media 0 [(0, 0)]), .step 0 true, .step 0 true, .step 0 true,
        .step 0 true, .step 0 false, .step 0 true, .step 0 true, .step 0 false,
        .step 0 true, .step 0 true,
        .call 1 (.service (.clientWriteable 0)), .step 1 true, .step 1 false,
        .step 1 true, .step 1 true, .step 1 true, .step 1 true, .step 1 true,
        .step 1 true, .step 1 true, .step 1 false, .step 1 true,
        .call 2 .shutdown,
        .call 3 (.stop 0 0 0), .step 3 false, .step 3 true,
        .call 4 (.hangup 0 [0]), .step 4 true]).isSome = true := by
    decide
  have run := Machine.run_of_exec (Option.some_get executed).symm
  refine ⟨_, _, _, run, ?_, ?_, ?_, ?_, pipe_waits_acyclic run⟩
  · exact .await rfl (.head _)
  · exact .lock rfl (.head _) rfl
  · exact .lock rfl (.head _) rfl
  · exact .lock rfl (.head _) rfl

end DrachtioModules.Deepgram.LockOrder

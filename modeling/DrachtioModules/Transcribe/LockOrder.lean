import DrachtioModules.Locks

/-!
# The locks of a media bug with a `cap_cb`

What mod_google_transcribe and mod_azure_transcribe have in common: the media
bugs of a session under its read-write lock, for each capture c the nested mutex
of its `cap_cb`, a thread of the vendor's side that a teardown waits for, and
the one mutex of its GStreamer.  The functions of a module are given as a
`Vendor`.

Which way a branch goes is left open, and so is how often a loop runs.
FreeSWITCH locates a session without waiting, so that has no part in it; nor
have the events that are fired, and the vendor's server.
-/

namespace DrachtioModules.Transcribe.LockOrder

open Locks (Cmd Discipline Above Mode NoCyclicWait)

/-- `thread` is held by a thread of the vendor's side as long as it runs. -/
inductive Lock where
  | bugRwlock (session : Nat)
  | cbMutex (c : Nat)
  | thread (c : Nat)
  | streamerMutex (c : Nat)
  deriving DecidableEq, Repr

/-- The order of the locks; the mutex of a `cap_cb` is a nested one. -/
@[simp]
def Lock.rank : Lock → Nat
  | .bugRwlock _ => 0
  | .cbMutex _ => 1
  | .thread _ => 2
  | .streamerMutex _ => 3

@[simp]
def Lock.recursive : Lock → Bool
  | .cbMutex _ => true
  | _ => false

def order : Discipline Lock :=
  { rank := Lock.rank
    recursive := Lock.recursive }

/-- `switch_core_media_bug_remove`: the bug may be gone, and CLOSE is fired
under the lock or after it. -/
def mediaBugRemove (session : Nat) (captureClose : Cmd Lock) : Cmd Lock :=
  .either (.guarded (.bugRwlock session) (.maybe captureClose))
    (.block [.guarded (.bugRwlock session) .skip, .maybe captureClose])

/-- `switch_core_media_bug_add`. -/
def mediaBugAdd (session : Nat) : Cmd Lock :=
  .guarded (.bugRwlock session) .skip

/-- What a module does: in a frame callback, at CLOSE, in a job κ (an API
command, a thread of its own), and on a thread ι of the vendor's side of capture
c. -/
structure Vendor (κ ι : Type) where
  frame (c : Nat) : Cmd Lock
  close (c : Nat) : Cmd Lock
  job : κ → Cmd Lock
  work : ι → Nat → Cmd Lock

/-- A call on a thread: the frame callbacks of the bugs of a session, under the
read side of their lock; a hangup, which holds the write side while it closes
the bugs; a job of the module; the vendor's side. -/
inductive Thread (κ ι : Type) where
  | media (session : Nat) (captures : List Nat)
  | hangup (session : Nat) (captures : List Nat)
  | job (task : κ)
  | work (thread : ι) (c : Nat)
  deriving DecidableEq, Repr

section Calls

variable {κ ι : Type}

def Vendor.call (vendor : Vendor κ ι) : Thread κ ι → Locks.Call Lock
  | .media session captures =>
      ⟨none, .seq (.lock (.bugRwlock session) .shared)
        (.seq (.block (captures.map vendor.frame))
          (.unlock (.bugRwlock session) .shared))⟩
  | .hangup session captures =>
      ⟨none,
        .guarded (.bugRwlock session) (.block (captures.map vendor.close))⟩
  | .job task => ⟨none, vendor.job task⟩
  | .work thread c =>
      ⟨some (.thread c),
        .seq (vendor.work thread c) (.unlock (.thread c) .shared)⟩

/-- Where its callers hold nothing but lower locks, each function of the module
keeps to the order. -/
structure Vendor.Ordered (vendor : Vendor κ ι) : Prop where
  frame : ∀ c held, Above order held (.streamerMutex c) →
    (vendor.frame c).Neutral order held
  close : ∀ c held, Above order held (.cbMutex c) →
    (vendor.close c).Neutral order held
  job : ∀ task, (vendor.job task).Neutral order []
  work : ∀ thread c held, Above order held (.streamerMutex c) →
    (vendor.work thread c).Neutral order held

end Calls

section Functions

variable {held : List (Lock × Mode)} {session c : Nat} {captureClose : Cmd Lock}

theorem mediaBugRemove_neutral (above : Above order held (.bugRwlock session))
    (close : ∀ held, Above order held (.cbMutex c) →
      captureClose.Neutral order held) :
    (mediaBugRemove session captureClose).Neutral order held := by
  have outside : Above order held (.cbMutex c) :=
    above.higher (by simp [order])
  apply Cmd.Neutral.either
  · apply Cmd.Neutral.guarded above
    exact .maybe (close _ (outside.cons (by simp [order])))
  · apply Cmd.Neutral.seq (.guarded above .skip)
    exact .seq (.maybe (close _ outside)) .skip

theorem mediaBugAdd_neutral (above : Above order held (.bugRwlock session)) :
    (mediaBugAdd session).Neutral order held :=
  .guarded above .skip

theorem streamerMutex_neutral (above : Above order held (.streamerMutex c)) :
    (Cmd.guarded (.streamerMutex c) .skip).Neutral order held :=
  .guarded above .skip

end Functions

section Threads

variable {κ ι : Type} {vendor : Vendor κ ι}

theorem Vendor.Ordered.call_safe (ordered : vendor.Ordered)
    (thread : Thread κ ι) : (vendor.call thread).Safe order := by
  have below : ∀ r : Lock, Above order [] r := Above.nil order
  cases thread with
  | media session captures =>
      refine ⟨.inl (below _), ?_⟩
      refine Cmd.Neutral.andThen ?_ (.unlock_last rfl)
      apply Cmd.Neutral.block
      rintro _ (member : _ ∈ captures.map vendor.frame)
      obtain ⟨c, -, rfl⟩ := List.mem_map.mp member
      exact ordered.frame c _ ((below _).cons (by simp [order]))
  | hangup session captures =>
      apply Cmd.Neutral.guarded (below _)
      apply Cmd.Neutral.block
      rintro _ (member : _ ∈ captures.map vendor.close)
      obtain ⟨c, -, rfl⟩ := List.mem_map.mp member
      exact ordered.close c _ ((below _).cons (by simp [order]))
  | job task => exact ordered.job task
  | work thread c =>
      refine Cmd.Neutral.andThen ?_ (.unlock_last rfl)
      exact ordered.work thread c _ ((below _).cons (by simp [order]))

theorem Vendor.Ordered.no_cyclic_wait (ordered : vendor.Ordered) {τ : Type}
    [DecidableEq τ] {labels : List (Locks.Act τ (Thread κ ι))}
    {trace : List Empty} {final : Locks.State Lock τ}
    (run : (Locks.machine order vendor.call τ).Run anyStep
      (Locks.machine order vendor.call τ).initial labels trace final) :
    NoCyclicWait order final :=
  Locks.no_cyclic_wait_of_safe ordered.call_safe run

end Threads

end DrachtioModules.Transcribe.LockOrder

import DrachtioModules.Pipes.Model

/-!
# What a step does to one pipe

The view of a pipe is everything a step can read or change of it: its fields,
its entries in the pending lists and what the service thread is doing with it.
`Local` lists what a step can do to a view.  Every step of the whole does to
each of the pipes one of these things, so that a run of the whole shows, at each
pipe, a sequence of them.
-/

namespace DrachtioModules.Pipes

open AudioFork (Bytes LwsState NotifyEvent Wsi ConnectCall FailStage)

/-- What the service thread is doing with a pipe: nothing, holding it in the
local list of a loop, or running a callback for it. -/
inductive Role where
  | away
  | picked
  | connectNull
  | failing (stage : FailStage)
  | loop
  | established (stage : Established)
  | metadata (code : Code)
  | closed (stage : Closed)
  | writeable (stage : Writeable)
  deriving DecidableEq, Repr

/-- The pipes `processPendingConnects` has still to connect. -/
def Back.rest : Back → List Nat
  | .eventLoop => []
  | .call list | .pass list => list

def Service.role (n : Nat) : Service → Role
  | .idle | .eventCallback _ => .away
  | .connects list => if n ∈ list then .picked else .away
  | .connectNull k list =>
      if k = n then .connectNull
      else if n ∈ list then .picked else .away
  | .failing k stage back =>
      if k = n then .failing stage
      else if n ∈ back.rest then .picked else .away
  | .disconnects list | .writes list => if n ∈ list then .loop else .away
  | .established k stage => if k = n then .established stage else .away
  | .metadata k code => if k = n then .metadata code else .away
  | .closed k stage => if k = n then .closed stage else .away
  | .writeable k stage => if k = n then .writeable stage else .away

structure View where
  pipe : Pipe
  connects : Bool
  disconnects : Bool
  writes : Bool
  vhost : Bool
  role : Role

def State.view (s : State) (n : Nat) : View :=
  { pipe := s.pipes n
    connects := decide (n ∈ s.pendingConnects)
    disconnects := decide (n ∈ s.pendingDisconnects)
    writes := decide (n ∈ s.pendingWrites)
    vhost := s.vhost
    role := s.service.role n }

/-- What happens to `n` in a trace. -/
def about (n : Nat) (trace : List Event) : List Happening :=
  trace.filterMap fun event => if event.1 = n then some event.2 else none

@[simp] theorem about_nil (n : Nat) : about n [] = [] := rfl

@[simp] theorem about_append (n : Nat) (trace events : List Event) :
    about n (trace ++ events) = about n trace ++ about n events :=
  List.filterMap_append

@[simp] theorem about_cons_same (n : Nat) (happening : Happening)
    (trace : List Event) :
    about n ((n, happening) :: trace) = happening :: about n trace := by
  simp [about]

theorem about_cons_other {n k : Nat} (other : k ≠ n) (happening : Happening)
    (trace : List Event) :
    about n ((k, happening) :: trace) = about n trace := by
  simp [about, other]

theorem mem_about {n : Nat} {happening : Happening} {trace : List Event} :
    happening ∈ about n trace ↔ (n, happening) ∈ trace := by
  simp [about]

/-- A member function of `k` emits events about `k` only. -/
theorem about_map_same (n : Nat) (happenings : List Happening) :
    about n (happenings.map (n, ·)) = happenings := by
  induction happenings with
  | nil => rfl
  | cons happening happenings ih => simp [ih]

theorem about_map_other {n k : Nat} (other : k ≠ n)
    (happenings : List Happening) : about n (happenings.map (k, ·)) = [] := by
  induction happenings with
  | nil => rfl
  | cons happening happenings ih =>
      simp [about_cons_other other, ih]

/-- A scan of a list happens to the pipes that are in it. -/
theorem about_scan (n : Nat) (list : List Nat) :
    (∀ happening ∈ about n (list.map (·, .scanned)), happening = .scanned) ∧
      (about n (list.map (·, .scanned)) ≠ [] → n ∈ list) := by
  induction list with
  | nil => simp
  | cons k list ih =>
      by_cases same : k = n
      · subst same
        simpa using ih.1
      · simpa [about_cons_other same, Ne.symm same] using ih

def View.push (v : View) : Option Pending → View
  | none => v
  | some .disconnects => { v with disconnects := true }
  | some .writes => { v with writes := true }

@[simp] theorem view_pipe (s : State) (n : Nat) : (s.view n).pipe = s.pipes n :=
  rfl

theorem view_put_same (s : State) (n : Nat) (pipe : Pipe) :
    (s.put n pipe).view n = { s.view n with pipe := pipe } := by
  simp only [State.view, State.put, Function.update_self]
  rfl

theorem view_put_other (s : State) {n k : Nat} (other : k ≠ n) (pipe : Pipe) :
    (s.put k pipe).view n = s.view n := by
  simp only [State.view, State.put, Function.update_of_ne other.symm]
  rfl

theorem view_push_same (s : State) (n : Nat) (pending : Option Pending) :
    (s.push n pending).view n = (s.view n).push pending := by
  cases pending with
  | none => rfl
  | some pending =>
      cases pending <;>
        simp only [State.view, State.push, View.push, List.mem_append,
          List.mem_singleton, or_true, decide_true]
      · rfl
      · rfl

theorem view_push_other (s : State) {n k : Nat} (other : k ≠ n)
    (pending : Option Pending) : (s.push k pending).view n = s.view n := by
  cases pending with
  | none => rfl
  | some pending =>
      cases pending <;>
        simp only [State.view, State.push, List.mem_append,
          List.mem_singleton, other.symm, or_false]
      · rfl
      · rfl

/-- The state in which a listed pipe is taken into the loop over a list. -/
def Pending.wanted : Pending → LwsState
  | .disconnects => .disconnecting
  | .writes => .connected

def View.listed (v : View) : Pending → Bool
  | .disconnects => v.disconnects
  | .writes => v.writes

def View.unlist (v : View) : Pending → View
  | .disconnects => { v with disconnects := false }
  | .writes => { v with writes := false }

def Happening.scan : Happening → Bool
  | .scanned => true
  | _ => false

inductive Local (variant : Variant) (v : View) : List Happening → View → Prop
    where
  | still : Local variant v [] v
  -- connect()
  | enters (uncalled : v.pipe.connectCall = .notCalled) :
      Local variant v []
        { v with pipe := { v.pipe with connectCall := .entered } }
  | pushes (entered : v.pipe.connectCall = .entered) :
      Local variant v []
        { v with
          pipe := { v.pipe with connectCall := .cancelService }
          connects := true }
  | refuses (entered : v.pipe.connectCall = .entered) :
      Local variant v []
        { v with
          pipe := { v.pipe with state := .failed, connectCall := .notify } }
  | refusalNotified (call : v.pipe.connectCall = .notify) :
      Local variant v [.notified .connectFail]
        { v with pipe := { v.pipe with connectCall := .signal } }
  | refusalSignaled (call : v.pipe.connectCall = .signal) :
      Local variant v [.signaled]
        { v with
          pipe := { v.pipe with
            closeSignaled := true, connectCall := .returned } }
  | connectReturns (call : v.pipe.connectCall = .cancelService) :
      Local variant v []
        { v with pipe := { v.pipe with connectCall := .returned } }
  -- the session and the reaper
  | calls {op : Op} {code : Code} (free : v.pipe.owner = .session none)
      (entry : op.entry variant = some code) :
      Local variant v []
        { v with pipe := { v.pipe with owner := .session (some code) } }
  | advances {code : Code} {ok : Bool} {pipe : Pipe} {next : Option Code}
      {pending : Option Pending} {happenings : List Happening}
      (call : v.pipe.owner = .session (some code))
      (runs : stepCode variant v.pipe ok code =
        (pipe, next, pending, happenings)) :
      Local variant v happenings
        ({ v with pipe := { pipe with owner := .session next } }.push pending)
  | reaped (free : v.pipe.owner = .session none) :
      Local variant v []
        { v with
          pipe := { v.pipe with
            owner := .reaper (.closing variant.reaperEntry) } }
  | reaperAdvances {code : Code} {ok : Bool} {pipe : Pipe}
      {next : Option Code} {pending : Option Pending}
      {happenings : List Happening}
      (closing : v.pipe.owner = .reaper (.closing code))
      (runs : stepCode variant v.pipe ok code =
        (pipe, next, pending, happenings)) :
      Local variant v happenings
        ({ v with
          pipe := { pipe with
            owner := .reaper (next.elim .waiting .closing) } }.push pending)
  | waited (waiting : v.pipe.owner = .reaper .waiting)
      (signaled : v.pipe.closeSignaled = true) :
      Local variant v []
        { v with pipe := { v.pipe with owner := .reaper .fromConnects } }
  | fromConnects (stage : v.pipe.owner = .reaper .fromConnects) :
      Local variant v []
        { v with
          pipe := { v.pipe with owner := .reaper .fromDisconnects }
          connects := false }
  | fromDisconnects (stage : v.pipe.owner = .reaper .fromDisconnects) :
      Local variant v []
        { v with
          pipe := { v.pipe with owner := .reaper .fromWrites }
          disconnects := false }
  | fromWrites (stage : v.pipe.owner = .reaper .fromWrites) :
      Local variant v [.deleted]
        { v with
          pipe := { v.pipe with owner := .reaper .deleted }
          writes := false }
  -- the callbacks lws delivers
  | protocolInit : Local variant v [] { v with vhost := true }
  | scanned {scans : List Happening}
      (only : ∀ happening ∈ scans, happening = .scanned)
      (listed : scans ≠ [] → v.connects = true) :
      Local variant v scans v
  | purged {scans : List Happening}
      (only : ∀ happening ∈ scans, happening = .scanned)
      (listed : v.connects = true) (failed : v.pipe.state = .failed) :
      Local variant v scans { v with connects := false }
  | adopts {scans : List Happening}
      (only : ∀ happening ∈ scans, happening = .scanned)
      (ready : v.vhost = true) (away : v.role = .away)
      (listed : v.connects = true) (waiting : v.pipe.state = .idle) :
      Local variant v scans
        { v with
          pipe := { v.pipe with state := .connecting }
          role := .picked }
  | header {scans : List Happening}
      (only : ∀ happening ∈ scans, happening = .scanned)
      (listed : v.connects = true) (connecting : v.pipe.state = .connecting) :
      Local variant v (scans ++ [.touched]) v
  -- nothing is said of a connection whose pipe is not found in the list
  | stray {happenings : List Happening} {v' : View}
      (handshaking : v.pipe.wsi = .handshaking)
      (lost : ¬ (v.connects = true ∧ v.pipe.state = .connecting ∧
        v.pipe.pwsi = true)) :
      Local variant v happenings v'
  | established {scans : List Happening}
      (only : ∀ happening ∈ scans, happening = .scanned)
      (ready : v.vhost = true) (away : v.role = .away)
      (handshaking : v.pipe.wsi = .handshaking)
      (listed : v.connects = true) (connecting : v.pipe.state = .connecting) :
      Local variant v (scans ++ [.established])
        { v with
          pipe := { v.pipe with wsi := .opened }
          connects := false
          role := .established .adopt }
  | connectionError {scans : List Happening}
      (only : ∀ happening ∈ scans, happening = .scanned)
      (away : v.role = .away) (handshaking : v.pipe.wsi = .handshaking)
      (listed : v.connects = true) (connecting : v.pipe.state = .connecting) :
      Local variant v scans
        { v with
          pipe := { v.pipe with wsi := .freed }
          connects := false
          role := .failing .store }
  | closes (away : v.role = .away)
      (open' : v.pipe.wsi = .opened ∨ v.pipe.wsi = .closing)
      (adopted : v.pipe.adopted = true) :
      Local variant v [.closed]
        { v with
          pipe := { v.pipe with wsi := .freed }
          role := .closed .gracefully }
  | closesStray (away : v.role = .away)
      (open' : v.pipe.wsi = .opened ∨ v.pipe.wsi = .closing)
      (unadopted : v.pipe.adopted = false) :
      Local variant v [.closed]
        { v with pipe := { v.pipe with wsi := .freed } }
  | receives {text : Bytes} (away : v.role = .away)
      (open' : v.pipe.wsi = .opened) (adopted : v.pipe.adopted = true) :
      Local variant v [.touched, .notified (.message text)] v
  | becomesWriteable (away : v.role = .away) (open' : v.pipe.wsi = .opened)
      (adopted : v.pipe.adopted = true) :
      Local variant v [] { v with role := .writeable .flag }
  -- processPendingConnects
  | dials (picked : v.role = .picked) :
      Local variant v [.touched, .dereferenced v.vhost]
        { v with
          pipe := { v.pipe with
            state := .connecting, vhd := v.vhost, pwsi := true
            wsi := .handshaking }
          role := .away }
  | dialFails (picked : v.role = .picked) :
      Local variant v [.touched, .dereferenced v.vhost]
        { v with
          pipe := { v.pipe with
            state := .connecting, vhd := v.vhost, pwsi := false }
          role := .failing .store }
  | dialErrors {scans : List Happening}
      (only : ∀ happening ∈ scans, happening = .scanned)
      (picked : v.role = .picked) (listed : scans ≠ [] → v.connects = true) :
      Local variant v ([.touched, .dereferenced v.vhost] ++ scans)
        { v with
          pipe := { v.pipe with
            state := .connecting, vhd := v.vhost, pwsi := false }
          role := .connectNull }
  | connectNull (null : v.role = .connectNull) :
      Local variant v [.touched]
        { v with
          pipe := { v.pipe with pwsi := false }
          role := .failing .store }
  | failureStored (failing : v.role = .failing .store) :
      Local variant v [.touched]
        { v with
          pipe := { v.pipe with state := .failed }
          role := .failing .notify }
  | failureNotified (failing : v.role = .failing .notify) :
      Local variant v [.touched, .notified .connectFail]
        { v with role := .failing .signal }
  | failureSignaled (failing : v.role = .failing .signal) :
      Local variant v [.touched, .signaled]
        { v with
          pipe := { v.pipe with closeSignaled := true }
          role := .away }
  -- processPendingDisconnects and processPendingWrites
  | passedOver {scans : List Happening} (pending : Pending)
      (only : ∀ happening ∈ scans, happening = .scanned)
      (listed : v.listed pending = true) (unset : v.pipe.vhd = false) :
      Local variant v scans v
  | dropped {scans : List Happening} (pending : Pending)
      (only : ∀ happening ∈ scans,
        happening = .scanned ∨ happening = .dereferenced v.vhost)
      (listed : v.listed pending = true) (set : v.pipe.vhd = true) :
      Local variant v scans (v.unlist pending)
  | taken {scans : List Happening} (pending : Pending)
      (only : ∀ happening ∈ scans,
        happening = .scanned ∨ happening = .dereferenced v.vhost)
      (away : v.role = .away) (listed : v.listed pending = true)
      (set : v.pipe.vhd = true) (wanted : v.pipe.state = pending.wanted) :
      Local variant v scans { v.unlist pending with role := .loop }
  | requests {role : Role} (loop : v.role = .loop)
      (after : role = .loop ∨ role = .away) :
      Local variant v [.touched, .requestedWritable] { v with role := role }
  -- LWS_CALLBACK_CLIENT_ESTABLISHED
  | connected {stage : Established} (adopt : v.role = .established .adopt)
      (check : stage = .close ∨ stage = .graceful) :
      Local variant v [.touched]
        { v with
          pipe := { v.pipe with
            adopted := true, vhd := v.vhost, state := .connected }
          role := .established stage }
  | completes {stage next : Established} (running : v.role = .established stage)
      (check : stage = .close ∨ stage = .graceful)
      (after : next = .closing .closeCheck ∨ next = .graceful ∨
        next = .shutdown .gracefulCheck ∨ next = .notify) :
      Local variant v [.touched] { v with role := .established next }
  | establishedAdvances {stage : Established} {code : Code} {ok : Bool}
      {pipe : Pipe} {next : Option Code} {pending : Option Pending}
      {happenings : List Happening} {after : Established}
      (running : v.role = .established stage)
      (within : stage = .closing code ∨ stage = .shutdown code)
      (runs : stepCode variant v.pipe ok code =
        (pipe, next, pending, happenings))
      (goes : (∃ code, next = some code ∧
          (after = .closing code ∨ after = .shutdown code)) ∨
        after = .graceful ∨ after = .notify) :
      Local variant v (.touched :: happenings)
        ({ v with pipe := pipe, role := .established after }.push pending)
  | announces (notify : v.role = .established .notify) :
      Local variant v [.touched, .notified .connectSuccess]
        { v with role := .away }
  | locks (away : v.role = .away) (free : v.pipe.owner = .session none) :
      Local variant v []
        { v with
          pipe := { v.pipe with owner := .callback }
          role := .metadata .bufferCheck }
  | borrows {code : Code} {ok : Bool} {pipe : Pipe} {next : Option Code}
      {pending : Option Pending} {happenings : List Happening}
      (running : v.role = .metadata code)
      (runs : stepCode variant v.pipe ok code =
        (pipe, next, pending, happenings)) :
      Local variant v (.borrowed :: happenings)
        ({ v with
          pipe := { pipe with
            owner := next.elim (.session none) fun _ => .callback }
          role := next.elim .away .metadata }.push pending)
  -- LWS_CALLBACK_CLIENT_CLOSED
  | endTold {stage next : Closed} {event : NotifyEvent}
      (running : v.role = .closed stage)
      (check : stage = .gracefully ∨ stage = .dropped)
      (told : event ≠ .connectFail) (after : next = .store) :
      Local variant v [.touched, .notified event]
        { v with role := .closed next }
  | endChecked {stage next : Closed} (running : v.role = .closed stage)
      (check : stage = .gracefully ∨ stage = .dropped)
      (after : next = .dropped ∨ next = .store) :
      Local variant v [.touched] { v with role := .closed next }
  | endStored (running : v.role = .closed .store) :
      Local variant v [.touched]
        { v with
          pipe := { v.pipe with state := .disconnected }
          role := .closed .signal }
  | endSignaled (running : v.role = .closed .signal) :
      Local variant v [.touched, .signaled]
        { v with
          pipe := { v.pipe with closeSignaled := true, adopted := false }
          role := .away }
  -- LWS_CALLBACK_CLIENT_WRITEABLE
  | writes {stage : Writeable} {happenings : List Happening} {role : Role}
      {text audio : Bool} {wsi : Wsi} (running : v.role = .writeable stage)
      (after : role = .away ∨ ∃ stage, role = .writeable stage)
      (asked : happenings = [.touched] ∨
        happenings = [.touched, .requestedWritable])
      (kept : wsi = v.pipe.wsi ∨ wsi = .closing) :
      Local variant v happenings
        { v with
          pipe := { v.pipe with text := text, audio := audio, wsi := wsi }
          role := role }

end DrachtioModules.Pipes

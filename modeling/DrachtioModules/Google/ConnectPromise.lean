import DrachtioModules.Google.WriteSide

/-!
# The promise the read thread waits for

`grpc_read_thread` begins with `waitForConnect()`, which waits for `m_promise`.
`connect()` sets the promise once the stream is there; `writesDone()` sets it in
`cancelConnect()` where it finds nothing connected.  A second `set_value()`
would throw, and without a first one `reap_streamer` joins for ever.

A reap is a stop, the CLOSE callback of a hangup, the cleanup of an orphan or
the cleanup of a bug whose channel private is gone: all of them come to
`reap_streamer` with `cb->mutex` held, at any time and any number of times.
-/

namespace DrachtioModules.Google

open Transcribe (Bytes)

/-- A `connect()` about to set the promise. -/
def Connect.promising : Connect → Bool
  | .promise => true
  | _ => false

def Init.promising : Init → Bool
  | .connecting stage => stage.promising
  | _ => false

def Media.promising : Media → Bool
  | .connecting stage _ _ => stage.promising
  | _ => false

/-- A thread is about to set the promise. -/
def State.setting (s : State) : Bool :=
  s.init.promising || s.media.promising ||
    (s.read == .doneTest && !s.connected) || s.cleanup == .cancelConnect

/-- The promise is set at most once, and before the read thread is joined. -/
structure PromiseKept (config : Config) (trace : List Event) (s : State) :
    Prop where
  once : trace.count .promised ≤ 1
  unset : s.setting = true → s.promise = false
  joined : s.cleanup = .join → s.thread = true → s.promise = true
  /-- The read thread does not wait on. -/
  woken : s.cleanup = .join → s.thread = true → s.read = .waiting →
    ∃ next, stepRead config s none = some (next, []) ∧ next.read ≠ .waiting

/-- Where `reap_streamer` stands, and what it has seen to. -/
def Cleanup.Settles (s : State) : Cleanup → Prop
  | .idle | .load =>
      (s.streamer = true → s.connected = false → s.promise = false) ∧
        (s.thread = true → s.streamer = true)
  | .doneTest =>
      s.streamer = true ∧ (s.connected = false → s.promise = false)
  | .cancelConnect =>
      s.streamer = true ∧ s.connected = false ∧ s.promise = false
  | .doneLock | .doneInside => s.streamer = true
  | .join => s.thread = true → s.promise = true
  | .delete => s.thread = false

structure Settled (trace : List Event) (s : State) : Prop where
  counted : trace.count .promised = s.promise.toNat
  connecting : s.connected = true →
    s.promise = !(s.init.promising || s.media.promising)
  starting : s.init ≠ .ready → s.thread = false
  created : s.init ≠ .ready → s.init ≠ .failed → s.streamer = true
  framed : s.media ≠ .idle → s.streamer = true
  cleanup : s.cleanup.Settles s

/-- What `connect()` leaves: the stream is published, and the promise is set or
about to be. -/
structure Promised (s next : State) (after : Option Connect)
    (events : List Event) : Prop where
  streamer : next.streamer = s.streamer
  thread : next.thread = s.thread
  connected : next.connected = true
  promise : next.promise = !after.elim false Connect.promising
  counted : events.count .promised + s.promise.toNat = next.promise.toNat

/-- `write()` does not touch the promise. -/
structure Unpromised (s next : State) (events : List Event) : Prop where
  streamer : next.streamer = s.streamer
  thread : next.thread = s.thread
  connected : next.connected = s.connected
  promise : next.promise = s.promise
  counted : events.count .promised = 0

theorem stage_unpromised (config : Config) (s : State) (data : Bytes) :
    Unpromised s (stage config s data) [] := by
  unfold stage
  dsimp only
  split
  · exact ⟨rfl, rfl, rfl, rfl, rfl⟩
  · exact ⟨rfl, rfl, rfl, rfl, rfl⟩

theorem stepWrite_unpromised {config : Config} {s next : State} {data : Bytes}
    {stage : Write} {after : Option Write} {events : List Event}
    (step : stepWrite config s data stage = some (next, after, events)) :
    Unpromised s next events := by
  cases stage with
  | test =>
      simp only [stepWrite] at step
      split at step <;> cases step
      · exact ⟨rfl, rfl, rfl, rfl, rfl⟩
      · exact stage_unpromised config s data
  | lock =>
      simp only [stepWrite] at step
      split at step
      · cases step
      · split at step <;> cases step
        · exact ⟨rfl, rfl, rfl, rfl, rfl⟩
        · exact ⟨rfl, rfl, rfl, rfl, by simp⟩
  | inside =>
      simp only [stepWrite] at step
      cases step
      exact ⟨rfl, rfl, rfl, rfl, by simp⟩

section Connecting

variable {config : Config} {s next : State} {stage : Connect}
variable {after : Option Connect} {events : List Event}

theorem Unpromised.promised (kept : Unpromised s next events)
    (connected : s.connected = true) (set : s.promise = true)
    (past : after.elim false Connect.promising = false) :
    Promised s next after events := by
  refine ⟨kept.streamer, kept.thread, kept.connected.trans connected, ?_, ?_⟩
  · rw [kept.promise, set, past]
    rfl
  · rw [kept.counted, kept.promise, Nat.zero_add]

theorem stepConnect_promised (fits : stage.Fits s.connected)
    (published : s.connected = true → s.promise = !stage.promising)
    (unpublished : s.connected = false → s.promise = false)
    (step : stepConnect config s stage = some (next, after, events)) :
    Promised s next after events := by
  cases stage with
  | publish =>
      simp only [stepConnect] at step
      cases step
      have unset := unpublished fits
      exact ⟨rfl, rfl, rfl, unset, by simp⟩
  | promise =>
      simp only [stepConnect] at step
      cases step
      have unset : s.promise = false := published fits
      exact ⟨rfl, rfl, fits, rfl, by simp [unset]⟩
  | config =>
      simp only [stepConnect] at step
      split at step <;> cases step
      exact Unpromised.promised ⟨rfl, rfl, rfl, rfl, by simp⟩ fits
        (published fits) rfl
  | writingConfig =>
      simp only [stepConnect] at step
      cases step
      exact Unpromised.promised ⟨rfl, rfl, rfl, rfl, by simp⟩ fits
        (published fits) rfl
  | drain =>
      simp only [stepConnect] at step
      split at step
      · cases step
        exact Unpromised.promised ⟨rfl, rfl, rfl, rfl, rfl⟩ fits
          (published fits) rfl
      · split at step <;> cases step
        all_goals
          exact Unpromised.promised ⟨rfl, rfl, rfl, rfl, rfl⟩ fits
            (published fits) rfl
  | chunk stage data | rest stage data =>
      simp only [stepConnect] at step
      split at step
      · cases step
      all_goals
        rename_i result
        cases step
        exact (stepWrite_unpromised result).promised fits (published fits) rfl
  | staging =>
      simp only [stepConnect] at step
      split at step <;> cases step
      all_goals
        exact Unpromised.promised ⟨rfl, rfl, rfl, rfl, rfl⟩ fits
          (published fits) rfl
  | clear =>
      simp only [stepConnect] at step
      cases step
      exact Unpromised.promised ⟨rfl, rfl, rfl, rfl, rfl⟩ fits
        (published fits) rfl

end Connecting

theorem Cleanup.Settles.same {s s' : State} {cleanup : Cleanup}
    (settles : cleanup.Settles s) (streamer : s'.streamer = s.streamer)
    (thread : s'.thread = s.thread) (connected : s'.connected = s.connected)
    (promise : s'.promise = s.promise) : cleanup.Settles s' := by
  cases cleanup <;>
    simpa only [Cleanup.Settles, streamer, thread, connected, promise]
      using settles

theorem Settled.quiet {trace events : List Event} {s s' : State}
    (settled : Settled trace s) (kept : Unpromised s s' events)
    (ready : s.init = .ready) (init : s'.init = .ready)
    (media : s'.media.promising = s.media.promising)
    (framed : s'.media ≠ .idle → s.media ≠ .idle ∨ s.streamer = true)
    (cleanup : s'.cleanup.Settles s') : Settled (trace ++ events) s' := by
  refine ⟨?_, ?_, ?_, ?_, ?_, cleanup⟩
  · rw [List.count_append, settled.counted, kept.counted, kept.promise]
    rfl
  · rw [kept.connected, kept.promise, init, media, ← ready]
    exact settled.connecting
  · exact fun early => absurd init early
  · exact fun early => absurd init early
  · intro busy
    rw [kept.streamer]
    exact (framed busy).elim settled.framed id

section Threads

variable {config : Config} {trace events : List Event} {s s' : State}

/-- Nothing is promised while nothing is connected and no reap has begun. -/
theorem Settled.unset (settled : Settled trace s)
    (resting : s.cleanup = .idle) (streamer : s.streamer = true)
    (unconnected : s.connected = false) : s.promise = false := by
  have settles := settled.cleanup
  rw [resting] at settles
  exact settles.1 streamer unconnected

theorem Promised.idle {next : State} {after : Option Connect}
    (promised : Promised s next after events) (settled : Settled trace s)
    (resting : s.cleanup = .idle)
    (streamer : s'.streamer = next.streamer)
    (thread : s'.thread = next.thread)
    (connected : s'.connected = next.connected)
    (idle : s'.cleanup = .idle) : s'.cleanup.Settles s' := by
  have settles := settled.cleanup
  rw [resting] at settles
  rw [idle]
  refine ⟨?_, ?_⟩
  · intro _ unconnected
    rw [connected, promised.connected] at unconnected
    cases unconnected
  · rw [thread, streamer, promised.thread, promised.streamer]
    exact settles.2

theorem stepInit_settled {ok : Bool} (placed : Placed s)
    (settled : Settled trace s)
    (step : stepInit config s ok = some (s', events)) :
    Settled (trace ++ events) s' := by
  cases init : s.init with
  | connecting stage =>
      obtain ⟨idle, resting, _⟩ := placed.starting (by simp [init])
      have fits : stage.Fits s.connected := by
        simpa [init, Init.Fits] using placed.init
      have streamer := settled.created (by simp [init]) (by simp [init])
      obtain ⟨next, after, result, rfl⟩ := stepInit_connecting init step
      obtain ⟨stays, _, _⟩ := stepConnect_turn fits result
      have promised := stepConnect_promised fits
        (fun connected => by
          simpa [init, idle, Init.promising, Media.promising]
            using settled.connecting connected)
        (settled.unset resting streamer) result
      refine ⟨?_, ?_, ?_, ?_, ?_, ?_⟩
      · rw [List.count_append, settled.counted, Nat.add_comm]
        exact promised.counted
      · intro _
        cases after <;>
          simpa [stays.media, idle, Init.promising, Media.promising]
            using promised.promise
      · exact fun _ => promised.thread.trans (settled.starting (by simp [init]))
      · exact fun _ _ => promised.streamer.trans streamer
      · exact fun busy => absurd (stays.media.trans idle) busy
      · exact promised.idle settled resting rfl rfl rfl
          (stays.cleanup.trans resting)
  | createThread =>
      obtain ⟨idle, resting, _⟩ := placed.starting (by simp [init])
      have streamer := settled.created (by simp [init]) (by simp [init])
      have thread := settled.starting (by simp [init])
      have published := settled.connecting
      rw [init] at published
      simp only [stepInit, init] at step
      split at step <;> cases step
      · refine ⟨by simpa using settled.counted, published, ?_, ?_, ?_, ?_⟩
        · exact fun early => absurd rfl early
        · exact fun early => absurd rfl early
        · exact settled.framed
        · change Cleanup.Settles _ s.cleanup
          rw [resting]
          exact ⟨settled.unset resting, fun _ => streamer⟩
      · refine ⟨by simpa using settled.counted, published, ?_, ?_, ?_, ?_⟩
        · exact fun _ => thread
        · exact fun _ unfailed => absurd rfl unfailed
        · exact fun busy => absurd idle busy
        · change Cleanup.Settles _ s.cleanup
          rw [resting]
          refine ⟨by simp, ?_⟩
          intro created
          rw [show s.thread = true from created] at thread
          cases thread
  | ready | failed =>
      simp only [stepInit, init] at step
      cases step

theorem stepMedia_settled (placed : Placed s) (settled : Settled trace s)
    (step : stepMedia config s = some (s', events)) :
    Settled (trace ++ events) s' := by
  have busy : s.media ≠ .idle := by
    intro idle
    simp [stepMedia, idle] at step
  have resting : s.cleanup = .idle := placed.apart.resolve_left busy
  have ready : s.init = .ready := by
    by_contra early
    exact busy (placed.starting early).1
  have streamer := settled.framed busy
  have settles := settled.cleanup
  cases media : s.media with
  | idle => exact absurd media busy
  | looping frames =>
      cases frames with
      | nil =>
          simp only [stepMedia, media] at step
          cases step
          exact settled.quiet ⟨rfl, rfl, rfl, rfl, rfl⟩ ready ready
            (by rw [media]; rfl) (fun _ => .inr streamer)
            (settles.same rfl rfl rfl rfl)
      | cons frame frames =>
          simp only [stepMedia, media] at step
          split at step <;> cases step
          all_goals
            exact settled.quiet ⟨rfl, rfl, rfl, rfl, rfl⟩ ready ready
              (by rw [media]; rfl) (fun _ => .inr streamer)
              (settles.same rfl rfl rfl rfl)
  | connecting stage data frames =>
      have fits : stage.Fits s.connected := by
        simpa [media, Media.Fits] using placed.media
      obtain ⟨next, after, result, rfl⟩ := stepMedia_connecting media step
      obtain ⟨stays, _, _⟩ := stepConnect_turn fits result
      have promised := stepConnect_promised fits
        (fun connected => by
          simpa [ready, media, Init.promising, Media.promising]
            using settled.connecting connected)
        (settled.unset resting streamer) result
      have ready' : next.init = .ready := stays.init.trans ready
      refine ⟨?_, ?_, ?_, ?_, ?_, ?_⟩
      · rw [List.count_append, settled.counted, Nat.add_comm]
        exact promised.counted
      · intro _
        cases after <;>
          simpa [ready', Init.promising, Media.promising]
            using promised.promise
      · exact fun early => absurd ready' early
      · exact fun early => absurd ready' early
      · exact fun _ => promised.streamer.trans streamer
      · exact promised.idle settled resting rfl rfl rfl
          (stays.cleanup.trans resting)
  | writing stage data frames =>
      have fits : stage.Fits s.connected := by
        simpa [media, Media.Fits] using placed.media
      obtain ⟨next, after, result, rfl⟩ := stepMedia_writing media step
      obtain ⟨stays, _, _⟩ := stepWrite_turn fits result
      obtain ⟨same_streamer, thread, connected, promise, counted⟩ :=
        stepWrite_unpromised result
      refine settled.quiet ⟨same_streamer, thread, connected, promise, counted⟩
        ready (stays.init.trans ready) ?_ (fun _ => .inr streamer) ?_
      · cases after <;> rw [media] <;> rfl
      · change Cleanup.Settles _ next.cleanup
        rw [stays.cleanup]
        exact settles.same same_streamer thread connected promise

/-- The read thread sets no promise: it has seen the stream connected when it
comes to `writesDone()`. -/
theorem stepRead_unpromised {response : Option Bool}
    (fits : s.read.Fits s.connected)
    (step : stepRead config s response = some (s', events)) :
    Unpromised s s' events ∧ s'.init = s.init ∧ s'.media = s.media ∧
      s'.cleanup = s.cleanup ∧ s'.read.Fits s.connected := by
  cases read : s.read with
  | absent | exited => simp [stepRead, read] at step
  | waiting =>
      simp only [stepRead, read] at step
      split at step
      · split at step <;> rename_i connected <;> cases step
        · exact ⟨⟨rfl, rfl, rfl, rfl, rfl⟩, rfl, rfl, rfl, connected⟩
        · exact ⟨⟨rfl, rfl, rfl, rfl, rfl⟩, rfl, rfl, rfl, trivial⟩
      · cases step
  | doneTest =>
      rw [read] at fits
      have connected : s.connected = true := fits
      simp only [stepRead, read, connected, if_true] at step
      cases step
      exact ⟨⟨rfl, rfl, connected.symm, rfl, rfl⟩, rfl, rfl, rfl, fits⟩
  | reading | responding =>
      rw [read] at fits
      simp only [stepRead, read] at step
      split at step <;> cases step
      all_goals
        refine ⟨⟨rfl, rfl, rfl, rfl, rfl⟩, rfl, rfl, rfl, ?_⟩
        first
        | exact fits
        | split <;> exact fits
  | doneLock =>
      rw [read] at fits
      simp only [stepRead, read] at step
      split at step
      · cases step
      · split at step <;> cases step
        all_goals
          exact ⟨⟨rfl, rfl, rfl, rfl, by simp⟩, rfl, rfl, rfl, fits⟩
  | finishLock =>
      rw [read] at fits
      simp only [stepRead, read] at step
      split at step <;> cases step
      exact ⟨⟨rfl, rfl, rfl, rfl, by simp⟩, rfl, rfl, rfl, fits⟩
  | doneInside =>
      rw [read] at fits
      simp only [stepRead, read] at step
      cases step
      exact ⟨⟨rfl, rfl, rfl, rfl, by simp⟩, rfl, rfl, rfl, fits⟩
  | finishInside =>
      simp only [stepRead, read] at step
      cases step
      exact ⟨⟨rfl, rfl, rfl, rfl, by simp⟩, rfl, rfl, rfl, trivial⟩

theorem stepRead_settled {response : Option Bool} (placed : Placed s)
    (settled : Settled trace s)
    (step : stepRead config s response = some (s', events)) :
    Placed s' ∧ Settled (trace ++ events) s' := by
  have ready : s.init = .ready := by
    by_contra early
    simp [stepRead, (placed.starting early).2.2] at step
  obtain ⟨kept, init, media, cleanup, fits⟩ :=
    stepRead_unpromised placed.read step
  constructor
  · refine ⟨fun early => absurd (init.trans ready) early, ?_, ?_, ?_, ?_, ?_⟩
    · rw [media, cleanup]
      exact placed.apart
    · rw [init, kept.connected]
      exact placed.init
    · rw [media, kept.connected]
      exact placed.media
    · rw [kept.connected]
      exact fits
    · rw [cleanup, kept.connected]
      exact placed.cleanup
  · refine settled.quiet kept ready (init.trans ready) (by rw [media]) ?_ ?_
    · intro busy
      exact .inl (media ▸ busy)
    · rw [cleanup]
      exact settled.cleanup.same kept.streamer kept.thread kept.connected
        kept.promise

theorem stepReap_settled (placed : Placed s) (settled : Settled trace s)
    (step : stepReap s = some (s', events)) :
    Settled (trace ++ events) s' := by
  have busy : s.cleanup ≠ .idle := by
    intro idle
    simp [stepReap, idle] at step
  have idle : s.media = .idle := placed.apart.resolve_right busy
  have ready : s.init = .ready := by
    by_contra early
    exact busy (placed.starting early).2.1
  have set : s.connected = true → s.promise = true := by
    intro connected
    simpa [ready, idle, Init.promising, Media.promising]
      using settled.connecting connected
  have quiet : ∀ {next : State} {made : List Event}, Unpromised s next made →
      next.init = s.init → next.media = s.media →
      next.cleanup.Settles next → Settled (trace ++ made) next := by
    intro next made kept init media settles
    exact settled.quiet kept ready (init.trans ready) (by rw [media])
      (fun framed => .inl (media ▸ framed)) settles
  have settles := settled.cleanup
  cases cleanup : s.cleanup with
  | idle => exact absurd cleanup busy
  | load =>
      rw [cleanup] at settles
      simp only [stepReap, cleanup] at step
      split at step <;> rename_i streamer <;> cases step
      · exact quiet ⟨rfl, rfl, rfl, rfl, rfl⟩ rfl rfl
          ⟨streamer, settles.1 streamer⟩
      · refine quiet ⟨rfl, rfl, rfl, rfl, rfl⟩ rfl rfl ?_
        intro thread
        exact absurd (settles.2 thread) streamer
  | doneTest =>
      rw [cleanup] at settles
      simp only [stepReap, cleanup] at step
      split at step <;> rename_i connected <;> cases step
      · exact quiet ⟨rfl, rfl, rfl, rfl, rfl⟩ rfl rfl settles.1
      · have unconnected : s.connected = false := by simpa using connected
        exact quiet ⟨rfl, rfl, rfl, rfl, rfl⟩ rfl rfl
          ⟨settles.1, unconnected, settles.2 unconnected⟩
  | cancelConnect =>
      rw [cleanup] at settles
      obtain ⟨streamer, unconnected, unset⟩ := settles
      simp only [stepReap, cleanup] at step
      cases step
      refine ⟨?_, ?_, ?_, ?_, ?_, fun _ => rfl⟩
      · rw [List.count_append, settled.counted, unset]
        rfl
      · intro connected
        rw [show s.connected = true from connected] at unconnected
        cases unconnected
      · exact fun early => absurd ready early
      · exact fun early => absurd ready early
      · exact fun _ => streamer
  | doneLock =>
      rw [cleanup] at settles
      have connected : s.connected = true := by
        simpa [cleanup, Cleanup.Fits] using placed.cleanup
      simp only [stepReap, cleanup] at step
      split at step
      · cases step
      · split at step <;> cases step
        · exact quiet ⟨rfl, rfl, rfl, rfl, rfl⟩ rfl rfl
            fun _ => set connected
        · exact quiet ⟨rfl, rfl, rfl, rfl, by simp⟩ rfl rfl settles
  | doneInside =>
      have connected : s.connected = true := by
        simpa [cleanup, Cleanup.Fits] using placed.cleanup
      simp only [stepReap, cleanup] at step
      cases step
      exact quiet ⟨rfl, rfl, rfl, rfl, by simp⟩ rfl rfl fun _ => set connected
  | join =>
      have joined : ∀ thread, thread = false → Settled (trace ++ [])
          { s with thread := thread, cleanup := .delete } := by
        rintro thread rfl
        exact ⟨by simpa using settled.counted, settled.connecting,
          fun _ => rfl, settled.created, settled.framed, rfl⟩
      simp only [stepReap, cleanup] at step
      split at step
      · split at step <;> cases step
        exact joined false rfl
      · rename_i unthreaded
        cases step
        exact joined s.thread (by simpa using unthreaded)
  | delete =>
      rw [cleanup] at settles
      have thread : s.thread = false := settles
      have deleted : ∀ made streamer, made.count .promised = 0 →
          streamer = false → Settled (trace ++ made)
            { s with streamer := streamer, cleanup := .idle } := by
        rintro made streamer none rfl
        refine ⟨?_, settled.connecting, settled.starting, ?_, ?_, (by simp), ?_⟩
        · rw [List.count_append, none]
          exact settled.counted
        · exact fun early => absurd ready early
        · exact fun framed => absurd idle framed
        · intro threaded
          rw [show s.thread = true from threaded] at thread
          cases thread
      simp only [stepReap, cleanup] at step
      split at step
      · cases step
        exact deleted _ false (by simp) rfl
      · rename_i streamer
        cases step
        exact deleted _ s.streamer rfl (by simpa using streamer)

theorem step_settled {act : Act} (placed : Placed s)
    (settled : Settled trace s)
    (taken : step config s act = some (s', events)) :
    Placed s' ∧ Settled (trace ++ events) s' := by
  cases act with
  | init ok =>
      exact ⟨(stepInit_taken placed taken).2,
        stepInit_settled placed settled taken⟩
  | frame frames =>
      refine ⟨(step_taken placed rfl taken).2, ?_⟩
      simp only [step, stepFrame] at taken
      split at taken
      · rename_i called
        obtain ⟨ready, idle⟩ := called
        split at taken <;> rename_i free <;> cases taken
        · exact settled.quiet ⟨rfl, rfl, rfl, rfl, rfl⟩ ready ready
            (by rw [idle]; rfl) (fun _ => .inr free.1)
            (settled.cleanup.same rfl rfl rfl rfl)
        · rw [List.append_nil]
          exact settled
      · cases taken
  | media =>
      exact ⟨(stepMedia_taken placed taken).2,
        stepMedia_settled placed settled taken⟩
  | cleanup =>
      refine ⟨(step_taken placed rfl taken).2, ?_⟩
      simp only [step] at taken
      split at taken <;> cases taken
      rename_i called
      obtain ⟨ready, idle, free⟩ := called
      have settles := settled.cleanup
      rw [free] at settles
      exact settled.quiet ⟨rfl, rfl, rfl, rfl, rfl⟩ ready ready rfl .inl
        settles
  | reap =>
      exact ⟨(stepReap_taken placed taken).2,
        stepReap_settled placed settled taken⟩
  | read response => exact stepRead_settled placed settled taken

end Threads

theorem settled_fresh (config : Config) : Settled [] (.fresh config) := by
  cases vad : config.vad
  all_goals
    simp only [State.fresh, vad]
    exact ⟨rfl, (by simp), fun _ => rfl, fun _ _ => rfl, fun _ => rfl,
      fun _ _ => rfl, by simp⟩

/-- Whoever is about to set the promise is the only one, and the first. -/
theorem Settled.setting {trace : List Event} {s : State}
    (settled : Settled trace s) (placed : Placed s)
    (setting : s.setting = true) : s.promise = false := by
  have settles := settled.cleanup
  simp only [State.setting, Bool.or_eq_true] at setting
  rcases setting with ((init | media) | read) | cleanup
  · have connected : s.connected = true := by
      have fits := placed.init
      cases stands : s.init with
      | connecting stage =>
          rw [stands] at init fits
          cases stage <;> first | exact fits | cases init
      | createThread | ready | failed =>
          rw [stands] at init
          cases init
    rw [settled.connecting connected, init]
    rfl
  · have connected : s.connected = true := by
      have fits := placed.media
      cases stands : s.media with
      | connecting stage data frames =>
          rw [stands] at media fits
          cases stage <;> first | exact fits | cases media
      | idle | looping | writing =>
          rw [stands] at media
          cases media
    rw [settled.connecting connected, media, Bool.or_true]
    rfl
  · simp only [Bool.and_eq_true, beq_iff_eq, Bool.not_eq_true'] at read
    have connected := placed.read
    rw [read.1, read.2] at connected
    cases connected
  · rw [beq_iff_eq] at cleanup
    rw [cleanup] at settles
    exact settles.2.2

theorem PromiseKept.of {config : Config} {trace : List Event} {s : State}
    (placed : Placed s) (settled : Settled trace s) :
    PromiseKept config trace s := by
  have joined : s.cleanup = .join → s.thread = true → s.promise = true := by
    intro joining
    have settles := settled.cleanup
    rw [joining] at settles
    exact settles
  refine ⟨?_, settled.setting placed, joined, ?_⟩
  · rw [settled.counted]
    exact Bool.toNat_le s.promise
  · intro joining thread waiting
    simp only [stepRead, waiting, joined joining thread, if_true]
    split
    · exact ⟨_, rfl, by simp⟩
    · exact ⟨_, rfl, by simp⟩

/-- In every interleaving of the frames, the reaps and the read thread the
promise is set once at most, and it is set where the read thread is joined. -/
theorem promise_kept {config : Config} {labels : List Act}
    {trace : List Event} {finish : State}
    (run : (machine config).Run anyStep (machine config).initial labels
      trace finish) : PromiseKept config trace finish := by
  have kept : Placed finish ∧ Settled trace finish := by
    refine run.induct (fun trace s => Placed s ∧ Settled trace s) ?_ ?_
    · exact ⟨State.fresh_placed config, settled_fresh config⟩
    · intro trace s act s' events ⟨placed, settled⟩ _ taken
      exact step_settled placed settled taken
  exact .of kept.1 kept.2

/-- The session is stopped before the VAD has heard anyone speak; the read
thread waits for the promise still. -/
theorem promise_kept_of_silence :
    ∃ labels trace finish,
      (machine ⟨true, false, 2⟩).Run anyStep
          (machine ⟨true, false, 2⟩).initial labels trace finish ∧
        finish.cleanup = .join ∧ finish.read = .waiting ∧
        PromiseKept ⟨true, false, 2⟩ trace finish := by
  let labels : List Act :=
    [.init true, .frame [⟨[1], false⟩], .media, .media, .media, .cleanup,
      .reap, .reap, .reap]
  have executed : ((machine ⟨true, false, 2⟩).exec anyStep
      (machine ⟨true, false, 2⟩).initial labels).map (fun outcome =>
        decide (outcome.1.cleanup = .join ∧ outcome.1.read = .waiting)) =
      some true := by
    decide
  obtain ⟨finish, trace, run, stands⟩ := Machine.exists_run_of_exec _ executed
  obtain ⟨join, waiting⟩ := of_decide_eq_true stands
  exact ⟨labels, trace, finish, run, join, waiting, promise_kept run⟩

end DrachtioModules.Google

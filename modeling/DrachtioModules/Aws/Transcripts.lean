import DrachtioModules.Aws.Steps

/-!
# Transcripts between the SDK and the worker

The TranscriptEvent callback stores its event in `m_transcript`; the worker
takes it from there and delivers it with `m_mutex` released.  The slot holds
one event: a second one that arrives before the worker has taken the first
overwrites it, and one that arrives while the worker delivers its last one is
never taken.
-/

namespace DrachtioModules.Aws

variable {τ : Type}

/-- The transcripts stored before `processData` returns, in arrival order. -/
def storedBefore : List (Event τ) → List τ
  | [] => []
  | event :: rest =>
      match event with
      | .returned => []
      | .stored transcript => transcript :: storedBefore rest
      | _ => storedBefore rest

def Event.deliveredTranscript : Event τ → Option τ
  | .delivered transcript => some transcript
  | _ => none

/-- The transcripts passed to `deliverTranscript`, in order. -/
def delivered (trace : List (Event τ)) : List τ :=
  trace.filterMap Event.deliveredTranscript

/-- The worker will not look at `m_transcript` any more. -/
def Worker.leaving : Worker τ → Bool
  | .delivering _ final | .relocking final => final
  | .returned => true
  | _ => false

def Worker.done : Worker τ → Bool
  | .returned => true
  | _ => false

/-- A callback that runs before `processData` has returned finds no event in the
slot and a worker that will look at the slot again. -/
def storesSafely (s : State τ) : Act τ → Bool
  | .onTranscriptEvent _ =>
      s.worker.done || s.transcript.isNone && !s.worker.leaving
  | _ => true

@[simp] theorem delivered_append (trace events : List (Event τ)) :
    delivered (trace ++ events) = delivered trace ++ delivered events :=
  List.filterMap_append

def Event.stores : Event τ → Bool
  | .stored _ => true
  | _ => false

/-- Events that store nothing do not change what was stored. -/
theorem storedBefore_quiet {trace events : List (Event τ)}
    (quiet : ∀ event ∈ events, event.stores = false) :
    storedBefore (trace ++ events) = storedBefore trace := by
  induction trace with
  | nil =>
      induction events with
      | nil => rfl
      | cons event rest ih =>
          have rest_quiet : ∀ later ∈ rest, later.stores = false := by
            intro later member
            exact quiet later (List.mem_cons_of_mem event member)
          have here := quiet event List.mem_cons_self
          cases event with
          | stored transcript => cases here
          | returned => rfl
          | _ => exact ih rest_quiet
  | cons event rest ih =>
      cases event with
      | stored transcript =>
          simp only [List.cons_append, storedBefore]
          rw [ih]
      | returned => rfl
      | _ => exact ih

theorem storedBefore_stored {trace : List (Event τ)} {transcript : τ}
    (running : .returned ∉ trace) :
    storedBefore (trace ++ [.stored transcript]) =
      storedBefore trace ++ [transcript] := by
  induction trace with
  | nil => rfl
  | cons event rest ih =>
      have later : Event.returned ∉ rest := by
        intro member
        exact running (List.mem_cons_of_mem event member)
      cases event with
      | stored other =>
          simp only [List.cons_append, storedBefore]
          rw [ih later]
      | returned => exact (running List.mem_cons_self).elim
      | _ => exact ih later

theorem storedBefore_returned {trace events : List (Event τ)}
    (returned : .returned ∈ trace) :
    storedBefore (trace ++ events) = storedBefore trace := by
  induction trace with
  | nil => cases returned
  | cons event rest ih =>
      cases event with
      | returned => rfl
      | stored transcript =>
          have later : Event.returned ∈ rest := by simpa using returned
          simp only [List.cons_append, storedBefore]
          rw [ih later]
      | _ =>
          have later : Event.returned ∈ rest := by simpa using returned
          exact ih later

def Worker.inFlight : Worker τ → List τ
  | .delivering transcript _ => [transcript]
  | _ => []

/-- The event the worker is delivering, and the one it is going to take. -/
def pending (s : State τ) : List τ :=
  s.worker.inFlight ++ if s.worker.leaving then [] else s.transcript.toList

/-- A step other than a TranscriptEvent callback. -/
structure Quiet (s s' : State τ) (events : List (Event τ)) : Prop where
  pending : delivered events ++ pending s' = pending s
  stores : ∀ event ∈ events, event.stores = false
  returned : s'.worker.done = true ↔
    s.worker.done = true ∨ .returned ∈ events
  unconnected : s'.connecting = false →
    s.connecting = false ∧ (s.transcript = none → s'.transcript = none)

theorem Quiet.outside {s s' : State τ} {events : List (Event τ)}
    (worker : s'.worker = s.worker) (transcript : s'.transcript = s.transcript)
    (connecting : s'.connecting = false → s.connecting = false)
    (silent : delivered events = [])
    (stores : ∀ event ∈ events, event.stores = false)
    (running : .returned ∉ events) : Quiet s s' events := by
  constructor
  · unfold Aws.pending
    rw [silent, worker, transcript]
    rfl
  · exact stores
  · rw [worker]
    simp [running]
  · intro unconnected
    rw [transcript]
    exact ⟨connecting unconnected, id⟩

theorem stepMedia_quiet {config : Config} {s s' : State τ}
    {events : List (Event τ)}
    (step : stepMedia config s = some (s', events)) : Quiet s s' events := by
  obtain ⟨_, _, taken⟩ := stepMedia_cases step
  cases taken with
  | stage =>
      rw [stage_same]
      exact Quiet.outside rfl rfl id rfl (by simp [Event.stores]) (by simp)
  | direct | stages | late | push =>
      exact Quiet.outside rfl rfl id rfl (by simp [Event.stores]) (by simp)

theorem stepStreamReady_quiet {s s' : State τ} {events : List (Event τ)}
    (step : stepStreamReady s = some (s', events)) : Quiet s s' events := by
  obtain ⟨_, _, taken⟩ := stepStreamReady_cases step
  cases taken <;>
    exact Quiet.outside rfl rfl id rfl (by simp [Event.stores]) (by simp)

theorem Quiet.move {s s' : State τ} {events : List (Event τ)}
    (worker : s'.worker.inFlight = s.worker.inFlight)
    (leaving : s'.worker.leaving = s.worker.leaving)
    (transcript : s'.transcript = s.transcript)
    (connecting : s'.connecting = s.connecting)
    (silent : delivered events = [])
    (stores : ∀ event ∈ events, event.stores = false)
    (returned : s'.worker.done = true ↔
      s.worker.done = true ∨ .returned ∈ events) : Quiet s s' events := by
  constructor
  · unfold Aws.pending
    rw [silent, worker, leaving, transcript]
    rfl
  · exact stores
  · exact returned
  · rw [connecting, transcript]
    exact fun unconnected => ⟨unconnected, id⟩

theorem stepWorker_quiet {s s' : State τ} {events : List (Event τ)}
    (unconnected : s.connecting = false → s.transcript = none)
    (step : stepWorker s = some (s', events)) : Quiet s s' events := by
  obtain ⟨_, stage, taken⟩ := stepWorker_cases step
  cases taken with
  -- the slot is emptied, or was empty
  | takeFinal _ slot | finish _ slot | take _ slot =>
      constructor <;> simp [pending, stage, slot, Worker.inFlight,
        Worker.leaving, Worker.done, delivered, Event.deliveredTranscript,
        Event.stores]
  | abandon _ idle =>
      have empty := unconnected idle.2
      constructor <;> simp [pending, stage, empty, Worker.inFlight,
        Worker.leaving, Worker.done, delivered, Event.deliveredTranscript,
        Event.stores]
  | @deliver transcript final =>
      cases final <;> constructor <;>
        simp [pending, stage, Worker.inFlight, Worker.leaving, Worker.done,
          delivered, Event.deliveredTranscript, Event.stores]
  | _ =>
      apply Quiet.move <;> simp [stage, Worker.inFlight, Worker.leaving,
        Worker.done, delivered, Event.deliveredTranscript, Event.stores]

theorem stepTimeout_quiet {s s' : State τ} {events : List (Event τ)}
    (step : stepTimeout s = some (s', events)) : Quiet s s' events := by
  obtain ⟨stage, _, _, rfl, rfl | rfl⟩ := stepTimeout_cases step <;>
    apply Quiet.move <;>
    simp [stage, Worker.inFlight, Worker.leaving, Worker.done, delivered,
      Event.deliveredTranscript, Event.stores]

theorem step_quiet {config : Config} {s s' : State τ} {act : Act τ}
    {events : List (Event τ)}
    (outside : ∀ transcript, act ≠ .onTranscriptEvent transcript)
    (unconnected : s.connecting = false → s.transcript = none)
    (step : (machine τ config).step s act = some (s', events)) :
    Quiet s s' events := by
  cases act with
  | connect =>
      cases call_cases rfl step with
      | again => exact Quiet.outside rfl rfl id rfl (by simp) (by simp)
      | request =>
          exact Quiet.outside rfl rfl (by simp) rfl (by simp [Event.stores])
            (by simp)
  | media => exact stepMedia_quiet step
  | write | finish | onStreamReady | onResponse =>
      cases call_cases rfl step <;>
        exact Quiet.outside rfl rfl id rfl (by simp [Event.stores]) (by simp)
  | streamReady => exact stepStreamReady_quiet step
  | onTranscriptEvent transcript => exact (outside transcript rfl).elim
  | worker => exact stepWorker_quiet unconnected step
  | timeout => exact stepTimeout_quiet step

/-- Facts about every run. -/
structure Slot (trace : List (Event τ)) (s : State τ) : Prop where
  unconnected : s.connecting = false → s.transcript = none
  returned : s.worker.done = true ↔ .returned ∈ trace

theorem slot_fresh {config : Config} : Slot [] (State.fresh τ config) := by
  constructor <;> simp [State.fresh, Worker.done]

theorem Slot.quiet {trace events : List (Event τ)} {s s' : State τ}
    (slot : Slot trace s) (quiet : Quiet s s' events) :
    Slot (trace ++ events) s' := by
  constructor
  · intro unconnected
    obtain ⟨before, empty⟩ := quiet.unconnected unconnected
    exact empty (slot.unconnected before)
  · rw [quiet.returned, slot.returned, List.mem_append]

/-- What a TranscriptEvent callback does. -/
theorem step_stores {config : Config} {s s' : State τ} {transcript : τ}
    {events : List (Event τ)}
    (step : (machine τ config).step s (.onTranscriptEvent transcript) =
      some (s', events)) :
    s.connecting = true ∧ s' = { s with transcript := some transcript } ∧
      events = [.stored transcript] := by
  cases call_cases rfl step with
  | store connecting => exact ⟨connecting, rfl, rfl⟩

theorem Slot.store {trace : List (Event τ)} {s : State τ} {transcript : τ}
    (slot : Slot trace s) (connecting : s.connecting = true) :
    Slot (trace ++ [.stored transcript])
      { s with transcript := some transcript } := by
  constructor
  · intro unconnected
    rw [connecting] at unconnected
    cases unconnected
  · rw [slot.returned]
    simp

theorem Slot.step {config : Config} {trace events : List (Event τ)}
    {s s' : State τ} {act : Act τ} (slot : Slot trace s)
    (step : (machine τ config).step s act = some (s', events)) :
    Slot (trace ++ events) s' := by
  cases act with
  | onTranscriptEvent transcript =>
      obtain ⟨connecting, rfl, rfl⟩ := step_stores step
      exact slot.store connecting
  | _ =>
      apply slot.quiet
      exact step_quiet (by simp) slot.unconnected step

/-- Nothing has been lost. -/
def Complete (trace : List (Event τ)) (s : State τ) : Prop :=
  storedBefore trace = delivered trace ++ pending s

/-- Fewer transcripts are delivered or to come than were stored. -/
def Short (trace : List (Event τ)) (s : State τ) : Prop :=
  (delivered trace).length + (pending s).length < (storedBefore trace).length

theorem Complete.quiet {trace events : List (Event τ)} {s s' : State τ}
    (complete : Complete trace s) (quiet : Quiet s s' events) :
    Complete (trace ++ events) s' := by
  unfold Complete
  rw [storedBefore_quiet quiet.stores, complete, delivered_append,
    List.append_assoc, quiet.pending]

theorem Short.quiet {trace events : List (Event τ)} {s s' : State τ}
    (short : Short trace s) (quiet : Quiet s s' events) :
    Short (trace ++ events) s' := by
  have same : (delivered events).length + (pending s').length =
      (pending s).length := by
    rw [← List.length_append, quiet.pending]
  unfold Short at short ⊢
  rw [storedBefore_quiet quiet.stores, delivered_append, List.length_append]
  omega

theorem pending_done {s : State τ} (done : s.worker.done = true) :
    pending s = [] := by
  unfold pending
  cases stage : s.worker with
  | returned => rfl
  | _ => simp [stage, Worker.done] at done

theorem Complete.store {trace : List (Event τ)} {s : State τ} {transcript : τ}
    (complete : Complete trace s) (slot : Slot trace s)
    (safe : storesSafely s (.onTranscriptEvent transcript) = true) :
    Complete (trace ++ [.stored transcript])
      { s with transcript := some transcript } := by
  unfold Complete at complete ⊢
  have silent : delivered [Event.stored transcript] = [] := rfl
  rw [delivered_append, silent, List.append_nil]
  by_cases done : s.worker.done = true
  · have after : pending { s with transcript := some transcript } = [] :=
      pending_done done
    rw [storedBefore_returned (slot.returned.mp done), after, complete,
      pending_done done]
  · have running : Event.returned ∉ trace := by
      intro returned
      exact done (slot.returned.mpr returned)
    simp only [Bool.not_eq_true] at done
    simp only [storesSafely, done, Bool.false_or, Bool.and_eq_true,
      Option.isNone_iff_eq_none, Bool.not_eq_true'] at safe
    obtain ⟨empty, staying⟩ := safe
    rw [storedBefore_stored running, complete, List.append_assoc]
    simp [pending, staying, empty]

theorem short_of_unsafe {trace : List (Event τ)} {s : State τ} {transcript : τ}
    (slot : Slot trace s) (complete : Complete trace s)
    (careless : storesSafely s (.onTranscriptEvent transcript) = false) :
    Short (trace ++ [.stored transcript])
      { s with transcript := some transcript } := by
  simp only [storesSafely, Bool.or_eq_false_iff] at careless
  obtain ⟨running, careless⟩ := careless
  have unreturned : Event.returned ∉ trace := by
    intro returned
    rw [slot.returned.mpr returned] at running
    cases running
  have kept : (pending { s with transcript := some transcript }).length =
      (pending s).length := by
    unfold pending
    by_cases leaving : s.worker.leaving = true
    · simp [leaving]
    · simp only [Bool.not_eq_true] at leaving
      simp only [leaving, Bool.not_false, Bool.and_true] at careless
      cases before : s.transcript with
      | none => simp [before] at careless
      | some other => simp [leaving]
  have silent : delivered [Event.stored transcript] = [] := rfl
  unfold Short
  rw [storedBefore_stored unreturned, complete, delivered_append, silent, kept]
  simp

theorem Short.store {trace : List (Event τ)} {s : State τ} {transcript : τ}
    (short : Short trace s) (slot : Slot trace s) :
    Short (trace ++ [.stored transcript])
      { s with transcript := some transcript } := by
  have silent : delivered [Event.stored transcript] = [] := rfl
  unfold Short at short ⊢
  rw [delivered_append, silent, List.append_nil]
  by_cases done : s.worker.done = true
  · have after : pending { s with transcript := some transcript } = [] :=
      pending_done done
    rw [storedBefore_returned (slot.returned.mp done), after]
    rw [pending_done done] at short
    exact short
  · have running : Event.returned ∉ trace := by
      intro returned
      exact done (slot.returned.mpr returned)
    have kept : (pending { s with transcript := some transcript }).length ≤
        (pending s).length + 1 := by
      unfold pending
      split <;> simp
    rw [storedBefore_stored running, List.length_append, List.length_singleton]
    omega

theorem Complete.step {config : Config} {trace events : List (Event τ)}
    {s s' : State τ} {act : Act τ} (complete : Complete trace s)
    (slot : Slot trace s) (safe : storesSafely s act = true)
    (step : (machine τ config).step s act = some (s', events)) :
    Complete (trace ++ events) s' := by
  cases act with
  | onTranscriptEvent transcript =>
      obtain ⟨_, rfl, rfl⟩ := step_stores step
      exact complete.store slot safe
  | _ =>
      apply complete.quiet
      exact step_quiet (by simp) slot.unconnected step

theorem Complete.shorten {config : Config} {trace events : List (Event τ)}
    {s s' : State τ} {act : Act τ} (complete : Complete trace s)
    (slot : Slot trace s) (careless : storesSafely s act = false)
    (step : (machine τ config).step s act = some (s', events)) :
    Short (trace ++ events) s' := by
  cases act with
  | onTranscriptEvent transcript =>
      obtain ⟨_, rfl, rfl⟩ := step_stores step
      exact short_of_unsafe slot complete careless
  | _ => cases careless

theorem Short.step {config : Config} {trace events : List (Event τ)}
    {s s' : State τ} {act : Act τ} (short : Short trace s) (slot : Slot trace s)
    (step : (machine τ config).step s act = some (s', events)) :
    Short (trace ++ events) s' := by
  cases act with
  | onTranscriptEvent transcript =>
      obtain ⟨_, rfl, rfl⟩ := step_stores step
      exact short.store slot
  | _ =>
      apply short.quiet
      exact step_quiet (by simp) slot.unconnected step

/-- A run is complete as long as every callback meets the condition, and short
for ever after one that does not. -/
theorem complete_or_short {config : Config} {labels : List (Act τ)}
    {trace : List (Event τ)} {s : State τ}
    (run : (machine τ config).Run anyStep (machine τ config).initial labels
      trace s) :
    Slot trace s ∧
      ((machine τ config).Run storesSafely (machine τ config).initial labels
          trace s ∧ Complete trace s ∨ Short trace s) := by
  induction run with
  | nil => exact ⟨slot_fresh, .inl ⟨.nil, rfl⟩⟩
  | @snoc labels trace events state next label _ _ step ih =>
      obtain ⟨slot, status⟩ := ih
      refine ⟨slot.step step, ?_⟩
      rcases status with ⟨run, complete⟩ | short
      · by_cases safe : storesSafely state label = true
        · left
          exact ⟨run.snoc safe step, complete.step slot safe step⟩
        · right
          apply complete.shorten slot _ step
          simpa using safe
      · right
        exact short.step slot step

theorem complete_of_safe {config : Config} {labels : List (Act τ)}
    {trace : List (Event τ)} {s : State τ}
    (run : (machine τ config).Run storesSafely (machine τ config).initial labels
      trace s) : Slot trace s ∧ Complete trace s := by
  induction run with
  | nil => exact ⟨slot_fresh, rfl⟩
  | snoc _ safe step ih =>
      obtain ⟨slot, complete⟩ := ih
      exact ⟨slot.step step, complete.step slot safe step⟩

/-- When `processData` has returned, each stored transcript was delivered once
and in arrival order if and only if every callback met the condition. -/
theorem transcripts_delivered_iff (config : Config) {labels : List (Act τ)}
    {trace : List (Event τ)} {s : State τ}
    (run : (machine τ config).Run anyStep (machine τ config).initial labels
      trace s) (returned : .returned ∈ trace) :
    delivered trace = storedBefore trace ↔
      (machine τ config).Run storesSafely (machine τ config).initial labels
        trace s := by
  constructor
  · intro exact'
    obtain ⟨_, safe | short⟩ := complete_or_short run
    · exact safe.1
    · unfold Short at short
      rw [exact'] at short
      omega
  · intro safe
    obtain ⟨slot, complete⟩ := complete_of_safe safe
    unfold Complete at complete
    rw [pending_done (slot.returned.mpr returned), List.append_nil] at complete
    exact complete.symm

/-- The stream becomes ready and the worker writes a frame. -/
def streamsFrame : List (Act Nat) :=
  [.connect, .onStreamReady true] ++ List.replicate 5 .streamReady ++
    [.write [1], .media, .media, .worker, .worker, .worker]

theorem transcripts_delivered_iff_of_one :
    ∃ labels trace s,
      (machine Nat ⟨500, 320⟩).Run anyStep (.fresh Nat ⟨500, 320⟩) labels trace
        s ∧
      delivered trace = [7] ∧
      (delivered trace = storedBefore trace ↔
        (machine Nat ⟨500, 320⟩).Run storesSafely (.fresh Nat ⟨500, 320⟩) labels
          trace s) := by
  let labels : List (Act Nat) :=
    streamsFrame ++ [Act.onTranscriptEvent 7, .onResponse] ++
      List.replicate 6 Act.worker
  have executed : ((machine Nat ⟨500, 320⟩).exec anyStep (.fresh Nat ⟨500, 320⟩)
      labels).map (fun outcome => decide (Event.returned ∈ outcome.2) &&
        decide (delivered outcome.2 = [7])) = some true := by
    decide
  obtain ⟨s, trace, run, both⟩ := Machine.exists_run_of_exec _ executed
  obtain ⟨returned, once⟩ := Bool.and_eq_true_iff.mp both
  exact ⟨labels, trace, s, run, by simpa using once,
    transcripts_delivered_iff ⟨500, 320⟩ run (by simpa using returned)⟩

/-- Two transcripts arrive while the worker writes audio; the second overwrites
the first. -/
theorem transcript_overwritten :
    ¬ ∀ (config : Config) (labels : List (Act Nat)) (trace : List (Event Nat))
      (s : State Nat),
      (machine Nat config).Run anyStep (machine Nat config).initial labels trace
        s → .returned ∈ trace → delivered trace = storedBefore trace := by
  intro always
  let labels : List (Act Nat) :=
    streamsFrame ++
      [Act.onTranscriptEvent 7, .onTranscriptEvent 8, .onResponse] ++
      List.replicate 6 Act.worker
  have executed : ((machine Nat ⟨500, 320⟩).exec anyStep (.fresh Nat ⟨500, 320⟩)
      labels).map (fun outcome => decide (Event.returned ∈ outcome.2) &&
        decide (delivered outcome.2 = [8] ∧ storedBefore outcome.2 = [7, 8])) =
          some true := by
    decide
  obtain ⟨s, trace, run, both⟩ := Machine.exists_run_of_exec _ executed
  obtain ⟨returned, lists⟩ := Bool.and_eq_true_iff.mp both
  have same := always ⟨500, 320⟩ labels trace s run (by simpa using returned)
  obtain ⟨passed, stored⟩ := of_decide_eq_true lists
  rw [passed, stored] at same
  cases same

end DrachtioModules.Aws

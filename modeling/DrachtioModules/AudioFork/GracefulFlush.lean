import DrachtioModules.AudioFork.Steps

/-!
# The flush of a graceful shutdown

`do_graceful_shutdown()` asks the service thread to send a zero-length binary
frame once nothing else is pending.  On a pipe that is not yet CONNECTED it
records the request in `m_gracefulShutdown`; on a CONNECTED pipe it only queues
a write and leaves the flag as it is.  The request is kept in every run in
which each call finds the pipe not yet CONNECTED or the flag already set.
-/

namespace DrachtioModules.AudioFork

/-- What a far end waiting for end-of-audio can tell from a run.  A flush is
`owed` while a `do_graceful_shutdown()` has returned and no zero-length frame
was sent since; `entered` holds that value at the start of the present
WRITEABLE callback; a flush is `missed` when such a callback ends without text,
audio or flush although one was owed all along. -/
structure FlushWatch where
  owed : Bool
  entered : Bool
  missed : Bool
  deriving DecidableEq, Repr

def FlushWatch.see (watch : FlushWatch) : Event → FlushWatch
  | .returned .doGracefulShutdown => { watch with owed := true }
  | .sent (.binary []) => { watch with owed := false }
  | .writeableEntered => { watch with entered := watch.owed }
  | .writeableReturned .drained =>
      { watch with missed := watch.missed || (watch.entered && watch.owed) }
  | _ => watch

def flushWatch : Machine.Observer Event FlushWatch :=
  { start := ⟨false, false, false⟩
    see := FlushWatch.see }

/-- A call of `do_graceful_shutdown()` reads `m_state` first: it must not find
CONNECTED while `m_gracefulShutdown` is unset. -/
def recordsFlush (s : State) : Act → Bool
  | .advance thread =>
      match s.calls thread with
      | some ⟨_, .gracefulCheck⟩ =>
          s.pipe.state != .connected || s.pipe.gracefulShutdown
      | _ => true
  | _ => true

theorem stepCode_quiet {config : Config} {pipe next : Pipe} {code : Code}
    {rest : Option Code} {events : List Event}
    (step : stepCode config pipe code = some (next, rest, events))
    (watch : FlushWatch) : events.foldl FlushWatch.see watch = watch := by
  rcases stepCode_events step with rfl | ⟨text, rfl⟩ <;> rfl

/-- A `do_graceful_shutdown()` that has passed its first two steps has left the
flag set. -/
def FlagRecorded (pipe : Pipe) (code : Code) : Prop :=
  code = .gracefulCheck ∨ code = .gracefulRecord ∨ pipe.gracefulShutdown = true

theorem FlagRecorded.advance {config : Config} {pipe next : Pipe} {code : Code}
    {rest : Option Code} {events : List Event}
    (recorded : FlagRecorded pipe code)
    (guarded : code = .gracefulCheck → pipe.state = .connected →
      pipe.gracefulShutdown = true)
    (step : stepCode config pipe code = some (next, rest, events)) :
    (∀ code', rest = some code' → FlagRecorded next code') ∧
      (rest = none → next.gracefulShutdown = true) := by
  rcases recorded with rfl | rfl | flag
  · cases stepCode_cases step with
    | gracefulQueues connected =>
        have flag := guarded rfl connected
        exact ⟨fun _ _ => .inr (.inr flag), fun _ => flag⟩
    | gracefulRecords =>
        constructor
        · intro code' following
          cases following
          exact .inr (.inl rfl)
        · intro absent
          cases absent
  · cases stepCode_cases step
    exact ⟨fun _ _ => .inr (.inr rfl), fun _ => rfl⟩
  · have kept := (stepCode_effect step).flag flag
    exact ⟨fun _ _ => .inr (.inr kept), fun _ => kept⟩

/-- A WRITEABLE callback in progress that can still end without a flush. -/
def Service.mayDrain : Service → Bool
  | .writeableFlag | .writeableText | .writeableState | .writeableAudio => true
  | _ => false

structure FlushRecorded (watch : FlushWatch) (s : State) : Prop where
  owed : watch.owed = true → s.pipe.gracefulShutdown = true
  calls : ∀ thread call, s.calls thread = some call →
    call.op = .doGracefulShutdown → FlagRecorded s.pipe call.code
  atFlag : s.service = .writeableFlag → watch.entered = true →
    s.pipe.gracefulShutdown = true
  pastFlag : s.service = .writeableText ∨ s.service = .writeableState ∨
    s.service = .writeableAudio → watch.entered = false
  missed : watch.missed = false

theorem flushRecorded_fresh : FlushRecorded flushWatch.start .fresh := by
  constructor
  · intro owed
    cases owed
  · intro thread call present
    cases present
  · intro service
    cases service
  · intro service
    rfl
  · rfl

/-- The calls of other threads stay recorded while the flag is only ever set. -/
theorem FlushRecorded.callsKept {watch : FlushWatch} {s : State} {pipe : Pipe}
    (holds : FlushRecorded watch s)
    (flag : s.pipe.gracefulShutdown = true → pipe.gracefulShutdown = true)
    {thread : Nat} {call : Call} (present : s.calls thread = some call)
    (graceful : call.op = .doGracefulShutdown) : FlagRecorded pipe call.code := by
  rcases holds.calls thread call present graceful with check | record | set
  · exact .inl check
  · exact .inr (.inl record)
  · exact .inr (.inr (flag set))

theorem FlushRecorded.outside {watch watch' : FlushWatch} {s s' : State}
    (holds : FlushRecorded watch s)
    (calls : s'.calls = s.calls)
    (flag : s.pipe.gracefulShutdown = true → s'.pipe.gracefulShutdown = true)
    (owed : watch'.owed = true → watch.owed = true)
    (missed : watch'.missed = false)
    (outside : s'.service.mayDrain = false) :
    FlushRecorded watch' s' := by
  constructor
  · intro flush
    exact flag (holds.owed (owed flush))
  · intro thread call present graceful
    rw [calls] at present
    exact holds.callsKept flag present graceful
  · intro here
    rw [here] at outside
    cases outside
  · rintro (here | here | here) <;> rw [here] at outside <;> cases outside
  · exact missed

/-- A step of a caller leaves the service thread where it is; only a returning
`do_graceful_shutdown()` makes a flush owed. -/
theorem FlushRecorded.caller {watch watch' : FlushWatch} {s s' : State}
    (holds : FlushRecorded watch s)
    (service : s'.service = s.service)
    (flag : s.pipe.gracefulShutdown = true → s'.pipe.gracefulShutdown = true)
    (owed : watch'.owed = true → watch.owed = true ∨
      s'.pipe.gracefulShutdown = true)
    (entered : watch'.entered = watch.entered)
    (missed : watch'.missed = watch.missed)
    (calls : ∀ thread call, s'.calls thread = some call →
      call.op = .doGracefulShutdown → FlagRecorded s'.pipe call.code) :
    FlushRecorded watch' s' := by
  constructor
  · intro flush
    rcases owed flush with before | now
    · exact flag (holds.owed before)
    · exact now
  · exact calls
  · intro here inside
    rw [service] at here
    rw [entered] at inside
    exact flag (holds.atFlag here inside)
  · intro here
    rw [service] at here
    rw [entered]
    exact holds.pastFlag here
  · rw [missed]
    exact holds.missed

theorem FlushRecorded.connect {watch : FlushWatch} {s s' : State} {ok : Bool}
    {events : List Event} (holds : FlushRecorded watch s)
    (step : stepConnect s ok = some (s', events)) :
    FlushRecorded (events.foldl FlushWatch.see watch) s' := by
  obtain ⟨_, _, taken⟩ := stepConnect_cases step
  cases taken <;>
    exact holds.caller rfl id .inl rfl rfl fun _ _ => holds.callsKept id

theorem FlushRecorded.enter {watch : FlushWatch} {s : State} {thread : Nat}
    {op : Op} (holds : FlushRecorded watch s) :
    FlushRecorded watch
      { s with
        calls := Function.update s.calls thread (some ⟨op, op.entry⟩) } := by
  refine holds.caller rfl id .inl rfl rfl ?_
  intro other call present graceful
  rcases updated_entry present with ⟨_, now⟩ | ⟨_, before⟩
  · cases now
    subst graceful
    exact .inl rfl
  · exact holds.calls other call before graceful

theorem FlushRecorded.advance {config : Config} {watch : FlushWatch}
    {s s' : State} {thread : Nat} {events : List Event}
    (holds : FlushRecorded watch s)
    (guarded : recordsFlush s (.advance thread) = true)
    (step : stepCall config s thread = some (s', events)) :
    FlushRecorded (events.foldl FlushWatch.see watch) s' := by
  obtain ⟨call, pipe, rest, emitted, running, result, rfl, rfl⟩ :=
    stepCall_cases step
  have flag := (stepCode_effect result).flag
  have checked : call.code = .gracefulCheck → s.pipe.state = .connected →
      s.pipe.gracefulShutdown = true := by
    intro check connected
    obtain ⟨op, code⟩ := call
    simp only at check
    subst check
    simpa [recordsFlush, running, connected] using guarded
  have advanced (graceful : call.op = .doGracefulShutdown) :=
    (holds.calls thread call running graceful).advance checked result
  have calls : ∀ other other',
      Function.update s.calls thread
        (rest.map fun next => { call with code := next }) other = some other' →
      other'.op = .doGracefulShutdown → FlagRecorded pipe other'.code := by
    intro other other' present graceful
    rcases updated_entry present with ⟨_, now⟩ | ⟨_, before⟩
    · obtain ⟨next, following, rfl⟩ := Option.map_eq_some_iff.mp now
      exact (advanced graceful).1 next following
    · exact holds.callsKept flag before graceful
  rw [List.foldl_append, stepCode_quiet result]
  cases rest with
  | some next => exact holds.caller rfl flag .inl rfl rfl calls
  | none =>
      cases op : call.op with
      | doGracefulShutdown =>
          have now := (advanced op).2 rfl
          exact holds.caller rfl flag (fun _ => .inr now) rfl rfl calls
      | close | bufferForSending text | forkFrame reads =>
          exact holds.caller rfl flag .inl rfl rfl calls

theorem FlushRecorded.deliver {watch : FlushWatch} {s s' : State}
    {callback : Callback} {events : List Event} (holds : FlushRecorded watch s)
    (idle : s.service = .idle)
    (step : deliver s callback = some (s', events)) :
    FlushRecorded (events.foldl FlushWatch.see watch) s' := by
  have still : s.service.mayDrain = false := by
    rw [idle]
    rfl
  cases deliver_cases step with
  | writeable =>
      constructor
      · exact holds.owed
      · exact holds.calls
      · intro _ entered
        exact holds.owed entered
      · rintro (here | here | here) <;> cases here
      · exact holds.missed
  | established | connectionError | closed | eventWaitCancelled =>
      exact holds.outside rfl id id holds.missed rfl
  | establishedStray | connectionErrorStray | closedStray | receive
  | receiveStray | writeableStray =>
      exact holds.outside rfl id id holds.missed still

theorem FlushRecorded.proceed {watch : FlushWatch} {s : State}
    {service : Service} (holds : FlushRecorded watch s)
    (entered : watch.entered = false) (past : service ≠ .writeableFlag) :
    FlushRecorded watch { s with service := service } := by
  constructor
  · exact holds.owed
  · exact holds.calls
  · intro here
    exact (past here).elim
  · intro _
    exact entered
  · exact holds.missed

theorem FlushRecorded.serve {config : Config} {watch : FlushWatch}
    {s s' : State} {ok : Bool} {metadata : Option Bytes} {events : List Event}
    (holds : FlushRecorded watch s)
    (step : serve config s ok metadata = some (s', events)) :
    FlushRecorded (events.foldl FlushWatch.see watch) s' := by
  obtain ⟨_, service, taken⟩ := serve_cases step
  have past := holds.pastFlag
  rw [service] at past
  cases taken with
  | @closing _ _ rest _ result | @shutdown _ _ rest _ result
  | @metadata _ _ rest _ result =>
      rw [stepCode_quiet result]
      refine holds.outside rfl (stepCode_effect result).flag id holds.missed ?_
      cases rest <;> rfl
  | @failSignal inPass | @failSignalAgain inPass =>
      refine holds.outside rfl id id holds.missed ?_
      cases inPass <;> rfl
  | unflagged unset =>
      apply holds.proceed _ (by simp)
      by_contra entered
      have flag := holds.atFlag service (by simpa using entered)
      rw [unset] at flag
      cases flag
  | noText => exact holds.proceed (past (.inl rfl)) (by simp)
  | stays => exact holds.proceed (past (.inr (.inl rfl))) (by simp)
  | flush =>
      exact holds.outside rfl id (by simp [endWriteable, FlushWatch.see])
        holds.missed rfl
  | drained =>
      have entered := past (.inr (.inr rfl))
      refine holds.outside rfl id id ?_ rfl
      simp [endWriteable, FlushWatch.see, entered, holds.missed]
  | sendAudio free audio =>
      have quiet : FlushWatch.see watch (.sent (.binary s.pipe.ring)) =
          watch := by
        cases ring : s.pipe.ring with
        | nil => exact (audio ring).elim
        | cons byte bytes => rfl
      simp only [endWriteable, List.cons_append, List.nil_append,
        List.foldl_cons, List.foldl_nil, quiet]
      exact holds.outside rfl id id holds.missed rfl
  | _ => exact holds.outside rfl id id holds.missed rfl

theorem FlushRecorded.step {config : Config} {watch : FlushWatch}
    {s s' : State} {act : Act} {events : List Event}
    (holds : FlushRecorded watch s) (guarded : recordsFlush s act = true)
    (step : (machine config).step s act = some (s', events)) :
    FlushRecorded (events.foldl FlushWatch.see watch) s' := by
  cases act with
  | connect ok => exact holds.connect step
  | enter thread op =>
      simp only [machine, AudioFork.step] at step
      split at step
      · cases step
        exact holds.enter
      · cases step
  | advance thread => exact holds.advance guarded step
  | deliver callback =>
      simp only [machine, AudioFork.step] at step
      split at step
      · rename_i idle
        exact holds.deliver idle step
      · cases step
  | serve ok metadata => exact holds.serve step

/-- In every interleaving in which no `do_graceful_shutdown()` finds the pipe
CONNECTED with the flag unset, no WRITEABLE callback that starts while a flush
is owed ends without text, audio or the zero-length frame. -/
theorem flush_served (config : Config) {labels : List Act} {trace : List Event}
    {s : State}
    (run : (machine config).Run recordsFlush (machine config).initial
      labels trace s) :
    (flushWatch.after trace).missed = false := by
  have recorded : FlushRecorded (flushWatch.after trace) s := by
    refine run.induct (fun seen state =>
      FlushRecorded (flushWatch.after seen) state) flushRecorded_fresh ?_
    intro seen state label next events holds guarded step
    rw [Machine.Observer.after_append]
    exact holds.step guarded step
  exact recorded.missed

/-- A shutdown requested during the handshake: the first WRITEABLE callback
sends the flush. -/
theorem flush_served_during_handshake :
    ∃ labels trace s,
      (machine ⟨1600, 320, 1, false⟩).Run recordsFlush .fresh labels trace s ∧
        Event.sent (.binary []) ∈ trace ∧
        (flushWatch.after trace).missed = false := by
  let labels : List Act :=
    startHandshake ++ [Act.enter 0 .doGracefulShutdown] ++
      List.replicate 3 (Act.advance 0) ++ [Act.deliver .established] ++
      serves 7 ++ [Act.deliver .writeable] ++ serves 2
  have executed : ((machine ⟨1600, 320, 1, false⟩).exec recordsFlush .fresh
      labels).map (fun outcome =>
        decide (Event.sent (.binary []) ∈ outcome.2)) = some true := by
    decide
  obtain ⟨s, trace, run, sent⟩ := Machine.exists_run_of_exec _ executed
  exact ⟨labels, trace, s, run, by simpa using sent,
    flush_served ⟨1600, 320, 1, false⟩ run⟩

/-- A shutdown requested on a CONNECTED pipe: its flag stays unset, and the
WRITEABLE callback it asked for ends without a flush. -/
theorem flush_lost_when_connected :
    ¬ ∀ (config : Config) (labels : List Act) (trace : List Event) (s : State),
      (machine config).Run anyStep (machine config).initial labels trace s →
        (flushWatch.after trace).missed = false := by
  intro always
  let labels : List Act :=
    startHandshake ++ [Act.deliver .established] ++ serves 4 ++
      [Act.enter 0 .doGracefulShutdown] ++ List.replicate 3 (Act.advance 0) ++
      [Act.deliver .eventWaitCancelled] ++ serves 4 ++
      [Act.deliver .writeable] ++ serves 4
  have executed : ((machine ⟨1600, 320, 1, false⟩).exec anyStep .fresh
      labels).map (fun outcome => (flushWatch.after outcome.2).missed) =
        some true := by
    decide
  obtain ⟨s, trace, run, missed⟩ := Machine.exists_run_of_exec _ executed
  have kept := always _ labels trace s run
  rw [missed] at kept
  cases kept

end DrachtioModules.AudioFork

import DrachtioModules.AudioFork.Connection

/-!
# A requested close makes progress

`close()` leaves a CONNECTED pipe DISCONNECTING; the WRITEABLE callback then
closes the connection, at most one flush of pending text later.  The callback
looks at `m_gracefulShutdown` before it looks at `m_state`, so this holds of
the runs in which that flag is unset whenever the callback reads it; once the
flag is set no WRITEABLE callback closes.
-/

namespace DrachtioModules.AudioFork

/-- One WRITEABLE callback: what it returned, and whether it requested another
one. -/
structure Served where
  returned : Int
  requested : Bool
  deriving DecidableEq, Repr

/-- The WRITEABLE callbacks that started and ended since the watch began;
`inside` is the request flag of the one in progress. -/
structure CloseWatch where
  inside : Option Bool
  ended : List Served
  deriving DecidableEq, Repr

def CloseWatch.see (watch : CloseWatch) : Event → CloseWatch
  | .writeableEntered => { watch with inside := some false }
  | .requestedWritable => { watch with inside := watch.inside.map fun _ => true }
  | .writeableReturned outcome =>
      match watch.inside with
      | none => watch
      | some requested =>
          { inside := none
            ended := watch.ended ++ [⟨outcome.returned, requested⟩] }
  | _ => watch

def closeWatch : Machine.Observer Event CloseWatch :=
  { start := ⟨none, []⟩
    see := CloseWatch.see }

/-- At most one callback returns without closing, it requests the next one, and
the next one returns -1. -/
def closesPromptly : List Served → Bool
  | [] => true
  | [only] => only.returned = -1 || only.returned = 0 && only.requested
  | [flush, last] =>
      flush.returned = 0 && flush.requested && last.returned = -1
  | _ => false

/-- `lws_write` succeeds and no further text is queued. -/
def undisturbed (s : State) : Act → Bool
  | .advance thread =>
      match s.calls thread with
      | some ⟨_, .bufferAppend _⟩ => false
      | _ => true
  | .serve ok _ =>
      match s.service with
      | .establishedClosing (.bufferAppend _)
      | .establishedShutdown (.bufferAppend _)
      | .establishedMetadata (.bufferAppend _) => false
      | .writeableFlush | .writeableText | .writeableAudio => ok
      | _ => true
  | _ => true

/-- A WRITEABLE callback that reads `m_gracefulShutdown` finds it unset. -/
def unflagged (s : State) : Act → Bool
  | .serve _ _ => s.service != .writeableFlag || !s.pipe.gracefulShutdown
  | _ => true

theorem stepCode_unseen {config : Config} {pipe next : Pipe} {code : Code}
    {rest : Option Code} {events : List Event}
    (step : stepCode config pipe code = some (next, rest, events))
    (watch : CloseWatch) : events.foldl CloseWatch.see watch = watch := by
  rcases stepCode_events step with rfl | ⟨text, rfl⟩ <;> rfl

def Progress (ended : List Served) (pipe : Pipe) : Prop :=
  ended = [] ∨ (ended = [⟨0, true⟩] ∧ pipe.metadata = []) ∨
    (closesPromptly ended = true ∧ pipe.wsi ≠ .opened)

structure Closing (watch : CloseWatch) (s : State) : Prop where
  linked : Linked s
  state : s.pipe.state = .disconnecting ∨ s.pipe.state = .disconnected
  inside : ∀ requested, watch.inside = some requested → requested = false ∧
    (s.service = .writeableFlag ∨ s.service = .writeableText ∨
      s.service = .writeableState)
  progress : Progress watch.ended s.pipe

theorem Closing.notJoining {watch : CloseWatch} {s : State}
    (closing : Closing watch s) : s.pipe.state ≠ .connecting := by
  intro connecting
  rcases closing.state with state | state <;> rw [connecting] at state <;>
    cases state

theorem Closing.outside {watch : CloseWatch} {s : State}
    (closing : Closing watch s)
    (outside : s.service ≠ .writeableFlag ∧ s.service ≠ .writeableText ∧
      s.service ≠ .writeableState) : watch.inside = none := by
  cases inside : watch.inside with
  | none => rfl
  | some requested =>
      rcases (closing.inside requested inside).2 with here | here | here
      · exact (outside.1 here).elim
      · exact (outside.2.1 here).elim
      · exact (outside.2.2 here).elim

theorem Progress.keep {ended : List Served} {pipe pipe' : Pipe}
    (progress : Progress ended pipe)
    (metadata : pipe.metadata = [] → pipe'.metadata = [])
    (wsi : pipe.wsi ≠ .opened → pipe'.wsi ≠ .opened) : Progress ended pipe' := by
  rcases progress with empty | ⟨flushed, sent⟩ | ⟨prompt, shut⟩
  · exact .inl empty
  · exact .inr (.inl ⟨flushed, metadata sent⟩)
  · exact .inr (.inr ⟨prompt, wsi shut⟩)

theorem Closing.still {watch : CloseWatch} {s s' : State}
    (closing : Closing watch s) (linked : Linked s')
    (state : s'.pipe.state = s.pipe.state ∨ s'.pipe.state = .disconnected)
    (inside : watch.inside = none ∨ s'.service = s.service)
    (metadata : s.pipe.metadata = [] → s'.pipe.metadata = [])
    (wsi : s.pipe.wsi ≠ .opened → s'.pipe.wsi ≠ .opened) : Closing watch s' := by
  refine ⟨linked, ?_, ?_, closing.progress.keep metadata wsi⟩
  · rcases state with same | gone
    · rw [same]
      exact closing.state
    · exact .inr gone
  · intro requested present
    rcases inside with none | same
    · rw [none] at present
      cases present
    · rw [same]
      exact closing.inside requested present

theorem Closing.code {config : Config} {watch : CloseWatch} {s s' : State}
    {code : Code} {rest : Option Code} {events : List Event}
    (closing : Closing watch s) (linked : Linked s')
    (step : stepCode config s.pipe code = some (s'.pipe, rest, events))
    (silent : ∀ text, code ≠ .bufferAppend text)
    (inside : watch.inside = none ∨ s'.service = s.service) :
    Closing watch s' := by
  have effect := stepCode_effect step
  refine closing.still linked ?_ inside ?_ ?_
  · rcases effect.state with same | ⟨connected, _⟩
    · exact .inl same
    · rcases closing.state with state | state <;> rw [connected] at state <;>
        cases state
  · rw [stepCode_metadata step silent]
    exact id
  · rw [effect.wsi]
    exact id

theorem Closing.connect {watch : CloseWatch} {s s' : State} {ok : Bool}
    {events : List Event} (closing : Closing watch s)
    (step : stepConnect s ok = some (s', events)) :
    Closing (events.foldl CloseWatch.see watch) s' := by
  have linked := closing.linked.connect step
  obtain ⟨_, stage, taken⟩ := stepConnect_cases step
  cases taken with
  | add | fail =>
      have idle := (closing.linked.unconnected (.inr stage)).1
      rcases closing.state with state | state <;> rw [idle] at state <;>
        cases state
  | enter | notify | signal | signalAgain | cancelService =>
      exact closing.still linked (.inl rfl) (.inr rfl) id id

theorem Closing.deliver {watch : CloseWatch} {s s' : State}
    {callback : Callback} {events : List Event} (closing : Closing watch s)
    (idle : s.service = .idle) (step : deliver s callback = some (s', events)) :
    Closing (events.foldl CloseWatch.see watch) s' := by
  have linked := closing.linked.deliver idle step
  have outside : watch.inside = none := closing.outside (by simp [idle])
  cases deliver_cases step with
  | established handshaking | establishedStray handshaking
  | connectionError handshaking | connectionErrorStray handshaking =>
      exact (closing.notJoining (closing.linked.handshaking handshaking)).elim
  | closed | closedStray =>
      exact closing.still linked (.inl rfl) (.inl outside) id (by simp)
  | receive | receiveStray => exact closing
  | writeable =>
      refine ⟨linked, closing.state, ?_, closing.progress.keep id id⟩
      intro requested present
      cases present
      exact ⟨rfl, .inl rfl⟩
  | writeableStray | eventWaitCancelled =>
      exact closing.still linked (.inl rfl) (.inl outside) id id

/-- A WRITEABLE callback that was already past its state check when the watch
began is not counted. -/
theorem Closing.uncounted {watch : CloseWatch} {s s' : State} {pipe : Pipe}
    {events events' : List Event} {outcome : Outcome}
    (closing : Closing watch s) (linked : Linked s')
    (outside : watch.inside = none)
    (ended : AudioFork.endWriteable s pipe events outcome = (s', events'))
    (unseen : events.foldl CloseWatch.see watch = watch)
    (state : pipe.state = s.pipe.state)
    (metadata : s.pipe.metadata = [] → pipe.metadata = [])
    (wsi : pipe.wsi = s.pipe.wsi) :
    Closing (events'.foldl CloseWatch.see watch) s' := by
  cases ended
  rw [List.foldl_append, unseen]
  have quiet : List.foldl CloseWatch.see watch
      [Event.writeableReturned outcome] = watch := by
    simp [CloseWatch.see, outside]
  rw [quiet]
  refine closing.still linked (.inl ?_) (.inl outside) ?_ ?_
  · dsimp only
    split <;> exact state
  · dsimp only
    split <;> exact metadata
  · dsimp only
    split
    · rw [wsi]
      exact id
    · simp

theorem Closing.flushText {watch : CloseWatch} {s s' : State}
    {events' : List Event} (closing : Closing watch s) (linked : Linked s')
    (here : s.service = .writeableText) (pending : s.pipe.metadata ≠ [])
    (ended : AudioFork.endWriteable s
      { s.pipe with metadata := [], writable := true }
      [.sent (.text s.pipe.metadata), .requestedWritable] .textSent =
        (s', events')) :
    Closing (events'.foldl CloseWatch.see watch) s' := by
  have opened := closing.linked.during .writing (by rw [here]; rfl)
  have first : watch.ended = [] := by
    rcases closing.progress with empty | ⟨_, sent⟩ | ⟨_, shut⟩
    · exact empty
    · exact (pending sent).elim
    · exact (shut opened).elim
  obtain ⟨inside, done⟩ := watch
  cases ended
  cases inside with
  | none =>
      exact ⟨linked, closing.state, by simp [CloseWatch.see],
        .inl (by simpa [CloseWatch.see] using first)⟩
  | some requested =>
      refine ⟨linked, closing.state, by simp [CloseWatch.see], ?_⟩
      refine .inr (.inl ⟨?_, rfl⟩)
      simpa [CloseWatch.see, Outcome.returned] using first

theorem Closing.shut {watch : CloseWatch} {s s' : State}
    {events' : List Event} (closing : Closing watch s) (linked : Linked s')
    (here : s.service = .writeableState)
    (ended : AudioFork.endWriteable s s.pipe [] .closing = (s', events')) :
    Closing (events'.foldl CloseWatch.see watch) s' := by
  have opened := closing.linked.during .writing (by rw [here]; rfl)
  have inside := closing.inside
  have progress := closing.progress
  obtain ⟨present, done⟩ := watch
  cases ended
  cases present with
  | none =>
      refine ⟨linked, closing.state, by simp [CloseWatch.see], ?_⟩
      exact progress.keep id (by simp [Outcome.returned])
  | some requested =>
      obtain ⟨rfl, _⟩ := inside requested rfl
      refine ⟨linked, closing.state, by simp [CloseWatch.see], ?_⟩
      refine .inr (.inr ⟨?_, by simp [Outcome.returned]⟩)
      rcases progress with empty | ⟨flushed, _⟩ | ⟨_, shut⟩
      · simp only at empty
        subst empty
        rfl
      · simp only at flushed
        subst flushed
        rfl
      · exact (shut opened).elim

/-- The conditions on a step together. -/
def closesFirst (s : State) (act : Act) : Bool :=
  undisturbed s act && unflagged s act

theorem Closing.serve {config : Config} {watch : CloseWatch} {s s' : State}
    {ok : Bool} {metadata : Option Bytes} {events : List Event}
    (closing : Closing watch s)
    (guarded : closesFirst s (.serve ok metadata) = true)
    (step : serve config s ok metadata = some (s', events)) :
    Closing (events.foldl CloseWatch.see watch) s' := by
  have linked := closing.linked.serve step
  have during := closing.linked.during
  obtain ⟨_, service, taken⟩ := serve_cases step
  rw [service] at during
  -- only the callbacks up to the state check can be counted
  have outside (past : s.service ≠ .writeableFlag ∧
      s.service ≠ .writeableText ∧ s.service ≠ .writeableState) :=
    closing.outside past
  rw [service] at outside
  cases taken with
  | adopt | connectClient | connectClientFails | failStore =>
      exact (closing.notJoining (during .joining rfl).1).elim
  | @closing code _ _ _ result | @shutdown code _ _ _ result
  | @metadata code _ _ _ result =>
      have silent : ∀ text, code ≠ .bufferAppend text := by
        rintro text rfl
        simp [closesFirst, undisturbed, service] at guarded
      rw [stepCode_unseen result]
      exact closing.code linked result silent (.inl (outside (by simp)))
  | connects found idle =>
      rcases closing.state with state | state <;> rw [idle] at state <;>
        cases state
  | disconnectWritable | writeWritable =>
      have none := outside (by simp)
      have unseen : CloseWatch.see watch .requestedWritable = watch := by
        obtain ⟨inside, done⟩ := watch
        simp only at none
        subst none
        rfl
      rw [List.foldl_cons, List.foldl_nil, unseen]
      exact closing.still linked (.inl rfl) (.inl none) id id
  | closedStore =>
      exact closing.still linked (.inr rfl) (.inl (outside (by simp))) id id
  | flagged flag =>
      simp [closesFirst, unflagged, service, flag] at guarded
  | unflagged =>
      refine ⟨linked, closing.state, ?_, closing.progress⟩
      intro requested present
      exact ⟨(closing.inside requested present).1, .inr (.inl rfl)⟩
  | noText =>
      refine ⟨linked, closing.state, ?_, closing.progress⟩
      intro requested present
      exact ⟨(closing.inside requested present).1, .inr (.inr rfl)⟩
  | sendText pending => exact closing.flushText linked service pending rfl
  | sendTextFails pending failed =>
      simp [closesFirst, undisturbed, service, failed] at guarded
  | shuts => exact closing.shut linked service rfl
  | stays other =>
      have opened := during .writing rfl
      rcases closing.state with state | state
      · exact (other state).elim
      · exact ((closing.linked.opened opened).2 state).elim
  | flush | flushFails | drained | sendAudio | sendAudioFails =>
      exact closing.uncounted linked (outside (by simp)) rfl rfl rfl id rfl
  | _ =>
      exact closing.still linked (.inl rfl) (.inl (outside (by simp))) id id

theorem Closing.advance {config : Config} {watch : CloseWatch} {s s' : State}
    {thread : Nat} {events : List Event} (closing : Closing watch s)
    (linked : Linked s') (guarded : closesFirst s (.advance thread) = true)
    (step : stepCall config s thread = some (s', events)) :
    Closing (events.foldl CloseWatch.see watch) s' := by
  obtain ⟨call, pipe, rest, emitted, running, result, rfl, rfl⟩ :=
    stepCall_cases step
  have silent : ∀ text, call.code ≠ .bufferAppend text := by
    intro text appending
    obtain ⟨op, code⟩ := call
    simp only at appending
    subst appending
    simp [closesFirst, undisturbed, running] at guarded
  have moved := closing.code linked result silent (.inr rfl)
  rw [List.foldl_append, stepCode_unseen result]
  cases rest <;> exact moved

theorem Closing.step {config : Config} {watch : CloseWatch} {s s' : State}
    {act : Act} {events : List Event} (closing : Closing watch s)
    (guarded : closesFirst s act = true)
    (step : (machine config).step s act = some (s', events)) :
    Closing (events.foldl CloseWatch.see watch) s' := by
  have linked := closing.linked.step step
  cases act with
  | connect ok => exact closing.connect step
  | enter thread op =>
      simp only [machine, AudioFork.step] at step
      split at step
      · cases step
        exact closing.still linked (.inl rfl) (.inr rfl) id id
      · cases step
  | advance thread => exact closing.advance linked guarded step
  | deliver callback =>
      simp only [machine, AudioFork.step] at step
      split at step
      · rename_i idle
        exact closing.deliver idle step
      · cases step
  | serve ok metadata => exact closing.serve guarded step

/-- Between WRITEABLE callbacks, or inside one that has seen the flag. -/
def Service.flushing : Service → Bool
  | .writeableText | .writeableState | .writeableAudio => false
  | _ => true

structure Flagged (trace : List Event) (s : State) : Prop where
  flag : s.pipe.gracefulShutdown = true
  flushing : s.service.flushing = true
  flushed : ∀ outcome, .writeableReturned outcome ∈ trace → outcome = .flushed

theorem stepCode_silent {config : Config} {pipe next : Pipe} {code : Code}
    {rest : Option Code} {events : List Event}
    (step : stepCode config pipe code = some (next, rest, events))
    (outcome : Outcome) : .writeableReturned outcome ∉ events := by
  rcases stepCode_events step with rfl | ⟨text, rfl⟩ <;> simp

theorem Flagged.still {trace events : List Event} {s s' : State}
    (flagged : Flagged trace s)
    (flag : s.pipe.gracefulShutdown = true → s'.pipe.gracefulShutdown = true)
    (flushing : s'.service.flushing = true)
    (silent : ∀ outcome, .writeableReturned outcome ∉ events) :
    Flagged (trace ++ events) s' := by
  refine ⟨flag flagged.flag, flushing, ?_⟩
  intro outcome member
  rcases List.mem_append.mp member with before | now
  · exact flagged.flushed outcome before
  · exact (silent outcome now).elim

theorem Flagged.connect {trace events : List Event} {s s' : State} {ok : Bool}
    (flagged : Flagged trace s)
    (step : stepConnect s ok = some (s', events)) :
    Flagged (trace ++ events) s' := by
  obtain ⟨_, _, taken⟩ := stepConnect_cases step
  cases taken <;> exact flagged.still id flagged.flushing (by simp)

theorem Flagged.deliver {trace events : List Event} {s s' : State}
    {callback : Callback} (flagged : Flagged trace s)
    (step : deliver s callback = some (s', events)) :
    Flagged (trace ++ events) s' := by
  cases deliver_cases step with
  | established | connectionError | closed | writeable | eventWaitCancelled =>
      exact flagged.still id rfl (by simp)
  | establishedStray | connectionErrorStray | closedStray | receive
  | receiveStray | writeableStray =>
      exact flagged.still id flagged.flushing (by simp)

theorem Flagged.serve {config : Config} {trace events : List Event}
    {s s' : State} {ok : Bool} {metadata : Option Bytes}
    (flagged : Flagged trace s)
    (guarded : undisturbed s (.serve ok metadata) = true)
    (step : serve config s ok metadata = some (s', events)) :
    Flagged (trace ++ events) s' := by
  have flushing := flagged.flushing
  obtain ⟨_, service, taken⟩ := serve_cases step
  rw [service] at flushing
  cases taken with
  | noText | sendText | sendTextFails | shuts | stays | drained | sendAudio
  | sendAudioFails => cases flushing
  | unflagged unset =>
      have flag := flagged.flag
      rw [unset] at flag
      cases flag
  | flush =>
      refine ⟨flagged.flag, rfl, ?_⟩
      intro outcome member
      rcases List.mem_append.mp member with before | now
      · exact flagged.flushed outcome before
      · simpa [endWriteable] using now
  | flushFails free failed =>
      simp [undisturbed, service, failed] at guarded
  | @closing _ _ rest _ result | @shutdown _ _ rest _ result
  | @metadata _ _ rest _ result =>
      refine flagged.still (stepCode_effect result).flag ?_
        (stepCode_silent result)
      cases rest <;> rfl
  | @failSignal inPass | @failSignalAgain inPass =>
      refine flagged.still id ?_ (by simp)
      cases inPass <;> rfl
  | _ => exact flagged.still id rfl (by simp)

theorem Flagged.step {config : Config} {trace events : List Event}
    {s s' : State} {act : Act} (flagged : Flagged trace s)
    (guarded : undisturbed s act = true)
    (step : (machine config).step s act = some (s', events)) :
    Flagged (trace ++ events) s' := by
  cases act with
  | connect ok => exact flagged.connect step
  | enter thread op =>
      simp only [machine, AudioFork.step] at step
      split at step
      · cases step
        exact flagged.still id flagged.flushing (by simp)
      · cases step
  | advance thread =>
      obtain ⟨call, pipe, rest, emitted, _, result, rfl, rfl⟩ :=
        stepCall_cases step
      refine flagged.still (stepCode_effect result).flag flagged.flushing ?_
      intro outcome member
      rcases List.mem_append.mp member with now | returned
      · exact stepCode_silent result outcome now
      · cases rest <;> simp at returned
  | deliver callback =>
      simp only [machine, AudioFork.step] at step
      split at step
      · exact flagged.deliver step
      · cases step
  | serve ok metadata => exact flagged.serve guarded step

/-- Once `m_gracefulShutdown` is set, every WRITEABLE callback that starts
sends the zero-length frame and returns 0: none closes the connection, whether
or not a close was requested. -/
theorem never_closed_once_flagged (config : Config) {s finish : State}
    {labels : List Act} {trace : List Event}
    (flag : s.pipe.gracefulShutdown = true)
    (between : s.service.flushing = true)
    (run : (machine config).Run undisturbed s labels trace finish)
    (outcome : Outcome) (ended : .writeableReturned outcome ∈ trace) :
    outcome = .flushed := by
  have flagged : Flagged trace finish :=
    run.induct Flagged ⟨flag, between, by simp⟩ fun holds guarded step =>
      holds.step guarded step
  exact flagged.flushed outcome ended

theorem Progress.prompt {ended : List Served} {pipe : Pipe}
    (progress : Progress ended pipe) : closesPromptly ended = true := by
  rcases progress with rfl | ⟨rfl, _⟩ | ⟨prompt, _⟩
  · rfl
  · rfl
  · exact prompt

/-- From every reachable DISCONNECTING pipe: while writes succeed, no text is
queued and WRITEABLE finds `m_gracefulShutdown` unset, at most one WRITEABLE
callback returns without closing; it requests the next one, which closes. -/
theorem close_not_starved (config : Config) {s finish : State}
    {labels : List Act} {trace : List Event}
    (reachable : (machine config).Reachable s)
    (disconnecting : s.pipe.state = .disconnecting)
    (run : (machine config).Run closesFirst s labels trace finish) :
    closesPromptly (closeWatch.after trace).ended = true := by
  have linked := linked_of_reachable reachable
  have start : Closing closeWatch.start s :=
    ⟨linked, .inl disconnecting, by simp [closeWatch], .inl rfl⟩
  have closing : Closing (closeWatch.after trace) finish := by
    refine run.induct (fun seen state =>
      Closing (closeWatch.after seen) state) start ?_
    intro seen state label next events holds guarded step
    rw [Machine.Observer.after_append]
    exact holds.step guarded step
  exact closing.progress.prompt

/-- Text that is still pending costs one callback; the next one closes. -/
theorem close_after_pending_text :
    ∃ s labels trace finish,
      (machine ⟨1600, 320, 1, false⟩).Run closesFirst s labels trace finish ∧
        (closeWatch.after trace).ended = [⟨0, true⟩, ⟨-1, false⟩] ∧
        closesPromptly (closeWatch.after trace).ended = true := by
  let config : Config := ⟨1600, 320, 1, false⟩
  let before : List Act :=
    startHandshake ++ [Act.deliver .established] ++ serves 4 ++
      [Act.enter 0 (.bufferForSending [104, 105])] ++
      List.replicate 4 (Act.advance 0) ++ [Act.enter 1 .close] ++
      List.replicate 4 (Act.advance 1)
  let after : List Act :=
    [Act.deliver .writeable] ++ serves 2 ++ [Act.deliver .writeable] ++ serves 3
  have executed : ((machine config).exec anyStep .fresh before).map
      (fun reached => decide (reached.1.pipe.state = .disconnecting) &&
        ((machine config).exec closesFirst reached.1 after).map (fun outcome =>
          decide ((closeWatch.after outcome.2).ended =
            [⟨0, true⟩, ⟨-1, false⟩])) == some true) = some true := by
    decide
  obtain ⟨s, earlier, reached, both⟩ := Machine.exists_run_of_exec _ executed
  obtain ⟨disconnecting, continued⟩ := Bool.and_eq_true_iff.mp both
  obtain ⟨finish, trace, run, ended⟩ :=
    Machine.exists_run_of_exec _ (beq_iff_eq.mp continued)
  exact ⟨s, after, trace, finish, run, by simpa using ended,
    close_not_starved config ⟨before, earlier, reached⟩
      (by simpa using disconnecting) run⟩

/-- A graceful shutdown and a stop while the handshake is outstanding: the
WRITEABLE callback of the DISCONNECTING pipe flushes and asks for nothing. -/
theorem close_starved_by_flush :
    ¬ ∀ (config : Config) (s finish : State) (labels : List Act)
      (trace : List Event), (machine config).Reachable s →
      s.pipe.state = .disconnecting →
      (machine config).Run undisturbed s labels trace finish →
        closesPromptly (closeWatch.after trace).ended = true := by
  intro always
  let config : Config := ⟨1600, 320, 1, false⟩
  let before : List Act :=
    startHandshake ++ [Act.enter 0 .doGracefulShutdown] ++
      List.replicate 3 (Act.advance 0) ++ [Act.enter 1 .close] ++
      List.replicate 3 (Act.advance 1) ++ [Act.deliver .established] ++
      serves 11
  let after : List Act := [Act.deliver .writeable] ++ serves 2
  have executed : ((machine config).exec anyStep .fresh before).map
      (fun reached => decide (reached.1.pipe.state = .disconnecting) &&
        ((machine config).exec undisturbed reached.1 after).map
          (fun outcome => !closesPromptly (closeWatch.after outcome.2).ended) ==
            some true) = some true := by
    decide
  obtain ⟨s, earlier, reached, both⟩ := Machine.exists_run_of_exec _ executed
  obtain ⟨disconnecting, continued⟩ := Bool.and_eq_true_iff.mp both
  obtain ⟨finish, trace, run, late⟩ :=
    Machine.exists_run_of_exec _ (beq_iff_eq.mp continued)
  have prompt := always config s finish after trace ⟨before, earlier, reached⟩
    (by simpa using disconnecting) run
  rw [prompt] at late
  cases late

end DrachtioModules.AudioFork

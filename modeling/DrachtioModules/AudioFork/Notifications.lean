import DrachtioModules.AudioFork.LifeCycle

/-!
# The notifications of a pipe

What the owner of a pipe is told over the whole life of the pipe is a story:
one failure to connect, or a success, messages and one end; the release to the
reaper comes last.

CLOSED loads `m_state` once for each end it may announce.  A `close()` whose
exchange falls between the two loads finds the pipe CONNECTED and leaves it
DISCONNECTING, so that CLOSED misses both; the stories are those of the runs in
which no exchange falls there.
-/

namespace DrachtioModules.AudioFork

/-- A whole life as its owner sees it. -/
inductive Story : List Event → Prop where
  | failed : Story [.notified .connectFail, .closeSignaled]
  | ended {messages : List Bytes} {ending : NotifyEvent}
      (ends : ending = .connectionDropped ∨
        ending = .connectionClosedGracefully) :
      Story (.notified .connectSuccess ::
        messages.map (fun text => .notified (.message text)) ++
          [.notified ending, .closeSignaled])

/-- No thread performs the exchange of `close()` while CLOSED is between its
two loads of `m_state`. -/
def unraced (s : State) : Act → Bool
  | .advance thread =>
      match s.calls thread with
      | some ⟨_, .closeExchange⟩ => s.service != .closedDropped
      | _ => true
  | _ => true

/-- What the owner has been told when the life has come this far. -/
inductive Told : Life → List Event → Prop where
  | waiting : Told .waiting []
  | failed : Told .failed [.notified .connectFail]
  | opened {messages : List Bytes} :
      Told .opened (.notified .connectSuccess ::
        messages.map fun text => .notified (.message text))
  | ended {messages : List Bytes} {ending : NotifyEvent}
      (ends : ending = .connectionDropped ∨
        ending = .connectionClosedGracefully) :
      Told .ended (.notified .connectSuccess ::
        messages.map (fun text => .notified (.message text)) ++
          [.notified ending])
  | released {told : List Event} (story : Story told) : Told .released told

theorem Told.passage {life life' : Life} {told events : List Event}
    (sofar : Told life told) (passage : Passage False life events life') :
    Told life' (told ++ events) := by
  cases passage with
  | quiet => simpa using sofar
  | fail =>
      cases sofar
      exact .failed
  | success =>
      cases sofar
      have opened : Told .opened (.notified .connectSuccess ::
          ([] : List Bytes).map fun text => .notified (.message text)) :=
        .opened
      exact opened
  | @message text =>
      cases sofar with
      | @opened messages =>
          have longer : Told .opened (.notified .connectSuccess ::
              (messages ++ [text]).map fun text => .notified (.message text)) :=
            .opened
          rw [List.map_append] at longer
          exact longer
  | dropped =>
      cases sofar
      exact .ended (.inl rfl)
  | closed =>
      cases sofar
      exact .ended (.inr rfl)
  | unannounced slipped => exact slipped.elim
  | abandon =>
      cases sofar
      exact .released .failed
  | release =>
      cases sofar with
      | ended ends =>
          refine .released ?_
          rw [List.append_assoc]
          exact .ended ends

/-- What was told so far can always be continued to a whole story. -/
theorem Told.continues {life : Life} {told : List Event}
    (sofar : Told life told) : ∃ rest, Story (told ++ rest) := by
  cases sofar with
  | waiting => exact ⟨_, .failed⟩
  | failed => exact ⟨[.closeSignaled], .failed⟩
  | opened =>
      exact ⟨[.notified .connectionDropped, .closeSignaled], .ended (.inl rfl)⟩
  | ended ends =>
      refine ⟨[.closeSignaled], ?_⟩
      rw [List.append_assoc]
      exact .ended ends
  | released story =>
      refine ⟨[], ?_⟩
      rw [List.append_nil]
      exact story

/-- Between the two loads of CLOSED the pipe is CONNECTED. -/
def Steady (s : State) : Prop :=
  s.service = .closedDropped → s.pipe.state = .connected

theorem Steady.code {config : Config} {s : State} {pipe : Pipe} {code : Code}
    {rest : Option Code} {events : List Event} (steady : Steady s)
    (step : stepCode config s.pipe code = some (pipe, rest, events))
    (here : s.service = .closedDropped) (other : code ≠ .closeExchange) :
    pipe.state = .connected := by
  have connected := steady here
  cases stepCode_cases step with
  | exchange => exact (other rfl).elim
  | _ => exact connected

theorem Steady.deliver {s s' : State} {callback : Callback}
    {events : List Event} (idle : s.service = .idle)
    (step : deliver s callback = some (s', events)) : Steady s' := by
  intro here
  cases deliver_cases step with
  | established | connectionError | closed | writeable | eventWaitCancelled =>
      cases here
  | establishedStray | connectionErrorStray | closedStray | receive
  | receiveStray | writeableStray =>
      rw [idle] at here
      cases here

theorem Steady.serve {config : Config} {s s' : State} {life : Life} {ok : Bool}
    {metadata : Option Bytes} {events : List Event} (lives : Lives s life)
    (step : serve config s ok metadata = some (s', events)) : Steady s' := by
  intro here
  unfold Lives at lives
  generalize s.connectCall.phase = call at lives
  obtain ⟨_, service, taken⟩ := serve_cases step
  rw [service] at lives
  cases taken with
  | closedOtherwise other =>
      cases lives with
      | leaving up =>
          cases state : s.pipe.state <;> simp_all [LwsState.up]
  | @closing _ _ rest | @shutdown _ _ rest | @metadata _ _ rest =>
      cases rest <;> cases here
  | @failSignal inPass | @failSignalAgain inPass =>
      cases inPass <;> cases here
  | _ => cases here

theorem Steady.step {config : Config} {s s' : State} {life : Life} {act : Act}
    {events : List Event} (steady : Steady s) (lives : Lives s life)
    (guarded : unraced s act = true)
    (step : (machine config).step s act = some (s', events)) : Steady s' := by
  cases act with
  | connect ok =>
      intro here
      obtain ⟨_, stage, taken⟩ := stepConnect_cases step
      unfold Lives at lives
      rw [stage] at lives
      cases taken with
      | fail =>
          have leaving : s.service.phase = .leaving := by rw [here]; rfl
          rw [leaving] at lives
          cases lives
      | _ => exact steady here
  | enter thread op =>
      simp only [machine, AudioFork.step] at step
      split at step
      · cases step
        exact steady
      · cases step
  | advance thread =>
      obtain ⟨call, pipe, rest, emitted, running, result, rfl, _⟩ :=
        stepCall_cases step
      intro here
      refine steady.code result here ?_
      intro exchange
      obtain ⟨op, code⟩ := call
      simp only at exchange
      subst exchange
      simp only [unraced, running] at guarded
      simp_all
  | deliver callback =>
      simp only [machine, AudioFork.step] at step
      split at step
      · rename_i idle
        exact Steady.deliver idle step
      · cases step
  | serve ok metadata => exact Steady.serve lives step

structure Telling (trace : List Event) (s : State) : Prop where
  sofar : ∃ life, Lives s life ∧ Told life (trace.filter Event.told)
  steady : Steady s

theorem Telling.step {config : Config} {trace events : List Event}
    {s s' : State} {act : Act} (telling : Telling trace s)
    (guarded : unraced s act = true)
    (step : (machine config).step s act = some (s', events)) :
    Telling (trace ++ events) s' := by
  obtain ⟨⟨life, lives, sofar⟩, steady⟩ := telling
  obtain ⟨life', lives', passage⟩ := lives.step step
  have sound : ¬ Slips s := by
    intro slips
    exact slips.2 (steady slips.1)
  rw [eq_false sound] at passage
  refine ⟨⟨life', lives', ?_⟩, steady.step lives guarded step⟩
  rw [List.filter_append]
  exact sofar.passage passage

theorem Lives.released {s : State} {life : Life} (lives : Lives s life)
    (signaled : s.pipe.closeSignaled = true) : life = .released := by
  unfold Lives at lives
  generalize s.connectCall.phase = call at lives
  generalize s.service.phase = phase at lives
  cases lives with
  | released => rfl
  | unconnected _ _ _ live | refusing _ _ live | refused _ _ live
  | queued _ _ _ live | dialling _ _ _ live | handshaking _ _ _ live
  | joining _ _ live | opening _ _ _ live | opened _ _ _ live
  | serving _ _ _ live | leaving _ _ live | left _ _ live
  | releasing _ _ live | failStore _ _ live | failNotify _ _ live
  | failSignal _ _ live =>
      rw [signaled] at live
      cases live

/-- While no exchange of `close()` falls between the two loads of CLOSED, the
owner of a pipe is told the beginning of a story, and the whole of it by the
time the pipe is released to the reaper. -/
theorem story_told (config : Config) {labels : List Act} {trace : List Event}
    {finish : State}
    (run : (machine config).Run unraced (machine config).initial labels trace
      finish) :
    (∃ rest, Story (trace.filter Event.told ++ rest)) ∧
      (finish.pipe.closeSignaled = true → Story (trace.filter Event.told)) := by
  have telling : Telling trace finish := by
    refine run.induct Telling ?_ fun holds guarded step =>
      holds.step guarded step
    exact ⟨⟨.waiting, lives_fresh, .waiting⟩, nofun⟩
  obtain ⟨life, lives, sofar⟩ := telling.sofar
  refine ⟨sofar.continues, ?_⟩
  intro signaled
  cases lives.released signaled
  cases sofar with
  | released story => exact story

/-- A message, then the far end drops the connection while a `close()` is about
to start. -/
theorem story_told_of_drop :
    ∃ labels trace finish,
      (machine ⟨1600, 320, 1, false⟩).Run unraced State.fresh labels trace
          finish ∧
        trace.filter Event.told =
          [.notified .connectSuccess, .notified (.message [104, 105]),
            .notified .connectionDropped, .closeSignaled] ∧
        Story (trace.filter Event.told) := by
  let labels : List Act :=
    startHandshake ++ [Act.deliver .established] ++ serves 4 ++
      [Act.deliver (.receive [104, 105]), .enter 0 .close, .deliver .closed] ++
      serves 4
  have executed : ((machine ⟨1600, 320, 1, false⟩).exec unraced .fresh
      labels).map (fun outcome => outcome.1.pipe.closeSignaled &&
        decide (outcome.2.filter Event.told =
          [.notified .connectSuccess, .notified (.message [104, 105]),
            .notified .connectionDropped, .closeSignaled])) = some true := by
    decide
  obtain ⟨finish, trace, run, both⟩ := Machine.exists_run_of_exec _ executed
  obtain ⟨signaled, told⟩ := Bool.and_eq_true_iff.mp both
  exact ⟨labels, trace, finish, run, by simpa using told,
    (story_told _ run).2 signaled⟩

theorem Story.announces {told : List Event} (story : Story told) :
    told = [.notified .connectFail, .closeSignaled] ∨
      .notified .connectionDropped ∈ told ∨
      .notified .connectionClosedGracefully ∈ told := by
  cases story with
  | failed => exact .inl rfl
  | ended ends => rcases ends with rfl | rfl <;> simp

/-- The far end drops the connection, CLOSED finds the pipe not DISCONNECTING, a
`close()` makes it so, and CLOSED finds it not CONNECTED: the pipe is released
and its owner never told. -/
theorem end_untold_on_close :
    ¬ ∀ (config : Config) (labels : List Act) (trace : List Event)
      (finish : State),
      (machine config).Run anyStep (machine config).initial labels trace
        finish →
      finish.pipe.closeSignaled = true → Story (trace.filter Event.told) := by
  intro always
  let labels : List Act :=
    startHandshake ++ [Act.deliver .established] ++ serves 4 ++
      [Act.enter 0 .close, .advance 0, .deliver .closed, .serve true none,
        .advance 0] ++ serves 3
  have executed : ((machine ⟨1600, 320, 1, false⟩).exec anyStep .fresh
      labels).map (fun outcome => outcome.1.pipe.closeSignaled &&
        decide (outcome.2.filter Event.told =
          [.notified .connectSuccess, .closeSignaled])) = some true := by
    decide
  obtain ⟨finish, trace, run, both⟩ := Machine.exists_run_of_exec _ executed
  obtain ⟨signaled, told⟩ := Bool.and_eq_true_iff.mp both
  have story := always _ labels trace finish run signaled
  rw [of_decide_eq_true told] at story
  rcases story.announces with same | dropped | closed
  · simp at same
  · simp at dropped
  · simp at closed

end DrachtioModules.AudioFork

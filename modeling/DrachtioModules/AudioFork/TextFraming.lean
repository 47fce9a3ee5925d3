import DrachtioModules.AudioFork.AudioStream
import DrachtioModules.AudioFork.Connection

/-!
# The texts of a pipe

`bufferForSending` appends to `m_metadata`, and WRITEABLE sends what it finds
there as one message.  Two texts that are pending together are one message to
the far end, and a text that comes between WRITEABLE's look at `m_metadata` and
its look at `m_state` is lost when the latter is DISCONNECTING.  In every run in
which each text finds `m_metadata` empty, and nothing is pending when the
connection is closed, the far end receives the accepted texts.
-/

namespace DrachtioModules.AudioFork

def Event.acceptedText : Event → Option Bytes
  | .accepted text => some text
  | _ => none

def Event.sentText : Event → Option Bytes
  | .sent (.text payload) => some payload
  | _ => none

def acceptedTexts (trace : List Event) : List Bytes :=
  trace.filterMap Event.acceptedText

def sentTexts (trace : List Event) : List Bytes :=
  trace.filterMap Event.sentText

/-- A callback returned -1 for this wsi, or it is closed: lws delivers no
WRITEABLE any more. -/
def Wsi.shut : Wsi → Bool
  | .closing | .freed => true
  | _ => false

/-- The message that WRITEABLE would send next. -/
def pendingText (pipe : Pipe) : List Bytes :=
  if pipe.metadata = [] then [] else [pipe.metadata]

/-- Each accepted text is a message of its own. -/
structure Framed (trace : List Event) (s : State) : Prop where
  /-- What was sent is the accepted texts, in order, as far as it goes. -/
  own : sentTexts trace <+: acceptedTexts trace
  /-- While the connection is up nothing else was accepted but what is sent
  next. -/
  pending : s.pipe.wsi.shut = false →
    acceptedTexts trace = sentTexts trace ++ pendingText s.pipe
  /-- Everything was sent when WRITEABLE closes the connection. -/
  closed : ∀ before after,
    trace = before ++ .writeableReturned .closing :: after →
    sentTexts before = acceptedTexts before

/-- The code of a member function that a label advances. -/
def advancing (s : State) : Act → Option Code
  | .advance thread => (s.calls thread).map Call.code
  | .serve _ _ => s.service.code
  | _ => none

/-- The text a step appends to `m_metadata`. -/
def appending (s : State) (label : Act) : Option Bytes :=
  match advancing s label with
  | some (.bufferAppend text) => some text
  | _ => none

/-- While the connection is up, a text that is appended is not empty and finds
no other text pending; and nothing is pending when WRITEABLE closes the
connection. -/
def textsAlone (s : State) (label : Act) : Bool :=
  match appending s label with
  | some text =>
      s.pipe.wsi.shut || (decide (s.pipe.metadata = []) && decide (text ≠ []))
  | none =>
      match label with
      | .serve _ _ =>
          !(s.service == .writeableState && s.pipe.state == .disconnecting) ||
            decide (s.pipe.metadata = [])
      | _ => true

/-- An event that is neither about a text nor about our close. -/
def Event.wordless : Event → Bool
  | .accepted _ | .sent (.text _) | .writeableReturned .closing => false
  | _ => true

inductive Texting (s s' : State) (label : Act) : List Event → Prop where
  | wordless {events : List Event} (unappending : appending s label = none)
      (metadata : s'.pipe.metadata = s.pipe.metadata)
      (shut : s.pipe.wsi.shut = true → s'.pipe.wsi.shut = true)
      (silent : ∀ event ∈ events, event.wordless = true) :
      Texting s s' label events
  | append {text : Bytes} (appends : appending s label = some text)
      (metadata : s'.pipe.metadata = s.pipe.metadata ++ text)
      (wsi : s'.pipe.wsi = s.pipe.wsi) :
      Texting s s' label [.accepted text]
  | send (unappending : appending s label = none)
      (opened : s.pipe.wsi = .opened)
      (pending : s.pipe.metadata ≠ []) (metadata : s'.pipe.metadata = []) :
      Texting s s' label
        [.sent (.text s.pipe.metadata), .requestedWritable,
          .writeableReturned .textSent]
  | fail (unappending : appending s label = none)
      (opened : s.pipe.wsi = .opened) (shut : s'.pipe.wsi = .closing) :
      Texting s s' label [.writeableReturned .writeFailed]
  | close {ok : Bool} {metadata : Option Bytes}
      (label_serve : label = .serve ok metadata)
      (here : s.service = .writeableState)
      (disconnecting : s.pipe.state = .disconnecting)
      (opened : s.pipe.wsi = .opened)
      (kept : s'.pipe.metadata = s.pipe.metadata)
      (shut : s'.pipe.wsi = .closing) :
      Texting s s' label [.writeableReturned .closing]

/-- The wsi is known to lws only once `connect_client` has made it. -/
def Dials (s : State) : Prop :=
  s.service = .connectClient → s.pipe.wsi = .none

theorem stepConnect_texting {s s' : State} {ok : Bool} {events : List Event}
    (step : stepConnect s ok = some (s', events)) :
    Texting s s' (.connect ok) events ∧ (Dials s → Dials s') := by
  obtain ⟨_, _, taken⟩ := stepConnect_cases step
  cases taken with
  | _ => exact ⟨.wordless rfl rfl id (by simp [Event.wordless]), id⟩

theorem deliver_texting {s s' : State} {callback : Callback}
    {events : List Event} (step : deliver s callback = some (s', events))
    (idle : s.service = .idle) :
    Texting s s' (.deliver callback) events ∧ Dials s' := by
  have undialled : s.service ≠ .connectClient := by simp [idle]
  cases deliver_cases step with
  | established handshaking | establishedStray handshaking =>
      refine ⟨.wordless rfl rfl (by simp [handshaking, Wsi.shut]) (by simp), ?_⟩
      intro here
      first | cases here | exact (undialled here).elim
  | connectionError | closed =>
      exact ⟨.wordless rfl rfl (fun _ => rfl) (by simp), by rintro ⟨⟩⟩
  | connectionErrorStray | closedStray =>
      exact ⟨.wordless rfl rfl (fun _ => rfl) (by simp), fun here =>
        (undialled here).elim⟩
  | receive | receiveStray | writeableStray =>
      exact ⟨.wordless rfl rfl id (by simp [Event.wordless]), fun here =>
        (undialled here).elim⟩
  | writeable | eventWaitCancelled =>
      exact ⟨.wordless rfl rfl id (by simp [Event.wordless]),
        (by intro here; cases here)⟩

theorem code_texting {s s' : State} {label : Act} {config : Config}
    {code : Code} {pipe : Pipe} {rest : Option Code}
    {emitted events : List Event} (runs : advancing s label = some code)
    (result : stepCode config s.pipe code = some (pipe, rest, emitted))
    (after : s'.pipe = pipe)
    (emits : events = emitted ∨ (rest = none ∧
      ∃ op, events = emitted ++ [.returned op])) :
    Texting s s' label events := by
  have effect := stepCode_effect result
  cases stepCode_cases result with
  | @bufferAppend text =>
      rcases emits with rfl | ⟨returns, _⟩
      · refine .append ?_ (by rw [after]) (by rw [after])
        simp [appending, runs]
      · cases returns
  | _ =>
      refine .wordless (by simp [appending, runs]) (by rw [after])
        (by rw [after]; exact id) ?_
      rcases emits with rfl | ⟨_, op, rfl⟩ <;> simp [Event.wordless]

theorem serve_texting {config : Config} {s s' : State} {ok : Bool}
    {metadata : Option Bytes} {events : List Event} (linked : Linked s)
    (dials : Dials s)
    (step : serve config s ok metadata = some (s', events)) :
    Texting s s' (.serve ok metadata) events ∧ Dials s' := by
  obtain ⟨_, service, taken⟩ := serve_cases step
  have during := linked.during
  rw [service] at during
  have wordless : s.service.code = none →
      s'.pipe.metadata = s.pipe.metadata →
      (s.pipe.wsi.shut = true → s'.pipe.wsi.shut = true) →
      (∀ event ∈ events, event.wordless = true) →
      Texting s s' (.serve ok metadata) events := by
    intro outside
    exact .wordless (by simp [appending, advancing, outside])
  cases taken with
  | @closing code _ rest _ result | @shutdown code _ rest _ result
  | @metadata code _ rest _ result =>
      have runs : advancing s (.serve ok metadata) = some code := by
        simp [advancing, Service.code, service]
      refine ⟨code_texting runs result rfl (.inl rfl), ?_⟩
      cases rest <;> rintro ⟨⟩
  | connects _ idle =>
      exact ⟨wordless (by rw [service]; rfl) rfl id (by simp),
        fun _ => linked.idle idle⟩
  | connectClient | connectClientFails =>
      have absent := dials service
      exact ⟨wordless (by rw [service]; rfl) rfl (by simp [absent, Wsi.shut])
        (by simp), by rintro ⟨⟩⟩
  | flush =>
      exact ⟨wordless (by rw [service]; rfl) rfl id
        (by simp [endWriteable, Event.wordless]), by rintro ⟨⟩⟩
  | flushFails =>
      exact ⟨wordless (by rw [service]; rfl) rfl (fun _ => rfl)
        (by simp [endWriteable, Event.wordless]), by rintro ⟨⟩⟩
  | sendText pending =>
      have silent : appending s (.serve ok metadata) = none := by
        simp [appending, advancing, service, Service.code]
      exact ⟨.send silent (during .writing rfl) pending rfl, by rintro ⟨⟩⟩
  | sendTextFails =>
      have silent : appending s (.serve ok metadata) = none := by
        simp [appending, advancing, service, Service.code]
      exact ⟨.fail silent (during .writing rfl) rfl, by rintro ⟨⟩⟩
  | shuts disconnecting =>
      exact ⟨.close rfl service disconnecting (during .writing rfl) rfl rfl,
        by rintro ⟨⟩⟩
  | drained | sendAudio | sendAudioFails =>
      exact ⟨wordless (by rw [service]; rfl) rfl id
        (by simp [endWriteable, Event.wordless]), by intro here; cases here⟩
  | @failSignal inPass | @failSignalAgain inPass =>
      refine ⟨wordless (by rw [service]; rfl) rfl id
        (by simp [Event.wordless]), ?_⟩
      cases inPass <;> rintro ⟨⟩
  | _ =>
      exact ⟨wordless (by rw [service]; rfl) rfl id (by simp [Event.wordless]),
        by intro here; cases here⟩

theorem step_texting {config : Config} {s s' : State} {label : Act}
    {events : List Event} (linked : Linked s) (dials : Dials s)
    (step : (machine config).step s label = some (s', events)) :
    Texting s s' label events ∧ Dials s' := by
  cases label with
  | connect ok =>
      obtain ⟨texting, kept⟩ := stepConnect_texting step
      exact ⟨texting, kept dials⟩
  | enter thread op =>
      simp only [machine, AudioFork.step] at step
      split at step
      · cases step
        exact ⟨.wordless rfl rfl id (by simp), dials⟩
      · cases step
  | advance thread =>
      obtain ⟨call, pipe, rest, emitted, running, result, rfl, rfl⟩ :=
        stepCall_cases step
      have undialled : Dials { s with
          pipe := pipe
          calls := Function.update s.calls thread
            (rest.map fun next => { call with code := next }) } := by
        intro here
        exact (stepCode_effect result).wsi.trans (dials here)
      refine ⟨code_texting (by simp [advancing, running]) result rfl ?_,
        undialled⟩
      cases rest with
      | none => exact .inr ⟨rfl, call.op, rfl⟩
      | some next => exact .inl (List.append_nil emitted)
  | deliver callback =>
      simp only [machine, AudioFork.step] at step
      split at step
      · rename_i idle
        exact deliver_texting step idle
      · cases step
  | serve ok metadata => exact serve_texting linked dials step

theorem texts_append (trace events : List Event) :
    acceptedTexts (trace ++ events) =
        acceptedTexts trace ++ acceptedTexts events ∧
      sentTexts (trace ++ events) = sentTexts trace ++ sentTexts events :=
  ⟨List.filterMap_append, List.filterMap_append⟩

theorem texts_wordless {events : List Event}
    (silent : ∀ event ∈ events, event.wordless = true) :
    acceptedTexts events = [] ∧ sentTexts events = [] := by
  constructor
  · apply List.filterMap_eq_nil_iff.mpr
    intro event member
    have wordless := silent event member
    cases event <;> first | rfl | cases wordless
  · apply List.filterMap_eq_nil_iff.mpr
    intro event member
    have wordless := silent event member
    cases event with
    | sent frame => cases frame <;> first | rfl | cases wordless
    | _ => rfl

theorem framed_fresh : Framed [] .fresh := by
  refine ⟨List.prefix_rfl, fun _ => rfl, ?_⟩
  intro before after split
  cases before <;> cases split

/-- What was sent when we close, after a step that does not close. -/
theorem Framed.closed_append {trace events : List Event} {s : State}
    (framed : Framed trace s)
    (absent : .writeableReturned .closing ∉ events) :
    ∀ before after,
      trace ++ events = before ++ .writeableReturned .closing :: after →
      sentTexts before = acceptedTexts before := by
  intro before after split
  refine append_cons_of_append
    (fun before => sentTexts before = acceptedTexts before) split ?_ ?_
  · intro rest earlier
    exact framed.closed before rest earlier
  · intro middle later
    rw [later] at absent
    simp at absent

theorem Framed.step {trace events : List Event} {s s' : State} {label : Act}
    (framed : Framed trace s) (alone : textsAlone s label = true)
    (texting : Texting s s' label events) : Framed (trace ++ events) s' := by
  obtain ⟨accepted, sent⟩ := texts_append trace events
  cases texting with
  | wordless _ metadata shut silent =>
      obtain ⟨unaccepted, unsent⟩ := texts_wordless silent
      refine ⟨?_, ?_, framed.closed_append ?_⟩
      · simpa [accepted, sent, unaccepted, unsent] using framed.own
      · intro up
        have before : s.pipe.wsi.shut = false := by
          cases here : s.pipe.wsi.shut with
          | false => rfl
          | true =>
              rw [shut here] at up
              cases up
        simpa [accepted, sent, unaccepted, unsent, pendingText, metadata] using
          framed.pending before
      · intro member
        cases silent _ member
  | @append text appends metadata wsi =>
      have one : acceptedTexts [.accepted text] = [text] := rfl
      have unsent : sentTexts [.accepted text] = [] := rfl
      refine ⟨?_, ?_, framed.closed_append (by simp)⟩
      · rw [accepted, sent, unsent, List.append_nil]
        exact framed.own.trans (List.prefix_append ..)
      · rw [wsi]
        intro up
        simp only [textsAlone, appends, up, Bool.false_or, Bool.and_eq_true,
          decide_eq_true_eq] at alone
        obtain ⟨empty, some⟩ := alone
        have before := framed.pending up
        simp only [pendingText, empty, if_true, List.append_nil] at before
        rw [accepted, sent, one, unsent, before, List.append_nil]
        simp [pendingText, metadata, empty, some]
  | send _ opened pending metadata =>
      have whole := framed.pending (by simp [opened, Wsi.shut])
      simp only [pendingText, pending, if_false] at whole
      have now : acceptedTexts (trace ++ [.sent (.text s.pipe.metadata),
          .requestedWritable, .writeableReturned .textSent]) =
          sentTexts (trace ++ [.sent (.text s.pipe.metadata),
          .requestedWritable, .writeableReturned .textSent]) := by
        rw [accepted, sent, whole, List.append_assoc]
        rfl
      refine ⟨by simp [now], ?_, framed.closed_append (by simp)⟩
      · intro _
        rw [now, pendingText, if_pos metadata, List.append_nil]
  | fail _ opened shut =>
      have unaccepted : acceptedTexts [.writeableReturned .writeFailed] = [] :=
        rfl
      have unsent : sentTexts [.writeableReturned .writeFailed] = [] := rfl
      refine ⟨?_, ?_, framed.closed_append (by simp)⟩
      · rw [accepted, sent, unaccepted, unsent, List.append_nil,
          List.append_nil]
        exact framed.own
      · simp [shut, Wsi.shut]
  | @close ok initial labelled here disconnecting opened kept shut =>
      subst labelled
      have unaccepted : acceptedTexts [.writeableReturned .closing] = [] := rfl
      have unsent : sentTexts [.writeableReturned .closing] = [] := rfl
      have empty : s.pipe.metadata = [] := by
        simpa [textsAlone, appending, advancing, here, Service.code,
          disconnecting] using alone
      have whole := framed.pending (by simp [opened, Wsi.shut])
      rw [pendingText, if_pos empty, List.append_nil] at whole
      refine ⟨?_, ?_, ?_⟩
      · rw [accepted, sent, unaccepted, unsent, List.append_nil,
          List.append_nil]
        exact framed.own
      · simp [shut, Wsi.shut]
      · intro before after split
        refine append_cons_of_append
          (fun before => sentTexts before = acceptedTexts before) split ?_ ?_
        · intro rest earlier
          exact framed.closed before rest earlier
        · intro middle later
          cases middle with
          | nil => simpa using whole.symm
          | cons event middle => simp at later

/-- While each text finds nothing pending and nothing is pending at our close,
the far end receives each accepted text as a message of its own. -/
theorem texts_framed (config : Config) {labels : List Act} {trace : List Event}
    {finish : State}
    (run : (machine config).Run textsAlone (machine config).initial labels trace
      finish) : Framed trace finish := by
  have all : Linked finish ∧ Dials finish ∧ Framed trace finish := by
    refine run.induct (fun trace s => Linked s ∧ Dials s ∧ Framed trace s)
      ⟨linked_fresh, by rintro ⟨⟩, framed_fresh⟩ ?_
    rintro trace s label next events ⟨linked, dials, framed⟩ alone step
    obtain ⟨texting, dials'⟩ := step_texting linked dials step
    exact ⟨linked.step step, dials', framed.step alone texting⟩
  exact all.2.2

/-- `bufferForSending(text)` by `thread`, from its call to its return. -/
def sendText (thread : Nat) (text : Bytes) : List Act :=
  .enter thread (.bufferForSending text) :: List.replicate 4 (.advance thread)

/-- `close()` by `thread`, from its call to its return. -/
def closeBy (thread : Nat) : List Act :=
  .enter thread .close :: List.replicate 4 (.advance thread)

/-- ESTABLISHED on a pipe nobody has closed, whose session sends `metadata`. -/
def establishWith (metadata : Bytes) : List Act :=
  .deliver .established :: serves 3 ++ [.serve true (some metadata)] ++ serves 4

/-- The initial metadata and a text, each written before the next is accepted,
and our close. -/
theorem texts_framed_of_prompt :
    ∃ labels trace finish,
      (machine ⟨64000, 320, 1, false⟩).Run textsAlone .fresh labels trace
          finish ∧
        acceptedTexts trace = [[1, 2], [3]] ∧ sentTexts trace = [[1, 2], [3]] ∧
        .writeableReturned .closing ∈ trace ∧ Framed trace finish := by
  let labels : List Act :=
    startHandshake ++ establishWith [1, 2] ++ [Act.deliver .writeable] ++
      serves 2 ++ sendText 1 [3] ++ [Act.deliver .writeable] ++ serves 2 ++
      closeBy 2 ++ [Act.deliver .writeable] ++ serves 3
  have executed : ((machine ⟨64000, 320, 1, false⟩).exec textsAlone .fresh
      labels).map (fun outcome => decide
        (acceptedTexts outcome.2 = [[1, 2], [3]] ∧
          sentTexts outcome.2 = [[1, 2], [3]] ∧
          .writeableReturned .closing ∈ outcome.2)) = some true := by
    decide
  obtain ⟨finish, trace, run, observed⟩ := Machine.exists_run_of_exec _ executed
  obtain ⟨accepted, sent, closed⟩ := of_decide_eq_true observed
  exact ⟨labels, trace, finish, run, accepted, sent, closed,
    texts_framed _ run⟩

/-- A text that is accepted before WRITEABLE has sent the initial metadata is
part of the same message. -/
theorem texts_coalesce :
    ¬ ∀ (config : Config) (labels : List Act) (trace : List Event)
      (finish : State),
      (machine config).Run anyStep (machine config).initial labels trace
        finish →
      Framed trace finish := by
  intro always
  let labels : List Act :=
    startHandshake ++ establishWith [1, 2] ++ sendText 1 [3] ++
      [Act.deliver .writeable] ++ serves 2
  have executed : ((machine ⟨64000, 320, 1, false⟩).exec anyStep .fresh
      labels).map (fun outcome => decide
        (acceptedTexts outcome.2 = [[1, 2], [3]] ∧
          sentTexts outcome.2 = [[1, 2, 3]])) = some true := by
    decide
  obtain ⟨finish, trace, run, observed⟩ := Machine.exists_run_of_exec _ executed
  obtain ⟨accepted, sent⟩ := of_decide_eq_true observed
  have framed := always _ labels trace finish run
  have own := framed.own
  rw [accepted, sent] at own
  simp at own

end DrachtioModules.AudioFork

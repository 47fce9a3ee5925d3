import DrachtioModules.AudioFork.TextFraming
import DrachtioModules.AudioFork.CloseIntent

/-!
# Text before audio, and text before the close

The initial metadata is queued inside ESTABLISHED, before lws can deliver a
WRITEABLE callback, and WRITEABLE sends pending text first, so no audio
overtakes it.  Text also goes before our close as long as WRITEABLE does not
find the pipe DISCONNECTING after it has found no text, when text accepted
before the `close()` has come in between.

What was accepted before the first call of `close()` is kept as a history
variable.
-/

namespace DrachtioModules.AudioFork

/-- No frame of audio is sent before a message that contains `text`. -/
def BeforeAudio (text : Bytes) (trace : List Event) : Prop :=
  ∀ before payload after, trace = before ++ .sent (.binary payload) :: after →
    payload ≠ [] →
    ∃ message, .sent (.text message) ∈ before ∧ text <:+: message

/-- The bytes `bufferForSending` has accepted, and of these the ones it had
accepted when `close()` was first called. -/
structure CloseHistory where
  accepted : Bytes
  early : Option Bytes
  deriving DecidableEq, Repr

def noteClose (s : State) (label : Act) (history : CloseHistory) :
    CloseHistory :=
  match label with
  | .enter _ .close =>
      { history with early := some (history.early.getD history.accepted) }
  | _ =>
      match appending s label with
      | some text => { history with accepted := history.accepted ++ text }
      | none => history

def recordedClose (config : Config) :
    Machine (State × CloseHistory) Act Event :=
  (machine config).recording ⟨[], none⟩ noteClose

/-- When WRITEABLE closes the connection, all text accepted before `close()`
was called has been sent. -/
def BeforeClose (early : Option Bytes) (trace : List Event) : Prop :=
  ∀ before after, trace = before ++ .writeableReturned .closing :: after →
    ∃ text, early = some text ∧ text <+: (sentTexts before).flatten

/-- CONNECT_SUCCESS finds the pipe attached to its session, whose initial
metadata is `text`. -/
def greets (text : Bytes) (s : State) : Act → Bool
  | .serve _ metadata =>
      s.service != .establishedNotify || metadata == some text
  | _ => true

/-- WRITEABLE does not close the connection while text accepted before the
`close()` is pending. -/
def closesLast (recorded : State × CloseHistory) : Act → Bool
  | .serve _ _ =>
      !(recorded.1.service == .writeableState &&
          recorded.1.pipe.state == .disconnecting) ||
        match recorded.2.early with
        | none => true
        | some text =>
            decide (text.length + recorded.1.pipe.metadata.length ≤
              recorded.2.accepted.length)
  | _ => true

/-- What a step has tested when it brings the service thread to the last parts
of WRITEABLE, sends audio or reports CONNECT_SUCCESS. -/
structure Turn (s s' : State) (label : Act) (events : List Event) : Prop where
  toState : s'.service = .writeableState →
    s.service = .writeableState ∨
      (s.service = .writeableText ∧ s.pipe.metadata = [])
  toAudio : s'.service = .writeableAudio →
    s.service = .writeableAudio ∨
      (s.service = .writeableState ∧ s.pipe.state ≠ .disconnecting)
  audio : ∀ payload, .sent (.binary payload) ∈ events → payload ≠ [] →
    s.service = .writeableAudio
  greeted : .notified .connectSuccess ∈ events → ∃ ok metadata,
    label = .serve ok metadata ∧ s.service = .establishedNotify ∧
      ∀ text, metadata = some text →
        s'.service = .establishedMetadata (.bufferCheck text)

theorem Turn.still {s s' : State} {label : Act} {events : List Event}
    (service : s'.service = s.service)
    (silent : ∀ payload, .sent (.binary payload) ∉ events)
    (unheard : .notified .connectSuccess ∉ events) : Turn s s' label events := by
  refine ⟨?_, ?_, fun payload member => (silent payload member).elim,
    fun member => (unheard member).elim⟩
  · rw [service]
    exact .inl
  · rw [service]
    exact .inl

theorem Turn.away {s s' : State} {label : Act} {events : List Event}
    (state : s'.service ≠ .writeableState)
    (audio : s'.service ≠ .writeableAudio)
    (silent : ∀ payload, payload ≠ [] → .sent (.binary payload) ∉ events)
    (unheard : .notified .connectSuccess ∉ events) : Turn s s' label events :=
  ⟨fun here => (state here).elim, fun here => (audio here).elim,
    fun payload member some => (silent payload some member).elim,
    fun member => (unheard member).elim⟩

theorem code_told {config : Config} {pipe next : Pipe} {code : Code}
    {rest : Option Code} {events : List Event}
    (result : stepCode config pipe code = some (next, rest, events)) :
    (∀ payload, .sent (.binary payload) ∉ events) ∧
      .notified .connectSuccess ∉ events := by
  rcases stepCode_events result with rfl | ⟨text, rfl⟩ <;> simp

theorem serve_turn {config : Config} {s s' : State} {ok : Bool}
    {metadata : Option Bytes} {events : List Event}
    (step : serve config s ok metadata = some (s', events)) :
    Turn s s' (.serve ok metadata) events := by
  obtain ⟨_, service, taken⟩ := serve_cases step
  cases taken with
  | @closing code _ rest _ result | @shutdown code _ rest _ result
  | @metadata code _ rest _ result =>
      obtain ⟨silent, unheard⟩ := code_told result
      refine .away ?_ ?_ (fun payload _ => silent payload) unheard
      · cases rest <;> simp
      · cases rest <;> simp
  | notifyConnect given =>
      refine ⟨by simp, by simp, by simp, ?_⟩
      intro _
      refine ⟨ok, metadata, rfl, service, ?_⟩
      intro text same
      rw [given] at same
      cases same
      rfl
  | notifyConnectOnly absent =>
      refine ⟨by simp, by simp, by simp, ?_⟩
      intro _
      refine ⟨ok, metadata, rfl, service, ?_⟩
      intro text same
      rw [absent] at same
      cases same
  | noText none =>
      exact ⟨fun _ => .inr ⟨service, none⟩, by simp, by simp, by simp⟩
  | stays other =>
      exact ⟨by simp, fun _ => .inr ⟨service, other⟩, by simp, by simp⟩
  | sendAudio | sendAudioFails | drained =>
      exact ⟨by rintro ⟨⟩, by rintro ⟨⟩, fun _ _ _ => service,
        by simp [endWriteable]⟩
  | @failSignal inPass | @failSignalAgain inPass =>
      refine .away ?_ ?_ (by simp) (by simp)
      · cases inPass <;> simp
      · cases inPass <;> simp
  | _ =>
      exact .away (by rintro ⟨⟩) (by rintro ⟨⟩) (by simp [endWriteable])
        (by simp [endWriteable])

theorem step_turn {config : Config} {s s' : State} {label : Act}
    {events : List Event}
    (step : (machine config).step s label = some (s', events)) :
    Turn s s' label events := by
  cases label with
  | connect ok =>
      obtain ⟨_, _, taken⟩ := stepConnect_cases step
      cases taken <;> exact .still rfl (by simp) (by simp)
  | enter thread op =>
      simp only [machine, AudioFork.step] at step
      split at step
      · cases step
        exact .still rfl (by simp) (by simp)
      · cases step
  | advance thread =>
      obtain ⟨call, pipe, rest, emitted, _, result, rfl, rfl⟩ :=
        stepCall_cases step
      obtain ⟨silent, unheard⟩ := code_told result
      cases rest <;>
        exact .still rfl (by simpa using silent) (by simpa using unheard)
  | deliver callback =>
      simp only [machine, AudioFork.step] at step
      split at step
      · rename_i idle
        cases deliver_cases step <;>
          first
          | exact .still rfl (by simp) (by simp)
          | exact .away (by simp) (by simp) (by simp) (by simp)
      · cases step
  | serve ok metadata => exact serve_turn step

/-- How far the initial metadata has come. -/
inductive Greeted (text : Bytes) (trace : List Event) (s : State) : Prop where
  | away {life : Life} (lives : Lives s life) (unopened : life ≠ .opened)
  | greeting {code : Code} (service : s.service = .establishedMetadata code)
      (buffers : code = .bufferCheck text ∨ code = .bufferAppend text)
  | pending (holds : text <:+: s.pipe.metadata)
      (state : s.service ≠ .writeableState)
      (audio : s.service ≠ .writeableAudio)
  | sent {message : Bytes} (member : .sent (.text message) ∈ trace)
      (holds : text <:+: message)
  -- a `close()` came first
  | dropped (closing : 3 ≤ s.pipe.state.rank)
      (audio : s.service ≠ .writeableAudio)
  | shut (wsi : s.pipe.wsi.shut = true)

theorem Lives.serving {s : State} {life : Life} (lives : Lives s life)
    (phase : s.service.phase = .serving) :
    life = .opened ∧ s.pipe.state.up = true ∧ s.pipe.wsi = .opened := by
  unfold Lives at lives
  rw [phase] at lives
  generalize s.connectCall.phase = call at lives
  cases lives with
  | serving up wsi => exact ⟨rfl, up, wsi⟩

/-- Audio is sent only once the metadata was. -/
theorem Greeted.spoken {text : Bytes} {trace : List Event} {s : State}
    {life : Life} (greeted : Greeted text trace s) (lives : Lives s life)
    (audio : s.service = .writeableAudio) :
    ∃ message, .sent (.text message) ∈ trace ∧ text <:+: message := by
  have phase : s.service.phase = .serving := by rw [audio]; rfl
  cases greeted with
  | away lives' unopened => exact (unopened (lives'.serving phase).1).elim
  | greeting service =>
      rw [audio] at service
      cases service
  | pending _ _ elsewhere => exact (elsewhere audio).elim
  | sent member holds => exact ⟨_, member, holds⟩
  | dropped _ elsewhere => exact (elsewhere audio).elim
  | shut wsi =>
      rw [(lives.serving phase).2.2] at wsi
      cases wsi

theorem Greeted.of_sent {text : Bytes} {trace events : List Event} {s : State}
    {message : Bytes} (member : .sent (.text message) ∈ trace)
    (holds : text <:+: message) : Greeted text (trace ++ events) s :=
  .sent (List.mem_append_left _ member) holds

/-- The life of the pipe goes on until CONNECT_SUCCESS is reported. -/
theorem Greeted.step_away {config : Config} {text : Bytes}
    {trace events : List Event} {s s' : State} {label : Act} {life : Life}
    (lives : Lives s life) (unopened : life ≠ .opened)
    (attached : greets text s label = true) (turn : Turn s s' label events)
    (step : (machine config).step s label = some (s', events)) :
    Greeted text (trace ++ events) s' := by
  obtain ⟨life', lives', passage⟩ := lives.step step
  by_cases opened : life' = .opened
  · subst opened
    generalize told : events.filter Event.told = heard at passage
    cases passage with
    | quiet | message => exact (unopened rfl).elim
    | success =>
        have member : .notified .connectSuccess ∈ events := by
          have among : .notified .connectSuccess ∈ events.filter Event.told := by
            rw [told]
            exact List.mem_cons_self
          exact List.mem_of_mem_filter among
        obtain ⟨ok, metadata, rfl, service, goes⟩ := turn.greeted member
        have given : metadata = some text := by
          simpa [greets, service] using attached
        exact .greeting (goes text given) (.inl rfl)
  · exact .away lives' opened

theorem Greeted.step_greeting {config : Config} {text : Bytes}
    {trace events : List Event} {s s' : State} {label : Act} {code : Code}
    {life : Life} (lives : Lives s life)
    (service : s.service = .establishedMetadata code)
    (buffers : code = .bufferCheck text ∨ code = .bufferAppend text)
    (step : (machine config).step s label = some (s', events)) :
    Greeted text (trace ++ events) s' := by
  have still : s'.service = s.service → Greeted text (trace ++ events) s' := by
    intro same
    exact .greeting (same.trans service) buffers
  cases label with
  | connect ok =>
      obtain ⟨_, _, taken⟩ := stepConnect_cases step
      cases taken <;> exact still rfl
  | enter thread op =>
      simp only [machine, AudioFork.step] at step
      split at step
      · cases step
        exact still rfl
      · cases step
  | advance thread =>
      obtain ⟨_, _, _, _, _, _, rfl, _⟩ := stepCall_cases step
      exact still rfl
  | deliver callback =>
      simp [machine, AudioFork.step, service] at step
  | serve ok metadata =>
      have phase : s.service.phase = .serving := by rw [service]; rfl
      obtain ⟨_, up, _⟩ := lives.serving phase
      obtain ⟨_, here, taken⟩ := serve_cases step
      rw [service] at here
      subst here
      cases taken with
      | metadata result =>
          rcases buffers with rfl | rfl
          · cases stepCode_cases result with
            | buffers => exact .greeting rfl (.inr rfl)
            | drops unconnected =>
                refine .dropped ?_ (by simp)
                show 3 ≤ s.pipe.state.rank
                cases state : s.pipe.state <;> simp_all [LwsState.up, LwsState.rank]
          · cases stepCode_cases result with
            | bufferAppend =>
                exact .pending (List.suffix_append _ _).isInfix (by simp)
                  (by simp)

theorem Greeted.step_pending {text : Bytes} {trace events : List Event}
    {s s' : State} {label : Act} (worded : text ≠ [])
    (holds : text <:+: s.pipe.metadata) (state : s.service ≠ .writeableState)
    (audio : s.service ≠ .writeableAudio) (turn : Turn s s' label events)
    (texting : Texting s s' label events) :
    Greeted text (trace ++ events) s' := by
  have state' : s'.service ≠ .writeableState := by
    intro here
    rcases turn.toState here with before | ⟨_, none⟩
    · exact state before
    · rw [none, List.infix_nil] at holds
      exact worded holds
  have audio' : s'.service ≠ .writeableAudio := by
    intro here
    rcases turn.toAudio here with before | ⟨before, _⟩
    · exact audio before
    · exact state before
  cases texting with
  | wordless _ metadata =>
      exact .pending (by rwa [metadata]) state' audio'
  | append _ metadata =>
      refine .pending ?_ state' audio'
      rw [metadata]
      exact holds.trans (List.prefix_append _ _).isInfix
  | send =>
      exact .sent (List.mem_append_right _ List.mem_cons_self) holds
  | fail _ _ shut | close _ _ _ _ _ shut =>
      refine .shut ?_
      rw [shut]
      rfl

theorem Greeted.step {config : Config} {text : Bytes} {trace events : List Event}
    {s s' : State} {label : Act} {life : Life}
    (greeted : Greeted text trace s) (worded : text ≠ []) (lives : Lives s life)
    (attached : greets text s label = true) (turn : Turn s s' label events)
    (texting : Texting s s' label events)
    (step : (machine config).step s label = some (s', events)) :
    Greeted text (trace ++ events) s' := by
  cases greeted with
  | away lives unopened =>
      exact .step_away lives unopened attached turn step
  | greeting service buffers => exact .step_greeting lives service buffers step
  | pending holds state audio =>
      exact .step_pending worded holds state audio turn texting
  | sent member holds => exact .of_sent member holds
  | dropped closing audio =>
      have moved := (lives.moves step).rank_le
      refine .dropped (Nat.le_trans closing moved) ?_
      intro here
      rcases turn.toAudio here with before | ⟨before, other⟩
      · exact audio before
      · have phase : s.service.phase = .serving := by rw [before]; rfl
        obtain ⟨_, up, _⟩ := lives.serving phase
        cases state : s.pipe.state <;> simp_all [LwsState.up, LwsState.rank]
  | shut wsi =>
      cases texting with
      | wordless _ _ shut => exact .shut (shut wsi)
      | append _ _ same => exact .shut (by rwa [same])
      | send _ opened | fail _ opened | close _ _ _ opened =>
          rw [opened] at wsi
          cases wsi

/-- The invariant of the first half. -/
structure Speaks (text : Bytes) (trace : List Event) (s : State) : Prop where
  linked : Linked s
  dials : Dials s
  lives : ∃ life, Lives s life
  greeted : Greeted text trace s
  before : BeforeAudio text trace

theorem speaks_fresh (text : Bytes) : Speaks text [] .fresh := by
  refine ⟨linked_fresh, by rintro ⟨⟩, ⟨_, lives_fresh⟩,
    .away lives_fresh (by simp), ?_⟩
  intro before payload after split
  cases before <;> cases split

theorem Speaks.step {config : Config} {text : Bytes} {trace events : List Event}
    {s s' : State} {label : Act} (speaks : Speaks text trace s)
    (worded : text ≠ []) (attached : greets text s label = true)
    (step : (machine config).step s label = some (s', events)) :
    Speaks text (trace ++ events) s' := by
  obtain ⟨linked, dials, ⟨life, lives⟩, greeted, before⟩ := speaks
  have turn := step_turn step
  obtain ⟨texting, dials'⟩ := step_texting linked dials step
  obtain ⟨life', lives', _⟩ := lives.step step
  refine ⟨linked.step step, dials', ⟨life', lives'⟩,
    greeted.step worded lives attached turn texting step, ?_⟩
  intro first payload after split audio
  refine append_cons_of_append (fun first => ∃ message,
    .sent (.text message) ∈ first ∧ text <:+: message) split ?_ ?_
  · intro rest earlier
    exact before first payload rest earlier audio
  · intro middle later
    have member : .sent (.binary payload) ∈ events := by
      rw [later]
      simp
    obtain ⟨message, sent, holds⟩ :=
      greeted.spoken lives (turn.audio payload member audio)
    exact ⟨message, List.mem_append_left _ sent, holds⟩

theorem text_before_audio {config : Config} {text : Bytes}
    {labels : List Act} {trace : List Event} {finish : State}
    (worded : text ≠ [])
    (run : (machine config).Run (greets text) (machine config).initial labels
      trace finish) : BeforeAudio text trace := by
  have speaks : Speaks text trace finish :=
    run.induct (Speaks text) (speaks_fresh text) fun speaks attached step =>
      speaks.step worded attached step
  exact speaks.before

/-- Nobody has called `close()`. -/
structure Unasked (s : State) : Prop where
  pending : s.pipe.closePending = false
  state : s.pipe.state ≠ .disconnecting
  calls : ∀ thread call, s.calls thread = some call →
    call.code.closes = false
  service : ∀ code, s.service.code = some code → code.closes = false

/-- What a step of another member function does to what `close()` stores. -/
structure Uncloses (pipe next : Pipe) (rest : Option Code) : Prop where
  pending : next.closePending = pipe.closePending
  state : next.state = pipe.state
  after : ∀ code, rest = some code → code.closes = false

theorem CodeStep.uncloses {config : Config} {pipe next : Pipe} {code : Code}
    {rest : Option Code} {events : List Event}
    (step : CodeStep config pipe code next rest events)
    (other : code.closes = false) : Uncloses pipe next rest := by
  cases step with
  | closes | closeRecords | closeRecord | closesLate | closeRecorded | exchange
  | exchangeFails => cases other
  | _ => exact ⟨rfl, rfl, by simp [Code.closes]⟩

theorem Unasked.still {s s' : State} (unasked : Unasked s)
    (pending : s'.pipe.closePending = s.pipe.closePending)
    (state : s'.pipe.state ≠ .disconnecting) (calls : s'.calls = s.calls)
    (service : ∀ code, s'.service.code = some code → code.closes = false) :
    Unasked s' := by
  refine ⟨?_, state, ?_, service⟩
  · rw [pending]
    exact unasked.pending
  · rw [calls]
    exact unasked.calls

theorem Unasked.serveCode {config : Config} {s : State} {code : Code}
    {pipe : Pipe} {rest : Option Code} {events : List Event}
    {service : Service} (unasked : Unasked s)
    (inside : s.service.code = some code)
    (result : stepCode config s.pipe code = some (pipe, rest, events))
    (next : service.code = none ∨ service.code = rest) :
    Unasked { s with pipe := pipe, service := service } := by
  obtain ⟨pending, state, after⟩ :=
    (stepCode_cases result).uncloses (unasked.service code inside)
  refine unasked.still pending ?_ rfl ?_
  · show pipe.state ≠ _
    rw [state]
    exact unasked.state
  · intro code' here
    rcases next with none | same
    · have here : service.code = some code' := here
      rw [none] at here
      cases here
    · exact after code' (same.symm.trans here)

theorem Unasked.serve {config : Config} {s s' : State} {ok : Bool}
    {metadata : Option Bytes} {events : List Event} (unasked : Unasked s)
    (step : serve config s ok metadata = some (s', events)) : Unasked s' := by
  obtain ⟨_, service, taken⟩ := serve_cases step
  cases taken with
  | @closing code _ rest _ result | @shutdown code _ rest _ result
  | @metadata code _ rest _ result =>
      have inside : s.service.code = some code := by rw [service]; rfl
      refine unasked.serveCode inside result ?_
      cases rest with
      | none => exact .inl rfl
      | some next => exact .inr rfl
  | closeRecorded pending =>
      rw [unasked.pending] at pending
      cases pending
  | disconnects _ _ disconnecting | shuts disconnecting
  | closedGracefully disconnecting =>
      exact (unasked.state disconnecting).elim
  | adopt | connects | connectClient | connectClientFails | failStore
  | closedStore => exact unasked.still rfl (by simp) rfl (by rintro _ ⟨⟩)
  | @failSignal inPass | @failSignalAgain inPass =>
      refine unasked.still rfl unasked.state rfl ?_
      cases inPass <;> rintro _ ⟨⟩
  | flush | flushFails | sendText | sendTextFails | drained | sendAudio
  | sendAudioFails => exact unasked.still rfl unasked.state rfl (by rintro _ ⟨⟩)
  | _ =>
      exact unasked.still rfl unasked.state rfl
        (by simp [Service.code, Code.closes])

theorem Unasked.step {config : Config} {s s' : State} {label : Act}
    {events : List Event} (unasked : Unasked s)
    (other : ∀ thread, label ≠ .enter thread .close)
    (step : (machine config).step s label = some (s', events)) :
    Unasked s' := by
  cases label with
  | connect ok =>
      obtain ⟨_, _, taken⟩ := stepConnect_cases step
      cases taken with
      | fail => exact unasked.still rfl (by simp) rfl unasked.service
      | _ => exact unasked.still rfl unasked.state rfl unasked.service
  | enter thread op =>
      simp only [machine, AudioFork.step] at step
      split at step
      · cases step
        refine ⟨unasked.pending, unasked.state, ?_, unasked.service⟩
        intro thread' call here
        rcases updated_entry here with ⟨_, now⟩ | ⟨_, before⟩
        · cases now
          cases op with
          | close => exact (other thread rfl).elim
          | doGracefulShutdown | bufferForSending text | forkFrame reads => rfl
        · exact unasked.calls thread' call before
      · cases step
  | advance thread =>
      obtain ⟨call, pipe, rest, emitted, running, result, rfl, rfl⟩ :=
        stepCall_cases step
      obtain ⟨pending, state, after⟩ :=
        (stepCode_cases result).uncloses (unasked.calls thread call running)
      refine ⟨pending.trans unasked.pending, ?_, ?_, unasked.service⟩
      · show pipe.state ≠ _
        rw [state]
        exact unasked.state
      · intro thread' call' here
        rcases updated_entry here with ⟨_, now⟩ | ⟨_, before⟩
        · cases rest with
          | none => cases now
          | some next =>
              cases now
              exact after next rfl
        · exact unasked.calls thread' call' before
  | deliver callback =>
      simp only [machine, AudioFork.step] at step
      split at step
      · cases deliver_cases step with
        | established | connectionError | closed | writeable
        | eventWaitCancelled =>
            exact unasked.still rfl unasked.state rfl (by rintro _ ⟨⟩)
        | receive | receiveStray => exact unasked
        | _ => exact unasked.still rfl unasked.state rfl unasked.service
      · cases step
  | serve ok metadata => exact unasked.serve step

/-- What the history says about the texts. -/
structure Kept (trace : List Event) (s : State) (history : CloseHistory) :
    Prop where
  whole : s.pipe.wsi.shut = false →
    history.accepted = (sentTexts trace).flatten ++ s.pipe.metadata
  early : ∀ text, history.early = some text → text <+: history.accepted
  unasked : history.early = none → Unasked s
  closed : BeforeClose history.early trace

theorem kept_fresh : Kept [] .fresh ⟨[], none⟩ := by
  refine ⟨fun _ => rfl, by simp, fun _ =>
    ⟨rfl, by simp [State.fresh, Pipe.fresh], by rintro _ _ ⟨⟩, by rintro _ ⟨⟩⟩,
    ?_⟩
  intro before after split
  cases before <;> cases split

theorem BeforeClose.append {early : Option Bytes} {trace events : List Event}
    (closed : BeforeClose early trace)
    (absent : .writeableReturned .closing ∉ events) :
    BeforeClose early (trace ++ events) := by
  intro before after split
  refine append_cons_of_append (fun before => ∃ text, early = some text ∧
    text <+: (sentTexts before).flatten) split ?_ ?_
  · intro rest earlier
    exact closed before rest earlier
  · intro middle later
    rw [later] at absent
    simp at absent

theorem Kept.texting {trace events : List Event} {s s' : State} {label : Act}
    {history : CloseHistory} (kept : Kept trace s history)
    (unasked : history.early = none → Unasked s')
    (last : closesLast (s, history) label = true)
    (texting : Texting s s' label events) :
    Kept (trace ++ events) s'
      (match appending s label with
        | some text => { history with accepted := history.accepted ++ text }
        | none => history) := by
  have sent := (texts_append trace events).2
  cases texting with
  | wordless unappending metadata shut silent =>
      simp only [unappending]
      refine ⟨?_, kept.early, unasked, kept.closed.append ?_⟩
      · intro up
        have before : s.pipe.wsi.shut = false := by
          cases here : s.pipe.wsi.shut with
          | false => rfl
          | true =>
              rw [shut here] at up
              cases up
        rw [sent, (texts_wordless silent).2, List.append_nil, metadata]
        exact kept.whole before
      · intro member
        cases silent _ member
  | @append text appends metadata wsi =>
      simp only [appends]
      refine ⟨?_, ?_, unasked, kept.closed.append (by simp)⟩
      · rw [wsi]
        intro up
        have unsent : sentTexts [.accepted text] = [] := rfl
        rw [sent, unsent, List.append_nil, metadata, kept.whole up,
          List.append_assoc]
      · intro text' early
        exact (kept.early text' early).trans (List.prefix_append _ _)
  | send unappending opened pending metadata =>
      simp only [unappending]
      refine ⟨?_, kept.early, unasked, kept.closed.append (by simp)⟩
      intro _
      have written : sentTexts [.sent (.text s.pipe.metadata),
          .requestedWritable, .writeableReturned .textSent] =
          [s.pipe.metadata] := rfl
      rw [sent, written, metadata, List.flatten_append, List.flatten_singleton,
        List.append_nil]
      exact kept.whole (by simp [opened, Wsi.shut])
  | fail unappending opened shut =>
      simp only [unappending]
      refine ⟨?_, kept.early, unasked, kept.closed.append (by simp)⟩
      simp [shut, Wsi.shut]
  | @close ok metadata labelled here disconnecting opened same shut =>
      subst labelled
      have unappending : appending s (.serve ok metadata) = none := by
        simp [appending, advancing, here, Service.code]
      simp only [unappending]
      refine ⟨by simp [shut, Wsi.shut], kept.early, unasked, ?_⟩
      have whole := kept.whole (by simp [opened, Wsi.shut])
      intro before after split
      refine append_cons_of_append (fun before => ∃ text,
        history.early = some text ∧ text <+: (sentTexts before).flatten) split
        ?_ ?_
      · intro rest earlier
        exact kept.closed before rest earlier
      · intro middle later
        have nothing : middle = [] := by
          cases middle with
          | nil => rfl
          | cons event middle => simp at later
        rw [nothing, List.append_nil]
        cases early : history.early with
        | none => exact ((kept.unasked early).state disconnecting).elim
        | some text =>
            refine ⟨text, rfl, ?_⟩
            have bound : text.length + s.pipe.metadata.length ≤
                history.accepted.length := by
              simpa [closesLast, here, disconnecting, early] using last
            have prior := kept.early text early
            rw [whole] at prior bound
            rw [List.length_append] at bound
            exact List.prefix_of_prefix_length_le prior
              (List.prefix_append _ _) (by omega)

theorem Kept.step {config : Config} {trace events : List Event}
    {s s' : State} {label : Act} {history : CloseHistory}
    (kept : Kept trace s history) (linked : Linked s) (dials : Dials s)
    (last : closesLast (s, history) label = true)
    (step : (machine config).step s label = some (s', events)) :
    Kept (trace ++ events) s' (noteClose s label history) := by
  obtain ⟨texting, _⟩ := step_texting linked dials step
  by_cases called : ∃ thread, label = .enter thread .close
  · obtain ⟨thread, rfl⟩ := called
    simp only [machine, AudioFork.step] at step
    split at step
    · cases step
      rw [List.append_nil]
      refine ⟨kept.whole, ?_, by rintro ⟨⟩, ?_⟩
      · rintro text ⟨⟩
        cases early : history.early with
        | none => exact List.prefix_rfl
        | some text => exact kept.early text early
      · intro before after split
        obtain ⟨text, early, sent⟩ := kept.closed before after split
        refine ⟨text, ?_, sent⟩
        simp [noteClose, early]
    · cases step
  · have other : ∀ thread, label ≠ .enter thread .close :=
      fun thread same => called ⟨thread, same⟩
    have noted : noteClose s label history =
        match appending s label with
        | some text => { history with accepted := history.accepted ++ text }
        | none => history := by
      unfold noteClose
      split
      · exact (other _ rfl).elim
      · rfl
    rw [noted]
    refine kept.texting ?_ last texting
    intro early
    exact (kept.unasked early).step other step

theorem early_text_sent {config : Config} {labels : List Act}
    {trace : List Event} {finish : State × CloseHistory}
    (run : (recordedClose config).Run closesLast (recordedClose config).initial
      labels trace finish) : BeforeClose finish.2.early trace := by
  have all : Linked finish.1 ∧ Dials finish.1 ∧
      Kept trace finish.1 finish.2 := by
    refine run.induct (fun trace recorded => Linked recorded.1 ∧
      Dials recorded.1 ∧ Kept trace recorded.1 recorded.2)
      ⟨linked_fresh, by rintro ⟨⟩, kept_fresh⟩ ?_
    rintro trace ⟨s, history⟩ label ⟨s', history'⟩ events
      ⟨linked, dials, kept⟩ last step
    obtain ⟨taken, noted⟩ := Machine.recording_step step
    simp only at taken noted
    subst noted
    exact ⟨linked.step taken, (step_texting linked dials taken).2,
      kept.step linked dials last taken⟩
  exact all.2.2.closed

/-- The initial metadata goes before all audio, and as long as WRITEABLE does
not close the connection with earlier text pending, all text accepted before
`close()` was called goes before our close. -/
theorem text_first (config : Config) {labels : List Act} {trace : List Event}
    {finish : State × CloseHistory}
    (run : (recordedClose config).Run closesLast (recordedClose config).initial
      labels trace finish) :
    (∀ text, text ≠ [] →
        (machine config).Run (greets text) (machine config).initial labels trace
          finish.1 →
        BeforeAudio text trace) ∧
      BeforeClose finish.2.early trace :=
  ⟨fun _ worded attached => text_before_audio worded attached,
    early_text_sent run⟩

/-- Initial metadata, audio, a final text and `close()`, with WRITEABLE coming
after each. -/
theorem text_first_of_stop :
    ∃ labels trace finish,
      (recordedClose ⟨64000, 320, 1, false⟩).Run closesLast
          (recordedClose ⟨64000, 320, 1, false⟩).initial labels trace finish ∧
        .sent (.binary [7]) ∈ trace ∧ .writeableReturned .closing ∈ trace ∧
        finish.2.early = some [1, 2, 3] ∧ BeforeAudio [1, 2] trace ∧
        BeforeClose finish.2.early trace := by
  let labels : List Act :=
    startHandshake ++ establishWith [1, 2] ++
      Act.enter 3 (.forkFrame [[7]]) :: List.replicate 6 (.advance 3) ++
      [Act.deliver .writeable] ++ serves 2 ++ [Act.deliver .writeable] ++
      serves 4 ++ sendText 1 [3] ++ closeBy 2 ++ [Act.deliver .writeable] ++
      serves 2 ++ [Act.deliver .writeable] ++ serves 3
  have executed : ((recordedClose ⟨64000, 320, 1, false⟩).exec
      (fun recorded label => closesLast recorded label &&
        greets [1, 2] recorded.1 label)
      (recordedClose ⟨64000, 320, 1, false⟩).initial labels).map (fun outcome =>
        decide (.sent (.binary [7]) ∈ outcome.2 ∧
          .writeableReturned .closing ∈ outcome.2 ∧
          outcome.1.2.early = some [1, 2, 3])) = some true := by
    decide
  obtain ⟨finish, trace, both, observed⟩ := Machine.exists_run_of_exec _ executed
  obtain ⟨audio, closed, early⟩ := of_decide_eq_true observed
  have run := both.mono fun _ _ guarded => (Bool.and_eq_true_iff.mp guarded).1
  have attached : (machine ⟨64000, 320, 1, false⟩).Run (greets [1, 2]) .fresh
      labels trace finish.1 :=
    both.plain fun _ _ guarded => (Bool.and_eq_true_iff.mp guarded).2
  obtain ⟨before, last⟩ := text_first _ run
  exact ⟨labels, trace, finish, run, audio, closed, early,
    before [1, 2] (by simp) attached, last⟩

/-- No graceful shutdown, every write succeeds, and the far end does not
close. -/
def uninterrupted (recorded : State × CloseHistory) : Act → Bool
  | .enter _ .doGracefulShutdown => false
  | .serve ok _ => ok
  | .deliver .closed => recorded.1.pipe.wsi == .closing
  | _ => true

/-- WRITEABLE finds no text; the final text is accepted and `close()` is called;
WRITEABLE finds the pipe DISCONNECTING and closes the connection. -/
theorem final_text_lost :
    ¬ ∀ (config : Config) (labels : List Act) (trace : List Event)
      (finish : State × CloseHistory),
      (recordedClose config).Run uninterrupted (recordedClose config).initial
        labels trace finish →
      (∀ text, text ≠ [] →
          (machine config).Run (greets text) (machine config).initial labels
            trace finish.1 →
          BeforeAudio text trace) ∧
        BeforeClose finish.2.early trace := by
  intro always
  let labels : List Act :=
    startHandshake ++ [Act.deliver .established] ++ serves 4 ++
      [Act.deliver .writeable] ++ serves 2 ++ sendText 1 [3] ++ closeBy 2 ++
      serves 1
  have executed : ((recordedClose ⟨64000, 320, 1, false⟩).exec uninterrupted
      (recordedClose ⟨64000, 320, 1, false⟩).initial labels).map (fun outcome =>
        decide (outcome.2 = outcome.2.dropLast ++
            [.writeableReturned .closing] ∧
          sentTexts outcome.2.dropLast = [] ∧
          outcome.1.2.early = some [3])) = some true := by
    decide
  obtain ⟨finish, trace, run, observed⟩ := Machine.exists_run_of_exec _ executed
  obtain ⟨split, unsent, early⟩ := of_decide_eq_true observed
  obtain ⟨text, same, sent⟩ := (always _ labels trace finish run).2 _ [] split
  rw [early] at same
  cases same
  rw [unsent] at sent
  simp at sent

end DrachtioModules.AudioFork

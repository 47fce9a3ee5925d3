import DrachtioModules.AudioFork.Pipe

/-!
# The branches of every step of a pipe

What each step function can do, branch by branch, with what the branch has
tested: an invariant is proved by going through the branches and need not look
into the step functions again.
-/

namespace DrachtioModules.AudioFork

inductive CodeStep (config : Config) (pipe : Pipe) :
    Code → Pipe → Option Code → List Event → Prop where
  | gracefulQueues (connected : pipe.state = .connected) :
      CodeStep config pipe .gracefulCheck pipe (some .queueWrite) []
  | gracefulRecords (unconnected : pipe.state ≠ .connected) :
      CodeStep config pipe .gracefulCheck pipe (some .gracefulRecord) []
  | gracefulRecord :
      CodeStep config pipe .gracefulRecord
        { pipe with gracefulShutdown := true } (some .gracefulRecheck) []
  | gracefulQueuesLate (connected : pipe.state = .connected) :
      CodeStep config pipe .gracefulRecheck pipe (some .queueWrite) []
  | gracefulRecorded (unconnected : pipe.state ≠ .connected) :
      CodeStep config pipe .gracefulRecheck pipe none []
  | closes (connected : pipe.state = .connected) :
      CodeStep config pipe .closeCheck pipe (some .closeExchange) []
  | closeRecords (unconnected : pipe.state ≠ .connected) :
      CodeStep config pipe .closeCheck pipe (some .closeRecord) []
  | closeRecord :
      CodeStep config pipe .closeRecord
        { pipe with closePending := true } (some .closeRecheck) []
  | closesLate (connected : pipe.state = .connected) :
      CodeStep config pipe .closeRecheck pipe (some .closeExchange) []
  | closeRecorded (unconnected : pipe.state ≠ .connected) :
      CodeStep config pipe .closeRecheck pipe none []
  | exchange (connected : pipe.state = .connected) :
      CodeStep config pipe .closeExchange
        { pipe with state := .disconnecting } (some .closeQueue) []
  | exchangeFails (unconnected : pipe.state ≠ .connected) :
      CodeStep config pipe .closeExchange pipe none []
  | closeQueue :
      CodeStep config pipe .closeQueue
        { pipe with pendingDisconnects := pipe.pendingDisconnects + 1 }
        (some .cancelService) []
  | buffers {text : Bytes} (connected : pipe.state = .connected) :
      CodeStep config pipe (.bufferCheck text) pipe (some (.bufferAppend text))
        []
  | drops {text : Bytes} (unconnected : pipe.state ≠ .connected) :
      CodeStep config pipe (.bufferCheck text) pipe none []
  | bufferAppend {text : Bytes} :
      CodeStep config pipe (.bufferAppend text)
        { pipe with metadata := pipe.metadata ++ text } (some .queueWrite)
        [.accepted text]
  | queueWrite :
      CodeStep config pipe .queueWrite
        { pipe with pendingWrites := pipe.pendingWrites + 1 }
        (some .cancelService) []
  | cancelService : CodeStep config pipe .cancelService pipe none []
  | frame {reads : List Bytes} (connected : pipe.state = .connected) :
      CodeStep config pipe (.frameCheck reads) pipe (some (.frameLock reads)) []
  | frameDrops {reads : List Bytes} (unconnected : pipe.state ≠ .connected) :
      CodeStep config pipe (.frameCheck reads) pipe none []
  | frameLock {reads : List Bytes} (free : pipe.audioLocked = false) :
      CodeStep config pipe (.frameLock reads)
        { pipe with audioLocked := true } (some (.frameRead reads)) []
  | frameRead {reads : List Bytes} :
      CodeStep config pipe (.frameRead reads)
        { pipe with ring := forkFrame config pipe.ring reads }
        (some .frameQueue) []
  | frameQueue (audio : pipe.ring ≠ []) :
      CodeStep config pipe .frameQueue
        { pipe with pendingWrites := pipe.pendingWrites + 1 }
        (some .frameCancel) []
  | frameQueueNothing (silence : pipe.ring = []) :
      CodeStep config pipe .frameQueue pipe (some .frameUnlock) []
  | frameCancel :
      CodeStep config pipe .frameCancel pipe (some .frameUnlock) []
  | frameUnlock :
      CodeStep config pipe .frameUnlock
        { pipe with audioLocked := false } none []

theorem stepCode_cases {config : Config} {pipe next : Pipe} {code : Code}
    {rest : Option Code} {events : List Event}
    (step : stepCode config pipe code = some (next, rest, events)) :
    CodeStep config pipe code next rest events := by
  cases code with
  | gracefulCheck =>
      simp only [stepCode] at step
      split at step <;> cases step <;> rename_i state
      · exact .gracefulQueues state
      · exact .gracefulRecords state
  | gracefulRecheck =>
      simp only [stepCode] at step
      split at step <;> cases step <;> rename_i state
      · exact .gracefulQueuesLate state
      · exact .gracefulRecorded state
  | closeCheck =>
      simp only [stepCode] at step
      split at step <;> cases step <;> rename_i state
      · exact .closes state
      · exact .closeRecords state
  | closeRecheck =>
      simp only [stepCode] at step
      split at step <;> cases step <;> rename_i state
      · exact .closesLate state
      · exact .closeRecorded state
  | closeExchange =>
      simp only [stepCode] at step
      split at step <;> cases step <;> rename_i state
      · exact .exchange state
      · exact .exchangeFails state
  | bufferCheck text =>
      simp only [stepCode] at step
      split at step <;> cases step <;> rename_i state
      · exact .buffers state
      · exact .drops state
  | frameCheck reads =>
      simp only [stepCode] at step
      split at step <;> cases step <;> rename_i state
      · exact .frame state
      · exact .frameDrops state
  | frameLock reads =>
      simp only [stepCode] at step
      split at step
      · cases step
      · rename_i free
        cases step
        exact .frameLock (by simpa using free)
  | frameQueue =>
      simp only [stepCode] at step
      split at step <;> cases step <;> rename_i ring
      · exact .frameQueueNothing ring
      · exact .frameQueue ring
  | gracefulRecord => cases step; exact .gracefulRecord
  | closeRecord => cases step; exact .closeRecord
  | closeQueue => cases step; exact .closeQueue
  | bufferAppend text => cases step; exact .bufferAppend
  | queueWrite => cases step; exact .queueWrite
  | cancelService => cases step; exact .cancelService
  | frameRead reads => cases step; exact .frameRead
  | frameCancel => cases step; exact .frameCancel
  | frameUnlock => cases step; exact .frameUnlock

structure CodeEffect (pipe next : Pipe) : Prop where
  state : next.state = pipe.state ∨
    pipe.state = .connected ∧ next.state = .disconnecting
  wsi : next.wsi = pipe.wsi
  pending : next.inPendingConnects = pipe.inPendingConnects
  flag : pipe.gracefulShutdown = true → next.gracefulShutdown = true

theorem stepCode_effect {config : Config} {pipe next : Pipe} {code : Code}
    {rest : Option Code} {events : List Event}
    (step : stepCode config pipe code = some (next, rest, events)) :
    CodeEffect pipe next := by
  cases stepCode_cases step with
  | gracefulRecord => exact ⟨.inl rfl, rfl, rfl, fun _ => rfl⟩
  | exchange connected => exact ⟨.inr ⟨connected, rfl⟩, rfl, rfl, id⟩
  | _ => exact ⟨.inl rfl, rfl, rfl, id⟩

/-- Only `bufferForSending` past its check adds text. -/
theorem stepCode_metadata {config : Config} {pipe next : Pipe} {code : Code}
    {rest : Option Code} {events : List Event}
    (step : stepCode config pipe code = some (next, rest, events))
    (silent : ∀ text, code ≠ .bufferAppend text) :
    next.metadata = pipe.metadata := by
  cases stepCode_cases step with
  | bufferAppend => exact (silent _ rfl).elim
  | _ => rfl

/-- A member function emits nothing but the texts it accepts. -/
theorem stepCode_events {config : Config} {pipe next : Pipe} {code : Code}
    {rest : Option Code} {events : List Event}
    (step : stepCode config pipe code = some (next, rest, events)) :
    events = [] ∨ ∃ text, events = [.accepted text] := by
  cases stepCode_cases step with
  | bufferAppend => exact .inr ⟨_, rfl⟩
  | _ => exact .inl rfl

inductive ConnectStep (s : State) :
    ConnectCall → State → List Event → Prop where
  | enter :
      ConnectStep s .notCalled { s with connectCall := .entered } []
  | add :
      ConnectStep s .entered
        { s with
          pipe := { s.pipe with inPendingConnects := true }
          connectCall := .cancelService } []
  | fail :
      ConnectStep s .entered
        { s with
          pipe := { s.pipe with state := .failed }
          connectCall := .notify } []
  | notify :
      ConnectStep s .notify { s with connectCall := .signal }
        [.notified .connectFail]
  | signal (first : s.pipe.closeSignaled = false) :
      ConnectStep s .signal
        { s with
          pipe := { s.pipe with closeSignaled := true }
          connectCall := .returned }
        [.closeSignaled]
  | signalAgain (again : s.pipe.closeSignaled = true) :
      ConnectStep s .signal { s with connectCall := .returned } []
  | cancelService :
      ConnectStep s .cancelService { s with connectCall := .returned } []

theorem stepConnect_cases {s s' : State} {ok : Bool} {events : List Event}
    (step : stepConnect s ok = some (s', events)) :
    ∃ stage, s.connectCall = stage ∧ ConnectStep s stage s' events := by
  refine ⟨s.connectCall, rfl, ?_⟩
  unfold stepConnect at step
  cases stage : s.connectCall with
  | notCalled =>
      simp only [stage] at step
      cases step
      exact .enter
  | entered =>
      simp only [stage] at step
      split at step <;> cases step
      · exact .add
      · exact .fail
  | notify =>
      simp only [stage] at step
      cases step
      exact .notify
  | signal =>
      simp only [stage, setClosed] at step
      cases signaled : s.pipe.closeSignaled <;>
        simp only [signaled] at step <;> cases step
      · exact .signal signaled
      · exact .signalAgain signaled
  | cancelService =>
      simp only [stage] at step
      cases step
      exact .cancelService
  | returned => simp [stage] at step

/-- The heads of the callbacks: on the pipe, or on a wsi that names none. -/
inductive DeliverStep (s : State) :
    Callback → State → List Event → Prop where
  | established (handshaking : s.pipe.wsi = .handshaking)
      (found : s.pipe.inPendingConnects = true)
      (connecting : s.pipe.state = .connecting) :
      DeliverStep s .established
        { s with
          pipe := { s.pipe with inPendingConnects := false, wsi := .opened }
          service := .establishedAdopt } []
  | establishedStray (handshaking : s.pipe.wsi = .handshaking)
      (lost : ¬ (s.pipe.inPendingConnects = true ∧
        s.pipe.state = .connecting)) :
      DeliverStep s .established
        { s with pipe := { s.pipe with wsi := .opened } } []
  | connectionError (handshaking : s.pipe.wsi = .handshaking)
      (found : s.pipe.inPendingConnects = true)
      (connecting : s.pipe.state = .connecting) :
      DeliverStep s .connectionError
        { s with
          pipe := { s.pipe with inPendingConnects := false, wsi := .freed }
          service := .failing .store false } []
  | connectionErrorStray (handshaking : s.pipe.wsi = .handshaking)
      (lost : ¬ (s.pipe.inPendingConnects = true ∧
        s.pipe.state = .connecting)) :
      DeliverStep s .connectionError
        { s with pipe := { s.pipe with wsi := .freed } } []
  | closed (joined : s.pipe.wsi = .opened ∨ s.pipe.wsi = .closing)
      (adopted : s.pipe.adopted = true) :
      DeliverStep s .closed
        { s with
          pipe := { s.pipe with wsi := .freed }
          service := .closedGracefully } []
  | closedStray (joined : s.pipe.wsi = .opened ∨ s.pipe.wsi = .closing)
      (unadopted : s.pipe.adopted = false) :
      DeliverStep s .closed
        { s with pipe := { s.pipe with wsi := .freed } } []
  | receive {text : Bytes} (opened : s.pipe.wsi = .opened)
      (adopted : s.pipe.adopted = true) :
      DeliverStep s (.receive text) s [.notified (.message text)]
  | receiveStray {text : Bytes} (opened : s.pipe.wsi = .opened)
      (unadopted : s.pipe.adopted = false) :
      DeliverStep s (.receive text) s []
  | writeable (opened : s.pipe.wsi = .opened)
      (adopted : s.pipe.adopted = true) :
      DeliverStep s .writeable
        { s with
          pipe := { s.pipe with writable := false }
          service := .writeableFlag }
        [.writeableEntered]
  | writeableStray (opened : s.pipe.wsi = .opened)
      (unadopted : s.pipe.adopted = false) :
      DeliverStep s .writeable
        { s with pipe := { s.pipe with writable := false } } []
  | eventWaitCancelled :
      DeliverStep s .eventWaitCancelled { s with service := .pendingConnects }
        []

theorem deliver_cases {s s' : State} {callback : Callback}
    {events : List Event} (step : deliver s callback = some (s', events)) :
    DeliverStep s callback s' events := by
  cases callback with
  | established =>
      simp only [deliver] at step
      split at step
      · rename_i handshaking
        split at step <;> cases step <;> rename_i found
        · exact .established handshaking found.1 found.2
        · exact .establishedStray handshaking found
      · cases step
  | connectionError =>
      simp only [deliver] at step
      split at step
      · rename_i handshaking
        split at step <;> cases step <;> rename_i found
        · exact .connectionError handshaking found.1 found.2
        · exact .connectionErrorStray handshaking found
      · cases step
  | closed =>
      simp only [deliver] at step
      split at step
      · rename_i joined
        split at step <;> cases step <;> rename_i adopted
        · exact .closed joined adopted
        · exact .closedStray joined (by simpa using adopted)
      · cases step
  | receive text =>
      simp only [deliver] at step
      split at step
      · rename_i opened
        split at step <;> cases step <;> rename_i adopted
        · exact .receive opened adopted
        · exact .receiveStray opened (by simpa using adopted)
      · cases step
  | writeable =>
      simp only [deliver] at step
      split at step
      · rename_i opened
        split at step <;> cases step <;> rename_i adopted
        · exact .writeable opened adopted
        · exact .writeableStray opened (by simpa using adopted)
      · cases step
  | eventWaitCancelled =>
      simp only [deliver] at step
      cases step
      exact .eventWaitCancelled

theorem serveCode_cases {config : Config} {s s' : State} {code : Code}
    {resume : Code → Service} {done : Service} {events : List Event}
    (step : serveCode config s code resume done = some (s', events)) :
    ∃ pipe rest, stepCode config s.pipe code = some (pipe, rest, events) ∧
      s' = { s with pipe := pipe, service := rest.elim done resume } := by
  unfold serveCode at step
  cases result : stepCode config s.pipe code with
  | none => simp [result] at step
  | some outcome =>
      obtain ⟨pipe, rest, emitted⟩ := outcome
      cases rest with
      | some next | none =>
          simp only [result] at step
          cases step
          exact ⟨pipe, _, rfl, rfl⟩

inductive ServeStep (config : Config) (s : State) (ok : Bool)
    (metadata : Option Bytes) : Service → State → List Event → Prop where
  | adopt :
      ServeStep config s ok metadata .establishedAdopt
        { s with
          pipe := { s.pipe with
            adopted := true, vhd := true, state := .connected }
          service := .establishedClose } []
  | closeRecorded (pending : s.pipe.closePending = true) :
      ServeStep config s ok metadata .establishedClose
        { s with service := .establishedClosing .closeCheck } []
  | closeUnrecorded (none : s.pipe.closePending = false) :
      ServeStep config s ok metadata .establishedClose
        { s with service := .establishedGraceful } []
  | closing {code : Code} {pipe : Pipe} {rest : Option Code}
      {events : List Event}
      (step : stepCode config s.pipe code = some (pipe, rest, events)) :
      ServeStep config s ok metadata (.establishedClosing code)
        { s with
          pipe := pipe
          service := rest.elim .establishedGraceful .establishedClosing } events
  | gracefulRecorded (flag : s.pipe.gracefulShutdown = true) :
      ServeStep config s ok metadata .establishedGraceful
        { s with service := .establishedShutdown .gracefulCheck } []
  | gracefulUnrecorded (unset : s.pipe.gracefulShutdown = false) :
      ServeStep config s ok metadata .establishedGraceful
        { s with service := .establishedNotify } []
  | shutdown {code : Code} {pipe : Pipe} {rest : Option Code}
      {events : List Event}
      (step : stepCode config s.pipe code = some (pipe, rest, events)) :
      ServeStep config s ok metadata (.establishedShutdown code)
        { s with
          pipe := pipe
          service := rest.elim .establishedNotify .establishedShutdown } events
  | notifyConnect {text : Bytes} (given : metadata = some text) :
      ServeStep config s ok metadata .establishedNotify
        { s with service := .establishedMetadata (.bufferCheck text) }
        [.notified .connectSuccess]
  | notifyConnectOnly (absent : metadata = none) :
      ServeStep config s ok metadata .establishedNotify
        { s with service := .idle } [.notified .connectSuccess]
  | metadata {code : Code} {pipe : Pipe} {rest : Option Code}
      {events : List Event}
      (step : stepCode config s.pipe code = some (pipe, rest, events)) :
      ServeStep config s ok metadata (.establishedMetadata code)
        { s with
          pipe := pipe
          service := rest.elim .idle .establishedMetadata } events
  | connects (found : s.pipe.inPendingConnects = true)
      (idle : s.pipe.state = .idle) :
      ServeStep config s ok metadata .pendingConnects
        { s with
          pipe := { s.pipe with state := .connecting }
          service := .connectClient } []
  | connectsNothing :
      ServeStep config s ok metadata .pendingConnects
        { s with service := .pendingDisconnects } []
  | connectClient (dialled : ok = true) :
      ServeStep config s ok metadata .connectClient
        { s with
          pipe := { s.pipe with
            state := .connecting, vhd := true, wsi := .handshaking }
          service := .pendingDisconnects } []
  | connectClientFails (refused : ok = false) :
      ServeStep config s ok metadata .connectClient
        { s with
          pipe := { s.pipe with state := .connecting, vhd := true }
          service := .failing .store true } []
  | failStore {inPass : Bool} :
      ServeStep config s ok metadata (.failing .store inPass)
        { s with
          pipe := { s.pipe with state := .failed }
          service := .failing .notify inPass } []
  | failNotify {inPass : Bool} :
      ServeStep config s ok metadata (.failing .notify inPass)
        { s with service := .failing .signal inPass } [.notified .connectFail]
  | failSignal {inPass : Bool} (first : s.pipe.closeSignaled = false) :
      ServeStep config s ok metadata (.failing .signal inPass)
        { s with
          pipe := { s.pipe with closeSignaled := true }
          service := if inPass then .pendingDisconnects else .idle }
        [.closeSignaled]
  | failSignalAgain {inPass : Bool} (again : s.pipe.closeSignaled = true) :
      ServeStep config s ok metadata (.failing .signal inPass)
        { s with
          service := if inPass then .pendingDisconnects else .idle } []
  | disconnects (vhd : s.pipe.vhd = true)
      (pending : 0 < s.pipe.pendingDisconnects)
      (disconnecting : s.pipe.state = .disconnecting) :
      ServeStep config s ok metadata .pendingDisconnects
        { s with
          pipe := { s.pipe with pendingDisconnects := 0 }
          service := .disconnectWritable } []
  | disconnectsStale (vhd : s.pipe.vhd = true)
      (pending : 0 < s.pipe.pendingDisconnects)
      (stale : s.pipe.state ≠ .disconnecting) :
      ServeStep config s ok metadata .pendingDisconnects
        { s with
          pipe := { s.pipe with pendingDisconnects := 0 }
          service := .pendingWrites } []
  | disconnectsNothing :
      ServeStep config s ok metadata .pendingDisconnects
        { s with service := .pendingWrites } []
  | disconnectWritable :
      ServeStep config s ok metadata .disconnectWritable
        { s with
          pipe := { s.pipe with writable := true }
          service := .pendingWrites }
        [.requestedWritable]
  | writes (vhd : s.pipe.vhd = true) (pending : 0 < s.pipe.pendingWrites)
      (connected : s.pipe.state = .connected) :
      ServeStep config s ok metadata .pendingWrites
        { s with
          pipe := { s.pipe with pendingWrites := 0 }
          service := .writeWritable } []
  | writesStale (vhd : s.pipe.vhd = true) (pending : 0 < s.pipe.pendingWrites)
      (stale : s.pipe.state ≠ .connected) :
      ServeStep config s ok metadata .pendingWrites
        { s with
          pipe := { s.pipe with pendingWrites := 0 }
          service := .idle } []
  | writesNothing :
      ServeStep config s ok metadata .pendingWrites { s with service := .idle }
        []
  | writeWritable :
      ServeStep config s ok metadata .writeWritable
        { s with
          pipe := { s.pipe with writable := true }
          service := .idle }
        [.requestedWritable]
  | closedGracefully (disconnecting : s.pipe.state = .disconnecting) :
      ServeStep config s ok metadata .closedGracefully
        { s with service := .closedStore }
        [.notified .connectionClosedGracefully]
  | closedOtherwise (other : s.pipe.state ≠ .disconnecting) :
      ServeStep config s ok metadata .closedGracefully
        { s with service := .closedDropped } []
  | closedDropped (connected : s.pipe.state = .connected) :
      ServeStep config s ok metadata .closedDropped
        { s with service := .closedStore } [.notified .connectionDropped]
  | closedQuietly (other : s.pipe.state ≠ .connected) :
      ServeStep config s ok metadata .closedDropped
        { s with service := .closedStore } []
  | closedStore :
      ServeStep config s ok metadata .closedStore
        { s with
          pipe := { s.pipe with state := .disconnected }
          service := .closedSignal } []
  | closedSignal (first : s.pipe.closeSignaled = false) :
      ServeStep config s ok metadata .closedSignal
        { s with
          pipe := { s.pipe with closeSignaled := true, adopted := false }
          service := .idle }
        [.closeSignaled]
  | closedSignalAgain (again : s.pipe.closeSignaled = true) :
      ServeStep config s ok metadata .closedSignal
        { s with
          pipe := { s.pipe with adopted := false }
          service := .idle } []
  | flagged (flag : s.pipe.gracefulShutdown = true) :
      ServeStep config s ok metadata .writeableFlag
        { s with service := .writeableFlush } []
  | unflagged (unset : s.pipe.gracefulShutdown = false) :
      ServeStep config s ok metadata .writeableFlag
        { s with service := .writeableText } []
  | flush (free : s.pipe.audioLocked = false) (written : ok = true) :
      ServeStep config s ok metadata .writeableFlush
        (endWriteable s s.pipe [.sent (.binary [])] .flushed).1
        (endWriteable s s.pipe [.sent (.binary [])] .flushed).2
  | flushFails (free : s.pipe.audioLocked = false) (failed : ok = false) :
      ServeStep config s ok metadata .writeableFlush
        (endWriteable s s.pipe [] .writeFailed).1
        (endWriteable s s.pipe [] .writeFailed).2
  | noText (none : s.pipe.metadata = []) :
      ServeStep config s ok metadata .writeableText
        { s with service := .writeableState } []
  | sendText (pending : s.pipe.metadata ≠ []) (written : ok = true) :
      ServeStep config s ok metadata .writeableText
        (endWriteable s { s.pipe with metadata := [], writable := true }
          [.sent (.text s.pipe.metadata), .requestedWritable] .textSent).1
        (endWriteable s { s.pipe with metadata := [], writable := true }
          [.sent (.text s.pipe.metadata), .requestedWritable] .textSent).2
  | sendTextFails (pending : s.pipe.metadata ≠ []) (failed : ok = false) :
      ServeStep config s ok metadata .writeableText
        (endWriteable s { s.pipe with metadata := [] } [] .writeFailed).1
        (endWriteable s { s.pipe with metadata := [] } [] .writeFailed).2
  | shuts (disconnecting : s.pipe.state = .disconnecting) :
      ServeStep config s ok metadata .writeableState
        (endWriteable s s.pipe [] .closing).1
        (endWriteable s s.pipe [] .closing).2
  | stays (other : s.pipe.state ≠ .disconnecting) :
      ServeStep config s ok metadata .writeableState
        { s with service := .writeableAudio } []
  | drained (free : s.pipe.audioLocked = false) (silence : s.pipe.ring = []) :
      ServeStep config s ok metadata .writeableAudio
        (endWriteable s s.pipe [] .drained).1
        (endWriteable s s.pipe [] .drained).2
  | sendAudio (free : s.pipe.audioLocked = false) (audio : s.pipe.ring ≠ [])
      (written : ok = true) :
      ServeStep config s ok metadata .writeableAudio
        (endWriteable s { s.pipe with ring := [] }
          [.sent (.binary s.pipe.ring)] .audioSent).1
        (endWriteable s { s.pipe with ring := [] }
          [.sent (.binary s.pipe.ring)] .audioSent).2
  | sendAudioFails (free : s.pipe.audioLocked = false)
      (audio : s.pipe.ring ≠ []) (failed : ok = false) :
      ServeStep config s ok metadata .writeableAudio
        (endWriteable s { s.pipe with ring := [] } [] .audioSent).1
        (endWriteable s { s.pipe with ring := [] } [] .audioSent).2

theorem serve_cases {config : Config} {s s' : State} {ok : Bool}
    {metadata : Option Bytes} {events : List Event}
    (step : serve config s ok metadata = some (s', events)) :
    ∃ service, s.service = service ∧
      ServeStep config s ok metadata service s' events := by
  refine ⟨s.service, rfl, ?_⟩
  unfold serve at step
  cases service : s.service with
  | idle => simp [service] at step
  | establishedAdopt =>
      simp only [service] at step
      cases step
      exact .adopt
  | establishedClose =>
      simp only [service] at step
      split at step <;> cases step <;> rename_i pending
      · exact .closeRecorded pending
      · exact .closeUnrecorded (by simpa using pending)
  | establishedClosing code =>
      simp only [service] at step
      obtain ⟨pipe, rest, result, rfl⟩ := serveCode_cases step
      exact .closing result
  | establishedGraceful =>
      simp only [service] at step
      split at step <;> cases step <;> rename_i flag
      · exact .gracefulRecorded flag
      · exact .gracefulUnrecorded (by simpa using flag)
  | establishedShutdown code =>
      simp only [service] at step
      obtain ⟨pipe, rest, result, rfl⟩ := serveCode_cases step
      exact .shutdown result
  | establishedNotify =>
      cases metadata with
      | some text =>
          simp only [service] at step
          cases step
          exact .notifyConnect rfl
      | none =>
          simp only [service] at step
          cases step
          exact .notifyConnectOnly rfl
  | establishedMetadata code =>
      simp only [service] at step
      obtain ⟨pipe, rest, result, rfl⟩ := serveCode_cases step
      exact .metadata result
  | pendingConnects =>
      simp only [service] at step
      split at step <;> cases step
      · rename_i found
        exact .connects found.1 found.2
      · exact .connectsNothing
  | connectClient =>
      simp only [service] at step
      cases ok <;> cases step
      · exact .connectClientFails rfl
      · exact .connectClient rfl
  | failing stage inPass =>
      cases stage with
      | store =>
          simp only [service] at step
          cases step
          exact .failStore
      | notify =>
          simp only [service] at step
          cases step
          exact .failNotify
      | signal =>
          simp only [service, setClosed] at step
          cases signaled : s.pipe.closeSignaled <;>
            simp only [signaled] at step <;> cases step
          · exact .failSignal signaled
          · exact .failSignalAgain signaled
  | pendingDisconnects =>
      simp only [service] at step
      split at step
      · rename_i pending
        split at step <;> cases step <;> rename_i state
        · exact .disconnects pending.1 pending.2 state
        · exact .disconnectsStale pending.1 pending.2 state
      · cases step
        exact .disconnectsNothing
  | disconnectWritable =>
      simp only [service] at step
      cases step
      exact .disconnectWritable
  | pendingWrites =>
      simp only [service] at step
      split at step
      · rename_i pending
        split at step <;> cases step <;> rename_i state
        · exact .writes pending.1 pending.2 state
        · exact .writesStale pending.1 pending.2 state
      · cases step
        exact .writesNothing
  | writeWritable =>
      simp only [service] at step
      cases step
      exact .writeWritable
  | closedGracefully =>
      simp only [service] at step
      split at step <;> cases step <;> rename_i state
      · exact .closedGracefully state
      · exact .closedOtherwise state
  | closedDropped =>
      simp only [service] at step
      split at step <;> cases step <;> rename_i state
      · exact .closedDropped state
      · exact .closedQuietly state
  | closedStore =>
      simp only [service] at step
      cases step
      exact .closedStore
  | closedSignal =>
      simp only [service, setClosed] at step
      cases signaled : s.pipe.closeSignaled <;>
        simp only [signaled] at step <;> cases step
      · exact .closedSignal signaled
      · exact .closedSignalAgain signaled
  | writeableFlag =>
      simp only [service] at step
      split at step <;> cases step <;> rename_i flag
      · exact .flagged flag
      · exact .unflagged (by simpa using flag)
  | writeableFlush =>
      simp only [service] at step
      split at step
      · cases step
      · rename_i locked
        have free : s.pipe.audioLocked = false := by simpa using locked
        cases ok <;> cases step
        · exact .flushFails free rfl
        · exact .flush free rfl
  | writeableText =>
      simp only [service] at step
      split at step
      · rename_i none
        cases step
        exact .noText none
      · rename_i pending
        cases ok <;> cases step
        · exact .sendTextFails pending rfl
        · exact .sendText pending rfl
  | writeableState =>
      simp only [service] at step
      split at step <;> cases step <;> rename_i state
      · exact .shuts state
      · exact .stays state
  | writeableAudio =>
      simp only [service] at step
      split at step
      · cases step
      · rename_i locked
        have free : s.pipe.audioLocked = false := by simpa using locked
        split at step
        · rename_i silence
          cases step
          exact .drained free silence
        · rename_i audio
          cases ok <;> cases step
          · exact .sendAudioFails free audio rfl
          · exact .sendAudio free audio rfl

theorem stepCall_cases {config : Config} {s s' : State} {thread : Nat}
    {events : List Event} (step : stepCall config s thread = some (s', events)) :
    ∃ call pipe rest emitted, s.calls thread = some call ∧
      stepCode config s.pipe call.code = some (pipe, rest, emitted) ∧
      s' = { s with
        pipe := pipe
        calls := Function.update s.calls thread
          (rest.map fun next => { call with code := next }) } ∧
      events = emitted ++ rest.elim [.returned call.op] fun _ => [] := by
  unfold stepCall at step
  cases running : s.calls thread with
  | none => simp [running] at step
  | some call =>
      simp only [running] at step
      cases result : stepCode config s.pipe call.code with
      | none => simp [result] at step
      | some outcome =>
          obtain ⟨pipe, rest, emitted⟩ := outcome
          cases rest with
          | some next =>
              simp only [result] at step
              cases step
              exact ⟨call, pipe, some next, events, rfl, result, rfl, by simp⟩
          | none =>
              simp only [result] at step
              cases step
              exact ⟨call, pipe, none, emitted, rfl, result, rfl, rfl⟩

end DrachtioModules.AudioFork

import DrachtioModules.Deepgram.Pipe

/-!
# The audio before CloseStream

`finish()` asks the far end to close once it has what was sent so far; what the
pipe's buffer still holds then is lost.  WRITEABLE takes pending text before it
looks at the audio buffer, so CloseStream overtakes the audio unless the buffer
was written out before.

How much of the buffer was placed before the first call of `finish()` is kept
as a history variable.
-/

namespace DrachtioModules.Deepgram

open AudioFork (Bytes Config Callback forkFrame)

/-- The audio placed in the buffer before `finish()` is first called. -/
def placedEarly : List Event → Bytes
  | [] => []
  | .entered .finish :: _ => []
  | .placed data :: rest => data ++ placedEarly rest
  | _ :: rest => placedEarly rest

def audioSent : List Event → Bytes
  | [] => []
  | .sent (.binary payload) :: rest => payload ++ audioSent rest
  | _ :: rest => audioSent rest

/-- Every text is sent after all audio placed before `finish()` was first
called; the only text the module sends is CloseStream. -/
def FlushedFirst (trace : List Event) : Prop :=
  ∀ before text after, trace = before ++ .sent (.text text) :: after →
    placedEarly before <+: audioSent before

theorem audioSent_append (trace events : List Event) :
    audioSent (trace ++ events) = audioSent trace ++ audioSent events := by
  induction trace with
  | nil => rfl
  | cons event rest ih =>
      cases event with
      | sent frame =>
          cases frame with
          | binary payload =>
              simp only [List.cons_append, audioSent, ih, List.append_assoc]
          | text payload => simpa only [List.cons_append, audioSent] using ih
      | _ => simpa only [List.cons_append, audioSent] using ih

theorem placedEarly_append_of_mem {trace : List Event} (events : List Event)
    (called : .entered .finish ∈ trace) :
    placedEarly (trace ++ events) = placedEarly trace := by
  induction trace with
  | nil => cases called
  | cons event rest ih =>
      cases event with
      | entered op =>
          cases op with
          | finish => rfl
          | transcribeFrame reads =>
              have later : .entered .finish ∈ rest := by simpa using called
              simpa only [List.cons_append, placedEarly] using ih later
      | placed data =>
          have later : .entered .finish ∈ rest := by simpa using called
          simp only [List.cons_append, placedEarly, ih later]
      | _ =>
          have later : .entered .finish ∈ rest := by simpa using called
          simpa only [List.cons_append, placedEarly] using ih later

theorem placedEarly_append {trace : List Event} (events : List Event)
    (uncalled : .entered .finish ∉ trace) :
    placedEarly (trace ++ events) = placedEarly trace ++ placedEarly events := by
  induction trace with
  | nil => rfl
  | cons event rest ih =>
      have later : .entered .finish ∉ rest := by
        intro member
        exact uncalled (List.mem_cons_of_mem _ member)
      cases event with
      | entered op =>
          cases op with
          | finish => exact (uncalled List.mem_cons_self).elim
          | transcribeFrame reads =>
              simpa only [List.cons_append, placedEarly] using ih later
      | placed data =>
          simp only [List.cons_append, placedEarly, ih later, List.append_assoc]
      | _ => simpa only [List.cons_append, placedEarly] using ih later

theorem FlushedFirst.append {trace events : List Event}
    (flushed : FlushedFirst trace)
    (now : ∀ earlier text later,
      events = earlier ++ .sent (.text text) :: later →
      placedEarly (trace ++ earlier) <+: audioSent (trace ++ earlier)) :
    FlushedFirst (trace ++ events) := by
  intro before text after split
  rcases List.append_eq_append_iff.mp split with
    ⟨earlier, rfl, here⟩ | ⟨later, there, rest⟩
  · exact now earlier text after here
  · cases later with
    | nil =>
        rw [List.append_nil] at there
        subst there
        have same := now [] text after rest.symm
        rwa [List.append_nil] at same
    | cons event later =>
        rw [List.cons_append] at rest
        cases rest
        exact flushed before text later there

/-- The frame callback dumps audio. -/
def overruns (config : Config) (ring : Bytes) (reads : List Bytes) : Bool :=
  forkFrame config ring reads != ring ++ placedBy config ring reads

/-- How many bytes of the buffer were placed before `finish()` was first
called; `none` before that. -/
def early (config : Config) (s : State) (label : Act) (kept : Option Nat) :
    Option Nat :=
  match label with
  | .enter _ .finish => some (kept.getD s.pipe.ring.length)
  | .advance thread =>
      match s.calls thread with
      | some ⟨_, .frameRead reads⟩ =>
          if overruns config s.pipe.ring reads then kept.map fun _ => 0
          else kept
      | _ => kept
  | .serve _ =>
      if s.service = .writeableAudio then kept.map fun _ => 0 else kept
  | _ => kept

/-- The machine with the number of early bytes as a history variable. -/
def recorded (config : Config) : Machine (State × Option Nat) Act Event :=
  (machine config).recording none (early config)

/-- `lws_write` succeeds. -/
def writes (recorded : State × Option Nat) : Act → Bool
  | .serve ok =>
      match recorded.1.service with
      | .writeableText | .writeableAudio => ok
      | _ => true
  | _ => true

/-- WRITEABLE takes the pending text only when the buffer holds no audio placed
before `finish()`, and no such audio is dumped by an overrun. -/
def flushesFirst (config : Config) (recorded : State × Option Nat)
    (label : Act) : Bool :=
  writes recorded label &&
    match label with
    | .serve _ =>
        recorded.1.service != .writeableText ||
          decide (recorded.1.pipe.metadata = []) || recorded.2 == some 0
    | .advance thread =>
        match recorded.1.calls thread with
        | some ⟨_, .frameRead reads⟩ =>
            !overruns config recorded.1.pipe.ring reads || recorded.2 == some 0
        | _ => true
    | _ => true

/-- An event that says nothing about audio, texts or `finish()`. -/
def Event.quiet : Event → Bool
  | .entered .finish | .placed _ | .sent _ => false
  | _ => true

theorem audioSent_quiet {events : List Event}
    (silent : ∀ event, event ∈ events → event.quiet = true) :
    audioSent events = [] := by
  induction events with
  | nil => rfl
  | cons event rest ih =>
      have tail := ih fun later member =>
        silent later (List.mem_cons_of_mem _ member)
      cases event with
      | sent frame =>
          have loud := silent _ List.mem_cons_self
          cases loud
      | _ => exact tail

theorem placedEarly_quiet {events : List Event}
    (silent : ∀ event, event ∈ events → event.quiet = true) :
    placedEarly events = [] := by
  induction events with
  | nil => rfl
  | cons event rest ih =>
      have tail := ih fun later member =>
        silent later (List.mem_cons_of_mem _ member)
      cases event with
      | placed data =>
          have loud := silent _ List.mem_cons_self
          cases loud
      | entered op => cases op <;> first | rfl | exact tail
      | _ => exact tail

/-- What the history variable says about the buffer: everything placed is sent
or buffered, and after the first `finish()` everything placed before it is sent
or among the first `n` bytes of the buffer. -/
inductive Kept (trace : List Event) (ring : Bytes) : Option Nat → Prop where
  | uncalled (absent : .entered .finish ∉ trace)
      (all : placedEarly trace = audioSent trace ++ ring) : Kept trace ring none
  | called {n : Nat} (member : .entered .finish ∈ trace)
      (bound : n ≤ ring.length)
      (within : placedEarly trace <+: audioSent trace ++ ring.take n) :
      Kept trace ring (some n)

theorem Kept.extend {trace events : List Event} {ring : Bytes}
    {kept : Option Nat} (holds : Kept trace ring kept)
    (placed : placedEarly events = []) (sent : audioSent events = [])
    (silent : .entered .finish ∉ events) : Kept (trace ++ events) ring kept := by
  cases holds with
  | uncalled absent all =>
      refine .uncalled ?_ ?_
      · intro member
        exact (List.mem_append.mp member).elim absent silent
      · rw [placedEarly_append _ absent, audioSent_append, placed, sent,
          List.append_nil, List.append_nil]
        exact all
  | called member bound within =>
      refine .called (List.mem_append_left _ member) bound ?_
      rw [placedEarly_append_of_mem _ member, audioSent_append, sent,
        List.append_nil]
      exact within

theorem Kept.finish {trace : List Event} {ring : Bytes} {kept : Option Nat}
    (holds : Kept trace ring kept) :
    Kept (trace ++ [.entered .finish]) ring
      (some (kept.getD ring.length)) := by
  cases holds with
  | uncalled absent all =>
      refine .called (List.mem_append_right _ List.mem_cons_self)
        (Nat.le_refl _) ?_
      rw [placedEarly_append _ absent, audioSent_append, Option.getD_none,
        List.take_length, all]
      simp [placedEarly, audioSent]
  | called member bound within =>
      refine .called (List.mem_append_left _ member) bound ?_
      rw [placedEarly_append_of_mem _ member, audioSent_append]
      simpa [audioSent] using within

theorem Kept.place {trace : List Event} {ring data : Bytes}
    {kept : Option Nat} (holds : Kept trace ring kept) :
    Kept (trace ++ [.placed data]) (ring ++ data) kept := by
  cases holds with
  | uncalled absent all =>
      refine .uncalled ?_ ?_
      · simpa using absent
      · rw [placedEarly_append _ absent, audioSent_append, all]
        simp [placedEarly, audioSent]
  | called member bound within =>
      refine .called (List.mem_append_left _ member) ?_ ?_
      · rw [List.length_append]
        exact Nat.le_add_right_of_le bound
      · rw [placedEarly_append_of_mem _ member, audioSent_append,
          List.take_append_of_le_length bound]
        simpa [audioSent] using within

theorem Kept.dump {trace : List Event} {ring ring' data : Bytes}
    (holds : Kept trace ring (some 0)) :
    Kept (trace ++ [.placed data]) ring' (some 0) := by
  cases holds with
  | called member _ within =>
      refine .called (List.mem_append_left _ member) (Nat.zero_le _) ?_
      rw [placedEarly_append_of_mem _ member, audioSent_append]
      simpa [audioSent] using within

theorem Kept.send {trace events : List Event} {ring : Bytes}
    {kept : Option Nat} (holds : Kept trace ring kept)
    (placed : placedEarly events = []) (sent : audioSent events = ring)
    (silent : .entered .finish ∉ events) :
    Kept (trace ++ events) [] (kept.map fun _ => 0) := by
  cases holds with
  | uncalled absent all =>
      refine .uncalled ?_ ?_
      · intro member
        exact (List.mem_append.mp member).elim absent silent
      · rw [placedEarly_append _ absent, audioSent_append, placed, sent,
          List.append_nil, List.append_nil]
        exact all
  | called member bound within =>
      refine .called (List.mem_append_left _ member) (Nat.zero_le _) ?_
      rw [placedEarly_append_of_mem _ member, audioSent_append, sent,
        List.take_nil, List.append_nil]
      refine within.trans ?_
      rw [List.prefix_append_right_inj]
      exact List.take_prefix _ _

structure Quiet (s s' : State) (events : List Event) : Prop where
  ring : s'.pipe.ring = s.pipe.ring
  silent : ∀ event, event ∈ events → event.quiet = true

/-- The steps of `finish()`. -/
def Code.finishes : Code → Bool
  | .finishCheck | .finishRecord | .finishRecheck | .finishExchange
  | .bufferCheck | .bufferAppend | .queueWrite | .cancelService => true
  | _ => false

theorem stepCode_quiet {config : Config} {pipe next : Pipe} {code : Code}
    {rest : Option Code} {events : List Event}
    (step : stepCode config pipe code = some (next, rest, events))
    (other : ∀ reads, code ≠ .frameRead reads) :
    next.ring = pipe.ring ∧
      ∀ event, event ∈ events → event.quiet = true := by
  cases code with
  | frameRead reads => exact (other reads rfl).elim
  | finishCheck | finishRecheck | finishExchange | bufferCheck | frameCheck
  | frameQueue =>
      simp only [stepCode] at step
      split at step <;> cases step <;> simp
  | frameLock =>
      simp only [stepCode] at step
      split at step <;> cases step
      simp
  | bufferAppend =>
      cases step
      simp [Event.quiet]
  | finishRecord | queueWrite | cancelService | frameCancel | frameUnlock =>
      cases step
      simp

theorem stepCode_finishes {config : Config} {pipe next : Pipe} {code code' : Code}
    {events : List Event}
    (step : stepCode config pipe code = some (next, some code', events))
    (finishes : code.finishes = true) : code'.finishes = true := by
  cases code with
  | finishCheck | finishRecheck | finishExchange | bufferCheck =>
      simp only [stepCode] at step
      split at step <;> cases step <;> rfl
  | finishRecord | bufferAppend | queueWrite =>
      cases step
      rfl
  | cancelService => cases step
  | frameCheck | frameLock | frameRead | frameQueue | frameCancel
  | frameUnlock => cases finishes

theorem setClosed_quiet (pipe : Pipe) :
    (setClosed pipe).1.ring = pipe.ring ∧
      ∀ event, event ∈ (setClosed pipe).2 → event.quiet = true := by
  unfold setClosed
  split <;> simp [Event.quiet]

/-- The service thread runs nothing but `finish()` from inside ESTABLISHED. -/
def Finishing (s : State) : Prop :=
  ∀ code, s.service = .establishedFinishing code → code.finishes = true

theorem stepConnect_quiet {s s' : State} {ok : Bool} {events : List Event}
    (finishing : Finishing s) (step : stepConnect s ok = some (s', events)) :
    Quiet s s' events ∧ Finishing s' := by
  unfold stepConnect at step
  split at step
  · cases step
    exact ⟨⟨rfl, nofun⟩, finishing⟩
  · split at step <;> cases step <;> exact ⟨⟨rfl, nofun⟩, finishing⟩
  · cases step
    exact ⟨⟨rfl, by simp [Event.quiet]⟩, finishing⟩
  · cases step
    exact ⟨⟨(setClosed_quiet s.pipe).1, (setClosed_quiet s.pipe).2⟩, finishing⟩
  · cases step
    exact ⟨⟨rfl, nofun⟩, finishing⟩
  · cases step

theorem deliver_quiet {s s' : State} {callback : Callback}
    {events : List Event} (finishing : Finishing s)
    (step : deliver s callback = some (s', events)) :
    Quiet s s' events ∧ Finishing s' := by
  cases callback with
  | eventWaitCancelled =>
      cases step
      exact ⟨⟨rfl, nofun⟩, nofun⟩
  | established | connectionError | closed | receive | writeable =>
      simp only [deliver] at step
      split at step
      · split at step <;> cases step <;>
          exact ⟨⟨rfl, by simp [Event.quiet]⟩, by first | exact finishing | nofun⟩
      · cases step

theorem stepCall_cases {config : Config} {s s' : State} {thread : Nat}
    {events : List Event} (step : stepCall config s thread = some (s', events)) :
    ∃ call pipe rest emitted, s.calls thread = some call ∧
      stepCode config s.pipe call.code = some (pipe, rest, emitted) ∧
      s' = { s with
        pipe := pipe
        calls := Function.update s.calls thread
          (rest.map fun next => { call with code := next }) } ∧
      events = emitted ++ rest.elim [.returned call.op] fun _ => [] := by
  unfold stepCall at step
  cases running : s.calls thread with
  | none => simp [running] at step
  | some call =>
      simp only [running] at step
      cases result : stepCode config s.pipe call.code with
      | none => simp [result] at step
      | some outcome =>
          obtain ⟨pipe, rest, emitted⟩ := outcome
          cases rest with
          | some next =>
              simp only [result] at step
              cases step
              exact ⟨call, pipe, some next, events, rfl, result, rfl, by simp⟩
          | none =>
              simp only [result] at step
              cases step
              exact ⟨call, pipe, none, emitted, rfl, result, rfl, rfl⟩

theorem serve_quiet {config : Config} {s s' : State} {ok : Bool}
    {events : List Event} (finishing : Finishing s)
    (step : serve config s ok = some (s', events))
    (text : s.service ≠ .writeableText) (audio : s.service ≠ .writeableAudio) :
    Quiet s s' events ∧ Finishing s' := by
  unfold serve at step
  cases service : s.service with
  | idle => simp [service] at step
  | writeableText => exact (text service).elim
  | writeableAudio => exact (audio service).elim
  | establishedAdopt | establishedNotify | writeWritable | closedStore =>
      simp only [service] at step
      cases step
      exact ⟨⟨rfl, by simp [Event.quiet]⟩, nofun⟩
  | establishedFinish =>
      simp only [service] at step
      split at step <;> cases step <;> refine ⟨⟨rfl, nofun⟩, ?_⟩
      · rintro code ⟨⟩
        rfl
      · nofun
  | establishedFinishing code =>
      have finishes := finishing code service
      have other : ∀ reads, code ≠ .frameRead reads := by
        rintro reads rfl
        cases finishes
      simp only [service] at step
      cases result : stepCode config s.pipe code with
      | none => simp [result] at step
      | some outcome =>
          obtain ⟨pipe, rest, emitted⟩ := outcome
          obtain ⟨ring, silent⟩ := stepCode_quiet result other
          cases rest with
          | none =>
              simp only [result] at step
              cases step
              exact ⟨⟨ring, silent⟩, nofun⟩
          | some next =>
              simp only [result] at step
              cases step
              refine ⟨⟨ring, silent⟩, ?_⟩
              rintro code' ⟨⟩
              exact stepCode_finishes result finishes
  | pendingConnects | connectClient | closedGracefully | closedDropped =>
      simp only [service] at step
      split at step <;> cases step <;>
        exact ⟨⟨rfl, by simp [Event.quiet]⟩, nofun⟩
  | pendingWrites =>
      simp only [service] at step
      split at step
      · split at step <;> cases step <;> exact ⟨⟨rfl, nofun⟩, nofun⟩
      · cases step
        exact ⟨⟨rfl, nofun⟩, nofun⟩
  | failing stage inPass =>
      cases stage with
      | store | notify =>
          simp only [service] at step
          cases step
          exact ⟨⟨rfl, by simp [Event.quiet]⟩, nofun⟩
      | signal =>
          simp only [service] at step
          cases step
          refine ⟨⟨(setClosed_quiet s.pipe).1, (setClosed_quiet s.pipe).2⟩, ?_⟩
          cases inPass <;> nofun
  | closedSignal =>
      simp only [service] at step
      cases step
      exact ⟨⟨(setClosed_quiet s.pipe).1, (setClosed_quiet s.pipe).2⟩, nofun⟩
  | writeableState =>
      simp only [service] at step
      split at step <;> cases step <;>
        exact ⟨⟨rfl, by simp [Event.quiet]⟩, nofun⟩

structure Flushing (trace : List Event) (recorded : State × Option Nat) :
    Prop where
  finishing : Finishing recorded.1
  kept : Kept trace recorded.1.pipe.ring recorded.2
  flushed : FlushedFirst trace

theorem flushing_fresh : Flushing [] (.fresh, none) := by
  refine ⟨nofun, .uncalled List.not_mem_nil rfl, ?_⟩
  intro before text after split
  cases before <;> cases split

theorem quiet_text {events earlier later : List Event} {text : Bytes}
    (silent : ∀ event, event ∈ events → event.quiet = true)
    (split : events = earlier ++ .sent (.text text) :: later) : False := by
  have loud := silent (.sent (.text text)) (by rw [split]; simp)
  cases loud

theorem Flushing.quiet {trace events : List Event} {s s' : State}
    {kept : Option Nat} (flushing : Flushing trace (s, kept))
    (quiet : Quiet s s' events) (finishing : Finishing s') :
    Flushing (trace ++ events) (s', kept) := by
  obtain ⟨_, holds, flushed⟩ := flushing
  refine ⟨finishing, ?_, ?_⟩
  · rw [quiet.ring]
    refine holds.extend (placedEarly_quiet quiet.silent)
      (audioSent_quiet quiet.silent) ?_
    intro member
    have loud := quiet.silent _ member
    cases loud
  · exact flushed.append fun _ _ _ split => (quiet_text quiet.silent split).elim

theorem Flushing.enter {trace : List Event} {s s' : State} {kept : Option Nat}
    {op : Op} (flushing : Flushing trace (s, kept))
    (pipe : s'.pipe = s.pipe) (service : s'.service = s.service) :
    Flushing (trace ++ [.entered op])
      (s', match op with
        | .finish => some (kept.getD s.pipe.ring.length)
        | .transcribeFrame _ => kept) := by
  obtain ⟨finishing, holds, flushed⟩ := flushing
  have textless : FlushedFirst (trace ++ [.entered op]) := by
    refine flushed.append ?_
    intro earlier text later split
    have member : .sent (.text text) ∈ [Event.entered op] := by
      rw [split]
      simp
    simp at member
  refine ⟨?_, ?_, textless⟩
  · intro code here
    exact finishing code (service.symm.trans here)
  · show Kept _ s'.pipe.ring _
    rw [pipe]
    cases op with
    | finish => exact holds.finish
    | transcribeFrame reads => exact holds.extend rfl rfl (by simp)

theorem Flushing.frame {config : Config} {trace : List Event} {s s' : State}
    {kept : Option Nat} {reads : List Bytes}
    (flushing : Flushing trace (s, kept))
    (ring : s'.pipe.ring = forkFrame config s.pipe.ring reads)
    (service : s'.service = s.service)
    (spared : (!overruns config s.pipe.ring reads || kept == some 0) = true) :
    Flushing (trace ++ [.placed (placedBy config s.pipe.ring reads)])
      (s', if overruns config s.pipe.ring reads then kept.map fun _ => 0
        else kept) := by
  obtain ⟨finishing, holds, flushed⟩ := flushing
  refine ⟨?_, ?_, ?_⟩
  · intro code here
    exact finishing code (service.symm.trans here)
  · show Kept _ s'.pipe.ring _
    rw [ring]
    cases exceeds : overruns config s.pipe.ring reads with
    | true =>
        simp only [exceeds, Bool.not_true, Bool.false_or, beq_iff_eq] at spared
        subst spared
        exact holds.dump
    | false =>
        have whole : forkFrame config s.pipe.ring reads =
            s.pipe.ring ++ placedBy config s.pipe.ring reads := by
          simpa [overruns] using exceeds
        rw [whole]
        exact holds.place
  · refine flushed.append ?_
    intro earlier text later split
    have member : .sent (.text text) ∈
        [Event.placed (placedBy config s.pipe.ring reads)] := by
      rw [split]
      simp
    simp at member

theorem Flushing.advance {config : Config} {trace events : List Event}
    {s s' : State} {kept : Option Nat} {thread : Nat}
    (flushing : Flushing trace (s, kept))
    (guarded : flushesFirst config (s, kept) (.advance thread) = true)
    (step : stepCall config s thread = some (s', events)) :
    Flushing (trace ++ events)
      (s', early config s (.advance thread) kept) := by
  obtain ⟨⟨op, code⟩, pipe, rest, emitted, running, result, rfl, rfl⟩ :=
    stepCall_cases step
  simp only at result
  by_cases reading : ∃ reads, code = .frameRead reads
  · obtain ⟨reads, rfl⟩ := reading
    cases result
    have spared : (!overruns config s.pipe.ring reads || kept == some 0) =
        true := by
      simpa [flushesFirst, writes, running] using guarded
    have placed : Flushing
        (trace ++ [.placed (placedBy config s.pipe.ring reads)])
        ({ s with
            pipe := { s.pipe with ring := forkFrame config s.pipe.ring reads }
            calls := Function.update s.calls thread (some ⟨op, .frameQueue⟩) },
          if overruns config s.pipe.ring reads then kept.map fun _ => 0
          else kept) := flushing.frame rfl rfl spared
    simpa [early, running] using placed
  · have other : ∀ reads, code ≠ .frameRead reads := by
      intro reads same
      exact reading ⟨reads, same⟩
    obtain ⟨ring, silent⟩ := stepCode_quiet result other
    have unchanged : early config s (.advance thread) kept = kept := by
      simp only [early, running]
      cases code with
      | frameRead reads => exact (other reads rfl).elim
      | _ => rfl
    rw [unchanged]
    refine flushing.quiet ⟨ring, ?_⟩ flushing.finishing
    intro event member
    rcases List.mem_append.mp member with here | returned
    · exact silent event here
    · cases rest with
      | none =>
          rw [Option.elim_none, List.mem_singleton] at returned
          rw [returned]
          rfl
      | some next => cases returned

theorem Flushing.text {config : Config} {trace events : List Event}
    {s s' : State} {ok : Bool} {kept : Option Nat}
    (flushing : Flushing trace (s, kept)) (here : s.service = .writeableText)
    (guarded : flushesFirst config (s, kept) (.serve ok) = true)
    (step : serve config s ok = some (s', events)) :
    Flushing (trace ++ events) (s', kept) := by
  unfold serve at step
  simp only [here] at step
  split at step
  · cases step
    exact flushing.quiet ⟨rfl, nofun⟩ nofun
  · rename_i pending
    simp only [flushesFirst, writes, here, pending, bne_self_eq_false,
      Bool.false_or, decide_false, Bool.and_eq_true, beq_iff_eq] at guarded
    obtain ⟨rfl, rfl⟩ := guarded
    cases step
    obtain ⟨_, holds, flushed⟩ := flushing
    refine ⟨nofun, holds.extend rfl rfl (by simp), ?_⟩
    refine flushed.append ?_
    intro earlier text later split
    cases earlier with
    | nil =>
        rw [List.append_nil]
        cases holds with
        | called _ _ within => simpa using within
    | cons event earlier =>
        rw [List.cons_append] at split
        have tail := (List.cons.inj split).2
        have member : .sent (.text text) ∈
            [Event.requestedWritable] ++ [.writeableReturned .textSent] := by
          rw [tail]
          simp
        simp at member

theorem Flushing.audio {config : Config} {trace events : List Event}
    {s s' : State} {ok : Bool} {kept : Option Nat}
    (flushing : Flushing trace (s, kept)) (here : s.service = .writeableAudio)
    (written : ok = true) (step : serve config s ok = some (s', events)) :
    Flushing (trace ++ events) (s', kept.map fun _ => 0) := by
  obtain ⟨_, holds, flushed⟩ := flushing
  unfold serve at step
  simp only [here, written] at step
  split at step
  · cases step
  · split at step
    · rename_i silence
      cases step
      refine ⟨nofun, ?_, ?_⟩
      · show Kept _ s.pipe.ring _
        rw [silence]
        refine holds.send rfl ?_ (by simp)
        rw [silence]
        rfl
      · refine flushed.append ?_
        intro earlier text later split
        refine (quiet_text ?_ split).elim
        simp [Event.quiet]
    · cases step
      refine ⟨nofun, holds.send rfl (List.append_nil _) (by simp), ?_⟩
      refine flushed.append ?_
      intro earlier text later split
      have member : .sent (.text text) ∈
          [Event.sent (.binary s.pipe.ring), .writeableReturned .audioSent] := by
        simp only [List.cons_append, List.nil_append] at split
        rw [split]
        simp
      simp at member

theorem Flushing.step {config : Config} {trace events : List Event}
    {state next : State × Option Nat} {label : Act}
    (flushing : Flushing trace state)
    (guarded : flushesFirst config state label = true)
    (step : (recorded config).step state label = some (next, events)) :
    Flushing (trace ++ events) next := by
  obtain ⟨s, kept⟩ := state
  obtain ⟨s', kept'⟩ := next
  obtain ⟨taken, noted⟩ := Machine.recording_step step
  simp only at taken noted
  subst noted
  cases label with
  | connect ok =>
      obtain ⟨quiet, finishing⟩ :=
        stepConnect_quiet flushing.finishing taken
      exact flushing.quiet quiet finishing
  | enter thread op =>
      simp only [machine, Deepgram.step] at taken
      split at taken
      · cases taken
        cases op with
        | finish => exact flushing.enter rfl rfl
        | transcribeFrame reads => exact flushing.enter rfl rfl
      · cases taken
  | advance thread => exact flushing.advance guarded taken
  | deliver callback =>
      simp only [machine, Deepgram.step] at taken
      split at taken
      · obtain ⟨quiet, finishing⟩ := deliver_quiet flushing.finishing taken
        exact flushing.quiet quiet finishing
      · cases taken
  | serve ok =>
      by_cases text : s.service = .writeableText
      · have moved := flushing.text text guarded taken
        simpa [early, text] using moved
      · by_cases audio : s.service = .writeableAudio
        · have written : ok = true := by
            simp only [flushesFirst, writes, audio, Bool.and_eq_true] at guarded
            exact guarded.1
          have moved := flushing.audio audio written taken
          simpa [early, audio] using moved
        · obtain ⟨quiet, finishing⟩ :=
            serve_quiet flushing.finishing taken text audio
          have moved := flushing.quiet quiet finishing
          simpa [early, audio] using moved

/-- While WRITEABLE takes the text only once the audio placed before `finish()`
has left the buffer, no overrun dumps such audio and writes succeed, all of that
audio is sent before CloseStream. -/
theorem audio_before_close_stream (config : Config) {labels : List Act}
    {trace : List Event} {finish : State × Option Nat}
    (run : (recorded config).Run (flushesFirst config)
      (recorded config).initial labels trace finish) :
    FlushedFirst trace := by
  have flushing : Flushing trace finish :=
    run.induct Flushing flushing_fresh fun holds guarded step =>
      holds.step guarded step
  exact flushing.flushed

/-- One frame, a WRITEABLE callback that sends it, `finish()`, and a WRITEABLE
callback that sends CloseStream. -/
theorem audio_before_close_stream_of_drain :
    ∃ labels trace finish,
      (recorded ⟨64000, 320, 1, false⟩).Run
          (flushesFirst ⟨64000, 320, 1, false⟩) (.fresh, none) labels trace
          finish ∧
        audioSent trace = [1, 2] ∧ .sent (.text closeStream) ∈ trace ∧
        FlushedFirst trace := by
  let labels : List Act :=
    establish ++ frameCallback 0 [1, 2] ++ [Act.deliver .writeable] ++
      List.replicate 3 (Act.serve true) ++ [Act.enter 1 .finish] ++
      List.replicate 4 (Act.advance 1) ++ [Act.deliver .writeable, .serve true]
  have executed : ((recorded ⟨64000, 320, 1, false⟩).exec
      (flushesFirst ⟨64000, 320, 1, false⟩) (.fresh, none) labels).map
      (fun outcome => decide (audioSent outcome.2 = [1, 2]) &&
        decide (.sent (.text closeStream) ∈ outcome.2)) = some true := by
    decide
  obtain ⟨finish, trace, run, both⟩ := Machine.exists_run_of_exec _ executed
  obtain ⟨audio, text⟩ := Bool.and_eq_true_iff.mp both
  exact ⟨labels, trace, finish, run, of_decide_eq_true audio,
    of_decide_eq_true text, audio_before_close_stream _ run⟩

/-- One frame, `finish()`, and one WRITEABLE callback: it sends CloseStream and
leaves the frame in the buffer. -/
theorem close_stream_before_audio :
    ¬ ∀ (config : Config) (labels : List Act) (trace : List Event)
      (finish : State × Option Nat),
      (recorded config).Run writes (recorded config).initial labels trace
        finish →
      FlushedFirst trace := by
  intro always
  let labels : List Act :=
    establish ++ frameCallback 0 [1, 2] ++ [Act.enter 1 .finish] ++
      List.replicate 4 (Act.advance 1) ++ [Act.deliver .writeable, .serve true]
  have executed : ((recorded ⟨64000, 320, 1, false⟩).exec writes (.fresh, none)
      labels).map (fun outcome =>
        decide (outcome.2 = outcome.2.take 6 ++ .sent (.text closeStream) ::
            outcome.2.drop 7) &&
          decide (placedEarly (outcome.2.take 6) = [1, 2]) &&
          decide (audioSent (outcome.2.take 6) = [])) = some true := by
    decide
  obtain ⟨finish, trace, run, both⟩ := Machine.exists_run_of_exec _ executed
  obtain ⟨both, sent⟩ := Bool.and_eq_true_iff.mp both
  obtain ⟨split, placed⟩ := Bool.and_eq_true_iff.mp both
  have flushed := always _ labels trace finish run
  have within := flushed _ _ _ (of_decide_eq_true split)
  rw [of_decide_eq_true placed, of_decide_eq_true sent] at within
  simp at within

end DrachtioModules.Deepgram

import DrachtioModules.Google.ConnectPromise
import DrachtioModules.Transcribe.Staging

/-!
# From the frames to the stream

Which audio reaches the stream of one GStreamer, whatever the threads do: what
`write()` staged before `connect()`, less what did not fit, and then the frames
since, without a gap and in order, up to the point where WritesDone or Finish
closes the write side.

`connect()` drains the buffer and the staged rest through `write()`, on the
media thread or, without a VAD, before there is one.
-/

namespace DrachtioModules.Google

open Transcribe (Bytes SimpleBuffer Prebuffered keptBytes)

/-- The audio of the frames read before the connect, and since. -/
structure Heard where
  early : Bytes
  late : Bytes
  deriving DecidableEq, Repr

/-- The frame at which the VAD starts talking is written after the drain. -/
def hear (config : Config) (s : State) (label : Act) (heard : Heard) : Heard :=
  match label, s.media with
  | .media, .looping (frame :: _) =>
      if s.connected || config.vad && frame.talking then
        { heard with late := heard.late ++ frame.data }
      else { heard with early := heard.early ++ frame.data }
  | _, _ => heard

/-- A GStreamer with what its session's frames held so far. -/
def hearing (config : Config) : Machine (State × Heard) Act Event :=
  (machine config).recording ⟨[], []⟩ (hear config)

/-- No `connect()` and no `write()` is under way. -/
def State.resting (s : State) : Bool :=
  (match s.init with
    | .connecting _ => false
    | .createThread | .ready | .failed => true) &&
  match s.media with
    | .connecting .. | .writing .. => false
    | .idle | .looping _ => true

/-- The audio that was written, against what was heard. -/
structure Forwarded (config : Config) (heard : Heard) (sent : Bytes)
    (s : State) : Prop where
  unsent : s.connected = false → sent = []
  ordered : sent <+: keptBytes config.chunkSize 15 heard.early ++ heard.late
  complete : s.connected = true → s.writesDone = false → s.resting = true →
    sent = keptBytes config.chunkSize 15 heard.early ++ heard.late
  emptied : s.connected = true → s.resting = true →
    (buffer config s).numItems = 0 ∧ s.prebufStaging = []

/-- What a call of `write()` has not passed on. -/
def Write.left (data : Bytes) : Write → Bytes
  | .test | .lock => data
  | .inside => []

/-- The chunks of the prebuffer and what is staged. -/
def held (config : Config) (s : State) : Bytes :=
  (buffer config s).chunks.flatten ++ s.prebufStaging

/-- What a call of `connect()` has not passed on. -/
def Connect.left (config : Config) (s : State) : Connect → Bytes
  | .publish | .promise | .config | .writingConfig | .drain => held config s
  | .chunk stage data => stage.left data ++ held config s
  | .staging => s.prebufStaging
  | .rest stage data => stage.left data
  | .clear => []

/-- The loop over the chunks is done from here on. -/
def Connect.Drained (config : Config) (s : State) : Connect → Prop
  | .staging | .rest _ _ | .clear => (buffer config s).numItems = 0
  | _ => True

/-- Nothing is left once `connect()` has returned. -/
def Drained (config : Config) (s : State) : Option Connect → Prop
  | some stage => stage.Drained config s
  | none => (buffer config s).numItems = 0 ∧ s.prebufStaging = []

/-- The `connect()` under way. -/
def State.connect (s : State) : Option Connect :=
  match s.init, s.media with
  | .connecting stage, _ => some stage
  | _, .connecting stage _ _ => some stage
  | _, _ => none

/-- What the media thread has of the frame it is at. -/
def Media.left : Media → Bytes
  | .idle | .looping _ => []
  | .connecting _ data _ => data
  | .writing stage data _ => stage.left data

/-- The frame that is on its way into the prebuffer. -/
def Media.early : Media → Bytes
  | .writing _ data _ => data
  | _ => []

/-- The frame at which the VAD started talking. -/
def Media.late : Media → Bytes
  | .connecting _ data _ => data
  | _ => []

@[simp] theorem audioBytes_append (trace events : List Event) :
    audioBytes (trace ++ events) = audioBytes trace ++ audioBytes events :=
  List.flatMap_append

/-- Before `connect()` publishes the stream everything is in the prebuffer, less
what did not fit. -/
structure Early (config : Config) (heard : Heard) (trace : List Event)
    (s : State) : Prop where
  silent : audioBytes trace = []
  staged : ∃ staged, heard.early = staged ++ s.media.early ∧
    Prebuffered config.chunkSize 15 staged (buffer config s) s.prebufStaging
  late : heard.late = s.media.late

/-- Since then what was written and what is still to be written make up the
rest. -/
structure Late (config : Config) (heard : Heard) (trace : List Event)
    (s : State) : Prop where
  formed : (buffer config s).WellFormed
  flowing : s.writesDone = false →
    audioBytes trace ++ s.connect.elim [] (Connect.left config s) ++
        s.media.left =
      keptBytes config.chunkSize 15 heard.early ++ heard.late
  closed : audioBytes trace <+:
    keptBytes config.chunkSize 15 heard.early ++ heard.late
  drained : Drained config s s.connect

structure Forwarding (config : Config) (heard : Heard) (trace : List Event)
    (s : State) : Prop where
  early : s.connected = false → Early config heard trace s
  late : s.connected = true → Late config heard trace s

/-- A `write()` on the direct path: the prebuffer stays, and the audio goes out
unless the write side is closed. -/
structure Passed (s next : State) (own own' : Bytes) (events : List Event) :
    Prop where
  audioBuffer : next.audioBuffer = s.audioBuffer
  prebufStaging : next.prebufStaging = s.prebufStaging
  connected : next.connected = s.connected
  writesDone : next.writesDone = s.writesDone
  flows : s.writesDone = false → audioBytes events ++ own' = own
  stops : s.writesDone = true → audioBytes events = []

section Steps

variable {config : Config} {s next : State} {events : List Event}

theorem stepWrite_passed {data : Bytes} {stage : Write} {after : Option Write}
    (connected : s.connected = true)
    (step : stepWrite config s data stage = some (next, after, events)) :
    Passed s next (stage.left data) (after.elim [] (Write.left data))
      events := by
  cases stage with
  | test =>
      simp only [stepWrite, connected, if_true] at step
      cases step
      exact ⟨rfl, rfl, rfl, rfl, fun _ => rfl, fun _ => rfl⟩
  | lock =>
      simp only [stepWrite] at step
      split at step
      · cases step
      · split at step <;> rename_i done <;> cases step
        · refine ⟨rfl, rfl, rfl, rfl, ?_, fun _ => rfl⟩
          intro opened
          rw [opened] at done
          cases done
        · refine ⟨rfl, rfl, rfl, rfl, fun _ => ?_, ?_⟩
          · simp [audioBytes, Event.audioBytes, Write.left]
          · intro closed
            exact absurd closed done
  | inside =>
      simp only [stepWrite] at step
      cases step
      exact ⟨rfl, rfl, rfl, rfl, fun _ => rfl, fun _ => rfl⟩

/-- A step of `connect()` once the stream is published. -/
structure Drains.Step (config : Config) (s next : State) (stage : Connect)
    (after : Option Connect) (events : List Event) : Prop where
  connected : next.connected = s.connected
  writesDone : next.writesDone = s.writesDone
  formed : (buffer config next).WellFormed
  flows : s.writesDone = false →
    audioBytes events ++ after.elim [] (Connect.left config next) =
      stage.left config s
  stops : s.writesDone = true → audioBytes events = []
  drained : Drained config next after

theorem buffer_congr (same : next.audioBuffer = s.audioBuffer) :
    buffer config next = buffer config s := by
  unfold buffer
  rw [same]

theorem held_congr (audioBuffer : next.audioBuffer = s.audioBuffer)
    (staging : next.prebufStaging = s.prebufStaging) :
    held config next = held config s := by
  unfold held
  rw [buffer_congr audioBuffer, staging]

theorem Drains.Step.quiet {stage after : Connect}
    (formed : (buffer config s).WellFormed)
    (audioBuffer : next.audioBuffer = s.audioBuffer)
    (connected : next.connected = s.connected)
    (writesDone : next.writesDone = s.writesDone)
    (silent : audioBytes events = [])
    (left : after.left config next = stage.left config s)
    (drained : after.Drained config next) :
    Drains.Step config s next stage (some after) events := by
  refine ⟨connected, writesDone, ?_, fun _ => ?_, fun _ => silent, drained⟩
  · rw [buffer_congr audioBuffer]
    exact formed
  · rw [silent]
    exact left

theorem stepConnect_drains {stage : Connect} {after : Option Connect}
    (connected : s.connected = true) (published : stage ≠ .publish)
    (formed : (buffer config s).WellFormed)
    (drained : stage.Drained config s)
    (step : stepConnect config s stage = some (next, after, events)) :
    Drains.Step config s next stage after events := by
  cases stage with
  | publish => exact absurd rfl published
  | promise =>
      simp only [stepConnect] at step
      cases step
      exact .quiet formed rfl rfl rfl rfl rfl trivial
  | config =>
      simp only [stepConnect] at step
      split at step <;> cases step
      exact .quiet formed rfl rfl rfl rfl rfl trivial
  | writingConfig =>
      simp only [stepConnect] at step
      cases step
      exact .quiet formed rfl rfl rfl rfl rfl trivial
  | drain =>
      simp only [stepConnect] at step
      split at step
      · rename_i unused
        have none : (buffer config s).numItems = 0 := by
          simp [buffer, unused, SimpleBuffer.create]
        cases step
        refine .quiet formed rfl rfl rfl rfl ?_ none
        simp [Connect.left, held, SimpleBuffer.chunks_nil_iff.mpr none]
      · rename_i audioBuffer filled
        have same : buffer config s = audioBuffer := by simp [buffer, filled]
        rw [same] at formed
        split at step <;> rename_i given <;> cases step
        · have none := (SimpleBuffer.getNextChunk_none given).1
          refine .quiet (same ▸ formed) rfl rfl rfl rfl ?_ ?_
          · simp [Connect.left, held, same,
              SimpleBuffer.chunks_nil_iff.mpr none]
          · simpa [Connect.Drained, same] using none
        · rename_i offset rest
          have content := SimpleBuffer.chunks_getNextChunk formed given
          refine ⟨rfl, rfl, ?_, fun _ => ?_, fun _ => rfl, trivial⟩
          · exact SimpleBuffer.wellFormed_getNextChunk formed given
          · show audioBuffer.chunkAt offset ++
              (rest.chunks.flatten ++ s.prebufStaging) = _
            simp [Connect.left, held, same, content]
  | chunk stage data =>
      simp only [stepConnect] at step
      split at step
      · cases step
      all_goals
        rename_i result
        cases step
        have passed := stepWrite_passed connected result
        have kept : held config next = held config s :=
          held_congr passed.audioBuffer passed.prebufStaging
        refine ⟨passed.connected, passed.writesDone, ?_, ?_, passed.stops, ?_⟩
        · rw [buffer_congr passed.audioBuffer]
          exact formed
        · intro opened
          rw [Connect.left, ← passed.flows opened]
          simp [Connect.left, kept]
        · trivial
  | staging =>
      simp only [stepConnect] at step
      split at step <;> rename_i empty <;> cases step
      · refine ⟨rfl, rfl, formed, fun _ => ?_, fun _ => rfl, drained, empty⟩
        exact empty.symm
      · exact .quiet formed rfl rfl rfl rfl rfl drained
  | rest stage data =>
      simp only [stepConnect] at step
      split at step
      · cases step
      all_goals
        rename_i result
        cases step
        have passed := stepWrite_passed connected result
        refine ⟨passed.connected, passed.writesDone, ?_, ?_, passed.stops, ?_⟩
        · rw [buffer_congr passed.audioBuffer]
          exact formed
        · intro opened
          rw [Connect.left, ← passed.flows opened]
          rfl
        · simp only [Drained, Connect.Drained, buffer_congr passed.audioBuffer]
          exact drained
  | clear =>
      simp only [stepConnect] at step
      cases step
      exact ⟨rfl, rfl, formed, fun _ => rfl, fun _ => rfl, drained, rfl⟩

/-- What a step away from the audio path leaves as it is. -/
structure Aside (s s' : State) (events : List Event) : Prop where
  audioBuffer : s'.audioBuffer = s.audioBuffer
  prebufStaging : s'.prebufStaging = s.prebufStaging
  connected : s'.connected = s.connected
  closing : s.writesDone = true → s'.writesDone = true
  connect : s'.connect = s.connect
  left : s'.media.left = s.media.left
  early : s'.media.early = s.media.early
  late : s'.media.late = s.media.late
  silent : audioBytes events = []

variable {heard : Heard} {trace : List Event} {s' : State}

theorem Forwarding.aside (forwarding : Forwarding config heard trace s)
    (aside : Aside s s' events) :
    Forwarding config heard (trace ++ events) s' := by
  have same : buffer config s' = buffer config s :=
    buffer_congr aside.audioBuffer
  have sent : audioBytes (trace ++ events) = audioBytes trace := by
    rw [audioBytes_append, aside.silent, List.append_nil]
  have kept : held config s' = held config s :=
    held_congr aside.audioBuffer aside.prebufStaging
  have stages : Connect.left config s' = Connect.left config s := by
    funext stage
    cases stage <;> simp only [Connect.left, kept, aside.prebufStaging]
  have drains : Drained config s' s'.connect = Drained config s s.connect := by
    rw [aside.connect]
    cases s.connect with
    | none => simp only [Drained, same, aside.prebufStaging]
    | some stage =>
        cases stage <;> simp only [Drained, Connect.Drained, same]
  constructor
  · intro unconnected
    rw [aside.connected] at unconnected
    obtain ⟨silent, staged, late⟩ := forwarding.early unconnected
    refine ⟨sent.trans silent, ?_, late.trans aside.late.symm⟩
    rw [aside.early, same, aside.prebufStaging]
    exact staged
  · intro connected
    rw [aside.connected] at connected
    obtain ⟨formed, flowing, closed, drained⟩ := forwarding.late connected
    refine ⟨same ▸ formed, ?_, sent ▸ closed, drains ▸ drained⟩
    intro opened
    have before : s.writesDone = false := by
      by_contra done
      have still := aside.closing (by simpa using done)
      rw [still] at opened
      cases opened
    rw [sent, aside.connect, stages, aside.left]
    exact flowing before

theorem Forwarding.connecting {stage : Connect} {after : Option Connect}
    (forwarding : Forwarding config heard trace s)
    (here : s.connect = some stage) (fits : stage.Fits s.connected)
    (step : stepConnect config s stage = some (next, after, events))
    (early : s.media.early = []) (late : s.media.late = s.media.left)
    (audioBuffer : s'.audioBuffer = next.audioBuffer)
    (prebufStaging : s'.prebufStaging = next.prebufStaging)
    (connected : s'.connected = next.connected)
    (writesDone : s'.writesDone = next.writesDone)
    (connect : s'.connect = after) (left : s'.media.left = s.media.left) :
    Forwarding config heard (trace ++ events) s' := by
  have same : buffer config s' = buffer config next := buffer_congr audioBuffer
  have stages : Connect.left config s' = Connect.left config next := by
    funext stage
    cases stage <;> simp only [Connect.left, prebufStaging,
      held_congr audioBuffer prebufStaging]
  have drains : Drained config s' = Drained config next := by
    funext stage
    cases stage with
    | none => simp only [Drained, same, prebufStaging]
    | some stage => cases stage <;> simp only [Drained, Connect.Drained, same]
  suffices next.connected = true ∧ (buffer config next).WellFormed ∧
      (next.writesDone = false →
        audioBytes (trace ++ events) ++
            after.elim [] (Connect.left config next) ++ s.media.left =
          keptBytes config.chunkSize 15 heard.early ++ heard.late) ∧
      audioBytes (trace ++ events) <+:
        keptBytes config.chunkSize 15 heard.early ++ heard.late ∧
      Drained config next after by
    obtain ⟨published, formed, flowing, closed, drained⟩ := this
    constructor
    · intro unconnected
      rw [connected, published] at unconnected
      cases unconnected
    · intro _
      refine ⟨same ▸ formed, ?_, closed, ?_⟩
      · rw [writesDone, connect, stages, left]
        exact flowing
      · rw [drains, connect]
        exact drained
  by_cases published : stage = .publish
  · subst published
    obtain ⟨silent, ⟨staged, heardEarly, prebuffered⟩, heardLate⟩ :=
      forwarding.early fits
    rw [early, List.append_nil] at heardEarly
    subst heardEarly
    simp only [stepConnect] at step
    cases step
    rw [List.append_nil, silent, heardLate, late]
    refine ⟨rfl, prebuffered.sound.formed, fun _ => ?_, List.nil_prefix,
      trivial⟩
    rw [← prebuffered.content]
    rfl
  · have connected : s.connected = true := by
      cases stage <;> first | exact fits | exact absurd rfl published
    obtain ⟨formed, flowing, closed, drained⟩ := forwarding.late connected
    rw [here] at flowing drained
    have moved := stepConnect_drains connected published formed drained step
    refine ⟨moved.connected.trans connected, moved.formed, ?_, ?_,
      moved.drained⟩
    · rw [moved.writesDone, audioBytes_append]
      intro opened
      rw [List.append_assoc (audioBytes trace), moved.flows opened]
      exact flowing opened
    · rw [audioBytes_append]
      cases done : s.writesDone with
      | false =>
          refine ⟨after.elim [] (Connect.left config next) ++ s.media.left, ?_⟩
          rw [← flowing done, Option.elim, ← moved.flows done]
          simp only [List.append_assoc]
      | true =>
          rw [moved.stops done, List.append_nil]
          exact closed

theorem connect_of_init {stage : Connect} (init : s.init = .connecting stage) :
    s.connect = some stage := by
  simp [State.connect, init]

/-- While the session starts there is no frame. -/
theorem stepInit_forwarding {ok : Bool} (placed : Placed s)
    (forwarding : Forwarding config heard trace s)
    (step : stepInit config s ok = some (s', events)) :
    Forwarding config heard (trace ++ events) s' := by
  cases init : s.init with
  | connecting stage =>
      obtain ⟨idle, -, -⟩ := placed.starting (by simp [init])
      have fits : stage.Fits s.connected := by
        simpa [init, Init.Fits] using placed.init
      obtain ⟨next, after, result, rfl⟩ := stepInit_connecting init step
      obtain ⟨stays, -, -⟩ := stepConnect_turn fits result
      have still : next.media = .idle := stays.media.trans idle
      refine forwarding.connecting (connect_of_init init) fits result
        (by rw [idle]; rfl) (by rw [idle]; rfl) rfl rfl rfl rfl ?_ ?_
      · cases after <;> simp [State.connect, still]
      · simp [still, idle]
  | createThread =>
      have idle := (placed.starting (by simp [init])).1
      simp only [stepInit, init] at step
      split at step <;> cases step
      all_goals
        refine forwarding.aside ⟨rfl, rfl, rfl, id, ?_, rfl, rfl, rfl, rfl⟩
        simp [State.connect, init, idle]
  | ready | failed =>
      simp only [stepInit, init] at step
      cases step

theorem Forwarding.reading {frame : Frame} {frames : List Frame}
    (forwarding : Forwarding config heard trace s) (ready : s.init = .ready)
    (media : s.media = .looping (frame :: frames))
    (step : stepMedia config s = some (s', events)) :
    Forwarding config (hear config s .media heard) (trace ++ events) s' := by
  have none : s.connect = none := by simp [State.connect, ready, media]
  simp only [stepMedia, media] at step
  constructor
  · intro unconnected
    have before : s.connected = false := by
      split at step <;> cases step <;> exact unconnected
    obtain ⟨silent, ⟨staged, heardEarly, prebuffered⟩, heardLate⟩ :=
      forwarding.early before
    rw [media] at heardEarly heardLate
    split at step <;> rename_i talking <;> cases step
    · have talks : (config.vad && frame.talking) = true := by
        simpa [before] using talking
      simp only [hear, media, before, talks, Bool.false_or, if_true]
      refine ⟨by simpa using silent, ⟨staged, ?_, prebuffered⟩, ?_⟩
      · simpa [Media.early] using heardEarly
      · simp [heardLate, Media.late]
    · have quiet : (config.vad && frame.talking) = false := by
        simpa [before] using talking
      simp only [hear, media, before, quiet, Bool.or_self,
        Bool.false_eq_true, if_false]
      refine ⟨by simpa using silent, ⟨staged, ?_, prebuffered⟩, ?_⟩
      · simp [heardEarly, Media.early]
      · simpa [Media.late] using heardLate
  · intro published
    have connected : s.connected = true := by
      split at step <;> cases step <;> exact published
    obtain ⟨formed, flowing, closed, drained⟩ := forwarding.late connected
    rw [none, media] at flowing
    rw [none] at drained
    simp only [connected, Bool.not_true, Bool.and_false, Bool.false_and,
      Bool.false_eq_true, if_false] at step
    cases step
    simp only [hear, media, connected, Bool.true_or, if_true, List.append_nil]
    refine ⟨formed, ?_, ?_, ?_⟩
    · intro opened
      have all := flowing opened
      simp only [Option.elim, Media.left, List.append_nil] at all
      simp [State.connect, ready, Media.left, Write.left, all]
    · exact closed.trans (by simp [← List.append_assoc])
    · have still : State.connect { s with
          connected := true
          media := .writing .test frame.data frames } = Option.none := by
        simp [State.connect, ready]
      exact still ▸ drained

theorem Forwarding.writing {data : Bytes} {frames : List Frame} {stage : Write}
    (forwarding : Forwarding config heard trace s) (ready : s.init = .ready)
    (media : s.media = .writing stage data frames)
    (fits : stage.Fits s.connected)
    (step : stepMedia config s = some (s', events)) :
    Forwarding config heard (trace ++ events) s' := by
  obtain ⟨next, after, result, rfl⟩ := stepMedia_writing media step
  obtain ⟨stays, -, -⟩ := stepWrite_turn fits result
  have none : s.connect = none := by simp [State.connect, ready, media]
  have still : ∀ {left : Media}, (∀ stage data frames,
      left ≠ .connecting stage data frames) →
      State.connect { next with media := left } = Option.none := by
    intro left free
    have started : next.init = .ready := stays.init.trans ready
    cases left <;> simp [State.connect, started] at free ⊢
  cases connected : s.connected with
  | false =>
      obtain ⟨silent, ⟨staged, heardEarly, prebuffered⟩, heardLate⟩ :=
        forwarding.early connected
      cases stage with
      | test =>
          simp only [stepWrite, connected, Bool.false_eq_true, if_false]
            at result
          cases result
          rw [media] at heardEarly heardLate
          have same := (stage_fields config s data).2.2.2.trans connected
          constructor
          · intro _
            refine ⟨by simpa using silent, ⟨staged ++ data, ?_, ?_⟩, heardLate⟩
            · simpa [Media.early] using heardEarly
            · exact prebuffered_stage prebuffered data
          · intro published
            rw [show (Google.stage config s data).connected = true from
              published] at same
            cases same
      | lock | inside =>
          rw [connected] at fits
          cases fits
  | true =>
      have passed := stepWrite_passed connected result
      obtain ⟨formed, flowing, closed, drained⟩ := forwarding.late connected
      rw [none, media] at flowing
      rw [none] at drained
      have same : buffer config next = buffer config s :=
        buffer_congr passed.audioBuffer
      have idle : State.connect { next with
          media := after.elim (.looping frames) (.writing · data frames) } =
            Option.none := by
        apply still
        cases after <;> simp
      constructor
      · intro unconnected
        have published : next.connected = true :=
          passed.connected.trans connected
        rw [show next.connected = false from unconnected] at published
        cases published
      · intro _
        refine ⟨?_, ?_, ?_, ?_⟩
        · exact same ▸ formed
        · intro opened
          have before : s.writesDone = false :=
            passed.writesDone.symm.trans opened
          rw [idle, ← flowing before, audioBytes_append]
          simp only [Option.elim, List.append_nil, Media.left,
            ← passed.flows before]
          cases after <;> simp
        · rw [audioBytes_append]
          cases done : s.writesDone with
          | false =>
              refine ⟨after.elim [] (Write.left data), ?_⟩
              rw [← flowing done]
              simp [Media.left, ← passed.flows done]
          | true =>
              rw [passed.stops done, List.append_nil]
              exact closed
        · rw [idle]
          exact ⟨same ▸ drained.1, passed.prebufStaging.trans drained.2⟩

/-- `write()` and `connect()` are steps of the media thread, and so is reading a
frame. -/
theorem stepMedia_forwarding (placed : Placed s)
    (forwarding : Forwarding config heard trace s)
    (step : stepMedia config s = some (s', events)) :
    Forwarding config (hear config s .media heard) (trace ++ events) s' := by
  have busy : s.media ≠ .idle := by
    intro idle
    simp [stepMedia, idle] at step
  have ready : s.init = .ready := by
    by_contra early
    exact busy (placed.starting early).1
  have fits := placed.media
  cases media : s.media with
  | idle => exact absurd media busy
  | looping frames =>
      cases frames with
      | nil =>
          simp only [stepMedia, media] at step
          cases step
          simp only [hear, media]
          refine forwarding.aside ⟨rfl, rfl, rfl, id, ?_, ?_, ?_, ?_, rfl⟩
          · simp [State.connect, ready, media]
          all_goals
            rw [media]
            rfl
      | cons frame frames => exact forwarding.reading ready media step
  | connecting stage data frames =>
      rw [media] at fits
      obtain ⟨next, after, result, rfl⟩ := stepMedia_connecting media step
      obtain ⟨stays, -, -⟩ := stepConnect_turn fits result
      have started : next.init = .ready := stays.init.trans ready
      have here : s.connect = some stage := by
        simp [State.connect, ready, media]
      simp only [hear, media]
      refine forwarding.connecting here fits result (by rw [media]; rfl)
        (by rw [media]; rfl) rfl rfl rfl rfl ?_ ?_
      · cases after <;> simp [State.connect, started]
      · rw [media]
        cases after <;> rfl
  | writing stage data frames =>
      rw [media] at fits
      simp only [hear, media]
      exact forwarding.writing ready media fits step

theorem stepRead_forwarding {response : Option Bool}
    (forwarding : Forwarding config heard trace s)
    (step : stepRead config s response = some (s', events)) :
    Forwarding config heard (trace ++ events) s' := by
  refine forwarding.aside ?_
  cases read : s.read with
  | absent | exited =>
      simp only [stepRead, read] at step
      cases step
  | waiting =>
      simp only [stepRead, read] at step
      split at step
      · split at step <;> cases step <;>
          exact ⟨rfl, rfl, rfl, id, rfl, rfl, rfl, rfl, rfl⟩
      · cases step
  | reading =>
      simp only [stepRead, read] at step
      split at step <;> cases step <;>
        exact ⟨rfl, rfl, rfl, id, rfl, rfl, rfl, rfl, rfl⟩
  | responding endOfUtterance | doneTest =>
      simp only [stepRead, read] at step
      split at step <;> cases step <;>
        exact ⟨rfl, rfl, rfl, id, rfl, rfl, rfl, rfl, rfl⟩
  | doneLock =>
      simp only [stepRead, read] at step
      split at step
      · cases step
      · split at step <;> cases step <;>
          exact ⟨rfl, rfl, rfl, id, rfl, rfl, rfl, rfl, rfl⟩
  | finishLock =>
      simp only [stepRead, read] at step
      split at step <;> cases step
      exact ⟨rfl, rfl, rfl, fun _ => rfl, rfl, rfl, rfl, rfl, rfl⟩
  | doneInside =>
      simp only [stepRead, read] at step
      cases step
      exact ⟨rfl, rfl, rfl, fun _ => rfl, rfl, rfl, rfl, rfl, rfl⟩
  | finishInside =>
      simp only [stepRead, read] at step
      cases step
      exact ⟨rfl, rfl, rfl, id, rfl, rfl, rfl, rfl, rfl⟩

theorem stepReap_forwarding (forwarding : Forwarding config heard trace s)
    (step : stepReap s = some (s', events)) :
    Forwarding config heard (trace ++ events) s' := by
  refine forwarding.aside ?_
  cases cleanup : s.cleanup with
  | idle =>
      simp only [stepReap, cleanup] at step
      cases step
  | load | doneTest | delete =>
      simp only [stepReap, cleanup] at step
      split at step <;> cases step <;>
        exact ⟨rfl, rfl, rfl, id, rfl, rfl, rfl, rfl, rfl⟩
  | cancelConnect =>
      simp only [stepReap, cleanup] at step
      cases step
      exact ⟨rfl, rfl, rfl, id, rfl, rfl, rfl, rfl, rfl⟩
  | doneLock =>
      simp only [stepReap, cleanup] at step
      split at step
      · cases step
      · split at step <;> cases step <;>
          exact ⟨rfl, rfl, rfl, id, rfl, rfl, rfl, rfl, rfl⟩
  | doneInside =>
      simp only [stepReap, cleanup] at step
      cases step
      exact ⟨rfl, rfl, rfl, fun _ => rfl, rfl, rfl, rfl, rfl, rfl⟩
  | join =>
      simp only [stepReap, cleanup] at step
      split at step
      · split at step <;> cases step
        exact ⟨rfl, rfl, rfl, id, rfl, rfl, rfl, rfl, rfl⟩
      · cases step
        exact ⟨rfl, rfl, rfl, id, rfl, rfl, rfl, rfl, rfl⟩

theorem step_forwarding {act : Act} (placed : Placed s)
    (forwarding : Forwarding config heard trace s)
    (taken : step config s act = some (s', events)) :
    Forwarding config (hear config s act heard) (trace ++ events) s' := by
  cases act with
  | init ok => exact stepInit_forwarding placed forwarding taken
  | frame frames =>
      simp only [step, stepFrame] at taken
      split at taken
      · rename_i called
        obtain ⟨ready, idle⟩ := called
        split at taken <;> cases taken
        · refine forwarding.aside ⟨rfl, rfl, rfl, id, ?_, ?_, ?_, ?_, rfl⟩
          · simp [State.connect, ready, idle]
          all_goals
            rw [idle]
            rfl
        · exact forwarding.aside ⟨rfl, rfl, rfl, id, rfl, rfl, rfl, rfl, rfl⟩
      · cases taken
  | media => exact stepMedia_forwarding placed forwarding taken
  | cleanup =>
      simp only [step] at taken
      split at taken <;> cases taken
      exact forwarding.aside ⟨rfl, rfl, rfl, id, rfl, rfl, rfl, rfl, rfl⟩
  | reap => exact stepReap_forwarding forwarding taken
  | read response => exact stepRead_forwarding forwarding taken

theorem forwarding_fresh (config : Config) :
    Forwarding config ⟨[], []⟩ [] (.fresh config) := by
  constructor
  · intro _
    exact ⟨rfl, ⟨[], rfl, Transcribe.prebuffered_create (by decide)⟩, rfl⟩
  · intro connected
    cases connected

theorem State.connect_of_resting (resting : s.resting = true) :
    s.connect = none ∧ s.media.left = [] := by
  unfold State.resting at resting
  cases init : s.init <;> cases media : s.media <;>
    simp [init, media] at resting <;>
    simp [State.connect, init, media, Media.left]

theorem Forwarding.forwarded (forwarding : Forwarding config heard trace s) :
    Forwarded config heard (audioBytes trace) s := by
  constructor
  · exact fun unconnected => (forwarding.early unconnected).silent
  · cases connected : s.connected with
    | false =>
        rw [(forwarding.early connected).silent]
        exact List.nil_prefix
    | true => exact (forwarding.late connected).closed
  · intro connected opened resting
    obtain ⟨none, empty⟩ := State.connect_of_resting resting
    rw [← (forwarding.late connected).flowing opened, none, empty]
    simp
  · intro connected resting
    have drained := (forwarding.late connected).drained
    rw [(State.connect_of_resting resting).1] at drained
    exact drained

end Steps

/-- In every interleaving the audio of the requests written is what the
prebuffer kept of the frames before the connect and then the frames since, in
order and without a gap; all of it at rest while the write side is open. -/
theorem audio_forwarded {config : Config} {labels : List Act}
    {trace : List Event} {finish : State × Heard}
    (run : (hearing config).Run anyStep (hearing config).initial labels trace
      finish) : Forwarded config finish.2 (audioBytes trace) finish.1 := by
  have kept : Placed finish.1 ∧ Settled trace finish.1 ∧
      Forwarding config finish.2 trace finish.1 := by
    refine run.induct (fun trace s => Placed s.1 ∧ Settled trace s.1 ∧
      Forwarding config s.2 trace s.1) ?_ ?_
    · exact ⟨State.fresh_placed config, settled_fresh config,
        forwarding_fresh config⟩
    · intro trace s act s' events ⟨placed, settled, forwarding⟩ _ taken
      obtain ⟨moved, noted⟩ := Machine.recording_step taken
      obtain ⟨placed', settled'⟩ := step_settled placed settled moved
      refine ⟨placed', settled', ?_⟩
      rw [noted]
      exact step_forwarding placed forwarding moved
  exact kept.2.2.forwarded

/-- Three frames before the VAD starts talking at the fourth. -/
theorem audio_forwarded_of_vad :
    ∃ labels trace finish,
      (hearing ⟨true, false, 2⟩).Run anyStep (hearing ⟨true, false, 2⟩).initial
          labels trace finish ∧
        audioBytes trace = [1, 2, 3, 4, 5, 6] ∧
        finish.2 = ⟨[1, 2, 3, 4, 5], [6]⟩ ∧
        Forwarded ⟨true, false, 2⟩ finish.2 (audioBytes trace) finish.1 := by
  let labels : List Act :=
    [Act.init true,
      .frame [⟨[1], false⟩, ⟨[2, 3], false⟩, ⟨[4, 5], false⟩, ⟨[6], true⟩]] ++
      List.replicate 29 Act.media
  have executed : ((hearing ⟨true, false, 2⟩).exec anyStep
      (hearing ⟨true, false, 2⟩).initial labels).map (fun outcome =>
        decide (audioBytes outcome.2 = [1, 2, 3, 4, 5, 6] ∧
          outcome.1.2 = ⟨[1, 2, 3, 4, 5], [6]⟩)) = some true := by
    decide
  obtain ⟨finish, trace, run, sent⟩ := Machine.exists_run_of_exec _ executed
  obtain ⟨bytes, heard⟩ := of_decide_eq_true sent
  exact ⟨labels, trace, finish, run, bytes, heard, audio_forwarded run⟩

end DrachtioModules.Google

import DrachtioModules.Transcribe.StreamerLife

/-!
# What may go wrong in the life of a GStreamer

The media thread uses a pointer that it read without the mutex.  It is safe
because a stop keeps the mutex until the bug is removed, and removing the bug
waits for the frame.
-/

namespace DrachtioModules.Transcribe.StreamerLife

/-- No cleanup has the mutex that has done anything. -/
def Early (s : State) : Prop :=
  ∀ caller stage, s.mutex = some (.cleanup caller stage) →
    caller ≠ .nested ∧ (stage = .locked ∨ stage = .unlocking)

/-- Where the GStreamer is between its birth and its end. -/
inductive Life (config : Config) (s : State) : Prop where
  | unborn (start : s.start = .fresh) (gone : s.streamer = false)
      (detached : s.attached = false) (unnamed : s.channelPrivate ≠ .mine)
      (stops : s.stops = 0) (timers : s.timers = 0) (free : s.mutex = none)
      (reader : s.reader = .absent) (unclosed : s.writesDone = false)
      (alive : s.hangup ≠ .closing)
  | intact (start : s.start ≠ .fresh) (there : s.streamer = true)
      (alive : s.alive = true) (resampler : s.resampler = config.resamples)
      (promised : s.promised = true → s.connected = true)
      (unclosed : s.writesDone = false)
      (connected : config.vad = false → s.connected = true)
      (early : Early s)
  | joining {caller : Caller} (start : s.start ≠ .fresh)
      (there : s.streamer = true) (alive : s.alive = true)
      (mutex : s.mutex = some (.cleanup caller .joining))
      (outer : caller ≠ .nested)
  | deleted {caller : Caller} (start : s.start ≠ .fresh)
      (there : s.streamer = true) (reader : s.reader = .exited)
      (mutex : s.mutex = some (.cleanup caller .deleted))
      (outer : caller ≠ .nested)
  | torn (start : s.start ≠ .fresh) (gone : s.streamer = false)
      (reader : s.reader = .exited)
      (late : ∀ caller, s.mutex ≠ some (.cleanup caller .joining) ∧
        s.mutex ≠ some (.cleanup caller .deleted))

/-- What the media thread relies on: the GStreamer it saw, or a stop that waits
for the end of the frame with the mutex. -/
inductive Frame (s : State) : Prop where
  | away (media : s.media = .away) (mutex : s.mutex ≠ some .media)
  | looking (media : s.media = .entered ∨ s.media = .copied true)
      (mutex : s.mutex ≠ some .media) (inside : s.hangup ≠ .closing)
      (kept : s.streamer = true ∧ s.alive = true ∨
        s.mutex = some (.cleanup .stop .deleted) ∨
        s.mutex = some (.cleanup .stop .closing) ∨
        s.mutex = some (.cleanup .stop .removing))
  | missed (media : s.media = .copied false) (inside : s.hangup ≠ .closing)
      (kept : s.mutex = some (.cleanup .stop .closing) ∨
        s.mutex = some (.cleanup .stop .removing))
  | listening (media : s.media = .listening true ∨ s.media = .configuring true)
      (mutex : s.mutex = some .media) (inside : s.hangup ≠ .closing)
      (there : s.streamer = true)

/-- What the read thread has done to the stream. -/
structure Stream (config : Config) (s : State) : Prop where
  unborn : s.start = .fresh → s.reader = .absent ∧ s.finished = false
  connected : s.reader = .reading ∨ s.reader = .ending ∨ s.finished = true →
    s.connected = true
  cobalt : s.reader = .ending ∨ s.finished = true → config.module = .cobalt
  finished : s.finished = true → s.reader = .exited

structure Inv (config : Config) (s : State) : Prop where
  life : Life config s
  frame : Frame s
  hanging : ∀ stage, s.mutex = some (.cleanup .hangup stage) →
    s.hangup = .closing
  nuance : s.mutex = some .timers ∨ 0 < s.timers → config.module = .nuance

/-- What may happen that is not sound. -/
def Event.allowed (config : Config) (event : Event) : Prop :=
  event.sound = true ∨
    event = .write false true true ∧ config.module = .nuance ∧
      config.vad = true ∨
    event = .destroy false ∧ config.resamples = true ∨
    (event = .write true true false ∨ event = .writesDone true false) ∧
      config.module = .cobalt

/-- What a step leads to. -/
structure Kept (config : Config) (s' : State) (events : List Event) :
    Prop where
  inv : Inv config s'
  allowed : ∀ event ∈ events, event.allowed config

section Invariant

variable {config : Config} {s s' : State} {events : List Event}

theorem inv_fresh (config : Config) : Inv config .fresh := by
  constructor
  · apply Life.unborn <;> simp [State.fresh]
  · apply Frame.away <;> simp [State.fresh]
  · simp [State.fresh]
  · simp [State.fresh]

theorem early_of_none (mutex : s.mutex = none) : Early s := by
  intro caller stage held
  rw [mutex] at held
  cases held

/-- The GStreamer and its threads are left alone. -/
structure Same (s s' : State) : Prop where
  start : s.start ≠ .fresh
  born : s'.start ≠ .fresh
  streamer : s'.streamer = s.streamer
  alive : s'.alive = s.alive
  connected : s'.connected = s.connected
  promised : s'.promised = s.promised
  writesDone : s'.writesDone = s.writesDone
  resampler : s'.resampler = s.resampler
  reader : s'.reader = s.reader

theorem Life.keep (life : Life config s) (same : Same s s')
    (mutex : s'.mutex = s.mutex) : Life config s' := by
  cases life with
  | unborn fresh => exact absurd fresh same.start
  | intact _ there alive resampler promised unclosed connected early =>
      apply Life.intact same.born (same.streamer.trans there)
        (same.alive.trans alive) (same.resampler.trans resampler)
      · rw [same.promised, same.connected]
        exact promised
      · exact same.writesDone.trans unclosed
      · rw [same.connected]
        exact connected
      · intro caller stage held
        exact early caller stage (mutex.symm.trans held)
  | joining _ there alive held outer =>
      exact .joining same.born (same.streamer.trans there)
        (same.alive.trans alive) (mutex.trans held) outer
  | deleted _ there reader held outer =>
      exact .deleted same.born (same.streamer.trans there)
        (same.reader.trans reader) (mutex.trans held) outer
  | torn _ gone reader late =>
      apply Life.torn same.born (same.streamer.trans gone)
        (same.reader.trans reader)
      rw [mutex]
      exact late

theorem Early.not_begun (early : Early s) {caller : Caller} {stage : Stage}
    (started : stage ≠ .locked) (unfinished : stage ≠ .unlocking) :
    s.mutex ≠ some (.cleanup caller stage) := by
  intro here
  rcases (early caller stage here).2 with locked | unlocking
  · exact started locked
  · exact unfinished unlocking

theorem Life.pass (life : Life config s) (same : Same s s') (early : Early s)
    (early' : Early s') : Life config s' := by
  cases life with
  | unborn fresh => exact absurd fresh same.start
  | intact _ there alive resampler promised unclosed connected _ =>
      apply Life.intact same.born (same.streamer.trans there)
        (same.alive.trans alive) (same.resampler.trans resampler)
      · rw [same.promised, same.connected]
        exact promised
      · exact same.writesDone.trans unclosed
      · rw [same.connected]
        exact connected
      · exact early'
  | joining _ _ _ held _ =>
      exact absurd held (early.not_begun (by decide) (by decide))
  | deleted _ _ _ held _ =>
      exact absurd held (early.not_begun (by decide) (by decide))
  | torn _ gone reader _ =>
      apply Life.torn same.born (same.streamer.trans gone)
        (same.reader.trans reader)
      intro caller
      constructor
      · exact early'.not_begun (by decide) (by decide)
      · exact early'.not_begun (by decide) (by decide)

theorem Frame.keep (frame : Frame s) (media : s'.media = s.media)
    (hangup : s'.hangup = .closing → s.hangup = .closing)
    (streamer : s'.streamer = s.streamer) (alive : s'.alive = s.alive)
    (mutex : s'.mutex = s.mutex) : Frame s' := by
  cases frame with
  | away gone free => exact .away (media.trans gone) (mutex ▸ free)
  | looking looks free inside kept =>
      apply Frame.looking
      · rw [media]
        exact looks
      · exact mutex ▸ free
      · exact fun closing => inside (hangup closing)
      · rw [streamer, alive, mutex]
        exact kept
  | missed missed inside kept =>
      apply Frame.missed (media.trans missed)
      · exact fun closing => inside (hangup closing)
      · rw [mutex]
        exact kept
  | listening listens held inside there =>
      apply Frame.listening _ (mutex.trans held)
      · exact fun closing => inside (hangup closing)
      · exact streamer.trans there
      · rw [media]
        exact listens

theorem Frame.pass (frame : Frame s) (media : s'.media = s.media)
    (hangup : s'.hangup = .closing → s.hangup = .closing)
    (streamer : s'.streamer = s.streamer) (alive : s'.alive = s.alive)
    (early : Early s) (mutex : s.mutex ≠ some .media)
    (mutex' : s'.mutex ≠ some .media) : Frame s' := by
  have deleted : s.mutex ≠ some (.cleanup .stop .deleted) :=
    early.not_begun (by decide) (by decide)
  have closing : s.mutex ≠ some (.cleanup .stop .closing) :=
    early.not_begun (by decide) (by decide)
  have removing : s.mutex ≠ some (.cleanup .stop .removing) :=
    early.not_begun (by decide) (by decide)
  cases frame with
  | away gone _ => exact .away (media.trans gone) mutex'
  | looking looks _ inside kept =>
      apply Frame.looking _ mutex'
      · exact fun closing => inside (hangup closing)
      · left
        rw [streamer, alive]
        simpa [deleted, closing, removing] using kept
      · rw [media]
        exact looks
  | missed _ _ kept => simp [closing, removing] at kept
  | listening _ held => exact absurd held mutex

theorem Life.born (life : Life config s)
    (known : s.attached = true ∨ s.channelPrivate = .mine ∨ 0 < s.stops ∨
      0 < s.timers ∨ s.mutex ≠ none ∨ s.hangup = .closing) :
    s.start ≠ .fresh := by
  cases life with
  | unborn _ _ detached unnamed stops timers free _ _ alive =>
      simp [detached, unnamed, stops, timers, free, alive] at known
  | intact start | joining start | deleted start | torn start => exact start

/-- Where there is no GStreamer, no frame is under way, unless a stop waits for
it. -/
theorem Frame.away_of_gone (frame : Frame s) (gone : s.streamer = false)
    (deleted : s.mutex ≠ some (.cleanup .stop .deleted))
    (closing : s.mutex ≠ some (.cleanup .stop .closing))
    (removing : s.mutex ≠ some (.cleanup .stop .removing)) :
    s.media = .away ∧ s.mutex ≠ some .media := by
  cases frame with
  | away gone free => exact ⟨gone, free⟩
  | looking _ _ _ kept => simp [gone, deleted, closing, removing] at kept
  | missed _ _ kept => simp [closing, removing] at kept
  | listening _ _ _ there => simp [gone] at there

theorem Kept.silent (inv : Inv config s) : Kept config s [] :=
  ⟨inv, fun _ member => by cases member⟩

theorem Stream.unfinished (stream : Stream config s)
    (other : config.module ≠ .cobalt) : s.finished = false := by
  cases finished : s.finished with
  | false => rfl
  | true => exact absurd (stream.cobalt (.inr finished)) other

theorem Stream.written_allowed (stream : Stream config s)
    (unclosed : s.writesDone = false) : (written s).allowed config := by
  cases finished : s.finished with
  | false => exact .inl (by simp [written, Event.sound, unclosed, finished])
  | true =>
      have cobalt := stream.cobalt (.inr finished)
      refine .inr (.inr (.inr ⟨.inl ?_, cobalt⟩))
      simp [written, unclosed, finished]

theorem init_kept (inv : Inv config s) (start : s.start = .fresh) :
    Kept config
      { s with
        start := .streaming, streamer := true, alive := true
        connected := !config.vad, promised := !config.vad
        resampler := config.resamples, reader := .waiting }
      (if config.vad then [] else [.promise true, .write true true true]) := by
  cases inv.life with
  | unborn _ gone _ _ _ _ free _ unclosed _ =>
      obtain ⟨away, _⟩ := inv.frame.away_of_gone gone (by simp [free])
        (by simp [free]) (by simp [free])
      constructor
      · constructor
        · apply Life.intact
          · simp
          · rfl
          · rfl
          · rfl
          · exact id
          · exact unclosed
          · intro direct
            simp [direct]
          · exact early_of_none free
        · exact .away away (by simp [free])
        · exact inv.hanging
        · exact inv.nuance
      · intro event member
        cases vad : config.vad with
        | false =>
            simp only [vad, Bool.false_eq_true, if_false, List.mem_cons,
              List.not_mem_nil, or_false] at member
            rcases member with rfl | rfl
            · exact .inl rfl
            · exact .inl rfl
        | true => simp [vad] at member
  | intact born | joining born | deleted born | torn born =>
      exact absurd start born

theorem Inv.aside (inv : Inv config s) (same : Same s s')
    (media : s'.media = s.media) (mutex : s'.mutex = s.mutex)
    (hangup : s'.hangup = s.hangup)
    (nuance : 0 < s'.timers → config.module = .nuance) : Inv config s' := by
  constructor
  · exact inv.life.keep same mutex
  · apply inv.frame.keep media _ same.streamer same.alive mutex
    rw [hangup]
    exact id
  · rw [mutex, hangup]
    exact inv.hanging
  · rintro (held | waiting)
    · rw [mutex] at held
      exact inv.nuance (.inl held)
    · exact nuance waiting

theorem rename_kept (inv : Inv config s) (named : Private)
    (other : named ≠ .mine) :
    Inv config { s with channelPrivate := named } := by
  cases inv.life with
  | unborn start gone detached _ stops timers free reader unclosed alive =>
      constructor
      · exact .unborn start gone detached other stops timers free reader
          unclosed alive
      · exact inv.frame.keep rfl id rfl rfl rfl
      · exact inv.hanging
      · exact inv.nuance
  | intact born | joining born | deleted born | torn born =>
      exact inv.aside ⟨born, born, rfl, rfl, rfl, rfl, rfl, rfl, rfl⟩ rfl rfl
        rfl fun waiting => inv.nuance (.inr waiting)

theorem start_kept {act : Act} (inv : Inv config s)
    (step : stepStart config s act = some (s', events)) :
    Kept config s' events := by
  have nuance : 0 < s.timers → config.module = .nuance :=
    fun waiting => inv.nuance (.inr waiting)
  cases act with
  | init =>
      simp only [stepStart] at step
      split at step
      · rename_i enabled
        cases step
        exact init_kept inv enabled.1
      · cases step
  | add ok =>
      simp only [stepStart] at step
      split at step
      · rename_i enabled
        have born : s.start ≠ .fresh := by simp [enabled.1]
        cases ok with
        | true =>
            cases step
            exact .silent (inv.aside ⟨born, by simp, rfl, rfl, rfl, rfl, rfl,
              rfl, rfl⟩ rfl rfl rfl nuance)
        | false =>
            cases step
            exact .silent (inv.aside ⟨born, by simp, rfl, rfl, rfl, rfl, rfl,
              rfl, rfl⟩ rfl rfl rfl nuance)
      · cases step
  | publish =>
      simp only [stepStart] at step
      split at step
      · rename_i added
        have born : s.start ≠ .fresh := by simp [added]
        cases step
        exact .silent (inv.aside ⟨born, by simp, rfl, rfl, rfl, rfl, rfl, rfl,
          rfl⟩ rfl rfl rfl nuance)
      · cases step
  | rename present =>
      cases step
      apply Kept.silent
      apply rename_kept inv
      cases present with
      | true => simp
      | false => simp
  | _ => cases step

theorem Life.intact_of_there (life : Life config s) (there : s.streamer = true)
    (early : Early s) :
    s.start ≠ .fresh ∧ s.alive = true ∧ s.resampler = config.resamples ∧
      (s.promised = true → s.connected = true) ∧ s.writesDone = false ∧
      (config.vad = false → s.connected = true) := by
  cases life with
  | unborn _ gone => simp [gone] at there
  | intact start _ alive resampler promised unclosed connected _ =>
      exact ⟨start, alive, resampler, promised, unclosed, connected⟩
  | joining _ _ _ held _ =>
      exact absurd held (early.not_begun (by decide) (by decide))
  | deleted _ _ _ held _ =>
      exact absurd held (early.not_begun (by decide) (by decide))
  | torn _ gone => simp [gone] at there

theorem early_of_media (mutex : s.mutex = some .media) : Early s := by
  intro caller stage held
  rw [mutex] at held
  cases held

theorem Inv.kept_of_there (inv : Inv config s) (there : s.streamer = true)
    (inside : s.hangup ≠ .closing) :
    s.streamer = true ∧ s.alive = true ∨
      s.mutex = some (.cleanup .stop .deleted) := by
  cases inv.life with
  | unborn _ gone => simp [gone] at there
  | intact _ _ alive => exact .inl ⟨there, alive⟩
  | joining _ _ alive => exact .inl ⟨there, alive⟩
  | @deleted caller _ _ _ held outer =>
      cases caller with
      | stop => exact .inr held
      | nested => exact absurd rfl outer
      | hangup => exact absurd (inv.hanging _ held) inside
  | torn _ gone => simp [gone] at there

theorem Frame.free_of_away (frame : Frame s) (away : s.media = .away) :
    s.mutex ≠ some .media := by
  cases frame with
  | away _ free => exact free
  | looking _ free => exact free
  | missed media => simp [away] at media
  | listening media => simp [away] at media

theorem enter_kept (inv : Inv config s) (away : s.media = .away)
    (attached : s.attached = true) (inside : s.hangup ≠ .closing)
    (there : s.streamer = true) :
    Inv config { s with media := .entered } := by
  have born := inv.life.born (.inl attached)
  have free := inv.frame.free_of_away away
  constructor
  · exact inv.life.keep ⟨born, born, rfl, rfl, rfl, rfl, rfl, rfl, rfl⟩ rfl
  · refine .looking (.inl rfl) free inside ?_
    rcases inv.kept_of_there there inside with alive | deleted
    · exact .inl alive
    · exact .inr (.inl deleted)
  · exact inv.hanging
  · exact inv.nuance

theorem copy_kept (inv : Inv config s) (entered : s.media = .entered) :
    Inv config { s with media := .copied s.streamer } := by
  cases inv.frame with
  | away media => simp [entered] at media
  | missed media => simp [entered] at media
  | listening media => simp [entered] at media
  | looking _ free inside kept =>
      have born : s.start ≠ .fresh := by
        rcases kept with ⟨there, _⟩ | stopping
        · cases inv.life with
          | unborn _ gone => simp [gone] at there
          | intact born | joining born | deleted born | torn born => exact born
        · apply inv.life.born
          rcases stopping with held | held | held
          all_goals simp [held]
      constructor
      · exact inv.life.keep ⟨born, born, rfl, rfl, rfl, rfl, rfl, rfl, rfl⟩ rfl
      · cases there : s.streamer with
        | true => exact .looking (.inr rfl) free inside (there ▸ kept)
        | false =>
            refine .missed rfl inside ?_
            have alive : s.mutex ≠ some (.cleanup .stop .deleted) := by
              intro held
              cases inv.life with
              | unborn _ _ _ _ _ _ none => simp [none] at held
              | intact _ here => simp [here] at there
              | joining _ here => simp [here] at there
              | deleted _ here => simp [here] at there
              | torn _ _ _ late => exact (late _).2 held
            simpa [there, alive] using kept
      · exact inv.hanging
      · exact inv.nuance

/-- The mutex is taken by somebody who is not the media thread, or given back by
him. -/
theorem Inv.pass (inv : Inv config s) (same : Same s s')
    (media : s'.media = s.media)
    (hangup : s'.hangup = .closing → s.hangup = .closing) (early : Early s)
    (early' : Early s') (mutex : s.mutex ≠ some .media)
    (mutex' : s'.mutex ≠ some .media)
    (hanging : ∀ stage, s'.mutex = some (.cleanup .hangup stage) →
      s'.hangup = .closing)
    (nuance : s'.mutex = some .timers ∨ 0 < s'.timers →
      config.module = .nuance) : Inv config s' :=
  { life := inv.life.pass same early early'
    frame := inv.frame.pass media hangup same.streamer same.alive early mutex
      mutex'
    hanging := hanging
    nuance := nuance }

theorem tryLock_kept (inv : Inv config s) {streamer : Bool}
    (copied : s.media = .copied streamer) :
    Inv config (if s.mutex = none then
      { s with media := .listening streamer, mutex := some .media }
      else { s with media := .away }) := by
  cases inv.frame with
  | away media => simp [copied] at media
  | listening media => simp [copied] at media
  | missed _ inside kept =>
      have held : s.mutex ≠ none := by
        rcases kept with held | held
        · simp [held]
        · simp [held]
      have born := inv.life.born (.inr (.inr (.inr (.inr (.inl held)))))
      rw [if_neg held]
      constructor
      · exact inv.life.keep ⟨born, born, rfl, rfl, rfl, rfl, rfl, rfl, rfl⟩ rfl
      · refine .away rfl ?_
        rcases kept with held | held
        · simp [held]
        · simp [held]
      · exact inv.hanging
      · exact inv.nuance
  | looking looks free inside kept =>
      have seen : streamer = true := by simpa [copied] using looks
      subst seen
      split
      · rename_i none
        have intact : s.streamer = true ∧ s.alive = true := by
          simpa [none] using kept
        have early := early_of_none none
        obtain ⟨born, _⟩ := inv.life.intact_of_there intact.1 early
        constructor
        · exact inv.life.pass ⟨born, born, rfl, rfl, rfl, rfl, rfl, rfl, rfl⟩
            early (early_of_media rfl)
        · exact .listening (.inl rfl) rfl inside intact.1
        · simp
        · rintro (held | waiting)
          · cases held
          · exact inv.nuance (.inr waiting)
      · rename_i held
        have born := inv.life.born (.inr (.inr (.inr (.inr (.inl held)))))
        constructor
        · exact inv.life.keep ⟨born, born, rfl, rfl, rfl, rfl, rfl, rfl, rfl⟩
            rfl
        · exact .away rfl free
        · exact inv.hanging
        · exact inv.nuance

theorem Inv.listening (inv : Inv config s) {streamer : Bool}
    (listens : s.media = .listening streamer ∨
      s.media = .configuring streamer) :
    streamer = true ∧ s.mutex = some .media ∧ s.hangup ≠ .closing ∧
      s.streamer = true := by
  cases inv.frame with
  | away media => simp [media] at listens
  | looking looks =>
      rcases looks with media | media
      · simp [media] at listens
      · simp [media] at listens
  | missed media => simp [media] at listens
  | listening here mutex inside there =>
      have same : streamer = true := by
        rcases here with media | media
        · simpa [media, eq_comm] using listens
        · simpa [media, eq_comm] using listens
      exact ⟨same, mutex, inside, there⟩

theorem connect_kept (inv : Inv config s) {streamer : Bool}
    (listens : s.media = .listening streamer) (apart : s.connected = false) :
    Kept config
      { s with
        connected := true, promised := true, media := .configuring streamer }
      [.touch (streamer && s.alive), .promise (!s.promised)] := by
  obtain ⟨rfl, mutex, inside, there⟩ := inv.listening (.inl listens)
  obtain ⟨born, alive, resampler, promised, unclosed, _⟩ :=
    inv.life.intact_of_there there (early_of_media mutex)
  have first : s.promised = false := by
    cases set : s.promised with
    | false => rfl
    | true => simp [promised set] at apart
  constructor
  · constructor
    · exact .intact born there alive resampler (fun _ => rfl) unclosed
        (fun _ => rfl) (early_of_media mutex)
    · exact .listening (.inr rfl) mutex inside there
    · exact inv.hanging
    · exact inv.nuance
  · intro event member
    simp only [first, alive, Bool.and_true, Bool.not_false, List.mem_cons,
      List.not_mem_nil, or_false] at member
    rcases member with rfl | rfl
    · exact .inl rfl
    · exact .inl rfl

/-- The configuration is written, to a stream that the read thread may have
finished. -/
theorem configure_kept (inv : Inv config s) (stream : Stream config s)
    {streamer : Bool} (configures : s.media = .configuring streamer) :
    Kept config { s with media := .listening streamer }
      [.touch (streamer && s.alive), written s] := by
  obtain ⟨rfl, mutex, inside, there⟩ := inv.listening (.inr configures)
  obtain ⟨born, alive, _, _, unclosed, _⟩ :=
    inv.life.intact_of_there there (early_of_media mutex)
  constructor
  · constructor
    · exact inv.life.keep ⟨born, born, rfl, rfl, rfl, rfl, rfl, rfl, rfl⟩ rfl
    · exact .listening (.inl rfl) mutex inside there
    · exact inv.hanging
    · exact inv.nuance
  · intro event member
    simp only [List.mem_cons, List.not_mem_nil, or_false] at member
    rcases member with rfl | rfl
    · exact .inl (by simp [Event.sound, alive])
    · exact stream.written_allowed unclosed

theorem hear_kept {talking : Bool} (inv : Inv config s)
    (stream : Stream config s)
    (step : stepMedia config s (.hear talking) = some (s', events)) :
    Kept config s' events := by
  simp only [stepMedia] at step
  split at step
  · rename_i streamer listens
    split at step
    · rename_i connects
      have apart : s.connected = false := by
        simp only [Bool.and_eq_true, Bool.not_eq_true'] at connects
        exact connects.1.2
      cases step
      exact connect_kept inv listens apart
    · obtain ⟨rfl, mutex, _, there⟩ := inv.listening (.inl listens)
      obtain ⟨_, alive, resampler, _, unclosed, _⟩ :=
        inv.life.intact_of_there there (early_of_media mutex)
      cases step
      refine ⟨inv, fun event member => ?_⟩
      rcases List.mem_cons.mp member with rfl | audio
      · exact .inl (by simp [Event.sound, alive])
      rcases List.mem_append.mp audio with resampling | writing
      · split at resampling
        · rename_i resamples
          obtain rfl := List.mem_singleton.mp resampling
          exact .inl (resampler.trans resamples)
        · cases resampling
      · split at writing
        · obtain rfl := List.mem_singleton.mp writing
          exact stream.written_allowed unclosed
        · cases writing
  · cases step

theorem leave_kept (inv : Inv config s) {streamer : Bool}
    (listens : s.media = .listening streamer) :
    Inv config { s with media := .away, mutex := none } := by
  obtain ⟨_, mutex, inside, there⟩ := inv.listening (.inl listens)
  have early := early_of_media mutex
  obtain ⟨born, _⟩ := inv.life.intact_of_there there early
  constructor
  · exact inv.life.pass ⟨born, born, rfl, rfl, rfl, rfl, rfl, rfl, rfl⟩ early
      (early_of_none rfl)
  · exact .away rfl (by simp)
  · simp
  · rintro (held | waiting)
    · cases held
    · exact inv.nuance (.inr waiting)

theorem media_kept {act : Act} (inv : Inv config s) (stream : Stream config s)
    (step : stepMedia config s act = some (s', events)) :
    Kept config s' events := by
  cases act with
  | enter =>
      simp only [stepMedia] at step
      split at step
      · rename_i enabled
        obtain ⟨away, attached, inside⟩ := enabled
        cases there : s.streamer with
        | true =>
            rw [if_pos there] at step
            cases step
            exact .silent (enter_kept inv away attached inside there)
        | false =>
            rw [if_neg (by simp [there])] at step
            cases step
            exact .silent inv
      · cases step
  | copy =>
      simp only [stepMedia] at step
      split at step
      · rename_i entered
        cases step
        exact .silent (copy_kept inv entered)
      · cases step
  | tryLock =>
      simp only [stepMedia] at step
      split at step
      · rename_i streamer copied
        have kept := tryLock_kept inv copied
        split at step
        · rename_i free
          rw [if_pos free] at kept
          cases step
          exact .silent kept
        · rename_i held
          rw [if_neg held] at kept
          cases step
          exact .silent kept
      · cases step
  | hear talking => exact hear_kept inv stream step
  | configure =>
      simp only [stepMedia] at step
      split at step
      · rename_i streamer configures
        cases step
        exact configure_kept inv stream configures
      · cases step
  | leave =>
      simp only [stepMedia] at step
      split at step
      · rename_i streamer listens
        cases step
        exact .silent (leave_kept inv listens)
      · cases step
  | _ => cases step

theorem Life.alive_of_reading (life : Life config s)
    (reading : s.reader = .waiting ∨ s.reader = .reading ∨
      s.reader = .ending) : s.alive = true := by
  cases life with
  | unborn _ _ _ _ _ _ _ reader => simp [reader] at reading
  | intact _ _ alive => exact alive
  | joining _ _ alive => exact alive
  | deleted _ _ reader => simp [reader] at reading
  | torn _ _ reader => simp [reader] at reading

theorem Inv.read (inv : Inv config s)
    (reading : s.reader = .waiting ∨ s.reader = .reading ∨
      s.reader = .ending) (next : Reader) (finished : Bool) :
    Inv config { s with reader := next, finished := finished } := by
  constructor
  · cases inv.life with
    | unborn _ _ _ _ _ _ _ reader => simp [reader] at reading
    | intact born there alive resampler promised unclosed connected early =>
        exact .intact born there alive resampler promised unclosed connected
          early
    | joining born there alive mutex outer =>
        exact .joining born there alive mutex outer
    | deleted _ _ reader => simp [reader] at reading
    | torn _ _ reader => simp [reader] at reading
  · exact inv.frame.keep rfl id rfl rfl rfl
  · exact inv.hanging
  · exact inv.nuance

theorem reader_kept {act : Act} (inv : Inv config s) (stream : Stream config s)
    (step : stepReader config s act = some (s', events)) :
    Kept config s' events := by
  have touched : (s.reader = .waiting ∨ s.reader = .reading ∨
      s.reader = .ending) →
      ∀ event ∈ [Event.touch s.alive], event.allowed config := by
    intro reading event member
    obtain rfl := List.mem_singleton.mp member
    exact .inl (inv.life.alive_of_reading reading)
  cases act with
  | read more =>
      simp only [stepReader] at step
      split at step
      · rename_i waiting
        split at step
        · cases step
          exact ⟨inv.read (.inl waiting) _ s.finished, touched (.inl waiting)⟩
        · cases step
      · rename_i reading
        have reads := Or.inr (a := s.reader = .waiting)
          (Or.inl (b := s.reader = .ending) reading)
        cases more with
        | true =>
            cases step
            exact ⟨inv, touched reads⟩
        | false =>
            cases step
            exact ⟨inv.read reads _ s.finished, touched reads⟩
      · cases step
      · cases step
      · cases step
  | finish located =>
      simp only [stepReader] at step
      split at step
      · rename_i ending
        cases located with
        | true =>
            have first : s.finished = false := by
              cases finished : s.finished with
              | false => rfl
              | true =>
                  have exited := stream.finished finished
                  rw [ending] at exited
                  cases exited
            cases step
            refine ⟨inv.read (.inr (.inr ending)) _ true,
              fun event member => ?_⟩
            rcases List.mem_cons.mp member with rfl | finishes
            · exact .inl (inv.life.alive_of_reading (.inr (.inr ending)))
            · obtain rfl := List.mem_singleton.mp finishes
              exact .inl (by simp [Event.sound, first])
        | false =>
            cases step
            exact .silent (inv.read (.inr (.inr ending)) _ s.finished)
      · cases step
  | _ => cases step

theorem Stream.born (stream : Stream config s) (there : s.reader ≠ .absent) :
    s.start ≠ .fresh :=
  fun fresh => there (stream.unborn fresh).1

theorem Stream.unfinished_of_running (stream : Stream config s)
    (running : s.reader ≠ .exited) : s.finished ≠ true :=
  fun finished => running (stream.finished finished)

theorem stream_reader {act : Act} (stream : Stream config s)
    (step : stepReader config s act = some (s', events)) :
    Stream config s' := by
  cases act with
  | read more =>
      simp only [stepReader] at step
      split at step
      · rename_i waiting
        have born := stream.born (by simp [waiting])
        have unfinished := stream.unfinished_of_running (by simp [waiting])
        split at step
        · cases step
          refine ⟨fun fresh => absurd fresh born, ?_, ?_,
            fun finished => absurd finished unfinished⟩
          · cases up : s.connected with
            | true => simp
            | false => simp [unfinished]
          · cases up : s.connected with
            | true => simp [unfinished]
            | false => simp [unfinished]
        · cases step
      · rename_i reading
        have born := stream.born (by simp [reading])
        have up := stream.connected (.inl reading)
        have unfinished := stream.unfinished_of_running (by simp [reading])
        cases more with
        | true =>
            cases step
            exact stream
        | false =>
            cases step
            refine ⟨fun fresh => absurd fresh born, fun _ => up, ?_,
              fun finished => absurd finished unfinished⟩
            by_cases cobalt : config.module = .cobalt
            · exact fun _ => cobalt
            · simp [cobalt, unfinished]
      · cases step
      · cases step
      · cases step
  | finish located =>
      simp only [stepReader] at step
      split at step
      · rename_i ending
        have born := stream.born (by simp [ending])
        have up := stream.connected (.inr (.inl ending))
        have cobalt := stream.cobalt (.inl ending)
        cases located with
        | true =>
            cases step
            exact ⟨fun fresh => absurd fresh born, fun _ => up,
              fun _ => cobalt, fun _ => rfl⟩
        | false =>
            cases step
            exact ⟨fun fresh => absurd fresh born, fun _ => up,
              fun _ => cobalt, fun _ => rfl⟩
      · cases step
  | _ => cases step

/-- Whoever else takes a step leaves the read thread alone. -/
structure Unread (s s' : State) : Prop where
  start : s'.start = .fresh → s.start = .fresh
  connected : s.connected = true → s'.connected = true
  reader : s'.reader = s.reader
  finished : s'.finished = s.finished

theorem Stream.keep (stream : Stream config s) (unread : Unread s s') :
    Stream config s' := by
  obtain ⟨start, connected, reader, finished⟩ := unread
  constructor
  · rw [finished, reader]
    exact fun fresh => stream.unborn (start fresh)
  · rw [finished, reader]
    exact fun read => connected (stream.connected read)
  · rw [finished, reader]
    exact stream.cobalt
  · rw [finished, reader]
    exact stream.finished

theorem cleanup_unread {caller : Caller} {stage : Stage}
    (step : stepCleanup config s caller stage = some (s', events)) :
    Unread s s' := by
  cases stage with
  | locked =>
      simp only [stepCleanup, writesDone, holding] at step
      constructor <;> grind
  | removing =>
      cases caller with
      | stop =>
          simp only [stepCleanup, holding] at step
          constructor <;> grind
      | nested | hangup =>
          cases step
          exact ⟨id, id, rfl, rfl⟩
  | unlocking =>
      cases caller with
      | _ =>
          cases step
          exact ⟨id, id, rfl, rfl⟩
  | joining | deleted | closing =>
      simp only [stepCleanup, holding] at step
      constructor <;> grind

theorem stream_step {act : Act} (stream : Stream config s)
    (step : step config s act = some (s', events)) : Stream config s' := by
  cases act with
  | read | finish =>
      simp only [StreamerLife.step] at step
      exact stream_reader stream step
  | init =>
      simp only [StreamerLife.step, stepStart] at step
      split at step
      · rename_i enabled
        obtain ⟨absent, unfinished⟩ := stream.unborn enabled.1
        cases step
        constructor <;> simp [unfinished]
      · cases step
  | cleanup =>
      simp only [StreamerLife.step, stepTeardown] at step
      split at step
      · exact stream.keep (cleanup_unread step)
      · cases step
  | _ =>
      apply stream.keep
      constructor <;> grind [StreamerLife.step, stepStart, stepMedia,
        stepTeardown, stepTimers, holding]

theorem startTimers_kept (inv : Inv config s) (stream : Stream config s)
    (mutex : s.mutex = some .timers) :
    Kept config { s with mutex := none }
      (if s.streamer = true then
        [.touch s.alive, .write s.connected (!s.writesDone) (!s.finished)]
      else []) := by
  have early : Early s := by
    intro caller stage held
    rw [mutex] at held
    cases held
  have born := inv.life.born (by simp [mutex])
  constructor
  · refine inv.pass ⟨born, born, rfl, rfl, rfl, rfl, rfl, rfl, rfl⟩ rfl id early
      (early_of_none rfl) (by simp [mutex]) (by simp) (by simp) ?_
    rintro (held | waiting)
    · cases held
    · exact inv.nuance (.inr waiting)
  · intro event member
    split at member
    · rename_i there
      obtain ⟨_, alive, _, _, unclosed, connected⟩ :=
        inv.life.intact_of_there there early
      simp only [List.mem_cons, List.not_mem_nil, or_false] at member
      rcases member with rfl | rfl
      · exact .inl alive
      · have nuance := inv.nuance (.inl mutex)
        have unfinished := stream.unfinished (by simp [nuance])
        rw [unclosed, unfinished]
        cases up : s.connected with
        | true => exact .inl rfl
        | false =>
            -- only a VAD puts the connect off
            refine .inr (.inl ⟨rfl, nuance, ?_⟩)
            cases vad : config.vad with
            | true => rfl
            | false => simp [connected vad] at up
    · cases member

theorem timers_kept {act : Act} (inv : Inv config s) (stream : Stream config s)
    (step : stepTimers config s act = some (s', events)) :
    Kept config s' events := by
  cases act with
  | lookTimers =>
      simp only [stepTimers] at step
      split at step
      · rename_i enabled
        have born := inv.life.born (.inr (.inl enabled.2))
        cases step
        exact .silent (inv.aside ⟨born, born, rfl, rfl, rfl, rfl, rfl, rfl,
          rfl⟩ rfl rfl rfl fun _ => enabled.1)
      · cases step
  | lockTimers =>
      simp only [stepTimers] at step
      split at step
      · rename_i enabled
        obtain ⟨waiting, free⟩ := enabled
        have nuance := inv.nuance (.inr waiting)
        have born := inv.life.born (by simp [waiting])
        cases step
        apply Kept.silent
        refine inv.pass ⟨born, born, rfl, rfl, rfl, rfl, rfl, rfl, rfl⟩ rfl id
          (early_of_none free) ?_ (by simp [free]) (by simp) (by simp)
          fun _ => nuance
        intro caller stage held
        cases held
      · cases step
  | startTimers =>
      simp only [stepTimers] at step
      split at step
      · rename_i mutex
        cases step
        exact startTimers_kept inv stream mutex
      · cases step
  | _ => cases step

section Cleanup

variable {caller : Caller}

theorem Inv.pointing (inv : Inv config s) {stage : Stage}
    (mutex : s.mutex = some (.cleanup caller stage))
    (begun : stage ≠ .locked) (unfinished : stage ≠ .unlocking)
    (joined : stage ≠ .joining) (deleted : stage ≠ .deleted) :
    s.streamer = false ∧ s.reader = .exited := by
  cases inv.life with
  | unborn _ _ _ _ _ _ free => simp [mutex] at free
  | intact _ _ _ _ _ _ _ early =>
      exact absurd mutex (early.not_begun begun unfinished)
  | joining _ _ _ held => simp [mutex, joined] at held
  | deleted _ _ _ held => simp [mutex, deleted] at held
  | torn _ gone reader => exact ⟨gone, reader⟩

theorem Inv.exited (inv : Inv config s) (gone : s.streamer = false)
    (born : s.start ≠ .fresh) : s.reader = .exited := by
  cases inv.life with
  | unborn start => exact absurd start born
  | intact _ there => simp [gone] at there
  | joining _ there => simp [gone] at there
  | deleted _ there => simp [gone] at there
  | torn _ _ reader => exact reader

/-- Past the end of the GStreamer the mutex goes from one stage of the cleanup
to another. -/
theorem Inv.torn (inv : Inv config s) {caller' : Caller} {stage' : Stage}
    (born : s'.start ≠ .fresh) (gone : s'.streamer = false)
    (reader : s'.reader = .exited) (frame : Frame s')
    (mutex' : s'.mutex = some (.cleanup caller' stage'))
    (joined : stage' ≠ .joining) (deleted : stage' ≠ .deleted)
    (hanging : caller' = .hangup → s'.hangup = .closing)
    (timers : s'.timers = s.timers) : Inv config s' := by
  constructor
  · apply Life.torn born gone reader
    intro other
    simp [mutex', joined, deleted]
  · exact frame
  · intro stage held
    rw [mutex'] at held
    cases held
    exact hanging rfl
  · rintro (held | waiting)
    · rw [mutex'] at held
      cases held
    · rw [timers] at waiting
      exact inv.nuance (.inr waiting)

theorem writesDone_kept (inv : Inv config s) (stream : Stream config s)
    (mutex : s.mutex = some (.cleanup caller .locked))
    (there : s.streamer = true) :
    Kept config
      (holding caller .joining
        (writesDone { s with channelPrivate := .none }).1)
      (.touch s.alive ::
        (writesDone { s with channelPrivate := .none }).2) := by
  cases inv.life with
  | unborn _ gone => simp [gone] at there
  | joining _ _ _ held => simp [mutex] at held
  | deleted _ _ _ held => simp [mutex] at held
  | torn _ gone => simp [gone] at there
  | intact born _ alive _ promised unclosed _ early =>
      have outer := (early _ _ mutex).1
      have taken : ∀ next : State, next.media = s.media →
          next.hangup = s.hangup → next.streamer = s.streamer →
          next.alive = s.alive → next.start = s.start →
          next.timers = s.timers →
            Inv config (holding caller .joining next) := by
        intro next media hangup streamer live start timers
        constructor
        · exact .joining (start ▸ born) (streamer.trans there)
            (live.trans alive) rfl outer
        · refine inv.frame.pass media ?_ streamer live early (by simp [mutex])
            (by simp [holding])
          exact fun closing => hangup.symm.trans closing
        · intro stage held
          cases held
          exact hangup.trans (inv.hanging _ mutex)
        · rintro (held | waiting)
          · cases held
          · exact inv.nuance (.inr (timers ▸ waiting))
      have touched : Event.allowed config (.touch s.alive) := .inl alive
      cases up : s.connected with
      | true =>
          simp only [writesDone, unclosed, Bool.false_eq_true, if_true,
            if_false]
          refine ⟨taken _ rfl rfl rfl rfl rfl rfl, fun event member => ?_⟩
          simp only [List.mem_cons, List.not_mem_nil, or_false] at member
          rcases member with rfl | rfl
          · exact touched
          · cases finished : s.finished with
            | false => exact .inl rfl
            | true =>
                have cobalt := stream.cobalt (.inr finished)
                exact .inr (.inr (.inr ⟨.inr rfl, cobalt⟩))
      | false =>
          have first : s.promised = false := by
            cases set : s.promised with
            | false => rfl
            | true => simp [promised set] at up
          simp only [writesDone, first, Bool.false_eq_true, if_false]
          refine ⟨taken _ rfl rfl rfl rfl rfl rfl, fun event member => ?_⟩
          simp only [List.mem_cons, List.not_mem_nil, or_false] at member
          rcases member with rfl | rfl
          · exact touched
          · exact .inl rfl

theorem locked_kept (inv : Inv config s) (stream : Stream config s)
    (mutex : s.mutex = some (.cleanup caller .locked))
    (step : stepCleanup config s caller .locked = some (s', events)) :
    Kept config s' events := by
  have born := inv.life.born (by simp [mutex])
  have hanging : caller = .hangup → s.hangup = .closing := by
    rintro rfl
    exact inv.hanging _ mutex
  simp only [stepCleanup] at step
  split at step
  · cases step
    apply Kept.silent
    cases gone : s.streamer with
    | true =>
        have early : Early s := by
          cases inv.life with
          | unborn _ none => simp [none] at gone
          | intact _ _ _ _ _ _ _ early => exact early
          | joining _ _ _ held => simp [mutex] at held
          | deleted _ _ _ held => simp [mutex] at held
          | torn _ none => simp [none] at gone
        refine inv.pass ⟨born, born, rfl, rfl, rfl, rfl, rfl, rfl, rfl⟩ rfl id
          early ?_ (by simp [mutex]) (by simp [holding]) ?_ ?_
        · intro other stage held
          cases held
          exact ⟨(early _ _ mutex).1, .inr rfl⟩
        · intro stage held
          cases held
          exact hanging rfl
        · rintro (held | waiting)
          · cases held
          · exact inv.nuance (.inr waiting)
    | false =>
        obtain ⟨away, _⟩ := inv.frame.away_of_gone gone (by simp [mutex])
          (by simp [mutex]) (by simp [mutex])
        exact inv.torn born gone (inv.exited gone born) (.away away
          (by simp [holding])) rfl (by decide) (by decide) hanging rfl
  · split at step
    · rename_i there
      cases step
      exact writesDone_kept inv stream mutex there
    · rename_i gone
      cases step
      have gone : s.streamer = false := by simpa using gone
      obtain ⟨away, _⟩ := inv.frame.away_of_gone gone (by simp [mutex])
        (by simp [mutex]) (by simp [mutex])
      apply Kept.silent
      exact inv.torn born gone (inv.exited gone born) (.away away
        (by simp [holding])) rfl (by decide) (by decide) hanging rfl

theorem joining_kept (inv : Inv config s)
    (mutex : s.mutex = some (.cleanup caller .joining))
    (exited : s.reader = .exited) :
    Kept config (holding caller .deleted { s with alive := false })
      [.delete s.alive] := by
  cases inv.life with
  | unborn _ _ _ _ _ _ free => simp [mutex] at free
  | intact _ _ _ _ _ _ _ early =>
      exact absurd mutex (early.not_begun (by decide) (by decide))
  | deleted _ _ _ held => simp [mutex] at held
  | torn _ _ _ late => exact absurd mutex (late caller).1
  | joining born there alive held outer =>
      obtain rfl : caller = _ := by simpa [mutex] using held
      constructor
      · constructor
        · exact .deleted born there exited rfl outer
        · cases inv.frame with
          | away away _ => exact .away away (by simp [holding])
          | looking looks _ inside _ =>
              refine .looking looks (by simp [holding]) inside (.inr (.inl ?_))
              cases caller with
              | stop => rfl
              | nested => exact absurd rfl outer
              | hangup => exact absurd (inv.hanging _ mutex) inside
          | missed _ _ kept => simp [mutex] at kept
          | listening _ taken => simp [mutex] at taken
        · intro stage held
          cases held
          exact inv.hanging _ mutex
        · rintro (held | waiting)
          · cases held
          · exact inv.nuance (.inr waiting)
      · intro event member
        obtain rfl := List.mem_singleton.mp member
        exact .inl alive

theorem deleted_kept (inv : Inv config s)
    (mutex : s.mutex = some (.cleanup caller .deleted)) :
    Inv config (holding caller .closing { s with streamer := false }) := by
  cases inv.life with
  | unborn _ _ _ _ _ _ free => simp [mutex] at free
  | intact _ _ _ _ _ _ _ early =>
      exact absurd mutex (early.not_begun (by decide) (by decide))
  | joining _ _ _ held => simp [mutex] at held
  | torn _ _ _ late => exact absurd mutex (late caller).2
  | deleted born _ exited held outer =>
      obtain rfl : caller = _ := by simpa [mutex] using held
      have stopping : s.hangup ≠ .closing → caller = .stop := by
        intro inside
        cases caller with
        | stop => rfl
        | nested => exact absurd rfl outer
        | hangup => exact absurd (inv.hanging _ mutex) inside
      refine inv.torn born rfl exited ?_ rfl (by decide) (by decide) ?_ rfl
      · cases inv.frame with
        | away away _ => exact .away away (by simp [holding])
        | looking looks _ inside _ =>
            refine .looking looks (by simp [holding]) inside
              (.inr (.inr (.inl ?_)))
            rw [stopping inside]
            rfl
        | missed _ _ kept => simp [mutex] at kept
        | listening _ taken => simp [mutex] at taken
      · rintro rfl
        exact inv.hanging _ mutex

theorem closing_kept (inv : Inv config s)
    (mutex : s.mutex = some (.cleanup caller .closing)) (resampler : Bool) :
    Inv config
      (holding caller .removing { s with resampler := resampler }) := by
  have born := inv.life.born (by simp [mutex])
  obtain ⟨gone, exited⟩ := inv.pointing mutex (by decide) (by decide)
    (by decide) (by decide)
  refine inv.torn born gone exited ?_ rfl (by decide) (by decide) ?_ rfl
  · cases inv.frame with
    | away away _ => exact .away away (by simp [holding])
    | looking looks _ inside kept =>
        have stop : caller = .stop := by simpa [gone, mutex] using kept
        refine .looking looks (by simp [holding]) inside (.inr (.inr (.inr ?_)))
        rw [stop]
        rfl
    | missed missed inside kept =>
        have stop : caller = .stop := by simpa [mutex] using kept
        refine .missed missed inside (.inr ?_)
        rw [stop]
        rfl
    | listening _ taken => simp [mutex] at taken
  · rintro rfl
    exact inv.hanging _ mutex

theorem removing_kept (inv : Inv config s)
    (mutex : s.mutex = some (.cleanup caller .removing))
    (step : stepCleanup config s caller .removing = some (s', events)) :
    Kept config s' events := by
  have born := inv.life.born (by simp [mutex])
  obtain ⟨gone, exited⟩ := inv.pointing mutex (by decide) (by decide)
    (by decide) (by decide)
  have away : caller ≠ .stop → s.media = .away := by
    intro other
    exact (inv.frame.away_of_gone gone (by simp [mutex]) (by simp [mutex])
      (by simp [mutex, other])).1
  simp only [stepCleanup] at step
  split at step
  · cases step
    apply Kept.silent
    exact inv.torn born gone exited
      (.away (away (by decide)) (by simp [holding])) rfl (by decide)
      (by decide) (by simp) rfl
  · cases step
    apply Kept.silent
    exact inv.torn born gone exited
      (.away (away (by decide)) (by simp [holding])) rfl (by decide)
      (by decide) (fun _ => inv.hanging _ mutex) rfl
  · split at step
    · rename_i enabled
      split at step
      · cases step
        apply Kept.silent
        exact inv.torn born gone exited
          (.away enabled.1 (by simp [holding])) rfl (by decide)
          (by decide) (by simp) rfl
      · cases step
        apply Kept.silent
        exact inv.torn born gone exited
          (.away enabled.1 (by simp [holding])) rfl (by decide)
          (by decide) (by simp) rfl
    · cases step

theorem Inv.unlock (inv : Inv config s)
    (mutex : s.mutex = some (.cleanup caller .unlocking))
    (born' : s'.start ≠ .fresh) (same : Same s s')
    (media : s'.media = s.media)
    (hangup : s'.hangup = .closing → s.hangup = .closing)
    (free : s'.mutex = none) (timers : s'.timers = s.timers) :
    Inv config s' := by
  constructor
  · cases inv.life with
    | unborn _ _ _ _ _ _ free => simp [mutex] at free
    | intact _ _ _ _ _ _ _ early =>
        exact inv.life.pass same early (early_of_none free)
    | joining _ _ _ held => simp [mutex] at held
    | deleted _ _ _ held => simp [mutex] at held
    | torn _ gone reader =>
        apply Life.torn born' (same.streamer.trans gone)
          (same.reader.trans reader)
        simp [free]
  · cases inv.frame with
    | away away _ => exact .away (media.trans away) (by simp [free])
    | looking looks _ inside kept =>
        apply Frame.looking _ (by simp [free])
        · exact fun closing => inside (hangup closing)
        · left
          rw [same.streamer, same.alive]
          simpa [mutex] using kept
        · rw [media]
          exact looks
    | missed _ _ kept => simp [mutex] at kept
    | listening _ taken => simp [mutex] at taken
  · simp [free]
  · rintro (held | waiting)
    · simp [free] at held
    · rw [timers] at waiting
      exact inv.nuance (.inr waiting)

theorem unlocking_kept (inv : Inv config s)
    (mutex : s.mutex = some (.cleanup caller .unlocking))
    (step : stepCleanup config s caller .unlocking = some (s', events)) :
    Kept config s' events := by
  have born := inv.life.born (by simp [mutex])
  cases caller with
  | stop =>
      cases step
      apply Kept.silent
      exact inv.unlock mutex born ⟨born, born, rfl, rfl, rfl, rfl, rfl, rfl,
        rfl⟩ rfl id rfl rfl
  | hangup =>
      cases step
      apply Kept.silent
      exact inv.unlock mutex born ⟨born, born, rfl, rfl, rfl, rfl, rfl, rfl,
        rfl⟩ rfl (by simp) rfl rfl
  | nested =>
      cases step
      apply Kept.silent
      cases inv.life with
      | unborn _ _ _ _ _ _ free => simp [mutex] at free
      | intact _ _ _ _ _ _ _ early =>
          exact absurd rfl (early _ _ mutex).1
      | joining _ _ _ held => simp [mutex] at held
      | deleted _ _ _ held => simp [mutex] at held
      | torn _ gone reader =>
          obtain ⟨away, _⟩ := inv.frame.away_of_gone gone (by simp [mutex])
            (by simp [mutex]) (by simp [mutex])
          exact inv.torn born gone reader (.away away (by simp [holding])) rfl
            (by decide) (by decide) (by simp) rfl

theorem cleanup_kept {stage : Stage} (inv : Inv config s)
    (stream : Stream config s)
    (mutex : s.mutex = some (.cleanup caller stage))
    (step : stepCleanup config s caller stage = some (s', events)) :
    Kept config s' events := by
  cases stage with
  | locked => exact locked_kept inv stream mutex step
  | joining =>
      simp only [stepCleanup] at step
      split at step
      · rename_i exited
        cases step
        exact joining_kept inv mutex exited
      · cases step
  | deleted =>
      cases step
      exact .silent (deleted_kept inv mutex)
  | closing =>
      simp only [stepCleanup] at step
      split at step
      · rename_i resamples
        cases step
        refine ⟨closing_kept inv mutex false, fun event member => ?_⟩
        obtain rfl := List.mem_singleton.mp member
        cases s.resampler with
        | true => exact .inl rfl
        | false => exact .inr (.inr (.inl ⟨rfl, resamples⟩))
      · cases step
        exact .silent (closing_kept inv mutex s.resampler)
  | removing => exact removing_kept inv mutex step
  | unlocking => exact unlocking_kept inv mutex step

end Cleanup

theorem hang_kept (inv : Inv config s) (before : s.hangup = .before)
    (away : s.media = .away) :
    Inv config
      { s with hangup := if s.attached then .closing else .returned } := by
  constructor
  · cases inv.life with
    | unborn start gone detached unnamed stops timers free reader unclosed _ =>
        exact .unborn start gone detached unnamed stops timers free reader
          unclosed (by simp [detached])
    | intact born | joining born | deleted born | torn born =>
        exact inv.life.keep ⟨born, born, rfl, rfl, rfl, rfl, rfl, rfl, rfl⟩ rfl
  · exact .away away (inv.frame.free_of_away away)
  · intro stage held
    have closing := inv.hanging stage held
    simp [before] at closing
  · exact inv.nuance

theorem teardown_kept {act : Act} (inv : Inv config s)
    (stream : Stream config s)
    (step : stepTeardown config s act = some (s', events)) :
    Kept config s' events := by
  have nuance : 0 < s.timers → config.module = .nuance :=
    fun waiting => inv.nuance (.inr waiting)
  cases act with
  | lookStop =>
      simp only [stepTeardown] at step
      split at step
      · rename_i mine
        have born := inv.life.born (.inr (.inl mine))
        cases step
        exact .silent (inv.aside ⟨born, born, rfl, rfl, rfl, rfl, rfl, rfl,
          rfl⟩ rfl rfl rfl nuance)
      · cases step
  | lockStop =>
      simp only [stepTeardown] at step
      split at step
      · rename_i enabled
        have born := inv.life.born (.inr (.inr (.inl enabled.1)))
        cases step
        apply Kept.silent
        refine inv.pass ⟨born, born, rfl, rfl, rfl, rfl, rfl, rfl, rfl⟩ rfl id
          (early_of_none enabled.2) ?_ (by simp [enabled.2]) (by simp [holding])
          (by simp [holding]) ?_
        · intro caller stage held
          cases held
          exact ⟨by decide, .inl rfl⟩
        · rintro (held | waiting)
          · cases held
          · exact nuance waiting
      · cases step
  | hang =>
      simp only [stepTeardown] at step
      split at step
      · rename_i enabled
        cases step
        exact .silent (hang_kept inv enabled.1 enabled.2)
      · cases step
  | lockHangup =>
      simp only [stepTeardown] at step
      split at step
      · rename_i enabled
        have born := inv.life.born (by simp [enabled.1])
        cases step
        apply Kept.silent
        refine inv.pass ⟨born, born, rfl, rfl, rfl, rfl, rfl, rfl, rfl⟩ rfl id
          (early_of_none enabled.2) ?_ (by simp [enabled.2]) (by simp [holding])
          (fun _ _ => enabled.1) ?_
        · intro caller stage held
          cases held
          exact ⟨by decide, .inl rfl⟩
        · rintro (held | waiting)
          · cases held
          · exact nuance waiting
      · cases step
  | cleanup =>
      simp only [stepTeardown] at step
      split at step
      · rename_i caller stage mutex
        exact cleanup_kept inv stream mutex step
      · cases step
  | _ => cases step

theorem step_kept {act : Act} (inv : Inv config s) (stream : Stream config s)
    (step : step config s act = some (s', events)) : Kept config s' events := by
  cases act with
  | init | add | publish | rename =>
      simp only [StreamerLife.step] at step
      exact start_kept inv step
  | enter | copy | tryLock | hear | configure | leave =>
      simp only [StreamerLife.step] at step
      exact media_kept inv stream step
  | read | finish =>
      simp only [StreamerLife.step] at step
      exact reader_kept inv stream step
  | lookStop | lockStop | hang | lockHangup | cleanup =>
      simp only [StreamerLife.step] at step
      exact teardown_kept inv stream step
  | lookTimers | lockTimers | startTimers =>
      simp only [StreamerLife.step] at step
      exact timers_kept inv stream step

theorem stream_fresh (config : Config) : Stream config .fresh := by
  constructor <;> simp [State.fresh]

/-- What holds of every run. -/
theorem run_kept {guard : State → Act → Bool} {labels : List Act}
    {trace : List Event} {final : State}
    (run : (machine config).Run guard (machine config).initial labels trace
      final) : Kept config final trace ∧ Stream config final := by
  refine run.induct
    (fun trace s => Kept config s trace ∧ Stream config s) ?_ ?_
  · exact ⟨.silent (inv_fresh config), stream_fresh config⟩
  · rintro trace s act s' events ⟨kept, stream⟩ _ taken
    obtain ⟨inv, allowed⟩ := step_kept kept.inv stream taken
    refine ⟨⟨inv, fun event member => ?_⟩, stream_step stream taken⟩
    rcases List.mem_append.mp member with earlier | now
    · exact kept.allowed event earlier
    · exact allowed event now

end Invariant

section Unsound

variable {config : Config}

/-- The timers are started before the VAD has heard anything. -/
def timersFirst : List Act :=
  [.init, .add true, .publish, .lookTimers, .lockTimers, .startTimers]

/-- Audio comes, and a stop, when the server has closed the stream and
mod_cobalt_transcribe has finished it. -/
def finishesFirst (vad : Bool) : List Act :=
  [.init, .add true, .publish, .enter, .copy, .tryLock, .hear true] ++
    (if vad then [.configure] else []) ++
    [.read true, .read false, .finish true, .hear true, .leave, .lookStop,
      .lockStop, .cleanup]

theorem timersFirst_runs (resamples : Bool) :
    ∃ trace final,
      (machine ⟨.nuance, true, resamples⟩).Run commandsApart
        (machine ⟨.nuance, true, resamples⟩).initial timersFirst trace final ∧
      Event.write false true true ∈ trace := by
  have executed : ((machine ⟨.nuance, true, resamples⟩).exec commandsApart
      (machine ⟨.nuance, true, resamples⟩).initial timersFirst).map
        (fun outcome => decide (Event.write false true true ∈ outcome.2)) =
      some true :=
    rfl
  obtain ⟨final, trace, run, member⟩ := Machine.exists_run_of_exec _ executed
  exact ⟨trace, final, run, of_decide_eq_true member⟩

theorem finishesFirst_runs (vad resamples : Bool) :
    ∃ trace final,
      (machine ⟨.cobalt, vad, resamples⟩).Run commandsApart
        (machine ⟨.cobalt, vad, resamples⟩).initial (finishesFirst vad) trace
        final ∧
      Event.write true true false ∈ trace ∧
      Event.writesDone true false ∈ trace := by
  have executed : ((machine ⟨.cobalt, vad, resamples⟩).exec commandsApart
      (machine ⟨.cobalt, vad, resamples⟩).initial (finishesFirst vad)).map
        (fun outcome => decide (Event.write true true false ∈ outcome.2 ∧
          Event.writesDone true false ∈ outcome.2)) =
      some true := by
    cases vad with
    | true =>
        cases resamples with
        | true => rfl
        | false => rfl
    | false =>
        cases resamples with
        | true => rfl
        | false => rfl
  obtain ⟨final, trace, run, members⟩ := Machine.exists_run_of_exec _ executed
  exact ⟨trace, final, run, of_decide_eq_true members⟩

end Unsound

end DrachtioModules.Transcribe.StreamerLife

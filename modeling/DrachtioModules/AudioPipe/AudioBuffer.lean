import DrachtioModules.Machine
import Mathlib.Algebra.Order.Group.Nat
import Mathlib.Tactic.Common

/-!
# The audio buffer of an AudioPipe

`fork_frame` of mod_audio_fork and `dg_transcribe_frame` of
mod_deepgram_transcribe put what the media bug delivers into
`m_audio_buffer`, directly or through a resampler, and WRITEABLE takes it out.
The two functions are the same but for what they report, and so is the way
`fork_data_init` sizes the buffer.

A frame callback holds `m_audio_mutex` from its first look at the buffer to its
last.  Offsets count from the start of the allocation, of which the first
`LWS_PRE` bytes belong to lws.
-/

namespace DrachtioModules.AudioPipe

/-- `LWS_PRE`, what the constructor of the pipe keeps of its arguments, and
`channels` and `resampler` of the session. -/
structure AudioConfig where
  lwsPre : Nat
  maxLen : Nat
  minFreespace : Nat
  channels : Nat
  resampler : Bool
  deriving DecidableEq, Repr

/-- `nAudioBufferSecs` from what `atoi` makes of MOD_AUDIO_FORK_BUFFER_SECS. -/
def audioBufferSecs (requested : Option Int) : Nat :=
  (max 1 (min (requested.getD 2) 5)).toNat

def forkDataInit (lwsPre sampling desiredSampling channels audioBufferSecs
    decodedBytesPerPacket : Nat) : AudioConfig :=
  { lwsPre := lwsPre
    maxLen := lwsPre + 320 * desiredSampling / 8000 * channels * 1000 / 20 *
      audioBufferSecs
    minFreespace := decodedBytesPerPacket
    channels := channels
    resampler := desiredSampling != sampling }

/-- What a session is started with; `switch_core_media_bug_read` never hands out
more than 8192 bytes for a channel. -/
structure CaptureParams where
  lwsPre : Nat
  sampling : Nat
  stereo : Bool
  requestedBufferSecs : Option Int
  decodedBytesPerPacket : Nat
  packet : decodedBytesPerPacket ≤ 8192

def CaptureParams.channels (params : CaptureParams) : Nat :=
  if params.stereo then 2 else 1

/-- `MEDIA_BUG_FRAME_BUF_SIZE` -/
def mediaBugFrameBufSize : Nat := 2 * 8192

/-- `frame.data`, as an offset into the buffer, and `frame.buflen`. -/
structure ReadFrame where
  data : Nat
  buflen : Nat
  deriving DecidableEq, Repr

/-- Where the frame callback stands: before the test for an overrun and before
the read, without a resampler; before the read, the resampling and the test,
with one. -/
inductive Stage where
  | idle
  | native (frame : ReadFrame) (available : Nat)
  | reading (frame : ReadFrame) (available : Nat)
  | filling (available : Nat)
  | resampling (available : Nat)
  | checking (available : Nat)
  | unlocking
  deriving DecidableEq, Repr

structure AudioState where
  writeOffset : Nat
  overrunNotified : Bool
  stage : Stage
  deriving DecidableEq, Repr

/-- What a successful `switch_core_media_bug_read` wrote and reported. -/
structure BugRead where
  written : Nat
  datalen : Nat
  deriving DecidableEq, Repr

/-- One step: a frame callback on a connected pipe begins, goes on by itself,
reads from the media bug, calls the resampler; WRITEABLE. -/
inductive AudioAct where
  | frame
  | media
  | read (outcome : Option BugRead)
  | resample (outLen : Nat)
  | writeable
  deriving DecidableEq, Repr

/-- `wrote` is into `m_audio_buffer`, `filled` into the callback's `data`. -/
inductive AudioEvent where
  | wrote (offset length : Nat)
  | filled (length : Nat)
  | overrun
  | sent (length : Nat)
  deriving DecidableEq, Repr

def binarySpaceAvailable (config : AudioConfig) (writeOffset : Nat) : Nat :=
  config.maxLen - writeOffset

/-- The first overrun of a session is reported. -/
def reportOverrun (s : AudioState) : List AudioEvent :=
  if s.overrunNotified then [] else [.overrun]

def stepFrame (config : AudioConfig) (s : AudioState) :
    Option (AudioState × List AudioEvent) :=
  match s.stage with
  | .idle =>
      let available := binarySpaceAvailable config s.writeOffset
      if config.resampler then some ({ s with stage := .filling available }, [])
      else
        some ({ s with
          stage := .native ⟨s.writeOffset, available⟩ available }, [])
  | _ => none

def stepMedia (config : AudioConfig) (s : AudioState) :
    Option (AudioState × List AudioEvent) :=
  match s.stage with
  | .native frame available =>
      if available < config.minFreespace * config.channels then
        let available := binarySpaceAvailable config config.lwsPre
        some ({ s with
          writeOffset := config.lwsPre
          overrunNotified := true
          stage := .reading ⟨config.lwsPre, available⟩ available },
          reportOverrun s)
      else some ({ s with stage := .reading frame available }, [])
  | .checking available =>
      if available < config.minFreespace then
        some ({ s with overrunNotified := true, stage := .unlocking },
          reportOverrun s)
      else some ({ s with stage := .filling available }, [])
  | .unlocking => some ({ s with stage := .idle }, [])
  | _ => none

def stepRead (config : AudioConfig) (s : AudioState)
    (outcome : Option BugRead) : Option (AudioState × List AudioEvent) :=
  match s.stage, outcome with
  | .reading _ _, none | .filling _, none =>
      some ({ s with stage := .unlocking }, [])
  | .reading frame available, some read =>
      if read.datalen ≠ 0 then
        let writeOffset := s.writeOffset + read.datalen
        let available := binarySpaceAvailable config writeOffset
        some ({ s with
          writeOffset := writeOffset
          stage := .native ⟨writeOffset, available⟩ available },
          [.wrote frame.data read.written])
      else
        some ({ s with stage := .native frame available },
          [.wrote frame.data read.written])
  | .filling available, some read =>
      if read.datalen ≠ 0 then
        some ({ s with stage := .resampling available }, [.filled read.written])
      else some (s, [.filled read.written])
  | _, _ => none

/-- The resampler writes `outLen` samples for each channel. -/
def stepResample (config : AudioConfig) (s : AudioState) (outLen : Nat) :
    Option (AudioState × List AudioEvent) :=
  match s.stage with
  | .resampling available =>
      let bytesWritten := outLen * 2 * config.channels
      if 0 < outLen then
        let writeOffset := s.writeOffset + bytesWritten
        some ({ s with
          writeOffset := writeOffset
          stage := .checking (binarySpaceAvailable config writeOffset) },
          [.wrote s.writeOffset bytesWritten])
      else some ({ s with stage := .checking available }, [])
  | _ => none

/-- The part of WRITEABLE under `m_audio_mutex`. -/
def stepWriteable (config : AudioConfig) (s : AudioState) :
    Option (AudioState × List AudioEvent) :=
  match s.stage with
  | .idle =>
      if config.lwsPre < s.writeOffset then
        some ({ s with writeOffset := config.lwsPre },
          [.sent (s.writeOffset - config.lwsPre)])
      else some (s, [])
  | _ => none

def audioStep (config : AudioConfig) (s : AudioState) :
    AudioAct → Option (AudioState × List AudioEvent)
  | .frame => stepFrame config s
  | .media => stepMedia config s
  | .read outcome => stepRead config s outcome
  | .resample outLen => stepResample config s outLen
  | .writeable => stepWriteable config s

def audioMachine (config : AudioConfig) :
    Machine AudioState AudioAct AudioEvent :=
  { initial :=
      { writeOffset := config.lwsPre
        overrunNotified := false
        stage := .idle }
    step := audioStep config }

/-- A read into a buffer of `buflen` bytes. -/
def BugRead.allowed (config : AudioConfig) (buflen : Nat) (read : BugRead) :
    Bool :=
  config.minFreespace ≤ buflen &&
    read.written ≤ config.minFreespace * config.channels &&
    read.datalen ≤ read.written && read.datalen % (2 * config.channels) == 0

def contract (config : AudioConfig) (s : AudioState) : AudioAct → Bool
  | .read (some read) =>
      match s.stage with
      | .reading frame _ => read.allowed config frame.buflen
      | .filling _ => read.allowed config mediaBugFrameBufSize
      | _ => true
  | .resample outLen =>
      match s.stage with
      -- the `out_len` passed to speex
      | .resampling available => outLen ≤ available / (2 * config.channels)
      | _ => true
  | _ => true

/-- What the sizing of the buffer rests on: it has room for one packet, and so
has `data`. -/
structure Roomy (config : AudioConfig) : Prop where
  packet : config.lwsPre + config.minFreespace * config.channels ≤ config.maxLen
  frame : config.minFreespace * config.channels ≤ mediaBugFrameBufSize

def AudioEvent.inside (config : AudioConfig) : AudioEvent → Prop
  | .wrote offset length =>
      config.lwsPre ≤ offset ∧ offset + length ≤ config.maxLen
  | .filled length => length ≤ mediaBugFrameBufSize
  | .overrun | .sent _ => True

/-- What the callback knows of the buffer at each stage. -/
def Stage.agrees (config : AudioConfig) (writeOffset : Nat) : Stage → Prop
  | .idle | .unlocking => True
  | .native frame available =>
      frame = ⟨writeOffset, available⟩ ∧
        available = binarySpaceAvailable config writeOffset
  | .reading frame available =>
      frame = ⟨writeOffset, available⟩ ∧
        available = binarySpaceAvailable config writeOffset ∧
        config.minFreespace * config.channels ≤ available
  | .filling available | .resampling available | .checking available =>
      available = binarySpaceAvailable config writeOffset

structure Bounded (config : AudioConfig) (trace : List AudioEvent)
    (s : AudioState) : Prop where
  lower : config.lwsPre ≤ s.writeOffset
  upper : s.writeOffset ≤ config.maxLen
  aligned : 2 * config.channels ∣ s.writeOffset - config.lwsPre
  inside : ∀ event ∈ trace, event.inside config
  agrees : s.stage.agrees config s.writeOffset

section Bounded

variable {config : AudioConfig} {trace : List AudioEvent} {s s' : AudioState}

theorem bounded_initial (roomy : Roomy config) :
    Bounded config [] (audioMachine config).initial := by
  constructor
  · exact le_rfl
  · exact (Nat.le_add_right _ _).trans roomy.packet
  · simp [audioMachine]
  · simp
  · trivial

theorem Bounded.moved (bounded : Bounded config trace s)
    {events : List AudioEvent} (same : s'.writeOffset = s.writeOffset)
    (quiet : ∀ event ∈ events, event.inside config)
    (agrees : s'.stage.agrees config s.writeOffset) :
    Bounded config (trace ++ events) s' := by
  constructor
  · rw [same]
    exact bounded.lower
  · rw [same]
    exact bounded.upper
  · rw [same]
    exact bounded.aligned
  · intro event member
    rcases List.mem_append.mp member with earlier | later
    · exact bounded.inside event earlier
    · exact quiet event later
  · rw [same]
    exact agrees

theorem Bounded.reset (roomy : Roomy config) (bounded : Bounded config trace s)
    {events : List AudioEvent} (start : s'.writeOffset = config.lwsPre)
    (quiet : ∀ event ∈ events, event.inside config)
    (agrees : s'.stage.agrees config config.lwsPre) :
    Bounded config (trace ++ events) s' := by
  constructor
  · rw [start]
  · rw [start]
    exact (Nat.le_add_right _ _).trans roomy.packet
  · rw [start, Nat.sub_self]
    exact Nat.dvd_zero _
  · intro event member
    rcases List.mem_append.mp member with earlier | later
    · exact bounded.inside event earlier
    · exact quiet event later
  · rw [start]
    exact agrees

theorem Bounded.wrote (bounded : Bounded config trace s) {length written : Nat}
    (moved : s'.writeOffset = s.writeOffset + length)
    (whole : 2 * config.channels ∣ length) (short : length ≤ written)
    (room : s.writeOffset + written ≤ config.maxLen)
    (agrees : s'.stage.agrees config (s.writeOffset + length)) :
    Bounded config (trace ++ [.wrote s.writeOffset written]) s' := by
  have lower := bounded.lower
  constructor
  · rw [moved]
    omega
  · rw [moved]
    omega
  · rw [moved, Nat.sub_add_comm lower]
    exact Nat.dvd_add bounded.aligned whole
  · intro event member
    rcases List.mem_append.mp member with earlier | later
    · exact bounded.inside event earlier
    · obtain rfl := List.mem_singleton.mp later
      exact ⟨lower, room⟩
  · rw [moved]
    exact agrees

theorem inside_reportOverrun (s : AudioState) :
    ∀ event ∈ reportOverrun s, event.inside config := by
  intro event member
  unfold reportOverrun at member
  split at member
  · cases member
  · obtain rfl := List.mem_singleton.mp member
    trivial

theorem BugRead.allowed_iff {buflen : Nat} {read : BugRead} :
    read.allowed config buflen = true ↔
      config.minFreespace ≤ buflen ∧
        read.written ≤ config.minFreespace * config.channels ∧
        read.datalen ≤ read.written ∧
        2 * config.channels ∣ read.datalen := by
  simp [BugRead.allowed, Nat.dvd_iff_mod_eq_zero, and_assoc]

theorem Bounded.media (roomy : Roomy config) (bounded : Bounded config trace s)
    {events : List AudioEvent}
    (step : stepMedia config s = some (s', events)) :
    Bounded config (trace ++ events) s' := by
  have agrees := bounded.agrees
  unfold stepMedia at step
  cases here : s.stage with
  | native frame available =>
      rw [here] at step agrees
      obtain ⟨rfl, rfl⟩ := agrees
      dsimp only at step
      split at step
      · cases step
        apply bounded.reset roomy rfl (inside_reportOverrun s)
        refine ⟨rfl, rfl, ?_⟩
        have packet := roomy.packet
        unfold binarySpaceAvailable
        omega
      · rename_i enough
        cases step
        exact bounded.moved rfl (by simp)
          ⟨rfl, rfl, Nat.le_of_not_lt enough⟩
  | checking available =>
      rw [here] at step agrees
      dsimp only at step
      split at step
      · cases step
        exact bounded.moved rfl (inside_reportOverrun s) trivial
      · cases step
        exact bounded.moved rfl (by simp) agrees
  | unlocking =>
      rw [here] at step
      cases step
      exact bounded.moved rfl (by simp) trivial
  | idle | reading | filling | resampling =>
      rw [here] at step
      cases step

theorem Bounded.read (roomy : Roomy config) (bounded : Bounded config trace s)
    {outcome : Option BugRead} {events : List AudioEvent}
    (promised : contract config s (.read outcome) = true)
    (step : stepRead config s outcome = some (s', events)) :
    Bounded config (trace ++ events) s' := by
  have agrees := bounded.agrees
  unfold stepRead at step
  unfold contract at promised
  cases here : s.stage with
  | reading frame available =>
      rw [here] at step agrees promised
      obtain ⟨rfl, rfl, enough⟩ := agrees
      cases outcome with
      | none =>
          cases step
          exact bounded.moved rfl (by simp) trivial
      | some read =>
          obtain ⟨_, written, short, whole⟩ := BugRead.allowed_iff.mp promised
          have upper := bounded.upper
          unfold binarySpaceAvailable at enough
          have room : s.writeOffset + read.written ≤ config.maxLen := by omega
          dsimp only at step
          split at step
          · cases step
            exact bounded.wrote rfl whole short room ⟨rfl, rfl⟩
          · cases step
            exact bounded.wrote (Nat.add_zero _).symm (Nat.dvd_zero _)
              (Nat.zero_le _) room ⟨rfl, rfl⟩
  | filling available =>
      rw [here] at step agrees promised
      cases outcome with
      | none =>
          cases step
          exact bounded.moved rfl (by simp) trivial
      | some read =>
          obtain ⟨_, written, _, _⟩ := BugRead.allowed_iff.mp promised
          have filled : ∀ event ∈ [AudioEvent.filled read.written],
              event.inside config := by
            intro event member
            obtain rfl := List.mem_singleton.mp member
            exact written.trans roomy.frame
          dsimp only at step
          split at step
          · cases step
            exact bounded.moved rfl filled agrees
          · cases step
            exact bounded.moved rfl filled (by rw [here]; exact agrees)
  | idle | native | resampling | checking | unlocking =>
      rw [here] at step
      cases outcome <;> cases step

theorem Bounded.resample (bounded : Bounded config trace s) {outLen : Nat}
    {events : List AudioEvent}
    (promised : contract config s (.resample outLen) = true)
    (step : stepResample config s outLen = some (s', events)) :
    Bounded config (trace ++ events) s' := by
  have agrees := bounded.agrees
  unfold stepResample at step
  unfold contract at promised
  cases here : s.stage with
  | resampling available =>
      rw [here] at step agrees promised
      obtain rfl := agrees
      have few : outLen ≤ binarySpaceAvailable config s.writeOffset /
          (2 * config.channels) := of_decide_eq_true promised
      dsimp only at step
      split at step
      · cases step
        have bytes : outLen * 2 * config.channels ≤
            binarySpaceAvailable config s.writeOffset := by
          rw [Nat.mul_assoc]
          exact (Nat.mul_le_mul_right _ few).trans (Nat.div_mul_le_self _ _)
        have upper := bounded.upper
        unfold binarySpaceAvailable at bytes
        refine bounded.wrote rfl ?_ le_rfl ?_ rfl
        · rw [Nat.mul_assoc]
          exact Nat.dvd_mul_left _ _
        · omega
      · cases step
        exact bounded.moved rfl (by simp) rfl
  | idle | native | reading | filling | checking | unlocking =>
      rw [here] at step
      cases step

theorem Bounded.step (roomy : Roomy config) (bounded : Bounded config trace s)
    {label : AudioAct} {events : List AudioEvent}
    (promised : contract config s label = true)
    (step : (audioMachine config).step s label = some (s', events)) :
    Bounded config (trace ++ events) s' := by
  cases label with
  | frame =>
      simp only [audioMachine, audioStep, stepFrame] at step
      split at step
      · split at step <;> cases step
        · exact bounded.moved rfl (by simp) rfl
        · exact bounded.moved rfl (by simp) ⟨rfl, rfl⟩
      · cases step
  | media => exact bounded.media roomy step
  | read outcome => exact bounded.read roomy promised step
  | resample outLen => exact bounded.resample promised step
  | writeable =>
      simp only [audioMachine, audioStep, stepWriteable] at step
      split at step
      · rename_i idle
        split at step <;> cases step
        · apply bounded.reset roomy rfl
          · intro event member
            obtain rfl := List.mem_singleton.mp member
            trivial
          · rw [idle]
            trivial
        · exact bounded.moved rfl (by simp) bounded.agrees
      · cases step

theorem bounded_of_run (roomy : Roomy config) {labels : List AudioAct}
    (run : (audioMachine config).Run (contract config)
      (audioMachine config).initial labels trace s) : Bounded config trace s :=
  run.induct (Bounded config) (bounded_initial roomy)
    fun bounded promised step => bounded.step roomy promised step

end Bounded

/-- One second and more of 20 ms frames has room for a packet. -/
theorem roomy_forkDataInit (lwsPre sampling : Nat)
    {desiredSampling channels decodedBytesPerPacket : Nat}
    (requested : Option Int) (rate : 8000 ≤ desiredSampling)
    (channelled : channels ≤ 2) (packet : decodedBytesPerPacket ≤ 8192) :
    Roomy (forkDataInit lwsPre sampling desiredSampling channels
      (audioBufferSecs requested) decodedBytesPerPacket) := by
  constructor
  · have second : 1 ≤ audioBufferSecs requested := by
      unfold audioBufferSecs
      omega
    have frame : 320 ≤ 320 * desiredSampling / 8000 := by omega
    apply Nat.add_le_add_left
    show decodedBytesPerPacket * channels ≤ _
    calc decodedBytesPerPacket * channels
        ≤ 8192 * channels := Nat.mul_le_mul_right _ packet
      _ ≤ 320 * channels * 1000 / 20 := by omega
      _ ≤ 320 * desiredSampling / 8000 * channels * 1000 / 20 := by gcongr
      _ ≤ 320 * desiredSampling / 8000 * channels * 1000 / 20 *
            audioBufferSecs requested := Nat.le_mul_of_pos_right _ second
  · show decodedBytesPerPacket * channels ≤ 2 * 8192
    calc decodedBytesPerPacket * channels
        ≤ 8192 * 2 := Nat.mul_le_mul packet channelled
      _ = 2 * 8192 := rfl

end DrachtioModules.AudioPipe

namespace DrachtioModules.AudioFork

/-- `fork_function` has checked the rate. -/
structure CaptureParams extends AudioPipe.CaptureParams where
  desiredSampling : Nat
  rate : 0 < desiredSampling ∧ desiredSampling ≤ 48000 ∧
    desiredSampling % 8000 = 0

def CaptureParams.audioConfig (params : CaptureParams) :
    AudioPipe.AudioConfig :=
  AudioPipe.forkDataInit params.lwsPre params.sampling params.desiredSampling
    params.channels (AudioPipe.audioBufferSecs params.requestedBufferSecs)
    params.decodedBytesPerPacket

/-- `fork_frame` with WRITEABLE. -/
def forkFrameMachine (params : CaptureParams) :
    Machine AudioPipe.AudioState AudioPipe.AudioAct AudioPipe.AudioEvent :=
  AudioPipe.audioMachine params.audioConfig

end DrachtioModules.AudioFork

namespace DrachtioModules.Deepgram

abbrev CaptureParams := AudioPipe.CaptureParams

/-- `dg_transcribe_session_init` always asks for 8000. -/
def CaptureParams.audioConfig (params : CaptureParams) :
    AudioPipe.AudioConfig :=
  AudioPipe.forkDataInit params.lwsPre params.sampling 8000 params.channels
    (AudioPipe.audioBufferSecs params.requestedBufferSecs)
    params.decodedBytesPerPacket

/-- `dg_transcribe_frame` with WRITEABLE. -/
def dgTranscribeFrameMachine (params : CaptureParams) :
    Machine AudioPipe.AudioState AudioPipe.AudioAct AudioPipe.AudioEvent :=
  AudioPipe.audioMachine params.audioConfig

end DrachtioModules.Deepgram

namespace DrachtioModules.AudioPipe

/-- `LWS_PRE` and the end of the buffer bound the write offset and everything
that is written, and what is buffered is made of whole sample frames. -/
structure WithinBuffer (config : AudioConfig) (trace : List AudioEvent)
    (s : AudioState) : Prop where
  lower : config.lwsPre ≤ s.writeOffset
  upper : s.writeOffset ≤ config.maxLen
  inside : ∀ event ∈ trace, event.inside config
  aligned : 2 * config.channels ∣ s.writeOffset - config.lwsPre

theorem Bounded.withinBuffer {config : AudioConfig} {trace : List AudioEvent}
    {s : AudioState} (bounded : Bounded config trace s) :
    WithinBuffer config trace s :=
  ⟨bounded.lower, bounded.upper, bounded.inside, bounded.aligned⟩

theorem CaptureParams.channels_cases (params : CaptureParams) :
    params.channels = 1 ∨ params.channels = 2 := by
  unfold CaptureParams.channels
  split
  · exact .inr rfl
  · exact .inl rfl

theorem CaptureParams.channels_le_two (params : CaptureParams) :
    params.channels ≤ 2 := by
  rcases params.channels_cases with mono | stereo
  · rw [mono]
    decide
  · rw [stereo]

/-- In both modules, for every buffer `fork_data_init` creates and every run in
which the media bug and the resampler keep their promises. -/
theorem within_buffer :
    (∀ (params : AudioFork.CaptureParams) (labels : List AudioAct)
      (trace : List AudioEvent) (s : AudioState),
      (AudioFork.forkFrameMachine params).Run (contract params.audioConfig)
        (AudioFork.forkFrameMachine params).initial labels trace s →
      WithinBuffer params.audioConfig trace s) ∧
    ∀ (params : Deepgram.CaptureParams) (labels : List AudioAct)
      (trace : List AudioEvent) (s : AudioState),
      (Deepgram.dgTranscribeFrameMachine params).Run
        (contract params.audioConfig)
        (Deepgram.dgTranscribeFrameMachine params).initial labels trace s →
      WithinBuffer params.audioConfig trace s := by
  constructor
  · intro params labels trace s run
    have rate := params.rate
    have roomy := roomy_forkDataInit params.lwsPre params.sampling
      params.requestedBufferSecs (by omega : 8000 ≤ params.desiredSampling)
      params.channels_le_two params.packet
    exact (bounded_of_run roomy run).withinBuffer
  · intro params labels trace s run
    have roomy := roomy_forkDataInit params.lwsPre params.sampling
      params.requestedBufferSecs (le_refl 8000) params.channels_le_two
      params.packet
    exact (bounded_of_run roomy run).withinBuffer

/-- A stereo buffer of one second that overruns at the second packet, and one
filled through a resampler. -/
theorem within_buffer_of_overrun :
    (∃ params : AudioFork.CaptureParams, ∃ labels trace s,
      (AudioFork.forkFrameMachine params).Run (contract params.audioConfig)
          (AudioFork.forkFrameMachine params).initial labels trace s ∧
        AudioEvent.overrun ∈ trace ∧
        WithinBuffer params.audioConfig trace s) ∧
    ∃ params : Deepgram.CaptureParams, ∃ labels trace s,
      (Deepgram.dgTranscribeFrameMachine params).Run
          (contract params.audioConfig)
          (Deepgram.dgTranscribeFrameMachine params).initial labels trace s ∧
        AudioEvent.sent 200 ∈ trace ∧
        WithinBuffer params.audioConfig trace s := by
  constructor
  · let params : AudioFork.CaptureParams :=
      ⟨⟨16, 8000, true, some 0, 8192, by decide⟩, 8000, by decide⟩
    let labels : List AudioAct :=
      [.frame, .media, .read (some ⟨16384, 16384⟩), .media,
        .read (some ⟨16384, 960⟩), .media, .read none, .media]
    have executed : ((AudioFork.forkFrameMachine params).exec
        (contract params.audioConfig)
        (AudioFork.forkFrameMachine params).initial labels).map
          (fun outcome => decide (AudioEvent.overrun ∈ outcome.2)) =
            some true := by
      decide
    obtain ⟨s, trace, run, reported⟩ := Machine.exists_run_of_exec _ executed
    exact ⟨params, labels, trace, s, run, of_decide_eq_true reported,
      within_buffer.1 params labels trace s run⟩
  · let params : Deepgram.CaptureParams :=
      ⟨16, 16000, false, none, 640, by decide⟩
    let labels : List AudioAct :=
      [.frame, .read (some ⟨640, 640⟩), .resample 100, .media, .read none,
        .media, .writeable]
    have executed : ((Deepgram.dgTranscribeFrameMachine params).exec
        (contract params.audioConfig)
        (Deepgram.dgTranscribeFrameMachine params).initial labels).map
          (fun outcome => decide (AudioEvent.sent 200 ∈ outcome.2)) =
            some true := by
      decide
    obtain ⟨s, trace, run, sent⟩ := Machine.exists_run_of_exec _ executed
    exact ⟨params, labels, trace, s, run, of_decide_eq_true sent,
      within_buffer.2 params labels trace s run⟩

end DrachtioModules.AudioPipe

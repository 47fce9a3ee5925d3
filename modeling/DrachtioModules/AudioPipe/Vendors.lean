import DrachtioModules.AudioFork.Base64
import DrachtioModules.AudioPipe.AudioBuffer

/-!
# The audio buffer of mod_assemblyai, mod_ibm and mod_jambonz_transcribe

Their frame functions and AudioPipes are older copies of those of
mod_audio_fork.  At an overrun they start over at offset 0, below the `LWS_PRE`
bytes that WRITEABLE does not send; they make room for one channel where the
media bug delivers two; and the room they offer the resampler is counted in
samples of all channels, where speex counts those of each.

WRITEABLE is its part under `m_audio_mutex`, which it reaches when there is no
text to send and no close under way.
-/

namespace DrachtioModules.AudioPipe.Vendors

open Percent (ascii)
open AudioFork (base64Encode base64Decode)

inductive Vendor where
  | assemblyai
  | ibm
  | jambonz
  deriving DecidableEq, Repr

/-- The rate each session is resampled to. -/
def Vendor.desiredSampling : Vendor → Nat
  | .ibm => 16000
  | .assemblyai | .jambonz => 8000

/-- `nAudioBufferSecs` from what `atoi` makes of MOD_AUDIO_FORK_BUFFER_SECS. -/
def Vendor.audioBufferSecs (vendor : Vendor) (requested : Option Int) : Nat :=
  let most := match vendor with
    | .ibm => 7
    | .assemblyai | .jambonz => 5
  (max 1 (min (requested.getD 2) most)).toNat

structure CaptureParams extends AudioPipe.CaptureParams where
  vendor : Vendor

def CaptureParams.audioConfig (params : CaptureParams) : AudioConfig :=
  forkDataInit params.lwsPre params.sampling
    params.vendor.desiredSampling params.channels
    (params.vendor.audioBufferSecs params.requestedBufferSecs)
    params.decodedBytesPerPacket

/-- `SWITCH_RECOMMENDED_BUFFER_SIZE` -/
def switchRecommendedBufferSize : Nat := 8192

inductive Message where
  | text (payload : List UInt8)
  | binary (payload : List UInt8)
  deriving DecidableEq, Repr

def opening : List UInt8 := ascii "\x7b\"audio_data\":\""

def closing : List UInt8 := ascii "\"\x7d"

/-- What WRITEABLE makes of the audio that is buffered. -/
def Vendor.message (vendor : Vendor) (audio : List UInt8) : Option Message :=
  match vendor with
  | .assemblyai =>
      if 1600 ≤ audio.length then
        some (.text (opening ++ base64Encode audio ++ closing))
      else none
  | .ibm | .jambonz => some (.binary audio)

/-- The audio in a message.  Of a text it is the string between the two quotes,
in which nothing is escaped. -/
def Message.audio : Message → Option (List UInt8)
  | .binary payload => some payload
  | .text payload =>
      if payload.take opening.length = opening then
        let body := (payload.drop opening.length).takeWhile (· ≠ 34)
        if 92 ∉ body ∧
            payload.drop (opening.length + body.length) = closing then
          some (base64Decode body)
        else none
      else none

/-- The block at `m_audio_buffer`. -/
abbrev Cells := Nat → UInt8

def store (cells : Cells) (offset : Nat) (bytes : List UInt8) : Cells :=
  fun i =>
    if offset ≤ i ∧ i < offset + bytes.length then bytes.getD (i - offset) 0
    else cells i

def slice (cells : Cells) (first last : Nat) : List UInt8 :=
  (List.range' first (last - first)).map cells

structure State extends AudioState where
  cells : Cells

/-- What a successful `switch_core_media_bug_read` put at `frame.data`, of which
`data` is counted in `frame.datalen`. -/
structure BugRead where
  data : List UInt8
  beyond : List UInt8
  deriving DecidableEq, Repr

def BugRead.counts (read : BugRead) : AudioPipe.BugRead :=
  ⟨(read.data ++ read.beyond).length, read.data.length⟩

inductive Act where
  | frame
  | media
  | read (outcome : Option BugRead)
  | resample (output : List UInt8)
  | writeable
  deriving DecidableEq, Repr

/-- `dropped` is `binaryWritePtrResetToZero()`. -/
inductive Event where
  | wrote (offset length : Nat)
  | filled (length : Nat)
  | overrun
  | dropped
  | sent (message : Message)
  deriving DecidableEq, Repr

def reportOverrun (s : State) : List Event :=
  if s.overrunNotified then [] else [.overrun]

def stepFrame (config : AudioConfig) (s : State) :
    Option (State × List Event) :=
  match s.stage with
  | .idle =>
      let available := binarySpaceAvailable config s.writeOffset
      if config.resampler then some ({ s with stage := .filling available }, [])
      else
        some ({ s with
          stage := .native ⟨s.writeOffset, available⟩ available }, [])
  | _ => none

def stepMedia (config : AudioConfig) (s : State) :
    Option (State × List Event) :=
  match s.stage with
  | .native frame available =>
      if available < config.minFreespace then
        let available := binarySpaceAvailable config 0
        some ({ s with
          writeOffset := 0
          overrunNotified := true
          stage := .reading ⟨0, available⟩ available },
          reportOverrun s ++ [.dropped])
      else some ({ s with stage := .reading frame available }, [])
  | .checking available =>
      if available < config.minFreespace then
        some ({ s with overrunNotified := true, stage := .unlocking },
          reportOverrun s)
      else some ({ s with stage := .filling available }, [])
  | .unlocking => some ({ s with stage := .idle }, [])
  | _ => none

def stepRead (config : AudioConfig) (s : State) (outcome : Option BugRead) :
    Option (State × List Event) :=
  match s.stage, outcome with
  | .reading _ _, none | .filling _, none =>
      some ({ s with stage := .unlocking }, [])
  | .reading frame available, some read =>
      let cells := store s.cells frame.data (read.data ++ read.beyond)
      let wrote := .wrote frame.data (read.data ++ read.beyond).length
      if read.data.length ≠ 0 then
        let writeOffset := s.writeOffset + read.data.length
        let available := binarySpaceAvailable config writeOffset
        some ({ s with
          cells := cells
          writeOffset := writeOffset
          stage := .native ⟨writeOffset, available⟩ available },
          [wrote])
      else
        some ({ s with cells := cells, stage := .native frame available },
          [wrote])
  | .filling available, some read =>
      let filled := .filled (read.data ++ read.beyond).length
      if read.data.length ≠ 0 then
        some ({ s with stage := .resampling available }, [filled])
      else some (s, [filled])
  | _, _ => none

/-- `bytes_written` -/
def Vendor.bytesWritten (vendor : Vendor) (outLen channels : Nat) : Nat :=
  match vendor with
  | .ibm => outLen * 2 * channels
  | .assemblyai | .jambonz => outLen <<< channels

/-- `output` is what the resampler wrote, `outLen` samples of two bytes for
each channel. -/
def stepResample (vendor : Vendor) (config : AudioConfig) (s : State)
    (output : List UInt8) : Option (State × List Event) :=
  match s.stage with
  | .resampling available =>
      let outLen := output.length / (2 * config.channels)
      if 0 < outLen then
        let bytesWritten := vendor.bytesWritten outLen config.channels
        let writeOffset := s.writeOffset + bytesWritten
        some ({ s with
          cells := store s.cells s.writeOffset output
          writeOffset := writeOffset
          stage := .checking (binarySpaceAvailable config writeOffset) },
          [.wrote s.writeOffset output.length])
      else some ({ s with stage := .checking available }, [])
  | _ => none

def stepWriteable (vendor : Vendor) (config : AudioConfig) (s : State) :
    Option (State × List Event) :=
  match s.stage with
  | .idle =>
      if config.lwsPre < s.writeOffset then
        match vendor.message (slice s.cells config.lwsPre s.writeOffset) with
        | some message =>
            some ({ s with writeOffset := config.lwsPre }, [.sent message])
        | none => some (s, [])
      else some (s, [])
  | _ => none

def step (vendor : Vendor) (config : AudioConfig) (s : State) :
    Act → Option (State × List Event)
  | .frame => stepFrame config s
  | .media => stepMedia config s
  | .read outcome => stepRead config s outcome
  | .resample output => stepResample vendor config s output
  | .writeable => stepWriteable vendor config s

/-- The block comes from `new uint8_t[...]`, with whatever is in it. -/
def machine (params : CaptureParams) (fresh : Cells) :
    Machine State Act Event :=
  { initial := ⟨⟨params.lwsPre, false, .idle⟩, fresh⟩
    step := step params.vendor params.audioConfig }

/-- What the media bug and the resampler promise. -/
def contract (config : AudioConfig) (s : State) : Act → Bool
  | .read (some read) =>
      match s.stage with
      | .reading frame _ => read.counts.allowed config frame.buflen
      | .filling _ => read.counts.allowed config switchRecommendedBufferSize
      | _ => true
  | .resample output =>
      match s.stage with
      -- whole samples of every channel, `available >> 1` for each at most
      | .resampling available =>
          output.length % (2 * config.channels) == 0 &&
            output.length / (2 * config.channels) ≤ available / 2
      | _ => true
  | _ => true

theorem reportOverrun_cases (s : State) :
    reportOverrun s = [] ∨ reportOverrun s = [.overrun] := by
  unfold reportOverrun
  split
  · exact .inl rfl
  · exact .inr rfl

/-- The two ways to count the bytes agree for one and for two channels. -/
theorem bytesWritten_eq (vendor : Vendor) {channels length : Nat}
    (channelled : channels = 1 ∨ channels = 2)
    (whole : length % (2 * channels) = 0) :
    vendor.bytesWritten (length / (2 * channels)) channels = length := by
  rcases channelled with rfl | rfl <;> cases vendor <;>
    simp only [Vendor.bytesWritten, Nat.shiftLeft_eq] <;> omega

theorem bytesWritten_zero (vendor : Vendor) (channels : Nat) :
    vendor.bytesWritten 0 channels = 0 := by
  cases vendor <;> simp [Vendor.bytesWritten]

end DrachtioModules.AudioPipe.Vendors

import DrachtioModules.AudioPipe.Vendors

/-!
# The end of the audio buffer of the older AudioPipes

The media bug delivers packets of `ptime` milliseconds, and the resampler makes
of each what it is worth at its own rate.  The test for an overrun asks for the
room of one channel, where two need twice as much: whether a packet ever comes
when there is room for half of it depends on how many of them the buffer takes.
-/

namespace DrachtioModules.AudioPipe.Vendors

/-- A session whose packets are `samples` samples of two bytes for each
channel. -/
structure PacketParams extends toSession : CaptureParams where
  samples : Nat
  ptime : Nat
  positive : 0 < samples
  counted : decodedBytesPerPacket = 2 * samples
  timed : samples * 1000 = sampling * ptime

namespace PacketParams

variable (params : PacketParams)

/-- The samples of a packet at the rate the session is resampled to. -/
def resampled : Nat := params.vendor.desiredSampling * params.ptime / 1000

/-- What a packet of two channels takes up in the buffer. -/
def packetBytes : Nat := 4 * params.resampled

/-- The buffer without the bytes of `LWS_PRE`. -/
def ring : Nat := params.audioConfig.maxLen - params.lwsPre

/-- A packet comes whole, into a frame with room for one channel's part. -/
def wholePacket (buflen : Nat) (read : BugRead) : Bool :=
  params.decodedBytesPerPacket ≤ buflen &&
    read.data.length == params.decodedBytesPerPacket * params.channels &&
    read.beyond.isEmpty

/-- The resampler is offered `available >> 1` samples for each channel, and
stops there or at the end of the packet. -/
def outputBytes (available : Nat) : Nat :=
  2 * params.channels * min (available / 2) params.resampled

/-- What the media bug and the resampler do. -/
def wholePackets (s : State) : Act → Bool
  | .read (some read) =>
      match s.stage with
      | .reading frame _ => params.wholePacket frame.buflen read
      | .filling _ => params.wholePacket switchRecommendedBufferSize read
      | _ => true
  | .resample output =>
      match s.stage with
      | .resampling available => output.length == params.outputBytes available
      | _ => true
  | _ => true

end PacketParams

/-- No write past the end of the block, or of `data`. -/
def Event.inside (config : AudioConfig) : Event → Prop
  | .wrote offset length => offset + length ≤ config.maxLen
  | .filled length => length ≤ switchRecommendedBufferSize
  | .overrun | .dropped | .sent _ => True

/-- One second and more of 20 ms frames. -/
theorem CaptureParams.roomy (params : CaptureParams) :
    params.lwsPre + 16000 * params.channels ≤ params.audioConfig.maxLen := by
  have second : 1 ≤
      params.vendor.audioBufferSecs params.requestedBufferSecs := by
    cases params.vendor <;> simp only [Vendor.audioBufferSecs] <;> omega
  have frame : 320 ≤ 320 * params.vendor.desiredSampling / 8000 := by
    cases params.vendor <;> decide
  apply Nat.add_le_add_left
  calc 16000 * params.channels
      = 320 * params.channels * 1000 / 20 := by omega
    _ ≤ 320 * params.vendor.desiredSampling / 8000 * params.channels *
          1000 / 20 := by gcongr
    _ ≤ 320 * params.vendor.desiredSampling / 8000 * params.channels *
          1000 / 20 *
          params.vendor.audioBufferSecs params.requestedBufferSecs :=
        Nat.le_mul_of_pos_right _ second

namespace PacketParams

variable {params : PacketParams}

theorem stereo_channels (stereo : params.stereo = true) :
    params.channels = 2 := by
  simp [CaptureParams.channels, stereo]

theorem ptime_pos (params : PacketParams) : 0 < params.ptime := by
  have positive := params.positive
  have timed := params.timed
  apply Nat.pos_of_ne_zero
  intro none
  rw [none] at timed
  omega

theorem resampled_pos (params : PacketParams) : 0 < params.resampled := by
  have ptime := params.ptime_pos
  unfold resampled
  cases params.vendor <;> simp only [Vendor.desiredSampling] <;> omega

theorem packetBytes_native (native : params.audioConfig.resampler = false) :
    params.packetBytes = 2 * params.decodedBytesPerPacket := by
  have rate : params.vendor.desiredSampling = params.sampling := by
    simpa [CaptureParams.audioConfig, forkDataInit] using native
  have timed := params.timed
  have counted := params.counted
  unfold packetBytes resampled
  rw [rate, ← timed]
  omega

theorem ring_stereo (stereo : params.stereo = true) : 4 ∣ params.ring := by
  have two := stereo_channels stereo
  have size : params.ring = 320 * params.vendor.desiredSampling / 8000 * 2 *
      1000 / 20 *
      params.vendor.audioBufferSecs params.requestedBufferSecs := by
    simp [ring, CaptureParams.audioConfig, forkDataInit, two]
  rw [size]
  refine Nat.dvd_mul_right_of_dvd ?_ _
  cases params.vendor <;> decide

end PacketParams

/-- The callback takes one of the two paths. -/
def OnPath (resampler : Bool) : Stage → Prop
  | .idle | .unlocking => True
  | .native _ _ | .reading _ _ => resampler = false
  | .filling _ | .resampling _ | .checking _ => resampler = true

/-- Packets fit as long as the room left is of some kind. -/
structure Fits (params : PacketParams) (kind : Nat → Prop) : Prop where
  start : kind params.ring
  again : params.audioConfig.resampler = false →
    kind params.audioConfig.maxLen
  packet : params.audioConfig.resampler = false → ∀ room, kind room →
    params.decodedBytesPerPacket ≤ room →
    params.decodedBytesPerPacket * params.channels ≤ room ∧
      kind (room - params.decodedBytesPerPacket * params.channels)
  output : params.audioConfig.resampler = true → ∀ room, kind room →
    params.outputBytes room ≤ room ∧ kind (room - params.outputBytes room)
  frame : params.audioConfig.resampler = true →
    params.decodedBytesPerPacket * params.channels ≤ switchRecommendedBufferSize

structure Bounded (params : PacketParams) (kind : Nat → Prop)
    (trace : List Event) (s : State) : Prop where
  upper : s.writeOffset ≤ params.audioConfig.maxLen
  room : kind (params.audioConfig.maxLen - s.writeOffset)
  inside : ∀ event ∈ trace, event.inside params.audioConfig
  agrees : s.stage.agrees params.audioConfig s.writeOffset
  path : OnPath params.audioConfig.resampler s.stage

section Bounded

variable {params : PacketParams} {kind : Nat → Prop}
variable {trace events : List Event} {s s' : State}

theorem Bounded.back (bounded : Bounded params kind trace s)
    (upper : s'.writeOffset ≤ params.audioConfig.maxLen)
    (room : kind (params.audioConfig.maxLen - s'.writeOffset))
    (inside : ∀ event ∈ events, event.inside params.audioConfig)
    (agrees : s'.stage.agrees params.audioConfig s'.writeOffset)
    (path : OnPath params.audioConfig.resampler s'.stage) :
    Bounded params kind (trace ++ events) s' := by
  refine ⟨upper, room, fun event member => ?_, agrees, path⟩
  rcases List.mem_append.mp member with earlier | later
  · exact bounded.inside event earlier
  · exact inside event later

theorem Bounded.still (bounded : Bounded params kind trace s)
    (same : s'.writeOffset = s.writeOffset)
    (inside : ∀ event ∈ events, event.inside params.audioConfig)
    (agrees : s'.stage.agrees params.audioConfig s.writeOffset)
    (path : OnPath params.audioConfig.resampler s'.stage) :
    Bounded params kind (trace ++ events) s' := by
  refine bounded.back ?_ ?_ inside ?_ path
  · rw [same]
    exact bounded.upper
  · rw [same]
    exact bounded.room
  · rw [same]
    exact agrees

theorem Bounded.wrote (bounded : Bounded params kind trace s) {length : Nat}
    (moved : s'.writeOffset = s.writeOffset + length)
    (fits : length ≤ params.audioConfig.maxLen - s.writeOffset)
    (room : kind (params.audioConfig.maxLen - s.writeOffset - length))
    (agrees : s'.stage.agrees params.audioConfig s'.writeOffset)
    (path : OnPath params.audioConfig.resampler s'.stage) :
    Bounded params kind (trace ++ [.wrote s.writeOffset length]) s' := by
  have upper := bounded.upper
  have within : s.writeOffset + length ≤ params.audioConfig.maxLen := by omega
  refine bounded.back (moved ▸ within) ?_ ?_ agrees path
  · rw [moved, Nat.sub_add_eq]
    exact room
  · intro event member
    rw [List.mem_singleton.mp member]
    exact within

theorem inside_reportOverrun (s : State) :
    ∀ event ∈ reportOverrun s, event.inside params.audioConfig := by
  intro event member
  rcases reportOverrun_cases s with reported | reported
  · rw [reported] at member
    cases member
  · rw [reported] at member
    rw [List.mem_singleton.mp member]
    trivial

theorem Bounded.media (fits : Fits params kind)
    (bounded : Bounded params kind trace s)
    (stepped : stepMedia params.audioConfig s = some (s', events)) :
    Bounded params kind (trace ++ events) s' := by
  have agrees := bounded.agrees
  have path := bounded.path
  have free : params.audioConfig.minFreespace = params.decodedBytesPerPacket :=
    rfl
  have channels : params.audioConfig.channels = params.channels := rfl
  unfold stepMedia at stepped
  split at stepped
  · next frame available here =>
      rw [here] at agrees path
      obtain ⟨placed, counted⟩ := agrees
      split at stepped
      · have whole : params.decodedBytesPerPacket ≤
            params.audioConfig.maxLen := by
          have roomy := params.roomy
          have small := params.packet
          have one : 1 ≤ params.channels := by
            rcases params.channels_cases with mono | stereo <;> omega
          omega
        cases stepped
        refine bounded.back (Nat.zero_le _) (fits.again path) ?_
          ⟨rfl, rfl, ?_⟩ path
        · intro event member
          rcases List.mem_append.mp member with report | drop
          · exact inside_reportOverrun s event report
          · rw [List.mem_singleton.mp drop]
            trivial
        · exact (fits.packet path _ (fits.again path) whole).1
      · next enough =>
          cases stepped
          refine bounded.still rfl (by simp) ⟨placed, counted, ?_⟩ path
          have room := bounded.room
          have same : available = params.audioConfig.maxLen - s.writeOffset :=
            counted
          rw [← same] at room
          exact (fits.packet path _ room (Nat.not_lt.mp enough)).1
  · next available here =>
      rw [here] at agrees path
      split at stepped
      · cases stepped
        exact bounded.still rfl (inside_reportOverrun s) trivial trivial
      · cases stepped
        exact bounded.still rfl (by simp) agrees path
  · cases stepped
    exact bounded.still rfl (by simp) trivial trivial
  · cases stepped

theorem PacketParams.of_wholePacket {buflen : Nat} {read : BugRead}
    (whole : params.wholePacket buflen read = true) :
    params.decodedBytesPerPacket ≤ buflen ∧
      read.data.length = params.decodedBytesPerPacket * params.channels ∧
      read.data ++ read.beyond = read.data := by
  simp only [wholePacket, Bool.and_eq_true, decide_eq_true_eq, beq_iff_eq,
    List.isEmpty_iff] at whole
  obtain ⟨⟨room, length⟩, none⟩ := whole
  exact ⟨room, length, by rw [none, List.append_nil]⟩

theorem Bounded.read (fits : Fits params kind)
    (bounded : Bounded params kind trace s) {outcome : Option BugRead}
    (promised : params.wholePackets s (.read outcome) = true)
    (stepped : stepRead params.audioConfig s outcome = some (s', events)) :
    Bounded params kind (trace ++ events) s' := by
  have agrees := bounded.agrees
  have path := bounded.path
  unfold stepRead at stepped
  split at stepped
  · cases stepped
    exact bounded.still rfl (by simp) trivial trivial
  · cases stepped
    exact bounded.still rfl (by simp) trivial trivial
  · next frame available read here =>
      rw [here] at agrees path
      obtain ⟨rfl, counted, enough⟩ := agrees
      simp only [PacketParams.wholePackets, here] at promised
      obtain ⟨least, length, whole⟩ := params.of_wholePacket promised
      have same : available = params.audioConfig.maxLen - s.writeOffset :=
        counted
      have room := bounded.room
      rw [← same] at room
      obtain ⟨fitting, later⟩ := fits.packet path available room least
      rw [whole] at stepped
      split at stepped
      · cases stepped
        rw [← length, same] at fitting later
        exact bounded.wrote rfl fitting later ⟨rfl, rfl⟩ path
      · next empty =>
          have none : read.data.length = 0 := not_not.mp empty
          cases stepped
          refine bounded.still rfl (fun event member => ?_) ⟨rfl, counted⟩ path
          rw [List.mem_singleton.mp member, none]
          exact bounded.upper
  · next available read here =>
      rw [here] at agrees path
      simp only [PacketParams.wholePackets, here] at promised
      obtain ⟨-, length, whole⟩ := params.of_wholePacket promised
      have inside : ∀ event ∈ [Event.filled read.data.length],
          event.inside params.audioConfig := by
        intro event member
        rw [List.mem_singleton.mp member, length]
        exact fits.frame path
      rw [whole] at stepped
      split at stepped
      · cases stepped
        exact bounded.still rfl inside agrees path
      · cases stepped
        exact bounded.still rfl inside (by rw [here]; exact agrees)
          (by rw [here]; exact path)
  · cases stepped

theorem PacketParams.whole_output (params : PacketParams) (room : Nat) :
    params.outputBytes room % (2 * params.channels) = 0 :=
  Nat.mul_mod_right ..

theorem Bounded.resample (fits : Fits params kind)
    (bounded : Bounded params kind trace s) {output : List UInt8}
    (promised : params.wholePackets s (.resample output) = true)
    (stepped : stepResample params.vendor params.audioConfig s output =
      some (s', events)) :
    Bounded params kind (trace ++ events) s' := by
  have agrees := bounded.agrees
  have path := bounded.path
  have room := bounded.room
  unfold stepResample at stepped
  split at stepped
  · next available here =>
      rw [here] at agrees path
      simp only [PacketParams.wholePackets, here, beq_iff_eq] at promised
      have same : available = params.audioConfig.maxLen - s.writeOffset :=
        agrees
      rw [← same] at room
      obtain ⟨fitting, later⟩ := fits.output path available room
      have counted := bytesWritten_eq params.vendor params.channels_cases
        (params.whole_output available)
      rw [← promised] at fitting later counted
      dsimp only at stepped
      split at stepped
      · cases stepped
        rw [same] at fitting later
        exact bounded.wrote (congrArg (s.writeOffset + ·) counted) fitting later
          rfl path
      · cases stepped
        exact bounded.still rfl (by simp) agrees path
  · cases stepped

theorem Bounded.step (fits : Fits params kind)
    (bounded : Bounded params kind trace s) {act : Act}
    (promised : params.wholePackets s act = true)
    (stepped : step params.vendor params.audioConfig s act =
      some (s', events)) : Bounded params kind (trace ++ events) s' := by
  cases act with
  | frame =>
      simp only [Vendors.step, stepFrame] at stepped
      split at stepped
      · split at stepped
        · next resampled =>
            cases stepped
            exact bounded.still rfl (by simp) rfl resampled
        · next native =>
            cases stepped
            exact bounded.still rfl (by simp) ⟨rfl, rfl⟩
              (Bool.eq_false_of_not_eq_true native)
      · cases stepped
  | media => exact bounded.media fits stepped
  | read outcome => exact bounded.read fits promised stepped
  | resample output => exact bounded.resample fits promised stepped
  | writeable =>
      simp only [Vendors.step, stepWriteable] at stepped
      split at stepped
      · next here =>
          have agrees : ∀ offset, s.stage.agrees params.audioConfig offset := by
            rw [here]
            exact fun _ => trivial
          split at stepped
          · split at stepped
            · have pre : params.lwsPre ≤ params.audioConfig.maxLen :=
                (Nat.le_add_right ..).trans params.roomy
              cases stepped
              refine bounded.back pre fits.start ?_ (agrees _) bounded.path
              intro event member
              rw [List.mem_singleton.mp member]
              trivial
            · cases stepped
              exact bounded.still rfl (by simp) (agrees _) bounded.path
          · cases stepped
            exact bounded.still rfl (by simp) (agrees _) bounded.path
      · cases stepped

theorem Fits.inside (fits : Fits params kind) {fresh : Cells}
    {labels : List Act}
    (run : (machine params.toSession fresh).Run params.wholePackets
      (machine params.toSession fresh).initial labels trace s) :
    ∀ event ∈ trace, event.inside params.audioConfig := by
  have bounded : Bounded params kind trace s := by
    refine run.induct (Bounded params kind) ?_ ?_
    · exact { upper := (Nat.le_add_right ..).trans params.roomy
              room := fits.start
              inside := by simp
              agrees := trivial
              path := trivial }
    · intro trace state act next events bounded promised stepped
      exact bounded.step fits promised stepped
  exact bounded.inside

theorem fits_mono (mono : params.stereo = false) :
    Fits params fun _ => True := by
  have one : params.channels = 1 := by
    simp [CaptureParams.channels, mono]
  constructor
  · trivial
  · exact fun _ => trivial
  · intro _ room _ least
    rw [one, Nat.mul_one]
    exact ⟨least, trivial⟩
  · intro _ room _
    refine ⟨?_, trivial⟩
    unfold PacketParams.outputBytes
    rw [one]
    omega
  · intro _
    rw [one, Nat.mul_one]
    exact params.packet

theorem fits_native (stereo : params.stereo = true)
    (native : params.audioConfig.resampler = false)
    (first : params.ring % params.packetBytes < params.packetBytes / 2)
    (later : params.audioConfig.maxLen % params.packetBytes <
      params.packetBytes / 2) :
    Fits params fun room =>
      room % params.packetBytes < params.packetBytes / 2 := by
  have bytes := params.packetBytes_native native
  have two := params.stereo_channels stereo
  constructor
  · exact first
  · exact fun _ => later
  · intro _ room kind least
    have double : params.decodedBytesPerPacket * params.channels =
        params.packetBytes := by
      rw [two, bytes]
      omega
    have whole : params.packetBytes ≤ room := by
      by_contra short
      rw [Nat.mod_eq_of_lt (by omega)] at kind
      omega
    rw [double, ← Nat.mod_eq_sub_mod whole]
    exact ⟨whole, kind⟩
  · intro resampled
    rw [native] at resampled
    cases resampled
  · intro resampled
    rw [native] at resampled
    cases resampled

theorem fits_resampled (stereo : params.stereo = true)
    (resampled : params.audioConfig.resampler = true)
    (frame : 2 * params.decodedBytesPerPacket ≤ switchRecommendedBufferSize)
    (whole : params.packetBytes ∣ params.ring) :
    Fits params (params.packetBytes ∣ ·) := by
  have two := params.stereo_channels stereo
  constructor
  · exact whole
  · intro native
    rw [resampled] at native
    cases native
  · intro native
    rw [resampled] at native
    cases native
  · intro _ room kind
    rcases room.eq_zero_or_pos with rfl | positive
    · exact ⟨by simp [PacketParams.outputBytes], by simp⟩
    · have least := Nat.le_of_dvd positive kind
      have written : params.outputBytes room = params.packetBytes := by
        unfold PacketParams.packetBytes at least ⊢
        unfold PacketParams.outputBytes
        rw [two, Nat.min_eq_right (by omega)]
      rw [written]
      exact ⟨least, Nat.dvd_sub kind (Nat.dvd_refl _)⟩
  · intro _
    rw [two, Nat.mul_comm]
    exact frame

end Bounded

/-- Packets are what comes next, and the callback knows the room. -/
def Ready (params : PacketParams) (s : State) : Prop :=
  let room := params.audioConfig.maxLen - s.writeOffset
  s.stage = if params.audioConfig.resampler then .filling room
    else .native ⟨s.writeOffset, room⟩ room

/-- The packets may go on until one of them is written outside. -/
def Overflows (params : PacketParams) (fresh : Cells) (s : State) : Prop :=
  ∃ labels trace s', (machine params.toSession fresh).Run params.wholePackets
      s labels trace s' ∧
    ∃ event ∈ trace, ¬ event.inside params.audioConfig

section Overflows

variable {params : PacketParams} {s s' : State}

theorem Overflows.after {fresh : Cells} {labels : List Act} {trace : List Event}
    (run : (machine params.toSession fresh).Run params.wholePackets s labels
      trace s') (overflows : Overflows params fresh s') :
    Overflows params fresh s := by
  obtain ⟨labels', trace', s'', run', event, member, outside⟩ := overflows
  exact ⟨labels ++ labels', trace ++ trace', s'', run.append run', event,
    List.mem_append_right _ member, outside⟩

/-- A packet of silence. -/
def silence (params : PacketParams) : BugRead :=
  ⟨List.replicate (params.decodedBytesPerPacket * 2) 0, []⟩

theorem length_silence : (silence params).data.length =
    params.decodedBytesPerPacket * 2 :=
  List.length_replicate

theorem silence_whole : (silence params).data ++ (silence params).beyond =
    (silence params).data :=
  List.append_nil _

theorem wholePacket_silence (stereo : params.stereo = true) {buflen : Nat}
    (least : params.decodedBytesPerPacket ≤ buflen) :
    params.wholePacket buflen (silence params) = true := by
  simp [PacketParams.wholePacket, least, silence,
    PacketParams.stereo_channels stereo]

variable (fresh : Cells)

/-- The read of a packet, without a resampler, after the test for an
overrun. -/
theorem reading_run (stereo : params.stereo = true)
    (native : params.audioConfig.resampler = false) {available : Nat}
    (here : s.stage = .reading ⟨s.writeOffset, available⟩ available)
    (least : params.decodedBytesPerPacket ≤ available) :
    ∃ s', (machine params.toSession fresh).Run params.wholePackets s
        [.read (some (silence params))]
        [.wrote s.writeOffset params.packetBytes] s' ∧
      s'.writeOffset = s.writeOffset + params.packetBytes ∧
      Ready params s' := by
  have bytes := PacketParams.packetBytes_native native
  have positive := params.positive
  have counted := params.counted
  have length : (silence params).data.length = params.packetBytes := by
    rw [length_silence, bytes, Nat.mul_comm]
  have some_data : params.packetBytes ≠ 0 := by omega
  have promised : params.wholePackets s (.read (some (silence params))) =
      true := by
    simp only [PacketParams.wholePackets, here]
    exact wholePacket_silence stereo least
  let room := params.audioConfig.maxLen - (s.writeOffset + params.packetBytes)
  let next : State :=
    { s with
      cells := store s.cells s.writeOffset (silence params).data
      writeOffset := s.writeOffset + params.packetBytes
      stage := .native ⟨s.writeOffset + params.packetBytes, room⟩ room }
  have stepped : (machine params.toSession fresh).step s
      (.read (some (silence params))) =
        some (next, [.wrote s.writeOffset params.packetBytes]) := by
    simp only [machine, step, stepRead, here, silence_whole, length,
      if_pos some_data]
    rfl
  refine ⟨next, Machine.Run.nil.snoc promised stepped, rfl, ?_⟩
  simp [Ready, native, next, room]

theorem Ready.native (ready : Ready params s)
    (native : params.audioConfig.resampler = false) :
    s.stage = .native
      ⟨s.writeOffset, params.audioConfig.maxLen - s.writeOffset⟩
      (params.audioConfig.maxLen - s.writeOffset) := by
  simpa [Ready, native] using ready

/-- There is the room for one channel that is asked for. -/
theorem tested_run (native : params.audioConfig.resampler = false)
    (ready : Ready params s) (enough : params.decodedBytesPerPacket ≤
      params.audioConfig.maxLen - s.writeOffset) :
    ∃ s', (machine params.toSession fresh).Run params.wholePackets s [.media]
        [] s' ∧
      s'.writeOffset = s.writeOffset ∧ s'.stage = .reading
        ⟨s'.writeOffset, params.audioConfig.maxLen - s.writeOffset⟩
        (params.audioConfig.maxLen - s.writeOffset) := by
  have room : ¬ params.audioConfig.maxLen - s.writeOffset <
      params.audioConfig.minFreespace := Nat.not_lt.mpr enough
  let next : State :=
    { s with
      stage := .reading
        ⟨s.writeOffset, params.audioConfig.maxLen - s.writeOffset⟩
        (params.audioConfig.maxLen - s.writeOffset) }
  have stepped : (machine params.toSession fresh).step s .media =
      some (next, []) := by
    simp only [machine, step, stepMedia, ready.native native]
    rw [if_neg room]
  exact ⟨next, Machine.Run.nil.snoc rfl stepped, rfl, rfl⟩

/-- There is not, and the callback starts over. -/
theorem dropped_run (native : params.audioConfig.resampler = false)
    (ready : Ready params s) (full : params.audioConfig.maxLen -
      s.writeOffset < params.decodedBytesPerPacket) :
    ∃ trace s', (machine params.toSession fresh).Run params.wholePackets s
        [.media] trace s' ∧
      s'.writeOffset = 0 ∧ s'.stage = .reading
        ⟨s'.writeOffset, params.audioConfig.maxLen⟩
        params.audioConfig.maxLen := by
  have room : params.audioConfig.maxLen - s.writeOffset <
      params.audioConfig.minFreespace := full
  let next : State :=
    { s with
      writeOffset := 0
      overrunNotified := true
      stage := .reading ⟨0, params.audioConfig.maxLen⟩
        params.audioConfig.maxLen }
  have stepped : (machine params.toSession fresh).step s .media =
      some (next, reportOverrun s ++ [.dropped]) := by
    simp only [machine, step, stepMedia, ready.native native]
    rw [if_pos room]
    rfl
  exact ⟨_, next, Machine.Run.nil.snoc rfl stepped, rfl, rfl⟩

/-- What the resampler makes of a packet of silence. -/
def output (params : PacketParams) (available : Nat) : List UInt8 :=
  List.replicate (params.outputBytes available) 0

theorem length_output (params : PacketParams) (available : Nat) :
    (output params available).length = params.outputBytes available :=
  List.length_replicate

/-- A packet through the resampler, up to the test for an overrun. -/
theorem resampled_run (stereo : params.stereo = true)
    (resampled : params.audioConfig.resampler = true)
    (ready : Ready params s)
    (room : 1 < params.audioConfig.maxLen - s.writeOffset) :
    ∃ trace s', (machine params.toSession fresh).Run params.wholePackets s
        [.read (some (silence params)),
          .resample (output params
            (params.audioConfig.maxLen - s.writeOffset))] trace s' ∧
      .wrote s.writeOffset (params.outputBytes
        (params.audioConfig.maxLen - s.writeOffset)) ∈ trace ∧
      s'.writeOffset = s.writeOffset + params.outputBytes
        (params.audioConfig.maxLen - s.writeOffset) ∧
      s'.stage = .checking (params.audioConfig.maxLen - s'.writeOffset) := by
  have positive := params.positive
  have counted := params.counted
  have two : params.audioConfig.channels = 2 :=
    PacketParams.stereo_channels stereo
  let available := params.audioConfig.maxLen - s.writeOffset
  have here : s.stage = .filling available := by
    simpa [Ready, resampled] using ready
  have some_data : (silence params).data.length ≠ 0 := by
    rw [length_silence]
    omega
  let resampling : State := { s with stage := .resampling available }
  have promised : params.wholePackets s (.read (some (silence params))) =
      true := by
    simp only [PacketParams.wholePackets, here]
    exact wholePacket_silence stereo params.packet
  have read : (machine params.toSession fresh).step s
      (.read (some (silence params))) = some (resampling,
        [.filled (silence params).data.length]) := by
    simp only [machine, step, stepRead, here, if_pos some_data, silence_whole]
    rfl
  have promised' : params.wholePackets resampling
      (.resample (output params available)) = true := by
    simp [PacketParams.wholePackets, resampling, length_output]
  have whole := bytesWritten_eq params.vendor params.channels_cases
    (params.whole_output available)
  have samples : params.outputBytes available / (2 * 2) =
      min (available / 2) params.resampled := by
    unfold PacketParams.outputBytes
    rw [PacketParams.stereo_channels stereo]
    omega
  have some_output : 0 < params.outputBytes available / (2 * 2) := by
    have some_samples := params.resampled_pos
    rw [samples]
    omega
  rw [PacketParams.stereo_channels stereo] at whole
  let next : State :=
    { s with
      cells := store s.cells s.writeOffset (output params available)
      writeOffset := s.writeOffset + params.outputBytes available
      stage := .checking (params.audioConfig.maxLen -
        (s.writeOffset + params.outputBytes available)) }
  have stepped : (machine params.toSession fresh).step resampling
      (.resample (output params available)) = some (next,
        [.wrote s.writeOffset (params.outputBytes available)]) := by
    simp only [machine, step, stepResample, resampling, length_output, two,
      if_pos some_output, whole]
    rfl
  refine ⟨_, next, (Machine.Run.nil.snoc promised read).snoc promised'
    stepped, ?_, rfl, rfl⟩
  simp [available]

/-- Past the test for an overrun, in this callback or the next. -/
theorem checked_run (resampled : params.audioConfig.resampler = true)
    (here : s.stage =
      .checking (params.audioConfig.maxLen - s.writeOffset)) :
    ∃ labels trace s', (machine params.toSession fresh).Run
        params.wholePackets s labels trace s' ∧
      s'.writeOffset = s.writeOffset ∧ Ready params s' := by
  let room := params.audioConfig.maxLen - s.writeOffset
  by_cases full : room < params.audioConfig.minFreespace
  · let stopped : State :=
      { s with overrunNotified := true, stage := .unlocking }
    have tested : (machine params.toSession fresh).step s .media =
        some (stopped, reportOverrun s) := by
      simp only [machine, step, stepMedia, here]
      rw [if_pos full]
    have unlocked : (machine params.toSession fresh).step stopped .media =
        some ({ stopped with stage := .idle }, []) := rfl
    have framed : (machine params.toSession fresh).step
        { stopped with stage := .idle } .frame =
          some ({ stopped with stage := .filling room }, []) := by
      simp only [machine, step, stepFrame, resampled]
      rfl
    refine ⟨_, _, _, ((Machine.Run.nil.snoc rfl tested).snoc rfl
      unlocked).snoc rfl framed, rfl, ?_⟩
    simp [Ready, resampled, stopped, room]
  · have tested : (machine params.toSession fresh).step s .media =
        some ({ s with stage := .filling room }, []) := by
      simp only [machine, step, stepMedia, here]
      rw [if_neg full]
    refine ⟨_, _, _, Machine.Run.nil.snoc rfl tested, rfl, ?_⟩
    simp [Ready, resampled, room]

/-- A packet for which there is room. -/
theorem packet_run (stereo : params.stereo = true) (ready : Ready params s)
    (room : s.writeOffset + params.packetBytes ≤ params.audioConfig.maxLen) :
    ∃ labels trace s', (machine params.toSession fresh).Run
        params.wholePackets s labels trace s' ∧
      s'.writeOffset = s.writeOffset + params.packetBytes ∧
      Ready params s' := by
  have some_samples := params.resampled_pos
  have size : params.packetBytes = 4 * params.resampled := rfl
  cases path : params.audioConfig.resampler with
  | false =>
      have bytes := PacketParams.packetBytes_native path
      have enough : params.decodedBytesPerPacket ≤
          params.audioConfig.maxLen - s.writeOffset := by omega
      obtain ⟨middle, tested, same, here⟩ := tested_run fresh path ready
        enough
      obtain ⟨s', run, moved, ready'⟩ := reading_run fresh stereo path here
        enough
      refine ⟨_, _, s', tested.append run, ?_, ready'⟩
      rw [moved, same]
  | true =>
      have written : params.outputBytes
          (params.audioConfig.maxLen - s.writeOffset) =
            params.packetBytes := by
        unfold PacketParams.outputBytes
        rw [PacketParams.stereo_channels stereo, Nat.min_eq_right (by omega),
          size]
      obtain ⟨trace, middle, run, -, moved, here⟩ := resampled_run
        fresh stereo path ready (by omega)
      obtain ⟨labels', trace', s', run', same, ready'⟩ := checked_run
        fresh path here
      refine ⟨_, _, s', run.append run', ?_, ready'⟩
      rw [same, moved, written]

theorem fill_run (stereo : params.stereo = true) (count : Nat)
    (ready : Ready params s) (room : s.writeOffset +
      params.packetBytes * count ≤ params.audioConfig.maxLen) :
    ∃ labels trace s', (machine params.toSession fresh).Run
        params.wholePackets s labels trace s' ∧
      s'.writeOffset = s.writeOffset + params.packetBytes * count ∧
      Ready params s' := by
  induction count with
  | zero => exact ⟨[], [], s, .nil, rfl, ready⟩
  | succ count ih =>
      rw [Nat.mul_succ, ← Nat.add_assoc] at room
      obtain ⟨labels, trace, s', run, filled, ready'⟩ :=
        ih ((Nat.le_add_right ..).trans room)
      obtain ⟨labels', trace', s'', run', moved, ready''⟩ :=
        packet_run fresh stereo ready' (by rw [filled]; exact room)
      refine ⟨_, _, s'', run.append run', ?_, ready''⟩
      rw [moved, filled, Nat.mul_succ, Nat.add_assoc]

/-- All the packets the buffer takes. -/
theorem filled_run (stereo : params.stereo = true) (ready : Ready params s)
    (upper : s.writeOffset ≤ params.audioConfig.maxLen) :
    ∃ labels trace s', (machine params.toSession fresh).Run
        params.wholePackets s labels trace s' ∧
      params.audioConfig.maxLen - s'.writeOffset =
        (params.audioConfig.maxLen - s.writeOffset) % params.packetBytes ∧
      s'.writeOffset ≤ params.audioConfig.maxLen ∧ Ready params s' := by
  have parts := Nat.div_add_mod (params.audioConfig.maxLen - s.writeOffset)
    params.packetBytes
  obtain ⟨labels, trace, s', run, moved, ready'⟩ := fill_run fresh
    stereo ((params.audioConfig.maxLen - s.writeOffset) / params.packetBytes)
    ready (by omega)
  exact ⟨labels, trace, s', run, by omega, by omega, ready'⟩

theorem native_overflows (stereo : params.stereo = true)
    (native : params.audioConfig.resampler = false)
    (ready : Ready params s)
    (upper : s.writeOffset ≤ params.audioConfig.maxLen)
    (half : params.packetBytes / 2 ≤
      (params.audioConfig.maxLen - s.writeOffset) % params.packetBytes) :
    Overflows params fresh s := by
  have some_samples := params.resampled_pos
  have size : params.packetBytes = 4 * params.resampled := rfl
  have bytes := PacketParams.packetBytes_native native
  obtain ⟨labels, trace, s', run, left, upper', ready'⟩ := filled_run
    fresh stereo ready upper
  have short := Nat.mod_lt (params.audioConfig.maxLen - s.writeOffset)
    (show 0 < params.packetBytes by omega)
  have enough : params.decodedBytesPerPacket ≤
      params.audioConfig.maxLen - s'.writeOffset := by omega
  obtain ⟨middle, tested, same, here⟩ := tested_run fresh native ready'
    enough
  obtain ⟨s'', run', -, -⟩ := reading_run fresh stereo native here enough
  refine Overflows.after run ⟨_, _, s'', tested.append run',
    .wrote middle.writeOffset params.packetBytes, by simp, ?_⟩
  simp only [Event.inside]
  omega

theorem resampled_overflows (stereo : params.stereo = true)
    (resampled : params.audioConfig.resampler = true)
    (ready : Ready params s)
    (upper : s.writeOffset ≤ params.audioConfig.maxLen)
    (left : 2 < (params.audioConfig.maxLen - s.writeOffset) %
      params.packetBytes) : Overflows params fresh s := by
  have some_samples := params.resampled_pos
  have size : params.packetBytes = 4 * params.resampled := rfl
  obtain ⟨labels, trace, s', run, same, upper', ready'⟩ := filled_run
    fresh stereo ready upper
  have short := Nat.mod_lt (params.audioConfig.maxLen - s.writeOffset)
    (show 0 < params.packetBytes by omega)
  obtain ⟨trace', s'', run', wrote, -, -⟩ := resampled_run fresh
    stereo resampled ready' (by omega)
  refine Overflows.after run ⟨_, _, s'', run', _, wrote, ?_⟩
  simp only [Event.inside, PacketParams.outputBytes,
    PacketParams.stereo_channels stereo]
  omega

/-- A session's first frame callback. -/
theorem begun_run (params : PacketParams) (fresh : Cells) :
    ∃ labels trace s, (machine params.toSession fresh).Run
        params.wholePackets (machine params.toSession fresh).initial labels
        trace s ∧
      s.writeOffset = params.lwsPre ∧ Ready params s := by
  have framed : ∃ s, (machine params.toSession fresh).step
      (machine params.toSession fresh).initial .frame = some (s, []) ∧
        s.writeOffset = params.lwsPre ∧ Ready params s := by
    simp only [machine, step, stepFrame, Ready]
    split
    · exact ⟨_, rfl, rfl, rfl⟩
    · exact ⟨_, rfl, rfl, rfl⟩
  obtain ⟨s, stepped, start, ready⟩ := framed
  exact ⟨_, _, s, Machine.Run.nil.snoc rfl stepped, start, ready⟩

/-- Less than half a packet is left, and when the callback has started over
more than that will be. -/
theorem restarted_overflows (stereo : params.stereo = true)
    (native : params.audioConfig.resampler = false)
    (ready : Ready params s)
    (upper : s.writeOffset ≤ params.audioConfig.maxLen)
    (less : (params.audioConfig.maxLen - s.writeOffset) % params.packetBytes <
      params.packetBytes / 2)
    (half : params.packetBytes / 2 ≤
      params.audioConfig.maxLen % params.packetBytes) :
    Overflows params fresh s := by
  have packet := params.packet
  have bytes := PacketParams.packetBytes_native native
  have roomy := params.roomy
  rw [PacketParams.stereo_channels stereo] at roomy
  have whole : params.packetBytes ≤ params.audioConfig.maxLen := by omega
  obtain ⟨_, _, s', filled, left, upper', ready'⟩ := filled_run fresh stereo
    ready upper
  obtain ⟨_, middle, dropped, start, here⟩ := dropped_run fresh native ready'
    (by omega)
  obtain ⟨s'', read, moved, ready''⟩ := reading_run fresh stereo native here
    (by omega)
  have taken : s''.writeOffset = params.packetBytes := by
    rw [moved, start, Nat.zero_add]
  have again : (params.audioConfig.maxLen - s''.writeOffset) %
      params.packetBytes = params.audioConfig.maxLen % params.packetBytes := by
    rw [taken, ← Nat.mod_eq_sub_mod whole]
  have overflows := native_overflows fresh stereo native ready''
    (by rw [taken]; exact whole) (by rw [again]; exact half)
  exact .after (filled.append (dropped.append read)) overflows

/-- Two channels of a packet are more than `data` holds. -/
theorem frame_overflows (stereo : params.stereo = true)
    (resampled : params.audioConfig.resampler = true)
    (ready : Ready params s) (large : switchRecommendedBufferSize <
      2 * params.decodedBytesPerPacket) : Overflows params fresh s := by
  have here : s.stage =
      .filling (params.audioConfig.maxLen - s.writeOffset) := by
    simpa [Ready, resampled] using ready
  have promised : params.wholePackets s (.read (some (silence params))) =
      true := by
    simp only [PacketParams.wholePackets, here]
    exact wholePacket_silence stereo params.packet
  have some_data : (silence params).data.length ≠ 0 := by
    rw [length_silence]
    omega
  have stepped : ∃ s', (machine params.toSession fresh).step s
      (.read (some (silence params))) =
        some (s', [.filled (silence params).data.length]) := by
    simp only [machine, step, stepRead, here, if_pos some_data, silence_whole]
    exact ⟨_, rfl⟩
  obtain ⟨s', stepped⟩ := stepped
  refine ⟨_, _, s', Machine.Run.nil.snoc promised stepped, _,
    List.mem_singleton_self _, ?_⟩
  rw [length_silence]
  simp only [Event.inside]
  omega

end Overflows

/-- Whether the whole packets of a session stay in the block and in `data`: with
one channel they do.  With two, and no resampler, less than half a packet must
be left at the end of the buffer, both when it is filled from behind `LWS_PRE`
and when it is filled from 0; with a resampler nothing must be left, and `data`
must hold a packet. -/
theorem within_block_iff (params : PacketParams) :
    (∀ (fresh : Cells) (labels : List Act) (trace : List Event) (s : State),
      (machine params.toSession fresh).Run params.wholePackets
        (machine params.toSession fresh).initial labels trace s →
      ∀ event ∈ trace, event.inside params.audioConfig) ↔
    params.stereo = false ∨
      (params.audioConfig.resampler = false ∧
        params.ring % params.packetBytes < params.packetBytes / 2 ∧
        params.audioConfig.maxLen % params.packetBytes <
          params.packetBytes / 2) ∨
      (params.audioConfig.resampler = true ∧
        2 * params.decodedBytesPerPacket ≤ switchRecommendedBufferSize ∧
        params.packetBytes ∣ params.ring) := by
  constructor
  · intro inside
    cases stereo : params.stereo with
    | false => exact .inl rfl
    | true =>
      let fresh : Cells := fun _ => 0
      obtain ⟨_, _, s, begun, start, ready⟩ := begun_run params fresh
      have kept : ¬ Overflows params fresh s := by
        intro overflows
        obtain ⟨_, _, s', run, event, member, outside⟩ :=
          overflows.after begun
        exact outside (inside fresh _ _ s' run event member)
      have upper : s.writeOffset ≤ params.audioConfig.maxLen := by
        rw [start]
        exact (Nat.le_add_right ..).trans params.roomy
      have ring : params.audioConfig.maxLen - s.writeOffset = params.ring := by
        rw [start]
        rfl
      right
      cases path : params.audioConfig.resampler with
      | false =>
          have first : params.ring % params.packetBytes <
              params.packetBytes / 2 := by
            by_contra half
            rw [Nat.not_lt, ← ring] at half
            exact kept (native_overflows fresh stereo path ready upper half)
          refine .inl ⟨rfl, first, ?_⟩
          by_contra half
          rw [← ring] at first
          exact kept (restarted_overflows fresh stereo path ready upper first
            (Nat.not_lt.mp half))
      | true =>
          refine .inr ⟨rfl, ?_, ?_⟩
          · by_contra large
            exact kept (frame_overflows fresh stereo path ready
              (Nat.not_le.mp large))
          · by_contra left
            refine kept (resampled_overflows fresh stereo path ready upper ?_)
            have aligned := PacketParams.ring_stereo stereo
            have size : params.packetBytes = 4 * params.resampled := rfl
            rw [Nat.dvd_iff_mod_eq_zero] at left
            rw [ring]
            have four : 4 ∣ params.ring % params.packetBytes :=
              (Nat.dvd_mod_iff (size ▸ Nat.dvd_mul_right ..)).mpr aligned
            omega
  · rintro (mono | ⟨native, first, later⟩ | ⟨resampled, frame, whole⟩)
    · intro fresh labels trace s run
      exact (fits_mono mono).inside run
    · intro fresh labels trace s run
      cases stereo : params.stereo with
      | false => exact (fits_mono stereo).inside run
      | true => exact (fits_native stereo native first later).inside run
    · intro fresh labels trace s run
      cases stereo : params.stereo with
      | false => exact (fits_mono stereo).inside run
      | true => exact (fits_resampled stereo resampled frame whole).inside run

/-- Packets of 20 ms at 8 kHz stay inside, packets of 30 ms do not. -/
example :
    let sized (samples ptime : Nat) (packet : 2 * samples ≤ 8192)
        (positive : 0 < samples) (timed : samples * 1000 = 8000 * ptime) :
        PacketParams :=
      { lwsPre := 16, sampling := 8000, stereo := true
        requestedBufferSecs := none, vendor := .jambonz
        decodedBytesPerPacket := 2 * samples, samples := samples
        ptime := ptime, packet := packet, positive := positive
        counted := rfl, timed := timed }
    let left (params : PacketParams) : Nat × Nat :=
      (params.ring % params.packetBytes, params.packetBytes / 2)
    left (sized 160 20 (by decide) (by decide) (by decide)) = (0, 320) ∧
      left (sized 240 30 (by decide) (by decide) (by decide)) = (640, 480) := by
  decide

end DrachtioModules.AudioPipe.Vendors

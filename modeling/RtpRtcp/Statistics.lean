import RtpRtcp.Receiver

/-!
# Sequence, jitter and loss statistics

`InOrderPacket`, `RetransmitOfOldPacket`, `UpdateStatistics` and `Statistics`. Each C expression
keeps its C typing: `int` arithmetic on promoted 16-bit values is `Int` arithmetic on `toNat`,
unsigned 32-bit arithmetic is `BitVec 32` arithmetic, and a conversion to a signed word is
`BitVec.toInt`. Signed overflow, undefined in C, is taken to wrap as the compiled code does.
-/

set_option autoImplicit false

namespace RtpRtcp

namespace RTPReceiver

/-- `RTPReceiver::InOrderPacket`: whether a sequence number advances `received_seq_max_`.
A number within `max_reordering_threshold_` below the maximum is a retransmit; one further
below is a restart of the remote side. Crossings between `0xff00` and `0x00ff` are wraps. -/
def inOrderPacket (r : RTPReceiver) (sequenceNumber : UWord16) : Bool :=
  let seqMax := r.stats.receivedSeqMax.toNat
  let seq := sequenceNumber.toNat
  if seq ≤ seqMax then
    if ¬(seqMax > 0xff00 ∧ seq < 0x0ff) then
      decide ((seqMax : Int) - r.maxReorderingThreshold > seq)
    else true
  else
    if seq > 0xff00 ∧ seqMax < 0x0ff then
      decide ((seqMax : Int) - r.maxReorderingThreshold > seq)
    else true

/-- `rtp_time_stamp_diff_ms` of `RetransmitOfOldPacket`. The 32-bit difference is cast to
`WebRtc_Word32`, but `frequency_khz` is unsigned, so the division is unsigned; the quotient is
then stored in a `WebRtc_Word32`. -/
def rtpTimeStampDiffMs (r : RTPReceiver) (frequencyKhz : UWord32) (rtpTimeStamp : UWord32) : Int :=
  ((rtpTimeStamp - r.lastReceivedTimestamp) / frequencyKhz).toInt

/-- `max_delay_ms` of `RetransmitOfOldPacket`: from the jitter when there is no RTT estimate,
at least 1, and from the minimum RTT otherwise. -/
def maxDelayMs (jitterDelayMs : Nat → Nat → Int) (r : RTPReceiver) (frequencyKhz : UWord32)
    (minRtt : UWord16) : Int :=
  if minRtt = 0 then
    let delay := jitterDelayMs (r.stats.jitterQ4 >>> 4).toNat frequencyKhz.toNat
    if delay = 0 then 1 else delay
  else minRtt.toNat / 3 + 1

/-- `RTPReceiver::RetransmitOfOldPacket`: a packet that is not in order is an old retransmission
when it arrives later than its timestamp allows for. The sum is a 32-bit `int` sum. -/
def retransmitOfOldPacket (jitterDelayMs : Nat → Nat → Int) (frequencyHz : UWord32) (env : Env)
    (r : RTPReceiver) (sequenceNumber : UWord16) (rtpTimeStamp : UWord32) : Bool :=
  if r.inOrderPacket sequenceNumber then false
  else
    let frequencyKhz := frequencyHz / 1000
    let timeDiffMs := env.timeInMilliseconds - r.lastReceiveTime
    timeDiffMs > (r.rtpTimeStampDiffMs frequencyKhz rtpTimeStamp +
      maxDelayMs jitterDelayMs r frequencyKhz env.minRtt).bmod (2 ^ 32)

/-- `abs` of a `WebRtc_Word32`; `abs(INT32_MIN)` is `INT32_MIN` in two's complement. -/
def absWord32 (x : Word32) : Word32 := if x.toInt < 0 then -x else x

/-- One step of the Q4 jitter filter of `UpdateStatistics` (RFC 3550 §6.4.1), applied to one
accumulator and a transit-time difference; differences of 450000 samples or more are skipped. -/
def updateJitter (jitterQ4 : UWord32) (timeDiffSamples : Word32) : UWord32 :=
  let timeDiffSamples := absWord32 timeDiffSamples
  if timeDiffSamples.toInt < 450000 then
    let jitterDiffQ4 : Word32 := (timeDiffSamples <<< 4) - jitterQ4
    jitterQ4 + (jitterDiffQ4 + 8).sshiftRight 4
  else jitterQ4

/-- The in-order branch of `UpdateStatistics`: count the packet, count a wrap when the
sequence number went down, take it as the new maximum, and run both jitter filters when the
timestamp is new and this is not the first in-order packet. -/
def updateInOrder (rtpTime : UWord32) (r : RTPReceiver) (header : WebRtcRTPHeader) :
    RTPReceiver :=
  let count := r.stats.receivedInorderPacketCount + 1
  let seqDiff : Int := (header.sequenceNumber.toNat : Int) - r.stats.receivedSeqMax.toNat
  let wraps := if seqDiff < 0 then r.stats.receivedSeqWraps + 1 else r.stats.receivedSeqWraps
  let arrival : UWord32 := rtpTime - r.localTimeLastReceivedTimestamp
  let jitters : UWord32 × UWord32 :=
    if header.timestamp ≠ r.lastReceivedTimestamp ∧ 1 < count then
      (updateJitter r.stats.jitterQ4 (arrival - (header.timestamp - r.lastReceivedTimestamp)),
        updateJitter r.stats.jitterQ4TransmissionTimeOffset
          (arrival - ((header.timestamp + header.transmissionTimeOffset) -
            (r.lastReceivedTimestamp + r.lastReceivedTransmissionTimeOffset))))
    else (r.stats.jitterQ4, r.stats.jitterQ4TransmissionTimeOffset)
  { r with
    stats := { r.stats with
      receivedInorderPacketCount := count, receivedSeqWraps := wraps,
      receivedSeqMax := header.sequenceNumber, jitterQ4 := jitters.1,
      jitterQ4TransmissionTimeOffset := jitters.2 }
    localTimeLastReceivedTimestamp := rtpTime }

/-- The smoothed overhead of RFC 5104 §4.2.1.2, `(15 * oh + packet_oh) >> 4`. -/
def smoothOverhead (receivedPacketOh : UWord16) (header : WebRtcRTPHeader) : UWord16 :=
  let packetOh : UWord16 := header.headerLength + header.paddingLength.setWidth 16
  BitVec.ofNat 16 ((15 * receivedPacketOh.toNat + packetOh.toNat) >>> 4)

/-- `received_byte_count_ += bytes`. -/
def countBytes (r : RTPReceiver) (bytes : UWord16) : RTPReceiver :=
  { r with stats.receivedByteCount := r.stats.receivedByteCount + bytes.setWidth 32 }

@[simp] theorem countBytes_receivedSeqMax (r : RTPReceiver) (bytes : UWord16) :
    (r.countBytes bytes).stats.receivedSeqMax = r.stats.receivedSeqMax := rfl

@[simp] theorem countBytes_receivedSeqWraps (r : RTPReceiver) (bytes : UWord16) :
    (r.countBytes bytes).stats.receivedSeqWraps = r.stats.receivedSeqWraps := rfl

@[simp] theorem inOrderPacket_countBytes (r : RTPReceiver) (bytes : UWord16)
    (sequenceNumber : UWord16) :
    (r.countBytes bytes).inOrderPacket sequenceNumber = r.inOrderPacket sequenceNumber := rfl

/-- `RTPReceiver::UpdateStatistics`. The first packet after a reset, recognised by a zero
maximum and wrap count, only starts the sequence; later ones are in order, old
retransmissions, or reordered packets, and all but the first feed the overhead filter. The
bitrate meter is not modelled. -/
def updateStatistics (frequencyHz : UWord32) (env : Env) (r : RTPReceiver)
    (header : WebRtcRTPHeader) (bytes : UWord16) (oldPacket : Bool) : RTPReceiver :=
  let r := r.countBytes bytes
  if r.stats.receivedSeqMax = 0 ∧ r.stats.receivedSeqWraps = 0 then
    { r with
      stats := { r.stats with
        receivedSeqFirst := header.sequenceNumber, receivedSeqMax := header.sequenceNumber,
        receivedInorderPacketCount := 1 }
      localTimeLastReceivedTimestamp := env.currentRTP frequencyHz }
  else
    let r :=
      if r.inOrderPacket header.sequenceNumber then updateInOrder (env.currentRTP frequencyHz) r header
      else if oldPacket then
        { r with stats.receivedOldPacketCount := r.stats.receivedOldPacketCount + 1 }
      else { r with stats.receivedInorderPacketCount := r.stats.receivedInorderPacketCount + 1 }
    { r with receivedPacketOh := smoothOverhead r.receivedPacketOh header }

/-- `UpdateStatistics` writes only the statistics, the overhead estimate and the arrival
timestamp. -/
theorem updateStatistics_eq_with (frequencyHz : UWord32) (env : Env) (r : RTPReceiver)
    (header : WebRtcRTPHeader) (bytes : UWord16) (oldPacket : Bool) :
    r.updateStatistics frequencyHz env header bytes oldPacket =
      { r with
        stats := (r.updateStatistics frequencyHz env header bytes oldPacket).stats
        receivedPacketOh := (r.updateStatistics frequencyHz env header bytes oldPacket).receivedPacketOh
        localTimeLastReceivedTimestamp :=
          (r.updateStatistics frequencyHz env header bytes oldPacket).localTimeLastReceivedTimestamp } := by
  unfold updateStatistics
  dsimp only
  split_ifs <;> rfl

/-- The last block of `IncomingRTPPacket`, run under the lock once the media strategy has
accepted the packet: classify it against the maximum, update the statistics, record the arrival,
and, unless it is an old retransmission, record its timestamp, sequence number and offset. -/
def recordPacket (jitterDelayMs : Nat → Nat → Int) (frequencyHz : UWord32) (env : Env)
    (r : RTPReceiver) (header : WebRtcRTPHeader) (payloadDataLength : UWord16) : RTPReceiver :=
  let oldPacket :=
    r.retransmitOfOldPacket jitterDelayMs frequencyHz env header.sequenceNumber header.timestamp
  let r := { r.updateStatistics frequencyHz env header payloadDataLength oldPacket with
    lastReceiveTime := env.timeInMilliseconds, lastReceivedPayloadLength := payloadDataLength }
  if oldPacket then r
  else
    let r :=
      if r.lastReceivedTimestamp ≠ header.timestamp then
        { r with lastReceivedTimestamp := header.timestamp,
                 lastReceivedFrameTimeMs := env.timeInMilliseconds }
      else r
    { r with lastReceivedSequenceNumber := header.sequenceNumber,
             lastReceivedTransmissionTimeOffset := header.transmissionTimeOffset }

/-- `RTPReceiver::EstimatedRemoteTimeStamp` at the media strategy's clock rate `frequencyHz`: the
last received timestamp advanced by the RTP clock time since `local_time_last_received_timestamp_`
was stamped; `none` (the result `-1`) while it is 0. -/
def estimatedRemoteTimeStamp (r : RTPReceiver) (frequencyHz : UWord32) (env : Env) :
    Option UWord32 :=
  if r.localTimeLastReceivedTimestamp = 0 then none
  else some (r.lastReceivedTimestamp +
    (env.currentRTP frequencyHz - r.localTimeLastReceivedTimestamp))

/-- What `Statistics` writes through its out-parameters. `missing` is written only by a
report with `reset`. -/
structure RtcpStatistics where
  fractionLost : UWord8
  cumLost : UWord32
  extMax : UWord32
  jitter : UWord32
  maxJitter : UWord32
  jitterTransmissionTimeOffset : UWord32
  missing : Option Int
  deriving DecidableEq, Repr

/-- `last_report_seq_max_` as the report uses it: before the first report it is
`received_seq_first_ - 1`, so that the first interval starts at the first packet. -/
def reportSeqMax (s : ReceiveStatistics) : UWord16 :=
  if s.lastReportInorderPackets = 0 then s.receivedSeqFirst - 1 else s.lastReportSeqMax

/-- `exp_since_last`: the 16-bit advance of the maximum since the last report, or 0 when the
maximum is below the last report's. -/
def expSinceLast (s : ReceiveStatistics) : UWord16 :=
  if reportSeqMax s > s.receivedSeqMax then 0 else s.receivedSeqMax - reportSeqMax s

/-- `rec_since_last`: in-order packets since the last report, and with NACK off also the old
ones. -/
def recSinceLast (nackMethod : NACKMethod) (s : ReceiveStatistics) : UWord32 :=
  s.receivedInorderPacketCount - s.lastReportInorderPackets +
    if nackMethod = .kNackOff then s.receivedOldPacketCount - s.lastReportOldPackets else 0

/-- `*missing`: how many expected packets did not arrive, never negative. -/
def missingSinceLast (nackMethod : NACKMethod) (s : ReceiveStatistics) : Nat :=
  (expSinceLast s).toNat - (recSinceLast nackMethod s).toNat

/-- `(received_seq_wraps_ << 16) + received_seq_max_`. -/
def extendedHighSeqNum (s : ReceiveStatistics) : UWord32 :=
  (s.receivedSeqWraps <<< 16) + s.receivedSeqMax.setWidth 32

/-- `RTPReceiver::Statistics`. `none` is the result `-1`: nothing received yet, or no report
made yet when asked for the last one. With `reset` the report is computed and kept. -/
def statistics (r : RTPReceiver) (reset : Bool) : RTPReceiver × Option RtcpStatistics :=
  let s := r.stats
  if s.receivedSeqFirst = 0 ∧ s.receivedByteCount = 0 then (r, none)
  else if ¬reset then
    if s.lastReportInorderPackets = 0 then (r, none)
    else (r, some
      { fractionLost := s.lastReportFractionLost, cumLost := s.lastReportCumulativeLost
        extMax := s.lastReportExtendedHighSeqNum, jitter := s.lastReportJitter
        maxJitter := s.jitterMaxQ4 >>> 4
        jitterTransmissionTimeOffset := s.lastReportJitterTransmissionTimeOffset
        missing := none })
  else
    let expected := expSinceLast s
    let missing := missingSinceLast r.nackMethod s
    let fractionLost : UWord8 :=
      if expected ≠ 0 then BitVec.ofNat 8 (255 * missing / expected.toNat) else 0
    let cumulativeLoss := s.cumulativeLoss + BitVec.ofNat 32 missing
    let jitterMaxQ4 := if s.jitterQ4 > s.jitterMaxQ4 then s.jitterQ4 else s.jitterMaxQ4
    let report : RtcpStatistics :=
      { fractionLost, cumLost := cumulativeLoss, extMax := extendedHighSeqNum s
        jitter := s.jitterQ4 >>> 4, maxJitter := jitterMaxQ4 >>> 4
        jitterTransmissionTimeOffset := s.jitterQ4TransmissionTimeOffset >>> 4
        missing := some missing }
    ({ r with stats := { s with
        cumulativeLoss, jitterMaxQ4
        lastReportFractionLost := fractionLost, lastReportCumulativeLost := cumulativeLoss
        lastReportExtendedHighSeqNum := extendedHighSeqNum s
        lastReportJitter := s.jitterQ4 >>> 4
        lastReportJitterTransmissionTimeOffset := s.jitterQ4TransmissionTimeOffset >>> 4
        lastReportInorderPackets := s.receivedInorderPacketCount
        lastReportOldPackets := s.receivedOldPacketCount
        lastReportSeqMax := s.receivedSeqMax } }, some report)

theorem statistics_fst_eq (r : RTPReceiver) (reset : Bool) :
    (r.statistics reset).1 = { r with stats := (r.statistics reset).1.stats } := by
  simp only [statistics]
  split_ifs <;> rfl

end RTPReceiver

end RtpRtcp

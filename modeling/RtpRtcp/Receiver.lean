import RtpRtcp.PayloadRegistry

/-!
# Receiver state

The members of `RTPReceiver` with their constructor values. The class declaration is not under
src/; field widths follow the spec's data model where it gives one and the arithmetic of
`rtp_receiver.cc` otherwise. The eighteen counters that `ResetStatistics` clears form one
record, so a statistics reset is a single field update.
-/

set_option autoImplicit false

namespace RtpRtcp

/-- The counters cleared by `ResetStatistics`: sequence tracking, jitter, loss, packet and byte
counts, and the snapshot kept from the last report. All start at 0. -/
structure ReceiveStatistics where
  receivedSeqFirst : UWord16 := 0
  receivedSeqMax : UWord16 := 0
  receivedSeqWraps : UWord32 := 0
  receivedByteCount : UWord32 := 0
  receivedOldPacketCount : UWord32 := 0
  receivedInorderPacketCount : UWord32 := 0
  jitterQ4 : UWord32 := 0
  jitterMaxQ4 : UWord32 := 0
  cumulativeLoss : UWord32 := 0
  jitterQ4TransmissionTimeOffset : UWord32 := 0
  lastReportInorderPackets : UWord32 := 0
  lastReportOldPackets : UWord32 := 0
  lastReportSeqMax : UWord16 := 0
  lastReportFractionLost : UWord8 := 0
  lastReportCumulativeLost : UWord32 := 0
  lastReportExtendedHighSeqNum : UWord32 := 0
  lastReportJitter : UWord32 := 0
  lastReportJitterTransmissionTimeOffset : UWord32 := 0
  deriving DecidableEq, Repr

/-- The members of `RTPReceiver`, initialised as its constructor does. The CSRC and energy
arrays have `kRtpCsrcSize` slots of which the first `numCsrcs` and `numEnergy` are live. -/
structure RTPReceiver where
  lastReceiveTime : Int := 0
  lastReceivedPayloadLength : UWord16 := 0
  packetTimeoutMs : UWord32 := 0
  ssrc : UWord32 := 0
  numCsrcs : Fin (kRtpCsrcSize + 1) := 0
  currentRemoteCsrc : Fin kRtpCsrcSize → UWord32 := fun _ => 0
  numEnergy : Fin (kRtpCsrcSize + 1) := 0
  currentRemoteEnergy : Fin kRtpCsrcSize → UWord8 := fun _ => 0
  useSsrcFilter : Bool := false
  ssrcFilter : UWord32 := 0
  stats : ReceiveStatistics := {}
  localTimeLastReceivedTimestamp : UWord32 := 0
  lastReceivedFrameTimeMs : Int := 0
  lastReceivedTimestamp : UWord32 := 0
  lastReceivedSequenceNumber : UWord16 := 0
  lastReceivedTransmissionTimeOffset : Word32 := 0
  receivedPacketOh : UWord16 := 12
  nackMethod : NACKMethod := .kNackOff
  maxReorderingThreshold : Int := kDefaultMaxReorderingThreshold
  rtx : Bool := false
  ssrcRtx : UWord32 := 0

/-- The receiver with the state of its collaborators: the payload registry and the media
strategy's own state. -/
structure Receiver (σ : Type) where
  rtp : RTPReceiver
  registry : RTPPayloadRegistry
  media : σ

namespace RTPReceiver

/-- `RTPReceiver::ResetStatistics`. -/
def resetStatistics (r : RTPReceiver) : RTPReceiver := { r with stats := {} }

/-- `RTPReceiver::ResetDataCounters`. -/
def resetDataCounters (r : RTPReceiver) : RTPReceiver :=
  { r with stats := { r.stats with
      receivedByteCount := 0, receivedOldPacketCount := 0, receivedInorderPacketCount := 0,
      lastReportInorderPackets := 0 } }

/-- `RTPReceiver::DataCounters`: the bytes received, and the packets received, old ones
included. The call always answers 0. -/
def dataCounters (r : RTPReceiver) : UWord32 × UWord32 :=
  (r.stats.receivedByteCount, r.stats.receivedOldPacketCount + r.stats.receivedInorderPacketCount)

/-- `RTPReceiver::HaveNotReceivedPackets`. -/
def haveNotReceivedPackets (r : RTPReceiver) : Bool := r.lastReceiveTime = 0

/-- `RTPReceiver::CSRCs`: the live CSRC entries. -/
def csrcs (r : RTPReceiver) : List UWord32 :=
  (List.ofFn r.currentRemoteCsrc).take r.numCsrcs

/-- `RTPReceiver::Energy`: the count it returns and the entries it copies out, which are as many
as there are live CSRCs, and none when the count is 0. -/
def energy (r : RTPReceiver) : Nat × List UWord8 :=
  (r.numEnergy, if 0 < r.numEnergy.val then (List.ofFn r.currentRemoteEnergy).take r.numCsrcs else [])

/-- `RTPReceiver::SetNACKStatus`: a negative threshold is refused; otherwise the threshold is
kept only for RTCP-based NACK and reset to the default for the other method. -/
def setNACKStatus (r : RTPReceiver) (method : NACKMethod) (maxReorderingThreshold : Int) :
    RTPReceiver × Int :=
  if maxReorderingThreshold < 0 then (r, -1)
  else if method = .kNackRtcp then
    ({ r with maxReorderingThreshold := maxReorderingThreshold, nackMethod := method }, 0)
  else ({ r with maxReorderingThreshold := kDefaultMaxReorderingThreshold, nackMethod := method }, 0)

/-- `RTPReceiver::SetRTXStatus`. -/
def setRTXStatus (r : RTPReceiver) (enable : Bool) (ssrc : UWord32) : RTPReceiver :=
  { r with rtx := enable, ssrcRtx := ssrc }

/-- `RTPReceiver::SetSSRCFilter`. -/
def setSSRCFilter (r : RTPReceiver) (enable : Bool) (allowedSsrc : UWord32) : RTPReceiver :=
  { r with useSsrcFilter := enable, ssrcFilter := if enable then allowedSsrc else 0 }

/-- `RTPReceiver::SetPacketTimeout`. -/
def setPacketTimeout (r : RTPReceiver) (timeoutMs : UWord32) : RTPReceiver :=
  { r with packetTimeoutMs := timeoutMs }

@[simp] theorem resetStatistics_stats (r : RTPReceiver) : r.resetStatistics.stats = {} := rfl

end RTPReceiver

end RtpRtcp

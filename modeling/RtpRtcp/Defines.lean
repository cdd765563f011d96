import Mathlib.Data.BitVec
import Mathlib.Data.List.Basic

/-!
# RTP receive-side vocabulary

Machine words, the parsed packet header, payload descriptors and the callbacks the receiver
makes. Word types are the C types of `rtp_receiver.cc`: unsigned words are `BitVec`s, signed
ones are `BitVec`s read through `BitVec.toInt`, and 64-bit millisecond times are `Int`.
-/

set_option autoImplicit false

namespace RtpRtcp

/-- `WebRtc_UWord8`. -/
abbrev UWord8 := BitVec 8

/-- `WebRtc_UWord16`. -/
abbrev UWord16 := BitVec 16

/-- `WebRtc_UWord32`. -/
abbrev UWord32 := BitVec 32

/-- `WebRtc_Word32`, a two's-complement word read through `BitVec.toInt`. -/
abbrev Word32 := BitVec 32

/-- `kRtpCsrcSize`: an RTP header carries at most 15 contributing sources. -/
def kRtpCsrcSize : Nat := 15

/-- `kDefaultMaxReorderingThreshold`. -/
def kDefaultMaxReorderingThreshold : Int := 50

/-- `kDefaultVideoFrequency`, the 90 kHz RTP clock of video payloads. -/
def kDefaultVideoFrequency : Nat := 90000

inductive NACKMethod where
  | kNackOff
  | kNackRtcp
  deriving DecidableEq, Repr

inductive RTPAliveType where
  | kRtpDead
  | kRtpNoRtp
  | kRtpAlive
  deriving DecidableEq, Repr

/-- The kind `OnReceivedPacket` reports for the first packet of a stream. -/
inductive RtpRtcpPacketType where
  | kPacketRtp
  | kPacketKeepAlive
  deriving DecidableEq, Repr

inductive RtpVideoCodecTypes where
  | kRtpGenericVideo
  | kRtpFecVideo
  | kRtpVp8Video
  deriving DecidableEq, Repr

/-- `ModuleRTPUtility::PayloadUnion`. The constructor records which member is live, so a
descriptor's `audio` flag and its union can never disagree. -/
inductive PayloadUnion where
  | audio (frequency channels rate : Nat)
  | video (videoCodecType : RtpVideoCodecTypes) (maxRate : Nat)
  deriving DecidableEq, Repr

/-- A zero-initialised union (`PayloadUnion specific_payload = {}`) holds its first member. -/
instance : Inhabited PayloadUnion := ⟨.audio 0 0 0⟩

/-- `Video.videoCodecType` read from the union. The receiver reads it only right after storing
a video payload; an audio union reads as the zero codec type. -/
def PayloadUnion.videoCodecType : PayloadUnion → RtpVideoCodecTypes
  | .audio .. => .kRtpGenericVideo
  | .video codecType _ => codecType

/-- `ModuleRTPUtility::Payload`: a registered payload type's name and codec settings. -/
structure Payload where
  name : String
  typeSpecific : PayloadUnion
  deriving DecidableEq, Repr

/-- `payload->audio`. -/
def Payload.audio (payload : Payload) : Bool :=
  match payload.typeSpecific with
  | .audio .. => true
  | .video .. => false

/-- `WebRtcRTPHeader` as the receiver reads it: the fixed header fields, the CSRC list, the
audio energy levels of `type.Audio` and the transmission time offset extension. A parsed
header carries at most `kRtpCsrcSize` CSRCs and energy levels (the 4-bit CC field). -/
structure WebRtcRTPHeader where
  payloadType : Nat
  sequenceNumber : UWord16
  timestamp : UWord32
  ssrc : UWord32
  arrOfCSRCs : List UWord32
  paddingLength : UWord8
  headerLength : UWord16
  arrOfEnergy : List UWord8
  transmissionTimeOffset : Word32
  csrcsBounded : arrOfCSRCs.length ≤ kRtpCsrcSize
  energyBounded : arrOfEnergy.length ≤ kRtpCsrcSize

/-- `header.numCSRCs`. -/
def WebRtcRTPHeader.numCSRCs (header : WebRtcRTPHeader) : Nat := header.arrOfCSRCs.length

/-- `type.Audio.numEnergy`. -/
def WebRtcRTPHeader.numEnergy (header : WebRtcRTPHeader) : Nat := header.arrOfEnergy.length

/-- The host callbacks (`RtpFeedback`), the RTCP notification `SetRemoteSSRC`, in the order
the receiver makes them. -/
inductive Event where
  | onReceivedPacket (packetType : RtpRtcpPacketType)
  | setRemoteSSRC (ssrc : UWord32)
  | onIncomingSSRCChanged (ssrc : UWord32)
  | onInitializeDecoder (payloadType : Nat) (payloadName : String) (frequency channels rate : Nat)
  | onIncomingCSRCChanged (csrc : UWord32) (added : Bool)
  | onPacketTimeout
  | onPeriodicDeadOrAlive (alive : RTPAliveType)
  deriving DecidableEq, Repr

/-- What one call reads from the receiver's surroundings: the clock in milliseconds, the clock
as an RTP timestamp at a given rate (`GetCurrentRTP`), and the minimum round-trip time that
the RTCP module reports (`RTT`). -/
structure Env where
  timeInMilliseconds : Int
  currentRTP : UWord32 → UWord32
  minRtt : UWord16

/-- `memcpy` of a list into the front of a fixed-size array; the rest of the array is kept. -/
def memcpy {α : Type} {n : Nat} (destination : Fin n → α) (source : List α) : Fin n → α :=
  fun index => source.getD index.val (destination index)

theorem ofFn_memcpy_take {α : Type} {n : Nat} (destination : Fin n → α) (source : List α)
    (fits : source.length ≤ n) :
    (List.ofFn (memcpy destination source)).take source.length = source := by
  apply List.ext_getElem
  · simp [fits]
  · intro index inTake inSource
    simp [memcpy, List.getElem?_eq_getElem inSource]

end RtpRtcp

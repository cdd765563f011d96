import RtpRtcp.Defines

/-!
# Collaborators of the receiver

The payload registry and the media strategy. Neither's code is under src/: the registry is
modelled from the spec's description of it as a map with two remembered payload types, and the
media strategy, which differs between audio and video, is a record of the calls the receiver
makes, so every result about the receiver holds for every strategy.
-/

set_option autoImplicit false

namespace RtpRtcp

/-- Modelled from the spec: `RTPPayloadRegistry`, whose code is not under src/. It maps payload
types to descriptors and remembers the RED payload type, the last received payload type and the
last received media payload type (RED excluded); `-1` means none. -/
structure RTPPayloadRegistry where
  payloadTypeMap : List (Nat × Payload) := []
  redPayloadType : Int := -1
  lastReceivedPayloadType : Int := -1
  lastReceivedMediaPayloadType : Int := -1
  deriving DecidableEq, Repr

namespace RTPPayloadRegistry

/-- Modelled from the spec: `PayloadTypeToPayload`, the descriptor bound to a payload type. -/
def payloadTypeToPayload (registry : RTPPayloadRegistry) (payloadType : Nat) : Option Payload :=
  registry.payloadTypeMap.lookup payloadType

/-- Modelled from the spec: `ReportMediaPayloadType` records the media payload type and answers
whether it is unchanged. -/
def reportMediaPayloadType (registry : RTPPayloadRegistry) (payloadType : Nat) :
    RTPPayloadRegistry × Bool :=
  if registry.lastReceivedMediaPayloadType = payloadType then (registry, true)
  else ({ registry with lastReceivedMediaPayloadType := payloadType }, false)

/-- Modelled from the spec: `ResetLastReceivedPayloadTypes` forgets both remembered types. -/
def resetLastReceivedPayloadTypes (registry : RTPPayloadRegistry) : RTPPayloadRegistry :=
  { registry with lastReceivedPayloadType := -1, lastReceivedMediaPayloadType := -1 }

/-- Modelled from the spec: `RegisterReceivePayload` binds a free payload type to a new
descriptor and reports that it created one; the name `red` makes it the RED type. A payload
type that is already bound is refused with `-1`. -/
def registerReceivePayload (registry : RTPPayloadRegistry) (payloadName : String)
    (payloadType : Nat) (typeSpecific : PayloadUnion) : RTPPayloadRegistry × Int × Bool :=
  if (registry.payloadTypeToPayload payloadType).isSome then (registry, -1, false)
  else if payloadName = "red" then
    ({ registry with
        payloadTypeMap := (payloadType, ⟨payloadName, typeSpecific⟩) :: registry.payloadTypeMap
        redPayloadType := payloadType }, 0, false)
  else
    ({ registry with
        payloadTypeMap := (payloadType, ⟨payloadName, typeSpecific⟩) :: registry.payloadTypeMap },
      0, true)

/-- Modelled from the spec: `DeRegisterReceivePayload` removes a binding; `-1` if there was none.
The remembered payload types are left as they are. -/
def deRegisterReceivePayload (registry : RTPPayloadRegistry) (payloadType : Nat) :
    RTPPayloadRegistry × Int :=
  if (registry.payloadTypeToPayload payloadType).isSome then
    ({ registry with
        payloadTypeMap := registry.payloadTypeMap.filter (fun entry => entry.1 != payloadType) }, 0)
  else (registry, -1)

end RTPPayloadRegistry

/-- The media-specific receiver (`RTPReceiverStrategy`, audio or video) as the receiver calls it;
`σ` is its own state. `checkPayloadChanged` answers the new media-specific payload and the flags
`should_reset_statistics` and `should_discard_changes`; `invokeOnInitializeDecoder` answers the
frequency, channel count and rate it passes to `OnInitializeDecoder`, and its result;
`parseRtpPacket` answers its result code. -/
structure RTPReceiverStrategy (σ : Type) where
  getFrequencyHz : σ → UWord32
  getLastMediaSpecificPayload : σ → PayloadUnion
  setLastMediaSpecificPayload : σ → PayloadUnion → σ
  checkPayloadChanged : σ → Nat → PayloadUnion → σ × PayloadUnion × Bool × Bool
  invokeOnInitializeDecoder : σ → Nat → String → PayloadUnion → (Nat × Nat × Nat) × Int
  parseRtpPacket : σ → WebRtcRTPHeader → PayloadUnion → Bool → List UWord8 → UWord16 → Int →
    Bool → σ × Int
  shouldReportCsrcChanges : σ → Nat → Bool
  processDeadOrAlive : σ → UWord16 → RTPAliveType
  onNewPayloadTypeCreated : σ → String → Nat → UWord32 → σ × Int

/-- What the receiver is built with besides its own state: the media strategy, the
single-precision part of `RetransmitOfOldPacket`,
`static_cast<WebRtc_Word32>((2 * sqrt(float(jitter))) / frequency_khz)`, as a function of the
jitter in samples and the frequency in kHz, and the registry's payload factory. -/
structure Context (σ : Type) where
  strategy : RTPReceiverStrategy σ
  jitterDelayMs : Nat → Nat → Int
  /-- The audio or video descriptor the registry creates for a name, payload type, frequency,
  channel count and rate. -/
  createPayloadType : String → Nat → UWord32 → UWord8 → UWord32 → PayloadUnion

end RtpRtcp

import RtpRtcp.Statistics

/-!
# Packet ingress

`IncomingRTPPacket` and the identity checks it runs before the statistics update: SSRC change,
payload change and CSRC change. The receiver's public calls are collected into one step
function, and a run of calls is a fold that accumulates the callbacks.
-/

set_option autoImplicit false

namespace RtpRtcp

/-- Modelled from the spec: `ModuleRTPUtility::GetPayloadDataLength`, the body length
`packet_length - padding_length - header_length` as a 16-bit value. -/
def getPayloadDataLength (header : WebRtcRTPHeader) (packetLength : UWord16) : UWord16 :=
  packetLength - header.paddingLength.setWidth 16 - header.headerLength

/-- The `OnInitializeDecoder` call of `CheckSSRCChanged` for a registered payload: audio
payloads pass their own settings, video ones the default video clock. -/
def initializeDecoderEvent (payloadType : Nat) (payload : Payload) : Event :=
  match payload.typeSpecific with
  | .audio frequency channels rate => .onInitializeDecoder payloadType payload.name frequency channels rate
  | .video .. => .onInitializeDecoder payloadType payload.name kDefaultVideoFrequency 1 0

/-- The two loops of `CheckCSRC`: every new nonzero CSRC missing from the old list is reported
added, every old nonzero CSRC missing from the new list removed; when neither loop reports
anything, a change in the count is reported on CSRC 0. -/
def csrcChangedEvents (newCsrcs oldCsrcs : List UWord32) (numCsrcsDiff : Int) : List Event :=
  let added := newCsrcs.filter (fun csrc => csrc ∉ oldCsrcs ∧ csrc ≠ 0)
  let removed := oldCsrcs.filter (fun csrc => csrc ∉ newCsrcs ∧ csrc ≠ 0)
  if added = [] ∧ removed = [] then
    if numCsrcsDiff > 0 then [.onIncomingCSRCChanged 0 true]
    else if numCsrcsDiff < 0 then [.onIncomingCSRCChanged 0 false]
    else []
  else added.map (.onIncomingCSRCChanged · true) ++ removed.map (.onIncomingCSRCChanged · false)

/-- What `CheckPayloadChanged` answers besides the state: its result, `is_red` and the
media-specific payload. -/
structure PayloadCheck where
  result : Int
  isRed : Bool
  specificPayload : PayloadUnion

/-- What `IncomingRTPPacket` ends with: the state, the callbacks in the order they were made,
the buffer indices it read, and its result. -/
structure Ingress (σ : Type) where
  receiver : Receiver σ
  events : List Event
  reads : List Nat
  result : Int

namespace Receiver

variable {σ : Type}

/-- `RTPReceiver::CheckSSRCChanged`. A new SSRC, or a first packet with no payload type seen,
resets the statistics and the last received values. When a known stream restarts with the
same payload type the decoder is re-initialised, except that an unregistered payload type
returns at once, before the new SSRC is stored or any callback is made. -/
def checkSSRCChanged (s : Receiver σ) (header : WebRtcRTPHeader) : Receiver σ × List Event :=
  let lastReceivedPayloadType := s.registry.lastReceivedPayloadType
  if s.rtp.ssrc ≠ header.ssrc ∨ (lastReceivedPayloadType = -1 ∧ s.rtp.ssrc = 0) then
    let cleared : RTPReceiver := { s.rtp.resetStatistics with
      lastReceivedTimestamp := 0, lastReceivedSequenceNumber := 0,
      lastReceivedTransmissionTimeOffset := 0, lastReceivedFrameTimeMs := 0 }
    let changed := [Event.setRemoteSSRC header.ssrc, .onIncomingSSRCChanged header.ssrc]
    if s.rtp.ssrc ≠ 0 ∧ (header.payloadType : Int) = lastReceivedPayloadType then
      match s.registry.payloadTypeToPayload header.payloadType with
      | none => ({ s with rtp := cleared }, [])
      | some payload =>
        ({ s with rtp := { cleared with ssrc := header.ssrc } },
          changed ++ [initializeDecoderEvent header.payloadType payload])
    else ({ s with rtp := { cleared with ssrc := header.ssrc } }, changed)
  else (s, [])

/-- The part of `CheckPayloadChanged` after the RED unwrapping, for the media payload type:
ask the strategy, look the payload up, bind it, and re-initialise the decoder unless this is
video whose media type is unchanged or FEC. -/
def changePayload (strategy : RTPReceiverStrategy σ) (s : Receiver σ) (payloadType : Nat)
    (isRed : Bool) : Receiver σ × List Event × PayloadCheck :=
  let (media, specific, shouldResetStatistics, shouldDiscardChanges) :=
    strategy.checkPayloadChanged s.media payloadType default
  let rtp := if shouldResetStatistics then s.rtp.resetStatistics else s.rtp
  if shouldDiscardChanges then ({ s with rtp, media }, [], ⟨0, false, specific⟩)
  else
    match s.registry.payloadTypeToPayload payloadType with
    | none => ({ s with rtp, media }, [], ⟨-1, isRed, specific⟩)
    | some payload =>
      let registry := { s.registry with lastReceivedPayloadType := payloadType }
      let media := strategy.setLastMediaSpecificPayload media payload.typeSpecific
      let specific := strategy.getLastMediaSpecificPayload media
      -- Video other than FEC asks the registry whether the media payload type changed.
      let reportsMediaType := !payload.audio && specific.videoCodecType != .kRtpFecVideo
      let report := registry.reportMediaPayloadType payloadType
      let registry := if reportsMediaType then report.1 else registry
      let reInitializeDecoder := payload.audio || (reportsMediaType && !report.2)
      let rtp := if reInitializeDecoder then rtp.resetStatistics else rtp
      if reInitializeDecoder then
        let ((frequency, channels, rate), result) :=
          strategy.invokeOnInitializeDecoder media payloadType payload.name specific
        (⟨rtp, registry, media⟩, [.onInitializeDecoder payloadType payload.name frequency channels rate],
          ⟨if result = -1 then -1 else 0, isRed, specific⟩)
      else (⟨rtp, registry, media⟩, [], ⟨0, isRed, specific⟩)

/-- `RTPReceiver::CheckPayloadChanged`. A RED packet is judged by the payload type in the low
seven bits of its first payload byte; RED inside RED is refused. -/
def checkPayloadChanged (strategy : RTPReceiverStrategy σ) (s : Receiver σ)
    (header : WebRtcRTPHeader) (firstPayloadByte : UWord8) : Receiver σ × List Event × PayloadCheck :=
  let lastReceivedPayloadType := s.registry.lastReceivedPayloadType
  if (header.payloadType : Int) ≠ lastReceivedPayloadType then
    if s.registry.redPayloadType = header.payloadType then
      let payloadType := firstPayloadByte.toNat % 0x80
      if s.registry.redPayloadType = payloadType then (s, [], ⟨-1, true, default⟩)
      else if (payloadType : Int) = lastReceivedPayloadType then
        (s, [], ⟨0, true, strategy.getLastMediaSpecificPayload s.media⟩)
      else changePayload strategy s payloadType true
    else changePayload strategy s header.payloadType false
  else (s, [], ⟨0, false, strategy.getLastMediaSpecificPayload s.media⟩)

/-- `RTPReceiver::CheckCSRC`. Unless the strategy declines, store the energy levels and the new
CSRC list and report the differences from the old list. The energy count is stored even when
the CSRC lists are both empty. -/
def checkCSRC (strategy : RTPReceiverStrategy σ) (s : Receiver σ) (header : WebRtcRTPHeader) :
    Receiver σ × List Event :=
  if ¬strategy.shouldReportCsrcChanges s.media header.payloadType then (s, [])
  else
    let withEnergy : RTPReceiver := { s.rtp with
      numEnergy := ⟨header.numEnergy, Nat.lt_succ_of_le header.energyBounded⟩
      currentRemoteEnergy :=
        if 0 < header.numEnergy then memcpy s.rtp.currentRemoteEnergy header.arrOfEnergy
        else s.rtp.currentRemoteEnergy }
    let oldCsrcs := s.rtp.csrcs
    if 0 < header.numCSRCs ∨ 0 < s.rtp.numCsrcs.val then
      ({ s with rtp := { withEnergy with
          numCsrcs := ⟨header.numCSRCs, Nat.lt_succ_of_le header.csrcsBounded⟩
          currentRemoteCsrc :=
            if 0 < header.numCSRCs then memcpy s.rtp.currentRemoteCsrc header.arrOfCSRCs
            else s.rtp.currentRemoteCsrc } },
        csrcChangedEvents header.arrOfCSRCs oldCsrcs (header.numCSRCs - s.rtp.numCsrcs.val))
    else ({ s with rtp := withEnergy }, [])

/-- The RTX step of `IncomingRTPPacket`: a packet on the RTX SSRC carries the original sequence
number in its first two payload bytes, and its header is rewritten to the media SSRC with a
header two bytes longer. Answers the header and the indices read. -/
def unwrapRtx (r : RTPReceiver) (header : WebRtcRTPHeader) (packet : List UWord8) :
    WebRtcRTPHeader × List Nat :=
  if r.rtx ∧ r.ssrcRtx = header.ssrc then
    let offset := header.headerLength.toNat
    ({ header with
        ssrc := r.ssrc
        sequenceNumber :=
          BitVec.ofNat 16 (((packet.getD offset 0).toNat <<< 8) + (packet.getD (1 + offset) 0).toNat)
        headerLength := header.headerLength + 2 },
      [offset, 1 + offset])
  else (header, [])

/-- `IncomingRTPPacket` from the first-packet notification on, for a packet that passed the
length, RTX and SSRC-filter checks; `length` is `packet_length - paddingLength`. -/
def processPacket (ctx : Context σ) (env : Env) (s : Receiver σ) (header : WebRtcRTPHeader)
    (packet : List UWord8) (packetLength : UWord16) (length : Int) (reads : List Nat) :
    Ingress σ :=
  let bodyLength := length - header.headerLength.toNat
  let received : List Event :=
    if s.rtp.lastReceiveTime = 0 then
      [.onReceivedPacket (if bodyLength = 0 then .kPacketKeepAlive else .kPacketRtp)]
    else []
  let firstPayloadByte : UWord8 := if 0 < length then packet.getD header.headerLength.toNat 0 else 0
  let reads := reads ++ if 0 < length then [header.headerLength.toNat] else []
  let (s, ssrcEvents) := s.checkSSRCChanged header
  let (s, payloadEvents, check) := s.checkPayloadChanged ctx.strategy header firstPayloadByte
  let events := received ++ ssrcEvents ++ payloadEvents
  if check.result = -1 then ⟨s, events, reads, if bodyLength = 0 then 0 else -1⟩
  else
    let (s, csrcEvents) := s.checkCSRC ctx.strategy header
    let events := events ++ csrcEvents
    let payloadDataLength := getPayloadDataLength header packetLength
    let isFirstPacketInFrame :=
      s.rtp.lastReceivedSequenceNumber.toNat + 1 = header.sequenceNumber.toNat ∧
        s.rtp.lastReceivedTimestamp ≠ header.timestamp
    let isFirstPacket := isFirstPacketInFrame ∨ s.rtp.haveNotReceivedPackets
    let (media, retVal) := ctx.strategy.parseRtpPacket s.media header check.specificPayload
      check.isRed packet packetLength env.timeInMilliseconds isFirstPacket
    if retVal < 0 then ⟨{ s with media }, events, reads, retVal⟩
    else
      let frequencyHz := ctx.strategy.getFrequencyHz media
      ⟨{ s with
          rtp := s.rtp.recordPacket ctx.jitterDelayMs frequencyHz env header payloadDataLength
          media }, events, reads, retVal⟩

/-- `RTPReceiver::IncomingRTPPacket`. A packet whose padding and header exceed its length, an
RTX packet too short for the original sequence number, and a packet refused by the SSRC filter
are rejected before anything else happens. -/
def incomingRTPPacket (ctx : Context σ) (env : Env) (s : Receiver σ) (header : WebRtcRTPHeader)
    (packet : List UWord8) (packetLength : UWord16) : Ingress σ :=
  let length : Int := packetLength.toNat - header.paddingLength.toNat
  if length - header.headerLength.toNat < 0 then ⟨s, [], [], -1⟩
  else if s.rtp.rtx ∧ s.rtp.ssrcRtx = header.ssrc ∧
      header.headerLength.toNat + 2 > packetLength.toNat then ⟨s, [], [], -1⟩
  else
    let (header, reads) := unwrapRtx s.rtp header packet
    if s.rtp.useSsrcFilter ∧ header.ssrc ≠ s.rtp.ssrcFilter then ⟨s, [], reads, -1⟩
    else processPacket ctx env s header packet packetLength length reads

/-- `RTPReceiver::PacketTimeout`: after `packet_timeout_ms_` of silence, forget the arrival time
and the payload types, once, and report the timeout. -/
def packetTimeout (env : Env) (s : Receiver σ) : Receiver σ × List Event :=
  if s.rtp.packetTimeoutMs = 0 ∨ s.rtp.haveNotReceivedPackets then (s, [])
  else if env.timeInMilliseconds - s.rtp.lastReceiveTime > s.rtp.packetTimeoutMs.toNat then
    ({ s with rtp := { s.rtp with lastReceiveTime := 0 }
              registry := s.registry.resetLastReceivedPayloadTypes }, [.onPacketTimeout])
  else (s, [])

/-- `RTPReceiver::ProcessDeadOrAlive`: alive after a packet in the last second, otherwise the
strategy decides when RTCP is alive, and dead when it is not. -/
def processDeadOrAlive (strategy : RTPReceiverStrategy σ) (s : Receiver σ) (rtcpAlive : Bool)
    (now : Int) : List Event :=
  let alive :=
    if s.rtp.lastReceiveTime + 1000 > now then .kRtpAlive
    else if rtcpAlive then strategy.processDeadOrAlive s.media s.rtp.lastReceivedPayloadLength
    else .kRtpDead
  [.onPeriodicDeadOrAlive alive]

/-- `RTPReceiver::RegisterReceivePayload`: register with the registry, then tell the strategy
about a newly created payload type; a strategy failure is reported as `-1`. -/
def registerReceivePayload (ctx : Context σ) (s : Receiver σ) (payloadName : String)
    (payloadType : Nat) (frequency : UWord32) (channels : UWord8) (rate : UWord32) :
    Receiver σ × Int :=
  let (registry, result, createdNewPayload) := s.registry.registerReceivePayload payloadName
    payloadType (ctx.createPayloadType payloadName payloadType frequency channels rate)
  if createdNewPayload then
    let (media, created) := ctx.strategy.onNewPayloadTypeCreated s.media payloadName payloadType frequency
    ({ s with registry, media }, if created ≠ 0 then -1 else result)
  else ({ s with registry }, result)

/-- `RTPReceiver::~RTPReceiver`: every live CSRC is reported removed. -/
def destructor (s : Receiver σ) : List Event :=
  s.rtp.csrcs.map (.onIncomingCSRCChanged · false)

end Receiver

/-- The receiver's calls that change its state or make callbacks. -/
inductive Call where
  | incomingRTPPacket (header : WebRtcRTPHeader) (packet : List UWord8) (packetLength : UWord16)
  | statistics (reset : Bool)
  | resetStatistics
  | resetDataCounters
  | packetTimeout
  | processDeadOrAlive (rtcpAlive : Bool) (now : Int)
  | setNACKStatus (method : NACKMethod) (maxReorderingThreshold : Int)
  | setRTXStatus (enable : Bool) (ssrc : UWord32)
  | setSSRCFilter (enable : Bool) (allowedSsrc : UWord32)
  | setPacketTimeout (timeoutMs : UWord32)
  | registerReceivePayload (payloadName : String) (payloadType : Nat) (frequency : UWord32)
      (channels : UWord8) (rate : UWord32)
  | deRegisterReceivePayload (payloadType : Nat)

namespace Receiver

variable {σ : Type}

/-- A freshly constructed receiver over a strategy in state `media`. -/
def init (media : σ) : Receiver σ := ⟨{}, {}, media⟩

/-- One call on the receiver: its new state and the callbacks it made. -/
def step (ctx : Context σ) (env : Env) (s : Receiver σ) : Call → Receiver σ × List Event
  | .incomingRTPPacket header packet packetLength =>
    let ingress := s.incomingRTPPacket ctx env header packet packetLength
    (ingress.receiver, ingress.events)
  | .statistics reset => ({ s with rtp := (s.rtp.statistics reset).1 }, [])
  | .resetStatistics => ({ s with rtp := s.rtp.resetStatistics }, [])
  | .resetDataCounters => ({ s with rtp := s.rtp.resetDataCounters }, [])
  | .packetTimeout => s.packetTimeout env
  | .processDeadOrAlive rtcpAlive now => (s, s.processDeadOrAlive ctx.strategy rtcpAlive now)
  | .setNACKStatus method threshold => ({ s with rtp := (s.rtp.setNACKStatus method threshold).1 }, [])
  | .setRTXStatus enable ssrc => ({ s with rtp := s.rtp.setRTXStatus enable ssrc }, [])
  | .setSSRCFilter enable ssrc => ({ s with rtp := s.rtp.setSSRCFilter enable ssrc }, [])
  | .setPacketTimeout timeoutMs => ({ s with rtp := s.rtp.setPacketTimeout timeoutMs }, [])
  | .registerReceivePayload payloadName payloadType frequency channels rate =>
    ((s.registerReceivePayload ctx payloadName payloadType frequency channels rate).1, [])
  | .deRegisterReceivePayload payloadType =>
    ({ s with registry := (s.registry.deRegisterReceivePayload payloadType).1 }, [])

/-- A run of calls, each with the surroundings it reads: the final state and every callback. -/
def run (ctx : Context σ) (s : Receiver σ) : List (Env × Call) → Receiver σ × List Event
  | [] => (s, [])
  | (env, call) :: calls =>
    let (next, events) := s.step ctx env call
    let (final, later) := next.run ctx calls
    (final, events ++ later)

/-- The states a receiver reaches from construction. -/
def Reachable (ctx : Context σ) (s : Receiver σ) : Prop :=
  ∃ media calls, ((init media).run ctx calls).1 = s

end Receiver

end RtpRtcp

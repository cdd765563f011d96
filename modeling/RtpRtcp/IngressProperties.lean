import RtpRtcp.Ingress

/-!
# Refused packets

What `IncomingRTPPacket` leaves behind when it refuses a packet: nothing for a refusal by the
length, RTX or SSRC-filter check, and the work of the checks that ran for a later refusal. A
refused packet is never counted.
-/

set_option autoImplicit false

namespace RtpRtcp

/-- `after` records no arrival beyond `before`: the arrival time, payload length, overhead
estimate and arrival timestamp are unchanged, and the statistics are unchanged or reset. -/
structure Uncounted (before after : RTPReceiver) : Prop where
  lastReceiveTime : after.lastReceiveTime = before.lastReceiveTime
  lastReceivedPayloadLength : after.lastReceivedPayloadLength = before.lastReceivedPayloadLength
  receivedPacketOh : after.receivedPacketOh = before.receivedPacketOh
  localTimeLastReceivedTimestamp :
    after.localTimeLastReceivedTimestamp = before.localTimeLastReceivedTimestamp
  stats : after.stats = before.stats ∨ after.stats = {}

namespace Uncounted

theorem refl (r : RTPReceiver) : Uncounted r r := ⟨rfl, rfl, rfl, rfl, .inl rfl⟩

theorem resetStatistics (r : RTPReceiver) : Uncounted r r.resetStatistics :=
  ⟨rfl, rfl, rfl, rfl, .inr rfl⟩

theorem of_eq_or_reset {before after : RTPReceiver}
    (changed : after = before ∨ after = before.resetStatistics) : Uncounted before after := by
  rcases changed with rfl | rfl
  · exact .refl _
  · exact .resetStatistics _

theorem trans {first middle last : RTPReceiver} (before : Uncounted first middle)
    (after : Uncounted middle last) : Uncounted first last where
  lastReceiveTime := after.lastReceiveTime.trans before.lastReceiveTime
  lastReceivedPayloadLength := after.lastReceivedPayloadLength.trans before.lastReceivedPayloadLength
  receivedPacketOh := after.receivedPacketOh.trans before.receivedPacketOh
  localTimeLastReceivedTimestamp :=
    after.localTimeLastReceivedTimestamp.trans before.localTimeLastReceivedTimestamp
  stats := by
    rcases after.stats with same | reset
    · rw [same]; exact before.stats
    · exact .inr reset

end Uncounted

/-- A receiver that accepts every packet, used to exhibit runs: a video strategy at 90 kHz whose
own state is the last media payload, that never asks for a reset or a discard, reports CSRC
changes and parses and initialises decoders successfully. Its jitter delay is
`(int)(2 * sqrtf(jitter) / frequency_khz)` evaluated over the reals, `⌊√(4 * jitter)⌋ / kHz`. -/
def acceptingVideo : Context PayloadUnion where
  strategy :=
    { getFrequencyHz := fun _ => 90000
      getLastMediaSpecificPayload := id
      setLastMediaSpecificPayload := fun _ payload => payload
      checkPayloadChanged := fun media _ specific => (media, specific, false, false)
      invokeOnInitializeDecoder := fun _ _ _ _ => ((kDefaultVideoFrequency, 1, 0), 0)
      parseRtpPacket := fun media _ _ _ _ _ _ _ => (media, 0)
      shouldReportCsrcChanges := fun _ _ => true
      processDeadOrAlive := fun _ _ => .kRtpDead
      onNewPayloadTypeCreated := fun media _ _ _ => (media, 0) }
  jitterDelayMs := fun jitter frequencyKhz => (Nat.sqrt (4 * jitter) / frequencyKhz : Nat)
  createPayloadType := fun _ _ _ _ rate => .video .kRtpVp8Video rate.toNat

/-- A 12-byte-header VP8 packet (payload type 96) with the given SSRC, sequence number and CSRCs. -/
def vp8Header (ssrc : UWord32) (sequenceNumber : UWord16) (csrcs : List UWord32 := [])
    (bounded : csrcs.length ≤ kRtpCsrcSize := by decide) : WebRtcRTPHeader :=
  { payloadType := 96, sequenceNumber, timestamp := 3000, ssrc, arrOfCSRCs := csrcs
    paddingLength := 0, headerLength := 12, arrOfEnergy := [], transmissionTimeOffset := 0
    csrcsBounded := bounded, energyBounded := by decide }

/-- The surroundings at a clock reading, with no RTT estimate. -/
def clockAt (timeInMilliseconds : Int) : Env :=
  { timeInMilliseconds, currentRTP := fun _ => 0, minRtt := 0 }

/-- The first payload byte `IncomingRTPPacket` hands to `CheckPayloadChanged`: the byte after the
RTX-rewritten header, or 0 when nothing but padding follows the fixed header. -/
def firstPayloadByte (r : RTPReceiver) (header : WebRtcRTPHeader) (packet : List UWord8)
    (packetLength : UWord16) : UWord8 :=
  if 0 < (packetLength.toNat - header.paddingLength.toNat : Int) then
    packet.getD (Receiver.unwrapRtx r header packet).1.headerLength.toNat 0
  else 0

namespace Receiver

variable {σ : Type}

/-- The length, RTX and SSRC-filter checks of `IncomingRTPPacket` all pass. -/
def Admitted (r : RTPReceiver) (header : WebRtcRTPHeader) (packet : List UWord8)
    (packetLength : UWord16) : Prop :=
  0 ≤ (packetLength.toNat : Int) - header.paddingLength.toNat - header.headerLength.toNat ∧
  ¬(r.rtx ∧ r.ssrcRtx = header.ssrc ∧ header.headerLength.toNat + 2 > packetLength.toNat) ∧
  ¬(r.useSsrcFilter ∧ (unwrapRtx r header packet).1.ssrc ≠ r.ssrcFilter)

theorem incomingRTPPacket_of_not_admitted (ctx : Context σ) (env : Env) (s : Receiver σ)
    (header : WebRtcRTPHeader) (packet : List UWord8) (packetLength : UWord16)
    (refused : ¬Admitted s.rtp header packet packetLength) :
    (s.incomingRTPPacket ctx env header packet packetLength).receiver = s ∧
      (s.incomingRTPPacket ctx env header packet packetLength).events = [] ∧
      (s.incomingRTPPacket ctx env header packet packetLength).result = -1 := by
  unfold Admitted at refused
  unfold incomingRTPPacket
  dsimp only
  split_ifs with length rtx filter
  · exact ⟨rfl, rfl, rfl⟩
  · exact ⟨rfl, rfl, rfl⟩
  · exact ⟨rfl, rfl, rfl⟩
  · exact absurd ⟨by omega, rtx, filter⟩ refused

theorem incomingRTPPacket_of_admitted (ctx : Context σ) (env : Env) (s : Receiver σ)
    (header : WebRtcRTPHeader) (packet : List UWord8) (packetLength : UWord16)
    (admitted : Admitted s.rtp header packet packetLength) :
    s.incomingRTPPacket ctx env header packet packetLength =
      processPacket ctx env s (unwrapRtx s.rtp header packet).1 packet packetLength
        (packetLength.toNat - header.paddingLength.toNat) (unwrapRtx s.rtp header packet).2 := by
  obtain ⟨length, rtx, filter⟩ := admitted
  unfold incomingRTPPacket
  dsimp only
  rw [if_neg (by omega), if_neg rtx, if_neg filter]

theorem checkSSRCChanged_uncounted (s : Receiver σ) (header : WebRtcRTPHeader) :
    Uncounted s.rtp (s.checkSSRCChanged header).1.rtp := by
  unfold checkSSRCChanged
  dsimp only
  split_ifs
  · split <;> exact ⟨rfl, rfl, rfl, rfl, .inr rfl⟩
  · exact ⟨rfl, rfl, rfl, rfl, .inr rfl⟩
  · exact .refl _

theorem changePayload_rtp (strategy : RTPReceiverStrategy σ) (s : Receiver σ)
    (payloadType : Nat) (isRed : Bool) :
    (s.changePayload strategy payloadType isRed).1.rtp = s.rtp ∨
      (s.changePayload strategy payloadType isRed).1.rtp = s.rtp.resetStatistics := by
  unfold changePayload
  repeat' split
  all_goals (dsimp only; try split_ifs) <;> simp [RTPReceiver.resetStatistics]

theorem checkPayloadChanged_rtp (strategy : RTPReceiverStrategy σ) (s : Receiver σ)
    (header : WebRtcRTPHeader) (firstPayloadByte : UWord8) :
    (s.checkPayloadChanged strategy header firstPayloadByte).1.rtp = s.rtp ∨
      (s.checkPayloadChanged strategy header firstPayloadByte).1.rtp = s.rtp.resetStatistics := by
  unfold checkPayloadChanged
  dsimp only
  split_ifs <;> first | exact .inl rfl | exact changePayload_rtp ..

theorem checkCSRC_uncounted (strategy : RTPReceiverStrategy σ) (s : Receiver σ)
    (header : WebRtcRTPHeader) : Uncounted s.rtp (s.checkCSRC strategy header).1.rtp := by
  unfold checkCSRC
  dsimp only
  split_ifs <;> first | exact .refl _ | exact ⟨rfl, rfl, rfl, rfl, .inl rfl⟩

theorem processPacket_uncounted_or_recorded (ctx : Context σ) (env : Env) (s : Receiver σ)
    (header : WebRtcRTPHeader) (packet : List UWord8) (packetLength : UWord16) (length : Int)
    (reads : List Nat) :
    Uncounted s.rtp (processPacket ctx env s header packet packetLength length reads).receiver.rtp ∧
        ((processPacket ctx env s header packet packetLength length reads).result < 0 ∨
          (processPacket ctx env s header packet packetLength length reads).result = 0 ∧
            length - header.headerLength.toNat = 0) ∨
      ∃ (checked : RTPReceiver) (frequencyHz : UWord32), Uncounted s.rtp checked ∧
        0 ≤ (processPacket ctx env s header packet packetLength length reads).result ∧
        (processPacket ctx env s header packet packetLength length reads).receiver.rtp =
          checked.recordPacket ctx.jitterDelayMs frequencyHz env header
            (getPayloadDataLength header packetLength) := by
  unfold processPacket
  rcases ssrcChecked : s.checkSSRCChanged header with ⟨s₁, ssrcEvents⟩
  have first : Uncounted s.rtp s₁.rtp := by
    simpa only [ssrcChecked] using checkSSRCChanged_uncounted s header
  rcases payloadChecked : s₁.checkPayloadChanged ctx.strategy header
      (if 0 < length then packet.getD header.headerLength.toNat 0 else 0) with ⟨s₂, payloadEvents, check⟩
  have second : Uncounted s₁.rtp s₂.rtp := .of_eq_or_reset (by
    simpa only [payloadChecked] using checkPayloadChanged_rtp ctx.strategy s₁ header
      (if 0 < length then packet.getD header.headerLength.toNat 0 else 0))
  rcases csrcChecked : s₂.checkCSRC ctx.strategy header with ⟨s₃, csrcEvents⟩
  have third : Uncounted s₂.rtp s₃.rtp := by
    simpa only [csrcChecked] using checkCSRC_uncounted ctx.strategy s₂ header
  simp only [ssrcChecked, payloadChecked, csrcChecked]
  by_cases refused : check.result = -1
  · simp only [refused, ↓reduceIte]
    refine .inl ⟨first.trans second, ?_⟩
    split_ifs with keepAlive
    · exact .inr ⟨rfl, keepAlive⟩
    · exact .inl (by decide)
  · simp only [refused, ↓reduceIte]
    split
    · next rejected => exact .inl ⟨(first.trans second).trans third, .inl rejected⟩
    · next accepted =>
      exact .inr ⟨s₃.rtp, _, (first.trans second).trans third, Int.not_lt.1 accepted, rfl⟩

/-- A property of the receiver's own state that holds after `CheckSSRCChanged` and that the
payload check, the CSRC check and the recording of the packet each keep holds after
`processPacket`. -/
theorem processPacket_keeps (P : RTPReceiver → Prop) (ctx : Context σ) (env : Env) (s : Receiver σ)
    (header : WebRtcRTPHeader) (packet : List UWord8) (packetLength : UWord16) (length : Int)
    (reads : List Nat) (ssrcChecked : P (s.checkSSRCChanged header).1.rtp)
    (payload : ∀ (s : Receiver σ) (firstPayloadByte : UWord8), P s.rtp →
      P (s.checkPayloadChanged ctx.strategy header firstPayloadByte).1.rtp)
    (csrc : ∀ s : Receiver σ, P s.rtp → P (s.checkCSRC ctx.strategy header).1.rtp)
    (record : ∀ (r : RTPReceiver) (frequencyHz : UWord32), P r →
      P (r.recordPacket ctx.jitterDelayMs frequencyHz env header
        (getPayloadDataLength header packetLength))) :
    P (processPacket ctx env s header packet packetLength length reads).receiver.rtp := by
  unfold processPacket
  rcases ssrcEq : s.checkSSRCChanged header with ⟨s₁, ssrcEvents⟩
  rw [ssrcEq] at ssrcChecked
  have payloadChecked := payload s₁
    (if 0 < length then packet.getD header.headerLength.toNat 0 else 0) ssrcChecked
  rcases payloadEq : s₁.checkPayloadChanged ctx.strategy header
      (if 0 < length then packet.getD header.headerLength.toNat 0 else 0) with ⟨s₂, payloadEvents, check⟩
  rw [payloadEq] at payloadChecked
  rcases csrcEq : s₂.checkCSRC ctx.strategy header with ⟨s₃, csrcEvents⟩
  have csrcChecked := csrc s₂ payloadChecked
  rw [csrcEq] at csrcChecked
  simp only [ssrcEq, payloadEq, csrcEq]
  by_cases refused : check.result = -1
  · simpa only [refused, ↓reduceIte] using payloadChecked
  · simp only [refused, ↓reduceIte]
    split
    · exact csrcChecked
    · exact record _ _ csrcChecked

theorem processPacket_uncounted (ctx : Context σ) (env : Env) (s : Receiver σ)
    (header : WebRtcRTPHeader) (packet : List UWord8) (packetLength : UWord16) (length : Int)
    (reads : List Nat)
    (rejected : (processPacket ctx env s header packet packetLength length reads).result < 0) :
    Uncounted s.rtp (processPacket ctx env s header packet packetLength length reads).receiver.rtp :=
  (processPacket_uncounted_or_recorded ctx env s header packet packetLength length reads).elim
    And.left fun ⟨_, _, _, accepted, _⟩ => absurd rejected (Int.not_lt.2 accepted)

/-- What a packet refused after the length, RTX and SSRC-filter checks leaves: the state and the
callbacks of the checks that ran before the refusal, after the first-packet notification. The SSRC
and payload checks always run; after a payload check that passes, the CSRC check runs and the
media parse refuses, keeping the strategy state it reached. -/
def KeepsChecks (strategy : RTPReceiverStrategy σ) (s : Receiver σ) (header : WebRtcRTPHeader)
    (firstPayloadByte : UWord8) (ingress : Ingress σ) : Prop :=
  ∃ received : List Event,
    (∀ event ∈ received,
      s.rtp.lastReceiveTime = 0 ∧ ∃ packetType, event = .onReceivedPacket packetType) ∧
    let ssrcChecked := s.checkSSRCChanged header
    let payloadChecked := ssrcChecked.1.checkPayloadChanged strategy header firstPayloadByte
    let csrcChecked := payloadChecked.1.checkCSRC strategy header
    (payloadChecked.2.2.result = -1 ∧ ingress.receiver = payloadChecked.1 ∧
        ingress.events = received ++ ssrcChecked.2 ++ payloadChecked.2.1) ∨
      (payloadChecked.2.2.result ≠ -1 ∧
        (∃ media, ingress.receiver = { csrcChecked.1 with media }) ∧
        ingress.events = received ++ ssrcChecked.2 ++ payloadChecked.2.1 ++ csrcChecked.2)

theorem processPacket_keepsChecks (ctx : Context σ) (env : Env) (s : Receiver σ)
    (header : WebRtcRTPHeader) (packet : List UWord8) (packetLength : UWord16) (length : Int)
    (reads : List Nat)
    (rejected : (processPacket ctx env s header packet packetLength length reads).result < 0) :
    KeepsChecks ctx.strategy s header
      (if 0 < length then packet.getD header.headerLength.toNat 0 else 0)
      (processPacket ctx env s header packet packetLength length reads) := by
  unfold KeepsChecks processPacket at *
  rcases ssrcChecked : s.checkSSRCChanged header with ⟨s₁, ssrcEvents⟩
  rcases payloadChecked : s₁.checkPayloadChanged ctx.strategy header
      (if 0 < length then packet.getD header.headerLength.toNat 0 else 0) with
    ⟨s₂, payloadEvents, check⟩
  rcases csrcChecked : s₂.checkCSRC ctx.strategy header with ⟨s₃, csrcEvents⟩
  simp only [ssrcChecked, payloadChecked, csrcChecked] at rejected ⊢
  refine ⟨if s.rtp.lastReceiveTime = 0 then
      [.onReceivedPacket (if length - header.headerLength.toNat = 0 then .kPacketKeepAlive
        else .kPacketRtp)] else [], fun event mem => ?_, ?_⟩
  · by_cases idle : s.rtp.lastReceiveTime = 0
    · rw [if_pos idle, List.mem_singleton] at mem
      exact ⟨idle, _, mem⟩
    · rw [if_neg idle] at mem
      cases mem
  by_cases refused : check.result = -1
  · rw [if_pos refused]
    exact .inl ⟨refused, rfl, rfl⟩
  · rw [if_neg refused] at rejected ⊢
    split at rejected
    · next parseRefused =>
      rw [if_pos parseRefused]
      exact .inr ⟨refused, ⟨_, rfl⟩, rfl⟩
    · next parseAccepted => exact absurd rejected (Int.not_lt.2 (Int.not_lt.1 parseAccepted))

/-- A refused packet is never counted. One refused by the length, RTX or SSRC-filter check
changes nothing and makes no callback; one refused later keeps the state and the callbacks of
the checks that ran: the SSRC change with its callbacks, the statistics reset, the payload binding
and the CSRC update. -/
theorem incomingRTPPacket_rejected_uncounted (ctx : Context σ) (env : Env) (s : Receiver σ)
    (header : WebRtcRTPHeader) (packet : List UWord8) (packetLength : UWord16)
    (rejected : (s.incomingRTPPacket ctx env header packet packetLength).result < 0) :
    Uncounted s.rtp (s.incomingRTPPacket ctx env header packet packetLength).receiver.rtp ∧
      (¬Admitted s.rtp header packet packetLength →
        (s.incomingRTPPacket ctx env header packet packetLength).receiver = s ∧
          (s.incomingRTPPacket ctx env header packet packetLength).events = []) ∧
      (Admitted s.rtp header packet packetLength →
        KeepsChecks ctx.strategy s (unwrapRtx s.rtp header packet).1
          (firstPayloadByte s.rtp header packet packetLength)
          (s.incomingRTPPacket ctx env header packet packetLength)) := by
  by_cases admitted : Admitted s.rtp header packet packetLength
  · rw [incomingRTPPacket_of_admitted ctx env s header packet packetLength admitted] at rejected ⊢
    exact ⟨processPacket_uncounted ctx env s _ packet packetLength _ _ rejected,
      fun refused => absurd admitted refused,
      fun _ => processPacket_keepsChecks ctx env s _ packet packetLength _ _ rejected⟩
  · obtain ⟨unchanged, silent, -⟩ :=
      incomingRTPPacket_of_not_admitted ctx env s header packet packetLength admitted
    exact ⟨by rw [unchanged]; exact .refl _, fun _ => ⟨unchanged, silent⟩,
      fun admitted' => absurd admitted' admitted⟩

theorem incomingRTPPacket_rejected_unregistered_uncounted :
    ((init default).incomingRTPPacket acceptingVideo (clockAt 5) (vp8Header 1 100)
        (List.replicate 20 0) 20).result < 0 ∧
      Uncounted (init (default : PayloadUnion)).rtp
        ((init default).incomingRTPPacket acceptingVideo (clockAt 5) (vp8Header 1 100)
          (List.replicate 20 0) 20).receiver.rtp ∧
      (¬Admitted (init (default : PayloadUnion)).rtp (vp8Header 1 100) (List.replicate 20 0) 20 →
        ((init default).incomingRTPPacket acceptingVideo (clockAt 5) (vp8Header 1 100)
          (List.replicate 20 0) 20).receiver = init default ∧
        ((init default).incomingRTPPacket acceptingVideo (clockAt 5) (vp8Header 1 100)
          (List.replicate 20 0) 20).events = []) ∧
      (Admitted (init (default : PayloadUnion)).rtp (vp8Header 1 100) (List.replicate 20 0) 20 →
        KeepsChecks acceptingVideo.strategy (init default)
          (unwrapRtx (init (default : PayloadUnion)).rtp (vp8Header 1 100) (List.replicate 20 0)).1
          (firstPayloadByte (init (default : PayloadUnion)).rtp (vp8Header 1 100)
            (List.replicate 20 0) 20)
          ((init default).incomingRTPPacket acceptingVideo (clockAt 5) (vp8Header 1 100)
            (List.replicate 20 0) 20)) :=
  ⟨by decide, incomingRTPPacket_rejected_uncounted acceptingVideo _ _ _ _ _ (by decide)⟩

/-- A first packet with an unregistered payload type is refused, but only after the SSRC check
has stored its SSRC and told the RTCP module and the host. -/
theorem incomingRTPPacket_rejected_after_ssrc_change :
    ((init default).incomingRTPPacket acceptingVideo (clockAt 5) (vp8Header 1 100)
        (List.replicate 20 0) 20).result = -1 ∧
      (init (default : PayloadUnion)).rtp.ssrc = 0 ∧
      ((init default).incomingRTPPacket acceptingVideo (clockAt 5) (vp8Header 1 100)
        (List.replicate 20 0) 20).receiver.rtp.ssrc = 1 ∧
      Event.setRemoteSSRC 1 ∈ ((init default).incomingRTPPacket acceptingVideo (clockAt 5)
        (vp8Header 1 100) (List.replicate 20 0) 20).events := by
  decide

/-- What `IncomingRTPPacket` does to the receiver's own state: it leaves it uncounted, or it
records the packet, with a nonnegative result, on a state the checks left uncounted. -/
theorem incomingRTPPacket_uncounted_or_recorded (ctx : Context σ) (env : Env) (s : Receiver σ)
    (header : WebRtcRTPHeader) (packet : List UWord8) (packetLength : UWord16) :
    Uncounted s.rtp (s.incomingRTPPacket ctx env header packet packetLength).receiver.rtp ∨
      ∃ (checked : RTPReceiver) (frequencyHz : UWord32) (recorded : WebRtcRTPHeader)
        (payloadDataLength : UWord16), Uncounted s.rtp checked ∧
        0 ≤ (s.incomingRTPPacket ctx env header packet packetLength).result ∧
        (s.incomingRTPPacket ctx env header packet packetLength).receiver.rtp =
          checked.recordPacket ctx.jitterDelayMs frequencyHz env recorded payloadDataLength := by
  by_cases admitted : Admitted s.rtp header packet packetLength
  · rw [incomingRTPPacket_of_admitted ctx env s header packet packetLength admitted]
    rcases processPacket_uncounted_or_recorded ctx env s _ packet packetLength
      (packetLength.toNat - header.paddingLength.toNat) (unwrapRtx s.rtp header packet).2 with
      ⟨uncounted, -⟩ | ⟨checked, frequencyHz, checks, accepted, recorded⟩
    · exact .inl uncounted
    · exact .inr ⟨checked, frequencyHz, _, _, checks, accepted, recorded⟩
  · rw [(incomingRTPPacket_of_not_admitted ctx env s header packet packetLength admitted).1]
    exact .inl (.refl _)

/-- The buffer indices `processPacket` reads: those of the RTX step, then the first payload byte
whenever `packet_length - paddingLength` is positive. -/
theorem processPacket_reads (ctx : Context σ) (env : Env) (s : Receiver σ)
    (header : WebRtcRTPHeader) (packet : List UWord8) (packetLength : UWord16) (length : Int)
    (reads : List Nat) :
    (processPacket ctx env s header packet packetLength length reads).reads =
      reads ++ if 0 < length then [header.headerLength.toNat] else [] := by
  unfold processPacket
  dsimp only
  simp only [apply_ite Ingress.reads, ite_self]

/-- A header-only packet without padding. -/
def keepAliveHeader : WebRtcRTPHeader := vp8Header 1 100

/-- An RTX packet on SSRC 9 of 14 bytes whose last two bytes are padding. -/
def paddedRtxHeader : WebRtcRTPHeader := { vp8Header 9 7 with paddingLength := 2 }

/-- A receiver with VP8 registered and RTX on SSRC 9. -/
def rtxSetup : List (Env × Call) :=
  [(clockAt 1, .registerReceivePayload "VP8" 96 90000 1 0), (clockAt 2, .setRTXStatus true 9)]

/-- The keep-alive read: a 12-byte packet that is all header is read at index 12. The RTX read:
a 14-byte RTX packet with 2 bytes of padding is read at 12, 13 and 14, passes on a header of 14
bytes with 2 bytes of padding, and is counted with a body of 65534 bytes. -/
theorem incomingRTPPacket_reads_past_packet :
    12 ∈ ((init default).incomingRTPPacket acceptingVideo (clockAt 5) keepAliveHeader
      (List.replicate 12 0) 12).reads ∧
    14 ∈ (((init default).run acceptingVideo rtxSetup).1.incomingRTPPacket acceptingVideo
      (clockAt 5) paddedRtxHeader (List.replicate 12 0 ++ [0, 100]) 14).reads ∧
    (unwrapRtx ((init (default : PayloadUnion)).run acceptingVideo rtxSetup).1.rtp paddedRtxHeader
      (List.replicate 12 0 ++ [0, 100])).1.headerLength = 14 ∧
    getPayloadDataLength (unwrapRtx ((init (default : PayloadUnion)).run acceptingVideo
      rtxSetup).1.rtp paddedRtxHeader (List.replicate 12 0 ++ [0, 100])).1 14 = 65534 ∧
    (((init default).run acceptingVideo rtxSetup).1.incomingRTPPacket acceptingVideo
      (clockAt 5) paddedRtxHeader (List.replicate 12 0 ++ [0, 100]) 14).receiver.rtp.stats.receivedByteCount
        = 65534 := by
  have headerOnly : Admitted (init (default : PayloadUnion)).rtp keepAliveHeader
      (List.replicate 12 0) 12 := by
    unfold Admitted
    decide
  have paddedRtx : Admitted ((init (default : PayloadUnion)).run acceptingVideo rtxSetup).1.rtp
      paddedRtxHeader (List.replicate 12 0 ++ [0, 100]) 14 := by
    unfold Admitted
    decide
  refine ⟨?_, ?_, by decide, by decide, by decide⟩
  · rw [incomingRTPPacket_of_admitted _ _ _ _ _ _ headerOnly, processPacket_reads]
    decide
  · rw [incomingRTPPacket_of_admitted _ _ _ _ _ _ paddedRtx, processPacket_reads]
    decide

/-- A video receiver whose media state is the list of `is_first_packet` flags that
`ParseRtpPacket` was called with. -/
def firstPacketLog : Context (List Bool) where
  strategy :=
    { getFrequencyHz := fun _ => 90000
      getLastMediaSpecificPayload := fun _ => .video .kRtpVp8Video 0
      setLastMediaSpecificPayload := fun log _ => log
      checkPayloadChanged := fun log _ specific => (log, specific, false, false)
      invokeOnInitializeDecoder := fun _ _ _ _ => ((kDefaultVideoFrequency, 1, 0), 0)
      parseRtpPacket := fun log _ _ _ _ _ _ isFirstPacket => (log ++ [isFirstPacket], 0)
      shouldReportCsrcChanges := fun _ _ => true
      processDeadOrAlive := fun _ _ => .kRtpDead
      onNewPayloadTypeCreated := fun log _ _ _ => (log, 0) }
  jitterDelayMs := acceptingVideo.jitterDelayMs
  createPayloadType := acceptingVideo.createPayloadType

/-- A VP8 packet of SSRC 1 with the given sequence number and timestamp. -/
def framePacket (sequenceNumber : UWord16) (timestamp : UWord32) (time : Int) : Env × Call :=
  (clockAt time, .incomingRTPPacket { vp8Header 1 sequenceNumber with timestamp }
    (List.replicate 20 0) 20)

/-- VP8 registered, then packets `0xff00` and `0xffff` of one stream, each a new frame. -/
def framesBeforeWrap : List (Env × Call) :=
  [(clockAt 1, .registerReceivePayload "VP8" 96 90000 1 0), framePacket 0xff00 3000 10,
   framePacket 0xffff 6000 20]

/-- Packet `0xffff` is in order and recorded. The next packet, number 0 with a new timestamp, is
its successor modulo `2^16` and starts a new frame, but `SequenceNumber() + 1` is compared
unwrapped, as 65536, and `ParseRtpPacket` is told it is not the first packet of a frame. Packet
`0xfffe` followed by `0xffff`, away from the wrap, is flagged. -/
theorem incomingRTPPacket_misses_frame_start_at_wrap :
    ((init []).run firstPacketLog framesBeforeWrap).1.rtp.lastReceivedSequenceNumber = 0xffff ∧
    ((init []).run firstPacketLog framesBeforeWrap).1.rtp.lastReceivedTimestamp = 6000 ∧
    ((init []).run firstPacketLog (framesBeforeWrap ++ [framePacket 0 9000 30])).1.media =
      [true, false, false] ∧
    ((init []).run firstPacketLog
      [(clockAt 1, .registerReceivePayload "VP8" 96 90000 1 0), framePacket 0xff00 3000 10,
       framePacket 0xfffe 6000 20, framePacket 0xffff 9000 30]).1.media = [true, false, true] := by
  decide

/-- How `RegisterReceivePayload` fails: either the registry refuses the payload type and nothing
changes, or the registry binds the free payload type and the media strategy's
`OnNewPayloadTypeCreated` fails afterwards, and the binding stays. -/
theorem registerReceivePayload_of_failed (ctx : Context σ) (s : Receiver σ) (payloadName : String)
    (payloadType : Nat) (frequency : UWord32) (channels : UWord8) (rate : UWord32)
    (failed : (s.registerReceivePayload ctx payloadName payloadType frequency channels rate).2 = -1) :
    (s.registerReceivePayload ctx payloadName payloadType frequency channels rate).1 = s ∨
      s.registry.payloadTypeToPayload payloadType = none ∧
      (s.registerReceivePayload ctx payloadName payloadType frequency channels rate).1.registry.payloadTypeToPayload
          payloadType =
        some ⟨payloadName, ctx.createPayloadType payloadName payloadType frequency channels rate⟩ ∧
      (ctx.strategy.onNewPayloadTypeCreated s.media payloadName payloadType frequency).2 ≠ 0 := by
  unfold registerReceivePayload RTPPayloadRegistry.registerReceivePayload at *
  split_ifs at failed ⊢ with bound red
  · exact .inl rfl
  · cases failed
  · dsimp only at failed ⊢
    split_ifs at failed with _ strategyFailed
    exact .inr ⟨Option.not_isSome_iff_eq_none.1 bound, List.lookup_cons_self, strategyFailed⟩

/-- `acceptingVideo` with a media strategy whose `OnNewPayloadTypeCreated` fails. -/
def failingRegistration : Context PayloadUnion :=
  { acceptingVideo with
    strategy := { acceptingVideo.strategy with onNewPayloadTypeCreated := fun media _ _ _ => (media, -1) } }

/-- Registering VP8 with a strategy that fails returns -1, yet payload type 96, free before the
call, is bound in the registry afterwards. -/
theorem registerReceivePayload_keeps_binding_on_failure :
    ((init default).registerReceivePayload failingRegistration "VP8" 96 90000 1 0).2 = -1 ∧
      (init (default : PayloadUnion)).registry.payloadTypeToPayload 96 = none ∧
      ((init default).registerReceivePayload failingRegistration "VP8" 96 90000 1 0).1.registry.payloadTypeToPayload
        96 = some ⟨"VP8", .video .kRtpVp8Video 0⟩ :=
  have failed :
      ((init default).registerReceivePayload failingRegistration "VP8" 96 90000 1 0).2 = -1 := by
    decide
  have bound := (registerReceivePayload_of_failed failingRegistration (init default) "VP8" 96 90000 1
    0 failed).resolve_left fun unchanged =>
      absurd (congrArg (fun s => s.registry.payloadTypeToPayload 96) unchanged) (by decide)
  ⟨failed, bound.1, bound.2.1⟩

end Receiver

end RtpRtcp

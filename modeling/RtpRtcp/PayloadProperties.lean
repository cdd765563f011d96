import RtpRtcp.SourceProperties

/-!
# When a packet initialises the decoder

`CheckPayloadChanged` judges a packet by its payload type, or a RED packet by the type in its
first payload byte, and initialises the decoder exactly for a registered audio type, or a video
type other than FEC that is not the last media type (`incomingRTPPacket_initializes_decoder_iff`).
A RED packet is checked as a plain packet of the type it carries (`checkPayloadChanged_red`).
-/

set_option autoImplicit false

namespace RtpRtcp

namespace RTPPayloadRegistry

/-- The payload type `CheckPayloadChanged` judges a packet by: for a packet of the RED payload
type, the low seven bits of its first payload byte. -/
def judgedPayloadType (registry : RTPPayloadRegistry) (payloadType : Nat)
    (firstPayloadByte : UWord8) : Nat :=
  if registry.redPayloadType = payloadType then firstPayloadByte.toNat % 0x80 else payloadType

/-- A payload type that initialises the decoder when it replaces the last received one: a
registered audio payload, or a registered video payload other than FEC whose type is not the
last media payload type. -/
def ReinitializesDecoder (registry : RTPPayloadRegistry) (payloadType : Nat) : Prop :=
  ∃ payload, registry.payloadTypeToPayload payloadType = some payload ∧
    (payload.audio = true ∨ payload.typeSpecific.videoCodecType ≠ .kRtpFecVideo ∧
      registry.lastReceivedMediaPayloadType ≠ payloadType)

end RTPPayloadRegistry

namespace Receiver

variable {σ : Type}

theorem changePayload_initializes_iff {strategy : RTPReceiverStrategy σ}
    (faithful : strategy.Faithful) (s : Receiver σ) (payloadType : Nat) (isRed : Bool) :
    (∃ event ∈ (s.changePayload strategy payloadType isRed).2.1, event.initializesDecoder) ↔
      s.registry.ReinitializesDecoder payloadType := by
  rcases checked : strategy.checkPayloadChanged s.media payloadType default with
    ⟨media, specific, reset, discard⟩
  have kept : discard = false := by
    simpa only [checked] using faithful.keepsChanges s.media payloadType default
  subst kept
  unfold changePayload RTPPayloadRegistry.ReinitializesDecoder
  cases lookup : s.registry.payloadTypeToPayload payloadType with
  | none => simp [checked, lookup]
  | some payload =>
    -- Audio always re-initialises; video other than FEC when its media type changed.
    have reInitialize : (payload.audio || (!payload.audio &&
        payload.typeSpecific.videoCodecType != .kRtpFecVideo &&
        !(({ s.registry with lastReceivedPayloadType := payloadType } :
          RTPPayloadRegistry).reportMediaPayloadType payloadType).2)) =
        decide (payload.audio = true ∨ payload.typeSpecific.videoCodecType ≠ .kRtpFecVideo ∧
          s.registry.lastReceivedMediaPayloadType ≠ payloadType) := by
      unfold RTPPayloadRegistry.reportMediaPayloadType
      cases payload.audio <;> cases payload.typeSpecific.videoCodecType <;>
        by_cases same : s.registry.lastReceivedMediaPayloadType = payloadType <;> simp [same]
    simp only [checked, lookup, faithful.readsBack, Bool.false_eq_true, ↓reduceIte, reInitialize]
    by_cases initializes : payload.audio = true ∨
        payload.typeSpecific.videoCodecType ≠ .kRtpFecVideo ∧
          s.registry.lastReceivedMediaPayloadType ≠ payloadType
    · simp [initializes, Event.initializesDecoder]
    · simp [initializes]

/-- With a faithful strategy and a last received payload type that is not the RED one,
`CheckPayloadChanged` initialises the decoder exactly when the payload type it judges the packet
by is not the last received one, is not RED, and initialises the decoder in its own right. -/
theorem checkPayloadChanged_initializes_iff {strategy : RTPReceiverStrategy σ}
    (faithful : strategy.Faithful) (s : Receiver σ) (header : WebRtcRTPHeader)
    (firstPayloadByte : UWord8)
    (remembers : s.registry.Remembers s.registry.lastReceivedPayloadType) :
    (∃ event ∈ (s.checkPayloadChanged strategy header firstPayloadByte).2.1,
        event.initializesDecoder) ↔
      (s.registry.judgedPayloadType header.payloadType firstPayloadByte : Int) ≠
          s.registry.lastReceivedPayloadType ∧
        (s.registry.judgedPayloadType header.payloadType firstPayloadByte : Int) ≠
          s.registry.redPayloadType ∧
        s.registry.ReinitializesDecoder
          (s.registry.judgedPayloadType header.payloadType firstPayloadByte) := by
  unfold checkPayloadChanged RTPPayloadRegistry.judgedPayloadType
  dsimp only
  by_cases red : s.registry.redPayloadType = header.payloadType
  · -- The last received payload type is never RED, so a RED packet always differs from it.
    have changed : (header.payloadType : Int) ≠ s.registry.lastReceivedPayloadType := by
      rcases remembers with nothing | ⟨_, last, notRed, -⟩
      · omega
      · rw [last]
        exact fun same => notRed (same ▸ red.symm)
    simp only [if_pos changed, if_pos red]
    by_cases redInRed : s.registry.redPayloadType = ((firstPayloadByte.toNat % 0x80 : Nat) : Int)
    · simp only [if_pos redInRed]
      exact ⟨fun ⟨_, mem, _⟩ => (List.not_mem_nil _ mem).elim,
        fun ⟨_, notRed, _⟩ => absurd redInRed.symm notRed⟩
    · simp only [if_neg redInRed]
      by_cases last : ((firstPayloadByte.toNat % 0x80 : Nat) : Int) =
          s.registry.lastReceivedPayloadType
      · simp only [if_pos last]
        exact ⟨fun ⟨_, mem, _⟩ => (List.not_mem_nil _ mem).elim,
          fun ⟨notLast, _⟩ => absurd last notLast⟩
      · simp only [if_neg last, changePayload_initializes_iff faithful]
        exact ⟨fun reinitializes => ⟨last, fun same => redInRed same.symm, reinitializes⟩,
          fun ⟨_, _, reinitializes⟩ => reinitializes⟩
  · simp only [if_neg red]
    by_cases same : (header.payloadType : Int) = s.registry.lastReceivedPayloadType
    · simp only [if_neg (not_not.2 same)]
      exact ⟨fun ⟨_, mem, _⟩ => (List.not_mem_nil _ mem).elim,
        fun ⟨notLast, _⟩ => absurd same notLast⟩
    · simp only [if_pos same, changePayload_initializes_iff faithful]
      exact ⟨fun reinitializes => ⟨same, fun judgedRed => red judgedRed.symm, reinitializes⟩,
        fun ⟨_, _, reinitializes⟩ => reinitializes⟩

theorem changePayload_red (strategy : RTPReceiverStrategy σ) (s : Receiver σ) (payloadType : Nat) :
    s.changePayload strategy payloadType true =
      ((s.changePayload strategy payloadType false).1, (s.changePayload strategy payloadType false).2.1,
        { (s.changePayload strategy payloadType false).2.2 with
          isRed := !(strategy.checkPayloadChanged s.media payloadType default).2.2.2 }) := by
  unfold changePayload
  rcases strategy.checkPayloadChanged s.media payloadType default with
    ⟨media, specific, reset, discard⟩
  cases discard
  · simp only [Bool.false_eq_true, ↓reduceIte]
    cases s.registry.payloadTypeToPayload payloadType with
    | none => rfl
    | some payload =>
      dsimp only
      split_ifs <;> rfl
  · rfl

/-- RED is transparent to the payload check. A RED packet whose payload type differs from the
last received one and which carries a payload type other than RED is checked as a plain packet of
the type it carries: the same state, callbacks, result and media-specific payload. It is flagged
RED, so the strategy parses it as RED, except when the carried type is new and the strategy
discards the change, which clears the flag. -/
theorem checkPayloadChanged_red (strategy : RTPReceiverStrategy σ) (s : Receiver σ)
    (header : WebRtcRTPHeader) (firstPayloadByte : UWord8)
    (red : s.registry.redPayloadType = header.payloadType)
    (changed : (header.payloadType : Int) ≠ s.registry.lastReceivedPayloadType)
    (carriesMedia : s.registry.redPayloadType ≠ ((firstPayloadByte.toNat % 0x80 : Nat) : Int)) :
    let carried := s.checkPayloadChanged strategy
      { header with payloadType := firstPayloadByte.toNat % 0x80 } firstPayloadByte
    s.checkPayloadChanged strategy header firstPayloadByte =
      (carried.1, carried.2.1,
        { carried.2.2 with
          isRed := !(decide (((firstPayloadByte.toNat % 0x80 : Nat) : Int) ≠
              s.registry.lastReceivedPayloadType) &&
            (strategy.checkPayloadChanged s.media (firstPayloadByte.toNat % 0x80) default).2.2.2) }) := by
  intro carried
  unfold carried checkPayloadChanged
  dsimp only
  rw [if_pos changed, if_pos red, if_neg carriesMedia, if_neg carriesMedia]
  by_cases last : ((firstPayloadByte.toNat % 0x80 : Nat) : Int) = s.registry.lastReceivedPayloadType
  · rw [if_pos last, if_neg (not_not.2 last)]
    simp only [last, ne_eq, not_true_eq_false, decide_False, Bool.false_and, Bool.not_false]
  · rw [if_neg last, if_pos last, changePayload_red]
    simp only [ne_eq, last, not_false_eq_true, decide_True, Bool.true_and]

/-- The receiver after `vp8Session`: SSRC 1, VP8 registered and last received. -/
def vp8Receiver : Receiver PayloadUnion := ((init default).run acceptingVideo vp8Session).1

/-- `vp8Receiver` with RED registered as payload type 116. -/
def redReceiver : Receiver PayloadUnion :=
  (vp8Receiver.step acceptingVideo (clockAt 3) (.registerReceivePayload "red" 116 90000 1 0)).1

/-- The next packet of the VP8 stream sent as RED (payload type 116) whose first payload byte
carries VP8 (96), the last received type: it is checked as the VP8 packet and flagged RED. -/
theorem checkPayloadChanged_red_vp8 :
    redReceiver.registry.redPayloadType = ({ vp8Header 1 101 with payloadType := 116 } :
        WebRtcRTPHeader).payloadType ∧
      (({ vp8Header 1 101 with payloadType := 116 } : WebRtcRTPHeader).payloadType : Int) ≠
        redReceiver.registry.lastReceivedPayloadType ∧
      redReceiver.registry.redPayloadType ≠ (((96 : UWord8).toNat % 0x80 : Nat) : Int) ∧
      redReceiver.checkPayloadChanged acceptingVideo.strategy
          { vp8Header 1 101 with payloadType := 116 } 96 =
        ((redReceiver.checkPayloadChanged acceptingVideo.strategy
            { vp8Header 1 101 with payloadType := (96 : UWord8).toNat % 0x80 } 96).1,
          (redReceiver.checkPayloadChanged acceptingVideo.strategy
            { vp8Header 1 101 with payloadType := (96 : UWord8).toNat % 0x80 } 96).2.1,
          { (redReceiver.checkPayloadChanged acceptingVideo.strategy
              { vp8Header 1 101 with payloadType := (96 : UWord8).toNat % 0x80 } 96).2.2 with
            isRed := !(decide ((((96 : UWord8).toNat % 0x80 : Nat) : Int) ≠
                redReceiver.registry.lastReceivedPayloadType) &&
              (acceptingVideo.strategy.checkPayloadChanged redReceiver.media
                ((96 : UWord8).toNat % 0x80) default).2.2.2) }) :=
  ⟨by decide, by decide, by decide,
    checkPayloadChanged_red acceptingVideo.strategy redReceiver
      { vp8Header 1 101 with payloadType := 116 } 96 (by decide) (by decide) (by decide)⟩

/-- With a faithful strategy, over a receiver that holds an SSRC and whose last received payload
type is not RED, a packet from that SSRC that passes the length, RTX and filter checks
initialises the decoder exactly when the payload type `CheckPayloadChanged` judges it by (for RED,
the carried one) is not the last received one, is not RED, and is a registered audio payload or a
registered video payload other than FEC that is not the last media one. -/
theorem incomingRTPPacket_initializes_decoder_iff (ctx : Context σ)
    (faithful : ctx.strategy.Faithful) (env : Env) (s : Receiver σ) (header : WebRtcRTPHeader)
    (packet : List UWord8) (packetLength : UWord16)
    (remembers : s.registry.Remembers s.registry.lastReceivedPayloadType) (known : s.rtp.ssrc ≠ 0)
    (sameStream : (unwrapRtx s.rtp header packet).1.ssrc = s.rtp.ssrc)
    (admitted : Admitted s.rtp header packet packetLength) :
    (∃ event ∈ (s.incomingRTPPacket ctx env header packet packetLength).events,
        event.initializesDecoder) ↔
      (s.registry.judgedPayloadType header.payloadType
          (firstPayloadByte s.rtp header packet packetLength) : Int) ≠
          s.registry.lastReceivedPayloadType ∧
        (s.registry.judgedPayloadType header.payloadType
          (firstPayloadByte s.rtp header packet packetLength) : Int) ≠ s.registry.redPayloadType ∧
        s.registry.ReinitializesDecoder (s.registry.judgedPayloadType header.payloadType
          (firstPayloadByte s.rtp header packet packetLength)) := by
  rw [incomingRTPPacket_of_admitted ctx env s header packet packetLength admitted]
  obtain ⟨received, ssrcEvents, payloadEvents, csrcEvents, s₁, s₂, check, receivedOnly, csrcOnly,
    ssrcChecked, payloadChecked, events, -, -⟩ := processPacket_checks ctx env s
      (unwrapRtx s.rtp header packet).1 packet packetLength
      (packetLength.toNat - header.paddingLength.toNat) (unwrapRtx s.rtp header packet).2
  -- The packet is from the SSRC held, so the SSRC check does nothing.
  rw [checkSSRCChanged_of_same s _ sameStream known, Prod.mk.injEq] at ssrcChecked
  obtain ⟨rfl, rfl⟩ := ssrcChecked
  have judged := checkPayloadChanged_initializes_iff faithful s (unwrapRtx s.rtp header packet).1
    (firstPayloadByte s.rtp header packet packetLength) remembers
  rw [firstPayloadByte, payloadChecked, unwrapRtx_payloadType, ← firstPayloadByte] at judged
  rw [events, ← judged]
  -- Only the payload check can initialise the decoder.
  constructor
  · rintro ⟨event, mem, initializes⟩
    simp only [List.append_nil, List.mem_append] at mem
    rcases mem with (fromReceived | fromPayload) | fromCsrc
    · obtain ⟨-, _, rfl⟩ := receivedOnly event fromReceived
      cases initializes
    · exact ⟨event, fromPayload, initializes⟩
    · obtain ⟨_, _, rfl⟩ := csrcOnly event fromCsrc
      cases initializes
  · rintro ⟨event, mem, initializes⟩
    exact ⟨event, by simp [mem], initializes⟩

/-- The next VP8 packet of the stream: its payload type is the last received one, so it
initialises nothing. -/
theorem incomingRTPPacket_initializes_decoder_iff_vp8 :
    acceptingVideo.strategy.Faithful ∧
      vp8Receiver.registry.Remembers vp8Receiver.registry.lastReceivedPayloadType ∧
      vp8Receiver.rtp.ssrc ≠ 0 ∧
      (unwrapRtx vp8Receiver.rtp (vp8Header 1 101) (List.replicate 20 0)).1.ssrc =
        vp8Receiver.rtp.ssrc ∧
      Admitted vp8Receiver.rtp (vp8Header 1 101) (List.replicate 20 0) 20 ∧
      ((∃ event ∈ (vp8Receiver.incomingRTPPacket acceptingVideo (clockAt 3) (vp8Header 1 101)
          (List.replicate 20 0) 20).events, event.initializesDecoder) ↔
        (vp8Receiver.registry.judgedPayloadType (vp8Header 1 101).payloadType
            (firstPayloadByte vp8Receiver.rtp (vp8Header 1 101) (List.replicate 20 0) 20) : Int) ≠
            vp8Receiver.registry.lastReceivedPayloadType ∧
          (vp8Receiver.registry.judgedPayloadType (vp8Header 1 101).payloadType
            (firstPayloadByte vp8Receiver.rtp (vp8Header 1 101) (List.replicate 20 0) 20) : Int) ≠
            vp8Receiver.registry.redPayloadType ∧
          vp8Receiver.registry.ReinitializesDecoder
            (vp8Receiver.registry.judgedPayloadType (vp8Header 1 101).payloadType
              (firstPayloadByte vp8Receiver.rtp (vp8Header 1 101) (List.replicate 20 0) 20))) :=
  have faithful : acceptingVideo.strategy.Faithful := ⟨fun _ _ _ => rfl, fun _ _ => rfl⟩
  have remembers : vp8Receiver.registry.Remembers vp8Receiver.registry.lastReceivedPayloadType :=
    .inr ⟨96, by decide, by decide, by decide⟩
  have known : vp8Receiver.rtp.ssrc ≠ 0 := by decide
  have sameStream : (unwrapRtx vp8Receiver.rtp (vp8Header 1 101) (List.replicate 20 0)).1.ssrc =
      vp8Receiver.rtp.ssrc := by decide
  have admitted : Admitted vp8Receiver.rtp (vp8Header 1 101) (List.replicate 20 0) 20 := by
    unfold Admitted
    decide
  ⟨faithful, remembers, known, sameStream, admitted,
    incomingRTPPacket_initializes_decoder_iff acceptingVideo faithful (clockAt 3) vp8Receiver _ _ _
      remembers known sameStream admitted⟩

end Receiver

end RtpRtcp

import RtpRtcp.SourceProperties

/-!
# The receiver refines its statistics block

Over a run of one stream's own traffic the receiver's statistics block (`RTPReceiver.block`) is
the block fed with the run's stream events (`run_refines_statistics_block`), so what is proved of
`RTPReceiver.observeAll` holds of the receiver.
-/

set_option autoImplicit false

namespace RtpRtcp

namespace RTPReceiver

/-- The statistics block of the receiver's state: the fields that `UpdateStatistics`, the
recording of a packet and `Statistics` read or write, with every other field at its initial
value. -/
def block (r : RTPReceiver) : RTPReceiver :=
  { r with packetTimeoutMs := 0, ssrc := 0, numCsrcs := 0, currentRemoteCsrc := fun _ => 0,
           numEnergy := 0, currentRemoteEnergy := fun _ => 0, useSsrcFilter := false,
           ssrcFilter := 0, rtx := false, ssrcRtx := 0 }

@[simp] theorem block_stats (r : RTPReceiver) : r.block.stats = r.stats := rfl

theorem block_inOrderPacket (r : RTPReceiver) (sequenceNumber : UWord16) :
    r.block.inOrderPacket sequenceNumber = r.inOrderPacket sequenceNumber := rfl

theorem countBytes_block (r : RTPReceiver) (bytes : UWord16) :
    r.block.countBytes bytes = (r.countBytes bytes).block := rfl

theorem updateStatistics_block (frequencyHz : UWord32) (env : Env) (r : RTPReceiver)
    (header : WebRtcRTPHeader) (bytes : UWord16) (oldPacket : Bool) :
    (r.updateStatistics frequencyHz env header bytes oldPacket).block =
      r.block.updateStatistics frequencyHz env header bytes oldPacket := by
  simp only [updateStatistics, countBytes_block, block_stats, block_inOrderPacket]
  split_ifs <;> rfl

theorem recordPacket_block (jitterDelayMs : Nat → Nat → Int) (frequencyHz : UWord32) (env : Env)
    (r : RTPReceiver) (header : WebRtcRTPHeader) (payloadDataLength : UWord16) :
    (r.recordPacket jitterDelayMs frequencyHz env header payloadDataLength).block =
      r.block.recordPacket jitterDelayMs frequencyHz env header payloadDataLength := by
  have classified : r.block.retransmitOfOldPacket jitterDelayMs frequencyHz env
      header.sequenceNumber header.timestamp =
    r.retransmitOfOldPacket jitterDelayMs frequencyHz env header.sequenceNumber header.timestamp :=
    rfl
  have updated := r.updateStatistics_block frequencyHz env header payloadDataLength
    (r.retransmitOfOldPacket jitterDelayMs frequencyHz env header.sequenceNumber header.timestamp)
  simp only [recordPacket, classified, ← updated]
  simp only [block]
  split_ifs <;> rfl

theorem statistics_block (r : RTPReceiver) (reset : Bool) :
    (r.statistics reset).1.block = (r.block.statistics reset).1 := by
  simp only [statistics, block_stats]
  split
  · rfl
  · split
    · split <;> rfl
    · rfl

theorem statistics_snd_block (r : RTPReceiver) (reset : Bool) :
    (r.statistics reset).2 = (r.block.statistics reset).2 := by
  simp only [statistics, block_stats]
  split
  · rfl
  · split
    · split <;> rfl
    · rfl

theorem statistics_false_fst (r : RTPReceiver) : (r.statistics false).1 = r := by
  simp only [statistics, Bool.false_eq_true, not_false_eq_true, ↓reduceIte]
  split_ifs <;> rfl

theorem observeAll_append (jitterDelayMs : Nat → Nat → Int) (r : RTPReceiver)
    (events later : List StreamEvent) :
    r.observeAll jitterDelayMs (events ++ later) =
      (r.observeAll jitterDelayMs events).observeAll jitterDelayMs later :=
  List.foldl_append _ _ _ _

theorem observeAll_block (jitterDelayMs : Nat → Nat → Int) :
    ∀ (r : RTPReceiver) (events : List StreamEvent),
      (r.observeAll jitterDelayMs events).block = r.block.observeAll jitterDelayMs events
  | _, [] => rfl
  | r, .packet _ arrival :: events => by
    rw [observeAll_cons, observeAll_cons, observeAll_block, observe, observe, recordPacket_block]
  | r, .report :: events => by
    rw [observeAll_cons, observeAll_cons, observeAll_block, observe, observe, statistics_block]

end RTPReceiver

/-- Whether a call is one stream's own traffic: a packet that fits the stream on `media` with its
retransmissions on `rtxSsrc` and carries the payload type `payloadType`, a statistics query, or a
dead-or-alive poll. -/
def Call.ofStreamTraffic (media : UWord32) (rtx : Bool) (rtxSsrc : UWord32) (payloadType : Int) :
    Call → Bool
  | .incomingRTPPacket header packet packetLength =>
    (Call.incomingRTPPacket header packet packetLength).ofStream media rtx rtxSsrc &&
      decide ((header.payloadType : Int) = payloadType)
  | .statistics _ => true
  | .processDeadOrAlive .. => true
  | _ => false

namespace Receiver

variable {σ : Type}

/-- What one call hands the statistics block, as events of its stream: a packet that
`IncomingRTPPacket` accepts is an arrival of its rewritten header and body length at the clock
rate the strategy has after parsing it, counted by its 16-bit sequence number (the block never
reads the count); a query with reset is a report; any other call hands it nothing. -/
def callEvents (ctx : Context σ) (env : Env) (s : Receiver σ) : Call → List StreamEvent
  | .incomingRTPPacket header packet packetLength =>
    if 0 ≤ (s.incomingRTPPacket ctx env header packet packetLength).result then
      [.packet (unwrapRtx s.rtp header packet).1.sequenceNumber.toNat
        ⟨(unwrapRtx s.rtp header packet).1,
          getPayloadDataLength (unwrapRtx s.rtp header packet).1 packetLength,
          ctx.strategy.getFrequencyHz
            (s.incomingRTPPacket ctx env header packet packetLength).receiver.media, env⟩]
    else []
  | .statistics reset => if reset then [.report] else []
  | _ => []

/-- The stream events of a run, call by call. -/
def streamEvents (ctx : Context σ) : Receiver σ → List (Env × Call) → List StreamEvent
  | _, [] => []
  | s, (env, call) :: calls => s.callEvents ctx env call ++ streamEvents ctx (s.step ctx env call).1 calls

theorem checkCSRC_block (strategy : RTPReceiverStrategy σ) (s : Receiver σ)
    (header : WebRtcRTPHeader) : (s.checkCSRC strategy header).1.rtp.block = s.rtp.block := by
  unfold checkCSRC
  dsimp only
  split_ifs <;> rfl

theorem processPacket_block (ctx : Context σ) (env : Env) (s : Receiver σ)
    (header : WebRtcRTPHeader) (packet : List UWord8) (packetLength : UWord16) (length : Int)
    (reads : List Nat) (sameSsrc : header.ssrc = s.rtp.ssrc) (held : s.rtp.ssrc ≠ 0)
    (samePayload : (header.payloadType : Int) = s.registry.lastReceivedPayloadType) :
    (processPacket ctx env s header packet packetLength length reads).receiver.registry =
        s.registry ∧
      ((processPacket ctx env s header packet packetLength length reads).result < 0 ∧
          (processPacket ctx env s header packet packetLength length reads).receiver.rtp.block =
            s.rtp.block ∨
        0 ≤ (processPacket ctx env s header packet packetLength length reads).result ∧
          (processPacket ctx env s header packet packetLength length reads).receiver.rtp.block =
            s.rtp.block.recordPacket ctx.jitterDelayMs (ctx.strategy.getFrequencyHz
              (processPacket ctx env s header packet packetLength length reads).receiver.media)
              env header (getPayloadDataLength header packetLength)) := by
  rcases csrcChecked : s.checkCSRC ctx.strategy header with ⟨checked, csrcEvents⟩
  have kept := (checkCSRC_keeps ctx.strategy s header).2
  have csrcBlock := checkCSRC_block ctx.strategy s header
  rw [csrcChecked] at kept csrcBlock
  unfold processPacket
  have passed : ¬(0 : Int) = -1 := by decide
  simp only [checkSSRCChanged_of_same s header sameSsrc held, checkPayloadChanged, samePayload,
    ne_eq, not_true_eq_false, ↓reduceIte, passed, csrcChecked]
  split
  · next rejected => exact ⟨kept, .inl ⟨rejected, csrcBlock⟩⟩
  · next accepted =>
    exact ⟨kept, .inr ⟨Int.not_lt.1 accepted, by rw [RTPReceiver.recordPacket_block, csrcBlock]⟩⟩

theorem incomingRTPPacket_block (ctx : Context σ) (env : Env) (s : Receiver σ)
    (header : WebRtcRTPHeader) (packet : List UWord8) (packetLength : UWord16)
    (sameSsrc : (unwrapRtx s.rtp header packet).1.ssrc = s.rtp.ssrc) (held : s.rtp.ssrc ≠ 0)
    (samePayload : (header.payloadType : Int) = s.registry.lastReceivedPayloadType) :
    (s.incomingRTPPacket ctx env header packet packetLength).receiver.registry = s.registry ∧
      ((s.incomingRTPPacket ctx env header packet packetLength).result < 0 ∧
          (s.incomingRTPPacket ctx env header packet packetLength).receiver.rtp.block =
            s.rtp.block ∨
        0 ≤ (s.incomingRTPPacket ctx env header packet packetLength).result ∧
          (s.incomingRTPPacket ctx env header packet packetLength).receiver.rtp.block =
            s.rtp.block.recordPacket ctx.jitterDelayMs (ctx.strategy.getFrequencyHz
              (s.incomingRTPPacket ctx env header packet packetLength).receiver.media) env
              (unwrapRtx s.rtp header packet).1
              (getPayloadDataLength (unwrapRtx s.rtp header packet).1 packetLength)) := by
  by_cases admitted : Admitted s.rtp header packet packetLength
  · rw [incomingRTPPacket_of_admitted ctx env s header packet packetLength admitted]
    exact processPacket_block ctx env s _ packet packetLength _ _ sameSsrc held
      (by rw [unwrapRtx_payloadType]; exact samePayload)
  · obtain ⟨same, -, rejected⟩ :=
      incomingRTPPacket_of_not_admitted ctx env s header packet packetLength admitted
    rw [same, rejected]
    exact ⟨rfl, .inl ⟨by decide, rfl⟩⟩

/-- One call of the stream's own traffic acts on the block as its stream events, and keeps the
receiver on the stream, with the same last received payload type. -/
theorem step_block (ctx : Context σ) (env : Env) (s : Receiver σ) (call : Call)
    {media rtxSsrc : UWord32} {rtx : Bool} {payloadType : Int}
    (onStream : OnStream media rtx rtxSsrc s.rtp) (held : media ≠ 0)
    (last : s.registry.lastReceivedPayloadType = payloadType)
    (traffic : call.ofStreamTraffic media rtx rtxSsrc payloadType = true) :
    (s.step ctx env call).1.rtp.block =
        s.rtp.block.observeAll ctx.jitterDelayMs (s.callEvents ctx env call) ∧
      OnStream media rtx rtxSsrc (s.step ctx env call).1.rtp ∧
      (s.step ctx env call).1.registry.lastReceivedPayloadType = payloadType := by
  cases call with
  | incomingRTPPacket header packet packetLength =>
    simp only [Call.ofStreamTraffic, Bool.and_eq_true, decide_eq_true_eq] at traffic
    have sameSsrc := unwrapRtx_ssrc_of_fits onStream traffic.1
    obtain ⟨registry, recorded⟩ := incomingRTPPacket_block ctx env s header packet packetLength
      sameSsrc (onStream.1 ▸ held) (traffic.2.trans last.symm)
    have kept := (incomingRTPPacket_of_same_ssrc ctx env s header packet packetLength sameSsrc
      (onStream.1 ▸ held)).1
    refine ⟨?_, onStream.of_sources kept, registry ▸ last⟩
    simp only [step, callEvents]
    rcases recorded with ⟨rejected, same⟩ | ⟨accepted, recorded⟩
    · rw [if_neg (Int.not_le.2 rejected), same]
      rfl
    · rw [if_pos accepted, recorded]
      rfl
  | statistics reset =>
    refine ⟨?_, onStream.of_sources (RTPReceiver.statistics_sources s.rtp reset), last⟩
    cases reset
    · exact congrArg RTPReceiver.block (RTPReceiver.statistics_false_fst s.rtp)
    · exact RTPReceiver.statistics_block s.rtp true
  | processDeadOrAlive => exact ⟨rfl, onStream, last⟩
  | _ => cases traffic

theorem run_block (ctx : Context σ) {media rtxSsrc : UWord32} {rtx : Bool} {payloadType : Int}
    (held : media ≠ 0) : ∀ (s : Receiver σ) (calls : List (Env × Call)),
      (∀ entry ∈ calls, entry.2.ofStreamTraffic media rtx rtxSsrc payloadType = true) →
      OnStream media rtx rtxSsrc s.rtp → s.registry.lastReceivedPayloadType = payloadType →
      (s.run ctx calls).1.rtp.block =
        s.rtp.block.observeAll ctx.jitterDelayMs (streamEvents ctx s calls)
  | _, [], _, _, _ => rfl
  | s, (env, call) :: calls, traffic, onStream, last =>
    have first := step_block ctx env s call onStream held last (traffic _ (List.mem_cons_self _ _))
    (run_block ctx held _ calls (fun entry member => traffic entry (List.mem_cons_of_mem _ member))
      first.2.1 first.2.2).trans (by rw [first.1, streamEvents, RTPReceiver.observeAll_append])

/-- The whole receiver refines its statistics block. Over every run of one stream's own traffic
(packets on the SSRC the receiver holds, which is not 0, or on the RTX SSRC while RTX is on, all
of the last received payload type; statistics queries; dead-or-alive polls), the receiver's
block ends as the block fed with the run's stream events: each packet that `IncomingRTPPacket`
accepts, as an arrival of its rewritten header at the clock rate the strategy has after parsing
it, and each report with reset. So every query answers as the block's. -/
theorem run_refines_statistics_block (ctx : Context σ) (s : Receiver σ)
    (calls : List (Env × Call)) (held : s.rtp.ssrc ≠ 0)
    (traffic : ∀ entry ∈ calls, entry.2.ofStreamTraffic s.rtp.ssrc s.rtp.rtx s.rtp.ssrcRtx
      s.registry.lastReceivedPayloadType = true) :
    (s.run ctx calls).1.rtp.block =
        (s.rtp.observeAll ctx.jitterDelayMs (streamEvents ctx s calls)).block ∧
      ∀ reset, ((s.run ctx calls).1.rtp.statistics reset).2 =
        ((s.rtp.observeAll ctx.jitterDelayMs (streamEvents ctx s calls)).statistics reset).2 := by
  have ran : (s.run ctx calls).1.rtp.block =
      (s.rtp.observeAll ctx.jitterDelayMs (streamEvents ctx s calls)).block := by
    rw [RTPReceiver.observeAll_block]
    exact run_block ctx held s calls traffic ⟨rfl, rfl, rfl⟩ rfl
  refine ⟨ran, fun reset => ?_⟩
  rw [RTPReceiver.statistics_snd_block, ran, ← RTPReceiver.statistics_snd_block]

/-- After the VP8 packet on SSRC 1: its retransmission on the RTX SSRC 2, packet 101, and a
report. -/
def streamWithReport : List (Env × Call) :=
  retransmissionThenMedia ++ [(clockAt 5, .statistics true)]

theorem run_refines_statistics_block_with_rtx :
    mediaWithRtx.rtp.ssrc ≠ 0 ∧
      (∀ entry ∈ streamWithReport, entry.2.ofStreamTraffic mediaWithRtx.rtp.ssrc
        mediaWithRtx.rtp.rtx mediaWithRtx.rtp.ssrcRtx mediaWithRtx.registry.lastReceivedPayloadType =
          true) ∧
      (mediaWithRtx.run acceptingVideo streamWithReport).1.rtp.block =
          (mediaWithRtx.rtp.observeAll acceptingVideo.jitterDelayMs
            (streamEvents acceptingVideo mediaWithRtx streamWithReport)).block ∧
        ∀ reset, ((mediaWithRtx.run acceptingVideo streamWithReport).1.rtp.statistics reset).2 =
          ((mediaWithRtx.rtp.observeAll acceptingVideo.jitterDelayMs
            (streamEvents acceptingVideo mediaWithRtx streamWithReport)).statistics reset).2 :=
  have held : mediaWithRtx.rtp.ssrc ≠ 0 := by decide
  have traffic : ∀ entry ∈ streamWithReport, entry.2.ofStreamTraffic mediaWithRtx.rtp.ssrc
      mediaWithRtx.rtp.rtx mediaWithRtx.rtp.ssrcRtx mediaWithRtx.registry.lastReceivedPayloadType =
        true := by decide
  ⟨held, traffic, run_refines_statistics_block acceptingVideo mediaWithRtx streamWithReport held
    traffic⟩

end Receiver

end RtpRtcp

import RtpRtcp.IdentityProperties

/-!
# Which sources a receiver takes

Every call keeps the SSRC filter, RTX and the SSRC held, or is an admitted packet that takes the
SSRC of its RTX-rewritten header and announces only that one (`step_sources`). Over whole runs
this bounds the SSRCs a filtered receiver announces, keeps the RTX SSRC out of the media stream,
and tells the RTCP module and the host of the same SSRCs in the same order.
-/

set_option autoImplicit false

namespace RtpRtcp

/-- The SSRC a callback announces as the new remote one. -/
def Event.announcedSsrc : Event → Option UWord32
  | .setRemoteSSRC ssrc => some ssrc
  | .onIncomingSSRCChanged ssrc => some ssrc
  | _ => none

/-- The SSRC a callback passes to the RTCP module: `SetRemoteSSRC`. -/
def Event.rtcpSsrc : Event → Option UWord32
  | .setRemoteSSRC ssrc => some ssrc
  | _ => none

/-- The SSRC a callback passes to the host: `OnIncomingSSRCChanged`. -/
def Event.hostSsrc : Event → Option UWord32
  | .onIncomingSSRCChanged ssrc => some ssrc
  | _ => none

theorem Event.rtcpSsrc_eq_none {event : Event} (quiet : event.announcedSsrc = none) :
    event.rtcpSsrc = none := by
  cases event <;> first | rfl | cases quiet

theorem Event.hostSsrc_eq_none {event : Event} (quiet : event.announcedSsrc = none) :
    event.hostSsrc = none := by
  cases event <;> first | rfl | cases quiet

theorem filterMap_ssrc_of_quiet {events : List Event}
    (quiet : ∀ event ∈ events, event.announcedSsrc = none) :
    events.filterMap Event.rtcpSsrc = [] ∧ events.filterMap Event.hostSsrc = [] :=
  ⟨List.filterMap_eq_nil_iff.2 fun event mem => Event.rtcpSsrc_eq_none (quiet event mem),
    List.filterMap_eq_nil_iff.2 fun event mem => Event.hostSsrc_eq_none (quiet event mem)⟩

/-- `SetSSRCFilter`. -/
def Call.setsSsrcFilter : Call → Bool
  | .setSSRCFilter .. => true
  | _ => false

/-- `SetRTXStatus`. -/
def Call.setsRtx : Call → Bool
  | .setRTXStatus .. => true
  | _ => false

/-- Whether a call fits one stream on the SSRC `media` with its retransmissions on `rtxSsrc`: a
packet carries `media`, or `rtxSsrc` while RTX is on; every other call fits. -/
def Call.ofStream (media : UWord32) (rtx : Bool) (rtxSsrc : UWord32) : Call → Bool
  | .incomingRTPPacket header _ _ =>
    decide (header.ssrc = media) || rtx && decide (header.ssrc = rtxSsrc)
  | _ => true

namespace RTPReceiver

/-- What decides which sources a receiver takes: the SSRC it holds, its SSRC filter and its RTX
setting. -/
structure Sources where
  ssrc : UWord32
  useSsrcFilter : Bool
  ssrcFilter : UWord32
  rtx : Bool
  ssrcRtx : UWord32

def sources (r : RTPReceiver) : Sources := ⟨r.ssrc, r.useSsrcFilter, r.ssrcFilter, r.rtx, r.ssrcRtx⟩

theorem updateStatistics_sources (frequencyHz : UWord32) (env : Env) (r : RTPReceiver)
    (header : WebRtcRTPHeader) (bytes : UWord16) (oldPacket : Bool) :
    (r.updateStatistics frequencyHz env header bytes oldPacket).sources = r.sources := by
  rw [updateStatistics_eq_with]
  rfl

theorem recordPacket_sources (jitterDelayMs : Nat → Nat → Int) (frequencyHz : UWord32) (env : Env)
    (r : RTPReceiver) (header : WebRtcRTPHeader) (payloadDataLength : UWord16) :
    (r.recordPacket jitterDelayMs frequencyHz env header payloadDataLength).sources = r.sources := by
  unfold recordPacket
  dsimp only
  split_ifs <;> exact updateStatistics_sources ..

theorem statistics_sources (r : RTPReceiver) (reset : Bool) :
    (r.statistics reset).1.sources = r.sources := by
  rw [statistics_fst_eq]
  rfl

end RTPReceiver

namespace Receiver

variable {σ : Type}

theorem checkSSRCChanged_sources (s : Receiver σ) (header : WebRtcRTPHeader) :
    ((s.checkSSRCChanged header).1.rtp.sources = s.rtp.sources ∧
        ∀ event ∈ (s.checkSSRCChanged header).2, event.announcedSsrc = none) ∨
      ((s.checkSSRCChanged header).1.rtp.sources = { s.rtp.sources with ssrc := header.ssrc } ∧
        ∀ event ∈ (s.checkSSRCChanged header).2,
          event.announcedSsrc = none ∨ event.announcedSsrc = some header.ssrc) := by
  unfold checkSSRCChanged
  dsimp only
  split_ifs
  · split
    · exact .inl ⟨rfl, by simp⟩
    · next payload _ =>
      obtain ⟨frequency, channels, rate, decoderEvent⟩ :=
        initializeDecoderEvent_eq header.payloadType payload
      refine .inr ⟨rfl, ?_⟩
      simp [decoderEvent, Event.announcedSsrc]
  · exact .inr ⟨rfl, by simp [Event.announcedSsrc]⟩
  · exact .inl ⟨rfl, by simp⟩

theorem checkSSRCChanged_of_same (s : Receiver σ) (header : WebRtcRTPHeader)
    (same : header.ssrc = s.rtp.ssrc) (held : s.rtp.ssrc ≠ 0) :
    s.checkSSRCChanged header = (s, []) := by
  unfold checkSSRCChanged
  dsimp only
  rw [if_neg]
  rintro (differs | ⟨-, zero⟩)
  · exact differs same.symm
  · exact held zero

theorem checkPayloadChanged_sources (strategy : RTPReceiverStrategy σ) (s : Receiver σ)
    (header : WebRtcRTPHeader) (firstPayloadByte : UWord8) :
    (s.checkPayloadChanged strategy header firstPayloadByte).1.rtp.sources = s.rtp.sources := by
  rcases checkPayloadChanged_rtp strategy s header firstPayloadByte with same | reset
  · rw [same]
  · rw [reset]
    rfl

theorem checkCSRC_sources (strategy : RTPReceiverStrategy σ) (s : Receiver σ)
    (header : WebRtcRTPHeader) : (s.checkCSRC strategy header).1.rtp.sources = s.rtp.sources := by
  unfold checkCSRC
  dsimp only
  split_ifs <;> rfl

theorem processPacket_sources (ctx : Context σ) (env : Env) (s : Receiver σ)
    (header : WebRtcRTPHeader) (packet : List UWord8) (packetLength : UWord16) (length : Int)
    (reads : List Nat) :
    (processPacket ctx env s header packet packetLength length reads).receiver.rtp.sources =
        (s.checkSSRCChanged header).1.rtp.sources ∧
      ∀ event ∈ (processPacket ctx env s header packet packetLength length reads).events,
        event.announcedSsrc = none ∨ event ∈ (s.checkSSRCChanged header).2 := by
  obtain ⟨received, ssrcEvents, payloadEvents, csrcEvents, s₁, s₂, check,
    receivedOnly, csrcOnly, ssrcChecked, payloadChecked, events, -, -⟩ :=
    processPacket_checks ctx env s header packet packetLength length reads
  refine ⟨processPacket_keeps (fun r => r.sources = (s.checkSSRCChanged header).1.rtp.sources) ctx
      env s header packet packetLength length reads rfl
      (fun s firstPayloadByte kept => (checkPayloadChanged_sources ctx.strategy s header _).trans kept)
      (fun s kept => (checkCSRC_sources ctx.strategy s header).trans kept)
      (fun r _ kept => (RTPReceiver.recordPacket_sources ..).trans kept), fun event mem => ?_⟩
  · rw [events, ssrcChecked] at *
    simp only [List.mem_append] at mem
    rcases mem with ((fromReceived | fromSsrc) | fromPayload) | fromCsrc
    · obtain ⟨-, packetType, rfl⟩ := receivedOnly event fromReceived
      exact .inl rfl
    · exact .inr fromSsrc
    · rcases (checkPayloadChanged_cases payloadChecked).1 with rfl | ⟨-, -, _, _, _, _, _, rfl⟩
      · cases fromPayload
      · rw [List.mem_singleton.1 fromPayload]
        exact .inl rfl
    · obtain ⟨csrc, added, rfl⟩ := csrcOnly event fromCsrc
      exact .inl rfl

/-- `IncomingRTPPacket` keeps the sources and announces nothing, or admits the packet, takes the
SSRC of its rewritten header and announces only that one. -/
theorem incomingRTPPacket_sources (ctx : Context σ) (env : Env) (s : Receiver σ)
    (header : WebRtcRTPHeader) (packet : List UWord8) (packetLength : UWord16) :
    ((s.incomingRTPPacket ctx env header packet packetLength).receiver.rtp.sources = s.rtp.sources ∧
        ∀ event ∈ (s.incomingRTPPacket ctx env header packet packetLength).events,
          event.announcedSsrc = none) ∨
      (Admitted s.rtp header packet packetLength ∧
        (s.incomingRTPPacket ctx env header packet packetLength).receiver.rtp.sources =
          { s.rtp.sources with ssrc := (unwrapRtx s.rtp header packet).1.ssrc } ∧
        ∀ event ∈ (s.incomingRTPPacket ctx env header packet packetLength).events,
          event.announcedSsrc = none ∨
            event.announcedSsrc = some (unwrapRtx s.rtp header packet).1.ssrc) := by
  by_cases admitted : Admitted s.rtp header packet packetLength
  · rw [incomingRTPPacket_of_admitted ctx env s header packet packetLength admitted]
    obtain ⟨sources, fromCheck⟩ := processPacket_sources ctx env s (unwrapRtx s.rtp header packet).1
      packet packetLength _ (unwrapRtx s.rtp header packet).2
    rcases checkSSRCChanged_sources s (unwrapRtx s.rtp header packet).1 with
      ⟨kept, silent⟩ | ⟨taken, announced⟩
    · refine .inl ⟨sources.trans kept, fun event mem => ?_⟩
      exact (fromCheck event mem).elim id (silent event)
    · refine .inr ⟨admitted, sources.trans taken, fun event mem => ?_⟩
      exact (fromCheck event mem).elim .inl (announced event)
  · obtain ⟨same, silent, -⟩ :=
      incomingRTPPacket_of_not_admitted ctx env s header packet packetLength admitted
    exact .inl ⟨by rw [same], by simp [silent]⟩

theorem incomingRTPPacket_of_same_ssrc (ctx : Context σ) (env : Env) (s : Receiver σ)
    (header : WebRtcRTPHeader) (packet : List UWord8) (packetLength : UWord16)
    (same : (unwrapRtx s.rtp header packet).1.ssrc = s.rtp.ssrc) (held : s.rtp.ssrc ≠ 0) :
    (s.incomingRTPPacket ctx env header packet packetLength).receiver.rtp.sources = s.rtp.sources ∧
      ∀ event ∈ (s.incomingRTPPacket ctx env header packet packetLength).events,
        event.announcedSsrc = none := by
  by_cases admitted : Admitted s.rtp header packet packetLength
  · rw [incomingRTPPacket_of_admitted ctx env s header packet packetLength admitted]
    obtain ⟨sources, fromCheck⟩ := processPacket_sources ctx env s (unwrapRtx s.rtp header packet).1
      packet packetLength _ (unwrapRtx s.rtp header packet).2
    rw [checkSSRCChanged_of_same s _ same held] at sources fromCheck
    exact ⟨sources, fun event mem => (fromCheck event mem).resolve_right (List.not_mem_nil _)⟩
  · obtain ⟨same, silent, -⟩ :=
      incomingRTPPacket_of_not_admitted ctx env s header packet packetLength admitted
    exact ⟨by rw [same], by simp [silent]⟩

/-- What one call other than `SetSSRCFilter` and `SetRTXStatus` does to the sources: nothing,
with no SSRC announced; or it is a packet that passes the length, RTX and filter checks, takes
the SSRC of its rewritten header and announces only that one. -/
theorem step_sources (ctx : Context σ) (env : Env) (s : Receiver σ) (call : Call)
    (filterKept : call.setsSsrcFilter = false) (rtxKept : call.setsRtx = false) :
    ((s.step ctx env call).1.rtp.sources = s.rtp.sources ∧
        ∀ event ∈ (s.step ctx env call).2, event.announcedSsrc = none) ∨
      ∃ header packet packetLength, call = .incomingRTPPacket header packet packetLength ∧
        Admitted s.rtp header packet packetLength ∧
        (s.step ctx env call).1.rtp.sources =
          { s.rtp.sources with ssrc := (unwrapRtx s.rtp header packet).1.ssrc } ∧
        ∀ event ∈ (s.step ctx env call).2,
          event.announcedSsrc = none ∨
            event.announcedSsrc = some (unwrapRtx s.rtp header packet).1.ssrc := by
  cases call with
  | incomingRTPPacket header packet packetLength =>
    rcases incomingRTPPacket_sources ctx env s header packet packetLength with
      kept | ⟨admitted, taken⟩
    · exact .inl kept
    · exact .inr ⟨header, packet, packetLength, rfl, admitted, taken⟩
  | statistics reset => exact .inl ⟨RTPReceiver.statistics_sources s.rtp reset, by simp [step]⟩
  | packetTimeout =>
    simp only [step, packetTimeout]
    split_ifs <;> exact .inl ⟨rfl, by simp [Event.announcedSsrc]⟩
  | processDeadOrAlive rtcpAlive now =>
    exact .inl ⟨rfl, by simp [step, processDeadOrAlive, Event.announcedSsrc]⟩
  | setNACKStatus method threshold =>
    refine .inl ⟨?_, by simp [step]⟩
    simp only [step, RTPReceiver.setNACKStatus]
    split_ifs <;> rfl
  | registerReceivePayload payloadName payloadType frequency channels rate =>
    refine .inl ⟨?_, by simp [step]⟩
    simp only [step, registerReceivePayload]
    split_ifs <;> rfl
  | setSSRCFilter => cases filterKept
  | setRTXStatus => cases rtxKept
  | _ => exact .inl ⟨rfl, by simp [step]⟩

/-! ## The SSRC filter over whole runs -/

/-- The SSRC filter admits only `allowed`, and the receiver holds `initial` or `allowed`. -/
structure Filtered (allowed initial : UWord32) (r : RTPReceiver) : Prop where
  useSsrcFilter : r.useSsrcFilter = true
  ssrcFilter : r.ssrcFilter = allowed
  ssrc : r.ssrc = initial ∨ r.ssrc = allowed

theorem step_filtered (ctx : Context σ) (env : Env) (s : Receiver σ) (call : Call)
    {allowed initial : UWord32} (filtered : Filtered allowed initial s.rtp)
    (filterKept : call.setsSsrcFilter = false) :
    Filtered allowed initial (s.step ctx env call).1.rtp ∧
      ∀ event ∈ (s.step ctx env call).2,
        event.announcedSsrc = none ∨ event.announcedSsrc = some allowed := by
  cases rtxCall : call.setsRtx
  · rcases step_sources ctx env s call filterKept rtxCall with
      ⟨kept, silent⟩ | ⟨header, packet, packetLength, -, admitted, taken, announced⟩
    · simp only [RTPReceiver.sources, RTPReceiver.Sources.mk.injEq] at kept
      exact ⟨⟨kept.2.1.trans filtered.1, kept.2.2.1.trans filtered.2, kept.1 ▸ filtered.3⟩,
        fun event mem => .inl (silent event mem)⟩
    · -- The filter admitted the packet, so its rewritten SSRC is the allowed one.
      have passed : (unwrapRtx s.rtp header packet).1.ssrc = allowed := by
        simpa [filtered.useSsrcFilter, filtered.ssrcFilter] using admitted.2.2
      simp only [RTPReceiver.sources, RTPReceiver.Sources.mk.injEq, passed] at taken
      exact ⟨⟨taken.2.1.trans filtered.1, taken.2.2.1.trans filtered.2, .inr taken.1⟩,
        fun event mem => passed ▸ announced event mem⟩
  · cases call <;> cases rtxCall
    exact ⟨⟨filtered.1, filtered.2, filtered.3⟩, by simp [step]⟩

theorem run_filtered (ctx : Context σ) {allowed initial : UWord32} :
    ∀ (s : Receiver σ) (calls : List (Env × Call)),
      (∀ entry ∈ calls, entry.2.setsSsrcFilter = false) → Filtered allowed initial s.rtp →
      Filtered allowed initial (s.run ctx calls).1.rtp ∧
        ∀ event ∈ (s.run ctx calls).2,
          event.announcedSsrc = none ∨ event.announcedSsrc = some allowed
  | _, [], _, filtered => ⟨filtered, by simp [run]⟩
  | s, (env, call) :: calls, filterKept, filtered =>
    have first := step_filtered ctx env s call filtered (filterKept _ (List.mem_cons_self _ _))
    have rest := run_filtered ctx _ calls
      (fun entry member => filterKept entry (List.mem_cons_of_mem _ member)) first.1
    ⟨rest.1, fun event mem => (List.mem_append.1 mem).elim (first.2 event) (rest.2 event)⟩

/-- Over every run without `SetSSRCFilter`, from a receiver whose SSRC filter is on, every SSRC
the receiver announces to the RTCP module or the host is the filter's, and the SSRC it holds at
the end is the one it started with or the filter's. -/
theorem run_ssrcFilter (ctx : Context σ) (s : Receiver σ) (calls : List (Env × Call))
    (filterKept : ∀ entry ∈ calls, entry.2.setsSsrcFilter = false)
    (filterOn : s.rtp.useSsrcFilter = true) :
    ((s.run ctx calls).1.rtp.ssrc = s.rtp.ssrc ∨ (s.run ctx calls).1.rtp.ssrc = s.rtp.ssrcFilter) ∧
      ∀ event ∈ (s.run ctx calls).2,
        event.announcedSsrc = none ∨ event.announcedSsrc = some s.rtp.ssrcFilter :=
  have ran := run_filtered ctx s calls filterKept ⟨filterOn, rfl, .inl rfl⟩
  ⟨ran.1.ssrc, ran.2⟩

/-- VP8 registered, then packets from SSRC 2 and SSRC 1. -/
def twoSourcesSession : List (Env × Call) :=
  [(clockAt 1, .registerReceivePayload "VP8" 96 90000 1 0),
   (clockAt 2, .incomingRTPPacket (vp8Header 2 100) (List.replicate 20 0) 20),
   (clockAt 3, .incomingRTPPacket (vp8Header 1 200) (List.replicate 20 0) 20)]

/-- A receiver told to take SSRC 1 only. -/
def filteredReceiver : Receiver PayloadUnion := ⟨({} : RTPReceiver).setSSRCFilter true 1, {}, default⟩

theorem run_ssrcFilter_twoSources :
    (∀ entry ∈ twoSourcesSession, entry.2.setsSsrcFilter = false) ∧
      filteredReceiver.rtp.useSsrcFilter = true ∧
      (((filteredReceiver.run acceptingVideo twoSourcesSession).1.rtp.ssrc =
            filteredReceiver.rtp.ssrc ∨
          (filteredReceiver.run acceptingVideo twoSourcesSession).1.rtp.ssrc =
            filteredReceiver.rtp.ssrcFilter) ∧
        ∀ event ∈ (filteredReceiver.run acceptingVideo twoSourcesSession).2,
          event.announcedSsrc = none ∨ event.announcedSsrc = some filteredReceiver.rtp.ssrcFilter) :=
  have filterKept : ∀ entry ∈ twoSourcesSession, entry.2.setsSsrcFilter = false := by decide
  ⟨filterKept, rfl, run_ssrcFilter acceptingVideo filteredReceiver twoSourcesSession filterKept rfl⟩

/-! ## RTX over whole runs -/

/-- RTX is on for `rtxSsrc`, and the receiver holds another SSRC. -/
structure RtxApart (rtxSsrc : UWord32) (r : RTPReceiver) : Prop where
  rtx : r.rtx = true
  ssrcRtx : r.ssrcRtx = rtxSsrc
  ssrc : r.ssrc ≠ rtxSsrc

theorem unwrapRtx_ssrc_ne {rtxSsrc : UWord32} {r : RTPReceiver} (apart : RtxApart rtxSsrc r)
    (header : WebRtcRTPHeader) (packet : List UWord8) :
    (unwrapRtx r header packet).1.ssrc ≠ rtxSsrc := by
  unfold unwrapRtx
  split_ifs with onRtx
  · exact apart.ssrc
  · rw [apart.rtx, apart.ssrcRtx] at onRtx
    exact fun same => onRtx ⟨rfl, same.symm⟩

theorem step_rtxApart (ctx : Context σ) (env : Env) (s : Receiver σ) (call : Call)
    {rtxSsrc : UWord32} (apart : RtxApart rtxSsrc s.rtp) (rtxKept : call.setsRtx = false) :
    RtxApart rtxSsrc (s.step ctx env call).1.rtp ∧
      ∀ event ∈ (s.step ctx env call).2, event.announcedSsrc ≠ some rtxSsrc := by
  cases filterCall : call.setsSsrcFilter
  · rcases step_sources ctx env s call filterCall rtxKept with
      ⟨kept, silent⟩ | ⟨header, packet, packetLength, -, -, taken, announced⟩
    · simp only [RTPReceiver.sources, RTPReceiver.Sources.mk.injEq] at kept
      exact ⟨⟨kept.2.2.2.1.trans apart.1, kept.2.2.2.2.trans apart.2, kept.1 ▸ apart.3⟩,
        fun event mem => by simp [silent event mem]⟩
    · have rewritten := unwrapRtx_ssrc_ne apart header packet
      simp only [RTPReceiver.sources, RTPReceiver.Sources.mk.injEq] at taken
      refine ⟨⟨taken.2.2.2.1.trans apart.1, taken.2.2.2.2.trans apart.2, taken.1 ▸ rewritten⟩,
        fun event mem => ?_⟩
      rcases announced event mem with none | some
      · simp [none]
      · simpa [some] using rewritten
  · cases call <;> cases filterCall
    exact ⟨⟨apart.1, apart.2, apart.3⟩, by simp [step]⟩

theorem run_rtxApart (ctx : Context σ) {rtxSsrc : UWord32} :
    ∀ (s : Receiver σ) (calls : List (Env × Call)),
      (∀ entry ∈ calls, entry.2.setsRtx = false) → RtxApart rtxSsrc s.rtp →
      RtxApart rtxSsrc (s.run ctx calls).1.rtp ∧
        ∀ event ∈ (s.run ctx calls).2, event.announcedSsrc ≠ some rtxSsrc
  | _, [], _, apart => ⟨apart, by simp [run]⟩
  | s, (env, call) :: calls, rtxKept, apart =>
    have first := step_rtxApart ctx env s call apart (rtxKept _ (List.mem_cons_self _ _))
    have rest := run_rtxApart ctx _ calls
      (fun entry member => rtxKept entry (List.mem_cons_of_mem _ member)) first.1
    ⟨rest.1, fun event mem => (List.mem_append.1 mem).elim (first.2 event) (rest.2 event)⟩

/-- Over every run without `SetRTXStatus`, from a receiver with RTX on whose SSRC is not the RTX
one, the RTX SSRC is never taken for the media stream: the receiver never holds it and never
announces it. -/
theorem run_rtx_never_taken (ctx : Context σ) (s : Receiver σ) (calls : List (Env × Call))
    (rtxKept : ∀ entry ∈ calls, entry.2.setsRtx = false) (rtxOn : s.rtp.rtx = true)
    (apart : s.rtp.ssrc ≠ s.rtp.ssrcRtx) :
    (s.run ctx calls).1.rtp.ssrc ≠ s.rtp.ssrcRtx ∧
      ∀ event ∈ (s.run ctx calls).2, event.announcedSsrc ≠ some s.rtp.ssrcRtx :=
  have ran := run_rtxApart ctx s calls rtxKept ⟨rtxOn, rfl, apart⟩
  ⟨ran.1.ssrc, ran.2⟩

/-- A receiver with RTX on for SSRC 2 that holds no SSRC yet. -/
def rtxReceiver : Receiver PayloadUnion := ⟨({} : RTPReceiver).setRTXStatus true 2, {}, default⟩

theorem run_rtx_never_taken_twoSources :
    (∀ entry ∈ twoSourcesSession, entry.2.setsRtx = false) ∧ rtxReceiver.rtp.rtx = true ∧
      rtxReceiver.rtp.ssrc ≠ rtxReceiver.rtp.ssrcRtx ∧
      ((rtxReceiver.run acceptingVideo twoSourcesSession).1.rtp.ssrc ≠ rtxReceiver.rtp.ssrcRtx ∧
        ∀ event ∈ (rtxReceiver.run acceptingVideo twoSourcesSession).2,
          event.announcedSsrc ≠ some rtxReceiver.rtp.ssrcRtx) :=
  have rtxKept : ∀ entry ∈ twoSourcesSession, entry.2.setsRtx = false := by decide
  have apart : rtxReceiver.rtp.ssrc ≠ rtxReceiver.rtp.ssrcRtx := by decide
  ⟨rtxKept, rfl, apart, run_rtx_never_taken acceptingVideo rtxReceiver twoSourcesSession rtxKept rfl apart⟩

/-! ## One stream and its retransmissions -/

/-- The receiver holds the SSRC `media`, and RTX is as `rtx` and `rtxSsrc` say. -/
structure OnStream (media : UWord32) (rtx : Bool) (rtxSsrc : UWord32) (r : RTPReceiver) : Prop where
  ssrc : r.ssrc = media
  rtx : r.rtx = rtx
  ssrcRtx : r.ssrcRtx = rtxSsrc

theorem OnStream.of_sources {media rtxSsrc : UWord32} {rtx : Bool} {r r' : RTPReceiver}
    (kept : r'.sources = r.sources) (onStream : OnStream media rtx rtxSsrc r) :
    OnStream media rtx rtxSsrc r' := by
  simp only [RTPReceiver.sources, RTPReceiver.Sources.mk.injEq] at kept
  exact ⟨kept.1.trans onStream.1, kept.2.2.2.1.trans onStream.2, kept.2.2.2.2.trans onStream.3⟩

theorem unwrapRtx_ssrc_of_fits {media rtxSsrc : UWord32} {rtx : Bool} {r : RTPReceiver}
    (onStream : OnStream media rtx rtxSsrc r) {header : WebRtcRTPHeader} {packet : List UWord8}
    {packetLength : UWord16}
    (fits : (Call.incomingRTPPacket header packet packetLength).ofStream media rtx rtxSsrc = true) :
    (unwrapRtx r header packet).1.ssrc = r.ssrc := by
  simp only [Call.ofStream, Bool.or_eq_true, Bool.and_eq_true, decide_eq_true_eq] at fits
  unfold unwrapRtx
  split_ifs with onRtx
  · rfl
  · rcases fits with fromMedia | ⟨rtxOn, fromRtx⟩
    · exact fromMedia.trans onStream.1.symm
    · exact absurd ⟨onStream.2.trans rtxOn, onStream.3.trans fromRtx.symm⟩ onRtx

theorem step_onStream (ctx : Context σ) (env : Env) (s : Receiver σ) (call : Call)
    {media rtxSsrc : UWord32} {rtx : Bool} (onStream : OnStream media rtx rtxSsrc s.rtp)
    (held : media ≠ 0) (rtxKept : call.setsRtx = false)
    (fits : call.ofStream media rtx rtxSsrc = true) :
    OnStream media rtx rtxSsrc (s.step ctx env call).1.rtp ∧
      ∀ event ∈ (s.step ctx env call).2, event.announcedSsrc = none := by
  cases filterCall : call.setsSsrcFilter
  · rcases step_sources ctx env s call filterCall rtxKept with
      ⟨kept, silent⟩ | ⟨header, packet, packetLength, rfl, -, -, -⟩
    · exact ⟨onStream.of_sources kept, silent⟩
    · obtain ⟨kept, silent⟩ := incomingRTPPacket_of_same_ssrc ctx env s header packet packetLength
        (unwrapRtx_ssrc_of_fits onStream fits) (onStream.1 ▸ held)
      exact ⟨onStream.of_sources kept, silent⟩
  · cases call <;> cases filterCall
    exact ⟨⟨onStream.1, onStream.2, onStream.3⟩, by simp [step]⟩

theorem run_onStream (ctx : Context σ) {media rtxSsrc : UWord32} {rtx : Bool} (held : media ≠ 0) :
    ∀ (s : Receiver σ) (calls : List (Env × Call)),
      (∀ entry ∈ calls, entry.2.setsRtx = false ∧ entry.2.ofStream media rtx rtxSsrc = true) →
      OnStream media rtx rtxSsrc s.rtp →
      OnStream media rtx rtxSsrc (s.run ctx calls).1.rtp ∧
        ∀ event ∈ (s.run ctx calls).2, event.announcedSsrc = none
  | _, [], _, onStream => ⟨onStream, by simp [run]⟩
  | s, (env, call) :: calls, fit, onStream =>
    have first := step_onStream ctx env s call onStream held (fit _ (List.mem_cons_self _ _)).1
      (fit _ (List.mem_cons_self _ _)).2
    have rest := run_onStream ctx held _ calls
      (fun entry member => fit entry (List.mem_cons_of_mem _ member)) first.1
    ⟨rest.1, fun event mem => (List.mem_append.1 mem).elim (first.2 event) (rest.2 event)⟩

/-- Once the receiver holds an SSRC other than 0, its stream and the retransmissions of it never
make it change: over every run without `SetRTXStatus` whose packets carry that SSRC or, while RTX
is on, the RTX SSRC, the receiver keeps its SSRC and announces none to the RTCP module or the
host, so `CheckSSRCChanged` never restarts the statistics. -/
theorem run_stream_keeps_ssrc (ctx : Context σ) (s : Receiver σ) (calls : List (Env × Call))
    (held : s.rtp.ssrc ≠ 0)
    (fit : ∀ entry ∈ calls, entry.2.setsRtx = false ∧
      entry.2.ofStream s.rtp.ssrc s.rtp.rtx s.rtp.ssrcRtx = true) :
    (s.run ctx calls).1.rtp.ssrc = s.rtp.ssrc ∧
      ∀ event ∈ (s.run ctx calls).2, event.announcedSsrc = none :=
  have ran := run_onStream ctx held s calls fit ⟨rfl, rfl, rfl⟩
  ⟨ran.1.ssrc, ran.2⟩

/-- RTX on for SSRC 2, VP8 registered, and a first packet from SSRC 1. -/
def mediaWithRtx : Receiver PayloadUnion :=
  (rtxReceiver.run acceptingVideo
    [(clockAt 1, .registerReceivePayload "VP8" 96 90000 1 0),
      (clockAt 2, .incomingRTPPacket (vp8Header 1 100) (List.replicate 20 0) 20)]).1

/-- A retransmission of packet 100 on SSRC 2, its original sequence number in the two bytes after
its 12-byte header, then packet 101 of the media stream. -/
def retransmissionThenMedia : List (Env × Call) :=
  [(clockAt 3, .incomingRTPPacket (vp8Header 2 7) (List.replicate 12 0 ++ [0, 100] ++ List.replicate 6 0) 20),
    (clockAt 4, .incomingRTPPacket (vp8Header 1 101) (List.replicate 20 0) 20)]

theorem run_stream_keeps_ssrc_with_rtx :
    mediaWithRtx.rtp.ssrc ≠ 0 ∧
      (∀ entry ∈ retransmissionThenMedia, entry.2.setsRtx = false ∧
        entry.2.ofStream mediaWithRtx.rtp.ssrc mediaWithRtx.rtp.rtx mediaWithRtx.rtp.ssrcRtx = true) ∧
      (mediaWithRtx.run acceptingVideo retransmissionThenMedia).1.rtp.ssrc = mediaWithRtx.rtp.ssrc ∧
      ∀ event ∈ (mediaWithRtx.run acceptingVideo retransmissionThenMedia).2,
        event.announcedSsrc = none :=
  have held : mediaWithRtx.rtp.ssrc ≠ 0 := by decide
  have fit : ∀ entry ∈ retransmissionThenMedia, entry.2.setsRtx = false ∧
      entry.2.ofStream mediaWithRtx.rtp.ssrc mediaWithRtx.rtp.rtx mediaWithRtx.rtp.ssrcRtx = true := by
    decide
  ⟨held, fit, run_stream_keeps_ssrc acceptingVideo mediaWithRtx retransmissionThenMedia held fit⟩

/-- With RTX on, a packet on the RTX SSRC that passes the checks of a receiver that holds no SSRC
and has seen no payload type is rewritten to SSRC 0 and taken as the start of a new stream: the
receiver holds SSRC 0 and announces it to the RTCP module and the host. -/
theorem incomingRTPPacket_rtx_before_media (ctx : Context σ) (env : Env) (s : Receiver σ)
    (header : WebRtcRTPHeader) (packet : List UWord8) (packetLength : UWord16)
    (rtxOn : s.rtp.rtx = true) (onRtx : s.rtp.ssrcRtx = header.ssrc) (noSsrc : s.rtp.ssrc = 0)
    (noPayload : s.registry.lastReceivedPayloadType = -1)
    (admitted : Admitted s.rtp header packet packetLength) :
    (s.incomingRTPPacket ctx env header packet packetLength).receiver.rtp.ssrc = 0 ∧
      Event.setRemoteSSRC 0 ∈ (s.incomingRTPPacket ctx env header packet packetLength).events ∧
      Event.onIncomingSSRCChanged 0 ∈
        (s.incomingRTPPacket ctx env header packet packetLength).events := by
  have rewritten : (unwrapRtx s.rtp header packet).1.ssrc = 0 := by
    simp [unwrapRtx, rtxOn, onRtx, noSsrc]
  have restarted : s.checkSSRCChanged (unwrapRtx s.rtp header packet).1 =
      ({ s with rtp := { s.rtp.resetStatistics with
          lastReceivedTimestamp := 0, lastReceivedSequenceNumber := 0,
          lastReceivedTransmissionTimeOffset := 0, lastReceivedFrameTimeMs := 0, ssrc := 0 } },
        [.setRemoteSSRC 0, .onIncomingSSRCChanged 0]) := by
    simp [checkSSRCChanged, rewritten, noSsrc, noPayload]
  rw [incomingRTPPacket_of_admitted ctx env s header packet packetLength admitted]
  obtain ⟨received, ssrcEvents, payloadEvents, csrcEvents, s₁, s₂, check, -, -,
    ssrcChecked, -, events, -, -⟩ := processPacket_checks ctx env s (unwrapRtx s.rtp header packet).1
      packet packetLength (packetLength.toNat - header.paddingLength.toNat)
      (unwrapRtx s.rtp header packet).2
  rw [restarted, Prod.mk.injEq] at ssrcChecked
  refine ⟨?_, ?_, ?_⟩
  · have sources := (processPacket_sources ctx env s (unwrapRtx s.rtp header packet).1 packet
      packetLength (packetLength.toNat - header.paddingLength.toNat)
      (unwrapRtx s.rtp header packet).2).1
    rw [restarted] at sources
    exact congrArg RTPReceiver.Sources.ssrc sources
  all_goals simp [events, ← ssrcChecked.2]

/-- The first packet to reach the receiver is on the RTX SSRC 2: it starts a stream with SSRC 0. -/
theorem incomingRTPPacket_rtx_before_media_first :
    rtxReceiver.rtp.rtx = true ∧ rtxReceiver.rtp.ssrcRtx = (vp8Header 2 100).ssrc ∧
      rtxReceiver.rtp.ssrc = 0 ∧ rtxReceiver.registry.lastReceivedPayloadType = -1 ∧
      Admitted rtxReceiver.rtp (vp8Header 2 100) (List.replicate 20 0) 20 ∧
      ((rtxReceiver.incomingRTPPacket acceptingVideo (clockAt 2) (vp8Header 2 100)
          (List.replicate 20 0) 20).receiver.rtp.ssrc = 0 ∧
        Event.setRemoteSSRC 0 ∈ (rtxReceiver.incomingRTPPacket acceptingVideo (clockAt 2)
          (vp8Header 2 100) (List.replicate 20 0) 20).events ∧
        Event.onIncomingSSRCChanged 0 ∈ (rtxReceiver.incomingRTPPacket acceptingVideo (clockAt 2)
          (vp8Header 2 100) (List.replicate 20 0) 20).events) :=
  have admitted : Admitted rtxReceiver.rtp (vp8Header 2 100) (List.replicate 20 0) 20 := by
    unfold Admitted
    decide
  ⟨rfl, rfl, rfl, rfl, admitted, incomingRTPPacket_rtx_before_media acceptingVideo (clockAt 2)
    rtxReceiver _ _ _ rfl rfl rfl rfl admitted⟩

/-! ## The RTCP module and the host agree -/

theorem checkSSRCChanged_agree (s : Receiver σ) (header : WebRtcRTPHeader) :
    (s.checkSSRCChanged header).2.filterMap Event.rtcpSsrc =
      (s.checkSSRCChanged header).2.filterMap Event.hostSsrc := by
  rcases checkSSRCChanged_cases s header with
    same | ⟨-, -, quiet | changed | ⟨-, payload, initialized⟩⟩
  · rw [same]
    rfl
  · rw [quiet]
    rfl
  · rw [changed]
    rfl
  · obtain ⟨frequency, channels, rate, decoderEvent⟩ :=
      initializeDecoderEvent_eq header.payloadType payload
    rw [initialized, decoderEvent]
    rfl

theorem processPacket_filterMap_ssrc (ctx : Context σ) (env : Env) (s : Receiver σ)
    (header : WebRtcRTPHeader) (packet : List UWord8) (packetLength : UWord16) (length : Int)
    (reads : List Nat) :
    (processPacket ctx env s header packet packetLength length reads).events.filterMap
        Event.rtcpSsrc = (s.checkSSRCChanged header).2.filterMap Event.rtcpSsrc ∧
      (processPacket ctx env s header packet packetLength length reads).events.filterMap
        Event.hostSsrc = (s.checkSSRCChanged header).2.filterMap Event.hostSsrc := by
  obtain ⟨received, ssrcEvents, payloadEvents, csrcEvents, s₁, s₂, check,
    receivedOnly, csrcOnly, ssrcChecked, payloadChecked, events, -, -⟩ :=
    processPacket_checks ctx env s header packet packetLength length reads
  have receivedQuiet : ∀ event ∈ received, event.announcedSsrc = none := fun event mem => by
    obtain ⟨-, _, rfl⟩ := receivedOnly event mem
    rfl
  have payloadQuiet : ∀ event ∈ payloadEvents, event.announcedSsrc = none := by
    rcases (checkPayloadChanged_cases payloadChecked).1 with rfl | ⟨-, -, _, _, _, _, _, rfl⟩
    · exact fun _ mem => (List.not_mem_nil _ mem).elim
    · intro event mem
      rw [List.mem_singleton.1 mem]
      rfl
  have csrcQuiet : ∀ event ∈ csrcEvents, event.announcedSsrc = none := fun event mem => by
    obtain ⟨_, _, rfl⟩ := csrcOnly event mem
    rfl
  simp only [events, ssrcChecked, List.filterMap_append, (filterMap_ssrc_of_quiet receivedQuiet).1,
    (filterMap_ssrc_of_quiet receivedQuiet).2, (filterMap_ssrc_of_quiet payloadQuiet).1,
    (filterMap_ssrc_of_quiet payloadQuiet).2, (filterMap_ssrc_of_quiet csrcQuiet).1,
    (filterMap_ssrc_of_quiet csrcQuiet).2, List.nil_append, List.append_nil, and_self]

theorem incomingRTPPacket_agree (ctx : Context σ) (env : Env) (s : Receiver σ)
    (header : WebRtcRTPHeader) (packet : List UWord8) (packetLength : UWord16) :
    (s.incomingRTPPacket ctx env header packet packetLength).events.filterMap Event.rtcpSsrc =
      (s.incomingRTPPacket ctx env header packet packetLength).events.filterMap Event.hostSsrc := by
  by_cases admitted : Admitted s.rtp header packet packetLength
  · rw [incomingRTPPacket_of_admitted ctx env s header packet packetLength admitted]
    obtain ⟨rtcp, host⟩ := processPacket_filterMap_ssrc ctx env s (unwrapRtx s.rtp header packet).1
      packet packetLength (packetLength.toNat - header.paddingLength.toNat)
      (unwrapRtx s.rtp header packet).2
    rw [rtcp, host, checkSSRCChanged_agree]
  · rw [(incomingRTPPacket_of_not_admitted ctx env s header packet packetLength admitted).2.1]
    rfl

theorem step_agree (ctx : Context σ) (env : Env) (s : Receiver σ) (call : Call) :
    (s.step ctx env call).2.filterMap Event.rtcpSsrc =
      (s.step ctx env call).2.filterMap Event.hostSsrc := by
  cases call with
  | incomingRTPPacket header packet packetLength =>
    exact incomingRTPPacket_agree ctx env s header packet packetLength
  | packetTimeout =>
    simp only [step, packetTimeout]
    split_ifs <;> rfl
  | _ => rfl

/-- The RTCP module and the host are told of the same remote SSRCs, in the same order: over every
run from every state, the SSRCs passed to `SetRemoteSSRC` are those passed to
`OnIncomingSSRCChanged`. -/
theorem run_rtcp_and_host_agree (ctx : Context σ) : ∀ (s : Receiver σ) (calls : List (Env × Call)),
    (s.run ctx calls).2.filterMap Event.rtcpSsrc = (s.run ctx calls).2.filterMap Event.hostSsrc
  | _, [] => rfl
  | s, (env, call) :: calls => by
    show ((s.step ctx env call).2 ++ _).filterMap _ = ((s.step ctx env call).2 ++ _).filterMap _
    rw [List.filterMap_append, List.filterMap_append, step_agree, run_rtcp_and_host_agree]

/-! ## Announcements only on a change -/

theorem checkSSRCChanged_announces (s : Receiver σ) (header : WebRtcRTPHeader) :
    (s.checkSSRCChanged header).2.filterMap Event.rtcpSsrc = [] ∧
        (s.checkSSRCChanged header).1.rtp.ssrc = s.rtp.ssrc ∨
      (header.ssrc ≠ s.rtp.ssrc ∨ s.rtp.ssrc = 0) ∧
        (s.checkSSRCChanged header).2.filterMap Event.rtcpSsrc = [header.ssrc] ∧
        (s.checkSSRCChanged header).1.rtp.ssrc = header.ssrc := by
  unfold checkSSRCChanged
  dsimp only
  split_ifs with changed
  · split
    · exact .inl ⟨rfl, rfl⟩
    · next payload _ =>
      obtain ⟨_, _, _, decoderEvent⟩ := initializeDecoderEvent_eq header.payloadType payload
      exact .inr ⟨changed.imp Ne.symm And.right, by simp [decoderEvent, Event.rtcpSsrc], rfl⟩
  · exact .inr ⟨changed.imp Ne.symm And.right, rfl, rfl⟩
  · exact .inl ⟨rfl, rfl⟩

theorem step_announces (ctx : Context σ) (env : Env) (s : Receiver σ) (call : Call) :
    (s.step ctx env call).2.filterMap Event.rtcpSsrc = [] ∧
        (s.step ctx env call).1.rtp.ssrc = s.rtp.ssrc ∨
      ∃ announced, (announced ≠ s.rtp.ssrc ∨ s.rtp.ssrc = 0) ∧
        (s.step ctx env call).2.filterMap Event.rtcpSsrc = [announced] ∧
        (s.step ctx env call).1.rtp.ssrc = announced := by
  cases call with
  | incomingRTPPacket header packet packetLength =>
    by_cases admitted : Admitted s.rtp header packet packetLength
    · simp only [step, incomingRTPPacket_of_admitted ctx env s header packet packetLength admitted]
      generalize unwrapRtx s.rtp header packet = rewritten
      generalize (packetLength.toNat - header.paddingLength.toNat : Int) = length
      have held := congrArg RTPReceiver.Sources.ssrc
        (processPacket_sources ctx env s rewritten.1 packet packetLength length rewritten.2).1
      rw [(processPacket_filterMap_ssrc ctx env s rewritten.1 packet packetLength length
        rewritten.2).1]
      rcases checkSSRCChanged_announces s rewritten.1 with
        ⟨quiet, kept⟩ | ⟨changed, announced, taken⟩
      · exact .inl ⟨quiet, held.trans kept⟩
      · exact .inr ⟨_, changed, announced, held.trans taken⟩
    · obtain ⟨same, quiet, -⟩ :=
        incomingRTPPacket_of_not_admitted ctx env s header packet packetLength admitted
      simp [step, same, quiet]
  | statistics reset =>
    refine .inl ⟨rfl, ?_⟩
    simp only [step]
    rw [RTPReceiver.statistics_fst_eq]
  | packetTimeout =>
    simp only [step, packetTimeout]
    split_ifs <;> exact .inl ⟨rfl, rfl⟩
  | setNACKStatus method threshold =>
    refine .inl ⟨rfl, ?_⟩
    simp only [step, RTPReceiver.setNACKStatus]
    split_ifs <;> rfl
  | registerReceivePayload =>
    refine .inl ⟨rfl, ?_⟩
    simp only [step, registerReceivePayload]
    split_ifs <;> rfl
  | _ => exact .inl ⟨rfl, rfl⟩

/-- The RTCP module is told of a new remote SSRC only when the SSRC changes. Over every run from
every state, each SSRC passed to `SetRemoteSSRC` differs from the one announced before it (for the
first, from the one held at the start), unless that one was 0: `CheckSSRCChanged` is the only
writer of the SSRC and announces every SSRC it stores. SSRC 0 is announced again by each packet
from SSRC 0 while no payload type is remembered. -/
theorem run_announces_changed_ssrc (ctx : Context σ) :
    ∀ (s : Receiver σ) (calls : List (Env × Call)),
      ((s.run ctx calls).2.filterMap Event.rtcpSsrc).Chain
        (fun held announced => announced ≠ held ∨ held = 0) s.rtp.ssrc
  | _, [] => .nil
  | s, (env, call) :: calls => by
    show (((s.step ctx env call).2 ++ _).filterMap _).Chain _ _
    rw [List.filterMap_append]
    rcases step_announces ctx env s call with ⟨quiet, kept⟩ | ⟨announced, changed, once, taken⟩
    · rw [quiet, List.nil_append, ← kept]
      exact run_announces_changed_ssrc ctx _ calls
    · rw [once, List.singleton_append, List.chain_cons, ← taken]
      exact ⟨taken ▸ changed, run_announces_changed_ssrc ctx _ calls⟩

end Receiver

end RtpRtcp

import RtpRtcp.SequenceProperties
import RtpRtcp.TimeoutProperties

/-!
# Stream identity

What a packet does when it announces a new stream, a new SSRC or a new payload type: the order
of its callbacks, the statistics reset before them, and what it binds in the payload registry.
-/

set_option autoImplicit false

namespace RtpRtcp

/-- The callbacks that (re-)initialise the decoder. -/
def Event.initializesDecoder : Event → Bool
  | .onInitializeDecoder .. => true
  | _ => false

/-- The callbacks that tell the host of a new remote SSRC. -/
def Event.reportsNewSsrc : Event → Bool
  | .onIncomingSSRCChanged _ => true
  | _ => false

/-- The stage of `IncomingRTPPacket` that makes a callback: the first-packet notification, the
RTCP module's new SSRC, the host's, the decoder initialisation and the CSRC changes, in the order
a packet goes through them. The callbacks of timeouts and liveness polls come after all of them. -/
@[simp] def Event.stage : Event → Nat
  | .onReceivedPacket _ => 0
  | .setRemoteSSRC _ => 1
  | .onIncomingSSRCChanged _ => 2
  | .onInitializeDecoder .. => 3
  | .onIncomingCSRCChanged .. => 4
  | .onPacketTimeout => 5
  | .onPeriodicDeadOrAlive _ => 5

/-- `a` may be made before `b` for one packet: at an earlier stage, or both are CSRC changes. -/
def Event.Precedes (a b : Event) : Prop := a.stage < b.stage ∨ a.stage = 4 ∧ b.stage = 4

theorem pairwise_precedes_append {first later : List Event} {boundary : Nat}
    (firstOrdered : first.Pairwise Event.Precedes) (laterOrdered : later.Pairwise Event.Precedes)
    (before : ∀ event ∈ first, event.stage < boundary)
    (after : ∀ event ∈ later, boundary ≤ event.stage) :
    (first ++ later).Pairwise Event.Precedes :=
  List.pairwise_append.2 ⟨firstOrdered, laterOrdered, fun a inFirst b inLater =>
    .inl (Nat.lt_of_lt_of_le (before a inFirst) (after b inLater))⟩

/-- A media strategy that keeps every payload change (`should_discard_changes` is never set) and
reads back the media-specific payload it was last given. -/
structure RTPReceiverStrategy.Faithful {σ : Type} (strategy : RTPReceiverStrategy σ) : Prop where
  keepsChanges : ∀ media payloadType specific,
    (strategy.checkPayloadChanged media payloadType specific).2.2.2 = false
  readsBack : ∀ media specific,
    strategy.getLastMediaSpecificPayload (strategy.setLastMediaSpecificPayload media specific) =
      specific

theorem initializeDecoderEvent_eq (payloadType : Nat) (payload : Payload) :
    ∃ frequency channels rate, initializeDecoderEvent payloadType payload =
      .onInitializeDecoder payloadType payload.name frequency channels rate := by
  unfold initializeDecoderEvent
  split <;> exact ⟨_, _, _, rfl⟩

theorem mem_csrcChangedEvents {newCsrcs oldCsrcs : List UWord32} {numCsrcsDiff : Int}
    {event : Event} (mem : event ∈ csrcChangedEvents newCsrcs oldCsrcs numCsrcsDiff) :
    ∃ csrc added, event = .onIncomingCSRCChanged csrc added := by
  unfold csrcChangedEvents at mem
  dsimp only at mem
  split_ifs at mem <;>
    simp only [List.mem_singleton, List.not_mem_nil, List.mem_append, List.mem_map] at mem
  all_goals first
    | exact ⟨_, _, mem⟩
    | (rcases mem with ⟨csrc, -, rfl⟩ | ⟨csrc, -, rfl⟩ <;> exact ⟨_, _, rfl⟩)

namespace RTPPayloadRegistry

theorem reportMediaPayloadType_fst (registry : RTPPayloadRegistry) (payloadType : Nat) :
    ∃ lastMedia : Int,
      (lastMedia = registry.lastReceivedMediaPayloadType ∨ lastMedia = payloadType) ∧
      (registry.reportMediaPayloadType payloadType).1 =
        { registry with lastReceivedMediaPayloadType := lastMedia } := by
  unfold reportMediaPayloadType
  split_ifs
  · exact ⟨_, .inl rfl, rfl⟩
  · exact ⟨_, .inr rfl, rfl⟩

/-- A remembered payload type names nothing (`-1`) or a registered payload type other than the
RED one. -/
def Remembers (registry : RTPPayloadRegistry) (remembered : Int) : Prop :=
  remembered = -1 ∨ ∃ payloadType : Nat, remembered = payloadType ∧
    (payloadType : Int) ≠ registry.redPayloadType ∧ (registry.payloadTypeToPayload payloadType).isSome

/-- Both remembered payload types name nothing or a registered payload type other than RED. -/
structure RemembersRegistered (registry : RTPPayloadRegistry) : Prop where
  lastReceived : registry.Remembers registry.lastReceivedPayloadType
  lastReceivedMedia : registry.Remembers registry.lastReceivedMediaPayloadType

theorem Remembers.registerReceivePayload {registry : RTPPayloadRegistry} {remembered : Int}
    (remembers : registry.Remembers remembered) (payloadName : String) (payloadType : Nat)
    (typeSpecific : PayloadUnion) :
    (registry.registerReceivePayload payloadName payloadType typeSpecific).1.Remembers
      remembered := by
  rcases remembers with nothing | ⟨bound, rfl, notRed, registered⟩
  · exact .inl nothing
  unfold RTPPayloadRegistry.registerReceivePayload
  split_ifs with taken
  · exact .inr ⟨bound, rfl, notRed, registered⟩
  all_goals
    have other : bound ≠ payloadType := by
      rintro rfl
      exact taken registered
    refine .inr ⟨bound, rfl, ?_, ?_⟩
    · first | exact notRed | (dsimp only; omega)
    · simpa only [payloadTypeToPayload, List.lookup_cons, beq_false_of_ne other] using registered

theorem RemembersRegistered.registerReceivePayload {registry : RTPPayloadRegistry}
    (remembers : registry.RemembersRegistered) (payloadName : String) (payloadType : Nat)
    (typeSpecific : PayloadUnion) :
    (registry.registerReceivePayload payloadName payloadType typeSpecific).1.RemembersRegistered := by
  have kept : (registry.registerReceivePayload payloadName payloadType typeSpecific).1.lastReceivedPayloadType =
        registry.lastReceivedPayloadType ∧
      (registry.registerReceivePayload payloadName payloadType typeSpecific).1.lastReceivedMediaPayloadType =
        registry.lastReceivedMediaPayloadType := by
    unfold RTPPayloadRegistry.registerReceivePayload
    split_ifs <;> exact ⟨rfl, rfl⟩
  constructor
  · rw [kept.1]
    exact remembers.lastReceived.registerReceivePayload payloadName payloadType typeSpecific
  · rw [kept.2]
    exact remembers.lastReceivedMedia.registerReceivePayload payloadName payloadType typeSpecific

end RTPPayloadRegistry

/-- Whether a call is `DeRegisterReceivePayload`. -/
def Call.deregisters : Call → Bool
  | .deRegisterReceivePayload _ => true
  | _ => false

namespace Receiver

variable {σ : Type}

/-- What `CheckSSRCChanged` can do: nothing; or clear the statistics, leaving the registry, and
report nothing (a restart on an unregistered payload type), the new SSRC, or the new SSRC and a
decoder initialisation (a restart on the last received payload type). -/
theorem checkSSRCChanged_cases (s : Receiver σ) (header : WebRtcRTPHeader) :
    s.checkSSRCChanged header = (s, []) ∨
      (s.checkSSRCChanged header).1.rtp.stats = {} ∧
      (s.checkSSRCChanged header).1.registry = s.registry ∧
      ((s.checkSSRCChanged header).2 = [] ∨
        (s.checkSSRCChanged header).2 =
          [.setRemoteSSRC header.ssrc, .onIncomingSSRCChanged header.ssrc] ∨
        (header.payloadType : Int) = s.registry.lastReceivedPayloadType ∧
          ∃ payload, (s.checkSSRCChanged header).2 = [.setRemoteSSRC header.ssrc,
            .onIncomingSSRCChanged header.ssrc, initializeDecoderEvent header.payloadType payload]) := by
  unfold checkSSRCChanged
  dsimp only
  split_ifs with changed restart
  · split
    · exact .inr ⟨rfl, rfl, .inl rfl⟩
    · next payload _ => exact .inr ⟨rfl, rfl, .inr (.inr ⟨restart.2, payload, rfl⟩)⟩
  · exact .inr ⟨rfl, rfl, .inr (.inl rfl)⟩
  · exact .inl rfl

/-- VP8 is registered, a packet of SSRC 1 binds it, and it is deregistered again. -/
def deregisteredAfterBinding : List (Env × Call) :=
  [(clockAt 1, .registerReceivePayload "VP8" 96 90000 1 0),
   (clockAt 2, .incomingRTPPacket (vp8Header 1 100) (List.replicate 20 0) 20),
   (clockAt 3, .deRegisterReceivePayload 96)]

/-- After the binding payload type is deregistered, a packet of a new SSRC with that payload
type resets the statistics but returns before the SSRC is stored or any callback is made; the
packet is accepted and the next one of the same SSRC triggers the change again. -/
theorem checkSSRCChanged_returns_before_storing_ssrc :
    ((init default).run acceptingVideo deregisteredAfterBinding).1.rtp.ssrc = 1 ∧
    (((init default).run acceptingVideo deregisteredAfterBinding).1.checkSSRCChanged
      (vp8Header 2 7)).1.rtp.ssrc = 1 ∧
    (((init default).run acceptingVideo deregisteredAfterBinding).1.checkSSRCChanged
      (vp8Header 2 7)).2 = [] ∧
    ((init default).run acceptingVideo
      (deregisteredAfterBinding ++ [(clockAt 4, .incomingRTPPacket (vp8Header 2 7)
        (List.replicate 20 0) 20)])).1.rtp.ssrc = 1 ∧
    ((init default).run acceptingVideo
      (deregisteredAfterBinding ++ [(clockAt 4, .incomingRTPPacket (vp8Header 2 7)
        (List.replicate 20 0) 20)])).1.rtp.stats.receivedInorderPacketCount = 1 ∧
    (((init default).run acceptingVideo
      (deregisteredAfterBinding ++ [(clockAt 4, .incomingRTPPacket (vp8Header 2 7)
        (List.replicate 20 0) 20)])).1.checkSSRCChanged (vp8Header 2 8)).1.rtp.stats = {} := by
  decide

theorem changePayload_cases {strategy : RTPReceiverStrategy σ} {s s' : Receiver σ}
    {payloadType : Nat} {isRed : Bool} {events : List Event} {check : PayloadCheck}
    (changed : s.changePayload strategy payloadType isRed = (s', events, check)) :
    (events = [] ∨ s'.rtp.stats = {} ∧ ∃ name frequency channels rate,
      events = [.onInitializeDecoder payloadType name frequency channels rate]) ∧
    (s'.registry = s.registry ∨ (s.registry.payloadTypeToPayload payloadType).isSome ∧
      ∃ lastMedia : Int,
        (lastMedia = s.registry.lastReceivedMediaPayloadType ∨ lastMedia = payloadType) ∧
        s'.registry = { s.registry with lastReceivedPayloadType := payloadType,
                                        lastReceivedMediaPayloadType := lastMedia }) := by
  unfold changePayload at changed
  generalize strategy.checkPayloadChanged s.media payloadType default = answer at changed
  obtain ⟨media, specific, shouldReset, shouldDiscard⟩ := answer
  cases bound : s.registry.payloadTypeToPayload payloadType with
  | none =>
    simp only [bound] at changed
    split_ifs at changed <;> cases changed <;> exact ⟨.inl rfl, .inl rfl⟩
  | some payload =>
    obtain ⟨lastMedia, chosen, reported⟩ := RTPPayloadRegistry.reportMediaPayloadType_fst
      { s.registry with lastReceivedPayloadType := payloadType } payloadType
    simp only [bound, reported] at changed
    split_ifs at changed <;> cases changed <;> refine ⟨?_, ?_⟩
    all_goals first
      | exact .inl rfl
      | exact .inr ⟨rfl, _, _, _, _, rfl⟩
      | exact .inr ⟨rfl, lastMedia, chosen, rfl⟩
      | exact .inr ⟨rfl, _, .inl rfl, rfl⟩

/-- What `CheckPayloadChanged` can do: report nothing, or, for a payload type other than the last
received one, one decoder initialisation after a statistics reset; and leave the registry, or
bind a registered payload type other than the RED one as the last received one, and possibly as
the last media one. -/
theorem checkPayloadChanged_cases {strategy : RTPReceiverStrategy σ} {s s' : Receiver σ}
    {header : WebRtcRTPHeader} {firstPayloadByte : UWord8} {events : List Event}
    {check : PayloadCheck}
    (checked : s.checkPayloadChanged strategy header firstPayloadByte = (s', events, check)) :
    (events = [] ∨ (header.payloadType : Int) ≠ s.registry.lastReceivedPayloadType ∧
      s'.rtp.stats = {} ∧ ∃ payloadType name frequency channels rate,
        events = [.onInitializeDecoder payloadType name frequency channels rate]) ∧
    (s'.registry = s.registry ∨
      ∃ (payloadType : Nat) (media : Int), (payloadType : Int) ≠ s.registry.redPayloadType ∧
        (s.registry.payloadTypeToPayload payloadType).isSome ∧
        (media = s.registry.lastReceivedMediaPayloadType ∨ media = payloadType) ∧
        s'.registry = { s.registry with lastReceivedPayloadType := payloadType,
                                        lastReceivedMediaPayloadType := media }) := by
  unfold checkPayloadChanged at checked
  dsimp only at checked
  split_ifs at checked with changed
  all_goals first
    | (cases checked; exact ⟨.inl rfl, .inl rfl⟩)
    | exact (changePayload_cases checked).imp
        (Or.imp_right fun ⟨reset, _, _, _, _, events⟩ => ⟨changed, reset, _, _, _, _, _, events⟩)
        (Or.imp_right fun ⟨bound, media, chosen, registry⟩ =>
          ⟨_, media, by omega, bound, chosen, registry⟩)

theorem checkCSRC_keeps (strategy : RTPReceiverStrategy σ) (s : Receiver σ)
    (header : WebRtcRTPHeader) :
    (s.checkCSRC strategy header).1.rtp.stats = s.rtp.stats ∧
      (s.checkCSRC strategy header).1.registry = s.registry := by
  unfold checkCSRC
  split_ifs <;> exact ⟨rfl, rfl⟩

theorem mem_checkCSRC {strategy : RTPReceiverStrategy σ} {s : Receiver σ}
    {header : WebRtcRTPHeader} {event : Event} (mem : event ∈ (s.checkCSRC strategy header).2) :
    ∃ csrc added, event = .onIncomingCSRCChanged csrc added := by
  unfold checkCSRC at mem
  simp only [apply_ite Prod.snd] at mem
  split_ifs at mem <;> first | exact mem_csrcChangedEvents mem | cases mem

theorem processPacket_checks (ctx : Context σ) (env : Env) (s : Receiver σ)
    (header : WebRtcRTPHeader) (packet : List UWord8) (packetLength : UWord16) (length : Int)
    (reads : List Nat) :
    ∃ (received ssrcEvents payloadEvents csrcEvents : List Event) (s₁ s₂ : Receiver σ)
      (check : PayloadCheck),
      (∀ event ∈ received,
        s.rtp.lastReceiveTime = 0 ∧ ∃ packetType, event = .onReceivedPacket packetType) ∧
      (∀ event ∈ csrcEvents, ∃ csrc added, event = .onIncomingCSRCChanged csrc added) ∧
      s.checkSSRCChanged header = (s₁, ssrcEvents) ∧
      s₁.checkPayloadChanged ctx.strategy header
          (if 0 < length then packet.getD header.headerLength.toNat 0 else 0) =
        (s₂, payloadEvents, check) ∧
      (processPacket ctx env s header packet packetLength length reads).events =
        received ++ ssrcEvents ++ payloadEvents ++ csrcEvents ∧
      (processPacket ctx env s header packet packetLength length reads).receiver.registry =
        s₂.registry ∧
      ((processPacket ctx env s header packet packetLength length reads).receiver.rtp.stats =
          s₂.rtp.stats ∨
        ∃ (checked : RTPReceiver) (frequencyHz : UWord32), checked.stats = s₂.rtp.stats ∧
          (processPacket ctx env s header packet packetLength length reads).receiver.rtp =
            checked.recordPacket ctx.jitterDelayMs frequencyHz env header
              (getPayloadDataLength header packetLength)) := by
  unfold processPacket
  rcases ssrcChecked : s.checkSSRCChanged header with ⟨s₁, ssrcEvents⟩
  rcases payloadChecked : s₁.checkPayloadChanged ctx.strategy header
      (if 0 < length then packet.getD header.headerLength.toNat 0 else 0) with ⟨s₂, payloadEvents, check⟩
  rcases csrcChecked : s₂.checkCSRC ctx.strategy header with ⟨checked, csrcEvents⟩
  obtain ⟨stats, registry⟩ : checked.rtp.stats = s₂.rtp.stats ∧ checked.registry = s₂.registry := by
    simpa only [csrcChecked] using checkCSRC_keeps ctx.strategy s₂ header
  refine ⟨if s.rtp.lastReceiveTime = 0 then
      [.onReceivedPacket (if length - header.headerLength.toNat = 0 then .kPacketKeepAlive
        else .kPacketRtp)] else [], ssrcEvents, payloadEvents,
    if check.result = -1 then [] else csrcEvents, s₁, s₂, check, ?_, ?_, rfl, payloadChecked, ?_⟩
  · split_ifs with idle <;> simp [idle]
  · split_ifs
    · simp
    · exact fun _ mem => mem_checkCSRC (by rw [csrcChecked]; exact mem)
  simp only [ssrcChecked, payloadChecked, csrcChecked]
  by_cases refused : check.result = -1
  · simp [refused]
  · simp only [refused, ↓reduceIte]
    split
    · exact ⟨rfl, registry, .inl stats⟩
    · exact ⟨rfl, registry, .inr ⟨checked.rtp, _, stats, rfl⟩⟩

theorem checkSSRCChanged_registry (s : Receiver σ) (header : WebRtcRTPHeader) :
    (s.checkSSRCChanged header).1.registry = s.registry := by
  rcases checkSSRCChanged_cases s header with same | ⟨-, registry, -⟩
  · rw [same]
  · exact registry

theorem checks_precedes {strategy : RTPReceiverStrategy σ} {s s₁ s₂ : Receiver σ}
    {header : WebRtcRTPHeader} {firstPayloadByte : UWord8} {ssrcEvents payloadEvents : List Event}
    {check : PayloadCheck} (ssrcChecked : s.checkSSRCChanged header = (s₁, ssrcEvents))
    (payloadChecked : s₁.checkPayloadChanged strategy header firstPayloadByte =
      (s₂, payloadEvents, check)) :
    (ssrcEvents ++ payloadEvents).Pairwise Event.Precedes ∧
      ∀ event ∈ ssrcEvents ++ payloadEvents, 1 ≤ event.stage ∧ event.stage < 4 := by
  have registry : s₁.registry = s.registry := by
    simpa only [ssrcChecked] using checkSSRCChanged_registry s header
  rcases checkSSRCChanged_cases s header with same | ⟨-, -, ssrcCases⟩
  · obtain ⟨-, rfl⟩ := Prod.mk.inj (ssrcChecked.symm.trans same)
    rcases (checkPayloadChanged_cases payloadChecked).1 with rfl | ⟨-, -, _, _, _, _, _, rfl⟩ <;>
      simp
  · rw [ssrcChecked] at ssrcCases
    rcases (checkPayloadChanged_cases payloadChecked).1 with rfl | ⟨changed, -, _, _, _, _, _, rfl⟩
    · rcases ssrcCases with rfl | rfl | ⟨-, payload, rfl⟩
      · simp
      · simp [Event.Precedes]
      · obtain ⟨_, _, _, initialized⟩ := initializeDecoderEvent_eq header.payloadType payload
        simp [Event.Precedes, initialized]
    · rcases ssrcCases with rfl | rfl | ⟨restart, -⟩
      · simp
      · simp [Event.Precedes]
      · exact absurd (restart.trans (congrArg _ registry).symm) changed

theorem processPacket_order (ctx : Context σ) (env : Env) (s : Receiver σ)
    (header : WebRtcRTPHeader) (packet : List UWord8) (packetLength : UWord16) (length : Int)
    (reads : List Nat) :
    (processPacket ctx env s header packet packetLength length reads).events.Pairwise
        Event.Precedes ∧
      ∀ event ∈ (processPacket ctx env s header packet packetLength length reads).events,
        event.stage ≤ 4 := by
  unfold processPacket
  rcases ssrcChecked : s.checkSSRCChanged header with ⟨s₁, ssrcEvents⟩
  rcases payloadChecked : s₁.checkPayloadChanged ctx.strategy header
      (if 0 < length then packet.getD header.headerLength.toNat 0 else 0) with
    ⟨s₂, payloadEvents, check⟩
  rcases csrcChecked : s₂.checkCSRC ctx.strategy header with ⟨s₃, csrcEvents⟩
  obtain ⟨checksOrdered, checksStages⟩ := checks_precedes ssrcChecked payloadChecked
  have csrcStages : ∀ event ∈ csrcEvents, event.stage = 4 := fun event mem => by
    obtain ⟨_, _, rfl⟩ := mem_checkCSRC (by rw [csrcChecked]; exact mem)
    rfl
  simp only [ssrcChecked, payloadChecked, csrcChecked]
  set received := if s.rtp.lastReceiveTime = 0 then
    [Event.onReceivedPacket (if length - header.headerLength.toNat = 0 then .kPacketKeepAlive
      else .kPacketRtp)] else [] with receivedEq
  -- The first-packet notification, if any, is one callback at stage 0.
  have receivedFacts : received.Pairwise Event.Precedes ∧ ∀ event ∈ received, event.stage < 1 := by
    rw [receivedEq]
    split_ifs <;> simp
  have notified : (received ++ ssrcEvents ++ payloadEvents).Pairwise Event.Precedes ∧
      ∀ event ∈ received ++ ssrcEvents ++ payloadEvents, event.stage < 4 := by
    rw [List.append_assoc]
    exact ⟨pairwise_precedes_append receivedFacts.1 checksOrdered receivedFacts.2
        fun event mem => (checksStages event mem).1,
      List.forall_mem_append.2 ⟨fun event mem => Nat.lt_of_lt_of_le (receivedFacts.2 event mem)
        (by decide), fun event mem => (checksStages event mem).2⟩⟩
  have withCsrc : (received ++ ssrcEvents ++ payloadEvents ++ csrcEvents).Pairwise
      Event.Precedes ∧ ∀ event ∈ received ++ ssrcEvents ++ payloadEvents ++ csrcEvents,
        event.stage ≤ 4 :=
    ⟨pairwise_precedes_append notified.1 (List.pairwise_of_forall_mem_list fun a first b second =>
        .inr ⟨csrcStages a first, csrcStages b second⟩) notified.2
        fun event mem => (csrcStages event mem).ge,
      List.forall_mem_append.2 ⟨fun event mem => (notified.2 event mem).le,
        fun event mem => (csrcStages event mem).le⟩⟩
  by_cases refused : check.result = -1
  · simp only [refused, ↓reduceIte]
    exact ⟨notified.1, fun event mem => (notified.2 event mem).le⟩
  · simp only [refused, ↓reduceIte]
    split <;> exact withCsrc

/-- One packet's callbacks, whatever the state and the packet, are in stage order, and none is a
timeout's or a liveness poll's; a packet refused before the checks makes none. -/
theorem incomingRTPPacket_order (ctx : Context σ) (env : Env) (s : Receiver σ)
    (header : WebRtcRTPHeader) (packet : List UWord8) (packetLength : UWord16) :
    (s.incomingRTPPacket ctx env header packet packetLength).events.Pairwise Event.Precedes ∧
      ∀ event ∈ (s.incomingRTPPacket ctx env header packet packetLength).events,
        event.stage ≤ 4 := by
  by_cases admitted : Admitted s.rtp header packet packetLength
  · rw [incomingRTPPacket_of_admitted ctx env s header packet packetLength admitted]
    exact processPacket_order ctx env s _ packet packetLength _ _
  · rw [(incomingRTPPacket_of_not_admitted ctx env s header packet packetLength admitted).2.1]
    exact ⟨.nil, fun _ => nofun⟩

theorem checkSSRCChanged_stats_of_mem {s s' : Receiver σ} {header : WebRtcRTPHeader}
    {events : List Event} {event : Event} (checked : s.checkSSRCChanged header = (s', events))
    (mem : event ∈ events) : s'.rtp.stats = {} := by
  rcases checkSSRCChanged_cases s header with same | ⟨reset, -⟩
  · rw [checked] at same
    cases same
    cases mem
  · simpa only [checked] using reset

theorem checkPayloadChanged_stats_of_mem {strategy : RTPReceiverStrategy σ} {s s' : Receiver σ}
    {header : WebRtcRTPHeader} {firstPayloadByte : UWord8} {events : List Event}
    {check : PayloadCheck} {event : Event}
    (checked : s.checkPayloadChanged strategy header firstPayloadByte = (s', events, check))
    (mem : event ∈ events) : s'.rtp.stats = {} := by
  rcases (checkPayloadChanged_cases checked).1 with rfl | ⟨-, reset, -⟩
  · cases mem
  · exact reset

theorem checkPayloadChanged_stats_of_reset {strategy : RTPReceiverStrategy σ} {s s' : Receiver σ}
    {header : WebRtcRTPHeader} {firstPayloadByte : UWord8} {events : List Event}
    {check : PayloadCheck}
    (checked : s.checkPayloadChanged strategy header firstPayloadByte = (s', events, check))
    (reset : s.rtp.stats = {}) : s'.rtp.stats = {} := by
  rcases checkPayloadChanged_rtp strategy s header firstPayloadByte with same | same <;>
    simp only [checked] at same <;> rw [same]
  · exact reset
  · rfl

/-- Whenever a packet tells the host of a new SSRC or initialises the decoder, the statistics
afterwards count that packet alone, as the first of a new sequence, or nothing: both identity
checks clear the statistics before they make these callbacks. -/
theorem incomingRTPPacket_restarts_statistics (ctx : Context σ) (env : Env) (s : Receiver σ)
    (header : WebRtcRTPHeader) (packet : List UWord8) (packetLength : UWord16)
    (announced : ∃ event ∈ (s.incomingRTPPacket ctx env header packet packetLength).events,
      event.reportsNewSsrc ∨ event.initializesDecoder) :
    (s.incomingRTPPacket ctx env header packet packetLength).receiver.rtp.stats = {} ∨
      (s.incomingRTPPacket ctx env header packet packetLength).receiver.rtp.stats =
        { receivedSeqFirst := (unwrapRtx s.rtp header packet).1.sequenceNumber
          receivedSeqMax := (unwrapRtx s.rtp header packet).1.sequenceNumber
          receivedByteCount :=
            (getPayloadDataLength (unwrapRtx s.rtp header packet).1 packetLength).setWidth 32
          receivedInorderPacketCount := 1 } := by
  by_cases admitted : Admitted s.rtp header packet packetLength
  · rw [incomingRTPPacket_of_admitted ctx env s header packet packetLength admitted] at announced ⊢
    obtain ⟨received, ssrcEvents, payloadEvents, csrcEvents, s₁, s₂, check,
      receivedOnly, csrcOnly, ssrcChecked, payloadChecked, events, -, after⟩ :=
      processPacket_checks ctx env s (unwrapRtx s.rtp header packet).1 packet packetLength
        (packetLength.toNat - header.paddingLength.toNat) (unwrapRtx s.rtp header packet).2
    obtain ⟨event, mem, announcing⟩ := announced
    have reset : s₂.rtp.stats = {} := by
      rw [events] at mem
      simp only [List.mem_append] at mem
      rcases mem with ((inReceived | inSsrc) | inPayload) | inCsrc
      · obtain ⟨-, _, rfl⟩ := receivedOnly event inReceived
        simp [Event.reportsNewSsrc, Event.initializesDecoder] at announcing
      · exact checkPayloadChanged_stats_of_reset payloadChecked
          (checkSSRCChanged_stats_of_mem ssrcChecked inSsrc)
      · exact checkPayloadChanged_stats_of_mem payloadChecked inPayload
      · obtain ⟨_, _, rfl⟩ := csrcOnly event inCsrc
        simp [Event.reportsNewSsrc, Event.initializesDecoder] at announcing
    rcases after with same | ⟨checked, frequencyHz, checks, recorded⟩
    · exact .inl (same.trans reset)
    · refine .inr ?_
      rw [recorded, RTPReceiver.recordPacket_stats_of_first _ _ _ _ _ _ (by simp [checks, reset]),
        checks, reset]
      simp
  · obtain ⟨-, silent, -⟩ :=
      incomingRTPPacket_of_not_admitted ctx env s header packet packetLength admitted
    simp [silent] at announced

/-- A first packet on a fresh receiver reports its SSRC, so its statistics count it alone or
nothing (here nothing, as VP8 is not registered). -/
theorem incomingRTPPacket_restarts_statistics_on_first_packet :
    (∃ event ∈ ((init default).incomingRTPPacket acceptingVideo (clockAt 5) (vp8Header 1 100)
        (List.replicate 20 0) 20).events, event.reportsNewSsrc ∨ event.initializesDecoder) ∧
      (((init default).incomingRTPPacket acceptingVideo (clockAt 5) (vp8Header 1 100)
          (List.replicate 20 0) 20).receiver.rtp.stats = {} ∨
        ((init default).incomingRTPPacket acceptingVideo (clockAt 5) (vp8Header 1 100)
          (List.replicate 20 0) 20).receiver.rtp.stats =
          { receivedSeqFirst := (unwrapRtx (init (default : PayloadUnion)).rtp (vp8Header 1 100)
                (List.replicate 20 0)).1.sequenceNumber
            receivedSeqMax := (unwrapRtx (init (default : PayloadUnion)).rtp (vp8Header 1 100)
                (List.replicate 20 0)).1.sequenceNumber
            receivedByteCount := (getPayloadDataLength (unwrapRtx (init (default : PayloadUnion)).rtp
                (vp8Header 1 100) (List.replicate 20 0)).1 20).setWidth 32
            receivedInorderPacketCount := 1 }) :=
  have announced : ∃ event ∈ ((init default).incomingRTPPacket acceptingVideo (clockAt 5)
      (vp8Header 1 100) (List.replicate 20 0) 20).events,
      event.reportsNewSsrc ∨ event.initializesDecoder := by decide
  ⟨announced, incomingRTPPacket_restarts_statistics acceptingVideo _ _ _ _ _ announced⟩

/-- In callbacks made in stage order, a stage other than the CSRC changes' comes at most once. -/
theorem countP_le_one_of_pairwise {p : Event → Bool} (stage : Nat) (notCsrc : stage ≠ 4)
    (staged : ∀ event, p event = true → event.stage = stage) :
    ∀ {events : List Event}, events.Pairwise Event.Precedes → events.countP p ≤ 1
  | [], _ => by simp
  | event :: events, ordered => by
    obtain ⟨first, rest⟩ := List.pairwise_cons.1 ordered
    rw [List.countP_cons]
    cases counted : p event
    · simpa using countP_le_one_of_pairwise stage notCsrc staged rest
    · have none : events.countP p = 0 := List.countP_eq_zero.2 fun later mem laterCounted => by
        rcases first later mem with earlier | ⟨csrc, -⟩
        · rw [staged event counted, staged later laterCounted] at earlier
          exact Nat.lt_irrefl _ earlier
        · exact notCsrc ((staged event counted).symm.trans csrc)
      simp [none]

/-- One packet reports a new SSRC at most once and initialises the decoder at most once: its
callbacks come in stage order, and each of the two is a stage of its own. -/
theorem incomingRTPPacket_initializes_decoder_at_most_once (ctx : Context σ) (env : Env)
    (s : Receiver σ) (header : WebRtcRTPHeader) (packet : List UWord8) (packetLength : UWord16) :
    (s.incomingRTPPacket ctx env header packet packetLength).events.countP
        Event.initializesDecoder ≤ 1 ∧
      (s.incomingRTPPacket ctx env header packet packetLength).events.countP
        Event.reportsNewSsrc ≤ 1 :=
  have ordered := (incomingRTPPacket_order ctx env s header packet packetLength).1
  ⟨countP_le_one_of_pairwise 3 (by decide)
      (fun event initializes => by cases event <;> simp_all [Event.initializesDecoder]) ordered,
    countP_le_one_of_pairwise 2 (by decide)
      (fun event reports => by cases event <;> simp_all [Event.reportsNewSsrc]) ordered⟩

/-- What a packet does to the payload registry: nothing, or bind a registered payload type other
than the RED one as the last received one, and possibly as the last media one. It never adds or
removes a binding and never changes the RED type. -/
theorem incomingRTPPacket_registry (ctx : Context σ) (env : Env) (s : Receiver σ)
    (header : WebRtcRTPHeader) (packet : List UWord8) (packetLength : UWord16) :
    (s.incomingRTPPacket ctx env header packet packetLength).receiver.registry = s.registry ∨
      ∃ (payloadType : Nat) (media : Int), (payloadType : Int) ≠ s.registry.redPayloadType ∧
        (s.registry.payloadTypeToPayload payloadType).isSome ∧
        (media = s.registry.lastReceivedMediaPayloadType ∨ media = payloadType) ∧
        (s.incomingRTPPacket ctx env header packet packetLength).receiver.registry =
          { s.registry with lastReceivedPayloadType := payloadType,
                            lastReceivedMediaPayloadType := media } := by
  by_cases admitted : Admitted s.rtp header packet packetLength
  · rw [incomingRTPPacket_of_admitted ctx env s header packet packetLength admitted]
    obtain ⟨_, _, _, _, s₁, s₂, _, -, -, ssrcChecked, payloadChecked, -,
      registry, -⟩ :=
      processPacket_checks ctx env s (unwrapRtx s.rtp header packet).1 packet packetLength
        (packetLength.toNat - header.paddingLength.toNat) (unwrapRtx s.rtp header packet).2
    have unchanged : s₁.registry = s.registry := by
      simpa only [ssrcChecked] using checkSSRCChanged_registry s (unwrapRtx s.rtp header packet).1
    rw [registry, ← unchanged]
    exact (checkPayloadChanged_cases payloadChecked).2
  · rw [(incomingRTPPacket_of_not_admitted ctx env s header packet packetLength admitted).1]
    exact .inl rfl

theorem registerReceivePayload_registry (ctx : Context σ) (s : Receiver σ) (payloadName : String)
    (payloadType : Nat) (frequency : UWord32) (channels : UWord8) (rate : UWord32) :
    (s.registerReceivePayload ctx payloadName payloadType frequency channels rate).1.registry =
      (s.registry.registerReceivePayload payloadName payloadType
        (ctx.createPayloadType payloadName payloadType frequency channels rate)).1 := by
  unfold registerReceivePayload
  split
  split_ifs <;> simp_all

theorem incomingRTPPacket_remembersRegistered (ctx : Context σ) (env : Env) (s : Receiver σ)
    (header : WebRtcRTPHeader) (packet : List UWord8) (packetLength : UWord16)
    (remembers : s.registry.RemembersRegistered) :
    (s.incomingRTPPacket ctx env header packet packetLength).receiver.registry.RemembersRegistered := by
  rcases incomingRTPPacket_registry ctx env s header packet packetLength with
    same | ⟨payloadType, media, notRed, registered, chosen, bound⟩
  · rw [same]
    exact remembers
  · rw [bound]
    refine ⟨.inr ⟨payloadType, rfl, notRed, registered⟩, ?_⟩
    rcases chosen with rfl | rfl
    · exact remembers.lastReceivedMedia
    · exact .inr ⟨payloadType, rfl, notRed, registered⟩

theorem step_remembersRegistered (ctx : Context σ) (env : Env) (s : Receiver σ) (call : Call)
    (kept : call.deregisters = false) (remembers : s.registry.RemembersRegistered) :
    (s.step ctx env call).1.registry.RemembersRegistered := by
  cases call with
  | incomingRTPPacket header packet packetLength =>
    exact incomingRTPPacket_remembersRegistered ctx env s header packet packetLength remembers
  | packetTimeout =>
    simp only [step, packetTimeout]
    split_ifs
    · exact remembers
    · exact ⟨.inl rfl, .inl rfl⟩
    · exact remembers
  | registerReceivePayload payloadName payloadType frequency channels rate =>
    simp only [step]
    rw [registerReceivePayload_registry]
    exact remembers.registerReceivePayload _ _ _
  | deRegisterReceivePayload => cases kept
  | _ => exact remembers

/-- Over every run without `DeRegisterReceivePayload`, from a state where both remembered
payload types name nothing or a registered payload type other than RED, they keep doing so:
packets bind only registered non-RED types, a timeout forgets both, and a registration binds a
free type. -/
theorem run_remembersRegistered (ctx : Context σ) : ∀ (s : Receiver σ) (calls : List (Env × Call)),
    (∀ entry ∈ calls, entry.2.deregisters = false) → s.registry.RemembersRegistered →
    (s.run ctx calls).1.registry.RemembersRegistered
  | _, [], _, remembers => remembers
  | s, (env, call) :: calls, kept, remembers =>
    run_remembersRegistered ctx _ calls (fun entry member => kept entry (List.mem_cons_of_mem _ member))
      (step_remembersRegistered ctx env s call (kept _ (List.mem_cons_self _ _)) remembers)

/-- A run that registers VP8 and receives one VP8 packet. -/
def vp8Session : List (Env × Call) :=
  [(clockAt 1, .registerReceivePayload "VP8" 96 90000 1 0),
    (clockAt 2, .incomingRTPPacket (vp8Header 1 100) (List.replicate 20 0) 20)]

theorem run_remembersRegistered_vp8Session :
    (∀ entry ∈ vp8Session, entry.2.deregisters = false) ∧
      (init (default : PayloadUnion)).registry.RemembersRegistered ∧
      ((init default).run acceptingVideo vp8Session).1.registry.RemembersRegistered :=
  have kept : ∀ entry ∈ vp8Session, entry.2.deregisters = false := by decide
  have fresh : (init (default : PayloadUnion)).registry.RemembersRegistered := ⟨.inl rfl, .inl rfl⟩
  ⟨kept, fresh, run_remembersRegistered acceptingVideo _ _ kept fresh⟩

/-! ## Decoder initialisation after a timeout -/

theorem packetTimeout_registry (env : Env) (s : Receiver σ) (timedOut : (s.packetTimeout env).2 ≠ []) :
    (s.packetTimeout env).1.registry = s.registry.resetLastReceivedPayloadTypes ∧
      (s.packetTimeout env).1.media = s.media := by
  simp only [packetTimeout] at timedOut ⊢
  split_ifs at timedOut ⊢
  · exact absurd rfl timedOut
  · exact ⟨rfl, rfl⟩
  · exact absurd rfl timedOut

theorem unwrapRtx_payloadType (r : RTPReceiver) (header : WebRtcRTPHeader) (packet : List UWord8) :
    (unwrapRtx r header packet).1.payloadType = header.payloadType := by
  unfold unwrapRtx
  split_ifs <;> rfl

theorem changePayload_initializes {strategy : RTPReceiverStrategy σ} (faithful : strategy.Faithful)
    (s : Receiver σ) (payloadType : Nat) (isRed : Bool) {payload : Payload}
    (registered : s.registry.payloadTypeToPayload payloadType = some payload)
    (newMedia : s.registry.lastReceivedMediaPayloadType ≠ payloadType)
    (notFec : payload.typeSpecific.videoCodecType ≠ .kRtpFecVideo) :
    ∃ frequency channels rate, (s.changePayload strategy payloadType isRed).2.1 =
      [.onInitializeDecoder payloadType payload.name frequency channels rate] := by
  rcases checked : strategy.checkPayloadChanged s.media payloadType default with
    ⟨media, specific, reset, discard⟩
  have kept : discard = false := by
    simpa only [checked] using faithful.keepsChanges s.media payloadType default
  subst kept
  -- Audio always re-initialises; video other than FEC does when its media type is new.
  have reInitialize : (payload.audio || (!payload.audio &&
      payload.typeSpecific.videoCodecType != .kRtpFecVideo && !false)) = true := by
    cases payload.audio <;> simp [notFec]
  unfold changePayload
  simp only [checked, registered, faithful.readsBack, RTPPayloadRegistry.reportMediaPayloadType,
    newMedia, ↓reduceIte, Bool.false_eq_true, reInitialize]
  exact ⟨_, _, _, rfl⟩

/-- After `PacketTimeout` reports a timeout, the next packet that passes the length, RTX and
filter checks initialises the decoder when its payload type is registered, is not the RED one and
is no FEC video, with a faithful strategy: the timeout made the receiver forget the last received
payload types, so the packet's payload type is new again, whatever the SSRC check does. -/
theorem incomingRTPPacket_initializes_decoder_after_timeout (ctx : Context σ) (env env' : Env)
    (s : Receiver σ) (header : WebRtcRTPHeader) (packet : List UWord8) (packetLength : UWord16)
    {payload : Payload} (faithful : ctx.strategy.Faithful)
    (timedOut : (s.packetTimeout env).2 = [.onPacketTimeout])
    (admitted : Admitted (s.packetTimeout env).1.rtp header packet packetLength)
    (registered : s.registry.payloadTypeToPayload header.payloadType = some payload)
    (notRed : (header.payloadType : Int) ≠ s.registry.redPayloadType)
    (notFec : payload.typeSpecific.videoCodecType ≠ .kRtpFecVideo) :
    ∃ frequency channels rate,
      Event.onInitializeDecoder header.payloadType payload.name frequency channels rate ∈
        ((s.packetTimeout env).1.incomingRTPPacket ctx env' header packet packetLength).events := by
  have forgotten := (packetTimeout_registry env s (by rw [timedOut]; exact List.cons_ne_nil _ _)).1
  rw [incomingRTPPacket_of_admitted ctx env' _ header packet packetLength admitted]
  generalize unwrapped : unwrapRtx (s.packetTimeout env).1.rtp header packet = rewritten
  have samePayloadType : rewritten.1.payloadType = header.payloadType := by
    rw [← unwrapped, unwrapRtx_payloadType]
  obtain ⟨received, ssrcEvents, payloadEvents, csrcEvents, s₁, s₂, check, -, -,
    ssrcChecked, payloadChecked, events, -, -⟩ := processPacket_checks ctx env'
      (s.packetTimeout env).1 rewritten.1 packet packetLength
      (packetLength.toNat - header.paddingLength.toNat) rewritten.2
  have registry : s₁.registry = s.registry.resetLastReceivedPayloadTypes := by
    have kept := checkSSRCChanged_registry (s.packetTimeout env).1 rewritten.1
    rw [ssrcChecked] at kept
    exact kept.trans forgotten
  have fresh : (header.payloadType : Int) ≠ -1 := by omega
  -- Nothing is remembered, so the payload check goes straight to the change of payload type.
  have changed (firstPayloadByte : UWord8) :
      s₁.checkPayloadChanged ctx.strategy rewritten.1 firstPayloadByte =
        s₁.changePayload ctx.strategy header.payloadType false := by
    simp only [checkPayloadChanged, registry, RTPPayloadRegistry.resetLastReceivedPayloadTypes,
      samePayloadType, ne_eq, fresh, not_false_eq_true, ↓reduceIte, Ne.symm notRed]
  obtain ⟨frequency, channels, rate, initialized⟩ := changePayload_initializes faithful s₁
    header.payloadType false (by rw [registry]; exact registered)
    (by rw [registry]; exact Ne.symm fresh) notFec
  rw [changed] at payloadChecked
  rw [payloadChecked] at initialized
  dsimp only at initialized
  refine ⟨frequency, channels, rate, ?_⟩
  rw [events, initialized]
  simp

/-- A 100 ms packet timeout, VP8 registered and one VP8 packet at 2 ms. -/
def timedVp8Receiver : Receiver PayloadUnion :=
  ((init default).run acceptingVideo ((clockAt 0, .setPacketTimeout 100) :: vp8Session)).1

/-- The timeout at 500 ms is followed by the next VP8 packet, which initialises the decoder again
although its SSRC and payload type are those of the stream before. -/
theorem incomingRTPPacket_initializes_decoder_after_vp8_timeout :
    acceptingVideo.strategy.Faithful ∧
      (timedVp8Receiver.packetTimeout (clockAt 500)).2 = [.onPacketTimeout] ∧
      Admitted (timedVp8Receiver.packetTimeout (clockAt 500)).1.rtp (vp8Header 1 101)
        (List.replicate 20 0) 20 ∧
      timedVp8Receiver.registry.payloadTypeToPayload (vp8Header 1 101).payloadType =
        some ⟨"VP8", .video .kRtpVp8Video 0⟩ ∧
      ((vp8Header 1 101).payloadType : Int) ≠ timedVp8Receiver.registry.redPayloadType ∧
      (PayloadUnion.video .kRtpVp8Video 0).videoCodecType ≠ .kRtpFecVideo ∧
      ∃ frequency channels rate,
        Event.onInitializeDecoder (vp8Header 1 101).payloadType "VP8" frequency channels rate ∈
          ((timedVp8Receiver.packetTimeout (clockAt 500)).1.incomingRTPPacket acceptingVideo
            (clockAt 510) (vp8Header 1 101) (List.replicate 20 0) 20).events :=
  have faithful : acceptingVideo.strategy.Faithful := ⟨fun _ _ _ => rfl, fun _ _ => rfl⟩
  have timedOut : (timedVp8Receiver.packetTimeout (clockAt 500)).2 = [.onPacketTimeout] := by
    decide
  have admitted : Admitted (timedVp8Receiver.packetTimeout (clockAt 500)).1.rtp (vp8Header 1 101)
      (List.replicate 20 0) 20 := by
    unfold Admitted
    decide
  have registered : timedVp8Receiver.registry.payloadTypeToPayload (vp8Header 1 101).payloadType =
      some ⟨"VP8", .video .kRtpVp8Video 0⟩ := by decide
  have notRed : ((vp8Header 1 101).payloadType : Int) ≠ timedVp8Receiver.registry.redPayloadType := by
    decide
  have notFec : (PayloadUnion.video .kRtpVp8Video 0).videoCodecType ≠ .kRtpFecVideo := by decide
  ⟨faithful, timedOut, admitted, registered, notRed, notFec,
    incomingRTPPacket_initializes_decoder_after_timeout acceptingVideo (clockAt 500) (clockAt 510)
      timedVp8Receiver _ _ _ faithful timedOut admitted registered notRed notFec⟩

/-! ## The first-packet notification -/

theorem checkSSRCChanged_not_receivedPacket (s : Receiver σ) (header : WebRtcRTPHeader)
    (packetType : RtpRtcpPacketType) :
    .onReceivedPacket packetType ∉ (s.checkSSRCChanged header).2 := by
  rcases checkSSRCChanged_cases s header with
    same | ⟨-, -, quiet | changed | ⟨-, payload, initialized⟩⟩
  · simp [same]
  · simp [quiet]
  · simp [changed]
  · obtain ⟨frequency, channels, rate, decoderEvent⟩ :=
      initializeDecoderEvent_eq header.payloadType payload
    simp [initialized, decoderEvent]

theorem incomingRTPPacket_receivedPacket (ctx : Context σ) (env : Env) (s : Receiver σ)
    (header : WebRtcRTPHeader) (packet : List UWord8) (packetLength : UWord16)
    {packetType : RtpRtcpPacketType}
    (reported : .onReceivedPacket packetType ∈
      (s.incomingRTPPacket ctx env header packet packetLength).events) :
    s.rtp.lastReceiveTime = 0 := by
  by_cases admitted : Admitted s.rtp header packet packetLength
  · rw [incomingRTPPacket_of_admitted ctx env s header packet packetLength admitted] at reported
    obtain ⟨received, ssrcEvents, payloadEvents, csrcEvents, s₁, s₂, check,
      receivedOnly, csrcOnly, ssrcChecked, payloadChecked, events, -, -⟩ :=
      processPacket_checks ctx env s (unwrapRtx s.rtp header packet).1 packet packetLength
        (packetLength.toNat - header.paddingLength.toNat) (unwrapRtx s.rtp header packet).2
    rw [events] at reported
    simp only [List.mem_append] at reported
    rcases reported with ((inReceived | inSsrc) | inPayload) | inCsrc
    · exact (receivedOnly _ inReceived).1
    · have quiet := checkSSRCChanged_not_receivedPacket s (unwrapRtx s.rtp header packet).1
        packetType
      rw [ssrcChecked] at quiet
      exact absurd inSsrc quiet
    · rcases (checkPayloadChanged_cases payloadChecked).1 with rfl | ⟨-, -, _, _, _, _, _, rfl⟩ <;>
        simp at inPayload
    · obtain ⟨_, _, impossible⟩ := csrcOnly _ inCsrc
      cases impossible
  · simp [(incomingRTPPacket_of_not_admitted ctx env s header packet packetLength
      admitted).2.1] at reported

theorem step_receivedPacket (ctx : Context σ) (env : Env) (s : Receiver σ) (call : Call)
    (heard : s.rtp.lastReceiveTime ≠ 0) (clock : env.timeInMilliseconds ≠ 0) :
    (∀ packetType, .onReceivedPacket packetType ∉ (s.step ctx env call).2) ∧
        (s.step ctx env call).1.rtp.lastReceiveTime ≠ 0 ∨
      (s.step ctx env call).2 = [.onPacketTimeout] := by
  by_cases isPoll : call = .packetTimeout
  · subst isPoll
    simp only [step, packetTimeout]
    split_ifs
    · exact .inl ⟨by simp, heard⟩
    · exact .inr rfl
    · exact .inl ⟨by simp, heard⟩
  refine .inl ⟨fun packetType reported => ?_, ?_⟩
  · cases call with
    | incomingRTPPacket header packet packetLength =>
      exact heard (incomingRTPPacket_receivedPacket ctx env s header packet packetLength reported)
    | processDeadOrAlive => simp [step, processDeadOrAlive] at reported
    | packetTimeout => exact isPoll rfl
    | _ => simp [step] at reported
  · rcases step_lastReceiveTime ctx env s call with kept | ⟨-, recorded⟩ | ⟨poll, -⟩
    · rwa [kept]
    · rwa [recorded]
    · exact absurd poll isPoll

/-- "Trigger only once": over every run whose clock readings are not 0, from a receiver that has
recorded an arrival, `OnReceivedPacket` is not called before a reported timeout. The callbacks
are some without `OnReceivedPacket`, then nothing, or an `OnPacketTimeout` and what follows it. -/
theorem run_receivedPacket_after_timeout (ctx : Context σ) :
    ∀ (s : Receiver σ) (calls : List (Env × Call)),
      (∀ entry ∈ calls, entry.1.timeInMilliseconds ≠ 0) → s.rtp.lastReceiveTime ≠ 0 →
      ∃ before after, (s.run ctx calls).2 = before ++ after ∧
        (∀ packetType, .onReceivedPacket packetType ∉ before) ∧
        (after = [] ∨ ∃ rest, after = .onPacketTimeout :: rest)
  | _, [], _, _ => ⟨[], [], rfl, fun _ => List.not_mem_nil _, .inl rfl⟩
  | s, (env, call) :: calls, clock, heard =>
    match step_receivedPacket ctx env s call heard (clock _ (List.mem_cons_self _ _)) with
    | .inl ⟨quiet, stillHeard⟩ =>
      have ⟨before, after, split, silent, ending⟩ := run_receivedPacket_after_timeout ctx _ calls
        (fun entry member => clock entry (List.mem_cons_of_mem _ member)) stillHeard
      ⟨(s.step ctx env call).2 ++ before, after, by rw [List.append_assoc, ← split]; rfl,
        fun packetType mem => (List.mem_append.1 mem).elim (quiet packetType) (silent packetType),
        ending⟩
    | .inr timedOut =>
      ⟨[], _, rfl, fun _ => List.not_mem_nil _,
        .inr ⟨_, show (s.step ctx env call).2 ++ _ = _ by rw [timedOut]; rfl⟩⟩

/-- After the VP8 packet at 2 ms: a packet at 300 ms, the timeout at 500 ms and a packet at
510 ms, which is the first to call `OnReceivedPacket` again. -/
def afterVp8Packet : List (Env × Call) :=
  [(clockAt 300, .incomingRTPPacket (vp8Header 1 101) (List.replicate 20 0) 20),
    (clockAt 500, .packetTimeout),
    (clockAt 510, .incomingRTPPacket (vp8Header 1 102) (List.replicate 20 0) 20)]

theorem run_receivedPacket_after_timeout_vp8 :
    (∀ entry ∈ afterVp8Packet, entry.1.timeInMilliseconds ≠ 0) ∧
      timedVp8Receiver.rtp.lastReceiveTime ≠ 0 ∧
      ∃ before after, (timedVp8Receiver.run acceptingVideo afterVp8Packet).2 = before ++ after ∧
        (∀ packetType, .onReceivedPacket packetType ∉ before) ∧
        (after = [] ∨ ∃ rest, after = .onPacketTimeout :: rest) :=
  have clock : ∀ entry ∈ afterVp8Packet, entry.1.timeInMilliseconds ≠ 0 := by decide
  have heard : timedVp8Receiver.rtp.lastReceiveTime ≠ 0 := by decide
  ⟨clock, heard, run_receivedPacket_after_timeout acceptingVideo _ _ clock heard⟩

end Receiver

end RtpRtcp

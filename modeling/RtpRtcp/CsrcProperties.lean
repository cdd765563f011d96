import Mathlib.Data.List.Count
import Mathlib.Data.List.Nodup
import RtpRtcp.IngressProperties

/-!
# CSRC change callbacks

Over every run in which no packet names a nonzero CSRC twice, each nonzero CSRC's reported
additions less removals equal its count in the current list. The scans of `CheckCSRC` test
membership, not counts, so a repeated CSRC breaks the balance.
-/

set_option autoImplicit false

namespace RtpRtcp

/-- The CSRC changes a callback log reports for `csrc`: additions less removals. -/
def csrcBalance (csrc : UWord32) (events : List Event) : Int :=
  events.count (.onIncomingCSRCChanged csrc true) - events.count (.onIncomingCSRCChanged csrc false)

@[simp] theorem csrcBalance_append (csrc : UWord32) (first second : List Event) :
    csrcBalance csrc (first ++ second) = csrcBalance csrc first + csrcBalance csrc second := by
  simp only [csrcBalance, List.count_append]
  omega

/-- A callback log that reports no CSRC change. -/
def CsrcQuiet (events : List Event) : Prop :=
  ∀ csrc added, Event.onIncomingCSRCChanged csrc added ∉ events

theorem CsrcQuiet.csrcBalance {events : List Event} (quiet : CsrcQuiet events) (csrc : UWord32) :
    csrcBalance csrc events = 0 := by
  simp [RtpRtcp.csrcBalance, List.count_eq_zero.2 (quiet csrc true),
    List.count_eq_zero.2 (quiet csrc false)]

theorem count_map_onIncomingCSRCChanged (csrcs : List UWord32) (added : Bool) (csrc : UWord32)
    (reported : Bool) :
    (csrcs.map (Event.onIncomingCSRCChanged · added)).count
        (.onIncomingCSRCChanged csrc reported) =
      if reported = added then csrcs.count csrc else 0 := by
  split_ifs with same
  · subst same
    exact List.count_map_of_injective csrcs (Event.onIncomingCSRCChanged · reported)
      (fun _ _ equal => (Event.onIncomingCSRCChanged.inj equal).1) csrc
  · exact List.count_eq_zero.2 (by simp [Ne.symm same])

theorem csrcBalance_map_added (csrc : UWord32) (csrcs : List UWord32) :
    csrcBalance csrc (csrcs.map (Event.onIncomingCSRCChanged · true)) = csrcs.count csrc := by
  simp [csrcBalance, count_map_onIncomingCSRCChanged]

theorem csrcBalance_map_removed (csrc : UWord32) (csrcs : List UWord32) :
    csrcBalance csrc (csrcs.map (Event.onIncomingCSRCChanged · false)) = -csrcs.count csrc := by
  simp [csrcBalance, count_map_onIncomingCSRCChanged]

/-- A CSRC list names each nonzero CSRC at most once. -/
def UniqueSources (csrcs : List UWord32) : Prop :=
  (csrcs.filter (· ≠ 0)).Nodup

instance : DecidablePred UniqueSources := fun _ => inferInstanceAs (Decidable (List.Nodup _))

theorem UniqueSources.count_eq {csrcs : List UWord32} (unique : UniqueSources csrcs)
    {csrc : UWord32} (nonzero : csrc ≠ 0) :
    csrcs.count csrc = if csrc ∈ csrcs then 1 else 0 := by
  have kept : (csrcs.filter (· ≠ 0)).count csrc = csrcs.count csrc :=
    List.count_filter (by simpa using nonzero)
  have atMostOnce : csrcs.count csrc ≤ 1 := kept ▸ List.nodup_iff_count_le_one.1 unique csrc
  split_ifs with present
  · have := List.count_pos_iff.2 present
    omega
  · exact List.count_eq_zero.2 present

theorem csrcBalance_csrcChangedEvents {newCsrcs oldCsrcs : List UWord32}
    (newUnique : UniqueSources newCsrcs) (oldUnique : UniqueSources oldCsrcs)
    (numCsrcsDiff : Int) {csrc : UWord32} (nonzero : csrc ≠ 0) :
    csrcBalance csrc (csrcChangedEvents newCsrcs oldCsrcs numCsrcsDiff) =
      (newCsrcs.count csrc : Int) - oldCsrcs.count csrc := by
  have countIn {csrcs : List UWord32} {keep : UWord32 → Bool} :
      (csrcs.filter keep).count csrc = if keep csrc then csrcs.count csrc else 0 := by
    split_ifs with kept
    · exact List.count_filter kept
    · exact List.count_eq_zero.2 fun inFilter => kept (List.mem_filter.1 inFilter).2
  -- `simp` writes the literal `0` of `UWord32` as `0#32`.
  have notZero : (csrc = 0#32) = False := eq_false nonzero
  have zeroNot : (0#32 = csrc) = False := eq_false (Ne.symm nonzero)
  rw [newUnique.count_eq nonzero, oldUnique.count_eq nonzero]
  unfold csrcChangedEvents
  dsimp only
  split
  next silent =>
    -- Neither scan reported: the CSRC is in both lists or in neither, and only CSRC 0 is reported.
    have entered := List.filter_eq_nil_iff.1 silent.1 csrc
    have left := List.filter_eq_nil_iff.1 silent.2 csrc
    have same : csrc ∈ newCsrcs ↔ csrc ∈ oldCsrcs :=
      ⟨fun inNew => not_not.1 fun notOld => entered inNew (decide_eq_true ⟨notOld, nonzero⟩),
        fun inOld => not_not.1 fun notNew => left inOld (decide_eq_true ⟨notNew, nonzero⟩)⟩
    simp only [same, sub_self]
    split_ifs <;> simp [csrcBalance, List.count_singleton, zeroNot]
  next =>
    simp only [csrcBalance_append, csrcBalance_map_added, csrcBalance_map_removed, countIn,
      newUnique.count_eq nonzero, oldUnique.count_eq nonzero]
    by_cases inNew : csrc ∈ newCsrcs <;> by_cases inOld : csrc ∈ oldCsrcs <;>
      simp [inNew, inOld, notZero]

theorem CsrcQuiet.append {first second : List Event} (quietFirst : CsrcQuiet first)
    (quietSecond : CsrcQuiet second) : CsrcQuiet (first ++ second) := fun csrc added member =>
  (List.mem_append.1 member).elim (quietFirst csrc added) (quietSecond csrc added)

/-- The CSRC list a call carries: a packet's, and none for the other calls. -/
def Call.arrOfCSRCs : Call → List UWord32
  | .incomingRTPPacket header _ _ => header.arrOfCSRCs
  | _ => []

/-- One step of the receiver seen from the CSRC list, from `before` to `after` with the
callbacks `events`: every nonzero CSRC's balance moves by the change of its count, and no
nonzero CSRC is repeated after. -/
structure CsrcStep (before after : List UWord32) (events : List Event) : Prop where
  balance : ∀ csrc, csrc ≠ 0 →
    csrcBalance csrc events = (after.count csrc : Int) - before.count csrc
  unique : UniqueSources after

theorem CsrcStep.of_eq {before after : List UWord32} {events : List Event} (same : after = before)
    (unique : UniqueSources before) (quiet : CsrcQuiet events) : CsrcStep before after events :=
  ⟨fun csrc _ => by rw [quiet.csrcBalance, same, sub_self], same ▸ unique⟩

theorem CsrcStep.trans {first middle last : List UWord32} {before after : List Event}
    (earlier : CsrcStep first middle before) (later : CsrcStep middle last after) :
    CsrcStep first last (before ++ after) :=
  ⟨fun csrc nonzero => by
    rw [csrcBalance_append, earlier.balance csrc nonzero, later.balance csrc nonzero]
    omega, later.unique⟩

theorem UniqueSources.nil : UniqueSources [] := List.nodup_nil

namespace RTPReceiver

theorem csrcs_of_copy {r : RTPReceiver} {header : WebRtcRTPHeader}
    {old : Fin kRtpCsrcSize → UWord32} (counted : r.numCsrcs.val = header.numCSRCs)
    (copied : r.currentRemoteCsrc =
      if 0 < header.numCSRCs then memcpy old header.arrOfCSRCs else old) :
    r.csrcs = header.arrOfCSRCs := by
  unfold csrcs
  rw [counted, copied]
  unfold WebRtcRTPHeader.numCSRCs
  split_ifs with nonempty
  · exact ofFn_memcpy_take _ _ header.csrcsBounded
  · simp_all

theorem updateStatistics_csrcs (frequencyHz : UWord32) (env : Env) (r : RTPReceiver)
    (header : WebRtcRTPHeader) (bytes : UWord16) (oldPacket : Bool) :
    (r.updateStatistics frequencyHz env header bytes oldPacket).csrcs = r.csrcs := by
  rw [updateStatistics_eq_with]
  rfl

theorem recordPacket_csrcs (jitterDelayMs : Nat → Nat → Int) (frequencyHz : UWord32) (env : Env)
    (r : RTPReceiver) (header : WebRtcRTPHeader) (payloadDataLength : UWord16) :
    (r.recordPacket jitterDelayMs frequencyHz env header payloadDataLength).csrcs = r.csrcs := by
  unfold recordPacket
  dsimp only
  split_ifs <;> exact updateStatistics_csrcs ..

theorem statistics_csrcs (r : RTPReceiver) (reset : Bool) : (r.statistics reset).1.csrcs = r.csrcs := by
  rw [statistics_fst_eq]
  rfl

theorem recordPacket_energy (jitterDelayMs : Nat → Nat → Int) (frequencyHz : UWord32) (env : Env)
    (r : RTPReceiver) (header : WebRtcRTPHeader) (payloadDataLength : UWord16) :
    (r.recordPacket jitterDelayMs frequencyHz env header payloadDataLength).energy = r.energy := by
  unfold recordPacket
  dsimp only
  split_ifs <;> rw [updateStatistics_eq_with] <;> rfl

theorem setNACKStatus_csrcs (r : RTPReceiver) (method : NACKMethod) (threshold : Int) :
    (r.setNACKStatus method threshold).1.csrcs = r.csrcs := by
  unfold setNACKStatus
  split_ifs <;> rfl

end RTPReceiver

namespace Receiver

variable {σ : Type}

theorem checkSSRCChanged_csrcs (s : Receiver σ) (header : WebRtcRTPHeader) :
    (s.checkSSRCChanged header).1.rtp.csrcs = s.rtp.csrcs := by
  unfold checkSSRCChanged
  dsimp only
  split_ifs
  · split <;> rfl
  · rfl
  · rfl

theorem checkSSRCChanged_currentRemoteEnergy (s : Receiver σ) (header : WebRtcRTPHeader) :
    (s.checkSSRCChanged header).1.rtp.currentRemoteEnergy = s.rtp.currentRemoteEnergy := by
  unfold checkSSRCChanged
  dsimp only
  split_ifs
  · split <;> rfl
  · rfl
  · rfl

theorem checkSSRCChanged_quiet (s : Receiver σ) (header : WebRtcRTPHeader) :
    CsrcQuiet (s.checkSSRCChanged header).2 := by
  unfold checkSSRCChanged initializeDecoderEvent
  dsimp only
  split_ifs
  · split
    · simp [CsrcQuiet]
    · split <;> simp [CsrcQuiet]
  · simp [CsrcQuiet]
  · simp [CsrcQuiet]

theorem checkPayloadChanged_csrcs (strategy : RTPReceiverStrategy σ) (s : Receiver σ)
    (header : WebRtcRTPHeader) (firstPayloadByte : UWord8) :
    (s.checkPayloadChanged strategy header firstPayloadByte).1.rtp.csrcs = s.rtp.csrcs := by
  rcases checkPayloadChanged_rtp strategy s header firstPayloadByte with same | reset
  · rw [same]
  · rw [reset]
    rfl

theorem changePayload_quiet (strategy : RTPReceiverStrategy σ) (s : Receiver σ)
    (payloadType : Nat) (isRed : Bool) : CsrcQuiet (s.changePayload strategy payloadType isRed).2.1 := by
  intro csrc added
  unfold changePayload
  split
  simp only
  split
  · simp
  · split
    · simp
    · split <;> simp

theorem checkPayloadChanged_quiet (strategy : RTPReceiverStrategy σ) (s : Receiver σ)
    (header : WebRtcRTPHeader) (firstPayloadByte : UWord8) :
    CsrcQuiet (s.checkPayloadChanged strategy header firstPayloadByte).2.1 := by
  unfold checkPayloadChanged
  dsimp only
  split_ifs <;> first | exact changePayload_quiet _ _ _ _ | simp [CsrcQuiet]

theorem checkCSRC_csrcStep (strategy : RTPReceiverStrategy σ) (s : Receiver σ)
    (header : WebRtcRTPHeader) (newUnique : UniqueSources header.arrOfCSRCs)
    (oldUnique : UniqueSources s.rtp.csrcs) :
    CsrcStep s.rtp.csrcs (s.checkCSRC strategy header).1.rtp.csrcs (s.checkCSRC strategy header).2 := by
  unfold checkCSRC
  by_cases reporting : strategy.shouldReportCsrcChanges s.media header.payloadType
  · simp only [reporting, not_true_eq_false, ↓reduceIte]
    by_cases changed : 0 < header.numCSRCs ∨ 0 < s.rtp.numCsrcs.val
    · simp only [changed, ↓reduceIte]
      convert (⟨fun csrc nonzero => csrcBalance_csrcChangedEvents newUnique oldUnique _ nonzero,
        newUnique⟩ : CsrcStep s.rtp.csrcs header.arrOfCSRCs
          (csrcChangedEvents header.arrOfCSRCs s.rtp.csrcs (header.numCSRCs - s.rtp.numCsrcs.val)))
        using 1
      exact RTPReceiver.csrcs_of_copy rfl rfl
    · simp only [changed, ↓reduceIte]
      exact .of_eq rfl oldUnique (by simp [CsrcQuiet])
  · simp only [reporting, not_false_eq_true, ↓reduceIte, Bool.false_eq_true]
    exact .of_eq rfl oldUnique (by simp [CsrcQuiet])

theorem processPacket_csrcStep (ctx : Context σ) (env : Env) (s : Receiver σ)
    (header : WebRtcRTPHeader) (packet : List UWord8) (packetLength : UWord16) (length : Int)
    (reads : List Nat) (newUnique : UniqueSources header.arrOfCSRCs)
    (oldUnique : UniqueSources s.rtp.csrcs) :
    CsrcStep s.rtp.csrcs (processPacket ctx env s header packet packetLength length reads).receiver.rtp.csrcs
      (processPacket ctx env s header packet packetLength length reads).events := by
  unfold processPacket
  rcases ssrcChecked : s.checkSSRCChanged header with ⟨s₁, ssrcEvents⟩
  have ssrcCsrcs : s₁.rtp.csrcs = s.rtp.csrcs := by
    simpa only [ssrcChecked] using checkSSRCChanged_csrcs s header
  have ssrcQuiet : CsrcQuiet ssrcEvents := by
    simpa only [ssrcChecked] using checkSSRCChanged_quiet s header
  rcases payloadChecked : s₁.checkPayloadChanged ctx.strategy header
      (if 0 < length then packet.getD header.headerLength.toNat 0 else 0) with ⟨s₂, payloadEvents, check⟩
  have payloadCsrcs : s₂.rtp.csrcs = s₁.rtp.csrcs := by
    simpa only [payloadChecked] using checkPayloadChanged_csrcs ctx.strategy s₁ header
      (if 0 < length then packet.getD header.headerLength.toNat 0 else 0)
  have payloadQuiet : CsrcQuiet payloadEvents := by
    simpa only [payloadChecked] using checkPayloadChanged_quiet ctx.strategy s₁ header
      (if 0 < length then packet.getD header.headerLength.toNat 0 else 0)
  rcases csrcChecked : s₂.checkCSRC ctx.strategy header with ⟨s₃, csrcEvents⟩
  have third : CsrcStep s₂.rtp.csrcs s₃.rtp.csrcs csrcEvents := by
    simpa only [csrcChecked] using
      checkCSRC_csrcStep ctx.strategy s₂ header newUnique (payloadCsrcs.trans ssrcCsrcs ▸ oldUnique)
  simp only [ssrcChecked, payloadChecked, csrcChecked]
  generalize receivedIs : (if s.rtp.lastReceiveTime = 0 then
    [Event.onReceivedPacket
      (if length - header.headerLength.toNat = 0 then .kPacketKeepAlive else .kPacketRtp)]
    else []) = received
  have receivedQuiet : CsrcQuiet received := by
    rw [← receivedIs]
    split_ifs <;> simp [CsrcQuiet]
  have checked : CsrcStep s.rtp.csrcs s₂.rtp.csrcs (received ++ ssrcEvents ++ payloadEvents) :=
    .of_eq (payloadCsrcs.trans ssrcCsrcs) oldUnique
      ((receivedQuiet.append ssrcQuiet).append payloadQuiet)
  by_cases refused : check.result = -1
  · simp only [refused, ↓reduceIte]
    exact checked
  · simp only [refused, ↓reduceIte]
    split
    · exact checked.trans third
    · dsimp only
      rw [RTPReceiver.recordPacket_csrcs]
      exact checked.trans third

theorem unwrapRtx_eq_with (r : RTPReceiver) (header : WebRtcRTPHeader) (packet : List UWord8) :
    ∃ ssrc sequenceNumber headerLength,
      (unwrapRtx r header packet).1 = { header with ssrc, sequenceNumber, headerLength } := by
  unfold unwrapRtx
  split_ifs
  · exact ⟨_, _, _, rfl⟩
  · exact ⟨header.ssrc, header.sequenceNumber, header.headerLength, rfl⟩

theorem unwrapRtx_arrOfCSRCs (r : RTPReceiver) (header : WebRtcRTPHeader) (packet : List UWord8) :
    (unwrapRtx r header packet).1.arrOfCSRCs = header.arrOfCSRCs := by
  unfold unwrapRtx
  split_ifs <;> rfl

theorem incomingRTPPacket_csrcStep (ctx : Context σ) (env : Env) (s : Receiver σ)
    (header : WebRtcRTPHeader) (packet : List UWord8) (packetLength : UWord16)
    (newUnique : UniqueSources header.arrOfCSRCs) (oldUnique : UniqueSources s.rtp.csrcs) :
    CsrcStep s.rtp.csrcs (s.incomingRTPPacket ctx env header packet packetLength).receiver.rtp.csrcs
      (s.incomingRTPPacket ctx env header packet packetLength).events := by
  by_cases admitted : Admitted s.rtp header packet packetLength
  · rw [incomingRTPPacket_of_admitted ctx env s header packet packetLength admitted]
    exact processPacket_csrcStep ctx env s _ packet packetLength _ _
      (by rwa [unwrapRtx_arrOfCSRCs]) oldUnique
  · obtain ⟨unchanged, silent, -⟩ :=
      incomingRTPPacket_of_not_admitted ctx env s header packet packetLength admitted
    rw [unchanged, silent]
    exact .of_eq rfl oldUnique (by simp [CsrcQuiet])

/-- Every call keeps the CSRC balance at the change of the CSRC list when its packet, if any,
names no nonzero CSRC twice: only packets change the list, and only through `CheckCSRC`. -/
theorem step_csrcStep (ctx : Context σ) (env : Env) (s : Receiver σ) (call : Call)
    (newUnique : UniqueSources call.arrOfCSRCs) (oldUnique : UniqueSources s.rtp.csrcs) :
    CsrcStep s.rtp.csrcs (s.step ctx env call).1.rtp.csrcs (s.step ctx env call).2 := by
  cases call with
  | incomingRTPPacket header packet packetLength =>
    exact incomingRTPPacket_csrcStep ctx env s header packet packetLength newUnique oldUnique
  | statistics reset =>
    exact .of_eq (RTPReceiver.statistics_csrcs _ _) oldUnique (by simp [step, CsrcQuiet])
  | setNACKStatus method threshold =>
    exact .of_eq (RTPReceiver.setNACKStatus_csrcs _ _ _) oldUnique (by simp [step, CsrcQuiet])
  | packetTimeout =>
    refine .of_eq ?_ oldUnique ?_ <;> simp only [step, packetTimeout] <;> split_ifs <;>
      first | rfl | simp [CsrcQuiet]
  | registerReceivePayload payloadName payloadType frequency channels rate =>
    refine .of_eq ?_ oldUnique (by simp [step, CsrcQuiet])
    simp only [step, registerReceivePayload]
    split_ifs <;> rfl
  | _ => exact .of_eq rfl oldUnique (by simp [step, CsrcQuiet, processDeadOrAlive])

theorem run_csrcStep (ctx : Context σ) : ∀ (s : Receiver σ) (calls : List (Env × Call)),
    (∀ entry ∈ calls, UniqueSources entry.2.arrOfCSRCs) → UniqueSources s.rtp.csrcs →
    CsrcStep s.rtp.csrcs (s.run ctx calls).1.rtp.csrcs (s.run ctx calls).2
  | s, [], _, unique => .of_eq rfl unique (by simp [run, CsrcQuiet])
  | s, (env, call) :: calls, callsUnique, unique =>
    have first := step_csrcStep ctx env s call (callsUnique _ (List.mem_cons_self _ _)) unique
    first.trans (run_csrcStep ctx _ calls
      (fun entry member => callsUnique entry (List.mem_cons_of_mem _ member)) first.unique)

/-- Over every run of calls from construction in which no packet names a nonzero CSRC twice,
each nonzero CSRC's reported additions less removals are 1 while it is in the current list and
0 otherwise, and they balance once the destructor has reported the list removed. -/
theorem run_csrcBalance (ctx : Context σ) (media : σ) (calls : List (Env × Call))
    (unique : ∀ entry ∈ calls, UniqueSources entry.2.arrOfCSRCs) {csrc : UWord32}
    (nonzero : csrc ≠ 0) :
    csrcBalance csrc ((init media).run ctx calls).2 =
        (if csrc ∈ ((init media).run ctx calls).1.rtp.csrcs then 1 else 0) ∧
      csrcBalance csrc (((init media).run ctx calls).2 ++ ((init media).run ctx calls).1.destructor) =
        0 := by
  have step := run_csrcStep ctx (init media) calls unique UniqueSources.nil
  have balance := step.balance csrc nonzero
  rw [step.unique.count_eq nonzero] at balance
  refine ⟨by rw [balance]; split_ifs <;> rfl, ?_⟩
  rw [csrcBalance_append, balance, destructor, csrcBalance_map_removed,
    step.unique.count_eq nonzero]
  split_ifs <;> rfl

/-- VP8 registered and packets of SSRC 1 with the CSRC lists [5, 7] and [7, 0, 0]. -/
def changingCsrcs : List (Env × Call) :=
  [(clockAt 1, .registerReceivePayload "VP8" 96 90000 1 0),
   (clockAt 2, .incomingRTPPacket (vp8Header 1 100 [5, 7]) (List.replicate 20 0) 20),
   (clockAt 3, .incomingRTPPacket (vp8Header 1 101 [7, 0, 0]) (List.replicate 20 0) 20)]

/-- CSRC 5 leaves with the second packet: its balance is back at 0, and stays there through
the destructor. -/
theorem run_csrcBalance_changing :
    (∀ entry ∈ changingCsrcs, UniqueSources entry.2.arrOfCSRCs) ∧ (5 : UWord32) ≠ 0 ∧
      (csrcBalance 5 ((init default).run acceptingVideo changingCsrcs).2 =
          (if (5 : UWord32) ∈ ((init default).run acceptingVideo changingCsrcs).1.rtp.csrcs then 1
            else 0) ∧
        csrcBalance 5 (((init default).run acceptingVideo changingCsrcs).2 ++
          ((init default).run acceptingVideo changingCsrcs).1.destructor) = 0) :=
  have unique : ∀ entry ∈ changingCsrcs, UniqueSources entry.2.arrOfCSRCs := by decide
  ⟨unique, by decide, run_csrcBalance acceptingVideo default changingCsrcs unique (by decide)⟩

/-- VP8 registered and a packet of SSRC 1 that names CSRC 5 twice, then one that names it once. -/
def repeatedCsrcs : List (Env × Call) :=
  [(clockAt 1, .registerReceivePayload "VP8" 96 90000 1 0),
   (clockAt 2, .incomingRTPPacket (vp8Header 1 100 [5, 5]) (List.replicate 20 0) 20),
   (clockAt 3, .incomingRTPPacket (vp8Header 1 101 [5]) (List.replicate 20 0) 20)]

/-- The first packet reports CSRC 5 added twice, so its balance is 2 while it is in the list.
The second reports nothing for CSRC 5, which stays, but the count went down, so it reports CSRC 0
removed. The destructor then removes 5 once: over the receiver's life CSRC 5 is added twice and
removed once, and CSRC 0 is removed once and never added. -/
theorem run_repeated_csrc_unbalanced :
    (5 : UWord32) ∈ ((init default).run acceptingVideo (repeatedCsrcs.take 2)).1.rtp.csrcs ∧
      csrcBalance 5 ((init default).run acceptingVideo (repeatedCsrcs.take 2)).2 = 2 ∧
      csrcBalance 5 (((init default).run acceptingVideo repeatedCsrcs).2 ++
        ((init default).run acceptingVideo repeatedCsrcs).1.destructor) = 1 ∧
      csrcBalance 0 (((init default).run acceptingVideo repeatedCsrcs).2 ++
        ((init default).run acceptingVideo repeatedCsrcs).1.destructor) = -1 := by
  decide

/-- What `CSRCs()` and `Energy()` read back after `CheckCSRC` with reporting: the packet's CSRC
list, and the packet's energy count with as many stored levels as the packet has CSRCs. The
levels are the packet's first, then older ones; none when the packet has no energy. -/
theorem checkCSRC_readback (strategy : RTPReceiverStrategy σ) (s : Receiver σ)
    (header : WebRtcRTPHeader)
    (reporting : strategy.shouldReportCsrcChanges s.media header.payloadType = true) :
    (s.checkCSRC strategy header).1.rtp.csrcs = header.arrOfCSRCs ∧
      (s.checkCSRC strategy header).1.rtp.energy = (header.numEnergy,
        if 0 < header.numEnergy then
          (List.ofFn (memcpy s.rtp.currentRemoteEnergy header.arrOfEnergy)).take header.numCSRCs
        else []) := by
  unfold checkCSRC
  simp only [reporting, not_true_eq_false, ↓reduceIte]
  by_cases changed : 0 < header.numCSRCs ∨ 0 < s.rtp.numCsrcs.val
  · simp only [changed, ↓reduceIte]
    refine ⟨RTPReceiver.csrcs_of_copy rfl rfl, ?_⟩
    unfold RTPReceiver.energy
    split_ifs <;> rfl
  · simp only [changed, ↓reduceIte]
    have none : header.numCSRCs = 0 ∧ s.rtp.numCsrcs.val = 0 := by omega
    refine ⟨RTPReceiver.csrcs_of_copy (none.2.trans none.1.symm)
      (by rw [if_neg (show ¬0 < header.numCSRCs by omega)]), ?_⟩
    unfold RTPReceiver.energy
    dsimp only
    rw [none.1, none.2]
    split_ifs <;> rfl

theorem processPacket_readback (ctx : Context σ) (env : Env) (s : Receiver σ)
    (header : WebRtcRTPHeader) (packet : List UWord8) (packetLength : UWord16) (length : Int)
    (reads : List Nat)
    (passed : ((s.checkSSRCChanged header).1.checkPayloadChanged ctx.strategy header
      (if 0 < length then packet.getD header.headerLength.toNat 0 else 0)).2.2.result ≠ -1)
    (reporting : ∀ media, ctx.strategy.shouldReportCsrcChanges media header.payloadType = true) :
    (processPacket ctx env s header packet packetLength length reads).receiver.rtp.csrcs =
        header.arrOfCSRCs ∧
      (processPacket ctx env s header packet packetLength length reads).receiver.rtp.energy =
        (header.numEnergy, if 0 < header.numEnergy then
          (List.ofFn (memcpy s.rtp.currentRemoteEnergy header.arrOfEnergy)).take header.numCSRCs
          else []) := by
  unfold processPacket
  rcases ssrcChecked : s.checkSSRCChanged header with ⟨s₁, ssrcEvents⟩
  rcases payloadChecked : s₁.checkPayloadChanged ctx.strategy header
      (if 0 < length then packet.getD header.headerLength.toNat 0 else 0) with
    ⟨s₂, payloadEvents, check⟩
  have kept : s₂.rtp.currentRemoteEnergy = s.rtp.currentRemoteEnergy := by
    have checked := checkSSRCChanged_currentRemoteEnergy s header
    rw [ssrcChecked] at checked
    have payload := checkPayloadChanged_rtp ctx.strategy s₁ header
      (if 0 < length then packet.getD header.headerLength.toNat 0 else 0)
    rw [payloadChecked] at payload
    rcases payload with same | same <;> rw [same] <;> exact checked
  have readback := checkCSRC_readback ctx.strategy s₂ header (reporting s₂.media)
  rw [kept] at readback
  rcases csrcChecked : s₂.checkCSRC ctx.strategy header with ⟨s₃, csrcEvents⟩
  rw [csrcChecked] at readback
  simp only [ssrcChecked, payloadChecked, csrcChecked] at passed ⊢
  rw [if_neg passed]
  split
  · exact readback
  · rw [RTPReceiver.recordPacket_csrcs, RTPReceiver.recordPacket_energy]
    exact readback

/-- After a packet that passes the length, RTX, SSRC-filter and payload checks, with a strategy
that reports CSRC changes, `CSRCs()` answers the packet's CSRC list and `Energy()` the packet's
energy count with as many levels as the packet has CSRCs: the packet's own first, then the ones
stored before it. -/
theorem incomingRTPPacket_readback (ctx : Context σ) (env : Env) (s : Receiver σ)
    (header : WebRtcRTPHeader) (packet : List UWord8) (packetLength : UWord16)
    (admitted : Admitted s.rtp header packet packetLength)
    (passed : ((s.checkSSRCChanged (unwrapRtx s.rtp header packet).1).1.checkPayloadChanged
      ctx.strategy (unwrapRtx s.rtp header packet).1
      (firstPayloadByte s.rtp header packet packetLength)).2.2.result ≠ -1)
    (reporting : ∀ media, ctx.strategy.shouldReportCsrcChanges media header.payloadType = true) :
    (s.incomingRTPPacket ctx env header packet packetLength).receiver.rtp.csrcs =
        header.arrOfCSRCs ∧
      (s.incomingRTPPacket ctx env header packet packetLength).receiver.rtp.energy =
        (header.numEnergy, if 0 < header.numEnergy then
          (List.ofFn (memcpy s.rtp.currentRemoteEnergy header.arrOfEnergy)).take header.numCSRCs
          else []) := by
  obtain ⟨_, _, _, unwrapped⟩ := unwrapRtx_eq_with s.rtp header packet
  rw [incomingRTPPacket_of_admitted ctx env s header packet packetLength admitted]
  have readback := processPacket_readback ctx env s _ packet packetLength
    (packetLength.toNat - header.paddingLength.toNat) (unwrapRtx s.rtp header packet).2 passed
    (by rw [unwrapped]; exact reporting)
  exact ⟨readback.1.trans (by rw [unwrapped]), readback.2.trans (by rw [unwrapped]; rfl)⟩

/-- VP8 registered, a packet with CSRC 5 and the energy levels 10 and 20, then one with the
CSRCs 5 and 7 and the single level 30. -/
def unevenEnergy : List (Env × Call) :=
  [(clockAt 1, .registerReceivePayload "VP8" 96 90000 1 0),
   (clockAt 2, .incomingRTPPacket
      { vp8Header 1 100 [5] with arrOfEnergy := [10, 20], energyBounded := by decide }
      (List.replicate 20 0) 20),
   (clockAt 3, .incomingRTPPacket
      { vp8Header 1 101 [5, 7] with arrOfEnergy := [30], energyBounded := by decide }
      (List.replicate 20 0) 20)]

/-- `Energy()` copies `num_csrcs_` levels but returns `num_energy_`. After the first packet it
returns 2 and writes only the level 10; after the second it returns 1 and writes two levels, the
packet's 30 and the first packet's 20. `CSRCs()` answers each packet's list. -/
theorem energy_copies_csrc_count :
    ((init default).run acceptingVideo (unevenEnergy.take 2)).1.rtp.csrcs = [5] ∧
      ((init default).run acceptingVideo (unevenEnergy.take 2)).1.rtp.energy = (2, [10]) ∧
      ((init default).run acceptingVideo unevenEnergy).1.rtp.csrcs = [5, 7] ∧
      ((init default).run acceptingVideo unevenEnergy).1.rtp.energy = (1, [30, 20]) := by
  have reporting : ∀ media payloadType,
      acceptingVideo.strategy.shouldReportCsrcChanges media payloadType = true := fun _ _ => rfl
  have first := fun header packet packetLength admitted passed =>
    incomingRTPPacket_readback acceptingVideo (clockAt 2)
      ((init default).run acceptingVideo (unevenEnergy.take 1)).1 header packet packetLength admitted
      passed (reporting · _)
  have second := fun header packet packetLength admitted passed =>
    incomingRTPPacket_readback acceptingVideo (clockAt 3)
      ((init default).run acceptingVideo (unevenEnergy.take 2)).1 header packet packetLength admitted
      passed (reporting · _)
  refine ⟨(first _ _ _ ?_ ?_).1.trans ?_, (first _ _ _ ?_ ?_).2.trans ?_,
    (second _ _ _ ?_ ?_).1.trans ?_, (second _ _ _ ?_ ?_).2.trans ?_⟩ <;>
    first | decide | (unfold Admitted; decide)

end Receiver

end RtpRtcp

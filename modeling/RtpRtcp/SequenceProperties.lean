import RtpRtcp.Configuration
import RtpRtcp.RetransmitProperties

/-!
# Sequence tracking

With a reordering threshold of at most 255, `UpdateStatistics` keeps the 16-bit maximum and the
wrap count of the largest unwrapped sequence number seen. The threshold is admitted in every
reachable state.
-/

set_option autoImplicit false

namespace RtpRtcp

namespace RTPReceiver

@[simp] theorem updateStatistics_maxReorderingThreshold (frequencyHz : UWord32) (env : Env)
    (r : RTPReceiver) (header : WebRtcRTPHeader) (bytes : UWord16) (oldPacket : Bool) :
    (r.updateStatistics frequencyHz env header bytes oldPacket).maxReorderingThreshold =
      r.maxReorderingThreshold := by
  rw [updateStatistics_eq_with]

@[simp] theorem recordPacket_maxReorderingThreshold (jitterDelayMs : Nat → Nat → Int)
    (frequencyHz : UWord32) (env : Env) (r : RTPReceiver) (header : WebRtcRTPHeader)
    (payloadDataLength : UWord16) :
    (r.recordPacket jitterDelayMs frequencyHz env header payloadDataLength).maxReorderingThreshold =
      r.maxReorderingThreshold := by
  unfold recordPacket
  dsimp only
  split_ifs <;> simp

theorem recordPacket_stats (jitterDelayMs : Nat → Nat → Int) (frequencyHz : UWord32) (env : Env)
    (r : RTPReceiver) (header : WebRtcRTPHeader) (payloadDataLength : UWord16) :
    (r.recordPacket jitterDelayMs frequencyHz env header payloadDataLength).stats =
      (r.updateStatistics frequencyHz env header payloadDataLength
        (r.retransmitOfOldPacket jitterDelayMs frequencyHz env header.sequenceNumber
          header.timestamp)).stats := by
  unfold recordPacket
  dsimp only
  split_ifs <;> rfl

theorem recordPacket_stats_of_inOrder (jitterDelayMs : Nat → Nat → Int) (frequencyHz : UWord32)
    (env : Env) (r : RTPReceiver) (header : WebRtcRTPHeader) (payloadDataLength : UWord16)
    (started : ¬(r.stats.receivedSeqMax = 0 ∧ r.stats.receivedSeqWraps = 0))
    (inOrder : r.inOrderPacket header.sequenceNumber = true) :
    ∃ jitterQ4 jitterQ4TransmissionTimeOffset,
      (r.recordPacket jitterDelayMs frequencyHz env header payloadDataLength).stats =
        { r.stats with
          receivedByteCount := r.stats.receivedByteCount + payloadDataLength.setWidth 32
          receivedInorderPacketCount := r.stats.receivedInorderPacketCount + 1
          receivedSeqWraps :=
            if (header.sequenceNumber.toNat : Int) - r.stats.receivedSeqMax.toNat < 0 then
              r.stats.receivedSeqWraps + 1
            else r.stats.receivedSeqWraps
          receivedSeqMax := header.sequenceNumber, jitterQ4, jitterQ4TransmissionTimeOffset } := by
  rw [recordPacket_stats]
  unfold updateStatistics
  simp only [countBytes_receivedSeqMax, countBytes_receivedSeqWraps, started, ↓reduceIte,
    inOrderPacket_countBytes, inOrder]
  exact ⟨_, _, rfl⟩

theorem recordPacket_stats_of_first (jitterDelayMs : Nat → Nat → Int) (frequencyHz : UWord32)
    (env : Env) (r : RTPReceiver) (header : WebRtcRTPHeader) (payloadDataLength : UWord16)
    (zeros : r.stats.receivedSeqMax = 0 ∧ r.stats.receivedSeqWraps = 0) :
    (r.recordPacket jitterDelayMs frequencyHz env header payloadDataLength).stats =
      { r.stats with
        receivedByteCount := r.stats.receivedByteCount + payloadDataLength.setWidth 32
        receivedSeqFirst := header.sequenceNumber, receivedSeqMax := header.sequenceNumber
        receivedInorderPacketCount := 1 } := by
  rw [recordPacket_stats]
  unfold updateStatistics
  simp only [countBytes_receivedSeqMax, countBytes_receivedSeqWraps, zeros, and_self, ↓reduceIte]
  rfl

theorem recordPacket_stats_of_reordered (jitterDelayMs : Nat → Nat → Int) (frequencyHz : UWord32)
    (env : Env) (r : RTPReceiver) (header : WebRtcRTPHeader) (payloadDataLength : UWord16)
    (started : ¬(r.stats.receivedSeqMax = 0 ∧ r.stats.receivedSeqWraps = 0))
    (reordered : r.inOrderPacket header.sequenceNumber = false) :
    ∃ receivedOldPacketCount receivedInorderPacketCount,
      (r.recordPacket jitterDelayMs frequencyHz env header payloadDataLength).stats =
        { r.stats with
          receivedByteCount := r.stats.receivedByteCount + payloadDataLength.setWidth 32
          receivedOldPacketCount, receivedInorderPacketCount } := by
  rw [recordPacket_stats]
  unfold updateStatistics
  simp only [countBytes_receivedSeqMax, countBytes_receivedSeqWraps, started, ↓reduceIte,
    inOrderPacket_countBytes, reordered, Bool.false_eq_true]
  split_ifs <;> exact ⟨_, _, rfl⟩

/-- The extended highest sequence number `(received_seq_wraps_ << 16) + received_seq_max_` read
as an unbounded number. -/
def unwrappedSeqMax (stats : ReceiveStatistics) : Nat :=
  stats.receivedSeqWraps.toNat * 2 ^ 16 + stats.receivedSeqMax.toNat

theorem inOrderPacket_receivedSeqMax {r : RTPReceiver} (admitted : 0 ≤ r.maxReorderingThreshold) :
    r.inOrderPacket r.stats.receivedSeqMax = false := by
  unfold inOrderPacket
  dsimp only
  split_ifs <;> first | omega | (rw [decide_eq_false_iff_not]; omega)

/-- While the wrap count is below `2^16`, `UpdateStatistics` never lowers the unwrapped maximum.
After the first packet it raises it exactly when `InOrderPacket` accepts the packet, restarts
of the remote side included, and leaves it otherwise. An accepted packet below the maximum
counts a wrap and so still raises it, and the maximum itself is never accepted. -/
theorem updateStatistics_unwrappedSeqMax (frequencyHz : UWord32) (env : Env) (r : RTPReceiver)
    (header : WebRtcRTPHeader) (bytes : UWord16) (oldPacket : Bool)
    (admitted : 0 ≤ r.maxReorderingThreshold) (fewWraps : r.stats.receivedSeqWraps.toNat < 2 ^ 16) :
    unwrappedSeqMax r.stats ≤
        unwrappedSeqMax (r.updateStatistics frequencyHz env header bytes oldPacket).stats ∧
      (¬(r.stats.receivedSeqMax = 0 ∧ r.stats.receivedSeqWraps = 0) →
        (unwrappedSeqMax r.stats <
            unwrappedSeqMax (r.updateStatistics frequencyHz env header bytes oldPacket).stats ↔
          r.inOrderPacket header.sequenceNumber = true) ∧
        (r.inOrderPacket header.sequenceNumber = false →
          unwrappedSeqMax (r.updateStatistics frequencyHz env header bytes oldPacket).stats =
            unwrappedSeqMax r.stats)) := by
  unfold updateStatistics
  simp only [countBytes_receivedSeqMax, countBytes_receivedSeqWraps, inOrderPacket_countBytes]
  split
  · next zeros =>
    have zero : unwrappedSeqMax r.stats = 0 := by simp [unwrappedSeqMax, zeros.1, zeros.2]
    exact ⟨zero ▸ Nat.zero_le _, fun started => absurd zeros started⟩
  · split
    · next inOrder =>
      have moved : header.sequenceNumber.toNat ≠ r.stats.receivedSeqMax.toNat := fun same =>
        absurd inOrder (by rw [BitVec.eq_of_toNat_eq same, inOrderPacket_receivedSeqMax admitted]; decide)
      have := header.sequenceNumber.isLt
      have := r.stats.receivedSeqMax.isLt
      unfold unwrappedSeqMax updateInOrder
      dsimp only
      simp only [countBytes_receivedSeqMax, countBytes_receivedSeqWraps, inOrder, iff_true,
        Bool.true_eq_false, false_implies, and_true]
      split
      · -- a lower number is a wrap: the wrap count goes up by one without overflowing
        have one : (1 : UWord32).toNat = 1 := rfl
        rw [BitVec.toNat_add, one, Nat.mod_eq_of_lt (by omega)]
        constructor <;> omega
      · constructor <;> omega
    · next reordered =>
      simp only [Bool.not_eq_true] at reordered
      simp only [reordered, Bool.false_eq_true, iff_false, forall_const]
      split <;> simp [unwrappedSeqMax]

/-- After packets 100 and 101, packet 102 raises the unwrapped maximum. -/
theorem updateStatistics_unwrappedSeqMax_after_two_packets :
    0 ≤ twoAudioPackets.maxReorderingThreshold ∧
      twoAudioPackets.stats.receivedSeqWraps.toNat < 2 ^ 16 ∧
    (RTPReceiver.unwrappedSeqMax twoAudioPackets.stats ≤ RTPReceiver.unwrappedSeqMax
        (twoAudioPackets.updateStatistics 8000 (arrivalAt 1040 30) (pcmuHeader 102 1320) 160 false).stats ∧
      (¬(twoAudioPackets.stats.receivedSeqMax = 0 ∧ twoAudioPackets.stats.receivedSeqWraps = 0) →
        (RTPReceiver.unwrappedSeqMax twoAudioPackets.stats < RTPReceiver.unwrappedSeqMax
            (twoAudioPackets.updateStatistics 8000 (arrivalAt 1040 30) (pcmuHeader 102 1320) 160
              false).stats ↔
          twoAudioPackets.inOrderPacket (pcmuHeader 102 1320).sequenceNumber = true) ∧
        (twoAudioPackets.inOrderPacket (pcmuHeader 102 1320).sequenceNumber = false →
          RTPReceiver.unwrappedSeqMax (twoAudioPackets.updateStatistics 8000 (arrivalAt 1040 30)
            (pcmuHeader 102 1320) 160 false).stats =
            RTPReceiver.unwrappedSeqMax twoAudioPackets.stats))) :=
  ⟨by decide, by decide, RTPReceiver.updateStatistics_unwrappedSeqMax 8000 (arrivalAt 1040 30)
    twoAudioPackets (pcmuHeader 102 1320) 160 false (by decide) (by decide)⟩

/-- The statistics follow the unwrapped maximum `highest`: the 16-bit maximum is its low 16
bits and the wrap count the rest. -/
def TracksMax (stats : ReceiveStatistics) (highest : Nat) : Prop :=
  stats.receivedSeqMax.toNat = highest % 2 ^ 16 ∧ stats.receivedSeqWraps.toNat = highest / 2 ^ 16

theorem TracksMax.extendedHighSeqNum {stats : ReceiveStatistics} {highest : Nat}
    (tracks : TracksMax stats highest) :
    (extendedHighSeqNum stats).toNat = highest % 2 ^ 32 := by
  unfold RTPReceiver.extendedHighSeqNum
  simp only [BitVec.toNat_add, BitVec.toNat_shiftLeft, BitVec.toNat_setWidth, Nat.shiftLeft_eq,
    tracks.1, tracks.2]
  omega

theorem inOrderPacket_iff_above {r : RTPReceiver} {highest unwrapped : Nat}
    (tracks : TracksMax r.stats highest) (admitted : 0 ≤ r.maxReorderingThreshold)
    (narrow : r.maxReorderingThreshold ≤ 255)
    (late : (highest : Int) ≤ unwrapped + r.maxReorderingThreshold)
    (early : unwrapped < highest + 2 ^ 15) (sequenceNumber : UWord16)
    (low : sequenceNumber.toNat = unwrapped % 2 ^ 16) :
    r.inOrderPacket sequenceNumber = decide (highest < unwrapped) := by
  unfold inOrderPacket
  simp only [low, tracks.1]
  split_ifs <;> simp <;> omega

theorem inOrderPacket_of_advance {r : RTPReceiver} {highest unwrapped : Nat}
    (tracks : TracksMax r.stats highest) (threshold : r.maxReorderingThreshold ≤ 2 ^ 15)
    (above : highest < unwrapped) (early : unwrapped < highest + 2 ^ 15) (sequenceNumber : UWord16)
    (low : sequenceNumber.toNat = unwrapped % 2 ^ 16) :
    r.inOrderPacket sequenceNumber = true := by
  unfold inOrderPacket
  simp only [low, tracks.1]
  split_ifs <;> simp <;> omega

theorem TracksMax.zero_iff {stats : ReceiveStatistics} {highest : Nat}
    (tracks : TracksMax stats highest) :
    (stats.receivedSeqMax = 0 ∧ stats.receivedSeqWraps = 0) ↔ highest = 0 := by
  rw [BitVec.toNat_eq, BitVec.toNat_eq, tracks.1, tracks.2]
  show highest % 2 ^ 16 = 0 ∧ highest / 2 ^ 16 = 0 ↔ highest = 0
  omega

theorem recordPacket_tracks_advance (jitterDelayMs : Nat → Nat → Int) (frequencyHz : UWord32)
    (env : Env) (r : RTPReceiver) (header : WebRtcRTPHeader) (payloadDataLength : UWord16)
    {highest unwrapped : Nat} (tracks : TracksMax r.stats highest) (positive : 0 < highest)
    (inOrder : r.inOrderPacket header.sequenceNumber = true) (above : highest < unwrapped)
    (early : unwrapped < highest + 2 ^ 15) (bounded : unwrapped < 2 ^ 48)
    (low : header.sequenceNumber.toNat = unwrapped % 2 ^ 16) :
    TracksMax (r.recordPacket jitterDelayMs frequencyHz env header payloadDataLength).stats
      unwrapped := by
  have started : ¬(r.stats.receivedSeqMax = 0 ∧ r.stats.receivedSeqWraps = 0) := by
    rw [tracks.zero_iff]
    omega
  obtain ⟨_, _, stats⟩ :=
    recordPacket_stats_of_inOrder jitterDelayMs frequencyHz env r header payloadDataLength started
      inOrder
  have one : (1 : UWord32).toNat = 1 := rfl
  rw [stats]
  refine ⟨low, ?_⟩
  simp only [tracks.1, low]
  split_ifs
  · simp only [BitVec.toNat_add, tracks.2, one]
    omega
  · simp only [tracks.2]
    omega

theorem recordPacket_tracks_first (jitterDelayMs : Nat → Nat → Int) (frequencyHz : UWord32)
    (env : Env) (r : RTPReceiver) (header : WebRtcRTPHeader) (payloadDataLength : UWord16)
    (zeros : r.stats.receivedSeqMax = 0 ∧ r.stats.receivedSeqWraps = 0) :
    TracksMax (r.recordPacket jitterDelayMs frequencyHz env header payloadDataLength).stats
      header.sequenceNumber.toNat := by
  rw [recordPacket_stats_of_first _ _ _ _ _ _ zeros]
  have below := header.sequenceNumber.isLt
  exact ⟨(Nat.mod_eq_of_lt below).symm, by simp only [zeros.2]; exact (Nat.div_eq_of_lt below).symm⟩

/-- One packet inside the window keeps the tracking, now of the larger maximum. -/
theorem recordPacket_tracksMax (jitterDelayMs : Nat → Nat → Int) (frequencyHz : UWord32)
    (env : Env) (r : RTPReceiver) (header : WebRtcRTPHeader) (payloadDataLength : UWord16)
    {highest unwrapped : Nat} (tracks : TracksMax r.stats highest)
    (admitted : 0 ≤ r.maxReorderingThreshold) (narrow : r.maxReorderingThreshold ≤ 255)
    (late : (highest : Int) ≤ unwrapped + r.maxReorderingThreshold)
    (early : unwrapped < highest + 2 ^ 15) (bounded : unwrapped < 2 ^ 48)
    (low : header.sequenceNumber.toNat = unwrapped % 2 ^ 16) :
    TracksMax (r.recordPacket jitterDelayMs frequencyHz env header payloadDataLength).stats
      (max highest unwrapped) := by
  have inOrder := inOrderPacket_iff_above tracks admitted narrow late early _ low
  by_cases zero : highest = 0
  · -- The zero maximum is the first-packet sentinel: the packet starts the tracking again.
    subst zero
    have first := recordPacket_tracks_first jitterDelayMs frequencyHz env r header payloadDataLength
      (tracks.zero_iff.2 rfl)
    rwa [low, Nat.mod_eq_of_lt (by omega), ← Nat.zero_max unwrapped] at first
  · by_cases above : highest < unwrapped
    · rw [max_eq_right above.le]
      exact recordPacket_tracks_advance _ _ _ _ _ _ tracks (Nat.pos_of_ne_zero zero)
        (by simpa [inOrder] using above) above early bounded low
    · obtain ⟨_, _, stats⟩ := recordPacket_stats_of_reordered jitterDelayMs frequencyHz env r header
        payloadDataLength (by rwa [tracks.zero_iff]) (by simpa [inOrder] using above)
      rw [stats, max_eq_left (Nat.not_lt.1 above)]
      exact tracks

@[simp] theorem statistics_receivedSeqMax (r : RTPReceiver) (reset : Bool) :
    (r.statistics reset).1.stats.receivedSeqMax = r.stats.receivedSeqMax := by
  simp only [statistics]
  split_ifs <;> rfl

@[simp] theorem statistics_receivedSeqWraps (r : RTPReceiver) (reset : Bool) :
    (r.statistics reset).1.stats.receivedSeqWraps = r.stats.receivedSeqWraps := by
  simp only [statistics]
  split_ifs <;> rfl

@[simp] theorem statistics_maxReorderingThreshold (r : RTPReceiver) (reset : Bool) :
    (r.statistics reset).1.maxReorderingThreshold = r.maxReorderingThreshold := by
  rw [statistics_fst_eq]

end RTPReceiver

/-- A packet as `IncomingRTPPacket` hands it to the statistics block: its header, body length,
the strategy's clock rate and the surroundings at its arrival. -/
structure Arrival where
  header : WebRtcRTPHeader
  payloadDataLength : UWord16
  frequencyHz : UWord32
  env : Env

/-- One event of a stream as an observer sees it: a packet together with its sequence number
counted without wrapping (which the receiver never sees), or a report with reset. -/
inductive StreamEvent where
  | packet (unwrapped : Nat) (arrival : Arrival)
  | report

namespace RTPReceiver

/-- The statistics block's answer to one stream event. -/
def observe (jitterDelayMs : Nat → Nat → Int) (r : RTPReceiver) : StreamEvent → RTPReceiver
  | .packet _ arrival =>
    r.recordPacket jitterDelayMs arrival.frequencyHz arrival.env arrival.header
      arrival.payloadDataLength
  | .report => (r.statistics true).1

/-- The statistics block after a whole stream. -/
def observeAll (jitterDelayMs : Nat → Nat → Int) (r : RTPReceiver) (events : List StreamEvent) :
    RTPReceiver :=
  events.foldl (observe jitterDelayMs) r

@[simp] theorem observeAll_nil (jitterDelayMs : Nat → Nat → Int) (r : RTPReceiver) :
    r.observeAll jitterDelayMs [] = r := rfl

@[simp] theorem observeAll_cons (jitterDelayMs : Nat → Nat → Int) (r : RTPReceiver)
    (event : StreamEvent) (events : List StreamEvent) :
    r.observeAll jitterDelayMs (event :: events) =
      (r.observe jitterDelayMs event).observeAll jitterDelayMs events := rfl

@[simp] theorem observe_maxReorderingThreshold (jitterDelayMs : Nat → Nat → Int)
    (r : RTPReceiver) (event : StreamEvent) :
    (r.observe jitterDelayMs event).maxReorderingThreshold = r.maxReorderingThreshold := by
  cases event <;> simp [observe]

end RTPReceiver

/-- The largest unwrapped number of a stream's packets, after the one given. -/
def highestSeen : Option Nat → List StreamEvent → Option Nat
  | highest, [] => highest
  | highest, .report :: events => highestSeen highest events
  | none, .packet unwrapped _ :: events => highestSeen (some unwrapped) events
  | some highest, .packet unwrapped _ :: events => highestSeen (some (max highest unwrapped)) events

/-- The stream stays inside the reordering window: each packet's sequence number is its
unwrapped number modulo `2^16`; the first is any 16-bit number; every later one lies from
`threshold` below the largest so far to less than `2^15` above it, and below `2^48`. -/
def InReorderWindow (threshold : Int) : Option Nat → List StreamEvent → Prop
  | _, [] => True
  | highest, .report :: events => InReorderWindow threshold highest events
  | none, .packet unwrapped arrival :: events =>
    arrival.header.sequenceNumber.toNat = unwrapped ∧ InReorderWindow threshold (some unwrapped) events
  | some highest, .packet unwrapped arrival :: events =>
    arrival.header.sequenceNumber.toNat = unwrapped % 2 ^ 16 ∧
      (highest : Int) ≤ unwrapped + threshold ∧ unwrapped < highest + 2 ^ 15 ∧
      unwrapped < 2 ^ 48 ∧ InReorderWindow threshold (some (max highest unwrapped)) events

/-- An 8 kHz audio packet of 160 bytes whose sequence number is the unwrapped number modulo
`2^16`; its timestamp and arrival time play no part in the sequence tracking. -/
def audioPacket (unwrapped : Nat) : StreamEvent :=
  .packet unwrapped ⟨pcmuHeader (BitVec.ofNat 16 unwrapped) 0, 160, 8000, arrivalAt 0 30⟩

namespace RTPReceiver

/-- What the statistics hold of the largest number so far: zeros before the first packet, the
tracked maximum after it. -/
def Tracking (stats : ReceiveStatistics) : Option Nat → Prop
  | none => stats.receivedSeqMax = 0 ∧ stats.receivedSeqWraps = 0
  | some highest => TracksMax stats highest ∧ highest < 2 ^ 48

/-- Inside the window, every stream event keeps the statistics tracking the largest number. -/
theorem observeAll_tracking (jitterDelayMs : Nat → Nat → Int) {threshold : Int}
    (admitted : 0 ≤ threshold) (narrow : threshold ≤ 255) (events : List StreamEvent) :
    ∀ (r : RTPReceiver) (highest : Option Nat), r.maxReorderingThreshold = threshold →
      Tracking r.stats highest → InReorderWindow threshold highest events →
      Tracking (r.observeAll jitterDelayMs events).stats (highestSeen highest events) := by
  induction events with
  | nil => exact fun _ highest _ tracking _ => by rwa [observeAll_nil, highestSeen]
  | cons event events ih =>
    intro r highest fixed tracking window
    rw [observeAll_cons]
    cases event with
    | report =>
      rw [InReorderWindow] at window
      rw [highestSeen]
      refine ih _ highest (by simpa using fixed) ?_ window
      cases highest <;> simpa [Tracking, TracksMax, observe] using tracking
    | packet unwrapped arrival =>
      cases highest with
      | none =>
        rw [InReorderWindow] at window
        rw [highestSeen]
        obtain ⟨low, window⟩ := window
        refine ih _ (some unwrapped) (by simpa using fixed)
          ⟨low ▸ recordPacket_tracks_first _ _ _ _ _ _ tracking, ?_⟩ window
        have := arrival.header.sequenceNumber.isLt
        omega
      | some highest =>
        rw [InReorderWindow] at window
        rw [highestSeen]
        obtain ⟨low, late, early, below, window⟩ := window
        obtain ⟨tracks, bounded⟩ := tracking
        subst fixed
        exact ih _ _ (by simp) ⟨recordPacket_tracksMax _ _ _ _ _ _ tracks admitted narrow late
          early below low, max_lt bounded below⟩ window

/-- After a statistics reset, with a reordering threshold of at most 255, every stream inside the
window leaves `(received_seq_wraps_ << 16) + received_seq_max_` at the largest unwrapped number
modulo `2^32`. -/
theorem observeAll_extendedHighSeqNum (jitterDelayMs : Nat → Nat → Int) (r : RTPReceiver)
    (reset : r.stats = {}) (admitted : 0 ≤ r.maxReorderingThreshold)
    (narrow : r.maxReorderingThreshold ≤ 255) (events : List StreamEvent)
    (window : InReorderWindow r.maxReorderingThreshold none events) :
    (extendedHighSeqNum (r.observeAll jitterDelayMs events).stats).toNat =
      (highestSeen none events).getD 0 % 2 ^ 32 := by
  have tracking := observeAll_tracking jitterDelayMs admitted narrow events r none rfl
    (by simp [Tracking, reset]) window
  revert tracking
  cases highestSeen none events with
  | none =>
    rintro ⟨seqMax, wraps⟩
    simp [extendedHighSeqNum, seqMax, wraps]
  | some highest => exact fun tracking => tracking.1.extendedHighSeqNum

/-- A stream that wraps and then delivers a late packet from before the wrap. -/
theorem observeAll_extendedHighSeqNum_across_wrap :
    ({} : RTPReceiver).stats = {} ∧ 0 ≤ ({} : RTPReceiver).maxReorderingThreshold ∧
      ({} : RTPReceiver).maxReorderingThreshold ≤ 255 ∧
      InReorderWindow ({} : RTPReceiver).maxReorderingThreshold none
        [audioPacket 65534, audioPacket 65537, .report, audioPacket 65535] ∧
      (RTPReceiver.extendedHighSeqNum (({} : RTPReceiver).observeAll acceptingVideo.jitterDelayMs
        [audioPacket 65534, audioPacket 65537, .report, audioPacket 65535]).stats).toNat =
        (highestSeen none [audioPacket 65534, audioPacket 65537, .report, audioPacket 65535]).getD 0
          % 2 ^ 32 :=
  have window : InReorderWindow ({} : RTPReceiver).maxReorderingThreshold none
      [audioPacket 65534, audioPacket 65537, .report, audioPacket 65535] := by
    simp only [InReorderWindow]
    decide
  ⟨rfl, by decide, by decide, window,
    RTPReceiver.observeAll_extendedHighSeqNum _ {} rfl (by decide) (by decide) _ window⟩

/-- With the threshold 300 that `SetNACKStatus` accepts, packet 65500, then 65796 (sent as 260)
and then 65520, 276 late: the late packet lies past the wrap zone of `InOrderPacket`, so it is
taken as in order, and the extended highest number becomes 131056 where the largest is 65796. -/
theorem observeAll_late_packet_past_wrap_zone :
    (({} : RTPReceiver).setNACKStatus .kNackRtcp 300).2 = 0 ∧
      InReorderWindow 300 none [audioPacket 65500, audioPacket 65796, audioPacket 65520] ∧
      highestSeen none [audioPacket 65500, audioPacket 65796, audioPacket 65520] = some 65796 ∧
      (RTPReceiver.extendedHighSeqNum ((({} : RTPReceiver).setNACKStatus .kNackRtcp 300).1.observeAll
        acceptingVideo.jitterDelayMs
          [audioPacket 65500, audioPacket 65796, audioPacket 65520]).stats).toNat = 131056 := by
  simp only [InReorderWindow]
  decide

/-- Packet 0 and then packet 1 on a fresh receiver: the first leaves the maximum and the wrap
count at zero, so the second is taken for a first packet again. Two packets reached
`UpdateStatistics`, but one is counted, and the first sequence number is 1. -/
theorem observeAll_restarts_after_sequence_zero :
    (({} : RTPReceiver).observeAll acceptingVideo.jitterDelayMs
        [audioPacket 0, audioPacket 1]).stats.receivedInorderPacketCount +
      (({} : RTPReceiver).observeAll acceptingVideo.jitterDelayMs
        [audioPacket 0, audioPacket 1]).stats.receivedOldPacketCount = 1 ∧
    (({} : RTPReceiver).observeAll acceptingVideo.jitterDelayMs
        [audioPacket 0, audioPacket 1]).stats.receivedSeqFirst = 1 := by
  decide

/-! ## The NACK setting in reachable states -/

/-- The NACK setting as `SetNACKStatus` leaves it: a reordering threshold it admits, which is the
default unless NACK is RTCP-based. -/
structure NackSetting (r : RTPReceiver) : Prop where
  admitted : 0 ≤ r.maxReorderingThreshold
  defaultUnlessRtcp :
    r.nackMethod = .kNackRtcp ∨ r.maxReorderingThreshold = kDefaultMaxReorderingThreshold

theorem NackSetting.of_eq {r r' : RTPReceiver} (setting : r.NackSetting)
    (method : r'.nackMethod = r.nackMethod)
    (threshold : r'.maxReorderingThreshold = r.maxReorderingThreshold) : r'.NackSetting :=
  ⟨threshold ▸ setting.admitted, method ▸ threshold ▸ setting.defaultUnlessRtcp⟩

theorem kDefaultMaxReorderingThreshold_nonneg : 0 ≤ kDefaultMaxReorderingThreshold := by decide

theorem nackSetting_initial : ({} : RTPReceiver).NackSetting :=
  ⟨kDefaultMaxReorderingThreshold_nonneg, .inr rfl⟩

theorem setNACKStatus_nackSetting (r : RTPReceiver) (method : NACKMethod) (threshold : Int)
    (setting : r.NackSetting) : (r.setNACKStatus method threshold).1.NackSetting := by
  unfold setNACKStatus
  split_ifs with refused rtcp
  · exact setting
  · exact ⟨Int.not_lt.1 refused, .inl rtcp⟩
  · exact ⟨kDefaultMaxReorderingThreshold_nonneg, .inr rfl⟩

end RTPReceiver

namespace Receiver

variable {σ : Type}

theorem step_nackSetting (ctx : Context σ) (env : Env) (s : Receiver σ) (call : Call)
    (setting : s.rtp.NackSetting) : (s.step ctx env call).1.rtp.NackSetting := by
  cases setter : call.setsConfiguration
  · have kept := step_configuration ctx env s call setter
    exact setting.of_eq (congrArg RTPReceiver.Configuration.nackMethod kept)
      (congrArg RTPReceiver.Configuration.maxReorderingThreshold kept)
  · cases call with
    | setNACKStatus method threshold => exact s.rtp.setNACKStatus_nackSetting method threshold setting
    | setRTXStatus | setSSRCFilter | setPacketTimeout => exact setting.of_eq rfl rfl
    | _ => cases setter

theorem run_nackSetting (ctx : Context σ) : ∀ (s : Receiver σ) (calls : List (Env × Call)),
    s.rtp.NackSetting → (s.run ctx calls).1.rtp.NackSetting
  | _, [], setting => setting
  | s, (env, call) :: calls, setting =>
    run_nackSetting ctx _ calls (step_nackSetting ctx env s call setting)

/-- In every reachable state the receiver holds a reordering threshold that `SetNACKStatus`
admits, and it is the default of 50 unless NACK is RTCP-based: a refused threshold changes
nothing, and no call but `SetNACKStatus` touches the NACK setting. So the threshold that
`InOrderPacket` compares with is never negative. -/
theorem reachable_nackSetting {ctx : Context σ} {s : Receiver σ} (reachable : Reachable ctx s) :
    0 ≤ s.rtp.maxReorderingThreshold ∧
      (s.rtp.nackMethod = .kNackRtcp ∨
        s.rtp.maxReorderingThreshold = kDefaultMaxReorderingThreshold) := by
  obtain ⟨media, calls, rfl⟩ := reachable
  have setting := run_nackSetting ctx (init media) calls RTPReceiver.nackSetting_initial
  exact ⟨setting.admitted, setting.defaultUnlessRtcp⟩

/-- RTCP-based NACK with threshold 100, then a refused negative threshold for NACK off. -/
def nackConfigured : Receiver PayloadUnion :=
  ((Receiver.init default).run acceptingVideo
    [(clockAt 1, .setNACKStatus .kNackRtcp 100), (clockAt 2, .setNACKStatus .kNackOff (-5))]).1

theorem reachable_nackSetting_rtcp :
    Receiver.Reachable acceptingVideo nackConfigured ∧
      0 ≤ nackConfigured.rtp.maxReorderingThreshold ∧
      (nackConfigured.rtp.nackMethod = .kNackRtcp ∨
        nackConfigured.rtp.maxReorderingThreshold = kDefaultMaxReorderingThreshold) :=
  have reachable : Receiver.Reachable acceptingVideo nackConfigured := ⟨default, _, rfl⟩
  ⟨reachable, Receiver.reachable_nackSetting reachable⟩

end Receiver

end RtpRtcp

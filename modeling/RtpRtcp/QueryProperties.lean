import Mathlib.Algebra.Order.Ring.Nat
import RtpRtcp.ReportProperties

/-!
# What the queries answer after a stream

Over a stream of packets and reports, `DataCounters` adds up the stream, `PacketOHReceived` stays
inside any interval holding its start and every packet's overhead, `Statistics` without reset
reads back the kept report, and `EstimatedRemoteTimeStamp` advances the last timestamp.
-/

set_option autoImplicit false

namespace RtpRtcp

/-- The packets of a stream, in arrival order. -/
def arrivalsOf : List StreamEvent → List Arrival
  | [] => []
  | .packet _ arrival :: events => arrival :: arrivalsOf events
  | .report :: events => arrivalsOf events

/-- Whether a stream event is a report with reset. -/
def StreamEvent.isReport : StreamEvent → Bool
  | .report => true
  | .packet .. => false

namespace RTPReceiver

/-! ## Data counters -/

theorem recordPacket_receivedByteCount (jitterDelayMs : Nat → Nat → Int) (frequencyHz : UWord32)
    (env : Env) (r : RTPReceiver) (header : WebRtcRTPHeader) (payloadDataLength : UWord16) :
    (r.recordPacket jitterDelayMs frequencyHz env header payloadDataLength).stats.receivedByteCount =
      r.stats.receivedByteCount + payloadDataLength.setWidth 32 := by
  rw [recordPacket_stats]
  unfold updateStatistics updateInOrder
  dsimp only
  split_ifs <;> rfl

theorem statistics_receivedOldPacketCount (r : RTPReceiver) (reset : Bool) :
    (r.statistics reset).1.stats.receivedOldPacketCount = r.stats.receivedOldPacketCount := by
  simp only [statistics]
  split_ifs <;> rfl

theorem observeAll_receivedByteCount (jitterDelayMs : Nat → Nat → Int) :
    ∀ (r : RTPReceiver) (events : List StreamEvent),
      (r.observeAll jitterDelayMs events).stats.receivedByteCount.toNat =
        (r.stats.receivedByteCount.toNat +
          ((arrivalsOf events).map fun arrival => arrival.payloadDataLength.toNat).sum) % 2 ^ 32
  | r, [] => by simp [arrivalsOf, Nat.mod_eq_of_lt r.stats.receivedByteCount.isLt]
  | r, .report :: events => by
    rw [observeAll_cons, observeAll_receivedByteCount jitterDelayMs _ events, observe,
      (statistics_counters r true).2.1, arrivalsOf]
  | r, .packet _ arrival :: events => by
    rw [observeAll_cons, observeAll_receivedByteCount jitterDelayMs _ events, observe,
      recordPacket_receivedByteCount, arrivalsOf, List.map_cons, List.sum_cons, BitVec.toNat_add,
      BitVec.toNat_setWidth]
    have := arrival.payloadDataLength.isLt
    omega

theorem toNat_add_one_of_lt (x : UWord32) (small : x.toNat + 1 < 2 ^ 32) :
    (x + 1).toNat = x.toNat + 1 := by
  rw [BitVec.toNat_add, show (1 : UWord32).toNat = 1 from rfl, Nat.mod_eq_of_lt small]

/-- What the packet counters hold after `n` packets of a stream since a reset: before the first
packet, nothing; after it, a maximum or wrap count that is not zero, so that the first-packet
branch of `UpdateStatistics` is not taken again, `n` packets counted between the old and the
in-order counters, and no more wraps than in-order packets. -/
def Counted (stats : ReceiveStatistics) : Nat → Prop
  | 0 => stats.receivedSeqMax = 0 ∧ stats.receivedSeqWraps = 0 ∧
      stats.receivedOldPacketCount = 0 ∧ stats.receivedInorderPacketCount = 0
  | n + 1 => ¬(stats.receivedSeqMax = 0 ∧ stats.receivedSeqWraps = 0) ∧
      stats.receivedOldPacketCount.toNat + stats.receivedInorderPacketCount.toNat = n + 1 ∧
      stats.receivedSeqWraps.toNat ≤ stats.receivedInorderPacketCount.toNat

theorem recordPacket_stats_of_notInOrder (jitterDelayMs : Nat → Nat → Int)
    (frequencyHz : UWord32) (env : Env) (r : RTPReceiver) (header : WebRtcRTPHeader)
    (payloadDataLength : UWord16)
    (started : ¬(r.stats.receivedSeqMax = 0 ∧ r.stats.receivedSeqWraps = 0))
    (reordered : r.inOrderPacket header.sequenceNumber = false) :
    (r.recordPacket jitterDelayMs frequencyHz env header payloadDataLength).stats =
        { r.stats with
          receivedByteCount := r.stats.receivedByteCount + payloadDataLength.setWidth 32
          receivedOldPacketCount := r.stats.receivedOldPacketCount + 1 } ∨
      (r.recordPacket jitterDelayMs frequencyHz env header payloadDataLength).stats =
        { r.stats with
          receivedByteCount := r.stats.receivedByteCount + payloadDataLength.setWidth 32
          receivedInorderPacketCount := r.stats.receivedInorderPacketCount + 1 } := by
  rw [recordPacket_stats]
  unfold updateStatistics
  simp only [countBytes_receivedSeqMax, countBytes_receivedSeqWraps, started, ↓reduceIte,
    inOrderPacket_countBytes, reordered, Bool.false_eq_true]
  split_ifs
  · exact .inl rfl
  · exact .inr rfl

theorem recordPacket_counted (jitterDelayMs : Nat → Nat → Int) (frequencyHz : UWord32)
    (env : Env) (r : RTPReceiver) (header : WebRtcRTPHeader) (payloadDataLength : UWord16)
    {n : Nat} (counted : Counted r.stats n)
    (first : n = 0 → header.sequenceNumber ≠ 0) (fits : n + 1 < 2 ^ 32) :
    Counted (r.recordPacket jitterDelayMs frequencyHz env header payloadDataLength).stats
      (n + 1) := by
  cases n with
  | zero =>
    obtain ⟨seqMax, wraps, old, inorder⟩ := counted
    rw [recordPacket_stats_of_first _ _ _ _ _ _ ⟨seqMax, wraps⟩]
    exact ⟨fun zeros => first rfl zeros.1, by simp [old], by simp [wraps]⟩
  | succ n =>
    obtain ⟨started, count, wrapsLe⟩ := counted
    have inorderLt := r.stats.receivedInorderPacketCount.isLt
    cases inOrder : r.inOrderPacket header.sequenceNumber with
    | true =>
      obtain ⟨_, _, stats⟩ := recordPacket_stats_of_inOrder jitterDelayMs frequencyHz env r header
        payloadDataLength started inOrder
      have oneMore := toNat_add_one_of_lt r.stats.receivedInorderPacketCount (by omega)
      have wrapsMore := toNat_add_one_of_lt r.stats.receivedSeqWraps (by omega)
      rw [stats]
      refine ⟨?_, by simp only [oneMore]; omega, ?_⟩
      · rintro ⟨seqMax, wraps⟩
        dsimp only at seqMax wraps
        split_ifs at wraps with wrapped
        · have overflow := congrArg BitVec.toNat wraps
          rw [wrapsMore] at overflow
          simp at overflow
        · rw [seqMax] at wrapped
          have zero : r.stats.receivedSeqMax.toNat = 0 := by
            simp at wrapped
            omega
          exact started ⟨BitVec.eq_of_toNat_eq zero, wraps⟩
      · dsimp only
        split_ifs <;> simp only [oneMore, wrapsMore] <;> omega
    | false =>
      rcases recordPacket_stats_of_notInOrder jitterDelayMs frequencyHz env r header
        payloadDataLength started inOrder with stats | stats <;> rw [stats]
      · have oneMore := toNat_add_one_of_lt r.stats.receivedOldPacketCount (by omega)
        exact ⟨started, by simp only [oneMore]; omega, wrapsLe⟩
      · have oneMore := toNat_add_one_of_lt r.stats.receivedInorderPacketCount (by omega)
        exact ⟨started, by simp only [oneMore]; omega, by simp only [oneMore]; omega⟩

theorem Counted.sum {stats : ReceiveStatistics} :
    ∀ {n : Nat}, Counted stats n →
      stats.receivedOldPacketCount.toNat + stats.receivedInorderPacketCount.toNat = n
  | 0, ⟨_, _, old, inorder⟩ => by simp [old, inorder]
  | _ + 1, ⟨_, count, _⟩ => count

theorem statistics_counted {r : RTPReceiver} {n : Nat} (reset : Bool) (counted : Counted r.stats n) :
    Counted (r.statistics reset).1.stats n := by
  obtain ⟨-, -, inorder⟩ := statistics_counters r reset
  cases n <;>
    simpa only [Counted, statistics_receivedSeqMax, statistics_receivedSeqWraps,
      statistics_receivedOldPacketCount, inorder] using counted

/-- A whole stream keeps the counters exact, as long as its first packet, if it comes first, is
not numbered 0 and no counter reaches `2^32`. -/
theorem observeAll_counted (jitterDelayMs : Nat → Nat → Int) :
    ∀ (events : List StreamEvent) (r : RTPReceiver) (n : Nat), Counted r.stats n →
      (n = 0 → ((arrivalsOf events).head?.map fun arrival => arrival.header.sequenceNumber) ≠
        some 0) →
      n + (arrivalsOf events).length < 2 ^ 32 →
      Counted (r.observeAll jitterDelayMs events).stats (n + (arrivalsOf events).length)
  | [], _, _, counted, _, _ => counted
  | .report :: events, r, n, counted, first, fits =>
    observeAll_counted jitterDelayMs events _ n (statistics_counted true counted) first fits
  | .packet unwrapped arrival :: events, r, n, counted, first, fits => by
    have more : n + (arrivalsOf (.packet unwrapped arrival :: events)).length =
        n + 1 + (arrivalsOf events).length := by
      simp only [arrivalsOf, List.length_cons]
      omega
    rw [observeAll_cons, more]
    refine observeAll_counted jitterDelayMs events _ (n + 1)
      (recordPacket_counted jitterDelayMs _ _ r _ _ counted ?_ ?_) (fun _ => by omega) (by omega)
    · intro zero numbered
      exact first zero (by simp [arrivalsOf, numbered])
    · simp only [arrivalsOf, List.length_cons] at fits
      omega

/-- After a statistics reset, over every stream of packets and reports whose first packet is not
numbered 0 and that has fewer than `2^32` packets, `DataCounters` answers the sum of the packets'
payload lengths modulo `2^32` and the number of packets: every packet is counted once, as old or
in order. -/
theorem observeAll_dataCounters (jitterDelayMs : Nat → Nat → Int) (r : RTPReceiver)
    (reset : r.stats = {}) (events : List StreamEvent)
    (startsAboveZero :
      ((arrivalsOf events).head?.map fun arrival => arrival.header.sequenceNumber) ≠ some 0)
    (few : (arrivalsOf events).length < 2 ^ 32) :
    (r.observeAll jitterDelayMs events).dataCounters =
      (BitVec.ofNat 32 ((arrivalsOf events).map fun arrival => arrival.payloadDataLength.toNat).sum,
        BitVec.ofNat 32 (arrivalsOf events).length) := by
  have counted := observeAll_counted jitterDelayMs events r 0 (by simp [Counted, reset])
    (fun _ => startsAboveZero) (by omega)
  rw [Nat.zero_add] at counted
  refine Prod.ext (BitVec.eq_of_toNat_eq ?_) (BitVec.eq_of_toNat_eq ?_)
  · simp [dataCounters, observeAll_receivedByteCount, reset]
  · simp only [dataCounters, BitVec.toNat_add, counted.sum, BitVec.toNat_ofNat]

/-- Three 8 kHz audio packets of 160 bytes around a report. -/
def audioAroundReport : List StreamEvent :=
  [audioPacket 1, .report, audioPacket 2, audioPacket 3]

/-- Three packets around a report: 480 bytes in three packets. -/
theorem observeAll_dataCounters_audioAroundReport :
    ({} : RTPReceiver).stats = {} ∧
      ((arrivalsOf audioAroundReport).head?.map fun arrival => arrival.header.sequenceNumber) ≠
        some 0 ∧
      (arrivalsOf audioAroundReport).length < 2 ^ 32 ∧
      (({} : RTPReceiver).observeAll acceptingVideo.jitterDelayMs audioAroundReport).dataCounters =
        (BitVec.ofNat 32
          ((arrivalsOf audioAroundReport).map fun arrival => arrival.payloadDataLength.toNat).sum,
          BitVec.ofNat 32 (arrivalsOf audioAroundReport).length) :=
  have first : ((arrivalsOf audioAroundReport).head?.map
      fun arrival => arrival.header.sequenceNumber) ≠ some 0 := by decide
  have few : (arrivalsOf audioAroundReport).length < 2 ^ 32 := by decide
  ⟨rfl, first, few, RTPReceiver.observeAll_dataCounters _ _ rfl _ first few⟩

/-! ## Overhead estimate -/

/-- The overhead of a packet as the filter sees it: header and padding, in 16 bits. -/
def packetOverhead (header : WebRtcRTPHeader) : Nat :=
  (header.headerLength + header.paddingLength.setWidth 16).toNat

theorem smoothOverhead_mem {receivedPacketOh : UWord16} {header : WebRtcRTPHeader}
    {low high : Nat} (estimate : low ≤ receivedPacketOh.toNat ∧ receivedPacketOh.toNat ≤ high)
    (packet : low ≤ packetOverhead header ∧ packetOverhead header ≤ high) :
    low ≤ (smoothOverhead receivedPacketOh header).toNat ∧
      (smoothOverhead receivedPacketOh header).toNat ≤ high := by
  unfold smoothOverhead
  unfold packetOverhead at packet
  have := receivedPacketOh.isLt
  have := (header.headerLength + header.paddingLength.setWidth 16).isLt
  simp only [BitVec.toNat_ofNat, Nat.shiftRight_eq_div_pow, Nat.reducePow]
  rw [Nat.mod_eq_of_lt (by omega)]
  omega

theorem updateStatistics_receivedPacketOh (frequencyHz : UWord32) (env : Env) (r : RTPReceiver)
    (header : WebRtcRTPHeader) (bytes : UWord16) (oldPacket : Bool) :
    (r.updateStatistics frequencyHz env header bytes oldPacket).receivedPacketOh =
      if r.stats.receivedSeqMax = 0 ∧ r.stats.receivedSeqWraps = 0 then r.receivedPacketOh
      else smoothOverhead r.receivedPacketOh header := by
  unfold updateStatistics updateInOrder
  simp only [countBytes_receivedSeqMax, countBytes_receivedSeqWraps]
  split_ifs <;> rfl

theorem recordPacket_receivedPacketOh (jitterDelayMs : Nat → Nat → Int) (frequencyHz : UWord32)
    (env : Env) (r : RTPReceiver) (header : WebRtcRTPHeader) (payloadDataLength : UWord16) :
    (r.recordPacket jitterDelayMs frequencyHz env header payloadDataLength).receivedPacketOh =
      (r.updateStatistics frequencyHz env header payloadDataLength
        (r.retransmitOfOldPacket jitterDelayMs frequencyHz env header.sequenceNumber
          header.timestamp)).receivedPacketOh := by
  unfold recordPacket
  dsimp only
  split_ifs <;> rfl

/-- The overhead estimate that `PacketOHReceived` answers never leaves an interval that holds
its value before a stream and the overhead of every packet of the stream: the first packet after
a reset leaves it, every later one averages it with the packet's overhead, and reports leave it.
So with 12-byte headers and no padding it stays at its initial 12. -/
theorem observeAll_receivedPacketOh (jitterDelayMs : Nat → Nat → Int) (low high : Nat) :
    ∀ (r : RTPReceiver) (events : List StreamEvent),
      low ≤ r.receivedPacketOh.toNat → r.receivedPacketOh.toNat ≤ high →
      (∀ arrival ∈ arrivalsOf events,
        low ≤ packetOverhead arrival.header ∧ packetOverhead arrival.header ≤ high) →
      low ≤ (r.observeAll jitterDelayMs events).receivedPacketOh.toNat ∧
        (r.observeAll jitterDelayMs events).receivedPacketOh.toNat ≤ high
  | _, [], above, below, _ => ⟨above, below⟩
  | r, .report :: events, above, below, bounded => by
    rw [observeAll_cons, observe, statistics_fst_eq]
    exact observeAll_receivedPacketOh jitterDelayMs low high _ events above below bounded
  | r, .packet unwrapped arrival :: events, above, below, bounded => by
    have next : low ≤ (r.observe jitterDelayMs (.packet unwrapped arrival)).receivedPacketOh.toNat ∧
        (r.observe jitterDelayMs (.packet unwrapped arrival)).receivedPacketOh.toNat ≤ high := by
      rw [observe, recordPacket_receivedPacketOh, updateStatistics_receivedPacketOh]
      split_ifs
      · exact ⟨above, below⟩
      · exact smoothOverhead_mem ⟨above, below⟩ (bounded arrival (List.mem_cons_self _ _))
    rw [observeAll_cons]
    exact observeAll_receivedPacketOh jitterDelayMs low high _ events next.1 next.2
      fun arrival member => bounded arrival (List.mem_cons_of_mem _ member)

/-- With 12-byte headers and no padding the estimate stays at its initial 12. -/
theorem observeAll_receivedPacketOh_audioAroundReport :
    12 ≤ ({} : RTPReceiver).receivedPacketOh.toNat ∧
      ({} : RTPReceiver).receivedPacketOh.toNat ≤ 12 ∧
      (∀ arrival ∈ arrivalsOf audioAroundReport,
        12 ≤ RTPReceiver.packetOverhead arrival.header ∧
          RTPReceiver.packetOverhead arrival.header ≤ 12) ∧
      12 ≤ (({} : RTPReceiver).observeAll acceptingVideo.jitterDelayMs
          audioAroundReport).receivedPacketOh.toNat ∧
        (({} : RTPReceiver).observeAll acceptingVideo.jitterDelayMs
          audioAroundReport).receivedPacketOh.toNat ≤ 12 :=
  have bounded : ∀ arrival ∈ arrivalsOf audioAroundReport,
      12 ≤ RTPReceiver.packetOverhead arrival.header ∧
        RTPReceiver.packetOverhead arrival.header ≤ 12 := by decide
  ⟨by decide, by decide, bounded,
    RTPReceiver.observeAll_receivedPacketOh _ 12 12 {} _ (by decide) (by decide) bounded⟩

/-! ## Kept report -/

/-- What `Statistics` without reset answers from: the report kept by the last `Statistics` with
reset, with the current maximum jitter. -/
def keptReport (stats : ReceiveStatistics) : RtcpStatistics :=
  { fractionLost := stats.lastReportFractionLost, cumLost := stats.lastReportCumulativeLost
    extMax := stats.lastReportExtendedHighSeqNum, jitter := stats.lastReportJitter
    maxJitter := stats.jitterMaxQ4 >>> 4
    jitterTransmissionTimeOffset := stats.lastReportJitterTransmissionTimeOffset
    missing := none }

theorem statistics_false (r : RTPReceiver) :
    (r.statistics false).2 =
      if r.stats.receivedSeqFirst = 0 ∧ r.stats.receivedByteCount = 0 then none
      else if r.stats.lastReportInorderPackets = 0 then none
      else some (keptReport r.stats) := by
  by_cases nothing : r.stats.receivedSeqFirst = 0 ∧ r.stats.receivedByteCount = 0
  · simp only [statistics, nothing, and_self, ↓reduceIte]
  · simp only [statistics, nothing, ↓reduceIte, Bool.false_eq_true, not_false_eq_true]
    split_ifs <;> rfl

theorem statistics_keptReport (r : RTPReceiver) {report : RtcpStatistics}
    (answered : (r.statistics true).2 = some report) :
    keptReport (r.statistics true).1.stats = { report with missing := none } ∧
      (r.statistics true).1.stats.lastReportInorderPackets = r.stats.receivedInorderPacketCount := by
  by_cases nothing : r.stats.receivedSeqFirst = 0 ∧ r.stats.receivedByteCount = 0
  · simp [statistics, nothing] at answered
  · simp only [statistics, nothing, ↓reduceIte, not_true_eq_false, Option.some.injEq] at answered ⊢
    subst answered
    exact ⟨rfl, trivial⟩

theorem recordPacket_keptReport (jitterDelayMs : Nat → Nat → Int) (frequencyHz : UWord32)
    (env : Env) (r : RTPReceiver) (header : WebRtcRTPHeader) (payloadDataLength : UWord16) :
    keptReport (r.recordPacket jitterDelayMs frequencyHz env header payloadDataLength).stats =
        keptReport r.stats ∧
      (r.recordPacket jitterDelayMs frequencyHz env header payloadDataLength).stats.lastReportInorderPackets =
        r.stats.lastReportInorderPackets := by
  rw [recordPacket_stats]
  unfold updateStatistics updateInOrder
  dsimp only
  split_ifs <;> exact ⟨rfl, rfl⟩

theorem observeAll_keptReport (jitterDelayMs : Nat → Nat → Int) :
    ∀ (r : RTPReceiver) (events : List StreamEvent), (∀ event ∈ events, event.isReport = false) →
      keptReport (r.observeAll jitterDelayMs events).stats = keptReport r.stats ∧
        (r.observeAll jitterDelayMs events).stats.lastReportInorderPackets =
          r.stats.lastReportInorderPackets
  | _, [], _ => ⟨rfl, rfl⟩
  | _, .report :: _, packetsOnly => absurd (packetsOnly _ (List.mem_cons_self _ _)) (by decide)
  | r, .packet _ arrival :: events, packetsOnly => by
    rw [observeAll_cons, observe]
    obtain ⟨kept, counted⟩ := recordPacket_keptReport jitterDelayMs arrival.frequencyHz arrival.env
      r arrival.header arrival.payloadDataLength
    obtain ⟨keptLater, countedLater⟩ := observeAll_keptReport jitterDelayMs _ events
      fun event member => packetsOnly event (List.mem_cons_of_mem _ member)
    exact ⟨keptLater.trans kept, countedLater.trans counted⟩

/-- After `Statistics` with reset answers a report made with at least one in-order packet
counted, `Statistics` without reset answers that report, without `missing`, after any packets
and until the next report: unless the sequence start and the byte count both read 0 by then,
when it answers `-1`. -/
theorem observeAll_statistics_kept (jitterDelayMs : Nat → Nat → Int) (r : RTPReceiver)
    {report : RtcpStatistics} (answered : (r.statistics true).2 = some report)
    (counted : r.stats.receivedInorderPacketCount ≠ 0) (events : List StreamEvent)
    (packetsOnly : ∀ event ∈ events, event.isReport = false) :
    (((r.statistics true).1.observeAll jitterDelayMs events).statistics false).2 =
      if ((r.statistics true).1.observeAll jitterDelayMs events).stats.receivedSeqFirst = 0 ∧
          ((r.statistics true).1.observeAll jitterDelayMs events).stats.receivedByteCount = 0 then
        none
      else some { report with missing := none } := by
  obtain ⟨reported, countedThen⟩ := statistics_keptReport r answered
  obtain ⟨kept, countedNow⟩ := observeAll_keptReport jitterDelayMs _ events packetsOnly
  rw [statistics_false, kept, reported, countedNow, countedThen, if_neg counted]

/-- The receiver after packets 1 and 3 of an 8 kHz audio stream: packet 2 is missing. -/
def gappedAudio : RTPReceiver :=
  ({} : RTPReceiver).observeAll acceptingVideo.jitterDelayMs [audioPacket 1, audioPacket 3]

/-- The report on the gapped stream: one packet of the three expected is missing, so the
fraction lost is 255 / 3 = 85. -/
def gappedReport : RTPReceiver.RtcpStatistics :=
  { fractionLost := 85, cumLost := 1, extMax := 3, jitter := 0, maxJitter := 0,
    jitterTransmissionTimeOffset := 0, missing := some 1 }

/-- The report on the gapped stream, one packet of three lost, is kept across packet 4. -/
theorem observeAll_statistics_kept_gappedAudio :
    (gappedAudio.statistics true).2 = some gappedReport ∧
      gappedAudio.stats.receivedInorderPacketCount ≠ 0 ∧
      (∀ event ∈ [audioPacket 4], event.isReport = false) ∧
      (((gappedAudio.statistics true).1.observeAll acceptingVideo.jitterDelayMs
          [audioPacket 4]).statistics false).2 =
        if ((gappedAudio.statistics true).1.observeAll acceptingVideo.jitterDelayMs
              [audioPacket 4]).stats.receivedSeqFirst = 0 ∧
            ((gappedAudio.statistics true).1.observeAll acceptingVideo.jitterDelayMs
              [audioPacket 4]).stats.receivedByteCount = 0 then
          none
        else some { gappedReport with missing := none } :=
  have answered : (gappedAudio.statistics true).2 = some gappedReport := by decide
  have counted : gappedAudio.stats.receivedInorderPacketCount ≠ 0 := by decide
  have packetsOnly : ∀ event ∈ [audioPacket 4], event.isReport = false := by decide
  ⟨answered, counted, packetsOnly,
    RTPReceiver.observeAll_statistics_kept _ _ answered counted _ packetsOnly⟩

/-! ## Remote timestamp estimate -/

theorem updateStatistics_localTime_of_inOrder (frequencyHz : UWord32) (env : Env)
    (r : RTPReceiver) (header : WebRtcRTPHeader) (bytes : UWord16) (oldPacket : Bool)
    (inOrder : r.inOrderPacket header.sequenceNumber = true) :
    (r.updateStatistics frequencyHz env header bytes oldPacket).localTimeLastReceivedTimestamp =
      env.currentRTP frequencyHz := by
  unfold updateStatistics
  simp only [inOrderPacket_countBytes, inOrder, ↓reduceIte]
  split_ifs <;> rfl

/-- After a packet that `InOrderPacket` takes in order (the first after a reset included),
recorded when the RTP clock at the media's rate reads `c ≠ 0`, `EstimatedRemoteTimeStamp` at any
later reading `c'` of that clock answers the packet's timestamp advanced by `c' - c`. -/
theorem recordPacket_estimatedRemoteTimeStamp (jitterDelayMs : Nat → Nat → Int)
    (frequencyHz : UWord32) (env : Env) (r : RTPReceiver) (header : WebRtcRTPHeader)
    (payloadDataLength : UWord16) (inOrder : r.inOrderPacket header.sequenceNumber = true)
    (stamped : env.currentRTP frequencyHz ≠ 0) (later : Env) :
    (r.recordPacket jitterDelayMs frequencyHz env header payloadDataLength).estimatedRemoteTimeStamp
        frequencyHz later =
      some (header.timestamp + (later.currentRTP frequencyHz - env.currentRTP frequencyHz)) := by
  have notOld : r.retransmitOfOldPacket jitterDelayMs frequencyHz env header.sequenceNumber
      header.timestamp = false := by
    simp [retransmitOfOldPacket, inOrder]
  have arrival := updateStatistics_localTime_of_inOrder frequencyHz env r header payloadDataLength
    false inOrder
  unfold recordPacket estimatedRemoteTimeStamp
  simp only [notOld, Bool.false_eq_true, ↓reduceIte]
  split_ifs with fresh <;> simp_all

/-- The surroundings at a clock reading whose RTP clock reads `rtp` at every rate. -/
def clockedArrival (timeInMilliseconds : Int) (rtp : UWord32) : Env :=
  { timeInMilliseconds, currentRTP := fun _ => rtp, minRtt := 30 }

/-- Packet 100 with timestamp 1000 recorded when the 8 kHz clock reads 8000: at 8160 the
estimate is 1160. -/
theorem recordPacket_estimatedRemoteTimeStamp_audio :
    ({} : RTPReceiver).inOrderPacket (pcmuHeader 100 1000).sequenceNumber = true ∧
      (clockedArrival 1000 8000).currentRTP 8000 ≠ 0 ∧
      (({} : RTPReceiver).recordPacket acceptingVideo.jitterDelayMs 8000 (clockedArrival 1000 8000)
          (pcmuHeader 100 1000) 160).estimatedRemoteTimeStamp 8000 (clockedArrival 1020 8160) =
        some ((pcmuHeader 100 1000).timestamp + ((clockedArrival 1020 8160).currentRTP 8000 -
          (clockedArrival 1000 8000).currentRTP 8000)) :=
  have inOrder : ({} : RTPReceiver).inOrderPacket (pcmuHeader 100 1000).sequenceNumber = true := by
    decide
  have stamped : (clockedArrival 1000 8000).currentRTP 8000 ≠ 0 := by decide
  ⟨inOrder, stamped,
    RTPReceiver.recordPacket_estimatedRemoteTimeStamp _ _ _ _ _ _ inOrder stamped _⟩

/-! ## Maximum jitter -/

theorem recordPacket_jitterMaxQ4 (jitterDelayMs : Nat → Nat → Int) (frequencyHz : UWord32)
    (env : Env) (r : RTPReceiver) (header : WebRtcRTPHeader) (payloadDataLength : UWord16) :
    (r.recordPacket jitterDelayMs frequencyHz env header payloadDataLength).stats.jitterMaxQ4 =
      r.stats.jitterMaxQ4 := by
  rw [recordPacket_stats]
  unfold updateStatistics updateInOrder
  dsimp only
  split_ifs <;> rfl

theorem statistics_jitterMaxQ4 (r : RTPReceiver) (reset : Bool) :
    r.stats.jitterMaxQ4.toNat ≤ (r.statistics reset).1.stats.jitterMaxQ4.toNat := by
  unfold statistics
  dsimp only
  split_ifs <;> first | exact le_refl _ | exact le_of_lt ‹_›

theorem observeAll_jitterMaxQ4 (jitterDelayMs : Nat → Nat → Int) :
    ∀ (r : RTPReceiver) (events : List StreamEvent),
      r.stats.jitterMaxQ4.toNat ≤ (r.observeAll jitterDelayMs events).stats.jitterMaxQ4.toNat
  | _, [] => le_refl _
  | r, .packet _ arrival :: events => by
    rw [observeAll_cons, observe]
    have kept := recordPacket_jitterMaxQ4 jitterDelayMs arrival.frequencyHz arrival.env r
      arrival.header arrival.payloadDataLength
    exact kept ▸ observeAll_jitterMaxQ4 jitterDelayMs _ events
  | r, .report :: events => by
    rw [observeAll_cons, observe]
    exact (statistics_jitterMaxQ4 r true).trans (observeAll_jitterMaxQ4 jitterDelayMs _ events)

theorem statistics_maxJitter (r : RTPReceiver) {report : RtcpStatistics}
    (answered : (r.statistics true).2 = some report) :
    report.jitter.toNat ≤ report.maxJitter.toNat ∧
      (r.stats.jitterMaxQ4 >>> 4).toNat ≤ report.maxJitter.toNat := by
  by_cases nothing : r.stats.receivedSeqFirst = 0 ∧ r.stats.receivedByteCount = 0
  · simp [statistics, nothing] at answered
  · simp only [statistics, nothing, ↓reduceIte, not_true_eq_false, Option.some.injEq] at answered
    subst answered
    simp only [BitVec.toNat_ushiftRight, Nat.shiftRight_eq_div_pow]
    split_ifs with larger
    · exact ⟨le_refl _, Nat.div_le_div_right (le_of_lt larger)⟩
    · exact ⟨Nat.div_le_div_right (not_lt.1 larger), le_refl _⟩

/-- Between statistics resets the maximum jitter is a running maximum: a report with reset made
after any stream of packets and reports gives a maximum at least its own jitter and at least the
maximum the receiver held before the stream. -/
theorem observeAll_statistics_maxJitter (jitterDelayMs : Nat → Nat → Int) (r : RTPReceiver)
    (events : List StreamEvent) {report : RtcpStatistics}
    (answered : ((r.observeAll jitterDelayMs events).statistics true).2 = some report) :
    report.jitter.toNat ≤ report.maxJitter.toNat ∧
      (r.stats.jitterMaxQ4 >>> 4).toNat ≤ report.maxJitter.toNat := by
  obtain ⟨below, above⟩ := statistics_maxJitter _ answered
  refine ⟨below, le_trans ?_ above⟩
  simp only [BitVec.toNat_ushiftRight, Nat.shiftRight_eq_div_pow]
  exact Nat.div_le_div_right (observeAll_jitterMaxQ4 jitterDelayMs r events)

theorem observeAll_statistics_maxJitter_gappedAudio :
    ((({} : RTPReceiver).observeAll acceptingVideo.jitterDelayMs
        [audioPacket 1, audioPacket 3]).statistics true).2 = some gappedReport ∧
      gappedReport.jitter.toNat ≤ gappedReport.maxJitter.toNat ∧
      (({} : RTPReceiver).stats.jitterMaxQ4 >>> 4).toNat ≤ gappedReport.maxJitter.toNat :=
  have answered : ((({} : RTPReceiver).observeAll acceptingVideo.jitterDelayMs
      [audioPacket 1, audioPacket 3]).statistics true).2 = some gappedReport := by decide
  ⟨answered, RTPReceiver.observeAll_statistics_maxJitter _ _ _ answered⟩

end RTPReceiver

end RtpRtcp

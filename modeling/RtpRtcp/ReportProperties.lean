import Mathlib.Data.Finset.Card
import Mathlib.Order.Interval.Finset.Nat
import RtpRtcp.SequenceProperties

/-!
# Receiver-report figures

For a stream that arrives in increasing order, an observer who counts sequence numbers without
wrapping gets the report's expected count, missing count and cumulative loss (RFC 3550 §6.4.1,
A.3) exactly when each report interval stays inside one block of `2^16` numbers.
-/

set_option autoImplicit false

namespace RtpRtcp

/-- The numbers after `low` up to `high` that never arrived. -/
def lostBetween (arrived : Finset Nat) (low high : Nat) : Nat :=
  ((Finset.Ioc low high).filter (· ∉ arrived)).card

theorem lostBetween_add_received (arrived : Finset Nat) (low high : Nat) :
    lostBetween arrived low high + (arrived.filter fun n => low < n ∧ n ≤ high).card =
      high - low := by
  have received : (Finset.Ioc low high).filter (· ∈ arrived) =
      arrived.filter fun n => low < n ∧ n ≤ high := by
    ext n
    simp only [Finset.mem_filter, Finset.mem_Ioc]
    tauto
  rw [lostBetween, ← received, add_comm, Finset.filter_card_add_filter_neg_card_eq_card,
    Nat.card_Ioc]

theorem lostBetween_add (arrived : Finset Nat) {low middle high : Nat} (lower : low ≤ middle)
    (upper : middle ≤ high) :
    lostBetween arrived low middle + lostBetween arrived middle high =
      lostBetween arrived low high := by
  unfold lostBetween
  rw [← Finset.Ioc_union_Ioc_eq_Ioc lower upper, Finset.filter_union,
    Finset.card_union_of_disjoint]
  refine Finset.disjoint_filter_filter (Finset.disjoint_left.2 fun n first second => ?_)
  simp only [Finset.mem_Ioc] at first second
  omega

theorem lostBetween_insert_of_lt (arrived : Finset Nat) {low high unwrapped : Nat}
    (above : high < unwrapped) :
    lostBetween (insert unwrapped arrived) low high = lostBetween arrived low high := by
  unfold lostBetween
  congr 1
  refine Finset.filter_congr fun n within => ?_
  have : n ≠ unwrapped := by
    simp only [Finset.mem_Ioc] at within
    omega
  simp [this]

/-- An observer's record of a stream for receiver reports: the unwrapped numbers received, the
first and the largest of them, and the largest at the last report, which is one below the first
before any report. -/
structure StreamRecord where
  arrived : Finset Nat
  first : Nat
  highest : Nat
  reportBase : Nat

namespace StreamRecord

/-- The advance of the largest number since the last report. -/
def expected (record : StreamRecord) : Nat := record.highest - record.reportBase

/-- The numbers of the current report interval that never arrived. -/
def missing (record : StreamRecord) : Nat :=
  lostBetween record.arrived record.reportBase record.highest

/-- The numbers from the first to the largest that never arrived. -/
def cumulativeLost (record : StreamRecord) : Nat :=
  lostBetween record.arrived (record.first - 1) record.highest

/-- The current report interval does not cross a multiple of `2^16`. -/
def InBlock (record : StreamRecord) : Prop :=
  record.reportBase / 2 ^ 16 = record.highest / 2 ^ 16

/-- The observer's record after one more stream event. -/
def observe : Option StreamRecord → StreamEvent → Option StreamRecord
  | none, .report => none
  | none, .packet unwrapped _ => some ⟨{unwrapped}, unwrapped, unwrapped, unwrapped - 1⟩
  | some record, .report => some { record with reportBase := record.highest }
  | some record, .packet unwrapped _ =>
    some { record with
      arrived := insert unwrapped record.arrived, highest := max record.highest unwrapped }

/-- The observer's record after a whole stream. -/
def observeAll (record : Option StreamRecord) (events : List StreamEvent) : Option StreamRecord :=
  events.foldl observe record

/-- Every event of a stream meets `condition` in the record before it. -/
def Every (condition : Option StreamRecord → StreamEvent → Prop) :
    Option StreamRecord → List StreamEvent → Prop
  | _, [] => True
  | record, event :: events => condition record event ∧ Every condition (observe record event) events

/-- The stream arrives in increasing order: the first packet's number is a nonzero 16-bit number
and each later one lies above the largest so far by less than `2^15`, below `2^32`; each
sequence number is its unwrapped number modulo `2^16`. -/
def Ascends : Option StreamRecord → StreamEvent → Prop
  | _, .report => True
  | none, .packet unwrapped arrival =>
    arrival.header.sequenceNumber.toNat = unwrapped ∧ 0 < unwrapped
  | some record, .packet unwrapped arrival =>
    arrival.header.sequenceNumber.toNat = unwrapped % 2 ^ 16 ∧ record.highest < unwrapped ∧
      unwrapped < record.highest + 2 ^ 15 ∧ unwrapped < 2 ^ 32

/-- A report closes an interval that stays inside one block of `2^16` numbers. -/
def ReportInBlock : Option StreamRecord → StreamEvent → Prop
  | some record, .report => record.InBlock
  | _, _ => True

instance (record : StreamRecord) : Decidable record.InBlock :=
  inferInstanceAs (Decidable (_ = _))

instance Every.decidable (condition : Option StreamRecord → StreamEvent → Prop)
    [∀ record event, Decidable (condition record event)] :
    ∀ record events, Decidable (Every condition record events)
  | _, [] => isTrue trivial
  | record, event :: events =>
    have := Every.decidable condition (observe record event) events
    inferInstanceAs (Decidable (condition record event ∧ _))

instance Ascends.decidable : ∀ record event, Decidable (Ascends record event)
  | none, .report | some _, .report => isTrue trivial
  | none, .packet unwrapped arrival =>
    inferInstanceAs (Decidable (arrival.header.sequenceNumber.toNat = unwrapped ∧ 0 < unwrapped))
  | some record, .packet unwrapped arrival =>
    inferInstanceAs (Decidable (arrival.header.sequenceNumber.toNat = unwrapped % 2 ^ 16 ∧
      record.highest < unwrapped ∧ unwrapped < record.highest + 2 ^ 15 ∧ unwrapped < 2 ^ 32))

instance ReportInBlock.decidable : ∀ record event, Decidable (ReportInBlock record event)
  | some record, .report => inferInstanceAs (Decidable record.InBlock)
  | none, _ | some _, .packet _ _ => isTrue trivial

/-- What the record of an ascending stream satisfies. -/
structure Valid (record : StreamRecord) : Prop where
  firstPos : 0 < record.first
  firstBelow : record.first < 2 ^ 16
  bounds : ∀ n ∈ record.arrived, record.first ≤ n ∧ n ≤ record.highest
  highestArrived : record.highest ∈ record.arrived
  baseFrom : record.first ≤ record.reportBase + 1
  baseUpTo : record.reportBase ≤ record.highest
  highestBelow : record.highest < 2 ^ 32

theorem valid_first {unwrapped : Nat} (positive : 0 < unwrapped) (bounded : unwrapped < 2 ^ 16) :
    Valid ⟨{unwrapped}, unwrapped, unwrapped, unwrapped - 1⟩ :=
  ⟨positive, bounded, by simp, by simp, by simp only; omega, by simp, by simp only; omega⟩

theorem Valid.insert {record : StreamRecord} (valid : record.Valid) {unwrapped : Nat}
    (above : record.highest < unwrapped) (bounded : unwrapped < 2 ^ 32) :
    Valid { record with arrived := insert unwrapped record.arrived, highest := unwrapped } := by
  refine ⟨valid.firstPos, valid.firstBelow, fun n arrived => ?_, by simp, valid.baseFrom,
    by simpa using (valid.baseUpTo.trans above.le), bounded⟩
  rcases Finset.mem_insert.1 arrived with rfl | arrived
  · have := valid.bounds _ valid.highestArrived
    simp only
    omega
  · have := valid.bounds n arrived
    simp only
    omega

theorem Valid.report {record : StreamRecord} (valid : record.Valid) :
    Valid { record with reportBase := record.highest } :=
  ⟨valid.firstPos, valid.firstBelow, valid.bounds, valid.highestArrived,
    by simpa using (valid.baseFrom.trans (Nat.succ_le_succ valid.baseUpTo)), le_rfl,
    valid.highestBelow⟩

theorem Valid.card_le {record : StreamRecord} (valid : record.Valid) :
    record.arrived.card ≤ record.highest + 1 - record.first :=
  calc record.arrived.card ≤ (Finset.Icc record.first record.highest).card :=
        Finset.card_le_card fun n arrived => Finset.mem_Icc.2 (valid.bounds n arrived)
    _ = record.highest + 1 - record.first := Nat.card_Icc _ _

theorem Valid.card_split {record : StreamRecord} (valid : record.Valid) :
    (record.arrived.filter (· ≤ record.reportBase)).card +
        (record.arrived.filter fun n => record.reportBase < n ∧ n ≤ record.highest).card =
      record.arrived.card := by
  have since : record.arrived.filter (fun n => record.reportBase < n ∧ n ≤ record.highest) =
      record.arrived.filter (fun n => ¬n ≤ record.reportBase) :=
    Finset.filter_congr fun n arrived => by
      have := (valid.bounds n arrived).2
      omega
  rw [since, Finset.filter_card_add_filter_neg_card_eq_card]

end StreamRecord

namespace RTPReceiver

open StreamRecord

/-- The statistics account for an observer's record: they track its largest number, hold its
first number and its packet count, have seen no old packets, and hold the last report at the
record's. -/
structure Accounts (s : ReceiveStatistics) (record : StreamRecord) : Prop where
  tracks : TracksMax s record.highest
  seqFirst : s.receivedSeqFirst.toNat = record.first
  inorder : s.receivedInorderPacketCount.toNat = record.arrived.card
  old : s.receivedOldPacketCount = 0
  lastOld : s.lastReportOldPackets = 0
  lastSeqMax : (reportSeqMax s).toNat = record.reportBase % 2 ^ 16
  lastInorder :
    s.lastReportInorderPackets.toNat = (record.arrived.filter (· ≤ record.reportBase)).card

/-- The cumulative loss counts the numbers up to the last report that never arrived. -/
def CountsLosses (s : ReceiveStatistics) (record : StreamRecord) : Prop :=
  s.cumulativeLoss.toNat = lostBetween record.arrived (record.first - 1) record.reportBase

section Report

variable {s : ReceiveStatistics} {record : StreamRecord} (valid : record.Valid)
  (accounts : Accounts s record)
include valid accounts

theorem expSinceLast_of_accounts (inBlock : record.InBlock) :
    (expSinceLast s).toNat = record.expected := by
  have base := accounts.lastSeqMax
  have seqMax := accounts.tracks.1
  have := valid.baseUpTo
  unfold InBlock at inBlock
  have notDown : ¬reportSeqMax s > s.receivedSeqMax := by
    simp only [gt_iff_lt, BitVec.lt_def, base, seqMax]
    omega
  simp only [expSinceLast, notDown, ↓reduceIte, BitVec.toNat_sub, base, seqMax, expected]
  omega

theorem recSinceLast_of_accounts (nackMethod : NACKMethod) :
    (recSinceLast nackMethod s).toNat =
      record.arrived.card - (record.arrived.filter (· ≤ record.reportBase)).card := by
  have : (record.arrived.filter (· ≤ record.reportBase)).card ≤ record.arrived.card :=
    Finset.card_le_card (Finset.filter_subset _ _)
  have := valid.card_le
  have := valid.highestBelow
  have := valid.firstPos
  simp only [recSinceLast, accounts.old, accounts.lastOld, sub_self, ite_self, add_zero,
    BitVec.toNat_sub, accounts.inorder, accounts.lastInorder]
  omega

theorem missingSinceLast_of_accounts (nackMethod : NACKMethod) (inBlock : record.InBlock) :
    missingSinceLast nackMethod s = record.missing := by
  have lost := lostBetween_add_received record.arrived record.reportBase record.highest
  have split := valid.card_split
  rw [missingSinceLast, expSinceLast_of_accounts valid accounts inBlock,
    recSinceLast_of_accounts valid accounts nackMethod]
  unfold expected missing
  omega

theorem cumulativeLoss_of_accounts (nackMethod : NACKMethod) (inBlock : record.InBlock)
    (counts : CountsLosses s record) :
    (s.cumulativeLoss + BitVec.ofNat 32 (missingSinceLast nackMethod s)).toNat =
      record.cumulativeLost := by
  have whole := lostBetween_add_received record.arrived (record.first - 1) record.highest
  have := valid.highestBelow
  rw [BitVec.toNat_add, BitVec.toNat_ofNat, counts, missingSinceLast_of_accounts valid accounts _
    inBlock, missing, Nat.add_mod_mod, lostBetween_add _ (by have := valid.baseFrom; omega)
    valid.baseUpTo, Nat.mod_eq_of_lt (by omega)]
  rfl

end Report

theorem statistics_of_reset {r : RTPReceiver} (reset : r.stats = {}) :
    r.statistics true = (r, none) := by
  simp [statistics, reset]

/-- A report on a stream with a record answers with the missing count and the cumulative loss it
computes, and keeps the accounts, with the last report at the largest number. -/
theorem statistics_of_accounts {r : RTPReceiver} {record : StreamRecord} (valid : record.Valid)
    (accounts : Accounts r.stats record) :
    Accounts (r.statistics true).1.stats { record with reportBase := record.highest } ∧
      ∃ report, (r.statistics true).2 = some report ∧
        report.missing = some (missingSinceLast r.nackMethod r.stats : Int) ∧
        report.cumLost = (r.statistics true).1.stats.cumulativeLoss ∧
        (r.statistics true).1.stats.cumulativeLoss =
          r.stats.cumulativeLoss + BitVec.ofNat 32 (missingSinceLast r.nackMethod r.stats) := by
  have received : ¬(r.stats.receivedSeqFirst = 0 ∧ r.stats.receivedByteCount = 0) :=
    fun ⟨zero, _⟩ => by
      have := accounts.seqFirst
      have := valid.firstPos
      simp_all
  have counted : r.stats.receivedInorderPacketCount ≠ 0 := by
    have := accounts.inorder
    have := Finset.card_pos.2 ⟨_, valid.highestArrived⟩
    intro zero
    simp_all
  have all : record.arrived.filter (· ≤ record.highest) = record.arrived :=
    Finset.filter_true_of_mem fun n arrived => (valid.bounds n arrived).2
  simp only [statistics, received, ↓reduceIte, not_true_eq_false]
  refine ⟨⟨accounts.tracks, accounts.seqFirst, accounts.inorder, accounts.old, accounts.old, ?_, ?_⟩,
    _, rfl, rfl, rfl, trivial⟩
  · simp only [reportSeqMax, counted, ↓reduceIte, accounts.tracks.1]
  · simp only [all, accounts.inorder]

theorem recordPacket_accounts_first (jitterDelayMs : Nat → Nat → Int) (frequencyHz : UWord32)
    (env : Env) {r : RTPReceiver} (header : WebRtcRTPHeader) (payloadDataLength : UWord16)
    (reset : r.stats = {}) {unwrapped : Nat} (low : header.sequenceNumber.toNat = unwrapped)
    (positive : 0 < unwrapped) :
    Accounts (r.recordPacket jitterDelayMs frequencyHz env header payloadDataLength).stats
        ⟨{unwrapped}, unwrapped, unwrapped, unwrapped - 1⟩ ∧
      CountsLosses (r.recordPacket jitterDelayMs frequencyHz env header payloadDataLength).stats
        ⟨{unwrapped}, unwrapped, unwrapped, unwrapped - 1⟩ := by
  have := header.sequenceNumber.isLt
  have one : (1 : UWord16).toNat = 1 := rfl
  have zero : (0 : UWord32).toNat = 0 := rfl
  rw [recordPacket_stats_of_first _ _ _ _ _ _ (by simp [reset]), reset]
  refine ⟨⟨⟨by simp only [low]; omega, by simp only [zero]; omega⟩, low, rfl, rfl, rfl, ?_, ?_⟩, ?_⟩
  · simp only [reportSeqMax, ↓reduceIte, BitVec.toNat_sub, low, one]
    omega
  · simp only [Finset.filter_singleton]
    split_ifs <;> first | rfl | omega
  · simp [CountsLosses, lostBetween]

theorem recordPacket_accounts (jitterDelayMs : Nat → Nat → Int) (frequencyHz : UWord32)
    (env : Env) {r : RTPReceiver} {record : StreamRecord} (valid : record.Valid)
    (accounts : Accounts r.stats record) (threshold : r.maxReorderingThreshold ≤ 2 ^ 15)
    (header : WebRtcRTPHeader) (payloadDataLength : UWord16) {unwrapped : Nat}
    (low : header.sequenceNumber.toNat = unwrapped % 2 ^ 16) (above : record.highest < unwrapped)
    (early : unwrapped < record.highest + 2 ^ 15) (bounded : unwrapped < 2 ^ 32) :
    Accounts (r.recordPacket jitterDelayMs frequencyHz env header payloadDataLength).stats
        { record with arrived := insert unwrapped record.arrived, highest := unwrapped } ∧
      (CountsLosses r.stats record →
        CountsLosses (r.recordPacket jitterDelayMs frequencyHz env header payloadDataLength).stats
          { record with arrived := insert unwrapped record.arrived, highest := unwrapped }) := by
  have positive : 0 < record.highest :=
    valid.firstPos.trans_le (valid.bounds _ valid.highestArrived).1
  have inOrder := inOrderPacket_of_advance accounts.tracks threshold above early _ low
  have started : ¬(r.stats.receivedSeqMax = 0 ∧ r.stats.receivedSeqWraps = 0) := by
    rw [accounts.tracks.zero_iff]
    omega
  have fresh : unwrapped ∉ record.arrived := fun arrived => by
    have := (valid.bounds _ arrived).2
    omega
  have beyond : record.reportBase < unwrapped := valid.baseUpTo.trans_lt above
  have tracks := recordPacket_tracks_advance jitterDelayMs frequencyHz env r header
    payloadDataLength accounts.tracks positive inOrder above early (by omega) low
  obtain ⟨_, _, stats⟩ :=
    recordPacket_stats_of_inOrder jitterDelayMs frequencyHz env r header payloadDataLength started
      inOrder
  have := valid.card_le
  have := valid.firstPos
  have one : (1 : UWord32).toNat = 1 := rfl
  rw [stats] at tracks ⊢
  refine ⟨⟨tracks, accounts.seqFirst, ?_, accounts.old, accounts.lastOld, accounts.lastSeqMax, ?_⟩,
    fun counts => ?_⟩
  · simp only [BitVec.toNat_add, accounts.inorder, one, Finset.card_insert_of_not_mem fresh]
    omega
  · simp only [Finset.filter_insert, Nat.not_le.2 beyond, ↓reduceIte, accounts.lastInorder]
  · simp only [CountsLosses, lostBetween_insert_of_lt _ beyond]
    exact counts

/-- What the statistics hold of the observer's record: nothing before the first packet, the
accounts after it. -/
def Accounting (s : ReceiveStatistics) : Option StreamRecord → Prop
  | none => s = {}
  | some record => record.Valid ∧ Accounts s record

theorem observe_accounting (jitterDelayMs : Nat → Nat → Int) {r : RTPReceiver}
    (threshold : r.maxReorderingThreshold ≤ 2 ^ 15) :
    ∀ (record : Option StreamRecord) (event : StreamEvent), Accounting r.stats record →
      Ascends record event →
      Accounting (r.observe jitterDelayMs event).stats (StreamRecord.observe record event)
  | none, .report, reset, _ => by
    simpa [observe, StreamRecord.observe, Accounting, statistics_of_reset reset] using reset
  | none, .packet _ arrival, reset, ⟨low, positive⟩ =>
    ⟨valid_first positive (low ▸ arrival.header.sequenceNumber.isLt),
      (recordPacket_accounts_first _ _ _ _ _ reset low positive).1⟩
  | some _, .report, ⟨valid, accounts⟩, _ => ⟨valid.report, (statistics_of_accounts valid accounts).1⟩
  | some record, .packet _ _, ⟨valid, accounts⟩, ⟨low, above, early, bounded⟩ => by
    simp only [StreamRecord.observe, max_eq_right above.le]
    exact ⟨valid.insert above bounded,
      (recordPacket_accounts _ _ _ valid accounts threshold _ _ low above early bounded).1⟩

theorem observe_countsLosses (jitterDelayMs : Nat → Nat → Int) {r : RTPReceiver}
    (threshold : r.maxReorderingThreshold ≤ 2 ^ 15) :
    ∀ (record : Option StreamRecord) (event : StreamEvent), Accounting r.stats record →
      (∀ current ∈ record, CountsLosses r.stats current) → Ascends record event →
      ReportInBlock record event →
      ∀ next ∈ StreamRecord.observe record event,
        CountsLosses (r.observe jitterDelayMs event).stats next
  | none, .report, _, _, _, _, _, absent => nomatch absent
  | none, .packet _ _, reset, _, ⟨low, positive⟩, _, _, rfl =>
    (recordPacket_accounts_first _ _ _ _ _ reset low positive).2
  | some record, .report, ⟨valid, accounts⟩, counts, _, inBlock, _, rfl => by
    obtain ⟨_, _, _, _, _, cumulative⟩ := statistics_of_accounts valid accounts
    simp only [CountsLosses, observe, cumulative]
    exact cumulativeLoss_of_accounts valid accounts _ inBlock (counts record rfl)
  | some record, .packet _ _, ⟨valid, accounts⟩, counts, ⟨low, above, early, bounded⟩, _, _, rfl => by
    simp only [max_eq_right above.le]
    exact (recordPacket_accounts _ _ _ valid accounts threshold _ _ low above early bounded).2
      (counts record rfl)

theorem observeAll_accounting (jitterDelayMs : Nat → Nat → Int) {events : List StreamEvent} :
    ∀ {r : RTPReceiver} {record : Option StreamRecord},
      r.maxReorderingThreshold ≤ 2 ^ 15 → Accounting r.stats record → Every Ascends record events →
      Accounting (r.observeAll jitterDelayMs events).stats (StreamRecord.observeAll record events) := by
  induction events with
  | nil => exact fun _ accounting _ => accounting
  | cons event events ih =>
    intro r record threshold accounting ascending
    exact ih (by simpa using threshold)
      (observe_accounting jitterDelayMs threshold _ _ accounting ascending.1) ascending.2

/-- A whole ascending stream whose reports close intervals inside one block keeps the cumulative
loss counting the losses. -/
theorem observeAll_countsLosses (jitterDelayMs : Nat → Nat → Int) {events : List StreamEvent} :
    ∀ {r : RTPReceiver} {record : Option StreamRecord},
      r.maxReorderingThreshold ≤ 2 ^ 15 → Accounting r.stats record →
      (∀ current ∈ record, CountsLosses r.stats current) → Every Ascends record events →
      Every ReportInBlock record events →
      ∀ last ∈ StreamRecord.observeAll record events,
        CountsLosses (r.observeAll jitterDelayMs events).stats last := by
  induction events with
  | nil => exact fun _ _ counts _ _ => counts
  | cons event events ih =>
    intro r record threshold accounting counts ascending inBlocks
    exact ih (by simpa using threshold)
      (observe_accounting jitterDelayMs threshold _ _ accounting ascending.1)
      (observe_countsLosses jitterDelayMs threshold _ _ accounting counts ascending.1 inBlocks.1)
      ascending.2 inBlocks.2

/-- For a stream that arrives in increasing order after a statistics reset, with the first number
nonzero and every threshold up to `2^15`: a report whose interval stays inside one block of
`2^16` numbers has the observer's expected count and missing count, and also the observer's
cumulative loss when every earlier report's interval did. -/
theorem statistics_reports_ascending_stream (jitterDelayMs : Nat → Nat → Int) (r : RTPReceiver)
    (reset : r.stats = {}) (threshold : r.maxReorderingThreshold ≤ 2 ^ 15)
    (events : List StreamEvent) (ascending : Every Ascends none events) {record : StreamRecord}
    (recorded : StreamRecord.observeAll none events = some record) (inBlock : record.InBlock) :
    (expSinceLast (r.observeAll jitterDelayMs events).stats).toNat = record.expected ∧
      ∃ report, ((r.observeAll jitterDelayMs events).statistics true).2 = some report ∧
        report.missing = some (record.missing : Int) ∧
        (Every ReportInBlock none events → report.cumLost.toNat = record.cumulativeLost) := by
  have accounting := observeAll_accounting jitterDelayMs threshold
    (show Accounting r.stats none from reset) ascending
  rw [recorded] at accounting
  obtain ⟨valid, accounts⟩ := accounting
  obtain ⟨_, report, answered, missing, cumLost, cumulative⟩ := statistics_of_accounts valid accounts
  refine ⟨expSinceLast_of_accounts valid accounts inBlock, report, answered, ?_, fun inBlocks => ?_⟩
  · rw [missing, missingSinceLast_of_accounts valid accounts _ inBlock]
  · have counts := observeAll_countsLosses jitterDelayMs threshold
      (show Accounting r.stats none from reset) (fun _ absent => nomatch absent) ascending
      inBlocks record recorded
    rw [cumLost, cumulative]
    exact cumulativeLoss_of_accounts valid accounts _ inBlock counts

/-- Packets 100 and 103, a report, then 104 and 107. -/
def gappedStream : List StreamEvent :=
  [audioPacket 100, audioPacket 103, .report, audioPacket 104, audioPacket 107]

/-- The report after the gapped stream expects 4 packets since 103, misses 105 and 106, and
counts 4 lost since 100. -/
theorem statistics_reports_gapped_stream :
    ({} : RTPReceiver).stats = {} ∧ ({} : RTPReceiver).maxReorderingThreshold ≤ 2 ^ 15 ∧
      Every Ascends none gappedStream ∧
      StreamRecord.observeAll none gappedStream = some ⟨{107, 104, 103, 100}, 100, 107, 103⟩ ∧
      InBlock ⟨{107, 104, 103, 100}, 100, 107, 103⟩ ∧
      ((RTPReceiver.expSinceLast (({} : RTPReceiver).observeAll acceptingVideo.jitterDelayMs
          gappedStream).stats).toNat = expected ⟨{107, 104, 103, 100}, 100, 107, 103⟩ ∧
        ∃ report, ((({} : RTPReceiver).observeAll acceptingVideo.jitterDelayMs
            gappedStream).statistics true).2 = some report ∧
          report.missing = some (missing ⟨{107, 104, 103, 100}, 100, 107, 103⟩ : Int) ∧
          (Every ReportInBlock none gappedStream →
            report.cumLost.toNat = cumulativeLost ⟨{107, 104, 103, 100}, 100, 107, 103⟩)) :=
  have ascending : Every Ascends none gappedStream := by decide
  have inBlock : InBlock ⟨{107, 104, 103, 100}, 100, 107, 103⟩ := by decide
  ⟨rfl, by decide, ascending, rfl, inBlock,
    RTPReceiver.statistics_reports_ascending_stream _ {} rfl (by decide) _ ascending rfl inBlock⟩

/-- Packets 65534 and 65535, a report, then 65537 (sent as 1) with 65536 lost. The interval of
the next report crosses the wrap: the observer expects 2 and misses 1, but the 16-bit maximum 1
is below the last report's 65535, so the code expects nothing, misses nothing and the
cumulative loss stays 0. -/
theorem statistics_drops_interval_across_wrap :
    Every Ascends none [audioPacket 65534, audioPacket 65535, .report, audioPacket 65537] ∧
      (StreamRecord.observeAll none
          [audioPacket 65534, audioPacket 65535, .report, audioPacket 65537]).map
        (fun record => (record.expected, record.missing, record.cumulativeLost)) = some (2, 1, 1) ∧
      (RTPReceiver.expSinceLast (({} : RTPReceiver).observeAll acceptingVideo.jitterDelayMs
        [audioPacket 65534, audioPacket 65535, .report, audioPacket 65537]).stats).toNat = 0 ∧
      ((({} : RTPReceiver).observeAll acceptingVideo.jitterDelayMs
        [audioPacket 65534, audioPacket 65535, .report, audioPacket 65537]).statistics true).2.map
          (fun report => (report.missing, report.cumLost.toNat)) = some (some 0, 0) := by
  decide

/-- The statistics right after a report with `reset`: the kept report holds the current
counters, loss and jitter, and the maximum jitter is at least the current one. -/
structure Reported (s : ReceiveStatistics) : Prop where
  inorder : s.lastReportInorderPackets = s.receivedInorderPacketCount
  old : s.lastReportOldPackets = s.receivedOldPacketCount
  seqMax : s.lastReportSeqMax = s.receivedSeqMax
  cumulativeLost : s.lastReportCumulativeLost = s.cumulativeLoss
  extendedHighSeqNum : s.lastReportExtendedHighSeqNum = extendedHighSeqNum s
  jitter : s.lastReportJitter = s.jitterQ4 >>> 4
  jitterTransmissionTimeOffset :
    s.lastReportJitterTransmissionTimeOffset = s.jitterQ4TransmissionTimeOffset >>> 4
  jitterMax : ¬s.jitterQ4 > s.jitterMaxQ4

theorem statistics_counters (r : RTPReceiver) (reset : Bool) :
    (r.statistics reset).1.stats.receivedSeqFirst = r.stats.receivedSeqFirst ∧
      (r.statistics reset).1.stats.receivedByteCount = r.stats.receivedByteCount ∧
      (r.statistics reset).1.stats.receivedInorderPacketCount = r.stats.receivedInorderPacketCount := by
  simp only [statistics]
  split_ifs <;> exact ⟨rfl, rfl, rfl⟩

theorem statistics_reported (r : RTPReceiver) {report : RtcpStatistics}
    (answered : (r.statistics true).2 = some report) :
    Reported (r.statistics true).1.stats ∧
      report = { report with
        cumLost := (r.statistics true).1.stats.cumulativeLoss
        extMax := extendedHighSeqNum (r.statistics true).1.stats
        jitter := (r.statistics true).1.stats.jitterQ4 >>> 4
        maxJitter := (r.statistics true).1.stats.jitterMaxQ4 >>> 4
        jitterTransmissionTimeOffset :=
          (r.statistics true).1.stats.jitterQ4TransmissionTimeOffset >>> 4 } := by
  by_cases nothing : r.stats.receivedSeqFirst = 0 ∧ r.stats.receivedByteCount = 0
  · simp [statistics, nothing] at answered
  · simp only [statistics, nothing, ↓reduceIte, not_true_eq_false, Option.some.injEq] at answered ⊢
    subst answered
    refine ⟨⟨rfl, rfl, rfl, rfl, rfl, rfl, rfl, ?_⟩, rfl⟩
    dsimp only
    split
    · exact BitVec.lt_irrefl _
    · assumption

/-- On `Reported` statistics with an in-order packet counted, a report with `reset` expects and
misses nothing: it answers the kept loss, maximum and jitter with a fraction lost of 0, and
changes only the kept fraction lost, to 0. -/
theorem statistics_of_reported (r : RTPReceiver) (reported : Reported r.stats)
    (counted : r.stats.receivedInorderPacketCount ≠ 0)
    (received : ¬(r.stats.receivedSeqFirst = 0 ∧ r.stats.receivedByteCount = 0)) :
    r.statistics true =
      ({ r with stats := { r.stats with lastReportFractionLost := 0 } },
        some { fractionLost := 0, cumLost := r.stats.cumulativeLoss
               extMax := extendedHighSeqNum r.stats, jitter := r.stats.jitterQ4 >>> 4
               maxJitter := r.stats.jitterMaxQ4 >>> 4
               jitterTransmissionTimeOffset := r.stats.jitterQ4TransmissionTimeOffset >>> 4
               missing := some 0 }) := by
  have expected : expSinceLast r.stats = 0 := by
    rw [expSinceLast, reportSeqMax, reported.inorder, if_neg counted, reported.seqMax]
    simp
  have missing : missingSinceLast r.nackMethod r.stats = 0 := by
    simp [missingSinceLast, expected]
  simp only [statistics, received, ↓reduceIte, not_true_eq_false, expected, missing,
    reported.jitterMax, BitVec.add_zero, ne_eq, Nat.cast_zero, reported.inorder, reported.old,
    reported.seqMax, reported.cumulativeLost, reported.extendedHighSeqNum, reported.jitter,
    reported.jitterTransmissionTimeOffset]

/-- Two reports with `reset` and nothing in between, once something is received and while an
in-order packet is counted: the second answers the first's report with `fraction_lost` and
`missing` 0, so the same cumulative loss, extended maximum and jitter values, and the state it
leaves is the first's with the kept fraction lost set to 0. -/
theorem statistics_twice (r : RTPReceiver) (counted : r.stats.receivedInorderPacketCount ≠ 0)
    (received : ¬(r.stats.receivedSeqFirst = 0 ∧ r.stats.receivedByteCount = 0)) :
    ∃ report, (r.statistics true).2 = some report ∧
      (r.statistics true).1.statistics true =
        ({ (r.statistics true).1 with
            stats := { (r.statistics true).1.stats with lastReportFractionLost := 0 } },
          some { report with fractionLost := 0, missing := some 0 }) := by
  obtain ⟨report, answered⟩ : ∃ report, (r.statistics true).2 = some report :=
    ⟨_, by simp only [statistics, received, ↓reduceIte, not_true_eq_false]; rfl⟩
  obtain ⟨reported, kept⟩ := statistics_reported r answered
  obtain ⟨seqFirst, byteCount, inorder⟩ := statistics_counters r true
  refine ⟨report, answered, ?_⟩
  rw [statistics_of_reported _ reported (by rwa [inorder]) (by rwa [seqFirst, byteCount]), kept]

/-- VP8 registered, packets 100 and 103 of SSRC 1, and a report. -/
def reportedGap : List (Env × Call) :=
  [(clockAt 1, .registerReceivePayload "VP8" 96 90000 1 0),
   (clockAt 2, .incomingRTPPacket (vp8Header 1 100) (List.replicate 20 0) 20),
   (clockAt 3, .incomingRTPPacket (vp8Header 1 103) (List.replicate 20 0) 20),
   (clockAt 4, .statistics true)]

/-- The receiver after VP8 is registered and packets 100 and 103 of SSRC 1 arrive. -/
def gapReceived : RTPReceiver :=
  ((Receiver.init default).run acceptingVideo (reportedGap.take 3)).1.rtp

/-- After packets 100 and 103, which count two in-order packets. -/
theorem statistics_twice_after_gap :
    gapReceived.stats.receivedInorderPacketCount ≠ 0 ∧
      ¬(gapReceived.stats.receivedSeqFirst = 0 ∧ gapReceived.stats.receivedByteCount = 0) ∧
    ∃ report, (gapReceived.statistics true).2 = some report ∧
      (gapReceived.statistics true).1.statistics true =
        ({ (gapReceived.statistics true).1 with
            stats := { (gapReceived.statistics true).1.stats with lastReportFractionLost := 0 } },
          some { report with fractionLost := 0, missing := some 0 }) :=
  ⟨by decide, by decide, RTPReceiver.statistics_twice gapReceived (by decide) (by decide)⟩

/-- Two reports in a row are not idempotent. After packets 100 and 103 the first report keeps a
fraction lost of 127, and the second, which expects nothing, keeps 0 instead. After
`ResetDataCounters` no in-order packet is counted, so both reports are first reports: each
reaches back to packet 100 and misses 4, and the cumulative loss goes from 4 to 8. -/
theorem statistics_twice_not_idempotent :
    (gapReceived.statistics true).1.stats.lastReportFractionLost = 127 ∧
    ((gapReceived.statistics true).1.statistics true).1.stats.lastReportFractionLost = 0 ∧
    ((gapReceived.resetDataCounters.statistics true).2.map
      fun report => (report.missing, report.cumLost)) = some (some 4, 4) ∧
    (((gapReceived.resetDataCounters.statistics true).1.statistics true).2.map
      fun report => (report.missing, report.cumLost)) = some (some 4, 8) := by
  decide

/-- After the report, packet 104 arrives, with or without `ResetDataCounters` first. Without
it, the next report expects one packet and misses none. With it, the first-report sentinel
`last_report_inorder_packets_ == 0` is back: the report reaches back to packet 100, expects 5,
misses 4, reports a fraction lost of 204 and adds the 4 to the cumulative loss. -/
theorem resetDataCounters_changes_next_report :
    ((((Receiver.init default).run acceptingVideo (reportedGap ++
        [(clockAt 5, .incomingRTPPacket (vp8Header 1 104) (List.replicate 20 0) 20)])).1.rtp.statistics
          true).2.map fun report => (report.fractionLost, report.cumLost, report.missing)) =
        some (0, 2, some 0) ∧
      ((((Receiver.init default).run acceptingVideo (reportedGap ++
        [(clockAt 5, .resetDataCounters),
         (clockAt 5, .incomingRTPPacket (vp8Header 1 104) (List.replicate 20 0) 20)])).1.rtp.statistics
          true).2.map fun report => (report.fractionLost, report.cumLost, report.missing)) =
        some (204, 6, some 4) := by
  decide

end RTPReceiver

end RtpRtcp

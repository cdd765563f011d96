import RtpRtcp.SequenceProperties

/-!
# Jitter

Both Q4 accumulators of `UpdateStatistics` run the filter `J + ((16 d - J + 8) >> 4)` of
RFC 3550 §6.4.1. On integers (`jitterStep`) it settles in `[16 d - 7, 16 d + 8]`; on the code's
32-bit words it computes the same values and stays bounded in every reachable state, although
`abs` leaves `INT32_MIN` negative.
-/

set_option autoImplicit false

namespace RtpRtcp

/-- `16 · 449999 + 8`, the largest Q4 value the filter reaches with differences below 450000
samples; a reported jitter (`>> 4`) is then at most 449999. -/
def jitterQ4Bound : Nat := 16 * 449999 + 8

/-- The Q4 filter of `UpdateStatistics` on integers: `J + ((16 d - J + 8) >> 4)`, where `>> 4` is
the floor of a division by 16 (gain 1/16, rounded to nearest). -/
def jitterStep (jitterQ4 timeDiffSamples : Int) : Int :=
  jitterQ4 + (16 * timeDiffSamples - jitterQ4 + 8) / 16

section Filter

variable {jitterQ4 timeDiffSamples : Int}

theorem jitterStep_mem (nonneg : 0 ≤ jitterQ4) (bounded : jitterQ4 ≤ jitterQ4Bound)
    (diffNonneg : 0 ≤ timeDiffSamples) (small : timeDiffSamples < 450000) :
    0 ≤ jitterStep jitterQ4 timeDiffSamples ∧ jitterStep jitterQ4 timeDiffSamples ≤ jitterQ4Bound := by
  unfold jitterStep jitterQ4Bound at *
  omega

theorem jitterStep_natAbs_le :
    (jitterStep jitterQ4 timeDiffSamples - 16 * timeDiffSamples).natAbs ≤
      (jitterQ4 - 16 * timeDiffSamples).natAbs := by
  unfold jitterStep
  omega

theorem jitterStep_same_side :
    (jitterQ4 ≤ 16 * timeDiffSamples → jitterStep jitterQ4 timeDiffSamples ≤ 16 * timeDiffSamples) ∧
      (16 * timeDiffSamples ≤ jitterQ4 → 16 * timeDiffSamples ≤ jitterStep jitterQ4 timeDiffSamples) := by
  unfold jitterStep
  omega

/-- The dead band `[16 d - 7, 16 d + 8]`: the rounding leaves such a `J` where it is. -/
def InDeadBand (jitterQ4 timeDiffSamples : Int) : Prop :=
  16 * timeDiffSamples - 7 ≤ jitterQ4 ∧ jitterQ4 ≤ 16 * timeDiffSamples + 8

theorem jitterStep_of_inDeadBand (band : InDeadBand jitterQ4 timeDiffSamples) :
    jitterStep jitterQ4 timeDiffSamples = jitterQ4 := by
  unfold InDeadBand at band
  unfold jitterStep
  omega

theorem jitterStep_closer (outside : ¬InDeadBand jitterQ4 timeDiffSamples) :
    (jitterStep jitterQ4 timeDiffSamples - 16 * timeDiffSamples).natAbs <
      (jitterQ4 - 16 * timeDiffSamples).natAbs := by
  unfold InDeadBand at outside
  unfold jitterStep
  omega

end Filter

section Trajectory

variable (timeDiffSamples : Int)

theorem jitterStep_iterate_natAbs_le (jitterQ4 : Int) (n : Nat) :
    ((jitterStep · timeDiffSamples)^[n + 1] jitterQ4 - 16 * timeDiffSamples).natAbs ≤
      ((jitterStep · timeDiffSamples)^[n] jitterQ4 - 16 * timeDiffSamples).natAbs := by
  rw [Function.iterate_succ_apply']
  exact jitterStep_natAbs_le

theorem jitterStep_iterate_same_side (jitterQ4 : Int) (n : Nat) :
    (jitterQ4 ≤ 16 * timeDiffSamples →
        (jitterStep · timeDiffSamples)^[n] jitterQ4 ≤ 16 * timeDiffSamples) ∧
      (16 * timeDiffSamples ≤ jitterQ4 →
        16 * timeDiffSamples ≤ (jitterStep · timeDiffSamples)^[n] jitterQ4) := by
  induction n with
  | zero => exact ⟨id, id⟩
  | succ n ih =>
    rw [Function.iterate_succ_apply']
    exact ⟨fun below => jitterStep_same_side.1 (ih.1 below),
      fun above => jitterStep_same_side.2 (ih.2 above)⟩

theorem jitterStep_iterate_inDeadBand_or_closer (jitterQ4 : Int) (n : Nat) :
    InDeadBand ((jitterStep · timeDiffSamples)^[n] jitterQ4) timeDiffSamples ∨
      ((jitterStep · timeDiffSamples)^[n] jitterQ4 - 16 * timeDiffSamples).natAbs + n ≤
        (jitterQ4 - 16 * timeDiffSamples).natAbs := by
  induction n with
  | zero => exact .inr (by simp)
  | succ n ih =>
    rw [Function.iterate_succ_apply']
    rcases ih with band | before
    · exact .inl (by rwa [jitterStep_of_inDeadBand band])
    · by_cases band : InDeadBand ((jitterStep · timeDiffSamples)^[n] jitterQ4) timeDiffSamples
      · exact .inl (by rwa [jitterStep_of_inDeadBand band])
      · have closer := jitterStep_closer band
        exact .inr (by omega)

/-- `J` reaches the dead band after at most `|J₀ - 16 d|` steps and then stays where it is. -/
theorem jitterStep_iterate_settles (jitterQ4 : Int) :
    ∃ settled, ∀ n ≥ settled,
      (jitterStep · timeDiffSamples)^[n] jitterQ4 =
          (jitterStep · timeDiffSamples)^[settled] jitterQ4 ∧
        InDeadBand ((jitterStep · timeDiffSamples)^[settled] jitterQ4) timeDiffSamples := by
  have band : InDeadBand ((jitterStep · timeDiffSamples)^[(jitterQ4 - 16 * timeDiffSamples).natAbs]
      jitterQ4) timeDiffSamples := by
    rcases jitterStep_iterate_inDeadBand_or_closer timeDiffSamples jitterQ4
      (jitterQ4 - 16 * timeDiffSamples).natAbs with band | closer
    · exact band
    · unfold InDeadBand
      omega
  refine ⟨_, fun n later => ⟨?_, band⟩⟩
  obtain ⟨extra, rfl⟩ := Nat.exists_eq_add_of_le later
  rw [Nat.add_comm, Function.iterate_add_apply]
  exact @Function.iterate_fixed _ (jitterStep · timeDiffSamples) _ (jitterStep_of_inDeadBand band) extra

end Trajectory

namespace RTPReceiver

section Words

theorem bmod_two_pow_32_of_mem {x : Int} (lo : -2 ^ 31 ≤ x) (hi : x < 2 ^ 31) :
    x.bmod (2 ^ 32) = x := by
  rw [Int.bmod_def]
  split <;> omega

theorem toInt_eq_toNat_of_lt {x : BitVec 32} (small : x.toNat < 2 ^ 31) : x.toInt = x.toNat := by
  rw [BitVec.toInt_eq_toNat_cond, if_pos (by omega)]

/-- `abs` of a word is nonnegative, except at `INT32_MIN`, which it leaves as it is. -/
theorem absWord32_nonneg_or_intMin (timeDiffSamples : Word32) :
    0 ≤ (absWord32 timeDiffSamples).toInt ∨ (absWord32 timeDiffSamples).toNat = 2 ^ 31 := by
  unfold absWord32
  split
  · next negative =>
    rw [BitVec.toInt_eq_toNat_cond] at negative ⊢
    rw [BitVec.toNat_neg]
    split at negative <;> split <;> omega
  · next nonneg => exact .inl (Int.not_lt.1 nonneg)

theorem absWord32_shiftLeft_toInt (timeDiffSamples : Word32) :
    (0 ≤ (absWord32 timeDiffSamples).toInt → (absWord32 timeDiffSamples).toInt < 450000 →
      (absWord32 timeDiffSamples <<< 4).toInt = 16 * (absWord32 timeDiffSamples).toInt) ∧
    ((absWord32 timeDiffSamples).toNat = 2 ^ 31 → (absWord32 timeDiffSamples <<< 4).toInt = 0) := by
  generalize absWord32 timeDiffSamples = a
  have shifted : (a <<< 4).toNat = 16 * a.toNat % 2 ^ 32 := by
    rw [BitVec.toNat_shiftLeft, Nat.shiftLeft_eq, Nat.mul_comm]
  rw [BitVec.toInt_eq_toNat_cond, BitVec.toInt_eq_toNat_cond, shifted]
  constructor
  · intro nonneg small
    split at nonneg
    · split <;> omega
    · omega
  · intro intMin
    split <;> omega

theorem updateJitter_toNat (jitterQ4 : UWord32) (timeDiffSamples : Word32)
    (bounded : jitterQ4.toNat ≤ jitterQ4Bound) {d : Int}
    (guard : (absWord32 timeDiffSamples).toInt < 450000)
    (shifted : (absWord32 timeDiffSamples <<< 4).toInt = 16 * d) (nonneg : 0 ≤ d)
    (small : d < 450000) :
    ((updateJitter jitterQ4 timeDiffSamples).toNat : Int) = jitterStep jitterQ4.toNat d := by
  unfold jitterQ4Bound at bounded
  unfold updateJitter jitterStep
  simp only [guard, if_true]
  have jitterInt := toInt_eq_toNat_of_lt (x := jitterQ4) (by omega)
  have difference : ((absWord32 timeDiffSamples <<< 4) - jitterQ4).toInt + 8 =
      16 * d - jitterQ4.toNat + 8 := by
    rw [BitVec.toInt_sub, shifted, jitterInt, bmod_two_pow_32_of_mem (by omega) (by omega)]
  have eight : (8 : BitVec 32).toInt = 8 := rfl
  rw [BitVec.sshiftRight_eq, Int.shiftRight_eq_div_pow, BitVec.toInt_add, eight,
    bmod_two_pow_32_of_mem (by omega) (by omega), difference,
    show ((2 ^ 4 : Nat) : Int) = 16 from rfl]
  have correction : (BitVec.ofInt 32 ((16 * d - jitterQ4.toNat + 8) / 16)).toInt =
      (16 * d - jitterQ4.toNat + 8) / 16 := by
    rw [BitVec.toInt_ofInt, bmod_two_pow_32_of_mem (by omega) (by omega)]
  have sum : (jitterQ4 + BitVec.ofInt 32 ((16 * d - jitterQ4.toNat + 8) / 16)).toInt =
      jitterQ4.toNat + (16 * d - jitterQ4.toNat + 8) / 16 := by
    rw [BitVec.toInt_add, correction, jitterInt, bmod_two_pow_32_of_mem (by omega) (by omega)]
  rw [BitVec.toInt_eq_toNat_cond] at sum
  split at sum <;> omega

theorem updateJitter_of_natAbs (jitterQ4 : UWord32) (timeDiffSamples : Word32)
    (bounded : jitterQ4.toNat ≤ jitterQ4Bound) {d : Nat}
    (diff : (absWord32 timeDiffSamples).toInt = d) (small : d < 450000) :
    ((updateJitter jitterQ4 timeDiffSamples).toNat : Int) = jitterStep jitterQ4.toNat d := by
  have nonneg : 0 ≤ (absWord32 timeDiffSamples).toInt := by omega
  refine updateJitter_toNat jitterQ4 timeDiffSamples bounded (by omega) ?_ (by omega)
    (by omega)
  rw [(absWord32_shiftLeft_toInt timeDiffSamples).1 nonneg (by omega), diff]

theorem updateJitter_le (jitterQ4 : UWord32) (timeDiffSamples : Word32)
    (bounded : jitterQ4.toNat ≤ jitterQ4Bound) :
    (updateJitter jitterQ4 timeDiffSamples).toNat ≤ jitterQ4Bound := by
  by_cases guard : (absWord32 timeDiffSamples).toInt < 450000
  · have step : ∃ d : Int, 0 ≤ d ∧ d < 450000 ∧
        ((updateJitter jitterQ4 timeDiffSamples).toNat : Int) = jitterStep jitterQ4.toNat d := by
      rcases absWord32_nonneg_or_intMin timeDiffSamples with nonneg | intMin
      · exact ⟨_, nonneg, guard, updateJitter_toNat jitterQ4 timeDiffSamples bounded guard
          ((absWord32_shiftLeft_toInt timeDiffSamples).1 nonneg guard) nonneg guard⟩
      · exact ⟨0, le_rfl, by decide, updateJitter_toNat jitterQ4 timeDiffSamples bounded guard
          ((absWord32_shiftLeft_toInt timeDiffSamples).2 intMin) le_rfl (by decide)⟩
    obtain ⟨d, nonneg, small, step⟩ := step
    have := jitterStep_mem (Int.natCast_nonneg _) (by exact_mod_cast bounded) nonneg small
    omega
  · unfold updateJitter
    simp only [guard, if_false]
    exact bounded

/-- `n` updates with one difference, of absolute value `d < 450000`, compute `n` steps of the
integer filter from a bounded start, and keep the accumulator bounded. -/
theorem updateJitter_iterate (timeDiffSamples : Word32) {d : Nat}
    (diff : (absWord32 timeDiffSamples).toInt = d) (small : d < 450000) (jitterQ4 : UWord32)
    (bounded : jitterQ4.toNat ≤ jitterQ4Bound) (n : Nat) :
    (((updateJitter · timeDiffSamples)^[n] jitterQ4).toNat : Int) =
        (jitterStep · d)^[n] jitterQ4.toNat ∧
      ((updateJitter · timeDiffSamples)^[n] jitterQ4).toNat ≤ jitterQ4Bound := by
  induction n with
  | zero => exact ⟨rfl, bounded⟩
  | succ n ih =>
    rw [Function.iterate_succ_apply', Function.iterate_succ_apply', ← ih.1]
    exact ⟨updateJitter_of_natAbs _ timeDiffSamples ih.2 diff small, updateJitter_le _ _ ih.2⟩

/-- Fed one transit-time difference of absolute value `d < 450000` from any start in range, the
accumulator `J n` never moves away from `16 d`, never passes it, and from some update on stays
in the dead band `[16 d - 7, 16 d + 8]`. For a perfectly paced stream (`d = 0`) it never grows,
and the reported jitter `J n >> 4` becomes 0 and stays 0. Both accumulators of
`UpdateStatistics` run this update. -/
theorem updateJitter_iterate_settles (timeDiffSamples : Word32) (d : Nat)
    (diff : (absWord32 timeDiffSamples).toInt = d) (small : d < 450000) (jitterQ4 : UWord32)
    (bounded : jitterQ4.toNat ≤ jitterQ4Bound) :
    let J : Nat → Int := fun n => ((updateJitter · timeDiffSamples)^[n] jitterQ4).toNat
    (∀ n, (J (n + 1) - 16 * d).natAbs ≤ (J n - 16 * d).natAbs) ∧
    (∀ n, (J 0 ≤ 16 * d → J n ≤ 16 * d) ∧ (16 * d ≤ J 0 → 16 * d ≤ J n)) ∧
    (∃ settled, ∀ n ≥ settled, 16 * d - 7 ≤ J n ∧ J n ≤ 16 * d + 8) ∧
    (d = 0 → (∀ n, J (n + 1) ≤ J n) ∧
      ∃ settled, ∀ n ≥ settled, (updateJitter · timeDiffSamples)^[n] jitterQ4 >>> 4 = 0) := by
  intro J
  have values (n : Nat) : J n = (jitterStep · d)^[n] jitterQ4.toNat :=
    (updateJitter_iterate timeDiffSamples diff small jitterQ4 bounded n).1
  have closer (n : Nat) : (J (n + 1) - 16 * d).natAbs ≤ (J n - 16 * d).natAbs := by
    rw [values, values]
    exact jitterStep_iterate_natAbs_le _ _ n
  obtain ⟨settled, stays⟩ := jitterStep_iterate_settles (d : Int) jitterQ4.toNat
  have band (n : Nat) (later : n ≥ settled) : 16 * d - 7 ≤ J n ∧ J n ≤ 16 * d + 8 := by
    rw [values, (stays n later).1]
    exact (stays n later).2
  refine ⟨closer, fun n => ?_, ⟨settled, band⟩, fun paced => ⟨fun n => ?_, settled, fun n later => ?_⟩⟩
  · rw [values, values]
    exact jitterStep_iterate_same_side _ _ n
  · have := closer n
    have nonneg (n : Nat) : 0 ≤ J n := Int.natCast_nonneg _
    have := nonneg n
    have := nonneg (n + 1)
    subst paced
    omega
  · have low : J n ≤ 8 := by simpa [paced] using (band n later).2
    have : ((updateJitter · timeDiffSamples)^[n] jitterQ4).toNat ≤ 8 := Int.ofNat_le.1 low
    apply BitVec.eq_of_toNat_eq
    rw [BitVec.toNat_ushiftRight, Nat.shiftRight_eq_div_pow]
    change _ = 0
    omega

/-- A difference of -5 samples (absolute value 5) from the largest accumulator in range. -/
theorem updateJitter_iterate_settles_from_bound :
    (absWord32 (-5)).toInt = (5 : Nat) ∧ 5 < 450000 ∧
      (BitVec.ofNat 32 jitterQ4Bound).toNat ≤ jitterQ4Bound ∧
    let J : Nat → Int := fun n => ((updateJitter · (-5))^[n] (BitVec.ofNat 32 jitterQ4Bound)).toNat
    (∀ n, (J (n + 1) - 16 * (5 : Nat)).natAbs ≤ (J n - 16 * (5 : Nat)).natAbs) ∧
    (∀ n, (J 0 ≤ 16 * (5 : Nat) → J n ≤ 16 * (5 : Nat)) ∧
      (16 * (5 : Nat) ≤ J 0 → 16 * (5 : Nat) ≤ J n)) ∧
    (∃ settled, ∀ n ≥ settled, 16 * (5 : Nat) - 7 ≤ J n ∧ J n ≤ 16 * (5 : Nat) + 8) ∧
    ((5 : Nat) = 0 → (∀ n, J (n + 1) ≤ J n) ∧
      ∃ settled, ∀ n ≥ settled,
        (updateJitter · (-5))^[n] (BitVec.ofNat 32 jitterQ4Bound) >>> 4 = 0) :=
  ⟨by decide, by decide, by decide,
    updateJitter_iterate_settles (-5) 5 (by decide) (by decide) _ (by decide)⟩

end Words

end RTPReceiver

/-- The jitter bounds of a statistics record: both accumulators and the recorded maximum in
`[0, jitterQ4Bound]`, and the jitter values kept from the last report below 450000. -/
structure JitterBounded (stats : ReceiveStatistics) : Prop where
  jitterQ4 : stats.jitterQ4.toNat ≤ jitterQ4Bound
  jitterQ4TransmissionTimeOffset : stats.jitterQ4TransmissionTimeOffset.toNat ≤ jitterQ4Bound
  jitterMaxQ4 : stats.jitterMaxQ4.toNat ≤ jitterQ4Bound
  lastReportJitter : stats.lastReportJitter.toNat < 450000
  lastReportJitterTransmissionTimeOffset : stats.lastReportJitterTransmissionTimeOffset.toNat < 450000

namespace JitterBounded

theorem reset : JitterBounded {} := ⟨Nat.zero_le _, Nat.zero_le _, Nat.zero_le _, by decide, by decide⟩

theorem shiftRight_lt {jitterQ4 : UWord32} (bounded : jitterQ4.toNat ≤ jitterQ4Bound) :
    (jitterQ4 >>> 4).toNat < 450000 := by
  unfold jitterQ4Bound at bounded
  rw [BitVec.toNat_ushiftRight, Nat.shiftRight_eq_div_pow]
  omega

end JitterBounded

namespace RTPReceiver

theorem updateInOrder_jitterBounded (rtpTime : UWord32) (r : RTPReceiver) (header : WebRtcRTPHeader)
    (bounded : JitterBounded r.stats) : JitterBounded (updateInOrder rtpTime r header).stats := by
  unfold updateInOrder
  dsimp only
  refine ⟨?_, ?_, bounded.3, bounded.4, bounded.5⟩ <;> dsimp only <;> split <;> dsimp only
  · exact updateJitter_le _ _ bounded.1
  · exact bounded.1
  · exact updateJitter_le _ _ bounded.2
  · exact bounded.2

theorem recordPacket_jitterBounded (jitterDelayMs : Nat → Nat → Int) (frequencyHz : UWord32)
    (env : Env) (r : RTPReceiver) (header : WebRtcRTPHeader) (payloadDataLength : UWord16)
    (bounded : JitterBounded r.stats) :
    JitterBounded (r.recordPacket jitterDelayMs frequencyHz env header payloadDataLength).stats := by
  rw [recordPacket_stats]
  unfold updateStatistics
  dsimp only
  split_ifs
  · exact ⟨bounded.1, bounded.2, bounded.3, bounded.4, bounded.5⟩
  · exact updateInOrder_jitterBounded _ _ _
      ⟨bounded.1, bounded.2, bounded.3, bounded.4, bounded.5⟩
  all_goals exact ⟨bounded.1, bounded.2, bounded.3, bounded.4, bounded.5⟩

theorem statistics_jitterBounded (r : RTPReceiver) (reset : Bool) (bounded : JitterBounded r.stats) :
    JitterBounded (r.statistics reset).1.stats := by
  unfold statistics
  dsimp only
  split
  · exact bounded
  · split
    · split <;> exact bounded
    · refine ⟨bounded.1, bounded.2, ?_, JitterBounded.shiftRight_lt bounded.1,
        JitterBounded.shiftRight_lt bounded.2⟩
      dsimp only
      split
      · exact bounded.1
      · exact bounded.3

theorem statistics_jitter_lt (r : RTPReceiver) (reset : Bool) (bounded : JitterBounded r.stats)
    {report : RtcpStatistics} (reported : (r.statistics reset).2 = some report) :
    report.jitter.toNat < 450000 ∧ report.maxJitter.toNat < 450000 ∧
      report.jitterTransmissionTimeOffset.toNat < 450000 := by
  unfold statistics at reported
  dsimp only at reported
  split at reported
  · cases reported
  · split at reported
    · split at reported
      · cases reported
      · cases reported
        exact ⟨bounded.4, JitterBounded.shiftRight_lt bounded.3, bounded.5⟩
    · cases reported
      refine ⟨JitterBounded.shiftRight_lt bounded.1, JitterBounded.shiftRight_lt ?_,
        JitterBounded.shiftRight_lt bounded.2⟩
      split
      · exact bounded.1
      · exact bounded.3

end RTPReceiver

/-- What one call of the receiver can do to its statistics: clear them, record a packet on a
receiver that holds them, make a report, or clear the data counters. -/
inductive StatsStep : ReceiveStatistics → ReceiveStatistics → Prop
  | reset (stats : ReceiveStatistics) : StatsStep stats {}
  | record (r : RTPReceiver) (jitterDelayMs : Nat → Nat → Int) (frequencyHz : UWord32) (env : Env)
      (header : WebRtcRTPHeader) (payloadDataLength : UWord16) :
      StatsStep r.stats (r.recordPacket jitterDelayMs frequencyHz env header payloadDataLength).stats
  | report (r : RTPReceiver) (reset : Bool) : StatsStep r.stats (r.statistics reset).1.stats
  | resetDataCounters (r : RTPReceiver) : StatsStep r.stats r.resetDataCounters.stats

theorem Uncounted.statsSteps {before after : RTPReceiver} (uncounted : Uncounted before after) :
    Relation.ReflTransGen StatsStep before.stats after.stats := by
  rcases uncounted.stats with same | reset
  · rw [same]
  · rw [reset]
    exact .single (.reset _)

theorem JitterBounded.statsStep {before after : ReceiveStatistics} (step : StatsStep before after)
    (bounded : JitterBounded before) : JitterBounded after := by
  cases step with
  | reset => exact .reset
  | record r => exact RTPReceiver.recordPacket_jitterBounded _ _ _ r _ _ bounded
  | report r reset => exact r.statistics_jitterBounded reset bounded
  | resetDataCounters => exact ⟨bounded.1, bounded.2, bounded.3, bounded.4, bounded.5⟩

namespace Receiver

variable {σ : Type}

theorem incomingRTPPacket_statsSteps (ctx : Context σ) (env : Env) (s : Receiver σ)
    (header : WebRtcRTPHeader) (packet : List UWord8) (packetLength : UWord16) :
    Relation.ReflTransGen StatsStep s.rtp.stats
      (s.incomingRTPPacket ctx env header packet packetLength).receiver.rtp.stats := by
  rcases incomingRTPPacket_uncounted_or_recorded ctx env s header packet packetLength with
    uncounted | ⟨checked, frequencyHz, recorded, payloadDataLength, checks, -, recordedEq⟩
  · exact uncounted.statsSteps
  · rw [recordedEq]
    exact checks.statsSteps.tail (.record _ _ _ _ _ _)

theorem step_statsSteps (ctx : Context σ) (env : Env) (s : Receiver σ) (call : Call) :
    Relation.ReflTransGen StatsStep s.rtp.stats (s.step ctx env call).1.rtp.stats := by
  cases call with
  | incomingRTPPacket header packet packetLength =>
    exact incomingRTPPacket_statsSteps ctx env s header packet packetLength
  | statistics reset => exact .single (.report _ _)
  | resetStatistics => exact .single (.reset _)
  | resetDataCounters => exact .single (.resetDataCounters _)
  | packetTimeout =>
    simp only [step, packetTimeout]
    split_ifs <;> exact .refl
  | setNACKStatus method threshold =>
    simp only [step, RTPReceiver.setNACKStatus]
    split_ifs <;> exact .refl
  | registerReceivePayload payloadName payloadType frequency channels rate =>
    simp only [step, registerReceivePayload]
    split_ifs <;> exact .refl
  | _ => exact .refl

theorem run_statsSteps (ctx : Context σ) : ∀ (s : Receiver σ) (calls : List (Env × Call)),
    Relation.ReflTransGen StatsStep s.rtp.stats (s.run ctx calls).1.rtp.stats
  | _, [] => .refl
  | s, (env, call) :: calls => (step_statsSteps ctx env s call).trans (run_statsSteps ctx _ calls)

/-- A property of the statistics that holds after a reset and that every `StatsStep` keeps
holds in every reachable state. -/
theorem Reachable.stats {P : ReceiveStatistics → Prop} (reset : P {})
    (step : ∀ {before after}, StatsStep before after → P before → P after) {ctx : Context σ}
    {s : Receiver σ} (reachable : Reachable ctx s) : P s.rtp.stats := by
  obtain ⟨media, calls, rfl⟩ := reachable
  have steps := run_statsSteps ctx (init media) calls
  generalize ((init media).run ctx calls).1.rtp.stats = after at steps ⊢
  induction steps with
  | refl => exact reset
  | tail _ last holds => exact step last holds

/-- In every reachable state, whatever the timestamps, offsets and arrival times of the packets,
both jitter accumulators and the recorded maximum lie in `[0, 16 · 449999 + 8]`, so they never
wrap, and every jitter value a report gives is below 450000. -/
theorem reachable_jitterBounded (ctx : Context σ) (s : Receiver σ) (reachable : Reachable ctx s) :
    JitterBounded s.rtp.stats ∧ ∀ (reset : Bool) (report : RTPReceiver.RtcpStatistics),
      (s.rtp.statistics reset).2 = some report →
        report.jitter.toNat < 450000 ∧ report.maxJitter.toNat < 450000 ∧
          report.jitterTransmissionTimeOffset.toNat < 450000 := by
  have bounded : JitterBounded s.rtp.stats :=
    reachable.stats .reset fun step bounded => bounded.statsStep step
  exact ⟨bounded, fun reset _ reported => s.rtp.statistics_jitter_lt reset bounded reported⟩

/-- VP8 is registered, then packet 100 of SSRC 1, timestamp 3000, arrives when the RTP clock
reads 0. -/
def firstVideoPacket : List (Env × Call) :=
  [(clockAt 1, .registerReceivePayload "VP8" 96 90000 1 0),
   (clockAt 2, .incomingRTPPacket (vp8Header 1 100) (List.replicate 20 0) 20)]

/-- The receiver after `firstVideoPacket`. -/
def afterFirstVideoPacket : RTPReceiver :=
  ((init default).run acceptingVideo firstVideoPacket).1.rtp

/-- Packet 101 of the same stream, its timestamp `2^31` after packet 100's. -/
def intMinHeader : WebRtcRTPHeader := { vp8Header 1 101 with timestamp := 3000 + 2 ^ 31 }

/-- The transit difference `UpdateStatistics` computes for `intMinHeader` arriving when the RTP
clock reads 0: `(RTPtime - local_time_last_received_timestamp_) - (timestamp -
last_received_timestamp_)`. -/
def intMinTimeDiff : Word32 :=
  ((clockAt 3).currentRTP 90000 - afterFirstVideoPacket.localTimeLastReceivedTimestamp) -
    (intMinHeader.timestamp - afterFirstVideoPacket.lastReceivedTimestamp)

/-- The state after packets 100 and 101 is reachable, and its jitter is in range: the
`INT32_MIN` difference was filtered as a difference of 0. -/
theorem reachable_jitterBounded_after_int_min :
    Reachable acceptingVideo ((init default).run acceptingVideo
      (firstVideoPacket ++ [(clockAt 3, .incomingRTPPacket intMinHeader (List.replicate 20 0) 20)])).1 ∧
    (JitterBounded ((init default).run acceptingVideo
      (firstVideoPacket ++ [(clockAt 3, .incomingRTPPacket intMinHeader (List.replicate 20 0) 20)])).1.rtp.stats ∧
      ∀ (reset : Bool) (report : RTPReceiver.RtcpStatistics),
        (((init default).run acceptingVideo (firstVideoPacket ++
          [(clockAt 3, .incomingRTPPacket intMinHeader (List.replicate 20 0) 20)])).1.rtp.statistics
            reset).2 = some report →
          report.jitter.toNat < 450000 ∧ report.maxJitter.toNat < 450000 ∧
            report.jitterTransmissionTimeOffset.toNat < 450000) :=
  ⟨⟨default, _, rfl⟩, reachable_jitterBounded acceptingVideo _ ⟨default, _, rfl⟩⟩

/-- Packet 101 reaches the jitter computation: it is in order, its timestamp is new and it is not
the first in-order packet. Its transit difference is `INT32_MIN`, which `abs` returns unchanged;
the negative value passes the `< 450000` guard and is shifted left. -/
theorem updateInOrder_takes_abs_of_int_min :
    afterFirstVideoPacket.inOrderPacket intMinHeader.sequenceNumber = true ∧
    intMinHeader.timestamp ≠ afterFirstVideoPacket.lastReceivedTimestamp ∧
    1 < afterFirstVideoPacket.stats.receivedInorderPacketCount + 1 ∧
    intMinTimeDiff.toInt = -2 ^ 31 ∧ (RTPReceiver.absWord32 intMinTimeDiff).toInt = -2 ^ 31 := by
  decide

end Receiver

/-! ## Jitter without transmission-time offsets

The extended jitter of RFC 5450 runs the same filter on transit differences corrected by the
transmission-time offsets. With no offsets the corrections vanish: both filters see the same
differences and are cleared together, so they stay equal over every run.
-/

/-- The transmission-time offset a call carries: a packet's header extension, and 0 for every
other call. -/
def Call.transmissionTimeOffset : Call → Word32
  | .incomingRTPPacket header _ _ => header.transmissionTimeOffset
  | _ => 0

/-- No transmission-time offset is in play: the last one recorded is 0, and the jitter
accumulator and the last reported jitter with offsets equal those without. -/
structure WithoutOffsets (r : RTPReceiver) : Prop where
  lastReceivedTransmissionTimeOffset : r.lastReceivedTransmissionTimeOffset = 0
  jitterQ4 : r.stats.jitterQ4TransmissionTimeOffset = r.stats.jitterQ4
  lastReportJitter : r.stats.lastReportJitterTransmissionTimeOffset = r.stats.lastReportJitter

namespace RTPReceiver

theorem updateInOrder_withoutOffsets (rtpTime : UWord32) (r : RTPReceiver)
    (header : WebRtcRTPHeader) (noOffset : header.transmissionTimeOffset = 0)
    (without : WithoutOffsets r) : WithoutOffsets (updateInOrder rtpTime r header) := by
  refine ⟨without.1, ?_, without.3⟩
  unfold updateInOrder
  dsimp only
  split_ifs
  · simp only [noOffset, without.1, add_zero, without.2]
  · exact without.2

theorem updateStatistics_withoutOffsets (frequencyHz : UWord32) (env : Env) (r : RTPReceiver)
    (header : WebRtcRTPHeader) (bytes : UWord16) (oldPacket : Bool)
    (noOffset : header.transmissionTimeOffset = 0) (without : WithoutOffsets r) :
    WithoutOffsets (r.updateStatistics frequencyHz env header bytes oldPacket) := by
  have counted : WithoutOffsets (r.countBytes bytes) := ⟨without.1, without.2, without.3⟩
  have inOrder := updateInOrder_withoutOffsets (env.currentRTP frequencyHz) _ header noOffset counted
  unfold updateStatistics
  dsimp only
  split_ifs
  · exact ⟨counted.1, counted.2, counted.3⟩
  · exact ⟨inOrder.1, inOrder.2, inOrder.3⟩
  all_goals exact ⟨counted.1, counted.2, counted.3⟩

theorem recordPacket_withoutOffsets (jitterDelayMs : Nat → Nat → Int) (frequencyHz : UWord32)
    (env : Env) (r : RTPReceiver) (header : WebRtcRTPHeader) (payloadDataLength : UWord16)
    (noOffset : header.transmissionTimeOffset = 0) (without : WithoutOffsets r) :
    WithoutOffsets (r.recordPacket jitterDelayMs frequencyHz env header payloadDataLength) := by
  have updated := r.updateStatistics_withoutOffsets frequencyHz env header payloadDataLength
    (r.retransmitOfOldPacket jitterDelayMs frequencyHz env header.sequenceNumber header.timestamp)
    noOffset without
  unfold recordPacket
  dsimp only
  split_ifs
  · exact ⟨updated.1, updated.2, updated.3⟩
  all_goals exact ⟨noOffset, updated.2, updated.3⟩

theorem statistics_withoutOffsets (r : RTPReceiver) (reset : Bool) (without : WithoutOffsets r) :
    WithoutOffsets (r.statistics reset).1 ∧ ∀ report, (r.statistics reset).2 = some report →
      report.jitterTransmissionTimeOffset = report.jitter := by
  unfold statistics
  dsimp only
  have shifted : r.stats.jitterQ4TransmissionTimeOffset >>> 4 = r.stats.jitterQ4 >>> 4 := by
    rw [without.2]
  split
  · exact ⟨without, fun _ answered => nomatch answered⟩
  split
  · split
    · exact ⟨without, fun _ answered => nomatch answered⟩
    · exact ⟨without, fun _ reported => Option.some.inj reported ▸ without.3⟩
  · exact ⟨⟨without.1, without.2, shifted⟩, fun _ reported => Option.some.inj reported ▸ shifted⟩

end RTPReceiver

namespace Receiver

variable {σ : Type}

theorem checkSSRCChanged_withoutOffsets (s : Receiver σ) (header : WebRtcRTPHeader)
    (without : WithoutOffsets s.rtp) : WithoutOffsets (s.checkSSRCChanged header).1.rtp := by
  unfold checkSSRCChanged
  dsimp only
  split_ifs
  · split <;> exact ⟨rfl, rfl, rfl⟩
  · exact ⟨rfl, rfl, rfl⟩
  · exact without

theorem checkPayloadChanged_withoutOffsets (strategy : RTPReceiverStrategy σ) (s : Receiver σ)
    (header : WebRtcRTPHeader) (firstPayloadByte : UWord8) (without : WithoutOffsets s.rtp) :
    WithoutOffsets (s.checkPayloadChanged strategy header firstPayloadByte).1.rtp := by
  rcases checkPayloadChanged_rtp strategy s header firstPayloadByte with same | reset
  · rw [same]
    exact without
  · rw [reset]
    exact ⟨without.1, rfl, rfl⟩

theorem checkCSRC_withoutOffsets (strategy : RTPReceiverStrategy σ) (s : Receiver σ)
    (header : WebRtcRTPHeader) (without : WithoutOffsets s.rtp) :
    WithoutOffsets (s.checkCSRC strategy header).1.rtp := by
  unfold checkCSRC
  dsimp only
  split_ifs <;> exact ⟨without.1, without.2, without.3⟩

theorem unwrapRtx_transmissionTimeOffset (r : RTPReceiver) (header : WebRtcRTPHeader)
    (packet : List UWord8) :
    (unwrapRtx r header packet).1.transmissionTimeOffset = header.transmissionTimeOffset := by
  unfold unwrapRtx
  split_ifs <;> rfl

theorem incomingRTPPacket_withoutOffsets (ctx : Context σ) (env : Env) (s : Receiver σ)
    (header : WebRtcRTPHeader) (packet : List UWord8) (packetLength : UWord16)
    (noOffset : header.transmissionTimeOffset = 0) (without : WithoutOffsets s.rtp) :
    WithoutOffsets (s.incomingRTPPacket ctx env header packet packetLength).receiver.rtp := by
  by_cases admitted : Admitted s.rtp header packet packetLength
  · rw [incomingRTPPacket_of_admitted ctx env s header packet packetLength admitted]
    have unwrapped := (unwrapRtx_transmissionTimeOffset s.rtp header packet).trans noOffset
    exact processPacket_keeps WithoutOffsets ctx env s _ packet packetLength _ _
      (checkSSRCChanged_withoutOffsets s _ without)
      (fun s _ => checkPayloadChanged_withoutOffsets ctx.strategy s _ _)
      (fun s => checkCSRC_withoutOffsets ctx.strategy s _)
      (fun r _ => r.recordPacket_withoutOffsets ctx.jitterDelayMs _ env _ _ unwrapped)
  · rw [(incomingRTPPacket_of_not_admitted ctx env s header packet packetLength admitted).1]
    exact without

theorem step_withoutOffsets (ctx : Context σ) (env : Env) (s : Receiver σ) (call : Call)
    (noOffset : call.transmissionTimeOffset = 0) (without : WithoutOffsets s.rtp) :
    WithoutOffsets (s.step ctx env call).1.rtp := by
  cases call with
  | incomingRTPPacket header packet packetLength =>
    exact incomingRTPPacket_withoutOffsets ctx env s header packet packetLength noOffset without
  | statistics reset => exact (s.rtp.statistics_withoutOffsets reset without).1
  | resetStatistics => exact ⟨without.1, rfl, rfl⟩
  | packetTimeout =>
    simp only [step, packetTimeout]
    split_ifs <;> exact ⟨without.1, without.2, without.3⟩
  | setNACKStatus method threshold =>
    simp only [step, RTPReceiver.setNACKStatus]
    split_ifs <;> exact ⟨without.1, without.2, without.3⟩
  | registerReceivePayload payloadName payloadType frequency channels rate =>
    simp only [step, registerReceivePayload]
    split_ifs <;> exact ⟨without.1, without.2, without.3⟩
  | _ => exact ⟨without.1, without.2, without.3⟩

theorem run_withoutOffsets (ctx : Context σ) : ∀ (s : Receiver σ) (calls : List (Env × Call)),
    (∀ entry ∈ calls, entry.2.transmissionTimeOffset = 0) → WithoutOffsets s.rtp →
    WithoutOffsets (s.run ctx calls).1.rtp
  | _, [], _, without => without
  | s, (env, call) :: calls, noOffsets, without =>
    run_withoutOffsets ctx _ calls (fun entry member => noOffsets entry (List.mem_cons_of_mem _ member))
      (step_withoutOffsets ctx env s call (noOffsets _ (List.mem_cons_self _ _)) without)

/-- Without transmission-time offsets the extended jitter of RFC 5450 is the jitter of RFC 3550:
over every run from construction in which no packet carries a transmission-time offset, the two
jitter accumulators are equal, and every report gives the same value for both jitters. -/
theorem run_jitter_without_offsets (ctx : Context σ) (media : σ) (calls : List (Env × Call))
    (noOffsets : ∀ entry ∈ calls, entry.2.transmissionTimeOffset = 0) :
    ((init media).run ctx calls).1.rtp.stats.jitterQ4TransmissionTimeOffset =
        ((init media).run ctx calls).1.rtp.stats.jitterQ4 ∧
      ∀ (reset : Bool) (report : RTPReceiver.RtcpStatistics),
        (((init media).run ctx calls).1.rtp.statistics reset).2 = some report →
          report.jitterTransmissionTimeOffset = report.jitter :=
  have without := run_withoutOffsets ctx (init media) calls noOffsets ⟨rfl, rfl, rfl⟩
  ⟨without.2, fun reset => (RTPReceiver.statistics_withoutOffsets _ reset without).2⟩

/-- Packets 100 and 101 of the VP8 stream, 3000 timestamp units apart and without
transmission-time offsets, then a report. -/
def videoWithoutOffsets : List (Env × Call) :=
  firstVideoPacket ++
    [(clockAt 3, .incomingRTPPacket { vp8Header 1 101 with timestamp := 6000 }
        (List.replicate 20 0) 20),
      (clockAt 4, .statistics true)]

theorem run_jitter_without_offsets_video :
    (∀ entry ∈ videoWithoutOffsets, entry.2.transmissionTimeOffset = 0) ∧
      ((init default).run acceptingVideo videoWithoutOffsets).1.rtp.stats.jitterQ4TransmissionTimeOffset =
          ((init default).run acceptingVideo videoWithoutOffsets).1.rtp.stats.jitterQ4 ∧
        ∀ (reset : Bool) (report : RTPReceiver.RtcpStatistics),
          (((init default).run acceptingVideo videoWithoutOffsets).1.rtp.statistics reset).2 =
              some report →
            report.jitterTransmissionTimeOffset = report.jitter :=
  have noOffsets : ∀ entry ∈ videoWithoutOffsets, entry.2.transmissionTimeOffset = 0 := by decide
  ⟨noOffsets, run_jitter_without_offsets acceptingVideo default _ noOffsets⟩

end Receiver

end RtpRtcp

import RtpRtcp.IngressProperties

/-!
# Old retransmissions

`RetransmitOfOldPacket` divides the timestamp difference as an unsigned number, and right after a
reset `InOrderPacket` refuses sequence number 0 and the numbers above `0xff00`. The first hides an
old retransmission; the second takes a first packet for one.
-/

set_option autoImplicit false

namespace RtpRtcp

/-- An 8 kHz audio header (payload type 0) with the given sequence number and timestamp. -/
def pcmuHeader (sequenceNumber : UWord16) (timestamp : UWord32) : WebRtcRTPHeader :=
  { payloadType := 0, sequenceNumber, timestamp, ssrc := 1, arrOfCSRCs := []
    paddingLength := 0, headerLength := 12, arrOfEnergy := [], transmissionTimeOffset := 0
    csrcsBounded := by decide, energyBounded := by decide }

/-- The surroundings at a clock reading with a known minimum round-trip time. -/
def arrivalAt (timeInMilliseconds : Int) (minRtt : UWord16) : Env :=
  { timeInMilliseconds, currentRTP := fun _ => 0, minRtt }

/-- The statistics after packet 100 with timestamp 1000 at 1000 ms and packet 101 with
timestamp 1160 at 1020 ms, on an 8 kHz clock. -/
def twoAudioPackets : RTPReceiver :=
  (({} : RTPReceiver).recordPacket acceptingVideo.jitterDelayMs 8000 (arrivalAt 1000 30)
    (pcmuHeader 100 1000) 160).recordPacket acceptingVideo.jitterDelayMs 8000
      (arrivalAt 1020 30) (pcmuHeader 101 1160) 160

namespace RTPReceiver

/-- With a clock of at least 2 kHz the quotient fits in 31 bits, so `rtp_time_stamp_diff_ms` is
the unsigned quotient of the 32-bit difference: a timestamp older than the last one gives a
large positive difference, not a negative one. -/
theorem rtpTimeStampDiffMs_eq_unsigned (r : RTPReceiver) (frequencyKhz rtpTimeStamp : UWord32)
    (fast : 2 ≤ frequencyKhz.toNat) :
    r.rtpTimeStampDiffMs frequencyKhz rtpTimeStamp =
      ((rtpTimeStamp - r.lastReceivedTimestamp).toNat / frequencyKhz.toNat : Nat) := by
  unfold rtpTimeStampDiffMs
  have small : (rtpTimeStamp - r.lastReceivedTimestamp).toNat / frequencyKhz.toNat < 2 ^ 31 := by
    have := (rtpTimeStamp - r.lastReceivedTimestamp).isLt
    exact Nat.div_lt_of_lt_mul (by omega)
  rw [BitVec.toInt_eq_toNat_cond, BitVec.toNat_udiv]
  simp only [if_pos (show 2 * ((rtpTimeStamp - r.lastReceivedTimestamp).toNat / frequencyKhz.toNat)
    < 2 ^ 32 by omega)]

/-- Packet 100 again, with its timestamp 1000, one second after packet 101: it is not in order,
and a second is more than the signed quotient -160 / 8 = -20 ms plus the 11 ms delay of a 30 ms
RTT, but the code divides -160 as the unsigned 4294967136, gets 536870892 ms, and does not call
it an old retransmission. -/
theorem retransmitOfOldPacket_divides_unsigned :
    twoAudioPackets.inOrderPacket 100 = false ∧
    RTPReceiver.maxDelayMs acceptingVideo.jitterDelayMs twoAudioPackets (8000 / 1000) 30 = 11 ∧
    2020 - twoAudioPackets.lastReceiveTime >
      (1000 - twoAudioPackets.lastReceivedTimestamp).toInt.tdiv (8000 / 1000) + 11 ∧
    twoAudioPackets.rtpTimeStampDiffMs (8000 / 1000) 1000 = 536870892 ∧
    twoAudioPackets.retransmitOfOldPacket acceptingVideo.jitterDelayMs 8000 (arrivalAt 2020 30)
      100 1000 = false := by
  have unsigned := rtpTimeStampDiffMs_eq_unsigned twoAudioPackets (8000 / 1000) 1000 (by decide)
  refine ⟨by decide, by decide, by decide, unsigned.trans (by decide), ?_⟩
  rw [retransmitOfOldPacket, if_neg (by decide)]
  dsimp only
  rw [unsigned]
  decide

/-- Against the zeroed maximum of a reset, `InOrderPacket` accepts exactly the sequence numbers
from 1 to `0xff00`, whatever the threshold. -/
theorem inOrderPacket_of_zero_max (r : RTPReceiver) (sequenceNumber : UWord16)
    (zeroMax : r.stats.receivedSeqMax = 0) (admitted : 0 ≤ r.maxReorderingThreshold) :
    r.inOrderPacket sequenceNumber = true ↔
      0 < sequenceNumber.toNat ∧ sequenceNumber.toNat ≤ 0xff00 := by
  have zero : r.stats.receivedSeqMax.toNat = 0 := by simp [zeroMax]
  unfold inOrderPacket
  simp only [zero]
  split_ifs <;> simp <;> omega

/-- The first packet of a fresh receiver with sequence number `0xffff` and timestamp 1000 on a
90 kHz clock, at clock 100000 ms with a 30 ms RTT: it is refused by `InOrderPacket` against the
zeroed maximum, taken for an old retransmission, and its sequence number and timestamp are not
recorded. -/
theorem recordPacket_first_packet_taken_for_retransmission :
    ({} : RTPReceiver).retransmitOfOldPacket acceptingVideo.jitterDelayMs 90000
      (arrivalAt 100000 30) 0xffff 1000 = true ∧
    (({} : RTPReceiver).recordPacket acceptingVideo.jitterDelayMs 90000 (arrivalAt 100000 30)
      (pcmuHeader 0xffff 1000) 160).lastReceivedSequenceNumber = 0 ∧
    (({} : RTPReceiver).recordPacket acceptingVideo.jitterDelayMs 90000 (arrivalAt 100000 30)
      (pcmuHeader 0xffff 1000) 160).lastReceivedTimestamp = 0 := by
  have refused : ({} : RTPReceiver).inOrderPacket (pcmuHeader 0xffff 1000).sequenceNumber ≠ true :=
    fun inOrder =>
      absurd ((inOrderPacket_of_zero_max {} _ rfl (by decide)).1 inOrder).2 (by decide)
  have old : ({} : RTPReceiver).retransmitOfOldPacket acceptingVideo.jitterDelayMs 90000
      (arrivalAt 100000 30) (pcmuHeader 0xffff 1000).sequenceNumber 1000 = true := by
    rw [retransmitOfOldPacket, if_neg refused]
    decide
  refine ⟨old, ?_, ?_⟩ <;>
    simp only [recordPacket, old, if_true] <;> rw [updateStatistics_eq_with] <;> rfl

end RTPReceiver

end RtpRtcp

import RtpRtcp.IngressProperties

/-!
# The receiver's settings

The NACK method and threshold, the packet timeout, the RTX status and SSRC, and the SSRC filter
are written by their four setters only, so over every run they depend on the setter calls alone.
-/

set_option autoImplicit false

namespace RtpRtcp

namespace RTPReceiver

/-- The settings of `RTPReceiver` that `SetNACKStatus`, `SetPacketTimeout`, `SetRTXStatus` and
`SetSSRCFilter` write. -/
structure Configuration where
  nackMethod : NACKMethod
  maxReorderingThreshold : Int
  packetTimeoutMs : UWord32
  useSsrcFilter : Bool
  ssrcFilter : UWord32
  rtx : Bool
  ssrcRtx : UWord32
  deriving DecidableEq, Repr

def configuration (r : RTPReceiver) : Configuration :=
  ⟨r.nackMethod, r.maxReorderingThreshold, r.packetTimeoutMs, r.useSsrcFilter, r.ssrcFilter, r.rtx,
    r.ssrcRtx⟩

theorem updateStatistics_configuration (frequencyHz : UWord32) (env : Env) (r : RTPReceiver)
    (header : WebRtcRTPHeader) (bytes : UWord16) (oldPacket : Bool) :
    (r.updateStatistics frequencyHz env header bytes oldPacket).configuration = r.configuration := by
  rw [updateStatistics_eq_with]
  rfl

theorem recordPacket_configuration (jitterDelayMs : Nat → Nat → Int) (frequencyHz : UWord32)
    (env : Env) (r : RTPReceiver) (header : WebRtcRTPHeader) (payloadDataLength : UWord16) :
    (r.recordPacket jitterDelayMs frequencyHz env header payloadDataLength).configuration =
      r.configuration := by
  unfold recordPacket
  dsimp only
  split_ifs <;> exact updateStatistics_configuration ..

theorem statistics_configuration (r : RTPReceiver) (reset : Bool) :
    (r.statistics reset).1.configuration = r.configuration := by
  rw [statistics_fst_eq]
  rfl

theorem setNACKStatus_configuration_agree {r r' : RTPReceiver}
    (same : r.configuration = r'.configuration) (method : NACKMethod) (threshold : Int) :
    (r.setNACKStatus method threshold).1.configuration =
      (r'.setNACKStatus method threshold).1.configuration := by
  unfold setNACKStatus
  split_ifs
  · exact same
  · exact congrArg (fun c : Configuration =>
      { c with maxReorderingThreshold := threshold, nackMethod := method }) same
  · exact congrArg (fun c : Configuration =>
      { c with maxReorderingThreshold := kDefaultMaxReorderingThreshold, nackMethod := method }) same

end RTPReceiver

/-- The calls that write the receiver's settings. -/
def Call.setsConfiguration : Call → Bool
  | .setNACKStatus .. | .setRTXStatus .. | .setSSRCFilter .. | .setPacketTimeout .. => true
  | _ => false

namespace Receiver

variable {σ : Type}

theorem checkSSRCChanged_configuration (s : Receiver σ) (header : WebRtcRTPHeader) :
    (s.checkSSRCChanged header).1.rtp.configuration = s.rtp.configuration := by
  unfold checkSSRCChanged
  dsimp only
  split_ifs
  · split <;> rfl
  · rfl
  · rfl

theorem checkCSRC_configuration (strategy : RTPReceiverStrategy σ) (s : Receiver σ)
    (header : WebRtcRTPHeader) :
    (s.checkCSRC strategy header).1.rtp.configuration = s.rtp.configuration := by
  unfold checkCSRC
  dsimp only
  split_ifs <;> rfl

theorem incomingRTPPacket_configuration (ctx : Context σ) (env : Env) (s : Receiver σ)
    (header : WebRtcRTPHeader) (packet : List UWord8) (packetLength : UWord16) :
    (s.incomingRTPPacket ctx env header packet packetLength).receiver.rtp.configuration =
      s.rtp.configuration := by
  by_cases admitted : Admitted s.rtp header packet packetLength
  · rw [incomingRTPPacket_of_admitted ctx env s header packet packetLength admitted]
    refine processPacket_keeps (fun r => r.configuration = s.rtp.configuration) ctx env s _ packet
      packetLength _ _ (checkSSRCChanged_configuration s _) ?_
      (fun s kept => (checkCSRC_configuration ctx.strategy s _).trans kept)
      (fun r _ kept => (RTPReceiver.recordPacket_configuration ..).trans kept)
    intro s firstPayloadByte kept
    rcases checkPayloadChanged_rtp ctx.strategy s _ firstPayloadByte with changed | changed <;>
      exact (congrArg RTPReceiver.configuration changed).trans kept
  · rw [(incomingRTPPacket_of_not_admitted ctx env s header packet packetLength admitted).1]

theorem step_configuration (ctx : Context σ) (env : Env) (s : Receiver σ) (call : Call)
    (other : call.setsConfiguration = false) :
    (s.step ctx env call).1.rtp.configuration = s.rtp.configuration := by
  cases call with
  | incomingRTPPacket header packet packetLength =>
    exact incomingRTPPacket_configuration ctx env s header packet packetLength
  | statistics reset => exact s.rtp.statistics_configuration reset
  | packetTimeout =>
    simp only [step, packetTimeout]
    split_ifs <;> rfl
  | registerReceivePayload =>
    simp only [step, registerReceivePayload]
    split_ifs <;> rfl
  | setNACKStatus | setRTXStatus | setSSRCFilter | setPacketTimeout => cases other
  | _ => rfl

theorem step_configuration_agree (ctx : Context σ) (env : Env) {s t : Receiver σ} (call : Call)
    (setter : call.setsConfiguration = true) (same : s.rtp.configuration = t.rtp.configuration) :
    (s.step ctx env call).1.rtp.configuration = (t.step ctx env call).1.rtp.configuration := by
  cases call with
  | setNACKStatus method threshold => exact RTPReceiver.setNACKStatus_configuration_agree same _ _
  | setRTXStatus enable ssrc =>
    exact congrArg (fun c : RTPReceiver.Configuration => { c with rtx := enable, ssrcRtx := ssrc })
      same
  | setSSRCFilter enable ssrc =>
    exact congrArg (fun c : RTPReceiver.Configuration =>
      { c with useSsrcFilter := enable, ssrcFilter := if enable then ssrc else 0 }) same
  | setPacketTimeout timeoutMs =>
    exact congrArg (fun c : RTPReceiver.Configuration => { c with packetTimeoutMs := timeoutMs })
      same
  | _ => cases setter

theorem run_configuration_agree (ctx : Context σ) :
    ∀ (s t : Receiver σ) (calls : List (Env × Call)), s.rtp.configuration = t.rtp.configuration →
    (s.run ctx calls).1.rtp.configuration =
      (t.run ctx (calls.filter fun entry => entry.2.setsConfiguration)).1.rtp.configuration
  | _, _, [], same => same
  | s, t, (env, call) :: calls, same => by
    cases setter : call.setsConfiguration
    · rw [List.filter_cons_of_neg (by simp only [setter]; decide)]
      exact run_configuration_agree ctx _ t calls
        ((step_configuration ctx env s call setter).trans same)
    · rw [List.filter_cons_of_pos (by simp only [setter])]
      exact run_configuration_agree ctx _ _ calls (step_configuration_agree ctx env call setter same)

/-- Only `SetNACKStatus`, `SetPacketTimeout`, `SetRTXStatus` and `SetSSRCFilter` decide the
receiver's settings: over every run from every state, dropping every other call (packets, however
the identity checks take them, timeouts, queries, resets and registrations) leaves the final NACK
method and threshold, packet timeout, RTX status and SSRC, and SSRC filter as they were. -/
theorem run_configuration_of_setters (ctx : Context σ) (s : Receiver σ)
    (calls : List (Env × Call)) :
    (s.run ctx calls).1.rtp.configuration =
      (s.run ctx (calls.filter fun entry => entry.2.setsConfiguration)).1.rtp.configuration :=
  run_configuration_agree ctx s s calls rfl

end Receiver

end RtpRtcp

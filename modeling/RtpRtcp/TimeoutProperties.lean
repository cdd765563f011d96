import RtpRtcp.IngressProperties

/-!
# Packet timeout

`PacketTimeout` keeps its state in `last_receive_time_`, 0 meaning none, so each call is a poll
of a one-shot timer (`timerStep`, `timerRun`). Over every run in which no packet arrives at clock
reading 0 and none is a keep-alive, the receiver refines that timer fed with the packets
`IncomingRTPPacket` accepts.
-/

set_option autoImplicit false

namespace RtpRtcp

/-- A poll at `now` of a one-shot timer over the arrival it is waiting on, with the timeout
`timeoutMs`: it fires and forgets the arrival when more than `timeoutMs` has passed since it. A
timeout of 0 disables it. -/
def pollTimer (timeoutMs : Nat) (now : Int) : Option Int → Option Int × Bool
  | some arrival =>
    if timeoutMs ≠ 0 ∧ now - arrival > timeoutMs then (none, true) else (some arrival, false)
  | none => (none, false)

/-- What one call is to the one-shot timer of the packet-timeout law: a packet accepted at a
clock reading, a poll at a clock reading with a timeout, or neither. -/
inductive TimerInput where
  | accept (arrival : Int)
  | poll (timeoutMs : Nat) (now : Int)
  | other
  deriving DecidableEq, Repr

/-- The timer after one input, and whether the input made it fire. -/
def timerStep (pending : Option Int) : TimerInput → Option Int × Bool
  | .accept arrival => (some arrival, false)
  | .poll timeoutMs now => pollTimer timeoutMs now pending
  | .other => (pending, false)

/-- The timer's pending arrival after a list of inputs. -/
def timerRun (pending : Option Int) : List TimerInput → Option Int
  | [] => pending
  | input :: inputs => timerRun (timerStep pending input).1 inputs

/-- No input of `inputs` accepts a packet or fires a poll on the arrival `arrival`. -/
def Silent (arrival : Int) (inputs : List TimerInput) : Prop :=
  ∀ input ∈ inputs, (∀ other, input ≠ .accept other) ∧
    ∀ timeoutMs now, input = .poll timeoutMs now → ¬(timeoutMs ≠ 0 ∧ now - arrival > timeoutMs)

section Silent

variable {arrival : Int}

@[simp] theorem silent_accept (other : Int) : ¬Silent arrival [.accept other] :=
  fun silent => (silent _ (List.mem_singleton_self _)).1 other rfl

@[simp] theorem silent_poll (timeoutMs : Nat) (now : Int) :
    Silent arrival [.poll timeoutMs now] ↔ ¬(timeoutMs ≠ 0 ∧ now - arrival > timeoutMs) := by
  simp [Silent]

@[simp] theorem silent_other : Silent arrival [.other] := by
  simp [Silent]

end Silent

/-- A packet `IncomingRTPPacket` takes for a keep-alive on the receiver `r`: nothing lies between
its header, with the two RTX bytes counted into it on the RTX SSRC, and its padding. -/
def KeepAlive (r : RTPReceiver) (header : WebRtcRTPHeader) (packet : List UWord8)
    (packetLength : UWord16) : Prop :=
  (packetLength.toNat - header.paddingLength.toNat : Int) -
    (Receiver.unwrapRtx r header packet).1.headerLength.toNat = 0

instance (r : RTPReceiver) (header : WebRtcRTPHeader) (packet : List UWord8)
    (packetLength : UWord16) : Decidable (KeepAlive r header packet packetLength) :=
  inferInstanceAs (Decidable (_ = _))

namespace RTPReceiver

/-- The arrival `PacketTimeout` measures silence from: `last_receive_time_`, where 0 means none. -/
def pendingArrival (r : RTPReceiver) : Option Int :=
  if r.lastReceiveTime = 0 then none else some r.lastReceiveTime

theorem recordPacket_lastReceiveTime (jitterDelayMs : Nat → Nat → Int) (frequencyHz : UWord32)
    (env : Env) (r : RTPReceiver) (header : WebRtcRTPHeader) (payloadDataLength : UWord16) :
    (r.recordPacket jitterDelayMs frequencyHz env header payloadDataLength).lastReceiveTime =
      env.timeInMilliseconds := by
  unfold recordPacket
  dsimp only
  split_ifs <;> rfl

end RTPReceiver

namespace Receiver

variable {σ : Type}

/-- `PacketTimeout` is a poll of the timer over the pending arrival with the configured timeout,
at every clock reading: it reports once, and then has nothing pending. -/
theorem packetTimeout_pollTimer (env : Env) (s : Receiver σ) :
    (s.packetTimeout env).1.rtp.pendingArrival =
        (pollTimer s.rtp.packetTimeoutMs.toNat env.timeInMilliseconds s.rtp.pendingArrival).1 ∧
      (s.packetTimeout env).2 =
        if (pollTimer s.rtp.packetTimeoutMs.toNat env.timeInMilliseconds s.rtp.pendingArrival).2
        then [.onPacketTimeout] else [] := by
  have disabled : s.rtp.packetTimeoutMs = 0 ↔ s.rtp.packetTimeoutMs.toNat = 0 := by
    rw [BitVec.toNat_eq]; exact Iff.rfl
  unfold packetTimeout RTPReceiver.pendingArrival RTPReceiver.haveNotReceivedPackets
  by_cases idle : s.rtp.lastReceiveTime = 0
  · simp [idle, pollTimer]
  · simp only [idle, decide_False, Bool.false_eq_true, or_false, ↓reduceIte, pollTimer, disabled]
    by_cases late : env.timeInMilliseconds - s.rtp.lastReceiveTime > s.rtp.packetTimeoutMs.toNat <;>
      by_cases configured : s.rtp.packetTimeoutMs.toNat = 0 <;> simp [configured, late, idle]

theorem incomingRTPPacket_lastReceiveTime (ctx : Context σ) (env : Env) (s : Receiver σ)
    (header : WebRtcRTPHeader) (packet : List UWord8) (packetLength : UWord16) :
    (s.incomingRTPPacket ctx env header packet packetLength).receiver.rtp.lastReceiveTime =
        s.rtp.lastReceiveTime ∨
      (s.incomingRTPPacket ctx env header packet packetLength).receiver.rtp.lastReceiveTime =
          env.timeInMilliseconds ∧
        0 ≤ (s.incomingRTPPacket ctx env header packet packetLength).result := by
  rcases incomingRTPPacket_uncounted_or_recorded ctx env s header packet packetLength with
    uncounted | ⟨_, _, _, _, -, accepted, recorded⟩
  · exact .inl uncounted.lastReceiveTime
  · exact .inr ⟨by rw [recorded, RTPReceiver.recordPacket_lastReceiveTime], accepted⟩

theorem step_lastReceiveTime (ctx : Context σ) (env : Env) (s : Receiver σ) (call : Call) :
    (s.step ctx env call).1.rtp.lastReceiveTime = s.rtp.lastReceiveTime ∨
      (∃ header packet packetLength, call = .incomingRTPPacket header packet packetLength) ∧
        (s.step ctx env call).1.rtp.lastReceiveTime = env.timeInMilliseconds ∨
      call = .packetTimeout ∧ (s.step ctx env call).1.rtp.lastReceiveTime = 0 := by
  cases call with
  | incomingRTPPacket header packet packetLength =>
    rcases incomingRTPPacket_lastReceiveTime ctx env s header packet packetLength with
      kept | ⟨restarted, -⟩
    · exact .inl kept
    · exact .inr (.inl ⟨⟨header, packet, packetLength, rfl⟩, restarted⟩)
  | packetTimeout =>
    simp only [step, packetTimeout]
    split_ifs
    · exact .inl rfl
    · exact .inr (.inr ⟨trivial, rfl⟩)
    · exact .inl rfl
  | statistics reset => exact .inl (by simp only [step]; rw [RTPReceiver.statistics_fst_eq])
  | setNACKStatus method threshold =>
    simp only [step, RTPReceiver.setNACKStatus]
    split_ifs <;> exact .inl rfl
  | registerReceivePayload payloadName payloadType frequency channels rate =>
    simp only [step, registerReceivePayload]
    split_ifs <;> exact .inl rfl
  | _ => exact .inl rfl

theorem incomingRTPPacket_lastReceiveTime_of_accepted (ctx : Context σ) (env : Env)
    (s : Receiver σ) (header : WebRtcRTPHeader) (packet : List UWord8) (packetLength : UWord16)
    (active : ¬KeepAlive s.rtp header packet packetLength)
    (accepted : 0 ≤ (s.incomingRTPPacket ctx env header packet packetLength).result) :
    (s.incomingRTPPacket ctx env header packet packetLength).receiver.rtp.lastReceiveTime =
      env.timeInMilliseconds := by
  by_cases admitted : Admitted s.rtp header packet packetLength
  · rw [incomingRTPPacket_of_admitted ctx env s header packet packetLength admitted] at accepted ⊢
    rcases processPacket_uncounted_or_recorded ctx env s (unwrapRtx s.rtp header packet).1 packet
      packetLength (packetLength.toNat - header.paddingLength.toNat) (unwrapRtx s.rtp header packet).2
      with ⟨-, rejected | ⟨-, keepAlive⟩⟩ | ⟨_, _, -, -, recorded⟩
    · omega
    · exact absurd keepAlive active
    · rw [recorded, RTPReceiver.recordPacket_lastReceiveTime]
  · have refused := (incomingRTPPacket_of_not_admitted ctx env s header packet packetLength
      admitted).2.2
    omega

end Receiver

/-- What the timer law asks of a call at `env` on the receiver `r`: a packet is no keep-alive
and does not arrive at clock reading 0, which `last_receive_time_` reads as none. -/
def Call.Timed (env : Env) (r : RTPReceiver) : Call → Prop
  | .incomingRTPPacket header packet packetLength =>
    env.timeInMilliseconds ≠ 0 ∧ ¬KeepAlive r header packet packetLength
  | _ => True

instance Call.decidableTimed (env : Env) (r : RTPReceiver) :
    (call : Call) → Decidable (call.Timed env r)
  | .incomingRTPPacket _ _ _ => inferInstanceAs (Decidable (_ ∧ ¬_))
  | .statistics _ | .resetStatistics | .resetDataCounters | .packetTimeout
  | .processDeadOrAlive .. | .setNACKStatus .. | .setRTXStatus .. | .setSSRCFilter ..
  | .setPacketTimeout _ | .registerReceivePayload .. | .deRegisterReceivePayload _ => isTrue trivial

namespace Receiver

variable {σ : Type}

/-- What a call at `env` is to the timer, as its caller sees it: a packet that
`IncomingRTPPacket` answers with a nonnegative result is accepted at the clock reading, and
`PacketTimeout` polls with the configured timeout. -/
def timerInput (ctx : Context σ) (env : Env) (s : Receiver σ) : Call → TimerInput
  | .incomingRTPPacket header packet packetLength =>
    if 0 ≤ (s.incomingRTPPacket ctx env header packet packetLength).result then
      .accept env.timeInMilliseconds
    else .other
  | .packetTimeout => .poll s.rtp.packetTimeoutMs.toNat env.timeInMilliseconds
  | _ => .other

/-- The timer inputs of a run, call by call. -/
def timerInputs (ctx : Context σ) : Receiver σ → List (Env × Call) → List TimerInput
  | _, [] => []
  | s, (env, call) :: calls => timerInput ctx env s call :: timerInputs ctx (s.step ctx env call).1 calls

/-- Every call of a run meets `Call.Timed` on the state it finds. -/
def Timed (ctx : Context σ) : Receiver σ → List (Env × Call) → Prop
  | _, [] => True
  | s, (env, call) :: calls => call.Timed env s.rtp ∧ Timed ctx (s.step ctx env call).1 calls

instance decidableTimed (ctx : Context σ) :
    (s : Receiver σ) → (calls : List (Env × Call)) → Decidable (Timed ctx s calls)
  | _, [] => isTrue trivial
  | s, (env, call) :: calls =>
    @instDecidableAnd _ _ (Call.decidableTimed env s.rtp call)
      (decidableTimed ctx (s.step ctx env call).1 calls)

/-- A call the timer law admits moves the pending arrival as the timer moves on the call's
input, and a `PacketTimeout` reports exactly when the timer fires. -/
theorem step_timerStep (ctx : Context σ) (env : Env) (s : Receiver σ) (call : Call)
    (timed : call.Timed env s.rtp) :
    (s.step ctx env call).1.rtp.pendingArrival =
        (timerStep s.rtp.pendingArrival (timerInput ctx env s call)).1 ∧
      (call = .packetTimeout → (s.step ctx env call).2 =
        if (timerStep s.rtp.pendingArrival (timerInput ctx env s call)).2 then [.onPacketTimeout]
        else []) := by
  by_cases isPoll : call = .packetTimeout
  · subst isPoll
    exact ⟨(packetTimeout_pollTimer env s).1, fun _ => (packetTimeout_pollTimer env s).2⟩
  refine ⟨?_, fun poll => absurd poll isPoll⟩
  by_cases isPacket : ∃ header packet packetLength, call = .incomingRTPPacket header packet packetLength
  · obtain ⟨header, packet, packetLength, rfl⟩ := isPacket
    simp only [step, timerInput]
    split_ifs with accepted
    · rw [timerStep, RTPReceiver.pendingArrival, incomingRTPPacket_lastReceiveTime_of_accepted
        ctx env s header packet packetLength timed.2 accepted, if_neg timed.1]
    · rcases incomingRTPPacket_lastReceiveTime ctx env s header packet packetLength with
        kept | ⟨-, accepted'⟩
      · rw [timerStep, RTPReceiver.pendingArrival, RTPReceiver.pendingArrival, kept]
      · exact absurd accepted' accepted
  · have other : timerInput ctx env s call = .other := by
      cases call <;> first | rfl | exact absurd rfl isPoll | exact absurd ⟨_, _, _, rfl⟩ isPacket
    rcases step_lastReceiveTime ctx env s call with kept | ⟨packet, -⟩ | ⟨poll, -⟩
    · simp only [other, timerStep, RTPReceiver.pendingArrival, kept]
    · exact absurd packet isPacket
    · exact absurd poll isPoll

theorem run_timerRun (ctx : Context σ) : ∀ (s : Receiver σ) (calls : List (Env × Call)),
    Timed ctx s calls →
    (s.run ctx calls).1.rtp.pendingArrival = timerRun s.rtp.pendingArrival (timerInputs ctx s calls)
  | _, [], _ => rfl
  | s, (env, call) :: calls, ⟨first, rest⟩ =>
    (run_timerRun ctx _ calls rest).trans
      (congrArg (timerRun · _) (step_timerStep ctx env s call first).1)

/-- A 100 ms packet timeout with VP8 registered, and a packet with eight payload bytes at 10 ms,
none a keep-alive. -/
def packetBeforeSilence : List (Env × Call) :=
  [(clockAt 1, .setPacketTimeout 100),
   (clockAt 1, .registerReceivePayload "VP8" 96 90000 1 0),
   (clockAt 10, .incomingRTPPacket (vp8Header 1 100) (List.replicate 20 0) 20)]

/-- `ProcessDeadOrAlive` over every run from construction in which no packet arrives at clock
reading 0 and none is a keep-alive: it measures from the timer's pending arrival, read as 0 when
nothing is pending. So a stream counts as alive for a second after its most recently accepted packet only
until a `PacketTimeout` fires on that packet, and a receiver with nothing pending counts as alive
while the clock reads less than 1000. -/
theorem run_processDeadOrAlive (ctx : Context σ) (media : σ) (calls : List (Env × Call))
    (valid : Timed ctx (init media) calls)
    (env : Env) (rtcpAlive : Bool) (now : Int) :
    (((init media).run ctx calls).1.step ctx env (.processDeadOrAlive rtcpAlive now)).2 =
      [.onPeriodicDeadOrAlive
        (if (timerRun none (timerInputs ctx (init media) calls)).getD 0 + 1000 > now then .kRtpAlive
          else if rtcpAlive then
            ctx.strategy.processDeadOrAlive ((init media).run ctx calls).1.media
              ((init media).run ctx calls).1.rtp.lastReceivedPayloadLength
          else .kRtpDead)] := by
  have measured : (((init media).run ctx calls).1.rtp.pendingArrival).getD 0 =
      ((init media).run ctx calls).1.rtp.lastReceiveTime := by
    unfold RTPReceiver.pendingArrival
    split_ifs with idle <;> simp [idle]
  have start : (init media).rtp.pendingArrival = none := rfl
  rw [run_timerRun ctx (init media) calls valid, start] at measured
  simp only [step, processDeadOrAlive, measured]

/-- A liveness poll at 500 ms with RTCP dead, after the packet at 10 ms and no timeout poll. -/
theorem run_processDeadOrAlive_after_silence :
    Timed acceptingVideo (init default) packetBeforeSilence ∧
      (((init default).run acceptingVideo packetBeforeSilence).1.step acceptingVideo (clockAt 500)
          (.processDeadOrAlive false 500)).2 =
        [.onPeriodicDeadOrAlive
          (if (timerRun none (timerInputs acceptingVideo (init default) packetBeforeSilence)).getD 0 +
                1000 > 500 then .kRtpAlive
            else if false then
              acceptingVideo.strategy.processDeadOrAlive
                ((init default).run acceptingVideo packetBeforeSilence).1.media
                ((init default).run acceptingVideo packetBeforeSilence).1.rtp.lastReceivedPayloadLength
            else .kRtpDead)] :=
  have valid : Timed acceptingVideo (init default) packetBeforeSilence := by decide
  ⟨valid, run_processDeadOrAlive acceptingVideo default packetBeforeSilence valid (clockAt 500)
    false 500⟩

end Receiver

end RtpRtcp

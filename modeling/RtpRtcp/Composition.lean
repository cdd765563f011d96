import RtpRtcp.StreamRefinement

/-!
# How the receiver's calls compose

One packet's callbacks follow the stages of `IncomingRTPPacket`. Only the two registration calls
change the payload bindings, and `Statistics` without reset and `ProcessDeadOrAlive` are queries:
dropping every other call, or the queries, from a run leaves the final bindings, or the final
state and the other callbacks, as they were.
-/

set_option autoImplicit false

namespace RtpRtcp

/-- The callbacks of `ProcessDeadOrAlive`. -/
def Event.isLiveness : Event → Bool
  | .onPeriodicDeadOrAlive _ => true
  | _ => false

/-- The calls that only answer: `Statistics` without a reset, and `ProcessDeadOrAlive`. -/
def Call.isQuery : Call → Bool
  | .statistics reset => !reset
  | .processDeadOrAlive .. => true
  | _ => false

/-- The calls that reach the payload registry's bindings. -/
def Call.configuresPayloads : Call → Bool
  | .registerReceivePayload .. | .deRegisterReceivePayload _ => true
  | _ => false

/-- What the payload registry binds: its payload-type map and its RED payload type. -/
def RTPPayloadRegistry.bindings (registry : RTPPayloadRegistry) : List (Nat × Payload) × Int :=
  (registry.payloadTypeMap, registry.redPayloadType)

theorem Event.isLiveness_of_stage {event : Event} (early : event.stage ≤ 4) :
    event.isLiveness = false := by
  cases event <;> simp_all [stage, isLiveness]

namespace RTPPayloadRegistry

theorem registerReceivePayload_bindings {registry other : RTPPayloadRegistry}
    (same : registry.bindings = other.bindings) (payloadName : String) (payloadType : Nat)
    (typeSpecific : PayloadUnion) :
    (registry.registerReceivePayload payloadName payloadType typeSpecific).1.bindings =
      (other.registerReceivePayload payloadName payloadType typeSpecific).1.bindings := by
  obtain ⟨map, red⟩ := Prod.mk.inj same
  simp only [registerReceivePayload, payloadTypeToPayload, map]
  split_ifs <;> simp only [bindings, map, red]

theorem deRegisterReceivePayload_bindings {registry other : RTPPayloadRegistry}
    (same : registry.bindings = other.bindings) (payloadType : Nat) :
    (registry.deRegisterReceivePayload payloadType).1.bindings =
      (other.deRegisterReceivePayload payloadType).1.bindings := by
  obtain ⟨map, red⟩ := Prod.mk.inj same
  simp only [deRegisterReceivePayload, payloadTypeToPayload, map]
  split_ifs <;> simp only [bindings, map, red]

end RTPPayloadRegistry

namespace Receiver

variable {σ : Type}

theorem run_cons (ctx : Context σ) (s : Receiver σ) (env : Env) (call : Call)
    (calls : List (Env × Call)) :
    s.run ctx ((env, call) :: calls) =
      (((s.step ctx env call).1.run ctx calls).1,
        (s.step ctx env call).2 ++ ((s.step ctx env call).1.run ctx calls).2) := rfl

/-- `IncomingRTPPacket` makes its callbacks in the order of its stages, whatever the receiver's
state and the packet: the first-packet notification, `SetRemoteSSRC` to the RTCP module,
`OnIncomingSSRCChanged` to the host and `OnInitializeDecoder`, each at most once, and then the
CSRC changes. -/
theorem incomingRTPPacket_callbacks_in_order (ctx : Context σ) (env : Env) (s : Receiver σ)
    (header : WebRtcRTPHeader) (packet : List UWord8) (packetLength : UWord16) :
    (s.incomingRTPPacket ctx env header packet packetLength).events.Pairwise Event.Precedes :=
  (incomingRTPPacket_order ctx env s header packet packetLength).1

/-! ## Which calls bind payload types -/

theorem step_bindings (ctx : Context σ) (env : Env) (s : Receiver σ) (call : Call)
    (other : call.configuresPayloads = false) :
    (s.step ctx env call).1.registry.bindings = s.registry.bindings := by
  cases call with
  | incomingRTPPacket header packet packetLength =>
    rcases incomingRTPPacket_registry ctx env s header packet packetLength with
      same | ⟨_, _, -, -, -, bound⟩
    · exact congrArg RTPPayloadRegistry.bindings same
    · have kept := congrArg RTPPayloadRegistry.bindings bound
      exact kept
  | packetTimeout =>
    simp only [step, packetTimeout]
    split_ifs <;> rfl
  | registerReceivePayload => cases other
  | deRegisterReceivePayload => cases other
  | _ => rfl

theorem step_bindings_agree (ctx : Context σ) (env : Env) {s t : Receiver σ} (call : Call)
    (configures : call.configuresPayloads = true) (same : s.registry.bindings = t.registry.bindings) :
    (s.step ctx env call).1.registry.bindings = (t.step ctx env call).1.registry.bindings := by
  cases call with
  | registerReceivePayload payloadName payloadType frequency channels rate =>
    simp only [step, registerReceivePayload_registry]
    exact RTPPayloadRegistry.registerReceivePayload_bindings same _ _ _
  | deRegisterReceivePayload payloadType =>
    exact RTPPayloadRegistry.deRegisterReceivePayload_bindings same payloadType
  | _ => cases configures

theorem run_bindings_agree (ctx : Context σ) : ∀ (s t : Receiver σ) (calls : List (Env × Call)),
    s.registry.bindings = t.registry.bindings →
    (s.run ctx calls).1.registry.bindings =
      (t.run ctx (calls.filter fun entry => entry.2.configuresPayloads)).1.registry.bindings
  | _, _, [], same => same
  | s, t, (env, call) :: calls, same => by
    cases configures : call.configuresPayloads
    · rw [List.filter_cons_of_neg (by simp only [configures]; decide)]
      exact run_bindings_agree ctx _ t calls ((step_bindings ctx env s call configures).trans same)
    · rw [List.filter_cons_of_pos (by simp only [configures])]
      exact run_bindings_agree ctx _ _ calls (step_bindings_agree ctx env call configures same)

/-- Only `RegisterReceivePayload` and `DeRegisterReceivePayload` decide which payload types the
registry binds and which one is RED: over every run from every state, dropping every other call
(packets, timeouts, queries and the other configuration calls) leaves the final bindings as they
were. -/
theorem run_bindings_of_registrations (ctx : Context σ) (s : Receiver σ)
    (calls : List (Env × Call)) :
    (s.run ctx calls).1.registry.bindings =
      (s.run ctx (calls.filter fun entry => entry.2.configuresPayloads)).1.registry.bindings :=
  run_bindings_agree ctx s s calls rfl

/-! ## Queries -/

theorem step_query (ctx : Context σ) (env : Env) (s : Receiver σ) (call : Call)
    (query : call.isQuery = true) :
    (s.step ctx env call).1 = s ∧ ∀ event ∈ (s.step ctx env call).2, event.isLiveness = true := by
  cases call with
  | statistics reset =>
    cases reset
    · exact ⟨by simp only [step, RTPReceiver.statistics_false_fst], nofun⟩
    · cases query
  | processDeadOrAlive rtcpAlive now =>
    refine ⟨rfl, fun event mem => ?_⟩
    rw [List.mem_singleton.1 mem]
    rfl
  | _ => cases query

theorem step_not_liveness (ctx : Context σ) (env : Env) (s : Receiver σ) (call : Call)
    (notQuery : call.isQuery = false) :
    ∀ event ∈ (s.step ctx env call).2, event.isLiveness = false := by
  cases call with
  | incomingRTPPacket header packet packetLength =>
    exact fun event mem => Event.isLiveness_of_stage
      ((incomingRTPPacket_order ctx env s header packet packetLength).2 event mem)
  | packetTimeout =>
    intro event mem
    simp only [step, packetTimeout] at mem
    split_ifs at mem <;> simp_all [Event.isLiveness]
  | processDeadOrAlive => cases notQuery
  | _ => simp [step]

/-- `Statistics` without a reset and `ProcessDeadOrAlive` are queries: over every run from every
state, dropping them leaves the final state as it was, and the callbacks are the run's own with
the liveness answers left out. -/
theorem run_without_queries (ctx : Context σ) : ∀ (s : Receiver σ) (calls : List (Env × Call)),
    s.run ctx (calls.filter fun entry => !entry.2.isQuery) =
      ((s.run ctx calls).1, (s.run ctx calls).2.filter fun event => !event.isLiveness)
  | _, [] => rfl
  | s, (env, call) :: calls => by
    cases query : call.isQuery
    · have kept : (s.step ctx env call).2.filter (fun event => !event.isLiveness) =
          (s.step ctx env call).2 := List.filter_eq_self.2 fun event mem => by
        simp only [step_not_liveness ctx env s call query event mem]
        decide
      rw [List.filter_cons_of_pos (by simp only [query]; decide), run_cons, run_cons,
        run_without_queries, List.filter_append, kept]
    · obtain ⟨same, liveness⟩ := step_query ctx env s call query
      have dropped : (s.step ctx env call).2.filter (fun event => !event.isLiveness) = [] :=
        List.filter_eq_nil_iff.2 fun event mem => by
          simp only [liveness event mem]
          decide
      rw [List.filter_cons_of_neg (by simp only [query]; decide), run_cons, List.filter_append,
        dropped, List.nil_append, same, run_without_queries]

end Receiver

end RtpRtcp

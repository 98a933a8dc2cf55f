import AgentGovernor.Primitives.Identity

open Checked

namespace ag_primitives

section Names

def MAX_ENVELOPE_NAME_LENGTH : Nat := 192

/-- An inference-capability definition failure. -/
inductive CapabilityDefinitionError where
  | InvalidLifetime
  | ZeroRequestBudget
  | EmptyName (kind : String)
  | NameTooLong (kind : String) (maximum actual : Nat)
  | NonCanonicalName (kind : String)
  deriving DecidableEq, Repr

def validate_envelope_name (kind value : String) : Except CapabilityDefinitionError Unit := do
  reject (value = "") (.EmptyName kind)
  reject (value.utf8ByteSize > MAX_ENVELOPE_NAME_LENGTH)
    (.NameTooLong kind MAX_ENVELOPE_NAME_LENGTH value.utf8ByteSize)
  reject (value.toList.head?.any endpoint_is_alphanumeric = false ∨
      value.toList.getLast?.any endpoint_is_alphanumeric = false ∨
      value.toList.all identifier_admits = false)
    (.NonCanonicalName kind)

/-- `envelope_name_type!`: a configured name of one kind. -/
structure EnvelopeName (kind : String) where
  as_str : String
  canonical : validate_envelope_name kind as_str = .ok ()
  deriving DecidableEq

abbrev ProviderEndpointId : Type := EnvelopeName "ProviderEndpointId"
abbrev ModelId : Type := EnvelopeName "ModelId"
abbrev InferenceMethodId : Type := EnvelopeName "InferenceMethodId"

instance {kind : String} : Serialize (EnvelopeName kind) := ⟨fun name => to_jcs name.as_str⟩

end Names

section Records

/-- The exact provider/model/protocol envelope admitted for a capability. -/
structure InferenceEnvelopeV1 where
  endpoint : ProviderEndpointId
  model : ModelId
  method : InferenceMethodId
  protocol_digest : Digest
  deriving DecidableEq

/-- Maximum cumulative inference use admitted by one capability. -/
structure InferenceBudgetV1 where
  requests : UInt64
  input_bytes : UInt64
  output_bytes : UInt64
  cost_microunits : UInt64
  deriving DecidableEq

/-- One exact, session-bound inference capability definition. -/
structure InferenceCapabilityV1 where
  authority_domain : AuthorityDomainId
  epoch : EpochId
  project : ProjectId
  session_id : SessionId
  session_nonce : LifecycleNonce
  worker_principal : PrincipalId
  provider_policy_digest : Digest
  envelope : InferenceEnvelopeV1
  budget : InferenceBudgetV1
  not_before_unix_ms : UInt64
  expires_at_unix_ms : UInt64
  capability_nonce : LifecycleNonce
  deriving DecidableEq

def InferenceEnvelopeV1.serialize (value : InferenceEnvelopeV1) : Jcs :=
  .obj [("endpoint", to_jcs value.endpoint), ("method", to_jcs value.method), ("model", to_jcs value.model),
    ("protocol_digest", to_jcs value.protocol_digest)]

instance : Serialize InferenceEnvelopeV1 := ⟨InferenceEnvelopeV1.serialize⟩

def InferenceBudgetV1.serialize (value : InferenceBudgetV1) : Jcs :=
  .obj [("cost_microunits", to_jcs value.cost_microunits), ("input_bytes", to_jcs value.input_bytes),
    ("output_bytes", to_jcs value.output_bytes), ("requests", to_jcs value.requests)]

instance : Serialize InferenceBudgetV1 := ⟨InferenceBudgetV1.serialize⟩

def InferenceBudgetV1.validate (budget : InferenceBudgetV1) : Except CapabilityDefinitionError Unit :=
  reject (budget.requests = 0) .ZeroRequestBudget

/-- Intrinsic bounds independent from live session state. -/
def InferenceCapabilityV1.validate_definition (capability : InferenceCapabilityV1) :
    Except CapabilityDefinitionError Unit := do
  reject (capability.not_before_unix_ms ≥ capability.expires_at_unix_ms) .InvalidLifetime
  capability.budget.validate

end Records

end ag_primitives

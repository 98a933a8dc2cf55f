import AgentGovernor.Governed.Identity
import Mathlib.Data.String.Basic

open ag_primitives Checked

namespace ag_campaign.governed

def TYPED_OBSERVATION_BASIS_SCHEMA_V1 : String := "ag.governed-loop.typed-observation-basis/v1"
def DECISION_BASIS_SCHEMA_V1 : String := "nightshift.decision-basis.v1"
def DECISION_BASIS_RULE_ID_V1 : String := "nightshift.posture-normalization"
def DECISION_BASIS_RULE_VERSION_V1 : String := "1"
def DECISION_BASIS_DIGEST_DOMAIN_V1 : String := "nightshift.decision-basis.v1\u0000"

/-- The complete v1 wire atom vocabulary. -/
def DECISION_BASIS_ATOM_VOCABULARY_V1 : List String :=
  ["condition.clean", "condition.condition_present", "condition.unresolved", "delivery.qualified",
    "delivery.partial_delivery", "delivery.failed", "delivery.not_configured", "delivery.not_required"]

/-- Mirror of the Nightshift semantic-identity shape used for the rule. -/
structure DecisionBasisRuleV1 where
  id : String
  version : String
  digest : String
  deriving DecidableEq, Repr

@[simp] def DecisionBasisRuleV1.serialize (value : DecisionBasisRuleV1) : Jcs :=
  .obj [("digest", to_jcs value.digest), ("id", to_jcs value.id), ("version", to_jcs value.version)]

instance : Serialize DecisionBasisRuleV1 := ⟨DecisionBasisRuleV1.serialize⟩

instance : InjectiveSerialize DecisionBasisRuleV1 := .of_serialize

/-- The v1 decision basis: semantic evidence content with no observation,
subject, time, or workflow binding. -/
structure DecisionBasisV1 where
  schema : String
  rule : DecisionBasisRuleV1
  atoms : Finset String
  deriving DecidableEq

@[simp] def DecisionBasisV1.serialize (value : DecisionBasisV1) : Jcs :=
  .obj [("atoms", to_jcs value.atoms), ("rule", to_jcs value.rule), ("schema", to_jcs value.schema)]

instance : Serialize DecisionBasisV1 := ⟨DecisionBasisV1.serialize⟩

instance : InjectiveSerialize DecisionBasisV1 := .of_serialize

/-- The expected v1 rule digest, `sha256("{id}.v{version}")`. -/
def decision_basis_rule_digest_v1 (sha : Sha256) : Digest :=
  Digest.hash_bytes sha (.text (DECISION_BASIS_RULE_ID_V1 ++ ".v" ++ DECISION_BASIS_RULE_VERSION_V1))

namespace DecisionBasisV1

/-- The v1 wire invariants: exact schema, the frozen v1 rule identity, the
finite v1 vocabulary, and exactly one `condition.*` plus one `delivery.*` atom. -/
def validate (sha : Sha256) (basis : DecisionBasisV1) : Except String Unit := do
  reject (basis.schema ≠ DECISION_BASIS_SCHEMA_V1) ("unsupported decision basis schema " ++ basis.schema)
  reject (basis.rule.id ≠ DECISION_BASIS_RULE_ID_V1)
    "unknown decision-basis normalization rule identity"
  reject (basis.rule.version ≠ DECISION_BASIS_RULE_VERSION_V1)
    "unsupported decision-basis normalization rule version"
  let digest ← map_err (Digest.parse basis.rule.digest) fun error =>
    "rule.digest is not a canonical digest: " ++ error.to_string
  reject (digest ≠ decision_basis_rule_digest_v1 sha)
    "rule digest does not match the v1 normalization rule preimage"
  reject (basis.atoms.card ≠ 2)
    "v1 decision basis must contain exactly one condition and one delivery atom"
  let conditions := (basis.atoms.filter fun atom => atom.startsWith "condition.").card
  let deliveries := (basis.atoms.filter fun atom => atom.startsWith "delivery.").card
  reject (conditions ≠ 1 ∨ deliveries ≠ 1)
    "v1 decision basis must contain exactly one condition and one delivery atom"
  match (basis.atoms.sort (· ≤ ·)).find? fun atom => !DECISION_BASIS_ATOM_VOCABULARY_V1.contains atom with
  | some atom => throw ("unknown v1 decision-basis atom " ++ atom)
  | none => pure ()

/-- Domain-separated digest over the label and the canonical basis document. -/
def decision_basis_digest (sha : Sha256) (basis : DecisionBasisV1) : Except String Digest :=
  .ok (Digest.hash_bytes sha (.labelled DECISION_BASIS_DIGEST_DOMAIN_V1 (to_jcs basis)))

end DecisionBasisV1

/-- One application-owned observation basis represented only by exact type and identity. -/
structure TypedOpaqueObservationBasisV1 where
  schema : String
  basis_type : String
  basis_identity : Digest
  deriving DecidableEq, Repr

@[simp] def TypedOpaqueObservationBasisV1.serialize (value : TypedOpaqueObservationBasisV1) : Jcs :=
  .obj [("basis_identity", to_jcs value.basis_identity), ("basis_type", to_jcs value.basis_type),
    ("schema", to_jcs value.schema)]

instance : Serialize TypedOpaqueObservationBasisV1 := ⟨TypedOpaqueObservationBasisV1.serialize⟩

instance : InjectiveSerialize TypedOpaqueObservationBasisV1 := .of_serialize

/-- The text of a rejected label. -/
def CampaignLabelError.to_string : CampaignLabelError → String
  | .Empty kind => kind ++ " must not be empty"
  | .TooLong kind actual => kind ++ " exceeds 128 bytes (got " ++ toString actual ++ ")"
  | .ControlCharacter kind => kind ++ " contains an ASCII control character"

namespace TypedOpaqueObservationBasisV1

/-- Validates only the closed envelope; the opaque identity is not interpreted. -/
def validate (basis : TypedOpaqueObservationBasisV1) : Except String Unit := do
  reject (basis.schema ≠ TYPED_OBSERVATION_BASIS_SCHEMA_V1)
    ("unsupported typed observation-basis schema " ++ basis.schema)
  map_err (validate_label "typed observation-basis type" basis.basis_type) CampaignLabelError.to_string
  reject (basis.basis_type = DECISION_BASIS_SCHEMA_V1)
    "Nightshift decision basis must use its frozen typed variant"

/-- Exact binding token over both application type and opaque identity. -/
def binding_digest (sha : Sha256) (basis : TypedOpaqueObservationBasisV1) : Except String Digest := do
  basis.validate
  pure (digest_value sha TYPED_OBSERVATION_BASIS_SCHEMA_V1 basis)

end TypedOpaqueObservationBasisV1

/-- The two kinds of basis document have different members. -/
theorem decision_basis_ne_typed_basis (decision : DecisionBasisV1) (typed : TypedOpaqueObservationBasisV1) :
    to_jcs decision ≠ to_jcs typed := by
  change decision.serialize ≠ typed.serialize
  simp [DecisionBasisV1.serialize, TypedOpaqueObservationBasisV1.serialize]

end ag_campaign.governed

import AgentGovernor.Governed.DecisionBasis

open ag_primitives Checked

namespace ag_campaign.governed

def OBSERVATION_RESOLUTION_SCHEMA_V2 : String := "ag.governed-loop.observation-resolution/v2"
def OBSERVATION_RESOLUTION_SCHEMA_V3 : String := "ag.governed-loop.observation-resolution/v3"

/-- Observation status returned by the external observation resolver. -/
inductive ObservationStatusV1 where
  | Current
  | Stale
  | Superseded
  | Contradictory
  | Absent
  deriving DecidableEq, Repr

@[simp] def ObservationStatusV1.tag : ObservationStatusV1 → String
  | .Current => "current"
  | .Stale => "stale"
  | .Superseded => "superseded"
  | .Contradictory => "contradictory"
  | .Absent => "absent"

/-- Closed status vocabulary for a typed opaque observation resolution. -/
inductive TypedObservationStatusV1 where
  | Current
  | Stale
  | Superseded
  | Contradictory
  | Absent
  | Unsupported
  | Refused
  deriving DecidableEq, Repr

@[simp] def TypedObservationStatusV1.tag : TypedObservationStatusV1 → String
  | .Current => "current"
  | .Stale => "stale"
  | .Superseded => "superseded"
  | .Contradictory => "contradictory"
  | .Absent => "absent"
  | .Unsupported => "unsupported"
  | .Refused => "refused"

instance : Serialize ObservationStatusV1 := ⟨fun value => .str value.tag⟩
instance : Serialize TypedObservationStatusV1 := ⟨fun value => .str value.tag⟩

instance : InjectiveSerialize ObservationStatusV1 := .of_serialize

instance : InjectiveSerialize TypedObservationStatusV1 := .of_serialize

/-- Exact Nightshift observation/currentness record returned by an external resolver. -/
structure ObservationResolutionV2 where
  schema : String
  key : OccurrenceKeyV1
  observation : ObservationRefV1
  currentness : ObservationCurrentnessRefV1
  normalized_preconditions : PreconditionBasisRefV1
  basis : DecisionBasisV1
  resolver_id : String
  subject : Digest
  status : ObservationStatusV1
  resolved_at_unix_ms : UInt64
  fresh_until_unix_ms : UInt64
  deriving DecidableEq

def ObservationResolutionV2.serialize (value : ObservationResolutionV2) : Jcs :=
  .obj [("basis", to_jcs value.basis), ("currentness", to_jcs value.currentness),
    ("fresh_until_unix_ms", to_jcs value.fresh_until_unix_ms), ("key", to_jcs value.key),
    ("normalized_preconditions", to_jcs value.normalized_preconditions),
    ("observation", to_jcs value.observation), ("resolved_at_unix_ms", to_jcs value.resolved_at_unix_ms),
    ("resolver_id", to_jcs value.resolver_id), ("schema", to_jcs value.schema),
    ("status", to_jcs value.status), ("subject", to_jcs value.subject)]

/-- Typed opaque observation/currentness record. -/
structure ObservationResolutionV3 where
  schema : String
  key : OccurrenceKeyV1
  observation : ObservationRefV1
  currentness : ObservationCurrentnessRefV1
  normalized_preconditions : PreconditionBasisRefV1
  basis : TypedOpaqueObservationBasisV1
  resolver_id : String
  subject : Digest
  status : TypedObservationStatusV1
  resolved_at_unix_ms : UInt64
  fresh_until_unix_ms : UInt64
  deriving DecidableEq, Repr

def ObservationResolutionV3.serialize (value : ObservationResolutionV3) : Jcs :=
  .obj [("basis", to_jcs value.basis), ("currentness", to_jcs value.currentness),
    ("fresh_until_unix_ms", to_jcs value.fresh_until_unix_ms), ("key", to_jcs value.key),
    ("normalized_preconditions", to_jcs value.normalized_preconditions),
    ("observation", to_jcs value.observation), ("resolved_at_unix_ms", to_jcs value.resolved_at_unix_ms),
    ("resolver_id", to_jcs value.resolver_id), ("schema", to_jcs value.schema),
    ("status", to_jcs value.status), ("subject", to_jcs value.subject)]

/-- Closed versioned observation-resolution set stored by the governed loop. -/
inductive VersionedObservationResolutionV1 where
  | NightshiftV2 (value : ObservationResolutionV2)
  | TypedV3 (value : ObservationResolutionV3)
  deriving DecidableEq

/-- The encoding is untagged: each generation is written as itself. -/
def VersionedObservationResolutionV1.serialize : VersionedObservationResolutionV1 → Jcs
  | .NightshiftV2 value => value.serialize
  | .TypedV3 value => value.serialize

instance : Serialize VersionedObservationResolutionV1 := ⟨VersionedObservationResolutionV1.serialize⟩

/-- The two generations stay apart in the untagged encoding because their basis
documents have different members. -/
instance : InjectiveSerialize VersionedObservationResolutionV1 where
  injective left right h := by
    change left.serialize = right.serialize at h
    cases left with
    | NightshiftV2 left =>
      cases right with
      | NightshiftV2 right =>
        cases left
        cases right
        simp_all [VersionedObservationResolutionV1.serialize, ObservationResolutionV2.serialize]
      | TypedV3 right =>
        simp [VersionedObservationResolutionV1.serialize, ObservationResolutionV2.serialize,
          ObservationResolutionV3.serialize, decision_basis_ne_typed_basis] at h
    | TypedV3 left =>
      cases right with
      | NightshiftV2 right =>
        simp [VersionedObservationResolutionV1.serialize, ObservationResolutionV2.serialize,
          ObservationResolutionV3.serialize, (decision_basis_ne_typed_basis _ _).symm] at h
      | TypedV3 right =>
        cases left
        cases right
        simp_all [VersionedObservationResolutionV1.serialize, ObservationResolutionV3.serialize]

namespace VersionedObservationResolutionV1

def validate_basis (sha : Sha256) : VersionedObservationResolutionV1 → Except String Unit
  | .NightshiftV2 resolution => resolution.basis.validate sha
  | .TypedV3 resolution => resolution.basis.validate

def basis_binding_digest (sha : Sha256) : VersionedObservationResolutionV1 → Except String Digest
  | .NightshiftV2 resolution => resolution.basis.decision_basis_digest sha
  | .TypedV3 resolution => resolution.basis.binding_digest sha

def invalid_schema_label : VersionedObservationResolutionV1 → String
  | .NightshiftV2 _ => "decision basis"
  | .TypedV3 _ => "typed observation basis"

def schema : VersionedObservationResolutionV1 → String
  | .NightshiftV2 value => value.schema
  | .TypedV3 value => value.schema

def key : VersionedObservationResolutionV1 → OccurrenceKeyV1
  | .NightshiftV2 value => value.key
  | .TypedV3 value => value.key

/-- The exact observation requested from either closed resolution generation. -/
def observation : VersionedObservationResolutionV1 → ObservationRefV1
  | .NightshiftV2 value => value.observation
  | .TypedV3 value => value.observation

/-- The exact binding digest for the closed basis representation. -/
def normalized_preconditions : VersionedObservationResolutionV1 → PreconditionBasisRefV1
  | .NightshiftV2 value => value.normalized_preconditions
  | .TypedV3 value => value.normalized_preconditions

/-- The exact pinned resolver/authority identity. -/
def resolver_id : VersionedObservationResolutionV1 → String
  | .NightshiftV2 value => value.resolver_id
  | .TypedV3 value => value.resolver_id

def subject : VersionedObservationResolutionV1 → Digest
  | .NightshiftV2 value => value.subject
  | .TypedV3 value => value.subject

/-- The resolver clock lower bound. -/
def resolved_at_unix_ms : VersionedObservationResolutionV1 → UInt64
  | .NightshiftV2 value => value.resolved_at_unix_ms
  | .TypedV3 value => value.resolved_at_unix_ms

/-- The exclusive resolver freshness deadline. -/
def fresh_until_unix_ms : VersionedObservationResolutionV1 → UInt64
  | .NightshiftV2 value => value.fresh_until_unix_ms
  | .TypedV3 value => value.fresh_until_unix_ms

def is_current : VersionedObservationResolutionV1 → Bool
  | .NightshiftV2 value => value.status == .Current
  | .TypedV3 value => value.status == .Current

def is_contradictory : VersionedObservationResolutionV1 → Bool
  | .NightshiftV2 value => value.status == .Contradictory
  | .TypedV3 value => value.status == .Contradictory

/-- The outer schema names the generation of the record. -/
def has_own_schema : VersionedObservationResolutionV1 → Bool
  | .NightshiftV2 value => value.schema == OBSERVATION_RESOLUTION_SCHEMA_V2
  | .TypedV3 value => value.schema == OBSERVATION_RESOLUTION_SCHEMA_V3

end VersionedObservationResolutionV1

/-- Exact request made to the external observation resolver. -/
structure ObservationResolutionRequestV1 where
  key : OccurrenceKeyV1
  observation : ObservationRefV1
  subject : Digest
  now_unix_ms : UInt64

/-- External observation-currentness boundary. -/
structure ObservationResolverV1 where
  resolve_observation : ObservationResolutionRequestV1 →
    Except ExternalBoundaryErrorV1 VersionedObservationResolutionV1

/-- Structural checks of a stored observation resolution. -/
def validate_observation_resolution_integrity (sha : Sha256)
    (observation : VersionedObservationResolutionV1) : Except KernelErrorV1 Unit := do
  reject (observation.has_own_schema = false) (.ForeignSchema "observation resolution")
  map_err (observation.validate_basis sha) fun _ => .ForeignSchema observation.invalid_schema_label
  let expected ← map_err (observation.basis_binding_digest sha)
    fun _ => KernelErrorV1.ForeignSchema observation.invalid_schema_label
  reject (observation.normalized_preconditions.as_digest ≠ expected)
    (.StateInvariant "observation precondition basis")
  reject (observation.resolver_id = "" ∨
      observation.resolved_at_unix_ms ≥ observation.fresh_until_unix_ms)
    (.StateInvariant "observation resolution")

end ag_campaign.governed

import AgentGovernor.Governed.Observation
import AgentGovernor.Governed.Proposal

open ag_primitives Checked

namespace ag_campaign.governed

def STANDING_RESOLUTION_SCHEMA_V2 : String := "ag.governed-loop.standing-resolution/v2"

/-- Standing status returned by the authoritative Standing/Docket resolver. -/
inductive StandingStatusV1 where
  | Current
  | Absent
  | Revoked
  | Superseded
  | Expired
  deriving DecidableEq, Repr

@[simp] def StandingStatusV1.tag : StandingStatusV1 → String
  | .Current => "current"
  | .Absent => "absent"
  | .Revoked => "revoked"
  | .Superseded => "superseded"
  | .Expired => "expired"

instance : Serialize StandingStatusV1 := ⟨fun value => .str value.tag⟩

instance : InjectiveSerialize StandingStatusV1 := .of_serialize

/-- Historical record of one authoritative current-standing resolution. -/
structure CurrentStandingResolutionV2 where
  schema : String
  resolution : StandingResolutionRefV1
  currentness : StandingCurrentnessRefV1
  mandate : MandateRefV1
  key : OccurrenceKeyV1
  observation : ObservationRefV1
  proposal : ProposalRefV1
  subject : Digest
  scope : Digest
  resolver_id : String
  status : StandingStatusV1
  resolved_at_unix_ms : UInt64
  expires_at_unix_ms : UInt64
  deriving DecidableEq, Repr

@[simp] def CurrentStandingResolutionV2.serialize (value : CurrentStandingResolutionV2) : Jcs :=
  .obj [("currentness", to_jcs value.currentness), ("expires_at_unix_ms", to_jcs value.expires_at_unix_ms),
    ("key", to_jcs value.key), ("mandate", to_jcs value.mandate),
    ("observation", to_jcs value.observation), ("proposal", to_jcs value.proposal),
    ("resolution", to_jcs value.resolution), ("resolved_at_unix_ms", to_jcs value.resolved_at_unix_ms),
    ("resolver_id", to_jcs value.resolver_id), ("schema", to_jcs value.schema),
    ("scope", to_jcs value.scope), ("status", to_jcs value.status), ("subject", to_jcs value.subject)]

instance : Serialize CurrentStandingResolutionV2 := ⟨CurrentStandingResolutionV2.serialize⟩

instance : InjectiveSerialize CurrentStandingResolutionV2 := .of_serialize

/-- Request made to the authoritative current-standing boundary. -/
structure StandingResolutionRequestV1 where
  key : OccurrenceKeyV1
  observation : ObservationRefV1
  proposal : ProposalRefV1
  subject : Digest
  scope : Digest
  now_unix_ms : UInt64

/-- External current-standing boundary. -/
structure StandingResolverV1 where
  resolve_standing : StandingResolutionRequestV1 →
    Except ExternalBoundaryErrorV1 CurrentStandingResolutionV2

/-- Closed result vocabulary for AG's exact-work admission policy. -/
inductive AdmissionDispositionV1 where
  | Admitted
  | Refused
  | Contradiction
  deriving DecidableEq, Repr

@[simp] def AdmissionDispositionV1.tag : AdmissionDispositionV1 → String
  | .Admitted => "admitted"
  | .Refused => "refused"
  | .Contradiction => "contradiction"

instance : Serialize AdmissionDispositionV1 := ⟨fun value => .str value.tag⟩

instance : InjectiveSerialize AdmissionDispositionV1 := .of_serialize

/-- Historical evidence of one AG admissibility decision. -/
structure AdmissionDecisionV1 where
  decision : AdmissionDecisionRefV1
  key : OccurrenceKeyV1
  observation : ObservationRefV1
  proposal : ProposalRefV1
  standing_resolution : StandingResolutionRefV1
  disposition : AdmissionDispositionV1
  policy_basis : Digest
  deriving DecidableEq, Repr

@[simp] def AdmissionDecisionV1.serialize (value : AdmissionDecisionV1) : Jcs :=
  .obj [("decision", to_jcs value.decision), ("disposition", to_jcs value.disposition),
    ("key", to_jcs value.key), ("observation", to_jcs value.observation),
    ("policy_basis", to_jcs value.policy_basis), ("proposal", to_jcs value.proposal),
    ("standing_resolution", to_jcs value.standing_resolution)]

instance : Serialize AdmissionDecisionV1 := ⟨AdmissionDecisionV1.serialize⟩

instance : InjectiveSerialize AdmissionDecisionV1 := .of_serialize

/-- Exact input to AG's application-specific admissibility policy. -/
structure AdmissibilityRequestV1 where
  proposal : ExactWorkProposalV1
  observation : VersionedObservationResolutionV1
  standing : CurrentStandingResolutionV2
  controlling_rejected_review : Option C1RejectedReviewBasisV1

/-- Application-specific exact-work admissibility boundary owned by AG policy. -/
structure AdmissibilityDeciderV1 where
  decide_admissibility : AdmissibilityRequestV1 → Except ExternalBoundaryErrorV1 AdmissionDecisionV1

end ag_campaign.governed

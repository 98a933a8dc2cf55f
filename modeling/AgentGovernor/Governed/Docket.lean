import AgentGovernor.Governed.Identity

open ag_primitives Checked

namespace ag_campaign.governed

def AG_ISSUANCE_SCHEMA_V1 : String := "ag.governed-loop.issuance/v1"
def DOCKET_CUSTODY_SCHEMA_V1 : String := "ag.governed-loop.docket-custody/v1"
def DOCKET_SETTLEMENT_SCHEMA_V1 : String := "ag.governed-loop.docket-settlement/v1"
def AG_AUTHORIZATION_DIGEST_DOMAIN_V1 : String := "ag.governed-loop.authorization/v1"
def AG_SPEND_DIGEST_DOMAIN_V1 : String := "ag.governed-loop.spend/v1"
def AG_ISSUANCE_DIGEST_DOMAIN_V1 : String := "ag.governed-loop.issuance/v1"
def DOCKET_ATTEMPT_DIGEST_DOMAIN_V1 : String := "ag.governed-loop.docket-attempt/v1"

/-- Durable one-use AG authorization spend. -/
structure AgAuthorizationSpendV1 where
  authorization : AgAuthorizationRefV1
  spend : AgSpendRefV1
  key : OccurrenceKeyV1
  observation : ObservationRefV1
  proposal : ProposalRefV1
  standing_resolution : StandingResolutionRefV1
  admission_decision : AdmissionDecisionRefV1
  consumed_at_unix_ms : UInt64
  deriving DecidableEq, Repr

@[simp] def AgAuthorizationSpendV1.serialize (value : AgAuthorizationSpendV1) : Jcs :=
  .obj [("admission_decision", to_jcs value.admission_decision),
    ("authorization", to_jcs value.authorization),
    ("consumed_at_unix_ms", to_jcs value.consumed_at_unix_ms), ("key", to_jcs value.key),
    ("observation", to_jcs value.observation), ("proposal", to_jcs value.proposal),
    ("spend", to_jcs value.spend), ("standing_resolution", to_jcs value.standing_resolution)]

instance : Serialize AgAuthorizationSpendV1 := ⟨AgAuthorizationSpendV1.serialize⟩

instance : InjectiveSerialize AgAuthorizationSpendV1 := .of_serialize

/-- Deterministic exact issuance reconstructible from authoritative state. -/
structure AgIssuanceV1 where
  schema : String
  issuance : AgIssuanceRefV1
  key : OccurrenceKeyV1
  program : ProgramBasisRefV1
  proposal : ProposalRefV1
  work_schema : String
  work : Digest
  subject : Digest
  scope : Digest
  observation : ObservationRefV1
  standing_resolution : StandingResolutionRefV1
  mandate : MandateRefV1
  spend : AgSpendRefV1
  deriving DecidableEq, Repr

@[simp] def AgIssuanceV1.serialize (value : AgIssuanceV1) : Jcs :=
  .obj [("issuance", to_jcs value.issuance), ("key", to_jcs value.key),
    ("mandate", to_jcs value.mandate), ("observation", to_jcs value.observation),
    ("program", to_jcs value.program), ("proposal", to_jcs value.proposal),
    ("schema", to_jcs value.schema), ("scope", to_jcs value.scope), ("spend", to_jcs value.spend),
    ("standing_resolution", to_jcs value.standing_resolution), ("subject", to_jcs value.subject),
    ("work", to_jcs value.work), ("work_schema", to_jcs value.work_schema)]

instance : Serialize AgIssuanceV1 := ⟨AgIssuanceV1.serialize⟩

instance : InjectiveSerialize AgIssuanceV1 := .of_serialize

/-- Docket's exact custody acceptance for one AG issuance. -/
structure DocketCustodyV1 where
  schema : String
  issuance : AgIssuanceRefV1
  ag_spend : AgSpendRefV1
  execution_standing : DocketExecutionStandingRefV1
  standing_currentness : StandingCurrentnessRefV1
  attempt : DocketAttemptRefV1
  executor_marker : ExecutorAttemptMarkerRefV1
  accepted_at_unix_ms : UInt64
  deriving DecidableEq, Repr

@[simp] def DocketCustodyV1.serialize (value : DocketCustodyV1) : Jcs :=
  .obj [("accepted_at_unix_ms", to_jcs value.accepted_at_unix_ms), ("ag_spend", to_jcs value.ag_spend),
    ("attempt", to_jcs value.attempt), ("execution_standing", to_jcs value.execution_standing),
    ("executor_marker", to_jcs value.executor_marker), ("issuance", to_jcs value.issuance),
    ("schema", to_jcs value.schema), ("standing_currentness", to_jcs value.standing_currentness)]

instance : Serialize DocketCustodyV1 := ⟨DocketCustodyV1.serialize⟩

instance : InjectiveSerialize DocketCustodyV1 := .of_serialize

/-- Known Docket settlement outcome. -/
inductive KnownOutcomeV1 where
  | Success
  | Failure
  deriving DecidableEq, Repr

@[simp] def KnownOutcomeV1.tag : KnownOutcomeV1 → String
  | .Success => "success"
  | .Failure => "failure"

instance : Serialize KnownOutcomeV1 := ⟨fun value => .str value.tag⟩

instance : InjectiveSerialize KnownOutcomeV1 := .of_serialize

/-- Exact Docket settlement evidence. -/
structure DocketSettlementV1 where
  schema : String
  settlement : SettlementRefV1
  issuance : AgIssuanceRefV1
  attempt : DocketAttemptRefV1
  executor_marker : ExecutorAttemptMarkerRefV1
  receipt : ReceiptRefV1
  outcome : KnownOutcomeV1
  settled_at_unix_ms : UInt64
  deriving DecidableEq, Repr

@[simp] def DocketSettlementV1.serialize (value : DocketSettlementV1) : Jcs :=
  .obj [("attempt", to_jcs value.attempt), ("executor_marker", to_jcs value.executor_marker),
    ("issuance", to_jcs value.issuance), ("outcome", to_jcs value.outcome),
    ("receipt", to_jcs value.receipt), ("schema", to_jcs value.schema),
    ("settled_at_unix_ms", to_jcs value.settled_at_unix_ms), ("settlement", to_jcs value.settlement)]

instance : Serialize DocketSettlementV1 := ⟨DocketSettlementV1.serialize⟩

instance : InjectiveSerialize DocketSettlementV1 := .of_serialize

/-- Exact indeterminate-attempt evidence requiring reconciliation. -/
structure IndeterminateOutcomeV1 where
  issuance : AgIssuanceRefV1
  attempt : DocketAttemptRefV1
  reconciliation : ReconciliationRefV1
  evidence : Digest
  deriving DecidableEq, Repr

@[simp] def IndeterminateOutcomeV1.serialize (value : IndeterminateOutcomeV1) : Jcs :=
  .obj [("attempt", to_jcs value.attempt), ("evidence", to_jcs value.evidence),
    ("issuance", to_jcs value.issuance), ("reconciliation", to_jcs value.reconciliation)]

instance : Serialize IndeterminateOutcomeV1 := ⟨IndeterminateOutcomeV1.serialize⟩

instance : InjectiveSerialize IndeterminateOutcomeV1 := .of_serialize

/-- Durable authority history retained through halt and completion. -/
structure AuthorityHistoryV1 where
  ag_spend : Option AgSpendRefV1
  docket_attempt : Option DocketAttemptRefV1
  settlement : Option SettlementRefV1
  receipt : Option ReceiptRefV1
  deriving DecidableEq, Repr

/-- The derived `Default`: nothing has happened yet. -/
def AuthorityHistoryV1.default : AuthorityHistoryV1 := ⟨none, none, none, none⟩

@[simp] def AuthorityHistoryV1.serialize (value : AuthorityHistoryV1) : Jcs :=
  .obj [("ag_spend", to_jcs value.ag_spend), ("docket_attempt", to_jcs value.docket_attempt),
    ("receipt", to_jcs value.receipt), ("settlement", to_jcs value.settlement)]

instance : Serialize AuthorityHistoryV1 := ⟨AuthorityHistoryV1.serialize⟩

instance : InjectiveSerialize AuthorityHistoryV1 := .of_serialize

/-- The basis one semantic authorization is derived from. -/
structure AuthorizationBasis where
  key : OccurrenceKeyV1
  observation : ObservationRefV1
  proposal : ProposalRefV1
  standing : StandingResolutionRefV1

def AuthorizationBasis.serialize (value : AuthorizationBasis) : Jcs :=
  .obj [("key", to_jcs value.key), ("observation", to_jcs value.observation),
    ("proposal", to_jcs value.proposal), ("standing", to_jcs value.standing)]

instance : Serialize AuthorizationBasis := ⟨AuthorizationBasis.serialize⟩

/-- The one semantic authorization identity for an exact basis. -/
def AgAuthorizationRefV1.for_basis (sha : Sha256) (key : OccurrenceKeyV1) (observation : ObservationRefV1)
    (proposal : ProposalRefV1) (standing : StandingResolutionRefV1) : AgAuthorizationRefV1 :=
  .from_digest (digest_value sha AG_AUTHORIZATION_DIGEST_DOMAIN_V1
    ({ key, observation, proposal, standing } : AuthorizationBasis))

/-- The unique spend identity for one AG authorization. -/
def AgSpendRefV1.for_authorization (sha : Sha256) (authorization : AgAuthorizationRefV1) : AgSpendRefV1 :=
  .from_digest (digest_value sha AG_SPEND_DIGEST_DOMAIN_V1 authorization)

/-- The canonical attempt key of the exact AG issuance. -/
def DocketAttemptRefV1.for_issuance (sha : Sha256) (issuance : AgIssuanceRefV1) : DocketAttemptRefV1 :=
  .from_digest (digest_value sha DOCKET_ATTEMPT_DIGEST_DOMAIN_V1 issuance)

end ag_campaign.governed

import AgentGovernor.Governed.Residual

open ag_primitives Checked

namespace ag_campaign.governed

def EXACT_WORK_PROPOSAL_SCHEMA_V1 : String := "ag.governed-loop.exact-work-proposal/v1"
def PROPOSAL_DIGEST_DOMAIN_V1 : String := "ag.governed-loop.proposal/v1"

/-- Controlling rejected-review basis for the C1 repair profile. -/
structure C1RejectedReviewBasisV1 where
  review_receipt : Digest
  review_session : Digest
  reviewer : Digest
  history : Digest
  findings : CanonicalFindingSetV1
  deriving DecidableEq

/-- Repair citation supplied by a C1 exact-work proposal. -/
abbrev C1RepairCitationV1 := C1RejectedReviewBasisV1

@[simp] def C1RejectedReviewBasisV1.serialize (value : C1RejectedReviewBasisV1) : Jcs :=
  .obj [("findings", to_jcs value.findings), ("history", to_jcs value.history),
    ("review_receipt", to_jcs value.review_receipt), ("review_session", to_jcs value.review_session),
    ("reviewer", to_jcs value.reviewer)]

instance : Serialize C1RejectedReviewBasisV1 := ⟨C1RejectedReviewBasisV1.serialize⟩

instance : InjectiveSerialize C1RejectedReviewBasisV1 := .of_serialize

instance : NonNullSerialize C1RejectedReviewBasisV1 := ⟨fun _ h => by cases h⟩

/-- Generic exact-work proposal; the work payload is an immutable typed digest. -/
structure ExactWorkProposalV1 where
  schema : String
  campaign : CampaignId
  subject : Digest
  scope : Digest
  work_schema : String
  work : Digest
  repair : Option C1RepairCitationV1
  deriving DecidableEq

@[simp] def ExactWorkProposalV1.serialize (value : ExactWorkProposalV1) : Jcs :=
  .obj [("campaign", to_jcs value.campaign), ("repair", to_jcs value.repair),
    ("schema", to_jcs value.schema), ("scope", to_jcs value.scope),
    ("subject", to_jcs value.subject), ("work", to_jcs value.work),
    ("work_schema", to_jcs value.work_schema)]

instance : Serialize ExactWorkProposalV1 := ⟨ExactWorkProposalV1.serialize⟩

instance : InjectiveSerialize ExactWorkProposalV1 := .of_serialize

namespace ExactWorkProposalV1

/-- Revalidates a decoded proposal. -/
def validate (proposal : ExactWorkProposalV1) : Except KernelErrorV1 Unit := do
  reject (proposal.schema ≠ EXACT_WORK_PROPOSAL_SCHEMA_V1) (.ForeignSchema "exact-work proposal")
  map_err (validate_label "exact-work schema" proposal.work_schema) .Label

/-- The exact proposal identity. -/
def reference (sha : Sha256) (proposal : ExactWorkProposalV1) : ProposalRefV1 :=
  .from_digest (digest_value sha PROPOSAL_DIGEST_DOMAIN_V1 proposal)

end ExactWorkProposalV1

/-- Enforces exact C1 rejected-review identity and finding-set equality. -/
def validate_exact_c1_repair (citation : C1RepairCitationV1) (controlling : C1RejectedReviewBasisV1) :
    Except KernelErrorV1 Unit :=
  reject (citation ≠ controlling) .AlteredFindingSet

end ag_campaign.governed

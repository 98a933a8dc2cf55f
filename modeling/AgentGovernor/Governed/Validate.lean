import AgentGovernor.Governed.StateEncoding

open ag_primitives Checked

namespace ag_campaign.governed

/-- The exact basis an issuance identity is derived from. -/
structure IssuanceBody where
  key : OccurrenceKeyV1
  program : ProgramBasisRefV1
  proposal : ProposalRefV1
  work_schema : String
  work : Digest
  subject : Digest
  scope : Digest
  observation : ObservationRefV1
  standing_resolution : StandingResolutionRefV1
  mandate : MandateRefV1
  spend : AgSpendRefV1

def IssuanceBody.serialize (value : IssuanceBody) : Jcs :=
  .obj [("key", to_jcs value.key), ("mandate", to_jcs value.mandate),
    ("observation", to_jcs value.observation), ("program", to_jcs value.program),
    ("proposal", to_jcs value.proposal), ("scope", to_jcs value.scope), ("spend", to_jcs value.spend),
    ("standing_resolution", to_jcs value.standing_resolution), ("subject", to_jcs value.subject),
    ("work", to_jcs value.work), ("work_schema", to_jcs value.work_schema)]

instance : Serialize IssuanceBody := ⟨IssuanceBody.serialize⟩

variable (sha : Sha256)

def build_issuance (admitted : AdmissibleBasisV1) (spend : AgSpendRefV1) : AgIssuanceV1 :=
  let basis : IssuanceBody :=
    { key := admitted.proposal.metadata.key
      program := admitted.proposal.metadata.program
      proposal := admitted.proposal.proposal_ref
      work_schema := admitted.proposal.proposal.work_schema
      work := admitted.proposal.proposal.work
      subject := admitted.proposal.proposal.subject
      scope := admitted.proposal.proposal.scope
      observation := admitted.proposal.observation.observation
      standing_resolution := admitted.standing.resolution
      mandate := admitted.standing.mandate
      spend }
  { schema := AG_ISSUANCE_SCHEMA_V1
    issuance := .from_digest (digest_value sha AG_ISSUANCE_DIGEST_DOMAIN_V1 basis)
    key := basis.key
    program := basis.program
    proposal := basis.proposal
    work_schema := basis.work_schema
    work := basis.work
    subject := basis.subject
    scope := basis.scope
    observation := basis.observation
    standing_resolution := basis.standing_resolution
    mandate := basis.mandate
    spend := basis.spend }

def validate_custody (custody : DocketCustodyV1) (authorized : AuthorizationConsumedV1) :
    Except KernelErrorV1 Unit := do
  reject (custody.schema ≠ DOCKET_CUSTODY_SCHEMA_V1) (.ForeignSchema "Docket custody")
  reject (custody.issuance ≠ authorized.issuance.issuance) (.BindingMismatch "custody issuance")
  reject (custody.ag_spend ≠ authorized.spend.spend) (.BindingMismatch "custody AG spend")
  reject (custody.execution_standing.as_digest = authorized.spend.spend.as_digest ∨
      custody.execution_standing.as_digest = authorized.spend.authorization.as_digest)
    (.BindingMismatch "Docket standing substituted an AG instrument")
  reject (custody.attempt ≠ DocketAttemptRefV1.for_issuance sha custody.issuance)
    (.BindingMismatch "canonical Docket attempt")
  reject (custody.executor_marker.as_digest = custody.execution_standing.as_digest ∨
      custody.executor_marker.as_digest = authorized.spend.spend.as_digest ∨
      custody.executor_marker.as_digest = authorized.spend.authorization.as_digest ∨
      custody.executor_marker.as_digest = custody.attempt.as_digest)
    (.BindingMismatch "executor marker substituted an authority/attempt instrument")

def validate_settlement (settlement : DocketSettlementV1) (dispatch : DispatchBasisV1) :
    Except KernelErrorV1 Unit := do
  reject (settlement.schema ≠ DOCKET_SETTLEMENT_SCHEMA_V1) (.ForeignSchema "Docket settlement")
  reject (settlement.issuance ≠ dispatch.authorized.issuance.issuance)
    (.BindingMismatch "settlement issuance")
  reject (settlement.attempt ≠ dispatch.custody.attempt) (.BindingMismatch "settlement attempt")
  reject (settlement.executor_marker ≠ dispatch.custody.executor_marker)
    (.BindingMismatch "settlement executor marker")

def validate_indeterminate (indeterminate : IndeterminateOutcomeV1) (dispatch : DispatchBasisV1) :
    Except KernelErrorV1 Unit := do
  reject (indeterminate.issuance ≠ dispatch.authorized.issuance.issuance)
    (.BindingMismatch "indeterminate issuance")
  reject (indeterminate.attempt ≠ dispatch.custody.attempt) (.BindingMismatch "indeterminate attempt")

def validate_admissible_basis (value : AdmissibleBasisV1) : Except KernelErrorV1 Unit :=
  reject (value.standing.schema ≠ STANDING_RESOLUTION_SCHEMA_V2 ∨
      value.standing.key ≠ value.proposal.metadata.key ∨
      value.standing.observation ≠ value.proposal.observation.observation ∨
      value.standing.proposal ≠ value.proposal.proposal_ref ∨
      value.standing.subject ≠ value.proposal.proposal.subject ∨
      value.standing.scope ≠ value.proposal.proposal.scope ∨
      value.standing.status ≠ .Current ∨
      value.decision.key ≠ value.proposal.metadata.key ∨
      value.decision.observation ≠ value.proposal.observation.observation ∨
      value.decision.proposal ≠ value.proposal.proposal_ref ∨
      value.decision.standing_resolution ≠ value.standing.resolution ∨
      value.decision.disposition ≠ .Admitted)
    (.StateInvariant "admissible basis")

def validate_authorized (value : AuthorizationConsumedV1) : Except KernelErrorV1 Unit := do
  validate_admissible_basis value.admitted
  let expected_authorization := AgAuthorizationRefV1.for_basis sha value.admitted.proposal.metadata.key
    value.admitted.proposal.observation.observation value.admitted.proposal.proposal_ref
    value.admitted.standing.resolution
  reject (value.spend.authorization ≠ expected_authorization ∨
      value.spend.spend ≠ AgSpendRefV1.for_authorization sha expected_authorization ∨
      value.spend.key ≠ value.admitted.proposal.metadata.key ∨
      value.spend.observation ≠ value.admitted.proposal.observation.observation ∨
      value.spend.proposal ≠ value.admitted.proposal.proposal_ref ∨
      value.spend.standing_resolution ≠ value.admitted.standing.resolution ∨
      value.spend.admission_decision ≠ value.admitted.decision.decision)
    (.StateInvariant "AG authorization spend")
  reject (value.issuance ≠ build_issuance sha value.admitted value.spend.spend)
    (.StateInvariant "AG issuance")

/-- The checks every state with a recorded proposal passes. -/
def validate_proposal_basis (metadata : OccurrenceMetaV1) (basis : ProposalBasisV1) :
    Except KernelErrorV1 Unit := do
  basis.proposal.validate
  validate_observation_resolution_integrity sha basis.observation
  reject (basis.proposal.campaign ≠ metadata.key.campaign ∨ basis.observation.key ≠ metadata.key ∨
      basis.proposal_ref ≠ basis.proposal.reference sha ∨
      basis.observation.subject ≠ basis.proposal.subject ∨ basis.observation.is_current = false)
    (.StateInvariant "proposal basis")
  match basis.link with
  | .Initial => pure ()
  | .RetryOf prior | .SuccessorOf prior =>
    reject (prior = metadata.key ∨ prior.campaign ≠ metadata.key.campaign) (.StateInvariant "occurrence link")

/-- The checks of what one program-counter state carries. -/
def validate_payload : OccurrenceStateV1 → Except KernelErrorV1 Unit
  | .ObservationRequired value =>
    match value.prior with
    | some prior =>
      reject (prior.key = value.metadata.key ∨ prior.key.campaign ≠ value.metadata.key.campaign)
        (.StateInvariant "continuation prior")
    | none => pure ()
  | .AdmissiblePendingAuthorization value => validate_admissible_basis value
  | .AuthorizationConsumed value => validate_authorized sha value
  | .Dispatched value => do
    validate_authorized sha value.authorized
    validate_custody sha value.custody value.authorized
  | .ReconciliationRequired value => do
    validate_authorized sha value.dispatch.authorized
    validate_custody sha value.dispatch.custody value.dispatch.authorized
    validate_indeterminate value.indeterminate value.dispatch
  | .SettledObservationRequired value => do
    validate_authorized sha value.dispatch.authorized
    validate_custody sha value.dispatch.custody value.dispatch.authorized
    validate_settlement value.settlement value.dispatch
  | .Halted value => do
    reject (value.prior.key ≠ value.metadata.key) (.StateInvariant "halted prior key")
    reject (value.unresolved_attempt.isSome ≠ (value.source == .ReconciliationRequired))
      (.StateInvariant "halted unresolved attempt")
  | .Completed value =>
    reject (value.metadata.residuals.is_empty = false ∨
        value.terminal_observation.key ≠ value.metadata.key ∨
        value.terminal_observation.is_current = false)
      (.StateInvariant "completion clearance")
  | .ProposalRecorded _ | .StandingRequired _ => pure ()

def validate_state (state : OccurrenceStateV1) : Except KernelErrorV1 Unit := do
  reject (state.metadata.used_human_decisions.toFinset.card ≠ state.metadata.used_human_decisions.length)
    (.StateInvariant "duplicate consumed human decision")
  match state.proposal_basis with
  | some basis => validate_proposal_basis sha state.metadata basis
  | none => pure ()
  validate_payload sha state

end ag_campaign.governed

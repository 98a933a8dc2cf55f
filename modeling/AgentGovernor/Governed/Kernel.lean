import AgentGovernor.Governed.Admissibility

open ag_primitives Checked

namespace ag_campaign.governed

/-- Proposal classification at an observation-required boundary. -/
inductive ProposalClassV1 where
  | Initial
  | Retry
  | Successor
  deriving DecidableEq, Repr

def illegal (current : OccurrenceSnapshotV1) (operation : String) : KernelErrorV1 :=
  .IllegalTransition current.program_counter operation

/-- The last step of every operation: link the new state to `current` and
revalidate the result before handing it out. -/
def checked_successor (sha : Sha256) (current : OccurrenceSnapshotV1) (state : OccurrenceStateV1) :
    Except KernelErrorV1 OccurrenceSnapshotV1 := do
  let next := successor_snapshot sha current state
  next.validate_integrity sha
  pure next

def current_prior_basis (current : OccurrenceSnapshotV1) : PriorOccurrenceBasisV1 :=
  { key := current.key
    proposal := current.state.proposal_basis.map ProposalBasisV1.proposal_ref
    normalized_preconditions :=
      current.state.proposal_basis.map fun basis => basis.observation.normalized_preconditions
    state_digest := current.state_digest }

/-- The identity the first predecessor digest of a campaign is taken from. -/
structure Genesis where
  key : OccurrenceKeyV1
  program : ProgramBasisRefV1
  expected_work : Digest

def Genesis.serialize (value : Genesis) : Jcs :=
  .obj [("expected_work", to_jcs value.expected_work), ("key", to_jcs value.key),
    ("program", to_jcs value.program)]

instance : Serialize Genesis := ⟨Genesis.serialize⟩

namespace GovernedLoopKernelV1

variable (sha : Sha256) (current : OccurrenceSnapshotV1)

/-- Creates a new authority-empty initial occurrence. -/
def create_initial (campaign : CampaignId) (occurrence : OccurrenceId)
    (program : ProgramBasisRefV1) (expected_work : Digest) (residuals : ResidualSetV1)
    (budget : LoopBudgetV1) : Except KernelErrorV1 OccurrenceSnapshotV1 := do
  budget.validate
  let key : OccurrenceKeyV1 := { campaign, occurrence }
  let prior_state_digest := digest_value sha GENESIS_DIGEST_DOMAIN_V1
    ({ key, program, expected_work } : Genesis)
  let state := OccurrenceStateV1.ObservationRequired
    { metadata := { key, program, expected_work, residuals, budget, used_human_decisions := [] }
      prior := none }
  let snapshot : OccurrenceSnapshotV1 :=
    { prior_state_digest, state_digest := state_digest sha prior_state_digest state, state }
  snapshot.validate_integrity sha
  pure snapshot

/-- The link and coordinates a proposal of the given class is recorded with. -/
def classify_proposal (pending : ObservationRequiredV1) (proposal : ExactWorkProposalV1)
    (proposal_class : ProposalClassV1) (resolved : VersionedObservationResolutionV1) :
    Except KernelErrorV1 (OccurrenceLinkV1 × OccurrenceMetaV1) :=
  match pending.prior, proposal_class with
  | none, .Initial => pure (.Initial, pending.metadata)
  | none, _ => throw (.BindingMismatch "initial proposal class")
  | some _, .Initial => throw (.BindingMismatch "continuation proposal class")
  | some prior, .Retry => do
    reject (pending.metadata.key = prior.key) .OccurrenceReused
    reject (pending.metadata.budget.retry_available = false) (.BudgetExhausted "retry")
    reject (prior.proposal ≠ some (proposal.reference sha)) .RetryProposalChanged
    reject (prior.normalized_preconditions ≠ some resolved.normalized_preconditions)
      .RetryPreconditionsChanged
    let budget := { pending.metadata.budget with
      retries_used := saturating_add pending.metadata.budget.retries_used 1 }
    pure (.RetryOf prior.key, { pending.metadata with budget })
  | some prior, .Successor => do
    reject (pending.metadata.key = prior.key) .OccurrenceReused
    reject (prior.proposal = some (proposal.reference sha)) .SuccessorProposalReused
    pure (.SuccessorOf prior.key, pending.metadata)

/-- Records one exact proposal only after a live observation resolution. -/
def record_proposal (observation : ObservationRefV1)
    (proposal : ExactWorkProposalV1) (proposal_class : ProposalClassV1)
    (resolver : ObservationResolverV1) (expected_observation_resolver : String) (now_unix_ms : UInt64) :
    Except KernelErrorV1 OccurrenceSnapshotV1 := do
  current.validate_integrity sha
  match current.state with
  | .ObservationRequired pending => do
    proposal.validate
    reject (proposal.campaign ≠ pending.metadata.key.campaign) .OccurrenceMismatch
    -- the exact-work binding fails before any external resolution is consulted
    reject (proposal.work ≠ pending.metadata.expected_work) (.BindingMismatch "prepared exact work")
    let resolved ← resolve_observation sha resolver pending.metadata.key observation proposal.subject
      expected_observation_resolver now_unix_ms
    let (link, metadata) ← classify_proposal sha pending proposal proposal_class resolved
    checked_successor sha current (.ProposalRecorded
      { metadata := { metadata with residuals := pending.metadata.residuals }
        observation := resolved
        proposal
        proposal_ref := proposal.reference sha
        link })
  | _ => throw (illegal current "record_proposal")

/-- Advances a proposal to the explicit standing-required boundary. -/
def require_standing : Except KernelErrorV1 OccurrenceSnapshotV1 := do
  current.validate_integrity sha
  match current.state with
  | .ProposalRecorded proposal => checked_successor sha current (.StandingRequired proposal)
  | _ => throw (illegal current "require_standing")

/-- Re-resolves observation and current standing, then records AG's exact decision. -/
def record_admissible (premises : AdmissibilityPremises) : Except KernelErrorV1 OccurrenceSnapshotV1 := do
  current.validate_integrity sha
  match current.state with
  | .StandingRequired required => do
    let (observation, standing, decision) ← resolve_admissibility sha required premises
    checked_successor sha current (.AdmissiblePendingAuthorization
      { proposal := { required with observation }, standing, decision })
  | _ => throw (illegal current "record_admissible")

/-- The spent authorization an admitted basis gives rise to at `now_unix_ms`. -/
def authorize (admitted : AdmissibleBasisV1) (now_unix_ms : UInt64) : AuthorizationConsumedV1 :=
  let authorization := AgAuthorizationRefV1.for_basis sha admitted.proposal.metadata.key
    admitted.proposal.observation.observation admitted.proposal.proposal_ref admitted.standing.resolution
  let spend_ref := AgSpendRefV1.for_authorization sha authorization
  { admitted
    spend :=
      { authorization
        spend := spend_ref
        key := admitted.proposal.metadata.key
        observation := admitted.proposal.observation.observation
        proposal := admitted.proposal.proposal_ref
        standing_resolution := admitted.standing.resolution
        admission_decision := admitted.decision.decision
        consumed_at_unix_ms := now_unix_ms }
    issuance := build_issuance sha admitted spend_ref }

/-- Re-resolves all consequence-time premises and creates the one durable AG spend. -/
def consume_authorization (premises : AdmissibilityPremises) : Except KernelErrorV1 OccurrenceSnapshotV1 := do
  current.validate_integrity sha
  match current.state with
  | .AdmissiblePendingAuthorization pending => do
    let (observation, standing, decision) ← resolve_admissibility sha pending.proposal premises
    checked_successor sha current (.AuthorizationConsumed (authorize sha
      { proposal := { pending.proposal with observation }, standing, decision } premises.now_unix_ms))
  | _ => throw (illegal current "consume_authorization")

end GovernedLoopKernelV1

end ag_campaign.governed

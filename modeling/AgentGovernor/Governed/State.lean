import AgentGovernor.Governed.Budget
import AgentGovernor.Governed.Docket
import AgentGovernor.Governed.Standing

open ag_primitives Checked

namespace ag_campaign.governed

/-- Exact predecessor basis retained for continuation classification. -/
structure PriorOccurrenceBasisV1 where
  key : OccurrenceKeyV1
  proposal : Option ProposalRefV1
  normalized_preconditions : Option PreconditionBasisRefV1
  state_digest : Digest
  deriving DecidableEq, Repr

/-- Occurrence linkage; authority never travels through this record. -/
inductive OccurrenceLinkV1 where
  | Initial
  | RetryOf (prior : OccurrenceKeyV1)
  | SuccessorOf (prior : OccurrenceKeyV1)
  deriving DecidableEq, Repr

/-- Shared durable coordinates present in every program-counter state. The
source field `meta` is named `metadata` throughout. -/
@[ext]
structure OccurrenceMetaV1 where
  key : OccurrenceKeyV1
  program : ProgramBasisRefV1
  expected_work : Digest
  residuals : ResidualSetV1
  budget : LoopBudgetV1
  used_human_decisions : List HumanDecisionIdV1
  deriving DecidableEq

/-- State requiring a fresh observation and proposal. -/
structure ObservationRequiredV1 where
  metadata : OccurrenceMetaV1
  prior : Option PriorOccurrenceBasisV1
  deriving DecidableEq

/-- Exact fresh observation/proposal basis, containing no authority. -/
structure ProposalBasisV1 where
  metadata : OccurrenceMetaV1
  observation : VersionedObservationResolutionV1
  proposal : ExactWorkProposalV1
  proposal_ref : ProposalRefV1
  link : OccurrenceLinkV1
  deriving DecidableEq

/-- Positive decision basis; still contains no consumed AG authorization. -/
structure AdmissibleBasisV1 where
  proposal : ProposalBasisV1
  standing : CurrentStandingResolutionV2
  decision : AdmissionDecisionV1
  deriving DecidableEq

/-- Spent authorization state; only exact Docket custody or reconciliation is legal. -/
structure AuthorizationConsumedV1 where
  admitted : AdmissibleBasisV1
  spend : AgAuthorizationSpendV1
  issuance : AgIssuanceV1
  deriving DecidableEq

/-- Dispatch basis retained after Docket accepts custody. -/
structure DispatchBasisV1 where
  authorized : AuthorizationConsumedV1
  custody : DocketCustodyV1
  deriving DecidableEq

/-- State requiring exact read-only reconciliation. -/
structure ReconciliationRequiredV1 where
  dispatch : DispatchBasisV1
  indeterminate : IndeterminateOutcomeV1
  deriving DecidableEq

/-- State carrying an exact known settlement and requiring fresh observation. -/
structure SettledObservationRequiredV1 where
  dispatch : DispatchBasisV1
  settlement : DocketSettlementV1
  deriving DecidableEq

/-- Durable halted state; it has no effect-producing transition. -/
structure HaltedV1 where
  metadata : OccurrenceMetaV1
  source : ProgramCounterV1
  reason : HaltReasonRefV1
  prior : PriorOccurrenceBasisV1
  unresolved_attempt : Option DocketAttemptRefV1
  history : AuthorityHistoryV1
  deriving DecidableEq

/-- Durable completed state. -/
structure CompletedV1 where
  metadata : OccurrenceMetaV1
  terminal_observation : VersionedObservationResolutionV1
  terminal_witness : TerminalWitnessRefV1
  history : AuthorityHistoryV1
  deriving DecidableEq

/-- Closed typed state sum for one occurrence. The transparent one-field
wrappers of the source are written as the basis they wrap. -/
inductive OccurrenceStateV1 where
  | ObservationRequired (value : ObservationRequiredV1)
  | ProposalRecorded (value : ProposalBasisV1)
  | StandingRequired (value : ProposalBasisV1)
  | AdmissiblePendingAuthorization (value : AdmissibleBasisV1)
  | AuthorizationConsumed (value : AuthorizationConsumedV1)
  | Dispatched (value : DispatchBasisV1)
  | ReconciliationRequired (value : ReconciliationRequiredV1)
  | SettledObservationRequired (value : SettledObservationRequiredV1)
  | Halted (value : HaltedV1)
  | Completed (value : CompletedV1)
  deriving DecidableEq

namespace OccurrenceStateV1

/-- The program-counter discriminator. -/
def program_counter : OccurrenceStateV1 → ProgramCounterV1
  | .ObservationRequired _ => .ObservationRequired
  | .ProposalRecorded _ => .ProposalRecorded
  | .StandingRequired _ => .StandingRequired
  | .AdmissiblePendingAuthorization _ => .AdmissiblePendingAuthorization
  | .AuthorizationConsumed _ => .AuthorizationConsumed
  | .Dispatched _ => .Dispatched
  | .ReconciliationRequired _ => .ReconciliationRequired
  | .SettledObservationRequired _ => .SettledObservationRequired
  | .Halted _ => .Halted
  | .Completed _ => .Completed

/-- Shared exact coordinates. -/
def metadata : OccurrenceStateV1 → OccurrenceMetaV1
  | .ObservationRequired value => value.metadata
  | .ProposalRecorded value => value.metadata
  | .StandingRequired value => value.metadata
  | .AdmissiblePendingAuthorization value => value.proposal.metadata
  | .AuthorizationConsumed value => value.admitted.proposal.metadata
  | .Dispatched value => value.authorized.admitted.proposal.metadata
  | .ReconciliationRequired value => value.dispatch.authorized.admitted.proposal.metadata
  | .SettledObservationRequired value => value.dispatch.authorized.admitted.proposal.metadata
  | .Halted value => value.metadata
  | .Completed value => value.metadata

end OccurrenceStateV1

section SetMetadata

variable (metadata : OccurrenceMetaV1)

def ProposalBasisV1.set_metadata (value : ProposalBasisV1) : ProposalBasisV1 := { value with metadata }

def AdmissibleBasisV1.set_metadata (value : AdmissibleBasisV1) : AdmissibleBasisV1 :=
  { value with proposal := value.proposal.set_metadata metadata }

def AuthorizationConsumedV1.set_metadata (value : AuthorizationConsumedV1) : AuthorizationConsumedV1 :=
  { value with admitted := value.admitted.set_metadata metadata }

def DispatchBasisV1.set_metadata (value : DispatchBasisV1) : DispatchBasisV1 :=
  { value with authorized := value.authorized.set_metadata metadata }

/-- Assignment through `meta_mut`: the coordinates are replaced and everything
else is kept. -/
def OccurrenceStateV1.set_metadata : OccurrenceStateV1 → OccurrenceStateV1
  | .ObservationRequired value => .ObservationRequired { value with metadata }
  | .ProposalRecorded value => .ProposalRecorded (value.set_metadata metadata)
  | .StandingRequired value => .StandingRequired (value.set_metadata metadata)
  | .AdmissiblePendingAuthorization value =>
    .AdmissiblePendingAuthorization (value.set_metadata metadata)
  | .AuthorizationConsumed value => .AuthorizationConsumed (value.set_metadata metadata)
  | .Dispatched value => .Dispatched (value.set_metadata metadata)
  | .ReconciliationRequired value =>
    .ReconciliationRequired { value with dispatch := value.dispatch.set_metadata metadata }
  | .SettledObservationRequired value =>
    .SettledObservationRequired { value with dispatch := value.dispatch.set_metadata metadata }
  | .Halted value => .Halted { value with metadata }
  | .Completed value => .Completed { value with metadata }

end SetMetadata

namespace OccurrenceStateV1

@[simp] theorem set_metadata_metadata (metadata : OccurrenceMetaV1) (state : OccurrenceStateV1) :
    (state.set_metadata metadata).metadata = metadata := by
  cases state <;> rfl

@[simp] theorem set_metadata_program_counter (metadata : OccurrenceMetaV1) (state : OccurrenceStateV1) :
    (state.set_metadata metadata).program_counter = state.program_counter := by
  cases state <;> rfl

theorem set_metadata_self (state : OccurrenceStateV1) : state.set_metadata state.metadata = state := by
  cases state <;> rfl

theorem set_metadata_set_metadata (first second : OccurrenceMetaV1) (state : OccurrenceStateV1) :
    (state.set_metadata first).set_metadata second = state.set_metadata second := by
  cases state <;> rfl

/-- Retained authority history, all of which is evidence only. -/
def authority_history : OccurrenceStateV1 → AuthorityHistoryV1
  | .AuthorizationConsumed value =>
    { AuthorityHistoryV1.default with ag_spend := some value.spend.spend }
  | .Dispatched value =>
    { AuthorityHistoryV1.default with
      ag_spend := some value.authorized.spend.spend
      docket_attempt := some value.custody.attempt }
  | .ReconciliationRequired value =>
    { AuthorityHistoryV1.default with
      ag_spend := some value.dispatch.authorized.spend.spend
      docket_attempt := some value.dispatch.custody.attempt }
  | .SettledObservationRequired value =>
    { ag_spend := some value.dispatch.authorized.spend.spend
      docket_attempt := some value.dispatch.custody.attempt
      settlement := some value.settlement.settlement
      receipt := some value.settlement.receipt }
  | .Halted value => value.history
  | .Completed value => value.history
  | _ => .default

def proposal_basis : OccurrenceStateV1 → Option ProposalBasisV1
  | .ProposalRecorded value => some value
  | .StandingRequired value => some value
  | .AdmissiblePendingAuthorization value => some value.proposal
  | .AuthorizationConsumed value => some value.admitted.proposal
  | .Dispatched value => some value.authorized.admitted.proposal
  | .ReconciliationRequired value => some value.dispatch.authorized.admitted.proposal
  | .SettledObservationRequired value => some value.dispatch.authorized.admitted.proposal
  | _ => none

/-- A recorded proposal carries the coordinates of its state. -/
theorem proposal_basis_metadata {state : OccurrenceStateV1} {basis : ProposalBasisV1}
    (h : state.proposal_basis = some basis) : basis.metadata = state.metadata := by
  cases state <;> simp_all [proposal_basis, metadata]

end OccurrenceStateV1

end ag_campaign.governed

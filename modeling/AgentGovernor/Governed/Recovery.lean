import AgentGovernor.Governed.KernelHalt

open ag_primitives Checked

namespace ag_campaign.governed

/-- Docket-visible result when reconciling a consumed issuance. -/
inductive DocketIssuanceReconciliationV1 where
  | NotAccepted
  | Accepted (custody : DocketCustodyV1)
  | Settled (custody : DocketCustodyV1) (settlement : DocketSettlementV1)
  | Indeterminate (custody : DocketCustodyV1) (indeterminate : IndeterminateOutcomeV1)
  deriving DecidableEq

/-- Canonical recovery requirement derived solely from durable state. -/
inductive RecoveryRequirementV1 where
  | FreshObservation
  | FreshObservationAndStanding
  | CurrentStandingAndReadmission
  | ReconcileIssuance
  | ReconcileAttempt
  | ExternalDisposition
  | None
  deriving DecidableEq, Repr

namespace OccurrenceSnapshotV1

/-- The exact recorded proposal, when any. -/
def proposal (snapshot : OccurrenceSnapshotV1) : Option ExactWorkProposalV1 :=
  snapshot.state.proposal_basis.map ProposalBasisV1.proposal

/-- The exact indeterminate record, when reconciliation is required. -/
def indeterminate (snapshot : OccurrenceSnapshotV1) : Option IndeterminateOutcomeV1 :=
  match snapshot.state with
  | .ReconciliationRequired value => some value.indeterminate
  | _ => none

/-- Terminal completion details, when completed. -/
def completed (snapshot : OccurrenceSnapshotV1) : Option CompletedV1 :=
  match snapshot.state with
  | .Completed value => some value
  | _ => none

end OccurrenceSnapshotV1

namespace GovernedLoopKernelV1

/-- Derives the exact recovery action without reconstructing live authority. -/
def recovery_requirement (snapshot : OccurrenceSnapshotV1) : RecoveryRequirementV1 :=
  match snapshot.program_counter with
  | .ObservationRequired | .SettledObservationRequired => .FreshObservation
  | .ProposalRecorded | .StandingRequired => .FreshObservationAndStanding
  | .AdmissiblePendingAuthorization => .CurrentStandingAndReadmission
  | .AuthorizationConsumed => .ReconcileIssuance
  | .Dispatched | .ReconciliationRequired => .ReconcileAttempt
  | .Halted => .ExternalDisposition
  | .Completed => .None

end GovernedLoopKernelV1

end ag_campaign.governed

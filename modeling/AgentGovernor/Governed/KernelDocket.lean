import AgentGovernor.Governed.Kernel

open ag_primitives Checked

namespace ag_campaign.governed.GovernedLoopKernelV1

variable (sha : Sha256) (current : OccurrenceSnapshotV1)

/-- Records Docket's exact custody acceptance and canonical attempt. -/
def accept_docket_custody (custody : DocketCustodyV1) : Except KernelErrorV1 OccurrenceSnapshotV1 := do
  current.validate_integrity sha
  match current.state with
  | .AuthorizationConsumed authorized => do
    validate_custody sha custody authorized
    checked_successor sha current (.Dispatched { authorized, custody })
  | _ => throw (illegal current "accept_docket_custody")

/-- Records an exact known success/failure settlement and requires observation. -/
def record_settlement (settlement : DocketSettlementV1) : Except KernelErrorV1 OccurrenceSnapshotV1 := do
  current.validate_integrity sha
  match current.state with
  | .Dispatched dispatch => do
    validate_settlement settlement dispatch
    checked_successor sha current (.SettledObservationRequired { dispatch, settlement })
  | _ => throw (illegal current "record_settlement")

/-- Records an indeterminate outcome and closes every repeat/continuation path. -/
def require_reconciliation
    (indeterminate : IndeterminateOutcomeV1) : Except KernelErrorV1 OccurrenceSnapshotV1 := do
  current.validate_integrity sha
  match current.state with
  | .Dispatched dispatch => do
    validate_indeterminate indeterminate dispatch
    checked_successor sha current (.ReconciliationRequired { dispatch, indeterminate })
  | _ => throw (illegal current "require_reconciliation")

/-- Converts a recovered ambiguous dispatched state to explicit reconciliation. -/
def recover_dispatched : Except KernelErrorV1 OccurrenceSnapshotV1 :=
  match current.state with
  | .Dispatched dispatch =>
    let attempt := dispatch.custody.attempt
    require_reconciliation sha current
      { issuance := dispatch.authorized.issuance.issuance
        attempt
        reconciliation := .from_digest (digest_value sha "ag.governed-loop.recovery-reconciliation/v1"
          (current.state_digest, attempt))
        evidence := digest_value sha "ag.governed-loop.recovery-ambiguity/v1"
          (current.state_digest, attempt) }
  | _ => throw (illegal current "recover_dispatched")

/-- Records a known result returned by exact read-only reconciliation. -/
def record_reconciled_settlement
    (settlement : DocketSettlementV1) : Except KernelErrorV1 OccurrenceSnapshotV1 := do
  current.validate_integrity sha
  match current.state with
  | .ReconciliationRequired reconciling => do
    validate_settlement settlement reconciling.dispatch
    checked_successor sha current
      (.SettledObservationRequired { dispatch := reconciling.dispatch, settlement })
  | _ => throw (illegal current "record_reconciled_settlement")

/-- The occurrence opened after an exact settlement. -/
def continuation_of (current : OccurrenceSnapshotV1) (settled : SettledObservationRequiredV1)
    (occurrence : OccurrenceId) (expected_work : Digest) : ObservationRequiredV1 :=
  let proposal := settled.dispatch.authorized.admitted.proposal
  let old := proposal.metadata
  { metadata :=
      { key := { campaign := old.key.campaign, occurrence }
        program := old.program
        expected_work
        residuals := old.residuals
        budget := old.budget
        used_human_decisions := old.used_human_decisions }
    prior := some
      { key := old.key
        proposal := some proposal.proposal_ref
        normalized_preconditions := some proposal.observation.normalized_preconditions
        state_digest := current.state_digest } }

/-- Opens an authority-empty continuation occurrence after exact settlement. -/
def open_continuation (occurrence : OccurrenceId)
    (expected_work : Digest) : Except KernelErrorV1 OccurrenceSnapshotV1 := do
  current.validate_integrity sha
  match current.state with
  | .SettledObservationRequired settled => do
    reject (occurrence = settled.dispatch.authorized.admitted.proposal.metadata.key.occurrence)
      .OccurrenceReused
    checked_successor sha current
      (.ObservationRequired (continuation_of current settled occurrence expected_work))
  | _ => throw (illegal current "open_continuation")

/-- The coordinates after one more probe. -/
def probed (metadata : OccurrenceMetaV1) : OccurrenceMetaV1 :=
  { metadata with
    budget := { metadata.budget with probes_used := saturating_add metadata.budget.probes_used 1 } }

/-- Records one read-only probe request as a non-authorizing durable fact. -/
def note_probe : Except KernelErrorV1 OccurrenceSnapshotV1 := do
  current.validate_integrity sha
  reject (¬ (current.program_counter = .SettledObservationRequired ∨
      current.program_counter = .ObservationRequired)) (illegal current "note_probe")
  reject (current.state.metadata.budget.probe_available = false) (.BudgetExhausted "probe")
  checked_successor sha current (current.state.set_metadata (probed current.state.metadata))

end ag_campaign.governed.GovernedLoopKernelV1

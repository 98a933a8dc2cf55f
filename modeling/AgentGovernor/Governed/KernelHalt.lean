import AgentGovernor.Governed.KernelDocket

open ag_primitives Checked

namespace ag_campaign.governed

def is_safe_halt_source : ProgramCounterV1 → Bool
  | .ObservationRequired | .ProposalRecorded | .StandingRequired | .AdmissiblePendingAuthorization
  | .ReconciliationRequired | .SettledObservationRequired => true
  | .AuthorizationConsumed | .Dispatched | .Halted | .Completed => false

/-- The attempt a halt leaves unresolved. -/
def unresolved_attempt_of : OccurrenceStateV1 → Option DocketAttemptRefV1
  | .ReconciliationRequired value => some value.dispatch.custody.attempt
  | _ => none

namespace GovernedLoopKernelV1

/-- The halted state of `current` under the given coordinates. -/
def halted_from (current : OccurrenceSnapshotV1) (metadata : OccurrenceMetaV1)
    (reason : HaltReasonRefV1) : HaltedV1 :=
  { metadata
    source := current.program_counter
    reason
    prior := current_prior_basis current
    unresolved_attempt := unresolved_attempt_of current.state
    history := current.state.authority_history }

variable (sha : Sha256) (current : OccurrenceSnapshotV1)

/-- Halts from an authority-safe boundary; dispatched first requires reconciliation. -/
def halt (reason : HaltReasonRefV1) : Except KernelErrorV1 OccurrenceSnapshotV1 := do
  current.validate_integrity sha
  reject (is_safe_halt_source current.program_counter = false) (illegal current "halt")
  checked_successor sha current (.Halted (halted_from current current.state.metadata reason))

/-- The coordinates after one more escalation. -/
def escalated (metadata : OccurrenceMetaV1) : OccurrenceMetaV1 :=
  { metadata with
    budget := { metadata.budget with
      escalations_used := saturating_add metadata.budget.escalations_used 1 } }

/-- Records one bounded escalation and halts; the count is fact, not authority. -/
def escalate (reason : HaltReasonRefV1) : Except KernelErrorV1 OccurrenceSnapshotV1 := do
  current.validate_integrity sha
  reject (current.state.metadata.budget.escalation_available = false) (.BudgetExhausted "escalation")
  reject (is_safe_halt_source current.program_counter = false) (illegal current "escalate")
  checked_successor sha current (.Halted (halted_from current (escalated current.state.metadata) reason))

/-- Completes directly from observation-required on a fresh terminal observation. -/
def complete_from_observation
    (observation : ObservationRefV1) (subject : Digest) (terminal_witness : TerminalWitnessRefV1)
    (resolver : ObservationResolverV1) (expected_observation_resolver : String) (now_unix_ms : UInt64) :
    Except KernelErrorV1 OccurrenceSnapshotV1 := do
  current.validate_integrity sha
  match current.state with
  | .ObservationRequired pending => do
    reject (pending.metadata.residuals.is_empty = false) .ResidualsOpen
    let terminal ← resolve_observation sha resolver pending.metadata.key observation subject
      expected_observation_resolver now_unix_ms
    checked_successor sha current (.Completed
      { metadata := pending.metadata
        terminal_observation := terminal
        terminal_witness
        history := current.state.authority_history })
  | _ => throw (illegal current "complete_from_observation")

end GovernedLoopKernelV1

end ag_campaign.governed

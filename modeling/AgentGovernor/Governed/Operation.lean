import AgentGovernor.Governed.HumanEffect
import AgentGovernor.Governed.Intervention

open ag_primitives Checked

namespace ag_campaign.governed

/-- One call of the kernel on the latest snapshot, with its arguments and the
external boundaries that answer it. -/
inductive KernelOp where
  | record_proposal (observation : ObservationRefV1) (proposal : ExactWorkProposalV1)
    (proposal_class : ProposalClassV1) (resolver : ObservationResolverV1)
    (expected_observation_resolver : String) (now_unix_ms : UInt64)
  | require_standing
  | record_admissible (premises : AdmissibilityPremises)
  | consume_authorization (premises : AdmissibilityPremises)
  | accept_docket_custody (custody : DocketCustodyV1)
  | record_settlement (settlement : DocketSettlementV1)
  | require_reconciliation (indeterminate : IndeterminateOutcomeV1)
  | recover_dispatched
  | record_reconciled_settlement (settlement : DocketSettlementV1)
  | open_continuation (occurrence : OccurrenceId) (expected_work : Digest)
  | note_probe
  | halt (reason : HaltReasonRefV1)
  | escalate (reason : HaltReasonRefV1)
  | complete_from_observation (observation : ObservationRefV1) (subject : Digest)
    (terminal_witness : TerminalWitnessRefV1) (resolver : ObservationResolverV1)
    (expected_observation_resolver : String) (now_unix_ms : UInt64)
  | apply_verified_governed_intervention (verified : VerifiedGovernedInterventionV1)
  | apply_human_disposition (artifact : HumanDispositionV1) (expected_scope : HumanAuthorityScopeV1)
    (new_occurrence : Option OccurrenceId) (observation_resolver : ObservationResolverV1)
    (expected_observation_resolver : String) (verifier : HumanDispositionVerifierV1)
    (now_unix_ms : UInt64)

/-- The snapshots an intervention adds: a reconciliation permission adds none. -/
def GovernedInterventionEffectV1.snapshots : GovernedInterventionEffectV1 → List OccurrenceSnapshotV1
  | .Reconcile _ => []
  | .Transition successor _ => [successor]

/-- The snapshots a disposition adds, in the order they follow each other. -/
def HumanDispositionEffectV1.snapshots : HumanDispositionEffectV1 → List OccurrenceSnapshotV1
  | .Updated snapshot _ => [snapshot]
  | .OpenedOccurrence halted successor _ => [halted, successor]

namespace KernelOp

open GovernedLoopKernelV1

/-- The snapshots one successful call adds after `current`. -/
def apply (sha : Sha256) (op : KernelOp) (current : OccurrenceSnapshotV1) :
    Except KernelErrorV1 (List OccurrenceSnapshotV1) :=
  match op with
  | record_proposal observation proposal proposal_class resolver expected now =>
    ([·]) <$> GovernedLoopKernelV1.record_proposal sha current observation proposal proposal_class
      resolver expected now
  | require_standing => ([·]) <$> GovernedLoopKernelV1.require_standing sha current
  | record_admissible premises => ([·]) <$> GovernedLoopKernelV1.record_admissible sha current premises
  | consume_authorization premises =>
    ([·]) <$> GovernedLoopKernelV1.consume_authorization sha current premises
  | accept_docket_custody custody =>
    ([·]) <$> GovernedLoopKernelV1.accept_docket_custody sha current custody
  | record_settlement settlement =>
    ([·]) <$> GovernedLoopKernelV1.record_settlement sha current settlement
  | require_reconciliation indeterminate =>
    ([·]) <$> GovernedLoopKernelV1.require_reconciliation sha current indeterminate
  | recover_dispatched => ([·]) <$> GovernedLoopKernelV1.recover_dispatched sha current
  | record_reconciled_settlement settlement =>
    ([·]) <$> GovernedLoopKernelV1.record_reconciled_settlement sha current settlement
  | open_continuation occurrence expected_work =>
    ([·]) <$> GovernedLoopKernelV1.open_continuation sha current occurrence expected_work
  | note_probe => ([·]) <$> GovernedLoopKernelV1.note_probe sha current
  | halt reason => ([·]) <$> GovernedLoopKernelV1.halt sha current reason
  | escalate reason => ([·]) <$> GovernedLoopKernelV1.escalate sha current reason
  | complete_from_observation observation subject terminal_witness resolver expected now =>
    ([·]) <$> GovernedLoopKernelV1.complete_from_observation sha current observation subject
      terminal_witness resolver expected now
  | apply_verified_governed_intervention verified =>
    GovernedInterventionEffectV1.snapshots <$>
      GovernedLoopKernelV1.apply_verified_governed_intervention sha current verified
  | apply_human_disposition artifact scope new_occurrence resolver expected verifier now =>
    HumanDispositionEffectV1.snapshots <$>
      GovernedLoopKernelV1.apply_human_disposition sha current artifact scope new_occurrence resolver
        expected verifier now

/-- The plain operation an authenticated intervention selects. -/
def effective : KernelOp → KernelOp
  | apply_verified_governed_intervention verified =>
    match verified.request.intervention with
    | .RequestProbe _ _ => note_probe
    | .OpenSuccessor successor_occurrence exact_work => open_continuation successor_occurrence exact_work
    | .HaltContinuation reason => halt reason
    | .ReconcileAttempt _ _ _ => apply_verified_governed_intervention verified
  | op => op

end KernelOp

/-- A call that returned gives its snapshots. -/
theorem applied {A : Type} {call : Except KernelErrorV1 A} {value : A} {snapshots : A → List OccurrenceSnapshotV1}
    (h : call = .ok value) : snapshots <$> call = .ok (snapshots value) := by
  rw [h]
  rfl

end ag_campaign.governed

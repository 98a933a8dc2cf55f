import AgentGovernor.Governed.Human
import AgentGovernor.Governed.LegalSuccessor
import AgentGovernor.Store.Transition

open ag_primitives Checked ag_campaign ag_campaign.governed

namespace ag_store

/-- The name a program counter is printed under. -/
def debug_name : ProgramCounterV1 → String
  | .ObservationRequired => "ObservationRequired"
  | .ProposalRecorded => "ProposalRecorded"
  | .StandingRequired => "StandingRequired"
  | .AdmissiblePendingAuthorization => "AdmissiblePendingAuthorization"
  | .AuthorizationConsumed => "AuthorizationConsumed"
  | .Dispatched => "Dispatched"
  | .ReconciliationRequired => "ReconciliationRequired"
  | .SettledObservationRequired => "SettledObservationRequired"
  | .Halted => "Halted"
  | .Completed => "Completed"

/-- Whether a kind describes a pair of snapshots. A halt is recognised by its
target alone. -/
def CampaignTransitionKindV1.valid (kind : CampaignTransitionKindV1) (source target : OccurrenceSnapshotV1) :
    Bool :=
  let pair := (source.program_counter, target.program_counter)
  match kind with
  | .CampaignCreated => false
  | .ProposalRecorded => pair = (.ObservationRequired, .ProposalRecorded)
  | .StandingRequired => pair = (.ProposalRecorded, .StandingRequired)
  | .Admissible => pair = (.StandingRequired, .AdmissiblePendingAuthorization)
  | .AuthorizationConsumed => pair = (.AdmissiblePendingAuthorization, .AuthorizationConsumed)
  | .DocketCustodyAccepted => pair = (.AuthorizationConsumed, .Dispatched)
  | .SettlementRecorded => pair = (.Dispatched, .SettledObservationRequired)
  | .ReconciliationRequired | .RecoveryReconciliation => pair = (.Dispatched, .ReconciliationRequired)
  | .ReconciledSettlement => pair = (.ReconciliationRequired, .SettledObservationRequired)
  | .ContinuationOpened =>
    pair = (.SettledObservationRequired, .ObservationRequired) ∧ source.key ≠ target.key
  | .ProbeNoted =>
    (pair = (.ObservationRequired, .ObservationRequired) ∨
      pair = (.SettledObservationRequired, .SettledObservationRequired)) ∧ source.key = target.key
  | .Halted | .Escalated => target.program_counter = .Halted
  | .HumanDisposition =>
    source.program_counter = .Halted ∧ (target.program_counter = .Halted ∨
      target.program_counter = .ObservationRequired ∨ target.program_counter = .Completed)
  | .Completed => pair = (.ObservationRequired, .Completed)

def validate_transition_kind (source target : OccurrenceSnapshotV1) (kind : CampaignTransitionKindV1) :
    Except CampaignStoreErrorV1 Unit :=
  reject (kind.valid source target = false)
    (.Corrupt ("transition kind " ++ kind.as_str ++ " does not describe " ++
      debug_name source.program_counter ++ "->" ++ debug_name target.program_counter))

variable {kind : CampaignTransitionKindV1} {source target : OccurrenceSnapshotV1}

theorem validate_transition_kind_eq_ok_iff :
    validate_transition_kind source target kind = .ok () ↔ kind.valid source target = true := by
  rw [validate_transition_kind, reject_eq_ok_iff, Bool.not_eq_false]

/-- A sequence of identities without repetition, as a set. -/
def unique (values : List ResidualIdV1) : Except CampaignStoreErrorV1 (Finset ResidualIdV1) :=
  ok_or (if values.toFinset.card = values.length then some values.toFinset else none) .BindingMismatch

def validate_residual_disposition (source target : OccurrenceSnapshotV1) (artifact : HumanDispositionV1)
    (discharge : ExactResidualDischargeV1) : Except CampaignStoreErrorV1 Unit := do
  reject (target.program_counter ≠ .Halted ∨ discharge.campaign ≠ source.key.campaign ∨
      discharge.occurrence ≠ source.key.occurrence ∨ discharge.program ≠ source.state.metadata.program ∨
      discharge.disposition ≠ artifact.decision) .BindingMismatch
  let before ← unique discharge.before
  let authorized ← unique discharge.authorized
  let closed ← unique discharge.closed
  let after ← unique discharge.after
  reject (before ≠ source.state.metadata.residuals.ids ∨ authorized ≠ closed ∨ ¬ Disjoint closed after ∨
      before ≠ closed ∪ after ∨ after ≠ target.state.metadata.residuals.ids) .BindingMismatch

/-- The program a second half of a disposition opens its occurrence under. -/
def reopened_program (source : OccurrenceSnapshotV1) (artifact : HumanDispositionV1) :
    Except CampaignStoreErrorV1 ProgramBasisRefV1 :=
  match artifact.disposition with
  | .ReturnToObservation => .ok source.state.metadata.program
  | .ReplaceProgram program => .ok program
  | _ => .error .BindingMismatch

def validate_human_transition_evidence (source target : OccurrenceSnapshotV1)
    (artifact : HumanDispositionV1) : Except CampaignStoreErrorV1 Unit := do
  reject (source.program_counter ≠ .Halted) .BindingMismatch
  reject (artifact.halted_state_digest ≠ source.state_digest ∧
      ¬ (artifact.halted_state_digest = source.prior_state_digest ∧
        target.program_counter = .ObservationRequired)) .BindingMismatch
  if artifact.halted_state_digest = source.state_digest then
    match artifact.disposition with
    | .ReturnToObservation | .ReplaceProgram _ =>
      reject (target.program_counter ≠ .Halted ∨
        target.state.metadata.program ≠ source.state.metadata.program ∨
        target.state.metadata.residuals ≠ source.state.metadata.residuals) .BindingMismatch
    | .ExactResidualDisposition discharge => validate_residual_disposition source target artifact discharge
    | .Terminate _ _ _ =>
      reject (target.program_counter ≠ .Completed ∨ source.state.metadata.residuals.is_empty = false)
        .BindingMismatch
  else do
    let expected_program ← reopened_program source artifact
    reject (target.state.metadata.program ≠ expected_program ∨
      target.state.metadata.residuals ≠ source.state.metadata.residuals ∨
      source.state.metadata.used_human_decisions.getLast? ≠ some artifact.decision) .BindingMismatch

/-- What a disposition must be bound to before it is written. -/
def validate_human_store_binding (sha : Sha256) (expected first : OccurrenceSnapshotV1)
    (second : Option OccurrenceSnapshotV1) (artifact : HumanDispositionV1) :
    Except CampaignStoreErrorV1 Unit := do
  map_err (GovernedLoopKernelV1.validate_successor sha expected first) .Kernel
  reject (artifact.campaign ≠ expected.key.campaign ∨ artifact.occurrence ≠ expected.key.occurrence ∨
      artifact.halted_state_digest ≠ expected.state_digest) .BindingMismatch
  let before := expected.state.metadata.used_human_decisions
  let after := first.state.metadata.used_human_decisions
  reject (after.length ≠ before.length + 1 ∨ ¬ before <+: after ∨
      after.getLast? ≠ some artifact.decision) .HumanDispositionReplay
  validate_human_transition_evidence expected first artifact
  match artifact.disposition, second with
  | .ReturnToObservation, some successor | .ReplaceProgram _, some successor => do
    reject (first.program_counter ≠ .Halted ∨ successor.program_counter ≠ .ObservationRequired)
      .BindingMismatch
    map_err (GovernedLoopKernelV1.validate_successor sha first successor) .Kernel
    validate_human_transition_evidence first successor artifact
  | .ExactResidualDisposition _, none => reject (first.program_counter ≠ .Halted) .BindingMismatch
  | .Terminate _ _ _, none => reject (first.program_counter ≠ .Completed) .BindingMismatch
  | _, _ => throw .BindingMismatch

/-- Whether an intervention class describes a transition. -/
def GovernedInterventionClassV1.exact (intervention : GovernedInterventionClassV1)
    (source target : OccurrenceSnapshotV1) (kind : CampaignTransitionKindV1) : Bool :=
  match intervention with
  | .RequestProbe _ _ =>
    kind = .ProbeNoted ∧ source.key = target.key ∧ target.program_counter = source.program_counter
  | .OpenSuccessor successor_occurrence exact_work =>
    kind = .ContinuationOpened ∧ target.key.occurrence = successor_occurrence ∧
      target.state.metadata.expected_work = exact_work ∧ target.program_counter = .ObservationRequired
  | .HaltContinuation _ => kind = .Halted ∧ target.program_counter = .Halted
  | .ReconcileAttempt issuance attempt _ =>
    (kind = .ReconciledSettlement ∧ source.program_counter = .ReconciliationRequired) ∧
      (source.docket_custody.any fun custody => custody.issuance = issuance ∧ custody.attempt = attempt) ∧
      target.program_counter = .SettledObservationRequired

def validate_governed_intervention_evidence (sha : Sha256) (source target : OccurrenceSnapshotV1)
    (kind : CampaignTransitionKindV1) (verified : VerifiedGovernedInterventionV1) :
    Except CampaignStoreErrorV1 Unit := do
  map_err (verified.request.validate_integrity sha) .Kernel
  reject (verified.request.campaign ≠ source.key.campaign ∨
      verified.request.occurrence ≠ source.key.occurrence ∨
      verified.request.target_state_digest ≠ source.state_digest) .BindingMismatch
  reject (GovernedInterventionClassV1.exact verified.request.intervention source target kind = false)
    (.Corrupt "governed intervention evidence does not match transition")

/-- The evidence check of a replayed transition. -/
def validate_replayed_evidence (sha : Sha256) (source target : OccurrenceSnapshotV1)
    (kind : CampaignTransitionKindV1) (evidence : CampaignTransitionEvidenceV1) :
    Except CampaignStoreErrorV1 Unit :=
  match kind, evidence with
  | .HumanDisposition, .HumanDisposition artifact _ => do
    reject (artifact.campaign ≠ source.key.campaign) (.Corrupt "human evidence campaign mismatch")
    reject (artifact.halted_state_digest ≠ source.state_digest ∧
        ¬ (artifact.halted_state_digest = source.prior_state_digest ∧ source.program_counter = .Halted ∧
          target.program_counter = .ObservationRequired))
      (.Corrupt "human evidence halted digest mismatch")
    validate_human_transition_evidence source target artifact
  | .HumanDisposition, _ => throw (.Corrupt "human transition lacks exact disposition evidence")
  | _, .GovernedIntervention verified =>
    validate_governed_intervention_evidence sha source target kind verified
  | _, .None => pure ()
  | _, _ => throw (.Corrupt "transition carries incompatible special evidence")

/-- Only a disposition needs evidence of its own. -/
theorem validate_replayed_evidence_none {sha : Sha256} (hkind : kind ≠ .HumanDisposition) :
    validate_replayed_evidence sha source target kind .None = .ok () := by
  cases kind with
  | HumanDisposition => exact absurd rfl hkind
  | _ => rfl

/-- A refusal may describe a foreign target. Its evidence is the exact request. -/
def validate_refusal_intervention_binding (sha : Sha256) (refusal : RefusalOutcomeV1) :
    Except CampaignStoreErrorV1 Unit :=
  match refusal.governed_intervention with
  | some verified => do
    map_err (verified.request.validate_integrity sha) CampaignStoreErrorV1.Kernel
    reject (refusal.evidence ≠ some verified.request.request.as_digest) .BindingMismatch
  | none => pure ()

end ag_store

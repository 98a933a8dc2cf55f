import AgentGovernor.Engine.Operations

open ag_primitives Checked ag_campaign ag_campaign.governed ag_store Effects

namespace ag_app.governed_loop

/-- Exact result of polling/reconciling Docket. -/
inductive DocketProgressV1 where
  | Pending
  | Settled (snapshot : OccurrenceSnapshotV1)
  | ReconciliationRequired (snapshot : OccurrenceSnapshotV1)

/-- Exact restart/recovery result. -/
inductive CampaignRecoveryV1 where
  | ExternalRevalidation (requirement : RecoveryRequirementV1)
  | IssuanceNotAccepted (issuance : AgIssuanceV1)
  | Advanced (snapshot : OccurrenceSnapshotV1)

/-- What a decision pass takes beside its catalog and plan. -/
structure DecisionInputs where
  observation : ObservationResolverV1
  standing : StandingResolverV1
  controlling_review : Option C1RejectedReviewBasisV1
  expected_observation_resolver : String
  expected_standing_resolver : String
  max_standing_ttl_ms : UInt64
  now_unix_ms : UInt64

def DecisionInputs.premises (inputs : DecisionInputs) (decider : AdmissibilityDeciderV1) :
    AdmissibilityPremises :=
  { observation_resolver := inputs.observation
    standing_resolver := inputs.standing
    decider
    controlling_rejected_review := inputs.controlling_review
    expected_observation_resolver := inputs.expected_observation_resolver
    expected_standing_resolver := inputs.expected_standing_resolver
    max_standing_ttl_ms := inputs.max_standing_ttl_ms
    now_unix_ms := inputs.now_unix_ms }

/-- The code an intervention that the kernel refused is recorded under. -/
def intervention_refusal_code : KernelErrorV1 → RefusalCodeV1
  | .BudgetExhausted _ => .BudgetExhausted
  | .Intervention reason =>
    if reason ∈ ["wrong campaign", "wrong occurrence", "stale target state", "wrong issuance", "wrong attempt"]
    then .InterventionBindingMismatch else .InterventionNotApplicable
  | .OccurrenceMismatch | .BindingMismatch _ => .InterventionBindingMismatch
  | _ => .InterventionNotApplicable

/-- The transition kind of an intervention that advances the state. -/
def intervention_kind : GovernedInterventionClassV1 → Except KernelErrorV1 CampaignTransitionKindV1
  | .RequestProbe _ _ => .ok .ProbeNoted
  | .OpenSuccessor _ _ => .ok .ContinuationOpened
  | .HaltContinuation _ => .ok .Halted
  | .ReconcileAttempt _ _ _ => .error (.Intervention "reconciliation requires the read-only Docket path")

namespace CampaignEngineV1

open Engine

/-- Creates one campaign with one authority-empty occurrence, whose runtime profile, if
any, is committed in the same transaction. -/
def create_with_runtime_profile (sha : Sha256) (campaign : CampaignId) (occurrence : OccurrenceId)
    (program : ProgramBasisRefV1) (expected_work : Digest) (residuals : ResidualSetV1) (budget : LoopBudgetV1)
    (runtime_profile : Option (String × Jcs)) (now_unix_ms : UInt64) : Except CampaignEngineErrorV1 Db := do
  let initial ← map_err (GovernedLoopKernelV1.create_initial sha campaign occurrence program expected_work
    residuals budget) CampaignEngineErrorV1.Kernel
  map_err (CampaignStoreV1.create_with_runtime_profile sha initial runtime_profile now_unix_ms)
    CampaignEngineErrorV1.Store

section Methods

variable (sha : Sha256)

/-- The end of every method that makes one transition: the successor the kernel gave is
committed against the snapshot it was computed from. -/
def commit_successor (current : OccurrenceSnapshotV1) (result : Except KernelErrorV1 OccurrenceSnapshotV1)
    (kind : CampaignTransitionKindV1) (now_unix_ms : UInt64) : Engine OccurrenceSnapshotV1 := do
  let successor ← kernel result
  let _ ← call (.commit current successor kind now_unix_ms)
  pure successor

def halt_for_exhausted_budget (current : OccurrenceSnapshotV1) (budget : String) (now_unix_ms : UInt64) :
    Engine OccurrenceSnapshotV1 :=
  let reason := Digest.hash_domain sha "ag.governed-loop.budget-exhausted/v1"
    (.jcs (.arr [.str "ag.governed-loop.budget-exhausted/v1", to_jcs current.key,
      to_jcs current.state_digest, to_jcs budget]))
  commit_successor current (GovernedLoopKernelV1.halt sha current (.from_digest reason)) .Halted now_unix_ms

/-- A transition that is charged to a budget halts the campaign when the budget is
exhausted. -/
def commit_or_halt (current : OccurrenceSnapshotV1) (result : Except KernelErrorV1 OccurrenceSnapshotV1)
    (budget : String) (kind : CampaignTransitionKindV1) (now_unix_ms : UInt64) :
    Engine OccurrenceSnapshotV1 :=
  if result = .error (.BudgetExhausted budget) then halt_for_exhausted_budget sha current budget now_unix_ms
  else commit_successor current result kind now_unix_ms

/-- Records a fresh observation plus exact proposal. -/
def record_proposal (observation : ObservationRefV1) (proposal : ExactWorkProposalV1)
    (proposal_class : ProposalClassV1) (resolver : ObservationResolverV1)
    (expected_observation_resolver : String) (now_unix_ms : UInt64) : Engine OccurrenceSnapshotV1 := do
  let current ← current
  consult [.Observation]
  commit_or_halt sha current
    (GovernedLoopKernelV1.record_proposal sha current observation proposal proposal_class resolver
      expected_observation_resolver now_unix_ms) "retry" .ProposalRecorded now_unix_ms

/-- Enters the explicit standing-required state. -/
def require_standing (now_unix_ms : UInt64) : Engine OccurrenceSnapshotV1 := do
  let current ← current
  commit_successor current (GovernedLoopKernelV1.require_standing sha current) .StandingRequired now_unix_ms

/-- A presented plan must name this campaign's genesis-bound profile and be exactly the
governed work. -/
def check_plan_binding (plan : ExactPlanWitnessV1) (work : Digest) : Engine Unit := do
  let stored ← runtime_profile
  let profile ← lift (ok_or stored .PlanWitnessMismatch)
  lift (reject (profile.digest ≠ plan.runtime_profile ∨ plan.work ≠ work) .PlanWitnessMismatch)

/-- A plan is checked only when one is presented. -/
def check_presented_plan (plan : Option ExactPlanWitnessV1) (work : Digest) : Engine Unit :=
  match plan with
  | some plan => check_plan_binding plan work
  | none => pure ()

/-- Exact-plan gate for a recorded proposal under a v2 catalog. -/
def check_proposal_plan (current : OccurrenceSnapshotV1) (catalog : ExactWorkCatalogV2)
    (plan : Option ExactPlanWitnessV1) : Engine Unit :=
  match current.proposal with
  | none => pure ()
  | some proposal => do
    check_presented_plan plan proposal.work
    match catalog.entries[proposal.work_schema]? with
    | some entry => lift (entry.admits_plan proposal.work plan)
    | none => pure ()

/-- Resolves the premises of a decision pass and commits what the kernel makes of them. -/
def commit_resolved
    (operation : Sha256 → OccurrenceSnapshotV1 → AdmissibilityPremises → Except KernelErrorV1 OccurrenceSnapshotV1)
    (kind : CampaignTransitionKindV1) (current : OccurrenceSnapshotV1) (decider : AdmissibilityDeciderV1)
    (inputs : DecisionInputs) : Engine OccurrenceSnapshotV1 := do
  consult [.Observation, .Standing]
  commit_successor current (operation sha current (inputs.premises decider)) kind inputs.now_unix_ms

/-- Resolves observation/current standing and records a positive AG decision. -/
def decide (catalog : ExactWorkCatalogV1) (inputs : DecisionInputs) : Engine OccurrenceSnapshotV1 := do
  let current ← current
  let decider ← lift (CatalogAdmissibilityDeciderV1.new sha catalog)
  commit_resolved sha GovernedLoopKernelV1.record_admissible .Admissible current decider inputs

/-- The same under an explicit exact-basis v2 catalog and the exact presented plan. -/
def decide_with_catalog_v2_and_plan (catalog : ExactWorkCatalogV2) (plan : Option ExactPlanWitnessV1)
    (inputs : DecisionInputs) : Engine OccurrenceSnapshotV1 := do
  let current ← current
  check_proposal_plan current catalog plan
  let decider ← lift (CatalogAdmissibilityDeciderV2.with_plan sha catalog plan)
  commit_resolved sha GovernedLoopKernelV1.record_admissible .Admissible current decider inputs

/-- Dispatches decision evaluation to the catalog generation. The frozen v1 catalog pins
no plans and ignores the presented one. -/
def decide_versioned_with_plan (catalog : VersionedExactWorkCatalogV1) (plan : Option ExactPlanWitnessV1)
    (inputs : DecisionInputs) : Engine OccurrenceSnapshotV1 :=
  match catalog with
  | .NightshiftV1 catalog => decide sha catalog inputs
  | .ExactBasisV2 catalog => decide_with_catalog_v2_and_plan sha catalog plan inputs

/-- Re-resolves all current premises and durably spends the one AG authorization. -/
def authorize (catalog : ExactWorkCatalogV1) (inputs : DecisionInputs) : Engine OccurrenceSnapshotV1 := do
  let current ← current
  let decider ← lift (CatalogAdmissibilityDeciderV1.new sha catalog)
  commit_resolved sha GovernedLoopKernelV1.consume_authorization .AuthorizationConsumed current decider inputs

/-- The same under an explicit exact-basis v2 catalog and the exact presented plan. -/
def authorize_with_catalog_v2_and_plan (catalog : ExactWorkCatalogV2) (plan : Option ExactPlanWitnessV1)
    (inputs : DecisionInputs) : Engine OccurrenceSnapshotV1 := do
  let current ← current
  check_proposal_plan current catalog plan
  let decider ← lift (CatalogAdmissibilityDeciderV2.with_plan sha catalog plan)
  commit_resolved sha GovernedLoopKernelV1.consume_authorization .AuthorizationConsumed current decider inputs

/-- Dispatches the one-use spend to the catalog generation. -/
def authorize_versioned_with_plan (catalog : VersionedExactWorkCatalogV1) (plan : Option ExactPlanWitnessV1)
    (inputs : DecisionInputs) : Engine OccurrenceSnapshotV1 :=
  match catalog with
  | .NightshiftV1 catalog => authorize sha catalog inputs
  | .ExactBasisV2 catalog => authorize_with_catalog_v2_and_plan sha catalog plan inputs

/-- Delegates the exact durable issuance to Docket and records its custody. -/
def dispatch (now_unix_ms : UInt64) : Engine OccurrenceSnapshotV1 := do
  let current ← current
  kernel (reject (current.program_counter ≠ .AuthorizationConsumed)
    (.IllegalTransition current.program_counter "dispatch"))
  let issuance ← lift (ok_or current.issuance .DocketResponse)
  let custody ← accept_issuance issuance
  commit_successor current (GovernedLoopKernelV1.accept_docket_custody sha current custody)
    .DocketCustodyAccepted now_unix_ms

/-- Applies what Docket knows of the attempt of `current`. -/
def apply_docket_progress (current : OccurrenceSnapshotV1) (response : DocketIssuanceReconciliationV1)
    (now_unix_ms : UInt64) : Engine DocketProgressV1 :=
  match response with
  | .NotAccepted => lift (.error .DocketResponse)
  | .Accepted custody => do
    lift (reject (current.docket_custody ≠ some custody) .DocketResponse)
    match current.program_counter with
    | .Dispatched => pure .Pending
    -- the exact attempt remains consumed but unsettled
    | .ReconciliationRequired => pure (.ReconciliationRequired current)
    | _ => lift (.error .DocketResponse)
  | .Settled custody settlement => do
    lift (reject (current.docket_custody ≠ some custody) .DocketResponse)
    if current.program_counter = .SettledObservationRequired then do
      lift (reject (current.settlement ≠ some settlement) .DocketResponse)
      pure (.Settled current)
    else if current.program_counter = .ReconciliationRequired then do
      let successor ← commit_successor current
        (GovernedLoopKernelV1.record_reconciled_settlement sha current settlement) .ReconciledSettlement now_unix_ms
      pure (.Settled successor)
    else do
      let successor ← commit_successor current
        (GovernedLoopKernelV1.record_settlement sha current settlement) .SettlementRecorded now_unix_ms
      pure (.Settled successor)
  | .Indeterminate custody indeterminate => do
    lift (reject (current.docket_custody ≠ some custody) .DocketResponse)
    if current.program_counter = .ReconciliationRequired then do
      lift (reject (current.indeterminate ≠ some indeterminate) .DocketResponse)
      pure (.ReconciliationRequired current)
    else do
      let successor ← commit_successor current
        (GovernedLoopKernelV1.require_reconciliation sha current indeterminate) .ReconciliationRequired now_unix_ms
      pure (.ReconciliationRequired successor)

/-- Polls Docket read-only and consumes only exact custody/settlement evidence. -/
def poll_docket (now_unix_ms : UInt64) : Engine DocketProgressV1 := do
  let current ← current
  let custody ← lift (ok_or current.docket_custody .DocketResponse)
  let response ← reconcile_attempt custody
  apply_docket_progress sha current response now_unix_ms

/-- Opens a distinct authority-empty continuation after settlement. -/
def open_continuation (occurrence : OccurrenceId) (expected_work : Digest) (now_unix_ms : UInt64) :
    Engine OccurrenceSnapshotV1 := do
  let current ← current
  commit_successor current (GovernedLoopKernelV1.open_continuation sha current occurrence expected_work)
    .ContinuationOpened now_unix_ms

/-- Records one read-only probe budget fact. -/
def note_probe (now_unix_ms : UInt64) : Engine OccurrenceSnapshotV1 := do
  let current ← current
  commit_or_halt sha current (GovernedLoopKernelV1.note_probe sha current) "probe" .ProbeNoted now_unix_ms

/-- Safely halts from a non-effecting boundary. -/
def halt (reason : HaltReasonRefV1) (now_unix_ms : UInt64) : Engine OccurrenceSnapshotV1 := do
  let current ← current
  commit_successor current (GovernedLoopKernelV1.halt sha current reason) .Halted now_unix_ms

/-- Records one bounded escalation and halts. -/
def escalate (reason : HaltReasonRefV1) (now_unix_ms : UInt64) : Engine OccurrenceSnapshotV1 := do
  let current ← current
  commit_or_halt sha current (GovernedLoopKernelV1.escalate sha current reason) "escalation" .Escalated now_unix_ms

/-- Applies one externally verified human disposition transactionally. -/
def apply_human_disposition (artifact : HumanDispositionV1) (expected_scope : HumanAuthorityScopeV1)
    (new_occurrence : Option OccurrenceId) (observation : ObservationResolverV1)
    (expected_observation_resolver : String) (verifier : HumanDispositionVerifierV1) (now_unix_ms : UInt64) :
    Engine HumanDispositionEffectV1 := do
  let current ← current
  consult [.Observation, .HumanVerifier]
  let effect ← kernel (GovernedLoopKernelV1.apply_human_disposition sha current artifact expected_scope
    new_occurrence observation expected_observation_resolver verifier now_unix_ms)
  let _ ← call (.commit_human_disposition current effect artifact now_unix_ms)
  pure effect

/-- Records one refusal; the store answers with the identity it is recorded under. -/
def record (refusal : RefusalOutcomeV1) (now_unix_ms : UInt64) : Engine Digest := do
  let _ ← call (.record_refusal refusal now_unix_ms)
  pure (digest_value sha REFUSAL_DOMAIN_V1 refusal)

/-- Records one typed refusal without changing the current state. -/
def record_refusal (code : RefusalCodeV1) (evidence : Option Digest) (now_unix_ms : UInt64) :
    Engine Digest := do
  let current ← current
  record sha
    { key := current.key
      at_state_digest := current.state_digest
      code
      evidence
      governed_intervention := none } now_unix_ms

def record_verified_intervention_refusal (current : OccurrenceSnapshotV1)
    (verified : VerifiedGovernedInterventionV1) (code : RefusalCodeV1) (now_unix_ms : UInt64) :
    Engine Digest :=
  record sha
    { key := current.key
      at_state_digest := current.state_digest
      code
      evidence := some verified.request.request.as_digest
      governed_intervention := some verified } now_unix_ms

/-- Applies an authenticated request to the snapshot. A request that the kernel refuses
is recorded before the refusal is returned. -/
def apply_authenticated (current : OccurrenceSnapshotV1) (authenticated : VerifiedGovernedInterventionV1)
    (now_unix_ms : UInt64) : Engine GovernedInterventionEffectV1 :=
  match GovernedLoopKernelV1.apply_verified_governed_intervention sha current authenticated with
  | .ok effect => pure effect
  | .error error => do
    let _ ← record_verified_intervention_refusal sha current authenticated (intervention_refusal_code error)
      now_unix_ms
    kernel (.error error)

/-- Applies one authenticated non-reconciliation intervention through the existing
authority-safe campaign law. -/
def apply_governed_intervention (request : GovernedInterventionRequestV1)
    (expected_scope : GovernedInterventionAuthorityScopeV1) (verifier : GovernedInterventionVerifierV1)
    (now_unix_ms : UInt64) : Engine OccurrenceSnapshotV1 := do
  let current ← current
  consult [.InterventionVerifier]
  let authenticated ← kernel (GovernedLoopKernelV1.verify_governed_intervention sha request expected_scope
    verifier now_unix_ms)
  let kind ← kernel (intervention_kind authenticated.request.intervention)
  let effect ← apply_authenticated sha current authenticated now_unix_ms
  match effect with
  | .Transition successor evidence => do
    let _ ← call (.commit_governed_intervention current successor kind evidence now_unix_ms)
    pure successor
  | .Reconcile _ => kernel (.error (.Intervention "wrong intervention path"))

/-- Authenticates one exact reconciliation request and performs only a read-only query
for its already-consumed Docket attempt. -/
def request_reconciliation (request : GovernedInterventionRequestV1)
    (expected_scope : GovernedInterventionAuthorityScopeV1) (verifier : GovernedInterventionVerifierV1)
    (now_unix_ms : UInt64) : Engine DocketProgressV1 := do
  let current ← current
  consult [.InterventionVerifier]
  let authenticated ← kernel (GovernedLoopKernelV1.verify_governed_intervention sha request expected_scope
    verifier now_unix_ms)
  let effect ← apply_authenticated sha current authenticated now_unix_ms
  match effect with
  | .Transition _ _ => kernel (.error (.Intervention "non-reconciliation request used on reconciliation path"))
  | .Reconcile authenticated => do
    let custody ← lift (ok_or current.docket_custody .DocketResponse)
    let response ← reconcile_attempt custody
    match response with
    | .Accepted returned => do
      lift (reject (returned ≠ custody) .DocketResponse)
      let _ ← record_verified_intervention_refusal sha current authenticated .InterventionOutcomeUnknown now_unix_ms
      pure (.ReconciliationRequired current)
    | .Indeterminate returned indeterminate => do
      lift (reject (returned ≠ custody ∨ current.indeterminate ≠ some indeterminate) .DocketResponse)
      let _ ← record_verified_intervention_refusal sha current authenticated .InterventionOutcomeUnknown now_unix_ms
      pure (.ReconciliationRequired current)
    | .Settled returned settlement => do
      lift (reject (returned ≠ custody) .DocketResponse)
      let successor ← kernel (GovernedLoopKernelV1.record_reconciled_settlement sha current settlement)
      let _ ← call (.commit_governed_intervention current successor .ReconciledSettlement authenticated now_unix_ms)
      pure (.Settled successor)
    | .NotAccepted => lift (.error .DocketResponse)

/-- Completes from an authority-empty observation boundary only. -/
def complete (observation_ref : ObservationRefV1) (subject : Digest) (terminal_witness : TerminalWitnessRefV1)
    (observation : ObservationResolverV1) (expected_observation_resolver : String) (now_unix_ms : UInt64) :
    Engine OccurrenceSnapshotV1 := do
  let current ← current
  consult [.Observation]
  commit_successor current
    (GovernedLoopKernelV1.complete_from_observation sha current observation_ref subject terminal_witness
      observation expected_observation_resolver now_unix_ms) .Completed now_unix_ms

/-- The postcondition basis that governs completion under the catalog. -/
def completion_postcondition (current : OccurrenceSnapshotV1) (catalog : VersionedExactWorkCatalogV1)
    (plan : Option ExactPlanWitnessV1) : Engine (Option ExactObservationBasisRequirementV1) :=
  match catalog with
  | .NightshiftV1 _ => pure none
  | .ExactBasisV2 catalog => do
    check_presented_plan plan current.state.metadata.expected_work
    let entry ← lift (catalog.completion_entry current.state.metadata.expected_work plan)
    pure (entry.bind ExactWorkCatalogEntryV2.postcondition_basis)

/-- A completed snapshot establishes an enrolled postcondition. -/
def check_postcondition (postcondition : Option ExactObservationBasisRequirementV1)
    (successor : OccurrenceSnapshotV1) : Except CampaignEngineErrorV1 Unit :=
  match postcondition with
  | some postcondition => do
    let completed ← ok_or successor.completed CampaignEngineErrorV1.PostconditionNotEstablished
    reject (postcondition.holds_over completed.terminal_observation = false) .PostconditionNotEstablished
  | none => pure ()

/-- Completes under the pinned catalog. -/
def complete_with_catalog (observation_ref : ObservationRefV1) (subject : Digest)
    (terminal_witness : TerminalWitnessRefV1) (observation : ObservationResolverV1)
    (expected_observation_resolver : String) (catalog : VersionedExactWorkCatalogV1)
    (plan : Option ExactPlanWitnessV1) (now_unix_ms : UInt64) : Engine OccurrenceSnapshotV1 := do
  let current ← current
  let postcondition ← completion_postcondition current catalog plan
  consult [.Observation]
  let successor ← kernel (GovernedLoopKernelV1.complete_from_observation sha current observation_ref subject
    terminal_witness observation expected_observation_resolver now_unix_ms)
  lift (check_postcondition postcondition successor)
  let _ ← call (.commit current successor .Completed now_unix_ms)
  pure successor

/-- Custody that Docket reports for a spent issuance is recorded first, and then what
Docket knows of its outcome. -/
def record_recovered (current : OccurrenceSnapshotV1) (custody : DocketCustodyV1)
    (after : OccurrenceSnapshotV1 → Except KernelErrorV1 OccurrenceSnapshotV1)
    (kind : CampaignTransitionKindV1) (now_unix_ms : UInt64) : Engine OccurrenceSnapshotV1 := do
  let dispatched ← commit_successor current (GovernedLoopKernelV1.accept_docket_custody sha current custody)
    .DocketCustodyAccepted now_unix_ms
  commit_successor dispatched (after dispatched) kind now_unix_ms

def apply_recovered_issuance (current : OccurrenceSnapshotV1) (response : DocketIssuanceReconciliationV1)
    (now_unix_ms : UInt64) : Engine OccurrenceSnapshotV1 :=
  match response with
  -- the outcome of recovered custody is not known, so reconciliation is explicit
  | .Accepted custody =>
    record_recovered sha current custody (GovernedLoopKernelV1.recover_dispatched sha) .RecoveryReconciliation
      now_unix_ms
  | .Settled custody settlement =>
    record_recovered sha current custody
      (fun dispatched => GovernedLoopKernelV1.record_settlement sha dispatched settlement) .SettlementRecorded
      now_unix_ms
  | .Indeterminate custody indeterminate =>
    record_recovered sha current custody
      (fun dispatched => GovernedLoopKernelV1.require_reconciliation sha dispatched indeterminate)
      .ReconciliationRequired now_unix_ms
  | .NotAccepted => lift (.error .DocketResponse)

/-- Asks Docket for the attempt of `reconciling` and applies the answer. -/
def recover_attempt (reconciling : OccurrenceSnapshotV1) (now_unix_ms : UInt64) : Engine CampaignRecoveryV1 := do
  let custody ← lift (ok_or reconciling.docket_custody .DocketResponse)
  let response ← reconcile_attempt custody
  let progress ← apply_docket_progress sha reconciling response now_unix_ms
  match progress with
  | .Settled snapshot => pure (.Advanced snapshot)
  | .Pending | .ReconciliationRequired _ => do
    let snapshot ← current
    pure (.Advanced snapshot)

/-- Applies the exact restart law without recreating freshness or authority. -/
def recover (now_unix_ms : UInt64) : Engine CampaignRecoveryV1 := do
  let current ← current
  match current.program_counter with
  | .AuthorizationConsumed => do
    let issuance ← lift (ok_or current.issuance .DocketResponse)
    let response ← reconcile_issuance issuance
    match response with
    | .NotAccepted => pure (.IssuanceNotAccepted issuance)
    | response => do
      let advanced ← apply_recovered_issuance sha current response now_unix_ms
      pure (.Advanced advanced)
  | .Dispatched => do
    let reconciling ← commit_successor current (GovernedLoopKernelV1.recover_dispatched sha current)
      .RecoveryReconciliation now_unix_ms
    recover_attempt sha reconciling now_unix_ms
  | .ReconciliationRequired => recover_attempt sha current now_unix_ms
  | _ => pure (.ExternalRevalidation (GovernedLoopKernelV1.recovery_requirement current))

end Methods

end CampaignEngineV1

/-- The calls an engine takes. The other entry points for a decision or a spend pass on
to the ones that are listed. -/
inductive EngineCall where
  | record_proposal (observation : ObservationRefV1) (proposal : ExactWorkProposalV1)
    (proposal_class : ProposalClassV1) (resolver : ObservationResolverV1)
    (expected_observation_resolver : String) (now_unix_ms : UInt64)
  | require_standing (now_unix_ms : UInt64)
  | decide_versioned_with_plan (catalog : VersionedExactWorkCatalogV1) (plan : Option ExactPlanWitnessV1)
    (inputs : DecisionInputs)
  | authorize_versioned_with_plan (catalog : VersionedExactWorkCatalogV1) (plan : Option ExactPlanWitnessV1)
    (inputs : DecisionInputs)
  | dispatch (now_unix_ms : UInt64)
  | poll_docket (now_unix_ms : UInt64)
  | open_continuation (occurrence : OccurrenceId) (expected_work : Digest) (now_unix_ms : UInt64)
  | note_probe (now_unix_ms : UInt64)
  | halt (reason : HaltReasonRefV1) (now_unix_ms : UInt64)
  | escalate (reason : HaltReasonRefV1) (now_unix_ms : UInt64)
  | apply_human_disposition (artifact : HumanDispositionV1) (expected_scope : HumanAuthorityScopeV1)
    (new_occurrence : Option OccurrenceId) (observation : ObservationResolverV1)
    (expected_observation_resolver : String) (verifier : HumanDispositionVerifierV1) (now_unix_ms : UInt64)
  | apply_governed_intervention (request : GovernedInterventionRequestV1)
    (expected_scope : GovernedInterventionAuthorityScopeV1) (verifier : GovernedInterventionVerifierV1)
    (now_unix_ms : UInt64)
  | request_reconciliation (request : GovernedInterventionRequestV1)
    (expected_scope : GovernedInterventionAuthorityScopeV1) (verifier : GovernedInterventionVerifierV1)
    (now_unix_ms : UInt64)
  | complete (observation_ref : ObservationRefV1) (subject : Digest) (terminal_witness : TerminalWitnessRefV1)
    (observation : ObservationResolverV1) (expected_observation_resolver : String) (now_unix_ms : UInt64)
  | complete_with_catalog (observation_ref : ObservationRefV1) (subject : Digest)
    (terminal_witness : TerminalWitnessRefV1) (observation : ObservationResolverV1)
    (expected_observation_resolver : String) (catalog : VersionedExactWorkCatalogV1)
    (plan : Option ExactPlanWitnessV1) (now_unix_ms : UInt64)
  | record_refusal (code : RefusalCodeV1) (evidence : Option Digest) (now_unix_ms : UInt64)
  | recover (now_unix_ms : UInt64)

/-- What a call answers with. -/
abbrev EngineCall.Output : EngineCall → Type
  | .poll_docket _ | .request_reconciliation _ _ _ _ => DocketProgressV1
  | .apply_human_disposition _ _ _ _ _ _ _ => HumanDispositionEffectV1
  | .record_refusal _ _ _ => Digest
  | .recover _ => CampaignRecoveryV1
  | _ => OccurrenceSnapshotV1

/-- The method a call runs. -/
def EngineCall.program (sha : Sha256) : (call : EngineCall) → Engine call.Output
  | .record_proposal observation proposal proposal_class resolver expected now =>
    CampaignEngineV1.record_proposal sha observation proposal proposal_class resolver expected now
  | .require_standing now => CampaignEngineV1.require_standing sha now
  | .decide_versioned_with_plan catalog plan inputs =>
    CampaignEngineV1.decide_versioned_with_plan sha catalog plan inputs
  | .authorize_versioned_with_plan catalog plan inputs =>
    CampaignEngineV1.authorize_versioned_with_plan sha catalog plan inputs
  | .dispatch now => CampaignEngineV1.dispatch sha now
  | .poll_docket now => CampaignEngineV1.poll_docket sha now
  | .open_continuation occurrence expected_work now =>
    CampaignEngineV1.open_continuation sha occurrence expected_work now
  | .note_probe now => CampaignEngineV1.note_probe sha now
  | .halt reason now => CampaignEngineV1.halt sha reason now
  | .escalate reason now => CampaignEngineV1.escalate sha reason now
  | .apply_human_disposition artifact scope new_occurrence observation expected verifier now =>
    CampaignEngineV1.apply_human_disposition sha artifact scope new_occurrence observation expected verifier now
  | .apply_governed_intervention request scope verifier now =>
    CampaignEngineV1.apply_governed_intervention sha request scope verifier now
  | .request_reconciliation request scope verifier now =>
    CampaignEngineV1.request_reconciliation sha request scope verifier now
  | .complete observation_ref subject terminal_witness observation expected now =>
    CampaignEngineV1.complete sha observation_ref subject terminal_witness observation expected now
  | .complete_with_catalog observation_ref subject terminal_witness observation expected catalog plan now =>
    CampaignEngineV1.complete_with_catalog sha observation_ref subject terminal_witness observation expected
      catalog plan now
  | .record_refusal code evidence now => CampaignEngineV1.record_refusal sha code evidence now
  | .recover now => CampaignEngineV1.recover sha now

end ag_app.governed_loop

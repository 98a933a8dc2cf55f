import AgentGovernor.Governed.KernelHalt

open ag_primitives Checked

namespace ag_campaign.governed

/-- The budget after one more retry, every other count unchanged. -/
def is_one_retry (before after : LoopBudgetV1) : Prop :=
  after.retries_used = saturating_add before.retries_used 1 ∧ after.retry_limit = before.retry_limit ∧
    after.probe_limit = before.probe_limit ∧ after.probes_used = before.probes_used ∧
    after.escalation_limit = before.escalation_limit ∧ after.escalations_used = before.escalations_used

instance (before after : LoopBudgetV1) : Decidable (is_one_retry before after) := by
  delta is_one_retry
  infer_instance

def validate_recorded_proposal (prev : ObservationRequiredV1) (next : ProposalBasisV1) :
    Except KernelErrorV1 Unit := do
  reject (prev.metadata.key ≠ next.metadata.key ∨ prev.metadata.program ≠ next.metadata.program ∨
      prev.metadata.residuals ≠ next.metadata.residuals ∨
      prev.metadata.used_human_decisions ≠ next.metadata.used_human_decisions)
    (.StateInvariant "proposal transition metadata")
  let misclassified := KernelErrorV1.StateInvariant "proposal continuation classification"
  match prev.prior, next.link with
  | none, .Initial => reject (prev.metadata.budget ≠ next.metadata.budget) misclassified
  | some prior, .RetryOf linked =>
    reject (¬ (linked = prior.key ∧ prior.key ≠ prev.metadata.key ∧
      prior.proposal = some next.proposal_ref ∧
      prior.normalized_preconditions = some next.observation.normalized_preconditions ∧
      is_one_retry prev.metadata.budget next.metadata.budget)) misclassified
  | some prior, .SuccessorOf linked =>
    reject (¬ (linked = prior.key ∧ prior.key ≠ prev.metadata.key ∧
      prior.proposal ≠ some next.proposal_ref ∧ prev.metadata.budget = next.metadata.budget)) misclassified
  | _, _ => throw misclassified

/-- A recorded proposal and its re-observed copy: everything but the freshness
of the observation agrees. -/
def same_proposal_basis (left right : ProposalBasisV1) : Prop :=
  left.metadata = right.metadata ∧ left.proposal = right.proposal ∧
    left.proposal_ref = right.proposal_ref ∧ left.link = right.link ∧
    left.observation.schema = right.observation.schema ∧ left.observation.key = right.observation.key ∧
    left.observation.observation = right.observation.observation ∧
    left.observation.normalized_preconditions = right.observation.normalized_preconditions ∧
    left.observation.subject = right.observation.subject ∧ right.observation.is_current = true

instance (left right : ProposalBasisV1) : Decidable (same_proposal_basis left right) := by
  delta same_proposal_basis
  infer_instance

def validate_continuation (source : OccurrenceSnapshotV1) (expected_proposal : Option ProposalRefV1)
    (expected_preconditions : Option PreconditionBasisRefV1) (target : ObservationRequiredV1)
    (allow_program_replacement : Bool) : Except KernelErrorV1 Unit := do
  let source_meta := source.state.metadata
  let prior ← ok_or target.prior (.StateInvariant "missing continuation prior")
  reject (target.metadata.key = source_meta.key ∨
      target.metadata.key.campaign ≠ source_meta.key.campaign ∨ prior.key ≠ source_meta.key ∨
      prior.state_digest ≠ source.state_digest ∨ prior.proposal ≠ expected_proposal ∨
      prior.normalized_preconditions ≠ expected_preconditions ∨
      target.metadata.residuals ≠ source_meta.residuals ∨
      target.metadata.budget ≠ source_meta.budget ∨
      target.metadata.used_human_decisions ≠ source_meta.used_human_decisions ∨
      (allow_program_replacement = false ∧ target.metadata.program ≠ source_meta.program))
    (.StateInvariant "continuation linkage")

def budget_same_or_one_escalation (left right : LoopBudgetV1) : Prop :=
  left.retry_limit = right.retry_limit ∧ left.retries_used = right.retries_used ∧
    left.probe_limit = right.probe_limit ∧ left.probes_used = right.probes_used ∧
    left.escalation_limit = right.escalation_limit ∧
    (left.escalations_used = right.escalations_used ∨
      saturating_add left.escalations_used 1 = right.escalations_used)

instance (left right : LoopBudgetV1) : Decidable (budget_same_or_one_escalation left right) := by
  delta budget_same_or_one_escalation
  infer_instance

def validate_halt_successor (prev : OccurrenceStateV1) (next : HaltedV1) : Except KernelErrorV1 Unit :=
  reject (next.source ≠ prev.program_counter ∨ next.metadata.key ≠ prev.metadata.key ∨
      next.metadata.program ≠ prev.metadata.program ∨ next.metadata.residuals ≠ prev.metadata.residuals ∨
      next.metadata.used_human_decisions ≠ prev.metadata.used_human_decisions ∨
      ¬ budget_same_or_one_escalation prev.metadata.budget next.metadata.budget ∨
      next.prior.key ≠ prev.metadata.key ∨ next.unresolved_attempt ≠ unresolved_attempt_of prev ∨
      next.history ≠ prev.authority_history)
    (.StateInvariant "halt transition")

def exactly_one_appended {A : Type} (before after : List A) : Prop :=
  after.length = before.length + 1 ∧ before <+: after

instance {A : Type} [DecidableEq A] (before after : List A) : Decidable (exactly_one_appended before after) := by
  delta exactly_one_appended
  infer_instance

theorem exactly_one_appended_iff {A : Type} {before after : List A} :
    exactly_one_appended before after ↔ ∃ value, after = before ++ [value] := by
  constructor
  · rintro ⟨hlength, rest, rfl⟩
    obtain ⟨value, rfl⟩ := List.length_eq_one_iff.mp (show rest.length = 1 by simpa using hlength)
    exact ⟨value, rfl⟩
  · rintro ⟨value, rfl⟩
    exact ⟨by simp, List.prefix_append _ _⟩

def validate_human_halt_update (prev next : HaltedV1) : Except KernelErrorV1 Unit :=
  reject (prev.source ≠ next.source ∨ prev.reason ≠ next.reason ∨ prev.prior ≠ next.prior ∨
      prev.unresolved_attempt ≠ next.unresolved_attempt ∨ prev.history ≠ next.history ∨
      prev.metadata.key ≠ next.metadata.key ∨ prev.metadata.program ≠ next.metadata.program ∨
      prev.metadata.budget ≠ next.metadata.budget ∨
      ¬ exactly_one_appended prev.metadata.used_human_decisions next.metadata.used_human_decisions ∨
      ¬ ∀ item ∈ next.metadata.residuals.as_slice, item ∈ prev.metadata.residuals.as_slice)
    (.StateInvariant "human halt update")

def validate_human_completion (prev : HaltedV1) (next : CompletedV1) : Except KernelErrorV1 Unit :=
  reject (prev.unresolved_attempt.isSome = true ∨ prev.metadata.residuals.is_empty = false ∨
      next.metadata.residuals.is_empty = false ∨ prev.metadata.key ≠ next.metadata.key ∨
      prev.metadata.program ≠ next.metadata.program ∨ prev.metadata.budget ≠ next.metadata.budget ∨
      ¬ exactly_one_appended prev.metadata.used_human_decisions next.metadata.used_human_decisions ∨
      prev.history ≠ next.history)
    (.StateInvariant "human completion")

/-- Exactly one probe was counted and nothing else changed. The comparison of
the coordinates does not look at the expected work. -/
def validate_probe_successor (prev next : OccurrenceStateV1) : Prop :=
  prev.metadata.key = next.metadata.key ∧ prev.metadata.program = next.metadata.program ∧
    prev.metadata.residuals = next.metadata.residuals ∧
    prev.metadata.used_human_decisions = next.metadata.used_human_decisions ∧
    prev.metadata.budget.retry_limit = next.metadata.budget.retry_limit ∧
    prev.metadata.budget.retries_used = next.metadata.budget.retries_used ∧
    prev.metadata.budget.probe_limit = next.metadata.budget.probe_limit ∧
    saturating_add prev.metadata.budget.probes_used 1 = next.metadata.budget.probes_used ∧
    prev.metadata.budget.escalation_limit = next.metadata.budget.escalation_limit ∧
    prev.metadata.budget.escalations_used = next.metadata.budget.escalations_used ∧
    next.set_metadata prev.metadata = prev

instance (prev next : OccurrenceStateV1) : Decidable (validate_probe_successor prev next) := by
  delta validate_probe_successor
  infer_instance

/-- The last arms of the transition table: a probe of the same program counter,
or no legal transition. -/
def persist_probe (source target : OccurrenceSnapshotV1) : Except KernelErrorV1 Unit :=
  reject (¬ (source.key = target.key ∧ source.program_counter = target.program_counter ∧
    validate_probe_successor source.state target.state)) (illegal source "persist decoded successor")

/-- The transition table of the persistence membrane. A pair whose guard fails
falls through to the last arms. -/
def persist_transition (sha : Sha256) (source target : OccurrenceSnapshotV1) : Except KernelErrorV1 Unit :=
  let same_key := source.key = target.key
  let fallthrough := persist_probe source target
  match source.state, target.state with
  | .ObservationRequired prev, .ProposalRecorded next =>
    if same_key then validate_recorded_proposal prev next else fallthrough
  | .ProposalRecorded prev, .StandingRequired next =>
    if same_key ∧ prev = next then pure () else fallthrough
  | .StandingRequired prev, .AdmissiblePendingAuthorization next =>
    if same_key ∧ same_proposal_basis prev next.proposal then validate_admissible_basis next
    else fallthrough
  | .AdmissiblePendingAuthorization prev, .AuthorizationConsumed next =>
    if same_key ∧ same_proposal_basis prev.proposal next.admitted.proposal then
      validate_authorized sha next
    else fallthrough
  | .AuthorizationConsumed prev, .Dispatched next =>
    if same_key ∧ prev = next.authorized then validate_custody sha next.custody prev else fallthrough
  | .Dispatched prev, .SettledObservationRequired next =>
    if same_key ∧ prev = next.dispatch then validate_settlement next.settlement next.dispatch
    else fallthrough
  | .Dispatched prev, .ReconciliationRequired next =>
    if same_key ∧ prev = next.dispatch then validate_indeterminate next.indeterminate next.dispatch
    else fallthrough
  | .ReconciliationRequired prev, .SettledObservationRequired next =>
    if same_key ∧ prev.dispatch = next.dispatch then validate_settlement next.settlement next.dispatch
    else fallthrough
  | .SettledObservationRequired prev, .ObservationRequired next =>
    if ¬ same_key then
      let proposal := prev.dispatch.authorized.admitted.proposal
      validate_continuation source (some proposal.proposal_ref)
        (some proposal.observation.normalized_preconditions) next false
    else fallthrough
  | .Halted prev, .Halted next =>
    -- a halted source is never a safe halt source, so only the human update remains
    if same_key then validate_human_halt_update prev next else fallthrough
  | prev, .Halted next =>
    if same_key ∧ is_safe_halt_source prev.program_counter = true then validate_halt_successor prev next
    else fallthrough
  | .Halted prev, .ObservationRequired next =>
    if ¬ same_key ∧ prev.unresolved_attempt = none then
      validate_continuation source prev.prior.proposal prev.prior.normalized_preconditions next true
    else fallthrough
  | .Halted prev, .Completed next =>
    if same_key then validate_human_completion prev next else fallthrough
  | .ObservationRequired prev, .Completed next =>
    if same_key ∧ prev.metadata = next.metadata ∧ next.metadata.residuals.is_empty = true then pure ()
    else fallthrough
  | _, _ => fallthrough

/-- Validates that two durable snapshots form one closed legal successor. -/
def GovernedLoopKernelV1.validate_successor (sha : Sha256) (source target : OccurrenceSnapshotV1) :
    Except KernelErrorV1 Unit := do
  source.validate_integrity sha
  target.validate_integrity sha
  reject (target.prior_state_digest ≠ source.state_digest) .StateDigestMismatch
  persist_transition sha source target

end ag_campaign.governed

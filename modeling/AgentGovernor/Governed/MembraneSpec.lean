import AgentGovernor.Governed.Integrity
import AgentGovernor.Governed.Membrane

open ag_primitives Checked

namespace ag_campaign.governed

/-- How a recorded proposal may be linked to what came before its occurrence. -/
inductive LinkedFrom (prev : ObservationRequiredV1) (next : ProposalBasisV1) : Prop where
  | initial (hprior : prev.prior = none) (hlink : next.link = .Initial)
    (hbudget : prev.metadata.budget = next.metadata.budget)
  | retry {prior : PriorOccurrenceBasisV1} (hprior : prev.prior = some prior)
    (hlink : next.link = .RetryOf prior.key) (hkey : prior.key ≠ prev.metadata.key)
    (hproposal : prior.proposal = some next.proposal_ref)
    (hpreconditions : prior.normalized_preconditions = some next.observation.normalized_preconditions)
    (hbudget : is_one_retry prev.metadata.budget next.metadata.budget)
  | successor {prior : PriorOccurrenceBasisV1} (hprior : prev.prior = some prior)
    (hlink : next.link = .SuccessorOf prior.key) (hkey : prior.key ≠ prev.metadata.key)
    (hproposal : prior.proposal ≠ some next.proposal_ref)
    (hbudget : prev.metadata.budget = next.metadata.budget)

/-- What the membrane compares when a proposal is recorded. The expected work is
not among it. -/
structure RecordedFrom (prev : ObservationRequiredV1) (next : ProposalBasisV1) : Prop where
  key : prev.metadata.key = next.metadata.key
  program : prev.metadata.program = next.metadata.program
  residuals : prev.metadata.residuals = next.metadata.residuals
  used_human_decisions : prev.metadata.used_human_decisions = next.metadata.used_human_decisions
  linked : LinkedFrom prev next

theorem validate_recorded_proposal_eq_ok_iff {prev : ObservationRequiredV1} {next : ProposalBasisV1} :
    validate_recorded_proposal prev next = .ok () ↔ RecordedFrom prev next := by
  simp only [validate_recorded_proposal, ok_rules]
  constructor
  · rintro ⟨⟨hkey, hprogram, hresiduals, hused⟩, hlinked⟩
    refine ⟨hkey, hprogram, hresiduals, hused, ?_⟩
    split at hlinked
    · next hprior hlink => exact .initial hprior hlink (by simpa [reject_eq_ok_iff] using hlinked)
    · next hprior hlink =>
      simp only [ok_rules] at hlinked
      obtain ⟨rfl, hdistinct, hproposal, hpreconditions, hbudget⟩ := hlinked
      exact .retry hprior hlink hdistinct hproposal hpreconditions hbudget
    · next hprior hlink =>
      simp only [ok_rules] at hlinked
      obtain ⟨rfl, hdistinct, hproposal, hbudget⟩ := hlinked
      exact .successor hprior hlink hdistinct hproposal hbudget
    · exact absurd hlinked throw_ne_ok
  · rintro ⟨hkey, hprogram, hresiduals, hused, hlinked⟩
    refine ⟨⟨hkey, hprogram, hresiduals, hused⟩, ?_⟩
    cases hlinked with
    | initial hprior hlink hbudget => simp only [hprior, hlink, ok_rules, hbudget]
    | retry hprior hlink hdistinct hproposal hpreconditions hbudget =>
      simp only [hprior, hlink, ok_rules]
      exact ⟨trivial, hdistinct, hproposal, hpreconditions, hbudget⟩
    | successor hprior hlink hdistinct hproposal hbudget =>
      simp only [hprior, hlink, ok_rules]
      exact ⟨trivial, hdistinct, hproposal, hbudget⟩

/-- What the membrane compares when an occurrence is opened. Neither the expected
work nor, by itself, the program is among it. -/
structure ContinuedFrom (source : OccurrenceSnapshotV1) (expected_proposal : Option ProposalRefV1)
    (expected_preconditions : Option PreconditionBasisRefV1) (target : ObservationRequiredV1) : Prop where
  distinct : target.metadata.key ≠ source.key
  campaign : target.metadata.key.campaign = source.key.campaign
  prior : target.prior = some
    { key := source.key
      proposal := expected_proposal
      normalized_preconditions := expected_preconditions
      state_digest := source.state_digest }
  residuals : target.metadata.residuals = source.state.metadata.residuals
  budget : target.metadata.budget = source.state.metadata.budget
  used_human_decisions :
    target.metadata.used_human_decisions = source.state.metadata.used_human_decisions

theorem validate_continuation_eq_ok_iff {source : OccurrenceSnapshotV1}
    {expected_proposal : Option ProposalRefV1} {expected_preconditions : Option PreconditionBasisRefV1}
    {target : ObservationRequiredV1} {allow : Bool} :
    validate_continuation source expected_proposal expected_preconditions target allow = .ok () ↔
      ContinuedFrom source expected_proposal expected_preconditions target ∧
      (allow = false → target.metadata.program = source.state.metadata.program) := by
  simp only [validate_continuation, ok_rules, not_and]
  constructor
  · rintro ⟨prior, hprior, hdistinct, hcampaign, hkey, hdigest, hproposal, hpreconditions, hresiduals,
      hbudget, hused, hprogram⟩
    refine ⟨⟨hdistinct, hcampaign, ?_, hresiduals, hbudget, hused⟩, hprogram⟩
    rw [hprior]
    cases prior
    simp_all [OccurrenceSnapshotV1.key]
  · rintro ⟨h, hprogram⟩
    exact ⟨_, h.prior, h.distinct, h.campaign, rfl, rfl, rfl, rfl, h.residuals, h.budget,
      h.used_human_decisions, hprogram⟩

/-- What the membrane compares when an occurrence halts. -/
@[mk_iff]
structure HaltedFrom (prev : OccurrenceStateV1) (next : HaltedV1) : Prop where
  source : next.source = prev.program_counter
  key : next.metadata.key = prev.metadata.key
  program : next.metadata.program = prev.metadata.program
  residuals : next.metadata.residuals = prev.metadata.residuals
  used_human_decisions : next.metadata.used_human_decisions = prev.metadata.used_human_decisions
  budget : budget_same_or_one_escalation prev.metadata.budget next.metadata.budget
  prior_key : next.prior.key = prev.metadata.key
  unresolved_attempt : next.unresolved_attempt = unresolved_attempt_of prev
  history : next.history = prev.authority_history

theorem validate_halt_successor_eq_ok_iff {prev : OccurrenceStateV1} {next : HaltedV1} :
    validate_halt_successor prev next = .ok () ↔ HaltedFrom prev next := by
  simp only [validate_halt_successor, ok_rules, haltedFrom_iff]

/-- What the membrane compares when a decision is consumed in a halted state. -/
@[mk_iff]
structure HaltUpdated (prev next : HaltedV1) : Prop where
  source : prev.source = next.source
  reason : prev.reason = next.reason
  prior : prev.prior = next.prior
  unresolved_attempt : prev.unresolved_attempt = next.unresolved_attempt
  history : prev.history = next.history
  key : prev.metadata.key = next.metadata.key
  program : prev.metadata.program = next.metadata.program
  budget : prev.metadata.budget = next.metadata.budget
  appended : exactly_one_appended prev.metadata.used_human_decisions next.metadata.used_human_decisions
  retained : ∀ item ∈ next.metadata.residuals.obligations, item ∈ prev.metadata.residuals.obligations

theorem validate_human_halt_update_eq_ok_iff {prev next : HaltedV1} :
    validate_human_halt_update prev next = .ok () ↔ HaltUpdated prev next := by
  simp only [validate_human_halt_update, ok_rules, haltUpdated_iff]
  rfl

/-- What the membrane compares when a disposition terminates the campaign. -/
@[mk_iff]
structure HumanCompleted (prev : HaltedV1) (next : CompletedV1) : Prop where
  resolved : prev.unresolved_attempt = none
  cleared : prev.metadata.residuals.is_empty = true
  remains_cleared : next.metadata.residuals.is_empty = true
  key : prev.metadata.key = next.metadata.key
  program : prev.metadata.program = next.metadata.program
  budget : prev.metadata.budget = next.metadata.budget
  appended : exactly_one_appended prev.metadata.used_human_decisions next.metadata.used_human_decisions
  history : prev.history = next.history

theorem validate_human_completion_eq_ok_iff {prev : HaltedV1} {next : CompletedV1} :
    validate_human_completion prev next = .ok () ↔ HumanCompleted prev next := by
  simp only [validate_human_completion, ok_rules, Bool.not_eq_true, Bool.not_eq_false, Option.isSome_eq_false_iff,
    Option.isNone_iff_eq_none, humanCompleted_iff]

end ag_campaign.governed

import AgentGovernor.Governed.KernelHalt

open ag_primitives Checked

namespace ag_campaign.governed

/-- `next` carries `state`, is linked to `current`, and passes its own checks. -/
def Follows (sha : Sha256) (current : OccurrenceSnapshotV1) (state : OccurrenceStateV1)
    (next : OccurrenceSnapshotV1) : Prop :=
  next = successor_snapshot sha current state ∧ next.validate_integrity sha = .ok ()

variable {current next : OccurrenceSnapshotV1} {sha : Sha256} {state : OccurrenceStateV1}

theorem checked_successor_eq_ok_iff :
    checked_successor sha current state = .ok next ↔ Follows sha current state next := by
  simp only [checked_successor, Follows, ok_rules]
  constructor
  · rintro ⟨hintegrity, rfl⟩
    exact ⟨rfl, hintegrity⟩
  · rintro ⟨rfl, hintegrity⟩
    exact ⟨hintegrity, rfl⟩

theorem Follows.state_eq (h : Follows sha current state next) : next.state = state := by
  rw [h.1, successor_snapshot_state]

theorem Follows.prior_eq
    (h : Follows sha current state next) : next.prior_state_digest = current.state_digest := by
  rw [h.1, successor_snapshot_prior_state_digest]

theorem Follows.integrity (h : Follows sha current state next) :
    next.validate_integrity sha = .ok () :=
  h.2

namespace GovernedLoopKernelV1

variable {sha : Sha256} {current next : OccurrenceSnapshotV1}

variable {expected : String} {expected_work : Digest} {link : OccurrenceLinkV1} {metadata : OccurrenceMetaV1}
  {now : UInt64} {observation : ObservationRefV1} {occurrence : OccurrenceId}
  {pending : ObservationRequiredV1} {premises : AdmissibilityPremises} {reason : HaltReasonRefV1}
  {resolved : VersionedObservationResolutionV1} {resolver : ObservationResolverV1}
  {settlement : DocketSettlementV1}

/-- A created campaign starts sound, at an authority-empty first occurrence. -/
theorem create_initial_eq_ok {campaign : CampaignId} {program : ProgramBasisRefV1} {residuals : ResidualSetV1}
    {budget : LoopBudgetV1} {initial : OccurrenceSnapshotV1}
    (h : create_initial sha campaign occurrence program expected_work residuals budget = .ok initial) :
    initial.validate_integrity sha = .ok () ∧
      initial.state = .ObservationRequired
        { metadata :=
            { key := { campaign, occurrence }, program, expected_work, residuals, budget,
              used_human_decisions := [] }
          prior := none } := by
  simp only [create_initial, ok_rules] at h
  obtain ⟨_, hintegrity, heq⟩ := h
  rw [← heq]
  exact ⟨hintegrity, rfl⟩

/-- How a proposal class turns the pending coordinates into recorded ones. -/
inductive Classified (sha : Sha256) (pending : ObservationRequiredV1) (proposal : ExactWorkProposalV1)
    (resolved : VersionedObservationResolutionV1) :
    ProposalClassV1 → OccurrenceLinkV1 → OccurrenceMetaV1 → Prop where
  | initial (hprior : pending.prior = none) :
    Classified sha pending proposal resolved .Initial .Initial pending.metadata
  | retry {prior : PriorOccurrenceBasisV1} (hprior : pending.prior = some prior)
    (hkey : pending.metadata.key ≠ prior.key)
    (havailable : pending.metadata.budget.retry_available = true)
    (hproposal : prior.proposal = some (proposal.reference sha))
    (hpreconditions : prior.normalized_preconditions = some resolved.normalized_preconditions) :
    Classified sha pending proposal resolved .Retry (.RetryOf prior.key)
      { pending.metadata with
        budget := { pending.metadata.budget with
          retries_used := saturating_add pending.metadata.budget.retries_used 1 } }
  | successor {prior : PriorOccurrenceBasisV1} (hprior : pending.prior = some prior)
    (hkey : pending.metadata.key ≠ prior.key)
    (hproposal : prior.proposal ≠ some (proposal.reference sha)) :
    Classified sha pending proposal resolved .Successor (.SuccessorOf prior.key) pending.metadata

variable {proposal : ExactWorkProposalV1} {proposal_class : ProposalClassV1}

theorem classify_proposal_eq_ok_iff :
    classify_proposal sha pending proposal proposal_class resolved = .ok (link, metadata) ↔
      Classified sha pending proposal resolved proposal_class link metadata := by
  constructor
  · intro h
    cases hprior : pending.prior with
    | none =>
      cases proposal_class with
      | Initial =>
        simp only [classify_proposal, hprior, pure_eq_ok_iff, Prod.mk.injEq] at h
        obtain ⟨rfl, rfl⟩ := h
        exact .initial hprior
      | _ => simp [classify_proposal, hprior, throw_ne_ok] at h
    | some prior =>
      cases proposal_class with
      | Initial => simp [classify_proposal, hprior, throw_ne_ok] at h
      | Retry =>
        simp only [classify_proposal, hprior, ok_rules, Prod.mk.injEq, Bool.not_eq_false] at h
        obtain ⟨hkey, havailable, hproposal, hpreconditions, rfl, rfl⟩ := h
        exact .retry hprior hkey havailable hproposal hpreconditions
      | Successor =>
        simp only [classify_proposal, hprior, ok_rules, Prod.mk.injEq] at h
        obtain ⟨hkey, hproposal, rfl, rfl⟩ := h
        exact .successor hprior hkey hproposal
  · intro h
    cases h with
    | initial hprior => simp only [classify_proposal, hprior, pure_eq_ok_iff]
    | retry hprior hkey havailable hproposal hpreconditions =>
      simp only [classify_proposal, hprior, ok_rules, Bool.not_eq_false]
      exact ⟨hkey, havailable, hproposal, hpreconditions, trivial⟩
    | successor hprior hkey hproposal =>
      simp only [classify_proposal, hprior, ok_rules]
      exact ⟨hkey, hproposal, trivial⟩

/-- A recorded proposal keeps every coordinate but, for a retry, the budget. -/
theorem Classified.metadata_eq (h : Classified sha pending proposal resolved proposal_class link metadata) :
    ∃ budget, metadata = { pending.metadata with budget } := by
  cases h <;> exact ⟨_, rfl⟩

theorem record_proposal_eq_ok_iff :
    record_proposal sha current observation proposal proposal_class resolver expected now = .ok next ↔
      current.validate_integrity sha = .ok () ∧ ∃ pending resolved link metadata,
        current.state = .ObservationRequired pending ∧ proposal.validate = .ok () ∧
        proposal.campaign = pending.metadata.key.campaign ∧
        proposal.work = pending.metadata.expected_work ∧
        resolve_observation sha resolver pending.metadata.key observation proposal.subject expected now =
          .ok resolved ∧
        Classified sha pending proposal resolved proposal_class link metadata ∧
        Follows sha current (.ProposalRecorded
          { metadata := { metadata with residuals := pending.metadata.residuals }
            observation := resolved, proposal, proposal_ref := proposal.reference sha, link }) next := by
  unfold record_proposal
  simp only [ok_rules]
  refine and_congr_right fun _ => ?_
  cases current.state <;>
    simp [ok_rules, checked_successor_eq_ok_iff, classify_proposal_eq_ok_iff, throw_ne_ok]

theorem require_standing_eq_ok_iff :
    require_standing sha current = .ok next ↔
      current.validate_integrity sha = .ok () ∧ ∃ proposal,
        current.state = .ProposalRecorded proposal ∧
        Follows sha current (.StandingRequired proposal) next := by
  unfold require_standing
  simp only [ok_rules]
  refine and_congr_right fun _ => ?_
  cases current.state <;> simp [checked_successor_eq_ok_iff, throw_ne_ok]

theorem record_admissible_eq_ok_iff :
    record_admissible sha current premises = .ok next ↔
      current.validate_integrity sha = .ok () ∧ ∃ required observation standing decision,
        current.state = .StandingRequired required ∧
        resolve_admissibility sha required premises = .ok (observation, standing, decision) ∧
        Follows sha current (.AdmissiblePendingAuthorization
          { proposal := { required with observation }, standing, decision }) next := by
  unfold record_admissible
  simp only [ok_rules]
  refine and_congr_right fun _ => ?_
  cases current.state <;> simp [bind_eq_ok_iff, checked_successor_eq_ok_iff, throw_ne_ok]

theorem consume_authorization_eq_ok_iff :
    consume_authorization sha current premises = .ok next ↔
      current.validate_integrity sha = .ok () ∧ ∃ pending observation standing decision,
        current.state = .AdmissiblePendingAuthorization pending ∧
        resolve_admissibility sha pending.proposal premises = .ok (observation, standing, decision) ∧
        Follows sha current (.AuthorizationConsumed (authorize sha
          { proposal := { pending.proposal with observation }, standing, decision }
          premises.now_unix_ms)) next := by
  unfold consume_authorization
  simp only [ok_rules]
  refine and_congr_right fun _ => ?_
  cases current.state <;> simp [bind_eq_ok_iff, checked_successor_eq_ok_iff, throw_ne_ok]

theorem accept_docket_custody_eq_ok_iff {custody : DocketCustodyV1} :
    accept_docket_custody sha current custody = .ok next ↔
      current.validate_integrity sha = .ok () ∧ ∃ authorized,
        current.state = .AuthorizationConsumed authorized ∧
        validate_custody sha custody authorized = .ok () ∧
        Follows sha current (.Dispatched { authorized, custody }) next := by
  unfold accept_docket_custody
  simp only [ok_rules]
  refine and_congr_right fun _ => ?_
  cases current.state <;>
    simp [ok_rules, checked_successor_eq_ok_iff, throw_ne_ok]

theorem record_settlement_eq_ok_iff :
    record_settlement sha current settlement = .ok next ↔
      current.validate_integrity sha = .ok () ∧ ∃ dispatch,
        current.state = .Dispatched dispatch ∧ validate_settlement settlement dispatch = .ok () ∧
        Follows sha current (.SettledObservationRequired { dispatch, settlement }) next := by
  unfold record_settlement
  simp only [ok_rules]
  refine and_congr_right fun _ => ?_
  cases current.state <;>
    simp [ok_rules, checked_successor_eq_ok_iff, throw_ne_ok]

theorem require_reconciliation_eq_ok_iff {indeterminate : IndeterminateOutcomeV1} :
    require_reconciliation sha current indeterminate = .ok next ↔
      current.validate_integrity sha = .ok () ∧ ∃ dispatch,
        current.state = .Dispatched dispatch ∧ validate_indeterminate indeterminate dispatch = .ok () ∧
        Follows sha current (.ReconciliationRequired { dispatch, indeterminate }) next := by
  unfold require_reconciliation
  simp only [ok_rules]
  refine and_congr_right fun _ => ?_
  cases current.state <;>
    simp [ok_rules, checked_successor_eq_ok_iff, throw_ne_ok]

/-- Recovery is a reconciliation whose record is derived from the snapshot. -/
theorem recover_dispatched_eq_ok (h : recover_dispatched sha current = .ok next) :
    ∃ indeterminate, require_reconciliation sha current indeterminate = .ok next := by
  unfold recover_dispatched at h
  split at h
  · exact ⟨_, h⟩
  · exact absurd h throw_ne_ok

theorem record_reconciled_settlement_eq_ok_iff :
    record_reconciled_settlement sha current settlement = .ok next ↔
      current.validate_integrity sha = .ok () ∧ ∃ reconciling,
        current.state = .ReconciliationRequired reconciling ∧
        validate_settlement settlement reconciling.dispatch = .ok () ∧
        Follows sha current
          (.SettledObservationRequired { dispatch := reconciling.dispatch, settlement }) next := by
  unfold record_reconciled_settlement
  simp only [ok_rules]
  refine and_congr_right fun _ => ?_
  cases current.state <;>
    simp [ok_rules, checked_successor_eq_ok_iff, throw_ne_ok]

theorem open_continuation_eq_ok_iff :
    open_continuation sha current occurrence expected_work = .ok next ↔
      current.validate_integrity sha = .ok () ∧ ∃ settled,
        current.state = .SettledObservationRequired settled ∧
        occurrence ≠ settled.dispatch.authorized.admitted.proposal.metadata.key.occurrence ∧
        Follows sha current
          (.ObservationRequired (continuation_of current settled occurrence expected_work)) next := by
  unfold open_continuation
  simp only [ok_rules]
  refine and_congr_right fun _ => ?_
  cases current.state <;>
    simp [ok_rules, checked_successor_eq_ok_iff, throw_ne_ok]

theorem note_probe_eq_ok_iff :
    note_probe sha current = .ok next ↔
      current.validate_integrity sha = .ok () ∧
      (current.program_counter = .SettledObservationRequired ∨
        current.program_counter = .ObservationRequired) ∧
      current.state.metadata.budget.probe_available = true ∧
      Follows sha current (current.state.set_metadata (probed current.state.metadata)) next := by
  simp only [note_probe, bind_eq_ok_iff, exists_unit_iff, reject_eq_ok_iff, not_not,
    checked_successor_eq_ok_iff, Bool.not_eq_false]

theorem halt_eq_ok_iff :
    halt sha current reason = .ok next ↔
      current.validate_integrity sha = .ok () ∧ is_safe_halt_source current.program_counter = true ∧
      Follows sha current (.Halted (halted_from current current.state.metadata reason)) next := by
  simp only [halt, ok_rules, checked_successor_eq_ok_iff, Bool.not_eq_false]

theorem escalate_eq_ok_iff :
    escalate sha current reason = .ok next ↔
      current.validate_integrity sha = .ok () ∧
      current.state.metadata.budget.escalation_available = true ∧
      is_safe_halt_source current.program_counter = true ∧
      Follows sha current
        (.Halted (halted_from current (escalated current.state.metadata) reason)) next := by
  simp only [escalate, ok_rules, checked_successor_eq_ok_iff, Bool.not_eq_false]

theorem complete_from_observation_eq_ok_iff {subject : Digest}
    {terminal_witness : TerminalWitnessRefV1} :
    complete_from_observation sha current observation subject terminal_witness resolver expected now =
        .ok next ↔
      current.validate_integrity sha = .ok () ∧ ∃ pending terminal,
        current.state = .ObservationRequired pending ∧ pending.metadata.residuals.is_empty = true ∧
        resolve_observation sha resolver pending.metadata.key observation subject expected now =
          .ok terminal ∧
        Follows sha current (.Completed
          { metadata := pending.metadata, terminal_observation := terminal, terminal_witness,
            history := .default }) next := by
  unfold complete_from_observation
  simp only [ok_rules]
  refine and_congr_right fun _ => ?_
  cases current.state <;>
    simp [ok_rules, checked_successor_eq_ok_iff, throw_ne_ok, OccurrenceStateV1.authority_history]

end GovernedLoopKernelV1

end ag_campaign.governed

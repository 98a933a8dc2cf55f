import AgentGovernor.Governed.Returned
import AgentGovernor.Governed.SpendPremises
import AgentGovernor.Primitives.IdealHash

open ag_primitives Checked

namespace ag_campaign.governed

open GovernedLoopKernelV1

/-- The step spends the authorization of an admitted proposal. -/
def RunStep.Consumes (step : RunStep) : Prop :=
  (∃ admitted, step.source.state = .AdmissiblePendingAuthorization admitted) ∧
    ∃ value, step.target.state = .AuthorizationConsumed value

/-- Four steps of an occurrence that waits for its observation record a proposal of its
exact work and spend the authorization. -/
theorem exists_consumes {sha : Sha256} (state : RunState) {pending : ObservationRequiredV1}
    {proposal : ExactWorkProposalV1}
    {proposal_class : ProposalClassV1} {link : OccurrenceLinkV1} {metadata : OccurrenceMetaV1}
    (observation : ObservationRefV1) (hintegrity : state.latest.validate_integrity sha = .ok ())
    (hstate : state.latest.state = .ObservationRequired pending) (hvalid : proposal.validate = .ok ())
    (hcampaign : proposal.campaign = pending.metadata.key.campaign)
    (hwork : proposal.work = pending.metadata.expected_work)
    (hclass : Classified sha pending proposal
      (typed_observation sha pending.metadata.key observation proposal.subject) proposal_class link metadata)
    (hbudget : metadata.budget.validate = .ok ()) :
    ∃ ops before spending value, RunState.run sha state ops = before ++ [spending] ∧ spending.Consumes ∧
      (∀ step ∈ before ++ [spending], ¬ step.Opens ∧ step.target.key = pending.metadata.key) ∧
      spending.target.validate_integrity sha = .ok () ∧
      spending.target.state = .AuthorizationConsumed value ∧ value.admitted.proposal.metadata = metadata := by
  have hobserved := typed_observation_resolved sha pending.metadata.key observation proposal.subject
  obtain ⟨recorded, hrecord, hrecorded, hrecorded_state⟩ :=
    record_proposal_ok observation hintegrity hstate hvalid hcampaign hwork hclass hbudget
  obtain ⟨premises, standing, admitted, consumed, value, hstand, hstanding, hadmit, hadmitted, hconsume,
    hconsumed, hvalue, hbasis⟩ :=
    consume_recorded_ok hrecorded hrecorded_state hobserved.resolved_before hobserved.fresh
  have hrun : RunState.Performs sha state [.record_proposal observation proposal proposal_class
      (observing sha pending proposal observation) "observer" 0, .require_standing, .record_admissible premises,
      .consume_authorization premises] _ :=
    .one (applied hrecord) (.one (applied hstand) (.one (applied hadmit) (.one (applied hconsume) .nil)))
  have hmetadata : value.admitted.proposal.metadata = metadata := by
    rw [hbasis]
    rfl
  refine ⟨_, [_, _, _], _, value, hrun.run_eq, ⟨⟨_, hadmitted⟩, _, hvalue⟩, ?_, hconsumed, hvalue, hmetadata⟩
  obtain ⟨budget, rfl⟩ := hclass.metadata_eq
  simp [RunStep.Opens, RunState.enter, RunStep.after, OccurrenceSnapshotV1.key, hstate, hrecorded_state, hstanding,
    hadmitted, hvalue, OccurrenceStateV1.metadata, admitted_basis, hmetadata]

namespace CampaignRun

variable {sha : Sha256}

theorem traced_initial (run : CampaignRun sha) : Traced [] ⟨0, run.initial⟩ := by
  simp only [Traced, run.initial_eq.2]

/-- Spend-time premises. Whenever a run reaches a consumed authorization, the spend
was created by one call from answers given to that call, current at its clock and
bound to the occurrence and to the proposal and admission recorded for it before. -/
theorem spend_time_premises (run : CampaignRun sha) {before rest : List RunStep} {step : RunStep}
    {value : AuthorizationConsumedV1} (hsteps : run.steps = before ++ step :: rest)
    (hvalue : step.target.state = .AuthorizationConsumed value) :
    ∃ premises recorded admitted, SpendPremises sha before step value premises recorded admitted := by
  obtain ⟨state, hpath, htakes⟩ := run.path_before hsteps
  obtain ⟨premises, admitted, observation, standing, decision, hop, hsource, hanswered, hadmissible, rfl⟩ :=
    htakes.kernel_step.consumed_of_target hvalue
  have htraced := RunState.path_traced run.traced_initial hpath
  rw [Traced, ← htakes.source_eq, hsource] at htraced
  obtain ⟨hadmitted, recorded, hrecorded, hreobserved⟩ := htraced
  have hkey : step.source.key = admitted.proposal.metadata.key := by
    rw [OccurrenceSnapshotV1.key, hsource]
    rfl
  have hordinal : step.ordinal = state.ordinal := by
    refine htakes.ordinal_eq ?_
    rw [hkey, OccurrenceSnapshotV1.key, hvalue]
    rfl
  rw [← hordinal] at hadmitted hrecorded
  have hproposal : admitted.proposal.proposal = recorded.proposal := by rw [hreobserved.1]
  have href : admitted.proposal.proposal_ref = recorded.proposal_ref := by rw [hreobserved.1]
  have hmetadata : admitted.proposal.metadata = recorded.metadata := by rw [hreobserved.1]
  have hobservation := hadmissible.resolved_observation
  have hstanding := hadmissible.resolved_standing
  have hordered : standing.resolved_at_unix_ms ≤ standing.expires_at_unix_ms :=
    UInt64.le_of_lt (UInt64.lt_of_le_of_lt hstanding.resolved_before hstanding.unexpired)
  have hwindow := UInt64.le_iff_toNat_le.mp hstanding.window
  rw [UInt64.toNat_sub_of_le _ _ hordered] at hwindow
  have hobserved : observation.observation = recorded.observation.observation :=
    hobservation.observation_eq.trans hreobserved.2.1
  refine ⟨premises, recorded, admitted, ?_⟩
  exact
    { op_eq := hop
      recorded_earlier := hrecorded
      admitted_earlier := hadmitted
      answered := hanswered
      observation_window := ⟨hobservation.resolved_before, hobservation.fresh⟩
      standing_window := ⟨hstanding.resolved_before, hstanding.unexpired⟩
      standing_ttl := Nat.sub_le_iff_le_add'.mp hwindow
      observation_resolver := ⟨hobservation.resolver_id, hobservation.expected_nonempty⟩
      standing_resolver := ⟨hstanding.resolver_id, hstanding.expected_nonempty⟩
      observation_current := hobservation.current
      standing_current := hstanding.current
      observation_bound := ⟨hobservation.key_eq.trans hkey.symm, hobserved,
        hobservation.subject_eq.trans (by rw [hproposal])⟩
      standing_bound := ⟨hstanding.key_eq.trans hkey.symm, hstanding.observation_eq.trans hobserved,
        hstanding.proposal_eq.trans href, hstanding.subject_eq.trans (by rw [hproposal]),
        hstanding.scope_eq.trans (by rw [hproposal])⟩
      preconditions := ⟨hadmissible.preconditions_eq.trans hreobserved.2.2, hadmissible.preconditions_eq⟩
      decision_bound := ⟨hadmissible.admitted, hadmissible.decision_key.trans hkey.symm,
        hadmissible.decision_observation.trans hobserved, hadmissible.decision_proposal.trans href,
        hadmissible.decision_standing⟩
      spend_bound := ⟨hkey.symm, rfl, href, rfl, rfl, rfl⟩
      issuance_bound := by
        simp only [authorize, build_issuance, hproposal, hmetadata, and_self] }

/-- Every campaign whose exact work has a well-formed proposal has a run that
reaches a consumed authorization. -/
theorem exists_consumed {budget : LoopBudgetV1} (hbudget : budget.validate = .ok ())
    (campaign : CampaignId) (occurrence : OccurrenceId) (program : ProgramBasisRefV1)
    (residuals : ResidualSetV1) {proposal : ExactWorkProposalV1} (hvalid : proposal.validate = .ok ())
    (hcampaign : proposal.campaign = campaign) (observation : ObservationRefV1) :
    ∃ (run : CampaignRun sha) (before : List RunStep) (step : RunStep) (value : AuthorizationConsumedV1),
      run.steps = before ++ [step] ∧ step.target.state = .AuthorizationConsumed value := by
  obtain ⟨initial, hcreated⟩ := create_initial_ok hbudget campaign occurrence program proposal.work residuals
  obtain ⟨hintegrity, hstate⟩ := create_initial_eq_ok hcreated
  obtain ⟨ops, before, step, value, hsteps, _, _, _, hvalue, _⟩ :=
    exists_consumes ⟨0, initial⟩ observation hintegrity hstate hvalid hcampaign rfl (.initial rfl) hbudget
  exact ⟨⟨_, _, _, _, _, _, initial, hcreated, ops⟩, before, step, value, hsteps, hvalue⟩

/-- The premises hold at a consumption that some run does reach. -/
theorem spend_time_premises_attained :
    ∃ (run : CampaignRun ideal_sha) (before : List RunStep) (step : RunStep)
      (value : AuthorizationConsumedV1), run.steps = before ++ [step] ∧
      step.target.state = .AuthorizationConsumed value ∧
      ∃ premises recorded admitted, SpendPremises ideal_sha before step value premises recorded admitted := by
  have hbudget : LoopBudgetV1.validate ⟨0, 0, 0, 0, 0, 0⟩ = .ok () := by rfl
  obtain ⟨run, before, step, value, hsteps, hvalue⟩ :=
    exists_consumed hbudget ⟨⟨[]⟩⟩ ⟨0⟩ ⟨⟨[]⟩⟩ ⟨[], .nil⟩ (plain_proposal_valid ⟨⟨[]⟩⟩ ⟨[3]⟩) rfl ⟨⟨[4]⟩⟩
  exact ⟨run, before, step, value, hsteps, hvalue, spend_time_premises run hsteps hvalue⟩

end CampaignRun

end ag_campaign.governed

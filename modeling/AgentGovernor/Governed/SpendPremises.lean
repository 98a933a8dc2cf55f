import AgentGovernor.Governed.Occurrence

open ag_primitives Checked

namespace ag_campaign.governed

open GovernedLoopKernelV1

/-- An earlier `record_proposal` of the occurrence recorded exactly this basis. -/
def RecordedIn (history : List RunStep) (ordinal : Nat) (basis : ProposalBasisV1) : Prop :=
  ∃ recording ∈ history, recording.ordinal = ordinal ∧
    (∃ observation proposal proposal_class resolver expected now, recording.op =
      .record_proposal observation proposal proposal_class resolver expected now) ∧
    recording.target.state = .ProposalRecorded basis

/-- An earlier `record_admissible` of the occurrence recorded exactly this admission. -/
def AdmittedIn (history : List RunStep) (ordinal : Nat) (admitted : AdmissibleBasisV1) : Prop :=
  ∃ admitting ∈ history, admitting.ordinal = ordinal ∧
    (∃ premises, admitting.op = .record_admissible premises) ∧
    admitting.target.state = .AdmissiblePendingAuthorization admitted

/-- The same proposal under a re-resolved observation of the same preconditions. -/
def Reobserved (recorded current : ProposalBasisV1) : Prop :=
  current = { recorded with observation := current.observation } ∧
    current.observation.observation = recorded.observation.observation ∧
    current.observation.normalized_preconditions = recorded.observation.normalized_preconditions

/-- Where the proposal of the latest snapshot came from. -/
def Traced (history : List RunStep) (state : RunState) : Prop :=
  match state.latest.state with
  | .ProposalRecorded basis | .StandingRequired basis => RecordedIn history state.ordinal basis
  | .AdmissiblePendingAuthorization admitted =>
    AdmittedIn history state.ordinal admitted ∧
      ∃ recorded, RecordedIn history state.ordinal recorded ∧ Reobserved recorded admitted.proposal
  | _ => True

theorem RecordedIn.append {history : List RunStep} {ordinal : Nat} {basis : ProposalBasisV1}
    (h : RecordedIn history ordinal basis) (step : RunStep) :
    RecordedIn (history ++ [step]) ordinal basis := by
  obtain ⟨recording, hmem, hrest⟩ := h
  exact ⟨recording, List.mem_append_left _ hmem, hrest⟩

namespace RunState

variable {sha : Sha256} {start state next : RunState} {history : List RunStep} {step : RunStep}

theorem Takes.traced (h : state.Takes sha step next) (htraced : Traced history state) :
    Traced (history ++ [step]) step.after := by
  have hkernel := h.kernel_step
  have hsame := hkernel.key_eq_or_leaves
  rw [Traced, ← h.source_eq] at htraced
  unfold Traced
  cases hkernel with
  | proposed hop hsource hwork hresolved hclass htarget =>
    simp only [RunStep.after, htarget.state_eq]
    exact ⟨step, by simp, rfl, ⟨_, _, _, _, _, _, hop⟩, htarget.state_eq⟩
  | standing hop hsource htarget =>
    have hkey : step.target.key = step.source.key := by
      simp [OccurrenceSnapshotV1.key, htarget.state_eq, hsource, OccurrenceStateV1.metadata]
    simp only [RunStep.after, htarget.state_eq, h.ordinal_eq hkey]
    simp only [hsource] at htraced
    exact htraced.append step
  | admitted hop hsource hresolved htarget =>
    have hkey : step.target.key = step.source.key := by
      simp [OccurrenceSnapshotV1.key, htarget.state_eq, hsource, OccurrenceStateV1.metadata]
    simp only [hsource] at htraced
    simp only [RunStep.after, htarget.state_eq]
    refine ⟨⟨step, by simp, rfl, ⟨_, hop⟩, htarget.state_eq⟩, _, h.ordinal_eq hkey ▸ htraced.append step, ?_⟩
    obtain ⟨_, hresolved⟩ := resolve_admissibility_eq_ok_iff.mp hresolved
    exact ⟨rfl, hresolved.resolved_observation.observation_eq, hresolved.preconditions_eq⟩
  | probed hop hpc havailable htarget =>
    simp only [RunStep.after, htarget.state_eq]
    cases hstate : step.source.state <;>
      simp_all [OccurrenceSnapshotV1.program_counter, OccurrenceStateV1.program_counter,
        OccurrenceStateV1.set_metadata]
  | _ =>
    rename_i htarget
    simp only [RunStep.after, htarget.state_eq]

theorem path_traced (hstart : Traced [] start) (hpath : RunPath (Takes sha) start history state) :
    Traced history state := by
  refine RunPath.invariant Traced hstart ?_ hpath
  rintro history before step after _ ih htakes
  obtain rfl := htakes.2.2
  exact htakes.traced ih

end RunState

/-- The premises a spend rests on: answers given in the consuming call itself,
current at its clock and bound to the occurrence, the recorded proposal and each
other, with the precondition basis recorded and admitted earlier. -/
structure SpendPremises (sha : Sha256) (history : List RunStep) (step : RunStep)
    (value : AuthorizationConsumedV1) (premises : AdmissibilityPremises)
    (recorded : ProposalBasisV1) (admitted : AdmissibleBasisV1) : Prop where
  op_eq : step.op = .consume_authorization premises
  recorded_earlier : RecordedIn history step.ordinal recorded
  admitted_earlier : AdmittedIn history step.ordinal admitted
  answered : premises.Answered admitted.proposal value.admitted.proposal.observation
    value.admitted.standing value.admitted.decision
  observation_window :
    value.admitted.proposal.observation.resolved_at_unix_ms ≤ premises.now_unix_ms ∧
      premises.now_unix_ms < value.admitted.proposal.observation.fresh_until_unix_ms
  standing_window : value.admitted.standing.resolved_at_unix_ms ≤ premises.now_unix_ms ∧
    premises.now_unix_ms < value.admitted.standing.expires_at_unix_ms
  standing_ttl : value.admitted.standing.expires_at_unix_ms.toNat ≤
    value.admitted.standing.resolved_at_unix_ms.toNat + premises.max_standing_ttl_ms.toNat
  observation_resolver : value.admitted.proposal.observation.resolver_id =
    premises.expected_observation_resolver ∧ premises.expected_observation_resolver ≠ ""
  standing_resolver : value.admitted.standing.resolver_id = premises.expected_standing_resolver ∧
    premises.expected_standing_resolver ≠ ""
  observation_current : value.admitted.proposal.observation.is_current = true
  standing_current : value.admitted.standing.status = .Current
  observation_bound : value.admitted.proposal.observation.key = step.source.key ∧
    value.admitted.proposal.observation.observation = recorded.observation.observation ∧
    value.admitted.proposal.observation.subject = recorded.proposal.subject
  standing_bound : value.admitted.standing.key = step.source.key ∧
    value.admitted.standing.observation = recorded.observation.observation ∧
    value.admitted.standing.proposal = recorded.proposal_ref ∧
    value.admitted.standing.subject = recorded.proposal.subject ∧
    value.admitted.standing.scope = recorded.proposal.scope
  preconditions : value.admitted.proposal.observation.normalized_preconditions =
      recorded.observation.normalized_preconditions ∧
    value.admitted.proposal.observation.normalized_preconditions =
      admitted.proposal.observation.normalized_preconditions
  decision_bound : value.admitted.decision.disposition = .Admitted ∧
    value.admitted.decision.key = step.source.key ∧
    value.admitted.decision.observation = recorded.observation.observation ∧
    value.admitted.decision.proposal = recorded.proposal_ref ∧
    value.admitted.decision.standing_resolution = value.admitted.standing.resolution
  spend_bound : value.spend.key = step.source.key ∧
    value.spend.observation = value.admitted.proposal.observation.observation ∧
    value.spend.proposal = recorded.proposal_ref ∧
    value.spend.standing_resolution = value.admitted.standing.resolution ∧
    value.spend.admission_decision = value.admitted.decision.decision ∧
    value.spend.consumed_at_unix_ms = premises.now_unix_ms
  issuance_bound : value.issuance.work = recorded.proposal.work ∧
    value.issuance.work_schema = recorded.proposal.work_schema ∧
    value.issuance.subject = recorded.proposal.subject ∧
    value.issuance.scope = recorded.proposal.scope ∧
    value.issuance.program = recorded.metadata.program ∧
    value.issuance.key = recorded.metadata.key ∧ value.issuance.spend = value.spend.spend

end ag_campaign.governed

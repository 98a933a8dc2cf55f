import AgentGovernor.Governed.Attainable
import AgentGovernor.Governed.Run

open ag_primitives Checked

namespace ag_campaign.governed

open GovernedLoopKernelV1

variable {sha : Sha256}

/-- The coordinates of an occurrence that a decision opened. -/
def OccurrenceMetaV1.reopened (metadata : OccurrenceMetaV1) (occurrence : OccurrenceId)
    (decision : HumanDecisionIdV1) : OccurrenceMetaV1 :=
  { metadata with
    key := ⟨metadata.key.campaign, occurrence⟩
    used_human_decisions := metadata.used_human_decisions ++ [decision] }

/-- An occurrence is halted and the next one is opened by a disposition. -/
structure ReturnedFrom (sha : Sha256) (source : OccurrenceSnapshotV1) (reason : HaltReasonRefV1)
    (occurrence : OccurrenceId) (decision : HumanDecisionIdV1) (op : KernelOp)
    (halted first second : OccurrenceSnapshotV1) (next : ObservationRequiredV1) : Prop where
  halt : (KernelOp.halt reason).apply sha source = .ok [halted]
  returned : op.apply sha halted = .ok [first, second]
  halted_counter : halted.program_counter = .Halted
  first_counter : first.program_counter = .Halted
  integrity : second.validate_integrity sha = .ok ()
  state : second.state = .ObservationRequired next
  metadata : next.metadata = source.state.metadata.reopened occurrence decision
  prior : ∃ prior, next.prior = some prior ∧ prior.key = source.key ∧
    prior.proposal = source.state.proposal_basis.map ProposalBasisV1.proposal_ref ∧
    prior.normalized_preconditions =
      source.state.proposal_basis.map fun basis => basis.observation.normalized_preconditions
  plain : ∀ reason, ¬ (op.effective = .halt reason ∨ op = .escalate reason)

theorem exists_returned {source : OccurrenceSnapshotV1} (reason : HaltReasonRefV1) {occurrence : OccurrenceId}
    {decision : HumanDecisionIdV1} (hintegrity : source.validate_integrity sha = .ok ())
    (hsafe : is_safe_halt_source source.program_counter = true)
    (hresolved : unresolved_attempt_of source.state = none) (hdistinct : occurrence ≠ source.key.occurrence)
    (hunused : decision ∉ source.state.metadata.used_human_decisions) :
    ∃ op halted first second next,
      ReturnedFrom sha source reason occurrence decision op halted first second next := by
  obtain ⟨halted, hhalt⟩ := halt_ok hintegrity hsafe reason
  have hfollows := (halt_eq_ok_iff.mp hhalt).2.2
  obtain ⟨artifact, first, second, hcall, _, hfirst, hsecond, hstate⟩ :=
    return_to_observation_ok hfollows.integrity hfollows.state_eq hunused hresolved hdistinct
      ⟨fun _ => .error (.Unavailable "unused")⟩ "" (.from_digest source.state_digest)
  obtain ⟨op, hop, hplain⟩ : ∃ op : KernelOp, op.apply sha halted = .ok [first, second] ∧
      ∀ reason, ¬ (op.effective = .halt reason ∨ op = .escalate reason) := by
    refine ⟨.apply_human_disposition _ _ _ _ _ _ _, applied hcall, ?_⟩
    rintro _ (hop | hop) <;> cases hop
  exact ⟨op, halted, first, second, _,
    { halt := applied hhalt
      returned := hop
      halted_counter := congrArg OccurrenceStateV1.program_counter hfollows.state_eq
      first_counter := congrArg OccurrenceStateV1.program_counter hfirst
      integrity := hsecond
      state := hstate
      metadata := rfl
      prior := ⟨_, rfl, rfl, rfl, rfl⟩
      plain := hplain }⟩

/-- The answer that observes a proposal's subject. -/
def observing (sha : Sha256) (pending : ObservationRequiredV1) (proposal : ExactWorkProposalV1)
    (observation : ObservationRefV1) : ObservationResolverV1 :=
  .answering (typed_observation sha pending.metadata.key observation proposal.subject)

/-- The proposal can be recorded first, and the occurrence and decision are new. -/
structure Proposable (sha : Sha256) (initial : OccurrenceSnapshotV1) (pending : ObservationRequiredV1)
    (proposal : ExactWorkProposalV1) (second : OccurrenceId) (decision : HumanDecisionIdV1) : Prop where
  integrity : initial.validate_integrity sha = .ok ()
  state : initial.state = .ObservationRequired pending
  prior : pending.prior = none
  valid : proposal.validate = .ok ()
  campaign : proposal.campaign = pending.metadata.key.campaign
  work : proposal.work = pending.metadata.expected_work
  distinct : second ≠ pending.metadata.key.occurrence
  unused : decision ∉ pending.metadata.used_human_decisions

/-- A first occurrence records a proposal and is halted, and the next one is opened. -/
theorem Proposable.returned {initial : OccurrenceSnapshotV1} {pending : ObservationRequiredV1}
    {proposal : ExactWorkProposalV1} {second : OccurrenceId} {decision : HumanDecisionIdV1}
    (h : Proposable sha initial pending proposal second decision) (observation : ObservationRefV1)
    (reason : HaltReasonRefV1) :
    ∃ recorded op halted first opened next,
      (KernelOp.record_proposal observation proposal .Initial (observing sha pending proposal observation)
        "observer" 0).apply sha initial = .ok [recorded] ∧
      recorded.state = .ProposalRecorded (recorded_basis sha pending proposal observation) ∧
      ReturnedFrom sha recorded reason second decision op halted first opened next := by
  obtain ⟨hbudget, _, _, _⟩ := checks_of_integrity h.integrity h.state
  obtain ⟨recorded, hrecord, hrecorded, hrecorded_state⟩ :=
    record_proposal_ok observation h.integrity h.state h.valid h.campaign h.work (.initial h.prior) hbudget
  obtain ⟨op, halted, first, opened, next, hreturned⟩ :
      ∃ op halted first opened next, ReturnedFrom sha recorded reason second decision op halted first opened next :=
    exists_returned reason hrecorded (by rw [OccurrenceSnapshotV1.program_counter, hrecorded_state]; rfl)
      (by rw [hrecorded_state]; rfl) (by rw [OccurrenceSnapshotV1.key, hrecorded_state]; exact h.distinct)
      (by rw [hrecorded_state]; exact h.unused)
  exact ⟨recorded, op, halted, first, opened, next, applied hrecord, hrecorded_state,
    hreturned⟩

/-- An occurrence that waits for its observation is halted, and the next one is opened. It
is compared with nothing, so it may record every proposal as a successor. -/
theorem exists_successor {source : OccurrenceSnapshotV1} {pending : ObservationRequiredV1} (reason : HaltReasonRefV1)
    {occurrence : OccurrenceId} {decision : HumanDecisionIdV1} (hintegrity : source.validate_integrity sha = .ok ())
    (hstate : source.state = .ObservationRequired pending) (hdistinct : occurrence ≠ pending.metadata.key.occurrence)
    (hunused : decision ∉ pending.metadata.used_human_decisions) :
    ∃ op halted first second next key, ReturnedFrom sha source reason occurrence decision op halted first second next ∧
      next.metadata = pending.metadata.reopened occurrence decision ∧
      ∀ proposal resolved, Classified sha next proposal resolved .Successor (.SuccessorOf key) next.metadata := by
  obtain ⟨op, halted, first, second, next, h⟩ :
      ∃ op halted first second next, ReturnedFrom sha source reason occurrence decision op halted first second next :=
    exists_returned reason hintegrity (by rw [OccurrenceSnapshotV1.program_counter, hstate]; rfl)
      (by rw [hstate]; rfl) (by rw [OccurrenceSnapshotV1.key, hstate]; exact hdistinct) (by rw [hstate]; exact hunused)
  have hmetadata : next.metadata = pending.metadata.reopened occurrence decision := by
    rw [h.metadata, hstate]
    rfl
  obtain ⟨prior, hnext, hkey, hproposal, _⟩ := h.prior
  rw [hstate] at hproposal
  refine ⟨op, halted, first, second, next, prior.key, h, hmetadata, fun proposal resolved =>
    .successor hnext ?_ (by rw [hproposal]; rintro ⟨⟩)⟩
  rw [hkey, OccurrenceSnapshotV1.key, hstate, hmetadata]
  intro hsame
  exact hdistinct (congrArg OccurrenceKeyV1.occurrence hsame)

/-- A campaign with the given budget that can record a plain proposal. -/
theorem CampaignRun.exists_proposable (sha : Sha256) {budget : LoopBudgetV1} (hbudget : budget.validate = .ok ()) :
    ∃ base : CampaignRun sha, base.budget = budget ∧
      Proposable sha base.initial ⟨⟨⟨⟨⟨[]⟩⟩, ⟨0⟩⟩, ⟨⟨[]⟩⟩, ⟨[3]⟩, ⟨[], .nil⟩, budget, []⟩, none⟩
        (plain_proposal ⟨⟨[]⟩⟩ ⟨[3]⟩) ⟨1⟩ ⟨⟨[1]⟩⟩ := by
  obtain ⟨initial, hcreated⟩ := create_initial_ok hbudget ⟨⟨[]⟩⟩ ⟨0⟩ ⟨⟨[]⟩⟩ ⟨[3]⟩ ⟨[], .nil⟩
  obtain ⟨hintegrity, hstate⟩ := create_initial_eq_ok hcreated
  exact ⟨⟨_, _, _, _, _, _, initial, hcreated, []⟩, rfl, hintegrity, hstate, rfl,
    plain_proposal_valid ⟨⟨[]⟩⟩ ⟨[3]⟩, rfl, rfl, (by decide : (⟨1⟩ : OccurrenceId) ≠ ⟨0⟩), List.not_mem_nil⟩

end ag_campaign.governed

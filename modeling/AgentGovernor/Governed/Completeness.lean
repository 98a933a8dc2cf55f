import AgentGovernor.Governed.LegalSuccessor
import AgentGovernor.Governed.Progress
import AgentGovernor.Primitives.IdealHash

open ag_primitives Checked

namespace ag_campaign.governed

open GovernedLoopKernelV1

variable {sha : Sha256}

/-- The binding digest of a basis tells the generation of the resolution apart:
one is a plain hash and the other a framed one. -/
theorem schema_eq_of_preconditions (hsha : sha.CollisionFree)
    {left right : VersionedObservationResolutionV1} (hleft : SoundObservation sha left)
    (hright : SoundObservation sha right)
    (h : left.normalized_preconditions = right.normalized_preconditions) : left.schema = right.schema := by
  have hdigests : left.basis_binding_digest sha = right.basis_binding_digest sha := by
    rw [hleft.basis_digest, hright.basis_digest, h]
  have hne : ∀ (v2 : ObservationResolutionV2) (v3 : ObservationResolutionV3),
      v2.basis.decision_basis_digest sha ≠ v3.basis.binding_digest sha := by
    intro v2 v3 heq
    obtain ⟨_, hbinding⟩ := bind_eq_ok_iff.mp heq.symm
    exact Digest.hash_bytes_ne_hash_domain hsha _ _ _ (pure_eq_ok_iff.mp hbinding.2).symm
  have hsl := hleft.own_schema
  have hsr := hright.own_schema
  cases left with
  | NightshiftV2 left =>
    cases right with
    | NightshiftV2 right =>
      simp_all [VersionedObservationResolutionV1.has_own_schema, VersionedObservationResolutionV1.schema]
    | TypedV3 right => exact absurd hdigests (hne left right)
  | TypedV3 left =>
    cases right with
    | NightshiftV2 right => exact absurd hdigests.symm (hne right left)
    | TypedV3 right =>
      simp_all [VersionedObservationResolutionV1.has_own_schema, VersionedObservationResolutionV1.schema]

/-- Re-observing a recorded proposal gives the same proposal basis up to freshness. -/
theorem ResolvedAdmissibility.same_proposal_basis (hsha : sha.CollisionFree) {basis : ProposalBasisV1}
    {premises : AdmissibilityPremises} {observation : VersionedObservationResolutionV1}
    {standing : CurrentStandingResolutionV2} {decision : AdmissionDecisionV1}
    (hrecorded : SoundProposal sha basis.metadata basis)
    (h : ResolvedAdmissibility sha basis premises observation standing decision) :
    governed.same_proposal_basis basis { basis with observation } := by
  have hobserved := h.resolved_observation
  refine ⟨rfl, rfl, rfl, rfl, ?_, ?_, hobserved.observation_eq.symm, h.preconditions_eq.symm, ?_,
    hobserved.current⟩
  · exact schema_eq_of_preconditions hsha hrecorded.observation hobserved.sound h.preconditions_eq.symm
  · exact hrecorded.observation_key.trans hobserved.key_eq.symm
  · exact hrecorded.observation_subject.trans hobserved.subject_eq.symm

theorem probed_validate_probe_successor (state : OccurrenceStateV1) :
    validate_probe_successor state (state.set_metadata (probed state.metadata)) := by
  simp [validate_probe_successor, OccurrenceStateV1.set_metadata_set_metadata,
    OccurrenceStateV1.set_metadata_self, probed]

/-- A proposal classified by the kernel is linked as the membrane expects. -/
theorem GovernedLoopKernelV1.Classified.recorded_from {pending : ObservationRequiredV1}
    {proposal : ExactWorkProposalV1} {proposal_class : ProposalClassV1}
    {resolved : VersionedObservationResolutionV1} {link : OccurrenceLinkV1} {metadata : OccurrenceMetaV1}
    (h : Classified sha pending proposal resolved proposal_class link metadata) :
    RecordedFrom pending
      { metadata := { metadata with residuals := pending.metadata.residuals }
        observation := resolved, proposal, proposal_ref := proposal.reference sha, link } := by
  cases h with
  | initial hprior => exact ⟨rfl, rfl, rfl, rfl, .initial hprior rfl rfl⟩
  | retry hprior hkey havailable hproposal hpreconditions =>
    exact ⟨rfl, rfl, rfl, rfl, .retry hprior rfl hkey.symm hproposal hpreconditions
      ⟨rfl, rfl, rfl, rfl, rfl, rfl⟩⟩
  | successor hprior hkey hproposal =>
    exact ⟨rfl, rfl, rfl, rfl, .successor hprior rfl hkey.symm hproposal rfl⟩

/-- Halting keeps every coordinate but, for an escalation, the budget. -/
theorem halted_from_halted (current : OccurrenceSnapshotV1) (reason : HaltReasonRefV1)
    {budget : LoopBudgetV1} (hbudget : budget_same_or_one_escalation current.state.metadata.budget budget) :
    HaltedFrom current.state (halted_from current { current.state.metadata with budget } reason) where
  source := rfl
  key := rfl
  program := rfl
  residuals := rfl
  used_human_decisions := rfl
  budget := hbudget
  prior_key := rfl
  unresolved_attempt := rfl
  history := rfl

/-- Every kernel step from a sound snapshot is a legal successor. -/
theorem KernelStep.legal (hsha : sha.CollisionFree) {op : KernelOp} {source target : OccurrenceSnapshotV1}
    (hintegrity : source.validate_integrity sha = .ok ()) (h : KernelStep sha op source target) :
    LegalSuccessor source target := by
  cases h with
  | proposed _ hs _ _ hclass ht => exact .proposed hs ht.state_eq hclass.recorded_from
  | standing _ hs ht => exact .standing hs ht.state_eq
  | @admitted _ required _ _ _ _ hs hresolved ht =>
    have hrecorded : SoundProposal sha required.metadata required :=
      sound_proposal_of_integrity hintegrity (by rw [hs]; rfl)
    have hadmissible := (resolve_admissibility_eq_ok_iff.mp hresolved).2
    exact .admitted hs ht.state_eq (hadmissible.same_proposal_basis hsha hrecorded)
  | @consumed _ pending _ _ _ _ hs hresolved ht =>
    have hrecorded : SoundProposal sha pending.proposal.metadata pending.proposal :=
      sound_proposal_of_integrity hintegrity (by rw [hs]; rfl)
    have hadmissible := (resolve_admissibility_eq_ok_iff.mp hresolved).2
    exact .consumed hs ht.state_eq (hadmissible.same_proposal_basis hsha hrecorded)
  | dispatched _ hs ht => exact .dispatched hs ht.state_eq
  | settled _ hs ht => exact .settled hs ht.state_eq
  | indeterminate _ hs ht => exact .indeterminate hs ht.state_eq
  | reconciled _ hs ht => exact .reconciled hs ht.state_eq
  | continued _ hs hdistinct ht =>
    refine .continued hs ht.state_eq ⟨?_, ?_, ?_, ?_, ?_, ?_⟩ ?_ <;>
      simp [continuation_of, OccurrenceSnapshotV1.key, hs, OccurrenceStateV1.metadata]
    exact fun hkey => hdistinct (congrArg OccurrenceKeyV1.occurrence hkey)
  | probed _ hpc _ ht =>
    refine .probed ?_ ?_ (ht.state_eq ▸ probed_validate_probe_successor source.state)
    · rcases hpc with hpc | hpc <;> simp [hpc]
    · simp [OccurrenceSnapshotV1.program_counter, ht.state_eq]
  | halted hop hsafe ht =>
    refine .halted hsafe ht.state_eq ?_
    rcases hop with ⟨_, rfl⟩ | ⟨_, _, rfl⟩
    · exact halted_from_halted source _ ⟨rfl, rfl, rfl, rfl, rfl, .inl rfl⟩
    · exact halted_from_halted source _ ⟨rfl, rfl, rfl, rfl, rfl, .inr rfl⟩
  | completed _ hs _ _ ht => exact .completed hs ht.state_eq rfl
  | decided _ hs _ ht =>
    exact .decided hs ht.state_eq ⟨rfl, rfl, rfl, rfl, rfl, rfl, rfl, rfl,
      exactly_one_appended_iff.mpr ⟨_, rfl⟩, fun _ hitem => hitem⟩
  | resumed _ hs _ hresolved hdistinct ht =>
    refine .resumed hs ht.state_eq hresolved ⟨?_, ?_, ?_, ?_, ?_, ?_⟩ <;>
      simp [resumed_from, OccurrenceSnapshotV1.key, hs, OccurrenceStateV1.metadata]
    exact fun hkey => hdistinct (congrArg OccurrenceKeyV1.occurrence hkey)
  | discharged _ hs _ hdischarge ht =>
    refine .decided hs ht.state_eq ⟨rfl, rfl, rfl, rfl, rfl, rfl, rfl, rfl,
      exactly_one_appended_iff.mpr ⟨_, rfl⟩, fun item hitem => ?_⟩
    exact List.mem_of_mem_filter (hdischarge.remaining_eq ▸ hitem)
  | terminated _ hs hresolved hempty _ ht =>
    exact .terminated hs ht.state_eq ⟨hresolved, hempty, hempty, rfl, rfl, rfl,
      exactly_one_appended_iff.mpr ⟨_, rfl⟩, rfl⟩

theorem KernelStep.validated (hsha : sha.CollisionFree) {op : KernelOp} {source target : OccurrenceSnapshotV1}
    (hintegrity : source.validate_integrity sha = .ok ()) (h : KernelStep sha op source target) :
    validate_successor sha source target = .ok () :=
  validate_successor_eq_ok_iff.mpr ⟨hintegrity, h.integrity, h.prior_eq, h.legal hsha hintegrity⟩

/-- Membrane completeness. Whatever a kernel operation produces from a sound
snapshot, the persistence membrane accepts, step by step. -/
theorem validate_successor_of_apply (hsha : sha.CollisionFree) {op : KernelOp}
    {current : OccurrenceSnapshotV1} {added : List OccurrenceSnapshotV1}
    (hintegrity : current.validate_integrity sha = .ok ()) (happly : op.apply sha current = .ok added) :
    (current :: added).IsChain fun source target => validate_successor sha source target = .ok () := by
  have hchain := apply_steps happly
  clear happly
  induction added generalizing current with
  | nil => exact .singleton _
  | cons target rest ih =>
    obtain ⟨hstep, hrest⟩ := List.isChain_cons_cons.mp hchain
    exact .cons_cons (hstep.validated hsha hintegrity) (ih hstep.integrity hrest)

/-- A created campaign that is halted is one such step. -/
theorem validate_successor_of_apply_halt :
    ∃ current halted : OccurrenceSnapshotV1, current.validate_integrity ideal_sha = .ok () ∧
      (KernelOp.halt ⟨⟨[5]⟩⟩).apply ideal_sha current = .ok [halted] ∧
      [current, halted].IsChain fun source target =>
        validate_successor ideal_sha source target = .ok () := by
  obtain ⟨current, _, hintegrity, hcounter⟩ := created_sample ideal_sha
  obtain ⟨halted, hhalt⟩ := halt_ok hintegrity (by rw [hcounter]; rfl) ⟨⟨[5]⟩⟩
  have happly : (KernelOp.halt ⟨⟨[5]⟩⟩).apply ideal_sha current = .ok [halted] :=
    applied hhalt
  exact ⟨current, halted, hintegrity, happly,
    validate_successor_of_apply ideal_sha_collision_free hintegrity happly⟩

end ag_campaign.governed

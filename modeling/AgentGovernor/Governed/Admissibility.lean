import AgentGovernor.Governed.Resolve

open ag_primitives Checked

namespace ag_campaign.governed

/-- The boundaries, pinned identities and clock that recording an admission and
consuming an authorization both take. -/
structure AdmissibilityPremises where
  observation_resolver : ObservationResolverV1
  standing_resolver : StandingResolverV1
  decider : AdmissibilityDeciderV1
  controlling_rejected_review : Option C1RejectedReviewBasisV1
  expected_observation_resolver : String
  expected_standing_resolver : String
  max_standing_ttl_ms : UInt64
  now_unix_ms : UInt64

def validate_repair (repair : Option C1RepairCitationV1)
    (controlling_rejected_review : Option C1RejectedReviewBasisV1) : Except KernelErrorV1 Unit :=
  match repair, controlling_rejected_review with
  | some citation, some controlling => validate_exact_c1_repair citation controlling
  | some _, none => throw .AlteredFindingSet
  | none, _ => pure ()

def resolve_admissibility (sha : Sha256) (basis : ProposalBasisV1) (premises : AdmissibilityPremises) :
    Except KernelErrorV1
      (VersionedObservationResolutionV1 × CurrentStandingResolutionV2 × AdmissionDecisionV1) := do
  let observation ← resolve_observation sha premises.observation_resolver basis.metadata.key
    basis.observation.observation basis.proposal.subject premises.expected_observation_resolver
    premises.now_unix_ms
  reject (observation.normalized_preconditions ≠ basis.observation.normalized_preconditions)
    .ObservationNotCurrent
  let standing ← resolve_standing premises.standing_resolver basis observation
    premises.expected_standing_resolver premises.max_standing_ttl_ms premises.now_unix_ms
  validate_repair basis.proposal.repair premises.controlling_rejected_review
  let decision ← map_err (premises.decider.decide_admissibility
    { proposal := basis.proposal
      observation
      standing
      controlling_rejected_review := premises.controlling_rejected_review }) KernelErrorV1.External
  reject (decision.key ≠ basis.metadata.key ∨ decision.observation ≠ observation.observation ∨
      decision.proposal ≠ basis.proposal_ref ∨ decision.standing_resolution ≠ standing.resolution)
    (.BindingMismatch "admission decision")
  match decision.disposition with
  | .Admitted => pure (observation, standing, decision)
  | .Refused => throw .Inadmissible
  | .Contradiction => throw .ObservationContradiction

/-- The external answers an admission was resolved from. -/
structure AdmissibilityPremises.Answered (premises : AdmissibilityPremises) (basis : ProposalBasisV1)
    (observation : VersionedObservationResolutionV1) (standing : CurrentStandingResolutionV2)
    (decision : AdmissionDecisionV1) : Prop where
  observed : premises.observation_resolver.resolve_observation
    ⟨basis.metadata.key, basis.observation.observation, basis.proposal.subject,
      premises.now_unix_ms⟩ = .ok observation
  stood : premises.standing_resolver.resolve_standing
    ⟨basis.metadata.key, observation.observation, basis.proposal_ref, basis.proposal.subject,
      basis.proposal.scope, premises.now_unix_ms⟩ = .ok standing
  decided : premises.decider.decide_admissibility
    ⟨basis.proposal, observation, standing, premises.controlling_rejected_review⟩ = .ok decision

/-- What the kernel knows of an admission it resolved for a recorded proposal. -/
structure ResolvedAdmissibility (sha : Sha256) (basis : ProposalBasisV1) (premises : AdmissibilityPremises)
    (observation : VersionedObservationResolutionV1) (standing : CurrentStandingResolutionV2)
    (decision : AdmissionDecisionV1) : Prop where
  resolved_observation : ResolvedObservation sha basis.metadata.key basis.observation.observation
    basis.proposal.subject premises.expected_observation_resolver premises.now_unix_ms observation
  preconditions_eq : observation.normalized_preconditions = basis.observation.normalized_preconditions
  resolved_standing : ResolvedStanding basis observation premises.expected_standing_resolver
    premises.max_standing_ttl_ms premises.now_unix_ms standing
  repair : validate_repair basis.proposal.repair premises.controlling_rejected_review = .ok ()
  decision_key : decision.key = basis.metadata.key
  decision_observation : decision.observation = observation.observation
  decision_proposal : decision.proposal = basis.proposal_ref
  decision_standing : decision.standing_resolution = standing.resolution
  admitted : decision.disposition = .Admitted

theorem resolve_admissibility_eq_ok_iff {sha : Sha256} {basis : ProposalBasisV1}
    {premises : AdmissibilityPremises} {observation : VersionedObservationResolutionV1}
    {standing : CurrentStandingResolutionV2} {decision : AdmissionDecisionV1} :
    resolve_admissibility sha basis premises = .ok (observation, standing, decision) ↔
      premises.Answered basis observation standing decision ∧
      ResolvedAdmissibility sha basis premises observation standing decision := by
  unfold resolve_admissibility
  simp only [ok_rules, resolve_observation_eq_ok_iff, resolve_standing_eq_ok_iff]
  constructor
  · rintro ⟨o, ⟨ho, hobservation⟩, hpreconditions, s, ⟨hs, hstanding⟩, hrepair, d, hd,
      ⟨hkey, hdo, hdp, hds⟩, hdisposition⟩
    split at hdisposition
    · next hadmitted =>
      obtain ⟨rfl, rfl, rfl⟩ : o = observation ∧ s = standing ∧ d = decision := by
        simpa [pure, Except.pure] using hdisposition
      exact ⟨⟨ho, hs, hd⟩, hobservation, hpreconditions, hstanding, hrepair, hkey, hdo, hdp, hds,
        hadmitted⟩
    all_goals exact absurd hdisposition throw_ne_ok
  · rintro ⟨⟨ho, hs, hd⟩, h⟩
    exact ⟨observation, ⟨ho, h.resolved_observation⟩, h.preconditions_eq, standing, ⟨hs, h.resolved_standing⟩, h.repair,
      decision, hd, ⟨h.decision_key, h.decision_observation, h.decision_proposal, h.decision_standing⟩,
      by simp [h.admitted, pure, Except.pure]⟩

end ag_campaign.governed

import AgentGovernor.Governed.Inversion
import AgentGovernor.Governed.Integrity
import AgentGovernor.Governed.Membrane

open ag_primitives Checked

namespace ag_campaign.governed

/-- A boundary that gives one fixed answer. -/
def ObservationResolverV1.answering (answer : VersionedObservationResolutionV1) : ObservationResolverV1 :=
  ⟨fun _ => .ok answer⟩

def StandingResolverV1.answering (answer : CurrentStandingResolutionV2) : StandingResolverV1 :=
  ⟨fun _ => .ok answer⟩

def AdmissibilityDeciderV1.answering (answer : AdmissionDecisionV1) : AdmissibilityDeciderV1 :=
  ⟨fun _ => .ok answer⟩

variable {now : UInt64} {sha : Sha256}

/-- What was resolved passes the structural check of a stored resolution. -/
theorem ResolvedObservation.sound {key : OccurrenceKeyV1} {observation : ObservationRefV1}
    {subject : Digest} {expected : String} {resolved : VersionedObservationResolutionV1}
    (h : ResolvedObservation sha key observation subject expected now resolved) :
    SoundObservation sha resolved where
  own_schema := h.own_schema
  basis_valid := h.basis_valid
  basis_digest := h.basis_digest
  identified := h.resolver_id ▸ h.expected_nonempty
  window := UInt64.lt_of_le_of_lt h.resolved_before h.fresh

/-- A stored current observation can be resolved again inside its window. -/
theorem SoundObservation.resolve {observation : VersionedObservationResolutionV1}
    (h : SoundObservation sha observation) (hcurrent : observation.is_current = true)
    (hbefore : observation.resolved_at_unix_ms ≤ now) (hfresh : now < observation.fresh_until_unix_ms) :
    ResolvedObservation sha observation.key observation.observation observation.subject
      observation.resolver_id now observation :=
  ⟨h.own_schema, h.identified, rfl, rfl, rfl, rfl, h.basis_valid, h.basis_digest, hbefore, hfresh, hcurrent⟩

/-- Boundaries that answer with exactly what an admission recorded. -/
def answering_premises (admitted : AdmissibleBasisV1) (now : UInt64) : AdmissibilityPremises :=
  { observation_resolver := .answering admitted.proposal.observation
    standing_resolver := .answering admitted.standing
    decider := .answering admitted.decision
    controlling_rejected_review := admitted.proposal.proposal.repair
    expected_observation_resolver := admitted.proposal.observation.resolver_id
    expected_standing_resolver := admitted.standing.resolver_id
    max_standing_ttl_ms := admitted.standing.expires_at_unix_ms - admitted.standing.resolved_at_unix_ms
    now_unix_ms := now }

/-- The standing answer names its resolver, and both answers are current at `now`. -/
structure PresentableAt (observation : VersionedObservationResolutionV1)
    (standing : CurrentStandingResolutionV2) (now : UInt64) : Prop where
  identified : standing.resolver_id ≠ ""
  observed_before : observation.resolved_at_unix_ms ≤ now
  fresh : now < observation.fresh_until_unix_ms
  resolved_before : standing.resolved_at_unix_ms ≤ now
  unexpired : now < standing.expires_at_unix_ms

theorem ResolvedAdmissibility.presentable {basis : ProposalBasisV1}
    {premises : AdmissibilityPremises} {observation : VersionedObservationResolutionV1}
    {standing : CurrentStandingResolutionV2} {decision : AdmissionDecisionV1}
    (h : ResolvedAdmissibility sha basis premises observation standing decision) :
    PresentableAt observation standing premises.now_unix_ms where
  identified := h.resolved_standing.resolver_id ▸ h.resolved_standing.expected_nonempty
  observed_before := h.resolved_observation.resolved_before
  fresh := h.resolved_observation.fresh
  resolved_before := h.resolved_standing.resolved_before
  unexpired := h.resolved_standing.unexpired

/-- A sound admission of a recorded proposal is what resolving it again gives, at
every moment its answers are current. -/
theorem answering_premises_resolve {basis : ProposalBasisV1} {admitted : AdmissibleBasisV1}
    (hproposal : SoundProposal sha admitted.proposal.metadata admitted.proposal)
    (hadmitted : SoundAdmission admitted) (hsame : same_proposal_basis basis admitted.proposal)
    (hnow : PresentableAt admitted.proposal.observation admitted.standing now) :
    resolve_admissibility sha basis (answering_premises admitted now) =
      .ok (admitted.proposal.observation, admitted.standing, admitted.decision) := by
  obtain ⟨hmetadata, hwork, href, _, _, _, hobservation, hpreconditions, _, _⟩ := hsame
  have hresolved := hproposal.observation.resolve hproposal.current hnow.observed_before hnow.fresh
  rw [hproposal.observation_key, hproposal.observation_subject, ← hmetadata, ← hwork, ← hobservation]
    at hresolved
  refine resolve_admissibility_eq_ok_iff.mpr ⟨⟨rfl, rfl, rfl⟩, hresolved, hpreconditions.symm, ?_, ?_,
    hmetadata ▸ hadmitted.decision_key, hadmitted.decision_observation, href ▸ hadmitted.decision_proposal,
    hadmitted.decision_standing, hadmitted.admitted⟩
  · exact ⟨hadmitted.standing_schema, hnow.identified, rfl, hmetadata ▸ hadmitted.standing_key,
      hadmitted.standing_observation, href ▸ hadmitted.standing_proposal,
      hwork ▸ hadmitted.standing_subject, hwork ▸ hadmitted.standing_scope, UInt64.le_refl _,
      hnow.resolved_before, hnow.unexpired, hadmitted.standing_current⟩
  · rw [hwork]
    simp only [answering_premises, validate_repair]
    cases admitted.proposal.proposal.repair with
    | none => rfl
    | some citation => simp [validate_exact_c1_repair, reject_eq_ok_iff]

/-- A state that passes its own checks can follow any snapshot it is linked to. -/
theorem follows_successor {current : OccurrenceSnapshotV1} {state : OccurrenceStateV1}
    (hbudget : state.metadata.budget.validate = .ok ())
    (hlink : ∀ value prior, state = .ObservationRequired value → value.prior = some prior →
      prior.state_digest = current.state_digest)
    (hvalid : validate_state sha state = .ok ()) :
    Follows sha current state (successor_snapshot sha current state) :=
  ⟨rfl, validate_integrity_eq_ok_iff.mpr ⟨hbudget, rfl, hlink, hvalid⟩⟩

/-- A state that opens no occurrence can follow any snapshot once its own checks pass. -/
theorem follows_within {current : OccurrenceSnapshotV1} {state : OccurrenceStateV1}
    (hbudget : state.metadata.budget.validate = .ok ())
    (hnodup : state.metadata.used_human_decisions.Nodup)
    (hcounter : state.program_counter ≠ .ObservationRequired)
    (hbasis : ∀ basis, state.proposal_basis = some basis →
      validate_proposal_basis sha state.metadata basis = .ok ())
    (hpayload : validate_payload sha state = .ok ()) :
    Follows sha current state (successor_snapshot sha current state) := by
  refine follows_successor hbudget ?_ (validate_state_eq_ok_iff.mpr ⟨hnodup, hbasis, hpayload⟩)
  rintro value prior rfl
  exact absurd rfl hcounter

/-- The checks a snapshot passed, one by one. -/
theorem checks_of_integrity {current : OccurrenceSnapshotV1} {state : OccurrenceStateV1}
    (hintegrity : current.validate_integrity sha = .ok ()) (hstate : current.state = state) :
    state.metadata.budget.validate = .ok () ∧ state.metadata.used_human_decisions.Nodup ∧
      (∀ basis, state.proposal_basis = some basis →
        validate_proposal_basis sha state.metadata basis = .ok ()) ∧
      validate_payload sha state = .ok () := by
  obtain ⟨hbudget, _, _, hvalid⟩ := validate_integrity_eq_ok_iff.mp hintegrity
  rw [hstate] at hbudget hvalid
  exact ⟨hbudget, validate_state_eq_ok_iff.mp hvalid⟩

/-- A current typed observation of the given subject, fresh at time zero. -/
def typed_observation (sha : Sha256) (key : OccurrenceKeyV1) (observation : ObservationRefV1)
    (subject : Digest) : VersionedObservationResolutionV1 :=
  let basis : TypedOpaqueObservationBasisV1 :=
    { schema := TYPED_OBSERVATION_BASIS_SCHEMA_V1, basis_type := "observed", basis_identity := subject }
  .TypedV3
    { schema := OBSERVATION_RESOLUTION_SCHEMA_V3
      key
      observation
      currentness := .from_digest subject
      normalized_preconditions := .from_digest (digest_value sha TYPED_OBSERVATION_BASIS_SCHEMA_V1 basis)
      basis
      resolver_id := "observer"
      subject
      status := .Current
      resolved_at_unix_ms := 0
      fresh_until_unix_ms := 1 }

theorem observed_basis_valid (identity : Digest) : TypedOpaqueObservationBasisV1.validate
    ⟨TYPED_OBSERVATION_BASIS_SCHEMA_V1, "observed", identity⟩ = .ok () := by
  simp only [TypedOpaqueObservationBasisV1.validate, ok_rules]
  exact ⟨by decide, by rfl, by decide⟩

theorem typed_observation_resolved (sha : Sha256) (key : OccurrenceKeyV1) (observation : ObservationRefV1)
    (subject : Digest) :
    ResolvedObservation sha key observation subject "observer" 0
      (typed_observation sha key observation subject) := by
  refine ⟨rfl, by decide, rfl, rfl, rfl, rfl, observed_basis_valid subject, ?_, (by decide : (0 : UInt64) ≤ 0),
    (by decide : (0 : UInt64) < 1), rfl⟩
  simp [VersionedObservationResolutionV1.basis_binding_digest, typed_observation,
    TypedOpaqueObservationBasisV1.binding_digest, observed_basis_valid,
    VersionedObservationResolutionV1.normalized_preconditions, bind, Except.bind, pure, Except.pure]

/-- The standing of a recorded proposal, current at time zero. -/
def current_standing (basis : ProposalBasisV1) : CurrentStandingResolutionV2 :=
  { schema := STANDING_RESOLUTION_SCHEMA_V2
    resolution := .from_digest basis.proposal.subject
    currentness := .from_digest basis.proposal.subject
    mandate := .from_digest basis.proposal.subject
    key := basis.metadata.key
    observation := basis.observation.observation
    proposal := basis.proposal_ref
    subject := basis.proposal.subject
    scope := basis.proposal.scope
    resolver_id := "standing"
    status := .Current
    resolved_at_unix_ms := 0
    expires_at_unix_ms := 1 }

def admitting_decision (basis : ProposalBasisV1) : AdmissionDecisionV1 :=
  { decision := .from_digest basis.proposal.subject
    key := basis.metadata.key
    observation := basis.observation.observation
    proposal := basis.proposal_ref
    standing_resolution := (current_standing basis).resolution
    disposition := .Admitted
    policy_basis := basis.proposal.scope }

/-- A campaign can be created under every consistent budget. -/
theorem create_initial_ok {budget : LoopBudgetV1} (hbudget : budget.validate = .ok ())
    (campaign : CampaignId) (occurrence : OccurrenceId) (program : ProgramBasisRefV1)
    (expected_work : Digest) (residuals : ResidualSetV1) :
    ∃ initial, GovernedLoopKernelV1.create_initial sha campaign occurrence program expected_work residuals
      budget = .ok initial := by
  simp only [GovernedLoopKernelV1.create_initial, ok_rules]
  refine ⟨_, hbudget, validate_integrity_eq_ok_iff.mpr ⟨hbudget, rfl, ?_, ?_⟩, rfl⟩
  · rintro value prior hstate hprior
    cases hstate
    cases hprior
  · refine validate_state_eq_ok_iff.mpr ⟨List.nodup_nil, ?_, rfl⟩
    simp [OccurrenceStateV1.proposal_basis]

/-- A new campaign for the work `[1]`. -/
theorem created_sample (sha : Sha256) : ∃ initial : OccurrenceSnapshotV1,
    GovernedLoopKernelV1.create_initial sha ⟨⟨[]⟩⟩ ⟨0⟩ ⟨⟨[]⟩⟩ ⟨[1]⟩ ⟨[], .nil⟩ ⟨0, 0, 0, 0, 0, 0⟩ = .ok initial ∧
      initial.validate_integrity sha = .ok () ∧ initial.program_counter = .ObservationRequired := by
  have hbudget : LoopBudgetV1.validate ⟨0, 0, 0, 0, 0, 0⟩ = .ok () := by rfl
  obtain ⟨initial, hcreated⟩ := create_initial_ok hbudget ⟨⟨[]⟩⟩ ⟨0⟩ ⟨⟨[]⟩⟩ ⟨[1]⟩ ⟨[], .nil⟩
  obtain ⟨hintegrity, hstate⟩ := GovernedLoopKernelV1.create_initial_eq_ok hcreated
  exact ⟨initial, hcreated, hintegrity, congrArg OccurrenceStateV1.program_counter hstate⟩

/-- A sound snapshot at a safe boundary can always be halted. -/
theorem halt_ok {current : OccurrenceSnapshotV1}
    (hintegrity : current.validate_integrity sha = .ok ())
    (hsafe : is_safe_halt_source current.program_counter = true) (reason : HaltReasonRefV1) :
    ∃ next, GovernedLoopKernelV1.halt sha current reason = .ok next := by
  obtain ⟨hbudget, hnodup, _, _⟩ := checks_of_integrity hintegrity rfl
  refine ⟨_, GovernedLoopKernelV1.halt_eq_ok_iff.mpr ⟨hintegrity, hsafe,
    follows_within hbudget hnodup (by rintro ⟨⟩) nofun ?_⟩⟩
  simp only [validate_payload, ok_rules]
  refine ⟨rfl, ?_⟩
  change (unresolved_attempt_of current.state).isSome = (current.state.program_counter == _)
  cases current.state <;> rfl

section Attainable

open GovernedLoopKernelV1

variable {sha : Sha256} {current : OccurrenceSnapshotV1}

/-- The proposal as recorded for a first occurrence. -/
def recorded_basis (sha : Sha256) (pending : ObservationRequiredV1) (proposal : ExactWorkProposalV1)
    (observation : ObservationRefV1) : ProposalBasisV1 :=
  { metadata := pending.metadata
    observation := typed_observation sha pending.metadata.key observation proposal.subject
    proposal
    proposal_ref := proposal.reference sha
    link := .Initial }

/-- The admission of a recorded proposal under the fixed answers. -/
def admitted_basis (basis : ProposalBasisV1) : AdmissibleBasisV1 :=
  { proposal := basis, standing := current_standing basis, decision := admitting_decision basis }

/-- A recorded proposal whose observation is current at time zero can be admitted and
its authorization spent, under some answers of the external boundaries. -/
theorem consume_recorded_ok {basis : ProposalBasisV1} (hintegrity : current.validate_integrity sha = .ok ())
    (hstate : current.state = .ProposalRecorded basis)
    (hbefore : basis.observation.resolved_at_unix_ms ≤ 0)
    (hfresh : 0 < basis.observation.fresh_until_unix_ms) :
    ∃ premises standing admitted consumed value,
      require_standing sha current = .ok standing ∧ standing.state = .StandingRequired basis ∧
      record_admissible sha standing premises = .ok admitted ∧
      admitted.state = .AdmissiblePendingAuthorization (admitted_basis basis) ∧
      consume_authorization sha admitted premises = .ok consumed ∧
      consumed.validate_integrity sha = .ok () ∧ consumed.state = .AuthorizationConsumed value ∧
      value.admitted = admitted_basis basis := by
  let s2 := successor_snapshot sha current (.StandingRequired basis)
  let s3 := successor_snapshot sha s2 (.AdmissiblePendingAuthorization (admitted_basis basis))
  obtain ⟨hbudget, hnodup, hproposal, _⟩ := checks_of_integrity hintegrity hstate
  have hsound := validate_proposal_basis_eq_ok_iff.mp (hproposal basis rfl)
  have hadmissible : validate_admissible_basis (admitted_basis basis) = .ok () :=
    validate_admissible_basis_eq_ok_iff.mpr ⟨rfl, rfl, rfl, rfl, rfl, rfl, rfl, rfl, rfl, rfl, rfl, rfl⟩
  have hadmits : resolve_admissibility sha basis (answering_premises (admitted_basis basis) 0) = _ :=
    answering_premises_resolve hsound (validate_admissible_basis_eq_ok_iff.mp hadmissible)
      ⟨rfl, rfl, rfl, rfl, rfl, rfl, rfl, rfl, rfl, hsound.current⟩
      ⟨(by decide : "standing" ≠ ""), hbefore, hfresh, (by decide : (0 : UInt64) ≤ 0),
        (by decide : (0 : UInt64) < 1)⟩
  have hauthorized : validate_authorized sha (authorize sha (admitted_basis basis) 0) = .ok () := by
    simp only [validate_authorized, ok_rules]
    exact ⟨hadmissible, by simp [authorize], by simp [authorize]⟩
  have hstanding : Follows sha current (.StandingRequired basis) s2 :=
    follows_within hbudget hnodup (by rintro ⟨⟩) hproposal rfl
  have hadmitted : Follows sha s2 (.AdmissiblePendingAuthorization (admitted_basis basis)) s3 :=
    follows_within hbudget hnodup (by rintro ⟨⟩) hproposal hadmissible
  have hconsumed : Follows sha s3 (.AuthorizationConsumed (authorize sha (admitted_basis basis) 0)) _ :=
    follows_within hbudget hnodup (by rintro ⟨⟩) hproposal hauthorized
  refine ⟨answering_premises (admitted_basis basis) 0, s2, s3, _, _, ?_, rfl, ?_, rfl, ?_, hconsumed.integrity,
    hconsumed.state_eq, rfl⟩
  · exact require_standing_eq_ok_iff.mpr ⟨hintegrity, basis, hstate, hstanding⟩
  · exact record_admissible_eq_ok_iff.mpr ⟨hstanding.integrity, basis, _, _, _, rfl, hadmits, hadmitted⟩
  · exact consume_authorization_eq_ok_iff.mpr ⟨hadmitted.integrity, admitted_basis basis, _, _, _, rfl, hadmits,
      hconsumed⟩

end Attainable

/-- A request to halt an occurrence at the state it stands in. -/
def halt_request (sha : Sha256) (key : OccurrenceKeyV1) (target_state_digest : Digest) :
    GovernedInterventionRequestV1 :=
  let request : GovernedInterventionRequestV1 :=
    { schema := GOVERNED_INTERVENTION_SCHEMA_V1
      request := ⟨⟨[]⟩⟩
      principal := ⟨⟨[]⟩⟩
      mandate := ⟨⟨[]⟩⟩
      nonce := ⟨⟨[]⟩⟩
      campaign := key.campaign
      occurrence := key.occurrence
      target_state_digest
      intervention := .HaltContinuation ⟨⟨[]⟩⟩
      created_at_unix_ms := 0
      expires_at_unix_ms := 1 }
  { request with request := request.derived_request_id sha }

theorem halt_request_valid (sha : Sha256) (key : OccurrenceKeyV1) (target_state_digest : Digest) :
    (halt_request sha key target_state_digest).validate_integrity sha = .ok () := by
  simp only [GovernedInterventionRequestV1.validate_integrity, ok_rules]
  exact ⟨rfl, rfl, (by decide : ¬ (0 : UInt64) ≥ 1), rfl⟩

end ag_campaign.governed

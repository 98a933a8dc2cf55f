import AgentGovernor.Governed.Snapshot

open ag_primitives Checked Windows

namespace ag_campaign.governed

variable {sha : Sha256}

/-- What the structural check of a stored observation establishes. -/
structure SoundObservation (sha : Sha256) (observation : VersionedObservationResolutionV1) : Prop where
  own_schema : observation.has_own_schema = true
  basis_valid : observation.validate_basis sha = .ok ()
  basis_digest : observation.basis_binding_digest sha = .ok observation.normalized_preconditions.as_digest
  identified : observation.resolver_id ≠ ""
  window : observation.resolved_at_unix_ms < observation.fresh_until_unix_ms

theorem validate_observation_resolution_integrity_eq_ok_iff
    {observation : VersionedObservationResolutionV1} :
    validate_observation_resolution_integrity sha observation = .ok () ↔
      SoundObservation sha observation := by
  simp only [validate_observation_resolution_integrity, ok_rules, Bool.not_eq_false, ge_iff_le, UInt64.not_le]
  constructor
  · rintro ⟨hschema, hvalid, digest, hdigest, hbound, hid, hwindow⟩
    exact ⟨hschema, hvalid, by rw [hdigest, hbound], hid, hwindow⟩
  · rintro ⟨hschema, hvalid, hdigest, hid, hwindow⟩
    exact ⟨hschema, hvalid, _, hdigest, rfl, hid, hwindow⟩

/-- The occurrence a recorded proposal names as its predecessor. -/
def OccurrenceLinkV1.linked : OccurrenceLinkV1 → Option OccurrenceKeyV1
  | .Initial => none
  | .RetryOf prior | .SuccessorOf prior => some prior

/-- What the structural check of a recorded proposal establishes. -/
structure SoundProposal (sha : Sha256) (metadata : OccurrenceMetaV1) (basis : ProposalBasisV1) : Prop where
  proposal_valid : basis.proposal.validate = .ok ()
  observation : SoundObservation sha basis.observation
  campaign : basis.proposal.campaign = metadata.key.campaign
  observation_key : basis.observation.key = metadata.key
  proposal_ref : basis.proposal_ref = basis.proposal.reference sha
  observation_subject : basis.observation.subject = basis.proposal.subject
  current : basis.observation.is_current = true
  link : ∀ prior, basis.link.linked = some prior →
    prior ≠ metadata.key ∧ prior.campaign = metadata.key.campaign

theorem validate_proposal_basis_eq_ok_iff {metadata : OccurrenceMetaV1} {basis : ProposalBasisV1} :
    validate_proposal_basis sha metadata basis = .ok () ↔ SoundProposal sha metadata basis := by
  simp only [validate_proposal_basis, ok_rules, Bool.not_eq_false,
    validate_observation_resolution_integrity_eq_ok_iff]
  constructor
  · rintro ⟨hvalid, hobservation, ⟨hcampaign, hkey, href, hsubject, hcurrent⟩, hlinked⟩
    refine ⟨hvalid, hobservation, hcampaign, hkey, href, hsubject, hcurrent, ?_⟩
    cases hlink : basis.link with
    | Initial => simp [OccurrenceLinkV1.linked]
    | _ => simpa [hlink, OccurrenceLinkV1.linked, reject_eq_ok_iff] using hlinked
  · rintro ⟨hvalid, hobservation, hcampaign, hkey, href, hsubject, hcurrent, hlinked⟩
    refine ⟨hvalid, hobservation, ⟨hcampaign, hkey, href, hsubject, hcurrent⟩, ?_⟩
    cases hlink : basis.link with
    | Initial => rfl
    | _ => simpa [hlink, OccurrenceLinkV1.linked, reject_eq_ok_iff] using hlinked

/-- What the structural check of an admission establishes. -/
@[mk_iff]
structure SoundAdmission (value : AdmissibleBasisV1) : Prop where
  standing_schema : value.standing.schema = STANDING_RESOLUTION_SCHEMA_V2
  standing_key : value.standing.key = value.proposal.metadata.key
  standing_observation : value.standing.observation = value.proposal.observation.observation
  standing_proposal : value.standing.proposal = value.proposal.proposal_ref
  standing_subject : value.standing.subject = value.proposal.proposal.subject
  standing_scope : value.standing.scope = value.proposal.proposal.scope
  standing_current : value.standing.status = .Current
  decision_key : value.decision.key = value.proposal.metadata.key
  decision_observation : value.decision.observation = value.proposal.observation.observation
  decision_proposal : value.decision.proposal = value.proposal.proposal_ref
  decision_standing : value.decision.standing_resolution = value.standing.resolution
  admitted : value.decision.disposition = .Admitted

theorem validate_admissible_basis_eq_ok_iff {value : AdmissibleBasisV1} :
    validate_admissible_basis value = .ok () ↔ SoundAdmission value := by
  simp only [validate_admissible_basis, ok_rules, soundAdmission_iff]

theorem validate_state_eq_ok_iff {state : OccurrenceStateV1} :
    validate_state sha state = .ok () ↔
      state.metadata.used_human_decisions.Nodup ∧
      (∀ basis, state.proposal_basis = some basis →
        validate_proposal_basis sha state.metadata basis = .ok ()) ∧
      validate_payload sha state = .ok () := by
  simp only [validate_state, ok_rules, toFinset_card_eq_length_iff]
  refine and_congr_right fun _ => ?_
  cases state.proposal_basis <;> simp [ok_rules]

variable {snapshot : OccurrenceSnapshotV1}

/-- A snapshot passes exactly when its budget, its digest, the link of a
continuation and its state do; the residual set carries its own invariant. -/
theorem validate_integrity_eq_ok_iff :
    snapshot.validate_integrity sha = .ok () ↔
      snapshot.state.metadata.budget.validate = .ok () ∧
      state_digest sha snapshot.prior_state_digest snapshot.state = snapshot.state_digest ∧
      (∀ value prior, snapshot.state = .ObservationRequired value → value.prior = some prior →
        prior.state_digest = snapshot.prior_state_digest) ∧
      validate_state sha snapshot.state = .ok () := by
  simp only [OccurrenceSnapshotV1.validate_integrity, ok_rules, ResidualSetV1.new_obligations, Except.ok.injEq,
    exists_eq_left']
  refine and_congr_right fun _ => and_congr_right fun _ => ?_
  split
  · next hstate =>
    simp only [hstate, ok_rules, OccurrenceStateV1.ObservationRequired.injEq]
    refine and_congr_left fun _ => ⟨?_, fun h => h _ _ rfl rfl⟩
    rintro hlink value prior rfl hprior
    cases hprior
    exact hlink
  · next hother =>
    refine (and_iff_right ?_).symm
    rintro ⟨metadata, prior'⟩ prior hstate rfl
    exact absurd hstate (hother _ _)

theorem used_nodup_of_integrity (hintegrity : snapshot.validate_integrity sha = .ok ()) :
    snapshot.state.metadata.used_human_decisions.Nodup :=
  (validate_state_eq_ok_iff.mp (validate_integrity_eq_ok_iff.mp hintegrity).2.2.2).1

/-- Under a collision-free hash a sound snapshot is determined by its digest. -/
theorem eq_of_state_digest (hsha : sha.CollisionFree) {left right : OccurrenceSnapshotV1}
    (hleft : left.validate_integrity sha = .ok ()) (hright : right.validate_integrity sha = .ok ())
    (hdigest : left.state_digest = right.state_digest) : left = right := by
  obtain ⟨_, hl, _⟩ := validate_integrity_eq_ok_iff.mp hleft
  obtain ⟨_, hr, _⟩ := validate_integrity_eq_ok_iff.mp hright
  obtain ⟨hprior, hstate⟩ := (state_digest_inj hsha).mp (hl.trans (hdigest.trans hr.symm))
  cases left
  cases right
  simp_all

/-- The proposal recorded in a sound snapshot passes its structural check. -/
theorem sound_proposal_of_integrity {basis : ProposalBasisV1}
    (hintegrity : snapshot.validate_integrity sha = .ok ())
    (hbasis : snapshot.state.proposal_basis = some basis) : SoundProposal sha basis.metadata basis := by
  obtain ⟨_, _, _, hvalid⟩ := validate_integrity_eq_ok_iff.mp hintegrity
  rw [OccurrenceStateV1.proposal_basis_metadata hbasis]
  exact validate_proposal_basis_eq_ok_iff.mp ((validate_state_eq_ok_iff.mp hvalid).2.1 basis hbasis)

/-- A settled snapshot is bound to the issuance it settles and to its canonical attempt. -/
theorem settlement_bound {value : SettledObservationRequiredV1}
    (hintegrity : snapshot.validate_integrity sha = .ok ())
    (hstate : snapshot.state = .SettledObservationRequired value) :
    value.settlement.issuance = value.dispatch.authorized.issuance.issuance ∧
      value.settlement.attempt =
        DocketAttemptRefV1.for_issuance sha value.dispatch.authorized.issuance.issuance := by
  obtain ⟨_, _, _, hvalid⟩ := validate_integrity_eq_ok_iff.mp hintegrity
  obtain ⟨_, _, hpayload⟩ := validate_state_eq_ok_iff.mp hvalid
  simp only [hstate, validate_payload, validate_custody, validate_settlement, ok_rules] at hpayload
  obtain ⟨_, ⟨_, hissuance, _, _, hattempt, _⟩, _, hsettled, hbound, _⟩ := hpayload
  exact ⟨hsettled, by rw [hbound, hattempt, hissuance]⟩

end ag_campaign.governed

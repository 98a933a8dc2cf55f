import AgentGovernor.Governed.Human
import AgentGovernor.Governed.KernelSpec

open ag_primitives Checked Windows

namespace ag_campaign.governed

/-- The artifact is bound to this halted snapshot, in scope, unexpired and unused. -/
@[mk_iff]
structure ApplicableArtifact (current : OccurrenceSnapshotV1) (halted : HaltedV1)
    (artifact : HumanDispositionV1) (expected_scope : HumanAuthorityScopeV1) (now_unix_ms : UInt64) :
    Prop where
  schema : artifact.schema = HUMAN_DISPOSITION_SCHEMA_V1
  campaign : artifact.campaign = halted.metadata.key.campaign
  occurrence : artifact.occurrence = halted.metadata.key.occurrence
  halted_state_digest : artifact.halted_state_digest = current.state_digest
  unexpired : now_unix_ms < artifact.expires_at_unix_ms
  principal : artifact.principal = expected_scope.principal
  mandate : artifact.mandate = expected_scope.mandate
  unused : artifact.decision ∉ halted.metadata.used_human_decisions

variable {artifact : HumanDispositionV1} {current : OccurrenceSnapshotV1} {halted : HaltedV1}
  {remaining : ResidualSetV1}

theorem validate_human_artifact_eq_ok_iff {scope : HumanAuthorityScopeV1} {now : UInt64} :
    validate_human_artifact current halted artifact scope now = .ok () ↔
      ApplicableArtifact current halted artifact scope now := by
  simp only [validate_human_artifact, ok_rules, ge_iff_le, UInt64.not_le, applicableArtifact_iff]

/-- The halted state once the artifact's decision is consumed. -/
def HaltedV1.consume (halted : HaltedV1) (decision : HumanDecisionIdV1) : HaltedV1 :=
  { halted with metadata := halted.metadata.consume_decision decision }

theorem open_from_halt_eq_ok_iff {sha : Sha256} {occurrence : OccurrenceId} {program : ProgramBasisRefV1}
    {verification : HumanVerificationRefV1} {effect : HumanDispositionEffectV1} :
    open_from_halt sha current halted artifact occurrence program verification = .ok effect ↔
      occurrence ≠ halted.metadata.key.occurrence ∧ ∃ halted_snapshot successor,
        Follows sha current (.Halted (halted.consume artifact.decision)) halted_snapshot ∧
        Follows sha halted_snapshot (.ObservationRequired (resumed_from halted_snapshot
          (halted.consume artifact.decision) occurrence program)) successor ∧
        effect = .OpenedOccurrence halted_snapshot successor verification := by
  simp only [open_from_halt, HaltedV1.consume, ok_rules, checked_successor_eq_ok_iff, exists_and_left, ne_eq,
    eq_comm (a := effect)]

/-- Exact residual accounting: the four identity lists are duplicate free, `before`
is the whole open set, it splits into `closed` and `after`, and exactly the
`closed` ones were authorized. -/
structure DischargeAccounted (metadata : OccurrenceMetaV1) (discharge : ExactResidualDischargeV1)
    (decision : HumanDecisionIdV1) : Prop where
  campaign : discharge.campaign = metadata.key.campaign
  occurrence : discharge.occurrence = metadata.key.occurrence
  program : discharge.program = metadata.program
  disposition : discharge.disposition = decision
  nodup : discharge.before.Nodup ∧ discharge.authorized.Nodup ∧ discharge.closed.Nodup ∧
    discharge.after.Nodup
  before_eq : discharge.before.toFinset = metadata.residuals.ids
  authorized_eq : discharge.authorized.toFinset = discharge.closed.toFinset
  disjoint : Disjoint discharge.closed.toFinset discharge.after.toFinset
  union : discharge.before.toFinset = discharge.closed.toFinset ∪ discharge.after.toFinset

/-- An exactly accounted discharge and what it leaves open. -/
structure ExactDischarge (halted : HaltedV1) (discharge : ExactResidualDischargeV1)
    (decision : HumanDecisionIdV1) (remaining : ResidualSetV1) : Prop
    extends DischargeAccounted halted.metadata discharge decision where
  remaining_eq : remaining.obligations =
    halted.metadata.residuals.obligations.filter fun item => item.residual ∈ discharge.after.toFinset

theorem sorted_unique_ids_eq_some_iff {values : List ResidualIdV1} {ids : Finset ResidualIdV1} :
    sorted_unique_ids values = some ids ↔ values.Nodup ∧ values.toFinset = ids := by
  unfold sorted_unique_ids
  rw [← toFinset_card_eq_length_iff]
  split <;> simp_all

/-- Filtering a canonical set leaves a canonical set. -/
theorem new_filter_eq_ok_iff {residuals : ResidualSetV1} {keep : ResidualObligationV1 → Bool} :
    ResidualSetV1.new (residuals.obligations.filter keep) = .ok remaining ↔
      remaining.obligations = residuals.obligations.filter keep := by
  rw [ResidualSetV1.new_eq_ok_of_canonical (residuals.canonical.filter keep)]
  constructor
  · intro h
    cases h
    rfl
  · intro h
    exact congrArg _ (ResidualSetV1.ext h.symm)

theorem apply_exact_discharge_eq_ok_iff {discharge : ExactResidualDischargeV1}
    {decision : HumanDecisionIdV1} :
    apply_exact_discharge halted discharge decision = .ok remaining ↔
      ExactDischarge halted discharge decision remaining := by
  simp only [apply_exact_discharge, ok_rules, sorted_unique_ids_eq_some_iff, ResidualSetV1.as_slice,
    new_filter_eq_ok_iff]
  constructor
  · rintro ⟨⟨hcampaign, hoccurrence, hprogram, hdecision⟩, before, ⟨hbefore, rfl⟩, authorized,
      ⟨hauthorized, rfl⟩, closed, ⟨hclosed, rfl⟩, after, ⟨hafter, rfl⟩, ⟨hids, hexact, hdisjoint, hunion⟩,
      hremaining⟩
    exact ⟨⟨hcampaign, hoccurrence, hprogram, hdecision, ⟨hbefore, hauthorized, hclosed, hafter⟩, hids,
      hexact, hdisjoint, hunion⟩, hremaining⟩
  · intro h
    obtain ⟨hbefore, hauthorized, hclosed, hafter⟩ := h.nodup
    exact ⟨⟨h.campaign, h.occurrence, h.program, h.disposition⟩, _, ⟨hbefore, rfl⟩, _, ⟨hauthorized, rfl⟩,
      _, ⟨hclosed, rfl⟩, _, ⟨hafter, rfl⟩, ⟨h.before_eq, h.authorized_eq, h.disjoint, h.union⟩,
      h.remaining_eq⟩

end ag_campaign.governed

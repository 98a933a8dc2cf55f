import AgentGovernor.Store.WrittenSpec

open ag_primitives Checked ag_campaign ag_campaign.governed Relational Transaction

namespace ag_store

/-- The effect of recording a disposition on every table. -/
structure Disposed (artifact : HumanDispositionV1) (verification : HumanVerificationRefV1)
    (recorded_at_unix_ms : UInt64) (db db' : Db) : Prop where
  recorded_at : recorded_at_unix_ms ≤ I64_MAX
  reference : db.has_occurrence artifact.campaign artifact.occurrence
  human_dispositions : db'.human_dispositions.rows =
    db.human_dispositions.rows ++ [human_row artifact verification recorded_at_unix_ms]
  residual_discharges : db'.residual_discharges.rows =
    db.residual_discharges.rows ++ (new_discharge artifact).toList
  runtime_profile : db'.runtime_profile = db.runtime_profile
  campaigns : db'.campaigns = db.campaigns
  occurrences : db'.occurrences = db.occurrences
  transitions : db'.transitions = db.transitions
  spends : db'.ag_authorization_spends = db.ag_authorization_spends
  attempts : db'.docket_attempts = db.docket_attempts
  settlements : db'.docket_settlements = db.docket_settlements
  refusals : db'.refusals = db.refusals

section Spec

variable {sha : Sha256} {head : CampaignHeadRow} {expected successor first : OccurrenceSnapshotV1}
  {second : Option OccurrenceSnapshotV1} {kind : CampaignTransitionKindV1}
  {artifact : HumanDispositionV1} {verification : HumanVerificationRefV1}
  {verified : VerifiedGovernedInterventionV1} {recorded_at_unix_ms : UInt64} {db db' : Db}

/-- A decision and its nonce are recorded once. The explicit query repeats what
the constraints of the table already say. -/
theorem returns_insert_human_disposition_iff {u : Unit} :
    Returns (insert_human_disposition artifact verification recorded_at_unix_ms) db u db' ↔
      Disposed artifact verification recorded_at_unix_ms db db' := by
  unfold insert_human_disposition
  constructor
  · intro h
    obtain ⟨_, _, h⟩ := returns_query_bind_iff.mp h
    obtain ⟨_, _, h⟩ := returns_lift_bind_iff.mp h
    obtain ⟨_, hrange, h⟩ := returns_lift_bind_iff.mp h
    obtain ⟨hrecorded, rfl⟩ := to_i64_eq_ok_iff.mp hrange
    obtain ⟨_, _, hinsert, h⟩ := returns_bind_iff.mp h
    obtain ⟨hreference, humans, hhumans, rfl⟩ := returns_insert_into_iff.mp hinsert
    obtain ⟨_, discharges, hdischarges, rfl⟩ := (returns_insert_if_some_iff rfl).mp h
    exact ⟨hrecorded, hreference, hhumans, hdischarges, rfl, rfl, rfl, rfl, rfl, rfl, rfl, rfl⟩
  · intro h
    have hunused : ¬ ∃ row ∈ db.human_dispositions.rows,
        row.1 = artifact.decision ∨ row.2.nonce = artifact.nonce := by
      rintro ⟨row, hrow, hconflict⟩
      have hdistinct := db'.human_dispositions.distinct
      rw [h.human_dispositions] at hdistinct
      exact (List.pairwise_append.mp hdistinct).2.2 row hrow _ (List.mem_singleton_self _) hconflict
    refine returns_query_bind_iff.mpr ⟨false, by simpa using hunused, ?_⟩
    refine returns_lift_bind_iff.mpr ⟨(), by simp [reject], ?_⟩
    refine returns_lift_bind_iff.mpr ⟨_, to_i64_eq_ok_iff.mpr ⟨h.recorded_at, rfl⟩, ?_⟩
    refine returns_bind_iff.mpr ⟨(), _, returns_insert_into_iff.mpr
      ⟨h.reference, db'.human_dispositions, h.human_dispositions, rfl⟩, ?_⟩
    refine (returns_insert_if_some_iff rfl).mpr ⟨?_, db'.residual_discharges, h.residual_discharges, ?_⟩
    · intro row hrow
      refine ⟨human_row artifact verification recorded_at_unix_ms, by simp [h.human_dispositions], ?_⟩
      unfold new_discharge at hrow
      split at hrow
      · cases hrow
        rfl
      · cases hrow
    · exact Db.ext h.runtime_profile.symm h.campaigns.symm h.occurrences.symm h.transitions.symm
        h.spends.symm h.attempts.symm h.settlements.symm rfl rfl h.refusals.symm

namespace CampaignStoreV1

variable (hhead : db.campaigns.rows = [head])

include hhead

theorem returns_commit_iff {receipt : CampaignCommitReceiptV1} :
    Returns (commit sha expected successor kind recorded_at_unix_ms) db receipt db' ↔
      (kind ≠ .HumanDisposition ∧ kind ≠ .CampaignCreated) ∧
      Written sha head expected successor kind .None recorded_at_unix_ms db db' ∧
      receipt = receipt_of sha head expected successor kind .None recorded_at_unix_ms := by
  simp only [commit, returns_lift_bind_iff, ok_rules, validate_transition_kind_eq_ok_iff, returns_transaction_iff,
    returns_write_transition_iff hhead]
  exact and_congr_right fun _ => ⟨fun h => h.2, fun h => ⟨h.1.accepted.described, h⟩⟩

theorem returns_commit_governed_intervention_iff {receipt : CampaignCommitReceiptV1} :
    Returns (commit_governed_intervention sha expected successor kind verified recorded_at_unix_ms) db
        receipt db' ↔
      validate_governed_intervention_evidence sha expected successor kind verified = .ok () ∧
      Written sha head expected successor kind (.GovernedIntervention verified) recorded_at_unix_ms db db' ∧
      receipt = receipt_of sha head expected successor kind (.GovernedIntervention verified)
        recorded_at_unix_ms := by
  simp only [commit_governed_intervention, returns_lift_bind_iff, exists_unit_iff,
    returns_transaction_iff, returns_write_transition_iff hhead]

/-- A disposition is bound to the halted snapshot and recorded, and its one or two
transitions are written. -/
theorem returns_commit_human_disposition {effect : HumanDispositionEffectV1} {receipts : List CampaignCommitReceiptV1}
    (h : Returns (commit_human_disposition sha expected effect artifact recorded_at_unix_ms) db receipts db') :
    validate_human_store_binding sha expected (effect_first effect) (effect_second effect) artifact = .ok () ∧
    ∃ disposed middle, Disposed artifact (effect_verification effect) recorded_at_unix_ms db disposed ∧
      Written sha head expected (effect_first effect) .HumanDisposition
        (.HumanDisposition artifact (effect_verification effect)) recorded_at_unix_ms disposed middle ∧
      match effect_second effect with
      | none => middle = db' ∧ receipts = [receipt_of sha head expected (effect_first effect)
          .HumanDisposition (.HumanDisposition artifact (effect_verification effect)) recorded_at_unix_ms]
      | some second => ∃ next, middle.campaigns.rows = [next] ∧
        Written sha next (effect_first effect) second .HumanDisposition
          (.HumanDisposition artifact (effect_verification effect)) recorded_at_unix_ms middle db' ∧
        receipts = [receipt_of sha head expected (effect_first effect) .HumanDisposition
            (.HumanDisposition artifact (effect_verification effect)) recorded_at_unix_ms,
          receipt_of sha next (effect_first effect) second .HumanDisposition
            (.HumanDisposition artifact (effect_verification effect)) recorded_at_unix_ms] := by
  simp only [commit_human_disposition, returns_lift_bind_iff, exists_unit_iff,
    returns_transaction_iff] at h
  obtain ⟨hbinding, h⟩ := h
  refine ⟨hbinding, ?_⟩
  unfold write_disposition at h
  obtain ⟨_, disposed, hinsert, h⟩ := returns_bind_iff.mp h
  have hdisposed := returns_insert_human_disposition_iff.mp hinsert
  have hdisposedhead : disposed.campaigns.rows = [head] := by rw [hdisposed.campaigns, hhead]
  obtain ⟨_, middle, hwrite, h⟩ := returns_bind_iff.mp h
  obtain ⟨hfirst, rfl⟩ := (returns_write_transition_iff hdisposedhead).mp hwrite
  refine ⟨disposed, middle, hdisposed, hfirst, ?_⟩
  cases hsecond : effect_second effect with
  | none =>
    rw [hsecond] at h
    obtain ⟨hreceipts, hdb⟩ := returns_pure_iff.mp h
    exact ⟨hdb, hreceipts.symm⟩
  | some second =>
    rw [hsecond] at h
    obtain ⟨_, hopen, hreceipts⟩ := returns_bind_pure_iff.mp h
    obtain ⟨hopened, rfl⟩ := (returns_write_transition_iff hfirst.campaigns).mp hopen
    exact ⟨_, hfirst.campaigns, hopened, hreceipts.symm⟩

end CampaignStoreV1

end Spec

end ag_store

import AgentGovernor.Store.WriteSpec

open ag_primitives Checked ag_campaign ag_campaign.governed Relational Transaction

namespace ag_store

/-- The receipt of a transition from the head. -/
def receipt_of (sha : Sha256) (head : CampaignHeadRow) (expected successor : OccurrenceSnapshotV1)
    (kind : CampaignTransitionKindV1) (evidence : CampaignTransitionEvidenceV1)
    (recorded_at_unix_ms : UInt64) : CampaignCommitReceiptV1 :=
  { revision := saturating_add_u64 head.revision 1
    predecessor_state_digest := expected.state_digest
    successor_state_digest := successor.state_digest
    event_digest := (head.transition sha expected successor kind evidence recorded_at_unix_ms).event }

/-- What a transition is checked for before anything is written. -/
structure Accepted (sha : Sha256) (head : CampaignHeadRow) (expected successor : OccurrenceSnapshotV1)
    (kind : CampaignTransitionKindV1) (recorded_at_unix_ms : UInt64) : Prop where
  validated : GovernedLoopKernelV1.validate_successor sha expected successor = .ok ()
  campaign : expected.key.campaign = successor.key.campaign
  head_campaign : head.campaign = expected.key.campaign
  head_occurrence : head.occurrence = expected.key.occurrence
  head_digest : head.state_digest = expected.state_digest
  described : kind.valid expected successor = true
  recorded_at : recorded_at_unix_ms ≤ I64_MAX
  head_revision : head.revision ≤ I64_MAX
  revision : saturating_add_u64 head.revision 1 ≤ I64_MAX
  event_count : saturating_add_u64 head.event_count 1 ≤ I64_MAX

/-- The effect of one written transition on every table. -/
structure Written (sha : Sha256) (head : CampaignHeadRow) (expected successor : OccurrenceSnapshotV1)
    (kind : CampaignTransitionKindV1) (evidence : CampaignTransitionEvidenceV1)
    (recorded_at_unix_ms : UInt64) (db db' : Db) : Prop where
  accepted : Accepted sha head expected successor kind recorded_at_unix_ms
  materializable : Materializable expected successor db
  spend_reference : ∀ row ∈ new_spend expected successor,
    db'.has_occurrence row.2.campaign row.2.occurrence
  attempt_reference : ∀ row ∈ new_attempt expected successor,
    db'.has_occurrence row.2.campaign row.2.occurrence
  settlement_reference : ∀ row ∈ new_settlement expected successor,
    db'.has_occurrence row.2.campaign row.2.occurrence
  campaigns : db'.campaigns.rows = [head.advance successor
    (head.transition sha expected successor kind evidence recorded_at_unix_ms).event]
  occurrences : db'.occurrences.rows = next_occurrences expected successor db.occurrences.rows
  transitions : db'.transitions.rows = db.transitions.rows ++
    [(expected.key.campaign, head.transition sha expected successor kind evidence recorded_at_unix_ms)]
  spends : db'.ag_authorization_spends.rows =
    db.ag_authorization_spends.rows ++ (new_spend expected successor).toList
  attempts : db'.docket_attempts.rows = db.docket_attempts.rows ++ (new_attempt expected successor).toList
  settlements : db'.docket_settlements.rows =
    db.docket_settlements.rows ++ (new_settlement expected successor).toList
  runtime_profile : db'.runtime_profile = db.runtime_profile
  human_dispositions : db'.human_dispositions = db.human_dispositions
  residual_discharges : db'.residual_discharges = db.residual_discharges
  refusals : db'.refusals = db.refusals

section Spec

variable {sha : Sha256} {head : CampaignHeadRow} {expected successor : OccurrenceSnapshotV1}
  {kind : CampaignTransitionKindV1} {evidence : CampaignTransitionEvidenceV1} {recorded_at_unix_ms : UInt64}
  {db db' : Db} {receipt : CampaignCommitReceiptV1}

variable (hhead : db.campaigns.rows = [head])

include hhead

theorem returns_authoritative_head_iff {current : CampaignHeadRow} :
    Returns (authoritative_head sha expected successor kind) db current db' ↔
      (GovernedLoopKernelV1.validate_successor sha expected successor = .ok () ∧
        expected.key.campaign = successor.key.campaign ∧ head.campaign = expected.key.campaign ∧
        head.occurrence = expected.key.occurrence ∧ head.state_digest = expected.state_digest ∧
        kind.valid expected successor = true) ∧ head = current ∧ db = db' := by
  simp only [authoritative_head, campaign_head, returns_lift_bind_iff, returns_query_bind_iff, ok_rules,
    validate_transition_kind_eq_ok_iff, returns_pure_iff, hhead, List.head?_cons, Option.some.injEq]
  constructor
  · rintro ⟨hvalidated, hcampaign, _, rfl, ⟨hhc, hho⟩, hdigest, hkind, hcurrent, hdb⟩
    exact ⟨⟨hvalidated, hcampaign, hhc, hho, hdigest, hkind⟩, hcurrent, hdb⟩
  · rintro ⟨⟨hvalidated, hcampaign, hhc, hho, hdigest, hkind⟩, hcurrent, hdb⟩
    exact ⟨hvalidated, hcampaign, head, rfl, ⟨hhc, hho⟩, hdigest, hkind, hcurrent, hdb⟩

/-- The update of the head selects exactly the head that was read. -/
theorem returns_update_head_iff {event : Digest} {u : Unit} :
    Returns (update_head head expected successor event) db u db' ↔
      (saturating_add_u64 head.revision 1 ≤ I64_MAX ∧ saturating_add_u64 head.event_count 1 ≤ I64_MAX ∧
        head.revision ≤ I64_MAX ∧ head.campaign = successor.key.campaign ∧
        head.state_digest = expected.state_digest) ∧
      ∃ rows, rows.rows = [head.advance successor event] ∧ { db with campaigns := rows } = db' := by
  simp only [update_head, returns_lift_bind_iff, to_i64_eq_ok_iff]
  simp only [returns_bind_iff, returns_lift_iff, returns_update_iff, ok_rules, Prod.exists, Table.update_eq_some_iff,
    Prod.mk.injEq, hhead, List.map_cons, List.map_nil, List.countP_singleton]
  have hstands : head.stands_at successor.key.campaign head.revision expected.state_digest ↔
      head.campaign = successor.key.campaign ∧ head.state_digest = expected.state_digest := by
    simp [CampaignHeadRow.stands_at]
  constructor
  · rintro ⟨_, ⟨hrevision, _⟩, _, ⟨hcount, _⟩, _, ⟨hcurrent, _⟩, changed, _,
      ⟨_, rows, ⟨rfl, hrows⟩, rfl, rfl⟩, hone, rfl⟩
    have hselected : head.stands_at successor.key.campaign head.revision expected.state_digest := by
      by_contra hnot
      simp [hnot] at hone
    rw [if_pos hselected] at hrows
    exact ⟨⟨hrevision, hcount, hcurrent, hstands.mp hselected⟩, rows, hrows, rfl⟩
  · rintro ⟨⟨hrevision, hcount, hcurrent, hselected⟩, rows, hrows, rfl⟩
    refine ⟨_, ⟨hrevision, rfl⟩, _, ⟨hcount, rfl⟩, _, ⟨hcurrent, rfl⟩, 1, _,
      ⟨1, rows, ⟨?_, ?_⟩, rfl, rfl⟩, rfl, rfl⟩
    · simp [hstands.mpr hselected]
    · rw [if_pos (hstands.mpr hselected), hrows]
      rfl

/-- A transition is written exactly when it is accepted and every table can take
its part of it. -/
theorem returns_write_transition_iff :
    Returns (write_transition sha expected successor kind evidence recorded_at_unix_ms) db receipt db' ↔
      Written sha head expected successor kind evidence recorded_at_unix_ms db db' ∧
      receipt = receipt_of sha head expected successor kind evidence recorded_at_unix_ms := by
  unfold write_transition
  constructor
  · intro h
    obtain ⟨_, _, hauthoritative, h⟩ := returns_bind_iff.mp h
    obtain ⟨⟨hvalidated, hcampaign, hhc, hho, hdigest, hkind⟩, rfl, rfl⟩ :=
      (returns_authoritative_head_iff hhead).mp hauthoritative
    obtain ⟨_, _, hmaterialize, h⟩ := returns_bind_iff.mp h
    obtain ⟨hmaterializable, occurrences, hoccurrences, rfl⟩ := returns_materialize_iff.mp hmaterialize
    obtain ⟨_, _, haccount, h⟩ := returns_bind_iff.mp h
    obtain ⟨⟨hspend, hattempt, hsettlement⟩, spends, attempts, settlements, hspends, hattempts,
      hsettlements, rfl⟩ := returns_account_new_facts_iff.mp haccount
    obtain ⟨_, hrecorded, h⟩ := returns_lift_bind_iff.mp h
    obtain ⟨_, _, hinsert, h⟩ := returns_bind_iff.mp h
    obtain ⟨_, transitions, htransitions, rfl⟩ := returns_insert_into_iff.mp hinsert
    obtain ⟨_, _, hupdate, h⟩ := returns_bind_iff.mp h
    obtain ⟨⟨hrevision, hcount, hcurrent, _, _⟩, campaigns, hcampaigns, rfl⟩ :=
      (returns_update_head_iff (by exact hhead)).mp hupdate
    obtain ⟨rfl, rfl⟩ := returns_pure_iff.mp h
    refine ⟨⟨⟨hvalidated, hcampaign, hhc, hho, hdigest, hkind, (to_i64_eq_ok_iff.mp hrecorded).1, hcurrent,
      hrevision, hcount⟩, hmaterializable, hspend, hattempt, hsettlement, hcampaigns, hoccurrences,
      htransitions, hspends, hattempts, hsettlements, rfl, rfl, rfl, rfl⟩, rfl⟩
  · rintro ⟨h, rfl⟩
    have ha := h.accepted
    refine returns_bind_iff.mpr ⟨head, db, (returns_authoritative_head_iff hhead).mpr
      ⟨⟨ha.validated, ha.campaign, ha.head_campaign, ha.head_occurrence, ha.head_digest, ha.described⟩,
        rfl, rfl⟩, ?_⟩
    refine returns_bind_iff.mpr ⟨(), _, returns_materialize_iff.mpr
      ⟨h.materializable, db'.occurrences, h.occurrences, rfl⟩, ?_⟩
    refine returns_bind_iff.mpr ⟨(), _, returns_account_new_facts_iff.mpr
      ⟨⟨h.spend_reference, h.attempt_reference, h.settlement_reference⟩, db'.ag_authorization_spends,
        db'.docket_attempts, db'.docket_settlements, h.spends, h.attempts, h.settlements, rfl⟩, ?_⟩
    refine returns_lift_bind_iff.mpr ⟨_, to_i64_eq_ok_iff.mpr ⟨ha.recorded_at, rfl⟩, ?_⟩
    refine returns_bind_iff.mpr ⟨(), _, returns_insert_into_iff.mpr
      ⟨⟨head, by simp [hhead], ha.head_campaign⟩, db'.transitions, h.transitions, rfl⟩, ?_⟩
    refine returns_bind_iff.mpr ⟨(), _, (returns_update_head_iff (by exact hhead)).mpr
      ⟨⟨ha.revision, ha.event_count, ha.head_revision, ha.head_campaign.trans ha.campaign, ha.head_digest⟩,
        db'.campaigns, h.campaigns, rfl⟩, ?_⟩
    refine returns_pure_iff.mpr ⟨rfl, Db.ext ?_ rfl rfl rfl rfl rfl rfl ?_ ?_ ?_⟩
    · exact h.runtime_profile.symm
    · exact h.human_dispositions.symm
    · exact h.residual_discharges.symm
    · exact h.refusals.symm

end Spec

end ag_store

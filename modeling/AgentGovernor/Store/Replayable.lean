import AgentGovernor.Store.Genesis
import AgentGovernor.Store.Materialized
import AgentGovernor.Store.ReplaySpec

open Std (ExtTreeMap)
open ag_primitives Checked ag_campaign ag_campaign.governed Relational Transaction

namespace ag_store

/-- What replay reconstructs from the journal is what the tables of facts and
occurrences hold. The tables of dispositions are left to `Attested`. -/
structure Replayable (sha : Sha256) (db : Db) (head : CampaignHeadRow) (state : ReplayState)
    (last : OccurrenceSnapshotV1) : Prop where
  linear : Linear db head
  replayed : replay_rows sha head.campaign (db.runtime_profile.map StoredRuntimeProfileV1.digest) 0
    (.initial sha head.campaign) (db.journal head.campaign) = .ok state
  previous_snapshot : state.previous_snapshot = some last
  previous_event : state.previous_event = head.event_head
  integrity : last.validate_integrity sha = .ok ()
  campaign : last.key.campaign = head.campaign
  occurrence : last.key.occurrence = head.occurrence
  state_digest : last.state_digest = head.state_digest
  occurrences : Materialized head.campaign state.latest_occurrences db.occurrences.rows
  current : state.latest_occurrences[last.key.occurrence]? = some last
  spends : state.spends = collect db.ag_authorization_spends.rows
  attempts : state.attempts = collect db.docket_attempts.rows
  settlements : state.settlements = collect db.docket_settlements.rows
  spend_known : ∀ row ∈ spend_entry last, row.1 ∈ state.spends
  attempt_known : ∀ row ∈ attempt_entry last, row.1 ∈ state.attempts
  settlement_known : ∀ row ∈ settlement_entry last, row.1 ∈ state.settlements
  decisions_used : ∀ decision ∈ state.human_decisions, decision ∈ last.state.metadata.used_human_decisions
  refusals : verify_refusals sha db head.campaign (db.journal head.campaign) = .ok ()

/-- The dispositions replay finds in the evidence are the ones that are recorded,
and each decision a snapshot consumed is one of them. -/
structure Attested (db : Db) (state : ReplayState) : Prop where
  artifacts : state.human_artifacts = collect db.human_dispositions.rows
  decisions : state.human_decisions = state.human_artifacts.keys.toFinset
  discharges : collect db.residual_discharges.rows =
    state.human_artifacts.filterMap fun _ human => expected_discharge human

section Step

variable {sha : Sha256} {head : CampaignHeadRow} {expected successor last : OccurrenceSnapshotV1}
  {kind : CampaignTransitionKindV1} {evidence : CampaignTransitionEvidenceV1} {recorded_at_unix_ms : UInt64}
  {db db' : Db} {state : ReplayState}

theorem Accepted.legal (h : Accepted sha head expected successor kind recorded_at_unix_ms) :
    expected.validate_integrity sha = .ok () ∧ successor.validate_integrity sha = .ok () ∧
      successor.prior_state_digest = expected.state_digest ∧ LegalSuccessor expected successor :=
  validate_successor_eq_ok_iff.mp h.validated

/-- Under a collision-free hash the digest of the head determines the snapshot a
commit has to start from. -/
theorem Replayable.expected_eq (h : Replayable sha db head state last) (hsha : sha.CollisionFree)
    (haccepted : Accepted sha head expected successor kind recorded_at_unix_ms) : expected = last :=
  eq_of_state_digest hsha haccepted.legal.1 h.integrity (haccepted.head_digest.symm.trans h.state_digest.symm)

theorem Written.bound (h : Written sha head expected successor kind evidence recorded_at_unix_ms db db') :
    (head.transition sha expected successor kind evidence recorded_at_unix_ms).Bound sha head.campaign
      head.event_head := by
  have ha := h.accepted
  obtain ⟨_, hintegrity, hprior, _⟩ := ha.legal
  refine ⟨hintegrity, ?_, rfl, hprior.symm, rfl, rfl, rfl, ?_⟩
  · exact (ha.head_campaign.trans ha.campaign).symm
  · rw [ha.head_campaign]
    rfl

/-- A refusal that was recorded stays valid when the journal grows. -/
theorem verify_refusals_of_subset {campaign : CampaignId} {before after : List StoredTransitionRow}
    (hsubset : before ⊆ after) (hrefusals : db'.refusals = db.refusals)
    (h : verify_refusals sha db campaign before = .ok ()) :
    verify_refusals sha db' campaign after = .ok () := by
  rw [verify_refusals, forM_eq_ok_iff] at h ⊢
  rw [hrefusals]
  intro row hrow
  have hrow := h row hrow
  simp only [verify_refusal, ok_rules] at hrow ⊢
  obtain ⟨hid, hcampaign, hkey, hoccurrence, hdigest, hmem⟩ := hrow
  exact ⟨hid, hcampaign, hkey, hoccurrence, hdigest, List.map_subset _ hsubset hmem⟩

/-- One written transition: if replay would take its evidence, its decisions and its
artifact, then replay of the longer journal reconstructs the new tables. -/
theorem Replayable.written (hr : Replayable sha db head state expected)
    (h : Written sha head expected successor kind evidence recorded_at_unix_ms db db')
    {decisions : Finset HumanDecisionIdV1} {artifacts : ExtTreeMap HumanDecisionIdV1 ExpectedHumanRow}
    (hevidence : validate_replayed_evidence sha expected successor kind evidence = .ok ())
    (hdecisions : replay_decisions state.human_decisions (new_decisions expected successor) = .ok decisions)
    (hartifacts : replay_artifact state.human_artifacts
      (head.transition sha expected successor kind evidence recorded_at_unix_ms) = .ok artifacts) :
    Replayable sha db'
      (head.advance successor (head.transition sha expected successor kind evidence recorded_at_unix_ms).event)
      (state.after (head.transition sha expected successor kind evidence recorded_at_unix_ms) decisions
        artifacts) successor := by
  have ha := h.accepted
  obtain ⟨_, hintegrity, _, hlegal⟩ := ha.legal
  have hcampaign : successor.key.campaign = head.campaign := (ha.head_campaign.trans ha.campaign).symm
  have hspends : remember state.spends (spend_entry successor) = collect db'.ag_authorization_spends.rows := by
    rw [hr.spends]
    exact remember_eq_collect (carries_spend hlegal) (hr.spends ▸ hr.spend_known) h.spends
  have hattempts : remember state.attempts (attempt_entry successor) = collect db'.docket_attempts.rows := by
    rw [hr.attempts]
    exact remember_eq_collect (carries_attempt hlegal) (hr.attempts ▸ hr.attempt_known) h.attempts
  have hsettlements : remember state.settlements (settlement_entry successor) =
      collect db'.docket_settlements.rows := by
    rw [hr.settlements]
    exact remember_eq_collect (carries_settlement hlegal) (hr.settlements ▸ hr.settlement_known) h.settlements
  refine ⟨h.linear hr.linear, ?_, rfl, rfl, hintegrity, hcampaign, rfl, rfl, ?_, ?_, hspends, hattempts,
    hsettlements, fun row => mem_remember, fun row => mem_remember, fun row => mem_remember, ?_, ?_⟩
  · have hindex : 0 + (db.journal head.campaign).length ≠ 0 := by
      obtain ⟨row, hrow, _⟩ := hr.linear.last
      rw [Nat.zero_add, Ne, List.length_eq_zero_iff]
      exact fun hempty => by simp [hempty] at hrow
    change replay_rows sha head.campaign _ 0 (.initial sha head.campaign) (db'.journal head.campaign) = _
    rw [h.journal, h.runtime_profile]
    refine replay_rows_concat_eq_ok_iff.mpr ⟨state, hr.replayed, replay_row_eq_ok_iff.mpr
      ⟨hr.previous_event ▸ h.bound, decisions, ?_, artifacts, hartifacts, rfl⟩⟩
    exact (replay_link_succ_eq_ok_iff hindex hr.previous_snapshot).mpr
      ⟨⟨rfl, ha.validated, ha.described, hevidence⟩, hdecisions⟩
  · exact hr.occurrences.next hcampaign hr.current h.occurrences
  · exact ExtTreeMap.getElem?_insert_self
  · intro decision hmem
    obtain ⟨_, _, rfl⟩ := replay_decisions_eq_ok_iff.mp hdecisions
    rcases Finset.mem_union.mp hmem with hold | hnew
    · exact used_human_decisions_subset hlegal (hr.decisions_used decision hold)
    · exact (List.mem_filter.mp (List.mem_toFinset.mp hnew)).1
  · refine verify_refusals_of_subset ?_ h.refusals hr.refusals
    change db.journal head.campaign ⊆ db'.journal head.campaign
    rw [h.journal]
    exact List.subset_append_left _ _

end Step

end ag_store

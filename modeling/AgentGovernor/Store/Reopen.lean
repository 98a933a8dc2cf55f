import AgentGovernor.Store.Attested
import AgentGovernor.Store.VerifySpec

open Std (ExtTreeMap)
open ag_primitives Checked ag_campaign ag_campaign.governed Relational Transaction Windows

namespace ag_store

variable {sha : Sha256} {db : Db} {head : CampaignHeadRow} {last : OccurrenceSnapshotV1}
  {state : ReplayState}

theorem Materialized.verified {campaign : CampaignId}
    {latest : ExtTreeMap OccurrenceId OccurrenceSnapshotV1}
    (h : Materialized campaign latest db.occurrences.rows) :
    verify_occurrence_materialization db campaign latest = .ok () := by
  have hmem : ∀ row, row ∈ sort_by_key OccurrenceRow.occurrence
      (db.occurrences.rows.filter fun row => row.campaign = campaign) ↔ row ∈ db.occurrences.rows := by
    intro row
    rw [(sort_by_key_perm _ _).mem_iff, List.mem_filter, decide_eq_true_eq]
    exact and_iff_left_of_imp (h.sole row)
  simp only [verify_occurrence_materialization, ok_rules]
  refine ⟨fun row hrow => ?_, ?_⟩
  · rw [hmem] at hrow
    have hcolumns := h.columns row hrow
    simp only [verify_occurrence, ok_rules]
    refine ⟨row.snapshot, h.latest_eq row hrow, rfl, ?_⟩
    exact ⟨congrArg OccurrenceRow.program_basis hcolumns, congrArg OccurrenceRow.program_counter hcolumns,
      congrArg OccurrenceRow.prior_state_digest hcolumns, congrArg OccurrenceRow.state_digest hcolumns⟩
  · ext occurrence
    simp only [List.mem_toFinset, List.mem_map, hmem]
    rw [mem_keys_iff]
    constructor
    · rintro ⟨row, hrow, rfl⟩
      rw [ExtTreeMap.mem_iff_isSome_getElem?, h.latest_eq row hrow]
      rfl
    · exact h.complete occurrence

theorem Replayable.verified (hr : Replayable sha db head state last) (hattested : Attested db state) :
    Verified sha db head state last where
  sole := hr.linear.sole
  nonempty := by
    obtain ⟨row, hrow, _⟩ := hr.linear.last
    intro hempty
    simp [hempty] at hrow
  replayed := hr.replayed
  head_verified := ⟨hr.previous_snapshot, hr.occurrence, hr.state_digest, hr.previous_event,
    hr.linear.event_count, hr.linear.revision⟩
  tables_verified := ⟨hr.occurrences.verified, hr.spends.symm, hr.attempts.symm, hr.settlements.symm,
    hattested.decisions, hattested.artifacts.symm, hattested.discharges, hr.refusals⟩

/-- The counts of a report are the sizes of the tables. -/
structure CampaignReplayReportV1.Counts (report : CampaignReplayReportV1) (db : Db) : Prop where
  ag_spends : report.ag_spends = db.ag_authorization_spends.rows.length
  docket_attempts : report.docket_attempts = db.docket_attempts.rows.length
  settlements : report.settlements = db.docket_settlements.rows.length
  human_dispositions : report.human_dispositions = db.human_dispositions.rows.length

theorem Verified.counts (h : Verified sha db head state last) :
    (report_of head (db.journal head.campaign) state).Counts db := by
  have ht := h.tables_verified
  refine ⟨?_, ?_, ?_, ?_⟩
  · change state.spends.size = _
    rw [← ht.spends, size_collect (Table.keys_nodup _)]
  · change state.attempts.size = _
    rw [← ht.attempts, size_collect (Table.keys_nodup _)]
  · change state.settlements.size = _
    rw [← ht.settlements, size_collect (Table.keys_nodup _)]
  · change state.human_decisions.card = _
    rw [ht.decisions, ← ht.artifacts, card_keys, size_collect (Table.keys_nodup _)]

end ag_store

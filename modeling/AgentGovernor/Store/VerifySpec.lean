import AgentGovernor.Store.ReplaySpec
import AgentGovernor.Store.Verify

open Std (ExtTreeMap)
open ag_primitives Checked ag_campaign ag_campaign.governed Relational Windows

namespace ag_store

/-- The head agrees with the end of the replay. -/
structure HeadVerified (head : CampaignHeadRow) (transitions : List StoredTransitionRow)
    (state : ReplayState) (last : OccurrenceSnapshotV1) : Prop where
  last_eq : state.previous_snapshot = some last
  occurrence : last.key.occurrence = head.occurrence
  state_digest : last.state_digest = head.state_digest
  event_head : state.previous_event = head.event_head
  event_count : head.event_count.toNat = transitions.length
  revision : head.revision = head.event_count

/-- The tables agree with what was replayed. -/
structure TablesVerified (sha : Sha256) (db : Db) (campaign : CampaignId)
    (transitions : List StoredTransitionRow) (state : ReplayState) : Prop where
  occurrences : verify_occurrence_materialization db campaign state.latest_occurrences = .ok ()
  spends : collect db.ag_authorization_spends.rows = state.spends
  attempts : collect db.docket_attempts.rows = state.attempts
  settlements : collect db.docket_settlements.rows = state.settlements
  decisions : state.human_decisions = state.human_artifacts.keys.toFinset
  artifacts : collect db.human_dispositions.rows = state.human_artifacts
  discharges : collect db.residual_discharges.rows =
    state.human_artifacts.filterMap fun _ human => expected_discharge human
  refusals : verify_refusals sha db campaign transitions = .ok ()

section Spec

variable {sha : Sha256} {db : Db} {head : CampaignHeadRow} {campaign : CampaignId}
  {transitions : List StoredTransitionRow} {state : ReplayState}

theorem verify_head_eq_ok_iff :
    verify_head head transitions state = .ok () ↔ ∃ last, HeadVerified head transitions state last := by
  simp only [verify_head, ok_rules]
  constructor
  · rintro ⟨last, hlast, hoccurrence, hdigest, hevent, hcount, hrevision⟩
    exact ⟨last, hlast, hoccurrence, hdigest, hevent, hcount, hrevision⟩
  · rintro ⟨last, h⟩
    exact ⟨last, h.last_eq, h.occurrence, h.state_digest, h.event_head, h.event_count, h.revision⟩

theorem verify_tables_eq_ok_iff :
    verify_tables sha db campaign transitions state = .ok () ↔
      TablesVerified sha db campaign transitions state := by
  simp only [verify_tables, verify_spend_accounting, verify_attempt_accounting, verify_settlement_accounting,
    verify_human_artifacts, verify_residual_discharge_accounting, ok_rules]
  constructor
  · rintro ⟨hoccurrences, hspends, hattempts, hsettlements, hdecisions, ⟨hartifacts, hdischarges⟩, hrefusals⟩
    exact ⟨hoccurrences, hspends, hattempts, hsettlements, hdecisions, hartifacts, hdischarges, hrefusals⟩
  · intro h
    exact ⟨h.occurrences, h.spends, h.attempts, h.settlements, h.decisions, ⟨h.artifacts, h.discharges⟩,
      h.refusals⟩

theorem sole_campaign_eq_ok_iff : sole_campaign db = .ok head ↔ db.campaigns.rows = [head] := by
  unfold sole_campaign
  split
  · next other hrows => simp [hrows, pure_eq_ok_iff]
  · next hother => exact iff_of_false throw_ne_ok (hother head)

/-- The report of a store whose replay ended in `state`. -/
def report_of (head : CampaignHeadRow) (transitions : List StoredTransitionRow) (state : ReplayState) :
    CampaignReplayReportV1 :=
  { campaign := head.campaign
    transitions := transitions.length
    ag_spends := state.spends.size
    docket_attempts := state.attempts.size
    settlements := state.settlements.size
    human_dispositions := state.human_decisions.card
    current_state_digest := head.state_digest }

/-- What it takes for a store to replay. -/
structure Verified (sha : Sha256) (db : Db) (head : CampaignHeadRow) (state : ReplayState)
    (last : OccurrenceSnapshotV1) : Prop where
  sole : db.campaigns.rows = [head]
  nonempty : db.journal head.campaign ≠ []
  replayed : replay_rows sha head.campaign (db.runtime_profile.map StoredRuntimeProfileV1.digest) 0
    (.initial sha head.campaign) (db.journal head.campaign) = .ok state
  head_verified : HeadVerified head (db.journal head.campaign) state last
  tables_verified : TablesVerified sha db head.campaign (db.journal head.campaign) state

theorem replay_store_eq_ok_iff {report : CampaignReplayReportV1} :
    replay_store sha db = .ok report ↔
      ∃ head state last, Verified sha db head state last ∧
        report_of head (db.journal head.campaign) state = report := by
  simp only [replay_store, ok_rules, sole_campaign_eq_ok_iff, verify_head_eq_ok_iff, verify_tables_eq_ok_iff]
  constructor
  · rintro ⟨head, hsole, hnonempty, state, hreplayed, ⟨last, hhead⟩, htables, rfl⟩
    exact ⟨head, state, last, ⟨hsole, hnonempty, hreplayed, hhead, htables⟩, rfl⟩
  · rintro ⟨head, state, last, h, rfl⟩
    exact ⟨head, h.sole, h.nonempty, state, h.replayed, ⟨last, h.head_verified⟩, h.tables_verified, rfl⟩

end Spec

end ag_store

import AgentGovernor.Store.Facts
import AgentGovernor.Store.WriteSpec

open Std (ExtTreeMap)
open ag_primitives Checked ag_campaign ag_campaign.governed Relational

namespace ag_store

/-- The occurrence rows of a campaign hold the latest snapshot of each occurrence. -/
structure Materialized (campaign : CampaignId) (latest : ExtTreeMap OccurrenceId OccurrenceSnapshotV1)
    (rows : List OccurrenceRow) : Prop where
  columns : ∀ row ∈ rows, row = occurrence_row row.snapshot row.revision
  sole : ∀ row ∈ rows, row.campaign = campaign
  latest_eq : ∀ row ∈ rows, latest[row.occurrence]? = some row.snapshot
  complete : ∀ occurrence ∈ latest, ∃ row ∈ rows, row.occurrence = occurrence

variable {campaign : CampaignId} {latest : ExtTreeMap OccurrenceId OccurrenceSnapshotV1}
  {expected successor : OccurrenceSnapshotV1} {rows : List OccurrenceRow}

/-- The latest snapshot of an occurrence stands in its row. -/
theorem Materialized.exists_row (h : Materialized campaign latest rows) {occurrence : OccurrenceId}
    (hlatest : latest[occurrence]? = some expected) :
    ∃ row ∈ rows, row.campaign = campaign ∧ row.occurrence = occurrence ∧ row.snapshot = expected := by
  have hmem : occurrence ∈ latest := by
    rw [ExtTreeMap.mem_iff_isSome_getElem?, hlatest]
    rfl
  obtain ⟨row, hrow, rfl⟩ := h.complete _ hmem
  exact ⟨row, hrow, h.sole row hrow, rfl, Option.some.inj ((h.latest_eq row hrow).symm.trans hlatest)⟩

variable (hcampaign : successor.key.campaign = campaign)

include hcampaign

/-- A table stays materialized when the row of one occurrence is replaced and the
others are of other occurrences. -/
theorem Materialized.insert (h : Materialized campaign latest rows) {rows' : List OccurrenceRow}
    (hrows : ∀ row ∈ rows', (∃ revision, row = occurrence_row successor revision) ∨
      row ∈ rows ∧ row.occurrence ≠ successor.key.occurrence)
    (hnew : ∃ revision, occurrence_row successor revision ∈ rows')
    (hkept : ∀ row ∈ rows, row.occurrence ≠ successor.key.occurrence → row ∈ rows') :
    Materialized campaign (latest.insert successor.key.occurrence successor) rows' := by
  refine ⟨fun row hrow => ?_, fun row hrow => ?_, fun row hrow => ?_, fun occurrence hmem => ?_⟩
  · rcases hrows row hrow with ⟨revision, rfl⟩ | ⟨hold, _⟩
    · rfl
    · exact h.columns row hold
  · rcases hrows row hrow with ⟨revision, rfl⟩ | ⟨hold, _⟩
    · exact hcampaign
    · exact h.sole row hold
  · rcases hrows row hrow with ⟨revision, rfl⟩ | ⟨hold, hother⟩
    · simp [occurrence_row]
    · rw [ExtTreeMap.getElem?_insert, if_neg fun heq => hother (compare_eq_iff_eq.mp heq).symm]
      exact h.latest_eq row hold
  · by_cases hoccurrence : occurrence = successor.key.occurrence
    · obtain ⟨revision, hrow⟩ := hnew
      exact ⟨_, hrow, hoccurrence.symm⟩
    · have hold : occurrence ∈ latest := by
        rw [ExtTreeMap.mem_insert, compare_eq_iff_eq] at hmem
        exact hmem.resolve_left fun heq => hoccurrence heq.symm
      obtain ⟨row, hrow, rfl⟩ := h.complete occurrence hold
      exact ⟨row, hkept row hrow hoccurrence, rfl⟩

/-- A transition within an occurrence moves the row of the occurrence on. -/
theorem Materialized.moved (h : Materialized campaign latest rows)
    (hcurrent : latest[expected.key.occurrence]? = some expected) (hkey : expected.key = successor.key) :
    Materialized campaign (latest.insert successor.key.occurrence successor)
      (next_occurrences expected successor rows) := by
  have hselected : ∀ row ∈ rows, row.materializes successor.key expected.state_digest ↔
      row.occurrence = successor.key.occurrence := by
    intro row hrow
    refine ⟨fun hmaterializes => hmaterializes.2.1, fun hoccurrence => ⟨?_, hoccurrence, ?_⟩⟩
    · rw [h.sole row hrow, hcampaign]
    · have hlatest := h.latest_eq row hrow
      rw [hoccurrence, ← hkey, hcurrent, Option.some.injEq] at hlatest
      rw [h.columns row hrow, ← hlatest]
      rfl
  have hmoved : ∀ row ∈ rows, row.occurrence = successor.key.occurrence →
      { occurrence_row successor (row.revision + 1) with
        campaign := row.campaign, occurrence := row.occurrence } =
        occurrence_row successor (row.revision + 1) := by
    intro row hrow hoccurrence
    rw [h.sole row hrow, hoccurrence, ← hcampaign]
    rfl
  rw [next_occurrences, if_pos hkey]
  refine h.insert hcampaign (fun row hrow => ?_) ?_ fun row hrow hother => ?_
  · obtain ⟨old, hold, rfl⟩ := List.mem_map.mp hrow
    by_cases hoccurrence : old.occurrence = successor.key.occurrence
    · rw [if_pos ((hselected old hold).mpr hoccurrence), hmoved old hold hoccurrence]
      exact .inl ⟨_, rfl⟩
    · rw [if_neg fun hmaterializes => hoccurrence ((hselected old hold).mp hmaterializes)]
      exact .inr ⟨hold, hoccurrence⟩
  · obtain ⟨old, hold, _, hoccurrence, _⟩ := h.exists_row hcurrent
    rw [hkey] at hoccurrence
    refine ⟨old.revision + 1, List.mem_map.mpr ⟨old, hold, ?_⟩⟩
    rw [if_pos ((hselected old hold).mpr hoccurrence), hmoved old hold hoccurrence]
  · refine List.mem_map.mpr ⟨row, hrow, ?_⟩
    rw [if_neg fun hmaterializes => hother ((hselected row hrow).mp hmaterializes)]

/-- A transition to a new occurrence adds a row for it. -/
theorem Materialized.opened {table table' : Table OccurrenceRow}
    (h : Materialized campaign latest table.rows) (hkey : expected.key ≠ successor.key)
    (hrows : table'.rows = next_occurrences expected successor table.rows) :
    Materialized campaign (latest.insert successor.key.occurrence successor) table'.rows := by
  have hdistinct := table'.distinct
  rw [hrows, next_occurrences, if_neg hkey] at hdistinct
  have hother : ∀ row ∈ table.rows, row.occurrence ≠ successor.key.occurrence := by
    intro row hrow hoccurrence
    refine (List.pairwise_append.mp hdistinct).2.2 row hrow _ (List.mem_singleton_self _) (.inl ⟨?_, hoccurrence⟩)
    exact (h.sole row hrow).trans hcampaign.symm
  rw [hrows, next_occurrences, if_neg hkey]
  refine h.insert hcampaign (fun row hrow => ?_) ⟨1, by simp⟩ fun row hrow _ => by simp [hrow]
  rcases List.mem_append.mp hrow with hold | hnew
  · exact .inr ⟨hold, hother row hold⟩
  · exact .inl ⟨1, List.mem_singleton.mp hnew⟩

theorem Materialized.next {table table' : Table OccurrenceRow} (h : Materialized campaign latest table.rows)
    (hcurrent : latest[expected.key.occurrence]? = some expected)
    (hrows : table'.rows = next_occurrences expected successor table.rows) :
    Materialized campaign (latest.insert successor.key.occurrence successor) table'.rows := by
  by_cases hkey : expected.key = successor.key
  · exact hrows ▸ h.moved hcampaign hcurrent hkey
  · exact h.opened hcampaign hkey hrows

end ag_store

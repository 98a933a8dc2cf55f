import AgentGovernor.Store.Calls
import AgentGovernor.Store.Reopen

open Std (ExtTreeMap)
open ag_primitives Checked ag_campaign ag_campaign.governed Relational Transaction

namespace ag_store

section Genesis

variable {sha : Sha256} {initial : OccurrenceSnapshotV1} {runtime_profile : Option (String × Jcs)}
  {recorded_at_unix_ms : UInt64} {db : Db}

variable (h : Created sha initial runtime_profile recorded_at_unix_ms db)

include h

theorem Created.bound : (genesis_row sha initial runtime_profile recorded_at_unix_ms).Bound sha initial.key.campaign
      (genesis_event sha initial.key.campaign) :=
  ⟨h.integrity, rfl, rfl, rfl, rfl, rfl, rfl, rfl⟩

theorem Created.creates : (genesis_row sha initial runtime_profile recorded_at_unix_ms).Creates
      (db.runtime_profile.map StoredRuntimeProfileV1.digest) :=
  ⟨by rw [h.profile]; rfl, rfl, rfl, h.program_counter, h.prior_occurrence⟩

omit h in
/-- An occurrence that waits for an observation accounts for nothing. -/
theorem entries_of_observation_required (h : initial.program_counter = .ObservationRequired) :
    spend_entry initial = none ∧ attempt_entry initial = none ∧ settlement_entry initial = none := by
  rw [spend_entry, attempt_entry, settlement_entry, OccurrenceSnapshotV1.ag_spend,
    OccurrenceSnapshotV1.docket_custody, OccurrenceSnapshotV1.settlement]
  rw [OccurrenceSnapshotV1.program_counter] at h
  cases hstate : initial.state with
  | ObservationRequired value => exact ⟨rfl, rfl, rfl⟩
  | _ => simp [hstate, OccurrenceStateV1.program_counter] at h

/-- A new store replays to its genesis. -/
theorem Created.replayable :
    ∃ state, Replayable sha db (genesis_head sha initial runtime_profile recorded_at_unix_ms) state initial ∧
      Attested db state := by
  have hjournal := h.journal
  obtain ⟨hspend, hattempt, hsettlement⟩ := entries_of_observation_required h.program_counter
  have hreplayed : replay_rows sha initial.key.campaign
      (db.runtime_profile.map StoredRuntimeProfileV1.digest) 0 (.initial sha initial.key.campaign)
      ([] ++ [genesis_row sha initial runtime_profile recorded_at_unix_ms]) =
        .ok ((ReplayState.initial sha initial.key.campaign).after
          (genesis_row sha initial runtime_profile recorded_at_unix_ms) ∅ ∅) :=
    replay_rows_concat_eq_ok_iff.mpr ⟨_, rfl, replay_row_eq_ok_iff.mpr
      ⟨h.bound, ∅, replay_link_zero_eq_ok_iff.mpr ⟨h.creates, rfl⟩, ∅, rfl, rfl⟩⟩
  refine ⟨(ReplayState.initial sha initial.key.campaign).after
    (genesis_row sha initial runtime_profile recorded_at_unix_ms) ∅ ∅, ?_, ?_⟩
  · exact
      { linear := h.linear
        replayed := (congrArg _ hjournal).trans hreplayed
        previous_snapshot := rfl
        previous_event := rfl
        integrity := h.integrity
        campaign := rfl
        occurrence := rfl
        state_digest := rfl
        occurrences := by
          have hempty : Materialized initial.key.campaign ∅ [] := ⟨by simp, by simp, by simp, by simp⟩
          rw [h.occurrences]
          refine hempty.insert rfl ?_ ⟨1, List.mem_singleton_self _⟩ (by simp)
          exact fun row hrow => .inl ⟨1, List.mem_singleton.mp hrow⟩
        current := ExtTreeMap.getElem?_insert_self
        spends := by
          change remember ∅ (spend_entry initial) = _
          rw [hspend, h.spends]
          rfl
        attempts := by
          change remember ∅ (attempt_entry initial) = _
          rw [hattempt, h.attempts]
          rfl
        settlements := by
          change remember ∅ (settlement_entry initial) = _
          rw [hsettlement, h.settlements]
          rfl
        spend_known := by simp [hspend]
        attempt_known := by simp [hattempt]
        settlement_known := by simp [hsettlement]
        decisions_used := fun _ hmem => absurd hmem (Finset.notMem_empty _)
        refusals := by
          rw [verify_refusals, h.refusals]
          rfl }
  · refine ⟨?_, ?_, ?_⟩
    · rw [h.human_dispositions]
      rfl
    · exact keys_toFinset_empty.symm
    · rw [h.residual_discharges]
      exact (filterMap_empty _).symm

end Genesis

section Calls

variable {sha : Sha256} {head : CampaignHeadRow} {expected successor last : OccurrenceSnapshotV1}
  {kind : CampaignTransitionKindV1} {db db' : Db} {state : ReplayState} {recorded_at_unix_ms : UInt64}

/-- A kind other than a disposition takes a halted snapshot only to a halted one. -/
theorem valid_of_halted (hvalid : kind.valid expected successor = true) (hkind : kind ≠ .HumanDisposition)
    (hhalted : expected.program_counter = .Halted) : successor.program_counter = .Halted := by
  cases kind <;> simp_all [CampaignTransitionKindV1.valid]

/-- The current snapshot of a replayable store is the last of its journal. -/
theorem Replayable.current_eq (hr : Replayable sha db head state last) {snapshot : OccurrenceSnapshotV1}
    (h : Returns (CampaignStoreV1.current sha) db snapshot db') : snapshot = last := by
  have hlatest := hr.current
  rw [hr.occurrence] at hlatest
  obtain ⟨row, hrow, hcampaign, hoccurrence, _⟩ := hr.occurrences.exists_row hlatest
  have hload := returns_current hr.linear.sole hr.integrity ⟨row, hrow, hcampaign, hoccurrence⟩
    fun row hrow _ hsame => by
      have hrow := hr.occurrences.latest_eq row hrow
      rw [hsame, hlatest] at hrow
      exact (Option.some.inj hrow).symm
  exact Except.ok.inj (congrArg Prod.fst (h.symm.trans hload))

/-- A call that would move a halted snapshot to a halted one outside of a
disposition. The kinds of a halt do not look at their source, so the store takes it. -/
def StoreCall.RenewsHalt : StoreCall → Prop
  | .commit expected successor _ _ | .commit_governed_intervention expected successor _ _ _ =>
    expected.program_counter = .Halted ∧ successor.program_counter = .Halted
  | _ => False

end Calls

end ag_store

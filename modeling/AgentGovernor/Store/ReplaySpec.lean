import AgentGovernor.Store.Facts

open Std (ExtTreeMap)
open ag_primitives Checked ag_campaign ag_campaign.governed Relational

namespace ag_store

/-- A journal row is bound to its snapshot, to its evidence and to the event
before it. -/
structure StoredTransitionRow.Bound (sha : Sha256) (campaign : CampaignId) (start : Digest)
    (row : StoredTransitionRow) : Prop where
  integrity : row.snapshot.validate_integrity sha = .ok ()
  snapshot_campaign : row.snapshot.key.campaign = campaign
  successor_occurrence : row.successor_occurrence = row.snapshot.key.occurrence
  predecessor : row.predecessor = row.snapshot.prior_state_digest
  successor : row.successor = row.snapshot.state_digest
  evidence_digest : row.evidence_digest = ag_store.evidence_digest sha row.evidence
  previous_event : row.previous_event = start
  event : row.event = row.expected_event sha campaign

/-- The first row of a journal. -/
structure StoredTransitionRow.Creates (profile : Option Digest) (row : StoredTransitionRow) : Prop where
  evidence : row.evidence = .Genesis profile
  kind : row.kind = .CampaignCreated
  source_occurrence : row.source_occurrence = none
  program_counter : row.snapshot.program_counter = .ObservationRequired
  prior_occurrence : row.snapshot.prior_occurrence = none

/-- A row follows the snapshot before it. -/
structure StoredTransitionRow.Succeeds (sha : Sha256) (prior : OccurrenceSnapshotV1)
    (row : StoredTransitionRow) : Prop where
  source_occurrence : row.source_occurrence = some prior.key.occurrence
  validated : GovernedLoopKernelV1.validate_successor sha prior row.snapshot = .ok ()
  described : row.kind.valid prior row.snapshot = true
  evidenced : validate_replayed_evidence sha prior row.snapshot row.kind row.evidence = .ok ()

section Checks

variable {sha : Sha256} {campaign : CampaignId} {index : Nat} {row : StoredTransitionRow}

theorem replay_binding_eq_ok_iff {previous_event : Digest} :
    replay_binding sha campaign index previous_event row = .ok () ↔ row.Bound sha campaign previous_event := by
  simp only [replay_binding, ok_rules]
  constructor
  · rintro ⟨hintegrity, ⟨hcampaign, hoccurrence, hpredecessor, hsuccessor⟩, ⟨hevidence, hprevious⟩, hevent⟩
    exact ⟨hintegrity, hcampaign, hoccurrence, hpredecessor, hsuccessor, hevidence, hprevious, hevent⟩
  · intro h
    exact ⟨h.integrity, ⟨h.snapshot_campaign, h.successor_occurrence, h.predecessor, h.successor⟩,
      ⟨h.evidence_digest, h.previous_event⟩, h.event⟩

variable {prior : OccurrenceSnapshotV1} {profile : Option Digest} {state : ReplayState}

theorem replay_genesis_eq_ok_iff :
    replay_genesis profile row = .ok () ↔ row.Creates profile := by
  unfold replay_genesis
  constructor
  · intro h
    split at h
    · next hevidence =>
      simp only [ok_rules, Bool.not_eq_true, Option.isSome_eq_false_iff, Option.isNone_iff_eq_none] at h
      obtain ⟨hkind, hsource, hcounter, hprior, rfl⟩ := h
      exact ⟨hevidence, hkind, hsource, hcounter, hprior⟩
    · exact absurd h throw_ne_ok
  · intro h
    rw [h.evidence]
    simp [reject_eq_ok_iff, h.kind, h.source_occurrence, h.program_counter, h.prior_occurrence]

theorem replay_successor_eq_ok_iff :
    replay_successor sha index prior row = .ok () ↔ row.Succeeds sha prior := by
  simp only [replay_successor, ok_rules, validate_transition_kind_eq_ok_iff]
  constructor
  · rintro ⟨hsource, hvalidated, hkind, hevidence⟩
    exact ⟨hsource, hvalidated, hkind, hevidence⟩
  · intro h
    exact ⟨h.source_occurrence, h.validated, h.described, h.evidenced⟩

/-- The decisions of a row are new and are added to those already seen. -/
theorem replay_decisions_eq_ok_iff {known next : Finset HumanDecisionIdV1} {decisions : List HumanDecisionIdV1} :
    replay_decisions known decisions = .ok next ↔
      decisions.Nodup ∧ (∀ decision ∈ decisions, decision ∉ known) ∧ known ∪ decisions.toFinset = next := by
  induction decisions generalizing known with
  | nil => simp [replay_decisions, pure_eq_ok_iff]
  | cons decision rest ih =>
    simp only [replay_decisions, ok_rules, ih, List.nodup_cons, List.forall_mem_cons, Finset.mem_insert,
      List.toFinset_cons, Finset.union_insert, Finset.insert_union]
    constructor
    · rintro ⟨hnew, hrest, hfresh, hnext⟩
      exact ⟨⟨fun hmem => (hfresh decision hmem).1 rfl, hrest⟩, ⟨hnew, fun other hmem => (hfresh other hmem).2⟩,
        hnext⟩
    · rintro ⟨⟨habsent, hrest⟩, ⟨hnew, hfresh⟩, hnext⟩
      exact ⟨hnew, hrest, fun other hmem => ⟨fun heq => habsent (heq ▸ hmem), hfresh other hmem⟩, hnext⟩

theorem replay_link_zero_eq_ok_iff {decisions : Finset HumanDecisionIdV1} :
    replay_link sha profile 0 state row = .ok decisions ↔
      row.Creates profile ∧ state.human_decisions = decisions := by
  simp only [replay_link, if_true, ok_rules, replay_genesis_eq_ok_iff]

theorem replay_link_succ_eq_ok_iff {decisions : Finset HumanDecisionIdV1} (hindex : index ≠ 0)
    (hprior : state.previous_snapshot = some prior) :
    replay_link sha profile index state row = .ok decisions ↔
      row.Succeeds sha prior ∧
      replay_decisions state.human_decisions (new_decisions prior row.snapshot) = .ok decisions := by
  simp only [replay_link, if_neg hindex, hprior, ok_rules, Option.some.injEq, exists_eq_left',
    replay_successor_eq_ok_iff]

end Checks

section Rows

variable {sha : Sha256} {campaign : CampaignId} {profile : Option Digest} {index : Nat}
  {row : StoredTransitionRow} {rows more : List StoredTransitionRow} {state next : ReplayState}

/-- The state after a row, with what its decisions and its artifact came to. -/
def ReplayState.after (state : ReplayState) (row : StoredTransitionRow)
    (human_decisions : Finset HumanDecisionIdV1)
    (human_artifacts : ExtTreeMap HumanDecisionIdV1 ExpectedHumanRow) : ReplayState :=
  { previous_snapshot := some row.snapshot
    previous_event := row.event
    latest_occurrences := state.latest_occurrences.insert row.successor_occurrence row.snapshot
    spends := remember state.spends (spend_entry row.snapshot)
    attempts := remember state.attempts (attempt_entry row.snapshot)
    settlements := remember state.settlements (settlement_entry row.snapshot)
    human_decisions
    human_artifacts }

variable (hsuccessor : row.successor = row.snapshot.state_digest)

include hsuccessor

/-- No snapshot has a spend without its issuance, so accounting never fails. -/
theorem replay_spend_eq_ok (spends : ExtTreeMap AgSpendRefV1 ExpectedSpendRow) :
    replay_spend spends row = .ok (remember spends (spend_entry row.snapshot)) := by
  have hissuance := isSome_issuance row.snapshot
  rw [replay_spend, spend_entry, hsuccessor]
  cases hspend : row.snapshot.ag_spend with
  | none => rfl
  | some spend =>
    rw [hspend] at hissuance
    obtain ⟨issuance, hissued⟩ := Option.isSome_iff_exists.mp hissuance
    rw [hissued]
    rfl

theorem replay_attempt_eq (attempts : ExtTreeMap DocketAttemptRefV1 ExpectedAttemptRow) :
    replay_attempt attempts row = remember attempts (attempt_entry row.snapshot) := by
  rw [replay_attempt, attempt_entry, hsuccessor]
  cases row.snapshot.docket_custody <;> rfl

theorem replay_settlement_eq (settlements : ExtTreeMap SettlementRefV1 ExpectedSettlementRow) :
    replay_settlement settlements row = remember settlements (settlement_entry row.snapshot) := by
  rw [replay_settlement, settlement_entry, hsuccessor]
  cases row.snapshot.settlement <;> rfl

omit hsuccessor

theorem replay_row_eq_ok_iff :
    replay_row sha campaign profile index state row = .ok next ↔
      row.Bound sha campaign state.previous_event ∧
      ∃ decisions, replay_link sha profile index state row = .ok decisions ∧
      ∃ artifacts, replay_artifact state.human_artifacts row = .ok artifacts ∧
        state.after row decisions artifacts = next := by
  simp only [replay_row, ok_rules, replay_binding_eq_ok_iff]
  refine and_congr_right fun hbound => exists_congr fun decisions => and_congr_right fun _ => ?_
  simp only [replay_spend_eq_ok hbound.successor, replay_attempt_eq hbound.successor,
    replay_settlement_eq hbound.successor, Except.ok.injEq, exists_eq_left']
  rfl

theorem replay_rows_append :
    replay_rows sha campaign profile index state (rows ++ more) =
      (replay_rows sha campaign profile index state rows >>= fun state =>
        replay_rows sha campaign profile (index + rows.length) state more) := by
  induction rows generalizing index state with
  | nil => rfl
  | cons row rows ih =>
    simp only [List.cons_append, replay_rows, ih, bind_assoc, List.length_cons]
    refine bind_congr fun middle => bind_congr fun last => ?_
    rw [Nat.add_right_comm, Nat.add_assoc]

/-- The replay of a journal and of the row after it. -/
theorem replay_rows_concat_eq_ok_iff :
    replay_rows sha campaign profile index state (rows ++ [row]) = .ok next ↔
      ∃ middle, replay_rows sha campaign profile index state rows = .ok middle ∧
        replay_row sha campaign profile (index + rows.length) middle row = .ok next := by
  simp only [replay_rows_append, replay_rows, ok_rules, exists_eq_right]

/-- Every row that was replayed is bound. -/
theorem bound_of_replay_rows (h : replay_rows sha campaign profile index state rows = .ok next) :
    ∀ row ∈ rows, ∃ event, row.Bound sha campaign event := by
  induction rows generalizing index state with
  | nil => simp
  | cons row rows ih =>
    simp only [replay_rows, bind_eq_ok_iff] at h
    obtain ⟨middle, hrow, hrows⟩ := h
    refine List.forall_mem_cons.mpr ⟨⟨_, (replay_row_eq_ok_iff.mp hrow).1⟩, ih hrows⟩

end Rows

end ag_store

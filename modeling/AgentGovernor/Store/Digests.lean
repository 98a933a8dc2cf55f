import AgentGovernor.Lib.HashChain
import AgentGovernor.Store.ReplaySpec

open ag_primitives Checked ag_campaign ag_campaign.governed Relational HashChain

namespace ag_store

/-- The event digest of a row if it were chained to another event. -/
def StoredTransitionRow.event_after (sha : Sha256) (campaign : CampaignId) (previous : Digest)
    (row : StoredTransitionRow) : Digest :=
  StoredTransitionRow.expected_event sha campaign { row with previous_event := previous }

section Chains

variable {sha : Sha256} {campaign : CampaignId} {profile : Option Digest}
  {rows : List StoredTransitionRow} {state : ReplayState}

variable (h : replay_rows sha campaign profile 0 (.initial sha campaign) rows = .ok state)

include h

/-- The replay of a journal that has one row more. -/
theorem replay_rows_cases : (rows = [] ∧ state = .initial sha campaign) ∨
      ∃ front row middle, rows = front ++ [row] ∧
        replay_rows sha campaign profile 0 (.initial sha campaign) front = .ok middle ∧
        replay_row sha campaign profile front.length middle row = .ok state := by
  rcases List.eq_nil_or_concat' rows with rfl | ⟨front, row, rfl⟩
  · exact .inl ⟨rfl, (pure_eq_ok_iff.mp h).symm⟩
  · obtain ⟨middle, hfront, hrow⟩ := replay_rows_concat_eq_ok_iff.mp h
    rw [Nat.zero_add] at hrow
    exact .inr ⟨front, row, middle, rfl, hfront, hrow⟩

/-- The events of a replayed journal are chained from the start of the campaign. -/
theorem events_linked :
    Linked (StoredTransitionRow.event_after sha campaign) StoredTransitionRow.previous_event
      StoredTransitionRow.event id (genesis_event sha campaign) rows state.previous_event := by
  induction rows using List.reverseRecOn generalizing state with
  | nil =>
    obtain rfl := pure_eq_ok_iff.mp h
    exact .nil
  | append_singleton front row ih =>
    obtain ⟨middle, hfront, hrow⟩ := replay_rows_concat_eq_ok_iff.mp h
    obtain ⟨hbound, decisions, _, artifacts, _, rfl⟩ := replay_row_eq_ok_iff.mp hrow
    refine .snoc (ih hfront) hbound.previous_event ?_
    rw [hbound.event, ← hbound.previous_event]
    rfl

/-- The snapshot replay stands at after a journal is the one of its last row. -/
theorem previous_snapshot_of_replay_rows :
    state.previous_snapshot = rows.getLast?.map StoredTransitionRow.snapshot := by
  rcases replay_rows_cases h with ⟨rfl, rfl⟩ | ⟨front, row, middle, rfl, _, hrow⟩
  · rfl
  · obtain ⟨_, _, _, _, _, rfl⟩ := replay_row_eq_ok_iff.mp hrow
    rw [List.getLast?_concat]
    rfl

omit h in
/-- A row after the first one succeeds the snapshot of the row before it. -/
theorem succeeds_of_replay_rows {front : List StoredTransitionRow} {earlier row : StoredTransitionRow}
    (h : replay_rows sha campaign profile 0 (.initial sha campaign) (front ++ [earlier] ++ [row]) = .ok state) :
    row.Succeeds sha earlier.snapshot := by
  obtain ⟨middle, hfront, hrow⟩ := replay_rows_concat_eq_ok_iff.mp h
  obtain ⟨_, decisions, hlink, _⟩ := replay_row_eq_ok_iff.mp hrow
  have hprior := previous_snapshot_of_replay_rows hfront
  rw [List.getLast?_concat, Option.map_some] at hprior
  exact ((replay_link_succ_eq_ok_iff (by simp) hprior).mp hlink).1

omit h in
/-- The first row of a journal names the profile digest of its store. -/
theorem creates_of_replay_rows {first : StoredTransitionRow} {rest : List StoredTransitionRow}
    (h : replay_rows sha campaign profile 0 (.initial sha campaign) (first :: rest) = .ok state) :
    first.Creates profile := by
  simp only [replay_rows, bind_eq_ok_iff] at h
  obtain ⟨_, hrow, _⟩ := h
  obtain ⟨_, _, hlink, _⟩ := replay_row_eq_ok_iff.mp hrow
  exact (replay_link_zero_eq_ok_iff.mp hlink).1

omit h in
/-- A bound row links its snapshot's state to the digest before it. -/
theorem StoredTransitionRow.Bound.linked {event : Digest} {row : StoredTransitionRow}
    (h : row.Bound sha campaign event) :
    row.successor = state_digest sha row.predecessor row.snapshot.state := by
  obtain ⟨_, hdigest, _⟩ := validate_integrity_eq_ok_iff.mp h.integrity
  rw [h.successor, h.predecessor, hdigest]

/-- The state digests of a replayed journal are chained from the digest its first
snapshot follows. -/
theorem states_linked {start : Digest} (hstart : ∀ first ∈ rows.head?, first.predecessor = start) :
    Linked (state_digest sha) StoredTransitionRow.predecessor StoredTransitionRow.successor
      (fun row => row.snapshot.state) start rows ((rows.getLast?.map StoredTransitionRow.successor).getD start) := by
  induction rows using List.reverseRecOn generalizing state with
  | nil => exact .nil
  | append_singleton front row ih =>
    obtain ⟨middle, hfront, hrow⟩ := replay_rows_concat_eq_ok_iff.mp h
    obtain ⟨hbound, _⟩ := replay_row_eq_ok_iff.mp hrow
    have hpredecessor : row.predecessor = (front.getLast?.map StoredTransitionRow.successor).getD start := by
      rcases List.eq_nil_or_concat' front with rfl | ⟨rest, earlier, rfl⟩
      · exact hstart row rfl
      · have hsucceeds := succeeds_of_replay_rows h
        obtain ⟨_, hearlier⟩ := bound_of_replay_rows hfront earlier (by simp)
        obtain ⟨_, _, hprior, _⟩ := validate_successor_eq_ok_iff.mp hsucceeds.validated
        rw [hbound.predecessor, hprior, List.getLast?_concat, ← hearlier.successor]
        rfl
    have hlinked := ih hfront fun first hfirst => hstart first (by
      rw [List.head?_append_of_ne_nil _ (List.ne_nil_of_mem (List.mem_of_mem_head? hfirst))]
      exact hfirst)
    rw [List.getLast?_concat]
    exact .snoc hlinked hpredecessor (hpredecessor ▸ hbound.linked)

end Chains

end ag_store

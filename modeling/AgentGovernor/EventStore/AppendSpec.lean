import AgentGovernor.EventStore.ChainSpec
import AgentGovernor.Lib.EventLog

open ag_primitives Checked Relational Transaction Windows HashChain EventLog

namespace ag_store.lib

section Spec

/-- The row that an append puts behind the head of a store. -/
def Store.next_row (sha : Sha256) (store : Store) (event : NewEventV1) (payload_jcs state_jcs : Jcs) : EventRow :=
  event_row sha store.chain_head event (store.chain_head.sequence + 1) payload_jcs state_jcs

/-- The materialized row of an event. -/
def EventRow.materialized (row : EventRow) (revision : Nat) (state_jcs : Jcs) : MaterializedRow :=
  { entity_id := row.entity_id
    revision
    state_jcs
    state_digest := row.state_digest
    last_event_sequence := row.sequence
    last_event_digest := row.event_digest }

/-- The receipt of an event. -/
def EventRow.receipt (row : EventRow) (entity_revision : Nat) : EventReceiptV1 :=
  { sequence := row.sequence
    event_id := row.event_id
    previous_digest := row.previous_digest
    event_digest := row.event_digest
    entity_revision
    state_digest := row.state_digest }

/-- What an append is accepted for. -/
structure AppendAccepted (event : NewEventV1) (state : Serializable) (expected_revision : Nat) (store : Store)
    (payload_jcs state_jcs : Jcs) : Prop where
  valid : validate_event event = .ok ()
  fresh : ∀ row ∈ store.events.rows, row.event_id ≠ event.event_id
  revision : materialized_revision event.entity_id store = expected_revision
  revision_range : expected_revision + 1 ≤ I64_MAX
  sequence_range : store.chain_head.sequence + 1 ≤ I64_MAX
  payload : event.payload = .ok payload_jcs
  state : state = .ok state_jcs

/-- What an append does to a store: one row is chained to the head and becomes the state of
its entity, and everything else stays as it is. -/
structure Appended (row : EventRow) (revision : Nat) (state_jcs : Jcs) (store store' : Store) : Prop where
  events : store'.events.rows = store.events.rows ++ [row]
  materialized_state : store'.materialized_state.rows =
    upserted MaterializedRow.entity_id store.materialized_state.rows (row.materialized revision state_jcs)
  frame : store' = { store with
    events := store'.events, materialized_state := store'.materialized_state, chain_head := row.head }

variable {sha : Sha256} {event : NewEventV1} {state : Serializable} {expected_revision : Nat} {store store' : Store}
  {receipt : EventReceiptV1}

theorem returns_append_iff :
    Returns (append_event_in_transaction sha event state expected_revision) store receipt store' ↔
      ∃ payload_jcs state_jcs, AppendAccepted event state expected_revision store payload_jcs state_jcs ∧
        receipt = (store.next_row sha event payload_jcs state_jcs).receipt (expected_revision + 1) ∧
        Appended (store.next_row sha event payload_jcs state_jcs) (expected_revision + 1) state_jcs store store' := by
  simp only [append_event_in_transaction, returns_lift_bind_iff, returns_query_bind_iff, Except.ok.injEq,
    exists_eq_left', ok_rules, checked_next_eq_ok_iff, to_i64_eq_ok_iff, jcs, returns_insert_row_bind_iff,
    returns_upsert_row_bind_iff, returns_update_bind_iff, returns_pure_iff, Prod.mk.injEq, Bool.not_eq_true,
    List.any_eq_false, decide_eq_true_eq]
  constructor
  · rintro ⟨hvalid, hfresh, rfl, _, ⟨_, rfl⟩, _, ⟨_, rfl⟩, payload_jcs, hpayload, state_jcs, hstate, _,
      ⟨hsequence, rfl⟩, events, hevents, _, ⟨hrange, rfl⟩, materialized, hmaterialized, _, _, ⟨_, rfl⟩, rfl, rfl⟩
    exact ⟨payload_jcs, state_jcs, ⟨hvalid, hfresh, rfl, hrange, hsequence, hpayload, hstate⟩, rfl, hevents,
      hmaterialized, rfl⟩
  · rintro ⟨payload_jcs, state_jcs, ⟨hvalid, hfresh, rfl, hrange, hsequence, hpayload, hstate⟩, rfl, hevents,
      hmaterialized, hframe⟩
    have hu64 : ∀ {value : Nat}, value + 1 ≤ I64_MAX → value + 1 < 2 ^ 64 := by
      intro value hvalue
      exact lt_of_le_of_lt hvalue (by decide)
    exact ⟨hvalid, hfresh, rfl, _, ⟨hu64 hrange, rfl⟩, _, ⟨hu64 hsequence, rfl⟩, payload_jcs, hpayload, state_jcs,
      hstate, _, ⟨hsequence, rfl⟩, store'.events, hevents, _, ⟨hrange, rfl⟩, store'.materialized_state, hmaterialized,
      trivial, _, ⟨trivial, rfl⟩, rfl, hframe.symm⟩

theorem ensure_no_backup_barrier_eq_ok_iff :
    ensure_no_backup_barrier store = .ok () ↔ active_backup_cut store = none := by
  unfold ensure_no_backup_barrier
  cases active_backup_cut store <;> simp

theorem returns_append_event_iff : Returns (append_event sha event state expected_revision) store receipt store' ↔
    active_backup_cut store = none ∧
      Returns (append_event_in_transaction sha event state expected_revision) store receipt store' := by
  simp only [append_event, returns_lift_bind_iff, exists_unit_iff, returns_transaction_iff, returns_query_bind_iff,
    ensure_no_backup_barrier_eq_ok_iff]
  refine ⟨And.right, fun h => ⟨?_, h⟩⟩
  obtain ⟨_, _, haccepted, _⟩ := returns_append_iff.mp h.2
  exact haccepted.valid

end Spec

end ag_store.lib

import AgentGovernor.EventStore.AppendSpec

open ag_primitives Checked Relational Transaction Windows HashChain EventLog

namespace ag_store.lib

/-- A materialized row is what the log makes of its entity: the last event of the entity
and the number of its events. -/
structure MaterializedRow.Folds (sha : Sha256) (log : List EventRow) (row : MaterializedRow) (event : EventRow) :
    Prop where
  latest : EventLog.latest EventRow.entity_id log row.entity_id = some event
  revision : row.revision = EventLog.revision EventRow.entity_id log row.entity_id
  state_digest : row.state_digest = event.state_digest
  sequence : row.last_event_sequence = event.sequence
  event_digest : row.last_event_digest = event.event_digest
  state : row.state_digest = state_digest_of sha row.state_jcs

/-- The events are one chain in the order they were inserted, and the materialized states
are the fold of the chain. -/
structure Store.Sound (sha : Sha256) (store : Store) : Prop where
  chain : EventChain sha (genesis_head sha store.store_identity) store.events.rows store.chain_head
  folds : ∀ row ∈ store.materialized_state.rows, ∃ event, row.Folds sha store.events.rows event
  complete : ∀ event ∈ store.events.rows, ∃ row ∈ store.materialized_state.rows, row.entity_id = event.entity_id

section Sound

variable {sha : Sha256} {store store' : Store} {row : EventRow} {state_jcs : Jcs} {entity_id : String}

theorem Store.fresh_sound (sha : Sha256) (identity : StoreIdentityV1) (objects : Digest → Option BlobFileV1) :
    (Store.fresh sha identity objects).Sound sha :=
  ⟨.nil, by simp [Store.fresh], by simp [Store.fresh]⟩

theorem Store.Sound.log_eq (h : store.Sound sha) : store.log = store.events.rows :=
  sort_by_key_of_strict EventRow.sequence h.chain.strict

theorem MaterializedRow.Folds.bound {row : MaterializedRow} {event : EventRow}
    (h : row.Folds sha store.events.rows event) : row.Bound sha store event := by
  obtain ⟨hstored, hentity⟩ := mem_of_latest_eq_some h.latest
  exact ⟨hstored, h.sequence.symm, hentity, h.state_digest.symm, h.event_digest.symm, h.state⟩

/-- A sound store passes its own check. -/
theorem Store.Sound.verify_chain (h : store.Sound sha) :
    lib.verify_chain sha store = .ok store.chain_head := by
  refine verify_chain_eq_ok_iff.mpr ⟨⟨?_, fun row hrow => ?_⟩, rfl⟩
  · rw [h.log_eq]
    exact h.chain
  · obtain ⟨event, hfolds⟩ := h.folds row hrow
    exact ⟨event, hfolds.bound⟩

/-- The revision a store reports is the number of events. -/
theorem Store.Sound.materialized_revision (h : store.Sound sha) (entity_id : String) :
    lib.materialized_revision entity_id store = EventLog.revision EventRow.entity_id store.events.rows entity_id := by
  unfold lib.materialized_revision
  cases hfind : store.materialized_state.rows.find? fun row => row.entity_id = entity_id with
  | some found =>
    have hentity : found.entity_id = entity_id := by simpa using List.find?_some hfind
    obtain ⟨event, hfolds⟩ := h.folds found (List.mem_of_find?_eq_some hfind)
    rw [← hentity]
    exact hfolds.revision
  | none =>
    refine (revision_eq_zero_iff.mpr fun event hevent hentity => ?_).symm
    obtain ⟨present, hpresent, hsame⟩ := h.complete event hevent
    have hnone := List.find?_eq_none.mp hfind present hpresent
    simp [hsame, hentity] at hnone

/-- Chaining a row to the head and replacing the state of its entity keeps a store sound. -/
theorem Appended.sound {revision : Nat} (h : Appended row revision state_jcs store store') (hsound : store.Sound sha)
    (hlink : row.previous = store.chain_head ∧ row.head = chain_link sha store.chain_head row.content)
    (hpayload : row.payload_digest = payload_digest_of sha row.payload_jcs)
    (hstate : row.state_digest = state_digest_of sha state_jcs)
    (hrevision : lib.materialized_revision row.entity_id store + 1 = revision) : store'.Sound sha := by
  have hidentity : store'.store_identity = store.store_identity := by rw [h.frame]
  have hhead : store'.chain_head = row.head := by rw [h.frame]
  rw [hsound.materialized_revision] at hrevision
  refine ⟨?_, ?_, ?_⟩
  · rw [hidentity, hhead, h.events]
    exact eventChain_append_iff.mpr ⟨_, hsound.chain, hlink.1, hlink.2, hpayload, rfl⟩
  · intro present hpresent
    rw [h.materialized_state, mem_upserted_iff] at hpresent
    rw [h.events]
    rcases hpresent with rfl | ⟨hpresent, hother⟩
    · exact ⟨row, latest_append_self _ row, hrevision.symm.trans (revision_append_self _ row).symm, rfl, rfl, rfl,
        hstate⟩
    · obtain ⟨event, hfolds⟩ := hsound.folds present hpresent
      have hne : row.entity_id ≠ present.entity_id := fun hsame => hother hsame.symm
      exact ⟨event, (latest_append_of_ne hne).trans hfolds.latest,
        hfolds.revision.trans (revision_append_of_ne hne).symm, hfolds.state_digest, hfolds.sequence,
        hfolds.event_digest, hfolds.state⟩
  · intro event hevent
    rw [h.events] at hevent
    rw [h.materialized_state]
    by_cases hentity : event.entity_id = row.entity_id
    · exact ⟨_, mem_upserted_iff.mpr (.inl rfl), hentity.symm⟩
    · rcases List.mem_append.mp hevent with hevent | hevent
      · obtain ⟨present, hpresent, hsame⟩ := hsound.complete event hevent
        exact ⟨present, mem_upserted_iff.mpr (.inr ⟨hpresent, fun heq => hentity (hsame.symm.trans heq)⟩), hsame⟩
      · exact absurd (congrArg EventRow.entity_id (List.mem_singleton.mp hevent)) hentity

section Append

variable {event : NewEventV1} {state : Serializable} {expected_revision : Nat} {receipt : EventReceiptV1}

theorem append_sound (hsound : store.Sound sha)
    (h : Returns (append_event_in_transaction sha event state expected_revision) store receipt store') :
    store'.Sound sha := by
  obtain ⟨payload_jcs, state_jcs, haccepted, _, happended⟩ := returns_append_iff.mp h
  -- the row is linked to the head it was computed from
  refine happended.sound hsound ⟨rfl, rfl⟩ rfl rfl ?_
  exact congrArg (· + 1) haccepted.revision

/-- What makes an append succeed: beside the checks of the call itself, a sound store has
room for the row, as long as the event identity is free. -/
theorem append_ok (hsha : sha.CollisionFree) (hsound : store.Sound sha) {payload_jcs state_jcs : Jcs}
    (haccepted : AppendAccepted event state expected_revision store payload_jcs state_jcs) :
    ∃ store', Returns (append_event_in_transaction sha event state expected_revision) store
        ((store.next_row sha event payload_jcs state_jcs).receipt (expected_revision + 1)) store' ∧
      Appended (store.next_row sha event payload_jcs state_jcs) (expected_revision + 1) state_jcs store store' := by
  let row := store.next_row sha event payload_jcs state_jcs
  have hevents : ∀ present ∈ store.events.rows, ¬ conflict present row := by
    rintro present hpresent (hsequence | hid | hdigest)
    · have hbound := (hsound.chain.sequence_bounds hpresent).2
      have hnext : present.sequence = store.chain_head.sequence + 1 := hsequence
      omega
    · exact haccepted.fresh present hpresent hid
    · -- equal digests cover equal sequences
      have hinput : present.hash_input = row.hash_input :=
        (digest_value_inj hsha).mp ((hsound.chain.digests hpresent).trans hdigest)
      have hbound := (hsound.chain.sequence_bounds hpresent).2
      have hnext : present.sequence = store.chain_head.sequence + 1 := congrArg EventHashInputV1.sequence hinput
      omega
  have hmaterialized : (upserted MaterializedRow.entity_id store.materialized_state.rows
      (row.materialized (expected_revision + 1) state_jcs)).Pairwise fun left right => ¬ conflict left right := by
    refine upserted_distinct (fun _ _ _ _ hentity => .inl hentity) fun present hpresent hother => ?_
    rintro (hentity | hsequence)
    · exact hother hentity
    · obtain ⟨event, hfolds⟩ := hsound.folds present hpresent
      have hbound := (hsound.chain.sequence_bounds hfolds.bound.stored).2
      have hnext : present.last_event_sequence = store.chain_head.sequence + 1 := hsequence
      rw [hfolds.sequence] at hnext
      omega
  let after : Store := { store with
    events := ⟨store.events.rows ++ [row], store.events.distinct_append hevents⟩
    materialized_state := ⟨_, hmaterialized⟩
    chain_head := row.head }
  have happended : Appended row (expected_revision + 1) state_jcs store after := ⟨rfl, rfl, rfl⟩
  exact ⟨after, returns_append_iff.mpr ⟨payload_jcs, state_jcs, haccepted, rfl, happended⟩, happended⟩

end Append

end Sound

end ag_store.lib

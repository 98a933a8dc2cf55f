import AgentGovernor.EventStore.Store
import AgentGovernor.Lib.HashChain

open ag_primitives Checked Relational Transaction Windows HashChain

namespace ag_store.lib

section Link

/-- What a link of the event chain covers beside the place it has in the chain. -/
structure EventContent where
  event_id : String
  entity_id : String
  event_kind : String
  occurred_at_unix_ms : Int64
  payload_digest : Digest
  state_digest : Digest

def EventRow.content (row : EventRow) : EventContent :=
  { event_id := row.event_id
    entity_id := row.entity_id
    event_kind := row.event_kind
    occurred_at_unix_ms := row.occurred_at_unix_ms
    payload_digest := row.payload_digest
    state_digest := row.state_digest }

/-- The head a row was chained to. -/
def EventRow.previous (row : EventRow) : ChainHeadV1 :=
  { sequence := row.sequence - 1, digest := row.previous_digest }

/-- The head a row makes. -/
def EventRow.head (row : EventRow) : ChainHeadV1 :=
  { sequence := row.sequence, digest := row.event_digest }

/-- The head behind the given one. -/
def chain_link (sha : Sha256) (head : ChainHeadV1) (content : EventContent) : ChainHeadV1 :=
  { sequence := head.sequence + 1
    digest := event_digest_for sha
      { sequence := head.sequence + 1
        event_id := content.event_id
        entity_id := content.entity_id
        event_kind := content.event_kind
        occurred_at_unix_ms := content.occurred_at_unix_ms
        previous_digest := head.digest
        payload_digest := content.payload_digest
        state_digest := content.state_digest } }

def genesis_head (sha : Sha256) (identity : StoreIdentityV1) : ChainHeadV1 :=
  { sequence := 0, digest := genesis_digest sha identity }

variable {sha : Sha256} {start finish : ChainHeadV1} {rows : List EventRow} {row : EventRow}

/-- Rows in chain order behind a head, each with the digest of its payload. -/
structure EventChain (sha : Sha256) (start : ChainHeadV1) (rows : List EventRow) (finish : ChainHeadV1) : Prop where
  linked : Linked (chain_link sha) EventRow.previous EventRow.head EventRow.content start rows finish
  payloads : ∀ row ∈ rows, row.payload_digest = payload_digest_of sha row.payload_jcs

/-- What is checked of one row is that it is linked to the head before it. -/
theorem EventRow.linked_iff (row : EventRow) (head : ChainHeadV1) :
    (row.sequence = head.sequence + 1 ∧ row.previous_digest = head.digest ∧
        event_digest_for sha row.hash_input = row.event_digest) ↔
      row.previous = head ∧ row.head = chain_link sha head row.content := by
  constructor
  · rintro ⟨hsequence, hprevious, hdigest⟩
    refine ⟨?_, ?_⟩
    · simp [EventRow.previous, hsequence, hprevious]
    · simp only [EventRow.head, chain_link, ChainHeadV1.mk.injEq, ← hdigest, ← hsequence, ← hprevious]
      exact ⟨trivial, rfl⟩
  · rintro ⟨rfl, hhead⟩
    simp only [EventRow.head, chain_link, ChainHeadV1.mk.injEq] at hhead
    refine ⟨hhead.1, rfl, ?_⟩
    rw [hhead.2, ← hhead.1]
    rfl

theorem EventChain.nil : EventChain sha start [] start :=
  ⟨.nil, by simp⟩

theorem eventChain_append_iff : EventChain sha start (rows ++ [row]) finish ↔
    ∃ head, EventChain sha start rows head ∧ row.previous = head ∧ row.head = chain_link sha head row.content ∧
      row.payload_digest = payload_digest_of sha row.payload_jcs ∧ row.head = finish := by
  constructor
  · rintro ⟨hlinked, hpayloads⟩
    generalize happended : rows ++ [row] = all at hlinked
    cases hlinked with
    | nil => simp at happended
    | @snoc before head last hbefore hprevious hnext =>
      obtain ⟨rfl, hlast⟩ := List.append_inj' happended rfl
      obtain rfl : row = last := by simpa using hlast
      exact ⟨head, ⟨hbefore, fun other hother => hpayloads other (by simp [hother])⟩, hprevious, hnext,
        hpayloads row (by simp), rfl⟩
  · rintro ⟨head, hrows, hprevious, hnext, hpayload, rfl⟩
    exact ⟨.snoc hrows.linked hprevious hnext, List.forall_mem_append.mpr
      ⟨hrows.payloads, List.forall_mem_singleton.mpr hpayload⟩⟩

theorem verify_events_append (sha : Sha256) (start : ChainHeadV1) (rows : List EventRow) (row : EventRow) :
    verify_events sha start (rows ++ [row]) = verify_events sha start rows >>= (verify_events sha · [row]) := by
  induction rows generalizing start with
  | nil => rfl
  | cons first rows ih =>
    simp only [List.cons_append, verify_events, ih, bind_assoc]

/-- The walk accepts exactly the chains. -/
theorem verify_events_eq_ok_iff : verify_events sha start rows = .ok finish ↔ EventChain sha start rows finish := by
  induction rows using List.reverseRecOn generalizing finish with
  | nil =>
    rw [verify_events, pure_eq_ok_iff]
    constructor
    · rintro rfl
      exact .nil
    · intro h
      exact h.linked.foldl_eq.symm
  | append_singleton rows row ih =>
    rw [verify_events_append, bind_eq_ok_iff, eventChain_append_iff]
    refine exists_congr fun head => and_congr ih ?_
    simp only [verify_events, ok_rules]
    rw [← and_assoc (a := row.previous = head), ← EventRow.linked_iff]
    constructor
    · rintro ⟨hsequence, hprevious, hpayload, hdigest, rfl⟩
      exact ⟨⟨hsequence, hprevious, hdigest⟩, hpayload.symm, rfl⟩
    · rintro ⟨⟨hsequence, hprevious, hdigest⟩, hpayload, rfl⟩
      exact ⟨hsequence, hprevious, hpayload.symm, hdigest, rfl⟩

variable (h : EventChain sha start rows finish)

include h

/-- The sequences of a chain count up from its start. -/
theorem EventChain.sequences :
    rows.map EventRow.sequence = List.range' (start.sequence + 1) rows.length ∧
      finish.sequence = start.sequence + rows.length := by
  induction rows using List.reverseRecOn generalizing finish with
  | nil =>
    obtain rfl : finish = start := h.linked.foldl_eq
    simp
  | append_singleton rows row ih =>
    obtain ⟨head, hrows, _, hnext, _, rfl⟩ := eventChain_append_iff.mp h
    obtain ⟨hsequences, hlast⟩ := ih hrows
    have hsequence : row.sequence = start.sequence + rows.length + 1 := by
      rw [← hlast]
      exact congrArg ChainHeadV1.sequence hnext
    refine ⟨?_, ?_⟩
    · rw [List.map_append, hsequences, List.length_append, List.length_singleton, List.range'_concat]
      simp only [List.map_cons, List.map_nil, hsequence, one_mul]
      congr 2
      omega
    · simp only [EventRow.head, hsequence, List.length_append, List.length_singleton]
      omega

theorem EventChain.strict :
    rows.Pairwise fun left right => left.sequence < right.sequence := by
  have hpairwise : (rows.map EventRow.sequence).Pairwise (· < ·) := by
    rw [h.sequences.1]
    exact List.pairwise_lt_range'
  exact List.pairwise_map.mp hpairwise

theorem EventChain.sequence_bounds (hrow : row ∈ rows) :
    start.sequence < row.sequence ∧ row.sequence ≤ finish.sequence := by
  have hmem : row.sequence ∈ rows.map EventRow.sequence := List.mem_map_of_mem hrow
  rw [h.sequences.1, List.mem_range'_1] at hmem
  rw [h.sequences.2]
  omega

/-- Every row of a chain has the digest of what it holds. -/
theorem EventChain.digests (hrow : row ∈ rows) :
    event_digest_for sha row.hash_input = row.event_digest := by
  induction rows using List.reverseRecOn generalizing finish with
  | nil => cases hrow
  | append_singleton rows last ih =>
    obtain ⟨head, hrows, hprevious, hnext, _, _⟩ := eventChain_append_iff.mp h
    rcases List.mem_append.mp hrow with hrow | hlast
    · exact ih hrows hrow
    · rw [List.mem_singleton.mp hlast]
      exact ((EventRow.linked_iff last head).mpr ⟨hprevious, hnext⟩).2.2

end Link

section Verify

variable {sha : Sha256} {identity : StoreIdentityV1} {store : Store} {head : ChainHeadV1}

/-- The events in chain order. -/
def Store.log (store : Store) : List EventRow :=
  sort_by_key EventRow.sequence store.events.rows

theorem Store.mem_log {row : EventRow} : row ∈ store.log ↔ row ∈ store.events.rows :=
  (sort_by_key_perm _ _).mem_iff

theorem event_at_eq_some_iff {sequence : Nat} {row : EventRow} :
    event_at sequence store = some row ↔ row ∈ store.events.rows ∧ row.sequence = sequence :=
  Table.find?_eq_some_iff fun _ _ hleft hright => .inl (hleft.trans hright.symm)

/-- The event a materialized row points to, with everything that is checked of it. -/
structure MaterializedRow.Bound (sha : Sha256) (store : Store) (row : MaterializedRow) (event : EventRow) : Prop where
  stored : event ∈ store.events.rows
  sequence : event.sequence = row.last_event_sequence
  entity_id : event.entity_id = row.entity_id
  state_digest : event.state_digest = row.state_digest
  event_digest : event.event_digest = row.last_event_digest
  state : row.state_digest = state_digest_of sha row.state_jcs

theorem verify_materialized_eq_ok_iff {row : MaterializedRow} :
    verify_materialized sha store row = .ok () ↔ ∃ event, row.Bound sha store event := by
  simp only [verify_materialized, ok_rules, Option.map_eq_some_iff, event_at_eq_some_iff, Prod.mk.injEq]
  constructor
  · rintro ⟨hstate, event, ⟨hstored, hsequence⟩, hentity, hdigest, hevent⟩
    exact ⟨event, hstored, hsequence, hentity, hdigest, hevent, hstate.symm⟩
  · rintro ⟨event, h⟩
    exact ⟨h.state.symm, event, ⟨h.stored, h.sequence⟩, h.entity_id, h.state_digest, h.event_digest⟩

/-- What the check of a store establishes. -/
structure Store.Verified (sha : Sha256) (identity : StoreIdentityV1) (store : Store) : Prop where
  chain : EventChain sha (genesis_head sha identity) store.log store.chain_head
  bound : ∀ row ∈ store.materialized_state.rows, ∃ event, row.Bound sha store event

theorem verify_chain_connection_eq_ok_iff :
    verify_chain_connection sha identity store = .ok head ↔ store.Verified sha identity ∧ store.chain_head = head := by
  simp only [verify_chain_connection, ok_rules, verify_materialized_eq_ok_iff]
  constructor
  · rintro ⟨expected, hevents, ⟨hsequence, hdigest⟩, hbound, rfl⟩
    have hexpected : store.chain_head = expected := by
      cases expected
      exact ChainHeadV1.mk.injEq _ _ _ _ ▸ ⟨hsequence, hdigest⟩
    exact ⟨⟨hexpected ▸ verify_events_eq_ok_iff.mp hevents, hbound⟩, rfl⟩
  · rintro ⟨⟨hchain, hbound⟩, rfl⟩
    exact ⟨store.chain_head, verify_events_eq_ok_iff.mpr hchain, ⟨rfl, rfl⟩, hbound, rfl⟩

theorem verify_chain_eq_ok_iff : verify_chain sha store = .ok head ↔
    store.Verified sha store.store_identity ∧ store.chain_head = head :=
  verify_chain_connection_eq_ok_iff

end Verify

end ag_store.lib

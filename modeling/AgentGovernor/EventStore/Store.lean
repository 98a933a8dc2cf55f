import AgentGovernor.EventStore.Records
import AgentGovernor.Lib.Statements
import AgentGovernor.Lib.Windows

open ag_primitives Checked Relational Transaction Windows

namespace ag_store.lib

section Rows

/-- A row of `events`. Columns of canonical bytes hold the document they encode, and
columns of digest text hold the digest: a column that cannot be read is no state here. -/
structure EventRow where
  sequence : Nat
  event_id : String
  entity_id : String
  event_kind : String
  occurred_at_unix_ms : Int64
  previous_digest : Digest
  payload_jcs : Jcs
  payload_digest : Digest
  state_digest : Digest
  event_digest : Digest

/-- A row of `materialized_state`. -/
structure MaterializedRow where
  entity_id : String
  revision : Nat
  state_jcs : Jcs
  state_digest : Digest
  last_event_sequence : Nat
  last_event_digest : Digest

/-- A row of `blobs`. -/
structure BlobRow where
  digest : Digest
  byte_length : Nat
  installed_at_unix_ms : Int64

/-- A row of `backup_cuts`. The `CHECK` constraints on its columns are kept by every
statement that writes one. -/
structure BackupCutRow where
  cut_id : String
  authority_domain : AuthorityDomainId
  epoch : EpochId
  quiescence_barrier_id : String
  state : BackupCutStateV1
  begin_request_digest : Digest
  begin_event_sequence : Nat
  begin_event_digest : Digest
  manifest_digest : Option Digest
  seal_event_sequence : Option Nat
  seal_event_digest : Option Digest
  release_bundle_digest : Option Digest
  release_event_sequence : Option Nat
  release_event_digest : Option Digest
  abort_reason : Option String
  abort_event_sequence : Option Nat
  abort_event_digest : Option Digest
  created_at_unix_ms : Int64
  updated_at_unix_ms : Int64

/-- A row of `backup_participants`. -/
structure BackupParticipantRow where
  cut_id : String
  participant : BackupParticipantV1
  component_identity : Digest
  checkpoint_jcs : Option BackupCheckpointV1
  checkpoint_digest : Option Digest
  prepared_event_sequence : Option Nat
  prepared_event_digest : Option Digest

/-- A stream of bytes: how many there are, and the digest of the first ones of them. -/
structure BlobBytesV1 where
  length : Nat
  digest_of_first : Nat → Digest

/-- A file of the immutable object directory: whether it is a read-only regular file with
one link, and what its bytes are. -/
structure BlobFileV1 where
  immutable : Bool
  content : BlobBytesV1

/-- The states in which a cut fences ordinary mutation. -/
def BackupCutStateV1.active : BackupCutStateV1 → Bool
  | Preparing | Prepared | Sealed => true
  | Released | Aborted => false

end Rows

section Constraints

/-- Two values of a `UNIQUE` column that may be `NULL`. -/
def collide {A : Type} (left right : Option A) : Prop :=
  left.isSome = true ∧ left = right

instance {A : Type} [DecidableEq A] (left right : Option A) : Decidable (collide left right) :=
  inferInstanceAs (Decidable (_ ∧ _))

theorem collide_symm {A : Type} {left right : Option A} (h : collide left right) : collide right left := by
  obtain ⟨hsome, rfl⟩ := h
  exact ⟨hsome, rfl⟩

instance : Constrained EventRow where
  conflict left right := left.sequence = right.sequence ∨ left.event_id = right.event_id ∨
    left.event_digest = right.event_digest
  decide_conflict _ _ := inferInstance
  symmetric _ _ h := h.imp Eq.symm (Or.imp Eq.symm Eq.symm)

instance : Constrained MaterializedRow where
  conflict left right := left.entity_id = right.entity_id ∨ left.last_event_sequence = right.last_event_sequence
  decide_conflict _ _ := inferInstance
  symmetric _ _ h := h.imp Eq.symm Eq.symm

instance : Constrained BlobRow where
  conflict left right := left.digest = right.digest
  decide_conflict _ _ := inferInstance
  symmetric _ _ h := h.symm

/-- Beside the unique columns, no two cuts may be active. -/
instance : Constrained BackupCutRow where
  conflict left right := left.cut_id = right.cut_id ∨
    left.quiescence_barrier_id = right.quiescence_barrier_id ∨
    left.begin_event_sequence = right.begin_event_sequence ∨
    left.begin_event_digest = right.begin_event_digest ∨
    collide left.seal_event_sequence right.seal_event_sequence ∨
    collide left.seal_event_digest right.seal_event_digest ∨
    collide left.release_event_sequence right.release_event_sequence ∨
    collide left.release_event_digest right.release_event_digest ∨
    collide left.abort_event_sequence right.abort_event_sequence ∨
    collide left.abort_event_digest right.abort_event_digest ∨
    (left.state.active = true ∧ right.state.active = true)
  decide_conflict _ _ := inferInstance
  symmetric _ _ h := h.imp Eq.symm (Or.imp Eq.symm (Or.imp Eq.symm (Or.imp Eq.symm (Or.imp collide_symm
    (Or.imp collide_symm (Or.imp collide_symm (Or.imp collide_symm (Or.imp collide_symm
      (Or.imp collide_symm And.symm)))))))))

instance : Constrained BackupParticipantRow where
  conflict left right := (left.cut_id = right.cut_id ∧ left.participant = right.participant) ∨
    collide left.prepared_event_sequence right.prepared_event_sequence ∨
    collide left.prepared_event_digest right.prepared_event_digest
  decide_conflict _ _ := inferInstance
  symmetric _ _ h := h.imp (And.imp Eq.symm Eq.symm) (Or.imp collide_symm collide_symm)

end Constraints

/-- A database with the directory of its immutable objects. The writer fence and the
activation record are left out: no call below reads them. -/
structure Store where
  store_identity : StoreIdentityV1
  chain_head : ChainHeadV1
  events : Table EventRow
  materialized_state : Table MaterializedRow
  blobs : Table BlobRow
  backup_cuts : Table BackupCutRow
  backup_participants : Table BackupParticipantRow
  objects : Digest → Option BlobFileV1

/-- A statement on the store. -/
abbrev StoreTx (A : Type) : Type := Tx Store StoreError A

section Digests

variable (sha : Sha256)

/-- The digest an event is chained with. -/
structure EventHashInputV1 where
  sequence : Nat
  event_id : String
  entity_id : String
  event_kind : String
  occurred_at_unix_ms : Int64
  previous_digest : Digest
  payload_digest : Digest
  state_digest : Digest

@[simp] def EventHashInputV1.serialize (value : EventHashInputV1) : Jcs :=
  .obj [("entity_id", to_jcs value.entity_id), ("event_id", to_jcs value.event_id),
    ("event_kind", to_jcs value.event_kind), ("occurred_at_unix_ms", to_jcs value.occurred_at_unix_ms),
    ("payload_digest", to_jcs value.payload_digest), ("previous_digest", to_jcs value.previous_digest),
    ("sequence", to_jcs value.sequence), ("state_digest", to_jcs value.state_digest)]

instance : Serialize EventHashInputV1 := ⟨EventHashInputV1.serialize⟩

instance : InjectiveSerialize EventHashInputV1 := .of_serialize

def event_digest_for (input : EventHashInputV1) : Digest :=
  digest_value sha "ag-store-event-v1" input

def genesis_digest (identity : StoreIdentityV1) : Digest :=
  digest_value sha "ag-store-event-chain-genesis-v1" identity

def payload_digest_of (payload_jcs : Jcs) : Digest :=
  Digest.hash_domain sha "ag-store-event-payload-v1" (.jcs payload_jcs)

def state_digest_of (state_jcs : Jcs) : Digest :=
  Digest.hash_domain sha "ag-store-materialized-state-v1" (.jcs state_jcs)

/-- What the digest of a row covers. -/
def EventRow.hash_input (row : EventRow) : EventHashInputV1 :=
  { sequence := row.sequence
    event_id := row.event_id
    entity_id := row.entity_id
    event_kind := row.event_kind
    occurred_at_unix_ms := row.occurred_at_unix_ms
    previous_digest := row.previous_digest
    payload_digest := row.payload_digest
    state_digest := row.state_digest }

end Digests

/-- What a new store is initialized as. -/
def Store.fresh (sha : Sha256) (identity : StoreIdentityV1) (objects : Digest → Option BlobFileV1) : Store :=
  { store_identity := identity
    chain_head := { sequence := 0, digest := genesis_digest sha identity }
    events := .empty
    materialized_state := .empty
    blobs := .empty
    backup_cuts := .empty
    backup_participants := .empty
    objects }

section Reads

def materialized_revision (entity_id : String) (store : Store) : Nat :=
  ((store.materialized_state.rows.find? fun row => row.entity_id = entity_id).map (·.revision)).getD 0

def event_at (sequence : Nat) (store : Store) : Option EventRow :=
  store.events.rows.find? fun row => row.sequence = sequence

/-- The receipt of an event that was appended earlier. Its revision is counted. -/
def event_receipt_by_sequence (sequence : Nat) (store : Store) : Except StoreError EventReceiptV1 := do
  let row ← ok_or (event_at sequence store) (.Sqlite .QueryReturnedNoRows)
  pure
    { sequence
      event_id := row.event_id
      previous_digest := row.previous_digest
      event_digest := row.event_digest
      entity_revision := store.events.rows.countP fun other =>
        other.entity_id = row.entity_id ∧ other.sequence ≤ sequence
      state_digest := row.state_digest }

/-- The cut that currently fences ordinary mutation. -/
def active_backup_cut (store : Store) : Option String :=
  (store.backup_cuts.rows.find? fun row => row.state.active).map (·.cut_id)

def ensure_no_backup_barrier (store : Store) : Except StoreError Unit :=
  match active_backup_cut store with
  | some cut_id => .error (.BackupBarrierActive cut_id)
  | none => .ok ()

end Reads

section Append

variable (sha : Sha256)

def validate_event (event : NewEventV1) : Except StoreError Unit := do
  validate_identifier "event_id" event.event_id 256
  validate_identifier "entity_id" event.entity_id 256
  validate_identifier "event_kind" event.event_kind 192

/-- The row of a new event behind the given head. -/
def event_row (head : ChainHeadV1) (event : NewEventV1) (sequence : Nat) (payload_jcs state_jcs : Jcs) :
    EventRow :=
  let row : EventRow :=
    { sequence
      event_id := event.event_id
      entity_id := event.entity_id
      event_kind := event.event_kind
      occurred_at_unix_ms := event.occurred_at_unix_ms
      previous_digest := head.digest
      payload_jcs
      payload_digest := payload_digest_of sha payload_jcs
      state_digest := state_digest_of sha state_jcs
      event_digest := ⟨[]⟩ }
  { row with event_digest := event_digest_for sha row.hash_input }

def append_event_in_transaction (event : NewEventV1) (state : Serializable) (expected_revision : Nat) :
    StoreTx EventReceiptV1 := do
  lift (validate_event event)
  let duplicate ← query fun store => .ok (store.events.rows.any fun row => row.event_id = event.event_id)
  lift (reject (duplicate = true) (.DuplicateEvent event.event_id))
  let head ← query fun store => .ok store.chain_head
  let actual_revision ← query fun store => .ok (materialized_revision event.entity_id store)
  lift (reject (actual_revision ≠ expected_revision)
    (.RevisionConflict event.entity_id expected_revision actual_revision))
  let entity_revision ← lift (checked_next actual_revision "entity revision overflow")
  let sequence ← lift (checked_next head.sequence "event sequence overflow")
  let payload_jcs ← lift (jcs event.payload)
  let state_jcs ← lift (jcs state)
  let row := event_row sha head event sequence payload_jcs state_jcs
  let _ ← lift (to_i64 sequence "event sequence")
  insert_row Store.events (fun events store => { store with events }) (.Sqlite .UniqueConstraint) row
  let _ ← lift (to_i64 entity_revision "entity revision")
  upsert_row Store.materialized_state (fun materialized_state store => { store with materialized_state })
    (.Sqlite .UniqueConstraint) MaterializedRow.entity_id
    { entity_id := event.entity_id
      revision := entity_revision
      state_jcs
      state_digest := row.state_digest
      last_event_sequence := sequence
      last_event_digest := row.event_digest }
  -- the compare-and-swap on the singleton head
  let current ← query fun store => .ok store.chain_head
  lift (reject (current ≠ head) (.Corrupt "event-chain CAS unexpectedly failed under writer fence"))
  update fun store => .ok ((), { store with chain_head := { sequence, digest := row.event_digest } })
  pure
    { sequence
      event_id := event.event_id
      previous_digest := head.digest
      event_digest := row.event_digest
      entity_revision
      state_digest := row.state_digest }

/-- Append an event and replace one materialized state atomically. -/
def append_event (event : NewEventV1) (state : Serializable) (expected_revision : Nat) :
    StoreTx EventReceiptV1 := do
  lift (validate_event event)
  transaction do
    query ensure_no_backup_barrier
    append_event_in_transaction sha event state expected_revision

/-- Appends two events for two distinct entities in one durable transaction. -/
def append_distinct_event_pair (first_event : NewEventV1) (first_state : Serializable)
    (first_expected_revision : Nat) (second_event : NewEventV1) (second_state : Serializable)
    (second_expected_revision : Nat) : StoreTx (EventReceiptV1 × EventReceiptV1) := do
  lift (validate_event first_event)
  lift (validate_event second_event)
  lift (reject (first_event.entity_id = second_event.entity_id)
    (.InvalidIdentifier "event_pair" "paired events must update distinct entities"))
  transaction do
    query ensure_no_backup_barrier
    let first ← append_event_in_transaction sha first_event first_state first_expected_revision
    let second ← append_event_in_transaction sha second_event second_state second_expected_revision
    pure (first, second)

end Append

section Verify

variable (sha : Sha256)

/-- The walk over the event chain, from the link and the sequence that are expected next. -/
def verify_events (expected : ChainHeadV1) : List EventRow → Except StoreError ChainHeadV1
  | [] => pure expected
  | row :: rows => do
    reject (row.sequence ≠ expected.sequence + 1) (.Corrupt ("event sequence gap: expected " ++
      toString (expected.sequence + 1) ++ ", found " ++ toString row.sequence))
    reject (row.previous_digest ≠ expected.digest)
      (.Corrupt ("event " ++ toString row.sequence ++ " predecessor does not match chain"))
    reject (payload_digest_of sha row.payload_jcs ≠ row.payload_digest)
      (.Corrupt ("event " ++ toString row.sequence ++ " payload digest mismatch"))
    reject (event_digest_for sha row.hash_input ≠ row.event_digest)
      (.Corrupt ("event " ++ toString row.sequence ++ " digest mismatch"))
    verify_events { sequence := row.sequence, digest := row.event_digest } rows

/-- A materialized row is checked against the event it points to. -/
def verify_materialized (store : Store) (row : MaterializedRow) : Except StoreError Unit := do
  reject (state_digest_of sha row.state_jcs ≠ row.state_digest)
    (.Corrupt ("materialized state digest mismatch for " ++ reprStr row.entity_id))
  let linked := (event_at row.last_event_sequence store).map fun event =>
    (event.entity_id, event.state_digest, event.event_digest)
  reject (linked ≠ some (row.entity_id, row.state_digest, row.last_event_digest))
    (.Corrupt ("materialized state event binding mismatch for " ++ reprStr row.entity_id))

/-- Verify every event link, payload digest, state digest, final head, and current
materialized-state pointer. -/
def verify_chain_connection (identity : StoreIdentityV1) (store : Store) : Except StoreError ChainHeadV1 := do
  let expected ← verify_events sha { sequence := 0, digest := genesis_digest sha identity }
    (sort_by_key EventRow.sequence store.events.rows)
  let head := store.chain_head
  reject (head.sequence ≠ expected.sequence ∨ head.digest ≠ expected.digest)
    (.Corrupt "persisted chain head does not match event chain")
  store.materialized_state.rows.forM (verify_materialized sha store)
  pure head

/-- The check of an open store, under the identity it was opened with. -/
def verify_chain (store : Store) : Except StoreError ChainHeadV1 :=
  verify_chain_connection sha store.store_identity store

end Verify

end ag_store.lib

import AgentGovernor.EventStore.Store

open ag_primitives Checked Relational Transaction Windows

namespace ag_store.lib

def backup_entity_id (cut_id : String) : String :=
  "backup-cut:" ++ cut_id

def required_backup_participant_count : Nat := 3

section Rows

def Store.cut (store : Store) (cut_id : String) : Option BackupCutRow :=
  store.backup_cuts.rows.find? fun row => row.cut_id = cut_id

def Store.participant (store : Store) (cut_id : String) (participant : BackupParticipantV1) :
    Option BackupParticipantRow :=
  store.backup_participants.rows.find? fun row => row.cut_id = cut_id ∧ row.participant = participant

/-- How many participants of a cut have prepared. -/
def Store.prepared_count (store : Store) (cut_id : String) : Nat :=
  store.backup_participants.rows.countP fun row => row.cut_id = cut_id ∧ row.checkpoint_digest.isSome = true

def backup_state_in_transaction (cut_id : String) (store : Store) : Except StoreError BackupCutStateV1 := do
  let row ← ok_or (store.cut cut_id) (.BackupCutNotFound cut_id)
  pure row.state

/-- Fetch a backup-cut lifecycle summary. -/
def backup_cut_from_connection (cut_id : String) (store : Store) : Except StoreError BackupCutRecordV1 := do
  let row ← ok_or (store.cut cut_id) (.BackupCutNotFound cut_id)
  reject (store.prepared_count cut_id > 255) (.Corrupt "prepared participant count does not fit u8")
  pure
    { cut_id
      state := row.state
      prepared_participants := store.prepared_count cut_id
      manifest_digest := row.manifest_digest
      release_bundle_digest := row.release_bundle_digest
      abort_reason := row.abort_reason }

/-- `UPDATE backup_cuts … WHERE cut_id`. -/
def update_cut (cut_id : String) (change : BackupCutRow → BackupCutRow) : StoreTx Nat :=
  update_rows Store.backup_cuts (fun backup_cuts store => { store with backup_cuts }) (.Sqlite .UniqueConstraint)
    (fun row => row.cut_id = cut_id) change

end Rows

section Manifest

/-- The prepared fact of one registration. -/
def prepared_participant (row : BackupParticipantRow) : Except StoreError PreparedParticipantV1 := do
  let checkpoint ← ok_or row.checkpoint_jcs .BackupNotPrepared
  reject (checkpoint.participant ≠ row.participant)
    (.Corrupt "checkpoint participant disagrees with table key")
  let prepared_event_sequence ← ok_or row.prepared_event_sequence .BackupNotPrepared
  let prepared_event_digest ← ok_or row.prepared_event_digest .BackupNotPrepared
  pure { checkpoint, prepared_event_sequence, prepared_event_digest }

/-- Construct the only sealable manifest from durable prepared facts. Every role is a
required one, so no registration is left over when the required ones are taken. -/
def build_backup_manifest_from_connection (cut_id : String) (store : Store) :
    Except StoreError BackupCutManifestV1 := do
  let cut ← ok_or (store.cut cut_id) (.BackupCutNotFound cut_id)
  reject (cut.state ≠ .Prepared ∧ cut.state ≠ .Sealed ∧ cut.state ≠ .Released) .BackupNotPrepared
  let rows := sort_by_key (fun row => row.participant.as_str)
    (store.backup_participants.rows.filter fun row => row.cut_id = cut_id)
  let by_role ← rows.mapM prepared_participant
  let participants ← REQUIRED_BACKUP_PARTICIPANTS.mapM fun role =>
    ok_or (by_role.find? fun prepared => prepared.checkpoint.participant = role) .BackupNotPrepared
  pure
    { version := "backup-cut/v1"
      cut_id
      authority_domain := cut.authority_domain
      epoch := cut.epoch
      quiescence_barrier_id := cut.quiescence_barrier_id
      participants }

end Manifest

section Lifecycle

variable (sha : Sha256)

def begin_request_digest (request : BeginBackupCutV1) : Digest :=
  digest_value sha "ag-store-backup-begin-request-v1" request

def checkpoint_digest (checkpoint : BackupCheckpointV1) : Digest :=
  digest_value sha "ag-store-backup-checkpoint-v1" checkpoint

def manifest_digest (manifest : BackupCutManifestV1) : Digest :=
  digest_value sha "ag-store-backup-manifest-v1" manifest

/-- An event of a cut, which takes the entity of the cut to the given state. -/
def append_cut_event (event_id event_kind : String) (occurred_at_unix_ms : Int64) (payload : Jcs)
    (state : BackupCutMaterializedV1) (expected_revision : Nat) : StoreTx EventReceiptV1 :=
  append_event_in_transaction sha
    { event_id
      entity_id := backup_entity_id state.cut_id
      event_kind
      occurred_at_unix_ms
      payload := .ok payload }
    (.ok (to_jcs state)) expected_revision

/-- The event of a cut that begins. -/
def append_begun (request : BeginBackupCutV1) : StoreTx EventReceiptV1 :=
  append_cut_event sha ("backup:" ++ request.cut_id ++ ":begin") "backup-cut.begin.v1" request.created_at_unix_ms
    (to_jcs request)
    { cut_id := request.cut_id
      state := .Preparing
      prepared_participants := 0
      manifest_digest := none
      release_bundle_digest := none
      abort_reason := none } 0

/-- The event of a participant that prepares. -/
def append_prepared (cut_id : String) (checkpoint : BackupCheckpointV1) (occurred_at_unix_ms : Int64)
    (resulting_state : BackupCutStateV1) (resulting_count current_revision : Nat) : StoreTx EventReceiptV1 :=
  append_cut_event sha ("backup:" ++ cut_id ++ ":prepared:" ++ checkpoint.participant.as_str)
    "backup-cut.participant-prepared.v1" occurred_at_unix_ms (to_jcs checkpoint)
    { cut_id
      state := resulting_state
      prepared_participants := resulting_count
      manifest_digest := none
      release_bundle_digest := none
      abort_reason := none } current_revision

/-- The event of a cut that is sealed. -/
def append_sealed (manifest : BackupCutManifestV1) (occurred_at_unix_ms : Int64) (current_revision : Nat) :
    StoreTx EventReceiptV1 :=
  append_cut_event sha ("backup:" ++ manifest.cut_id ++ ":sealed") "backup-cut.sealed.v1" occurred_at_unix_ms
    (to_jcs manifest)
    { cut_id := manifest.cut_id
      state := .Sealed
      prepared_participants := required_backup_participant_count
      manifest_digest := some (manifest_digest sha manifest)
      release_bundle_digest := none
      abort_reason := none } current_revision

/-- The event of a cut that is released. -/
def append_released (cut_id : String) (manifest_digest bundle_digest : Digest) (occurred_at_unix_ms : Int64)
    (current_revision : Nat) : StoreTx EventReceiptV1 :=
  append_cut_event sha ("backup:" ++ cut_id ++ ":released") "backup-cut.released.v1" occurred_at_unix_ms
    (.obj [("bundle_digest", to_jcs bundle_digest), ("cut_id", to_jcs cut_id)])
    { cut_id
      state := .Released
      prepared_participants := required_backup_participant_count
      manifest_digest := some manifest_digest
      release_bundle_digest := some bundle_digest
      abort_reason := none } current_revision

/-- The event of a cut that is aborted. -/
def append_aborted (cut_id reason : String) (manifest_digest : Option Digest) (occurred_at_unix_ms : Int64)
    (count current_revision : Nat) : StoreTx EventReceiptV1 :=
  append_cut_event sha ("backup:" ++ cut_id ++ ":aborted") "backup-cut.aborted.v1" occurred_at_unix_ms
    (.obj [("cut_id", to_jcs cut_id), ("reason", to_jcs reason)])
    { cut_id
      state := .Aborted
      prepared_participants := count
      manifest_digest
      release_bundle_digest := none
      abort_reason := some reason } current_revision

/-- The row of a cut that has begun. -/
def begin_row (request : BeginBackupCutV1) (receipt : EventReceiptV1) : BackupCutRow :=
  { cut_id := request.cut_id
    authority_domain := request.authority_domain
    epoch := request.epoch
    quiescence_barrier_id := request.quiescence_barrier_id
    state := .Preparing
    begin_request_digest := begin_request_digest sha request
    begin_event_sequence := receipt.sequence
    begin_event_digest := receipt.event_digest
    manifest_digest := none
    seal_event_sequence := none
    seal_event_digest := none
    release_bundle_digest := none
    release_event_sequence := none
    release_event_digest := none
    abort_reason := none
    abort_event_sequence := none
    abort_event_digest := none
    created_at_unix_ms := request.created_at_unix_ms
    updated_at_unix_ms := request.created_at_unix_ms }

/-- The row of a participant that has registered. -/
def registration_row (cut_id : String) (registration : BackupParticipantRegistrationV1) : BackupParticipantRow :=
  { cut_id
    participant := registration.participant
    component_identity := registration.component_identity
    checkpoint_jcs := none
    checkpoint_digest := none
    prepared_event_sequence := none
    prepared_event_digest := none }

/-- The row of a participant that has prepared. -/
def prepared_row (checkpoint : BackupCheckpointV1) (receipt : EventReceiptV1) (row : BackupParticipantRow) :
    BackupParticipantRow :=
  { row with
    checkpoint_jcs := some checkpoint
    checkpoint_digest := some (checkpoint_digest sha checkpoint)
    prepared_event_sequence := some receipt.sequence
    prepared_event_digest := some receipt.event_digest }

def preparing_row (state : BackupCutStateV1) (updated_at_unix_ms : Int64) (row : BackupCutRow) : BackupCutRow :=
  { row with state, updated_at_unix_ms }

def sealed_row (manifest_digest : Digest) (receipt : EventReceiptV1) (updated_at_unix_ms : Int64)
    (row : BackupCutRow) : BackupCutRow :=
  { row with
    state := .Sealed
    manifest_digest := some manifest_digest
    seal_event_sequence := some receipt.sequence
    seal_event_digest := some receipt.event_digest
    updated_at_unix_ms }

def released_row (bundle_digest : Digest) (receipt : EventReceiptV1) (updated_at_unix_ms : Int64)
    (row : BackupCutRow) : BackupCutRow :=
  { row with
    state := .Released
    release_bundle_digest := some bundle_digest
    release_event_sequence := some receipt.sequence
    release_event_digest := some receipt.event_digest
    updated_at_unix_ms }

def aborted_row (reason : String) (receipt : EventReceiptV1) (updated_at_unix_ms : Int64)
    (row : BackupCutRow) : BackupCutRow :=
  { row with
    state := .Aborted
    abort_reason := some reason
    abort_event_sequence := some receipt.sequence
    abort_event_digest := some receipt.event_digest
    updated_at_unix_ms }

def insert_registrations (cut_id : String) : List BackupParticipantRegistrationV1 → StoreTx Unit
  | [] => pure ()
  | registration :: registrations => do
    insert_row Store.backup_participants (fun backup_participants store => { store with backup_participants })
      (.Sqlite .UniqueConstraint) (registration_row cut_id registration)
    insert_registrations cut_id registrations

/-- Begin a coherent backup barrier and register exactly three participants. Exact retries
return the original begin receipt. -/
def begin_backup_cut (request : BeginBackupCutV1) : StoreTx EventReceiptV1 := do
  lift request.validate
  match ← query fun store => .ok (store.cut request.cut_id) with
  | some row => do
    lift (reject (row.begin_request_digest ≠ begin_request_digest sha request) (.BackupCutConflict request.cut_id))
    query (event_receipt_by_sequence row.begin_event_sequence)
  | none => do
    query fun store => reject ((active_backup_cut store).isSome = true) .BackupCutAlreadyActive
    transaction do
      query fun store => reject ((active_backup_cut store).isSome = true) .BackupCutAlreadyActive
      let receipt ← append_begun sha request
      let _ ← lift (to_i64 request.epoch.value.toNat "backup epoch")
      insert_row Store.backup_cuts (fun backup_cuts store => { store with backup_cuts })
        (.Sqlite .UniqueConstraint) (begin_row sha request receipt)
      insert_registrations request.cut_id request.participants
      pure receipt

/-- The state of a cut with so many prepared participants. -/
def resulting_state (count : Nat) : BackupCutStateV1 :=
  if count = REQUIRED_BACKUP_PARTICIPANTS.length then .Prepared else .Preparing

/-- The transaction that prepares a participant for the first time. -/
def prepare_fresh (cut_id : String) (checkpoint : BackupCheckpointV1) (occurred_at_unix_ms : Int64) :
    StoreTx EventReceiptV1 :=
  transaction do
    let state ← query (backup_state_in_transaction cut_id)
    lift (reject (state ≠ .Preparing ∧ state ≠ .Prepared) (.InvalidBackupTransition "prepare participant" state))
    let already_prepared ← query fun store => .ok (store.prepared_count cut_id)
    let resulting_count := already_prepared + 1
    let current_revision ← query fun store => .ok (materialized_revision (backup_entity_id cut_id) store)
    lift (reject (resulting_count > 255) (.Corrupt "prepared participant count does not fit u8"))
    let receipt ← append_prepared sha cut_id checkpoint occurred_at_unix_ms (resulting_state resulting_count)
      resulting_count current_revision
    let changed ← update_rows Store.backup_participants
      (fun backup_participants store => { store with backup_participants }) (.Sqlite .UniqueConstraint)
      (fun row => row.cut_id = cut_id ∧ row.participant = checkpoint.participant ∧ row.checkpoint_digest = none)
      (prepared_row sha checkpoint receipt)
    lift (reject (changed ≠ 1) (.BackupCheckpointConflict checkpoint.participant))
    let _ ← update_cut cut_id (preparing_row (resulting_state resulting_count) occurred_at_unix_ms)
    pure receipt

/-- Durably prepare one participant checkpoint. Exact retries are idempotent; a changed
retry is rejected. -/
def prepare_backup_participant (cut_id : String) (checkpoint : BackupCheckpointV1) (occurred_at_unix_ms : Int64) :
    StoreTx EventReceiptV1 := do
  let cut ← query fun store => ok_or (store.cut cut_id) (.BackupCutNotFound cut_id)
  lift (checkpoint.quiescence_attestation.validate_for cut_id cut.authority_domain cut.epoch
    cut.quiescence_barrier_id checkpoint.participant)
  let registered ← query fun store => ok_or (store.participant cut_id checkpoint.participant)
    (.BackupParticipantMismatch checkpoint.participant)
  lift (reject (registered.component_identity ≠ checkpoint.component_identity)
    (.BackupParticipantMismatch checkpoint.participant))
  match registered.checkpoint_digest with
  | some prior_digest => do
    lift (reject (prior_digest ≠ checkpoint_digest sha checkpoint)
      (.BackupCheckpointConflict checkpoint.participant))
    let prior_sequence ← lift (ok_or registered.prepared_event_sequence
      (.Corrupt "prepared checkpoint lacks event sequence"))
    query (event_receipt_by_sequence prior_sequence)
  | none => prepare_fresh sha cut_id checkpoint occurred_at_unix_ms

/-- Seal the exact manifest built from all three prepared participants. -/
def seal_backup_cut (manifest : BackupCutManifestV1) (occurred_at_unix_ms : Int64) : StoreTx EventReceiptV1 := do
  let cut ← query fun store => ok_or (store.cut manifest.cut_id) (.BackupCutNotFound manifest.cut_id)
  match cut.manifest_digest with
  | some stored_digest => do
    lift (reject (stored_digest ≠ manifest_digest sha manifest) .BackupManifestMismatch)
    let sequence ← lift (ok_or cut.seal_event_sequence (.Corrupt "sealed cut lacks event sequence"))
    query (event_receipt_by_sequence sequence)
  | none => do
    -- manifests have equal documents exactly when they are equal
    let expected ← query (build_backup_manifest_from_connection manifest.cut_id)
    lift (reject (expected ≠ manifest) .BackupManifestMismatch)
    transaction do
      let state ← query (backup_state_in_transaction manifest.cut_id)
      lift (reject (state ≠ .Prepared) (.InvalidBackupTransition "seal" state))
      let current_revision ← query fun store => .ok (materialized_revision (backup_entity_id manifest.cut_id) store)
      let receipt ← append_sealed sha manifest occurred_at_unix_ms current_revision
      let _ ← update_cut manifest.cut_id (sealed_row (manifest_digest sha manifest) receipt occurred_at_unix_ms)
      pure receipt

/-- Release a sealed barrier after the exact verified backup bundle is published. -/
def release_backup_cut (cut_id : String) (bundle_digest : Digest) (occurred_at_unix_ms : Int64) :
    StoreTx EventReceiptV1 := do
  let cut ← query fun store => ok_or (store.cut cut_id) (.BackupCutNotFound cut_id)
  if cut.state = .Released then do
    lift (reject (cut.release_bundle_digest ≠ some bundle_digest) (.BackupCutConflict cut_id))
    let sequence ← lift (ok_or cut.release_event_sequence (.Corrupt "released cut lacks event sequence"))
    query (event_receipt_by_sequence sequence)
  else
    transaction do
      let state ← query (backup_state_in_transaction cut_id)
      lift (reject (state ≠ .Sealed) (.InvalidBackupTransition "release" state))
      let sealed ← query fun store => ok_or (store.cut cut_id) (.Sqlite .QueryReturnedNoRows)
      let manifest_digest ← lift (ok_or sealed.manifest_digest (.Sqlite .InvalidColumnType))
      let current_revision ← query fun store => .ok (materialized_revision (backup_entity_id cut_id) store)
      let receipt ← append_released sha cut_id manifest_digest bundle_digest occurred_at_unix_ms current_revision
      let _ ← update_cut cut_id (released_row bundle_digest receipt occurred_at_unix_ms)
      pure receipt

/-- Abort an unreleased barrier, including a failed post-seal capture. -/
def abort_backup_cut (cut_id reason : String) (occurred_at_unix_ms : Int64) : StoreTx EventReceiptV1 := do
  lift (validate_identifier "abort_reason" reason 256)
  let cut ← query fun store => ok_or (store.cut cut_id) (.BackupCutNotFound cut_id)
  if cut.state = .Aborted then do
    lift (reject (cut.abort_reason ≠ some reason) (.BackupCutConflict cut_id))
    let sequence ← lift (ok_or cut.abort_event_sequence (.Corrupt "aborted cut lacks event sequence"))
    query (event_receipt_by_sequence sequence)
  else
    transaction do
      let state ← query (backup_state_in_transaction cut_id)
      lift (reject (state ≠ .Preparing ∧ state ≠ .Prepared ∧ state ≠ .Sealed)
        (.InvalidBackupTransition "abort" state))
      let count ← query fun store => .ok (store.prepared_count cut_id)
      let current_revision ← query fun store => .ok (materialized_revision (backup_entity_id cut_id) store)
      let current ← query fun store => ok_or (store.cut cut_id) (.Sqlite .QueryReturnedNoRows)
      lift (reject (count > 255) (.Corrupt "prepared participant count does not fit u8"))
      let receipt ← append_aborted sha cut_id reason current.manifest_digest occurred_at_unix_ms count
        current_revision
      let _ ← update_cut cut_id (aborted_row reason receipt occurred_at_unix_ms)
      pure receipt

end Lifecycle

section Blobs

/-- Result of installing a blob without replacement. -/
inductive BlobInstallResult where
  | Installed
  | AlreadyPresent
  deriving DecidableEq

/-- Hashes what is read, which is never more than one byte over the expected size. -/
def hash_blob_reader (bytes : BlobBytesV1) (expected_size : Nat) : BlobDescriptorV1 :=
  let read := min bytes.length (min (expected_size + 1) (2 ^ 64 - 1))
  { digest := bytes.digest_of_first read, byte_length := read }

def verify_blob_file (file : Option BlobFileV1) (expected : BlobDescriptorV1) : Except StoreError Unit := do
  let file ← ok_or file (.Io "No such file or directory")
  reject (file.immutable = false)
    (.Corrupt ("blob " ++ expected.digest.as_str ++ " is not an immutable, singly-linked regular file"))
  let actual := hash_blob_reader file.content expected.byte_length
  reject (actual ≠ expected) (.BlobMismatch expected actual)

/-- The file half of an installation: an existing object is verified, and a new one is
written from what the reader yields. The store has one writer, so no object appears while
the bytes are copied. -/
def install_object (descriptor : BlobDescriptorV1) (reader : Except StoreError BlobBytesV1) : StoreTx Unit := do
  match ← query fun store => .ok (store.objects descriptor.digest) with
  | some file => lift (verify_blob_file (some file) descriptor)
  | none => do
    let bytes ← lift reader
    let actual := hash_blob_reader bytes descriptor.byte_length
    lift (reject (actual ≠ descriptor) (.BlobMismatch descriptor actual))
    let file : BlobFileV1 := { immutable := true, content := { bytes with length := actual.byte_length } }
    update fun store => .ok ((), { store with
      objects := Function.update store.objects descriptor.digest (some file) })

def Store.blob (store : Store) (digest : Digest) : Option BlobRow :=
  store.blobs.rows.find? fun row => row.digest = digest

/-- Atomically install exact immutable bytes and catalog them. The reader yields bytes, or
fails within those that are read. -/
def install_blob (descriptor : BlobDescriptorV1) (reader : Except StoreError BlobBytesV1)
    (installed_at_unix_ms : Int64) : StoreTx BlobInstallResult := do
  match ← query fun store => .ok (store.blob descriptor.digest) with
  | some row => do
    lift (reject (row.byte_length ≠ descriptor.byte_length)
      (.Corrupt ("catalog size disagrees with descriptor for " ++ descriptor.digest.as_str)))
    query fun store => verify_blob_file (store.objects descriptor.digest) descriptor
    pure .AlreadyPresent
  | none => do
    query ensure_no_backup_barrier
    install_object descriptor reader
    transaction do
      query ensure_no_backup_barrier
      let byte_length ← lift (to_i64 descriptor.byte_length "blob byte length")
      insert_or_ignore_row Store.blobs (fun blobs store => { store with blobs })
        { digest := descriptor.digest, byte_length, installed_at_unix_ms }
      let stored ← query fun store => ok_or (store.blob descriptor.digest) (.Sqlite .QueryReturnedNoRows)
      lift (reject (stored.byte_length ≠ descriptor.byte_length)
        (.Corrupt ("concurrent blob catalog mismatch for " ++ descriptor.digest.as_str)))
      pure .Installed

/-- The exact sorted immutable-object catalog, with every file verified again. -/
def blob_catalog (store : Store) : Except StoreError (List BlobDescriptorV1) := do
  let descriptors := (sort_by_key BlobRow.digest store.blobs.rows).map fun row =>
    ({ digest := row.digest, byte_length := row.byte_length } : BlobDescriptorV1)
  descriptors.forM fun descriptor => verify_blob_file (store.objects descriptor.digest) descriptor
  pure descriptors

def blob_catalog_digest (sha : Sha256) (catalog : List BlobDescriptorV1) : Digest :=
  digest_value sha "ag-store-blob-root-v1" catalog

/-- A deterministic root over the exact sorted blob catalog. -/
def blob_root (sha : Sha256) (store : Store) : Except StoreError Digest := do
  let catalog ← blob_catalog store
  pure (blob_catalog_digest sha catalog)

end Blobs

end ag_store.lib

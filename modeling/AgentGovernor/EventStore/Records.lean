import AgentGovernor.Primitives.Origin

open ag_primitives Checked

namespace ag_store.lib

def STORE_SCHEMA_VERSION : UInt32 := 2
def STORE_SCHEMA_NAME : String := "ag-store-event-v1"

/-- SHA-256, under its domain, of the schema text compiled into the crate. -/
def SCHEMA_DIGEST : Digest :=
  ⟨[10, 6, 9, 7, 10, 1, 5, 3, 10, 8, 15, 6, 9, 9, 14, 5, 7, 7, 5, 8, 14, 2, 13, 0, 1, 0, 7, 0, 11, 1, 13, 10,
    7, 13, 2, 5, 9, 14, 1, 12, 9, 11, 15, 12, 15, 10, 8, 4, 3, 9, 15, 2, 8, 12, 1, 13, 10, 5, 2, 14, 12, 1, 3, 9]⟩

/-- Required backup component. -/
inductive BackupParticipantV1 where
  | Agd
  | AgEffectd
  | AgProviderd
  deriving DecidableEq, Repr

/-- Stable filesystem and wire spelling. -/
def BackupParticipantV1.as_str : BackupParticipantV1 → String
  | Agd => "agd"
  | AgEffectd => "ag-effectd"
  | AgProviderd => "ag-providerd"

/-- All participants required for a coherent system backup, in the order of roles. -/
def REQUIRED_BACKUP_PARTICIPANTS : List BackupParticipantV1 := [.Agd, .AgEffectd, .AgProviderd]

/-- Durable backup-cut state. -/
inductive BackupCutStateV1 where
  | Preparing
  | Prepared
  | Sealed
  | Released
  | Aborted
  deriving DecidableEq, Repr

def BackupCutStateV1.as_str : BackupCutStateV1 → String
  | Preparing => "preparing"
  | Prepared => "prepared"
  | Sealed => "sealed"
  | Released => "released"
  | Aborted => "aborted"

/-- Immutable content-addressed blob descriptor. -/
structure BlobDescriptorV1 where
  digest : Digest
  byte_length : Nat
  deriving DecidableEq

/-- What SQLite refuses a statement with. -/
inductive SqliteErrorV1 where
  | UniqueConstraint
  | QueryReturnedNoRows
  | InvalidColumnType
  deriving DecidableEq, Repr

/-- Errors returned by the durable store. -/
inductive StoreError where
  | Io (reason : String)
  | Sqlite (error : SqliteErrorV1)
  | InvalidIdentity (reason : String)
  | InvalidIdentifier (field reason : String)
  | Canonicalization (reason : String)
  | InvalidStoredJson (reason : String)
  | RevisionConflict (entity_id : String) (expected actual : Nat)
  | DuplicateEvent (event_id : String)
  | BackupBarrierActive (cut_id : String)
  | InvalidBackupParticipants
  | BackupCutNotFound (cut_id : String)
  | BackupCutAlreadyActive
  | BackupCutConflict (cut_id : String)
  | InvalidBackupTransition (action : String) (state : BackupCutStateV1)
  | BackupParticipantMismatch (participant : BackupParticipantV1)
  | InvalidQuiescenceAttestation (participant : BackupParticipantV1)
  | BackupSchemaIdentityMismatch (participant : BackupParticipantV1)
  | BackupCheckpointConflict (participant : BackupParticipantV1)
  | BackupNotPrepared
  | BackupManifestMismatch
  | IncoherentBackupBundle
  | IncoherentBackupPublication
  | BlobMismatch (expected actual : BlobDescriptorV1)
  | Corrupt (reason : String)
  deriving DecidableEq

section Conversions

/-- The largest value of a column. Counters are natural numbers here, and every place
where the source leaves the range of `u64` or of a column is an explicit check. -/
def I64_MAX : Nat := 2 ^ 63 - 1

def to_i64 (value : Nat) (field : String) : Except StoreError Nat :=
  if value ≤ I64_MAX then .ok value
  else .error (.Corrupt (field ++ " exceeds SQLite's signed integer representation"))

/-- `checked_add(1)` on a `u64`. -/
def checked_next (value : Nat) (overflow : String) : Except StoreError Nat :=
  if value + 1 < 2 ^ 64 then .ok (value + 1) else .error (.Corrupt overflow)

theorem to_i64_eq_ok_iff {value converted : Nat} {field : String} :
    to_i64 value field = .ok converted ↔ value ≤ I64_MAX ∧ value = converted := by
  unfold to_i64
  split <;> simp_all

theorem checked_next_eq_ok_iff {value next : Nat} {overflow : String} :
    checked_next value overflow = .ok next ↔ value + 1 < 2 ^ 64 ∧ value + 1 = next := by
  unfold checked_next
  split <;> simp_all

/-- A character a stable identifier may contain. -/
def identifier_character (character : Char) : Bool :=
  character.isAlphanum || character ∈ ['-', '_', '.', ':', '/']

def validate_identifier (field value : String) (maximum : Nat) : Except StoreError Unit := do
  reject (value = "") (.InvalidIdentifier field "must not be empty")
  reject (value.utf8ByteSize > maximum)
    (.InvalidIdentifier field ("exceeds " ++ toString maximum ++ " bytes"))
  reject (value.toList.all identifier_character = false)
    (.InvalidIdentifier field "contains non-canonical characters")

/-- What a caller hands in to be serialized: the canonical document, or why there is none. -/
abbrev Serializable : Type := Except String Jcs

/-- Canonical bytes of a value. -/
def jcs (value : Serializable) : Except StoreError Jcs :=
  map_err value .Canonicalization

end Conversions

/-- Exact application and schema identity expected by a store opener. -/
structure StoreIdentityV1 where
  application_id : UInt32
  application_name : String
  schema_name : String
  schema_version : UInt32
  schema_digest : Digest
  deriving DecidableEq

/-- The identity of an application's store under the compiled schema. -/
def compiled_identity (application_id : UInt32) (application_name : String) : StoreIdentityV1 :=
  ⟨application_id, application_name, STORE_SCHEMA_NAME, STORE_SCHEMA_VERSION, SCHEMA_DIGEST⟩

/-- Current append-only event chain head. -/
structure ChainHeadV1 where
  sequence : Nat
  digest : Digest
  deriving DecidableEq

/-- Caller-provided event and state transition. -/
structure NewEventV1 where
  event_id : String
  entity_id : String
  event_kind : String
  occurred_at_unix_ms : Int64
  payload : Serializable

/-- Receipt for a chained event and its atomic materialized-state revision. -/
structure EventReceiptV1 where
  sequence : Nat
  event_id : String
  previous_digest : Digest
  event_digest : Digest
  entity_revision : Nat
  state_digest : Digest
  deriving DecidableEq

/-- Registration fixed when a backup cut starts. -/
structure BackupParticipantRegistrationV1 where
  participant : BackupParticipantV1
  component_identity : Digest
  deriving DecidableEq

/-- Request that creates a distributed quiescence barrier. -/
structure BeginBackupCutV1 where
  cut_id : String
  authority_domain : AuthorityDomainId
  epoch : EpochId
  quiescence_barrier_id : String
  participants : List BackupParticipantRegistrationV1
  created_at_unix_ms : Int64
  deriving DecidableEq

/-- Each role registers once, with an identity of its own. -/
def BeginBackupCutV1.validate (request : BeginBackupCutV1) : Except StoreError Unit := do
  validate_identifier "cut_id" request.cut_id 192
  validate_identifier "quiescence_barrier_id" request.quiescence_barrier_id 192
  reject (request.participants.length ≠ REQUIRED_BACKUP_PARTICIPANTS.length ∨
      (request.participants.map (·.participant)).toFinset ≠ REQUIRED_BACKUP_PARTICIPANTS.toFinset)
    .InvalidBackupParticipants
  reject ((request.participants.map (·.component_identity)).toFinset.card ≠ REQUIRED_BACKUP_PARTICIPANTS.length)
    .InvalidBackupParticipants

/-- The only quiescence mechanism that is implemented. -/
inductive QuiescenceBoundaryV1 where
  | OfflineServicesStopped
  deriving DecidableEq

/-- Exact operator attestation of one component's cross-daemon boundary. -/
structure QuiescenceBarrierAttestationV1 where
  schema : String
  cut_id : String
  authority_domain : AuthorityDomainId
  epoch : EpochId
  quiescence_barrier_id : String
  participant : BackupParticipantV1
  boundary : QuiescenceBoundaryV1
  boundary_summary : Digest
  attesting_principal : Digest
  attested_at_unix_ms : Int64
  deriving DecidableEq

def QuiescenceBarrierAttestationV1.validate_for (attestation : QuiescenceBarrierAttestationV1)
    (cut_id : String) (authority_domain : AuthorityDomainId) (epoch : EpochId) (barrier_id : String)
    (participant : BackupParticipantV1) : Except StoreError Unit :=
  reject (attestation.schema ≠ "ag-store-offline-quiescence-attestation-v1" ∨ attestation.cut_id ≠ cut_id ∨
      attestation.authority_domain ≠ authority_domain ∨ attestation.epoch ≠ epoch ∨
      attestation.quiescence_barrier_id ≠ barrier_id ∨ attestation.participant ≠ participant ∨
      attestation.boundary ≠ .OfflineServicesStopped)
    (.InvalidQuiescenceAttestation participant)

/-- A participant's immutable prepared boundary. -/
structure BackupCheckpointV1 where
  participant : BackupParticipantV1
  component_identity : Digest
  chain_head : ChainHeadV1
  blob_root : Digest
  config_identity : Digest
  schema_identity : Digest
  profile_identity : Digest
  build_identity : Digest
  quiescence_attestation : QuiescenceBarrierAttestationV1
  deriving DecidableEq

/-- Prepared checkpoint plus its locally committed event receipt. -/
structure PreparedParticipantV1 where
  checkpoint : BackupCheckpointV1
  prepared_event_sequence : Nat
  prepared_event_digest : Digest
  deriving DecidableEq

/-- Canonical coherent cut, built only after every participant prepares. -/
structure BackupCutManifestV1 where
  version : String
  cut_id : String
  authority_domain : AuthorityDomainId
  epoch : EpochId
  quiescence_barrier_id : String
  participants : List PreparedParticipantV1
  deriving DecidableEq

/-- Public summary of a durable backup cut. -/
structure BackupCutRecordV1 where
  cut_id : String
  state : BackupCutStateV1
  prepared_participants : Nat
  manifest_digest : Option Digest
  release_bundle_digest : Option Digest
  abort_reason : Option String

/-- The materialized state of a cut. -/
structure BackupCutMaterializedV1 where
  cut_id : String
  state : BackupCutStateV1
  prepared_participants : Nat
  manifest_digest : Option Digest
  release_bundle_digest : Option Digest
  abort_reason : Option String

section Documents

instance : Serialize BackupParticipantV1 := ⟨fun participant => .str participant.as_str⟩
instance : Serialize BackupCutStateV1 := ⟨fun state => .str state.as_str⟩
instance : Serialize QuiescenceBoundaryV1 := ⟨fun _ => .str "offline_services_stopped"⟩

instance : Serialize BlobDescriptorV1 :=
  ⟨fun value => .obj [("byte_length", to_jcs value.byte_length), ("digest", to_jcs value.digest)]⟩

instance : Serialize StoreIdentityV1 :=
  ⟨fun value => .obj [("application_id", to_jcs value.application_id),
    ("application_name", to_jcs value.application_name), ("schema_digest", to_jcs value.schema_digest),
    ("schema_name", to_jcs value.schema_name), ("schema_version", to_jcs value.schema_version)]⟩

@[simp] def ChainHeadV1.serialize (value : ChainHeadV1) : Jcs :=
  .obj [("digest", to_jcs value.digest), ("sequence", to_jcs value.sequence)]

instance : Serialize ChainHeadV1 := ⟨ChainHeadV1.serialize⟩

instance : Serialize BackupParticipantRegistrationV1 :=
  ⟨fun value => .obj [("component_identity", to_jcs value.component_identity),
    ("participant", to_jcs value.participant)]⟩

instance : Serialize BeginBackupCutV1 :=
  ⟨fun value => .obj [("authority_domain", to_jcs value.authority_domain),
    ("created_at_unix_ms", to_jcs value.created_at_unix_ms), ("cut_id", to_jcs value.cut_id),
    ("epoch", to_jcs value.epoch), ("participants", to_jcs value.participants),
    ("quiescence_barrier_id", to_jcs value.quiescence_barrier_id)]⟩

@[simp] def QuiescenceBarrierAttestationV1.serialize (value : QuiescenceBarrierAttestationV1) : Jcs :=
  .obj [("attested_at_unix_ms", to_jcs value.attested_at_unix_ms),
    ("attesting_principal", to_jcs value.attesting_principal),
    ("authority_domain", to_jcs value.authority_domain), ("boundary", to_jcs value.boundary),
    ("boundary_summary", to_jcs value.boundary_summary), ("cut_id", to_jcs value.cut_id),
    ("epoch", to_jcs value.epoch), ("participant", to_jcs value.participant),
    ("quiescence_barrier_id", to_jcs value.quiescence_barrier_id), ("schema", to_jcs value.schema)]

instance : Serialize QuiescenceBarrierAttestationV1 := ⟨QuiescenceBarrierAttestationV1.serialize⟩

@[simp] def BackupCheckpointV1.serialize (value : BackupCheckpointV1) : Jcs :=
  .obj [("blob_root", to_jcs value.blob_root), ("build_identity", to_jcs value.build_identity),
    ("chain_head", to_jcs value.chain_head), ("component_identity", to_jcs value.component_identity),
    ("config_identity", to_jcs value.config_identity), ("participant", to_jcs value.participant),
    ("profile_identity", to_jcs value.profile_identity),
    ("quiescence_attestation", to_jcs value.quiescence_attestation),
    ("schema_identity", to_jcs value.schema_identity)]

instance : Serialize BackupCheckpointV1 := ⟨BackupCheckpointV1.serialize⟩

def PreparedParticipantV1.serialize (value : PreparedParticipantV1) : Jcs :=
  .obj [("checkpoint", to_jcs value.checkpoint),
    ("prepared_event_digest", to_jcs value.prepared_event_digest),
    ("prepared_event_sequence", to_jcs value.prepared_event_sequence)]

instance : Serialize PreparedParticipantV1 := ⟨PreparedParticipantV1.serialize⟩

def BackupCutManifestV1.serialize (value : BackupCutManifestV1) : Jcs :=
  .obj [("authority_domain", to_jcs value.authority_domain), ("cut_id", to_jcs value.cut_id),
    ("epoch", to_jcs value.epoch), ("participants", to_jcs value.participants),
    ("quiescence_barrier_id", to_jcs value.quiescence_barrier_id), ("version", to_jcs value.version)]

instance : Serialize BackupCutManifestV1 := ⟨BackupCutManifestV1.serialize⟩

instance : Serialize BackupCutMaterializedV1 :=
  ⟨fun value => .obj [("abort_reason", to_jcs value.abort_reason), ("cut_id", to_jcs value.cut_id),
    ("manifest_digest", to_jcs value.manifest_digest),
    ("prepared_participants", to_jcs value.prepared_participants),
    ("release_bundle_digest", to_jcs value.release_bundle_digest), ("state", to_jcs value.state)]⟩

end Documents

section Injective

instance : InjectiveSerialize BackupParticipantV1 := ⟨fun left right h => by
  cases left <;> cases right <;> simp_all [to_jcs, BackupParticipantV1.as_str]⟩

instance : InjectiveSerialize ChainHeadV1 := .of_serialize

instance : InjectiveSerialize QuiescenceBarrierAttestationV1 := .of_serialize

instance : InjectiveSerialize BackupCheckpointV1 := .of_serialize

end Injective

end ag_store.lib

import AgentGovernor.EventStore.Settled
import AgentGovernor.Lib.Interruption

open ag_primitives Checked Relational Transaction Windows Effects

namespace ag_store.offline_backup

open lib

/-- Component facts supplied to the offline coordinator. -/
structure OfflineBackupParticipantV1 where
  participant : BackupParticipantV1
  component_identity : Digest
  config_identity : Digest
  schema_identity : Digest
  profile_identity : Digest
  build_identity : Digest
  quiescence_attestation : QuiescenceBarrierAttestationV1

/-- Serializable, exact offline three-store cut request. -/
structure OfflineBackupCoordinatorV1 where
  schema : String
  cut_id : String
  authority_domain : AuthorityDomainId
  epoch : EpochId
  quiescence_barrier_id : String
  participants : List OfflineBackupParticipantV1
  created_at_unix_ms : Int64

/-- The stores the coordinator was handed, one for each required role. A map that lacks a
role is refused before anything else is looked at. -/
abbrev Stores : Type := BackupParticipantV1 → Store

/-- What the coordinator does with the stores: it reads them, or makes one call on one of
them, and a call commits as a whole or not at all. -/
inductive StoreOp where
  | read
  | call (role : BackupParticipantV1) (call : CutCall)

abbrev StoreOp.Answer : StoreOp → Type
  | read => Stores
  | call _ _ => Except StoreError EventReceiptV1

def serve (sha : Sha256) : (op : StoreOp) → Stores → op.Answer × Stores
  | .read, stores => (stores, stores)
  | .call role call, stores =>
    ((call.perform sha (stores role)).1, Function.update stores role (call.perform sha (stores role)).2)

abbrev OfflineProgram (A : Type) : Type := Program StoreOp StoreOp.Answer StoreError A

/-- One call, with its failure. -/
def make (role : BackupParticipantV1) (call : CutCall) : OfflineProgram EventReceiptV1 := do
  let receipt ← ask (.call role call)
  Effects.lift receipt

namespace OfflineBackupCoordinatorV1

variable (sha : Sha256) (self : OfflineBackupCoordinatorV1)

/-- The loop over the participants, with those that were accepted so far. -/
def validate_participants (stores : Stores) :
    List OfflineBackupParticipantV1 → List OfflineBackupParticipantV1 →
      Except StoreError (List OfflineBackupParticipantV1)
  | accepted, [] => .ok accepted
  | accepted, participant :: rest => do
    participant.quiescence_attestation.validate_for self.cut_id self.authority_domain self.epoch
      self.quiescence_barrier_id participant.participant
    reject ((∃ other ∈ accepted, other.component_identity = participant.component_identity) ∨
        ∃ other ∈ accepted, other.participant = participant.participant)
      .InvalidBackupParticipants
    let actual_schema := Digest.from_serializable sha (stores participant.participant).store_identity
    reject (participant.schema_identity ≠ actual_schema)
      (.BackupSchemaIdentityMismatch participant.participant)
    validate_participants stores (accepted ++ [participant]) rest

/-- The participants by role, in the order of the roles. -/
def validate (stores : Stores) : Except StoreError (List OfflineBackupParticipantV1) := do
  reject (self.schema ≠ "ag-store-offline-backup-coordinator-v1") .InvalidBackupParticipants
  let accepted ← self.validate_participants sha stores [] self.participants
  REQUIRED_BACKUP_PARTICIPANTS.mapM fun role =>
    ok_or (accepted.find? fun participant => participant.participant = role) .InvalidBackupParticipants

/-- The request every store begins the cut with. -/
def begin_request (participants : List OfflineBackupParticipantV1) : BeginBackupCutV1 :=
  { cut_id := self.cut_id
    authority_domain := self.authority_domain
    epoch := self.epoch
    quiescence_barrier_id := self.quiescence_barrier_id
    participants := participants.map fun participant =>
      { participant := participant.participant, component_identity := participant.component_identity }
    created_at_unix_ms := self.created_at_unix_ms }

/-- The checkpoint of a role, with the head its store has now. -/
def checkpoint (stores : Stores) (participants : List OfflineBackupParticipantV1) (role : BackupParticipantV1) :
    Except StoreError BackupCheckpointV1 := do
  let participant ← ok_or (participants.find? fun participant => participant.participant = role)
    .InvalidBackupParticipants
  let chain_head ← verify_chain sha (stores role)
  let blob_root ← blob_root sha (stores role)
  pure
    { participant := role
      component_identity := participant.component_identity
      chain_head
      blob_root
      config_identity := participant.config_identity
      schema_identity := participant.schema_identity
      profile_identity := participant.profile_identity
      build_identity := participant.build_identity
      quiescence_attestation := participant.quiescence_attestation }

/-- Every store of the roles begins the cut. -/
def begin_stores (request : BeginBackupCutV1) : List BackupParticipantV1 → OfflineProgram Unit
  | [] => pure ()
  | role :: roles => do
    let _ ← make role (.begin_backup_cut request)
    begin_stores request roles

/-- One store prepares the given checkpoints. -/
def prepare_store (role : BackupParticipantV1) (occurred_at_unix_ms : Int64) :
    List BackupCheckpointV1 → OfflineProgram Unit
  | [] => pure ()
  | checkpoint :: checkpoints => do
    let _ ← make role (.prepare_backup_participant self.cut_id checkpoint occurred_at_unix_ms)
    prepare_store role occurred_at_unix_ms checkpoints

/-- One store prepares every checkpoint and seals the manifest it builds from them. -/
def seal_store (checkpoints : List BackupCheckpointV1) (occurred_at_unix_ms : Int64) (role : BackupParticipantV1) :
    OfflineProgram Unit := do
  self.prepare_store role occurred_at_unix_ms checkpoints
  let stores ← ask .read
  let manifest ← Effects.lift (build_backup_manifest_from_connection self.cut_id (stores role))
  let _ ← make role (.seal_backup_cut manifest occurred_at_unix_ms)
  let stores ← ask .read
  let cut ← Effects.lift (backup_cut_from_connection self.cut_id (stores role))
  Effects.lift (reject (cut.state ≠ .Sealed) (.Corrupt "offline coordinator did not leave every store sealed"))

def seal_stores (checkpoints : List BackupCheckpointV1) (occurred_at_unix_ms : Int64) :
    List BackupParticipantV1 → OfflineProgram Unit
  | [] => pure ()
  | role :: roles => do
    self.seal_store checkpoints occurred_at_unix_ms role
    seal_stores checkpoints occurred_at_unix_ms roles

/-- Fence, checkpoint, and seal exactly three already-open offline stores. -/
def seal_offline (occurred_at_unix_ms : Int64) : OfflineProgram (List BackupCheckpointV1) := do
  let stores ← ask .read
  let participants ← Effects.lift (self.validate sha stores)
  let request := self.begin_request participants
  Effects.lift request.validate
  begin_stores request REQUIRED_BACKUP_PARTICIPANTS
  let stores ← ask .read
  let checkpoints ← Effects.lift (REQUIRED_BACKUP_PARTICIPANTS.mapM (checkpoint sha stores participants))
  self.seal_stores checkpoints occurred_at_unix_ms REQUIRED_BACKUP_PARTICIPANTS
  pure checkpoints

end OfflineBackupCoordinatorV1

end ag_store.offline_backup

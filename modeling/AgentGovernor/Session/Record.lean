import AgentGovernor.Session.Spec

open ag_primitives Checked

namespace ag_session

/-- A path-free description of changes made in the isolated workspace. -/
structure WorkspaceDeltaV1 where
  base : Digest
  manifest : Digest
  content : Digest
  deriving DecidableEq

def WorkspaceDeltaV1.serialize (value : WorkspaceDeltaV1) : Jcs :=
  .obj [("base", to_jcs value.base), ("content", to_jcs value.content), ("manifest", to_jcs value.manifest)]

instance : Serialize WorkspaceDeltaV1 := ⟨WorkspaceDeltaV1.serialize⟩

/-- Candidate bytes held by the governor before canonical proposal construction. -/
structure WorkerCandidateCustodyV1 where
  content : Digest
  byte_length : UInt64
  semantic_type : String
  workspace_delta : Option WorkspaceDeltaV1
  ingress_proof : Digest
  custody_record : Digest
  deriving DecidableEq

/-- The fields that the custody record binds: all but itself. -/
structure CandidateBinding where
  candidate : WorkerCandidateCustodyV1

def CandidateBinding.serialize (value : CandidateBinding) : Jcs :=
  .obj [("byte_length", to_jcs value.candidate.byte_length), ("content", to_jcs value.candidate.content),
    ("ingress_proof", to_jcs value.candidate.ingress_proof), ("semantic_type", to_jcs value.candidate.semantic_type),
    ("workspace_delta", to_jcs value.candidate.workspace_delta)]

instance : Serialize CandidateBinding := ⟨CandidateBinding.serialize⟩

def candidate_custody_digest (sha : Sha256) (candidate : WorkerCandidateCustodyV1) : Digest :=
  Digest.from_serializable sha (CandidateBinding.mk candidate)

def validate_candidate_semantic_type (value : String) : Except SessionError Unit :=
  reject (value = "" ∨ value.utf8ByteSize > 128 ∨
    value.toList.all (fun character => character.isLower || character.isDigit ||
      character ∈ ['.', '-', '_', '/']) = false) .InvalidCandidateSemanticType

/-- Revalidates broker-owned candidate custody. -/
def WorkerCandidateCustodyV1.verify (sha : Sha256) (candidate : WorkerCandidateCustodyV1) :
    Except SessionError Unit := do
  validate_candidate_semantic_type candidate.semantic_type
  reject (candidate_custody_digest sha candidate ≠ candidate.custody_record) .CandidateCustodyMismatch

/-- Closed terminal result of forwarding a worker candidate to the effect broker. -/
inductive WorkerCandidateBrokerOutcomeV1 where
  | Canonicalized (canonical_proposal : Digest)
  | Refused (refusal : Digest)
  | Indeterminate (envelope : Digest)
  deriving DecidableEq

/-- Durable candidate custody and broker-forwarding state. -/
inductive WorkerCandidateCustodyStateV1 where
  | Awaiting
  | InCustody (candidate : WorkerCandidateCustodyV1)
  | BrokerCompleted (candidate : WorkerCandidateCustodyV1) (outcome : WorkerCandidateBrokerOutcomeV1)
  deriving DecidableEq

/-- The candidate that is in custody. -/
def WorkerCandidateCustodyStateV1.custody : WorkerCandidateCustodyStateV1 → Option WorkerCandidateCustodyV1
  | .Awaiting => none
  | .InCustody candidate | .BrokerCompleted candidate _ => some candidate

/-- The recorded broker outcome. -/
@[simp] def WorkerCandidateCustodyStateV1.outcome : WorkerCandidateCustodyStateV1 →
    Option WorkerCandidateBrokerOutcomeV1
  | .BrokerCompleted _ outcome => some outcome
  | _ => none

/-- Closed refusal emitted while authenticating candidate ingress. -/
inductive WorkerCandidateRefusalCodeV1 where
  | MalformedFrame
  | AuthenticationFailed
  | PrincipalBindingMismatch
  | ReviewedProfileMismatch
  | Expired
  deriving DecidableEq

/-- Typed reason that permanently retires a worker principal. -/
inductive WorkerTerminationReasonV1 where
  | CandidateAccepted
  | CandidateRefused (code : WorkerCandidateRefusalCodeV1)
  | LaunchFailed (failure : Digest)
  | WorkerFailed (failure : Digest)
  | DeadlineExpired
  | OutputBudgetExceeded (observed_bytes : UInt64)
  | Cancelled (reason_digest : Digest)
  | RestartRecovery
  | BoundaryIndeterminate (envelope : Digest)
  deriving DecidableEq

/-- Durable fact that immediately fences all further worker ingress. -/
structure WorkerPrincipalTombstoneV1 where
  principal_id : PrincipalId
  session_id : SessionId
  session_nonce : LifecycleNonce
  reason : WorkerTerminationReasonV1
  terminal_since_unix_ms : UInt64
  deriving DecidableEq

/-- Crash-resumable process/provider cleanup behind a durable tombstone. -/
inductive WorkerCleanupStateV1 where
  | Pending
  | Complete (receipt : Digest) (completed_at_unix_ms : UInt64)
  deriving DecidableEq

/-- Durable authority state for a non-reusable worker principal. -/
inductive WorkerAuthorityStateV1 where
  | Prepared
  | Active (launch_receipt : Digest)
  | Tombstoned (launch_receipt : Option Digest) (tombstone : WorkerPrincipalTombstoneV1)
    (cleanup : WorkerCleanupStateV1)
  deriving DecidableEq

namespace WorkerAuthorityStateV1

@[simp] def launch_receipt : WorkerAuthorityStateV1 → Option Digest
  | Prepared => none
  | Active launch_receipt => some launch_receipt
  | Tombstoned launch_receipt _ _ => launch_receipt

@[simp] def tombstone : WorkerAuthorityStateV1 → Option WorkerPrincipalTombstoneV1
  | Tombstoned _ tombstone _ => some tombstone
  | _ => none

/-- How far the authority has moved. -/
@[simp] def stage : WorkerAuthorityStateV1 → Nat
  | Prepared => 0
  | Active _ => 1
  | Tombstoned _ _ _ => 2

end WorkerAuthorityStateV1

/-- Closed worker-record lifecycle events. -/
inductive WorkerSessionEventV1 where
  | Activate (launch_receipt : Digest)
  | Tombstone (tombstone : WorkerPrincipalTombstoneV1)
  | AcceptCandidate (candidate : WorkerCandidateCustodyV1) (tombstone : WorkerPrincipalTombstoneV1)
  | CompleteCleanup (receipt : Digest) (completed_at_unix_ms : UInt64)
  | RecordBrokerOutcome (outcome : WorkerCandidateBrokerOutcomeV1)
  deriving DecidableEq

/-- Trusted live facts supplied by the launcher-owned ingress boundary. -/
structure WorkerIngressContextV1 where
  authority_domain : AuthorityDomainId
  epoch : EpochId
  principal_id : PrincipalId
  session_id : SessionId
  proposal_workspace_identity : Digest
  security_profile_identity : Digest
  executable : ExecutableIdentityV1
  observed_uid : UInt32
  observed_gid : UInt32
  now_unix_ms : UInt64

/-- Durable aggregate for one worker session. -/
structure WorkerSessionRecordV1 where
  schema : String
  spec : BatchSessionSpecV1
  authority : WorkerAuthorityStateV1
  candidate : WorkerCandidateCustodyStateV1

namespace WorkerSessionRecordV1

variable (sha : Sha256) (record : WorkerSessionRecordV1)

def validate_tombstone (tombstone : WorkerPrincipalTombstoneV1) : Except SessionError Unit :=
  let principal := record.spec.worker.principal
  reject (tombstone.principal_id ≠ principal.id sha ∨ tombstone.session_id ≠ record.spec.session ∨
    tombstone.session_nonce ≠ principal.session_nonce) .TombstoneBindingMismatch

/-- The tombstone that custody of a candidate needs: of a launched worker, for the
candidate. -/
def require_accepted_tombstone : WorkerAuthorityStateV1 → Except SessionError Unit
  | .Tombstoned (some _) tombstone _ => reject (tombstone.reason ≠ .CandidateAccepted) .CandidateRequiresTombstone
  | _ => .error .CandidateRequiresTombstone

def validate_custody : Option WorkerCandidateCustodyV1 → Except SessionError Unit
  | none => pure ()
  | some candidate => do
    candidate.verify sha
    reject (candidate.byte_length > record.spec.output_budget_bytes) .CandidateBudgetExceeded
    require_accepted_tombstone record.authority

/-- Revalidates every durable record binding. -/
def validate : Except SessionError Unit := do
  reject (record.schema ≠ WORKER_SESSION_RECORD_SCHEMA_V1) (.UnknownWorkerRecordSchema record.schema)
  record.spec.validate sha
  record.authority.tombstone.forM (record.validate_tombstone sha)
  record.validate_custody sha record.candidate.custody

/-- Constructs a prepared durable worker record. -/
def new (spec : BatchSessionSpecV1) : Except SessionError WorkerSessionRecordV1 := do
  let record : WorkerSessionRecordV1 :=
    { schema := WORKER_SESSION_RECORD_SCHEMA_V1, spec, authority := .Prepared, candidate := .Awaiting }
  record.validate sha
  pure record

def require_active : WorkerAuthorityStateV1 → Except SessionError Unit
  | .Prepared => .error .PrincipalNotActive
  | .Tombstoned _ _ _ => .error .PrincipalTombstoned
  | .Active _ => .ok ()

/-- Validates a launcher-authenticated live ingress connection. -/
def validate_active_ingress (context : WorkerIngressContextV1) : Except SessionError Unit := do
  record.validate sha
  require_active record.authority
  let principal := record.spec.worker.principal
  reject (context.authority_domain ≠ record.spec.authority_domain) .IngressAuthorityDomainMismatch
  reject (context.epoch ≠ record.spec.epoch) .IngressEpochMismatch
  reject (context.principal_id ≠ principal.id sha) .IngressPrincipalMismatch
  reject (context.session_id ≠ record.spec.session) .IngressSessionMismatch
  reject (context.proposal_workspace_identity ≠ principal.proposal_workspace_identity) .IngressWorkspaceMismatch
  reject (context.security_profile_identity ≠ principal.security_profile_identity) .IngressSecurityProfileMismatch
  reject (context.executable ≠ principal.executable) .IngressExecutableMismatch
  reject (context.observed_uid ≠ principal.observed_credentials.uid) .IngressUidMismatch
  reject (context.observed_gid ≠ principal.observed_credentials.gid) .IngressGidMismatch
  reject (context.now_unix_ms ≥ principal.expires_at_unix_ms) .PrincipalExpired

/-- The provider capability for one launcher-bound active ingress transition. -/
def active_provider_capability (context : WorkerIngressContextV1) : Except SessionError InferenceCapabilityV1 := do
  record.validate_active_ingress sha context
  let capability ← ok_or record.spec.provider_capability .ProviderRouteMismatch
  reject (context.now_unix_ms < capability.not_before_unix_ms) .ProviderCapabilityNotYetValid
  pure capability

/-- What an event makes of the record, before it is validated. -/
def transition : WorkerSessionEventV1 → Except SessionError WorkerSessionRecordV1
  | .Activate launch_receipt =>
    match record.authority with
    | .Prepared => pure { record with authority := .Active launch_receipt }
    | _ => .error .InvalidWorkerTransition
  | .Tombstone tombstone =>
    match record.authority with
    | .Tombstoned _ _ _ => .error .InvalidWorkerTransition
    | live => do
      record.validate_tombstone sha tombstone
      pure { record with authority := .Tombstoned live.launch_receipt tombstone .Pending }
  | .AcceptCandidate candidate tombstone =>
    match record.authority, record.candidate with
    | .Active launch_receipt, .Awaiting => do
      candidate.verify sha
      reject (candidate.byte_length > record.spec.output_budget_bytes) .CandidateBudgetExceeded
      record.validate_tombstone sha tombstone
      reject (tombstone.reason ≠ .CandidateAccepted) .CandidateRequiresTombstone
      pure { record with
        authority := .Tombstoned (some launch_receipt) tombstone .Pending
        candidate := .InCustody candidate }
    | _, _ => .error .InvalidWorkerTransition
  | .CompleteCleanup receipt completed_at_unix_ms =>
    match record.authority with
    | .Tombstoned launch_receipt tombstone .Pending =>
      pure { record with authority := .Tombstoned launch_receipt tombstone (.Complete receipt completed_at_unix_ms) }
    | _ => .error .InvalidWorkerTransition
  | .RecordBrokerOutcome outcome =>
    match record.candidate with
    | .InCustody candidate => pure { record with candidate := .BrokerCompleted candidate outcome }
    | .BrokerCompleted _ existing => do
      reject (existing ≠ outcome) .CandidateBrokerOutcomeConflict
      pure record
    | .Awaiting => .error .InvalidWorkerTransition

/-- Applies one legal durable worker lifecycle transition. -/
def apply (event : WorkerSessionEventV1) : Except SessionError WorkerSessionRecordV1 := do
  let next ← record.transition sha event
  next.validate sha
  pure next

/-- The record after an event; one that fails leaves it as it was. -/
def after (event : WorkerSessionEventV1) : WorkerSessionRecordV1 :=
  match record.apply sha event with
  | .ok next => next
  | .error _ => record

/-- The record after a sequence of events. -/
def run (events : List WorkerSessionEventV1) : WorkerSessionRecordV1 :=
  events.foldl (fun record event => record.after sha event) record

/-- The candidate that one event brings into custody. -/
def accepts : WorkerSessionEventV1 → Option WorkerCandidateCustodyV1
  | .AcceptCandidate candidate tombstone =>
    match record.apply sha (.AcceptCandidate candidate tombstone) with
    | .ok _ => some candidate
    | .error _ => none
  | _ => none

/-- The candidates that a sequence of events brings into custody. -/
def accepted : WorkerSessionRecordV1 → List WorkerSessionEventV1 → List WorkerCandidateCustodyV1
  | _, [] => []
  | record, event :: events => (record.accepts sha event).toList ++ accepted (record.after sha event) events

end WorkerSessionRecordV1

end ag_session

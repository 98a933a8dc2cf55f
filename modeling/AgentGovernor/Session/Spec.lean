import AgentGovernor.Primitives.Principal

open ag_primitives Checked

namespace ag_session

def SESSION_SCHEMA_V1 : String := "ag.session/v1"
def WORKER_SESSION_RECORD_SCHEMA_V1 : String := "ag.worker-session-record/v1"

/-- A batch-session contract or transition failure. -/
inductive SessionError where
  | UnknownSchema (schema : String)
  | InvalidReviewedProfileId
  | UnknownWorkerRecordSchema (schema : String)
  | InvalidDescriptorManifest
  | CapabilityContextMismatch
  | ProviderCapabilityDefinition (error : CapabilityDefinitionError)
  | ProviderRouteMismatch
  | ProviderCapabilityNotYetValid
  | PrincipalAuthorityDomainMismatch
  | PrincipalEpochMismatch
  | PrincipalSessionMismatch
  | PrincipalWorkspaceMismatch
  | PrincipalSecurityProfileMismatch
  | PrincipalCandidateIngressKeyIdentityMismatch
  | PrincipalExecutableMismatch
  | PrincipalUidMismatch
  | PrincipalGidMismatch
  | PrincipalPidMismatch
  | PrincipalExpiryMismatch
  | PrincipalOutputBudgetMismatch
  | PrincipalChainMismatch
  | ProductionIsolationIncomplete
  | InvalidCandidateSemanticType
  | CandidateCustodyMismatch
  | CandidateBudgetExceeded
  | CandidateRequiresTombstone
  | CandidateBrokerOutcomeConflict
  | TombstoneBindingMismatch
  | PrincipalNotActive
  | PrincipalTombstoned
  | PrincipalExpired
  | IngressAuthorityDomainMismatch
  | IngressEpochMismatch
  | IngressPrincipalMismatch
  | IngressSessionMismatch
  | IngressWorkspaceMismatch
  | IngressSecurityProfileMismatch
  | IngressExecutableMismatch
  | IngressUidMismatch
  | IngressGidMismatch
  | InvalidWorkerTransition
  deriving DecidableEq

/-- Deployment security profile. -/
inductive SecurityProfileV1 where
  | Development
  | Production
  | HighAssurance
  deriving DecidableEq

def SecurityProfileV1.name : SecurityProfileV1 → String
  | .Development => "development"
  | .Production => "production"
  | .HighAssurance => "high_assurance"

/-- The domain-separated identity committed by a worker principal. -/
def SecurityProfileV1.identity (sha : Sha256) (profile : SecurityProfileV1) : Digest :=
  Digest.hash_domain sha "ag-ng/worker-security-profile/v1" (.text profile.name)

/-- The observations of the launcher that a specification is checked against. The
identities of the namespaces and of the confinement are carried and not read. -/
structure IsolationEvidenceV1 where
  observed_uid : UInt32
  observed_gid : UInt32
  observed_pid : UInt32
  observed_executable : ExecutableIdentityV1
  deriving DecidableEq

/-- A stable worker binding. -/
structure WorkerBindingV1 where
  principal : WorkerSessionPrincipalV1
  principal_chain : PrincipalChainV1
  isolation : IsolationEvidenceV1

/-- Purpose of one intentionally inherited descriptor. -/
inductive DescriptorPurposeV1 where
  | SourceSnapshot
  | ArtifactSink
  | CandidateIngressCredential
  | CandidateChallenge
  | CandidateSink
  | ProviderRequest
  | ProviderResponse
  | StatusSink
  deriving DecidableEq

/-- Direction allowed on an inherited descriptor. -/
inductive DescriptorAccessV1 where
  | ReadOnly
  | WriteOnly
  deriving DecidableEq

/-- One explicitly admitted descriptor. -/
structure AdmittedDescriptorV1 where
  descriptor : UInt32
  purpose : DescriptorPurposeV1
  access : DescriptorAccessV1
  deriving DecidableEq

/-- Immutable specification for one bounded batch session. The workspace mode and the
source are carried and not read. -/
structure BatchSessionSpecV1 where
  schema : String
  session : SessionId
  authority_domain : AuthorityDomainId
  epoch : EpochId
  security_profile : SecurityProfileV1
  reviewed_profile_id : String
  candidate_ingress_key_identity : Digest
  worker : WorkerBindingV1
  proposal_workspace_identity : Digest
  admitted_descriptors : List AdmittedDescriptorV1
  provider_capability : Option InferenceCapabilityV1
  deadline_unix_ms : UInt64
  output_budget_bytes : UInt64

def valid_reviewed_profile_id (value : String) : Bool :=
  value ≠ "" && value.utf8ByteSize ≤ 128 &&
    value.toList.all fun character => character.isAlphanum || character ∈ ['.', '_', '-']

def DescriptorPurposeV1.expected_access : DescriptorPurposeV1 → DescriptorAccessV1
  | .SourceSnapshot | .CandidateIngressCredential | .CandidateChallenge | .ProviderResponse => .ReadOnly
  | .ArtifactSink | .CandidateSink | .ProviderRequest | .StatusSink => .WriteOnly

/-- The descriptors after some whose numbers and purposes were seen. -/
def validate_descriptors (numbers : List UInt32) (purposes : List DescriptorPurposeV1) :
    List AdmittedDescriptorV1 → Except SessionError Unit
  | [] => pure ()
  | descriptor :: descriptors => do
    let is_dedicated_stdout_candidate_sink :=
      descriptor.descriptor = 1 ∧ descriptor.purpose = .CandidateSink ∧ descriptor.access = .WriteOnly
    reject ((descriptor.descriptor ≤ 2 ∧ ¬ is_dedicated_stdout_candidate_sink) ∨
      descriptor.descriptor ∈ numbers ∨ descriptor.purpose ∈ purposes) .InvalidDescriptorManifest
    reject (descriptor.access ≠ descriptor.purpose.expected_access) .InvalidDescriptorManifest
    validate_descriptors (descriptor.descriptor :: numbers) (descriptor.purpose :: purposes) descriptors

namespace BatchSessionSpecV1

variable (sha : Sha256) (spec : BatchSessionSpecV1)

def validate_principal_binding : Except SessionError Unit := do
  let principal := spec.worker.principal
  reject (principal.authority_domain ≠ spec.authority_domain) .PrincipalAuthorityDomainMismatch
  reject (principal.epoch ≠ spec.epoch) .PrincipalEpochMismatch
  reject (principal.session_id ≠ spec.session) .PrincipalSessionMismatch
  reject (principal.proposal_workspace_identity ≠ spec.proposal_workspace_identity) .PrincipalWorkspaceMismatch
  reject (principal.security_profile_identity ≠ spec.security_profile.identity sha)
    .PrincipalSecurityProfileMismatch
  reject (principal.candidate_ingress_key_identity ≠ spec.candidate_ingress_key_identity)
    .PrincipalCandidateIngressKeyIdentityMismatch
  reject (principal.executable ≠ spec.worker.isolation.observed_executable) .PrincipalExecutableMismatch
  reject (principal.observed_credentials.uid ≠ spec.worker.isolation.observed_uid) .PrincipalUidMismatch
  reject (principal.observed_credentials.gid ≠ spec.worker.isolation.observed_gid) .PrincipalGidMismatch
  reject (principal.observed_credentials.pid ≠ spec.worker.isolation.observed_pid) .PrincipalPidMismatch
  reject (principal.expires_at_unix_ms ≠ spec.deadline_unix_ms) .PrincipalExpiryMismatch
  reject (principal.output_budget_bytes ≠ spec.output_budget_bytes ∨ spec.output_budget_bytes = 0)
    .PrincipalOutputBudgetMismatch
  let chain := spec.worker.principal_chain
  -- the node before the leaf; of a single node, that node
  let parent := chain.nodes[chain.nodes.length - 2]?
  reject (chain.authority_domain ≠ spec.authority_domain ∨ chain.epoch ≠ spec.epoch ∨
    chain.leaf.kind ≠ .WorkerSession ∨ chain.leaf.principal_id ≠ principal.id sha ∨
    chain.leaf.parent ≠ some principal.launcher ∨
    parent.map (·.principal_id) ≠ some principal.launcher) .PrincipalChainMismatch

def validate_provider_route : Except SessionError Unit :=
  let principal := spec.worker.principal
  let has_provider_request := spec.admitted_descriptors.any fun descriptor => descriptor.purpose = .ProviderRequest
  let has_provider_response := spec.admitted_descriptors.any fun descriptor => descriptor.purpose = .ProviderResponse
  match principal.provider_route, spec.provider_capability with
  | .Offline, none =>
    reject (has_provider_request = true ∨ has_provider_response = true) .ProviderRouteMismatch
  | .Constrained provider_policy_digest envelope budget, some capability => do
    reject (has_provider_request = false ∨ has_provider_response = false) .ProviderRouteMismatch
    map_err capability.validate_definition .ProviderCapabilityDefinition
    reject (capability.session_id ≠ spec.session ∨ capability.authority_domain ≠ spec.authority_domain ∨
      capability.epoch ≠ spec.epoch ∨ capability.project ≠ principal.project ∨
      capability.worker_principal ≠ principal.id sha ∨ capability.session_nonce ≠ principal.session_nonce ∨
      capability.provider_policy_digest ≠ provider_policy_digest ∨ capability.envelope ≠ envelope ∨
      capability.budget ≠ budget ∨ capability.expires_at_unix_ms > principal.expires_at_unix_ms)
      .CapabilityContextMismatch
  | _, _ => .error .ProviderRouteMismatch

/-- Checks invariants available before launch. -/
def validate : Except SessionError Unit := do
  reject (spec.schema ≠ SESSION_SCHEMA_V1) (.UnknownSchema spec.schema)
  reject (valid_reviewed_profile_id spec.reviewed_profile_id = false) .InvalidReviewedProfileId
  validate_descriptors [] [] spec.admitted_descriptors
  spec.validate_principal_binding sha
  spec.validate_provider_route sha
  reject ((spec.security_profile = .Production ∨ spec.security_profile = .HighAssurance) ∧
    (spec.worker.isolation.observed_uid = 0 ∨ spec.worker.isolation.observed_gid = 0 ∨ spec.deadline_unix_ms = 0))
    .ProductionIsolationIncomplete

end BatchSessionSpecV1

end ag_session

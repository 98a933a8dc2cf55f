import AgentGovernor.Primitives.Capability

open Checked

namespace ag_primitives

abbrev CgroupIdentity : Type := StrictName "cgroup identity"

/-- An exact executable identity. -/
structure ExecutableIdentityV1 where
  sha256 : Digest
  size : UInt64
  build_identity : Option Digest
  deriving DecidableEq

/-- Identity of an admitted launch profile. -/
structure LaunchProfileIdentityV1 where
  profile_digest : Digest
  protocol_schema_digest : Digest
  deriving DecidableEq

/-- Peer credentials observed at a local transport boundary. -/
structure HostCredentialObservationV1 where
  uid : UInt32
  gid : UInt32
  pid : UInt32
  cgroup : CgroupIdentity
  deriving DecidableEq

/-- Provider access bound into one worker-session principal. -/
inductive WorkerProviderRouteV1 where
  | Offline
  | Constrained (provider_policy_digest : Digest) (envelope : InferenceEnvelopeV1) (budget : InferenceBudgetV1)
  deriving DecidableEq

/-- A contained worker-session principal. -/
structure WorkerSessionPrincipalV1 where
  authority_domain : AuthorityDomainId
  epoch : EpochId
  project : ProjectId
  session_id : SessionId
  session_nonce : LifecycleNonce
  launcher : PrincipalId
  executable : ExecutableIdentityV1
  launch_profile : LaunchProfileIdentityV1
  proposal_workspace_identity : Digest
  security_profile_identity : Digest
  candidate_ingress_key_identity : Digest
  expires_at_unix_ms : UInt64
  output_budget_bytes : UInt64
  provider_route : WorkerProviderRouteV1
  input_set_digest : Digest
  observed_credentials : HostCredentialObservationV1
  deriving DecidableEq

def ExecutableIdentityV1.serialize (value : ExecutableIdentityV1) : Jcs :=
  .obj [("build_identity", to_jcs value.build_identity), ("sha256", to_jcs value.sha256),
    ("size", to_jcs value.size)]

def LaunchProfileIdentityV1.serialize (value : LaunchProfileIdentityV1) : Jcs :=
  .obj [("profile_digest", to_jcs value.profile_digest),
    ("protocol_schema_digest", to_jcs value.protocol_schema_digest)]

def HostCredentialObservationV1.serialize (value : HostCredentialObservationV1) : Jcs :=
  .obj [("cgroup", to_jcs value.cgroup), ("gid", to_jcs value.gid), ("pid", to_jcs value.pid),
    ("uid", to_jcs value.uid)]

def WorkerProviderRouteV1.serialize : WorkerProviderRouteV1 → Jcs
  | .Offline => .obj [("route", .str "offline")]
  | .Constrained provider_policy_digest envelope budget => .obj [("budget", to_jcs budget),
    ("envelope", to_jcs envelope), ("provider_policy_digest", to_jcs provider_policy_digest),
    ("route", .str "constrained")]

instance : Serialize ExecutableIdentityV1 := ⟨ExecutableIdentityV1.serialize⟩
instance : Serialize LaunchProfileIdentityV1 := ⟨LaunchProfileIdentityV1.serialize⟩
instance : Serialize HostCredentialObservationV1 := ⟨HostCredentialObservationV1.serialize⟩
instance : Serialize WorkerProviderRouteV1 := ⟨WorkerProviderRouteV1.serialize⟩

/-- The principal as the variant of the closed principal family that it is. -/
def WorkerSessionPrincipalV1.serialize (value : WorkerSessionPrincipalV1) : Jcs :=
  .obj [("principal", .obj
    [("authority_domain", to_jcs value.authority_domain),
      ("candidate_ingress_key_identity", to_jcs value.candidate_ingress_key_identity),
      ("epoch", to_jcs value.epoch), ("executable", to_jcs value.executable),
      ("expires_at_unix_ms", to_jcs value.expires_at_unix_ms),
      ("input_set_digest", to_jcs value.input_set_digest), ("launch_profile", to_jcs value.launch_profile),
      ("launcher", to_jcs value.launcher), ("observed_credentials", to_jcs value.observed_credentials),
      ("output_budget_bytes", to_jcs value.output_budget_bytes), ("project", to_jcs value.project),
      ("proposal_workspace_identity", to_jcs value.proposal_workspace_identity),
      ("provider_route", to_jcs value.provider_route),
      ("security_profile_identity", to_jcs value.security_profile_identity),
      ("session_id", to_jcs value.session_id), ("session_nonce", to_jcs value.session_nonce)]),
    ("principal_kind", .str "worker_session")]

instance : Serialize WorkerSessionPrincipalV1 := ⟨WorkerSessionPrincipalV1.serialize⟩

/-- The stable, fully bound principal identity. -/
def WorkerSessionPrincipalV1.id (sha : Sha256) (principal : WorkerSessionPrincipalV1) : PrincipalId :=
  ⟨digest_value sha "ag-ng/principal/v1" principal⟩

/-- One node in a linear authenticated launch chain. -/
structure PrincipalChainNodeV1 where
  principal_id : PrincipalId
  kind : PrincipalKindV1
  parent : Option PrincipalId
  deriving DecidableEq

/-- A malformed principal chain. -/
inductive PrincipalChainError where
  | Empty
  | WorkerRoot
  | RootHasParent
  | ParentMismatch (index : Nat)
  | DuplicatePrincipal (index : Nat)
  deriving DecidableEq

/-- The nodes from an index on, after the nodes whose principals were seen. -/
def validate_chain_from (index : Nat) (seen : List PrincipalId) :
    List PrincipalChainNodeV1 → Except PrincipalChainError Unit
  | [] => pure ()
  | node :: nodes => do
    reject (node.principal_id ∈ seen) (.DuplicatePrincipal index)
    reject (index > 0 ∧ node.parent ≠ seen.getLast?) (.ParentMismatch index)
    validate_chain_from (index + 1) (seen ++ [node.principal_id]) nodes

def validate_chain : List PrincipalChainNodeV1 → Except PrincipalChainError Unit
  | [] => .error .Empty
  | root :: nodes => do
    reject (root.kind = .WorkerSession) .WorkerRoot
    reject (root.parent.isSome = true) .RootHasParent
    validate_chain_from 0 [] (root :: nodes)

/-- A validated linear principal lineage from stable root to active leaf. -/
structure PrincipalChainV1 where
  authority_domain : AuthorityDomainId
  epoch : EpochId
  nodes : List PrincipalChainNodeV1
  valid : validate_chain nodes = .ok ()

theorem PrincipalChainV1.nodes_ne_nil (chain : PrincipalChainV1) : chain.nodes ≠ [] := by
  intro hempty
  have hvalid := chain.valid
  rw [hempty] at hvalid
  cases hvalid

/-- The active leaf node. -/
def PrincipalChainV1.leaf (chain : PrincipalChainV1) : PrincipalChainNodeV1 :=
  chain.nodes.getLast chain.nodes_ne_nil

/-- The stable root node. -/
def PrincipalChainV1.root (chain : PrincipalChainV1) : PrincipalChainNodeV1 :=
  chain.nodes.head chain.nodes_ne_nil

def PrincipalKindV1.as_str : PrincipalKindV1 → String
  | Operator => "operator"
  | Daemon => "daemon"
  | Service => "service"
  | WorkerSession => "worker_session"

instance : Serialize PrincipalChainNodeV1 := ⟨fun node =>
  .obj [("kind", to_jcs node.kind.as_str), ("parent", to_jcs node.parent), ("principal_id", to_jcs node.principal_id)]⟩

instance : Serialize PrincipalChainV1 := ⟨fun chain =>
  .obj [("authority_domain", to_jcs chain.authority_domain), ("epoch", to_jcs chain.epoch),
    ("nodes", to_jcs chain.nodes)]⟩

/-- The digest of the complete ordered chain. -/
def PrincipalChainV1.id (sha : Sha256) (chain : PrincipalChainV1) : Digest :=
  digest_value sha "ag-ng/principal-chain/v1" chain

/-- The named independence rules of proposers and ratifiers. -/
inductive PrincipalSeparationPredicateV1 where
  | DistinctRootsNoSharedLineage
  deriving DecidableEq

instance : Serialize PrincipalSeparationPredicateV1 := ⟨fun
  | .DistinctRootsNoSharedLineage => .str "distinct_roots_no_shared_lineage"⟩

inductive PrincipalSeparationFailure where
  | AuthorityContextMismatch
  | SameStableRoot
  | RatifierDescendsFromProposer
  | SharedWorkerAncestor
  | SharedPrincipal
  deriving DecidableEq

def PrincipalChainV1.check_distinct_roots_no_shared_lineage (proposer ratifier : PrincipalChainV1) :
    Except PrincipalSeparationFailure Unit := do
  reject (proposer.authority_domain ≠ ratifier.authority_domain ∨ proposer.epoch ≠ ratifier.epoch)
    .AuthorityContextMismatch
  reject (proposer.root.principal_id = ratifier.root.principal_id) .SameStableRoot
  reject (∃ node ∈ ratifier.nodes, node.principal_id = proposer.leaf.principal_id) .RatifierDescendsFromProposer
  let proposer_workers := (proposer.nodes.filter (·.kind = .WorkerSession)).map (·.principal_id)
  reject (∃ node ∈ ratifier.nodes, node.kind = .WorkerSession ∧ node.principal_id ∈ proposer_workers)
    .SharedWorkerAncestor
  reject (∃ node ∈ ratifier.nodes, node.principal_id ∈ proposer.nodes.map (·.principal_id)) .SharedPrincipal

def PrincipalChainV1.satisfies (proposer ratifier : PrincipalChainV1) :
    PrincipalSeparationPredicateV1 → Except PrincipalSeparationFailure Unit
  | .DistinctRootsNoSharedLineage => proposer.check_distinct_roots_no_shared_lineage ratifier

end ag_primitives

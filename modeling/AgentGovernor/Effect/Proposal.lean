import AgentGovernor.Primitives.Principal
import Mathlib.Data.List.Sort

open Checked ag_primitives

namespace ag_effect

def EFFECT_SCHEMA_V1 : String := "ag.effect/v1"
def EFFECT_CATALOG_SCHEMA_V1 : String := "ag.effect-catalog/v1"

structure TargetId where
  as_str : String
  deriving DecidableEq

instance : Serialize TargetId := ⟨fun target => to_jcs target.as_str⟩

/-- Coarse effect families. -/
inductive EffectFamilyV1 where
  | CodePromotion | ManagedFile | Systemd
  deriving DecidableEq

/-- Effect bytes that the broker compiled: the target, and the other members of the variant
under their names, in canonical order. -/
inductive CanonicalEffectV1 where
  | ManagedPointerPromotion (target : TargetId) (members : List (String × Jcs))
  | ManagedFilePut (target : TargetId) (members : List (String × Jcs))
  | ManagedFileDelete (target : TargetId) (members : List (String × Jcs))
  | SystemdUnit (target : TargetId) (members : List (String × Jcs))
  | SystemdManagerReload (target : TargetId) (members : List (String × Jcs))

namespace CanonicalEffectV1

def family : CanonicalEffectV1 → EffectFamilyV1
  | ManagedPointerPromotion _ _ => .CodePromotion
  | ManagedFilePut _ _ | ManagedFileDelete _ _ => .ManagedFile
  | SystemdUnit _ _ | SystemdManagerReload _ _ => .Systemd

def target : CanonicalEffectV1 → TargetId
  | ManagedPointerPromotion target _ | ManagedFilePut target _ | ManagedFileDelete target _
  | SystemdUnit target _ | SystemdManagerReload target _ => target

def kind : CanonicalEffectV1 → String
  | ManagedPointerPromotion _ _ => "managed_pointer_promotion"
  | ManagedFilePut _ _ => "managed_file_put"
  | ManagedFileDelete _ _ => "managed_file_delete"
  | SystemdUnit _ _ => "systemd_unit"
  | SystemdManagerReload _ _ => "systemd_manager_reload"

def members : CanonicalEffectV1 → List (String × Jcs)
  | ManagedPointerPromotion _ members | ManagedFilePut _ members | ManagedFileDelete _ members
  | SystemdUnit _ members | SystemdManagerReload _ members => members

end CanonicalEffectV1

/-- One more member, at its place. -/
def insert_member (name : String) (value : Jcs) (members : List (String × Jcs)) : List (String × Jcs) :=
  members.orderedInsert (fun left right => left.1 ≤ right.1) (name, value)

instance : Serialize CanonicalEffectV1 := ⟨fun effect =>
  .obj (insert_member "kind" (.str effect.kind) (insert_member "target" (to_jcs effect.target) effect.members))⟩

/-- A canonical proposal body. -/
structure CanonicalProposalBodyV1 where
  schema : String
  proposal_id : String
  intent_digest : Digest
  governor_authentication : Digest
  authority_domain : AuthorityDomainId
  epoch : EpochId
  compiled_at_unix_ms : UInt64
  proposer : PrincipalChainV1
  catalog_schema : String
  catalog_identity : Digest
  security_profile_identity : Digest
  judgment : Digest
  effects : List CanonicalEffectV1

instance : Serialize CanonicalProposalBodyV1 := ⟨fun body =>
  .obj [("authority_domain", to_jcs body.authority_domain), ("catalog_identity", to_jcs body.catalog_identity),
    ("catalog_schema", to_jcs body.catalog_schema), ("compiled_at_unix_ms", to_jcs body.compiled_at_unix_ms),
    ("effects", to_jcs body.effects), ("epoch", to_jcs body.epoch),
    ("governor_authentication", to_jcs body.governor_authentication), ("intent_digest", to_jcs body.intent_digest),
    ("judgment", to_jcs body.judgment), ("proposal_id", to_jcs body.proposal_id), ("proposer", to_jcs body.proposer),
    ("schema", to_jcs body.schema), ("security_profile_identity", to_jcs body.security_profile_identity)]⟩

/-- Canonical, broker-compiled bytes that may be persisted and ratified. -/
structure CanonicalEffectProposalV1 where
  digest : Digest
  body : CanonicalProposalBodyV1

instance : Serialize CanonicalEffectProposalV1 := ⟨fun proposal =>
  .obj [("body", to_jcs proposal.body), ("digest", to_jcs proposal.digest)]⟩

inductive EffectError where
  | CanonicalDigestMismatch

/-- The writer of the body has no failure of its own. -/
def CanonicalEffectProposalV1.verify_digest (sha : Sha256) (proposal : CanonicalEffectProposalV1) :
    Except EffectError Unit :=
  reject (Digest.from_serializable sha proposal.body ≠ proposal.digest) .CanonicalDigestMismatch

/-- The variant of `RatificationV1` that a verifier's judgment gives. -/
inductive RatificationV1 where
  | DerivedCodePromotion (proposal verifier_executable verifier_launch_profile verifier_receipt : Digest)
    (adapter : PrincipalChainV1)

end ag_effect

import AgentGovernor.Governed.HumanArtifact
import AgentGovernor.Governed.KernelHalt

open ag_primitives Checked Windows

namespace ag_campaign.governed

def GOVERNED_INTERVENTION_SCHEMA_V1 : String := "ag.governed-loop.intervention-request/v1"
def GOVERNED_INTERVENTION_DIGEST_DOMAIN_V1 : String := "ag.governed-loop.intervention-request/v1"

/-- Closed intervention vocabulary. -/
inductive GovernedInterventionClassV1 where
  | ReconcileAttempt (issuance : AgIssuanceRefV1) (attempt : DocketAttemptRefV1) (evidence : List Digest)
  | RequestProbe (exact_probe_work : Digest) (evidence : List Digest)
  | OpenSuccessor (successor_occurrence : OccurrenceId) (exact_work : Digest)
  | HaltContinuation (reason : HaltReasonRefV1)
  deriving DecidableEq

@[simp] def GovernedInterventionClassV1.serialize : GovernedInterventionClassV1 → Jcs
  | .ReconcileAttempt issuance attempt evidence =>
    .obj [("attempt", to_jcs attempt), ("class", .str "reconcile_attempt"),
      ("evidence", to_jcs evidence), ("issuance", to_jcs issuance)]
  | .RequestProbe exact_probe_work evidence =>
    .obj [("class", .str "request_probe"), ("evidence", to_jcs evidence),
      ("exact_probe_work", to_jcs exact_probe_work)]
  | .OpenSuccessor successor_occurrence exact_work =>
    .obj [("class", .str "open_successor"), ("exact_work", to_jcs exact_work),
      ("successor_occurrence", to_jcs successor_occurrence)]
  | .HaltContinuation reason => .obj [("class", .str "halt_continuation"), ("reason", to_jcs reason)]

instance : Serialize GovernedInterventionClassV1 := ⟨GovernedInterventionClassV1.serialize⟩

instance : InjectiveSerialize GovernedInterventionClassV1 := .of_serialize

/-- Versioned, content-bound operator intent. -/
structure GovernedInterventionRequestV1 where
  schema : String
  request : GovernedInterventionRequestIdV1
  principal : HumanPrincipalRefV1
  mandate : MandateRefV1
  nonce : GovernedInterventionNonceRefV1
  campaign : CampaignId
  occurrence : OccurrenceId
  target_state_digest : Digest
  intervention : GovernedInterventionClassV1
  created_at_unix_ms : UInt64
  expires_at_unix_ms : UInt64
  deriving DecidableEq

@[simp] def GovernedInterventionRequestV1.serialize (value : GovernedInterventionRequestV1) : Jcs :=
  .obj [("campaign", to_jcs value.campaign), ("created_at_unix_ms", to_jcs value.created_at_unix_ms),
    ("expires_at_unix_ms", to_jcs value.expires_at_unix_ms), ("intervention", to_jcs value.intervention),
    ("mandate", to_jcs value.mandate), ("nonce", to_jcs value.nonce),
    ("occurrence", to_jcs value.occurrence), ("principal", to_jcs value.principal),
    ("request", to_jcs value.request), ("schema", to_jcs value.schema),
    ("target_state_digest", to_jcs value.target_state_digest)]

instance : Serialize GovernedInterventionRequestV1 := ⟨GovernedInterventionRequestV1.serialize⟩

instance : InjectiveSerialize GovernedInterventionRequestV1 := .of_serialize

/-- The document a request identity is derived from: every field but the
identity itself. -/
structure GovernedInterventionDigestInputV1 where
  request : GovernedInterventionRequestV1

def GovernedInterventionDigestInputV1.serialize (value : GovernedInterventionDigestInputV1) : Jcs :=
  .obj [("campaign", to_jcs value.request.campaign),
    ("created_at_unix_ms", to_jcs value.request.created_at_unix_ms),
    ("expires_at_unix_ms", to_jcs value.request.expires_at_unix_ms),
    ("intervention", to_jcs value.request.intervention), ("mandate", to_jcs value.request.mandate),
    ("nonce", to_jcs value.request.nonce), ("occurrence", to_jcs value.request.occurrence),
    ("principal", to_jcs value.request.principal), ("schema", to_jcs value.request.schema),
    ("target_state_digest", to_jcs value.request.target_state_digest)]

instance : Serialize GovernedInterventionDigestInputV1 := ⟨GovernedInterventionDigestInputV1.serialize⟩

namespace GovernedInterventionRequestV1

/-- Recomputes the domain-separated identity over every semantic field. -/
def derived_request_id (sha : Sha256) (request : GovernedInterventionRequestV1) :
    GovernedInterventionRequestIdV1 :=
  .from_digest (digest_value sha GOVERNED_INTERVENTION_DIGEST_DOMAIN_V1
    ({ request } : GovernedInterventionDigestInputV1))

def evidence (request : GovernedInterventionRequestV1) : Option (List Digest) :=
  match request.intervention with
  | .ReconcileAttempt _ _ evidence | .RequestProbe _ evidence => some evidence
  | .OpenSuccessor _ _ | .HaltContinuation _ => none

/-- Validates schema, self-digest, time shape, and bounded exact evidence. -/
def validate_integrity (sha : Sha256) (request : GovernedInterventionRequestV1) :
    Except KernelErrorV1 Unit := do
  reject (request.schema ≠ GOVERNED_INTERVENTION_SCHEMA_V1) (.ForeignSchema "governed intervention")
  reject (request.request ≠ request.derived_request_id sha) (.Intervention "request digest mismatch")
  reject (request.created_at_unix_ms ≥ request.expires_at_unix_ms) (.Intervention "invalid request window")
  match request.evidence with
  | some evidence =>
    reject (evidence.length > 64 ∨ windows_any (fun left right => left ≥ right) evidence = true)
      (.Intervention "evidence must be bounded, sorted, and unique")
  | none => pure ()

end GovernedInterventionRequestV1

/-- Deployment-owned expected principal and mandate for one request ingress. -/
abbrev GovernedInterventionAuthorityScopeV1 := HumanAuthorityScopeV1

/-- Exact request presented to the external principal/mandate verifier. -/
structure GovernedInterventionVerificationRequestV1 where
  request : GovernedInterventionRequestV1
  expected_scope : GovernedInterventionAuthorityScopeV1
  now_unix_ms : UInt64

/-- External authentication and current-mandate boundary for interventions. -/
structure GovernedInterventionVerifierV1 where
  verify_governed_intervention : GovernedInterventionVerificationRequestV1 →
    Except ExternalBoundaryErrorV1 GovernedInterventionVerificationRefV1

/-- Authenticated intent retained as evidence, not a reusable AG capability. -/
structure VerifiedGovernedInterventionV1 where
  request : GovernedInterventionRequestV1
  verification : GovernedInterventionVerificationRefV1
  deriving DecidableEq

@[simp] def VerifiedGovernedInterventionV1.serialize (value : VerifiedGovernedInterventionV1) : Jcs :=
  .obj [("request", to_jcs value.request), ("verification", to_jcs value.verification)]

instance : Serialize VerifiedGovernedInterventionV1 := ⟨VerifiedGovernedInterventionV1.serialize⟩

instance : InjectiveSerialize VerifiedGovernedInterventionV1 := .of_serialize

/-- Pure result of applying one authenticated request to one exact state. -/
inductive GovernedInterventionEffectV1 where
  | Reconcile (verified : VerifiedGovernedInterventionV1)
  | Transition (successor : OccurrenceSnapshotV1) (verified : VerifiedGovernedInterventionV1)

namespace GovernedLoopKernelV1

/-- Authenticates one exact intervention request without granting AG authority. -/
def verify_governed_intervention (sha : Sha256) (request : GovernedInterventionRequestV1)
    (expected_scope : GovernedInterventionAuthorityScopeV1) (verifier : GovernedInterventionVerifierV1)
    (now_unix_ms : UInt64) : Except KernelErrorV1 VerifiedGovernedInterventionV1 := do
  request.validate_integrity sha
  reject (request.principal ≠ expected_scope.principal) (.Intervention "wrong principal")
  reject (request.mandate ≠ expected_scope.mandate) (.Intervention "wrong mandate")
  reject (now_unix_ms ≥ request.expires_at_unix_ms) (.Intervention "expired")
  let verification ← map_err
    (verifier.verify_governed_intervention { request, expected_scope, now_unix_ms }) KernelErrorV1.External
  pure { request, verification }

/-- Applies authenticated intent only through an existing, closed kernel law. -/
def apply_verified_governed_intervention (sha : Sha256) (current : OccurrenceSnapshotV1)
    (verified : VerifiedGovernedInterventionV1) : Except KernelErrorV1 GovernedInterventionEffectV1 := do
  current.validate_integrity sha
  let request := verified.request
  reject (request.campaign ≠ current.key.campaign) (.Intervention "wrong campaign")
  reject (request.occurrence ≠ current.key.occurrence) (.Intervention "wrong occurrence")
  reject (request.target_state_digest ≠ current.state_digest) (.Intervention "stale target state")
  match request.intervention with
  | .ReconcileAttempt issuance attempt _ =>
    match current.state with
    | .ReconciliationRequired state => do
      reject (issuance ≠ state.dispatch.authorized.issuance.issuance) (.Intervention "wrong issuance")
      reject (attempt ≠ state.dispatch.custody.attempt) (.Intervention "wrong attempt")
      pure (.Reconcile verified)
    | _ => throw (.Intervention "reconciliation is not required")
  | .RequestProbe _ _ => do
    let successor ← note_probe sha current
    pure (.Transition successor verified)
  | .OpenSuccessor successor_occurrence exact_work => do
    let successor ← open_continuation sha current successor_occurrence exact_work
    pure (.Transition successor verified)
  | .HaltContinuation reason => do
    let successor ← halt sha current reason
    pure (.Transition successor verified)

end GovernedLoopKernelV1

end ag_campaign.governed

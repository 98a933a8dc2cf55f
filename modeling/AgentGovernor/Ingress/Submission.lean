import AgentGovernor.Governed.Intervention

open ag_primitives Checked ag_campaign ag_campaign.governed

namespace ag_app.intervention_ingress

def INTERVENTION_SUBMISSION_SCHEMA_V1 : String := "ag.governed-loop.intervention-submission/v1"
def INTERVENTION_SUBMISSION_BODY_SCHEMA_V1 : String := "ag.governed-loop.intervention-submission-body/v1"
def SUBMISSION_DOMAIN_V1 : String := "ag.governed-loop.intervention-submission-id/v1"
def SUBMISSION_SIGNATURE_PREFIX_V1 : String := "ag-ng\x00governed-loop-intervention-submission\x00v1\x00"
def PRESENTATION_DOMAIN_V1 : String := "ag.governed-loop.intervention-submission-bytes/v1"
def REQUEST_BYTES_DOMAIN_V1 : String := "ag.governed-loop.intervention-request-bytes/v1"
def CUSTODY_VERIFICATION_DOMAIN_V1 : String :=
  "ag.governed-loop.intervention-submission-custody-verification/v1"
def MAX_REQUEST_BYTES : Nat := 1024 * 1024
def MAX_SUBMISSION_BYTES : Nat := 2 * 1024 * 1024

/-- Closed pre-governance custody refusal vocabulary. -/
inductive InterventionCustodyRefusalCodeV1 where
  | UnsafeInput
  | Oversized
  | Malformed
  | UnsupportedSchema
  | BindingMismatch
  | WrongTargetRuntime
  | WrongSubmittingPrincipal
  | WrongSubmittingKey
  | AuthenticationFailed
  | Expired
  | ConflictingSubmission
  deriving DecidableEq

def InterventionCustodyRefusalCodeV1.serialize : InterventionCustodyRefusalCodeV1 → Jcs
  | .UnsafeInput => .str "unsafe_input"
  | .Oversized => .str "oversized"
  | .Malformed => .str "malformed"
  | .UnsupportedSchema => .str "unsupported_schema"
  | .BindingMismatch => .str "binding_mismatch"
  | .WrongTargetRuntime => .str "wrong_target_runtime"
  | .WrongSubmittingPrincipal => .str "wrong_submitting_principal"
  | .WrongSubmittingKey => .str "wrong_submitting_key"
  | .AuthenticationFailed => .str "authentication_failed"
  | .Expired => .str "expired"
  | .ConflictingSubmission => .str "conflicting_submission"

instance : Serialize InterventionCustodyRefusalCodeV1 := ⟨InterventionCustodyRefusalCodeV1.serialize⟩

/-- Fail-closed ingress and receipt failures. Those of the file system and of `SQLite`
itself are left out. -/
inductive InterventionIngressErrorV1 where
  | Canonical (reason : String)
  | Custody (code : InterventionCustodyRefusalCodeV1)
  | Corrupt (reason : String)
  deriving DecidableEq

/-- Exact signed body carried by a submission envelope. Byte strings are texts with one
character for each byte. -/
structure GovernedInterventionSubmissionBodyV1 where
  schema : String
  submission : Digest
  request : GovernedInterventionRequestIdV1
  request_bytes_digest : Digest
  request_bytes_b64 : String
  submitting_principal : String
  submitting_key_id : String
  target_runtime_profile : Digest
  created_at_unix_ms : UInt64
  expires_at_unix_ms : UInt64
  deriving DecidableEq

instance : Serialize GovernedInterventionSubmissionBodyV1 :=
  ⟨fun value => .obj [("created_at_unix_ms", to_jcs value.created_at_unix_ms),
    ("expires_at_unix_ms", to_jcs value.expires_at_unix_ms), ("request", to_jcs value.request),
    ("request_bytes_b64", to_jcs value.request_bytes_b64),
    ("request_bytes_digest", to_jcs value.request_bytes_digest), ("schema", to_jcs value.schema),
    ("submission", to_jcs value.submission), ("submitting_key_id", to_jcs value.submitting_key_id),
    ("submitting_principal", to_jcs value.submitting_principal),
    ("target_runtime_profile", to_jcs value.target_runtime_profile)]⟩

/-- The document a submission identity is derived from: every field but the identity. -/
structure SubmissionDigestInputV1 where
  body : GovernedInterventionSubmissionBodyV1

instance : Serialize SubmissionDigestInputV1 :=
  ⟨fun value => .obj [("created_at_unix_ms", to_jcs value.body.created_at_unix_ms),
    ("expires_at_unix_ms", to_jcs value.body.expires_at_unix_ms), ("request", to_jcs value.body.request),
    ("request_bytes_b64", to_jcs value.body.request_bytes_b64),
    ("request_bytes_digest", to_jcs value.body.request_bytes_digest), ("schema", to_jcs value.body.schema),
    ("submitting_key_id", to_jcs value.body.submitting_key_id),
    ("submitting_principal", to_jcs value.body.submitting_principal),
    ("target_runtime_profile", to_jcs value.body.target_runtime_profile)]⟩

def GovernedInterventionSubmissionBodyV1.derived_submission (sha : Sha256)
    (body : GovernedInterventionSubmissionBodyV1) : Digest :=
  digest_value sha SUBMISSION_DOMAIN_V1 ({ body } : SubmissionDigestInputV1)

/-- Ed25519-authenticated transport envelope over exact request bytes. -/
structure GovernedInterventionSubmissionV1 where
  schema : String
  body : GovernedInterventionSubmissionBodyV1
  signature : String
  deriving DecidableEq

instance : Serialize GovernedInterventionSubmissionV1 :=
  ⟨fun value => .obj [("body", to_jcs value.body), ("schema", to_jcs value.schema),
    ("signature", to_jcs value.signature)]⟩

/-- Result of successful custody authentication, before governed evaluation. -/
structure VerifiedInterventionSubmissionV1 where
  envelope : GovernedInterventionSubmissionV1
  presentation_digest : Digest
  request_bytes : String
  request : GovernedInterventionRequestV1
  custody_verification : Digest

/-- Deployment-owned submitter that one campaign accepts submissions from. -/
structure GovernedInterventionIngressV1 where
  submitter_principal : String
  submitter_key_id : String
  submitter_public_key : String

/-- What the module takes from other crates: the strict JSON reader, the canonical JSON
writer, base64 and the signature scheme. -/
structure IngressCodec where
  submission_from_slice : String → Option GovernedInterventionSubmissionV1
  request_from_slice : String → Option GovernedInterventionRequestV1
  canonical_bytes : Jcs → String
  decode_b64 : String → Option String
  ed25519_verify (public_key message signature : String) : Bool

/-- `Digest::hash_domain(PRESENTATION_DOMAIN_V1, presentation)`. -/
def presentation_digest (sha : Sha256) (presentation : String) : Digest :=
  Digest.hash_domain sha PRESENTATION_DOMAIN_V1 (.text presentation)

section Verification

variable (sha : Sha256) (codec : IngressCodec)

/-- The bytes are the canonical ones, with an optional final line feed. -/
def require_exact_json {T : Type} [Serialize T] (bytes : String) (value : T) :
    Except InterventionIngressErrorV1 Unit :=
  let canonical := codec.canonical_bytes (to_jcs value)
  reject (bytes ≠ canonical ∧ bytes ≠ canonical ++ "\n") (.Custody .Malformed)

def parse_exact_request_bytes (bytes : String) :
    Except InterventionIngressErrorV1 GovernedInterventionRequestV1 := do
  reject (bytes.length > MAX_REQUEST_BYTES) (.Custody .Oversized)
  let request ← ok_or (codec.request_from_slice bytes) (.Custody .Malformed)
  require_exact_json codec bytes request
  map_err (request.validate_integrity sha) fun _ => InterventionIngressErrorV1.Custody .BindingMismatch
  pure request

/-- Parses and authenticates one exact submission presentation. -/
def verify_submission_bytes (presentation : String) (configured : GovernedInterventionIngressV1)
    (target_runtime_profile : Digest) (now_unix_ms : UInt64) :
    Except InterventionIngressErrorV1 VerifiedInterventionSubmissionV1 := do
  reject (presentation.length > MAX_SUBMISSION_BYTES) (.Custody .Oversized)
  let envelope ← ok_or (codec.submission_from_slice presentation) (.Custody .Malformed)
  require_exact_json codec presentation envelope
  reject (envelope.schema ≠ INTERVENTION_SUBMISSION_SCHEMA_V1 ∨
      envelope.body.schema ≠ INTERVENTION_SUBMISSION_BODY_SCHEMA_V1) (.Custody .UnsupportedSchema)
  reject (envelope.body.submission ≠ envelope.body.derived_submission sha) (.Custody .BindingMismatch)
  reject (envelope.body.target_runtime_profile ≠ target_runtime_profile) (.Custody .WrongTargetRuntime)
  reject (envelope.body.submitting_principal ≠ configured.submitter_principal)
    (.Custody .WrongSubmittingPrincipal)
  reject (envelope.body.submitting_key_id ≠ configured.submitter_key_id) (.Custody .WrongSubmittingKey)
  reject (now_unix_ms ≥ envelope.body.expires_at_unix_ms) (.Custody .Expired)
  let signature ← ok_or (codec.decode_b64 envelope.signature) (.Custody .AuthenticationFailed)
  let public_key ← ok_or (codec.decode_b64 configured.submitter_public_key) (.Custody .AuthenticationFailed)
  let signed := SUBMISSION_SIGNATURE_PREFIX_V1 ++ codec.canonical_bytes (to_jcs envelope.body)
  reject (codec.ed25519_verify public_key signed signature = false) (.Custody .AuthenticationFailed)
  let request_bytes ← ok_or (codec.decode_b64 envelope.body.request_bytes_b64) (.Custody .BindingMismatch)
  reject (Digest.hash_domain sha REQUEST_BYTES_DOMAIN_V1 (.text request_bytes) ≠
    envelope.body.request_bytes_digest) (.Custody .BindingMismatch)
  let request ← parse_exact_request_bytes sha codec request_bytes
  reject (request.request ≠ envelope.body.request) (.Custody .BindingMismatch)
  pure
    { envelope
      presentation_digest := presentation_digest sha presentation
      request_bytes
      request
      custody_verification := Digest.hash_domain sha CUSTODY_VERIFICATION_DOMAIN_V1
        (.jcs (.arr [to_jcs envelope.body.submission, to_jcs envelope.body.target_runtime_profile,
          to_jcs envelope.signature])) }

/-- Untrusted lookup selectors of a structurally decodable envelope. -/
def claimed_submission_references (presentation : String) :
    Option Digest × Option GovernedInterventionRequestIdV1 :=
  if presentation.length > MAX_SUBMISSION_BYTES then (none, none)
  else
    match codec.submission_from_slice presentation with
    | some envelope => (some envelope.body.submission, some envelope.body.request)
    | none => (none, none)

end Verification

end ag_app.intervention_ingress

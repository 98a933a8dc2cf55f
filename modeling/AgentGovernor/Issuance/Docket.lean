import AgentGovernor.Lib.Path
import AgentGovernor.Primitives.CanonicalText
import AgentGovernor.Primitives.IdealHash
import AgentGovernor.Protocol.StrictJson
import AgentGovernor.Store.Verify

open ag_primitives ag_protocol Checked
open ag_store (is_whitespace)

namespace ag_app.docket_issuance

section Documents

def SUPPORTED_REQUEST_SCHEMA : String := "gwr:authz-request:v1"
def ISSUANCE_SCHEMA : String := "ag.docket-issuance:v1"
def SUPPORTED_EFFECT_CLASS : String := "git-ref-update:v1"
def BODY_DIGEST_DOMAIN : String := "ag.docket-issuance.body.v1"
def REQUEST_DIGEST_DOMAIN : String := "ag.docket-issuance.request.v1"
def CONSUMPTION_DIGEST_DOMAIN : String := "ag.docket-issuance.consumption.v1"

/-- One Docket authorization request. -/
structure DocketAuthzRequestV1 where
  authz_request_format : String
  attempt : String
  attempt_version : UInt64
  effect_class : String
  prepared_attempt_digest : String
  repository : String
  target_ref : String
  basis : String
  allowed_paths : List String
  settlement_premises : List String
  requested_actor : String
  goal : String
  work_request : String
  preparation_run : String
  candidate : String
  candidate_digest : String
  request_created_at_ms : UInt64
  admitted_at_ms : UInt64
  deriving DecidableEq

instance : Serialize DocketAuthzRequestV1 :=
  ⟨fun value => .obj [("admitted_at_ms", to_jcs value.admitted_at_ms), ("allowed_paths", to_jcs value.allowed_paths),
    ("attempt", to_jcs value.attempt), ("attempt_version", to_jcs value.attempt_version),
    ("authz_request_format", to_jcs value.authz_request_format), ("basis", to_jcs value.basis),
    ("candidate", to_jcs value.candidate), ("candidate_digest", to_jcs value.candidate_digest),
    ("effect_class", to_jcs value.effect_class), ("goal", to_jcs value.goal),
    ("preparation_run", to_jcs value.preparation_run),
    ("prepared_attempt_digest", to_jcs value.prepared_attempt_digest), ("repository", to_jcs value.repository),
    ("request_created_at_ms", to_jcs value.request_created_at_ms),
    ("requested_actor", to_jcs value.requested_actor), ("settlement_premises", to_jcs value.settlement_premises),
    ("target_ref", to_jcs value.target_ref), ("work_request", to_jcs value.work_request)]⟩

structure IssuanceDecisionContextV1 where
  authority_domain : String
  epoch : UInt64
  lifecycle_nonce : String
  catalog_identity : String

instance : Serialize IssuanceDecisionContextV1 :=
  ⟨fun value => .obj [("authority_domain", to_jcs value.authority_domain),
    ("catalog_identity", to_jcs value.catalog_identity), ("epoch", to_jcs value.epoch),
    ("lifecycle_nonce", to_jcs value.lifecycle_nonce)]⟩

/-- One root-owned Docket target. -/
structure DocketTargetDefinitionV1 where
  target_id : String
  repository : String
  target_ref : String
  effect_class : String
  admitted_actors : List String
  admitted_path_prefixes : List String

/-- The target catalog, its entries in the order of their keys. -/
structure DocketTargetCatalogV1 where
  identity : String
  targets : List (String × DocketTargetDefinitionV1)

def DocketTargetCatalogV1.match_request (catalog : DocketTargetCatalogV1) (request : DocketAuthzRequestV1) :
    Option DocketTargetDefinitionV1 :=
  (catalog.targets.map Prod.snd).find? fun target =>
    target.repository = request.repository ∧ target.target_ref = request.target_ref ∧
      target.effect_class = request.effect_class

structure AuthorizationPremiseV1 where
  kind : String
  statement : String

instance : Serialize AuthorizationPremiseV1 :=
  ⟨fun value => .obj [("kind", to_jcs value.kind), ("statement", to_jcs value.statement)]⟩

inductive ResidualStatusV1 where
  | NoneRecorded | Unrepresented | Present

instance : Serialize ResidualStatusV1 where
  to_jcs
    | .NoneRecorded => .str "none_recorded"
    | .Unrepresented => .str "unrepresented"
    | .Present => .str "present"

structure UpstreamResidualV1 where
  source_system : String
  obligation_id : String
  subject : String
  kind : String
  statement : String

instance : Serialize UpstreamResidualV1 :=
  ⟨fun value => .obj [("kind", to_jcs value.kind), ("obligation_id", to_jcs value.obligation_id),
    ("source_system", to_jcs value.source_system), ("statement", to_jcs value.statement),
    ("subject", to_jcs value.subject)]⟩

structure ResidualObligationsV1 where
  status : ResidualStatusV1
  items : List UpstreamResidualV1

instance : Serialize ResidualObligationsV1 :=
  ⟨fun value => .obj [("items", to_jcs value.items), ("status", to_jcs value.status)]⟩

structure AuthorityConsumptionV1 where
  ledger : String
  use_digest : String

instance : Serialize AuthorityConsumptionV1 :=
  ⟨fun value => .obj [("ledger", to_jcs value.ledger), ("use_digest", to_jcs value.use_digest)]⟩

/-- Identity and both digests of the source request. -/
structure RequestSourceV1 where
  schema : String
  raw_sha256 : String
  ag_canonical_digest : String
  deriving DecidableEq

instance : Serialize RequestSourceV1 :=
  ⟨fun value => .obj [("ag_canonical_digest", to_jcs value.ag_canonical_digest),
    ("raw_sha256", to_jcs value.raw_sha256), ("schema", to_jcs value.schema)]⟩

/-- The Docket facts an issuance is bound to. -/
structure DocketBindingV1 where
  attempt : String
  prepared_attempt_digest : String
  effect_class : String
  repository : String
  target_ref : String
  basis : String
  allowed_paths : List String
  requested_actor : String
  deriving DecidableEq

instance : Serialize DocketBindingV1 :=
  ⟨fun value => .obj [("allowed_paths", to_jcs value.allowed_paths), ("attempt", to_jcs value.attempt),
    ("basis", to_jcs value.basis), ("effect_class", to_jcs value.effect_class),
    ("prepared_attempt_digest", to_jcs value.prepared_attempt_digest), ("repository", to_jcs value.repository),
    ("requested_actor", to_jcs value.requested_actor), ("target_ref", to_jcs value.target_ref)]⟩

structure DocketIssuanceBodyV1 where
  issuance_id : String
  decision_id : String
  issuer_principal : String
  issuer_key_id : String
  decision_context : IssuanceDecisionContextV1
  principal_chain : List String
  target_id : String
  request_source : RequestSourceV1
  docket : DocketBindingV1
  issued_at_unix_ms : UInt64
  expires_at_unix_ms : UInt64
  premises : List AuthorizationPremiseV1
  residual_obligations : ResidualObligationsV1
  consumption : AuthorityConsumptionV1
  decision : String

structure IssuanceAuthenticationV1 where
  signer_key_id : String
  signer_public_key : String
  signature : String

/-- The transported envelope. The encoded body bytes are held as the body they encode. -/
structure DocketIssuanceEnvelopeV1 where
  schema : String
  body_b64 : DocketIssuanceBodyV1
  authentication : IssuanceAuthenticationV1

inductive IssuanceRefusal where
  | UnsupportedRequestSchema (expected found : String)
  | MalformedRequest (detail : String)
  | UnsupportedEffectClass (found : String)
  | TargetNotInCatalog (repository target_ref : String)
  | ActorNotAdmitted (actor target_id : String)
  | PathOutsideScope (path target_id : String)
  | MalformedPrincipalChain (detail : String)
  | AuthorityUnavailable (detail : String)
  deriving DecidableEq

end Documents

section Office

variable (sha : Sha256) (destination : Destination DocketAuthzRequestV1)

/-- Bytes are hashed as a text with one character for each of them. -/
def byte_text (bytes : List UInt8) : Payload :=
  .text (String.ofList (bytes.map Char.ofUInt8))

/-- The text member `authz_request_format` of a JSON document. Of a repeated member the
last one stands. -/
def authz_request_format : Json → Option String
  | .obj members =>
    match members.reverse.lookup "authz_request_format" with
    | some (.str found) => some found
    | _ => none
  | _ => none

def decode_request (bytes : List UInt8) : Except IssuanceRefusal DocketAuthzRequestV1 := do
  let probe ← map_err (destination.read bytes) fun error => .MalformedRequest ("not JSON: " ++ error)
  let found := (authz_request_format probe).getD "(absent)"
  reject (found ≠ SUPPORTED_REQUEST_SCHEMA) (.UnsupportedRequestSchema SUPPORTED_REQUEST_SCHEMA found)
  map_err (strict_json_from_slice destination bytes) fun error => .MalformedRequest error.to_string

/-- The decisions whose authority was burned, each with the digest of its use. -/
structure IssuanceDecisionLedger where
  consumed : List (String × String)

def IssuanceDecisionLedger.consume (ledger : IssuanceDecisionLedger) (decision_id : String)
    (context : IssuanceDecisionContextV1) :
    Except IssuanceRefusal (AuthorityConsumptionV1 × IssuanceDecisionLedger) := do
  reject (decision_id ∈ ledger.consumed.map Prod.fst)
    (.AuthorityUnavailable ("decision " ++ decision_id ++ " already consumed"))
  let use_digest := (digest_value sha CONSUMPTION_DIGEST_DOMAIN (decision_id, context)).as_str
  pure (⟨"ag-ng.docket-issuance.decision-ledger.v1", use_digest⟩,
    ⟨ledger.consumed ++ [(decision_id, use_digest)]⟩)

structure DocketIssuanceOffice where
  catalog : DocketTargetCatalogV1
  context : IssuanceDecisionContextV1
  principal_chain : List String
  issuer_principal : String

/-- An admitted decision. Only `decide` makes one. -/
structure DocketDecision where
  decision_id : String
  target_id : String
  deriving DecidableEq

/-- `path == prefix || path.starts_with("{prefix}/")`. -/
def covers (admitted path : String) : Prop :=
  path = admitted ∨ (admitted ++ "/").toList <+: path.toList

instance (admitted path : String) : Decidable (covers admitted path) :=
  inferInstanceAs (Decidable (_ ∨ _))

/-- The decision identity binds the exact request content, the context and the matched
target. -/
def decision_id (context : IssuanceDecisionContextV1) (request : DocketAuthzRequestV1) (target_id : String) : String :=
  (Digest.hash_domain sha "ag.docket-issuance.decision.v1"
    (.jcs (.arr [to_jcs request, to_jcs context, to_jcs target_id]))).as_str

namespace DocketIssuanceOffice

def decide (office : DocketIssuanceOffice) (request : DocketAuthzRequestV1) :
    Except IssuanceRefusal DocketDecision := do
  reject (request.effect_class ≠ SUPPORTED_EFFECT_CLASS) (.UnsupportedEffectClass request.effect_class)
  reject (office.principal_chain = [] ∨ ∃ node ∈ office.principal_chain, node.toList.all is_whitespace = true)
    (.MalformedPrincipalChain "principal chain must be non-empty with non-empty nodes")
  let target ← ok_or (office.catalog.match_request request)
    (.TargetNotInCatalog request.repository request.target_ref)
  reject (request.requested_actor ∉ target.admitted_actors)
    (.ActorNotAdmitted request.requested_actor target.target_id)
  request.allowed_paths.forM fun path =>
    reject (¬ ∃ admitted ∈ target.admitted_path_prefixes, covers admitted path)
      (.PathOutsideScope path target.target_id)
  pure ⟨decision_id sha office.context request target.target_id, target.target_id⟩

end DocketIssuanceOffice

/-- `IssuanceSigner`, with its signature over the canonical bytes of a body. -/
structure IssuanceSigner where
  key_id : String
  public_key_base64url : String
  sign : DocketIssuanceBodyV1 → String

/-- A call of `issue` on an office. The fields of a token are private, so it was obtained
for a request from some office, and that need not be the one it is handed to. -/
structure IssueCall where
  office : DocketIssuanceOffice
  request : DocketAuthzRequestV1
  request_bytes : List UInt8
  decision : DocketDecision
  signer : IssuanceSigner
  issued_at_unix_ms : UInt64
  expires_at_unix_ms : UInt64
  premises : List AuthorizationPremiseV1
  residual_obligations : ResidualObligationsV1
  deciding : DocketIssuanceOffice
  decided : DocketAuthzRequestV1
  obtained : deciding.decide sha decided = .ok decision

def request_source (request : DocketAuthzRequestV1) (request_bytes : List UInt8) : RequestSourceV1 where
  schema := request.authz_request_format
  raw_sha256 := (Digest.hash_bytes sha (byte_text request_bytes)).as_str
  ag_canonical_digest := (Digest.hash_domain sha REQUEST_DIGEST_DOMAIN (byte_text request_bytes)).as_str

def DocketAuthzRequestV1.docket (request : DocketAuthzRequestV1) : DocketBindingV1 where
  attempt := request.attempt
  prepared_attempt_digest := request.prepared_attempt_digest
  effect_class := request.effect_class
  repository := request.repository
  target_ref := request.target_ref
  basis := request.basis
  allowed_paths := request.allowed_paths
  requested_actor := request.requested_actor

variable {sha}

/-- What `issue` returns once the authority is burned. -/
def IssueCall.produce (call : IssueCall sha) (consumption : AuthorityConsumptionV1) : DocketIssuanceEnvelopeV1 :=
  let request_source := request_source sha call.request call.request_bytes
  let docket := call.request.docket
  let identity : Jcs := .arr [to_jcs call.decision.decision_id, to_jcs call.office.issuer_principal,
    to_jcs call.signer.key_id, to_jcs call.office.context, to_jcs call.office.principal_chain,
    to_jcs call.decision.target_id, to_jcs request_source, to_jcs docket, to_jcs call.issued_at_unix_ms,
    to_jcs call.expires_at_unix_ms, to_jcs call.premises, to_jcs call.residual_obligations, to_jcs consumption]
  let body : DocketIssuanceBodyV1 :=
    { issuance_id := (Digest.hash_domain sha BODY_DIGEST_DOMAIN (.jcs identity)).as_str
      decision_id := call.decision.decision_id
      issuer_principal := call.office.issuer_principal
      issuer_key_id := call.signer.key_id
      decision_context := call.office.context
      principal_chain := call.office.principal_chain
      target_id := call.decision.target_id
      request_source, docket
      issued_at_unix_ms := call.issued_at_unix_ms
      expires_at_unix_ms := call.expires_at_unix_ms
      premises := call.premises
      residual_obligations := call.residual_obligations
      consumption
      decision := "admitted" }
  ⟨ISSUANCE_SCHEMA, body, call.signer.key_id, call.signer.public_key_base64url, call.signer.sign body⟩

/-- The ledger stands beside the result. -/
def IssueCall.issue (call : IssueCall sha) (ledger : IssuanceDecisionLedger) :
    Except IssuanceRefusal DocketIssuanceEnvelopeV1 × IssuanceDecisionLedger :=
  match ledger.consume sha call.decision.decision_id call.office.context with
  | .error refusal => (.error refusal, ledger)
  | .ok (consumption, burned) => (.ok (call.produce consumption), burned)

/-- One call of `issue` on the ledger, labelled with its result. `decide` does not touch it. -/
def IssueStep (ledger : IssuanceDecisionLedger)
    (label : IssueCall sha × Except IssuanceRefusal DocketIssuanceEnvelopeV1) (next : IssuanceDecisionLedger) : Prop :=
  label.1.issue ledger = (label.2, next)

end Office

section Reports

variable {sha : Sha256} {destination : Destination DocketAuthzRequestV1} {call : IssueCall sha}
  {ledger next : IssuanceDecisionLedger} {envelope : DocketIssuanceEnvelopeV1}
  {result : Except IssuanceRefusal DocketIssuanceEnvelopeV1}

/-- The request passed the checks of the office for the target. -/
def DocketIssuanceOffice.Admits (office : DocketIssuanceOffice) (request : DocketAuthzRequestV1)
    (target_id : String) : Prop :=
  request.effect_class = SUPPORTED_EFFECT_CLASS ∧
    ∃ target, office.catalog.match_request request = some target ∧ target.target_id = target_id ∧
      request.requested_actor ∈ target.admitted_actors ∧
      ∀ path ∈ request.allowed_paths, ∃ admitted ∈ target.admitted_path_prefixes, covers admitted path

/-- The envelope names the request, and the bytes it gives the digests of are that request. -/
def DocketIssuanceEnvelopeV1.Reports (sha : Sha256) (destination : Destination DocketAuthzRequestV1)
    (envelope : DocketIssuanceEnvelopeV1) (request : DocketAuthzRequestV1) (request_bytes : List UInt8) : Prop :=
  envelope.body_b64.docket = request.docket ∧
    envelope.body_b64.request_source = request_source sha request request_bytes ∧
    decode_request destination request_bytes = .ok request

/-- The request handed to `issue` states what the decided one stated, its bytes are those
of the decided one, and the office that issues admits that one for the target of the
token, as it does when the token was obtained from it. -/
structure IssueCall.PresentsDecided (destination : Destination DocketAuthzRequestV1) (call : IssueCall sha) :
    Prop where
  docket : call.request.docket = call.decided.docket
  schema : call.request.authz_request_format = call.decided.authz_request_format
  bytes : decode_request destination call.request_bytes = .ok call.decided
  office : call.office.Admits call.decided call.decision.target_id

theorem decide_eq_ok_iff {office : DocketIssuanceOffice} {request : DocketAuthzRequestV1}
    {decision : DocketDecision} : office.decide sha request = .ok decision ↔
      office.Admits request decision.target_id ∧
        ¬ (office.principal_chain = [] ∨ ∃ node ∈ office.principal_chain, node.toList.all is_whitespace = true) ∧
        decision.decision_id = decision_id sha office.context request decision.target_id := by
  simp only [DocketIssuanceOffice.decide, ok_rules]
  constructor
  · rintro ⟨hclass, hchain, target, htarget, hactor, hpaths, rfl⟩
    exact ⟨⟨hclass, target, htarget, rfl, hactor, hpaths⟩, hchain, rfl⟩
  · rintro ⟨⟨hclass, target, htarget, hid, hactor, hpaths⟩, hchain, hdecision⟩
    refine ⟨hclass, hchain, target, htarget, hactor, hpaths, ?_⟩
    obtain ⟨_, _⟩ := decision
    simp_all

theorem consume_spec {decision_id : String} {context : IssuanceDecisionContextV1}
    {consumption : AuthorityConsumptionV1} (hconsume : ledger.consume sha decision_id context =
      .ok (consumption, next)) :
    decision_id ∉ ledger.consumed.map Prod.fst ∧
      next.consumed.map Prod.fst = ledger.consumed.map Prod.fst ++ [decision_id] := by
  simp only [IssuanceDecisionLedger.consume, ok_rules] at hconsume
  obtain ⟨hfresh, heq⟩ := hconsume
  obtain ⟨-, rfl⟩ := Prod.mk.inj heq
  exact ⟨hfresh, by simp⟩

theorem issue_ledger (hstep : IssueStep ledger (call, result) next) :
    (∀ id ∈ ledger.consumed.map Prod.fst, id ∈ next.consumed.map Prod.fst) ∧
      (result.isOk = true → call.decision.decision_id ∉ ledger.consumed.map Prod.fst ∧
        call.decision.decision_id ∈ next.consumed.map Prod.fst) := by
  rw [IssueStep, IssueCall.issue] at hstep
  split at hstep
  · obtain ⟨rfl, rfl⟩ := Prod.mk.inj hstep
    exact ⟨fun _ hid => hid, fun hok => by cases hok⟩
  · next hconsume =>
    obtain ⟨-, rfl⟩ := Prod.mk.inj hstep
    obtain ⟨hfresh, hnext⟩ := consume_spec hconsume
    rw [hnext]
    exact ⟨fun _ hid => List.mem_append_left _ hid, fun _ => ⟨hfresh, by simp⟩⟩

/-- The record is made of the arguments of `issue` and of the token. -/
theorem issue_body (hstep : IssueStep ledger (call, .ok envelope) next) :
    envelope.body_b64.docket = call.request.docket ∧
      envelope.body_b64.request_source = request_source sha call.request call.request_bytes ∧
      envelope.body_b64.decision_id = call.decision.decision_id ∧
      envelope.body_b64.target_id = call.decision.target_id := by
  rw [IssueStep, IssueCall.issue] at hstep
  split at hstep
  · cases (Prod.mk.inj hstep).1
  · rw [← Except.ok.inj (Prod.mk.inj hstep).1]
    exact ⟨rfl, rfl, rfl, rfl⟩

/-- Along a run every decision that has an envelope is in the ledger. -/
theorem issued_consumed {start : IssuanceDecisionLedger}
    {history : List (IssueCall sha × Except IssuanceRefusal DocketIssuanceEnvelopeV1)}
    (hrun : RunPath IssueStep start history ledger) :
    ∀ label ∈ history, label.2.isOk = true → label.1.decision.decision_id ∈ ledger.consumed.map Prod.fst := by
  refine hrun.invariant (fun history ledger => ∀ label ∈ history, label.2.isOk = true →
    label.1.decision.decision_id ∈ ledger.consumed.map Prod.fst) (by simp) ?_
  intro history ledger last next _ hconsumed hstep label hlabel hok
  obtain ⟨hkept, hburned⟩ := issue_ledger hstep
  rcases List.mem_append.mp hlabel with hearlier | hlast
  · exact hkept _ (hconsumed label hearlier hok)
  · obtain rfl := List.mem_singleton.mp hlast
    exact (hburned hok).2

/-- On every ledger an envelope of `issue` reports the request its decision was made for,
and that request passed the checks of the office that issued it, exactly when `issue` was
handed that request, its bytes and a token that this office stands behind. The decided
request always passed the checks of the office that decided it, and no earlier envelope of
the ledger, whatever office issued it, came from the same decision. -/
theorem issuance_reports_decision_iff (destination : Destination DocketAuthzRequestV1)
    {start : IssuanceDecisionLedger}
    {history : List (IssueCall sha × Except IssuanceRefusal DocketIssuanceEnvelopeV1)}
    (hrun : RunPath IssueStep start history ledger) (hstep : IssueStep ledger (call, .ok envelope) next) :
    (envelope.Reports sha destination call.decided call.request_bytes ∧
        call.office.Admits call.decided envelope.body_b64.target_id ↔ call.PresentsDecided destination) ∧
      call.deciding.Admits call.decided envelope.body_b64.target_id ∧
      envelope.body_b64.decision_id = call.decision.decision_id ∧
      ∀ label ∈ history, label.2.isOk = true →
        label.1.decision.decision_id ≠ call.decision.decision_id := by
  obtain ⟨hdocket, hsource, hdecision, htarget⟩ := issue_body hstep
  refine ⟨?_, htarget ▸ (decide_eq_ok_iff.mp call.obtained).1, hdecision, ?_⟩
  · rw [DocketIssuanceEnvelopeV1.Reports, hdocket, hsource, htarget]
    constructor
    · rintro ⟨⟨hdocket, hsource, hbytes⟩, hadmits⟩
      exact ⟨hdocket, congrArg RequestSourceV1.schema hsource, hbytes, hadmits⟩
    · rintro ⟨hdocket, hschema, hbytes, hadmits⟩
      exact ⟨⟨hdocket, by simp [request_source, hschema], hbytes⟩, hadmits⟩
  · intro label hlabel hok heq
    exact ((issue_ledger hstep).2 rfl).1 (heq ▸ issued_consumed hrun label hlabel hok)

end Reports

section Samples

/-- A request for one path. -/
def path_request (path : String) : DocketAuthzRequestV1 where
  authz_request_format := SUPPORTED_REQUEST_SCHEMA
  attempt := "attempt"
  attempt_version := 1
  effect_class := SUPPORTED_EFFECT_CLASS
  prepared_attempt_digest := "prepared"
  repository := "repository"
  target_ref := "refs/heads/main"
  basis := "basis"
  allowed_paths := [path]
  settlement_premises := []
  requested_actor := "actor"
  goal := "goal"
  work_request := "work"
  preparation_run := "run"
  candidate := "candidate"
  candidate_digest := "content"
  request_created_at_ms := 0
  admitted_at_ms := 0

/-- An office with one target, which admits what one text covers. -/
def single_office (admitted : String) : DocketIssuanceOffice where
  catalog := ⟨"catalog", [("main", ⟨"main", "repository", "refs/heads/main", SUPPORTED_EFFECT_CLASS,
    ["actor"], [admitted]⟩)]⟩
  context := ⟨"domain", 0, "nonce", "catalog"⟩
  principal_chain := ["root"]
  issuer_principal := "issuer"

theorem decide_single (sha : Sha256) {admitted path : String} (h : covers admitted path) :
    (single_office admitted).decide sha (path_request path) =
      .ok ⟨decision_id sha (single_office admitted).context (path_request path) "main", "main"⟩ := by
  have hformed : ¬ (["root"] = [] ∨ ∃ node ∈ ["root"], node.toList.all is_whitespace = true) := by decide +kernel
  exact decide_eq_ok_iff.mpr ⟨⟨rfl, _, rfl, rfl, List.mem_singleton_self _, by simpa [path_request] using h⟩,
    hformed, rfl⟩

def sample_request : DocketAuthzRequestV1 := path_request "docs/guide"

def sample_office : DocketIssuanceOffice := single_office "docs"

/-- The request as it is sent. -/
def sample_bytes : List UInt8 := (String.ofList (to_jcs sample_request).text).toByteArray.data.toList

mutual

/-- What a canonical document is read as. -/
def json : Jcs → Json
  | .null => .null
  | .bool value => .bool value
  | .num value => .int value
  | .neg value => .int (.negSucc value)
  | .str value => .str value
  | .digest value => .str value.as_str
  | .uuid value => .str (String.ofList (uuid_text value))
  | .arr items => .arr (json_items items)
  | .obj members => .obj (json_members members)

def json_items : List Jcs → List Json
  | [] => []
  | item :: rest => json item :: json_items rest

def json_members : List (String × Jcs) → List (String × Json)
  | [] => []
  | (name, item) :: rest => (name, json item) :: json_members rest

end

def sample_destination : Destination DocketAuthzRequestV1 where
  read bytes := if bytes = sample_bytes then .ok (json (to_jcs sample_request)) else .error "expected value"
  from_value _ := .ok sample_request
  to_value request := .ok (json (to_jcs request))

theorem utf8_bytes (text : String) : ByteArray.validateUTF8 ⟨text.toByteArray.data.toList.toArray⟩ = true :=
  ByteArray.validateUTF8_eq_true_iff.mpr text.isValidUTF8

theorem sample_decoded : decode_request sample_destination sample_bytes = .ok sample_request := by
  have hread : sample_destination.read sample_bytes = .ok (json (to_jcs sample_request)) := by
    simp [sample_destination]
  have hstrict : strict_json_from_slice sample_destination sample_bytes = .ok sample_request :=
    strict_json_of_read _ (utf8_bytes _) hread (by decide +kernel) rfl rfl (by decide +kernel)
  rw [decode_request, hread, hstrict]
  rfl

variable (sha : Sha256)

theorem sample_covers : covers "docs" "docs/guide" := by
  decide +kernel

def sample_call (request : DocketAuthzRequestV1) (request_bytes : List UInt8) : IssueCall sha :=
  ⟨sample_office, request, request_bytes, _, ⟨"key", "public", fun _ => "signature"⟩, 0, 1, [], ⟨.NoneRecorded, []⟩,
    sample_office, sample_request, decide_single sha sample_covers⟩

theorem sample_presents {bytes : List UInt8} (h : decode_request sample_destination bytes = .ok sample_request) :
    (sample_call sha sample_request bytes).PresentsDecided sample_destination :=
  ⟨rfl, rfl, h, (decide_eq_ok_iff.mp (decide_single sha sample_covers)).1⟩

theorem issue_on_empty {sha : Sha256} (call : IssueCall sha) :
    ∃ consumption next, call.issue ⟨[]⟩ = (.ok (call.produce consumption), next) :=
  ⟨_, _, rfl⟩

theorem issuance_reports_decision_iff_sample :
    ∃ envelope next, (sample_call ideal_sha sample_request sample_bytes).issue ⟨[]⟩ = (.ok envelope, next) ∧
      envelope.Reports ideal_sha sample_destination sample_request sample_bytes := by
  have hdecoded := sample_decoded
  generalize sample_bytes = bytes at hdecoded ⊢
  obtain ⟨_, next, hstep⟩ := issue_on_empty (sample_call ideal_sha sample_request bytes)
  exact ⟨_, next, hstep, ((issuance_reports_decision_iff sample_destination .nil hstep).1.mpr
    (sample_presents ideal_sha hdecoded)).1⟩

/-- A token for one reference, presented with a request for another: the envelope
names the reference that was not decided and that the office refuses. -/
theorem other_request_issued :
    ∃ envelope next, (sample_call ideal_sha { sample_request with target_ref := "refs/heads/release" }
        sample_bytes).issue ⟨[]⟩ = (.ok envelope, next) ∧
      envelope.body_b64.docket.target_ref = "refs/heads/release" ∧
      sample_request.docket.target_ref ≠ "refs/heads/release" ∧
      ¬ envelope.Reports ideal_sha sample_destination sample_request sample_bytes ∧
      sample_office.decide ideal_sha { sample_request with target_ref := "refs/heads/release" } =
        .error (.TargetNotInCatalog "repository" "refs/heads/release") := by
  obtain ⟨_, next, hstep⟩ := issue_on_empty
    (sample_call ideal_sha { sample_request with target_ref := "refs/heads/release" } sample_bytes)
  refine ⟨_, next, hstep, rfl, by decide, fun hreports => ?_, rfl⟩
  have hreference : "refs/heads/release" = "refs/heads/main" := congrArg DocketBindingV1.target_ref hreports.1
  exact absurd hreference (by decide)

end Samples

section Scope

/-- What the text of a path means from a directory, as components: an empty or `.`
component stays, and `..` takes back the component before it if there is one. -/
def walk (directory : List String) (path : String) : List String :=
  (path.toList.splitOn '/').foldl (fun resolved component =>
    if component = [] ∨ component = ['.'] then resolved
    else if component = ['.', '.'] ∧ resolved ≠ [] ∧ resolved.getLast? ≠ some ".." then resolved.dropLast
    else resolved ++ [String.ofList component]) directory

/-- The lexical resolution of a path. -/
def resolve (path : String) : List String :=
  walk [] path

/-- Of two resolved paths, the second is the first or lies below it. -/
def Contains (directory path : List String) : Prop :=
  ∃ rest, path = directory ++ rest ∧ ".." ∉ rest

/-- The path lies in what the matched target admits. -/
def DocketIssuanceOffice.Confines (office : DocketIssuanceOffice) (request : DocketAuthzRequestV1)
    (path : String) : Prop :=
  ∃ target, office.catalog.match_request request = some target ∧
    ∃ admitted ∈ target.admitted_path_prefixes, Contains (resolve admitted) (resolve path)

/-- Behind a slash, a path goes on from what stands before it. -/
theorem resolve_append (leading rest : String) :
    resolve (leading ++ "/" ++ rest) = walk (resolve leading) rest := by
  have hsplit : (leading ++ "/" ++ rest).toList.splitOn '/' =
      leading.toList.splitOn '/' ++ rest.toList.splitOn '/' := by
    rw [String.toList_append, String.toList_append, List.append_assoc]
    exact List.splitOnP_append_cons _ _ (by decide)
  rw [resolve, walk, hsplit, List.foldl_append]
  rfl

theorem covers_iff {admitted path : String} :
    covers admitted path ↔ path = admitted ∨ ∃ rest, path = admitted ++ "/" ++ rest := by
  refine or_congr_right ⟨fun ⟨rest, hrest⟩ => ⟨String.ofList rest, ?_⟩, ?_⟩
  · apply String.toList_injective
    rw [String.toList_append, String.toList_ofList, hrest]
  · rintro ⟨rest, rfl⟩
    exact ⟨rest.toList, String.toList_append.symm⟩

/-- From the directory that the admitted text names, what the path has behind it leads to
that directory or below. -/
def StaysBelow (admitted path : String) : Prop :=
  path = admitted ∨ ∃ rest, path = admitted ++ "/" ++ rest ∧ Contains (resolve admitted) (walk (resolve admitted) rest)

theorem staysBelow_iff {admitted path : String} :
    StaysBelow admitted path ↔ covers admitted path ∧ Contains (resolve admitted) (resolve path) := by
  rw [covers_iff]
  constructor
  · rintro (rfl | ⟨rest, rfl, hrest⟩)
    · exact ⟨.inl rfl, [], (List.append_nil _).symm, List.not_mem_nil⟩
    · exact ⟨.inr ⟨rest, rfl⟩, resolve_append admitted rest ▸ hrest⟩
  · rintro ⟨rfl | ⟨rest, rfl⟩, hcontains⟩
    · exact .inl rfl
    · exact .inr ⟨rest, rfl, resolve_append admitted rest ▸ hcontains⟩

/-- Whatever the catalog and the rest of a request, a path is confined exactly when it
never leaves what its own text passes: behind every slash it stays below what stands
before it. -/
theorem always_confined_iff (path : String) :
    (∀ (sha : Sha256) (office : DocketIssuanceOffice) (request : DocketAuthzRequestV1)
      (decision : DocketDecision), office.decide sha request = .ok decision → path ∈ request.allowed_paths →
      office.Confines request path) ↔
    ∀ admitted, covers admitted path → StaysBelow admitted path := by
  constructor
  · intro hconfined admitted hcovers
    obtain ⟨target, htarget, other, hother, hcontains⟩ :=
      hconfined _ _ _ _ (decide_single ideal_sha hcovers) (List.mem_singleton_self _)
    cases htarget
    obtain rfl := List.mem_singleton.mp hother
    exact staysBelow_iff.mpr ⟨hcovers, hcontains⟩
  · intro hstays sha office request decision hdecide hmem
    obtain ⟨⟨_, target, htarget, _, _, hpaths⟩, _⟩ := decide_eq_ok_iff.mp hdecide
    obtain ⟨admitted, hadmitted, hcovers⟩ := hpaths path hmem
    exact ⟨target, htarget, admitted, hadmitted, (staysBelow_iff.mp (hstays admitted hcovers)).2⟩

end Scope

end ag_app.docket_issuance

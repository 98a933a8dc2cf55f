import AgentGovernor.Effect.Proposal
import AgentGovernor.Lib.Path
import AgentGovernor.Primitives.Written

open Checked ag_primitives ag_effect

namespace ag_app.derived

variable {V S : Type}

section Records

def DERIVED_SCOPE_SCHEMA_V1 : String := "ag.derived-promotion-scope/v1"
def DERIVED_VERIFIER_REQUEST_SCHEMA_V1 : String := "ag.derived-promotion-verifier-request/v1"
def DERIVED_VERIFIER_RECEIPT_SCHEMA_V1 : String := "ag.derived-promotion-verifier-receipt/v1"
def DERIVED_AUTHORIZATION_SCHEMA_V1 : String := "ag.derived-promotion-authorization/v1"

structure PinnedPromotionVerifierIdentityV1 where
  executable : ExecutableIdentityV1
  launch_profile : LaunchProfileIdentityV1
  deriving DecidableEq

/-- Expected result of one hostile specimen. -/
inductive ExpectedVerifierOutcomeV1 where
  | Entailed | NotEntailed
  deriving DecidableEq

def ExpectedVerifierOutcomeV1.as_str : ExpectedVerifierOutcomeV1 → String
  | Entailed => "entailed"
  | NotEntailed => "not_entailed"

inductive VerifierOutcomeClassV1 where
  | Entailed | NotEntailed | Unknown
  deriving DecidableEq

def VerifierOutcomeClassV1.as_str : VerifierOutcomeClassV1 → String
  | Entailed => "entailed"
  | NotEntailed => "not_entailed"
  | Unknown => "unknown"

def ExpectedVerifierOutcomeV1.matches : ExpectedVerifierOutcomeV1 → VerifierOutcomeClassV1 → Bool
  | Entailed, .Entailed => true
  | NotEntailed, .NotEntailed => true
  | _, _ => false

inductive PromotionVerifierJudgmentV1 where
  | Entailed (evidence : Digest)
  | NotEntailed (evidence : Digest)
  | Unknown (evidence : Digest)

def PromotionVerifierJudgmentV1.outcome : PromotionVerifierJudgmentV1 → VerifierOutcomeClassV1
  | Entailed _ => .Entailed
  | NotEntailed _ => .NotEntailed
  | Unknown _ => .Unknown

def PromotionVerifierJudgmentV1.evidence : PromotionVerifierJudgmentV1 → Digest
  | Entailed evidence | NotEntailed evidence | Unknown evidence => evidence

/-- A human-installed scope. Sets and the specimen map are lists in ascending order; the keys
of the map differ. -/
structure DerivedPromotionScopeBodyV1 where
  schema : String
  authority_domain : AuthorityDomainId
  epoch : EpochId
  catalog_identity : Digest
  allowed_targets : List TargetId
  verifier : PinnedPromotionVerifierIdentityV1
  verifier_semantics : Digest
  hostile_specimens : List (Digest × ExpectedVerifierOutcomeV1)
  specimens_differ : (hostile_specimens.map Prod.fst).Nodup
  adapter_roots : List PrincipalId
  separation : PrincipalSeparationPredicateV1
  not_before_unix_ms : UInt64
  expires_unix_ms : UInt64
  max_uses : UInt32
  deriving DecidableEq

structure DerivedPromotionScopeV1 where
  digest : Digest
  body : DerivedPromotionScopeBodyV1
  deriving DecidableEq

structure DerivedVerifierRequestV1 where
  schema : String
  invocation_nonce : Digest
  scope : Digest
  canonical_proposal : CanonicalEffectProposalV1
  catalog_identity : Digest
  judgment : Digest
  adapter_chain : Digest
  verifier_semantics : Digest
  hostile_specimen_catalog : Digest

structure HostileSpecimenResultV1 where
  specimen : Digest
  observed : VerifierOutcomeClassV1
  evidence : Digest

structure DerivedVerifierReceiptBodyV1 where
  schema : String
  request : Digest
  invocation_nonce : Digest
  scope : Digest
  proposal : Digest
  catalog_identity : Digest
  judgment : Digest
  adapter_chain : Digest
  verifier : PinnedPromotionVerifierIdentityV1
  verifier_semantics : Digest
  hostile_specimen_catalog : Digest
  proposal_judgment : PromotionVerifierJudgmentV1
  hostile_specimen_results : List HostileSpecimenResultV1

structure DerivedVerifierReceiptV1 where
  digest : Digest
  body : DerivedVerifierReceiptBodyV1

structure DerivedReceiptBurnV1 where
  scope : Digest
  proposal : Digest
  verifier_receipt : Digest
  invocation_nonce : Digest
  adapter_chain : Digest

structure DerivedAuthorizationEvidenceV1 where
  schema : String
  scope : Digest
  proposal : Digest
  verifier_receipt : Digest
  burn_receipt : Digest
  adapter_chain : Digest
  ratification : RatificationV1

section Documents

/-- The specimens of a scope are an object under the texts of their digests. -/
structure SpecimenMap where
  specimens : List (Digest × ExpectedVerifierOutcomeV1)

instance : Serialize SpecimenMap := ⟨fun map =>
  .obj (map.specimens.map fun entry => (entry.1.as_str, to_jcs entry.2.as_str))⟩

instance : Serialize PinnedPromotionVerifierIdentityV1 := ⟨fun verifier =>
  .obj [("executable", to_jcs verifier.executable), ("launch_profile", to_jcs verifier.launch_profile)]⟩

instance : Serialize DerivedPromotionScopeBodyV1 := ⟨fun body =>
  .obj [("adapter_roots", to_jcs body.adapter_roots), ("allowed_targets", to_jcs body.allowed_targets),
    ("authority_domain", to_jcs body.authority_domain), ("catalog_identity", to_jcs body.catalog_identity),
    ("epoch", to_jcs body.epoch), ("expires_unix_ms", to_jcs body.expires_unix_ms),
    ("hostile_specimens", to_jcs (SpecimenMap.mk body.hostile_specimens)), ("max_uses", to_jcs body.max_uses),
    ("not_before_unix_ms", to_jcs body.not_before_unix_ms), ("schema", to_jcs body.schema),
    ("separation", to_jcs body.separation), ("verifier", to_jcs body.verifier),
    ("verifier_semantics", to_jcs body.verifier_semantics)]⟩

instance : Serialize DerivedVerifierRequestV1 := ⟨fun request =>
  .obj [("adapter_chain", to_jcs request.adapter_chain), ("canonical_proposal", to_jcs request.canonical_proposal),
    ("catalog_identity", to_jcs request.catalog_identity),
    ("hostile_specimen_catalog", to_jcs request.hostile_specimen_catalog),
    ("invocation_nonce", to_jcs request.invocation_nonce), ("judgment", to_jcs request.judgment),
    ("schema", to_jcs request.schema), ("scope", to_jcs request.scope),
    ("verifier_semantics", to_jcs request.verifier_semantics)]⟩

instance : Serialize PromotionVerifierJudgmentV1 := ⟨fun judgment =>
  .obj [("evidence", to_jcs judgment.evidence), ("outcome", to_jcs judgment.outcome.as_str)]⟩

instance : Serialize HostileSpecimenResultV1 := ⟨fun result =>
  .obj [("evidence", to_jcs result.evidence), ("observed", to_jcs result.observed.as_str),
    ("specimen", to_jcs result.specimen)]⟩

instance : Serialize DerivedVerifierReceiptBodyV1 := ⟨fun body =>
  .obj [("adapter_chain", to_jcs body.adapter_chain), ("catalog_identity", to_jcs body.catalog_identity),
    ("hostile_specimen_catalog", to_jcs body.hostile_specimen_catalog),
    ("hostile_specimen_results", to_jcs body.hostile_specimen_results),
    ("invocation_nonce", to_jcs body.invocation_nonce), ("judgment", to_jcs body.judgment),
    ("proposal", to_jcs body.proposal), ("proposal_judgment", to_jcs body.proposal_judgment),
    ("request", to_jcs body.request), ("schema", to_jcs body.schema), ("scope", to_jcs body.scope),
    ("verifier", to_jcs body.verifier), ("verifier_semantics", to_jcs body.verifier_semantics)]⟩

end Documents

inductive DerivedReceiptBurnError where
  | ScopeBindingMismatch
  | ReceiptAlreadyUsed
  | ProposalAlreadyUsed
  | InvocationAlreadyUsed
  | ScopeExhausted
  | Indeterminate (evidence : Digest)

inductive DerivedAuthorityError where
  | InvalidScope
  | ScopeDigestMismatch
  | ScopeNotCurrentlyValid
  | ProposalDigestMismatch
  | ProposalSchemaMismatch
  | AuthorityContextMismatch
  | CatalogNotInScope
  | EmptyProposal
  | NonPromotionEffect
  | TargetNotInScope
  | AdapterNotAdmitted
  | AdapterNotService
  | PrincipalChainsNotIndependent
  | VerifierIdentityMismatch
  | VerifierInvocationIndeterminate (evidence : Digest)
  | VerifierReceiptDigestMismatch
  | VerifierReceiptBindingMismatch
  | VerifierDidNotEntail
  | HostileSpecimenSetMismatch
  | HostileSpecimenFailed
  | Canonicalization (detail : String)
  | Burn (error : DerivedReceiptBurnError)

end Records

section Boundaries

/-- A pinned verifier: its admitted identity, and an arbitrary answer to each request. -/
structure PinnedPromotionVerifier (V : Type) where
  identity : V → PinnedPromotionVerifierIdentityV1
  verify : DerivedVerifierRequestV1 → V → Except Digest DerivedVerifierReceiptV1 × V

/-- The uses of a scope among the committed burns. -/
def uses (scope : DerivedPromotionScopeV1) (burns : List DerivedReceiptBurnV1) : Nat :=
  burns.countP fun burn => burn.scope = scope.digest

/-- No receipt, proposal or nonce is shared. -/
def DerivedReceiptBurnV1.Unrelated (earlier later : DerivedReceiptBurnV1) : Prop :=
  earlier.verifier_receipt ≠ later.verifier_receipt ∧ earlier.proposal ≠ later.proposal ∧
    earlier.invocation_nonce ≠ later.invocation_nonce

instance (earlier later : DerivedReceiptBurnV1) : Decidable (earlier.Unrelated later) :=
  inferInstanceAs (Decidable (_ ∧ _))

/-- What the ledger requires before it commits a burn. -/
structure Burnable (scope : DerivedPromotionScopeV1) (burn : DerivedReceiptBurnV1)
    (burns : List DerivedReceiptBurnV1) : Prop where
  bound : burn.scope = scope.digest
  unique : ∀ earlier ∈ burns, earlier.Unrelated burn
  remaining : uses scope burns < scope.body.max_uses.toNat

/-- The documented contract of the burn ledger: a burn is committed as a whole or not
at all, and only an indeterminate failure may leave it committed. -/
structure DerivedReceiptBurnStore (S : Type) where
  burn_once : DerivedPromotionScopeV1 → DerivedReceiptBurnV1 → S → Except DerivedReceiptBurnError Digest × S
  burns : S → List DerivedReceiptBurnV1
  committed : ∀ scope burn store receipt next, burn_once scope burn store = (.ok receipt, next) →
    Burnable scope burn (burns store) ∧ burns next = burns store ++ [burn]
  atomic : ∀ scope burn store error next, burn_once scope burn store = (.error error, next) →
    burns next = burns store ∨
      (∃ evidence, error = .Indeterminate evidence) ∧ Burnable scope burn (burns store) ∧
        burns next = burns store ++ [burn]

end Boundaries

section Validator

def digest_value {A : Type} [Serialize A] (sha : Sha256) (domain : String) (value : A) :
    Except DerivedAuthorityError Digest := do
  let document ← map_err (JcsDocument.canonicalize value) fun error => .Canonicalization error.to_string
  pure (Digest.hash_domain sha domain (.jcs document))

def validate_scope_body (body : DerivedPromotionScopeBodyV1) : Except DerivedAuthorityError Unit :=
  reject (body.schema ≠ DERIVED_SCOPE_SCHEMA_V1 ∨ body.allowed_targets = [] ∨ body.hostile_specimens = [] ∨
    body.adapter_roots = [] ∨ body.not_before_unix_ms ≥ body.expires_unix_ms ∨ body.max_uses = 0 ∨
    body.verifier.executable.size = 0) .InvalidScope

def DerivedPromotionScopeV1.verify (sha : Sha256) (scope : DerivedPromotionScopeV1) :
    Except DerivedAuthorityError Unit := do
  validate_scope_body scope.body
  let observed ← digest_value sha "ag-ng/derived-promotion-scope/v1" scope.body
  reject (observed ≠ scope.digest) .ScopeDigestMismatch

def DerivedVerifierRequestV1.digest (sha : Sha256) (request : DerivedVerifierRequestV1) :
    Except DerivedAuthorityError Digest :=
  digest_value sha "ag-ng/derived-promotion-verifier-request/v1" request

def DerivedVerifierReceiptV1.verify_digest (sha : Sha256) (receipt : DerivedVerifierReceiptV1) :
    Except DerivedAuthorityError Unit := do
  let observed ← digest_value sha "ag-ng/derived-promotion-verifier-receipt/v1" receipt.body
  reject (observed ≠ receipt.digest) .VerifierReceiptDigestMismatch

def validate_adapter (scope : DerivedPromotionScopeBodyV1) (proposal : CanonicalProposalBodyV1)
    (adapter : PrincipalChainV1) : Except DerivedAuthorityError Unit := do
  reject (adapter.authority_domain ≠ scope.authority_domain ∨ adapter.epoch ≠ scope.epoch ∨
    proposal.authority_domain ≠ scope.authority_domain ∨ proposal.epoch ≠ scope.epoch) .AuthorityContextMismatch
  reject (adapter.leaf.kind ≠ .Service) .AdapterNotService
  reject (adapter.root.principal_id ∉ scope.adapter_roots) .AdapterNotAdmitted
  map_err (proposal.proposer.satisfies adapter scope.separation) fun _ => .PrincipalChainsNotIndependent

/-- The loop over the specimen results, with the specimens seen so far. -/
def validate_specimens (specimens : List (Digest × ExpectedVerifierOutcomeV1)) :
    List Digest → List HostileSpecimenResultV1 → Except DerivedAuthorityError (List Digest)
  | seen, [] => pure seen
  | seen, result :: results => do
    reject (seen.contains result.specimen = true) .HostileSpecimenSetMismatch
    let expected ← ok_or (specimens.find? fun entry => entry.1 = result.specimen) .HostileSpecimenSetMismatch
    reject (expected.2.matches result.observed = false) .HostileSpecimenFailed
    validate_specimens specimens (result.specimen :: seen) results

def validate_verifier_receipt (sha : Sha256) (scope : DerivedPromotionScopeBodyV1)
    (request : DerivedVerifierRequestV1) (verifier : PinnedPromotionVerifierIdentityV1)
    (receipt : DerivedVerifierReceiptV1) : Except DerivedAuthorityError Unit := do
  receipt.verify_digest sha
  let body := receipt.body
  let request_digest ← request.digest sha
  reject (body.schema ≠ DERIVED_VERIFIER_RECEIPT_SCHEMA_V1 ∨ body.request ≠ request_digest ∨
    body.invocation_nonce ≠ request.invocation_nonce ∨ body.scope ≠ request.scope ∨
    body.proposal ≠ request.canonical_proposal.digest ∨ body.catalog_identity ≠ request.catalog_identity ∨
    body.judgment ≠ request.judgment ∨ body.adapter_chain ≠ request.adapter_chain ∨ body.verifier ≠ verifier ∨
    body.verifier ≠ scope.verifier ∨ body.verifier_semantics ≠ request.verifier_semantics ∨
    body.hostile_specimen_catalog ≠ request.hostile_specimen_catalog) .VerifierReceiptBindingMismatch
  reject (body.proposal_judgment.outcome ≠ .Entailed) .VerifierDidNotEntail
  reject (body.hostile_specimen_results.length ≠ scope.hostile_specimens.length) .HostileSpecimenSetMismatch
  let seen ← validate_specimens scope.hostile_specimens [] body.hostile_specimen_results
  reject (seen.length ≠ scope.hostile_specimens.length) .HostileSpecimenSetMismatch

/-- What a call of the validator returns. -/
abbrev Validated : Type := Except DerivedAuthorityError DerivedAuthorizationEvidenceV1

/-- One call of `validate_and_burn` on the validator of a scope. -/
structure ValidateCall where
  scope : DerivedPromotionScopeV1
  proposal : CanonicalEffectProposalV1
  authenticated_adapter : PrincipalChainV1
  invocation_nonce : Digest
  now_unix_ms : UInt64

namespace ValidateCall

/-- The checks before the verifier is asked, and the request it is then asked. -/
def verifier_request (sha : Sha256) (identity : PinnedPromotionVerifierIdentityV1)
    (call : ValidateCall) : Except DerivedAuthorityError (DerivedVerifierRequestV1) := do
  call.scope.verify sha
  let scope := call.scope.body
  reject (call.now_unix_ms < scope.not_before_unix_ms ∨ call.now_unix_ms ≥ scope.expires_unix_ms)
    .ScopeNotCurrentlyValid
  map_err (call.proposal.verify_digest sha) fun _ => .ProposalDigestMismatch
  let body := call.proposal.body
  reject (body.schema ≠ EFFECT_SCHEMA_V1 ∨ body.catalog_schema ≠ EFFECT_CATALOG_SCHEMA_V1) .ProposalSchemaMismatch
  reject (body.authority_domain ≠ scope.authority_domain ∨ body.epoch ≠ scope.epoch ∨
    body.proposer.authority_domain ≠ body.authority_domain ∨ body.proposer.epoch ≠ body.epoch)
    .AuthorityContextMismatch
  reject (body.catalog_identity ≠ scope.catalog_identity) .CatalogNotInScope
  reject (body.effects.isEmpty = true) .EmptyProposal
  body.effects.forM fun effect => do
    reject (effect.family ≠ .CodePromotion) .NonPromotionEffect
    reject (effect.target ∉ scope.allowed_targets) .TargetNotInScope
  validate_adapter scope body call.authenticated_adapter
  reject (identity ≠ scope.verifier) .VerifierIdentityMismatch
  let hostile_specimen_catalog ← digest_value sha "ag-ng/derived-promotion-hostile-specimens/v1"
    (SpecimenMap.mk scope.hostile_specimens)
  pure ⟨DERIVED_VERIFIER_REQUEST_SCHEMA_V1, call.invocation_nonce, call.scope.digest, call.proposal,
    body.catalog_identity, body.judgment, call.authenticated_adapter.id sha, scope.verifier_semantics,
    hostile_specimen_catalog⟩

def burn (sha : Sha256) (call : ValidateCall) (verifier_receipt : Digest) : DerivedReceiptBurnV1 :=
  ⟨call.scope.digest, call.proposal.digest, verifier_receipt, call.invocation_nonce,
    call.authenticated_adapter.id sha⟩

def evidence (sha : Sha256) (call : ValidateCall) (verifier_receipt burn_receipt : Digest) :
    DerivedAuthorizationEvidenceV1 :=
  ⟨DERIVED_AUTHORIZATION_SCHEMA_V1, call.scope.digest, call.proposal.digest, verifier_receipt, burn_receipt,
    call.authenticated_adapter.id sha,
    .DerivedCodePromotion call.proposal.digest call.scope.body.verifier.executable.sha256
      call.scope.body.verifier.launch_profile.profile_digest verifier_receipt call.authenticated_adapter⟩

def validate_and_burn (sha : Sha256) (verifier : PinnedPromotionVerifier V)
    (burns : DerivedReceiptBurnStore S) (call : ValidateCall) (state : V × S) :
    Validated × (V × S) :=
  match call.verifier_request sha (verifier.identity state.1) with
  | .error error => (.error error, state)
  | .ok request =>
    match verifier.verify request state.1 with
    | (.error failure, asked) => (.error (.VerifierInvocationIndeterminate failure), (asked, state.2))
    | (.ok receipt, asked) =>
      match validate_verifier_receipt sha call.scope.body request (verifier.identity asked) receipt with
      | .error error => (.error error, (asked, state.2))
      | .ok () =>
        let burned := burns.burn_once call.scope (call.burn sha receipt.digest) state.2
        (call.evidence sha receipt.digest <$> map_err burned.1 .Burn, (asked, burned.2))

end ValidateCall

/-- One call, labelled with its result, on a verifier and a burn ledger. -/
def ValidateStep (sha : Sha256) (verifier : PinnedPromotionVerifier V)
    (burns : DerivedReceiptBurnStore S) (state : V × S) (label : ValidateCall × Validated) (next : V × S) : Prop :=
  label.1.validate_and_burn sha verifier burns state = (label.2, next)

end Validator

section Authority

variable {sha : Sha256} {scope : DerivedPromotionScopeBodyV1} {request : DerivedVerifierRequestV1}
  {identity : PinnedPromotionVerifierIdentityV1} {receipt : DerivedVerifierReceiptV1} {call : ValidateCall}

/-- Every specimen of the loop is new, is one of the scope, and was answered as expected. -/
theorem validate_specimens_eq_ok {specimens : List (Digest × ExpectedVerifierOutcomeV1)}
    {results : List HostileSpecimenResultV1} {seen final : List Digest}
    (h : validate_specimens specimens seen results = .ok final) :
    (results.map (·.specimen)).Nodup ∧ ∀ result ∈ results, result.specimen ∉ seen ∧
      ∃ expected, (result.specimen, expected) ∈ specimens ∧ expected.matches result.observed = true := by
  induction results generalizing seen with
  | nil => exact ⟨.nil, by simp⟩
  | cons result results ih =>
    simp only [validate_specimens, ok_rules, List.contains_iff_mem, Bool.not_eq_false] at h
    obtain ⟨hunseen, entry, hentry, hmatches, hrest⟩ := h
    obtain ⟨hnodup, hresults⟩ := ih hrest
    have hkey : entry.1 = result.specimen := by simpa using List.find?_some hentry
    refine ⟨List.nodup_cons.mpr ⟨?_, hnodup⟩, List.forall_mem_cons.mpr ⟨⟨hunseen, entry.2, ?_, hmatches⟩, ?_⟩⟩
    · intro hagain
      obtain ⟨other, hother, hsame⟩ := List.mem_map.mp hagain
      exact (hresults other hother).1 (hsame ▸ List.mem_cons_self)
    · rw [← hkey]
      exact List.mem_of_find?_eq_some hentry
    · intro other hother
      exact (hresults other hother).imp_left (mt (List.mem_cons_of_mem _))

/-- The receipt is bound to the request, entails it, and answers every specimen of the
scope once, as expected. -/
structure DerivedVerifierReceiptV1.Entails (sha : Sha256) (scope : DerivedPromotionScopeBodyV1)
    (request : DerivedVerifierRequestV1) (receipt : DerivedVerifierReceiptV1) : Prop where
  digest : digest_value sha "ag-ng/derived-promotion-verifier-receipt/v1" receipt.body = .ok receipt.digest
  requested : request.digest sha = .ok receipt.body.request
  echoed : receipt.body.invocation_nonce = request.invocation_nonce ∧ receipt.body.scope = request.scope ∧
    receipt.body.proposal = request.canonical_proposal.digest ∧
    receipt.body.catalog_identity = request.catalog_identity ∧ receipt.body.judgment = request.judgment ∧
    receipt.body.adapter_chain = request.adapter_chain ∧ receipt.body.verifier = scope.verifier ∧
    receipt.body.verifier_semantics = request.verifier_semantics ∧
    receipt.body.hostile_specimen_catalog = request.hostile_specimen_catalog
  entailed : receipt.body.proposal_judgment.outcome = .Entailed
  specimens : (receipt.body.hostile_specimen_results.map (·.specimen)).Perm (scope.hostile_specimens.map Prod.fst)
  expected : ∀ result ∈ receipt.body.hostile_specimen_results,
    ∃ expected, (result.specimen, expected) ∈ scope.hostile_specimens ∧ expected.matches result.observed = true

theorem entails_of_valid (h : validate_verifier_receipt sha scope request identity receipt = .ok ()) :
    receipt.Entails sha scope request := by
  simp only [validate_verifier_receipt, DerivedVerifierReceiptV1.verify_digest, ok_rules] at h
  obtain ⟨⟨_, hdigest, rfl⟩, _, hrequest, hbindings, hentailed, hlength, _, hspecimens, _⟩ := h
  obtain ⟨_, rfl, hnonce, hscope, hproposal, hcatalog, hjudgment, hadapter, _, hverifier, hechoed⟩ := hbindings
  obtain ⟨hnodup, hexpected⟩ := validate_specimens_eq_ok hspecimens
  refine ⟨hdigest, hrequest, ⟨hnonce, hscope, hproposal, hcatalog, hjudgment, hadapter, hverifier, hechoed⟩, hentailed,
    (List.subperm_of_subset hnodup ?_).perm_of_length_le (by simp [hlength]), fun result hresult =>
      (hexpected result hresult).2⟩
  intro specimen hmem
  obtain ⟨result, hresult, rfl⟩ := List.mem_map.mp hmem
  obtain ⟨_, expected, hexpected, _⟩ := hexpected result hresult
  exact List.mem_map_of_mem hexpected

/-- What a request is only made for. -/
structure ValidateCall.Admitted (sha : Sha256) (call : ValidateCall)
    (request : DerivedVerifierRequestV1) : Prop where
  window : call.scope.body.not_before_unix_ms ≤ call.now_unix_ms ∧ call.now_unix_ms < call.scope.body.expires_unix_ms
  promotes : ∀ effect ∈ call.proposal.body.effects,
    effect.family = .CodePromotion ∧ effect.target ∈ call.scope.body.allowed_targets
  root : call.authenticated_adapter.root.principal_id ∈ call.scope.body.adapter_roots
  separated : call.proposal.body.proposer.satisfies call.authenticated_adapter call.scope.body.separation = .ok ()
  exact : request.scope = call.scope.digest ∧ request.canonical_proposal = call.proposal ∧
    request.invocation_nonce = call.invocation_nonce ∧
    request.adapter_chain = call.authenticated_adapter.id sha

theorem admitted_of_requested (h : call.verifier_request sha identity = .ok request) :
    call.Admitted sha request := by
  simp only [ValidateCall.verifier_request, validate_adapter, ok_rules, UInt64.not_lt, ge_iff_le, UInt64.not_le] at h
  obtain ⟨_, hwindow, _, _, _, _, _, heffects, ⟨_, _, hroot, hseparated⟩, _, _, _, rfl⟩ := h
  exact ⟨hwindow, heffects, hroot, hseparated, rfl, rfl, rfl, rfl⟩

end Authority

section Burns

variable {sha : Sha256} {verifier : PinnedPromotionVerifier V} {burns : DerivedReceiptBurnStore S}
  {state next first last : V × S} {call : ValidateCall}
  {result : Validated} {evidence : DerivedAuthorizationEvidenceV1}

/-- A call fails before the burn, or its result is what the burn of a valid receipt
answers. -/
theorem step_cases (h : ValidateStep sha verifier burns state (call, result) next) :
    (next.2 = state.2 ∧ ∃ error, result = .error error) ∨
      ∃ request receipt answer, call.verifier_request sha (verifier.identity state.1) = .ok request ∧
        verifier.verify request state.1 = (.ok receipt, next.1) ∧
        validate_verifier_receipt sha call.scope.body request (verifier.identity next.1) receipt = .ok () ∧
        burns.burn_once call.scope (call.burn sha receipt.digest) state.2 = (answer, next.2) ∧
        result = (call.evidence sha receipt.digest) <$> map_err answer .Burn := by
  rw [ValidateStep, ValidateCall.validate_and_burn] at h
  dsimp only at h
  split at h
  · obtain ⟨rfl, rfl⟩ := Prod.mk.inj h
    exact .inl ⟨rfl, _, rfl⟩
  · next request hrequest =>
    split at h
    · obtain ⟨rfl, rfl⟩ := Prod.mk.inj h
      exact .inl ⟨rfl, _, rfl⟩
    · next receipt asked hverified =>
      split at h
      · obtain ⟨rfl, rfl⟩ := Prod.mk.inj h
        exact .inl ⟨rfl, _, rfl⟩
      · next hvalid =>
        obtain ⟨rfl, rfl⟩ := Prod.mk.inj h
        exact .inr ⟨request, receipt, _, hrequest, hverified, hvalid, rfl, rfl⟩

theorem step_committed (h : ValidateStep sha verifier burns state (call, .ok evidence) next) :
    Burnable call.scope (call.burn sha evidence.verifier_receipt) (burns.burns state.2) ∧
      burns.burns next.2 = burns.burns state.2 ++ [call.burn sha evidence.verifier_receipt] := by
  obtain ⟨_, _, herror⟩ | ⟨_, receipt, answer, _, _, _, hburned, hresult⟩ := step_cases h
  · cases herror
  · obtain ⟨_, hanswer, rfl⟩ := map_eq_ok_iff.mp hresult.symm
    obtain rfl := map_err_eq_ok_iff.mp hanswer
    exact burns.committed _ _ _ _ _ hburned

/-- No call takes a burn back. -/
theorem step_grows (h : ValidateStep sha verifier burns state (call, result) next) :
    ∃ added, burns.burns next.2 = burns.burns state.2 ++ added := by
  obtain ⟨hsame, _⟩ | ⟨_, _, answer, _, _, _, hburned, _⟩ := step_cases h
  · exact ⟨[], by rw [hsame, List.append_nil]⟩
  · cases answer with
    | ok => exact ⟨_, (burns.committed _ _ _ _ _ hburned).2⟩
    | error =>
      obtain hsame | ⟨_, _, hadded⟩ := burns.atomic _ _ _ _ _ hburned
      · exact ⟨[], by rw [hsame, List.append_nil]⟩
      · exact ⟨_, hadded⟩

/-- The burn of a call that succeeded. -/
def burned (sha : Sha256) : ValidateCall × Validated → Option DerivedReceiptBurnV1
  | (call, .ok evidence) => some (call.burn sha evidence.verifier_receipt)
  | (_, .error _) => none

/-- The number of calls that succeeded under a scope. -/
def successes (scope : DerivedPromotionScopeV1) (history : List (ValidateCall × Validated)) : Nat :=
  history.countP fun label => label.1.scope = scope ∧ label.2.isOk = true

variable {history : List (ValidateCall × Validated)}

theorem uses_append (scope : DerivedPromotionScopeV1) (earlier added : List DerivedReceiptBurnV1) :
    uses scope (earlier ++ added) = uses scope earlier + uses scope added :=
  List.countP_append

theorem successes_append (scope : DerivedPromotionScopeV1) :
    successes scope (history ++ [(call, result)]) =
      successes scope history + if call.scope = scope ∧ result.isOk = true then 1 else 0 := by
  simp [successes, List.countP_append, List.countP_singleton]

/-- The burns of the calls that succeeded are in the ledger, unrelated and within the uses
of their scopes. -/
theorem run_committed (hrun : RunPath (ValidateStep sha verifier burns) first history last) :
    (history.filterMap (burned sha)).Sublist (burns.burns last.2) ∧
      (history.filterMap (burned sha)).Pairwise DerivedReceiptBurnV1.Unrelated ∧
      ∀ scope, successes scope history ≤ uses scope (burns.burns last.2) ∧
        successes scope history ≤ scope.body.max_uses.toNat := by
  induction hrun with
  | nil => simp [successes]
  | @snoc history middle last label _ hstep ih =>
    obtain ⟨call, result⟩ := label
    obtain ⟨hsublist, hunrelated, hcounts⟩ := ih
    simp only [List.filterMap_append, successes_append]
    cases result with
    | error error =>
      obtain ⟨added, hadded⟩ := step_grows hstep
      rw [hadded, show [(call, Except.error error)].filterMap (burned sha) = [] from rfl, List.append_nil]
      refine ⟨hsublist.trans (List.sublist_append_left _ _), hunrelated, fun scope => ?_⟩
      rw [if_neg (by rintro ⟨_, ⟨⟩⟩), uses_append]
      exact (hcounts scope).imp_left (Nat.le_trans · (Nat.le_add_right _ _))
    | ok evidence =>
      obtain ⟨hburnable, hadded⟩ := step_committed hstep
      rw [hadded]
      refine ⟨hsublist.append (.refl _), List.pairwise_append.mpr ⟨hunrelated, List.pairwise_singleton _ _, ?_⟩,
        fun scope => ?_⟩
      · intro earlier hearlier _ hmem
        rw [List.mem_singleton.mp hmem]
        exact hburnable.unique earlier (hsublist.subset hearlier)
      · have hcount := hcounts scope
        rw [uses_append]
        by_cases hscope : call.scope = scope
        · obtain rfl := hscope
          have hremaining := hburnable.remaining
          have hused : uses call.scope [call.burn sha evidence.verifier_receipt] = 1 := by
            simp [uses, ValidateCall.burn]
          rw [if_pos ⟨rfl, rfl⟩]
          omega
        · rw [if_neg fun hsame => hscope hsame.1]
          omega

/-- Derived promotion authority is exact and bounded. A call succeeds only inside the
window of its scope, for promotions of allowed targets, through an admitted and separated
adapter, and on a receipt that entails exactly the request it was asked for. A call that
fails before the burn leaves the ledger as it is. However the verifier behaves, a scope is
never used more often than it allows, and no proposal, receipt or nonce twice. -/
theorem derived_promotion_exact_and_bounded (sha : Sha256) (verifier : PinnedPromotionVerifier V)
    (burns : DerivedReceiptBurnStore S) :
    (∀ state call result next, ValidateStep sha verifier burns state (call, result) next →
      (∀ evidence, result = .ok evidence → ∃ request receipt, call.Admitted sha request ∧
        verifier.verify request state.1 = (.ok receipt, next.1) ∧ receipt.Entails sha call.scope.body request ∧
        evidence = call.evidence sha receipt.digest evidence.burn_receipt) ∧
      ∀ error, result = .error error → (∀ cause, error ≠ .Burn cause) → next.2 = state.2) ∧
    ∀ first history last, RunPath (ValidateStep sha verifier burns) first history last →
      (history.filterMap (burned sha)).Pairwise DerivedReceiptBurnV1.Unrelated ∧
      ∀ scope, successes scope history ≤ scope.body.max_uses.toNat := by
  refine ⟨fun state call result next hstep => ⟨?_, ?_⟩, fun _ _ _ hrun => ?_⟩
  · rintro evidence rfl
    obtain ⟨_, _, herror⟩ | ⟨request, receipt, answer, hrequest, hverified, hvalid, _, hresult⟩ := step_cases hstep
    · cases herror
    · obtain ⟨_, _, rfl⟩ := map_eq_ok_iff.mp hresult.symm
      exact ⟨request, receipt, admitted_of_requested hrequest, hverified, entails_of_valid hvalid, rfl⟩
  · rintro error rfl hbefore
    obtain ⟨hsame, _⟩ | ⟨_, _, answer, _, _, _, _, hresult⟩ := step_cases hstep
    · exact hsame
    · cases answer with
      | ok => cases hresult
      | error cause => exact absurd (Except.error.inj hresult) (hbefore cause)
  · obtain ⟨_, hunrelated, hcounts⟩ := run_committed hrun
    exact ⟨hunrelated, fun scope => (hcounts scope).2⟩

section Sample

/-- A ledger that meets the contract. -/
def sample_ledger : DerivedReceiptBurnStore (List DerivedReceiptBurnV1) where
  burn_once scope burn burns :=
    if burn.scope = scope.digest ∧ (∀ earlier ∈ burns, earlier.Unrelated burn) ∧
      uses scope burns < scope.body.max_uses.toNat then (.ok ⟨[]⟩, burns ++ [burn]) else (.error .ScopeExhausted, burns)
  burns := id
  committed _ _ _ _ _ h := by
    split_ifs at h with hburnable
    · exact ⟨⟨hburnable.1, hburnable.2.1, hburnable.2.2⟩, (Prod.mk.inj h).2.symm⟩
    · cases (Prod.mk.inj h).1
  atomic _ _ _ _ _ h := by
    split_ifs at h
    · cases (Prod.mk.inj h).1
    · exact .inl (Prod.mk.inj h).2.symm

/-- A digest of one repeated digit. -/
def sample_digest (digit : Fin 16) : Digest := ⟨List.replicate 64 digit⟩

@[simp] theorem sample_digest_inj {left right : Fin 16} : sample_digest left = sample_digest right ↔ left = right := by
  simp [sample_digest]

def sample_domain : AuthorityDomainId := ⟨"site", by decide⟩
def sample_epoch : EpochId := ⟨1, by decide⟩

def sample_scope : DerivedPromotionScopeBodyV1 :=
  { schema := DERIVED_SCOPE_SCHEMA_V1, authority_domain := sample_domain, epoch := sample_epoch
    catalog_identity := sample_digest 0, allowed_targets := [⟨"main"⟩]
    verifier := ⟨⟨sample_digest 1, 1, none⟩, ⟨sample_digest 2, sample_digest 3⟩⟩
    verifier_semantics := sample_digest 4, hostile_specimens := [(sample_digest 5, .NotEntailed)]
    specimens_differ := List.nodup_singleton _, adapter_roots := [⟨sample_digest 6⟩]
    separation := .DistinctRootsNoSharedLineage, not_before_unix_ms := 0, expires_unix_ms := 1, max_uses := 1 }

/-- The members of a promotion beside its kind and its target. -/
def sample_members : List (String × Jcs) :=
  let digest := to_jcs (sample_digest 7)
  let object : Jcs := .str "4b825dc642cb6eb9a060e54bf8d69288fbee4904"
  [("allowed_root", .str "/srv/git"), ("artifact", digest), ("candidate_pack_digest", digest),
    ("candidate_preparation_receipt", digest), ("complete_inputs", digest), ("exact_basis", digest),
    ("expected_object", object), ("expected_post_tree", object), ("expected_tree", object),
    ("expires_unix_ms", .num 1), ("gid", .num 1), ("git_directory_device", .num 1), ("git_directory_inode", .num 1),
    ("helper_executable", digest), ("helper_launch_profile", digest), ("new_object", object),
    ("object_format", .str "sha1"), ("operation_id", digest), ("prepared_candidate", digest),
    ("prestate_identity", digest), ("reference", .str "refs/heads/main"), ("repository", .str "agent"),
    ("repository_device", .num 1), ("repository_identity", digest), ("repository_inode", .num 1),
    ("schema", .str "ag.managed-pointer-promotion/v2"), ("staging_root", .str "/var/stage"), ("uid", .num 1)]

def sample_proposal : CanonicalProposalBodyV1 :=
  { schema := EFFECT_SCHEMA_V1, proposal_id := "proposal", intent_digest := sample_digest 8
    governor_authentication := sample_digest 9, authority_domain := sample_domain, epoch := sample_epoch
    compiled_at_unix_ms := 0, proposer := ⟨sample_domain, sample_epoch, [⟨⟨sample_digest 10⟩, .Operator, none⟩], rfl⟩
    catalog_schema := EFFECT_CATALOG_SCHEMA_V1, catalog_identity := sample_digest 0
    security_profile_identity := sample_digest 11, judgment := sample_digest 12
    effects := [.ManagedPointerPromotion ⟨"main"⟩ sample_members] }

/-- A promotion that the verifier entails, ratified through a service. -/
def sample_call (sha : Sha256) : ValidateCall :=
  { scope := ⟨ag_primitives.digest_value sha "ag-ng/derived-promotion-scope/v1" sample_scope, sample_scope⟩
    proposal := ⟨Digest.from_serializable sha sample_proposal, sample_proposal⟩
    authenticated_adapter := ⟨sample_domain, sample_epoch, [⟨⟨sample_digest 6⟩, .Service, none⟩], rfl⟩
    invocation_nonce := sample_digest 13, now_unix_ms := 0 }

/-- The receipt for a request under the sample scope. -/
def sample_receipt (sha : Sha256) (request : DerivedVerifierRequestV1) : DerivedVerifierReceiptV1 :=
  let body : DerivedVerifierReceiptBodyV1 :=
    { schema := DERIVED_VERIFIER_RECEIPT_SCHEMA_V1
      request := ag_primitives.digest_value sha "ag-ng/derived-promotion-verifier-request/v1" request
      invocation_nonce := request.invocation_nonce, scope := request.scope
      proposal := request.canonical_proposal.digest, catalog_identity := request.catalog_identity
      judgment := request.judgment, adapter_chain := request.adapter_chain, verifier := sample_scope.verifier
      verifier_semantics := request.verifier_semantics, hostile_specimen_catalog := request.hostile_specimen_catalog
      proposal_judgment := .Entailed (sample_digest 14)
      hostile_specimen_results := [⟨sample_digest 5, .NotEntailed, sample_digest 15⟩] }
  ⟨ag_primitives.digest_value sha "ag-ng/derived-promotion-verifier-receipt/v1" body, body⟩

def sample_verifier (sha : Sha256) : PinnedPromotionVerifier Unit :=
  ⟨fun _ => sample_scope.verifier, fun request _ => (.ok (sample_receipt sha request), ())⟩

theorem digest_value_eq {A : Type} [Serialize A] {value : A} (h : (to_jcs value).integral = true) (domain : String) :
    digest_value sha domain value = .ok (ag_primitives.digest_value sha domain value) := by
  rw [digest_value, JcsDocument.canonicalize, if_pos h]
  rfl

theorem integral_insert_member (name : String) (value : Jcs) (members : List (String × Jcs)) :
    Jcs.integral_members (insert_member name value members) = (value.integral && Jcs.integral_members members) := by
  induction members with
  | nil => rfl
  | cons member members ih =>
    rw [insert_member, List.orderedInsert]
    split
    · rfl
    · rw [Jcs.integral_members, ← insert_member, ih, Jcs.integral_members, Bool.and_left_comm]

theorem sample_integers : f64 0 = 0 ∧ f64 1 = 1 :=
  ⟨f64_of_le (by decide +kernel), f64_of_le (by decide +kernel)⟩

theorem sample_requested (sha : Sha256) : ∃ request,
    (sample_call sha).verifier_request sha sample_scope.verifier = .ok request ∧ (to_jcs request).integral = true := by
  have hscope : (to_jcs sample_scope).integral = true := by
    simp [to_jcs, sample_scope, sample_epoch, sample_integers, ExecutableIdentityV1.serialize,
      LaunchProfileIdentityV1.serialize]
  have hcatalog : (to_jcs (SpecimenMap.mk sample_scope.hostile_specimens)).integral = true := by
    simp [to_jcs, sample_scope]
  have hadapter : validate_adapter sample_scope sample_proposal (sample_call sha).authenticated_adapter = .ok () := by
    simp [validate_adapter, sample_scope, sample_proposal, sample_call, PrincipalChainV1.satisfies,
      PrincipalChainV1.check_distinct_roots_no_shared_lineage, PrincipalChainV1.leaf, PrincipalChainV1.root, reject,
      map_err, bind, Except.bind]
  simp only [ValidateCall.verifier_request, ok_rules]
  refine ⟨_, ⟨?_, by simp [sample_call, sample_scope], reject_of_not (not_not.mpr rfl), ⟨rfl, rfl⟩,
    ⟨rfl, rfl, rfl, rfl⟩, rfl, by simp [sample_call, sample_proposal], ?_, hadapter, rfl, _, digest_value_eq hcatalog _,
    rfl⟩, ?_⟩
  · exact (bind_of_ok rfl).trans ((bind_of_ok (digest_value_eq hscope _)).trans (reject_of_not (not_not.mpr rfl)))
  · simp [sample_call, sample_proposal, sample_scope, CanonicalEffectV1.family, CanonicalEffectV1.target]
  · simp [to_jcs, sample_call, sample_proposal, sample_epoch, sample_integers, integral_insert_member, sample_members,
      CanonicalEffectV1.members, CanonicalEffectV1.target]

/-- The receipt for any request that can be written is accepted. -/
theorem sample_receipt_valid {request : DerivedVerifierRequestV1} (h : (to_jcs request).integral = true) :
    validate_verifier_receipt sha sample_scope request sample_scope.verifier (sample_receipt sha request) = .ok () := by
  have hbody : (to_jcs (sample_receipt sha request).body).integral = true := by
    simp [to_jcs, sample_receipt, sample_scope, sample_integers, ExecutableIdentityV1.serialize,
      LaunchProfileIdentityV1.serialize]
  simp only [validate_verifier_receipt, DerivedVerifierReceiptV1.verify_digest, ok_rules]
  refine ⟨⟨_, digest_value_eq hbody _, rfl⟩, _, digest_value_eq h _,
    ⟨rfl, rfl, rfl, rfl, rfl, rfl, rfl, rfl, rfl, rfl, rfl, rfl⟩, rfl, rfl, [sample_digest 5], ?_, rfl⟩
  simp [validate_specimens, sample_scope, sample_receipt, ok_or, ExpectedVerifierOutcomeV1.matches, reject, bind,
    Except.bind, pure, Except.pure]

theorem sample_authorized (sha : Sha256) : ∃ evidence next,
    ValidateStep sha (sample_verifier sha) sample_ledger ((), []) (sample_call sha, .ok evidence) next := by
  obtain ⟨request, hrequest, hintegral⟩ := sample_requested sha
  have hvalid : validate_verifier_receipt sha _ _ _ _ = _ := sample_receipt_valid hintegral
  have hburned (receipt : Digest) : sample_ledger.burn_once (sample_call sha).scope
      ((sample_call sha).burn sha receipt) [] = (.ok ⟨[]⟩, [(sample_call sha).burn sha receipt]) :=
    if_pos ⟨rfl, by simp, by simp [uses, sample_call, sample_scope]⟩
  refine ⟨(sample_call sha).evidence sha (sample_receipt sha request).digest ⟨[]⟩,
    ((), [(sample_call sha).burn sha (sample_receipt sha request).digest]), ?_⟩
  simp only [ValidateStep, ValidateCall.validate_and_burn, sample_verifier, hrequest]
  rw [show (sample_call sha).scope.body = sample_scope from rfl, hvalid]
  simp only [hburned]
  rfl

/-- The promotion is authorized, once. -/
theorem derived_promotion_authorized_once :
    ∃ evidence next, ValidateStep ideal_sha (sample_verifier ideal_sha) sample_ledger ((), [])
        (sample_call ideal_sha, .ok evidence) next ∧
      successes (sample_call ideal_sha).scope [(sample_call ideal_sha, .ok evidence)] ≤ 1 := by
  obtain ⟨evidence, next, hstep⟩ := sample_authorized ideal_sha
  exact ⟨evidence, next, hstep, ((derived_promotion_exact_and_bounded _ _ _).2 _ _ _ (.single hstep)).2 _⟩

end Sample

end Burns

end ag_app.derived

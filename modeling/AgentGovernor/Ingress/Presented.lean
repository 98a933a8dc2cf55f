import AgentGovernor.Governed.Progress
import AgentGovernor.Ingress.Submission

open ag_primitives Checked ag_campaign ag_campaign.governed

namespace ag_app.intervention_ingress

section Sample

variable (sha : Sha256)

def sample_request : GovernedInterventionRequestV1 :=
  halt_request sha ⟨⟨⟨[]⟩⟩, ⟨0⟩⟩ ⟨[]⟩

def sample_body : GovernedInterventionSubmissionBodyV1 :=
  let body : GovernedInterventionSubmissionBodyV1 :=
    { schema := INTERVENTION_SUBMISSION_BODY_SCHEMA_V1
      submission := ⟨[]⟩
      request := (sample_request sha).request
      request_bytes_digest := Digest.hash_domain sha REQUEST_BYTES_DOMAIN_V1 (.text "request")
      request_bytes_b64 := "request"
      submitting_principal := "submitter"
      submitting_key_id := "key"
      target_runtime_profile := ⟨[]⟩
      created_at_unix_ms := 0
      expires_at_unix_ms := 1 }
  { body with submission := body.derived_submission sha }

/-- The envelope over the sample body that carries the given signature. -/
def sample_envelope (signature : String) : GovernedInterventionSubmissionV1 :=
  { schema := INTERVENTION_SUBMISSION_SCHEMA_V1, body := sample_body sha, signature }

/-- A codec for the request and the envelopes: the text `request` stands for the bytes of
the one and its signature for the bytes of an envelope. One signature is genuine. -/
def sample_codec : IngressCodec :=
  { submission_from_slice := fun bytes => some (sample_envelope sha bytes)
    request_from_slice := fun bytes => if bytes = "request" then some (sample_request sha) else none
    canonical_bytes := fun document =>
      match document with
      | .obj [_, _, ("signature", .str signature)] => signature
      | _ => "request"
    decode_b64 := some
    ed25519_verify := fun _ _ signature => signature = "signed" }

def sample_ingress : GovernedInterventionIngressV1 :=
  { submitter_principal := "submitter", submitter_key_id := "key", submitter_public_key := "public" }

def sample_verified : VerifiedInterventionSubmissionV1 :=
  { envelope := sample_envelope sha "signed"
    presentation_digest := presentation_digest sha "signed"
    request_bytes := "request"
    request := sample_request sha
    custody_verification := Digest.hash_domain sha CUSTODY_VERIFICATION_DOMAIN_V1
      (.jcs (.arr [to_jcs (sample_body sha).submission, to_jcs (sample_body sha).target_runtime_profile,
        to_jcs "signed"])) }

theorem sample_request_parsed :
    parse_exact_request_bytes sha (sample_codec sha) "request" = .ok (sample_request sha) := by
  simp only [parse_exact_request_bytes, ok_rules]
  refine ⟨by decide, _, rfl, ?_, halt_request_valid sha _ _, rfl⟩
  exact reject_eq_ok_iff.mpr fun h => h.1 rfl

/-- The signed envelope is authenticated before it expires. -/
theorem sample_submission_verified :
    verify_submission_bytes sha (sample_codec sha) "signed" sample_ingress ⟨[]⟩ 0 = .ok (sample_verified sha) := by
  simp only [verify_submission_bytes, ok_rules]
  refine ⟨by decide, sample_envelope sha "signed", rfl, reject_eq_ok_iff.mpr fun h => h.1 rfl, ⟨rfl, rfl⟩,
    rfl, rfl, rfl,
    rfl, (by decide : ¬ (0 : UInt64) ≥ 1), _, rfl, _, rfl, ?_, _, rfl, rfl, _, sample_request_parsed sha, rfl, rfl⟩
  simp [sample_codec, sample_envelope]

/-- An envelope over the sample body is refused for its expiry, or else for a signature
that is not the genuine one. -/
theorem sample_submission_checked {signature : String} (hsize : signature.length ≤ MAX_SUBMISSION_BYTES)
    (now_unix_ms : UInt64) :
    ∃ authenticated, verify_submission_bytes sha (sample_codec sha) signature sample_ingress ⟨[]⟩ now_unix_ms =
        (reject (now_unix_ms ≥ 1) (.Custody .Expired) >>= authenticated) ∧
      (signature ≠ "signed" → authenticated () = .error (.Custody .AuthenticationFailed)) := by
  apply Exists.intro
  constructor
  · refine (bind_of_ok (reject_of_not (not_lt.mpr hsize))).trans ?_
    refine (bind_of_ok rfl).trans ((bind_of_ok (reject_of_not fun h => h.1 rfl)).trans ?_)
    refine (bind_of_ok (reject_of_not (not_or.mpr ⟨not_not.mpr rfl, not_not.mpr rfl⟩))).trans ?_
    refine (bind_of_ok (reject_of_not (not_not.mpr rfl))).trans ?_
    refine (bind_of_ok (reject_of_not (not_not.mpr rfl))).trans ?_
    refine (bind_of_ok (reject_of_not (not_not.mpr rfl))).trans ?_
    exact bind_of_ok (reject_of_not (not_not.mpr rfl))
  · intro hforged
    refine (bind_of_ok rfl).trans ((bind_of_ok rfl).trans (bind_of_error (if_pos ?_)))
    exact decide_eq_false hforged

theorem sample_submission_expired :
    verify_submission_bytes sha (sample_codec sha) "signed" sample_ingress ⟨[]⟩ 1 = .error (.Custody .Expired) := by
  obtain ⟨_, hverify, _⟩ := sample_submission_checked sha (by decide : "signed".length ≤ MAX_SUBMISSION_BYTES) 1
  exact hverify.trans (bind_of_error (if_pos (by decide)))

theorem sample_submission_forged :
    verify_submission_bytes sha (sample_codec sha) "forged" sample_ingress ⟨[]⟩ 0 =
      .error (.Custody .AuthenticationFailed) := by
  obtain ⟨_, hverify, hforged⟩ :=
    sample_submission_checked sha (by decide : "forged".length ≤ MAX_SUBMISSION_BYTES) 0
  exact hverify.trans ((bind_of_ok (reject_of_not (by decide))).trans (hforged (by decide)))

/-- Either presentation claims the sample submission. -/
theorem sample_submission_claimed {signature : String} (hsize : signature.length ≤ MAX_SUBMISSION_BYTES) :
    claimed_submission_references (sample_codec sha) signature =
      (some (sample_body sha).submission, some (sample_body sha).request) :=
  if_neg (not_lt.mpr hsize)

end Sample

end ag_app.intervention_ingress

import AgentGovernor.Ingress.Chains
import AgentGovernor.Lib.Unwinding

open ag_primitives Checked ag_campaign ag_campaign.governed Relational Transaction

namespace ag_app.intervention_ingress

/-- The second sequence of calls is the first with custody refusals inserted anywhere. -/
inductive RefusalsInserted : List LedgerCall → List LedgerCall → Prop where
  | nil : RefusalsInserted [] []
  | kept {calls calls' : List LedgerCall} (call : LedgerCall) (h : RefusalsInserted calls calls') :
    RefusalsInserted (call :: calls) (call :: calls')
  | inserted {calls calls' : List LedgerCall} (presentation : String) (claimed_submission : Option Digest)
    (claimed_request : Option GovernedInterventionRequestIdV1) (code : InterventionCustodyRefusalCodeV1)
    (recorded_at_unix_ms : UInt64) (h : RefusalsInserted calls calls') :
    RefusalsInserted calls (.record_custody_refusal presentation claimed_submission claimed_request code
      recorded_at_unix_ms :: calls')

/-- Two ledgers that a submission cannot tell apart: it is named by the same receipts in
both, and all receipts are what they are identified as. -/
structure LedgerDb.Agrees (sha : Sha256) (submission : Digest) (db db' : LedgerDb) : Prop where
  naming : db.naming submission = db'.naming submission
  valid : ∀ receipt ∈ db.receipts.rows, validate_receipt sha receipt = .ok ()
  valid' : ∀ receipt ∈ db'.receipts.rows, validate_receipt sha receipt = .ok ()

section Agreement

open InterventionSubmissionLedgerV1

variable {sha : Sha256} {ledger : InterventionSubmissionLedgerV1} {db db' : LedgerDb} {submission : Digest}
  {receipt : InterventionSubmissionReceiptV1}

variable (hsha : sha.CollisionFree)

include hsha

/-- Whether the identity of a receipt is taken is decided among the receipts that name the
same submission. -/
theorem taken_iff (hvalid : ∀ present ∈ db.receipts.rows, validate_receipt sha present = .ok ())
    (hreceipt : validate_receipt sha receipt = .ok ()) (hsubmission : receipt.submission = some submission) :
    (∃ present ∈ db.receipts.rows, conflict present receipt) ↔
      ∃ present ∈ db.naming submission, conflict present receipt := by
  constructor
  · rintro ⟨present, hpresent, hconflict⟩
    have hsame := (derived_receipt_fields hsha (hvalid present hpresent) hreceipt hconflict).1
    exact ⟨present, List.mem_filter.mpr ⟨hpresent, decide_eq_true (hsame.trans hsubmission)⟩, hconflict⟩
  · rintro ⟨present, hpresent, hconflict⟩
    exact ⟨present, (List.mem_filter.mp hpresent).1, hconflict⟩

/-- Inserting a receipt that names the submission keeps two ledgers in agreement on it. -/
theorem LedgerDb.Agrees.insert_or_ignore (h : db.Agrees sha submission db')
    (hreceipt : validate_receipt sha receipt = .ok ()) (hsubmission : receipt.submission = some submission) :
    LedgerDb.Agrees sha submission { db with receipts := (db.receipts.insert receipt).getD db.receipts }
      { db' with receipts := (db'.receipts.insert receipt).getD db'.receipts } := by
  have hrows : ∀ {db : LedgerDb}, (∀ present ∈ db.receipts.rows, validate_receipt sha present = .ok ()) →
      ∀ present ∈ ((db.receipts.insert receipt).getD db.receipts).rows, validate_receipt sha present = .ok () := by
    intro db hvalid present hpresent
    rw [insert_or_ignore_rows] at hpresent
    split at hpresent
    · exact hvalid present hpresent
    · rcases List.mem_append.mp hpresent with hpresent | hpresent
      · exact hvalid present hpresent
      · rwa [List.mem_singleton.mp hpresent]
  refine ⟨?_, hrows h.valid, hrows h.valid'⟩
  have hnaming := h.naming
  simp only [LedgerDb.naming, insert_or_ignore_rows] at hnaming ⊢
  rw [if_congr (taken_iff hsha h.valid hreceipt hsubmission) rfl rfl,
    if_congr (taken_iff hsha h.valid' hreceipt hsubmission) rfl rfl, h.naming]
  split
  · exact hnaming
  · rw [List.filter_append, List.filter_append, hnaming]

theorem indifferent_insert_receipt (hreceipt : validate_receipt sha receipt = .ok ())
    (hsubmission : receipt.submission = some submission) :
    Indifferent (LedgerDb.Agrees sha submission) (insert_receipt sha receipt) := by
  refine indifferent_bind (indifferent_lift _) fun _ => indifferent_transaction ?_
  refine indifferent_bind (indifferent_lift _) fun _ => ?_
  exact fun _ _ h => ⟨rfl, h.insert_or_ignore hsha hreceipt hsubmission⟩

/-- What is recorded for a verified submission depends on no more than the receipts that
name it. -/
theorem indifferent_append_for_verified (verified : VerifiedInterventionSubmissionV1)
    (result : InterventionSubmissionStatusV1) (recorded_at_unix_ms : UInt64) :
    Indifferent (LedgerDb.Agrees sha verified.envelope.body.submission)
      (ledger.append_for_verified sha verified result recorded_at_unix_ms) := by
  have hhistory : ∀ db db', LedgerDb.Agrees sha verified.envelope.body.submission db db' →
      ledger.history sha (some verified.envelope.body.submission) db =
        ledger.history sha (some verified.envelope.body.submission) db' := by
    intro db db' h
    have hnaming := h.naming
    simp only [LedgerDb.naming] at hnaming
    simp only [history, selected, hnaming]
  refine indifferent_bind (indifferent_query hhistory) fun existing => ?_
  refine indifferent_bind (indifferent_lift _) fun _ => ?_
  cases existing.receipts.find? fun receipt => receipt.result = result with
  | some equal => exact indifferent_pure equal
  | none =>
    refine indifferent_bind (indifferent_lift _) fun _ => ?_
    exact indifferent_bind (indifferent_insert_receipt hsha (identified_valid rfl) rfl) fun _ => indifferent_pure _

theorem LedgerCall.indifferent {call : LedgerCall} (hcall : call.refuses = false)
    (hnames : call.names = some submission) :
    Indifferent (LedgerDb.Agrees sha submission) (call.execute sha ledger) := by
  cases call with
  | record_received | record_result =>
    cases hnames
    exact indifferent_bind (indifferent_lift _) fun _ => indifferent_append_for_verified hsha _ _ _
  | record_custody_refusal => cases hcall

/-- Refusals that do not claim the submission leave two ledgers in agreement on it. -/
theorem RefusalsInserted.agrees {calls calls' : List LedgerCall} (h : RefusalsInserted calls calls')
    (hunclaimed : ∀ refusal ∈ calls', refusal.refuses = true → refusal.names ≠ some submission)
    (hagrees : db.Agrees sha submission db') :
    (LedgerCall.run sha ledger db calls).Agrees sha submission (LedgerCall.run sha ledger db' calls') := by
  induction h generalizing db db' with
  | nil => exact hagrees
  | kept call _ ih =>
    obtain ⟨hcall, hrest⟩ := List.forall_mem_cons.mp hunclaimed
    refine ih hrest ?_
    by_cases hnames : call.names = some submission
    · have hverified : call.refuses = false := by
        by_contra hrefuses
        exact hcall (Bool.eq_true_of_not_eq_false hrefuses) hnames
      exact (LedgerCall.indifferent hsha hverified hnames db db' hagrees).2
    · exact ⟨(LedgerCall.keeps_naming hnames).trans (hagrees.naming.trans (LedgerCall.keeps_naming hnames).symm),
        LedgerCall.execute_valid hagrees.valid, LedgerCall.execute_valid hagrees.valid'⟩
  | inserted presentation claimed_submission claimed_request code recorded_at_unix_ms _ ih =>
    obtain ⟨hcall, hrest⟩ := List.forall_mem_cons.mp hunclaimed
    exact ih hrest ⟨hagrees.naming.trans (LedgerCall.keeps_naming (hcall rfl)).symm, hagrees.valid,
      LedgerCall.execute_valid hagrees.valid'⟩

end Agreement

/-- Unauthenticated presentations do not disturb a submission that they do not claim: with
custody refusals inserted anywhere in a history, what is recorded for a verified submission
stays the same receipt or the same refusal, provided no custody refusal of the history
claims the submission. -/
theorem refusals_do_not_disturb {sha : Sha256} (hsha : sha.CollisionFree)
    {ledger : InterventionSubmissionLedgerV1} {calls calls' : List LedgerCall} (h : RefusalsInserted calls calls')
    {call : LedgerCall} (hcall : call.refuses = false)
    (hunclaimed : ∀ refusal ∈ calls', refusal.refuses = true → refusal.names ≠ call.names) :
    (call.execute sha ledger
        (LedgerCall.run sha ledger (.created ledger.target_runtime_profile) calls)).1 =
      (call.execute sha ledger
        (LedgerCall.run sha ledger (.created ledger.target_runtime_profile) calls')).1 := by
  obtain ⟨submission, hnames⟩ := Option.isSome_iff_exists.mp (LedgerCall.names_isSome hcall)
  rw [hnames] at hunclaimed
  have hcreated : (LedgerDb.created ledger.target_runtime_profile).Agrees sha submission
      (.created ledger.target_runtime_profile) := ⟨rfl, by simp [LedgerDb.created], by simp [LedgerDb.created]⟩
  exact (LedgerCall.indifferent hsha hcall hnames _ _ (h.agrees hsha hunclaimed hcreated)).1

section Sample

variable {sha : Sha256}

/-- A submission that a refused presentation claims cannot be received. -/
theorem record_received_conflict (hsha : sha.CollisionFree) {ledger : InterventionSubmissionLedgerV1}
    {verified : VerifiedInterventionSubmissionV1}
    (htarget : verified.envelope.body.target_runtime_profile = ledger.target_runtime_profile) {presentation : String}
    (hpresentation : presentation_digest sha presentation ≠ verified.presentation_digest)
    (claimed_request : Option GovernedInterventionRequestIdV1) (code : InterventionCustodyRefusalCodeV1) :
    ((LedgerCall.record_received verified 0).execute sha ledger
      (LedgerCall.run sha ledger (.created ledger.target_runtime_profile)
        [.record_custody_refusal presentation (some verified.envelope.body.submission) claimed_request code 0])).1 =
      .error (.Custody .ConflictingSubmission) := by
  have hcreated := LedgerDb.created_sound sha ledger.target_runtime_profile
  obtain ⟨refused, happends⟩ : ∃ refused, LedgerCall.Appends sha (.record_custody_refusal presentation
      (some verified.envelope.body.submission) claimed_request code 0) _
      (LedgerCall.execute sha ledger _ (.created ledger.target_runtime_profile)).2 refused :=
    record_custody_refusal_appends hsha hcreated.valid (by simp [LedgerDb.created]) _ _ _ _
      (by decide : (0 : UInt64) ≤ ag_store.I64_MAX)
  have hsound := happends.sound (fun _ => by simp [LedgerDb.created]) hcreated
  rw [LedgerCall.run, List.foldl_cons, List.foldl_nil]
  generalize (LedgerCall.execute sha ledger (.record_custody_refusal presentation _ _ _ _) _).2 = db
    at happends hsound ⊢
  have hrow : db.receipts.rows = [refused] := happends.rows
  have hnaming : db.naming verified.envelope.body.submission = [refused] := by
    simp [LedgerDb.naming, hrow, show refused.submission = _ from happends.names, LedgerCall.names]
  have hhistory : ledger.history sha (some verified.envelope.body.submission) db = .ok _ := history_eq_ok_iff.mpr
    ⟨by rw [hnaming, ← hrow]; exact ⟨hsound.valid, hsound.chained⟩, rfl⟩
  rw [hnaming] at hhistory
  have hdigest : refused.presentation_digest = presentation_digest sha presentation :=
    of_decide_eq_true happends.selected
  have hresult : ledger.record_received sha verified 0 db = (.error (.Custody .ConflictingSubmission), db) := by
    refine (lift_bind_of_ok (reject_of_not (not_not.mpr htarget))).trans ?_
    refine (query_bind_of_ok hhistory).trans (lift_bind_of_error (if_pos ⟨refused, rfl, ?_⟩))
    rwa [hdigest]
  exact congrArg Prod.fst hresult

theorem sample_received : ∃ receipt, (LedgerCall.execute sha ⟨⟨[]⟩⟩ (.record_received (sample_verified sha) 0)
    (LedgerCall.run sha ⟨⟨[]⟩⟩ (.created ⟨[]⟩) [])).1 = .ok receipt := by
  obtain ⟨receipt, db, hstored, _⟩ : ∃ receipt db', Returns (InterventionSubmissionLedgerV1.append_for_verified sha
      ⟨⟨[]⟩⟩ (sample_verified sha) (.Received (sample_verified sha).custody_verification) 0) (.created ⟨[]⟩) receipt
      db' ∧ _ := append_for_verified_ok _ rfl
  have hreceived : Returns (InterventionSubmissionLedgerV1.record_received sha ⟨⟨[]⟩⟩ (sample_verified sha) 0) _ receipt
      db := returns_lift_bind_iff.mpr ⟨(), reject_of_not (not_not.mpr rfl), hstored⟩
  exact ⟨receipt, congrArg Prod.fst hreceived⟩

end Sample

/-- Refusals that claim nothing leave what is recorded for the genuine presentation as it
is. -/
theorem refusals_do_not_disturb_received :
    let ledger : InterventionSubmissionLedgerV1 := ⟨⟨[]⟩⟩
    (LedgerCall.execute ideal_sha ledger (.record_received (sample_verified ideal_sha) 0)
        (LedgerCall.run ideal_sha ledger (.created ledger.target_runtime_profile) [])).1 =
      (LedgerCall.execute ideal_sha ledger (.record_received (sample_verified ideal_sha) 0)
        (LedgerCall.run ideal_sha ledger (.created ledger.target_runtime_profile)
          [.record_custody_refusal "forged" none none .AuthenticationFailed 0])).1 :=
  refusals_do_not_disturb ideal_sha_collision_free (.inserted _ _ _ _ _ .nil) rfl
    (List.forall_mem_singleton.mpr fun _ => by rintro ⟨⟩)

/-- A forged presentation that claims the sample submission is refused. The genuine one is
received without the refusal, and cannot be received after it. -/
theorem forged_claim_disturbs :
    let ledger : InterventionSubmissionLedgerV1 := ⟨⟨[]⟩⟩
    verify_submission_bytes ideal_sha (sample_codec ideal_sha) "forged" sample_ingress ⟨[]⟩ 0 =
      .error (.Custody .AuthenticationFailed) ∧
    claimed_submission_references (sample_codec ideal_sha) "forged" =
      (some (sample_body ideal_sha).submission, some (sample_body ideal_sha).request) ∧
    verify_submission_bytes ideal_sha (sample_codec ideal_sha) "signed" sample_ingress ⟨[]⟩ 0 =
      .ok (sample_verified ideal_sha) ∧
    (∃ receipt, (LedgerCall.execute ideal_sha ledger (.record_received (sample_verified ideal_sha) 0)
      (LedgerCall.run ideal_sha ledger (.created ledger.target_runtime_profile) [])).1 = .ok receipt) ∧
    (LedgerCall.execute ideal_sha ledger (.record_received (sample_verified ideal_sha) 0)
      (LedgerCall.run ideal_sha ledger (.created ledger.target_runtime_profile)
        [.record_custody_refusal "forged" (some (sample_body ideal_sha).submission)
          (some (sample_body ideal_sha).request) .AuthenticationFailed 0])).1 =
      .error (.Custody .ConflictingSubmission) := by
  have hpresentation : presentation_digest ideal_sha "forged" ≠ (sample_verified ideal_sha).presentation_digest := by
    intro h
    have htext := ((Digest.hash_domain_inj ideal_sha_collision_free).mp h).2
    exact absurd (Payload.text.inj htext) (by decide)
  exact ⟨sample_submission_forged _, sample_submission_claimed _ (by decide), sample_submission_verified _,
    sample_received, record_received_conflict ideal_sha_collision_free rfl hpresentation _ _⟩

end ag_app.intervention_ingress

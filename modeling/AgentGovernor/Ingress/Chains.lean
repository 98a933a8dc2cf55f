import AgentGovernor.Ingress.Ledger
import AgentGovernor.Ingress.Presented
import AgentGovernor.Primitives.IdealHash

open Std (ExtTreeMap)
open ag_primitives Checked ag_campaign ag_campaign.governed Relational Transaction

namespace ag_app.intervention_ingress

/-- The receipts of every submission and of every refused presentation form a chain. -/
abbrev Chained (receipts : List InterventionSubmissionReceiptV1) : Prop :=
  ChainedFrom InterventionSubmissionReceiptV1.chain_key InterventionSubmissionReceiptV1.receipt
    InterventionSubmissionReceiptV1.previous_receipt ∅ receipts

section Key

theorem validate_receipt_chains_eq_ok_iff {receipts : List InterventionSubmissionReceiptV1} :
    validate_receipt_chains receipts = .ok () ↔ Chained receipts := by
  unfold validate_receipt_chains Chained
  generalize (∅ : ExtTreeMap String Digest) = latest
  induction receipts generalizing latest with
  | nil => exact ⟨fun _ => trivial, fun _ => rfl⟩
  | cons receipt receipts ih =>
    simp only [validate_receipt_chains_from, ok_rules, ih, ChainedFrom]

theorem validate_receipt_chains_cases (receipts : List InterventionSubmissionReceiptV1) :
    validate_receipt_chains receipts = .ok () ∨
      validate_receipt_chains receipts = .error (.Corrupt "receipt chain mismatch") := by
  unfold validate_receipt_chains
  generalize (∅ : ExtTreeMap String Digest) = latest
  induction receipts generalizing latest with
  | nil => exact .inl rfl
  | cons receipt receipts ih =>
    rw [validate_receipt_chains_from, reject]
    split
    · exact .inr rfl
    · exact ih _

variable {receipt : InterventionSubmissionReceiptV1}

theorem prefixes_differ (left right : String) : "presentation:" ++ left ≠ "submission:" ++ right := by
  intro h
  have hlist := congrArg String.toList h
  simp at hlist

theorem chain_key_eq_presentation_iff {presentation : Digest} :
    receipt.chain_key = "presentation:" ++ presentation.as_str ↔
      receipt.result.is_custody_refused = true ∧ receipt.presentation_digest = presentation := by
  unfold InterventionSubmissionReceiptV1.chain_key
  split
  · next h => simp [h, Digest.as_str_injective.eq_iff]
  · next h => simp [h, (prefixes_differ _ _).symm]

theorem chain_key_eq_submission_iff {submission : Digest} :
    receipt.chain_key = "submission:" ++ submission.as_str ↔
      receipt.result.is_custody_refused = false ∧
        receipt.submission.getD receipt.presentation_digest = submission := by
  unfold InterventionSubmissionReceiptV1.chain_key
  split
  · next h => simp [h, prefixes_differ]
  · next h => simp [h, Digest.as_str_injective.eq_iff]

end Key

namespace LedgerCall

/-- The call records a custody refusal. -/
def refuses : LedgerCall → Bool
  | record_custody_refusal _ _ _ _ _ => true
  | _ => false

/-- The submission that the receipt of a call names: the verified one, or the one that is
claimed. -/
def names : LedgerCall → Option Digest
  | record_received verified _ | record_result verified _ _ => some verified.envelope.body.submission
  | record_custody_refusal _ claimed_submission _ _ _ => claimed_submission

def recorded_at_unix_ms : LedgerCall → UInt64
  | record_received _ time | record_result _ _ time | record_custody_refusal _ _ _ _ time => time

/-- The receipts among which a call looks for the one before it: those of the
presentation, or those that name the submission. -/
def selects (sha : Sha256) : LedgerCall → InterventionSubmissionReceiptV1 → Bool
  | record_received verified _, receipt | record_result verified _ _, receipt =>
    receipt.submission = some verified.envelope.body.submission
  | record_custody_refusal presentation _ _ _ _, receipt =>
    receipt.presentation_digest = presentation_digest sha presentation

/-- The last receipt that the call selects, if there is one, is of the kind that the call
records: a refusal follows a refusal, and what was authenticated follows the same. -/
def Joins (sha : Sha256) (db : LedgerDb) (call : LedgerCall) : Prop :=
  ∀ last ∈ (db.receipts.rows.filter (call.selects sha)).getLast?, last.result.is_custody_refused = call.refuses

/-- Every call of a sequence joins, in the ledger it is made on. -/
def Joined (sha : Sha256) (ledger : InterventionSubmissionLedgerV1) : LedgerDb → List LedgerCall → Prop
  | _, [] => True
  | db, call :: calls => call.Joins sha db ∧ Joined sha ledger (call.execute sha ledger db).2 calls

/-- The call with another time. -/
def retimed (recorded_at_unix_ms : UInt64) : LedgerCall → LedgerCall
  | record_received verified _ => record_received verified recorded_at_unix_ms
  | record_result verified result _ => record_result verified result recorded_at_unix_ms
  | record_custody_refusal presentation claimed_submission claimed_request code _ =>
    record_custody_refusal presentation claimed_submission claimed_request code recorded_at_unix_ms

/-- The verified submission that a call records a status for. -/
def status : LedgerCall → Option (VerifiedInterventionSubmissionV1 × InterventionSubmissionStatusV1)
  | record_received verified _ => some (verified, .Received verified.custody_verification)
  | record_result verified result _ => some (verified, result)
  | record_custody_refusal _ _ _ _ _ => none

end LedgerCall

/-- The receipts that name a submission. -/
def LedgerDb.naming (db : LedgerDb) (submission : Digest) : List InterventionSubmissionReceiptV1 :=
  db.receipts.rows.filter fun receipt => receipt.submission = some submission

/-- What a recorded status adds: the receipt of that status, after a history that holds
neither the status nor a governed result. -/
structure LedgerDb.Records (sha : Sha256) (verified : VerifiedInterventionSubmissionV1)
    (result : InterventionSubmissionStatusV1) (db : LedgerDb) (receipt : InterventionSubmissionReceiptV1) : Prop where
  fresh : ∀ present ∈ db.naming verified.envelope.body.submission, present.result ≠ result
  unsettled : ∀ present ∈ db.naming verified.envelope.body.submission, present.result.is_terminal = false
  valid : validate_receipt sha receipt = .ok ()
  submission : receipt.submission = some verified.envelope.body.submission
  presentation : receipt.presentation_digest = verified.presentation_digest
  result : receipt.result = result
  previous : receipt.previous_receipt =
    (db.naming verified.envelope.body.submission).getLast?.map (·.receipt)

/-- The first receipt of the submission was recorded for the same presentation. -/
def LedgerDb.PresentedAs (db : LedgerDb) (verified : VerifiedInterventionSubmissionV1) : Prop :=
  ∀ first ∈ (db.naming verified.envelope.body.submission).head?,
    first.presentation_digest = verified.presentation_digest

/-- The first receipt with a status. -/
def LedgerDb.recorded (db : LedgerDb) (submission : Digest) (result : InterventionSubmissionStatusV1) :
    Option InterventionSubmissionReceiptV1 :=
  (db.naming submission).find? fun receipt => receipt.result = result

/-- What a call adds to the ledger: one receipt, which names the last one selected. -/
structure LedgerCall.Appends (sha : Sha256) (call : LedgerCall) (db db' : LedgerDb)
    (receipt : InterventionSubmissionReceiptV1) : Prop where
  target : db'.target_runtime_profile = db.target_runtime_profile
  rows : db'.receipts.rows = db.receipts.rows ++ [receipt]
  valid : validate_receipt sha receipt = .ok ()
  previous : receipt.previous_receipt = (db.receipts.rows.filter (call.selects sha)).getLast?.map (·.receipt)
  kind : receipt.result.is_custody_refused = call.refuses
  selected : call.selects sha receipt = true
  names : receipt.submission = call.names
  recorded_at_unix_ms : receipt.recorded_at_unix_ms = call.recorded_at_unix_ms

section Appends

open InterventionSubmissionLedgerV1

variable {sha : Sha256} {ledger : InterventionSubmissionLedgerV1} {db db' : LedgerDb} {call : LedgerCall}
  {verified : VerifiedInterventionSubmissionV1} {result : InterventionSubmissionStatusV1}
  {recorded_at_unix_ms : UInt64} {receipt : InterventionSubmissionReceiptV1} {submission : Digest}

theorem identified_valid {receipt : InterventionSubmissionReceiptV1}
    (hschema : receipt.schema = INTERVENTION_SUBMISSION_RECEIPT_SCHEMA_V1) :
    validate_receipt sha (receipt.identified sha) = .ok () :=
  reject_eq_ok_iff.mpr (not_or.mpr ⟨not_not.mpr hschema, not_not.mpr rfl⟩)

/-- `INSERT OR IGNORE` appends the row unless it conflicts with one that is present. -/
theorem insert_or_ignore_rows (table : Table InterventionSubmissionReceiptV1) :
    ((table.insert receipt).getD table).rows =
      if ∃ present ∈ table.rows, conflict present receipt then table.rows else table.rows ++ [receipt] := by
  unfold Table.insert
  split
  · next h =>
    rw [if_neg (by push Not; exact h)]
    rfl
  · next h =>
    push Not at h
    rw [if_pos h]
    rfl

theorem returns_insert_receipt_iff {u : Unit} : Returns (insert_receipt sha receipt) db u db' ↔
    validate_receipt sha receipt = .ok () ∧ receipt.recorded_at_unix_ms ≤ ag_store.I64_MAX ∧
      db' = { db with receipts := (db.receipts.insert receipt).getD db.receipts } := by
  simp only [insert_receipt, returns_lift_bind_iff, ok_rules, returns_transaction_iff, gt_iff_lt, UInt64.not_lt,
    returns_update_iff, Except.ok.injEq, Prod.mk.injEq, true_and]
  exact and_congr_right fun _ => and_congr_right fun _ => eq_comm

theorem insert_or_ignore_cases
    (h : db' = { db with receipts := (db.receipts.insert receipt).getD db.receipts }) :
    db' = db ∨ db'.target_runtime_profile = db.target_runtime_profile ∧
      db'.receipts.rows = db.receipts.rows ++ [receipt] := by
  subst h
  cases hinsert : db.receipts.insert receipt with
  | none => exact .inl rfl
  | some table => exact .inr ⟨rfl, Table.insert_eq_some_iff.mp hinsert⟩

/-- The history of a submission can be read when its receipts are valid and chained. -/
theorem history_eq_ok_iff {submission : Digest} {existing : InterventionSubmissionHistoryV1} :
    ledger.history sha (some submission) db = .ok existing ↔
      ((∀ receipt ∈ db.naming submission, validate_receipt sha receipt = .ok ()) ∧
        Chained (db.naming submission)) ∧
      existing = ⟨INTERVENTION_SUBMISSION_HISTORY_SCHEMA_V1, ledger.target_runtime_profile, some submission,
        db.naming submission⟩ := by
  change (do
    (db.naming submission).forM (validate_receipt sha)
    validate_receipt_chains (db.naming submission)
    pure _ : Except InterventionIngressErrorV1 InterventionSubmissionHistoryV1) = _ ↔ _
  simp only [ok_rules, validate_receipt_chains_eq_ok_iff, and_assoc]
  exact and_congr_right fun _ => and_congr_right fun _ => eq_comm

/-- A recorded status is found, or it is new and its receipt is inserted. -/
theorem returns_append_for_verified_cases
    (h : Returns (ledger.append_for_verified sha verified result recorded_at_unix_ms) db receipt db') :
    db.PresentedAs verified ∧
      (db.recorded verified.envelope.body.submission result = some receipt ∧ db' = db ∨
        db.Records sha verified result receipt ∧ receipt.recorded_at_unix_ms = recorded_at_unix_ms ∧
          db' = { db with receipts := (db.receipts.insert receipt).getD db.receipts }) := by
  obtain ⟨existing, hexisting, h⟩ := returns_query_bind_iff.mp h
  obtain ⟨_, rfl⟩ := history_eq_ok_iff.mp hexisting
  obtain ⟨_, hpresented, h⟩ := returns_lift_bind_iff.mp h
  refine ⟨by simpa [LedgerDb.PresentedAs, reject_eq_ok_iff] using hpresented, ?_⟩
  cases hfind : (db.naming verified.envelope.body.submission).find? fun receipt => receipt.result = result with
  | some equal =>
    rw [hfind] at h
    obtain ⟨rfl, rfl⟩ := returns_pure_iff.mp h
    exact .inl ⟨hfind, rfl⟩
  | none =>
    rw [hfind] at h
    obtain ⟨_, hterminal, h⟩ := returns_lift_bind_iff.mp h
    obtain ⟨_, hinsert, rfl⟩ := returns_bind_pure_iff.mp h
    rw [reject_eq_ok_iff, Bool.not_eq_true, List.any_eq_false] at hterminal
    refine .inr ⟨⟨?_, ?_, identified_valid rfl, rfl, rfl, rfl, rfl⟩, rfl, (returns_insert_receipt_iff.mp hinsert).2.2⟩
    · simpa using List.find?_eq_none.mp hfind
    · simpa using hterminal

/-- A status is recorded by one and the same function, behind a check of the call. -/
theorem LedgerCall.returns_status (hstatus : call.status = some (verified, result))
    (h : Returns (call.execute sha ledger) db receipt db') :
    Returns (ledger.append_for_verified sha verified result call.recorded_at_unix_ms) db receipt db' ∧
      result.is_custody_refused = false ∧
      ∀ again now, Returns (ledger.append_for_verified sha verified result now) again receipt again →
        Returns ((call.retimed now).execute sha ledger) again receipt again := by
  cases call with
  | record_received verified recorded_at_unix_ms =>
    cases hstatus
    obtain ⟨_, htarget, h⟩ := returns_lift_bind_iff.mp h
    exact ⟨h, rfl, fun again now hagain => returns_lift_bind_iff.mpr ⟨(), htarget, hagain⟩⟩
  | record_result verified result recorded_at_unix_ms =>
    cases hstatus
    obtain ⟨_, hstage, h⟩ := returns_lift_bind_iff.mp h
    have hrefused := (not_or.mp (reject_eq_ok_iff.mp hstage)).2
    exact ⟨h, Bool.eq_false_of_not_eq_true hrefused,
      fun again now hagain => returns_lift_bind_iff.mpr ⟨(), hstage, hagain⟩⟩
  | record_custody_refusal => cases hstatus

/-- A call that succeeds leaves the ledger as it is or appends one receipt. -/
theorem LedgerCall.appends (h : Returns (call.execute sha ledger) db receipt db') :
    db' = db ∨ ∃ added, call.Appends sha db db' added ∧
      ∀ verified result, call.status = some (verified, result) → db.Records sha verified result added := by
  cases hstatus : call.status with
  | some status =>
    obtain ⟨verified, result⟩ := status
    obtain ⟨hstored, hrefused, _⟩ := LedgerCall.returns_status hstatus h
    obtain ⟨hrefuses, hnames, hselects⟩ : call.refuses = false ∧
        call.names = some verified.envelope.body.submission ∧ call.selects sha =
          fun other => decide (other.submission = some verified.envelope.body.submission) := by
      cases call <;> cases hstatus <;> exact ⟨rfl, rfl, rfl⟩
    rcases (returns_append_for_verified_cases hstored).2 with ⟨_, hsame⟩ | ⟨hrecords, htime, hinserted⟩
    · exact .inl hsame
    refine (insert_or_ignore_cases hinserted).imp_right ?_
    rintro ⟨htarget, hrows⟩
    refine ⟨receipt, ⟨htarget, hrows, hrecords.valid, ?_, ?_, ?_, hrecords.submission.trans hnames.symm, htime⟩, ?_⟩
    · rw [hselects]
      exact hrecords.previous
    · rw [hrecords.result, hrefused, hrefuses]
    · rw [hselects]
      exact decide_eq_true hrecords.submission
    · rintro _ _ ⟨⟩
      exact hrecords
  | none =>
    cases call with
    | record_received | record_result => cases hstatus
    | record_custody_refusal presentation claimed_submission claimed_request code recorded_at_unix_ms =>
      obtain ⟨existing, hexisting, h⟩ := returns_query_bind_iff.mp h
      simp only [receipts_for_presentation, ok_rules] at hexisting
      obtain ⟨_, _, rfl⟩ := hexisting
      split at h
      · exact .inl (returns_pure_iff.mp h).2.symm
      · obtain ⟨_, hinsert, _⟩ := returns_bind_pure_iff.mp h
        refine (insert_or_ignore_cases (returns_insert_receipt_iff.mp hinsert).2.2).imp_right ?_
        rintro ⟨htarget, hrows⟩
        exact ⟨_, ⟨htarget, hrows, identified_valid rfl, rfl, rfl, decide_eq_true rfl, rfl, rfl⟩, by rintro _ _ ⟨⟩⟩

theorem atomic_insert_receipt : Atomic (insert_receipt sha receipt) :=
  atomic_bind (readOnly_lift _) fun _ => atomic_transaction _

/-- The identity of a receipt fixes the submission that it names and its stage. -/
theorem derived_receipt_fields (hsha : sha.CollisionFree) {left right : InterventionSubmissionReceiptV1}
    (hleft : validate_receipt sha left = .ok ()) (hright : validate_receipt sha right = .ok ())
    (h : left.receipt = right.receipt) :
    left.submission = right.submission ∧ left.result.serialize = right.result.serialize := by
  simp only [validate_receipt, ok_rules] at hleft hright
  have hdigest : left.derived_receipt sha = right.derived_receipt sha :=
    hleft.2.symm.trans (h.trans hright.2)
  have hserialized := ((Digest.hash_domain_inj hsha).mp hdigest).2
  simp only [to_jcs, ReceiptDigestInputV1.serialize, Payload.jcs.injEq, Jcs.obj.injEq, List.cons.injEq,
    Prod.mk.injEq, true_and, and_true] at hserialized
  obtain ⟨_, _, _, _, hresult, _, hsubmission, _, _⟩ := hserialized
  exact ⟨InjectiveSerialize.injective hsubmission, hresult⟩

theorem serialize_refused {left right : InterventionSubmissionStatusV1} (h : left.serialize = right.serialize) :
    left.is_custody_refused = right.is_custody_refused := by
  cases left <;> cases right <;> simp_all [InterventionSubmissionStatusV1.serialize,
    InterventionSubmissionStatusV1.is_custody_refused]

/-- A call that is refused leaves the ledger as it is. -/
theorem LedgerCall.atomic (call : LedgerCall) : Atomic (call.execute sha ledger) := by
  have happend : ∀ verified result now, Atomic (ledger.append_for_verified sha verified result now) := by
    intro verified result now
    refine atomic_bind (readOnly_query _) fun existing => atomic_bind (readOnly_lift _) fun _ => ?_
    cases existing.receipts.find? fun receipt => receipt.result = result with
    | some equal => exact fun _ _ => by rintro ⟨⟩
    | none => exact atomic_bind (readOnly_lift _) fun _ => atomic_bind_pure _ atomic_insert_receipt
  cases call with
  | record_received => exact atomic_bind (readOnly_lift _) fun _ => happend _ _ _
  | record_result => exact atomic_bind (readOnly_lift _) fun _ => happend _ _ _
  | record_custody_refusal presentation _ _ code =>
    refine atomic_bind (readOnly_query _) fun existing => ?_
    cases existing.find? fun receipt => receipt.result = .CustodyRefused code with
    | some equal => exact fun _ _ => by rintro ⟨⟩
    | none => exact atomic_bind_pure _ atomic_insert_receipt

/-- What a call does to the ledger, whether it is refused or not. -/
theorem LedgerCall.changes (sha : Sha256) (ledger : InterventionSubmissionLedgerV1) (db : LedgerDb)
    (call : LedgerCall) :
    (call.execute sha ledger db).2 = db ∨ ∃ added, call.Appends sha db (call.execute sha ledger db).2 added ∧
      ∀ verified result, call.status = some (verified, result) → db.Records sha verified result added := by
  rcases call.atomic.cases db with hsame | ⟨receipt, hreturns⟩
  · exact .inl hsame
  · exact LedgerCall.appends hreturns

theorem naming_append (hrows : db'.receipts.rows = db.receipts.rows ++ [receipt])
    (hsubmission : receipt.submission = some submission) :
    db'.naming submission = db.naming submission ++ [receipt] := by
  rw [LedgerDb.naming, hrows, List.filter_append, List.filter_cons_of_pos (by simpa using hsubmission),
    List.filter_nil]
  rfl

/-- What a call does to the receipts of a submission: nothing, or one receipt is appended. -/
theorem LedgerCall.naming_cases (sha : Sha256) (ledger : InterventionSubmissionLedgerV1) (db : LedgerDb)
    (call : LedgerCall) (submission : Digest) :
    (call.execute sha ledger db).2.naming submission = db.naming submission ∨
      ∃ added, call.names = some submission ∧ call.Appends sha db (call.execute sha ledger db).2 added ∧
        (∀ verified result, call.status = some (verified, result) → db.Records sha verified result added) ∧
        (call.execute sha ledger db).2.naming submission = db.naming submission ++ [added] := by
  rcases call.changes sha ledger db with hsame | ⟨added, happends, hrecords⟩
  · exact .inl (by rw [hsame])
  · by_cases hnames : call.names = some submission
    · exact .inr ⟨added, hnames, happends, hrecords, naming_append happends.rows (happends.names.trans hnames)⟩
    · refine .inl ?_
      rw [LedgerDb.naming, happends.rows, List.filter_append, List.filter_cons_of_neg, List.filter_nil,
        List.append_nil, LedgerDb.naming]
      simpa [happends.names] using hnames

/-- A call that names no submission, or another one, adds nothing that names this one. -/
theorem LedgerCall.keeps_naming (hnames : call.names ≠ some submission) :
    (call.execute sha ledger db).2.naming submission = db.naming submission :=
  (call.naming_cases sha ledger db submission).resolve_right fun ⟨_, hsame, _⟩ => hnames hsame

theorem LedgerCall.execute_valid (hvalid : ∀ present ∈ db.receipts.rows, validate_receipt sha present = .ok ()) :
    ∀ present ∈ (call.execute sha ledger db).2.receipts.rows, validate_receipt sha present = .ok () := by
  rcases call.changes sha ledger db with hsame | ⟨added, happends, _⟩
  · rwa [hsame]
  · rw [happends.rows]
    exact List.forall_mem_append.mpr ⟨hvalid, List.forall_mem_singleton.mpr happends.valid⟩

end Appends

/-- The ledger verifies, and every receipt that is no refusal names its submission. -/
structure LedgerDb.Sound (sha : Sha256) (target_runtime_profile : Digest) (db : LedgerDb) : Prop where
  target : db.target_runtime_profile = target_runtime_profile
  valid : ∀ receipt ∈ db.receipts.rows, validate_receipt sha receipt = .ok ()
  chained : Chained db.receipts.rows
  claimed : ∀ receipt ∈ db.receipts.rows, receipt.result.is_custody_refused = false →
    receipt.submission.isSome = true

section Sound

variable {sha : Sha256} {ledger : InterventionSubmissionLedgerV1} {db db' : LedgerDb} {call : LedgerCall}
  {receipt : InterventionSubmissionReceiptV1}

theorem LedgerDb.created_sound (sha : Sha256) (target_runtime_profile : Digest) :
    (LedgerDb.created target_runtime_profile).Sound sha target_runtime_profile :=
  ⟨rfl, by simp [created], trivial, by simp [created]⟩

theorem verify_eq_ok_iff : ledger.verify sha db = .ok () ↔
    db.target_runtime_profile = ledger.target_runtime_profile ∧
      (∀ receipt ∈ db.receipts.rows, validate_receipt sha receipt = .ok ()) ∧ Chained db.receipts.rows := by
  simp only [InterventionSubmissionLedgerV1.verify, InterventionSubmissionLedgerV1.history,
    InterventionSubmissionLedgerV1.selected, ok_rules, validate_receipt_chains_eq_ok_iff, and_true]
  constructor
  · rintro ⟨htarget, _, hvalid, hchained, _⟩
    exact ⟨htarget, hvalid, hchained⟩
  · rintro ⟨htarget, hvalid, hchained⟩
    exact ⟨htarget, _, hvalid, hchained, rfl⟩

/-- The chain a receipt is checked in consists of the receipts of its kind among those
that its call selects. -/
theorem LedgerCall.Appends.chain_key_eq_iff (h : call.Appends sha db db' receipt)
    {other : InterventionSubmissionReceiptV1}
    (hother : other.result.is_custody_refused = false → other.submission.isSome = true) :
    other.chain_key = receipt.chain_key ↔
      call.selects sha other = true ∧ other.result.is_custody_refused = call.refuses := by
  have hkind := h.kind
  have hselected := h.selected
  have hauthenticated : ∀ submission, call.refuses = false → receipt.submission = some submission →
      (other.chain_key = receipt.chain_key ↔
        other.submission = some submission ∧ other.result.is_custody_refused = false) := by
    intro submission hcall hsubmission
    have hkey : receipt.chain_key = "submission:" ++ submission.as_str := by
      simp [InterventionSubmissionReceiptV1.chain_key, hkind, hcall, hsubmission]
    rw [hkey, chain_key_eq_submission_iff, and_comm]
    refine and_congr_left fun hrefused => ?_
    obtain ⟨claimed, hclaimed⟩ := Option.isSome_iff_exists.mp (hother hrefused)
    simp [hclaimed]
  cases call with
  | record_received verified _ | record_result verified _ _ =>
    simpa [selects, refuses] using hauthenticated _ rfl (of_decide_eq_true hselected)
  | record_custody_refusal presentation _ _ _ _ =>
    have hkey : receipt.chain_key = "presentation:" ++ (presentation_digest sha presentation).as_str :=
      chain_key_eq_presentation_iff.mpr ⟨hkind, of_decide_eq_true hselected⟩
    rw [hkey, chain_key_eq_presentation_iff, and_comm]
    simp [selects, refuses]

variable {target_runtime_profile : Digest}

/-- The receipt that a call appends extends its chain exactly when the call joins. -/
theorem LedgerCall.Appends.chained_iff_joins (h : call.Appends sha db db' receipt)
    (hsound : db.Sound sha target_runtime_profile) :
    Chained db'.receipts.rows ↔ call.Joins sha db := by
  have hchain : (db.receipts.rows.filter fun other => other.chain_key = receipt.chain_key) =
      db.receipts.rows.filter fun other => call.selects sha other &&
        decide (other.result.is_custody_refused = call.refuses) := by
    refine List.filter_congr fun other hother => ?_
    simp [h.chain_key_eq_iff (hsound.claimed other hother)]
  rw [Chained, h.rows, chainedFrom_concat_iff, hchain, h.previous, and_iff_right hsound.chained]
  constructor
  · intro hsame last hlast
    rw [Option.mem_def.mp hlast, Option.map_some, eq_comm, Option.map_eq_some_iff] at hsame
    obtain ⟨chained, hchained, hreceipt⟩ := hsame
    have hmem := List.mem_filter.mp (List.mem_of_getLast? hchained)
    -- identities are unique, so the receipt that is named is the one that was selected last
    have heq : chained = last :=
      Table.eq_of_conflict hmem.1 (List.mem_filter.mp (List.mem_of_getLast? hlast)).1 hreceipt
    have hkind := hmem.2
    rw [heq, Bool.and_eq_true, decide_eq_true_iff] at hkind
    exact hkind.2
  · intro hjoins
    rw [getLast?_filter_and fun last hlast => decide_eq_true (hjoins last hlast)]

theorem LedgerCall.names_isSome (h : call.refuses = false) : call.names.isSome = true := by
  cases call with
  | record_received | record_result => rfl
  | record_custody_refusal => cases h

/-- A call that joins keeps the ledger sound. -/
theorem LedgerCall.Appends.sound (h : call.Appends sha db db' receipt) (hjoins : call.Joins sha db)
    (hsound : db.Sound sha target_runtime_profile) :
    db'.Sound sha target_runtime_profile := by
  refine ⟨h.target.trans hsound.target, ?_, (h.chained_iff_joins hsound).mpr hjoins, ?_⟩
  · rw [h.rows]
    exact List.forall_mem_append.mpr ⟨hsound.valid, List.forall_mem_singleton.mpr h.valid⟩
  · rw [h.rows]
    refine List.forall_mem_append.mpr ⟨hsound.claimed, List.forall_mem_singleton.mpr fun hrefused => ?_⟩
    rw [h.kind] at hrefused
    rw [h.names]
    exact LedgerCall.names_isSome hrefused

theorem LedgerCall.execute_sound (hjoins : call.Joins sha db) (hsound : db.Sound sha target_runtime_profile) :
    (call.execute sha ledger db).2.Sound sha target_runtime_profile := by
  rcases call.changes sha ledger db with hsame | ⟨added, happends, _⟩
  · rwa [hsame]
  · exact happends.sound hjoins hsound

theorem LedgerCall.run_sound {calls : List LedgerCall} (hjoined : LedgerCall.Joined sha ledger db calls)
    (hsound : db.Sound sha target_runtime_profile) :
    (LedgerCall.run sha ledger db calls).Sound sha target_runtime_profile := by
  induction calls generalizing db with
  | nil => exact hsound
  | cons call calls ih => exact ih hjoined.2 (LedgerCall.execute_sound hjoined.1 hsound)

end Sound

/-- A ledger never corrupts itself as long as no refusal is chained to an authenticated
receipt and no authenticated receipt to a refusal: after any sequence of such calls it
verifies, and it can be opened again for writing and for reading. -/
theorem ledger_reopens {sha : Sha256} {ledger : InterventionSubmissionLedgerV1} {calls : List LedgerCall}
    (hjoined : LedgerCall.Joined sha ledger (.created ledger.target_runtime_profile) calls) :
    let final := LedgerCall.run sha ledger (.created ledger.target_runtime_profile) calls
    ledger.verify sha final = .ok () ∧
    InterventionSubmissionLedgerV1.open_writer sha (some final) ledger.target_runtime_profile =
      .ok (ledger, final) ∧
    InterventionSubmissionLedgerV1.open_reader sha final ledger.target_runtime_profile = .ok ledger := by
  have hsound := LedgerCall.run_sound hjoined (LedgerDb.created_sound sha _)
  have hverify := verify_eq_ok_iff.mpr ⟨hsound.target, hsound.valid, hsound.chained⟩
  exact ⟨hverify, bind_eq_ok_iff.mpr ⟨(), hverify, rfl⟩, bind_eq_ok_iff.mpr ⟨(), hverify, rfl⟩⟩

section Sample

open InterventionSubmissionLedgerV1

variable {sha : Sha256} {ledger : InterventionSubmissionLedgerV1} {db : LedgerDb}

variable {verified : VerifiedInterventionSubmissionV1}

/-- The first receipt of a submission is taken by a ledger without receipts, whatever its
status. -/
theorem append_for_verified_ok (result : InterventionSubmissionStatusV1) (hempty : db.receipts.rows = []) :
    ∃ receipt db', Returns (ledger.append_for_verified sha verified result 0) db receipt db' ∧
      db'.receipts.rows = [receipt] ∧ db.Records sha verified result receipt := by
  have hnaming : db.naming verified.envelope.body.submission = [] := by
    rw [LedgerDb.naming, hempty]
    rfl
  have hhistory : ledger.history sha (some verified.envelope.body.submission) db = .ok _ :=
    history_eq_ok_iff.mpr ⟨by rw [hnaming]; exact ⟨by simp, trivial⟩, rfl⟩
  rw [hnaming] at hhistory
  -- the receipt is the one the call makes
  refine ⟨_, _, returns_query_bind_iff.mpr ⟨_, hhistory, returns_lift_bind_iff.mpr ⟨(), reject_of_not (by simp),
    returns_lift_bind_iff.mpr ⟨(), reject_of_not (by simp), returns_bind_iff.mpr ⟨(), _,
      returns_insert_receipt_iff.mpr ⟨identified_valid rfl, (by decide : (0 : UInt64) ≤ ag_store.I64_MAX), rfl⟩,
      returns_pure_iff.mpr ⟨rfl, rfl⟩⟩⟩⟩⟩, ?_, by simp [hnaming], by simp [hnaming], identified_valid rfl,
    rfl, rfl, rfl, by rw [hnaming]; rfl⟩
  rw [insert_or_ignore_rows, if_neg (by simp [hempty]), hempty]
  rfl

/-- A refusal is appended where no custody refusal was recorded before. -/
theorem record_custody_refusal_appends (hsha : sha.CollisionFree)
    (hvalid : ∀ receipt ∈ db.receipts.rows, validate_receipt sha receipt = .ok ())
    (hnew : ∀ receipt ∈ db.receipts.rows, receipt.result.is_custody_refused = false)
    (presentation : String) (claimed_submission : Option Digest)
    (claimed_request : Option GovernedInterventionRequestIdV1) (code : InterventionCustodyRefusalCodeV1)
    {recorded_at_unix_ms : UInt64} (hrecorded : recorded_at_unix_ms ≤ ag_store.I64_MAX) :
    let call := LedgerCall.record_custody_refusal presentation claimed_submission claimed_request code
      recorded_at_unix_ms
    ∃ refused, call.Appends sha db (call.execute sha ledger db).2 refused := by
  intro call
  let existing := db.receipts.rows.filter fun receipt =>
    receipt.presentation_digest = presentation_digest sha presentation
  have hexisting : receipts_for_presentation sha (presentation_digest sha presentation) db = .ok existing :=
    bind_eq_ok_iff.mpr ⟨(), forM_eq_ok_iff.mpr fun receipt hreceipt =>
      hvalid receipt (List.mem_filter.mp hreceipt).1, rfl⟩
  have hfind : existing.find? (fun receipt => receipt.result = .CustodyRefused code) = none := by
    refine List.find?_eq_none.mpr fun receipt hreceipt heq => ?_
    have hrefused := hnew receipt (List.mem_filter.mp hreceipt).1
    rw [of_decide_eq_true heq] at hrefused
    cases hrefused
  obtain ⟨receipt, db', hreturns, hvalid', hkind, rfl⟩ : ∃ receipt db',
      Returns (call.execute sha ledger) db receipt db' ∧
      validate_receipt sha receipt = .ok () ∧ receipt.result = .CustodyRefused code ∧
      db' = { db with receipts := (db.receipts.insert receipt).getD db.receipts } := by
    refine ⟨_, _, returns_query_bind_iff.mpr ⟨existing, hexisting, by
      rw [hfind]
      exact returns_bind_pure_iff.mpr ⟨(), returns_insert_receipt_iff.mpr ⟨identified_valid rfl, hrecorded, rfl⟩, rfl⟩⟩,
        identified_valid rfl, rfl, rfl⟩
  have hgrows : ((db.receipts.insert receipt).getD db.receipts).rows = db.receipts.rows ++ [receipt] := by
    rw [insert_or_ignore_rows, if_neg]
    rintro ⟨present, hpresent, hconflict⟩
    have hrefused := hnew present hpresent
    rw [serialize_refused (derived_receipt_fields hsha (hvalid present hpresent) hvalid' hconflict).2,
      hkind] at hrefused
    cases hrefused
  rw [show (call.execute sha ledger db).2 = _ from congrArg Prod.snd hreturns]
  rcases LedgerCall.appends hreturns with hsame | ⟨added, happends, _⟩
  · simp [show (db.receipts.insert receipt).getD db.receipts = db.receipts from congrArg LedgerDb.receipts hsame]
      at hgrows
  · exact ⟨added, happends⟩

/-- The refusal that is recorded for the authenticated presentation is chained to what was
authenticated. -/
theorem sample_mismatch (hsha : sha.CollisionFree) :
    let ledger : InterventionSubmissionLedgerV1 := ⟨⟨[]⟩⟩
    ledger.verify sha (LedgerCall.run sha ledger (.created ledger.target_runtime_profile)
      [.record_received (sample_verified sha) 0,
        .record_custody_refusal "signed" (some (sample_body sha).submission)
          (some (sample_body sha).request) .Expired 1]) = .error (.Corrupt "receipt chain mismatch") := by
  intro ledger
  obtain ⟨received, db, hstored, hrow, hrecords⟩ : ∃ receipt db', Returns (ledger.append_for_verified sha
      (sample_verified sha) (.Received (sample_verified sha).custody_verification) 0)
      (.created ledger.target_runtime_profile) receipt db' ∧ _ := append_for_verified_ok _ rfl
  have hreceived : Returns ((LedgerCall.record_received (sample_verified sha) 0).execute sha ledger) _ received db :=
    returns_lift_bind_iff.mpr ⟨(), reject_of_not (not_not.mpr rfl), hstored⟩
  have hsound : (LedgerCall.execute sha ledger (.record_received (sample_verified sha) 0) _).2.Sound sha _ :=
    LedgerCall.execute_sound (fun _ => by simp [LedgerDb.created])
      (LedgerDb.created_sound sha ledger.target_runtime_profile)
  rw [show (LedgerCall.execute sha ledger _ _).2 = db from congrArg Prod.snd hreceived] at hsound
  obtain ⟨refused, hadded⟩ := record_custody_refusal_appends hsha hsound.valid
    (by simp [hrow, hrecords.result, InterventionSubmissionStatusV1.is_custody_refused]) "signed"
    (some (sample_body sha).submission) (some (sample_body sha).request) .Expired
    (by decide : (1 : UInt64) ≤ ag_store.I64_MAX)
  rw [LedgerCall.run, List.foldl_cons, show (LedgerCall.execute sha ledger _ _).2 = db from congrArg Prod.snd hreceived]
  have hmismatch := mt (hadded.chained_iff_joins hsound).mp fun hjoins => by
    have hkind := hjoins received (by simp [hrow, LedgerCall.selects, hrecords.presentation]; rfl)
    rw [hrecords.result] at hkind
    cases hkind
  refine (bind_of_ok (reject_of_not (not_not.mpr (hadded.target.trans hsound.target)))).trans (bind_of_error ?_)
  refine (bind_of_ok (forM_eq_ok_iff.mpr (LedgerCall.execute_valid hsound.valid))).trans (bind_of_error ?_)
  exact (validate_receipt_chains_cases _).resolve_left (mt validate_receipt_chains_eq_ok_iff.mp hmismatch)

theorem joined_over_forged (verified : VerifiedInterventionSubmissionV1) :
    LedgerCall.Joined sha ledger (.created ledger.target_runtime_profile)
      [.record_custody_refusal "forged" none none .AuthenticationFailed 0, .record_received verified 1] := by
  refine ⟨fun _ => by simp [LedgerDb.created], ?_, trivial⟩
  -- the refusal claims no submission, so none is found for the one that is received
  have hnaming : LedgerCall.names (.record_custody_refusal "forged" none none .AuthenticationFailed 0) ≠
      some verified.envelope.body.submission := by simp [LedgerCall.names]
  intro last hlast
  have hlast : last ∈ (LedgerDb.naming _ verified.envelope.body.submission).getLast? := hlast
  rw [LedgerCall.keeps_naming hnaming] at hlast
  simp [LedgerDb.naming, LedgerDb.created] at hlast

end Sample

/-- A forged presentation is refused and then the genuine one is received: the ledger can
be opened again. -/
theorem ledger_reopens_over_forged :
    let ledger : InterventionSubmissionLedgerV1 := ⟨⟨[]⟩⟩
    let final := LedgerCall.run ideal_sha ledger (.created ledger.target_runtime_profile)
      [.record_custody_refusal "forged" none none .AuthenticationFailed 0,
        .record_received (sample_verified ideal_sha) 1]
    ledger.verify ideal_sha final = .ok () ∧
    InterventionSubmissionLedgerV1.open_writer ideal_sha (some final) ledger.target_runtime_profile =
      .ok (ledger, final) ∧
    InterventionSubmissionLedgerV1.open_reader ideal_sha final ledger.target_runtime_profile = .ok ledger :=
  ledger_reopens (joined_over_forged _)

/-- The genuine presentation is received and, once it has expired, presented again. Its
refusal is chained to the receipt, and the ledger is corrupt. -/
theorem expired_presentation_corrupts :
    let ledger : InterventionSubmissionLedgerV1 := ⟨⟨[]⟩⟩
    verify_submission_bytes ideal_sha (sample_codec ideal_sha) "signed" sample_ingress ⟨[]⟩ 0 =
      .ok (sample_verified ideal_sha) ∧
    verify_submission_bytes ideal_sha (sample_codec ideal_sha) "signed" sample_ingress ⟨[]⟩ 1 =
      .error (.Custody .Expired) ∧
    claimed_submission_references (sample_codec ideal_sha) "signed" =
      (some (sample_body ideal_sha).submission, some (sample_body ideal_sha).request) ∧
    ledger.verify ideal_sha (LedgerCall.run ideal_sha ledger (.created ledger.target_runtime_profile)
      [.record_received (sample_verified ideal_sha) 0,
        .record_custody_refusal "signed" (some (sample_body ideal_sha).submission)
          (some (sample_body ideal_sha).request) .Expired 1]) = .error (.Corrupt "receipt chain mismatch") :=
  ⟨sample_submission_verified _, sample_submission_expired _, sample_submission_claimed _ (by decide),
    sample_mismatch ideal_sha_collision_free⟩

end ag_app.intervention_ingress

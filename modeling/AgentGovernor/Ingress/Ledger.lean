import AgentGovernor.Ingress.Submission
import AgentGovernor.Lib.KeyedChain
import AgentGovernor.Store.Write

open Std (ExtTreeMap)
open ag_primitives Checked ag_campaign ag_campaign.governed Relational Transaction

namespace ag_app.intervention_ingress

def INTERVENTION_SUBMISSION_RECEIPT_SCHEMA_V1 : String := "ag.governed-loop.intervention-submission-receipt/v1"
def INTERVENTION_SUBMISSION_HISTORY_SCHEMA_V1 : String := "ag.governed-loop.intervention-submission-history/v1"
def RECEIPT_DOMAIN_V1 : String := "ag.governed-loop.intervention-submission-receipt-id/v1"

/-- Durable receipt stage. -/
inductive InterventionSubmissionStatusV1 where
  | Received (custody_verification : Digest)
  | GovernedAccepted (event successor_state : Digest) (transition : String)
  | GovernedRefused (refusal : Option Digest) (code : String)
  | OutcomeUnknown (code : String)
  | CustodyRefused (code : InterventionCustodyRefusalCodeV1)
  deriving DecidableEq

namespace InterventionSubmissionStatusV1

def serialize : InterventionSubmissionStatusV1 → Jcs
  | .Received custody_verification =>
    .obj [("custody_verification", to_jcs custody_verification), ("status", .str "received")]
  | .GovernedAccepted event successor_state transition =>
    .obj [("event", to_jcs event), ("status", .str "governed_accepted"),
      ("successor_state", to_jcs successor_state), ("transition", to_jcs transition)]
  | .GovernedRefused refusal code =>
    .obj [("code", to_jcs code), ("refusal", to_jcs refusal), ("status", .str "governed_refused")]
  | .OutcomeUnknown code => .obj [("code", to_jcs code), ("status", .str "outcome_unknown")]
  | .CustodyRefused code => .obj [("code", to_jcs code), ("status", .str "custody_refused")]

instance : Serialize InterventionSubmissionStatusV1 := ⟨serialize⟩

def is_custody_refused : InterventionSubmissionStatusV1 → Bool
  | .CustodyRefused _ => true
  | _ => false

def is_received : InterventionSubmissionStatusV1 → Bool
  | .Received _ => true
  | _ => false

/-- A governed result that cannot change any more. -/
def is_terminal : InterventionSubmissionStatusV1 → Bool
  | .GovernedAccepted _ _ _ | .GovernedRefused _ _ => true
  | _ => false

end InterventionSubmissionStatusV1

/-- One immutable, chained ingress receipt. -/
structure InterventionSubmissionReceiptV1 where
  schema : String
  receipt : Digest
  submission : Option Digest
  presentation_digest : Digest
  request : Option GovernedInterventionRequestIdV1
  target_runtime_profile : Option Digest
  submitting_principal : Option String
  result : InterventionSubmissionStatusV1
  previous_receipt : Option Digest
  recorded_at_unix_ms : UInt64
  deriving DecidableEq

/-- The document a receipt identity is derived from: every field but the identity. -/
structure ReceiptDigestInputV1 where
  receipt : InterventionSubmissionReceiptV1

def ReceiptDigestInputV1.serialize (value : ReceiptDigestInputV1) : Jcs :=
  .obj [("presentation_digest", to_jcs value.receipt.presentation_digest),
    ("previous_receipt", to_jcs value.receipt.previous_receipt),
    ("recorded_at_unix_ms", to_jcs value.receipt.recorded_at_unix_ms),
    ("request", to_jcs value.receipt.request), ("result", to_jcs value.receipt.result),
    ("schema", to_jcs value.receipt.schema), ("submission", to_jcs value.receipt.submission),
    ("submitting_principal", to_jcs value.receipt.submitting_principal),
    ("target_runtime_profile", to_jcs value.receipt.target_runtime_profile)]

instance : Serialize ReceiptDigestInputV1 := ⟨ReceiptDigestInputV1.serialize⟩

namespace InterventionSubmissionReceiptV1

def derived_receipt (sha : Sha256) (receipt : InterventionSubmissionReceiptV1) : Digest :=
  digest_value sha RECEIPT_DOMAIN_V1 ({ receipt } : ReceiptDigestInputV1)

/-- The receipt with the identity that is derived from it. -/
def identified (sha : Sha256) (receipt : InterventionSubmissionReceiptV1) : InterventionSubmissionReceiptV1 :=
  { receipt with receipt := receipt.derived_receipt sha }

/-- The chain that a receipt is checked in. -/
def chain_key (receipt : InterventionSubmissionReceiptV1) : String :=
  if receipt.result.is_custody_refused = true then
    "presentation:" ++ receipt.presentation_digest.as_str
  else "submission:" ++ (receipt.submission.getD receipt.presentation_digest).as_str

end InterventionSubmissionReceiptV1

/-- Receipt identities are unique. -/
instance : Constrained InterventionSubmissionReceiptV1 where
  conflict left right := left.receipt = right.receipt
  decide_conflict _ _ := inferInstance
  symmetric _ _ h := h.symm

def validate_receipt (sha : Sha256) (receipt : InterventionSubmissionReceiptV1) :
    Except InterventionIngressErrorV1 Unit :=
  reject (receipt.schema ≠ INTERVENTION_SUBMISSION_RECEIPT_SCHEMA_V1 ∨
    receipt.receipt ≠ receipt.derived_receipt sha) (.Corrupt "receipt identity mismatch")

def validate_receipt_chains_from (latest : ExtTreeMap String Digest) :
    List InterventionSubmissionReceiptV1 → Except InterventionIngressErrorV1 Unit
  | [] => pure ()
  | receipt :: receipts => do
    reject (receipt.previous_receipt ≠ latest[receipt.chain_key]?) (.Corrupt "receipt chain mismatch")
    validate_receipt_chains_from (latest.insert receipt.chain_key receipt.receipt) receipts

def validate_receipt_chains (receipts : List InterventionSubmissionReceiptV1) :
    Except InterventionIngressErrorV1 Unit :=
  validate_receipt_chains_from ∅ receipts

/-- Verified read-only projection of ingress receipt history. -/
structure InterventionSubmissionHistoryV1 where
  schema : String
  target_runtime_profile : Digest
  submission : Option Digest
  receipts : List InterventionSubmissionReceiptV1

/-- The durable tables of a ledger: the profile it is bound to and the receipts in
sequence order. The indexed columns of a receipt repeat its fields. -/
structure LedgerDb where
  target_runtime_profile : Digest
  receipts : Table InterventionSubmissionReceiptV1

/-- What a new ledger is created as. -/
def LedgerDb.created (target_runtime_profile : Digest) : LedgerDb :=
  { target_runtime_profile, receipts := .empty }

/-- A statement on the ledger. -/
abbrev LedgerTx (A : Type) : Type := Tx LedgerDb InterventionIngressErrorV1 A

/-- Append-only ingress receipt ledger, opened for one runtime profile. -/
structure InterventionSubmissionLedgerV1 where
  target_runtime_profile : Digest

namespace InterventionSubmissionLedgerV1

variable (sha : Sha256) (ledger : InterventionSubmissionLedgerV1)

/-- The rows a history reads. -/
def selected (submission : Option Digest) (db : LedgerDb) : List InterventionSubmissionReceiptV1 :=
  match submission with
  | some submission => db.receipts.rows.filter fun receipt => receipt.submission = some submission
  | none => db.receipts.rows

/-- Returns verified receipts for one submission or the complete ledger. -/
def history (submission : Option Digest) (db : LedgerDb) :
    Except InterventionIngressErrorV1 InterventionSubmissionHistoryV1 := do
  let receipts := selected submission db
  receipts.forM (validate_receipt sha)
  validate_receipt_chains receipts
  pure
    { schema := INTERVENTION_SUBMISSION_HISTORY_SCHEMA_V1
      target_runtime_profile := ledger.target_runtime_profile
      submission
      receipts }

def receipts_for_presentation (presentation : Digest) (db : LedgerDb) :
    Except InterventionIngressErrorV1 (List InterventionSubmissionReceiptV1) := do
  let receipts := db.receipts.rows.filter fun receipt => receipt.presentation_digest = presentation
  receipts.forM (validate_receipt sha)
  pure receipts

/-- `INSERT OR IGNORE` of one receipt, in a transaction of its own. -/
def insert_receipt (receipt : InterventionSubmissionReceiptV1) : LedgerTx Unit := do
  Transaction.lift (validate_receipt sha receipt)
  transaction do
    Transaction.lift (reject (receipt.recorded_at_unix_ms > ag_store.I64_MAX) (.Canonical "receipt time overflow"))
    update fun db => .ok ((), { db with receipts := (db.receipts.insert receipt).getD db.receipts })

def append_for_verified (verified : VerifiedInterventionSubmissionV1) (result : InterventionSubmissionStatusV1)
    (recorded_at_unix_ms : UInt64) : LedgerTx InterventionSubmissionReceiptV1 := do
  let submission := verified.envelope.body.submission
  let existing ← query (ledger.history sha (some submission))
  Transaction.lift (reject (∃ received ∈ existing.receipts.head?,
    received.presentation_digest ≠ verified.presentation_digest) (.Custody .ConflictingSubmission))
  match existing.receipts.find? fun receipt => receipt.result = result with
  | some equal => pure equal
  | none => do
    Transaction.lift (reject (existing.receipts.any (fun receipt => receipt.result.is_terminal) = true)
      (.Corrupt "terminal submission result cannot change"))
    let receipt := InterventionSubmissionReceiptV1.identified sha
      { schema := INTERVENTION_SUBMISSION_RECEIPT_SCHEMA_V1
        receipt := Digest.hash_bytes sha (.text "pending")
        submission := some submission
        presentation_digest := verified.presentation_digest
        request := some verified.request.request
        target_runtime_profile := some ledger.target_runtime_profile
        submitting_principal := some verified.envelope.body.submitting_principal
        result
        previous_receipt := existing.receipts.getLast?.map (·.receipt)
        recorded_at_unix_ms }
    insert_receipt sha receipt
    pure receipt

/-- Appends or returns the idempotent custody-received receipt. -/
def record_received (verified : VerifiedInterventionSubmissionV1) (recorded_at_unix_ms : UInt64) :
    LedgerTx InterventionSubmissionReceiptV1 := do
  Transaction.lift (reject (verified.envelope.body.target_runtime_profile ≠ ledger.target_runtime_profile)
    (.Custody .WrongTargetRuntime))
  ledger.append_for_verified sha verified (.Received verified.custody_verification) recorded_at_unix_ms

/-- Appends or returns one idempotent post-evaluation receipt. -/
def record_result (verified : VerifiedInterventionSubmissionV1) (result : InterventionSubmissionStatusV1)
    (recorded_at_unix_ms : UInt64) : LedgerTx InterventionSubmissionReceiptV1 := do
  Transaction.lift (reject (result.is_received = true ∨ result.is_custody_refused = true)
    (.Corrupt "wrong receipt stage for governed result"))
  ledger.append_for_verified sha verified result recorded_at_unix_ms

/-- Records a bounded pre-governance custody refusal over presented bytes. -/
def record_custody_refusal (presentation : String) (claimed_submission : Option Digest)
    (claimed_request : Option GovernedInterventionRequestIdV1) (code : InterventionCustodyRefusalCodeV1)
    (recorded_at_unix_ms : UInt64) : LedgerTx InterventionSubmissionReceiptV1 := do
  let presentation_digest := presentation_digest sha presentation
  let existing ← query (receipts_for_presentation sha presentation_digest)
  match existing.find? fun receipt => receipt.result = .CustodyRefused code with
  | some equal => pure equal
  | none => do
    let receipt := InterventionSubmissionReceiptV1.identified sha
      { schema := INTERVENTION_SUBMISSION_RECEIPT_SCHEMA_V1
        receipt := Digest.hash_bytes sha (.text "pending")
        submission := claimed_submission
        presentation_digest
        request := claimed_request
        target_runtime_profile := some ledger.target_runtime_profile
        submitting_principal := none
        result := .CustodyRefused code
        previous_receipt := existing.getLast?.map (·.receipt)
        recorded_at_unix_ms }
    insert_receipt sha receipt
    pure receipt

def verify (db : LedgerDb) : Except InterventionIngressErrorV1 Unit := do
  reject (db.target_runtime_profile ≠ ledger.target_runtime_profile) (.Corrupt "ledger identity mismatch")
  let _ ← ledger.history sha none db
  pure ()

/-- Opens the ledger for writing and creates it when there is none. -/
def open_writer (db : Option LedgerDb) (target_runtime_profile : Digest) :
    Except InterventionIngressErrorV1 (InterventionSubmissionLedgerV1 × LedgerDb) := do
  let db := db.getD (.created target_runtime_profile)
  verify sha ⟨target_runtime_profile⟩ db
  pure (⟨target_runtime_profile⟩, db)

/-- Opens an existing ledger for verified read-only projection. -/
def open_reader (db : LedgerDb) (target_runtime_profile : Digest) :
    Except InterventionIngressErrorV1 InterventionSubmissionLedgerV1 := do
  verify sha ⟨target_runtime_profile⟩ db
  pure ⟨target_runtime_profile⟩

end InterventionSubmissionLedgerV1

/-- A call that writes to the ledger. -/
inductive LedgerCall where
  | record_received (verified : VerifiedInterventionSubmissionV1) (recorded_at_unix_ms : UInt64)
  | record_result (verified : VerifiedInterventionSubmissionV1) (result : InterventionSubmissionStatusV1)
    (recorded_at_unix_ms : UInt64)
  | record_custody_refusal (presentation : String) (claimed_submission : Option Digest)
    (claimed_request : Option GovernedInterventionRequestIdV1) (code : InterventionCustodyRefusalCodeV1)
    (recorded_at_unix_ms : UInt64)

namespace LedgerCall

variable (sha : Sha256) (ledger : InterventionSubmissionLedgerV1)

def execute : LedgerCall → LedgerTx InterventionSubmissionReceiptV1
  | record_received verified recorded_at_unix_ms => ledger.record_received sha verified recorded_at_unix_ms
  | record_result verified result recorded_at_unix_ms =>
    ledger.record_result sha verified result recorded_at_unix_ms
  | record_custody_refusal presentation claimed_submission claimed_request code recorded_at_unix_ms =>
    ledger.record_custody_refusal sha presentation claimed_submission claimed_request code recorded_at_unix_ms

/-- The ledger after a sequence of calls, refused ones among them. -/
def run (db : LedgerDb) (calls : List LedgerCall) : LedgerDb :=
  calls.foldl (fun db call => (call.execute sha ledger db).2) db

end LedgerCall

end ag_app.intervention_ingress

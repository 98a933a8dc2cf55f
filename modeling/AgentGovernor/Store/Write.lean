import AgentGovernor.Lib.Transaction
import AgentGovernor.Store.Evidence
import AgentGovernor.Store.Schema

open ag_primitives Checked ag_campaign ag_campaign.governed Relational Transaction

namespace ag_store

/-- A statement, or a sequence of statements, over the tables of one store. -/
abbrev StoreTx (A : Type) : Type := Tx Db CampaignStoreErrorV1 A

def I64_MAX : UInt64 := 0x7FFFFFFFFFFFFFFF

/-- Counters and times are stored as signed integers. -/
def to_i64 (value : UInt64) : Except CampaignStoreErrorV1 UInt64 :=
  if value ≤ I64_MAX then .ok value else .error (.Corrupt "integer exceeds SQLite range")

/-- `u64::saturating_add`. -/
def saturating_add_u64 (left right : UInt64) : UInt64 :=
  if left.toNat + right.toNat < 2 ^ 64 then left + right else UInt64.ofNat (2 ^ 64 - 1)

section References

variable (db : Db)

def Db.has_campaign (campaign : CampaignId) : Prop :=
  ∃ row ∈ db.campaigns.rows, row.campaign = campaign

def Db.has_occurrence (campaign : CampaignId) (occurrence : OccurrenceId) : Prop :=
  ∃ row ∈ db.occurrences.rows, row.campaign = campaign ∧ row.occurrence = occurrence

def Db.has_disposition (decision : HumanDecisionIdV1) : Prop :=
  ∃ row ∈ db.human_dispositions.rows, row.1 = decision

instance (campaign : CampaignId) : Decidable (db.has_campaign campaign) := by
  delta Db.has_campaign
  infer_instance

instance (campaign : CampaignId) (occurrence : OccurrenceId) :
    Decidable (db.has_occurrence campaign occurrence) := by
  delta Db.has_occurrence
  infer_instance

instance (decision : HumanDecisionIdV1) : Decidable (db.has_disposition decision) := by
  delta Db.has_disposition
  infer_instance

end References

/-- `INSERT INTO` one table, with its uniqueness constraints and the foreign key
of the row enforced. -/
def insert_into {R : Type} [Constrained R] (table : Db → Table R) (store : Table R → Db → Db)
    (references : Db → Prop) [DecidablePred references] (row : R) : StoreTx Unit :=
  update fun db => do
    let rows ← ok_or ((table db).insert row) (.Sqlite .UniqueConstraint)
    reject (¬ references db) (.Sqlite .ForeignKeyConstraint)
    pure ((), store rows db)

/-- An `INSERT` that is made only when there is something to record. -/
def insert_if_some {R : Type} [Constrained R] (table : Db → Table R) (store : Table R → Db → Db)
    (references : R → Db → Prop) [∀ row, DecidablePred (references row)] (row : Option R) : StoreTx Unit :=
  match row with
  | some row => insert_into table store (references row) row
  | none => pure ()

def campaign_head : StoreTx CampaignHeadRow :=
  query fun db => ok_or db.campaigns.rows.head? (.Sqlite .QueryReturnedNoRows)

/-- The row that materializes a snapshot. -/
def occurrence_row (snapshot : OccurrenceSnapshotV1) (revision : UInt64) : OccurrenceRow :=
  { campaign := snapshot.key.campaign
    occurrence := snapshot.key.occurrence
    program_basis := snapshot.state.metadata.program
    program_counter := snapshot.program_counter
    prior_state_digest := snapshot.prior_state_digest
    state_digest := snapshot.state_digest
    revision
    snapshot }

def insert_occurrence (snapshot : OccurrenceSnapshotV1) (revision : UInt64) : StoreTx Unit := do
  let revision ← lift (to_i64 revision)
  insert_into Db.occurrences (fun rows db => { db with occurrences := rows })
    (fun db => db.has_campaign snapshot.key.campaign) (occurrence_row snapshot revision)

/-- The rows the update of an occurrence selects. -/
def OccurrenceRow.materializes (row : OccurrenceRow) (key : OccurrenceKeyV1) (state_digest : Digest) : Prop :=
  row.campaign = key.campaign ∧ row.occurrence = key.occurrence ∧ row.state_digest = state_digest

instance (row : OccurrenceRow) (key : OccurrenceKeyV1) (state_digest : Digest) :
    Decidable (row.materializes key state_digest) := by
  delta OccurrenceRow.materializes
  infer_instance

/-- Replaces the snapshot of an occurrence. A revision that leaves the integer
range is no longer an integer, which the strict table refuses. -/
def update_occurrence (expected successor : OccurrenceSnapshotV1) : StoreTx Nat :=
  update fun db => do
    reject (∃ row ∈ db.occurrences.rows,
        row.materializes successor.key expected.state_digest ∧ I64_MAX ≤ row.revision)
      (.Sqlite .DatatypeConstraint)
    let (changed, rows) ← ok_or
      (db.occurrences.update (fun row => row.materializes successor.key expected.state_digest)
        fun row => { occurrence_row successor (row.revision + 1) with
          campaign := row.campaign, occurrence := row.occurrence })
      (.Sqlite .UniqueConstraint)
    pure (changed, { db with occurrences := rows })

def spend_row (spend : AgAuthorizationSpendV1) (issuance : AgIssuanceV1) (transition : Digest) :
    AgSpendRefV1 × ExpectedSpendRow :=
  (spend.spend,
    { authorization := spend.authorization
      campaign := spend.key.campaign
      occurrence := spend.key.occurrence
      issuance := issuance.issuance
      spend_jcs := spend
      issuance_jcs := issuance
      transition })

def attempt_row (key : OccurrenceKeyV1) (custody : DocketCustodyV1) (transition : Digest) :
    DocketAttemptRefV1 × ExpectedAttemptRow :=
  (custody.attempt,
    { issuance := custody.issuance
      campaign := key.campaign
      occurrence := key.occurrence
      custody_jcs := custody
      transition })

def settlement_row (key : OccurrenceKeyV1) (settlement : DocketSettlementV1) (transition : Digest) :
    SettlementRefV1 × ExpectedSettlementRow :=
  (settlement.settlement,
    { attempt := settlement.attempt
      receipt := settlement.receipt
      campaign := key.campaign
      occurrence := key.occurrence
      settlement_jcs := settlement
      transition })

def human_row (artifact : HumanDispositionV1) (verification : HumanVerificationRefV1)
    (consumed_at_unix_ms : UInt64) : HumanDecisionIdV1 × ExpectedHumanRow :=
  (artifact.decision,
    { nonce := artifact.nonce
      campaign := artifact.campaign
      occurrence := artifact.occurrence
      halted_state_digest := artifact.halted_state_digest
      verification
      artifact_jcs := artifact
      consumed_at_unix_ms })

def discharge_row (discharge : ExactResidualDischargeV1) : ExpectedDischargeRow :=
  { authority := discharge.authority
    before := discharge.before
    closed := discharge.closed
    after := discharge.after }

/-- The journal row of a transition, chained to the event before it. -/
def transition_row (sha : Sha256) (campaign : CampaignId) (source_occurrence : Option OccurrenceId)
    (successor : OccurrenceSnapshotV1) (kind : CampaignTransitionKindV1) (predecessor : Digest)
    (evidence : CampaignTransitionEvidenceV1) (previous_event : Digest) (recorded_at_unix_ms : UInt64) :
    StoredTransitionRow :=
  { source_occurrence
    successor_occurrence := successor.key.occurrence
    kind
    predecessor
    successor := successor.state_digest
    snapshot := successor
    evidence
    evidence_digest := evidence_digest sha evidence
    previous_event
    event := store_event_digest sha
      { campaign
        source_occurrence
        successor_occurrence := successor.key.occurrence
        transition_kind := kind
        predecessor_state_digest := predecessor
        successor_state_digest := successor.state_digest
        evidence_digest := evidence_digest sha evidence
        previous_event_digest := previous_event
        recorded_at_unix_ms }
    recorded_at_unix_ms }

section Account

variable (expected successor : OccurrenceSnapshotV1)

/-- The spend the successor has and its predecessor did not. -/
def new_spend : Option (AgSpendRefV1 × ExpectedSpendRow) :=
  match expected.ag_spend, successor.ag_spend, successor.issuance with
  | none, some spend, some issuance => some (spend_row spend issuance successor.state_digest)
  | _, _, _ => none

/-- The attempt the successor has and its predecessor did not. -/
def new_attempt : Option (DocketAttemptRefV1 × ExpectedAttemptRow) :=
  match expected.docket_custody, successor.docket_custody with
  | none, some custody => some (attempt_row successor.key custody successor.state_digest)
  | _, _ => none

/-- The settlement the successor has and its predecessor did not. -/
def new_settlement : Option (SettlementRefV1 × ExpectedSettlementRow) :=
  match expected.settlement, successor.settlement with
  | none, some settlement => some (settlement_row successor.key settlement successor.state_digest)
  | _, _ => none

/-- Accounts for the facts the transition adds. -/
def account_new_facts : StoreTx Unit := do
  insert_if_some Db.ag_authorization_spends (fun rows db => { db with ag_authorization_spends := rows })
    (fun row db => db.has_occurrence row.2.campaign row.2.occurrence) (new_spend expected successor)
  insert_if_some Db.docket_attempts (fun rows db => { db with docket_attempts := rows })
    (fun row db => db.has_occurrence row.2.campaign row.2.occurrence) (new_attempt expected successor)
  insert_if_some Db.docket_settlements (fun rows db => { db with docket_settlements := rows })
    (fun row db => db.has_occurrence row.2.campaign row.2.occurrence) (new_settlement expected successor)

end Account

end ag_store

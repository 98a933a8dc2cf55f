import AgentGovernor.Store.Write

open ag_primitives Checked ag_campaign ag_campaign.governed Relational Transaction

namespace ag_store

/-- Receipt for one committed compare-and-swap transition. -/
structure CampaignCommitReceiptV1 where
  revision : UInt64
  predecessor_state_digest : Digest
  successor_state_digest : Digest
  event_digest : Digest
  deriving DecidableEq

/-- The refusal of a predecessor that is no longer the head. -/
def stale_predecessor (expected : OccurrenceSnapshotV1) (head : CampaignHeadRow) : CampaignStoreErrorV1 :=
  .StalePredecessor expected.state_digest head.state_digest

/-- The compare half of the compare-and-swap: the head, provided the successor is
legal and the head is its predecessor. -/
def authoritative_head (sha : Sha256) (expected successor : OccurrenceSnapshotV1)
    (kind : CampaignTransitionKindV1) : StoreTx CampaignHeadRow := do
  lift (map_err (GovernedLoopKernelV1.validate_successor sha expected successor) .Kernel)
  lift (reject (expected.key.campaign ≠ successor.key.campaign) .BindingMismatch)
  let head ← campaign_head
  lift (reject (head.campaign ≠ expected.key.campaign ∨ head.occurrence ≠ expected.key.occurrence)
    .BindingMismatch)
  lift (reject (head.state_digest ≠ expected.state_digest) (stale_predecessor expected head))
  lift (validate_transition_kind expected successor kind)
  pure head

/-- The occurrence of the successor: the row of its predecessor moves on, or a new
occurrence gets a row of its own. -/
def materialize (expected successor : OccurrenceSnapshotV1) (head : CampaignHeadRow) : StoreTx Unit :=
  if expected.key = successor.key then do
    let changed ← update_occurrence expected successor
    lift (reject (changed ≠ 1) (stale_predecessor expected head))
  else
    insert_occurrence successor 1

/-- The rows the update of a campaign head selects. -/
def CampaignHeadRow.stands_at (row : CampaignHeadRow) (campaign : CampaignId) (revision : UInt64)
    (state_digest : Digest) : Prop :=
  row.campaign = campaign ∧ row.revision = revision ∧ row.state_digest = state_digest

instance (row : CampaignHeadRow) (campaign : CampaignId) (revision : UInt64) (state_digest : Digest) :
    Decidable (row.stands_at campaign revision state_digest) := by
  delta CampaignHeadRow.stands_at
  infer_instance

/-- The head of a campaign after a transition. -/
def CampaignHeadRow.advance (head : CampaignHeadRow) (successor : OccurrenceSnapshotV1) (event : Digest) :
    CampaignHeadRow :=
  { head with
    occurrence := successor.key.occurrence
    state_digest := successor.state_digest
    revision := saturating_add_u64 head.revision 1
    event_count := saturating_add_u64 head.event_count 1
    event_head := event }

/-- The swap half: the head moves, provided it is still where it was read. -/
def update_head (head : CampaignHeadRow) (expected successor : OccurrenceSnapshotV1) (event : Digest) :
    StoreTx Unit := do
  let next := head.advance successor event
  let _ ← lift (to_i64 next.revision)
  let _ ← lift (to_i64 next.event_count)
  let _ ← lift (to_i64 head.revision)
  let changed ← update fun db => do
    let (changed, rows) ← ok_or
      (db.campaigns.update
        (fun row => row.stands_at successor.key.campaign head.revision expected.state_digest)
        fun row => { next with campaign := row.campaign })
      (.Sqlite .UniqueConstraint)
    pure (changed, { db with campaigns := rows })
  lift (reject (changed ≠ 1) (stale_predecessor expected head))

/-- The journal row of a transition from the head. -/
def CampaignHeadRow.transition (sha : Sha256) (head : CampaignHeadRow)
    (expected successor : OccurrenceSnapshotV1) (kind : CampaignTransitionKindV1)
    (evidence : CampaignTransitionEvidenceV1) (recorded_at_unix_ms : UInt64) : StoredTransitionRow :=
  transition_row sha expected.key.campaign (some expected.key.occurrence) successor kind
    expected.state_digest evidence head.event_head recorded_at_unix_ms

/-- Writes one transition: the compare-and-swap against the head, the occurrence,
the accounting, the journal row and the new head. -/
def write_transition (sha : Sha256) (expected successor : OccurrenceSnapshotV1)
    (kind : CampaignTransitionKindV1) (evidence : CampaignTransitionEvidenceV1)
    (recorded_at_unix_ms : UInt64) : StoreTx CampaignCommitReceiptV1 := do
  let head ← authoritative_head sha expected successor kind
  let row := head.transition sha expected successor kind evidence recorded_at_unix_ms
  materialize expected successor head
  account_new_facts expected successor
  let _ ← lift (to_i64 recorded_at_unix_ms)
  insert_into Db.transitions (fun rows db => { db with transitions := rows })
    (fun db => db.has_campaign expected.key.campaign) (expected.key.campaign, row)
  update_head head expected successor row.event
  pure
    { revision := saturating_add_u64 head.revision 1
      predecessor_state_digest := expected.state_digest
      successor_state_digest := successor.state_digest
      event_digest := row.event }

/-- The accounting of the residuals a disposition closes. -/
def new_discharge (artifact : HumanDispositionV1) : Option (HumanDecisionIdV1 × ExpectedDischargeRow) :=
  match artifact.disposition with
  | .ExactResidualDisposition discharge => some (artifact.decision, discharge_row discharge)
  | _ => none

def insert_human_disposition (artifact : HumanDispositionV1) (verification : HumanVerificationRefV1)
    (consumed_at_unix_ms : UInt64) : StoreTx Unit := do
  let present ← query fun db => .ok (decide (∃ row ∈ db.human_dispositions.rows,
    row.1 = artifact.decision ∨ row.2.nonce = artifact.nonce))
  lift (reject (present = true) .HumanDispositionReplay)
  let consumed_at ← lift (to_i64 consumed_at_unix_ms)
  insert_into Db.human_dispositions (fun rows db => { db with human_dispositions := rows })
    (fun db => db.has_occurrence artifact.campaign artifact.occurrence)
    (human_row artifact verification consumed_at)
  insert_if_some Db.residual_discharges (fun rows db => { db with residual_discharges := rows })
    (fun row db => db.has_disposition row.1) (new_discharge artifact)

section Effect

variable (effect : HumanDispositionEffectV1)

/-- The successor of the halted snapshot. -/
def effect_first : OccurrenceSnapshotV1 :=
  match effect with
  | .Updated snapshot _ => snapshot
  | .OpenedOccurrence halted _ _ => halted

/-- The occurrence that was opened after it, if any. -/
def effect_second : Option OccurrenceSnapshotV1 :=
  match effect with
  | .Updated _ _ => none
  | .OpenedOccurrence _ successor _ => some successor

def effect_verification : HumanVerificationRefV1 :=
  match effect with
  | .Updated _ verification => verification
  | .OpenedOccurrence _ _ verification => verification

end Effect

namespace CampaignStoreV1

variable (sha : Sha256)

/-- Commits one non-human kernel successor with exact compare-and-swap semantics. -/
def commit (expected successor : OccurrenceSnapshotV1) (kind : CampaignTransitionKindV1)
    (recorded_at_unix_ms : UInt64) : StoreTx CampaignCommitReceiptV1 := do
  lift (reject (kind = .HumanDisposition ∨ kind = .CampaignCreated)
    (.Corrupt "special transition requires its exact store API"))
  lift (validate_transition_kind expected successor kind)
  transaction (write_transition sha expected successor kind .None recorded_at_unix_ms)

/-- The transitions of a disposition, one or two under the same evidence. -/
def write_disposition (expected first : OccurrenceSnapshotV1)
    (second : Option OccurrenceSnapshotV1) (artifact : HumanDispositionV1)
    (verification : HumanVerificationRefV1) (recorded_at_unix_ms : UInt64) :
    StoreTx (List CampaignCommitReceiptV1) := do
  insert_human_disposition artifact verification recorded_at_unix_ms
  let evidence := CampaignTransitionEvidenceV1.HumanDisposition artifact verification
  let receipt ← write_transition sha expected first .HumanDisposition evidence recorded_at_unix_ms
  match second with
  | some second => do
    let opened ← write_transition sha first second .HumanDisposition evidence recorded_at_unix_ms
    pure [receipt, opened]
  | none => pure [receipt]

/-- Atomically consumes one exact human disposition and applies its closed effect. -/
def commit_human_disposition (expected : OccurrenceSnapshotV1)
    (effect : HumanDispositionEffectV1) (artifact : HumanDispositionV1) (recorded_at_unix_ms : UInt64) :
    StoreTx (List CampaignCommitReceiptV1) := do
  lift (validate_human_store_binding sha expected (effect_first effect) (effect_second effect) artifact)
  transaction (write_disposition sha expected (effect_first effect) (effect_second effect) artifact
    (effect_verification effect) recorded_at_unix_ms)

/-- Commits an authority-safe kernel transition together with the authenticated
intervention that selected it. -/
def commit_governed_intervention (expected successor : OccurrenceSnapshotV1)
    (kind : CampaignTransitionKindV1) (verified : VerifiedGovernedInterventionV1)
    (recorded_at_unix_ms : UInt64) : StoreTx CampaignCommitReceiptV1 := do
  lift (validate_governed_intervention_evidence sha expected successor kind verified)
  transaction (write_transition sha expected successor kind (.GovernedIntervention verified)
    recorded_at_unix_ms)

/-- Loads the authoritative current snapshot. -/
def current : StoreTx OccurrenceSnapshotV1 := do
  let snapshot ← query fun db => ok_or
    (db.campaigns.rows.flatMap fun head => db.occurrences.rows.filterMap fun row =>
      if row.campaign = head.campaign ∧ row.occurrence = head.occurrence then some row.snapshot
      else none).head?
    (.Sqlite .QueryReturnedNoRows)
  lift (map_err (snapshot.validate_integrity sha) .Kernel)
  pure snapshot

/-- `INSERT OR IGNORE INTO refusals`. -/
def insert_or_ignore_refusal (row : RefusalRow) : StoreTx Unit := do
  let present ← query fun db => .ok (decide (∃ present ∈ db.refusals.rows, conflict present row))
  if present = true then pure ()
  else
    insert_into Db.refusals (fun rows db => { db with refusals := rows })
      (fun db => db.has_occurrence row.campaign row.occurrence) row

/-- Records a durable non-authorizing refusal without changing the program counter. -/
def record_refusal (refusal : RefusalOutcomeV1) (recorded_at_unix_ms : UInt64) : StoreTx Digest := do
  let current ← current sha
  lift (reject (refusal.key ≠ current.key ∨ refusal.at_state_digest ≠ current.state_digest)
    .BindingMismatch)
  lift (validate_refusal_intervention_binding sha refusal)
  let refusal_id := digest_value sha REFUSAL_DOMAIN_V1 refusal
  transaction do
    let recorded_at ← lift (to_i64 recorded_at_unix_ms)
    insert_or_ignore_refusal
      { refusal_id
        campaign := refusal.key.campaign
        occurrence := refusal.key.occurrence
        state_digest := refusal.at_state_digest
        refusal_jcs := refusal
        recorded_at_unix_ms := recorded_at }
  pure refusal_id

end CampaignStoreV1

end ag_store

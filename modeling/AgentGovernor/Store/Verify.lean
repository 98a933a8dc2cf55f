import AgentGovernor.Store.Commit
import AgentGovernor.Store.Replay

open Std (ExtTreeMap)
open ag_primitives Checked ag_campaign ag_campaign.governed Relational Transaction Windows

namespace ag_store

/-- Read-only replay result. -/
structure CampaignReplayReportV1 where
  campaign : CampaignId
  transitions : Nat
  ag_spends : Nat
  docket_attempts : Nat
  settlements : Nat
  human_dispositions : Nat
  current_state_digest : Digest

def verify_occurrence (expected : ExtTreeMap OccurrenceId OccurrenceSnapshotV1) (row : OccurrenceRow) :
    Except CampaignStoreErrorV1 Unit := do
  let expected_snapshot ← ok_or expected[row.occurrence]? (.Corrupt "unreplayed occurrence row")
  reject (row.snapshot ≠ expected_snapshot ∨ row.program_basis ≠ row.snapshot.state.metadata.program ∨
      row.program_counter ≠ row.snapshot.program_counter ∨
      row.prior_state_digest ≠ row.snapshot.prior_state_digest ∨
      row.state_digest ≠ row.snapshot.state_digest)
    (.Corrupt "occurrence materialization differs from replay")

def verify_occurrence_materialization (db : Db) (campaign : CampaignId)
    (expected : ExtTreeMap OccurrenceId OccurrenceSnapshotV1) : Except CampaignStoreErrorV1 Unit := do
  let rows := sort_by_key OccurrenceRow.occurrence
    (db.occurrences.rows.filter fun row => row.campaign = campaign)
  rows.forM (verify_occurrence expected)
  reject ((rows.map OccurrenceRow.occurrence).toFinset ≠ expected.keys.toFinset)
    (.Corrupt "occurrence materialization is incomplete")

def verify_spend_accounting (db : Db) (expected : ExtTreeMap AgSpendRefV1 ExpectedSpendRow) :
    Except CampaignStoreErrorV1 Unit :=
  reject (collect db.ag_authorization_spends.rows ≠ expected)
    (.Corrupt "AG spend accounting differs from replay")

def verify_attempt_accounting (db : Db) (expected : ExtTreeMap DocketAttemptRefV1 ExpectedAttemptRow) :
    Except CampaignStoreErrorV1 Unit :=
  reject (collect db.docket_attempts.rows ≠ expected)
    (.Corrupt "Docket attempt accounting differs from replay")

def verify_settlement_accounting (db : Db) (expected : ExtTreeMap SettlementRefV1 ExpectedSettlementRow) :
    Except CampaignStoreErrorV1 Unit :=
  reject (collect db.docket_settlements.rows ≠ expected)
    (.Corrupt "Docket settlement accounting differs from replay")

/-- The accounting a disposition implies for the residuals it closed. -/
def expected_discharge (human : ExpectedHumanRow) : Option ExpectedDischargeRow :=
  match human.artifact_jcs.disposition with
  | .ExactResidualDisposition discharge => some (discharge_row discharge)
  | _ => none

def verify_residual_discharge_accounting (db : Db)
    (humans : ExtTreeMap HumanDecisionIdV1 ExpectedHumanRow) : Except CampaignStoreErrorV1 Unit :=
  reject (collect db.residual_discharges.rows ≠ humans.filterMap fun _ human => expected_discharge human)
    (.Corrupt "residual discharge accounting differs from replay")

def verify_human_artifacts (db : Db) (expected : ExtTreeMap HumanDecisionIdV1 ExpectedHumanRow) :
    Except CampaignStoreErrorV1 Unit := do
  reject (collect db.human_dispositions.rows ≠ expected)
    (.Corrupt "human disposition materialization differs from replay")
  verify_residual_discharge_accounting db expected

variable (sha : Sha256)

def verify_refusal (campaign : CampaignId) (valid_states : List Digest) (row : RefusalRow) :
    Except CampaignStoreErrorV1 Unit :=
  reject (row.refusal_id ≠ digest_value sha REFUSAL_DOMAIN_V1 row.refusal_jcs ∨ row.campaign ≠ campaign ∨
      row.campaign ≠ row.refusal_jcs.key.campaign ∨ row.occurrence ≠ row.refusal_jcs.key.occurrence ∨
      row.state_digest ≠ row.refusal_jcs.at_state_digest ∨ row.state_digest ∉ valid_states)
    (.Corrupt "refusal materialization mismatch")

def verify_refusals (db : Db) (campaign : CampaignId)
    (transitions : List StoredTransitionRow) : Except CampaignStoreErrorV1 Unit :=
  db.refusals.rows.forM (verify_refusal sha campaign (transitions.map StoredTransitionRow.successor))

/-- The head stands where the journal ends. -/
def verify_head (head : CampaignHeadRow) (transitions : List StoredTransitionRow) (state : ReplayState) :
    Except CampaignStoreErrorV1 Unit := do
  let final_snapshot ← ok_or state.previous_snapshot (.Corrupt "missing final replay snapshot")
  reject (final_snapshot.key.occurrence ≠ head.occurrence ∨
      final_snapshot.state_digest ≠ head.state_digest ∨ state.previous_event ≠ head.event_head ∨
      head.event_count.toNat ≠ transitions.length ∨ head.revision ≠ head.event_count)
    (.Corrupt "campaign head does not equal replay result")

/-- Every table holds what the journal implies. -/
def verify_tables (db : Db) (campaign : CampaignId) (transitions : List StoredTransitionRow)
    (state : ReplayState) : Except CampaignStoreErrorV1 Unit := do
  verify_occurrence_materialization db campaign state.latest_occurrences
  verify_spend_accounting db state.spends
  verify_attempt_accounting db state.attempts
  verify_settlement_accounting db state.settlements
  reject (state.human_decisions ≠ state.human_artifacts.keys.toFinset)
    (.Corrupt "human decision accounting differs from transition evidence")
  verify_human_artifacts db state.human_artifacts
  verify_refusals sha db campaign transitions

/-- The sole campaign of the store. -/
def sole_campaign (db : Db) : Except CampaignStoreErrorV1 CampaignHeadRow :=
  match db.campaigns.rows with
  | [head] => pure head
  | _ => throw (.Corrupt "store must contain exactly one campaign")

/-- Deterministic transition replay and exact journal accounting. -/
def replay_store (db : Db) : Except CampaignStoreErrorV1 CampaignReplayReportV1 := do
  let head ← sole_campaign db
  let stored_profile_digest := db.runtime_profile.map StoredRuntimeProfileV1.digest
  let transitions := db.journal head.campaign
  reject (transitions = []) (.Corrupt "transition journal is empty")
  let state ← replay_rows sha head.campaign stored_profile_digest 0 (.initial sha head.campaign) transitions
  verify_head head transitions state
  verify_tables sha db head.campaign transitions state
  pure
    { campaign := head.campaign
      transitions := transitions.length
      ag_spends := state.spends.size
      docket_attempts := state.attempts.size
      settlements := state.settlements.size
      human_dispositions := state.human_decisions.card
      current_state_digest := head.state_digest }

/-- `char::is_whitespace`. -/
def is_whitespace (character : Char) : Bool :=
  let code := character.toNat
  (9 ≤ code ∧ code ≤ 13) ∨ code ∈ [0x20, 0x85, 0xA0, 0x1680, 0x2028, 0x2029, 0x202F, 0x205F, 0x3000] ∨
    (0x2000 ≤ code ∧ code ≤ 0x200A)

/-- A profile schema is one nonempty token. -/
def is_token (schema : String) : Prop :=
  schema ≠ "" ∧ schema.toList.any is_whitespace = false

instance (schema : String) : Decidable (is_token schema) := by
  delta is_token
  infer_instance

def write_runtime_profile (runtime_profile : Option (String × Jcs)) : StoreTx (Option Digest) :=
  match runtime_profile with
  | some (schema, profile_jcs) => do
    lift (reject (¬ is_token schema) (.Canonical "runtime profile schema must be one nonempty token"))
    let digest := Digest.hash_domain sha RUNTIME_PROFILE_DIGEST_DOMAIN_V1 (.jcs profile_jcs)
    update fun db => .ok ((), { db with
      runtime_profile := some { schema, digest, canonical_bytes := profile_jcs } })
    pure (some digest)
  | none => pure none

/-- The rows of a new campaign. -/
def write_genesis (initial : OccurrenceSnapshotV1) (runtime_profile : Option (String × Jcs))
    (recorded_at_unix_ms : UInt64) : StoreTx Unit := do
  let profile_digest ← write_runtime_profile sha runtime_profile
  let campaign := initial.key.campaign
  let row := transition_row sha campaign none initial .CampaignCreated initial.prior_state_digest
    (.Genesis profile_digest) (genesis_event sha campaign) recorded_at_unix_ms
  insert_into Db.campaigns (fun rows db => { db with campaigns := rows }) (fun _ => True)
    { campaign
      occurrence := initial.key.occurrence
      state_digest := initial.state_digest
      revision := 1
      event_count := 1
      event_head := row.event }
  insert_occurrence initial 1
  let _ ← lift (to_i64 recorded_at_unix_ms)
  insert_into Db.transitions (fun rows db => { db with transitions := rows })
    (fun db => db.has_campaign campaign) (campaign, row)

namespace CampaignStoreV1

/-- The stored profile, when it is bound as it was at genesis. -/
def runtime_profile (sha : Sha256) (db : Db) :
    Except CampaignStoreErrorV1 (Option StoredRuntimeProfileV1) :=
  match db.runtime_profile with
  | some profile => do
    reject (¬ is_token profile.schema ∨ profile.digest ≠
        Digest.hash_domain sha RUNTIME_PROFILE_DIGEST_DOMAIN_V1 (.jcs profile.canonical_bytes))
      (.Corrupt "runtime profile binding differs from genesis")
    pure (some profile)
  | none => pure none

/-- Verifies the identity of the store and replays it. -/
def replay (sha : Sha256) (db : Db) : Except CampaignStoreErrorV1 CampaignReplayReportV1 := do
  let _ ← runtime_profile sha db
  replay_store sha db

/-- Creates a new store around one initial occurrence, and replays it. -/
def create_with_runtime_profile (sha : Sha256) (initial : OccurrenceSnapshotV1)
    (runtime_profile : Option (String × Jcs)) (recorded_at_unix_ms : UInt64) :
    Except CampaignStoreErrorV1 Db := do
  map_err (initial.validate_integrity sha) CampaignStoreErrorV1.Kernel
  reject (initial.program_counter ≠ .ObservationRequired ∨ initial.prior_occurrence.isSome = true)
    (.Corrupt "genesis must be an initial observation-required occurrence")
  let (result, db) := transaction (write_genesis sha initial runtime_profile recorded_at_unix_ms) Db.empty
  result
  let _ ← replay sha db
  pure db

end CampaignStoreV1

end ag_store

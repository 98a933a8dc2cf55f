import AgentGovernor.Store.Write

open Std (ExtTreeMap)
open ag_primitives Checked ag_campaign ag_campaign.governed Relational Windows

namespace ag_store

theorem uuid_toNat_injective : Function.Injective fun id : OccurrenceId => id.uuid.toNat := by
  rintro ⟨left⟩ ⟨right⟩ h
  exact congrArg OccurrenceId.mk (BitVec.eq_of_toNat_eq h)

/-- The order of the hyphenated texts is the order of the numbers. -/
instance : LinearOrder OccurrenceId := LinearOrder.lift' _ uuid_toNat_injective

/-- What replay has reconstructed from the rows read so far. -/
structure ReplayState where
  previous_snapshot : Option OccurrenceSnapshotV1
  previous_event : Digest
  latest_occurrences : ExtTreeMap OccurrenceId OccurrenceSnapshotV1
  spends : ExtTreeMap AgSpendRefV1 ExpectedSpendRow
  attempts : ExtTreeMap DocketAttemptRefV1 ExpectedAttemptRow
  settlements : ExtTreeMap SettlementRefV1 ExpectedSettlementRow
  human_decisions : Finset HumanDecisionIdV1
  human_artifacts : ExtTreeMap HumanDecisionIdV1 ExpectedHumanRow

variable (sha : Sha256) (campaign : CampaignId)

def ReplayState.initial : ReplayState :=
  { previous_snapshot := none
    previous_event := genesis_event sha campaign
    latest_occurrences := ∅
    spends := ∅
    attempts := ∅
    settlements := ∅
    human_decisions := ∅
    human_artifacts := ∅ }

/-- The message about the row at a position. -/
def row_failure (index : Nat) (failure : String) : CampaignStoreErrorV1 :=
  .Corrupt ("transition " ++ toString (index + 1) ++ " " ++ failure)

/-- The event digest the columns of a row give. -/
def StoredTransitionRow.expected_event (row : StoredTransitionRow) : Digest :=
  store_event_digest sha
    { campaign
      source_occurrence := row.source_occurrence
      successor_occurrence := row.successor_occurrence
      transition_kind := row.kind
      predecessor_state_digest := row.predecessor
      successor_state_digest := row.successor
      evidence_digest := row.evidence_digest
      previous_event_digest := row.previous_event
      recorded_at_unix_ms := row.recorded_at_unix_ms }

/-- A row is bound to its snapshot, to its evidence and to the event before it. -/
def replay_binding (index : Nat) (previous_event : Digest)
    (row : StoredTransitionRow) : Except CampaignStoreErrorV1 Unit := do
  map_err (row.snapshot.validate_integrity sha) .Kernel
  reject (row.snapshot.key.campaign ≠ campaign ∨ row.successor_occurrence ≠ row.snapshot.key.occurrence ∨
      row.predecessor ≠ row.snapshot.prior_state_digest ∨ row.successor ≠ row.snapshot.state_digest)
    (row_failure index "snapshot binding failed")
  reject (row.evidence_digest ≠ evidence_digest sha row.evidence ∨ row.previous_event ≠ previous_event)
    (row_failure index "evidence/event chain failed")
  reject (row.event ≠ row.expected_event sha campaign) (row_failure index "event digest failed")

def replay_genesis (stored_profile_digest : Option Digest) (row : StoredTransitionRow) :
    Except CampaignStoreErrorV1 Unit :=
  match row.evidence with
  | .Genesis genesis_profile =>
    reject (row.kind ≠ .CampaignCreated ∨ row.source_occurrence.isSome = true ∨
        row.snapshot.program_counter ≠ .ObservationRequired ∨
        row.snapshot.prior_occurrence.isSome = true ∨ genesis_profile ≠ stored_profile_digest)
      (.Corrupt "invalid campaign genesis transition")
  | _ => throw (.Corrupt "campaign genesis lacks its runtime-profile binding")

/-- The decisions a row consumed, none of which may have been seen before. -/
def replay_decisions (known : Finset HumanDecisionIdV1) :
    List HumanDecisionIdV1 → Except CampaignStoreErrorV1 (Finset HumanDecisionIdV1)
  | [] => pure known
  | decision :: rest => do
    reject (decision ∈ known) (.Corrupt "human decision appears twice in replay")
    replay_decisions (insert decision known) rest

/-- The decisions of the target that the source did not have. -/
def new_decisions (source target : OccurrenceSnapshotV1) : List HumanDecisionIdV1 :=
  target.state.metadata.used_human_decisions.filter fun decision =>
    decision ∉ source.state.metadata.used_human_decisions

def replay_successor (index : Nat) (prior : OccurrenceSnapshotV1)
    (row : StoredTransitionRow) : Except CampaignStoreErrorV1 Unit := do
  reject (row.source_occurrence ≠ some prior.key.occurrence)
    (row_failure index "source occurrence failed")
  map_err (GovernedLoopKernelV1.validate_successor sha prior row.snapshot) .Kernel
  validate_transition_kind prior row.snapshot row.kind
  validate_replayed_evidence sha prior row.snapshot row.kind row.evidence

/-- The first row creates the campaign, every other row succeeds the one before. -/
def replay_link (stored_profile_digest : Option Digest) (index : Nat) (state : ReplayState)
    (row : StoredTransitionRow) : Except CampaignStoreErrorV1 (Finset HumanDecisionIdV1) :=
  if index = 0 then do
    replay_genesis stored_profile_digest row
    pure state.human_decisions
  else do
    let prior ← ok_or state.previous_snapshot (.Corrupt "missing replay predecessor")
    replay_successor sha index prior row
    replay_decisions state.human_decisions (new_decisions prior row.snapshot)

def replay_spend (spends : ExtTreeMap AgSpendRefV1 ExpectedSpendRow) (row : StoredTransitionRow) :
    Except CampaignStoreErrorV1 (ExtTreeMap AgSpendRefV1 ExpectedSpendRow) :=
  match row.snapshot.ag_spend, row.snapshot.issuance with
  | some spend, some issuance =>
    let entry := spend_row spend issuance row.successor
    pure (spends.insertIfNew entry.1 entry.2)
  | some _, none => throw (.Corrupt "AG spend lacks exact issuance")
  | none, _ => pure spends

def replay_attempt (attempts : ExtTreeMap DocketAttemptRefV1 ExpectedAttemptRow)
    (row : StoredTransitionRow) : ExtTreeMap DocketAttemptRefV1 ExpectedAttemptRow :=
  match row.snapshot.docket_custody with
  | some custody =>
    let entry := attempt_row row.snapshot.key custody row.successor
    attempts.insertIfNew entry.1 entry.2
  | none => attempts

def replay_settlement (settlements : ExtTreeMap SettlementRefV1 ExpectedSettlementRow)
    (row : StoredTransitionRow) : ExtTreeMap SettlementRefV1 ExpectedSettlementRow :=
  match row.snapshot.settlement with
  | some settlement =>
    let entry := settlement_row row.snapshot.key settlement row.successor
    settlements.insertIfNew entry.1 entry.2
  | none => settlements

/-- The artifact a row carries. The two rows of one disposition carry the same. -/
def replay_artifact (artifacts : ExtTreeMap HumanDecisionIdV1 ExpectedHumanRow)
    (row : StoredTransitionRow) : Except CampaignStoreErrorV1 (ExtTreeMap HumanDecisionIdV1 ExpectedHumanRow) :=
  match row.evidence with
  | .HumanDisposition artifact verification => do
    let entry := human_row artifact verification row.recorded_at_unix_ms
    reject (∃ prior ∈ artifacts[entry.1]?, prior ≠ entry.2)
      (.Corrupt "human disposition evidence changed across one transaction")
    pure (artifacts.insert entry.1 entry.2)
  | _ => pure artifacts

/-- One round of the replay loop. -/
def replay_row (stored_profile_digest : Option Digest) (index : Nat)
    (state : ReplayState) (row : StoredTransitionRow) : Except CampaignStoreErrorV1 ReplayState := do
  replay_binding sha campaign index state.previous_event row
  let human_decisions ← replay_link sha stored_profile_digest index state row
  let spends ← replay_spend state.spends row
  let human_artifacts ← replay_artifact state.human_artifacts row
  pure
    { previous_snapshot := some row.snapshot
      previous_event := row.event
      latest_occurrences := state.latest_occurrences.insert row.successor_occurrence row.snapshot
      spends
      attempts := replay_attempt state.attempts row
      settlements := replay_settlement state.settlements row
      human_decisions
      human_artifacts }

/-- The replay loop over the rows from a position on. -/
def replay_rows (stored_profile_digest : Option Digest) :
    Nat → ReplayState → List StoredTransitionRow → Except CampaignStoreErrorV1 ReplayState
  | _, state, [] => pure state
  | index, state, row :: rows => do
    let state ← replay_row sha campaign stored_profile_digest index state row
    replay_rows stored_profile_digest (index + 1) state rows

end ag_store

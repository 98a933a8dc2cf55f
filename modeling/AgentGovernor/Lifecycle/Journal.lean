import AgentGovernor.Lib.Interleaving
import AgentGovernor.Lifecycle.Contract

open ag_primitives Checked ag_campaign.governed Effects Windows

namespace ag_app.governed_campaign_production_v1

/-- A row of `lifecycle_events`: the sequence is its primary key, and the event identity is
unique. -/
structure EventRow where
  sequence : Nat
  event_id : String
  event_jcs : ProductionLifecycleEventV1

/-- The journal file, as far as the calls change it. Its contract is written once, and a
journal is only opened with that contract. -/
structure LifecycleDb where
  lifecycle_events : List EventRow

/-- `SELECT event_jcs FROM lifecycle_events ORDER BY sequence`. -/
def LifecycleDb.events (db : LifecycleDb) : List ProductionLifecycleEventV1 :=
  (sort_by_key EventRow.sequence db.lifecycle_events).map EventRow.event_jcs

/-- The statements a call executes, each on its own. -/
inductive JournalOp where
  | find (event_id : String)
  | select
  | insert (row : EventRow)

def JournalOp.Reply : JournalOp → Type
  | .find _ => Option ProductionLifecycleEventV1
  | .select => List ProductionLifecycleEventV1
  | .insert _ => Unit

abbrev JournalOp.Answer (op : JournalOp) : Type := Except String op.Reply

/-- What the journal file answers. Every statement can fail for a reason of the store, and
an insertion fails on a sequence or an identity that is taken. A failed statement changes
nothing. -/
inductive JournalOp.Serves : (op : JournalOp) → LifecycleDb → op.Answer → LifecycleDb → Prop where
  | fails {op : JournalOp} {db : LifecycleDb} {error : String} : Serves op db (.error error) db
  | finds {event_id : String} {db : LifecycleDb} : Serves (.find event_id) db
    (.ok ((db.lifecycle_events.find? fun row => row.event_id = event_id).map EventRow.event_jcs)) db
  | selects {db : LifecycleDb} : Serves .select db (.ok db.events) db
  | inserts {row : EventRow} {db : LifecycleDb}
    (hkey : ∀ taken ∈ db.lifecycle_events, taken.sequence ≠ row.sequence)
    (hunique : ∀ taken ∈ db.lifecycle_events, taken.event_id ≠ row.event_id) :
    Serves (.insert row) db (.ok ()) ⟨db.lifecycle_events ++ [row]⟩

abbrev JournalProgram : Type → Type := Program JournalOp JournalOp.Answer LifecycleErrorV1

/-- One statement, its failure reported as that of the store. -/
def execute (op : JournalOp) : JournalProgram op.Reply := do
  let answer ← ask op
  lift (map_err answer LifecycleErrorV1.Store)

/-- `i64::try_from(prior.len() + 1)`. -/
def next_sequence (prior : List ProductionLifecycleEventV1) : Except LifecycleErrorV1 Nat := do
  reject (prior.length + 1 ≥ 2 ^ 63) (.Contract "event count")
  pure (prior.length + 1)

/-- The statements of `append` behind the lookup of the event. -/
def append_new (contract : ProductionCampaignLifecycleV1) (event : ProductionLifecycleEventV1) :
    JournalProgram Bool := do
  let prior ← execute .select
  lift (validate_next_fact contract prior event.fact)
  let sequence ← lift (next_sequence prior)
  execute (.insert { sequence, event_id := event.event_id, event_jcs := event })
  pure true

def append (sha : Sha256) (contract : ProductionCampaignLifecycleV1) (fact : ProductionLifecycleFactV1) :
    JournalProgram Bool := do
  let event := ProductionLifecycleEventV1.sealed sha contract.lifecycle_id fact
  let existing ← execute (.find event.event_id)
  match existing with
  | some existing => lift (if existing = event then .ok false else .error (.Conflict "event identity collision"))
  | none => append_new contract event

section Facts

variable (sha : Sha256) (uuid : UuidText) (contract : ProductionCampaignLifecycleV1)

/-- The fact that `record_verified_start` appends. -/
def record_verified_start (basis : VerifiedCampaignStartBasisV1) :
    Except LifecycleErrorV1 ProductionLifecycleFactV1 := do
  basis.validate sha uuid
  reject (basis ≠ contract.verified_start) (.Conflict "verified start substitution")
  pure (.VerifiedStart basis.basis_id)

def record_issuance (ordinal : UInt32) (snapshot : OccurrenceSnapshotV1) (executor_plan : JsonValue) :
    Except LifecycleErrorV1 ProductionLifecycleFactV1 := do
  let issuance ← contract.validate_issuance sha uuid ordinal snapshot executor_plan
  pure (.Issuance ordinal issuance.spend.as_digest.as_str issuance.issuance.as_digest.as_str)

def record_docket_custody (ordinal : UInt32) (snapshot : OccurrenceSnapshotV1) (executor_plan : JsonValue) :
    Except LifecycleErrorV1 ProductionLifecycleFactV1 := do
  let _ ← contract.validate_issuance sha uuid ordinal snapshot executor_plan
  let custody ← ok_or snapshot.docket_custody (.Evidence "Docket custody absent")
  pure (custody_fact ordinal custody)

def record_settlement (ordinal : UInt32) (snapshot : OccurrenceSnapshotV1) (executor_plan : JsonValue) :
    Except LifecycleErrorV1 ProductionLifecycleFactV1 := do
  let _ ← contract.validate_issuance sha uuid ordinal snapshot executor_plan
  let settlement ← ok_or snapshot.settlement (.Evidence "Docket settlement absent")
  pure (settlement_fact ordinal settlement)

/-- The observation that realizes the reservation of a stage is that of the next stage, or
the terminal one. -/
def expected_observation (ordinal : UInt32) : Except LifecycleErrorV1 String :=
  if ordinal < 3 then ProductionStageLawV1.observation <$> contract.stage (ordinal + 1)
  else .ok contract.terminal.observation

def record_reservation_current (ordinal : UInt32) (snapshot : OccurrenceSnapshotV1)
    (resolution : VersionedObservationResolutionV1) (now_unix_ms : UInt64) :
    Except LifecycleErrorV1 ProductionLifecycleFactV1 := do
  let stage ← contract.stage ordinal
  reject (snapshot.program_counter ≠ .SettledObservationRequired ∨
      uuid.to_string snapshot.key.occurrence ≠ stage.occurrence ∨
      snapshot.settlement = none)
    (.Evidence "reservation source is not settled")
  let observation ← expected_observation contract ordinal
  match resolution with
  | .NightshiftV2 _ => .error (.Evidence "reservation realization absent")
  | .TypedV3 typed =>
    ProductionCampaignLifecycleV1.validate_realization sha snapshot typed observation stage.subject
      contract.terminal.observation_resolver_id stage.reservation now_unix_ms "reservation realization mismatch"
    pure (.ReservationCurrent ordinal stage.reservation typed.currentness.as_digest.as_str)

def record_continuation_opened (ordinal : UInt32) (snapshot : OccurrenceSnapshotV1) (executor_plan : JsonValue) :
    Except LifecycleErrorV1 ProductionLifecycleFactV1 := do
  let stage ← contract.stage ordinal
  let plan_id ← map_err (executor_plan_identity sha uuid executor_plan) LifecycleErrorV1.Packet
  reject (snapshot.program_counter ≠ .ObservationRequired ∨
      uuid.to_string snapshot.key.occurrence ≠ stage.occurrence ∨
      snapshot.state.metadata.expected_work.as_str ≠ plan_id ∨
      snapshot.issuance ≠ none ∨
      snapshot.docket_custody ≠ none)
    (.Evidence "continuation is not authority-empty")
  pure (.ContinuationOpened ordinal stage.occurrence)

def record_human_required (snapshot : OccurrenceSnapshotV1) (resolution : VersionedObservationResolutionV1)
    (now_unix_ms : UInt64) : Except LifecycleErrorV1 ProductionLifecycleFactV1 := do
  let receipt ← contract.validate_terminal sha uuid snapshot resolution now_unix_ms
  pure (.HumanRequired receipt)

end Facts

/-- The calls of a journal handle, with their arguments. -/
inductive JournalCall where
  | VerifiedStart (basis : VerifiedCampaignStartBasisV1)
  | Issuance (ordinal : UInt32) (snapshot : OccurrenceSnapshotV1) (executor_plan : JsonValue)
  | DocketCustody (ordinal : UInt32) (snapshot : OccurrenceSnapshotV1) (executor_plan : JsonValue)
  | Settlement (ordinal : UInt32) (snapshot : OccurrenceSnapshotV1) (executor_plan : JsonValue)
  | ReservationCurrent (ordinal : UInt32) (snapshot : OccurrenceSnapshotV1)
    (resolution : VersionedObservationResolutionV1) (now_unix_ms : UInt64)
  | ContinuationOpened (ordinal : UInt32) (snapshot : OccurrenceSnapshotV1) (executor_plan : JsonValue)
  | HumanRequired (snapshot : OccurrenceSnapshotV1) (resolution : VersionedObservationResolutionV1)
    (now_unix_ms : UInt64)

/-- The fact a call records, once its evidence is accepted. -/
def JournalCall.fact (sha : Sha256) (uuid : UuidText) (contract : ProductionCampaignLifecycleV1) :
    JournalCall → Except LifecycleErrorV1 ProductionLifecycleFactV1
  | .VerifiedStart basis => record_verified_start sha uuid contract basis
  | .Issuance ordinal snapshot plan => record_issuance sha uuid contract ordinal snapshot plan
  | .DocketCustody ordinal snapshot plan => record_docket_custody sha uuid contract ordinal snapshot plan
  | .Settlement ordinal snapshot plan => record_settlement sha uuid contract ordinal snapshot plan
  | .ReservationCurrent ordinal snapshot resolution now =>
    record_reservation_current sha uuid contract ordinal snapshot resolution now
  | .ContinuationOpened ordinal snapshot plan => record_continuation_opened sha uuid contract ordinal snapshot plan
  | .HumanRequired snapshot resolution now => record_human_required sha uuid contract snapshot resolution now

/-- `record_human_required` also returns its receipt. -/
def ProductionLifecycleFactV1.receipt : ProductionLifecycleFactV1 → Option HumanRequiredReceiptV1
  | .HumanRequired receipt => some receipt
  | _ => none

/-- A whole call: its evidence is checked before the journal is touched. -/
def JournalCall.record (sha : Sha256) (uuid : UuidText) (contract : ProductionCampaignLifecycleV1)
    (call : JournalCall) : JournalProgram (Bool × Option HumanRequiredReceiptV1) := do
  let fact ← lift (call.fact sha uuid contract)
  let inserted ← append sha contract fact
  pure (inserted, fact.receipt)

end ag_app.governed_campaign_production_v1

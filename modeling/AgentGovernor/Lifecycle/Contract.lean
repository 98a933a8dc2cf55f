import AgentGovernor.Governed.Recovery
import AgentGovernor.Store.Verify

open ag_primitives Checked ag_campaign ag_campaign.governed

namespace ag_app.governed_campaign_production_v1

def VERIFIED_CAMPAIGN_START_BASIS_SCHEMA_V1 : String := "ag.governed-campaign.verified-start-basis/v1"
def VERIFIED_CAMPAIGN_START_BASIS_TYPE_V1 : String := "ag.governed-campaign.verified-start/v1"
def HUMAN_REQUIRED_RECEIPT_SCHEMA_V1 : String := "ag.governed-campaign.human-required-receipt/v1"
def LIFECYCLE_EVENT_SCHEMA_V1 : String := "ag.governed-campaign.lifecycle-event/v1"
def RESERVED_APPLICABILITY_BASIS_TYPE_V1 : String :=
  "nightshift.repository-qualification-reservation-applicability/v1"

def ROOT_NONCLAIMS : List String :=
  ["execution", "qualification", "standing", "authorization", "issuance", "docket_custody", "continuation"]

inductive LifecycleErrorV1 where
  | Packet (detail : String)
  | Contract (detail : String)
  | Evidence (detail : String)
  | Conflict (detail : String)
  | Store (detail : String)
  deriving DecidableEq

/-- The `uuid` crate, as far as the lifecycle uses it: the text of an occurrence and the
parser of such texts. -/
structure UuidText where
  to_string : OccurrenceId → String
  parse : String → Option OccurrenceId

/-- A parsed JSON value. It may hold a number that strict canonicalization refuses, and
then `refused` is the text of that error. -/
structure JsonValue where
  document : Jcs
  refused : Option String

namespace JsonValue

def is_object (value : JsonValue) : Bool :=
  match value.document with
  | .obj _ => true
  | _ => false

/-- `value.get(name).and_then(Value::as_str)`. Digests and UUIDs are leaves of their own in
the document, and their texts are strings as well. -/
def get_str (uuid : UuidText) (value : JsonValue) (name : String) : Option String :=
  match value.document with
  | .obj members =>
    match members.lookup name with
    | some (.str text) => some text
    | some (.digest digest) => some digest.as_str
    | some (.uuid id) => some (uuid.to_string ⟨id⟩)
    | _ => none
  | _ => none

end JsonValue

/-- `value.trim().is_empty()`. -/
def is_blank (value : String) : Prop :=
  value.toList.all ag_store.is_whitespace = true

instance (value : String) : Decidable (is_blank value) := by
  delta is_blank
  infer_instance

def require_digest (value : String) : Except LifecycleErrorV1 Unit := do
  let _ ← map_err (Digest.parse value) fun _ => .Contract "digest coordinate"

/-- The digest text of a domain, a zero byte and the canonical bytes of a value. -/
def domain_hash {A : Type} [Serialize A] (sha : Sha256) (domain : String) (value : A) : String :=
  (Digest.hash_bytes sha (.labelled domain (to_jcs value))).as_str

structure VerifiedCampaignStartBasisV1 where
  schema : String
  basis_id : String
  campaign_id : String
  campaign_packet_id : String
  stage_1_work : String
  subject : String
  scope : String
  initial_occurrence : String
  mandate : String
  observation : String
  observation_resolver_id : String
  standing_resolver_id : String
  human_decision : String
  human_principal : String
  human_verification : String
  verification_profile : String
  decided_at_unix_ms : UInt64
  does_not_establish : List String
  deriving DecidableEq

def VerifiedCampaignStartBasisV1.serialize (value : VerifiedCampaignStartBasisV1) : Jcs :=
  .obj [("basis_id", to_jcs value.basis_id), ("campaign_id", to_jcs value.campaign_id),
    ("campaign_packet_id", to_jcs value.campaign_packet_id),
    ("decided_at_unix_ms", to_jcs value.decided_at_unix_ms),
    ("does_not_establish", to_jcs value.does_not_establish), ("human_decision", to_jcs value.human_decision),
    ("human_principal", to_jcs value.human_principal), ("human_verification", to_jcs value.human_verification),
    ("initial_occurrence", to_jcs value.initial_occurrence), ("mandate", to_jcs value.mandate),
    ("observation", to_jcs value.observation),
    ("observation_resolver_id", to_jcs value.observation_resolver_id), ("schema", to_jcs value.schema),
    ("scope", to_jcs value.scope), ("stage_1_work", to_jcs value.stage_1_work),
    ("standing_resolver_id", to_jcs value.standing_resolver_id), ("subject", to_jcs value.subject),
    ("verification_profile", to_jcs value.verification_profile)]

instance : Serialize VerifiedCampaignStartBasisV1 := ⟨VerifiedCampaignStartBasisV1.serialize⟩

def VerifiedCampaignStartBasisV1.validate (sha : Sha256) (uuid : UuidText) (basis : VerifiedCampaignStartBasisV1) :
    Except LifecycleErrorV1 Unit := do
  let preimage := { basis with basis_id := "" }
  reject (basis.schema ≠ VERIFIED_CAMPAIGN_START_BASIS_SCHEMA_V1 ∨
      basis.basis_id ≠ domain_hash sha VERIFIED_CAMPAIGN_START_BASIS_SCHEMA_V1 preimage ∨
      basis.does_not_establish ≠ ROOT_NONCLAIMS ∨
      basis.decided_at_unix_ms = 0 ∨
      uuid.parse basis.initial_occurrence = none ∨
      is_blank basis.observation_resolver_id ∨
      is_blank basis.standing_resolver_id ∨
      is_blank basis.verification_profile)
    (.Contract "verified campaign-start envelope")
  [basis.campaign_id, basis.campaign_packet_id, basis.stage_1_work, basis.subject, basis.scope, basis.mandate,
    basis.observation, basis.human_decision, basis.human_principal, basis.human_verification].forM require_digest

inductive AntecedentObservationV1 where
  | VerifiedCampaignStart (basis_id : String)
  | CurrentReservationRealization (reservation : String)
  deriving DecidableEq

structure ProductionStageLawV1 where
  ordinal : UInt32
  occurrence : String
  reservation : String
  executor_work_schema : String
  subject : String
  scope : String
  mandate : String
  observation : String
  observation_resolver_id : String
  standing_resolver_id : String
  antecedent : AntecedentObservationV1
  deriving DecidableEq

structure HumanRequiredLawV1 where
  terminal_packet_id : String
  reservation : String
  observation : String
  observation_resolver_id : String
  deriving DecidableEq

structure ProductionCampaignLifecycleV1 where
  lifecycle_id : String
  campaign_id : String
  program : String
  verified_start : VerifiedCampaignStartBasisV1
  stages : List ProductionStageLawV1
  terminal : HumanRequiredLawV1
  deriving DecidableEq

structure HumanRequiredReceiptV1 where
  schema : String
  receipt_id : String
  lifecycle_id : String
  campaign_id : String
  terminal_packet_id : String
  stage_3_occurrence : String
  reservation : String
  observation_currentness : String
  settlement : String
  issuance : String
  ag_spend : String
  state_digest_before : String
  recorded_at_unix_ms : UInt64
  disposition : String
  authorization_spends_created : UInt32
  issuances_created : UInt32
  successor_occurrences_created : UInt32
  deriving DecidableEq

def HumanRequiredReceiptV1.serialize (value : HumanRequiredReceiptV1) : Jcs :=
  .obj [("ag_spend", to_jcs value.ag_spend),
    ("authorization_spends_created", to_jcs value.authorization_spends_created),
    ("campaign_id", to_jcs value.campaign_id), ("disposition", to_jcs value.disposition),
    ("issuance", to_jcs value.issuance), ("issuances_created", to_jcs value.issuances_created),
    ("lifecycle_id", to_jcs value.lifecycle_id),
    ("observation_currentness", to_jcs value.observation_currentness),
    ("receipt_id", to_jcs value.receipt_id), ("recorded_at_unix_ms", to_jcs value.recorded_at_unix_ms),
    ("reservation", to_jcs value.reservation), ("schema", to_jcs value.schema),
    ("settlement", to_jcs value.settlement), ("stage_3_occurrence", to_jcs value.stage_3_occurrence),
    ("state_digest_before", to_jcs value.state_digest_before),
    ("successor_occurrences_created", to_jcs value.successor_occurrences_created),
    ("terminal_packet_id", to_jcs value.terminal_packet_id)]

instance : Serialize HumanRequiredReceiptV1 := ⟨HumanRequiredReceiptV1.serialize⟩

/-- The identity of an executor plan. The first error is that of a plan of another schema. -/
def executor_plan_identity (sha : Sha256) (uuid : UuidText) (plan : JsonValue) : Except String String := do
  reject (plan.get_str uuid "schema" ≠ some "campaign-driver-ng.gcl-v1-worker-vm-plan/v2")
    "executor runtime plan schema mismatch"
  match plan.refused with
  | some error => .error error
  | none => pure (Digest.hash_domain sha "ag-effectd.docket-executor-plan/v2" (.jcs plan.document)).as_str

/-- The observation retained with the recorded proposal, when any. -/
def observation (snapshot : OccurrenceSnapshotV1) : Option VersionedObservationResolutionV1 :=
  snapshot.state.proposal_basis.map ProposalBasisV1.observation

/-- The standing an admitted proposal was decided on. -/
def standing_resolution (snapshot : OccurrenceSnapshotV1) : Option CurrentStandingResolutionV2 :=
  match snapshot.state with
  | .AdmissiblePendingAuthorization value => some value.standing
  | .AuthorizationConsumed value => some value.admitted.standing
  | .Dispatched value => some value.authorized.admitted.standing
  | .ReconciliationRequired value => some value.dispatch.authorized.admitted.standing
  | .SettledObservationRequired value => some value.dispatch.authorized.admitted.standing
  | _ => none

def typed_basis : VersionedObservationResolutionV1 → Option TypedOpaqueObservationBasisV1
  | .NightshiftV2 _ => none
  | .TypedV3 resolution => some resolution.basis

def status_label : VersionedObservationResolutionV1 → String
  | .NightshiftV2 value =>
    match value.status with
    | .Current => "Current"
    | .Stale => "Stale"
    | .Superseded => "Superseded"
    | .Contradictory => "Contradictory"
    | .Absent => "Absent"
  | .TypedV3 value =>
    match value.status with
    | .Current => "Current"
    | .Stale => "Stale"
    | .Superseded => "Superseded"
    | .Contradictory => "Contradictory"
    | .Absent => "Absent"
    | .Unsupported => "Unsupported"
    | .Refused => "Refused"

namespace ProductionCampaignLifecycleV1

/-- The law of one stage. Ordinals count from one, and `ordinal.saturating_sub(1)` takes
ordinal zero to the first stage, whose own ordinal then differs. -/
def stage (contract : ProductionCampaignLifecycleV1) (ordinal : UInt32) :
    Except LifecycleErrorV1 ProductionStageLawV1 :=
  ok_or ((contract.stages[ordinal.toNat - 1]?).filter fun stage => stage.ordinal = ordinal)
    (.Contract "stage ordinal")

/-- The basis type and identity that the observation of a stage has to carry. -/
def expected_basis : AntecedentObservationV1 → String × String
  | .VerifiedCampaignStart basis_id => (VERIFIED_CAMPAIGN_START_BASIS_TYPE_V1, basis_id)
  | .CurrentReservationRealization reservation => (RESERVED_APPLICABILITY_BASIS_TYPE_V1, reservation)

def validate_issuance (sha : Sha256) (uuid : UuidText) (contract : ProductionCampaignLifecycleV1) (ordinal : UInt32)
    (snapshot : OccurrenceSnapshotV1) (executor_plan : JsonValue) : Except LifecycleErrorV1 AgIssuanceV1 := do
  let stage ← contract.stage ordinal
  reject (executor_plan.is_object = false) (.Evidence "executor plan is not an object")
  let plan_id ← map_err (executor_plan_identity sha uuid executor_plan) LifecycleErrorV1.Packet
  reject (executor_plan.get_str uuid "evidence_reservation" ≠ some stage.reservation ∨
      executor_plan.get_str uuid "work_schema" ≠ some stage.executor_work_schema ∨
      executor_plan.get_str uuid "subject" ≠ some stage.subject ∨
      executor_plan.get_str uuid "scope" ≠ some stage.scope)
    (.Evidence "W5 executor plan binding")
  map_err (snapshot.validate_integrity sha) fun _ => .Evidence "AG snapshot integrity"
  let proposal ← ok_or snapshot.proposal (.Evidence "proposal absent")
  let issuance ← ok_or snapshot.issuance (.Evidence "issuance absent")
  let standing ← ok_or (standing_resolution snapshot) (.Evidence "standing absent")
  let observation ← ok_or (observation snapshot) (.Evidence "observation absent")
  let occurrence ← ok_or (uuid.parse stage.occurrence) (.Contract "occurrence")
  let expected := expected_basis stage.antecedent
  let typed ← ok_or (typed_basis observation) (.Evidence "typed basis absent")
  reject (snapshot.key.campaign.as_digest.as_str ≠ contract.campaign_id ∨
      snapshot.key.occurrence ≠ occurrence ∨
      snapshot.state.metadata.expected_work.as_str ≠ plan_id ∨
      proposal.work_schema ≠ stage.executor_work_schema ∨
      proposal.work.as_str ≠ plan_id ∨
      proposal.subject.as_str ≠ stage.subject ∨
      proposal.scope.as_str ≠ stage.scope ∨
      observation.observation.as_digest.as_str ≠ stage.observation ∨
      observation.resolver_id ≠ stage.observation_resolver_id ∨
      status_label observation ≠ "Current" ∨
      typed.basis_type ≠ expected.1 ∨
      typed.basis_identity.as_str ≠ expected.2 ∨
      standing.mandate.as_digest.as_str ≠ stage.mandate ∨
      standing.resolver_id ≠ stage.standing_resolver_id ∨
      issuance.key ≠ snapshot.key ∨
      issuance.program.as_digest.as_str ≠ contract.program ∨
      issuance.work_schema ≠ stage.executor_work_schema ∨
      issuance.work.as_str ≠ plan_id ∨
      issuance.subject.as_str ≠ stage.subject ∨
      issuance.scope.as_str ≠ stage.scope ∨
      issuance.observation.as_digest.as_str ≠ stage.observation ∨
      issuance.mandate.as_digest.as_str ≠ stage.mandate)
    (.Evidence "antecedent issuance binding")
  pure issuance

/-- The checks of one current reservation realization, shared by the reservation of a
stage and the terminal one. -/
def validate_realization (sha : Sha256) (snapshot : OccurrenceSnapshotV1) (typed : ObservationResolutionV3)
    (observation subject resolver_id reservation : String) (now_unix_ms : UInt64) (mismatch : String) :
    Except LifecycleErrorV1 Unit := do
  reject (typed.key ≠ snapshot.key ∨
      typed.observation.as_digest.as_str ≠ observation ∨
      typed.subject.as_str ≠ subject ∨
      typed.resolver_id ≠ resolver_id ∨
      typed.status ≠ .Current ∨
      typed.resolved_at_unix_ms > now_unix_ms ∨
      typed.fresh_until_unix_ms ≤ now_unix_ms ∨
      typed.basis.basis_type ≠ RESERVED_APPLICABILITY_BASIS_TYPE_V1 ∨
      typed.basis.basis_identity.as_str ≠ reservation)
    (.Evidence mismatch)
  let binding ← map_err (typed.basis.binding_digest sha) LifecycleErrorV1.Packet
  reject (typed.normalized_preconditions.as_digest ≠ binding) (.Evidence mismatch)

def validate_terminal (sha : Sha256) (uuid : UuidText) (contract : ProductionCampaignLifecycleV1)
    (snapshot : OccurrenceSnapshotV1) (resolution : VersionedObservationResolutionV1) (now_unix_ms : UInt64) :
    Except LifecycleErrorV1 HumanRequiredReceiptV1 := do
  let stage ← contract.stage 3
  reject (snapshot.program_counter ≠ .SettledObservationRequired ∨
      uuid.to_string snapshot.key.occurrence ≠ stage.occurrence)
    (.Evidence "Stage 3 is not exactly settled")
  let settlement ← ok_or snapshot.settlement (.Evidence "Stage 3 is not exactly settled")
  let issuance ← ok_or snapshot.issuance (.Evidence "Stage 3 is not exactly settled")
  match resolution with
  | .NightshiftV2 _ => .error (.Evidence "terminal typed realization absent")
  | .TypedV3 typed =>
    validate_realization sha snapshot typed contract.terminal.observation stage.subject
      contract.terminal.observation_resolver_id contract.terminal.reservation now_unix_ms "terminal R3 realization"
    let receipt : HumanRequiredReceiptV1 :=
      { schema := HUMAN_REQUIRED_RECEIPT_SCHEMA_V1
        receipt_id := ""
        lifecycle_id := contract.lifecycle_id
        campaign_id := contract.campaign_id
        terminal_packet_id := contract.terminal.terminal_packet_id
        stage_3_occurrence := stage.occurrence
        reservation := contract.terminal.reservation
        observation_currentness := typed.currentness.as_digest.as_str
        settlement := settlement.settlement.as_digest.as_str
        issuance := issuance.issuance.as_digest.as_str
        ag_spend := issuance.spend.as_digest.as_str
        state_digest_before := snapshot.state_digest.as_str
        recorded_at_unix_ms := now_unix_ms
        disposition := "HUMAN_REQUIRED"
        authorization_spends_created := 0
        issuances_created := 0
        successor_occurrences_created := 0 }
    pure { receipt with receipt_id := domain_hash sha HUMAN_REQUIRED_RECEIPT_SCHEMA_V1 receipt }

end ProductionCampaignLifecycleV1

inductive ProductionLifecycleFactV1 where
  | VerifiedStart (basis_id : String)
  | Issuance (ordinal : UInt32) (spend issuance : String)
  | DocketCustody (ordinal : UInt32) (attempt : String)
  | Settlement (ordinal : UInt32) (settlement : String)
  | ReservationCurrent (ordinal : UInt32) (reservation currentness : String)
  | ContinuationOpened (ordinal : UInt32) (occurrence : String)
  | HumanRequired (receipt : HumanRequiredReceiptV1)
  deriving DecidableEq

def ProductionLifecycleFactV1.serialize : ProductionLifecycleFactV1 → Jcs
  | .VerifiedStart basis_id => .obj [("basis_id", to_jcs basis_id), ("kind", .str "verified_start")]
  | .Issuance ordinal spend issuance =>
    .obj [("issuance", to_jcs issuance), ("kind", .str "issuance"), ("ordinal", to_jcs ordinal),
      ("spend", to_jcs spend)]
  | .DocketCustody ordinal attempt =>
    .obj [("attempt", to_jcs attempt), ("kind", .str "docket_custody"), ("ordinal", to_jcs ordinal)]
  | .Settlement ordinal settlement =>
    .obj [("kind", .str "settlement"), ("ordinal", to_jcs ordinal), ("settlement", to_jcs settlement)]
  | .ReservationCurrent ordinal reservation currentness =>
    .obj [("currentness", to_jcs currentness), ("kind", .str "reservation_current"),
      ("ordinal", to_jcs ordinal), ("reservation", to_jcs reservation)]
  | .ContinuationOpened ordinal occurrence =>
    .obj [("kind", .str "continuation_opened"), ("occurrence", to_jcs occurrence), ("ordinal", to_jcs ordinal)]
  | .HumanRequired receipt => .obj [("kind", .str "human_required"), ("receipt", to_jcs receipt)]

instance : Serialize ProductionLifecycleFactV1 := ⟨ProductionLifecycleFactV1.serialize⟩

structure ProductionLifecycleEventV1 where
  schema : String
  event_id : String
  lifecycle_id : String
  fact : ProductionLifecycleFactV1
  deriving DecidableEq

def ProductionLifecycleEventV1.serialize (value : ProductionLifecycleEventV1) : Jcs :=
  .obj [("event_id", to_jcs value.event_id), ("fact", to_jcs value.fact),
    ("lifecycle_id", to_jcs value.lifecycle_id), ("schema", to_jcs value.schema)]

instance : Serialize ProductionLifecycleEventV1 := ⟨ProductionLifecycleEventV1.serialize⟩

/-- The event of a fact, named by the digest of the event without its name. -/
def ProductionLifecycleEventV1.sealed (sha : Sha256) (lifecycle_id : String) (fact : ProductionLifecycleFactV1) :
    ProductionLifecycleEventV1 :=
  let value : ProductionLifecycleEventV1 := { schema := LIFECYCLE_EVENT_SCHEMA_V1, event_id := "", lifecycle_id, fact }
  { value with event_id := domain_hash sha LIFECYCLE_EVENT_SCHEMA_V1 value }

def custody_fact (ordinal : UInt32) (custody : DocketCustodyV1) : ProductionLifecycleFactV1 :=
  .DocketCustody ordinal custody.attempt.as_digest.as_str

def settlement_fact (ordinal : UInt32) (settlement : DocketSettlementV1) : ProductionLifecycleFactV1 :=
  .Settlement ordinal settlement.settlement.as_digest.as_str

/-- What `validate_next_fact` decides on the last fact of the journal and the next one. -/
def next_fact (contract : ProductionCampaignLifecycleV1) :
    Option ProductionLifecycleFactV1 → ProductionLifecycleFactV1 → Except LifecycleErrorV1 Unit
  | none, .VerifiedStart basis_id => legal (basis_id = contract.verified_start.basis_id)
  | some (.VerifiedStart _), .Issuance ordinal _ _ => legal (ordinal = 1)
  | some (.ContinuationOpened prior _), .Issuance ordinal _ _ => legal (ordinal = prior)
  | some (.Issuance prior _ _), .DocketCustody ordinal _ => legal (ordinal = prior)
  | some (.DocketCustody prior _), .Settlement ordinal _ => legal (ordinal = prior)
  | some (.Settlement prior _), .ReservationCurrent ordinal reservation _ => do
    legal (ordinal = prior)
    let stage ← contract.stage ordinal
    legal (reservation = stage.reservation)
  | some (.ReservationCurrent prior _ _), .ContinuationOpened ordinal occurrence => do
    legal ((prior = 1 ∨ prior = 2) ∧ ordinal = prior + 1)
    let stage ← contract.stage ordinal
    legal (occurrence = stage.occurrence)
  | some (.ReservationCurrent prior _ _), .HumanRequired receipt =>
    legal (prior = 3 ∧ receipt.lifecycle_id = contract.lifecycle_id ∧
      receipt.reservation = contract.terminal.reservation ∧ receipt.authorization_spends_created = 0 ∧
      receipt.issuances_created = 0 ∧ receipt.successor_occurrences_created = 0)
  | _, _ => .error (.Conflict "illegal or premature lifecycle fact")
where
  legal (guard : Prop) [Decidable guard] : Except LifecycleErrorV1 Unit :=
    reject (¬ guard) (.Conflict "illegal or premature lifecycle fact")

def validate_next_fact (contract : ProductionCampaignLifecycleV1) (prior : List ProductionLifecycleEventV1)
    (next : ProductionLifecycleFactV1) : Except LifecycleErrorV1 Unit :=
  next_fact contract (prior.getLast?.map ProductionLifecycleEventV1.fact) next

end ag_app.governed_campaign_production_v1

import AgentGovernor.Governed.Validate
import AgentGovernor.Primitives.Written

open ag_primitives Checked

namespace ag_campaign.governed

def STATE_DIGEST_DOMAIN_V1 : String := "ag.governed-loop.state/v1"
def GENESIS_DIGEST_DOMAIN_V1 : String := "ag.governed-loop.genesis/v1"

/-- What a state digest covers: the predecessor digest and the whole state. -/
structure StateDigestInputV1 where
  prior_state_digest : Digest
  state : OccurrenceStateV1

@[simp] def StateDigestInputV1.serialize (value : StateDigestInputV1) : Jcs :=
  .obj [("prior_state_digest", to_jcs value.prior_state_digest), ("state", to_jcs value.state)]

instance : Serialize StateDigestInputV1 := ⟨StateDigestInputV1.serialize⟩

instance : InjectiveSerialize StateDigestInputV1 := .of_serialize

def state_digest (sha : Sha256) (prior : Digest) (state : OccurrenceStateV1) : Digest :=
  digest_value sha STATE_DIGEST_DOMAIN_V1 ({ prior_state_digest := prior, state } : StateDigestInputV1)

/-- A state digest determines the predecessor digest and the state. -/
theorem state_digest_inj {sha : Sha256} (hsha : sha.CollisionFree) {prior prior' : Digest}
    {state state' : OccurrenceStateV1} :
    state_digest sha prior state = state_digest sha prior' state' ↔ prior = prior' ∧ state = state' := by
  simp [state_digest, digest_value_inj hsha]

/-- Authoritative immutable snapshot of one occurrence program-counter state. -/
structure OccurrenceSnapshotV1 where
  prior_state_digest : Digest
  state_digest : Digest
  state : OccurrenceStateV1
  deriving DecidableEq

namespace OccurrenceSnapshotV1

def program_counter (snapshot : OccurrenceSnapshotV1) : ProgramCounterV1 :=
  snapshot.state.program_counter

/-- The exact occurrence key. -/
def key (snapshot : OccurrenceSnapshotV1) : OccurrenceKeyV1 :=
  snapshot.state.metadata.key

/-- Every integer of the snapshot is written exactly, so that its stored document reads
back as the snapshot itself. -/
def Exact (snapshot : OccurrenceSnapshotV1) : Prop :=
  (to_jcs snapshot.state).Exact

/-- Verifies digest and structural invariants without granting authority. -/
def validate_integrity (sha : Sha256) (snapshot : OccurrenceSnapshotV1) : Except KernelErrorV1 Unit := do
  snapshot.state.metadata.budget.validate
  let _ ← ResidualSetV1.new snapshot.state.metadata.residuals.obligations
  let expected := governed.state_digest sha snapshot.prior_state_digest snapshot.state
  reject (expected ≠ snapshot.state_digest) .StateDigestMismatch
  match snapshot.state with
  | .ObservationRequired { prior := some prior, .. } =>
    reject (prior.state_digest ≠ snapshot.prior_state_digest)
      (.StateInvariant "continuation predecessor digest")
  | _ => pure ()
  validate_state sha snapshot.state

/-- The exact AG spend, once consumed. -/
def ag_spend (snapshot : OccurrenceSnapshotV1) : Option AgAuthorizationSpendV1 :=
  match snapshot.state with
  | .AuthorizationConsumed value => some value.spend
  | .Dispatched value => some value.authorized.spend
  | .ReconciliationRequired value => some value.dispatch.authorized.spend
  | .SettledObservationRequired value => some value.dispatch.authorized.spend
  | _ => none

/-- The deterministic AG issuance, once authorization is spent. -/
def issuance (snapshot : OccurrenceSnapshotV1) : Option AgIssuanceV1 :=
  match snapshot.state with
  | .AuthorizationConsumed value => some value.issuance
  | .Dispatched value => some value.authorized.issuance
  | .ReconciliationRequired value => some value.dispatch.authorized.issuance
  | .SettledObservationRequired value => some value.dispatch.authorized.issuance
  | _ => none

/-- Docket custody, once accepted. -/
def docket_custody (snapshot : OccurrenceSnapshotV1) : Option DocketCustodyV1 :=
  match snapshot.state with
  | .Dispatched value => some value.custody
  | .ReconciliationRequired value => some value.dispatch.custody
  | .SettledObservationRequired value => some value.dispatch.custody
  | _ => none

/-- The exact known settlement, once consumed. -/
def settlement (snapshot : OccurrenceSnapshotV1) : Option DocketSettlementV1 :=
  match snapshot.state with
  | .SettledObservationRequired value => some value.settlement
  | _ => none

/-- The prior occurrence basis for a not-yet-proposed continuation. -/
def prior_occurrence (snapshot : OccurrenceSnapshotV1) : Option PriorOccurrenceBasisV1 :=
  match snapshot.state with
  | .ObservationRequired value => value.prior
  | _ => none

end OccurrenceSnapshotV1

/-- The snapshot that follows `prior` with the given state. -/
def successor_snapshot (sha : Sha256) (prior : OccurrenceSnapshotV1) (state : OccurrenceStateV1) :
    OccurrenceSnapshotV1 :=
  { prior_state_digest := prior.state_digest
    state_digest := state_digest sha prior.state_digest state
    state }

@[simp] theorem successor_snapshot_state (sha : Sha256) (prior : OccurrenceSnapshotV1)
    (state : OccurrenceStateV1) : (successor_snapshot sha prior state).state = state :=
  rfl

@[simp] theorem successor_snapshot_prior_state_digest (sha : Sha256) (prior : OccurrenceSnapshotV1)
    (state : OccurrenceStateV1) :
    (successor_snapshot sha prior state).prior_state_digest = prior.state_digest :=
  rfl

end ag_campaign.governed

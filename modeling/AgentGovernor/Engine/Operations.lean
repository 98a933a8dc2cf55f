import AgentGovernor.Engine.Catalog
import AgentGovernor.Governed.Recovery
import AgentGovernor.Lib.Program
import AgentGovernor.Store.Calls

open ag_primitives Checked ag_campaign ag_campaign.governed ag_store Effects

namespace ag_app.governed_loop

/-- The external boundaries, other than Docket, that the engine hands to the kernel. -/
inductive Boundary where
  | Observation
  | Standing
  | HumanVerifier
  | InterventionVerifier
  deriving DecidableEq

/-- What the engine does outside of itself: it reads the store and writes to it, calls
the custody port of Docket, and enters the kernel with external boundaries, which may
be called from there on. -/
inductive EngineOp where
  | current
  | runtime_profile
  | call (call : StoreCall)
  | consult (boundaries : List Boundary)
  | accept_issuance (issuance : AgIssuanceV1)
  | reconcile_issuance (issuance : AgIssuanceV1)
  | reconcile_attempt (custody : DocketCustodyV1)

/-- What an operation is answered with. -/
abbrev EngineOp.Answer : EngineOp → Type
  | .current => Except CampaignStoreErrorV1 OccurrenceSnapshotV1
  | .runtime_profile => Except CampaignStoreErrorV1 (Option StoredRuntimeProfileV1)
  | .call _ => Except CampaignStoreErrorV1 (List CampaignCommitReceiptV1)
  | .consult _ => Unit
  | .accept_issuance _ => Except ExternalBoundaryErrorV1 DocketCustodyV1
  | .reconcile_issuance _ => Except ExternalBoundaryErrorV1 DocketIssuanceReconciliationV1
  | .reconcile_attempt _ => Except ExternalBoundaryErrorV1 DocketIssuanceReconciliationV1

/-- How an operation is served: the store answers for its tables, and Docket may answer
anything and touches none of them. -/
def serves (sha : Sha256) : (op : EngineOp) → Db → op.Answer → Db → Prop
  | .current, db, answer, db' => CampaignStoreV1.current sha db = (answer, db')
  | .runtime_profile, db, answer, db' => CampaignStoreV1.runtime_profile sha db = answer ∧ db = db'
  | .call call, db, answer, db' => call.execute sha db = (answer, db')
  | .consult _, db, _, db' => db = db'
  | .accept_issuance _, db, _, db' => db = db'
  | .reconcile_issuance _, db, _, db' => db = db'
  | .reconcile_attempt _, db, _, db' => db = db'

/-- A method of the engine. -/
abbrev Engine (A : Type) : Type := Program EngineOp EngineOp.Answer CampaignEngineErrorV1 A

namespace Engine

/-- `store.current()?`. -/
def current : Engine OccurrenceSnapshotV1 := do
  let answer ← ask .current
  lift (map_err answer .Store)

/-- `store.runtime_profile()?`. -/
def runtime_profile : Engine (Option StoredRuntimeProfileV1) := do
  let answer ← ask .runtime_profile
  lift (map_err answer .Store)

/-- A call that writes to the store. -/
def call (call : StoreCall) : Engine (List CampaignCommitReceiptV1) := do
  let answer ← ask (.call call)
  lift (map_err answer .Store)

def consult (boundaries : List Boundary) : Engine Unit :=
  ask (EngineOp.consult boundaries)

/-- `docket.accept_issuance(&issuance)?`. -/
def accept_issuance (issuance : AgIssuanceV1) : Engine DocketCustodyV1 := do
  let answer ← ask (.accept_issuance issuance)
  lift (map_err answer .External)

/-- `docket.reconcile_issuance(&issuance)?`. -/
def reconcile_issuance (issuance : AgIssuanceV1) : Engine DocketIssuanceReconciliationV1 := do
  let answer ← ask (.reconcile_issuance issuance)
  lift (map_err answer .External)

/-- `docket.reconcile_attempt(&custody)?`. -/
def reconcile_attempt (custody : DocketCustodyV1) : Engine DocketIssuanceReconciliationV1 := do
  let answer ← ask (.reconcile_attempt custody)
  lift (map_err answer .External)

/-- A result of the kernel. -/
def kernel {A : Type} (result : Except KernelErrorV1 A) : Engine A :=
  lift (map_err result .Kernel)

end Engine

end ag_app.governed_loop

import AgentGovernor.Store.Transition

open Std (ExtTreeMap)
open ag_primitives Checked ag_campaign ag_campaign.governed

namespace ag_campaign.governed.VersionedObservationResolutionV1

/-- The Nightshift basis, where the resolution is of that generation. -/
def nightshift_basis : VersionedObservationResolutionV1 → Option DecisionBasisV1
  | .NightshiftV2 resolution => some resolution.basis
  | .TypedV3 _ => none

/-- The typed opaque basis, where the resolution is of that generation. -/
def typed_basis : VersionedObservationResolutionV1 → Option TypedOpaqueObservationBasisV1
  | .NightshiftV2 _ => none
  | .TypedV3 resolution => some resolution.basis

end ag_campaign.governed.VersionedObservationResolutionV1

namespace ag_app.governed_loop

def EXACT_WORK_CATALOG_SCHEMA_V1 : String := "ag.governed-loop.exact-work-catalog/v1"
def EXACT_WORK_CATALOG_SCHEMA_V2 : String := "ag.governed-loop.exact-work-catalog/v2"
def EFFECT_EXECUTOR_SYSTEMD_WORK_SCHEMA_V2 : String := "ag-effectd.docket-executor-systemd-work/v2"

/-- Production governed-loop orchestration errors. -/
inductive CampaignEngineErrorV1 where
  | Store (error : ag_store.CampaignStoreErrorV1)
  | Kernel (error : KernelErrorV1)
  | External (error : ExternalBoundaryErrorV1)
  | InvalidCatalog
  | DocketResponse
  | PlanWitnessRequired
  | PlanWitnessMismatch
  | WorkNotAdmitted
  | PostconditionNotEstablished

/-- Finite per-workflow precondition over Nightshift decision-basis atoms. -/
structure WorkPreconditionV1 where
  required : Finset String
  forbidden : Finset String
  deriving DecidableEq

def WorkPreconditionV1.serialize (value : WorkPreconditionV1) : Jcs :=
  .obj [("forbidden", to_jcs value.forbidden), ("required", to_jcs value.required)]

instance : Serialize WorkPreconditionV1 := ⟨WorkPreconditionV1.serialize⟩

namespace WorkPreconditionV1

/-- No atom is both required and forbidden, and only frozen atoms are named. -/
def validate (precondition : WorkPreconditionV1) : Except CampaignEngineErrorV1 Unit := do
  reject (¬ Disjoint precondition.required precondition.forbidden) .InvalidCatalog
  reject (∃ atom ∈ precondition.required ∪ precondition.forbidden,
    atom ∉ DECISION_BASIS_ATOM_VOCABULARY_V1) .InvalidCatalog

/-- The exact predicate over one Nightshift basis. An opaque basis has no atoms to
look at, not an empty set of them. -/
def holds_over (precondition : WorkPreconditionV1) (observation : VersionedObservationResolutionV1) : Bool :=
  match observation.nightshift_basis with
  | some basis =>
    decide (precondition.required ⊆ basis.atoms) && decide (Disjoint precondition.forbidden basis.atoms)
  | none => false

end WorkPreconditionV1

/-- Closed exact observation-basis requirement for one v2 catalog entry. -/
inductive ExactObservationBasisRequirementV1 where
  | NightshiftAtoms (precondition : WorkPreconditionV1)
  | TypedBasis (basis : TypedOpaqueObservationBasisV1)
  deriving DecidableEq

def ExactObservationBasisRequirementV1.serialize : ExactObservationBasisRequirementV1 → Jcs
  | .NightshiftAtoms precondition =>
    .obj [("kind", .str "nightshift_atoms"), ("requirement", to_jcs precondition)]
  | .TypedBasis basis => .obj [("kind", .str "typed_basis"), ("requirement", to_jcs basis)]

instance : Serialize ExactObservationBasisRequirementV1 := ⟨ExactObservationBasisRequirementV1.serialize⟩

namespace ExactObservationBasisRequirementV1

def validate : ExactObservationBasisRequirementV1 → Except CampaignEngineErrorV1 Unit
  | .NightshiftAtoms precondition => precondition.validate
  | .TypedBasis basis => map_err basis.validate fun _ => .InvalidCatalog

def holds_over (requirement : ExactObservationBasisRequirementV1)
    (observation : VersionedObservationResolutionV1) : Bool :=
  match requirement with
  | .NightshiftAtoms precondition => precondition.holds_over observation
  | .TypedBasis expected => decide (observation.typed_basis = some expected)

end ExactObservationBasisRequirementV1

/-- Verified correspondence between one presented executor plan, its work identity,
its enrollment identity and the runtime profile it serves. -/
structure ExactPlanWitnessV1 where
  work : Digest
  enrolled_plan : Digest
  runtime_profile : Digest
  deriving DecidableEq

/-- One exact admissibility catalog entry. -/
structure ExactWorkCatalogEntryV1 where
  work_schema : String
  subject : Digest
  scope : Digest
  precondition : WorkPreconditionV1

def ExactWorkCatalogEntryV1.serialize (value : ExactWorkCatalogEntryV1) : Jcs :=
  .obj [("precondition", to_jcs value.precondition), ("scope", to_jcs value.scope),
    ("subject", to_jcs value.subject), ("work_schema", to_jcs value.work_schema)]

instance : Serialize ExactWorkCatalogEntryV1 := ⟨ExactWorkCatalogEntryV1.serialize⟩

/-- One exact v2 catalog entry with an explicit observation-basis requirement. -/
structure ExactWorkCatalogEntryV2 where
  work_schema : String
  subject : Digest
  scope : Digest
  observation_basis : ExactObservationBasisRequirementV1
  admitted_plans : Option (Finset Digest)
  postcondition_basis : Option ExactObservationBasisRequirementV1

/-- The optional members are left out of the document when they are absent. -/
def ExactWorkCatalogEntryV2.serialize (value : ExactWorkCatalogEntryV2) : Jcs :=
  .obj ((value.admitted_plans.toList.map fun plans => ("admitted_plans", to_jcs plans)) ++
    [("observation_basis", to_jcs value.observation_basis)] ++
    (value.postcondition_basis.toList.map fun basis => ("postcondition_basis", to_jcs basis)) ++
    [("scope", to_jcs value.scope), ("subject", to_jcs value.subject),
      ("work_schema", to_jcs value.work_schema)])

instance : Serialize ExactWorkCatalogEntryV2 := ⟨ExactWorkCatalogEntryV2.serialize⟩

namespace ExactWorkCatalogEntryV2

variable (entry : ExactWorkCatalogEntryV2)

def validate (key : String) : Except CampaignEngineErrorV1 Unit := do
  reject (key ≠ entry.work_schema ∨ key = "") .InvalidCatalog
  entry.observation_basis.validate
  match entry.admitted_plans with
  | some admitted =>
    reject (admitted = ∅ ∨ entry.work_schema ≠ EFFECT_EXECUTOR_SYSTEMD_WORK_SCHEMA_V2) .InvalidCatalog
  | none => pure ()
  match entry.postcondition_basis with
  | some postcondition => do
    reject (entry.admitted_plans = none ∨ postcondition = entry.observation_basis) .InvalidCatalog
    postcondition.validate
  | none => pure ()

/-- Exact plan pin. An entry without admitted plans pins nothing. -/
def admits_plan (work : Digest) (plan : Option ExactPlanWitnessV1) : Except CampaignEngineErrorV1 Unit :=
  match entry.admitted_plans with
  | none => pure ()
  | some admitted => do
    let plan ← ok_or plan CampaignEngineErrorV1.PlanWitnessRequired
    reject (plan.work ≠ work) .PlanWitnessMismatch
    reject (plan.enrolled_plan ∉ admitted) .WorkNotAdmitted

/-- The entry enrolls the plan. -/
def enrolls (plan : ExactPlanWitnessV1) : Bool :=
  match entry.admitted_plans with
  | some admitted => decide (plan.enrolled_plan ∈ admitted)
  | none => false

end ExactWorkCatalogEntryV2

/-- Root-owned exact admissibility policy basis. -/
structure ExactWorkCatalogV1 where
  schema : String
  entries : ExtTreeMap String ExactWorkCatalogEntryV1

/-- Root-owned exact admissibility catalog whose entries bind the observation basis. -/
structure ExactWorkCatalogV2 where
  schema : String
  entries : ExtTreeMap String ExactWorkCatalogEntryV2

/-- `BTreeMap`: an object with its members in key order. -/
def serialize_entries {Entry : Type} [Serialize Entry] (entries : ExtTreeMap String Entry) : Jcs :=
  .obj (entries.toList.map fun entry => (entry.1, to_jcs entry.2))

instance : Serialize ExactWorkCatalogV1 :=
  ⟨fun value => .obj [("entries", serialize_entries value.entries), ("schema", to_jcs value.schema)]⟩

instance : Serialize ExactWorkCatalogV2 :=
  ⟨fun value => .obj [("entries", serialize_entries value.entries), ("schema", to_jcs value.schema)]⟩

namespace ExactWorkCatalogV1

variable (catalog : ExactWorkCatalogV1)

def validate : Except CampaignEngineErrorV1 Unit := do
  reject (catalog.schema ≠ EXACT_WORK_CATALOG_SCHEMA_V1 ∨ catalog.entries.isEmpty = true) .InvalidCatalog
  reject (∃ entry ∈ catalog.entries.toList, entry.1 ≠ entry.2.work_schema ∨ entry.1 = "") .InvalidCatalog
  catalog.entries.toList.forM fun entry => entry.2.precondition.validate

/-- The canonical digest of the complete semantic catalog content. -/
def policy_basis (sha : Sha256) : Except CampaignEngineErrorV1 Digest := do
  catalog.validate
  pure (digest_value sha EXACT_WORK_CATALOG_SCHEMA_V1 catalog)

end ExactWorkCatalogV1

namespace ExactWorkCatalogV2

variable (catalog : ExactWorkCatalogV2)

def validate : Except CampaignEngineErrorV1 Unit := do
  reject (catalog.schema ≠ EXACT_WORK_CATALOG_SCHEMA_V2 ∨ catalog.entries.isEmpty = true) .InvalidCatalog
  catalog.entries.toList.forM fun entry => entry.2.validate entry.1

/-- Selects the entry whose postcondition governs completion of an occurrence opened
for `expected_work`. -/
def completion_entry (expected_work : Digest) (plan : Option ExactPlanWitnessV1) :
    Except CampaignEngineErrorV1 (Option ExactWorkCatalogEntryV2) := do
  catalog.validate
  match plan with
  | some plan => do
    reject (plan.work ≠ expected_work) .PlanWitnessMismatch
    let entry ← ok_or ((catalog.entries.toList.map Prod.snd).find? fun entry => entry.enrolls plan)
      CampaignEngineErrorV1.WorkNotAdmitted
    pure (some entry)
  | none => do
    reject (∃ entry ∈ catalog.entries.toList, entry.2.postcondition_basis.isSome = true) .PlanWitnessRequired
    pure none

/-- The canonical identity of the complete v2 catalog. -/
def policy_basis (sha : Sha256) : Except CampaignEngineErrorV1 Digest := do
  catalog.validate
  pure (digest_value sha EXACT_WORK_CATALOG_SCHEMA_V2 catalog)

end ExactWorkCatalogV2

/-- Closed catalog generations accepted by the production governed loop. -/
inductive VersionedExactWorkCatalogV1 where
  | NightshiftV1 (catalog : ExactWorkCatalogV1)
  | ExactBasisV2 (catalog : ExactWorkCatalogV2)

/-- What a catalog decision is identified by. -/
structure DecisionBasis where
  key : OccurrenceKeyV1
  observation : ObservationRefV1
  proposal : ProposalRefV1
  standing : StandingResolutionRefV1
  policy : Digest
  admitted : Bool

instance : Serialize DecisionBasis :=
  ⟨fun value => .obj [("admitted", .bool value.admitted), ("key", to_jcs value.key),
    ("observation", to_jcs value.observation), ("policy", to_jcs value.policy),
    ("proposal", to_jcs value.proposal), ("standing", to_jcs value.standing)]⟩

/-- The decision of a catalog over one request, under the domain of its generation. -/
def catalog_decision (sha : Sha256) (domain : String) (policy_basis : Digest) (admitted : Bool)
    (request : AdmissibilityRequestV1) : AdmissionDecisionV1 :=
  { decision := .from_digest (digest_value sha domain
      ({ key := request.standing.key
         observation := request.observation.observation
         proposal := request.standing.proposal
         standing := request.standing.resolution
         policy := policy_basis
         admitted } : DecisionBasis))
    key := request.standing.key
    observation := request.observation.observation
    proposal := request.standing.proposal
    standing_resolution := request.standing.resolution
    disposition := if admitted then .Admitted else .Refused
    policy_basis }

namespace CatalogAdmissibilityDeciderV1

/-- What the frozen catalog admits. -/
def admitted (catalog : ExactWorkCatalogV1) (request : AdmissibilityRequestV1) : Bool :=
  match catalog.entries[request.proposal.work_schema]? with
  | some entry =>
    decide (entry.subject = request.proposal.subject) && decide (entry.scope = request.proposal.scope) &&
      entry.precondition.holds_over request.observation
  | none => false

/-- Binds one decision pass to an exact catalog and its policy identity. -/
def new (sha : Sha256) (catalog : ExactWorkCatalogV1) : Except CampaignEngineErrorV1 AdmissibilityDeciderV1 := do
  let policy_basis ← catalog.policy_basis sha
  let decide_admissibility := fun request =>
    .ok (catalog_decision sha "ag.governed-loop.catalog-admission/v1" policy_basis
      (admitted catalog request) request)
  pure { decide_admissibility }

end CatalogAdmissibilityDeciderV1

namespace CatalogAdmissibilityDeciderV2

/-- What the v2 catalog admits under the presented plan. -/
def admitted (catalog : ExactWorkCatalogV2) (plan : Option ExactPlanWitnessV1)
    (request : AdmissibilityRequestV1) : Bool :=
  match catalog.entries[request.proposal.work_schema]? with
  | some entry =>
    decide (entry.subject = request.proposal.subject) && decide (entry.scope = request.proposal.scope) &&
      entry.observation_basis.holds_over request.observation &&
      (entry.admits_plan request.proposal.work plan).isOk
  | none => false

/-- Binds one decision pass to an exact v2 catalog and the presented plan. -/
def with_plan (sha : Sha256) (catalog : ExactWorkCatalogV2) (plan : Option ExactPlanWitnessV1) :
    Except CampaignEngineErrorV1 AdmissibilityDeciderV1 := do
  let policy_basis ← catalog.policy_basis sha
  let decide_admissibility := fun request =>
    .ok (catalog_decision sha "ag.governed-loop.catalog-admission/v2" policy_basis
      (admitted catalog plan request) request)
  pure { decide_admissibility }

end CatalogAdmissibilityDeciderV2

end ag_app.governed_loop

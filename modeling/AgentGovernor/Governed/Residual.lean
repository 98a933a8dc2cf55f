import AgentGovernor.Governed.Identity
import AgentGovernor.Lib.Windows

open ag_primitives Checked Windows

namespace ag_campaign.governed

/-- One exact open residual obligation tracked, but not authored, by AG. -/
structure ResidualObligationV1 where
  residual : ResidualIdV1
  owner : Digest
  subject : Digest
  statement : Digest
  deriving DecidableEq, Repr

@[simp] def ResidualObligationV1.serialize (value : ResidualObligationV1) : Jcs :=
  .obj [("owner", to_jcs value.owner), ("residual", to_jcs value.residual),
    ("statement", to_jcs value.statement), ("subject", to_jcs value.subject)]

instance : Serialize ResidualObligationV1 := ⟨ResidualObligationV1.serialize⟩

instance : InjectiveSerialize ResidualObligationV1 := .of_serialize

/-- Canonical duplicate-free open residual set, ordered by exact identity. -/
structure ResidualSetV1 where
  obligations : List ResidualObligationV1
  canonical : obligations.Pairwise (fun left right => left.residual < right.residual)
  deriving DecidableEq

namespace ResidualSetV1

/-- Constructs a canonical set, refusing duplicate residual identities. -/
def new (residuals : List ResidualObligationV1) : Except KernelErrorV1 ResidualSetV1 :=
  let sorted := sort_by_key ResidualObligationV1.residual residuals
  if hwindows : windows_any (fun left right => left.residual == right.residual) sorted then
    .error .DuplicateResidual
  else
    .ok ⟨sorted, strict_of_no_adjacent _ (sort_by_key_pairwise _ residuals) (by simpa using hwindows)⟩

def as_slice (residuals : ResidualSetV1) : List ResidualObligationV1 :=
  residuals.obligations

def is_empty (residuals : ResidualSetV1) : Bool :=
  residuals.obligations.isEmpty

def ids (residuals : ResidualSetV1) : Finset ResidualIdV1 :=
  (residuals.obligations.map ResidualObligationV1.residual).toFinset

theorem ext {left right : ResidualSetV1} (h : left.obligations = right.obligations) : left = right := by
  cases left
  cases right
  simpa using h

/-- Obligations already in canonical order form exactly that set. -/
theorem new_eq_ok_of_canonical {residuals : List ResidualObligationV1}
    (hcanonical : residuals.Pairwise (fun left right => left.residual < right.residual)) :
    new residuals = .ok ⟨residuals, hcanonical⟩ := by
  have hsort := sort_by_key_of_strict ResidualObligationV1.residual hcanonical
  have hwindows := no_adjacent_of_strict ResidualObligationV1.residual hcanonical
  simp [new, hsort, hwindows]

theorem new_obligations (residuals : ResidualSetV1) : new residuals.obligations = .ok residuals :=
  new_eq_ok_of_canonical residuals.canonical

/-- An identity names at most one obligation of a set. -/
theorem eq_of_residual_eq (residuals : ResidualSetV1) {left right : ResidualObligationV1}
    (hleft : left ∈ residuals.obligations) (hright : right ∈ residuals.obligations)
    (h : left.residual = right.residual) : left = right := by
  have hmap : (residuals.obligations.map ResidualObligationV1.residual).Nodup :=
    List.pairwise_map.mpr (residuals.canonical.imp fun hlt => hlt.ne)
  exact List.inj_on_of_nodup_map hmap hleft hright h

end ResidualSetV1

instance : Serialize ResidualSetV1 := ⟨fun value => to_jcs value.obligations⟩

instance : InjectiveSerialize ResidualSetV1 where
  injective _ _ h := ResidualSetV1.ext (InjectiveSerialize.injective h)

/-- Exact externally authorized accounting for residual closure. -/
structure ExactResidualDischargeV1 where
  campaign : CampaignId
  occurrence : OccurrenceId
  program : ProgramBasisRefV1
  authority : ResidualAuthorityRefV1
  disposition : HumanDecisionIdV1
  before : List ResidualIdV1
  authorized : List ResidualIdV1
  closed : List ResidualIdV1
  after : List ResidualIdV1
  deriving DecidableEq, Repr

@[simp] def ExactResidualDischargeV1.serialize (value : ExactResidualDischargeV1) : Jcs :=
  .obj [("after", to_jcs value.after), ("authority", to_jcs value.authority),
    ("authorized", to_jcs value.authorized), ("before", to_jcs value.before),
    ("campaign", to_jcs value.campaign), ("closed", to_jcs value.closed),
    ("disposition", to_jcs value.disposition), ("occurrence", to_jcs value.occurrence),
    ("program", to_jcs value.program)]

instance : Serialize ExactResidualDischargeV1 := ⟨ExactResidualDischargeV1.serialize⟩

instance : InjectiveSerialize ExactResidualDischargeV1 := .of_serialize

/-- Canonical finding set used by the C1 review/repair profile. -/
structure CanonicalFindingSetV1 where
  findings : List Digest
  canonical : findings.Pairwise (· < ·)
  deriving DecidableEq

instance : Serialize CanonicalFindingSetV1 := ⟨fun value => to_jcs value.findings⟩

instance : InjectiveSerialize CanonicalFindingSetV1 where
  injective left right h := by
    have hfindings : left.findings = right.findings := InjectiveSerialize.injective h
    cases left
    cases right
    simpa using hfindings

end ag_campaign.governed

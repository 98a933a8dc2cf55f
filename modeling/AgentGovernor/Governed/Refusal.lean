import AgentGovernor.Governed.Intervention

open ag_primitives

namespace ag_campaign.governed

/-- Durable refusal code. A refusal is never a program-counter state. -/
inductive RefusalCodeV1 where
  | StaleObservation
  | Contradiction
  | AbsentStanding
  | StandingNotCurrent
  | InadmissibleExactWork
  | BudgetExhausted
  | ResidualUnresolved
  | HumanDecisionRequired
  | ProfileLawViolation
  | RecoveryRequired
  | InterventionBindingMismatch
  | InterventionNotApplicable
  | InterventionOutcomeUnknown
  deriving DecidableEq, Repr

/-- The serialized tag of a refusal code. -/
def RefusalCodeV1.tag : RefusalCodeV1 → String
  | .StaleObservation => "stale_observation"
  | .Contradiction => "contradiction"
  | .AbsentStanding => "absent_standing"
  | .StandingNotCurrent => "standing_not_current"
  | .InadmissibleExactWork => "inadmissible_exact_work"
  | .BudgetExhausted => "budget_exhausted"
  | .ResidualUnresolved => "residual_unresolved"
  | .HumanDecisionRequired => "human_decision_required"
  | .ProfileLawViolation => "profile_law_violation"
  | .RecoveryRequired => "recovery_required"
  | .InterventionBindingMismatch => "intervention_binding_mismatch"
  | .InterventionNotApplicable => "intervention_not_applicable"
  | .InterventionOutcomeUnknown => "intervention_outcome_unknown"

instance : Serialize RefusalCodeV1 := ⟨fun value => .str value.tag⟩

/-- Durable non-authorizing refusal outcome. -/
structure RefusalOutcomeV1 where
  key : OccurrenceKeyV1
  at_state_digest : Digest
  code : RefusalCodeV1
  evidence : Option Digest
  governed_intervention : Option VerifiedGovernedInterventionV1
  deriving DecidableEq

/-- An absent intervention is left out of the document. -/
def RefusalOutcomeV1.serialize (value : RefusalOutcomeV1) : Jcs :=
  .obj ([("at_state_digest", to_jcs value.at_state_digest), ("code", to_jcs value.code),
    ("evidence", to_jcs value.evidence)] ++
    (value.governed_intervention.toList.map fun verified => ("governed_intervention", to_jcs verified)) ++
    [("key", to_jcs value.key)])

instance : Serialize RefusalOutcomeV1 := ⟨RefusalOutcomeV1.serialize⟩

end ag_campaign.governed

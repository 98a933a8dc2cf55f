import AgentGovernor.Governed.State

open ag_primitives

namespace ag_campaign.governed

@[simp] def PriorOccurrenceBasisV1.serialize (value : PriorOccurrenceBasisV1) : Jcs :=
  .obj [("key", to_jcs value.key),
    ("normalized_preconditions", to_jcs value.normalized_preconditions),
    ("proposal", to_jcs value.proposal), ("state_digest", to_jcs value.state_digest)]

instance : Serialize PriorOccurrenceBasisV1 := ⟨PriorOccurrenceBasisV1.serialize⟩

instance : InjectiveSerialize PriorOccurrenceBasisV1 := .of_serialize

instance : NonNullSerialize PriorOccurrenceBasisV1 := ⟨fun _ h => by cases h⟩

@[simp] def OccurrenceLinkV1.serialize : OccurrenceLinkV1 → Jcs
  | .Initial => .str "initial"
  | .RetryOf prior => .obj [("retry_of", to_jcs prior)]
  | .SuccessorOf prior => .obj [("successor_of", to_jcs prior)]

instance : Serialize OccurrenceLinkV1 := ⟨OccurrenceLinkV1.serialize⟩

instance : InjectiveSerialize OccurrenceLinkV1 := .of_serialize

@[simp] def OccurrenceMetaV1.serialize (value : OccurrenceMetaV1) : Jcs :=
  .obj [("budget", to_jcs value.budget), ("expected_work", to_jcs value.expected_work),
    ("key", to_jcs value.key), ("program", to_jcs value.program),
    ("residuals", to_jcs value.residuals),
    ("used_human_decisions", to_jcs value.used_human_decisions)]

instance : Serialize OccurrenceMetaV1 := ⟨OccurrenceMetaV1.serialize⟩

instance : InjectiveSerialize OccurrenceMetaV1 := .of_serialize

@[simp] def ObservationRequiredV1.serialize (value : ObservationRequiredV1) : Jcs :=
  .obj [("meta", to_jcs value.metadata), ("prior", to_jcs value.prior)]

instance : Serialize ObservationRequiredV1 := ⟨ObservationRequiredV1.serialize⟩

instance : InjectiveSerialize ObservationRequiredV1 := .of_serialize

@[simp] def ProposalBasisV1.serialize (value : ProposalBasisV1) : Jcs :=
  .obj [("link", to_jcs value.link), ("meta", to_jcs value.metadata),
    ("observation", to_jcs value.observation), ("proposal", to_jcs value.proposal),
    ("proposal_ref", to_jcs value.proposal_ref)]

instance : Serialize ProposalBasisV1 := ⟨ProposalBasisV1.serialize⟩

instance : InjectiveSerialize ProposalBasisV1 := .of_serialize

@[simp] def AdmissibleBasisV1.serialize (value : AdmissibleBasisV1) : Jcs :=
  .obj [("decision", to_jcs value.decision), ("proposal", to_jcs value.proposal),
    ("standing", to_jcs value.standing)]

instance : Serialize AdmissibleBasisV1 := ⟨AdmissibleBasisV1.serialize⟩

instance : InjectiveSerialize AdmissibleBasisV1 := .of_serialize

@[simp] def AuthorizationConsumedV1.serialize (value : AuthorizationConsumedV1) : Jcs :=
  .obj [("admitted", to_jcs value.admitted), ("issuance", to_jcs value.issuance),
    ("spend", to_jcs value.spend)]

instance : Serialize AuthorizationConsumedV1 := ⟨AuthorizationConsumedV1.serialize⟩

instance : InjectiveSerialize AuthorizationConsumedV1 := .of_serialize

@[simp] def DispatchBasisV1.serialize (value : DispatchBasisV1) : Jcs :=
  .obj [("authorized", to_jcs value.authorized), ("custody", to_jcs value.custody)]

instance : Serialize DispatchBasisV1 := ⟨DispatchBasisV1.serialize⟩

instance : InjectiveSerialize DispatchBasisV1 := .of_serialize

@[simp] def ReconciliationRequiredV1.serialize (value : ReconciliationRequiredV1) : Jcs :=
  .obj [("dispatch", to_jcs value.dispatch), ("indeterminate", to_jcs value.indeterminate)]

instance : Serialize ReconciliationRequiredV1 := ⟨ReconciliationRequiredV1.serialize⟩

instance : InjectiveSerialize ReconciliationRequiredV1 := .of_serialize

@[simp] def SettledObservationRequiredV1.serialize (value : SettledObservationRequiredV1) : Jcs :=
  .obj [("dispatch", to_jcs value.dispatch), ("settlement", to_jcs value.settlement)]

instance : Serialize SettledObservationRequiredV1 := ⟨SettledObservationRequiredV1.serialize⟩

instance : InjectiveSerialize SettledObservationRequiredV1 := .of_serialize

@[simp] def HaltedV1.serialize (value : HaltedV1) : Jcs :=
  .obj [("history", to_jcs value.history), ("meta", to_jcs value.metadata),
    ("prior", to_jcs value.prior), ("reason", to_jcs value.reason), ("source", to_jcs value.source),
    ("unresolved_attempt", to_jcs value.unresolved_attempt)]

instance : Serialize HaltedV1 := ⟨HaltedV1.serialize⟩

instance : InjectiveSerialize HaltedV1 := .of_serialize

@[simp] def CompletedV1.serialize (value : CompletedV1) : Jcs :=
  .obj [("history", to_jcs value.history), ("meta", to_jcs value.metadata),
    ("terminal_observation", to_jcs value.terminal_observation),
    ("terminal_witness", to_jcs value.terminal_witness)]

instance : Serialize CompletedV1 := ⟨CompletedV1.serialize⟩

instance : InjectiveSerialize CompletedV1 := .of_serialize

/-- The state sum is externally tagged by its program counter. -/
@[simp] def OccurrenceStateV1.serialize : OccurrenceStateV1 → Jcs
  | .ObservationRequired value => .obj [("observation_required", to_jcs value)]
  | .ProposalRecorded value => .obj [("proposal_recorded", to_jcs value)]
  | .StandingRequired value => .obj [("standing_required", to_jcs value)]
  | .AdmissiblePendingAuthorization value => .obj [("admissible_pending_authorization", to_jcs value)]
  | .AuthorizationConsumed value => .obj [("authorization_consumed", to_jcs value)]
  | .Dispatched value => .obj [("dispatched", to_jcs value)]
  | .ReconciliationRequired value => .obj [("reconciliation_required", to_jcs value)]
  | .SettledObservationRequired value => .obj [("settled_observation_required", to_jcs value)]
  | .Halted value => .obj [("halted", to_jcs value)]
  | .Completed value => .obj [("completed", to_jcs value)]

instance : Serialize OccurrenceStateV1 := ⟨OccurrenceStateV1.serialize⟩

instance : InjectiveSerialize OccurrenceStateV1 := .of_serialize

end ag_campaign.governed

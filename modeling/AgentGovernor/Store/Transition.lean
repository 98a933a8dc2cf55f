import AgentGovernor.Governed.Refusal

open ag_primitives Checked ag_campaign ag_campaign.governed

namespace ag_store

def RUNTIME_PROFILE_DIGEST_DOMAIN_V1 : String := "ag.governed-loop.runtime-profile/v1"
def EVENT_DOMAIN_V1 : String := "ag.governed-loop.store-event/v1"
def EVENT_GENESIS_DOMAIN_V1 : String := "ag.governed-loop.store-event-genesis/v1"
def REFUSAL_DOMAIN_V1 : String := "ag.governed-loop.store-refusal/v1"

/-- The failures of the database engine that the statements of the store can meet. -/
inductive SqliteFailure where
  | QueryReturnedNoRows
  | UniqueConstraint
  | ForeignKeyConstraint
  | DatatypeConstraint
  deriving DecidableEq, Repr

/-- Transactional campaign-store failures. -/
inductive CampaignStoreErrorV1 where
  | Sqlite (failure : SqliteFailure)
  | Canonical (message : String)
  | Kernel (error : KernelErrorV1)
  | StalePredecessor (expected authoritative : Digest)
  | BindingMismatch
  | Corrupt (message : String)
  | HumanDispositionReplay

/-- Exact semantic transition kind stored in the authoritative journal. -/
inductive CampaignTransitionKindV1 where
  | CampaignCreated
  | ProposalRecorded
  | StandingRequired
  | Admissible
  | AuthorizationConsumed
  | DocketCustodyAccepted
  | SettlementRecorded
  | ReconciliationRequired
  | ReconciledSettlement
  | ContinuationOpened
  | ProbeNoted
  | Halted
  | Escalated
  | RecoveryReconciliation
  | HumanDisposition
  | Completed
  deriving DecidableEq, Repr

namespace CampaignTransitionKindV1

def as_str : CampaignTransitionKindV1 → String
  | .CampaignCreated => "campaign_created"
  | .ProposalRecorded => "proposal_recorded"
  | .StandingRequired => "standing_required"
  | .Admissible => "admissible"
  | .AuthorizationConsumed => "authorization_consumed"
  | .DocketCustodyAccepted => "docket_custody_accepted"
  | .SettlementRecorded => "settlement_recorded"
  | .ReconciliationRequired => "reconciliation_required"
  | .ReconciledSettlement => "reconciled_settlement"
  | .ContinuationOpened => "continuation_opened"
  | .ProbeNoted => "probe_noted"
  | .Halted => "halted"
  | .Escalated => "escalated"
  | .RecoveryReconciliation => "recovery_reconciliation"
  | .HumanDisposition => "human_disposition"
  | .Completed => "completed"

def parse (value : String) : Except CampaignStoreErrorV1 CampaignTransitionKindV1 :=
  match value with
  | "campaign_created" => .ok .CampaignCreated
  | "proposal_recorded" => .ok .ProposalRecorded
  | "standing_required" => .ok .StandingRequired
  | "admissible" => .ok .Admissible
  | "authorization_consumed" => .ok .AuthorizationConsumed
  | "docket_custody_accepted" => .ok .DocketCustodyAccepted
  | "settlement_recorded" => .ok .SettlementRecorded
  | "reconciliation_required" => .ok .ReconciliationRequired
  | "reconciled_settlement" => .ok .ReconciledSettlement
  | "continuation_opened" => .ok .ContinuationOpened
  | "probe_noted" => .ok .ProbeNoted
  | "halted" => .ok .Halted
  | "escalated" => .ok .Escalated
  | "recovery_reconciliation" => .ok .RecoveryReconciliation
  | "human_disposition" => .ok .HumanDisposition
  | "completed" => .ok .Completed
  | _ => .error (.Corrupt "unknown transition kind")

/-- A stored kind reads back as itself. -/
theorem parse_as_str (kind : CampaignTransitionKindV1) : parse kind.as_str = .ok kind := by
  cases kind <;> simp [as_str, parse]

theorem as_str_injective : Function.Injective as_str := by
  intro left right h
  have hparse := parse_as_str left
  rw [h, parse_as_str right] at hparse
  simpa using hparse.symm

end CampaignTransitionKindV1

instance : Serialize CampaignTransitionKindV1 := ⟨fun kind => .str kind.as_str⟩

instance : InjectiveSerialize CampaignTransitionKindV1 where
  injective left right h := by
    apply CampaignTransitionKindV1.as_str_injective
    simpa [to_jcs] using h

/-- Exact additional evidence carried by one canonical store transition. -/
inductive CampaignTransitionEvidenceV1 where
  | Genesis (runtime_profile : Option Digest)
  | None
  | HumanDisposition (artifact : HumanDispositionV1) (verification : HumanVerificationRefV1)
  | GovernedIntervention (verified : VerifiedGovernedInterventionV1)
  deriving DecidableEq

@[simp] def CampaignTransitionEvidenceV1.serialize : CampaignTransitionEvidenceV1 → Jcs
  | .Genesis runtime_profile => .obj [("genesis", .obj [("runtime_profile", to_jcs runtime_profile)])]
  | .None => .str "none"
  | .HumanDisposition artifact verification =>
    .obj [("human_disposition", .obj [("artifact", to_jcs artifact), ("verification", to_jcs verification)])]
  | .GovernedIntervention verified =>
    .obj [("governed_intervention", .obj [("verified", to_jcs verified)])]

instance : Serialize CampaignTransitionEvidenceV1 := ⟨CampaignTransitionEvidenceV1.serialize⟩

instance : InjectiveSerialize CampaignTransitionEvidenceV1 := .of_serialize

/-- The digest of the canonical transition evidence. -/
def evidence_digest (sha : Sha256) (evidence : CampaignTransitionEvidenceV1) : Digest :=
  digest_value sha EVENT_DOMAIN_V1 evidence

/-- What an event digest covers. Snapshot and evidence are in it by digest only. -/
structure StoreEventDigestInputV1 where
  campaign : CampaignId
  source_occurrence : Option OccurrenceId
  successor_occurrence : OccurrenceId
  transition_kind : CampaignTransitionKindV1
  predecessor_state_digest : Digest
  successor_state_digest : Digest
  evidence_digest : Digest
  previous_event_digest : Digest
  recorded_at_unix_ms : UInt64

@[simp] def StoreEventDigestInputV1.serialize (value : StoreEventDigestInputV1) : Jcs :=
  .obj [("campaign", to_jcs value.campaign), ("evidence_digest", to_jcs value.evidence_digest),
    ("predecessor_state_digest", to_jcs value.predecessor_state_digest),
    ("previous_event_digest", to_jcs value.previous_event_digest),
    ("recorded_at_unix_ms", to_jcs value.recorded_at_unix_ms),
    ("source_occurrence", to_jcs value.source_occurrence),
    ("successor_occurrence", to_jcs value.successor_occurrence),
    ("successor_state_digest", to_jcs value.successor_state_digest),
    ("transition_kind", to_jcs value.transition_kind)]

instance : Serialize StoreEventDigestInputV1 := ⟨StoreEventDigestInputV1.serialize⟩

instance : InjectiveSerialize StoreEventDigestInputV1 := .of_serialize

def store_event_digest (sha : Sha256) (input : StoreEventDigestInputV1) : Digest :=
  digest_value sha EVENT_DOMAIN_V1 input

/-- The event digest the first transition of a campaign refers back to. -/
def genesis_event (sha : Sha256) (campaign : CampaignId) : Digest :=
  Digest.hash_domain sha EVENT_GENESIS_DOMAIN_V1 (.text campaign.as_digest.as_str)

end ag_store

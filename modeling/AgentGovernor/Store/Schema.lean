import AgentGovernor.Lib.Table
import AgentGovernor.Store.Transition

open ag_primitives Checked ag_campaign ag_campaign.governed Relational

namespace ag_store

/-- Exact deployment-owned runtime profile retained at campaign genesis. -/
structure StoredRuntimeProfileV1 where
  schema : String
  digest : Digest
  canonical_bytes : Jcs

/-- A row of `campaigns`: the head of one campaign. -/
structure CampaignHeadRow where
  campaign : CampaignId
  occurrence : OccurrenceId
  state_digest : Digest
  revision : UInt64
  event_count : UInt64
  event_head : Digest

/-- A row of `occurrences`: the latest snapshot of one occurrence, with the
columns that repeat parts of it. -/
structure OccurrenceRow where
  campaign : CampaignId
  occurrence : OccurrenceId
  program_basis : ProgramBasisRefV1
  program_counter : ProgramCounterV1
  prior_state_digest : Digest
  state_digest : Digest
  revision : UInt64
  snapshot : OccurrenceSnapshotV1

/-- A row of `transitions` without its campaign. The order of the table stands
for the `sequence` column. -/
structure StoredTransitionRow where
  source_occurrence : Option OccurrenceId
  successor_occurrence : OccurrenceId
  kind : CampaignTransitionKindV1
  predecessor : Digest
  successor : Digest
  snapshot : OccurrenceSnapshotV1
  evidence : CampaignTransitionEvidenceV1
  evidence_digest : Digest
  previous_event : Digest
  event : Digest
  recorded_at_unix_ms : UInt64
  deriving DecidableEq

/-- The columns of `ag_authorization_spends` beside `spend_id`. Columns of
canonical bytes hold the value they encode. -/
structure ExpectedSpendRow where
  authorization : AgAuthorizationRefV1
  campaign : CampaignId
  occurrence : OccurrenceId
  issuance : AgIssuanceRefV1
  spend_jcs : AgAuthorizationSpendV1
  issuance_jcs : AgIssuanceV1
  transition : Digest
  deriving DecidableEq

/-- The columns of `docket_attempts` beside `attempt_id`. -/
structure ExpectedAttemptRow where
  issuance : AgIssuanceRefV1
  campaign : CampaignId
  occurrence : OccurrenceId
  custody_jcs : DocketCustodyV1
  transition : Digest
  deriving DecidableEq

/-- The columns of `docket_settlements` beside `settlement_id`. -/
structure ExpectedSettlementRow where
  attempt : DocketAttemptRefV1
  receipt : ReceiptRefV1
  campaign : CampaignId
  occurrence : OccurrenceId
  settlement_jcs : DocketSettlementV1
  transition : Digest
  deriving DecidableEq

/-- The columns of `human_dispositions` beside `decision_id`. -/
structure ExpectedHumanRow where
  nonce : HumanNonceRefV1
  campaign : CampaignId
  occurrence : OccurrenceId
  halted_state_digest : Digest
  verification : HumanVerificationRefV1
  artifact_jcs : HumanDispositionV1
  consumed_at_unix_ms : UInt64
  deriving DecidableEq

/-- The columns of `residual_discharges` beside `decision_id`. -/
structure ExpectedDischargeRow where
  authority : ResidualAuthorityRefV1
  before : List ResidualIdV1
  closed : List ResidualIdV1
  after : List ResidualIdV1
  deriving DecidableEq

/-- A row of `refusals`. -/
structure RefusalRow where
  refusal_id : Digest
  campaign : CampaignId
  occurrence : OccurrenceId
  state_digest : Digest
  refusal_jcs : RefusalOutcomeV1
  recorded_at_unix_ms : UInt64

section Constraints

instance : Constrained CampaignHeadRow where
  conflict left right := left.campaign = right.campaign
  decide_conflict _ _ := inferInstance
  symmetric _ _ h := h.symm

instance : Constrained OccurrenceRow where
  conflict left right := (left.campaign = right.campaign ∧ left.occurrence = right.occurrence) ∨
    left.state_digest = right.state_digest
  decide_conflict _ _ := inferInstance
  symmetric _ _ h := h.imp (And.imp Eq.symm Eq.symm) Eq.symm

instance : Constrained (CampaignId × StoredTransitionRow) where
  conflict left right := left.2.event = right.2.event ∨
    (left.1 = right.1 ∧ left.2.predecessor = right.2.predecessor) ∨
    (left.1 = right.1 ∧ left.2.successor = right.2.successor)
  decide_conflict _ _ := inferInstance
  symmetric _ _ h := h.imp Eq.symm (Or.imp (And.imp Eq.symm Eq.symm) (And.imp Eq.symm Eq.symm))

instance : Constrained (AgSpendRefV1 × ExpectedSpendRow) where
  conflict left right := left.1 = right.1 ∨ left.2.authorization = right.2.authorization ∨
    left.2.issuance = right.2.issuance ∨ left.2.transition = right.2.transition ∨
    (left.2.campaign = right.2.campaign ∧ left.2.occurrence = right.2.occurrence)
  decide_conflict _ _ := inferInstance
  symmetric _ _ h := h.imp Eq.symm (Or.imp Eq.symm (Or.imp Eq.symm (Or.imp Eq.symm
    (And.imp Eq.symm Eq.symm))))

instance : Constrained (DocketAttemptRefV1 × ExpectedAttemptRow) where
  conflict left right := left.1 = right.1 ∨ left.2.issuance = right.2.issuance ∨
    left.2.transition = right.2.transition ∨
    (left.2.campaign = right.2.campaign ∧ left.2.occurrence = right.2.occurrence)
  decide_conflict _ _ := inferInstance
  symmetric _ _ h := h.imp Eq.symm (Or.imp Eq.symm (Or.imp Eq.symm (And.imp Eq.symm Eq.symm)))

instance : Constrained (SettlementRefV1 × ExpectedSettlementRow) where
  conflict left right := left.1 = right.1 ∨ left.2.attempt = right.2.attempt ∨
    left.2.receipt = right.2.receipt ∨ left.2.transition = right.2.transition
  decide_conflict _ _ := inferInstance
  symmetric _ _ h := h.imp Eq.symm (Or.imp Eq.symm (Or.imp Eq.symm Eq.symm))

instance : Constrained (HumanDecisionIdV1 × ExpectedHumanRow) where
  conflict left right := left.1 = right.1 ∨ left.2.nonce = right.2.nonce
  decide_conflict _ _ := inferInstance
  symmetric _ _ h := h.imp Eq.symm Eq.symm

instance : Constrained (HumanDecisionIdV1 × ExpectedDischargeRow) where
  conflict left right := left.1 = right.1
  decide_conflict _ _ := inferInstance
  symmetric _ _ h := h.symm

instance : Constrained RefusalRow where
  conflict left right := left.refusal_id = right.refusal_id
  decide_conflict _ _ := inferInstance
  symmetric _ _ h := h.symm

instance : KeyedConstrained AgSpendRefV1 ExpectedSpendRow := ⟨fun _ _ h => .inl h⟩
instance : KeyedConstrained DocketAttemptRefV1 ExpectedAttemptRow := ⟨fun _ _ h => .inl h⟩
instance : KeyedConstrained SettlementRefV1 ExpectedSettlementRow := ⟨fun _ _ h => .inl h⟩
instance : KeyedConstrained HumanDecisionIdV1 ExpectedHumanRow := ⟨fun _ _ h => .inl h⟩
instance : KeyedConstrained HumanDecisionIdV1 ExpectedDischargeRow := ⟨fun _ _ h => h⟩

end Constraints

/-- The tables of one campaign store. The store identity and what `SQLite` keeps
for itself are left out. -/
@[ext]
structure Db where
  runtime_profile : Option StoredRuntimeProfileV1
  campaigns : Table CampaignHeadRow
  occurrences : Table OccurrenceRow
  transitions : Table (CampaignId × StoredTransitionRow)
  ag_authorization_spends : Table (AgSpendRefV1 × ExpectedSpendRow)
  docket_attempts : Table (DocketAttemptRefV1 × ExpectedAttemptRow)
  docket_settlements : Table (SettlementRefV1 × ExpectedSettlementRow)
  human_dispositions : Table (HumanDecisionIdV1 × ExpectedHumanRow)
  residual_discharges : Table (HumanDecisionIdV1 × ExpectedDischargeRow)
  refusals : Table RefusalRow

/-- The tables as the schema creates them. -/
def Db.empty : Db :=
  { runtime_profile := none
    campaigns := .empty
    occurrences := .empty
    transitions := .empty
    ag_authorization_spends := .empty
    docket_attempts := .empty
    docket_settlements := .empty
    human_dispositions := .empty
    residual_discharges := .empty
    refusals := .empty }

/-- The journal of one campaign in sequence order. -/
def Db.journal (db : Db) (campaign : CampaignId) : List StoredTransitionRow :=
  (db.transitions.rows.filter fun row => row.1 = campaign).map Prod.snd

end ag_store

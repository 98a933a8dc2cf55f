import AgentGovernor.Primitives.Serialize

open ag_primitives Checked

namespace ag_campaign

/-- The exact, immutable identity of one campaign. -/
structure CampaignId where
  from_digest ::
  as_digest : Digest
  deriving DecidableEq, Repr

instance : Serialize CampaignId := ⟨fun value => to_jcs value.as_digest⟩

instance : InjectiveSerialize CampaignId := .of_serialize

/-- A rejected bounded semantic label. -/
inductive CampaignLabelError where
  | Empty (kind : String)
  | TooLong (kind : String) (actual : Nat)
  | ControlCharacter (kind : String)
  deriving DecidableEq, Repr

def MAX_LABEL_BYTES : Nat := 128

/-- ASCII control characters are the only characters whose encoding contains an
ASCII control byte. -/
def is_ascii_control (character : Char) : Bool :=
  character.toNat < 32 || character.toNat == 127

/-- Validates a bounded free-text label: non-empty, at most 128 bytes, and free
of ASCII control characters. -/
def validate_label (kind : String) (value : String) : Except CampaignLabelError Unit := do
  reject (value = "") (.Empty kind)
  reject (value.utf8ByteSize > MAX_LABEL_BYTES) (.TooLong kind value.utf8ByteSize)
  reject (value.toList.any is_ascii_control = true) (.ControlCharacter kind)

namespace governed

/-- The members of the `exact_digest_ref!` family. -/
inductive RefKind where
  | ProgramBasis
  | Observation
  | ObservationCurrentness
  | PreconditionBasis
  | Proposal
  | StandingResolution
  | StandingCurrentness
  | Mandate
  | AdmissionDecision
  | AgAuthorization
  | AgSpend
  | AgIssuance
  | DocketExecutionStanding
  | DocketAttempt
  | ExecutorAttemptMarker
  | Settlement
  | Receipt
  | Reconciliation
  | Residual
  | ResidualAuthority
  | HaltReason
  | TerminalWitness
  | HumanDecision
  | HumanPrincipal
  | HumanNonce
  | HumanVerification
  | GovernedInterventionRequest
  | GovernedInterventionNonce
  | GovernedInterventionVerification
  deriving DecidableEq, Repr

/-- An exact domain-specific digest, kept apart from every other kind. -/
structure ExactDigestRef (kind : RefKind) where
  from_digest ::
  as_digest : Digest
  deriving Repr

theorem ExactDigestRef.as_digest_injective (kind : RefKind) :
    Function.Injective (ExactDigestRef.as_digest : ExactDigestRef kind → Digest) := by
  intro left right h
  cases left
  cases right
  simpa using h

instance (kind : RefKind) : LinearOrder (ExactDigestRef kind) :=
  LinearOrder.lift' ExactDigestRef.as_digest (ExactDigestRef.as_digest_injective kind)

-- The laws of the order of references, by name, for the sets and maps keyed by them.
instance ExactDigestRef.lawful_beq (kind : RefKind) : LawfulBEq (ExactDigestRef kind) := inferInstance

instance ExactDigestRef.trans_cmp (kind : RefKind) :
    Std.TransCmp (compare : ExactDigestRef kind → ExactDigestRef kind → Ordering) := inferInstance

instance ExactDigestRef.lawful_eq_cmp (kind : RefKind) :
    Std.LawfulEqCmp (compare : ExactDigestRef kind → ExactDigestRef kind → Ordering) := inferInstance

instance (kind : RefKind) : Serialize (ExactDigestRef kind) := ⟨fun value => to_jcs value.as_digest⟩

instance (kind : RefKind) : InjectiveSerialize (ExactDigestRef kind) := .of_serialize

instance (kind : RefKind) : NonNullSerialize (ExactDigestRef kind) := ⟨fun _ h => by simp [to_jcs] at h⟩

abbrev ProgramBasisRefV1 := ExactDigestRef .ProgramBasis
abbrev ObservationRefV1 := ExactDigestRef .Observation
abbrev ObservationCurrentnessRefV1 := ExactDigestRef .ObservationCurrentness
abbrev PreconditionBasisRefV1 := ExactDigestRef .PreconditionBasis
abbrev ProposalRefV1 := ExactDigestRef .Proposal
abbrev StandingResolutionRefV1 := ExactDigestRef .StandingResolution
abbrev StandingCurrentnessRefV1 := ExactDigestRef .StandingCurrentness
abbrev MandateRefV1 := ExactDigestRef .Mandate
abbrev AdmissionDecisionRefV1 := ExactDigestRef .AdmissionDecision
abbrev AgAuthorizationRefV1 := ExactDigestRef .AgAuthorization
abbrev AgSpendRefV1 := ExactDigestRef .AgSpend
abbrev AgIssuanceRefV1 := ExactDigestRef .AgIssuance
abbrev DocketExecutionStandingRefV1 := ExactDigestRef .DocketExecutionStanding
abbrev DocketAttemptRefV1 := ExactDigestRef .DocketAttempt
abbrev ExecutorAttemptMarkerRefV1 := ExactDigestRef .ExecutorAttemptMarker
abbrev SettlementRefV1 := ExactDigestRef .Settlement
abbrev ReceiptRefV1 := ExactDigestRef .Receipt
abbrev ReconciliationRefV1 := ExactDigestRef .Reconciliation
abbrev ResidualIdV1 := ExactDigestRef .Residual
abbrev ResidualAuthorityRefV1 := ExactDigestRef .ResidualAuthority
abbrev HaltReasonRefV1 := ExactDigestRef .HaltReason
abbrev TerminalWitnessRefV1 := ExactDigestRef .TerminalWitness
abbrev HumanDecisionIdV1 := ExactDigestRef .HumanDecision
abbrev HumanPrincipalRefV1 := ExactDigestRef .HumanPrincipal
abbrev HumanNonceRefV1 := ExactDigestRef .HumanNonce
abbrev HumanVerificationRefV1 := ExactDigestRef .HumanVerification
abbrev GovernedInterventionRequestIdV1 := ExactDigestRef .GovernedInterventionRequest
abbrev GovernedInterventionNonceRefV1 := ExactDigestRef .GovernedInterventionNonce
abbrev GovernedInterventionVerificationRefV1 := ExactDigestRef .GovernedInterventionVerification

/-- Independently allocated identity of one governed occurrence. -/
structure OccurrenceId where
  uuid : BitVec 128
  deriving DecidableEq, Repr

instance : Serialize OccurrenceId := ⟨fun value => .uuid value.uuid⟩

instance : InjectiveSerialize OccurrenceId := .of_serialize

instance : NonNullSerialize OccurrenceId := ⟨fun _ h => by simp [to_jcs] at h⟩

/-- Authoritative identity of one occurrence within one campaign. -/
@[ext]
structure OccurrenceKeyV1 where
  campaign : CampaignId
  occurrence : OccurrenceId
  deriving DecidableEq, Repr

@[simp] def OccurrenceKeyV1.serialize (value : OccurrenceKeyV1) : Jcs :=
  .obj [("campaign", to_jcs value.campaign), ("occurrence", to_jcs value.occurrence)]

instance : Serialize OccurrenceKeyV1 := ⟨OccurrenceKeyV1.serialize⟩

instance : InjectiveSerialize OccurrenceKeyV1 := .of_serialize

/-- The closed canonical governed-loop program counter. -/
inductive ProgramCounterV1 where
  | ObservationRequired
  | ProposalRecorded
  | StandingRequired
  | AdmissiblePendingAuthorization
  | AuthorizationConsumed
  | Dispatched
  | ReconciliationRequired
  | SettledObservationRequired
  | Halted
  | Completed
  deriving DecidableEq, Repr

/-- The stored tag of a program counter. -/
def pc_tag : ProgramCounterV1 → String
  | .ObservationRequired => "observation_required"
  | .ProposalRecorded => "proposal_recorded"
  | .StandingRequired => "standing_required"
  | .AdmissiblePendingAuthorization => "admissible_pending_authorization"
  | .AuthorizationConsumed => "authorization_consumed"
  | .Dispatched => "dispatched"
  | .ReconciliationRequired => "reconciliation_required"
  | .SettledObservationRequired => "settled_observation_required"
  | .Halted => "halted"
  | .Completed => "completed"

instance : Serialize ProgramCounterV1 := ⟨fun value => .str (pc_tag value)⟩

theorem pc_tag_injective : Function.Injective pc_tag := by
  intro left right h
  cases left <;> cases right <;> first | rfl | simp [pc_tag] at h

instance : InjectiveSerialize ProgramCounterV1 where
  injective left right h := pc_tag_injective (by simpa [to_jcs] using h)

/-- Failure reported by an external resolver or decider without granting authority. -/
inductive ExternalBoundaryErrorV1 where
  | Refused (code : String) (evidence : Option Digest)
  | Unavailable (code : String)
  deriving DecidableEq, Repr

/-- All pure-kernel refusals. -/
inductive KernelErrorV1 where
  | IllegalTransition (source : ProgramCounterV1) (operation : String)
  | ForeignSchema (record : String)
  | Label (error : CampaignLabelError)
  | OccurrenceMismatch
  | BindingMismatch (basis : String)
  | ObservationNotCurrent
  | ObservationContradiction
  | StandingAbsent
  | StandingNotCurrent
  | Inadmissible
  | AlteredFindingSet
  | RetryPreconditionsChanged
  | RetryProposalChanged
  | SuccessorProposalReused
  | OccurrenceReused
  | BudgetExhausted (count : String)
  | InvalidBudget
  | DuplicateResidual
  | DuplicateFinding
  | ResidualAccounting
  | ResidualsOpen
  | UnresolvedAttempt
  | HumanDisposition (reason : String)
  | Intervention (reason : String)
  | StateDigestMismatch
  | StateInvariant (invariant : String)
  | External (error : ExternalBoundaryErrorV1)
  deriving DecidableEq, Repr

end governed

end ag_campaign

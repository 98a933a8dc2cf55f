import AgentGovernor.Governed.HumanArtifact
import AgentGovernor.Governed.KernelHalt

open ag_primitives Checked

namespace ag_campaign.governed

/-- Result of an applicable human disposition. -/
inductive HumanDispositionEffectV1 where
  | Updated (snapshot : OccurrenceSnapshotV1) (verification : HumanVerificationRefV1)
  | OpenedOccurrence (halted successor : OccurrenceSnapshotV1) (verification : HumanVerificationRefV1)

def validate_human_artifact (current : OccurrenceSnapshotV1) (halted : HaltedV1)
    (artifact : HumanDispositionV1) (expected_scope : HumanAuthorityScopeV1) (now_unix_ms : UInt64) :
    Except KernelErrorV1 Unit := do
  reject (artifact.schema ≠ HUMAN_DISPOSITION_SCHEMA_V1) (.ForeignSchema "human disposition")
  reject (artifact.campaign ≠ halted.metadata.key.campaign) (.HumanDisposition "wrong campaign")
  reject (artifact.occurrence ≠ halted.metadata.key.occurrence) (.HumanDisposition "wrong occurrence")
  reject (artifact.halted_state_digest ≠ current.state_digest)
    (.HumanDisposition "wrong halted-state digest")
  reject (now_unix_ms ≥ artifact.expires_at_unix_ms) (.HumanDisposition "expired")
  reject (artifact.principal ≠ expected_scope.principal) (.HumanDisposition "wrong principal")
  reject (artifact.mandate ≠ expected_scope.mandate) (.HumanDisposition "wrong mandate")
  reject (artifact.decision ∈ halted.metadata.used_human_decisions)
    (.HumanDisposition "replayed decision")

/-- The coordinates after one more decision is consumed. -/
def OccurrenceMetaV1.consume_decision (metadata : OccurrenceMetaV1) (decision : HumanDecisionIdV1) :
    OccurrenceMetaV1 :=
  { metadata with used_human_decisions := metadata.used_human_decisions ++ [decision] }

/-- The occurrence a disposition opens: the halted occurrence's exact-work
lineage goes on, possibly under another program. -/
def resumed_from (halted_snapshot : OccurrenceSnapshotV1) (consumed_halt : HaltedV1)
    (occurrence : OccurrenceId) (program : ProgramBasisRefV1) : ObservationRequiredV1 :=
  { metadata :=
      { key := { campaign := consumed_halt.metadata.key.campaign, occurrence }
        program
        expected_work := consumed_halt.metadata.expected_work
        residuals := consumed_halt.metadata.residuals
        budget := consumed_halt.metadata.budget
        used_human_decisions := consumed_halt.metadata.used_human_decisions }
    prior := some
      { key := consumed_halt.metadata.key
        proposal := consumed_halt.prior.proposal
        normalized_preconditions := consumed_halt.prior.normalized_preconditions
        state_digest := halted_snapshot.state_digest } }

def open_from_halt (sha : Sha256) (current : OccurrenceSnapshotV1) (halted : HaltedV1)
    (artifact : HumanDispositionV1) (occurrence : OccurrenceId) (program : ProgramBasisRefV1)
    (verification : HumanVerificationRefV1) : Except KernelErrorV1 HumanDispositionEffectV1 := do
  reject (occurrence = halted.metadata.key.occurrence) .OccurrenceReused
  let consumed_halt := { halted with metadata := halted.metadata.consume_decision artifact.decision }
  let halted_snapshot ← checked_successor sha current (.Halted consumed_halt)
  let successor ← checked_successor sha halted_snapshot
    (.ObservationRequired (resumed_from halted_snapshot consumed_halt occurrence program))
  pure (.OpenedOccurrence halted_snapshot successor verification)

def sorted_unique_ids (values : List ResidualIdV1) : Option (Finset ResidualIdV1) :=
  if values.toFinset.card = values.length then some values.toFinset else none

def apply_exact_discharge (halted : HaltedV1) (discharge : ExactResidualDischargeV1)
    (decision : HumanDecisionIdV1) : Except KernelErrorV1 ResidualSetV1 := do
  reject (discharge.campaign ≠ halted.metadata.key.campaign ∨
      discharge.occurrence ≠ halted.metadata.key.occurrence ∨
      discharge.program ≠ halted.metadata.program ∨ discharge.disposition ≠ decision)
    .ResidualAccounting
  let before ← ok_or (sorted_unique_ids discharge.before) KernelErrorV1.ResidualAccounting
  let authorized ← ok_or (sorted_unique_ids discharge.authorized) KernelErrorV1.ResidualAccounting
  let closed ← ok_or (sorted_unique_ids discharge.closed) KernelErrorV1.ResidualAccounting
  let after ← ok_or (sorted_unique_ids discharge.after) KernelErrorV1.ResidualAccounting
  reject (before ≠ halted.metadata.residuals.ids ∨ authorized ≠ closed ∨ ¬ Disjoint closed after ∨
      before ≠ closed ∪ after) .ResidualAccounting
  ResidualSetV1.new (halted.metadata.residuals.as_slice.filter fun item => item.residual ∈ after)

namespace GovernedLoopKernelV1

/-- Applies an exactly bound, externally verified, one-use human disposition. -/
def apply_human_disposition (sha : Sha256) (current : OccurrenceSnapshotV1)
    (artifact : HumanDispositionV1) (expected_scope : HumanAuthorityScopeV1)
    (new_occurrence : Option OccurrenceId) (observation_resolver : ObservationResolverV1)
    (expected_observation_resolver : String) (verifier : HumanDispositionVerifierV1)
    (now_unix_ms : UInt64) : Except KernelErrorV1 HumanDispositionEffectV1 := do
  current.validate_integrity sha
  match current.state with
  | .Halted halted => do
    validate_human_artifact current halted artifact expected_scope now_unix_ms
    let verification ← map_err
      (verifier.verify_human_disposition { artifact, expected_scope, now_unix_ms }) KernelErrorV1.External
    match artifact.disposition with
    | .ReturnToObservation => do
      reject (halted.unresolved_attempt.isSome = true) .UnresolvedAttempt
      let occurrence ← ok_or new_occurrence (.HumanDisposition "new occurrence is required")
      open_from_halt sha current halted artifact occurrence halted.metadata.program verification
    | .ReplaceProgram program => do
      reject (halted.unresolved_attempt.isSome = true) .UnresolvedAttempt
      reject (program = halted.metadata.program) (.HumanDisposition "replacement program must differ")
      let occurrence ← ok_or new_occurrence (.HumanDisposition "new occurrence is required")
      open_from_halt sha current halted artifact occurrence program verification
    | .ExactResidualDisposition discharge => do
      reject (new_occurrence.isSome = true) (.HumanDisposition "residual disposition remains halted")
      let after ← apply_exact_discharge halted discharge artifact.decision
      let metadata := { halted.metadata with residuals := after }
      let next ← checked_successor sha current
        (.Halted { halted with metadata := metadata.consume_decision artifact.decision })
      pure (.Updated next verification)
    | .Terminate observation subject terminal_witness => do
      reject (new_occurrence.isSome = true) (.HumanDisposition "termination does not open an occurrence")
      reject (halted.unresolved_attempt.isSome = true) .UnresolvedAttempt
      reject (halted.metadata.residuals.is_empty = false) .ResidualsOpen
      let terminal ← resolve_observation sha observation_resolver halted.metadata.key observation subject
        expected_observation_resolver now_unix_ms
      let next ← checked_successor sha current (.Completed
        { metadata := halted.metadata.consume_decision artifact.decision
          terminal_observation := terminal
          terminal_witness
          history := halted.history })
      pure (.Updated next verification)
  | _ => throw (illegal current "apply_human_disposition")

end GovernedLoopKernelV1

end ag_campaign.governed

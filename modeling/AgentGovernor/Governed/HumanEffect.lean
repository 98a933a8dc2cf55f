import AgentGovernor.Governed.HumanSpec

open ag_primitives Checked

namespace ag_campaign.governed

/-- The program a disposition opens its occurrence under, when it opens one. -/
inductive OpensUnder (halted : HaltedV1) : HumanDispositionKindV1 → ProgramBasisRefV1 → Prop where
  | return_to_observation : OpensUnder halted .ReturnToObservation halted.metadata.program
  | replace_program {program : ProgramBasisRefV1} (hdiffers : program ≠ halted.metadata.program) :
    OpensUnder halted (.ReplaceProgram program) program

/-- The halted state once the decision is consumed and `remaining` is left open. -/
def HaltedV1.discharge (halted : HaltedV1) (remaining : ResidualSetV1) (decision : HumanDecisionIdV1) :
    HaltedV1 :=
  let metadata := { halted.metadata with residuals := remaining }
  { halted with metadata := metadata.consume_decision decision }

/-- The effects an applicable disposition of each kind can have. -/
inductive HumanOutcome (sha : Sha256) (current : OccurrenceSnapshotV1) (halted : HaltedV1)
    (artifact : HumanDispositionV1) (new_occurrence : Option OccurrenceId)
    (resolver : ObservationResolverV1) (expected : String) (now : UInt64)
    (verification : HumanVerificationRefV1) : HumanDispositionEffectV1 → Prop where
  | opened (hprogram : OpensUnder halted artifact.disposition program)
    (hresolved : halted.unresolved_attempt = none) (hnew : new_occurrence = some occurrence)
    (hdistinct : occurrence ≠ halted.metadata.key.occurrence)
    (hhalted : Follows sha current (.Halted (halted.consume artifact.decision)) halted_snapshot)
    (hsuccessor : Follows sha halted_snapshot (.ObservationRequired (resumed_from halted_snapshot
      (halted.consume artifact.decision) occurrence program)) successor) :
    HumanOutcome sha current halted artifact new_occurrence resolver expected now verification
      (.OpenedOccurrence halted_snapshot successor verification)
  | discharged
    (hkind : artifact.disposition = .ExactResidualDisposition discharge) (hnew : new_occurrence = none)
    (hdischarge : ExactDischarge halted discharge artifact.decision remaining)
    (hnext : Follows sha current (.Halted (halted.discharge remaining artifact.decision)) next) :
    HumanOutcome sha current halted artifact new_occurrence resolver expected now verification
      (.Updated next verification)
  | terminated (hkind : artifact.disposition = .Terminate observation subject terminal_witness)
    (hnew : new_occurrence = none) (hresolved : halted.unresolved_attempt = none)
    (hempty : halted.metadata.residuals.is_empty = true)
    (hterminal : resolve_observation sha resolver halted.metadata.key observation subject expected now =
      .ok terminal)
    (hnext : Follows sha current (.Completed
      { metadata := halted.metadata.consume_decision artifact.decision
        terminal_observation := terminal, terminal_witness, history := halted.history }) next) :
    HumanOutcome sha current halted artifact new_occurrence resolver expected now verification
      (.Updated next verification)

namespace GovernedLoopKernelV1

section

variable {sha : Sha256} {current : OccurrenceSnapshotV1} {artifact : HumanDispositionV1}
  {scope : HumanAuthorityScopeV1} {new_occurrence : Option OccurrenceId}
  {resolver : ObservationResolverV1} {expected : String} {verifier : HumanDispositionVerifierV1}
  {now : UInt64} {effect : HumanDispositionEffectV1}

theorem apply_human_disposition_eq_ok_iff :
    apply_human_disposition sha current artifact scope new_occurrence resolver expected verifier now =
        .ok effect ↔
      current.validate_integrity sha = .ok () ∧ ∃ halted verification,
        current.state = .Halted halted ∧ ApplicableArtifact current halted artifact scope now ∧
        verifier.verify_human_disposition ⟨artifact, scope, now⟩ = .ok verification ∧
        HumanOutcome sha current halted artifact new_occurrence resolver expected now verification
          effect := by
  unfold apply_human_disposition
  simp only [ok_rules]
  refine and_congr_right fun _ => ?_
  cases hstate : current.state with
  | Halted halted =>
    simp only [ok_rules, validate_human_artifact_eq_ok_iff, OccurrenceStateV1.Halted.injEq, exists_and_left,
      exists_eq_left']
    refine and_congr_right fun _ => exists_congr fun verification => and_congr_right fun _ => ?_
    cases hkind : artifact.disposition with
    | ReturnToObservation =>
      simp only [ok_rules, open_from_halt_eq_ok_iff, Bool.not_eq_true, Option.isSome_eq_false_iff,
        Option.isNone_iff_eq_none]
      constructor
      · rintro ⟨hresolved, occurrence, hnew, hdistinct, halted_snapshot, successor, hhalted, hsuccessor, rfl⟩
        exact .opened (hkind ▸ .return_to_observation) hresolved hnew hdistinct hhalted hsuccessor
      · intro houtcome
        cases houtcome with
        | opened hprogram hresolved hnew hdistinct hhalted hsuccessor =>
          rw [hkind] at hprogram
          cases hprogram
          exact ⟨hresolved, _, hnew, hdistinct, _, _, hhalted, hsuccessor, rfl⟩
        | discharged hother => simp [hkind] at hother
        | terminated hother => simp [hkind] at hother
    | ReplaceProgram program =>
      simp only [ok_rules, open_from_halt_eq_ok_iff, Bool.not_eq_true, Option.isSome_eq_false_iff,
        Option.isNone_iff_eq_none]
      constructor
      · rintro ⟨hresolved, hdiffers, occurrence, hnew, hdistinct, halted_snapshot, successor, hhalted,
          hsuccessor, rfl⟩
        exact .opened (hkind ▸ .replace_program hdiffers) hresolved hnew hdistinct hhalted hsuccessor
      · intro houtcome
        cases houtcome with
        | opened hprogram hresolved hnew hdistinct hhalted hsuccessor =>
          rw [hkind] at hprogram
          cases hprogram with
          | replace_program hdiffers =>
            exact ⟨hresolved, hdiffers, _, hnew, hdistinct, _, _, hhalted, hsuccessor, rfl⟩
        | discharged hother => simp [hkind] at hother
        | terminated hother => simp [hkind] at hother
    | ExactResidualDisposition discharge =>
      simp only [ok_rules, apply_exact_discharge_eq_ok_iff, checked_successor_eq_ok_iff, Bool.not_eq_true,
        Option.isSome_eq_false_iff, Option.isNone_iff_eq_none]
      constructor
      · rintro ⟨hnew, remaining, hdischarge, next, hnext, rfl⟩
        exact .discharged hkind hnew hdischarge hnext
      · intro houtcome
        cases houtcome with
        | opened hprogram => rw [hkind] at hprogram; cases hprogram
        | discharged hsame hnew hdischarge hnext =>
          rw [hkind] at hsame
          cases hsame
          exact ⟨hnew, _, hdischarge, _, hnext, rfl⟩
        | terminated hother => simp [hkind] at hother
    | Terminate observation subject terminal_witness =>
      simp only [ok_rules, checked_successor_eq_ok_iff, Bool.not_eq_true, Bool.not_eq_false,
        Option.isSome_eq_false_iff, Option.isNone_iff_eq_none]
      constructor
      · rintro ⟨hnew, hresolved, hempty, terminal, hterminal, next, hnext, rfl⟩
        exact .terminated hkind hnew hresolved hempty hterminal hnext
      · intro houtcome
        cases houtcome with
        | opened hprogram => rw [hkind] at hprogram; cases hprogram
        | discharged hother => simp [hkind] at hother
        | terminated hsame hnew hresolved hempty hterminal hnext =>
          rw [hkind] at hsame
          cases hsame
          exact ⟨hnew, hresolved, hempty, _, hterminal, _, hnext, rfl⟩
  | _ => simp [throw_ne_ok]

end

end GovernedLoopKernelV1

end ag_campaign.governed

import AgentGovernor.Governed.Step

open ag_primitives Checked

namespace ag_campaign.governed

open GovernedLoopKernelV1

variable {sha : Sha256} {current next : OccurrenceSnapshotV1}

variable {added : List OccurrenceSnapshotV1} {op : KernelOp}

/-- A plain operation that adds one snapshot takes one step. -/
theorem single_step {call : Except KernelErrorV1 OccurrenceSnapshotV1}
    (hstep : ∀ next, call = .ok next → KernelStep sha op current next) (h : ([·]) <$> call = .ok added) :
    (current :: added).IsChain (KernelStep sha op) := by
  obtain ⟨next, hcall, rfl⟩ := map_eq_ok_iff.mp h
  simpa using hstep next hcall

theorem probe_step (hop : op.effective = .note_probe)
    (h : note_probe sha current = .ok next) : KernelStep sha op current next := by
  obtain ⟨_, hpc, havailable, hfollows⟩ := note_probe_eq_ok_iff.mp h
  exact .probed hop hpc havailable hfollows

theorem continuation_step {occurrence : OccurrenceId} {expected_work : Digest}
    (hop : op.effective = .open_continuation occurrence expected_work)
    (h : open_continuation sha current occurrence expected_work = .ok next) :
    KernelStep sha op current next := by
  obtain ⟨_, settled, hstate, hdistinct, hfollows⟩ := open_continuation_eq_ok_iff.mp h
  exact .continued hop hstate hdistinct hfollows

theorem halt_step {reason : HaltReasonRefV1} (hop : op.effective = .halt reason)
    (h : halt sha current reason = .ok next) : KernelStep sha op current next := by
  obtain ⟨_, hsafe, hfollows⟩ := halt_eq_ok_iff.mp h
  exact .halted (.inl ⟨hop, rfl⟩) hsafe hfollows

theorem reconciliation_step {indeterminate : IndeterminateOutcomeV1}
    (hop : op = .require_reconciliation indeterminate ∨ op = .recover_dispatched)
    (h : require_reconciliation sha current indeterminate = .ok next) :
    KernelStep sha op current next := by
  obtain ⟨_, dispatch, hstate, _, hfollows⟩ := require_reconciliation_eq_ok_iff.mp h
  exact .indeterminate hop hstate hfollows

/-- An intervention takes the step of the operation it selects, or none. -/
theorem intervention_steps {verified : VerifiedGovernedInterventionV1}
    (h : (KernelOp.apply_verified_governed_intervention verified).apply sha current = .ok added) :
    (current :: added).IsChain
      (KernelStep sha (.apply_verified_governed_intervention verified)) := by
  obtain ⟨effect, heffect, rfl⟩ := map_eq_ok_iff.mp h
  simp only [GovernedLoopKernelV1.apply_verified_governed_intervention, ok_rules] at heffect
  obtain ⟨_, _, _, _, heffect⟩ := heffect
  cases hclass : verified.request.intervention with
  | ReconcileAttempt issuance attempt evidence =>
    rw [hclass] at heffect
    cases hstate : current.state with
    | ReconciliationRequired state =>
      simp only [hstate, ok_rules] at heffect
      obtain ⟨_, _, rfl⟩ := heffect
      simp [GovernedInterventionEffectV1.snapshots]
    | _ => simp [hstate, throw_ne_ok] at heffect
  | RequestProbe exact_probe_work evidence =>
    simp only [hclass, ok_rules] at heffect
    obtain ⟨successor, hcall, rfl⟩ := heffect
    simpa [GovernedInterventionEffectV1.snapshots] using
      probe_step (by simp [KernelOp.effective, hclass]) hcall
  | OpenSuccessor successor_occurrence exact_work =>
    simp only [hclass, ok_rules] at heffect
    obtain ⟨successor, hcall, rfl⟩ := heffect
    simpa [GovernedInterventionEffectV1.snapshots] using
      continuation_step (by simp [KernelOp.effective, hclass]) hcall
  | HaltContinuation reason =>
    simp only [hclass, ok_rules] at heffect
    obtain ⟨successor, hcall, rfl⟩ := heffect
    simpa [GovernedInterventionEffectV1.snapshots] using
      halt_step (by simp [KernelOp.effective, hclass]) hcall

/-- A disposition takes one step, or the two steps that open an occurrence. -/
theorem human_steps {artifact : HumanDispositionV1} {scope : HumanAuthorityScopeV1}
    {new_occurrence : Option OccurrenceId} {resolver : ObservationResolverV1} {expected : String}
    {verifier : HumanDispositionVerifierV1} {now : UInt64}
    (h : (KernelOp.apply_human_disposition artifact scope new_occurrence resolver expected verifier
      now).apply sha current = .ok added) :
    (current :: added).IsChain (KernelStep sha
      (.apply_human_disposition artifact scope new_occurrence resolver expected verifier now)) := by
  obtain ⟨effect, heffect, rfl⟩ := map_eq_ok_iff.mp h
  obtain ⟨_, halted, verification, hstate, _, _, houtcome⟩ := apply_human_disposition_eq_ok_iff.mp heffect
  cases houtcome with
  | opened hprogram hresolved hnew hdistinct hhalted hsuccessor =>
    -- consuming the decision changes neither the program nor the unresolved attempt
    have hopens : ∀ {program}, OpensUnder halted artifact.disposition program →
        OpensUnder (halted.consume artifact.decision) artifact.disposition program := by
      intro program hopens
      generalize artifact.disposition = kind at hopens
      cases hopens with
      | return_to_observation => exact .return_to_observation
      | replace_program hdiffers => exact .replace_program hdiffers
    simp only [HumanDispositionEffectV1.snapshots, List.isChain_cons_cons]
    exact ⟨.decided rfl hstate hprogram hhalted,
      .resumed rfl hhalted.state_eq (hopens hprogram) hresolved hdistinct hsuccessor, .singleton _⟩
  | discharged hkind hnew hdischarge hnext =>
    simpa [HumanDispositionEffectV1.snapshots] using
      KernelStep.discharged rfl hstate hkind hdischarge hnext
  | terminated hkind hnew hresolved hempty hterminal hnext =>
    have hterminal := (resolve_observation_eq_ok_iff.mp hterminal).2
    simpa [HumanDispositionEffectV1.snapshots] using
      KernelStep.terminated rfl hstate hresolved hempty hterminal hnext

/-- Every successful call of the kernel is a chain of kernel steps. -/
theorem apply_steps (h : op.apply sha current = .ok added) : (current :: added).IsChain
    (KernelStep sha op) := by
  cases op with
  | record_proposal observation proposal proposal_class resolver expected now =>
    refine single_step (fun next hcall => ?_) h
    obtain ⟨_, pending, resolved, link, metadata, hstate, _, _, hwork, hresolve, hclass, hfollows⟩ :=
      record_proposal_eq_ok_iff.mp hcall
    exact .proposed rfl hstate hwork (resolve_observation_eq_ok_iff.mp hresolve).2 hclass hfollows
  | require_standing =>
    refine single_step (fun next hcall => ?_) h
    obtain ⟨_, proposal, hstate, hfollows⟩ := require_standing_eq_ok_iff.mp hcall
    exact .standing rfl hstate hfollows
  | record_admissible premises =>
    refine single_step (fun next hcall => ?_) h
    obtain ⟨_, required, observation, standing, decision, hstate, hresolve, hfollows⟩ :=
      record_admissible_eq_ok_iff.mp hcall
    exact .admitted rfl hstate hresolve hfollows
  | consume_authorization premises =>
    refine single_step (fun next hcall => ?_) h
    obtain ⟨_, pending, observation, standing, decision, hstate, hresolve, hfollows⟩ :=
      consume_authorization_eq_ok_iff.mp hcall
    exact .consumed rfl hstate hresolve hfollows
  | accept_docket_custody custody =>
    refine single_step (fun next hcall => ?_) h
    obtain ⟨_, authorized, hstate, _, hfollows⟩ := accept_docket_custody_eq_ok_iff.mp hcall
    exact .dispatched rfl hstate hfollows
  | record_settlement settlement =>
    refine single_step (fun next hcall => ?_) h
    obtain ⟨_, dispatch, hstate, _, hfollows⟩ := record_settlement_eq_ok_iff.mp hcall
    exact .settled rfl hstate hfollows
  | require_reconciliation indeterminate =>
    exact single_step (fun next hcall => reconciliation_step (.inl rfl) hcall) h
  | recover_dispatched =>
    refine single_step (fun next hcall => ?_) h
    obtain ⟨indeterminate, hcall⟩ := recover_dispatched_eq_ok hcall
    exact reconciliation_step (.inr rfl) hcall
  | record_reconciled_settlement settlement =>
    refine single_step (fun next hcall => ?_) h
    obtain ⟨_, reconciling, hstate, _, hfollows⟩ := record_reconciled_settlement_eq_ok_iff.mp hcall
    exact .reconciled rfl hstate hfollows
  | open_continuation occurrence expected_work =>
    exact single_step (fun next hcall => continuation_step rfl hcall) h
  | note_probe => exact single_step (fun next hcall => probe_step rfl hcall) h
  | halt reason => exact single_step (fun next hcall => halt_step rfl hcall) h
  | escalate reason =>
    refine single_step (fun next hcall => ?_) h
    obtain ⟨_, havailable, hsafe, hfollows⟩ := escalate_eq_ok_iff.mp hcall
    exact .halted (.inr ⟨rfl, havailable, rfl⟩) hsafe hfollows
  | complete_from_observation observation subject terminal_witness resolver expected now =>
    refine single_step (fun next hcall => ?_) h
    obtain ⟨_, pending, terminal, hstate, hempty, hterminal, hfollows⟩ :=
      complete_from_observation_eq_ok_iff.mp hcall
    exact .completed rfl hstate hempty (resolve_observation_eq_ok_iff.mp hterminal).2 hfollows
  | apply_verified_governed_intervention verified => exact intervention_steps h
  | apply_human_disposition artifact scope new_occurrence resolver expected verifier now =>
    exact human_steps h

end ag_campaign.governed

import AgentGovernor.Governed.Operation

open ag_primitives Checked

namespace ag_campaign.governed

open GovernedLoopKernelV1

/-- Everything one kernel step from `source` to `target` can be. A disposition
that opens an occurrence is two steps of one operation. -/
inductive KernelStep (sha : Sha256) (op : KernelOp) (source target : OccurrenceSnapshotV1) : Prop where
  | proposed (hop : op = .record_proposal observation proposal proposal_class resolver expected now)
    (hsource : source.state = .ObservationRequired pending)
    (hwork : proposal.work = pending.metadata.expected_work)
    (hresolved : ResolvedObservation sha pending.metadata.key observation proposal.subject expected now
      resolved)
    (hclass : Classified sha pending proposal resolved proposal_class link metadata)
    (htarget : Follows sha source (.ProposalRecorded
      { metadata := { metadata with residuals := pending.metadata.residuals }
        observation := resolved, proposal, proposal_ref := proposal.reference sha, link }) target)
  | standing (hop : op = .require_standing)
    (hsource : source.state = .ProposalRecorded proposal)
    (htarget : Follows sha source (.StandingRequired proposal) target)
  | admitted (hop : op = .record_admissible premises)
    (hsource : source.state = .StandingRequired required)
    (hresolved : resolve_admissibility sha required premises = .ok (observation, standing, decision))
    (htarget : Follows sha source (.AdmissiblePendingAuthorization
      { proposal := { required with observation }, standing, decision }) target)
  | consumed (hop : op = .consume_authorization premises)
    (hsource : source.state = .AdmissiblePendingAuthorization pending)
    (hresolved : resolve_admissibility sha pending.proposal premises =
      .ok (observation, standing, decision))
    (htarget : Follows sha source (.AuthorizationConsumed (authorize sha
      { proposal := { pending.proposal with observation }, standing, decision }
      premises.now_unix_ms)) target)
  | dispatched (hop : op = .accept_docket_custody custody)
    (hsource : source.state = .AuthorizationConsumed authorized)
    (htarget : Follows sha source (.Dispatched { authorized, custody }) target)
  | settled (hop : op = .record_settlement settlement)
    (hsource : source.state = .Dispatched dispatch)
    (htarget : Follows sha source (.SettledObservationRequired { dispatch, settlement }) target)
  | indeterminate (hop : op = .require_reconciliation indeterminate ∨ op = .recover_dispatched)
    (hsource : source.state = .Dispatched dispatch)
    (htarget : Follows sha source (.ReconciliationRequired { dispatch, indeterminate }) target)
  | reconciled (hop : op = .record_reconciled_settlement settlement)
    (hsource : source.state = .ReconciliationRequired reconciling)
    (htarget : Follows sha source
      (.SettledObservationRequired { dispatch := reconciling.dispatch, settlement }) target)
  | continued (hop : op.effective = .open_continuation occurrence expected_work)
    (hsource : source.state = .SettledObservationRequired settled)
    (hdistinct : occurrence ≠ settled.dispatch.authorized.admitted.proposal.metadata.key.occurrence)
    (htarget : Follows sha source
      (.ObservationRequired (continuation_of source settled occurrence expected_work)) target)
  | probed (hop : op.effective = .note_probe)
    (hsource : source.program_counter = .SettledObservationRequired ∨
      source.program_counter = .ObservationRequired)
    (havailable : source.state.metadata.budget.probe_available = true)
    (htarget : Follows sha source (source.state.set_metadata (probed source.state.metadata)) target)
  | halted (hop : (op.effective = .halt reason ∧ metadata = source.state.metadata) ∨
      (op = .escalate reason ∧ source.state.metadata.budget.escalation_available = true ∧
        metadata = escalated source.state.metadata))
    (hsafe : is_safe_halt_source source.program_counter = true)
    (htarget : Follows sha source (.Halted (halted_from source metadata reason)) target)
  | completed
    (hop : op = .complete_from_observation observation subject terminal_witness resolver expected now)
    (hsource : source.state = .ObservationRequired pending)
    (hempty : pending.metadata.residuals.is_empty = true)
    (hterminal : ResolvedObservation sha pending.metadata.key observation subject expected now terminal)
    (htarget : Follows sha source (.Completed
      { metadata := pending.metadata, terminal_observation := terminal, terminal_witness,
        history := .default }) target)
  | decided (hop : op = .apply_human_disposition artifact scope new_occurrence resolver expected verifier now)
    (hsource : source.state = .Halted halted)
    (hprogram : OpensUnder halted artifact.disposition program)
    (htarget : Follows sha source (.Halted (halted.consume artifact.decision)) target)
  | resumed (hop : op = .apply_human_disposition artifact scope new_occurrence resolver expected verifier now)
    (hsource : source.state = .Halted halted)
    (hprogram : OpensUnder halted artifact.disposition program)
    (hresolved : halted.unresolved_attempt = none)
    (hdistinct : occurrence ≠ halted.metadata.key.occurrence)
    (htarget : Follows sha source
      (.ObservationRequired (resumed_from source halted occurrence program)) target)
  | discharged
    (hop : op = .apply_human_disposition artifact scope new_occurrence resolver expected verifier now)
    (hsource : source.state = .Halted halted)
    (hkind : artifact.disposition = .ExactResidualDisposition discharge)
    (hdischarge : ExactDischarge halted discharge artifact.decision remaining)
    (htarget : Follows sha source (.Halted (halted.discharge remaining artifact.decision)) target)
  | terminated
    (hop : op = .apply_human_disposition artifact scope new_occurrence resolver expected verifier now)
    (hsource : source.state = .Halted halted)
    (hresolved : halted.unresolved_attempt = none)
    (hempty : halted.metadata.residuals.is_empty = true)
    (hterminal : ResolvedObservation sha halted.metadata.key observation subject expected now terminal)
    (htarget : Follows sha source (.Completed
      { metadata := halted.metadata.consume_decision artifact.decision
        terminal_observation := terminal, terminal_witness, history := halted.history }) target)

namespace KernelStep

variable {sha : Sha256} {op : KernelOp} {source target : OccurrenceSnapshotV1}

/-- The two snapshots of one probe share their program counter. -/
theorem probe_state_ne {state : OccurrenceStateV1} {metadata : OccurrenceMetaV1}
    (hcounter : source.program_counter ≠ state.program_counter)
    (ht : Follows sha source (source.state.set_metadata metadata) target) : target.state ≠ state := by
  rintro rfl
  rw [ht.state_eq, OccurrenceStateV1.set_metadata_program_counter] at hcounter
  exact hcounter rfl

variable (h : KernelStep sha op source target)

include h

/-- Every step ends in a linked snapshot that passes its own checks. -/
theorem exists_follows :
    ∃ state, Follows sha source state target := by
  cases h <;> exact ⟨_, ‹_›⟩

theorem integrity : target.validate_integrity sha = .ok () := by
  obtain ⟨state, hfollows⟩ := h.exists_follows
  exact hfollows.integrity

theorem prior_eq :
    target.prior_state_digest = source.state_digest := by
  obtain ⟨state, hfollows⟩ := h.exists_follows
  exact hfollows.prior_eq

/-- An authorization is consumed only by its own operation, from an admission. -/
theorem consumed_of_target {value : AuthorizationConsumedV1}
    (hvalue : target.state = .AuthorizationConsumed value) :
    ∃ premises pending observation standing decision, op = .consume_authorization premises ∧
      source.state = .AdmissiblePendingAuthorization pending ∧
      premises.Answered pending.proposal observation standing decision ∧
      ResolvedAdmissibility sha pending.proposal premises observation standing decision ∧
      value = authorize sha { proposal := { pending.proposal with observation }, standing, decision }
        premises.now_unix_ms := by
  cases h with
  | consumed hop hsource hresolved htarget =>
    obtain ⟨hanswered, hadmissible⟩ := resolve_admissibility_eq_ok_iff.mp hresolved
    rw [htarget.state_eq] at hvalue
    exact ⟨_, _, _, _, _, hop, hsource, hanswered, hadmissible,
      (OccurrenceStateV1.AuthorizationConsumed.inj hvalue).symm⟩
  | probed hop hpc havailable htarget =>
    exact absurd hvalue (probe_state_ne (by rcases hpc with hpc | hpc <;> rw [hpc] <;> rintro ⟨⟩) htarget)
  | _ =>
    rename_i htarget
    simp [htarget.state_eq] at hvalue

end KernelStep

end ag_campaign.governed

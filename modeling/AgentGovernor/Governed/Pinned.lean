import AgentGovernor.Governed.Completeness
import AgentGovernor.Governed.ReproduceHuman

open ag_primitives Checked

namespace ag_campaign.governed

open GovernedLoopKernelV1
open OccurrenceSnapshotV1 (program_counter)

/-- What every kernel operation pins of the pair it produces and the transition
table of the membrane does not compare. -/
structure Pinned (sha : Sha256) (source target : OccurrenceSnapshotV1) : Prop where
  /-- Only a continuation after a settlement may bind other work. -/
  expected_work : target.state.metadata.expected_work = source.state.metadata.expected_work ∨
    source.program_counter = .SettledObservationRequired ∧ target.program_counter = .ObservationRequired
  /-- A proposal is recorded for the expected work. -/
  proposal_work : ∀ next, target.state = .ProposalRecorded next →
    source.program_counter = .ObservationRequired →
    next.proposal.work = source.state.metadata.expected_work
  /-- A retry is counted below its limit, not at a stuck counter. -/
  retry : ∀ next prior, target.state = .ProposalRecorded next →
    source.program_counter = .ObservationRequired → next.link = .RetryOf prior →
    source.state.metadata.budget.retry_available = true
  /-- At some moment both answers of an admission were current. -/
  admission : ∀ next, target.state = .AdmissiblePendingAuthorization next →
    source.program_counter = .StandingRequired →
    ∃ now, PresentableAt next.proposal.observation next.standing now
  /-- Both answers were current when the spend was created. -/
  spend : ∀ next, target.state = .AuthorizationConsumed next →
    source.program_counter = .AdmissiblePendingAuthorization →
    PresentableAt next.admitted.proposal.observation next.admitted.standing next.spend.consumed_at_unix_ms
  /-- A halt names the exact basis it left. -/
  halt_prior : ∀ next, target.state = .Halted next → source.program_counter ≠ .Halted →
    next.prior = current_prior_basis source
  /-- An occurrence is resumed only from a halt that consumed a decision. -/
  resumption : ∀ halted, source.state = .Halted halted → target.program_counter = .ObservationRequired →
    ConsumedDecision sha source halted
  /-- The terminal observation is a sound resolution. -/
  terminal : ∀ next, target.state = .Completed next → source.program_counter ≠ .Completed →
    SoundObservation sha next.terminal_observation
  /-- An authority-empty occurrence completes without history. -/
  terminal_history : ∀ next, target.state = .Completed next →
    source.program_counter = .ObservationRequired → next.history = .default
  /-- Probes are noted below their limit, at the two boundaries that wait for an
  observation. -/
  probe : source.program_counter = target.program_counter → source.program_counter ≠ .Halted →
    (source.program_counter = .SettledObservationRequired ∨
      source.program_counter = .ObservationRequired) ∧
    source.state.metadata.budget.probe_available = true

/-- The kernel can have produced the pair: one operation takes `source` to `target`
or, where a halted occurrence is resumed, one disposition of an earlier halt gives
both. -/
def KernelProduces (sha : Sha256) (source target : OccurrenceSnapshotV1) : Prop :=
  if source.program_counter = .Halted ∧ target.program_counter = .ObservationRequired then
    ∃ (op : KernelOp) (current : OccurrenceSnapshotV1), op.apply sha current = .ok [source, target]
  else
    ∃ op : KernelOp, op.apply sha source = .ok [target]

namespace KernelStep

variable {sha : Sha256} {op : KernelOp} {source target : OccurrenceSnapshotV1}

variable (h : KernelStep sha op source target)

include h

/-- Every step but a continuation keeps the expected work. -/
theorem expected_work_eq :
    target.state.metadata.expected_work = source.state.metadata.expected_work ∨
      source.program_counter = .SettledObservationRequired ∧
        target.program_counter = .ObservationRequired := by
  cases h with
  | proposed _ hs _ _ hclass ht =>
    obtain ⟨budget, rfl⟩ := hclass.metadata_eq
    rw [hs, ht.state_eq]
    exact .inl rfl
  | standing _ hs ht | dispatched _ hs ht | settled _ hs ht | indeterminate _ hs ht
  | reconciled _ hs ht | admitted _ hs _ ht | consumed _ hs _ ht | completed _ hs _ _ ht
  | decided _ hs _ ht | resumed _ hs _ _ _ ht | discharged _ hs _ _ ht | terminated _ hs _ _ _ ht =>
    rw [hs, ht.state_eq]
    exact .inl rfl
  | continued _ hs _ ht =>
    right
    rw [program_counter, program_counter, hs, ht.state_eq]
    exact ⟨rfl, rfl⟩
  | probed _ _ _ ht =>
    rw [ht.state_eq, OccurrenceStateV1.set_metadata_metadata]
    exact .inl rfl
  | halted hop _ ht =>
    rw [ht.state_eq]
    rcases hop with ⟨_, rfl⟩ | ⟨_, _, rfl⟩ <;> exact .inl rfl

theorem proposal_recorded {next : ProposalBasisV1} (hnext : target.state = .ProposalRecorded next)
    (hcounter : source.program_counter = .ObservationRequired) :
    next.proposal.work = source.state.metadata.expected_work ∧
      ∀ prior, next.link = .RetryOf prior → source.state.metadata.budget.retry_available = true := by
  cases h with
  | proposed _ hs hwork _ hclass ht =>
    rw [ht.state_eq] at hnext
    cases hnext
    rw [hs]
    refine ⟨hwork, fun prior hlink => ?_⟩
    cases hclass with
    | retry _ _ havailable => exact havailable
    | _ => cases hlink
  | probed _ _ _ ht => exact absurd hnext (probe_state_ne (by rw [hcounter]; rintro ⟨⟩) ht)
  | _ =>
    rename_i ht
    rw [ht.state_eq] at hnext
    cases hnext

theorem admission_presentable {next : AdmissibleBasisV1} (hnext : target.state = .AdmissiblePendingAuthorization next)
    (hcounter : source.program_counter = .StandingRequired) :
    ∃ now, PresentableAt next.proposal.observation next.standing now := by
  cases h with
  | admitted _ _ hresolved ht =>
    rw [ht.state_eq] at hnext
    cases hnext
    exact ⟨_, (resolve_admissibility_eq_ok_iff.mp hresolved).2.presentable⟩
  | probed _ _ _ ht => exact absurd hnext (probe_state_ne (by rw [hcounter]; rintro ⟨⟩) ht)
  | _ =>
    rename_i ht
    rw [ht.state_eq] at hnext
    cases hnext

theorem spend_presentable {next : AuthorizationConsumedV1} (hnext : target.state = .AuthorizationConsumed next) :
    PresentableAt next.admitted.proposal.observation next.admitted.standing
      next.spend.consumed_at_unix_ms := by
  obtain ⟨_, _, _, _, _, _, _, _, hresolved, rfl⟩ := h.consumed_of_target hnext
  exact hresolved.presentable

theorem halt_prior_eq {next : HaltedV1}
    (hnext : target.state = .Halted next) (hcounter : source.program_counter ≠ .Halted) :
    next.prior = current_prior_basis source := by
  cases h with
  | halted _ _ ht =>
    rw [ht.state_eq] at hnext
    cases hnext
    rfl
  | decided _ hs _ ht | discharged _ hs _ _ ht =>
    rw [program_counter, hs] at hcounter
    exact absurd rfl hcounter
  | probed _ _ _ ht => exact absurd hnext (probe_state_ne hcounter ht)
  | _ =>
    rename_i ht
    rw [ht.state_eq] at hnext
    cases hnext

theorem terminal_sound {next : CompletedV1}
    (hnext : target.state = .Completed next) (hcounter : source.program_counter ≠ .Completed) :
    SoundObservation sha next.terminal_observation ∧
      (source.program_counter = .ObservationRequired → next.history = .default) := by
  cases h with
  | completed _ _ _ hterminal ht =>
    rw [ht.state_eq] at hnext
    cases hnext
    exact ⟨hterminal.sound, fun _ => rfl⟩
  | terminated _ hs _ _ hterminal ht =>
    rw [ht.state_eq] at hnext
    cases hnext
    rw [program_counter, hs]
    exact ⟨hterminal.sound, by rintro ⟨⟩⟩
  | probed _ _ _ ht => exact absurd hnext (probe_state_ne hcounter ht)
  | _ =>
    rename_i ht
    rw [ht.state_eq] at hnext
    cases hnext

/-- A step that stays at its program counter, other than a halted one, is a probe. -/
theorem probe_noted (hcounter : source.program_counter = target.program_counter)
    (hrunning : source.program_counter ≠ .Halted) : (source.program_counter = .SettledObservationRequired ∨
      source.program_counter = .ObservationRequired) ∧
    source.state.metadata.budget.probe_available = true := by
  rw [program_counter, program_counter] at hcounter
  cases h with
  | probed _ hpc havailable _ => exact ⟨hpc, havailable⟩
  | halted _ _ ht =>
    rw [ht.state_eq] at hcounter
    exact absurd hcounter hrunning
  | decided _ hs _ ht | discharged _ hs _ _ ht =>
    rw [program_counter, hs] at hrunning
    exact absurd rfl hrunning
  | proposed _ hs _ _ _ ht | standing _ hs ht | dispatched _ hs ht | settled _ hs ht
  | indeterminate _ hs ht | reconciled _ hs ht | admitted _ hs _ ht | consumed _ hs _ ht
  | completed _ hs _ _ ht | resumed _ hs _ _ _ ht | terminated _ hs _ _ _ ht | continued _ hs _ ht =>
    rw [hs, ht.state_eq] at hcounter
    cases hcounter

/-- Everything the membrane leaves open is pinned by the step that takes the pair,
whatever is known of a resumption beyond the step. -/
theorem pinned (hresumption : ∀ halted, source.state = .Halted halted →
      target.program_counter = .ObservationRequired → ConsumedDecision sha source halted) :
    Pinned sha source target where
  expected_work := h.expected_work_eq
  proposal_work _ hnext hcounter := (h.proposal_recorded hnext hcounter).1
  retry _ prior hnext hcounter := (h.proposal_recorded hnext hcounter).2 prior
  admission _ hnext hcounter := h.admission_presentable hnext hcounter
  spend _ hnext _ := h.spend_presentable hnext
  halt_prior _ hnext hcounter := h.halt_prior_eq hnext hcounter
  resumption := hresumption
  terminal _ hnext hcounter := (h.terminal_sound hnext hcounter).1
  terminal_history _ hnext hcounter := (h.terminal_sound hnext (by simp [hcounter])).2 hcounter
  probe := h.probe_noted

end KernelStep

end ag_campaign.governed

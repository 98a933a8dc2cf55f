import AgentGovernor.Governed.Retry

open ag_primitives Checked

namespace ag_campaign.governed

open GovernedLoopKernelV1

def OccurrenceLinkV1.is_retry : OccurrenceLinkV1 → Bool
  | .RetryOf _ => true
  | _ => false

namespace RunStep

/-- The step records a proposal that is linked as a retry. -/
def retried (step : RunStep) : Bool :=
  step.recorded.any fun basis => basis.link.is_retry

/-- The step notes a probe, requested directly or by an intervention. -/
def probed (step : RunStep) : Bool :=
  match step.op.effective with
  | .note_probe => true
  | _ => false

def escalated (step : RunStep) : Bool :=
  match step.op with
  | .escalate _ => true
  | _ => false

def charge (event : Bool) : Nat := if event then 1 else 0

/-- What a step does to the budget: the limits stay, and each counter grows by the
event it counts. -/
structure Charged (step : RunStep) (before after : LoopBudgetV1) : Prop where
  retry_limit : after.retry_limit = before.retry_limit
  probe_limit : after.probe_limit = before.probe_limit
  escalation_limit : after.escalation_limit = before.escalation_limit
  retries_used : after.retries_used.toNat = before.retries_used.toNat + charge step.retried
  probes_used : after.probes_used.toNat = before.probes_used.toNat + charge step.probed
  escalations_used : after.escalations_used.toNat = before.escalations_used.toNat + charge step.escalated

theorem charged_of_plain {step : RunStep} (budget : LoopBudgetV1) (hretried : step.retried = false)
    (hprobed : step.probed = false) (hescalated : step.escalated = false) : step.Charged budget budget := by
  constructor <;> simp [charge, *]

end RunStep

/-- The budget of a run after some of its steps. -/
structure BudgetAccounted (genesis : LoopBudgetV1) (steps : List RunStep) (budget : LoopBudgetV1) : Prop where
  retry_limit : budget.retry_limit = genesis.retry_limit
  probe_limit : budget.probe_limit = genesis.probe_limit
  escalation_limit : budget.escalation_limit = genesis.escalation_limit
  retries_used : budget.retries_used.toNat = genesis.retries_used.toNat + steps.countP RunStep.retried
  probes_used : budget.probes_used.toNat = genesis.probes_used.toNat + steps.countP RunStep.probed
  escalations_used : budget.escalations_used.toNat =
    genesis.escalations_used.toNat + steps.countP RunStep.escalated
  retries_bounded : budget.retries_used ≤ budget.retry_limit
  probes_bounded : budget.probes_used ≤ budget.probe_limit
  escalations_bounded : budget.escalations_used ≤ budget.escalation_limit

section Step

variable {sha : Sha256} {op : KernelOp} {source target : OccurrenceSnapshotV1} {ordinal : Nat}

theorem RunStep.retried_eq {step : RunStep} {basis : ProposalBasisV1}
    (h : step.target.state = .ProposalRecorded basis) : step.retried = basis.link.is_retry := by
  rw [retried, recorded_eq_some_iff.mpr h]
  rfl

theorem RunStep.retried_eq_false {step : RunStep} (h : step.target.program_counter ≠ .ProposalRecorded) :
    step.retried = false := by
  rw [retried, recorded_eq_none h]
  rfl

theorem RunStep.probed_eq_false {step : RunStep} (h : step.op.effective ≠ .note_probe) :
    step.probed = false := by
  unfold probed
  split
  · next heffective => exact absurd heffective h
  · rfl

theorem RunStep.escalated_eq_false {step : RunStep} (h : ∀ reason, step.op ≠ .escalate reason) :
    step.escalated = false := by
  unfold escalated
  split
  · next reason hop => exact absurd hop (h reason)
  · rfl

/-- A step that is none of the three counted events and copies the budget. -/
theorem charged_of_copied {state from_state : OccurrenceStateV1} (hsource : source.state = from_state)
    (htarget : target.state = state) (hretried : state.program_counter ≠ .ProposalRecorded)
    (hprobed : op.effective ≠ .note_probe) (hescalated : ∀ reason, op ≠ .escalate reason)
    (hbudget : state.metadata.budget = from_state.metadata.budget) :
    RunStep.Charged ⟨ordinal, op, source, target⟩ source.state.metadata.budget target.state.metadata.budget := by
  subst hsource htarget
  rw [hbudget]
  exact RunStep.charged_of_plain _ (RunStep.retried_eq_false hretried) (RunStep.probed_eq_false hprobed)
    (RunStep.escalated_eq_false hescalated)

/-- A classification charges the retry counter exactly when it links a retry. -/
theorem GovernedLoopKernelV1.Classified.retries_used {pending : ObservationRequiredV1}
    {proposal : ExactWorkProposalV1} {resolved : VersionedObservationResolutionV1}
    {proposal_class : ProposalClassV1} {link : OccurrenceLinkV1} {metadata : OccurrenceMetaV1}
    (h : Classified sha pending proposal resolved proposal_class link metadata) :
    ∃ used, metadata.budget = { pending.metadata.budget with retries_used := used } ∧
      used.toNat = pending.metadata.budget.retries_used.toNat + RunStep.charge link.is_retry := by
  cases h with
  | initial hprior => exact ⟨_, rfl, rfl⟩
  | retry hprior hkey havailable hproposal hpreconditions =>
    have havailable : pending.metadata.budget.retries_used < pending.metadata.budget.retry_limit := by
      simpa [LoopBudgetV1.retry_available] using havailable
    exact ⟨_, rfl, saturating_add_one_of_lt havailable⟩
  | successor hprior hkey hother => exact ⟨_, rfl, rfl⟩

/-- Every step of the kernel charges the budget for exactly the event it is. -/
theorem KernelStep.charged (h : KernelStep sha op source target) :
    RunStep.Charged ⟨ordinal, op, source, target⟩ source.state.metadata.budget target.state.metadata.budget := by
  cases h with
  | proposed hop hsource hwork hresolved hclass htarget =>
    obtain ⟨used, hbudget, hused⟩ := hclass.retries_used
    obtain ⟨hretried, hafter⟩ : RunStep.retried ⟨ordinal, op, source, target⟩ = _ ∧
        target.state.metadata.budget = _ :=
      ⟨RunStep.retried_eq htarget.state_eq, (congrArg (·.metadata.budget) htarget.state_eq).trans hbudget⟩
    subst hop
    rw [hafter, hsource]
    exact ⟨rfl, rfl, rfl, by rw [hretried]; exact hused, rfl, rfl⟩
  | probed hop hsource havailable htarget =>
    have havailable : source.state.metadata.budget.probes_used < source.state.metadata.budget.probe_limit := by
      simpa [LoopBudgetV1.probe_available] using havailable
    have hretried : RunStep.retried ⟨ordinal, op, source, target⟩ = false := by
      refine RunStep.retried_eq_false ?_
      rw [OccurrenceSnapshotV1.program_counter, htarget.state_eq, OccurrenceStateV1.set_metadata_program_counter]
      intro hcounter
      rw [OccurrenceSnapshotV1.program_counter, hcounter] at hsource
      rcases hsource with hsource | hsource <;> cases hsource
    have hescalated : RunStep.escalated ⟨ordinal, op, source, target⟩ = false := by
      refine RunStep.escalated_eq_false ?_
      rintro reason rfl
      cases hop
    have hprobed : RunStep.probed ⟨ordinal, op, source, target⟩ = true := by
      simp [RunStep.probed, hop]
    rw [htarget.state_eq, OccurrenceStateV1.set_metadata_metadata]
    exact ⟨rfl, rfl, rfl, by rw [hretried]; rfl, by rw [hprobed]; exact saturating_add_one_of_lt havailable,
      by rw [hescalated]; rfl⟩
  | @halted reason _ hop hsafe htarget =>
    rcases hop with ⟨hop, rfl⟩ | ⟨rfl, havailable, rfl⟩
    · refine charged_of_copied rfl htarget.state_eq (by rintro ⟨⟩) (by rw [hop]; rintro ⟨⟩) ?_ rfl
      rintro reason rfl
      cases hop
    · have havailable : source.state.metadata.budget.escalations_used <
          source.state.metadata.budget.escalation_limit := by
        simpa [LoopBudgetV1.escalation_available] using havailable
      have hretried : RunStep.retried ⟨ordinal, .escalate reason, source, target⟩ = false :=
        RunStep.retried_eq_false (by
          rw [OccurrenceSnapshotV1.program_counter, htarget.state_eq]
          rintro ⟨⟩)
      rw [htarget.state_eq]
      exact ⟨rfl, rfl, rfl, by rw [hretried]; rfl, rfl, saturating_add_one_of_lt havailable⟩
  | continued hop hsource hdistinct htarget =>
    refine charged_of_copied hsource htarget.state_eq (by rintro ⟨⟩) (by rw [hop]; rintro ⟨⟩) ?_ rfl
    rintro reason rfl
    cases hop
  | indeterminate hop hsource htarget =>
    rcases hop with rfl | rfl
    · exact charged_of_copied hsource htarget.state_eq (by rintro ⟨⟩) (by rintro ⟨⟩) (by rintro _ ⟨⟩) rfl
    · exact charged_of_copied hsource htarget.state_eq (by rintro ⟨⟩) (by rintro ⟨⟩) (by rintro _ ⟨⟩) rfl
  | standing hop hsource htarget | admitted hop hsource hresolved htarget
  | consumed hop hsource hresolved htarget | dispatched hop hsource htarget | settled hop hsource htarget
  | reconciled hop hsource htarget | completed hop hsource hempty hterminal htarget
  | decided hop hsource hprogram htarget | resumed hop hsource hprogram hresolved hdistinct htarget
  | discharged hop hsource hkind hdischarge htarget
  | terminated hop hsource hresolved hempty hterminal htarget =>
    subst hop
    exact charged_of_copied hsource htarget.state_eq (by rintro ⟨⟩) (by rintro ⟨⟩) (by rintro _ ⟨⟩) rfl

end Step

namespace BudgetAccounted

variable {sha : Sha256} {genesis : LoopBudgetV1}

theorem start {state : OccurrenceSnapshotV1} (hintegrity : state.validate_integrity sha = .ok ())
    (hbudget : state.state.metadata.budget = genesis) : BudgetAccounted genesis [] genesis := by
  subst hbudget
  obtain ⟨hretries, hprobes, hescalations⟩ :=
    LoopBudgetV1.validate_eq_ok_iff.mp (validate_integrity_eq_ok_iff.mp hintegrity).1
  exact ⟨rfl, rfl, rfl, rfl, rfl, rfl, hretries, hprobes, hescalations⟩

/-- One more step adds its own charge, and the check of its target bounds the sums. -/
theorem snoc {steps : List RunStep} {step : RunStep} {budget : LoopBudgetV1}
    (h : BudgetAccounted genesis steps budget)
    (hcharged : step.Charged budget step.target.state.metadata.budget)
    (hintegrity : step.target.validate_integrity sha = .ok ()) :
    BudgetAccounted genesis (steps ++ [step]) step.target.state.metadata.budget := by
  obtain ⟨hretries, hprobes, hescalations⟩ :=
    LoopBudgetV1.validate_eq_ok_iff.mp (validate_integrity_eq_ok_iff.mp hintegrity).1
  have hcount (event : RunStep → Bool) :
      (steps ++ [step]).countP event = steps.countP event + RunStep.charge (event step) := by
    rw [List.countP_append, List.countP_singleton]
    rfl
  refine ⟨hcharged.retry_limit.trans h.retry_limit, hcharged.probe_limit.trans h.probe_limit,
    hcharged.escalation_limit.trans h.escalation_limit, ?_, ?_, ?_, hretries, hprobes, hescalations⟩
  · rw [hcharged.retries_used, h.retries_used, hcount, Nat.add_assoc]
  · rw [hcharged.probes_used, h.probes_used, hcount, Nat.add_assoc]
  · rw [hcharged.escalations_used, h.escalations_used, hcount, Nat.add_assoc]

end BudgetAccounted

section Run

variable {sha : Sha256} {start state : RunState} {steps : List RunStep}

/-- Along every path from a sound snapshot the budget is its first value plus what
the steps of the path were charged. -/
theorem RunState.path_budget (hpath : RunPath (RunState.Takes sha) start steps state)
    (hintegrity : start.latest.validate_integrity sha = .ok ()) :
    BudgetAccounted start.latest.state.metadata.budget steps state.latest.state.metadata.budget := by
  refine RunPath.invariant (fun steps state => BudgetAccounted start.latest.state.metadata.budget steps
    state.latest.state.metadata.budget) (BudgetAccounted.start hintegrity rfl) ?_ hpath
  intro history middle step next _ hbefore htakes
  have hstep := htakes.kernel_step
  have hcharged : step.Charged step.source.state.metadata.budget step.target.state.metadata.budget :=
    hstep.charged
  rw [htakes.source_eq] at hcharged
  rw [htakes.2.2]
  exact hbefore.snoc hcharged hstep.integrity

/-- In every run and at every point of it, the limits are those of the genesis and
each counter is its genesis value plus the number of its events so far, within its
limit; no step lowers a counter. -/
theorem CampaignRun.budget_accounted (run : CampaignRun sha) :
    (∀ before rest, run.steps = before ++ rest → BudgetAccounted run.budget before
      (RunState.finish ⟨0, run.initial⟩ before).latest.state.metadata.budget) ∧
    ∀ step ∈ run.steps, step.Charged step.source.state.metadata.budget step.target.state.metadata.budget := by
  obtain ⟨hintegrity, hinitial⟩ := run.initial_eq
  have hbudget : run.initial.state.metadata.budget = run.budget := by
    rw [hinitial]
    rfl
  constructor
  · intro before rest hsteps
    obtain ⟨state, hpath⟩ := run.path_front hsteps
    rw [RunState.path_finish hpath, ← hbudget]
    exact RunState.path_budget hpath hintegrity
  · intro step hstep
    obtain ⟨final, hpath⟩ := run.path
    obtain ⟨_, _, htakes⟩ := hpath.exists_step_of_mem hstep
    exact htakes.kernel_step.charged

end Run

end ag_campaign.governed

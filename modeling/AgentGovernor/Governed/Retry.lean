import AgentGovernor.Governed.Returned
import AgentGovernor.Governed.Occurrence
import AgentGovernor.Primitives.IdealHash

open ag_primitives Checked

namespace ag_campaign.governed

open GovernedLoopKernelV1
open OccurrenceSnapshotV1 (program_counter)

/-- What a later proposal is compared with. -/
def ProposalBasisV1.compared (basis : ProposalBasisV1) : ProposalRefV1 × PreconditionBasisRefV1 :=
  (basis.proposal_ref, basis.observation.normalized_preconditions)

def PriorOccurrenceBasisV1.compared (prior : PriorOccurrenceBasisV1) :
    Option (ProposalRefV1 × PreconditionBasisRefV1) :=
  prior.proposal.bind fun proposal => prior.normalized_preconditions.map fun basis => (proposal, basis)

/-- What the next proposal of the campaign will be compared with. -/
def OccurrenceStateV1.carried : OccurrenceStateV1 → Option (ProposalRefV1 × PreconditionBasisRefV1)
  | .ObservationRequired value => value.prior.bind PriorOccurrenceBasisV1.compared
  | .Halted value => value.prior.compared
  | state => state.proposal_basis.map ProposalBasisV1.compared

namespace RunStep

/-- The proposal a step records. -/
def recorded (step : RunStep) : Option ProposalBasisV1 :=
  match step.target.state with
  | .ProposalRecorded basis => some basis
  | _ => none

/-- The step halts an occurrence that carries an earlier proposal and has not
recorded one itself. -/
def Forgets (step : RunStep) : Prop :=
  (∃ reason, step.op.effective = .halt reason ∨ step.op = .escalate reason) ∧
    ∃ pending prior, step.source.state = .ObservationRequired pending ∧ pending.prior = some prior ∧
      prior.proposal ≠ none

/-- The step records a retry of `earlier`: it is linked as one, it took one unit of
the retry budget, and its preconditions are unchanged. -/
structure Retries (step : RunStep) (basis earlier : ProposalBasisV1) : Prop where
  link : ∃ key, basis.link = .RetryOf key
  available : step.source.state.metadata.budget.retries_used < step.source.state.metadata.budget.retry_limit
  consumed : step.target.state.metadata.budget.retries_used.toNat =
    step.source.state.metadata.budget.retries_used.toNat + 1
  preconditions : basis.observation.normalized_preconditions = earlier.observation.normalized_preconditions

end RunStep

/-- The proposal of the last occurrence before `ordinal` that recorded one. -/
def last_recorded (ordinal : Nat) (steps : List RunStep) : Option ProposalBasisV1 :=
  ((steps.filter fun step => step.ordinal < ordinal).filterMap RunStep.recorded).getLast?

/-- Every proposal that repeats the last one of the earlier occurrences is a retry. -/
def CampaignRun.RetriesAccounted {sha : Sha256} (run : CampaignRun sha) : Prop :=
  ∀ before step rest, run.steps = before ++ step :: rest →
    ∀ basis earlier, step.recorded = some basis → last_recorded step.ordinal before = some earlier →
      basis.proposal_ref = earlier.proposal_ref → step.Retries basis earlier

section Step

variable {sha : Sha256} {op : KernelOp} {source target : OccurrenceSnapshotV1}

theorem compared_current_prior_basis (current : OccurrenceSnapshotV1) :
    (current_prior_basis current).compared = current.state.proposal_basis.map ProposalBasisV1.compared := by
  unfold current_prior_basis PriorOccurrenceBasisV1.compared
  cases current.state.proposal_basis <;> rfl

theorem carried_set_metadata (state : OccurrenceStateV1) (metadata : OccurrenceMetaV1) :
    (state.set_metadata metadata).carried = state.carried := by
  cases state <;> rfl

variable (h : KernelStep sha op source target)

include h

/-- A step that does not forget hands on what the next proposal is compared with,
unless it completes the campaign or records a proposal. -/
theorem KernelStep.carried (hkeeps : ∀ reason, op.effective = .halt reason ∨ op = .escalate reason → ∀ pending prior,
      source.state = .ObservationRequired pending → pending.prior = some prior → prior.proposal = none)
    (hcompleted : target.program_counter ≠ .Completed) (hrecorded : target.program_counter ≠ .ProposalRecorded) :
    target.state.carried = source.state.carried := by
  cases h with
  | proposed hop hsource hwork hresolved hclass htarget =>
    exact absurd (congrArg OccurrenceStateV1.program_counter htarget.state_eq) hrecorded
  | standing hop hsource htarget =>
    rw [htarget.state_eq, hsource]
    rfl
  | admitted hop hsource hresolved htarget | consumed hop hsource hresolved htarget =>
    have hpreconditions := (resolve_admissibility_eq_ok_iff.mp hresolved).2.preconditions_eq
    rw [htarget.state_eq, hsource]
    exact congrArg some (Prod.ext rfl hpreconditions)
  | dispatched hop hsource htarget | settled hop hsource htarget | indeterminate hop hsource htarget
  | reconciled hop hsource htarget =>
    rw [htarget.state_eq, hsource]
    rfl
  | continued hop hsource hdistinct htarget =>
    rw [htarget.state_eq, hsource]
    rfl
  | probed hop hsource havailable htarget => rw [htarget.state_eq, carried_set_metadata]
  | halted hop hsafe htarget =>
    have hreason := hop.imp And.left And.left
    rw [htarget.state_eq]
    change (current_prior_basis source).compared = _
    rw [compared_current_prior_basis]
    cases hstate : source.state with
    | ObservationRequired pending =>
      -- no proposal of its own: what it carries must be nothing
      cases hprior : pending.prior with
      | none => simp [OccurrenceStateV1.proposal_basis, OccurrenceStateV1.carried, hprior]
      | some prior =>
        have hnone := hkeeps _ hreason pending prior hstate hprior
        simp [OccurrenceStateV1.proposal_basis, OccurrenceStateV1.carried, hprior,
          PriorOccurrenceBasisV1.compared, hnone]
    | Halted value | Completed value =>
      rw [program_counter, hstate] at hsafe
      cases hsafe
    | _ => rfl
  | completed _ _ _ _ htarget | terminated _ _ _ _ _ htarget =>
    exact absurd (congrArg OccurrenceStateV1.program_counter htarget.state_eq) hcompleted
  | decided hop hsource hprogram htarget =>
    rw [htarget.state_eq, hsource]
    rfl
  | resumed hop hsource hprogram hresolved hdistinct htarget =>
    rw [htarget.state_eq, hsource]
    rfl
  | discharged hop hsource hkind hdischarge htarget =>
    rw [htarget.state_eq, hsource]
    rfl

/-- Only recording a proposal enters the state that holds a new one. -/
theorem KernelStep.exists_classified {basis : ProposalBasisV1} (hrecorded : target.state = .ProposalRecorded basis) :
    ∃ pending proposal_class metadata, source.state = .ObservationRequired pending ∧
      Classified sha pending basis.proposal basis.observation proposal_class basis.link metadata ∧
      basis.proposal_ref = basis.proposal.reference sha ∧ basis.metadata.budget = metadata.budget := by
  cases h with
  | proposed hop hsource hwork hresolved hclass htarget =>
    rw [htarget.state_eq] at hrecorded
    cases hrecorded
    exact ⟨_, _, _, hsource, hclass, rfl, rfl⟩
  | probed hop hsource havailable htarget =>
    have hcounter := congrArg OccurrenceStateV1.program_counter (htarget.state_eq.symm.trans hrecorded)
    rw [OccurrenceStateV1.set_metadata_program_counter] at hcounter
    rw [program_counter, hcounter] at hsource
    rcases hsource with hsource | hsource <;> cases hsource
  | _ =>
    rename_i htarget
    rw [htarget.state_eq] at hrecorded
    cases hrecorded

/-- A step that records a proposal repeating the carried one is a retry of it. -/
theorem KernelStep.retries {ordinal : Nat} {basis earlier : ProposalBasisV1}
    (hrecorded : target.state = .ProposalRecorded basis) (hcarried : source.state.carried = some earlier.compared)
    (hrepeated : basis.proposal_ref = earlier.proposal_ref) :
    RunStep.Retries ⟨ordinal, op, source, target⟩ basis earlier := by
  obtain ⟨pending, proposal_class, metadata, hsource, hclass, href, hbudget⟩ := h.exists_classified hrecorded
  rw [hsource] at hcarried
  -- what the pending occurrence carries is its prior basis, both parts of it
  obtain ⟨prior, hprior, hcompared⟩ := Option.bind_eq_some_iff.mp hcarried
  obtain ⟨proposal, hproposal, hcompared⟩ := Option.bind_eq_some_iff.mp hcompared
  obtain ⟨preconditions, hpreconditions, hcompared⟩ := Option.map_eq_some_iff.mp hcompared
  obtain ⟨rfl, rfl⟩ := Prod.ext_iff.mp hcompared
  generalize hlink : basis.link = link at hclass
  cases hclass with
  | initial hnone => rw [hnone] at hprior; cases hprior
  | successor hsome hkey hother =>
    obtain rfl := Option.some.inj (hprior.symm.trans hsome)
    exact absurd (hproposal.trans (congrArg some (hrepeated.symm.trans href))) hother
  | retry hsome hkey havailable hsame hunchanged =>
    obtain rfl := Option.some.inj (hprior.symm.trans hsome)
    have havailable : pending.metadata.budget.retries_used < pending.metadata.budget.retry_limit := by
      simpa [LoopBudgetV1.retry_available] using havailable
    refine ⟨⟨_, hlink⟩, ?_, ?_, ?_⟩
    · rw [hsource]
      exact havailable
    · rw [hrecorded, hsource]
      change basis.metadata.budget.retries_used.toNat = _
      rw [hbudget]
      exact saturating_add_one_of_lt havailable
    · exact Option.some.inj (hunchanged.symm.trans hpreconditions)

/-- Within an occurrence, only a probe arrives where an observation is required. -/
theorem KernelStep.source_observation_required
    (hkey : target.key = source.key) (hcounter : target.program_counter = .ObservationRequired) :
    source.program_counter = .ObservationRequired := by
  rw [program_counter] at hcounter
  cases h with
  | continued hop hsource hdistinct htarget =>
    exact absurd hkey (continuation_key_ne hsource hdistinct htarget.state_eq)
  | resumed hop hsource hprogram hresolved hdistinct htarget =>
    exact absurd hkey (resumption_key_ne hsource hdistinct htarget.state_eq)
  | probed hop hsource havailable htarget =>
    rwa [htarget.state_eq, OccurrenceStateV1.set_metadata_program_counter] at hcounter
  | _ =>
    rename_i htarget
    rw [htarget.state_eq] at hcounter
    cases hcounter

end Step

section Run

variable {sha : Sha256} {start state : RunState} {steps : List RunStep}

/-- Nothing follows a completed snapshot. -/
theorem KernelStep.source_not_completed {op : KernelOp} {source target : OccurrenceSnapshotV1}
    (h : KernelStep sha op source target) : source.program_counter ≠ .Completed := by
  rw [program_counter]
  cases h with
  | probed hop hsource havailable htarget =>
    intro hcompleted
    rw [program_counter, hcompleted] at hsource
    rcases hsource with hsource | hsource <;> cases hsource
  | halted hop hsafe htarget =>
    intro hcompleted
    rw [program_counter, hcompleted] at hsafe
    cases hsafe
  | _ => simp_all [OccurrenceStateV1.program_counter]

theorem RunStep.recorded_eq_some_iff {step : RunStep} {basis : ProposalBasisV1} :
    step.recorded = some basis ↔ step.target.state = .ProposalRecorded basis := by
  unfold RunStep.recorded
  cases step.target.state <;> simp

theorem RunStep.recorded_eq_none {step : RunStep} (h : step.target.program_counter ≠ .ProposalRecorded) :
    step.recorded = none := by
  rw [Option.eq_none_iff_forall_ne_some]
  intro basis hbasis
  exact h (congrArg OccurrenceStateV1.program_counter (recorded_eq_some_iff.mp hbasis))

/-- Along a run that never forgets, the latest snapshot carries the last proposal
that was recorded. -/
theorem RunState.path_carried (hpath : RunPath (RunState.Takes sha) start steps state)
    (hstart : start.latest.state.carried = none) (hkeeps : ∀ step ∈ steps, ¬ step.Forgets)
    (hcounter : state.latest.program_counter ≠ .Completed) :
    state.latest.state.carried =
      (steps.filterMap RunStep.recorded).getLast?.map ProposalBasisV1.compared := by
  revert hkeeps hcounter
  refine RunPath.invariant (fun steps state => (∀ step ∈ steps, ¬ step.Forgets) →
    state.latest.program_counter ≠ .Completed → state.latest.state.carried =
      (steps.filterMap RunStep.recorded).getLast?.map ProposalBasisV1.compared) (fun _ _ => hstart) ?_ hpath
  rintro history before step after _ ih htakes hkeeps hcounter
  obtain rfl := htakes.2.2
  have hstep := htakes.kernel_step
  have hbefore := ih (fun earlier hmem => hkeeps earlier (List.mem_append_left _ hmem))
    (htakes.source_eq ▸ hstep.source_not_completed)
  rw [← htakes.source_eq] at hbefore
  rw [List.filterMap_append, RunStep.after]
  by_cases hrecorded : step.target.program_counter = .ProposalRecorded
  · obtain ⟨basis, hbasis⟩ : ∃ basis, step.target.state = .ProposalRecorded basis := by
      rw [program_counter] at hrecorded
      cases hstate : step.target.state with
      | ProposalRecorded basis => exact ⟨basis, rfl⟩
      | _ => rw [hstate] at hrecorded; cases hrecorded
    simp [RunStep.recorded_eq_some_iff.mpr hbasis, hbasis, OccurrenceStateV1.carried,
      OccurrenceStateV1.proposal_basis]
  · have hforgets := hkeeps step (List.mem_append_right _ (List.mem_singleton_self step))
    rw [hstep.carried ?_ hcounter hrecorded, hbefore]
    · simp [RunStep.recorded_eq_none hrecorded]
    · intro reason hreason pending prior hpending hprior
      by_contra hproposal
      exact hforgets ⟨⟨reason, hreason⟩, pending, prior, hpending, hprior, hproposal⟩

/-- An occurrence that still waits for its observation has recorded no proposal. -/
theorem RunState.path_unrecorded (hpath : RunPath (RunState.Takes sha) start steps state)
    (hcounter : state.latest.program_counter = .ObservationRequired) :
    ∀ step ∈ steps, step.recorded ≠ none → step.ordinal < state.ordinal := by
  revert hcounter
  refine RunPath.invariant (fun steps state => state.latest.program_counter = .ObservationRequired →
    ∀ step ∈ steps, step.recorded ≠ none → step.ordinal < state.ordinal) (by simp) ?_ hpath
  rintro history before step after hhistory ih htakes hcounter
  obtain rfl := htakes.2.2
  have hunrecorded : step.recorded = none := RunStep.recorded_eq_none (by
    rw [show step.target.program_counter = _ from hcounter]
    rintro ⟨⟩)
  intro earlier hmem hrecorded
  rcases List.mem_append.mp hmem with hmem | hmem
  · by_cases hkey : step.target.key = step.source.key
    · have hsource := htakes.kernel_step.source_observation_required hkey hcounter
      rw [RunStep.after, htakes.ordinal_eq hkey]
      exact ih (htakes.source_eq ▸ hsource) earlier hmem hrecorded
    · have hle := RunState.path_ordinal_le hhistory earlier hmem
      rw [RunStep.after, htakes.ordinal_succ hkey]
      exact Nat.lt_succ_of_le hle
  · rw [List.mem_singleton.mp hmem, hunrecorded] at hrecorded
    exact absurd rfl hrecorded

/-- Once every recorded proposal is of an earlier occurrence, the last of them is the
last of all. -/
theorem last_recorded_eq {ordinal : Nat}
    (h : ∀ step ∈ steps, step.recorded ≠ none → step.ordinal < ordinal) :
    last_recorded ordinal steps = (steps.filterMap RunStep.recorded).getLast? := by
  rw [last_recorded, List.filterMap_filter]
  refine congrArg List.getLast? (List.filterMap_congr fun step hmem => ?_)
  by_cases hrecorded : step.recorded = none
  · simp [hrecorded]
  · simp [h step hmem hrecorded]

theorem CampaignRun.last_recorded_eq (run : CampaignRun sha) {before rest : List RunStep} {step : RunStep}
    {basis : ProposalBasisV1} (hsteps : run.steps = before ++ step :: rest)
    (hrecorded : step.recorded = some basis) :
    last_recorded step.ordinal before = (before.filterMap RunStep.recorded).getLast? := by
  obtain ⟨state, hpath, htakes⟩ := run.path_before hsteps
  obtain ⟨pending, _, _, hsource, _⟩ :=
    htakes.kernel_step.exists_classified (RunStep.recorded_eq_some_iff.mp hrecorded)
  have hcounter : state.latest.program_counter = .ObservationRequired := by
    rw [← htakes.source_eq, program_counter, hsource]
    rfl
  exact governed.last_recorded_eq fun earlier hmem hsome =>
    (RunState.path_unrecorded hpath hcounter earlier hmem hsome).trans_le htakes.le_ordinal

end Run

section Scenario

variable {sha : Sha256}

section Recorded

variable (state : RunState) (op : KernelOp) {target : OccurrenceSnapshotV1}

theorem recorded_enter_of_halted (h : target.program_counter = .Halted) :
    (state.enter op target).recorded = none :=
  RunStep.recorded_eq_none (by
    rw [show (state.enter op target).target = target from rfl, h]
    rintro ⟨⟩)

theorem recorded_enter_of_opened {next : ObservationRequiredV1}
    (h : target.state = .ObservationRequired next) : (state.enter op target).recorded = none := by
  rw [RunStep.recorded, show (state.enter op target).target = target from rfl, h]

theorem recorded_enter_of_proposed {basis : ProposalBasisV1} (h : target.state = .ProposalRecorded basis) :
    (state.enter op target).recorded = some basis :=
  RunStep.recorded_eq_some_iff.mpr h

end Recorded

section Occurrences

variable {initial : OccurrenceSnapshotV1} {pending : ObservationRequiredV1} {proposal : ExactWorkProposalV1}
  {second third : OccurrenceId} {decision decision' : HumanDecisionIdV1} (observation : ObservationRefV1)
  (reason : HaltReasonRefV1) (h : Proposable sha initial pending proposal second decision)

include observation reason h

/-- The second occurrence is halted before it records a proposal, and the third
records the proposal of the first as a successor. -/
theorem exists_repeated (hthird : third ≠ second)
    (hunused' : decision' ∉ pending.metadata.used_human_decisions ++ [decision]) :
    ∃ (ops : List KernelOp) (observer later_observer : ObservationResolverV1) (first_return second_return : KernelOp)
      (before : List RunStep) (step : RunStep) (basis earlier : ProposalBasisV1) (key : OccurrenceKeyV1),
      ops = [.record_proposal observation proposal .Initial observer "observer" 0, .halt reason, first_return,
        .halt reason, second_return, .record_proposal observation proposal .Successor later_observer "observer" 0] ∧
      RunState.run sha ⟨0, initial⟩ ops = before ++ [step] ∧
      before.filterMap RunStep.recorded = [earlier] ∧ step.recorded = some basis ∧
      basis.proposal_ref = earlier.proposal_ref ∧ basis.link = .SuccessorOf key := by
  obtain ⟨recorded, first_return, halted, first, opened, next, hpropose, hrecorded, hreturned⟩ :=
    h.returned observation reason
  have hmetadata : next.metadata = pending.metadata.reopened second decision := by
    rw [hreturned.metadata, hrecorded]
    rfl
  obtain ⟨second_return, halted', first', opened', next', key, hreturned', hmetadata', hclass⟩ :=
    exists_successor reason hreturned.integrity hreturned.state
      (by rw [hmetadata]; exact hthird : third ≠ _) (by rw [hmetadata]; exact hunused')
  rw [hmetadata] at hmetadata'
  obtain ⟨hbudget, _, _, _⟩ := checks_of_integrity h.integrity h.state
  obtain ⟨final, hfinal, _, hfinal_state⟩ :=
    record_proposal_ok observation hreturned'.integrity hreturned'.state h.valid
      (by rw [hmetadata']; exact h.campaign) (by rw [hmetadata']; exact h.work) (hclass _ _)
      (by rw [hmetadata']; exact hbudget)
  have hrepropose : (KernelOp.record_proposal observation proposal .Successor
      (observing sha next' proposal observation) "observer" 0).apply sha opened' = .ok [final] :=
    applied hfinal
  have hrun : RunState.Performs sha ⟨0, initial⟩ [_, _, _, _, _, _] _ :=
    .one hpropose (.one hreturned.halt (.two hreturned.returned (.one hreturned'.halt (.two hreturned'.returned
      (.one hrepropose .nil)))))
  refine ⟨_, _, _, first_return, second_return, [_, _, _, _, _, _, _], _, _,
    recorded_basis sha pending proposal observation, key, rfl, hrun.run_eq, ?_,
    recorded_enter_of_proposed _ _ hfinal_state, rfl, rfl⟩
  simp only [List.filterMap_cons, List.filterMap_nil, recorded_enter_of_proposed _ _ hrecorded,
    recorded_enter_of_halted _ _ hreturned.halted_counter, recorded_enter_of_halted _ _ hreturned.first_counter,
    recorded_enter_of_opened _ _ hreturned.state, recorded_enter_of_halted _ _ hreturned'.halted_counter,
    recorded_enter_of_halted _ _ hreturned'.first_counter, recorded_enter_of_opened _ _ hreturned'.state]

/-- The next occurrence records the same proposal again, as a retry. -/
theorem exists_retried
    (havailable : pending.metadata.budget.retries_used < pending.metadata.budget.retry_limit) :
    ∃ (ops : List KernelOp) (before : List RunStep) (step : RunStep) (basis earlier : ProposalBasisV1),
      RunState.run sha ⟨0, initial⟩ ops = before ++ [step] ∧
      before.filterMap RunStep.recorded = [earlier] ∧ step.recorded = some basis ∧
      basis.proposal_ref = earlier.proposal_ref ∧
      ∀ step ∈ RunState.run sha ⟨0, initial⟩ ops, ¬ step.Forgets := by
  obtain ⟨recorded, first_return, halted, first, opened, next, hpropose, hrecorded, hreturned⟩ :=
    h.returned observation reason
  have hmetadata : next.metadata = pending.metadata.reopened second decision := by
    rw [hreturned.metadata, hrecorded]
    rfl
  obtain ⟨prior, hnext, hkey, hproposal, hpreconditions⟩ := hreturned.prior
  rw [hrecorded] at hproposal hpreconditions
  have hretry : next.metadata.budget.retry_available = true := by
    rw [hmetadata]
    exact decide_eq_true havailable
  have hdistinct : next.metadata.key ≠ prior.key := by
    rw [hkey, OccurrenceSnapshotV1.key, hrecorded, hmetadata]
    intro hsame
    exact h.distinct (congrArg OccurrenceKeyV1.occurrence hsame)
  have hclass : Classified sha next proposal
      (typed_observation sha next.metadata.key observation proposal.subject) .Retry (.RetryOf prior.key)
      { next.metadata with
        budget := { next.metadata.budget with
          retries_used := saturating_add next.metadata.budget.retries_used 1 } } :=
    .retry hnext hdistinct hretry hproposal hpreconditions
  have hbudget : LoopBudgetV1.validate { next.metadata.budget with
      retries_used := saturating_add next.metadata.budget.retries_used 1 } = .ok () := by
    obtain ⟨hbudget, _, _, _⟩ := checks_of_integrity h.integrity h.state
    obtain ⟨_, hprobes, hescalations⟩ := LoopBudgetV1.validate_eq_ok_iff.mp hbudget
    rw [hmetadata]
    refine LoopBudgetV1.validate_eq_ok_iff.mpr ⟨?_, hprobes, hescalations⟩
    rw [UInt32.le_iff_toNat_le]
    change (saturating_add pending.metadata.budget.retries_used 1).toNat ≤ _
    rw [saturating_add_one_of_lt havailable]
    exact UInt32.lt_iff_toNat_lt.mp havailable
  obtain ⟨final, hfinal, _, hfinal_state⟩ :=
    record_proposal_ok observation hreturned.integrity hreturned.state h.valid
      (by rw [hmetadata]; exact h.campaign) (by rw [hmetadata]; exact h.work) hclass hbudget
  have hrepropose : (KernelOp.record_proposal observation proposal .Retry
      (observing sha next proposal observation) "observer" 0).apply sha opened = .ok [final] :=
    applied hfinal
  have hrun : RunState.Performs sha ⟨0, initial⟩ [_, .halt reason, first_return, _] _ :=
    .one hpropose (.one hreturned.halt (.two hreturned.returned (.one hrepropose .nil)))
  have hkeeps : ∀ (state : RunState) (op : KernelOp) (target : OccurrenceSnapshotV1),
      (∀ reason, ¬ (op.effective = .halt reason ∨ op = .escalate reason)) → ¬ (state.enter op target).Forgets := by
    rintro state op target hplain ⟨⟨reason, hop⟩, _⟩
    exact hplain reason hop
  refine ⟨_, [_, _, _, _], _, _, recorded_basis sha pending proposal observation, hrun.run_eq, ?_,
    recorded_enter_of_proposed _ _ hfinal_state, rfl, ?_⟩
  · simp only [List.filterMap_cons, List.filterMap_nil, recorded_enter_of_proposed _ _ hrecorded,
      recorded_enter_of_halted _ _ hreturned.halted_counter, recorded_enter_of_halted _ _ hreturned.first_counter,
      recorded_enter_of_opened _ _ hreturned.state]
  · rw [hrun.run_eq]
    simp only [List.forall_mem_cons, List.not_mem_nil, false_implies, implies_true, and_true]
    refine ⟨hkeeps _ _ _ ?_, ?_, hkeeps _ _ _ hreturned.plain, hkeeps _ _ _ hreturned.plain, hkeeps _ _ _ ?_⟩
    · rintro _ (hop | hop) <;> cases hop
    · -- the only halt is of an occurrence that recorded its proposal
      rintro ⟨_, pending, prior, hpending, _⟩
      cases hrecorded.symm.trans hpending
    · rintro _ (hop | hop) <;> cases hop

end Occurrences

/-- In a run that halts no occurrence between opening it after a proposal and
recording its own, every repeated proposal is a retry. -/
theorem CampaignRun.retries_accounted (run : CampaignRun sha) (hkeeps : ∀ step ∈ run.steps, ¬ step.Forgets) :
    run.RetriesAccounted := by
  intro before step rest hsteps basis earlier hrecorded hlast hrepeated
  rw [run.last_recorded_eq hsteps hrecorded] at hlast
  obtain ⟨state, hpath, htakes⟩ := run.path_before hsteps
  have hcounter : state.latest.program_counter ≠ .Completed :=
    htakes.source_eq ▸ htakes.kernel_step.source_not_completed
  have hcarried := RunState.path_carried hpath (by rw [run.initial_eq.2]; rfl)
    (fun step hmem => hkeeps step (hsteps ▸ List.mem_append_left _ hmem)) hcounter
  rw [hlast, ← htakes.source_eq] at hcarried
  exact htakes.kernel_step.retries (RunStep.recorded_eq_some_iff.mp hrecorded) hcarried hrepeated

/-- A proposal that is recorded again in the next occurrence is a retry. -/
theorem CampaignRun.retries_accounted_once :
    ∃ (run : CampaignRun ideal_sha) (before : List RunStep) (step : RunStep) (basis earlier : ProposalBasisV1),
      run.steps = before ++ [step] ∧ (∀ step ∈ run.steps, ¬ step.Forgets) ∧ step.recorded = some basis ∧
      last_recorded step.ordinal before = some earlier ∧ step.Retries basis earlier := by
  obtain ⟨base, _, hbase⟩ :=
    CampaignRun.exists_proposable ideal_sha (show LoopBudgetV1.validate ⟨1, 0, 0, 0, 0, 0⟩ = .ok () by rfl)
  obtain ⟨ops, before, step, basis, earlier, hrun, hbefore, hstep, hsame, hkeeps⟩ :=
    exists_retried ⟨⟨[4]⟩⟩ ⟨⟨[5]⟩⟩ hbase (by decide : (0 : UInt32) < 1)
  let run : CampaignRun ideal_sha := { base with ops }
  have hsteps : run.steps = before ++ [step] := hrun
  have hlast : last_recorded step.ordinal before = some earlier := by
    rw [run.last_recorded_eq hsteps hstep, hbefore]
    rfl
  exact ⟨run, before, step, basis, earlier, hsteps, hkeeps, hstep, hlast,
    CampaignRun.retries_accounted run hkeeps before step [] hsteps basis earlier hstep hlast hsame⟩

/-- One proposal recorded in the first occurrence and again in the third, after the
second was halted before it recorded anything: the repetition is an ordinary
successor, although the retry budget is empty. -/
theorem repeated_proposal_not_retried :
    ∃ (run : CampaignRun ideal_sha) (proposal : ExactWorkProposalV1)
      (observer later_observer : ObservationResolverV1) (first_return second_return : KernelOp),
      run.budget = ⟨0, 0, 0, 0, 0, 0⟩ ∧
      run.ops = [.record_proposal ⟨⟨[4]⟩⟩ proposal .Initial observer "observer" 0, .halt ⟨⟨[5]⟩⟩, first_return,
        .halt ⟨⟨[5]⟩⟩, second_return,
        .record_proposal ⟨⟨[4]⟩⟩ proposal .Successor later_observer "observer" 0] ∧
      ¬ run.RetriesAccounted := by
  obtain ⟨base, hbudget, hbase⟩ :=
    CampaignRun.exists_proposable ideal_sha (show LoopBudgetV1.validate ⟨0, 0, 0, 0, 0, 0⟩ = .ok () by rfl)
  have hdecision : (⟨⟨[2]⟩⟩ : HumanDecisionIdV1) ∉ ([] : List HumanDecisionIdV1) ++ [⟨⟨[1]⟩⟩] := by decide
  obtain ⟨ops, observer, later_observer, first_return, second_return, before, step, basis, earlier, key, hops, hrun,
    hbefore, hstep, hsame, hlink⟩ :=
    exists_repeated ⟨⟨[4]⟩⟩ ⟨⟨[5]⟩⟩ hbase (by decide : (⟨2⟩ : OccurrenceId) ≠ ⟨1⟩) hdecision
  let run : CampaignRun ideal_sha := { base with ops }
  have hsteps : run.steps = before ++ [step] := hrun
  have hlast : last_recorded step.ordinal before = some earlier := by
    rw [run.last_recorded_eq hsteps hstep, hbefore]
    rfl
  refine ⟨run, _, observer, later_observer, first_return, second_return, hbudget, hops, ?_⟩
  intro haccounted
  obtain ⟨⟨_, hretry⟩, _⟩ := haccounted before step [] hsteps basis earlier hstep hlast hsame
  rw [hlink] at hretry
  cases hretry

end Scenario

end ag_campaign.governed

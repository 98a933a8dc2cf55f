import AgentGovernor.Governed.SpendTime

open ag_primitives Checked

namespace ag_campaign.governed

open GovernedLoopKernelV1
open OccurrenceSnapshotV1 (key program_counter)

variable {sha : Sha256}

/-- The transitions of calls that go on from the last transition of earlier ones. -/
theorem RunState.run_concat {state : RunState} {ops ops' : List KernelOp} {before after : List RunStep}
    {step : RunStep} (h : run sha state ops = before ++ [step]) (h' : run sha step.after ops' = after) :
    run sha state (ops ++ ops') = before ++ step :: after := by
  rw [run_append, h, show state.finish (before ++ [step]) = step.after by simp [finish], h', List.append_assoc]
  rfl

section Occurrences

variable {initial : OccurrenceSnapshotV1} {pending : ObservationRequiredV1} {proposal : ExactWorkProposalV1}
  {second : OccurrenceId} {decision decision' : HumanDecisionIdV1} (observation : ObservationRefV1)
  (reason : HaltReasonRefV1) (h : Proposable sha initial pending proposal second decision)

include observation reason h

/-- The first occurrence spends an authorization, is settled and halted, and the second
one is opened. -/
theorem exists_opened : ∃ ops before spending opening next,
    RunState.run sha ⟨0, initial⟩ ops = before ++ [opening] ∧
      spending ∈ before ∧ spending.Consumes ∧
      (∀ step ∈ before, ¬ step.Opens ∧ step.target.key = pending.metadata.key) ∧
      opening.source.key = pending.metadata.key ∧
      opening.target.validate_integrity sha = .ok () ∧ opening.target.state = .ObservationRequired next ∧
      next.metadata = pending.metadata.reopened second decision := by
  obtain ⟨hbudget, _, _, _⟩ := checks_of_integrity h.integrity h.state
  obtain ⟨ops, before, spending, authorized, hspends, hconsumes, hstays, hintegrity, hstate, hauthorized⟩ :=
    exists_consumes ⟨0, initial⟩ observation h.integrity h.state h.valid h.campaign h.work
      (.initial h.prior) hbudget
  obtain ⟨custody, dispatched, hdispatch, hdispatched, hdispatched_state⟩ :=
    accept_docket_custody_ok hintegrity hstate
  obtain ⟨settlement, settled, hsettle, hsettled, hsettled_state⟩ :=
    record_settlement_ok hdispatched ⟨proposal.work⟩ hdispatched_state
  have hmetadata : settled.state.metadata = pending.metadata := by
    rw [hsettled_state]
    exact hauthorized
  obtain ⟨op, halted, first, opened, next, hreturned⟩ :
      ∃ op halted first opened next, ReturnedFrom sha settled reason second decision op halted first opened next :=
    exists_returned reason hsettled (by rw [program_counter, hsettled_state]; rfl) (by rw [hsettled_state]; rfl)
      (by rw [key, hmetadata]; exact h.distinct) (by rw [hmetadata]; exact h.unused)
  let dispatching := spending.after.enter (.accept_docket_custody custody) dispatched
  let settling := dispatching.after.enter (.record_settlement settlement) settled
  let halting := settling.after.enter (.halt reason) halted
  let deciding := halting.after.enter op first
  have hsettles : RunState.Performs sha spending.after
      [.accept_docket_custody custody, .record_settlement settlement, .halt reason, op]
      [dispatching, settling, halting, deciding, deciding.after.enter op opened] :=
    .one (applied hdispatch) (.one (applied hsettle) (.one hreturned.halt (.two hreturned.returned .nil)))
  have hspending := hstays spending (by simp)
  have hdispatched_key : dispatched.key = spending.target.key := by
    rw [hspending.2, key, hdispatched_state]
    exact congrArg OccurrenceMetaV1.key hauthorized
  have hsettled_key : settled.key = dispatched.key := by
    rw [hdispatched_key, hspending.2, key, hmetadata]
  have hhalted_key : halted.key = settled.key :=
    (List.isChain_cons_cons.mp (apply_steps hreturned.halt)).1.key_eq_of_counter
      (by rw [hreturned.halted_counter]; rintro ⟨⟩)
  have hfirst_key : first.key = halted.key :=
    (List.isChain_cons_cons.mp (apply_steps hreturned.returned)).1.key_eq_of_counter
      (by rw [hreturned.first_counter]; rintro ⟨⟩)
  have hrun := (RunState.run_concat hspends hsettles.run_eq).trans (List.append_assoc before
    (spending :: [dispatching, settling, halting, deciding]) [deciding.after.enter op opened]).symm
  refine ⟨_, _, spending, _, next, hrun, by simp, hconsumes, ?_, ?_, hreturned.integrity, hreturned.state, ?_⟩
  · rw [List.append_cons, List.forall_mem_append]
    refine ⟨hstays, ?_⟩
    simp [RunStep.Opens, dispatching, settling, halting, deciding, RunState.enter, RunStep.after, hdispatched_key,
      hsettled_key, hhalted_key, hfirst_key, hspending.2]
  · change first.key = _
    rw [hfirst_key, hhalted_key, hsettled_key, hdispatched_key, hspending.2]
  · rw [hreturned.metadata, hmetadata]

/-- The second occurrence is halted too, the first one is opened again, and it spends a
second authorization. -/
theorem exists_reopened (hunused : decision' ∉ pending.metadata.used_human_decisions ++ [decision]) :
    ∃ ops before spending reopening middle respending next,
      RunState.run sha ⟨0, initial⟩ ops = before ++ reopening :: (middle ++ [respending]) ∧
      spending ∈ before ∧ spending.Consumes ∧ spending.target.key = pending.metadata.key ∧
      reopening.target.state = .ObservationRequired next ∧ reopening.target.key = pending.metadata.key ∧
      respending.Consumes ∧ respending.target.key = pending.metadata.key := by
  obtain ⟨ops, before, spending, opening, next, hopened, hmem, hconsumes, hstays, _, hintegrity, hstate,
    hmetadata⟩ := exists_opened observation reason h
  obtain ⟨op, halted, first, reopened, next', _, hreturned, hmetadata', hclass⟩ :=
    exists_successor reason hintegrity hstate (by rw [hmetadata]; exact h.distinct.symm)
      (by rw [hmetadata]; exact hunused)
  rw [hmetadata] at hmetadata'
  let halting := opening.after.enter (.halt reason) halted
  let deciding := halting.after.enter op first
  let reopening := deciding.after.enter op reopened
  have hreopens : RunState.Performs sha opening.after [.halt reason, op] ([halting, deciding] ++ [reopening]) :=
    .one hreturned.halt (.two hreturned.returned .nil)
  obtain ⟨hbudget, _, _, _⟩ := checks_of_integrity h.integrity h.state
  obtain ⟨ops', middle, respending, _, hrespends, hreconsumes, hkeys, _⟩ :=
    exists_consumes reopening.after observation hreturned.integrity hreturned.state h.valid
      (by rw [hmetadata']; exact h.campaign) (by rw [hmetadata']; exact h.work) (hclass _ _)
      (by rw [hmetadata']; exact hbudget)
  have hrun : RunState.run sha ⟨0, initial⟩ (ops ++ ([.halt reason, op] ++ ops')) =
      (before ++ opening :: [halting, deciding]) ++ reopening :: (middle ++ [respending]) := by
    rw [RunState.run_concat hopened (RunState.run_concat hreopens.run_eq hrespends), List.append_assoc]
    rfl
  have hfirst : next'.metadata.key = pending.metadata.key := by
    rw [hmetadata']
    rfl
  have hreopened : reopened.key = pending.metadata.key := by
    rw [← hfirst, key, hreturned.state]
    rfl
  exact ⟨_, _, spending, reopening, middle, respending, next', hrun, by simp [hmem], hconsumes,
    (hstays spending hmem).2, hreturned.state, hreopened, hreconsumes, hfirst ▸ (hkeys respending (by simp)).2⟩

end Occurrences

namespace CampaignRun

/-- A run of a new campaign that settles the spend of its first occurrence and opens a
second one. -/
theorem exists_opened (sha : Sha256) :
    ∃ (run : CampaignRun sha) (before : List RunStep) (spending opening : RunStep),
      run.steps = before ++ [opening] ∧ run.OpensNew ∧ spending ∈ before ∧ spending.Consumes ∧ opening.Opens := by
  obtain ⟨base, _, hbase⟩ := exists_proposable sha (show LoopBudgetV1.validate ⟨0, 0, 0, 0, 0, 0⟩ = .ok () by rfl)
  obtain ⟨ops, before, spending, opening, next, hsteps, hmem, hconsumes, hstays, hsource, _, hstate, hmetadata⟩ :=
    governed.exists_opened ⟨⟨[4]⟩⟩ ⟨⟨[5]⟩⟩ hbase
  let run : CampaignRun sha := { base with ops }
  have hopening : opening.target.key = ⟨⟨⟨[]⟩⟩, ⟨1⟩⟩ := by
    rw [key, hstate]
    exact congrArg OccurrenceMetaV1.key hmetadata
  have hinitial : run.initial.key = ⟨⟨⟨[]⟩⟩, ⟨0⟩⟩ := by
    rw [key, hbase.state]
    rfl
  refine ⟨run, before, spending, opening, hsteps, ?_, hmem, hconsumes, ?_⟩
  · rw [OpensNew, show run.steps = before ++ [opening] from hsteps, RunStep.opens_new_concat, hopening,
      hinitial]
    refine ⟨RunStep.opens_new_of_stays (fun step hstep => (hstays step hstep).1) _, fun _ => ⟨by decide, ?_⟩⟩
    intro earlier hearlier
    rw [(hstays earlier hearlier).2]
    decide
  · rw [RunStep.Opens, hopening, hsource]
    decide

/-- A run of a new campaign that spends in its first occurrence, opens and halts a
second one, opens the first one again and spends in it again. -/
theorem exists_reopened (sha : Sha256) :
    ∃ (run : CampaignRun sha) (before middle : List RunStep) (spending reopening respending : RunStep)
      (next : ObservationRequiredV1), run.steps = before ++ reopening :: (middle ++ [respending]) ∧
      spending ∈ before ∧ spending.Consumes ∧ reopening.target.state = .ObservationRequired next ∧
      reopening.target.key = spending.target.key ∧ respending.Consumes ∧
      respending.target.key = spending.target.key := by
  obtain ⟨base, _, hbase⟩ := exists_proposable sha (show LoopBudgetV1.validate ⟨0, 0, 0, 0, 0, 0⟩ = .ok () by rfl)
  have hdecision : (⟨⟨[2]⟩⟩ : HumanDecisionIdV1) ∉ ([] : List HumanDecisionIdV1) ++ [⟨⟨[1]⟩⟩] := by decide
  obtain ⟨ops, before, spending, reopening, middle, respending, next, hsteps, hmem, hconsumes, hspending, hstate,
    hreopening, hreconsumes, hrespending⟩ :=
    governed.exists_reopened ⟨⟨[4]⟩⟩ ⟨⟨[5]⟩⟩ hbase hdecision
  exact ⟨{ base with ops }, before, middle, spending, reopening, respending, next, hsteps,
    hmem, hconsumes, hstate, hreopening.trans hspending.symm, hreconsumes, hrespending.trans hspending.symm⟩

end CampaignRun

end ag_campaign.governed

import AgentGovernor.Governed.BudgetAccounting

open ag_primitives Checked

namespace ag_campaign.governed

open GovernedLoopKernelV1

/-- The decision a step consumes. A disposition that opens an occurrence takes two
steps, and the first of them consumes. -/
def RunStep.consumed (step : RunStep) : List HumanDecisionIdV1 :=
  match step.op with
  | .apply_human_disposition artifact _ _ _ _ _ _ =>
    if step.target.key = step.source.key then [artifact.decision] else []
  | _ => []

/-- The decisions a campaign has consumed after some of its steps, as its latest
snapshot `latest` records them. -/
structure DecisionsConsumed (sha : Sha256) (steps : List RunStep) (latest : OccurrenceSnapshotV1) : Prop where
  recorded : latest.state.metadata.used_human_decisions = steps.flatMap RunStep.consumed
  nodup : (steps.flatMap RunStep.consumed).Nodup
  next : ∀ artifact scope new_occurrence resolver expected verifier now added,
    (KernelOp.apply_human_disposition artifact scope new_occurrence resolver expected verifier now).apply
      sha latest = .ok added →
    artifact.decision ∉ steps.flatMap RunStep.consumed ∧ ∀ snapshot ∈ added,
      snapshot.state.metadata.used_human_decisions = steps.flatMap RunStep.consumed ++ [artifact.decision]

section Step

variable {sha : Sha256} {op : KernelOp} {source target : OccurrenceSnapshotV1} {ordinal : Nat}

/-- Opening an occurrence consumes nothing. -/
theorem RunStep.consumed_of_opens {step : RunStep} (h : step.Opens) : step.consumed = [] := by
  unfold consumed
  split
  · exact if_neg h
  · rfl

/-- A step that is no part of a disposition copies the decisions. -/
theorem decisions_of_copied {state from_state : OccurrenceStateV1} (hsource : source.state = from_state)
    (htarget : target.state = state)
    (hop : ∀ artifact scope new_occurrence resolver expected verifier now,
      op ≠ .apply_human_disposition artifact scope new_occurrence resolver expected verifier now)
    (hcopied : state.metadata.used_human_decisions = from_state.metadata.used_human_decisions) :
    target.state.metadata.used_human_decisions = source.state.metadata.used_human_decisions ++
      RunStep.consumed ⟨ordinal, op, source, target⟩ := by
  have hconsumed : RunStep.consumed ⟨ordinal, op, source, target⟩ = [] := by
    unfold RunStep.consumed
    split
    · next hhuman => exact absurd hhuman (hop _ _ _ _ _ _ _)
    · rfl
  rw [hconsumed, List.append_nil, hsource, htarget, hcopied]

/-- A step appends exactly the decision it consumes. -/
theorem KernelStep.decisions (h : KernelStep sha op source target) :
    target.state.metadata.used_human_decisions = source.state.metadata.used_human_decisions ++
      RunStep.consumed ⟨ordinal, op, source, target⟩ := by
  cases h with
  | proposed hop hsource hwork hresolved hclass htarget =>
    obtain ⟨budget, rfl⟩ := hclass.metadata_eq
    subst hop
    exact decisions_of_copied hsource htarget.state_eq (by rintro _ _ _ _ _ _ _ ⟨⟩) rfl
  | probed hop hsource havailable htarget =>
    refine decisions_of_copied rfl htarget.state_eq ?_ ?_
    · rintro _ _ _ _ _ _ _ rfl
      cases hop
    · rw [OccurrenceStateV1.set_metadata_metadata]
      rfl
  | continued hop hsource hdistinct htarget =>
    refine decisions_of_copied hsource htarget.state_eq ?_ rfl
    rintro _ _ _ _ _ _ _ rfl
    cases hop
  | halted hop hsafe htarget =>
    rcases hop with ⟨hop, rfl⟩ | ⟨rfl, _, rfl⟩
    · refine decisions_of_copied rfl htarget.state_eq ?_ rfl
      rintro _ _ _ _ _ _ _ rfl
      cases hop
    · exact decisions_of_copied rfl htarget.state_eq (by rintro _ _ _ _ _ _ _ ⟨⟩) rfl
  | indeterminate hop hsource htarget =>
    rcases hop with rfl | rfl
    · exact decisions_of_copied hsource htarget.state_eq (by rintro _ _ _ _ _ _ _ ⟨⟩) rfl
    · exact decisions_of_copied hsource htarget.state_eq (by rintro _ _ _ _ _ _ _ ⟨⟩) rfl
  | standing hop hsource htarget | admitted hop hsource hresolved htarget
  | consumed hop hsource hresolved htarget | dispatched hop hsource htarget | settled hop hsource htarget
  | reconciled hop hsource htarget | completed hop hsource hempty hterminal htarget =>
    subst hop
    exact decisions_of_copied hsource htarget.state_eq (by rintro _ _ _ _ _ _ _ ⟨⟩) rfl
  | resumed hop hsource hprogram hresolved hdistinct htarget =>
    -- the second half of a disposition: its decision was consumed by the first
    subst hop
    dsimp only [RunStep.consumed]
    rw [if_neg (resumption_key_ne hsource hdistinct htarget.state_eq),
      List.append_nil, htarget.state_eq, hsource]
    rfl
  | decided hop hsource hprogram htarget | discharged hop hsource hkind hdischarge htarget
  | terminated hop hsource hresolved hempty hterminal htarget =>
    have hkey : target.key = source.key := by
      rw [OccurrenceSnapshotV1.key, OccurrenceSnapshotV1.key, htarget.state_eq, hsource]
      rfl
    subst hop
    dsimp only [RunStep.consumed]
    rw [if_pos hkey, htarget.state_eq, hsource]
    rfl

end Step

section Call

variable {sha : Sha256} {current : OccurrenceSnapshotV1} {artifact : HumanDispositionV1}
  {scope : HumanAuthorityScopeV1} {new_occurrence : Option OccurrenceId}
  {resolver : ObservationResolverV1} {expected : String} {verifier : HumanDispositionVerifierV1}
  {now : UInt64} {added : List OccurrenceSnapshotV1}

/-- A disposition that succeeds had an unused decision, and every snapshot it adds
records that decision last. -/
theorem decision_of_apply (h : (KernelOp.apply_human_disposition artifact scope new_occurrence resolver
      expected verifier now).apply sha current = .ok added) :
    artifact.decision ∉ current.state.metadata.used_human_decisions ∧ ∀ snapshot ∈ added,
      snapshot.state.metadata.used_human_decisions =
        current.state.metadata.used_human_decisions ++ [artifact.decision] := by
  obtain ⟨effect, heffect, rfl⟩ := map_eq_ok_iff.mp h
  obtain ⟨_, halted, verification, hstate, happlicable, _, houtcome⟩ :=
    apply_human_disposition_eq_ok_iff.mp heffect
  rw [hstate]
  refine ⟨happlicable.unused, ?_⟩
  cases houtcome with
  | opened hprogram hresolved hnew hdistinct hhalted hsuccessor =>
    intro snapshot hsnapshot
    rcases List.mem_pair.mp hsnapshot with rfl | rfl
    · rw [hhalted.state_eq]
      rfl
    · rw [hsuccessor.state_eq]
      rfl
  | discharged hkind hnew hdischarge hnext | terminated hkind hnew hresolved hempty hterminal hnext =>
    intro snapshot hsnapshot
    rw [List.mem_singleton.mp hsnapshot, hnext.state_eq]
    rfl

end Call

section Run

variable {sha : Sha256} {start state : RunState} {steps : List RunStep}

/-- Along a path every consumed decision is appended and none is lost. -/
theorem RunState.path_decisions (hpath : RunPath (RunState.Takes sha) start steps state) :
    state.latest.state.metadata.used_human_decisions =
      start.latest.state.metadata.used_human_decisions ++ steps.flatMap RunStep.consumed := by
  refine RunPath.invariant (fun steps state => state.latest.state.metadata.used_human_decisions =
    start.latest.state.metadata.used_human_decisions ++ steps.flatMap RunStep.consumed) (by simp) ?_ hpath
  intro history middle step next _ hbefore htakes
  have hstep : step.target.state.metadata.used_human_decisions =
      step.source.state.metadata.used_human_decisions ++ step.consumed := htakes.kernel_step.decisions
  rw [htakes.source_eq, hbefore] at hstep
  rw [htakes.2.2, List.flatMap_append, List.flatMap_singleton, ← List.append_assoc]
  exact hstep

/-- At every point of a run the decisions consumed so far are recorded once each, in
order, and a further disposition can only consume another one. -/
theorem CampaignRun.decisions_consumed (run : CampaignRun sha) {before rest : List RunStep}
    (hsteps : run.steps = before ++ rest) :
    DecisionsConsumed sha before (RunState.finish ⟨0, run.initial⟩ before).latest := by
  obtain ⟨hintegrity, hinitial⟩ := run.initial_eq
  obtain ⟨state, hpath⟩ := run.path_front hsteps
  have hrecorded := RunState.path_decisions hpath
  have hnone : run.initial.state.metadata.used_human_decisions = [] := by
    rw [hinitial]
    rfl
  rw [hnone, List.nil_append] at hrecorded
  rw [RunState.path_finish hpath]
  refine ⟨hrecorded, hrecorded ▸ used_nodup_of_integrity (RunState.path_integrity hpath hintegrity), ?_⟩
  intro artifact scope new_occurrence resolver expected verifier now added happly
  rw [← hrecorded]
  exact decision_of_apply happly

theorem CampaignRun.decisions_appended (run : CampaignRun sha) {step : RunStep} (hstep : step ∈ run.steps) :
    step.target.state.metadata.used_human_decisions =
      step.source.state.metadata.used_human_decisions ++ step.consumed := by
  obtain ⟨final, hpath⟩ := run.path
  obtain ⟨_, _, htakes⟩ := hpath.exists_step_of_mem hstep
  exact htakes.kernel_step.decisions

end Run

end ag_campaign.governed

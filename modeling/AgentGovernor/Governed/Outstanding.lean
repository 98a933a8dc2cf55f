import AgentGovernor.Governed.Reopened
import AgentGovernor.Governed.Spend
import AgentGovernor.Primitives.IdealHash

open ag_primitives Checked

namespace ag_campaign.governed

namespace RunStep

/-- The step reports a spend that its source did not have. -/
def CreatesSpend (step : RunStep) : Prop :=
  ∃ spend, step.target.ag_spend = some spend ∧ step.source.ag_spend ≠ some spend

theorem Consumes.creates_spend {step : RunStep} (h : step.Consumes) : step.CreatesSpend := by
  obtain ⟨⟨admitted, hsource⟩, value, htarget⟩ := h
  exact ⟨value.spend, by rw [OccurrenceSnapshotV1.ag_spend, htarget], by simp [OccurrenceSnapshotV1.ag_spend, hsource]⟩

/-- Some recorded snapshot of the same occurrence carries a settlement bound to
the issuance of this step's spend and to the canonical attempt of it. -/
def SettledIn (sha : Sha256) (history : List RunStep) (spending : RunStep) : Prop :=
  ∃ spend issuance settlement, spending.target.ag_spend = some spend ∧
    spending.target.issuance = some issuance ∧ issuance.spend = spend.spend ∧
    settlement.Settles sha issuance ∧
    ∃ settling ∈ history, settling.target.key = spending.target.key ∧
      settling.target.settlement = some settlement

/-- The spend of this step is the one the latest snapshot still answers for. -/
def OutstandingAt (state : RunState) (spending : RunStep) : Prop :=
  spending.target.key = state.latest.key ∧
    (spending.target.issuance = state.latest.state.open_issuance ∧
        state.latest.state.open_issuance.isSome = true ∨
      state.latest.state.holds_unresolved = true)

theorem SettledIn.mono {sha : Sha256} {history history' : List RunStep} {spending : RunStep}
    (hsub : history ⊆ history') (h : SettledIn sha history spending) : SettledIn sha history' spending := by
  obtain ⟨spend, issuance, settlement, hspend, hissuance, hbound, hsettles, settling, hmem, hrest⟩ := h
  exact ⟨spend, issuance, settlement, hspend, hissuance, hbound, hsettles, settling, hsub hmem, hrest⟩

end RunStep

namespace RunState

open RunStep

variable {sha : Sha256} {start state next : RunState} {history : List RunStep} {step : RunStep}

/-- The step's own spend is settled by it or outstanding after it. -/
theorem Takes.own_spend (h : state.Takes sha step next) (hspend : step.target.ag_spend.isSome = true) :
    SettledIn sha (history ++ [step]) step ∨ OutstandingAt step.after step := by
  obtain ⟨spend, hspend⟩ := Option.isSome_iff_exists.mp hspend
  obtain ⟨issuance, hissuance, hbound, hopen | ⟨settlement, hsettlement, hsettles⟩⟩ :=
    issuance_of_spend h.kernel_step.integrity hspend
  · exact .inr ⟨rfl, .inl ⟨hissuance.trans hopen.symm, by simp [after, hopen]⟩⟩
  · exact .inl ⟨spend, issuance, settlement, hspend, hissuance, hbound, hsettles, step, by simp, rfl,
      hsettlement⟩

/-- An outstanding spend stays so, or the step settles it. -/
theorem Takes.outstanding_step (h : state.Takes sha step next) (history : List RunStep)
    {spending : RunStep}
    (hintegrity : spending.target.validate_integrity sha = .ok ())
    (hspend : spending.target.ag_spend.isSome = true) (hout : OutstandingAt state spending) :
    ¬ step.Opens ∧ step.target.program_counter ≠ .Completed ∧
      (SettledIn sha (history ++ [step]) spending ∨ OutstandingAt step.after spending) := by
  obtain ⟨hcurrent, ⟨hissuance, hsome⟩ | hunresolved⟩ := hout
  all_goals rw [← h.source_eq] at hcurrent
  · obtain ⟨issuance, hopen⟩ := Option.isSome_iff_exists.mp hsome
    obtain ⟨hkey, hcompleted, hcases⟩ :=
      h.kernel_step.open_issuance_step (h.source_eq ▸ hopen)
    have hsame : spending.target.key = step.target.key := hcurrent.trans hkey.symm
    refine ⟨not_not.mpr hkey, hcompleted, ?_⟩
    obtain hstill | hheld | ⟨settlement, hsettlement, hsettles⟩ := hcases
    · exact .inr ⟨hsame, .inl ⟨by rw [hissuance, hopen]; exact hstill.symm, by simp [after, hstill]⟩⟩
    · exact .inr ⟨hsame, .inr hheld⟩
    · obtain ⟨spend, hspend⟩ := Option.isSome_iff_exists.mp hspend
      obtain ⟨own, hown, hbound, _⟩ := issuance_of_spend hintegrity hspend
      obtain rfl : own = issuance := by
        rw [hissuance, hopen] at hown
        exact (Option.some.inj hown).symm
      exact .inl ⟨spend, own, settlement, hspend, hown, hbound, hsettles, step, by simp, hsame.symm,
        hsettlement⟩
  · obtain ⟨hkey, hcompleted, hheld⟩ :=
      h.kernel_step.holds_unresolved_step (h.source_eq ▸ hunresolved)
    exact ⟨not_not.mpr hkey, hcompleted,
      .inr ⟨hcurrent.trans hkey.symm, .inr hheld⟩⟩

/-- Along every path each spend is settled or outstanding in the latest snapshot. -/
theorem path_settled_or_outstanding (hpath : RunPath (Takes sha) start history state) :
    ∀ spending ∈ history, spending.target.validate_integrity sha = .ok () ∧
      (spending.target.ag_spend.isSome = true →
        SettledIn sha history spending ∨ OutstandingAt state spending) := by
  refine RunPath.invariant (fun history state => ∀ spending ∈ history,
    spending.target.validate_integrity sha = .ok () ∧ (spending.target.ag_spend.isSome = true →
      SettledIn sha history spending ∨ OutstandingAt state spending)) (by simp) ?_ hpath
  rintro history before step after _ ih htakes spending hmem
  obtain rfl := htakes.2.2
  rcases List.mem_append.mp hmem with hmem | hmem
  · obtain ⟨hintegrity, hcases⟩ := ih spending hmem
    refine ⟨hintegrity, fun hspend => ?_⟩
    obtain hsettled | hout := hcases hspend
    · exact .inl (hsettled.mono (List.subset_append_left _ _))
    · exact (htakes.outstanding_step history hintegrity hspend hout).2.2
  · obtain rfl : spending = step := by simpa using hmem
    exact ⟨htakes.kernel_step.integrity, htakes.own_spend⟩

/-- When no occurrence is opened a second time, no spend of an occurrence precedes a
state that comes before the spend. -/
theorem path_no_spend_before (hpath : RunPath (Takes sha) start history state)
    {seen : List OccurrenceKeyV1} (hnew : OpensNew seen history)
    (hbefore : state.latest.state.before_spend = true) :
    ∀ earlier ∈ history, earlier.target.key = state.latest.key → earlier.target.state.before_spend = true := by
  intro earlier hmem hsame
  exact (pairwise_within hpath
    (R := fun earlier later => later.state.before_spend = true → earlier.state.before_spend = true)
    (fun _ h => h) (fun _ _ _ h h' hlast => h (h' hlast))
    (fun _ _ _ hstep hkey hlast => hstep.before_spend_of_target hkey hlast) hnew).2
    earlier hmem hsame hbefore

end RunState

namespace CampaignRun

open RunStep

variable {sha : Sha256}

/-- At most one outstanding authorization, in every run that opens no occurrence a
second time. An occurrence creates at most one spend; when an occurrence is opened or
the campaign completes, every spend recorded so far is settled in its own occurrence,
by a settlement bound to its issuance and canonical attempt; and a spend that is not
settled belongs to the occurrence the run has reached. -/
theorem at_most_one_outstanding_authorization (run : CampaignRun sha) (hnew : run.OpensNew) :
    (∀ before later rest, run.steps = before ++ later :: rest → later.CreatesSpend →
      ∀ earlier ∈ before, earlier.CreatesSpend → earlier.target.key ≠ later.target.key) ∧
    (∀ before step rest, run.steps = before ++ step :: rest →
      (step.Opens ∨ step.target.program_counter = .Completed) →
      ∀ spending ∈ before, spending.target.ag_spend.isSome = true → SettledIn sha before spending) ∧
    ∀ before rest, run.steps = before ++ rest → ∀ spending ∈ before,
      spending.target.ag_spend.isSome = true → ¬ SettledIn sha before spending →
      spending.target.key = (RunState.finish ⟨0, run.initial⟩ before).latest.key := by
  refine ⟨?_, ?_, ?_⟩
  · rintro before later rest hsteps ⟨spend, hspend, hfresh⟩ earlier hmem ⟨spend', hspend', hfresh'⟩ hsame
    obtain ⟨state, hpath, htakes⟩ := run.path_before hsteps
    obtain ⟨hsource, _, hkey⟩ := htakes.kernel_step.source_of_new_spend hspend hfresh
    rw [htakes.source_eq] at hsource hkey
    have hearlier := RunState.path_no_spend_before hpath (hnew.front hsteps) hsource earlier hmem
      (hsame.trans hkey)
    obtain ⟨_, _, hstep⟩ := hpath.exists_step_of_mem hmem
    have hafter := (hstep.kernel_step.source_of_new_spend hspend' hfresh').2.1
    simp [hearlier] at hafter
  · rintro before step rest hsteps hleaves spending hmem hspend
    obtain ⟨state, hpath, htakes⟩ := run.path_before hsteps
    obtain ⟨hintegrity, hcases⟩ := RunState.path_settled_or_outstanding hpath spending hmem
    obtain hsettled | hout := hcases hspend
    · exact hsettled
    · obtain ⟨hopens, hcompleted, _⟩ :=
        htakes.outstanding_step before hintegrity hspend hout
      exact absurd hleaves (not_or.mpr ⟨hopens, hcompleted⟩)
  · rintro before rest hsteps spending hmem hspend hunsettled
    obtain ⟨state, hpath⟩ := run.path_front hsteps
    obtain ⟨_, hcases⟩ := RunState.path_settled_or_outstanding hpath spending hmem
    obtain hsettled | hout := hcases hspend
    · exact absurd hsettled hunsettled
    · rw [RunState.path_finish hpath]
      exact hout.1

/-- In a run that settles the spend of its first occurrence and opens a second one. -/
theorem at_most_one_outstanding_authorization_opened :
    ∃ (run : CampaignRun ideal_sha) (before rest : List RunStep) (spending opening : RunStep),
      run.steps = before ++ spending :: rest ++ [opening] ∧ run.OpensNew ∧ spending.CreatesSpend ∧ opening.Opens ∧
      (∀ earlier ∈ before, earlier.CreatesSpend → earlier.target.key ≠ spending.target.key) ∧
      SettledIn ideal_sha (before ++ spending :: rest) spending := by
  obtain ⟨run, front, spending, opening, hsteps, hnew, hmem, hconsumes, hopens⟩ := exists_opened ideal_sha
  obtain ⟨before, rest, rfl⟩ := List.append_of_mem hmem
  obtain ⟨honce, hsettled, _⟩ := at_most_one_outstanding_authorization run hnew
  refine ⟨run, before, rest, spending, opening, hsteps, hnew, hconsumes.creates_spend, hopens, ?_, ?_⟩
  · refine honce before spending (rest ++ [opening]) ?_ hconsumes.creates_spend
    rw [hsteps, List.append_assoc]
    rfl
  · obtain ⟨spend, hspend, _⟩ := hconsumes.creates_spend
    exact hsettled _ opening [] hsteps (.inl hopens) spending hmem (by rw [hspend]; rfl)

/-- A run that opens its first occurrence again: the occurrence creates two spends. -/
theorem reopened_occurrence_spends_twice :
    ∃ (run : CampaignRun ideal_sha) (before : List RunStep) (later : RunStep),
      run.steps = before ++ [later] ∧ later.CreatesSpend ∧
      ∃ earlier ∈ before, earlier.CreatesSpend ∧ earlier.target.key = later.target.key := by
  obtain ⟨run, before, middle, spending, reopening, respending, _, hsteps, hmem, hconsumes, _, _, hreconsumes,
    hkey⟩ := exists_reopened ideal_sha
  refine ⟨run, before ++ reopening :: middle, respending, ?_, hreconsumes.creates_spend, spending, by simp [hmem],
    hconsumes.creates_spend, hkey.symm⟩
  rw [hsteps, List.append_assoc]
  rfl

end CampaignRun

end ag_campaign.governed

import AgentGovernor.Governed.Reopened
import AgentGovernor.Primitives.IdealHash

open ag_primitives Checked

namespace ag_campaign.governed

open GovernedLoopKernelV1

namespace AuthorityHistoryV1

/-- Every reference of `before` is still there, unchanged, in `after`. -/
structure Retained (before after : AuthorityHistoryV1) : Prop where
  ag_spend : ∀ spend, before.ag_spend = some spend → after.ag_spend = some spend
  docket_attempt : ∀ attempt, before.docket_attempt = some attempt → after.docket_attempt = some attempt
  settlement : ∀ settlement, before.settlement = some settlement → after.settlement = some settlement
  receipt : ∀ receipt, before.receipt = some receipt → after.receipt = some receipt

theorem Retained.refl (history : AuthorityHistoryV1) : Retained history history :=
  ⟨fun _ h => h, fun _ h => h, fun _ h => h, fun _ h => h⟩

theorem Retained.trans {first second third : AuthorityHistoryV1} (h : Retained first second)
    (h' : Retained second third) : Retained first third :=
  ⟨fun x hx => h'.ag_spend x (h.ag_spend x hx), fun x hx => h'.docket_attempt x (h.docket_attempt x hx),
    fun x hx => h'.settlement x (h.settlement x hx), fun x hx => h'.receipt x (h.receipt x hx)⟩

/-- No attempt without a spend, no settlement or receipt without an attempt. -/
structure Ordered (history : AuthorityHistoryV1) : Prop where
  attempt_spent : history.docket_attempt.isSome → history.ag_spend.isSome
  settlement_attempted : history.settlement.isSome → history.docket_attempt.isSome
  receipt_attempted : history.receipt.isSome → history.docket_attempt.isSome

theorem ordered_default : Ordered .default :=
  ⟨by simp [default], by simp [default], by simp [default]⟩

end AuthorityHistoryV1

namespace OccurrenceStateV1

/-- Outside the two states that store a history, the derived one is in order. -/
theorem authority_history_ordered {state : OccurrenceStateV1}
    (hhalted : ∀ value, state = .Halted value → value.history.Ordered)
    (hcompleted : ∀ value, state = .Completed value → value.history.Ordered) :
    state.authority_history.Ordered := by
  cases state with
  | Halted value => exact hhalted value rfl
  | Completed value => exact hcompleted value rfl
  | _ => constructor <;> simp [authority_history, AuthorityHistoryV1.default]

@[simp] theorem set_metadata_authority_history (metadata : OccurrenceMetaV1) (state : OccurrenceStateV1) :
    (state.set_metadata metadata).authority_history = state.authority_history := by
  cases state <;> rfl

end OccurrenceStateV1

namespace KernelStep

variable {sha : Sha256} {op : KernelOp} {source target : OccurrenceSnapshotV1}

variable (h : KernelStep sha op source target)

include h

/-- A step within an occurrence loses no reference. -/
theorem history_retained (hkey : target.key = source.key) :
    source.state.authority_history.Retained target.state.authority_history := by
  cases h with
  | continued hop hsource hdistinct htarget =>
    exact absurd hkey (continuation_key_ne hsource hdistinct htarget.state_eq)
  | resumed hop hsource hprogram hresolved hdistinct htarget =>
    exact absurd hkey (resumption_key_ne hsource hdistinct htarget.state_eq)
  | probed hop hsource havailable htarget =>
    rw [htarget.state_eq, OccurrenceStateV1.set_metadata_authority_history]
    exact .refl _
  | halted hop hsafe htarget =>
    rw [htarget.state_eq]
    exact .refl _
  | _ =>
    -- the new references are added to what the source state already derives
    rename_i htarget
    constructor <;>
      simp_all [htarget.state_eq, OccurrenceStateV1.authority_history, AuthorityHistoryV1.default,
        HaltedV1.consume, HaltedV1.discharge, authorize]

/-- A halted snapshot stores the history its predecessor reported. -/
theorem halted_history {value : HaltedV1}
    (hvalue : target.state = .Halted value) : value.history = source.state.authority_history := by
  cases h with
  | probed hop hpc havailable htarget =>
    exact absurd hvalue (probe_state_ne (by rcases hpc with hpc | hpc <;> rw [hpc] <;> rintro ⟨⟩) htarget)
  | halted hop hsafe htarget =>
    obtain rfl : halted_from source _ _ = value := by simpa [htarget.state_eq] using hvalue
    rfl
  | decided hop hsource hprogram htarget =>
    obtain rfl : HaltedV1.consume _ _ = value := by simpa [htarget.state_eq] using hvalue
    simp [hsource, OccurrenceStateV1.authority_history, HaltedV1.consume]
  | discharged hop hsource hkind hdischarge htarget =>
    obtain rfl : HaltedV1.discharge _ _ _ = value := by simpa [htarget.state_eq] using hvalue
    simp [hsource, OccurrenceStateV1.authority_history, HaltedV1.discharge]
  | _ =>
    rename_i htarget
    simp [htarget.state_eq] at hvalue

/-- A completed snapshot stores the history its predecessor reported. -/
theorem completed_history {value : CompletedV1}
    (hvalue : target.state = .Completed value) : value.history = source.state.authority_history := by
  cases h with
  | probed hop hpc havailable htarget =>
    exact absurd hvalue (probe_state_ne (by rcases hpc with hpc | hpc <;> rw [hpc] <;> rintro ⟨⟩) htarget)
  | completed _ hsource _ _ htarget | terminated _ hsource _ _ _ htarget =>
    obtain rfl : _ = value := by simpa [htarget.state_eq] using hvalue
    simp [hsource, OccurrenceStateV1.authority_history]
  | _ =>
    rename_i htarget
    simp [htarget.state_eq] at hvalue

theorem history_ordered (hsource : source.state.authority_history.Ordered) : target.state.authority_history.Ordered :=
  OccurrenceStateV1.authority_history_ordered (fun _ hvalue => h.halted_history hvalue ▸ hsource)
    (fun _ hvalue => h.completed_history hvalue ▸ hsource)

end KernelStep

namespace CampaignRun

variable {sha : Sha256}

theorem initial_history (run : CampaignRun sha) : run.initial.state.authority_history = .default := by
  rw [run.initial_eq.2]
  rfl

theorem history_ordered (run : CampaignRun sha) :
    ∀ step ∈ run.steps, step.target.state.authority_history.Ordered := by
  obtain ⟨final, hpath⟩ := run.path
  have hinvariant := RunPath.invariant
    (fun steps state => state.latest.state.authority_history.Ordered ∧
      ∀ step ∈ steps, step.target.state.authority_history.Ordered)
    ⟨run.initial_history ▸ AuthorityHistoryV1.ordered_default, by simp⟩ ?_ hpath
  · exact hinvariant.2
  rintro history before step after _ ⟨hlatest, hsteps⟩ htakes
  obtain rfl := htakes.2.2
  have hordered := htakes.kernel_step.history_ordered (htakes.source_eq ▸ hlatest)
  refine ⟨hordered, fun earlier hmem => ?_⟩
  rcases List.mem_append.mp hmem with hmem | hmem
  · exact hsteps earlier hmem
  · obtain rfl : earlier = step := by simpa using hmem
    exact hordered

/-- Authority history is append-only along every run that opens no occurrence a second
time. Every later snapshot of an occurrence reports every reference an earlier one
reported; no snapshot reports an attempt without a spend or a settlement without an
attempt; and an occurrence starts with no reference at all. -/
theorem authority_history_append_only (run : CampaignRun sha) (hnew : run.OpensNew) :
    run.initial.state.authority_history = .default ∧
    run.steps.Pairwise (fun earlier later => earlier.target.key = later.target.key →
      earlier.target.state.authority_history.Retained later.target.state.authority_history) ∧
    (∀ step ∈ run.steps, step.target.state.authority_history.Ordered) ∧
    ∀ step ∈ run.steps, step.Opens → step.target.state.authority_history = .default := by
  obtain ⟨final, hpath⟩ := run.path
  refine ⟨run.initial_history, ?_, run.history_ordered, ?_⟩
  · exact (RunState.pairwise_within hpath (R := fun earlier later =>
      earlier.state.authority_history.Retained later.state.authority_history) (fun _ => .refl _)
      (fun _ _ _ h h' => h.trans h') (fun _ _ _ hstep hkey => hstep.history_retained hkey) hnew).1
  · intro step hmem hopens
    obtain ⟨before, rest, hsteps⟩ := List.append_of_mem hmem
    obtain ⟨state, _, htakes⟩ := run.path_before hsteps
    cases htakes.kernel_step.leaves_of_key_ne hopens with
    | continued _ htarget | resumed _ _ htarget => rw [htarget]; rfl

/-- In a run that settles the spend of its first occurrence and opens a second one, the
spend is kept to the end of the first and the second starts without one. -/
theorem authority_history_append_only_opened :
    ∃ (run : CampaignRun ideal_sha) (before rest : List RunStep) (spending opening : RunStep),
      run.steps = before ++ spending :: rest ++ [opening] ∧ run.OpensNew ∧
      spending.target.state.authority_history.ag_spend.isSome = true ∧
      (∀ later ∈ rest, spending.target.key = later.target.key →
        spending.target.state.authority_history.Retained later.target.state.authority_history) ∧
      opening.target.state.authority_history = .default := by
  obtain ⟨run, front, spending, opening, hsteps, hnew, hmem, ⟨_, value, hvalue⟩, hopens⟩ := exists_opened ideal_sha
  obtain ⟨before, rest, rfl⟩ := List.append_of_mem hmem
  obtain ⟨_, hretained, _, hdefault⟩ := authority_history_append_only run hnew
  refine ⟨run, before, rest, spending, opening, hsteps, hnew, by rw [hvalue]; rfl, ?_,
    hdefault opening (by rw [hsteps]; simp) hopens⟩
  rw [hsteps, List.pairwise_append, List.pairwise_append, List.pairwise_cons] at hretained
  exact hretained.1.2.1.1

/-- A run that opens its first occurrence again: the spend the occurrence reported is no
longer reported. -/
theorem reopened_occurrence_forgets_spend :
    ∃ (run : CampaignRun ideal_sha) (before rest : List RunStep) (later : RunStep),
      run.steps = before ++ later :: rest ∧ later.target.state.authority_history = .default ∧
      ∃ earlier ∈ before, earlier.target.key = later.target.key ∧
        earlier.target.state.authority_history.ag_spend.isSome = true := by
  obtain ⟨run, before, middle, spending, reopening, respending, next, hsteps, hmem, ⟨_, value, hvalue⟩, hstate,
    hkey, _⟩ := exists_reopened ideal_sha
  exact ⟨run, before, middle ++ [respending], reopening, hsteps, by rw [hstate]; rfl, spending, hmem, hkey.symm,
    by rw [hvalue]; rfl⟩

end CampaignRun

end ag_campaign.governed

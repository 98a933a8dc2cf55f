import Mathlib.Logic.Relation
import AgentGovernor.Governed.BudgetAccounting
import AgentGovernor.Governed.SpendTime

open ag_primitives Checked
open Relation (ReflTransGen)

namespace ag_campaign.governed

open GovernedLoopKernelV1
open OccurrenceSnapshotV1 (key program_counter)

/-- One call of the kernel leads from `current` to `next`, the last snapshot it adds. -/
def CallLeads (sha : Sha256) (current next : OccurrenceSnapshotV1) : Prop :=
  ∃ (op : KernelOp) (added : List OccurrenceSnapshotV1),
    op.apply sha current = .ok added ∧ added.getLast? = some next

/-- Some finite sequence of calls, with some answers of the external boundaries,
reaches a completed snapshot of the campaign. -/
def Completable (sha : Sha256) (current : OccurrenceSnapshotV1) : Prop :=
  ∃ final, ReflTransGen (CallLeads sha) current final ∧ final.program_counter = .Completed ∧
    final.key.campaign = current.key.campaign

/-- Halted while the outcome of an attempt is unknown. -/
def Stranded (snapshot : OccurrenceSnapshotV1) : Prop :=
  ∃ halted attempt, snapshot.state = .Halted halted ∧ halted.unresolved_attempt = some attempt

section Step

variable {sha : Sha256} {op : KernelOp} {source target : OccurrenceSnapshotV1}

/-- No step leaves the campaign. -/
theorem KernelStep.campaign_eq (h : KernelStep sha op source target) :
    target.key.campaign = source.key.campaign := by
  rw [key, key]
  cases h with
  | proposed hop hsource hwork hresolved hclass htarget =>
    obtain ⟨budget, rfl⟩ := hclass.metadata_eq
    rw [htarget.state_eq, hsource]
    rfl
  | probed hop hsource havailable htarget =>
    rw [htarget.state_eq, OccurrenceStateV1.set_metadata_metadata]
    rfl
  | halted hop hsafe htarget =>
    rw [htarget.state_eq]
    rcases hop with ⟨_, rfl⟩ | ⟨_, _, rfl⟩ <;> rfl
  | standing hop hsource htarget | admitted hop hsource hresolved htarget
  | consumed hop hsource hresolved htarget | dispatched hop hsource htarget | settled hop hsource htarget
  | indeterminate hop hsource htarget | reconciled hop hsource htarget
  | continued hop hsource hdistinct htarget | completed hop hsource hempty hterminal htarget
  | decided hop hsource hprogram htarget | resumed hop hsource hprogram hresolved hdistinct htarget
  | discharged hop hsource hkind hdischarge htarget
  | terminated hop hsource hresolved hempty hterminal htarget =>
    rw [htarget.state_eq, hsource]
    rfl

/-- A stranded occurrence stays stranded: a disposition may close residuals, but it
resolves no attempt, and every other step starts elsewhere. -/
theorem KernelStep.stranded (h : KernelStep sha op source target) (hstranded : Stranded source) :
    Stranded target := by
  obtain ⟨stuck, attempt, hstate, hattempt⟩ := hstranded
  cases h with
  | decided _ hsource _ htarget | discharged _ hsource _ _ htarget =>
    obtain rfl : _ = stuck := by simpa [hstate] using hsource.symm
    exact ⟨_, attempt, htarget.state_eq, hattempt⟩
  | resumed _ hsource _ hresolved | terminated _ hsource hresolved =>
    obtain rfl : _ = stuck := by simpa [hstate] using hsource.symm
    rw [hattempt] at hresolved
    cases hresolved
  | probed hop hsource havailable htarget =>
    rw [program_counter, hstate] at hsource
    rcases hsource with hsource | hsource <;> cases hsource
  | halted hop hsafe htarget =>
    rw [program_counter, hstate] at hsafe
    cases hsafe
  | proposed hop hsource | standing hop hsource | admitted hop hsource | consumed hop hsource
  | dispatched hop hsource | settled hop hsource | indeterminate hop hsource | reconciled hop hsource
  | continued hop hsource | completed hop hsource =>
    rw [hstate] at hsource
    cases hsource

end Step

section Call

variable {sha : Sha256} {op : KernelOp} {current next : OccurrenceSnapshotV1}

/-- What every step preserves a call preserves. -/
theorem CallLeads.preserves (holds : OccurrenceSnapshotV1 → Prop)
    (hstep : ∀ op source target, KernelStep sha op source target → holds source → holds target)
    (h : CallLeads sha current next) (hcurrent : holds current) : holds next := by
  obtain ⟨op, added, happly, hlast⟩ := h
  have hchain := apply_steps happly
  clear happly
  induction added generalizing current with
  | nil => cases hlast
  | cons first rest ih =>
    obtain ⟨hfirst, hrest⟩ := List.isChain_cons_cons.mp hchain
    have hholds := hstep op current first hfirst hcurrent
    cases rest with
    | nil =>
      obtain rfl : first = next := by simpa using hlast
      exact hholds
    | cons second rest => exact ih hholds (by simpa using hlast) hrest

theorem stranded_of_leads (hleads : ReflTransGen (CallLeads sha) current next) (h : Stranded current) :
    Stranded next := by
  induction hleads with
  | refl => exact h
  | tail _ hcall ih => exact hcall.preserves Stranded (fun _ _ _ => KernelStep.stranded) ih

theorem not_completable_of_stranded (h : Stranded current) : ¬ Completable sha current := by
  rintro ⟨final, hleads, hcompleted, _⟩
  obtain ⟨halted, _, hstate, _⟩ := stranded_of_leads hleads h
  rw [program_counter, hstate] at hcompleted
  cases hcompleted

/-- A call to a snapshot that can be completed. -/
theorem Completable.of_call {added : List OccurrenceSnapshotV1} (happly : op.apply sha current = .ok added)
    (hlast : added.getLast? = some next) (h : Completable sha next) : Completable sha current := by
  obtain ⟨final, hleads, hcompleted, hcampaign⟩ := h
  have hcall : CallLeads sha current next := ⟨op, added, happly, hlast⟩
  have hsame : next.key.campaign = current.key.campaign :=
    hcall.preserves (fun snapshot => snapshot.key.campaign = current.key.campaign)
      (fun _ _ _ hstep => hstep.campaign_eq.trans) rfl
  exact ⟨final, .head hcall hleads, hcompleted, hcampaign.trans hsame⟩

end Call

section Paths

variable {sha : Sha256} {current : OccurrenceSnapshotV1}

variable (hintegrity : current.validate_integrity sha = .ok ())

include hintegrity

/-- A halt without an unresolved attempt: discharge what is open, then terminate. -/
theorem completable_of_halted {halted : HaltedV1}
    (hstate : current.state = .Halted halted) (hresolved : halted.unresolved_attempt = none) :
    Completable sha current := by
  obtain ⟨decision, hunused⟩ := exists_unused_decision halted
  obtain ⟨artifact, cleared, hdischarge, hcleared, hclearedstate⟩ := discharge_all_ok hintegrity hstate hunused
    (.answering (typed_observation sha halted.metadata.key ⟨⟨[]⟩⟩ ⟨[]⟩)) "observer" ⟨⟨[]⟩⟩
  obtain ⟨last, hlast⟩ := exists_unused_decision (halted.discharge ⟨[], .nil⟩ decision)
  obtain ⟨final, hterminate, hcompleted⟩ := terminate_ok hcleared hclearedstate hlast hresolved rfl
    ⟨⟨[]⟩⟩ ⟨[]⟩ ⟨⟨[]⟩⟩
  have hfirst : (KernelOp.apply_human_disposition artifact artifact.scope none _ _ _ _).apply sha current =
      .ok [cleared] := applied hdischarge
  have hsecond : (KernelOp.apply_human_disposition _ _ none _ _ _ _).apply sha cleared = .ok [final] :=
    applied hterminate
  have hcounter : final.program_counter = .Completed := by
    rw [program_counter, hcompleted]
    rfl
  exact .of_call hfirst rfl (.of_call hsecond rfl ⟨final, .refl, hcounter, rfl⟩)

/-- A safe boundary other than an unknown outcome: halt first. -/
theorem completable_of_safe (hsafe : is_safe_halt_source current.program_counter = true)
    (hresolved : unresolved_attempt_of current.state = none) : Completable sha current := by
  obtain ⟨next, hhalt⟩ := halt_ok hintegrity hsafe ⟨⟨[]⟩⟩
  obtain ⟨_, _, hfollows⟩ := halt_eq_ok_iff.mp hhalt
  have hcall : (KernelOp.halt ⟨⟨[]⟩⟩).apply sha current = .ok [next] := applied hhalt
  exact .of_call hcall rfl (completable_of_halted hfollows.integrity hfollows.state_eq hresolved)

theorem completable_of_settled {settled : SettledObservationRequiredV1}
    (hstate : current.state = .SettledObservationRequired settled) : Completable sha current := by
  refine completable_of_safe hintegrity ?_ ?_
  · rw [program_counter, hstate]
    rfl
  · rw [hstate]
    rfl

/-- An attempt in custody: settle it. -/
theorem completable_of_dispatched {dispatch : DispatchBasisV1} (hstate : current.state = .Dispatched dispatch) :
    Completable sha current := by
  obtain ⟨settlement, next, hsettle, hnext, hnextstate⟩ := record_settlement_ok hintegrity ⟨⟨[]⟩⟩ hstate
  have hcall : (KernelOp.record_settlement settlement).apply sha current = .ok [next] :=
    applied hsettle
  exact .of_call hcall rfl (completable_of_settled hnext hnextstate)

theorem completable_of_authorized {authorized : AuthorizationConsumedV1}
    (hstate : current.state = .AuthorizationConsumed authorized) : Completable sha current := by
  obtain ⟨custody, next, haccept, hnext, hnextstate⟩ := accept_docket_custody_ok hintegrity hstate
  have hcall : (KernelOp.accept_docket_custody custody).apply sha current = .ok [next] :=
    applied haccept
  exact .of_call hcall rfl (completable_of_dispatched hnext hnextstate)

theorem completable_of_reconciling {reconciling : ReconciliationRequiredV1}
    (hstate : current.state = .ReconciliationRequired reconciling) : Completable sha current := by
  obtain ⟨settlement, next, hsettle, hnext, hnextstate⟩ :=
    record_reconciled_settlement_ok hintegrity ⟨⟨[]⟩⟩ hstate
  have hcall : (KernelOp.record_reconciled_settlement settlement).apply sha current = .ok [next] :=
    applied hsettle
  exact .of_call hcall rfl (completable_of_settled hnext hnextstate)

/-- From every sound snapshot that is not stranded some calls complete the campaign. -/
theorem completable_of_not_stranded (hstranded : ¬ Stranded current) : Completable sha current := by
  cases hstate : current.state with
  | ObservationRequired _ | ProposalRecorded _ | StandingRequired _ | AdmissiblePendingAuthorization _ =>
    refine completable_of_safe hintegrity ?_ ?_
    · rw [program_counter, hstate]
      rfl
    · rw [hstate]
      rfl
  | AuthorizationConsumed _ => exact completable_of_authorized hintegrity hstate
  | Dispatched _ => exact completable_of_dispatched hintegrity hstate
  | ReconciliationRequired _ => exact completable_of_reconciling hintegrity hstate
  | SettledObservationRequired _ => exact completable_of_settled hintegrity hstate
  | Halted halted =>
    refine completable_of_halted hintegrity hstate (Option.eq_none_iff_forall_ne_some.mpr ?_)
    intro attempt hattempt
    exact hstranded ⟨halted, attempt, hstate, hattempt⟩
  | Completed _ =>
    refine ⟨current, .refl, ?_, rfl⟩
    rw [program_counter, hstate]
    rfl

end Paths

section Run

variable {sha : Sha256}

/-- At every point of every run, the campaign can still be completed exactly when the
snapshot is not stranded. -/
theorem CampaignRun.completable_iff (run : CampaignRun sha) {before rest : List RunStep}
    (hsteps : run.steps = before ++ rest) :
    Completable sha (RunState.finish ⟨0, run.initial⟩ before).latest ↔
      ¬ Stranded (RunState.finish ⟨0, run.initial⟩ before).latest := by
  obtain ⟨state, hpath⟩ := run.path_front hsteps
  rw [RunState.path_finish hpath]
  constructor
  · intro hcompletable hstranded
    exact not_completable_of_stranded hstranded hcompletable
  · exact completable_of_not_stranded (RunState.path_integrity hpath run.initial_eq.1)

/-- Some run ends in a spent authorization. -/
theorem exists_spent (sha : Sha256) : ∃ (run : CampaignRun sha) (state : RunState)
    (authorized : AuthorizationConsumedV1),
    RunState.finish ⟨0, run.initial⟩ run.steps = state ∧ state.latest.validate_integrity sha = .ok () ∧
      state.latest.state = .AuthorizationConsumed authorized := by
  obtain ⟨run, before, step, authorized, hsteps, hconsumed⟩ : ∃ run : CampaignRun sha, _ :=
    CampaignRun.exists_consumed (show LoopBudgetV1.validate ⟨0, 0, 0, 0, 0, 0⟩ = .ok () by rfl) ⟨⟨[]⟩⟩ ⟨0⟩
      ⟨⟨[]⟩⟩ ⟨[], .nil⟩ (plain_proposal_valid ⟨⟨[]⟩⟩ ⟨[1]⟩) rfl ⟨⟨[]⟩⟩
  obtain ⟨state, hpath, htakes⟩ := run.path_before hsteps
  exact ⟨run, step.after, authorized, by simp [hsteps, RunState.finish], htakes.kernel_step.integrity, hconsumed⟩

/-- With its authorization spent and nothing dispatched, a campaign can still be completed. -/
theorem CampaignRun.completable_iff_spent :
    ∃ (run : CampaignRun ideal_sha) (authorized : AuthorizationConsumedV1),
      (RunState.finish ⟨0, run.initial⟩ run.steps).latest.state = .AuthorizationConsumed authorized ∧
      Completable ideal_sha (RunState.finish ⟨0, run.initial⟩ run.steps).latest := by
  obtain ⟨run, state, authorized, hfinish, _, hstate⟩ := exists_spent ideal_sha
  have hspent : (RunState.finish ⟨0, run.initial⟩ run.steps).latest.state = .AuthorizationConsumed authorized := by
    rw [hfinish, hstate]
  refine ⟨run, authorized, hspent, (run.completable_iff (List.append_nil _).symm).mpr ?_⟩
  rintro ⟨halted, _, hhalted, _⟩
  cases hspent.symm.trans hhalted

/-- Some run goes on from a spent authorization to a halt of its unknown outcome. -/
theorem exists_stranded (sha : Sha256) :
    ∃ run : CampaignRun sha, Stranded (RunState.finish ⟨0, run.initial⟩ run.steps).latest := by
  obtain ⟨run, spent, authorized, hfinish, hsound, hconsumed⟩ := exists_spent sha
  obtain ⟨custody, accepted, haccept, hintegrity, haccepted⟩ :=
    accept_docket_custody_ok hsound hconsumed
  obtain ⟨indeterminate, unknown, hrequire, hunknown, hstate⟩ :=
    require_reconciliation_ok hintegrity ⟨[]⟩ haccepted
  have hsafe : is_safe_halt_source unknown.program_counter = true := by
    rw [program_counter, hstate]
    rfl
  obtain ⟨halted, hhalt⟩ := halt_ok hunknown hsafe ⟨⟨[]⟩⟩
  obtain ⟨_, _, hfollows⟩ := halt_eq_ok_iff.mp hhalt
  have haccepts : (KernelOp.accept_docket_custody custody).apply sha spent.latest = .ok [accepted] :=
    applied haccept
  have hrequires : (KernelOp.require_reconciliation indeterminate).apply sha accepted = .ok [unknown] :=
    applied hrequire
  have hhalts : (KernelOp.halt ⟨⟨[]⟩⟩).apply sha unknown = .ok [halted] := applied hhalt
  let stranded : CampaignRun sha :=
    { run with ops := run.ops ++ [.accept_docket_custody custody, .require_reconciliation indeterminate,
        .halt ⟨⟨[]⟩⟩] }
  have hrun : stranded.steps = run.steps ++ RunState.run sha spent _ :=
    (RunState.run_append sha run.ops _ _).trans (by rw [← hfinish]; rfl)
  rw [RunState.Performs.run_eq (.one haccepts (.one hrequires (.one hhalts .nil)))] at hrun
  refine ⟨stranded, ?_⟩
  rw [hrun, RunState.finish_append]
  refine ⟨_, custody.attempt, hfollows.state_eq, ?_⟩
  change unresolved_attempt_of unknown.state = _
  rw [hstate]
  rfl

/-- A run that cannot be completed any more, though nothing has been completed. -/
theorem halted_unknown_outcome_not_completable :
    ∃ run : CampaignRun ideal_sha,
      (RunState.finish ⟨0, run.initial⟩ run.steps).latest.program_counter ≠ .Completed ∧
      ¬ Completable ideal_sha (RunState.finish ⟨0, run.initial⟩ run.steps).latest := by
  obtain ⟨run, hstranded⟩ := exists_stranded ideal_sha
  refine ⟨run, ?_, not_completable_of_stranded hstranded⟩
  obtain ⟨halted, _, hstate, _⟩ := hstranded
  rw [program_counter, hstate]
  rintro ⟨⟩

end Run

end ag_campaign.governed

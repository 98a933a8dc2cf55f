import AgentGovernor.Governed.Completeness
import AgentGovernor.Governed.Completable

open ag_primitives Checked

namespace ag_campaign.governed

open GovernedLoopKernelV1
open OccurrenceSnapshotV1 (key prior_occurrence program_counter)

variable {sha : Sha256} {current next : OccurrenceSnapshotV1}

/-- What recording a probe is documented to do: it is possible exactly at the two boundaries
that await an observation and while the budget allows it, and then one more probe is
counted, the digests are linked, and nothing else changes. -/
structure ProbeRecorded (sha : Sha256) (current : OccurrenceSnapshotV1) : Prop where
  succeeds_iff : (∃ next, note_probe sha current = .ok next) ↔
    (current.program_counter = .ObservationRequired ∨ current.program_counter = .SettledObservationRequired) ∧
      current.state.metadata.budget.probes_used < current.state.metadata.budget.probe_limit
  counted : ∀ next, note_probe sha current = .ok next →
    next.state.metadata.budget.probes_used.toNat = current.state.metadata.budget.probes_used.toNat + 1
  unchanged : ∀ next, note_probe sha current = .ok next →
    next.state = current.state.set_metadata { current.state.metadata with
      budget := { current.state.metadata.budget with
        probes_used := next.state.metadata.budget.probes_used } }
  linked : ∀ next, note_probe sha current = .ok next →
    next.prior_state_digest = current.state_digest ∧
      next.state_digest = state_digest sha current.state_digest next.state
  sound : ∀ next, note_probe sha current = .ok next → next.validate_integrity sha = .ok ()
  accepted : ∀ next, note_probe sha current = .ok next → validate_successor sha current next = .ok ()

/-- A continuation occurrence that awaits its observation with a probe left. It names the
digest of its predecessor in its own state. -/
def AwaitsContinued (current : OccurrenceSnapshotV1) : Prop :=
  current.state.metadata.budget.probe_available = true ∧ current.prior_occurrence.isSome = true

section Boundary

/-- A probe changes nothing that the checks of a state look at, at either boundary. -/
theorem validate_state_probed (hcounter : current.program_counter = .SettledObservationRequired ∨
      current.program_counter = .ObservationRequired)
    (hvalid : validate_state sha current.state = .ok ()) :
    validate_state sha (current.state.set_metadata (probed current.state.metadata)) = .ok () := by
  unfold program_counter at hcounter
  cases hstate : current.state with
  | ObservationRequired pending =>
    rw [hstate] at hvalid
    exact hvalid
  | SettledObservationRequired settled =>
    rw [hstate] at hvalid
    exact hvalid
  | _ => simp [hstate, OccurrenceStateV1.program_counter] at hcounter

theorem probed_budget_valid (hvalid : current.state.metadata.budget.validate = .ok ())
    (havailable : current.state.metadata.budget.probe_available = true) :
    (probed current.state.metadata).budget.validate = .ok () := by
  obtain ⟨hretries, _, hescalations⟩ := LoopBudgetV1.validate_eq_ok_iff.mp hvalid
  have hlt := of_decide_eq_true havailable
  refine LoopBudgetV1.validate_eq_ok_iff.mpr ⟨hretries, ?_, hescalations⟩
  rw [UInt32.le_iff_toNat_le]
  change (saturating_add current.state.metadata.budget.probes_used 1).toNat ≤ _
  rw [saturating_add_one_of_lt hlt]
  exact UInt32.lt_iff_toNat_lt.mp hlt

/-- The state with one more probe follows a sound snapshot exactly when no continuation
would lose the link to its predecessor. -/
theorem probed_follows_iff (hintegrity : current.validate_integrity sha = .ok ())
    (hcounter : current.program_counter = .SettledObservationRequired ∨
      current.program_counter = .ObservationRequired)
    (havailable : current.state.metadata.budget.probe_available = true) :
    (∃ next, Follows sha current (current.state.set_metadata (probed current.state.metadata)) next) ↔
      ∀ prior, current.prior_occurrence = some prior → prior.state_digest = current.state_digest := by
  obtain ⟨hbudget, _, _, hvalid⟩ := validate_integrity_eq_ok_iff.mp hintegrity
  constructor
  · rintro ⟨next, rfl, hnext⟩ prior hprior
    obtain ⟨_, _, hlink, _⟩ := validate_integrity_eq_ok_iff.mp hnext
    unfold prior_occurrence at hprior
    split at hprior
    · next pending hstate =>
      rw [successor_snapshot_state, successor_snapshot_prior_state_digest, hstate] at hlink
      exact hlink { pending with metadata := probed pending.metadata } prior rfl hprior
    · cases hprior
  · intro hlink
    refine ⟨_, follows_successor ?_ ?_ (validate_state_probed hcounter hvalid)⟩
    · rw [OccurrenceStateV1.set_metadata_metadata]
      exact probed_budget_valid hbudget havailable
    · intro value prior hstate hprior
      cases hcurrent : current.state with
      | ObservationRequired pending =>
        rw [hcurrent] at hstate
        cases hstate
        exact hlink prior (by rw [prior_occurrence, hcurrent]; exact hprior)
      | _ => simp [hcurrent, OccurrenceStateV1.set_metadata] at hstate

end Boundary

/-- What a probe that was recorded left behind. -/
theorem note_probe_facts (hsha : sha.CollisionFree) (hintegrity : current.validate_integrity sha = .ok ())
    (h : note_probe sha current = .ok next) :
    next.state = current.state.set_metadata (probed current.state.metadata) ∧
      next.prior_state_digest = current.state_digest ∧
      next.state_digest = state_digest sha current.state_digest next.state ∧
      next.validate_integrity sha = .ok () ∧ validate_successor sha current next = .ok () := by
  obtain ⟨_, _, _, hfollows⟩ := note_probe_eq_ok_iff.mp h
  have happly : KernelOp.note_probe.apply sha current = .ok [next] := applied h
  obtain ⟨hstep, _⟩ := List.isChain_cons_cons.mp (apply_steps happly)
  obtain ⟨_, hdigest, _⟩ := validate_integrity_eq_ok_iff.mp hstep.integrity
  refine ⟨hfollows.state_eq, hstep.prior_eq, ?_, hstep.integrity, hstep.validated hsha hintegrity⟩
  rw [← hdigest, hstep.prior_eq]

/-- Only an occurrence that awaits its observation has a predecessor to name. -/
theorem program_counter_of_prior {prior : PriorOccurrenceBasisV1} (h : current.prior_occurrence = some prior) :
    current.program_counter = .ObservationRequired := by
  unfold prior_occurrence at h
  split at h
  · next hstate =>
    rw [program_counter, hstate]
    rfl
  · cases h

/-- Recording a probe is what it is documented to be unless a continuation names another
digest than the one its successor would have to name. -/
theorem probe_recorded_of_linked (hsha : sha.CollisionFree) (hintegrity : current.validate_integrity sha = .ok ())
    (hlinked : current.state.metadata.budget.probe_available = true → ∀ prior,
      current.prior_occurrence = some prior → prior.state_digest = current.state_digest) :
    ProbeRecorded sha current := by
  refine ⟨⟨?_, ?_⟩, ?_, ?_, ?_, ?_, ?_⟩
  · rintro ⟨next, h⟩
    obtain ⟨_, hcounter, havailable, _⟩ := note_probe_eq_ok_iff.mp h
    exact ⟨hcounter.symm, of_decide_eq_true havailable⟩
  · rintro ⟨hcounter, hlt⟩
    have havailable : current.state.metadata.budget.probe_available = true := decide_eq_true hlt
    obtain ⟨next, hfollows⟩ :=
      (probed_follows_iff hintegrity hcounter.symm havailable).mpr (hlinked havailable)
    exact ⟨next, note_probe_eq_ok_iff.mpr ⟨hintegrity, hcounter.symm, havailable, hfollows⟩⟩
  · intro next h
    obtain ⟨_, _, havailable, hfollows⟩ := note_probe_eq_ok_iff.mp h
    rw [hfollows.state_eq, OccurrenceStateV1.set_metadata_metadata]
    exact saturating_add_one_of_lt (of_decide_eq_true havailable)
  · intro next h
    rw [(note_probe_facts hsha hintegrity h).1, OccurrenceStateV1.set_metadata_metadata]
    rfl
  · intro next h
    obtain ⟨_, hprior, hdigest, _⟩ := note_probe_facts hsha hintegrity h
    exact ⟨hprior, hdigest⟩
  · intro next h
    obtain ⟨_, _, _, hsound, _⟩ := note_probe_facts hsha hintegrity h
    exact hsound
  · intro next h
    obtain ⟨_, _, _, _, haccepted⟩ := note_probe_facts hsha hintegrity h
    exact haccepted

theorem not_probe_recorded (hintegrity : current.validate_integrity sha = .ok ())
    (hne : ∀ prior, current.prior_occurrence = some prior → prior.state_digest ≠ current.state_digest)
    (hawaits : AwaitsContinued current) : ¬ ProbeRecorded sha current := by
  intro hrecorded
  obtain ⟨havailable, hsome⟩ := hawaits
  obtain ⟨prior, hprior⟩ := Option.isSome_iff_exists.mp hsome
  have hcounter := program_counter_of_prior hprior
  obtain ⟨next, hnext⟩ := hrecorded.succeeds_iff.mpr ⟨.inl hcounter, of_decide_eq_true havailable⟩
  have hfollows := (note_probe_eq_ok_iff.mp hnext).2.2.2
  exact hne prior hprior
    ((probed_follows_iff hintegrity (.inr hcounter) havailable).mp ⟨next, hfollows⟩ prior hprior)

/-- In a run no occurrence names its own digest as that of its predecessor: a snapshot with
the digest of its predecessor would be its predecessor. -/
theorem RunState.path_prior_ne (hsha : sha.CollisionFree) {start state : RunState} {steps : List RunStep}
    (hpath : RunPath (RunState.Takes sha) start steps state)
    (hstart : start.latest.validate_integrity sha = .ok ())
    (hfirst : start.latest.prior_occurrence = none) :
    ∀ prior, state.latest.prior_occurrence = some prior → prior.state_digest ≠ state.latest.state_digest := by
  refine RunPath.invariant (fun _ state => ∀ prior, state.latest.prior_occurrence = some prior →
    prior.state_digest ≠ state.latest.state_digest) ?_ ?_ hpath
  · intro prior hprior
    rw [hfirst] at hprior
    cases hprior
  · rintro history state step _ hhistory ih ⟨hstep, _, rfl⟩ prior hprior hown
    have hsource := RunState.path_integrity hhistory hstart
    have hnamed : prior.state_digest = state.latest.state_digest := by
      obtain ⟨_, _, hlink, _⟩ := validate_integrity_eq_ok_iff.mp hstep.integrity
      rw [← hstep.prior_eq]
      cases hstate : step.target.state with
      | ObservationRequired pending =>
        refine hlink pending prior hstate ?_
        rw [RunStep.after, prior_occurrence, hstate] at hprior
        exact hprior
      | _ =>
        rw [RunStep.after, prior_occurrence, hstate] at hprior
        cases hprior
    have hsame : step.target = state.latest :=
      eq_of_state_digest hsha hstep.integrity hsource (hown.symm.trans hnamed)
    exact ih prior (hsame ▸ hprior) hnamed

theorem CampaignRun.initial_prior (run : CampaignRun sha) : run.initial.prior_occurrence = none := by
  rw [prior_occurrence, run.initial_eq.2]

/-- At every point of every run, a probe is recorded as documented exactly when it is not
asked for in a continuation occurrence. -/
theorem CampaignRun.probe_recorded_iff (hsha : sha.CollisionFree) (run : CampaignRun sha)
    {before rest : List RunStep} (hsteps : run.steps = before ++ rest) :
    ProbeRecorded sha (RunState.finish ⟨0, run.initial⟩ before).latest ↔
      ¬ AwaitsContinued (RunState.finish ⟨0, run.initial⟩ before).latest := by
  obtain ⟨state, hpath⟩ := run.path_front hsteps
  rw [RunState.path_finish hpath]
  have hintegrity := RunState.path_integrity hpath run.initial_eq.1
  have hne := RunState.path_prior_ne hsha hpath run.initial_eq.1 run.initial_prior
  constructor
  · intro hrecorded hawaits
    exact not_probe_recorded hintegrity hne hawaits hrecorded
  · intro hordinary
    refine probe_recorded_of_linked hsha hintegrity fun havailable prior hprior => ?_
    exact absurd ⟨havailable, Option.isSome_iff_exists.mpr ⟨prior, hprior⟩⟩ hordinary

/-- A new campaign records the probe that its budget allows. -/
theorem CampaignRun.probe_recorded_created :
    ∃ run : CampaignRun ideal_sha, ProbeRecorded ideal_sha run.initial ∧
      ∃ next, note_probe ideal_sha run.initial = .ok next := by
  obtain ⟨base, _, hbase⟩ :=
    CampaignRun.exists_proposable ideal_sha (show LoopBudgetV1.validate ⟨0, 0, 1, 0, 0, 0⟩ = .ok () by rfl)
  let run : CampaignRun ideal_sha := { base with ops := [] }
  have hsteps : run.steps = [] ++ [] := rfl
  have hrecorded : ProbeRecorded ideal_sha run.initial := by
    refine (CampaignRun.probe_recorded_iff ideal_sha_collision_free run hsteps).mpr ?_
    rintro ⟨_, hsome⟩
    change run.initial.prior_occurrence.isSome = true at hsome
    rw [run.initial_prior] at hsome
    cases hsome
  refine ⟨run, hrecorded, hrecorded.succeeds_iff.mpr ?_⟩
  rw [program_counter, hbase.state]
  exact ⟨.inl rfl, (by decide : (0 : UInt32) < 1)⟩

/-- A halted campaign that a disposition returned to observation may no longer record the
probe that its budget allows. -/
theorem continuation_probe_refused :
    ∃ (run : CampaignRun ideal_sha) (returned : KernelOp), run.budget = ⟨0, 0, 1, 0, 0, 0⟩ ∧
      run.ops = [.halt ⟨⟨[5]⟩⟩, returned] ∧
      (RunState.finish ⟨0, run.initial⟩ run.steps).latest.program_counter = .ObservationRequired ∧
      ¬ ProbeRecorded ideal_sha (RunState.finish ⟨0, run.initial⟩ run.steps).latest := by
  obtain ⟨base, hbudget, hbase⟩ :=
    CampaignRun.exists_proposable ideal_sha (show LoopBudgetV1.validate ⟨0, 0, 1, 0, 0, 0⟩ = .ok () by rfl)
  obtain ⟨returned, halted, first, second, next, _, hreturned, hmetadata, _⟩ :=
    exists_successor ⟨⟨[5]⟩⟩ hbase.integrity hbase.state hbase.distinct hbase.unused
  let run : CampaignRun ideal_sha := { base with ops := [.halt ⟨⟨[5]⟩⟩, returned] }
  have hperforms : RunState.Performs ideal_sha ⟨0, run.initial⟩ run.ops _ :=
    .one hreturned.halt (.two hreturned.returned .nil)
  have hlatest : (RunState.finish ⟨0, run.initial⟩ run.steps).latest = second := by
    rw [show run.steps = _ from hperforms.run_eq]
    rfl
  obtain ⟨prior, hprior, _⟩ := hreturned.prior
  refine ⟨run, returned, hbudget, rfl, ?_, ?_⟩
  · rw [hlatest, program_counter, hreturned.state]
    rfl
  · obtain ⟨state, hpath⟩ := run.path
    have hne := RunState.path_prior_ne ideal_sha_collision_free hpath run.initial_eq.1 run.initial_prior
    rw [← RunState.path_finish hpath, hlatest] at hne
    rw [hlatest]
    refine not_probe_recorded hreturned.integrity hne ⟨?_, ?_⟩
    · rw [hreturned.state]
      change next.metadata.budget.probe_available = true
      rw [hmetadata]
      rfl
    · rw [prior_occurrence, hreturned.state]
      exact Option.isSome_iff_exists.mpr ⟨prior, hprior⟩

end ag_campaign.governed

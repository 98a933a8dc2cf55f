import AgentGovernor.Governed.Run

open ag_primitives Checked

namespace ag_campaign.governed

open GovernedLoopKernelV1
open OccurrenceSnapshotV1 (key)

namespace KernelStep

variable {sha : Sha256} {op : KernelOp} {source target : OccurrenceSnapshotV1}

/-- The shapes of the two steps that leave an occurrence. -/
inductive Leaves (source target : OccurrenceSnapshotV1) : Prop where
  | continued {settled : SettledObservationRequiredV1} {occurrence : OccurrenceId} {expected_work : Digest}
    (hsource : source.state = .SettledObservationRequired settled)
    (htarget : target.state =
      .ObservationRequired (continuation_of source settled occurrence expected_work))
  | resumed {halted : HaltedV1} {occurrence : OccurrenceId} {program : ProgramBasisRefV1}
    (hsource : source.state = .Halted halted) (hresolved : halted.unresolved_attempt = none)
    (htarget : target.state = .ObservationRequired (resumed_from source halted occurrence program))

theorem continuation_key_ne {settled : SettledObservationRequiredV1} {occurrence : OccurrenceId}
    {expected_work : Digest} (hsource : source.state = .SettledObservationRequired settled)
    (hdistinct : occurrence ≠ settled.dispatch.authorized.admitted.proposal.metadata.key.occurrence)
    (htarget : target.state =
      .ObservationRequired (continuation_of source settled occurrence expected_work)) :
    target.key ≠ source.key := by
  intro hkey
  rw [key, key, htarget, hsource] at hkey
  exact hdistinct (congrArg OccurrenceKeyV1.occurrence hkey)

theorem resumption_key_ne {halted : HaltedV1} {occurrence : OccurrenceId} {program : ProgramBasisRefV1}
    (hsource : source.state = .Halted halted) (hdistinct : occurrence ≠ halted.metadata.key.occurrence)
    (htarget : target.state = .ObservationRequired (resumed_from source halted occurrence program)) :
    target.key ≠ source.key := by
  intro hkey
  rw [key, key, htarget, hsource] at hkey
  exact hdistinct (congrArg OccurrenceKeyV1.occurrence hkey)

variable (h : KernelStep sha op source target)

include h

/-- A step stays in its occurrence or leaves it for a distinct one. -/
theorem key_eq_or_leaves :
    target.key = source.key ∨ target.key ≠ source.key ∧ Leaves source target := by
  cases h with
  | proposed hop hsource hwork hresolved hclass htarget =>
    obtain ⟨budget, rfl⟩ := hclass.metadata_eq
    exact .inl (by simp [key, htarget.state_eq, hsource, OccurrenceStateV1.metadata])
  | continued hop hsource hdistinct htarget =>
    exact .inr ⟨continuation_key_ne hsource hdistinct htarget.state_eq,
      .continued hsource htarget.state_eq⟩
  | resumed hop hsource hprogram hresolved hdistinct htarget =>
    exact .inr ⟨resumption_key_ne hsource hdistinct htarget.state_eq,
      .resumed hsource hresolved htarget.state_eq⟩
  | probed hop hsource havailable htarget =>
    exact .inl (by simp [key, htarget.state_eq, GovernedLoopKernelV1.probed])
  | halted hop hsafe htarget =>
    left
    obtain ⟨_, rfl⟩ | ⟨_, _, rfl⟩ := hop <;>
      simp [key, htarget.state_eq, OccurrenceStateV1.metadata, halted_from, escalated]
  | _ =>
    left
    rename_i htarget
    simp [key, htarget.state_eq, OccurrenceStateV1.metadata, authorize,
      HaltedV1.consume, HaltedV1.discharge, OccurrenceMetaV1.consume_decision, *]

/-- Only a departure opens an occurrence. -/
theorem leaves_of_key_ne (hkey : target.key ≠ source.key) :
    Leaves source target :=
  h.key_eq_or_leaves.elim (fun heq => absurd heq hkey) And.right

theorem key_eq_of_counter (hcounter : target.program_counter ≠ .ObservationRequired) : target.key = source.key := by
  by_contra hkey
  refine hcounter ?_
  cases h.leaves_of_key_ne hkey with
  | continued _ htarget | resumed _ _ htarget => exact congrArg OccurrenceStateV1.program_counter htarget

/-- A proposal is recorded for the expected work, and every step keeps both or drops the
proposal. -/
theorem proposes_expected_work
    (hsource : ∀ basis ∈ source.state.proposal_basis, basis.proposal.work = basis.metadata.expected_work) :
    ∀ basis ∈ target.state.proposal_basis, basis.proposal.work = basis.metadata.expected_work := by
  cases h with
  | proposed _ _ hwork _ hclass ht =>
    obtain ⟨budget, rfl⟩ := hclass.metadata_eq
    rw [ht.state_eq]
    rintro _ ⟨⟩
    exact hwork
  | standing _ hs ht | admitted _ hs _ ht | consumed _ hs _ ht | dispatched _ hs ht | settled _ hs ht
  | indeterminate _ hs ht | reconciled _ hs ht =>
    have hkept := hsource _ (by rw [hs]; rfl)
    rw [ht.state_eq]
    rintro _ ⟨⟩
    exact hkept
  | probed _ _ _ ht =>
    rw [ht.state_eq]
    cases hs : source.state with
    | ObservationRequired | Halted | Completed => rintro _ ⟨⟩
    | _ =>
      have hkept := hsource _ (by rw [hs]; rfl)
      rintro _ ⟨⟩
      exact hkept
  | continued _ _ _ ht | halted _ _ ht | completed _ _ _ _ ht | decided _ _ _ ht | resumed _ _ _ _ _ ht
  | discharged _ _ _ _ ht | terminated _ _ _ _ _ ht =>
    rw [ht.state_eq]
    rintro _ ⟨⟩

end KernelStep

namespace RunState

open RunStep (OpensNew opens_new_concat)

variable {sha : Sha256} {start state next : RunState} {steps : List RunStep} {step : RunStep}

variable (h : state.Takes sha step next)

include h

theorem Takes.kernel_step :
    KernelStep sha step.op step.source step.target := by
  have hsource : step.source = state.latest := by rw [h.2.1, enter]
  rw [hsource]
  exact h.1

theorem Takes.source_eq : step.source = state.latest := by
  rw [h.2.1, enter]

theorem Takes.ordinal_eq (hkey : step.target.key = step.source.key) :
    step.ordinal = state.ordinal := by
  rw [h.2.1, enter]
  exact if_pos (h.source_eq ▸ hkey)

theorem Takes.ordinal_succ (hopens : step.Opens) :
    step.ordinal = state.ordinal + 1 := by
  rw [h.2.1, enter]
  exact if_neg (h.source_eq ▸ hopens)

theorem Takes.le_ordinal : state.ordinal ≤ step.ordinal := by
  by_cases hkey : step.target.key = step.source.key
  · exact (h.ordinal_eq hkey).ge
  · exact (h.ordinal_succ hkey).ge.trans' (Nat.le_succ _)

omit h

variable (hpath : RunPath (Takes sha) start steps state)

include hpath

/-- Occurrence numbers never go back. -/
theorem path_ordinal_le :
    ∀ earlier ∈ steps, earlier.ordinal ≤ state.ordinal := by
  refine RunPath.invariant (fun steps state => ∀ earlier ∈ steps, earlier.ordinal ≤ state.ordinal)
    (by simp) ?_ hpath
  rintro history before step after _ ih htakes earlier hmem
  obtain rfl := htakes.2.2
  rcases List.mem_append.mp hmem with hmem | hmem
  · exact (ih earlier hmem).trans htakes.le_ordinal
  · simp_all [RunStep.after]

theorem path_integrity (hstart : start.latest.validate_integrity sha = .ok ()) :
    state.latest.validate_integrity sha = .ok () := by
  refine RunPath.invariant (fun _ state => state.latest.validate_integrity sha = .ok ()) hstart ?_ hpath
  rintro _ _ _ _ _ _ htakes
  obtain rfl := htakes.2.2
  exact htakes.kernel_step.integrity

/-- Along a path every proposal is of the expected work, when the first one is. -/
theorem path_proposes_expected_work
    (hstart : ∀ basis ∈ start.latest.state.proposal_basis, basis.proposal.work = basis.metadata.expected_work) :
    ∀ basis ∈ state.latest.state.proposal_basis, basis.proposal.work = basis.metadata.expected_work := by
  refine RunPath.invariant (fun _ state => ∀ basis ∈ state.latest.state.proposal_basis,
    basis.proposal.work = basis.metadata.expected_work) hstart ?_ hpath
  rintro _ _ _ _ _ hbefore htakes
  obtain rfl := htakes.2.2
  exact htakes.1.proposes_expected_work hbefore

/-- Along a path that opens no occurrence a second time, a reflexive and transitive
relation that every step within an occurrence respects relates every two snapshots of
one occurrence, in order. -/
theorem pairwise_within {R : OccurrenceSnapshotV1 → OccurrenceSnapshotV1 → Prop} (hrefl : ∀ a, R a a)
    (htrans : ∀ a b c, R a b → R b c → R a c)
    (hstep : ∀ op source target, KernelStep sha op source target → target.key = source.key →
      R source target) {seen : List OccurrenceKeyV1} (hnew : OpensNew seen steps) :
    steps.Pairwise (fun earlier later => earlier.target.key = later.target.key →
      R earlier.target later.target) ∧
    ∀ earlier ∈ steps, earlier.target.key = state.latest.key → R earlier.target state.latest := by
  revert hnew
  refine RunPath.invariant (fun steps state => OpensNew seen steps → steps.Pairwise (fun earlier later =>
    earlier.target.key = later.target.key → R earlier.target later.target) ∧
    ∀ earlier ∈ steps, earlier.target.key = state.latest.key → R earlier.target state.latest)
    (by simp) ?_ hpath
  rintro history before step after hhistory ih htakes hnew
  obtain rfl := htakes.2.2
  obtain ⟨hbefore, hopens⟩ := opens_new_concat.mp hnew
  obtain ⟨hpairs, hcurrent⟩ := ih hbefore
  have hreach : ∀ earlier ∈ history, earlier.target.key = step.target.key → R earlier.target step.target := by
    intro earlier hmem hsame
    by_cases hkey : step.target.key = step.source.key
    · have hnow := hcurrent earlier hmem (by rw [hsame, hkey, htakes.source_eq])
      rw [← htakes.source_eq] at hnow
      exact htrans _ _ _ hnow (hstep _ _ _ htakes.kernel_step hkey)
    · -- an occurrence just opened has no earlier snapshot
      exact absurd hsame.symm ((hopens hkey).2 earlier hmem)
  constructor
  · rw [List.pairwise_append]
    exact ⟨hpairs, by simp, by simpa using hreach⟩
  · intro earlier hmem hsame
    rcases List.mem_append.mp hmem with hmem | hmem
    · exact hreach earlier hmem hsame
    · obtain rfl : earlier = step := by simpa using hmem
      exact hrefl _

end RunState

end ag_campaign.governed

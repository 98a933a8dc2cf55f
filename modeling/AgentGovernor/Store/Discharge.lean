import AgentGovernor.Governed.Attainable
import AgentGovernor.Governed.Obligations
import AgentGovernor.Governed.Soundness
import AgentGovernor.Store.Evidence

open ag_primitives Checked ag_campaign ag_campaign.governed

namespace ag_store

/-- The checks of the store let a disposition take a halted snapshot to a target. -/
structure StoreAccepts (sha : Sha256) (source target : OccurrenceSnapshotV1) (artifact : HumanDispositionV1) :
    Prop where
  validated : GovernedLoopKernelV1.validate_successor sha source target = .ok ()
  one_more : target.state.metadata.used_human_decisions.length =
    source.state.metadata.used_human_decisions.length + 1
  starts_with : source.state.metadata.used_human_decisions <+: target.state.metadata.used_human_decisions
  last : target.state.metadata.used_human_decisions.getLast? = some artifact.decision
  evidenced : validate_human_transition_evidence source target artifact = .ok ()

/-- The kernel accepts a discharge of a halted snapshot, and the target is the halted
successor that it builds from what remains. -/
def KernelDischarges (sha : Sha256) (source : OccurrenceSnapshotV1) (halted : HaltedV1)
    (artifact : HumanDispositionV1) (discharge : ExactResidualDischargeV1) (target : OccurrenceSnapshotV1) :
    Prop :=
  ∃ remaining, apply_exact_discharge halted discharge artifact.decision = .ok remaining ∧
    checked_successor sha source (.Halted (halted.discharge remaining artifact.decision)) = .ok target

/-- The halted snapshot is sound, the artifact is bound to it, and the target keeps its
expected work. -/
structure DischargeBound (sha : Sha256) (source target : OccurrenceSnapshotV1) (artifact : HumanDispositionV1) :
    Prop where
  integrity : source.validate_integrity sha = .ok ()
  bound : artifact.halted_state_digest = source.state_digest
  expected_work : target.state.metadata.expected_work = source.state.metadata.expected_work

section Checks

variable {sha : Sha256} {source target : OccurrenceSnapshotV1} {halted next : HaltedV1}
  {artifact : HumanDispositionV1} {discharge : ExactResidualDischargeV1} {remaining : ResidualSetV1}

theorem unique_eq_ok_iff {values : List ResidualIdV1} {ids : Finset ResidualIdV1} :
    unique values = .ok ids ↔ values.Nodup ∧ values.toFinset = ids := by
  rw [unique, ok_or_eq_ok_iff]
  exact sorted_unique_ids_eq_some_iff

/-- What the store compares of a discharge: its accounting, and the identities that the
halted target keeps open. -/
structure DischargeRecorded (source target : OccurrenceSnapshotV1) (discharge : ExactResidualDischargeV1)
    (decision : HumanDecisionIdV1) : Prop extends DischargeAccounted source.state.metadata discharge decision where
  halted : target.program_counter = .Halted
  after_eq : discharge.after.toFinset = target.state.metadata.residuals.ids

theorem validate_residual_disposition_eq_ok_iff :
    validate_residual_disposition source target artifact discharge = .ok () ↔
      DischargeRecorded source target discharge artifact.decision := by
  simp only [validate_residual_disposition, ok_rules, unique_eq_ok_iff]
  constructor
  · rintro ⟨⟨hhalted, hcampaign, hoccurrence, hprogram, hdecision⟩, _, ⟨hbefore, rfl⟩, _, ⟨hauthorized, rfl⟩, _,
      ⟨hclosed, rfl⟩, _, ⟨hafter, rfl⟩, hids, hexact, hdisjoint, hunion, hkept⟩
    exact ⟨⟨hcampaign, hoccurrence, hprogram, hdecision, ⟨hbefore, hauthorized, hclosed, hafter⟩, hids,
      hexact, hdisjoint, hunion⟩, hhalted, hkept⟩
  · intro h
    obtain ⟨hbefore, hauthorized, hclosed, hafter⟩ := h.nodup
    exact ⟨⟨h.halted, h.campaign, h.occurrence, h.program, h.disposition⟩, _, ⟨hbefore, rfl⟩, _, ⟨hauthorized, rfl⟩,
      _, ⟨hclosed, rfl⟩, _, ⟨hafter, rfl⟩, h.before_eq, h.authorized_eq, h.disjoint, h.union, h.after_eq⟩

/-- The identities that stay open are those of the obligations that stay open. -/
theorem remaining_ids (h : ExactDischarge halted discharge artifact.decision remaining) :
    discharge.after.toFinset = remaining.ids := by
  ext id
  simp only [ResidualSetV1.ids, List.mem_toFinset, List.mem_map]
  constructor
  · intro hafter
    have hopen : id ∈ halted.metadata.residuals.ids := by
      rw [← h.before_eq, h.union]
      exact Finset.mem_union_right _ (List.mem_toFinset.mpr hafter)
    obtain ⟨item, hitem, rfl⟩ := List.mem_map.mp (List.mem_toFinset.mp hopen)
    exact ⟨item, h.mem_remaining_iff.mpr ⟨hitem, hafter⟩, rfl⟩
  · rintro ⟨item, hitem, rfl⟩
    exact (h.mem_remaining_iff.mp hitem).2

/-- A legal pair of halted snapshots is a human update. -/
theorem halt_updated_of_legal (h : LegalSuccessor source target) (hstate : source.state = .Halted halted)
    (hcounter : target.program_counter = .Halted) : ∃ next, target.state = .Halted next ∧ HaltUpdated halted next := by
  cases h with
  | decided hsource htarget hupdated =>
    obtain rfl : halted = _ := OccurrenceStateV1.Halted.inj (hstate.symm.trans hsource)
    exact ⟨_, htarget, hupdated⟩
  | _ => simp_all [OccurrenceSnapshotV1.program_counter, OccurrenceStateV1.program_counter, is_safe_halt_source]

variable (hstate : source.state = .Halted halted)
  (hdisposition : artifact.disposition = .ExactResidualDisposition discharge)

include hstate hdisposition

/-- A discharge is evidence only for the halted snapshot that its artifact is bound to. -/
theorem discharge_evidence_iff :
    validate_human_transition_evidence source target artifact = .ok () ↔
      artifact.halted_state_digest = source.state_digest ∧
        DischargeRecorded source target discharge artifact.decision := by
  have hcounter : source.program_counter = .Halted := congrArg OccurrenceStateV1.program_counter hstate
  simp only [validate_human_transition_evidence, ok_rules, hcounter, ne_eq, not_true_eq_false, not_false_eq_true,
    true_and, hdisposition, reopened_program]
  by_cases hbound : artifact.halted_state_digest = source.state_digest
  · simp [hbound, validate_residual_disposition_eq_ok_iff]
  · -- the second half of a disposition reopens the occurrence, which a discharge does not
    simp [hbound, bind, Except.bind]

/-- The store accepts every halted successor that consumed the decision and kept exactly
what the discharge leaves open. -/
theorem accepted_of_updated (hintegrity : source.validate_integrity sha = .ok ())
    (hbound : artifact.halted_state_digest = source.state_digest)
    (hfollows : Follows sha source (.Halted next) target) (hupdated : HaltUpdated halted next)
    (hused : next.metadata.used_human_decisions = halted.metadata.used_human_decisions ++ [artifact.decision])
    (hexact : ExactDischarge halted discharge artifact.decision next.metadata.residuals) :
    StoreAccepts sha source target artifact := by
  have htarget := hfollows.state_eq
  have hdecisions : target.state.metadata.used_human_decisions =
      source.state.metadata.used_human_decisions ++ [artifact.decision] := by
    rw [htarget, hstate]
    exact hused
  refine ⟨validate_successor_eq_ok_iff.mpr ⟨hintegrity, hfollows.integrity, hfollows.prior_eq,
    .decided hstate htarget hupdated⟩, ?_, ?_, ?_, (discharge_evidence_iff hstate hdisposition).mpr ⟨hbound, ?_⟩⟩
  · simp [hdecisions]
  · rw [hdecisions]
    exact List.prefix_append _ _
  · simp [hdecisions]
  · refine ⟨by rw [hstate]; exact hexact.toDischargeAccounted,
      congrArg OccurrenceStateV1.program_counter htarget, ?_⟩
    rw [htarget]
    exact remaining_ids hexact

theorem KernelDischarges.accepted (h : KernelDischarges sha source halted artifact discharge target)
    (hintegrity : source.validate_integrity sha = .ok ())
    (hbound : artifact.halted_state_digest = source.state_digest) : StoreAccepts sha source target artifact := by
  obtain ⟨remaining, hdischarge, hbuilt⟩ := h
  have hexact := apply_exact_discharge_eq_ok_iff.mp hdischarge
  have hupdated : HaltUpdated halted (halted.discharge remaining artifact.decision) :=
    ⟨rfl, rfl, rfl, rfl, rfl, rfl, rfl, rfl, exactly_one_appended_iff.mpr ⟨_, rfl⟩,
      fun _ hitem => (hexact.mem_remaining_iff.mp hitem).1⟩
  exact accepted_of_updated hstate hdisposition hintegrity hbound (checked_successor_eq_ok_iff.mp hbuilt) hupdated
    rfl hexact

omit hdisposition in
theorem KernelDischarges.expected_work (h : KernelDischarges sha source halted artifact discharge target) :
    target.state.metadata.expected_work = source.state.metadata.expected_work := by
  obtain ⟨_, _, hbuilt⟩ := h
  rw [(checked_successor_eq_ok_iff.mp hbuilt).state_eq, hstate]
  rfl

/-- The store looks at the soundness of the snapshot and at what the artifact names. -/
theorem StoreAccepts.source_bound (h : StoreAccepts sha source target artifact) :
    source.validate_integrity sha = .ok () ∧ artifact.halted_state_digest = source.state_digest :=
  ⟨(validate_successor_eq_ok_iff.mp h.validated).1, ((discharge_evidence_iff hstate hdisposition).mp h.evidenced).1⟩

theorem StoreAccepts.discharged (h : StoreAccepts sha source target artifact)
    (hwork : target.state.metadata.expected_work = source.state.metadata.expected_work) :
    KernelDischarges sha source halted artifact discharge target := by
  obtain ⟨hsource, hsound, hlinked, hlegal⟩ := validate_successor_eq_ok_iff.mp h.validated
  obtain ⟨hbound, hrecorded⟩ := (discharge_evidence_iff hstate hdisposition).mp h.evidenced
  obtain ⟨next, htarget, hupdated⟩ : ∃ next, target.state = .Halted next ∧ HaltUpdated halted next :=
    halt_updated_of_legal hlegal hstate hrecorded.halted
  obtain ⟨decision, happended⟩ := exactly_one_appended_iff.mp hupdated.appended
  have hlast := h.last
  rw [htarget] at hlast hwork
  rw [hstate] at hwork
  have hdecision : decision = artifact.decision := by
    simpa [OccurrenceStateV1.metadata, happended] using hlast
  rw [hdecision] at happended
  have hids : discharge.after.toFinset = next.metadata.residuals.ids := by
    have hafter := hrecorded.after_eq
    rwa [htarget] at hafter
  have hnext := hupdated.eq_discharge hwork happended
  refine ⟨next.metadata.residuals, apply_exact_discharge_eq_ok_iff.mpr ?_,
    checked_successor_eq_ok_iff.mpr ?_⟩
  · have haccounted := hrecorded.toDischargeAccounted
    rw [hstate] at haccounted
    exact ⟨haccounted, ResidualSetV1.eq_filter_of_ids hupdated.retained hids⟩
  · rw [← hnext, ← htarget]
    exact follows_of_linked hsound hlinked

end Checks

/-- Kernel and store agree on a residual discharge, exactly when what either of them
accepts is of a sound snapshot that the artifact is bound to and keeps its expected
work. -/
theorem discharge_iff_accepted {sha : Sha256} {source target : OccurrenceSnapshotV1} {halted : HaltedV1}
    {artifact : HumanDispositionV1} {discharge : ExactResidualDischargeV1} (hstate : source.state = .Halted halted)
    (hdisposition : artifact.disposition = .ExactResidualDisposition discharge) :
    (StoreAccepts sha source target artifact ↔ KernelDischarges sha source halted artifact discharge target) ↔
      (StoreAccepts sha source target artifact ∨ KernelDischarges sha source halted artifact discharge target →
        DischargeBound sha source target artifact) := by
  constructor
  · rintro hagree haccepted
    have haccepts : StoreAccepts sha source target artifact := haccepted.elim id hagree.mpr
    obtain ⟨hintegrity, hbound⟩ := haccepts.source_bound hstate hdisposition
    exact ⟨hintegrity, hbound, (hagree.mp haccepts).expected_work hstate⟩
  · intro hcondition
    constructor
    · intro haccepts
      exact haccepts.discharged hstate hdisposition (hcondition (.inl haccepts)).expected_work
    · intro hbuilt
      have hbound := hcondition (.inr hbuilt)
      exact hbuilt.accepted hstate hdisposition hbound.integrity hbound.bound

section Sample

variable {sha : Sha256} {source : OccurrenceSnapshotV1} {halted : HaltedV1}

/-- The halted state after a decision that closes everything, with some expected work. -/
def HaltedV1.reworked (halted : HaltedV1) (decision : HumanDecisionIdV1) (expected_work : Digest) : HaltedV1 :=
  { halted.discharge ⟨[], .nil⟩ decision with
    metadata := { (halted.discharge ⟨[], .nil⟩ decision).metadata with expected_work } }

/-- A disposition that closes everything. -/
def closing_artifact (source : OccurrenceSnapshotV1) (halted : HaltedV1) (decision : HumanDecisionIdV1) :
    HumanDispositionV1 :=
  bound_artifact source halted decision (.ExactResidualDisposition (discharge_to halted ⟨[], .nil⟩ decision)) 1

/-- The store lets such a decision rebind the occurrence to any work. -/
theorem reworked_accepted (hintegrity : source.validate_integrity sha = .ok ())
    (hstate : source.state = .Halted halted) (decision : HumanDecisionIdV1)
    (hunused : decision ∉ halted.metadata.used_human_decisions) (expected_work : Digest) :
    StoreAccepts sha source
      (successor_snapshot sha source (.Halted (HaltedV1.reworked halted decision expected_work)))
      (closing_artifact source halted decision) := by
  obtain ⟨hbudget, hnodup, _, hpayload⟩ := checks_of_integrity hintegrity hstate
  have hfollows : Follows sha source (.Halted (HaltedV1.reworked halted decision expected_work)) _ :=
    follows_within hbudget (nodup_consumed hnodup hunused) (by rintro ⟨⟩) (by rintro _ ⟨⟩) hpayload
  exact accepted_of_updated hstate rfl hintegrity rfl hfollows
    ⟨rfl, rfl, rfl, rfl, rfl, rfl, rfl, rfl, exactly_one_appended_iff.mpr ⟨_, rfl⟩, by rintro _ ⟨⟩⟩ rfl
    (discharge_to_exact (by simp))

/-- A campaign that was created for work `[1]` with one residual obligation and halted. -/
theorem sample_halted (sha : Sha256) : ∃ (source : OccurrenceSnapshotV1) (halted : HaltedV1),
    source.validate_integrity sha = .ok () ∧ source.state = .Halted halted ∧
      halted.metadata = ⟨⟨⟨⟨[]⟩⟩, ⟨0⟩⟩, ⟨⟨[]⟩⟩, ⟨[1]⟩,
        ⟨[⟨⟨⟨[7]⟩⟩, ⟨[8]⟩, ⟨[9]⟩, ⟨[10]⟩⟩], List.pairwise_singleton _ _⟩, ⟨0, 0, 0, 0, 0, 0⟩, []⟩ := by
  obtain ⟨current, hcreated⟩ : ∃ current, GovernedLoopKernelV1.create_initial sha _ _ _ _ _ _ = .ok current :=
    create_initial_ok (by rfl : LoopBudgetV1.validate ⟨0, 0, 0, 0, 0, 0⟩ = .ok ()) ⟨⟨[]⟩⟩ ⟨0⟩ ⟨⟨[]⟩⟩ ⟨[1]⟩
      ⟨[⟨⟨⟨[7]⟩⟩, ⟨[8]⟩, ⟨[9]⟩, ⟨[10]⟩⟩], List.pairwise_singleton _ _⟩
  obtain ⟨hintegrity, hstate⟩ := GovernedLoopKernelV1.create_initial_eq_ok hcreated
  obtain ⟨source, hhalt⟩ := halt_ok hintegrity
    (by rw [OccurrenceSnapshotV1.program_counter, hstate]; rfl) ⟨⟨[5]⟩⟩
  have hfollows := (GovernedLoopKernelV1.halt_eq_ok_iff.mp hhalt).2.2
  exact ⟨source, _, hfollows.integrity, hfollows.state_eq, congrArg OccurrenceStateV1.metadata hstate⟩

end Sample

/-- The kernel closes the residual obligation of the sample, and so does the store. -/
theorem discharge_iff_accepted_closing :
    ∃ (source target : OccurrenceSnapshotV1) (halted : HaltedV1) (artifact : HumanDispositionV1)
      (discharge : ExactResidualDischargeV1), source.state = .Halted halted ∧
      artifact.disposition = .ExactResidualDisposition discharge ∧ discharge.closed = [⟨⟨[7]⟩⟩] ∧
      StoreAccepts ideal_sha source target artifact ∧
      KernelDischarges ideal_sha source halted artifact discharge target := by
  obtain ⟨source, halted, hintegrity, hstate, hmetadata⟩ := sample_halted ideal_sha
  have haccepted := reworked_accepted hintegrity hstate ⟨⟨[]⟩⟩ (by simp [hmetadata]) halted.metadata.expected_work
  refine ⟨source, _, halted, closing_artifact source halted ⟨⟨[]⟩⟩, _, hstate, rfl, ?_, haccepted,
    ((discharge_iff_accepted hstate rfl).mpr fun _ => ⟨hintegrity, rfl, ?_⟩).mp haccepted⟩
  · simp [discharge_to, hmetadata]
  · rw [successor_snapshot_state, hstate]
    rfl

/-- The store accepts a residual disposition that binds the halted occurrence to other
work. The kernel builds no such successor. -/
theorem reworked_discharge_accepted :
    ∃ (source target : OccurrenceSnapshotV1) (halted : HaltedV1) (artifact : HumanDispositionV1)
      (discharge : ExactResidualDischargeV1), source.state = .Halted halted ∧
      artifact.disposition = .ExactResidualDisposition discharge ∧ discharge.closed = [⟨⟨[7]⟩⟩] ∧
      StoreAccepts ideal_sha source target artifact ∧
      ¬ KernelDischarges ideal_sha source halted artifact discharge target := by
  obtain ⟨source, halted, hintegrity, hstate, hmetadata⟩ := sample_halted ideal_sha
  have haccepted := reworked_accepted hintegrity hstate ⟨⟨[]⟩⟩ (by simp [hmetadata]) ⟨[2]⟩
  refine ⟨source, _, halted, closing_artifact source halted ⟨⟨[]⟩⟩, _, hstate, rfl, ?_, haccepted, fun hbuilt => ?_⟩
  · simp [discharge_to, hmetadata]
  · have hkept := hbuilt.expected_work hstate
    rw [successor_snapshot_state, hstate] at hkept
    have hother : (⟨[2]⟩ : Digest) = ⟨[1]⟩ := hkept.trans (congrArg OccurrenceMetaV1.expected_work hmetadata)
    exact absurd hother (by decide)

end ag_store

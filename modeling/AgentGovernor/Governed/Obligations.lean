import AgentGovernor.Governed.Integrity
import AgentGovernor.Governed.Occurrence

open ag_primitives Checked

namespace ag_campaign.governed

open GovernedLoopKernelV1

/-- The open obligations of a snapshot. -/
def OccurrenceSnapshotV1.open_residuals (snapshot : OccurrenceSnapshotV1) : List ResidualObligationV1 :=
  snapshot.state.metadata.residuals.obligations

/-- An accepted residual disposition accounts for `item`: it is an exact residual
disposition, its `before` list names the complete open set of the halted
snapshot it was applied to, exactly what it authorized is closed, and the
identity of `item` is among the closed ones. -/
def KernelOp.Discharges (op : KernelOp) (source : OccurrenceSnapshotV1) (item : ResidualObligationV1) :
    Prop :=
  ∃ artifact scope new_occurrence resolver expected verifier now discharge,
    op = .apply_human_disposition artifact scope new_occurrence resolver expected verifier now ∧
    artifact.disposition = .ExactResidualDisposition discharge ∧
    discharge.before.Nodup ∧ discharge.before.toFinset = source.state.metadata.residuals.ids ∧
    discharge.authorized.toFinset = discharge.closed.toFinset ∧ item.residual ∈ discharge.closed

variable {decision : HumanDecisionIdV1} {discharge : ExactResidualDischargeV1} {halted : HaltedV1}
  {item : ResidualObligationV1} {remaining : ResidualSetV1}

/-- What an exact discharge leaves open was open, and what it does not leave
open was closed. -/
theorem ExactDischarge.mem_remaining_iff (h : ExactDischarge halted discharge decision remaining) :
    item ∈ remaining.obligations ↔
      item ∈ halted.metadata.residuals.obligations ∧ item.residual ∈ discharge.after := by
  simp [h.remaining_eq]

theorem ExactDischarge.mem_closed (h : ExactDischarge halted discharge decision remaining)
    (hopen : item ∈ halted.metadata.residuals.obligations) (hgone : item ∉ remaining.obligations) :
    item.residual ∈ discharge.closed := by
  have hbefore : item.residual ∈ discharge.before.toFinset := by
    rw [h.before_eq, ResidualSetV1.ids, List.mem_toFinset]
    exact List.mem_map_of_mem hopen
  rw [h.union, Finset.mem_union, List.mem_toFinset, List.mem_toFinset] at hbefore
  exact hbefore.resolve_right fun hafter => hgone (h.mem_remaining_iff.mpr ⟨hopen, hafter⟩)

namespace KernelStep

variable {sha : Sha256} {op : KernelOp} {source target : OccurrenceSnapshotV1}

variable (h : KernelStep sha op source target)

include h

/-- A step keeps the open obligations, or is one exact residual disposition. -/
theorem residuals_step :
    target.open_residuals = source.open_residuals ∨ (∀ item ∈ target.open_residuals, item ∈ source.open_residuals) ∧
      ∀ item ∈ source.open_residuals, item ∉ target.open_residuals → op.Discharges source item := by
  cases h with
  | probed hop hpc havailable htarget =>
    left
    simp [OccurrenceSnapshotV1.open_residuals, htarget.state_eq, GovernedLoopKernelV1.probed]
  | halted hop hsafe htarget =>
    left
    obtain ⟨_, rfl⟩ | ⟨_, _, rfl⟩ := hop <;>
      simp [OccurrenceSnapshotV1.open_residuals, htarget.state_eq, OccurrenceStateV1.metadata, halted_from,
        escalated]
  | discharged hop hsource hkind hdischarge htarget =>
    right
    simp only [OccurrenceSnapshotV1.open_residuals, htarget.state_eq, hsource, OccurrenceStateV1.metadata,
      HaltedV1.discharge, OccurrenceMetaV1.consume_decision]
    refine ⟨fun item hmem => (hdischarge.mem_remaining_iff.mp hmem).1, fun item hopen hgone => ?_⟩
    refine ⟨_, _, _, _, _, _, _, _, hop, hkind, hdischarge.nodup.1, ?_, hdischarge.authorized_eq,
      hdischarge.mem_closed hopen hgone⟩
    rw [hsource]
    exact hdischarge.before_eq
  | _ =>
    left
    rename_i htarget
    simp [OccurrenceSnapshotV1.open_residuals, htarget.state_eq, OccurrenceStateV1.metadata, authorize,
      HaltedV1.consume, OccurrenceMetaV1.consume_decision, continuation_of, resumed_from, *]

theorem residuals_subset :
    ∀ item ∈ target.open_residuals, item ∈ source.open_residuals := by
  obtain heq | ⟨hsub, _⟩ := h.residuals_step
  · rw [heq]
    exact fun _ hmem => hmem
  · exact hsub

theorem discharges_of_removed {item : ResidualObligationV1}
    (hopen : item ∈ source.open_residuals) (hgone : item ∉ target.open_residuals) :
    op.Discharges source item := by
  obtain heq | ⟨_, hdischarges⟩ := h.residuals_step
  · exact absurd (heq ▸ hopen) hgone
  · exact hdischarges item hopen hgone

end KernelStep

/-- A completed snapshot has no open obligation. -/
theorem completed_residuals {sha : Sha256} {snapshot : OccurrenceSnapshotV1}
    (hintegrity : snapshot.validate_integrity sha = .ok ())
    (hcompleted : snapshot.program_counter = .Completed) : snapshot.open_residuals = [] := by
  obtain ⟨_, _, _, hvalid⟩ := validate_integrity_eq_ok_iff.mp hintegrity
  obtain ⟨_, _, hpayload⟩ := validate_state_eq_ok_iff.mp hvalid
  cases hstate : snapshot.state with
  | Completed value =>
    simp only [hstate, validate_payload, ok_rules, Bool.not_eq_false] at hpayload
    simpa [OccurrenceSnapshotV1.open_residuals, hstate, OccurrenceStateV1.metadata,
      ResidualSetV1.is_empty] using hpayload.1
  | _ =>
    simp [OccurrenceSnapshotV1.program_counter, hstate, OccurrenceStateV1.program_counter] at hcompleted

/-- The step closes `item`. -/
def RunStep.Removes (step : RunStep) (item : ResidualObligationV1) : Prop :=
  item ∈ step.source.open_residuals ∧ item ∉ step.target.open_residuals

namespace RunState

variable {sha : Sha256} {start state : RunState} {history : List RunStep}

/-- An obligation that is gone was closed by exactly one step; one that is still
open was closed by none. -/
theorem path_removed_once (hpath : RunPath (Takes sha) start history state) (item : ResidualObligationV1)
    (hstart : item ∈ start.latest.open_residuals) :
    (item ∈ state.latest.open_residuals ∧ ∀ step ∈ history, ¬ step.Removes item) ∨
    (item ∉ state.latest.open_residuals ∧ ∃ front removing back, history = front ++ removing :: back ∧
      removing.Removes item ∧ ∀ other ∈ front ++ back, ¬ other.Removes item) := by
  refine RunPath.invariant (fun history state =>
    (item ∈ state.latest.open_residuals ∧ ∀ step ∈ history, ¬ step.Removes item) ∨
    (item ∉ state.latest.open_residuals ∧ ∃ front removing back, history = front ++ removing :: back ∧
      removing.Removes item ∧ ∀ other ∈ front ++ back, ¬ other.Removes item))
    (.inl ⟨hstart, by simp⟩) ?_ hpath
  rintro history before step after _ ih htakes
  obtain rfl := htakes.2.2
  obtain ⟨hopen, hnone⟩ | ⟨hgone, front, removing, back, rfl, hremoves, hothers⟩ := ih
  · by_cases htarget : item ∈ step.target.open_residuals
    · refine .inl ⟨htarget, fun other hmem => ?_⟩
      rcases List.mem_append.mp hmem with hmem | hmem
      · exact hnone other hmem
      · obtain rfl : other = step := by simpa using hmem
        exact fun h => h.2 htarget
    · exact .inr ⟨htarget, history, step, [], rfl, ⟨htakes.source_eq ▸ hopen, htarget⟩, by simpa using hnone⟩
  · -- what is gone does not come back, so the new step closes nothing of it
    have hsource : item ∉ step.source.open_residuals := htakes.source_eq ▸ hgone
    refine .inr ⟨fun h => hsource (htakes.kernel_step.residuals_subset item h), front, removing,
      back ++ [step], by simp, hremoves, fun other hmem => ?_⟩
    rw [← List.append_assoc] at hmem
    rcases List.mem_append.mp hmem with hmem | hmem
    · exact hothers other hmem
    · obtain rfl : other = step := by simpa using hmem
      exact fun h => hsource h.1

end RunState

namespace CampaignRun

variable {sha : Sha256}

/-- Residual obligations are never lost. Each snapshot's open set is contained in
its predecessor's; an obligation of the campaign that is no longer open was
closed by exactly one step, which is an exact residual disposition over the
complete open set with everything closed authorized; and a completed snapshot
has nothing open. -/
theorem residuals_never_lost (run : CampaignRun sha) :
    (∀ step ∈ run.steps, ∀ item ∈ step.target.open_residuals, item ∈ step.source.open_residuals) ∧
    (∀ before step rest, run.steps = before ++ step :: rest → ∀ item ∈ run.initial.open_residuals,
      item ∉ step.target.open_residuals →
      ∃ front removing back, before ++ [step] = front ++ removing :: back ∧ removing.Removes item ∧
        removing.op.Discharges removing.source item ∧
        ∀ other ∈ front ++ back, ¬ other.Removes item) ∧
    ∀ step ∈ run.steps, step.target.program_counter = .Completed → step.target.open_residuals = [] := by
  obtain ⟨final, hpath⟩ := run.path
  have hkernel : ∀ step ∈ run.steps, KernelStep sha step.op step.source step.target := by
    intro step hmem
    obtain ⟨_, _, htakes⟩ := hpath.exists_step_of_mem hmem
    exact htakes.kernel_step
  refine ⟨fun step hmem => (hkernel step hmem).residuals_subset, ?_,
    fun step hmem => completed_residuals (hkernel step hmem).integrity⟩
  rintro before step rest hsteps item hinitial hgone
  obtain ⟨state, hbefore, htakes⟩ := run.path_before hsteps
  obtain ⟨hopen, _⟩ | ⟨_, front, removing, back, hsplit, hremoves, hothers⟩ :=
    RunState.path_removed_once (hbefore.snoc htakes) item hinitial
  · exact absurd hopen hgone
  · have hmem : removing ∈ run.steps := by
      have hfront : removing ∈ before ++ [step] := by simp [hsplit]
      rw [hsteps, List.append_cons]
      exact List.mem_append_left _ hfront
    exact ⟨front, removing, back, hsplit, hremoves,
      (hkernel removing hmem).discharges_of_removed hremoves.1 hremoves.2, hothers⟩

end CampaignRun

end ag_campaign.governed

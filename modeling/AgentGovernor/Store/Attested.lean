import AgentGovernor.Store.Replayable

open Std (ExtTreeMap)
open ag_primitives Checked ag_campaign ag_campaign.governed Relational Transaction

namespace ag_store

section Disposition

variable {sha : Sha256} {head : CampaignHeadRow} {expected successor last : OccurrenceSnapshotV1}
  {kind : CampaignTransitionKindV1} {evidence : CampaignTransitionEvidenceV1} {recorded_at_unix_ms : UInt64}
  {db db' : Db} {state : ReplayState}

/-- A transition that consumes no decision, and whose evidence is none or known,
leaves the dispositions as they were. -/
theorem Replayable.unconsumed (hr : Replayable sha db head state expected) (hattested : Attested db state)
    (h : Written sha head expected successor kind evidence recorded_at_unix_ms db db')
    (hevidence : validate_replayed_evidence sha expected successor kind evidence = .ok ())
    (hdecisions : new_decisions expected successor = [])
    (hartifacts : replay_artifact state.human_artifacts
      (head.transition sha expected successor kind evidence recorded_at_unix_ms) =
        .ok state.human_artifacts) :
    ∃ next state', Replayable sha db' next state' successor ∧ Attested db' state' := by
  have hunchanged : replay_decisions state.human_decisions (new_decisions expected successor) =
      .ok state.human_decisions := by
    rw [hdecisions]
    rfl
  refine ⟨_, _, hr.written h hevidence hunchanged hartifacts, ?_, hattested.decisions, ?_⟩
  · rw [h.human_dispositions]
    exact hattested.artifacts
  · rw [h.residual_discharges]
    exact hattested.discharges

variable {artifact : HumanDispositionV1} {verification : HumanVerificationRefV1} {recorded : Db}
  (h : Disposed artifact verification recorded_at_unix_ms db recorded)

include h

/-- Recording a disposition leaves everything but its own tables. -/
theorem Replayable.disposed (hr : Replayable sha db head state last) :
    Replayable sha recorded head state last := by
  have hjournal := h.journal head.campaign
  refine { hr with
    linear := h.linear hr.linear
    replayed := ?_
    occurrences := ?_
    spends := ?_
    attempts := ?_
    settlements := ?_
    refusals := ?_ }
  · rw [hjournal, h.runtime_profile]
    exact hr.replayed
  · exact h.occurrences ▸ hr.occurrences
  · exact h.spends ▸ hr.spends
  · exact h.attempts ▸ hr.attempts
  · exact h.settlements ▸ hr.settlements
  · rw [hjournal]
    exact verify_refusals_of_subset (List.Subset.refl _) h.refusals hr.refusals

/-- A decision that is recorded was not recorded before. -/
theorem Disposed.fresh :
    artifact.decision ∉ collect db.human_dispositions.rows := by
  have hnodup := recorded.human_dispositions.keys_nodup
  rw [h.human_dispositions, List.map_append, List.nodup_append] at hnodup
  rw [mem_collect_iff]
  exact fun hmem => hnodup.2.2 _ hmem _ (by simp [human_row]) rfl

omit h in
theorem expected_discharge_human_row :
    expected_discharge (human_row artifact verification recorded_at_unix_ms).2 =
      (new_discharge artifact).map Prod.snd := by
  unfold expected_discharge new_discharge human_row
  cases artifact.disposition <;> rfl

/-- The residuals a recorded disposition closes are accounted for. -/
theorem Attested.discharges_disposed (hattested : Attested db state) :
    collect recorded.residual_discharges.rows = (state.human_artifacts.insert artifact.decision
        (human_row artifact verification recorded_at_unix_ms).2).filterMap
        fun _ human => expected_discharge human := by
  rw [filterMap_insert_of_notMem (hattested.artifacts ▸ h.fresh), expected_discharge_human_row,
    ← hattested.discharges, h.residual_discharges]
  unfold new_discharge
  cases artifact.disposition with
  | ExactResidualDisposition discharge => exact collect_append_single _ _
  | _ => simp

omit h

/-- The artifact of a row is taken unless another one is known for its decision. -/
theorem replay_artifact_eq_ok {artifacts : ExtTreeMap HumanDecisionIdV1 ExpectedHumanRow}
    {row : StoredTransitionRow} (hrow : row.evidence = .HumanDisposition artifact verification)
    (hsame : ∀ prior ∈ artifacts[artifact.decision]?,
      prior = (human_row artifact verification row.recorded_at_unix_ms).2) :
    replay_artifact artifacts row = .ok (artifacts.insert artifact.decision
      (human_row artifact verification row.recorded_at_unix_ms).2) := by
  rw [replay_artifact, hrow]
  refine bind_eq_ok_iff.mpr ⟨(), reject_eq_ok_iff.mpr ?_, rfl⟩
  rintro ⟨prior, hprior, hother⟩
  exact hother (hsame prior hprior)

/-- The first transition of a disposition consumes its decision. -/
theorem Replayable.decided (hr : Replayable sha recorded head state expected) (hattested : Attested db state)
    (hdisposed : Disposed artifact verification recorded_at_unix_ms db recorded)
    (h : Written sha head expected successor .HumanDisposition (.HumanDisposition artifact verification)
      recorded_at_unix_ms recorded db')
    (hevidence : validate_replayed_evidence sha expected successor .HumanDisposition
      (.HumanDisposition artifact verification) = .ok ())
    (hdecisions : new_decisions expected successor = [artifact.decision])
    (hunused : artifact.decision ∉ expected.state.metadata.used_human_decisions) :
    ∃ state', Replayable sha db' (head.advance successor (head.transition sha expected successor
        .HumanDisposition (.HumanDisposition artifact verification) recorded_at_unix_ms).event) state'
        successor ∧ Attested db' state' ∧
      state'.human_artifacts[artifact.decision]? =
        some (human_row artifact verification recorded_at_unix_ms).2 := by
  have hfresh : state.human_artifacts[artifact.decision]? = none := by
    rw [hattested.artifacts]
    exact ExtTreeMap.getElem?_eq_none hdisposed.fresh
  have hartifacts : replay_artifact state.human_artifacts
      (head.transition sha expected successor .HumanDisposition (.HumanDisposition artifact verification)
        recorded_at_unix_ms) = .ok (state.human_artifacts.insert artifact.decision
          (human_row artifact verification recorded_at_unix_ms).2) :=
    replay_artifact_eq_ok rfl (by simp [hfresh])
  have hconsumed : replay_decisions state.human_decisions (new_decisions expected successor) =
      .ok (state.human_decisions ∪ [artifact.decision].toFinset) := by
    rw [hdecisions]
    refine replay_decisions_eq_ok_iff.mpr ⟨List.nodup_singleton _, fun decision hmem hknown => ?_, rfl⟩
    rw [List.mem_singleton.mp hmem] at hknown
    exact hunused (hr.decisions_used _ hknown)
  refine ⟨_, hr.written h hevidence hconsumed hartifacts, ⟨?_, ?_, ?_⟩, ExtTreeMap.getElem?_insert_self⟩
  · change state.human_artifacts.insert _ _ = _
    rw [h.human_dispositions, hdisposed.human_dispositions, collect_append_single, hattested.artifacts]
    rfl
  · change _ ∪ _ = (state.human_artifacts.insert _ _).keys.toFinset
    rw [keys_toFinset_insert, hattested.decisions]
  · rw [h.residual_discharges]
    exact hattested.discharges_disposed hdisposed

/-- The second transition repeats the evidence of the first and consumes nothing. -/
theorem Replayable.reopened (hr : Replayable sha db head state expected) (hattested : Attested db state)
    (h : Written sha head expected successor .HumanDisposition (.HumanDisposition artifact verification)
      recorded_at_unix_ms db db')
    (hevidence : validate_replayed_evidence sha expected successor .HumanDisposition
      (.HumanDisposition artifact verification) = .ok ())
    (hdecisions : new_decisions expected successor = [])
    (hknown : state.human_artifacts[artifact.decision]? =
      some (human_row artifact verification recorded_at_unix_ms).2) :
    ∃ next state', Replayable sha db' next state' successor ∧ Attested db' state' := by
  have hsame : state.human_artifacts.insert artifact.decision
      (human_row artifact verification recorded_at_unix_ms).2 = state.human_artifacts := by
    refine ExtTreeMap.ext_getElem? fun key => ?_
    rw [ExtTreeMap.getElem?_insert]
    split
    · next hkey => rw [← compare_eq_iff_eq.mp hkey, hknown]
    · rfl
  refine hr.unconsumed hattested h hevidence hdecisions ?_
  refine (replay_artifact_eq_ok rfl fun prior hprior => ?_).trans (congrArg Except.ok hsame)
  exact Option.some.inj (hprior.symm.trans hknown)

end Disposition

end ag_store

import AgentGovernor.Store.Extends

open ag_primitives Checked ag_campaign ag_campaign.governed Relational Transaction

namespace ag_store

/-- The evidence of the transitions a call commits. -/
def StoreCall.evidence : StoreCall → Option CampaignTransitionEvidenceV1
  | .commit _ _ _ _ => some .None
  | .commit_human_disposition _ effect artifact _ =>
    some (.HumanDisposition artifact (effect_verification effect))
  | .commit_governed_intervention _ _ _ verified _ => some (.GovernedIntervention verified)
  | .record_refusal _ _ => none

/-- The disposition a call commits. -/
def StoreCall.disposition : StoreCall → Option HumanDispositionV1
  | .commit_human_disposition _ _ artifact _ => some artifact
  | _ => none

/-- A row of `human_dispositions` is indexed by the artifact it holds. -/
def Indexed (row : HumanDecisionIdV1 × ExpectedHumanRow) : Prop :=
  row.1 = row.2.artifact_jcs.decision ∧ row.2.nonce = row.2.artifact_jcs.nonce

/-- A row that an intervention is the evidence of stands where the intervention was
aimed at. -/
def StoredTransitionRow.Aimed (sha : Sha256) (row : StoredTransitionRow) : Prop :=
  ∀ verified, row.evidence = .GovernedIntervention verified →
    verified.request.validate_integrity sha = .ok () ∧
      verified.request.target_state_digest = row.predecessor

/-- What a call that succeeds adds to the journal and to the dispositions. -/
structure StoreCall.Appends (sha : Sha256) (call : StoreCall) (db db' : Db)
    (added : List (CampaignId × StoredTransitionRow)) (disposed : List (HumanDecisionIdV1 × ExpectedHumanRow)) :
    Prop where
  transitions : db'.transitions.rows = db.transitions.rows ++ added
  evidence : ∀ row ∈ added, call.evidence = some row.2.evidence
  aimed : ∀ row ∈ added, row.2.Aimed sha
  dispositions : db'.human_dispositions.rows = db.human_dispositions.rows ++ disposed
  artifacts : disposed.map (fun row => row.2.artifact_jcs) = call.disposition.toList
  indexed : ∀ row ∈ disposed, Indexed row

section Appends

variable {sha : Sha256} {head : CampaignHeadRow} {call : StoreCall}
  {receipts : List CampaignCommitReceiptV1} {db db' : Db}

theorem aimed_of_evidence {row : StoredTransitionRow} {evidence : CampaignTransitionEvidenceV1}
    (hevidence : row.evidence = evidence) (hother : ∀ verified, evidence ≠ .GovernedIntervention verified) :
    row.Aimed sha := by
  intro verified h
  exact absurd (hevidence.symm.trans h) (hother verified)

/-- Every call that succeeds only appends, with its own evidence. -/
theorem StoreCall.appends (hhead : db.campaigns.rows = [head])
    (h : Returns (call.execute sha) db receipts db') :
    ∃ added disposed, call.Appends sha db db' added disposed := by
  cases call with
  | commit expected successor kind recorded_at_unix_ms =>
    obtain ⟨receipt, hcommit, rfl⟩ := returns_bind_pure_iff.mp h
    obtain ⟨_, hwritten, rfl⟩ := (CampaignStoreV1.returns_commit_iff hhead).mp hcommit
    exact ⟨_, [], hwritten.transitions, List.forall_mem_singleton.mpr rfl,
      List.forall_mem_singleton.mpr (aimed_of_evidence rfl (by rintro _ ⟨⟩)),
      by simp [hwritten.human_dispositions], rfl, by simp⟩
  | commit_governed_intervention expected successor kind verified recorded_at_unix_ms =>
    obtain ⟨receipt, hcommit, rfl⟩ := returns_bind_pure_iff.mp h
    obtain ⟨hvalid, hwritten, rfl⟩ :=
      (CampaignStoreV1.returns_commit_governed_intervention_iff hhead).mp hcommit
    simp only [validate_governed_intervention_evidence, ok_rules] at hvalid
    obtain ⟨hintegrity, ⟨_, _, htarget⟩, _⟩ := hvalid
    refine ⟨_, [], hwritten.transitions, List.forall_mem_singleton.mpr rfl, List.forall_mem_singleton.mpr ?_,
      by simp [hwritten.human_dispositions], rfl, by simp⟩
    rintro _ ⟨⟩
    exact ⟨hintegrity, htarget⟩
  | commit_human_disposition expected effect artifact recorded_at_unix_ms =>
    obtain ⟨_, disposed, middle, hdisposed, hfirst, hsecond⟩ :=
      CampaignStoreV1.returns_commit_human_disposition hhead h
    have hevidence : ∀ row : CampaignId × StoredTransitionRow,
        row.2.evidence = .HumanDisposition artifact (effect_verification effect) → row.2.Aimed sha :=
      fun row hrow => aimed_of_evidence hrow (by rintro _ ⟨⟩)
    have htransitions := hfirst.transitions
    rw [hdisposed.transitions] at htransitions
    cases heffect : effect_second effect with
    | none =>
      rw [heffect] at hsecond
      obtain ⟨rfl, rfl⟩ := hsecond
      exact ⟨_, _, htransitions, List.forall_mem_singleton.mpr rfl, List.forall_mem_singleton.mpr (hevidence _ rfl),
        hfirst.human_dispositions ▸ hdisposed.human_dispositions, rfl, List.forall_mem_singleton.mpr ⟨rfl, rfl⟩⟩
    | some second =>
      rw [heffect] at hsecond
      obtain ⟨next, hnext, hopened, rfl⟩ := hsecond
      have hlast := hopened.transitions
      rw [htransitions, List.append_assoc] at hlast
      refine ⟨_, [human_row artifact (effect_verification effect) recorded_at_unix_ms], hlast, ?_, ?_, ?_, rfl,
        List.forall_mem_singleton.mpr ⟨rfl, rfl⟩⟩
      · intro row hrow
        rcases List.mem_pair.mp hrow with rfl | rfl <;> rfl
      · intro row hrow
        rcases List.mem_pair.mp hrow with rfl | rfl <;> exact hevidence _ rfl
      · rw [hopened.human_dispositions, hfirst.human_dispositions]
        exact hdisposed.human_dispositions
  | record_refusal refusal recorded_at_unix_ms =>
    obtain ⟨_, hrefusal, rfl⟩ := returns_bind_pure_iff.mp h
    obtain ⟨_, _, _, _, refusals, _, rfl⟩ := returns_record_refusal hrefusal
    exact ⟨[], [], by simp, by simp, by simp, by simp, rfl, by simp⟩

end Appends

end ag_store

import AgentGovernor.Store.Reachable

open ag_primitives Checked ag_campaign ag_campaign.governed Relational Transaction

namespace ag_store

/-- A store that replays: some head, replay state and last snapshot account for
every table. -/
def Replays (sha : Sha256) (db : Db) : Prop :=
  ∃ head state last, Replayable sha db head state last ∧ Attested db state

theorem Replays.replay_store {sha : Sha256} {db : Db} (h : Replays sha db) :
    ∃ report, replay_store sha db = .ok report := by
  obtain ⟨head, state, last, hr, hattested⟩ := h
  exact ⟨_, replay_store_eq_ok_iff.mpr ⟨head, state, last, hr.verified hattested, rfl⟩⟩

section Bindings

variable {sha : Sha256} {expected first second : OccurrenceSnapshotV1} {artifact : HumanDispositionV1}

/-- What a disposition was bound to before it was written. -/
structure HumanBound (sha : Sha256) (expected first : OccurrenceSnapshotV1) (artifact : HumanDispositionV1) :
    Prop where
  campaign : artifact.campaign = expected.key.campaign
  halted_state_digest : artifact.halted_state_digest = expected.state_digest
  appended : exactly_one_appended expected.state.metadata.used_human_decisions
    first.state.metadata.used_human_decisions
  decision : first.state.metadata.used_human_decisions.getLast? = some artifact.decision
  evidenced : validate_human_transition_evidence expected first artifact = .ok ()

theorem human_bound_of_ok {second : Option OccurrenceSnapshotV1}
    (h : validate_human_store_binding sha expected first second artifact = .ok ()) :
    HumanBound sha expected first artifact ∧ ∀ opened ∈ second,
      first.program_counter = .Halted ∧ opened.program_counter = .ObservationRequired ∧
      validate_human_transition_evidence first opened artifact = .ok () := by
  unfold validate_human_store_binding at h
  simp only [ok_rules] at h
  obtain ⟨_, ⟨hcampaign, _, hdigest⟩, ⟨hlength, hstart, hlast⟩, hevidence, h⟩ := h
  refine ⟨⟨hcampaign, hdigest, ⟨hlength, hstart⟩, hlast, hevidence⟩, ?_⟩
  rintro opened rfl
  cases hdisposition : artifact.disposition with
  | ReturnToObservation | ReplaceProgram =>
    simp only [hdisposition, ok_rules] at h
    exact ⟨h.1.1, h.1.2, h.2.2⟩
  | ExactResidualDisposition | Terminate =>
    rw [hdisposition] at h
    exact absurd h throw_ne_ok

/-- The evidence of a first transition is taken by replay. -/
theorem HumanBound.replayed (h : HumanBound sha expected first artifact)
    (verification : HumanVerificationRefV1) :
    validate_replayed_evidence sha expected first .HumanDisposition
      (.HumanDisposition artifact verification) = .ok () := by
  simp only [validate_replayed_evidence, ok_rules]
  exact ⟨h.campaign, fun hother => hother.1 h.halted_state_digest, h.evidenced⟩

end Bindings

section Steps

variable {sha : Sha256} {head : CampaignHeadRow} {expected successor last : OccurrenceSnapshotV1}
  {kind : CampaignTransitionKindV1} {evidence : CampaignTransitionEvidenceV1} {db db' : Db}
  {state : ReplayState} {recorded_at_unix_ms : UInt64}

variable (hsha : sha.CollisionFree)

include hsha

/-- A transition outside of a disposition that renews no halt. -/
theorem Replayable.transition (hr : Replayable sha db head state last) (hattested : Attested db state)
    (h : Written sha head expected successor kind evidence recorded_at_unix_ms db db')
    (hevidence : validate_replayed_evidence sha expected successor kind evidence = .ok ())
    (hkind : kind ≠ .HumanDisposition)
    (hplain : ∀ artifact verification, evidence ≠ .HumanDisposition artifact verification)
    (hrenews : ¬ (expected.program_counter = .Halted ∧ successor.program_counter = .Halted)) :
    Replays sha db' := by
  obtain rfl := hr.expected_eq hsha h.accepted
  have hdecisions : new_decisions expected successor = [] := by
    refine new_decisions_of_legal h.accepted.legal.2.2.2 fun hhalted => absurd ?_ hrenews
    exact ⟨hhalted, valid_of_halted h.accepted.described hkind hhalted⟩
  have hartifacts : replay_artifact state.human_artifacts
      (head.transition sha expected successor kind evidence recorded_at_unix_ms) = .ok state.human_artifacts := by
    unfold replay_artifact
    split
    · next artifact verification hhuman => exact absurd hhuman (hplain artifact verification)
    · rfl
  obtain ⟨next, state', hnext⟩ := hr.unconsumed hattested h hevidence hdecisions hartifacts
  exact ⟨next, state', successor, hnext⟩

variable (hreplays : Replays sha db)

include hreplays

theorem replays_commit {receipt : CampaignCommitReceiptV1}
    (h : Returns (CampaignStoreV1.commit sha expected successor kind recorded_at_unix_ms) db receipt db')
    (hrenews : ¬ (expected.program_counter = .Halted ∧ successor.program_counter = .Halted)) :
    Replays sha db' := by
  obtain ⟨head, state, last, hr, hattested⟩ := hreplays
  obtain ⟨⟨hhuman, _⟩, hwritten, _⟩ := (CampaignStoreV1.returns_commit_iff hr.linear.sole).mp h
  refine hr.transition hsha hattested hwritten ?_ hhuman (by rintro _ _ ⟨⟩) hrenews
  cases kind with
  | HumanDisposition => exact absurd rfl hhuman
  | _ => rfl

theorem replays_commit_governed_intervention
    {verified : VerifiedGovernedInterventionV1} {receipt : CampaignCommitReceiptV1}
    (h : Returns (CampaignStoreV1.commit_governed_intervention sha expected successor kind verified
      recorded_at_unix_ms) db receipt db')
    (hrenews : ¬ (expected.program_counter = .Halted ∧ successor.program_counter = .Halted)) :
    Replays sha db' := by
  obtain ⟨head, state, last, hr, hattested⟩ := hreplays
  obtain ⟨hverified, hwritten, _⟩ :=
    (CampaignStoreV1.returns_commit_governed_intervention_iff hr.linear.sole).mp h
  have hhuman : kind ≠ .HumanDisposition := by
    rintro rfl
    simp only [validate_governed_intervention_evidence, ok_rules, Bool.not_eq_false] at hverified
    obtain ⟨_, _, hexact⟩ := hverified
    unfold GovernedInterventionClassV1.exact at hexact
    split at hexact <;> simp at hexact
  refine hr.transition hsha hattested hwritten ?_ hhuman (by rintro _ _ ⟨⟩) hrenews
  cases kind with
  | HumanDisposition => exact absurd rfl hhuman
  | _ => exact hverified

theorem replays_commit_human_disposition
    {effect : HumanDispositionEffectV1} {artifact : HumanDispositionV1} {receipts : List CampaignCommitReceiptV1}
    (h : Returns (CampaignStoreV1.commit_human_disposition sha expected effect artifact recorded_at_unix_ms)
      db receipts db') : Replays sha db' := by
  obtain ⟨head, state, last, hr, hattested⟩ := hreplays
  obtain ⟨hbinding, recorded, middle, hdisposed, hfirst, hrest⟩ :=
    CampaignStoreV1.returns_commit_human_disposition hr.linear.sole h
  obtain ⟨hbound, hsecond⟩ := human_bound_of_ok hbinding
  obtain rfl := hr.expected_eq hsha hfirst.accepted
  obtain ⟨_, hintegrity, hprior, hlegal⟩ := hfirst.accepted.legal
  obtain ⟨hdecisions, hused⟩ :=
    new_decisions_of_appended hbound.appended hbound.decision (used_nodup_of_integrity hintegrity)
  have hunused : artifact.decision ∉ expected.state.metadata.used_human_decisions := by
    have hnodup := used_nodup_of_integrity hintegrity
    rw [hused, List.nodup_append] at hnodup
    exact fun hmem => hnodup.2.2 _ hmem _ (List.mem_singleton_self _) rfl
  obtain ⟨state', hr', hattested', hknown⟩ := (hr.disposed hdisposed).decided hattested hdisposed hfirst
    (hbound.replayed _) hdecisions hunused
  cases heffect : effect_second effect with
  | none =>
    rw [heffect] at hrest
    obtain ⟨rfl, _⟩ := hrest
    exact ⟨_, state', _, hr', hattested'⟩
  | some opened =>
    rw [heffect] at hrest
    obtain ⟨next, hnext, hopened, _⟩ := hrest
    obtain ⟨hhalted, hcounter, hevidence⟩ := hsecond opened heffect
    obtain rfl : next = _ := by simpa using hnext.symm.trans hfirst.campaigns
    have hnone : new_decisions (effect_first effect) opened = [] :=
      new_decisions_of_legal hopened.accepted.legal.2.2.2 fun _ => hcounter
    -- the second transition starts from the snapshot the first one halted at
    have hreplayed : validate_replayed_evidence sha (effect_first effect) opened .HumanDisposition
        (.HumanDisposition artifact (effect_verification effect)) = .ok () := by
      simp only [validate_replayed_evidence, ok_rules]
      refine ⟨hbound.campaign.trans hfirst.accepted.campaign, fun hother => hother.2 ⟨?_, hhalted, hcounter⟩, hevidence⟩
      rw [hbound.halted_state_digest, hprior]
    obtain ⟨last', state'', hr'', hattested''⟩ := hr'.reopened hattested' hopened hreplayed hnone hknown
    exact ⟨last', state'', opened, hr'', hattested''⟩

omit hsha

/-- A refusal is recorded at the last state of the journal. -/
theorem replays_record_refusal {refusal : RefusalOutcomeV1} {refusal_id : Digest}
    (h : Returns (CampaignStoreV1.record_refusal sha refusal recorded_at_unix_ms) db refusal_id db') :
    Replays sha db' := by
  obtain ⟨head, state, last, hr, hattested⟩ := hreplays
  obtain ⟨snapshot, hcurrent, hkey, hdigest, refusals, hrows, rfl⟩ := returns_record_refusal h
  obtain rfl := hr.current_eq hcurrent
  have hl := hr.linear
  have hlinear : Linear { db with refusals } head :=
    ⟨hl.sole, hl.campaign, hl.chain, hl.last, hl.event_count, hl.revision⟩
  have hnew : verify_refusal sha head.campaign ((db.journal head.campaign).map StoredTransitionRow.successor)
      (refusal_row sha refusal recorded_at_unix_ms) = .ok () := by
    obtain ⟨row, hrow, hstands⟩ := hl.last
    simp only [verify_refusal, ok_rules]
    refine ⟨rfl, ?_, rfl, rfl, rfl, ?_⟩
    · exact (congrArg OccurrenceKeyV1.campaign hkey).trans hr.campaign
    · refine List.mem_map.mpr ⟨row, List.mem_of_getLast? hrow, ?_⟩
      rw [hstands.state_digest, ← hr.state_digest, ← hdigest]
      rfl
  refine ⟨head, state, snapshot, { hr with linear := hlinear, refusals := ?_ },
    ⟨hattested.artifacts, hattested.decisions, hattested.discharges⟩⟩
  have hold := forM_eq_ok_iff.mp hr.refusals
  refine forM_eq_ok_iff.mpr fun row hrow => ?_
  rcases hrows with hsame | hadded
  · exact hold row (hsame ▸ hrow)
  · rcases List.mem_append.mp (hadded ▸ hrow) with hrow | hrow
    · exact hold row hrow
    · rw [List.mem_singleton.mp hrow]
      exact hnew

end Steps

section Run

variable {sha : Sha256} {db db' : Db}

/-- A call keeps a store replayable, whether it is refused or not, unless it renews
a halt. -/
theorem StoreCall.replays (hsha : sha.CollisionFree) (call : StoreCall) (hrenews : ¬ call.RenewsHalt)
    (hreplays : Replays sha db) : Replays sha (call.execute sha db).2 := by
  rcases (call.atomic sha).cases db with hsame | ⟨receipts, hresult⟩
  · rwa [hsame]
  · cases call with
    | commit expected successor kind =>
      obtain ⟨_, hcommit, _⟩ := returns_bind_pure_iff.mp hresult
      exact replays_commit hsha hreplays hcommit hrenews
    | commit_human_disposition expected effect artifact =>
      exact replays_commit_human_disposition hsha hreplays hresult
    | commit_governed_intervention expected successor kind verified =>
      obtain ⟨_, hcommit, _⟩ := returns_bind_pure_iff.mp hresult
      exact replays_commit_governed_intervention hsha hreplays hcommit hrenews
    | record_refusal refusal =>
      obtain ⟨_, hrecord, _⟩ := returns_bind_pure_iff.mp hresult
      exact replays_record_refusal hreplays hrecord

/-- The store after a sequence of calls, some of which may have been refused. -/
def StoreCall.run (sha : Sha256) (db : Db) (calls : List StoreCall) : Db :=
  calls.foldl (fun db call => (call.execute sha db).2) db

theorem StoreCall.run_cons {call : StoreCall} {receipts : List CampaignCommitReceiptV1} {calls : List StoreCall}
    (h : Returns (call.execute sha) db receipts db') :
    StoreCall.run sha db (call :: calls) = StoreCall.run sha db' calls := by
  rw [StoreCall.run, List.foldl_cons, show call.execute sha db = _ from h]
  rfl

theorem StoreCall.run_replays (hsha : sha.CollisionFree) {calls : List StoreCall}
    (hcalls : ∀ call ∈ calls, ¬ call.RenewsHalt) (hreplays : Replays sha db) :
    Replays sha (StoreCall.run sha db calls) := by
  induction calls generalizing db with
  | nil => exact hreplays
  | cons call rest ih =>
    have hfirst := call.replays hsha (hcalls call List.mem_cons_self) hreplays
    exact ih (fun other hmem => hcalls other (List.mem_cons_of_mem _ hmem)) hfirst

end Run

end ag_store

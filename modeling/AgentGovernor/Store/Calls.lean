import AgentGovernor.Store.Genesis

open ag_primitives Checked ag_campaign ag_campaign.governed Relational Transaction

namespace ag_store

/-- The calls that write to an existing store. -/
inductive StoreCall where
  | commit (expected successor : OccurrenceSnapshotV1) (kind : CampaignTransitionKindV1)
    (recorded_at_unix_ms : UInt64)
  | commit_human_disposition (expected : OccurrenceSnapshotV1) (effect : HumanDispositionEffectV1)
    (artifact : HumanDispositionV1) (recorded_at_unix_ms : UInt64)
  | commit_governed_intervention (expected successor : OccurrenceSnapshotV1)
    (kind : CampaignTransitionKindV1) (verified : VerifiedGovernedInterventionV1)
    (recorded_at_unix_ms : UInt64)
  | record_refusal (refusal : RefusalOutcomeV1) (recorded_at_unix_ms : UInt64)

namespace StoreCall

open CampaignStoreV1 in
/-- The call as a statement, with the receipts of the transitions it commits. -/
def execute (sha : Sha256) : StoreCall → StoreTx (List CampaignCommitReceiptV1)
  | .commit expected successor kind recorded_at_unix_ms => do
    let receipt ← CampaignStoreV1.commit sha expected successor kind recorded_at_unix_ms
    pure [receipt]
  | .commit_human_disposition expected effect artifact recorded_at_unix_ms =>
    CampaignStoreV1.commit_human_disposition sha expected effect artifact recorded_at_unix_ms
  | .commit_governed_intervention expected successor kind verified recorded_at_unix_ms => do
    let receipt ← CampaignStoreV1.commit_governed_intervention sha expected successor kind verified
      recorded_at_unix_ms
    pure [receipt]
  | .record_refusal refusal recorded_at_unix_ms => do
    let _ ← CampaignStoreV1.record_refusal sha refusal recorded_at_unix_ms
    pure []

/-- The snapshot a commit is computed from. -/
def expected : StoreCall → Option OccurrenceSnapshotV1
  | .commit expected _ _ _ => some expected
  | .commit_human_disposition expected _ _ _ => some expected
  | .commit_governed_intervention expected _ _ _ _ => some expected
  | .record_refusal _ _ => none

/-- Every integer of what the call is given is written exactly. The tables keep the
documents of snapshots, artifacts and refusals, and an integer beyond that range reads
back as another one. -/
def Exact : StoreCall → Prop
  | .commit expected successor _ recorded_at_unix_ms =>
    expected.Exact ∧ successor.Exact ∧ recorded_at_unix_ms.toNat ≤ EXACT_MAX
  | .commit_human_disposition expected effect artifact recorded_at_unix_ms =>
    expected.Exact ∧ (effect_first effect).Exact ∧ (∀ opened ∈ effect_second effect, opened.Exact) ∧
      (to_jcs artifact).Exact ∧ recorded_at_unix_ms.toNat ≤ EXACT_MAX
  | .commit_governed_intervention expected successor _ verified recorded_at_unix_ms =>
    expected.Exact ∧ successor.Exact ∧ (to_jcs verified).Exact ∧ recorded_at_unix_ms.toNat ≤ EXACT_MAX
  | .record_refusal refusal recorded_at_unix_ms =>
    (to_jcs refusal).Exact ∧ recorded_at_unix_ms.toNat ≤ EXACT_MAX

end StoreCall

theorem readOnly_current (sha : Sha256) : ReadOnly (CampaignStoreV1.current sha) := by
  unfold CampaignStoreV1.current
  refine readOnly_bind (readOnly_query _) fun snapshot => ?_
  exact readOnly_bind (readOnly_lift _) fun _ => readOnly_pure snapshot

/-- The store loads the snapshot in the row that its head names. -/
theorem returns_current {sha : Sha256} {db : Db} {head : CampaignHeadRow} {current : OccurrenceSnapshotV1}
    (hsole : db.campaigns.rows = [head]) (hintegrity : current.validate_integrity sha = .ok ())
    (hpresent : ∃ row ∈ db.occurrences.rows, row.campaign = head.campaign ∧ row.occurrence = head.occurrence)
    (hrows : ∀ row ∈ db.occurrences.rows, row.campaign = head.campaign → row.occurrence = head.occurrence →
      row.snapshot = current) : Returns (CampaignStoreV1.current sha) db current db := by
  refine returns_query_bind_iff.mpr ⟨current, ok_or_eq_ok_iff.mpr ?_, returns_lift_bind_iff.mpr
    ⟨(), map_err_eq_ok_iff.mpr hintegrity, returns_pure_iff.mpr ⟨rfl, rfl⟩⟩⟩
  let select (row : OccurrenceRow) : Option OccurrenceSnapshotV1 :=
    if row.campaign = head.campaign ∧ row.occurrence = head.occurrence then some row.snapshot else none
  rw [hsole, List.flatMap_singleton]
  change (db.occurrences.rows.filterMap select).head? = some current
  rw [List.head?_filterMap]
  cases hfound : db.occurrences.rows.findSome? select with
  | none =>
    obtain ⟨row, hrow, hkey⟩ := hpresent
    cases (if_pos hkey).symm.trans (List.findSome?_eq_none_iff.mp hfound row hrow)
  | some found =>
    obtain ⟨row, hrow, hselect⟩ := List.exists_of_findSome?_eq_some hfound
    simp only [select, Option.ite_none_right_eq_some, Option.some.injEq] at hselect
    rw [← hselect.2, hrows row hrow hselect.1.1 hselect.1.2]

/-- A call that fails leaves every table unchanged. -/
theorem StoreCall.atomic (sha : Sha256) (call : StoreCall) : Atomic (call.execute sha) := by
  cases call with
  | commit =>
    refine atomic_bind_pure _ (atomic_bind (readOnly_lift _) fun _ => ?_)
    exact atomic_bind (readOnly_lift _) fun _ => atomic_transaction _
  | commit_human_disposition => exact atomic_bind (readOnly_lift _) fun _ => atomic_transaction _
  | commit_governed_intervention =>
    exact atomic_bind_pure _ (atomic_bind (readOnly_lift _) fun _ => atomic_transaction _)
  | record_refusal =>
    refine atomic_bind_pure _ (atomic_bind (readOnly_current sha) fun _ => ?_)
    refine atomic_bind (readOnly_lift _) fun _ => atomic_bind (readOnly_lift _) fun _ => ?_
    exact atomic_bind_pure _ (atomic_transaction _)

section Refusal

variable {sha : Sha256} {refusal : RefusalOutcomeV1} {recorded_at_unix_ms : UInt64} {db db' : Db}

/-- The row of a refusal. -/
def refusal_row (sha : Sha256) (refusal : RefusalOutcomeV1) (recorded_at_unix_ms : UInt64) : RefusalRow :=
  { refusal_id := digest_value sha REFUSAL_DOMAIN_V1 refusal
    campaign := refusal.key.campaign
    occurrence := refusal.key.occurrence
    state_digest := refusal.at_state_digest
    refusal_jcs := refusal
    recorded_at_unix_ms }

/-- A refusal is recorded at the current snapshot, unless it is there already. -/
theorem returns_record_refusal {refusal_id : Digest}
    (h : Returns (CampaignStoreV1.record_refusal sha refusal recorded_at_unix_ms) db refusal_id db') :
    ∃ snapshot, Returns (CampaignStoreV1.current sha) db snapshot db ∧ refusal.key = snapshot.key ∧
      refusal.at_state_digest = snapshot.state_digest ∧
      ∃ refusals, (refusals.rows = db.refusals.rows ∨
          refusals.rows = db.refusals.rows ++ [refusal_row sha refusal recorded_at_unix_ms]) ∧
        { db with refusals } = db' := by
  unfold CampaignStoreV1.record_refusal at h
  obtain ⟨snapshot, _, hcurrent, h⟩ := returns_bind_iff.mp h
  have hread := readOnly_current sha db
  rw [Returns] at hcurrent
  obtain rfl : db = _ := by simpa [hcurrent] using hread.symm
  obtain ⟨_, hbinding, h⟩ := returns_lift_bind_iff.mp h
  rw [reject_eq_ok_iff, not_or, not_not, not_not] at hbinding
  obtain ⟨_, _, h⟩ := returns_lift_bind_iff.mp h
  obtain ⟨_, hinsert, _⟩ := returns_bind_pure_iff.mp h
  refine ⟨snapshot, hcurrent, hbinding.1, hbinding.2, ?_⟩
  obtain ⟨_, hrange, hinsert⟩ := returns_lift_bind_iff.mp (returns_transaction_iff.mp hinsert)
  obtain ⟨_, rfl⟩ := to_i64_eq_ok_iff.mp hrange
  obtain ⟨present, _, hinsert⟩ := returns_query_bind_iff.mp hinsert
  split at hinsert
  · obtain ⟨_, rfl⟩ := returns_pure_iff.mp hinsert
    exact ⟨db.refusals, .inl rfl, rfl⟩
  · obtain ⟨_, refusals, hrefusals, rfl⟩ := returns_insert_into_iff.mp hinsert
    exact ⟨refusals, .inr hrefusals, rfl⟩

end Refusal

end ag_store

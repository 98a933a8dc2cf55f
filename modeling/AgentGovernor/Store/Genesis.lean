import AgentGovernor.Store.Chain

open ag_primitives Checked ag_campaign ag_campaign.governed Relational Transaction

namespace ag_store

section Rows

variable (sha : Sha256) (initial : OccurrenceSnapshotV1) (runtime_profile : Option (String × Jcs))
  (recorded_at_unix_ms : UInt64)

/-- The profile row that a store is created with. -/
def stored_profile : Option StoredRuntimeProfileV1 :=
  runtime_profile.map fun profile =>
    { schema := profile.1
      digest := Digest.hash_domain sha RUNTIME_PROFILE_DIGEST_DOMAIN_V1 (.jcs profile.2)
      canonical_bytes := profile.2 }

/-- The first row of a journal. -/
def genesis_row : StoredTransitionRow :=
  transition_row sha initial.key.campaign none initial .CampaignCreated initial.prior_state_digest
    (.Genesis ((stored_profile sha runtime_profile).map StoredRuntimeProfileV1.digest))
    (genesis_event sha initial.key.campaign) recorded_at_unix_ms

/-- The first head of a campaign. -/
def genesis_head : CampaignHeadRow :=
  { campaign := initial.key.campaign
    occurrence := initial.key.occurrence
    state_digest := initial.state_digest
    revision := 1
    event_count := 1
    event_head := (genesis_row sha initial runtime_profile recorded_at_unix_ms).event }

/-- The tables of a new store. -/
structure Created (db : Db) : Prop where
  integrity : initial.validate_integrity sha = .ok ()
  program_counter : initial.program_counter = .ObservationRequired
  prior_occurrence : initial.prior_occurrence = none
  token : ∀ profile ∈ runtime_profile, is_token profile.1
  recorded_at : recorded_at_unix_ms ≤ I64_MAX
  profile : db.runtime_profile = stored_profile sha runtime_profile
  campaigns : db.campaigns.rows = [genesis_head sha initial runtime_profile recorded_at_unix_ms]
  occurrences : db.occurrences.rows = [occurrence_row initial 1]
  transitions : db.transitions.rows =
    [(initial.key.campaign, genesis_row sha initial runtime_profile recorded_at_unix_ms)]
  spends : db.ag_authorization_spends = .empty
  attempts : db.docket_attempts = .empty
  settlements : db.docket_settlements = .empty
  human_dispositions : db.human_dispositions = .empty
  residual_discharges : db.residual_discharges = .empty
  refusals : db.refusals = .empty

end Rows

variable {sha : Sha256} {initial : OccurrenceSnapshotV1} {runtime_profile : Option (String × Jcs)}
  {recorded_at_unix_ms : UInt64} {db : Db}

theorem returns_write_runtime_profile_iff {before after : Db} {digest : Option Digest} :
    Returns (write_runtime_profile sha runtime_profile) before digest after ↔
      (∀ profile ∈ runtime_profile, is_token profile.1) ∧
      (stored_profile sha runtime_profile).map StoredRuntimeProfileV1.digest = digest ∧
      (match stored_profile sha runtime_profile with
        | some profile => { before with runtime_profile := some profile }
        | none => before) = after := by
  cases runtime_profile with
  | none => simp [write_runtime_profile, stored_profile, returns_pure_iff]
  | some profile =>
    obtain ⟨schema, document⟩ := profile
    simp only [write_runtime_profile, returns_lift_bind_iff, ok_rules]
    simp only [returns_bind_iff, returns_update_iff, returns_pure_iff, Except.ok.injEq, Prod.mk.injEq,
      stored_profile, Option.map_some, Option.mem_some_iff, forall_eq']
    refine and_congr_right fun _ => ?_
    constructor
    · rintro ⟨_, _, ⟨_, rfl⟩, rfl, rfl⟩
      exact ⟨rfl, rfl⟩
    · rintro ⟨rfl, rfl⟩
      exact ⟨(), _, ⟨trivial, rfl⟩, rfl, rfl⟩

/-- Creating a store writes the first row of every table it needs. -/
theorem created_of_write_genesis {u : Unit} (hintegrity : initial.validate_integrity sha = .ok ())
    (hcounter : initial.program_counter = .ObservationRequired) (hprior : initial.prior_occurrence = none)
    (h : Returns (write_genesis sha initial runtime_profile recorded_at_unix_ms) Db.empty u db) :
    Created sha initial runtime_profile recorded_at_unix_ms db := by
  unfold write_genesis at h
  obtain ⟨_, profiled, hprofile, h⟩ := returns_bind_iff.mp h
  obtain ⟨htoken, rfl, hprofiled⟩ := returns_write_runtime_profile_iff.mp hprofile
  have hprofiled : profiled = { Db.empty with runtime_profile := stored_profile sha runtime_profile } := by
    rw [← hprofiled]
    cases stored_profile sha runtime_profile <;> rfl
  subst hprofiled
  obtain ⟨_, _, hcampaign, h⟩ := returns_bind_iff.mp h
  obtain ⟨_, campaigns, hcampaigns, rfl⟩ := returns_insert_into_iff.mp hcampaign
  obtain ⟨_, _, hoccurrence, h⟩ := returns_bind_iff.mp h
  obtain ⟨_, hrevision, hoccurrence⟩ := returns_lift_bind_iff.mp hoccurrence
  obtain ⟨_, rfl⟩ := to_i64_eq_ok_iff.mp hrevision
  obtain ⟨_, occurrences, hoccurrences, rfl⟩ := returns_insert_into_iff.mp hoccurrence
  obtain ⟨_, hrecorded, h⟩ := returns_lift_bind_iff.mp h
  obtain ⟨_, transitions, htransitions, rfl⟩ := returns_insert_into_iff.mp h
  exact ⟨hintegrity, hcounter, hprior, htoken, (to_i64_eq_ok_iff.mp hrecorded).1, rfl, hcampaigns,
    hoccurrences, htransitions, rfl, rfl, rfl, rfl, rfl, rfl⟩

variable (h : Created sha initial runtime_profile recorded_at_unix_ms db)

include h

theorem write_genesis_of_created {u : Unit} :
    Returns (write_genesis sha initial runtime_profile recorded_at_unix_ms) Db.empty u db := by
  refine returns_bind_iff.mpr ⟨_, { Db.empty with runtime_profile := stored_profile sha runtime_profile },
    returns_write_runtime_profile_iff.mpr ⟨h.token, rfl, ?_⟩, ?_⟩
  · cases stored_profile sha runtime_profile <;> rfl
  refine returns_bind_iff.mpr ⟨(), _, returns_insert_into_iff.mpr
    ⟨trivial, db.campaigns, h.campaigns, rfl⟩, ?_⟩
  have hcampaign : ∃ row ∈ db.campaigns.rows, row.campaign = initial.key.campaign := by
    rw [h.campaigns]
    exact ⟨_, List.mem_singleton_self _, rfl⟩
  refine returns_bind_iff.mpr ⟨(), _, returns_lift_bind_iff.mpr ⟨1, rfl, returns_insert_into_iff.mpr
    ⟨hcampaign, db.occurrences, h.occurrences, rfl⟩⟩, ?_⟩
  refine returns_lift_bind_iff.mpr ⟨_, to_i64_eq_ok_iff.mpr ⟨h.recorded_at, rfl⟩, ?_⟩
  refine returns_insert_into_iff.mpr ⟨hcampaign, db.transitions, h.transitions, ?_⟩
  exact Db.ext h.profile.symm rfl rfl rfl h.spends.symm h.attempts.symm h.settlements.symm
    h.human_dispositions.symm h.residual_discharges.symm h.refusals.symm

omit h in
/-- A store that was created holds its genesis and replays. -/
theorem create_eq_ok_iff :
    CampaignStoreV1.create_with_runtime_profile sha initial runtime_profile recorded_at_unix_ms = .ok db ↔
      Created sha initial runtime_profile recorded_at_unix_ms db ∧
      ∃ report, CampaignStoreV1.replay sha db = .ok report := by
  simp only [CampaignStoreV1.create_with_runtime_profile, ok_rules, Bool.not_eq_true, Option.isSome_eq_false_iff,
    Option.isNone_iff_eq_none]
  constructor
  · rintro ⟨hintegrity, ⟨hcounter, hprior⟩, hresult, report, hreport, rfl⟩
    refine ⟨created_of_write_genesis (u := ()) hintegrity hcounter hprior ?_, report, hreport⟩
    exact returns_transaction_iff.mp (Prod.ext hresult rfl)
  · rintro ⟨h, report, hreport⟩
    have hwritten := returns_transaction_iff.mpr (write_genesis_of_created (u := ()) h)
    rw [Returns] at hwritten
    rw [hwritten]
    exact ⟨h.integrity, ⟨h.program_counter, h.prior_occurrence⟩, rfl, report, hreport, rfl⟩

theorem Created.journal :
    db.journal initial.key.campaign = [genesis_row sha initial runtime_profile recorded_at_unix_ms] := by
  simp [Db.journal, h.transitions]

theorem Created.linear :
    Linear db (genesis_head sha initial runtime_profile recorded_at_unix_ms) := by
  have hjournal := h.journal
  refine ⟨h.campaigns, ?_, ?_, ⟨_, ?_, rfl, rfl, rfl⟩, ?_, rfl⟩
  · intro row hrow
    rw [h.transitions, List.mem_singleton] at hrow
    rw [hrow]
    rfl
  · change (db.journal initial.key.campaign).IsChain _
    rw [hjournal]
    exact .singleton _
  · change (db.journal initial.key.campaign).getLast? = _
    rw [hjournal]
    rfl
  · change _ = (db.journal initial.key.campaign).length
    rw [hjournal]
    rfl

end ag_store

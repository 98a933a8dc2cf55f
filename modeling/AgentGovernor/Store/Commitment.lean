import AgentGovernor.Store.Progress

open Std (ExtTreeMap)
open ag_primitives Checked ag_campaign ag_campaign.governed Relational HashChain Transaction Windows

namespace ag_store

section Rows

/-- Every integer that the digests of the row cover is written exactly. -/
structure StoredTransitionRow.Exact (row : StoredTransitionRow) : Prop where
  snapshot : row.snapshot.Exact
  evidence : (to_jcs row.evidence).Exact
  recorded_at_unix_ms : row.recorded_at_unix_ms.toNat ≤ EXACT_MAX

variable {sha : Sha256} {campaign campaign' : CampaignId} {event event' : Digest}
  {row row' : StoredTransitionRow}

/-- The only integer of an event is its recorded time. -/
theorem StoreEventDigestInputV1.exact {input : StoreEventDigestInputV1}
    (h : input.recorded_at_unix_ms.toNat ≤ EXACT_MAX) : (to_jcs input).Exact := by
  refine ⟨trivial, trivial, trivial, trivial, h, ?_, trivial, trivial, trivial, trivial⟩
  cases input.source_occurrence <;> trivial

/-- Sound snapshots that are written exactly are determined by their digest. -/
theorem eq_of_written_state_digest (hsha : sha.CollisionFree) {left right : OccurrenceSnapshotV1}
    (hleft : left.validate_integrity sha.over_jcs = .ok ()) (hright : right.validate_integrity sha.over_jcs = .ok ())
    (hexact : left.Exact) (hexact' : right.Exact) (hdigest : left.state_digest = right.state_digest) :
    left = right := by
  obtain ⟨_, hl, _⟩ := validate_integrity_eq_ok_iff.mp hleft
  obtain ⟨_, hr, _⟩ := validate_integrity_eq_ok_iff.mp hright
  have hdocument : ∀ {snapshot : OccurrenceSnapshotV1}, snapshot.Exact →
      (to_jcs (⟨snapshot.prior_state_digest, snapshot.state⟩ : StateDigestInputV1)).Exact :=
    fun h => ⟨trivial, h, trivial⟩
  have hinput := (digest_value_over_jcs_inj hsha (hdocument hexact) (hdocument hexact')).mp
    (hl.trans (hdigest.trans hr.symm))
  rw [StateDigestInputV1.mk.injEq] at hinput
  cases left
  cases right
  simp_all

variable (hsha : sha.CollisionFree)

include hsha

/-- The event digest of a bound row that is written exactly determines the campaign and
every column, those that are in it by digest only included. -/
theorem StoredTransitionRow.Bound.unique (h : row.Bound sha.over_jcs campaign event)
    (h' : row'.Bound sha.over_jcs campaign' event') (hexact : row.Exact) (hexact' : row'.Exact)
    (hevent : row.event = row'.event) : campaign = campaign' ∧ row = row' := by
  have hinput := hevent
  rw [h.event, h'.event] at hinput
  have hinput := (digest_value_over_jcs_inj hsha (StoreEventDigestInputV1.exact hexact.recorded_at_unix_ms)
    (StoreEventDigestInputV1.exact hexact'.recorded_at_unix_ms)).mp hinput
  simp only [StoreEventDigestInputV1.mk.injEq] at hinput
  obtain ⟨hcampaign, hsource, hoccurrence, hkind, hpredecessor, hsuccessor, hevidence, hprevious, htime⟩ := hinput
  have hsnapshot : row.snapshot = row'.snapshot :=
    eq_of_written_state_digest hsha h.integrity h'.integrity hexact.snapshot hexact'.snapshot
      (by rw [← h.successor, ← h'.successor, hsuccessor])
  have hevidences : row.evidence = row'.evidence := by
    rw [h.evidence_digest, h'.evidence_digest] at hevidence
    exact (digest_value_over_jcs_inj hsha hexact.evidence hexact'.evidence).mp hevidence
  refine ⟨hcampaign, ?_⟩
  cases row
  cases row'
  simp_all

/-- No event of a bound row is where a campaign starts. -/
theorem StoredTransitionRow.Bound.ne_genesis (h : row.Bound sha.over_jcs campaign event) (other : CampaignId) :
    row.event ≠ genesis_event sha.over_jcs other := by
  rw [h.event]
  intro hgenesis
  have hpreimage := hsha hgenesis
  simp only [Preimage.written, Preimage.framed.injEq] at hpreimage
  exact absurd hpreimage.1 (by decide)

end Rows

section Current

variable {sha : Sha256} {db : Db} {head : CampaignHeadRow} {state : ReplayState} {last : OccurrenceSnapshotV1}

/-- The last snapshot of the journal is the latest of its occurrence. -/
theorem Verified.latest (h : Verified sha db head state last) :
    last.validate_integrity sha = .ok () ∧ last.key.campaign = head.campaign ∧
      state.latest_occurrences[head.occurrence]? = some last := by
  rcases replay_rows_cases h.replayed with ⟨hempty, _⟩ | ⟨front, row, middle, _, _, hrow⟩
  · exact absurd hempty h.nonempty
  · obtain ⟨hbound, _, _, _, _, rfl⟩ := replay_row_eq_ok_iff.mp hrow
    obtain rfl : row.snapshot = last := Option.some.inj h.head_verified.last_eq
    refine ⟨hbound.integrity, hbound.snapshot_campaign, ?_⟩
    change (middle.latest_occurrences.insert row.successor_occurrence row.snapshot)[head.occurrence]? = _
    rw [← h.head_verified.occurrence, hbound.successor_occurrence]
    exact ExtTreeMap.getElem?_insert_self

/-- The materialized occurrences are the latest snapshots, and all of them. -/
theorem materialized_of_verified {campaign : CampaignId}
    {latest : ExtTreeMap OccurrenceId OccurrenceSnapshotV1}
    (h : verify_occurrence_materialization db campaign latest = .ok ()) :
    (∀ row ∈ db.occurrences.rows, row.campaign = campaign → latest[row.occurrence]? = some row.snapshot) ∧
    ∀ occurrence ∈ latest, ∃ row ∈ db.occurrences.rows, row.campaign = campaign ∧
      row.occurrence = occurrence := by
  have hmem : ∀ row, row ∈ sort_by_key OccurrenceRow.occurrence
      (db.occurrences.rows.filter fun row => row.campaign = campaign) ↔
        row ∈ db.occurrences.rows ∧ row.campaign = campaign := by
    intro row
    rw [(sort_by_key_perm _ _).mem_iff, List.mem_filter, decide_eq_true_eq]
  simp only [verify_occurrence_materialization, ok_rules] at h
  obtain ⟨hrows, hkeys⟩ := h
  refine ⟨fun row hrow hcampaign => ?_, fun occurrence hoccurrence => ?_⟩
  · have hverified := hrows row ((hmem row).mpr ⟨hrow, hcampaign⟩)
    simp only [verify_occurrence, ok_rules] at hverified
    obtain ⟨snapshot, hlatest, hsnapshot, _⟩ := hverified
    rw [hlatest, hsnapshot]
  · have hkey : occurrence ∈ latest.keys.toFinset := List.mem_toFinset.mpr (mem_keys_iff.mpr hoccurrence)
    rw [← hkeys, List.mem_toFinset, List.mem_map] at hkey
    obtain ⟨row, hrow, hsame⟩ := hkey
    exact ⟨row, ((hmem row).mp hrow).1, ((hmem row).mp hrow).2, hsame⟩

/-- A verified store reads its last snapshot as the current one. -/
theorem Verified.current (h : Verified sha db head state last) :
    Returns (CampaignStoreV1.current sha) db last db := by
  obtain ⟨hintegrity, _, hlatest⟩ := h.latest
  obtain ⟨hsnapshots, hcomplete⟩ := materialized_of_verified h.tables_verified.occurrences
  have hmem : head.occurrence ∈ state.latest_occurrences := by
    rw [ExtTreeMap.mem_iff_isSome_getElem?, hlatest]
    rfl
  refine returns_current h.sole hintegrity (hcomplete _ hmem) fun row hrow hcampaign hoccurrence => ?_
  have hsame := hsnapshots row hrow hcampaign
  rw [hoccurrence, hlatest] at hsame
  exact (Option.some.inj hsame).symm

end Current

section Commits

variable {sha : Sha256} {db db' : Db} {head head' : CampaignHeadRow} {state state' : ReplayState}
  {last last' : OccurrenceSnapshotV1}

section Unique

variable (h : Verified sha.over_jcs db head state last) (hsha : sha.CollisionFree)
  (h' : Verified sha.over_jcs db' head' state' last') (hexact : ∀ row ∈ db.journal head.campaign, row.Exact)
  (hexact' : ∀ row ∈ db'.journal head'.campaign, row.Exact) (hevent : head.event_head = head'.event_head)

include h hsha h' hexact hexact' hevent

/-- Equal event heads have equal journals behind them. -/
theorem Verified.journal_unique :
    head.campaign = head'.campaign ∧ db.journal head.campaign = db'.journal head'.campaign := by
  have hbound := bound_of_replay_rows h.replayed
  have hbound' := bound_of_replay_rows h'.replayed
  have hlinked := events_linked h.replayed
  have hlinked' := events_linked h'.replayed
  rw [h.head_verified.event_head, hevent, ← h'.head_verified.event_head] at hlinked
  have hrows : db.journal head.campaign = db'.journal head'.campaign := by
    refine hlinked.unique hlinked' (fun row hrow row' hrow' heq => ?_) (fun row hrow => ?_) fun row hrow => ?_
    · obtain ⟨_, hfirst⟩ := hbound row hrow
      obtain ⟨_, hsecond⟩ := hbound' row' hrow'
      exact (hfirst.unique hsha hsecond (hexact row hrow) (hexact' row' hrow') heq).2
    · obtain ⟨_, hrow⟩ := hbound' row hrow
      exact hrow.ne_genesis hsha _
    · obtain ⟨_, hrow⟩ := hbound row hrow
      exact hrow.ne_genesis hsha _
  refine ⟨?_, hrows⟩
  obtain ⟨row, hrow⟩ := List.exists_mem_of_ne_nil _ h.nonempty
  obtain ⟨_, hfirst⟩ := hbound row hrow
  obtain ⟨_, hsecond⟩ := hbound' row (hrows ▸ hrow)
  exact (hfirst.unique hsha hsecond (hexact row hrow) (hexact row hrow) rfl).1

/-- Equal event heads replay to the same state. -/
theorem Verified.state_unique : state = state' := by
  obtain ⟨hcampaign, hjournal⟩ := h.journal_unique hsha h' hexact hexact' hevent
  have hreplayed := h.replayed
  have hreplayed' := h'.replayed
  rw [← hjournal, ← hcampaign] at hreplayed'
  obtain ⟨first, rest, hrows⟩ := List.exists_cons_of_ne_nil h.nonempty
  rw [hrows] at hreplayed hreplayed'
  have hprofile := (creates_of_replay_rows hreplayed).evidence.symm.trans
    (creates_of_replay_rows hreplayed').evidence
  rw [CampaignTransitionEvidenceV1.Genesis.injEq] at hprofile
  rw [hprofile, hreplayed'] at hreplayed
  exact (Except.ok.inj hreplayed).symm

end Unique

/-- Two stores hold the same accounting, in any order of its rows. -/
structure SameAccounting (db db' : Db) : Prop where
  spends : db.ag_authorization_spends.rows.Perm db'.ag_authorization_spends.rows
  attempts : db.docket_attempts.rows.Perm db'.docket_attempts.rows
  settlements : db.docket_settlements.rows.Perm db'.docket_settlements.rows
  human_dispositions : db.human_dispositions.rows.Perm db'.human_dispositions.rows
  residual_discharges : db.residual_discharges.rows.Perm db'.residual_discharges.rows

theorem TablesVerified.same_accounting {campaign campaign' : CampaignId}
    {rows rows' : List StoredTransitionRow} (h : TablesVerified sha db campaign rows state)
    (h' : TablesVerified sha db' campaign' rows' state) : SameAccounting db db' := by
  refine ⟨?_, ?_, ?_, ?_, ?_⟩
  · exact perm_of_collect_eq (Table.keys_nodup _) (Table.keys_nodup _) (h.spends.trans h'.spends.symm)
  · exact perm_of_collect_eq (Table.keys_nodup _) (Table.keys_nodup _) (h.attempts.trans h'.attempts.symm)
  · exact perm_of_collect_eq (Table.keys_nodup _) (Table.keys_nodup _)
      (h.settlements.trans h'.settlements.symm)
  · exact perm_of_collect_eq (Table.keys_nodup _) (Table.keys_nodup _) (h.artifacts.trans h'.artifacts.symm)
  · exact perm_of_collect_eq (Table.keys_nodup _) (Table.keys_nodup _)
      (h.discharges.trans h'.discharges.symm)

/-- The event head commits to the whole history: two stores that replay, whose journals
are written exactly and that have the same event head, have the same journal, and with
it the same current snapshot and the same accounting. -/
theorem event_head_commits_to_history (hsha : sha.CollisionFree) {report report' : CampaignReplayReportV1}
    (h : replay_store sha.over_jcs db = .ok report) (h' : replay_store sha.over_jcs db' = .ok report')
    (hhead : db.campaigns.rows = [head]) (hhead' : db'.campaigns.rows = [head'])
    (hexact : ∀ row ∈ db.journal head.campaign, row.Exact)
    (hexact' : ∀ row ∈ db'.journal head'.campaign, row.Exact)
    (hevent : head.event_head = head'.event_head) :
    head.campaign = head'.campaign ∧
    db.journal head.campaign = db'.journal head'.campaign ∧
    (∃ snapshot, (CampaignStoreV1.current sha.over_jcs db).1 = .ok snapshot ∧
      (CampaignStoreV1.current sha.over_jcs db').1 = .ok snapshot) ∧
    SameAccounting db db' := by
  obtain ⟨_, state, last, hv, _⟩ := replay_store_eq_ok_iff.mp h
  obtain ⟨_, state', last', hv', _⟩ := replay_store_eq_ok_iff.mp h'
  obtain rfl : _ = head := by simpa using hv.sole.symm.trans hhead
  obtain rfl : _ = head' := by simpa using hv'.sole.symm.trans hhead'
  obtain ⟨hcampaign, hjournal⟩ := hv.journal_unique hsha hv' hexact hexact' hevent
  obtain rfl := hv.state_unique hsha hv' hexact hexact' hevent
  obtain rfl : last = last' :=
    Option.some.inj (hv.head_verified.last_eq.symm.trans hv'.head_verified.last_eq)
  exact ⟨hcampaign, hjournal, ⟨last, congrArg Prod.fst hv.current, congrArg Prod.fst hv'.current⟩,
    hv.tables_verified.same_accounting hv'.tables_verified⟩

end Commits

section Samples

variable {sha : Sha256} {initial : OccurrenceSnapshotV1}

/-- A refusal of a stale observation at the given snapshot. -/
def stale_refusal (snapshot : OccurrenceSnapshotV1) : RefusalOutcomeV1 :=
  ⟨snapshot.key, snapshot.state_digest, .StaleObservation, none, none⟩

/-- The tables of a new store that recorded a refusal. -/
def refused_db (sha : Sha256) (initial : OccurrenceSnapshotV1) : Db :=
  { created_db sha initial none 0 with
    refusals := ⟨[refusal_row sha (stale_refusal initial) 0], List.pairwise_singleton _ _⟩ }

theorem record_refusal_created
    (hcurrent : Returns (CampaignStoreV1.current sha) (created_db sha initial none 0) initial
      (created_db sha initial none 0)) :
    Returns (CampaignStoreV1.record_refusal sha (stale_refusal initial) 0) (created_db sha initial none 0)
      (digest_value sha REFUSAL_DOMAIN_V1 (stale_refusal initial)) (refused_db sha initial) := by
  refine returns_bind_iff.mpr ⟨_, _, hcurrent, returns_lift_bind_iff.mpr ⟨(), reject_eq_ok_iff.mpr ?_, ?_⟩⟩
  · simp [stale_refusal]
  refine returns_lift_bind_iff.mpr ⟨(), rfl, returns_bind_iff.mpr ⟨(), refused_db sha initial, ?_, rfl⟩⟩
  refine returns_transaction_iff.mpr (returns_lift_bind_iff.mpr ⟨0, rfl, ?_⟩)
  refine returns_query_bind_iff.mpr ⟨false, rfl, returns_insert_into_iff.mpr ⟨?_, _, rfl, rfl⟩⟩
  exact ⟨_, List.mem_singleton_self _, rfl, rfl⟩

/-- A new store, and the same store after it recorded a refusal: the refusal is not part
of the event chain, and all that the head commits to is the same. -/
theorem event_head_commits_to_history_refused :
    ∃ (initial : OccurrenceSnapshotV1) (db db' : Db) (refusal : RefusalOutcomeV1) (refusal_id : Digest)
      (head : CampaignHeadRow) (report report' : CampaignReplayReportV1),
      CampaignStoreV1.create_with_runtime_profile ideal_sha.over_jcs initial none 0 = .ok db ∧
      Returns (CampaignStoreV1.record_refusal ideal_sha.over_jcs refusal 0) db refusal_id db' ∧
      db.refusals.rows ≠ db'.refusals.rows ∧
      replay_store ideal_sha.over_jcs db = .ok report ∧ replay_store ideal_sha.over_jcs db' = .ok report' ∧
      db.campaigns.rows = [head] ∧ db'.campaigns.rows = [head] ∧
      db.journal head.campaign = db'.journal head.campaign ∧ SameAccounting db db' := by
  obtain ⟨initial, hinitial, _, _⟩ := created_sample ideal_sha.over_jcs
  obtain ⟨hcreate, state, hr, hattested⟩ :
      CampaignStoreV1.create_with_runtime_profile ideal_sha.over_jcs initial none 0 = .ok _ ∧ _ :=
    created_replayable hinitial (by simp) (by decide)
  have hverified := hr.verified hattested
  have hreplay := replay_store_eq_ok_iff.mpr ⟨_, _, _, hverified, rfl⟩
  have hrefused := record_refusal_created hverified.current
  obtain ⟨report', hreplay'⟩ := (replays_record_refusal ⟨_, state, initial, hr, hattested⟩ hrefused).replay_store
  have hexact : ∀ row ∈ (created_db ideal_sha.over_jcs initial none 0).journal initial.key.campaign, row.Exact := by
    rw [(create_eq_ok_iff.mp hcreate).1.journal]
    simpa using (⟨sample_exact hinitial, ⟨⟨trivial, trivial⟩, trivial⟩, Nat.zero_le _⟩ :
      (genesis_row ideal_sha.over_jcs initial none 0).Exact)
  obtain ⟨_, hjournal, _, hsame⟩ := event_head_commits_to_history ideal_sha_collision_free hreplay hreplay'
    rfl rfl hexact hexact rfl
  exact ⟨initial, _, _, stale_refusal initial, _, _, _, report', hcreate, hrefused, by rintro ⟨⟩, hreplay, hreplay',
    rfl, rfl, hjournal, hsame⟩

/-- Two times that are written alike give one event head. -/
theorem genesis_head_of_written (initial : OccurrenceSnapshotV1) {time time' : UInt64}
    (h : f64 time.toNat = f64 time'.toNat) :
    (genesis_head sha.over_jcs initial none time).event_head =
      (genesis_head sha.over_jcs initial none time').event_head := by
  simp [genesis_head, genesis_row, transition_row, store_event_digest, digest_value, Digest.hash_domain,
    Sha256.over_jcs, Preimage.written, Payload.written, to_jcs, Jcs.written, Jcs.written_members, h]

/-- Two stores of one campaign, created at two different times beyond the exact range:
the two times are written as one double, so the event heads are the same, both stores
replay, and their journals differ. -/
theorem recorded_times_collide :
    ∃ (initial : OccurrenceSnapshotV1) (db db' : Db) (head head' : CampaignHeadRow)
      (report report' : CampaignReplayReportV1),
      CampaignStoreV1.create_with_runtime_profile ideal_sha.over_jcs initial none (2 ^ 53) = .ok db ∧
      CampaignStoreV1.create_with_runtime_profile ideal_sha.over_jcs initial none (2 ^ 53 + 1) = .ok db' ∧
      replay_store ideal_sha.over_jcs db = .ok report ∧ replay_store ideal_sha.over_jcs db' = .ok report' ∧
      db.campaigns.rows = [head] ∧ db'.campaigns.rows = [head'] ∧ head.event_head = head'.event_head ∧
      db.journal head.campaign ≠ db'.journal head'.campaign := by
  obtain ⟨initial, hinitial, _, _⟩ := created_sample ideal_sha.over_jcs
  obtain ⟨hcreate, state, hr, hattested⟩ :
      CampaignStoreV1.create_with_runtime_profile ideal_sha.over_jcs initial none (2 ^ 53) = .ok _ ∧ _ :=
    created_replayable hinitial (by simp) (by decide)
  obtain ⟨hcreate', state', hr', hattested'⟩ :
      CampaignStoreV1.create_with_runtime_profile ideal_sha.over_jcs initial none (2 ^ 53 + 1) = .ok _ ∧ _ :=
    created_replayable hinitial (by simp) (by decide)
  have hwritten : f64 (2 ^ 53 : UInt64).toNat = f64 (2 ^ 53 + 1 : UInt64).toNat := by decide +kernel
  refine ⟨initial, _, _, _, _, _, _, hcreate, hcreate',
    replay_store_eq_ok_iff.mpr ⟨_, _, _, hr.verified hattested, rfl⟩,
    replay_store_eq_ok_iff.mpr ⟨_, _, _, hr'.verified hattested', rfl⟩, rfl, rfl, ?_, ?_⟩
  · exact genesis_head_of_written initial hwritten
  · change (created_db _ initial none _).journal initial.key.campaign ≠
      (created_db _ initial none _).journal initial.key.campaign
    rw [(create_eq_ok_iff.mp hcreate).1.journal, (create_eq_ok_iff.mp hcreate').1.journal]
    intro hsame
    have htime := congrArg (List.map StoredTransitionRow.recorded_at_unix_ms) hsame
    simp [genesis_row, transition_row] at htime

end Samples

end ag_store

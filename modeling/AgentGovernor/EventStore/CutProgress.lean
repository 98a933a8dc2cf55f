import AgentGovernor.EventStore.Settled

open ag_primitives Checked Relational Transaction Windows HashChain EventLog Lists

namespace ag_store.lib

section Names

def begin_event_id (cut_id : String) : String :=
  "backup:" ++ cut_id ++ ":begin"

def prepared_event_id (cut_id : String) (role : BackupParticipantV1) : String :=
  "backup:" ++ cut_id ++ ":prepared:" ++ role.as_str

def sealed_event_id (cut_id : String) : String :=
  "backup:" ++ cut_id ++ ":sealed"

variable {cut_id : String} {role role' : BackupParticipantV1}

theorem begin_ne_prepared : begin_event_id cut_id ≠ prepared_event_id cut_id role := by
  intro h
  have hlist := congrArg String.toList h
  simp only [begin_event_id, prepared_event_id, String.toList_append, List.append_assoc,
    List.append_cancel_left_eq] at hlist
  cases role <;> simp [BackupParticipantV1.as_str] at hlist

theorem begin_ne_sealed : begin_event_id cut_id ≠ sealed_event_id cut_id := by
  intro h
  have hlist := congrArg String.toList h
  simp [begin_event_id, sealed_event_id, String.toList_append] at hlist

theorem prepared_ne_sealed : prepared_event_id cut_id role ≠ sealed_event_id cut_id := by
  intro h
  have hlist := congrArg String.toList h
  simp only [sealed_event_id, prepared_event_id, String.toList_append, List.append_assoc,
    List.append_cancel_left_eq] at hlist
  cases role <;> simp [BackupParticipantV1.as_str] at hlist

theorem prepared_event_id_injective : Function.Injective (prepared_event_id cut_id) := by
  intro left right h
  have hlist := congrArg String.toList h
  simp only [prepared_event_id, String.toList_append, List.append_assoc, List.append_cancel_left_eq] at hlist
  cases left <;> cases right <;> first | rfl | simp [BackupParticipantV1.as_str] at hlist

end Names

/-- The names under which the events of a cut are appended are valid ones. -/
structure Nameable (cut_id : String) : Prop where
  entity : validate_identifier "entity_id" (backup_entity_id cut_id) 256 = .ok ()
  begun : validate_identifier "event_id" (begin_event_id cut_id) 256 = .ok ()
  prepared : ∀ role, validate_identifier "event_id" (prepared_event_id cut_id role) 256 = .ok ()
  sealed : validate_identifier "event_id" (sealed_event_id cut_id) 256 = .ok ()

/-- A store on which nothing but one cut was begun and prepared. -/
structure CutOnly (sha : Sha256) (request : BeginBackupCutV1) (prepared : List BackupCheckpointV1) (store : Store) :
    Prop where
  reached : store.Reached sha
  ids : store.events.rows.map EventRow.event_id = begin_event_id request.cut_id ::
    prepared.map fun checkpoint => prepared_event_id request.cut_id checkpoint.participant
  cut : ∃ cut, store.backup_cuts.rows = [cut] ∧ cut.cut_id = request.cut_id ∧
    cut.authority_domain = request.authority_domain ∧ cut.epoch = request.epoch ∧
    cut.quiescence_barrier_id = request.quiescence_barrier_id ∧ cut.manifest_digest = none ∧
    cut.state = resulting_state prepared.length
  roles : ∀ registration ∈ request.participants, ∃ row,
    store.participant request.cut_id registration.participant = some row ∧
      row.component_identity = registration.component_identity ∧
      (row.checkpoint_digest = none ∨ ∃ checkpoint ∈ prepared, checkpoint.participant = registration.participant)
  count : store.prepared_count request.cut_id = prepared.length
  sequences : ∀ row ∈ store.backup_participants.rows, ∀ sequence, row.prepared_event_sequence = some sequence →
    sequence ≤ store.chain_head.sequence
  digests : ∀ row ∈ store.backup_participants.rows, ∀ digest, row.prepared_event_digest = some digest →
    ∃ event ∈ store.events.rows, event.event_digest = digest

section Steps

variable {sha : Sha256} {request : BeginBackupCutV1} {prepared : List BackupCheckpointV1} {store : Store}
  {at_unix_ms : Int64}

variable (h : CutOnly sha request prepared store)

include h

theorem CutOnly.length : store.events.rows.length = prepared.length + 1 := by
  have hlength := congrArg List.length h.ids
  simpa using hlength

theorem CutOnly.fresh {event_id : String} (hbegin : event_id ≠ begin_event_id request.cut_id)
    (hprepared : ∀ other ∈ prepared, event_id ≠ prepared_event_id request.cut_id other.participant) :
    ∀ row ∈ store.events.rows, row.event_id ≠ event_id := by
  rintro row hrow rfl
  have hmem : row.event_id ∈ store.events.rows.map EventRow.event_id := List.mem_map_of_mem hrow
  rw [h.ids, List.mem_cons, List.mem_map] at hmem
  rcases hmem with hsame | ⟨other, hother, hsame⟩
  · exact hbegin hsame
  · exact hprepared other hother hsame.symm

omit h in
/-- What is recorded is one event behind the head. -/
theorem Recorded.appended {event : NewEventV1} {state : Serializable} {revision : Nat} {receipt : EventReceiptV1}
    {store' : Store} (h : Recorded (append_event_in_transaction sha event state revision) receipt store store') :
    ∃ row, store'.events.rows = store.events.rows ++ [row] ∧ row.event_id = event.event_id ∧
      row.entity_id = event.entity_id ∧ row.sequence = receipt.sequence ∧ row.event_digest = receipt.event_digest ∧
      store'.chain_head.sequence = receipt.sequence ∧ receipt.sequence = store.chain_head.sequence + 1 := by
  obtain ⟨appended, happend, hframe⟩ := h
  obtain ⟨_, _, _, rfl, happended⟩ := returns_append_iff.mp happend
  rw [hframe]
  refine ⟨_, happended.events, rfl, rfl, rfl, rfl, ?_, rfl⟩
  rw [happended.frame]
  rfl

omit h in
/-- A short store has room for the next event of a cut, and the digest of that event is new. -/
theorem append_cut_event_ok (hsha : sha.CollisionFree) (hsound : store.Sound sha) {event_id kind : String}
    {payload : Jcs} {state : BackupCutMaterializedV1} {revision : Nat} (hshort : store.events.rows.length ≤ 4)
    (hevent : validate_identifier "event_id" event_id 256 = .ok ())
    (hentity : validate_identifier "entity_id" (backup_entity_id state.cut_id) 256 = .ok ())
    (hkind : validate_identifier "event_kind" kind 192 = .ok ())
    (hfresh : ∀ row ∈ store.events.rows, row.event_id ≠ event_id)
    (hrevision : materialized_revision (backup_entity_id state.cut_id) store = revision) :
    ∃ receipt appended, Returns (append_cut_event sha event_id kind at_unix_ms payload state revision) store receipt
        appended ∧ receipt.sequence = store.chain_head.sequence + 1 ∧
      ∀ earlier ∈ store.events.rows, earlier.event_digest ≠ receipt.event_digest := by
  have hhead : store.chain_head.sequence = store.events.rows.length := hsound.chain.sequences.2.trans (Nat.zero_add _)
  have hle : revision ≤ store.events.rows.length := by
    rw [← hrevision, hsound.materialized_revision]
    exact List.countP_le_length
  have hroom : 5 ≤ I64_MAX := by decide
  let event : NewEventV1 := ⟨event_id, backup_entity_id state.cut_id, kind, at_unix_ms, .ok payload⟩
  have hvalid : validate_event event = .ok () := by
    simp only [validate_event, ok_rules]
    exact ⟨hevent, hentity, hkind⟩
  obtain ⟨appended, happend, happended⟩ := append_ok hsha hsound
    (⟨hvalid, hfresh, hrevision, by omega, by omega, rfl, rfl⟩ : AppendAccepted event (.ok (to_jcs state)) ..)
  refine ⟨_, appended, happend, rfl, fun earlier hearlier hdigest => ?_⟩
  have hleft : earlier ∈ appended.events.rows := by
    rw [happended.events]
    exact List.mem_append_left _ hearlier
  have hright := List.mem_append_right store.events.rows (List.mem_singleton_self
    (store.next_row sha event payload (to_jcs state)))
  rw [← happended.events] at hright
  have hsame := congrArg EventRow.sequence (Table.eq_of_conflict hleft hright (.inr (.inr hdigest)))
  have hbound := (hsound.chain.sequence_bounds hearlier).2
  change earlier.sequence = store.chain_head.sequence + 1 at hsame
  omega

theorem CutOnly.known : ∃ cut, store.cut request.cut_id = some cut ∧
    store.backup_cuts.rows = [cut] ∧ cut.authority_domain = request.authority_domain ∧ cut.epoch = request.epoch ∧
    cut.quiescence_barrier_id = request.quiescence_barrier_id ∧ cut.manifest_digest = none ∧
    cut.state = resulting_state prepared.length := by
  obtain ⟨cut, hcuts, hid, hcut⟩ := h.cut
  exact ⟨cut, Store.cut_eq_some_iff.mpr ⟨by simp [hcuts], hid⟩, hcuts, hcut⟩

section Prepare

variable {checkpoint : BackupCheckpointV1} {cut : BackupCutRow} {registered : BackupParticipantRow}

omit h in
/-- The next participant prepares. -/
theorem CutOnly.prepare_ok (hsha : sha.CollisionFree) (hnames : Nameable request.cut_id)
    (h : CutOnly sha request prepared store) (hshort : prepared.length < 3) (hcuts : store.backup_cuts.rows = [cut])
    (hstate : cut.state = resulting_state prepared.length) (hunprepared : registered.checkpoint_digest = none)
    (hnew : ∀ other ∈ prepared, other.participant ≠ checkpoint.participant) (at_unix_ms : Int64) :
    ∃ receipt store', ParticipantPrepared sha request.cut_id checkpoint at_unix_ms cut registered receipt store
      store' := by
  have hfresh := h.fresh begin_ne_prepared.symm fun other hother hsame =>
    hnew other hother (prepared_event_id_injective hsame).symm
  obtain ⟨receipt, appended, happend, hsequence, hdigest⟩ : ∃ receipt appended,
      Returns (append_prepared sha request.cut_id
      checkpoint at_unix_ms (resulting_state (store.prepared_count request.cut_id + 1))
      (store.prepared_count request.cut_id + 1) (materialized_revision (backup_entity_id request.cut_id) store)) store
        receipt appended ∧ _ ∧ _ :=
    append_cut_event_ok hsha h.reached.sound (by rw [h.length]; omega) (hnames.prepared checkpoint.participant)
      hnames.entity (by decide) hfresh rfl
  have hdistinct : (prepared_rows sha request.cut_id checkpoint receipt store.backup_participants.rows).Pairwise
      fun left right => ¬ conflict left right := by
    -- a row that records the new event has its sequence and digest, which no row had
    have hother : ∀ row ∈ store.backup_participants.rows, row.prepared_event_sequence ≠ some receipt.sequence ∧
        row.prepared_event_digest ≠ some receipt.event_digest := by
      refine fun row hrow => ⟨fun hsame => ?_, fun hsame => ?_⟩
      · have hle := h.sequences row hrow _ hsame
        omega
      · obtain ⟨earlier, hearlier, hsame⟩ := h.digests row hrow _ hsame
        exact hdigest earlier hearlier hsame
    unfold prepared_rows
    rw [List.pairwise_map]
    refine store.backup_participants.distinct.imp_of_mem fun {left right} hleft hright hdistinct => ?_
    have hkeys : ¬ (left.cut_id = right.cut_id ∧ left.participant = right.participant) :=
      fun hkeys => hdistinct (.inl hkeys)
    split <;> split
    · next hselected hselected' =>
      exact absurd ⟨hselected.1.trans hselected'.1.symm, hselected.2.1.trans hselected'.2.1.symm⟩ hkeys
    · rintro (hsame | ⟨_, hsame⟩ | ⟨_, hsame⟩)
      · exact hkeys hsame
      · exact (hother right hright).1 hsame.symm
      · exact (hother right hright).2 hsame.symm
    · rintro (hsame | ⟨_, hsame⟩ | ⟨_, hsame⟩)
      · exact hkeys hsame
      · exact (hother left hleft).1 hsame
      · exact (hother left hleft).2 hsame
    · exact hdistinct
  have hsingle : (changed_cuts request.cut_id (preparing_row (resulting_state
      (store.prepared_count request.cut_id + 1)) at_unix_ms) store.backup_cuts.rows).Pairwise
      fun left right => ¬ conflict left right := by
    rw [hcuts]
    exact List.pairwise_singleton _ _
  have hopen : cut.state = .Preparing ∨ cut.state = .Prepared := by
    rw [hstate, resulting_state]
    split
    · exact .inr rfl
    · exact .inl rfl
  have hcount : store.prepared_count request.cut_id + 1 ≤ 255 := by
    rw [h.count]
    omega
  exact ⟨receipt, { appended with backup_cuts := ⟨_, hsingle⟩, backup_participants := ⟨_, hdistinct⟩ }, hunprepared,
    hopen, hcount, ⟨appended, happend, rfl⟩, rfl, rfl⟩

omit h in
/-- A store that has nothing but the cut still has nothing else behind a preparation. -/
theorem CutOnly.after_prepare {receipt : EventReceiptV1} {store' : Store} (h : CutOnly sha request prepared store)
    (hchecked : PrepareChecked request.cut_id checkpoint store cut registered)
    (hprepared : ParticipantPrepared sha request.cut_id checkpoint at_unix_ms cut registered receipt store store') :
    CutOnly sha request (prepared ++ [checkpoint]) store' := by
  have hreturns : Returns ((CutCall.prepare_backup_participant request.cut_id checkpoint at_unix_ms).perform sha) store
      receipt store' := returns_prepare_iff.mpr ⟨cut, registered, hchecked, .inr hprepared⟩
  obtain ⟨event, hevents, hid, _, _, hdigest, hhead, hsequence⟩ := Recorded.appended hprepared.recorded
  obtain ⟨cut', hknown, hcuts, hdomain, hepoch, hbarrier, hunsealed, _⟩ := h.known
  obtain rfl := Option.some.inj (hchecked.known.symm.trans hknown)
  obtain ⟨_, hcut_id⟩ := Store.cut_eq_some_iff.mp hknown
  have hrows : ∀ row' ∈ store'.backup_participants.rows, row' ∈ store.backup_participants.rows ∨
      row'.prepared_event_sequence = some receipt.sequence ∧
        row'.prepared_event_digest = some receipt.event_digest := by
    intro row' hrow'
    rw [hprepared.participants, prepared_rows, List.mem_map] at hrow'
    obtain ⟨row, hrow, rfl⟩ := hrow'
    split
    · exact .inr ⟨rfl, rfl⟩
    · exact .inl hrow
  refine ⟨(CutCall.reached hreturns h.reached).1, ?_, ⟨preparing_row (resulting_state
    (store.prepared_count request.cut_id + 1)) at_unix_ms cut, ?_, hcut_id, hdomain, hepoch, hbarrier,
    hunsealed, ?_⟩, ?_, ?_, ?_, ?_⟩
  · rw [hevents, List.map_append, h.ids, List.map_append]
    exact congrArg _ (congrArg (· :: []) hid)
  · rw [hprepared.cuts, hcuts, changed_cuts, List.map_singleton, if_pos hcut_id]
  · rw [List.length_append, ← h.count]
    rfl
  · intro registration hregistration
    obtain ⟨row, hrow, hidentity, hempty⟩ := h.roles registration hregistration
    obtain ⟨hmem, hrow_id, hrow_role⟩ := Store.participant_eq_some_iff.mp hrow
    by_cases hselected : row.cut_id = request.cut_id ∧ row.participant = checkpoint.participant ∧
        row.checkpoint_digest = none
    · refine ⟨prepared_row sha checkpoint receipt row, Store.participant_eq_some_iff.mpr ⟨?_, hrow_id, hrow_role⟩,
        hidentity, .inr ⟨checkpoint, by simp, hselected.2.1.symm.trans hrow_role⟩⟩
      rw [hprepared.participants, prepared_rows, List.mem_map]
      exact ⟨row, hmem, if_pos hselected⟩
    · refine ⟨row, Store.participant_eq_some_iff.mpr ⟨?_, hrow_id, hrow_role⟩, hidentity, hempty.imp_right ?_⟩
      · rw [hprepared.participants, prepared_rows, List.mem_map]
        exact ⟨row, hmem, if_neg hselected⟩
      · rintro ⟨other, hother, hsame⟩
        exact ⟨other, List.mem_append_left _ hother, hsame⟩
  · rw [hprepared.prepared_count hchecked, h.count, List.length_append]
    rfl
  · intro row hrow sequence hsome
    rcases hrows row hrow with hrow | ⟨hsame, _⟩
    · have hle := h.sequences row hrow sequence hsome
      omega
    · have := Option.some.inj (hsome.symm.trans hsame)
      omega
  · intro row hrow digest hsome
    rw [hevents]
    rcases hrows row hrow with hrow | ⟨_, hsame⟩
    · obtain ⟨earlier, hearlier, hdigest'⟩ := h.digests row hrow digest hsome
      exact ⟨earlier, List.mem_append_left _ hearlier, hdigest'⟩
    · exact ⟨event, List.mem_append_right _ (List.mem_singleton_self event),
        hdigest.trans (Option.some.inj (hsame.symm.trans hsome))⟩

end Prepare

/-- Sealing behind the last preparation. -/
theorem CutOnly.seal_ok (hsha : sha.CollisionFree) (hnames : Nameable request.cut_id)
    (hall : prepared.length = 3) (at_unix_ms : Int64) :
    ∃ manifest receipt store' cut', build_backup_manifest_from_connection request.cut_id store = .ok manifest ∧
      Returns (seal_backup_cut sha manifest at_unix_ms) store receipt store' ∧
      store'.cut request.cut_id = some cut' ∧ cut'.state = .Sealed ∧ store'.prepared_count request.cut_id = 3 := by
  obtain ⟨cut, hknown, hcuts, _, _, _, hunsealed, hstate⟩ := h.known
  obtain ⟨hmem, hid⟩ := Store.cut_eq_some_iff.mp hknown
  have hprepared : cut.state = .Prepared := by
    rw [hstate, hall]
    rfl
  obtain ⟨manifest, hmanifested⟩ := exists_manifested h.reached.cuts hmem (by rw [hid, h.count, hall])
  have hmanifest_id : manifest.cut_id = request.cut_id :=
    (congrArg BackupCutManifestV1.cut_id hmanifested.header).trans hid
  have hbuilt := build_of_manifested hknown (.inl hprepared) hmanifested
  have hfresh := h.fresh begin_ne_sealed.symm fun _ _ => prepared_ne_sealed.symm
  rw [← hmanifest_id] at hknown hbuilt hnames hfresh
  obtain ⟨receipt, appended, happend, _⟩ : ∃ receipt appended, Returns (append_sealed sha manifest at_unix_ms
      (materialized_revision (backup_entity_id manifest.cut_id) store)) store receipt appended ∧ _ :=
    append_cut_event_ok hsha h.reached.sound (by rw [h.length]; omega) hnames.sealed hnames.entity
      (by decide) hfresh rfl
  have hsingle : (changed_cuts manifest.cut_id (sealed_row (manifest_digest sha manifest) receipt at_unix_ms)
      store.backup_cuts.rows).Pairwise fun left right => ¬ conflict left right := by
    rw [hcuts]
    exact List.pairwise_singleton _ _
  have hparticipants : appended.backup_participants = store.backup_participants := (append_keeps_cuts happend).2
  let store' : Store := { appended with backup_cuts := ⟨_, hsingle⟩ }
  have hsealed : CutSealed sha manifest at_unix_ms cut receipt store store' :=
    ⟨hunsealed, hbuilt, hprepared, ⟨appended, happend, rfl⟩, hparticipants, rfl⟩
  refine ⟨manifest, receipt, store', sealed_row (manifest_digest sha manifest) receipt at_unix_ms cut,
    by rw [← hmanifest_id]; exact hbuilt, returns_seal_iff.mpr ⟨cut, hknown, .inr hsealed⟩, ?_, rfl, ?_⟩
  · rw [← hmanifest_id]
    exact cut_of_changed hknown rfl hsealed.cuts
  · rw [Store.prepared_count, hsealed.participants, ← hall, ← h.count]
    rfl

omit h

/-- The cut begins on a new store. -/
theorem fresh_begin_ok (hsha : sha.CollisionFree) (hnames : Nameable request.cut_id)
    (hvalid : request.validate = .ok ()) (hepoch : request.epoch.value.toNat ≤ I64_MAX) (identity : StoreIdentityV1)
    (objects : Digest → Option BlobFileV1) :
    ∃ receipt store', Returns (begin_backup_cut sha request) (Store.fresh sha identity objects) receipt store' ∧
      CutOnly sha request [] store' ∧ store'.blobs = .empty := by
  let store := Store.fresh sha identity objects
  obtain ⟨receipt, appended, happend, _⟩ : ∃ receipt appended, Returns (append_begun sha request) store receipt
      appended ∧ _ :=
    append_cut_event_ok hsha (Store.fresh_sound sha identity objects) (Nat.zero_le 4) hnames.begun hnames.entity
      (by decide) (by simp [Store.fresh]) rfl
  obtain ⟨_, _, _, _, happended⟩ := returns_append_iff.mp happend
  have hdistinct : (request.participants.map (registration_row request.cut_id)).Pairwise
      fun left right => ¬ conflict left right := by
    have hnodup : (request.participants.map BackupParticipantRegistrationV1.participant).Nodup :=
      (BeginBackupCutV1.roles_perm hvalid).nodup_iff.mpr (by decide)
    rw [List.pairwise_map]
    refine (List.pairwise_map.mp hnodup).imp fun hne => ?_
    rintro (⟨_, hsame⟩ | ⟨hsome, _⟩ | ⟨hsome, _⟩)
    · exact hne hsame
    · cases hsome
    · cases hsome
  let store' : Store := { appended with
    backup_cuts := ⟨[begin_row sha request receipt], List.pairwise_singleton _ _⟩
    backup_participants := ⟨_, hdistinct⟩ }
  have hbegun : Begun sha request receipt store store' := ⟨rfl, rfl, hepoch, ⟨appended, happend, rfl⟩, rfl, rfl⟩
  have hreturns : Returns ((CutCall.begin_backup_cut request).perform sha) store receipt store' :=
    returns_begin_iff.mpr ⟨hvalid, .inr hbegun⟩
  have hrow : ∀ row ∈ store'.backup_participants.rows, row.Empty := by
    intro row hrow
    obtain ⟨registration, _, rfl⟩ := List.mem_map.mp hrow
    exact ⟨rfl, rfl, rfl, rfl⟩
  refine ⟨receipt, store', hreturns, ⟨(CutCall.reached hreturns (Store.fresh_reached sha identity objects)).1, ?_,
    ⟨begin_row sha request receipt, rfl, rfl, rfl, rfl, rfl, rfl, rfl⟩, fun registration hregistration => ?_, ?_,
    fun row hmem sequence hsome => ?_, fun row hmem digest hsome => ?_⟩, ?_⟩
  · change appended.events.rows.map EventRow.event_id = _
    rw [happended.events]
    rfl
  · exact ⟨registration_row request.cut_id registration, Store.participant_eq_some_iff.mpr
      ⟨List.mem_map_of_mem hregistration, rfl, rfl⟩, rfl, .inl rfl⟩
  · rw [Store.prepared_count, List.length_nil, List.countP_eq_zero]
    intro row hmem
    simp [(hrow row hmem).checkpoint_digest]
  · cases (hrow row hmem).prepared_event_sequence.symm.trans hsome
  · cases (hrow row hmem).prepared_event_digest.symm.trans hsome
  · change appended.blobs = _
    rw [happended.frame]
    rfl

end Steps

end ag_store.lib

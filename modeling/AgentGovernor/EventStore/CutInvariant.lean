import AgentGovernor.EventStore.Reachable
import AgentGovernor.Lib.Lists

open ag_primitives Checked Relational Transaction Windows HashChain EventLog Lists

namespace ag_store.lib

section Rows

/-- The registrations of a cut. -/
def Store.registered (store : Store) (cut_id : String) : List BackupParticipantRow :=
  store.backup_participants.rows.filter fun row => row.cut_id = cut_id

/-- The columns of a participant are filled together, with a checkpoint of the role. -/
structure BackupParticipantRow.Filled (sha : Sha256) (row : BackupParticipantRow) (checkpoint : BackupCheckpointV1)
    (sequence : Nat) (digest : Digest) : Prop where
  checkpoint_jcs : row.checkpoint_jcs = some checkpoint
  checkpoint_digest : row.checkpoint_digest = some (lib.checkpoint_digest sha checkpoint)
  prepared_event_sequence : row.prepared_event_sequence = some sequence
  prepared_event_digest : row.prepared_event_digest = some digest
  participant : checkpoint.participant = row.participant
  identity : checkpoint.component_identity = row.component_identity

structure BackupParticipantRow.Empty (row : BackupParticipantRow) : Prop where
  checkpoint_jcs : row.checkpoint_jcs = none
  checkpoint_digest : row.checkpoint_digest = none
  prepared_event_sequence : row.prepared_event_sequence = none
  prepared_event_digest : row.prepared_event_digest = none

/-- What a cut is begun with. -/
def BackupCutRow.begun (row : BackupCutRow) : String × AuthorityDomainId × EpochId × String × Digest × Nat :=
  (row.cut_id, row.authority_domain, row.epoch, row.quiescence_barrier_id, row.begin_request_digest,
    row.begin_event_sequence)

/-- A role of a cut is prepared. -/
def Store.Prepares (sha : Sha256) (store : Store) (cut : BackupCutRow) (role : BackupParticipantV1)
    (prepared : PreparedParticipantV1) : Prop :=
  ∃ row ∈ store.backup_participants.rows, row.cut_id = cut.cut_id ∧ row.participant = role ∧
    row.Filled sha prepared.checkpoint prepared.prepared_event_sequence prepared.prepared_event_digest

/-- A manifest repeats the prepared facts of a cut, role by role. -/
structure Manifested (sha : Sha256) (store : Store) (cut : BackupCutRow) (manifest : BackupCutManifestV1) : Prop where
  header : manifest = { manifest with
    version := "backup-cut/v1"
    cut_id := cut.cut_id
    authority_domain := cut.authority_domain
    epoch := cut.epoch
    quiescence_barrier_id := cut.quiescence_barrier_id }
  roles : List.Forall₂ (store.Prepares sha cut) REQUIRED_BACKUP_PARTICIPANTS manifest.participants

/-- The checks of the columns of a cut. The schema states them as constraints. -/
structure BackupCutRow.Checked (row : BackupCutRow) : Prop where
  unsealed : row.state = .Preparing ∨ row.state = .Prepared → row.manifest_digest = none
  sealed : row.state = .Sealed ∨ row.state = .Released → row.manifest_digest.isSome = true
  released : row.state = .Released ↔ row.release_bundle_digest.isSome = true
  aborted : row.state = .Aborted ↔ row.abort_reason.isSome = true

end Rows

/-- What holds of the tables of cuts in every store that calls lead to. -/
structure Store.CutsSound (sha : Sha256) (store : Store) : Prop where
  owned : ∀ row ∈ store.backup_participants.rows, ∃ cut ∈ store.backup_cuts.rows, cut.cut_id = row.cut_id
  roles : ∀ cut ∈ store.backup_cuts.rows,
    ((store.registered cut.cut_id).map BackupParticipantRow.participant).Perm REQUIRED_BACKUP_PARTICIPANTS
  filled : ∀ row ∈ store.backup_participants.rows,
    row.Empty ∨ ∃ checkpoint sequence digest, row.Filled sha checkpoint sequence digest
  preparing : ∀ cut ∈ store.backup_cuts.rows, cut.state = .Preparing → store.prepared_count cut.cut_id < 3
  prepared : ∀ cut ∈ store.backup_cuts.rows, cut.state = .Prepared ∨ cut.state = .Sealed ∨ cut.state = .Released →
    store.prepared_count cut.cut_id = 3
  manifest : ∀ cut ∈ store.backup_cuts.rows, cut.state = .Sealed ∨ cut.state = .Released →
    ∃ manifest, Manifested sha store cut manifest ∧ cut.manifest_digest = some (manifest_digest sha manifest)
  checks : ∀ cut ∈ store.backup_cuts.rows, cut.Checked

section Effects

variable {sha : Sha256} {store store' : Store} {receipt : EventReceiptV1} {cut_id other : String}

theorem Store.prepared_count_eq (store : Store) (cut_id : String) :
    store.prepared_count cut_id = (store.registered cut_id).countP fun row => row.checkpoint_digest.isSome := by
  rw [Store.prepared_count, Store.registered, List.countP_filter]
  refine List.countP_congr fun row _ => ?_
  simp [and_comm]

theorem Store.registered_congr (h : store'.backup_participants = store.backup_participants) (cut_id : String) :
    store'.registered cut_id = store.registered cut_id := by
  rw [Store.registered, h, Store.registered]

/-- Registering a cut leaves the registrations of the others as they are. -/
theorem Begun.registered_other {request : BeginBackupCutV1} (h : Begun sha request receipt store store')
    (hne : other ≠ request.cut_id) : store'.registered other = store.registered other := by
  rw [Store.registered, h.participants, List.filter_append, Store.registered]
  have hnone : (request.participants.map (registration_row request.cut_id)).filter
      (fun row => row.cut_id = other) = [] := by
    rw [List.filter_eq_nil_iff]
    intro row hrow
    obtain ⟨registration, _, rfl⟩ := List.mem_map.mp hrow
    simp [registration_row, hne.symm]
  rw [hnone, List.append_nil]

theorem Begun.registered_self {request : BeginBackupCutV1} (h : Begun sha request receipt store store')
    (hsound : store.CutsSound sha) :
    store'.registered request.cut_id = request.participants.map (registration_row request.cut_id) := by
  rw [Store.registered, h.participants, List.filter_append]
  have hnone : store.backup_participants.rows.filter (fun row => row.cut_id = request.cut_id) = [] := by
    rw [List.filter_eq_nil_iff]
    intro row hrow hid
    obtain ⟨cut, hcut, hsame⟩ := hsound.owned row hrow
    exact Store.cut_eq_none_iff.mp h.unknown cut hcut (hsame.trans (by simpa using hid))
  have hall : (request.participants.map (registration_row request.cut_id)).filter
      (fun row => row.cut_id = request.cut_id) = request.participants.map (registration_row request.cut_id) := by
    rw [List.filter_eq_self]
    intro row hrow
    obtain ⟨registration, _, rfl⟩ := List.mem_map.mp hrow
    simp [registration_row]
  rw [hnone, hall, List.nil_append]

theorem prepared_rows_filter (checkpoint : BackupCheckpointV1) (rows : List BackupParticipantRow) :
    (prepared_rows sha cut_id checkpoint receipt rows).filter (fun row => row.cut_id = other) =
      prepared_rows sha cut_id checkpoint receipt (rows.filter fun row => row.cut_id = other) := by
  unfold prepared_rows
  rw [List.filter_map]
  congr 1
  refine List.filter_congr fun row _ => ?_
  simp only [Function.comp]
  split <;> rfl

theorem prepared_rows_of_ne {checkpoint : BackupCheckpointV1} {rows : List BackupParticipantRow}
    (h : ∀ row ∈ rows, row.cut_id ≠ cut_id) : prepared_rows sha cut_id checkpoint receipt rows = rows := by
  unfold prepared_rows
  refine (List.map_congr_left fun row hrow => ?_).trans (List.map_id _)
  exact if_neg fun hselected => h row hrow hselected.1

theorem prepared_rows_map {A : Type} {checkpoint : BackupCheckpointV1} {rows : List BackupParticipantRow}
    {f : BackupParticipantRow → A} (h : ∀ row, f (prepared_row sha checkpoint receipt row) = f row) :
    (prepared_rows sha cut_id checkpoint receipt rows).map f = rows.map f := by
  unfold prepared_rows
  rw [List.map_map]
  refine List.map_congr_left fun row _ => ?_
  simp only [Function.comp]
  split
  · exact h row
  · rfl

variable {checkpoint : BackupCheckpointV1} {at_unix_ms : Int64} {cut : BackupCutRow}
  {registered : BackupParticipantRow}

variable (h : ParticipantPrepared sha cut_id checkpoint at_unix_ms cut registered receipt store store')

include h

theorem ParticipantPrepared.registered_other (hne : other ≠ cut_id) :
    store'.registered other = store.registered other := by
  rw [Store.registered, h.participants, prepared_rows_filter, Store.registered]
  refine prepared_rows_of_ne fun row hrow hid => hne ?_
  have hother : row.cut_id = other := by simpa using (List.mem_filter.mp hrow).2
  exact hother.symm.trans hid

theorem ParticipantPrepared.registered_self :
    store'.registered cut_id = prepared_rows sha cut_id checkpoint receipt (store.registered cut_id) := by
  rw [Store.registered, h.participants, prepared_rows_filter, Store.registered]

/-- A role that prepares is one more. -/
theorem ParticipantPrepared.prepared_count (hchecked : PrepareChecked cut_id checkpoint store cut registered) :
    store'.prepared_count cut_id = store.prepared_count cut_id + 1 := by
  have hone := prepared_selected_count hchecked.role h.unprepared
  rw [Store.prepared_count_eq, Store.prepared_count_eq, h.registered_self, prepared_rows]
  have hcount := countP_map_selected
    (fun row => decide (row.cut_id = cut_id ∧ row.participant = checkpoint.participant ∧ row.checkpoint_digest = none))
    (fun row => row.checkpoint_digest.isSome) (prepared_row sha checkpoint receipt)
    (fun row hrow => ⟨by simp [(of_decide_eq_true hrow).2.2], rfl⟩) (store.registered cut_id)
  simp only [decide_eq_true_eq] at hcount
  rw [hcount]
  congr 1
  rw [← hone, Store.registered, List.countP_filter]
  refine List.countP_congr fun row _ => ?_
  simp only [Bool.and_eq_true, decide_eq_true_eq]
  exact ⟨And.left, fun hselected => ⟨hselected, hselected.1⟩⟩

end Effects

section Manifest

variable {sha : Sha256} {store store' : Store} {cut cut' : BackupCutRow} {manifest : BackupCutManifestV1}
  {cut_id : String}

/-- A manifest stays what it is while the registrations of its cut do. -/
theorem Manifested.later (h : Manifested sha store cut manifest)
    (hregistered : store'.registered cut.cut_id = store.registered cut.cut_id) (hbegun : cut'.begun = cut.begun) :
    Manifested sha store' cut' manifest := by
  simp only [BackupCutRow.begun, Prod.mk.injEq] at hbegun
  obtain ⟨hid, hdomain, hepoch, hbarrier, _⟩ := hbegun
  refine ⟨?_, h.roles.imp fun role prepared => ?_⟩
  · rw [hid, hdomain, hepoch, hbarrier]
    exact h.header
  · rintro ⟨row, hrow, hcut, hrole, hfilled⟩
    have hmem : row ∈ store'.registered cut.cut_id :=
      hregistered ▸ List.mem_filter.mpr ⟨hrow, decide_eq_true hcut⟩
    exact ⟨row, List.mem_of_mem_filter hmem, hcut.trans hid.symm, hrole, hfilled⟩

variable {prepared : PreparedParticipantV1} {row : BackupParticipantRow}

theorem prepared_participant_eq_ok_iff :
    prepared_participant row = .ok prepared ↔ row.checkpoint_jcs = some prepared.checkpoint ∧
      prepared.checkpoint.participant = row.participant ∧
      row.prepared_event_sequence = some prepared.prepared_event_sequence ∧
      row.prepared_event_digest = some prepared.prepared_event_digest := by
  simp only [prepared_participant, ok_rules]
  constructor
  · rintro ⟨checkpoint, hcheckpoint, hrole, sequence, hsequence, digest, hdigest, rfl⟩
    exact ⟨hcheckpoint, hrole, hsequence, hdigest⟩
  · rintro ⟨hcheckpoint, hrole, hsequence, hdigest⟩
    exact ⟨_, hcheckpoint, hrole, _, hsequence, _, hdigest, rfl⟩

/-- A participant that a filled row yields is the one that fills it. -/
theorem BackupParticipantRow.filled_of_prepared
    (hfilled : row.Empty ∨ ∃ checkpoint sequence digest, row.Filled sha checkpoint sequence digest)
    (h : prepared_participant row = .ok prepared) :
    row.Filled sha prepared.checkpoint prepared.prepared_event_sequence prepared.prepared_event_digest := by
  obtain ⟨hcheckpoint, _, hsequence, hdigest⟩ := prepared_participant_eq_ok_iff.mp h
  rcases hfilled with hempty | ⟨checkpoint, sequence, digest, hfilled⟩
  · cases hcheckpoint.symm.trans hempty.checkpoint_jcs
  · obtain rfl := Option.some.inj (hfilled.checkpoint_jcs.symm.trans hcheckpoint)
    obtain rfl := Option.some.inj (hfilled.prepared_event_sequence.symm.trans hsequence)
    obtain rfl := Option.some.inj (hfilled.prepared_event_digest.symm.trans hdigest)
    exact hfilled

/-- The builder yields the manifest of the prepared facts. -/
theorem manifested_of_build (hsound : store.CutsSound sha) (hcut : store.cut cut_id = some cut)
    (h : build_backup_manifest_from_connection cut_id store = .ok manifest) : Manifested sha store cut manifest := by
  simp only [build_backup_manifest_from_connection, ok_rules, hcut, Option.some.injEq, exists_eq_left',
    mapM_eq_ok_iff] at h
  obtain ⟨_, by_role, hrows, participants, hparticipants, rfl⟩ := h
  obtain ⟨_, hid⟩ := Store.cut_eq_some_iff.mp hcut
  refine ⟨by rw [← hid], hparticipants.imp fun role prepared hfind => ?_⟩
  have hrole : prepared.checkpoint.participant = role := by simpa using List.find?_some hfind
  obtain ⟨row, hrow, hprepared⟩ := exists_left_of_mem hrows (List.mem_of_find?_eq_some hfind)
  obtain ⟨hrow, hcut_id⟩ := List.mem_filter.mp ((sort_by_key_perm _ _).mem_iff.mp hrow)
  refine ⟨row, hrow, ?_, ?_, row.filled_of_prepared (hsound.filled row hrow) hprepared⟩
  · rw [hid]
    simpa using hcut_id
  · rw [← hrole]
    exact (prepared_participant_eq_ok_iff.mp hprepared).2.1.symm

/-- A registration of a manifested cut yields the participant of its role. -/
theorem prepared_participant_of_filled (hrow : row ∈ store.backup_participants.rows)
    (hid : row.cut_id = cut.cut_id)
    (h : ∃ other ∈ store.backup_participants.rows, other.cut_id = cut.cut_id ∧ other.participant = row.participant ∧
      other.Filled sha prepared.checkpoint prepared.prepared_event_sequence prepared.prepared_event_digest) :
    prepared_participant row = .ok prepared := by
  obtain ⟨other, hother, hother_id, hother_role, hfilled⟩ := h
  have hsame : other = row := Table.eq_of_conflict hother hrow (.inl ⟨hother_id.trans hid.symm, hother_role⟩)
  rw [hsame] at hfilled
  exact prepared_participant_eq_ok_iff.mpr ⟨hfilled.checkpoint_jcs, hfilled.participant,
    hfilled.prepared_event_sequence, hfilled.prepared_event_digest⟩

/-- The builder finds the participant of each role among what the registrations yield. -/
theorem find_role {rows : List BackupParticipantRow} {by_role : List PreparedParticipantV1}
    (hrows : ∀ {row}, row ∈ rows ↔ row ∈ store.backup_participants.rows ∧ row.cut_id = cut.cut_id)
    (hby_role : List.Forall₂ (fun row prepared => prepared_participant row = .ok prepared) rows by_role)
    {role : BackupParticipantV1}
    (h : ∃ row ∈ store.backup_participants.rows, row.cut_id = cut.cut_id ∧ row.participant = role ∧
      row.Filled sha prepared.checkpoint prepared.prepared_event_sequence prepared.prepared_event_digest) :
    by_role.find? (fun prepared => prepared.checkpoint.participant = role) = some prepared := by
  obtain ⟨row, hrow, hrow_id, rfl, hfilled⟩ := h
  obtain ⟨present, hpresent, hyields⟩ := exists_right_of_mem hby_role (hrows.mpr ⟨hrow, hrow_id⟩)
  obtain ⟨found, hfound⟩ : ∃ found, by_role.find?
      (fun prepared => prepared.checkpoint.participant = row.participant) = some found := by
    rw [← Option.isSome_iff_exists, List.find?_isSome]
    exact ⟨present, hpresent, decide_eq_true (prepared_participant_eq_ok_iff.mp hyields).2.1⟩
  have hfound_role : found.checkpoint.participant = row.participant := by simpa using List.find?_some hfound
  obtain ⟨other, hother, hother_yields⟩ := exists_left_of_mem hby_role (List.mem_of_find?_eq_some hfound)
  obtain ⟨hother, hother_id⟩ := hrows.mp hother
  have hother_role := (prepared_participant_eq_ok_iff.mp hother_yields).2.1
  have hsame := prepared_participant_of_filled hother hother_id
    ⟨row, hrow, hrow_id, hfound_role.symm.trans hother_role, hfilled⟩
  rw [hfound, Except.ok.inj (hother_yields.symm.trans hsame)]

/-- The builder yields the manifest of a cut whose roles have all prepared. -/
theorem build_of_manifested (hcut : store.cut cut_id = some cut)
    (hstate : cut.state = .Prepared ∨ cut.state = .Sealed ∨ cut.state = .Released)
    (h : Manifested sha store cut manifest) :
    build_backup_manifest_from_connection cut_id store = .ok manifest := by
  obtain ⟨_, rfl⟩ := Store.cut_eq_some_iff.mp hcut
  simp only [build_backup_manifest_from_connection, ok_rules, hcut, Option.some.injEq, exists_eq_left',
    mapM_eq_ok_iff]
  have hsorted : ∀ {row}, row ∈ sort_by_key (fun row : BackupParticipantRow => row.participant.as_str)
      (store.backup_participants.rows.filter fun row => row.cut_id = cut.cut_id) ↔
        row ∈ store.backup_participants.rows ∧ row.cut_id = cut.cut_id := by
    intro row
    rw [(sort_by_key_perm _ _).mem_iff, List.mem_filter, decide_eq_true_iff]
  obtain ⟨by_role, hby_role⟩ : ∃ by_role, List.Forall₂ (fun row prepared => prepared_participant row = .ok prepared)
      (sort_by_key (fun row => row.participant.as_str)
        (store.backup_participants.rows.filter fun row => row.cut_id = cut.cut_id)) by_role := by
    refine exists_forall₂ fun row hrow => ?_
    obtain ⟨hrow, hrow_id⟩ := hsorted.mp hrow
    have hrequired : row.participant ∈ REQUIRED_BACKUP_PARTICIPANTS := by cases row.participant <;> decide
    obtain ⟨prepared, _, hfilled⟩ := exists_right_of_mem h.roles hrequired
    exact ⟨prepared, prepared_participant_of_filled hrow hrow_id hfilled⟩
  exact ⟨by tauto, by_role, hby_role, manifest.participants,
    h.roles.imp fun role prepared hfilled => find_role hsorted hby_role hfilled, h.header.symm⟩

/-- A cut with three prepared roles has a manifest. -/
theorem exists_manifested (hsound : store.CutsSound sha) (hcut : cut ∈ store.backup_cuts.rows)
    (hcount : store.prepared_count cut.cut_id = 3) : ∃ manifest, Manifested sha store cut manifest := by
  have hperm := hsound.roles cut hcut
  have hlength : (store.registered cut.cut_id).length = 3 := by
    rw [← List.length_map BackupParticipantRow.participant, hperm.length_eq]
    rfl
  have hall : ∀ row ∈ store.registered cut.cut_id, row.checkpoint_digest.isSome = true := by
    rw [Store.prepared_count_eq, ← hlength] at hcount
    exact List.countP_eq_length.mp hcount
  obtain ⟨participants, hroles⟩ : ∃ participants, List.Forall₂ (store.Prepares sha cut)
      REQUIRED_BACKUP_PARTICIPANTS participants := by
    refine exists_forall₂ fun role hrole => ?_
    obtain ⟨row, hrow, rfl⟩ := List.mem_map.mp (hperm.mem_iff.mpr hrole)
    have hdigest := hall row hrow
    obtain ⟨hrow, hrow_id⟩ := List.mem_filter.mp hrow
    rcases hsound.filled row hrow with hempty | ⟨checkpoint, sequence, digest, hfilled⟩
    · rw [hempty.checkpoint_digest] at hdigest
      cases hdigest
    · exact ⟨⟨checkpoint, sequence, digest⟩, row, hrow, by simpa using hrow_id, rfl, hfilled⟩
  exact ⟨⟨"backup-cut/v1", cut.cut_id, cut.authority_domain, cut.epoch, cut.quiescence_barrier_id, participants⟩, rfl,
    hroles⟩

end Manifest

end ag_store.lib

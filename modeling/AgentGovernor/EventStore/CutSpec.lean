import AgentGovernor.EventStore.BackupCut
import AgentGovernor.EventStore.Sound

open ag_primitives Checked Relational Transaction Windows HashChain EventLog

namespace ag_store.lib

section Lookups

variable {store : Store} {cut_id : String} {participant : BackupParticipantV1}

theorem Store.cut_eq_some_iff {row : BackupCutRow} :
    store.cut cut_id = some row ↔ row ∈ store.backup_cuts.rows ∧ row.cut_id = cut_id :=
  Table.find?_eq_some_iff fun _ _ hleft hright => .inl (hleft.trans hright.symm)

theorem Store.cut_eq_none_iff : store.cut cut_id = none ↔ ∀ row ∈ store.backup_cuts.rows, row.cut_id ≠ cut_id := by
  simp [Store.cut, List.find?_eq_none]

theorem Store.participant_eq_some_iff {row : BackupParticipantRow} :
    store.participant cut_id participant = some row ↔
      row ∈ store.backup_participants.rows ∧ row.cut_id = cut_id ∧ row.participant = participant :=
  Table.find?_eq_some_iff fun _ _ hleft hright =>
    .inl ⟨hleft.1.trans hright.1.symm, hleft.2.trans hright.2.symm⟩

/-- The cut that fences a store is its only active one. -/
theorem active_backup_cut_eq_some_iff : active_backup_cut store = some cut_id ↔
    ∃ row ∈ store.backup_cuts.rows, row.state.active = true ∧ row.cut_id = cut_id := by
  have hunique : ∀ left right : BackupCutRow, left.state.active = true → right.state.active = true →
      conflict left right := by
    intro left right hleft hright
    simp only [conflict]
    tauto
  have hactive : ∀ row, store.backup_cuts.rows.find? (fun row => row.state.active) = some row ↔
      row ∈ store.backup_cuts.rows ∧ row.state.active = true := by
    intro row
    simpa using Table.find?_eq_some_iff hunique
  simp only [active_backup_cut, Option.map_eq_some_iff, hactive, and_assoc]

theorem event_receipt_by_sequence_eq_ok_iff {sequence : Nat} {receipt : EventReceiptV1} :
    event_receipt_by_sequence sequence store = .ok receipt ↔
      ∃ row ∈ store.events.rows, row.sequence = sequence ∧ receipt = row.receipt
        (store.events.rows.countP fun other => other.entity_id = row.entity_id ∧ other.sequence ≤ row.sequence) := by
  simp only [event_receipt_by_sequence, ok_rules, event_at_eq_some_iff]
  constructor
  · rintro ⟨row, ⟨hrow, rfl⟩, rfl⟩
    exact ⟨row, hrow, rfl, rfl⟩
  · rintro ⟨row, hrow, rfl, rfl⟩
    exact ⟨row, ⟨hrow, rfl⟩, rfl⟩

end Lookups

/-- An event of a cut is appended, and beside that only the tables of cuts are written. -/
def Recorded (append : StoreTx EventReceiptV1) (receipt : EventReceiptV1) (store store' : Store) : Prop :=
  ∃ appended, Returns append store receipt appended ∧
    store' = { appended with
      backup_cuts := store'.backup_cuts, backup_participants := store'.backup_participants }

/-- The rows of `backup_cuts` with the one of a cut changed. -/
def changed_cuts (cut_id : String) (change : BackupCutRow → BackupCutRow) (rows : List BackupCutRow) :
    List BackupCutRow :=
  rows.map fun row => if row.cut_id = cut_id then change row else row

/-- The rows of `backup_participants` with the one of a role prepared. -/
def prepared_rows (sha : Sha256) (cut_id : String) (checkpoint : BackupCheckpointV1) (receipt : EventReceiptV1)
    (rows : List BackupParticipantRow) : List BackupParticipantRow :=
  rows.map fun row =>
    if row.cut_id = cut_id ∧ row.participant = checkpoint.participant ∧ row.checkpoint_digest = none then
      prepared_row sha checkpoint receipt row
    else row

section Statements

variable {store store' : Store} {receipt : EventReceiptV1} {cut_id : String} {A : Type} {result : A}

/-- A statement that leaves the tables of cuts alone. -/
def KeepsCuts (append : StoreTx EventReceiptV1) : Prop :=
  ∀ {store receipt store'}, Returns append store receipt store' →
    store'.backup_cuts = store.backup_cuts ∧ store'.backup_participants = store.backup_participants

theorem append_keeps_cuts {sha : Sha256} {event : NewEventV1} {state : Serializable} {revision : Nat} :
    KeepsCuts (append_event_in_transaction sha event state revision) := by
  intro store receipt store' h
  obtain ⟨_, _, _, _, happended⟩ := returns_append_iff.mp h
  rw [happended.frame]
  exact ⟨rfl, rfl⟩

theorem returns_insert_registrations_bind_iff {registrations : List BackupParticipantRegistrationV1}
    {f : Unit → StoreTx A} :
    Returns (insert_registrations cut_id registrations >>= f) store result store' ↔
      ∃ rows : Table BackupParticipantRow,
        rows.rows = store.backup_participants.rows ++ registrations.map (registration_row cut_id) ∧
        Returns (f ()) { store with backup_participants := rows } result store' := by
  induction registrations generalizing store with
  | nil =>
    simp only [insert_registrations, List.map_nil, List.append_nil]
    constructor
    · intro h
      exact ⟨store.backup_participants, rfl, h⟩
    · rintro ⟨rows, hrows, h⟩
      rw [Table.ext_rows hrows] at h
      exact h
  | cons registration registrations ih =>
    rw [insert_registrations, bind_assoc_tx, returns_insert_row_bind_iff]
    simp only [ih]
    constructor
    · rintro ⟨first, hfirst, rows, hrows, h⟩
      refine ⟨rows, ?_, h⟩
      rw [hrows, hfirst]
      simp
    · rintro ⟨rows, hrows, h⟩
      -- the shorter table is a part of one that keeps its constraints
      have hdistinct := rows.distinct
      rw [hrows, List.map_cons, List.append_cons] at hdistinct
      exact ⟨⟨_, (List.pairwise_append.mp hdistinct).1⟩, rfl, rows, by rw [hrows]; simp, h⟩

/-- What follows an append writes the tables of cuts only. -/
theorem returns_recorded_iff {append : StoreTx EventReceiptV1} {f : EventReceiptV1 → StoreTx EventReceiptV1}
    {P : EventReceiptV1 → Store → Prop}
    (hf : ∀ written appended receipt store', Returns append store written appended →
      (Returns (f written) appended receipt store' ↔ written = receipt ∧ P receipt store' ∧
        store' = { appended with
          backup_cuts := store'.backup_cuts, backup_participants := store'.backup_participants })) :
    Returns (append >>= f) store receipt store' ↔ Recorded append receipt store store' ∧ P receipt store' := by
  rw [returns_bind_iff]
  constructor
  · rintro ⟨written, appended, happend, h⟩
    obtain ⟨rfl, hp, hstore⟩ := (hf written appended receipt store' happend).mp h
    exact ⟨⟨appended, happend, hstore⟩, hp⟩
  · rintro ⟨⟨appended, happend, hstore⟩, hp⟩
    exact ⟨receipt, appended, happend, (hf receipt appended receipt store' happend).mpr ⟨rfl, hp, hstore⟩⟩

theorem backup_state_in_transaction_eq_ok_iff {state : BackupCutStateV1} :
    backup_state_in_transaction cut_id store = .ok state ↔
      ∃ row, store.cut cut_id = some row ∧ row.state = state := by
  simp only [backup_state_in_transaction, ok_rules]

/-- The last statements of a call that updates the row of its cut. -/
theorem returns_update_cut_pure_iff {change : BackupCutRow → BackupCutRow} {written : EventReceiptV1} :
    Returns (update_cut cut_id change >>= fun _ => pure written) store receipt store' ↔
      written = receipt ∧ store'.backup_cuts.rows = changed_cuts cut_id change store.backup_cuts.rows ∧
        store' = { store with backup_cuts := store'.backup_cuts } := by
  simp only [update_cut, returns_update_rows_bind_iff, changed_cuts, returns_pure_iff]
  constructor
  · rintro ⟨rows, hrows, rfl, rfl⟩
    exact ⟨rfl, hrows, rfl⟩
  · rintro ⟨rfl, hrows, hstore⟩
    exact ⟨store'.backup_cuts, hrows, rfl, hstore.symm⟩

/-- A call that appends an event and then updates the row of its cut. -/
theorem returns_append_update_iff {append : StoreTx EventReceiptV1}
    {change : EventReceiptV1 → BackupCutRow → BackupCutRow} (hkeeps : KeepsCuts append) :
    Returns (append >>= fun written => update_cut cut_id (change written) >>= fun _ => pure written) store receipt
        store' ↔
      Recorded append receipt store store' ∧ store'.backup_participants = store.backup_participants ∧
        store'.backup_cuts.rows = changed_cuts cut_id (change receipt) store.backup_cuts.rows := by
  refine returns_recorded_iff (P := fun receipt store' => store'.backup_participants = store.backup_participants ∧
    store'.backup_cuts.rows = changed_cuts cut_id (change receipt) store.backup_cuts.rows) ?_
  intro written appended receipt store' happend
  obtain ⟨hcuts, hparticipants⟩ := hkeeps happend
  rw [returns_update_cut_pure_iff, hcuts]
  constructor
  · rintro ⟨rfl, hrows, hstore⟩
    rw [hstore]
    exact ⟨rfl, ⟨hparticipants, hrows⟩, rfl⟩
  · rintro ⟨rfl, ⟨hsame, hrows⟩, hstore⟩
    refine ⟨rfl, hrows, ?_⟩
    rw [hsame, ← hparticipants] at hstore
    exact hstore

end Statements

section Specs

variable {sha : Sha256} {store store' : Store} {receipt : EventReceiptV1} {cut_id : String} {at_unix_ms : Int64}

/-- What a begin does that is not a retry. -/
structure Begun (sha : Sha256) (request : BeginBackupCutV1) (receipt : EventReceiptV1) (store store' : Store) :
    Prop where
  unknown : store.cut request.cut_id = none
  unfenced : active_backup_cut store = none
  epoch : request.epoch.value.toNat ≤ I64_MAX
  recorded : Recorded (append_begun sha request) receipt store store'
  cuts : store'.backup_cuts.rows = store.backup_cuts.rows ++ [begin_row sha request receipt]
  participants : store'.backup_participants.rows =
    store.backup_participants.rows ++ request.participants.map (registration_row request.cut_id)

/-- A begin that finds its own cut. -/
def BeginRepeats (sha : Sha256) (request : BeginBackupCutV1) (receipt : EventReceiptV1) (store : Store) : Prop :=
  ∃ cut, store.cut request.cut_id = some cut ∧ cut.begin_request_digest = begin_request_digest sha request ∧
    event_receipt_by_sequence cut.begin_event_sequence store = .ok receipt

theorem returns_begin_iff {request : BeginBackupCutV1} :
    Returns (begin_backup_cut sha request) store receipt store' ↔ request.validate = .ok () ∧
      ((BeginRepeats sha request receipt store ∧ store = store') ∨ Begun sha request receipt store store') := by
  simp only [begin_backup_cut, returns_lift_bind_iff, exists_unit_iff, returns_query_bind_iff, Except.ok.injEq,
    exists_eq_left']
  refine and_congr_right fun _ => ?_
  cases hcut : store.cut request.cut_id with
  | some cut =>
    simp only [returns_lift_bind_iff, ok_rules, returns_query_iff]
    constructor
    · rintro ⟨hdigest, hreceipt, rfl⟩
      exact .inl ⟨⟨cut, hcut, hdigest, hreceipt⟩, rfl⟩
    · rintro (⟨⟨cut', hcut', hdigest, hreceipt⟩, rfl⟩ | h)
      · rw [hcut, Option.some.injEq] at hcut'
        subst hcut'
        exact ⟨hdigest, hreceipt, rfl⟩
      · rw [h.unknown] at hcut
        cases hcut
  | none =>
    simp only [returns_query_bind_iff, ok_rules, Bool.not_eq_true, Option.isSome_eq_false_iff,
      Option.isNone_iff_eq_none, returns_transaction_iff]
    rw [returns_recorded_iff (P := fun receipt store' => request.epoch.value.toNat ≤ I64_MAX ∧
      store'.backup_cuts.rows = store.backup_cuts.rows ++ [begin_row sha request receipt] ∧
      store'.backup_participants.rows =
        store.backup_participants.rows ++ request.participants.map (registration_row request.cut_id))]
    · constructor
      · rintro ⟨hactive, -, hrecorded, hepoch, hcuts, hparticipants⟩
        exact .inr ⟨hcut, hactive, hepoch, hrecorded, hcuts, hparticipants⟩
      · rintro (⟨⟨cut', hcut', _⟩, _⟩ | h)
        · rw [hcut] at hcut'
          cases hcut'
        · exact ⟨h.unfenced, h.unfenced, h.recorded, h.epoch, h.cuts, h.participants⟩
    · intro written appended receipt store' happend
      obtain ⟨hsame, hsame'⟩ := append_keeps_cuts happend
      simp only [returns_lift_bind_iff, to_i64_eq_ok_iff, returns_insert_row_bind_iff,
        returns_insert_registrations_bind_iff, returns_pure_iff, hsame, hsame']
      constructor
      · rintro ⟨_, ⟨hepoch, _⟩, cuts, hcuts, participants, hparticipants, rfl, rfl⟩
        exact ⟨rfl, ⟨hepoch, hcuts, hparticipants⟩, rfl⟩
      · rintro ⟨rfl, ⟨hepoch, hcuts, hparticipants⟩, hstore⟩
        exact ⟨_, ⟨hepoch, rfl⟩, store'.backup_cuts, hcuts, store'.backup_participants, hparticipants, rfl, hstore.symm⟩

section Prepare

variable {checkpoint : BackupCheckpointV1} {cut : BackupCutRow} {registered : BackupParticipantRow}

/-- What every prepare is checked for. -/
structure PrepareChecked (cut_id : String) (checkpoint : BackupCheckpointV1) (store : Store) (cut : BackupCutRow)
    (registered : BackupParticipantRow) : Prop where
  known : store.cut cut_id = some cut
  attested : checkpoint.quiescence_attestation.validate_for cut_id cut.authority_domain cut.epoch
    cut.quiescence_barrier_id checkpoint.participant = .ok ()
  role : store.participant cut_id checkpoint.participant = some registered
  identity : registered.component_identity = checkpoint.component_identity

/-- What a prepare does that is not a retry. -/
structure ParticipantPrepared (sha : Sha256) (cut_id : String) (checkpoint : BackupCheckpointV1)
    (at_unix_ms : Int64) (cut : BackupCutRow) (registered : BackupParticipantRow) (receipt : EventReceiptV1)
    (store store' : Store) : Prop where
  unprepared : registered.checkpoint_digest = none
  state : cut.state = .Preparing ∨ cut.state = .Prepared
  count : store.prepared_count cut_id + 1 ≤ 255
  recorded : Recorded (append_prepared sha cut_id checkpoint at_unix_ms
    (resulting_state (store.prepared_count cut_id + 1)) (store.prepared_count cut_id + 1)
    (materialized_revision (backup_entity_id cut_id) store)) receipt store store'
  participants : store'.backup_participants.rows =
    prepared_rows sha cut_id checkpoint receipt store.backup_participants.rows
  cuts : store'.backup_cuts.rows = changed_cuts cut_id
    (preparing_row (resulting_state (store.prepared_count cut_id + 1)) at_unix_ms) store.backup_cuts.rows

/-- A prepare that finds its own checkpoint. -/
def PrepareRepeats (sha : Sha256) (checkpoint : BackupCheckpointV1) (registered : BackupParticipantRow)
    (receipt : EventReceiptV1) (store : Store) : Prop :=
  registered.checkpoint_digest = some (checkpoint_digest sha checkpoint) ∧
    ∃ sequence, registered.prepared_event_sequence = some sequence ∧
      event_receipt_by_sequence sequence store = .ok receipt

/-- The statement that prepares a role changes its one row. -/
theorem prepared_selected_count (hregistered : store.participant cut_id checkpoint.participant = some registered)
    (hunprepared : registered.checkpoint_digest = none) :
    (store.backup_participants.rows.countP fun row => decide
      (row.cut_id = cut_id ∧ row.participant = checkpoint.participant ∧ row.checkpoint_digest = none)) = 1 := by
  obtain ⟨hrow, hcut, hrole⟩ := Store.participant_eq_some_iff.mp hregistered
  have hfilter : (store.backup_participants.rows.filter fun row => decide
      (row.cut_id = cut_id ∧ row.participant = checkpoint.participant ∧ row.checkpoint_digest = none)) =
        [registered] := by
    refine Table.filter_eq_singleton hrow (decide_eq_true ⟨hcut, hrole, hunprepared⟩) fun other hother => ?_
    obtain ⟨hcut', hrole', _⟩ := of_decide_eq_true hother
    exact .inl ⟨hcut'.trans hcut.symm, hrole'.trans hrole.symm⟩
  rw [List.countP_eq_length_filter, hfilter]
  rfl

/-- The transaction of a prepare that is not a retry. -/
theorem returns_prepare_fresh_iff (hcut : store.cut cut_id = some cut)
    (hregistered : store.participant cut_id checkpoint.participant = some registered)
    (hunprepared : registered.checkpoint_digest = none) :
    Returns (prepare_fresh sha cut_id checkpoint at_unix_ms) store receipt store' ↔
      ParticipantPrepared sha cut_id checkpoint at_unix_ms cut registered receipt store store' := by
  simp only [prepare_fresh, returns_transaction_iff, returns_query_bind_iff, returns_lift_bind_iff,
    backup_state_in_transaction_eq_ok_iff, hcut, Option.some.injEq, exists_eq_left', ok_rules, Except.ok.injEq,
    not_and_or, Nat.not_lt, gt_iff_lt]
  rw [returns_recorded_iff (P := fun receipt store' =>
    store'.backup_participants.rows = prepared_rows sha cut_id checkpoint receipt store.backup_participants.rows ∧
    store'.backup_cuts.rows = changed_cuts cut_id
      (preparing_row (resulting_state (store.prepared_count cut_id + 1)) at_unix_ms) store.backup_cuts.rows)]
  · constructor
    · rintro ⟨hstate, hcount, hrecorded, hparticipants, hcuts⟩
      exact ⟨hunprepared, hstate, hcount, hrecorded, hparticipants, hcuts⟩
    · intro h
      exact ⟨h.state, h.count, h.recorded, h.participants, h.cuts⟩
  · intro written appended receipt store' happend
    obtain ⟨hsame, hsame'⟩ := append_keeps_cuts happend
    simp only [returns_update_rows_bind_iff, returns_lift_bind_iff, ok_rules, returns_update_cut_pure_iff, hsame',
      prepared_selected_count hregistered hunprepared]
    constructor
    · rintro ⟨rows, hrows, _, rfl, hcuts, hstore⟩
      rw [hsame] at hcuts
      rw [hstore]
      exact ⟨rfl, ⟨hrows, hcuts⟩, rfl⟩
    · rintro ⟨rfl, ⟨hrows, hcuts⟩, hstore⟩
      exact ⟨store'.backup_participants, hrows, trivial, rfl, by rw [hsame]; exact hcuts, hstore⟩

theorem returns_prepare_iff :
    Returns (prepare_backup_participant sha cut_id checkpoint at_unix_ms) store receipt store' ↔
      ∃ cut registered, PrepareChecked cut_id checkpoint store cut registered ∧
        ((PrepareRepeats sha checkpoint registered receipt store ∧ store = store') ∨
          ParticipantPrepared sha cut_id checkpoint at_unix_ms cut registered receipt store store') := by
  simp only [prepare_backup_participant, returns_query_bind_iff, returns_lift_bind_iff, ok_rules]
  constructor
  · rintro ⟨cut, hcut, hattested, registered, hregistered, hidentity, h⟩
    refine ⟨cut, registered, ⟨hcut, hattested, hregistered, hidentity⟩, ?_⟩
    cases hprior : registered.checkpoint_digest with
    | some prior =>
      simp only [hprior, returns_lift_bind_iff, ok_rules, returns_query_iff] at h
      obtain ⟨hdigest, sequence, hsequence, hreceipt, rfl⟩ := h
      exact .inl ⟨⟨hprior.trans (congrArg some hdigest), sequence, hsequence, hreceipt⟩, rfl⟩
    | none =>
      simp only [hprior] at h
      exact .inr ((returns_prepare_fresh_iff hcut hregistered hprior).mp h)
  · rintro ⟨cut, registered, ⟨hcut, hattested, hregistered, hidentity⟩, h⟩
    refine ⟨cut, hcut, hattested, registered, hregistered, hidentity, ?_⟩
    rcases h with ⟨⟨hprior, sequence, hsequence, hreceipt⟩, rfl⟩ | h
    · simp only [hprior, returns_lift_bind_iff, ok_rules, returns_query_iff]
      exact ⟨trivial, sequence, hsequence, hreceipt, trivial⟩
    · simp only [h.unprepared]
      exact (returns_prepare_fresh_iff hcut hregistered h.unprepared).mpr h

end Prepare

section Seal

variable {manifest : BackupCutManifestV1}

/-- What a seal does that is not a retry. -/
structure CutSealed (sha : Sha256) (manifest : BackupCutManifestV1) (at_unix_ms : Int64) (cut : BackupCutRow)
    (receipt : EventReceiptV1) (store store' : Store) : Prop where
  unsealed : cut.manifest_digest = none
  built : build_backup_manifest_from_connection manifest.cut_id store = .ok manifest
  state : cut.state = .Prepared
  recorded : Recorded (append_sealed sha manifest at_unix_ms
    (materialized_revision (backup_entity_id manifest.cut_id) store)) receipt store store'
  participants : store'.backup_participants = store.backup_participants
  cuts : store'.backup_cuts.rows = changed_cuts manifest.cut_id
    (sealed_row (manifest_digest sha manifest) receipt at_unix_ms) store.backup_cuts.rows

/-- A seal that finds its own manifest. -/
def SealRepeats (sha : Sha256) (manifest : BackupCutManifestV1) (cut : BackupCutRow) (receipt : EventReceiptV1)
    (store : Store) : Prop :=
  cut.manifest_digest = some (manifest_digest sha manifest) ∧
    ∃ sequence, cut.seal_event_sequence = some sequence ∧ event_receipt_by_sequence sequence store = .ok receipt

theorem returns_seal_iff :
    Returns (seal_backup_cut sha manifest at_unix_ms) store receipt store' ↔
      ∃ cut, store.cut manifest.cut_id = some cut ∧
        ((SealRepeats sha manifest cut receipt store ∧ store = store') ∨
          CutSealed sha manifest at_unix_ms cut receipt store store') := by
  simp only [seal_backup_cut, returns_query_bind_iff, ok_or_eq_ok_iff]
  refine exists_congr fun cut => and_congr_right fun hcut => ?_
  cases hstored : cut.manifest_digest with
  | some stored =>
    simp only [returns_lift_bind_iff, ok_rules, returns_query_iff]
    constructor
    · rintro ⟨rfl, sequence, hsequence, hreceipt, rfl⟩
      exact .inl ⟨⟨hstored, sequence, hsequence, hreceipt⟩, rfl⟩
    · rintro (⟨⟨hdigest, sequence, hsequence, hreceipt⟩, rfl⟩ | h)
      · rw [hstored, Option.some.injEq] at hdigest
        exact ⟨hdigest, sequence, hsequence, hreceipt, rfl⟩
      · cases hstored.symm.trans h.unsealed
  | none =>
    simp only [returns_query_bind_iff, returns_lift_bind_iff, ok_rules, returns_transaction_iff,
      backup_state_in_transaction_eq_ok_iff, hcut, Option.some.injEq, exists_eq_left', Except.ok.injEq]
    have hkeeps : KeepsCuts (append_sealed sha manifest at_unix_ms
        (materialized_revision (backup_entity_id manifest.cut_id) store)) := append_keeps_cuts
    rw [returns_append_update_iff hkeeps]
    constructor
    · rintro ⟨_, hbuilt, rfl, hstate, hrecorded, hparticipants, hcuts⟩
      exact .inr ⟨hstored, hbuilt, hstate, hrecorded, hparticipants, hcuts⟩
    · rintro (⟨⟨hdigest, _⟩, _⟩ | h)
      · cases hstored.symm.trans hdigest
      · exact ⟨manifest, h.built, rfl, h.state, h.recorded, h.participants, h.cuts⟩

end Seal

section Release

variable {bundle_digest : Digest}

/-- What a release does that is not a retry. -/
structure CutReleased (sha : Sha256) (cut_id : String) (bundle_digest : Digest) (at_unix_ms : Int64)
    (cut : BackupCutRow) (receipt : EventReceiptV1) (store store' : Store) : Prop where
  state : cut.state = .Sealed
  recorded : ∃ sealed, cut.manifest_digest = some sealed ∧
    Recorded (append_released sha cut_id sealed bundle_digest at_unix_ms
      (materialized_revision (backup_entity_id cut_id) store)) receipt store store'
  participants : store'.backup_participants = store.backup_participants
  cuts : store'.backup_cuts.rows = changed_cuts cut_id (released_row bundle_digest receipt at_unix_ms)
    store.backup_cuts.rows

/-- A release that finds its own bundle. -/
def ReleaseRepeats (bundle_digest : Digest) (cut : BackupCutRow) (receipt : EventReceiptV1) (store : Store) : Prop :=
  cut.state = .Released ∧ cut.release_bundle_digest = some bundle_digest ∧
    ∃ sequence, cut.release_event_sequence = some sequence ∧ event_receipt_by_sequence sequence store = .ok receipt

theorem returns_release_iff :
    Returns (release_backup_cut sha cut_id bundle_digest at_unix_ms) store receipt store' ↔
      ∃ cut, store.cut cut_id = some cut ∧
        ((ReleaseRepeats bundle_digest cut receipt store ∧ store = store') ∨
          CutReleased sha cut_id bundle_digest at_unix_ms cut receipt store store') := by
  simp only [release_backup_cut, returns_query_bind_iff, ok_or_eq_ok_iff]
  refine exists_congr fun cut => and_congr_right fun hcut => ?_
  by_cases hreleased : cut.state = .Released
  · simp only [if_pos hreleased, returns_lift_bind_iff, ok_rules, returns_query_iff]
    constructor
    · rintro ⟨hbundle, sequence, hsequence, hreceipt, rfl⟩
      exact .inl ⟨⟨hreleased, hbundle, sequence, hsequence, hreceipt⟩, rfl⟩
    · rintro (⟨⟨_, hbundle, sequence, hsequence, hreceipt⟩, rfl⟩ | h)
      · exact ⟨hbundle, sequence, hsequence, hreceipt, rfl⟩
      · cases hreleased.symm.trans h.state
  · simp only [if_neg hreleased, returns_transaction_iff, returns_query_bind_iff, returns_lift_bind_iff,
    backup_state_in_transaction_eq_ok_iff, hcut, Option.some.injEq, exists_eq_left', ok_rules, Except.ok.injEq]
    have hkeeps : ∀ sealed, KeepsCuts (append_released sha cut_id sealed bundle_digest at_unix_ms
        (materialized_revision (backup_entity_id cut_id) store)) := fun _ => append_keeps_cuts
    simp only [returns_append_update_iff (hkeeps _)]
    constructor
    · rintro ⟨hstate, sealed, hsealed, hrecorded, hparticipants, hcuts⟩
      exact .inr ⟨hstate, ⟨sealed, hsealed, hrecorded⟩, hparticipants, hcuts⟩
    · rintro (⟨⟨hstate, _⟩, _⟩ | h)
      · exact absurd hstate hreleased
      · obtain ⟨sealed, hsealed, hrecorded⟩ := h.recorded
        exact ⟨h.state, sealed, hsealed, hrecorded, h.participants, h.cuts⟩

end Release

section Abort

variable {reason : String}

/-- What an abort does that is not a retry. -/
structure CutAborted (sha : Sha256) (cut_id reason : String) (at_unix_ms : Int64) (cut : BackupCutRow)
    (receipt : EventReceiptV1) (store store' : Store) : Prop where
  state : cut.state.active = true
  count : store.prepared_count cut_id ≤ 255
  recorded : Recorded (append_aborted sha cut_id reason cut.manifest_digest at_unix_ms (store.prepared_count cut_id)
    (materialized_revision (backup_entity_id cut_id) store)) receipt store store'
  participants : store'.backup_participants = store.backup_participants
  cuts : store'.backup_cuts.rows = changed_cuts cut_id (aborted_row reason receipt at_unix_ms) store.backup_cuts.rows

/-- An abort that finds its own reason. -/
def AbortRepeats (reason : String) (cut : BackupCutRow) (receipt : EventReceiptV1) (store : Store) : Prop :=
  cut.state = .Aborted ∧ cut.abort_reason = some reason ∧
    ∃ sequence, cut.abort_event_sequence = some sequence ∧ event_receipt_by_sequence sequence store = .ok receipt

theorem active_iff {state : BackupCutStateV1} :
    state.active = true ↔ ¬ (state ≠ .Preparing ∧ state ≠ .Prepared ∧ state ≠ .Sealed) := by
  cases state <;> decide

theorem returns_abort_iff :
    Returns (abort_backup_cut sha cut_id reason at_unix_ms) store receipt store' ↔
      validate_identifier "abort_reason" reason 256 = .ok () ∧ ∃ cut, store.cut cut_id = some cut ∧
        ((AbortRepeats reason cut receipt store ∧ store = store') ∨
          CutAborted sha cut_id reason at_unix_ms cut receipt store store') := by
  simp only [abort_backup_cut, returns_lift_bind_iff, ok_rules, returns_query_bind_iff]
  refine and_congr_right fun _ => exists_congr fun cut => and_congr_right fun hcut => ?_
  by_cases haborted : cut.state = .Aborted
  · simp only [if_pos haborted, returns_lift_bind_iff, ok_rules, returns_query_iff]
    constructor
    · rintro ⟨hreason, sequence, hsequence, hreceipt, rfl⟩
      exact .inl ⟨⟨haborted, hreason, sequence, hsequence, hreceipt⟩, rfl⟩
    · rintro (⟨⟨_, hreason, sequence, hsequence, hreceipt⟩, rfl⟩ | h)
      · exact ⟨hreason, sequence, hsequence, hreceipt, rfl⟩
      · have hactive := h.state
        rw [haborted] at hactive
        cases hactive
  · simp only [if_neg haborted, returns_transaction_iff, returns_query_bind_iff, returns_lift_bind_iff,
    backup_state_in_transaction_eq_ok_iff, hcut, Option.some.injEq, exists_eq_left', ok_rules, Except.ok.injEq,
    ← active_iff, gt_iff_lt, Nat.not_lt]
    have hkeeps : KeepsCuts (append_aborted sha cut_id reason cut.manifest_digest at_unix_ms
        (store.prepared_count cut_id) (materialized_revision (backup_entity_id cut_id) store)) :=
      append_keeps_cuts
    rw [returns_append_update_iff hkeeps]
    constructor
    · rintro ⟨hstate, hcount, hrecorded, hparticipants, hcuts⟩
      exact .inr ⟨hstate, hcount, hrecorded, hparticipants, hcuts⟩
    · rintro (⟨⟨hstate, _⟩, _⟩ | h)
      · exact absurd hstate haborted
      · exact ⟨h.state, h.count, h.recorded, h.participants, h.cuts⟩

end Abort

end Specs

end ag_store.lib

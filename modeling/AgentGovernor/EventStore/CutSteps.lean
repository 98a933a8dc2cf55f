import AgentGovernor.EventStore.CutInvariant

open ag_primitives Checked Relational Transaction Windows HashChain EventLog Lists

namespace ag_store.lib

section Changed

variable {store store' : Store} {cut row : BackupCutRow} {cut_id other : String}
  {change : BackupCutRow → BackupCutRow}

theorem mem_changed_cuts_iff (hcut : store.cut cut_id = some cut) :
    row ∈ changed_cuts cut_id change store.backup_cuts.rows ↔
      row = change cut ∨ row ∈ store.backup_cuts.rows ∧ row.cut_id ≠ cut_id := by
  unfold changed_cuts
  rw [List.mem_map]
  constructor
  · rintro ⟨present, hpresent, rfl⟩
    by_cases hid : present.cut_id = cut_id
    · have hsame := Store.cut_eq_some_iff.mpr ⟨hpresent, hid⟩
      rw [if_pos hid, ← Option.some.inj (hcut.symm.trans hsame)]
      exact .inl rfl
    · rw [if_neg hid]
      exact .inr ⟨hpresent, hid⟩
  · obtain ⟨hmem, hid⟩ := Store.cut_eq_some_iff.mp hcut
    rintro (rfl | ⟨hrow, hne⟩)
    · exact ⟨cut, hmem, if_pos hid⟩
    · exact ⟨row, hrow, if_neg hne⟩

/-- The changed cut is found under its identity. -/
theorem cut_of_changed (hcut : store.cut cut_id = some cut) (hid : (change cut).cut_id = cut.cut_id)
    (hcuts : store'.backup_cuts.rows = changed_cuts cut_id change store.backup_cuts.rows) :
    store'.cut cut_id = some (change cut) := by
  obtain ⟨_, rfl⟩ := Store.cut_eq_some_iff.mp hcut
  refine Store.cut_eq_some_iff.mpr ⟨?_, hid⟩
  rw [hcuts]
  exact (mem_changed_cuts_iff hcut).mpr (.inl rfl)

end Changed

section Preserved

variable {sha : Sha256} {store store' : Store} {receipt : EventReceiptV1} {cut_id : String} {cut : BackupCutRow}
  {at_unix_ms : Int64}

/-- What the invariant says of one cut. -/
structure Store.CutSound (sha : Sha256) (store : Store) (cut : BackupCutRow) : Prop where
  roles : ((store.registered cut.cut_id).map BackupParticipantRow.participant).Perm REQUIRED_BACKUP_PARTICIPANTS
  preparing : cut.state = .Preparing → store.prepared_count cut.cut_id < 3
  prepared : cut.state = .Prepared ∨ cut.state = .Sealed ∨ cut.state = .Released → store.prepared_count cut.cut_id = 3
  manifest : cut.state = .Sealed ∨ cut.state = .Released →
    ∃ manifest, Manifested sha store cut manifest ∧ cut.manifest_digest = some (manifest_digest sha manifest)
  checks : cut.Checked

theorem Store.CutsSound.each (h : store.CutsSound sha) (hcut : cut ∈ store.backup_cuts.rows) : store.CutSound sha cut :=
  ⟨h.roles cut hcut, h.preparing cut hcut, h.prepared cut hcut, h.manifest cut hcut, h.checks cut hcut⟩

theorem Store.CutsSound.of_each
    (hrows : ∀ row ∈ store.backup_participants.rows, (∃ cut ∈ store.backup_cuts.rows, cut.cut_id = row.cut_id) ∧
      (row.Empty ∨ ∃ checkpoint sequence digest, row.Filled sha checkpoint sequence digest))
    (heach : ∀ cut ∈ store.backup_cuts.rows, store.CutSound sha cut) : store.CutsSound sha where
  owned row hrow := (hrows row hrow).1
  roles cut hcut := (heach cut hcut).roles
  filled row hrow := (hrows row hrow).2
  preparing cut hcut := (heach cut hcut).preparing
  prepared cut hcut := (heach cut hcut).prepared
  manifest cut hcut := (heach cut hcut).manifest
  checks cut hcut := (heach cut hcut).checks

theorem Store.prepared_count_congr (h : store'.registered cut_id = store.registered cut_id) :
    store'.prepared_count cut_id = store.prepared_count cut_id := by
  rw [Store.prepared_count_eq, h, Store.prepared_count_eq]

/-- A cut stays sound while its registrations stay. -/
theorem Store.CutSound.later (h : store.CutSound sha cut)
    (hregistered : store'.registered cut.cut_id = store.registered cut.cut_id) : store'.CutSound sha cut := by
  have hcount := Store.prepared_count_congr hregistered
  refine ⟨hregistered ▸ h.roles, hcount ▸ h.preparing, hcount ▸ h.prepared, fun hstate => ?_, h.checks⟩
  obtain ⟨manifest, hmanifest, hdigest⟩ := h.manifest hstate
  exact ⟨manifest, hmanifest.later hregistered rfl, hdigest⟩

/-- The invariant reads the tables of cuts only. -/
theorem Store.CutsSound.congr (h : store.CutsSound sha) (hcuts : store'.backup_cuts = store.backup_cuts)
    (hparticipants : store'.backup_participants = store.backup_participants) : store'.CutsSound sha := by
  refine .of_each (fun row hrow => ?_) fun cut hcut =>
    (h.each (hcuts ▸ hcut)).later (Store.registered_congr hparticipants _)
  rw [hparticipants] at hrow
  rw [hcuts]
  exact ⟨h.owned row hrow, h.filled row hrow⟩

theorem BackupCutRow.Checked.unreleased (h : cut.Checked) (hstate : cut.state ≠ .Released) :
    cut.release_bundle_digest = none :=
  Option.not_isSome_iff_eq_none.mp (mt h.released.mpr hstate)

theorem BackupCutRow.Checked.unaborted (h : cut.Checked) (hstate : cut.state ≠ .Aborted) : cut.abort_reason = none :=
  Option.not_isSome_iff_eq_none.mp (mt h.aborted.mpr hstate)

theorem Store.fresh_cuts_sound (sha : Sha256) (identity : StoreIdentityV1) (objects : Digest → Option BlobFileV1) :
    (Store.fresh sha identity objects).CutsSound sha := by
  constructor <;> simp [Store.fresh]

/-- The registrations of a valid request are the required roles. -/
theorem BeginBackupCutV1.roles_perm {request : BeginBackupCutV1} (h : request.validate = .ok ()) :
    (request.participants.map BackupParticipantRegistrationV1.participant).Perm REQUIRED_BACKUP_PARTICIPANTS := by
  simp only [BeginBackupCutV1.validate, ok_rules] at h
  obtain ⟨_, _, ⟨hlength, hset⟩, _⟩ := h
  exact perm_of_toFinset_eq (by decide) (by rw [List.length_map, hlength]) hset

theorem Begun.cuts_sound {request : BeginBackupCutV1} (h : Begun sha request receipt store store')
    (hvalid : request.validate = .ok ()) (hsound : store.CutsSound sha) : store'.CutsSound sha := by
  have hmem : ∀ {cut}, cut ∈ store'.backup_cuts.rows ↔
      cut ∈ store.backup_cuts.rows ∨ cut = begin_row sha request receipt := by
    intro cut
    rw [h.cuts, List.mem_append, List.mem_singleton]
  refine .of_each (fun row hrow => ?_) fun cut hcut => ?_
  · rw [h.participants, List.mem_append] at hrow
    rcases hrow with hrow | hrow
    · obtain ⟨cut, hcut, hid⟩ := hsound.owned row hrow
      exact ⟨⟨cut, hmem.mpr (.inl hcut), hid⟩, hsound.filled row hrow⟩
    · obtain ⟨registration, _, rfl⟩ := List.mem_map.mp hrow
      exact ⟨⟨_, hmem.mpr (.inr rfl), rfl⟩, .inl ⟨rfl, rfl, rfl, rfl⟩⟩
  · rcases hmem.mp hcut with hcut | rfl
    · exact (hsound.each hcut).later (h.registered_other (Store.cut_eq_none_iff.mp h.unknown cut hcut))
    · have hregistered : store'.registered (begin_row sha request receipt).cut_id = _ := h.registered_self hsound
      refine ⟨?_, fun _ => ?_, by simp [begin_row], by simp [begin_row], by constructor <;> simp [begin_row]⟩
      · rw [hregistered, List.map_map]
        exact BeginBackupCutV1.roles_perm hvalid
      · have hzero : ((request.participants.map (registration_row request.cut_id)).countP fun row =>
            row.checkpoint_digest.isSome) = 0 := by
          rw [List.countP_eq_zero]
          intro row hrow
          obtain ⟨registration, _, rfl⟩ := List.mem_map.mp hrow
          simp [registration_row]
        rw [Store.prepared_count_eq, hregistered, hzero]
        decide

/-- A step on one cut keeps the invariant when the registrations of the others stay and what
it makes of the cut is sound. -/
theorem Store.CutsSound.changed {change : BackupCutRow → BackupCutRow} (hsound : store.CutsSound sha)
    (hcut : store.cut cut_id = some cut) (hid : (change cut).cut_id = cut.cut_id)
    (hcuts : store'.backup_cuts.rows = changed_cuts cut_id change store.backup_cuts.rows)
    (hrows : ∀ row ∈ store'.backup_participants.rows,
      (∃ present ∈ store.backup_participants.rows, present.cut_id = row.cut_id) ∧
        (row.Empty ∨ ∃ checkpoint sequence digest, row.Filled sha checkpoint sequence digest))
    (hother : ∀ other, other ≠ cut_id → store'.registered other = store.registered other)
    (hchanged : store'.CutSound sha (change cut)) : store'.CutsSound sha := by
  obtain ⟨hcut_mem, rfl⟩ := Store.cut_eq_some_iff.mp hcut
  have hmem : ∀ {row}, row ∈ store'.backup_cuts.rows ↔
      row = change cut ∨ row ∈ store.backup_cuts.rows ∧ row.cut_id ≠ cut.cut_id := by
    intro row
    rw [hcuts, mem_changed_cuts_iff hcut]
  refine .of_each (fun row hrow => ⟨?_, (hrows row hrow).2⟩) fun row hrow => ?_
  · obtain ⟨present, hpresent, hsame_id⟩ := (hrows row hrow).1
    obtain ⟨owner, howner, howns⟩ := hsound.owned present hpresent
    by_cases hsame : owner.cut_id = cut.cut_id
    · exact ⟨change cut, hmem.mpr (.inl rfl), hid.trans (hsame.symm.trans (howns.trans hsame_id))⟩
    · exact ⟨owner, hmem.mpr (.inr ⟨howner, hsame⟩), howns.trans hsame_id⟩
  · rcases hmem.mp hrow with rfl | ⟨hrow, hne⟩
    · exact hchanged
    · exact (hsound.each hrow).later (hother _ hne)

/-- Changing the row of a cut keeps the invariant when the new row keeps what the cut was
begun with and meets the invariant itself. -/
theorem Store.CutsSound.changed_row {change : BackupCutRow → BackupCutRow} (hsound : store.CutsSound sha)
    (hcut : store.cut cut_id = some cut) (hparticipants : store'.backup_participants = store.backup_participants)
    (hcuts : store'.backup_cuts.rows = changed_cuts cut_id change store.backup_cuts.rows)
    (hbegun : (change cut).begun = cut.begun) (hchecks : (change cut).Checked)
    (hpreparing : (change cut).state ≠ .Preparing)
    (hprepared : (change cut).state = .Prepared ∨ (change cut).state = .Sealed ∨ (change cut).state = .Released →
      store.prepared_count cut_id = 3)
    (hmanifest : (change cut).state = .Sealed ∨ (change cut).state = .Released →
      ∃ manifest, Manifested sha store cut manifest ∧
        (change cut).manifest_digest = some (manifest_digest sha manifest)) : store'.CutsSound sha := by
  obtain ⟨hcut_mem, rfl⟩ := Store.cut_eq_some_iff.mp hcut
  have hid : (change cut).cut_id = cut.cut_id := congrArg Prod.fst hbegun
  have hregistered := Store.registered_congr hparticipants
  refine hsound.changed hcut hid hcuts (fun row hrow => ?_) (fun other _ => hregistered other)
    ⟨?_, fun hstate => absurd hstate hpreparing, fun hstate => ?_, fun hstate => ?_, hchecks⟩
  · rw [hparticipants] at hrow
    exact ⟨⟨row, hrow, rfl⟩, hsound.filled row hrow⟩
  · rw [hid, hregistered]
    exact hsound.roles cut hcut_mem
  · rw [hid, Store.prepared_count_congr (hregistered _)]
    exact hprepared hstate
  · obtain ⟨manifest, hmanifested, hdigest⟩ := hmanifest hstate
    exact ⟨manifest, hmanifested.later (hregistered _) hbegun, hdigest⟩

theorem CutSealed.cuts_sound {manifest : BackupCutManifestV1} (hcut : store.cut manifest.cut_id = some cut)
    (h : CutSealed sha manifest at_unix_ms cut receipt store store') (hsound : store.CutsSound sha) :
    store'.CutsSound sha := by
  obtain ⟨hmem, hid⟩ := Store.cut_eq_some_iff.mp hcut
  have hchecks := hsound.checks cut hmem
  have hrelease := hchecks.unreleased (by rw [h.state]; decide)
  have habort := hchecks.unaborted (by rw [h.state]; decide)
  refine hsound.changed_row hcut h.participants h.cuts rfl ?_ (by simp [sealed_row]) ?_ ?_
  · constructor <;> simp [sealed_row, hrelease, habort]
  · intro _
    rw [← hid]
    exact hsound.prepared cut hmem (.inl h.state)
  · intro _
    exact ⟨manifest, manifested_of_build hsound hcut h.built, rfl⟩

theorem CutReleased.cuts_sound {bundle_digest : Digest} (hcut : store.cut cut_id = some cut)
    (h : CutReleased sha cut_id bundle_digest at_unix_ms cut receipt store store') (hsound : store.CutsSound sha) :
    store'.CutsSound sha := by
  obtain ⟨hmem, hid⟩ := Store.cut_eq_some_iff.mp hcut
  have hchecks := hsound.checks cut hmem
  have habort := hchecks.unaborted (by rw [h.state]; decide)
  refine hsound.changed_row hcut h.participants h.cuts rfl ?_ (by simp [released_row]) ?_ ?_
  · have hsealed := hchecks.sealed (.inl h.state)
    constructor <;> simp [released_row, habort, hsealed]
  · intro _
    rw [← hid]
    exact hsound.prepared cut hmem (.inr (.inl h.state))
  · intro _
    exact hsound.manifest cut hmem (.inl h.state)

theorem CutAborted.cuts_sound {reason : String} (hcut : store.cut cut_id = some cut)
    (h : CutAborted sha cut_id reason at_unix_ms cut receipt store store') (hsound : store.CutsSound sha) :
    store'.CutsSound sha := by
  obtain ⟨hmem, _⟩ := Store.cut_eq_some_iff.mp hcut
  have hchecks := hsound.checks cut hmem
  have hrelease := hchecks.unreleased (by intro hstate; have := h.state; rw [hstate] at this; cases this)
  refine hsound.changed_row hcut h.participants h.cuts rfl ?_ (by simp [aborted_row]) (by simp [aborted_row])
    (by simp [aborted_row])
  constructor <;> simp [aborted_row, hrelease]

end Preserved

section Prepare

variable {sha : Sha256} {store store' : Store} {receipt : EventReceiptV1} {cut_id : String} {cut : BackupCutRow}
  {at_unix_ms : Int64} {checkpoint : BackupCheckpointV1} {registered : BackupParticipantRow}

/-- While a role of a cut has not prepared, not all have. -/
theorem Store.CutsSound.prepared_count_lt (hsound : store.CutsSound sha)
    (hchecked : PrepareChecked cut_id checkpoint store cut registered)
    (hunprepared : registered.checkpoint_digest = none) : store.prepared_count cut_id < 3 := by
  obtain ⟨hmem, rfl⟩ := Store.cut_eq_some_iff.mp hchecked.known
  obtain ⟨hrow, hrow_id, _⟩ := Store.participant_eq_some_iff.mp hchecked.role
  have hlength : (store.registered cut.cut_id).length = 3 := by
    rw [← List.length_map BackupParticipantRow.participant, (hsound.roles cut hmem).length_eq]
    rfl
  have hregistered : registered ∈ store.registered cut.cut_id :=
    List.mem_filter.mpr ⟨hrow, decide_eq_true hrow_id⟩
  rw [Store.prepared_count_eq, ← hlength]
  refine lt_of_le_of_ne List.countP_le_length fun hall => ?_
  have hsome := List.countP_eq_length.mp hall registered hregistered
  rw [hunprepared] at hsome
  cases hsome

variable (h : ParticipantPrepared sha cut_id checkpoint at_unix_ms cut registered receipt store store')

include h

theorem ParticipantPrepared.was_preparing (hchecked : PrepareChecked cut_id checkpoint store cut registered)
    (hsound : store.CutsSound sha) : cut.state = .Preparing := by
  obtain ⟨hmem, hid⟩ := Store.cut_eq_some_iff.mp hchecked.known
  refine h.state.resolve_right fun hprepared => ?_
  have hcount := hsound.prepared cut hmem (.inl hprepared)
  have hlt := hsound.prepared_count_lt hchecked h.unprepared
  rw [hid] at hcount
  omega

theorem ParticipantPrepared.cuts_sound (hchecked : PrepareChecked cut_id checkpoint store cut registered)
    (hsound : store.CutsSound sha) : store'.CutsSound sha := by
  have hpreparing := h.was_preparing hchecked hsound
  have hlt := hsound.prepared_count_lt hchecked h.unprepared
  have hcount := h.prepared_count hchecked
  have hknown := hchecked.known
  obtain ⟨hcut_mem, rfl⟩ := Store.cut_eq_some_iff.mp hknown
  have hchecks := hsound.checks cut hcut_mem
  refine hsound.changed hknown rfl h.cuts (fun row hrow => ?_) (fun _ hne => h.registered_other hne) ?_
  · rw [h.participants, prepared_rows, List.mem_map] at hrow
    obtain ⟨present, hpresent, rfl⟩ := hrow
    split
    · next hselected =>
      have hsame := Store.participant_eq_some_iff.mpr ⟨hpresent, hselected.1, hselected.2.1⟩
      obtain rfl := Option.some.inj (hchecked.role.symm.trans hsame)
      exact ⟨⟨_, hpresent, rfl⟩, .inr ⟨checkpoint, receipt.sequence, receipt.event_digest, rfl, rfl, rfl, rfl,
        hselected.2.1.symm, hchecked.identity.symm⟩⟩
    · exact ⟨⟨_, hpresent, rfl⟩, hsound.filled present hpresent⟩
  · have hroles := hsound.roles cut hcut_mem
    rw [← prepared_rows_map (f := BackupParticipantRow.participant) fun _ => rfl, ← h.registered_self] at hroles
    have hchecked_row : ∀ state, state = .Prepared ∨ state = .Preparing →
        (preparing_row state at_unix_ms cut).Checked := by
      have hunsealed := hchecks.unsealed (.inl hpreparing)
      have hrelease := hchecks.unreleased (by rw [hpreparing]; decide)
      have habort := hchecks.unaborted (by rw [hpreparing]; decide)
      rintro _ (rfl | rfl) <;> constructor <;> simp [preparing_row, hunsealed, hrelease, habort]
    have hrequired : REQUIRED_BACKUP_PARTICIPANTS.length = 3 := rfl
    by_cases hall : store.prepared_count cut.cut_id + 1 = REQUIRED_BACKUP_PARTICIPANTS.length
    · rw [resulting_state, if_pos hall]
      exact ⟨hroles, by simp [preparing_row], fun _ => hcount.trans hall, by simp [preparing_row],
        hchecked_row _ (.inl rfl)⟩
    · rw [resulting_state, if_neg hall]
      refine ⟨hroles, fun _ => ?_, by simp [preparing_row], by simp [preparing_row], hchecked_row _ (.inr rfl)⟩
      rw [show (preparing_row .Preparing at_unix_ms cut).cut_id = cut.cut_id from rfl, hcount]
      omega

end Prepare

section Calls

variable {sha : Sha256} {store store' : Store} {receipt : EventReceiptV1}

theorem CutCall.Effect.cuts_sound {call : CutCall} (h : CutCall.Effect sha receipt store call store')
    (hsound : store.CutsSound sha) : store'.CutsSound sha := by
  cases h with
  | same => exact hsound
  | begun hvalid h => exact h.cuts_sound hvalid hsound
  | prepared hchecked h => exact h.cuts_sound hchecked hsound
  | sealed hcut h => exact h.cuts_sound hcut hsound
  | released hcut h => exact h.cuts_sound hcut hsound
  | aborted hcut h => exact h.cuts_sound hcut hsound

/-- A call that is not one of the lifecycle leaves the tables of cuts alone. -/
theorem StoreCall.keeps_cuts {call : StoreCall} (hcall : ∀ cut_call, call ≠ .cut cut_call) :
    (call.run sha store).backup_cuts = store.backup_cuts ∧
      (call.run sha store).backup_participants = store.backup_participants := by
  cases call with
  | append_event event state expected_revision =>
    rcases (append_event_atomic sha event state expected_revision).cases store with hsame | ⟨receipt, h⟩
    · rw [StoreCall.run, hsame]
      exact ⟨rfl, rfl⟩
    · exact append_keeps_cuts (returns_append_event_iff.mp h).2
  | append_distinct_event_pair first_event first_state first_revision second_event second_state second_revision =>
    rcases (append_distinct_event_pair_atomic sha first_event first_state first_revision second_event second_state
      second_revision).cases store with hsame | ⟨receipts, h⟩
    · rw [StoreCall.run, hsame]
      exact ⟨rfl, rfl⟩
    · obtain ⟨_, between, hfirst, hsecond⟩ := append_pair_cases h
      obtain ⟨hcuts, hparticipants⟩ := append_keeps_cuts hfirst
      obtain ⟨hcuts', hparticipants'⟩ := append_keeps_cuts hsecond
      exact ⟨hcuts'.trans hcuts, hparticipants'.trans hparticipants⟩
  | install_blob descriptor reader installed_at_unix_ms =>
    rw [StoreCall.run, (install_blob_keeps descriptor reader installed_at_unix_ms store).frame]
    exact ⟨rfl, rfl⟩
  | cut call => exact absurd rfl (hcall call)

/-- All that a call can do to the tables of cuts. -/
inductive StoreCall.Effect (sha : Sha256) (store : Store) : StoreCall → Store → Prop where
  | kept {call : StoreCall} {store' : Store} (hcuts : store'.backup_cuts = store.backup_cuts)
    (hparticipants : store'.backup_participants = store.backup_participants) : Effect sha store call store'
  | cut {call : CutCall} {receipt : EventReceiptV1} {store' : Store}
    (hreturns : Returns (call.perform sha) store receipt store')
    (h : CutCall.Effect sha receipt store call store') : Effect sha store (.cut call) store'

theorem StoreCall.effect (sha : Sha256) (store : Store) (call : StoreCall) :
    StoreCall.Effect sha store call (call.run sha store) := by
  by_cases hcall : ∃ cut_call, call = .cut cut_call
  · obtain ⟨call, rfl⟩ := hcall
    rcases (CutCall.atomic sha call).cases store with hsame | ⟨receipt, h⟩
    · exact .kept (congrArg Store.backup_cuts hsame) (congrArg Store.backup_participants hsame)
    · exact .cut h (CutCall.effect h)
  · push Not at hcall
    exact .kept (StoreCall.keeps_cuts hcall).1 (StoreCall.keeps_cuts hcall).2

theorem StoreCall.cuts_sound (hsound : store.CutsSound sha) (call : StoreCall) :
    (call.run sha store).CutsSound sha := by
  cases StoreCall.effect sha store call with
  | kept hcuts hparticipants => exact hsound.congr hcuts hparticipants
  | cut _ h => exact h.cuts_sound hsound

end Calls

end ag_store.lib

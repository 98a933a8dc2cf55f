import AgentGovernor.EventStore.CutSteps

open ag_primitives Checked Relational Transaction Windows HashChain EventLog Lists

namespace ag_store.lib

/-- The moves of a cut. -/
inductive BackupCutStateV1.Moves : BackupCutStateV1 → BackupCutStateV1 → Prop where
  | prepared : Moves .Preparing .Prepared
  | sealed : Moves .Prepared .Sealed
  | released : Moves .Sealed .Released
  | aborted {state : BackupCutStateV1} (hactive : state.active = true) : Moves state .Aborted

/-- What never changes of a cut: how it was begun, the seal once it has one, and everything
once it is final. -/
structure BackupCutRow.Later (row row' : BackupCutRow) : Prop where
  begun : row'.begun = row.begun
  sealed : row.manifest_digest.isSome = true →
    row'.manifest_digest = row.manifest_digest ∧ row'.seal_event_sequence = row.seal_event_sequence
  final : row.state.active = false → row' = row

/-- What one call does to a cut. -/
structure BackupCutRow.Moved (row row' : BackupCutRow) : Prop extends row.Later row' where
  state : row'.state = row.state ∨ row.state.Moves row'.state

/-- What never changes of a participant: its registration, and everything once it is prepared. -/
structure BackupParticipantRow.Later (row row' : BackupParticipantRow) : Prop where
  cut_id : row'.cut_id = row.cut_id
  participant : row'.participant = row.participant
  identity : row'.component_identity = row.component_identity
  prepared : row.checkpoint_digest.isSome = true → row' = row

/-- What one call does to the tables of cuts. -/
structure Store.Stepped (store store' : Store) : Prop where
  cuts : ∀ row ∈ store.backup_cuts.rows, ∃ row' ∈ store'.backup_cuts.rows, row.Moved row'
  origin : ∀ row' ∈ store'.backup_cuts.rows,
    (∃ row ∈ store.backup_cuts.rows, row.Moved row') ∨ row'.state = .Preparing
  participants : ∀ row ∈ store.backup_participants.rows, ∃ row' ∈ store'.backup_participants.rows, row.Later row'

/-- What calls leave behind stays there. -/
structure Store.Later (store store' : Store) : Prop where
  events : store.events.rows <+: store'.events.rows
  cuts : ∀ row ∈ store.backup_cuts.rows, ∃ row' ∈ store'.backup_cuts.rows, row.Later row'
  participants : ∀ row ∈ store.backup_participants.rows, ∃ row' ∈ store'.backup_participants.rows, row.Later row'

section Order

variable {sha : Sha256} {store store' store'' : Store}

theorem BackupCutRow.Later.refl (row : BackupCutRow) : row.Later row :=
  ⟨rfl, fun _ => ⟨rfl, rfl⟩, fun _ => rfl⟩

theorem BackupCutRow.Later.trans {row row' row'' : BackupCutRow} (h : row.Later row') (h' : row'.Later row'') :
    row.Later row'' := by
  refine ⟨h'.begun.trans h.begun, fun hsealed => ?_, fun hfinal => ?_⟩
  · obtain ⟨hdigest, hsequence⟩ := h.sealed hsealed
    obtain ⟨hdigest', hsequence'⟩ := h'.sealed (by rw [hdigest]; exact hsealed)
    exact ⟨hdigest'.trans hdigest, hsequence'.trans hsequence⟩
  · have hsame := h.final hfinal
    rw [hsame] at h'
    exact h'.final hfinal

theorem BackupCutRow.Moved.refl (row : BackupCutRow) : row.Moved row :=
  ⟨.refl row, .inl rfl⟩

theorem BackupParticipantRow.Later.refl (row : BackupParticipantRow) : row.Later row :=
  ⟨rfl, rfl, rfl, fun _ => rfl⟩

theorem BackupParticipantRow.Later.trans {row row' row'' : BackupParticipantRow} (h : row.Later row')
    (h' : row'.Later row'') : row.Later row'' := by
  refine ⟨h'.cut_id.trans h.cut_id, h'.participant.trans h.participant, h'.identity.trans h.identity,
    fun hprepared => ?_⟩
  have hsame := h.prepared hprepared
  rw [hsame] at h'
  exact h'.prepared hprepared

theorem Store.Stepped.of_same (hcuts : store'.backup_cuts = store.backup_cuts)
    (hparticipants : store'.backup_participants = store.backup_participants) : store.Stepped store' := by
  refine ⟨?_, ?_, ?_⟩
  · rw [hcuts]
    exact fun row hrow => ⟨row, hrow, .refl row⟩
  · rw [hcuts]
    exact fun row hrow => .inl ⟨row, hrow, .refl row⟩
  · rw [hparticipants]
    exact fun row hrow => ⟨row, hrow, .refl row⟩

theorem Store.Later.refl (store : Store) : store.Later store :=
  ⟨List.prefix_rfl, fun row hrow => ⟨row, hrow, .refl row⟩, fun row hrow => ⟨row, hrow, .refl row⟩⟩

theorem Store.Later.trans (h : store.Later store') (h' : store'.Later store'') : store.Later store'' := by
  refine ⟨h.events.trans h'.events, fun row hrow => ?_, fun row hrow => ?_⟩
  · obtain ⟨row', hrow', hlater⟩ := h.cuts row hrow
    obtain ⟨row'', hrow'', hlater'⟩ := h'.cuts row' hrow'
    exact ⟨row'', hrow'', hlater.trans hlater'⟩
  · obtain ⟨row', hrow', hlater⟩ := h.participants row hrow
    obtain ⟨row'', hrow'', hlater'⟩ := h'.participants row' hrow'
    exact ⟨row'', hrow'', hlater.trans hlater'⟩

theorem Store.Stepped.later (h : store.Stepped store') (hevents : store.events.rows <+: store'.events.rows) :
    store.Later store' := by
  refine ⟨hevents, fun row hrow => ?_, h.participants⟩
  obtain ⟨row', hrow', hmoved⟩ := h.cuts row hrow
  exact ⟨row', hrow', hmoved.toLater⟩

end Order

section Steps

variable {sha : Sha256} {store store' : Store} {receipt : EventReceiptV1} {cut_id : String} {cut : BackupCutRow}

/-- A call that changes the row of one cut. -/
theorem Store.Stepped.of_changed {change : BackupCutRow → BackupCutRow} (hcut : store.cut cut_id = some cut)
    (hcuts : store'.backup_cuts.rows = changed_cuts cut_id change store.backup_cuts.rows)
    (hmoved : cut.Moved (change cut))
    (hparticipants : ∀ row ∈ store.backup_participants.rows, ∃ row' ∈ store'.backup_participants.rows, row.Later row') :
    store.Stepped store' := by
  obtain ⟨hmem, rfl⟩ := Store.cut_eq_some_iff.mp hcut
  refine ⟨fun row hrow => ?_, fun row' hrow' => ?_, hparticipants⟩
  · by_cases hid : row.cut_id = cut.cut_id
    · obtain rfl : cut = row := Option.some.inj (hcut.symm.trans (Store.cut_eq_some_iff.mpr ⟨hrow, hid⟩))
      exact ⟨change cut, by rw [hcuts, mem_changed_cuts_iff hcut]; exact .inl rfl, hmoved⟩
    · exact ⟨row, by rw [hcuts, mem_changed_cuts_iff hcut]; exact .inr ⟨hrow, hid⟩, .refl row⟩
  · rw [hcuts, mem_changed_cuts_iff hcut] at hrow'
    rcases hrow' with rfl | ⟨hrow', _⟩
    · exact .inl ⟨cut, hmem, hmoved⟩
    · exact .inl ⟨row', hrow', .refl row'⟩

theorem participants_later_of_same (h : store'.backup_participants = store.backup_participants) :
    ∀ row ∈ store.backup_participants.rows, ∃ row' ∈ store'.backup_participants.rows, row.Later row' := by
  rw [h]
  exact fun row hrow => ⟨row, hrow, .refl row⟩

theorem Begun.stepped {request : BeginBackupCutV1} (h : Begun sha request receipt store store') :
    store.Stepped store' := by
  refine ⟨fun row hrow => ⟨row, ?_, .refl row⟩, fun row' hrow' => ?_, fun row hrow => ⟨row, ?_, .refl row⟩⟩
  · rw [h.cuts]
    exact List.mem_append_left _ hrow
  · rw [h.cuts, List.mem_append, List.mem_singleton] at hrow'
    rcases hrow' with hrow' | rfl
    · exact .inl ⟨row', hrow', .refl row'⟩
    · exact .inr rfl
  · rw [h.participants]
    exact List.mem_append_left _ hrow

variable {at_unix_ms : Int64}

theorem ParticipantPrepared.stepped {checkpoint : BackupCheckpointV1} {registered : BackupParticipantRow}
    (hchecked : PrepareChecked cut_id checkpoint store cut registered)
    (h : ParticipantPrepared sha cut_id checkpoint at_unix_ms cut registered receipt store store')
    (hsound : store.CutsSound sha) : store.Stepped store' := by
  have hpreparing := h.was_preparing hchecked hsound
  have hmoved : cut.Moved (preparing_row (resulting_state (store.prepared_count cut_id + 1)) at_unix_ms cut) := by
    refine ⟨⟨rfl, fun _ => ⟨rfl, rfl⟩, fun hfinal => ?_⟩, ?_⟩
    · rw [hpreparing] at hfinal
      cases hfinal
    · simp only [preparing_row, resulting_state, hpreparing]
      split
      · exact .inr .prepared
      · exact .inl rfl
  refine .of_changed hchecked.known h.cuts hmoved fun row hrow => ?_
  rw [h.participants, prepared_rows]
  refine ⟨_, List.mem_map_of_mem hrow, ?_⟩
  split
  · next hselected =>
    refine ⟨rfl, rfl, rfl, fun hsome => ?_⟩
    rw [hselected.2.2] at hsome
    cases hsome
  · exact .refl row

theorem CutSealed.stepped {manifest : BackupCutManifestV1} (hcut : store.cut manifest.cut_id = some cut)
    (h : CutSealed sha manifest at_unix_ms cut receipt store store') : store.Stepped store' := by
  refine .of_changed hcut h.cuts ⟨⟨rfl, fun hsome => ?_, fun hfinal => ?_⟩, .inr ?_⟩
    (participants_later_of_same h.participants)
  · rw [h.unsealed] at hsome
    cases hsome
  · rw [h.state] at hfinal
    cases hfinal
  · rw [h.state]
    exact .sealed

theorem CutReleased.stepped {bundle_digest : Digest} (hcut : store.cut cut_id = some cut)
    (h : CutReleased sha cut_id bundle_digest at_unix_ms cut receipt store store') : store.Stepped store' := by
  refine .of_changed hcut h.cuts ⟨⟨rfl, fun _ => ⟨rfl, rfl⟩, fun hfinal => ?_⟩, .inr ?_⟩
    (participants_later_of_same h.participants)
  · rw [h.state] at hfinal
    cases hfinal
  · rw [h.state]
    exact .released

theorem CutAborted.stepped {reason : String} (hcut : store.cut cut_id = some cut)
    (h : CutAborted sha cut_id reason at_unix_ms cut receipt store store') : store.Stepped store' := by
  refine .of_changed hcut h.cuts ⟨⟨rfl, fun _ => ⟨rfl, rfl⟩, fun hfinal => ?_⟩, .inr (.aborted h.state)⟩
    (participants_later_of_same h.participants)
  rw [h.state] at hfinal
  cases hfinal

theorem CutCall.Effect.stepped {call : CutCall} (h : CutCall.Effect sha receipt store call store')
    (hsound : store.CutsSound sha) : store.Stepped store' := by
  cases h with
  | same => exact .of_same rfl rfl
  | begun _ h => exact h.stepped
  | prepared hchecked h => exact h.stepped hchecked hsound
  | sealed hcut h => exact h.stepped hcut
  | released hcut h => exact h.stepped hcut
  | aborted hcut h => exact h.stepped hcut

theorem StoreCall.stepped (hsound : store.CutsSound sha) (call : StoreCall) : store.Stepped (call.run sha store) := by
  cases StoreCall.effect sha store call with
  | kept hcuts hparticipants => exact .of_same hcuts hparticipants
  | cut _ h => exact h.stepped hsound

end Steps

/-- Everything that holds of a store that calls lead to. -/
structure Store.Reached (sha : Sha256) (store : Store) : Prop where
  sound : store.Sound sha
  cuts : store.CutsSound sha

section Reached

variable {sha : Sha256} {store store' : Store}

theorem Store.fresh_reached (sha : Sha256) (identity : StoreIdentityV1) (objects : Digest → Option BlobFileV1) :
    (Store.fresh sha identity objects).Reached sha :=
  ⟨Store.fresh_sound sha identity objects, Store.fresh_cuts_sound sha identity objects⟩

theorem StoreCall.reached (h : store.Reached sha) (call : StoreCall) : (call.run sha store).Reached sha := by
  obtain ⟨_, hextended⟩ := StoreCall.extended h.sound call
  exact ⟨hextended.sound, StoreCall.cuts_sound h.cuts call⟩

theorem StoreCall.later (h : store.Reached sha) (call : StoreCall) : store.Later (call.run sha store) := by
  obtain ⟨_, hextended⟩ := StoreCall.extended h.sound call
  exact (StoreCall.stepped h.cuts call).later ⟨_, hextended.events.symm⟩

theorem CutCall.reached {call : CutCall} {receipt : EventReceiptV1}
    (h : Returns (call.perform sha) store receipt store')
    (hreached : store.Reached sha) : store'.Reached sha ∧ store.Later store' := by
  have hrun : (StoreCall.cut call).run sha store = store' := congrArg Prod.snd h
  rw [← hrun]
  exact ⟨StoreCall.reached hreached _, StoreCall.later hreached _⟩

/-- Whatever calls follow, a store stays sound and keeps what it has settled. -/
theorem Store.after_reached (h : store.Reached sha) (calls : List StoreCall) :
    (store.after sha calls).Reached sha ∧ store.Later (store.after sha calls) := by
  induction calls using List.reverseRecOn with
  | nil => exact ⟨h, .refl store⟩
  | append_singleton calls call ih =>
    rw [Store.after_append]
    exact ⟨StoreCall.reached ih.1 call, ih.2.trans (StoreCall.later ih.1 call)⟩

end Reached

section Repeats

variable {sha : Sha256} {store store' : Store} {receipt : EventReceiptV1} {cut_id : String}

theorem Store.Later.cut (h : store.Later store') {cut : BackupCutRow} (hcut : store.cut cut_id = some cut) :
    ∃ cut', store'.cut cut_id = some cut' ∧ cut.Later cut' := by
  obtain ⟨hmem, rfl⟩ := Store.cut_eq_some_iff.mp hcut
  obtain ⟨cut', hmem', hlater⟩ := h.cuts cut hmem
  exact ⟨cut', Store.cut_eq_some_iff.mpr ⟨hmem', congrArg Prod.fst hlater.begun⟩, hlater⟩

theorem Store.Later.participant (h : store.Later store') {participant : BackupParticipantV1}
    {row : BackupParticipantRow} (hrow : store.participant cut_id participant = some row) :
    ∃ row', store'.participant cut_id participant = some row' ∧ row.Later row' := by
  obtain ⟨hmem, rfl, rfl⟩ := Store.participant_eq_some_iff.mp hrow
  obtain ⟨row', hmem', hlater⟩ := h.participants row hmem
  exact ⟨row', Store.participant_eq_some_iff.mpr ⟨hmem', hlater.cut_id, hlater.participant⟩, hlater⟩

/-- A receipt that is counted again is the same: later events have later sequences. -/
theorem Store.Later.counted_receipt (h : store.Later store') (hsound : store'.Sound sha) {sequence : Nat}
    (hreceipt : event_receipt_by_sequence sequence store = .ok receipt) :
    event_receipt_by_sequence sequence store' = .ok receipt := by
  obtain ⟨row, hrow, hsequence, rfl⟩ := event_receipt_by_sequence_eq_ok_iff.mp hreceipt
  obtain ⟨added, hadded⟩ := h.events
  refine event_receipt_by_sequence_eq_ok_iff.mpr ⟨row, ?_, hsequence, ?_⟩
  · rw [← hadded]
    exact List.mem_append_left _ hrow
  · have hstrict := hsound.chain.strict
    rw [← hadded, List.pairwise_append] at hstrict
    have hnone : (added.countP fun other => other.entity_id = row.entity_id ∧ other.sequence ≤ row.sequence) = 0 := by
      rw [List.countP_eq_zero]
      intro other hother hcounted
      have hlater := hstrict.2.2 row hrow other hother
      have hearlier := (of_decide_eq_true hcounted).2
      omega
    rw [← hadded, List.countP_append, hnone, Nat.add_zero]

variable {call : CutCall} {event : NewEventV1} {revision : Nat} {state : Serializable}

/-- The receipt of an append is the one that is counted behind it. -/
theorem append_receipt (hsound : store.Sound sha)
    (h : Returns (append_event_in_transaction sha event state revision) store receipt store') :
    event_receipt_by_sequence receipt.sequence store' = .ok receipt := by
  have hsound' := append_sound hsound h
  obtain ⟨payload_jcs, state_jcs, haccepted, hreceipt, happended⟩ := returns_append_iff.mp h
  refine event_receipt_by_sequence_eq_ok_iff.mpr ⟨store.next_row sha event payload_jcs state_jcs, ?_, ?_, ?_⟩
  · rw [happended.events]
    exact List.mem_append_right _ (List.mem_singleton_self _)
  · rw [hreceipt]
    rfl
  · rw [hreceipt]
    congr 1
    have hall : (store'.events.rows.countP fun other =>
        other.entity_id = (store.next_row sha event payload_jcs state_jcs).entity_id ∧
          other.sequence ≤ (store.next_row sha event payload_jcs state_jcs).sequence) =
        EventLog.revision EventRow.entity_id store'.events.rows event.entity_id := by
      refine List.countP_congr fun other hother => ?_
      have hbound := (hsound'.chain.sequence_bounds hother).2
      rw [happended.frame] at hbound
      simp only [decide_eq_true_eq]
      exact ⟨And.left, fun hentity => ⟨hentity, hbound⟩⟩
    have hself : EventLog.revision EventRow.entity_id
        (store.events.rows ++ [store.next_row sha event payload_jcs state_jcs]) event.entity_id =
          EventLog.revision EventRow.entity_id store.events.rows event.entity_id + 1 :=
      revision_append_self store.events.rows (store.next_row sha event payload_jcs state_jcs)
    rw [hall, happended.events, hself, ← hsound.materialized_revision, haccepted.revision]

/-- A call that finds its own result. -/
def CutCall.Repeats (sha : Sha256) (receipt : EventReceiptV1) (store : Store) : CutCall → Prop
  | begin_backup_cut request => request.validate = .ok () ∧ BeginRepeats sha request receipt store
  | prepare_backup_participant cut_id checkpoint _ => ∃ cut registered,
    PrepareChecked cut_id checkpoint store cut registered ∧ PrepareRepeats sha checkpoint registered receipt store
  | seal_backup_cut manifest _ => ∃ cut, store.cut manifest.cut_id = some cut ∧
    SealRepeats sha manifest cut receipt store
  | release_backup_cut cut_id bundle_digest _ => ∃ cut, store.cut cut_id = some cut ∧
    ReleaseRepeats bundle_digest cut receipt store
  | abort_backup_cut cut_id reason _ => validate_identifier "abort_reason" reason 256 = .ok () ∧
    ∃ cut, store.cut cut_id = some cut ∧ AbortRepeats reason cut receipt store

theorem CutCall.Repeats.returns (h : call.Repeats sha receipt store) :
    Returns (call.perform sha) store receipt store := by
  cases call with
  | begin_backup_cut request => exact returns_begin_iff.mpr ⟨h.1, .inl ⟨h.2, rfl⟩⟩
  | prepare_backup_participant cut_id checkpoint at_unix_ms =>
    obtain ⟨cut, registered, hchecked, hrepeats⟩ := h
    exact returns_prepare_iff.mpr ⟨cut, registered, hchecked, .inl ⟨hrepeats, rfl⟩⟩
  | seal_backup_cut manifest at_unix_ms =>
    obtain ⟨cut, hcut, hrepeats⟩ := h
    exact returns_seal_iff.mpr ⟨cut, hcut, .inl ⟨hrepeats, rfl⟩⟩
  | release_backup_cut cut_id bundle_digest at_unix_ms =>
    obtain ⟨cut, hcut, hrepeats⟩ := h
    exact returns_release_iff.mpr ⟨cut, hcut, .inl ⟨hrepeats, rfl⟩⟩
  | abort_backup_cut cut_id reason at_unix_ms =>
    obtain ⟨hvalid, cut, hcut, hrepeats⟩ := h
    exact returns_abort_iff.mpr ⟨hvalid, cut, hcut, .inl ⟨hrepeats, rfl⟩⟩

/-- A result that is settled is found again later. -/
theorem CutCall.Repeats.later (h : call.Repeats sha receipt store) (hlater : store.Later store')
    (hsound : store'.Sound sha) : call.Repeats sha receipt store' := by
  cases call with
  | begin_backup_cut request =>
    obtain ⟨hvalid, cut, hcut, hdigest, hreceipt⟩ := h
    obtain ⟨cut', hcut', hrow⟩ := hlater.cut hcut
    have hbegun := hrow.begun
    simp only [BackupCutRow.begun, Prod.mk.injEq] at hbegun
    obtain ⟨_, _, _, _, hdigest', hsequence⟩ := hbegun
    refine ⟨hvalid, cut', hcut', hdigest'.trans hdigest, ?_⟩
    rw [hsequence]
    exact hlater.counted_receipt hsound hreceipt
  | prepare_backup_participant cut_id checkpoint at_unix_ms =>
    obtain ⟨cut, registered, hchecked, hdigest, sequence, hsequence, hreceipt⟩ := h
    obtain ⟨cut', hcut', hrow⟩ := hlater.cut hchecked.known
    obtain ⟨registered', hregistered', hrole⟩ := hlater.participant hchecked.role
    have hbegun := hrow.begun
    simp only [BackupCutRow.begun, Prod.mk.injEq] at hbegun
    obtain ⟨_, hdomain, hepoch, hbarrier, _⟩ := hbegun
    obtain rfl := hrole.prepared (by rw [hdigest]; rfl)
    refine ⟨cut', registered', ⟨hcut', ?_, hregistered', hchecked.identity⟩, hdigest, sequence, hsequence,
      hlater.counted_receipt hsound hreceipt⟩
    rw [hdomain, hepoch, hbarrier]
    exact hchecked.attested
  | seal_backup_cut manifest at_unix_ms =>
    obtain ⟨cut, hcut, hdigest, sequence, hsequence, hreceipt⟩ := h
    obtain ⟨cut', hcut', hrow⟩ := hlater.cut hcut
    obtain ⟨hdigest', hsequence'⟩ := hrow.sealed (by rw [hdigest]; rfl)
    exact ⟨cut', hcut', hdigest'.trans hdigest, sequence, hsequence'.trans hsequence,
      hlater.counted_receipt hsound hreceipt⟩
  | release_backup_cut cut_id bundle_digest at_unix_ms =>
    obtain ⟨cut, hcut, hstate, hbundle, sequence, hsequence, hreceipt⟩ := h
    obtain ⟨cut', hcut', hrow⟩ := hlater.cut hcut
    obtain rfl := hrow.final (by rw [hstate]; rfl)
    exact ⟨cut', hcut', hstate, hbundle, sequence, hsequence, hlater.counted_receipt hsound hreceipt⟩
  | abort_backup_cut cut_id reason at_unix_ms =>
    obtain ⟨hvalid, cut, hcut, hstate, hreason, sequence, hsequence, hreceipt⟩ := h
    obtain ⟨cut', hcut', hrow⟩ := hlater.cut hcut
    obtain rfl := hrow.final (by rw [hstate]; rfl)
    exact ⟨hvalid, cut', hcut', hstate, hreason, sequence, hsequence, hlater.counted_receipt hsound hreceipt⟩

/-- The receipt of a recorded event is the one that is counted behind it. -/
theorem Recorded.counted_receipt (h : Recorded (append_event_in_transaction sha event state revision)
    receipt store store')
    (hsound : store.Sound sha) : event_receipt_by_sequence receipt.sequence store' = .ok receipt := by
  obtain ⟨appended, hreturns, hframe⟩ := h
  have hcounted := append_receipt hsound hreturns
  rw [hframe]
  exact hcounted

/-- A call that succeeds has settled its result. -/
theorem CutCall.repeats (h : Returns (call.perform sha) store receipt store')
    (hsound : store.Sound sha) : call.Repeats sha receipt store' := by
  cases call with
  | begin_backup_cut request =>
    obtain ⟨hvalid, ⟨hrepeats, rfl⟩ | hbegun⟩ := returns_begin_iff.mp h
    · exact ⟨hvalid, hrepeats⟩
    · refine ⟨hvalid, begin_row sha request receipt, Store.cut_eq_some_iff.mpr ⟨?_, rfl⟩, rfl,
        Recorded.counted_receipt hbegun.recorded hsound⟩
      rw [hbegun.cuts]
      exact List.mem_append_right _ (List.mem_singleton_self _)
  | prepare_backup_participant cut_id checkpoint at_unix_ms =>
    obtain ⟨cut, registered, hchecked, ⟨hrepeats, rfl⟩ | hprepared⟩ := returns_prepare_iff.mp h
    · exact ⟨cut, registered, hchecked, hrepeats⟩
    · obtain ⟨hrow, hrow_id, hrow_role⟩ := Store.participant_eq_some_iff.mp hchecked.role
      have hrole : store'.participant cut_id checkpoint.participant =
          some (prepared_row sha checkpoint receipt registered) := by
        refine Store.participant_eq_some_iff.mpr ⟨?_, hrow_id, hrow_role⟩
        rw [hprepared.participants, prepared_rows, List.mem_map]
        exact ⟨registered, hrow, if_pos ⟨hrow_id, hrow_role, hprepared.unprepared⟩⟩
      exact ⟨_, _, ⟨cut_of_changed hchecked.known rfl hprepared.cuts, hchecked.attested, hrole, hchecked.identity⟩, rfl,
        receipt.sequence, rfl, Recorded.counted_receipt hprepared.recorded hsound⟩
  | seal_backup_cut manifest at_unix_ms =>
    obtain ⟨cut, hcut, ⟨hrepeats, rfl⟩ | hsealed⟩ := returns_seal_iff.mp h
    · exact ⟨cut, hcut, hrepeats⟩
    · exact ⟨_, cut_of_changed hcut rfl hsealed.cuts, rfl, receipt.sequence, rfl,
        Recorded.counted_receipt hsealed.recorded hsound⟩
  | release_backup_cut cut_id bundle_digest at_unix_ms =>
    obtain ⟨cut, hcut, ⟨hrepeats, rfl⟩ | hreleased⟩ := returns_release_iff.mp h
    · exact ⟨cut, hcut, hrepeats⟩
    · obtain ⟨_, _, hrecorded⟩ := hreleased.recorded
      exact ⟨_, cut_of_changed hcut rfl hreleased.cuts, rfl, rfl, receipt.sequence, rfl,
        Recorded.counted_receipt hrecorded hsound⟩
  | abort_backup_cut cut_id reason at_unix_ms =>
    obtain ⟨hvalid, cut, hcut, ⟨hrepeats, rfl⟩ | haborted⟩ := returns_abort_iff.mp h
    · exact ⟨hvalid, cut, hcut, hrepeats⟩
    · exact ⟨hvalid, _, cut_of_changed hcut rfl haborted.cuts, rfl, rfl, receipt.sequence, rfl,
        Recorded.counted_receipt haborted.recorded hsound⟩

end Repeats

end ag_store.lib

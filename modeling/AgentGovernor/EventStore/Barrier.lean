import AgentGovernor.EventStore.CutHistory

open ag_primitives Checked Relational Transaction Windows HashChain EventLog Lists

namespace ag_store.lib

section Fence

variable {sha : Sha256} {store store' : Store} {receipt : EventReceiptV1} {cut_id : String}

variable (h : active_backup_cut store = some cut_id)

include h

theorem append_event_fenced (event : NewEventV1) (state : Serializable) (expected_revision : Nat) :
    ∃ error, append_event sha event state expected_revision store = (.error error, store) := by
  refine (append_event_atomic sha event state expected_revision).refuses fun receipt store' hreturns => ?_
  cases h.symm.trans (returns_append_event_iff.mp hreturns).1

theorem append_pair_fenced (first_event second_event : NewEventV1)
    (first_state second_state : Serializable) (first_revision second_revision : Nat) :
    ∃ error, append_distinct_event_pair sha first_event first_state first_revision second_event second_state
      second_revision store = (.error error, store) := by
  refine (append_distinct_event_pair_atomic sha first_event first_state first_revision second_event second_state
    second_revision).refuses fun receipts store' hreturns => ?_
  cases h.symm.trans (append_pair_cases hreturns).1

/-- A blob that is not in the catalog is refused before a byte is read. -/
theorem install_blob_fenced {descriptor : BlobDescriptorV1}
    (hnew : store.blob descriptor.digest = none) (reader : Except StoreError BlobBytesV1)
    (installed_at_unix_ms : Int64) :
    install_blob descriptor reader installed_at_unix_ms store = (.error (.BackupBarrierActive cut_id), store) := by
  have hbarrier : ensure_no_backup_barrier store = .error (.BackupBarrierActive cut_id) := by
    rw [ensure_no_backup_barrier, h]
  unfold install_blob
  refine Eq.trans (query_bind_of_ok (a := none) ?_) ?_
  · exact congrArg Except.ok hnew
  · exact lift_bind_of_error hbarrier

omit h

/-- While a cut is active, a call of the lifecycle that writes is one of that cut. -/
theorem CutCall.fenced {call : CutCall} (h : Returns (call.perform sha) store receipt store')
    (hactive : active_backup_cut store = some cut_id) : store = store' ∨ call.cut_id = cut_id := by
  have hown : ∀ cut : BackupCutRow, store.cut call.cut_id = some cut → cut.state.active = true →
      call.cut_id = cut_id := by
    intro cut hcut hstate
    obtain ⟨hmem, hid⟩ := Store.cut_eq_some_iff.mp hcut
    have hsame := active_backup_cut_eq_some_iff.mpr ⟨cut, hmem, hstate, hid⟩
    exact Option.some.inj (hsame.symm.trans hactive)
  cases CutCall.effect h with
  | same => exact .inl rfl
  | begun _ h => cases hactive.symm.trans h.unfenced
  | prepared hchecked h =>
    refine .inr (hown _ hchecked.known ?_)
    rcases h.state with hstate | hstate <;> rw [hstate] <;> rfl
  | sealed hcut h => exact .inr (hown _ hcut (by rw [h.state]; rfl))
  | released hcut h => exact .inr (hown _ hcut (by rw [h.state]; rfl))
  | aborted hcut h => exact .inr (hown _ hcut h.state)

/-- While a cut is active, only its own events are appended. -/
theorem StoreCall.own_events (hsound : store.Sound sha) (hactive : active_backup_cut store = some cut_id)
    (call : StoreCall) : ∃ added, (call.run sha store).events.rows = store.events.rows ++ added ∧
      ∀ row ∈ added, row.entity_id = backup_entity_id cut_id := by
  have hnothing : ∀ {store' : Store}, store'.events = store.events → ∃ added,
      store'.events.rows = store.events.rows ++ added ∧ ∀ row ∈ added, row.entity_id = backup_entity_id cut_id := by
    intro store' hsame
    exact ⟨[], by rw [hsame, List.append_nil], by simp⟩
  cases call with
  | append_event event state expected_revision =>
    obtain ⟨_, hrefused⟩ := append_event_fenced hactive event state expected_revision
    exact hnothing (congrArg Store.events (congrArg Prod.snd hrefused))
  | append_distinct_event_pair first_event first_state first_revision second_event second_state second_revision =>
    obtain ⟨_, hrefused⟩ := append_pair_fenced hactive first_event second_event first_state second_state
      first_revision second_revision
    exact hnothing (congrArg Store.events (congrArg Prod.snd hrefused))
  | install_blob descriptor reader installed_at_unix_ms =>
    refine hnothing ?_
    rw [StoreCall.run, (install_blob_keeps descriptor reader installed_at_unix_ms store).frame]
  | cut call =>
    rcases (CutCall.atomic sha call).cases store with hsame | ⟨receipt, h⟩
    · exact hnothing (congrArg Store.events hsame)
    · rcases CutCall.fenced h hactive with hsame | hid
      · exact hnothing (congrArg Store.events hsame.symm)
      · rcases CutCall.cases h with hsame | ⟨event, state, revision, hentity, appended, hreturns, hframe⟩
        · exact hnothing (congrArg Store.events hsame.symm)
        · obtain ⟨row, hextended, _, hrow⟩ := append_extended hsound hreturns
          refine ⟨[row], ?_, List.forall_mem_singleton.mpr (hrow.trans (hentity.trans (by rw [hid])))⟩
          rw [StoreCall.run, hframe]
          exact hextended.events

end Fence

section Sealed

variable {sha : Sha256} {start store : Store} {calls : List StoreCall} {cut : BackupCutRow}
  {manifest : BackupCutManifestV1}

/-- The participants of a manifest are the registered ones. -/
theorem Manifested.registrations (h : Manifested sha store cut manifest) (hsound : store.CutsSound sha)
    (hcut : cut ∈ store.backup_cuts.rows) :
    (manifest.participants.map fun prepared => BackupParticipantRegistrationV1.mk prepared.checkpoint.participant
      prepared.checkpoint.component_identity).Perm
      ((store.registered cut.cut_id).map BackupParticipantRow.registration) := by
  have hroles : manifest.participants.map (fun prepared => prepared.checkpoint.participant) =
      REQUIRED_BACKUP_PARTICIPANTS := by
    refine (List.forall₂_eq_eq_eq ▸ List.forall₂_map_right_iff.mpr ?_ : REQUIRED_BACKUP_PARTICIPANTS = _).symm
    exact h.roles.imp fun role prepared ⟨row, _, _, hrole, hfilled⟩ => hrole.symm.trans hfilled.participant.symm
  have hleft : (manifest.participants.map fun prepared => BackupParticipantRegistrationV1.mk
      prepared.checkpoint.participant prepared.checkpoint.component_identity).Nodup := by
    refine List.Nodup.of_map BackupParticipantRegistrationV1.participant ?_
    rw [List.map_map]
    exact hroles ▸ (by decide : REQUIRED_BACKUP_PARTICIPANTS.Nodup)
  have hright : ((store.registered cut.cut_id).map BackupParticipantRow.registration).Nodup := by
    refine List.Nodup.of_map BackupParticipantRegistrationV1.participant ?_
    rw [List.map_map]
    exact (hsound.roles cut hcut).nodup_iff.mpr (by decide)
  rw [List.perm_ext_iff_of_nodup hleft hright]
  intro registration
  simp only [List.mem_map]
  constructor
  · rintro ⟨prepared, hprepared, rfl⟩
    obtain ⟨role, _, row, hrow, hid, _, hfilled⟩ := exists_left_of_mem h.roles hprepared
    refine ⟨row, List.mem_filter.mpr ⟨hrow, decide_eq_true hid⟩, ?_⟩
    rw [BackupParticipantRow.registration, hfilled.participant, hfilled.identity]
  · rintro ⟨row, hrow, rfl⟩
    obtain ⟨hrow, hid⟩ := List.mem_filter.mp hrow
    have hrequired : row.participant ∈ REQUIRED_BACKUP_PARTICIPANTS := by cases row.participant <;> decide
    obtain ⟨prepared, hprepared, other, hother, hother_id, hother_role, hfilled⟩ :=
      exists_right_of_mem h.roles hrequired
    have hsame : other = row := Table.eq_of_conflict hother hrow
      (.inl ⟨hother_id.trans (of_decide_eq_true hid).symm, hother_role⟩)
    rw [hsame] at hfilled
    exact ⟨prepared, hprepared, by rw [BackupParticipantRow.registration, hfilled.participant, hfilled.identity]⟩

/-- The checkpoints of a manifest are those that were accepted first. -/
theorem Manifested.checkpoints (h : Manifested sha store cut manifest) (hrecalls : Recalls sha start calls store) :
    List.Forall₂ (fun role (prepared : PreparedParticipantV1) => ∃ receipt,
      first_of sha (accepted_checkpoint sha cut.cut_id role) start calls = some (prepared.checkpoint, receipt) ∧
        prepared.prepared_event_sequence = receipt.sequence ∧ prepared.prepared_event_digest = receipt.event_digest)
      REQUIRED_BACKUP_PARTICIPANTS manifest.participants := by
  refine h.roles.imp ?_
  rintro role prepared ⟨row, hrow, hid, hrole, hfilled⟩
  have hrecalled := hrecalls.checkpoints row hrow
  rw [BackupParticipantRow.recorded_of_filled hfilled, hid, hrole] at hrecalled
  obtain ⟨⟨checkpoint, receipt⟩, hfirst, haccepted⟩ := Option.map_eq_some_iff.mp hrecalled.symm
  simp only [Prod.mk.injEq] at haccepted
  obtain ⟨rfl, hsequence, hdigest⟩ := haccepted
  exact ⟨receipt, hfirst, hsequence.symm, hdigest.symm⟩

end Sealed

/-- A new store recalls any run of it. -/
theorem Store.fresh_recalls (sha : Sha256) (identity : StoreIdentityV1) (objects : Digest → Option BlobFileV1)
    (calls : List StoreCall) : Recalls sha (.fresh sha identity objects) calls
      ((Store.fresh sha identity objects).after sha calls) := by
  induction calls using List.reverseRecOn with
  | nil => exact .fresh sha identity objects
  | append_singleton calls call ih =>
    exact ih.step (Store.after_reached (Store.fresh_reached sha identity objects) calls).1 call

/-- The barrier, behind any calls on a new store. At most one cut is active, and while one
is, nothing but its own events is written. The manifest of a sealed cut is the one of its
registered participants with the checkpoints that were accepted first. States move forward
only. A call that has succeeded returns the same receipt whenever it is repeated. -/
theorem backup_barrier (sha : Sha256) (identity : StoreIdentityV1) (objects : Digest → Option BlobFileV1)
    (calls : List StoreCall) :
    let start := Store.fresh sha identity objects
    let store := start.after sha calls
    (∀ left ∈ store.backup_cuts.rows, ∀ right ∈ store.backup_cuts.rows,
      left.state.active = true → right.state.active = true → left = right) ∧
    (∀ cut ∈ store.backup_cuts.rows, cut.state.active = true →
      (∀ event state expected_revision,
        ∃ error, append_event sha event state expected_revision store = (.error error, store)) ∧
      (∀ first_event first_state first_revision second_event second_state second_revision,
        ∃ error, append_distinct_event_pair sha first_event first_state first_revision second_event second_state
          second_revision store = (.error error, store)) ∧
      (∀ descriptor reader installed_at_unix_ms, store.blob descriptor.digest = none →
        install_blob descriptor reader installed_at_unix_ms store =
          (.error (.BackupBarrierActive cut.cut_id), store)) ∧
      ∀ call : StoreCall, ∃ added, (call.run sha store).events.rows = store.events.rows ++ added ∧
        ∀ row ∈ added, row.entity_id = backup_entity_id cut.cut_id) ∧
    (∀ cut ∈ store.backup_cuts.rows, cut.state = .Sealed ∨ cut.state = .Released →
      ∃ manifest registrations, cut.manifest_digest = some (manifest_digest sha manifest) ∧
        build_backup_manifest_from_connection cut.cut_id store = .ok manifest ∧
        first_of sha (accepted_registrations sha cut.cut_id) start calls = some registrations ∧
        (manifest.participants.map fun prepared => BackupParticipantRegistrationV1.mk
          prepared.checkpoint.participant prepared.checkpoint.component_identity).Perm registrations ∧
        List.Forall₂ (fun role (prepared : PreparedParticipantV1) => ∃ receipt,
          first_of sha (accepted_checkpoint sha cut.cut_id role) start calls = some (prepared.checkpoint, receipt) ∧
            prepared.prepared_event_sequence = receipt.sequence ∧
            prepared.prepared_event_digest = receipt.event_digest)
          REQUIRED_BACKUP_PARTICIPANTS manifest.participants) ∧
    (∀ call : StoreCall,
      (∀ row ∈ store.backup_cuts.rows, ∃ row' ∈ (call.run sha store).backup_cuts.rows, row'.cut_id = row.cut_id ∧
        (row'.state = row.state ∨ row.state.Moves row'.state)) ∧
      ∀ row' ∈ (call.run sha store).backup_cuts.rows, row'.state = .Preparing ∨
        ∃ row ∈ store.backup_cuts.rows, row'.cut_id = row.cut_id ∧
          (row'.state = row.state ∨ row.state.Moves row'.state)) ∧
    ∀ (call : CutCall) receipt store', call.perform sha store = (.ok receipt, store') → ∀ later,
      call.perform sha (store'.after sha later) = (.ok receipt, store'.after sha later) := by
  intro start store
  have hreached : store.Reached sha := (Store.after_reached (Store.fresh_reached sha identity objects) calls).1
  have hrecalls : Recalls sha start calls store := Store.fresh_recalls sha identity objects calls
  refine ⟨?_, ?_, ?_, ?_, ?_⟩
  · intro left hleft right hright hactive hactive'
    refine Table.eq_of_conflict hleft hright ?_
    simp only [conflict]
    tauto
  · intro cut hcut hstate
    have hactive := active_backup_cut_eq_some_iff.mpr ⟨cut, hcut, hstate, rfl⟩
    exact ⟨append_event_fenced hactive, fun _ _ _ _ _ _ => append_pair_fenced hactive _ _ _ _ _ _,
      fun descriptor reader at_unix_ms hnew => install_blob_fenced hactive hnew reader at_unix_ms,
      StoreCall.own_events hreached.sound hactive⟩
  · intro cut hcut hstate
    obtain ⟨manifest, hmanifest, hdigest⟩ := hreached.cuts.manifest cut hcut hstate
    have hknown : store.cut cut.cut_id = some cut := Store.cut_eq_some_iff.mpr ⟨hcut, rfl⟩
    refine ⟨manifest, _, hdigest, build_of_manifested hknown (.inr hstate) hmanifest, ?_,
      hmanifest.registrations hreached.cuts hcut, hmanifest.checkpoints hrecalls⟩
    rcases hrecalls.registrations cut.cut_id with ⟨hunknown, _⟩ | ⟨_, hfirst⟩
    · rw [hknown] at hunknown
      cases hunknown
    · exact hfirst
  · intro call
    have hstepped := StoreCall.stepped hreached.cuts call
    refine ⟨fun row hrow => ?_, fun row' hrow' => ?_⟩
    · obtain ⟨row', hrow', hmoved⟩ := hstepped.cuts row hrow
      exact ⟨row', hrow', congrArg Prod.fst hmoved.begun, hmoved.state⟩
    · rcases hstepped.origin row' hrow' with ⟨row, hrow, hmoved⟩ | hstate
      · exact .inr ⟨row, hrow, congrArg Prod.fst hmoved.begun, hmoved.state⟩
      · exact .inl hstate
  · intro call receipt store' hreturns later
    have hrun : StoreCall.run sha store (.cut call) = store' := congrArg Prod.snd hreturns
    have hreached' : store'.Reached sha := hrun ▸ StoreCall.reached hreached (.cut call)
    obtain ⟨hlater_reached, hlater⟩ := Store.after_reached hreached' later
    exact ((CutCall.repeats hreturns hreached.sound).later hlater hlater_reached.sound).returns

end ag_store.lib

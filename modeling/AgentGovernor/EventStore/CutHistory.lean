import AgentGovernor.EventStore.Settled

open ag_primitives Checked Relational Transaction Windows HashChain EventLog Lists

namespace ag_store.lib

section History

variable {A : Type}

/-- The first result that a reading of calls yields along a run. -/
def first_of (sha : Sha256) (reading : Store → StoreCall → Option A) (store : Store) : List StoreCall → Option A
  | [] => none
  | call :: calls => (reading store call).or (first_of sha reading (call.run sha store) calls)

theorem first_of_append (sha : Sha256) (reading : Store → StoreCall → Option A) (store : Store)
    (calls : List StoreCall) (call : StoreCall) :
    first_of sha reading store (calls ++ [call]) =
      (first_of sha reading store calls).or (reading (store.after sha calls) call) := by
  induction calls generalizing store with
  | nil => simp [first_of, Store.after]
  | cons first calls ih =>
    rw [List.cons_append, first_of, ih, first_of, Option.or_assoc]
    rfl

/-- The registrations a call is accepted with for a cut. -/
def accepted_registrations (sha : Sha256) (cut_id : String) (store : Store) :
    StoreCall → Option (List BackupParticipantRegistrationV1)
  | .cut (.begin_backup_cut request) =>
    if request.cut_id = cut_id then
      match (begin_backup_cut sha request store).1 with
      | .ok _ => some request.participants
      | .error _ => none
    else none
  | _ => none

/-- The checkpoint a call is accepted with for a role of a cut, and its receipt. -/
def accepted_checkpoint (sha : Sha256) (cut_id : String) (role : BackupParticipantV1) (store : Store) :
    StoreCall → Option (BackupCheckpointV1 × EventReceiptV1)
  | .cut (.prepare_backup_participant id checkpoint occurred_at_unix_ms) =>
    if id = cut_id ∧ checkpoint.participant = role then
      match (prepare_backup_participant sha id checkpoint occurred_at_unix_ms store).1 with
      | .ok receipt => some (checkpoint, receipt)
      | .error _ => none
    else none
  | _ => none

variable {call : StoreCall} {cut_id : String} {sha : Sha256} {store : Store}

theorem accepted_registrations_eq_some_iff {registrations : List BackupParticipantRegistrationV1} :
    accepted_registrations sha cut_id store call = some registrations ↔
      ∃ request receipt store', call = .cut (.begin_backup_cut request) ∧ request.cut_id = cut_id ∧
        request.participants = registrations ∧ Returns (begin_backup_cut sha request) store receipt store' := by
  constructor
  · intro h
    unfold accepted_registrations at h
    split at h
    · next request =>
      split at h
      · next hid =>
        split at h
        · next receipt hreceipt =>
          exact ⟨request, receipt, _, rfl, hid, Option.some.inj h, Prod.ext hreceipt rfl⟩
        · cases h
      · cases h
    · cases h
  · rintro ⟨request, receipt, store', rfl, rfl, rfl, hreturns⟩
    simp only [accepted_registrations, if_true, congrArg Prod.fst hreturns]

theorem accepted_checkpoint_eq_some_iff {role : BackupParticipantV1} {checkpoint : BackupCheckpointV1}
    {receipt : EventReceiptV1} :
    accepted_checkpoint sha cut_id role store call = some (checkpoint, receipt) ↔
      ∃ occurred_at_unix_ms store', call = .cut (.prepare_backup_participant cut_id checkpoint occurred_at_unix_ms) ∧
        checkpoint.participant = role ∧
        Returns (prepare_backup_participant sha cut_id checkpoint occurred_at_unix_ms) store receipt store' := by
  constructor
  · intro h
    unfold accepted_checkpoint at h
    split at h
    · next id checkpoint' at_unix_ms =>
      split at h
      · next hid =>
        obtain ⟨rfl, hrole⟩ := hid
        split at h
        · next receipt' hreceipt =>
          obtain ⟨rfl, rfl⟩ := Prod.mk.inj (Option.some.inj h)
          exact ⟨at_unix_ms, _, rfl, hrole, Prod.ext hreceipt rfl⟩
        · cases h
      · cases h
    · cases h
  · rintro ⟨at_unix_ms, store', rfl, rfl, hreturns⟩
    simp only [accepted_checkpoint, and_self, if_true, congrArg Prod.fst hreturns]

end History

section Tables

/-- The registration of a participant. -/
def BackupParticipantRow.registration (row : BackupParticipantRow) : BackupParticipantRegistrationV1 :=
  { participant := row.participant, component_identity := row.component_identity }

/-- What a participant has prepared. -/
def BackupParticipantRow.recorded (row : BackupParticipantRow) : Option (BackupCheckpointV1 × Nat × Digest) :=
  match row.checkpoint_jcs, row.prepared_event_sequence, row.prepared_event_digest with
  | some checkpoint, some sequence, some digest => some (checkpoint, sequence, digest)
  | _, _, _ => none

variable {sha : Sha256} {store store' : Store} {receipt : EventReceiptV1} {cut_id : String}

theorem changed_cuts_ids {change : BackupCutRow → BackupCutRow} (h : ∀ row, (change row).cut_id = row.cut_id)
    (rows : List BackupCutRow) :
    (changed_cuts cut_id change rows).map BackupCutRow.cut_id = rows.map BackupCutRow.cut_id := by
  unfold changed_cuts
  rw [List.map_map]
  refine List.map_congr_left fun row _ => ?_
  simp only [Function.comp]
  split
  · exact h row
  · rfl

/-- The call begins a cut. -/
def StoreCall.Begins (sha : Sha256) (store : Store) (call : StoreCall) : Prop :=
  ∃ request receipt store', call = .cut (.begin_backup_cut request) ∧
    Returns ((CutCall.begin_backup_cut request).perform sha) store receipt store' ∧
    Begun sha request receipt store store'

/-- Only a begin adds a cut. -/
theorem StoreCall.ids_same {call : StoreCall} (hcall : ¬ call.Begins sha store) :
    (call.run sha store).backup_cuts.rows.map BackupCutRow.cut_id =
      store.backup_cuts.rows.map BackupCutRow.cut_id := by
  have hchanged : ∀ {store' : Store} {cut_id : String} {change : BackupCutRow → BackupCutRow},
      store'.backup_cuts.rows = changed_cuts cut_id change store.backup_cuts.rows →
      (∀ row, (change row).cut_id = row.cut_id) →
      store'.backup_cuts.rows.map BackupCutRow.cut_id = store.backup_cuts.rows.map BackupCutRow.cut_id :=
    fun hcuts hid => hcuts ▸ changed_cuts_ids hid _
  have heffect := StoreCall.effect sha store call
  generalize call.run sha store = store' at heffect
  cases heffect with
  | kept hcuts _ => rw [hcuts]
  | cut hreturns h =>
    cases h with
    | same => rfl
    | begun _ h => exact absurd ⟨_, _, _, rfl, hreturns, h⟩ hcall
    | prepared _ h => exact hchanged h.cuts fun _ => rfl
    | sealed _ h => exact hchanged h.cuts fun _ => rfl
    | released _ h => exact hchanged h.cuts fun _ => rfl
    | aborted _ h => exact hchanged h.cuts fun _ => rfl

/-- The call prepares a participant for the first time. -/
def StoreCall.Prepares (sha : Sha256) (store : Store) (call : StoreCall) : Prop :=
  ∃ cut_id checkpoint at_unix_ms cut registered receipt store',
    call = .cut (.prepare_backup_participant cut_id checkpoint at_unix_ms) ∧
    Returns ((CutCall.prepare_backup_participant cut_id checkpoint at_unix_ms).perform sha) store receipt store' ∧
    PrepareChecked cut_id checkpoint store cut registered ∧
    ParticipantPrepared sha cut_id checkpoint at_unix_ms cut registered receipt store store'

theorem StoreCall.run_of_returns {call : CutCall} (h : Returns (call.perform sha) store receipt store') :
    (StoreCall.cut call).run sha store = store' :=
  congrArg Prod.snd h

/-- Only a begin and a prepare write participants. -/
theorem StoreCall.participants_cases (sha : Sha256) (store : Store) (call : StoreCall) :
    (call.run sha store).backup_participants = store.backup_participants ∨ call.Begins sha store ∨
      call.Prepares sha store := by
  have heffect := StoreCall.effect sha store call
  generalize call.run sha store = store' at heffect
  cases heffect with
  | kept _ hparticipants => exact .inl hparticipants
  | cut hreturns h =>
    cases h with
    | same => exact .inl rfl
    | begun _ h => exact .inr (.inl ⟨_, _, _, rfl, hreturns, h⟩)
    | prepared hchecked h => exact .inr (.inr ⟨_, _, _, _, _, _, _, rfl, hreturns, hchecked, h⟩)
    | sealed _ h => exact .inl h.participants
    | released _ h => exact .inl h.participants
    | aborted _ h => exact .inl h.participants

/-- Only a begin registers. -/
theorem StoreCall.registrations_same {call : StoreCall} (hcall : ¬ call.Begins sha store)
    (cut_id : String) : ((call.run sha store).registered cut_id).map BackupParticipantRow.registration =
      (store.registered cut_id).map BackupParticipantRow.registration := by
  obtain hsame | hbegins | ⟨_, _, _, _, _, _, _, rfl, hreturns, _, hprepared⟩ :=
    StoreCall.participants_cases sha store call
  · rw [Store.registered_congr hsame]
  · exact absurd hbegins hcall
  · rw [StoreCall.run_of_returns hreturns, Store.registered, hprepared.participants, prepared_rows_filter,
      prepared_rows_map (f := BackupParticipantRow.registration) fun _ => rfl]
    rfl

theorem Store.cut_isSome_congr (h : store'.backup_cuts.rows.map BackupCutRow.cut_id =
    store.backup_cuts.rows.map BackupCutRow.cut_id) (cut_id : String) :
    (store'.cut cut_id).isSome = (store.cut cut_id).isSome := by
  have hiff : ∀ store : Store, (store.cut cut_id).isSome = true ↔
      cut_id ∈ store.backup_cuts.rows.map BackupCutRow.cut_id := by
    intro store
    rw [Store.cut, List.find?_isSome, List.mem_map]
    simp
  rw [Bool.eq_iff_iff, hiff, hiff, h]

end Tables

/-- What the tables of cuts recall of a run: the first accepted registrations of each cut,
and the first accepted checkpoint of each role. -/
structure Recalls (sha : Sha256) (start : Store) (calls : List StoreCall) (store : Store) : Prop where
  registrations : ∀ cut_id, (store.cut cut_id).isSome = false ∧
      first_of sha (accepted_registrations sha cut_id) start calls = none ∨
    (store.cut cut_id).isSome = true ∧ first_of sha (accepted_registrations sha cut_id) start calls =
      some ((store.registered cut_id).map BackupParticipantRow.registration)
  checkpoints : ∀ row ∈ store.backup_participants.rows, row.recorded =
    (first_of sha (accepted_checkpoint sha row.cut_id row.participant) start calls).map fun accepted =>
      (accepted.1, accepted.2.sequence, accepted.2.event_digest)
  unregistered : ∀ cut_id role, store.participant cut_id role = none →
    first_of sha (accepted_checkpoint sha cut_id role) start calls = none

section Recalls

variable {sha : Sha256} {start store store' : Store} {calls : List StoreCall} {receipt : EventReceiptV1}

theorem Recalls.fresh (sha : Sha256) (identity : StoreIdentityV1) (objects : Digest → Option BlobFileV1) :
    Recalls sha (.fresh sha identity objects) [] (.fresh sha identity objects) :=
  ⟨fun _ => .inl ⟨rfl, rfl⟩, by simp [Store.fresh], fun _ _ _ => rfl⟩

variable {checkpoint : BackupCheckpointV1} {cut_id : String} {request : BeginBackupCutV1}

variable {cut : BackupCutRow} {registered row : BackupParticipantRow}

theorem BackupParticipantRow.recorded_of_filled {sequence : Nat}
    {digest : Digest} (h : row.Filled sha checkpoint sequence digest) :
    row.recorded = some (checkpoint, sequence, digest) := by
  simp only [BackupParticipantRow.recorded, h.checkpoint_jcs, h.prepared_event_sequence, h.prepared_event_digest]

theorem BackupParticipantRow.recorded_of_empty (h : row.Empty) : row.recorded = none := by
  simp only [BackupParticipantRow.recorded, h.checkpoint_jcs]

theorem Begun.known (h : Begun sha request receipt store store') :
    (store'.cut request.cut_id).isSome = true := by
  have hcut : store'.cut request.cut_id = some (begin_row sha request receipt) := by
    refine Store.cut_eq_some_iff.mpr ⟨?_, rfl⟩
    rw [h.cuts]
    exact List.mem_append_right _ (List.mem_singleton_self _)
  rw [hcut]
  rfl

theorem Begun.cut_other (h : Begun sha request receipt store store') {other : String}
    (hne : other ≠ request.cut_id) : store'.cut other = store.cut other := by
  have hlast : [begin_row sha request receipt].find? (fun row => row.cut_id = other) = none := by
    simp [begin_row, hne.symm]
  rw [Store.cut, h.cuts, List.find?_append, hlast, Option.or_none]
  rfl

variable (h : Recalls sha start calls (start.after sha calls))

include h

/-- The registrations along a call: a begin that is accepted first adds them. -/
theorem Recalls.registrations_step
    (hreached : (start.after sha calls).Reached sha) (call : StoreCall) (cut_id : String) :
    ((start.after sha (calls ++ [call])).cut cut_id).isSome = false ∧
        first_of sha (accepted_registrations sha cut_id) start (calls ++ [call]) = none ∨
      ((start.after sha (calls ++ [call])).cut cut_id).isSome = true ∧
        first_of sha (accepted_registrations sha cut_id) start (calls ++ [call]) =
          some (((start.after sha (calls ++ [call])).registered cut_id).map BackupParticipantRow.registration) := by
  rw [Store.after_append, first_of_append]
  have hbefore := h.registrations cut_id
  generalize start.after sha calls = store at hbefore hreached ⊢
  by_cases hbegins : call.Begins sha store
  · obtain ⟨request, receipt, store', rfl, hreturns, hbegun⟩ := hbegins
    rw [StoreCall.run_of_returns hreturns]
    by_cases hid : request.cut_id = cut_id
    · subst hid
      have haccepted : accepted_registrations sha request.cut_id store (.cut (.begin_backup_cut request)) =
          some request.participants :=
        accepted_registrations_eq_some_iff.mpr ⟨request, receipt, store', rfl, rfl, rfl, hreturns⟩
      rcases hbefore with ⟨_, hfirst⟩ | ⟨hknown, _⟩
      · refine .inr ⟨hbegun.known, ?_⟩
        rw [hfirst, haccepted, hbegun.registered_self hreached.cuts, List.map_map]
        exact congrArg some (List.map_id _).symm
      · rw [hbegun.unknown] at hknown
        cases hknown
    · have hnone : accepted_registrations sha cut_id store (.cut (.begin_backup_cut request)) = none := by
        simp only [accepted_registrations, if_neg hid]
      rw [hnone, Option.or_none, hbegun.cut_other (Ne.symm hid), hbegun.registered_other (Ne.symm hid)]
      exact hbefore
  · rw [Store.cut_isSome_congr (StoreCall.ids_same hbegins) cut_id, StoreCall.registrations_same hbegins]
    rcases hbefore with ⟨hunknown, hfirst⟩ | ⟨hknown, hfirst⟩
    · refine .inl ⟨hunknown, ?_⟩
      rw [hfirst, Option.none_or, Option.eq_none_iff_forall_not_mem]
      intro registrations haccepted
      -- what is accepted without a begin repeats one, so the cut is known
      obtain ⟨request, _, _, rfl, rfl, _, hreturns⟩ := accepted_registrations_eq_some_iff.mp haccepted
      obtain ⟨_, ⟨⟨cut, hcut, _⟩, _⟩ | hbegun⟩ := returns_begin_iff.mp hreturns
      · rw [hcut] at hunknown
        cases hunknown
      · exact hbegins ⟨_, _, _, rfl, hreturns, hbegun⟩
    · exact .inr ⟨hknown, by rw [hfirst]; rfl⟩

omit h in
/-- The checkpoints along a begin. -/
theorem Recalls.checkpoints_begun (h : Recalls sha start calls store) (hsound : store.CutsSound sha)
    (hbegun : Begun sha request receipt store store') :
    (∀ row ∈ store'.backup_participants.rows, row.recorded =
      (first_of sha (accepted_checkpoint sha row.cut_id row.participant) start calls).map fun accepted =>
        (accepted.1, accepted.2.sequence, accepted.2.event_digest)) ∧
    ∀ cut_id role, store'.participant cut_id role = none →
      first_of sha (accepted_checkpoint sha cut_id role) start calls = none := by
  refine ⟨fun row hrow => ?_, fun cut_id role hnone => h.unregistered cut_id role ?_⟩
  · rw [hbegun.participants, List.mem_append] at hrow
    rcases hrow with hrow | hrow
    · exact h.checkpoints row hrow
    · obtain ⟨registration, _, rfl⟩ := List.mem_map.mp hrow
      have habsent : store.participant request.cut_id registration.participant = none := by
        rw [Option.eq_none_iff_forall_not_mem]
        intro present hpresent
        obtain ⟨hmem, hid, _⟩ := Store.participant_eq_some_iff.mp hpresent
        obtain ⟨cut, hcut, howns⟩ := hsound.owned present hmem
        exact Store.cut_eq_none_iff.mp hbegun.unknown cut hcut (howns.trans hid)
      have hfirst := h.unregistered request.cut_id registration.participant habsent
      change none = (first_of sha (accepted_checkpoint sha request.cut_id registration.participant) start calls).map _
      rw [hfirst]
      rfl
  · rw [Option.eq_none_iff_forall_not_mem] at hnone ⊢
    intro row hrow
    obtain ⟨hmem, hid, hrole⟩ := Store.participant_eq_some_iff.mp hrow
    refine hnone row (Store.participant_eq_some_iff.mpr ⟨?_, hid, hrole⟩)
    rw [hbegun.participants]
    exact List.mem_append_left _ hmem

/-- The checkpoints along a prepare that is accepted first. -/
theorem Recalls.checkpoints_prepared {at_unix_ms : Int64} (hsound : (start.after sha calls).CutsSound sha)
    (hreturns : Returns (prepare_backup_participant sha cut_id checkpoint at_unix_ms) (start.after sha calls) receipt
      store') (hchecked : PrepareChecked cut_id checkpoint (start.after sha calls) cut registered)
    (hprepared : ParticipantPrepared sha cut_id checkpoint at_unix_ms cut registered receipt (start.after sha calls)
      store') : (∀ row ∈ store'.backup_participants.rows, row.recorded =
      (first_of sha (accepted_checkpoint sha row.cut_id row.participant) start
        (calls ++ [.cut (.prepare_backup_participant cut_id checkpoint at_unix_ms)])).map fun accepted =>
        (accepted.1, accepted.2.sequence, accepted.2.event_digest)) ∧
    ∀ id role, store'.participant id role = none →
      first_of sha (accepted_checkpoint sha id role) start
        (calls ++ [.cut (.prepare_backup_participant cut_id checkpoint at_unix_ms)]) = none := by
  obtain ⟨hregistered, hregistered_id, hregistered_role⟩ := Store.participant_eq_some_iff.mp hchecked.role
  have hother : ∀ id role, ¬ (id = cut_id ∧ role = checkpoint.participant) →
      first_of sha (accepted_checkpoint sha id role) start
        (calls ++ [.cut (.prepare_backup_participant cut_id checkpoint at_unix_ms)]) =
      first_of sha (accepted_checkpoint sha id role) start calls := by
    intro id role hne
    rw [first_of_append, accepted_checkpoint, if_neg fun hsame => hne ⟨hsame.1.symm, hsame.2.symm⟩, Option.or_none]
  refine ⟨fun row hrow => ?_, fun id role hnone => ?_⟩
  · rw [hprepared.participants, prepared_rows, List.mem_map] at hrow
    obtain ⟨present, hpresent, rfl⟩ := hrow
    by_cases hselected : present.cut_id = cut_id ∧ present.participant = checkpoint.participant ∧
        present.checkpoint_digest = none
    · rw [if_pos hselected]
      have hempty : present.recorded = none := by
        rcases hsound.filled present hpresent with hempty | ⟨_, _, _, hfilled⟩
        · exact BackupParticipantRow.recorded_of_empty hempty
        · cases hselected.2.2.symm.trans hfilled.checkpoint_digest
      have hfirst : first_of sha (accepted_checkpoint sha cut_id checkpoint.participant) start calls = none := by
        have hrecalled := h.checkpoints present hpresent
        rw [hempty, hselected.1, hselected.2.1] at hrecalled
        exact Option.map_eq_none_iff.mp hrecalled.symm
      have haccepted : accepted_checkpoint sha cut_id checkpoint.participant (start.after sha calls)
          (.cut (.prepare_backup_participant cut_id checkpoint at_unix_ms)) = some (checkpoint, receipt) :=
        accepted_checkpoint_eq_some_iff.mpr ⟨at_unix_ms, store', rfl, rfl, hreturns⟩
      change some (checkpoint, receipt.sequence, receipt.event_digest) =
        (first_of sha (accepted_checkpoint sha present.cut_id present.participant) start _).map _
      rw [hselected.1, hselected.2.1, first_of_append, hfirst, haccepted]
      rfl
    · rw [if_neg hselected, hother _ _ ?_]
      · exact h.checkpoints present hpresent
      · rintro ⟨hid, hrole⟩
        have hsame : present = registered := Table.eq_of_conflict hpresent hregistered
          (.inl ⟨hid.trans hregistered_id.symm, hrole.trans hregistered_role.symm⟩)
        exact hselected ⟨hid, hrole, by rw [hsame]; exact hprepared.unprepared⟩
  · have hbefore : (start.after sha calls).participant id role = none := by
      rw [Option.eq_none_iff_forall_not_mem] at hnone ⊢
      intro row hrow
      obtain ⟨hmem, hid, hrole⟩ := Store.participant_eq_some_iff.mp hrow
      obtain ⟨row', hmem', hlater⟩ := (hprepared.stepped hchecked hsound).participants row hmem
      exact hnone row' (Store.participant_eq_some_iff.mpr ⟨hmem', hlater.cut_id.trans hid,
        hlater.participant.trans hrole⟩)
    rw [hother id role ?_]
    · exact h.unregistered id role hbefore
    · rintro ⟨rfl, rfl⟩
      cases hchecked.role.symm.trans hbefore

omit h in
/-- The checkpoint that a repeated prepare finds was accepted earlier. -/
theorem Recalls.recalled (h : Recalls sha start calls store) (hsound : store.CutsSound sha)
    (hchecked : PrepareChecked cut_id checkpoint store cut registered)
    (hrepeats : PrepareRepeats sha checkpoint registered receipt store) :
    ∃ earlier, first_of sha (accepted_checkpoint sha cut_id checkpoint.participant) start calls = some earlier := by
  obtain ⟨hmem, hid, hrole⟩ := Store.participant_eq_some_iff.mp hchecked.role
  have hrecalled := h.checkpoints registered hmem
  rcases hsound.filled registered hmem with hempty | ⟨_, _, _, hfilled⟩
  · cases hempty.checkpoint_digest.symm.trans hrepeats.1
  · rw [BackupParticipantRow.recorded_of_filled hfilled, hid, hrole] at hrecalled
    obtain ⟨earlier, hearlier, _⟩ := Option.map_eq_some_iff.mp hrecalled.symm
    exact ⟨earlier, hearlier⟩

/-- A store recalls along any call what it recalled before, and what the call adds. -/
theorem Recalls.step (hreached : (start.after sha calls).Reached sha) (call : StoreCall) :
    Recalls sha start (calls ++ [call]) (start.after sha (calls ++ [call])) := by
  have hregistrations := h.registrations_step hreached call
  rw [Store.after_append] at hregistrations ⊢
  by_cases hprepare : call.Prepares sha (start.after sha calls)
  · obtain ⟨cut_id, checkpoint, at_unix_ms, cut, registered, receipt, store', rfl, hreturns, hchecked, hprepared⟩ :=
      hprepare
    obtain ⟨hcheckpoints, hunregistered⟩ := h.checkpoints_prepared hreached.cuts hreturns hchecked hprepared
    rw [StoreCall.run_of_returns hreturns] at hregistrations ⊢
    exact ⟨hregistrations, hcheckpoints, hunregistered⟩
  · have hfirst : ∀ cut_id role, first_of sha (accepted_checkpoint sha cut_id role) start (calls ++ [call]) =
        first_of sha (accepted_checkpoint sha cut_id role) start calls := by
      intro cut_id role
      rw [first_of_append]
      cases haccepted : accepted_checkpoint sha cut_id role (start.after sha calls) call with
      | none => exact Option.or_none
      | some accepted =>
        obtain ⟨checkpoint, receipt⟩ := accepted
        obtain ⟨at_unix_ms, store', hcall, rfl, hreturns⟩ := accepted_checkpoint_eq_some_iff.mp haccepted
        -- what is accepted now repeats what was accepted before
        obtain ⟨cut, registered, hchecked, ⟨hrepeats, _⟩ | hprepared⟩ := returns_prepare_iff.mp hreturns
        · obtain ⟨earlier, hearlier⟩ := h.recalled hreached.cuts hchecked hrepeats
          rw [hearlier]
          rfl
        · exact absurd ⟨_, _, _, _, _, _, _, hcall, hreturns, hchecked, hprepared⟩ hprepare
    obtain hsame | ⟨request, receipt, store', rfl, hreturns, hbegun⟩ | hprepares :=
      StoreCall.participants_cases sha (start.after sha calls) call
    · refine ⟨hregistrations, ?_, ?_⟩
      · rw [hsame]
        simpa only [hfirst] using h.checkpoints
      · intro cut_id role hnone
        rw [hfirst]
        refine h.unregistered cut_id role ?_
        rw [Store.participant, hsame] at hnone
        exact hnone
    · obtain ⟨hcheckpoints, hunregistered⟩ := h.checkpoints_begun hreached.cuts hbegun
      rw [StoreCall.run_of_returns hreturns] at hregistrations ⊢
      refine ⟨hregistrations, ?_, ?_⟩
      · simpa only [hfirst] using hcheckpoints
      · simpa only [hfirst] using hunregistered
    · exact absurd hprepares hprepare

end Recalls

end ag_store.lib

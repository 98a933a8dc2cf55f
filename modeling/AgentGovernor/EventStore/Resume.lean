import AgentGovernor.EventStore.SealProgress
import AgentGovernor.Primitives.IdealHash

open ag_primitives Checked Relational Transaction Windows Effects Lists

namespace ag_store.offline_backup

open lib

namespace OfflineBackupCoordinatorV1

variable {sha : Sha256} {self : OfflineBackupCoordinatorV1} {start stop stores stores' : Stores}
  {participants : List OfflineBackupParticipantV1} {checkpoints : List BackupCheckpointV1} {at_unix_ms : Int64}

/-- No participant of the cut has prepared in a store. -/
def Unprepared (cut_id : String) (store : Store) : Prop :=
  ∀ role row, store.participant cut_id role = some row → row.checkpoint_digest = none

/-- The first store has recorded a checkpoint of itself, and its chain has gone on since. -/
structure Outrun (sha : Sha256) (cut_id : String) (stores : Stores) : Prop where
  reached : stores.Reached sha
  recorded : ∃ row checkpoint, (stores .Agd).participant cut_id .Agd = some row ∧
    row.checkpoint_digest = some (checkpoint_digest sha checkpoint) ∧
    checkpoint.chain_head.sequence < (stores .Agd).chain_head.sequence

section Outrun

theorem Outrun.serve {cut_id : String} (op : StoreOp) (stores : Stores) (h : Outrun sha cut_id stores) :
    Outrun sha cut_id (serve sha op stores).2 := by
  refine ⟨h.reached.serve op, ?_⟩
  obtain ⟨row, checkpoint, hrow, hdigest, hlt⟩ := h.recorded
  cases op with
  | read => exact ⟨row, checkpoint, hrow, hdigest, hlt⟩
  | call role call =>
    by_cases hrole : BackupParticipantV1.Agd = role
    · subst hrole
      have hreached := StoreCall.reached (h.reached .Agd) (.cut call)
      have hlater := StoreCall.later (h.reached .Agd) (.cut call)
      obtain ⟨row', hrow', hkept⟩ := hlater.participant hrow
      obtain rfl := hkept.prepared (by rw [hdigest]; rfl)
      simp only [offline_backup.serve, Function.update_self]
      exact ⟨row', checkpoint, hrow', hdigest,
        lt_of_lt_of_le hlt (Store.Later.head_le hlater (h.reached .Agd).sound hreached.sound)⟩
    · simp only [offline_backup.serve, Function.update_of_ne hrole]
      exact ⟨row, checkpoint, hrow, hdigest, hlt⟩

/-- Sealing starts with the first store and its own checkpoint. -/
theorem seal_stores_first (self : OfflineBackupCoordinatorV1) (at_unix_ms : Int64) (checkpoint : BackupCheckpointV1)
    (checkpoints : List BackupCheckpointV1) (role : BackupParticipantV1) (roles : List BackupParticipantV1) :
    ∃ rest, self.seal_stores (checkpoint :: checkpoints) at_unix_ms (role :: roles) =
      make role (.prepare_backup_participant self.cut_id checkpoint at_unix_ms) >>= rest := by
  simp only [seal_stores, seal_store, prepare_store, Program.bind_assoc]
  exact ⟨_, rfl⟩

theorem first_checkpoint (h : List.Forall₂ (fun role found => checkpoint sha stores participants role = .ok found)
    REQUIRED_BACKUP_PARTICIPANTS checkpoints) :
    ∃ first rest, checkpoints = first :: rest ∧ first.participant = .Agd ∧
      first.chain_head = (stores .Agd).chain_head := by
  rw [REQUIRED_BACKUP_PARTICIPANTS, List.forall₂_cons_left_iff] at h
  obtain ⟨first, rest, hfirst, _, rfl⟩ := h
  obtain ⟨hrole, hhead⟩ := checkpoint_eq_ok hfirst
  exact ⟨first, rest, rfl, hrole, hhead⟩

/-- The first checkpoint cannot be prepared where an earlier one was: it has the later head. -/
theorem not_returns_of_outrun (hsha : sha.CollisionFree) (h : Outrun sha self.cut_id stores) :
    ¬ Returns ((self.seal_offline sha at_unix_ms).run (serve sha)) stores checkpoints stores' := by
  intro hreturns
  obtain ⟨participants, begun, hcompletes⟩ := returns_seal_offline_iff.mp hreturns
  have hbegun := returns_preserves hcompletes.began Outrun.serve h
  obtain ⟨first, rest, rfl, hrole, hhead⟩ := first_checkpoint hcompletes.taken
  obtain ⟨next, hnext⟩ := seal_stores_first self at_unix_ms first rest .Agd [.AgEffectd, .AgProviderd]
  have hsealed := hcompletes.sealed
  rw [REQUIRED_BACKUP_PARTICIPANTS, hnext, returns_make_bind_iff] at hsealed
  obtain ⟨receipt, store', hprepare, _⟩ := hsealed
  obtain ⟨row, earlier, hrow, hdigest, hlt⟩ := hbegun.recorded
  obtain ⟨cut, registered, hchecked, hcases⟩ := returns_prepare_iff.mp hprepare
  have hregistered := hchecked.role
  rw [hrole] at hregistered
  obtain rfl := Option.some.inj (hrow.symm.trans hregistered)
  rcases hcases with ⟨⟨hsame, _⟩, _⟩ | hprepared
  · have hequal : earlier = first := (digest_value_inj hsha).mp (Option.some.inj (hdigest.symm.trans hsame))
    rw [hequal, hhead] at hlt
    exact lt_irrefl _ hlt
  · cases hdigest.symm.trans hprepared.unprepared

end Outrun

section Stops

variable {cut_id : String} {receipt : EventReceiptV1} {request : BeginBackupCutV1} {store' : Store}

theorem BegunFrom.unprepared (h : BegunFrom sha request start stores)
    (hstart : ∀ role, Unprepared cut_id (start role)) (role : BackupParticipantV1) :
    Unprepared cut_id (stores role) := by
  rcases h role with hsame | ⟨receipt, hreturns⟩
  · rw [hsame]
    exact hstart role
  obtain ⟨_, ⟨_, hsame⟩ | hbegun⟩ := returns_begin_iff.mp hreturns
  · rw [← hsame]
    exact hstart role
  · intro other row hrow
    obtain ⟨hmem, hid, hrole⟩ := Store.participant_eq_some_iff.mp hrow
    rw [hbegun.participants, List.mem_append] at hmem
    rcases hmem with hmem | hmem
    · exact hstart role other row (Store.participant_eq_some_iff.mpr ⟨hmem, hid, hrole⟩)
    · obtain ⟨registration, _, rfl⟩ := List.mem_map.mp hmem
      rfl

theorem BegunFrom.reached (h : BegunFrom sha request start stores)
    (hstart : start.Reached sha) : stores.Reached sha := by
  intro role
  rcases h role with hsame | ⟨receipt, hreturns⟩
  · rw [hsame]
    exact hstart role
  · have hperform : Returns ((CutCall.begin_backup_cut request).perform sha) (start role) receipt (stores role) :=
      hreturns
    exact (CutCall.reached hperform (hstart role)).1

/-- The first preparation of the first store moves its head behind its own checkpoint. -/
theorem outrun_of_prepare {checkpoint : BackupCheckpointV1} (hreached : stores.Reached sha)
    (hunprepared : Unprepared self.cut_id (stores .Agd))
    (hrole : checkpoint.participant = .Agd) (hhead : checkpoint.chain_head = (stores .Agd).chain_head)
    (h : Returns (prepare_backup_participant sha self.cut_id checkpoint at_unix_ms) (stores .Agd) receipt store') :
    Outrun sha self.cut_id (Function.update stores .Agd store') := by
  have hperform : Returns ((CutCall.prepare_backup_participant self.cut_id checkpoint at_unix_ms).perform sha)
      (stores .Agd) receipt store' := h
  refine ⟨hreached.update (CutCall.reached hperform (hreached .Agd)).1, ?_⟩
  obtain ⟨_, row, hchecked', hdigest', _⟩ := CutCall.repeats hperform (hreached .Agd).sound
  obtain ⟨cut, registered, hchecked, ⟨⟨hdigest, _⟩, _⟩ | hprepared⟩ := returns_prepare_iff.mp h
  · cases hdigest.symm.trans (hunprepared _ _ hchecked.role)
  · have hrow := hchecked'.role
    rw [hrole] at hrow
    refine ⟨row, checkpoint, by rw [Function.update_self]; exact hrow, hdigest', ?_⟩
    obtain ⟨appended, happend, hframe⟩ := hprepared.recorded
    obtain ⟨_, _, _, _, happended⟩ := returns_append_iff.mp happend
    rw [Function.update_self, hframe, hhead, happended.frame]
    exact Nat.lt_succ_self _

/-- Wherever a call is stopped, its stores have at most begun the cut, or the first of them
has prepared itself. -/
theorem seal_offline_stops (hreached : start.Reached sha) (hunprepared : ∀ role, Unprepared self.cut_id (start role))
    (h : (self.seal_offline sha at_unix_ms).Stops (serve sha) start stop) :
    stop = start ∨ (∃ participants, self.validate sha start = .ok participants ∧
      BegunFrom sha (self.begin_request participants) start stop) ∨ Outrun sha self.cut_id stop := by
  rw [seal_offline, stops_read_bind_iff, stops_lift_bind_iff] at h
  refine h.imp_right ?_
  rintro ⟨participants, hvalidated, h⟩
  have hstart : BegunFrom sha (self.begin_request participants) start start := fun _ => .inl rfl
  rw [stops_lift_bind_iff, stops_bind_iff] at h
  rcases h with rfl | ⟨_, _, h | ⟨_, begun, hbegan, h⟩⟩
  · exact .inl ⟨participants, hvalidated, hstart⟩
  · exact .inl ⟨participants, hvalidated, hstart.stops hreached h⟩
  · have hbegun : BegunFrom sha (self.begin_request participants) start begun := by
      exact hstart.stops hreached (stops_of_returns hbegan)
    rw [stops_read_bind_iff, stops_lift_bind_iff] at h
    rcases h with rfl | ⟨checkpoints, htaken, h⟩
    · exact .inl ⟨participants, hvalidated, hbegun⟩
    · obtain ⟨first, rest, rfl, hrole, hhead⟩ := first_checkpoint (mapM_eq_ok_iff.mp htaken)
      obtain ⟨next, hnext⟩ := seal_stores_first self at_unix_ms first rest .Agd [.AgEffectd, .AgProviderd]
      rw [REQUIRED_BACKUP_PARTICIPANTS, hnext, Program.bind_assoc, stops_bind_iff, stops_make_iff] at h
      have houtrun : ∀ {receipt store'}, Returns ((CutCall.prepare_backup_participant self.cut_id first
          at_unix_ms).perform sha) (begun .Agd) receipt store' →
            Outrun sha self.cut_id (Function.update begun .Agd store') :=
        fun hreturns => outrun_of_prepare (hbegun.reached hreached) (hbegun.unprepared hunprepared _)
          hrole hhead hreturns
      rcases h with (rfl | ⟨receipt, store', hreturns, rfl⟩) | ⟨receipt, between, hmake, h⟩
      · exact .inl ⟨participants, hvalidated, hbegun⟩
      · exact .inr (houtrun hreturns)
      · obtain ⟨store', hreturns, rfl⟩ := returns_make_iff.mp hmake
        exact .inr (h.preserves Outrun.serve (houtrun hreturns))

end Stops

section Again

theorem validate_participants_congr (h : ∀ role, (stop role).store_identity = (start role).store_identity)
    (accepted rest : List OfflineBackupParticipantV1) :
    self.validate_participants sha stop accepted rest = self.validate_participants sha start accepted rest := by
  induction rest generalizing accepted with
  | nil => rfl
  | cons participant rest ih => simp only [validate_participants, h, ih]

/-- The stores that have begun already find their begin, and the others begin now. -/
theorem BegunFrom.completes {begun : Stores} (hreached : start.Reached sha)
    (h : BegunFrom sha (self.begin_request participants) start stop)
    (hcompletes : Completes sha self at_unix_ms participants checkpoints start begun stores') :
    Completes sha self at_unix_ms participants checkpoints stop begun stores' := by
  have hidentity : ∀ role, (stop role).store_identity = (start role).store_identity := by
    intro role
    rcases h role with hsame | ⟨receipt, hreturns⟩
    · rw [hsame]
    · have hperform : Returns ((CutCall.begin_backup_cut _).perform sha) (start role) receipt (stop role) := hreturns
      exact CutCall.identity hperform
  refine ⟨?_, hcompletes.valid, ?_, hcompletes.taken, hcompletes.sealed⟩
  · rw [validate, validate_participants_congr hidentity]
    exact hcompletes.validated
  · have hnodup : REQUIRED_BACKUP_PARTICIPANTS.Nodup := by decide
    obtain ⟨hbegan, _⟩ := (returns_begin_stores_iff hnodup).mp hcompletes.began
    refine (returns_begin_stores_iff hnodup).mpr ⟨fun role hrole => ?_, fun role hrole => ?_⟩
    · obtain ⟨receipt, hreturns⟩ := hbegan role hrole
      rcases h role with hsame | ⟨receipt', hreturns'⟩
      · rw [hsame]
        exact ⟨receipt, hreturns⟩
      · obtain ⟨_, hsame⟩ := Prod.mk.inj (hreturns'.symm.trans hreturns)
        rw [← hsame]
        exact ⟨receipt', begin_again (hreached role) hreturns'⟩
    · exact absurd (by cases role <;> decide) hrole

end Again

section Sealed

/-- A store with the sealed manifest of the given checkpoints. -/
def Manifests (sha : Sha256) (cut_id : String) (checkpoints : List BackupCheckpointV1) (store : Store) : Prop :=
  ∃ cut manifest, store.cut cut_id = some cut ∧ cut.state = .Sealed ∧
    build_backup_manifest_from_connection cut_id store = .ok manifest ∧
    cut.manifest_digest = some (manifest_digest sha manifest) ∧
    manifest.participants.map PreparedParticipantV1.checkpoint = checkpoints

theorem SealedFor.manifests {cut_id : String} {store : Store} (hsha : sha.CollisionFree)
    (h : SealedFor sha cut_id checkpoints store)
    (hroles : List.Forall₂ (fun role (found : BackupCheckpointV1) => found.participant = role)
      REQUIRED_BACKUP_PARTICIPANTS checkpoints) : Manifests sha cut_id checkpoints store := by
  obtain ⟨cut, hcut, hstate⟩ := h.sealed
  obtain ⟨hmem, hid⟩ := Store.cut_eq_some_iff.mp hcut
  obtain ⟨manifest, hmanifested, hdigest⟩ := h.reached.cuts.manifest cut hmem (.inl hstate)
  refine ⟨cut, manifest, hcut, hstate, build_of_manifested hcut (.inr (.inl hstate)) hmanifested, hdigest, ?_⟩
  -- role by role, the row that the manifest repeats is the row the checkpoint is found in
  have hsame : List.Forall₂ (fun (prepared : PreparedParticipantV1) found => prepared.checkpoint = found)
      manifest.participants checkpoints := by
    refine forall₂_of_common hmanifested.roles hroles ?_
    rintro role prepared _ found hfound ⟨row, hrow, hrow_id, hrow_role, hfilled⟩ rfl
    obtain ⟨_, registered, _, hchecked, hdigest, _⟩ := h.recalled found hfound
    obtain rfl : registered = row := Option.some.inj (hchecked.role.symm.trans
      (Store.participant_eq_some_iff.mpr ⟨hrow, hrow_id.trans hid, hrow_role⟩))
    exact (digest_value_inj hsha).mp (Option.some.inj (hfilled.checkpoint_digest.symm.trans hdigest))
  rw [← List.forall₂_eq_eq_eq, List.forall₂_map_left_iff]
  exact hsame

theorem Completes.manifests {begun : Stores} (hsha : sha.CollisionFree) (hreached : stores.Reached sha)
    (h : Completes sha self at_unix_ms participants checkpoints stores begun stores') (role : BackupParticipantV1) :
    Manifests sha self.cut_id checkpoints (stores' role) := by
  have hbegun := returns_preserves h.began (fun op _ => Stores.Reached.serve op) hreached
  obtain ⟨hsealed, _⟩ := returns_seal_stores (by decide) hbegun h.sealed
  exact (hsealed role (by cases role <;> decide)).2.manifests hsha
    (h.taken.imp fun _ _ hfound => (checkpoint_eq_ok hfound).1)

/-- A store with the manifest of a cut has prepared its participants. -/
theorem Manifests.prepared {cut_id : String} {store : Store} (hcuts : store.CutsSound sha)
    (h : Manifests sha cut_id checkpoints store) : ¬ Unprepared cut_id store := by
  intro hunprepared
  obtain ⟨cut, _, hcut, hstate, _⟩ := h
  obtain ⟨hmem, rfl⟩ := Store.cut_eq_some_iff.mp hcut
  have hcount := hcuts.prepared cut hmem (.inr (.inl hstate))
  have hpositive : 0 < store.prepared_count cut.cut_id := by omega
  obtain ⟨row, hrow, hselected⟩ := List.countP_pos_iff.mp hpositive
  obtain ⟨hid, hsome⟩ := of_decide_eq_true hselected
  rw [hunprepared row.participant row (Store.participant_eq_some_iff.mpr ⟨hrow, hid, rfl⟩)] at hsome
  cases hsome

end Sealed

/-- The call succeeds, and every store holds the sealed manifest of the same checkpoints. -/
def Resumes (sha : Sha256) (self : OfflineBackupCoordinatorV1) (at_unix_ms : Int64) (stop : Stores) : Prop :=
  ∃ checkpoints stores', Returns ((self.seal_offline sha at_unix_ms).run (serve sha)) stop checkpoints stores' ∧
    ∀ role, Manifests sha self.cut_id checkpoints (stores' role)

section Resumes

theorem stops_cases (hreached : start.Reached sha) (hunprepared : ∀ role, Unprepared self.cut_id (start role))
    (h : (self.seal_offline sha at_unix_ms).Stops (serve sha) start stop) :
    (∀ role, Unprepared self.cut_id (stop role)) ∧ stop.Reached sha ∧
      (∀ participants, self.validate sha start = .ok participants →
        BegunFrom sha (self.begin_request participants) start stop) ∨ Outrun sha self.cut_id stop := by
  rcases seal_offline_stops hreached hunprepared h with rfl | ⟨participants, hvalidated, hbegun⟩ | houtrun
  · exact .inl ⟨hunprepared, hreached, fun _ _ _ => .inl rfl⟩
  · refine .inl ⟨hbegun.unprepared hunprepared, hbegun.reached hreached, fun found hfound => ?_⟩
    rw [← Except.ok.inj (hvalidated.symm.trans hfound)]
    exact hbegun
  · exact .inr houtrun

theorem Outrun.prepared {cut_id : String} (h : Outrun sha cut_id stores) : ¬ Unprepared cut_id (stores .Agd) := by
  intro hunprepared
  obtain ⟨row, _, hrow, hdigest, _⟩ := h.recorded
  cases hdigest.symm.trans (hunprepared _ row hrow)

end Resumes

/-- A call that completes may be stopped right behind its first preparation. -/
theorem Completes.first_preparation {begun : Stores} (hreached : start.Reached sha)
    (hunprepared : ∀ role, Unprepared self.cut_id (start role))
    (h : Completes sha self at_unix_ms participants checkpoints start begun stores') :
    ∃ stop, (self.seal_offline sha at_unix_ms).Stops (serve sha) start stop ∧ Outrun sha self.cut_id stop ∧
      (stop .Agd).prepared_count self.cut_id = 1 := by
  have hstart : BegunFrom sha (self.begin_request participants) start start := fun _ => .inl rfl
  have hbegun := hstart.stops hreached (stops_of_returns h.began)
  obtain ⟨first, rest, rfl, hrole, hhead⟩ := first_checkpoint h.taken
  obtain ⟨next, hnext⟩ := seal_stores_first self at_unix_ms first rest .Agd [.AgEffectd, .AgProviderd]
  have hsealed := h.sealed
  rw [REQUIRED_BACKUP_PARTICIPANTS, hnext, returns_make_bind_iff] at hsealed
  obtain ⟨receipt, store', hprepare, _⟩ := hsealed
  have hnone := hbegun.unprepared hunprepared .Agd
  refine ⟨Function.update begun .Agd store', ?_, outrun_of_prepare (hbegun.reached hreached) hnone
    hrole hhead hprepare, ?_⟩
  · rw [seal_offline, stops_read_bind_iff, stops_lift_bind_iff]
    refine .inr ⟨participants, h.validated, ?_⟩
    rw [stops_lift_bind_iff, stops_bind_iff]
    refine .inr ⟨(), h.valid, .inr ⟨(), begun, h.began, ?_⟩⟩
    rw [stops_read_bind_iff, stops_lift_bind_iff]
    refine .inr ⟨first :: rest, mapM_eq_ok_iff.mpr h.taken, ?_⟩
    rw [REQUIRED_BACKUP_PARTICIPANTS, hnext, Program.bind_assoc, stops_bind_iff, stops_make_iff]
    exact .inl (.inr ⟨receipt, store', hprepare, rfl⟩)
  · obtain ⟨cut, registered, hchecked, ⟨⟨hdigest, _⟩, _⟩ | hprepared⟩ := returns_prepare_iff.mp hprepare
    · cases hdigest.symm.trans (hnone _ _ hchecked.role)
    · have hzero : (begun .Agd).prepared_count self.cut_id = 0 := by
        rw [Store.prepared_count, List.countP_eq_zero]
        intro row hrow hselected
        obtain ⟨hid, hsome⟩ := of_decide_eq_true hselected
        rw [hnone row.participant row (Store.participant_eq_some_iff.mpr ⟨hrow, hid, rfl⟩)] at hsome
        cases hsome
      rw [Function.update_self, hprepared.prepared_count hchecked, hzero]

/-- A call that completes may be stopped, at any time, right behind its first begin. -/
theorem Completes.first_begin {begun : Stores} (earlier : Int64)
    (h : Completes sha self at_unix_ms participants checkpoints start begun stores') :
    (self.seal_offline sha earlier).Stops (serve sha) start (Function.update start .Agd (begun .Agd)) := by
  obtain ⟨hbegan, _⟩ := (returns_begin_stores_iff (by decide)).mp h.began
  obtain ⟨receipt, hreturns⟩ := hbegan .Agd (by decide)
  rw [seal_offline, stops_read_bind_iff, stops_lift_bind_iff]
  refine .inr ⟨participants, h.validated, ?_⟩
  rw [stops_lift_bind_iff, stops_bind_iff]
  refine .inr ⟨(), h.valid, .inl ?_⟩
  rw [REQUIRED_BACKUP_PARTICIPANTS, begin_stores, stops_bind_iff, stops_make_iff]
  exact .inl (.inr ⟨receipt, begun .Agd, hreturns, rfl⟩)

/-- A stopped call is resumed by a second one exactly when no participant had prepared: the
first preparation moves the head that the second call takes the checkpoint from. For the same
reason a call that succeeded is refused when it is made once more. -/
theorem offline_backup_resume (hsha : sha.CollisionFree)
    (hstart : ∀ role, ∃ identity objects calls, start role = (Store.fresh sha identity objects).after sha calls)
    (hunprepared : ∀ role, Unprepared self.cut_id (start role)) {first second : Int64}
    (hcompletes : ∃ checkpoints stores', Returns ((self.seal_offline sha second).run (serve sha)) start
      checkpoints stores')
    (hstop : (self.seal_offline sha first).Stops (serve sha) start stop) :
    (Resumes sha self second stop ↔ ∀ role, Unprepared self.cut_id (stop role)) ∧
      ∀ checkpoints stores', Returns ((self.seal_offline sha second).run (serve sha)) stop checkpoints stores' →
        ∀ third checkpoints' stores'',
          ¬ Returns ((self.seal_offline sha third).run (serve sha)) stores' checkpoints' stores'' := by
  have hreached : start.Reached sha := by
    intro role
    obtain ⟨identity, objects, calls, hcalls⟩ := hstart role
    rw [hcalls]
    exact (Store.after_reached (Store.fresh_reached sha identity objects) calls).1
  refine ⟨⟨?_, fun hstill => ?_⟩, fun checkpoints stores' hreturns third checkpoints' stores'' => ?_⟩
  · rintro ⟨checkpoints, stores', hreturns, _⟩
    rcases stops_cases hreached hunprepared hstop with ⟨hstill, _⟩ | houtrun
    · exact hstill
    · exact absurd hreturns (not_returns_of_outrun hsha houtrun)
  · obtain ⟨checkpoints, stores', hreturns⟩ := hcompletes
    obtain ⟨participants, begun, hcompletes⟩ := returns_seal_offline_iff.mp hreturns
    rcases stops_cases hreached hunprepared hstop with ⟨_, hstop_reached, hbegun⟩ | houtrun
    · have hagain := (hbegun participants hcompletes.validated).completes hreached hcompletes
      exact ⟨checkpoints, stores', returns_seal_offline_iff.mpr ⟨participants, begun, hagain⟩,
        hagain.manifests hsha hstop_reached⟩
    · exact absurd (hstill .Agd) houtrun.prepared
  · rcases stops_cases hreached hunprepared hstop with ⟨hstill, hstop_reached, _⟩ | houtrun
    · obtain ⟨participants, begun, hcompletes⟩ := returns_seal_offline_iff.mp hreturns
      have hmanifests := hcompletes.manifests hsha hstop_reached .Agd
      rcases stops_cases hstop_reached hstill (stops_of_returns hreturns) with ⟨hnone, hreached', _⟩ | houtrun
      · exact absurd (hnone .Agd) (hmanifests.prepared (hreached' .Agd).cuts)
      · exact not_returns_of_outrun hsha houtrun
    · exact absurd hreturns (not_returns_of_outrun hsha houtrun)

section Sample

def sample_identities (role : BackupParticipantV1) : StoreIdentityV1 :=
  compiled_identity 1 role.as_str

def sample_stores (sha : Sha256) : Stores :=
  new_stores sha sample_identities fun _ _ => none

def sample_participant (sha : Sha256) (domain : AuthorityDomainId) (epoch : EpochId) (role : BackupParticipantV1) :
    OfflineBackupParticipantV1 :=
  { participant := role
    component_identity := Digest.hash_domain sha "component" (.text role.as_str)
    config_identity := Digest.hash_domain sha "config" (.text role.as_str)
    schema_identity := Digest.from_serializable sha (sample_identities role)
    profile_identity := Digest.hash_domain sha "profile" (.text role.as_str)
    build_identity := Digest.hash_domain sha "build" (.text role.as_str)
    quiescence_attestation :=
      { schema := "ag-store-offline-quiescence-attestation-v1"
        cut_id := "cut:1"
        authority_domain := domain
        epoch
        quiescence_barrier_id := "barrier:1"
        participant := role
        boundary := .OfflineServicesStopped
        boundary_summary := Digest.hash_domain sha "boundary" (.text role.as_str)
        attesting_principal := Digest.hash_domain sha "operator" (.text role.as_str)
        attested_at_unix_ms := 0 } }

def sample_coordinator (sha : Sha256) (domain : AuthorityDomainId) (epoch : EpochId) : OfflineBackupCoordinatorV1 :=
  { schema := "ag-store-offline-backup-coordinator-v1"
    cut_id := "cut:1"
    authority_domain := domain
    epoch
    quiescence_barrier_id := "barrier:1"
    participants := REQUIRED_BACKUP_PARTICIPANTS.map (sample_participant sha domain epoch)
    created_at_unix_ms := 0 }

def sample_request (sha : Sha256) (domain : AuthorityDomainId) (epoch : EpochId) : BeginBackupCutV1 :=
  (sample_coordinator sha domain epoch).begin_request
    (REQUIRED_BACKUP_PARTICIPANTS.map (sample_participant sha domain epoch))

/-- The checkpoint of a role with a chosen head. -/
def sample_checkpoint (sha : Sha256) (domain : AuthorityDomainId) (epoch : EpochId)
    (heads : BackupParticipantV1 → ChainHeadV1) (role : BackupParticipantV1) : BackupCheckpointV1 :=
  { participant := role
    component_identity := (sample_participant sha domain epoch role).component_identity
    chain_head := heads role
    blob_root := blob_catalog_digest sha []
    config_identity := (sample_participant sha domain epoch role).config_identity
    schema_identity := (sample_participant sha domain epoch role).schema_identity
    profile_identity := (sample_participant sha domain epoch role).profile_identity
    build_identity := (sample_participant sha domain epoch role).build_identity
    quiescence_attestation := (sample_participant sha domain epoch role).quiescence_attestation }

variable {domain : AuthorityDomainId} {epoch : EpochId} {heads : BackupParticipantV1 → ChainHeadV1}

theorem sample_preparable : ∀ checkpoint ∈ REQUIRED_BACKUP_PARTICIPANTS.map (sample_checkpoint sha domain epoch heads),
    Preparable (sample_request sha domain epoch) checkpoint := by
  intro checkpoint hcheckpoint
  obtain ⟨role, hrole, rfl⟩ := List.mem_map.mp hcheckpoint
  refine ⟨List.mem_map.mpr ⟨_, List.mem_map_of_mem hrole, rfl⟩, ?_⟩
  rw [QuiescenceBarrierAttestationV1.validate_for, reject_eq_ok_iff]
  simp [sample_checkpoint, sample_participant, sample_request, sample_coordinator, begin_request]

variable (hsha : sha.CollisionFree)

include hsha

theorem sample_component_ne {role role' : BackupParticipantV1} (hne : role ≠ role') :
    (sample_participant sha domain epoch role).component_identity ≠
      (sample_participant sha domain epoch role').component_identity := by
  intro h
  obtain ⟨_, hpayload⟩ := (Digest.hash_domain_inj hsha).mp h
  cases role <;> cases role' <;> simp_all [BackupParticipantV1.as_str]

theorem sample_validate : (sample_coordinator sha domain epoch).validate sha (sample_stores sha) =
      .ok (REQUIRED_BACKUP_PARTICIPANTS.map (sample_participant sha domain epoch)) := by
  have hrole : ∀ role, (sample_participant sha domain epoch role).participant = role := fun _ => rfl
  have hattested : ∀ role, (sample_participant sha domain epoch role).quiescence_attestation.validate_for "cut:1" domain
      epoch "barrier:1" role = .ok () := by
    intro role
    rw [QuiescenceBarrierAttestationV1.validate_for, reject_eq_ok_iff]
    simp [sample_participant]
  have haccepted : (sample_coordinator sha domain epoch).validate_participants sha (sample_stores sha) []
      (REQUIRED_BACKUP_PARTICIPANTS.map (sample_participant sha domain epoch)) =
        .ok (REQUIRED_BACKUP_PARTICIPANTS.map (sample_participant sha domain epoch)) := by
    simp only [REQUIRED_BACKUP_PARTICIPANTS, List.map_cons, List.map_nil, validate_participants, ok_rules]
    refine ⟨hattested _, by simp, rfl, hattested _, ?_, rfl, hattested _, ?_, rfl, rfl⟩
    all_goals simp [sample_component_ne hsha, hrole]
  simp only [validate, ok_rules, mapM_eq_ok_iff]
  refine ⟨by simp [sample_coordinator], _, haccepted, ?_⟩
  simp [REQUIRED_BACKUP_PARTICIPANTS, sample_participant]

theorem sample_request_valid : ((sample_coordinator sha domain epoch).begin_request
      (REQUIRED_BACKUP_PARTICIPANTS.map (sample_participant sha domain epoch))).validate = .ok () := by
  have hcut : lib.validate_identifier "cut_id" "cut:1" 192 = .ok () := by decide
  have hbarrier : lib.validate_identifier "quiescence_barrier_id" "barrier:1" 192 = .ok () := by decide
  simp only [BeginBackupCutV1.validate, ok_rules]
  refine ⟨hcut, hbarrier, ⟨rfl, rfl⟩, ?_⟩
  simp [begin_request, REQUIRED_BACKUP_PARTICIPANTS, Finset.card_insert_of_notMem, sample_component_ne hsha]

omit hsha in
theorem sample_nameable : Nameable "cut:1" := ⟨rfl, rfl, fun role => by cases role <;> rfl, rfl⟩

/-- The request completes on the new stores, at any time. -/
theorem sample_completes (domain : AuthorityDomainId) (hepoch : epoch.value.toNat ≤ I64_MAX) (at_unix_ms : Int64) :
    ∃ checkpoints begun stores', Completes sha (sample_coordinator sha domain epoch) at_unix_ms
      (REQUIRED_BACKUP_PARTICIPANTS.map (sample_participant sha domain epoch)) checkpoints (sample_stores sha) begun
        stores' := by
  have hbegins : ∀ role, ∃ receipt store', Returns (begin_backup_cut sha (sample_request sha domain epoch))
      (sample_stores sha role) receipt store' ∧ CutOnly sha (sample_request sha domain epoch) [] store' ∧
        store'.blobs = .empty :=
    fun role => fresh_begin_ok hsha sample_nameable (sample_request_valid hsha) hepoch (sample_identities role)
      fun _ => none
  choose receipt begun hbegin honly hblobs using hbegins
  have hbegan : Returns ((begin_stores (sample_request sha domain epoch) REQUIRED_BACKUP_PARTICIPANTS).run (serve sha))
      (sample_stores sha) () begun :=
    (returns_begin_stores_iff (by decide)).mpr
      ⟨fun role _ => ⟨receipt role, hbegin role⟩, fun role hrole => absurd (by cases role <;> decide) hrole⟩
  have htaken : ∀ role, checkpoint sha begun (REQUIRED_BACKUP_PARTICIPANTS.map (sample_participant sha domain epoch))
      role = .ok (sample_checkpoint sha domain epoch (fun role => (begun role).chain_head) role) := by
    intro role
    have hfind : (REQUIRED_BACKUP_PARTICIPANTS.map (sample_participant sha domain epoch)).find?
        (fun participant => participant.participant = role) = some (sample_participant sha domain epoch role) := by
      cases role <;> rfl
    simp only [checkpoint, hfind, ok_or, (honly role).reached.sound.verify_chain, blob_root, blob_catalog, hblobs]
    rfl
  have hnodup : REQUIRED_BACKUP_PARTICIPANTS.Nodup := by decide
  obtain ⟨stores', hsealed⟩ : ∃ stores', Returns (((sample_coordinator sha domain epoch).seal_stores _ at_unix_ms
      REQUIRED_BACKUP_PARTICIPANTS).run (serve sha)) begun () stores' :=
    seal_stores_ok hsha sample_nameable rfl sample_preparable hnodup (fun role _ => honly role) hnodup rfl
  refine ⟨_, begun, stores', sample_validate hsha, sample_request_valid hsha, hbegan, ?_, hsealed⟩
  rw [List.forall₂_map_right_iff, List.forall₂_same]
  exact fun role _ => htaken role

omit hsha

theorem sample_unprepared (cut_id : String) (role : BackupParticipantV1) :
    Unprepared cut_id (sample_stores sha role) := by
  intro other row hrow
  cases (Store.participant_eq_some_iff.mp hrow).1

theorem sample_new (role : BackupParticipantV1) : ∃ identity objects calls,
    sample_stores sha role = (Store.fresh sha identity objects).after sha calls :=
  ⟨sample_identities role, fun _ => none, [], rfl⟩

theorem exists_epoch : ∃ (_ : AuthorityDomainId) (epoch : EpochId), epoch.value.toNat ≤ I64_MAX :=
  ⟨⟨"domain", by decide⟩, ⟨1, by decide⟩, by decide⟩

theorem sample_reached : (sample_stores sha).Reached sha :=
  fun role => Store.fresh_reached sha (sample_identities role) fun _ => none

end Sample

/-- A request on three new stores, stopped when only the first of them has begun the cut:
a second call seals all three, and it is refused when it is made again. -/
theorem begun_backup_resumes :
    ∃ (coordinator : OfflineBackupCoordinatorV1) (start stop : Stores),
      (coordinator.seal_offline ideal_sha 1).Stops (serve ideal_sha) start stop ∧
      (∀ role, ((stop role).cut coordinator.cut_id).isSome = true ↔ role = .Agd) ∧
      Resumes ideal_sha coordinator 2 stop ∧
      ∀ checkpoints stores', Returns ((coordinator.seal_offline ideal_sha 2).run (serve ideal_sha)) stop checkpoints
          stores' → ∀ third checkpoints' stores'',
        ¬ Returns ((coordinator.seal_offline ideal_sha third).run (serve ideal_sha)) stores' checkpoints' stores'' := by
  obtain ⟨domain, epoch, hepoch⟩ := exists_epoch
  obtain ⟨_, begun, _, hcompletes⟩ := sample_completes ideal_sha_collision_free domain hepoch 2
  obtain ⟨receipt, hbegin⟩ := ((returns_begin_stores_iff (by decide)).mp hcompletes.began).1 .Agd (by decide)
  have hstop := hcompletes.first_begin 1
  have hfirst : BegunFrom ideal_sha (sample_request ideal_sha domain epoch) (sample_stores ideal_sha)
      (Function.update (sample_stores ideal_sha) .Agd (begun .Agd)) :=
    BegunFrom.update sample_reached (fun _ => .inl rfl) hbegin
  have hresume := offline_backup_resume ideal_sha_collision_free sample_new (sample_unprepared _)
    ⟨_, _, returns_seal_offline_iff.mpr ⟨_, _, hcompletes⟩⟩ hstop
  refine ⟨_, _, _, hstop, fun role => ?_, hresume.1.mpr (hfirst.unprepared (sample_unprepared _)), hresume.2⟩
  cases role with
  | Agd =>
    obtain ⟨_, ⟨⟨_, hcut, _⟩, _⟩ | hbegun⟩ := returns_begin_iff.mp hbegin
    · cases hcut
    · simp [Store.cut, hbegun.cuts, begin_row, begin_request]
  | AgEffectd | AgProviderd => simp [sample_stores, new_stores, Store.fresh, Store.cut]

/-- A request on three new stores, stopped right behind the first of its preparations: no
later call with the same request succeeds on them, though the first one, left alone, would
have. -/
theorem prepared_backup_not_resumed :
    ∃ (coordinator : OfflineBackupCoordinatorV1) (start stop : Stores) (checkpoints : List BackupCheckpointV1)
      (stores' : Stores), (∀ role, start role = Store.fresh ideal_sha (sample_identities role) fun _ => none) ∧
      Returns ((coordinator.seal_offline ideal_sha 1).run (serve ideal_sha)) start checkpoints stores' ∧
      (coordinator.seal_offline ideal_sha 1).Stops (serve ideal_sha) start stop ∧
      (stop .Agd).prepared_count coordinator.cut_id = 1 ∧
      ∀ second checkpoints' stores'',
        ¬ Returns ((coordinator.seal_offline ideal_sha second).run (serve ideal_sha)) stop checkpoints' stores'' := by
  obtain ⟨domain, epoch, hepoch⟩ := exists_epoch
  obtain ⟨checkpoints, begun, stores', hcompletes⟩ := sample_completes ideal_sha_collision_free domain hepoch 1
  obtain ⟨stop, hstops, houtrun, hcount⟩ := hcompletes.first_preparation sample_reached (sample_unprepared _)
  exact ⟨_, _, stop, checkpoints, stores', fun _ => rfl, returns_seal_offline_iff.mpr ⟨_, _, hcompletes⟩,
    hstops, hcount, fun _ _ _ => not_returns_of_outrun ideal_sha_collision_free houtrun⟩

end OfflineBackupCoordinatorV1

end ag_store.offline_backup

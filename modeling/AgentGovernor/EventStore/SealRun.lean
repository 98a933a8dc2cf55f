import AgentGovernor.EventStore.OfflineBackup

open ag_primitives Checked Relational Transaction Windows Effects Lists

namespace ag_store.offline_backup

open lib

section Operations

variable {sha : Sha256} {stores stores' : Stores} {role : BackupParticipantV1} {call : CutCall}
  {receipt : EventReceiptV1} {A : Type} {result : A}

theorem returns_make_iff :
    Returns ((make role call).run (serve sha)) stores receipt stores' ↔
      ∃ store', Returns (call.perform sha) (stores role) receipt store' ∧
        stores' = Function.update stores role store' := by
  rw [make, returns_run_bind_iff]
  constructor
  · rintro ⟨answer, t, hask, hlift⟩
    obtain ⟨rfl, rfl⟩ := returns_lift_iff.mp hlift
    have hserved := returns_ask_iff.mp hask
    simp only [serve, Prod.mk.injEq] at hserved
    exact ⟨_, Prod.ext hserved.1 rfl, hserved.2.symm⟩
  · rintro ⟨store', hreturns, rfl⟩
    refine ⟨.ok receipt, _, returns_ask_iff.mpr ?_, returns_lift_iff.mpr ⟨rfl, rfl⟩⟩
    simp only [serve]
    rw [hreturns]

theorem returns_make_bind_iff {f : EventReceiptV1 → OfflineProgram A} :
    Returns ((make role call >>= f).run (serve sha)) stores result stores' ↔
      ∃ receipt store', Returns (call.perform sha) (stores role) receipt store' ∧
        Returns ((f receipt).run (serve sha)) (Function.update stores role store') result stores' := by
  rw [returns_run_bind_iff]
  constructor
  · rintro ⟨receipt, t, hmake, h⟩
    obtain ⟨store', hreturns, rfl⟩ := returns_make_iff.mp hmake
    exact ⟨receipt, store', hreturns, h⟩
  · rintro ⟨receipt, store', hreturns, h⟩
    exact ⟨receipt, _, returns_make_iff.mpr ⟨store', hreturns, rfl⟩, h⟩

theorem returns_read_bind_iff {f : Stores → OfflineProgram A} :
    Returns ((ask .read >>= f).run (serve sha)) stores result stores' ↔
      Returns ((f stores).run (serve sha)) stores result stores' := by
  rw [returns_run_bind_iff]
  constructor
  · rintro ⟨read, t, hask, h⟩
    obtain ⟨rfl, rfl⟩ := Prod.mk.inj (returns_ask_iff.mp hask)
    exact h
  · intro h
    exact ⟨stores, stores, returns_ask_iff.mpr rfl, h⟩

theorem stops_read_bind_iff {f : Stores → OfflineProgram A} :
    (ask .read >>= f).Stops (serve sha) stores stores' ↔ (f stores).Stops (serve sha) stores stores' := by
  change (stores' = stores ∨ (f stores).Stops (serve sha) stores stores') ↔ _
  refine ⟨?_, .inr⟩
  rintro (rfl | h)
  · exact stops_self _ _
  · exact h

/-- A call that is stopped has committed or has not. -/
theorem stops_make_iff :
    (make role call).Stops (serve sha) stores stores' ↔
      stores' = stores ∨ ∃ receipt store', Returns (call.perform sha) (stores role) receipt store' ∧
        stores' = Function.update stores role store' := by
  have hend : (make role call).Stops (serve sha) stores stores' ↔
      stores' = stores ∨ stores' = Function.update stores role (call.perform sha (stores role)).2 := Iff.rfl
  rw [hend]
  constructor
  · rintro (rfl | rfl)
    · exact .inl rfl
    · rcases (CutCall.atomic sha call).cases (stores role) with hsame | ⟨receipt, hreturns⟩
      · rw [hsame, Function.update_eq_self]
        exact .inl rfl
      · exact .inr ⟨receipt, _, hreturns, rfl⟩
  · rintro (rfl | ⟨receipt, store', hreturns, rfl⟩)
    · exact .inl rfl
    · exact .inr (by rw [hreturns])

/-- Every store is one that calls lead to. -/
def Stores.Reached (sha : Sha256) (stores : Stores) : Prop :=
  ∀ role, (stores role).Reached sha

theorem Stores.Reached.update (h : stores.Reached sha) {store' : Store} (hstore : store'.Reached sha) :
    Stores.Reached sha (Function.update stores role store') := by
  intro other
  by_cases hrole : other = role
  · subst hrole
    rw [Function.update_self]
    exact hstore
  · rw [Function.update_of_ne hrole]
    exact h other

theorem Stores.Reached.serve (op : StoreOp) (h : stores.Reached sha) :
    Stores.Reached sha (serve sha op stores).2 := by
  cases op with
  | read => exact h
  | call role call => exact h.update (StoreCall.reached (h role) (.cut call))

theorem Store.Later.head_le {store store' : Store} (h : store.Later store') (hsound : store.Sound sha)
    (hsound' : store'.Sound sha) : store.chain_head.sequence ≤ store'.chain_head.sequence := by
  rw [hsound.chain.sequences.2, hsound'.chain.sequences.2]
  exact Nat.add_le_add_left h.events.length_le _

end Operations

namespace OfflineBackupCoordinatorV1

variable {sha : Sha256} {self : OfflineBackupCoordinatorV1} {stores stores' : Stores}
  {request : BeginBackupCutV1} {at_unix_ms : Int64}

section Begin

variable {receipt : EventReceiptV1} {roles : List BackupParticipantV1} {start : Stores} {store' : Store}

/-- The stores of the roles have begun, and the others are left alone. -/
theorem returns_begin_stores_iff (hnodup : roles.Nodup) :
    Returns ((begin_stores request roles).run (serve sha)) stores () stores' ↔
      (∀ role ∈ roles, ∃ receipt, Returns (begin_backup_cut sha request) (stores role) receipt (stores' role)) ∧
        ∀ role ∉ roles, stores' role = stores role := by
  induction roles generalizing stores with
  | nil =>
    rw [begin_stores, run_pure, returns_pure_iff]
    constructor
    · rintro ⟨_, rfl⟩
      exact ⟨by simp, fun _ _ => rfl⟩
    · rintro ⟨_, hsame⟩
      exact ⟨rfl, funext fun role => (hsame role (List.not_mem_nil)).symm⟩
  | cons role roles ih =>
    obtain ⟨hrole, hnodup⟩ := List.nodup_cons.mp hnodup
    rw [begin_stores, returns_make_bind_iff]
    simp only [ih hnodup]
    constructor
    · rintro ⟨receipt, store', hreturns, hbegun, hsame⟩
      have hself := hsame role hrole
      rw [Function.update_self] at hself
      refine ⟨List.forall_mem_cons.mpr ⟨⟨receipt, hself ▸ hreturns⟩, fun other hother => ?_⟩, fun other hother => ?_⟩
      · obtain ⟨receipt', h⟩ := hbegun other hother
        rw [Function.update_of_ne (by rintro rfl; exact hrole hother)] at h
        exact ⟨receipt', h⟩
      · rw [List.mem_cons, not_or] at hother
        rw [hsame other hother.2, Function.update_of_ne hother.1]
    · rintro ⟨hbegun, hsame⟩
      obtain ⟨⟨receipt, hreturns⟩, hbegun⟩ := List.forall_mem_cons.mp hbegun
      refine ⟨receipt, stores' role, hreturns, fun other hother => ?_, fun other hother => ?_⟩
      · rw [Function.update_of_ne (by rintro rfl; exact hrole hother)]
        exact hbegun other hother
      · by_cases hother_role : other = role
        · subst hother_role
          rw [Function.update_self]
        · rw [Function.update_of_ne hother_role]
          exact hsame other (by simp [hother_role, hother])

/-- Each store is as it was, or has begun the cut since. -/
def BegunFrom (sha : Sha256) (request : BeginBackupCutV1) (start stores : Stores) : Prop :=
  ∀ role, stores role = start role ∨
    ∃ receipt, Returns (begin_backup_cut sha request) (start role) receipt (stores role)

/-- A store that has begun a cut finds it again. -/
theorem begin_again {store : Store} (hreached : store.Reached sha)
    (h : Returns (begin_backup_cut sha request) store receipt store') :
    Returns (begin_backup_cut sha request) store' receipt store' := by
  have hreturns : Returns ((CutCall.begin_backup_cut request).perform sha) store receipt store' := h
  exact (CutCall.repeats hreturns hreached.sound).returns

theorem BegunFrom.update (hreached : start.Reached sha) (h : BegunFrom sha request start stores)
    {role : BackupParticipantV1} (hreturns : Returns (begin_backup_cut sha request) (stores role) receipt store') :
    BegunFrom sha request start (Function.update stores role store') := by
  intro other
  by_cases hother : other = role
  · subst hother
    rw [Function.update_self]
    rcases h other with hsame | ⟨receipt', hbegun⟩
    · rw [hsame] at hreturns
      exact .inr ⟨receipt, hreturns⟩
    · -- the second begin finds the first one
      have hsame : stores other = store' :=
        congrArg Prod.snd ((begin_again (hreached other) hbegun).symm.trans hreturns)
      rw [← hsame]
      exact .inr ⟨receipt', hbegun⟩
  · rw [Function.update_of_ne hother]
    exact h other

theorem BegunFrom.stops (hreached : start.Reached sha) (h : BegunFrom sha request start stores)
    (hstops : (begin_stores request roles).Stops (serve sha) stores stores') :
    BegunFrom sha request start stores' := by
  induction roles generalizing stores with
  | nil =>
    obtain rfl : stores' = stores := hstops
    exact h
  | cons role roles ih =>
    rw [begin_stores, stops_bind_iff, stops_make_iff] at hstops
    rcases hstops with (rfl | ⟨receipt, store', hreturns, rfl⟩) | ⟨receipt, between, hmake, hstops⟩
    · exact h
    · exact h.update hreached hreturns
    · obtain ⟨store', hreturns, rfl⟩ := returns_make_iff.mp hmake
      exact ih (h.update hreached hreturns) hstops

end Begin

section Prepared

variable {checkpoints : List BackupCheckpointV1} {role : BackupParticipantV1}

/-- A store that has prepared checkpoints finds each of them again. -/
def Recalled (sha : Sha256) (cut_id : String) (checkpoints : List BackupCheckpointV1) (store : Store) : Prop :=
  ∀ checkpoint ∈ checkpoints, ∃ cut registered receipt,
    PrepareChecked cut_id checkpoint store cut registered ∧ PrepareRepeats sha checkpoint registered receipt store

theorem Recalled.later {cut_id : String} {store store' : Store} (h : Recalled sha cut_id checkpoints store)
    (hlater : store.Later store') (hsound : store'.Sound sha) : Recalled sha cut_id checkpoints store' := by
  intro checkpoint hcheckpoint
  obtain ⟨cut, registered, receipt, hchecked, hrepeats⟩ := h checkpoint hcheckpoint
  have hcall : (CutCall.prepare_backup_participant cut_id checkpoint 0).Repeats sha receipt store :=
    ⟨cut, registered, hchecked, hrepeats⟩
  obtain ⟨cut', registered', hchecked', hrepeats'⟩ := hcall.later hlater hsound
  exact ⟨cut', registered', receipt, hchecked', hrepeats'⟩

theorem CutCall.identity {call : CutCall} {store store' : Store} {receipt : EventReceiptV1}
    (h : Returns (call.perform sha) store receipt store') : store'.store_identity = store.store_identity := by
  rcases CutCall.cases h with rfl | ⟨_, _, _, _, appended, happend, hframe⟩
  · rfl
  · obtain ⟨_, _, _, _, happended⟩ := returns_append_iff.mp happend
    rw [hframe, happended.frame]

/-- The calls that prepare checkpoints. -/
def prepare_calls (cut_id : String) (at_unix_ms : Int64) (checkpoints : List BackupCheckpointV1) : List StoreCall :=
  checkpoints.map fun checkpoint => .cut (.prepare_backup_participant cut_id checkpoint at_unix_ms)

theorem returns_prepare_store (hreached : stores.Reached sha)
    (h : Returns ((self.prepare_store role at_unix_ms checkpoints).run (serve sha)) stores () stores') :
    ∃ store', stores' = Function.update stores role store' ∧ store'.Reached sha ∧ (stores role).Later store' ∧
      Recalled sha self.cut_id checkpoints store' ∧ store'.store_identity = (stores role).store_identity ∧
      store' = (stores role).after sha (prepare_calls self.cut_id at_unix_ms checkpoints) := by
  induction checkpoints generalizing stores with
  | nil =>
    rw [prepare_store, run_pure, returns_pure_iff] at h
    obtain ⟨_, rfl⟩ := h
    exact ⟨stores role, (Function.update_eq_self role stores).symm, hreached role, .refl _,
      by simp [Recalled], rfl, rfl⟩
  | cons checkpoint checkpoints ih =>
    rw [prepare_store, returns_make_bind_iff] at h
    obtain ⟨receipt, store', hreturns, h⟩ := h
    obtain ⟨hreached', hlater⟩ := CutCall.reached hreturns (hreached role)
    obtain ⟨store'', rfl, hreached'', hlater', hrecalled, hidentity, hrun⟩ := ih (hreached.update hreached') h
    rw [Function.update_self] at hlater' hidentity hrun
    refine ⟨store'', Function.update_idem .., hreached'', hlater.trans hlater', ?_,
      hidentity.trans (CutCall.identity hreturns),
      hrun.trans (congrArg (Store.after sha · _) (congrArg Prod.snd hreturns).symm)⟩
    have hrepeats := (CutCall.repeats hreturns (hreached role).sound).later hlater' hreached''.sound
    obtain ⟨cut, registered, hchecked, hprepared⟩ := hrepeats
    exact List.forall_mem_cons.mpr ⟨⟨cut, registered, receipt, hchecked, hprepared⟩, hrecalled⟩

/-- The cut of a store is sealed, and its checkpoints are found again. -/
structure SealedFor (sha : Sha256) (cut_id : String) (checkpoints : List BackupCheckpointV1) (store : Store) :
    Prop where
  reached : store.Reached sha
  sealed : ∃ cut, store.cut cut_id = some cut ∧ cut.state = .Sealed
  recalled : Recalled sha cut_id checkpoints store

theorem returns_seal_store (hreached : stores.Reached sha)
    (h : Returns ((self.seal_store checkpoints at_unix_ms role).run (serve sha)) stores () stores') :
    ∃ store', stores' = Function.update stores role store' ∧ (stores role).Later store' ∧
      SealedFor sha self.cut_id checkpoints store' ∧ store'.store_identity = (stores role).store_identity ∧
      ∃ manifest, store' = (stores role).after sha (prepare_calls self.cut_id at_unix_ms checkpoints ++
        [.cut (.seal_backup_cut manifest at_unix_ms)]) := by
  rw [seal_store, returns_run_bind_iff] at h
  obtain ⟨_, prepared, hprepare, h⟩ := h
  obtain ⟨store', rfl, hreached', hlater_prepared, hrecalled, hidentity, hrun⟩ :=
    returns_prepare_store hreached hprepare
  rw [returns_read_bind_iff, returns_run_lift_bind_iff] at h
  obtain ⟨manifest, _, h⟩ := h
  rw [returns_make_bind_iff, Function.update_self] at h
  obtain ⟨receipt, store'', hseal, h⟩ := h
  rw [returns_read_bind_iff, returns_run_lift_bind_iff, Function.update_self] at h
  obtain ⟨record, hrecord, h⟩ := h
  rw [run_lift, returns_lift_iff, reject_eq_ok_iff, not_not] at h
  obtain ⟨hstate, rfl⟩ := h
  obtain ⟨hreached'', hlater⟩ := CutCall.reached hseal hreached'
  refine ⟨store'', Function.update_idem .., hlater_prepared.trans hlater, ⟨hreached'', ?_,
    hrecalled.later hlater hreached''.sound⟩, (CutCall.identity hseal).trans hidentity, manifest, ?_⟩
  swap
  · rw [Store.after_append, ← hrun]
    exact (congrArg Prod.snd hseal).symm
  simp only [backup_cut_from_connection, ok_rules] at hrecord
  obtain ⟨cut, hcut, _, rfl⟩ := hrecord
  exact ⟨cut, hcut, hstate⟩

theorem returns_seal_stores {roles : List BackupParticipantV1} (hnodup : roles.Nodup) (hreached : stores.Reached sha)
    (h : Returns ((self.seal_stores checkpoints at_unix_ms roles).run (serve sha)) stores () stores') :
    (∀ role ∈ roles, (stores role).Later (stores' role) ∧ SealedFor sha self.cut_id checkpoints (stores' role)) ∧
      ∀ role ∉ roles, stores' role = stores role := by
  induction roles generalizing stores with
  | nil =>
    rw [seal_stores, run_pure, returns_pure_iff] at h
    obtain ⟨_, rfl⟩ := h
    exact ⟨by simp, fun _ _ => rfl⟩
  | cons role roles ih =>
    obtain ⟨hrole, hnodup⟩ := List.nodup_cons.mp hnodup
    rw [seal_stores, returns_run_bind_iff] at h
    obtain ⟨_, between, hseal, h⟩ := h
    obtain ⟨store', rfl, hlater, hsealed, _⟩ := returns_seal_store hreached hseal
    obtain ⟨hrest, hsame⟩ := ih hnodup (hreached.update hsealed.reached) h
    refine ⟨List.forall_mem_cons.mpr ⟨?_, fun other hother => ?_⟩, fun other hother => ?_⟩
    · rw [hsame role hrole, Function.update_self]
      exact ⟨hlater, hsealed⟩
    · have hother_rest := hrest other hother
      rw [Function.update_of_ne (by rintro rfl; exact hrole hother)] at hother_rest
      exact hother_rest
    · rw [List.mem_cons, not_or] at hother
      rw [hsame other hother.2, Function.update_of_ne hother.1]

end Prepared

section Whole

variable {participants : List OfflineBackupParticipantV1} {checkpoints : List BackupCheckpointV1}

theorem checkpoint_eq_ok {role : BackupParticipantV1} {found : BackupCheckpointV1}
    (h : checkpoint sha stores participants role = .ok found) :
    found.participant = role ∧ found.chain_head = (stores role).chain_head := by
  simp only [checkpoint, ok_rules] at h
  obtain ⟨_, _, chain_head, hhead, _, _, rfl⟩ := h
  exact ⟨rfl, (verify_chain_eq_ok_iff.mp hhead).2.symm⟩

/-- What a call does that is left alone and succeeds. -/
structure Completes (sha : Sha256) (coordinator : OfflineBackupCoordinatorV1) (at_unix_ms : Int64)
    (participants : List OfflineBackupParticipantV1) (checkpoints : List BackupCheckpointV1)
    (stores begun stores' : Stores) : Prop where
  validated : coordinator.validate sha stores = .ok participants
  valid : (coordinator.begin_request participants).validate = .ok ()
  began : Returns ((begin_stores (coordinator.begin_request participants) REQUIRED_BACKUP_PARTICIPANTS).run
    (serve sha)) stores () begun
  taken : List.Forall₂ (fun role found => checkpoint sha begun participants role = .ok found)
    REQUIRED_BACKUP_PARTICIPANTS checkpoints
  sealed : Returns ((coordinator.seal_stores checkpoints at_unix_ms REQUIRED_BACKUP_PARTICIPANTS).run (serve sha))
    begun () stores'

theorem returns_seal_offline_iff :
    Returns ((self.seal_offline sha at_unix_ms).run (serve sha)) stores checkpoints stores' ↔
      ∃ participants begun, Completes sha self at_unix_ms participants checkpoints stores begun stores' := by
  rw [seal_offline, returns_read_bind_iff, returns_run_lift_bind_iff]
  refine exists_congr fun participants => ?_
  rw [returns_run_lift_bind_iff, exists_unit_iff, returns_run_bind_iff, exists_unit_iff]
  constructor
  · rintro ⟨hvalidated, hvalid, begun, hbegan, h⟩
    rw [returns_read_bind_iff, returns_run_lift_bind_iff] at h
    obtain ⟨found, hfound, h⟩ := h
    rw [returns_run_bind_iff] at h
    obtain ⟨_, ended, hsealed, h⟩ := h
    rw [run_pure, returns_pure_iff] at h
    obtain ⟨rfl, rfl⟩ := h
    exact ⟨begun, hvalidated, hvalid, hbegan, mapM_eq_ok_iff.mp hfound, hsealed⟩
  · rintro ⟨begun, h⟩
    refine ⟨h.validated, h.valid, begun, h.began, ?_⟩
    rw [returns_read_bind_iff, returns_run_lift_bind_iff]
    refine ⟨checkpoints, mapM_eq_ok_iff.mpr h.taken, ?_⟩
    rw [returns_run_bind_iff]
    exact ⟨(), stores', h.sealed, by rw [run_pure, returns_pure_iff]; exact ⟨rfl, rfl⟩⟩

end Whole

end OfflineBackupCoordinatorV1

end ag_store.offline_backup

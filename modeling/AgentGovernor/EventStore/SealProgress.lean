import AgentGovernor.EventStore.CutProgress
import AgentGovernor.EventStore.SealRun

open ag_primitives Checked Relational Transaction Windows Effects Lists

namespace ag_store.offline_backup

open lib

namespace OfflineBackupCoordinatorV1

variable {sha : Sha256} {self : OfflineBackupCoordinatorV1} {stores stores' : Stores}
  {request : BeginBackupCutV1} {at_unix_ms : Int64}

section Progress

variable {prepared checkpoints : List BackupCheckpointV1} {role : BackupParticipantV1}

/-- What a checkpoint needs to be prepared for a request. -/
structure Preparable (request : BeginBackupCutV1) (checkpoint : BackupCheckpointV1) : Prop where
  registered : ⟨checkpoint.participant, checkpoint.component_identity⟩ ∈ request.participants
  attested : checkpoint.quiescence_attestation.validate_for request.cut_id request.authority_domain request.epoch
    request.quiescence_barrier_id checkpoint.participant = .ok ()

variable (hsha : sha.CollisionFree) (hnames : Nameable request.cut_id)

include hsha hnames

/-- The next checkpoint is prepared. -/
theorem CutOnly.prepare_next {store : Store}
    (honly : CutOnly sha request prepared store) {checkpoint : BackupCheckpointV1}
    (hpreparable : Preparable request checkpoint)
    (hdistinct : ((prepared ++ [checkpoint]).map BackupCheckpointV1.participant).Nodup) (hshort : prepared.length < 3)
    (at_unix_ms : Int64) :
    ∃ receipt store', Returns ((CutCall.prepare_backup_participant request.cut_id checkpoint at_unix_ms).perform sha)
        store receipt store' ∧ CutOnly sha request (prepared ++ [checkpoint]) store' := by
  have hnew : ∀ other ∈ prepared, other.participant ≠ checkpoint.participant := by
    rw [List.map_append, List.nodup_append] at hdistinct
    intro other hother
    exact hdistinct.2.2 _ (List.mem_map_of_mem hother) _ (List.mem_map_of_mem List.mem_cons_self)
  obtain ⟨cut, hknown, hcuts, hdomain, hepoch, hbarrier, _, hstate⟩ := honly.known
  obtain ⟨registered, hrole, hidentity, hempty⟩ := honly.roles _ hpreparable.registered
  have hunprepared : registered.checkpoint_digest = none :=
    hempty.resolve_right fun ⟨other, hother, hsame⟩ => hnew other hother hsame
  have hchecked : PrepareChecked request.cut_id checkpoint store cut registered :=
    ⟨hknown, by rw [hdomain, hepoch, hbarrier]; exact hpreparable.attested, hrole, hidentity⟩
  obtain ⟨receipt, store', hprepared⟩ := honly.prepare_ok hsha hnames hshort hcuts hstate hunprepared hnew at_unix_ms
  exact ⟨receipt, store', returns_prepare_iff.mpr ⟨cut, registered, hchecked, .inr hprepared⟩,
    honly.after_prepare hchecked hprepared⟩

variable (hid : self.cut_id = request.cut_id) (hcheckpoints : ∀ checkpoint ∈ checkpoints, Preparable request checkpoint)

include hid hcheckpoints

theorem prepare_store_ok (honly : CutOnly sha request prepared (stores role))
    (hdistinct : ((prepared ++ checkpoints).map BackupCheckpointV1.participant).Nodup)
    (hlength : (prepared ++ checkpoints).length ≤ 3) :
    ∃ store', Returns ((self.prepare_store role at_unix_ms checkpoints).run (serve sha)) stores ()
        (Function.update stores role store') ∧ CutOnly sha request (prepared ++ checkpoints) store' := by
  induction checkpoints generalizing stores prepared with
  | nil =>
    refine ⟨stores role, ?_, by rw [List.append_nil]; exact honly⟩
    rw [Function.update_eq_self, prepare_store, run_pure, returns_pure_iff]
    exact ⟨rfl, rfl⟩
  | cons checkpoint checkpoints ih =>
    obtain ⟨hpreparable, hcheckpoints⟩ := List.forall_mem_cons.mp hcheckpoints
    rw [List.length_append, List.length_cons] at hlength
    rw [List.append_cons] at hdistinct
    have hfront : ((prepared ++ [checkpoint]).map BackupCheckpointV1.participant).Nodup := by
      rw [List.map_append] at hdistinct
      exact hdistinct.of_append_left
    obtain ⟨receipt, store', hreturns, honly'⟩ := CutOnly.prepare_next hsha hnames honly hpreparable hfront (by omega)
      at_unix_ms
    have hnext : CutOnly sha request (prepared ++ [checkpoint]) (Function.update stores role store' role) := by
      rw [Function.update_self]
      exact honly'
    obtain ⟨store'', hrest, hall⟩ := ih hcheckpoints hnext hdistinct (by simp; omega)
    rw [Function.update_idem] at hrest
    refine ⟨store'', ?_, by rw [List.append_cons]; exact hall⟩
    rw [prepare_store, returns_make_bind_iff, hid]
    exact ⟨receipt, store', hreturns, hrest⟩

theorem seal_store_ok (honly : CutOnly sha request [] (stores role))
    (hdistinct : (checkpoints.map BackupCheckpointV1.participant).Nodup) (hlength : checkpoints.length = 3) :
    ∃ store', Returns ((self.seal_store checkpoints at_unix_ms role).run (serve sha)) stores ()
      (Function.update stores role store') := by
  obtain ⟨store', hprepare, honly'⟩ := prepare_store_ok hsha hnames hid hcheckpoints honly hdistinct (by simp [hlength])
  obtain ⟨manifest, receipt, store'', cut, hbuilt, hseal, hcut, hstate, hcount⟩ :=
    honly'.seal_ok hsha hnames (by simp [hlength]) at_unix_ms
  rw [← hid] at hbuilt hcut hcount
  refine ⟨store'', ?_⟩
  rw [seal_store, returns_run_bind_iff]
  refine ⟨(), _, hprepare, ?_⟩
  rw [returns_read_bind_iff, returns_run_lift_bind_iff, Function.update_self]
  refine ⟨manifest, hbuilt, ?_⟩
  rw [returns_make_bind_iff, Function.update_self]
  refine ⟨receipt, store'', hseal, ?_⟩
  rw [returns_read_bind_iff, returns_run_lift_bind_iff, Function.update_self, Function.update_idem]
  simp only [backup_cut_from_connection, ok_rules, hcut, Option.some.injEq, exists_eq_left', hcount, run_lift,
    returns_lift_iff]
  exact ⟨_, ⟨by decide, rfl⟩, hstate, trivial⟩

theorem seal_stores_ok
    {roles : List BackupParticipantV1} (hnodup : roles.Nodup)
    (honly : ∀ role ∈ roles, CutOnly sha request [] (stores role))
    (hdistinct : (checkpoints.map BackupCheckpointV1.participant).Nodup) (hlength : checkpoints.length = 3) :
    ∃ stores', Returns ((self.seal_stores checkpoints at_unix_ms roles).run (serve sha)) stores () stores' := by
  induction roles generalizing stores with
  | nil =>
    rw [seal_stores, run_pure]
    exact ⟨stores, returns_pure_iff.mpr ⟨rfl, rfl⟩⟩
  | cons role roles ih =>
    obtain ⟨hrole, hnodup⟩ := List.nodup_cons.mp hnodup
    obtain ⟨honly_role, honly⟩ := List.forall_mem_cons.mp honly
    obtain ⟨store', hseal⟩ := seal_store_ok hsha hnames hid hcheckpoints honly_role hdistinct hlength
    have hrest : ∀ other ∈ roles, CutOnly sha request [] (Function.update stores role store' other) := by
      intro other hother
      rw [Function.update_of_ne (by rintro rfl; exact hrole hother)]
      exact honly other hother
    obtain ⟨stores', hreturns⟩ := ih hnodup hrest
    refine ⟨stores', ?_⟩
    rw [seal_stores, returns_run_bind_iff]
    exact ⟨(), _, hseal, hreturns⟩

end Progress

/-- Three new stores. -/
def new_stores (sha : Sha256) (identities : BackupParticipantV1 → StoreIdentityV1)
    (objects : BackupParticipantV1 → Digest → Option BlobFileV1) : Stores :=
  fun role => Store.fresh sha (identities role) (objects role)

end OfflineBackupCoordinatorV1

end ag_store.offline_backup

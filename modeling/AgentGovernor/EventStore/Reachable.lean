import AgentGovernor.EventStore.CutSpec
import AgentGovernor.Lib.Kept

open ag_primitives Checked Relational Transaction Windows HashChain EventLog

namespace ag_store.lib

/-- A call of the lifecycle of a backup cut. -/
inductive CutCall where
  | begin_backup_cut (request : BeginBackupCutV1)
  | prepare_backup_participant (cut_id : String) (checkpoint : BackupCheckpointV1) (occurred_at_unix_ms : Int64)
  | seal_backup_cut (manifest : BackupCutManifestV1) (occurred_at_unix_ms : Int64)
  | release_backup_cut (cut_id : String) (bundle_digest : Digest) (occurred_at_unix_ms : Int64)
  | abort_backup_cut (cut_id reason : String) (occurred_at_unix_ms : Int64)

namespace CutCall

/-- The cut a call is about. -/
def cut_id : CutCall → String
  | begin_backup_cut request => request.cut_id
  | prepare_backup_participant cut_id _ _ => cut_id
  | seal_backup_cut manifest _ => manifest.cut_id
  | release_backup_cut cut_id _ _ => cut_id
  | abort_backup_cut cut_id _ _ => cut_id

def perform (sha : Sha256) : CutCall → StoreTx EventReceiptV1
  | begin_backup_cut request => lib.begin_backup_cut sha request
  | prepare_backup_participant cut_id checkpoint occurred_at_unix_ms =>
    lib.prepare_backup_participant sha cut_id checkpoint occurred_at_unix_ms
  | seal_backup_cut manifest occurred_at_unix_ms => lib.seal_backup_cut sha manifest occurred_at_unix_ms
  | release_backup_cut cut_id bundle_digest occurred_at_unix_ms =>
    lib.release_backup_cut sha cut_id bundle_digest occurred_at_unix_ms
  | abort_backup_cut cut_id reason occurred_at_unix_ms => lib.abort_backup_cut sha cut_id reason occurred_at_unix_ms

end CutCall

/-- A call that writes to a store. -/
inductive StoreCall where
  | append_event (event : NewEventV1) (state : Serializable) (expected_revision : Nat)
  | append_distinct_event_pair (first_event : NewEventV1) (first_state : Serializable) (first_expected_revision : Nat)
      (second_event : NewEventV1) (second_state : Serializable) (second_expected_revision : Nat)
  | install_blob (descriptor : BlobDescriptorV1) (reader : Except StoreError BlobBytesV1)
      (installed_at_unix_ms : Int64)
  | cut (call : CutCall)

/-- The store behind a call, whether the call succeeds or not. -/
def StoreCall.run (sha : Sha256) (store : Store) : StoreCall → Store
  | append_event event state expected_revision => (lib.append_event sha event state expected_revision store).2
  | append_distinct_event_pair first_event first_state first_expected_revision second_event second_state
      second_expected_revision =>
    (lib.append_distinct_event_pair sha first_event first_state first_expected_revision second_event second_state
      second_expected_revision store).2
  | install_blob descriptor reader installed_at_unix_ms =>
    (lib.install_blob descriptor reader installed_at_unix_ms store).2
  | cut call => (call.perform sha store).2

/-- The store behind a sequence of calls. -/
def Store.after (sha : Sha256) (store : Store) (calls : List StoreCall) : Store :=
  calls.foldl (StoreCall.run sha) store

theorem Store.after_append (sha : Sha256) (store : Store) (calls : List StoreCall) (call : StoreCall) :
    store.after sha (calls ++ [call]) = call.run sha (store.after sha calls) := by
  simp [Store.after]

section Calls

variable {sha : Sha256} {store store' : Store} {receipt : EventReceiptV1}

/-- All that a call of the lifecycle can do to a store: it finds its own result, or it
does its step for the first time. -/
inductive CutCall.Effect (sha : Sha256) (receipt : EventReceiptV1) (store : Store) : CutCall → Store → Prop where
  | same {call : CutCall} : Effect sha receipt store call store
  | begun {request : BeginBackupCutV1} {store' : Store} (hvalid : request.validate = .ok ())
    (h : Begun sha request receipt store store') : Effect sha receipt store (.begin_backup_cut request) store'
  | prepared {cut_id : String} {checkpoint : BackupCheckpointV1} {at_unix_ms : Int64} {cut : BackupCutRow}
    {registered : BackupParticipantRow} {store' : Store}
    (hchecked : PrepareChecked cut_id checkpoint store cut registered)
    (h : ParticipantPrepared sha cut_id checkpoint at_unix_ms cut registered receipt store store') :
    Effect sha receipt store (.prepare_backup_participant cut_id checkpoint at_unix_ms) store'
  | sealed {manifest : BackupCutManifestV1} {at_unix_ms : Int64} {cut : BackupCutRow} {store' : Store}
    (hcut : store.cut manifest.cut_id = some cut) (h : CutSealed sha manifest at_unix_ms cut receipt store store') :
    Effect sha receipt store (.seal_backup_cut manifest at_unix_ms) store'
  | released {cut_id : String} {bundle_digest : Digest} {at_unix_ms : Int64} {cut : BackupCutRow} {store' : Store}
    (hcut : store.cut cut_id = some cut)
    (h : CutReleased sha cut_id bundle_digest at_unix_ms cut receipt store store') :
    Effect sha receipt store (.release_backup_cut cut_id bundle_digest at_unix_ms) store'
  | aborted {cut_id reason : String} {at_unix_ms : Int64} {cut : BackupCutRow} {store' : Store}
    (hcut : store.cut cut_id = some cut) (h : CutAborted sha cut_id reason at_unix_ms cut receipt store store') :
    Effect sha receipt store (.abort_backup_cut cut_id reason at_unix_ms) store'

theorem CutCall.effect {call : CutCall} (h : Returns (call.perform sha) store receipt store') :
    CutCall.Effect sha receipt store call store' := by
  cases call with
  | begin_backup_cut request =>
    obtain ⟨hvalid, ⟨_, rfl⟩ | hbegun⟩ := returns_begin_iff.mp h
    · exact .same
    · exact .begun hvalid hbegun
  | prepare_backup_participant cut_id checkpoint at_unix_ms =>
    obtain ⟨_, _, hchecked, ⟨_, rfl⟩ | hprepared⟩ := returns_prepare_iff.mp h
    · exact .same
    · exact .prepared hchecked hprepared
  | seal_backup_cut manifest at_unix_ms =>
    obtain ⟨_, hcut, ⟨_, rfl⟩ | hsealed⟩ := returns_seal_iff.mp h
    · exact .same
    · exact .sealed hcut hsealed
  | release_backup_cut cut_id bundle_digest at_unix_ms =>
    obtain ⟨_, hcut, ⟨_, rfl⟩ | hreleased⟩ := returns_release_iff.mp h
    · exact .same
    · exact .released hcut hreleased
  | abort_backup_cut cut_id reason at_unix_ms =>
    obtain ⟨_, _, hcut, ⟨_, rfl⟩ | haborted⟩ := returns_abort_iff.mp h
    · exact .same
    · exact .aborted hcut haborted

/-- A call of the lifecycle either finds its own result, or appends one event of its cut. -/
theorem CutCall.cases {call : CutCall} (h : Returns (call.perform sha) store receipt store') :
    store = store' ∨ ∃ event state revision, event.entity_id = backup_entity_id call.cut_id ∧
      Recorded (append_event_in_transaction sha event state revision) receipt store store' := by
  cases CutCall.effect h with
  | same => exact .inl rfl
  | begun _ h => exact .inr ⟨_, _, _, rfl, h.recorded⟩
  | prepared _ h => exact .inr ⟨_, _, _, rfl, h.recorded⟩
  | sealed _ h => exact .inr ⟨_, _, _, rfl, h.recorded⟩
  | released _ h =>
    obtain ⟨_, _, hrecorded⟩ := h.recorded
    exact .inr ⟨_, _, _, rfl, hrecorded⟩
  | aborted _ h => exact .inr ⟨_, _, _, rfl, h.recorded⟩

theorem CutCall.atomic (sha : Sha256) (call : CutCall) : Atomic (call.perform sha) := by
  cases call with
  | begin_backup_cut request =>
    refine atomic_bind (readOnly_lift _) fun _ => atomic_bind (readOnly_query _) fun cut => ?_
    cases cut with
    | some cut => exact atomic_bind (readOnly_lift _) fun _ => (readOnly_query _).atomic
    | none => exact atomic_bind (readOnly_query _) fun _ => atomic_transaction _
  | prepare_backup_participant cut_id checkpoint at_unix_ms =>
    refine atomic_bind (readOnly_query _) fun cut => atomic_bind (readOnly_lift _) fun _ =>
      atomic_bind (readOnly_query _) fun registered => atomic_bind (readOnly_lift _) fun _ => ?_
    split
    · exact atomic_bind (readOnly_lift _) fun _ => atomic_bind (readOnly_lift _) fun _ => (readOnly_query _).atomic
    · exact atomic_transaction _
  | seal_backup_cut manifest at_unix_ms =>
    refine atomic_bind (readOnly_query _) fun cut => ?_
    split
    · exact atomic_bind (readOnly_lift _) fun _ => atomic_bind (readOnly_lift _) fun _ => (readOnly_query _).atomic
    · exact atomic_bind (readOnly_query _) fun _ => atomic_bind (readOnly_lift _) fun _ => atomic_transaction _
  | release_backup_cut cut_id bundle_digest at_unix_ms =>
    refine atomic_bind (readOnly_query _) fun cut => ?_
    split
    · exact atomic_bind (readOnly_lift _) fun _ => atomic_bind (readOnly_lift _) fun _ => (readOnly_query _).atomic
    · exact atomic_transaction _
  | abort_backup_cut cut_id reason at_unix_ms =>
    refine atomic_bind (readOnly_lift _) fun _ => atomic_bind (readOnly_query _) fun cut => ?_
    split
    · exact atomic_bind (readOnly_lift _) fun _ => atomic_bind (readOnly_lift _) fun _ => (readOnly_query _).atomic
    · exact atomic_transaction _

theorem append_event_atomic (sha : Sha256) (event : NewEventV1) (state : Serializable) (expected_revision : Nat) :
    Atomic (append_event sha event state expected_revision) :=
  atomic_bind (readOnly_lift _) fun _ => atomic_transaction _

theorem append_distinct_event_pair_atomic (sha : Sha256) (first_event : NewEventV1) (first_state : Serializable)
    (first_expected_revision : Nat) (second_event : NewEventV1) (second_state : Serializable)
    (second_expected_revision : Nat) :
    Atomic (append_distinct_event_pair sha first_event first_state first_expected_revision second_event second_state
      second_expected_revision) :=
  atomic_bind (readOnly_lift _) fun _ => atomic_bind (readOnly_lift _) fun _ =>
    atomic_bind (readOnly_lift _) fun _ => atomic_transaction _

/-- A pair that is accepted appends its two events one after the other. -/
theorem append_pair_cases {first_event second_event : NewEventV1} {first_state second_state : Serializable}
    {first_revision second_revision : Nat} {receipts : EventReceiptV1 × EventReceiptV1}
    (h : Returns (append_distinct_event_pair sha first_event first_state first_revision second_event second_state
      second_revision) store receipts store') :
    active_backup_cut store = none ∧ ∃ between,
      Returns (append_event_in_transaction sha first_event first_state first_revision) store receipts.1 between ∧
      Returns (append_event_in_transaction sha second_event second_state second_revision) between receipts.2
        store' := by
  simp only [append_distinct_event_pair, returns_lift_bind_iff, exists_unit_iff, returns_transaction_iff,
    returns_query_bind_iff, ensure_no_backup_barrier_eq_ok_iff] at h
  obtain ⟨_, _, _, hunfenced, h⟩ := h
  obtain ⟨first, between, hfirst, h⟩ := returns_bind_iff.mp h
  obtain ⟨second, hsecond, rfl⟩ := returns_bind_pure_iff.mp h
  exact ⟨hunfenced, between, hfirst, hsecond⟩

/-- A pair returns exactly what its two events return when each is appended by itself, the
second to what the first left. -/
theorem append_distinct_event_pair_iff {first_event second_event : NewEventV1} {first_state second_state : Serializable}
    {first_revision second_revision : Nat} {receipts : EventReceiptV1 × EventReceiptV1} :
    Returns (append_distinct_event_pair sha first_event first_state first_revision second_event second_state
      second_revision) store receipts store' ↔
    first_event.entity_id ≠ second_event.entity_id ∧ ∃ between,
      Returns (append_event sha first_event first_state first_revision) store receipts.1 between ∧
      Returns (append_event sha second_event second_state second_revision) between receipts.2 store' := by
  simp only [append_distinct_event_pair, returns_lift_bind_iff, exists_unit_iff, returns_transaction_iff,
    returns_query_bind_iff, ensure_no_backup_barrier_eq_ok_iff, returns_append_event_iff, reject_eq_ok_iff]
  simp only [returns_bind_iff, returns_pure_iff]
  constructor
  · rintro ⟨-, -, hdistinct, hunfenced, _, between, hfirst, _, _, hsecond, rfl, rfl⟩
    obtain ⟨_, _, _, _, happended⟩ := returns_append_iff.mp hfirst
    refine ⟨hdistinct, between, ⟨hunfenced, hfirst⟩, ?_, hsecond⟩
    rw [happended.frame]
    exact hunfenced
  · rintro ⟨hdistinct, between, ⟨hunfenced, hfirst⟩, -, hsecond⟩
    obtain ⟨_, _, haccepted, _⟩ := returns_append_iff.mp hfirst
    obtain ⟨_, _, haccepted', _⟩ := returns_append_iff.mp hsecond
    exact ⟨haccepted.valid, haccepted'.valid, hdistinct, hunfenced, _, between, hfirst, _, _, hsecond, rfl, rfl⟩

/-- Two stores that differ in their blobs only. -/
structure SameChain (store store' : Store) : Prop where
  frame : store' = { store with blobs := store'.blobs, objects := store'.objects }

instance : Std.Refl SameChain := ⟨fun _ => ⟨rfl⟩⟩

instance : IsTrans Store SameChain := ⟨fun first second third h h' => ⟨by rw [h'.frame, h.frame]⟩⟩

theorem install_object_keeps (descriptor : BlobDescriptorV1) (reader : Except StoreError BlobBytesV1) :
    Keeps SameChain (install_object descriptor reader) := by
  refine keeps_bind (readOnly_query _).keeps fun file => ?_
  cases file with
  | some file => exact (readOnly_lift _).keeps
  | none =>
    refine keeps_bind (readOnly_lift _).keeps fun bytes => keeps_bind (readOnly_lift _).keeps fun _ =>
      keeps_update ?_
    rintro store _ store' hstore
    cases hstore
    exact ⟨rfl⟩

/-- An installation writes no event and no cut. -/
theorem install_blob_keeps (descriptor : BlobDescriptorV1) (reader : Except StoreError BlobBytesV1)
    (installed_at_unix_ms : Int64) : Keeps SameChain (install_blob descriptor reader installed_at_unix_ms) := by
  refine keeps_bind (readOnly_query _).keeps fun row => ?_
  cases row with
  | some row =>
    exact keeps_bind (readOnly_lift _).keeps fun _ => keeps_bind (readOnly_query _).keeps fun _ =>
      (readOnly_pure _).keeps
  | none =>
    refine keeps_bind (readOnly_query _).keeps fun _ => keeps_bind (install_object_keeps _ _) fun _ =>
      keeps_transaction (keeps_bind (readOnly_query _).keeps fun _ => keeps_bind (readOnly_lift _).keeps fun _ =>
        keeps_bind (keeps_update ?_) fun _ => keeps_bind (readOnly_query _).keeps fun _ =>
          keeps_bind (readOnly_lift _).keeps fun _ => (readOnly_pure _).keeps)
    intro store _ store' hstore
    split at hstore <;> cases hstore <;> exact ⟨rfl⟩

end Calls

section Extension

variable {sha : Sha256} {store store' : Store} {receipt : EventReceiptV1}

/-- What any call does to the events of a sound store: it appends some, and stays sound. -/
structure Extended (sha : Sha256) (store store' : Store) (added : List EventRow) : Prop where
  sound : store'.Sound sha
  events : store'.events.rows = store.events.rows ++ added

theorem Extended.refl (hsound : store.Sound sha) : Extended sha store store [] :=
  ⟨hsound, (List.append_nil _).symm⟩

theorem append_extended (hsound : store.Sound sha) {event : NewEventV1} {state : Serializable} {revision : Nat}
    (h : Returns (append_event_in_transaction sha event state revision) store receipt store') :
    ∃ row, Extended sha store store' [row] ∧ row.event_id = event.event_id ∧ row.entity_id = event.entity_id := by
  obtain ⟨_, _, _, _, happended⟩ := returns_append_iff.mp h
  exact ⟨_, ⟨append_sound hsound h, happended.events⟩, rfl, rfl⟩

theorem StoreCall.extended (hsound : store.Sound sha) (call : StoreCall) :
    ∃ added, Extended sha store (call.run sha store) added := by
  cases call with
  | append_event event state expected_revision =>
    rcases (append_event_atomic sha event state expected_revision).cases store with hsame | ⟨receipt, h⟩
    · exact ⟨[], by rw [StoreCall.run, hsame]; exact .refl hsound⟩
    · obtain ⟨_, h⟩ := returns_append_event_iff.mp h
      obtain ⟨row, hextended, _⟩ := append_extended hsound h
      exact ⟨[row], hextended⟩
  | append_distinct_event_pair first_event first_state first_revision second_event second_state second_revision =>
    rcases (append_distinct_event_pair_atomic sha first_event first_state first_revision second_event second_state
      second_revision).cases store with hsame | ⟨receipts, h⟩
    · exact ⟨[], by rw [StoreCall.run, hsame]; exact .refl hsound⟩
    · obtain ⟨_, between, hfirst, hsecond⟩ := append_pair_cases h
      obtain ⟨first, hextended, _⟩ := append_extended hsound hfirst
      obtain ⟨second, hextended', _⟩ := append_extended hextended.sound hsecond
      exact ⟨[first, second], hextended'.sound, by rw [StoreCall.run, hextended'.events, hextended.events]; simp⟩
  | install_blob descriptor reader installed_at_unix_ms =>
    have hsame := (install_blob_keeps descriptor reader installed_at_unix_ms store).frame
    refine ⟨[], ?_⟩
    rw [StoreCall.run, hsame]
    exact ⟨⟨hsound.chain, hsound.folds, hsound.complete⟩, (List.append_nil _).symm⟩
  | cut call =>
    rcases (CutCall.atomic sha call).cases store with hsame | ⟨receipt, h⟩
    · exact ⟨[], by rw [StoreCall.run, hsame]; exact .refl hsound⟩
    · rcases CutCall.cases h with hsame | ⟨event, state, revision, _, appended, hreturns, hframe⟩
      · exact ⟨[], by rw [StoreCall.run, ← hsame]; exact .refl hsound⟩
      · obtain ⟨row, hextended, _⟩ := append_extended hsound hreturns
        refine ⟨[row], ?_⟩
        rw [StoreCall.run, hframe]
        exact ⟨⟨hextended.sound.chain, hextended.sound.folds, hextended.sound.complete⟩, hextended.events⟩

/-- Every store that calls lead to is sound. -/
theorem Store.after_sound (hsound : store.Sound sha) (calls : List StoreCall) : (store.after sha calls).Sound sha := by
  induction calls using List.reverseRecOn with
  | nil => exact hsound
  | append_singleton calls call ih =>
    rw [Store.after_append]
    obtain ⟨_, hextended⟩ := StoreCall.extended ih call
    exact hextended.sound

end Extension

/-- Whatever calls are made on a new store, successful or not: it passes its own check, its
events are numbered without gaps, and the revision of an entity is the number of its events.
A call moves the revisions by the events it appends. -/
theorem event_store_invariant (sha : Sha256) (identity : StoreIdentityV1) (objects : Digest → Option BlobFileV1)
    (calls : List StoreCall) :
    let store := (Store.fresh sha identity objects).after sha calls
    verify_chain sha store = .ok store.chain_head ∧
      store.events.rows.map EventRow.sequence = List.range' 1 store.events.rows.length ∧
      (∀ entity_id, materialized_revision entity_id store =
        store.events.rows.countP fun row => row.entity_id = entity_id) ∧
      (∀ call : StoreCall, ∃ added, (call.run sha store).events.rows = store.events.rows ++ added ∧
        ∀ entity_id, materialized_revision entity_id (call.run sha store) =
          materialized_revision entity_id store + added.countP fun row => row.entity_id = entity_id) ∧
      (∀ event state expected_revision, materialized_revision event.entity_id store ≠ expected_revision ∨
          (∃ row ∈ store.events.rows, row.event_id = event.event_id) →
        ∃ error, append_event sha event state expected_revision store = (.error error, store)) ∧
      ∀ first_event first_state first_revision second_event second_state second_revision,
        (∃ error, append_distinct_event_pair sha first_event first_state first_revision second_event second_state
          second_revision store = (.error error, store)) ∨
        ∃ receipts store' first second, append_distinct_event_pair sha first_event first_state first_revision
            second_event second_state second_revision store = (.ok receipts, store') ∧
          store'.events.rows = store.events.rows ++ [first, second] ∧ first.event_id = first_event.event_id ∧
          second.event_id = second_event.event_id := by
  intro store
  have hsound : store.Sound sha := Store.after_sound (Store.fresh_sound sha identity objects) calls
  refine ⟨hsound.verify_chain, hsound.chain.sequences.1, hsound.materialized_revision, fun call => ?_,
    fun event state expected_revision h => ?_,
    fun first_event first_state first_revision second_event second_state second_revision => ?_⟩
  · obtain ⟨added, hextended⟩ := StoreCall.extended hsound call
    refine ⟨added, hextended.events, fun entity_id => ?_⟩
    rw [hextended.sound.materialized_revision, hsound.materialized_revision, hextended.events]
    exact List.countP_append
  · refine (append_event_atomic sha event state expected_revision).refuses fun receipt store' hreturns => ?_
    obtain ⟨_, hreturns⟩ := returns_append_event_iff.mp hreturns
    obtain ⟨_, _, haccepted, _⟩ := returns_append_iff.mp hreturns
    rcases h with hrevision | ⟨row, hrow, hid⟩
    · exact hrevision haccepted.revision
    · exact haccepted.fresh row hrow hid
  · by_cases hreturns : ∃ receipts store', Returns (append_distinct_event_pair sha first_event
        first_state first_revision second_event second_state second_revision) store receipts store'
    · obtain ⟨receipts, store', h⟩ := hreturns
      obtain ⟨_, between, hfirst, hsecond⟩ := append_pair_cases h
      obtain ⟨first, hextended, hid, _⟩ := append_extended hsound hfirst
      obtain ⟨second, hextended', hid', _⟩ := append_extended hextended.sound hsecond
      exact .inr ⟨receipts, store', first, second, h, by rw [hextended'.events, hextended.events]; simp, hid, hid'⟩
    · push Not at hreturns
      exact .inl ((append_distinct_event_pair_atomic sha first_event first_state first_revision second_event
        second_state second_revision).refuses hreturns)

end ag_store.lib

import AgentGovernor.EventStore.Sound
import AgentGovernor.Primitives.IdealHash

open ag_primitives Checked Relational Transaction Windows HashChain EventLog

namespace ag_store.lib

/-- The materialized states are the fold of the events: each entity that has events has
exactly one row, which carries its last event and the number of its events. -/
def Store.Folded (store : Store) : Prop :=
  ∀ event ∈ store.events.rows, ∃ row last,
    (store.materialized_state.rows.filter fun row => row.entity_id = event.entity_id) = [row] ∧
    latest EventRow.entity_id store.log event.entity_id = some last ∧
    row.state_digest = last.state_digest ∧ row.last_event_sequence = last.sequence ∧
    row.last_event_digest = last.event_digest ∧
    row.revision = revision EventRow.entity_id store.events.rows event.entity_id

/-- No event is ahead of the row of its entity, and every row counts the events up to the
one it points to. -/
structure Store.Current (store : Store) : Prop where
  covered : ∀ event ∈ store.events.rows, ∃ row ∈ store.materialized_state.rows,
    row.entity_id = event.entity_id ∧ event.sequence ≤ row.last_event_sequence
  counted : ∀ row ∈ store.materialized_state.rows, row.revision = store.events.rows.countP fun event =>
    event.entity_id = row.entity_id ∧ event.sequence ≤ row.last_event_sequence

section Folded

variable {sha : Sha256} {store : Store} {identity : StoreIdentityV1}

theorem Store.exists_latest {event : EventRow} (hevent : event ∈ store.events.rows) :
    ∃ last, latest EventRow.entity_id store.log event.entity_id = some last :=
  Option.isSome_iff_exists.mp (latest_isSome_iff.mpr ⟨event, Store.mem_log.mpr hevent, rfl⟩)

variable (h : store.Verified sha identity)

include h

theorem Store.Verified.le_latest {event last : EventRow} {entity_id : String}
    (hlast : latest EventRow.entity_id store.log entity_id = some last) (hevent : event ∈ store.events.rows)
    (hentity : event.entity_id = entity_id) : event.sequence ≤ last.sequence :=
  EventLog.le_latest h.chain.strict hlast (Store.mem_log.mpr hevent) hentity

/-- All events of an entity are counted when the pointer of its row is at the last one. -/
theorem Store.Verified.count_eq {last : EventRow} {entity_id : String}
    (hlast : latest EventRow.entity_id store.log entity_id = some last) :
    (store.events.rows.countP fun event => event.entity_id = entity_id ∧ event.sequence ≤ last.sequence) =
      revision EventRow.entity_id store.events.rows entity_id := by
  refine List.countP_congr fun event hevent => ?_
  simp only [decide_eq_true_eq]
  exact ⟨And.left, fun hentity => ⟨hentity, h.le_latest hlast hevent hentity⟩⟩

theorem Store.Verified.folded_of_current (hcurrent : store.Current) :
    store.Folded := by
  intro event hevent
  obtain ⟨last, hlast⟩ := Store.exists_latest hevent
  obtain ⟨hmem, hentity⟩ := mem_of_latest_eq_some hlast
  have hstored := Store.mem_log.mp hmem
  obtain ⟨row, hrow, hsame, hcovers⟩ := hcurrent.covered last hstored
  obtain ⟨linked, hbound⟩ := h.bound row hrow
  -- the row points to an event of the entity, and none is later than the last one
  have hlinked : linked = last := by
    have hle := h.le_latest hlast hbound.stored (hbound.entity_id.trans (hsame.trans hentity))
    rw [← hbound.sequence] at hcovers
    exact Table.eq_of_conflict hbound.stored hstored (.inl (le_antisymm hle hcovers))
  subst hlinked
  have hkey : row.entity_id = event.entity_id := hsame.trans hentity
  refine ⟨row, linked, Table.filter_eq_singleton hrow (decide_eq_true hkey) fun other hother => .inl ?_, hlast,
    hbound.state_digest.symm, hbound.sequence.symm, hbound.event_digest.symm, ?_⟩
  · exact (of_decide_eq_true hother).trans hkey.symm
  · rw [hcurrent.counted row hrow, ← hbound.sequence, hkey]
    exact h.count_eq hlast

theorem Store.Verified.current_of_folded (hfolded : store.Folded) :
    store.Current := by
  refine ⟨fun event hevent => ?_, fun row hrow => ?_⟩
  · obtain ⟨row, last, hrows, hlast, _, hsequence, _⟩ := hfolded event hevent
    have hmem : row ∈ store.materialized_state.rows.filter fun row => row.entity_id = event.entity_id := by
      rw [hrows]
      exact List.mem_singleton_self row
    obtain ⟨hrow, hentity⟩ := List.mem_filter.mp hmem
    exact ⟨row, hrow, of_decide_eq_true hentity, hsequence ▸ h.le_latest hlast hevent rfl⟩
  · obtain ⟨linked, hbound⟩ := h.bound row hrow
    obtain ⟨only, last, hrows, hlast, _, hsequence, _, hrevision⟩ := hfolded linked hbound.stored
    have honly : row = only := by
      have hmem : row ∈ store.materialized_state.rows.filter fun row => row.entity_id = linked.entity_id :=
        List.mem_filter.mpr ⟨hrow, decide_eq_true hbound.entity_id.symm⟩
      rw [hrows] at hmem
      exact List.mem_singleton.mp hmem
    subst honly
    rw [hrevision, hsequence, ← hbound.entity_id]
    exact (h.count_eq hlast).symm

omit h

/-- A sound store is the fold of its events. -/
theorem Store.Sound.folded (h : store.Sound sha) : store.Folded := by
  intro event hevent
  obtain ⟨row, hrow, hentity⟩ := h.complete event hevent
  obtain ⟨last, hfolds⟩ := h.folds row hrow
  rw [h.log_eq, ← hentity]
  refine ⟨row, last, Table.filter_eq_singleton hrow (decide_eq_true rfl) fun other hother => .inl ?_, hfolds.latest,
    hfolds.state_digest, hfolds.sequence, hfolds.event_digest, hfolds.revision⟩
  exact of_decide_eq_true hother

end Folded

/-- A store that passes its check holds the fold of its events exactly when no event is
ahead of the row of its entity and every row counts the events behind it: the check looks
at neither. -/
theorem verified_store_folded_iff {sha : Sha256} {store : Store} {head : ChainHeadV1}
    (h : verify_chain sha store = .ok head) : store.Folded ↔ store.Current := by
  obtain ⟨hverified, _⟩ := verify_chain_eq_ok_iff.mp h
  exact ⟨hverified.current_of_folded, hverified.folded_of_current⟩

section Sample

variable (sha : Sha256)

def sample_store : Store :=
  .fresh sha (compiled_identity 1 "sample") fun _ => none

def sample_event (event_id : String) : NewEventV1 :=
  { event_id, entity_id := "entity", event_kind := "kind", occurred_at_unix_ms := 0, payload := .ok .null }

variable {sha} {store : Store}

/-- Two events of one entity, appended to a new store. -/
theorem sample_appended (hsha : sha.CollisionFree) :
    ∃ first second receipt receipt' row row',
      Returns (append_event sha (sample_event "first") (.ok .null) 0) (sample_store sha) receipt first ∧
      Returns (append_event sha (sample_event "second") (.ok .null) 1) first receipt' second ∧
      first.Sound sha ∧ second.Sound sha ∧ second.store_identity = first.store_identity ∧
      first.events.rows = [row] ∧ second.events.rows = [row, row'] ∧ row.sequence = 1 ∧ row'.sequence = 2 := by
  have hnew : (sample_store sha).Sound sha := Store.fresh_sound sha _ _
  have haccepted : AppendAccepted (sample_event "first") (.ok .null) 0 (sample_store sha) .null .null :=
    ⟨rfl, by simp [sample_store, Store.fresh], rfl, by decide, (by decide : 0 + 1 ≤ I64_MAX), rfl, rfl⟩
  obtain ⟨first, hreturns, happended⟩ := append_ok hsha hnew haccepted
  have hfirst := append_sound hnew hreturns
  have hrow : first.events.rows = [(sample_store sha).next_row sha (sample_event "first") .null .null] :=
    happended.events
  have hhead : first.chain_head.sequence = 1 := by
    rw [happended.frame]
    rfl
  have haccepted' : AppendAccepted (sample_event "second") (.ok .null) 1 first .null .null := by
    refine ⟨rfl, ?_, ?_, by decide, by rw [hhead]; decide, rfl, rfl⟩
    · rw [hrow]
      exact List.forall_mem_singleton.mpr (by simp [Store.next_row, event_row, sample_event])
    · rw [hfirst.materialized_revision, hrow]
      rfl
  obtain ⟨second, hreturns', happended'⟩ := append_ok hsha hfirst haccepted'
  have hunfenced : active_backup_cut first = none := by
    rw [happended.frame]
    rfl
  refine ⟨first, second, _, _, _, _, returns_append_event_iff.mpr ⟨rfl, hreturns⟩,
    returns_append_event_iff.mpr ⟨hunfenced, hreturns'⟩, hfirst, append_sound hfirst hreturns', ?_, hrow,
    by rw [happended'.events, hrow]; rfl, rfl, ?_⟩
  · rw [happended'.frame]
  · change first.chain_head.sequence + 1 = 2
    rw [hhead]

/-- With its materialized states taken from an earlier store of the same chain, a store
still passes its check. -/
theorem verify_chain_earlier {first second : Store} (hfirst : first.Sound sha) (hsecond : second.Sound sha)
    (hevents : first.events.rows ⊆ second.events.rows) :
    verify_chain sha { second with materialized_state := first.materialized_state } = .ok second.chain_head := by
  refine verify_chain_eq_ok_iff.mpr ⟨⟨?_, fun row hrow => ?_⟩, rfl⟩
  · change EventChain sha _ second.log _
    rw [hsecond.log_eq]
    exact hsecond.chain
  · obtain ⟨event, hfolds⟩ := hfirst.folds row hrow
    have hbound := hfolds.bound
    exact ⟨event, hevents hbound.stored, hbound.sequence, hbound.entity_id, hbound.state_digest, hbound.event_digest,
      hbound.state⟩

/-- The fold fails when an event of a verified store is ahead of every row. -/
theorem not_folded_of_ahead {head : ChainHeadV1} (h : verify_chain sha store = .ok head) {event : EventRow}
    (hevent : event ∈ store.events.rows)
    (hahead : ∀ row ∈ store.materialized_state.rows, row.last_event_sequence < event.sequence) : ¬ store.Folded := by
  intro hfolded
  obtain ⟨hverified, _⟩ := verify_chain_eq_ok_iff.mp h
  obtain ⟨row, hrow, _, hcovers⟩ := (hverified.current_of_folded hfolded).covered event hevent
  exact absurd (hahead row hrow) (Nat.not_lt.mpr hcovers)

end Sample

/-- Two events are appended to one entity: the store passes its check and is the fold of
its events. -/
theorem appended_store_folded :
    ∃ store head, verify_chain ideal_sha store = .ok head ∧ store.events.rows.length = 2 ∧
      (store.Folded ↔ store.Current) ∧ store.Folded := by
  obtain ⟨_, store, _, _, _, _, _, _, _, hsound, _, _, hrows, _⟩ := sample_appended ideal_sha_collision_free
  exact ⟨store, _, hsound.verify_chain, by rw [hrows]; rfl, verified_store_folded_iff hsound.verify_chain,
    hsound.folded⟩

/-- Two events are appended to one entity. The check passes on the store with the row of
the entity as it was after the first one, and on the store without any row. -/
theorem rolled_back_store_verified :
    ∃ first second receipt receipt',
      Returns (append_event ideal_sha (sample_event "first") (.ok .null) 0) (sample_store ideal_sha) receipt first ∧
      Returns (append_event ideal_sha (sample_event "second") (.ok .null) 1) first receipt' second ∧
      verify_chain ideal_sha { second with materialized_state := first.materialized_state } =
        .ok second.chain_head ∧
      ¬ Store.Folded { second with materialized_state := first.materialized_state } ∧
      verify_chain ideal_sha { second with materialized_state := .empty } = .ok second.chain_head ∧
      ¬ Store.Folded { second with materialized_state := .empty } := by
  obtain ⟨first, second, receipt, receipt', row, row', happend, happend', hfirst, hsecond, hidentity, hrow, hrows,
    hone, htwo⟩ := sample_appended ideal_sha_collision_free
  have hevent : row' ∈ second.events.rows := by simp [hrows]
  have hback := verify_chain_earlier hfirst hsecond (by rw [hrow, hrows]; simp)
  have hempty := verify_chain_earlier (Store.fresh_sound ideal_sha (compiled_identity 1 "sample") fun _ => none) hsecond
    (by simp [Store.fresh])
  refine ⟨first, second, receipt, receipt', happend, happend', hback, ?_, hempty, ?_⟩
  · refine not_folded_of_ahead hback hevent fun present hpresent => ?_
    obtain ⟨event, hfolds⟩ := hfirst.folds present hpresent
    have hstored := hfolds.bound.stored
    rw [hrow, List.mem_singleton] at hstored
    rw [hfolds.sequence, hstored, hone, htwo]
    decide
  · exact not_folded_of_ahead hempty hevent (by simp)

end ag_store.lib

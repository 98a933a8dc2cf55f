import AgentGovernor.Lib.Path
import AgentGovernor.Store.Commitment
import AgentGovernor.Store.Extends

open ag_primitives Checked ag_campaign ag_campaign.governed Relational Transaction

namespace ag_store

/-- The store together with the snapshot each writer has read last. -/
structure WriterSystem (W : Type) where
  db : Db
  seen : W → Option OccurrenceSnapshotV1

/-- What a writer does: it reads the current snapshot, or it makes a call. -/
inductive WriterEvent (W : Type) where
  | read (writer : W) (snapshot : OccurrenceSnapshotV1)
  | call (writer : W) (call : StoreCall) (result : Except CampaignStoreErrorV1 (List CampaignCommitReceiptV1))

/-- One step of one writer. A commit is computed from the snapshot that writer has
read, at any earlier time; the successor and everything else about it is open. -/
inductive WriterStep {W : Type} [DecidableEq W] (sha : Sha256) :
    WriterSystem W → WriterEvent W → WriterSystem W → Prop where
  | read {system : WriterSystem W} {writer : W} {snapshot : OccurrenceSnapshotV1}
    (hread : Returns (CampaignStoreV1.current sha) system.db snapshot system.db) :
    WriterStep sha system (.read writer snapshot)
      { system with seen := Function.update system.seen writer (some snapshot) }
  | call {system : WriterSystem W} {writer : W} {call : StoreCall}
    (hseen : ∀ expected ∈ call.expected, system.seen writer = some expected) :
    WriterStep sha system (.call writer call (call.execute sha system.db).1)
      { system with db := (call.execute sha system.db).2 }

/-- A commit that was computed from a snapshot with the given digest succeeded. -/
def WriterEvent.commits_from {W : Type} (digest : Digest) : WriterEvent W → Bool
  | .call _ made (.ok _) => made.expected.any fun expected => expected.state_digest = digest
  | _ => false

/-- What holds of the journal and of the commits made so far. -/
structure Serialized {W : Type} (campaign : CampaignId) (events : List (WriterEvent W))
    (system : WriterSystem W) : Prop where
  linear : ∃ head, Linear system.db head ∧ head.campaign = campaign
  committed : ∀ digest, ∀ event ∈ events, event.commits_from digest = true →
    digest ∈ (system.db.journal campaign).map StoredTransitionRow.predecessor
  once : ∀ digest, events.countP (WriterEvent.commits_from digest) ≤ 1
  kept : ∀ writer call receipts, .call writer call (.ok receipts) ∈ events → ∀ receipt ∈ receipts,
    ∃ row ∈ system.db.journal campaign, row.Acknowledged receipt

section Run

variable {W : Type} {sha : Sha256} {campaign : CampaignId}
  {events : List (WriterEvent W)} {system next : WriterSystem W} {event : WriterEvent W}

/-- An event that leaves the tables alone and commits nothing keeps everything. -/
theorem Serialized.of_unchanged (h : Serialized campaign events system) (hdb : next.db = system.db)
    (hcommits : ∀ digest, event.commits_from digest = false)
    (hreceipts : ∀ writer call receipts, event ≠ .call writer call (.ok receipts)) :
    Serialized campaign (events ++ [event]) next := by
  refine ⟨hdb ▸ h.linear, ?_, ?_, ?_⟩
  · intro digest earlier hearlier hfrom
    rcases List.mem_append.mp hearlier with hmem | hmem
    · exact hdb ▸ h.committed digest earlier hmem hfrom
    · rw [List.mem_singleton.mp hmem, hcommits] at hfrom
      cases hfrom
  · intro digest
    rw [List.countP_append, List.countP_singleton, hcommits]
    exact h.once digest
  · intro writer call receipts hmem
    rcases List.mem_append.mp hmem with hmem | hmem
    · exact hdb ▸ h.kept writer call receipts hmem
    · exact absurd (List.mem_singleton.mp hmem).symm (hreceipts writer call receipts)

/-- A successful call adds its rows at the end. Its first row takes the digest it
was computed from, so no earlier commit can have taken that digest. -/
theorem Serialized.of_success {writer : W} {call : StoreCall} {receipts : List CampaignCommitReceiptV1}
    {db : Db} (h : Serialized campaign events system)
    (hcall : Returns (call.execute sha) system.db receipts db) :
    Serialized campaign (events ++ [.call writer call (.ok receipts)]) { system with db } := by
  obtain ⟨head, hlinear, rfl⟩ := h.linear
  obtain ⟨head', added, hextends⟩ := StoreCall.extends hlinear hcall
  have hjournal := hextends.journal
  have hold : ∀ row ∈ system.db.journal head.campaign, row ∈ db.journal head.campaign := by
    intro row hrow
    rw [hjournal]
    exact List.mem_append_left added hrow
  have hfirst : ∀ digest, WriterEvent.commits_from digest (.call writer call (.ok receipts)) = true →
      digest ∈ added.map StoredTransitionRow.predecessor := by
    intro digest hfrom
    cases hexpected : call.expected with
    | none => simp [WriterEvent.commits_from, hexpected] at hfrom
    | some expected =>
      obtain rfl : expected.state_digest = digest := by
        simpa [WriterEvent.commits_from, hexpected] using hfrom
      exact List.mem_of_head? (hextends.first expected hexpected)
  refine ⟨⟨head', hextends.linear, hextends.campaign⟩, ?_, ?_, ?_⟩
  · intro digest earlier hearlier hfrom
    change digest ∈ (db.journal head.campaign).map _
    rw [hjournal, List.map_append, List.mem_append]
    rcases List.mem_append.mp hearlier with hmem | hmem
    · exact .inl (h.committed digest earlier hmem hfrom)
    · exact .inr (hfirst digest (List.mem_singleton.mp hmem ▸ hfrom))
  · intro digest
    rw [List.countP_append, List.countP_singleton]
    by_cases hfrom : WriterEvent.commits_from digest (.call writer call (.ok receipts)) = true
    · have hnodup := journal_predecessors_nodup db head.campaign
      rw [hjournal, List.map_append, List.nodup_append] at hnodup
      have hnone : events.countP (WriterEvent.commits_from digest) = 0 := by
        rw [List.countP_eq_zero]
        intro earlier hearlier hearlierfrom
        exact hnodup.2.2 digest (h.committed digest earlier hearlier hearlierfrom) digest
          (hfirst digest hfrom) rfl
      simp [hnone, hfrom]
    · rw [if_neg hfrom]
      exact h.once digest
  · intro other call' receipts' hmem receipt hreceipt
    rcases List.mem_append.mp hmem with hmem | hmem
    · obtain ⟨row, hrow, hack⟩ := h.kept other call' receipts' hmem receipt hreceipt
      exact ⟨row, hold row hrow, hack⟩
    · obtain ⟨_, _, rfl⟩ : other = writer ∧ call' = call ∧ receipts' = receipts := by
        simpa using List.mem_singleton.mp hmem
      obtain ⟨row, hrow, hack⟩ := exists_acknowledged hextends.acknowledged hreceipt
      refine ⟨row, ?_, hack⟩
      change row ∈ db.journal head.campaign
      rw [hjournal]
      exact List.mem_append_right _ hrow

variable [DecidableEq W]

theorem Serialized.step (h : Serialized campaign events system) (hstep : WriterStep sha system event next) :
    Serialized campaign (events ++ [event]) next := by
  cases hstep with
  | read hread => exact h.of_unchanged rfl (fun _ => rfl) (by simp)
  | @call writer call hseen =>
    rcases hresult : call.execute sha system.db with ⟨result, db⟩
    cases result with
    | ok receipts => exact h.of_success hresult
    | error error =>
      refine h.of_unchanged ?_ (fun _ => rfl) (by simp)
      simpa [hresult] using call.atomic sha system.db error (by rw [hresult])

/-- A run of any number of writers on a new store: the journal is one chain that
ends at the head, no digest has two successors, of the commits computed from one
snapshot at most one succeeds, what was acknowledged stays in the journal, and a
call that fails changes no table. -/
theorem no_fork_no_lost_update {initial : OccurrenceSnapshotV1} {runtime_profile : Option (String × Jcs)}
    {recorded_at_unix_ms : UInt64} {db : Db}
    (hcreate : CampaignStoreV1.create_with_runtime_profile sha initial runtime_profile
      recorded_at_unix_ms = .ok db)
    (hrun : RunPath (WriterStep sha) ⟨db, fun _ => none⟩ events system) :
    (∃ head, Linear system.db head ∧
      ((system.db.journal head.campaign).map StoredTransitionRow.predecessor).Nodup ∧
      ∀ writer call receipts, .call writer call (.ok receipts) ∈ events → ∀ receipt ∈ receipts,
        ∃ row ∈ system.db.journal head.campaign, row.Acknowledged receipt) ∧
    (∀ snapshot : OccurrenceSnapshotV1,
      events.countP (WriterEvent.commits_from snapshot.state_digest) ≤ 1) ∧
    ∀ before after : WriterSystem W, ∀ writer call error,
      WriterStep sha before (.call writer call (.error error)) after → after.db = before.db := by
  have hcreated := (create_eq_ok_iff.mp hcreate).1
  have hserialized : Serialized initial.key.campaign events system := by
    refine hrun.invariant (Serialized initial.key.campaign) ?_ fun _ _ _ _ _ h hstep => h.step hstep
    exact ⟨⟨_, hcreated.linear, rfl⟩, by simp, by simp, by simp⟩
  obtain ⟨head, hlinear, hcampaign⟩ := hserialized.linear
  refine ⟨⟨head, hlinear, journal_predecessors_nodup _ _, hcampaign ▸ hserialized.kept⟩,
    fun snapshot => hserialized.once _, ?_⟩
  intro before after writer call error hstep
  generalize hevent : WriterEvent.call writer call (.error error) = event at hstep
  cases hstep with
  | read => cases hevent
  | @call _ made =>
    obtain ⟨_, rfl, hresult⟩ : _ = _ ∧ call = made ∧ _ = _ := by simpa using hevent
    exact call.atomic sha before.db error hresult.symm

/-- Two writers read the new snapshot; one of them commits a halt of it, then the
other tries to. -/
theorem no_fork_no_lost_update_two_writers :
    ∃ (initial halted : OccurrenceSnapshotV1) (db : Db) (events : List (WriterEvent Bool))
      (system : WriterSystem Bool) (receipt : CampaignCommitReceiptV1),
      GovernedLoopKernelV1.create_initial ideal_sha ⟨⟨[]⟩⟩ ⟨0⟩ ⟨⟨[]⟩⟩ ⟨[1]⟩ ⟨[], .nil⟩ ⟨0, 0, 0, 0, 0, 0⟩ =
        .ok initial ∧
      CampaignStoreV1.create_with_runtime_profile ideal_sha initial none 0 = .ok db ∧
      RunPath (WriterStep ideal_sha) ⟨db, fun _ => none⟩ events system ∧
      .call true (.commit initial halted .Halted 0) (.ok [receipt]) ∈ events ∧
      events.countP (WriterEvent.commits_from initial.state_digest) ≤ 1 := by
  obtain ⟨initial, state, hcreated, hintegrity, hcounter, hcreate, hfirst, hattested⟩ :=
    stored_sample ideal_sha_collision_free
  obtain ⟨halted, hhalt⟩ := halt_ok hintegrity (by rw [hcounter]; rfl) ⟨⟨[5]⟩⟩
  have hcurrent := (hfirst.replayable.verified hattested).current
  obtain ⟨db', hcommit, _⟩ :=
    hfirst.commit_halt ideal_sha_collision_free (by decide : (0 : UInt64) ≤ I64_MAX) (by decide : 1 + 1 < 2 ^ 63) hhalt
  obtain ⟨receipt, hexecute⟩ : ∃ receipt, (StoreCall.commit initial halted .Halted 0).execute ideal_sha
      (created_db ideal_sha initial none 0) = (.ok [receipt], db') :=
    ⟨_, returns_bind_pure_iff.mpr ⟨_, hcommit, rfl⟩⟩
  let start : WriterSystem Bool := ⟨created_db ideal_sha initial none 0, fun _ => none⟩
  let one : WriterSystem Bool := { start with seen := Function.update start.seen true (some initial) }
  let two : WriterSystem Bool := { one with seen := Function.update one.seen false (some initial) }
  let three : WriterSystem Bool := { two with db := db' }
  have hfirstread : WriterStep ideal_sha start (.read true initial) one := .read hcurrent
  have hsecondread : WriterStep ideal_sha one (.read false initial) two := .read hcurrent
  have hwins : WriterStep ideal_sha two (.call true (.commit initial halted .Halted 0) (.ok [receipt])) three := by
    have hstep : WriterStep ideal_sha two (.call true (.commit initial halted .Halted 0) _) _ :=
      .call (by rintro _ ⟨⟩; rfl)
    rwa [show two.db = created_db ideal_sha initial none 0 from rfl, hexecute] at hstep
  have hloses : WriterStep ideal_sha three (.call false (.commit initial halted .Halted 0) _) _ :=
    .call (by rintro _ ⟨⟩; rfl)
  have hrun := (((RunPath.nil.snoc hfirstread).snoc hsecondread).snoc hwins).snoc hloses
  refine ⟨initial, halted, _, _, _, receipt, hcreated, hcreate, hrun, ?_,
    (no_fork_no_lost_update hcreate hrun).2.1 initial⟩
  simp

end Run

end ag_store

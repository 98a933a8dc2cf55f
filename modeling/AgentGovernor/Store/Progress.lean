import AgentGovernor.Governed.Completeness
import AgentGovernor.Store.Digests
import AgentGovernor.Store.StayReplayable

open ag_primitives Checked ag_campaign ag_campaign.governed Relational Transaction
open GovernedLoopKernelV1 (create_initial create_initial_eq_ok validate_successor)

namespace ag_store

/-- The tables of a new store. -/
def created_db (sha : Sha256) (initial : OccurrenceSnapshotV1) (runtime_profile : Option (String × Jcs))
    (recorded_at_unix_ms : UInt64) : Db :=
  { Db.empty with
    runtime_profile := stored_profile sha runtime_profile
    campaigns := ⟨[genesis_head sha initial runtime_profile recorded_at_unix_ms], List.pairwise_singleton _ _⟩
    occurrences := ⟨[occurrence_row initial 1], List.pairwise_singleton _ _⟩
    transitions := ⟨[(initial.key.campaign, genesis_row sha initial runtime_profile recorded_at_unix_ms)],
      List.pairwise_singleton _ _⟩ }

section Commit

variable {sha : Sha256} {head : CampaignHeadRow} {last successor : OccurrenceSnapshotV1}
  {kind : CampaignTransitionKindV1} {evidence : CampaignTransitionEvidenceV1} {db : Db}
  {state : ReplayState} {recorded_at_unix_ms : UInt64} {decisions : Finset HumanDecisionIdV1}

variable (hsha : sha.CollisionFree) (hr : Replayable sha db head state last)

include hsha hr

/-- An event with a new successor digest is a new event. -/
theorem Replayable.event_fresh (hsuccessor : ∀ row ∈ db.journal head.campaign, row.successor ≠ successor.state_digest)
    {row : StoredTransitionRow} (hrow : row ∈ db.journal head.campaign) :
    row.event ≠ (head.transition sha last successor kind evidence recorded_at_unix_ms).event := by
  obtain ⟨_, hbound⟩ := bound_of_replay_rows hr.replayed row hrow
  intro hevent
  rw [hbound.event] at hevent
  have hinput := (digest_value_inj hsha).mp hevent
  exact hsuccessor row hrow (congrArg StoreEventDigestInputV1.successor_state_digest hinput)

/-- The journal takes a row whose two state digests are new to it. -/
theorem Replayable.journal_takes
    (hpredecessor : ∀ row ∈ db.journal head.campaign, row.predecessor ≠ last.state_digest)
    (hsuccessor : ∀ row ∈ db.journal head.campaign, row.successor ≠ successor.state_digest) : (db.transitions.rows ++
      [(head.campaign, head.transition sha last successor kind evidence recorded_at_unix_ms)]).Pairwise
        fun left right => ¬ conflict left right := by
  refine db.transitions.distinct_append fun present hpresent hconflict => ?_
  have hmem : present.2 ∈ db.journal head.campaign :=
    List.mem_map.mpr ⟨present, by simp [hpresent, hr.linear.campaign present hpresent], rfl⟩
  rcases hconflict with hevent | ⟨_, hdigest⟩ | ⟨_, hdigest⟩
  · exact hr.event_fresh hsha hsuccessor hmem hevent
  · exact hpredecessor _ hmem hdigest
  · exact hsuccessor _ hmem hdigest

omit hsha hr in
theorem saturating_add_one_le {value : UInt64} (h : value.toNat + 1 < 2 ^ 63) :
    saturating_add_u64 value 1 ≤ I64_MAX := by
  rw [saturating_add_u64, if_pos (by simp only [UInt64.toNat_one]; omega), UInt64.le_iff_toNat_le,
    UInt64.toNat_add, UInt64.toNat_one, Nat.mod_eq_of_lt (by omega)]
  exact Nat.le_of_lt_succ h

omit hsha in
/-- The row of the only occurrence holds the last snapshot and moves on. -/
theorem Replayable.sole_occurrence (hkey : last.key = successor.key)
    {row : OccurrenceRow} (hoccurrence : db.occurrences.rows = [row]) :
    row.materializes successor.key last.state_digest ∧
      next_occurrences last successor [row] = [occurrence_row successor (row.revision + 1)] := by
  have hrow : row ∈ db.occurrences.rows := by simp [hoccurrence]
  obtain ⟨other, hother, _, _, hsnapshot⟩ := hr.occurrences.exists_row hr.current
  obtain rfl : other = row := by simpa [hoccurrence] using hother
  have hcolumns := hr.occurrences.columns other hrow
  rw [hsnapshot] at hcolumns
  have hselected : other.materializes successor.key last.state_digest := by
    rw [hcolumns, ← hkey]
    exact ⟨rfl, rfl, rfl⟩
  refine ⟨hselected, ?_⟩
  rw [next_occurrences, if_pos hkey, List.map_singleton, if_pos hselected, hselected.1, hselected.2.1]
  rfl

/-- A replayable store that is still in its first occurrence, and whose genesis
follows no state digest. -/
structure FirstOccurrence (sha : Sha256) (db : Db) (head : CampaignHeadRow) (state : ReplayState)
    (last : OccurrenceSnapshotV1) : Prop where
  replayable : Replayable sha db head state last
  sole : ∃ row, db.occurrences.rows = [row] ∧ row.revision = head.event_count
  genesis : ∃ first ∈ (db.journal head.campaign).head?,
    ∀ prior content, governed.state_digest sha prior content ≠ first.predecessor

section Created

variable {campaign : CampaignId} {occurrence : OccurrenceId} {program : ProgramBasisRefV1}
  {expected_work : Digest} {residuals : ResidualSetV1} {budget : LoopBudgetV1} {initial : OccurrenceSnapshotV1}
  {runtime_profile : Option (String × Jcs)}
  (h : create_initial sha campaign occurrence program expected_work residuals budget = .ok initial)
  (htoken : ∀ profile ∈ runtime_profile, is_token profile.1) (hrecorded : recorded_at_unix_ms ≤ I64_MAX)

include h htoken hrecorded

omit hsha hr in
/-- A store can be created for every new campaign. -/
theorem created_replayable :
    CampaignStoreV1.create_with_runtime_profile sha initial runtime_profile recorded_at_unix_ms =
      .ok (created_db sha initial runtime_profile recorded_at_unix_ms) ∧
    ∃ state, Replayable sha (created_db sha initial runtime_profile recorded_at_unix_ms)
        (genesis_head sha initial runtime_profile recorded_at_unix_ms) state initial ∧
      Attested (created_db sha initial runtime_profile recorded_at_unix_ms) state := by
  obtain ⟨hintegrity, hstate⟩ := create_initial_eq_ok h
  have hcounter : initial.program_counter = .ObservationRequired :=
    congrArg OccurrenceStateV1.program_counter hstate
  have hprior : initial.prior_occurrence = none := by rw [OccurrenceSnapshotV1.prior_occurrence, hstate]
  have hcreated : Created sha initial runtime_profile recorded_at_unix_ms
      (created_db sha initial runtime_profile recorded_at_unix_ms) :=
    ⟨hintegrity, hcounter, hprior, htoken, hrecorded, rfl, rfl, rfl, rfl, rfl, rfl, rfl, rfl, rfl, rfl⟩
  obtain ⟨state, hr, hattested⟩ := hcreated.replayable
  have hreplay := replay_store_eq_ok_iff.mpr ⟨_, state, initial, hr.verified hattested, rfl⟩
  have hprofile : CampaignStoreV1.runtime_profile sha
      (created_db sha initial runtime_profile recorded_at_unix_ms) =
        .ok (stored_profile sha runtime_profile) := by
    unfold CampaignStoreV1.runtime_profile
    rw [hcreated.profile]
    cases runtime_profile with
    | none => rfl
    | some profile =>
      refine bind_eq_ok_iff.mpr ⟨(), reject_eq_ok_iff.mpr ?_, rfl⟩
      rintro (hnot | hnot)
      · exact hnot (htoken profile rfl)
      · exact hnot rfl
  exact ⟨create_eq_ok_iff.mpr ⟨hcreated, _, bind_eq_ok_iff.mpr ⟨_, hprofile, hreplay⟩⟩, state, hr, hattested⟩

omit hr in
/-- A new store is in its first occurrence. -/
theorem created_first :
    CampaignStoreV1.create_with_runtime_profile sha initial runtime_profile recorded_at_unix_ms =
      .ok (created_db sha initial runtime_profile recorded_at_unix_ms) ∧
    ∃ state, FirstOccurrence sha (created_db sha initial runtime_profile recorded_at_unix_ms)
        (genesis_head sha initial runtime_profile recorded_at_unix_ms) state initial ∧
      Attested (created_db sha initial runtime_profile recorded_at_unix_ms) state := by
  obtain ⟨hcreate, state, hr, hattested⟩ := created_replayable h htoken hrecorded
  refine ⟨hcreate, state, ⟨hr, ⟨_, rfl, rfl⟩, genesis_row sha initial runtime_profile recorded_at_unix_ms, ?_, ?_⟩,
    hattested⟩
  · change _ ∈ ((created_db sha initial runtime_profile recorded_at_unix_ms).journal initial.key.campaign).head?
    rw [(create_eq_ok_iff.mp hcreate).1.journal]
    rfl
  · -- no state digest is the digest a campaign starts from
    simp only [create_initial, ok_rules] at h
    obtain ⟨_, _, rfl⟩ := h
    intro prior content heq
    exact absurd ((Digest.hash_domain_inj hsha).mp heq).1 (by decide)

end Created

omit hsha hr in
/-- The snapshot of a new campaign for the work `[1]` is written exactly. -/
theorem sample_exact {initial : OccurrenceSnapshotV1}
    (h : create_initial sha ⟨⟨[]⟩⟩ ⟨0⟩ ⟨⟨[]⟩⟩ ⟨[1]⟩ ⟨[], .nil⟩ ⟨0, 0, 0, 0, 0, 0⟩ = .ok initial) :
    initial.Exact := by
  rw [OccurrenceSnapshotV1.Exact, (create_initial_eq_ok h).2]
  simp [to_jcs]

omit hr in
/-- The store of a new campaign for the work `[1]`. -/
theorem stored_sample : ∃ initial state,
    create_initial sha ⟨⟨[]⟩⟩ ⟨0⟩ ⟨⟨[]⟩⟩ ⟨[1]⟩ ⟨[], .nil⟩ ⟨0, 0, 0, 0, 0, 0⟩ = .ok initial ∧
      initial.validate_integrity sha = .ok () ∧ initial.program_counter = .ObservationRequired ∧
      CampaignStoreV1.create_with_runtime_profile sha initial none 0 = .ok (created_db sha initial none 0) ∧
      FirstOccurrence sha (created_db sha initial none 0) (genesis_head sha initial none 0) state initial ∧
      Attested (created_db sha initial none 0) state := by
  obtain ⟨initial, hcreated, hintegrity, hcounter⟩ := created_sample sha
  obtain ⟨hcreate, state, hfirst, hattested⟩ :
      CampaignStoreV1.create_with_runtime_profile sha initial none 0 = .ok _ ∧ _ :=
    created_first hsha hcreated (by simp) (by decide)
  exact ⟨initial, state, hcreated, hintegrity, hcounter, hcreate, hfirst, hattested⟩

omit hsha hr in
/-- A snapshot without spend, custody and settlement adds no fact. -/
theorem no_new_facts (hspend : successor.ag_spend = none) (hcustody : successor.docket_custody = none)
    (hsettlement : successor.settlement = none) :
    new_spend last successor = none ∧ new_attempt last successor = none ∧ new_settlement last successor = none := by
  refine ⟨?_, ?_, ?_⟩
  · rw [new_spend, hspend]
    cases last.ag_spend <;> rfl
  · rw [new_attempt, hcustody]
    cases last.docket_custody <;> rfl
  · rw [new_settlement, hsettlement]
    cases last.settlement <;> rfl

omit hsha hr in
/-- A halt is of the occurrence it halts and adds no fact. -/
theorem halted_keeps_occurrence {next : HaltedV1} (hstate : successor.state = .Halted next)
    (hlegal : LegalSuccessor last successor) :
    last.key = successor.key ∧ new_spend last successor = none ∧ new_attempt last successor = none ∧
      new_settlement last successor = none := by
  have hkey : last.key = successor.key := by
    rw [OccurrenceSnapshotV1.key, OccurrenceSnapshotV1.key]
    cases hlegal with
    | halted _ ht hhalted =>
      rw [ht]
      exact hhalted.key.symm
    | decided hs ht hupdated =>
      rw [hs, ht]
      exact hupdated.key
    | probed _ _ hprobe => exact hprobe.1
    | _ => simp_all
  exact ⟨hkey, no_new_facts (by rw [OccurrenceSnapshotV1.ag_spend, hstate])
    (by rw [OccurrenceSnapshotV1.docket_custody, hstate]) (by rw [OccurrenceSnapshotV1.settlement, hstate])⟩

/-- The store commits the successor and stays in its first occurrence. -/
def CommitsWithin (sha : Sha256) (db : Db) (head : CampaignHeadRow) (state : ReplayState)
    (last successor : OccurrenceSnapshotV1) (kind : CampaignTransitionKindV1) (recorded_at_unix_ms : UInt64)
    (decisions : Finset HumanDecisionIdV1) : Prop :=
  let row := head.transition sha last successor kind .None recorded_at_unix_ms
  ∃ db', Returns (CampaignStoreV1.commit sha last successor kind recorded_at_unix_ms) db
      (receipt_of sha head last successor kind .None recorded_at_unix_ms) db' ∧
    FirstOccurrence sha db' (head.advance successor row.event) (state.after row decisions state.human_artifacts)
      successor

variable (h : FirstOccurrence sha db head state last)

include h

omit hr in
/-- What is committed next is new to the journal. -/
theorem FirstOccurrence.fresh (hvalidated : validate_successor sha last successor = .ok ())
    {row : StoredTransitionRow} (hrow : row ∈ db.journal head.campaign) :
    row.predecessor ≠ last.state_digest ∧ row.successor ≠ successor.state_digest := by
  have hr := h.replayable
  obtain ⟨first, hfirst, hgenesis⟩ := h.genesis
  obtain ⟨final, hfinal, hstands⟩ := hr.linear.last
  obtain ⟨_, hintegrity, hprior, _⟩ := validate_successor_eq_ok_iff.mp hvalidated
  obtain ⟨_, hdigest, _⟩ := validate_integrity_eq_ok_iff.mp hintegrity
  have hstart : ∀ other ∈ (db.journal head.campaign).head?, other.predecessor = first.predecessor := by
    intro other hother
    rw [Option.mem_unique hother hfirst]
  have hlinked := states_linked hr.replayed hstart
  rw [hfinal, Option.map_some, Option.getD_some] at hlinked
  have hfresh := hlinked.fresh (fun _ _ _ _ => (state_digest_inj hsha).mp) hgenesis hrow successor.state
  rw [hstands.state_digest, ← hr.state_digest] at hfresh
  rwa [← hprior, hdigest, hprior] at hfresh

variable (hrecorded : recorded_at_unix_ms ≤ I64_MAX) (hrange : head.event_count.toNat + 1 < 2 ^ 63)

include hrecorded hrange

section Within

variable (hvalidated : validate_successor sha last successor = .ok ()) (hdescribed : kind.valid last successor = true)
  (hkey : last.key = successor.key)

include hvalidated hdescribed hkey

omit hsha h in
theorem Replayable.accepted : Accepted sha head last successor kind recorded_at_unix_ms where
  validated := hvalidated
  campaign := congrArg OccurrenceKeyV1.campaign hkey
  head_campaign := hr.campaign.symm
  head_occurrence := hr.occurrence.symm
  head_digest := hr.state_digest.symm
  described := hdescribed
  recorded_at := hrecorded
  head_revision := by
    rw [hr.linear.revision, UInt64.le_iff_toNat_le]
    exact le_trans (Nat.le_succ _) (Nat.le_of_lt_succ hrange)
  revision := hr.linear.revision ▸ saturating_add_one_le hrange
  event_count := saturating_add_one_le hrange

omit hr

/-- Within the first occurrence of a campaign, the store takes every legal successor
of its head that adds no fact. -/
theorem FirstOccurrence.exists_written (hfacts : new_spend last successor = none ∧
      new_attempt last successor = none ∧ new_settlement last successor = none) :
    ∃ db', Written sha head last successor kind evidence recorded_at_unix_ms db db' ∧
      db'.occurrences.rows = [occurrence_row successor (saturating_add_u64 head.event_count 1)] := by
  have hr := h.replayable
  obtain ⟨row, hoccurrence, hrevision⟩ := h.sole
  obtain ⟨hselected, hnext⟩ := hr.sole_occurrence hkey hoccurrence
  have hmoved : row.revision + 1 = saturating_add_u64 head.event_count 1 := by
    rw [hrevision, saturating_add_u64, if_pos (by simp only [UInt64.toNat_one]; omega)]
  rw [hmoved] at hnext
  let db' : Db :=
    { db with
      campaigns := ⟨[head.advance successor
        (head.transition sha last successor kind evidence recorded_at_unix_ms).event],
          List.pairwise_singleton _ _⟩
      occurrences := ⟨[occurrence_row successor (saturating_add_u64 head.event_count 1)],
        List.pairwise_singleton _ _⟩
      transitions := ⟨db.transitions.rows ++ [(head.campaign,
        head.transition sha last successor kind evidence recorded_at_unix_ms)],
          hr.journal_takes hsha (fun row hrow => (h.fresh hsha hvalidated hrow).1)
            fun row hrow => (h.fresh hsha hvalidated hrow).2⟩ }
  obtain ⟨hspend, hattempt, hsettlement⟩ := hfacts
  refine ⟨db', ⟨hr.accepted hrecorded hrange hvalidated hdescribed hkey, ?_, by simp [hspend],
    by simp [hattempt], by simp [hsettlement], rfl, ?_, ?_, by simp [db', hspend], by simp [db', hattempt],
    by simp [db', hsettlement], rfl, rfl, rfl, rfl⟩, rfl⟩
  · rw [Materializable, if_pos hkey, hoccurrence]
    refine ⟨?_, by simp [hselected]⟩
    rintro ⟨other, hother, _, hlarge⟩
    rw [List.mem_singleton.mp hother, hrevision, UInt64.le_iff_toNat_le] at hlarge
    exact absurd (lt_of_le_of_lt (Nat.succ_le_succ hlarge) hrange) (by decide)
  · rw [hoccurrence, hnext]
  · rw [hr.campaign]

/-- Within its first occurrence a store commits every legal successor of its head that
adds no fact. -/
theorem FirstOccurrence.commit_within (hfacts : new_spend last successor = none ∧
      new_attempt last successor = none ∧ new_settlement last successor = none)
    (hkind : kind ≠ .HumanDisposition ∧ kind ≠ .CampaignCreated)
    (hdecisions : replay_decisions state.human_decisions (new_decisions last successor) = .ok decisions) :
    CommitsWithin sha db head state last successor kind recorded_at_unix_ms decisions := by
  obtain ⟨db', hwritten, hoccurrence⟩ :=
    h.exists_written hsha hrecorded hrange hvalidated hdescribed hkey hfacts
  have hreplayable := h.replayable.written hwritten (validate_replayed_evidence_none hkind.1) hdecisions rfl
  obtain ⟨first, hfirst, hgenesis⟩ := h.genesis
  refine ⟨db', (CampaignStoreV1.returns_commit_iff h.replayable.linear.sole).mpr ⟨hkind, hwritten, rfl⟩,
    hreplayable, ⟨_, hoccurrence, rfl⟩, first, ?_, hgenesis⟩
  change first ∈ (db'.journal head.campaign).head?
  rw [hwritten.journal, List.head?_append_of_ne_nil _ (List.ne_nil_of_mem (List.mem_of_mem_head? hfirst))]
  exact hfirst

end Within

omit hr

/-- Within its first occurrence a store takes every halt the membrane takes. -/
theorem FirstOccurrence.commit_halted {next : HaltedV1} (hstate : successor.state = .Halted next)
    (hvalidated : validate_successor sha last successor = .ok ())
    (hdecisions : replay_decisions state.human_decisions (new_decisions last successor) = .ok decisions) :
    CommitsWithin sha db head state last successor .Halted recorded_at_unix_ms decisions := by
  obtain ⟨hkey, hfacts⟩ := halted_keeps_occurrence hstate (validate_successor_eq_ok_iff.mp hvalidated).2.2.2
  have hdescribed : CampaignTransitionKindV1.valid .Halted last successor = true := by
    simp [CampaignTransitionKindV1.valid, OccurrenceSnapshotV1.program_counter, hstate,
      OccurrenceStateV1.program_counter]
  exact h.commit_within hsha hrecorded hrange hvalidated hdescribed hkey hfacts ⟨by rintro ⟨⟩, by rintro ⟨⟩⟩
    hdecisions

/-- Within its first occurrence a store takes every halt of the kernel. -/
theorem FirstOccurrence.commit_halt {reason : HaltReasonRefV1} {halted : OccurrenceSnapshotV1}
    (hhalt : GovernedLoopKernelV1.halt sha last reason = .ok halted) :
    CommitsWithin sha db head state last halted .Halted recorded_at_unix_ms state.human_decisions := by
  obtain ⟨hintegrity, hsafe, hfollows⟩ := GovernedLoopKernelV1.halt_eq_ok_iff.mp hhalt
  have happly : (KernelOp.halt reason).apply sha last = .ok [halted] := applied hhalt
  have hstep := List.isChain_pair.mp (apply_steps happly)
  have hkept : replay_decisions state.human_decisions (new_decisions last halted) =
      .ok state.human_decisions := by
    rw [new_decisions_of_legal (hstep.legal hsha hintegrity) fun hhalted => by rw [hhalted] at hsafe; cases hsafe]
    rfl
  exact h.commit_halted hsha hrecorded hrange hfollows.state_eq (hstep.validated hsha hintegrity) hkept

end Commit

end ag_store

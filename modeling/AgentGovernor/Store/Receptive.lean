import AgentGovernor.Store.Authoritative
import AgentGovernor.Store.Progress

open ag_primitives Checked ag_campaign ag_campaign.governed Relational Transaction
open GovernedLoopKernelV1 (create_initial validate_successor)

namespace ag_store

/-- A store in its first occurrence, with room for `spare` more transitions and no
disposition recorded, that is current at the given snapshot. -/
structure Receptive (sha : Sha256) (db : Db) (current : OccurrenceSnapshotV1) (spare : Nat) : Prop where
  first : ∃ head state, FirstOccurrence sha db head state current ∧ head.event_count.toNat + spare < 2 ^ 63
  authoritative : ∃ head, Authoritative sha db head current
  undisposed : db.human_dispositions.rows = []

section Receptive

variable {sha : Sha256} {current successor : OccurrenceSnapshotV1} {spare : Nat}
  {kind : CampaignTransitionKindV1} {recorded_at_unix_ms : UInt64} {db : Db}

theorem Receptive.current_eq (h : Receptive sha db current spare) :
    CampaignStoreV1.current sha db = (.ok current, db) := by
  obtain ⟨_, hauthoritative⟩ := h.authoritative
  exact hauthoritative.current_eq

theorem Receptive.integrity (h : Receptive sha db current spare) : current.validate_integrity sha = .ok () := by
  obtain ⟨_, hauthoritative⟩ := h.authoritative
  exact hauthoritative.integrity

/-- A state that retains no authority adds no fact. -/
theorem no_new_facts_of_empty (hempty : successor.state.authority_history = .default) :
    new_spend current successor = none ∧ new_attempt current successor = none ∧
      new_settlement current successor = none := by
  refine no_new_facts ?_ ?_ ?_
  · unfold OccurrenceSnapshotV1.ag_spend
    cases hstate : successor.state with
    | AuthorizationConsumed | Dispatched | ReconciliationRequired | SettledObservationRequired =>
      rw [hstate] at hempty
      cases hempty
    | _ => rfl
  · unfold OccurrenceSnapshotV1.docket_custody
    cases hstate : successor.state with
    | Dispatched | ReconciliationRequired | SettledObservationRequired =>
      rw [hstate] at hempty
      cases hempty
    | _ => rfl
  · unfold OccurrenceSnapshotV1.settlement
    cases hstate : successor.state with
    | SettledObservationRequired =>
      rw [hstate] at hempty
      cases hempty
    | _ => rfl

/-- A receptive store commits what the kernel makes of its snapshot, when that stays
within the occurrence and retains no authority. -/
theorem Receptive.commit (hsha : sha.CollisionFree) (h : Receptive sha db current (spare + 1)) {op : KernelOp}
    (happly : op.apply sha current = .ok [successor]) {source target : OccurrenceStateV1}
    (hsource : current.state = source) (htarget : successor.state = target)
    (hopen : source.program_counter ≠ .Halted) (hkey : source.metadata.key = target.metadata.key)
    (hempty : target.authority_history = .default) (hdescribed : kind.valid current successor = true)
    (hrecorded : recorded_at_unix_ms ≤ I64_MAX) :
    ∃ receipt db', Returns (CampaignStoreV1.commit sha current successor kind recorded_at_unix_ms) db receipt db' ∧
      Receptive sha db' successor spare := by
  subst hsource htarget
  obtain ⟨head, state, hfirst, hspare⟩ := h.first
  obtain ⟨_, hauthoritative⟩ := h.authoritative
  have hstep := List.isChain_pair.mp (apply_steps happly)
  have hlegal := hstep.legal hsha h.integrity
  have hdecisions : replay_decisions state.human_decisions (new_decisions current successor) =
      .ok state.human_decisions := by
    rw [new_decisions_of_legal hlegal fun hhalted => absurd hhalted hopen]
    rfl
  have hkind : kind ≠ .HumanDisposition ∧ kind ≠ .CampaignCreated := by
    constructor
    · rintro rfl
      simp [CampaignTransitionKindV1.valid, OccurrenceSnapshotV1.program_counter, hopen] at hdescribed
    · rintro rfl
      cases hdescribed
  obtain ⟨db', hcommit, hfirst'⟩ := hfirst.commit_within hsha hrecorded (by omega)
    (hstep.validated hsha h.integrity) hdescribed hkey (no_new_facts_of_empty hempty) hkind hdecisions
  obtain ⟨_, hwritten, _⟩ := (CampaignStoreV1.returns_commit_iff hfirst.replayable.linear.sole).mp hcommit
  have hcall : Returns ((StoreCall.commit current successor kind recorded_at_unix_ms).execute sha) db [_] db' :=
    returns_bind_pure_iff.mpr ⟨_, hcommit, rfl⟩
  obtain ⟨hauthoritative', _⟩ := StoreCall.authoritative hauthoritative (by rintro _ ⟨⟩; rfl) hcall
  refine ⟨_, db', hcommit, ⟨_, _, hfirst', ?_⟩, hauthoritative', ?_⟩
  · change (saturating_add_u64 head.event_count 1).toNat + spare < 2 ^ 63
    rw [toNat_saturating_add_one hwritten.accepted.event_count]
    omega
  · rw [hwritten.human_dispositions]
    exact h.undisposed

end Receptive

section Termination

variable {sha : Sha256} {current next : OccurrenceSnapshotV1} {halted : HaltedV1} {spare : Nat}
  {artifact : HumanDispositionV1} {verification : HumanVerificationRefV1} {recorded_at_unix_ms : UInt64} {db : Db}

/-- The first disposition of a store can be recorded. -/
theorem Receptive.exists_disposed (h : Receptive sha db current spare)
    (hcampaign : artifact.campaign = current.key.campaign)
    (hoccurrence : artifact.occurrence = current.key.occurrence) (hdischarge : new_discharge artifact = none)
    (hrecorded : recorded_at_unix_ms ≤ I64_MAX) :
    ∃ disposed, Disposed artifact verification recorded_at_unix_ms db disposed := by
  obtain ⟨head, hauthoritative⟩ := h.authoritative
  obtain ⟨row, hrow, hrowcampaign, hrowoccurrence, _⟩ := hauthoritative.exists_row
  refine ⟨{ db with human_dispositions := ⟨[human_row artifact verification recorded_at_unix_ms],
    List.pairwise_singleton _ _⟩ }, hrecorded, ?_, ?_, ?_, rfl, rfl, rfl, rfl, rfl, rfl, rfl, rfl⟩
  · exact ⟨row, hrow, hrowcampaign.trans (hauthoritative.campaign.symm.trans hcampaign.symm),
      hrowoccurrence.trans hoccurrence.symm⟩
  · rw [h.undisposed]
    rfl
  · rw [hdischarge]
    simp

/-- A receptive store commits a halted occurrence that is terminated. -/
theorem Receptive.commit_terminated (hsha : sha.CollisionFree) (h : Receptive sha db current (spare + 1))
    {op : KernelOp} (hstep : KernelStep sha op current next) (hstate : current.state = .Halted halted)
    {completed : CompletedV1} (hnext : next.state = .Completed completed)
    (hused : completed.metadata.used_human_decisions = halted.metadata.used_human_decisions ++ [artifact.decision])
    (hcampaign : artifact.campaign = current.key.campaign)
    (hoccurrence : artifact.occurrence = current.key.occurrence)
    (hdigest : artifact.halted_state_digest = current.state_digest)
    {observation : ObservationRefV1} {subject : Digest} {terminal_witness : TerminalWitnessRefV1}
    (hdisposition : artifact.disposition = .Terminate observation subject terminal_witness)
    (hempty : halted.metadata.residuals.is_empty = true) (hkey : current.key = next.key)
    (hrecorded : recorded_at_unix_ms ≤ I64_MAX) :
    ∃ receipts db', Returns (CampaignStoreV1.commit_human_disposition sha current (.Updated next verification)
      artifact recorded_at_unix_ms) db receipts db' := by
  obtain ⟨head, state, hfirst, hspare⟩ := h.first
  have hvalidated := hstep.validated hsha h.integrity
  obtain ⟨disposed, hdisposed⟩ : ∃ disposed, Disposed artifact verification recorded_at_unix_ms db disposed :=
    h.exists_disposed hcampaign hoccurrence (by rw [new_discharge, hdisposition]) hrecorded
  have hfirst' : FirstOccurrence sha disposed head state current := by
    refine ⟨hfirst.replayable.disposed hdisposed, hdisposed.occurrences ▸ hfirst.sole, ?_⟩
    rw [hdisposed.journal]
    exact hfirst.genesis
  have hdescribed : CampaignTransitionKindV1.valid .HumanDisposition current next = true := by
    simp [CampaignTransitionKindV1.valid, OccurrenceSnapshotV1.program_counter, hstate, hnext,
      OccurrenceStateV1.program_counter]
  have hfacts : new_spend current next = none ∧ new_attempt current next = none ∧
      new_settlement current next = none :=
    no_new_facts (by rw [OccurrenceSnapshotV1.ag_spend, hnext]) (by rw [OccurrenceSnapshotV1.docket_custody, hnext])
      (by rw [OccurrenceSnapshotV1.settlement, hnext])
  obtain ⟨db', hwritten, _⟩ : ∃ db', Written sha head current next .HumanDisposition
      (.HumanDisposition artifact verification) recorded_at_unix_ms disposed db' ∧ _ :=
    hfirst'.exists_written hsha hrecorded (by omega) hvalidated hdescribed hkey hfacts
  have hbinding : validate_human_store_binding sha current next none artifact = .ok () := by
    simp only [validate_human_store_binding, validate_human_transition_evidence, hdisposition, ok_rules, not_and,
      if_pos hdigest]
    refine ⟨hvalidated, ⟨hcampaign, hoccurrence, hdigest⟩, ?_, ?_, ?_⟩
    all_goals simp [OccurrenceSnapshotV1.program_counter, hstate, hnext, OccurrenceStateV1.program_counter,
      OccurrenceStateV1.metadata, hused, hempty, hdigest]
  refine ⟨[receipt_of sha head current next .HumanDisposition (.HumanDisposition artifact verification)
    recorded_at_unix_ms], db', ?_⟩
  refine returns_lift_bind_iff.mpr ⟨(), hbinding, returns_transaction_iff.mpr ?_⟩
  refine returns_bind_iff.mpr ⟨(), disposed, returns_insert_human_disposition_iff.mpr hdisposed, ?_⟩
  have hhead : disposed.campaigns.rows = [head] := hfirst'.replayable.linear.sole
  exact returns_bind_pure_iff.mpr ⟨_, (returns_write_transition_iff hhead).mpr ⟨hwritten, rfl⟩, rfl⟩

end Termination

end ag_store

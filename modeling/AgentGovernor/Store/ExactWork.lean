import AgentGovernor.Governed.Soundness
import AgentGovernor.Store.Progress

open ag_primitives Checked Windows ag_campaign ag_campaign.governed Relational Transaction

namespace ag_store

/-- The work a journal row binds its occurrence to. -/
def StoredTransitionRow.expected_work (row : StoredTransitionRow) : Digest :=
  row.snapshot.state.metadata.expected_work

/-- Two rows of a journal are of one occurrence. -/
def StoredTransitionRow.Stays (earlier later : StoredTransitionRow) : Prop :=
  earlier.snapshot.key = later.snapshot.key

/-- The exact-work binding over a journal: all snapshots of an occurrence have the same
expected work, every recorded proposal and every issuance names it, and an occurrence
that is opened from a halt inherits it. -/
structure ExactWorkBound (rows : List StoredTransitionRow) : Prop where
  constant : rows.Pairwise fun earlier later => earlier.Stays later → later.expected_work = earlier.expected_work
  proposal : ∀ row ∈ rows, ∀ basis ∈ row.snapshot.state.proposal_basis,
    basis.proposal.work = row.expected_work
  issuance : ∀ row ∈ rows, ∀ issuance ∈ row.snapshot.issuance, issuance.work = row.expected_work
  inherited : ∀ earlier later, [earlier, later] <:+: rows →
    earlier.snapshot.program_counter = .Halted → later.snapshot.program_counter = .ObservationRequired →
    later.expected_work = earlier.expected_work

/-- The pairs of snapshots that the membrane compares field by field without the
expected work: a proposal is recorded, the occurrence is halted or leaves a halt,
or the program counter stays. -/
def ComparedWithoutWork (source target : OccurrenceSnapshotV1) : Prop :=
  target.program_counter = .ProposalRecorded ∨ target.program_counter = .Halted ∨
    source.program_counter = .Halted ∨ source.program_counter = target.program_counter

/-- A pair whose work is not compared keeps it all the same. -/
def KeepsWork (earlier later : StoredTransitionRow) : Prop :=
  ComparedWithoutWork earlier.snapshot later.snapshot →
    later.expected_work = earlier.expected_work ∧
    (later.snapshot.program_counter = .ProposalRecorded →
      ∀ basis ∈ later.snapshot.state.proposal_basis, basis.proposal.work = later.expected_work)

/-- An occurrence that the journal opens again is opened with the work it had before. -/
def ReopensOwnWork (rows : List StoredTransitionRow) : Prop :=
  ∀ front earlier later, front ++ [earlier, later] <+: rows → ¬ earlier.Stays later →
    ∀ row ∈ front, row.Stays later → later.expected_work = row.expected_work

section Pairs

variable {source target : OccurrenceSnapshotV1}

/-- The pairs whose work is compared keep it, unless they open an occurrence after a
settlement. -/
theorem expected_work_of_compared (h : LegalSuccessor source target) (hkey : source.key = target.key)
    (hcompared : ¬ ComparedWithoutWork source target) :
    target.state.metadata.expected_work = source.state.metadata.expected_work := by
  unfold ComparedWithoutWork at hcompared
  simp only [not_or, OccurrenceSnapshotV1.program_counter] at hcompared
  obtain ⟨hproposal, htarget, hsource, hsame⟩ := hcompared
  cases h with
  | proposed _ ht => exact absurd (congrArg OccurrenceStateV1.program_counter ht) hproposal
  | admitted hs ht hsame | consumed hs ht hsame =>
    rw [hs, ht]
    exact congrArg OccurrenceMetaV1.expected_work hsame.1.symm
  | continued hs ht hcontinued =>
    refine absurd ?_ hcontinued.distinct
    rw [hkey, OccurrenceSnapshotV1.key, ht]
    rfl
  | halted _ ht | decided _ ht => exact absurd (congrArg OccurrenceStateV1.program_counter ht) htarget
  | resumed hs | terminated hs => exact absurd (congrArg OccurrenceStateV1.program_counter hs) hsource
  | completed hs ht hmetadata =>
    rw [hs, ht]
    exact congrArg OccurrenceMetaV1.expected_work hmetadata
  | probed _ hcounter => exact absurd hcounter hsame
  | standing hs ht | dispatched hs ht | settled hs ht | indeterminate hs ht | reconciled hs ht =>
    rw [hs, ht]
    rfl

variable {basis : ProposalBasisV1} {sha : Sha256}

/-- A recorded proposal is either new or the one that was recorded before. -/
theorem proposal_of_legal (h : LegalSuccessor source target) (hbasis : target.state.proposal_basis = some basis) :
    target.program_counter = .ProposalRecorded ∨
      ∃ earlier, source.state.proposal_basis = some earlier ∧ earlier.proposal = basis.proposal := by
  cases h with
  | proposed _ ht => exact .inl (congrArg OccurrenceStateV1.program_counter ht)
  | admitted hs ht hsame | consumed hs ht hsame =>
    rw [ht] at hbasis
    cases hbasis
    exact .inr ⟨_, by rw [hs]; rfl, hsame.2.1⟩
  | probed _ _ hprobe =>
    have hsame : target.state.set_metadata source.state.metadata = source.state :=
      hprobe.2.2.2.2.2.2.2.2.2.2
    refine .inr ?_
    rw [← hsame]
    cases htarget : target.state <;> rw [htarget] at hbasis <;> cases hbasis <;> exact ⟨_, rfl, rfl⟩
  | standing hs ht | dispatched hs ht | settled hs ht | indeterminate hs ht | reconciled hs ht =>
    rw [ht] at hbasis
    cases hbasis
    exact .inr ⟨_, by rw [hs]; rfl, rfl⟩
  | continued _ ht | halted _ ht | decided _ ht | resumed _ ht | terminated _ ht | completed _ ht =>
    rw [ht] at hbasis
    cases hbasis

theorem no_proposal_of_observation_required (hcounter : target.program_counter = .ObservationRequired) :
    target.state.proposal_basis ≠ some basis := by
  rw [OccurrenceSnapshotV1.program_counter] at hcounter
  cases hstate : target.state with
  | ObservationRequired value => exact Option.some_ne_none basis |>.symm
  | _ => simp [hstate, OccurrenceStateV1.program_counter] at hcounter

/-- A snapshot with a recorded proposal does not open an occurrence. -/
theorem key_of_proposal (h : LegalSuccessor source target) (hbasis : target.state.proposal_basis = some basis) :
    source.key = target.key := by
  by_contra hkey
  exact no_proposal_of_observation_required (opened_of_legal h hkey).1 hbasis

/-- An authorization is issued for the work of its proposal. -/
theorem issuance_work_of_authorized {value : AuthorizationConsumedV1}
    (h : validate_authorized sha value = .ok ()) :
    value.issuance.work = value.admitted.proposal.proposal.work := by
  rw [(validate_authorized_eq_ok_iff.mp h).2]
  rfl

/-- The issuance of a sound snapshot names the work of its proposal. -/
theorem issuance_work_of_integrity (hintegrity : target.validate_integrity sha = .ok ())
    {issuance : AgIssuanceV1} (hissuance : target.issuance = some issuance) :
    ∃ basis, target.state.proposal_basis = some basis ∧ issuance.work = basis.proposal.work := by
  have hpayload := validate_payload_of_integrity hintegrity rfl
  unfold OccurrenceSnapshotV1.issuance at hissuance
  cases hstate : target.state with
  | AuthorizationConsumed value =>
    simp only [hstate, validate_payload, Option.some.injEq] at hpayload hissuance
    exact ⟨_, rfl, hissuance ▸ issuance_work_of_authorized hpayload⟩
  | Dispatched value | ReconciliationRequired value | SettledObservationRequired value =>
    simp only [hstate, validate_payload, ok_rules, Option.some.injEq]
      at hpayload hissuance
    exact ⟨_, rfl, hissuance ▸ issuance_work_of_authorized hpayload.1⟩
  | _ => simp [hstate] at hissuance

end Pairs

section Journal

variable {sha : Sha256} {campaign : CampaignId} {profile : Option Digest} {rows : List StoredTransitionRow}
  {state : ReplayState} {earlier later : StoredTransitionRow}

variable (h : replay_rows sha campaign profile 0 (.initial sha campaign) rows = .ok state)

include h

/-- Neighbours of a replayed journal are legal successors. -/
theorem legal_of_replay_rows (hpair : [earlier, later] <:+: rows) : LegalSuccessor earlier.snapshot later.snapshot := by
  obtain ⟨front, rest, rfl⟩ := hpair
  rw [replay_rows_append, bind_eq_ok_iff] at h
  obtain ⟨middle, hfront, _⟩ := h
  rw [← List.singleton_append, ← List.append_assoc] at hfront
  exact (validate_successor_eq_ok_iff.mp (succeeds_of_replay_rows hfront).validated).2.2.2

omit h in
/-- A pair of one occurrence keeps the work, if it does so where it is not compared. -/
theorem KeepsWork.expected_work (hkeeps : KeepsWork earlier later)
    (hlegal : LegalSuccessor earlier.snapshot later.snapshot) (hstays : earlier.Stays later) :
    later.expected_work = earlier.expected_work := by
  by_cases hcompared : ComparedWithoutWork earlier.snapshot later.snapshot
  · exact (hkeeps hcompared).1
  · exact expected_work_of_compared hlegal hstays hcompared

omit h in
/-- A pair that keeps the work keeps the proposal bound to it. -/
theorem KeepsWork.proposal (hkeeps : KeepsWork earlier later)
    (hlegal : LegalSuccessor earlier.snapshot later.snapshot)
    (hearlier : ∀ basis ∈ earlier.snapshot.state.proposal_basis, basis.proposal.work = earlier.expected_work) :
    ∀ basis ∈ later.snapshot.state.proposal_basis, basis.proposal.work = later.expected_work := by
  intro basis hbasis
  rcases proposal_of_legal hlegal hbasis with hrecorded | ⟨recorded, hrecorded, hsame⟩
  · exact (hkeeps (.inl hrecorded)).2 hrecorded basis hbasis
  · rw [hkeeps.expected_work hlegal (key_of_proposal hlegal hbasis), ← hearlier recorded hrecorded, hsame]

omit h in
/-- An occurrence keeps its work, when neighbours keep it and reopened occurrences have
their own. -/
theorem expected_work_constant
    (hkeeps : ∀ earlier later, [earlier, later] <:+: rows → earlier.Stays later →
      later.expected_work = earlier.expected_work) (hreopens : ReopensOwnWork rows) :
    rows.Pairwise fun earlier later => earlier.Stays later → later.expected_work = earlier.expected_work := by
  induction rows using List.reverseRecOn with
  | nil => exact .nil
  | append_singleton rows row ih =>
    have hbefore := ih (fun earlier later hpair => hkeeps earlier later (hpair.trans (List.prefix_append _ _).isInfix))
      (fun front earlier later hfront => hreopens front earlier later (hfront.trans (List.prefix_append _ _)))
    refine List.pairwise_append.mpr ⟨hbefore, List.pairwise_singleton _ _, ?_⟩
    intro earlier hmem later hlater hstays
    obtain rfl : later = row := List.mem_singleton.mp hlater
    obtain ⟨front, last, rfl⟩ := (List.eq_nil_or_concat rows).resolve_left (List.ne_nil_of_mem hmem)
    rw [List.concat_eq_append] at hbefore hmem hkeeps hreopens
    have hfront : (front ++ [last]) ++ [later] = front ++ [last, later] := List.append_assoc front [last] [later]
    -- the last row before is of the occurrence, or the occurrence is opened again
    by_cases hsame : last.Stays later
    · have hkept := hkeeps last later ⟨front, [], by simp⟩ hsame
      rcases List.mem_append.mp hmem with hmem | hmem
      · exact hkept.trans ((List.pairwise_append.mp hbefore).2.2 earlier hmem last (by simp)
          (hstays.trans hsame.symm))
      · exact List.mem_singleton.mp hmem ▸ hkept
    · rcases List.mem_append.mp hmem with hmem | hmem
      · exact hreopens front last later (hfront ▸ List.prefix_refl _) hsame earlier hmem hstays
      · exact absurd (List.mem_singleton.mp hmem ▸ hstays) hsame

/-- The rows of a journal that keeps its work are bound to it. -/
theorem exact_work_bound_of_keeps (hkeeps : rows.IsChain KeepsWork) (hreopens : ReopensOwnWork rows) :
    ExactWorkBound rows := by
  rw [isChain_iff_pairs] at hkeeps
  have hproposal : ∀ row ∈ rows, ∀ basis ∈ row.snapshot.state.proposal_basis,
      basis.proposal.work = row.expected_work := by
    refine (List.isChain_isInfix rows).induction _ rows ?_ ?_
    · intro earlier later hpair
      exact (hkeeps earlier later hpair).proposal (legal_of_replay_rows h hpair)
    · intro hne basis hbasis
      obtain ⟨first, rest, rfl⟩ := List.exists_cons_of_ne_nil hne
      exact absurd hbasis (no_proposal_of_observation_required (creates_of_replay_rows h).program_counter)
  refine ⟨expected_work_constant (fun earlier later hpair hstays => ?_) hreopens, hproposal, ?_, ?_⟩
  · exact (hkeeps earlier later hpair).expected_work (legal_of_replay_rows h hpair) hstays
  · intro row hrow issuance hissuance
    obtain ⟨_, hbound⟩ := bound_of_replay_rows h row hrow
    obtain ⟨basis, hbasis, hwork⟩ := issuance_work_of_integrity hbound.integrity hissuance
    rw [hwork, hproposal row hrow basis hbasis]
  · intro earlier later hpair hhalted _
    exact (hkeeps earlier later hpair (.inr (.inr (.inl hhalted)))).1

omit h in
theorem ExactWorkBound.reopens (hbound : ExactWorkBound rows) : ReopensOwnWork rows := by
  intro front earlier later hfront _ row hrow hstays
  have hpairs := hbound.constant.sublist hfront.sublist
  exact (List.pairwise_append.mp hpairs).2.2 row hrow later (by simp) hstays

omit h in
theorem ExactWorkBound.neighbours (hbound : ExactWorkBound rows) (hpair : [earlier, later] <:+: rows)
    (hstays : earlier.Stays later) : later.expected_work = earlier.expected_work :=
  List.pairwise_pair.mp (hbound.constant.sublist hpair.sublist) hstays

/-- A journal whose rows are bound to their work keeps it in every pair. -/
theorem ExactWorkBound.keeps (hbound : ExactWorkBound rows) : rows.IsChain KeepsWork := by
  refine (List.isChain_isInfix rows).imp fun earlier later hpair hcompared => ?_
  have hlater : later ∈ rows := hpair.subset (by simp)
  refine ⟨?_, fun _ => hbound.proposal later hlater⟩
  by_cases hkey : earlier.snapshot.key = later.snapshot.key
  · exact hbound.neighbours hpair hkey
  · obtain ⟨hopened, hclosed⟩ := opened_of_legal (legal_of_replay_rows h hpair) hkey
    have hhalted : earlier.snapshot.program_counter = .Halted := by
      rcases hclosed with hsettled | hhalted
      · unfold ComparedWithoutWork at hcompared
        simp [hopened, hsettled] at hcompared
      · exact hhalted
    exact hbound.inherited earlier later hpair hhalted hopened

end Journal

variable {sha : Sha256} {db : Db}

/-- A journal that replays is bound to its exact work all through, exactly when the
pairs whose work the membrane does not compare keep it and an occurrence that is opened
again is opened with its own work. -/
theorem exact_work_bound_iff {report : CampaignReplayReportV1} (h : replay_store sha db = .ok report)
    {head : CampaignHeadRow} (hhead : head ∈ db.campaigns.rows) :
    ExactWorkBound (db.journal head.campaign) ↔
      (db.journal head.campaign).IsChain KeepsWork ∧ ReopensOwnWork (db.journal head.campaign) := by
  obtain ⟨sole, state, last, hverified, _⟩ := replay_store_eq_ok_iff.mp h
  rw [hverified.sole, List.mem_singleton] at hhead
  subst hhead
  exact ⟨fun hbound => ⟨hbound.keeps hverified.replayed, hbound.reopens⟩,
    fun hkeeps => exact_work_bound_of_keeps hverified.replayed hkeeps.1 hkeeps.2⟩

/-- A new campaign bound to the work `[1]` and a halt of it that binds `work`: the store
commits the halt and still replays. -/
theorem halted_sample (work : Digest) :
    ∃ (initial : OccurrenceSnapshotV1) (db db' : Db) (receipt : CampaignCommitReceiptV1)
      (report : CampaignReplayReportV1) (head : CampaignHeadRow) (earlier later : StoredTransitionRow),
      GovernedLoopKernelV1.create_initial ideal_sha ⟨⟨[]⟩⟩ ⟨0⟩ ⟨⟨[]⟩⟩ ⟨[1]⟩ ⟨[], .nil⟩ ⟨0, 0, 0, 0, 0, 0⟩ =
        .ok initial ∧
      CampaignStoreV1.create_with_runtime_profile ideal_sha initial none 0 = .ok db ∧
      Returns (CampaignStoreV1.commit ideal_sha initial
        (successor_snapshot ideal_sha initial (.Halted (rebound_halt initial work ⟨⟨[5]⟩⟩))) .Halted 0)
        db receipt db' ∧
      replay_store ideal_sha db' = .ok report ∧ head ∈ db'.campaigns.rows ∧
      db'.journal head.campaign = [earlier, later] ∧ earlier.Stays later ∧
      later.snapshot.program_counter = .Halted ∧
      earlier.expected_work = ⟨[1]⟩ ∧ later.expected_work = work := by
  obtain ⟨initial, state, hcreated, hintegrity, hcounter, hcreate, hfirst, hattested⟩ :=
    stored_sample ideal_sha_collision_free
  have haccepted := rebound_halt_accepted hintegrity (by rw [hcounter]; rfl) work ⟨⟨[5]⟩⟩
  have hlegal := (validate_successor_eq_ok_iff.mp haccepted).2.2.2
  obtain ⟨hkey, _⟩ := halted_keeps_occurrence rfl hlegal
  have hdecisions := new_decisions_of_legal hlegal (by rw [hcounter]; rintro ⟨⟩)
  obtain ⟨db', hcommit, _⟩ := hfirst.commit_halted ideal_sha_collision_free
    (by decide : (0 : UInt64) ≤ I64_MAX) (by decide : 1 + 1 < 2 ^ 63) rfl haccepted (by rw [hdecisions]; rfl)
  obtain ⟨report, hreport⟩ := Replays.replay_store (replays_commit ideal_sha_collision_free
    ⟨_, state, initial, hfirst.replayable, hattested⟩ hcommit (by rw [hcounter]; rintro ⟨⟨⟩, _⟩))
  obtain ⟨_, hwritten, _⟩ := (CampaignStoreV1.returns_commit_iff hfirst.replayable.linear.sole).mp hcommit
  have hjournal := hwritten.journal
  have hgenesis := (create_eq_ok_iff.mp hcreate).1.journal
  have hcampaign : (genesis_head ideal_sha initial none 0).campaign = initial.key.campaign := rfl
  rw [hcampaign, hgenesis, List.singleton_append] at hjournal
  refine ⟨initial, _, db', _, report, _, _, _, hcreated, hcreate, hcommit, hreport,
    by rw [hwritten.campaigns]; exact List.mem_singleton_self _, hjournal, ?_, ?_, ?_, ?_⟩
  · exact hkey
  · rfl
  · change initial.state.metadata.expected_work = _
    rw [(GovernedLoopKernelV1.create_initial_eq_ok hcreated).2]
    rfl
  · rfl

/-- A campaign that is created and halted is bound to its work. -/
theorem exact_work_bound_iff_halted :
    ∃ (initial : OccurrenceSnapshotV1) (db db' : Db) (receipt : CampaignCommitReceiptV1)
      (report : CampaignReplayReportV1) (head : CampaignHeadRow),
      CampaignStoreV1.create_with_runtime_profile ideal_sha initial none 0 = .ok db ∧
      Returns (CampaignStoreV1.commit ideal_sha initial
        (successor_snapshot ideal_sha initial (.Halted (rebound_halt initial ⟨[1]⟩ ⟨⟨[5]⟩⟩))) .Halted 0)
        db receipt db' ∧
      replay_store ideal_sha db' = .ok report ∧ head ∈ db'.campaigns.rows ∧
      ExactWorkBound (db'.journal head.campaign) := by
  obtain ⟨initial, db, db', receipt, report, head, earlier, later, _, hcreate, hcommit, hreport, hhead, hjournal,
    _, hhalted, hearlier, hlater⟩ := halted_sample ⟨[1]⟩
  refine ⟨initial, db, db', receipt, report, head, hcreate, hcommit, hreport, hhead,
    (exact_work_bound_iff hreport hhead).mpr ?_⟩
  rw [hjournal]
  refine ⟨List.isChain_pair.mpr fun _ => ⟨hlater.trans hearlier.symm, ?_⟩, ?_⟩
  · rw [hhalted]
    rintro ⟨⟩
  · intro front _ _ hfront _ row hrow
    have hlength := hfront.length_le
    simp only [List.length_append, List.length_cons, List.length_nil] at hlength
    rw [List.length_eq_zero_iff.mp (by omega : front.length = 0)] at hrow
    cases hrow

/-- A new campaign bound to one work, and a halt of it that binds another: the store
commits the halt and still replays. -/
theorem rebound_halt_persists :
    ∃ (initial : OccurrenceSnapshotV1) (db db' : Db) (receipt : CampaignCommitReceiptV1)
      (report : CampaignReplayReportV1) (head : CampaignHeadRow),
      GovernedLoopKernelV1.create_initial ideal_sha ⟨⟨[]⟩⟩ ⟨0⟩ ⟨⟨[]⟩⟩ ⟨[1]⟩ ⟨[], .nil⟩ ⟨0, 0, 0, 0, 0, 0⟩ =
        .ok initial ∧
      CampaignStoreV1.create_with_runtime_profile ideal_sha initial none 0 = .ok db ∧
      Returns (CampaignStoreV1.commit ideal_sha initial
        (successor_snapshot ideal_sha initial (.Halted (rebound_halt initial ⟨[2]⟩ ⟨⟨[5]⟩⟩))) .Halted 0)
        db receipt db' ∧
      replay_store ideal_sha db' = .ok report ∧ head ∈ db'.campaigns.rows ∧
      ¬ ExactWorkBound (db'.journal head.campaign) := by
  obtain ⟨initial, db, db', receipt, report, head, earlier, later, hcreated, hcreate, hcommit, hreport, hhead,
    hjournal, hstays, _, hearlier, hlater⟩ := halted_sample ⟨[2]⟩
  refine ⟨initial, db, db', receipt, report, head, hcreated, hcreate, hcommit, hreport, hhead, fun hbound => ?_⟩
  have hkept := hbound.neighbours (hjournal ▸ List.infix_refl _) hstays
  rw [hearlier, hlater] at hkept
  cases hkept

end ag_store

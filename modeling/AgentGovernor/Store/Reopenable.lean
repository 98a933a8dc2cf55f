import AgentGovernor.Governed.Attainable
import AgentGovernor.Governed.Soundness
import AgentGovernor.Store.Progress

open ag_primitives Checked ag_campaign ag_campaign.governed Relational Transaction
open GovernedLoopKernelV1 (create_initial validate_successor)

namespace ag_store

variable {sha : Sha256} {db : Db}

/-- A store that was created and then took any calls that are written exactly and renew
no halt replays, and the report counts the rows of its tables. -/
theorem replay_store_of_calls (hsha : sha.CollisionFree) {initial : OccurrenceSnapshotV1}
    {runtime_profile : Option (String × Jcs)} {recorded_at_unix_ms : UInt64} {calls : List StoreCall}
    (hcreate : CampaignStoreV1.create_with_runtime_profile sha initial runtime_profile
      recorded_at_unix_ms = .ok db)
    (hcalls : ∀ call ∈ calls, call.Exact ∧ ¬ call.RenewsHalt) :
    ∃ report, replay_store sha (StoreCall.run sha db calls) = .ok report ∧
      report.Counts (StoreCall.run sha db calls) := by
  obtain ⟨state, hr, hattested⟩ := (create_eq_ok_iff.mp hcreate).1.replayable
  obtain ⟨head, state', last, hr', hattested'⟩ :=
    StoreCall.run_replays hsha (fun call hmem => (hcalls call hmem).2) ⟨_, state, initial, hr, hattested⟩
  have hverified := hr'.verified hattested'
  exact ⟨_, replay_store_eq_ok_iff.mpr ⟨head, state', last, hverified, rfl⟩, hverified.counts⟩

/-- A new campaign that is halted replays. -/
theorem replay_store_of_calls_halt :
    ∃ (initial halted : OccurrenceSnapshotV1) (db : Db),
      create_initial ideal_sha ⟨⟨[]⟩⟩ ⟨0⟩ ⟨⟨[]⟩⟩ ⟨[1]⟩ ⟨[], .nil⟩ ⟨0, 0, 0, 0, 0, 0⟩ = .ok initial ∧
      CampaignStoreV1.create_with_runtime_profile ideal_sha initial none 0 = .ok db ∧
      (StoreCall.commit initial halted .Halted 0).Exact ∧ ¬ (StoreCall.commit initial halted .Halted 0).RenewsHalt ∧
      ∃ report, replay_store ideal_sha (StoreCall.run ideal_sha db [.commit initial halted .Halted 0]) =
          .ok report ∧
        report.Counts (StoreCall.run ideal_sha db [.commit initial halted .Halted 0]) := by
  obtain ⟨initial, _, hcreated, hintegrity, hcounter, hcreate, _⟩ := stored_sample ideal_sha_collision_free
  obtain ⟨halted, hhalt⟩ := halt_ok hintegrity (by rw [hcounter]; rfl) ⟨⟨[5]⟩⟩
  have hexact : halted.Exact := by
    rw [OccurrenceSnapshotV1.Exact, (GovernedLoopKernelV1.halt_eq_ok_iff.mp hhalt).2.2.state_eq]
    simp [to_jcs, GovernedLoopKernelV1.halted_from, (GovernedLoopKernelV1.create_initial_eq_ok hcreated).2,
      OccurrenceStateV1.authority_history, AuthorityHistoryV1.default, current_prior_basis, unresolved_attempt_of,
      OccurrenceStateV1.metadata, OccurrenceStateV1.proposal_basis]
  have hrenews : ¬ (StoreCall.commit initial halted .Halted 0).RenewsHalt := by
    rintro ⟨hhalted, _⟩
    rw [hcounter] at hhalted
    cases hhalted
  have hcall : (StoreCall.commit initial halted .Halted 0).Exact :=
    ⟨sample_exact hcreated, hexact, Nat.zero_le _⟩
  exact ⟨initial, halted, _, hcreated, hcreate, hcall, hrenews,
    replay_store_of_calls ideal_sha_collision_free hcreate (by simpa using ⟨hcall, hrenews⟩)⟩

/-- A halted snapshot after one more decision. -/
def renewed_halt (sha : Sha256) (current : OccurrenceSnapshotV1) (halted : HaltedV1)
    (decision : HumanDecisionIdV1) : OccurrenceSnapshotV1 :=
  successor_snapshot sha current (.Halted (halted.consume decision))

variable {current : OccurrenceSnapshotV1} {decision : HumanDecisionIdV1} {head : CampaignHeadRow}
  {state : ReplayState}

theorem renewed_halt_accepted {halted : HaltedV1}
    (hintegrity : current.validate_integrity sha = .ok ()) (hstate : current.state = .Halted halted)
    (hunused : decision ∉ halted.metadata.used_human_decisions) :
    validate_successor sha current (renewed_halt sha current halted decision) = .ok () := by
  have hfollows := consume_follows hintegrity hstate hunused
  refine validate_successor_eq_ok_iff.mpr ⟨hintegrity, hfollows.integrity, hfollows.prior_eq,
    .decided hstate rfl ⟨rfl, rfl, rfl, rfl, rfl, rfl, rfl, rfl, ⟨?_, ?_⟩, fun _ h => h⟩⟩
  · exact List.length_append
  · exact List.prefix_append _ _

/-- A store that replayed but has consumed a decision without an artifact does not
replay. -/
theorem not_replays_of_unattested {last : OccurrenceSnapshotV1} (hr : Replayable sha db head state last)
    (hdecisions : state.human_decisions ≠ state.human_artifacts.keys.toFinset)
    (report : CampaignReplayReportV1) : replay_store sha db ≠ .ok report := by
  intro h
  obtain ⟨head', state', last', hverified, _⟩ := replay_store_eq_ok_iff.mp h
  obtain rfl : head = head' := by simpa using hr.linear.sole.symm.trans hverified.sole
  obtain rfl : state = state' := by simpa using hr.replayed.symm.trans hverified.replayed
  exact hdecisions hverified.tables_verified.decisions

/-- A halt that is committed, and then committed again with one more consumed
decision as an ordinary halt: both commits succeed and the store no longer replays. -/
theorem FirstOccurrence.renewed_halt_unreplayable (hsha : sha.CollisionFree) {halted : OccurrenceSnapshotV1}
    {reason : HaltReasonRefV1}
    {recorded_at_unix_ms : UInt64} (h : FirstOccurrence sha db head state current) (hattested : Attested db state)
    (hhalt : GovernedLoopKernelV1.halt sha current reason = .ok halted)
    (hunused : decision ∉ current.state.metadata.used_human_decisions)
    (hrecorded : recorded_at_unix_ms ≤ I64_MAX) (hrange : head.event_count.toNat + 2 < 2 ^ 63) :
    ∃ renewed receipt receipt' middle finish,
      Returns (CampaignStoreV1.commit sha current halted .Halted recorded_at_unix_ms) db receipt middle ∧
      Returns (CampaignStoreV1.commit sha halted renewed .Halted recorded_at_unix_ms) middle receipt' finish ∧
      ∀ report, replay_store sha finish ≠ .ok report := by
  obtain ⟨_, _, hfollows⟩ := GovernedLoopKernelV1.halt_eq_ok_iff.mp hhalt
  obtain ⟨middle, hfirst, hmiddle⟩ := h.commit_halt hsha hrecorded (Nat.lt_of_succ_lt hrange) hhalt
  obtain ⟨value, hvalue, hused⟩ : ∃ value, halted.state = .Halted value ∧
      value.metadata.used_human_decisions = current.state.metadata.used_human_decisions :=
    ⟨_, hfollows.state_eq, rfl⟩
  have hmore := renewed_halt_accepted hfollows.integrity hvalue (hused ▸ hunused)
  have hunknown : decision ∉ state.human_decisions :=
    fun hmem => hunused (h.replayable.decisions_used decision hmem)
  have hconsumed : new_decisions halted (renewed_halt sha halted value decision) = [decision] := by
    obtain ⟨_, hsound, _, _⟩ := validate_successor_eq_ok_iff.mp hmore
    refine (new_decisions_of_appended ?_ ?_ (used_nodup_of_integrity hsound)).1
    · rw [hvalue]
      exact ⟨List.length_append, List.prefix_append _ _⟩
    · exact List.getLast?_concat
  have htaken : replay_decisions state.human_decisions
      (new_decisions halted (renewed_halt sha halted value decision)) =
        .ok (state.human_decisions ∪ [decision].toFinset) := by
    rw [hconsumed]
    refine replay_decisions_eq_ok_iff.mpr ⟨List.nodup_singleton _, ?_, rfl⟩
    exact fun other hother => List.mem_singleton.mp hother ▸ hunknown
  have hcount : (saturating_add_u64 head.event_count 1).toNat + 1 < 2 ^ 63 := by
    rw [toNat_saturating_add_one (saturating_add_one_le (Nat.lt_of_succ_lt hrange))]
    exact hrange
  obtain ⟨finish, hsecond, hfinish⟩ := hmiddle.commit_halted hsha hrecorded hcount rfl hmore htaken
  refine ⟨_, _, _, middle, finish, hfirst, hsecond, not_replays_of_unattested hfinish.replayable ?_⟩
  change state.human_decisions ∪ [decision].toFinset ≠ state.human_artifacts.keys.toFinset
  rw [← hattested.decisions]
  intro heq
  exact hunknown (heq ▸ by simp)

/-- A campaign is halted, and the halted snapshot is committed again with one more
consumed decision, as an ordinary halt: both calls succeed, and the store no longer
replays. -/
theorem renewed_halt_breaks_replay :
    ∃ (initial halted renewed : OccurrenceSnapshotV1) (db : Db),
      create_initial ideal_sha ⟨⟨[]⟩⟩ ⟨0⟩ ⟨⟨[]⟩⟩ ⟨[1]⟩ ⟨[], .nil⟩ ⟨0, 0, 0, 0, 0, 0⟩ = .ok initial ∧
      CampaignStoreV1.create_with_runtime_profile ideal_sha initial none 0 = .ok db ∧
      GovernedLoopKernelV1.halt ideal_sha initial ⟨⟨[5]⟩⟩ = .ok halted ∧
      ∀ report, replay_store ideal_sha (StoreCall.run ideal_sha db
        [.commit initial halted .Halted 0, .commit halted renewed .Halted 0]) ≠ .ok report := by
  obtain ⟨initial, state, hcreated, hintegrity, hcounter, hcreate, hfirst, hattested⟩ :=
    stored_sample ideal_sha_collision_free
  have hunused : (⟨⟨[6]⟩⟩ : HumanDecisionIdV1) ∉ initial.state.metadata.used_human_decisions := by
    rw [(GovernedLoopKernelV1.create_initial_eq_ok hcreated).2]
    exact List.not_mem_nil
  obtain ⟨halted, hhalt⟩ := halt_ok hintegrity (by rw [hcounter]; rfl) ⟨⟨[5]⟩⟩
  obtain ⟨renewed, receipt, receipt', middle, finish, hcommit, hrenewed, hbroken⟩ :=
    hfirst.renewed_halt_unreplayable ideal_sha_collision_free hattested hhalt hunused
      (by decide : (0 : UInt64) ≤ I64_MAX) (by decide : 1 + 2 < 2 ^ 63)
  refine ⟨initial, halted, renewed, _, hcreated, hcreate, hhalt, ?_⟩
  have hrun : StoreCall.run ideal_sha _ [.commit initial halted .Halted 0, .commit halted renewed .Halted 0] = finish :=
    Eq.trans (StoreCall.run_cons (returns_bind_pure_iff.mpr ⟨_, hcommit, rfl⟩))
      (StoreCall.run_cons (returns_bind_pure_iff.mpr ⟨_, hrenewed, rfl⟩))
  rw [hrun]
  exact hbroken

end ag_store

import AgentGovernor.Governed.History
import AgentGovernor.Store.Dispositions
import AgentGovernor.Store.Receptive

open ag_primitives Checked ag_campaign ag_campaign.governed Relational Transaction
open OccurrenceSnapshotV1 (docket_custody key program_counter)

namespace ag_campaign.governed

/-- What an authenticated request is allowed to come to: leave to read about the exact
attempt that is stored, or a state in which nothing was spent, issued or dispatched that
the source did not hold. -/
inductive GovernedInterventionEffectV1.MintsNothing (current : OccurrenceSnapshotV1)
    (verified : VerifiedGovernedInterventionV1) : GovernedInterventionEffectV1 → Prop where
  | reconciles {issuance : AgIssuanceRefV1} {attempt : DocketAttemptRefV1} {evidence : List Digest}
    (hclass : verified.request.intervention = .ReconcileAttempt issuance attempt evidence)
    (hissuance : current.issuance.map AgIssuanceV1.issuance = some issuance)
    (hattempt : current.docket_custody.map DocketCustodyV1.attempt = some attempt) :
    MintsNothing current verified (.Reconcile verified)
  | advances {successor : OccurrenceSnapshotV1}
    (hhistory : successor.state.authority_history = current.state.authority_history ∨
      successor.key.occurrence ≠ current.key.occurrence ∧ successor.state.authority_history = .default)
    (hunauthorized : successor.program_counter ≠ .AuthorizationConsumed)
    (hundispatched : successor.program_counter ≠ .Dispatched) :
    MintsNothing current verified (.Transition successor verified)

section Mint

variable {sha : Sha256} {current : OccurrenceSnapshotV1}

/-- An intervention mints nothing, whatever snapshot it is applied to. -/
theorem apply_verified_governed_intervention_mints_nothing {verified : VerifiedGovernedInterventionV1}
    {effect : GovernedInterventionEffectV1}
    (h : GovernedLoopKernelV1.apply_verified_governed_intervention sha current verified = .ok effect) :
    effect.MintsNothing current verified := by
  simp only [GovernedLoopKernelV1.apply_verified_governed_intervention, ok_rules] at h
  obtain ⟨_, _, _, _, heffect⟩ := h
  cases hclass : verified.request.intervention with
  | ReconcileAttempt issuance attempt evidence =>
    rw [hclass] at heffect
    cases hstate : current.state with
    | ReconciliationRequired state =>
      simp only [hstate, ok_rules] at heffect
      obtain ⟨hissuance, hattempt, rfl⟩ := heffect
      refine .reconciles hclass ?_ ?_
      · rw [OccurrenceSnapshotV1.issuance, hstate, hissuance]
        rfl
      · rw [docket_custody, hstate, hattempt]
        rfl
    | _ => simp [hstate, throw_ne_ok] at heffect
  | RequestProbe exact_probe_work evidence =>
    simp only [hclass, ok_rules] at heffect
    obtain ⟨successor, hcall, rfl⟩ := heffect
    obtain ⟨_, hcounter, _, hfollows⟩ := GovernedLoopKernelV1.note_probe_eq_ok_iff.mp hcall
    have hsame : successor.program_counter = current.program_counter := by
      rw [program_counter, program_counter, hfollows.state_eq]
      exact OccurrenceStateV1.set_metadata_program_counter _ _
    refine .advances (.inl ?_) ?_ ?_
    · rw [hfollows.state_eq, OccurrenceStateV1.set_metadata_authority_history]
    all_goals
      rw [hsame]
      rcases hcounter with hcounter | hcounter <;> rw [hcounter] <;> rintro ⟨⟩
  | OpenSuccessor successor_occurrence exact_work =>
    simp only [hclass, ok_rules] at heffect
    obtain ⟨successor, hcall, rfl⟩ := heffect
    obtain ⟨_, settled, hstate, hdistinct, hfollows⟩ := GovernedLoopKernelV1.open_continuation_eq_ok_iff.mp hcall
    refine .advances (.inr ⟨?_, ?_⟩) ?_ ?_
    · rw [key, key, hfollows.state_eq, hstate]
      exact hdistinct
    · rw [hfollows.state_eq]
      rfl
    all_goals
      rw [program_counter, hfollows.state_eq]
      rintro ⟨⟩
  | HaltContinuation reason =>
    simp only [hclass, ok_rules] at heffect
    obtain ⟨successor, hcall, rfl⟩ := heffect
    obtain ⟨_, _, hfollows⟩ := GovernedLoopKernelV1.halt_eq_ok_iff.mp hcall
    refine .advances (.inl ?_) ?_ ?_
    · rw [hfollows.state_eq]
      rfl
    all_goals
      rw [program_counter, hfollows.state_eq]
      rintro ⟨⟩

/-- The identity of a request fixes the state it is aimed at. -/
theorem derived_request_id_target (hsha : sha.CollisionFree) {left right : GovernedInterventionRequestV1}
    (h : left.derived_request_id sha = right.derived_request_id sha) :
    left.target_state_digest = right.target_state_digest := by
  have hserialized := ((Digest.hash_domain_inj hsha).mp (congrArg ExactDigestRef.as_digest h)).2
  simp only [to_jcs, GovernedInterventionDigestInputV1.serialize, Payload.jcs.injEq, Jcs.obj.injEq,
    List.cons.injEq, Prod.mk.injEq, true_and, and_true] at hserialized
  obtain ⟨_, _, _, _, _, _, _, _, _, htarget⟩ := hserialized
  simpa using htarget

end Mint

end ag_campaign.governed

namespace ag_store

section Once

variable {sha : Sha256}

/-- The journal is linear and every intervention in it stands where it was aimed at. -/
def JournalAimed (sha : Sha256) (db : Db) : Prop :=
  (∃ head, Linear db head) ∧ ∀ row ∈ db.transitions.rows, row.2.Aimed sha

theorem StoreCall.journal_aimed {db : Db} (call : StoreCall) (h : JournalAimed sha db) :
    JournalAimed sha (call.execute sha db).2 := by
  obtain ⟨⟨head, hlinear⟩, haimed⟩ := h
  rcases (call.atomic sha).cases db with hsame | ⟨receipts, hresult⟩
  · rw [hsame]
    exact ⟨⟨head, hlinear⟩, haimed⟩
  · obtain ⟨head', _, hextends⟩ := StoreCall.extends hlinear hresult
    obtain ⟨added, _, happends⟩ := StoreCall.appends hlinear.sole hresult
    refine ⟨⟨head', hextends.linear⟩, fun row hrow => ?_⟩
    rw [happends.transitions] at hrow
    exact (List.mem_append.mp hrow).elim (haimed row) (happends.aimed row)

theorem StoreHistory.journal_aimed (history : StoreHistory sha) : JournalAimed sha history.final := by
  have hcreated := (create_eq_ok_iff.mp history.created).1
  have hstart : JournalAimed sha history.db := by
    refine ⟨⟨_, hcreated.linear⟩, fun row hrow => ?_⟩
    rw [hcreated.transitions] at hrow
    rw [List.mem_singleton.mp hrow]
    exact aimed_of_evidence rfl (by rintro _ ⟨⟩)
  unfold StoreHistory.final StoreCall.run
  generalize history.db = db at hstart
  induction history.calls generalizing db with
  | nil => exact hstart
  | cons call calls ih => exact ih _ (call.journal_aimed hstart)

/-- Two interventions that stand in one journal have different identities: one identity
is one target state, and a state has one successor. -/
theorem JournalAimed.pairwise (hsha : sha.CollisionFree) {db : Db} (h : JournalAimed sha db) :
    db.transitions.rows.Pairwise fun left right => ∀ earlier later,
      left.2.evidence = .GovernedIntervention earlier → right.2.evidence = .GovernedIntervention later →
      earlier.request.request ≠ later.request.request := by
  obtain ⟨⟨head, hlinear⟩, haimed⟩ := h
  refine db.transitions.distinct.imp_of_mem fun {left right} hleft hright hnot earlier later hearlier hlater heq => ?_
  obtain ⟨hvalid, htarget⟩ := haimed left hleft earlier hearlier
  obtain ⟨hvalid', htarget'⟩ := haimed right hright later hlater
  simp only [GovernedInterventionRequestV1.validate_integrity, ok_rules] at hvalid hvalid'
  have hsame := derived_request_id_target hsha (hvalid.2.1.symm.trans (heq.trans hvalid'.2.1))
  have hcampaign := (hlinear.campaign left hleft).trans (hlinear.campaign right hright).symm
  exact hnot (.inr (.inl ⟨hcampaign, htarget.symm.trans (hsame.trans htarget')⟩))

/-- Governed interventions mint nothing and apply once. On every snapshot an authenticated
request is refused, or only lets the exact attempt be read about, or leads to a state
without new authority. In every history of a store no two transitions have the same
request as their evidence. -/
theorem interventions_mint_nothing_once (hsha : sha.CollisionFree) :
    (∀ (current : OccurrenceSnapshotV1) (request : GovernedInterventionRequestV1)
        (expected_scope : GovernedInterventionAuthorityScopeV1) (verifier : GovernedInterventionVerifierV1)
        (now_unix_ms : UInt64) (verified : VerifiedGovernedInterventionV1),
      GovernedLoopKernelV1.verify_governed_intervention sha request expected_scope verifier now_unix_ms =
        .ok verified →
      ∀ effect, GovernedLoopKernelV1.apply_verified_governed_intervention sha current verified = .ok effect →
        effect.MintsNothing current verified) ∧
    ∀ history : StoreHistory sha, history.final.transitions.rows.Pairwise fun left right =>
      ∀ earlier later, left.2.evidence = .GovernedIntervention earlier →
        right.2.evidence = .GovernedIntervention later → earlier.request.request ≠ later.request.request :=
  ⟨fun _ _ _ _ _ _ _ _ h => apply_verified_governed_intervention_mints_nothing h,
    fun history => history.journal_aimed.pairwise hsha⟩

end Once

section Halted

variable {sha : Sha256} {current : OccurrenceSnapshotV1}

/-- A store commits the halt that a request asks for. -/
theorem FirstOccurrence.commit_halt_request (hsha : sha.CollisionFree) {db : Db} {head : CampaignHeadRow}
    {state : ReplayState} (h : FirstOccurrence sha db head state current) {halted : OccurrenceSnapshotV1}
    (hhalt : GovernedLoopKernelV1.halt sha current ⟨⟨[]⟩⟩ = .ok halted)
    (hrange : head.event_count.toNat + 1 < 2 ^ 63) (verification : GovernedInterventionVerificationRefV1) :
    ∃ receipt db', Returns (CampaignStoreV1.commit_governed_intervention sha current halted .Halted
        ⟨halt_request sha current.key current.state_digest, verification⟩ 0) db receipt db' ∧
      ∃ row ∈ db'.transitions.rows,
        row.2.evidence = .GovernedIntervention ⟨halt_request sha current.key current.state_digest, verification⟩ := by
  obtain ⟨hintegrity, _, hfollows⟩ := GovernedLoopKernelV1.halt_eq_ok_iff.mp hhalt
  have happly : (KernelOp.halt ⟨⟨[]⟩⟩).apply sha current = .ok [halted] := applied hhalt
  have hstep := List.isChain_pair.mp (apply_steps happly)
  obtain ⟨hkey, hfacts⟩ := halted_keeps_occurrence hfollows.state_eq (hstep.legal hsha hintegrity)
  have hcounter : halted.program_counter = .Halted := by
    rw [program_counter, hfollows.state_eq]
    rfl
  obtain ⟨db', hwritten, _⟩ : ∃ db', Written sha head current halted .Halted
      (.GovernedIntervention ⟨halt_request sha current.key current.state_digest, verification⟩) 0 db db' ∧ _ :=
    h.exists_written hsha (by decide) hrange (hstep.validated hsha hintegrity)
      (by simp [CampaignTransitionKindV1.valid, hcounter]) hkey hfacts
  have hevidence : validate_governed_intervention_evidence sha current halted .Halted
      ⟨halt_request sha current.key current.state_digest, verification⟩ = .ok () := by
    simp only [validate_governed_intervention_evidence, ok_rules, Bool.not_eq_false]
    refine ⟨halt_request_valid sha _ _, ⟨rfl, rfl, rfl⟩, ?_⟩
    change decide (CampaignTransitionKindV1.Halted = .Halted ∧ halted.program_counter = .Halted) = true
    simp [hcounter]
  refine ⟨_, db', (CampaignStoreV1.returns_commit_governed_intervention_iff h.replayable.linear.sole).mpr
    ⟨hevidence, hwritten, rfl⟩, ?_⟩
  rw [hwritten.transitions]
  exact ⟨_, List.mem_append_right _ (List.mem_singleton_self _), rfl⟩

end Halted

/-- A campaign that is halted by an intervention right after its creation. -/
theorem interventions_mint_nothing_halted :
    ∃ history : StoreHistory ideal_sha,
      (∃ row ∈ history.final.transitions.rows, ∃ verified, row.2.evidence = .GovernedIntervention verified) ∧
      history.final.transitions.rows.Pairwise fun left right =>
        ∀ earlier later, left.2.evidence = .GovernedIntervention earlier →
          right.2.evidence = .GovernedIntervention later → earlier.request.request ≠ later.request.request := by
  obtain ⟨initial, state, _, hintegrity, hcounter, hcreate, hfirst, _⟩ := stored_sample ideal_sha_collision_free
  obtain ⟨halted, hhalt⟩ := halt_ok hintegrity (by rw [hcounter]; rfl) ⟨⟨[]⟩⟩
  obtain ⟨receipt, db', hcommit, row, hrow, hevidence⟩ :=
    hfirst.commit_halt_request ideal_sha_collision_free hhalt (by decide : 1 + 1 < 2 ^ 63) ⟨⟨[]⟩⟩
  let call : StoreCall :=
    .commit_governed_intervention initial halted .Halted
      ⟨halt_request ideal_sha initial.key initial.state_digest, ⟨⟨[]⟩⟩⟩ 0
  let history : StoreHistory ideal_sha := ⟨initial, none, 0, _, hcreate, [call]⟩
  have hfinal : history.final = db' :=
    StoreCall.run_cons (returns_bind_iff.mpr ⟨receipt, db', hcommit, returns_pure_iff.mpr ⟨rfl, rfl⟩⟩)
  rw [← hfinal] at hrow
  exact ⟨history, ⟨row, hrow, _, hevidence⟩, (interventions_mint_nothing_once ideal_sha_collision_free).2 history⟩

end ag_store

import AgentGovernor.Governed.Pinned

open ag_primitives Checked

namespace ag_campaign.governed

open GovernedLoopKernelV1
open OccurrenceSnapshotV1 (program_counter)

variable {sha : Sha256} {source target : OccurrenceSnapshotV1}

/-- The first half of a disposition that opens an occurrence consumed a decision. -/
theorem consumed_of_opened {op : KernelOp} {current : OccurrenceSnapshotV1} {halted : HaltedV1}
    (happly : op.apply sha current = .ok [source, target]) (hs : source.state = .Halted halted)
    (hcounter : target.program_counter = .ObservationRequired) : ConsumedDecision sha source halted := by
  obtain ⟨_, hrest⟩ := List.isChain_cons_cons.mp (apply_steps happly)
  obtain ⟨hstep, _⟩ := List.isChain_cons_cons.mp hrest
  have hop : ∃ artifact scope new_occurrence resolver expected verifier now,
      op = .apply_human_disposition artifact scope new_occurrence resolver expected verifier now := by
    rw [program_counter] at hcounter
    cases hstep with
    | resumed hop => exact ⟨_, _, _, _, _, _, _, hop⟩
    | decided _ _ _ ht | discharged _ _ _ _ ht | terminated _ _ _ _ _ ht =>
      rw [ht.state_eq] at hcounter
      cases hcounter
    | halted _ _ ht =>
      rw [ht.state_eq] at hcounter
      cases hcounter
    | probed _ hpc _ _ =>
      rw [program_counter, hs] at hpc
      rcases hpc with hpc | hpc <;> cases hpc
    | proposed _ hs' _ _ _ ht | standing _ hs' ht | dispatched _ hs' ht | settled _ hs' ht
    | indeterminate _ hs' ht | reconciled _ hs' ht | admitted _ hs' _ ht | consumed _ hs' _ ht
    | completed _ hs' _ _ ht | continued _ hs' _ ht =>
      rw [hs] at hs'
      cases hs'
  obtain ⟨artifact, scope, new_occurrence, resolver, expected, verifier, now, rfl⟩ := hop
  obtain ⟨effect, heffect, hsnapshots⟩ := map_eq_ok_iff.mp happly
  obtain ⟨hintegrity, prev, verification, hcurrent, _, _, houtcome⟩ :=
    apply_human_disposition_eq_ok_iff.mp heffect
  obtain ⟨_, hdigest, _⟩ := validate_integrity_eq_ok_iff.mp hintegrity
  cases houtcome with
  | opened _ _ _ _ hhalted _ =>
    obtain ⟨rfl, rfl⟩ : _ = source ∧ _ = target := by
      simpa [HumanDispositionEffectV1.snapshots] using hsnapshots
    rw [hhalted.state_eq] at hs
    cases hs
    refine ⟨by simp [HaltedV1.consume, OccurrenceMetaV1.consume_decision], current.prior_state_digest, ?_⟩
    rw [hhalted.prior_eq, ← hdigest, hcurrent]
    simp [HaltedV1.before_decision, HaltedV1.consume, OccurrenceMetaV1.consume_decision]
  | discharged => simp [HumanDispositionEffectV1.snapshots] at hsnapshots
  | terminated => simp [HumanDispositionEffectV1.snapshots] at hsnapshots

theorem pinned_of_produces (h : KernelProduces sha source target) : Pinned sha source target := by
  unfold KernelProduces at h
  split at h
  · next hresumed =>
    obtain ⟨op, current, happly⟩ := h
    obtain ⟨_, hrest⟩ := List.isChain_cons_cons.mp (apply_steps happly)
    obtain ⟨hstep, _⟩ := List.isChain_cons_cons.mp hrest
    exact hstep.pinned fun halted hs hcounter => consumed_of_opened happly hs hcounter
  · next hplain =>
    obtain ⟨op, happly⟩ := h
    obtain ⟨hstep, _⟩ := List.isChain_cons_cons.mp (apply_steps happly)
    refine hstep.pinned fun halted hs hcounter => absurd ⟨?_, hcounter⟩ hplain
    rw [program_counter, hs]
    rfl

/-- One call that adds one snapshot, between program counters that are no resumption. -/
theorem produces_of_apply {left right : OccurrenceStateV1} (hs : source.state = left)
    (ht : target.state = right)
    (hplain : left.program_counter = .Halted → right.program_counter ≠ .ObservationRequired)
    (op : KernelOp) (happly : op.apply sha source = .ok [target]) : KernelProduces sha source target := by
  rw [KernelProduces, program_counter, program_counter, hs, ht,
    if_neg (not_and.mpr hplain)]
  exact ⟨op, happly⟩

theorem Pinned.keeps_work {left right : OccurrenceStateV1} (h : Pinned sha source target)
    (hs : source.state = left) (ht : target.state = right)
    (hother : left.program_counter = .SettledObservationRequired →
      right.program_counter ≠ .ObservationRequired) :
    right.metadata.expected_work = left.metadata.expected_work := by
  have hwork := h.expected_work
  rw [program_counter, program_counter, hs, ht] at hwork
  exact hwork.resolve_right (not_and.mpr hother)

/-- A legal pair that is pinned as the kernel pins it can be produced again, by
boundaries that repeat the recorded answers. -/
theorem produces_of_pinned (hsource : source.validate_integrity sha = .ok ())
    (htarget : target.validate_integrity sha = .ok ())
    (hlinked : target.prior_state_digest = source.state_digest) (hlegal : LegalSuccessor source target)
    (h : Pinned sha source target) : KernelProduces sha source target := by
  have hfollows := follows_of_linked htarget hlinked
  cases hlegal with
  | proposed hs ht hrecorded =>
    have hcounter : source.program_counter = .ObservationRequired :=
      congrArg OccurrenceStateV1.program_counter hs
    have hwork := h.proposal_work _ ht hcounter
    have hretry := fun prior => h.retry _ prior ht hcounter
    rw [hs] at hwork hretry
    rw [ht] at hfollows
    obtain ⟨proposal_class, hcall⟩ := record_proposal_reproduces hsource hs hfollows hrecorded
      (h.keeps_work hs ht (by rintro ⟨⟩)) hwork hretry
    exact produces_of_apply hs ht (by rintro ⟨⟩) (.record_proposal _ _ proposal_class _ _ _)
      (applied hcall)
  | standing hs ht =>
    exact produces_of_apply hs ht (by rintro ⟨⟩) .require_standing
      (applied (require_standing_eq_ok_iff.mpr ⟨hsource, _, hs, ht ▸ hfollows⟩))
  | admitted hs ht hsame =>
    obtain ⟨now, hnow⟩ := h.admission _ ht (congrArg OccurrenceStateV1.program_counter hs)
    exact produces_of_apply hs ht (by rintro ⟨⟩) (.record_admissible _)
      (applied (record_admissible_reproduces hsource hs (ht ▸ hfollows) hsame hnow))
  | consumed hs ht hsame =>
    have hnow := h.spend _ ht (congrArg OccurrenceStateV1.program_counter hs)
    exact produces_of_apply hs ht (by rintro ⟨⟩) (.consume_authorization _)
      (applied (consume_authorization_reproduces hsource hs (ht ▸ hfollows) hsame hnow))
  | @dispatched authorized custody hs ht =>
    have hpayload := validate_payload_of_integrity htarget ht
    simp only [validate_payload, ok_rules] at hpayload
    exact produces_of_apply hs ht (by rintro ⟨⟩) (.accept_docket_custody custody)
      (applied (accept_docket_custody_eq_ok_iff.mpr ⟨hsource, _, hs, hpayload.2, ht ▸ hfollows⟩))
  | @settled dispatch settlement hs ht =>
    have hpayload := validate_payload_of_integrity htarget ht
    simp only [validate_payload, ok_rules] at hpayload
    exact produces_of_apply hs ht (by rintro ⟨⟩) (.record_settlement settlement)
      (applied (record_settlement_eq_ok_iff.mpr ⟨hsource, _, hs, hpayload.2.2, ht ▸ hfollows⟩))
  | @indeterminate dispatch indeterminate hs ht =>
    have hpayload := validate_payload_of_integrity htarget ht
    simp only [validate_payload, ok_rules] at hpayload
    exact produces_of_apply hs ht (by rintro ⟨⟩) (.require_reconciliation indeterminate)
      (applied (require_reconciliation_eq_ok_iff.mpr ⟨hsource, _, hs, hpayload.2.2, ht ▸ hfollows⟩))
  | @reconciled reconciling settlement hs ht =>
    have hpayload := validate_payload_of_integrity htarget ht
    simp only [validate_payload, ok_rules] at hpayload
    exact produces_of_apply hs ht (by rintro ⟨⟩) (.record_reconciled_settlement settlement)
      (applied (record_reconciled_settlement_eq_ok_iff.mpr
        ⟨hsource, _, hs, hpayload.2.2, ht ▸ hfollows⟩))
  | continued hs ht hcontinued hprogram =>
    exact produces_of_apply hs ht (by rintro ⟨⟩) (.open_continuation _ _)
      (applied (open_continuation_reproduces hsource hs (ht ▸ hfollows) hcontinued hprogram))
  | @halted next hsafe ht hhalted =>
    have hnothalted : source.program_counter ≠ .Halted := by
      intro hcounter
      rw [hcounter] at hsafe
      cases hsafe
    rcases halt_reproduces hsource hsafe (ht ▸ hfollows) hhalted (h.keeps_work rfl ht fun _ => by rintro ⟨⟩)
      (h.halt_prior _ ht hnothalted) with hcall | hcall
    · exact produces_of_apply rfl ht (fun _ => by rintro ⟨⟩) (.halt _) (applied hcall)
    · exact produces_of_apply rfl ht (fun _ => by rintro ⟨⟩) (.escalate _) (applied hcall)
  | @decided prev next hs ht hupdated =>
    obtain ⟨artifact, hcall⟩ := discharge_reproduces hsource hs (ht ▸ hfollows) hupdated
      (h.keeps_work hs ht (by rintro ⟨⟩)) ⟨fun _ => .error (.Unavailable "unused")⟩ (.from_digest source.state_digest)
    exact produces_of_apply hs ht (fun _ => by rintro ⟨⟩) (.apply_human_disposition _ _ _ _ _ _ _)
      (map_eq_ok_iff.mpr ⟨_, hcall, rfl⟩)
  | terminated hs ht hcompleted =>
    have hterminal := h.terminal _ ht (by rw [program_counter, hs]; rintro ⟨⟩)
    obtain ⟨artifact, hcall⟩ := termination_reproduces hsource hs (ht ▸ hfollows) hcompleted
      (h.keeps_work hs ht (by rintro ⟨⟩)) hterminal (.from_digest source.state_digest)
    exact produces_of_apply hs ht (fun _ => by rintro ⟨⟩) (.apply_human_disposition _ _ _ _ _ _ _)
      (map_eq_ok_iff.mpr ⟨_, hcall, rfl⟩)
  | completed hs ht hmetadata =>
    have hcounter : source.program_counter = .ObservationRequired :=
      congrArg OccurrenceStateV1.program_counter hs
    have hterminal := h.terminal _ ht (by rw [hcounter]; rintro ⟨⟩)
    exact produces_of_apply hs ht (by rintro ⟨⟩) (.complete_from_observation _ _ _ _ _ _)
      (applied (complete_from_observation_reproduces hsource hs (ht ▸ hfollows) hmetadata
        hterminal (h.terminal_history _ ht hcounter)))
  | probed hrunning hcounter hprobe =>
    obtain ⟨hpc, havailable⟩ := h.probe hcounter hrunning
    have hwork := h.keeps_work rfl rfl fun hsettled hobservation => by
      change source.program_counter = _ at hsettled
      change target.program_counter = _ at hobservation
      rw [hcounter, hobservation] at hsettled
      cases hsettled
    exact produces_of_apply rfl rfl (fun hhalted => absurd hhalted hrunning) .note_probe
      (applied (note_probe_reproduces hsource hfollows hprobe hwork hpc havailable))
  | @resumed halted next hs ht hresolved hcontinued =>
    have hconsumed := h.resumption halted hs (congrArg OccurrenceStateV1.program_counter ht)
    obtain ⟨current, artifact, hcall⟩ := resumption_reproduces hsource hs (ht ▸ hfollows) hresolved
      hcontinued (h.keeps_work hs ht (by rintro ⟨⟩)) hconsumed ⟨fun _ => .error (.Unavailable "unused")⟩
      (.from_digest source.state_digest)
    rw [KernelProduces, if_pos ⟨congrArg OccurrenceStateV1.program_counter hs,
      congrArg OccurrenceStateV1.program_counter ht⟩]
    exact ⟨.apply_human_disposition _ _ _ _ _ _ _, current, map_eq_ok_iff.mpr ⟨_, hcall, rfl⟩⟩

/-- Membrane soundness, with its exact gap. A pair the membrane accepts is one the
kernel can have produced exactly when it is pinned where the transition table does
not compare. -/
theorem kernel_produces_iff_pinned (haccepted : validate_successor sha source target = .ok ()) :
    KernelProduces sha source target ↔ Pinned sha source target := by
  obtain ⟨hsource, htarget, hlinked, hlegal⟩ := validate_successor_eq_ok_iff.mp haccepted
  exact ⟨pinned_of_produces, produces_of_pinned hsource htarget hlinked hlegal⟩

/-- A halt of a created campaign is accepted and can be produced. -/
theorem kernel_produces_iff_pinned_halt :
    ∃ current halted : OccurrenceSnapshotV1, validate_successor ideal_sha current halted = .ok () ∧
      KernelProduces ideal_sha current halted ∧
      (KernelProduces ideal_sha current halted ↔ Pinned ideal_sha current halted) := by
  obtain ⟨current, hcreated, hintegrity, hcounter⟩ := created_sample ideal_sha
  have hstate := (create_initial_eq_ok hcreated).2
  obtain ⟨halted, hhalt⟩ := halt_ok hintegrity (by rw [hcounter]; rfl) ⟨⟨[5]⟩⟩
  have hfollows := (halt_eq_ok_iff.mp hhalt).2.2
  have hlegal : LegalSuccessor current halted :=
    .halted (by rw [hcounter]; rfl) hfollows.state_eq
      (halted_from_halted current _ ⟨rfl, rfl, rfl, rfl, rfl, .inl rfl⟩)
  have haccepted := validate_successor_eq_ok_iff.mpr
    ⟨hintegrity, hfollows.integrity, hfollows.prior_eq, hlegal⟩
  have hproduced : KernelProduces ideal_sha current halted :=
    produces_of_apply hstate hfollows.state_eq (by rintro ⟨⟩) (.halt ⟨⟨[5]⟩⟩) (applied hhalt)
  exact ⟨current, halted, haccepted, hproduced, kernel_produces_iff_pinned haccepted⟩

/-- The halted state of `current` with other expected work bound to it. -/
def rebound_halt (current : OccurrenceSnapshotV1) (expected_work : Digest) (reason : HaltReasonRefV1) :
    HaltedV1 :=
  halted_from current { current.state.metadata with expected_work } reason

/-- The membrane lets a halt bind other work to the occurrence it halts. -/
theorem rebound_halt_accepted {current : OccurrenceSnapshotV1}
    (hintegrity : current.validate_integrity sha = .ok ())
    (hsafe : is_safe_halt_source current.program_counter = true) (expected_work : Digest)
    (reason : HaltReasonRefV1) :
    validate_successor sha current
      (successor_snapshot sha current (.Halted (rebound_halt current expected_work reason))) = .ok () := by
  obtain ⟨halted, hhalt⟩ := halt_ok hintegrity hsafe reason
  have hhalted := (halt_eq_ok_iff.mp hhalt).2.2
  obtain ⟨hbudget, hnodup, _, hpayload⟩ := checks_of_integrity hhalted.integrity hhalted.state_eq
  have hfollows : Follows sha current (.Halted (rebound_halt current expected_work reason)) _ :=
    follows_within hbudget hnodup (by rintro ⟨⟩) (by rintro _ ⟨⟩) hpayload
  refine validate_successor_eq_ok_iff.mpr ⟨hintegrity, hfollows.integrity, hfollows.prior_eq,
    .halted hsafe rfl ⟨rfl, rfl, rfl, rfl, rfl, ?_, rfl, rfl, rfl⟩⟩
  exact ⟨rfl, rfl, rfl, rfl, rfl, .inl rfl⟩

/-- A created campaign, and a halt of it that binds other work: accepted by the
membrane, and nothing the kernel can produce. -/
theorem rebound_halt_not_produced :
    ∃ current : OccurrenceSnapshotV1,
      create_initial ideal_sha ⟨⟨[]⟩⟩ ⟨0⟩ ⟨⟨[]⟩⟩ ⟨[1]⟩ ⟨[], .nil⟩ ⟨0, 0, 0, 0, 0, 0⟩ = .ok current ∧
      validate_successor ideal_sha current
        (successor_snapshot ideal_sha current (.Halted (rebound_halt current ⟨[2]⟩ ⟨⟨[5]⟩⟩))) = .ok () ∧
      ¬ KernelProduces ideal_sha current
        (successor_snapshot ideal_sha current (.Halted (rebound_halt current ⟨[2]⟩ ⟨⟨[5]⟩⟩))) := by
  obtain ⟨current, hcreated, hintegrity, hcounter⟩ := created_sample ideal_sha
  have hstate := (create_initial_eq_ok hcreated).2
  refine ⟨current, hcreated, rebound_halt_accepted hintegrity (by rw [hcounter]; rfl) _ _, ?_⟩
  intro hproduced
  have hwork : (⟨[2]⟩ : Digest) = ⟨[1]⟩ := (pinned_of_produces hproduced).keeps_work hstate rfl (by rintro ⟨⟩)
  exact absurd hwork (by decide)

end ag_campaign.governed

import AgentGovernor.Governed.Reproduce

open ag_primitives Checked Windows

namespace ag_campaign.governed

open GovernedLoopKernelV1

variable {sha : Sha256} {source target : OccurrenceSnapshotV1}

def HumanDispositionVerifierV1.answering (answer : HumanVerificationRefV1) : HumanDispositionVerifierV1 :=
  ⟨fun _ => .ok answer⟩

/-- An artifact bound to one halted snapshot. -/
def bound_artifact (source : OccurrenceSnapshotV1) (halted : HaltedV1) (decision : HumanDecisionIdV1)
    (disposition : HumanDispositionKindV1) (expires_at_unix_ms : UInt64) : HumanDispositionV1 :=
  { schema := HUMAN_DISPOSITION_SCHEMA_V1
    campaign := halted.metadata.key.campaign
    occurrence := halted.metadata.key.occurrence
    halted_state_digest := source.state_digest
    disposition
    decision
    principal := .from_digest source.state_digest
    mandate := .from_digest source.state_digest
    nonce := .from_digest source.state_digest
    expires_at_unix_ms }

def HumanDispositionV1.scope (artifact : HumanDispositionV1) : HumanAuthorityScopeV1 :=
  { principal := artifact.principal, mandate := artifact.mandate }

variable {decision : HumanDecisionIdV1} {halted : HaltedV1}

theorem bound_artifact_applicable (disposition : HumanDispositionKindV1) {expires now : UInt64}
    (hnow : now < expires)
    (hunused : decision ∉ halted.metadata.used_human_decisions) :
    ApplicableArtifact source halted (bound_artifact source halted decision disposition expires)
      (bound_artifact source halted decision disposition expires).scope now :=
  ⟨rfl, rfl, rfl, rfl, hnow, rfl, rfl, hunused⟩

/-- A canonical set is determined by its members. -/
theorem ResidualSetV1.eq_of_mem_iff {left right : List ResidualObligationV1}
    (hleft : left.Pairwise fun first second => first.residual < second.residual)
    (hright : right.Pairwise fun first second => first.residual < second.residual)
    (hmem : ∀ item, item ∈ left ↔ item ∈ right) : left = right := by
  have hnodup : ∀ {items : List ResidualObligationV1},
      items.Pairwise (fun first second => first.residual < second.residual) → items.Nodup :=
    fun h => h.imp fun hlt heq => absurd (congrArg ResidualObligationV1.residual heq) hlt.ne
  have hperm : left.Perm right :=
    (List.perm_ext_iff_of_nodup (hnodup hleft) (hnodup hright)).mpr hmem
  exact hperm.eq_of_pairwise (fun _ _ _ _ hlt hgt => absurd hlt hgt.asymm) hleft hright

/-- The accounting that closes everything but `remaining`. -/
def discharge_to (halted : HaltedV1) (remaining : ResidualSetV1) (decision : HumanDecisionIdV1) :
    ExactResidualDischargeV1 :=
  let ids := halted.metadata.residuals.obligations.map ResidualObligationV1.residual
  let after := remaining.obligations.map ResidualObligationV1.residual
  let closed := ids.filter (· ∉ after)
  { campaign := halted.metadata.key.campaign
    occurrence := halted.metadata.key.occurrence
    program := halted.metadata.program
    authority := .from_digest halted.metadata.key.campaign.as_digest
    disposition := decision
    before := ids
    authorized := closed
    closed
    after }

/-- A subset of the obligations is what a filter by its identities leaves. -/
theorem ResidualSetV1.eq_filter_of_ids {residuals remaining : ResidualSetV1} {kept : Finset ResidualIdV1}
    (hretained : ∀ item ∈ remaining.obligations, item ∈ residuals.obligations) (hids : kept = remaining.ids) :
    remaining.obligations = residuals.obligations.filter fun item => item.residual ∈ kept := by
  refine ResidualSetV1.eq_of_mem_iff remaining.canonical (residuals.canonical.filter _) fun item => ?_
  simp only [hids, List.mem_filter, ResidualSetV1.ids, List.mem_toFinset, decide_eq_true_eq]
  constructor
  · exact fun hitem => ⟨hretained item hitem, List.mem_map_of_mem hitem⟩
  · rintro ⟨hitem, hid⟩
    obtain ⟨other, hother, hsame⟩ := List.mem_map.mp hid
    exact residuals.eq_of_residual_eq (hretained other hother) hitem hsame ▸ hother

theorem discharge_to_exact {remaining : ResidualSetV1}
    (hretained : ∀ item ∈ remaining.obligations, item ∈ halted.metadata.residuals.obligations) :
    ExactDischarge halted (discharge_to halted remaining decision) decision remaining := by
  have hids : ∀ residuals : ResidualSetV1,
      (residuals.obligations.map ResidualObligationV1.residual).Nodup := fun residuals =>
    List.pairwise_map.mpr (residuals.canonical.imp fun hlt => hlt.ne)
  refine
    { campaign := rfl, occurrence := rfl, program := rfl, disposition := rfl
      nodup := ⟨hids _, (hids _).filter _, (hids _).filter _, hids _⟩
      before_eq := rfl, authorized_eq := rfl
      disjoint := ?_, union := ?_, remaining_eq := ?_ }
  · rw [Finset.disjoint_left]
    intro id hclosed hafter
    simp only [discharge_to, List.mem_toFinset, List.mem_filter, decide_eq_true_eq] at hclosed hafter
    exact hclosed.2 hafter
  · ext id
    simp only [discharge_to, List.mem_toFinset, Finset.mem_union, List.mem_filter, decide_eq_true_eq]
    constructor
    · intro hid
      by_cases hafter : id ∈ remaining.obligations.map ResidualObligationV1.residual
      · exact .inr hafter
      · exact .inl ⟨hid, hafter⟩
    · rintro (⟨hid, _⟩ | hafter)
      · exact hid
      · obtain ⟨item, hitem, rfl⟩ := List.mem_map.mp hafter
        exact List.mem_map_of_mem (hretained item hitem)
  · exact ResidualSetV1.eq_filter_of_ids hretained rfl

/-- The decision a sound halted state consumed last is new to its predecessor. -/
theorem unused_of_appended {metadata : OccurrenceMetaV1} {before : List HumanDecisionIdV1}
    (hnodup : metadata.used_human_decisions.Nodup)
    (happended : metadata.used_human_decisions = before ++ [decision]) : decision ∉ before := by
  rw [happended, List.nodup_append] at hnodup
  exact fun hmem => hnodup.2.2 decision hmem decision (by simp) rfl

/-- A halted state that consumed one decision and kept its expected work differs from its
predecessor in that decision and in the residuals only. -/
theorem HaltUpdated.eq_discharge {prev next : HaltedV1} (hupdated : HaltUpdated prev next)
    (hexpected : next.metadata.expected_work = prev.metadata.expected_work)
    (happended : next.metadata.used_human_decisions = prev.metadata.used_human_decisions ++ [decision]) :
    next = prev.discharge next.metadata.residuals decision := by
  obtain ⟨hsource, hreason, hprior, hattempt, hhistory, hkey, hprogram, hbudget, _, _⟩ := hupdated
  obtain ⟨⟨key, program, expected_work, residuals, budget, used⟩, _, _, _, _, _⟩ := next
  simp_all [HaltedV1.discharge, OccurrenceMetaV1.consume_decision]

variable (hintegrity : source.validate_integrity sha = .ok ())

include hintegrity

/-- A halted state that consumed one decision, kept its expected work and only
closed residuals is what discharging those residuals again gives. -/
theorem discharge_reproduces {prev next : HaltedV1}
    (hs : source.state = .Halted prev) (ht : Follows sha source (.Halted next) target)
    (hupdated : HaltUpdated prev next) (hexpected : next.metadata.expected_work = prev.metadata.expected_work)
    (resolver : ObservationResolverV1) (verification : HumanVerificationRefV1) :
    ∃ artifact, apply_human_disposition sha source artifact artifact.scope none resolver ""
      (.answering verification) 0 = .ok (.Updated target verification) := by
  obtain ⟨decision, happended⟩ := exactly_one_appended_iff.mp hupdated.appended
  have hnodup := used_nodup_of_integrity ht.integrity
  rw [ht.state_eq] at hnodup
  have hunused : decision ∉ prev.metadata.used_human_decisions := unused_of_appended hnodup happended
  have hnext := hupdated.eq_discharge hexpected happended
  refine ⟨bound_artifact source prev decision
    (.ExactResidualDisposition (discharge_to prev next.metadata.residuals decision)) 1, ?_⟩
  refine apply_human_disposition_eq_ok_iff.mpr ⟨hintegrity, prev, verification, hs,
    bound_artifact_applicable _ (by decide) hunused, rfl, .discharged rfl rfl
      (discharge_to_exact hupdated.retained) ?_⟩
  exact hnext ▸ ht

/-- A completion of a halted state that kept its expected work, with a sound
terminal observation, is what terminating it again gives. -/
theorem termination_reproduces {prev : HaltedV1} {next : CompletedV1} (hs : source.state = .Halted prev)
    (ht : Follows sha source (.Completed next) target) (hcompleted : HumanCompleted prev next)
    (hexpected : next.metadata.expected_work = prev.metadata.expected_work)
    (hterminal : SoundObservation sha next.terminal_observation) (verification : HumanVerificationRefV1) :
    ∃ artifact, apply_human_disposition sha source artifact artifact.scope none (.answering next.terminal_observation)
      next.terminal_observation.resolver_id (.answering verification)
      next.terminal_observation.resolved_at_unix_ms = .ok (.Updated target verification) := by
  obtain ⟨decision, happended⟩ := exactly_one_appended_iff.mp hcompleted.appended
  have hnodup := used_nodup_of_integrity ht.integrity
  rw [ht.state_eq] at hnodup
  have hunused : decision ∉ prev.metadata.used_human_decisions := unused_of_appended hnodup happended
  have hpayload := validate_payload_of_integrity ht.integrity ht.state_eq
  simp only [validate_payload, ok_rules, Bool.not_eq_false] at hpayload
  obtain ⟨_, hkey, hcurrent⟩ := hpayload
  have hresolved := hterminal.resolve hcurrent (UInt64.le_refl _) hterminal.window
  rw [hkey, ← hcompleted.key] at hresolved
  have hresiduals : next.metadata.residuals = prev.metadata.residuals := by
    have hprev := hcompleted.cleared
    have hnext := hcompleted.remains_cleared
    rw [ResidualSetV1.is_empty, List.isEmpty_iff] at hprev hnext
    exact ResidualSetV1.ext (hnext.trans hprev.symm)
  have hmetadata : next.metadata = prev.metadata.consume_decision decision :=
    OccurrenceMetaV1.ext hcompleted.key.symm hcompleted.program.symm hexpected hresiduals
      hcompleted.budget.symm happended
  refine ⟨bound_artifact source prev decision (.Terminate next.terminal_observation.observation
    next.terminal_observation.subject next.terminal_witness)
    next.terminal_observation.fresh_until_unix_ms, ?_⟩
  refine apply_human_disposition_eq_ok_iff.mpr ⟨hintegrity, prev, verification, hs,
    bound_artifact_applicable _ hterminal.window hunused, rfl, .terminated rfl rfl hcompleted.resolved
      hcompleted.cleared (resolve_observation_eq_ok_iff.mpr ⟨rfl, hresolved⟩) ?_⟩
  change Follows sha source (.Completed
    { metadata := prev.metadata.consume_decision decision
      terminal_observation := next.terminal_observation
      terminal_witness := next.terminal_witness, history := prev.history }) target
  rw [← hmetadata, hcompleted.history]
  exact ht

/-- The halted state before its last decision was consumed. -/
def HaltedV1.before_decision (halted : HaltedV1) : HaltedV1 :=
  { halted with
    metadata := { halted.metadata with
      used_human_decisions := halted.metadata.used_human_decisions.dropLast } }

/-- The snapshot is a halt that consumed one more decision than the halted state
its own predecessor digest names. -/
def ConsumedDecision (sha : Sha256) (source : OccurrenceSnapshotV1) (halted : HaltedV1) : Prop :=
  halted.metadata.used_human_decisions ≠ [] ∧
    ∃ prior, source.prior_state_digest = state_digest sha prior (.Halted halted.before_decision)

/-- An occurrence opened with the halted expected work, after a halt that consumed
a decision, is the second half of the disposition that consumed it. -/
theorem resumption_reproduces {next : ObservationRequiredV1} (hs : source.state = .Halted halted)
    (ht : Follows sha source (.ObservationRequired next) target) (hresolved : halted.unresolved_attempt = none)
    (hcontinued : ContinuedFrom source halted.prior.proposal halted.prior.normalized_preconditions next)
    (hexpected : next.metadata.expected_work = halted.metadata.expected_work)
    (hconsumed : ConsumedDecision sha source halted) (resolver : ObservationResolverV1)
    (verification : HumanVerificationRefV1) :
    ∃ current artifact, apply_human_disposition sha current artifact artifact.scope
      (some next.metadata.key.occurrence) resolver "" (.answering verification) 0 =
        .ok (.OpenedOccurrence source target verification) := by
  obtain ⟨hused, prior, hprior⟩ := hconsumed
  let prev := halted.before_decision
  let decision := halted.metadata.used_human_decisions.getLast hused
  let current : OccurrenceSnapshotV1 :=
    { prior_state_digest := prior, state_digest := source.prior_state_digest, state := .Halted prev }
  have happended : halted.metadata.used_human_decisions =
      prev.metadata.used_human_decisions ++ [decision] :=
    (List.dropLast_append_getLast hused).symm
  obtain ⟨hbudget, _, _, hvalid⟩ := validate_integrity_eq_ok_iff.mp hintegrity
  obtain ⟨hnodup, _, hpayload⟩ := validate_state_eq_ok_iff.mp hvalid
  rw [hs] at hbudget hnodup hpayload
  have hcurrent : current.validate_integrity sha = .ok () := by
    refine validate_integrity_eq_ok_iff.mpr ⟨hbudget, hprior.symm, nofun,
      validate_state_eq_ok_iff.mpr ⟨?_, nofun, hpayload⟩⟩
    exact hnodup.sublist (List.dropLast_sublist _)
  have hconsume : prev.consume decision = halted := by
    rw [HaltedV1.consume, OccurrenceMetaV1.consume_decision, ← happended]
    rfl
  have hsource : Follows sha current (.Halted (prev.consume decision)) source := by
    rw [hconsume, ← hs]
    exact follows_of_linked hintegrity rfl
  have hnext : next = resumed_from source halted next.metadata.key.occurrence next.metadata.program := by
    obtain ⟨_, hcampaign, hprior, hresiduals, hbudget, hused⟩ := hcontinued
    obtain ⟨⟨⟨campaign, occurrence⟩, program, expected_work, residuals, budget, used⟩, prior⟩ := next
    simp_all [resumed_from, OccurrenceSnapshotV1.key, OccurrenceStateV1.metadata]
  have hdistinct : next.metadata.key.occurrence ≠ prev.metadata.key.occurrence := by
    intro hoccurrence
    refine hcontinued.distinct (OccurrenceKeyV1.ext hcontinued.campaign ?_)
    rw [hoccurrence, OccurrenceSnapshotV1.key, hs]
    rfl
  have hopens : ∃ disposition, OpensUnder prev disposition next.metadata.program := by
    by_cases hprogram : next.metadata.program = prev.metadata.program
    · exact ⟨.ReturnToObservation, by rw [hprogram]; exact .return_to_observation⟩
    · exact ⟨_, .replace_program hprogram⟩
  obtain ⟨disposition, hopens⟩ := hopens
  refine ⟨current, bound_artifact current prev decision disposition 1, ?_⟩
  refine apply_human_disposition_eq_ok_iff.mpr ⟨hcurrent, prev, verification, rfl,
    bound_artifact_applicable _ (by decide) (unused_of_appended hnodup happended), rfl,
    .opened hopens hresolved rfl hdistinct hsource ?_⟩
  change Follows sha source (.ObservationRequired (resumed_from source (prev.consume decision)
    next.metadata.key.occurrence next.metadata.program)) target
  rw [hconsume, ← hnext]
  exact ht

end ag_campaign.governed

import AgentGovernor.Governed.ReproduceHuman

open ag_primitives Checked

namespace ag_campaign.governed

open GovernedLoopKernelV1

variable {sha : Sha256} {current : OccurrenceSnapshotV1}

section Proposal

variable {pending : ObservationRequiredV1} {proposal : ExactWorkProposalV1}
  {proposal_class : ProposalClassV1} {link : OccurrenceLinkV1}

/-- A link names the occurrence of the basis it was classified against. -/
theorem GovernedLoopKernelV1.Classified.exists_prior {resolved : VersionedObservationResolutionV1}
    {metadata : OccurrenceMetaV1}
    (h : Classified sha pending proposal resolved proposal_class link metadata) {key : OccurrenceKeyV1}
    (hkey : link.linked = some key) : ∃ prior, pending.prior = some prior ∧ prior.key = key := by
  cases h with
  | initial => cases hkey
  | retry hprior | successor hprior => exact ⟨_, hprior, Option.some.inj hkey⟩

/-- A well-formed proposal for the exact work can be recorded under every class that
its budget allows. -/
theorem record_proposal_ok {metadata : OccurrenceMetaV1} (observation : ObservationRefV1)
    (hintegrity : current.validate_integrity sha = .ok ())
    (hstate : current.state = .ObservationRequired pending) (hvalid : proposal.validate = .ok ())
    (hcampaign : proposal.campaign = pending.metadata.key.campaign)
    (hwork : proposal.work = pending.metadata.expected_work)
    (hclass : Classified sha pending proposal
      (typed_observation sha pending.metadata.key observation proposal.subject) proposal_class link metadata)
    (hbudget : metadata.budget.validate = .ok ()) :
    ∃ next, record_proposal sha current observation proposal proposal_class
        (.answering (typed_observation sha pending.metadata.key observation proposal.subject)) "observer" 0 =
        .ok next ∧
      next.validate_integrity sha = .ok () ∧
      next.state = .ProposalRecorded { recorded_basis sha pending proposal observation with metadata, link } := by
  obtain ⟨_, hnodup, _, hpayload⟩ := checks_of_integrity hintegrity hstate
  obtain ⟨budget, rfl⟩ := hclass.metadata_eq
  have hobserved := typed_observation_resolved sha pending.metadata.key observation proposal.subject
  have hlink : ∀ key, link.linked = some key →
      key ≠ pending.metadata.key ∧ key.campaign = pending.metadata.key.campaign := by
    intro key hkey
    obtain ⟨prior, hprior, rfl⟩ := hclass.exists_prior hkey
    simpa [validate_payload, hprior, reject_eq_ok_iff] using hpayload
  let recorded : ProposalBasisV1 :=
    { recorded_basis sha pending proposal observation with
      metadata := { pending.metadata with budget }
      link }
  have hbasis : validate_proposal_basis sha recorded.metadata recorded = .ok () :=
    validate_proposal_basis_eq_ok_iff.mpr ⟨hvalid, hobserved.sound, hcampaign, hobserved.key_eq, rfl,
      hobserved.subject_eq, hobserved.current, hlink⟩
  obtain ⟨next, hfollows⟩ : ∃ next, Follows sha current (.ProposalRecorded recorded) next := by
    refine ⟨_, follows_within hbudget hnodup (by rintro ⟨⟩) ?_ rfl⟩
    rintro _ ⟨⟩
    exact hbasis
  exact ⟨_, record_proposal_eq_ok_iff.mpr ⟨hintegrity, pending, _, link, _, hstate, hvalid,
    hcampaign, hwork, resolve_observation_eq_ok_iff.mpr ⟨rfl, hobserved⟩, hclass, hfollows⟩,
    hfollows.integrity, hfollows.state_eq⟩

/-- A proposal of the given work that cites no repair. -/
def plain_proposal (campaign : CampaignId) (work : Digest) : ExactWorkProposalV1 :=
  { schema := EXACT_WORK_PROPOSAL_SCHEMA_V1, campaign, subject := work, scope := work, work_schema := "work"
    work, repair := none }

theorem plain_proposal_valid (campaign : CampaignId) (work : Digest) :
    (plain_proposal campaign work).validate = .ok () := by
  simp only [ExactWorkProposalV1.validate, ok_rules]
  exact ⟨by simp [plain_proposal], (by rfl : validate_label "exact-work schema" "work" = .ok ())⟩

end Proposal

section Docket

/-- Some digest is none of those given. -/
theorem exists_fresh_digest (used : List Digest) : ∃ digest, digest ∉ used := by
  have hinfinite : Infinite Digest := .of_injective (fun n => ⟨List.replicate n 0⟩) fun left right h => by
    simpa using congrArg (fun digest : Digest => digest.hex.length) h
  obtain ⟨digest, hfresh⟩ := Infinite.exists_notMem_finset used.toFinset
  exact ⟨digest, by simpa using hfresh⟩

variable {authorized : AuthorizationConsumedV1} {dispatch : DispatchBasisV1}

variable (hintegrity : current.validate_integrity sha = .ok ())

include hintegrity

/-- Docket can take exact custody of every spent authorization. -/
theorem accept_docket_custody_ok (hstate : current.state = .AuthorizationConsumed authorized) :
    ∃ custody next, accept_docket_custody sha current custody = .ok next ∧
      next.validate_integrity sha = .ok () ∧ next.state = .Dispatched { authorized, custody } := by
  obtain ⟨hbudget, hnodup, hbasis, hpayload⟩ := checks_of_integrity hintegrity hstate
  let attempt := DocketAttemptRefV1.for_issuance sha authorized.issuance.issuance
  obtain ⟨standing, hstanding⟩ :=
    exists_fresh_digest [authorized.spend.spend.as_digest, authorized.spend.authorization.as_digest]
  obtain ⟨marker, hmarker⟩ := exists_fresh_digest [standing, authorized.spend.spend.as_digest,
    authorized.spend.authorization.as_digest, attempt.as_digest]
  let custody : DocketCustodyV1 :=
    { schema := DOCKET_CUSTODY_SCHEMA_V1
      issuance := authorized.issuance.issuance
      ag_spend := authorized.spend.spend
      execution_standing := .from_digest standing
      standing_currentness := .from_digest standing
      attempt
      executor_marker := .from_digest marker
      accepted_at_unix_ms := 0 }
  have hcustody : validate_custody sha custody authorized = .ok () := by
    simp only [validate_custody, ok_rules]
    exact ⟨rfl, rfl, rfl, by simpa using hstanding, rfl, by simpa using hmarker⟩
  obtain ⟨next, hfollows⟩ : ∃ next, Follows sha current (.Dispatched { authorized, custody }) next := by
    refine ⟨_, follows_within hbudget hnodup (by rintro ⟨⟩) hbasis ?_⟩
    simp only [validate_payload, ok_rules]
    exact ⟨hpayload, hcustody⟩
  exact ⟨custody, _, accept_docket_custody_eq_ok_iff.mpr ⟨hintegrity, authorized, hstate, hcustody, hfollows⟩,
    hfollows.integrity, hfollows.state_eq⟩

/-- The settlement of exactly the dispatched attempt. -/
def exact_settlement (dispatch : DispatchBasisV1) (receipt : ReceiptRefV1) : DocketSettlementV1 :=
  { schema := DOCKET_SETTLEMENT_SCHEMA_V1
    settlement := .from_digest receipt.as_digest
    issuance := dispatch.authorized.issuance.issuance
    attempt := dispatch.custody.attempt
    executor_marker := dispatch.custody.executor_marker
    receipt
    outcome := .Success
    settled_at_unix_ms := 0 }

omit hintegrity in
theorem exact_settlement_valid (dispatch : DispatchBasisV1) (receipt : ReceiptRefV1) :
    validate_settlement (exact_settlement dispatch receipt) dispatch = .ok () := by
  simp [validate_settlement, exact_settlement, reject]
  rfl

/-- A dispatch whose own checks passed can be followed by its exact settlement. -/
theorem settlement_follows {state : OccurrenceStateV1} (receipt : ReceiptRefV1) (hstate : current.state = state)
    (hmetadata : state.metadata = dispatch.authorized.admitted.proposal.metadata)
    (hproposal : state.proposal_basis = some dispatch.authorized.admitted.proposal)
    (hauthorized : validate_authorized sha dispatch.authorized = .ok ())
    (hcustody : validate_custody sha dispatch.custody dispatch.authorized = .ok ()) :
    ∃ next, Follows sha current (.SettledObservationRequired
      { dispatch, settlement := exact_settlement dispatch receipt }) next := by
  obtain ⟨hbudget, hnodup, hbasis, _⟩ := checks_of_integrity hintegrity hstate
  rw [hmetadata] at hbudget hnodup hbasis
  refine ⟨_, follows_within hbudget hnodup (by rintro ⟨⟩) ?_ ?_⟩
  · rintro basis ⟨⟩
    exact hbasis _ hproposal
  · simp only [validate_payload, ok_rules]
    exact ⟨hauthorized, hcustody, exact_settlement_valid dispatch receipt⟩

/-- Every dispatched attempt can be settled. -/
theorem record_settlement_ok (receipt : ReceiptRefV1) (hstate : current.state = .Dispatched dispatch) :
    ∃ settlement next, record_settlement sha current settlement = .ok next ∧
      next.validate_integrity sha = .ok () ∧
      next.state = .SettledObservationRequired { dispatch, settlement } := by
  obtain ⟨_, _, _, hpayload⟩ := checks_of_integrity hintegrity hstate
  simp only [validate_payload, ok_rules] at hpayload
  obtain ⟨next, hnext⟩ := settlement_follows hintegrity receipt hstate rfl rfl hpayload.1 hpayload.2
  exact ⟨_, next, record_settlement_eq_ok_iff.mpr ⟨hintegrity, dispatch, hstate,
    exact_settlement_valid dispatch receipt, hnext⟩, hnext.integrity, hnext.state_eq⟩

/-- Every attempt with an unknown outcome can be settled by reconciliation. -/
theorem record_reconciled_settlement_ok {reconciling : ReconciliationRequiredV1} (receipt : ReceiptRefV1)
    (hstate : current.state = .ReconciliationRequired reconciling) :
    ∃ settlement next, record_reconciled_settlement sha current settlement = .ok next ∧
      next.validate_integrity sha = .ok () ∧
      next.state = .SettledObservationRequired { dispatch := reconciling.dispatch, settlement } := by
  obtain ⟨_, _, _, hpayload⟩ := checks_of_integrity hintegrity hstate
  simp only [validate_payload, ok_rules] at hpayload
  obtain ⟨next, hnext⟩ := settlement_follows hintegrity receipt hstate rfl rfl hpayload.1 hpayload.2.1
  exact ⟨_, next, record_reconciled_settlement_eq_ok_iff.mpr ⟨hintegrity, reconciling, hstate,
    exact_settlement_valid reconciling.dispatch receipt, hnext⟩, hnext.integrity, hnext.state_eq⟩

/-- Every dispatched attempt can turn out indeterminate. -/
theorem require_reconciliation_ok (evidence : Digest) (hstate : current.state = .Dispatched dispatch) :
    ∃ indeterminate next, require_reconciliation sha current indeterminate = .ok next ∧
      next.validate_integrity sha = .ok () ∧
      next.state = .ReconciliationRequired { dispatch, indeterminate } := by
  obtain ⟨hbudget, hnodup, hbasis, hpayload⟩ := checks_of_integrity hintegrity hstate
  simp only [validate_payload, ok_rules] at hpayload
  let indeterminate : IndeterminateOutcomeV1 :=
    { issuance := dispatch.authorized.issuance.issuance
      attempt := dispatch.custody.attempt
      reconciliation := .from_digest evidence
      evidence }
  have hvalid : validate_indeterminate indeterminate dispatch = .ok () := by
    simp [validate_indeterminate, indeterminate, reject]
    rfl
  obtain ⟨next, hfollows⟩ : ∃ next, Follows sha current (.ReconciliationRequired { dispatch, indeterminate }) next := by
    refine ⟨_, follows_within hbudget hnodup (by rintro ⟨⟩) hbasis ?_⟩
    simp only [validate_payload, ok_rules]
    exact ⟨hpayload.1, hpayload.2, hvalid⟩
  exact ⟨indeterminate, _, require_reconciliation_eq_ok_iff.mpr ⟨hintegrity, dispatch, hstate, hvalid, hfollows⟩,
    hfollows.integrity, hfollows.state_eq⟩

end Docket

section Human

variable {halted : HaltedV1} {decision : HumanDecisionIdV1}

theorem nodup_consumed {used : List HumanDecisionIdV1} (hnodup : used.Nodup) (hunused : decision ∉ used) :
    (used ++ [decision]).Nodup := by
  rw [← List.concat_eq_append]
  exact hnodup.concat hunused

variable (hintegrity : current.validate_integrity sha = .ok ()) (hstate : current.state = .Halted halted)
  (hunused : decision ∉ halted.metadata.used_human_decisions)

include hintegrity hstate hunused

/-- A halted state that consumes an unused decision stays sound. -/
theorem consume_follows :
    Follows sha current (.Halted (halted.consume decision))
      (successor_snapshot sha current (.Halted (halted.consume decision))) := by
  obtain ⟨hbudget, hnodup, _, hpayload⟩ := checks_of_integrity hintegrity hstate
  exact follows_within hbudget (nodup_consumed hnodup hunused) (by rintro ⟨⟩) (by rintro _ ⟨⟩) hpayload

omit hintegrity hstate hunused in
theorem exists_unused_decision (halted : HaltedV1) :
    ∃ decision : HumanDecisionIdV1, decision ∉ halted.metadata.used_human_decisions := by
  obtain ⟨digest, hfresh⟩ := exists_fresh_digest (halted.metadata.used_human_decisions.map (·.as_digest))
  exact ⟨.from_digest digest, fun hmem => hfresh (List.mem_map.mpr ⟨_, hmem, rfl⟩)⟩

/-- All residuals of a halted occurrence can be discharged at once. -/
theorem discharge_all_ok
    (resolver : ObservationResolverV1) (expected : String) (verification : HumanVerificationRefV1) :
    ∃ artifact next, apply_human_disposition sha current artifact artifact.scope none resolver expected
        (.answering verification) 0 = .ok (.Updated next verification) ∧
      next.validate_integrity sha = .ok () ∧ next.state = .Halted (halted.discharge ⟨[], .nil⟩ decision) := by
  obtain ⟨hbudget, hnodup, _, hpayload⟩ := checks_of_integrity hintegrity hstate
  have hfollows : Follows sha current (.Halted (halted.discharge ⟨[], .nil⟩ decision)) _ :=
    follows_within hbudget (nodup_consumed hnodup hunused) (by rintro ⟨⟩) (by rintro _ ⟨⟩) hpayload
  exact ⟨bound_artifact current halted decision
      (.ExactResidualDisposition (discharge_to halted ⟨[], .nil⟩ decision)) 1, _,
    apply_human_disposition_eq_ok_iff.mpr ⟨hintegrity, halted, verification, hstate,
      bound_artifact_applicable _ (by decide) hunused, rfl,
      .discharged rfl rfl (discharge_to_exact (by simp)) hfollows⟩,
    hfollows.integrity, hfollows.state_eq⟩

/-- The state a halted occurrence is terminated in. -/
def terminated (sha : Sha256) (halted : HaltedV1) (decision : HumanDecisionIdV1) (observation : ObservationRefV1)
    (subject : Digest) : CompletedV1 :=
  { metadata := halted.metadata.consume_decision decision
    terminal_observation := typed_observation sha halted.metadata.key observation subject
    terminal_witness := .from_digest subject
    history := halted.history }

/-- The artifact that terminates it. -/
def termination (current : OccurrenceSnapshotV1) (halted : HaltedV1) (decision : HumanDecisionIdV1)
    (observation : ObservationRefV1) (subject : Digest) : HumanDispositionV1 :=
  bound_artifact current halted decision (.Terminate observation subject (.from_digest subject)) 1

/-- A halt without residuals and without an unresolved attempt can be terminated. -/
theorem terminate_ok (hresolved : halted.unresolved_attempt = none)
    (hempty : halted.metadata.residuals.is_empty = true) (observation : ObservationRefV1)
    (subject : Digest) (verification : HumanVerificationRefV1) :
    ∃ next, apply_human_disposition sha current (termination current halted decision observation subject)
        (termination current halted decision observation subject).scope none
        (.answering (typed_observation sha halted.metadata.key observation subject)) "observer"
        (.answering verification) 0 = .ok (.Updated next verification) ∧
      next.state = .Completed (terminated sha halted decision observation subject) := by
  obtain ⟨hbudget, hnodup, _, _⟩ := checks_of_integrity hintegrity hstate
  have hobserved := typed_observation_resolved sha halted.metadata.key observation subject
  obtain ⟨next, hfollows⟩ : ∃ next, Follows sha current
      (.Completed (terminated sha halted decision observation subject)) next := by
    refine ⟨_, follows_within hbudget (nodup_consumed hnodup hunused) (by rintro ⟨⟩) (by rintro _ ⟨⟩) ?_⟩
    simp only [validate_payload, ok_rules, Bool.not_eq_false]
    exact ⟨hempty, hobserved.key_eq, hobserved.current⟩
  exact ⟨_, apply_human_disposition_eq_ok_iff.mpr ⟨hintegrity, halted, verification, hstate,
    bound_artifact_applicable _ (by decide) hunused, rfl,
    .terminated rfl rfl hresolved hempty (resolve_observation_eq_ok_iff.mpr ⟨rfl, hobserved⟩) hfollows⟩,
    hfollows.state_eq⟩

/-- A halt without an unresolved attempt can be left for a new occurrence. -/
theorem return_to_observation_ok (hresolved : halted.unresolved_attempt = none) {occurrence : OccurrenceId}
    (hdistinct : occurrence ≠ halted.metadata.key.occurrence) (resolver : ObservationResolverV1)
    (expected : String) (verification : HumanVerificationRefV1) :
    ∃ artifact first second, apply_human_disposition sha current artifact artifact.scope (some occurrence)
        resolver expected (.answering verification) 0 = .ok (.OpenedOccurrence first second verification) ∧
      artifact.decision = decision ∧ first.state = .Halted (halted.consume decision) ∧
      second.validate_integrity sha = .ok () ∧
      second.state = .ObservationRequired (resumed_from first (halted.consume decision) occurrence
        halted.metadata.program) := by
  have hfirst := consume_follows hintegrity hstate hunused
  generalize successor_snapshot sha current (.Halted (halted.consume decision)) = first at hfirst
  obtain ⟨hbudget, hnodup, _, _⟩ := checks_of_integrity hfirst.integrity hfirst.state_eq
  have hkey : (halted.consume decision).metadata.key ≠ ⟨halted.metadata.key.campaign, occurrence⟩ := by
    intro hkey
    exact hdistinct (congrArg OccurrenceKeyV1.occurrence hkey).symm
  obtain ⟨next, hsecond⟩ : ∃ next, Follows sha first (.ObservationRequired (resumed_from first (halted.consume decision)
      occurrence halted.metadata.program)) next := by
    refine ⟨_, follows_successor hbudget ?_ (validate_state_eq_ok_iff.mpr ⟨hnodup, by rintro _ ⟨⟩, ?_⟩)⟩
    · rintro value prior hvalue hprior
      cases hvalue
      cases hprior
      rfl
    · simpa [validate_payload, resumed_from, HaltedV1.consume, OccurrenceMetaV1.consume_decision,
        reject_eq_ok_iff] using hkey
  refine ⟨bound_artifact current halted decision .ReturnToObservation 1, _, _,
    apply_human_disposition_eq_ok_iff.mpr ⟨hintegrity, halted, verification, hstate,
      bound_artifact_applicable _ (by decide) hunused, rfl,
      .opened .return_to_observation hresolved rfl hdistinct hfirst hsecond⟩,
    rfl, hfirst.state_eq, hsecond.integrity, hsecond.state_eq⟩

end Human

end ag_campaign.governed

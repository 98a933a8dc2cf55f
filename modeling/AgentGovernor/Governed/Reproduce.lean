import AgentGovernor.Governed.LegalSuccessor
import AgentGovernor.Governed.Progress

open ag_primitives Checked

namespace ag_campaign.governed

open GovernedLoopKernelV1

variable {sha : Sha256} {source target : OccurrenceSnapshotV1}

/-- A sound snapshot linked to `source` is what `source` would be advanced to. -/
theorem follows_of_linked (hintegrity : target.validate_integrity sha = .ok ())
    (hprior : target.prior_state_digest = source.state_digest) : Follows sha source target.state target := by
  obtain ⟨_, hdigest, _⟩ := validate_integrity_eq_ok_iff.mp hintegrity
  refine ⟨?_, hintegrity⟩
  cases target
  simp only at hprior hdigest
  simp [successor_snapshot, ← hprior, hdigest]

theorem is_one_retry_iff {before after : LoopBudgetV1} :
    is_one_retry before after ↔
      after = { before with retries_used := saturating_add before.retries_used 1 } := by
  obtain ⟨retry_limit, retries_used, probe_limit, probes_used, escalation_limit, escalations_used⟩ := after
  simp only [is_one_retry, LoopBudgetV1.mk.injEq]
  tauto

variable (hintegrity : source.validate_integrity sha = .ok ())

include hintegrity

/-- A recorded proposal whose coordinates and work are the pending ones is what
recording it again gives. -/
theorem record_proposal_reproduces {prev : ObservationRequiredV1} {next : ProposalBasisV1}
    (hs : source.state = .ObservationRequired prev)
    (ht : Follows sha source (.ProposalRecorded next) target) (hrecorded : RecordedFrom prev next)
    (hexpected : next.metadata.expected_work = prev.metadata.expected_work)
    (hwork : next.proposal.work = prev.metadata.expected_work)
    (hretry : ∀ prior, next.link = .RetryOf prior → prev.metadata.budget.retry_available = true) :
    ∃ proposal_class, record_proposal sha source next.observation.observation next.proposal proposal_class
      (.answering next.observation) next.observation.resolver_id next.observation.resolved_at_unix_ms =
        .ok target := by
  have hsound : SoundProposal sha next.metadata next :=
    sound_proposal_of_integrity ht.integrity (by rw [ht.state_eq]; rfl)
  have hresolved : ResolvedObservation sha prev.metadata.key next.observation.observation
      next.proposal.subject next.observation.resolver_id next.observation.resolved_at_unix_ms
      next.observation := by
    have h := hsound.observation.resolve hsound.current (UInt64.le_refl _) hsound.observation.window
    rwa [hsound.observation_key, ← hrecorded.key, hsound.observation_subject] at h
  have hclass : ∃ proposal_class metadata,
      Classified sha prev next.proposal next.observation proposal_class next.link metadata ∧
      next.metadata = { metadata with residuals := prev.metadata.residuals } := by
    have hmetadata : next.metadata = { prev.metadata with budget := next.metadata.budget } :=
      OccurrenceMetaV1.ext hrecorded.key.symm hrecorded.program.symm hexpected hrecorded.residuals.symm rfl
        hrecorded.used_human_decisions.symm
    cases hrecorded.linked with
    | initial hprior hlink hbudget =>
      rw [hlink]
      exact ⟨.Initial, prev.metadata, .initial hprior, by rw [hmetadata, ← hbudget]⟩
    | retry hprior hlink hkey hproposal hpreconditions hbudget =>
      rw [hlink]
      refine ⟨.Retry, _, .retry hprior hkey.symm (hretry _ hlink) (hsound.proposal_ref ▸ hproposal)
        hpreconditions, ?_⟩
      rw [hmetadata, is_one_retry_iff.mp hbudget]
    | successor hprior hlink hkey hproposal hbudget =>
      rw [hlink]
      exact ⟨.Successor, prev.metadata, .successor hprior hkey.symm (hsound.proposal_ref ▸ hproposal),
        by rw [hmetadata, ← hbudget]⟩
  obtain ⟨proposal_class, metadata, hclassified, hmetadata⟩ := hclass
  refine ⟨proposal_class, record_proposal_eq_ok_iff.mpr ⟨hintegrity, prev, next.observation, next.link,
    metadata, hs, hsound.proposal_valid, ?_, hwork, resolve_observation_eq_ok_iff.mpr ⟨rfl, hresolved⟩,
    hclassified, ?_⟩⟩
  · rw [hsound.campaign, hrecorded.key]
  · rw [← hmetadata, ← hsound.proposal_ref]
    exact ht

omit hintegrity in
/-- Re-observing `left` with what `right` observed gives `right`. -/
theorem same_proposal_basis_reobserved {left right : ProposalBasisV1} (h : same_proposal_basis left right) :
    { left with observation := right.observation } = right := by
  obtain ⟨hmetadata, hproposal, href, hlink, _⟩ := h
  cases right
  simp_all

theorem record_admissible_reproduces {prev : ProposalBasisV1} {next : AdmissibleBasisV1} {now : UInt64}
    (hs : source.state = .StandingRequired prev)
    (ht : Follows sha source (.AdmissiblePendingAuthorization next) target)
    (hsame : same_proposal_basis prev next.proposal)
    (hnow : PresentableAt next.proposal.observation next.standing now) :
    record_admissible sha source (answering_premises next now) = .ok target := by
  have hproposal : SoundProposal sha next.proposal.metadata next.proposal :=
    sound_proposal_of_integrity ht.integrity (by rw [ht.state_eq]; rfl)
  have hadmitted : SoundAdmission next :=
    validate_admissible_basis_eq_ok_iff.mp (validate_payload_of_integrity ht.integrity ht.state_eq)
  refine record_admissible_eq_ok_iff.mpr ⟨hintegrity, prev, _, _, _, hs,
    answering_premises_resolve hproposal hadmitted hsame hnow, ?_⟩
  rw [same_proposal_basis_reobserved hsame]
  exact ht

omit hintegrity in
/-- A sound spend is the one its admission gives rise to at the moment it records. -/
theorem validate_authorized_eq_ok_iff {value : AuthorizationConsumedV1} :
    validate_authorized sha value = .ok () ↔
      SoundAdmission value.admitted ∧ value = authorize sha value.admitted value.spend.consumed_at_unix_ms := by
  simp only [validate_authorized, ok_rules, validate_admissible_basis_eq_ok_iff]
  refine and_congr_right fun _ => ?_
  obtain ⟨admitted, spend, issuance⟩ := value
  obtain ⟨authorization, spend_ref, key, observation, proposal, standing, decision, consumed_at⟩ := spend
  simp only [authorize, AuthorizationConsumedV1.mk.injEq, AgAuthorizationSpendV1.mk.injEq, and_true, true_and]
  constructor
  · rintro ⟨⟨rfl, rfl, rfl, rfl, rfl, rfl, rfl⟩, rfl⟩
    exact ⟨⟨rfl, rfl, rfl, rfl, rfl, rfl, rfl⟩, rfl⟩
  · rintro ⟨⟨rfl, rfl, rfl, rfl, rfl, rfl, rfl⟩, rfl⟩
    exact ⟨⟨rfl, rfl, rfl, rfl, rfl, rfl, rfl⟩, rfl⟩

theorem consume_authorization_reproduces {prev : AdmissibleBasisV1} {next : AuthorizationConsumedV1}
    (hs : source.state = .AdmissiblePendingAuthorization prev)
    (ht : Follows sha source (.AuthorizationConsumed next) target)
    (hsame : same_proposal_basis prev.proposal next.admitted.proposal)
    (hnow : PresentableAt next.admitted.proposal.observation next.admitted.standing
      next.spend.consumed_at_unix_ms) :
    consume_authorization sha source (answering_premises next.admitted next.spend.consumed_at_unix_ms) =
      .ok target := by
  have hproposal : SoundProposal sha next.admitted.proposal.metadata next.admitted.proposal :=
    sound_proposal_of_integrity ht.integrity (by rw [ht.state_eq]; rfl)
  obtain ⟨hadmitted, hspend⟩ :=
    validate_authorized_eq_ok_iff.mp (validate_payload_of_integrity ht.integrity ht.state_eq)
  refine consume_authorization_eq_ok_iff.mpr ⟨hintegrity, prev, _, _, _, hs,
    answering_premises_resolve hproposal hadmitted hsame hnow, ?_⟩
  rw [same_proposal_basis_reobserved hsame]
  exact hspend ▸ ht

theorem open_continuation_reproduces {settled : SettledObservationRequiredV1} {next : ObservationRequiredV1}
    (hs : source.state = .SettledObservationRequired settled)
    (ht : Follows sha source (.ObservationRequired next) target) (hcontinued : ContinuedFrom source
      (some settled.dispatch.authorized.admitted.proposal.proposal_ref)
      (some settled.dispatch.authorized.admitted.proposal.observation.normalized_preconditions) next)
    (hprogram : next.metadata.program = source.state.metadata.program) :
    open_continuation sha source next.metadata.key.occurrence next.metadata.expected_work = .ok target := by
  have hnext : next = continuation_of source settled next.metadata.key.occurrence
      next.metadata.expected_work := by
    obtain ⟨_, hcampaign, hprior, hresiduals, hbudget, hused⟩ := hcontinued
    obtain ⟨⟨⟨campaign, occurrence⟩, program, expected_work, residuals, budget, used⟩, prior⟩ := next
    simp_all [continuation_of, OccurrenceSnapshotV1.key, OccurrenceStateV1.metadata]
  refine open_continuation_eq_ok_iff.mpr ⟨hintegrity, settled, hs, ?_, hnext ▸ ht⟩
  intro hoccurrence
  refine hcontinued.distinct (OccurrenceKeyV1.ext hcontinued.campaign ?_)
  rw [hoccurrence, OccurrenceSnapshotV1.key, hs]
  rfl

omit hintegrity in
/-- A budget with one more escalation counted either had room for it or did not
change, because the counter was already stuck. -/
theorem budget_cases {before after : LoopBudgetV1} (h : budget_same_or_one_escalation before after)
    (hvalid : after.validate = .ok ()) :
    after = before ∨ before.escalation_available = true ∧
      after = { before with escalations_used := saturating_add before.escalations_used 1 } := by
  obtain ⟨retry_limit, retries_used, probe_limit, probes_used, escalation_limit, escalations_used⟩ := after
  obtain ⟨rfl, rfl, rfl, rfl, rfl, hused⟩ := h
  obtain ⟨_, _, hlimit⟩ := LoopBudgetV1.validate_eq_ok_iff.mp hvalid
  rcases hused with rfl | rfl
  · exact .inl rfl
  · by_cases hmax : before.escalations_used.toNat = 2 ^ 32 - 1
    · left
      have hstuck : saturating_add before.escalations_used 1 = before.escalations_used := by
        rw [saturating_add, if_neg (by simp [hmax])]
        exact UInt32.toNat_inj.mp (by simp [hmax])
      rw [hstuck]
    · right
      exact ⟨decide_eq_true (lt_of_saturating_add_le hlimit hmax), rfl⟩

/-- A halt that keeps the expected work and names its predecessor exactly is what
halting or escalating again gives. -/
theorem halt_reproduces {next : HaltedV1} (hsafe : is_safe_halt_source source.program_counter = true)
    (ht : Follows sha source (.Halted next) target) (hhalted : HaltedFrom source.state next)
    (hexpected : next.metadata.expected_work = source.state.metadata.expected_work)
    (hprior : next.prior = current_prior_basis source) :
    halt sha source next.reason = .ok target ∨ escalate sha source next.reason = .ok target := by
  have hbudget := (validate_integrity_eq_ok_iff.mp ht.integrity).1
  rw [ht.state_eq] at hbudget
  have hnext : next = halted_from source { source.state.metadata with budget := next.metadata.budget }
      next.reason := by
    obtain ⟨hsource, hkey, hprogram, hresiduals, hused, _, _, hattempt, hhistory⟩ := hhalted
    obtain ⟨⟨key, program, expected_work, residuals, budget, used⟩, _, _, _, _, _⟩ := next
    simp_all [halted_from, OccurrenceSnapshotV1.program_counter]
  rcases budget_cases hhalted.budget hbudget with hsame | ⟨havailable, hone⟩
  · left
    refine halt_eq_ok_iff.mpr ⟨hintegrity, hsafe, ?_⟩
    rw [hsame] at hnext
    exact hnext ▸ ht
  · right
    refine escalate_eq_ok_iff.mpr ⟨hintegrity, havailable, hsafe, ?_⟩
    rw [hone] at hnext
    exact hnext ▸ ht

/-- A probe that keeps the expected work, at a boundary that may be probed and with
room in the budget, is what noting it again gives. -/
theorem note_probe_reproduces (ht : Follows sha source target.state target)
    (hprobe : validate_probe_successor source.state target.state)
    (hexpected : target.state.metadata.expected_work = source.state.metadata.expected_work)
    (hcounter : source.program_counter = .SettledObservationRequired ∨
      source.program_counter = .ObservationRequired)
    (havailable : source.state.metadata.budget.probe_available = true) :
    note_probe sha source = .ok target := by
  have hmetadata : target.state.metadata = probed source.state.metadata := by
    obtain ⟨hkey, hprogram, hresiduals, hused, hretry_limit, hretries, hprobe_limit, hprobes, hescalation_limit,
      hescalations, _⟩ := hprobe
    exact OccurrenceMetaV1.ext hkey.symm hprogram.symm hexpected hresiduals.symm
      (LoopBudgetV1.ext hretry_limit.symm hretries.symm hprobe_limit.symm hprobes.symm hescalation_limit.symm
        hescalations.symm) hused.symm
  have hstate : source.state.set_metadata (probed source.state.metadata) = target.state := by
    rw [← hmetadata, ← hprobe.2.2.2.2.2.2.2.2.2.2, OccurrenceStateV1.set_metadata_set_metadata,
      OccurrenceStateV1.set_metadata_self]
  exact note_probe_eq_ok_iff.mpr ⟨hintegrity, hcounter, havailable, hstate ▸ ht⟩

/-- A completion with a sound terminal observation and no history is what
completing again gives. -/
theorem complete_from_observation_reproduces {prev : ObservationRequiredV1} {next : CompletedV1}
    (hs : source.state = .ObservationRequired prev)
    (ht : Follows sha source (.Completed next) target) (hmetadata : next.metadata = prev.metadata)
    (hterminal : SoundObservation sha next.terminal_observation) (hhistory : next.history = .default) :
    complete_from_observation sha source next.terminal_observation.observation
      next.terminal_observation.subject next.terminal_witness (.answering next.terminal_observation)
      next.terminal_observation.resolver_id next.terminal_observation.resolved_at_unix_ms = .ok target := by
  have hpayload := validate_payload_of_integrity ht.integrity ht.state_eq
  simp only [validate_payload, ok_rules, Bool.not_eq_false] at hpayload
  obtain ⟨hempty, hkey, hcurrent⟩ := hpayload
  rw [hmetadata] at hempty hkey
  have hresolved := hterminal.resolve hcurrent (UInt64.le_refl _) hterminal.window
  rw [hkey] at hresolved
  refine complete_from_observation_eq_ok_iff.mpr ⟨hintegrity, prev, _, hs, hempty,
    resolve_observation_eq_ok_iff.mpr ⟨rfl, hresolved⟩, ?_⟩
  rw [← hmetadata, ← hhistory]
  exact ht

end ag_campaign.governed

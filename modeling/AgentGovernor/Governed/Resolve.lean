import AgentGovernor.Governed.Snapshot

open ag_primitives Checked

namespace ag_campaign.governed

/-- `u64::checked_sub`. -/
def checked_sub (left right : UInt64) : Option UInt64 :=
  if right ≤ left then some (left - right) else none

def resolve_observation (sha : Sha256) (resolver : ObservationResolverV1) (key : OccurrenceKeyV1)
    (observation : ObservationRefV1) (subject : Digest) (expected_resolver_id : String)
    (now_unix_ms : UInt64) : Except KernelErrorV1 VersionedObservationResolutionV1 := do
  let resolved ← map_err (resolver.resolve_observation { key, observation, subject, now_unix_ms })
    KernelErrorV1.External
  reject (resolved.has_own_schema = false) (.ForeignSchema "observation resolution")
  reject (expected_resolver_id = "" ∨ resolved.resolver_id ≠ expected_resolver_id)
    (.BindingMismatch "observation resolver identity")
  reject (resolved.key ≠ key) .OccurrenceMismatch
  reject (resolved.observation ≠ observation) (.BindingMismatch "observation")
  reject (resolved.subject ≠ subject) (.BindingMismatch "observation subject")
  map_err (resolved.validate_basis sha) fun _ => KernelErrorV1.ForeignSchema resolved.invalid_schema_label
  let basis_digest ← map_err (resolved.basis_binding_digest sha)
    fun _ => KernelErrorV1.ForeignSchema resolved.invalid_schema_label
  reject (resolved.normalized_preconditions.as_digest ≠ basis_digest)
    (.BindingMismatch "precondition basis")
  reject (resolved.resolved_at_unix_ms > now_unix_ms ∨ now_unix_ms ≥ resolved.fresh_until_unix_ms)
    .ObservationNotCurrent
  if resolved.is_current then pure resolved
  else if resolved.is_contradictory then throw .ObservationContradiction
  else throw .ObservationNotCurrent

/-- What the kernel knows of an observation it accepted at `now_unix_ms`. -/
structure ResolvedObservation (sha : Sha256) (key : OccurrenceKeyV1) (observation : ObservationRefV1)
    (subject : Digest) (expected_resolver_id : String) (now_unix_ms : UInt64)
    (resolved : VersionedObservationResolutionV1) : Prop where
  own_schema : resolved.has_own_schema = true
  expected_nonempty : expected_resolver_id ≠ ""
  resolver_id : resolved.resolver_id = expected_resolver_id
  key_eq : resolved.key = key
  observation_eq : resolved.observation = observation
  subject_eq : resolved.subject = subject
  basis_valid : resolved.validate_basis sha = .ok ()
  basis_digest : resolved.basis_binding_digest sha = .ok resolved.normalized_preconditions.as_digest
  resolved_before : resolved.resolved_at_unix_ms ≤ now_unix_ms
  fresh : now_unix_ms < resolved.fresh_until_unix_ms
  current : resolved.is_current = true

theorem resolve_observation_eq_ok_iff {sha : Sha256} {resolver : ObservationResolverV1}
    {key : OccurrenceKeyV1} {observation : ObservationRefV1} {subject : Digest} {expected : String}
    {now : UInt64} {resolved : VersionedObservationResolutionV1} :
    resolve_observation sha resolver key observation subject expected now = .ok resolved ↔
      resolver.resolve_observation ⟨key, observation, subject, now⟩ = .ok resolved ∧
      ResolvedObservation sha key observation subject expected now resolved := by
  unfold resolve_observation
  simp only [ok_rules, UInt64.not_lt, UInt64.not_le, ge_iff_le, gt_iff_lt, Bool.not_eq_false]
  constructor
  · rintro ⟨answer, hanswer, hschema, ⟨hexpected, hid⟩, hkey, hobservation, hsubject, hvalid, digest,
      hdigest, hbound, ⟨hbefore, hfresh⟩, hcurrent⟩
    split at hcurrent
    · next hiscurrent =>
      obtain rfl := pure_eq_ok_iff.mp hcurrent
      refine ⟨hanswer, hschema, hexpected, hid, hkey, hobservation, hsubject, hvalid, ?_, hbefore,
        hfresh, hiscurrent⟩
      rw [hdigest, hbound]
    · split at hcurrent <;> exact absurd hcurrent throw_ne_ok
  · rintro ⟨hanswer, h⟩
    exact ⟨resolved, hanswer, h.own_schema, ⟨h.expected_nonempty, h.resolver_id⟩, h.key_eq,
      h.observation_eq, h.subject_eq, h.basis_valid, _, h.basis_digest, rfl,
      ⟨h.resolved_before, h.fresh⟩, by simp [h.current, pure, Except.pure]⟩

def resolve_standing (resolver : StandingResolverV1) (basis : ProposalBasisV1)
    (observation : VersionedObservationResolutionV1) (expected_resolver_id : String)
    (max_standing_ttl_ms now_unix_ms : UInt64) : Except KernelErrorV1 CurrentStandingResolutionV2 := do
  let resolved ← map_err (resolver.resolve_standing
    { key := basis.metadata.key
      observation := observation.observation
      proposal := basis.proposal_ref
      subject := basis.proposal.subject
      scope := basis.proposal.scope
      now_unix_ms }) KernelErrorV1.External
  reject (resolved.schema ≠ STANDING_RESOLUTION_SCHEMA_V2) (.ForeignSchema "standing resolution")
  reject (expected_resolver_id = "" ∨ resolved.resolver_id ≠ expected_resolver_id)
    (.BindingMismatch "standing resolver identity")
  reject (resolved.key ≠ basis.metadata.key) .OccurrenceMismatch
  reject (resolved.observation ≠ observation.observation) (.BindingMismatch "standing observation")
  reject (resolved.proposal ≠ basis.proposal_ref) (.BindingMismatch "standing proposal")
  reject (resolved.subject ≠ basis.proposal.subject) (.BindingMismatch "standing subject")
  reject (resolved.scope ≠ basis.proposal.scope) (.BindingMismatch "standing scope")
  -- a reversed window is refused here instead of wrapping around
  let window_ms ← ok_or (checked_sub resolved.expires_at_unix_ms resolved.resolved_at_unix_ms)
    KernelErrorV1.StandingNotCurrent
  reject (window_ms > max_standing_ttl_ms) .StandingNotCurrent
  reject (resolved.resolved_at_unix_ms > now_unix_ms ∨ now_unix_ms ≥ resolved.expires_at_unix_ms)
    .StandingNotCurrent
  match resolved.status with
  | .Current => pure resolved
  | .Absent => throw .StandingAbsent
  | .Revoked | .Superseded | .Expired => throw .StandingNotCurrent

/-- What the kernel knows of a standing answer it accepted at `now_unix_ms`. -/
structure ResolvedStanding (basis : ProposalBasisV1) (observation : VersionedObservationResolutionV1)
    (expected_resolver_id : String) (max_standing_ttl_ms now_unix_ms : UInt64)
    (resolved : CurrentStandingResolutionV2) : Prop where
  schema : resolved.schema = STANDING_RESOLUTION_SCHEMA_V2
  expected_nonempty : expected_resolver_id ≠ ""
  resolver_id : resolved.resolver_id = expected_resolver_id
  key_eq : resolved.key = basis.metadata.key
  observation_eq : resolved.observation = observation.observation
  proposal_eq : resolved.proposal = basis.proposal_ref
  subject_eq : resolved.subject = basis.proposal.subject
  scope_eq : resolved.scope = basis.proposal.scope
  window : resolved.expires_at_unix_ms - resolved.resolved_at_unix_ms ≤ max_standing_ttl_ms
  resolved_before : resolved.resolved_at_unix_ms ≤ now_unix_ms
  unexpired : now_unix_ms < resolved.expires_at_unix_ms
  current : resolved.status = .Current

theorem checked_sub_eq_some_iff {left right window : UInt64} :
    checked_sub left right = some window ↔ right ≤ left ∧ left - right = window := by
  unfold checked_sub
  split <;> simp_all

theorem resolve_standing_eq_ok_iff {resolver : StandingResolverV1} {basis : ProposalBasisV1}
    {observation : VersionedObservationResolutionV1} {expected : String} {ttl now : UInt64}
    {resolved : CurrentStandingResolutionV2} :
    resolve_standing resolver basis observation expected ttl now = .ok resolved ↔
      resolver.resolve_standing ⟨basis.metadata.key, observation.observation, basis.proposal_ref,
        basis.proposal.subject, basis.proposal.scope, now⟩ = .ok resolved ∧
      ResolvedStanding basis observation expected ttl now resolved := by
  unfold resolve_standing
  simp only [ok_rules, checked_sub_eq_some_iff, UInt64.not_lt, UInt64.not_le, ge_iff_le, gt_iff_lt]
  constructor
  · rintro ⟨answer, hanswer, hschema, ⟨hexpected, hid⟩, hkey, hobservation, hproposal, hsubject, hscope,
      window, ⟨_, rfl⟩, hwindow, ⟨hbefore, hunexpired⟩, hstatus⟩
    split at hstatus
    · next hcurrent =>
      obtain rfl := pure_eq_ok_iff.mp hstatus
      exact ⟨hanswer, hschema, hexpected, hid, hkey, hobservation, hproposal, hsubject, hscope, hwindow,
        hbefore, hunexpired, hcurrent⟩
    all_goals exact absurd hstatus throw_ne_ok
  · rintro ⟨hanswer, h⟩
    have hordered := UInt64.le_of_lt (UInt64.lt_of_le_of_lt h.resolved_before h.unexpired)
    exact ⟨resolved, hanswer, h.schema, ⟨h.expected_nonempty, h.resolver_id⟩, h.key_eq,
      h.observation_eq, h.proposal_eq, h.subject_eq, h.scope_eq, _, ⟨hordered, rfl⟩,
      h.window, ⟨h.resolved_before, h.unexpired⟩, by simp [h.current, pure, Except.pure]⟩

end ag_campaign.governed

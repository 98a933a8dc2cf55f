import AgentGovernor.Session.Record
import AgentGovernor.Primitives.IdealHash

open ag_primitives Checked

namespace ag_session

namespace WorkerSessionRecordV1

/-- What a later record keeps of an earlier one: the specification, and everything that
was set. -/
structure Follows (earlier later : WorkerSessionRecordV1) : Prop where
  spec : later.spec = earlier.spec
  stage : earlier.authority.stage ≤ later.authority.stage
  launched : ∀ receipt, earlier.authority.launch_receipt = some receipt →
    later.authority.launch_receipt = some receipt
  fenced : ∀ tombstone, earlier.authority.tombstone = some tombstone →
    later.authority.tombstone = some tombstone ∧ later.authority.launch_receipt = earlier.authority.launch_receipt
  custody : ∀ candidate, earlier.candidate.custody = some candidate → later.candidate.custody = some candidate
  outcome : ∀ outcome, earlier.candidate.outcome = some outcome → later.candidate.outcome = some outcome

theorem Follows.refl (record : WorkerSessionRecordV1) : record.Follows record :=
  ⟨rfl, Nat.le_refl _, fun _ h => h, fun _ h => ⟨h, rfl⟩, fun _ h => h, fun _ h => h⟩

theorem Follows.trans {first second third : WorkerSessionRecordV1} (h : first.Follows second)
    (h' : second.Follows third) : first.Follows third where
  spec := h'.spec.trans h.spec
  stage := Nat.le_trans h.stage h'.stage
  launched receipt hreceipt := h'.launched receipt (h.launched receipt hreceipt)
  fenced tombstone htombstone := by
    obtain ⟨hsecond, hreceipt⟩ := h.fenced tombstone htombstone
    obtain ⟨hthird, hreceipt'⟩ := h'.fenced tombstone hsecond
    exact ⟨hthird, hreceipt'.trans hreceipt⟩
  custody candidate hcandidate := h'.custody candidate (h.custody candidate hcandidate)
  outcome outcome houtcome := h'.outcome outcome (h.outcome outcome houtcome)

/-- The candidate of an acceptance is taken from an active worker that had none, within
the budget and with the tombstone of its producer. -/
structure Accepts (record next : WorkerSessionRecordV1) (candidate : WorkerCandidateCustodyV1)
    (tombstone : WorkerPrincipalTombstoneV1) : Prop where
  active : ∃ launch_receipt, record.authority = .Active launch_receipt ∧
    next.authority = .Tombstoned (some launch_receipt) tombstone .Pending
  awaiting : record.candidate = .Awaiting
  held : next.candidate = .InCustody candidate
  budget : candidate.byte_length ≤ record.spec.output_budget_bytes
  reason : tombstone.reason = .CandidateAccepted

section Step

variable {sha : Sha256} {record next : WorkerSessionRecordV1} {event : WorkerSessionEventV1}

theorem apply_eq_ok_iff :
    record.apply sha event = .ok next ↔ record.transition sha event = .ok next ∧ next.validate sha = .ok () := by
  simp only [apply, ok_rules]
  constructor
  · rintro ⟨_, htransition, hvalid, rfl⟩
    exact ⟨htransition, hvalid⟩
  · rintro ⟨htransition, hvalid⟩
    exact ⟨next, htransition, hvalid, rfl⟩

/-- What each event needs and what it makes of the record. -/
theorem transition_eq_ok (h : record.transition sha event = .ok next) :
    match event with
    | .Activate launch_receipt =>
      record.authority = .Prepared ∧ next = { record with authority := .Active launch_receipt }
    | .Tombstone tombstone => record.authority.tombstone = none ∧
      next = { record with authority := .Tombstoned record.authority.launch_receipt tombstone .Pending }
    | .AcceptCandidate candidate tombstone => ∃ launch_receipt, record.authority = .Active launch_receipt ∧
      record.candidate = .Awaiting ∧ candidate.byte_length ≤ record.spec.output_budget_bytes ∧
      tombstone.reason = .CandidateAccepted ∧ next = { record with
        authority := .Tombstoned (some launch_receipt) tombstone .Pending
        candidate := .InCustody candidate }
    | .CompleteCleanup receipt completed_at_unix_ms => ∃ launch_receipt tombstone,
      record.authority = .Tombstoned launch_receipt tombstone .Pending ∧ next = { record with
        authority := .Tombstoned launch_receipt tombstone (.Complete receipt completed_at_unix_ms) }
    | .RecordBrokerOutcome outcome => ∃ candidate,
      record.candidate = .InCustody candidate ∧ next = { record with candidate := .BrokerCompleted candidate outcome } ∨
        record.candidate = .BrokerCompleted candidate outcome ∧ next = record := by
  cases event with
  | Activate launch_receipt =>
    simp only [transition] at h
    split at h
    · next hauthority => exact ⟨hauthority, (pure_eq_ok_iff.mp h).symm⟩
    · cases h
  | Tombstone tombstone =>
    simp only [transition] at h
    split at h
    · cases h
    · next hlive =>
      simp only [ok_rules] at h
      refine ⟨?_, h.2.symm⟩
      cases hauthority : record.authority with
      | Prepared | Active => rfl
      | Tombstoned launch_receipt present cleanup => exact absurd hauthority (hlive _ _ _)
  | AcceptCandidate candidate tombstone =>
    simp only [transition] at h
    split at h
    · next launch_receipt hauthority hcandidate =>
      simp only [ok_rules, gt_iff_lt, UInt64.not_lt] at h
      obtain ⟨_, hbudget, _, hreason, rfl⟩ := h
      exact ⟨launch_receipt, hauthority, hcandidate, hbudget, hreason, rfl⟩
    · cases h
  | CompleteCleanup receipt completed_at_unix_ms =>
    simp only [transition] at h
    split at h
    · next launch_receipt tombstone hauthority =>
      exact ⟨launch_receipt, tombstone, hauthority, (pure_eq_ok_iff.mp h).symm⟩
    · cases h
  | RecordBrokerOutcome outcome =>
    simp only [transition] at h
    split at h
    · next candidate hcandidate => exact ⟨candidate, .inl ⟨hcandidate, (pure_eq_ok_iff.mp h).symm⟩⟩
    · next candidate existing hcandidate =>
      simp only [ok_rules] at h
      obtain ⟨rfl, rfl⟩ := h
      exact ⟨candidate, .inr ⟨hcandidate, rfl⟩⟩
    · cases h

/-- Every event keeps what the record holds. -/
theorem transition_follows (h : record.transition sha event = .ok next) : record.Follows next := by
  have hcases := transition_eq_ok h
  cases event with
  | Activate =>
    obtain ⟨hauthority, rfl⟩ := hcases
    exact ⟨rfl, by simp [hauthority], by simp [hauthority], by simp [hauthority], fun _ h => h, fun _ h => h⟩
  | Tombstone =>
    obtain ⟨hlive, rfl⟩ := hcases
    refine ⟨rfl, ?_, fun _ h => h, fun _ htombstone => ?_, fun _ h => h, fun _ h => h⟩
    · cases record.authority <;> simp
    · rw [hlive] at htombstone
      cases htombstone
  | AcceptCandidate =>
    obtain ⟨_, hauthority, hawaiting, _, _, rfl⟩ := hcases
    exact ⟨rfl, by simp [hauthority], by simp [hauthority], by simp [hauthority],
      by simp [hawaiting, WorkerCandidateCustodyStateV1.custody], by simp [hawaiting]⟩
  | CompleteCleanup =>
    obtain ⟨_, _, hauthority, rfl⟩ := hcases
    exact ⟨rfl, by simp [hauthority], by simp [hauthority], by simp [hauthority], fun _ h => h, fun _ h => h⟩
  | RecordBrokerOutcome =>
    obtain ⟨_, ⟨hcandidate, rfl⟩ | ⟨_, rfl⟩⟩ := hcases
    · exact ⟨rfl, Nat.le_refl _, fun _ h => h, fun _ h => ⟨h, rfl⟩,
        by simp [hcandidate, WorkerCandidateCustodyStateV1.custody], by simp [hcandidate]⟩
    · exact Follows.refl _

/-- An event leaves the record as it was, or its transition is valid. -/
theorem after_cases (sha : Sha256) (record : WorkerSessionRecordV1) (event : WorkerSessionEventV1) :
    ((∃ error, record.apply sha event = .error error) ∧ record.after sha event = record) ∨
      record.apply sha event = .ok (record.after sha event) := by
  unfold after
  cases hresult : record.apply sha event with
  | error error => exact .inl ⟨⟨error, rfl⟩, rfl⟩
  | ok next => exact .inr rfl

theorem after_follows : record.Follows (record.after sha event) := by
  rcases after_cases sha record event with ⟨_, hsame⟩ | happlied
  · rw [hsame]
    exact Follows.refl _
  · exact transition_follows (apply_eq_ok_iff.mp happlied).1

theorem after_valid (h : record.validate sha = .ok ()) : (record.after sha event).validate sha = .ok () := by
  rcases after_cases sha record event with ⟨_, hsame⟩ | happlied
  · rwa [hsame]
  · exact (apply_eq_ok_iff.mp happlied).2

/-- The candidate in custody after an event is the one before it, or the one that the
event brings. -/
theorem after_custody (sha : Sha256) (record : WorkerSessionRecordV1) (event : WorkerSessionEventV1) :
    (record.after sha event).candidate.custody = (record.accepts sha event).or record.candidate.custody ∧
      ∀ candidate, record.accepts sha event = some candidate → record.candidate.custody = none := by
  rcases after_cases sha record event with ⟨⟨error, hfails⟩, hsame⟩ | happlied
  · have hnone : record.accepts sha event = none := by
      cases event with
      | AcceptCandidate => simp only [accepts, hfails]
      | _ => rfl
    rw [hsame, hnone]
    exact ⟨rfl, by simp⟩
  · have hcases := transition_eq_ok (apply_eq_ok_iff.mp happlied).1
    cases event with
    | Activate | Tombstone => exact ⟨by rw [hcases.2]; rfl, by simp [accepts]⟩
    | AcceptCandidate candidate tombstone =>
      obtain ⟨_, _, hawaiting, _, _, hnext⟩ := hcases
      have haccepts : record.accepts sha (.AcceptCandidate candidate tombstone) = some candidate := by
        simp only [accepts, happlied]
      rw [haccepts, hnext, hawaiting]
      exact ⟨rfl, fun _ _ => rfl⟩
    | CompleteCleanup =>
      obtain ⟨_, _, _, hnext⟩ := hcases
      exact ⟨by rw [hnext]; rfl, by simp [accepts]⟩
    | RecordBrokerOutcome =>
      obtain ⟨_, ⟨hcandidate, hnext⟩ | ⟨_, hnext⟩⟩ := hcases
      · exact ⟨by rw [hnext, hcandidate]; rfl, by simp [accepts]⟩
      · exact ⟨by rw [hnext]; rfl, by simp [accepts]⟩

end Step

section Run

variable {sha : Sha256} {record : WorkerSessionRecordV1} {events : List WorkerSessionEventV1}

theorem run_append (before more : List WorkerSessionEventV1) :
    record.run sha (before ++ more) = (record.run sha before).run sha more :=
  List.foldl_append

theorem run_follows : record.Follows (record.run sha events) := by
  induction events generalizing record with
  | nil => exact Follows.refl _
  | cons event events ih => exact after_follows.trans ih

theorem run_valid (h : record.validate sha = .ok ()) : (record.run sha events).validate sha = .ok () := by
  induction events generalizing record with
  | nil => exact h
  | cons event events ih => exact ih (after_valid h)

/-- Nothing is accepted once a candidate is in custody. -/
theorem accepted_of_custody {candidate : WorkerCandidateCustodyV1}
    (h : record.candidate.custody = some candidate) : accepted sha record events = [] := by
  induction events generalizing record with
  | nil => rfl
  | cons event events ih =>
    obtain ⟨_, hfree⟩ := after_custody sha record event
    have hnone : record.accepts sha event = none := by
      cases haccepts : record.accepts sha event with
      | none => rfl
      | some other =>
        rw [hfree other haccepts] at h
        cases h
    rw [accepted, hnone, ih (after_follows.custody candidate h)]
    rfl

/-- The candidate in custody is the only one that was ever accepted. -/
theorem run_custody (h : record.candidate.custody = none) :
    accepted sha record events = (record.run sha events).candidate.custody.toList := by
  induction events generalizing record with
  | nil =>
    change [] = record.candidate.custody.toList
    rw [h]
    rfl
  | cons event events ih =>
    obtain ⟨hcustody, _⟩ := after_custody sha record event
    rw [h, Option.or_none] at hcustody
    cases haccepts : record.accepts sha event with
    | none =>
      rw [haccepts] at hcustody
      rw [accepted, haccepts]
      exact ih hcustody
    | some candidate =>
      rw [haccepts] at hcustody
      have hfinal : (record.run sha (event :: events)).candidate.custody = some candidate :=
        (run_follows : (record.after sha event).Follows _).custody candidate hcustody
      rw [accepted, haccepts, accepted_of_custody hcustody, hfinal]
      rfl

theorem accepts_facts {event : WorkerSessionEventV1} {candidate : WorkerCandidateCustodyV1}
    (h : record.accepts sha event = some candidate) :
    ∃ tombstone, event = .AcceptCandidate candidate tombstone ∧
      record.Accepts (record.after sha event) candidate tombstone := by
  cases event with
  | AcceptCandidate presented tombstone =>
    rcases after_cases sha record (.AcceptCandidate presented tombstone) with ⟨⟨error, hfails⟩, _⟩ | happlied
    · simp [accepts, hfails] at h
    · obtain rfl : presented = candidate := by simpa [accepts, happlied] using h
      refine ⟨tombstone, rfl, ?_⟩
      obtain ⟨launch_receipt, hactive, hawaiting, hbudget, hreason, hnext⟩ :=
        transition_eq_ok (apply_eq_ok_iff.mp happlied).1
      rw [hnext]
      exact ⟨⟨launch_receipt, hactive, rfl⟩, hawaiting, rfl, hbudget, hreason⟩
  | Activate | Tombstone | CompleteCleanup | RecordBrokerOutcome => cases h

/-- A valid record with a tombstone refuses ingress and the provider. -/
theorem tombstoned_refuses {tombstone : WorkerPrincipalTombstoneV1} (hvalid : record.validate sha = .ok ())
    (h : record.authority.tombstone = some tombstone) (context : WorkerIngressContextV1) :
    record.validate_active_ingress sha context = .error .PrincipalTombstoned ∧
      record.active_provider_capability sha context = .error .PrincipalTombstoned := by
  have hingress : record.validate_active_ingress sha context = .error .PrincipalTombstoned := by
    refine (bind_of_ok hvalid).trans (bind_of_error ?_)
    cases hauthority : record.authority with
    | Prepared | Active =>
      rw [hauthority] at h
      cases h
    | Tombstoned => rfl
  exact ⟨hingress, bind_of_error hingress⟩

end Run

end WorkerSessionRecordV1

open WorkerSessionRecordV1

section New

variable {sha : Sha256} {record : WorkerSessionRecordV1}

theorem new_facts {spec : BatchSessionSpecV1} (h : WorkerSessionRecordV1.new sha spec = .ok record) :
    record.validate sha = .ok () ∧
      record = ⟨WORKER_SESSION_RECORD_SCHEMA_V1, spec, .Prepared, .Awaiting⟩ := by
  simp only [WorkerSessionRecordV1.new, ok_rules] at h
  obtain ⟨hvalid, rfl⟩ := h
  exact ⟨hvalid, rfl⟩

/-- An offline session of a worker that a daemon launched can be recorded. -/
theorem new_attainable (hsha : sha.CollisionFree) :
    ∃ spec record, WorkerSessionRecordV1.new sha spec = .ok record := by
  obtain ⟨domain, epoch⟩ : ∃ (_ : AuthorityDomainId), Nonempty EpochId :=
    ⟨⟨"site", by decide⟩, ⟨⟨1, by decide⟩⟩⟩
  obtain ⟨epoch⟩ := epoch
  obtain ⟨session, project, cgroup⟩ : ∃ (_ : SessionId) (_ : ProjectId), Nonempty CgroupIdentity :=
    ⟨⟨"s", by decide⟩, ⟨"p", by decide⟩, ⟨⟨"c", by decide⟩⟩⟩
  obtain ⟨cgroup⟩ := cgroup
  obtain ⟨nonce⟩ : Nonempty LifecycleNonce := ⟨⟨List.replicate 32 0, by simp⟩⟩
  let empty : Digest := ⟨[]⟩
  let launcher : PrincipalId := ⟨Digest.hash_domain sha "launcher" (.text "")⟩
  let principal : WorkerSessionPrincipalV1 :=
    { authority_domain := domain, epoch, project, session_id := session, session_nonce := nonce, launcher
      executable := ⟨empty, 0, none⟩, launch_profile := ⟨empty, empty⟩, proposal_workspace_identity := empty
      security_profile_identity := SecurityProfileV1.Development.identity sha
      candidate_ingress_key_identity := empty, expires_at_unix_ms := 0, output_budget_bytes := 1
      provider_route := .Offline, input_set_digest := empty, observed_credentials := ⟨0, 0, 0, cgroup⟩ }
  have hdistinct : launcher ≠ principal.id sha := by
    intro h
    have hdigest := PrincipalId.mk.inj h
    exact absurd ((Digest.hash_domain_inj hsha).mp hdigest).1 (by decide)
  let nodes : List PrincipalChainNodeV1 :=
    [⟨launcher, .Daemon, none⟩, ⟨principal.id sha, .WorkerSession, some launcher⟩]
  have hnodes : validate_chain nodes = .ok () := by
    simp [nodes, validate_chain, validate_chain_from, reject, hdistinct.symm, bind, Except.bind, pure, Except.pure]
  let spec : BatchSessionSpecV1 :=
    { schema := SESSION_SCHEMA_V1, session, authority_domain := domain, epoch, security_profile := .Development
      reviewed_profile_id := "p", candidate_ingress_key_identity := empty
      worker := ⟨principal, ⟨domain, epoch, nodes, hnodes⟩, ⟨0, 0, 0, ⟨empty, 0, none⟩⟩⟩
      proposal_workspace_identity := empty, admitted_descriptors := [], provider_capability := none
      deadline_unix_ms := 0, output_budget_bytes := 1 }
  have hspec : spec.validate sha = .ok () := by
    have hprofile : valid_reviewed_profile_id "p" = true := by decide
    simp [spec, principal, nodes, BatchSessionSpecV1.validate, BatchSessionSpecV1.validate_principal_binding,
      BatchSessionSpecV1.validate_provider_route, validate_descriptors, PrincipalChainV1.leaf, reject, hprofile,
      bind, Except.bind, pure, Except.pure]
  refine ⟨spec, _, bind_eq_ok_iff.mpr ⟨(), ?_, rfl⟩⟩
  exact (bind_of_ok (reject_of_not (not_not.mpr rfl))).trans ((bind_of_ok hspec).trans rfl)

/-- The tombstone of a record's own principal, for a reason. -/
def WorkerSessionRecordV1.tombstone_for (sha : Sha256) (record : WorkerSessionRecordV1)
    (reason : WorkerTerminationReasonV1) : WorkerPrincipalTombstoneV1 :=
  ⟨record.spec.worker.principal.id sha, record.spec.session, record.spec.worker.principal.session_nonce, reason, 0⟩

theorem validate_tombstone_for (reason : WorkerTerminationReasonV1) :
    record.validate_tombstone sha (record.tombstone_for sha reason) = .ok () :=
  reject_of_not (by simp [tombstone_for])

variable {spec : BatchSessionSpecV1} (hnew : WorkerSessionRecordV1.new sha spec = .ok record)

include hnew

/-- The authority and the candidate of a new record may be replaced by others that fit its
specification. -/
theorem validate_moved {authority : WorkerAuthorityStateV1} {candidate : WorkerCandidateCustodyStateV1}
    (htombstone : authority.tombstone.forM (record.validate_tombstone sha) = .ok ())
    (hcustody : { record with authority, candidate }.validate_custody sha candidate.custody = .ok ()) :
    { record with authority, candidate }.validate sha = .ok () := by
  have hvalid := (new_facts hnew).1
  simp only [validate, ok_rules] at hvalid ⊢
  exact ⟨hvalid.1, hvalid.2.1, htombstone, hcustody⟩

/-- A prepared worker can be fenced with any reason. -/
theorem tombstone_applied (reason : WorkerTerminationReasonV1) :
    record.apply sha (.Tombstone (record.tombstone_for sha reason)) = .ok { record with
      authority := .Tombstoned none (record.tombstone_for sha reason) .Pending, candidate := .Awaiting } := by
  refine apply_eq_ok_iff.mpr ⟨?_, validate_moved hnew (validate_tombstone_for reason) rfl⟩
  have htombstone : record.validate_tombstone sha _ = _ := validate_tombstone_for reason
  simp only [transition, (new_facts hnew).2] at htombstone ⊢
  exact bind_of_ok htombstone

/-- A worker can be launched and its candidate accepted. -/
theorem candidate_accepted (launch_receipt : Digest) : ∃ candidate,
    record.run sha [.Activate launch_receipt, .AcceptCandidate candidate
      (record.tombstone_for sha .CandidateAccepted)] =
      { record with
        authority := .Tombstoned (some launch_receipt) (record.tombstone_for sha .CandidateAccepted) .Pending
        candidate := .InCustody candidate } := by
  let draft : WorkerCandidateCustodyV1 := ⟨⟨[]⟩, 0, "patch", none, ⟨[]⟩, ⟨[]⟩⟩
  obtain ⟨candidate, hverify, hlength⟩ : ∃ candidate : WorkerCandidateCustodyV1,
      candidate.verify sha = .ok () ∧ candidate.byte_length = 0 := by
    have htype : validate_candidate_semantic_type draft.semantic_type = .ok () := by decide
    exact ⟨{ draft with custody_record := candidate_custody_digest sha draft },
      (bind_of_ok htype).trans (reject_of_not (not_not.mpr rfl)), rfl⟩
  have hbudget : ¬ candidate.byte_length > record.spec.output_budget_bytes := by simp [hlength]
  let active := { record with authority := .Active launch_receipt, candidate := .Awaiting }
  have hactive : record.apply sha (.Activate launch_receipt) = .ok active :=
    apply_eq_ok_iff.mpr ⟨by simp only [transition, (new_facts hnew).2, active]; rfl, validate_moved hnew rfl rfl⟩
  have haccept : active.apply sha (.AcceptCandidate candidate (record.tombstone_for sha .CandidateAccepted)) =
      .ok { record with
        authority := .Tombstoned (some launch_receipt) (record.tombstone_for sha .CandidateAccepted) .Pending
        candidate := .InCustody candidate } := by
    refine apply_eq_ok_iff.mpr ⟨?_, validate_moved hnew (validate_tombstone_for .CandidateAccepted) ?_⟩
    · refine (bind_of_ok hverify).trans ((bind_of_ok (reject_of_not hbudget)).trans ?_)
      exact (bind_of_ok (validate_tombstone_for .CandidateAccepted)).trans rfl
    · exact (bind_of_ok hverify).trans ((bind_of_ok (reject_of_not hbudget)).trans rfl)
  refine ⟨candidate, ?_⟩
  change (record.after sha _).after sha _ = _
  rw [after, after, hactive]
  simp only [haccept]

end New

/-- A worker principal submits once and is fenced for ever. -/
theorem worker_submits_once {sha : Sha256} {spec : BatchSessionSpecV1} {record : WorkerSessionRecordV1}
    (hnew : WorkerSessionRecordV1.new sha spec = .ok record) (before more : List WorkerSessionEventV1) :
    let earlier := record.run sha before
    let later := record.run sha (before ++ more)
    later.validate sha = .ok () ∧ later.spec = spec ∧ earlier.Follows later ∧
    (∀ event candidate, earlier.accepts sha event = some candidate → ∃ tombstone,
      event = .AcceptCandidate candidate tombstone ∧
      earlier.Accepts (earlier.after sha event) candidate tombstone) ∧
    accepted sha record (before ++ more) = later.candidate.custody.toList ∧
    (earlier.authority.tombstone.isSome = true → ∀ context,
      later.validate_active_ingress sha context = .error .PrincipalTombstoned ∧
      later.active_provider_capability sha context = .error .PrincipalTombstoned) := by
  intro earlier later
  obtain ⟨hvalid, hrecord⟩ := new_facts hnew
  have hspec : record.spec = spec := by rw [hrecord]
  have hawaiting : record.candidate.custody = none := by
    rw [hrecord]
    rfl
  have hfollows : earlier.Follows later := by
    change earlier.Follows (record.run sha (before ++ more))
    rw [run_append]
    exact run_follows
  refine ⟨run_valid hvalid, run_follows.spec.trans hspec, hfollows, fun _ _ => accepts_facts, run_custody hawaiting,
    fun hfenced context => ?_⟩
  obtain ⟨tombstone, htombstone⟩ := Option.isSome_iff_exists.mp hfenced
  exact tombstoned_refuses (run_valid hvalid) (hfollows.fenced tombstone htombstone).1 context

/-- A worker that was launched and whose candidate was accepted submits nothing more and is
refused from then on. -/
theorem worker_submits_once_accepted :
    ∃ (spec : BatchSessionSpecV1) (record : WorkerSessionRecordV1) (launch_receipt : Digest)
      (candidate : WorkerCandidateCustodyV1) (tombstone : WorkerPrincipalTombstoneV1),
      WorkerSessionRecordV1.new ideal_sha spec = .ok record ∧
      ∀ more, let events := [.Activate launch_receipt, .AcceptCandidate candidate tombstone] ++ more
        accepted ideal_sha record events = [candidate] ∧
        ∀ context, (record.run ideal_sha events).validate_active_ingress ideal_sha context =
          .error .PrincipalTombstoned := by
  obtain ⟨spec, record, hnew⟩ := new_attainable ideal_sha_collision_free
  obtain ⟨candidate, hrun⟩ := candidate_accepted hnew ⟨[]⟩
  refine ⟨spec, record, ⟨[]⟩, candidate, record.tombstone_for ideal_sha .CandidateAccepted, hnew, fun more => ?_⟩
  obtain ⟨_, _, hfollows, _, haccepted, hfenced⟩ := worker_submits_once hnew
    [.Activate ⟨[]⟩, .AcceptCandidate candidate (record.tombstone_for ideal_sha .CandidateAccepted)] more
  rw [hrun] at hfollows hfenced
  exact ⟨by rw [haccepted, hfollows.custody candidate rfl]; rfl, fun context => (hfenced rfl context).1⟩

end ag_session

import AgentGovernor.Session.Fenced

open ag_primitives Checked

namespace ag_session

open WorkerSessionRecordV1

/-- The tombstone says that a candidate was accepted exactly when one is in custody. -/
def WorkerSessionRecordV1.Coincides (record : WorkerSessionRecordV1) : Prop :=
  (∃ tombstone, record.authority.tombstone = some tombstone ∧ tombstone.reason = .CandidateAccepted) ↔
    record.candidate.custody.isSome = true

/-- The event fences the worker as if a candidate had been accepted, without one. -/
def WorkerSessionEventV1.AcceptsNothing : WorkerSessionEventV1 → Prop
  | .Tombstone tombstone => tombstone.reason = .CandidateAccepted
  | _ => False

section Coincidence

variable {sha : Sha256} {record next : WorkerSessionRecordV1} {event : WorkerSessionEventV1}

variable (hvalid : record.validate sha = .ok ())

include hvalid

/-- Custody needs the tombstone, so a valid record only has to be checked the other way. -/
theorem custody_accepted (h : record.candidate.custody.isSome = true) :
    ∃ tombstone, record.authority.tombstone = some tombstone ∧ tombstone.reason = .CandidateAccepted := by
  obtain ⟨candidate, hcandidate⟩ := Option.isSome_iff_exists.mp h
  simp only [validate, hcandidate, validate_custody, ok_rules] at hvalid
  obtain ⟨_, _, _, _, _, htombstone⟩ := hvalid
  cases hauthority : record.authority with
  | Prepared | Active =>
    rw [hauthority] at htombstone
    cases htombstone
  | Tombstoned launch_receipt tombstone cleanup =>
    rw [hauthority] at htombstone
    cases launch_receipt with
    | none => cases htombstone
    | some launch_receipt => exact ⟨tombstone, rfl, not_not.mp (reject_eq_ok_iff.mp htombstone)⟩

/-- A record whose worker is not fenced holds no candidate. -/
theorem unfenced_custody (h : record.authority.tombstone = none) :
    record.candidate.custody = none := by
  by_contra hsome
  obtain ⟨_, htombstone, _⟩ := custody_accepted hvalid (Option.isSome_iff_ne_none.mpr hsome)
  rw [h] at htombstone
  cases htombstone

/-- An event keeps the coincidence exactly when it does not accept nothing. -/
theorem apply_coincides_iff (h : record.Coincides)
    (happly : record.apply sha event = .ok next) : next.Coincides ↔ ¬ event.AcceptsNothing := by
  have hcases := transition_eq_ok (apply_eq_ok_iff.mp happly).1
  cases event with
  | Activate =>
    obtain ⟨hauthority, rfl⟩ := hcases
    have hnone := unfenced_custody hvalid (by rw [hauthority]; rfl)
    simp [Coincides, WorkerSessionEventV1.AcceptsNothing, hnone]
  | Tombstone =>
    obtain ⟨hlive, rfl⟩ := hcases
    simp [Coincides, WorkerSessionEventV1.AcceptsNothing, unfenced_custody hvalid hlive]
  | AcceptCandidate =>
    obtain ⟨_, _, _, _, hreason, rfl⟩ := hcases
    simp [Coincides, WorkerSessionEventV1.AcceptsNothing, WorkerCandidateCustodyStateV1.custody, hreason]
  | CompleteCleanup =>
    obtain ⟨_, _, hauthority, rfl⟩ := hcases
    simpa [Coincides, WorkerSessionEventV1.AcceptsNothing, hauthority] using h
  | RecordBrokerOutcome =>
    obtain ⟨_, ⟨hcandidate, rfl⟩ | ⟨_, rfl⟩⟩ := hcases
    · simpa [Coincides, WorkerSessionEventV1.AcceptsNothing, WorkerCandidateCustodyStateV1.custody, hcandidate] using h
    · simpa [WorkerSessionEventV1.AcceptsNothing] using h

theorem run_coincides {events : List WorkerSessionEventV1}
    (h : record.Coincides) (hevents : ∀ event ∈ events, ¬ event.AcceptsNothing) :
    (record.run sha events).Coincides := by
  induction events generalizing record with
  | nil => exact h
  | cons event events ih =>
    obtain ⟨hevent, hrest⟩ := List.forall_mem_cons.mp hevents
    refine ih (after_valid hvalid) ?_ hrest
    rcases after_cases sha record event with ⟨_, hsame⟩ | happlied
    · change (record.after sha event).Coincides
      rwa [hsame]
    · exact (apply_coincides_iff hvalid h happlied).mpr hevent

omit hvalid

theorem new_coincides {spec : BatchSessionSpecV1} (h : WorkerSessionRecordV1.new sha spec = .ok record) :
    record.Coincides := by
  rw [(new_facts h).2]
  simp [Coincides, WorkerCandidateCustodyStateV1.custody]

end Coincidence

/-- Candidate-accepted tombstones and candidate custody coincide along every run without
an event that fences the worker for a candidate that was not accepted, and the first such
event that is applied breaks the coincidence. -/
theorem accepted_coincides_with_custody {sha : Sha256} {spec : BatchSessionSpecV1} {record : WorkerSessionRecordV1}
    (hnew : WorkerSessionRecordV1.new sha spec = .ok record) {events : List WorkerSessionEventV1}
    (hevents : ∀ event ∈ events, ¬ event.AcceptsNothing) :
    (record.run sha events).Coincides ∧
    ∀ event next, (record.run sha events).apply sha event = .ok next →
      (next.Coincides ↔ ¬ event.AcceptsNothing) := by
  have hvalid := (new_facts hnew).1
  have hcoincides := run_coincides hvalid (new_coincides hnew) hevents
  exact ⟨hcoincides, fun _ _ => apply_coincides_iff (run_valid hvalid) hcoincides⟩

/-- A worker that was launched and whose candidate was accepted holds the candidate. -/
theorem accepted_coincides_submitted :
    ∃ (spec : BatchSessionSpecV1) (record : WorkerSessionRecordV1) (events : List WorkerSessionEventV1),
      WorkerSessionRecordV1.new ideal_sha spec = .ok record ∧
      (record.run ideal_sha events).candidate.custody.isSome = true ∧ (record.run ideal_sha events).Coincides := by
  obtain ⟨spec, record, hnew⟩ := new_attainable ideal_sha_collision_free
  obtain ⟨candidate, hrun⟩ := candidate_accepted hnew ⟨[]⟩
  refine ⟨spec, record, _, hnew, by rw [hrun]; rfl, (accepted_coincides_with_custody hnew ?_).1⟩
  simp [WorkerSessionEventV1.AcceptsNothing]

/-- A worker is fenced for an accepted candidate although there is none. -/
theorem accepted_without_custody :
    ∃ (spec : BatchSessionSpecV1) (record : WorkerSessionRecordV1) (tombstone : WorkerPrincipalTombstoneV1),
      WorkerSessionRecordV1.new ideal_sha spec = .ok record ∧
      ¬ (record.run ideal_sha [.Tombstone tombstone]).Coincides := by
  obtain ⟨spec, record, hnew⟩ := new_attainable ideal_sha_collision_free
  have happly := tombstone_applied hnew .CandidateAccepted
  refine ⟨spec, record, record.tombstone_for ideal_sha .CandidateAccepted, hnew, ?_⟩
  change ¬ (record.after ideal_sha _).Coincides
  rw [after, happly, apply_coincides_iff (new_facts hnew).1 (new_coincides hnew) happly]
  exact fun h => h rfl

end ag_session

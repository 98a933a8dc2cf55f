import AgentGovernor.Governed.MembraneSpec

open ag_primitives Checked

namespace ag_campaign.governed

open OccurrenceSnapshotV1 (key program_counter)

/-- The pairs of snapshots the transition table of the membrane lets through, one
constructor for each of its arms. What an arm checks of the target's own payload
is part of the target's integrity and is not repeated. -/
inductive LegalSuccessor (source target : OccurrenceSnapshotV1) : Prop where
  | proposed
    (hsource : source.state = .ObservationRequired prev) (htarget : target.state = .ProposalRecorded next)
    (hrecorded : RecordedFrom prev next)
  | standing (hsource : source.state = .ProposalRecorded proposal)
    (htarget : target.state = .StandingRequired proposal)
  | admitted (hsource : source.state = .StandingRequired prev)
    (htarget : target.state = .AdmissiblePendingAuthorization next)
    (hsame : same_proposal_basis prev next.proposal)
  | consumed (hsource : source.state = .AdmissiblePendingAuthorization prev)
    (htarget : target.state = .AuthorizationConsumed next)
    (hsame : same_proposal_basis prev.proposal next.admitted.proposal)
  | dispatched (hsource : source.state = .AuthorizationConsumed authorized)
    (htarget : target.state = .Dispatched { authorized, custody })
  | settled (hsource : source.state = .Dispatched dispatch)
    (htarget : target.state = .SettledObservationRequired { dispatch, settlement })
  | indeterminate (hsource : source.state = .Dispatched dispatch)
    (htarget : target.state = .ReconciliationRequired { dispatch, indeterminate })
  | reconciled (hsource : source.state = .ReconciliationRequired reconciling)
    (htarget : target.state = .SettledObservationRequired { dispatch := reconciling.dispatch, settlement })
  | continued (hsource : source.state = .SettledObservationRequired settled)
    (htarget : target.state = .ObservationRequired next)
    (hcontinued : ContinuedFrom source
      (some settled.dispatch.authorized.admitted.proposal.proposal_ref)
      (some settled.dispatch.authorized.admitted.proposal.observation.normalized_preconditions) next)
    (hprogram : next.metadata.program = source.state.metadata.program)
  | halted (hsafe : is_safe_halt_source source.program_counter = true) (htarget : target.state = .Halted next)
    (hhalted : HaltedFrom source.state next)
  | decided (hsource : source.state = .Halted prev) (htarget : target.state = .Halted next)
    (hupdated : HaltUpdated prev next)
  | resumed (hsource : source.state = .Halted halted) (htarget : target.state = .ObservationRequired next)
    (hresolved : halted.unresolved_attempt = none)
    (hcontinued : ContinuedFrom source halted.prior.proposal halted.prior.normalized_preconditions next)
  | terminated (hsource : source.state = .Halted halted) (htarget : target.state = .Completed next)
    (hcompleted : HumanCompleted halted next)
  | completed (hsource : source.state = .ObservationRequired prev) (htarget : target.state = .Completed next)
    (hmetadata : next.metadata = prev.metadata)
  | probed (hrunning : source.program_counter ≠ .Halted)
    (hcounter : source.program_counter = target.program_counter)
    (hprobe : validate_probe_successor source.state target.state)

section Table

variable {sha : Sha256} {source target : OccurrenceSnapshotV1}

theorem persist_probe_eq_ok_iff :
    persist_probe source target = .ok () ↔ source.key = target.key ∧
      source.program_counter = target.program_counter ∧
      validate_probe_successor source.state target.state := by
  simp only [persist_probe, ok_rules]

/-- Two snapshots under different program counters are no probe. -/
theorem persist_probe_ne_ok (h : source.program_counter ≠ target.program_counter) :
    persist_probe source target ≠ .ok () := by
  rw [Ne, persist_probe_eq_ok_iff]
  exact fun hprobe => h hprobe.2.1

/-- An arm of the table whose guard fails leaves nothing to accept, because the
program counters of its two sides differ. -/
theorem of_guarded {left right : OccurrenceStateV1} {guard : Prop} [Decidable guard]
    {check : Except KernelErrorV1 Unit} (hsource : source.state = left) (htarget : target.state = right)
    (hcounter : left.program_counter ≠ right.program_counter)
    (h : (if guard then check else persist_probe source target) = .ok ()) : guard ∧ check = .ok () := by
  have hne : source.program_counter ≠ target.program_counter := by
    rwa [program_counter, program_counter, hsource, htarget]
  by_cases hguard : guard
  · exact ⟨hguard, by simpa [hguard] using h⟩
  · rw [if_neg hguard] at h
    exact absurd h (persist_probe_ne_ok hne)

theorem legal_of_persist_transition (h : persist_transition sha source target = .ok ()) :
    LegalSuccessor source target := by
  unfold persist_transition at h
  dsimp only at h
  split at h
  · next hs ht =>
    obtain ⟨_, h⟩ := of_guarded hs ht (by rintro ⟨⟩) h
    exact .proposed hs ht (validate_recorded_proposal_eq_ok_iff.mp h)
  · next hs ht =>
    obtain ⟨⟨_, rfl⟩, _⟩ := of_guarded hs ht (by rintro ⟨⟩) h
    exact .standing hs ht
  · next hs ht =>
    obtain ⟨⟨_, hsame⟩, _⟩ := of_guarded hs ht (by rintro ⟨⟩) h
    exact .admitted hs ht hsame
  · next hs ht =>
    obtain ⟨⟨_, hsame⟩, _⟩ := of_guarded hs ht (by rintro ⟨⟩) h
    exact .consumed hs ht hsame
  · next hs ht =>
    obtain ⟨⟨_, rfl⟩, _⟩ := of_guarded hs ht (by rintro ⟨⟩) h
    exact .dispatched hs ht
  · next hs ht =>
    obtain ⟨⟨_, rfl⟩, _⟩ := of_guarded hs ht (by rintro ⟨⟩) h
    exact .settled hs ht
  · next hs ht =>
    obtain ⟨⟨_, rfl⟩, _⟩ := of_guarded hs ht (by rintro ⟨⟩) h
    exact .indeterminate hs ht
  · next prev next hs ht =>
    obtain ⟨⟨_, hdispatch⟩, _⟩ := of_guarded hs ht (by rintro ⟨⟩) h
    cases next
    subst hdispatch
    exact .reconciled hs ht
  · next hs ht =>
    obtain ⟨_, h⟩ := of_guarded hs ht (by rintro ⟨⟩) h
    obtain ⟨hcontinued, hprogram⟩ := validate_continuation_eq_ok_iff.mp h
    exact .continued hs ht hcontinued (hprogram rfl)
  · next hs ht =>
    split at h
    · exact .decided hs ht (validate_human_halt_update_eq_ok_iff.mp h)
    · next hkey => exact absurd (persist_probe_eq_ok_iff.mp h).1 hkey
  · next ht hother =>
    have hcounter : source.state.program_counter ≠ .Halted := by
      cases hs : source.state with
      | Halted prev => exact absurd hs (hother prev)
      | _ => rintro ⟨⟩
    obtain ⟨⟨_, hsafe⟩, h⟩ := of_guarded rfl ht hcounter h
    exact .halted hsafe ht (validate_halt_successor_eq_ok_iff.mp h)
  · next hs ht =>
    obtain ⟨⟨_, hresolved⟩, h⟩ := of_guarded hs ht (by rintro ⟨⟩) h
    exact .resumed hs ht hresolved (validate_continuation_eq_ok_iff.mp h).1
  · next hs ht =>
    obtain ⟨_, h⟩ := of_guarded hs ht (by rintro ⟨⟩) h
    exact .terminated hs ht (validate_human_completion_eq_ok_iff.mp h)
  · next hs ht =>
    obtain ⟨⟨_, hmetadata, _⟩, _⟩ :=
      of_guarded hs ht (by rintro ⟨⟩) h
    exact .completed hs ht hmetadata.symm
  · have hnothalted : ∀ next, target.state ≠ .Halted next := by assumption
    obtain ⟨_, hcounter, hprobe⟩ := persist_probe_eq_ok_iff.mp h
    refine .probed ?_ hcounter hprobe
    intro hhalted
    rw [hcounter, program_counter] at hhalted
    cases htarget : target.state with
    | Halted next => exact hnothalted next htarget
    | _ => simp [htarget, OccurrenceStateV1.program_counter] at hhalted

/-- The checks of a snapshot's payload are part of its integrity. -/
theorem validate_payload_of_integrity {state : OccurrenceStateV1}
    (hintegrity : target.validate_integrity sha = .ok ()) (hstate : target.state = state) :
    validate_payload sha state = .ok () := by
  obtain ⟨_, _, _, hvalid⟩ := validate_integrity_eq_ok_iff.mp hintegrity
  exact hstate ▸ (validate_state_eq_ok_iff.mp hvalid).2.2

theorem key_eq_of_states {left right : OccurrenceStateV1} (hsource : source.state = left)
    (htarget : target.state = right) (h : left.metadata.key = right.metadata.key) : source.key = target.key := by
  rw [key, key, hsource, htarget, h]

theorem key_ne_of_continued {proposal : Option ProposalRefV1} {preconditions : Option PreconditionBasisRefV1}
    {next : ObservationRequiredV1} (htarget : target.state = .ObservationRequired next)
    (h : ContinuedFrom source proposal preconditions next) : source.key ≠ target.key := by
  simpa [key, htarget, OccurrenceStateV1.metadata] using h.distinct.symm

theorem persist_transition_of_legal (hintegrity : target.validate_integrity sha = .ok ())
    (h : LegalSuccessor source target) : persist_transition sha source target = .ok () := by
  cases h with
  | proposed hs ht hrecorded =>
    have hkey := key_eq_of_states hs ht hrecorded.key
    simpa [persist_transition, hs, ht, hkey] using validate_recorded_proposal_eq_ok_iff.mpr hrecorded
  | standing hs ht =>
    have hkey := key_eq_of_states hs ht rfl
    simp [persist_transition, hs, ht, hkey, pure, Except.pure]
  | admitted hs ht hsame | consumed hs ht hsame =>
    have hkey := key_eq_of_states hs ht (congrArg OccurrenceMetaV1.key hsame.1)
    have hpayload := validate_payload_of_integrity hintegrity ht
    simpa [persist_transition, hs, ht, hkey, hsame, validate_payload] using hpayload
  | dispatched hs ht =>
    have hkey := key_eq_of_states hs ht rfl
    have hpayload := validate_payload_of_integrity hintegrity ht
    simp only [validate_payload, ok_rules] at hpayload
    simpa [persist_transition, hs, ht, hkey] using hpayload.2
  | settled hs ht | indeterminate hs ht | reconciled hs ht =>
    have hkey := key_eq_of_states hs ht rfl
    have hpayload := validate_payload_of_integrity hintegrity ht
    simp only [validate_payload, ok_rules] at hpayload
    simpa [persist_transition, hs, ht, hkey] using hpayload.2.2
  | @continued settled next hs ht hcontinued hprogram =>
    have hkey := key_ne_of_continued ht hcontinued
    simpa [persist_transition, hs, ht, hkey] using
      validate_continuation_eq_ok_iff.mpr ⟨hcontinued, fun _ => hprogram⟩
  | @halted next hsafe ht hhalted =>
    have hkey : source.key = target.key := by
      simpa [key, ht, OccurrenceStateV1.metadata] using hhalted.key.symm
    have hcheck := validate_halt_successor_eq_ok_iff.mpr hhalted
    rw [program_counter] at hsafe
    cases hs : source.state with
    | Halted prev => simp [hs, OccurrenceStateV1.program_counter, is_safe_halt_source] at hsafe
    | _ => simpa [persist_transition, hs, ht, hkey, hs ▸ hsafe] using hs ▸ hcheck
  | decided hs ht hupdated =>
    have hkey := key_eq_of_states hs ht hupdated.key
    simpa [persist_transition, hs, ht, hkey] using validate_human_halt_update_eq_ok_iff.mpr hupdated
  | resumed hs ht hresolved hcontinued =>
    have hkey := key_ne_of_continued ht hcontinued
    have hcheck : validate_continuation source _ _ _ true = .ok () :=
      validate_continuation_eq_ok_iff.mpr ⟨hcontinued, by rintro ⟨⟩⟩
    simpa [persist_transition, hs, ht, hkey, hresolved] using hcheck
  | terminated hs ht hcompleted =>
    have hkey := key_eq_of_states hs ht hcompleted.key
    simpa [persist_transition, hs, ht, hkey] using validate_human_completion_eq_ok_iff.mpr hcompleted
  | completed hs ht hmetadata =>
    have hkey := key_eq_of_states hs ht (congrArg OccurrenceMetaV1.key hmetadata.symm)
    have hpayload := validate_payload_of_integrity hintegrity ht
    simp only [validate_payload, ok_rules, Bool.not_eq_false] at hpayload
    have hempty := hpayload.1
    rw [hmetadata] at hempty
    simp [persist_transition, hs, ht, hkey, hmetadata, hempty, pure, Except.pure]
  | probed hrunning hcounter hprobe =>
    have hpersist : persist_probe source target = .ok () :=
      persist_probe_eq_ok_iff.mpr ⟨hprobe.1, hcounter, hprobe⟩
    rw [program_counter, program_counter] at hcounter
    rw [program_counter] at hrunning
    cases hs : source.state <;> cases ht : target.state <;>
      simp_all [persist_transition, OccurrenceStateV1.program_counter]

/-- The membrane accepts exactly the linked pairs of sound snapshots that form a
legal successor. -/
theorem validate_successor_eq_ok_iff :
    GovernedLoopKernelV1.validate_successor sha source target = .ok () ↔
      source.validate_integrity sha = .ok () ∧ target.validate_integrity sha = .ok () ∧
      target.prior_state_digest = source.state_digest ∧ LegalSuccessor source target := by
  simp only [GovernedLoopKernelV1.validate_successor, ok_rules]
  refine and_congr_right fun _ => and_congr_right fun hintegrity => and_congr_right fun _ => ?_
  exact ⟨legal_of_persist_transition, persist_transition_of_legal hintegrity⟩

/-- A pair that changes the occurrence follows a settlement or a halt. -/
theorem opened_of_legal (h : LegalSuccessor source target) (hkey : source.key ≠ target.key) :
    target.program_counter = .ObservationRequired ∧
      (source.program_counter = .SettledObservationRequired ∨ source.program_counter = .Halted) := by
  rw [program_counter, program_counter]
  rw [key, key] at hkey
  cases h with
  | continued hs ht =>
    rw [hs, ht]
    exact ⟨rfl, .inl rfl⟩
  | resumed hs ht =>
    rw [hs, ht]
    exact ⟨rfl, .inr rfl⟩
  | proposed hs ht hrecorded =>
    rw [hs, ht] at hkey
    exact absurd hrecorded.key hkey
  | admitted hs ht hsame | consumed hs ht hsame =>
    rw [hs, ht] at hkey
    exact absurd (congrArg OccurrenceMetaV1.key hsame.1) hkey
  | halted _ ht hhalted =>
    rw [ht] at hkey
    exact absurd hhalted.key.symm hkey
  | decided hs ht hupdated =>
    rw [hs, ht] at hkey
    exact absurd hupdated.key hkey
  | terminated hs ht hcompleted =>
    rw [hs, ht] at hkey
    exact absurd hcompleted.key hkey
  | completed hs ht hmetadata =>
    rw [hs, ht] at hkey
    exact absurd (congrArg OccurrenceMetaV1.key hmetadata.symm) hkey
  | probed _ _ hprobe => exact absurd hprobe.1 hkey
  | standing hs ht | dispatched hs ht | settled hs ht | indeterminate hs ht | reconciled hs ht =>
    rw [hs, ht] at hkey
    exact absurd rfl hkey

end Table

end ag_campaign.governed

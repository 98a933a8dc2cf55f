import AgentGovernor.Governed.Integrity
import AgentGovernor.Governed.Occurrence

open ag_primitives Checked

namespace ag_campaign.governed

open GovernedLoopKernelV1
open OccurrenceSnapshotV1 (ag_spend key program_counter)

namespace OccurrenceStateV1

/-- No authorization of this occurrence has been spent yet. -/
def before_spend : OccurrenceStateV1 → Bool
  | .ObservationRequired _ | .ProposalRecorded _ | .StandingRequired _
  | .AdmissiblePendingAuthorization _ => true
  | _ => false

/-- The issuance whose outcome is still open in this state. -/
def open_issuance : OccurrenceStateV1 → Option AgIssuanceV1
  | .AuthorizationConsumed value => some value.issuance
  | .Dispatched value => some value.authorized.issuance
  | .ReconciliationRequired value => some value.dispatch.authorized.issuance
  | _ => none

/-- The halted state of an attempt whose outcome was never learned. -/
def holds_unresolved : OccurrenceStateV1 → Bool
  | .Halted value => value.unresolved_attempt.isSome
  | _ => false

end OccurrenceStateV1

/-- The settlement is bound to the issuance and to its canonical attempt. -/
def DocketSettlementV1.Settles (sha : Sha256) (settlement : DocketSettlementV1) (issuance : AgIssuanceV1) :
    Prop :=
  settlement.issuance = issuance.issuance ∧
    settlement.attempt = DocketAttemptRefV1.for_issuance sha issuance.issuance

theorem settled_settles {sha : Sha256} {snapshot : OccurrenceSnapshotV1}
    {value : SettledObservationRequiredV1} (hintegrity : snapshot.validate_integrity sha = .ok ())
    (hstate : snapshot.state = .SettledObservationRequired value) :
    ∃ settlement, snapshot.settlement = some settlement ∧
      settlement.Settles sha value.dispatch.authorized.issuance :=
  ⟨value.settlement, by rw [OccurrenceSnapshotV1.settlement, hstate], settlement_bound hintegrity hstate⟩

/-- A snapshot with a spend has the issuance of that spend, which is still open
or settled by the snapshot itself. -/
theorem issuance_of_spend {sha : Sha256} {snapshot : OccurrenceSnapshotV1} {spend : AgAuthorizationSpendV1}
    (hintegrity : snapshot.validate_integrity sha = .ok ()) (hspend : snapshot.ag_spend = some spend) :
    ∃ issuance, snapshot.issuance = some issuance ∧ issuance.spend = spend.spend ∧
      (snapshot.state.open_issuance = some issuance ∨
        ∃ settlement, snapshot.settlement = some settlement ∧ settlement.Settles sha issuance) := by
  obtain ⟨_, _, _, hvalid⟩ := validate_integrity_eq_ok_iff.mp hintegrity
  obtain ⟨_, _, hpayload⟩ := validate_state_eq_ok_iff.mp hvalid
  have hissuance : ∀ authorized, validate_authorized sha authorized = .ok () →
      authorized.issuance.spend = authorized.spend.spend := by
    intro authorized hauthorized
    simp only [validate_authorized, ok_rules]
      at hauthorized
    rw [hauthorized.2.2]
    rfl
  cases hstate : snapshot.state with
  | AuthorizationConsumed value =>
    simp only [hstate, validate_payload] at hpayload
    simp only [ag_spend, hstate, Option.some.injEq] at hspend
    exact ⟨_, by simp [OccurrenceSnapshotV1.issuance, hstate], hspend ▸ hissuance _ hpayload, .inl rfl⟩
  | Dispatched value | ReconciliationRequired value =>
    simp only [hstate, validate_payload, ok_rules] at hpayload
    simp only [ag_spend, hstate, Option.some.injEq] at hspend
    exact ⟨_, by simp [OccurrenceSnapshotV1.issuance, hstate], hspend ▸ hissuance _ hpayload.1, .inl rfl⟩
  | SettledObservationRequired value =>
    simp only [hstate, validate_payload, ok_rules] at hpayload
    simp only [ag_spend, hstate, Option.some.injEq] at hspend
    exact ⟨_, by simp [OccurrenceSnapshotV1.issuance, hstate], hspend ▸ hissuance _ hpayload.1,
      .inr (settled_settles hintegrity hstate)⟩
  | _ => simp [ag_spend, hstate] at hspend

namespace KernelStep

open OccurrenceStateV1 (before_spend holds_unresolved open_issuance)

variable {sha : Sha256} {op : KernelOp} {source target : OccurrenceSnapshotV1}

variable (h : KernelStep sha op source target)

include h

/-- Within an occurrence nothing returns to the states before the spend. -/
theorem before_spend_of_target (hkey : target.key = source.key)
    (hbefore : target.state.before_spend = true) : source.state.before_spend = true := by
  cases h with
  | continued hop hsource hdistinct htarget =>
    exact absurd hkey (continuation_key_ne hsource hdistinct htarget.state_eq)
  | resumed hop hsource hprogram hresolved hdistinct htarget =>
    exact absurd hkey (resumption_key_ne hsource hdistinct htarget.state_eq)
  | probed hop hpc havailable htarget =>
    rw [htarget.state_eq] at hbefore
    cases hstate : source.state <;> simp_all [OccurrenceStateV1.set_metadata, before_spend]
  | _ =>
    rename_i htarget
    simp_all [htarget.state_eq, before_spend]

/-- A spend that the source did not have comes from an admitted proposal. -/
theorem source_of_new_spend {spend : AgAuthorizationSpendV1}
    (hspend : target.ag_spend = some spend) (hnew : source.ag_spend ≠ some spend) :
    source.state.before_spend = true ∧ target.state.before_spend = false ∧ target.key = source.key := by
  cases h with
  | consumed hop hsource hresolved htarget =>
    refine ⟨by simp [hsource, before_spend],
      by simp [htarget.state_eq, before_spend], ?_⟩
    simp [key, htarget.state_eq, hsource, OccurrenceStateV1.metadata, authorize]
  | probed hop hpc havailable htarget =>
    refine absurd ?_ hnew
    rw [← hspend, ag_spend, ag_spend, htarget.state_eq]
    cases source.state <;> rfl
  | _ =>
    rename_i htarget
    simp_all [ag_spend, htarget.state_eq]

/-- An open issuance stays open, is settled, or is remembered as unresolved. -/
theorem open_issuance_step {issuance : AgIssuanceV1} (hopen : source.state.open_issuance = some issuance) :
    target.key = source.key ∧ target.program_counter ≠ .Completed ∧
      (target.state.open_issuance = some issuance ∨ target.state.holds_unresolved = true ∨
        ∃ settlement, target.settlement = some settlement ∧ settlement.Settles sha issuance) := by
  have hintegrity := h.integrity
  cases h with
  | settled hop hsource htarget | reconciled hop hsource htarget =>
    simp only [hsource, open_issuance, Option.some.injEq] at hopen
    exact ⟨by simp [key, htarget.state_eq, hsource, OccurrenceStateV1.metadata],
      by simp [program_counter, htarget.state_eq, OccurrenceStateV1.program_counter],
      .inr (.inr (hopen ▸ settled_settles hintegrity htarget.state_eq))⟩
  | probed hop hpc havailable htarget =>
    cases hstate : source.state <;>
      simp_all [open_issuance, program_counter, OccurrenceStateV1.program_counter]
  | halted hop hsafe htarget =>
    refine ⟨?_, by simp [program_counter, htarget.state_eq, OccurrenceStateV1.program_counter], .inr (.inl ?_)⟩
    · obtain ⟨_, rfl⟩ | ⟨_, _, rfl⟩ := hop <;>
        simp [key, htarget.state_eq, OccurrenceStateV1.metadata, halted_from, escalated]
    · cases hstate : source.state <;>
        simp_all [open_issuance, program_counter, OccurrenceStateV1.program_counter, is_safe_halt_source,
          htarget.state_eq, holds_unresolved, halted_from, unresolved_attempt_of]
  | _ =>
    rename_i htarget
    simp_all [open_issuance, htarget.state_eq, key, program_counter, OccurrenceStateV1.program_counter,
      OccurrenceStateV1.metadata]

/-- A halted unresolved attempt can be neither left nor completed. -/
theorem holds_unresolved_step (hunresolved : source.state.holds_unresolved = true) :
    target.key = source.key ∧ target.program_counter ≠ .Completed ∧
      target.state.holds_unresolved = true := by
  cases h with
  | probed hop hpc havailable htarget =>
    cases hstate : source.state <;>
      simp_all [holds_unresolved, program_counter, OccurrenceStateV1.program_counter]
  | halted hop hsafe htarget =>
    cases hstate : source.state <;>
      simp_all [holds_unresolved, program_counter, OccurrenceStateV1.program_counter, is_safe_halt_source]
  | _ =>
    rename_i htarget
    simp_all [holds_unresolved, htarget.state_eq, key,
      program_counter, OccurrenceStateV1.program_counter, OccurrenceStateV1.metadata,
      HaltedV1.consume, HaltedV1.discharge, OccurrenceMetaV1.consume_decision]

end KernelStep

end ag_campaign.governed

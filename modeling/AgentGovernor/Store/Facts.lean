import AgentGovernor.Lib.Ledger
import AgentGovernor.Store.Replay

open ag_primitives Checked ag_campaign ag_campaign.governed Relational
open OccurrenceSnapshotV1 (ag_spend docket_custody program_counter settlement)

namespace ag_store

section Entries

variable (snapshot : OccurrenceSnapshotV1)

/-- The spend a snapshot accounts for. -/
def spend_entry : Option (AgSpendRefV1 × ExpectedSpendRow) :=
  match snapshot.ag_spend, snapshot.issuance with
  | some spend, some issuance => some (spend_row spend issuance snapshot.state_digest)
  | _, _ => none

/-- The attempt a snapshot accounts for. -/
def attempt_entry : Option (DocketAttemptRefV1 × ExpectedAttemptRow) :=
  snapshot.docket_custody.map fun custody => attempt_row snapshot.key custody snapshot.state_digest

/-- The settlement a snapshot accounts for. -/
def settlement_entry : Option (SettlementRefV1 × ExpectedSettlementRow) :=
  snapshot.settlement.map fun settlement => settlement_row snapshot.key settlement snapshot.state_digest

/-- A spend and its issuance come together. -/
theorem isSome_issuance : snapshot.issuance.isSome = snapshot.ag_spend.isSome := by
  rw [OccurrenceSnapshotV1.issuance, ag_spend]
  cases snapshot.state <;> rfl

end Entries

section Carried

variable {source target : OccurrenceSnapshotV1}

/-- A probe keeps the spend, the custody and the settlement. -/
theorem facts_of_probe (hprobe : validate_probe_successor source.state target.state) :
    source.ag_spend = target.ag_spend ∧ source.docket_custody = target.docket_custody ∧
      source.settlement = target.settlement := by
  have hsame : target.state.set_metadata source.state.metadata = source.state :=
    hprobe.2.2.2.2.2.2.2.2.2.2
  rw [ag_spend, docket_custody,
    settlement, ← hsame]
  rw [ag_spend, docket_custody, settlement]
  cases target.state <;> exact ⟨rfl, rfl, rfl⟩

variable (h : LegalSuccessor source target)

include h

/-- A spend that is there stays the same for as long as there is one. -/
theorem ag_spend_kept {before after : AgAuthorizationSpendV1}
    (hbefore : source.ag_spend = some before) (hafter : target.ag_spend = some after) : before = after := by
  cases h with
  | probed _ _ hprobe => simpa [hbefore, hafter] using (facts_of_probe hprobe).1
  | halted _ ht => simp [ag_spend, ht] at hafter
  | _ => simp_all [ag_spend]

theorem docket_custody_kept {before after : DocketCustodyV1}
    (hbefore : source.docket_custody = some before) (hafter : target.docket_custody = some after) :
    before = after := by
  cases h with
  | probed _ _ hprobe => simpa [hbefore, hafter] using (facts_of_probe hprobe).2.1
  | halted _ ht => simp [docket_custody, ht] at hafter
  | _ => simp_all [docket_custody]

theorem settlement_kept {before after : DocketSettlementV1}
    (hbefore : source.settlement = some before) (hafter : target.settlement = some after) :
    before = after := by
  cases h with
  | probed _ _ hprobe => simpa [hbefore, hafter] using (facts_of_probe hprobe).2.2
  | halted _ ht => simp [settlement, ht] at hafter
  | _ => simp_all [settlement]

/-- The spend a transition accounts for is the one replay finds in its row. -/
theorem carries_spend :
    Carries (spend_entry source) (spend_entry target) (new_spend source target) := by
  refine carries_of_kept ?_ fun known hknown row hrow => ?_
  · have hissuance := isSome_issuance source
    rw [new_spend, spend_entry, spend_entry]
    cases hspend : source.ag_spend with
    | none => cases target.ag_spend <;> cases target.issuance <;> rfl
    | some spend =>
      rw [hspend] at hissuance
      obtain ⟨issuance, hissued⟩ := Option.isSome_iff_exists.mp hissuance
      rw [hissued]
      rfl
  · unfold spend_entry at hknown hrow
    split at hknown
    · next hbefore _ =>
      split at hrow
      · next hafter _ =>
        cases hknown
        cases hrow
        exact congrArg AgAuthorizationSpendV1.spend (ag_spend_kept h hbefore hafter)
      · cases hrow
    · cases hknown

theorem carries_attempt :
    Carries (attempt_entry source) (attempt_entry target) (new_attempt source target) := by
  refine carries_of_kept ?_ fun known hknown row hrow => ?_
  · rw [new_attempt, attempt_entry, attempt_entry]
    cases source.docket_custody <;> cases target.docket_custody <;> rfl
  · obtain ⟨before, hbefore, rfl⟩ := Option.map_eq_some_iff.mp hknown
    obtain ⟨after, hafter, rfl⟩ := Option.map_eq_some_iff.mp hrow
    exact congrArg DocketCustodyV1.attempt (docket_custody_kept h hbefore hafter)

theorem carries_settlement :
    Carries (settlement_entry source) (settlement_entry target) (new_settlement source target) := by
  refine carries_of_kept ?_ fun known hknown row hrow => ?_
  · rw [new_settlement, settlement_entry, settlement_entry]
    cases source.settlement <;> cases target.settlement <;> rfl
  · obtain ⟨before, hbefore, rfl⟩ := Option.map_eq_some_iff.mp hknown
    obtain ⟨after, hafter, rfl⟩ := Option.map_eq_some_iff.mp hrow
    exact congrArg DocketSettlementV1.settlement (settlement_kept h hbefore hafter)

end Carried

section Decisions

variable {source target : OccurrenceSnapshotV1}

theorem new_decisions_of_eq
    (h : target.state.metadata.used_human_decisions = source.state.metadata.used_human_decisions) :
    new_decisions source target = [] := by
  rw [new_decisions, h, List.filter_eq_nil_iff]
  intro decision hmem
  simpa using hmem

variable (h : LegalSuccessor source target)

include h

/-- Only a halted snapshot consumes a decision, and only by staying halted or by
completing. -/
theorem used_human_decisions_of_legal :
    target.state.metadata.used_human_decisions = source.state.metadata.used_human_decisions ∨
      (source.program_counter = .Halted ∧ target.program_counter ≠ .ObservationRequired) ∧
      exactly_one_appended source.state.metadata.used_human_decisions
        target.state.metadata.used_human_decisions := by
  rw [program_counter, program_counter]
  cases h with
  | proposed hs ht hrecorded =>
    rw [hs, ht]
    exact .inl hrecorded.used_human_decisions.symm
  | admitted hs ht hsame | consumed hs ht hsame =>
    rw [hs, ht]
    exact .inl (congrArg OccurrenceMetaV1.used_human_decisions hsame.1.symm)
  | continued hs ht hcontinued | resumed hs ht _ hcontinued =>
    rw [ht]
    exact .inl hcontinued.used_human_decisions
  | halted _ ht hhalted =>
    rw [ht]
    exact .inl hhalted.used_human_decisions
  | decided hs ht hupdated =>
    rw [hs, ht]
    exact .inr ⟨⟨rfl, by rintro ⟨⟩⟩, hupdated.appended⟩
  | terminated hs ht hcompleted =>
    rw [hs, ht]
    exact .inr ⟨⟨rfl, by rintro ⟨⟩⟩, hcompleted.appended⟩
  | completed hs ht hmetadata =>
    rw [hs, ht]
    exact .inl (congrArg OccurrenceMetaV1.used_human_decisions hmetadata)
  | probed _ _ hprobe => exact .inl hprobe.2.2.2.1.symm
  | standing hs ht | dispatched hs ht | settled hs ht | indeterminate hs ht | reconciled hs ht =>
    rw [hs, ht]
    exact .inl rfl

theorem used_human_decisions_subset :
    source.state.metadata.used_human_decisions ⊆ target.state.metadata.used_human_decisions := by
  rcases used_human_decisions_of_legal h with heq | ⟨_, _, happended⟩
  · exact heq ▸ List.Subset.refl _
  · exact happended.subset

theorem new_decisions_of_legal
    (hcounter : source.program_counter = .Halted → target.program_counter = .ObservationRequired) :
    new_decisions source target = [] := by
  rcases used_human_decisions_of_legal h with heq | ⟨⟨hhalted, hother⟩, _⟩
  · exact new_decisions_of_eq heq
  · exact absurd (hcounter hhalted) hother

omit h

/-- A decision that is appended to the ones before it is the new one. -/
theorem new_decisions_of_appended {decision : HumanDecisionIdV1}
    (happended : exactly_one_appended source.state.metadata.used_human_decisions
      target.state.metadata.used_human_decisions)
    (hlast : target.state.metadata.used_human_decisions.getLast? = some decision)
    (hnodup : target.state.metadata.used_human_decisions.Nodup) :
    new_decisions source target = [decision] ∧
      target.state.metadata.used_human_decisions =
        source.state.metadata.used_human_decisions ++ [decision] := by
  obtain ⟨hlength, rest, hrest⟩ := happended
  have hsingle : rest.length = 1 := by
    rw [← hrest, List.length_append] at hlength
    omega
  obtain ⟨only, rfl⟩ := List.length_eq_one_iff.mp hsingle
  rw [← hrest, List.getLast?_concat] at hlast
  cases hlast
  rw [← hrest, List.nodup_append] at hnodup
  have hfresh : decision ∉ source.state.metadata.used_human_decisions :=
    fun hmem => hnodup.2.2 _ hmem _ (List.mem_singleton_self _) rfl
  refine ⟨?_, hrest.symm⟩
  rw [new_decisions, ← hrest, List.filter_append]
  simp [hfresh]

end Decisions

end ag_store

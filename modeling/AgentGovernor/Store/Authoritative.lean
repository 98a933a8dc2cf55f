import AgentGovernor.Governed.Spend
import AgentGovernor.Store.Reachable

open Std (ExtTreeMap)
open ag_primitives Checked ag_campaign ag_campaign.governed Relational Transaction

namespace ag_store

/-- The issuances stored for one occurrence. -/
def Db.issuances (db : Db) (key : OccurrenceKeyV1) : List AgIssuanceV1 :=
  (db.ag_authorization_spends.rows.filter fun row =>
    row.2.campaign = key.campaign ∧ row.2.occurrence = key.occurrence).map fun row => row.2.issuance_jcs

/-- How far an occurrence has come with its one authorization: it has not spent it, it
holds what it spent it for, or it has moved on. -/
def stage : ProgramCounterV1 → Nat
  | .ObservationRequired | .ProposalRecorded | .StandingRequired | .AdmissiblePendingAuthorization => 0
  | .AuthorizationConsumed => 1
  | .Dispatched | .ReconciliationRequired | .SettledObservationRequired | .Halted | .Completed => 2

theorem stage_eq_one_iff {counter : ProgramCounterV1} :
    stage counter = 1 ↔ counter = .AuthorizationConsumed := by
  cases counter <;> simp [stage]

theorem stage_le_two (counter : ProgramCounterV1) : stage counter ≤ 2 := by
  cases counter <;> simp [stage]

section Pairs

variable {sha : Sha256} {source target : OccurrenceSnapshotV1}

variable (h : LegalSuccessor source target)

include h

/-- Within an occurrence no transition goes back behind the authorization. -/
theorem stage_le_of_legal (hkey : source.key = target.key) :
    stage source.program_counter ≤ stage target.program_counter := by
  rw [OccurrenceSnapshotV1.program_counter, OccurrenceSnapshotV1.program_counter]
  cases h with
  | continued _ ht hcontinued | resumed _ ht _ hcontinued =>
    refine absurd ?_ hcontinued.distinct
    rw [hkey, OccurrenceSnapshotV1.key, ht]
    rfl
  | halted _ ht | decided _ ht | terminated _ ht | completed _ ht =>
    rw [ht]
    exact stage_le_two _
  | probed _ hcounter => exact le_of_eq (congrArg stage hcounter)
  | _ hs ht =>
    rw [hs, ht]
    simp [stage, OccurrenceStateV1.program_counter]

/-- An occurrence is opened only after the one before it has moved on. -/
theorem stage_eq_two_of_opened (hkey : source.key ≠ target.key) :
    stage source.program_counter = 2 := by
  rcases (opened_of_legal h hkey).2 with hcounter | hcounter <;> rw [hcounter] <;> rfl

/-- An issuance that is there stays the same for as long as there is one. -/
theorem issuance_kept {before after : AgIssuanceV1}
    (hbefore : source.issuance = some before) (hafter : target.issuance = some after) : before = after := by
  cases h with
  | probed _ _ hprobe =>
    have hsame : target.state.set_metadata source.state.metadata = source.state :=
      hprobe.2.2.2.2.2.2.2.2.2.2
    have hissuance : source.issuance = target.issuance := by
      rw [OccurrenceSnapshotV1.issuance, ← hsame, OccurrenceSnapshotV1.issuance]
      cases target.state <;> rfl
    simpa [hbefore, hafter] using hissuance
  | halted _ ht => simp [OccurrenceSnapshotV1.issuance, ht] at hafter
  | _ => simp_all [OccurrenceSnapshotV1.issuance]

omit h

/-- A spend is of the occurrence whose snapshot carries it. -/
theorem ag_spend_key {snapshot : OccurrenceSnapshotV1} {spend : AgAuthorizationSpendV1}
    (hintegrity : snapshot.validate_integrity sha = .ok ()) (hspend : snapshot.ag_spend = some spend) :
    spend.key = snapshot.key := by
  have hkey : ∀ authorized, validate_authorized sha authorized = .ok () →
      authorized.spend.key = authorized.admitted.proposal.metadata.key := by
    intro authorized hauthorized
    simp only [validate_authorized, ok_rules]
      at hauthorized
    exact hauthorized.2.1.2.2.1
  rw [OccurrenceSnapshotV1.ag_spend] at hspend
  rw [OccurrenceSnapshotV1.key]
  cases hstate : snapshot.state with
  | AuthorizationConsumed value =>
    have hpayload := validate_payload_of_integrity hintegrity hstate
    rw [hstate, Option.some.injEq] at hspend
    exact hspend ▸ hkey _ hpayload
  | Dispatched value | ReconciliationRequired value | SettledObservationRequired value =>
    have hpayload := validate_payload_of_integrity hintegrity hstate
    simp only [validate_payload, ok_rules] at hpayload
    rw [hstate, Option.some.injEq] at hspend
    exact hspend ▸ hkey _ hpayload.1
  | _ =>
    rw [hstate] at hspend
    cases hspend

end Pairs

/-- The authoritative snapshot of a store: the head points at it, the occurrences are
materialized around it, the issuance it carries is the one that is stored for its
occurrence, and every other occurrence has moved on. -/
structure Authoritative (sha : Sha256) (db : Db) (head : CampaignHeadRow) (current : OccurrenceSnapshotV1) :
    Prop where
  sole : db.campaigns.rows = [head]
  integrity : current.validate_integrity sha = .ok ()
  campaign : current.key.campaign = head.campaign
  occurrence : current.key.occurrence = head.occurrence
  materialized : ∃ latest, Materialized head.campaign latest db.occurrences.rows ∧
    latest[current.key.occurrence]? = some current
  issued : ∀ issuance ∈ current.issuance, db.issuances current.key = [issuance]
  left : ∀ row ∈ db.occurrences.rows, row.occurrence ≠ current.key.occurrence →
    stage row.snapshot.program_counter = 2

/-- What time does to a store: spends and occurrences stay, no occurrence goes back
behind its authorization, and the profile of the campaign is the one of its genesis. -/
structure Evolves (db db' : Db) : Prop where
  spends : db.ag_authorization_spends.rows <+: db'.ag_authorization_spends.rows
  runtime_profile : db'.runtime_profile = db.runtime_profile
  stages : ∀ row ∈ db.occurrences.rows, ∃ row' ∈ db'.occurrences.rows, row'.campaign = row.campaign ∧
    row'.occurrence = row.occurrence ∧
    stage row.snapshot.program_counter ≤ stage row'.snapshot.program_counter

theorem Evolves.refl (db : Db) : Evolves db db :=
  ⟨List.prefix_rfl, rfl, fun row hrow => ⟨row, hrow, rfl, rfl, le_refl _⟩⟩

theorem Evolves.trans {first second third : Db} (h : Evolves first second) (h' : Evolves second third) :
    Evolves first third := by
  refine ⟨h.spends.trans h'.spends, h'.runtime_profile.trans h.runtime_profile, fun row hrow => ?_⟩
  obtain ⟨middle, hmiddle, hcampaign, hoccurrence, hstage⟩ := h.stages row hrow
  obtain ⟨last, hlast, hcampaign', hoccurrence', hstage'⟩ := h'.stages middle hmiddle
  exact ⟨last, hlast, hcampaign'.trans hcampaign, hoccurrence'.trans hoccurrence, hstage.trans hstage'⟩

section Authoritative

variable {sha : Sha256} {head : CampaignHeadRow} {current successor : OccurrenceSnapshotV1}
  {kind : CampaignTransitionKindV1} {evidence : CampaignTransitionEvidenceV1} {recorded_at_unix_ms : UInt64}
  {db db' : Db}

variable {issuance : AgIssuanceV1} {key : OccurrenceKeyV1}

/-- One stored spend of an occurrence decides what is stored for it. -/
theorem issuances_eq_of_mem {row : AgSpendRefV1 × ExpectedSpendRow}
    (hrow : row ∈ db.ag_authorization_spends.rows) (hcampaign : row.2.campaign = key.campaign)
    (hoccurrence : row.2.occurrence = key.occurrence) : db.issuances key = [row.2.issuance_jcs] := by
  have hsingle : db.ag_authorization_spends.rows.filter (fun row =>
      decide (row.2.campaign = key.campaign ∧ row.2.occurrence = key.occurrence)) = [row] := by
    refine Table.filter_eq_singleton hrow (decide_eq_true ⟨hcampaign, hoccurrence⟩) fun other hother => ?_
    obtain ⟨hother, hother'⟩ := of_decide_eq_true hother
    exact .inr (.inr (.inr (.inr ⟨hother.trans hcampaign.symm, hother'.trans hoccurrence.symm⟩)))
  rw [Db.issuances, hsingle]
  rfl

theorem exists_spend_of_issuances
    (h : db.issuances key = [issuance]) : ∃ row ∈ db.ag_authorization_spends.rows,
      row.2.campaign = key.campaign ∧ row.2.occurrence = key.occurrence ∧ row.2.issuance_jcs = issuance := by
  have hmem : issuance ∈ db.issuances key := h ▸ List.mem_singleton_self _
  obtain ⟨row, hrow, hissuance⟩ := List.mem_map.mp hmem
  obtain ⟨hrow, hkey⟩ := List.mem_filter.mp hrow
  obtain ⟨hcampaign, hoccurrence⟩ := of_decide_eq_true hkey
  exact ⟨row, hrow, hcampaign, hoccurrence, hissuance⟩

/-- A stored issuance stays the one of its occurrence. -/
theorem Evolves.issuances (h : Evolves db db')
    (hissuances : db.issuances key = [issuance]) : db'.issuances key = [issuance] := by
  obtain ⟨row, hrow, hcampaign, hoccurrence, rfl⟩ := exists_spend_of_issuances hissuances
  exact issuances_eq_of_mem (h.spends.subset hrow) hcampaign hoccurrence

variable (h : Authoritative sha db head current)

include h

theorem Authoritative.row_eq {row : OccurrenceRow}
    (hrow : row ∈ db.occurrences.rows) (hoccurrence : row.occurrence = current.key.occurrence) :
    row.snapshot = current := by
  obtain ⟨latest, hmaterialized, hlatest⟩ := h.materialized
  have hsnapshot := hmaterialized.latest_eq row hrow
  rw [hoccurrence, hlatest, Option.some.injEq] at hsnapshot
  exact hsnapshot.symm

theorem Authoritative.exists_row :
    ∃ row ∈ db.occurrences.rows, row.campaign = head.campaign ∧ row.occurrence = current.key.occurrence ∧
      row.snapshot = current := by
  obtain ⟨latest, hmaterialized, hlatest⟩ := h.materialized
  exact hmaterialized.exists_row hlatest

/-- The authoritative snapshot is the one the store loads. -/
theorem Authoritative.current_eq :
    CampaignStoreV1.current sha db = (.ok current, db) := by
  obtain ⟨row, hrow, hcampaign, hoccurrence, _⟩ := h.exists_row
  exact returns_current h.sole h.integrity ⟨row, hrow, hcampaign, hoccurrence.trans h.occurrence⟩
    fun row hrow _ hsame => h.row_eq hrow (hsame.trans h.occurrence.symm)

variable (hwritten : Written sha head current successor kind evidence recorded_at_unix_ms db db')

include hwritten

/-- The issuance of a successor is stored: it is the one that was, or it is written with
the transition that spends the authorization. -/
theorem Authoritative.issued_written (hissuance : successor.issuance = some issuance) :
    db'.issuances successor.key = [issuance] := by
  obtain ⟨_, hintegrity, _, hlegal⟩ := hwritten.accepted.legal
  cases hbefore : current.issuance with
  | some before =>
    obtain rfl := issuance_kept hlegal hbefore hissuance
    have hkey : current.key = successor.key := by
      by_contra hne
      have hcounter := (opened_of_legal hlegal hne).1
      rw [OccurrenceSnapshotV1.program_counter] at hcounter
      rw [OccurrenceSnapshotV1.issuance] at hissuance
      cases hstate : successor.state <;> simp_all [OccurrenceStateV1.program_counter]
    obtain ⟨row, hrow, hcampaign, hoccurrence, rfl⟩ := exists_spend_of_issuances (h.issued before hbefore)
    rw [hkey] at hcampaign hoccurrence
    exact issuances_eq_of_mem (hwritten.spends ▸ List.mem_append_left _ hrow) hcampaign hoccurrence
  | none =>
    have hnone : current.ag_spend = none := by
      have hspend := isSome_issuance current
      rw [hbefore] at hspend
      exact Option.isNone_iff_eq_none.mp (by simpa using hspend.symm)
    obtain ⟨spend, hspend⟩ : ∃ spend, successor.ag_spend = some spend := by
      rw [← Option.isSome_iff_exists, ← isSome_issuance, hissuance]
      rfl
    have hnew : new_spend current successor = some (spend_row spend issuance successor.state_digest) := by
      rw [new_spend, hnone, hspend, hissuance]
    have hkey := ag_spend_key hintegrity hspend
    have hmem : spend_row spend issuance successor.state_digest ∈ db'.ag_authorization_spends.rows := by
      rw [hwritten.spends, hnew]
      exact List.mem_append_right _ (List.mem_singleton_self _)
    exact issuances_eq_of_mem hmem (congrArg OccurrenceKeyV1.campaign hkey)
      (congrArg OccurrenceKeyV1.occurrence hkey)

omit h in
/-- The rows of a written transition: the one of the successor, and the ones of the
other occurrences as they were. -/
theorem Written.rows_kept :
    ∀ row ∈ db'.occurrences.rows, row.occurrence ≠ successor.key.occurrence → row ∈ db.occurrences.rows := by
  intro row hrow hother
  rw [hwritten.occurrences, next_occurrences] at hrow
  split at hrow
  · obtain ⟨old, hold, rfl⟩ := List.mem_map.mp hrow
    split at hother
    · next hmaterializes => exact absurd hmaterializes.2.1 hother
    · next hnot =>
      rw [if_neg hnot]
      exact hold
  · rcases List.mem_append.mp hrow with hrow | hrow
    · exact hrow
    · rw [List.mem_singleton.mp hrow] at hother
      exact absurd rfl hother

/-- A transition that is written from the authoritative snapshot makes its successor
the authoritative one. -/
theorem Authoritative.written :
    ∃ head', Authoritative sha db' head' successor := by
  have ha := hwritten.accepted
  obtain ⟨_, hintegrity, _, hlegal⟩ := ha.legal
  have hcampaign : successor.key.campaign = head.campaign := (ha.head_campaign.trans ha.campaign).symm
  obtain ⟨latest, hmaterialized, hlatest⟩ := h.materialized
  refine ⟨_, hwritten.campaigns, hintegrity, hcampaign, rfl, ?_, ?_, ?_⟩
  · exact ⟨_, hmaterialized.next hcampaign hlatest hwritten.occurrences, ExtTreeMap.getElem?_insert_self⟩
  · exact fun issuance hissuance => h.issued_written hwritten hissuance
  · intro row hrow hother
    have hold := hwritten.rows_kept row hrow hother
    by_cases hcurrent : row.occurrence = current.key.occurrence
    · rw [h.row_eq hold hcurrent]
      refine stage_eq_two_of_opened hlegal fun hkey => hother ?_
      rw [hcurrent, hkey]
    · exact h.left row hold hcurrent

/-- No row of an occurrence is lost, and none goes back. -/
theorem Authoritative.evolves :
    Evolves db db' := by
  obtain ⟨head', h'⟩ := h.written hwritten
  obtain ⟨_, _, _, hlegal⟩ := hwritten.accepted.legal
  obtain ⟨latest, hmaterialized, _⟩ := h.materialized
  obtain ⟨latest', hmaterialized', _⟩ := h'.materialized
  refine ⟨hwritten.spends ▸ List.prefix_append _ _, hwritten.runtime_profile, fun row hrow => ?_⟩
  by_cases hkey : current.key = successor.key
  · by_cases hcurrent : row.occurrence = current.key.occurrence
    · obtain ⟨row', hrow', hcampaign', hoccurrence', hsnapshot'⟩ := h'.exists_row
      refine ⟨row', hrow', ?_, ?_, ?_⟩
      · rw [hcampaign', ← h'.campaign, hmaterialized.sole row hrow, ← hkey, h.campaign]
      · rw [hoccurrence', hcurrent, hkey]
      · rw [hsnapshot', h.row_eq hrow hcurrent]
        exact stage_le_of_legal hlegal hkey
    · have hnot : ¬ row.materializes successor.key current.state_digest :=
        fun hmaterializes => hcurrent (hmaterializes.2.1.trans (congrArg OccurrenceKeyV1.occurrence hkey.symm))
      refine ⟨row, ?_, rfl, rfl, le_refl _⟩
      rw [hwritten.occurrences, next_occurrences, if_pos hkey]
      exact List.mem_map.mpr ⟨row, hrow, if_neg hnot⟩
  · refine ⟨row, ?_, rfl, rfl, le_refl _⟩
    rw [hwritten.occurrences, next_occurrences, if_neg hkey]
    exact List.mem_append_left _ hrow

omit h hwritten

/-- A store is created around its authoritative snapshot. -/
theorem Created.authoritative {initial : OccurrenceSnapshotV1} {runtime_profile : Option (String × Jcs)}
    (h : Created sha initial runtime_profile recorded_at_unix_ms db) :
    Authoritative sha db (genesis_head sha initial runtime_profile recorded_at_unix_ms) initial := by
  have hempty : Materialized initial.key.campaign ∅ [] := ⟨by simp, by simp, by simp, by simp⟩
  refine ⟨h.campaigns, h.integrity, rfl, rfl, ?_, ?_, ?_⟩
  · refine ⟨(∅ : ExtTreeMap OccurrenceId OccurrenceSnapshotV1).insert initial.key.occurrence initial, ?_,
      ExtTreeMap.getElem?_insert_self⟩
    rw [h.occurrences]
    refine hempty.insert rfl ?_ ⟨1, List.mem_singleton_self _⟩ (by simp)
    exact fun row hrow => .inl ⟨1, List.mem_singleton.mp hrow⟩
  · intro issuance hissuance
    have hcounter := h.program_counter
    rw [OccurrenceSnapshotV1.program_counter] at hcounter
    rw [OccurrenceSnapshotV1.issuance] at hissuance
    cases hstate : initial.state <;> simp_all [OccurrenceStateV1.program_counter]
  · intro row hrow hother
    rw [h.occurrences, List.mem_singleton] at hrow
    rw [hrow] at hother
    exact absurd rfl hother

end Authoritative

section Calls

variable {sha : Sha256} {head : CampaignHeadRow} {current : OccurrenceSnapshotV1} {call : StoreCall}
  {receipts : List CampaignCommitReceiptV1} {db db' : Db}

/-- The snapshots a call commits, in order. -/
def StoreCall.successors : StoreCall → List OccurrenceSnapshotV1
  | .commit _ successor _ _ => [successor]
  | .commit_human_disposition _ effect _ _ => effect.snapshots
  | .commit_governed_intervention _ successor _ _ _ => [successor]
  | .record_refusal _ _ => []

/-- Tables that the authoritative snapshot does not rest on may change. -/
theorem Authoritative.of_eq (h : Authoritative sha db head current)
    (hcampaigns : db'.campaigns = db.campaigns) (hoccurrences : db'.occurrences = db.occurrences)
    (hspends : db'.ag_authorization_spends = db.ag_authorization_spends) :
    Authoritative sha db' head current := by
  refine ⟨hcampaigns ▸ h.sole, h.integrity, h.campaign, h.occurrence, hoccurrences ▸ h.materialized, ?_,
    hoccurrences ▸ h.left⟩
  intro issuance hissuance
  rw [Db.issuances, hspends]
  exact h.issued issuance hissuance

theorem Evolves.of_eq (hprofile : db'.runtime_profile = db.runtime_profile)
    (hoccurrences : db'.occurrences = db.occurrences)
    (hspends : db'.ag_authorization_spends = db.ag_authorization_spends) : Evolves db db' := by
  refine ⟨hspends ▸ List.prefix_rfl, hprofile, fun row hrow => ?_⟩
  rw [hoccurrences]
  exact ⟨row, hrow, rfl, rfl, le_refl _⟩

/-- A call that was computed from the authoritative snapshot and succeeds makes the last
snapshot it commits the authoritative one. -/
theorem StoreCall.authoritative (h : Authoritative sha db head current)
    (hexpected : ∀ expected ∈ call.expected, expected = current)
    (hcall : Returns (call.execute sha) db receipts db') :
    (∃ head', Authoritative sha db' head' (call.successors.getLast?.getD current)) ∧ Evolves db db' := by
  cases call with
  | commit expected successor kind recorded_at_unix_ms =>
    obtain rfl := hexpected expected rfl
    obtain ⟨_, hcommit, _⟩ := returns_bind_pure_iff.mp hcall
    obtain ⟨_, hwritten, _⟩ := (CampaignStoreV1.returns_commit_iff h.sole).mp hcommit
    exact ⟨h.written hwritten, h.evolves hwritten⟩
  | commit_governed_intervention expected successor kind verified recorded_at_unix_ms =>
    obtain rfl := hexpected expected rfl
    obtain ⟨_, hcommit, _⟩ := returns_bind_pure_iff.mp hcall
    obtain ⟨_, hwritten, _⟩ := (CampaignStoreV1.returns_commit_governed_intervention_iff h.sole).mp hcommit
    exact ⟨h.written hwritten, h.evolves hwritten⟩
  | commit_human_disposition expected effect artifact recorded_at_unix_ms =>
    obtain rfl := hexpected expected rfl
    obtain ⟨_, disposed, middle, hdisposed, hfirst, hsecond⟩ :=
      CampaignStoreV1.returns_commit_human_disposition h.sole hcall
    have hd := h.of_eq hdisposed.campaigns hdisposed.occurrences hdisposed.spends
    have hevolves := (Evolves.of_eq hdisposed.runtime_profile hdisposed.occurrences hdisposed.spends).trans
      (hd.evolves hfirst)
    obtain ⟨head', hmiddle⟩ := hd.written hfirst
    cases effect with
    | Updated snapshot verification =>
      obtain ⟨rfl, _⟩ := hsecond
      exact ⟨⟨head', hmiddle⟩, hevolves⟩
    | OpenedOccurrence halted successor verification =>
      obtain ⟨next, hnext, hopened, _⟩ := hsecond
      obtain rfl : next = head' := by simpa using hnext.symm.trans hmiddle.sole
      exact ⟨hmiddle.written hopened, hevolves.trans (hmiddle.evolves hopened)⟩
  | record_refusal refusal recorded_at_unix_ms =>
    obtain ⟨_, hrecord, _⟩ := returns_bind_pure_iff.mp hcall
    obtain ⟨_, _, _, _, refusals, _, rfl⟩ := returns_record_refusal hrecord
    exact ⟨⟨head, h.of_eq rfl rfl rfl⟩, .of_eq rfl rfl rfl⟩

end Calls

end ag_store

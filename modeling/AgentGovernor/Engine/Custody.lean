import AgentGovernor.Engine.EngineRun

open ag_primitives Checked ag_campaign ag_campaign.governed ag_store Effects Transaction

namespace ag_app.governed_loop

/-- The occurrence is current and has spent its authorization, but Docket has not been
recorded to have custody. -/
def HoldsAuthorization (sha : Sha256) (db : Db) (key : OccurrenceKeyV1) : Prop :=
  ∃ current, CampaignStoreV1.current sha db = (.ok current, db) ∧ current.key = key ∧
    current.program_counter = .AuthorizationConsumed

/-- The issuance is offered to Docket while the occurrence is current. -/
def Offers (sha : Sha256) (event : EngineEvent) (key : OccurrenceKeyV1) (issuance : AgIssuanceV1) : Prop :=
  event.op = .accept_issuance issuance ∧
    ∃ current, CampaignStoreV1.current sha event.before = (.ok current, event.before) ∧ current.key = key

/-- One issuance per occurrence at the custody port, over a whole run. -/
structure OneIssuance (sha : Sha256) (events : List EngineEvent) (final : Db) : Prop where
  /-- An issuance is offered only from the snapshot that spent the authorization, and it
  is the one that is stored for the occurrence, then and to the end of the run. -/
  offered : ∀ event ∈ events, ∀ issuance, event.op = .accept_issuance issuance →
    ∃ current, CampaignStoreV1.current sha event.before = (.ok current, event.before) ∧
      current.program_counter = .AuthorizationConsumed ∧ current.issuance = some issuance ∧
      event.before.issuances current.key = [issuance] ∧ final.issuances current.key = [issuance]
  /-- All offers of an occurrence carry the same issuance. -/
  same : ∀ first ∈ events, ∀ second ∈ events, ∀ key issuance issuance', Offers sha first key issuance →
    Offers sha second key issuance' → issuance = issuance'
  /-- At every point of the run, the issuance of the current snapshot is the stored one. -/
  stored : ∀ db, (db = final ∨ ∃ event ∈ events, db = event.before) →
    ∀ current, CampaignStoreV1.current sha db = (.ok current, db) →
    ∀ issuance ∈ current.issuance, db.issuances current.key = [issuance]
  /-- Nothing is offered for an occurrence that held its authorization and has left it. -/
  closed : ∀ entered left later, [entered, left, later].Sublist events → ∀ key,
    HoldsAuthorization sha entered.before key → ¬ HoldsAuthorization sha left.before key →
    ∀ issuance, ¬ Offers sha later key issuance

section Authorization

variable {sha : Sha256} {db db' : Db} {head : CampaignHeadRow} {current : OccurrenceSnapshotV1}
  {key : OccurrenceKeyV1}

/-- Some row of the occurrence has come at least this far. -/
def Reached (db : Db) (key : OccurrenceKeyV1) (least : Nat) : Prop :=
  ∃ row ∈ db.occurrences.rows, row.campaign = key.campaign ∧ row.occurrence = key.occurrence ∧
    least ≤ stage row.snapshot.program_counter

theorem Reached.evolves {least : Nat} (h : Reached db key least) (hevolves : Evolves db db') :
    Reached db' key least := by
  obtain ⟨row, hrow, hcampaign, hoccurrence, hleast⟩ := h
  obtain ⟨row', hrow', hcampaign', hoccurrence', hstage⟩ := hevolves.stages row hrow
  exact ⟨row', hrow', hcampaign'.trans hcampaign, hoccurrence'.trans hoccurrence, hleast.trans hstage⟩

variable (h : Authoritative sha db head current)

include h

theorem eq_current {snapshot : OccurrenceSnapshotV1}
    (hsnapshot : CampaignStoreV1.current sha db = (.ok snapshot, db)) : snapshot = current := by
  simpa using congrArg Prod.fst (hsnapshot.symm.trans h.current_eq)

theorem reached_of_holds (hholds : HoldsAuthorization sha db key) :
    Reached db key 1 := by
  obtain ⟨snapshot, hsnapshot, rfl, hcounter⟩ := hholds
  obtain rfl := eq_current h hsnapshot
  obtain ⟨row, hrow, hcampaign, hoccurrence, hrowsnapshot⟩ := h.exists_row
  refine ⟨row, hrow, hcampaign.trans h.campaign.symm, hoccurrence, ?_⟩
  rw [hrowsnapshot, hcounter]
  exact le_refl _

/-- An occurrence that has spent its authorization and does not hold it has moved on:
either its own snapshot has, or another occurrence is current. -/
theorem reached_of_not_holds (hreached : Reached db key 1) (hnot : ¬ HoldsAuthorization sha db key) :
    Reached db key 2 := by
  obtain ⟨row, hrow, hcampaign, hoccurrence, hleast⟩ := hreached
  refine ⟨row, hrow, hcampaign, hoccurrence, ?_⟩
  by_cases hcurrent : row.occurrence = current.key.occurrence
  · have hsnapshot := h.row_eq hrow hcurrent
    have hkey : current.key = key := by
      obtain ⟨latest, hmaterialized, _⟩ := h.materialized
      have hsole : key.campaign = current.key.campaign := by
        rw [← hcampaign, hmaterialized.sole row hrow, h.campaign]
      have hsame : key.occurrence = current.key.occurrence := hoccurrence.symm.trans hcurrent
      cases key
      cases hk : current.key
      simp_all
    have hne : stage row.snapshot.program_counter ≠ 1 := by
      intro hone
      refine hnot ⟨current, h.current_eq, hkey, ?_⟩
      rw [hsnapshot] at hone
      exact stage_eq_one_iff.mp hone
    omega
  · exact (h.left row hrow hcurrent).ge

/-- Once it has moved on an occurrence does not hold its authorization. -/
theorem not_holds_of_reached (hreached : Reached db key 2) :
    ¬ HoldsAuthorization sha db key := by
  rintro ⟨snapshot, hsnapshot, rfl, hcounter⟩
  obtain rfl := eq_current h hsnapshot
  obtain ⟨row, hrow, _, hoccurrence, hleast⟩ := hreached
  rw [h.row_eq hrow hoccurrence, hcounter] at hleast
  simp [stage] at hleast

end Authorization

section Lawful

variable {sha : Sha256} {initial : OccurrenceSnapshotV1} {events : List EngineEvent} {final : Db}

variable (h : Lawful sha initial events final)

include h

/-- What is offered is the stored issuance of an occurrence that holds its authorization. -/
theorem Lawful.offered {event : EngineEvent} (hevent : event ∈ events)
    {issuance : AgIssuanceV1} (hop : event.op = .accept_issuance issuance) :
    ∃ current, CampaignStoreV1.current sha event.before = (.ok current, event.before) ∧
      current.program_counter = .AuthorizationConsumed ∧ current.issuance = some issuance ∧
      event.before.issuances current.key = [issuance] ∧ final.issuances current.key = [issuance] := by
  have hwarranted := h.warranted event hevent
  rw [hop] at hwarranted
  obtain ⟨current, hcurrent, hcounter, hissuance⟩ := hwarranted
  obtain ⟨head, snapshot, _, hauthoritative, _⟩ := h.standing event hevent
  obtain rfl := eq_current hauthoritative hcurrent
  have hstored := hauthoritative.issued issuance hissuance
  exact ⟨current, hcurrent, hcounter, hissuance, hstored, (h.evolves event hevent).issuances hstored⟩

theorem Lawful.same {first second : EngineEvent} (hfirst : first ∈ events)
    (hsecond : second ∈ events) {key : OccurrenceKeyV1} {issuance issuance' : AgIssuanceV1}
    (hoffers : Offers sha first key issuance) (hoffers' : Offers sha second key issuance') :
    issuance = issuance' := by
  obtain ⟨hop, snapshot, hsnapshot, rfl⟩ := hoffers
  obtain ⟨hop', snapshot', hsnapshot', hkey⟩ := hoffers'
  obtain ⟨current, hcurrent, _, _, _, hfinal⟩ := h.offered hfirst hop
  obtain ⟨current', hcurrent', _, _, _, hfinal'⟩ := h.offered hsecond hop'
  obtain rfl : snapshot = current := by simpa using congrArg Prod.fst (hsnapshot.symm.trans hcurrent)
  obtain rfl : snapshot' = current' := by simpa using congrArg Prod.fst (hsnapshot'.symm.trans hcurrent')
  rw [hkey, hfinal] at hfinal'
  exact List.singleton_inj.mp hfinal'

theorem Lawful.closed {entered left later : EngineEvent}
    (hsublist : [entered, left, later].Sublist events) {key : OccurrenceKeyV1}
    (hentered : HoldsAuthorization sha entered.before key) (hleft : ¬ HoldsAuthorization sha left.before key)
    (issuance : AgIssuanceV1) : ¬ Offers sha later key issuance := by
  have hordered := h.ordered.sublist hsublist
  simp only [List.pairwise_cons, List.mem_cons, List.not_mem_nil, or_false, forall_eq_or_imp, forall_eq] at hordered
  obtain ⟨⟨hfirst, _⟩, hsecond, _⟩ := hordered
  obtain ⟨_, _, _, hauthoritative, _⟩ := h.standing entered (hsublist.subset (by simp))
  obtain ⟨_, _, _, hauthoritative', _⟩ := h.standing left (hsublist.subset (by simp))
  have hlater : later ∈ events := hsublist.subset (by simp)
  obtain ⟨_, _, _, hauthoritative'', _⟩ := h.standing later hlater
  have hspent := (reached_of_holds hauthoritative hentered).evolves hfirst
  have hmoved := (reached_of_not_holds hauthoritative' hspent hleft).evolves hsecond
  rintro ⟨hop, snapshot, hsnapshot, hkey⟩
  obtain ⟨current, hcurrent, hcounter, _⟩ := h.offered hlater hop
  obtain rfl : snapshot = current := by simpa using congrArg Prod.fst (hsnapshot.symm.trans hcurrent)
  exact not_holds_of_reached hauthoritative'' hmoved ⟨snapshot, hsnapshot, hkey, hcounter⟩

end Lawful

/-- In every run of the engine, with every answer Docket may give and with interruptions
and reopenings anywhere, an occurrence has one issuance at the custody port. -/
theorem EngineHistory.one_issuance {sha : Sha256} (history : EngineHistory sha) :
    OneIssuance sha history.events history.final := by
  obtain ⟨initial, _, hlawful⟩ := history.lawful
  refine ⟨?_, ?_, ?_, ?_⟩
  · exact fun event hevent issuance hop => hlawful.offered hevent hop
  · exact fun first hfirst second hsecond key issuance issuance' => hlawful.same hfirst hsecond
  · rintro db (rfl | ⟨event, hevent, rfl⟩) current hcurrent issuance hissuance
    · obtain ⟨_, _, _, hauthoritative, _⟩ := hlawful.authoritative
      obtain rfl := eq_current hauthoritative hcurrent
      exact hauthoritative.issued issuance hissuance
    · obtain ⟨_, _, _, hauthoritative, _⟩ := hlawful.standing event hevent
      obtain rfl := eq_current hauthoritative hcurrent
      exact hauthoritative.issued issuance hissuance
  · exact fun entered left later hsublist key => hlawful.closed hsublist

end ag_app.governed_loop

import AgentGovernor.Store.Calls

open ag_primitives Checked ag_campaign ag_campaign.governed Relational Transaction

namespace ag_store

/-- A receipt names a journal row. -/
structure StoredTransitionRow.Acknowledged (row : StoredTransitionRow) (receipt : CampaignCommitReceiptV1) :
    Prop where
  predecessor : receipt.predecessor_state_digest = row.predecessor
  successor : receipt.successor_state_digest = row.successor
  event : receipt.event_digest = row.event

theorem exists_acknowledged {added : List StoredTransitionRow} {receipts : List CampaignCommitReceiptV1}
    (h : List.Forall₂ StoredTransitionRow.Acknowledged added receipts) {receipt : CampaignCommitReceiptV1}
    (hreceipt : receipt ∈ receipts) : ∃ row ∈ added, row.Acknowledged receipt := by
  induction h with
  | nil => cases hreceipt
  | cons hfirst _ ih =>
    rcases List.mem_cons.mp hreceipt with rfl | hrest
    · exact ⟨_, List.mem_cons_self, hfirst⟩
    · obtain ⟨row, hrow, hack⟩ := ih hrest
      exact ⟨row, List.mem_cons_of_mem _ hrow, hack⟩

/-- The effect of a call on a journal: the rows it adds at the end, one for each
receipt, the first of them after the snapshot the call was computed from. -/
structure StoreCall.Extends (call : StoreCall) (receipts : List CampaignCommitReceiptV1)
    (head head' : CampaignHeadRow) (db db' : Db) (added : List StoredTransitionRow) : Prop where
  linear : Linear db' head'
  campaign : head'.campaign = head.campaign
  journal : db'.journal head.campaign = db.journal head.campaign ++ added
  acknowledged : List.Forall₂ StoredTransitionRow.Acknowledged added receipts
  first : ∀ expected ∈ call.expected,
    (added.map StoredTransitionRow.predecessor).head? = some expected.state_digest

section Extends

variable {sha : Sha256} {head : CampaignHeadRow} {call : StoreCall}
  {receipts : List CampaignCommitReceiptV1} {db db' : Db}

theorem acknowledged_transition (expected successor : OccurrenceSnapshotV1)
    (kind : CampaignTransitionKindV1) (evidence : CampaignTransitionEvidenceV1)
    (recorded_at_unix_ms : UInt64) :
    (head.transition sha expected successor kind evidence recorded_at_unix_ms).Acknowledged
      (receipt_of sha head expected successor kind evidence recorded_at_unix_ms) :=
  ⟨rfl, rfl, rfl⟩

/-- A call that commits one transition extends the chain by it. -/
theorem StoreCall.extends_of_written {expected successor : OccurrenceSnapshotV1}
    {kind : CampaignTransitionKindV1} {evidence : CampaignTransitionEvidenceV1}
    {recorded_at_unix_ms : UInt64} (hexpected : call.expected = some expected) (hlinear : Linear db head)
    (h : Written sha head expected successor kind evidence recorded_at_unix_ms db db') :
    ∃ head' added, call.Extends
      [receipt_of sha head expected successor kind evidence recorded_at_unix_ms] head head' db db' added := by
  refine ⟨_, _, h.linear hlinear, rfl, h.journal, ?_, ?_⟩
  · exact .cons (acknowledged_transition expected successor kind evidence recorded_at_unix_ms) .nil
  · intro current hcurrent
    obtain rfl : expected = current := by simpa [hexpected] using hcurrent
    rfl

/-- Every call that succeeds extends the chain. -/
theorem StoreCall.extends (hlinear : Linear db head) (h : Returns (call.execute sha) db receipts db') :
    ∃ head' added, call.Extends receipts head head' db db' added := by
  cases call with
  | commit expected successor kind recorded_at_unix_ms =>
    obtain ⟨receipt, hcommit, rfl⟩ := returns_bind_pure_iff.mp h
    obtain ⟨_, hwritten, rfl⟩ := (CampaignStoreV1.returns_commit_iff hlinear.sole).mp hcommit
    exact extends_of_written rfl hlinear hwritten
  | commit_governed_intervention expected successor kind verified recorded_at_unix_ms =>
    obtain ⟨receipt, hcommit, rfl⟩ := returns_bind_pure_iff.mp h
    obtain ⟨_, hwritten, rfl⟩ :=
      (CampaignStoreV1.returns_commit_governed_intervention_iff hlinear.sole).mp hcommit
    exact extends_of_written rfl hlinear hwritten
  | commit_human_disposition expected effect artifact recorded_at_unix_ms =>
    obtain ⟨_, disposed, middle, hdisposed, hfirst, hsecond⟩ :=
      CampaignStoreV1.returns_commit_human_disposition hlinear.sole h
    have hmiddle := hfirst.linear (hdisposed.linear hlinear)
    have hjournal := hfirst.journal
    rw [hdisposed.journal] at hjournal
    cases heffect : effect_second effect with
    | none =>
      rw [heffect] at hsecond
      obtain ⟨rfl, rfl⟩ := hsecond
      refine ⟨_, _, hmiddle, rfl, hjournal, .cons (acknowledged_transition ..) .nil, ?_⟩
      intro current hcurrent
      obtain rfl : expected = current := by simpa [StoreCall.expected] using hcurrent
      rfl
    | some second =>
      rw [heffect] at hsecond
      obtain ⟨next, hnext, hopened, rfl⟩ := hsecond
      obtain rfl : _ = next := by simpa [hmiddle.sole] using hnext
      have hlast := hopened.journal
      change db'.journal head.campaign = middle.journal head.campaign ++ _ at hlast
      rw [hjournal, List.append_assoc] at hlast
      refine ⟨_, _, hopened.linear hmiddle, rfl, hlast, ?_, ?_⟩
      · exact .cons (acknowledged_transition ..) (.cons (acknowledged_transition ..) .nil)
      · intro current hcurrent
        obtain rfl : expected = current := by simpa [StoreCall.expected] using hcurrent
        rfl
  | record_refusal refusal recorded_at_unix_ms =>
    obtain ⟨_, hrefusal, rfl⟩ := returns_bind_pure_iff.mp h
    obtain ⟨_, _, _, _, refusals, _, rfl⟩ := returns_record_refusal hrefusal
    refine ⟨head, [], ⟨hlinear.sole, hlinear.campaign, hlinear.chain, hlinear.last, hlinear.event_count,
      hlinear.revision⟩, rfl, by simp [Db.journal], .nil, ?_⟩
    intro current hcurrent
    simp [StoreCall.expected] at hcurrent

end Extends

end ag_store

import AgentGovernor.Store.CallSpec
import AgentGovernor.Store.Verify

open ag_primitives Checked ag_campaign ag_campaign.governed Relational Transaction

namespace ag_store

/-- A journal row continues the one before it: in its predecessor digest, in the
event it is chained to and in the occurrence it starts from. -/
structure StoredTransitionRow.Continues (earlier later : StoredTransitionRow) : Prop where
  predecessor : later.predecessor = earlier.successor
  previous_event : later.previous_event = earlier.event
  source_occurrence : later.source_occurrence = some earlier.successor_occurrence

/-- The head of a campaign stands at a journal row. -/
structure CampaignHeadRow.StandsAt (head : CampaignHeadRow) (row : StoredTransitionRow) : Prop where
  occurrence : row.successor_occurrence = head.occurrence
  state_digest : row.successor = head.state_digest
  event_head : row.event = head.event_head

/-- The committed transitions form one chain that ends at the head. -/
structure Linear (db : Db) (head : CampaignHeadRow) : Prop where
  sole : db.campaigns.rows = [head]
  campaign : ∀ row ∈ db.transitions.rows, row.1 = head.campaign
  chain : (db.journal head.campaign).IsChain StoredTransitionRow.Continues
  last : ∃ row, (db.journal head.campaign).getLast? = some row ∧ head.StandsAt row
  event_count : head.event_count.toNat = (db.journal head.campaign).length
  revision : head.revision = head.event_count

/-- No state digest is the predecessor of two transitions of a journal. -/
theorem journal_predecessors_nodup (db : Db) (campaign : CampaignId) :
    ((db.journal campaign).map StoredTransitionRow.predecessor).Nodup := by
  unfold Db.journal
  rw [List.map_map, List.Nodup, List.pairwise_map]
  refine (db.transitions.distinct.filter _).imp_of_mem fun {left right} hleft hright hnot heq => hnot ?_
  have hl : left.1 = campaign := by simpa using (List.mem_filter.mp hleft).2
  have hr : right.1 = campaign := by simpa using (List.mem_filter.mp hright).2
  exact .inr (.inl ⟨hl.trans hr.symm, heq⟩)

section Written

variable {sha : Sha256} {head : CampaignHeadRow} {expected successor : OccurrenceSnapshotV1}
  {kind : CampaignTransitionKindV1} {evidence : CampaignTransitionEvidenceV1} {recorded_at_unix_ms : UInt64}
  {db db' : Db}

theorem Written.journal
    (h : Written sha head expected successor kind evidence recorded_at_unix_ms db db') :
    db'.journal head.campaign = db.journal head.campaign ++
      [head.transition sha expected successor kind evidence recorded_at_unix_ms] := by
  have htransitions := h.transitions
  rw [← h.accepted.head_campaign] at htransitions
  simp [Db.journal, htransitions]

/-- A written transition extends the chain by one row. -/
theorem Written.linear
    (h : Written sha head expected successor kind evidence recorded_at_unix_ms db db')
    (hlinear : Linear db head) :
    Linear db' (head.advance successor
      (head.transition sha expected successor kind evidence recorded_at_unix_ms).event) := by
  have hjournal := h.journal
  have ha := h.accepted
  refine ⟨h.campaigns, ?_, ?_, ⟨_, ?_, rfl, rfl, rfl⟩, ?_, ?_⟩
  · intro row hrow
    rw [h.transitions, List.mem_append, List.mem_singleton] at hrow
    rcases hrow with hrow | rfl
    · exact hlinear.campaign row hrow
    · exact ha.head_campaign.symm
  · change (db'.journal head.campaign).IsChain _
    rw [hjournal, List.isChain_append]
    refine ⟨hlinear.chain, .singleton _, ?_⟩
    obtain ⟨last, hlast, hstands⟩ := hlinear.last
    intro earlier hearlier later hlater
    obtain rfl : last = earlier := by simpa [hlast] using hearlier
    obtain rfl : _ = later := by simpa using hlater
    refine ⟨?_, hstands.event_head.symm, ?_⟩
    · exact (hstands.state_digest.trans ha.head_digest).symm
    · exact congrArg some (hstands.occurrence.trans ha.head_occurrence).symm
  · change (db'.journal head.campaign).getLast? = _
    rw [hjournal, List.getLast?_concat]
  · change (saturating_add_u64 head.event_count 1).toNat = (db'.journal head.campaign).length
    rw [toNat_saturating_add_one ha.event_count, hlinear.event_count, hjournal, List.length_append]
    rfl
  · change saturating_add_u64 head.revision 1 = saturating_add_u64 head.event_count 1
    rw [hlinear.revision]

end Written

section Disposed

variable {artifact : HumanDispositionV1} {verification : HumanVerificationRefV1}
  {recorded_at_unix_ms : UInt64} {db db' : Db}

theorem Disposed.journal (h : Disposed artifact verification recorded_at_unix_ms db db')
    (campaign : CampaignId) : db'.journal campaign = db.journal campaign := by
  rw [Db.journal, Db.journal, h.transitions]

/-- Recording a disposition touches neither the journal nor the head. -/
theorem Disposed.linear {head : CampaignHeadRow}
    (h : Disposed artifact verification recorded_at_unix_ms db db') (hlinear : Linear db head) :
    Linear db' head := by
  have hjournal := h.journal head.campaign
  refine ⟨h.campaigns ▸ hlinear.sole, h.transitions ▸ hlinear.campaign, ?_, ?_, ?_, hlinear.revision⟩
  · exact hjournal ▸ hlinear.chain
  · exact hjournal ▸ hlinear.last
  · exact hjournal ▸ hlinear.event_count

end Disposed

end ag_store

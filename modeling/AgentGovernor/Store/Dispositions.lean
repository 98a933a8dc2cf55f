import AgentGovernor.Governed.Decisions
import AgentGovernor.Store.Appended
import AgentGovernor.Store.StayReplayable

open ag_primitives Checked ag_campaign ag_campaign.governed Relational Transaction

namespace ag_store

/-- The dispositions that a sequence of calls commits, in order. A refused call
commits nothing. -/
def committed_dispositions (sha : Sha256) : Db → List StoreCall → List HumanDispositionV1
  | _, [] => []
  | db, call :: calls =>
    (match (call.execute sha db).1 with
      | .ok _ => call.disposition.toList
      | .error _ => []) ++ committed_dispositions sha (call.execute sha db).2 calls

/-- A store from its creation on: the calls made on it, refused ones among them. -/
structure StoreHistory (sha : Sha256) where
  initial : OccurrenceSnapshotV1
  runtime_profile : Option (String × Jcs)
  recorded_at_unix_ms : UInt64
  db : Db
  created : CampaignStoreV1.create_with_runtime_profile sha initial runtime_profile recorded_at_unix_ms = .ok db
  calls : List StoreCall

namespace StoreHistory

variable {sha : Sha256}

/-- The tables after all calls. -/
def final (history : StoreHistory sha) : Db := StoreCall.run sha history.db history.calls

def dispositions (history : StoreHistory sha) : List HumanDispositionV1 :=
  committed_dispositions sha history.db history.calls

end StoreHistory

/-- What a sequence of calls has left in the tables: rows added at the end of the
dispositions, one for each committed artifact, and journal rows whose human
evidence is among them. -/
structure DispositionsAppended (db db' : Db) (committed : List HumanDispositionV1) : Prop where
  rows : ∃ disposed, db'.human_dispositions.rows = db.human_dispositions.rows ++ disposed ∧
    disposed.map (fun row => row.2.artifact_jcs) = committed ∧ ∀ row ∈ disposed, Indexed row
  journal : ∀ row ∈ db'.transitions.rows, row ∈ db.transitions.rows ∨
    ∀ artifact verification, row.2.evidence = .HumanDisposition artifact verification → artifact ∈ committed

section Run

variable {sha : Sha256} {head : CampaignHeadRow} {call : StoreCall} {db middle db' : Db}
  {first second : List HumanDispositionV1}

theorem DispositionsAppended.refl (db : Db) : DispositionsAppended db db [] :=
  ⟨⟨[], by simp, rfl, by simp⟩, fun _ hrow => .inl hrow⟩

theorem DispositionsAppended.trans (hfirst : DispositionsAppended db middle first)
    (hsecond : DispositionsAppended middle db' second) : DispositionsAppended db db' (first ++ second) := by
  obtain ⟨earlier, hearlier, rfl, hindexed⟩ := hfirst.rows
  obtain ⟨later, hlater, rfl, hindexed'⟩ := hsecond.rows
  refine ⟨⟨earlier ++ later, by rw [hlater, hearlier, List.append_assoc], List.map_append, ?_⟩, ?_⟩
  · intro row hrow
    rcases List.mem_append.mp hrow with hrow | hrow
    · exact hindexed row hrow
    · exact hindexed' row hrow
  · intro row hrow
    rcases hsecond.journal row hrow with hold | hnew
    · rcases hfirst.journal row hold with hold | hnew
      · exact .inl hold
      · exact .inr fun artifact verification h => List.mem_append_left _ (hnew artifact verification h)
    · exact .inr fun artifact verification h => List.mem_append_right _ (hnew artifact verification h)

theorem StoreCall.Appends.dispositions_appended {added : List (CampaignId × StoredTransitionRow)}
    {disposed : List (HumanDecisionIdV1 × ExpectedHumanRow)} (h : call.Appends sha db db' added disposed) :
    DispositionsAppended db db' call.disposition.toList := by
  refine ⟨⟨disposed, h.dispositions, h.artifacts, h.indexed⟩, ?_⟩
  intro row hrow
  rw [h.transitions] at hrow
  refine (List.mem_append.mp hrow).imp_right fun hnew artifact verification hevidence => ?_
  have hcall := h.evidence row hnew
  rw [hevidence] at hcall
  cases call <;> simp_all [StoreCall.evidence, StoreCall.disposition]

/-- Any sequence of calls on a linear store appends its committed dispositions. -/
theorem dispositions_appended_run (calls : List StoreCall) :
    ∀ (db : Db) (head : CampaignHeadRow), Linear db head →
      DispositionsAppended db (StoreCall.run sha db calls) (committed_dispositions sha db calls) := by
  induction calls with
  | nil => exact fun db _ _ => .refl db
  | cons call calls ih =>
    intro db head hlinear
    rw [StoreCall.run, List.foldl_cons, committed_dispositions]
    rcases hresult : call.execute sha db with ⟨result, after⟩
    cases result with
    | error error =>
      have hunchanged := call.atomic sha db error (by rw [hresult])
      rw [hresult] at hunchanged
      obtain rfl : after = db := hunchanged
      exact ih after head hlinear
    | ok receipts =>
      obtain ⟨head', added, hextends⟩ := StoreCall.extends hlinear hresult
      obtain ⟨_, _, happends⟩ := StoreCall.appends hlinear.sole hresult
      exact happends.dispositions_appended.trans (ih after head' hextends.linear)

end Run

section Once

variable {sha : Sha256}

/-- The dispositions of a table are pairwise different in decision and in nonce. -/
theorem DispositionsAppended.pairwise {db db' : Db} {committed : List HumanDispositionV1}
    (h : DispositionsAppended db db' committed) :
    committed.Pairwise fun left right => left.decision ≠ right.decision ∧ left.nonce ≠ right.nonce := by
  obtain ⟨disposed, hrows, rfl, hindexed⟩ := h.rows
  have hdistinct := db'.human_dispositions.distinct
  rw [hrows] at hdistinct
  rw [List.pairwise_map]
  refine (List.pairwise_append.mp hdistinct).2.1.imp_of_mem fun {left right} hleft hright hnot => ?_
  obtain ⟨hdecision, hnonce⟩ := hindexed left hleft
  obtain ⟨hdecision', hnonce'⟩ := hindexed right hright
  constructor
  · intro heq
    exact hnot (.inl (hdecision.trans (heq.trans hdecision'.symm)))
  · intro heq
    exact hnot (.inr (hnonce.trans (heq.trans hnonce'.symm)))

theorem StoreHistory.dispositions_appended (history : StoreHistory sha) :
    DispositionsAppended history.db history.final history.dispositions := by
  have hcreated := (create_eq_ok_iff.mp history.created).1
  exact dispositions_appended_run history.calls history.db _ hcreated.linear

/-- A new journal holds no disposition. -/
theorem StoreHistory.evidence_committed (history : StoreHistory sha)
    {row : CampaignId × StoredTransitionRow} (hrow : row ∈ history.final.transitions.rows)
    {artifact : HumanDispositionV1} {verification : HumanVerificationRefV1}
    (hevidence : row.2.evidence = .HumanDisposition artifact verification) :
    artifact ∈ history.dispositions := by
  rcases history.dispositions_appended.journal row hrow with hold | hnew
  · rw [(create_eq_ok_iff.mp history.created).1.transitions] at hold
    rw [List.mem_singleton.mp hold] at hevidence
    cases hevidence
  · exact hnew artifact verification hevidence

/-- A human decision is consumed at most once. In every run of the kernel the used
decisions only grow, by the decision of each successful disposition, which is a new
one, and an opened occurrence takes them over; in every history of a store no two
committed dispositions share a decision or a nonce, and the journal holds only
committed ones. -/
theorem human_decisions_consumed_once :
    (∀ run : CampaignRun sha,
      (∀ step ∈ run.steps,
        step.target.state.metadata.used_human_decisions =
          step.source.state.metadata.used_human_decisions ++ step.consumed ∧
        (step.Opens → step.target.state.metadata.used_human_decisions =
          step.source.state.metadata.used_human_decisions)) ∧
      ∀ before rest, run.steps = before ++ rest →
        DecisionsConsumed sha before (RunState.finish ⟨0, run.initial⟩ before).latest) ∧
    ∀ history : StoreHistory sha,
      history.dispositions.Pairwise
        (fun left right => left.decision ≠ right.decision ∧ left.nonce ≠ right.nonce) ∧
      ∀ row ∈ history.final.transitions.rows, ∀ artifact verification,
        row.2.evidence = .HumanDisposition artifact verification → artifact ∈ history.dispositions := by
  refine ⟨fun run => ⟨fun step hstep => ?_, fun before rest => run.decisions_consumed⟩, fun history =>
    ⟨history.dispositions_appended.pairwise, fun row hrow artifact verification =>
      history.evidence_committed hrow⟩⟩
  have happended := run.decisions_appended hstep
  refine ⟨happended, fun hopens => ?_⟩
  rw [happended, RunStep.consumed_of_opens hopens, List.append_nil]

end Once

end ag_store

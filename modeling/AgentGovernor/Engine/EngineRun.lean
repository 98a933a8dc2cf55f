import AgentGovernor.Engine.EngineSpec

open ag_primitives Checked ag_campaign ag_campaign.governed ag_store Effects Transaction

namespace ag_app.governed_loop

/-- One thing the engine did, between the tables before it and after it. -/
abbrev EngineEvent : Type := Event Db EngineOp

/-- The runs of engines over one store: calls in any order, each to its end or interrupted
anywhere, and reopenings of the store between them. -/
inductive EngineRuns (sha : Sha256) (start : Db) : List EngineEvent → Db → Prop where
  | created : EngineRuns sha start [] start
  | called {past events : List EngineEvent} {db db' : Db} (call : EngineCall)
    {outcome : Option (Except CampaignEngineErrorV1 call.Output)} (hruns : EngineRuns sha start past db)
    (hexecutes : Executes (serves sha) db (call.program sha) events outcome db') :
    EngineRuns sha start (past ++ events) db'
  | reopened {past : List EngineEvent} {db : Db} {report : CampaignReplayReportV1}
    (hruns : EngineRuns sha start past db) (hreplay : CampaignStoreV1.replay sha db = .ok report) :
    EngineRuns sha start past db

/-- A campaign from its creation on: everything its engines did, in order. -/
structure EngineHistory (sha : Sha256) where
  campaign : CampaignId
  occurrence : OccurrenceId
  program : ProgramBasisRefV1
  expected_work : Digest
  residuals : ResidualSetV1
  budget : LoopBudgetV1
  runtime_profile : Option (String × Jcs)
  created_at_unix_ms : UInt64
  db : Db
  created : CampaignEngineV1.create_with_runtime_profile sha campaign occurrence program expected_work residuals
    budget runtime_profile created_at_unix_ms = .ok db
  events : List EngineEvent
  final : Db
  runs : EngineRuns sha db events final

/-- The kernel reaches `current` from `initial` by the given operations. -/
def KernelReaches (sha : Sha256) (initial : OccurrenceSnapshotV1) (ops : List KernelOp)
    (current : OccurrenceSnapshotV1) : Prop :=
  (RunState.finish ⟨0, initial⟩ (RunState.run sha ⟨0, initial⟩ ops)).latest = current

section Kernel

variable {sha : Sha256} {initial current : OccurrenceSnapshotV1} {ops : List KernelOp}

theorem finish_advance_latest (op : KernelOp) (added : List OccurrenceSnapshotV1) :
    ∀ state : RunState, (state.finish (RunState.advance op state added)).latest =
      added.getLast?.getD state.latest := by
  induction added with
  | nil =>
    intro state
    rfl
  | cons target rest ih =>
    intro state
    have hrest := ih (state.enter op target).after
    change (state.finish ([state.enter op target] ++ RunState.advance op _ rest)).latest = _
    rw [RunState.finish_append]
    refine hrest.trans ?_
    cases hlast : rest.getLast? <;> simp [List.getLast?_cons, hlast, RunState.enter, RunStep.after]

/-- One more operation takes the kernel to the last snapshot it adds. -/
theorem KernelReaches.snoc {op : KernelOp} {added : List OccurrenceSnapshotV1}
    (h : KernelReaches sha initial ops current) (happly : op.apply sha current = .ok added) :
    KernelReaches sha initial (ops ++ [op]) (added.getLast?.getD current) := by
  unfold KernelReaches at h ⊢
  rw [RunState.run_append, RunState.finish_append]
  generalize RunState.finish ⟨0, initial⟩ (RunState.run sha ⟨0, initial⟩ ops) = state at h ⊢
  subst h
  have hcall : RunState.run sha state [op] = RunState.advance op state added := by
    simp [RunState.run, RunState.call, happly]
  rw [hcall]
  exact finish_advance_latest op added state

/-- What the kernel reaches proposes the work its occurrence expects. -/
theorem KernelReaches.proposed_work {campaign : CampaignId} {occurrence : OccurrenceId}
    {program : ProgramBasisRefV1} {expected_work : Digest} {residuals : ResidualSetV1} {budget : LoopBudgetV1}
    (hinitial : GovernedLoopKernelV1.create_initial sha campaign occurrence program expected_work residuals
      budget = .ok initial)
    (h : KernelReaches sha initial ops current) {proposal : ExactWorkProposalV1}
    (hproposal : current.proposal = some proposal) :
    proposal.work = current.state.metadata.expected_work := by
  obtain ⟨final, hpath⟩ : ∃ final, RunPath (RunState.Takes sha) _ _ final := RunState.run_path ops ⟨0, initial⟩
  have hstart : ∀ basis ∈ initial.state.proposal_basis, basis.proposal.work = basis.metadata.expected_work := by
    rw [(GovernedLoopKernelV1.create_initial_eq_ok hinitial).2]
    rintro _ ⟨⟩
  have hfinal := RunState.path_proposes_expected_work hpath hstart
  rw [KernelReaches, RunState.path_finish hpath] at h
  rw [h] at hfinal
  obtain ⟨basis, hbasis, rfl⟩ := Option.map_eq_some_iff.mp hproposal
  rw [hfinal basis hbasis, OccurrenceStateV1.proposal_basis_metadata hbasis]

end Kernel

/-- Every integer the operation gives the store is written exactly. -/
def EngineOp.Exact : EngineOp → Prop
  | .call write => write.Exact
  | _ => True

theorem EngineOp.Exact.latest {call : StoreCall} {current : OccurrenceSnapshotV1} (h : (EngineOp.call call).Exact)
    (hcurrent : current.Exact) : (call.successors.getLast?.getD current).Exact := by
  cases call with
  | commit | commit_governed_intervention => exact h.2.1
  | commit_human_disposition _ effect =>
    cases effect with
    | Updated => exact h.2.1
    | OpenedOccurrence _ successor => exact h.2.2.1 successor rfl
  | record_refusal => exact hcurrent

/-- What holds of a run: every store of it has an authoritative snapshot that the kernel
reaches from the first one, nothing was asked for that was not warranted, and the stores
only evolve. -/
structure Lawful (sha : Sha256) (initial : OccurrenceSnapshotV1) (past : List EngineEvent) (db : Db) : Prop where
  authoritative : ∃ head current ops, Authoritative sha db head current ∧
    KernelReaches sha initial ops current ∧ (initial.Exact → (∀ event ∈ past, event.op.Exact) → current.Exact)
  warranted : ∀ event ∈ past, Warranted sha event.before event.op
  standing : ∀ event ∈ past, ∃ head current ops, Authoritative sha event.before head current ∧
    KernelReaches sha initial ops current
  ordered : past.Pairwise fun earlier later => Evolves earlier.before later.before
  evolves : ∀ event ∈ past, Evolves event.before db

section Lawful

variable {sha : Sha256} {initial : OccurrenceSnapshotV1} {past events : List EngineEvent} {db db' : Db}

variable {head : CampaignHeadRow} {op : EngineOp} {answer : op.Answer} {start : Db}

/-- One warranted operation leads from an authoritative snapshot to one. -/
theorem served_authoritative {current : OccurrenceSnapshotV1} {ops : List KernelOp}
    (h : Authoritative sha db head current)
    (hreaches : KernelReaches sha initial ops current) (hwarranted : Warranted sha db op)
    (hserves : serves sha op db answer db') :
    (∃ head' current' ops', Authoritative sha db' head' current' ∧ KernelReaches sha initial ops' current' ∧
      (op.Exact → current.Exact → current'.Exact)) ∧ Evolves db db' := by
  have hunchanged : db = db' → (∃ head' current' ops', Authoritative sha db' head' current' ∧
      KernelReaches sha initial ops' current' ∧ (op.Exact → current.Exact → current'.Exact)) ∧ Evolves db db' := by
    rintro rfl
    exact ⟨⟨head, current, ops, h, hreaches, fun _ hexact => hexact⟩, .refl db⟩
  cases op with
  | current =>
    refine hunchanged ?_
    have hread := readOnly_current sha db
    rw [show CampaignStoreV1.current sha db = (answer, db') from hserves] at hread
    exact hread.symm
  | runtime_profile => exact hunchanged hserves.2
  | consult | accept_issuance | reconcile_issuance | reconcile_attempt => exact hunchanged hserves
  | call call =>
    change call.execute sha db = (answer, db') at hserves
    cases answer with
    | error error =>
      have hatomic := call.atomic sha db error (by rw [hserves])
      rw [hserves] at hatomic
      exact hunchanged hatomic.symm
    | ok receipts =>
      have hexpected : ∀ expected ∈ call.expected, expected = current := by
        intro expected hmem
        have hcurrent := (hwarranted expected hmem).1.symm.trans h.current_eq
        simpa using congrArg Prod.fst hcurrent
      obtain ⟨⟨head', h'⟩, hevolves⟩ := StoreCall.authoritative h hexpected hserves
      refine ⟨?_, hevolves⟩
      cases hcall : call.expected with
      | none =>
        have hnone : call.successors = [] := by
          cases call with
          | record_refusal => rfl
          | _ => cases hcall
        rw [hnone] at h'
        exact ⟨head', current, ops, h', hreaches, fun _ hexact => hexact⟩
      | some expected =>
        obtain ⟨_, op, happly⟩ := hwarranted expected hcall
        rw [hexpected expected hcall] at happly
        exact ⟨head', _, _, h', hreaches.snoc happly, EngineOp.Exact.latest⟩

theorem Lawful.snoc (h : Lawful sha initial past db)
    (hwarranted : Warranted sha db op) (hserves : serves sha op db answer db') :
    Lawful sha initial (past ++ [⟨db, op, db'⟩]) db' := by
  obtain ⟨head, current, ops, hcurrent, hreaches, hexact⟩ := h.authoritative
  obtain ⟨⟨head', current', ops', hcurrent', hreaches', hexact'⟩, hevolves⟩ :=
    served_authoritative hcurrent hreaches hwarranted hserves
  refine ⟨⟨head', current', ops', hcurrent', hreaches', fun hinitial hpast => ?_⟩, ?_, ?_, ?_, ?_⟩
  · rw [List.forall_mem_append] at hpast
    exact hexact' (hpast.2 _ (List.mem_singleton_self _)) (hexact hinitial hpast.1)
  · intro event hmem
    rcases List.mem_append.mp hmem with hmem | hmem
    · exact h.warranted event hmem
    · rw [List.mem_singleton.mp hmem]
      exact hwarranted
  · intro event hmem
    rcases List.mem_append.mp hmem with hmem | hmem
    · exact h.standing event hmem
    · rw [List.mem_singleton.mp hmem]
      exact ⟨head, current, ops, hcurrent, hreaches⟩
  · refine List.pairwise_append.mpr ⟨h.ordered, List.pairwise_singleton _ _, fun earlier hearlier later hlater => ?_⟩
    rw [List.mem_singleton.mp hlater]
    exact h.evolves earlier hearlier
  · intro event hmem
    rcases List.mem_append.mp hmem with hmem | hmem
    · exact (h.evolves event hmem).trans hevolves
    · rw [List.mem_singleton.mp hmem]
      exact hevolves

/-- A call that is executed, or interrupted, extends a lawful run. -/
theorem Lawful.called {call : EngineCall} {outcome : Option (Except CampaignEngineErrorV1 call.Output)}
    (h : Lawful sha initial past db)
    (hexecutes : Executes (serves sha) db (call.program sha) events outcome db') :
    Lawful sha initial (past ++ events) db' := by
  obtain ⟨head, current, _, hcurrent, _⟩ := h.authoritative
  obtain ⟨hwarranted, _⟩ := hexecutes.of_keeps (EngineCall.upholds hcurrent call)
  exact hexecutes.invariant hwarranted (Lawful sha initial) h
    fun _ _ _ _ _ hlawful hallowed hserves => hlawful.snoc hallowed hserves

theorem EngineRuns.lawful (hstart : Authoritative sha start head initial)
    (h : EngineRuns sha start past db) : Lawful sha initial past db := by
  induction h with
  | created => exact ⟨⟨head, initial, [], hstart, rfl, fun hinitial _ => hinitial⟩, by simp, by simp, .nil, by simp⟩
  | called call _ hexecutes ih => exact ih.called hexecutes
  | reopened _ _ ih => exact ih

/-- The stores of a run evolve from the first one. -/
theorem EngineRuns.evolves (hstart : Authoritative sha start head initial)
    (h : EngineRuns sha start past db) : Evolves start db := by
  induction h with
  | created => exact .refl start
  | called call hruns hexecutes ih =>
    have hlawful := hruns.lawful hstart
    obtain ⟨_, _, _, hcurrent, _⟩ := hlawful.authoritative
    obtain ⟨hwarranted, _⟩ := hexecutes.of_keeps (EngineCall.upholds hcurrent call)
    refine (hexecutes.invariant hwarranted (fun past s => Lawful sha initial past s ∧ Evolves start s)
      ⟨hlawful, ih⟩ ?_).2
    rintro _ _ op answer _ ⟨hlawful, hevolves⟩ hallowed hserves
    obtain ⟨_, _, _, hcurrent, hreaches, _⟩ := hlawful.authoritative
    exact ⟨hlawful.snoc hallowed hserves,
      hevolves.trans (served_authoritative hcurrent hreaches hallowed hserves).2⟩
  | reopened _ _ ih => exact ih

end Lawful

namespace EngineHistory

variable {sha : Sha256}

variable (history : EngineHistory sha)

include history

theorem exists_initial : ∃ initial,
    GovernedLoopKernelV1.create_initial sha history.campaign history.occurrence history.program
      history.expected_work history.residuals history.budget = .ok initial ∧
    Created sha initial history.runtime_profile history.created_at_unix_ms history.db := by
  have hcreated := history.created
  simp only [CampaignEngineV1.create_with_runtime_profile, ok_rules] at hcreated
  obtain ⟨initial, hinitial, hstore⟩ := hcreated
  exact ⟨initial, hinitial, (create_eq_ok_iff.mp hstore).1⟩

theorem lawful : ∃ initial,
    GovernedLoopKernelV1.create_initial sha history.campaign history.occurrence history.program
      history.expected_work history.residuals history.budget = .ok initial ∧
    Lawful sha initial history.events history.final := by
  obtain ⟨initial, hinitial, hcreated⟩ := history.exists_initial
  exact ⟨initial, hinitial, history.runs.lawful hcreated.authoritative⟩

/-- The profile of a campaign is the one it was created with. -/
theorem runtime_profile_eq :
    history.final.runtime_profile = stored_profile sha history.runtime_profile := by
  obtain ⟨initial, _, hcreated⟩ := history.exists_initial
  exact (history.runs.evolves hcreated.authoritative).runtime_profile.trans hcreated.profile

theorem runtime_profile_ok :
    CampaignStoreV1.runtime_profile sha history.final = .ok (stored_profile sha history.runtime_profile) := by
  obtain ⟨_, _, hcreated⟩ := history.exists_initial
  rw [CampaignStoreV1.runtime_profile, history.runtime_profile_eq]
  cases hprofile : history.runtime_profile with
  | none => rfl
  | some profile =>
    have htoken := hcreated.token profile hprofile
    refine bind_eq_ok_iff.mpr ⟨(), reject_eq_ok_iff.mpr (not_or.mpr ⟨not_not.mpr htoken, ?_⟩), rfl⟩
    exact not_not.mpr rfl

end EngineHistory

end ag_app.governed_loop

import AgentGovernor.Engine.EngineProgress

open ag_primitives Checked ag_campaign ag_campaign.governed ag_store Effects Transaction

namespace ag_app.governed_loop

/-- The calls that decide or spend under an exact-basis catalog and a presented plan. -/
inductive EngineCall.Gated (catalog : ExactWorkCatalogV2) (plan : Option ExactPlanWitnessV1) :
    EngineCall → Prop where
  | decides (inputs : DecisionInputs) :
    Gated catalog plan (.decide_versioned_with_plan (.ExactBasisV2 catalog) plan inputs)
  | authorizes (inputs : DecisionInputs) :
    Gated catalog plan (.authorize_versioned_with_plan (.ExactBasisV2 catalog) plan inputs)

/-- What a catalog entry that admits only some plans pins the presented one to. -/
structure ExactPlanWitnessV1.Pinned {sha : Sha256} (witness : ExactPlanWitnessV1) (history : EngineHistory sha)
    (current : OccurrenceSnapshotV1) (proposal : ExactWorkProposalV1) (admitted : Finset Digest) : Prop where
  work : witness.work = proposal.work
  expected_work : witness.work = current.state.metadata.expected_work
  runtime_profile : (stored_profile sha history.runtime_profile).map StoredRuntimeProfileV1.digest =
    some witness.runtime_profile
  enrolled : witness.enrolled_plan ∈ admitted

section Gate

variable {sha : Sha256} {db db' : Db} {current : OccurrenceSnapshotV1} {catalog : ExactWorkCatalogV2}
  {plan : Option ExactPlanWitnessV1} {call : EngineCall}

/-- When the gate refuses, the call goes no further than reading the store. -/
theorem gated_reads (hcurrent : CampaignStoreV1.current sha db = (.ok current, db))
    {proposal : ExactWorkProposalV1} (hproposal : current.proposal = some proposal)
    {entry : ExactWorkCatalogEntryV2} (hentry : catalog.entries[proposal.work_schema]? = some entry)
    (hrefused : (∀ witness ∈ plan, Binds db witness proposal.work) →
      entry.admits_plan proposal.work plan ≠ .ok ())
    (hcall : call.Gated catalog plan) :
    (call.program sha).Keeps (serves sha) Reads (fun _ _ => True) db := by
  have hgate : ∀ {A : Type} (f : Unit → Engine A), (CampaignEngineV1.check_proposal_plan current catalog plan >>=
      f).Keeps (serves sha) Reads (fun _ _ => True) db := by
    intro A f
    refine keeps_bind (Program.Keeps.imp ?_ CampaignEngineV1.check_proposal_plan_spec)
    rintro result _ ⟨rfl, hpassed⟩
    refine ⟨?_, fun _ _ => trivial⟩
    rintro _ rfl
    obtain ⟨hbinds, hadmits⟩ := hpassed rfl proposal hproposal
    exact absurd (hadmits entry hentry) (hrefused hbinds)
  cases hcall with
  | decides | authorizes =>
    refine keeps_bind (keeps_ask_bind trivial fun answer db' hserves => ?_)
    obtain ⟨rfl, rfl⟩ := Prod.mk.inj (hcurrent.symm.trans hserves)
    refine ⟨?_, fun _ _ => trivial⟩
    rintro _ ⟨⟩
    exact hgate _

theorem reads_unchanged {op : EngineOp} {answer : op.Answer} (hreads : Reads db op)
    (hserves : serves sha op db answer db') : db' = db := by
  cases op with
  | current =>
    have hread := readOnly_current sha db
    rwa [show CampaignStoreV1.current sha db = (answer, db') from hserves] at hread
  | runtime_profile => exact hserves.2.symm
  | _ => exact hreads.elim

end Gate

/-- Under a catalog whose entry for the proposal admits only some plans, a call decides or
spends only with a plan that is pinned, in every run and also when it is interrupted.
Without one, no boundary is consulted and nothing is written. -/
theorem EngineHistory.exact_plan_pinned {sha : Sha256} (history : EngineHistory sha)
    {catalog : ExactWorkCatalogV2} {plan : Option ExactPlanWitnessV1} {call : EngineCall}
    (hcall : call.Gated catalog plan) {current : OccurrenceSnapshotV1}
    (hcurrent : CampaignStoreV1.current sha history.final = (.ok current, history.final))
    {proposal : ExactWorkProposalV1} (hproposal : current.proposal = some proposal)
    {entry : ExactWorkCatalogEntryV2} (hentry : catalog.entries[proposal.work_schema]? = some entry)
    {admitted : Finset Digest} (hadmitted : entry.admitted_plans = some admitted)
    {events : List EngineEvent} {outcome : Option (Except CampaignEngineErrorV1 call.Output)} {db : Db}
    (hexecutes : Executes (serves sha) history.final (call.program sha) events outcome db) :
    ((∃ event ∈ events, ∃ write, event.op = .call write) →
      ∃ witness, plan = some witness ∧ witness.Pinned history current proposal admitted) ∧
    ((¬ ∃ witness, plan = some witness ∧ witness.Pinned history current proposal admitted) →
      (∀ event ∈ events, ∀ boundaries, event.op ≠ .consult boundaries) ∧
      (∀ event ∈ events, ∀ write, event.op ≠ .call write) ∧ db = history.final) := by
  obtain ⟨initial, hinitial, hlawful⟩ := history.lawful
  obtain ⟨_, snapshot, _, hauthoritative, hreaches, _⟩ := hlawful.authoritative
  obtain rfl : current = snapshot := by
    simpa using congrArg Prod.fst (hcurrent.symm.trans hauthoritative.current_eq)
  have hrefused : (¬ ∃ witness, plan = some witness ∧ witness.Pinned history current proposal admitted) →
      (∀ event ∈ events, Reads event.before event.op) ∧ db = history.final := by
    intro hnot
    have hkeeps : (call.program sha).Keeps (serves sha) Reads (fun _ _ => True) history.final := by
      refine gated_reads hcurrent hproposal hentry (fun hbinds hadmits => ?_) hcall
      simp only [ExactWorkCatalogEntryV2.admits_plan, hadmitted, ok_rules] at hadmits
      obtain ⟨witness, hplan, hwork, henrolled⟩ := hadmits
      obtain ⟨profile, hprofile, hdigest, _⟩ := hbinds witness hplan
      refine hnot ⟨witness, hplan, hwork, hwork.trans (hreaches.proposed_work hinitial hproposal), ?_,
        henrolled⟩
      rw [← history.runtime_profile_eq, hprofile, Option.map_some, hdigest]
    obtain ⟨hreads, _⟩ := hexecutes.of_keeps hkeeps
    refine ⟨hreads, hexecutes.preserves hreads (· = history.final) rfl ?_⟩
    rintro _ op answer _ rfl hallowed hserves
    exact reads_unchanged hallowed hserves
  constructor
  · rintro ⟨event, hevent, write, hop⟩
    by_contra hnot
    have hreads := (hrefused hnot).1 event hevent
    rw [hop] at hreads
    exact hreads
  · intro hnot
    obtain ⟨hreads, hfinal⟩ := hrefused hnot
    refine ⟨fun event hevent boundaries hop => ?_, fun event hevent write hop => ?_, hfinal⟩
    · have hread := hreads event hevent
      rw [hop] at hread
      exact hread
    · have hread := hreads event hevent
      rw [hop] at hread
      exact hread

section Planned

variable {sha : Sha256} {db : Db} {current : OccurrenceSnapshotV1} {spare : Nat} {basis : ProposalBasisV1}

/-- A proposal of the one schema that plans are pinned for. -/
def planned_proposal (campaign : CampaignId) (work : Digest) : ExactWorkProposalV1 :=
  { plain_proposal campaign work with work_schema := EFFECT_EXECUTOR_SYSTEMD_WORK_SCHEMA_V2 }

theorem planned_proposal_valid (campaign : CampaignId) (work : Digest) :
    (planned_proposal campaign work).validate = .ok () := by
  simp only [ExactWorkProposalV1.validate, ok_rules]
  exact ⟨by simp [planned_proposal, plain_proposal],
    (by rfl : validate_label "exact-work schema" EFFECT_EXECUTOR_SYSTEMD_WORK_SCHEMA_V2 = .ok ())⟩

/-- The requirement that `typed_observation` of the subject satisfies. -/
def observed_requirement (subject : Digest) : ExactObservationBasisRequirementV1 :=
  .TypedBasis { schema := TYPED_OBSERVATION_BASIS_SCHEMA_V1, basis_type := "observed", basis_identity := subject }

theorem observed_requirement_valid (subject : Digest) : (observed_requirement subject).validate = .ok () :=
  map_err_eq_ok_iff.mpr (observed_basis_valid subject)

/-- An entry for one work that admits the given plans. -/
def planned_entry (work : Digest) (admitted : Finset Digest)
    (postcondition_basis : Option ExactObservationBasisRequirementV1) : ExactWorkCatalogEntryV2 :=
  { work_schema := EFFECT_EXECUTOR_SYSTEMD_WORK_SCHEMA_V2, subject := work, scope := work
    observation_basis := observed_requirement work, admitted_plans := some admitted, postcondition_basis }

/-- The catalog of one such entry. -/
def planned_catalog (entry : ExactWorkCatalogEntryV2) : ExactWorkCatalogV2 :=
  { schema := EXACT_WORK_CATALOG_SCHEMA_V2
    entries := (∅ : Std.ExtTreeMap String _).insert EFFECT_EXECUTOR_SYSTEMD_WORK_SCHEMA_V2 entry }

theorem planned_catalog_entry (entry : ExactWorkCatalogEntryV2) :
    (planned_catalog entry).entries[EFFECT_EXECUTOR_SYSTEMD_WORK_SCHEMA_V2]? = some entry :=
  Std.ExtTreeMap.getElem?_insert_self

variable {campaign : CampaignId} {entry : ExactWorkCatalogEntryV2} {profile : StoredRuntimeProfileV1}

theorem mem_planned_catalog {item : String × ExactWorkCatalogEntryV2} :
    item ∈ (planned_catalog entry).entries.toList ↔ item = (EFFECT_EXECUTOR_SYSTEMD_WORK_SCHEMA_V2, entry) := by
  obtain ⟨key, value⟩ := item
  rw [Std.ExtTreeMap.mem_toList_iff_getElem?_eq_some, planned_catalog, Std.ExtTreeMap.getElem?_insert]
  split
  · next hkey =>
    rw [compare_eq_iff_eq] at hkey
    subst hkey
    simp [eq_comm]
  · next hkey =>
    rw [compare_eq_iff_eq] at hkey
    simp [Ne.symm hkey]

variable {catalog : ExactWorkCatalogV2} {key : OccurrenceKeyV1} {observation : ObservationRefV1}
  {work : Digest}

theorem planned_catalog_valid {admitted : Finset Digest} (hadmitted : admitted.Nonempty)
    {postcondition_basis : Option ExactObservationBasisRequirementV1}
    (hpostcondition : ∀ postcondition ∈ postcondition_basis,
      postcondition ≠ observed_requirement work ∧ postcondition.validate = .ok ()) :
    (planned_catalog (planned_entry work admitted postcondition_basis)).validate = .ok () := by
  have hentry : (planned_entry work admitted postcondition_basis).validate
      EFFECT_EXECUTOR_SYSTEMD_WORK_SCHEMA_V2 = .ok () := by
    simp only [ExactWorkCatalogEntryV2.validate, planned_entry, ok_rules]
    refine ⟨reject_eq_ok_iff.mpr ?_, observed_requirement_valid work, reject_eq_ok_iff.mpr ?_, ?_⟩
    · simp [EFFECT_EXECUTOR_SYSTEMD_WORK_SCHEMA_V2]
    · simp [hadmitted.ne_empty]
    cases postcondition_basis with
    | none => rfl
    | some postcondition =>
      obtain ⟨hdiffers, hvalid⟩ := hpostcondition postcondition rfl
      refine bind_eq_ok_iff.mpr ⟨(), reject_eq_ok_iff.mpr ?_, hvalid⟩
      simp [hdiffers]
  simp only [ExactWorkCatalogV2.validate, ok_rules]
  refine ⟨⟨rfl, by simp [planned_catalog]⟩, fun item hitem => ?_⟩
  rw [mem_planned_catalog.mp hitem]
  exact hentry

/-- The answers that a decision on a recorded proposal is given. -/
def answering_inputs (basis : ProposalBasisV1) : DecisionInputs :=
  { observation := .answering basis.observation
    standing := .answering (current_standing basis)
    controlling_review := none
    expected_observation_resolver := "observer"
    expected_standing_resolver := "standing"
    max_standing_ttl_ms :=
      (current_standing basis).expires_at_unix_ms - (current_standing basis).resolved_at_unix_ms
    now_unix_ms := 0 }

/-- A recorded proposal that a decider admits can be recorded as admissible. -/
theorem record_admissible_ok (hintegrity : current.validate_integrity sha = .ok ())
    (hstate : current.state = .StandingRequired basis)
    (hobservation : basis.observation = typed_observation sha key observation basis.proposal.subject)
    (hrepair : basis.proposal.repair = none) {decider : AdmissibilityDeciderV1} {domain : String} {policy : Digest}
    (hdecides : decider.decide_admissibility ⟨basis.proposal, basis.observation, current_standing basis, none⟩ =
      .ok (catalog_decision sha domain policy true
        ⟨basis.proposal, basis.observation, current_standing basis, none⟩)) :
    ∃ admitted value, GovernedLoopKernelV1.record_admissible sha current
        ((answering_inputs basis).premises decider) = .ok admitted ∧
      admitted.state = .AdmissiblePendingAuthorization value ∧ value.proposal = basis := by
  obtain ⟨hbudget, hnodup, hbasis, _⟩ := checks_of_integrity hintegrity hstate
  let value : AdmissibleBasisV1 :=
    { proposal := basis
      standing := current_standing basis
      decision := catalog_decision sha domain policy true
        ⟨basis.proposal, basis.observation, current_standing basis, none⟩ }
  have hsound : SoundProposal sha basis.metadata basis :=
    validate_proposal_basis_eq_ok_iff.mp (hbasis basis rfl)
  have hadmission : SoundAdmission value := ⟨rfl, rfl, rfl, rfl, rfl, rfl, rfl, rfl, rfl, rfl, rfl, rfl⟩
  have hresolver : basis.observation.resolver_id = "observer" := by rw [hobservation]; rfl
  have hnow : PresentableAt basis.observation (current_standing basis) 0 := by
    rw [hobservation]
    exact ⟨(by decide : "standing" ≠ ""), (by decide : (0 : UInt64) ≤ 0), (by decide : (0 : UInt64) < 1),
      (by decide : (0 : UInt64) ≤ 0), (by decide : (0 : UInt64) < 1)⟩
  have hanswering : resolve_admissibility sha basis (answering_premises value 0) = _ :=
    answering_premises_resolve hsound hadmission ⟨rfl, rfl, rfl, rfl, rfl, rfl, rfl, rfl, rfl, hsound.current⟩ hnow
  obtain ⟨_, hresolved⟩ := resolve_admissibility_eq_ok_iff.mp hanswering
  have hobserved := hresolved.resolved_observation
  have hstanding := hresolved.resolved_standing
  have hrepaired := hresolved.repair
  simp only [answering_premises, hresolver, hrepair, value] at hobserved hstanding hrepaired
  have hresolves : resolve_admissibility sha basis ((answering_inputs basis).premises decider) =
      .ok (basis.observation, current_standing basis, value.decision) :=
    resolve_admissibility_eq_ok_iff.mpr ⟨⟨rfl, rfl, hdecides⟩, hobserved, rfl, hstanding, hrepair ▸ hrepaired, rfl,
      rfl, rfl, rfl, rfl⟩
  have hfollows : Follows sha current (.AdmissiblePendingAuthorization value) _ :=
    follows_within hbudget hnodup (by rintro ⟨⟩) hbasis (validate_admissible_basis_eq_ok_iff.mpr hadmission)
  exact ⟨_, value, GovernedLoopKernelV1.record_admissible_eq_ok_iff.mpr
    ⟨hintegrity, basis, _, _, _, hstate, hresolves, hfollows⟩, hfollows.state_eq, rfl⟩

/-- A plan that is bound and admitted passes the gate of its proposal. -/
theorem executes_check_proposal_plan {plan : ExactPlanWitnessV1}
    {proposal : ExactWorkProposalV1} (hproposal : current.proposal = some proposal)
    (hentry : catalog.entries[proposal.work_schema]? = some entry)
    (hprofile : CampaignStoreV1.runtime_profile sha db = .ok (some profile))
    (hdigest : profile.digest = plan.runtime_profile) (hwork : plan.work = proposal.work)
    (hadmits : entry.admits_plan proposal.work (some plan) = .ok ()) :
    Executes (serves sha) db (CampaignEngineV1.check_proposal_plan current catalog (some plan))
      [⟨db, .runtime_profile, db⟩] (some (.ok ())) db := by
  rw [CampaignEngineV1.check_proposal_plan, hproposal]
  have hbound : Executes (serves sha) db (CampaignEngineV1.check_presented_plan (some plan) proposal.work)
      [⟨db, .runtime_profile, db⟩] (some (.ok ())) db := by
    refine executes_ask_bind (show serves sha .runtime_profile db (.ok (some profile)) db from ⟨hprofile, rfl⟩) ?_
    have hchecked : reject (profile.digest ≠ plan.runtime_profile ∨ plan.work ≠ proposal.work)
        CampaignEngineErrorV1.PlanWitnessMismatch = .ok () :=
      reject_eq_ok_iff.mpr (not_or.mpr ⟨not_not.mpr hdigest, not_not.mpr hwork⟩)
    change Executes (serves sha) db (.done (reject _ _)) [] _ db
    rw [hchecked]
    exact .finished
  refine hbound.bind ?_
  rw [hentry]
  change Executes (serves sha) db (.done (entry.admits_plan _ _)) [] _ db
  rw [hadmits]
  exact .finished

/-- The decider of a valid catalog under the presented plan. -/
def plan_decider (sha : Sha256) (catalog : ExactWorkCatalogV2) (plan : Option ExactPlanWitnessV1) :
    AdmissibilityDeciderV1 :=
  { decide_admissibility := fun request =>
      .ok (catalog_decision sha "ag.governed-loop.catalog-admission/v2"
        (digest_value sha EXACT_WORK_CATALOG_SCHEMA_V2 catalog)
        (CatalogAdmissibilityDeciderV2.admitted catalog plan request) request) }

theorem with_plan_eq_ok (sha : Sha256) (hvalid : catalog.validate = .ok ())
    (plan : Option ExactPlanWitnessV1) :
    CatalogAdmissibilityDeciderV2.with_plan sha catalog plan = .ok (plan_decider sha catalog plan) :=
  bind_eq_ok_iff.mpr ⟨_, bind_eq_ok_iff.mpr ⟨(), hvalid, rfl⟩, rfl⟩

/-- Under the planned catalog, the engine decides on a planned proposal for the enrolled
plan. -/
theorem executes_decide_planned (hsha : sha.CollisionFree) (h : Receptive sha db current (spare + 1))
    (hstate : current.state = .StandingRequired basis) (enrolled : Digest)
    (hproposal : basis.proposal = planned_proposal campaign work)
    (hobservation : basis.observation = typed_observation sha key observation work)
    (hprofile : CampaignStoreV1.runtime_profile sha db = .ok (some profile)) :
    ∃ events successor db', Executes (serves sha) db
        (EngineCall.program sha (.decide_versioned_with_plan
          (.ExactBasisV2 (planned_catalog (planned_entry work {enrolled} none)))
          (some ⟨work, enrolled, profile.digest⟩) (answering_inputs basis))) events (some (.ok successor)) db' ∧
      ∃ event ∈ events, ∃ write, event.op = .call write := by
  have hadmits : (planned_entry work {enrolled} none).admits_plan work (some ⟨work, enrolled, profile.digest⟩) =
      .ok () := by
    simp [ExactWorkCatalogEntryV2.admits_plan, planned_entry, ok_or, reject, bind, Except.bind]
  have hvalid : (planned_catalog (planned_entry work {enrolled} none)).validate = .ok () :=
    planned_catalog_valid (Finset.singleton_nonempty enrolled) (by rintro _ ⟨⟩)
  have hdecider := with_plan_eq_ok sha hvalid (some ⟨work, enrolled, profile.digest⟩)
  have hadmitted : CatalogAdmissibilityDeciderV2.admitted (planned_catalog (planned_entry work {enrolled} none))
      (some ⟨work, enrolled, profile.digest⟩) ⟨basis.proposal, basis.observation, current_standing basis, none⟩ := by
    rw [CatalogAdmissibilityDeciderV2.admitted, hproposal, planned_proposal, plain_proposal, planned_catalog_entry]
    change (_ && ((planned_entry work {enrolled} none).admits_plan work (some _)).isOk) = true
    rw [hadmits, hobservation]
    simp [planned_entry, observed_requirement, typed_observation, ExactObservationBasisRequirementV1.holds_over,
      VersionedObservationResolutionV1.typed_basis, Except.isOk, Except.toBool]
  have hdecides : (plan_decider sha _ (some ⟨work, enrolled, profile.digest⟩)).decide_admissibility _ = .ok _ :=
    congrArg (fun admitted => Except.ok (catalog_decision sha _ _ admitted _)) hadmitted
  obtain ⟨admitted, value, hadmissible, hvalue, hsame⟩ := record_admissible_ok h.integrity hstate
    (by rw [hproposal]; exact hobservation) (by rw [hproposal]; rfl) hdecides
  generalize plan_decider sha _ _ = decider at hdecider hadmissible
  have happly : (KernelOp.record_admissible ((answering_inputs basis).premises decider)).apply sha current =
      .ok [admitted] := applied hadmissible
  obtain ⟨_, db', hcommit, _⟩ : ∃ receipt db', Returns (CampaignStoreV1.commit sha current admitted .Admissible 0)
      db receipt db' ∧ Receptive sha db' admitted spare := by
    refine h.commit hsha happly hstate hvalue (by rintro ⟨⟩) ?_ rfl ?_ (by decide)
    · exact congrArg (fun basis => basis.metadata.key) hsame.symm
    · simp [CampaignTransitionKindV1.valid, OccurrenceSnapshotV1.program_counter, hstate, hvalue,
        OccurrenceStateV1.program_counter]
  have hcurrent : current.proposal = some (planned_proposal campaign work) := by
    rw [OccurrenceSnapshotV1.proposal, hstate, ← hproposal]
    rfl
  have hgate := executes_check_proposal_plan hcurrent (planned_catalog_entry _) hprofile rfl rfl hadmits
  refine ⟨_, admitted, db', executes_current_bind h.current_eq (hgate.bind (executes_lift_bind hdecider
    (executes_consult_bind (executes_commit_successor hadmissible hcommit)))), ?_⟩
  exact ⟨⟨db, .call (.commit current admitted .Admissible 0), db'⟩, by simp [answering_inputs], _, rfl⟩

end Planned

/-- A campaign with a profile records a planned proposal and decides on it with the plan
its catalog admits. -/
theorem exact_plan_pinned_decided :
    ∃ (history : EngineHistory ideal_sha) (current : OccurrenceSnapshotV1) (profile : Digest)
      (inputs : DecisionInputs) (events : List EngineEvent) (successor : OccurrenceSnapshotV1) (db : Db),
      CampaignStoreV1.current ideal_sha history.final = (.ok current, history.final) ∧
      current.proposal = some (planned_proposal ⟨⟨[]⟩⟩ ⟨[3]⟩) ∧
      Executes (serves ideal_sha) history.final (EngineCall.program ideal_sha (.decide_versioned_with_plan
        (.ExactBasisV2 (planned_catalog (planned_entry ⟨[3]⟩ {⟨[4]⟩} none)))
        (some ⟨⟨[3]⟩, ⟨[4]⟩, profile⟩) inputs)) events (some (.ok successor)) db ∧
      (∃ event ∈ events, ∃ write, event.op = .call write) ∧
      ∃ witness, some (⟨⟨[3]⟩, ⟨[4]⟩, profile⟩ : ExactPlanWitnessV1) = some witness ∧
        witness.Pinned history current (planned_proposal ⟨⟨[]⟩⟩ ⟨[3]⟩) {⟨[4]⟩} := by
  have hbudget : LoopBudgetV1.validate ⟨0, 0, 0, 0, 0, 0⟩ = .ok () := by rfl
  obtain ⟨created, initial, hruntime, hinitial, hstate⟩ := EngineHistory.exists_created
    ideal_sha_collision_free ⟨⟨[]⟩⟩ ⟨0⟩ ⟨⟨[]⟩⟩ ⟨[3]⟩ ⟨[], .nil⟩ hbudget
    (by decide : ∀ profile ∈ some ("profile", Jcs.null), is_token profile.1)
  obtain ⟨resolver, recorded, events, db, hrecord, hrecorded, hbasis⟩ := executes_record_proposal
    ideal_sha_collision_free hinitial hstate rfl (planned_proposal_valid ⟨⟨[]⟩⟩ ⟨[3]⟩) rfl rfl ⟨⟨[1]⟩⟩
  obtain ⟨required, events', db', hrequire, hrequired, hstanding⟩ :=
    executes_require_standing ideal_sha_collision_free hrecorded hbasis
  let history := (created.after _ hrecord).after _ hrequire
  have hprofile : CampaignStoreV1.runtime_profile ideal_sha db' =
      .ok (stored_profile ideal_sha (some ("profile", .null))) :=
    history.runtime_profile_ok.trans (congrArg (fun profile => Except.ok (stored_profile ideal_sha profile)) hruntime)
  obtain ⟨decided, successor, last, hdecides, hwrites⟩ :=
    executes_decide_planned ideal_sha_collision_free hrequired hstanding ⟨[4]⟩ rfl rfl hprofile
  have hproposal : required.proposal = some (planned_proposal ⟨⟨[]⟩⟩ ⟨[3]⟩) := by
    rw [OccurrenceSnapshotV1.proposal, hstanding]
    rfl
  exact ⟨history, required, _, _, decided, successor, last, hrequired.current_eq, hproposal, hdecides,
    hwrites, (history.exact_plan_pinned (.decides _) hrequired.current_eq hproposal (planned_catalog_entry _) rfl
      hdecides).1 hwrites⟩

end ag_app.governed_loop

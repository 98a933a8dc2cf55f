import AgentGovernor.Engine.PlanPin

open ag_primitives Checked ag_campaign ag_campaign.governed ag_store Effects Transaction

namespace ag_store

/-- The store takes a completed snapshot only in a completing write. -/
theorem StoreCall.completing {sha : Sha256} {db db' : Db} {head : CampaignHeadRow} {current : OccurrenceSnapshotV1}
    (h : Authoritative sha db head current) {write : StoreCall} {receipts : List CampaignCommitReceiptV1}
    (hreturns : Returns (write.execute sha) db receipts db') {snapshot : OccurrenceSnapshotV1}
    (hsnapshot : snapshot ∈ write.successors) (hcounter : snapshot.program_counter = .Completed) :
    write.Completing := by
  cases write with
  | commit expected successor kind recorded_at_unix_ms =>
    obtain rfl := List.mem_singleton.mp hsnapshot
    obtain ⟨_, _, hcommit, _⟩ := returns_bind_iff.mp hreturns
    obtain ⟨⟨hkind, _⟩, hwritten, _⟩ := (CampaignStoreV1.returns_commit_iff h.sole).mp hcommit
    have hdescribed := hwritten.accepted.described
    cases kind with
    | Completed => rfl
    | HumanDisposition => exact absurd rfl hkind
    | _ => simp [CampaignTransitionKindV1.valid, hcounter] at hdescribed
  | commit_governed_intervention expected successor kind verified recorded_at_unix_ms =>
    obtain rfl := List.mem_singleton.mp hsnapshot
    obtain ⟨_, _, hcommit, _⟩ := returns_bind_iff.mp hreturns
    obtain ⟨hevidence, hwritten, _⟩ := (CampaignStoreV1.returns_commit_governed_intervention_iff h.sole).mp hcommit
    have hdescribed := hwritten.accepted.described
    simp only [validate_governed_intervention_evidence, ok_rules, Bool.not_eq_false] at hevidence
    have hexact := hevidence.2.2
    cases hclass : verified.request.intervention with
    | RequestProbe =>
      simp only [hclass, GovernedInterventionClassV1.exact, decide_eq_true_eq] at hexact
      obtain ⟨rfl, _⟩ := hexact
      simp [CampaignTransitionKindV1.valid, hcounter] at hdescribed
    | OpenSuccessor | HaltContinuation | ReconcileAttempt =>
      simp [hclass, GovernedInterventionClassV1.exact, hcounter] at hexact
  | commit_human_disposition => trivial
  | record_refusal => cases hsnapshot

end ag_store

namespace ag_app.governed_loop

/-- Checking a plan reads no more than the profile. -/
theorem CampaignEngineV1.performs_check_presented_plan {P : EngineOp → Prop} (hprofile : P .runtime_profile)
    {plan : Option ExactPlanWitnessV1} {work : Digest} : (check_presented_plan plan work).Performs P := by
  cases plan with
  | none => exact performs_pure
  | some plan =>
    exact performs_bind ⟨hprofile, fun _ => trivial⟩ fun _ => performs_bind performs_lift fun _ => performs_lift

/-- Every completed snapshot that the operation commits is as given. -/
def EngineOp.Completes (holds : CompletedV1 → Prop) : EngineOp → Prop
  | .call write => ∀ snapshot ∈ write.successors, ∀ completed, snapshot.completed = some completed → holds completed
  | _ => True

/-- What the resolver of a completing call answers for its terminal observation. -/
def EngineCall.terminal_answer (current : OccurrenceSnapshotV1) :
    EngineCall → Option (Except ExternalBoundaryErrorV1 VersionedObservationResolutionV1)
  | .complete observation_ref subject _ observation _ now
  | .complete_with_catalog observation_ref subject _ observation _ _ _ now =>
    some (observation.resolve_observation ⟨current.key, observation_ref, subject, now⟩)
  | .apply_human_disposition artifact _ _ observation _ _ now =>
    match artifact.disposition with
    | .Terminate observation_ref subject _ =>
      some (observation.resolve_observation ⟨current.key, observation_ref, subject, now⟩)
    | _ => none
  | _ => none

/-- The call completes under the catalog. -/
def EngineCall.CompletesUnder (catalog : ExactWorkCatalogV2) : EngineCall → Prop
  | .complete_with_catalog _ _ _ _ _ pinned _ _ => pinned = .ExactBasisV2 catalog
  | _ => False

/-- The call completes under the catalog, or what its resolver answers establishes the
postcondition. -/
def EngineCall.Establishes (catalog : ExactWorkCatalogV2) (postcondition : ExactObservationBasisRequirementV1)
    (current : OccurrenceSnapshotV1) (call : EngineCall) : Prop :=
  call.CompletesUnder catalog ∨
    ∃ answer, call.terminal_answer current = some (.ok answer) ∧ postcondition.holds_over answer = true

section Completing

variable {sha : Sha256} {db db' : Db} {current successor : OccurrenceSnapshotV1} {events : List EngineEvent}

/-- A method that starts by reading the current snapshot performs what it performs with
it. -/
theorem executes_from_current {P : EngineOp → Prop} {A : Type} {f : OccurrenceSnapshotV1 → Engine A}
    {outcome : Option (Except CampaignEngineErrorV1 A)}
    (hexecutes : Executes (serves sha) db (Engine.current >>= f) events outcome db')
    (hcurrent : CampaignStoreV1.current sha db = (.ok current, db)) (hread : P .current)
    (hrest : (f current).Performs P) : ∀ event ∈ events, P event.op := by
  change Executes (serves sha) db (.perform .current _) events outcome db' at hexecutes
  cases hexecutes with
  | interrupted => simp
  | performed hserves hexecutes =>
    obtain ⟨rfl, rfl⟩ := Prod.mk.inj (hcurrent.symm.trans hserves)
    exact List.forall_mem_cons.mpr ⟨hread, hexecutes.of_performs hrest⟩

variable {completed : CompletedV1} {expected : String} {now : UInt64} {observation : ObservationResolverV1}

/-- What completes an occurrence from its observation boundary is what the resolver
answers. -/
theorem completed_from_observation {observation_ref : ObservationRefV1} {subject : Digest}
    {terminal_witness : TerminalWitnessRefV1}
    (h : GovernedLoopKernelV1.complete_from_observation sha current observation_ref subject terminal_witness
      observation expected now = .ok successor) (hcompleted : successor.completed = some completed) :
    completed.metadata.expected_work = current.state.metadata.expected_work ∧
      observation.resolve_observation ⟨current.key, observation_ref, subject, now⟩ =
        .ok completed.terminal_observation := by
  obtain ⟨_, pending, terminal, hstate, _, hterminal, hfollows⟩ :=
    GovernedLoopKernelV1.complete_from_observation_eq_ok_iff.mp h
  rw [OccurrenceSnapshotV1.completed, hfollows.state_eq] at hcompleted
  obtain rfl := Option.some.inj hcompleted
  rw [OccurrenceSnapshotV1.key, hstate]
  exact ⟨rfl, (resolve_observation_eq_ok_iff.mp hterminal).1⟩

end Completing

section Catalog

variable {catalog : ExactWorkCatalogV2} {expected_work : Digest} {entry : ExactWorkCatalogEntryV2}

theorem ExactWorkCatalogV2.completion_entry_eq_ok {plan : ExactPlanWitnessV1}
    (h : catalog.completion_entry expected_work (some plan) = .ok (some entry)) :
    catalog.validate = .ok () ∧ catalog.entries[EFFECT_EXECUTOR_SYSTEMD_WORK_SCHEMA_V2]? = some entry := by
  simp only [ExactWorkCatalogV2.completion_entry, ok_rules] at h
  obtain ⟨hvalid, _, found, hfind, hsame⟩ := h
  obtain rfl := Option.some.inj hsame
  obtain ⟨⟨key, entry⟩, hmem, rfl⟩ := List.mem_map.mp (List.mem_of_find?_eq_some hfind)
  have henrolls := List.find?_some hfind
  refine ⟨hvalid, ?_⟩
  simp only [ExactWorkCatalogEntryV2.enrolls] at henrolls
  split at henrolls
  · next hadmitted =>
    -- a valid catalog admits plans in one entry only
    simp only [ExactWorkCatalogV2.validate, ok_rules] at hvalid
    have hentry := hvalid.2 (key, entry) hmem
    simp only [ExactWorkCatalogEntryV2.validate, hadmitted, ok_rules] at hentry
    obtain ⟨⟨rfl, _⟩, _, ⟨_, hschema⟩, _⟩ := hentry
    rw [← hschema]
    exact Std.ExtTreeMap.mem_toList_iff_getElem?_eq_some.mp hmem
  · cases henrolls

/-- Every plan that the catalog lets complete is completed under the same entry, and an
enrolled postcondition lets nothing complete without one. -/
theorem ExactWorkCatalogV2.completion_entry_eq {plan : ExactPlanWitnessV1}
    (h : catalog.completion_entry expected_work (some plan) = .ok (some entry))
    (hpostcondition : entry.postcondition_basis.isSome = true) {work : Digest} {presented : Option ExactPlanWitnessV1}
    {found : Option ExactWorkCatalogEntryV2} (hfound : catalog.completion_entry work presented = .ok found) :
    found = some entry := by
  obtain ⟨_, hentry⟩ := completion_entry_eq_ok h
  cases presented with
  | none =>
    simp only [ExactWorkCatalogV2.completion_entry, ok_rules] at hfound
    exact absurd ⟨_, Std.ExtTreeMap.mem_toList_iff_getElem?_eq_some.mpr hentry, hpostcondition⟩ hfound.2.1
  | some presented =>
    cases found with
    | none =>
      simp only [ExactWorkCatalogV2.completion_entry, ok_rules] at hfound
      obtain ⟨_, _, _, _, _, _, ⟨⟩⟩ := hfound
    | some found => rw [← hentry, (completion_entry_eq_ok hfound).2]

end Catalog

section Calls

variable {sha : Sha256} {db db' : Db} {current : OccurrenceSnapshotV1} {events : List EngineEvent}
  {catalog : ExactWorkCatalogV2}

/-- The snapshot completes the occurrence of `current` with what the resolver of the call
answers, and under the catalog that answer establishes the enrolled postcondition. -/
structure EngineCall.Completion (catalog : ExactWorkCatalogV2) (current : OccurrenceSnapshotV1) (call : EngineCall)
    (completed : CompletedV1) : Prop where
  expected_work : completed.metadata.expected_work = current.state.metadata.expected_work
  answer : call.terminal_answer current = some (.ok completed.terminal_observation)
  checked : call.CompletesUnder catalog → ∀ plan entry postcondition,
    catalog.completion_entry current.state.metadata.expected_work (some plan) = .ok (some entry) →
    entry.postcondition_basis = some postcondition → postcondition.holds_over completed.terminal_observation = true

/-- What a completing call commits is its completion. -/
theorem EngineCall.executes_completes {call : EngineCall} (hcompleting : call.Completing)
    {outcome : Option (Except CampaignEngineErrorV1 call.Output)}
    (hcurrent : CampaignStoreV1.current sha db = (.ok current, db))
    (hexecutes : Executes (serves sha) db (call.program sha) events outcome db') :
    ∀ event ∈ events, event.op.Completes (call.Completion catalog current) := by
  cases call with
  | complete observation_ref subject terminal_witness observation expected now =>
    refine executes_from_current hexecutes hcurrent trivial (performs_ask_bind trivial fun _ => ?_)
    refine performs_lift_bind fun successor hsuccessor => performs_bind ⟨?_, fun _ => trivial⟩ fun _ => performs_pure
    intro snapshot hsnapshot completed hcompleted
    obtain rfl := List.mem_singleton.mp hsnapshot
    obtain ⟨hwork, hanswer⟩ := completed_from_observation (map_err_eq_ok_iff.mp hsuccessor) hcompleted
    exact ⟨hwork, congrArg some hanswer, False.elim⟩
  | complete_with_catalog observation_ref subject terminal_witness observation expected pinned plan now =>
    refine executes_from_current hexecutes hcurrent trivial ?_
    have hrest : ∀ postcondition, (pinned = .ExactBasisV2 catalog → ∀ plan entry,
        catalog.completion_entry current.state.metadata.expected_work (some plan) = .ok (some entry) →
        entry.postcondition_basis.isSome = true → postcondition = entry.postcondition_basis) →
        Program.Performs (EngineOp.Completes (EngineCall.Completion catalog current
          (.complete_with_catalog observation_ref subject terminal_witness observation expected pinned plan now))) (do
          Engine.consult [.Observation]
          let successor ← Engine.kernel (GovernedLoopKernelV1.complete_from_observation sha current observation_ref
            subject terminal_witness observation expected now)
          lift (CampaignEngineV1.check_postcondition postcondition successor)
          let _ ← Engine.call (.commit current successor .Completed now)
          pure successor) := by
      intro postcondition hpostcondition
      refine performs_ask_bind trivial fun _ => performs_lift_bind fun successor hsuccessor => ?_
      refine performs_lift_bind fun _ hchecked => performs_bind ⟨?_, fun _ => trivial⟩ fun _ => performs_pure
      intro snapshot hsnapshot completed hcompleted
      obtain rfl := List.mem_singleton.mp hsnapshot
      obtain ⟨hwork, hanswer⟩ := completed_from_observation (map_err_eq_ok_iff.mp hsuccessor) hcompleted
      refine ⟨hwork, congrArg some hanswer, fun hunder plan entry required hentry hrequired => ?_⟩
      rw [hpostcondition hunder plan entry hentry (by rw [hrequired]; rfl), hrequired] at hchecked
      simp only [CampaignEngineV1.check_postcondition, ok_rules, Bool.not_eq_false, hcompleted] at hchecked
      obtain ⟨_, hsame, hholds⟩ := hchecked
      rwa [Option.some.inj hsame]
    cases pinned with
    | NightshiftV1 => exact hrest none (by rintro ⟨⟩)
    | ExactBasisV2 pinned =>
      rw [CampaignEngineV1.completion_postcondition, Program.bind_assoc]
      refine performs_bind (CampaignEngineV1.performs_check_presented_plan trivial) fun _ => ?_
      rw [Program.bind_assoc]
      refine performs_lift_bind fun found hfound => hrest _ ?_
      rintro ⟨⟩ plan entry hentry hpostcondition
      rw [ExactWorkCatalogV2.completion_entry_eq hentry hpostcondition hfound]
      rfl
  | apply_human_disposition =>
    refine executes_from_current hexecutes hcurrent trivial (performs_ask_bind trivial fun _ => ?_)
    refine performs_lift_bind fun effect heffect => performs_bind ⟨?_, fun _ => trivial⟩ fun _ => performs_pure
    intro snapshot hsnapshot completed hcompleted
    obtain ⟨_, halted, _, hstate, _, _, houtcome⟩ :=
      GovernedLoopKernelV1.apply_human_disposition_eq_ok_iff.mp (map_err_eq_ok_iff.mp heffect)
    rw [OccurrenceSnapshotV1.completed] at hcompleted
    -- the only disposition that completes an occurrence terminates it
    cases houtcome with
    | opened _ _ _ _ hhalted hsuccessor =>
      rcases List.mem_pair.mp hsnapshot with rfl | rfl
      · rw [hhalted.state_eq] at hcompleted
        cases hcompleted
      · rw [hsuccessor.state_eq] at hcompleted
        cases hcompleted
    | discharged _ _ _ hnext =>
      obtain rfl := List.mem_singleton.mp hsnapshot
      rw [hnext.state_eq] at hcompleted
      cases hcompleted
    | terminated hkind _ _ _ hterminal hnext =>
      obtain rfl := List.mem_singleton.mp hsnapshot
      rw [hnext.state_eq] at hcompleted
      obtain rfl := Option.some.inj hcompleted
      refine ⟨by rw [hstate]; rfl, ?_, False.elim⟩
      rw [EngineCall.terminal_answer, hkind, OccurrenceSnapshotV1.key, hstate]
      exact congrArg some (resolve_observation_eq_ok_iff.mp hterminal).1
  | _ => exact hcompleting.elim

end Calls

/-- Under a catalog that enrolls a postcondition for the plan of an occurrence, whatever
call completes the occurrence does so with a terminal observation that establishes the
postcondition exactly when it completes under the catalog or happens to be answered with
such an observation. The completion without a catalog and the human disposition that
terminates a halted occurrence do not look. -/
theorem EngineHistory.postcondition_established_iff {sha : Sha256} (history : EngineHistory sha)
    {current : OccurrenceSnapshotV1}
    (hcurrent : CampaignStoreV1.current sha history.final = (.ok current, history.final))
    {call : EngineCall} {events : List EngineEvent} {outcome : Option (Except CampaignEngineErrorV1 call.Output)}
    {db : Db} (hexecutes : Executes (serves sha) history.final (call.program sha) events outcome db)
    {event : EngineEvent} (hevent : event ∈ events) {write : StoreCall} (hop : event.op = .call write)
    {receipts : List CampaignCommitReceiptV1}
    (hreturns : Returns (write.execute sha) event.before receipts event.after)
    {snapshot : OccurrenceSnapshotV1} (hsnapshot : snapshot ∈ write.successors) {completed : CompletedV1}
    (hcompleted : snapshot.completed = some completed)
    {catalog : ExactWorkCatalogV2} {plan : ExactPlanWitnessV1} {entry : ExactWorkCatalogEntryV2}
    (hentry : catalog.completion_entry completed.metadata.expected_work (some plan) = .ok (some entry))
    {postcondition : ExactObservationBasisRequirementV1}
    (hpostcondition : entry.postcondition_basis = some postcondition) :
    postcondition.holds_over completed.terminal_observation = true ↔
      call.Establishes catalog postcondition current := by
  obtain ⟨initial, _, hlawful⟩ := history.lawful
  have hcounter : snapshot.program_counter = .Completed := by
    rw [OccurrenceSnapshotV1.completed] at hcompleted
    rw [OccurrenceSnapshotV1.program_counter]
    split at hcompleted
    · next hstate => rw [hstate]; rfl
    · cases hcompleted
  have hcompleting : call.Completing := by
    by_contra hother
    obtain ⟨_, _, _, hfinal, _⟩ := hlawful.authoritative
    obtain ⟨hasked, _⟩ := hexecutes.of_keeps (EngineCall.enacts hfinal call)
    have hincomplete := (hasked event hevent).2.resolve_left hother
    rw [hop] at hincomplete
    obtain ⟨_, _, _, hauthoritative, _⟩ :=
      (hlawful.called hexecutes).standing event (List.mem_append_right _ hevent)
    exact hincomplete (StoreCall.completing hauthoritative hreturns hsnapshot hcounter)
  have hcompletes : event.op.Completes (call.Completion catalog current) :=
    EngineCall.executes_completes hcompleting hcurrent hexecutes event hevent
  rw [hop] at hcompletes
  obtain ⟨hwork, hanswer, hchecked⟩ := hcompletes snapshot hsnapshot completed hcompleted
  rw [hwork] at hentry
  constructor
  · intro hholds
    exact .inr ⟨_, hanswer, hholds⟩
  · rintro (hunder | ⟨answer, hsame, hholds⟩)
    · exact hchecked hunder plan entry postcondition hentry hpostcondition
    · rw [hanswer] at hsame
      rwa [Except.ok.inj (Option.some.inj hsame)]

section Terminated

/-- An entry that admits one plan for the work and enrolls a postcondition of its own. -/
def repairing_entry (work plan established : Digest) : ExactWorkCatalogEntryV2 :=
  planned_entry work {plan} (some (observed_requirement established))

theorem repairing_completion_entry {work plan established : Digest} (hrepairs : work ≠ established) :
    (planned_catalog (repairing_entry work plan established)).completion_entry work (some ⟨work, plan, ⟨[]⟩⟩) =
      .ok (some (repairing_entry work plan established)) := by
  have hvalid : (planned_catalog (repairing_entry work plan established)).validate = .ok () := by
    refine planned_catalog_valid (Finset.singleton_nonempty _) ?_
    rintro _ ⟨⟩
    refine ⟨fun hsame => hrepairs ?_, observed_requirement_valid _⟩
    simpa [observed_requirement, eq_comm] using hsame
  generalize hentry : repairing_entry work plan established = entry at hvalid ⊢
  have hmem : entry ∈ (planned_catalog entry).entries.toList.map Prod.snd :=
    List.mem_map_of_mem (mem_planned_catalog.mpr rfl)
  have henrolls : entry.enrolls ⟨work, plan, ⟨[]⟩⟩ = true := by
    subst hentry
    simp [repairing_entry, planned_entry, ExactWorkCatalogEntryV2.enrolls]
  have hfind : ((planned_catalog entry).entries.toList.map Prod.snd).find?
      (fun entry => entry.enrolls ⟨work, plan, ⟨[]⟩⟩) = some entry := by
    have hsome : (((planned_catalog entry).entries.toList.map Prod.snd).find?
        (fun entry => entry.enrolls ⟨work, plan, ⟨[]⟩⟩)).isSome = true :=
      List.find?_isSome.mpr ⟨_, hmem, henrolls⟩
    obtain ⟨found, hfound⟩ := Option.isSome_iff_exists.mp hsome
    obtain ⟨_, hitem, rfl⟩ := List.mem_map.mp (List.mem_of_find?_eq_some hfound)
    rwa [mem_planned_catalog.mp hitem] at hfound
  simp only [ExactWorkCatalogV2.completion_entry, ok_rules]
  exact ⟨hvalid, trivial, _, hfind, rfl⟩

/-- A campaign that is halted before any work was proposed and terminated by a
disposition, on an observation of the subject. -/
theorem exists_terminated (subject : Digest) :
    ∃ (history : EngineHistory ideal_sha) (current : OccurrenceSnapshotV1) (call : EngineCall)
      (events : List EngineEvent) (outcome : Except CampaignEngineErrorV1 call.Output) (db : Db)
      (event : EngineEvent) (write : StoreCall) (receipts : List CampaignCommitReceiptV1)
      (snapshot : OccurrenceSnapshotV1) (completed : CompletedV1) (observation : ObservationRefV1),
      CampaignStoreV1.current ideal_sha history.final = (.ok current, history.final) ∧
      Executes (serves ideal_sha) history.final (call.program ideal_sha) events (some outcome) db ∧
      event ∈ events ∧ event.op = .call write ∧ Returns (write.execute ideal_sha) event.before receipts event.after ∧
      snapshot ∈ write.successors ∧ snapshot.completed = some completed ∧
      completed.metadata.expected_work = ⟨[3]⟩ ∧
      completed.terminal_observation = typed_observation ideal_sha completed.metadata.key observation subject := by
  have hbudget : LoopBudgetV1.validate ⟨0, 0, 0, 0, 0, 0⟩ = .ok () := by rfl
  obtain ⟨created, initial, _, hinitial, hstate⟩ := EngineHistory.exists_created ideal_sha_collision_free ⟨⟨[]⟩⟩ ⟨0⟩
    ⟨⟨[]⟩⟩ ⟨[3]⟩ ⟨[], .nil⟩ hbudget
    (show ∀ profile ∈ (none : Option (String × Jcs)), is_token profile.1 by rintro _ ⟨⟩)
  obtain ⟨halted, events, db, hhalt, hreceptive, hhalted⟩ :=
    executes_halt ideal_sha_collision_free hinitial hstate ⟨⟨[]⟩⟩
  rw [hstate] at hhalted
  have hunused : (⟨⟨[]⟩⟩ : HumanDecisionIdV1) ∉ ([] : List HumanDecisionIdV1) := List.not_mem_nil
  obtain ⟨next, write, receipts, db', hterminate, hreturns, hsuccessors, hnext⟩ :=
    executes_terminate ideal_sha_collision_free hreceptive hhalted
      (by rw [GovernedLoopKernelV1.halted_from, hstate]; rfl) rfl hunused ⟨⟨[1]⟩⟩ subject ⟨⟨[]⟩⟩
  have hsnapshot : next ∈ write.successors := by simp [hsuccessors]
  have hcompleted : ∀ {completed}, next.state = .Completed completed → next.completed = some completed := by
    intro completed hstate
    rw [OccurrenceSnapshotV1.completed, hstate]
  exact ⟨created.after _ hhalt, halted, _, _, _, db', ⟨db, .call write, db'⟩, write, receipts, next, _, ⟨⟨[1]⟩⟩,
    hreceptive.current_eq, hterminate, by simp, rfl, hreturns, hsnapshot, hcompleted hnext, rfl, rfl⟩

/-- The disposition is bound by the theorem: it establishes the postcondition when its
observation does. -/
theorem postcondition_established_by_termination :
    ∃ (history : EngineHistory ideal_sha) (current : OccurrenceSnapshotV1) (call : EngineCall)
      (completed : CompletedV1),
      CampaignStoreV1.current ideal_sha history.final = (.ok current, history.final) ∧
      completed.metadata.expected_work = ⟨[3]⟩ ∧
      (planned_catalog (repairing_entry ⟨[3]⟩ ⟨[4]⟩ ⟨[5]⟩)).completion_entry ⟨[3]⟩ (some ⟨⟨[3]⟩, ⟨[4]⟩, ⟨[]⟩⟩) =
        .ok (some (repairing_entry ⟨[3]⟩ ⟨[4]⟩ ⟨[5]⟩)) ∧
      ((observed_requirement ⟨[5]⟩).holds_over completed.terminal_observation = true ↔
        call.Establishes (planned_catalog (repairing_entry ⟨[3]⟩ ⟨[4]⟩ ⟨[5]⟩))
          (observed_requirement ⟨[5]⟩) current) := by
  obtain ⟨history, current, call, events, outcome, db, event, write, receipts, snapshot, completed, _, hcurrent,
    hexecutes, hevent, hop, hreturns, hsnapshot, hcompleted, hwork, _⟩ := exists_terminated ⟨[5]⟩
  refine ⟨history, current, call, completed, hcurrent, hwork, repairing_completion_entry (by decide), ?_⟩
  exact history.postcondition_established_iff hcurrent hexecutes hevent hop hreturns hsnapshot hcompleted
    (by rw [hwork]; exact repairing_completion_entry (by decide)) rfl

/-- A disposition completes an occurrence whose plan enrolls a postcondition, on a
current observation that satisfies the precondition only. -/
theorem terminated_on_precondition :
    ∃ (history : EngineHistory ideal_sha) (call : EngineCall) (events : List EngineEvent)
      (outcome : Except CampaignEngineErrorV1 call.Output) (db : Db) (event : EngineEvent) (write : StoreCall)
      (receipts : List CampaignCommitReceiptV1) (snapshot : OccurrenceSnapshotV1) (completed : CompletedV1),
      Executes (serves ideal_sha) history.final (call.program ideal_sha) events (some outcome) db ∧
      event ∈ events ∧ event.op = .call write ∧ Returns (write.execute ideal_sha) event.before receipts event.after ∧
      snapshot ∈ write.successors ∧ snapshot.completed = some completed ∧
      (planned_catalog (repairing_entry ⟨[3]⟩ ⟨[4]⟩ ⟨[5]⟩)).completion_entry completed.metadata.expected_work
        (some ⟨⟨[3]⟩, ⟨[4]⟩, ⟨[]⟩⟩) = .ok (some (repairing_entry ⟨[3]⟩ ⟨[4]⟩ ⟨[5]⟩)) ∧
      (repairing_entry ⟨[3]⟩ ⟨[4]⟩ ⟨[5]⟩).postcondition_basis = some (observed_requirement ⟨[5]⟩) ∧
      (repairing_entry ⟨[3]⟩ ⟨[4]⟩ ⟨[5]⟩).observation_basis.holds_over completed.terminal_observation = true ∧
      (observed_requirement ⟨[5]⟩).holds_over completed.terminal_observation = false := by
  obtain ⟨history, _, call, events, outcome, db, event, write, receipts, snapshot, completed, observation, _,
    hexecutes, hevent, hop, hreturns, hsnapshot, hcompleted, hwork, hterminal⟩ := exists_terminated ⟨[3]⟩
  refine ⟨history, call, events, outcome, db, event, write, receipts, snapshot, completed, hexecutes, hevent, hop,
    hreturns, hsnapshot, hcompleted, by rw [hwork]; exact repairing_completion_entry (by decide), rfl, ?_, ?_⟩
  · rw [hterminal]
    rfl
  · rw [hterminal]
    rfl

end Terminated

end ag_app.governed_loop

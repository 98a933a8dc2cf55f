import AgentGovernor.Engine.EngineRun
import AgentGovernor.Governed.Attainable
import AgentGovernor.Store.Receptive

open ag_primitives Checked ag_campaign ag_campaign.governed ag_store Effects Transaction
open OccurrenceSnapshotV1 (key program_counter)

namespace ag_app.governed_loop

section Executions

variable {sha : Sha256} {A B : Type} {db db' last : Db} {current : OccurrenceSnapshotV1}
  {rest : List EngineEvent} {outcome : Option (Except CampaignEngineErrorV1 B)}

theorem executes_current_bind {f : OccurrenceSnapshotV1 → Engine B}
    (hcurrent : CampaignStoreV1.current sha db = (.ok current, db))
    (hrest : Executes (serves sha) db (f current) rest outcome last) :
    Executes (serves sha) db (Engine.current >>= f) (⟨db, .current, db⟩ :: rest) outcome last :=
  executes_ask_bind (show serves sha .current db (.ok current) db from hcurrent) hrest

theorem executes_consult_bind {boundaries : List Boundary} {f : Unit → Engine B}
    (hrest : Executes (serves sha) db (f ()) rest outcome last) :
    Executes (serves sha) db (Engine.consult boundaries >>= f) (⟨db, .consult boundaries, db⟩ :: rest) outcome
      last :=
  executes_ask_bind (show serves sha (.consult boundaries) db () db from rfl) hrest

theorem executes_kernel_bind {result : Except KernelErrorV1 A} {value : A} {f : A → Engine B}
    (hresult : result = .ok value) (hrest : Executes (serves sha) db (f value) rest outcome last) :
    Executes (serves sha) db (Engine.kernel result >>= f) rest outcome last :=
  executes_lift_bind (map_err_eq_ok_iff.mpr hresult) hrest

theorem executes_call_bind {call : StoreCall} {receipts : List CampaignCommitReceiptV1}
    {f : List CampaignCommitReceiptV1 → Engine B} (hcall : Returns (call.execute sha) db receipts db')
    (hrest : Executes (serves sha) db' (f receipts) rest outcome last) :
    Executes (serves sha) db (Engine.call call >>= f) (⟨db, .call call, db'⟩ :: rest) outcome last :=
  executes_ask_bind (show serves sha (.call call) db (.ok receipts) db' from hcall) hrest

end Executions

theorem executes_commit_successor {sha : Sha256} {db db' : Db} {current successor : OccurrenceSnapshotV1}
    {result : Except KernelErrorV1 OccurrenceSnapshotV1} {kind : CampaignTransitionKindV1} {now_unix_ms : UInt64}
    {receipt : CampaignCommitReceiptV1} (hresult : result = .ok successor)
    (hcommit : Returns (CampaignStoreV1.commit sha current successor kind now_unix_ms) db receipt db') :
    Executes (serves sha) db (CampaignEngineV1.commit_successor current result kind now_unix_ms)
      [⟨db, .call (.commit current successor kind now_unix_ms), db'⟩] (some (.ok successor)) db' := by
  have hcall : Returns ((StoreCall.commit current successor kind now_unix_ms).execute sha) db [receipt] db' :=
    returns_bind_pure_iff.mpr ⟨receipt, hcommit, rfl⟩
  exact executes_kernel_bind hresult (executes_call_bind hcall .finished)

section Calls

variable {sha : Sha256} {db : Db} {current : OccurrenceSnapshotV1} {spare : Nat}

variable (hsha : sha.CollisionFree) (h : Receptive sha db current (spare + 1))

include hsha h

/-- A proposal for the exact work of a first occurrence can be recorded. -/
theorem executes_record_proposal
    {pending : ObservationRequiredV1} (hstate : current.state = .ObservationRequired pending)
    (hprior : pending.prior = none) {proposal : ExactWorkProposalV1} (hvalid : proposal.validate = .ok ())
    (hcampaign : proposal.campaign = pending.metadata.key.campaign)
    (hwork : proposal.work = pending.metadata.expected_work) (observation : ObservationRefV1) :
    ∃ (resolver : ObservationResolverV1) (recorded : OccurrenceSnapshotV1) (events : List EngineEvent) (db' : Db),
      Executes (serves sha) db
        (EngineCall.program sha (.record_proposal observation proposal .Initial resolver "observer" 0)) events
        (some (.ok recorded)) db' ∧
      Receptive sha db' recorded spare ∧
      recorded.state = .ProposalRecorded (recorded_basis sha pending proposal observation) := by
  obtain ⟨hbudget, _⟩ := checks_of_integrity h.integrity hstate
  obtain ⟨recorded, hrecord, _, hrecorded⟩ :=
    record_proposal_ok observation h.integrity hstate hvalid hcampaign hwork (.initial hprior) hbudget
  generalize ObservationResolverV1.answering _ = resolver at hrecord
  have happly : (KernelOp.record_proposal observation proposal .Initial resolver "observer" 0).apply sha current =
      .ok [recorded] := applied hrecord
  obtain ⟨_, db', hcommit, hreceptive⟩ : ∃ receipt db', Returns (CampaignStoreV1.commit sha current recorded
      .ProposalRecorded 0) db receipt db' ∧ Receptive sha db' recorded spare := by
    refine h.commit hsha happly hstate hrecorded (by rintro ⟨⟩) rfl rfl ?_ (by decide)
    simp [CampaignTransitionKindV1.valid, program_counter, hstate, hrecorded, OccurrenceStateV1.program_counter]
  have hcommits : Executes (serves sha) db (CampaignEngineV1.commit_or_halt sha current
      (GovernedLoopKernelV1.record_proposal sha current observation proposal .Initial resolver "observer" 0) "retry"
      .ProposalRecorded 0) [⟨db, .call (.commit current recorded .ProposalRecorded 0), db'⟩]
      (some (.ok recorded)) db' := by
    rw [CampaignEngineV1.commit_or_halt, if_neg (by rw [hrecord]; rintro ⟨⟩)]
    exact executes_commit_successor hrecord hcommit
  exact ⟨resolver, recorded, _, db', executes_current_bind h.current_eq (executes_consult_bind hcommits),
    hreceptive, hrecorded⟩

/-- The standing of a recorded proposal can be required. -/
theorem executes_require_standing {basis : ProposalBasisV1} (hstate : current.state = .ProposalRecorded basis) :
    ∃ (required : OccurrenceSnapshotV1) (events : List EngineEvent) (db' : Db),
      Executes (serves sha) db (EngineCall.program sha (.require_standing 0)) events (some (.ok required)) db' ∧
      Receptive sha db' required spare ∧ required.state = .StandingRequired basis := by
  obtain ⟨hbudget, hnodup, hbasis, _⟩ := checks_of_integrity h.integrity hstate
  obtain ⟨required, hfollows⟩ : ∃ required, Follows sha current (.StandingRequired basis) required :=
    ⟨_, follows_within hbudget hnodup (by rintro ⟨⟩) hbasis rfl⟩
  have hrequire := GovernedLoopKernelV1.require_standing_eq_ok_iff.mpr ⟨h.integrity, basis, hstate, hfollows⟩
  have happly : KernelOp.require_standing.apply sha current = .ok [required] := applied hrequire
  obtain ⟨_, db', hcommit, hreceptive⟩ : ∃ receipt db', Returns (CampaignStoreV1.commit sha current required
      .StandingRequired 0) db receipt db' ∧ Receptive sha db' required spare := by
    refine h.commit hsha happly hstate hfollows.state_eq (by rintro ⟨⟩) rfl rfl ?_ (by decide)
    simp [CampaignTransitionKindV1.valid, program_counter, hstate, hfollows.state_eq,
      OccurrenceStateV1.program_counter]
  exact ⟨required, _, db', executes_current_bind h.current_eq (executes_commit_successor hrequire hcommit),
    hreceptive, hfollows.state_eq⟩

/-- A campaign that waits for an observation can be halted. -/
theorem executes_halt {pending : ObservationRequiredV1} (hstate : current.state = .ObservationRequired pending)
    (reason : HaltReasonRefV1) :
    ∃ (halted : OccurrenceSnapshotV1) (events : List EngineEvent) (db' : Db),
      Executes (serves sha) db (EngineCall.program sha (.halt reason 0)) events (some (.ok halted)) db' ∧
      Receptive sha db' halted spare ∧
      halted.state = .Halted (GovernedLoopKernelV1.halted_from current current.state.metadata reason) := by
  obtain ⟨halted, hhalt⟩ := halt_ok h.integrity (by rw [program_counter, hstate]; rfl) reason
  have hhalted := (GovernedLoopKernelV1.halt_eq_ok_iff.mp hhalt).2.2.state_eq
  have happly : (KernelOp.halt reason).apply sha current = .ok [halted] := applied hhalt
  obtain ⟨_, db', hcommit, hreceptive⟩ : ∃ receipt db', Returns (CampaignStoreV1.commit sha current halted
      .Halted 0) db receipt db' ∧ Receptive sha db' halted spare := by
    refine h.commit hsha happly hstate hhalted (by rintro ⟨⟩) (by rw [hstate]; rfl) ?_ ?_ (by decide)
    · change current.state.authority_history = _
      rw [hstate]
      rfl
    · simp [CampaignTransitionKindV1.valid, program_counter, hhalted, OccurrenceStateV1.program_counter]
  exact ⟨halted, _, db', executes_current_bind h.current_eq (executes_commit_successor hhalt hcommit),
    hreceptive, hhalted⟩

/-- A halted campaign without residuals and without an unresolved attempt can be
terminated. -/
theorem executes_terminate
    {halted : HaltedV1} (hstate : current.state = .Halted halted) (hresolved : halted.unresolved_attempt = none)
    (hempty : halted.metadata.residuals.is_empty = true) {decision : HumanDecisionIdV1}
    (hunused : decision ∉ halted.metadata.used_human_decisions) (observation : ObservationRefV1) (subject : Digest)
    (verification : HumanVerificationRefV1) :
    ∃ (next : OccurrenceSnapshotV1) (write : StoreCall) (receipts : List CampaignCommitReceiptV1) (db' : Db),
      Executes (serves sha) db (EngineCall.program sha (.apply_human_disposition
        (termination current halted decision observation subject)
        (termination current halted decision observation subject).scope none
        (.answering (typed_observation sha halted.metadata.key observation subject)) "observer"
        (.answering verification) 0))
        [⟨db, .current, db⟩, ⟨db, .consult [.Observation, .HumanVerifier], db⟩, ⟨db, .call write, db'⟩]
        (some (.ok (.Updated next verification))) db' ∧
      Returns (write.execute sha) db receipts db' ∧ write.successors = [next] ∧
      next.state = .Completed (terminated sha halted decision observation subject) := by
  obtain ⟨next, hterminate, hnext⟩ :=
    terminate_ok h.integrity hstate hunused hresolved hempty observation subject verification
  have happly : (KernelOp.apply_human_disposition _ _ none _ _ _ _).apply sha current = .ok [next] :=
    applied hterminate
  have hstep := (List.isChain_cons_cons.mp (apply_steps happly)).1
  have hkey : current.key = next.key := by
    rw [key, key, hstate, hnext]
    rfl
  have hcurrent : current.key = halted.metadata.key := by
    rw [key, hstate]
    rfl
  obtain ⟨receipts, db', hcommit⟩ : ∃ receipts db', Returns (CampaignStoreV1.commit_human_disposition sha current
      (.Updated next verification) (termination current halted decision observation subject) 0) db receipts db' :=
    h.commit_terminated hsha hstep hstate hnext rfl (congrArg OccurrenceKeyV1.campaign hcurrent.symm)
      (congrArg OccurrenceKeyV1.occurrence hcurrent.symm) rfl rfl hempty hkey (by decide)
  let write : StoreCall := .commit_human_disposition current (.Updated next verification)
    (termination current halted decision observation subject) 0
  have hcall : Returns (write.execute sha) db receipts db' := hcommit
  exact ⟨next, write, receipts, db', executes_current_bind h.current_eq (executes_consult_bind
    (executes_kernel_bind hterminate (executes_call_bind hcall .finished))), hcall, rfl, hnext⟩

end Calls

namespace EngineHistory

variable {sha : Sha256}

/-- The history with one more call. -/
def after (history : EngineHistory sha) (call : EngineCall) {events : List EngineEvent}
    {outcome : Option (Except CampaignEngineErrorV1 call.Output)} {db : Db}
    (hexecutes : Executes (serves sha) history.final (call.program sha) events outcome db) : EngineHistory sha :=
  { history with
    events := history.events ++ events
    final := db
    runs := .called call history.runs hexecutes }

/-- A campaign can be created under every consistent budget and well-named profile. -/
theorem exists_created (hsha : sha.CollisionFree) (campaign : CampaignId) (occurrence : OccurrenceId)
    (program : ProgramBasisRefV1) (expected_work : Digest) (residuals : ResidualSetV1) {budget : LoopBudgetV1}
    (hbudget : budget.validate = .ok ()) {runtime_profile : Option (String × Jcs)}
    (htoken : ∀ profile ∈ runtime_profile, is_token profile.1) :
    ∃ (history : EngineHistory sha) (initial : OccurrenceSnapshotV1),
      history.runtime_profile = runtime_profile ∧ Receptive sha history.final initial 8 ∧
      initial.state = .ObservationRequired
        { metadata := ⟨⟨campaign, occurrence⟩, program, expected_work, residuals, budget, []⟩
          prior := none } := by
  obtain ⟨initial, hinitial⟩ : ∃ initial, GovernedLoopKernelV1.create_initial sha _ _ _ _ _ _ = .ok initial :=
    create_initial_ok hbudget campaign occurrence program expected_work residuals
  obtain ⟨hcreate, state, hfirst, _⟩ := created_first hsha hinitial htoken (by decide : (0 : UInt64) ≤ I64_MAX)
  have hdb := (create_eq_ok_iff.mp hcreate).1
  have hreceptive : Receptive sha _ initial 8 :=
    ⟨⟨_, state, hfirst, (by decide : 1 + 8 < 2 ^ 63)⟩, ⟨_, hdb.authoritative⟩, by rw [hdb.human_dispositions]; rfl⟩
  have hcreated : CampaignEngineV1.create_with_runtime_profile sha campaign occurrence program expected_work
      residuals budget runtime_profile 0 = .ok (created_db sha initial runtime_profile 0) := by
    simp only [CampaignEngineV1.create_with_runtime_profile, ok_rules]
    exact ⟨initial, hinitial, hcreate⟩
  exact ⟨⟨_, _, _, _, _, _, _, _, _, hcreated, [], _, .created⟩, initial, rfl, hreceptive,
    (GovernedLoopKernelV1.create_initial_eq_ok hinitial).2⟩

end EngineHistory

end ag_app.governed_loop

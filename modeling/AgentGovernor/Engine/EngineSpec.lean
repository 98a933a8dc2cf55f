import AgentGovernor.Engine.Engine
import AgentGovernor.Store.Authoritative

open ag_primitives Checked ag_campaign ag_campaign.governed ag_store Effects Transaction

namespace ag_store

/-- The write that only the completing methods make. -/
def StoreCall.Completing : StoreCall → Prop
  | .commit _ _ kind _ => kind = .Completed
  | .commit_human_disposition _ _ _ _ => True
  | _ => False

end ag_store

namespace ag_app.governed_loop

/-- The operation is no write of a completing method. -/
def EngineOp.Incomplete : EngineOp → Prop
  | .call write => ¬ write.Completing
  | _ => True

/-- The calls that complete an occurrence. -/
def EngineCall.Completing : EngineCall → Prop
  | .complete _ _ _ _ _ _ | .complete_with_catalog _ _ _ _ _ _ _ _ | .apply_human_disposition _ _ _ _ _ _ _ => True
  | _ => False

/-- What an engine asks for, in the store it asks it in: a commit is a step of the kernel
from the snapshot that is current, and an issuance is offered to Docket only while it is
the issuance of the current snapshot and the authorization is all that was spent. -/
def Warranted (sha : Sha256) (db : Db) : EngineOp → Prop
  | .call call => ∀ expected ∈ call.expected, CampaignStoreV1.current sha db = (.ok expected, db) ∧
    ∃ op : KernelOp, op.apply sha expected = .ok call.successors
  | .accept_issuance issuance => ∃ current, CampaignStoreV1.current sha db = (.ok current, db) ∧
    current.program_counter = .AuthorizationConsumed ∧ current.issuance = some issuance
  | _ => True

/-- The operations that only read the store. -/
def Reads (_ : Db) : EngineOp → Prop
  | .current | .runtime_profile => True
  | _ => False

theorem asked_of_reads {sha : Sha256} {closing : Prop} {db : Db} {op : EngineOp} (h : Reads db op) :
    Warranted sha db op ∧ (closing ∨ op.Incomplete) := by
  cases op with
  | current | runtime_profile => exact ⟨trivial, .inr trivial⟩
  | _ => exact h.elim

/-- The plan is of the work and of the profile the store was created with. -/
def Binds (db : Db) (plan : ExactPlanWitnessV1) (work : Digest) : Prop :=
  ∃ profile, db.runtime_profile = some profile ∧ profile.digest = plan.runtime_profile ∧ plan.work = work

theorem runtime_profile_eq_ok {sha : Sha256} {db : Db} {profile : StoredRuntimeProfileV1}
    (h : CampaignStoreV1.runtime_profile sha db = .ok (some profile)) : db.runtime_profile = some profile := by
  rw [CampaignStoreV1.runtime_profile] at h
  cases hstored : db.runtime_profile with
  | none => simp [hstored, pure_eq_ok_iff] at h
  | some stored =>
    simp only [hstored, ok_rules, Option.some.injEq] at h
    rw [h.2]

/-- The program asks for nothing that is not warranted, and leaves a store with an
authoritative snapshot. -/
def Upholds (sha : Sha256) {A : Type} (program : Engine A) (db : Db) : Prop :=
  program.Keeps (serves sha) (Warranted sha) (fun _ db' => ∃ head current, Authoritative sha db' head current) db

/-- The program also makes no completing write, unless it is of a closing method. -/
def Enacts (sha : Sha256) (closing : Prop) {A : Type} (program : Engine A) (db : Db) : Prop :=
  program.Keeps (serves sha) (fun db op => Warranted sha db op ∧ (closing ∨ op.Incomplete))
    (fun _ db' => ∃ head current, Authoritative sha db' head current) db

section Rules

variable {sha : Sha256} {A B : Type} {db : Db} {head : CampaignHeadRow} {current : OccurrenceSnapshotV1}
  {closing : Prop}

variable (h : Authoritative sha db head current)

include h

theorem enacts_pure (value : A) :
    Enacts sha closing (pure value : Engine A) db :=
  ⟨head, current, h⟩

theorem enacts_lift (result : Except CampaignEngineErrorV1 A) :
    Enacts sha closing (lift result : Engine A) db :=
  ⟨head, current, h⟩

omit h in
theorem enacts_bind {program : Engine A} {f : A → Engine B} (h : Enacts sha closing program db)
    (hrest : ∀ value db' head current, Authoritative sha db' head current → Enacts sha closing (f value) db') :
    Enacts sha closing (program >>= f) db := by
  refine keeps_bind (Program.Keeps.imp ?_ h)
  rintro result db' ⟨head, current, hcurrent⟩
  exact ⟨fun value _ => hrest value db' head current hcurrent, fun _ _ => ⟨head, current, hcurrent⟩⟩

/-- A program that only reads comes back to the store it started from. -/
theorem enacts_reads_bind {program : Engine A} {f : A → Engine B}
    (hreads : program.Keeps (serves sha) Reads (fun _ db' => db' = db) db)
    (hrest : ∀ value, Enacts sha closing (f value) db) : Enacts sha closing (program >>= f) db := by
  refine keeps_bind (.mono (fun _ _ => asked_of_reads) (.imp ?_ hreads))
  rintro result _ rfl
  exact ⟨fun value _ => hrest value, fun _ _ => ⟨head, current, h⟩⟩

theorem enacts_lift_bind {result : Except CampaignEngineErrorV1 A} {f : A → Engine B}
    (hrest : ∀ value, result = .ok value → Enacts sha closing (f value) db) :
    Enacts sha closing (lift result >>= f) db :=
  keeps_lift_bind hrest fun _ _ => ⟨head, current, h⟩

theorem enacts_kernel_bind {result : Except KernelErrorV1 A} {f : A → Engine B}
    (hrest : ∀ value, result = .ok value → Enacts sha closing (f value) db) :
    Enacts sha closing (Engine.kernel result >>= f) db :=
  enacts_lift_bind h fun value hvalue => hrest value (map_err_eq_ok_iff.mp hvalue)

theorem enacts_current_bind {f : OccurrenceSnapshotV1 → Engine B}
    (hrest : Enacts sha closing (f current) db) : Enacts sha closing (Engine.current >>= f) db := by
  refine keeps_bind (keeps_ask_bind ⟨trivial, .inr trivial⟩ fun answer db' hserves => ?_)
  obtain ⟨rfl, rfl⟩ := Prod.mk.inj (h.current_eq.symm.trans hserves)
  refine ⟨?_, by rintro _ ⟨⟩⟩
  rintro _ ⟨⟩
  exact hrest

omit h in
theorem enacts_consult_bind {boundaries : List Boundary} {f : Unit → Engine B}
    (hrest : Enacts sha closing (f ()) db) : Enacts sha closing (Engine.consult boundaries >>= f) db := by
  refine keeps_ask_bind ⟨trivial, .inr trivial⟩ fun answer db' hserves => ?_
  obtain rfl : db = db' := hserves
  exact hrest

/-- Docket may answer anything, and the store stays as it is. -/
theorem enacts_docket_bind {op : EngineOp} {answered : op.Answer → Except CampaignEngineErrorV1 A} {f : A → Engine B}
    (hwarranted : Warranted sha db op) (hincomplete : op.Incomplete)
    (hkept : ∀ answer db', serves sha op db answer db' → db = db')
    (hrest : ∀ response, Enacts sha closing (f response) db) :
    Enacts sha closing ((ask op >>= fun answer => lift (answered answer)) >>= f) db := by
  refine keeps_bind (keeps_ask_bind ⟨hwarranted, .inr hincomplete⟩ fun answer db' hserves => ?_)
  obtain rfl := hkept answer db' hserves
  exact ⟨fun value _ => hrest value, fun _ _ => ⟨head, current, h⟩⟩

/-- A call of the store either does nothing or commits its snapshots. -/
theorem enacts_call_bind {call : StoreCall} {f : List CampaignCommitReceiptV1 → Engine B}
    (hexpected : ∀ expected ∈ call.expected, expected = current)
    (hkernel : ∀ expected ∈ call.expected, ∃ op : KernelOp, op.apply sha current = .ok call.successors)
    (hclosing : call.Completing → closing)
    (hrest : ∀ receipts db' head', Authoritative sha db' head' (call.successors.getLast?.getD current) →
      Enacts sha closing (f receipts) db') :
    Enacts sha closing (Engine.call call >>= f) db := by
  have hwarranted : Warranted sha db (.call call) := by
    intro expected hmem
    obtain rfl := hexpected expected hmem
    exact ⟨h.current_eq, hkernel expected hmem⟩
  have hincomplete : closing ∨ ¬ call.Completing := (em closing).imp_right (mt hclosing)
  refine keeps_bind (keeps_ask_bind ⟨hwarranted, hincomplete⟩ fun answer db' hserves => ?_)
  change call.execute sha db = (answer, db') at hserves
  cases answer with
  | ok receipts =>
    obtain ⟨⟨head', h'⟩, _⟩ := StoreCall.authoritative h hexpected hserves
    refine ⟨?_, by rintro _ ⟨⟩⟩
    rintro _ ⟨⟩
    exact hrest receipts db' head' h'
  | error error =>
    have hunchanged := call.atomic sha db error (by rw [hserves])
    rw [hserves] at hunchanged
    obtain rfl : db' = db := hunchanged
    exact ⟨by rintro _ ⟨⟩, fun _ _ => ⟨head, current, h⟩⟩

/-- What one kernel operation makes of the current snapshot is committed, and something is
returned. -/
theorem enacts_applied {call : StoreCall} {value : List CampaignCommitReceiptV1 → A} (op : KernelOp)
    (hexpected : call.expected = some current)
    (hop : op.apply sha current = .ok call.successors) (hclosing : call.Completing → closing) :
    Enacts sha closing (Engine.call call >>= fun receipts => pure (value receipts)) db := by
  refine enacts_call_bind h ?_ (fun _ _ => ⟨op, hop⟩) hclosing fun _ db' head' h' => enacts_pure h' _
  intro expected hmem
  exact (Option.some.inj (hexpected.symm.trans hmem)).symm

end Rules

namespace CampaignEngineV1

variable {sha : Sha256} {B : Type} {db : Db} {head : CampaignHeadRow} {current : OccurrenceSnapshotV1}
  {now_unix_ms : UInt64} {kind : CampaignTransitionKindV1} {plan : Option ExactPlanWitnessV1}
  {result : Except KernelErrorV1 OccurrenceSnapshotV1} {closing : Prop}

variable (h : Authoritative sha db head current)

include h

/-- The successor of one kernel operation is committed, and becomes the authoritative
snapshot that what follows starts from. -/
theorem enacts_commit_successor_bind {f : OccurrenceSnapshotV1 → Engine B} (op : KernelOp)
    (hop : op.apply sha current = ([·]) <$> result) (hkind : kind = .Completed → closing)
    (hrest : ∀ successor db' head', result = .ok successor → Authoritative sha db' head' successor →
      Enacts sha closing (f successor) db') :
    Enacts sha closing (commit_successor current result kind now_unix_ms >>= f) db := by
  rw [commit_successor, Program.bind_assoc]
  refine enacts_kernel_bind h fun successor hresult => ?_
  rw [Program.bind_assoc]
  refine enacts_call_bind h ?_ (fun _ _ => ⟨op, by rw [hop, hresult]; rfl⟩) hkind fun _ db' head' h' => ?_
  · rintro _ ⟨⟩
    rfl
  · exact hrest successor db' head' hresult h'

theorem enacts_commit_successor (op : KernelOp)
    (hop : op.apply sha current = ([·]) <$> result) (hkind : kind = .Completed → closing) :
    Enacts sha closing (commit_successor current result kind now_unix_ms) db :=
  enacts_kernel_bind h fun _ hresult => enacts_applied h op rfl (by rw [hop, hresult]; rfl) hkind

/-- Where the budget is exhausted the halt is committed instead. -/
theorem enacts_commit_or_halt {budget : String} (op : KernelOp)
    (hop : op.apply sha current = ([·]) <$> result) (hkind : kind = .Completed → closing) :
    Enacts sha closing (commit_or_halt sha current result budget kind now_unix_ms) db := by
  rw [commit_or_halt]
  split
  · exact enacts_commit_successor h (.halt _) rfl (by rintro ⟨⟩)
  · exact enacts_commit_successor h op hop hkind

theorem enacts_record {refusal : RefusalOutcomeV1} :
    Enacts sha closing (record sha refusal now_unix_ms) db := by
  refine enacts_call_bind h (by rintro _ ⟨⟩) (by rintro _ ⟨⟩) False.elim fun _ db' head' h' => ?_
  exact enacts_pure h' _

omit h in
/-- A presented plan that passes its gate is of the governed work and of the profile of the
store. The gate reads the profile and nothing else. -/
theorem check_presented_plan_spec {work : Digest} :
    (check_presented_plan plan work).Keeps (serves sha) Reads
      (fun result db' => db' = db ∧ (result = .ok () → ∀ witness ∈ plan, Binds db witness work)) db := by
  cases plan with
  | none => exact ⟨rfl, fun _ => by rintro _ ⟨⟩⟩
  | some plan =>
    refine keeps_bind (keeps_ask_bind trivial fun answer db' hserves => ?_)
    obtain ⟨hanswer, rfl⟩ := hserves
    refine ⟨fun stored hstored => ?_, by rintro _ _; exact ⟨rfl, by rintro ⟨⟩⟩⟩
    obtain rfl := map_err_eq_ok_iff.mp hstored
    refine keeps_lift_bind (fun profile hprofile => ⟨rfl, fun hbound => ?_⟩)
      (by rintro _ _; exact ⟨rfl, by rintro ⟨⟩⟩)
    obtain rfl := ok_or_eq_ok_iff.mp hprofile
    rw [reject_eq_ok_iff, not_or, not_not, not_not] at hbound
    rintro _ ⟨⟩
    exact ⟨profile, runtime_profile_eq_ok hanswer, hbound⟩

omit h in
theorem check_presented_plan_reads {work : Digest} :
    (check_presented_plan plan work).Keeps (serves sha) Reads (fun _ db' => db' = db) db :=
  .imp (fun _ _ h => h.1) check_presented_plan_spec

omit h in
/-- What passes the gate of a recorded proposal is bound to its work, and admitted by the
entry of its schema. -/
theorem check_proposal_plan_spec {catalog : ExactWorkCatalogV2} :
    (check_proposal_plan current catalog plan).Keeps (serves sha) Reads
      (fun result db' => db' = db ∧ (result = .ok () → ∀ proposal ∈ current.proposal,
        (∀ witness ∈ plan, Binds db witness proposal.work) ∧
        ∀ entry ∈ catalog.entries[proposal.work_schema]?, entry.admits_plan proposal.work plan = .ok ())) db := by
  rw [check_proposal_plan]
  cases hproposal : current.proposal with
  | none => exact ⟨rfl, fun _ => by rintro _ ⟨⟩⟩
  | some proposal =>
    refine keeps_bind (Program.Keeps.imp ?_ check_presented_plan_spec)
    rintro result _ ⟨rfl, hbinds⟩
    refine ⟨?_, by rintro _ _; exact ⟨rfl, by rintro ⟨⟩⟩⟩
    rintro _ rfl
    cases hentry : catalog.entries[proposal.work_schema]? with
    | none =>
      refine ⟨rfl, fun _ => ?_⟩
      rintro _ ⟨⟩
      exact ⟨hbinds rfl, fun entry hmem => absurd (hentry.symm.trans hmem) (by rintro ⟨⟩)⟩
    | some entry =>
      refine ⟨rfl, fun hadmits => ?_⟩
      rintro _ ⟨⟩
      refine ⟨hbinds rfl, fun other hmem => ?_⟩
      obtain rfl : entry = other := Option.some.inj (hentry.symm.trans hmem)
      exact hadmits

omit h in
theorem check_proposal_plan_reads {catalog : ExactWorkCatalogV2} :
    (check_proposal_plan current catalog plan).Keeps (serves sha) Reads (fun _ db' => db' = db) db :=
  .imp (fun _ _ h => h.1) check_proposal_plan_spec

omit h in
theorem completion_postcondition_reads {catalog : VersionedExactWorkCatalogV1} :
    (completion_postcondition current catalog plan).Keeps (serves sha) Reads (fun _ db' => db' = db) db := by
  cases catalog with
  | NightshiftV1 => rfl
  | ExactBasisV2 catalog =>
    refine keeps_bind (Program.Keeps.imp ?_ check_presented_plan_reads)
    rintro result _ rfl
    exact ⟨fun _ _ => keeps_lift_bind (fun _ _ => rfl) fun _ _ => rfl, fun _ _ => rfl⟩

/-- A decision pass is one admission or one spend of the kernel. -/
theorem enacts_resolved {decided : Except CampaignEngineErrorV1 AdmissibilityDeciderV1} {inputs : DecisionInputs}
    {operation : Sha256 → OccurrenceSnapshotV1 → AdmissibilityPremises →
      Except KernelErrorV1 OccurrenceSnapshotV1} (op : AdmissibilityPremises → KernelOp)
    (hop : ∀ premises, (op premises).apply sha current = ([·]) <$> operation sha current premises)
    (hkind : kind = .Completed → closing) :
    Enacts sha closing (do
      let decider ← lift decided
      commit_resolved sha operation kind current decider inputs) db :=
  enacts_lift_bind h fun _ _ => enacts_consult_bind (enacts_commit_successor h (op _) (hop _) hkind)

/-- The one method that offers an issuance does so from the current snapshot, before
anything else is committed. -/
theorem enacts_dispatch :
    Enacts sha closing (dispatch sha now_unix_ms) db := by
  refine enacts_current_bind h (enacts_kernel_bind h fun _ hcounter => ?_)
  refine enacts_lift_bind h fun issuance hissuance => ?_
  have hconsumed := not_not.mp (reject_eq_ok_iff.mp hcounter)
  refine enacts_docket_bind h ⟨current, h.current_eq, hconsumed, ok_or_eq_ok_iff.mp hissuance⟩ trivial (fun _ _ => id)
    fun custody => ?_
  exact enacts_commit_successor h (.accept_docket_custody custody) rfl (by rintro ⟨⟩)

theorem enacts_apply_docket_progress (response : DocketIssuanceReconciliationV1) :
    Enacts sha closing (apply_docket_progress sha current response now_unix_ms) db := by
  cases response with
  | NotAccepted => exact enacts_lift h _
  | Accepted custody =>
    refine enacts_lift_bind h fun _ _ => ?_
    cases current.program_counter with
    | Dispatched | ReconciliationRequired => exact enacts_pure h _
    | _ => exact enacts_lift h _
  | Settled custody settlement =>
    refine enacts_lift_bind h fun _ _ => ?_
    split
    · exact enacts_lift_bind h fun _ _ => enacts_pure h _
    · split
      · exact enacts_commit_successor_bind h (.record_reconciled_settlement settlement) rfl (by rintro ⟨⟩)
          fun successor db' head' _ h' => enacts_pure h' _
      · exact enacts_commit_successor_bind h (.record_settlement settlement) rfl (by rintro ⟨⟩)
          fun successor db' head' _ h' => enacts_pure h' _
  | Indeterminate custody indeterminate =>
    refine enacts_lift_bind h fun _ _ => ?_
    split
    · exact enacts_lift_bind h fun _ _ => enacts_pure h _
    · exact enacts_commit_successor_bind h (.require_reconciliation indeterminate) rfl (by rintro ⟨⟩)
        fun successor db' head' _ h' => enacts_pure h' _

/-- What the kernel refuses is recorded, and what it grants is handed on. -/
theorem enacts_apply_authenticated_bind {authenticated : VerifiedGovernedInterventionV1}
    {f : GovernedInterventionEffectV1 → Engine B} (hrest : ∀ effect,
      GovernedLoopKernelV1.apply_verified_governed_intervention sha current authenticated = .ok effect →
      Enacts sha closing (f effect) db) :
    Enacts sha closing (apply_authenticated sha current authenticated now_unix_ms >>= f) db := by
  rw [apply_authenticated]
  cases heffect : GovernedLoopKernelV1.apply_verified_governed_intervention sha current authenticated with
  | ok effect => exact hrest effect heffect
  | error error =>
    rw [Program.bind_assoc]
    refine enacts_bind (enacts_record h) fun _ db' head' current' h' => ?_
    exact enacts_kernel_bind h' (by rintro _ ⟨⟩)

/-- Recovery commits the custody Docket reports and then its outcome: the second commit
starts from the snapshot of the first. -/
theorem enacts_record_recovered {custody : DocketCustodyV1}
    {after : OccurrenceSnapshotV1 → Except KernelErrorV1 OccurrenceSnapshotV1} (op : KernelOp)
    (hop : ∀ dispatched, op.apply sha dispatched = ([·]) <$> after dispatched) (hkind : kind = .Completed → closing) :
    Enacts sha closing (record_recovered sha current custody after kind now_unix_ms) db := by
  refine enacts_commit_successor_bind h (.accept_docket_custody custody) rfl (by rintro ⟨⟩)
    fun dispatched db' head' _ h' => ?_
  exact enacts_commit_successor h' op (hop dispatched) hkind

theorem enacts_recover_attempt :
    Enacts sha closing (recover_attempt sha current now_unix_ms) db := by
  refine enacts_lift_bind h fun custody _ => enacts_docket_bind h trivial trivial (fun _ _ => id) fun response => ?_
  refine enacts_bind (enacts_apply_docket_progress h response) fun progress db' head' current' h' => ?_
  cases progress with
  | Settled => exact enacts_pure h' _
  | Pending | ReconciliationRequired => exact enacts_current_bind h' (enacts_pure h' _)

theorem enacts_recover : Enacts sha closing (recover sha now_unix_ms) db := by
  refine enacts_current_bind h ?_
  cases current.program_counter with
  | AuthorizationConsumed =>
    refine enacts_lift_bind h fun issuance _ => enacts_docket_bind h trivial trivial (fun _ _ => id) fun response => ?_
    cases response with
    | NotAccepted => exact enacts_pure h _
    | Accepted custody =>
      refine enacts_bind (enacts_record_recovered h .recover_dispatched (fun _ => rfl) (by rintro ⟨⟩)) ?_
      exact fun _ db' head' current' h' => enacts_pure h' _
    | Settled custody settlement =>
      refine enacts_bind (enacts_record_recovered h (.record_settlement settlement) (fun _ => rfl) (by rintro ⟨⟩)) ?_
      exact fun _ db' head' current' h' => enacts_pure h' _
    | Indeterminate custody indeterminate =>
      refine enacts_bind (enacts_record_recovered h (.require_reconciliation indeterminate)
        (fun _ => rfl) (by rintro ⟨⟩)) ?_
      exact fun _ db' head' current' h' => enacts_pure h' _
  | Dispatched =>
    refine enacts_commit_successor_bind h .recover_dispatched rfl (by rintro ⟨⟩) fun reconciling db' head' _ h' => ?_
    exact enacts_recover_attempt h'
  | ReconciliationRequired => exact enacts_recover_attempt h
  | _ => exact enacts_pure h _

end CampaignEngineV1

open CampaignEngineV1 in
/-- Every method of the engine asks only for what is warranted, and only a completing one
asks to complete. -/
theorem EngineCall.enacts {sha : Sha256} {db : Db} {head : CampaignHeadRow} {current : OccurrenceSnapshotV1}
    (h : Authoritative sha db head current) (call : EngineCall) :
    Enacts sha call.Completing (call.program sha) db := by
  cases call with
  | record_proposal observation proposal proposal_class resolver expected now =>
    refine enacts_current_bind h (enacts_consult_bind ?_)
    exact enacts_commit_or_halt h
      (.record_proposal observation proposal proposal_class resolver expected now) rfl (by rintro ⟨⟩)
  | require_standing now => exact enacts_current_bind h (enacts_commit_successor h .require_standing rfl (by rintro ⟨⟩))
  | decide_versioned_with_plan catalog =>
    cases catalog with
    | NightshiftV1 =>
      exact enacts_current_bind h (enacts_resolved h .record_admissible (fun _ => rfl) (by rintro ⟨⟩))
    | ExactBasisV2 =>
      refine enacts_current_bind h (enacts_reads_bind h check_proposal_plan_reads fun _ => ?_)
      exact enacts_resolved h .record_admissible (fun _ => rfl) (by rintro ⟨⟩)
  | authorize_versioned_with_plan catalog =>
    cases catalog with
    | NightshiftV1 =>
      exact enacts_current_bind h (enacts_resolved h .consume_authorization (fun _ => rfl) (by rintro ⟨⟩))
    | ExactBasisV2 =>
      refine enacts_current_bind h (enacts_reads_bind h check_proposal_plan_reads fun _ => ?_)
      exact enacts_resolved h .consume_authorization (fun _ => rfl) (by rintro ⟨⟩)
  | dispatch now => exact enacts_dispatch h
  | poll_docket now =>
    refine enacts_current_bind h (enacts_lift_bind h fun custody _ => ?_)
    exact enacts_docket_bind h trivial trivial (fun _ _ => id) fun response => enacts_apply_docket_progress h response
  | open_continuation occurrence expected_work now =>
    refine enacts_current_bind h ?_
    exact enacts_commit_successor h (.open_continuation occurrence expected_work) rfl (by rintro ⟨⟩)
  | note_probe now => exact enacts_current_bind h (enacts_commit_or_halt h .note_probe rfl (by rintro ⟨⟩))
  | halt reason now => exact enacts_current_bind h (enacts_commit_successor h (.halt reason) rfl (by rintro ⟨⟩))
  | escalate reason now =>
    exact enacts_current_bind h (enacts_commit_or_halt h (.escalate reason) rfl (by rintro ⟨⟩))
  | apply_human_disposition artifact scope new_occurrence observation expected verifier now =>
    refine enacts_current_bind h (enacts_consult_bind (enacts_kernel_bind h fun effect heffect => ?_))
    exact enacts_applied h (.apply_human_disposition artifact scope new_occurrence observation expected verifier now)
      rfl (applied heffect) fun _ => trivial
  | apply_governed_intervention request scope verifier now =>
    refine enacts_current_bind h (enacts_consult_bind (enacts_kernel_bind h fun authenticated _ => ?_))
    refine enacts_kernel_bind h fun kind _ => enacts_apply_authenticated_bind h fun effect heffect => ?_
    cases effect with
    | Reconcile => exact enacts_lift h _
    | Transition successor evidence =>
      exact enacts_applied h (.apply_verified_governed_intervention authenticated) rfl (applied heffect) False.elim
  | request_reconciliation request scope verifier now =>
    refine enacts_current_bind h (enacts_consult_bind (enacts_kernel_bind h fun authenticated _ => ?_))
    refine enacts_apply_authenticated_bind h fun effect _ => ?_
    cases effect with
    | Transition => exact enacts_lift h _
    | Reconcile authenticated =>
      refine enacts_lift_bind h fun custody _ => enacts_docket_bind h trivial trivial (fun _ _ => id) fun response => ?_
      cases response with
      | NotAccepted => exact enacts_lift h _
      | Accepted | Indeterminate =>
        refine enacts_lift_bind h fun _ _ => ?_
        exact enacts_bind (enacts_record h) fun _ db' head' current' h' => enacts_pure h' _
      | Settled returned settlement =>
        refine enacts_lift_bind h fun _ _ => enacts_kernel_bind h fun successor hsuccessor => ?_
        exact enacts_applied h (.record_reconciled_settlement settlement) rfl (applied hsuccessor) (by rintro ⟨⟩)
  | complete observation_ref subject terminal_witness observation expected now =>
    refine enacts_current_bind h (enacts_consult_bind ?_)
    exact enacts_commit_successor h
      (.complete_from_observation observation_ref subject terminal_witness observation expected now) rfl
      fun _ => trivial
  | complete_with_catalog observation_ref subject terminal_witness observation expected catalog plan now =>
    refine enacts_current_bind h (enacts_reads_bind h completion_postcondition_reads fun postcondition => ?_)
    refine enacts_consult_bind (enacts_kernel_bind h fun successor hsuccessor => enacts_lift_bind h fun _ _ => ?_)
    exact enacts_applied h
      (.complete_from_observation observation_ref subject terminal_witness observation expected now) rfl
      (applied hsuccessor) fun _ => trivial
  | record_refusal code evidence now => exact enacts_current_bind h (enacts_record h)
  | recover now => exact enacts_recover h

theorem EngineCall.upholds {sha : Sha256} {db : Db} {head : CampaignHeadRow} {current : OccurrenceSnapshotV1}
    (h : Authoritative sha db head current) (call : EngineCall) : Upholds sha (call.program sha) db :=
  .mono (fun _ _ hasked => hasked.1) (EngineCall.enacts h call)

end ag_app.governed_loop

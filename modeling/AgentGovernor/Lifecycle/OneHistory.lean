import AgentGovernor.Lifecycle.Journal
import AgentGovernor.Primitives.Uuid
import AgentGovernor.Primitives.IdealHash

open ag_primitives Checked Effects Windows

namespace ag_app.governed_campaign_production_v1

/-- The place of a fact in the lifecycle. -/
inductive Slot where
  | VerifiedStart
  | Issuance (ordinal : UInt32)
  | DocketCustody (ordinal : UInt32)
  | Settlement (ordinal : UInt32)
  | ReservationCurrent (ordinal : UInt32)
  | ContinuationOpened (ordinal : UInt32)
  | HumanRequired
  deriving DecidableEq

def ProductionLifecycleFactV1.slot : ProductionLifecycleFactV1 → Slot
  | .VerifiedStart _ => .VerifiedStart
  | .Issuance ordinal _ _ => .Issuance ordinal
  | .DocketCustody ordinal _ => .DocketCustody ordinal
  | .Settlement ordinal _ => .Settlement ordinal
  | .ReservationCurrent ordinal _ _ => .ReservationCurrent ordinal
  | .ContinuationOpened ordinal _ => .ContinuationOpened ordinal
  | .HumanRequired _ => .HumanRequired

def ProductionLifecycleEventV1.slot (event : ProductionLifecycleEventV1) : Slot :=
  event.fact.slot

/-- One stage of the lifecycle. -/
def stage_slots (ordinal : UInt32) : List Slot :=
  [.Issuance ordinal, .DocketCustody ordinal, .Settlement ordinal, .ReservationCurrent ordinal]

/-- The one history a journal can tell. -/
def lifecycle : List Slot :=
  [.VerifiedStart] ++ stage_slots 1 ++ [.ContinuationOpened 2] ++ stage_slots 2 ++ [.ContinuationOpened 3] ++
    stage_slots 3 ++ [.HumanRequired]

/-- The only slot that may follow the last one. -/
def successor : Option Slot → Option Slot
  | none => some .VerifiedStart
  | some .VerifiedStart => some (.Issuance 1)
  | some (.ContinuationOpened ordinal) => some (.Issuance ordinal)
  | some (.Issuance ordinal) => some (.DocketCustody ordinal)
  | some (.DocketCustody ordinal) => some (.Settlement ordinal)
  | some (.Settlement ordinal) => some (.ReservationCurrent ordinal)
  | some (.ReservationCurrent ordinal) =>
    if ordinal = 1 ∨ ordinal = 2 then some (.ContinuationOpened (ordinal + 1))
    else if ordinal = 3 then some .HumanRequired
    else none
  | some .HumanRequired => none

variable {sha : Sha256} {uuid : UuidText} {contract : ProductionCampaignLifecycleV1}

theorem legal_eq_ok_iff {guard : Prop} [Decidable guard] : next_fact.legal guard = .ok () ↔ guard := by
  simp [next_fact.legal, reject_eq_ok_iff]

/-- A fact that passes is in the only slot that may come next. -/
theorem next_fact_slot {last : Option ProductionLifecycleFactV1} {next : ProductionLifecycleFactV1}
    (h : next_fact contract last next = .ok ()) :
    successor (last.map ProductionLifecycleFactV1.slot) = some next.slot := by
  unfold next_fact at h
  split at h
  all_goals
    simp only [legal_eq_ok_iff, ok_rules, reduceCtorEq] at h
  case h_7 =>
    obtain ⟨⟨hprior, rfl⟩, _⟩ := h
    simp [successor, ProductionLifecycleFactV1.slot, hprior]
  all_goals simp_all [successor, ProductionLifecycleFactV1.slot]

/-- Along the lifecycle, the slot behind each front part is the successor of its last. -/
theorem successor_along : ∀ count < lifecycle.length + 1,
    successor (lifecycle.take count).getLast? = lifecycle[count]? := by
  decide

theorem prefix_successor {slots : List Slot} {next : Slot} (h : slots <+: lifecycle)
    (hnext : successor slots.getLast? = some next) : slots ++ [next] <+: lifecycle := by
  have htake : slots = lifecycle.take slots.length := List.prefix_iff_eq_take.mp h
  have hat : lifecycle[slots.length]? = some next := by
    rw [← successor_along _ (by have := h.length_le; omega), ← htake, hnext]
  rw [List.prefix_iff_eq_take, List.length_append, List.length_singleton, List.take_add_one, hat, ← htake]
  rfl

/-- A journal as the calls leave it: the sequence counts its rows, every row is filed under
the identity of its event, no identity occurs twice, and the events follow the lifecycle. -/
structure LifecycleDb.Orderly (db : LifecycleDb) : Prop where
  numbered : db.lifecycle_events.map EventRow.sequence = List.range' 1 db.lifecycle_events.length
  named : ∀ row ∈ db.lifecycle_events, row.event_id = row.event_jcs.event_id
  unique : (db.lifecycle_events.map EventRow.event_id).Nodup
  follows : db.events.map ProductionLifecycleEventV1.slot <+: lifecycle

/-- The journal with one more event. -/
def LifecycleDb.added (db : LifecycleDb) (event : ProductionLifecycleEventV1) : LifecycleDb :=
  ⟨db.lifecycle_events ++ [⟨db.events.length + 1, event.event_id, event⟩]⟩

/-- What a process may rely on: rows are only added behind the others, and the journal
stays orderly. -/
def LifecycleDb.Grows (db next : LifecycleDb) : Prop :=
  db.lifecycle_events <+: next.lifecycle_events ∧ (db.Orderly → next.Orderly)

theorem grows_refl (db : LifecycleDb) : db.Grows db :=
  ⟨List.prefix_refl _, id⟩

theorem grows_trans (db middle next : LifecycleDb) (h : db.Grows middle) (h' : middle.Grows next) : db.Grows next :=
  ⟨h.1.trans h'.1, h'.2 ∘ h.2⟩

namespace LifecycleDb.Orderly

variable {db : LifecycleDb}

variable (h : db.Orderly)

include h

theorem strict : db.lifecycle_events.Pairwise fun row other => row.sequence < other.sequence := by
  have hpairwise := List.pairwise_lt_range' (s := 1) (n := db.lifecycle_events.length)
  rw [← h.numbered] at hpairwise
  exact List.pairwise_map.mp hpairwise

/-- Reading in the order of the sequence is reading in the order of insertion. -/
theorem events_eq : db.events = db.lifecycle_events.map EventRow.event_jcs := by
  rw [events, sort_by_key_of_strict _ h.strict]

/-- Looking an event of the journal up by its identity finds that event. -/
theorem finds {event : ProductionLifecycleEventV1} (hmem : event ∈ db.events) :
    (db.lifecycle_events.find? fun row => row.event_id = event.event_id).map EventRow.event_jcs = some event := by
  rw [h.events_eq, List.mem_map] at hmem
  obtain ⟨row, hrow, rfl⟩ := hmem
  cases hfound : db.lifecycle_events.find? fun other => other.event_id = row.event_jcs.event_id with
  | none =>
    have habsent := List.find?_eq_none.mp hfound row hrow
    simp [h.named row hrow] at habsent
  | some found =>
    have hid : found.event_id = row.event_id := by
      have := List.find?_some hfound
      simp_all [h.named row hrow]
    rw [List.inj_on_of_nodup_map h.unique (List.mem_of_find?_eq_some hfound) hrow hid]
    rfl

/-- The sequence behind what was read is free only if nothing was added since. -/
theorem whole_of_free {prior : List ProductionLifecycleEventV1} (hprior : prior <+: db.events)
    (hkey : ∀ taken ∈ db.lifecycle_events, taken.sequence ≠ prior.length + 1) : prior = db.events := by
  refine hprior.eq_of_length_le ?_
  by_contra hshort
  have hlength : db.events.length = db.lifecycle_events.length := by rw [h.events_eq, List.length_map]
  have hmem : prior.length + 1 ∈ db.lifecycle_events.map EventRow.sequence := by
    rw [h.numbered, List.mem_range'_1]
    omega
  obtain ⟨taken, htaken, hsequence⟩ := List.mem_map.mp hmem
  exact hkey taken htaken hsequence

theorem numbered_added (event : ProductionLifecycleEventV1) :
    (db.added event).lifecycle_events.map EventRow.sequence =
      List.range' 1 (db.added event).lifecycle_events.length := by
  have hlength : db.events.length = db.lifecycle_events.length := by rw [h.events_eq, List.length_map]
  rw [added, List.map_append, h.numbered, hlength, List.length_append, List.length_singleton, List.range'_1_concat,
    Nat.add_comm]
  rfl

theorem events_added (event : ProductionLifecycleEventV1) : (db.added event).events = db.events ++ [event] := by
  have hstrict := List.pairwise_lt_range' (s := 1) (n := (db.added event).lifecycle_events.length)
  rw [← h.numbered_added] at hstrict
  rw [LifecycleDb.events, sort_by_key_of_strict _ (List.pairwise_map.mp hstrict), h.events_eq, added, List.map_append]
  rfl

/-- An event that is legal behind the whole journal keeps it orderly. -/
theorem added_orderly {event : ProductionLifecycleEventV1}
    (hlegal : validate_next_fact contract db.events event.fact = .ok ())
    (hunique : ∀ taken ∈ db.lifecycle_events, taken.event_id ≠ event.event_id) : (db.added event).Orderly := by
  refine ⟨h.numbered_added event, ?_, ?_, ?_⟩
  · intro row hrow
    rcases List.mem_append.mp hrow with hold | hnew
    · exact h.named row hold
    · rw [List.mem_singleton.mp hnew]
  · rw [added, List.map_append, List.nodup_append]
    refine ⟨h.unique, by simp, ?_⟩
    rintro id hid other hother rfl
    obtain ⟨taken, htaken, rfl⟩ := List.mem_map.mp hid
    exact hunique taken htaken (by simpa using hother)
  · rw [h.events_added, List.map_append]
    refine prefix_successor h.follows ?_
    have hslot := next_fact_slot hlegal
    rw [Option.map_map] at hslot
    rw [List.getLast?_map]
    exact hslot

end LifecycleDb.Orderly

/-- None of these statements changed the journal. -/
def Unchanged (events : List (Event LifecycleDb JournalOp)) : Prop :=
  ∀ event ∈ events, event.after = event.before

/-- What a call that reports `inserted` for its event has done: the last statement added
the event behind all others, or no statement changed anything; the event is in the journal
either way. -/
def Recorded (event : ProductionLifecycleEventV1) (inserted : Bool) (events : List (Event LifecycleDb JournalOp))
    (db : LifecycleDb) : Prop :=
  event ∈ db.events ∧
    match inserted with
    | true => ∃ earlier last, events = earlier ++ [last] ∧ Unchanged earlier ∧
      last.after.events = last.before.events ++ [event]
    | false => Unchanged events

/-- What a call has done with the result it returns. -/
def JournalCall.Returned (sha : Sha256) (uuid : UuidText) (contract : ProductionCampaignLifecycleV1)
    (call : JournalCall) (events : List (Event LifecycleDb JournalOp))
    (result : Except LifecycleErrorV1 (Bool × Option HumanRequiredReceiptV1)) (db : LifecycleDb) : Prop :=
  match result with
  | .ok (inserted, receipt) => ∃ fact, call.fact sha uuid contract = .ok fact ∧ receipt = fact.receipt ∧
    Recorded (.sealed sha contract.lifecycle_id fact) inserted events db
  | .error _ => Unchanged events

theorem Unchanged.append {earlier : List (Event LifecycleDb JournalOp)} {last : Event LifecycleDb JournalOp}
    (h : Unchanged earlier) (hlast : last.after = last.before) : Unchanged (earlier ++ [last]) := by
  intro event hevent
  rcases List.mem_append.mp hevent with hold | hnew
  · exact h event hold
  · rwa [List.mem_singleton.mp hnew]

theorem Unchanged.nil : Unchanged [] := fun _ hevent => absurd hevent List.not_mem_nil

variable {call : JournalCall} {db : LifecycleDb} {events : List (Event LifecycleDb JournalOp)}
  {fact : ProductionLifecycleFactV1} {finish : JournalSystem}

/-- An orderly journal that grows keeps its events in front. -/
theorem LifecycleDb.Grows.events_prefix {next : LifecycleDb} (hgrows : db.Grows next) (h : db.Orderly) :
    db.events <+: next.events := by
  rw [h.events_eq, (hgrows.2 h).events_eq]
  exact hgrows.1.map _

abbrev JournalAssures {A : Type} (program : JournalProgram A)
    (post : List (Event LifecycleDb JournalOp) → Except LifecycleErrorV1 A → LifecycleDb → Prop)
    (events : List (Event LifecycleDb JournalOp)) (db : LifecycleDb) : Prop :=
  program.Assures JournalOp.Serves LifecycleDb.Grows post events db

section Statements

variable {A : Type} {events : List (Event LifecycleDb JournalOp)} {db : LifecycleDb}
  {post : List (Event LifecycleDb JournalOp) → Except LifecycleErrorV1 A → LifecycleDb → Prop}

/-- A check between the statements. -/
theorem assures_lift_bind {B : Type} {result : Except LifecycleErrorV1 B} {f : B → JournalProgram A}
    (hok : ∀ value, result = .ok value → JournalAssures (f value) post events db)
    (herror : ∀ error later, db.Grows later → result = .error error → post events (.error error) later) :
    JournalAssures (lift result >>= f) post events db := by
  refine Program.Assures.bind grows_refl ?_
  intro later hlater
  cases result with
  | ok value => exact (hok value rfl).stable grows_trans hlater
  | error error => exact herror error later hlater rfl

/-- A statement: what it is answered with, and what it does to the journal, in every state
the journal may have reached by then. -/
theorem assures_execute_bind {op : JournalOp} {f : op.Reply → JournalProgram A}
    (herror : ∀ found later error, db.Grows found → found.Grows later →
      post (events ++ [⟨found, op, found⟩]) (.error (.Store error)) later)
    (hok : ∀ found reply next, db.Grows found → JournalOp.Serves op found (.ok reply) next →
      found.Grows next ∧ JournalAssures (f reply) post (events ++ [⟨found, op, next⟩]) next) :
    JournalAssures (execute op >>= f) post events db := by
  intro found hfound answer next hserved
  cases answer with
  | ok reply => exact hok found reply next hfound hserved
  | error error =>
    have hsame : next = found := by cases hserved; rfl
    subst hsame
    exact ⟨grows_refl _, fun later hlater => herror next later error hfound hlater⟩

end Statements

variable {actions : List (Action JournalCall)} {event : ProductionLifecycleEventV1}
  {result : Except LifecycleErrorV1 (Bool × Option HumanRequiredReceiptV1)} {start : JournalSystem}

/-- An insertion behind events that were read and validated earlier adds the event to the
whole journal, or fails. -/
theorem serves_insert_cases {found next : LifecycleDb} {prior : List ProductionLifecycleEventV1} (h : found.Orderly)
    (hprior : prior <+: found.events)
    (hlegal : validate_next_fact contract prior event.fact = .ok ())
    (hserved : JournalOp.Serves (.insert ⟨prior.length + 1, event.event_id, event⟩) found (.ok ()) next) :
    next = found.added event ∧ next.Orderly := by
  cases hserved with
  | inserts hkey hunique =>
    obtain rfl := h.whole_of_free hprior hkey
    exact ⟨rfl, h.added_orderly hlegal hunique⟩

/-- Reading, validating and inserting on separate statements records the event once. -/
theorem append_new_assured (horderly : db.Orderly)
    (hevents : Unchanged events) :
    JournalAssures (append_new contract event) (fun events result db =>
      match result with
      | .ok inserted => Recorded event inserted events db
      | .error _ => Unchanged events) events db := by
  refine assures_execute_bind (fun _ _ _ _ _ => hevents.append rfl) ?_
  intro read prior next hread hserved
  cases hserved
  have hread_orderly := hread.2 horderly
  have hevents : Unchanged (events ++ [⟨read, .select, read⟩]) := hevents.append rfl
  refine ⟨grows_refl _, assures_lift_bind ?_ fun _ _ _ _ => hevents⟩
  intro _ hlegal
  refine assures_lift_bind ?_ fun _ _ _ _ => hevents
  intro sequence hsequence
  obtain ⟨_, rfl⟩ : ¬ read.events.length + 1 ≥ 2 ^ 63 ∧ read.events.length + 1 = sequence := by
    simpa only [next_sequence, ok_rules] using hsequence
  refine assures_execute_bind (fun _ _ _ _ _ => hevents.append rfl) ?_
  intro found _ next hfound hserved
  have hfound_orderly := hfound.2 hread_orderly
  obtain ⟨rfl, hnext⟩ := serves_insert_cases hfound_orderly (hfound.events_prefix hread_orderly) hlegal hserved
  have hadded := hfound_orderly.events_added event
  refine ⟨⟨List.prefix_append _ _, fun _ => hnext⟩, fun later hlater => ⟨?_, _, _, rfl, hevents, hadded⟩⟩
  exact (hlater.events_prefix hnext).subset (by simp [hadded])

theorem append_assured (horderly : db.Orderly) (hevents : Unchanged events) :
    JournalAssures (append sha contract fact) (fun events result db =>
      match result with
      | .ok inserted => Recorded (.sealed sha contract.lifecycle_id fact) inserted events db
      | .error _ => Unchanged events) events db := by
  refine assures_execute_bind (fun _ _ _ _ _ => hevents.append rfl) ?_
  intro found existing next hfound hserved
  cases hserved
  have hfound_orderly := hfound.2 horderly
  refine ⟨grows_refl _, ?_⟩
  split
  next existing hexisting =>
    intro later hlater
    by_cases hsame : existing = .sealed sha contract.lifecycle_id fact
    · -- The row that holds the event is still there.
      obtain ⟨row, hrow, rfl⟩ := Option.map_eq_some_iff.mp hexisting
      have hmem : row.event_jcs ∈ found.events := by
        rw [hfound_orderly.events_eq]
        exact List.mem_map_of_mem (List.mem_of_find?_eq_some hrow)
      rw [if_pos hsame, ← hsame]
      exact ⟨(hlater.events_prefix hfound_orderly).subset hmem, hevents.append rfl⟩
    · rw [if_neg hsame]
      exact hevents.append rfl
  next => exact append_new_assured hfound_orderly (hevents.append rfl)

/-- Every call is assured of the meaning of its result, whatever the other processes do. -/
theorem record_assured (call : JournalCall) (db : LifecycleDb) (horderly : db.Orderly) :
    JournalAssures (call.record sha uuid contract) (call.Returned sha uuid contract) [] db := by
  refine assures_lift_bind ?_ fun _ _ _ _ => Unchanged.nil
  intro fact hfact
  refine Program.Assures.bind grows_refl ?_
  refine (append_assured horderly Unchanged.nil).imp grows_trans ?_
  intro events result later h
  cases result with
  | ok inserted => exact fun final hfinal => ⟨fact, hfact, rfl, h final hfinal⟩
  | error => exact h later (grows_refl later)

/-- A call whose event is in the journal finds it there, unless the store fails. -/
theorem repeat_assured (horderly : db.Orderly) (hfact : call.fact sha uuid contract = .ok fact)
    (hmem : .sealed sha contract.lifecycle_id fact ∈ db.events) :
    JournalAssures (call.record sha uuid contract) (fun _ result _ =>
      result = .ok (false, fact.receipt) ∨ ∃ error, result = .error (.Store error)) [] db := by
  refine assures_lift_bind ?_ fun error _ _ herror => by simp [hfact] at herror
  intro found hfound
  obtain rfl := Except.ok.inj (hfact.symm.trans hfound)
  rw [append, Program.bind_assoc]
  refine assures_execute_bind (fun _ _ error _ _ => .inr ⟨error, rfl⟩) ?_
  intro reached existing next hreached hserved
  cases hserved
  refine ⟨grows_refl _, ?_⟩
  rw [(hreached.2 horderly).finds ((hreached.events_prefix horderly).subset hmem)]
  change JournalAssures (lift (if ProductionLifecycleEventV1.sealed sha contract.lifecycle_id fact = _
    then _ else _) >>= _) _ _ _
  rw [if_pos rfl]
  exact fun _ _ => .inl rfl

abbrev JournalSystem : Type :=
  System LifecycleDb JournalCall JournalOp JournalOp.Answer LifecycleErrorV1 (Bool × Option HumanRequiredReceiptV1)

/-- Any number of processes calling one journal, each statement on its own. -/
abbrev JournalRun (sha : Sha256) (uuid : UuidText) (contract : ProductionCampaignLifecycleV1) :
    JournalSystem → List (Action JournalCall) → JournalSystem → Prop :=
  System.Run (JournalCall.record sha uuid contract) JournalOp.Serves

/-- The journal as it is created, before any call. -/
def created : JournalSystem :=
  .initial ⟨[]⟩

theorem created_orderly : LifecycleDb.Orderly ⟨[]⟩ :=
  ⟨rfl, by simp, by simp, by simp [LifecycleDb.events, sort_by_key]⟩

/-- A journal that was reached from its creation goes on growing. -/
theorem reached_run (hstart : start.shared.Orderly)
    (hassured : start.Assured JournalOp.Serves LifecycleDb.Grows (JournalCall.Returned sha uuid contract))
    (h : JournalRun sha uuid contract start actions finish) : finish.shared.Orderly ∧
      start.shared.Grows finish.shared ∧
      finish.Assured JournalOp.Serves LifecycleDb.Grows (JournalCall.Returned sha uuid contract) :=
  System.Run.assured h grows_refl grows_trans (fun _ _ h hgrows => hgrows.2 h) record_assured hstart hassured

theorem created_run (h : JournalRun sha uuid contract created actions finish) : finish.shared.Orderly ∧
      finish.Assured JournalOp.Serves LifecycleDb.Grows (JournalCall.Returned sha uuid contract) := by
  obtain ⟨horderly, _, hassured⟩ := reached_run created_orderly
    (fun _ _ hprocess => by simp [created, System.initial] at hprocess) h
  exact ⟨horderly, hassured⟩

/-- The journal is one ordered history under every interleaving: its events are a front
part of the lifecycle, later journals only add to it, a call returns `true` exactly if it
added its event and changes nothing otherwise, and a call that repeats a successful one
returns `false`. -/
theorem journal_one_history {first second : List (Action JournalCall)} {middle finish : JournalSystem}
    (hfirst : JournalRun sha uuid contract created first middle)
    (hsecond : JournalRun sha uuid contract middle second finish) :
    middle.shared.events.map ProductionLifecycleEventV1.slot <+: lifecycle ∧
      middle.shared.events <+: finish.shared.events ∧
      (∀ pid call result events, finish.process pid = some ⟨call, .done result, events⟩ →
        call.Returned sha uuid contract events result finish.shared) ∧
      ∀ earlier pid call receipt inserted events rest result later,
        middle.process earlier = some ⟨call, .done (.ok (inserted, receipt)), events⟩ →
        second = .begins pid call :: rest → (∀ other, .begins pid other ∉ rest) →
        finish.process pid = some ⟨call, .done result, later⟩ →
        (result = .ok (false, receipt) ∨ ∃ error, result = .error (.Store error)) ∧ Unchanged later := by
  obtain ⟨hmiddle, hassured⟩ := created_run hfirst
  obtain ⟨_, hgrows, hfinish⟩ := reached_run hmiddle hassured hsecond
  have hreturned : ∀ pid call result events, finish.process pid = some ⟨call, .done result, events⟩ →
      call.Returned sha uuid contract events result finish.shared :=
    fun pid call result events hdone => hfinish pid _ hdone _ (grows_refl _)
  refine ⟨hmiddle.follows, hgrows.events_prefix hmiddle, hreturned, ?_⟩
  intro earlier pid call receipt inserted events rest result later hearlier hrest hbusy hdone
  subst hrest
  obtain ⟨fact, hfact, rfl, hmem, _⟩ := hassured earlier _ hearlier _ (grows_refl _)
  obtain ⟨after, hbegins, hrun⟩ := RunPath.uncons hsecond
  have hafter := (hbegins.assured grows_refl grows_trans (fun call => record_assured call _ hmiddle) hassured).2
  have hresult : result = .ok (false, fact.receipt) ∨ ∃ error, result = .error (.Store error) := by
    cases hbegins
    obtain ⟨process, hprocess, hown⟩ := System.Run.assured_process hrun grows_refl grows_trans
      (fun _ _ h hgrows => hgrows.2 h) record_assured hmiddle hafter (Function.update_self _ _ _)
      (repeat_assured hmiddle hfact hmem) hbusy
    obtain rfl := Option.some.inj (hprocess.symm.trans hdone)
    exact hown _ (grows_refl _)
  refine ⟨hresult, ?_⟩
  have hlater := hreturned pid call result later hdone
  rcases hresult with rfl | ⟨error, rfl⟩
  · obtain ⟨_, _, _, _, hunchanged⟩ := hlater
    exact hunchanged
  · exact hlater

section Alone

variable {call : JournalCall} {fact : ProductionLifecycleFactV1} {db : LifecycleDb}

theorem executes_execute_bind {A : Type} {op : JournalOp} {reply : op.Reply} {f : op.Reply → JournalProgram A}
    {next finish : LifecycleDb} {rest : List (Event LifecycleDb JournalOp)}
    {outcome : Option (Except LifecycleErrorV1 A)} (hserves : JournalOp.Serves op db (.ok reply) next)
    (hrest : Executes JournalOp.Serves next (f reply) rest outcome finish) :
    Executes JournalOp.Serves db (execute op >>= f) (⟨db, op, next⟩ :: rest) outcome finish :=
  .performed hserves hrest

/-- A new event that is legal behind the journal is inserted. -/
theorem append_new_inserts {event : ProductionLifecycleEventV1} (horderly : db.Orderly)
    (hlegal : validate_next_fact contract db.events event.fact = .ok ()) (hroom : db.events.length + 1 < 2 ^ 63)
    (hnew : ∀ taken ∈ db.lifecycle_events, taken.event_id ≠ event.event_id) :
    ∃ events, Executes JournalOp.Serves db (append_new contract event) events (some (.ok true)) (db.added event) := by
  have hlength : db.events.length = db.lifecycle_events.length := by rw [horderly.events_eq, List.length_map]
  have hkey : ∀ taken ∈ db.lifecycle_events, taken.sequence ≠ db.events.length + 1 := by
    intro taken htaken hsequence
    have hmem : taken.sequence ∈ db.lifecycle_events.map EventRow.sequence := List.mem_map_of_mem htaken
    rw [horderly.numbered, List.mem_range'_1] at hmem
    omega
  have hsequence : next_sequence db.events = .ok (db.events.length + 1) := by
    rw [next_sequence, reject_of_not (Nat.not_le.mpr hroom)]
    rfl
  exact ⟨_, executes_execute_bind .selects (executes_lift_bind hlegal (executes_lift_bind hsequence
    (executes_execute_bind (.inserts hkey hnew) .finished)))⟩

/-- Left alone, a call with a new and legal fact inserts its event. -/
theorem record_inserts (horderly : db.Orderly) (hfact : call.fact sha uuid contract = .ok fact)
    (hlegal : validate_next_fact contract db.events fact = .ok ()) (hroom : db.events.length + 1 < 2 ^ 63)
    (hnew : ∀ taken ∈ db.lifecycle_events,
      taken.event_id ≠ (ProductionLifecycleEventV1.sealed sha contract.lifecycle_id fact).event_id) :
    ∃ events, Executes JournalOp.Serves db (call.record sha uuid contract) events
      (some (.ok (true, fact.receipt))) (db.added (.sealed sha contract.lifecycle_id fact)) := by
  obtain ⟨events, hinserts⟩ := append_new_inserts horderly hlegal hroom hnew
  have habsent : (db.lifecycle_events.find? fun row => row.event_id =
      (ProductionLifecycleEventV1.sealed sha contract.lifecycle_id fact).event_id).map EventRow.event_jcs = none := by
    simpa using hnew
  have happend : Executes JournalOp.Serves db (append sha contract fact)
      (⟨db, .find (ProductionLifecycleEventV1.sealed sha contract.lifecycle_id fact).event_id, db⟩ :: events)
      (some (.ok true)) (db.added (.sealed sha contract.lifecycle_id fact)) := by
    refine executes_execute_bind .finds ?_
    rw [habsent]
    exact hinserts
  exact ⟨_, executes_lift_bind hfact (happend.bind .finished)⟩

/-- Left alone, a call whose event is in the journal returns `false`. -/
theorem record_repeats (horderly : db.Orderly) (hfact : call.fact sha uuid contract = .ok fact)
    (hmem : .sealed sha contract.lifecycle_id fact ∈ db.events) :
    ∃ events, Executes JournalOp.Serves db (call.record sha uuid contract) events
      (some (.ok (false, fact.receipt))) db := by
  have happend : Executes JournalOp.Serves db (append sha contract fact)
      [⟨db, .find (ProductionLifecycleEventV1.sealed sha contract.lifecycle_id fact).event_id, db⟩]
      (some (.ok false)) db := by
    refine executes_execute_bind .finds ?_
    rw [horderly.finds hmem]
    change Executes _ _ (lift (if ProductionLifecycleEventV1.sealed sha contract.lifecycle_id fact = _
      then _ else _)) _ _ _
    rw [if_pos rfl]
    exact .finished
  exact ⟨_, executes_lift_bind hfact (happend.bind .finished)⟩

end Alone

/-- A process begins a call and is left alone with it. -/
theorem begun_alone (pid : Nat)
    (h : Executes JournalOp.Serves start.shared (call.record sha uuid contract) events (some result) db) :
    ∃ actions finish, JournalRun sha uuid contract start actions finish ∧ finish.shared = db ∧
      finish.process pid = some ⟨call, .done result, events⟩ :=
  ⟨_, _, (RunPath.single (System.Step.begins pid call)).append
    (System.Run.of_executes h (Function.update_self _ _ _)), rfl, Function.update_self _ _ _⟩

section Sample

def sample_uuid : UuidText where
  to_string occurrence := String.ofList (uuid_text occurrence.uuid)
  parse text := (read_uuid text).map ag_campaign.governed.OccurrenceId.mk

/-- The text of a digest of one digit throughout. -/
def sample_digest (digit : Fin 16) : String :=
  Digest.as_str ⟨List.replicate 64 digit⟩

/-- The occurrence of a stage. -/
def sample_occurrence (ordinal : Fin 16) : String :=
  String.ofList (uuid_text (BitVec.ofNat 128 ordinal))

variable (sha : Sha256)

def sample_start : VerifiedCampaignStartBasisV1 :=
  let start : VerifiedCampaignStartBasisV1 :=
    { schema := VERIFIED_CAMPAIGN_START_BASIS_SCHEMA_V1, basis_id := "", campaign_id := sample_digest 4,
      campaign_packet_id := sample_digest 5, stage_1_work := sample_digest 6, subject := sample_digest 7,
      scope := sample_digest 8, initial_occurrence := sample_occurrence 1, mandate := sample_digest 9,
      observation := sample_digest 10, observation_resolver_id := "nightshift", standing_resolver_id := "standing",
      human_decision := sample_digest 11, human_principal := sample_digest 12,
      human_verification := sample_digest 13, verification_profile := "profile", decided_at_unix_ms := 1,
      does_not_establish := ROOT_NONCLAIMS }
  { start with basis_id := domain_hash sha VERIFIED_CAMPAIGN_START_BASIS_SCHEMA_V1 start }

/-- One stage, with a reservation of its own. -/
def sample_stage (ordinal : Fin 16) (antecedent : AntecedentObservationV1) : ProductionStageLawV1 :=
  { ordinal := .ofNat ordinal, occurrence := sample_occurrence ordinal, reservation := sample_digest ordinal,
    executor_work_schema := "worker-vm", subject := sample_digest 7, scope := sample_digest 8,
    mandate := sample_digest 9, observation := sample_digest 10, observation_resolver_id := "nightshift",
    standing_resolver_id := "standing", antecedent }

/-- Three stages, each behind the reservation of the one before, and the terminal law. -/
def sample_contract : ProductionCampaignLifecycleV1 :=
  { lifecycle_id := sample_digest 0, campaign_id := sample_digest 4, program := sample_digest 14,
    verified_start := sample_start sha
    stages :=
      [sample_stage 1 (.VerifiedCampaignStart (sample_start sha).basis_id),
        sample_stage 2 (.CurrentReservationRealization (sample_digest 1)),
        sample_stage 3 (.CurrentReservationRealization (sample_digest 2))]
    terminal := ⟨sample_digest 15, sample_digest 3, sample_digest 10, "nightshift"⟩ }

theorem require_sample_digest (digit : Fin 16) : require_digest (sample_digest digit) = .ok () := by
  have hparse : Digest.parse (sample_digest digit) = .ok ⟨List.replicate 64 digit⟩ :=
    Digest.parse_eq_ok_iff.mpr ⟨rfl, List.length_replicate⟩
  rw [require_digest, hparse]
  rfl

theorem sample_uuid_parse (value : BitVec 128) :
    sample_uuid.parse (String.ofList (uuid_text value)) = some ⟨value⟩ := by
  simp [sample_uuid, read_uuid_text]

/-- The campaign start of the sample passes its checks. -/
theorem sample_start_fact :
    (JournalCall.VerifiedStart (sample_contract sha).verified_start).fact sha sample_uuid (sample_contract sha) =
      .ok (.VerifiedStart (sample_contract sha).verified_start.basis_id) := by
  have hblank : ¬ is_blank "nightshift" ∧ ¬ is_blank "standing" ∧ ¬ is_blank "profile" := by decide
  have hvalid : (sample_start sha).validate sha sample_uuid = .ok () := by
    refine bind_eq_ok_iff.mpr ⟨(), reject_of_not ?_, forM_eq_ok_iff.mpr ?_⟩
    · simp only [sample_start, sample_occurrence, sample_uuid_parse, ne_eq, not_true_eq_false, hblank, reduceCtorEq,
        or_self]
      decide
    · simp only [sample_start, List.mem_cons, List.not_mem_nil, or_false]
      rintro value (rfl | rfl | rfl | rfl | rfl | rfl | rfl | rfl | rfl | rfl) <;> exact require_sample_digest _
  refine bind_eq_ok_iff.mpr ⟨(), hvalid, bind_eq_ok_iff.mpr ⟨(), reject_of_not (not_not.mpr rfl), rfl⟩⟩

end Sample

/-- A process records the campaign start, and another process records it again. -/
theorem journal_one_history_start : ∃ (first second : List (Action JournalCall)) (middle finish : JournalSystem),
    JournalRun ideal_sha sample_uuid (sample_contract ideal_sha) created first middle ∧
      JournalRun ideal_sha sample_uuid (sample_contract ideal_sha) middle second finish ∧
      middle.shared.events.map ProductionLifecycleEventV1.slot = [.VerifiedStart] ∧
      middle.shared.events <+: finish.shared.events ∧
      ∃ call events, finish.process 1 = some ⟨call, .done (.ok (false, none)), events⟩ ∧ Unchanged events := by
  have hfact : (JournalCall.VerifiedStart (sample_contract ideal_sha).verified_start).fact ideal_sha sample_uuid
      (sample_contract ideal_sha) = .ok (.VerifiedStart _) := sample_start_fact ideal_sha
  generalize sample_contract ideal_sha = contract at hfact ⊢
  have hnew := created_orderly.events_added
    (.sealed ideal_sha contract.lifecycle_id (.VerifiedStart contract.verified_start.basis_id))
  have hlegal : validate_next_fact contract (LifecycleDb.events ⟨[]⟩)
      (.VerifiedStart contract.verified_start.basis_id) = .ok () := legal_eq_ok_iff.mpr rfl
  obtain ⟨_, hinserts⟩ := record_inserts created_orderly hfact hlegal (by decide) (by simp)
  have horderly : (LifecycleDb.added ⟨[]⟩ (.sealed ideal_sha contract.lifecycle_id
      (.VerifiedStart contract.verified_start.basis_id))).Orderly :=
    created_orderly.added_orderly hlegal (by simp)
  obtain ⟨_, hrepeats⟩ := record_repeats horderly hfact (by simp [hnew])
  obtain ⟨first, middle, hfirst, hmiddle, _⟩ := begun_alone 0 (show Executes _ created.shared _ _ _ _ from hinserts)
  rw [← hmiddle] at hrepeats
  obtain ⟨second, finish, hsecond, _, hdone⟩ := begun_alone 1 hrepeats
  obtain ⟨_, hgrows, hreturned, _⟩ := journal_one_history hfirst hsecond
  refine ⟨first, second, middle, finish, hfirst, hsecond, ?_, hgrows, _, _, hdone, ?_⟩
  · rw [hmiddle, hnew]
    rfl
  · obtain ⟨_, _, _, _, hunchanged⟩ := hreturned 1 _ _ _ hdone
    exact hunchanged

end ag_app.governed_campaign_production_v1

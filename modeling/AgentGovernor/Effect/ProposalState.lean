import AgentGovernor.Effect.Proposal

open ag_primitives Checked

namespace ag_effect

/-- The durable lifecycle of a proposal. -/
inductive ProposalStateV1 where
  | Received
  | Ready (proposal : Digest)
  | Refused (refusal : Digest)
  | Indeterminate (envelope : Digest)
  | AuthorizationBurned (proposal authorization : Digest) (family : EffectFamilyV1)
  | Preparing (proposal attempt : Digest)
  | Executing (proposal attempt : Digest) (preparation_checkpoint : Option Digest)
  | Succeeded (receipt : Digest)
  | Failed (receipt : Digest)
  | ReconciliationRequired (envelope : Digest)
  | Reconciled (receipt : Digest)

inductive ProposalEventV1 where
  | Compiled (proposal : Digest)
  | Refused (refusal : Digest)
  | Indeterminate (envelope : Digest)
  | BurnAuthorization (proposal authorization : Digest) (family : EffectFamilyV1)
  | BeginPreparation (attempt : Digest)
  | CommitMayProceed (checkpoint : Digest)
  | PreparationFailed (receipt : Digest)
  | PreparationAbandoned (receipt : Digest)
  | PreparationIndeterminate (envelope : Digest)
  | BeginExecution (attempt : Digest)
  | ExecutionAbandoned (receipt : Digest)
  | ExecutionSucceeded (receipt : Digest)
  | ExecutionFailed (receipt : Digest)
  | ExecutionIndeterminate (envelope : Digest)
  | Reconciled (receipt : Digest)

/-- `EffectError::InvalidTransition`, which shows the state and the event. -/
structure InvalidTransition where
  state : ProposalStateV1
  event : ProposalEventV1

namespace ProposalStateV1

def apply (self : ProposalStateV1) (event : ProposalEventV1) : Except InvalidTransition ProposalStateV1 :=
  match self, event with
  | .Received, .Compiled proposal => .ok (.Ready proposal)
  | .Received, .Refused refusal => .ok (.Refused refusal)
  | .Received, .Indeterminate envelope => .ok (.Indeterminate envelope)
  | .Ready expected, .BurnAuthorization proposal authorization family =>
    if expected = proposal then .ok (.AuthorizationBurned proposal authorization family) else .error ⟨self, event⟩
  | .AuthorizationBurned proposal _ .CodePromotion, .BeginPreparation attempt => .ok (.Preparing proposal attempt)
  | .AuthorizationBurned proposal _ family, .BeginExecution attempt =>
    if family ≠ .CodePromotion then .ok (.Executing proposal attempt none) else .error ⟨self, event⟩
  | .Preparing proposal attempt, .CommitMayProceed checkpoint => .ok (.Executing proposal attempt (some checkpoint))
  | .AuthorizationBurned _ _ _, .ExecutionAbandoned receipt
  | .Preparing _ _, .PreparationFailed receipt
  | .Preparing _ _, .PreparationAbandoned receipt
  | .Executing _ _ _, .ExecutionFailed receipt => .ok (.Failed receipt)
  | .Preparing _ _, .PreparationIndeterminate envelope
  | .Executing _ _ _, .ExecutionIndeterminate envelope => .ok (.ReconciliationRequired envelope)
  | .Executing _ _ _, .ExecutionSucceeded receipt => .ok (.Succeeded receipt)
  | .ReconciliationRequired _, .Reconciled receipt => .ok (.Reconciled receipt)
  | _, _ => .error ⟨self, event⟩

/-- The state after all the events, each of them accepted. -/
def apply_all (history : List ProposalEventV1) : Except InvalidTransition ProposalStateV1 :=
  history.foldlM apply .Received

/-- The states of a proposal without an outcome, with all that was accepted until then. -/
def Opened (history : List ProposalEventV1) : ProposalStateV1 → Prop
  | .Received => history = []
  | .Ready proposal => history = [.Compiled proposal]
  | .AuthorizationBurned proposal authorization family =>
    history = [.Compiled proposal, .BurnAuthorization proposal authorization family]
  | .Preparing proposal attempt => ∃ authorization,
    history = [.Compiled proposal, .BurnAuthorization proposal authorization .CodePromotion, .BeginPreparation attempt]
  | .Executing proposal attempt none => ∃ authorization family, family ≠ .CodePromotion ∧
    history = [.Compiled proposal, .BurnAuthorization proposal authorization family, .BeginExecution attempt]
  | .Executing proposal attempt (some checkpoint) => ∃ authorization,
    history = [.Compiled proposal, .BurnAuthorization proposal authorization .CodePromotion, .BeginPreparation attempt,
      .CommitMayProceed checkpoint]
  | _ => False

/-- The events that give an open proposal its outcome. -/
inductive Closes : ProposalStateV1 → ProposalEventV1 → ProposalStateV1 → Prop
  | Refused (refusal : Digest) : Closes .Received (.Refused refusal) (.Refused refusal)
  | Indeterminate (envelope : Digest) : Closes .Received (.Indeterminate envelope) (.Indeterminate envelope)
  | ExecutionAbandoned (proposal authorization : Digest) (family : EffectFamilyV1) (receipt : Digest) :
    Closes (.AuthorizationBurned proposal authorization family) (.ExecutionAbandoned receipt) (.Failed receipt)
  | PreparationFailed (proposal attempt receipt : Digest) :
    Closes (.Preparing proposal attempt) (.PreparationFailed receipt) (.Failed receipt)
  | PreparationAbandoned (proposal attempt receipt : Digest) :
    Closes (.Preparing proposal attempt) (.PreparationAbandoned receipt) (.Failed receipt)
  | PreparationIndeterminate (proposal attempt envelope : Digest) :
    Closes (.Preparing proposal attempt) (.PreparationIndeterminate envelope) (.ReconciliationRequired envelope)
  | ExecutionFailed (proposal attempt : Digest) (checkpoint : Option Digest) (receipt : Digest) :
    Closes (.Executing proposal attempt checkpoint) (.ExecutionFailed receipt) (.Failed receipt)
  | ExecutionIndeterminate (proposal attempt : Digest) (checkpoint : Option Digest) (envelope : Digest) :
    Closes (.Executing proposal attempt checkpoint) (.ExecutionIndeterminate envelope)
      (.ReconciliationRequired envelope)
  | ExecutionSucceeded (proposal attempt : Digest) (checkpoint : Option Digest) (receipt : Digest) :
    Closes (.Executing proposal attempt checkpoint) (.ExecutionSucceeded receipt) (.Succeeded receipt)

/-- One event gave the proposal its outcome. -/
def Closed (history : List ProposalEventV1) (state : ProposalStateV1) : Prop :=
  ∃ before front event, Opened front before ∧ Closes before event state ∧ history = front ++ [event]

/-- All that was ever accepted for a proposal in this state, oldest first. -/
def Recorded (history : List ProposalEventV1) (state : ProposalStateV1) : Prop :=
  match state with
  | .Reconciled receipt => ∃ envelope front, Closed front (.ReconciliationRequired envelope) ∧
    history = front ++ [.Reconciled receipt]
  | .Refused _ | .Indeterminate _ | .Succeeded _ | .Failed _ | .ReconciliationRequired _ => Closed history state
  | _ => Opened history state

variable {state next : ProposalStateV1} {event : ProposalEventV1} {history : List ProposalEventV1}

theorem apply_all_snoc : apply_all (history ++ [event]) = .ok next ↔
    ∃ state, apply_all history = .ok state ∧ state.apply event = .ok next := by
  simp [apply_all, bind_eq_ok_iff]

theorem Recorded.accept (h : Recorded history state) (haccepts : state.apply event = .ok next) :
    Recorded (history ++ [event]) next := by
  have hclosed : Opened history state → Closes state event next → Closed (history ++ [event]) next :=
    fun hopened hcloses => ⟨state, history, event, hopened, hcloses, rfl⟩
  revert haccepts
  fun_cases apply state event <;> rintro ⟨⟩
  -- an outcome, the reconciliation of one, the commit of a preparation, or a longer open history
  all_goals first
    | exact hclosed h (by constructor)
    | exact ⟨_, history, h, rfl⟩
    | obtain ⟨authorization, rfl⟩ := h
      exact ⟨authorization, rfl⟩
    | simp_all [Recorded, Opened]

theorem Opened.run (h : Opened history state) : apply_all history = .ok state := by
  revert h
  fun_cases Opened history state
  all_goals simp +contextual [apply_all, apply, bind, Except.bind, pure, Except.pure]

theorem Closes.applied (h : Closes state event next) : state.apply event = .ok next := by
  cases h with
  | ExecutionAbandoned _ _ family => cases family <;> rfl
  | _ => rfl

theorem Closed.run (h : Closed history state) : apply_all history = .ok state := by
  obtain ⟨before, front, event, hopened, hcloses, rfl⟩ := h
  exact apply_all_snoc.mpr ⟨before, hopened.run, hcloses.applied⟩

/-- A proposal's whole life: at most one authorization is burned, for the compiled proposal, at
most one attempt is begun under it, a promotion commits only past its preparation, and after
an outcome nothing but the reconciliation of an unknown one is accepted. -/
theorem apply_all_iff_recorded : apply_all history = .ok state ↔ Recorded history state := by
  constructor
  · induction history using List.reverseRecOn generalizing state with
    | nil =>
      rintro ⟨⟩
      rfl
    | append_singleton history event ih =>
      intro h
      obtain ⟨before, hbefore, haccepts⟩ := apply_all_snoc.mp h
      exact (ih hbefore).accept haccepts
  · cases state with
    | Received | Ready | AuthorizationBurned | Preparing | Executing => exact fun h => Opened.run h
    | Refused | Indeterminate | Succeeded | Failed | ReconciliationRequired => exact Closed.run
    | Reconciled receipt =>
      rintro ⟨envelope, front, hclosed, rfl⟩
      exact apply_all_snoc.mpr ⟨_, hclosed.run, rfl⟩

end ProposalStateV1

end ag_effect

import AgentGovernor.Governed.Inversion
import AgentGovernor.Lib.Path

open ag_primitives Checked

namespace ag_campaign.governed

open GovernedLoopKernelV1

/-- The latest snapshot of a run and the number of occurrences opened before
the one it belongs to. -/
structure RunState where
  ordinal : Nat
  latest : OccurrenceSnapshotV1

/-- One recorded transition of a run. `ordinal` counts the occurrences opened up to
`target`. The occurrence itself is named by the key of the snapshot, and one key can
be opened more than once. -/
structure RunStep where
  ordinal : Nat
  op : KernelOp
  source : OccurrenceSnapshotV1
  target : OccurrenceSnapshotV1

namespace RunStep

def after (step : RunStep) : RunState := ⟨step.ordinal, step.target⟩

/-- The step opens another occurrence. -/
def Opens (step : RunStep) : Prop := step.target.key ≠ step.source.key

/-- No step opens an occurrence whose key was seen before. -/
def OpensNew (seen : List OccurrenceKeyV1) : List RunStep → Prop
  | [] => True
  | step :: rest => (step.Opens → step.target.key ∉ seen) ∧ OpensNew (step.target.key :: seen) rest

theorem opens_new_concat {steps : List RunStep} {step : RunStep} :
    ∀ {seen : List OccurrenceKeyV1}, OpensNew seen (steps ++ [step]) ↔
      OpensNew seen steps ∧
        (step.Opens → step.target.key ∉ seen ∧ ∀ earlier ∈ steps, step.target.key ≠ earlier.target.key) := by
  induction steps with
  | nil =>
    intro seen
    simp [OpensNew]
  | cons first steps ih =>
    intro seen
    simp only [List.cons_append, OpensNew, ih, List.mem_cons, not_or, forall_eq_or_imp]
    tauto

theorem OpensNew.front {steps rest : List RunStep} :
    ∀ {seen : List OccurrenceKeyV1}, OpensNew seen (steps ++ rest) → OpensNew seen steps := by
  induction steps with
  | nil => exact fun _ => trivial
  | cons step steps ih => exact fun h => ⟨h.1, ih h.2⟩

theorem opens_new_of_stays {steps : List RunStep} (h : ∀ step ∈ steps, ¬ step.Opens) :
    ∀ seen : List OccurrenceKeyV1, OpensNew seen steps := by
  induction steps with
  | nil => exact fun _ => trivial
  | cons step steps ih =>
    rw [List.forall_mem_cons] at h
    exact fun seen => ⟨fun hopens => absurd hopens h.1, ih h.2 _⟩

end RunStep

namespace RunState

/-- The transition from the latest snapshot to `target`. -/
def enter (state : RunState) (op : KernelOp) (target : OccurrenceSnapshotV1) : RunStep :=
  { ordinal := if target.key = state.latest.key then state.ordinal else state.ordinal + 1
    op
    source := state.latest
    target }

/-- The transitions through the snapshots one call adds. -/
def advance (op : KernelOp) : RunState → List OccurrenceSnapshotV1 → List RunStep
  | _, [] => []
  | state, target :: rest => state.enter op target :: advance op (state.enter op target).after rest

/-- The transitions of one call; a refused call leaves the run where it was. -/
def call (sha : Sha256) (state : RunState) (op : KernelOp) : List RunStep :=
  match op.apply sha state.latest with
  | .ok added => advance op state added
  | .error _ => []

/-- The state after some transitions. -/
def finish (state : RunState) (steps : List RunStep) : RunState :=
  match steps.getLast? with
  | some step => step.after
  | none => state

/-- All transitions of a sequence of calls, each on the then latest snapshot. -/
def run (sha : Sha256) : RunState → List KernelOp → List RunStep
  | _, [] => []
  | state, op :: ops => state.call sha op ++ run sha (state.finish (state.call sha op)) ops

theorem finish_append (state : RunState) (first rest : List RunStep) :
    state.finish (first ++ rest) = (state.finish first).finish rest := by
  unfold finish
  rw [List.getLast?_append]
  cases rest.getLast? <;> rfl

theorem run_append (sha : Sha256) (first rest : List KernelOp) :
    ∀ state : RunState, run sha state (first ++ rest) =
      run sha state first ++ run sha (state.finish (run sha state first)) rest := by
  induction first with
  | nil =>
    intro state
    rfl
  | cons op first ih =>
    intro state
    rw [List.cons_append, run, run, ih, finish_append, List.append_assoc]

/-- The transitions of calls that all succeed. -/
inductive Performs (sha : Sha256) : RunState → List KernelOp → List RunStep → Prop where
  | nil {state : RunState} : Performs sha state [] []
  | one {state : RunState} {op : KernelOp} {ops : List KernelOp} {target : OccurrenceSnapshotV1}
    {steps : List RunStep} (happly : op.apply sha state.latest = .ok [target])
    (hrest : Performs sha (state.enter op target).after ops steps) :
    Performs sha state (op :: ops) (state.enter op target :: steps)
  | two {state : RunState} {op : KernelOp} {ops : List KernelOp} {first second : OccurrenceSnapshotV1}
    {steps : List RunStep} (happly : op.apply sha state.latest = .ok [first, second])
    (hrest : Performs sha ((state.enter op first).after.enter op second).after ops steps) :
    Performs sha state (op :: ops)
      (state.enter op first :: (state.enter op first).after.enter op second :: steps)

variable {sha : Sha256} {state : RunState} {steps : List RunStep}

theorem Performs.run_eq {ops : List KernelOp} (h : Performs sha state ops steps) : run sha state ops = steps := by
  induction h with
  | nil => rfl
  | one happly hrest ih => simp [run, call, happly, advance, finish, ih]
  | two happly hrest ih => simp [run, call, happly, advance, finish, ih]

/-- One recorded transition is one kernel step from the latest snapshot. -/
def Takes (sha : Sha256) (state : RunState) (step : RunStep) (next : RunState) : Prop :=
  KernelStep sha step.op state.latest step.target ∧ step = state.enter step.op step.target ∧
    next = step.after

theorem path_finish {start : RunState} (h : RunPath (Takes sha) start steps state) : start.finish steps = state := by
  cases h with
  | nil => rfl
  | snoc hpath hstep => simp [finish, hstep.2.2]

theorem advance_path {op : KernelOp} (added : List OccurrenceSnapshotV1) :
    ∀ state : RunState, (state.latest :: added).IsChain (KernelStep sha op) →
      RunPath (Takes sha) state (advance op state added) (state.finish (advance op state added)) := by
  induction added with
  | nil =>
    intro state _
    exact .nil
  | cons target rest ih =>
    intro state hchain
    obtain ⟨hstep, hrest⟩ := List.isChain_cons_cons.mp hchain
    have htakes : Takes sha state (state.enter op target) (state.enter op target).after :=
      ⟨hstep, rfl, rfl⟩
    have hpath := (RunPath.single htakes).append (ih (state.enter op target).after hrest)
    have hfinish : state.finish (advance op state (target :: rest)) =
        (state.enter op target).after.finish (advance op (state.enter op target).after rest) := by
      cases hlast : (advance op (state.enter op target).after rest).getLast? <;>
        simp [finish, advance, List.getLast?_cons, hlast]
    rw [hfinish]
    exact hpath

theorem call_path (state : RunState) (op : KernelOp) :
    RunPath (Takes sha) state (state.call sha op) (state.finish (state.call sha op)) := by
  unfold call
  split
  · next added happly => exact advance_path added state (apply_steps happly)
  · exact .nil

/-- Every run is a path of kernel steps. -/
theorem run_path (ops : List KernelOp) :
    ∀ state : RunState, ∃ final, RunPath (Takes sha) state (run sha state ops) final := by
  induction ops with
  | nil =>
    intro state
    exact ⟨state, .nil⟩
  | cons op ops ih =>
    intro state
    obtain ⟨final, hrest⟩ := ih (state.finish (state.call sha op))
    exact ⟨final, (call_path state op).append hrest⟩

end RunState

/-- A run of the kernel: a campaign that was created, and the calls made on it. -/
structure CampaignRun (sha : Sha256) where
  campaign : CampaignId
  occurrence : OccurrenceId
  program : ProgramBasisRefV1
  expected_work : Digest
  residuals : ResidualSetV1
  budget : LoopBudgetV1
  initial : OccurrenceSnapshotV1
  created : create_initial sha campaign occurrence program expected_work residuals budget = .ok initial
  ops : List KernelOp

namespace CampaignRun

variable {sha : Sha256}

/-- Every transition of the run, in order. -/
def steps (run : CampaignRun sha) : List RunStep :=
  RunState.run sha ⟨0, run.initial⟩ run.ops

/-- The run opens no occurrence a second time. -/
def OpensNew (run : CampaignRun sha) : Prop :=
  RunStep.OpensNew [run.initial.key] run.steps

theorem OpensNew.front {run : CampaignRun sha} {before rest : List RunStep} (h : run.OpensNew)
    (hsteps : run.steps = before ++ rest) : RunStep.OpensNew [run.initial.key] before := by
  rw [OpensNew, hsteps] at h
  exact RunStep.OpensNew.front h

theorem path (run : CampaignRun sha) :
    ∃ final, RunPath (RunState.Takes sha) ⟨0, run.initial⟩ run.steps final :=
  RunState.run_path run.ops ⟨0, run.initial⟩

theorem path_front (run : CampaignRun sha) {before rest : List RunStep}
    (h : run.steps = before ++ rest) : ∃ state, RunPath (RunState.Takes sha) ⟨0, run.initial⟩ before state := by
  obtain ⟨final, hpath⟩ := run.path
  rw [h] at hpath
  exact hpath.exists_front

/-- The state a run was in before one of its transitions. -/
theorem path_before (run : CampaignRun sha) {before rest : List RunStep} {step : RunStep}
    (h : run.steps = before ++ step :: rest) :
    ∃ state, RunPath (RunState.Takes sha) ⟨0, run.initial⟩ before state ∧ state.Takes sha step step.after := by
  obtain ⟨final, hpath⟩ := run.path
  rw [h] at hpath
  obtain ⟨state, next, hbefore, htakes, _⟩ := hpath.split
  obtain rfl := htakes.2.2
  exact ⟨state, hbefore, htakes⟩

theorem initial_eq (run : CampaignRun sha) :
    run.initial.validate_integrity sha = .ok () ∧
      run.initial.state = .ObservationRequired
        { metadata :=
            { key := ⟨run.campaign, run.occurrence⟩, program := run.program,
              expected_work := run.expected_work, residuals := run.residuals, budget := run.budget,
              used_human_decisions := [] }
          prior := none } :=
  create_initial_eq_ok run.created

end CampaignRun

end ag_campaign.governed

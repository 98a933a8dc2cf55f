import Mathlib.Data.List.Basic

/-- A finite labelled run, grown at its end: `RunPath step start labels finish`
follows `labels` from `start` to `finish`. -/
inductive RunPath {S E : Type} (step : S → E → S → Prop) (start : S) : List E → S → Prop where
  | nil : RunPath step start [] start
  | snoc {labels : List E} {middle finish : S} {label : E} (hpath : RunPath step start labels middle)
    (hstep : step middle label finish) : RunPath step start (labels ++ [label]) finish

namespace RunPath

variable {S E : Type} {step : S → E → S → Prop} {start middle finish : S} {labels rest : List E}

/-- What holds of the empty history and survives every step holds of every
history and the state it ends in. -/
theorem invariant (holds : List E → S → Prop) (hinit : holds [] start)
    (hstep : ∀ history state label next, RunPath step start history state → holds history state →
      step state label next → holds (history ++ [label]) next)
    (hpath : RunPath step start labels finish) : holds labels finish := by
  induction hpath with
  | nil => exact hinit
  | snoc hpath hlast ih => exact hstep _ _ _ _ hpath ih hlast

theorem append (hfirst : RunPath step start labels middle) (hsecond : RunPath step middle rest finish) :
    RunPath step start (labels ++ rest) finish := by
  induction hsecond with
  | nil => simpa using hfirst
  | snoc _ hlast ih =>
    rw [← List.append_assoc]
    exact .snoc ih hlast

theorem single {label : E} (hstep : step start label finish) : RunPath step start [label] finish := by
  rw [← List.nil_append [label]]
  exact .snoc .nil hstep

/-- A run can be cut at any of its labels. -/
theorem split {label : E} (hpath : RunPath step start (labels ++ label :: rest) finish) :
    ∃ before after, RunPath step start labels before ∧ step before label after ∧
      RunPath step after rest finish := by
  generalize hwhole : labels ++ label :: rest = whole at hpath
  induction hpath generalizing rest with
  | nil => simp at hwhole
  | @snoc whole middle finish last hpath hlast ih =>
    rcases List.eq_nil_or_concat rest with rfl | ⟨front, final, rfl⟩
    · obtain ⟨rfl, hlabel⟩ := List.append_inj' hwhole rfl
      obtain rfl : label = last := by simpa using hlabel
      exact ⟨middle, finish, hpath, hlast, .nil⟩
    · have hsplit : (labels ++ label :: front) ++ [final] = whole ++ [last] := by
        simpa using hwhole
      obtain ⟨hfront, hfinal⟩ := List.append_inj' hsplit rfl
      obtain rfl : final = last := by simpa using hfinal
      obtain ⟨before, after, hbefore, hat, hafter⟩ := ih hfront
      exact ⟨before, after, hbefore, hat, by simpa using hafter.snoc hlast⟩

theorem exists_front (hpath : RunPath step start (labels ++ rest) finish) :
    ∃ middle, RunPath step start labels middle := by
  cases rest with
  | nil => exact ⟨finish, by simpa using hpath⟩
  | cons label rest =>
    obtain ⟨before, _, hbefore, _⟩ := hpath.split
    exact ⟨before, hbefore⟩

/-- Every label of a run was taken from some state of it. -/
theorem exists_step_of_mem {label : E} (hpath : RunPath step start labels finish) (hmem : label ∈ labels) :
    ∃ before after, step before label after := by
  obtain ⟨front, back, rfl⟩ := List.append_of_mem hmem
  obtain ⟨before, after, _, hat, _⟩ := hpath.split
  exact ⟨before, after, hat⟩

end RunPath

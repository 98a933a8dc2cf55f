import AgentGovernor.Lib.Program
import AgentGovernor.Lib.Transaction

open Transaction

namespace Effects

variable {S Op : Type} {Answer : Op → Type} {E A B : Type} {serve : (op : Op) → S → Answer op × S}

/-- What a program does when it is left alone, in a world that serves its operations. -/
def Program.run (serve : (op : Op) → S → Answer op × S) : Program Op Answer E A → Tx S E A
  | .done result, s => (result, s)
  | .perform op next, s => (next (serve op s).1).run serve (serve op s).2

/-- The states a program may be stopped in: before each of its operations and at its end. -/
def Program.Stops (serve : (op : Op) → S → Answer op × S) : Program Op Answer E A → S → S → Prop
  | .done _, s, u => u = s
  | .perform op next, s, u => u = s ∨ (next (serve op s).1).Stops serve (serve op s).2 u

section Run

theorem run_pure (value : A) : (pure value : Program Op Answer E A).run serve = pure value :=
  rfl

theorem run_lift (result : Except E A) : (lift result : Program Op Answer E A).run serve = Transaction.lift result :=
  rfl

theorem run_bind (program : Program Op Answer E A) (f : A → Program Op Answer E B) :
    (program >>= f).run serve = program.run serve >>= fun value => (f value).run serve := by
  funext s
  change (program.bind f).run serve s = _
  induction program generalizing s with
  | done result => cases result <;> rfl
  | perform op next ih => exact ih _ _

theorem run_ask (op : Op) (s : S) :
    (ask op : Program Op Answer E (Answer op)).run serve s = (.ok (serve op s).1, (serve op s).2) :=
  rfl

theorem returns_ask_iff {op : Op} {s t : S} {answer : Answer op} :
    Returns ((ask op : Program Op Answer E (Answer op)).run serve) s answer t ↔ serve op s = (answer, t) := by
  rw [Returns, run_ask, Prod.mk.injEq, Except.ok.injEq, Prod.ext_iff]

theorem returns_run_bind_iff {program : Program Op Answer E A} {f : A → Program Op Answer E B} {s u : S} {result : B} :
    Returns ((program >>= f).run serve) s result u ↔
      ∃ value t, Returns (program.run serve) s value t ∧ Returns ((f value).run serve) t result u := by
  rw [run_bind, returns_bind_iff]

theorem returns_run_lift_bind_iff {checked : Except E A} {f : A → Program Op Answer E B} {s u : S} {result : B} :
    Returns ((lift checked >>= f).run serve) s result u ↔
      ∃ value, checked = .ok value ∧ Returns ((f value).run serve) s result u := by
  rw [run_bind, run_lift, returns_lift_bind_iff]

end Run

section Stops

theorem stops_self (program : Program Op Answer E A) (s : S) : program.Stops serve s s := by
  cases program with
  | done => rfl
  | perform => exact .inl rfl

/-- The end of a run is one of the states the program may be stopped in. -/
theorem stops_run (program : Program Op Answer E A) (s : S) : program.Stops serve s (program.run serve s).2 := by
  induction program generalizing s with
  | done => rfl
  | perform op next ih => exact .inr (ih _ _)

variable {program : Program Op Answer E A} {s u : S} {value : A}

theorem stops_of_returns (h : Returns (program.run serve) s value u) : program.Stops serve s u := by
  have hstops : program.Stops serve s (program.run serve s).2 := stops_run program s
  rw [h] at hstops
  exact hstops

theorem stops_lift_iff {result : Except E A} :
    (lift result : Program Op Answer E A).Stops serve s u ↔ u = s :=
  Iff.rfl

/-- A sequence stops in its first part, or in what follows its value. -/
theorem stops_bind_iff {f : A → Program Op Answer E B} :
    (program >>= f).Stops serve s u ↔ program.Stops serve s u ∨
      ∃ value t, Returns (program.run serve) s value t ∧ (f value).Stops serve t u := by
  change (program.bind f).Stops serve s u ↔ _
  induction program generalizing s with
  | done result =>
    cases result with
    | ok value =>
      constructor
      · intro h
        exact .inr ⟨value, s, rfl, h⟩
      · rintro (h | ⟨value', t, hreturns, h⟩)
        · obtain rfl : u = s := h
          exact stops_self _ _
        · cases hreturns
          exact h
    | error error =>
      constructor
      · exact .inl
      · rintro (h | ⟨value', t, hreturns, _⟩)
        · exact h
        · cases hreturns
  | perform op next ih =>
    change (u = s ∨ ((next _).bind f).Stops serve _ u) ↔ (u = s ∨ (next _).Stops serve _ u) ∨ _
    rw [ih, or_assoc]
    rfl

theorem stops_lift_bind_iff {checked : Except E A} {f : A → Program Op Answer E B} :
    (lift checked >>= f).Stops serve s u ↔ u = s ∨ ∃ value, checked = .ok value ∧ (f value).Stops serve s u := by
  rw [stops_bind_iff, stops_lift_iff, run_lift]
  refine or_congr_right ⟨?_, ?_⟩
  · rintro ⟨value, t, hreturns, h⟩
    obtain ⟨hchecked, rfl⟩ := returns_lift_iff.mp hreturns
    exact ⟨value, hchecked, h⟩
  · rintro ⟨value, hchecked, h⟩
    exact ⟨value, s, returns_lift_iff.mpr ⟨hchecked, rfl⟩, h⟩

/-- What every operation keeps holds wherever the program is stopped. -/
theorem Program.Stops.preserves {P : S → Prop} (h : program.Stops serve s u)
    (hstep : ∀ op s, P s → P (serve op s).2) (hs : P s) : P u := by
  induction program generalizing s with
  | done =>
    obtain rfl : u = s := h
    exact hs
  | perform op next ih =>
    rcases h with rfl | h
    · exact hs
    · exact ih _ h (hstep op s hs)

theorem returns_preserves {P : S → Prop} (h : Returns (program.run serve) s value u)
    (hstep : ∀ op s, P s → P (serve op s).2) (hs : P s) : P u :=
  (stops_of_returns h).preserves hstep hs

end Stops

end Effects

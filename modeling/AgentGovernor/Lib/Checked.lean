import Mathlib.Data.Finset.Basic

namespace Checked

/-- Early return of a guarded refusal: fails with `error` exactly when the
rejected condition holds. -/
def reject {ε : Type} (condition : Prop) [Decidable condition] (error : ε) : Except ε Unit :=
  if condition then .error error else .ok ()

/-- `Option::ok_or`: an absent value becomes the given error. -/
def ok_or {ε A : Type} (value : Option A) (error : ε) : Except ε A :=
  match value with
  | some a => .ok a
  | none => .error error

/-- `Result::map_err`. -/
def map_err {ε δ A : Type} (value : Except ε A) (f : ε → δ) : Except δ A :=
  match value with
  | .ok a => .ok a
  | .error e => .error (f e)

variable {ε δ A B : Type} {x : Except ε A} {f : A → Except ε B} {a : A} {y : B} {e : ε} {condition : Prop}
  [Decidable condition]

theorem bind_eq_ok_iff :
    (x >>= f) = .ok y ↔ ∃ a, x = .ok a ∧ f a = .ok y := by
  cases x <;> simp [bind, Except.bind]

theorem map_eq_ok_iff {f : A → B} :
    (f <$> x) = .ok y ↔ ∃ a, x = .ok a ∧ f a = y := by
  cases x <;> simp [Functor.map, Except.map]

theorem reject_eq_ok_iff {u : Unit} : reject condition e = .ok u ↔ ¬ condition := by
  unfold reject
  split <;> simp_all

/-- A guard has nothing to hand on, so peeling one leaves no witness behind. -/
theorem exists_unit_iff {p : Unit → Prop} : (∃ u, p u) ↔ p () :=
  ⟨fun ⟨(), h⟩ => h, fun h => ⟨(), h⟩⟩

theorem pure_eq_ok_iff {b : A} : (pure a : Except ε A) = .ok b ↔ a = b := by
  simp [pure, Except.pure]

theorem throw_ne_ok : (throw e : Except ε A) ≠ .ok a := by
  simp [throw, throwThe, MonadExceptOf.throw]

theorem ok_or_eq_ok_iff {value : Option A} : ok_or value e = .ok a ↔ value = some a := by
  cases value <;> simp [ok_or]

theorem map_err_eq_ok_iff {f : ε → δ} : map_err x f = .ok a ↔ x = .ok a := by
  cases x <;> simp [map_err]

/-- A step that passes hands on its value, and a step that fails ends the computation. -/
theorem bind_of_ok (h : x = .ok a) : x >>= f = f a := by
  rw [h]
  rfl

theorem bind_of_error (h : x = .error e) : x >>= f = .error e := by
  rw [h]
  rfl

theorem reject_of_not (h : ¬ condition) : reject condition e = .ok () :=
  reject_eq_ok_iff.mpr h

/-- A traversal succeeds when each of its elements does. -/
theorem mapM_eq_ok_iff {values : List A} {results : List B} :
    values.mapM f = .ok results ↔ List.Forall₂ (fun a b => f a = .ok b) values results := by
  induction values generalizing results with
  | nil =>
    rw [List.mapM_nil, pure_eq_ok_iff, List.forall₂_nil_left_iff]
    exact eq_comm
  | cons a values ih =>
    rw [List.mapM_cons, bind_eq_ok_iff, List.forall₂_cons_left_iff]
    refine exists_congr fun b => ?_
    rw [bind_eq_ok_iff]
    constructor
    · rintro ⟨ha, rest, hrest, hresults⟩
      exact ⟨rest, ha, ih.mp hrest, (pure_eq_ok_iff.mp hresults).symm⟩
    · rintro ⟨rest, ha, hrest, rfl⟩
      exact ⟨ha, rest, ih.mpr hrest, rfl⟩

/-- A check of every element passes when each of its elements does. -/
theorem forM_eq_ok_iff {values : List A} {check : A → Except ε Unit} :
    values.forM check = .ok () ↔ ∀ value ∈ values, check value = .ok () := by
  induction values with
  | nil => simp [pure_eq_ok_iff]
  | cons value rest ih =>
    rw [List.forM, bind_eq_ok_iff, exists_unit_iff, List.forall_mem_cons]
    exact and_congr_right fun _ => ih

/-- What it takes for a computation of checks to succeed, step by step. `simp` takes each
part as a rule of its own. -/
theorem ok_rules :
    (∀ {ε A B : Type} {x : Except ε A} {f : A → Except ε B} {y : B},
      (x >>= f) = .ok y ↔ ∃ a, x = .ok a ∧ f a = .ok y) ∧
    (∀ {p : Unit → Prop}, (∃ u, p u) ↔ p ()) ∧
    (∀ {ε : Type} {condition : Prop} [Decidable condition] {error : ε} {u : Unit},
      reject condition error = .ok u ↔ ¬ condition) ∧
    (∀ {ε A : Type} {a b : A}, (pure a : Except ε A) = .ok b ↔ a = b) ∧
    (∀ {ε A : Type} {value : Option A} {error : ε} {a : A}, ok_or value error = .ok a ↔ value = some a) ∧
    (∀ {ε δ A : Type} {value : Except ε A} {f : ε → δ} {a : A}, map_err value f = .ok a ↔ value = .ok a) ∧
    (∀ {ε A : Type} {values : List A} {check : A → Except ε Unit},
      values.forM check = .ok () ↔ ∀ value ∈ values, check value = .ok ()) ∧
    (∀ {p q : Prop}, ¬ (p ∨ q) ↔ ¬ p ∧ ¬ q) ∧ ∀ {p : Prop}, ¬ ¬ p ↔ p :=
  ⟨bind_eq_ok_iff, exists_unit_iff, reject_eq_ok_iff, pure_eq_ok_iff, ok_or_eq_ok_iff, map_err_eq_ok_iff,
    forM_eq_ok_iff, not_or, not_not⟩

end Checked

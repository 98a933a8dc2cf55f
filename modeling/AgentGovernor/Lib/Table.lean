import Mathlib

open Std (ExtTreeMap)

namespace Relational

/-- The uniqueness constraints of a table: `conflict` relates two rows that may
not both be present. -/
class Constrained (R : Type) where
  conflict : R → R → Prop
  decide_conflict : DecidableRel conflict
  symmetric : ∀ left right, conflict left right → conflict right left

export Constrained (conflict)

instance decidable_conflict {R : Type} [Constrained R] : DecidableRel (conflict (R := R)) :=
  Constrained.decide_conflict

/-- A table in insertion order, with every uniqueness constraint satisfied. -/
structure Table (R : Type) [Constrained R] where
  rows : List R
  distinct : rows.Pairwise fun left right => ¬ conflict left right

namespace Table

variable {R : Type} [Constrained R]

def empty : Table R := ⟨[], .nil⟩

@[simp] theorem rows_empty : (empty : Table R).rows = [] :=
  rfl

theorem ext_rows {left right : Table R} (h : left.rows = right.rows) : left = right := by
  cases left
  cases right
  simpa using h

theorem distinct_append (table : Table R) {row : R} (hrow : ∀ present ∈ table.rows, ¬ conflict present row) :
    (table.rows ++ [row]).Pairwise fun left right => ¬ conflict left right := by
  refine List.pairwise_append.mpr ⟨table.distinct, List.pairwise_singleton _ _, ?_⟩
  intro left hleft right hright
  rw [List.mem_singleton.mp hright]
  exact hrow left hleft

/-- `INSERT`: refused when the row conflicts with one that is present. -/
def insert (table : Table R) (row : R) : Option (Table R) :=
  if h : ∀ present ∈ table.rows, ¬ conflict present row then
    some ⟨table.rows ++ [row], table.distinct_append h⟩
  else none

/-- An insertion is carried out exactly when the longer table satisfies the
constraints, so the constraints need no mention here. -/
theorem insert_eq_some_iff {table table' : Table R} {row : R} :
    table.insert row = some table' ↔ table'.rows = table.rows ++ [row] := by
  unfold insert
  split
  · next h =>
    rw [Option.some.injEq]
    exact ⟨fun heq => heq ▸ rfl, fun heq => ext_rows heq.symm⟩
  · next h =>
    refine iff_of_false (by simp) fun hrows => h fun present hpresent => ?_
    have hdistinct := table'.distinct
    rw [hrows] at hdistinct
    exact (List.pairwise_append.mp hdistinct).2.2 present hpresent row (List.mem_singleton_self row)

/-- `UPDATE … WHERE`: changes the selected rows and counts them. Refused when the
result breaks a constraint. -/
def update (table : Table R) (selected : R → Prop) [DecidablePred selected] (change : R → R) :
    Option (Nat × Table R) :=
  let rows := table.rows.map fun row => if selected row then change row else row
  if h : rows.Pairwise fun left right => ¬ conflict left right then
    some (table.rows.countP (fun row => selected row), ⟨rows, h⟩)
  else none

theorem update_eq_some_iff {table table' : Table R} {selected : R → Prop} [DecidablePred selected]
    {change : R → R} {count : Nat} :
    table.update selected change = some (count, table') ↔
      table.rows.countP (fun row => selected row) = count ∧
      table'.rows = table.rows.map fun row => if selected row then change row else row := by
  unfold update
  dsimp only
  split
  · rw [Option.some.injEq, Prod.mk.injEq]
    exact and_congr_right fun _ => ⟨fun heq => heq ▸ rfl, fun heq => ext_rows heq.symm⟩
  · next h =>
    refine iff_of_false (by simp) fun hrows => h ?_
    rw [← hrows.2]
    exact table'.distinct

/-- Conflicting rows of one table are the same row. -/
theorem eq_of_conflict {table : Table R} {left right : R} (hleft : left ∈ table.rows)
    (hright : right ∈ table.rows) (hconflict : conflict left right) : left = right := by
  by_contra hne
  have hsymmetric : Std.Symm fun left right : R => ¬ conflict left right :=
    ⟨fun _ _ hnot hflip => hnot (Constrained.symmetric _ _ hflip)⟩
  exact table.distinct.forall hleft hright hne hconflict

/-- Where any two selected rows conflict, a lookup finds the one that is selected. -/
theorem find?_eq_some_iff {table : Table R} {selected : R → Prop} [DecidablePred selected] {row : R}
    (hunique : ∀ left right, selected left → selected right → conflict left right) :
    table.rows.find? (fun row => decide (selected row)) = some row ↔ row ∈ table.rows ∧ selected row := by
  constructor
  · intro h
    exact ⟨List.mem_of_find?_eq_some h, by simpa using List.find?_some h⟩
  · rintro ⟨hrow, hselected⟩
    obtain ⟨found, hfound⟩ : ∃ found, table.rows.find? (fun row => decide (selected row)) = some found := by
      rw [← Option.isSome_iff_exists, List.find?_isSome]
      exact ⟨row, hrow, decide_eq_true hselected⟩
    rw [hfound, eq_of_conflict (List.mem_of_find?_eq_some hfound) hrow
      (hunique found row (by simpa using List.find?_some hfound) hselected)]

/-- A selection in which all rows conflict with one that is selected is that row. -/
theorem filter_eq_singleton {table : Table R} {selected : R → Bool} {row : R} (hrow : row ∈ table.rows)
    (hselected : selected row = true) (hconflict : ∀ other, selected other = true → conflict other row) :
    table.rows.filter selected = [row] := by
  obtain ⟨front, back, hrows⟩ := List.append_of_mem hrow
  have hdistinct := table.distinct
  rw [hrows, List.pairwise_append, List.pairwise_cons] at hdistinct
  obtain ⟨_, ⟨hback, _⟩, hfront⟩ := hdistinct
  have hnone : ∀ other ∈ front, ¬ selected other = true := by
    intro other hmem hother
    exact hfront other hmem row List.mem_cons_self (hconflict other hother)
  have hnone' : ∀ other ∈ back, ¬ selected other = true := by
    intro other hmem hother
    exact hback other hmem (Constrained.symmetric _ _ (hconflict other hother))
  rw [hrows, List.filter_append, List.filter_cons_of_pos hselected, List.filter_eq_nil_iff.mpr hnone,
    List.filter_eq_nil_iff.mpr hnone']
  rfl

end Table

section Keyed

variable {K V : Type}

/-- A table of keyed columns in which the key is unique. -/
class KeyedConstrained (K V : Type) [Constrained (K × V)] : Prop where
  conflict_of_key : ∀ left right : K × V, left.1 = right.1 → conflict left right

theorem Table.keys_nodup [Constrained (K × V)] [KeyedConstrained K V] (table : Table (K × V)) :
    (table.rows.map Prod.fst).Nodup := by
  rw [List.nodup_map_iff_inj_on]
  · intro left hleft right hright hkey
    exact Table.eq_of_conflict hleft hright (KeyedConstrained.conflict_of_key left right hkey)
  · refine table.distinct.imp fun hnot heq => hnot ?_
    exact KeyedConstrained.conflict_of_key _ _ (congrArg Prod.fst heq)

variable [LinearOrder K]

instance trans_compare : Std.TransCmp (compare : K → K → Ordering) := inferInstance

instance lawful_eq_compare : Std.LawfulEqCmp (compare : K → K → Ordering) := inferInstance

/-- The map a query over keyed rows is collected into. -/
def collect (rows : List (K × V)) : ExtTreeMap K V :=
  rows.foldl (fun entries row => entries.insert row.1 row.2) ∅

@[simp] theorem collect_nil : collect ([] : List (K × V)) = ∅ :=
  rfl

theorem collect_append_single (rows : List (K × V)) (row : K × V) :
    collect (rows ++ [row]) = (collect rows).insert row.1 row.2 := by
  simp [collect]

theorem mem_collect_iff {rows : List (K × V)} {key : K} :
    key ∈ collect rows ↔ key ∈ rows.map Prod.fst := by
  induction rows using List.reverseRecOn with
  | nil => simp
  | append_singleton rows row ih =>
    rw [collect_append_single, ExtTreeMap.mem_insert, ih, compare_eq_iff_eq]
    simp [eq_comm, or_comm]

/-- With distinct keys the map holds exactly the rows. -/
theorem getElem_collect_iff {rows : List (K × V)} (hnodup : (rows.map Prod.fst).Nodup) {key : K}
    {value : V} :
    (collect rows)[key]? = some value ↔ (key, value) ∈ rows := by
  induction rows using List.reverseRecOn with
  | nil => simp
  | append_singleton rows row ih =>
    rw [List.map_append, List.nodup_append] at hnodup
    obtain ⟨hrows, _, hfresh⟩ := hnodup
    rw [collect_append_single, ExtTreeMap.getElem?_insert, List.mem_append, ← ih hrows,
      List.mem_singleton]
    by_cases hkey : row.1 = key
    · subst hkey
      have habsent : row.1 ∉ collect rows := by
        rw [mem_collect_iff]
        exact fun hmem => hfresh _ hmem _ (by simp) rfl
      rw [ExtTreeMap.getElem?_eq_none habsent]
      simp [Prod.ext_iff, eq_comm]
    · simp [hkey, Prod.ext_iff, Ne.symm hkey]

theorem size_collect {rows : List (K × V)} (hnodup : (rows.map Prod.fst).Nodup) :
    (collect rows).size = rows.length := by
  induction rows using List.reverseRecOn with
  | nil => simp
  | append_singleton rows row ih =>
    rw [List.map_append, List.nodup_append] at hnodup
    obtain ⟨hrows, _, hfresh⟩ := hnodup
    have habsent : row.1 ∉ collect rows := by
      rw [mem_collect_iff]
      exact fun hmem => hfresh _ hmem _ (by simp) rfl
    rw [collect_append_single, ExtTreeMap.size_insert, ih hrows]
    simp [habsent]

/-- Tables with distinct keys that collect into one map hold the same rows. -/
theorem perm_of_collect_eq {left right : List (K × V)} (hleft : (left.map Prod.fst).Nodup)
    (hright : (right.map Prod.fst).Nodup) (h : collect left = collect right) : left.Perm right := by
  rw [List.perm_ext_iff_of_nodup (List.Nodup.of_map _ hleft) (List.Nodup.of_map _ hright)]
  rintro ⟨key, value⟩
  rw [← getElem_collect_iff hleft, ← getElem_collect_iff hright, h]

end Keyed

end Relational

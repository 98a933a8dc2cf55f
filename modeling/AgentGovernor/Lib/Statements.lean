import AgentGovernor.Lib.Table
import AgentGovernor.Lib.Transaction

open Checked Transaction

namespace Relational

section Statements

variable {S E R : Type} [Constrained R] (table : S → Table R) (store : Table R → S → S) (refused : E)

/-- `INSERT INTO` one table of a larger state. -/
def insert_row (row : R) : Tx S E Unit :=
  update fun s => do
    let rows ← ok_or ((table s).insert row) refused
    pure ((), store rows s)

/-- `INSERT OR IGNORE INTO`: a row that conflicts with one that is present is dropped. -/
def insert_or_ignore_row (row : R) : Tx S E Unit :=
  update fun s =>
    match (table s).insert row with
    | some rows => .ok ((), store rows s)
    | none => .ok ((), s)

/-- `UPDATE … WHERE` on one table, with the number of rows it changed. -/
def update_rows (selected : R → Prop) [DecidablePred selected] (change : R → R) : Tx S E Nat :=
  update fun s => do
    let (changed, rows) ← ok_or ((table s).update selected change) refused
    pure (changed, store rows s)

/-- What `INSERT … ON CONFLICT(key) DO UPDATE` makes of the rows of a table. -/
def upserted {K : Type} [DecidableEq K] (key : R → K) (rows : List R) (row : R) : List R :=
  if ∃ present ∈ rows, key present = key row then
    rows.map fun present => if key present = key row then row else present
  else rows ++ [row]

/-- `INSERT INTO … ON CONFLICT(key) DO UPDATE` with every column replaced. -/
def upsert_row {K : Type} [DecidableEq K] (key : R → K) (row : R) : Tx S E Unit :=
  update fun s =>
    if ∃ present ∈ (table s).rows, key present = key row then do
      let (_, rows) ← ok_or ((table s).update (fun present => key present = key row) fun _ => row) refused
      pure ((), store rows s)
    else do
      let rows ← ok_or ((table s).insert row) refused
      pure ((), store rows s)

variable {table store refused} {s s' : S} {u : Unit}

theorem returns_insert_row_iff {row : R} : Returns (insert_row table store refused row) s u s' ↔
    ∃ rows, rows.rows = (table s).rows ++ [row] ∧ store rows s = s' := by
  simp only [insert_row, returns_update_iff, ok_rules, Prod.mk.injEq, true_and, Table.insert_eq_some_iff]

theorem returns_update_rows_iff {selected : R → Prop} [DecidablePred selected] {change : R → R} {changed : Nat} :
    Returns (update_rows table store refused selected change) s changed s' ↔
      (table s).rows.countP (fun row => selected row) = changed ∧
      ∃ rows, rows.rows = ((table s).rows.map fun row => if selected row then change row else row) ∧
        store rows s = s' := by
  simp only [update_rows, returns_update_iff, ok_rules, Prod.exists, Prod.mk.injEq, Table.update_eq_some_iff]
  constructor
  · rintro ⟨_, rows, ⟨hcount, hrows⟩, rfl, hstore⟩
    exact ⟨hcount, rows, hrows, hstore⟩
  · rintro ⟨hcount, rows, hrows, hstore⟩
    exact ⟨_, rows, ⟨hcount, hrows⟩, rfl, hstore⟩

theorem returns_upsert_row_iff {K : Type} [DecidableEq K] {key : R → K} {row : R} :
    Returns (upsert_row table store refused key row) s u s' ↔
      ∃ rows, rows.rows = upserted key (table s).rows row ∧ store rows s = s' := by
  simp only [upsert_row, returns_update_iff, upserted]
  split
  · simp only [ok_rules, Prod.exists, Prod.mk.injEq, true_and, Table.update_eq_some_iff]
    constructor
    · rintro ⟨_, rows, ⟨_, hrows⟩, hstore⟩
      exact ⟨rows, hrows, hstore⟩
    · rintro ⟨rows, hrows, hstore⟩
      exact ⟨_, rows, ⟨rfl, hrows⟩, hstore⟩
  · simp only [ok_rules, Prod.mk.injEq, true_and, Table.insert_eq_some_iff]

section Sequenced

variable {B : Type} {b : B}

theorem returns_update_bind_iff {A : Type} {f : S → Except E (A × S)} {g : A → Tx S E B} :
    Returns (update f >>= g) s b s' ↔ ∃ a t, f s = .ok (a, t) ∧ Returns (g a) t b s' := by
  simp only [returns_bind_iff, returns_update_iff]

theorem returns_insert_row_bind_iff {row : R} {g : Unit → Tx S E B} :
    Returns (insert_row table store refused row >>= g) s b s' ↔
      ∃ rows, rows.rows = (table s).rows ++ [row] ∧ Returns (g ()) (store rows s) b s' := by
  simp only [returns_bind_iff, returns_insert_row_iff, exists_unit_iff]
  constructor
  · rintro ⟨_, ⟨rows, hrows, rfl⟩, hrest⟩
    exact ⟨rows, hrows, hrest⟩
  · rintro ⟨rows, hrows, hrest⟩
    exact ⟨_, ⟨rows, hrows, rfl⟩, hrest⟩

theorem returns_upsert_row_bind_iff {K : Type} [DecidableEq K] {key : R → K} {row : R} {g : Unit → Tx S E B} :
    Returns (upsert_row table store refused key row >>= g) s b s' ↔
      ∃ rows, rows.rows = upserted key (table s).rows row ∧ Returns (g ()) (store rows s) b s' := by
  simp only [returns_bind_iff, returns_upsert_row_iff, exists_unit_iff]
  constructor
  · rintro ⟨_, ⟨rows, hrows, rfl⟩, hrest⟩
    exact ⟨rows, hrows, hrest⟩
  · rintro ⟨rows, hrows, hrest⟩
    exact ⟨_, ⟨rows, hrows, rfl⟩, hrest⟩

theorem returns_update_rows_bind_iff {selected : R → Prop} [DecidablePred selected] {change : R → R}
    {g : Nat → Tx S E B} :
    Returns (update_rows table store refused selected change >>= g) s b s' ↔
      ∃ rows, rows.rows = ((table s).rows.map fun row => if selected row then change row else row) ∧
        Returns (g ((table s).rows.countP fun row => selected row)) (store rows s) b s' := by
  simp only [returns_bind_iff, returns_update_rows_iff]
  constructor
  · rintro ⟨_, _, ⟨rfl, rows, hrows, rfl⟩, hrest⟩
    exact ⟨rows, hrows, hrest⟩
  · rintro ⟨rows, hrows, hrest⟩
    exact ⟨_, _, ⟨rfl, rows, hrows, rfl⟩, hrest⟩

end Sequenced

end Statements

section Upserted

variable {R K : Type} [DecidableEq K] {key : R → K} {rows : List R} {row present : R}

theorem mem_upserted_iff : present ∈ upserted key rows row ↔
    present = row ∨ present ∈ rows ∧ key present ≠ key row := by
  unfold upserted
  split
  · next hknown =>
    rw [List.mem_map]
    constructor
    · rintro ⟨other, hother, rfl⟩
      split
      · exact .inl rfl
      · next hkey => exact .inr ⟨hother, hkey⟩
    · rintro (rfl | ⟨hpresent, hkey⟩)
      · obtain ⟨other, hother, hsame⟩ := hknown
        exact ⟨other, hother, if_pos hsame⟩
      · exact ⟨present, hpresent, if_neg hkey⟩
  · next hunknown =>
    push Not at hunknown
    rw [List.mem_append, List.mem_singleton, or_comm]
    exact or_congr_right ⟨fun hpresent => ⟨hpresent, hunknown present hpresent⟩, And.left⟩

/-- Replacing the row of a key keeps a table within its constraints when the new row
conflicts with no row of another key. -/
theorem upserted_distinct [Constrained R] {table : Table R}
    (hkey : ∀ left ∈ table.rows, ∀ right ∈ table.rows, key left = key right → conflict left right)
    (hrow : ∀ present ∈ table.rows, key present ≠ key row → ¬ conflict present row) :
    (upserted key table.rows row).Pairwise fun left right => ¬ conflict left right := by
  unfold upserted
  split
  · rw [List.pairwise_map]
    refine table.distinct.imp_of_mem fun {left right} hleft hright hnot => ?_
    by_cases hl : key left = key row
    · have hr : key right ≠ key row := fun hr => hnot (hkey left hleft right hright (hl.trans hr.symm))
      rw [if_pos hl, if_neg hr]
      exact fun hconflict => hrow right hright hr (Constrained.symmetric _ _ hconflict)
    · rw [if_neg hl]
      split
      · exact hrow left hleft hl
      · exact hnot
  · next hunknown =>
    push Not at hunknown
    exact table.distinct_append fun present hpresent => hrow present hpresent (hunknown present hpresent)

end Upserted

end Relational

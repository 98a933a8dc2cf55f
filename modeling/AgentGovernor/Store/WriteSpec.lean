import AgentGovernor.Store.Commit

open ag_primitives Checked ag_campaign ag_campaign.governed Relational Transaction

namespace ag_store

theorem to_i64_eq_ok_iff {value stored : UInt64} :
    to_i64 value = .ok stored ↔ value ≤ I64_MAX ∧ value = stored := by
  unfold to_i64
  split <;> simp_all

/-- A counter whose successor fits the integer range did not saturate. -/
theorem toNat_saturating_add_one {value : UInt64} (h : saturating_add_u64 value 1 ≤ I64_MAX) :
    (saturating_add_u64 value 1).toNat = value.toNat + 1 := by
  unfold saturating_add_u64 at h ⊢
  split
  · next hsmall =>
    rw [UInt64.toNat_add]
    exact Nat.mod_eq_of_lt hsmall
  · next hlarge =>
    rw [if_neg hlarge] at h
    exact absurd h (by decide)

section Statements

variable {db db' : Db} {u : Unit}

theorem returns_insert_into_iff {R : Type} [Constrained R] {table : Db → Table R}
    {store : Table R → Db → Db} {references : Db → Prop} [DecidablePred references] {row : R} :
    Returns (insert_into table store references row) db u db' ↔
      references db ∧ ∃ rows, rows.rows = (table db).rows ++ [row] ∧ store rows db = db' := by
  simp only [insert_into, returns_update_iff, ok_rules, Prod.mk.injEq, true_and, Table.insert_eq_some_iff]
  constructor
  · rintro ⟨rows, hrows, hreferences, hstore⟩
    exact ⟨hreferences, rows, hrows, hstore⟩
  · rintro ⟨hreferences, rows, hrows, hstore⟩
    exact ⟨rows, hrows, hreferences, hstore⟩

/-- With nothing to record the table stays as it is. -/
theorem returns_insert_if_some_iff {R : Type} [Constrained R] {table : Db → Table R}
    {store : Table R → Db → Db} (hstore : store (table db) db = db) {references : R → Db → Prop}
    [∀ row, DecidablePred (references row)] {row : Option R} :
    Returns (insert_if_some table store references row) db u db' ↔
      (∀ new ∈ row, references new db) ∧
      ∃ rows, rows.rows = (table db).rows ++ row.toList ∧ store rows db = db' := by
  cases row with
  | some row => simp [insert_if_some, returns_insert_into_iff]
  | none =>
    simp only [insert_if_some, returns_pure_iff, Option.not_mem_none, false_implies, implies_true,
      true_and, Option.toList_none, List.append_nil]
    constructor
    · rintro ⟨_, rfl⟩
      exact ⟨table db, rfl, hstore⟩
    · rintro ⟨rows, hrows, rfl⟩
      rw [Table.ext_rows hrows, hstore]

end Statements

section Rows

variable (expected successor : OccurrenceSnapshotV1)

/-- The occurrences after a transition. -/
def next_occurrences (rows : List OccurrenceRow) : List OccurrenceRow :=
  if expected.key = successor.key then
    rows.map fun row =>
      if row.materializes successor.key expected.state_digest then
        { occurrence_row successor (row.revision + 1) with
          campaign := row.campaign, occurrence := row.occurrence }
      else row
  else rows ++ [occurrence_row successor 1]

/-- The update finds the row it moves on, or the campaign it adds an occurrence to. -/
def Materializable (db : Db) : Prop :=
  if expected.key = successor.key then
    (¬ ∃ row ∈ db.occurrences.rows,
      row.materializes successor.key expected.state_digest ∧ I64_MAX ≤ row.revision) ∧
    db.occurrences.rows.countP (fun row => row.materializes successor.key expected.state_digest) = 1
  else db.has_campaign successor.key.campaign

variable {expected successor} {db db' : Db} {u : Unit}

theorem returns_materialize_iff {head : CampaignHeadRow} :
    Returns (materialize expected successor head) db u db' ↔
      Materializable expected successor db ∧
      ∃ rows, rows.rows = next_occurrences expected successor db.occurrences.rows ∧
        { db with occurrences := rows } = db' := by
  unfold materialize Materializable next_occurrences
  split
  · simp only [returns_bind_iff, update_occurrence, returns_update_iff, returns_lift_iff, ok_rules, Prod.exists,
    Table.update_eq_some_iff, Prod.mk.injEq]
    constructor
    · rintro ⟨changed, db1, ⟨hrange, count, rows, ⟨hcount, hrows⟩, rfl, rfl⟩, rfl, rfl⟩
      exact ⟨⟨hrange, hcount⟩, rows, hrows, rfl⟩
    · rintro ⟨⟨hrange, hcount⟩, rows, hrows, rfl⟩
      exact ⟨1, _, ⟨hrange, 1, rows, ⟨hcount, hrows⟩, rfl, rfl⟩, rfl, rfl⟩
  · simp only [insert_occurrence, returns_bind_iff, returns_lift_iff, to_i64_eq_ok_iff,
      returns_insert_into_iff]
    constructor
    · rintro ⟨revision, db1, ⟨⟨_, rfl⟩, rfl⟩, hcampaign, rows, hrows, rfl⟩
      exact ⟨hcampaign, rows, hrows, rfl⟩
    · rintro ⟨hcampaign, rows, hrows, rfl⟩
      exact ⟨1, db, ⟨⟨by decide, rfl⟩, rfl⟩, hcampaign, rows, hrows, rfl⟩

/-- The accounting a transition adds, table by table. -/
theorem returns_account_new_facts_iff :
    Returns (account_new_facts expected successor) db u db' ↔
      ((∀ row ∈ new_spend expected successor, db.has_occurrence row.2.campaign row.2.occurrence) ∧
       (∀ row ∈ new_attempt expected successor, db.has_occurrence row.2.campaign row.2.occurrence) ∧
       ∀ row ∈ new_settlement expected successor, db.has_occurrence row.2.campaign row.2.occurrence) ∧
      ∃ spends attempts settlements,
        spends.rows = db.ag_authorization_spends.rows ++ (new_spend expected successor).toList ∧
        attempts.rows = db.docket_attempts.rows ++ (new_attempt expected successor).toList ∧
        settlements.rows = db.docket_settlements.rows ++ (new_settlement expected successor).toList ∧
        { db with
          ag_authorization_spends := spends
          docket_attempts := attempts
          docket_settlements := settlements } = db' := by
  simp only [account_new_facts, returns_bind_iff]
  constructor
  · rintro ⟨_, db1, hfirst, _, db2, hsecond, hthird⟩
    obtain ⟨hspend, spends, hspends, rfl⟩ := (returns_insert_if_some_iff rfl).mp hfirst
    obtain ⟨hattempt, attempts, hattempts, rfl⟩ := (returns_insert_if_some_iff rfl).mp hsecond
    obtain ⟨hsettlement, settlements, hsettlements, rfl⟩ := (returns_insert_if_some_iff rfl).mp hthird
    exact ⟨⟨hspend, hattempt, hsettlement⟩, spends, attempts, settlements, hspends, hattempts,
      hsettlements, rfl⟩
  · rintro ⟨⟨hspend, hattempt, hsettlement⟩, spends, attempts, settlements, hspends, hattempts,
      hsettlements, rfl⟩
    exact ⟨(), _, (returns_insert_if_some_iff rfl).mpr ⟨hspend, spends, hspends, rfl⟩, (), _,
      (returns_insert_if_some_iff rfl).mpr ⟨hattempt, attempts, hattempts, rfl⟩,
      (returns_insert_if_some_iff rfl).mpr ⟨hsettlement, settlements, hsettlements, rfl⟩⟩

end Rows

end ag_store

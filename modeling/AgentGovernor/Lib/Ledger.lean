import AgentGovernor.Lib.Table

open Std (ExtTreeMap)

namespace Relational

section Remember

variable {K V : Type} [LinearOrder K]

/-- `entry().or_insert()` of an optional row: a key that is known keeps its value. -/
def remember (entries : ExtTreeMap K V) (row : Option (K × V)) : ExtTreeMap K V :=
  match row with
  | some row => entries.insertIfNew row.1 row.2
  | none => entries

theorem mem_remember {entries : ExtTreeMap K V} {row : Option (K × V)} {new : K × V} (hnew : new ∈ row) :
    new.1 ∈ remember entries row := by
  cases hnew
  simp [remember]

/-- Remembering a key that is known changes nothing. -/
theorem remember_of_mem {entries : ExtTreeMap K V} {row : Option (K × V)}
    (hknown : ∀ new ∈ row, new.1 ∈ entries) : remember entries row = entries := by
  cases row with
  | none => rfl
  | some new =>
    refine ExtTreeMap.ext_getElem? fun key => ?_
    rw [remember, ExtTreeMap.getElem?_insertIfNew]
    refine if_neg ?_
    rintro ⟨hkey, habsent⟩
    exact habsent (hknown new rfl)

/-- Remembering a key that is new extends the rows that were collected. -/
theorem remember_collect_of_nodup {rows : List (K × V)} {row : K × V}
    (hnodup : ((rows ++ [row]).map Prod.fst).Nodup) :
    remember (collect rows) (some row) = collect (rows ++ [row]) := by
  rw [List.map_append, List.nodup_append] at hnodup
  have habsent : row.1 ∉ collect rows := by
    rw [mem_collect_iff]
    exact fun hmem => hnodup.2.2 _ hmem _ (by simp) rfl
  refine ExtTreeMap.ext_getElem? fun key => ?_
  rw [remember, collect_append_single, ExtTreeMap.getElem?_insertIfNew, ExtTreeMap.getElem?_insert]
  refine if_congr ?_ rfl rfl
  rw [compare_eq_iff_eq]
  exact and_iff_left_of_imp fun _ => habsent

/-- What a writer adds agrees with what a reader remembers: a row that is written
is the one that is read, and where none is written the key is an old one. -/
structure Carries (old read written : Option (K × V)) : Prop where
  written_read : ∀ row ∈ written, read = some row
  kept : written = none → ∀ row ∈ read, ∃ known ∈ old, known.1 = row.1

omit [LinearOrder K] in
/-- A writer that records a row exactly when there was none before. -/
theorem carries_of_kept {old read written : Option (K × V)}
    (hwritten : written = if old.isSome = true then none else read)
    (hkept : ∀ known ∈ old, ∀ row ∈ read, known.1 = row.1) : Carries old read written := by
  subst hwritten
  cases old with
  | none => exact ⟨fun row hrow => hrow, fun hnone row hrow => by simp_all⟩
  | some known => exact ⟨fun row hrow => by simp at hrow, fun _ row hrow => ⟨known, rfl, hkept known rfl row hrow⟩⟩

/-- Reading a table back row by row collects what was written to it. -/
theorem remember_eq_collect [Constrained (K × V)] [KeyedConstrained K V] {table table' : Table (K × V)}
    {old read written : Option (K × V)} (hcarries : Carries old read written)
    (hknown : ∀ row ∈ old, row.1 ∈ collect table.rows)
    (hrows : table'.rows = table.rows ++ written.toList) :
    remember (collect table.rows) read = collect table'.rows := by
  cases written with
  | some row =>
    have hnodup := table'.keys_nodup
    rw [hrows] at hnodup ⊢
    rw [hcarries.written_read row rfl]
    exact remember_collect_of_nodup hnodup
  | none =>
    rw [hrows, Option.toList_none, List.append_nil]
    refine remember_of_mem fun row hrow => ?_
    obtain ⟨known, hmem, hkey⟩ := hcarries.kept rfl row hrow
    exact hkey ▸ hknown known hmem

end Remember

section Maps

variable {K V W : Type} [LinearOrder K] {entries : ExtTreeMap K V} {key : K} {value : V}

theorem mem_keys_iff {other : K} : other ∈ entries.keys ↔ other ∈ entries :=
  ExtTreeMap.mem_keys

theorem keys_toFinset_empty : (∅ : ExtTreeMap K V).keys.toFinset = ∅ := by
  ext other
  simp

theorem filterMap_empty (f : K → V → Option W) : (∅ : ExtTreeMap K V).filterMap f = ∅ := by
  refine ExtTreeMap.ext_getElem? fun other => ?_
  simp [ExtTreeMap.getElem?_filterMap]

theorem card_keys (entries : ExtTreeMap K V) : entries.keys.toFinset.card = entries.size := by
  rw [List.toFinset_card_of_nodup ExtTreeMap.nodup_keys, ExtTreeMap.length_keys]

theorem keys_toFinset_insert :
    (entries.insert key value).keys.toFinset = entries.keys.toFinset ∪ [key].toFinset := by
  ext other
  simp only [List.mem_toFinset, mem_keys_iff, ExtTreeMap.mem_insert, compare_eq_iff_eq,
    Finset.mem_union, List.mem_singleton]
  rw [or_comm, eq_comm]

/-- A new entry of a map is filtered on its own. -/
theorem filterMap_insert_of_notMem (habsent : key ∉ entries) (f : K → V → Option W) :
    (entries.insert key value).filterMap f =
      match f key value with
      | some result => (entries.filterMap f).insert key result
      | none => entries.filterMap f := by
  refine ExtTreeMap.ext_getElem? fun other => ?_
  have hnone : entries[key]? = none := ExtTreeMap.getElem?_eq_none habsent
  by_cases hkey : key = other
  · subst hkey
    cases hresult : f key value <;> simp [ExtTreeMap.getElem?_filterMap, hresult, hnone]
  · cases hresult : f key value <;>
      simp [ExtTreeMap.getElem?_filterMap, ExtTreeMap.getElem?_insert, hkey]

end Maps

end Relational

import Mathlib.Data.List.Basic

namespace EventLog

variable {A K : Type} [DecidableEq K] (key : A → K)

/-- The last item of a log that belongs to a key. -/
def latest (log : List A) (k : K) : Option A :=
  (log.filter fun item => key item = k).getLast?

/-- How many items of a log belong to a key. -/
def revision (log : List A) (k : K) : Nat :=
  log.countP fun item => key item = k

variable {key} {log : List A} {item : A} {k : K}

@[simp] theorem latest_nil : latest key ([] : List A) k = none :=
  rfl

@[simp] theorem revision_nil : revision key ([] : List A) k = 0 :=
  rfl

theorem latest_append_self (log : List A) (item : A) : latest key (log ++ [item]) (key item) = some item := by
  simp [latest]

theorem latest_append_of_ne (hne : key item ≠ k) : latest key (log ++ [item]) k = latest key log k := by
  simp [latest, List.filter_append, hne]

theorem revision_append_self (log : List A) (item : A) :
    revision key (log ++ [item]) (key item) = revision key log (key item) + 1 := by
  simp [revision, List.countP_append]

theorem revision_append_of_ne (hne : key item ≠ k) : revision key (log ++ [item]) k = revision key log k := by
  simp [revision, List.countP_append, hne]

theorem mem_of_latest_eq_some (h : latest key log k = some item) : item ∈ log ∧ key item = k := by
  have hmem := List.mem_filter.mp (List.mem_of_getLast? h)
  exact ⟨hmem.1, by simpa using hmem.2⟩

theorem latest_isSome_iff : (latest key log k).isSome = true ↔ ∃ item ∈ log, key item = k := by
  rw [latest, List.getLast?_isSome, Ne, List.filter_eq_nil_iff]
  simp

theorem revision_eq_zero_iff : revision key log k = 0 ↔ ∀ item ∈ log, key item ≠ k := by
  simp [revision, List.countP_eq_zero]

/-- In a log ordered by a clock, the last item of a key is the newest one. -/
theorem le_latest {clock : A → Nat} (hordered : log.Pairwise fun left right => clock left < clock right)
    (h : latest key log k = some item) {other : A} (hother : other ∈ log) (hkey : key other = k) :
    clock other ≤ clock item := by
  obtain ⟨front, hfront⟩ : ∃ front, log.filter (fun item => key item = k) = front ++ [item] :=
    List.getLast?_eq_some_iff.mp h
  have hfiltered := hordered.filter fun item => decide (key item = k)
  rw [hfront] at hfiltered
  have hmem : other ∈ front ++ [item] := by
    rw [← hfront]
    exact List.mem_filter.mpr ⟨hother, decide_eq_true hkey⟩
  rcases List.mem_append.mp hmem with hmem | hmem
  · exact Nat.le_of_lt ((List.pairwise_append.mp hfiltered).2.2 other hmem item (List.mem_singleton_self item))
  · exact Nat.le_of_eq (congrArg clock (List.mem_singleton.mp hmem))

end EventLog

import AgentGovernor.Lib.Table

open Std (ExtTreeMap)

namespace Relational

-- Interleaved chains in one sequence: every item belongs to the chain of its key and
-- names the item before it in that chain.
section KeyedChain

variable {A K D : Type} [LinearOrder K] (key : A → K) (id : A → D) (link : A → Option D)

/-- The end of every chain after some more items. -/
def chain_ends (latest : ExtTreeMap K D) (items : List A) : ExtTreeMap K D :=
  items.foldl (fun latest item => latest.insert (key item) (id item)) latest

/-- Every item names the end of its chain as it was when the item came. -/
def ChainedFrom : ExtTreeMap K D → List A → Prop
  | _, [] => True
  | latest, item :: rest => link item = latest[key item]? ∧ ChainedFrom (latest.insert (key item) (id item)) rest

variable {key id link} {latest : ExtTreeMap K D}

theorem chainedFrom_append {items more : List A} :
    ChainedFrom key id link latest (items ++ more) ↔
      ChainedFrom key id link latest items ∧ ChainedFrom key id link (chain_ends key id latest items) more := by
  induction items generalizing latest with
  | nil => simp [ChainedFrom, chain_ends]
  | cons item rest ih => simp only [List.cons_append, ChainedFrom, ih, chain_ends, List.foldl_cons, and_assoc]

/-- A chain ends with the last item of its key. -/
theorem getElem?_chain_ends {items : List A} {wanted : K} :
    (chain_ends key id latest items)[wanted]? =
      ((items.filter (fun item => key item = wanted)).getLast?.map id).or latest[wanted]? := by
  induction items generalizing latest with
  | nil => simp [chain_ends]
  | cons item rest ih =>
    have hrest : (chain_ends key id (latest.insert (key item) (id item)) rest)[wanted]? = _ := ih
    rw [chain_ends, List.foldl_cons, ← chain_ends, hrest, ExtTreeMap.getElem?_insert]
    by_cases hkey : key item = wanted
    · rw [List.filter_cons_of_pos (by simpa using hkey), if_pos (compare_eq_iff_eq.mpr hkey)]
      cases hlast : (rest.filter (fun item => key item = wanted)).getLast? <;>
        simp [List.getLast?_cons, hlast]
    · rw [List.filter_cons_of_neg (by simpa using hkey), if_neg (by rwa [compare_eq_iff_eq])]

/-- One more item keeps the chains exactly when it names the last item of its key. -/
theorem chainedFrom_concat_iff {items : List A} {item : A} :
    ChainedFrom key id link ∅ (items ++ [item]) ↔ ChainedFrom key id link ∅ items ∧
      link item = (items.filter (fun other => key other = key item)).getLast?.map id := by
  rw [chainedFrom_append, ChainedFrom, ChainedFrom, getElem?_chain_ends]
  simp

end KeyedChain

section Last

variable {A : Type} {p q : A → Bool}

/-- The last item of a kind is the last of a narrower kind when it is of that kind. -/
theorem getLast?_filter_and {items : List A} (h : ∀ item ∈ (items.filter p).getLast?, q item = true) :
    (items.filter fun item => p item && q item).getLast? = (items.filter p).getLast? := by
  have hsplit : (items.filter fun item => p item && q item) = (items.filter p).filter q := by
    rw [List.filter_filter]
    exact List.filter_congr fun item _ => Bool.and_comm _ _
  rw [hsplit]
  rcases List.eq_nil_or_concat (items.filter p) with hnil | ⟨front, last, hlast⟩
  · rw [hnil]
    rfl
  · rw [hlast] at h ⊢
    have hq : q last = true := h last (by simp)
    rw [List.concat_eq_append, List.filter_append, List.filter_cons_of_pos hq]
    simp

end Last

end Relational

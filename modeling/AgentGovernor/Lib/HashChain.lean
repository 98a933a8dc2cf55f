import Mathlib.Data.List.Forall2
import Mathlib.Data.List.Induction

namespace HashChain

section Fold

variable {D S : Type} {link : D → S → D} {same : S → S → Prop} {start start' : D}

/-- A chain of injective links whose start is no link of its own determines its
start and, up to what a link covers, everything that was linked. -/
theorem foldl_link_inj (hinj : ∀ d d' s s', link d s = link d' s' → d = d' ∧ same s s')
    (hstart : ∀ d s, link d s ≠ start) (hstart' : ∀ d s, link d s ≠ start') {left right : List S}
    (h : left.foldl link start = right.foldl link start') :
    start = start' ∧ List.Forall₂ same left right := by
  induction left using List.reverseRecOn generalizing right with
  | nil =>
    rcases List.eq_nil_or_concat' right with rfl | ⟨rest, last, rfl⟩
    · exact ⟨h, .nil⟩
    · rw [List.foldl_append] at h
      exact absurd h.symm (hstart _ _)
  | append_singleton left item ih =>
    rcases List.eq_nil_or_concat' right with rfl | ⟨rest, last, rfl⟩
    · rw [List.foldl_append] at h
      exact absurd h (hstart' _ _)
    · rw [List.foldl_append, List.foldl_append] at h
      obtain ⟨hprevious, hsame⟩ := hinj _ _ _ _ h
      obtain ⟨hstarts, hrest⟩ := ih hprevious
      exact ⟨hstarts, List.rel_append hrest (.cons hsame .nil)⟩

end Fold

section Linked

variable {D S R : Type} (link : D → S → D) (previous next : R → D) (payload : R → S)

/-- Rows that are linked one to the next, grown at the end. -/
inductive Linked (start : D) : List R → D → Prop where
  | nil : Linked start [] start
  | snoc {rows : List R} {finish : D} {row : R} (hrows : Linked start rows finish)
    (hprevious : previous row = finish) (hnext : next row = link finish (payload row)) :
    Linked start (rows ++ [row]) (next row)

variable {link previous next payload} {start finish : D} {rows : List R}

variable (h : Linked link previous next payload start rows finish)

include h

theorem Linked.foldl_eq :
    finish = (rows.map payload).foldl link start := by
  induction h with
  | nil => rfl
  | snoc _ _ hnext ih => rw [hnext, ih, List.map_append, List.foldl_append, List.map_singleton, List.foldl_cons,
      List.foldl_nil]

/-- Each row of a chain stands between two of its initial segments. -/
theorem Linked.exists_take {row : R} (hrow : row ∈ rows) :
    ∃ count < rows.length, previous row = ((rows.map payload).take count).foldl link start ∧
      next row = ((rows.map payload).take (count + 1)).foldl link start := by
  induction h with
  | nil => cases hrow
  | @snoc rows finish last hrows hprevious hnext ih =>
    rcases List.mem_append.mp hrow with hold | hlast
    · obtain ⟨count, hcount, hbefore, hafter⟩ := ih hold
      refine ⟨count, by rw [List.length_append]; omega, ?_, ?_⟩
      · rw [List.map_append, List.take_append_of_le_length (by rw [List.length_map]; omega)]
        exact hbefore
      · rw [List.map_append, List.take_append_of_le_length (by rw [List.length_map]; omega)]
        exact hafter
    · rw [List.mem_singleton.mp hlast]
      refine ⟨rows.length, by simp, ?_, ?_⟩
      · rw [hprevious, hrows.foldl_eq, List.map_append, List.take_append_of_le_length (by simp),
          List.take_of_length_le (by simp)]
      · rw [hnext, hrows.foldl_eq, List.take_of_length_le (by simp), List.map_append, List.foldl_append]
        rfl

/-- The end of a chain and what is linked to it are new to the chain. -/
theorem Linked.fresh (hinj : ∀ d d' s s', link d s = link d' s' → d = d' ∧ s = s')
    (hstart : ∀ d s, link d s ≠ start) {row : R}
    (hrow : row ∈ rows) (item : S) : previous row ≠ finish ∧ next row ≠ link finish item := by
  obtain ⟨count, hcount, hbefore, hafter⟩ := h.exists_take hrow
  have hlength : ∀ {left right : List S}, left.foldl link start = right.foldl link start →
      left.length = right.length :=
    fun heq => (foldl_link_inj hinj hstart hstart heq).2.length_eq
  constructor
  · intro heq
    rw [hbefore, h.foldl_eq] at heq
    have hcounts := hlength heq
    rw [List.length_take, List.length_map] at hcounts
    omega
  · intro heq
    have hmore : link finish item = (rows.map payload ++ [item]).foldl link start := by
      rw [List.foldl_append, ← h.foldl_eq]
      rfl
    rw [hafter, hmore] at heq
    have hcounts := hlength heq
    rw [List.length_take, List.length_append, List.length_map, List.length_singleton] at hcounts
    omega

/-- Two chains with the same end hold the same rows, provided the link after a row
determines the row and no link is the start of the other chain. -/
theorem Linked.unique {link' : D → S → D} {start' : D} {rows' : List R}
    (h' : Linked link' previous next payload start' rows' finish)
    (hinj : ∀ row ∈ rows, ∀ row' ∈ rows', next row = next row' → row = row')
    (hstart : ∀ row ∈ rows', next row ≠ start) (hstart' : ∀ row ∈ rows, next row ≠ start') :
    rows = rows' := by
  induction h generalizing rows' with
  | nil =>
    cases h' with
    | nil => rfl
    | snoc => exact absurd rfl (hstart _ (by simp))
  | @snoc rows finish row hrows hprevious _ ih =>
    generalize hend : next row = finish' at h'
    cases h' with
    | nil => exact absurd hend (hstart' row (by simp))
    | @snoc rows' finish' row' hrows' hprevious' _ =>
      obtain rfl := hinj row (by simp) row' (by simp) hend
      obtain rfl : finish = finish' := hprevious.symm.trans hprevious'
      have heq := ih hrows' (fun item hitem item' hitem' => hinj item (by simp [hitem]) item' (by simp [hitem']))
        (fun item hitem => hstart item (by simp [hitem])) (fun item hitem => hstart' item (by simp [hitem]))
      rw [heq]

end Linked

end HashChain

import Mathlib.Data.List.Forall2
import Mathlib.Data.Finset.Card
import Mathlib.Data.List.Dedup

namespace Lists

variable {A B : Type} {R : A → B → Prop} {left : List A} {right : List B}

theorem exists_left_of_mem (h : List.Forall₂ R left right) {b : B} (hb : b ∈ right) : ∃ a ∈ left, R a b := by
  induction h with
  | nil => cases hb
  | @cons first second _ _ hfirst _ ih =>
    rcases List.mem_cons.mp hb with rfl | hb
    · exact ⟨first, List.mem_cons_self, hfirst⟩
    · obtain ⟨a, ha, hab⟩ := ih hb
      exact ⟨a, List.mem_cons_of_mem _ ha, hab⟩

theorem exists_right_of_mem (h : List.Forall₂ R left right) {a : A} (ha : a ∈ left) : ∃ b ∈ right, R a b :=
  exists_left_of_mem h.flip ha

/-- A relation that every item has a partner in relates the list to a list of partners. -/
theorem exists_forall₂ (h : ∀ a ∈ left, ∃ b, R a b) : ∃ partners, List.Forall₂ R left partners := by
  induction left with
  | nil => exact ⟨[], .nil⟩
  | cons a left ih =>
    obtain ⟨b, hb⟩ := h a List.mem_cons_self
    obtain ⟨partners, hpartners⟩ := ih fun a ha => h a (List.mem_cons_of_mem _ ha)
    exact ⟨b :: partners, .cons hb hpartners⟩

/-- Two lists of partners of one list are partners of each other. -/
theorem forall₂_of_common {C : Type} {Q : A → C → Prop} {T : B → C → Prop} {other : List C}
    (h : List.Forall₂ R left right) (h' : List.Forall₂ Q left other)
    (himp : ∀ a, ∀ b ∈ right, ∀ c ∈ other, R a b → Q a c → T b c) : List.Forall₂ T right other := by
  induction h generalizing other with
  | nil =>
    cases h'
    exact .nil
  | cons hfirst _ ih =>
    cases h' with
    | cons hfirst' hrest' =>
      refine .cons (himp _ _ List.mem_cons_self _ List.mem_cons_self hfirst hfirst') (ih hrest' ?_)
      intro a b hb c hc
      exact himp a b (List.mem_cons_of_mem _ hb) c (List.mem_cons_of_mem _ hc)

/-- Changing selected items that fail a test into ones that pass it adds their number. -/
theorem countP_map_selected (selected test : A → Bool) (change : A → A)
    (h : ∀ a, selected a = true → test a = false ∧ test (change a) = true) (items : List A) :
    (items.map fun a => if selected a = true then change a else a).countP test =
      items.countP test + items.countP selected := by
  induction items with
  | nil => rfl
  | cons a items ih =>
    rw [List.map_cons, List.countP_cons, List.countP_cons, List.countP_cons, ih]
    by_cases ha : selected a = true
    · simp only [if_pos ha, (h a ha).1, (h a ha).2]
      simp
      omega
    · simp only [if_neg ha]
      omega

/-- As many items as a set without repetitions has, and the same ones, are that set. -/
theorem perm_of_toFinset_eq [DecidableEq A] {right : List A} (hnodup : right.Nodup)
    (hlength : left.length = right.length) (hset : left.toFinset = right.toFinset) : left.Perm right := by
  have hleft : left.Nodup := by
    refine Multiset.coe_nodup.mp (Multiset.toFinset_card_eq_card_iff_nodup.mp ?_)
    change left.toFinset.card = left.length
    rw [hset, List.toFinset_card_of_nodup hnodup, hlength]
  exact List.perm_of_nodup_nodup_toFinset_eq hleft hnodup hset

end Lists

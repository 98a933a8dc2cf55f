import Mathlib.Data.Finset.Card
import Mathlib.Data.List.Chain
import Mathlib.Data.List.Sort

namespace Windows

/-- `slice.windows(2).any(p)`: some adjacent pair satisfies the test. -/
def windows_any {A : Type} (p : A → A → Bool) : List A → Bool
  | [] => false
  | [_] => false
  | a :: b :: rest => p a b || windows_any p (b :: rest)

theorem windows_any_eq_false_iff {A : Type} {p : A → A → Bool} {values : List A} :
    windows_any p values = false ↔ values.IsChain (fun a b => p a b = false) := by
  induction values with
  | nil => simp [windows_any]
  | cons a rest ih =>
    cases rest with
    | nil => simp [windows_any]
    | cons b rest => simp [windows_any, List.isChain_cons_cons, ih]

/-- A relation holds along a list exactly when it holds of every adjacent pair. -/
theorem isChain_iff_pairs {A : Type} {R : A → A → Prop} {values : List A} :
    values.IsChain R ↔ ∀ a b, [a, b] <:+: values → R a b := by
  refine ⟨?_, fun h => (List.isChain_isInfix values).imp h⟩
  rintro h a b ⟨front, rest, hvalues⟩
  exact List.isChain_iff_forall_rel_of_append_cons_cons.mp h (by simpa using hvalues.symm)

section Keyed

variable {A K : Type} [LinearOrder K] (key : A → K)

/-- A stable sort by key, as `slice::sort_by` with `cmp` on the key. -/
def sort_by_key (values : List A) : List A :=
  values.insertionSort (fun a b => key a ≤ key b)

instance le_key_total : Std.Total (fun a b : A => key a ≤ key b) := ⟨fun a b => le_total (key a) (key b)⟩

instance le_key_trans : IsTrans A (fun a b => key a ≤ key b) := ⟨fun _ _ _ h h' => h.trans h'⟩

theorem sort_by_key_pairwise (values : List A) :
    (sort_by_key key values).Pairwise (fun a b => key a ≤ key b) :=
  List.pairwise_insertionSort _ values

theorem sort_by_key_perm (values : List A) : (sort_by_key key values).Perm values :=
  List.perm_insertionSort _ values

/-- A sorted list without equal adjacent keys is strictly sorted, so a
duplicate anywhere is a duplicate in some window of the sorted list. -/
theorem strict_of_no_adjacent {values : List A}
    (hsorted : values.Pairwise (fun a b => key a ≤ key b))
    (hwindows : windows_any (fun a b => key a == key b) values = false) :
    values.Pairwise (fun a b => key a < key b) := by
  induction values with
  | nil => exact List.Pairwise.nil
  | cons a rest ih =>
    cases rest with
    | nil => exact List.pairwise_singleton _ a
    | cons b rest =>
      simp only [windows_any, Bool.or_eq_false_iff, beq_eq_false_iff_ne] at hwindows
      obtain ⟨hhead, htail⟩ := List.pairwise_cons.mp hsorted
      have hrest := ih htail hwindows.2
      have hab : key a < key b := lt_of_le_of_ne (hhead b List.mem_cons_self) hwindows.1
      refine List.pairwise_cons.mpr ⟨?_, hrest⟩
      intro c hc
      rcases List.mem_cons.mp hc with rfl | hc
      · exact hab
      · exact hab.trans ((List.pairwise_cons.mp hrest).1 c hc)

theorem no_adjacent_of_strict {values : List A}
    (hstrict : values.Pairwise (fun a b => key a < key b)) :
    windows_any (fun a b => key a == key b) values = false := by
  rw [windows_any_eq_false_iff]
  exact hstrict.isChain.imp fun a b h => by simpa using h.ne

/-- Sorting a strictly sorted list changes nothing. -/
theorem sort_by_key_of_strict {values : List A}
    (hstrict : values.Pairwise (fun a b => key a < key b)) :
    sort_by_key key values = values :=
  (hstrict.imp fun h => h.le).insertionSort_eq

end Keyed

/-- Collecting into a set loses nothing exactly when no element repeats. -/
theorem toFinset_card_eq_length_iff {A : Type} [DecidableEq A] {values : List A} :
    values.toFinset.card = values.length ↔ values.Nodup :=
  Multiset.toFinset_card_eq_card_iff_nodup (m := (values : Multiset A))

end Windows

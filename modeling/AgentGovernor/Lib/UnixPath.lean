import Mathlib.Data.List.Infix

namespace UnixPath

abbrev slash : UInt8 := '/'.toUInt8

abbrev dot : UInt8 := '.'.toUInt8

/-- One component of a path, as the standard library reports it. -/
inductive Component where
  | root_dir
  | cur_dir
  | parent_dir
  | normal (name : List UInt8)
  deriving DecidableEq

namespace Component

/-- Nothing between two separators, and `.`, are no component. -/
def of_segment (segment : List UInt8) : Option Component :=
  if segment = [] ∨ segment = [dot] then none
  else if segment = [dot, dot] then some .parent_dir
  else some (.normal segment)

def text : Component → List UInt8
  | .root_dir => [slash]
  | .cur_dir => [dot]
  | .parent_dir => [dot, dot]
  | .normal name => name

def is_normal : Component → Bool
  | .normal _ => true
  | _ => false

end Component

/-- What stands between the separators. -/
def segments (path : List UInt8) : List (List UInt8) := path.splitOn slash

/-- The components after the first separator or the leading `.`. -/
def names (path : List UInt8) : List Component := (segments path).filterMap Component.of_segment

def is_absolute (path : List UInt8) : Bool := path.head? == some slash

/-- `Path::components`: a `.` is reported only where it starts a relative path. -/
def components (path : List UInt8) : List Component :=
  (if is_absolute path then [.root_dir]
    else if (segments path).head? = some [dot] then [.cur_dir]
    else []) ++ names path

/-- `Path::starts_with` compares whole components. -/
def starts_with (path base : List UInt8) : Bool := (components base).isPrefixOf (components path)

/-- `Path::join`. -/
def join (base path : List UInt8) : List UInt8 :=
  if is_absolute path then path
  else if base = [] ∨ [slash] <:+ base then base ++ path
  else base ++ slash :: path

/-- Every segment is a component. -/
def Plain (path : List UInt8) : Prop := ∀ segment ∈ segments path, segment ≠ [] ∧ segment ≠ [dot]

theorem segments_append (base path : List UInt8) :
    segments (base ++ slash :: path) = segments base ++ segments path :=
  List.splitOnP_append_cons _ _ (by decide)

theorem names_append (base path : List UInt8) : names (base ++ slash :: path) = names base ++ names path := by
  rw [names, segments_append, List.filterMap_append, names, names]

theorem components_absolute (path : List UInt8) : components (slash :: path) = .root_dir :: names path := by
  have hnames : names (slash :: path) = names path := names_append [] path
  rw [components, hnames]
  rfl

private theorem mem_intercalate {parts : List (List UInt8)} {part : List UInt8} (hmem : part ∈ parts) :
    ∃ front back, [slash].intercalate parts = front ++ part ++ back ∧
      (front = [] ∨ [slash] <:+ front) ∧ (back = [] ∨ [slash] <+: back) := by
  induction parts with
  | nil => simp at hmem
  | cons first rest ih =>
    by_cases hrest : rest = []
    · subst hrest
      obtain rfl : part = first := by simpa using hmem
      exact ⟨[], [], by simp⟩
    · rw [List.intercalate_cons_of_ne_nil hrest]
      rcases List.mem_cons.mp hmem with rfl | hmem
      · exact ⟨[], [slash] ++ [slash].intercalate rest, by simp, .inl rfl, .inr (List.prefix_append _ _)⟩
      · obtain ⟨front, back, heq, hfront, hback⟩ := ih hmem
        refine ⟨first ++ [slash] ++ front, back, by simp [heq], .inr ?_, hback⟩
        rcases hfront with rfl | hfront
        · simp
        · exact hfront.trans (List.suffix_append _ _)

/-- A segment is the whole path, starts it, ends it, or stands between two separators. -/
theorem segment_cases {path segment : List UInt8} (hmem : segment ∈ segments path) :
    path = segment ∨ segment ++ [slash] <+: path ∨ slash :: segment <:+ path ∨
      slash :: segment ++ [slash] <:+: path := by
  obtain ⟨front, back, heq, hfront, hback⟩ := mem_intercalate hmem
  rw [segments, List.intercalate_splitOn] at heq
  subst heq
  rcases hfront with rfl | ⟨front, rfl⟩ <;> rcases hback with rfl | ⟨back, rfl⟩
  · simp
  · exact .inr (.inl ⟨back, by simp⟩)
  · exact .inr (.inr (.inl ⟨front, by simp⟩))
  · exact .inr (.inr (.inr ⟨front, back, by simp⟩))

/-- The textual tests that make a path plain. -/
theorem plain_of_tests {path : List UInt8} (hnonempty : path ≠ []) (hdot : path ≠ [dot])
    (hstart : ¬[slash] <+: path ∧ ¬[dot, slash] <+: path) (hend : ¬[slash] <:+ path ∧ ¬[slash, dot] <:+ path)
    (hinner : ¬[slash, slash] <:+: path ∧ ¬[slash, dot, slash] <:+: path) : Plain path := by
  intro segment hmem
  constructor <;> rintro rfl
  · rcases segment_cases hmem with h | h | h | h
    exacts [hnonempty h, hstart.1 h, hend.1 h, hinner.1 h]
  · rcases segment_cases hmem with h | h | h | h
    exacts [hdot h, hstart.2 h, hend.2 h, hinner.2 h]

namespace Plain

variable {path : List UInt8} (hplain : Plain path)

include hplain

theorem not_absolute : is_absolute path = false := by
  cases path with
  | nil => rfl
  | cons first rest =>
    by_contra habsolute
    obtain rfl : first = slash := by simpa [is_absolute] using habsolute
    have hmem : [] ∈ segments (slash :: rest) := by
      rw [show slash :: rest = [] ++ slash :: rest from rfl, segments_append]
      simp [segments]
    exact (hplain [] hmem).1 rfl

theorem components_eq : components path = names path := by
  have hhead : (segments path).head? ≠ some [dot] := fun hhead =>
    (hplain [dot] (List.mem_of_mem_head? hhead)).2 rfl
  simp [components, hplain.not_absolute, hhead]

/-- A plain path is its components, written with single separators. -/
theorem spelled : [slash].intercalate ((names path).map Component.text) = path := by
  have htexts : ∀ parts : List (List UInt8), (∀ part ∈ parts, part ≠ [] ∧ part ≠ [dot]) →
      (parts.filterMap Component.of_segment).map Component.text = parts := by
    intro parts hparts
    induction parts with
    | nil => rfl
    | cons part rest ih =>
      obtain ⟨hpart, hrest⟩ := List.forall_mem_cons.mp hparts
      by_cases hparent : part = [dot, dot] <;>
        simp_all [Component.of_segment, Component.text]
  rw [names, htexts _ hplain, segments, List.intercalate_splitOn]

theorem components_ne_nil : components path ≠ [] := by
  intro hnone
  rw [hplain.components_eq] at hnone
  have hempty : path = [] := by rw [← hplain.spelled, hnone]; rfl
  subst hempty
  exact (hplain [] (by decide)).1 rfl

theorem components_join {base : List UInt8} (habsolute : is_absolute base) (hend : ¬[slash] <:+ base) :
    components (join base path) = components base ++ components path := by
  cases base with
  | nil => simp [is_absolute] at habsolute
  | cons first rest =>
    obtain rfl : first = slash := by simpa [is_absolute] using habsolute
    rw [join, hplain.not_absolute, if_neg (by simp), if_neg (by simp [hend]), List.cons_append, components_absolute,
      components_absolute, names_append, hplain.components_eq, List.cons_append]

end Plain

end UnixPath

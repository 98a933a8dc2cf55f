import AgentGovernor.Lib.UnixPath

open UnixPath

namespace ag_effect

/-- A string is its bytes. The double separator is not looked for at the first byte. -/
def is_canonical_absolute_root (value : List UInt8) : Bool :=
  is_absolute value
    && components value != [.root_dir]
    && decide (¬[slash] <:+ value)
    && decide (¬[slash, slash] <:+: value.drop 1)
    && decide (¬[slash, dot, slash] <:+: value)
    && decide (¬[slash, dot] <:+ value)
    && !value.contains 0
    && (components value).all fun component => component == .root_dir || component.is_normal

def is_canonical_relative_path (value : List UInt8) : Bool :=
  !value.isEmpty
    && !is_absolute value
    && decide (¬[dot, slash] <+: value)
    && decide (¬[slash] <:+ value)
    && decide (¬[slash, dot] <:+ value)
    && decide (¬[slash, slash] <:+: value)
    && decide (¬[slash, dot, slash] <:+: value)
    && !value.contains 0
    && (components value).all Component.is_normal

def ascii (text : String) : List UInt8 := text.toList.map Char.toUInt8

def is_canonical_git_reference (value : List UInt8) : Bool :=
  decide (ascii "refs/" <+: value)
    && decide (¬[slash] <:+ value)
    && decide (¬[dot] <:+ value)
    && decide (¬ascii ".lock" <:+ value)
    && decide (¬[dot, dot] <:+: value)
    && decide (¬ascii "@\x7b" <:+: value)
    && decide (¬[slash, slash] <:+: value)
    && value.all fun byte => !(byte < 32 || byte == 127) && !(ascii " ~^:?*[\\").contains byte

/-- What an administrator configures for code promotion. -/
structure PromotionDefinition where
  allowed_root : List UInt8
  repository : List UInt8
  reference : List UInt8
  staging_root : List UInt8
  uid : UInt32
  gid : UInt32
  promotion_ttl_ms : UInt64

/-- The test behind `InvalidPromotionDefinition` in `compile_one`. -/
def PromotionDefinition.is_invalid (definition : PromotionDefinition) : Bool :=
  !is_canonical_absolute_root definition.allowed_root
    || !is_canonical_relative_path definition.repository
    || !is_canonical_git_reference definition.reference
    || !is_canonical_absolute_root definition.staging_root
    || starts_with definition.staging_root definition.allowed_root
    || definition.uid == 0xffffffff
    || definition.gid == 0xffffffff
    || definition.promotion_ttl_ms == 0

theorem relative_path_plain {value : List UInt8} (h : is_canonical_relative_path value) :
    Plain value ∧ (components value).all Component.is_normal := by
  simp only [is_canonical_relative_path, Bool.and_eq_true, decide_eq_true_eq, Bool.not_eq_true'] at h
  obtain ⟨⟨⟨⟨⟨⟨⟨⟨hnonempty, habsolute⟩, hcurrent⟩, hslash⟩, hdot⟩, hdouble⟩, hinner⟩, -⟩, hnormal⟩ := h
  refine ⟨plain_of_tests (by rintro rfl; simp at hnonempty) ?_ ⟨?_, hcurrent⟩ ⟨hslash, hdot⟩
    ⟨hdouble, hinner⟩, hnormal⟩
  · rintro rfl
    revert hnormal
    decide
  · rintro ⟨rest, rfl⟩
    simp [is_absolute] at habsolute

/-- An accepted root is plain after its leading separator, or after two of them. -/
theorem absolute_root_spelled {value : List UInt8} (h : is_canonical_absolute_root value) :
    ∃ body, Plain body ∧ components value = .root_dir :: names body ∧
      (value = slash :: body ∧ ¬[slash, slash] <+: value ∨ value = slash :: slash :: body) := by
  simp only [is_canonical_absolute_root, Bool.and_eq_true, decide_eq_true_eq] at h
  obtain ⟨⟨⟨⟨⟨⟨⟨habsolute, hroot⟩, hslash⟩, hdouble⟩, hinner⟩, hdot⟩, -⟩, -⟩ := h
  obtain ⟨rest, rfl⟩ : ∃ rest, value = slash :: rest := by
    cases value with
    | nil => simp [is_absolute] at habsolute
    | cons first rest => exact ⟨rest, by simpa [is_absolute] using habsolute⟩
  -- whatever separators lead, every textual test carries over to what follows them
  have hplain : ∀ lead body, slash :: rest = lead ++ slash :: body → ¬[slash] <+: body →
      ¬[slash, slash] <:+: body → Plain body := by
    intro lead body heq hstart hinside
    have hsuffix : slash :: body <:+ slash :: rest := ⟨lead, heq.symm⟩
    have hbody : body <:+ slash :: rest := (List.suffix_cons _ _).trans hsuffix
    refine plain_of_tests ?_ ?_ ⟨hstart, ?_⟩
      ⟨fun hend => hslash (hend.trans hbody), fun hend => hdot (hend.trans hbody)⟩
      ⟨hinside, fun hwithin => hinner (hwithin.trans hbody.isInfix)⟩
    · rintro rfl
      exact hslash hsuffix
    · rintro rfl
      exact hdot hsuffix
    · rintro ⟨tail, rfl⟩
      exact hinner (List.IsInfix.trans ⟨[], tail, by simp⟩ hsuffix.isInfix)
  by_cases hsecond : [slash] <+: rest
  · obtain ⟨body, rfl⟩ := hsecond
    refine ⟨body, hplain [slash] body rfl ?_ fun hwithin => hdouble (hwithin.trans (List.suffix_cons _ _).isInfix),
      ?_, .inr rfl⟩
    · rintro ⟨tail, rfl⟩
      exact hdouble ⟨[], tail, by simp⟩
    · rw [components_absolute]
      exact congrArg _ (names_append [] body)
  · refine ⟨rest, hplain [] rest rfl hsecond hdouble, components_absolute rest, .inl ⟨rfl, ?_⟩⟩
    rwa [List.cons_prefix_cons, and_iff_right rfl]

/-- A relative path has one spelling. So has a root, once it is known whether it starts with
two separators. What a definition promotes lies below its root and is not staged there. -/
theorem canonical_paths_spelled_once (value other : List UInt8) (definition : PromotionDefinition) :
    (is_canonical_absolute_root value → is_canonical_absolute_root other →
      components value = components other → (value = other ↔ ([slash, slash] <+: value ↔ [slash, slash] <+: other))) ∧
    (is_canonical_relative_path value → is_canonical_relative_path other →
      components value = components other → value = other) ∧
    (definition.is_invalid = false →
      (∃ below, below ≠ [] ∧ (∀ component ∈ below, component.is_normal) ∧
        components (join definition.allowed_root definition.repository) =
          components definition.allowed_root ++ below) ∧
      ¬components definition.allowed_root <+: components definition.staging_root) := by
  refine ⟨?_, ?_, ?_⟩
  · intro hvalue hother heq
    obtain ⟨body, hbody, hcomponents, hspelled⟩ := absolute_root_spelled hvalue
    obtain ⟨second, hsecond, hothers, hwritten⟩ := absolute_root_spelled hother
    obtain rfl : body = second := by
      rw [hcomponents, hothers, List.cons.injEq] at heq
      rw [← hbody.spelled, ← hsecond.spelled, heq.2]
    rcases hspelled with ⟨hvalue, hsingle⟩ | rfl <;> rcases hwritten with ⟨hother, hlone⟩ | rfl
    · simp [hvalue, hother]
    · simp_all
    · simp_all
    · simp
  · intro hvalue hother heq
    obtain ⟨hvalue, -⟩ := relative_path_plain hvalue
    obtain ⟨hother, -⟩ := relative_path_plain hother
    rw [← hvalue.spelled, ← hother.spelled, ← hvalue.components_eq, heq, hother.components_eq]
  · intro hvalid
    simp only [PromotionDefinition.is_invalid, Bool.or_eq_false_iff, Bool.not_eq_false', starts_with] at hvalid
    obtain ⟨⟨⟨⟨⟨⟨⟨hroot, hrepository⟩, -⟩, -⟩, hstaging⟩, -⟩, -⟩, -⟩ := hvalid
    obtain ⟨hplain, hnormal⟩ := relative_path_plain hrepository
    simp only [is_canonical_absolute_root, Bool.and_eq_true, decide_eq_true_eq] at hroot
    obtain ⟨⟨⟨⟨⟨⟨⟨habsolute, -⟩, hend⟩, -⟩, -⟩, -⟩, -⟩, -⟩ := hroot
    refine ⟨⟨components definition.repository, hplain.components_ne_nil, by simpa using hnormal,
      hplain.components_join habsolute hend⟩, fun hinside => ?_⟩
    simp [List.isPrefixOf_iff_prefix.mpr hinside] at hstaging

def sample_definition : PromotionDefinition :=
  { allowed_root := ascii "/srv/git", repository := ascii "agent/governor.git"
    reference := ascii "refs/heads/main", staging_root := ascii "/srv/stage", uid := 1000, gid := 1000
    promotion_ttl_ms := 60000 }

/-- A definition passes, and what it promotes lies two components below its root. -/
theorem definition_promotes_below_root : sample_definition.is_invalid = false ∧
    (∃ below, below.length = 2 ∧ (∀ component ∈ below, component.is_normal) ∧
      components (join sample_definition.allowed_root sample_definition.repository) =
        components sample_definition.allowed_root ++ below) ∧
    ¬components sample_definition.allowed_root <+: components sample_definition.staging_root := by
  obtain ⟨⟨below, _, hnormal, hjoin⟩, hstaging⟩ :=
    (canonical_paths_spelled_once [] [] sample_definition).2.2 (by decide +kernel)
  refine ⟨by decide +kernel, ⟨below, ?_, hnormal, hjoin⟩, hstaging⟩
  have hlength := congrArg List.length hjoin
  have hcounts : (components (join sample_definition.allowed_root sample_definition.repository)).length = 5 ∧
      (components sample_definition.allowed_root).length = 3 := by decide +kernel
  rw [List.length_append, hcounts.1, hcounts.2] at hlength
  omega

/-- `//a` and `/a` are both accepted. -/
theorem root_spelled_twice :
    is_canonical_absolute_root (ascii "//a") ∧ is_canonical_absolute_root (ascii "/a") ∧
      components (ascii "//a") = components (ascii "/a") ∧ ascii "//a" ≠ ascii "/a" := by
  decide

end ag_effect

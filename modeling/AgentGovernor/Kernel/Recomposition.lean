import AgentGovernor.Lib.Checked
import AgentGovernor.Primitives.Identity

open Checked ag_primitives

namespace ag_kernel

/-- A sequence that cannot be empty. -/
structure NonEmpty (A : Type) where
  head : A
  tail : List A

namespace NonEmpty

variable {A : Type} {values : List A} {value : NonEmpty A}

def iter (self : NonEmpty A) : List A :=
  self.head :: self.tail

def from_vec : List A → Option (NonEmpty A)
  | [] => none
  | head :: tail => some ⟨head, tail⟩

theorem from_vec_eq_some_iff : from_vec values = some value ↔ values = value.iter := by
  cases value
  cases values <;> simp [from_vec, iter]

theorem from_vec_eq_none_iff : from_vec values = none ↔ values = [] := by
  cases values <;> simp [from_vec]

end NonEmpty

/-- A total semantic decision. -/
inductive NativeJudgment (W R : Type) where
  | Admit (witness : W)
  | Refuse (refusal : R)

structure LocatedObstruction (O : Type) where
  edge_id : Digest
  obstruction : O

/-- The obstructions of a boundary, in order. -/
structure PathVerdict (O : Type) where
  obstructions : List (LocatedObstruction O)

def PathVerdict.is_clean {O : Type} (self : PathVerdict O) : Bool :=
  self.obstructions.isEmpty

structure BoundaryRequirement where
  boundary_id : Digest
  expected_slice_digest : Digest

inductive ManifestError where
  | Empty
  | DuplicateBoundary

/-- The required boundaries of a decomposed claim. Only `new` makes one. -/
structure BoundaryManifest where
  origin : LifecycleOrigin
  whole_claim_digest : Digest
  requirements : NonEmpty BoundaryRequirement
  distinct : requirements.iter.Pairwise fun requirement other => other.boundary_id ≠ requirement.boundary_id

def BoundaryManifest.new (origin : LifecycleOrigin) (whole_claim_digest : Digest)
    (requirements : List BoundaryRequirement) : Except ManifestError BoundaryManifest := do
  let requirements ← ok_or (NonEmpty.from_vec requirements) .Empty
  if distinct : requirements.iter.Pairwise fun requirement other => other.boundary_id ≠ requirement.boundary_id then
    pure ⟨origin, whole_claim_digest, requirements, distinct⟩
  else
    throw .DuplicateBoundary

/-- One evaluated slice presented for recomposition. -/
structure BoundarySlice (O : Type) where
  origin : LifecycleOrigin
  boundary_id : Digest
  slice_digest : Digest
  verdict : PathVerdict O

structure AccountedBoundary (O : Type) where
  boundary_id : Digest
  slice_digest : Digest
  verdict : PathVerdict O

structure RecompositionWitness (O : Type) where
  origin : LifecycleOrigin
  whole_claim_digest : Digest
  boundaries : NonEmpty (AccountedBoundary O)

/-- A laundering or boundary-obstruction failure. -/
inductive RecompositionFailure (O : Type) where
  | MissingBoundary (boundary_id : Digest)
  | DuplicateBoundary (boundary_id : Digest)
  | UnaccountedBoundary (boundary_id : Digest)
  | ForeignOrigin (boundary_id : Digest) (expected observed : LifecycleOrigin)
  | RewrittenSlice (boundary_id expected observed : Digest)
  | ObstructedBoundary (boundary_id : Digest) (obstructions : NonEmpty (LocatedObstruction O))

structure RecompositionRefusal (O : Type) where
  failures : NonEmpty (RecompositionFailure O)

open RecompositionFailure

section Recomposition

variable {O : Type} (manifest : BoundaryManifest) (slices : List (BoundarySlice O))

/-- What the first scan pushes for a slice. -/
def slice_failures (slice : BoundarySlice O) : List (RecompositionFailure O) :=
  (if ∃ required ∈ manifest.requirements.iter, required.boundary_id = slice.boundary_id then []
    else [UnaccountedBoundary slice.boundary_id]) ++
  if slice.origin ≠ manifest.origin then [ForeignOrigin slice.boundary_id manifest.origin slice.origin] else []

def matching_failures (requirement : BoundaryRequirement) (slice : BoundarySlice O) :
    List (RecompositionFailure O) :=
  (if slice.slice_digest ≠ requirement.expected_slice_digest then
    [RewrittenSlice requirement.boundary_id requirement.expected_slice_digest slice.slice_digest] else []) ++
  if slice.verdict.is_clean then []
  else ((NonEmpty.from_vec slice.verdict.obstructions).map (ObstructedBoundary requirement.boundary_id)).toList

/-- What the second scan pushes for a required boundary. -/
def requirement_failures (requirement : BoundaryRequirement) : List (RecompositionFailure O) :=
  let matching := slices.filter (·.boundary_id = requirement.boundary_id)
  if matching = [] then [MissingBoundary requirement.boundary_id]
  else (if matching.length > 1 then [DuplicateBoundary requirement.boundary_id] else []) ++
    matching.flatMap (matching_failures requirement)

def failures : List (RecompositionFailure O) :=
  slices.flatMap (slice_failures manifest) ++ manifest.requirements.iter.flatMap (requirement_failures slices)

def account (required : BoundaryRequirement) : Except (RecompositionFailure O) (AccountedBoundary O) := do
  let slice ← ok_or (slices.find? (·.boundary_id = required.boundary_id)) (MissingBoundary required.boundary_id)
  pure ⟨slice.boundary_id, slice.slice_digest, slice.verdict⟩

def recompose : NativeJudgment (RecompositionWitness O) (RecompositionRefusal O) :=
  match NonEmpty.from_vec (failures manifest slices) with
  | some failures => .Refuse ⟨failures⟩
  | none =>
    match manifest.requirements.iter.mapM (account slices) with
    | .error failure => .Refuse ⟨⟨failure, []⟩⟩
    | .ok boundaries =>
      match NonEmpty.from_vec boundaries with
      | none => .Refuse ⟨⟨MissingBoundary manifest.requirements.head.boundary_id, []⟩⟩
      | some boundaries => .Admit ⟨manifest.origin, manifest.whole_claim_digest, boundaries⟩

def BoundaryManifest.boundary_ids : List Digest :=
  manifest.requirements.iter.map BoundaryRequirement.boundary_id

/-- The slice that accounts for a requirement. -/
def BoundaryManifest.clean_slice (O : Type) (required : BoundaryRequirement) : BoundarySlice O :=
  ⟨manifest.origin, required.boundary_id, required.expected_slice_digest, ⟨[]⟩⟩

/-- The failure is one of the manifest and the slices. -/
def RecompositionFailure.Applies : RecompositionFailure O → Prop
  | MissingBoundary boundary_id =>
    boundary_id ∈ manifest.boundary_ids ∧ boundary_id ∉ slices.map BoundarySlice.boundary_id
  | DuplicateBoundary boundary_id =>
    boundary_id ∈ manifest.boundary_ids ∧ 1 < (slices.map BoundarySlice.boundary_id).count boundary_id
  | UnaccountedBoundary boundary_id =>
    boundary_id ∈ slices.map BoundarySlice.boundary_id ∧ boundary_id ∉ manifest.boundary_ids
  | ForeignOrigin boundary_id expected observed => expected = manifest.origin ∧ observed ≠ expected ∧
    ∃ slice ∈ slices, slice.boundary_id = boundary_id ∧ slice.origin = observed
  | RewrittenSlice boundary_id expected observed => ⟨boundary_id, expected⟩ ∈ manifest.requirements.iter ∧
    observed ≠ expected ∧ ∃ slice ∈ slices, slice.boundary_id = boundary_id ∧ slice.slice_digest = observed
  | ObstructedBoundary boundary_id obstructions => boundary_id ∈ manifest.boundary_ids ∧
    ∃ slice ∈ slices, slice.boundary_id = boundary_id ∧ slice.verdict.obstructions = obstructions.iter

variable {manifest slices} {failure : RecompositionFailure O}

theorem mem_requirement_failures_iff {requirement : BoundaryRequirement} :
    failure ∈ requirement_failures slices requirement ↔
      (failure = MissingBoundary requirement.boundary_id ∧
        requirement.boundary_id ∉ slices.map BoundarySlice.boundary_id) ∨
      (failure = DuplicateBoundary requirement.boundary_id ∧
        1 < (slices.map BoundarySlice.boundary_id).count requirement.boundary_id) ∨
      ∃ slice ∈ slices, slice.boundary_id = requirement.boundary_id ∧
        failure ∈ matching_failures requirement slice := by
  have hlength : (slices.filter (·.boundary_id = requirement.boundary_id)).length =
      (slices.map BoundarySlice.boundary_id).count requirement.boundary_id := by
    rw [List.count_eq_countP, List.countP_map, List.countP_eq_length_filter]
    rfl
  rw [requirement_failures, ← hlength]
  split
  · next hnone =>
    rw [hnone] at hlength ⊢
    simp_all
    grind
  · simp_all
    grind

theorem mem_failures_iff : failure ∈ failures manifest slices ↔ failure.Applies manifest slices := by
  simp only [failures, List.mem_append, List.mem_flatMap, mem_requirement_failures_iff]
  cases failure with
  | ObstructedBoundary boundary_id obstructions =>
    have hobstructed : ∀ slice : BoundarySlice O, slice.verdict.obstructions = obstructions.iter →
        slice.verdict.is_clean = false := by
      intro slice hslice
      rw [PathVerdict.is_clean, hslice]
      rfl
    simp [slice_failures, matching_failures, Applies, BoundaryManifest.boundary_ids, NonEmpty.from_vec_eq_some_iff]
    grind
  | RewrittenSlice boundary_id expected observed =>
    simp [slice_failures, matching_failures, Applies]
    constructor
    · rintro ⟨⟨_, _⟩, hrequired, slice, hslice, hid, hdigest, rfl, rfl, rfl⟩
      exact ⟨hrequired, hdigest, slice, hslice, hid, rfl⟩
    · rintro ⟨hrequired, hdigest, slice, hslice, hid, rfl⟩
      exact ⟨_, hrequired, slice, hslice, hid, hdigest, rfl, rfl, rfl⟩
  | _ =>
    simp [slice_failures, matching_failures, Applies, BoundaryManifest.boundary_ids]
    grind

theorem BoundaryManifest.ids_nodup : manifest.boundary_ids.Nodup :=
  List.pairwise_map.mpr (manifest.distinct.imp Ne.symm)

/-- A slice that no failure is about accounts for its requirement. -/
theorem clean_of_no_failure (h : ∀ failure : RecompositionFailure O, ¬ failure.Applies manifest slices)
    {slice : BoundarySlice O} (hslice : slice ∈ slices) :
    ∃ required ∈ manifest.requirements.iter, manifest.clean_slice O required = slice := by
  have hid := not_not.mp (not_and.mp (h (UnaccountedBoundary _)) (List.mem_map_of_mem hslice))
  obtain ⟨required, hrequired, hid⟩ := List.mem_map.mp hid
  refine ⟨required, hrequired, ?_⟩
  obtain ⟨origin, boundary_id, slice_digest, ⟨obstructions⟩⟩ := slice
  obtain rfl : manifest.origin = origin := by
    by_contra hforeign
    exact h (ForeignOrigin _ _ _) ⟨rfl, Ne.symm hforeign, _, hslice, rfl, rfl⟩
  obtain rfl : required.expected_slice_digest = slice_digest := by
    by_contra hrewritten
    exact h (RewrittenSlice _ _ _) ⟨hrequired, Ne.symm hrewritten, _, hslice, hid.symm, rfl⟩
  cases obstructions with
  | nil => rw [BoundaryManifest.clean_slice, hid]
  | cons first rest =>
    exact absurd ⟨List.mem_map.mpr ⟨required, hrequired, hid⟩, _, hslice, rfl, rfl⟩
      (h (ObstructedBoundary boundary_id ⟨first, rest⟩))

theorem failures_eq_nil_iff :
    failures manifest slices = [] ↔ slices.Perm (manifest.requirements.iter.map (manifest.clean_slice O)) := by
  have hids : ((manifest.requirements.iter.map (manifest.clean_slice O)).map BoundarySlice.boundary_id) =
      manifest.boundary_ids := by rw [List.map_map]; rfl
  simp only [List.eq_nil_iff_forall_not_mem, mem_failures_iff]
  constructor
  · intro h
    have hnodup : (slices.map BoundarySlice.boundary_id).Nodup := by
      refine List.nodup_iff_count_le_one.mpr fun boundary_id => not_lt.mp fun hmany => ?_
      have hpresented := List.count_pos_iff.mp (Nat.lt_of_succ_lt hmany)
      exact h (DuplicateBoundary _) ⟨not_not.mp (not_and.mp (h (UnaccountedBoundary _)) hpresented), hmany⟩
    refine (List.perm_ext_iff_of_nodup (.of_map _ hnodup) (.of_map _ (hids ▸ manifest.ids_nodup))).mpr fun slice =>
      ⟨fun hslice => List.mem_map.mpr (clean_of_no_failure h hslice), fun hslice => ?_⟩
    obtain ⟨required, hrequired, rfl⟩ := List.mem_map.mp hslice
    have hpresented := not_not.mp (not_and.mp (h (MissingBoundary _)) (List.mem_map_of_mem hrequired))
    obtain ⟨slice, hslice, hid⟩ := List.mem_map.mp hpresented
    obtain ⟨other, hother, rfl⟩ := clean_of_no_failure h hslice
    rwa [← List.inj_on_of_nodup_map manifest.ids_nodup hother hrequired hid]
  · intro hperm failure
    have hpresented : (slices.map BoundarySlice.boundary_id).Perm manifest.boundary_ids := hids ▸ hperm.map _
    have hclean : ∀ slice ∈ slices, ∃ required ∈ manifest.requirements.iter, manifest.clean_slice O required = slice :=
      fun slice hslice => List.mem_map.mp (hperm.mem_iff.mp hslice)
    cases failure with
    | MissingBoundary | UnaccountedBoundary => simp [Applies, hpresented.mem_iff]
    | DuplicateBoundary boundary_id =>
      rintro ⟨_, hmany⟩
      rw [hpresented.count_eq] at hmany
      exact absurd (List.nodup_iff_count_le_one.mp manifest.ids_nodup boundary_id) (not_le.mpr hmany)
    | ForeignOrigin =>
      rintro ⟨rfl, hforeign, slice, hslice, _, rfl⟩
      obtain ⟨required, _, rfl⟩ := hclean slice hslice
      exact hforeign rfl
    | RewrittenSlice =>
      rintro ⟨hrequired, hrewritten, slice, hslice, hid, rfl⟩
      obtain ⟨other, hother, rfl⟩ := hclean slice hslice
      exact hrewritten (congrArg BoundaryRequirement.expected_slice_digest
        (List.inj_on_of_nodup_map manifest.ids_nodup hother hrequired hid))
    | ObstructedBoundary =>
      rintro ⟨_, slice, hslice, _, hobstructed⟩
      obtain ⟨required, _, rfl⟩ := hclean slice hslice
      cases hobstructed

/-- What a manifest lists for a requirement when nothing fails. -/
def AccountedBoundary.of (O : Type) (required : BoundaryRequirement) : AccountedBoundary O :=
  ⟨required.boundary_id, required.expected_slice_digest, ⟨[]⟩⟩

theorem recompose_of_perm (hperm : slices.Perm (manifest.requirements.iter.map (manifest.clean_slice O))) :
    recompose manifest slices = .Admit ⟨manifest.origin, manifest.whole_claim_digest,
      ⟨.of O manifest.requirements.head, manifest.requirements.tail.map (.of O)⟩⟩ := by
  have haccounted : manifest.requirements.iter.mapM (account slices) =
      .ok (manifest.requirements.iter.map (.of O)) := by
    rw [mapM_eq_ok_iff, List.forall₂_map_right_iff, List.forall₂_same]
    intro required hrequired
    simp only [account, ok_rules]
    refine ⟨manifest.clean_slice O required, ?_, rfl⟩
    cases hfound : slices.find? (·.boundary_id = required.boundary_id) with
    | none =>
      have hmissing := List.find?_eq_none.mp hfound _ (hperm.mem_iff.mpr (List.mem_map_of_mem hrequired))
      exact absurd (decide_eq_true rfl) hmissing
    | some slice =>
      obtain ⟨other, hother, rfl⟩ := List.mem_map.mp (hperm.mem_iff.mp (List.mem_of_find?_eq_some hfound))
      have hid := List.find?_some hfound
      rw [decide_eq_true_eq] at hid
      rw [List.inj_on_of_nodup_map manifest.ids_nodup hother hrequired hid]
  rw [recompose, failures_eq_nil_iff.mpr hperm]
  simp only [NonEmpty.from_vec, haccounted]
  rfl

/-- A manifest admits exactly one clean slice for each of its requirements, in any order,
and lists them in its own; otherwise it refuses with all and only the failures that
apply. -/
theorem recompose_accounts (manifest : BoundaryManifest) (slices : List (BoundarySlice O)) :
    ((∃ witness, recompose manifest slices = .Admit witness) ↔
      slices.Perm (manifest.requirements.iter.map (manifest.clean_slice O))) ∧
    (∀ witness, recompose manifest slices = .Admit witness →
      witness.boundaries.iter = manifest.requirements.iter.map (.of O) ∧
      ∀ reordered : List (BoundarySlice O), reordered.Perm slices → recompose manifest reordered = .Admit witness) ∧
    ∀ refusal, recompose manifest slices = .Refuse refusal →
      ∀ failure, failure ∈ refusal.failures.iter ↔ failure.Applies manifest slices := by
  by_cases hperm : slices.Perm (manifest.requirements.iter.map (manifest.clean_slice O))
  · have hwitness := recompose_of_perm hperm
    refine ⟨iff_of_true ⟨_, hwitness⟩ hperm, fun witness h => ?_, fun refusal h => ?_⟩
    · obtain rfl := NativeJudgment.Admit.inj (hwitness.symm.trans h)
      exact ⟨rfl, fun reordered hreordered => recompose_of_perm (hreordered.trans hperm)⟩
    · cases hwitness.symm.trans h
  · cases hfailures : NonEmpty.from_vec (failures manifest slices) with
    | none => exact absurd (failures_eq_nil_iff.mp (NonEmpty.from_vec_eq_none_iff.mp hfailures)) hperm
    | some refused =>
      have hrefuse : recompose manifest slices = .Refuse ⟨refused⟩ := by rw [recompose, hfailures]
      refine ⟨iff_of_false ?_ hperm, fun witness h => ?_, fun refusal h failure => ?_⟩
      · rintro ⟨witness, h⟩
        cases hrefuse.symm.trans h
      · cases hrefuse.symm.trans h
      · obtain rfl := NativeJudgment.Refuse.inj (hrefuse.symm.trans h)
        rw [← mem_failures_iff, NonEmpty.from_vec_eq_some_iff.mp hfailures]

end Recomposition

end ag_kernel

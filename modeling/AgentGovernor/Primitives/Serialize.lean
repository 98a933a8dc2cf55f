import AgentGovernor.Primitives.Digest

namespace ag_primitives

/-- The canonical document a value serializes to. -/
class Serialize (A : Type) where
  to_jcs : A → Jcs

export Serialize (to_jcs)

/-- Distinct values have distinct documents. -/
class InjectiveSerialize (A : Type) [Serialize A] : Prop where
  injective : Function.Injective (to_jcs : A → Jcs)

/-- No value serializes to `null`, so an absent value can be told apart. -/
class NonNullSerialize (A : Type) [Serialize A] : Prop where
  ne_null : ∀ value : A, to_jcs value ≠ Jcs.null

/-- A value is told apart by its document when its serializer is injective, as it is when
the tag and each of the fields are told apart by their own. -/
theorem InjectiveSerialize.of_serialize {A : Type} {serialize : A → Jcs}
    (h : ∀ left right, serialize left = serialize right → left = right := by
      rintro ⟨⟩ ⟨⟩ h <;> simp_all) : @InjectiveSerialize A ⟨serialize⟩ :=
  @InjectiveSerialize.mk A ⟨serialize⟩ h

@[simp] theorem to_jcs_inj {A : Type} [Serialize A] [InjectiveSerialize A] {left right : A} :
    to_jcs left = to_jcs right ↔ left = right :=
  InjectiveSerialize.injective.eq_iff

instance : Serialize Digest := ⟨.digest⟩
instance : Serialize String := ⟨.str⟩
instance : Serialize UInt32 := ⟨fun value => .num value.toNat⟩
instance : Serialize UInt64 := ⟨fun value => .num value.toNat⟩
instance : Serialize Nat := ⟨.num⟩

instance : Serialize Int where
  to_jcs
    | .ofNat value => .num value
    | .negSucc value => .neg value

instance : Serialize Int64 := ⟨fun value => to_jcs value.toInt⟩

/-- `Option`: an absent value is `null`. -/
instance {A : Type} [Serialize A] : Serialize (Option A) where
  to_jcs
    | none => .null
    | some value => to_jcs value

/-- `Vec`: an array in element order. -/
instance {A : Type} [Serialize A] : Serialize (List A) := ⟨fun values => .arr (values.map to_jcs)⟩

/-- `BTreeSet`: an array in ascending order. -/
instance {A : Type} [Serialize A] [LinearOrder A] : Serialize (Finset A) :=
  ⟨fun values => .arr ((values.sort (· ≤ ·)).map to_jcs)⟩

/-- A pair is an array of two. -/
instance {A B : Type} [Serialize A] [Serialize B] : Serialize (A × B) :=
  ⟨fun pair => .arr [to_jcs pair.1, to_jcs pair.2]⟩

instance : InjectiveSerialize Digest := ⟨fun _ _ h => by simpa [to_jcs] using h⟩
instance : InjectiveSerialize String := ⟨fun _ _ h => by simpa [to_jcs] using h⟩
instance : InjectiveSerialize UInt32 := ⟨fun _ _ h => UInt32.toNat_inj.mp (by simpa [to_jcs] using h)⟩
instance : InjectiveSerialize UInt64 := ⟨fun _ _ h => UInt64.toNat_inj.mp (by simpa [to_jcs] using h)⟩

instance : InjectiveSerialize Nat := ⟨fun _ _ h => by simpa [to_jcs] using h⟩

instance : InjectiveSerialize Int := ⟨fun left right h => by
  cases left <;> cases right <;> simp_all [to_jcs]⟩

instance : InjectiveSerialize Int64 := ⟨fun _ _ h => Int64.toInt_inj.mp (InjectiveSerialize.injective h)⟩

instance : NonNullSerialize Digest := ⟨fun _ h => by simp [to_jcs] at h⟩
instance : NonNullSerialize String := ⟨fun _ h => by simp [to_jcs] at h⟩

instance {A : Type} [Serialize A] [InjectiveSerialize A] [NonNullSerialize A] :
    InjectiveSerialize (Option A) where
  injective left right h := by
    cases left with
    | none =>
      cases right with
      | none => rfl
      | some value => exact absurd h.symm (NonNullSerialize.ne_null value)
    | some value =>
      cases right with
      | none => exact absurd h (NonNullSerialize.ne_null value)
      | some other => exact congrArg some (InjectiveSerialize.injective h)

instance {A : Type} [Serialize A] [InjectiveSerialize A] : InjectiveSerialize (List A) where
  injective left right h := by
    have hmap : left.map to_jcs = right.map to_jcs := by simpa [to_jcs] using h
    exact List.map_injective_iff.mpr InjectiveSerialize.injective hmap

instance {A : Type} [Serialize A] [InjectiveSerialize A] [LinearOrder A] :
    InjectiveSerialize (Finset A) where
  injective left right h := by
    have hmap : (left.sort (· ≤ ·)).map to_jcs = (right.sort (· ≤ ·)).map to_jcs := by
      simpa only [to_jcs, Jcs.arr.injEq] using h
    have hsort := List.map_injective_iff.mpr InjectiveSerialize.injective hmap
    rw [← Finset.sort_toFinset left (· ≤ ·), ← Finset.sort_toFinset right (· ≤ ·), hsort]

/-- Digest of a value's canonical document. -/
def Digest.from_serializable {A : Type} [Serialize A] (sha : Sha256) (value : A) : Digest :=
  Digest.hash_bytes sha (.jcs (to_jcs value))

/-- Domain-separated digest of a value's canonical document. -/
def digest_value {A : Type} [Serialize A] (sha : Sha256) (domain : String) (value : A) : Digest :=
  Digest.hash_domain sha domain (.jcs (to_jcs value))

/-- Under collision freedom the digest of a value determines the value. -/
theorem digest_value_inj {A : Type} [Serialize A] [InjectiveSerialize A] {sha : Sha256}
    (hsha : sha.CollisionFree) {domain : String} {left right : A} :
    digest_value sha domain left = digest_value sha domain right ↔ left = right := by
  simp [digest_value, Digest.hash_domain_inj hsha]

end ag_primitives

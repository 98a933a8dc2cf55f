import AgentGovernor.Primitives.IdealHash

namespace ag_primitives

/-- The integers up to here have a double of their own. -/
def EXACT_MAX : Nat := 2 ^ 53

/-- The double nearest to an integer, a tie to the even significand. -/
def f64 (value : Nat) : Nat :=
  let unit := 2 ^ (value.log2 - 52)
  let significand := value / unit
  let rest := value % unit
  if 2 * rest < unit ∨ 2 * rest = unit ∧ significand % 2 = 0 then significand * unit
  else (significand + 1) * unit

theorem f64_of_le {value : Nat} (h : value ≤ EXACT_MAX) : f64 value = value := by
  rcases Nat.lt_or_eq_of_le h with hlt | rfl
  · have hlog : value.log2 - 52 = 0 := by
      by_cases hzero : value = 0
      · rw [hzero]
        rfl
      · exact Nat.sub_eq_zero_of_le (Nat.le_of_lt_succ ((Nat.log2_lt hzero).mpr hlt))
    simp [f64, hlog, Nat.mod_one]
  · decide +kernel

namespace Jcs

mutual

/-- The document with each integer as it is written. `serde_jcs` writes a number through
an `f64`, so what reaches the hash depends on the double only. -/
def written : Jcs → Jcs
  | num value => num (f64 value)
  | neg value => neg (f64 (value + 1) - 1)
  | arr items => arr (written_items items)
  | obj members => obj (written_members members)
  | null => null
  | bool value => bool value
  | str value => str value
  | digest value => digest value
  | uuid value => uuid value

def written_items : List Jcs → List Jcs
  | [] => []
  | item :: rest => item.written :: written_items rest

def written_members : List (String × Jcs) → List (String × Jcs)
  | [] => []
  | (name, item) :: rest => (name, item.written) :: written_members rest

end

mutual

/-- Every integer of the document has a double of its own. -/
@[simp] def Exact : Jcs → Prop
  | num value => value ≤ EXACT_MAX
  | neg value => value + 1 ≤ EXACT_MAX
  | arr items => ExactItems items
  | obj members => ExactMembers members
  | null | bool _ | str _ | digest _ | uuid _ => True

@[simp] def ExactItems : List Jcs → Prop
  | [] => True
  | item :: rest => item.Exact ∧ ExactItems rest

@[simp] def ExactMembers : List (String × Jcs) → Prop
  | [] => True
  | (_, item) :: rest => item.Exact ∧ ExactMembers rest

end

mutual

theorem written_of_exact : ∀ document : Jcs, document.Exact → document.written = document
  | num _, h => congrArg num (f64_of_le h)
  | neg value, h => by rw [written, f64_of_le h, Nat.add_sub_cancel]
  | arr items, h => congrArg arr (written_items_of_exact items h)
  | obj members, h => congrArg obj (written_members_of_exact members h)
  | null, _ | bool _, _ | str _, _ | digest _, _ | uuid _, _ => rfl

theorem written_items_of_exact : ∀ items : List Jcs, ExactItems items → written_items items = items
  | [], _ => rfl
  | item :: rest, h => by rw [written_items, written_of_exact item h.1, written_items_of_exact rest h.2]

theorem written_members_of_exact : ∀ members : List (String × Jcs), ExactMembers members →
    written_members members = members
  | [], _ => rfl
  | (name, item) :: rest, h => by
    rw [written_members, written_of_exact item h.1, written_members_of_exact rest h.2]

end

mutual

/-- Every integer, as it is written, fits 64 bits. -/
@[simp] def integral : Jcs → Bool
  | num value => f64 value < 2 ^ 64
  | neg value => f64 (value + 1) < 2 ^ 63
  | arr items => integral_items items
  | obj members => integral_members members
  | null | bool _ | str _ | digest _ | uuid _ => true

@[simp] def integral_items : List Jcs → Bool
  | [] => true
  | item :: rest => item.integral && integral_items rest

@[simp] def integral_members : List (String × Jcs) → Bool
  | [] => true
  | (_, item) :: rest => item.integral && integral_members rest

end

end Jcs

/-- `JcsError::Parse`. -/
structure JcsError where
  detail : String

def JcsError.to_string (error : JcsError) : String :=
  "strict JSON parse failed: " ++ error.detail

/-- The document of a value. What is written is read again by the strict reader, which takes
an integer beyond 64 bits for a float; it adds the position to its message. -/
def JcsDocument.canonicalize {A : Type} [Serialize A] (value : A) : Except JcsError Jcs :=
  if (to_jcs value).integral then .ok (to_jcs value) else .error ⟨"floating-point JSON values are forbidden"⟩

def Payload.written : Payload → Payload
  | .text value => .text value
  | .jcs document => .jcs document.written
  | .labelled label document => .labelled label document.written

def Preimage.written : Preimage → Preimage
  | .plain payload => .plain payload.written
  | .framed domain payload => .framed domain payload.written

/-- The digest functions over the bytes that are written. -/
def Sha256.over_jcs (sha : Sha256) : Sha256 where
  digest preimage := sha.digest preimage.written

/-- What is written of two exact values tells them apart. -/
theorem digest_value_over_jcs_inj {A : Type} [Serialize A] [InjectiveSerialize A] {sha : Sha256}
    (hsha : sha.CollisionFree) {domain : String} {left right : A} (hleft : (to_jcs left).Exact)
    (hright : (to_jcs right).Exact) :
    digest_value sha.over_jcs domain left = digest_value sha.over_jcs domain right ↔ left = right := by
  refine ⟨fun h => ?_, fun h => by rw [h]⟩
  have hwritten := hsha h
  simp only [Preimage.written, Payload.written, Jcs.written_of_exact _ hleft, Jcs.written_of_exact _ hright,
    Preimage.framed.injEq, Payload.jcs.injEq, true_and] at hwritten
  exact to_jcs_inj.mp hwritten

end ag_primitives

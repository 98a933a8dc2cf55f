import AgentGovernor.Primitives.Serialize
import Mathlib.Data.Nat.Digits.Lemmas
import Mathlib.Data.Nat.Pairing
import Mathlib.Logic.Equiv.List

namespace ag_primitives

/-- A number that determines the text. -/
def text_code (text : String) : Nat :=
  Encodable.encode (text.toList.map Char.toNat)

theorem text_code_injective : Function.Injective text_code := by
  intro left right h
  have hmap := Encodable.encode_injective h
  have hchar : Function.Injective Char.toNat := fun _ _ hnat => Char.toNat_inj.mp hnat
  exact String.toList_inj.mp (List.map_injective_iff.mpr hchar hmap)

namespace Jcs

mutual

/-- A number that determines the document. -/
def code : Jcs → Nat
  | null => Nat.pair 0 0
  | bool value => Nat.pair 1 value.toNat
  | num value => Nat.pair 2 value
  | str value => Nat.pair 3 (text_code value)
  | digest value => Nat.pair 4 (Encodable.encode value.hex)
  | uuid value => Nat.pair 5 value.toNat
  | arr items => Nat.pair 6 (code_items items)
  | obj members => Nat.pair 7 (code_members members)
  | neg value => Nat.pair 8 value

def code_items : List Jcs → Nat
  | [] => 0
  | item :: rest => Nat.pair (code item) (code_items rest) + 1

def code_members : List (String × Jcs) → Nat
  | [] => 0
  | (name, item) :: rest =>
    Nat.pair (text_code name) (Nat.pair (code item) (code_members rest)) + 1

end

mutual

theorem code_inj : ∀ left right : Jcs, left.code = right.code → left = right
  | null, right, h => by cases right <;> simp_all [code, Nat.pair_eq_pair]
  | bool value, right, h => by
    cases right with
    | bool other => cases value <;> cases other <;> simp_all [code, Nat.pair_eq_pair]
    | _ => simp [code, Nat.pair_eq_pair] at h
  | num value, right, h => by cases right <;> simp_all [code, Nat.pair_eq_pair]
  | neg value, right, h => by cases right <;> simp_all [code, Nat.pair_eq_pair]
  | str value, right, h => by
    cases right <;> simp_all [code, Nat.pair_eq_pair, text_code_injective.eq_iff]
  | digest value, right, h => by
    cases right <;> simp_all [code, Nat.pair_eq_pair, Digest.hex_injective.eq_iff]
  | uuid value, right, h => by
    cases right <;> simp_all [code, Nat.pair_eq_pair, BitVec.toNat_inj]
  | arr items, right, h => by
    cases right with
    | arr other => exact congrArg arr (code_items_inj items other (by simpa [code, Nat.pair_eq_pair] using h))
    | _ => simp [code, Nat.pair_eq_pair] at h
  | obj members, right, h => by
    cases right with
    | obj other =>
      exact congrArg obj (code_members_inj members other (by simpa [code, Nat.pair_eq_pair] using h))
    | _ => simp [code, Nat.pair_eq_pair] at h

theorem code_items_inj : ∀ left right : List Jcs, code_items left = code_items right → left = right
  | [], right, h => by cases right <;> simp_all [code_items]
  | item :: rest, right, h => by
    cases right with
    | nil => simp [code_items] at h
    | cons other more =>
      simp only [code_items, Nat.add_right_cancel_iff, Nat.pair_eq_pair] at h
      rw [code_inj item other h.1, code_items_inj rest more h.2]

theorem code_members_inj : ∀ left right : List (String × Jcs),
    code_members left = code_members right → left = right
  | [], right, h => by
    cases right with
    | nil => rfl
    | cons other more => obtain ⟨name, item⟩ := other; simp [code_members] at h
  | (name, item) :: rest, right, h => by
    cases right with
    | nil => simp [code_members] at h
    | cons other more =>
      obtain ⟨name', item'⟩ := other
      simp only [code_members, Nat.add_right_cancel_iff, Nat.pair_eq_pair] at h
      rw [text_code_injective h.1, code_inj item item' h.2.1, code_members_inj rest more h.2.2]

end

end Jcs

def Payload.code : Payload → Nat
  | .text value => Nat.pair 0 (text_code value)
  | .jcs document => Nat.pair 1 document.code
  | .labelled label document => Nat.pair 2 (Nat.pair (text_code label) document.code)

theorem Payload.code_injective : Function.Injective Payload.code := by
  intro left right h
  cases left <;> cases right <;> simp_all [Payload.code, Nat.pair_eq_pair, text_code_injective.eq_iff]
  · exact Jcs.code_inj _ _ h
  · exact Jcs.code_inj _ _ h.2

def Preimage.code : Preimage → Nat
  | .plain payload => Nat.pair 0 payload.code
  | .framed domain payload => Nat.pair 1 (Nat.pair (text_code domain) payload.code)

theorem Preimage.code_injective : Function.Injective Preimage.code := by
  intro left right h
  cases left <;> cases right <;>
    simp_all [Preimage.code, Nat.pair_eq_pair, text_code_injective.eq_iff, Payload.code_injective.eq_iff]

/-- The hexadecimal digits of a number. -/
def hex_digits (value : Nat) : List (Fin 16) :=
  (Nat.digits 16 value).map fun digit => ⟨digit % 16, Nat.mod_lt digit (Nat.succ_pos 15)⟩

theorem hex_digits_injective : Function.Injective hex_digits := by
  intro left right h
  have hval : ∀ value, (hex_digits value).map Fin.val = Nat.digits 16 value := by
    intro value
    rw [hex_digits, List.map_map]
    refine (List.map_congr_left fun digit hmem => ?_).trans (List.map_id _)
    exact Nat.mod_eq_of_lt (Nat.digits_lt_base (by decide) hmem)
  rw [← Nat.digits_inj_iff (b := 16), ← hval, ← hval, h]

/-- A collision-free hash: the code of the preimage in hexadecimal. -/
def ideal_sha : Sha256 where
  digest preimage := ⟨hex_digits preimage.code⟩

/-- Collision freedom is satisfiable. -/
theorem ideal_sha_collision_free : ideal_sha.CollisionFree := by
  intro left right h
  exact Preimage.code_injective (hex_digits_injective (congrArg Digest.hex h))

end ag_primitives

import AgentGovernor.Primitives.CanonicalText

namespace ag_primitives

/-- The hexadecimal digits of a UUID, the highest first. -/
def uuid_digits (value : BitVec 128) : List (Fin 16) :=
  (List.range 32).map fun place => low_digit (value.toNat / 16 ^ (31 - place))

/-- Reads the hyphenated lowercase text of a UUID and no other. -/
def read_uuid (text : String) : Option (BitVec 128) := do
  let digits ← (text.toList.filter (· ≠ '-')).mapM Digest.hex_digit
  let value := BitVec.ofNat 128 (digits.foldl (fun value digit => 16 * value + digit.val) 0)
  if uuid_text value = text.toList then some value else none

theorem uuid_text_digits (value : BitVec 128) :
    (uuid_text value).filter (· ≠ '-') = (uuid_digits value).map Digest.hex_char := by
  have hplain : ∀ digits : List (Fin 16),
      (digits.map Digest.hex_char).filter (· ≠ '-') = digits.map Digest.hex_char := by
    intro digits
    refine List.filter_eq_self.mpr fun character hmem => ?_
    obtain ⟨digit, _, rfl⟩ := List.mem_map.mp hmem
    have hchar : ∀ digit, decide (Digest.hex_char digit ≠ '-') = true := by decide
    exact hchar digit
  have hmap : (List.range 32).map (fun place => Digest.hex_char (low_digit (value.toNat / 16 ^ (31 - place)))) =
      (uuid_digits value).map Digest.hex_char := by
    rw [uuid_digits, List.map_map]
    rfl
  rw [uuid_text, hmap]
  simp only [← List.map_take, ← List.map_drop, List.filter_append, List.filter_cons, hplain]
  simp only [ne_eq, not_true_eq_false, decide_false, Bool.false_eq_true, if_false, ← List.map_append]
  congr 1

theorem foldl_uuid_digits (value : BitVec 128) :
    (uuid_digits value).foldl (fun value digit => 16 * value + digit.val) 0 = value.toNat := by
  -- the digits read so far are the high part of the number
  have hhigh : ∀ count ≤ 32, ((List.range count).map fun place =>
      low_digit (value.toNat / 16 ^ (31 - place))).foldl (fun value digit => 16 * value + digit.val) 0 =
        value.toNat / 16 ^ (32 - count) % 16 ^ count := by
    intro count hcount
    induction count with
    | zero => simp [Nat.mod_one]
    | succ count ih =>
      have hstep : 32 - count = 31 - count + 1 ∧ 32 - (count + 1) = 31 - count := by omega
      rw [List.range_succ, List.map_append, List.foldl_append, ih (by omega), hstep.1, hstep.2, Nat.pow_succ,
        ← Nat.div_div_eq_div_mul, Nat.pow_succ', Nat.mod_mul]
      simp only [List.map_singleton, List.foldl_cons, List.foldl_nil, low_digit]
      omega
  rw [uuid_digits, hhigh 32 le_rfl]
  simpa using Nat.mod_eq_of_lt value.isLt

/-- The reader inverts the text. -/
theorem read_uuid_text (value : BitVec 128) : read_uuid (String.ofList (uuid_text value)) = some value := by
  simp only [read_uuid, String.toList_ofList, uuid_text_digits, Digest.mapM_hex_digit_map]
  simp [foldl_uuid_digits]

theorem separator_not_mem_uuid_text (value : BitVec 128) : '/' ∉ uuid_text value := by
  intro hmem
  have hdigit : '/' ∈ (uuid_text value).filter (· ≠ '-') := List.mem_filter.mpr ⟨hmem, rfl⟩
  rw [uuid_text_digits] at hdigit
  obtain ⟨digit, _, hchar⟩ := List.mem_map.mp hdigit
  have hnever : ∀ digit, Digest.hex_char digit ≠ '/' := by decide
  exact hnever digit hchar

end ag_primitives

import AgentGovernor.Primitives.Serialize
import Mathlib.Data.Nat.Digits.Lemmas

namespace ag_primitives

theorem mod_sixteen_lt (value : Nat) : value % 16 < 16 :=
  Nat.mod_lt value (Nat.succ_pos 15)

/-- The last hexadecimal digit of a number. -/
def low_digit (value : Nat) : Fin 16 :=
  ⟨value % 16, mod_sixteen_lt value⟩

/-- How a character is written inside a string of a canonical document. -/
def escaped (character : Char) : List Char :=
  let code := character.toNat
  if code = 0x22 ∨ code = 0x5C then ['\\', character]
  else if code = 8 then ['\\', 'b']
  else if code = 9 then ['\\', 't']
  else if code = 10 then ['\\', 'n']
  else if code = 12 then ['\\', 'f']
  else if code = 13 then ['\\', 'r']
  else if code < 32 then
    ['\\', 'u', '0', '0', Digest.hex_char (low_digit (code / 16)), Digest.hex_char (low_digit code)]
  else [character]

def quoted (text : List Char) : List Char :=
  Char.ofNat 0x22 :: text.flatMap escaped ++ [Char.ofNat 0x22]

def separated : List (List Char) → List Char
  | [] => []
  | [item] => item
  | item :: rest => item ++ ',' :: separated rest

/-- The hyphenated text of a UUID. -/
def uuid_text (value : BitVec 128) : List Char :=
  let digits := (List.range 32).map fun place =>
    Digest.hex_char (low_digit (value.toNat / 16 ^ (31 - place)))
  digits.take 8 ++ '-' :: (digits.drop 8).take 4 ++ '-' :: (digits.drop 12).take 4 ++
    '-' :: (digits.drop 16).take 4 ++ '-' :: digits.drop 20

mutual

/-- The text of a canonical document, as `serde_jcs::to_vec` writes it. -/
def Jcs.text : Jcs → List Char
  | .null => "null".toList
  | .bool value => (if value then "true" else "false").toList
  | .num value => Nat.toDigits 10 value
  | .neg value => '-' :: Nat.toDigits 10 (value + 1)
  | .str value => quoted value.toList
  | .digest value => quoted value.as_str.toList
  | .uuid value => quoted (uuid_text value)
  | .arr items => '[' :: separated (Jcs.text_items items) ++ [']']
  | .obj members => Char.ofNat 0x7B :: separated (Jcs.text_members members) ++ [Char.ofNat 0x7D]

def Jcs.text_items : List Jcs → List (List Char)
  | [] => []
  | item :: rest => item.text :: Jcs.text_items rest

def Jcs.text_members : List (String × Jcs) → List (List Char)
  | [] => []
  | (name, item) :: rest => (quoted name.toList ++ ':' :: item.text) :: Jcs.text_members rest

end

/-- The number of bytes a text takes. -/
def byte_length (text : List Char) : Nat :=
  (text.map Char.utf8Size).sum

@[simp]
theorem byte_length_nil : byte_length [] = 0 := rfl

@[simp]
theorem byte_length_cons (character : Char) (rest : List Char) :
    byte_length (character :: rest) = character.utf8Size + byte_length rest := by
  simp [byte_length]

@[simp]
theorem byte_length_append (left right : List Char) :
    byte_length (left ++ right) = byte_length left + byte_length right := by
  simp [byte_length]

/-- The bytes a string takes inside its quotes. -/
def escaped_length (text : List Char) : Nat :=
  byte_length (text.flatMap escaped)

theorem byte_length_quoted (text : List Char) : byte_length (quoted text) = escaped_length text + 2 := by
  have hquote : (Char.ofNat 0x22).utf8Size = 1 := by decide
  simp [quoted, escaped_length, hquote]
  omega

/-- Items take one separator between each two. -/
theorem byte_length_separated (items : List (List Char)) :
    byte_length (separated items) = (items.map byte_length).sum + (items.length - 1) := by
  have hcomma : ','.utf8Size = 1 := by decide
  induction items using separated.induct with
  | case1 => rfl
  | case2 item => simp [separated]
  | case3 item rest hrest ih =>
    have hlength : 0 < rest.length := List.length_pos_iff.mpr (by simpa using hrest)
    rw [separated, byte_length_append, byte_length_cons, ih, hcomma, List.map_cons, List.sum_cons, List.length_cons]
    · omega
    · exact hrest

end ag_primitives

import Mathlib.Data.List.Lex
import Mathlib.Data.Finset.Sort
import Mathlib.Order.Lattice
import AgentGovernor.Lib.Checked

namespace ag_primitives

/-- A canonical digest, held as the hexadecimal digits that follow `sha256:`.
The source fixes 64 digits. The width is left open here because collision
freedom, which the digest chain rests on, is satisfiable only on an unbounded
type. Text order on equal algorithms is the order of the digits. -/
structure Digest where
  hex : List (Fin 16)
  deriving Repr

namespace Digest

instance hex_base : @NeZero Nat Zero.ofOfNat0 16 := ⟨Nat.succ_ne_zero 15⟩

theorem hex_injective : Function.Injective Digest.hex := by
  intro left right h
  cases left
  cases right
  simpa using h

instance : LinearOrder Digest := LinearOrder.lift' Digest.hex hex_injective

/-- The lowercase hexadecimal character of one digit. -/
def hex_char (digit : Fin 16) : Char :=
  if digit.val < 10 then Char.ofNat ('0'.toNat + digit.val) else Char.ofNat ('a'.toNat + (digit.val - 10))

/-- The digit of one lowercase hexadecimal character. -/
def hex_digit (character : Char) : Option (Fin 16) :=
  if '0' ≤ character ∧ character ≤ '9' then some (Fin.ofNat 16 (character.toNat - '0'.toNat))
  else if 'a' ≤ character ∧ character ≤ 'f' then some (Fin.ofNat 16 (character.toNat - 'a'.toNat + 10))
  else none

def SHA256_PREFIX : String := "sha256:"
def SHA256_TEXT_LENGTH : Nat := 71

/-- The canonical textual representation. -/
def as_str (digest : Digest) : String :=
  SHA256_PREFIX ++ String.ofList (digest.hex.map hex_char)

/-- Failures of the strict digest parser. -/
inductive DigestParseError where
  | Length (actual : Nat)
  | Algorithm
  | Hex (index : Nat) (character : Char)
  deriving DecidableEq, Repr

/-- The text of a parser failure. -/
def DigestParseError.to_string : DigestParseError → String
  | .Length actual => "SHA-256 digest must be 71 bytes; got " ++ toString actual
  | .Algorithm => "digest algorithm must be exactly \x60sha256:\x60"
  | .Hex index character => "invalid lowercase hexadecimal character " ++ reprStr character ++
      " at digest offset " ++ toString index

/-- Strict parsing: the exact length and algorithm tag, then lowercase hexadecimal digits only. -/
def parse (value : String) : Except DigestParseError Digest :=
  if value.utf8ByteSize ≠ SHA256_TEXT_LENGTH then .error (.Length value.utf8ByteSize)
  else
    match value.toList with
    | 's' :: 'h' :: 'a' :: '2' :: '5' :: '6' :: ':' :: encoded =>
      match encoded.mapM hex_digit with
      | some hex => .ok ⟨hex⟩
      | none =>
        let index := encoded.findIdx fun character => (hex_digit character).isNone
        .error (.Hex index (encoded.getD index ' '))
    | _ => .error .Algorithm

theorem hex_digit_hex_char (digit : Fin 16) : hex_digit (hex_char digit) = some digit := by
  revert digit
  decide

theorem mapM_hex_digit_map (hex : List (Fin 16)) : (hex.map hex_char).mapM hex_digit = some hex := by
  induction hex with
  | nil => rfl
  | cons digit rest ih => simp [List.mapM_cons, hex_digit_hex_char, ih]

theorem as_str_toList (digest : Digest) : digest.as_str.toList =
    's' :: 'h' :: 'a' :: '2' :: '5' :: '6' :: ':' :: digest.hex.map hex_char := by
  simp [as_str, SHA256_PREFIX]

/-- No two digests share one text. -/
theorem as_str_injective : Function.Injective as_str := by
  intro left right h
  have hchars := congrArg (fun text : String => (text.toList.drop 7).mapM hex_digit) h
  simp only [as_str_toList, List.drop_succ_cons, List.drop_zero, mapM_hex_digit_map, Option.some.injEq] at hchars
  exact hex_injective hchars

theorem hex_char_of_hex_digit {character : Char} {digit : Fin 16} (h : hex_digit character = some digit) :
    hex_char digit = character := by
  have hsmall : ∀ code : Fin 128, ∀ digit, hex_digit (Char.ofNat code) = some digit →
      hex_char digit = Char.ofNat code := by
    decide +kernel
  have hcode : character.toNat < 128 := by
    by_contra hlarge
    have hle : ∀ bound : Char, character ≤ bound → character.toNat ≤ bound.toNat := fun _ =>
      UInt32.le_iff_toNat_le.mp
    have hdigit := hle '9'
    have hletter := hle 'f'
    have : '9'.toNat = 57 ∧ 'f'.toNat = 102 := by decide
    rw [hex_digit, if_neg (fun hrange => by have := hdigit hrange.2; omega),
      if_neg (fun hrange => by have := hletter hrange.2; omega)] at h
    cases h
  have hsame := hsmall ⟨character.toNat, hcode⟩ digit
  simpa [h] using hsame

theorem map_hex_char_of_mapM {encoded : List Char} {hex : List (Fin 16)} (h : encoded.mapM hex_digit = some hex) :
    hex.map hex_char = encoded := by
  induction encoded generalizing hex with
  | nil => simp_all
  | cons first rest ih =>
    simp only [List.mapM_cons, Option.bind_eq_bind, Option.bind_eq_some_iff, Option.pure_def, Option.some.injEq] at h
    obtain ⟨digit, hdigit, others, hothers, rfl⟩ := h
    rw [List.map_cons, hex_char_of_hex_digit hdigit, ih hothers]

theorem utf8_ascii {text : List Char} (hascii : ∀ character ∈ text, character.val ≤ 127) :
    (String.ofList text).toByteArray.data.toList = text.map Char.toUInt8 := by
  have hbytes : text.flatMap String.utf8EncodeChar = text.map Char.toUInt8 := by
    induction text with
    | nil => rfl
    | cons first rest ih =>
      obtain ⟨hfirst, hrest⟩ := List.forall_mem_cons.mp hascii
      rw [List.flatMap_cons, ih hrest, String.utf8EncodeChar_eq_singleton (Char.utf8Size_eq_one_iff.mpr hfirst)]
      rfl
  simp [List.utf8Encode, hbytes]

theorem as_str_utf8ByteSize (digest : Digest) : digest.as_str.utf8ByteSize = 7 + digest.hex.length := by
  have hascii : ∀ character ∈ digest.hex.map hex_char, character.val ≤ 127 := by
    intro character hmem
    obtain ⟨digit, _, rfl⟩ := List.mem_map.mp hmem
    have hchar : ∀ digit, (hex_char digit).val ≤ 127 := by decide
    exact hchar digit
  have hsize := congrArg List.length (utf8_ascii hascii)
  rw [List.length_map, List.length_map] at hsize
  rw [as_str, String.utf8ByteSize_append, ← hsize]
  rfl

/-- The parser accepts exactly the texts of the digests of 64 digits. -/
theorem parse_eq_ok_iff {text : String} {digest : Digest} :
    parse text = .ok digest ↔ text = digest.as_str ∧ digest.hex.length = 64 := by
  constructor
  · intro h
    have htext : text = digest.as_str := by
      unfold parse at h
      split at h
      · cases h
      · split at h
        next encoded hencoded =>
          split at h
          next hex hdigits =>
            obtain rfl := Except.ok.inj h
            rw [← String.toList_inj, hencoded, as_str_toList, map_hex_char_of_mapM hdigits]
          next => cases h
        next => cases h
    subst htext
    refine ⟨rfl, ?_⟩
    by_contra hlength
    have hsize : digest.as_str.utf8ByteSize ≠ SHA256_TEXT_LENGTH := by
      rw [as_str_utf8ByteSize, SHA256_TEXT_LENGTH]
      omega
    rw [parse, if_pos hsize] at h
    cases h
  · rintro ⟨rfl, hlength⟩
    have hsize : ¬ digest.as_str.utf8ByteSize ≠ SHA256_TEXT_LENGTH := by
      rw [as_str_utf8ByteSize, hlength]
      decide
    simp only [parse, if_neg hsize, as_str_toList, mapM_hex_digit_map]

end Digest

/-- An integer-only JSON document with object members in canonical key order.
Digest and UUID texts are leaves of their own. -/
inductive Jcs where
  | null
  | bool (value : Bool)
  | num (value : Nat)
  /-- The negative integer `-1 - value`. -/
  | neg (value : Nat)
  | str (value : String)
  | digest (value : Digest)
  | uuid (value : BitVec 128)
  | arr (items : List Jcs)
  | obj (members : List (String × Jcs))

/-- The byte strings the digest functions are applied to: a plain text, the
canonical bytes of a document, or such bytes behind a fixed label. -/
inductive Payload where
  | text (value : String)
  | jcs (document : Jcs)
  | labelled (label : String) (document : Jcs)

/-- What reaches the hash function. The framing of `hash_domain` is length
prefixed behind a fixed tag, so framed and plain inputs stay apart. -/
inductive Preimage where
  | plain (payload : Payload)
  | framed (domain : String) (payload : Payload)

/-- The hash function of the `sha2` crate, on structured preimages. -/
structure Sha256 where
  digest : Preimage → Digest

/-- No two preimages share a digest. -/
def Sha256.CollisionFree (sha : Sha256) : Prop :=
  Function.Injective sha.digest

namespace Digest

def hash_bytes (sha : Sha256) (payload : Payload) : Digest :=
  sha.digest (.plain payload)

def hash_domain (sha : Sha256) (domain : String) (payload : Payload) : Digest :=
  sha.digest (.framed domain payload)

theorem hash_domain_inj {sha : Sha256} (hsha : sha.CollisionFree) {domain domain' : String}
    {payload payload' : Payload} :
    hash_domain sha domain payload = hash_domain sha domain' payload' ↔
      domain = domain' ∧ payload = payload' := by
  constructor
  · intro h
    simpa using hsha h
  · rintro ⟨rfl, rfl⟩
    rfl

theorem hash_bytes_ne_hash_domain {sha : Sha256} (hsha : sha.CollisionFree) (plain : Payload)
    (domain : String) (payload : Payload) : hash_bytes sha plain ≠ hash_domain sha domain payload := by
  intro h
  have := hsha h
  cases this

end Digest

end ag_primitives

import AgentGovernor.Primitives.Serialize

namespace ag_primitives

/-- The standard alphabet. -/
def base64_alphabet : List Char :=
  "ABCDEFGHIJKLMNOPQRSTUVWXYZabcdefghijklmnopqrstuvwxyz0123456789+/".toList

def base64_char (sextet : Nat) : Char :=
  base64_alphabet.getD sextet '='

/-- Padded base64: three bytes are four characters. -/
def base64 : List UInt8 → List Char
  | [] => []
  | [a] => [base64_char (a.toNat / 4), base64_char (a.toNat % 4 * 16), '=', '=']
  | [a, b] =>
    [base64_char (a.toNat / 4), base64_char (a.toNat % 4 * 16 + b.toNat / 16), base64_char (b.toNat % 16 * 4), '=']
  | a :: b :: c :: rest =>
    base64_char (a.toNat / 4) :: base64_char (a.toNat % 4 * 16 + b.toNat / 16) ::
      base64_char (b.toNat % 16 * 4 + c.toNat / 64) :: base64_char (c.toNat % 64) :: base64 rest

/-- Exact bytes, written to the wire as base64. -/
structure OpaqueBytesV1 where
  bytes : List UInt8
  deriving DecidableEq

instance : Serialize OpaqueBytesV1 := ⟨fun value => to_jcs (String.ofList (base64 value.bytes))⟩

end ag_primitives

import AgentGovernor.Primitives.Serialize

open Checked

namespace ag_primitives

def MAX_IDENTIFIER_LENGTH : Nat := 128

/-- Failures of the strict identifier parsers. -/
inductive IdentifierError where
  | Empty (kind : String)
  | TooLong (kind : String) (maximum actual : Nat)
  | NonCanonical (kind : String)
  | ZeroEpoch
  deriving DecidableEq, Repr

/-- A character an identifier may start and end with. -/
def endpoint_is_alphanumeric (character : Char) : Bool :=
  character.isLower || character.isDigit

/-- A character an identifier may contain. -/
def identifier_admits (character : Char) : Bool :=
  endpoint_is_alphanumeric character || character ∈ ['-', '_', '.', ':', '/']

def validate_identifier (kind value : String) : Except IdentifierError Unit := do
  reject (value = "") (.Empty kind)
  reject (value.utf8ByteSize > MAX_IDENTIFIER_LENGTH) (.TooLong kind MAX_IDENTIFIER_LENGTH value.utf8ByteSize)
  reject (value.toList.head?.any endpoint_is_alphanumeric = false ∨
      value.toList.getLast?.any endpoint_is_alphanumeric = false ∨
      value.toList.all identifier_admits = false)
    (.NonCanonical kind)

/-- A canonical configured authority-domain identifier. -/
structure AuthorityDomainId where
  value : String
  canonical : validate_identifier "authority domain" value = .ok ()
  deriving DecidableEq

/-- A nonzero authority epoch. -/
structure EpochId where
  value : UInt64
  nonzero : value ≠ 0
  deriving DecidableEq

instance : Serialize AuthorityDomainId := ⟨fun domain => to_jcs domain.value⟩
instance : Serialize EpochId := ⟨fun epoch => to_jcs epoch.value⟩

instance : InjectiveSerialize AuthorityDomainId := .of_serialize
instance : InjectiveSerialize EpochId := .of_serialize

end ag_primitives

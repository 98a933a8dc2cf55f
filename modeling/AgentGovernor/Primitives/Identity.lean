import AgentGovernor.Primitives.Origin

open Checked

namespace ag_primitives

def MAX_NAME_LENGTH : Nat := 128

/-- Failures of the strict name parsers. -/
inductive PrincipalNameError where
  | Empty (kind : String)
  | TooLong (kind : String) (maximum actual : Nat)
  | NonCanonical (kind : String)
  deriving DecidableEq, Repr

def validate_name (kind value : String) : Except PrincipalNameError Unit := do
  reject (value = "") (.Empty kind)
  reject (value.utf8ByteSize > MAX_NAME_LENGTH) (.TooLong kind MAX_NAME_LENGTH value.utf8ByteSize)
  reject (value.toList.head?.any endpoint_is_alphanumeric = false ∨
      value.toList.getLast?.any endpoint_is_alphanumeric = false ∨
      value.toList.all identifier_admits = false)
    (.NonCanonical kind)

/-- `strict_name_type!`: a bounded canonical name of one kind. -/
structure StrictName (kind : String) where
  as_str : String
  canonical : validate_name kind as_str = .ok ()
  deriving DecidableEq

abbrev ProjectId : Type := StrictName "ProjectId"
abbrev SessionId : Type := StrictName "SessionId"

instance {kind : String} : Serialize (StrictName kind) := ⟨fun name => to_jcs name.as_str⟩

/-- Stable digest identity of a fully bound principal. -/
structure PrincipalId where
  digest : Digest
  deriving DecidableEq

instance : Serialize PrincipalId := ⟨fun principal => to_jcs principal.digest⟩

/-- A nonce of sixteen bytes, held as the hexadecimal digits it is written with. -/
structure LifecycleNonce where
  digits : List (Fin 16)
  length : digits.length = 32
  deriving DecidableEq

def LifecycleNonce.to_string (nonce : LifecycleNonce) : String :=
  String.ofList (nonce.digits.map Digest.hex_char)

instance : Serialize LifecycleNonce := ⟨fun nonce => to_jcs nonce.to_string⟩

/-- The complete origin of one admitted lifecycle. -/
structure LifecycleOrigin where
  authority_domain : AuthorityDomainId
  epoch : EpochId
  lifecycle_nonce : LifecycleNonce
  deriving DecidableEq

/-- The kind of a principal. -/
inductive PrincipalKindV1 where
  | Operator
  | Daemon
  | Service
  | WorkerSession
  deriving DecidableEq, Repr

end ag_primitives

import AgentGovernor.Primitives.Bytes
import AgentGovernor.Primitives.CanonicalText
import AgentGovernor.Primitives.Origin

open ag_primitives Checked

namespace ag_providerd

def PROVIDER_RPC_STRUCTURAL_RESERVE_BYTES : Nat := 128 * 1024
def PROVIDER_MAX_DEADLINE_MS : Nat := 1800000
def PROVIDER_MIN_EVENT_STREAM_BYTES : Nat := 4 * 1024

inductive ConfigError where
  | InvalidLimit (reason : String)
  | InvalidProvider (provider reason : String)
  deriving DecidableEq

/-- Provider limits. -/
structure ProviderLimitsV1 where
  max_control_frame_bytes : UInt32
  max_rpc_replay_entries : UInt32
  max_concurrent_requests : UInt32
  provider_deadline_ms : UInt64
  max_request_bytes : UInt64
  max_response_bytes : UInt64

/-- Root-owned worst-case policy for one exact provider model. -/
structure ProviderModelPolicyConfigV1 where
  id : String
  max_event_stream_bytes : UInt64
  worst_case_cost_microunits : UInt64

structure ProviderEndpointConfigV1 where
  id : String
  models : List ProviderModelPolicyConfigV1
  methods : List String

structure ProviderdConfigV1 where
  limits : ProviderLimitsV1
  endpoints : List ProviderEndpointConfigV1

/-- The length of a base64 text, absent where `u64` overflows. -/
def canonical_base64_encoded_length (decoded : UInt64) : Option Nat :=
  if decoded.toNat + 2 ≥ 2 ^ 64 then none
  else if (decoded.toNat + 2) / 3 * 4 ≥ 2 ^ 64 then none
  else some ((decoded.toNat + 2) / 3 * 4)

/-- Whether base64 content of that many bytes fits one control frame. -/
def fits_frame (limits : ProviderLimitsV1) (decoded : UInt64) : Bool :=
  match canonical_base64_encoded_length decoded with
  | none => false
  | some encoded => encoded + PROVIDER_RPC_STRUCTURAL_RESERVE_BYTES ≤ limits.max_control_frame_bytes.toNat

def validate_models (limits : ProviderLimitsV1) (provider : String) :
    List String → List ProviderModelPolicyConfigV1 → Except ConfigError Unit
  | _, [] => pure ()
  | seen, model :: rest => do
    reject (model.id = "") (.InvalidProvider provider "model id is empty")
    reject (model.id ∈ seen) (.InvalidProvider provider "duplicate backend model id")
    reject (model.max_event_stream_bytes.toNat < PROVIDER_MIN_EVENT_STREAM_BYTES ∨
        model.max_event_stream_bytes > limits.max_response_bytes ∨
        model.worst_case_cost_microunits = 0)
      (.InvalidProvider provider "model resource policy is outside configured bounds")
    validate_models limits provider (model.id :: seen) rest

def validate_endpoints (limits : ProviderLimitsV1) :
    List String → List ProviderEndpointConfigV1 → Except ConfigError Unit
  | _, [] => pure ()
  | seen, endpoint :: rest => do
    reject (endpoint.id = "") (.InvalidProvider "<empty>" "provider id is empty")
    reject (endpoint.models = [] ∨ endpoint.methods = [])
      (.InvalidProvider endpoint.id "provider requires at least one model and method")
    reject (endpoint.id ∈ seen) (.InvalidProvider endpoint.id "duplicate provider id")
    validate_models limits endpoint.id [] endpoint.models
    validate_endpoints limits (endpoint.id :: seen) rest

/-- The checks of the limits, endpoints and models. Those of the schema, the paths, the
custody, the identities, the transports and the configured headers read other fields. -/
def ProviderdConfigV1.validate (config : ProviderdConfigV1) : Except ConfigError Unit := do
  let limits := config.limits
  reject (limits.max_control_frame_bytes = 0 ∨ limits.max_rpc_replay_entries = 0 ∨
      limits.max_concurrent_requests = 0 ∨ limits.provider_deadline_ms = 0 ∨ limits.max_request_bytes = 0 ∨
      limits.max_response_bytes = 0)
    (.InvalidLimit "providerd limits")
  reject (limits.provider_deadline_ms.toNat > PROVIDER_MAX_DEADLINE_MS)
    (.InvalidLimit "provider deadline exceeds the bounded inference maximum")
  reject (fits_frame limits limits.max_request_bytes = false ∨ fits_frame limits limits.max_response_bytes = false)
    (.InvalidLimit "canonical base64 provider content must fit one signed control frame")
  validate_endpoints limits [] config.endpoints

/-- A response as the HTTP client hands it over: the first value of each header, and the
whole body that the provider sends. -/
structure HttpResponse where
  status : UInt16
  header : String → Option (List UInt8)
  body : List UInt8

/-- `HeaderValue::to_str`: visible ASCII and tabs only. -/
def to_str (value : List UInt8) : Option (List Char) :=
  if value.all (fun byte => byte = 9 ∨ (32 ≤ byte ∧ byte < 127)) then
    some (value.map fun byte => Char.ofNat byte.toNat)
  else none

def RETAINED_HEADERS : List String :=
  ["content-type", "date", "openai-request-id", "request-id", "x-request-id"]

/-- A header that is readable and at most 512 bytes long. -/
def retained_header (header : String → Option (List UInt8)) (name : String) : Option (String × List Char) := do
  let value ← header name
  let text ← to_str value
  if text.length ≤ 512 then some (name, text) else none

def sanitize_response_headers (header : String → Option (List UInt8)) : List (String × List Char) :=
  RETAINED_HEADERS.filterMap (retained_header header)

/-- Sanitized provider transport failure classes. -/
inductive ProviderTransportFailureV1 where
  | Connect
  | Timeout
  | Body
  | Other
  deriving DecidableEq

/-- Credential-free complete event stream durably retained for governor custody. -/
inductive ProviderEventStreamV1 where
  | HttpResponse (status : UInt16) (headers : List (String × List Char)) (body : OpaqueBytesV1)
    (protocol_terminal : Bool)
  | TransportFailure (failure : ProviderTransportFailureV1)
  | ResponseLimitExceeded (status : UInt16) (headers : List (String × List Char)) (maximum_bytes : UInt64)
  deriving DecidableEq

def headers_jcs (headers : List (String × List Char)) : Jcs :=
  .obj (headers.map fun header => (header.1, .str (String.ofList header.2)))

def ProviderTransportFailureV1.tag : ProviderTransportFailureV1 → String
  | .Connect => "connect"
  | .Timeout => "timeout"
  | .Body => "body"
  | .Other => "other"

def ProviderEventStreamV1.serialize : ProviderEventStreamV1 → Jcs
  | .HttpResponse status headers body protocol_terminal =>
    .obj [("body", to_jcs body), ("event", .str "http_response"), ("headers", headers_jcs headers),
      ("protocol_terminal", .bool protocol_terminal), ("status", .num status.toNat)]
  | .TransportFailure failure => .obj [("class", .str failure.tag), ("event", .str "transport_failure")]
  | .ResponseLimitExceeded status headers maximum_bytes =>
    .obj [("event", .str "response_limit_exceeded"), ("headers", headers_jcs headers),
      ("maximum_bytes", to_jcs maximum_bytes), ("status", .num status.toNat)]

instance : Serialize ProviderEventStreamV1 := ⟨ProviderEventStreamV1.serialize⟩

/-- The length of the canonical bytes of a stream. -/
def stream_bytes (stream : ProviderEventStreamV1) : Nat :=
  byte_length (to_jcs stream).text

inductive ProviderError where
  | ConfiguredEventLimitTooSmall
  | DispatchNotFound
  | DispatchBindingMismatch
  | DispatchOutcomeIndeterminate
  | DispatchCustodyCorrupt
  deriving DecidableEq

/-- What `dispatch` makes of a complete response. A body beyond the bound is not kept. -/
def received (limits : ProviderLimitsV1) (maximum_event_stream_bytes : UInt64)
    (protocol_terminal : UInt16 → List UInt8 → Bool) (response : HttpResponse) : ProviderEventStreamV1 :=
  let maximum := if maximum_event_stream_bytes ≤ limits.max_response_bytes then maximum_event_stream_bytes
    else limits.max_response_bytes
  let sanitized := sanitize_response_headers response.header
  if response.body.length > maximum.toNat then .ResponseLimitExceeded response.status sanitized maximum
  else .HttpResponse response.status sanitized ⟨response.body⟩ (protocol_terminal response.status response.body)

/-- The stream that is kept, within the bound: the given one, or the record that the
response exceeded the bound. -/
def bounded_event_stream_bytes (stream : ProviderEventStreamV1) (maximum_bytes : UInt64) :
    Except ProviderError ProviderEventStreamV1 :=
  if stream_bytes stream ≤ maximum_bytes.toNat then .ok stream
  else
    match stream with
    | .HttpResponse status headers _ _ => do
      let limited := .ResponseLimitExceeded status headers maximum_bytes
      reject (stream_bytes limited > maximum_bytes.toNat) .ConfiguredEventLimitTooSmall
      pure limited
    | _ => .error .ConfiguredEventLimitTooSmall

/-- The projection of a kept stream: its headers and its terminal mark. -/
def event_stream_projection : ProviderEventStreamV1 → List (String × List Char) × Bool
  | .HttpResponse _ headers _ protocol_terminal => (headers, protocol_terminal)
  | .ResponseLimitExceeded _ headers _ => (headers, false)
  | .TransportFailure _ => ([], false)

/-- Where a dispatch stands. The kept bytes are held as the document they encode. -/
inductive ProviderDispatchPhaseV1 where
  | Reserved
  | Available (exact_event_stream : Digest) (event_stream : Jcs) (sanitized_headers : List (String × List Char))
    (protocol_terminal : Bool)
  | Acknowledged (acknowledgment_receipt : Digest)

structure ProviderDispatchStateV1 where
  authority_domain : AuthorityDomainId
  epoch : EpochId
  provider_policy_digest : Digest
  dispatch : Digest
  phase : ProviderDispatchPhaseV1

/-- The part of the provider daemon that the two calls read. -/
structure ProviderCore where
  authority_domain : AuthorityDomainId
  epoch : EpochId
  provider_policy : Digest
  config : ProviderdConfigV1

inductive ProviderResponseV1 where
  | InferenceAvailable (dispatch exact_event_stream : Digest) (byte_length : Nat) (protocol_terminal : Bool)
  | Inference (dispatch exact_event_stream : Digest) (event_stream : Jcs)
    (sanitized_headers : List (String × List Char)) (protocol_terminal : Bool)
  | InferenceCustodyAcknowledged (dispatch receipt : Digest)

namespace ProviderCore

variable (sha : Sha256) (core : ProviderCore)

/-- The dispatch record that `infer` commits before it sends the request. -/
def reserved (dispatch : Digest) : ProviderDispatchStateV1 :=
  { authority_domain := core.authority_domain
    epoch := core.epoch
    provider_policy_digest := core.provider_policy
    dispatch
    phase := .Reserved }

/-- The end of `infer`, from a complete response on: the record it commits over the
reserved one, and its answer. -/
def infer (model : ProviderModelPolicyConfigV1) (protocol_terminal : UInt16 → List UInt8 → Bool) (dispatch : Digest)
    (response : HttpResponse) : Except ProviderError (ProviderDispatchStateV1 × ProviderResponseV1) := do
  let stream := received core.config.limits model.max_event_stream_bytes protocol_terminal response
  let event_stream ← bounded_event_stream_bytes stream model.max_event_stream_bytes
  let exact_event_stream := Digest.hash_bytes sha (.jcs (to_jcs event_stream))
  let projection := event_stream_projection event_stream
  let available := { core.reserved dispatch with
    phase := .Available exact_event_stream (to_jcs event_stream) projection.1 projection.2 }
  pure (available, .InferenceAvailable dispatch exact_event_stream (stream_bytes event_stream) projection.2)

def validate_dispatch_identity (state : ProviderDispatchStateV1) (dispatch : Digest) : Except ProviderError Unit :=
  reject (state.dispatch ≠ dispatch ∨ state.authority_domain ≠ core.authority_domain ∨ state.epoch ≠ core.epoch ∨
    state.provider_policy_digest ≠ core.provider_policy) .DispatchBindingMismatch

def fetch_inference (stored : Option ProviderDispatchStateV1) (dispatch : Digest) :
    Except ProviderError ProviderResponseV1 := do
  let state ← ok_or stored .DispatchNotFound
  core.validate_dispatch_identity state dispatch
  match state.phase with
  | .Reserved => .error .DispatchOutcomeIndeterminate
  | .Available exact_event_stream event_stream sanitized_headers protocol_terminal => do
    reject (byte_length event_stream.text > core.config.limits.max_response_bytes.toNat ∨
      Digest.hash_bytes sha (.jcs event_stream) ≠ exact_event_stream) .DispatchCustodyCorrupt
    pure (.Inference dispatch exact_event_stream event_stream sanitized_headers protocol_terminal)
  | .Acknowledged acknowledgment_receipt => pure (.InferenceCustodyAcknowledged dispatch acknowledgment_receipt)

end ProviderCore

end ag_providerd

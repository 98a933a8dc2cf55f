import AgentGovernor.Primitives.IdealHash
import AgentGovernor.Provider.EventStream

open ag_primitives Checked

namespace ag_providerd

/-- The bytes of a decimal number. -/
def number_bytes (value : Nat) : Nat :=
  byte_length (Nat.toDigits 10 value)

/-- The bytes of the kept headers: names and values in quotes, colons and commas. -/
def header_bytes (headers : List (String × List Char)) : Nat :=
  2 + (headers.map fun header => escaped_length header.1.toList + escaped_length header.2 + 5).sum +
    (headers.length - 1)

theorem text_members_eq_map (members : List (String × Jcs)) :
    Jcs.text_members members = members.map fun member => quoted member.1.toList ++ ':' :: member.2.text := by
  induction members with
  | nil => rfl
  | cons member rest ih => rw [Jcs.text_members, ih, List.map_cons]

theorem byte_length_object (members : List (String × Jcs)) : byte_length (Jcs.obj members).text =
    2 + (members.map fun member => escaped_length member.1.toList + byte_length member.2.text + 3).sum +
      (members.length - 1) := by
  have hopen : (Char.ofNat 0x7B).utf8Size = 1 := by decide
  have hclose : (Char.ofNat 0x7D).utf8Size = 1 := by decide
  have hcolon : ':'.utf8Size = 1 := by decide
  have hmember : (fun member : String × Jcs => byte_length (quoted member.1.toList ++ ':' :: member.2.text)) =
      fun member => escaped_length member.1.toList + byte_length member.2.text + 3 := by
    funext member
    rw [byte_length_append, byte_length_cons, byte_length_quoted, hcolon]
    omega
  rw [Jcs.text, byte_length_append, byte_length_cons, byte_length_separated, text_members_eq_map, List.map_map,
    List.length_map, hopen]
  simp only [Function.comp_def, hmember, byte_length_cons, byte_length_nil, hclose]
  omega

theorem byte_length_headers (headers : List (String × List Char)) :
    byte_length (headers_jcs headers).text = header_bytes headers := by
  rw [headers_jcs, byte_length_object, header_bytes, List.map_map, List.length_map]
  simp only [Function.comp_def, Jcs.text, byte_length_quoted, String.toList_ofList]
  rfl

theorem escaped_length_cons (character : Char) (rest : List Char) :
    escaped_length (character :: rest) = byte_length (escaped character) + escaped_length rest := by
  simp [escaped_length]

theorem escaped_base64_char (sextet : Nat) : byte_length (escaped (base64_char sextet)) = 1 := by
  have hsextet : ∀ sextet : Fin 64, byte_length (escaped (base64_char sextet)) = 1 := by decide +kernel
  by_cases h : sextet < 64
  · exact hsextet ⟨sextet, h⟩
  · have hpad : base64_char sextet = '=' := by
      rw [base64_char, List.getD_eq_getElem?_getD, List.getElem?_eq_none (Nat.not_lt.mp h), Option.getD_none]
    rw [hpad]
    decide

/-- Base64 needs no escapes: three bytes of the body take four. -/
theorem escaped_base64 (body : List UInt8) : escaped_length (base64 body) = (body.length + 2) / 3 * 4 := by
  have hpad : byte_length (escaped '=') = 1 := by decide
  have hnil : escaped_length [] = 0 := rfl
  induction body using base64.induct with
  | case1 => rfl
  | case2 a => simp [base64, escaped_length_cons, escaped_base64_char, hpad, hnil]
  | case3 a b => simp [base64, escaped_length_cons, escaped_base64_char, hpad, hnil]
  | case4 a b c rest ih =>
    simp only [base64, escaped_length_cons, escaped_base64_char, ih, List.length_cons]
    omega

theorem stream_bytes_exceeded (status : UInt16) (headers : List (String × List Char)) (maximum : UInt64) :
    stream_bytes (.ResponseLimitExceeded status headers maximum) =
      73 + header_bytes headers + number_bytes maximum.toNat + number_bytes status.toNat := by
  have hnames : escaped_length "event".toList = 5 ∧ escaped_length "headers".toList = 7 ∧
      escaped_length "maximum_bytes".toList = 13 ∧ escaped_length "status".toList = 6 ∧
      escaped_length "response_limit_exceeded".toList = 23 := by decide
  obtain ⟨hevent, hheaders, hmaximum, hstatus, hkind⟩ := hnames
  change byte_length (Jcs.obj _).text = _
  rw [byte_length_object]
  simp only [List.map_cons, List.map_nil, List.sum_cons, List.sum_nil, List.length_cons, List.length_nil, hevent,
    hheaders, hmaximum, hstatus, byte_length_headers, to_jcs, Jcs.text, byte_length_quoted, hkind, number_bytes]
  omega

def terminal_bytes (protocol_terminal : Bool) : Nat :=
  if protocol_terminal then 4 else 5

theorem stream_bytes_complete (status : UInt16) (headers : List (String × List Char)) (body : List UInt8)
    (protocol_terminal : Bool) : stream_bytes (.HttpResponse status headers ⟨body⟩ protocol_terminal) =
      77 + (body.length + 2) / 3 * 4 + header_bytes headers + terminal_bytes protocol_terminal +
        number_bytes status.toNat := by
  have hnames : escaped_length "body".toList = 4 ∧ escaped_length "event".toList = 5 ∧
      escaped_length "headers".toList = 7 ∧ escaped_length "protocol_terminal".toList = 17 ∧
      escaped_length "status".toList = 6 ∧ escaped_length "http_response".toList = 13 := by decide
  obtain ⟨hbody, hevent, hheaders, hterminal, hstatus, hkind⟩ := hnames
  have hbool : byte_length (if protocol_terminal then "true" else "false").toList =
      terminal_bytes protocol_terminal := by
    cases protocol_terminal <;> decide
  change byte_length (Jcs.obj _).text = _
  rw [byte_length_object]
  simp only [List.map_cons, List.map_nil, List.sum_cons, List.sum_nil, List.length_cons, List.length_nil, hevent,
    hheaders, hbody, hstatus, hterminal, byte_length_headers, hbool, to_jcs, Jcs.text, byte_length_quoted, hkind,
    number_bytes, String.toList_ofList, escaped_base64]
  omega

/-- The kept headers of a response. -/
abbrev HttpResponse.headers (response : HttpResponse) : List (String × List Char) :=
  sanitize_response_headers response.header

/-- The record that the bound was exceeded fits the bound: its fixed text, the kept headers
as they are escaped, and its two numbers. -/
def HttpResponse.ExcessFits (response : HttpResponse) (maximum : UInt64) : Prop :=
  73 + header_bytes response.headers + number_bytes maximum.toNat + number_bytes response.status.toNat ≤ maximum.toNat

/-- The complete response fits the bound. -/
def HttpResponse.CompleteFits (response : HttpResponse) (protocol_terminal : Bool) (maximum : UInt64) : Prop :=
  77 + (response.body.length + 2) / 3 * 4 + header_bytes response.headers + terminal_bytes protocol_terminal +
    number_bytes response.status.toNat ≤ maximum.toNat

/-- The two streams that may be kept of a response. -/
def HttpResponse.complete (response : HttpResponse) (protocol_terminal : Bool) : ProviderEventStreamV1 :=
  .HttpResponse response.status response.headers ⟨response.body⟩ protocol_terminal

def HttpResponse.exceeded (response : HttpResponse) (maximum : UInt64) : ProviderEventStreamV1 :=
  .ResponseLimitExceeded response.status response.headers maximum

section Bounded

variable {limits : ProviderLimitsV1} {maximum : UInt64} {protocol_terminal : UInt16 → List UInt8 → Bool}
  {response : HttpResponse}

theorem complete_le_iff {terminal : Bool} :
    stream_bytes (response.complete terminal) ≤ maximum.toNat ↔ response.CompleteFits terminal maximum := by
  rw [HttpResponse.complete, stream_bytes_complete, HttpResponse.CompleteFits]

theorem exceeded_le_iff :
    stream_bytes (response.exceeded maximum) ≤ maximum.toNat ↔ response.ExcessFits maximum := by
  rw [HttpResponse.exceeded, stream_bytes_exceeded, HttpResponse.ExcessFits]

/-- A body beyond the bound cannot be part of a complete stream within it. -/
theorem body_le_of_complete {terminal : Bool} (h : response.CompleteFits terminal maximum) :
    response.body.length ≤ maximum.toNat := by
  unfold HttpResponse.CompleteFits at h
  omega

variable (hmaximum : maximum ≤ limits.max_response_bytes)

include hmaximum

/-- What is kept of a response under a bound within the limits: the complete response where
it fits, else the excess where that fits, else nothing. -/
theorem kept_eq :
    bounded_event_stream_bytes (received limits maximum protocol_terminal response) maximum =
      if stream_bytes (response.complete (protocol_terminal response.status response.body)) ≤ maximum.toNat then
        .ok (response.complete (protocol_terminal response.status response.body))
      else if stream_bytes (response.exceeded maximum) ≤ maximum.toNat then .ok (response.exceeded maximum)
      else .error .ConfiguredEventLimitTooSmall := by
  unfold received
  simp only [if_pos hmaximum]
  by_cases hbody : response.body.length > maximum.toNat
  · have hcomplete : ¬ stream_bytes (response.complete (protocol_terminal response.status response.body)) ≤
        maximum.toNat := fun h => Nat.not_le.mpr hbody (body_le_of_complete (complete_le_iff.mp h))
    rw [if_pos hbody, if_neg hcomplete]
    rfl
  · rw [if_neg hbody]
    change (if stream_bytes (response.complete _) ≤ maximum.toNat then _ else _) = _
    split
    · rfl
    · change (do reject (stream_bytes (response.exceeded maximum) > maximum.toNat) _; _) = _
      by_cases hexcess : stream_bytes (response.exceeded maximum) ≤ maximum.toNat
      · rw [reject_of_not (Nat.not_lt.mpr hexcess), if_pos hexcess]
        rfl
      · rw [if_neg hexcess, reject, if_pos (Nat.not_le.mp hexcess)]
        rfl

end Bounded

section Validated

theorem validate_models_bounds {limits : ProviderLimitsV1} {provider : String} {seen : List String}
    {models : List ProviderModelPolicyConfigV1} (h : validate_models limits provider seen models = .ok ()) :
    ∀ model ∈ models, PROVIDER_MIN_EVENT_STREAM_BYTES ≤ model.max_event_stream_bytes.toNat ∧
      model.max_event_stream_bytes ≤ limits.max_response_bytes := by
  induction models generalizing seen with
  | nil => simp
  | cons model rest ih =>
    simp only [validate_models, ok_rules, Nat.not_lt, gt_iff_lt, UInt64.not_lt] at h
    obtain ⟨_, _, ⟨hmin, hmax, _⟩, hrest⟩ := h
    exact List.forall_mem_cons.mpr ⟨⟨hmin, hmax⟩, ih hrest⟩

theorem validate_endpoints_bounds {limits : ProviderLimitsV1} {seen : List String}
    {endpoints : List ProviderEndpointConfigV1} (h : validate_endpoints limits seen endpoints = .ok ()) :
    ∀ endpoint ∈ endpoints, ∀ model ∈ endpoint.models,
      PROVIDER_MIN_EVENT_STREAM_BYTES ≤ model.max_event_stream_bytes.toNat ∧
        model.max_event_stream_bytes ≤ limits.max_response_bytes := by
  induction endpoints generalizing seen with
  | nil => simp
  | cons endpoint rest ih =>
    simp only [validate_endpoints, ok_rules] at h
    obtain ⟨_, _, _, hmodels, hrest⟩ := h
    exact List.forall_mem_cons.mpr ⟨validate_models_bounds hmodels, ih hrest⟩

/-- A policy of an accepted configuration is between the minimum and the response limit. -/
theorem validated_bounds {config : ProviderdConfigV1} (h : config.validate = .ok ())
    {endpoint : ProviderEndpointConfigV1} (hendpoint : endpoint ∈ config.endpoints)
    {model : ProviderModelPolicyConfigV1} (hmodel : model ∈ endpoint.models) :
    PROVIDER_MIN_EVENT_STREAM_BYTES ≤ model.max_event_stream_bytes.toNat ∧
      model.max_event_stream_bytes ≤ config.limits.max_response_bytes := by
  simp only [ProviderdConfigV1.validate, ok_rules] at h
  exact validate_endpoints_bounds h.2.2.2 endpoint hendpoint model hmodel

end Validated

section Infer

variable {sha : Sha256} {core : ProviderCore} {model : ProviderModelPolicyConfigV1}
  {protocol_terminal : UInt16 → List UInt8 → Bool} {dispatch : Digest} {response : HttpResponse}

/-- The record that a kept stream becomes. -/
def ProviderCore.available (sha : Sha256) (core : ProviderCore) (dispatch : Digest) (stream : ProviderEventStreamV1) :
    ProviderDispatchStateV1 :=
  { core.reserved dispatch with
    phase := .Available (Digest.hash_bytes sha (.jcs (to_jcs stream))) (to_jcs stream)
      (event_stream_projection stream).1 (event_stream_projection stream).2 }

/-- A kept stream within the response limit can be fetched. -/
theorem fetch_available {stream : ProviderEventStreamV1}
    (h : stream_bytes stream ≤ core.config.limits.max_response_bytes.toNat) :
    core.fetch_inference sha (some (core.available sha dispatch stream)) dispatch = .ok (.Inference dispatch
      (Digest.hash_bytes sha (.jcs (to_jcs stream))) (to_jcs stream) (event_stream_projection stream).1
      (event_stream_projection stream).2) := by
  have hidentity : core.validate_dispatch_identity (core.available sha dispatch stream) dispatch = .ok () := by
    simp [ProviderCore.validate_dispatch_identity, ProviderCore.available, ProviderCore.reserved, reject]
  have hcustody : ¬ (byte_length (to_jcs stream).text > core.config.limits.max_response_bytes.toNat ∨
      Digest.hash_bytes sha (.jcs (to_jcs stream)) ≠ Digest.hash_bytes sha (.jcs (to_jcs stream))) := by
    simpa [stream_bytes] using h
  rw [ProviderCore.fetch_inference, ok_or, bind_of_ok rfl, bind_of_ok hidentity]
  simp only [ProviderCore.available]
  rw [reject_of_not hcustody]
  rfl

/-- A complete response reaches custody: a stream within the bound is kept, which is the
complete response or the record of its excess, and `infer` commits it as a record that
`fetch_inference` returns. -/
def ReachesCustody (sha : Sha256) (core : ProviderCore) (model : ProviderModelPolicyConfigV1)
    (protocol_terminal : UInt16 → List UInt8 → Bool) (dispatch : Digest) (response : HttpResponse) : Prop :=
  ∃ stream answer headers terminal,
    bounded_event_stream_bytes (received core.config.limits model.max_event_stream_bytes protocol_terminal response)
      model.max_event_stream_bytes = .ok stream ∧
    stream_bytes stream ≤ model.max_event_stream_bytes.toNat ∧
    (stream = response.complete (protocol_terminal response.status response.body) ∨
      stream = response.exceeded model.max_event_stream_bytes) ∧
    core.infer sha model protocol_terminal dispatch response = .ok (core.available sha dispatch stream, answer) ∧
    core.fetch_inference sha (some (core.available sha dispatch stream)) dispatch =
      .ok (.Inference dispatch (Digest.hash_bytes sha (.jcs (to_jcs stream))) (to_jcs stream) headers terminal)

/-- Under an accepted configuration a complete response reaches custody if and only if it
fits the bound of the model, or the record of its excess does. -/
theorem response_reaches_custody_iff (hvalid : core.config.validate = .ok ()) {endpoint : ProviderEndpointConfigV1}
    (hendpoint : endpoint ∈ core.config.endpoints) (hmodel : model ∈ endpoint.models) :
    ReachesCustody sha core model protocol_terminal dispatch response ↔
      response.CompleteFits (protocol_terminal response.status response.body) model.max_event_stream_bytes ∨
        response.ExcessFits model.max_event_stream_bytes := by
  obtain ⟨_, hmaximum⟩ := validated_bounds hvalid hendpoint hmodel
  rw [← complete_le_iff, ← exceeded_le_iff]
  constructor
  · rintro ⟨_, _, _, _, _, hbytes, rfl | rfl, _⟩
    exacts [.inl hbytes, .inr hbytes]
  · intro hfits
    obtain ⟨stream, hkept, hbytes, hstream⟩ : ∃ stream, bounded_event_stream_bytes (received core.config.limits
        model.max_event_stream_bytes protocol_terminal response) model.max_event_stream_bytes = .ok stream ∧
          stream_bytes stream ≤ model.max_event_stream_bytes.toNat ∧ (stream = response.complete _ ∨ stream = _) := by
      rw [kept_eq hmaximum]
      split
      next hcomplete => exact ⟨_, rfl, hcomplete, .inl rfl⟩
      next hcomplete =>
        have hexcess := hfits.resolve_left hcomplete
        rw [if_pos hexcess]
        exact ⟨_, rfl, hexcess, .inr rfl⟩
    exact ⟨stream, _, _, _, hkept, hbytes, hstream, by rw [ProviderCore.infer, hkept]; rfl,
      fetch_available (hbytes.trans (UInt64.le_iff_toNat_le.mp hmaximum))⟩

end Infer

section Sizes

theorem byte_length_le (text : List Char) : byte_length text ≤ 4 * text.length := by
  induction text with
  | nil => simp
  | cons character rest ih =>
    have hsize := character.utf8Size_le_four
    rw [byte_length_cons, List.length_cons]
    omega

theorem number_bytes_le {value places : Nat} (hplaces : 0 < places) (h : value < 10 ^ places) :
    number_bytes value ≤ 4 * places := by
  have hlength := Nat.toDigits_length 10 value places hplaces h
  have hbytes := byte_length_le (Nat.toDigits 10 value)
  unfold number_bytes
  omega

end Sizes

/-- A configuration with one model under the smallest bound. -/
theorem exists_smallest : ∃ (core : ProviderCore) (endpoint : ProviderEndpointConfigV1)
    (model : ProviderModelPolicyConfigV1), core.config.validate = .ok () ∧ endpoint ∈ core.config.endpoints ∧
      model ∈ endpoint.models ∧ model.max_event_stream_bytes.toNat = PROVIDER_MIN_EVENT_STREAM_BYTES := by
  let model : ProviderModelPolicyConfigV1 :=
    { id := "model", max_event_stream_bytes := 4096, worst_case_cost_microunits := 1 }
  let endpoint : ProviderEndpointConfigV1 := { id := "primary", models := [model], methods := ["responses"] }
  let limits : ProviderLimitsV1 :=
    { max_control_frame_bytes := 1048576, max_rpc_replay_entries := 1, max_concurrent_requests := 1,
      provider_deadline_ms := 1, max_request_bytes := 4096, max_response_bytes := 4096 }
  exact ⟨⟨⟨"domain", by decide⟩, ⟨1, by decide⟩, ⟨[]⟩, ⟨limits, [endpoint]⟩⟩, endpoint, model, by decide, by simp,
    by simp [endpoint], rfl⟩

theorem escaped_quotes (count : Nat) : escaped_length (List.replicate count (Char.ofNat 34)) = count * 2 := by
  have hquote : byte_length (escaped (Char.ofNat 34)) = 2 := by decide
  induction count with
  | zero => rfl
  | succ count ih =>
    rw [List.replicate_succ, escaped_length_cons, ih, hquote]
    omega

/-- Values of quotation marks only take twice their length. -/
theorem quoted_header_bytes {response : HttpResponse} {count : Nat} (hcount : count ≤ 512)
    (h : response.header = fun _ => some (List.replicate count 34)) :
    header_bytes response.headers = header_bytes (RETAINED_HEADERS.map fun name => (name, [])) + 10 * count := by
  have hread : to_str (List.replicate count 34) = some (List.replicate count (Char.ofNat 34)) := by
    rw [to_str, if_pos (by simp), List.map_replicate]
    rfl
  have hkept : ∀ name, retained_header response.header name = some (name, List.replicate count (Char.ofNat 34)) := by
    intro name
    simp [retained_header, h, hread, hcount]
  have hheaders : response.headers = RETAINED_HEADERS.map fun name =>
      (name, List.replicate count (Char.ofNat 34)) := by
    simp [sanitize_response_headers, hkept, RETAINED_HEADERS]
  have hnil : escaped_length [] = 0 := rfl
  rw [hheaders, header_bytes, header_bytes]
  simp only [RETAINED_HEADERS, List.map_cons, List.map_nil, List.sum_cons, List.sum_nil, List.length_cons,
    List.length_nil, escaped_quotes, hnil]
  omega

/-- Under an accepted configuration a complete response is lost: `infer` reports that the
policy is too small, and the dispatch stays indeterminate. -/
theorem quoted_response_lost : ∃ (core : ProviderCore) (endpoint : ProviderEndpointConfigV1)
    (model : ProviderModelPolicyConfigV1) (dispatch : Digest) (response : HttpResponse),
    core.config.validate = .ok () ∧ endpoint ∈ core.config.endpoints ∧ model ∈ endpoint.models ∧
      ∀ protocol_terminal,
        core.infer ideal_sha model protocol_terminal dispatch response = .error .ConfiguredEventLimitTooSmall ∧
          core.fetch_inference ideal_sha (some (core.reserved dispatch)) dispatch =
            .error .DispatchOutcomeIndeterminate := by
  obtain ⟨core, endpoint, model, hvalid, hendpoint, hmodel, hmaximum⟩ := exists_smallest
  refine ⟨core, endpoint, model, ⟨[]⟩, ⟨200, fun _ => some (List.replicate 512 34), []⟩, hvalid, hendpoint, hmodel,
    fun protocol_terminal => ⟨?_, ?_⟩⟩
  · have hbytes := quoted_header_bytes (Nat.le_refl 512) (show HttpResponse.header ⟨200, _, []⟩ = _ from rfl)
    have hminimum : model.max_event_stream_bytes.toNat = 4096 := hmaximum
    rw [ProviderCore.infer, kept_eq (validated_bounds hvalid hendpoint hmodel).2, if_neg, if_neg]
    · rfl
    · rw [exceeded_le_iff, HttpResponse.ExcessFits]
      omega
    · rw [complete_le_iff, HttpResponse.CompleteFits]
      omega
  · simp [ProviderCore.fetch_inference, ProviderCore.validate_dispatch_identity, ProviderCore.reserved, ok_or, reject,
      bind, Except.bind]

/-- Under the smallest bound every response reaches custody whose five kept headers are at
most 256 quotation marks each, whatever its status and its body. -/
theorem quoted_response_reaches_custody : ∃ (core : ProviderCore) (endpoint : ProviderEndpointConfigV1)
    (model : ProviderModelPolicyConfigV1), core.config.validate = .ok () ∧ endpoint ∈ core.config.endpoints ∧
      model ∈ endpoint.models ∧ ∀ count ≤ 256, ∀ protocol_terminal dispatch status body,
        ReachesCustody ideal_sha core model protocol_terminal dispatch
          ⟨status, fun _ => some (List.replicate count 34), body⟩ := by
  obtain ⟨core, endpoint, model, hvalid, hendpoint, hmodel, hmaximum⟩ := exists_smallest
  refine ⟨core, endpoint, model, hvalid, hendpoint, hmodel, ?_⟩
  intro count hcount protocol_terminal dispatch status body
  refine (response_reaches_custody_iff hvalid hendpoint hmodel).mpr (.inr ?_)
  have hheaders := quoted_header_bytes (hcount.trans (by decide))
    (show HttpResponse.header ⟨status, fun _ => some (List.replicate count 34), body⟩ = _ from rfl)
  have hnames : header_bytes (RETAINED_HEADERS.map fun name => (name, [])) ≤ 100 := by decide +kernel
  have hnumber : number_bytes model.max_event_stream_bytes.toNat ≤ 4 * 20 :=
    number_bytes_le (by decide) (UInt64.toNat_lt _ |>.trans (by decide))
  have hstatus : number_bytes status.toNat ≤ 4 * 5 := number_bytes_le (by decide) (status.toNat_lt.trans (by decide))
  have hminimum : model.max_event_stream_bytes.toNat = 4096 := hmaximum
  rw [HttpResponse.ExcessFits, hheaders]
  dsimp only
  omega

end ag_providerd

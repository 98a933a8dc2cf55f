import AgentGovernor.Governed.Identity
import AgentGovernor.Primitives.Uuid

open ag_primitives Checked

/-- The hyphenated text of an occurrence. -/
def ag_campaign.governed.OccurrenceId.to_string (occurrence : OccurrenceId) : String :=
  String.ofList (uuid_text occurrence.uuid)

namespace ag_operator_ui

open ag_campaign.governed (OccurrenceId)

/-- Exact canonical identities addressed by one read-only runtime link. -/
structure GovernedRuntimeLinkV1 where
  campaign : Digest
  occurrence : OccurrenceId
  proposal : Option Digest

/-- The digests of a link have the width of the source. -/
structure GovernedRuntimeLinkV1.Sized (link : GovernedRuntimeLinkV1) : Prop where
  campaign : link.campaign.hex.length = 64
  proposal : ∀ proposal ∈ link.proposal, proposal.hex.length = 64

/-- A reader of occurrences, as the `uuid` crate has one: it may accept more than the
hyphenated text, and that one it reads back. -/
def ReadsBack (from_value : String → Except String OccurrenceId) : Prop :=
  ∀ occurrence, from_value occurrence.to_string = .ok occurrence

def hex_upper (digit : UInt8) : Char := Char.ofUInt8 (if digit < 10 then 48 + digit else 55 + digit)

def is_unreserved (byte : UInt8) : Bool :=
  (Char.ofUInt8 byte).isAlphanum || "-._~".toList.contains (Char.ofUInt8 byte)

def encode_byte (byte : UInt8) : List Char :=
  if is_unreserved byte then [Char.ofUInt8 byte] else ['%', hex_upper (byte / 16), hex_upper (byte % 16)]

def encode_segment (value : String) : String :=
  String.ofList (value.toByteArray.data.toList.flatMap encode_byte)

def hex_value (value : UInt8) : Except String UInt8 :=
  if 48 ≤ value ∧ value ≤ 57 then .ok (value - 48)
  else if 97 ≤ value ∧ value ≤ 102 then .ok (value - 97 + 10)
  else if 65 ≤ value ∧ value ≤ 70 then .ok (value - 65 + 10)
  else .error "invalid percent escape in semantic path"

def decode_bytes : List UInt8 → Except String (List UInt8)
  | [] => .ok []
  | byte :: rest =>
    if byte = 37 then
      match rest with
      | high :: low :: rest => do
        let high ← hex_value high
        let low ← hex_value low
        return (high <<< 4 ||| low) :: (← decode_bytes rest)
      | _ => .error "truncated percent escape in semantic path"
    else return byte :: (← decode_bytes rest)

def decode_segment (value : String) : Except String String := do
  let decoded ← decode_bytes value.toByteArray.data.toList
  ok_or (String.fromUTF8? ⟨decoded.toArray⟩) "semantic path identity is not UTF-8"

namespace GovernedRuntimeLinkV1

variable (from_value : String → Except String OccurrenceId)

def relative_path (link : GovernedRuntimeLinkV1) : String :=
  "/phosphor-ng/campaigns/" ++ encode_segment link.campaign.as_str ++ "/occurrences/" ++
    link.occurrence.to_string ++
    match link.proposal with
    | some proposal => "/proposals/" ++ encode_segment proposal.as_str
    | none => ""

/-- A digest in one segment of a path. -/
def parse_identity (field segment : String) : Except String Digest := do
  let text ← decode_segment segment
  reject (encode_segment text ≠ segment) (field ++ " identity path encoding is not canonical")
  map_err (Digest.parse text) fun error => "invalid canonical " ++ field ++ " identity: " ++ error.to_string

/-- The segments behind `phosphor-ng`. -/
def parse_segments (campaigns campaign occurrences occurrence : String) (proposal : Option (String × String)) :
    Except String GovernedRuntimeLinkV1 := do
  reject (campaigns ≠ "campaigns" ∨ occurrences ≠ "occurrences" ∨ ∃ pair ∈ proposal, pair.1 ≠ "proposals")
    "malformed Phosphor semantic path"
  let campaign ← parse_identity "campaign" campaign
  let parsed ← map_err (from_value occurrence) fun error => "invalid canonical occurrence identity: " ++ error
  reject (parsed.to_string ≠ occurrence) "occurrence identity is not canonical lowercase hyphenated UUID"
  match proposal with
  | some (_, proposal) => return ⟨campaign, parsed, some (← parse_identity "proposal" proposal)⟩
  | none => return ⟨campaign, parsed, none⟩

/-- The path is split behind one leading separator, whether it has one or not. -/
def segments (path : String) : List String :=
  ((if path.toList.head? = some '/' then path.toList.tail else path.toList).splitOn '/').map String.ofList

def parse_path (path : String) : Except String (Option GovernedRuntimeLinkV1) :=
  if (segments path).head? ≠ some "phosphor-ng" then .ok none
  else
    match (segments path).tail with
    | [campaigns, campaign, occurrences, occurrence] =>
      some <$> parse_segments from_value campaigns campaign occurrences occurrence none
    | [campaigns, campaign, occurrences, occurrence, proposals, proposal] =>
      some <$> parse_segments from_value campaigns campaign occurrences occurrence (some (proposals, proposal))
    | _ => .error "malformed Phosphor semantic path"

end GovernedRuntimeLinkV1

/-- `text.strip_prefix(lead)`. -/
def strip_start (text lead : String) : Option String :=
  if lead.toList <+: text.toList then some (String.ofList (text.toList.drop lead.toList.length)) else none

def valid_token (token : String) : Bool :=
  !token.isEmpty && token.utf8ByteSize ≤ 510 && token.utf8ByteSize % 2 == 0 &&
    token.toList.all fun character => character.isDigit || "abcdefABCDEF".toList.contains character

/-- What a request is answered with, by page or as JSON. -/
inductive RouteV1 where
  | link_page (link : GovernedRuntimeLinkV1)
  | link_json (link : GovernedRuntimeLinkV1)
  | invalid_page (error : String)
  | invalid_json (error : String)
  | campaign_page (token : String)
  | campaign_json (token : String)
  | not_found

def token_route (path : String) : RouteV1 :=
  match (strip_start path "/campaign/").filter valid_token with
  | some token => .campaign_page token
  | none =>
    match (strip_start path "/api/v1/campaigns/").filter valid_token with
    | some token => .campaign_json token
    | none => .not_found

def campaign_route (from_value : String → Except String OccurrenceId) (path : String) : RouteV1 :=
  match GovernedRuntimeLinkV1.parse_path from_value path with
  | .ok (some link) => .link_page link
  | .error error => .invalid_page error
  | .ok none =>
    match (strip_start path "/api/v1").map (GovernedRuntimeLinkV1.parse_path from_value) with
    | some (.ok (some link)) => .link_json link
    | some (.error error) => .invalid_json error
    | _ => token_route path

/-- What the encoder writes for one byte is printable, has no separator, and reads back. -/
theorem encode_byte_spec (byte : UInt8) :
    (encode_byte byte).all (fun character => character.val ≤ 127 ∧ character ≠ '/') = true ∧
    (is_unreserved byte → byte ≠ 37 ∧ (Char.ofUInt8 byte).toUInt8 = byte) ∧
    hex_value (hex_upper (byte / 16)).toUInt8 = .ok (byte / 16) ∧
    hex_value (hex_upper (byte % 16)).toUInt8 = .ok (byte % 16) ∧ (byte / 16) <<< 4 ||| byte % 16 = byte := by
  obtain ⟨⟨value⟩⟩ := byte
  revert value
  decide +kernel

theorem decode_encode_bytes (bytes : List UInt8) :
    decode_bytes ((bytes.flatMap encode_byte).map Char.toUInt8) = .ok bytes := by
  induction bytes with
  | nil => rfl
  | cons byte rest ih =>
    obtain ⟨-, hplain, hhigh, hlow, hjoined⟩ := encode_byte_spec byte
    rw [List.flatMap_cons, List.map_append, encode_byte]
    split
    next hunreserved =>
      obtain ⟨hpercent, hsame⟩ := hplain hunreserved
      rw [List.map_singleton, hsame, List.singleton_append, decode_bytes.eq_def]
      simp only [if_neg hpercent, ih]
      rfl
    next =>
      have hpercent : '%'.toUInt8 = 37 := by decide
      simp [decode_bytes, hpercent, hhigh, hlow, hjoined, ih, pure, Except.pure, bind, Except.bind]

theorem decode_encode (text : String) : decode_segment (encode_segment text) = .ok text := by
  have hascii : ∀ character ∈ text.toByteArray.data.toList.flatMap encode_byte, character.val ≤ 127 := by
    intro character hmem
    obtain ⟨byte, -, hmem⟩ := List.mem_flatMap.mp hmem
    exact (of_decide_eq_true (List.all_eq_true.mp (encode_byte_spec byte).1 character hmem)).1
  have hutf8 : String.fromUTF8? text.toByteArray = some text := by
    rw [String.fromUTF8?, dif_pos text.isValidUTF8]
    rfl
  rw [decode_segment, encode_segment, Digest.utf8_ascii hascii, decode_encode_bytes]
  simp [ok_rules, hutf8]

theorem separator_not_mem_encode (text : String) : '/' ∉ (encode_segment text).toList := by
  rw [encode_segment, String.toList_ofList]
  intro hmem
  obtain ⟨byte, -, hmem⟩ := List.mem_flatMap.mp hmem
  exact (of_decide_eq_true (List.all_eq_true.mp (encode_byte_spec byte).1 _ hmem)).2 rfl

namespace GovernedRuntimeLinkV1

/-- The segments of a canonical path. -/
def canonical_segments (link : GovernedRuntimeLinkV1) : List String :=
  ["phosphor-ng", "campaigns", encode_segment link.campaign.as_str, "occurrences", link.occurrence.to_string] ++
    match link.proposal with
    | some proposal => ["proposals", encode_segment proposal.as_str]
    | none => []

variable {from_value : String → Except String OccurrenceId} {path : String} {link : GovernedRuntimeLinkV1}

theorem relative_path_toList : link.relative_path.toList =
    '/' :: ['/'].intercalate (link.canonical_segments.map String.toList) := by
  unfold relative_path canonical_segments
  cases link.proposal <;> simp [List.intercalate]

theorem parse_identity_eq_ok_iff {field segment : String} {digest : Digest} :
    parse_identity field segment = .ok digest ↔
      segment = encode_segment digest.as_str ∧ digest.hex.length = 64 := by
  simp only [parse_identity, ok_rules, Digest.parse_eq_ok_iff]
  constructor
  · rintro ⟨_, -, rfl, rfl, hlength⟩
    exact ⟨rfl, hlength⟩
  · rintro ⟨rfl, hlength⟩
    exact ⟨_, decode_encode _, rfl, rfl, hlength⟩

theorem parse_segments_eq_ok_iff (hreads : ReadsBack from_value) {campaigns campaign occurrences occurrence : String}
    {proposal : Option (String × String)} :
    parse_segments from_value campaigns campaign occurrences occurrence proposal = .ok link ↔
      (campaigns = "campaigns" ∧ occurrences = "occurrences" ∧ campaign = encode_segment link.campaign.as_str ∧
        occurrence = link.occurrence.to_string ∧
          proposal = link.proposal.map fun digest => ("proposals", encode_segment digest.as_str)) ∧ link.Sized := by
  simp only [parse_segments, ok_rules, parse_identity_eq_ok_iff, not_exists, not_and]
  constructor
  · rintro ⟨⟨rfl, rfl, hproposals⟩, digest, ⟨rfl, hcampaign⟩, parsed, hparsed, rfl, h⟩
    cases proposal with
    | none =>
      obtain rfl := pure_eq_ok_iff.mp h
      exact ⟨⟨rfl, rfl, rfl, rfl, rfl⟩, hcampaign, by simp⟩
    | some pair =>
      simp only [bind_eq_ok_iff, parse_identity_eq_ok_iff] at h
      obtain ⟨other, ⟨hother, hproposal⟩, h⟩ := h
      obtain rfl := pure_eq_ok_iff.mp h
      exact ⟨⟨rfl, rfl, rfl, rfl, congrArg some (Prod.ext (hproposals pair rfl) hother)⟩, hcampaign,
        by simpa using hproposal⟩
  · rintro ⟨⟨rfl, rfl, rfl, rfl, rfl⟩, hcampaign, hproposal⟩
    refine ⟨⟨rfl, rfl, by simp⟩, _, ⟨rfl, hcampaign⟩, _, hreads _, rfl, ?_⟩
    obtain ⟨digest, occurrence, proposal⟩ := link
    cases proposal with
    | none => rfl
    | some proposal =>
      exact bind_eq_ok_iff.mpr ⟨proposal, parse_identity_eq_ok_iff.mpr ⟨rfl, hproposal proposal rfl⟩, rfl⟩

/-- A path is accepted for a link exactly when its segments are the canonical ones. -/
theorem parse_path_eq_some_iff (hreads : ReadsBack from_value) :
    parse_path from_value path = .ok (some link) ↔ segments path = link.canonical_segments ∧ link.Sized := by
  have hsegments := @parse_segments_eq_ok_iff from_value link hreads
  unfold parse_path canonical_segments
  generalize segments path = found
  cases found with
  | nil => simp
  | cons root rest =>
    by_cases hroot : root = "phosphor-ng"
    · subst hroot
      simp only [List.head?_cons, ne_eq, not_true_eq_false, if_false, List.tail_cons]
      obtain ⟨digest, occurrence, proposal⟩ := link
      split <;> cases proposal <;> simp_all [map_eq_ok_iff] <;> grind
    · simp [hroot]

/-- An accepted path is the canonical one, or that one without its leading separator. -/
theorem parse_path_spelled_iff (hreads : ReadsBack from_value) :
    parse_path from_value path = .ok (some link) ↔
      link.relative_path.toList = (if path.toList.head? = some '/' then path.toList else '/' :: path.toList) ∧
        link.Sized := by
  have hseparated : ∀ segment ∈ link.canonical_segments.map String.toList, '/' ∉ segment := by
    obtain ⟨digest, occurrence, proposal⟩ := link
    cases proposal <;> simp [canonical_segments, separator_not_mem_encode, OccurrenceId.to_string,
      separator_not_mem_uuid_text]
  have hsplit : ∀ body : List Char, (body.splitOn '/').map String.ofList = link.canonical_segments ↔
      body = ['/'].intercalate (link.canonical_segments.map String.toList) := by
    intro body
    constructor
    · intro h
      rw [← h, List.map_map]
      simp [Function.comp_def, List.intercalate_splitOn]
    · rintro rfl
      rw [List.splitOn_intercalate _ hseparated (by simp [canonical_segments])]
      simp [Function.comp_def]
  rw [parse_path_eq_some_iff hreads, segments, hsplit, relative_path_toList]
  refine and_congr_left fun _ => ?_
  split
  next hhead =>
    obtain ⟨rest, hpath⟩ := List.head?_eq_some_iff.mp hhead
    rw [hpath, List.tail_cons, List.cons.injEq, and_iff_right rfl, eq_comm]
  next => rw [List.cons.injEq, and_iff_right rfl, eq_comm]

/-- Every link is read back from its path. A path that reads as a link is the canonical one
if and only if it starts with the separator, and so is what is served, directly or behind
`/api/v1`. -/
theorem deep_links_spelled_once (hreads : ReadsBack from_value) :
    (∀ link : GovernedRuntimeLinkV1, link.Sized → parse_path from_value link.relative_path = .ok (some link)) ∧
    (∀ path link, parse_path from_value path = .ok (some link) →
      (path = link.relative_path ↔ path.toList.head? = some '/')) ∧
    (∀ path other link, parse_path from_value path = .ok (some link) →
      parse_path from_value other = .ok (some link) →
      (path = other ↔ (path.toList.head? = some '/' ↔ other.toList.head? = some '/'))) ∧
    (∀ path link, campaign_route from_value path = .link_page link →
      (path = link.relative_path ↔ path.toList.head? = some '/')) ∧
    ∀ path link, campaign_route from_value path = .link_json link →
      (path = "/api/v1" ++ link.relative_path ↔ "/api/v1/".toList <+: path.toList) := by
  have hcanonical : ∀ path link, parse_path from_value path = .ok (some link) →
      (path = link.relative_path ↔ path.toList.head? = some '/') := by
    intro path link h
    rw [parse_path_spelled_iff hreads] at h
    constructor
    · rintro rfl
      rw [relative_path_toList]
      rfl
    · intro hhead
      rw [if_pos hhead, String.toList_inj] at h
      exact h.1.symm
  have htoken : ∀ path link, token_route path ≠ .link_page link ∧ token_route path ≠ .link_json link := by
    intro path link
    unfold token_route
    constructor <;> grind
  refine ⟨fun link hsized => ?_, hcanonical, fun path other link hpath hother => ?_, fun path link h => ?_,
    fun path link h => ?_⟩
  · rw [parse_path_spelled_iff hreads, if_pos (by rw [relative_path_toList]; rfl)]
    exact ⟨rfl, hsized⟩
  · replace hpath := ((parse_path_spelled_iff hreads).mp hpath).1
    replace hother := ((parse_path_spelled_iff hreads).mp hother).1
    rw [hpath] at hother
    rw [← String.toList_inj]
    split at hother <;> split at hother <;> simp_all
    all_goals grind
  · refine hcanonical path link ?_
    unfold campaign_route at h
    grind
  · unfold campaign_route at h
    have hserved : (strip_start path "/api/v1").map (parse_path from_value) = some (.ok (some link)) := by grind
    obtain ⟨rest, hrest, hparsed⟩ := Option.map_eq_some_iff.mp hserved
    have hpath : path = "/api/v1" ++ rest := by
      unfold strip_start at hrest
      split at hrest
      next hlead =>
        obtain ⟨tail, htail⟩ := hlead
        rw [← htail, List.drop_left, Option.some.injEq] at hrest
        rw [← String.toList_inj, ← htail, ← hrest]
        simp
      next => cases hrest
    have hlead : "/api/v1/".toList = "/api/v1".toList ++ ['/'] := by decide
    rw [hpath, hlead, String.toList_append, List.prefix_append_right_inj, ← String.toList_inj, String.toList_append,
      String.toList_append, List.append_cancel_left_eq, String.toList_inj, hcanonical rest link hparsed]
    cases rest.toList <;> simp [eq_comm]

/-- The reader of hyphenated lowercase texts. -/
def read_occurrence (text : String) : Except String OccurrenceId :=
  ok_or ((read_uuid text).map OccurrenceId.mk) "invalid UUID"

theorem read_occurrence_reads_back : ReadsBack read_occurrence := by
  intro occurrence
  rw [read_occurrence, OccurrenceId.to_string, read_uuid_text]
  rfl

/-- A link without its leading separator, written out. -/
def sample_path : String :=
  "phosphor-ng/campaigns/sha256%3A" ++ String.ofList (List.replicate 64 '0') ++
    "/occurrences/00000000-0000-0000-0000-000000000001/proposals/sha256%3A" ++ String.ofList (List.replicate 64 'f')

def sample_link : GovernedRuntimeLinkV1 := ⟨⟨List.replicate 64 0⟩, ⟨1⟩, some ⟨List.replicate 64 15⟩⟩

theorem sample_link_sized : sample_link.Sized := ⟨rfl, by simp [sample_link]⟩

theorem deep_links_spelled_once_sample : ReadsBack read_occurrence ∧ sample_link.Sized ∧
    parse_path read_occurrence ("/" ++ sample_path) = .ok (some sample_link) := by
  have hpath : "/" ++ sample_path = sample_link.relative_path := by decide +kernel
  rw [hpath]
  exact ⟨read_occurrence_reads_back, sample_link_sized,
    (deep_links_spelled_once read_occurrence_reads_back).1 sample_link sample_link_sized⟩

/-- Without the leading separator the path still reads as the link, and the link is served. -/
theorem unrooted_link_served : ∃ path link, parse_path read_occurrence path = .ok (some link) ∧
    campaign_route read_occurrence path = .link_page link ∧ path ≠ link.relative_path := by
  have hparsed : parse_path read_occurrence sample_path = .ok (some sample_link) := by
    rw [parse_path_eq_some_iff read_occurrence_reads_back]
    exact ⟨by decide +kernel, sample_link_sized⟩
  refine ⟨_, _, hparsed, by rw [campaign_route, hparsed], ?_⟩
  decide +kernel

end GovernedRuntimeLinkV1

end ag_operator_ui

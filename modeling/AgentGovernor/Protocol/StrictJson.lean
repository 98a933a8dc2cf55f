import AgentGovernor.Lib.Checked
import Mathlib.Data.List.Sort

open Checked

namespace ag_protocol

/-- A JSON document as it is read. An object may repeat a key, and a number that is not a machine
integer is a float. -/
inductive Json where
  | null
  | bool (value : Bool)
  | int (value : Int)
  | float
  | str (value : String)
  | arr (items : List Json)
  | obj (members : List (String × Json))

inductive ProtocolError where
  | InvalidUtf8
  | InvalidJson (error : String)
  | DuplicateKey (path key : String)
  | Canonicalization (error : String)
  | UnknownFields (paths : List String)
  deriving DecidableEq

def ProtocolError.to_string : ProtocolError → String
  | .InvalidUtf8 => "payload is not valid UTF-8"
  | .InvalidJson error => "invalid JSON: " ++ error
  | .DuplicateKey path key => "duplicate JSON key " ++ reprStr key ++ " at " ++ path
  | .Canonicalization error => "canonical JSON serialization failed: " ++ error
  | .UnknownFields paths => "unknown JSON fields: " ++ toString (paths.map reprStr)

def json_pointer_escape (value : String) : String :=
  String.ofList (value.toList.flatMap fun character =>
    if character = '~' then ['~', '0'] else if character = '/' then ['~', '1'] else [character])

mutual

/-- `UniqueValueVisitor`. The value it builds is the tree it visits. -/
def visit (path : String) : Json → Except ProtocolError Unit
  | .float => .error (.InvalidJson "floating-point JSON numbers are forbidden")
  | .arr items => visit_seq path 0 items
  | .obj members => visit_map path [] members
  | _ => .ok ()

def visit_seq (path : String) (index : Nat) : List Json → Except ProtocolError Unit
  | [] => .ok ()
  | item :: rest => do
    visit (path ++ "/" ++ toString index) item
    visit_seq path (index + 1) rest

def visit_map (path : String) (keys : List String) : List (String × Json) → Except ProtocolError Unit
  | [] => .ok ()
  | (key, value) :: rest => do
    reject (key ∈ keys) (.DuplicateKey path key)
    visit (path ++ "/" ++ json_pointer_escape key) value
    visit_map path (key :: keys) rest

end

mutual

def collect_unknown_paths (path : String) : Json → Json → List String
  | .obj members, .obj normalized => collect_members path normalized members
  | .arr items, .arr normalized => collect_items path 0 items normalized
  | _, _ => []

def collect_members (path : String) (normalized : List (String × Json)) : List (String × Json) → List String
  | [] => []
  | (key, value) :: rest =>
    let child_path := path ++ "/" ++ json_pointer_escape key
    (match normalized.lookup key with
      | some normalized_value => collect_unknown_paths child_path value normalized_value
      | none => [child_path]) ++ collect_members path normalized rest

/-- `zip` ends with the shorter array. -/
def collect_items (path : String) (index : Nat) : List Json → List Json → List String
  | item :: rest, normalized :: others =>
    collect_unknown_paths (path ++ "/" ++ toString index) item normalized ++ collect_items path (index + 1) rest others
  | _, _ => []

end

/-- The destination type, by its decoder and its encoder, and the JSON reader. -/
structure Destination (T : Type) where
  read : List UInt8 → Except String Json
  from_value : Json → Except String T
  to_value : T → Except String Json

variable {T : Type} (destination : Destination T)

def parse_duplicate_free_value (bytes : List UInt8) : Except ProtocolError Json := do
  let value ← map_err (destination.read bytes) .InvalidJson
  visit "" value
  pure value

def strict_json_from_slice (bytes : List UInt8) : Except ProtocolError T := do
  reject (ByteArray.validateUTF8 ⟨bytes.toArray⟩ = false) .InvalidUtf8
  let value ← parse_duplicate_free_value destination bytes
  let decoded ← map_err (destination.from_value value) .InvalidJson
  let normalized ← map_err (destination.to_value decoded) .Canonicalization
  let unknown := (collect_unknown_paths "" value normalized).mergeSort.dedup
  reject (unknown ≠ []) (.UnknownFields unknown)
  pure decoded

/-- One step into a document. -/
inductive Place where
  | key (name : String)
  | index (position : Nat)

namespace Json

def locate : Json → List Place → Option Json
  | value, [] => some value
  | .obj members, .key name :: rest => (members.lookup name).bind fun child => child.locate rest
  | .arr items, .index position :: rest => items[position]?.bind fun child => child.locate rest
  | _, _ :: _ => none

/-- Every key of the input stands at the same place in the encoding. -/
def KeysRead (input normalized : Json) : Prop :=
  ∀ place members, input.locate place = some (.obj members) → ∀ key ∈ members.map Prod.fst,
    (normalized.locate (place ++ [.key key])).isSome

/-- Where the input has an object with a key, the encoding has an object. -/
def ObjectsMet (input normalized : Json) : Prop :=
  ∀ place members, input.locate place = some (.obj members) → members ≠ [] →
    ∃ found, normalized.locate place = some (.obj found)

theorem locate_append (value : Json) (place rest : List Place) :
    value.locate (place ++ rest) = (value.locate place).bind fun found => found.locate rest := by
  induction place generalizing value with
  | nil => rfl
  | cons step place ih => cases value <;> cases step <;> simp [locate, ih, Option.bind_assoc]

/-- A key is found in an object only. -/
theorem locate_key_isSome_iff {value : Json} {key : String} :
    (value.locate [.key key]).isSome ↔ ∃ members, value = .obj members ∧ (members.lookup key).isSome := by
  cases value <;> simp [locate]

end Json

theorem mem_of_lookup {members : List (String × Json)} {key : String} {value : Json}
    (h : members.lookup key = some value) : (key, value) ∈ members := by
  obtain ⟨front, back, rfl, -⟩ := List.lookup_eq_some_iff.mp h
  simp

theorem visit_seq_ok {path : String} {index position : Nat} {items : List Json} {item : Json}
    (h : visit_seq path index items = .ok ()) (hitem : items[position]? = some item) :
    ∃ path, visit path item = .ok () := by
  induction items generalizing index position with
  | nil => simp at hitem
  | cons first rest ih =>
    simp only [visit_seq, ok_rules] at h
    cases position with
    | zero =>
      obtain rfl : first = item := by simpa using hitem
      exact ⟨_, h.1⟩
    | succ position => exact ih h.2 (by simpa using hitem)

theorem visit_map_ok {path : String} {keys : List String} {members : List (String × Json)}
    (h : visit_map path keys members = .ok ()) :
    (members.map Prod.fst).Nodup ∧ (∀ member ∈ members, member.1 ∉ keys) ∧
      ∀ member ∈ members, ∃ path, visit path member.2 = .ok () := by
  induction members generalizing keys with
  | nil => simp
  | cons member rest ih =>
    simp only [visit_map, ok_rules] at h
    obtain ⟨hnodup, hfresh, hvisited⟩ := ih h.2.2
    simp only [List.mem_cons, not_or] at hfresh
    refine ⟨List.nodup_cons.mpr ⟨fun hmem => ?_, hnodup⟩,
      List.forall_mem_cons.mpr ⟨h.1, fun other hother => (hfresh other hother).2⟩,
      List.forall_mem_cons.mpr ⟨⟨_, h.2.1⟩, hvisited⟩⟩
    obtain ⟨other, hother, hsame⟩ := List.mem_map.mp hmem
    exact (hfresh other hother).1 hsame

/-- What is visited is visited at every place. -/
theorem visit_locate {path : String} {input found : Json} {place : List Place} (h : visit path input = .ok ())
    (hfound : input.locate place = some found) : ∃ path, visit path found = .ok () := by
  induction place generalizing input path with
  | nil =>
    obtain rfl : input = found := by simpa [Json.locate] using hfound
    exact ⟨path, h⟩
  | cons step place ih =>
    cases input <;> cases step <;> simp only [Json.locate, Option.bind_eq_some_iff, reduceCtorEq] at hfound
    · obtain ⟨child, hchild, hfound⟩ := hfound
      obtain ⟨path, hchild⟩ := visit_seq_ok (by simpa [visit] using h) hchild
      exact ih hchild hfound
    · obtain ⟨child, hchild, hfound⟩ := hfound
      obtain ⟨-, -, hvisited⟩ := visit_map_ok (by simpa [visit] using h)
      obtain ⟨path, hchild⟩ := hvisited _ (mem_of_lookup hchild)
      exact ih hchild hfound

theorem collect_members_eq_nil {path : String} {normalized members : List (String × Json)}
    (h : collect_members path normalized members = []) {member : String × Json} (hmem : member ∈ members) :
    ∃ value path, normalized.lookup member.1 = some value ∧ collect_unknown_paths path member.2 value = [] := by
  induction members with
  | nil => simp at hmem
  | cons first rest ih =>
    simp only [collect_members, List.append_eq_nil_iff] at h
    rcases List.mem_cons.mp hmem with rfl | hmem
    · cases hlookup : normalized.lookup member.1 with
      | none => simp [hlookup] at h
      | some value => exact ⟨value, _, rfl, by simpa [hlookup] using h.1⟩
    · exact ih h.2 hmem

theorem collect_items_eq_nil {path : String} {index position : Nat} {items normalized : List Json} {item value : Json}
    (h : collect_items path index items normalized = []) (hitem : items[position]? = some item)
    (hvalue : normalized[position]? = some value) : ∃ path, collect_unknown_paths path item value = [] := by
  induction items generalizing index position normalized with
  | nil => simp at hitem
  | cons first rest ih =>
    cases normalized with
    | nil => simp at hvalue
    | cons other others =>
      simp only [collect_items, List.append_eq_nil_iff] at h
      cases position with
      | zero =>
        obtain rfl : first = item := by simpa using hitem
        obtain rfl : other = value := by simpa using hvalue
        exact ⟨_, h.1⟩
      | succ position => exact ih h.2 (by simpa using hitem) (by simpa using hvalue)

/-- Where an object of the input meets one of the encoding, its keys were looked for. -/
theorem collect_locate {path : String} {input normalized : Json} {place : List Place}
    {members found : List (String × Json)} (h : collect_unknown_paths path input normalized = [])
    (hinput : input.locate place = some (.obj members)) (hnormalized : normalized.locate place = some (.obj found)) :
    ∀ key ∈ members.map Prod.fst, (found.lookup key).isSome := by
  induction place generalizing input normalized path with
  | nil =>
    obtain rfl : input = .obj members := by simpa [Json.locate] using hinput
    obtain rfl : normalized = .obj found := by simpa [Json.locate] using hnormalized
    intro key hkey
    obtain ⟨member, hmember, rfl⟩ := List.mem_map.mp hkey
    obtain ⟨value, -, hvalue, -⟩ := collect_members_eq_nil (by simpa [collect_unknown_paths] using h) hmember
    simp [hvalue]
  | cons step place ih =>
    cases input <;> cases normalized <;> cases step <;>
      simp only [Json.locate, Option.bind_eq_some_iff, reduceCtorEq] at hinput hnormalized
    · obtain ⟨item, hitem, hinput⟩ := hinput
      obtain ⟨value, hvalue, hnormalized⟩ := hnormalized
      obtain ⟨path, hnone⟩ := collect_items_eq_nil (by simpa [collect_unknown_paths] using h) hitem hvalue
      exact ih hnone hinput hnormalized
    · obtain ⟨item, hitem, hinput⟩ := hinput
      obtain ⟨value, hvalue, hnormalized⟩ := hnormalized
      obtain ⟨other, path, hother, hnone⟩ := collect_members_eq_nil (by simpa [collect_unknown_paths] using h)
        (mem_of_lookup hitem)
      obtain rfl := Option.some.inj (hvalue.symm.trans hother)
      exact ih hnone hinput hnormalized

section Strict

variable {bytes : List UInt8} {decoded : T}

/-- What is decoded strictly repeats no key and has no float. Its keys were all read if and only if
every object with a key met an object of the encoding. -/
theorem strict_json_ignores_nothing_iff (h : strict_json_from_slice destination bytes = .ok decoded) :
    ∃ input normalized, destination.read bytes = .ok input ∧ destination.from_value input = .ok decoded ∧
      destination.to_value decoded = .ok normalized ∧
      (∀ place members, input.locate place = some (.obj members) → (members.map Prod.fst).Nodup) ∧
      (∀ place, input.locate place ≠ some .float) ∧ (input.KeysRead normalized ↔ input.ObjectsMet normalized) := by
  simp only [strict_json_from_slice, parse_duplicate_free_value, ok_rules] at h
  obtain ⟨-, _, ⟨input, hread, hvisit, rfl⟩, _, hdecoded, normalized, hnormalized, hunknown, rfl⟩ := h
  have hcollected : collect_unknown_paths "" input normalized = [] := by
    rw [List.dedup_eq_nil] at hunknown
    exact List.perm_nil.mp (hunknown ▸ (List.mergeSort_perm _ _).symm)
  refine ⟨input, normalized, hread, hdecoded, hnormalized, fun place members hplace => ?_, fun place hplace => ?_, ?_⟩
  · obtain ⟨path, hvisited⟩ := visit_locate hvisit hplace
    exact (visit_map_ok (by simpa [visit] using hvisited)).1
  · obtain ⟨path, hvisited⟩ := visit_locate hvisit hplace
    simp [visit] at hvisited
  · simp only [Json.KeysRead, Json.ObjectsMet, Json.locate_append]
    constructor
    · intro hkeys place members hplace hne
      obtain ⟨member, hmember⟩ := List.exists_mem_of_ne_nil members hne
      have hsome := hkeys place members hplace member.1 (List.mem_map_of_mem hmember)
      cases hfound : normalized.locate place with
      | none => simp [hfound] at hsome
      | some value =>
        rw [hfound, Option.bind_some, Json.locate_key_isSome_iff] at hsome
        obtain ⟨found, rfl, -⟩ := hsome
        exact ⟨found, rfl⟩
    · intro hmet place members hplace key hkey
      obtain ⟨found, hfound⟩ := hmet place members hplace (by rintro rfl; simp at hkey)
      rw [hfound, Option.bind_some, Json.locate_key_isSome_iff]
      exact ⟨found, rfl, collect_locate hcollected hplace hfound key hkey⟩

/-- What a reader accepts, decodes and encodes without losing a key is decoded strictly. -/
theorem strict_json_of_read {input normalized : Json} (hutf8 : ByteArray.validateUTF8 ⟨bytes.toArray⟩ = true)
    (hread : destination.read bytes = .ok input) (hvisit : visit "" input = .ok ())
    (hdecoded : destination.from_value input = .ok decoded)
    (hnormalized : destination.to_value decoded = .ok normalized)
    (hunknown : collect_unknown_paths "" input normalized = []) :
    strict_json_from_slice destination bytes = .ok decoded := by
  simp only [strict_json_from_slice, parse_duplicate_free_value, ok_rules]
  exact ⟨by simp [hutf8], _, ⟨_, hread, hvisit, rfl⟩, _, hdecoded, _, hnormalized, by rw [hunknown]; simp, rfl⟩

/-- The text `{"a":0}` and the document it is. -/
def sample_bytes : List UInt8 := [123, 34, 97, 34, 58, 48, 125]

def sample_json : Json := .obj [("a", .int 0)]

/-- A destination for that text, which encodes as it likes. -/
def sample_destination (normalized : Json) : Destination Unit where
  read bytes := if bytes = sample_bytes then .ok sample_json else .error "expected value"
  from_value _ := .ok ()
  to_value _ := .ok normalized

theorem sample_accepted {normalized : Json} (h : collect_unknown_paths "" sample_json normalized = []) :
    strict_json_from_slice (sample_destination normalized) sample_bytes = .ok () :=
  strict_json_of_read _ (by decide +kernel) rfl rfl rfl rfl h

theorem strict_json_ignores_nothing_sample :
    strict_json_from_slice (sample_destination sample_json) sample_bytes = .ok () ∧
      (sample_json.KeysRead sample_json ↔ sample_json.ObjectsMet sample_json) := by
  obtain ⟨input, normalized, hread, -, hnormalized, -, -, hiff⟩ :=
    strict_json_ignores_nothing_iff (sample_destination sample_json) (sample_accepted rfl)
  obtain rfl : sample_json = input := Except.ok.inj hread
  obtain rfl : sample_json = normalized := Except.ok.inj hnormalized
  exact ⟨sample_accepted rfl, hiff⟩

/-- A destination that encodes as a text hides the keys of what it was decoded from. -/
theorem hidden_key_ignored : strict_json_from_slice (sample_destination (.str "")) sample_bytes = .ok () ∧
    (sample_destination (.str "")).read sample_bytes = .ok sample_json ∧ ¬ sample_json.KeysRead (.str "") := by
  refine ⟨sample_accepted rfl, rfl, fun hkeys => ?_⟩
  have hsome := hkeys [] _ rfl "a" (by simp)
  simp [Json.locate] at hsome

end Strict

end ag_protocol

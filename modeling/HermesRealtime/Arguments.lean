import HermesRealtime.Encoding
import HermesRealtime.Gateway

/-!
The arguments of a request to `/execute`: the fingerprint and the broker decode them apart from
each other, the fingerprint keeping the raw text where the broker refuses it, and still agree on
which requests have the same arguments.
-/

namespace HermesRealtime.Arguments

open Values Gateway Encoding

variable {L : Library}

/-! ### What the broker reads -/

/-- The broker refuses the arguments with an `ExecutionContractError`. -/
def Refused (L : Library) (arguments : ExecutionArguments) : Prop :=
  ∃ text, parseArguments L arguments = .error (.executionContractError text)

/-! ### What the fingerprint reads -/

/-- The arguments as `_execution_fingerprint` decodes them. -/
def fingerprintArguments (L : Library) : ExecutionArguments → Except PyError Json
  | .object fields => .ok (.obj fields)
  | .text text =>
    match L.loads text with
    | .value value => .ok value
    | .decodeError => .ok (.str text)
    | .raised e => .error e

/-- The value whose canonical text is hashed. -/
def hashedRequest (name : String) (arguments : Json) : Json :=
  .obj [("name", .str name), ("arguments", arguments)]

lemma executionFingerprint_eq_ok {request : ExecutionRequest} {fingerprint : String} :
    executionFingerprint L request = .ok fingerprint ↔
      ∃ arguments, fingerprintArguments L request.arguments = .ok arguments ∧
        fingerprint = L.sha256Hex (L.dumps true (hashedRequest request.name arguments)) := by
  unfold executionFingerprint fingerprintArguments hashedRequest
  cases request.arguments with
  | object fields => simp [pure, Except.pure, bind, Except.bind, eq_comm]
  | text text =>
    cases hloads : L.loads text <;>
      simp [hloads, pure, Except.pure, bind, Except.bind, eq_comm]

/-- **Object or refusal.** What the fingerprint takes is the object the broker reads, or it is no
object and the broker refuses. -/
lemma fingerprintArguments_eq_ok {arguments : ExecutionArguments} {value : Json}
    (h : fingerprintArguments L arguments = .ok value) :
    (∃ fields, value = .obj fields ∧ parseArguments L arguments = .ok fields) ∨
      (∀ fields, value ≠ .obj fields) ∧ Refused L arguments := by
  cases arguments with
  | object fields =>
    obtain rfl : Json.obj fields = value := by simpa [fingerprintArguments] using h
    exact .inl ⟨fields, rfl, rfl⟩
  | text text =>
    unfold Refused
    simp only [fingerprintArguments] at h
    simp only [parseArguments]
    cases hloads : L.loads text with
    | raised e => simp [hloads] at h
    | decodeError =>
      obtain rfl : Json.str text = value := by simpa [hloads] using h
      exact .inr ⟨by simp, _, rfl⟩
    | value loaded =>
      obtain rfl : loaded = value := by simpa [hloads] using h
      cases loaded with
      | obj fields => exact .inl ⟨fields, rfl, rfl⟩
      | _ => exact .inr ⟨by simp, _, rfl⟩

lemma fingerprintArguments_of_parse {arguments : ExecutionArguments} {fields : JsonDict}
    (h : parseArguments L arguments = .ok fields) :
    fingerprintArguments L arguments = .ok (.obj fields) := by
  cases arguments with
  | object data =>
    obtain rfl : data = fields := by simpa [parseArguments] using h
    rfl
  | text text =>
    simp only [parseArguments] at h
    simp only [fingerprintArguments]
    split at h <;> simp_all

/-! ### Values up to the order of the keys -/

/-- The values are one but for the order of the keys of their objects. -/
def SameJson (value value' : Json) : Prop := sortKeys value = sortKeys value'

lemma sortKeys_hashedRequest (name : String) (arguments : Json) :
    sortKeys (hashedRequest name arguments) =
      .obj [("arguments", sortKeys arguments), ("name", .str name)] := by
  have horder : ¬ "name" ≤ "arguments" := by decide
  simp [hashedRequest, sortKeys, sortValues, List.mergeSort, List.MergeSort.Internal.splitInTwo,
    horder]

lemma sameJson_hashedRequest {name name' : String} {arguments arguments' : Json} :
    SameJson (hashedRequest name arguments) (hashedRequest name' arguments') ↔
      name = name' ∧ SameJson arguments arguments' := by
  simp [SameJson, sortKeys_hashedRequest, and_comm]

/-- An object is not the same as a value of another kind. -/
lemma SameJson.isObj {fields : JsonDict} {value : Json} (h : SameJson (.obj fields) value) :
    ∃ fields', value = .obj fields' := by
  unfold SameJson at h
  cases value with
  | obj fields' => exact ⟨fields', rfl⟩
  | _ => simp [sortKeys] at h

/-- What is assumed of the library on two requests: the canonical texts of what is hashed are one
exactly if the values are one up to the order of the keys, and their hashes do not collide. -/
structure Canonical (L : Library) (request request' : ExecutionRequest) : Prop where
  dumps : ∀ arguments arguments', fingerprintArguments L request.arguments = .ok arguments →
    fingerprintArguments L request'.arguments = .ok arguments' →
    (L.dumps true (hashedRequest request.name arguments) =
        L.dumps true (hashedRequest request'.name arguments') ↔
      SameJson (hashedRequest request.name arguments) (hashedRequest request'.name arguments'))
  sha256 : ∀ arguments arguments', fingerprintArguments L request.arguments = .ok arguments →
    fingerprintArguments L request'.arguments = .ok arguments' →
    L.sha256Hex (L.dumps true (hashedRequest request.name arguments)) =
      L.sha256Hex (L.dumps true (hashedRequest request'.name arguments')) →
    L.dumps true (hashedRequest request.name arguments) =
      L.dumps true (hashedRequest request'.name arguments')

variable {request request' : ExecutionRequest}

lemma Canonical.same_of_fingerprint (hcanonical : Canonical L request request')
    {fingerprint : String} (h : executionFingerprint L request = .ok fingerprint)
    (h' : executionFingerprint L request' = .ok fingerprint) :
    ∃ arguments arguments', fingerprintArguments L request.arguments = .ok arguments ∧
      fingerprintArguments L request'.arguments = .ok arguments' ∧
      request.name = request'.name ∧ SameJson arguments arguments' := by
  obtain ⟨arguments, hread, rfl⟩ := executionFingerprint_eq_ok.mp h
  obtain ⟨arguments', hread', hhash⟩ := executionFingerprint_eq_ok.mp h'
  have htexts := hcanonical.sha256 arguments arguments' hread hread' hhash
  have hsame := (hcanonical.dumps arguments arguments' hread hread').mp htexts
  exact ⟨arguments, arguments', hread, hread', sameJson_hashedRequest.mp hsame⟩

/-- **The fingerprint and the broker see the same arguments.** Two requests of one fingerprint have
one name, and the broker reads the same object from both or refuses both; two requests of one name
from which the broker reads the same object have one fingerprint. -/
theorem fingerprint_sees_arguments (hcanonical : Canonical L request request') :
    (∀ fingerprint, executionFingerprint L request = .ok fingerprint →
      executionFingerprint L request' = .ok fingerprint →
      request.name = request'.name ∧
        ((∃ fields fields', parseArguments L request.arguments = .ok fields ∧
            parseArguments L request'.arguments = .ok fields' ∧
            SameJson (.obj fields) (.obj fields')) ∨
          Refused L request.arguments ∧ Refused L request'.arguments)) ∧
    (∀ fields fields', request.name = request'.name →
      parseArguments L request.arguments = .ok fields →
      parseArguments L request'.arguments = .ok fields' →
      SameJson (.obj fields) (.obj fields') →
      ∃ fingerprint, executionFingerprint L request = .ok fingerprint ∧
        executionFingerprint L request' = .ok fingerprint) := by
  constructor
  · intro fingerprint h h'
    obtain ⟨arguments, arguments', hread, hread', hname, hsame⟩ :=
      hcanonical.same_of_fingerprint h h'
    refine ⟨hname, ?_⟩
    rcases fingerprintArguments_eq_ok hread with ⟨fields, rfl, hparse⟩ | ⟨hkind, hrefused⟩
    · rcases fingerprintArguments_eq_ok hread' with ⟨fields', rfl, hparse'⟩ | ⟨hkind', -⟩
      · exact .inl ⟨fields, fields', hparse, hparse', hsame⟩
      · obtain ⟨fields', hobj⟩ := hsame.isObj
        exact absurd hobj (hkind' fields')
    · rcases fingerprintArguments_eq_ok hread' with ⟨fields', rfl, -⟩ | ⟨-, hrefused'⟩
      · obtain ⟨fields, hobj⟩ := SameJson.isObj hsame.symm
        exact absurd hobj (hkind fields)
      · exact .inr ⟨hrefused, hrefused'⟩
  · intro fields fields' hname hparse hparse' hsame
    have hread := fingerprintArguments_of_parse hparse
    have hread' := fingerprintArguments_of_parse hparse'
    have htexts := (hcanonical.dumps _ _ hread hread').mpr
      (sameJson_hashedRequest.mpr ⟨hname, hsame⟩)
    refine ⟨_, executionFingerprint_eq_ok.mpr ⟨_, hread, rfl⟩,
      executionFingerprint_eq_ok.mpr ⟨_, hread', ?_⟩⟩
    rw [htexts]

/-! ### Two spellings of one request -/

mutual

/-- Compact JSON of values whose texts need no escapes. -/
def compactText : Json → String
  | .null => "null"
  | .bool b => if b then "true" else "false"
  | .int z => toString z
  | .float _ => "NaN"
  | .str s => "\"" ++ s ++ "\""
  | .arr items => "[" ++ compactItems items ++ "]"
  | .obj fields => "\x7b" ++ compactFields fields ++ "\x7d"

def compactItems : List Json → String
  | [] => ""
  | [item] => compactText item
  | item :: items => compactText item ++ "," ++ compactItems items

def compactFields : JsonDict → String
  | [] => ""
  | [(key, value)] => "\"" ++ key ++ "\":" ++ compactText value
  | (key, value) :: fields =>
      "\"" ++ key ++ "\":" ++ compactText value ++ "," ++ compactFields fields

end

def spacedText : String := "\x7b\"decision\": \"deny\",  \"block_event_id\": 7\x7d"

def spacedFields : JsonDict := [("decision", .str "deny"), ("block_event_id", .int 7)]

/-- The library on the two requests. -/
def compactLibrary : Library where
  loads text := if text = spacedText then .value (.obj spacedFields) else .decodeError
  dumps sorted value := compactText (if sorted then sortKeys value else value)
  coerceInt _ := .error "Input should be a valid integer"
  sha256Hex text :=
    if text = "\x7b\"arguments\":\x7b\"block_event_id\":7,\"decision\":\"deny\"\x7d,\"name\":\"resolve_heavy_agent_block\"\x7d" then
      "eec34d7692e6d2cc710c654b2871b40937c5b5b5ac7b3a5e5da2cca25485cd0b"
    else text

def spacedRequest : ExecutionRequest where
  scope := "scope-0123456789abcdef"
  callId := "call-1"
  name := "resolve_heavy_agent_block"
  arguments := .text spacedText

def directRequest : ExecutionRequest :=
  { spacedRequest with
    arguments := .object [("block_event_id", .int 7), ("decision", .str "deny")] }

lemma sameJson_spaced :
    SameJson (.obj spacedFields)
        (.obj [("block_event_id", .int 7), ("decision", .str "deny")]) := by
  have horder : ¬ "decision" ≤ "block_event_id" := by decide
  have horder' : "block_event_id" ≤ "decision" := by decide
  simp [SameJson, spacedFields, sortKeys, sortValues, List.mergeSort,
    List.MergeSort.Internal.splitInTwo, horder, horder']

lemma canonical_spaced : Canonical compactLibrary spacedRequest directRequest := by
  have hread : fingerprintArguments compactLibrary spacedRequest.arguments =
      .ok (.obj spacedFields) := by
    simp [fingerprintArguments, spacedRequest, compactLibrary]
  have hsame := sameJson_hashedRequest.mpr
    ⟨(rfl : spacedRequest.name = directRequest.name), sameJson_spaced⟩
  have htexts := congrArg compactText hsame
  constructor
  · intro arguments arguments' h h'
    obtain rfl := Except.ok.inj (hread.symm.trans h)
    obtain rfl := Except.ok.inj h'
    exact ⟨fun _ => hsame, fun _ => htexts⟩
  · intro arguments arguments' h h' _
    obtain rfl := Except.ok.inj (hread.symm.trans h)
    obtain rfl := Except.ok.inj h'
    exact htexts

/-- The text and the object have one fingerprint, and the broker reads one object from both. -/
theorem spaced_sees_arguments :
    ∃ fingerprint, executionFingerprint compactLibrary spacedRequest = .ok fingerprint ∧
      executionFingerprint compactLibrary directRequest = .ok fingerprint ∧
      ((∃ fields fields', parseArguments compactLibrary spacedRequest.arguments = .ok fields ∧
          parseArguments compactLibrary directRequest.arguments = .ok fields' ∧
          SameJson (.obj fields) (.obj fields')) ∨
        Refused compactLibrary spacedRequest.arguments ∧
          Refused compactLibrary directRequest.arguments) := by
  obtain ⟨hsees, hmeets⟩ := fingerprint_sees_arguments canonical_spaced
  have hparse : parseArguments compactLibrary spacedRequest.arguments = .ok spacedFields := by
    simp [parseArguments, spacedRequest, compactLibrary]
  obtain ⟨fingerprint, h, h'⟩ := hmeets _ _ rfl hparse rfl sameJson_spaced
  exact ⟨fingerprint, h, h', (hsees fingerprint h h').2⟩

end HermesRealtime.Arguments

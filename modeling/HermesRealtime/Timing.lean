import HermesRealtime.Text

/-!
The session trace: timing events in non-decreasing order of their timestamps, and the
sanitizing of what the page reports before it is recorded.
-/

namespace HermesRealtime.Timing

open Values Text

inductive TimingEventSource
  | wake | controller | browser | openai
  deriving DecidableEq

structure TimingEvent where
  name : String
  monotonicNs : ℤ
  wallTime : String
  source : TimingEventSource
  data : JsonDict

structure SessionTrace where
  sessionId : String
  events : List TimingEvent

/-! ### Sanitizing -/

def correlationKeys : List String :=
  ["local_session_id", "openai_request_id", "event_id", "item_id", "peer_connection_state",
   "data_channel_state", "response", "execution_fingerprint", "id"]

def secretKeyShapes : List (List String) :=
  [["api", "key"], ["authorization"], ["password"], ["secret"], ["bearer"], ["token"],
   ["bearer", "credential"], ["token", "credential"]]

def safeKeyShapes : List (List String) := [["token", "count"], ["secretary", "note"]]

def sdpKeys : List (String × String) :=
  [("sdp", "sdp_hash"), ("offer_sdp", "offer_sdp_hash"), ("answer_sdp", "answer_sdp_hash"),
   ("local_sdp", "local_sdp_hash"), ("remote_sdp", "remote_sdp_hash")]

/-- A blank before every upper-case letter that follows a lower-case one or a digit. -/
def splitCamelCase : List Char → List Char
  | a :: b :: rest =>
    if (a.isLower || a.isDigit) && b.isUpper then a :: ' ' :: splitCamelCase (b :: rest)
    else a :: splitCamelCase (b :: rest)
  | rest => rest

section

variable (P : Platform)

/-- `_key_components`. -/
def keyComponents (key : String) : List String :=
  let normalized := (splitCamelCase key.toList).map fun c => if c == '_' || c == '-' then ' ' else c
  (wordsFrom [] (P.lower (String.ofList normalized)).toList).map String.ofList

/-- `_is_secret_key`. -/
def isSecretKey (key : String) : Bool :=
  let components := keyComponents P key
  !safeKeyShapes.contains components &&
    secretKeyShapes.any fun shape => components.tails.any fun rest => shape.isPrefixOf rest

/-- `[A-Za-z0-9._~+/=-]` with the case ignored, so that `İ`, `ı`, `ſ` and the Kelvin sign match as
well. -/
def isBearerChar (c : Char) : Bool :=
  c.isAlphanum || "._~+/=-".toList.contains c || [0x130, 0x131, 0x17f, 0x212a].contains c.toNat

/-- `\bbearer\s+[A-Za-z0-9._~+/=-]{8,}` at the start of `text`. -/
def matchBearer (before : Option Char) (text : List Char) : Bool :=
  boundary P before text.head? &&
    match dropLetters "bearer".toList text with
    | some (c :: rest) =>
      isSpace c && decide (8 ≤ ((rest.dropWhile isSpace).takeWhile isBearerChar).length)
    | _ => false

/-- `_is_bearer_secret`. -/
def isBearerSecret (value : String) : Bool :=
  (List.range value.toList.length).any fun i =>
    matchBearer P ((value.toList.take i).getLast?) (value.toList.drop i)

/-- `output[key] = value`. -/
def dictSet (d : JsonDict) (key : String) (value : Json) : JsonDict :=
  if d.any fun field => field.1 = key then
    d.map fun field => if field.1 = key then (key, value) else field
  else d ++ [(key, value)]

/-- The hash recorded in place of a session description. -/
def sdpHash (key : String) (value : Json) : Option (String × Json) :=
  match sdpKeys.lookup (P.lower key), value with
  | some hashKey, .str text => some (hashKey, .str (P.sha256Hex text))
  | _, _ => none

mutual

/-- `_sanitize_scalar`. -/
def sanitizeScalar : Json → Json
  | .obj fields => .obj (sanitizeDict false [] fields)
  | .arr items => .arr (sanitizeItems items)
  | .str text => if isBearerSecret P text then .str "[REDACTED]" else .str text
  | value => value

def sanitizeItems : List Json → List Json
  | [] => []
  | item :: items => sanitizeScalar item :: sanitizeItems items

/-- `_sanitize_dict`, `output` being what it has written so far. -/
def sanitizeDict (isFunctionPayload : Bool) (output : JsonDict) : JsonDict → JsonDict
  | [] => output
  | (key, item) :: rest =>
    match sdpHash P key item with
    | some (hashKey, hash) => sanitizeDict isFunctionPayload (dictSet output hashKey hash) rest
    | none =>
      if correlationKeys.contains (P.lower key) then
        sanitizeDict isFunctionPayload (dictSet output key (sanitizeScalar item)) rest
      else if isFunctionPayload && isSecretKey P key then
        sanitizeDict isFunctionPayload (dictSet output key (.str "[REDACTED]")) rest
      else if isSecretKey P key then
        sanitizeDict isFunctionPayload (dictSet output key (.str "[REDACTED]")) rest
      else sanitizeDict isFunctionPayload (dictSet output key (sanitizeScalar item)) rest

end

mutual

/-- `_sanitize_arguments_or_result`. -/
def sanitizeArgumentsOrResult : Json → Json
  | .obj fields => .obj (sanitizeDict P true [] fields)
  | .arr items => .arr (sanitizeArgumentItems items)
  | value => value

def sanitizeArgumentItems : List Json → List Json
  | [] => []
  | item :: items => sanitizeArgumentsOrResult item :: sanitizeArgumentItems items

end

/-- `sanitize_timing_data`, field by field. -/
def sanitizeTimingField (sanitized : JsonDict) : String × Json → JsonDict
  | (key, value) =>
    match sdpHash P key value with
    | some (hashKey, hash) => dictSet sanitized hashKey hash
    | none =>
      if correlationKeys.contains (P.lower key) then
        dictSet sanitized key (sanitizeScalar P value)
      else if isSecretKey P key then dictSet sanitized key (.str "[REDACTED]")
      else if key = "arguments" ∨ key = "result" then
        dictSet sanitized key (sanitizeArgumentsOrResult P value)
      else dictSet sanitized key (sanitizeScalar P value)

def sanitizeTimingData (data : JsonDict) : JsonDict := data.foldl (sanitizeTimingField P) []

end

/-! ### Recording -/

mutual

/-- `_validate_json_value`: numbers are finite. -/
def validJsonValue : Json → Bool
  | .float x => x.isFinite
  | .arr items => validJsonItems items
  | .obj fields => validJsonFields fields
  | _ => true

def validJsonItems : List Json → Bool
  | [] => true
  | item :: items => validJsonValue item && validJsonItems items

def validJsonFields : JsonDict → Bool
  | [] => true
  | (_, value) :: fields => validJsonValue value && validJsonFields fields

end

namespace SessionTrace

/-- The timestamp no later event may precede. -/
def lastNs (t : SessionTrace) : Option ℤ := t.events.getLast?.map TimingEvent.monotonicNs

/-- A timestamp the trace takes next. -/
def Admits (t : SessionTrace) (ns : ℤ) : Prop := ∀ last ∈ t.lastNs, last ≤ ns

instance (t : SessionTrace) (ns : ℤ) : Decidable (t.Admits ns) :=
  inferInstanceAs (Decidable (∀ last ∈ t.lastNs, last ≤ ns))

/-- `record`, stamping the event with the clock unless it brings a timestamp. -/
def record (t : SessionTrace) (clock : Clock) (name : String) (source : TimingEventSource)
    (data : JsonDict) (monotonicNs : Option ℤ) : Except PyError SessionTrace :=
  let value := monotonicNs.getD clock.monotonicNs
  if ¬ t.Admits value then
    .error (.valueError "timing record monotonic_ns must be non-decreasing")
  else if ¬ validJsonFields data then .error (.valueError "finite JSON numbers are required")
  else .ok { t with events := t.events ++ [⟨name, value, clock.wallTime, source, data⟩] }

/-- An event with plain data that the controller stamps itself is recorded exactly when the
clock has reached the last timestamp of the trace. -/
lemma record_now_iff {t : SessionTrace} {clock : Clock} {name : String}
    {source : TimingEventSource} {data : JsonDict} (hdata : validJsonFields data = true) :
    (∃ t', t.record clock name source data none = .ok t') ↔ t.Admits clock.monotonicNs := by
  by_cases h : t.Admits clock.monotonicNs <;> simp [record, h, hdata]

end SessionTrace

end HermesRealtime.Timing

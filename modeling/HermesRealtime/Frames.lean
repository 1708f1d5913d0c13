import HermesRealtime.Protocol
import HermesRealtime.Documents

/-!
The frames of the control socket: how `protocol.py` validates the JSON of one, field by field and
name by name, and what it writes for a message.

A `ValueError` of a validator becomes a validation error of the whole frame; any other exception
leaves the parser as it is. An error carries the message of its validator, without the keys and
names the message quotes.
-/

namespace HermesRealtime.Frames

open Values Text Protocol

def invalid {α : Type} (text : String) : Except PyError α := .error (.validationError text)

/-! ### Secrets in timing data -/

def secretKeyNames : List String :=
  ["api_key", "authorization", "bearer", "token", "password", "secret", "call_id"]

/-- `re.sub(r"[^A-Za-z0-9]+", "_", key)`; `inRun` after the first character of a run. -/
def replaceRuns (inRun : Bool) : List Char → List Char
  | [] => []
  | c :: cs =>
    if c.isAlphanum then c :: replaceRuns false cs
    else if inRun then replaceRuns true cs
    else '_' :: replaceRuns true cs

/-- `_normalize_secret_key`. -/
def normalizeSecretKey (key : String) : List Char :=
  let stripped := (replaceRuns false key.toList).dropWhile (· == '_')
  (stripped.reverse.dropWhile (· == '_')).reverse.map Char.toLower

/-- `_contains_secret_key`. -/
def containsSecretKey (key : String) : Bool :=
  let normalized := normalizeSecretKey key
  let parts := (normalized.splitOn '_').filter fun part => !part.isEmpty
  secretKeyNames.any fun name => normalized == name.toList || parts.contains name.toList

mutual

/-- `_scan_no_secrets`. -/
def scanNoSecrets : Json → Except PyError Unit
  | .obj fields => scanFields fields
  | .arr items => scanItems items
  | .float x =>
    if x.isFinite then .ok () else invalid "timing payload numeric values must be finite"
  | _ => .ok ()

def scanItems : List Json → Except PyError Unit
  | [] => .ok ()
  | item :: items => do
    scanNoSecrets item
    scanItems items

def scanFields : JsonDict → Except PyError Unit
  | [] => .ok ()
  | (key, nested) :: fields =>
    if containsSecretKey key then invalid "forbidden key in timing payload" else do
      scanNoSecrets nested
      scanFields fields

end

/-! ### Timing data -/

/-- No key but the allowed ones. -/
def onlyKeys (allowed : List String) (data : JsonDict) : Except PyError Unit :=
  if data.all fun field => allowed.contains field.1 then .ok ()
  else invalid "unexpected timing data keys"

/-- All the required keys. -/
def requireKeys (required : List String) (text : String) (data : JsonDict) : Except PyError Unit :=
  if required.all fun key => (dictGet data key).isSome then .ok () else invalid text

/-- `value in {…}`: a list or a dictionary cannot be looked up in a set. -/
def inSet (allowed : List String) : Json → Except PyError Bool
  | .arr _ => .error (.typeError "unhashable type: 'list'")
  | .obj _ => .error (.typeError "unhashable type: 'dict'")
  | .str s => .ok (allowed.contains s)
  | _ => .ok false

def isResponseIdChar (c : Char) : Bool := c.isAlphanum || "._~-".toList.contains c

/-- `_PROVIDER_RESPONSE_ID_RE`. -/
def isProviderResponseId (s : String) : Bool :=
  let chars := s.toList
  decide (1 ≤ chars.length) && decide (chars.length ≤ 256) && chars.all isResponseIdChar

/-- `_validate_provider_response_id`. -/
def validateProviderResponseId (value : Option Json) : Except PyError Unit :=
  match value with
  | some (.str s) =>
    if isProviderResponseId s then .ok ()
    else invalid "must be a bounded provider response identifier"
  | _ => invalid "must be a bounded provider response identifier"

/-- The same check of a field that may be absent. -/
def validateOptionalResponseId (data : JsonDict) (field : String) : Except PyError Unit :=
  if (dictGet data field).isSome then validateProviderResponseId (dictGet data field) else .ok ()

/-- `_validate_diagnostic_text`. -/
def validateDiagnosticText (maxLength : ℕ) : Json → Except PyError Unit
  | .str s =>
    if s = "" ∨ maxLength < s.toList.length then invalid "must be a bounded non-empty string"
    else if s.toList.any fun c => c.toNat < 32 || c.toNat == 127 then
      invalid "must not contain control characters"
    else .ok ()
  | _ => invalid "must be a bounded non-empty string"

def validateTexts (check : Json → Except PyError Unit) : List Json → Except PyError Unit
  | [] => .ok ()
  | item :: items => do
    check item
    validateTexts check items

/-- `_validate_diagnostic_strings`. -/
def validateDiagnosticStrings (maxItems : ℕ) : Option Json → Except PyError Unit
  | some (.arr items) =>
    if maxItems < items.length then invalid "must be a bounded list"
    else validateTexts (validateDiagnosticText 64) items
  | _ => invalid "must be a bounded list"

/-- `isinstance(value, bool)`, for a field that is there. -/
def validateBool (text : String) : Option Json → Except PyError Unit
  | some (.bool _) => .ok ()
  | _ => invalid text

/-- The data of a name that reports one state. What is in the set is a string, so the check for one
that follows never fails. -/
def validateState (allowed : List String) (text : String) (data : JsonDict) :
    Except PyError Unit := do
  onlyKeys ["state"] data
  match dictGet data "state" with
  | none => invalid "state is required"
  | some value =>
    if ← inSet allowed value then .ok () else invalid text

def validatePlaybackSuppressed (data : JsonDict) : Except PyError Unit := do
  onlyKeys ["suppressed", "response_id"] data
  if (dictGet data "suppressed").isSome then
    validateBool "suppressed must be a bool" (dictGet data "suppressed")
  validateOptionalResponseId data "response_id"

def validateResponseIds (data : JsonDict) : Except PyError Unit := do
  onlyKeys ["response_id", "interrupted_response_id"] data
  requireKeys ["response_id", "interrupted_response_id"] "response_id fields are required" data
  validateProviderResponseId (dictGet data "response_id")
  validateProviderResponseId (dictGet data "interrupted_response_id")

def peerConnectionStates : List String :=
  ["new", "connecting", "connected", "disconnected", "failed", "closed"]

def iceConnectionStates : List String :=
  ["new", "checking", "connected", "completed", "failed", "disconnected", "closed"]

def iceGatheringStates : List String := ["new", "gathering", "complete"]

def dataChannelStates : List String := ["connecting", "open", "closing", "closed"]

def transportFailureStates : List String := ["disconnected", "failed", "closed"]

def responseStatuses : List String := ["completed", "cancelled", "failed", "incomplete"]

def validatePageError (data : JsonDict) : Except PyError Unit := do
  onlyKeys ["kind", "message"] data
  match dictGet data "kind", dictGet data "message" with
  | some kind, some message =>
    if ← inSet ["error", "unhandledrejection"] kind then
      match message with
      | .str text => if 512 < text.toList.length then invalid "message is too long" else .ok ()
      | _ => invalid "message must be a string"
    else invalid "invalid page_error kind"
  | _, _ => invalid "kind and message are required"

/-- `sdp_offer_created` and `sdp_answer_applied`. The names of raw descriptions are not allowed keys
in the first place. -/
def validateSdpHash (data : JsonDict) : Except PyError Unit := do
  onlyKeys ["sdp_hash"] data
  match dictGet data "sdp_hash" with
  | none => .ok ()
  | some (.str hash) =>
    if hash.toList.length = 64 ∧ hash.toList.all (fun c => c.isDigit || 'a' ≤ c && c ≤ 'f')
    then .ok ()
    else invalid "sdp_hash must be lowercase 64-char sha256 hex"
  | some _ => invalid "sdp_hash must be a string"

def responseDoneKeys : List String :=
  ["response_id", "status", "output_types", "suppressed_response_id",
   "pending_restore_response_id", "remote_audio_muted"]

def responseDoneRequired : List String :=
  ["response_id", "status", "output_types", "remote_audio_muted"]

def validateResponseDone (data : JsonDict) : Except PyError Unit := do
  onlyKeys responseDoneKeys data
  requireKeys responseDoneRequired "response diagnostic fields are required" data
  validateProviderResponseId (dictGet data "response_id")
  validateOptionalResponseId data "suppressed_response_id"
  validateOptionalResponseId data "pending_restore_response_id"
  if ← inSet responseStatuses ((dictGet data "status").getD .null) then
    validateDiagnosticStrings 16 (dictGet data "output_types")
    validateBool "remote_audio_muted must be a bool" (dictGet data "remote_audio_muted")
  else invalid "invalid realtime response status"

def validateErrorFields : JsonDict → Except PyError Unit
  | [] => .ok ()
  | (key, value) :: fields => do
    validateDiagnosticText (if key = "message" then 512 else 128) value
    validateErrorFields fields

def validateRealtimeError (data : JsonDict) : Except PyError Unit := do
  onlyKeys ["error_type", "code", "message"] data
  if data.isEmpty then invalid "at least one realtime error field is required"
  else validateErrorFields data

/-- `_validate_timing_message_data` after the scan. -/
def validateTimingData : TimingName → JsonDict → Except PyError Unit
  | .playbackSuppressed => validatePlaybackSuppressed
  | .nextResponseFirstAudio => validateResponseIds
  | .listeningRestored => validateResponseIds
  | .peerConnectionState =>
    validateState peerConnectionStates "invalid peer_connection_state state"
  | .iceConnectionState => validateState iceConnectionStates "invalid ice_connection_state state"
  | .iceGatheringState => validateState iceGatheringStates "invalid ice_gathering_state state"
  | .dataChannelState => validateState dataChannelStates "invalid data_channel_state state"
  | .sdpOfferCreated => validateSdpHash
  | .sdpAnswerApplied => validateSdpHash
  | .transportFailure => validateState transportFailureStates "invalid transport_failure state"
  | .realtimeResponseDone => validateResponseDone
  | .realtimeError => validateRealtimeError
  | .pageError => validatePageError

/-- `_validate_timing_message_data`. -/
def validateTimingMessageData (name : TimingName) (data : JsonDict) : Except PyError Unit := do
  scanNoSecrets (.obj data)
  validateTimingData name data

/-! ### Messages -/

def timingNames : List TimingName :=
  [.playbackSuppressed, .nextResponseFirstAudio, .listeningRestored, .peerConnectionState,
   .iceConnectionState, .iceGatheringState, .dataChannelState, .sdpOfferCreated,
   .sdpAnswerApplied, .transportFailure, .realtimeResponseDone, .realtimeError, .pageError]

/-- The member of an enumeration with this value. -/
def memberOf {α : Type} (members : List α) (value : α → String) (text : String) :
    Option Json → Except PyError α
  | some (.str s) =>
    match members.find? fun member => value member = s with
    | some member => .ok member
    | none => invalid text
  | _ => invalid text

def blockKindValue : BlockKind → String
  | .dependency => "dependency"
  | .needsInput => "needs_input"
  | .transient => "transient"
  | .capability => "capability"

def strField (fields : JsonDict) (key : String) : Except PyError String :=
  match dictGet fields key with
  | some (.str s) => .ok s
  | _ => invalid "Input should be a valid string"

def boolField (text : String) : Option Json → Except PyError Bool
  | some (.bool b) => .ok b
  | _ => invalid text

def sessionField (fields : JsonDict) : Except PyError String := do
  let sessionId ← strField fields "session_id"
  validateSessionId sessionId
  return sessionId

def finiteFloat (field : String) : Option Json → Except PyError PyFloat
  | some (.float x) => if x.isFinite then .ok x else invalid (field ++ " must be finite")
  | _ => invalid (field ++ " must be a float")

/-- `0.0 <= value <= 1.0`, for a finite value. -/
def isProbability : PyFloat → Bool
  | .finite negative m => (!negative || m.mant = 0) && decide (m.scaled ≤ 2 ^ 1074)
  | _ => false

/-- `value > 0.0`, for a finite value. -/
def isPositive : PyFloat → Bool
  | .finite negative m => !negative && m.mant ≠ 0
  | _ => false

/-- `ActivationMessage`. -/
def validateActivation (fields : JsonDict) : Except PyError LoopbackMessage := do
  let probability ← finiteFloat "probability" (dictGet fields "probability")
  let detectedAt ← finiteFloat "detected_at" (dictGet fields "detected_at")
  let nativeListener ← boolField "native_listener must be a bool" (dictGet fields "native_listener")
  onlyKeys ["type", "probability", "detected_at", "native_listener"] fields
  if ¬ isProbability probability then invalid "probability must be in the range [0, 1]"
  else if ¬ isPositive detectedAt then invalid "detected_at must be > 0"
  else return .activation probability detectedAt nativeListener

/-- A message that carries its session and nothing else. -/
def validateBare (make : String → LoopbackMessage) (fields : JsonDict) :
    Except PyError LoopbackMessage := do
  let sessionId ← sessionField fields
  onlyKeys ["type", "session_id"] fields
  return make sessionId

/-- `_validate_monotonic_ms`; `float(value)` of an integer that is too large raises. -/
def validateMonotonicMs : Option Json → Except PyError Binary64
  | some (.int z) =>
    match Binary64.ofNat? z.natAbs with
    | none => .error .overflowError
    | some m => if z < 0 then invalid "monotonic_ms must be >= 0" else .ok m
  | some (.float (.finite negative m)) =>
    if negative ∧ m.mant ≠ 0 then invalid "monotonic_ms must be >= 0" else .ok m
  | some (.float _) => invalid "monotonic_ms must be finite"
  | _ => invalid "monotonic_ms must be a number"

def dataField : Option Json → Except PyError JsonDict
  | none => .ok []
  | some (.obj data) => .ok data
  | _ => invalid "Input should be a valid dictionary"

/-- `TimingMessage`. Every field is validated whatever the others are, so an exception in one that
is no `ValueError` wins over all errors; the data is looked at when all fields are valid. -/
def validateTiming (fields : JsonDict) : Except PyError LoopbackMessage := do
  match validateMonotonicMs (dictGet fields "monotonic_ms") with
  | .error .overflowError => .error .overflowError
  | checked => do
    let sessionId ← sessionField fields
    let name ← memberOf timingNames TimingName.value "not a valid TimingName"
      (dictGet fields "name")
    let monotonicMs ← checked
    let data ← dataField (dictGet fields "data")
    onlyKeys ["type", "session_id", "name", "monotonic_ms", "data"] fields
    validateTimingMessageData name data
    return .timing { sessionId, name, monotonicMs, data }

def validateStop (fields : JsonDict) : Except PyError LoopbackMessage := do
  let sessionId ← sessionField fields
  let reason ← memberOf [.button, .modelRequest, .transportFailure, .nativeCancel, .timeout]
    StopReason.value "not a valid StopReason" (dictGet fields "reason")
  onlyKeys ["type", "session_id", "reason"] fields
  return .stop sessionId reason

def validateSessionClosed (fields : JsonDict) : Except PyError LoopbackMessage := do
  let sessionId ← sessionField fields
  let outcome ← memberOf [.completed, .failed, .cancelled, .timedOut] SessionOutcome.value
    "not a valid SessionOutcome" (dictGet fields "outcome")
  onlyKeys ["type", "session_id", "outcome"] fields
  return .sessionClosed sessionId outcome

def intField : Option Json → Except PyError ℤ
  | some (.int z) => .ok z
  | _ => invalid "Input should be a valid integer"

def optionalStr : Option Json → Except PyError (Option String)
  | none => .ok none
  | some .null => .ok none
  | some (.str s) => .ok (some s)
  | _ => invalid "Input should be a valid string"

def optionalBlockKind : Option Json → Except PyError (Option BlockKind)
  | none => .ok none
  | some .null => .ok none
  | value => (memberOf [.dependency, .needsInput, .transient, .capability] blockKindValue
      "Input should be a block kind" value).map some

/-- `TaskEventMessage`. -/
def validateTaskEvent (fields : JsonDict) : Except PyError LoopbackMessage := do
  let sessionId ← strField fields "session_id"
  let eventId ← intField (dictGet fields "event_id")
  let taskId ← strField fields "task_id"
  let kind ← memberOf [.completed, .blocked, .gaveUp, .crashed, .timedOut, .blockLoopDetected]
    TaskEventKind.value "not a valid TaskEventKind" (dictGet fields "kind")
  let title ← strField fields "title"
  let detail ← optionalStr (dictGet fields "detail")
  let requiresUserInput ← boolField "Input should be a valid boolean"
    (some ((dictGet fields "requires_user_input").getD (.bool false)))
  let blockKind ← optionalBlockKind (dictGet fields "block_kind")
  onlyKeys ["type", "session_id", "event_id", "task_id", "kind", "title", "detail",
    "requires_user_input", "block_kind"] fields
  let message : TaskEventMessage :=
    { sessionId, eventId, taskId, kind, title, detail, requiresUserInput, blockKind }
  return .taskEvent (← message.build)

/-- The JSON of a frame; the type says which message it has to be. -/
def validateMessage : Json → Except PyError LoopbackMessage
  | .obj fields =>
    match dictGet fields "type" with
    | some (.str tag) =>
      if tag = "activation" then validateActivation fields
      else if tag = "page_ready" then validateBare .pageReady fields
      else if tag = "page_started" then validateBare .pageStarted fields
      else if tag = "timing" then validateTiming fields
      else if tag = "stop" then validateStop fields
      else if tag = "teardown_complete" then validateBare .teardownComplete fields
      else if tag = "session_closed" then validateSessionClosed fields
      else if tag = "task_event" then validateTaskEvent fields
      else invalid "Input tag does not match any of the expected tags"
    | _ => invalid "Unable to extract tag using discriminator 'type'"
  | _ => invalid "Input should be an object"

/-- `validate_json` of a text, given what the JSON reader makes of it. -/
def decodeFrame (read : String → Option Json) (raw : String) : Except PyError LoopbackMessage :=
  match read raw with
  | none => invalid "Invalid JSON"
  | some json => validateMessage json

/-- `model_dump(mode="json")`: the fields in the order of their declaration. -/
def modelDump : LoopbackMessage → JsonDict
  | .activation probability detectedAt nativeListener =>
    [("type", .str "activation"), ("probability", .float probability),
     ("detected_at", .float detectedAt), ("native_listener", .bool nativeListener)]
  | .pageReady sessionId => [("type", .str "page_ready"), ("session_id", .str sessionId)]
  | .pageStarted sessionId => [("type", .str "page_started"), ("session_id", .str sessionId)]
  | .timing m =>
    [("type", .str "timing"), ("session_id", .str m.sessionId), ("name", .str m.name.value),
     ("monotonic_ms", .float (.finite false m.monotonicMs)), ("data", .obj m.data)]
  | .stop sessionId reason =>
    [("type", .str "stop"), ("session_id", .str sessionId), ("reason", .str reason.value)]
  | .teardownComplete sessionId =>
    [("type", .str "teardown_complete"), ("session_id", .str sessionId)]
  | .sessionClosed sessionId outcome =>
    [("type", .str "session_closed"), ("session_id", .str sessionId),
     ("outcome", .str outcome.value)]
  | .taskEvent m =>
    [("type", .str "task_event"), ("session_id", .str m.sessionId), ("event_id", .int m.eventId),
     ("task_id", .str m.taskId), ("kind", .str m.kind.value), ("title", .str m.title),
     ("detail", (m.detail.map Json.str).getD .null),
     ("requires_user_input", .bool m.requiresUserInput),
     ("block_kind", (m.blockKind.map fun kind => Json.str (blockKindValue kind)).getD .null)]

end HermesRealtime.Frames

import HermesRealtime.Values
import HermesRealtime.Timing

/-!
The gateway of one voice page: `/session`, which has a provider session created and installs an
execution scope for it, and `/execute`, which runs a capability under that scope and keeps what
it answered for a replay.

Both are handlers that other handlers overtake where they await: `/session` at the body of the
request and at the provider, `/execute` where a permission is resolved. Everything between two
awaits is one step here.
-/

namespace HermesRealtime.Gateway

open Values Timing

/-! ### Requests and replies -/

inductive ExecutionArguments
  | text (text : String)
  | object (fields : JsonDict)

structure ExecutionRequest where
  scope : String
  callId : String
  name : String
  arguments : ExecutionArguments

/-- The client of a request: where it comes from, and what it says it is. -/
structure Client where
  host : Option String
  localClient : Option String
  deriving DecidableEq

inductive ReplyBody
  | text (content : String)
  | json (content : Json)

structure Reply where
  status : ℕ
  body : ReplyBody

/-- `HTTPException`. -/
structure HttpError where
  status : ℕ
  detail : String
  deriving DecidableEq

/-- What `json.loads` makes of a text. -/
inductive Loaded
  | value (value : Json)
  | decodeError
  | raised (e : PyError)

/-- The parts of the Python library the gateway relies on; `dumps` sorts the keys if it is told
to. `coerceInt` is what pydantic makes of a value where it wants an `int` and is given something
else: a number, or why it refuses. -/
structure Library where
  loads : String → Loaded
  dumps : Bool → Json → String
  sha256Hex : String → String
  coerceInt : Json → Except String ℤ

/-- What the capability behind a request came to. -/
inductive CapabilityEnd
  | result (fields : JsonDict)
  | unknownCapability (text : String)
  | raised (e : PyError)

def maxOpenaiCallsPerSession : ℕ := 512

def localClientHeaderValue : String := "voice-page-v1"

section

variable (L : Library)

/-- `_execution_fingerprint`. -/
def executionFingerprint (request : ExecutionRequest) : Except PyError String := do
  let arguments ← match request.arguments with
    | .object fields => pure (Json.obj fields)
    | .text text =>
      match L.loads text with
      | .value value => pure value
      | .decodeError => pure (Json.str text)
      | .raised e => .error e
  return L.sha256Hex
    (L.dumps true (.obj [("name", .str request.name), ("arguments", arguments)]))

/-! ### The arguments -/

/-- `_parse_arguments`. -/
def parseArguments : ExecutionArguments → Except PyError JsonDict
  | .text text =>
    match L.loads text with
    | .value (.obj fields) => .ok fields
    | .value _ => .error (.executionContractError "arguments must be a JSON object")
    | .decodeError => .error (.executionContractError "arguments must be valid JSON")
    | .raised e => .error e
  | .object fields => .ok fields

/-- The errors of `extra="forbid"`. -/
def extraErrors (allowed : List String) (fields : JsonDict) : List String :=
  (fields.filter fun field => field.1 ∉ allowed).map fun field =>
    "unexpected argument: " ++ if field.1 = "" then "arguments" else field.1

/-- `PermissionResolutionArguments`. -/
structure PermissionResolutionArguments where
  taskId : String
  blockEventId : ℤ
  decision : String
  response : String
  deriving DecidableEq

def characters (n : ℕ) : String := toString n ++ if n = 1 then " character" else " characters"

/-- A `str` with a `min_length` and a `max_length`. -/
def strField (minLength maxLength : ℕ) : Option Json → Except String String
  | none => .error "Field required"
  | some (.str text) =>
    if maxLength < text.length then
      .error ("String should have at most " ++ characters maxLength)
    else if text.length < minLength then
      .error ("String should have at least " ++ characters minLength)
    else .ok text
  | some _ => .error "Input should be a valid string"

def permissionTaskId (value : Option Json) : Except String String := do
  let text ← strField 3 128 value
  if text.toList.all fun c => c.isAlphanum || c = '_' || c = '-' then .ok text
  else .error "String should match pattern '^[A-Za-z0-9_-]+$'"

/-- A value where an `int` is wanted. -/
def intValue : Json → Except String ℤ
  | .int number => .ok number
  | value => L.coerceInt value

def permissionBlockEventId : Option Json → Except String ℤ
  | none => .error "Field required"
  | some value => do
    let number ← intValue L value
    if number < 1 then .error "Input should be greater than or equal to 1" else .ok number

def permissionDecision : Option Json → Except String String
  | none => .error "Field required"
  | some (.str text) =>
    if text = "approve_once" ∨ text = "deny" then .ok text
    else .error "Input should be 'approve_once' or 'deny'"
  | some _ => .error "Input should be 'approve_once' or 'deny'"

/-- A part of `_format_validation_error`. -/
def fieldErrors {α : Type} (key : String) : Except String α → List String
  | .ok _ => []
  | .error message => [key ++ ": " ++ message]

/-- `PermissionResolutionArguments.model_validate`. -/
def validatePermissionResolution (fields : JsonDict) :
    Except PyError PermissionResolutionArguments :=
  match permissionTaskId (dictGet fields "task_id"),
    permissionBlockEventId L (dictGet fields "block_event_id"),
    permissionDecision (dictGet fields "decision"), strField 1 500 (dictGet fields "response"),
    extraErrors ["task_id", "block_event_id", "decision", "response"] fields with
  | .ok taskId, .ok blockEventId, .ok decision, .ok response, [] =>
    .ok ⟨taskId, blockEventId, decision, response⟩
  | taskId, blockEventId, decision, response, extras =>
    .error (.executionContractError ("; ".intercalate (fieldErrors "task_id" taskId ++
      fieldErrors "block_event_id" blockEventId ++ fieldErrors "decision" decision ++
      fieldErrors "response" response ++ extras)))

/-- `parse_permission_resolution_arguments`. -/
def parsePermissionResolutionArguments (arguments : ExecutionArguments) :
    Except PyError PermissionResolutionArguments := do
  validatePermissionResolution L (← parseArguments L arguments)

/-- The arguments that `PermissionResolutionArguments` has room for. -/
structure PermissionResolutionArguments.WellFormed (a : PermissionResolutionArguments) : Prop where
  taskId : 3 ≤ a.taskId.length ∧ a.taskId.length ≤ 128
  pattern : ∀ c ∈ a.taskId.toList, c.isAlphanum ∨ c = '_' ∨ c = '-'
  blockEventId : 1 ≤ a.blockEventId
  decision : a.decision = "approve_once" ∨ a.decision = "deny"
  response : 1 ≤ a.response.length ∧ a.response.length ≤ 500

lemma strField_eq_ok {minLength maxLength : ℕ} {value : Option Json} {text : String}
    (h : strField minLength maxLength value = .ok text) :
    minLength ≤ text.length ∧ text.length ≤ maxLength := by
  unfold strField at h
  split at h
  · cases h
  · split_ifs at h with hlong hshort
    cases h
    omega
  · cases h

lemma permissionTaskId_eq_ok {value : Option Json} {text : String}
    (h : permissionTaskId value = .ok text) :
    (3 ≤ text.length ∧ text.length ≤ 128) ∧
      ∀ c ∈ text.toList, c.isAlphanum ∨ c = '_' ∨ c = '-' := by
  unfold permissionTaskId at h
  cases hfield : strField 3 128 value with
  | error e => simp [hfield, bind, Except.bind] at h
  | ok read =>
    simp only [hfield, bind, Except.bind] at h
    split_ifs at h with hpattern
    cases h
    exact ⟨strField_eq_ok hfield, by simpa [or_assoc] using hpattern⟩

lemma permissionBlockEventId_eq_ok {value : Option Json} {number : ℤ}
    (h : permissionBlockEventId L value = .ok number) : 1 ≤ number := by
  unfold permissionBlockEventId at h
  cases value with
  | none => cases h
  | some value =>
    cases hvalue : intValue L value with
    | error e => simp [hvalue, bind, Except.bind] at h
    | ok read =>
      simp only [hvalue, bind, Except.bind] at h
      split_ifs at h with hsmall
      cases h
      omega

lemma permissionDecision_eq_ok {value : Option Json} {text : String}
    (h : permissionDecision value = .ok text) : text = "approve_once" ∨ text = "deny" := by
  unfold permissionDecision at h
  split at h
  · cases h
  · split_ifs at h with hdecision
    cases h
    exact hdecision
  · cases h

/-- **What is parsed is well formed.** -/
theorem parsePermissionResolutionArguments_wellFormed {arguments : ExecutionArguments}
    {permission : PermissionResolutionArguments}
    (h : parsePermissionResolutionArguments L arguments = .ok permission) :
    permission.WellFormed := by
  unfold parsePermissionResolutionArguments at h
  cases hfields : parseArguments L arguments with
  | error e => simp [hfields, bind, Except.bind] at h
  | ok fields =>
    simp only [hfields, bind, Except.bind, validatePermissionResolution] at h
    split at h
    · rename_i htaskId hblockEventId hdecision hresponse _
      cases h
      exact ⟨(permissionTaskId_eq_ok htaskId).1, (permissionTaskId_eq_ok htaskId).2,
        permissionBlockEventId_eq_ok L hblockEventId, permissionDecision_eq_ok hdecision,
        strField_eq_ok hresponse⟩
    · cases h

/-- `_is_loopback_client`. -/
def isLoopbackClient (client : Client) : Bool :=
  client.host.any fun host => host ∈ ["127.0.0.1", "::1", "localhost", "testclient"]

/-- The body of a reply that is an error. -/
def errorBody (callId kind message : String) : Json :=
  .obj [("ok", .bool false), ("call_id", .str callId),
    ("error", .obj [("type", .str kind), ("message", .str message)])]

/-! ### The state of the gateway -/

/-- An entry of `execution_results_by_call_id`: the fingerprint, the status and the body; `scope`
is the one the request was executed under, that the gateway does not keep. -/
structure StoredResult where
  callId : String
  fingerprint : String
  status : ℕ
  body : String
  scope : String
  deriving DecidableEq

structure GatewayState where
  activeSessionId : Option String := none
  activeExecutionScope : Option String := none
  executionResultsByCallId : List StoredResult := []
  latestSessionAttempt : ℕ := 0

namespace GatewayState

def lookup (g : GatewayState) (callId : String) : Option StoredResult :=
  g.executionResultsByCallId.find? fun entry => entry.callId = callId

/-- `execution_results_by_call_id[call_id] = …`. -/
def store (g : GatewayState) (entry : StoredResult) : GatewayState :=
  { g with
    executionResultsByCallId :=
      if (g.lookup entry.callId).isSome then
        g.executionResultsByCallId.map fun old => if old.callId = entry.callId then entry else old
      else g.executionResultsByCallId ++ [entry] }

end GatewayState

/-! ### `/execute` -/

def staleReply (callId : String) : Reply :=
  ⟨409, .json (errorBody callId "stale_session" "Local Realtime execution scope is not current")⟩

def conflictReply (callId : String) : Reply :=
  ⟨409, .json (errorBody callId "call_id_conflict"
    "OpenAI call_id was reused with a different request")⟩

def limitReply (callId : String) : Reply :=
  ⟨429, .json (errorBody callId "session_call_limit_exceeded"
    "Realtime session reached its execution safety limit")⟩

/-- The answer to a request whose `call_id` is in the table. -/
def StoredResult.replay (cached : StoredResult) (callId fingerprint : String) : Reply :=
  if cached.fingerprint ≠ fingerprint then conflictReply callId
  else ⟨cached.status, .text cached.body⟩

/-- What `execute_capability` does up to the capability: it refuses the client, it replies, it
raises, or it runs the capability for a session. -/
inductive ExecuteStart
  | forbidden (error : HttpError)
  | replied (fingerprint : Option String) (reply : Reply)
  | raised (e : PyError)
  | runs (sessionId fingerprint : String)

def executeStart (g : GatewayState) (activeSession : Option String) (client : Client)
    (request : ExecutionRequest) : ExecuteStart :=
  if ¬ isLoopbackClient client then .forbidden ⟨403, "Only local clients can execute tools"⟩
  else if client.localClient ≠ some localClientHeaderValue then
    .forbidden ⟨403, "Invalid local voice client"⟩
  else match g.activeExecutionScope, g.activeSessionId with
  | some scope, some sessionId =>
    if request.scope ≠ scope ∨ activeSession ≠ some sessionId then
      .replied none (staleReply request.callId)
    else match executionFingerprint L request with
    | .error e => .raised e
    | .ok fingerprint =>
      match g.lookup request.callId with
      | some cached => .replied (some fingerprint) (cached.replay request.callId fingerprint)
      | none =>
        if g.executionResultsByCallId.length ≥ maxOpenaiCallsPerSession then
          .replied (some fingerprint) (limitReply request.callId)
        else .runs sessionId fingerprint
  | _, _ => .replied none (staleReply request.callId)

/-- `str(exc)` of the exceptions that are answered with it. -/
def exceptionText : PyError → String
  | .staleControlMessage text => text
  | .sessionTransitionError text => text
  | .validationError text => text
  | .executionContractError text => text
  | .valueError text => text
  | .runtimeError text => text
  | _ => ""

/-- The status and the body for a capability that has ended; none when its exception is not
caught. -/
def capabilityReply (callId : String) : CapabilityEnd → Option (ℕ × Json)
  | .result fields =>
    some (200, .obj (fields.foldl (fun d field => dictSet d field.1 field.2)
      [("call_id", .str callId)]))
  | .unknownCapability text => some (400, errorBody callId "unknown_capability" text)
  | .raised (.runtimeError text) => some (400, errorBody callId "invalid_arguments" text)
  | .raised e =>
    if e.isValueError then some (400, errorBody callId "invalid_arguments" (exceptionText e))
    else none

/-- A handler of `/execute` that waits for its capability. -/
structure Execution where
  request : ExecutionRequest
  fingerprint : String

/-! ### `/session` -/

structure SessionRequest where
  client : Client
  contentType : String
  headerSessionId : Option String
  querySessionId : Option String

/-- A handler of `/session`: its local session, and its attempt once it has been validated. -/
structure SessionAttempt where
  handler : ℕ
  localSessionId : Option String
  attempt : Option ℕ := none
  deriving DecidableEq

/-- `_LOCAL_SESSION_ID_RE.fullmatch`. -/
def isLocalSessionId (text : String) : Bool :=
  12 ≤ text.length && text.length ≤ 128 &&
    text.toList.all fun c => c.isAlphanum || c = '_' || c = '-'

/-- `a or b` of two optional texts. -/
def orElseText (a b : Option String) : Option String := if a.any (· ≠ "") then a else b

/-- `create_realtime_session` up to the body of the request: the local session it is for. -/
def admitSession (hasApiKey : Bool) (activeSession : Option String) (request : SessionRequest) :
    Except HttpError (Option String) :=
  if ¬ hasApiKey then .error ⟨503, "OPENAI_API_KEY is not configured on the gateway"⟩
  else if (request.contentType.toList.takeWhile (· ≠ ';')) ≠ "application/sdp".toList then
    .error ⟨415, "Content-Type must be application/sdp"⟩
  else if request.headerSessionId.isSome ∧ request.querySessionId.isSome ∧
      request.headerSessionId ≠ request.querySessionId then
    .error ⟨400, "Conflicting local session bindings"⟩
  else match orElseText request.querySessionId request.headerSessionId with
  | none => .ok none
  | some localSessionId =>
    if request.client.localClient ≠ some localClientHeaderValue then
      .error ⟨403, "Invalid local voice client"⟩
    else if ¬ isLocalSessionId localSessionId then .error ⟨400, "Invalid local session binding"⟩
    else if activeSession ≠ some localSessionId then
      .error ⟨409, "Local voice session is no longer active"⟩
    else .ok (some localSessionId)

/-- What reading the body of the request gives. -/
inductive OfferBody
  | sdp (text : String)
  | notUtf8

/-- The rest of the validation: the offer. -/
def validateOffer : OfferBody → Except HttpError String
  | .notUtf8 => .error ⟨400, "SDP must be UTF-8 text"⟩
  | .sdp text =>
    if text.toList.all Text.isSpace then .error ⟨400, "SDP offer is empty"⟩ else .ok text

/-- What the provider answers. -/
inductive Upstream
  | httpError
  | response (status : ℕ) (text : String)

/-- `upstream.is_success`. -/
def isSuccess (status : ℕ) : Bool := 200 ≤ status && status ≤ 299

/-- What `create_realtime_session` does with the answer. -/
inductive SessionEnd
  | replied (reply : Reply)
  | installs (text : String)

def sessionEnd (g : GatewayState) (attempt : ℕ) : Upstream → SessionEnd
  | .httpError =>
    .replied ⟨502, .json (.obj [("detail", .str "OpenAI Realtime session request failed"),
      ("upstream_status", .null), ("request_id", .null)])⟩
  | .response status text =>
    if attempt ≠ g.latestSessionAttempt then
      .replied ⟨409, .json
        (.obj [("detail", .str "OpenAI Realtime session attempt was superseded")])⟩
    else if ¬ isSuccess status then
      .replied ⟨502, .json (.obj [("detail", .str "OpenAI Realtime session creation failed"),
        ("upstream_status", .int status)])⟩
    else .installs text

/-- The installation of a session, with the tokens that are made for it. -/
def GatewayState.install (g : GatewayState) (localSessionId : Option String)
    (sessionToken scopeToken : String) : GatewayState :=
  { g with
    activeSessionId := some ((orElseText localSessionId none).getD sessionToken)
    activeExecutionScope := if localSessionId.isSome then some scopeToken else none
    executionResultsByCallId := [] }

/-! ### The gateway at run time -/

/-- What can be seen of the handlers. -/
inductive Observation
  /-- the capability of a request has been started -/
  | started (scope callId fingerprint : String)
  /-- a request that got to the table, or past it, has been answered -/
  | responded (scope callId fingerprint : String) (reply : Reply)
  /-- a request was refused, or its fingerprint could not be taken -/
  | refused (scope callId : String)
  /-- a handler of `/session` was admitted while a session was active at the controller -/
  | admitted (handler : ℕ) (localSessionId activeSession : Option String)
  | validated (handler attempt : ℕ)
  | installed (handler attempt : ℕ) (sessionId : Option String) (scope : Option String)

/-- The gateway, the active session of the controller, the handlers that wait, the runs that
ended in an exception that is not caught, the scopes that have been made, and what has been
seen. -/
structure GatewayWorld where
  gateway : GatewayState := {}
  activeSession : Option String := none
  executions : List Execution := []
  failed : List Execution := []
  attempts : List SessionAttempt := []
  handlers : ℕ := 0
  issued : List String := []
  log : List Observation := []

inductive GatewayAction
  /-- another session, or none, becomes active at the controller -/
  | controller (activeSession : Option String)
  /-- `/execute` up to its first await, or to its end if the capability has not awaited -/
  | execute (client : Client) (request : ExecutionRequest) (ended : Option CapabilityEnd)
  /-- the capability that the `i`-th waiting handler waits for ends -/
  | resume (i : ℕ) (ended : CapabilityEnd)
  | session (hasApiKey : Bool) (request : SessionRequest)
  /-- the `i`-th handler of `/session` has read the body -/
  | offer (i : ℕ) (body : OfferBody)
  /-- the provider answers the `i`-th handler; the tokens are made when they are needed -/
  | upstream (i : ℕ) (answer : Upstream) (sessionToken scopeToken : String)

def serverError : Reply := ⟨500, .text "Internal Server Error"⟩

namespace GatewayWorld

def observe (w : GatewayWorld) (o : Observation) : GatewayWorld := { w with log := w.log ++ [o] }

/-- The end of a handler of `/execute`: what it answers is stored first. -/
def finish (w : GatewayWorld) (run : Execution) (ended : CapabilityEnd) : GatewayWorld :=
  let request := run.request
  match capabilityReply request.callId ended with
  | some (status, body) =>
    let text := L.dumps false body
    let entry : StoredResult := ⟨request.callId, run.fingerprint, status, text, request.scope⟩
    let stored := { w with gateway := w.gateway.store entry }
    stored.observe (.responded request.scope request.callId run.fingerprint ⟨status, .text text⟩)
  | none =>
    let failing := { w with failed := w.failed ++ [run] }
    failing.observe (.responded request.scope request.callId run.fingerprint serverError)

end GatewayWorld

/-- The one capability that awaits. -/
def resolvesPermission (request : ExecutionRequest) : Bool :=
  request.name = "resolve_heavy_agent_block"

/-- How the capability ends before it awaits anything: where a permission is resolved, the
arguments are parsed first. -/
def capabilityEnd (request : ExecutionRequest) (ended : Option CapabilityEnd) :
    Option CapabilityEnd :=
  if resolvesPermission request then
    match parsePermissionResolutionArguments L request.arguments with
    | .error e => some (.raised e)
    | .ok _ => ended
  else ended

/-- One step of `/execute` up to its first await. -/
def executeStep (w : GatewayWorld) (client : Client) (request : ExecutionRequest)
    (ended : Option CapabilityEnd) : Option GatewayWorld :=
  match executeStart L w.gateway w.activeSession client request with
  | .forbidden _ => some (w.observe (.refused request.scope request.callId))
  | .raised _ => some (w.observe (.refused request.scope request.callId))
  | .replied none _ => some (w.observe (.refused request.scope request.callId))
  | .replied (some fingerprint) reply =>
    some (w.observe (.responded request.scope request.callId fingerprint reply))
  | .runs _ fingerprint =>
    let running := w.observe (.started request.scope request.callId fingerprint)
    match capabilityEnd L request ended with
    | some ended => some (running.finish L ⟨request, fingerprint⟩ ended)
    | none =>
      if resolvesPermission request then
        some { running with executions := w.executions ++ [⟨request, fingerprint⟩] }
      else none

/-- The body of a request to `/session` has been read. -/
def offerStep (w : GatewayWorld) (i : ℕ) (body : OfferBody) : Option GatewayWorld :=
  match w.attempts[i]? with
  | some ⟨handler, localSessionId, none⟩ =>
    match validateOffer body with
    | .error _ => some { w with attempts := w.attempts.eraseIdx i }
    | .ok _ =>
      let attempt := w.gateway.latestSessionAttempt + 1
      let validated : GatewayWorld :=
        { w with
          gateway := { w.gateway with latestSessionAttempt := attempt }
          attempts := w.attempts.set i ⟨handler, localSessionId, some attempt⟩ }
      some (validated.observe (.validated handler attempt))
  | _ => none

/-- The provider has answered. Scopes that are made have not been made before. -/
def upstreamStep (w : GatewayWorld) (i : ℕ) (answer : Upstream)
    (sessionToken scopeToken : String) : Option GatewayWorld :=
  match w.attempts[i]? with
  | some ⟨handler, localSessionId, some attempt⟩ =>
    if scopeToken ∈ w.issued then none
    else match sessionEnd w.gateway attempt answer with
    | .replied _ => some { w with attempts := w.attempts.eraseIdx i }
    | .installs _ =>
      let gateway := w.gateway.install localSessionId sessionToken scopeToken
      let installed : GatewayWorld :=
        { w with
          gateway := gateway
          attempts := w.attempts.eraseIdx i
          issued := w.issued ++ gateway.activeExecutionScope.toList }
      some (installed.observe
        (.installed handler attempt gateway.activeSessionId gateway.activeExecutionScope))
  | _ => none

/-- One step of the gateway. -/
def gatewayStep (w : GatewayWorld) : GatewayAction → Option GatewayWorld
  | .controller activeSession => some { w with activeSession }
  | .execute client request ended => executeStep L w client request ended
  | .resume i ended =>
    match w.executions[i]? with
    | some run =>
      let resumed := { w with executions := w.executions.eraseIdx i }
      some (resumed.finish L run ended)
    | none => none
  | .session hasApiKey request =>
    match admitSession hasApiKey w.activeSession request with
    | .error _ => some w
    | .ok localSessionId =>
      let admitted : GatewayWorld :=
        { w with
          attempts := w.attempts ++ [⟨w.handlers, localSessionId, none⟩]
          handlers := w.handlers + 1 }
      some (admitted.observe (.admitted w.handlers localSessionId w.activeSession))
  | .offer i body => offerStep w i body
  | .upstream i answer sessionToken scopeToken => upstreamStep w i answer sessionToken scopeToken

/-! ### What a step can do -/

/-- The request presents the installed scope, and the session it was installed for is the active
session of the controller. -/
structure Current (w : GatewayWorld) (request : ExecutionRequest) : Prop where
  scope : w.gateway.activeExecutionScope = some request.scope
  session : w.activeSession = w.gateway.activeSessionId
  active : w.activeSession.isSome

/-- The request is current, not in the table, and there is room for it. -/
structure Admits (w : GatewayWorld) (request : ExecutionRequest) (fingerprint : String) :
    Prop where
  current : Current w request
  fingerprint : executionFingerprint L request = .ok fingerprint
  absent : w.gateway.lookup request.callId = none
  room : w.gateway.executionResultsByCallId.length < maxOpenaiCallsPerSession

/-- What `executeStart` comes to, with what it has checked. -/
def StartCases (w : GatewayWorld) (request : ExecutionRequest) : ExecuteStart → Prop
  | .replied (some fingerprint) reply => Current w request ∧
      ((∃ cached, w.gateway.lookup request.callId = some cached ∧
        reply = cached.replay request.callId fingerprint) ∨
      (w.gateway.lookup request.callId = none ∧
        maxOpenaiCallsPerSession ≤ w.gateway.executionResultsByCallId.length ∧
        reply = limitReply request.callId))
  | .runs sessionId fingerprint =>
      w.gateway.activeSessionId = some sessionId ∧ Admits L w request fingerprint
  | _ => True

lemma executeStart_cases (w : GatewayWorld) (client : Client) (request : ExecutionRequest) :
    StartCases L w request (executeStart L w.gateway w.activeSession client request) := by
  unfold executeStart
  by_cases hclient : ¬ isLoopbackClient client
  · rw [if_pos hclient]
    trivial
  rw [if_neg hclient]
  by_cases hheader : client.localClient ≠ some localClientHeaderValue
  · rw [if_pos hheader]
    trivial
  rw [if_neg hheader]
  split
  · rename_i scope sessionId hscope hsession
    by_cases hstale : request.scope ≠ scope ∨ w.activeSession ≠ some sessionId
    · rw [if_pos hstale]
      trivial
    rw [if_neg hstale]
    rw [not_or, not_not, not_not] at hstale
    obtain ⟨rfl, hactive⟩ := hstale
    have hcurrent : Current w request := ⟨hscope, by rw [hactive, hsession], by rw [hactive]; rfl⟩
    cases hfp : executionFingerprint L request with
    | error e => trivial
    | ok fingerprint =>
      cases hlookup : w.gateway.lookup request.callId with
      | some cached => exact ⟨hcurrent, .inl ⟨cached, hlookup, rfl⟩⟩
      | none =>
        dsimp only
        by_cases hfull : w.gateway.executionResultsByCallId.length ≥ maxOpenaiCallsPerSession
        · rw [if_pos hfull]
          exact ⟨hcurrent, .inr ⟨hlookup, hfull, rfl⟩⟩
        · rw [if_neg hfull]
          exact ⟨hsession, hcurrent, hfp, hlookup, by omega⟩
  · trivial

/-- A step of the gateway, with what it has checked. -/
inductive Move (w : GatewayWorld) : GatewayAction → GatewayWorld → Prop
  | controller (activeSession : Option String) :
      Move w (.controller activeSession) { w with activeSession }
  | refused (client : Client) (request : ExecutionRequest) (ended : Option CapabilityEnd) :
      Move w (.execute client request ended) (w.observe (.refused request.scope request.callId))
  | replayed (client : Client) (request : ExecutionRequest) (ended : Option CapabilityEnd)
      (fingerprint : String) (cached : StoredResult) (hcurrent : Current w request)
      (hcached : w.gateway.lookup request.callId = some cached) :
      Move w (.execute client request ended) (w.observe (.responded request.scope request.callId
        fingerprint (cached.replay request.callId fingerprint)))
  | limited (client : Client) (request : ExecutionRequest) (ended : Option CapabilityEnd)
      (fingerprint : String) (hcurrent : Current w request)
      (habsent : w.gateway.lookup request.callId = none)
      (hfull : maxOpenaiCallsPerSession ≤ w.gateway.executionResultsByCallId.length) :
      Move w (.execute client request ended) (w.observe
        (.responded request.scope request.callId fingerprint (limitReply request.callId)))
  | ran (client : Client) (request : ExecutionRequest) (said : Option CapabilityEnd)
      (ended : CapabilityEnd) (fingerprint : String) (hadmits : Admits L w request fingerprint)
      (hended : capabilityEnd L request said = some ended) :
      Move w (.execute client request said)
        ((w.observe (.started request.scope request.callId fingerprint)).finish L
          ⟨request, fingerprint⟩ ended)
  | suspended (client : Client) (request : ExecutionRequest) (fingerprint : String)
      (permission : PermissionResolutionArguments) (hadmits : Admits L w request fingerprint)
      (hresolves : resolvesPermission request)
      (hparsed : parsePermissionResolutionArguments L request.arguments = .ok permission) :
      Move w (.execute client request none)
        { w.observe (.started request.scope request.callId fingerprint) with
          executions := w.executions ++ [⟨request, fingerprint⟩] }
  | resumed (i : ℕ) (run : Execution) (ended : CapabilityEnd) (hrun : w.executions[i]? = some run) :
      Move w (.resume i ended)
        (({ w with executions := w.executions.eraseIdx i } : GatewayWorld).finish L run ended)
  | unadmitted (hasApiKey : Bool) (request : SessionRequest) :
      Move w (.session hasApiKey request) w
  | admitted (hasApiKey : Bool) (request : SessionRequest) (localSessionId : Option String)
      (hactive : localSessionId.isSome → w.activeSession = localSessionId)
      (hempty : localSessionId ≠ some "") :
      Move w (.session hasApiKey request)
        (({ w with
          attempts := w.attempts ++ [⟨w.handlers, localSessionId, none⟩]
          handlers := w.handlers + 1 } : GatewayWorld).observe
            (.admitted w.handlers localSessionId w.activeSession))
  | rejected (i : ℕ) (body : OfferBody) :
      Move w (.offer i body) { w with attempts := w.attempts.eraseIdx i }
  | validated (i : ℕ) (body : OfferBody) (handler : ℕ) (localSessionId : Option String)
      (hattempt : w.attempts[i]? = some ⟨handler, localSessionId, none⟩) :
      Move w (.offer i body)
        (({ w with
          gateway :=
            { w.gateway with latestSessionAttempt := w.gateway.latestSessionAttempt + 1 }
          attempts := w.attempts.set i
            ⟨handler, localSessionId, some (w.gateway.latestSessionAttempt + 1)⟩ }
          : GatewayWorld).observe (.validated handler (w.gateway.latestSessionAttempt + 1)))
  | answered (i : ℕ) (answer : Upstream) (sessionToken scopeToken : String) :
      Move w (.upstream i answer sessionToken scopeToken)
        { w with attempts := w.attempts.eraseIdx i }
  | installed (i : ℕ) (answer : Upstream) (sessionToken scopeToken : String) (handler : ℕ)
      (localSessionId : Option String) (gateway : GatewayState)
      (hattempt : w.attempts[i]? =
        some ⟨handler, localSessionId, some w.gateway.latestSessionAttempt⟩)
      (hfresh : scopeToken ∉ w.issued)
      (hgateway : gateway = w.gateway.install localSessionId sessionToken scopeToken) :
      Move w (.upstream i answer sessionToken scopeToken)
        (({ w with
          gateway
          attempts := w.attempts.eraseIdx i
          issued := w.issued ++ gateway.activeExecutionScope.toList } : GatewayWorld).observe
            (.installed handler w.gateway.latestSessionAttempt gateway.activeSessionId
              gateway.activeExecutionScope))

/-- What a handler of `/execute` that ends leaves as it was. -/
structure SameSession (w w' : GatewayWorld) : Prop where
  sessionId : w'.gateway.activeSessionId = w.gateway.activeSessionId
  scope : w'.gateway.activeExecutionScope = w.gateway.activeExecutionScope
  latest : w'.gateway.latestSessionAttempt = w.gateway.latestSessionAttempt
  issued : w'.issued = w.issued

lemma SameSession.refl (w : GatewayWorld) : SameSession w w := ⟨rfl, rfl, rfl, rfl⟩

@[simp] lemma GatewayWorld.observe_log (w : GatewayWorld) (o : Observation) :
    (w.observe o).log = w.log ++ [o] := rfl

lemma finish_same (w : GatewayWorld) (run : Execution) (ended : CapabilityEnd) :
    SameSession w (w.finish L run ended) := by
  dsimp only [GatewayWorld.finish]
  rcases capabilityReply run.request.callId ended with _ | ⟨status, body⟩ <;>
    exact ⟨rfl, rfl, rfl, rfl⟩

@[simp] lemma finish_attempts (w : GatewayWorld) (run : Execution) (ended : CapabilityEnd) :
    (w.finish L run ended).attempts = w.attempts := by
  dsimp only [GatewayWorld.finish]
  rcases capabilityReply run.request.callId ended with _ | ⟨status, body⟩ <;> rfl

@[simp] lemma finish_executions (w : GatewayWorld) (run : Execution) (ended : CapabilityEnd) :
    (w.finish L run ended).executions = w.executions := by
  dsimp only [GatewayWorld.finish]
  rcases capabilityReply run.request.callId ended with _ | ⟨status, body⟩ <;> rfl

lemma finish_log (w : GatewayWorld) (run : Execution) (ended : CapabilityEnd) :
    ∃ reply, (w.finish L run ended).log = w.log ++
      [.responded run.request.scope run.request.callId run.fingerprint reply] := by
  dsimp only [GatewayWorld.finish]
  rcases capabilityReply run.request.callId ended with _ | ⟨status, body⟩ <;> exact ⟨_, rfl⟩

variable {L}

lemma admitSession_ok {hasApiKey : Bool} {activeSession localSessionId : Option String}
    {request : SessionRequest}
    (h : admitSession hasApiKey activeSession request = .ok localSessionId) :
    (localSessionId.isSome → activeSession = localSessionId) ∧ localSessionId ≠ some "" := by
  unfold admitSession at h
  cases hid : orElseText request.querySessionId request.headerSessionId with
  | none =>
    simp only [hid] at h
    split_ifs at h
    obtain rfl : none = localSessionId := by simpa using h
    simp
  | some sessionId =>
    simp only [hid] at h
    split_ifs at h with _ _ _ _ hform hactive
    simp only [not_not] at hform hactive
    obtain rfl : some sessionId = localSessionId := by simpa using h
    refine ⟨fun _ => hactive, fun hempty => ?_⟩
    obtain rfl := Option.some.inj hempty
    exact absurd hform (by decide)

lemma sessionEnd_installs {g : GatewayState} {attempt : ℕ} {answer : Upstream} {text : String}
    (h : sessionEnd g attempt answer = .installs text) : attempt = g.latestSessionAttempt := by
  unfold sessionEnd at h
  split at h
  · simp at h
  · split_ifs at h with hattempt
    simpa using hattempt

/-- The arguments of a handler that awaits have been parsed. -/
lemma capabilityEnd_eq_none {request : ExecutionRequest} {ended : Option CapabilityEnd}
    (hresolves : resolvesPermission request = true) (h : capabilityEnd L request ended = none) :
    ended = none ∧ ∃ permission,
      parsePermissionResolutionArguments L request.arguments = .ok permission := by
  rw [capabilityEnd, if_pos hresolves] at h
  cases hparsed : parsePermissionResolutionArguments L request.arguments with
  | error e => simp [hparsed] at h
  | ok permission => exact ⟨by simpa [hparsed] using h, permission, rfl⟩

/-- **A step is one of the moves.** -/
theorem gatewayStep_move {w w' : GatewayWorld} {a : GatewayAction}
    (h : gatewayStep L w a = some w') : Move L w a w' := by
  cases a with
  | controller activeSession =>
    obtain rfl := Option.some.inj h
    exact .controller activeSession
  | execute client request ended =>
    have hcases := executeStart_cases L w client request
    simp only [gatewayStep, executeStep] at h
    cases hstart : executeStart L w.gateway w.activeSession client request with
    | forbidden e =>
      rw [hstart] at h
      obtain rfl := Option.some.inj h
      exact .refused client request ended
    | raised e =>
      rw [hstart] at h
      obtain rfl := Option.some.inj h
      exact .refused client request ended
    | replied fp reply =>
      rw [hstart] at h hcases
      cases fp with
      | none =>
        obtain rfl := Option.some.inj h
        exact .refused client request ended
      | some fingerprint =>
        obtain rfl := Option.some.inj h
        obtain ⟨hcurrent, ⟨cached, hcached, rfl⟩ | ⟨habsent, hfull, rfl⟩⟩ := hcases
        · exact .replayed client request ended fingerprint cached hcurrent hcached
        · exact .limited client request ended fingerprint hcurrent habsent hfull
    | runs sessionId fingerprint =>
      rw [hstart] at h hcases
      obtain ⟨-, hadmits⟩ := hcases
      cases hended : capabilityEnd L request ended with
      | some ends =>
        simp only [hended] at h
        obtain rfl := Option.some.inj h
        exact .ran client request ended ends fingerprint hadmits hended
      | none =>
        simp only [hended] at h
        obtain ⟨hresolves, rfl⟩ := by simpa using h
        obtain ⟨rfl, permission, hparsed⟩ := capabilityEnd_eq_none hresolves hended
        exact .suspended client request fingerprint permission hadmits hresolves hparsed
  | resume i ended =>
    simp only [gatewayStep] at h
    cases hrun : w.executions[i]? with
    | none => simp [hrun] at h
    | some run =>
      rw [hrun] at h
      obtain rfl := Option.some.inj h
      exact .resumed i run ended hrun
  | session hasApiKey request =>
    simp only [gatewayStep] at h
    cases hok : admitSession hasApiKey w.activeSession request with
    | error e =>
      rw [hok] at h
      obtain rfl := Option.some.inj h
      exact .unadmitted hasApiKey request
    | ok localSessionId =>
      rw [hok] at h
      obtain rfl := Option.some.inj h
      exact .admitted hasApiKey request localSessionId (admitSession_ok hok).1
        (admitSession_ok hok).2
  | offer i body =>
    simp only [gatewayStep, offerStep] at h
    split at h
    · rename_i handler localSessionId hattempt
      cases hoffer : validateOffer body with
      | error e =>
        rw [hoffer] at h
        obtain rfl := Option.some.inj h
        exact .rejected i body
      | ok sdp =>
        rw [hoffer] at h
        obtain rfl := Option.some.inj h
        exact .validated i body handler localSessionId hattempt
    · simp at h
  | upstream i answer sessionToken scopeToken =>
    simp only [gatewayStep, upstreamStep] at h
    split at h
    · rename_i handler localSessionId attempt hattempt
      split_ifs at h with hissued
      cases hend : sessionEnd w.gateway attempt answer with
      | replied reply =>
        rw [hend] at h
        obtain rfl := Option.some.inj h
        exact .answered i answer sessionToken scopeToken
      | installs text =>
        rw [hend] at h
        obtain rfl := Option.some.inj h
        obtain rfl := sessionEnd_installs hend
        exact .installed i answer sessionToken scopeToken handler localSessionId _ hattempt
          hissued rfl
    · simp at h

end

end HermesRealtime.Gateway

import HermesRealtime.JsonText
import HermesRealtime.Utf8
import HermesRealtime.Encoding
import HermesRealtime.Text
import HermesRealtime.Controller

/-!
How an activation gets from the wake listener to the controller, and its outcome back: the listener
starts a handler and writes a payload to it, the handler sends a request line over the activation
socket and waits for a response line, and its exit code is all that the listener sees.
-/

namespace HermesRealtime.Handoff

open Values Documents Protocol Frames Encoding Text
open Controller (ActivationResult TerminalSessionResult)
open Utf16 (ofString)

abbrev Bytes := List ℕ

def maxBytes : ℕ := 2048

variable (N : JsonText.Numbers)

/-! ### Texts as bytes -/

def encodeText (text : List Char) : Bytes := text.flatMap fun c => Utf8.encodeChar c.toNat

/-- `bytes.decode("utf-8")`, `none` if it raises: bytes that are no encoding are not what their
decoding is encoded as. -/
def decodeText (bytes : Bytes) : Option (List Char) :=
  let s := Utf8.decode bytes
  if Utf8.encode s = some bytes then some (s.map Char.ofNat) else none

/-- `str.strip`. -/
def stripText (text : List Char) : List Char :=
  ((text.dropWhile isSpace).reverse.dropWhile isSpace).reverse

/-- `parse_loopback_message` of bytes or of a text. -/
def parseLoopback (text : Option (List Char)) : Except PyError LoopbackMessage :=
  match text.bind (JsonText.read N) with
  | none => invalid "Invalid JSON"
  | some d => parseText d none

/-! ### The socket -/

/-- What a client sends before the first timeout and whether it has ended its request by then, and
the same before the second one. -/
structure Client where
  first : Bytes
  ended : Bool
  second : Bytes
  endedLater : Bool

/-- How `_handle_client` fails, by the branch that handles it. -/
inductive Failure
  | timeout
  | protocol
  | other
  deriving DecidableEq

/-- The limit of the buffer of a stream. -/
def streamLimit : ℕ := 65536

/-- `readline` before the timeout: the line with its end, and what comes after it. -/
def readline (client : Client) : Except Failure (Bytes × Bytes) :=
  let line := client.first.takeWhile (· != 10)
  if line.length > streamLimit then .error .other
  else
    match client.first.dropWhile (· != 10) with
    | newline :: rest => .ok (line ++ [newline], rest)
    | [] => if client.ended then .ok (line, []) else .error .timeout

/-- `_read_request_line`. -/
def readRequestLine (client : Client) : Except Failure (Bytes × Bytes) := do
  let (line, rest) ← readline client
  if line = [] then .error .protocol
  else if line.length > maxBytes then .error .protocol
  else if line.getLast? ≠ some 10 then .error .protocol
  else if 10 ∈ line.dropLast then .error .protocol
  else
    let payload := (line.dropLast.reverse.dropWhile (· == 13)).reverse
    if payload.length > maxBytes then .error .protocol
    else if payload = [] then .error .protocol
    else .ok (payload, rest)

/-- One more byte is read, to see that the request has ended. -/
def readTrailing (client : Client) (rest : Bytes) : Except Failure Unit :=
  if rest ++ client.second ≠ [] then .error .protocol
  else if client.ended || client.endedLater then .ok ()
  else .error .timeout

/-- `_parse_activation_message`. -/
def parseActivationMessage (payload : Bytes) : Except Failure Unit :=
  match parseLoopback N (decodeText payload) with
  | .ok (.activation _ _ nativeListener) => if nativeListener then .ok () else .error .protocol
  | .ok _ => .error .protocol
  | .error e =>
    match e with
    | .typeError _ => .error .protocol
    | e => if e.isValueError then .error .protocol else .error .other

def readRequest (client : Client) : Except Failure Unit := do
  let (payload, rest) ← readRequestLine client
  readTrailing client rest
  parseActivationMessage N payload

/-- What the controller does: `activate`, and `wait_for_terminal_result` of a session. -/
structure Behaviour where
  activate : Except Failure ActivationResult
  terminal : String → Except Failure TerminalSessionResult

/-- `_sanitize_error` of both programs. -/
def sanitizeError (_error : Option String) : String := "activation failed"

def failedResponse (error : String) : JsonDict :=
  [("outcome", .str "failed"), ("error", .str error)]

def sessionResponse (outcome sessionId : String) : JsonDict :=
  [("outcome", .str outcome), ("session_id", .str sessionId)]

/-- What `_handle_client` writes when nothing is raised. -/
def answer (controller : Behaviour) : Except Failure JsonDict := do
  let activation ← controller.activate
  match activation.status with
  | .busy => return [("outcome", .str "busy")]
  | .failed => return failedResponse (sanitizeError activation.error)
  | .opened => do
    let result ← controller.terminal (activation.sessionId.getD "")
    match result.outcome with
    | .completed => return sessionResponse "completed" result.sessionId
    | .cancelled => return sessionResponse "cancelled" result.sessionId
    | _ => return failedResponse (sanitizeError result.error)

/-- `_json_dumps`: compact, with sorted keys. -/
def jsonDumps (payload : JsonDict) : List Char :=
  JsonText.write N true (dumps (sortKeys (.obj payload)))

/-- `_write_response`. -/
def writeResponse (payload : JsonDict) : Bytes :=
  let data := encodeText (jsonDumps N payload)
  let data := if data.length > maxBytes then
      encodeText "\x7b\"outcome\":\"failed\",\"error\":\"response too large\"\x7d".toList
    else data
  data ++ [10]

def Failure.response : Failure → JsonDict
  | .timeout => failedResponse "protocol timeout"
  | .protocol => failedResponse "protocol error"
  | .other => failedResponse "activation failed"

/-- `_handle_client`: whether `activate` is called, and what is written. -/
def handleClient (client : Client) (controller : Behaviour) : Bool × Bytes :=
  match readRequest N client with
  | .error e => (false, writeResponse N e.response)
  | .ok () =>
    match answer controller with
    | .error e => (true, writeResponse N e.response)
    | .ok payload => (true, writeResponse N payload)

/-- What `_handle_client` writes after that: a lost connection makes the drain of an answer raise,
which is handled like what the controller raises, and is not handled where an exception already
is. -/
def writtenAgain (client : Client) (controller : Behaviour) (lost : Bool) : Option Bytes :=
  match readRequest N client, answer controller with
  | .ok (), .ok _ => if lost then some (writeResponse N Failure.other.response) else none
  | _, _ => none

/-! ### The handler -/

/-- `_decode_single_json`; the text must begin with its value. -/
def decodeSingleJson (raw : Bytes) : Except PyError (List Char) :=
  match decodeText raw with
  | none => .error (.valueError "invalid start byte")
  | some text =>
    match JsonText.rawDecode N text with
    | none => .error (.valueError "Expecting value")
    | some (.object _, rest) =>
      if stripText rest ≠ [] then .error (.valueError "trailing payload") else .ok text
    | some _ => .error (.valueError "payload must be object")

/-- `_parse_stdin_message`. -/
def parseStdinMessage (stdin : Bytes) : Except PyError LoopbackMessage := do
  let raw := stdin.take (maxBytes + 1)
  if raw = [] then .error (.valueError "empty payload")
  else if raw.length > maxBytes then .error (.valueError "payload too large")
  else
    let text ← decodeSingleJson N raw
    match ← parseLoopback N (some text) with
    | .activation p t n => .ok (.activation p t n)
    | _ => .error (.valueError "not activation message")

/-- What `bytes.strip` takes away. -/
def isByteSpace (b : ℕ) : Bool := b == 32 || 9 ≤ b && b ≤ 13

/-- How the connection goes on after the request has been written. -/
inductive Reply
  | line (line tail : Bytes)
  | broken
  | late

/-- What becomes of a connection to the socket; the request is written to an open one, and `timeout`
is what `float` makes of the setting for how long the response is awaited then. -/
inductive Connecting
  | unresolved
  | refused
  | opened (timeout : Option PyFloat) (reply : Bytes → Reply)

/-- `1.0 <= value <= MAX_RESULT_TIMEOUT_SECONDS`; any other setting makes `_result_timeout_seconds`
raise. -/
def isResultTimeout : Option PyFloat → Bool
  | some (.finite false m) =>
    decide (1 * 2 ^ 1074 ≤ m.scaled) && decide (m.scaled ≤ 86400 * 2 ^ 1074)
  | _ => false

lemma defaultResultTimeout_fits : 3600 < 2 ^ 53 := by decide

def defaultResultTimeout : PyFloat :=
  .finite false ⟨3600, 0, defaultResultTimeout_fits, Binary64.zero.exp_ge, Binary64.zero.exp_le⟩

/-- The exceptions that `main` tells apart; the timeout of the standard library is an `OSError`. -/
inductive RequestError
  | osError
  | other
  deriving DecidableEq

/-- `str` of a value, for printing; a text with a lone surrogate is printed as some other text. -/
structure PyStr where
  str : Document → String
  str_text : ∀ s, str (.text (ofString s)) = s

variable (S : PyStr)

/-- What `_decode_response` makes of an object; a response without an outcome raises. -/
def normalizeResponse (response : List (List UInt16 × Document)) : Option JsonDict :=
  let sessionId := ((response.lookup (ofString "session_id")).map S.str).getD ""
  match response.lookup (ofString "outcome") with
  | none => none
  | some (.text outcome) =>
    if outcome = ofString "completed" then some (sessionResponse "completed" sessionId)
    else if outcome = ofString "busy" then some [("outcome", .str "busy")]
    else if outcome = ofString "cancelled" then some (sessionResponse "cancelled" sessionId)
    else some (failedResponse "activation failed")
  | some _ => some (failedResponse "activation failed")

/-- `_decode_response`; a lone surrogate in a text of the response is let pass. -/
def decodeResponse (raw : List Char) : Option JsonDict :=
  match JsonText.read N (stripText raw) with
  | some (.object response) => normalizeResponse S response
  | _ => none

/-- The request line: `json.dumps` of the message with compact separators. -/
def requestLine (m : LoopbackMessage) : Bytes :=
  encodeText (JsonText.write N true (dumps (.obj (modelDump m))) ++ ['\n'])

/-- `_request_activation`. -/
def requestActivation (m : LoopbackMessage) (connecting : Connecting) :
    Except RequestError JsonDict :=
  match connecting with
  | .unresolved => .error .other
  | .refused => .error .osError
  | .opened timeout reply =>
    if (requestLine N m).length > maxBytes then .error .other
    else if ¬ isResultTimeout timeout then .error .other
    else
      match reply (requestLine N m) with
      | .broken => .error .osError
      | .late => .error .osError
      | .line line tail =>
        if line = [] then .error .other
        else if line.length > maxBytes then .error .other
        else if tail.any (!isByteSpace ·) then .error .other
        else
          match (decodeText line).bind (decodeResponse N S) with
          | none => .error .other
          | some response => .ok response

def exitCode (response : JsonDict) : ℕ :=
  match dictGet response "outcome" with
  | some (.str outcome) =>
    if outcome = "completed" then 0
    else if outcome = "busy" then 2
    else if outcome = "cancelled" then 3
    else 1
  | _ => 1

/-- `main`: what is printed, and the exit code; nothing is printed when an exception escapes. -/
def handlerMain (stdin : Bytes) (connecting : Connecting) : Option JsonDict × ℕ :=
  match parseStdinMessage N stdin with
  | .ok (.activation p t true) =>
    match requestActivation N S (.activation p t true) connecting with
    | .error .osError => (some (failedResponse "socket unavailable"), 1)
    | .error .other => (some (failedResponse "activation failed"), 1)
    | .ok response => (some response, exitCode response)
  | .ok _ => (some (failedResponse "invalid activation payload"), 1)
  | .error e =>
    if e.isValueError then (some (failedResponse "invalid activation payload"), 1) else (none, 1)

/-! ### The listener -/

/-- `"%.9f"` of a number that is not negative: its whole part and nine digits. -/
structure Fixed9 where
  whole : ℕ
  fraction : Fin 1000000000

def Fixed9.digits (x : Fixed9) : List Char := (Nat.toDigits 10 x.fraction).leftpad 9 '0'

def Fixed9.text (x : Fixed9) : List Char := Nat.toDigits 10 x.whole ++ '.' :: x.digits

/-- `build_activation_payload` with the flag of the native listener, once its arguments have been
checked. -/
def activationPayload (probability detectedAt : Fixed9) : List Char :=
  "\x7b\"type\":\"activation\",\"probability\":".toList ++ probability.text ++
    ",\"detected_at\":".toList ++ detectedAt.text ++ ",\"native_listener\":true\x7d\n".toList

/-- How a process ends, as `waitpid` reports it. -/
inductive Ended
  | exited (status : ℕ)
  | signalled
  deriving DecidableEq

/-- Which of the calls of `run_handler` succeed, the child's among them. -/
structure Calls where
  pipe2 : Bool
  fork : Bool
  dup2 : Bool
  execv : Bool
  writeAll : Bool
  waitpid : Bool

def Calls.all : Calls := ⟨true, true, true, true, true, true⟩

/-- How the child of `run_handler` ends, as the handler or with 127. -/
def childEnds (calls : Calls) (handler : Bytes → Ended) (payload : Bytes) : Ended :=
  if ¬ calls.dup2 then .exited 127
  else if ¬ calls.execv then .exited 127
  else handler payload

/-- `run_handler`: whether it returns 0. Where the write fails the handler may have read only part
of the payload, and the signal for a broken pipe may end the listener instead. -/
def runHandler (calls : Calls) (handler : Bytes → Ended) (probability detectedAt : Fixed9) :
    Bool :=
  let payload := activationPayload probability detectedAt
  if 256 ≤ payload.length then false
  else if ¬ calls.pipe2 then false
  else if ¬ calls.fork then false
  else if ¬ calls.writeAll then false
  else if ¬ calls.waitpid then false
  else childEnds calls handler (encodeText payload) == .exited 0

/-- A handler process: `main` with some connection to its end, or any other end, as when it is
killed, cannot start or cannot flush its output, which is not with 0. -/
inductive HandlerProcess
  | main (connecting : Connecting)
  | other (ended : Ended) (unsuccessful : ended ≠ .exited 0)

def HandlerProcess.ended (process : HandlerProcess) (stdin : Bytes) : Ended :=
  match process with
  | .main connecting => .exited (handlerMain N S stdin connecting).2
  | .other ended _ => ended

end HermesRealtime.Handoff

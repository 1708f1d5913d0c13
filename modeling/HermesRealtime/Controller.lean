import HermesRealtime.Op
import HermesRealtime.Phases
import HermesRealtime.Tokens
import HermesRealtime.Interruption
import HermesRealtime.Teardown
import HermesRealtime.TaskEvents

/-!
`VoiceSessionController`: one active session, its control messages, and the way it ends.

Sessions are objects that several parts of the code refer to, so the controller has a heap of
them, and `activeSession` is a reference. No critical section of the controller waits, so each
is one operation here; what a method awaits afterwards is left to its caller.
-/

namespace HermesRealtime.Controller

open Values Text Protocol Phases Timing Tokens Interruption Teardown TaskEvents

inductive ControlState
  | idle | launching | connecting | live | stopping
  deriving DecidableEq

structure TerminalSessionResult where
  sessionId : String
  outcome : SessionOutcome
  error : Option String := none
  deriving DecidableEq

structure BrowserHandle where
  processId : ℕ
  deriving DecidableEq

/-- `_WakeSession`. The coordinator is made together with the session. -/
structure WakeSession where
  sessionId : String
  token : String
  state : SessionState
  trace : SessionTrace
  interruptions : InterruptionTimelineReducer
  browserHandle : Option BrowserHandle := none
  teardown : TeardownCoordinator := {}
  teardownMarked : Bool := false
  stopReason : Option StopReason := none
  resolvedResult : Option TerminalSessionResult := none
  startupDeadline : Option BrowserStartupDeadline := none

/-- `asyncio.Queue(maxsize=64)`. -/
structure OutboundQueue where
  messages : List LoopbackMessage
  bounded : messages.length ≤ 64

namespace OutboundQueue

def empty : OutboundQueue := ⟨[], by simp⟩

def put (q : OutboundQueue) (message : LoopbackMessage) (h : q.messages.length < 64) :
    OutboundQueue :=
  ⟨q.messages ++ [message], by simp only [List.length_append, List.length_singleton]; omega⟩

def get (q : OutboundQueue) : OutboundQueue :=
  ⟨q.messages.tail, by have := q.bounded; simp only [List.length_tail]; omega⟩

/-- A stop message is put in whatever the queue holds: a full one loses its oldest message. -/
def putStop (q : OutboundQueue) (message : LoopbackMessage) : OutboundQueue :=
  if h : q.messages.length < 64 then q.put message h
  else q.get.put message (by have := q.bounded; simp only [get, List.length_tail]; omega)

end OutboundQueue

/-- The controller. A session that has not been created is not looked at. The queue of a session
is an object of its own, that outlives its entry in `outboundMessages` in the hands of whoever
waits for a message; it goes by the number of its session. -/
structure VoiceSessionController where
  browserStartTimeoutSeconds : ℚ := 20
  hasTraceDirectory : Bool := false
  launcherReleasesProfileLock : Bool := false
  heap : ℕ → WakeSession
  created : ℕ := 0
  activeSession : Option ℕ := none
  lastClosedSessionId : Option String := none
  lastClosedInterruptionTraces : List InterruptionTrace := []
  terminalFutures : String → Option ℕ := fun _ => none
  futures : ℕ → Option TerminalSessionResult := fun _ => none
  terminalResults : String → Option TerminalSessionResult := fun _ => none
  outboundMessages : String → Option ℕ := fun _ => none
  queues : ℕ → OutboundQueue := fun _ => .empty
  lastNotifiedStatus : Option ControlState := none
  tokenStore : LaunchTokenStore := {}
  taskEvents : TaskEventCoordinator := {}

/-- What an operation meets: the platform, the clock, and whether the status observer raises
when it is told of a state. -/
structure Env where
  platform : Platform
  clock : Clock
  observerRaises : ControlState → Bool := fun _ => false

abbrev ControllerM := Op VoiceSessionController PyError

section

variable (env : Env)

/-- The controller with another record for a session. -/
def setSession (c : VoiceSessionController) (ref : ℕ) (s : WakeSession) : VoiceSessionController :=
  { c with heap := Function.update c.heap ref s }

def modifySession (ref : ℕ) (f : WakeSession → WakeSession) : ControllerM Unit :=
  Op.modify fun c => setSession c ref (f (c.heap ref))

/-- The state shown while the active session is in a phase. -/
def statusOf : SessionPhase → ControlState
  | .launching => .launching
  | .connecting => .connecting
  | .live => .live
  | .stopping => .stopping
  | _ => .idle

namespace VoiceSessionController

def status (c : VoiceSessionController) : ControlState :=
  match c.activeSession with
  | none => .idle
  | some ref => statusOf (c.heap ref).state.phase

def sessionIsActive (c : VoiceSessionController) (sessionId : String) : Bool :=
  match c.activeSession with
  | none => false
  | some ref =>
    (c.heap ref).sessionId = sessionId &&
      ((c.heap ref).state.phase = .launching || (c.heap ref).state.phase = .connecting ||
        (c.heap ref).state.phase = .live)

end VoiceSessionController

/-- `_notify_status`: the state is remembered before the observer is told. -/
def notifyStatus : ControllerM Unit := do
  let c ← Op.get
  if c.lastNotifiedStatus = some c.status then return ()
  Op.modify fun c => { c with lastNotifiedStatus := some c.status }
  if env.observerRaises c.status then Op.raise .osError

/-- `_transition`. -/
def transition (ref : ℕ) (phase : SessionPhase) : ControllerM Unit := do
  let c ← Op.get
  let state ← Op.ofExcept ((c.heap ref).state.transition phase)
  modifySession ref fun s => { s with state }

/-- `session.trace.record`. -/
def recordTrace (ref : ℕ) (name : String) (source : TimingEventSource) (data : JsonDict)
    (monotonicNs : Option ℤ) : ControllerM Unit := do
  let c ← Op.get
  let trace ← Op.ofExcept ((c.heap ref).trace.record env.clock name source data monotonicNs)
  modifySession ref fun s => { s with trace }

/-- `_require_active_session`. -/
def requireActiveSession (sessionId : String) : ControllerM ℕ := do
  let c ← Op.get
  match c.activeSession with
  | none => Op.raise (.staleControlMessage "stale session id")
  | some ref =>
    if (c.heap ref).sessionId ≠ sessionId then
      Op.raise (.staleControlMessage "stale session id")
    else return ref

/-! ### Activation -/

inductive ActivationStatus
  | opened | busy | failed
  deriving DecidableEq

structure ActivationResult where
  status : ActivationStatus
  sessionId : Option String := none
  token : Option String := none
  error : Option String := none
  deriving DecidableEq

/-- The session `activate` makes, before anything refers to it. -/
def newSession (sessionId token : String) (state : SessionState) : WakeSession :=
  { sessionId, token, state, trace := ⟨sessionId, []⟩
    interruptions := { localSessionId := sessionId } }

/-- The handler of an exception of the launcher. -/
def launchFailed (ref : ℕ) (sessionId token : String) : ControllerM ActivationResult := do
  let result : TerminalSessionResult :=
    { sessionId, outcome := .failed, error := some "activation failed" }
  modifySession ref fun s => { s with browserHandle := none, resolvedResult := some result }
  Op.modify fun c => { c with
    activeSession := none
    outboundMessages := Function.update c.outboundMessages sessionId none }
  transition ref .failed
  notifyStatus env
  Op.modify fun c => { c with
    terminalFutures := Function.update c.terminalFutures sessionId none
    terminalResults := Function.update c.terminalResults sessionId (some result)
    futures := Function.update c.futures ref (some ((c.futures ref).getD result))
    tokenStore := c.tokenStore.invalidate token }
  return { status := .failed, sessionId := some sessionId, token := some token,
           error := some "activation failed" }

/-- `activate` up to the call of the launcher: nothing when another session is active. -/
def openSession (sessionId token : String) (now : ℚ) : ControllerM (Option ℕ) := do
  let c ← Op.get
  if c.activeSession.isSome then return none
  Op.modify fun c => { c with tokenStore := c.tokenStore.issue sessionId token now }
  Op.ofExcept (validateIdentifier sessionId 128)
  let state ← Op.ofExcept ((SessionState.new sessionId).transitionTo .launching)
  let ref := c.created
  Op.modify fun c => { c with
    heap := Function.update c.heap ref (newSession sessionId token state)
    created := ref + 1
    activeSession := some ref }
  notifyStatus env
  Op.modify fun c => { c with
    terminalFutures := Function.update c.terminalFutures sessionId (some ref)
    outboundMessages := Function.update c.outboundMessages sessionId (some ref)
    queues := Function.update c.queues ref .empty
    lastClosedSessionId := none
    lastClosedInterruptionTraces := [] }
  return some ref

/-- `activate` after the launcher has returned. -/
def launchSucceeded (ref : ℕ) (sessionId token : String) (handle : BrowserHandle) :
    ControllerM ActivationResult := do
  let c ← Op.get
  modifySession ref fun s => { s with
    browserHandle := some handle
    startupDeadline := some { timeoutSeconds := c.browserStartTimeoutSeconds, armed := true } }
  return { status := .opened, sessionId := some sessionId, token := some token }

/-- `activate`, with what the session id factory, the token factory, the token clock and the
launcher give; a launcher that gives no handle raised. -/
def activate (sessionId token : String) (now : ℚ) (launched : Option BrowserHandle) :
    ControllerM ActivationResult := do
  match ← openSession env sessionId token now with
  | none => return { status := .busy }
  | some ref =>
    match launched with
    | none => launchFailed env ref sessionId token
    | some handle => launchSucceeded ref sessionId token handle

/-! ### Teardown -/

def outcomeForStopReason : StopReason → SessionOutcome
  | .transportFailure => .failed
  | .timeout => .timedOut
  | .nativeCancel => .cancelled
  | _ => .completed

/-- `active.trace.record("teardown_requested", …)`, unless it is recorded. -/
def markTeardown (ref : ℕ) (request : TeardownRequest) : ControllerM Unit := do
  let c ← Op.get
  if (c.heap ref).teardownMarked then return ()
  recordTrace env ref "teardown_requested" .controller
    [("outcome", .str request.outcome.value), ("reason", .str request.reason.value)] none
  modifySession ref fun s => { s with teardownMarked := true }

/-- The part of `_begin_teardown_locked` before the trace. -/
def enterStopping (ref : ℕ) (request : TeardownRequest) : ControllerM Unit := do
  let c ← Op.get
  if (c.heap ref).state.phase ≠ .stopping then
    transition ref .stopping
    notifyStatus env
  modifySession ref fun s => { s with stopReason := s.stopReason <|> some request.reason }

/-- `_begin_teardown_locked`, given the id of the session. -/
def beginTeardownLocked (sessionId : String) (request : TeardownRequest) : ControllerM ℕ := do
  let ref ← requireActiveSession sessionId
  enterStopping env ref request
  markTeardown env ref request
  modifySession ref fun s => { s with teardown := s.teardown.start request }
  return ref

/-- `request_teardown` up to the wait for the coordinator. -/
def requestTeardown (sessionId : String) (request : TeardownRequest) : ControllerM ℕ := do
  let ref ← requireActiveSession sessionId
  let c ← Op.get
  beginTeardownLocked env (c.heap ref).sessionId request

def startupTimedOut : TeardownRequest :=
  { outcome := .timedOut, reason := .timeout, error := some "browser startup timed out" }

/-- `_expire_browser_startup` up to the wait for the coordinator: whether it requests a
teardown. -/
def expireBrowserStartup (ref : ℕ) : ControllerM Bool := do
  let c ← Op.get
  if c.activeSession ≠ some ref ∨
      ((c.heap ref).state.phase ≠ .launching ∧ (c.heap ref).state.phase ≠ .connecting) then
    return false
  let _ ← beginTeardownLocked env (c.heap ref).sessionId startupTimedOut
  return true

/-! ### Control messages -/

/-- How `process_control_message` goes on after its critical section: it returns nothing, it
returns a `SessionClosedMessage`, or it waits for the coordinator of a session. -/
inductive ControlReply
  | nothing
  | closed (outcome : SessionOutcome)
  | awaits (ref : ℕ) (request : TeardownRequest)
  deriving DecidableEq

/-- A message when no session is active: only a repeated `teardown_complete` is answered. -/
def answerClosed (sessionId : String) (message : LoopbackMessage) : ControllerM ControlReply := do
  let c ← Op.get
  match message with
  | .teardownComplete _ =>
    if c.lastClosedSessionId = some sessionId then
      return .closed (((c.terminalResults sessionId).map (·.outcome)).getD .completed)
    else Op.raise (.staleControlMessage "no active session")
  | _ => Op.raise (.staleControlMessage "no active session")

/-- A message of the active session. -/
def handleMessage (ref : ℕ) : LoopbackMessage → ControllerM ControlReply
  | .pageReady _ => do
    transition ref .connecting
    notifyStatus env
    return .nothing
  | .pageStarted _ => do
    transition ref .live
    modifySession ref fun s => { s with startupDeadline := none }
    notifyStatus env
    return .nothing
  | .timing message => do
    let data := sanitizeTimingData env.platform message.data
    match message.monotonicMs.mulTrunc 1000000 with
    | none => Op.raise .overflowError
    | some ns => do
      recordTrace env ref message.name.value .browser data (some ns)
      return .nothing
  | .stop _ reason => do
    let c ← Op.get
    let _ ← beginTeardownLocked env (c.heap ref).sessionId
      { outcome := outcomeForStopReason reason, reason }
    return .nothing
  | .teardownComplete _ => do
    let c ← Op.get
    let reason := (c.heap ref).stopReason.getD .button
    let request : TeardownRequest := { outcome := outcomeForStopReason reason, reason }
    let _ ← beginTeardownLocked env (c.heap ref).sessionId request
    modifySession ref fun s => { s with teardown := s.teardown.acknowledgeBrowserTeardown }
    return .awaits ref request
  | _ => Op.raise (.runtimeError "unreachable")

/-- `process_control_message` up to the wait for the coordinator. -/
def processControlMessage (sessionId : String) (decoded : Except PyError LoopbackMessage) :
    ControllerM ControlReply := do
  let message ← Op.ofExcept (parseLoopbackMessage decoded sessionId)
  match message with
  | .taskEvent _ => Op.raise (.valueError "task_event messages are controller-to-page only")
  | message => do
    let c ← Op.get
    match c.activeSession with
    | none => answerClosed sessionId message
    | some ref =>
      if (c.heap ref).sessionId ≠ sessionId then
        Op.raise (.staleControlMessage "stale session id")
      else handleMessage env ref message

/-! ### Tokens, observations, task events -/

/-- `consume_activation_token`. -/
def consumeActivationToken (token : String) (now : ℚ) : ControllerM (Option String) := do
  let c ← Op.get
  let (store, consumed) := c.tokenStore.consume token now
  Op.modify fun c => { c with tokenStore := store }
  match consumed, c.activeSession with
  | some localSessionId, some ref =>
    if (c.heap ref).sessionId = localSessionId then return some localSessionId else return none
  | _, _ => return none

/-- `begin_realtime_response`. -/
def beginRealtimeResponse (sessionId responseId : String) (receivedNs : ℤ)
    (providerAudioStartMs : Option ℤ) : ControllerM Unit := do
  let ref ← requireActiveSession sessionId
  let c ← Op.get
  let interruptions ← Op.ofExcept
    ((c.heap ref).interruptions.beginResponse responseId receivedNs providerAudioStartMs)
  modifySession ref fun s => { s with interruptions }
  let started := match providerAudioStartMs with
    | some ms => [("provider_audio_start_ms", Json.int ms)]
    | none => []
  recordTrace env ref "response_first_audio" .openai (("response_id", .str responseId) :: started)
    (some receivedNs)

/-- `record_interruption_event`. -/
def recordInterruptionEvent (sessionId : String) (event : InterruptionEvent) :
    ControllerM Bool := do
  let ref ← requireActiveSession sessionId
  if event.localSessionId ≠ sessionId then
    Op.raise (.staleControlMessage "interruption event session mismatch")
  else do
    let c ← Op.get
    let (interruptions, accepted) := (c.heap ref).interruptions.consume event
    modifySession ref fun s => { s with interruptions }
    if accepted then do
      let source : TimingEventSource :=
        if event.kind = .playbackSuppressed ∨ event.kind = .listeningRestored then .browser
        else .openai
      let onset := match event.userSpeechOnsetMs with
        | some ms => [("user_speech_onset_ms", Json.float (.finite false ms))]
        | none => []
      recordTrace env ref event.kind.value source (("response_id", .str event.responseId) :: onset)
        (some event.occurredNs)
      return true
    else return false

/-- `publish_task_event`. -/
def publishTaskEvent (sessionId : String) (message : TaskEventMessage) : ControllerM Bool := do
  let c ← Op.get
  if message.sessionId ≠ sessionId then return false
  else if ¬ c.sessionIsActive sessionId then return false
  else match c.outboundMessages sessionId with
    | none => return false
    | some queue =>
      if h : (c.queues queue).messages.length < 64 then do
        let longer := (c.queues queue).put (.taskEvent message) h
        Op.modify fun c => { c with queues := Function.update c.queues queue longer }
        return true
      else return false

/-- `wait_for_outbound_message` up to its wait: the queue it waits for. -/
def waitForOutboundMessage (sessionId : String) : ControllerM ℕ := do
  let _ ← requireActiveSession sessionId
  let c ← Op.get
  match c.outboundMessages sessionId with
  | none => Op.raise (.keyError sessionId)
  | some queue => return queue

/-- `queue.get()`: the oldest message, or none while the caller waits. -/
def getOutbound (queue : ℕ) : ControllerM (Option LoopbackMessage) := do
  let c ← Op.get
  Op.modify fun c => { c with queues := Function.update c.queues queue (c.queues queue).get }
  return (c.queues queue).messages.head?

structure HandoffRecord where
  taskId : String
  title : String
  boardSlug : Option String
  dbPath : Option String

/-- `register_handoff`. -/
def registerHandoff (sessionId : String) (record : HandoffRecord) : ControllerM Bool := do
  let c ← Op.get
  if ¬ c.sessionIsActive sessionId then return false
  else match record.boardSlug.filter (· ≠ ""), record.dbPath.filter (· ≠ "") with
    | some slug, some path => do
      let registered := c.taskEvents.registerTask
        (newTask env.platform sessionId record.taskId record.title slug path)
      Op.modify fun c => { c with taskEvents := registered.1 }
      return registered.2
    | _, _ => return false

/-- `resolve_task_permission` up to the call of the coordinator. -/
def resolveTaskPermission (sessionId : String) : ControllerM Unit := do
  let c ← Op.get
  if ¬ c.sessionIsActive sessionId then
    Op.raise (.staleControlMessage "permission response is not from the originating session")

/-! ### The hooks of a session's coordinator -/

/-- `mark_stopping`. -/
def markStopping (ref : ℕ) (request : TeardownRequest) : ControllerM Unit := do
  let c ← Op.get
  let _ ← beginTeardownLocked env (c.heap ref).sessionId request

/-- `request_browser_stop`. -/
def requestBrowserStop (ref : ℕ) (request : TeardownRequest) : ControllerM Unit := do
  let c ← Op.get
  let sessionId := (c.heap ref).sessionId
  let active ← requireActiveSession sessionId
  match c.outboundMessages sessionId with
  | none => Op.raise (.keyError sessionId)
  | some queue => do
    Op.modify fun c => { c with
      queues := Function.update c.queues queue
        ((c.queues queue).putStop (.stop sessionId request.reason)) }
    recordTrace env active "browser_stop_requested" .controller
      [("reason", .str request.reason.value)] none

/-- `close_browser` up to the closing of the handle it takes. -/
def closeBrowser (ref : ℕ) : ControllerM (Option BrowserHandle) := do
  let c ← Op.get
  modifySession ref fun s => { s with browserHandle := none }
  return (c.heap ref).browserHandle

/-- The records of `persist_trace`. -/
def recordFailures (ref : ℕ) : List TeardownStepFailure → ControllerM Unit
  | [] => recordTrace env ref "teardown_complete" .controller [] none
  | failure :: failures => do
    recordTrace env ref "teardown_step_failed" .controller
      [("step", .str failure.step.value), ("kind", .str failure.kind.value)] none
    recordFailures ref failures

/-- `persist_trace` up to the writing of the file: whether there is one to write. -/
def persistTrace (ref : ℕ) (failures : List TeardownStepFailure) : ControllerM Bool := do
  recordFailures env ref failures
  let c ← Op.get
  return c.hasTraceDirectory

/-- `_resolve_terminal_result`. -/
def resolveTerminalResult (ref : ℕ) (outcome : SessionOutcome) (error : Option String) :
    ControllerM Unit := do
  let c ← Op.get
  let s := c.heap ref
  if s.resolvedResult.isSome then return ()
  let result : TerminalSessionResult := { sessionId := s.sessionId, outcome, error }
  modifySession ref fun s => { s with resolvedResult := some result }
  Op.modify fun c => { c with
    terminalResults := Function.update c.terminalResults s.sessionId (some result)
    terminalFutures := Function.update c.terminalFutures s.sessionId none
    futures := match c.terminalFutures s.sessionId with
      | some future => Function.update c.futures future (some ((c.futures future).getD result))
      | none => c.futures
    tokenStore := c.tokenStore.invalidate s.token }

/-- `finalize`. -/
def finalize (ref : ℕ) (request : TeardownRequest) : ControllerM Unit := do
  let c ← Op.get
  if c.activeSession ≠ some ref then return ()
  transition ref (if request.outcome = .failed then .failed else .closed)
  Op.modify fun c => { c with
    lastClosedInterruptionTraces := (c.heap ref).interruptions.traces
    activeSession := none }
  notifyStatus env
  let sessionId := (c.heap ref).sessionId
  Op.modify fun c => { c with
    lastClosedSessionId := some sessionId
    outboundMessages := Function.update c.outboundMessages sessionId none }
  modifySession ref fun s => { s with startupDeadline := none }
  resolveTerminalResult ref request.outcome request.error

end

end HermesRealtime.Controller

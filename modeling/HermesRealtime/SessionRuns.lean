import HermesRealtime.Controller
import HermesRealtime.Runs

/-!
The controller at run time: callers that come and go, the startup deadlines, and the
coordinators that tear sessions down.

A step is one critical section of the controller, or one move of a coordinator's task between
two awaits. What a method does after its critical section is left to a waiter: the handler of
a deadline that has fired, `close_active_session` between its two sections, and everyone who
waits for a coordinator. The log keeps what the callers and the page have seen.
-/

namespace HermesRealtime.SessionRuns

open Values Text Protocol Phases Timing Tokens Interruption Teardown TaskEvents Controller

inductive Waiter
  /-- a deadline has fired, and its handler has not run -/
  | expiring (ref : ℕ)
  /-- `close_active_session` has read which session is active -/
  | closing (sessionId : String) (request : TeardownRequest)
  /-- a caller waits for a coordinator; `answers` is a control message's session -/
  | awaiting (ref : ℕ) (shield : Bool) (answers : Option String)

inductive Observation
  /-- the launcher was called for the session -/
  | launched (ref : ℕ)
  /-- `activate` returned the session's id -/
  | activated (sessionId : String)
  | pageStarted (ref : ℕ)
  /-- a teardown was requested and has begun; by the startup deadline, or not -/
  | requested (ref : ℕ) (request : TeardownRequest) (byDeadline : Bool)
  | reported (ref : ℕ) (report : TeardownReport)
  /-- a `SessionClosedMessage` was returned -/
  | answered (sessionId : String) (outcome : SessionOutcome)
  deriving DecidableEq

structure World where
  controller : VoiceSessionController
  waiters : ℕ → Option Waiter := fun _ => none
  log : List Observation := []

/-- What can happen. `n` names a waiter, a new one where the action may leave one behind. -/
inductive Action
  | activate (sessionId token : String) (now : ℚ) (launched : Option BrowserHandle)
  | control (n : ℕ) (sessionId : String) (decoded : Except PyError LoopbackMessage)
  | request (n : ℕ) (sessionId : String) (request : TeardownRequest) (shield : Bool)
  | close (n : ℕ) (outcome : SessionOutcome) (error : Option String)
  | closeRequest (n : ℕ)
  | deadlineFires (n ref : ℕ)
  | expire (n : ℕ)
  | deliver (n : ℕ)
  | cancel (n : ℕ)
  | enter (ref : ℕ)
  | hook (ref : ℕ)
  | hookEnds (ref : ℕ) (result : StepResult)
  | ackArrives (ref : ℕ)
  | ackTimeout (ref : ℕ)
  | finalize (ref : ℕ)
  | finish (ref : ℕ)
  | consume (token : String) (now : ℚ)
  | publish (sessionId : String) (message : TaskEventMessage)
  | get (queue : ℕ)
  | handoff (sessionId : String) (record : HandoffRecord)
  | permission (sessionId : String)
  | beginResponse (sessionId responseId : String) (receivedNs : ℤ)
      (providerAudioStartMs : Option ℤ)
  | interruption (sessionId : String) (event : InterruptionEvent)

/-- What a controller is made with. -/
structure Config where
  browserStartTimeoutSeconds : ℚ := 20
  tokenTtlSeconds : ℚ := 15
  hasTraceDirectory : Bool := false
  launcherReleasesProfileLock : Bool := false

/-- A new controller, that nobody has called. -/
def start (g : Config) : World where
  controller :=
    { browserStartTimeoutSeconds := g.browserStartTimeoutSeconds
      hasTraceDirectory := g.hasTraceDirectory
      launcherReleasesProfileLock := g.launcherReleasesProfileLock
      tokenStore := { tokenTtlSeconds := g.tokenTtlSeconds }
      heap := fun _ => newSession "" "" (.new "") }

/-! ### The coordinator -/

/-- The task of a session's coordinator moves. -/
def moveTask (c : VoiceSessionController) (ref : ℕ) (f : TeardownRun → TeardownRun) :
    VoiceSessionController :=
  setSession c ref { c.heap ref with teardown := (c.heap ref).teardown.mapTask f }

/-- A hook up to its first await; whether it waits for a thread then. -/
def callHook (env : Env) (ref : ℕ) (run : TeardownRun) : TeardownHook → ControllerM Bool
  | .markStopping => do
    markStopping env ref run.request
    return false
  | .requestBrowserStop => do
    requestBrowserStop env ref run.request
    return false
  | .closeBrowser => do
    let handle ← closeBrowser ref
    return handle.isSome
  | .releaseProfileLock => do
    let c ← Op.get
    return c.launcherReleasesProfileLock
  | .persistTrace => persistTrace env ref run.failures

/-- What the task does when a hook has been called. -/
def hookCalled (hook : TeardownHook) (result : Except PyError Bool) (run : TeardownRun) :
    TeardownRun :=
  match result with
  | .ok true => { run with point := .suspended hook }
  | .ok false => run.hookReturned hook .ok
  | .error _ => run.hookReturned hook .error

/-- `_run_step` of the finalization. -/
def finalizeResult : Except PyError Unit → StepResult
  | .ok _ => .ok
  | .error _ => .error

/-- The task of a session, when the session exists and has one. -/
def taskOf (c : VoiceSessionController) (ref : ℕ) : Option TeardownRun :=
  if ref < c.created then (c.heap ref).teardown.task else none

namespace World

def withController (w : World) (c : VoiceSessionController) : World := { w with controller := c }

def setWaiter (w : World) (n : ℕ) (waiter : Option Waiter) : World :=
  { w with waiters := Function.update w.waiters n waiter }

def observe (w : World) (log : List Observation) : World := { w with log := w.log ++ log }

end World

/-- What a control message that was accepted shows; a stop message is a request. -/
def observed (c : VoiceSessionController) (decoded : Except PyError LoopbackMessage) :
    List Observation :=
  match c.activeSession, decoded with
  | some ref, .ok (.pageStarted _) => [.pageStarted ref]
  | some ref, .ok (.stop _ reason) =>
    [.requested ref { outcome := outcomeForStopReason reason, reason } false]
  | _, _ => []

/-- The world after `request_teardown` has been called by the waiter `n`. -/
def afterRequest (env : Env) (w : World) (n : ℕ) (sessionId : String) (request : TeardownRequest)
    (shield : Bool) : World :=
  match requestTeardown env sessionId request w.controller with
  | (c, .ok ref) =>
    ((w.withController c).setWaiter n (some (.awaiting ref shield none))).observe
      [.requested ref request false]
  | (c, .error _) => (w.withController c).setWaiter n none

/-- The world after `process_control_message` has been called by the waiter `n`. -/
def afterControl (env : Env) (w : World) (n : ℕ) (sessionId : String)
    (decoded : Except PyError LoopbackMessage) : World :=
  match processControlMessage env sessionId decoded w.controller with
  | (c, .ok .nothing) => (w.withController c).observe (observed w.controller decoded)
  | (c, .ok (.closed outcome)) => (w.withController c).observe [.answered sessionId outcome]
  | (c, .ok (.awaits ref request)) =>
    ((w.withController c).setWaiter n (some (.awaiting ref true (some sessionId)))).observe
      [.requested ref request false]
  | (c, .error _) => w.withController c

/-- The launcher is called when a session has been opened. -/
def launches : Except PyError (Option ℕ) → List Observation
  | .ok (some ref) => [.launched ref]
  | _ => []

/-- The world after `activate`. -/
def afterActivate (env : Env) (w : World) (sessionId token : String) (now : ℚ)
    (launched : Option BrowserHandle) : World :=
  let calls := launches (openSession env sessionId token now w.controller).2
  match activate env sessionId token now launched w.controller with
  | (c, .ok result) =>
    (w.withController c).observe (calls ++ (result.sessionId.map .activated).toList)
  | (c, .error _) => (w.withController c).observe calls

/-- The log of a caller whose coordinator has reported. -/
def delivered (ref : ℕ) (report : TeardownReport) (answers : Option String) : List Observation :=
  .reported ref report ::
    (answers.map fun sessionId => Observation.answered sessionId report.request.outcome).toList

/-- One step of the world. The ids and tokens that are made are fresh. -/
def step (w : World) : Env × Action → Option World
  | (env, .activate sessionId token now launched) =>
    if (∀ ref < w.controller.created, (w.controller.heap ref).sessionId ≠ sessionId) ∧
        w.controller.tokenStore.records token = none then
      some (afterActivate env w sessionId token now launched)
    else none
  | (env, .control n sessionId decoded) =>
    if (w.waiters n).isSome then none else some (afterControl env w n sessionId decoded)
  | (env, .request n sessionId request shield) =>
    if (w.waiters n).isSome then none else some (afterRequest env w n sessionId request shield)
  | (_, .close n outcome error) =>
    if (w.waiters n).isSome then none
    else match w.controller.activeSession with
      | none => some w
      | some ref =>
        let reason := if outcome = .failed then .transportFailure else .nativeCancel
        some (w.setWaiter n
          (some (.closing (w.controller.heap ref).sessionId { outcome, reason, error })))
  | (env, .closeRequest n) =>
    match w.waiters n with
    | some (.closing sessionId request) => some (afterRequest env w n sessionId request false)
    | _ => none
  | (_, .deadlineFires n ref) =>
    if (w.waiters n).isSome ∨ ¬ ref < w.controller.created then none
    else match (w.controller.heap ref).startupDeadline with
      | some deadline =>
        if deadline.armed then
          some ((w.withController (setSession w.controller ref
            { w.controller.heap ref with startupDeadline := some deadline.expire })).setWaiter n
            (some (.expiring ref)))
        else none
      | none => none
  | (env, .expire n) =>
    match w.waiters n with
    | some (.expiring ref) =>
      match expireBrowserStartup env ref w.controller with
      | (c, .ok true) =>
        some (((w.withController c).setWaiter n (some (.awaiting ref true none))).observe
          [.requested ref startupTimedOut true])
      | (c, _) => some ((w.withController c).setWaiter n none)
    | _ => none
  | (_, .deliver n) =>
    match w.waiters n with
    | some (.awaiting ref _ answers) =>
      match taskOf w.controller ref with
      | some run =>
        if run.point = .returned then
          some ((w.setWaiter n none).observe (delivered ref run.report answers))
        else if run.point = .cancelled then some (w.setWaiter n none)
        else none
      | none => none
    | _ => none
  | (_, .cancel n) =>
    match w.waiters n with
    | some (.awaiting ref shield _) =>
      if shield then some (w.setWaiter n none)
      else some ((w.withController (moveTask w.controller ref TeardownRun.cancel)).setWaiter n none)
    | some (.closing _ _) => some (w.setWaiter n none)
    | _ => none
  | (_, .enter ref) =>
    match taskOf w.controller ref with
    | some run =>
      if run.point = .created then
        some (w.withController (moveTask w.controller ref fun run =>
          { run with point := .calling .markStopping }))
      else none
    | none => none
  | (env, .hook ref) =>
    match taskOf w.controller ref with
    | some run =>
      match run.point with
      | .calling hook =>
        let called := callHook env ref run hook w.controller
        some (w.withController (moveTask called.1 ref (hookCalled hook called.2)))
      | _ => none
    | none => none
  | (_, .hookEnds ref result) =>
    match taskOf w.controller ref with
    | some run =>
      match run.point with
      | .suspended hook =>
        some (w.withController (moveTask w.controller ref fun run => run.hookReturned hook result))
      | _ => none
    | none => none
  | (_, .ackArrives ref) =>
    match taskOf w.controller ref with
    | some run =>
      if run.point = .awaitingAck ∧ (w.controller.heap ref).teardown.browserAcknowledged then
        some (w.withController (moveTask w.controller ref fun run => run.ackAwaited true))
      else none
    | none => none
  | (_, .ackTimeout ref) =>
    match taskOf w.controller ref with
    | some run =>
      if run.point = .awaitingAck then
        some (w.withController (moveTask w.controller ref fun run => run.ackAwaited false))
      else none
    | none => none
  | (env, .finalize ref) =>
    match taskOf w.controller ref with
    | some run =>
      if run.finalization = .created then
        let finalized := finalize env ref run.request w.controller
        some (w.withController (moveTask finalized.1 ref fun run =>
          run.finalized (finalizeResult finalized.2)))
      else none
    | none => none
  | (_, .finish ref) =>
    match taskOf w.controller ref with
    | some run =>
      if run.finalization = .finished ∧ ∃ cancelled, run.point = .awaitingFinalize cancelled then
        some (w.withController (moveTask w.controller ref TeardownRun.finish))
      else none
    | none => none
  | (_, .consume token now) =>
    some (w.withController (consumeActivationToken token now w.controller).1)
  | (_, .publish sessionId message) =>
    some (w.withController (publishTaskEvent sessionId message w.controller).1)
  | (_, .get queue) => some (w.withController (getOutbound queue w.controller).1)
  | (env, .handoff sessionId record) =>
    some (w.withController (registerHandoff env sessionId record w.controller).1)
  | (_, .permission sessionId) =>
    some (w.withController (resolveTaskPermission sessionId w.controller).1)
  | (env, .beginResponse sessionId responseId receivedNs providerAudioStartMs) =>
    some (w.withController
      (beginRealtimeResponse env sessionId responseId receivedNs providerAudioStartMs
        w.controller).1)
  | (env, .interruption sessionId event) =>
    some (w.withController (recordInterruptionEvent env sessionId event w.controller).1)

/-! ### Sample runs -/

/-- A platform of ASCII, a clock that stands still, and an observer that does not raise. -/
def stillEnv : Env := { platform := asciiPlatform, clock := ⟨0, ""⟩ }

/-- The coordinator of the first session from its start to the wait for the page. -/
def askPage : List (Env × Action) :=
  [(stillEnv, .enter 0), (stillEnv, .hook 0), (stillEnv, .hook 0)]

/-- … and from the acknowledgement to its end, when there is a browser to close. -/
def closeDown : List (Env × Action) :=
  [(stillEnv, .ackArrives 0), (stillEnv, .hook 0), (stillEnv, .hookEnds 0 .ok),
   (stillEnv, .hook 0), (stillEnv, .hook 0), (stillEnv, .finalize 0), (stillEnv, .finish 0)]

end HermesRealtime.SessionRuns

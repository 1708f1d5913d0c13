import HermesRealtime.Protocol
import Mathlib.Data.Rat.Defs

/-!
The teardown of a session: the startup deadline that may ask for it, and the coordinator
that runs it once.

`TeardownRun` is the state of the coordinator's task between two steps of the event loop:
the point `_run` has reached, the failures so far, and the finalization task it creates at
the end. Calling a hook and seeing it return are two steps, since three of the hooks wait
for a thread in between.
-/

namespace HermesRealtime.Teardown

open Values Protocol

structure TeardownRequest where
  outcome : SessionOutcome
  reason : StopReason
  error : Option String := none
  deriving DecidableEq

/-- The hooks of `_run` before the finalization, in the order it calls them. -/
inductive TeardownHook
  | markStopping | requestBrowserStop | closeBrowser | releaseProfileLock | persistTrace
  deriving DecidableEq

inductive FailedStep
  | hook (hook : TeardownHook)
  | browserAck
  | finalize
  | teardownCancelled
  deriving DecidableEq

def FailedStep.value : FailedStep → String
  | .hook .markStopping => "mark_stopping"
  | .hook .requestBrowserStop => "request_browser_stop"
  | .hook .closeBrowser => "close_browser"
  | .hook .releaseProfileLock => "release_profile_lock"
  | .hook .persistTrace => "persist_trace"
  | .browserAck => "browser_ack"
  | .finalize => "finalize"
  | .teardownCancelled => "teardown_cancelled"

inductive FailureKind
  | error | timeout
  deriving DecidableEq

def FailureKind.value : FailureKind → String
  | .error => "error"
  | .timeout => "timeout"

structure TeardownStepFailure where
  step : FailedStep
  kind : FailureKind
  deriving DecidableEq

structure TeardownReport where
  request : TeardownRequest
  browserAcknowledged : Bool
  failures : List TeardownStepFailure
  deriving DecidableEq

/-- How a step ended: `_run_step` returns `True` for `ok` and records the rest. -/
inductive StepResult
  | ok | error | timeout
  deriving DecidableEq

def StepResult.failure (step : FailedStep) : StepResult → List TeardownStepFailure
  | .ok => []
  | .error => [⟨step, .error⟩]
  | .timeout => [⟨step, .timeout⟩]

/-- Where `_run` stands. A task that has been created but not entered yet is at `created`;
`awaitingFinalize true` is the wait in the handler of the cancellation. -/
inductive RunPoint
  | created
  | calling (hook : TeardownHook)
  | suspended (hook : TeardownHook)
  | awaitingAck
  | awaitingFinalize (cancelled : Bool)
  | returned
  | cancelled
  deriving DecidableEq

inductive FinalizationTask
  | absent | created | finished
  deriving DecidableEq

structure TeardownRun where
  request : TeardownRequest
  point : RunPoint := .created
  failures : List TeardownStepFailure := []
  browserAcknowledged : Bool := false
  finalization : FinalizationTask := .absent
  deriving DecidableEq

namespace TeardownRun

/-- What `_run` does when a hook has returned: it records a failure and goes on to the next
step. The acknowledgement is awaited only when the browser was asked to stop. -/
def hookReturned (run : TeardownRun) (hook : TeardownHook) (result : StepResult) : TeardownRun :=
  let run := { run with failures := run.failures ++ result.failure (.hook hook) }
  match hook with
  | .markStopping => { run with point := .calling .requestBrowserStop }
  | .requestBrowserStop =>
    if result = .ok then { run with point := .awaitingAck }
    else { run with point := .calling .closeBrowser }
  | .closeBrowser => { run with point := .calling .releaseProfileLock }
  | .releaseProfileLock => { run with point := .calling .persistTrace }
  | .persistTrace => { run with point := .awaitingFinalize false, finalization := .created }

/-- The acknowledgement arrived in time, or did not. -/
def ackAwaited (run : TeardownRun) (inTime : Bool) : TeardownRun :=
  if inTime then { run with browserAcknowledged := true, point := .calling .closeBrowser }
  else { run with
    failures := run.failures ++ StepResult.timeout.failure .browserAck
    point := .calling .closeBrowser }

/-- A cancellation of the task. Before the body is entered it ends the task at once; in the
body it reaches the handler, which creates the finalization task unless there is one, and
waits for it; there it ends the task. -/
def cancel (run : TeardownRun) : TeardownRun :=
  let failed :=
    { run with failures := run.failures ++ StepResult.error.failure .teardownCancelled }
  match run.point with
  | .created => { run with point := .cancelled }
  | .calling _ => { failed with point := .awaitingFinalize true, finalization := .created }
  | .suspended _ => { failed with point := .awaitingFinalize true, finalization := .created }
  | .awaitingAck => { failed with point := .awaitingFinalize true, finalization := .created }
  | .awaitingFinalize false => { failed with point := .awaitingFinalize true }
  | .awaitingFinalize true => { run with point := .cancelled }
  | .returned => run
  | .cancelled => run

/-- The finalization task ran its hook. -/
def finalized (run : TeardownRun) (result : StepResult) : TeardownRun :=
  { run with
    failures := run.failures ++ result.failure .finalize, finalization := .finished }

/-- The wait for the finalization task is over. -/
def finish (run : TeardownRun) : TeardownRun :=
  match run.point with
  | .awaitingFinalize true => { run with point := .cancelled }
  | .awaitingFinalize false => { run with point := .returned }
  | _ => run

def report (run : TeardownRun) : TeardownReport :=
  ⟨run.request, run.browserAcknowledged, run.failures⟩

/-- Nothing of the teardown is left to run. -/
def Finished (run : TeardownRun) : Prop :=
  (run.point = .returned ∨ run.point = .cancelled) ∧ run.finalization ≠ .created

instance (run : TeardownRun) : Decidable run.Finished := by unfold Finished; infer_instance

@[simp] lemma hookReturned_request (run : TeardownRun) (hook : TeardownHook)
    (result : StepResult) : (run.hookReturned hook result).request = run.request := by
  cases hook <;> simp only [hookReturned]
  split <;> rfl

@[simp] lemma ackAwaited_request (run : TeardownRun) (inTime : Bool) :
    (run.ackAwaited inTime).request = run.request := by
  cases inTime <;> rfl

@[simp] lemma cancel_request (run : TeardownRun) : run.cancel.request = run.request := by
  unfold cancel
  split <;> rfl

@[simp] lemma finalized_request (run : TeardownRun) (result : StepResult) :
    (run.finalized result).request = run.request := rfl

@[simp] lemma finish_request (run : TeardownRun) : run.finish.request = run.request := by
  unfold finish
  split <;> rfl

end TeardownRun

/-- The coordinator of one session: its acknowledgement event and its task. -/
structure TeardownCoordinator where
  browserAcknowledged : Bool := false
  task : Option TeardownRun := none
  deriving DecidableEq

namespace TeardownCoordinator

/-- `start`: the first caller's request is the one the task runs with. -/
def start (k : TeardownCoordinator) (request : TeardownRequest) : TeardownCoordinator :=
  match k.task with
  | none => { k with task := some { request } }
  | some _ => k

def acknowledgeBrowserTeardown (k : TeardownCoordinator) : TeardownCoordinator :=
  { k with browserAcknowledged := true }

def mapTask (k : TeardownCoordinator) (f : TeardownRun → TeardownRun) : TeardownCoordinator :=
  { k with task := k.task.map f }

lemma start_task (k : TeardownCoordinator) (request : TeardownRequest) :
    (k.start request).task = some (k.task.getD { request }) := by
  unfold start
  split
  · next h => simp [h]
  · next run h => simp [h]

end TeardownCoordinator

/-! ### The startup deadline -/

/-- `BrowserStartupDeadline`; it is armed while its task sleeps. -/
structure BrowserStartupDeadline where
  timeoutSeconds : ℚ
  armed : Bool := false
  deriving DecidableEq

namespace BrowserStartupDeadline

def start (d : BrowserStartupDeadline) : Except PyError BrowserStartupDeadline :=
  if d.armed then .error (.runtimeError "browser startup deadline already started")
  else .ok { d with armed := true }

/-- The sleep is over: from here on a cancellation finds no task. -/
def expire (d : BrowserStartupDeadline) : BrowserStartupDeadline := { d with armed := false }

end BrowserStartupDeadline

end HermesRealtime.Teardown

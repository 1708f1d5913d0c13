import HermesRealtime.Contracts
import Mathlib.Control.Monad.Basic
import Mathlib.Data.Rat.Defs
import Mathlib.Algebra.Order.Ring.Rat
import Mathlib.Tactic.NormNum

/-!
The handle of the browser and how it is closed. What the handle calls answers as it likes: the
environment says, after the calls that have been made, what the next one comes to. Only its time
obeys a law: the clock never goes back, a sleep takes as long as it was asked to, and reading the
clock is nothing that a time limit is set for.

Times are rational numbers where the code has floats. The sign of a difference of two floats is
exact, so that a deadline is compared here as it is there; the deadline itself and the times that
are slept or waited are rounded there, by less than the clock tells apart, and nothing is said here
but for all clocks and all timeouts.
-/

namespace HermesRealtime.BrowserHandle

open Op

/-- The exceptions that the calls raise; the last stands for those that are no `Exception`. -/
inductive Exn
  | timeoutExpired
  | processLookupError
  | runtimeError (text : String)
  | browserLaunchError (text : String)
  | exception (name : String)
  | baseException (name : String)
  deriving DecidableEq

def Exn.isException : Exn → Bool
  | .baseException _ => false
  | _ => true

/-- `type(exc).__name__`. -/
def Exn.typeName : Exn → String
  | .timeoutExpired => "TimeoutExpired"
  | .processLookupError => "ProcessLookupError"
  | .runtimeError _ => "RuntimeError"
  | .browserLaunchError _ => "BrowserLaunchError"
  | .exception name => name
  | .baseException name => name

inductive Signal
  | sigterm
  | sigkill
  deriving DecidableEq

/-- A call with its answer. -/
inductive Event
  | clock (answer : Except Exn ℚ)
  | poll (answer : Except Exn (Option ℤ))
  | wait (timeout : ℚ) (answer : Except Exn Unit)
  | terminate (answer : Except Exn Unit)
  | groupExists (group : ℤ) (answer : Except Exn Bool)
  | killGroup (group : ℤ) (signal : Signal) (answer : Except Exn Unit)
  | sleep (seconds : ℚ) (answer : Except Exn Unit)
  deriving DecidableEq

/-- The calls of one `close`, the last one first. -/
abbrev Log := List Event

/-- What the calls answer, and the time at which the next call is made. -/
structure Environment where
  now : Log → ℚ
  clockRaises : Log → Option Exn
  poll : Log → Except Exn (Option ℤ)
  wait : Log → ℚ → Except Exn Unit
  terminate : Log → Except Exn Unit
  groupExists : Log → ℤ → Except Exn Bool
  killGroup : Log → ℤ → Signal → Except Exn Unit
  sleep : Log → ℚ → Except Exn Unit
  clock_raises : ∀ log, clockRaises log ≠ some .timeoutExpired
  now_le : ∀ event log, now log ≤ now (event :: log)
  now_sleep : ∀ seconds log, now log + seconds ≤ now (.sleep seconds (.ok ()) :: log)

structure DedicatedBrowserHandle where
  processGroupId : ℤ
  closeTimeoutSeconds : ℚ

structure State where
  log : Log
  closed : Bool
  deriving DecidableEq

/-- How a computation ends that does not return: the last is for a loop that has not ended in the
rounds it was given. -/
inductive Halt
  | raised (e : Exn)
  | outOfFuel
  deriving DecidableEq

abbrev HandleM := Op State Halt

/-- A call: it is put in the log with its answer, and raises what the answer raises. -/
def ask {α : Type} (answer : Log → Except Exn α) (event : Except Exn α → Event) : HandleM α :=
  fun s => ({ s with log := event (answer s.log) :: s.log }, (answer s.log).mapError .raised)

/-- `except` of the exceptions that are caught. -/
def excepting {α : Type} (x : HandleM α) (caught : Exn → Bool) (handler : Exn → HandleM α) :
    HandleM α :=
  catching x fun
    | .raised e => if caught e then handler e else raise (.raised e)
    | .outOfFuel => raise .outOfFuel

section

variable (env : Environment) (h : DedicatedBrowserHandle)

def clock : HandleM ℚ :=
  ask (fun log => match env.clockRaises log with
    | some e => .error e
    | none => .ok (env.now log)) .clock

def poll : HandleM (Option ℤ) := ask env.poll .poll

def wait (timeout : ℚ) : HandleM Unit := ask (fun log => env.wait log timeout) (.wait timeout)

def terminate : HandleM Unit := ask env.terminate .terminate

def processGroupExists : HandleM Bool :=
  ask (fun log => env.groupExists log h.processGroupId) (.groupExists h.processGroupId)

def killProcessGroup (signal : Signal) : HandleM Unit :=
  ask (fun log => env.killGroup log h.processGroupId signal) (.killGroup h.processGroupId signal)

def sleep (seconds : ℚ) : HandleM Unit := ask (fun log => env.sleep log seconds) (.sleep seconds)

def markClosed : HandleM Unit := modify fun s => { s with closed := true }

/-- `_phase_timeout`. -/
def phaseTimeout (deadline : ℚ) : HandleM ℚ := do
  return min h.closeTimeoutSeconds (max (1 / 1000) (deadline - (← clock env)))

/-- The loop of `_ensure_owned_process_group_exited`. -/
def awaitGroupExited (deadline : ℚ) : ℕ → HandleM Unit
  | 0 => raise .outOfFuel
  | fuel + 1 => do
    if ← processGroupExists env h then
      let remaining := deadline - (← clock env)
      if remaining ≤ 0 then
        raise (.raised (.runtimeError "owned Brave process group did not exit"))
      else
        sleep env (min (1 / 100) remaining)
        awaitGroupExited deadline fuel
    else return ()

/-- `_ensure_owned_process_group_exited`. -/
def ensureOwnedProcessGroupExited (deadline : ℚ) (fuel : ℕ) : HandleM Unit := do
  if ← processGroupExists env h then
    killProcessGroup env h .sigkill
    awaitGroupExited env h deadline fuel
  else return ()

def ensureAndMark (deadline : ℚ) (fuel : ℕ) : HandleM Unit := do
  ensureOwnedProcessGroupExited env h deadline fuel
  markClosed

/-- Waiting for the page to make the browser exit: whether it has. -/
def gracefulPhase (deadline : ℚ) (fuel : ℕ) : HandleM Bool :=
  excepting (do
    wait env (← phaseTimeout env h deadline)
    ensureAndMark env h deadline fuel
    return true) (· == .timeoutExpired) fun _ => return false

def killPhase (deadline : ℚ) : HandleM Unit := do
  killProcessGroup env h .sigkill
  excepting (do wait env (← phaseTimeout env h deadline)) (· == .timeoutExpired) fun _ =>
    raise (.raised (.browserLaunchError "browser process group did not exit after KILL"))

def termPhase (deadline : ℚ) : HandleM Unit := do
  terminate env
  excepting (do wait env (← phaseTimeout env h deadline)) (· == .timeoutExpired) fun _ =>
    killPhase env h deadline

/-- The body of the `try` of `close`. -/
def closeProcess (deadline : ℚ) (fuel : ℕ) : HandleM Unit := do
  if (← poll env).isSome then ensureAndMark env h deadline fuel
  else if ← gracefulPhase env h deadline fuel then return ()
  else
    -- TERM goes to the main process alone
    termPhase env h deadline
    ensureAndMark env h deadline fuel

def close (fuel : ℕ) : HandleM Unit := do
  if (← get).closed then return ()
  else
    let deadline := (← clock env) + h.closeTimeoutSeconds * 3
    excepting (closeProcess env h deadline fuel) Exn.isException fun e =>
      raise (.raised (.browserLaunchError ("failed to close Brave process group: " ++ e.typeName)))

end

/-! ### Contracts of the parts -/

section

variable {α : Type} {P : State → Prop}

lemma ask_meets {answer : Log → Except Exn α} {event : Except Exn α → Event}
    {Q : α → State → Prop} {E : Halt → State → Prop}
    (hok : ∀ s a, P s → answer s.log = .ok a → Q a { s with log := event (.ok a) :: s.log })
    (herror : ∀ s e, P s → answer s.log = .error e →
      E (.raised e) { s with log := event (.error e) :: s.log }) :
    Meets P (ask answer event) Q E := by
  intro s hs
  unfold ask
  cases hanswer : answer s.log with
  | ok a => exact hok s a hs hanswer
  | error e => exact herror s e hs hanswer

lemma clock_meets {env : Environment} {Q : ℚ → State → Prop} {E : Halt → State → Prop}
    (hok : ∀ s, P s → Q (env.now s.log) { s with log := .clock (.ok (env.now s.log)) :: s.log })
    (herror : ∀ s e, P s → env.clockRaises s.log = some e → e ≠ .timeoutExpired →
      E (.raised e) { s with log := .clock (.error e) :: s.log }) :
    Meets P (clock env) Q E := by
  refine ask_meets (fun s t hs hanswer => ?_) fun s e hs hanswer => ?_
  · split at hanswer
    · cases hanswer
    · cases hanswer
      exact hok s hs
  · split at hanswer
    case h_1 e' hraises =>
      cases hanswer
      refine herror s e hs hraises ?_
      rintro rfl
      exact env.clock_raises s.log hraises
    case h_2 => cases hanswer

lemma excepting_meets {x : HandleM α} {caught : Exn → Bool} {handler : Exn → HandleM α}
    {Q : α → State → Prop} {E F : Halt → State → Prop} (hx : Meets P x Q E)
    (hcaught : ∀ e, caught e = true → Meets (E (.raised e)) (handler e) Q F)
    (hpass : ∀ e s, caught e = false → E (.raised e) s → F (.raised e) s)
    (hfuel : ∀ s, E .outOfFuel s → F .outOfFuel s) : Meets P (excepting x caught handler) Q F := by
  refine Meets.catching hx fun halt => ?_
  cases halt with
  | outOfFuel => exact Meets.raise hfuel
  | raised e =>
    refine Meets.ite (hcaught e) fun hnot => Meets.raise fun s => ?_
    exact hpass e s (Bool.eq_false_iff.mpr hnot)

end

/-! ### A process that exits at a time, and its group that disappears at a time -/

/-- `_process_group_exists`: what the signal 0 says about a group. -/
def existsByProbe : Except Exn Unit → Except Exn Bool
  | .ok () => .ok true
  | .error .processLookupError => .ok false
  | .error e => .error e

/-- Looking for the group takes a millisecond, a sleep and a wait that runs out what they are
given. -/
def timeAfter (exitTime : ℚ) : Log → ℚ
  | [] => 0
  | .sleep seconds _ :: log => timeAfter exitTime log + max seconds 0
  | .wait _ (.ok _) :: log => max (timeAfter exitTime log) exitTime
  | .wait timeout (.error _) :: log => timeAfter exitTime log + max timeout 0
  | .groupExists _ _ :: log => timeAfter exitTime log + 1 / 1000
  | _ :: log => timeAfter exitTime log

/-- A signal to the group finds it until it is gone. -/
def signalGroup (now goneTime : ℚ) : Except Exn Unit :=
  if now < goneTime then .ok () else .error .processLookupError

/-- The environment of such a process. -/
def leaving (exitTime goneTime : ℚ) : Environment where
  now := timeAfter exitTime
  clockRaises _ := none
  poll log := .ok (if timeAfter exitTime log < exitTime then none else some 0)
  wait log timeout :=
    if timeAfter exitTime log + max timeout 0 < exitTime then .error .timeoutExpired else .ok ()
  terminate _ := .ok ()
  groupExists log _ := existsByProbe (signalGroup (timeAfter exitTime log) goneTime)
  killGroup log _ _ := signalGroup (timeAfter exitTime log) goneTime
  sleep _ _ := .ok ()
  clock_raises _ := by simp
  now_le event log := by
    rcases event with _ | _ | ⟨_, _ | _⟩ | _ | _ | _ | _ <;> norm_num [timeAfter]
  now_sleep seconds log := by simp [timeAfter]

end HermesRealtime.BrowserHandle

import HermesRealtime.Listener
import HermesRealtime.Archiving
import HermesRealtime.Runs

/-!
The wake listener as a process: the worker that watches the capture and judges its windows, and the
main thread that sets everything up, waits for its loop to return and cleans up, while signals and
the state of the stream come in between.
-/

namespace HermesRealtime.Watching

open Listener
open Archiving (CaptureStatus)

variable {T F : Type}

/-! ### The worker -/

/-- The operations of `double` that the worker uses on times. -/
structure Times (T : Type) where
  zero : T
  sub : T → T → T
  atLeast : T → T → Bool
  equal : T → T → Bool
  ofMillis : ℕ → T
  healthTimeout : T

/-- What the options say about judging, and whether they name a handler. -/
structure Judging (F : Type) where
  threshold : F
  required : RequiredCount
  intervalMs : ℕ
  hasHandler : Bool

def modelSamples : ℕ := 48000

/-- The variables of `listener_worker`. -/
structure Worker (T : Type) where
  lastHealthTotal : ℕ
  consecutiveHits : ℕ
  lastInferenceAt : T
  lastCaptureSampleAt : T
  wroteUnhealthy : Bool

/-- What the worker finds when it goes round: the loads of `total_written` and of the clock, the
window if the ring has one, the score if the model gives one, and whether the activation is
delivered if there is one. -/
structure Round (T F : Type) where
  total : ℕ
  now : T
  window : Option (List F)
  score : Option F
  delivered : Bool

/-- What the worker does to the world, in its order. -/
inductive Effect (F : Type)
  | report (status : CaptureStatus)
  | archive (window : List F) (probability : F)
  | print (probability : F)
  | handOver (probability : F)

def Worker.init (ti : Times T) (now : T) : Worker T := ⟨0, 0, ti.zero, now, false⟩

variable (ti : Times T) (fl : Floats F) (o : Judging F)

/-- Nothing has come since `last`, for too long. -/
def silent (now last : T) : Bool := ti.atLeast (ti.sub now last) ti.healthTimeout

/-- The first half of a round. -/
def watchCapture (w : Worker T) (r : Round T F) : Worker T × List (Effect F) :=
  if r.total ≠ w.lastHealthTotal then
    ({ w with lastHealthTotal := r.total, wroteUnhealthy := false, lastCaptureSampleAt := r.now },
      [.report .healthy])
  else if ¬ w.wroteUnhealthy ∧ silent ti r.now w.lastCaptureSampleAt then
    ({ w with wroteUnhealthy := true }, [.report .unhealthy])
  else (w, [])

/-- It is time for a window to be judged. -/
def isDue (lastInferenceAt : T) (r : Round T F) : Bool :=
  decide (modelSamples ≤ r.total) && (ti.equal lastInferenceAt ti.zero ||
    ti.atLeast (ti.sub r.now lastInferenceAt) (ti.ofMillis o.intervalMs))

/-- `write_activation` without a handler, else `run_handler`. -/
def deliver (hasHandler : Bool) (probability : F) (delivered : Bool) : List (Effect F) :=
  (if hasHandler then .handOver probability else .print probability) ::
    if delivered then [] else [.report .handlerFailed]

/-- What is done with a window that fires: whatever becomes of the archive, it is delivered. -/
def activate (hasHandler : Bool) (window : List F) (probability : F) (delivered : Bool) :
    List (Effect F) :=
  .archive window probability :: deliver hasHandler probability delivered

/-- The window that is judged, with what the model says of it. -/
def judged (r : Round T F) : Option (List F × F) := do
  let window ← r.window
  let probability ← r.score
  return (window, probability)

/-- The second half of a round. -/
def judge (w : Worker T) (r : Round T F) : Worker T × List (Effect F) :=
  if isDue ti o w.lastInferenceAt r then
    let (hits, fired) :=
      afterInference fl o.threshold o.required w.consecutiveHits ((judged r).map Prod.snd)
    ({ w with consecutiveHits := hits, lastInferenceAt := r.now },
      match judged r with
      | some (window, probability) =>
        if fired then activate o.hasHandler window probability r.delivered else []
      | none => [])
  else (w, [])

/-- The body of the loop, without the sleep. -/
def goRound (w : Worker T) (r : Round T F) : Worker T × List (Effect F) :=
  let (watched, reports) := watchCapture ti w r
  let (judged, effects) := judge ti fl o watched r
  (judged, reports ++ effects)

def goRounds (w : Worker T) : List (Round T F) → Worker T × List (Effect F)
  | [] => (w, [])
  | r :: rounds =>
    let (next, effects) := goRound ti fl o w r
    let (last, more) := goRounds next rounds
    (last, effects ++ more)

/-! ### The process -/

/-- Where `main` is, once the options have been parsed. -/
inductive MainPoint
  | start
  | armed
  | flagged
  | looped
  | streamed
  | connected
  | looping
  | returned
  | joining
  | destroyStream (failing : Bool)
  | destroyLoop (failing : Bool)
  | cleanup (failing : Bool)
  | exited (failing : Bool)
  deriving DecidableEq

inductive WorkerPoint
  | absent
  | created
  | checking
  | busy
  | leaving
  | done
  deriving DecidableEq

/-- The main loop of PipeWire, which `data.loop` points to. -/
inductive MainLoop
  | null
  | alive
  | destroyed
  deriving DecidableEq

structure Process (T F : Type) where
  main : MainPoint
  thread : WorkerPoint
  running : Bool
  failed : Bool
  loop : MainLoop
  /-- The loop has been asked to return; a request that comes before the loop runs is taken to be
  kept, which is up to PipeWire. -/
  quit : Bool
  /-- The stream is there, and its callbacks may come. -/
  stream : Bool
  worker : Option (Worker T)
  /-- What the status file says. -/
  status : Option CaptureStatus
  /-- A loop that is no longer there has been asked to return. -/
  wild : Bool

/-- A process begins, with whatever an earlier one has left in the status file. -/
def Process.init (left : Option CaptureStatus) : Process T F :=
  ⟨.start, .absent, false, false, .null, false, false, none, left, false⟩

/-- The steps of the threads, with what the system answers, and what comes from outside. -/
inductive Event (T F : Type)
  | installHandlers (ok : Bool)
  | setFlag
  | makeLoop (ok : Bool)
  | makeStream (ok : Bool)
  | connect (ok : Bool)
  | createThread (ok : Bool)
  | loopReturns
  | clearFlag
  | join
  | destroyStream
  | destroyLoop
  | cleanup (unlinked : Bool)
  | startWorker (ok : Bool) (now : T)
  | checkFlag
  | round (r : Round T F)
  | leave
  | signal
  | streamFails

namespace Process

/-- `pw_main_loop_quit(data->loop)`, where the loop is not null. -/
def quitLoop (p : Process T F) : Process T F :=
  { p with quit := p.quit || p.loop = .alive, wild := p.wild || p.loop = .destroyed }

/-- The last report among some effects is what the status file says after them. -/
def write (p : Process T F) (effects : List (Effect F)) : Process T F :=
  { p with status := effects.foldl (fun status effect =>
      match effect with
      | .report reported => some reported
      | _ => status) p.status }

/-- `signal_request_stop`. As in `fail` and `begin`, the flag is cleared and the loop asked in one
step: no thread reads both. -/
def stop (p : Process T F) : Process T F := quitLoop { p with running := false }

/-- `on_state_changed`, for an error or an unconnected stream. -/
def fail (p : Process T F) : Process T F :=
  if p.running then quitLoop { p with running := false, failed := true } else p

/-- `listener_worker` before its loop. -/
def begin (p : Process T F) (ok : Bool) (now : T) : Process T F :=
  if ok then
    { p with
      thread := .checking
      worker := some (.init ti now)
      status := some .starting }
  else quitLoop { p with thread := .done, failed := true, running := false }

def step (p : Process T F) : Event T F → Option (Process T F)
  | .installHandlers ok =>
    if p.main = .start then
      some { p with main := if ok then .armed else .cleanup true }
    else none
  | .setFlag => if p.main = .armed then some { p with main := .flagged, running := true } else none
  | .makeLoop ok =>
    if p.main = .flagged then
      some (if ok then { p with main := .looped, loop := .alive }
        else { p with main := .cleanup true })
    else none
  -- the ring and the properties are made on the way to the stream
  | .makeStream ok =>
    if p.main = .looped then
      some (if ok then { p with main := .streamed, stream := true }
        else { p with main := .destroyLoop true })
    else none
  | .connect ok =>
    if p.main = .streamed then
      some { p with main := if ok then .connected else .destroyStream true }
    else none
  | .createThread ok =>
    if p.main = .connected then
      some (if ok then { p with main := .looping, thread := .created }
        else { p with main := .destroyStream true })
    else none
  | .loopReturns =>
    if p.main = .looping ∧ p.quit then some { p with main := .returned } else none
  | .clearFlag =>
    if p.main = .returned then some { p with main := .joining, running := false } else none
  | .join =>
    if p.main = .joining ∧ p.thread = .done then
      some { p with main := .destroyStream p.failed }
    else none
  | .destroyStream =>
    match p.main with
    | .destroyStream failing => some { p with main := .destroyLoop failing, stream := false }
    | _ => none
  | .destroyLoop =>
    match p.main with
    | .destroyLoop failing => some { p with main := .cleanup failing, loop := .destroyed }
    | _ => none
  -- the answer of `unlink` is not looked at
  | .cleanup unlinked =>
    match p.main with
    | .cleanup failing =>
      some { p with
        main := .exited failing
        status := if unlinked then none else p.status }
    | _ => none
  | .startWorker ok now => if p.thread = .created then some (begin ti p ok now) else none
  | .checkFlag =>
    if p.thread = .checking then
      some { p with thread := if p.running then .busy else .leaving }
    else none
  | .round r =>
    match p.thread, p.worker with
    | .busy, some w =>
      let (worker, effects) := goRound ti fl o w r
      some (write { p with thread := .checking, worker := some worker } effects)
    | _, _ => none
  | .leave =>
    if p.thread = .leaving then some { p with thread := .done, status := some .stopped } else none
  -- the handlers stay installed until the process has exited
  | .signal =>
    match p.main with
    | .start | .exited _ => none
    | _ => some (stop p)
  | .streamFails => if p.stream then some (fail p) else none

end Process

end HermesRealtime.Watching

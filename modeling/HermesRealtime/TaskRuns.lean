import HermesRealtime.TaskEvents
import HermesRealtime.Runs

/-!
The task-event coordinator at run time: one poll at a time for each tracked task, any number
of `resolve_permission` calls, boards that other programs write to, and sessions that open
and end.

A step of a poll or of a call is what the code does between two awaits, or less. A thread
that reads a board does so in a step of its own, and the coroutine that waits for it goes on
in another. Each task has a history of what its polls did, and the calls have one between
them.
-/

namespace HermesRealtime.TaskRuns

open Values Text Protocol TaskEvents

/-! ### One poll -/

/-- Where `poll_once` waits. The rest of the events read is what the loop still has to go
through. -/
inductive PollPoint
  | reading
  | looping (rest : List KanbanTaskEvent)
  | checking (event : KanbanTaskEvent) (rest : List KanbanTaskEvent)
  | checked (event : KanbanTaskEvent) (isCurrent : Bool) (rest : List KanbanTaskEvent)
  | notifying (event : KanbanTaskEvent) (kind : TaskEventKind) (detail : Option String)
      (rest : List KanbanTaskEvent)
  | locking (event : KanbanTaskEvent) (rest : List KanbanTaskEvent)
  | flushing
  | publishing (message : TaskEventMessage)

inductive TaskObservation
  | blockSeen (eventId : ℤ) (isCurrent : Bool)
  | notified (eventId : ℤ) (message : DesktopMessage)
  | handed (message : TaskEventMessage)
  | accepted (message : TaskEventMessage)
  | refused (message : TaskEventMessage)
  | raised
  | finished (cursor : ℤ) (clean : Bool)
  deriving DecidableEq

inductive PublishOutcome
  | accepts | refuses | raises
  deriving DecidableEq

/-- What can happen next to a poll; `fails` is a call out of the coordinator that raises. -/
inductive PollAction
  | read (fails : Bool)
  | next
  | check (fails : Bool)
  | resume
  | notify (fails : Bool)
  | lock
  | flush
  | publish (outcome : PublishOutcome)
  deriving DecidableEq

/-- What a poll sees of the world when it takes a step. -/
structure PollView where
  board : Board
  sessionIsActive : Bool
  lockFree : Bool

/-- What a step of a poll does: to the tracked task (`none` takes it out of the table), to
the poll (`none` ends it), to the pending block of the task, and to its history. -/
structure PollEffect where
  tracked : Option TrackedTask
  point : Option PollPoint
  block : Option ℤ := none
  log : List TaskObservation := []

/-- The poll goes on. -/
def goOn (tracked : TrackedTask) (point : PollPoint) (log : List TaskObservation) : PollEffect :=
  { tracked := some tracked, point := some point, log }

/-- An exception ends the poll. -/
def raised (tracked : TrackedTask) : PollEffect :=
  { tracked := some tracked, point := none, log := [.raised] }

/-- The end of `poll_once`. -/
def finish (tracked : TrackedTask) (clean : Bool) (log : List TaskObservation) : PollEffect :=
  { tracked := if tracked.terminalSeen ∧ tracked.pendingVoice = [] then none else some tracked
    point := none
    log := log ++ [.finished tracked.cursor clean] }

/-- The loop of `_flush_voice`, from its test on. -/
def flushFrom (tracked : TrackedTask) (log : List TaskObservation) : PollEffect :=
  match tracked.pendingVoice with
  | [] => finish tracked true log
  | m :: _ => goOn tracked (.publishing m) (log ++ [.handed m])

/-- `_handle_event` up to the notification. -/
def beginHandling (P : Platform) (tracked : TrackedTask) (event : KanbanTaskEvent)
    (kind : TaskEventKind) (rest : List KanbanTaskEvent) : PollEffect :=
  match eventDetail P kind event.payload with
  | .error _ => raised tracked
  | .ok detail =>
    goOn tracked (.notifying event kind detail rest)
      [.notified event.eventId (desktopMessage P kind event.title detail)]

/-- `_handle_event` after the notification, and the update of `terminal_seen`. -/
def endHandling (P : Platform) (tracked : TrackedTask) (event : KanbanTaskEvent)
    (kind : TaskEventKind) (detail : Option String) (rest : List KanbanTaskEvent) : PollEffect :=
  if isVoiceKind kind then
    match voiceMessage P tracked event kind detail with
    | .error _ => raised tracked
    | .ok m =>
      let tracked := { tracked with pendingVoice := tracked.pendingVoice ++ [m] }
      if requiresUserInput kind event then goOn tracked (.locking event rest) []
      else goOn
        { tracked with terminalSeen := tracked.terminalSeen || kind = .completed }
        (.looping rest) []
  else goOn tracked (.looping rest) []

/-- The loop of `poll_once` at its next event, and what comes after the loop. -/
def nextEvent (P : Platform) (tracked : TrackedTask) : List KanbanTaskEvent → PollEffect
  | [] => goOn tracked .flushing []
  | event :: rest =>
    let tracked := { tracked with cursor := event.eventId }
    match TaskEventKind.ofValue? event.kind with
    | none => goOn tracked (.looping rest) []
    | some kind =>
      if kind = .blocked then goOn tracked (.checking event rest) []
      else beginHandling P tracked event kind rest

/-- `_flush_voice` up to its first await. -/
def flush (tracked : TrackedTask) (sessionIsActive : Bool) : PollEffect :=
  if sessionIsActive then flushFrom tracked []
  else finish { tracked with pendingVoice := [] } true []

/-- `_flush_voice` when `publish` has answered. The session a message is published to is
active when it is accepted. -/
def published (tracked : TrackedTask) (m : TaskEventMessage) (sessionIsActive : Bool) :
    PublishOutcome → Option PollEffect
  | .accepts =>
    if sessionIsActive then
      some (flushFrom { tracked with pendingVoice := tracked.pendingVoice.tail } [.accepted m])
    else none
  | .refuses => some (finish tracked false [.refused m])
  | .raises => some (raised tracked)

/-- A step of `poll_once`. -/
def pollStep (P : Platform) (view : PollView) (tracked : TrackedTask) :
    PollPoint → PollAction → Option PollEffect
  | .reading, .read fails =>
    some (if fails then raised tracked
      else match view.board.readEvents P tracked.taskId tracked.cursor with
        | .error _ => raised tracked
        | .ok events => goOn tracked (.looping events) [])
  | .looping rest, .next => some (nextEvent P tracked rest)
  | .checking event rest, .check fails =>
    let isCurrent := view.board.isCurrentBlock tracked.taskId event.eventId
    some (if fails then raised tracked
      else goOn tracked (.checked event isCurrent rest) [.blockSeen event.eventId isCurrent])
  | .checked event isCurrent rest, .resume =>
    some (if isCurrent then beginHandling P tracked event .blocked rest
      else goOn tracked (.looping rest) [])
  | .notifying event kind detail rest, .notify fails =>
    some (if fails then raised tracked else endHandling P tracked event kind detail rest)
  | .locking event rest, .lock =>
    if view.lockFree then
      some { tracked := some tracked, point := some (.looping rest), block := some event.eventId }
    else none
  | .flushing, .flush => some (flush tracked view.sessionIsActive)
  | .publishing m, .publish outcome => published tracked m view.sessionIsActive outcome
  | _, _ => none

/-! ### One call of `resolve_permission` -/

structure PermissionArgs where
  sessionId : String
  taskId : String
  blockEventId : ℤ
  decision : String
  response : String
  deriving DecidableEq

/-- What `permission_client.resolve` is called with. -/
structure Resolution where
  boardSlug : String
  taskId : String
  blockEventId : ℤ
  decision : String
  response : String
  deriving DecidableEq

inductive CallPoint
  | waiting
  | checking (tracked : TrackedTask)
  | checked (tracked : TrackedTask) (stillBlocked : Bool)
  | resolving
  deriving DecidableEq

structure PermissionCall where
  args : PermissionArgs
  normalizedResponse : String
  point : CallPoint
  deriving DecidableEq

/-- The dictionary a successful call returns. -/
structure PermissionResult where
  taskId : String
  blockEventId : ℤ
  decision : String
  spokenSummary : String
  deriving DecidableEq

def permissionResult (args : PermissionArgs) : PermissionResult :=
  { taskId := args.taskId
    blockEventId := args.blockEventId
    decision := args.decision
    spokenSummary :=
      if args.decision = "approve_once" then
        "I recorded your one-time approval and resumed the task."
      else "I recorded your denial and resumed the task so it can find another path." }

inductive CallObservation
  | entered (call : ℕ) (tracked : TrackedTask)
  | blockSeen (call : ℕ) (dbPath taskId : String) (eventId : ℤ) (isCurrent : Bool)
  | invoked (call : ℕ) (sessionId : String) (resolution : Resolution)
  | succeeded (taskId : String) (eventId : ℤ)
  | left (call : ℕ)
  | returned (call : ℕ) (result : Except PyError PermissionResult)

inductive CallAction
  | acquire
  | check (fails : Bool)
  | resume
  | resolve (succeeds : Bool)
  deriving DecidableEq

/-- The arguments are looked at before the lock is asked for. -/
def checkArgs (P : Platform) (args : PermissionArgs) : Except PyError String :=
  if args.decision ≠ "approve_once" ∧ args.decision ≠ "deny" then
    .error (.valueError "decision must be approve_once or deny")
  else if boundedText P args.response 500 = "" then
    .error (.valueError "response must not be blank")
  else .ok (boundedText P args.response 500)

/-- The checks at the head of the critical section. -/
def checkOwner (c : TaskEventCoordinator) (sessionIsActive : String → Bool)
    (args : PermissionArgs) : Except PyError TrackedTask :=
  match c.tracked args.taskId with
  | none => .error (.valueError "task is not owned by this voice session")
  | some tracked =>
    if tracked.sessionId ≠ args.sessionId then
      .error (.valueError "task is not owned by this voice session")
    else if ¬ sessionIsActive args.sessionId then
      .error (.valueError "originating voice session is no longer live")
    else match c.pendingBlocks (args.sessionId, args.taskId) with
      | none => .error (.valueError "permission request is no longer pending")
      | some pending =>
        if pending ≠ args.blockEventId then .error (.valueError "block event is stale")
        else .ok tracked

/-- What a step of a call does: to the coordinator, to the call (`none` ends it) and to the
history. -/
structure CallEffect where
  coordinator : TaskEventCoordinator
  call : Option PermissionCall
  log : List CallObservation := []

/-- The call leaves the critical section with an exception. -/
def callRaised (c : TaskEventCoordinator) (n : ℕ) (e : PyError) : CallEffect :=
  { coordinator := { c with lock := none }, call := none, log := [.left n, .returned n (.error e)] }

def pendingKey (args : PermissionArgs) : String × String := (args.sessionId, args.taskId)

/-- A step of `resolve_permission` as the `n`-th call. -/
def callStep (c : TaskEventCoordinator) (boards : String → Board)
    (sessionIsActive : String → Bool) (n : ℕ) (call : PermissionCall) :
    CallPoint → CallAction → Option CallEffect
  | .waiting, .acquire =>
    if c.lock.isSome then none
    else match checkOwner c sessionIsActive call.args with
      | .error e => some { coordinator := c, call := none, log := [.returned n (.error e)] }
      | .ok tracked =>
        some
          { coordinator := { c with lock := some n }
            call := some { call with point := .checking tracked }
            log := [.entered n tracked] }
  | .checking tracked, .check fails =>
    let isCurrent := (boards tracked.dbPath).isCurrentBlock call.args.taskId call.args.blockEventId
    some (if fails then callRaised c n (.otherError "is_current_block")
      else
        { coordinator := c
          call := some { call with point := .checked tracked isCurrent }
          log := [.blockSeen n tracked.dbPath call.args.taskId call.args.blockEventId isCurrent] })
  | .checked tracked stillBlocked, .resume =>
    if ¬ stillBlocked then
      some (callRaised (c.dropPending (pendingKey call.args) call.args.blockEventId) n
        (.valueError "permission request is no longer pending"))
    else if ¬ sessionIsActive call.args.sessionId then
      some (callRaised c n (.valueError "originating voice session is no longer live"))
    else
      some
        { coordinator := c
          call := some { call with point := .resolving }
          log := [.invoked n call.args.sessionId
            { boardSlug := tracked.boardSlug
              taskId := call.args.taskId
              blockEventId := call.args.blockEventId
              decision := call.args.decision
              response := call.normalizedResponse }] }
  | .resolving, .resolve succeeds =>
    some (if succeeds then
        { coordinator :=
            { c.dropPending (pendingKey call.args) call.args.blockEventId with lock := none }
          call := none
          log := [.succeeded call.args.taskId call.args.blockEventId, .left n,
            .returned n (.ok (permissionResult call.args))] }
      else callRaised c n (.runtimeError "unblock failed"))
  | _, _ => none

/-! ### The world -/

/-- What the controller says of a session. An ended session never comes back, since a new one
has a fresh id. -/
inductive SessionStatus
  | unopened | live | ended
  deriving DecidableEq

/-- What a task id was registered with. -/
structure Registration where
  sessionId : String
  dbPath : String
  deriving DecidableEq

/-- `registered` remembers the registration of each task id. -/
structure TaskWorld where
  coordinator : TaskEventCoordinator := {}
  sessions : String → SessionStatus := fun _ => .unopened
  boards : String → Board
  polls : String → Option PollPoint := fun _ => none
  calls : ℕ → Option PermissionCall := fun _ => none
  registered : String → Option Registration := fun _ => none
  history : String → List TaskObservation := fun _ => []
  callHistory : List CallObservation := []

inductive Action
  | openSession (sessionId : String)
  | endSession (sessionId : String)
  | write (dbPath : String) (board : Board)
  | register (sessionId taskId title boardSlug dbPath : String)
  | pollStart (taskId : String)
  | poll (taskId : String) (action : PollAction)
  | callStart (n : ℕ) (args : PermissionArgs)
  | call (n : ℕ) (action : CallAction)

namespace TaskWorld

def sessionIsActive (w : TaskWorld) (sessionId : String) : Bool := w.sessions sessionId = .live

def view (w : TaskWorld) (tracked : TrackedTask) : PollView :=
  { board := w.boards tracked.dbPath
    sessionIsActive := w.sessionIsActive tracked.sessionId
    lockFree := w.coordinator.lock.isNone }

/-- The world after a step of a task's poll. -/
def afterPoll (w : TaskWorld) (t : String) (tracked : TrackedTask) (e : PollEffect) : TaskWorld :=
  let key := (tracked.sessionId, tracked.taskId)
  { w with
    coordinator := { w.coordinator with
      tracked := Function.update w.coordinator.tracked t e.tracked
      pendingBlocks := match e.block with
        | some id => Function.update w.coordinator.pendingBlocks key (some id)
        | none => w.coordinator.pendingBlocks }
    polls := Function.update w.polls t e.point
    history := Function.update w.history t (w.history t ++ e.log) }

/-- The world after a step of a call. -/
def afterCall (w : TaskWorld) (n : ℕ) (e : CallEffect) : TaskWorld :=
  { w with
    coordinator := e.coordinator
    calls := Function.update w.calls n e.call
    callHistory := w.callHistory ++ e.log }

/-- One step of the world. A task is registered under a session that is active, and under an
id that has not been registered before; a second registration while it is tracked changes
nothing. A poll starts when none of the same task is under way. -/
def step (P : Platform) (w : TaskWorld) : Action → Option TaskWorld
  | .openSession s =>
    if w.sessions s = .unopened then
      some { w with sessions := Function.update w.sessions s .live }
    else none
  | .endSession s =>
    if w.sessions s = .live then some { w with sessions := Function.update w.sessions s .ended }
    else none
  | .write path board => some { w with boards := Function.update w.boards path board }
  | .register s t title slug path =>
    if ¬ w.sessionIsActive s ∨ slug = "" ∨ path = "" then some w
    else if (w.coordinator.tracked t).isSome then some w
    else if (w.registered t).isSome then none
    else some { w with
      coordinator := (w.coordinator.registerTask (newTask P s t title slug path)).1
      registered := Function.update w.registered t (some ⟨s, path⟩) }
  | .pollStart t =>
    if (w.coordinator.tracked t).isSome ∧ (w.polls t).isNone then
      some { w with polls := Function.update w.polls t (some .reading) }
    else none
  | .poll t action =>
    match w.coordinator.tracked t, w.polls t with
    | some tracked, some point =>
      (pollStep P (w.view tracked) tracked point action).map (w.afterPoll t tracked)
    | _, _ => none
  | .callStart n args =>
    if (w.calls n).isSome then none
    else match checkArgs P args with
      | .error e => some { w with callHistory := w.callHistory ++ [.returned n (.error e)] }
      | .ok normalizedResponse =>
        some { w with
          calls := Function.update w.calls n
            (some { args, normalizedResponse, point := .waiting }) }
  | .call n action =>
    match w.calls n with
    | some call =>
      (callStep w.coordinator w.boards w.sessionIsActive n call call.point action).map
        (w.afterCall n)
    | none => none

end TaskWorld

/-! ### A task that blocks and is completed -/

def blockedBoard : Board where
  tasks := fun t => if t = "task" then some ⟨"Deploy", "blocked", none⟩ else none
  events := [⟨1, "task", "blocked", none⟩]
  ordered := by decide
  positive := by decide

def completedBoard : Board where
  tasks := fun t => if t = "task" then some ⟨"Deploy", "done", none⟩ else none
  events := [⟨1, "task", "blocked", none⟩, ⟨2, "task", "completed", none⟩]
  ordered := by decide
  positive := by decide

/-- A poll that announces a block and makes it pending. -/
def pollBlocked : List Action :=
  [.pollStart "task", .poll "task" (.read false), .poll "task" .next,
   .poll "task" (.check false), .poll "task" .resume, .poll "task" (.notify false),
   .poll "task" .lock, .poll "task" .next, .poll "task" .flush,
   .poll "task" (.publish .accepts)]

/-- A poll that announces a completion. -/
def pollCompleted : List Action :=
  [.pollStart "task", .poll "task" (.read false), .poll "task" .next,
   .poll "task" (.notify false), .poll "task" .next, .poll "task" .flush,
   .poll "task" (.publish .accepts)]

end HermesRealtime.TaskRuns

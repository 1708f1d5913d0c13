import HermesRealtime.Protocol

/-!
The data of `task_events.py`: the board it reads, the tasks it tracks, and what it makes of
one event.
-/

namespace HermesRealtime.TaskEvents

open Values Text Checks Protocol

/-! ### The board -/

structure BoardTask where
  title : String
  status : String
  blockKind : Option String
  deriving DecidableEq

/-- A row of `task_events`; a payload that is not text counts as none. -/
structure BoardEvent where
  id : ℤ
  taskId : String
  kind : String
  payload : Option String
  deriving DecidableEq

/-- A board: its tasks by id and its events in the order of their ids, which the database
gives out counting from one. -/
structure Board where
  tasks : String → Option BoardTask
  events : List BoardEvent
  ordered : events.Pairwise fun a b => a.id < b.id
  positive : ∀ event ∈ events, 0 < event.id

structure KanbanTaskEvent where
  eventId : ℤ
  taskId : String
  kind : String
  title : String
  status : String
  blockKind : Option String
  payload : JsonDict

/-- `except (TypeError, ValueError)`. -/
def caughtInPayload (error : PyError) : Bool := error.isValueError || error.isTypeError

/-- `_parse_payload`; a text nested too deep for `json.loads` raises a `RecursionError`, which
is not caught. -/
def parsePayload (P : Platform) : Option String → Except PyError JsonDict
  | none => .ok []
  | some raw =>
    if raw = "" then .ok []
    else match P.jsonLoads raw with
      | .ok (.obj fields) => .ok fields
      | .ok _ => .ok []
      | .error error => if caughtInPayload error then .ok [] else .error error

/-- An event joined with the row of its task. -/
def BoardEvent.joined (P : Platform) (task : BoardTask) (event : BoardEvent) :
    Except PyError KanbanTaskEvent := do
  let payload ← parsePayload P event.payload
  return {
    eventId := event.id
    taskId := event.taskId
    kind := event.kind
    title := task.title
    status := task.status
    blockKind := task.blockKind.filter (· ≠ "")
    payload }

/-- The events of a task after a cursor. -/
def Board.after (board : Board) (taskId : String) (cursor : ℤ) : List BoardEvent :=
  board.events.filter fun event => event.taskId = taskId ∧ cursor < event.id

/-- `read_events`. -/
def Board.readEvents (P : Platform) (board : Board) (taskId : String) (afterEventId : ℤ) :
    Except PyError (List KanbanTaskEvent) :=
  match board.tasks taskId with
  | none => .ok []
  | some task => (board.after taskId afterEventId).mapM (BoardEvent.joined P task)

/-- `is_current_block`. -/
def Board.isCurrentBlock (board : Board) (taskId : String) (blockEventId : ℤ) : Bool :=
  let latest := (board.events.filter fun event =>
    event.taskId = taskId ∧ (event.kind = "blocked" ∨ event.kind = "unblocked")).getLast?
  match board.tasks taskId, latest with
  | some task, some event =>
    task.status = "blocked" && event.id = blockEventId && event.kind = "blocked"
  | _, _ => false

/-! ### What is made of an event -/

def detailKeys : TaskEventKind → List String
  | .completed => ["summary", "result"]
  | .blocked => ["reason"]
  | .gaveUp => ["error", "reason"]
  | .crashed => ["error"]
  | .timedOut => ["error"]
  | .blockLoopDetected => ["reason"]

section

variable (P : Platform)

/-- The first text among the keys that is not blank; the empty text has no first line. -/
def detailFrom (payload : JsonDict) : List String → Except PyError (Option String)
  | [] => .ok none
  | key :: keys =>
    match dictGet payload key with
    | some (.str value) => do
      let line ← firstLine value
      if boundedText P line 400 ≠ "" then return some (boundedText P line 400)
      else detailFrom payload keys
    | _ => detailFrom payload keys

/-- `{payload['limit_seconds']}` where it is an integer, a boolean being one. -/
def limitSeconds (payload : JsonDict) : Option String :=
  match dictGet payload "limit_seconds" with
  | some (.int z) => some (toString z)
  | some (.bool b) => some (if b then "True" else "False")
  | _ => none

/-- `_event_detail`. -/
def eventDetail (kind : TaskEventKind) (payload : JsonDict) : Except PyError (Option String) := do
  match ← detailFrom P payload (detailKeys kind) with
  | some detail => return some detail
  | none =>
    if kind = .timedOut then
      return (limitSeconds payload).map fun s => "Worker exceeded " ++ s ++
        " seconds and will retry."
    else return none

def heading : TaskEventKind → String × String
  | .completed => ("Okay Hermes · Task completed", "normal")
  | .blocked => ("Okay Hermes · Permission needed", "critical")
  | .gaveUp => ("Okay Hermes · Task needs attention", "critical")
  | .crashed => ("Okay Hermes · Worker will retry", "normal")
  | .timedOut => ("Okay Hermes · Worker will retry", "normal")
  | .blockLoopDetected => ("Okay Hermes · Task needs attention", "critical")

/-- `value or default` of two texts. -/
def orText (value default : String) : String := if value = "" then default else value

structure DesktopMessage where
  title : String
  body : String
  urgency : String
  deriving DecidableEq

/-- `_desktop_message`. -/
def desktopMessage (kind : TaskEventKind) (taskTitle : String) (detail : Option String) :
    DesktopMessage :=
  let body := orText (boundedText P taskTitle 160) "Background task"
  { title := (heading kind).1
    body := match detail with
      | some text => if text = "" then body else body ++ "\n" ++ text
      | none => body
    urgency := (heading kind).2 }

/-- `_TrackedTask`. -/
structure TrackedTask where
  sessionId : String
  taskId : String
  title : String
  boardSlug : String
  dbPath : String
  cursor : ℤ := 0
  terminalSeen : Bool := false
  pendingVoice : List TaskEventMessage := []
  deriving DecidableEq

/-- The `_TrackedTask` that `register_task` constructs. -/
def newTask (sessionId taskId title boardSlug dbPath : String) : TrackedTask :=
  { sessionId, taskId, title := orText (boundedText P title 160) taskId, boardSlug, dbPath }

/-- The kinds that are spoken as well as shown. -/
def isVoiceKind (kind : TaskEventKind) : Bool :=
  kind = .completed || kind = .blocked || kind = .gaveUp

def eventBlockKind (event : KanbanTaskEvent) : Option BlockKind :=
  event.blockKind.bind BlockKind.ofValue?

/-- `requires_user_input`. -/
def requiresUserInput (kind : TaskEventKind) (event : KanbanTaskEvent) : Bool :=
  kind = .blocked && eventBlockKind event ≠ some .dependency

/-- The text holds no lone surrogate, so that UTF-8 can encode it. -/
def isUnicode (text : String) : Bool := text.toList.all fun c => !P.isSurrogate c

/-- `os.fsencode` can encode the text. -/
def isFsEncodable (text : String) : Bool :=
  text.toList.all fun c => !P.isSurrogate c || P.isEscape c

/-- The construction of a message out of texts that may hold lone surrogates: a text that UTF-8
cannot encode is no valid string. The ids are checked character by character. -/
def construct (m : TaskEventMessage) : Except PyError TaskEventMessage :=
  if isUnicode P m.title && m.detail.all (isUnicode P) then m.build
  else .error (.validationError "Input should be a valid string")

/-- What `_handle_event` constructs the message for the voice page of. -/
def voiceFields (tracked : TrackedTask) (event : KanbanTaskEvent) (kind : TaskEventKind)
    (detail : Option String) : TaskEventMessage where
  sessionId := tracked.sessionId
  eventId := event.eventId
  taskId := event.taskId
  kind := kind
  title := orText (boundedText P event.title 160) tracked.title
  detail := detail
  requiresUserInput := requiresUserInput kind event
  blockKind := if kind = .blocked then eventBlockKind event else none

def voiceMessage (tracked : TrackedTask) (event : KanbanTaskEvent) (kind : TaskEventKind)
    (detail : Option String) : Except PyError TaskEventMessage :=
  construct P (voiceFields P tracked event kind detail)

/-- `NotifySendDesktopNotifier`: whether it is enabled, and whether it has a binary. -/
structure Notifier where
  enabled : Bool
  installed : Bool

/-- What the message itself makes `notify` raise: `subprocess.run` cannot pass on an argument
that `os.fsencode` does not encode, and a `UnicodeEncodeError` is not caught. `html.escape`
replaces ASCII characters only. -/
def Notifier.notify (notifier : Notifier) (message : DesktopMessage) : Except PyError Unit :=
  if ¬ notifier.enabled ∨ ¬ notifier.installed then .ok ()
  else if isFsEncodable P message.title && isFsEncodable P message.body then .ok ()
  else .error (.valueError "surrogates not allowed")

end

/-! ### The tables -/

/-- The tables of the coordinator and its lock. The lock is held between two steps only by a
`resolve_permission` call, since `_handle_event` does not wait while it has it. -/
structure TaskEventCoordinator where
  tracked : String → Option TrackedTask := fun _ => none
  pendingBlocks : String × String → Option ℤ := fun _ => none
  lock : Option ℕ := none

namespace TaskEventCoordinator

/-- `register_task`. -/
def registerTask (c : TaskEventCoordinator) (task : TrackedTask) : TaskEventCoordinator × Bool :=
  match c.tracked task.taskId with
  | some _ => (c, false)
  | none =>
    ({ c with tracked := Function.update c.tracked task.taskId (some task) }, true)

/-- `if self._pending_blocks.get(key) == event: self._pending_blocks.pop(key, None)`. -/
def dropPending (c : TaskEventCoordinator) (key : String × String) (event : ℤ) :
    TaskEventCoordinator :=
  if c.pendingBlocks key = some event then
    { c with pendingBlocks := Function.update c.pendingBlocks key none }
  else c

@[simp] lemma dropPending_tracked (c : TaskEventCoordinator) (key : String × String) (event : ℤ) :
    (c.dropPending key event).tracked = c.tracked := by
  unfold dropPending
  split <;> rfl

@[simp] lemma dropPending_lock (c : TaskEventCoordinator) (key : String × String) (event : ℤ) :
    (c.dropPending key event).lock = c.lock := by
  unfold dropPending
  split <;> rfl

lemma dropPending_self (c : TaskEventCoordinator) (key : String × String) (event : ℤ) :
    (c.dropPending key event).pendingBlocks key ≠ some event := by
  unfold dropPending
  split
  · simp
  · assumption

lemma dropPending_some {c : TaskEventCoordinator} {key key' : String × String} {event e : ℤ}
    (h : (c.dropPending key event).pendingBlocks key' = some e) :
        c.pendingBlocks key' = some e := by
  unfold dropPending at h
  split at h
  · by_cases hk : key' = key
    · simp [hk] at h
    · simpa [Function.update_of_ne hk] using h
  · exact h

end TaskEventCoordinator

/-! ### Reading in order -/

lemma mem_after {board : Board} {taskId : String} {cursor : ℤ} {event : BoardEvent} :
    event ∈ board.after taskId cursor ↔
      event ∈ board.events ∧ event.taskId = taskId ∧ cursor < event.id := by
  simp [Board.after]

/-- An event has the id, the task and the kind of its row. -/
lemma joined_row {P : Platform} {task : BoardTask} {row : BoardEvent} {event : KanbanTaskEvent}
    (h : row.joined P task = .ok event) :
    event.eventId = row.id ∧ event.taskId = row.taskId ∧ event.kind = row.kind := by
  obtain ⟨payload, -, heq⟩ := bind_eq_ok.mp h
  cases heq
  exact ⟨rfl, rfl, rfl⟩

/-- What is read are the rows after the cursor, or none where the task has no row. -/
lemma readEvents_rows {P : Platform} {board : Board} {taskId : String} {cursor : ℤ}
    {events : List KanbanTaskEvent} (h : board.readEvents P taskId cursor = .ok events) :
    events = [] ∨ ∃ task, (board.after taskId cursor).mapM (BoardEvent.joined P task) =
      .ok events := by
  unfold Board.readEvents at h
  split at h
  · cases h
    exact .inl rfl
  · exact .inr ⟨_, h⟩

/-- What is read comes after the cursor, belongs to the task and is in the order of the ids. -/
lemma readEvents_spec {P : Platform} {board : Board} {taskId : String} {cursor : ℤ}
    {events : List KanbanTaskEvent} (h : board.readEvents P taskId cursor = .ok events) :
    (∀ event ∈ events, cursor < event.eventId ∧ event.taskId = taskId) ∧
      events.Pairwise fun a b => a.eventId < b.eventId := by
  obtain rfl | ⟨task, hrows⟩ := readEvents_rows h
  · simp
  · have hkeys := mapM_keeps (g := fun row => (row.id, row.taskId))
      (k := fun event => (event.eventId, event.taskId))
      (fun row event hrow => by simp [(joined_row hrow).1, (joined_row hrow).2.1]) hrows
    refine ⟨fun event hevent => ?_, ?_⟩
    · have hkey := List.mem_map_of_mem (f := fun e => (e.eventId, e.taskId)) hevent
      rw [hkeys] at hkey
      obtain ⟨row, hrow, heq⟩ := List.mem_map.mp hkey
      obtain ⟨-, htask, hlt⟩ := mem_after.mp hrow
      obtain ⟨hid, hsame⟩ := Prod.mk.inj heq
      exact ⟨hid ▸ hlt, hsame ▸ htask⟩
    · have hids : events.map KanbanTaskEvent.eventId =
          (board.after taskId cursor).map BoardEvent.id :=
        mapM_keeps (fun row event hrow => (joined_row hrow).1) hrows
      have hsorted : (events.map KanbanTaskEvent.eventId).Pairwise (· < ·) := by
        rw [hids, List.pairwise_map]
        exact board.ordered.filter _
      exact List.pairwise_map.mp hsorted

lemma construct_eq_ok {P : Platform} {m built : TaskEventMessage} :
    construct P m = .ok built ↔
      (isUnicode P m.title = true ∧ ∀ text ∈ m.detail, isUnicode P text = true) ∧
        m.build = .ok built := by
  simp only [Option.mem_def, ← Option.all_eq_true, ← Bool.and_eq_true, construct]
  split_ifs with h <;> simp [h]

section

variable (P : Platform) (tracked : TrackedTask) (event : KanbanTaskEvent) (kind : TaskEventKind)
  (detail : Option String)

@[simp] lemma voiceFields_title : (voiceFields P tracked event kind detail).title =
    orText (boundedText P event.title 160) tracked.title := by
  simp only [voiceFields]

@[simp] lemma voiceFields_detail : (voiceFields P tracked event kind detail).detail = detail :=
  rfl

end

/-- The message for the voice page is built of texts without lone surrogates. -/
lemma voiceMessage_eq_ok {P : Platform} {tracked : TrackedTask} {event : KanbanTaskEvent}
    {kind : TaskEventKind} {detail : Option String} {m : TaskEventMessage} :
    voiceMessage P tracked event kind detail = .ok m ↔
      (isUnicode P (orText (boundedText P event.title 160) tracked.title) = true ∧
        ∀ text ∈ detail, isUnicode P text = true) ∧
        (voiceFields P tracked event kind detail).build = .ok m := by
  rw [voiceMessage, construct_eq_ok, voiceFields_title, voiceFields_detail]

lemma voiceMessage_fields {P : Platform} {tracked : TrackedTask} {event : KanbanTaskEvent}
    {kind : TaskEventKind} {detail : Option String} {m : TaskEventMessage}
    (h : voiceMessage P tracked event kind detail = .ok m) :
    m.sessionId = tracked.sessionId ∧ m.eventId = event.eventId ∧ m.taskId = event.taskId ∧
      m.kind = kind ∧ m.requiresUserInput = requiresUserInput kind event :=
  build_fields (voiceMessage_eq_ok.mp h).2

lemma ofValue?_value {s : String} {kind : TaskEventKind}
    (h : TaskEventKind.ofValue? s = some kind) :
    kind.value = s := by
  unfold TaskEventKind.ofValue? at h
  simpa using List.find?_some h

end HermesRealtime.TaskEvents

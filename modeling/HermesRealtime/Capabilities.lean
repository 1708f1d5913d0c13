import HermesRealtime.Arguments
import HermesRealtime.Controller

/-!
The capabilities that delegate work to Hermes. `handoff_to_heavy_agent` looks up the current board,
has a task created on it and a worker dispatched; `check_heavy_agent_task` has a task shown. For
each of these a command is run as a process of its own.

The processes, the environment and the file system are a `Machine`: what a command comes to is a
function of the command, and the commands of one call are all different.
-/

namespace HermesRealtime.Capabilities

open Values Text Gateway Arguments Controller

/-! ### Routing wrappers -/

/-- A part of the patterns of `routing.py`. -/
inductive Pattern
  | letters (s : String)
  /-- white space, at least so many characters of it -/
  | blanks (atLeast : ℕ)
  | boundary
  | seq (first second : Pattern)
  | either (first second : Pattern)

namespace Pattern

def maybe (p : Pattern) : Pattern := .either p (.letters "")

def oneOf (p : Pattern) (ps : List Pattern) : Pattern := ps.foldl .either p

def words (p : Pattern) (ps : List Pattern) : Pattern :=
  ps.foldl (fun q r => .seq q (.seq (.blanks 1) r)) p

/-- A word that may be missing, with the white space after it. -/
def maybeWord (p : Pattern) : Pattern := maybe (.seq p (.blanks 1))

variable (P : Platform)

/-- The places a match may end at; a place is the character before it and the text after it. -/
def rests : Pattern → Option Char × List Char → List (Option Char × List Char)
  | .letters s, (before, text) =>
    match dropLetters s.toList text with
    | some rest => [((text.take s.length).getLast? <|> before, rest)]
    | none => []
  | .blanks atLeast, (before, text) =>
    ((List.range ((text.takeWhile isSpace).length + 1)).filter (atLeast ≤ ·)).map fun n =>
      ((text.take n).getLast? <|> before, text.drop n)
  | .boundary, (before, text) => if Text.boundary P before text.head? then [(before, text)] else []
  | .seq first second, place => (rests first place).flatMap (rests second)
  | .either first second, place => rests first place ++ rests second place

/-- A match begins at the place. -/
def matchesAt (p : Pattern) (place : Option Char × List Char) : Bool := !(rests P p place).isEmpty

end Pattern

section Routing

open Pattern

/-- `_POLITE_PREFIX`. -/
def politePrefix : Pattern :=
  maybeWord (oneOf (.letters "please") [words (.letters "could") [.letters "you"],
    words (.letters "can") [.letters "you"], words (.letters "would") [.letters "you"]])

def errand : Pattern := oneOf (.letters "request") [.letters "task", .letters "job"]

def hermesAgent : Pattern :=
  .seq (.letters "hermes") (.seq (maybe (.seq (.blanks 1) (.letters "agent"))) .boundary)

def theKanban : Pattern :=
  .seq (maybeWord (.letters "the")) (.seq (.letters "kanban") .boundary)

/-- `(?:add|create)\s+(?:a\s+)?(?:new\s+)?`. -/
def addNew : Pattern :=
  .seq (oneOf (.letters "add") [.letters "create"])
    (.seq (.blanks 1) (.seq (maybeWord (.letters "a")) (maybeWord (.letters "new"))))

/-- `_ROUTING_DIRECTIVE`. -/
def routingDirective : Pattern :=
  oneOf
    (words (oneOf (.letters "have") [.letters "ask", .letters "tell", .letters "let"])
      [hermesAgent])
    [words (oneOf (.letters "send") [.letters "hand", .letters "give"])
      [oneOf (.letters "this") [.letters "that", .letters "it", words (.letters "the") [errand]],
        .letters "to", hermesAgent],
     .seq addNew (words (.letters "kanban") [.seq (.letters "task") .boundary]),
     .seq addNew (words (.letters "task")
      [oneOf (.letters "to") [.letters "on", .letters "in"], theKanban]),
     .seq (words (.letters "put")
        [.seq (maybeWord (oneOf (.letters "this") [.letters "that", .letters "the"]))
          (maybe errand)])
      (.seq (.blanks 0)
        (words (oneOf (.letters "on") [.letters "onto", .letters "in", .letters "into"])
          [theKanban]))]

/-- `find_routing_wrappers` finds one: at the start, or after an "and" or a "then". -/
def findsRoutingWrapper (P : Platform) (text : String) : Bool :=
  let cs := text.toList
  let wrapper := Pattern.seq politePrefix routingDirective
  matchesAt P (.seq (.blanks 0) wrapper) (none, cs) ||
    (List.range (cs.length + 1)).any fun i =>
      matchesAt P (.seq .boundary (words (oneOf (.letters "and") [.letters "then"]) [wrapper]))
        ((cs.take i).getLast?, cs.drop i)

end Routing

/-! ### The arguments -/

/-- A model with one field; the errors are put together as `_format_validation_error` does. -/
def validated {α : Type} (field : Except String α) (extras : List String) : Except PyError α :=
  match field, extras with
  | .ok value, [] => .ok value
  | .ok _, extras => .error (.executionContractError ("; ".intercalate extras))
  | .error message, extras =>
    .error (.executionContractError ("; ".intercalate (message :: extras)))

/-- The field of `HermesAgentArguments`. -/
def taskField (P : Platform) : Option Json → Except String String
  | none => .error "task: Field required"
  | some (.str task) =>
    if task.length < 1 then .error "task: String should have at least 1 character"
    else if task.length > 4000 then .error "task: String should have at most 4000 characters"
    else if findsRoutingWrapper P task then
      .error ("task: Value error, state the direct task itself without Hermes or Kanban routing " ++
        "language")
    else .ok task
  | some _ => .error "task: Input should be a valid string"

/-- `HermesAgentArguments.model_validate`. -/
def validateHermesAgent (P : Platform) (fields : JsonDict) : Except PyError String :=
  validated (taskField P (dictGet fields "task")) (extraErrors ["task"] fields)

/-- The field of `TaskStatusArguments`. -/
def taskIdField : Option Json → Except String (Option String)
  | none => .ok none
  | some .null => .ok none
  | some (.str taskId) =>
    if taskId.length > 64 then .error "task_id: String should have at most 64 characters"
    else .ok (some taskId)
  | some _ => .error "task_id: Input should be a valid string"

/-- `TaskStatusArguments.model_validate`. -/
def validateTaskStatus (fields : JsonDict) : Except PyError (Option String) :=
  validated (taskIdField (dictGet fields "task_id")) (extraErrors ["task_id"] fields)

/-! ### Values of Python -/

def truthy : Json → Bool
  | .null => false
  | .bool b => b
  | .int z => z ≠ 0
  | .float (.finite _ magnitude) => magnitude.mant ≠ 0
  | .float _ => true
  | .str s => s ≠ ""
  | .arr items => !items.isEmpty
  | .obj fields => !fields.isEmpty

/-- The name of the type of a value. -/
def typeName : Json → String
  | .null => "NoneType"
  | .bool _ => "bool"
  | .int _ => "int"
  | .float _ => "float"
  | .str _ => "str"
  | .arr _ => "list"
  | .obj _ => "dict"

/-- `str.strip`. -/
def strip (text : String) : String :=
  String.ofList (((text.toList.dropWhile isSpace).reverse.dropWhile isSpace).reverse)

/-- `text[-limit:]`. -/
def lastChars (limit : ℕ) (text : String) : String :=
  String.ofList (text.toList.drop (text.toList.length - limit))

/-! ### Processes -/

/-- What `subprocess.run` comes to. -/
inductive ProcessEnd
  /-- `FileNotFoundError` -/
  | notFound
  /-- another `OSError` -/
  | osError
  /-- `OverflowError`: the clock cannot count the timeout -/
  | overflow
  /-- a `ValueError`: the command cannot be passed on, or the timeout is not a number -/
  | invalid (message : String)
  | timedOut
  /-- `UnicodeDecodeError`, of a process that has ended; `output` has a character for each byte -/
  | undecodable (status : ℤ) (output message : String)
  | exited (status : ℤ) (stdout stderr : String)
  deriving DecidableEq

/-- What is raised is neither caught nor a `ValueError`. -/
def ProcessEnd.escapes : ProcessEnd → Bool
  | .osError | .overflow => true
  | .notFound | .invalid _ | .timedOut | .undecodable .. | .exited .. => false

/-- A `ValueError` is raised. -/
def ProcessEnd.isValueError : ProcessEnd → Bool
  | .invalid _ | .undecodable .. => true
  | .notFound | .osError | .overflow | .timedOut | .exited .. => false

/-- What the capabilities take from where they run. -/
structure Machine where
  getenv : String → Option String
  which : String → Option String
  home : String
  pathExists : String → Bool
  /-- `float` can read the text -/
  isFloat : String → Bool
  /-- `str` of a number that is not whole, a list or a dictionary -/
  textOf : Json → String
  /-- a command, with the text of its timeout -/
  run : List String → String → ProcessEnd

section Processes

variable (L : Library) (M : Machine)

/-- `str`. -/
def pyStr : Json → String
  | .null => "None"
  | .bool b => if b then "True" else "False"
  | .int z => toString z
  | .str s => s
  | value => M.textOf value

def getenvOr (name fallback : String) : String := (M.getenv name).getD fallback

/-- `float(os.getenv(name, fallback))`, kept as the text. -/
def readSeconds (name fallback : String) : Except PyError String :=
  let text := getenvOr M name fallback
  if M.isFloat text then .ok text
  else .error (.valueError ("could not convert string to float: '" ++ text ++ "'"))

def resolveHermesBin : String :=
  match (orElseText (M.getenv "HERMES_KANBAN_BIN") (M.getenv "HERMES_BIN")).filter (· ≠ "") with
  | some configured => configured
  | none =>
    match (M.which "hermes").filter (· ≠ "") with
    | some found => found
    | none =>
      let candidates :=
        [M.home ++ "/.local/bin/hermes", M.home ++ "/.hermes/hermes-agent/venv/bin/hermes"]
      (candidates.find? M.pathExists).getD "hermes"

/-- `_run_hermes`. -/
def runHermes (cmd : List String) (timeout failure : String) : Except PyError String :=
  match M.run cmd timeout with
  | .notFound =>
    .error (.executionContractError ("Hermes executable not found: " ++ cmd.headD ""))
  | .timedOut => .error (.executionContractError (failure ++ " timed out"))
  | .osError => .error .osError
  | .overflow => .error .overflowError
  | .invalid message => .error (.valueError message)
  | .undecodable _ _ message => .error (.valueError message)
  | .exited status stdout stderr =>
    let output := strip stdout
    if status ≠ 0 then
      let error :=
        if stderr ≠ "" then stderr
        else if output ≠ "" then output
        else failure ++ " exited with status " ++ toString status
      .error (.executionContractError (lastChars 1000 (strip error)))
    else .ok output

/-! ### The board -/

def boardsCommand (hermesBin : String) : List String :=
  [hermesBin, "kanban", "boards", "list", "--json"]

/-- The slug and the database of a board that is current and has both. -/
def currentBoard : Json → Option (String × String)
  | .obj board =>
    match dictGet board "is_current", dictGet board "slug", dictGet board "db_path" with
    | some (.bool true), some (.str slug), some (.str dbPath) =>
      if slug ≠ "" ∧ dbPath ≠ "" then some (slug, dbPath) else none
    | _, _, _ => none
  | _ => none

/-- `_resolve_current_kanban_board`; an `ExecutionContractError` and what is no JSON are caught,
other exceptions are not. -/
def resolveCurrentKanbanBoard (hermesBin : String) : Except PyError (Option (String × String)) := do
  let timeout ← readSeconds M "HERMES_KANBAN_BOARDS_TIMEOUT_SECONDS" "10"
  match runHermes M (boardsCommand hermesBin) timeout "Kanban boards list" with
  | .error (.executionContractError _) => return none
  | .error e => .error e
  | .ok output =>
    match L.loads output with
    | .value (.arr boards) => return boards.findSome? currentBoard
    | .value _ => return none
    | .decodeError => return none
    | .raised e => .error e

/-! ### A task is created -/

/-- `_kanban_title`. -/
def kanbanTitle (task : String) : String := truncate 80 (String.ofList (joinWords task.toList))

def handoffBody (task : String) : String :=
  "Voice handoff from Okay Hermes Realtime.\n\n" ++
  "Acceptance criteria:\n" ++
  "- Handle the user's request with full Hermes Agent tools, memory, and skills.\n" ++
  "- Verify any concrete claims or file/system changes before completion.\n" ++
  "- Keep the final summary concise enough to read or speak back to the user.\n\n" ++
  "Task:\n" ++ task

/-- `--board` with the slug of a board, if there is one. -/
def boardOption (slug : Option String) : List String :=
  match slug with
  | some slug => ["--board", slug]
  | none => []

def createCommand (hermesBin : String) (board : Option (String × String)) (task : String) :
    List String :=
  let provider := strip (getenvOr M "HERMES_KANBAN_HEAVY_PROVIDER" "")
  let model := strip (getenvOr M "HERMES_KANBAN_HEAVY_MODEL" "")
  [hermesBin, "kanban"] ++ boardOption (board.map Prod.fst) ++
    ["create", kanbanTitle task, "--body", handoffBody task,
      "--assignee", getenvOr M "HERMES_KANBAN_HEAVY_ASSIGNEE" "default",
      "--created-by", "okay-hermes-realtime",
      "--max-runtime", getenvOr M "HERMES_KANBAN_HEAVY_MAX_RUNTIME" "30m", "--goal", "--json"] ++
    (if model ≠ "" then
      ["--model", model] ++ (if provider ≠ "" then ["--provider", provider] else [])
    else [])

/-- `_parse_kanban_create_output`. -/
def parseKanbanCreateOutput (output : String) : Except PyError JsonDict :=
  match L.loads output with
  | .value (.obj task) => .ok task
  | .value value => .ok [("raw_output", value)]
  | .decodeError =>
    let first := String.ofList ((wordsFrom [] output.toList).headD [])
    .ok [("raw_output", .str output), ("task_id", .str first)]
  | .raised e => .error e

def dispatchCommand (hermesBin : String) (slug : Option String) : List String :=
  [hermesBin, "kanban"] ++ boardOption (slug.filter (· ≠ "")) ++ ["dispatch", "--max", "1"]

/-- `_dispatch_kanban_once`: only a missing executable and a timeout are suppressed. -/
def dispatchKanbanOnce (hermesBin : String) (slug : Option String) : Except PyError Unit := do
  let timeout ← readSeconds M "HERMES_KANBAN_DISPATCH_TIMEOUT_SECONDS" "15"
  match M.run (dispatchCommand hermesBin slug) timeout with
  | .osError => .error .osError
  | .overflow => .error .overflowError
  | .invalid message => .error (.valueError message)
  | .undecodable _ _ message => .error (.valueError message)
  | .notFound | .timedOut | .exited .. => return ()

/-- `HERMES_KANBAN_DISPATCH_AFTER_CREATE` asks for a dispatch. -/
def dispatchesAfterCreate : Bool :=
  getenvOr M "HERMES_KANBAN_DISPATCH_AFTER_CREATE" "1" ∉ ["0", "false", "False"]

/-- `_create_kanban_handoff`. -/
def createKanbanHandoff (hermesBin : String) (board : Option (String × String)) (task : String) :
    Except PyError JsonDict := do
  let timeout ← readSeconds M "HERMES_KANBAN_CREATE_TIMEOUT_SECONDS" "30"
  let output ← runHermes M (createCommand M hermesBin board task) timeout "Kanban create"
  let createdTask ← parseKanbanCreateOutput L output
  if dispatchesAfterCreate M then dispatchKanbanOnce M hermesBin (board.map Prod.fst)
  return createdTask

end Processes

/-! ### The ledger -/

/-- `_HANDOFF_LEDGER`, the newest handoff last. -/
abbrev Ledger := List HandoffRecord

def handoffLedgerLimit : ℕ := 10

/-- `_record_handoff`. -/
def recordHandoff (record : HandoffRecord) (ledger : Ledger) : Ledger :=
  (ledger ++ [record]).drop ((ledger ++ [record]).length - handoffLedgerLimit)

/-- `latest_handoff`. -/
def latestHandoff (ledger : Ledger) : Option HandoffRecord := ledger.getLast?

/-! ### The handlers -/

section Handlers

variable (L : Library) (M : Machine)

/-- `str(task.get("id") or task.get("task_id") or "")`. -/
def taskIdOf (task : JsonDict) : String :=
  match (dictGet task "id").filter truthy with
  | some taskId => pyStr M taskId
  | none =>
    match (dictGet task "task_id").filter truthy with
    | some taskId => pyStr M taskId
    | none => ""

def handoffRecord (board : Option (String × String)) (task : JsonDict) : HandoffRecord where
  taskId := taskIdOf M task
  title := pyStr M ((dictGet task "title").getD (.str ""))
  boardSlug := board.map Prod.fst
  dbPath := board.map Prod.snd

def handoffResult (created : JsonDict) : JsonDict :=
  [("action", .str "hermes.agent.handoff"), ("status", .str "queued"), ("task", .obj created),
    ("spoken_summary", .str "I added that to the Hermes Kanban board for the heavy agent.")]

/-- `_handoff_to_hermes_agent`. -/
def handoffToHermesAgent (task : String) : Op Ledger PyError JsonDict := do
  let hermesBin := resolveHermesBin M
  let board ← Op.ofExcept (resolveCurrentKanbanBoard L M hermesBin)
  let created ← Op.ofExcept (createKanbanHandoff L M hermesBin board task)
  Op.modify fun ledger =>
    if taskIdOf M created ≠ "" then recordHandoff (handoffRecord M board created) ledger else ledger
  return handoffResult created

def showCommand (hermesBin taskId : String) : List String :=
  [hermesBin, "kanban", "show", taskId, "--json"]

/-- What is shown, and the task in it. -/
def parseShown (output : String) : Except PyError (JsonDict × JsonDict) :=
  match L.loads output with
  | .value (.obj shown) =>
    match dictGet shown "task" with
    | some (.obj task) => .ok (shown, task)
    | _ => .error (.executionContractError "Kanban show returned an unexpected payload")
  | .value _ => .error (.executionContractError "Kanban show returned an unexpected payload")
  | .decodeError => .error (.executionContractError "Kanban show returned invalid JSON")
  | .raised e => .error e

/-- `_show_kanban_task`. -/
def showKanbanTask (taskId : String) : Except PyError (JsonDict × JsonDict) := do
  let hermesBin := resolveHermesBin M
  let timeout ← readSeconds M "HERMES_KANBAN_SHOW_TIMEOUT_SECONDS" "15"
  let output ← runHermes M (showCommand hermesBin taskId) timeout "Kanban show"
  parseShown L output

/-- `_spoken_task_status`: a summary that is neither text nor falsy has no `strip`. -/
def spokenTaskStatus (status : String) (summary : Json) : Except PyError String :=
  if status = "done" then
    if truthy summary then
      match summary with
      | .str summary =>
        .ok ("Your task is finished." ++
          if strip summary ≠ "" then " It says: " ++ strip summary else "")
      | other =>
        .error (.otherError ("'" ++ typeName other ++ "' object has no attribute 'strip'"))
    else .ok "Your task is finished."
  else if status = "running" then .ok "Your task is still in progress."
  else if status ∈ ["ready", "todo", "triage"] then
    .ok "Your task is queued and waiting for a worker."
  else if status = "blocked" then .ok "Your task is blocked."
  else if status = "review" then .ok "Your task is done and waiting for review."
  else if status = "scheduled" then .ok "Your task is scheduled for later."
  else .ok ("Your task status is " ++ status ++ ".")

def statusOf (task : JsonDict) : String := pyStr M ((dictGet task "status").getD (.str "unknown"))

def latestSummary (shown : JsonDict) : Json := (dictGet shown "latest_summary").getD .null

/-- The task `_check_heavy_agent_task` asks about. -/
def checkedTask (ledger : Ledger) (taskId : Option String) : Option String :=
  match taskId.filter (· ≠ "") with
  | some taskId => some taskId
  | none => (latestHandoff ledger).map HandoffRecord.taskId

/-- `_check_heavy_agent_task`. -/
def checkHeavyAgentTask (taskId : Option String) : Op Ledger PyError JsonDict := do
  let ledger ← Op.get
  match checkedTask ledger taskId with
  | none => Op.raise (.executionContractError "no heavy-agent task has been handed off yet")
  | some taskId => do
    let (shown, task) ← Op.ofExcept (showKanbanTask L M taskId)
    let spoken ← Op.ofExcept (spokenTaskStatus (statusOf M task) (latestSummary shown))
    return [("action", .str "hermes.agent.status"), ("task_id", .str taskId),
      ("status", .str (statusOf M task)),
      ("title", .str (pyStr M ((dictGet task "title").getD (.str "")))),
      ("summary", latestSummary shown), ("spoken_summary", .str spoken)]

/-! ### The broker and the gateway -/

/-- The capabilities that run commands of Hermes. -/
inductive HeavyCapability
  | handoff
  | check
  deriving DecidableEq

def HeavyCapability.name : HeavyCapability → String
  | .handoff => "handoff_to_heavy_agent"
  | .check => "check_heavy_agent_task"

variable (P : Platform)

/-- The arguments are validated, and the handler runs. -/
def HeavyCapability.handle (fields : JsonDict) : HeavyCapability → Op Ledger PyError JsonDict
  | .handoff => do
    let task ← Op.ofExcept (validateHermesAgent P fields)
    handoffToHermesAgent L M task
  | .check => do
    let taskId ← Op.ofExcept (validateTaskStatus fields)
    checkHeavyAgentTask L M taskId

def brokerResult (capability : HeavyCapability) (result : JsonDict) : JsonDict :=
  [("ok", .bool true), ("capability", .str capability.name), ("execution", .str "kanban"),
    ("result", .obj result)]

/-- `CapabilityBroker.execute`. -/
def brokerExecute (capability : HeavyCapability) (arguments : ExecutionArguments) :
    Op Ledger PyError JsonDict := do
  let fields ← Op.ofExcept (parseArguments L arguments)
  let result ← capability.handle L M P fields
  return brokerResult capability result

/-- The ledger, the controller, and the calls of `register_handoff` that have been made. -/
structure Delegation where
  ledger : Ledger
  controller : VoiceSessionController
  handed : List (String × HandoffRecord) := []

def saysOk (result : JsonDict) : Bool :=
  match dictGet result "ok" with
  | some (.bool ok) => ok
  | _ => false

/-- `returned_task_id`. -/
def returnedTaskId (result : JsonDict) : String :=
  match dictGet result "result" with
  | some (.obj fields) =>
    match dictGet fields "task" with
    | some (.obj task) => taskIdOf M task
    | _ => ""
  | _ => ""

/-- The capability step of `execute_capability`, for the session of the gateway. -/
def capabilityStep (env : Env) (sessionId : String) (capability : HeavyCapability)
    (arguments : ExecutionArguments) (d : Delegation) : Delegation × CapabilityEnd :=
  match brokerExecute L M env.platform capability arguments d.ledger with
  | (ledger, .error e) => ({ d with ledger }, .raised e)
  | (ledger, .ok result) =>
    match (latestHandoff ledger).filter fun handoff =>
        capability = .handoff ∧ saysOk result ∧ handoff.taskId = returnedTaskId M result with
    | none => ({ d with ledger }, .result result)
    | some handoff =>
      let registered := registerHandoff env sessionId handoff d.controller
      let next : Delegation := ⟨ledger, registered.1, d.handed ++ [(sessionId, handoff)]⟩
      match registered.2 with
      | .ok _ => (next, .result result)
      | .error e => (next, .raised e)

end Handlers

end HermesRealtime.Capabilities

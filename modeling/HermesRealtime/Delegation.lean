import HermesRealtime.Capabilities
import HermesRealtime.Handshake
import HermesRealtime.ReplayTable

/-!
What becomes of a failure of Hermes. The handler of `/execute` answers an exception with status 400
if it is a `ValueError` or a `RuntimeError`, and keeps the answer; any other exception escapes it.
The exceptions that escape are followed through the processes a capability runs, one after the
other, and with them the task that one of them may have created.
-/

namespace HermesRealtime.Delegation

open Values Text Checks Gateway ReplayTable Arguments Controller Capabilities

/-! ### Exceptions that escape the handler -/

/-- The handler answers the exception. -/
def isCaught : PyError → Bool
  | .runtimeError _ => true
  | e => e.isValueError

@[simp] lemma isCaught_valueError (text : String) : isCaught (.valueError text) = true := rfl
@[simp] lemma isCaught_executionContractError (text : String) :
    isCaught (.executionContractError text) = true := rfl
@[simp] lemma isCaught_osError : isCaught .osError = false := rfl
@[simp] lemma isCaught_overflowError : isCaught .overflowError = false := rfl
@[simp] lemma isCaught_otherError (text : String) : isCaught (.otherError text) = false := rfl

lemma capabilityReply_raised (callId : String) (e : PyError) :
    (∃ body, capabilityReply callId (.raised e) = some (400, body)) ↔ isCaught e = true := by
  cases e <;> simp [capabilityReply, isCaught, PyError.isValueError]

/-! ### The assumptions -/

/-- `json.loads` raises, besides a `JSONDecodeError`, a `ValueError` for a number with too many
digits and a `RecursionError`, which is a `RuntimeError`. -/
def LoadsRaisesCaught (L : Library) : Prop := ∀ text e, L.loads text = .raised e → isCaught e = true

/-- The settings that hold a timeout, with their defaults. -/
def timeoutSettings : List (String × String) :=
  [("HERMES_KANBAN_BOARDS_TIMEOUT_SECONDS", "10"), ("HERMES_KANBAN_CREATE_TIMEOUT_SECONDS", "30"),
    ("HERMES_KANBAN_DISPATCH_TIMEOUT_SECONDS", "15"), ("HERMES_KANBAN_SHOW_TIMEOUT_SECONDS", "15")]

/-- The timeout settings are numeric. -/
def NumericTimeouts (M : Machine) : Prop :=
  ∀ setting ∈ timeoutSettings, M.isFloat (getenvOr M setting.1 setting.2) = true

/-! ### The processes of a call -/

section

variable (L : Library) (M : Machine)

def boardsEnd : ProcessEnd :=
  M.run (boardsCommand (resolveHermesBin M))
    (getenvOr M "HERMES_KANBAN_BOARDS_TIMEOUT_SECONDS" "10")

def createEnd (board : Option (String × String)) (task : String) : ProcessEnd :=
  M.run (createCommand M (resolveHermesBin M) board task)
    (getenvOr M "HERMES_KANBAN_CREATE_TIMEOUT_SECONDS" "30")

def dispatchEnd (board : Option (String × String)) : ProcessEnd :=
  M.run (dispatchCommand (resolveHermesBin M) (board.map Prod.fst))
    (getenvOr M "HERMES_KANBAN_DISPATCH_TIMEOUT_SECONDS" "15")

def showEnd (taskId : String) : ProcessEnd :=
  M.run (showCommand (resolveHermesBin M) taskId)
    (getenvOr M "HERMES_KANBAN_SHOW_TIMEOUT_SECONDS" "15")

/-- The board that a task is created on. -/
def createsOn : Except PyError (Option (String × String)) :=
  resolveCurrentKanbanBoard L M (resolveHermesBin M)

variable {L M}

lemma readSeconds_ok (hnumeric : NumericTimeouts M) {name fallback : String}
    (hsetting : (name, fallback) ∈ timeoutSettings) :
    readSeconds M name fallback = .ok (getenvOr M name fallback) := by
  have hfloat := hnumeric (name, fallback) hsetting
  simp [readSeconds, hfloat]

lemma escapes_runHermes (cmd : List String) (timeout failure : String) :
    Escapes isCaught (runHermes M cmd timeout failure) ↔ (M.run cmd timeout).escapes := by
  unfold runHermes
  cases M.run cmd timeout with
  | exited status stdout stderr =>
    by_cases hstatus : status = 0 <;> simp [hstatus, ProcessEnd.escapes]
  | _ => simp [ProcessEnd.escapes]

/-- A run of Hermes that succeeds has ended with status 0. -/
lemma runHermes_eq_ok {cmd : List String} {timeout failure output : String} :
    runHermes M cmd timeout failure = .ok output ↔
      ∃ stdout stderr, M.run cmd timeout = .exited 0 stdout stderr ∧ output = strip stdout := by
  unfold runHermes
  cases M.run cmd timeout with
  | exited status stdout stderr =>
    by_cases hstatus : status = 0
    · simp [hstatus, eq_comm]
    · simp [hstatus]
  | _ => simp

lemma escapes_createsOn (hloads : LoadsRaisesCaught L) (hnumeric : NumericTimeouts M) :
    Escapes isCaught (createsOn L M) ↔ (boardsEnd M).escapes := by
  have hrun := escapes_runHermes (M := M) (boardsCommand (resolveHermesBin M))
    (getenvOr M "HERMES_KANBAN_BOARDS_TIMEOUT_SECONDS" "10") "Kanban boards list"
  rw [createsOn, resolveCurrentKanbanBoard, readSeconds_ok hnumeric (by simp [timeoutSettings]),
    boardsEnd, ← hrun]
  simp only [bind, Except.bind]
  cases hout : runHermes M (boardsCommand (resolveHermesBin M))
    (getenvOr M "HERMES_KANBAN_BOARDS_TIMEOUT_SECONDS" "10") "Kanban boards list" with
  | error e => cases e <;> simp
  | ok output =>
    cases hvalue : L.loads output with
    | raised e => simp [hvalue, hloads output e hvalue]
    | decodeError => simp [hvalue]
    | value value => cases value <;> simp [hvalue]

lemma escapes_parse (hloads : LoadsRaisesCaught L) (output : String) :
    ¬ Escapes isCaught (parseKanbanCreateOutput L output) := by
  unfold parseKanbanCreateOutput
  cases hvalue : L.loads output with
  | raised e => simp [hloads output e hvalue]
  | decodeError => simp
  | value value => cases value <;> simp

lemma escapes_dispatch (hnumeric : NumericTimeouts M) (board : Option (String × String)) :
    Escapes isCaught (dispatchKanbanOnce M (resolveHermesBin M) (board.map Prod.fst)) ↔
      (dispatchEnd M board).escapes := by
  rw [dispatchKanbanOnce, readSeconds_ok hnumeric (by simp [timeoutSettings]), dispatchEnd]
  simp only [bind, Except.bind]
  cases M.run (dispatchCommand (resolveHermesBin M) (board.map Prod.fst))
    (getenvOr M "HERMES_KANBAN_DISPATCH_TIMEOUT_SECONDS" "15") <;> simp [ProcessEnd.escapes]

/-- A dispatch that raises nothing, or what is suppressed. -/
lemma dispatch_eq_ok (hnumeric : NumericTimeouts M) (board : Option (String × String)) :
    dispatchKanbanOnce M (resolveHermesBin M) (board.map Prod.fst) = .ok () ↔
      ¬ (dispatchEnd M board).escapes ∧ ¬ (dispatchEnd M board).isValueError := by
  rw [dispatchKanbanOnce, readSeconds_ok hnumeric (by simp [timeoutSettings]), dispatchEnd]
  simp only [bind, Except.bind]
  cases M.run (dispatchCommand (resolveHermesBin M) (board.map Prod.fst))
    (getenvOr M "HERMES_KANBAN_DISPATCH_TIMEOUT_SECONDS" "15") <;>
    simp [ProcessEnd.escapes, ProcessEnd.isValueError, pure, Except.pure]

/-! ### The two capabilities -/

/-- What follows a create whose output has been read. -/
def dispatched (M : Machine) (board : Option (String × String)) (created : JsonDict) :
    Except PyError JsonDict :=
  if dispatchesAfterCreate M then do
    dispatchKanbanOnce M (resolveHermesBin M) (board.map Prod.fst)
    return created
  else return created

lemma createKanbanHandoff_eq (hnumeric : NumericTimeouts M) (board : Option (String × String))
    (task : String) :
    createKanbanHandoff L M (resolveHermesBin M) board task = (do
      let output ← runHermes M (createCommand M (resolveHermesBin M) board task)
        (getenvOr M "HERMES_KANBAN_CREATE_TIMEOUT_SECONDS" "30") "Kanban create"
      let created ← parseKanbanCreateOutput L output
      dispatched M board created) := by
  rw [createKanbanHandoff, readSeconds_ok hnumeric (by simp [timeoutSettings])]
  rfl

lemma escapes_dispatched (hnumeric : NumericTimeouts M) (board : Option (String × String))
    (created : JsonDict) :
    Escapes isCaught (dispatched M board created) ↔
      dispatchesAfterCreate M = true ∧ (dispatchEnd M board).escapes := by
  unfold dispatched
  split_ifs with hdispatches
  · rw [escapes_bind, escapes_dispatch hnumeric]
    simp [hdispatches]
  · simp [hdispatches]

/-- A dispatch that raises nothing gives back the task that was created. -/
lemma dispatched_eq_ok (hnumeric : NumericTimeouts M) {board : Option (String × String)}
    {created created' : JsonDict} :
    dispatched M board created = .ok created' ↔ created' = created ∧
      (dispatchesAfterCreate M = true →
        ¬ (dispatchEnd M board).escapes ∧ ¬ (dispatchEnd M board).isValueError) := by
  unfold dispatched
  split_ifs with hdispatches
  · rw [← dispatch_eq_ok hnumeric]
    cases dispatchKanbanOnce M (resolveHermesBin M) (board.map Prod.fst) with
    | error e => simp [hdispatches, bind, Except.bind]
    | ok _ =>
      simp [hdispatches, bind, Except.bind, pure, Except.pure, @eq_comm _ created created']
  · simp [hdispatches, pure, Except.pure, @eq_comm _ created created']

lemma escapes_create (hloads : LoadsRaisesCaught L) (hnumeric : NumericTimeouts M)
    (board : Option (String × String)) (task : String) :
    Escapes isCaught (createKanbanHandoff L M (resolveHermesBin M) board task) ↔
      (createEnd M board task).escapes ∨
        ∃ stdout stderr created, createEnd M board task = .exited 0 stdout stderr ∧
          parseKanbanCreateOutput L (strip stdout) = .ok created ∧
          dispatchesAfterCreate M = true ∧ (dispatchEnd M board).escapes := by
  rw [createKanbanHandoff_eq hnumeric, escapes_bind, escapes_runHermes]
  refine or_congr Iff.rfl ⟨?_, ?_⟩
  · rintro ⟨output, hrun, hescapes⟩
    obtain ⟨stdout, stderr, hend, rfl⟩ := runHermes_eq_ok.mp hrun
    rw [escapes_bind] at hescapes
    obtain ⟨created, hparse, hdispatched⟩ := hescapes.resolve_left (escapes_parse hloads _)
    exact ⟨stdout, stderr, created, hend, hparse, (escapes_dispatched hnumeric _ _).mp hdispatched⟩
  · rintro ⟨stdout, stderr, created, hend, hparse, hdispatched⟩
    refine ⟨strip stdout, runHermes_eq_ok.mpr ⟨stdout, stderr, hend, rfl⟩, ?_⟩
    rw [escapes_bind]
    exact .inr ⟨created, hparse, (escapes_dispatched hnumeric _ _).mpr hdispatched⟩

lemma escapes_handoff (task : String) (ledger : Ledger) :
    Escapes isCaught (handoffToHermesAgent L M task ledger).2 ↔
      Escapes isCaught (createsOn L M) ∨ ∃ board, createsOn L M = .ok board ∧
        Escapes isCaught (createKanbanHandoff L M (resolveHermesBin M) board task) := by
  simp [handoffToHermesAgent, createsOn, escapes_ofExcept_bind]

/-- A summary that can be spoken: text, or what counts as none. -/
def Speakable (summary : Json) : Prop := truthy summary = false ∨ ∃ text, summary = .str text

lemma escapes_spoken (status : String) (summary : Json) :
    Escapes isCaught (spokenTaskStatus status summary) ↔ status = "done" ∧ ¬ Speakable summary := by
  unfold spokenTaskStatus Speakable
  by_cases hdone : status = "done"
  · cases htruthy : truthy summary with
    | false => simp [hdone]
    | true => cases summary <;> simp [hdone]
  · simp only [hdone, if_false, false_and, iff_false]
    split_ifs <;> simp

lemma escapes_parseShown (hloads : LoadsRaisesCaught L) (output : String) :
    ¬ Escapes isCaught (parseShown L output) := by
  unfold parseShown
  cases hvalue : L.loads output with
  | raised e => simp [hloads output e hvalue]
  | decodeError => simp
  | value value =>
    cases value with
    | obj shown =>
      dsimp only
      split <;> simp
    | _ => simp

lemma parseShown_eq_ok {output : String} {shown task : JsonDict} :
    parseShown L output = .ok (shown, task) ↔
      L.loads output = .value (.obj shown) ∧ dictGet shown "task" = some (.obj task) := by
  unfold parseShown
  split
  · rename_i fields hloads
    split
    · rename_i found htask
      simp only [hloads, Except.ok.injEq, Prod.mk.injEq, Loaded.value.injEq, Json.obj.injEq]
      refine ⟨?_, ?_⟩
      · rintro ⟨rfl, rfl⟩
        exact ⟨rfl, htask⟩
      · rintro ⟨rfl, hfound⟩
        exact ⟨rfl, by simpa [htask] using hfound⟩
    · rename_i hother
      simp only [hloads, reduceCtorEq, Loaded.value.injEq, Json.obj.injEq, false_iff, not_and]
      rintro rfl
      exact hother task
  all_goals simp_all

/-- A task that is shown. -/
def Shown (L : Library) (M : Machine) (taskId : String) (shown task : JsonDict) : Prop :=
  ∃ stdout stderr, showEnd M taskId = .exited 0 stdout stderr ∧
    L.loads (strip stdout) = .value (.obj shown) ∧ dictGet shown "task" = some (.obj task)

lemma showKanbanTask_eq (hnumeric : NumericTimeouts M) (taskId : String) :
    showKanbanTask L M taskId = (do
      let output ← runHermes M (showCommand (resolveHermesBin M) taskId)
        (getenvOr M "HERMES_KANBAN_SHOW_TIMEOUT_SECONDS" "15") "Kanban show"
      parseShown L output) := by
  rw [showKanbanTask, readSeconds_ok hnumeric (by simp [timeoutSettings])]
  rfl

lemma showKanbanTask_eq_ok (hnumeric : NumericTimeouts M) {taskId : String}
    {shown task : JsonDict} :
    showKanbanTask L M taskId = .ok (shown, task) ↔ Shown L M taskId shown task := by
  rw [showKanbanTask_eq hnumeric]
  constructor
  · intro h
    cases hrun : runHermes M (showCommand (resolveHermesBin M) taskId)
      (getenvOr M "HERMES_KANBAN_SHOW_TIMEOUT_SECONDS" "15") "Kanban show" with
    | error e => simp [hrun, bind, Except.bind] at h
    | ok output =>
      obtain ⟨stdout, stderr, hend, rfl⟩ := runHermes_eq_ok.mp hrun
      rw [hrun] at h
      exact ⟨stdout, stderr, hend, parseShown_eq_ok.mp h⟩
  · rintro ⟨stdout, stderr, hend, hshown⟩
    have hrun : runHermes M (showCommand (resolveHermesBin M) taskId)
        (getenvOr M "HERMES_KANBAN_SHOW_TIMEOUT_SECONDS" "15") "Kanban show" =
          .ok (strip stdout) := runHermes_eq_ok.mpr ⟨stdout, stderr, hend, rfl⟩
    rw [hrun]
    exact parseShown_eq_ok.mpr hshown

lemma escapes_show (hloads : LoadsRaisesCaught L) (hnumeric : NumericTimeouts M)
    (taskId : String) :
    Escapes isCaught (showKanbanTask L M taskId) ↔ (showEnd M taskId).escapes := by
  rw [showKanbanTask_eq hnumeric, escapes_bind, escapes_runHermes]
  refine or_iff_left ?_
  rintro ⟨output, -, hescapes⟩
  exact escapes_parseShown hloads output hescapes

lemma escapes_check (hloads : LoadsRaisesCaught L) (hnumeric : NumericTimeouts M)
    (taskId : Option String) (ledger : Ledger) :
    Escapes isCaught (checkHeavyAgentTask L M taskId ledger).2 ↔
      ∃ checked, checkedTask ledger taskId = some checked ∧
        ((showEnd M checked).escapes ∨ ∃ shown task, Shown L M checked shown task ∧
          statusOf M task = "done" ∧ ¬ Speakable (latestSummary shown)) := by
  rw [checkHeavyAgentTask, Op.get_bind]
  cases hchecked : checkedTask ledger taskId with
  | none => simp
  | some checked =>
    simp only [escapes_ofExcept_bind, escapes_show hloads hnumeric, Prod.exists,
      showKanbanTask_eq_ok hnumeric, escapes_spoken]
    simp

/-! ### The broker -/

lemma escapes_validated {α : Type} (field : Except String α) (extras : List String) :
    ¬ Escapes isCaught (validated field extras) := by
  rcases field with message | value <;> rcases extras with _ | ⟨extra, extras⟩ <;>
    simp [validated]

lemma escapes_parseArguments (hloads : LoadsRaisesCaught L) (arguments : ExecutionArguments) :
    ¬ Escapes isCaught (parseArguments L arguments) := by
  cases arguments with
  | object fields => simp [parseArguments]
  | text text =>
    simp only [parseArguments]
    cases hvalue : L.loads text with
    | raised e => simp [hloads text e hvalue]
    | decodeError => simp
    | value value => cases value <;> simp

variable {P : Platform}

/-- The broker escapes where the handler of the capability does, and only the handler. -/
lemma escapes_broker (hloads : LoadsRaisesCaught L) (capability : HeavyCapability)
    (arguments : ExecutionArguments) (ledger : Ledger) :
    Escapes isCaught (brokerExecute L M P capability arguments ledger).2 ↔
      ∃ fields, parseArguments L arguments = .ok fields ∧
        Escapes isCaught (capability.handle L M P fields ledger).2 := by
  rw [brokerExecute, escapes_ofExcept_bind, or_iff_right (escapes_parseArguments hloads arguments)]
  simp [escapes_op_bind]

lemma escapes_handle_handoff (fields : JsonDict) (ledger : Ledger) :
    Escapes isCaught (HeavyCapability.handoff.handle L M P fields ledger).2 ↔
      ∃ task, validateHermesAgent P fields = .ok task ∧
        Escapes isCaught (handoffToHermesAgent L M task ledger).2 := by
  rw [HeavyCapability.handle, escapes_ofExcept_bind]
  exact or_iff_right (escapes_validated _ _)

lemma escapes_handle_check (fields : JsonDict) (ledger : Ledger) :
    Escapes isCaught (HeavyCapability.check.handle L M P fields ledger).2 ↔
      ∃ taskId, validateTaskStatus fields = .ok taskId ∧
        Escapes isCaught (checkHeavyAgentTask L M taskId ledger).2 := by
  rw [HeavyCapability.handle, escapes_ofExcept_bind]
  exact or_iff_right (escapes_validated _ _)

/-- A handoff that comes to its end: the task is recorded, if it has an id, and returned. -/
lemma broker_handoff {arguments : ExecutionArguments} {fields created : JsonDict} {task : String}
    {board : Option (String × String)} (hparse : parseArguments L arguments = .ok fields)
    (hvalid : validateHermesAgent P fields = .ok task) (hboard : createsOn L M = .ok board)
    (hcreated : createKanbanHandoff L M (resolveHermesBin M) board task = .ok created)
    (ledger : Ledger) :
    brokerExecute L M P .handoff arguments ledger =
      (if taskIdOf M created ≠ "" then recordHandoff (handoffRecord M board created) ledger
        else ledger, .ok (brokerResult .handoff (handoffResult created))) := by
  rw [createsOn] at hboard
  simp only [brokerExecute, HeavyCapability.handle, handoffToHermesAgent, Op.bind_apply,
    Op.ofExcept_apply, hparse, hvalid, hboard, hcreated, Op.modify_apply, Op.pure_apply]

lemma saysOk_brokerResult (capability : HeavyCapability) (result : JsonDict) :
    saysOk (brokerResult capability result) = true := by
  simp [saysOk, brokerResult, dictGet]

lemma returnedTaskId_handoff (capability : HeavyCapability) (created : JsonDict) :
    returnedTaskId M (brokerResult capability (handoffResult created)) = taskIdOf M created := by
  simp [returnedTaskId, brokerResult, handoffResult, dictGet]

/-- A handoff whose create fails, or that is lost after it, does not come to its end. -/
lemma broker_handoff_error {arguments : ExecutionArguments} {fields : JsonDict} {task : String}
    {board : Option (String × String)} {e : PyError}
    (hparse : parseArguments L arguments = .ok fields)
    (hvalid : validateHermesAgent P fields = .ok task) (hboard : createsOn L M = .ok board)
    (hcreated : createKanbanHandoff L M (resolveHermesBin M) board task = .error e)
    (ledger : Ledger) :
    brokerExecute L M P .handoff arguments ledger = (ledger, .error e) := by
  rw [createsOn] at hboard
  simp only [brokerExecute, HeavyCapability.handle, handoffToHermesAgent, Op.bind_apply,
    Op.ofExcept_apply, hparse, hvalid, hboard, hcreated]

/-! ### The step of the gateway -/

lemma latestHandoff_record (record : HandoffRecord) (ledger : Ledger) :
    latestHandoff (recordHandoff record ledger) = some record := by
  have hlength : ¬ (ledger ++ [record]).length ≤
      (ledger ++ [record]).length - handoffLedgerLimit := by
    rw [List.length_append, List.length_singleton, handoffLedgerLimit]
    omega
  rw [latestHandoff, recordHandoff, List.getLast?_drop, if_neg hlength]
  simp

lemma registerHandoff_ok (env : Env) (sessionId : String) (record : HandoffRecord)
    (c : VoiceSessionController) :
    ∃ registered, (registerHandoff env sessionId record c).2 = .ok registered := by
  rw [registerHandoff, Op.get_bind, Op.ite_apply]
  split
  · exact ⟨false, rfl⟩
  · rcases record.boardSlug.filter (· ≠ "") with _ | slug
    · exact ⟨false, rfl⟩
    · rcases record.dbPath.filter (· ≠ "") with _ | path
      · exact ⟨false, rfl⟩
      · exact ⟨_, rfl⟩

variable {env : Env} {sessionId : String} {capability : HeavyCapability}
  {arguments : ExecutionArguments} {d : Delegation} {ledger : Ledger}

lemma capabilityStep_error {e : PyError}
    (h : brokerExecute L M env.platform capability arguments d.ledger = (ledger, .error e)) :
    capabilityStep L M env sessionId capability arguments d = ({ d with ledger }, .raised e) := by
  rw [capabilityStep, h]

lemma capabilityStep_ok {result : JsonDict}
    (h : brokerExecute L M env.platform capability arguments d.ledger = (ledger, .ok result)) :
    (capabilityStep L M env sessionId capability arguments d).2 = .result result ∧
      (capabilityStep L M env sessionId capability arguments d).1.ledger = ledger := by
  rw [capabilityStep, h]
  dsimp only
  split
  · exact ⟨rfl, rfl⟩
  · rename_i handoff _
    obtain ⟨registered, hregistered⟩ := registerHandoff_ok env sessionId handoff d.controller
    rw [hregistered]
    exact ⟨rfl, rfl⟩

/-- The handoff that the gateway registers: the newest, if its task is the one returned. -/
lemma capabilityStep_registers {result : JsonDict} {record : HandoffRecord}
    (h : brokerExecute L M env.platform .handoff arguments d.ledger = (ledger, .ok result))
    (hok : saysOk result = true) (hlatest : latestHandoff ledger = some record)
    (hreturned : returnedTaskId M result = record.taskId) :
    (capabilityStep L M env sessionId .handoff arguments d).1 =
      ⟨ledger, (registerHandoff env sessionId record d.controller).1,
        d.handed ++ [(sessionId, record)]⟩ := by
  obtain ⟨registered, hregistered⟩ := registerHandoff_ok env sessionId record d.controller
  have hfilter : ((latestHandoff ledger).filter fun handoff =>
      HeavyCapability.handoff = .handoff ∧ saysOk result ∧
        handoff.taskId = returnedTaskId M result) = some record := by
    rw [hlatest]
    simp [Option.filter, hok, hreturned]
  rw [capabilityStep, h]
  dsimp only
  rw [hfilter]
  dsimp only
  rw [hregistered]

end

/-! ### When the failures of Hermes are contained -/

section

variable (L : Library) (M : Machine) (unread : String → Option String)

/-- The id of the task that the output of a create carries: the one that is read from it. Where
`json.loads` does not read the output but raises, it is for `unread` to say. -/
def carriedTaskId (output : String) : Option String :=
  match parseKanbanCreateOutput L output with
  | .ok task => if taskIdOf M task ≠ "" then some (taskIdOf M task) else none
  | .error _ => unread output

/-- The create has succeeded with output that carries the id. An output that is no text is not read
either. -/
def CreatesTask (taskId : String) : ProcessEnd → Prop
  | .exited 0 stdout _ => carriedTaskId L M unread (strip stdout) = some taskId
  | .undecodable 0 output _ => unread output = some taskId
  | _ => False

/-- The call has a task created, with output that carries its id. -/
def Creates (P : Platform) (arguments : ExecutionArguments) (taskId : String) : Prop :=
  ∃ fields task board, parseArguments L arguments = .ok fields ∧
    validateHermesAgent P fields = .ok task ∧ createsOn L M = .ok board ∧
    CreatesTask L M unread taskId (createEnd M board task)

/-- The task is the newest in the ledger, and has been handed to the controller for the session. -/
def TaskKept (env : Env) (sessionId taskId : String) (d d' : Delegation) : Prop :=
  ∃ record, latestHandoff d'.ledger = some record ∧ record.taskId = taskId ∧
    d'.handed = d.handed ++ [(sessionId, record)] ∧
    d'.controller = (registerHandoff env sessionId record d.controller).1

/-- A result is answered with status 200 and an exception with status 400, and the answer is
stored for a replay. -/
def Answered (w : GatewayWorld) (run : Execution) (ended : CapabilityEnd) : Prop :=
  ∃ status body, capabilityReply run.request.callId ended = some (status, body) ∧
    ((∃ fields, ended = .result fields) ∧ status = 200 ∨ (∃ e, ended = .raised e) ∧ status = 400) ∧
    (w.finish L run ended).gateway.lookup run.request.callId =
      some ⟨run.request.callId, run.fingerprint, status, L.dumps false body, run.request.scope⟩

/-- What is asked of the step: it is answered, and a task it has created is not lost. -/
def FailuresContained (env : Env) (w : GatewayWorld) (run : Execution) (sessionId : String)
    (capability : HeavyCapability) (d : Delegation) : Prop :=
  let next := capabilityStep L M env sessionId capability run.request.arguments d
  Answered L w run next.2 ∧
    (capability = .handoff → ∀ taskId,
      Creates L M unread env.platform run.request.arguments taskId →
      TaskKept env sessionId taskId d next.1)

/-- No process of a handoff raises what is not answered; an output of the create that is not read
carries no id; and after a create with an id the dispatch does not raise a `ValueError` either. -/
structure HandoffContained (task : String) : Prop where
  boards : ¬ (boardsEnd M).escapes
  create : ∀ board, createsOn L M = .ok board → ¬ (createEnd M board task).escapes
  decodable : ∀ board output message, createsOn L M = .ok board →
    createEnd M board task = .undecodable 0 output message → unread output = none
  readable : ∀ board stdout stderr e, createsOn L M = .ok board →
    createEnd M board task = .exited 0 stdout stderr → L.loads (strip stdout) = .raised e →
    unread (strip stdout) = none
  dispatch : ∀ board stdout stderr created, createsOn L M = .ok board →
    createEnd M board task = .exited 0 stdout stderr →
    parseKanbanCreateOutput L (strip stdout) = .ok created → dispatchesAfterCreate M = true →
    ¬ (dispatchEnd M board).escapes ∧
      (taskIdOf M created ≠ "" → ¬ (dispatchEnd M board).isValueError)

/-- The process that shows the task does not raise what is not answered, and the summary of a task
that is done can be spoken. -/
structure CheckContained (taskId : String) : Prop where
  starts : ¬ (showEnd M taskId).escapes
  speakable : ∀ shown task, Shown L M taskId shown task → statusOf M task = "done" →
    Speakable (latestSummary shown)

/-- The condition on a call. -/
def Contained (P : Platform) (arguments : ExecutionArguments) (ledger : Ledger) :
    HeavyCapability → Prop
  | .handoff => ∀ fields task, parseArguments L arguments = .ok fields →
      validateHermesAgent P fields = .ok task → HandoffContained L M unread task
  | .check => ∀ fields taskId checked, parseArguments L arguments = .ok fields →
      validateTaskStatus fields = .ok taskId → checkedTask ledger taskId = some checked →
      CheckContained L M checked

variable {L M unread}

lemma parseKanbanCreateOutput_error {output : String} {e : PyError} :
    parseKanbanCreateOutput L output = .error e ↔ L.loads output = .raised e := by
  unfold parseKanbanCreateOutput
  cases L.loads output with
  | value value => cases value <;> simp
  | _ => simp

variable {env : Env} {w : GatewayWorld} {run : Execution} {sessionId : String}
  {capability : HeavyCapability} {d : Delegation}

/-- An answer is stored under the `call_id` of the request. -/
lemma finish_stores {ended : CapabilityEnd} {status : ℕ} {body : Json}
    (h : capabilityReply run.request.callId ended = some (status, body)) :
    (w.finish L run ended).gateway.lookup run.request.callId =
      some ⟨run.request.callId, run.fingerprint, status, L.dumps false body,
        run.request.scope⟩ := by
  simp only [GatewayWorld.finish, h]
  exact lookup_store_self _ _

lemma answered_raised {e : PyError} : Answered L w run (.raised e) ↔ isCaught e = true := by
  rw [← capabilityReply_raised run.request.callId]
  constructor
  · rintro ⟨status, body, hreply, ⟨⟨fields, hfields⟩, -⟩ | ⟨-, rfl⟩, -⟩
    · cases hfields
    · exact ⟨body, hreply⟩
  · rintro ⟨body, hreply⟩
    exact ⟨400, body, hreply, .inr ⟨⟨e, rfl⟩, rfl⟩, finish_stores hreply⟩

lemma answered_result (fields : JsonDict) : Answered L w run (.result fields) :=
  ⟨200, _, rfl, .inl ⟨⟨fields, rfl⟩, rfl⟩, finish_stores rfl⟩

/-- The step is answered unless the broker lets an exception escape. -/
lemma answered_iff :
    Answered L w run (capabilityStep L M env sessionId capability run.request.arguments d).2 ↔
      ¬ Escapes isCaught
          (brokerExecute L M env.platform capability run.request.arguments d.ledger).2 := by
  rcases hbroker : brokerExecute L M env.platform capability run.request.arguments d.ledger
    with ⟨ledger, e | result⟩
  · rw [capabilityStep_error hbroker, answered_raised]
    simp
  · rw [(capabilityStep_ok hbroker).1]
    simp [answered_result]

lemma escapes_handoff_iff (hloads : LoadsRaisesCaught L) (hnumeric : NumericTimeouts M)
    (task : String) (ledger : Ledger) :
    Escapes isCaught (handoffToHermesAgent L M task ledger).2 ↔
      (boardsEnd M).escapes ∨ ∃ board, createsOn L M = .ok board ∧
        ((createEnd M board task).escapes ∨
          ∃ stdout stderr created, createEnd M board task = .exited 0 stdout stderr ∧
            parseKanbanCreateOutput L (strip stdout) = .ok created ∧
            dispatchesAfterCreate M = true ∧ (dispatchEnd M board).escapes) := by
  simp only [escapes_handoff, escapes_createsOn hloads hnumeric, escapes_create hloads hnumeric]

/-- After a create that succeeds, what is read from its output is dispatched. -/
lemma createKanbanHandoff_of_exit (hnumeric : NumericTimeouts M)
    {board : Option (String × String)} {task stdout stderr : String}
    (hend : createEnd M board task = .exited 0 stdout stderr) :
    createKanbanHandoff L M (resolveHermesBin M) board task = (do
      let created ← parseKanbanCreateOutput L (strip stdout)
      dispatched M board created) := by
  have hrun : runHermes M (createCommand M (resolveHermesBin M) board task)
      (getenvOr M "HERMES_KANBAN_CREATE_TIMEOUT_SECONDS" "30") "Kanban create" =
        .ok (strip stdout) := runHermes_eq_ok.mpr ⟨stdout, stderr, hend, rfl⟩
  rw [createKanbanHandoff_eq hnumeric, hrun]
  rfl

/-- A handoff that does not come to its end records nothing and hands nothing over. -/
lemma not_kept_of_lost {fields : JsonDict} {task taskId : String}
    {board : Option (String × String)}
    (hparse : parseArguments L run.request.arguments = .ok fields)
    (hvalid : validateHermesAgent env.platform fields = .ok task)
    (hboard : createsOn L M = .ok board)
    (hlost : ∀ created, createKanbanHandoff L M (resolveHermesBin M) board task ≠ .ok created) :
    ¬ TaskKept env sessionId taskId d
      (capabilityStep L M env sessionId .handoff run.request.arguments d).1 := by
  cases hcreated : createKanbanHandoff L M (resolveHermesBin M) board task with
  | ok created => exact absurd hcreated (hlost created)
  | error e =>
    rw [capabilityStep_error (broker_handoff_error hparse hvalid hboard hcreated d.ledger)]
    rintro ⟨record, -, -, hhanded, -⟩
    simp at hhanded

lemma createKanbanHandoff_undecodable (hnumeric : NumericTimeouts M)
    {board : Option (String × String)} {task output message : String} {status : ℤ}
    (hend : createEnd M board task = .undecodable status output message) :
    createKanbanHandoff L M (resolveHermesBin M) board task = .error (.valueError message) := by
  rw [createEnd] at hend
  rw [createKanbanHandoff_eq hnumeric, runHermes, hend]
  rfl

/-- A task whose id is read is kept, if the dispatch raises nothing. -/
lemma kept_of_read (hnumeric : NumericTimeouts M) {fields created : JsonDict}
    {task stdout stderr : String} {board : Option (String × String)}
    (hparse : parseArguments L run.request.arguments = .ok fields)
    (hvalid : validateHermesAgent env.platform fields = .ok task)
    (hboard : createsOn L M = .ok board) (hend : createEnd M board task = .exited 0 stdout stderr)
    (hread : parseKanbanCreateOutput L (strip stdout) = .ok created)
    (hid : taskIdOf M created ≠ "")
    (hdispatch : dispatchesAfterCreate M = true →
      ¬ (dispatchEnd M board).escapes ∧ ¬ (dispatchEnd M board).isValueError) :
    TaskKept env sessionId (taskIdOf M created) d
      (capabilityStep L M env sessionId .handoff run.request.arguments d).1 := by
  have hcreated : createKanbanHandoff L M (resolveHermesBin M) board task = .ok created := by
    rw [createKanbanHandoff_of_exit hnumeric hend, hread]
    exact (dispatched_eq_ok hnumeric).mpr ⟨rfl, hdispatch⟩
  have hbroker := broker_handoff hparse hvalid hboard hcreated d.ledger
  rw [if_pos hid] at hbroker
  have hlatest := latestHandoff_record (handoffRecord M board created) d.ledger
  rw [capabilityStep_registers hbroker (saysOk_brokerResult _ _) hlatest
    (returnedTaskId_handoff _ _)]
  exact ⟨_, hlatest, rfl, rfl, rfl⟩

section

variable {P : Platform} {arguments : ExecutionArguments} {ledger : Ledger}

/-- A contained check is one from which nothing escapes. -/
lemma check_escapes_iff (hloads : LoadsRaisesCaught L) (hnumeric : NumericTimeouts M) :
    ¬ Escapes isCaught (brokerExecute L M P .check arguments ledger).2 ↔
      Contained L M unread P arguments ledger .check := by
  rw [escapes_broker hloads]
  constructor
  · intro hnone fields taskId checked hparse hvalid hchecked
    have hno : ¬ Escapes isCaught (checkHeavyAgentTask L M taskId ledger).2 := fun h =>
      hnone ⟨fields, hparse, (escapes_handle_check _ _).mpr ⟨taskId, hvalid, h⟩⟩
    rw [escapes_check hloads hnumeric] at hno
    refine ⟨fun h => hno ⟨checked, hchecked, .inl h⟩, fun shown task hshown hdone => ?_⟩
    by_contra hspeakable
    exact hno ⟨checked, hchecked, .inr ⟨shown, task, hshown, hdone, hspeakable⟩⟩
  · rintro hcontained ⟨fields, hparse, hescapes⟩
    obtain ⟨taskId, hvalid, hescapes⟩ := (escapes_handle_check _ _).mp hescapes
    obtain ⟨checked, hchecked, hcause⟩ := (escapes_check hloads hnumeric _ _).mp hescapes
    have hc := hcontained fields taskId checked hparse hvalid hchecked
    rcases hcause with hshow | ⟨shown, task, hshown, hdone, hspeakable⟩
    · exact hc.starts hshow
    · exact hspeakable (hc.speakable shown task hshown hdone)

/-- Nothing escapes from a contained handoff. -/
lemma handoff_not_escapes (hloads : LoadsRaisesCaught L) (hnumeric : NumericTimeouts M)
    (hcontained : Contained L M unread P arguments ledger .handoff) :
    ¬ Escapes isCaught (brokerExecute L M P .handoff arguments ledger).2 := by
  rw [escapes_broker hloads]
  rintro ⟨fields, hparse, hescapes⟩
  obtain ⟨task, hvalid, hescapes⟩ := (escapes_handle_handoff _ _).mp hescapes
  have hc := hcontained fields task hparse hvalid
  rcases (escapes_handoff_iff hloads hnumeric task ledger).mp hescapes with
    hboards | ⟨board, hboard, hcreate | ⟨stdout, stderr, created, hend, hread, hon, hos⟩⟩
  · exact hc.boards hboards
  · exact hc.create board hboard hcreate
  · exact (hc.dispatch board stdout stderr created hboard hend hread hon).1 hos

end

/-- The id of a task is carried by an output that is read, by one that is not read, or by one that
is no text. -/
lemma createsTask_iff {taskId : String} {ended : ProcessEnd} :
    CreatesTask L M unread taskId ended ↔
      (∃ stdout stderr created, ended = .exited 0 stdout stderr ∧
        parseKanbanCreateOutput L (strip stdout) = .ok created ∧ taskIdOf M created ≠ "" ∧
        taskIdOf M created = taskId) ∨
      (∃ stdout stderr e, ended = .exited 0 stdout stderr ∧ L.loads (strip stdout) = .raised e ∧
        unread (strip stdout) = some taskId) ∨
      ∃ output message, ended = .undecodable 0 output message ∧ unread output = some taskId := by
  unfold CreatesTask
  split
  · rename_i stdout stderr
    cases hread : parseKanbanCreateOutput L (strip stdout) with
    | error e =>
      have hraised := parseKanbanCreateOutput_error.mp hread
      simp [carriedTaskId, hread, hraised]
    | ok created =>
      have hloads (e : PyError) : L.loads (strip stdout) ≠ .raised e := fun h => by
        rw [parseKanbanCreateOutput_error.mpr h] at hread
        cases hread
      by_cases hid : taskIdOf M created = "" <;> simp [carriedTaskId, hread, hloads, hid]
  · simp
  · rename_i hexited hundecodable
    refine iff_of_false id ?_
    rintro (⟨stdout, stderr, _, rfl, -⟩ | ⟨stdout, stderr, _, rfl, -⟩ | ⟨output, message, rfl, -⟩)
    · exact hexited stdout stderr rfl
    · exact hexited stdout stderr rfl
    · exact hundecodable output message rfl

/-- A contained handoff keeps the task it has created. -/
lemma handoff_kept (hnumeric : NumericTimeouts M)
    (hcontained : Contained L M unread env.platform run.request.arguments d.ledger .handoff)
    {taskId : String} (h : Creates L M unread env.platform run.request.arguments taskId) :
    TaskKept env sessionId taskId d
      (capabilityStep L M env sessionId .handoff run.request.arguments d).1 := by
  obtain ⟨fields, task, board, hparse, hvalid, hboard, hcreates⟩ := h
  have hc := hcontained fields task hparse hvalid
  rcases createsTask_iff.mp hcreates with ⟨stdout, stderr, created, hend, hread, hid, rfl⟩ |
    ⟨stdout, stderr, e, hend, hraised, hcarried⟩ | ⟨output, message, hend, hcarried⟩
  · refine kept_of_read hnumeric hparse hvalid hboard hend hread hid fun hdispatches => ?_
    have hdispatch := hc.dispatch board stdout stderr created hboard hend hread hdispatches
    exact ⟨hdispatch.1, hdispatch.2 hid⟩
  · have hnone := hc.readable board stdout stderr e hboard hend hraised
    exact absurd (hnone.symm.trans hcarried) (by simp)
  · have hnone := hc.decodable board output message hboard hend
    exact absurd (hnone.symm.trans hcarried) (by simp)

/-- A handoff is contained if nothing escapes from it and it keeps the task it has created. -/
lemma handoff_contained (hloads : LoadsRaisesCaught L) (hnumeric : NumericTimeouts M)
    (hnone : ¬ Escapes isCaught
      (brokerExecute L M env.platform .handoff run.request.arguments d.ledger).2)
    (hkept : ∀ taskId, Creates L M unread env.platform run.request.arguments taskId →
      TaskKept env sessionId taskId d
        (capabilityStep L M env sessionId .handoff run.request.arguments d).1) :
    Contained L M unread env.platform run.request.arguments d.ledger .handoff := by
  rw [escapes_broker hloads] at hnone
  intro fields task hparse hvalid
  have hno : ¬ Escapes isCaught (handoffToHermesAgent L M task d.ledger).2 := fun h =>
    hnone ⟨fields, hparse, (escapes_handle_handoff _ _).mpr ⟨task, hvalid, h⟩⟩
  rw [escapes_handoff_iff hloads hnumeric] at hno
  -- a task that is created with an id comes back
  have hback : ∀ board taskId, createsOn L M = .ok board →
      CreatesTask L M unread taskId (createEnd M board task) →
      ¬ ∀ created, createKanbanHandoff L M (resolveHermesBin M) board task ≠ .ok created :=
    fun board taskId hboard hcreates hlost => not_kept_of_lost hparse hvalid hboard hlost
      (hkept taskId ⟨fields, task, board, hparse, hvalid, hboard, hcreates⟩)
  constructor
  case boards => exact fun h => hno (.inl h)
  case create => exact fun board hboard h => hno (.inr ⟨board, hboard, .inl h⟩)
  case decodable =>
    intro board output message hboard hend
    by_contra hsome
    obtain ⟨taskId, hcarried⟩ := Option.ne_none_iff_exists'.mp hsome
    refine hback board taskId hboard (createsTask_iff.mpr (.inr (.inr
      ⟨output, message, hend, hcarried⟩))) fun created => ?_
    simp [createKanbanHandoff_undecodable hnumeric hend]
  case readable =>
    intro board stdout stderr e hboard hend hraised
    by_contra hsome
    obtain ⟨taskId, hcarried⟩ := Option.ne_none_iff_exists'.mp hsome
    refine hback board taskId hboard (createsTask_iff.mpr (.inr (.inl
      ⟨stdout, stderr, e, hend, hraised, hcarried⟩))) fun created => ?_
    rw [createKanbanHandoff_of_exit hnumeric hend, parseKanbanCreateOutput_error.mpr hraised]
    simp [bind, Except.bind]
  case dispatch =>
    intro board stdout stderr created hboard hend hread hdispatches
    refine ⟨fun h => hno (.inr ⟨board, hboard, .inr
      ⟨stdout, stderr, created, hend, hread, hdispatches, h⟩⟩), fun hid hraises => ?_⟩
    refine hback board _ hboard (createsTask_iff.mpr (.inl
      ⟨stdout, stderr, created, hend, hread, hid, rfl⟩)) fun created' hcreated => ?_
    rw [createKanbanHandoff_of_exit hnumeric hend, hread] at hcreated
    exact ((dispatched_eq_ok hnumeric).mp hcreated).2 hdispatches |>.2 hraises

end

/-! ### A dispatch that may not be started -/

/-- Hermes creates a task and then dispatches it, which comes to `dispatch`. -/
def creatingMachine (dispatch : ProcessEnd) : Machine where
  getenv _ := none
  which _ := some "/usr/bin/hermes"
  home := "/home/user"
  pathExists _ := false
  isFloat text := text ∈ ["10", "15", "30"]
  textOf _ := ""
  run cmd _ :=
    if "boards" ∈ cmd then .exited 0 "[]" ""
    else if "create" ∈ cmd then .exited 0 "\x7b\"id\": \"t_1\"\x7d\n" ""
    else dispatch

/-- The library on the texts of that machine. -/
def creatingLibrary : Library where
  loads text :=
    if text = "[]" then .value (.arr [])
    else if text = "\x7b\"id\": \"t_1\"\x7d" then .value (.obj [("id", .str "t_1")])
    else .decodeError
  dumps sorted value := compactText (if sorted then Encoding.sortKeys value else value)
  sha256Hex := id
  coerceInt _ := .error "Input should be a valid integer"

def creatingRun : Execution where
  request :=
    { scope := "scope-0123456789abcdef", callId := "call-1", name := "handoff_to_heavy_agent"
      arguments := .object [("task", .str "water the plants")] }
  fingerprint := "fingerprint"

def creatingEnv : Env := ⟨asciiPlatform, ⟨0, "now"⟩, fun _ => false⟩

def creatingWorld : GatewayWorld where
  gateway :=
    { activeSessionId := some "voice-one-01", activeExecutionScope := creatingRun.request.scope }
  activeSession := some "voice-one-01"

/-- Nothing has been handed off yet. -/
def beforeHandoff : Delegation := ⟨[], Handshake.launched, []⟩

lemma creating_loads (text : String) (e : PyError) : creatingLibrary.loads text ≠ .raised e := by
  simp only [creatingLibrary]
  split_ifs <;> simp

lemma creating_numeric (dispatch : ProcessEnd) : NumericTimeouts (creatingMachine dispatch) := by
  simp [NumericTimeouts, timeoutSettings, getenvOr, creatingMachine]

lemma creating_valid :
    validateHermesAgent creatingEnv.platform [("task", .str "water the plants")] =
      .ok "water the plants" := by
  have hdirect : findsRoutingWrapper asciiPlatform "water the plants" = false := by
    decide +kernel
  have hlength : "water the plants".length = 16 := by decide
  simp [validateHermesAgent, validated, taskField, extraErrors, dictGet, creatingEnv, hdirect,
    hlength]

lemma creating_board (dispatch : ProcessEnd) :
    createsOn creatingLibrary (creatingMachine dispatch) = .ok none := rfl

lemma creating_end (dispatch : ProcessEnd) :
    createEnd (creatingMachine dispatch) none "water the plants" =
      .exited 0 "\x7b\"id\": \"t_1\"\x7d\n" "" := rfl

lemma creating_read : parseKanbanCreateOutput creatingLibrary
    (strip "\x7b\"id\": \"t_1\"\x7d\n") = .ok [("id", .str "t_1")] := rfl

lemma creating_carries (dispatch : ProcessEnd) :
    carriedTaskId creatingLibrary (creatingMachine dispatch) (fun _ => none)
      (strip "\x7b\"id\": \"t_1\"\x7d\n") = some "t_1" := by
  rw [carriedTaskId, creating_read]
  rfl

end HermesRealtime.Delegation

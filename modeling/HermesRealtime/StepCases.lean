import HermesRealtime.Changes
import HermesRealtime.LaunchTokens

/-!
What a step does to the tokens, the queues and the coordinators. Most operations leave them alone,
but for the start of a coordinator; tokens are issued by `activate` only, a message is put in a
queue by `publish_task_event` and by the hook that asks the page to stop, and a session that has a
coordinator is active until that is finalized.
-/

namespace HermesRealtime.StepCases

open Values Protocol Phases Timing Tokens Teardown Controller Operations SessionRuns Lifecycle
  CriticalSections Changes LaunchTokens

variable {env : Env} {c c' : VoiceSessionController} {ref : ℕ}

/-- The task of a session is left as it is, or it is started, if the session is active. -/
def TaskKept (active : Prop) (task task' : Option TeardownRun) : Prop :=
  task' = task ∨ active ∧ task = none ∧ ∃ request : TeardownRequest, task' = some { request }

lemma TaskKept.trans {active : Prop} {t₁ t₂ t₃ : Option TeardownRun} (h : TaskKept active t₁ t₂)
    (h' : TaskKept active t₂ t₃) : TaskKept active t₁ t₃ := by
  rcases h' with rfl | ⟨hactive, rfl, request, rfl⟩
  · exact h
  · rcases h with rfl | ⟨-, -, _, h⟩
    · exact .inr ⟨hactive, rfl, request, rfl⟩
    · cases h

lemma TaskKept.of_some {active : Prop} {task task' : Option TeardownRun} {run : TeardownRun}
    (h : TaskKept active task task') (hrun : task = some run) : task' = some run := by
  rcases h with hsame | ⟨-, hnone, -⟩
  · exact hsame.trans hrun
  · cases hnone.symm.trans hrun

/-- Nothing changes but the records of sessions and what observers are told, and of the tasks no
more than that the one of the active session is started. -/
structure Leaves (c c' : VoiceSessionController) : Prop where
  created : c'.created = c.created
  active : c'.activeSession = c.activeSession
  tokens : c'.tokenStore = c.tokenStore
  outbound : c'.outboundMessages = c.outboundMessages
  queues : c'.queues = c.queues
  tasks : ∀ ref, TaskKept (c.activeSession = some ref) (c.heap ref).teardown.task
    (c'.heap ref).teardown.task

lemma Leaves.same (c : VoiceSessionController) : Leaves c c :=
  ⟨rfl, rfl, rfl, rfl, rfl, fun _ => .inl rfl⟩

instance : Std.Refl Leaves := ⟨Leaves.same⟩

instance : IsTrans VoiceSessionController Leaves where
  trans _ _ _ h h' :=
    ⟨h'.created.trans h.created, h'.active.trans h.active, h'.tokens.trans h.tokens,
    h'.outbound.trans h.outbound, h'.queues.trans h.queues,
    fun ref => (h.tasks ref).trans (h.active ▸ h'.tasks ref)⟩

lemma Leaves.update {s : WakeSession} (h : TaskKept (c.activeSession = some ref)
    (c.heap ref).teardown.task s.teardown.task) : Leaves c (setSession c ref s) := by
  refine ⟨rfl, rfl, rfl, rfl, rfl, fun r => ?_⟩
  by_cases hr : r = ref
  · subst hr
    rwa [setSession_heap]
  · exact .inl (by rw [setSession_heap_of_ne c s hr])

/-! ### Operations -/

lemma modifySession_leaves (ref : ℕ) (f : WakeSession → WakeSession)
    (hf : ∀ s, (f s).teardown.task = s.teardown.task := by exact fun _ => rfl) :
    Op.Keeps Leaves (modifySession ref f) :=
  fun c => .update (.inl (hf (c.heap ref)))

lemma notifyStatus_leaves : Op.Keeps Leaves (notifyStatus env) := by
  intro c
  rw [notifyStatus_apply]
  split_ifs <;> exact ⟨rfl, rfl, rfl, rfl, rfl, fun _ => .inl rfl⟩

lemma transition_leaves (ref : ℕ) (phase : SessionPhase) :
    Op.Keeps Leaves (transition ref phase) :=
  .get_bind fun c => (Op.Keeps.ofExcept _).bind (fun _ => modifySession_leaves ref _) c

lemma recordTrace_leaves {ref : ℕ} {name : String} {source : TimingEventSource} {data : JsonDict}
    {ns : Option ℤ} : Op.Keeps Leaves (recordTrace env ref name source data ns) :=
  .get_bind fun c => (Op.Keeps.ofExcept _).bind (fun _ => modifySession_leaves ref _) c

lemma requireActiveSession_leaves (sessionId : String) :
    Op.Keeps Leaves (requireActiveSession sessionId) := by
  intro c
  unfold requireActiveSession
  rw [Op.get_bind]
  rcases c.activeSession with _ | ref
  · exact .same _
  · exact Op.Keeps.ite (.raise _) (.pure _) c

lemma markTeardown_leaves (request : TeardownRequest) :
    Op.Keeps Leaves (markTeardown env ref request) :=
  .get_bind fun c => Op.Keeps.ite (.pure _)
    (recordTrace_leaves.bind fun _ => modifySession_leaves ref _) c

lemma enterStopping_leaves (request : TeardownRequest) :
    Op.Keeps Leaves (enterStopping env ref request) := by
  refine .get_bind fun c => ?_
  have hend : Op.Keeps Leaves (modifySession ref fun s =>
      { s with stopReason := s.stopReason <|> some request.reason }) := modifySession_leaves ref _
  by_cases hphase : (c.heap ref).state.phase ≠ .stopping
  · rw [if_pos hphase]
    exact (transition_leaves ref _).bind (fun _ => notifyStatus_leaves.bind fun _ => hend) c
  · rw [if_neg hphase]
    exact hend c

lemma start_leaves (hactive : c.activeSession = some ref) (request : TeardownRequest) : Leaves c
    (setSession c ref { c.heap ref with teardown := (c.heap ref).teardown.start request }) := by
  refine .update ?_
  rw [TeardownCoordinator.start_task]
  rcases (c.heap ref).teardown.task with _ | run
  · exact .inr ⟨hactive, rfl, request, rfl⟩
  · exact .inl rfl

lemma beginTeardownLocked_leaves (sessionId : String) (request : TeardownRequest) :
    Op.Keeps Leaves (beginTeardownLocked env sessionId request) := by
  intro c
  unfold beginTeardownLocked
  rcases requireActiveSession_cases c sessionId with ⟨ref, hactive, rfl⟩ | hstale
  · rw [Op.bind_of_ok (requireActiveSession_of_active hactive)]
    have henter : Leaves c (enterStopping env ref request c).1 := enterStopping_leaves request c
    rw [Op.bind_apply]
    generalize enterStopping env ref request c = entered at henter ⊢
    obtain ⟨c₁, e | u⟩ := entered
    · exact henter
    · have hmark : Leaves c₁ (markTeardown env ref request c₁).1 := markTeardown_leaves request c₁
      dsimp only
      rw [Op.bind_apply]
      generalize markTeardown env ref request c₁ = marked at hmark ⊢
      obtain ⟨c₂, e | u⟩ := marked
      · exact trans_of Leaves henter hmark
      · have hactive₂ := hmark.active.trans (henter.active.trans hactive)
        exact trans_of Leaves henter (trans_of Leaves hmark (start_leaves hactive₂ request))
  · rw [Op.bind_of_error hstale]
    exact .same c

lemma requestTeardown_leaves (env : Env) (sessionId : String) (request : TeardownRequest) :
    Op.Keeps Leaves (requestTeardown env sessionId request) :=
  (requireActiveSession_leaves sessionId).bind fun _ =>
    .get_bind fun c => beginTeardownLocked_leaves _ request c

lemma expireBrowserStartup_leaves (env : Env) (ref : ℕ) :
    Op.Keeps Leaves (expireBrowserStartup env ref) :=
  .get_bind fun c => Op.Keeps.ite (.pure _)
    ((beginTeardownLocked_leaves _ _).bind fun _ => .pure _) c

lemma handleMessage_leaves (message : LoopbackMessage) :
    Op.Keeps Leaves (handleMessage env ref message) := by
  cases message with
  | pageReady =>
      exact (transition_leaves ref _).bind fun _ => notifyStatus_leaves.bind fun _ => .pure _
  | pageStarted =>
    exact (transition_leaves ref _).bind fun _ => (modifySession_leaves ref _).bind fun _ =>
      notifyStatus_leaves.bind fun _ => .pure _
  | timing message =>
    rw [handleMessage]
    split
    · exact .raise _
    · exact recordTrace_leaves.bind fun _ => .pure _
  | stop =>
    exact .get_bind fun c => (beginTeardownLocked_leaves _ _).bind (fun _ => .pure _) c
  | teardownComplete =>
    exact .get_bind fun c => (beginTeardownLocked_leaves _ _).bind
      (fun _ => (modifySession_leaves ref _).bind fun _ => .pure _) c
  | _ => exact .raise _

lemma answerClosed_leaves (sessionId : String) (message : LoopbackMessage) :
    Op.Keeps Leaves (answerClosed sessionId message) := by
  refine .get_bind fun c => ?_
  cases message with
  | teardownComplete => exact Op.Keeps.ite (.pure _) (.raise _) c
  | _ => exact .same _

lemma processControlMessage_leaves (env : Env) (sessionId : String)
    (decoded : Except PyError LoopbackMessage) :
    Op.Keeps Leaves (processControlMessage env sessionId decoded) := by
  refine (Op.Keeps.ofExcept _).bind fun message => ?_
  cases message with
  | taskEvent => exact .raise _
  | _ =>
    refine .get_bind fun c => ?_
    rcases c.activeSession with _ | ref
    · exact answerClosed_leaves sessionId _ c
    · exact Op.Keeps.ite (.raise _) (handleMessage_leaves _) c

lemma beginRealtimeResponse_leaves (sessionId responseId : String) (receivedNs : ℤ)
    (providerAudioStartMs : Option ℤ) : Op.Keeps Leaves
      (beginRealtimeResponse env sessionId responseId receivedNs providerAudioStartMs) :=
  (requireActiveSession_leaves sessionId).bind fun ref => .get_bind fun c =>
    (Op.Keeps.ofExcept _).bind
      (fun _ => (modifySession_leaves ref _).bind fun _ => recordTrace_leaves) c

lemma recordInterruptionEvent_leaves (sessionId : String) (event : Interruption.InterruptionEvent) :
    Op.Keeps Leaves (recordInterruptionEvent env sessionId event) :=
  (requireActiveSession_leaves sessionId).bind fun ref => Op.Keeps.ite (.raise _) <|
    .get_bind fun c => (modifySession_leaves ref _).bind
      (fun _ => Op.Keeps.ite (recordTrace_leaves.bind fun _ => .pure _) (.pure _)) c

lemma registerHandoff_leaves (sessionId : String) (record : HandoffRecord) :
    Op.Keeps Leaves (registerHandoff env sessionId record) := by
  refine .get_bind fun c => Op.Keeps.ite (.pure _) ?_ c
  split
  · exact fun _ => ⟨rfl, rfl, rfl, rfl, rfl, fun _ => .inl rfl⟩
  · exact .pure _

lemma resolveTaskPermission_leaves (sessionId : String) :
    Op.Keeps Leaves (resolveTaskPermission sessionId) :=
  .get_bind fun c => Op.Keeps.ite (.raise _) (.pure _) c

lemma recordFailures_leaves (failures : List TeardownStepFailure) :
    Op.Keeps Leaves (recordFailures env ref failures) := by
  induction failures with
  | nil => exact recordTrace_leaves
  | cons failure failures ih => exact recordTrace_leaves.bind fun _ => ih

/-! ### Operations that touch the stores -/

/-- The token store has been called, and tokens were issued for the sessions of `P` only. -/
def Calls (P : String → Prop) (c c' : VoiceSessionController) : Prop :=
  ∃ h, c'.tokenStore = replay c.tokenStore h ∧ ∀ x ∈ h, ∀ s t, x.2 = .issue s t → P s

variable {P : String → Prop}

lemma Calls.same (h : c'.tokenStore = c.tokenStore) : Calls P c c' := ⟨[], h, by simp⟩

lemma Calls.single (x : ℚ × TokenCall) (h : c'.tokenStore = (call c.tokenStore x).1)
    (hx : ∀ s t, x.2 = .issue s t → P s) : Calls P c c' :=
  ⟨[x], h, fun y hy => by rwa [List.mem_singleton.mp hy]⟩

/-- What `activate` does to the tables. The record and the queue of a session that it makes are
new. -/
structure Activated (c c' : VoiceSessionController) (sessionId : String) : Prop where
  idle : c.activeSession = none
  calls : Calls (· = sessionId) c c'
  heap : ∀ ref ≠ c.created, c'.heap ref = c.heap ref
  queues : ∀ ref ≠ c.created, c'.queues ref = c.queues ref
  created : c'.created = c.created ∧ c'.activeSession = none ∧ c'.heap = c.heap ∧
      c'.queues = c.queues ∧ c'.outboundMessages = c.outboundMessages ∨
    c'.created = c.created + 1 ∧ (c'.activeSession = none ∨ c'.activeSession = some c.created) ∧
      (c'.heap c.created).teardown.task = none ∧ (c'.heap c.created).sessionId = sessionId ∧
      (c'.queues = c.queues ∨ c'.queues = Function.update c.queues c.created .empty) ∧
      ∀ s q, c'.outboundMessages s = some q →
        c.outboundMessages s = some q ∨ s = sessionId ∧ q = c.created

lemma activate_activated (env : Env) (sessionId token : String) (now : ℚ)
    (launched : Option BrowserHandle) :
    (activate env sessionId token now launched c).1 = c ∨
      Activated c (activate env sessionId token now launched c).1 sessionId := by
  have hissue {c' : VoiceSessionController}
      (h : c'.tokenStore = c.tokenStore.issue sessionId token now) : Calls (· = sessionId) c c' :=
    .single (now, .issue sessionId token) h fun s t hx => by simp_all
  have hfailed {c' : VoiceSessionController}
      (h : c'.tokenStore = (c.tokenStore.issue sessionId token now).invalidate token) :
      Calls (· = sessionId) c c' :=
    ⟨[(now, .issue sessionId token), (now, .invalidate token)], h, by simp_all⟩
  rcases openSession_cases env c sessionId token now with
    ⟨hbusy, hopen⟩ | ⟨hidle, e, hopen⟩ | ⟨hidle, state, hphase, ⟨hraises, hopen⟩ | hopen⟩
  · refine .inl ?_
    rw [activate, Op.bind_of_ok hopen]
    rfl
  · rw [activate, Op.bind_of_error hopen]
    exact .inr ⟨hidle, hissue rfl, fun _ _ => rfl, fun _ _ => rfl,
      .inl ⟨rfl, hidle, rfl, rfl, rfl⟩⟩
  · rw [activate, Op.bind_of_error hopen]
    refine .inr ⟨hidle, hissue rfl, fun _ h => Function.update_of_ne h _ _, fun _ _ => rfl,
      .inr ⟨rfl, .inr rfl, ?_, ?_, .inl rfl, fun _ _ h => .inl h⟩⟩ <;> simp [withNew, newSession]
  · have hentry {v : Option ℕ} {s : String} {q : ℕ} (hv : v = none ∨ v = some c.created)
        (h : Function.update c.outboundMessages sessionId v s = some q) :
        c.outboundMessages s = some q ∨ s = sessionId ∧ q = c.created := by
      by_cases hs : s = sessionId
      · subst hs
        rw [Function.update_self] at h
        rcases hv with rfl | rfl
        · cases h
        · exact .inr ⟨rfl, (Option.some_inj.mp h).symm⟩
      · rw [Function.update_of_ne hs] at h
        exact .inl h
    rw [activate, Op.bind_of_ok hopen]
    rcases launched with _ | handle
    · obtain ⟨failed, hfailedPhase, ⟨hraises, hlaunch⟩ | hlaunch⟩ :=
        launchFailed_cases env c sessionId token now hphase
      · dsimp only
        rw [hlaunch]
        refine .inr ⟨hidle, hissue rfl, fun _ h => Function.update_of_ne h _ _,
          fun _ h => Function.update_of_ne h _ _, .inr ⟨rfl, .inl rfl, ?_, ?_, .inr rfl,
            fun s q h => hentry (.inl rfl) h⟩⟩ <;> simp [atFailure, failedSession, newSession]
      · dsimp only
        rw [hlaunch]
        refine .inr ⟨hidle, hfailed rfl, fun _ h => Function.update_of_ne h _ _,
          fun _ h => Function.update_of_ne h _ _, .inr ⟨rfl, .inl rfl, ?_, ?_, .inr rfl,
            fun s q h => hentry (.inl rfl) h⟩⟩ <;>
          simp [afterFailure, atFailure, failedSession, newSession]
    · refine .inr ⟨hidle, hissue rfl, fun r h => ?_, fun _ h => Function.update_of_ne h _ _,
        .inr ⟨rfl, .inr rfl, ?_, ?_, .inr rfl, fun s q h => hentry (.inr rfl) h⟩⟩
      · exact (setSession_heap_of_ne _ _ h).trans (Function.update_of_ne h _ _)
      · simp [launchSucceeded, Op.bind_apply, atLaunch, withNew, newSession]
      · simp [launchSucceeded, Op.bind_apply, atLaunch, withNew, newSession]

/-- The controller with another queue. -/
def setQueue (c : VoiceSessionController) (queue : ℕ) (q : OutboundQueue) :
    VoiceSessionController :=
  { c with queues := Function.update c.queues queue q }

/-- `publish_task_event` puts the message in line, or does nothing. -/
lemma publish_cases (c : VoiceSessionController) (sessionId : String) (message : TaskEventMessage) :
    publishTaskEvent sessionId message c = (c, .ok false) ∨
    ∃ queue, ∃ hroom : (c.queues queue).messages.length < 64,
      message.sessionId = sessionId ∧ c.sessionIsActive sessionId = true ∧
        c.outboundMessages sessionId = some queue ∧ publishTaskEvent sessionId message c =
          (setQueue c queue ((c.queues queue).put (.taskEvent message) hroom), .ok true) := by
  rw [publishTaskEvent, Op.get_bind]
  simp only [Op.ite_apply]
  split_ifs with hmessage hactive
  · exact .inl rfl
  · rcases hqueue : c.outboundMessages sessionId with _ | queue
    · exact .inl rfl
    · by_cases hroom : (c.queues queue).messages.length < 64
      · simp only [dif_pos hroom, Op.modify_bind]
        exact .inr ⟨queue, hroom, by simpa using hmessage, hactive, rfl, rfl⟩
      · simp only [dif_neg hroom]
        exact .inl rfl
  · exact .inl rfl

/-- The page has been asked to stop: the message is in the queue of the active session, whatever
comes of the trace. -/
structure Asked (c c' : VoiceSessionController) (ref own queue : ℕ) (request : TeardownRequest) :
    Prop where
  active : c.activeSession = some own
  id : (c.heap own).sessionId = (c.heap ref).sessionId
  outbound : c.outboundMessages (c.heap ref).sessionId = some queue
  rest : Leaves (setQueue c queue
    ((c.queues queue).putStop (.stop (c.heap ref).sessionId request.reason))) c'

/-- The queue that the coordinator of a session puts its stop message in. -/
def stopQueue (c : VoiceSessionController) (ref : ℕ) : Option ℕ :=
  match c.activeSession with
  | none => none
  | some active =>
    if (c.heap active).sessionId = (c.heap ref).sessionId then
      c.outboundMessages (c.heap ref).sessionId
    else none

lemma requestBrowserStop_cases (env : Env) (c : VoiceSessionController) (ref : ℕ)
    (request : TeardownRequest) :
    stopQueue c ref = none ∧ (requestBrowserStop env ref request c).1 = c ∨
      ∃ active queue,
        Asked c (requestBrowserStop env ref request c).1 ref active queue request := by
  rw [requestBrowserStop, Op.get_bind, stopQueue]
  rcases requireActiveSession_cases c (c.heap ref).sessionId with ⟨active, hactive, hid⟩ | hstale
  · have hrequire := requireActiveSession_of_active hactive
    rw [hid] at hrequire
    rw [Op.bind_of_ok hrequire, hactive]
    rcases hqueue : c.outboundMessages (c.heap ref).sessionId with _ | queue
    · exact .inl ⟨by simp, rfl⟩
    · exact .inr ⟨active, queue, hactive, hid, hqueue, recordTrace_leaves _⟩
  · rw [Op.bind_of_error hstale]
    refine .inl ⟨?_, rfl⟩
    split
    · rfl
    · next active hactive =>
      rw [if_neg]
      intro hid
      have hrequire := requireActiveSession_of_active hactive
      rw [hid, hstale] at hrequire
      cases hrequire

/-- A page is asked to stop through the queue of its session. -/
lemma Asked.stopQueue {own queue : ℕ} {request : TeardownRequest}
    (h : Asked c c' ref own queue request) : stopQueue c ref = some queue := by
  simp only [StepCases.stopQueue, h.active, h.id, h.outbound, if_true]

/-- The hooks, but for the one that asks the page to stop. -/
lemma callHook_leaves (run : TeardownRun) {hook : TeardownHook}
    (hhook : hook ≠ .requestBrowserStop) :
    Op.Keeps Leaves (callHook env ref run hook) := by
  cases hook with
  | markStopping =>
    exact Op.Keeps.bind
      (.get_bind fun c => (beginTeardownLocked_leaves _ _).bind (fun _ => .pure _) c)
      fun _ => .pure _
  | requestBrowserStop => exact absurd rfl hhook
  | closeBrowser =>
    exact Op.Keeps.bind (.get_bind fun c => (modifySession_leaves ref _).bind (fun _ => .pure _) c)
      fun _ => .pure _
  | releaseProfileLock => exact .get_bind fun c => .same c
  | persistTrace => exact (recordFailures_leaves _).bind fun _ => .get_bind fun c => .same c

/-! ### Steps -/

/-- The steps that the coordinator of a session takes by itself. -/
inductive Own (ref : ℕ) : Action → Prop
  | enter : Own ref (.enter ref)
  | hook : Own ref (.hook ref)
  | hookEnds (result) : Own ref (.hookEnds ref result)
  | ackArrives : Own ref (.ackArrives ref)
  | ackTimeout : Own ref (.ackTimeout ref)
  | finalize : Own ref (.finalize ref)
  | finish : Own ref (.finish ref)

/-- The moves of a task in a step that calls no hook. -/
inductive Moves (w : World) : Action → ℕ → TeardownRun → TeardownRun → Prop
  | entered (ref run) (hpoint : run.point = .created) :
      Moves w (.enter ref) ref run { run with point := .calling .markStopping }
  | ended (ref result hook run) (hpoint : run.point = .suspended hook) :
      Moves w (.hookEnds ref result) ref run (run.hookReturned hook result)
  | acked (ref run) (hpoint : run.point = .awaitingAck) :
      Moves w (.ackArrives ref) ref run (run.ackAwaited true)
  | timedOut (ref run) (hpoint : run.point = .awaitingAck) :
      Moves w (.ackTimeout ref) ref run (run.ackAwaited false)
  | cancelled (n ref answers run) (hn : w.waiters n = some (.awaiting ref false answers)) :
      Moves w (.cancel n) ref run run.cancel
  | finished (ref cancelled run) (hfinished : run.finalization = .finished)
      (hpoint : run.point = .awaitingFinalize cancelled) : Moves w (.finish ref) ref run run.finish

/-- What a step does. -/
inductive StepCase (env : Env) (w w' : World) : Action → Prop
  | minor (a) (hother : ∀ ref, ¬ Own ref a) (h : Leaves w.controller w'.controller) :
      StepCase env w w' a
  | activated (sessionId token now launched) (hfresh : Fresh w.controller sessionId)
      (h : Activated w.controller w'.controller sessionId) :
      StepCase env w w' (.activate sessionId token now launched)
  | consumed (token now) (h : w'.controller = { w.controller with
      tokenStore := (w.controller.tokenStore.consume token now).1 }) :
      StepCase env w w' (.consume token now)
  | published (sessionId message queue) (hroom : (w.controller.queues queue).messages.length < 64)
      (hmessage : message.sessionId = sessionId)
      (hactive : w.controller.sessionIsActive sessionId = true)
      (hqueue : w.controller.outboundMessages sessionId = some queue)
      (h : publishTaskEvent sessionId message w.controller = (w'.controller, .ok true))
      (hput : w'.controller = setQueue w.controller queue
        ((w.controller.queues queue).put (.taskEvent message) hroom)) :
      StepCase env w w' (.publish sessionId message)
  | got (queue)
      (h : w'.controller = setQueue w.controller queue (w.controller.queues queue).get) :
      StepCase env w w' (.get queue)
  | moved (a ref run run') (hrun : (w.controller.heap ref).teardown.task = some run)
      (hmoves : Moves w a ref run run')
      (h : w'.controller = moveTask w.controller ref fun _ => run') : StepCase env w w' a
  | hooked (ref hook run c₁ result) (hrun : taskOf w.controller ref = some run)
      (hpoint : run.point = .calling hook)
      (hsilent : hook = .requestBrowserStop → stopQueue w.controller ref = none)
      (hleaves : Leaves w.controller c₁)
      (h : w'.controller = moveTask c₁ ref (hookCalled hook result)) :
      StepCase env w w' (.hook ref)
  | asked (ref run active queue c₁ result) (hrun : taskOf w.controller ref = some run)
      (hpoint : run.point = .calling .requestBrowserStop)
      (hasked : Asked w.controller c₁ ref active queue run.request)
      (h : w'.controller = moveTask c₁ ref (hookCalled .requestBrowserStop result)) :
      StepCase env w w' (.hook ref)
  | finalized (ref run) (hrun : taskOf w.controller ref = some run)
      (hcreated : run.finalization = .created)
      (h : w'.controller = moveTask (finalize env ref run.request w.controller).1 ref
        fun run' => run'.finalized (finalizeResult (finalize env ref run.request w.controller).2)) :
      StepCase env w w' (.finalize ref)

lemma moveTask_const {run : TeardownRun} (hrun : (c.heap ref).teardown.task = some run)
    (f : TeardownRun → TeardownRun) : moveTask c ref f = moveTask c ref fun _ => f run := by
  unfold moveTask TeardownCoordinator.mapTask
  rw [hrun]
  rfl

@[simp] lemma moveTask_task {run : TeardownRun} (hrun : (c.heap ref).teardown.task = some run)
    (f : TeardownRun → TeardownRun) :
    ((moveTask c ref f).heap ref).teardown.task = some (f run) := by
  rw [moveTask, setSession_heap]
  simp [TeardownCoordinator.mapTask, hrun]

lemma moveTask_of_ne {r : ℕ} (hr : r ≠ ref) (f : TeardownRun → TeardownRun) :
    (moveTask c ref f).heap r = c.heap r := setSession_heap_of_ne _ _ hr

lemma afterRequest_leaves (env : Env) (w : World) (n : ℕ) (sessionId : String)
    (request : TeardownRequest) (shield : Bool) :
    Leaves w.controller (afterRequest env w n sessionId request shield).controller := by
  have hleaves := requestTeardown_leaves env sessionId request w.controller
  unfold afterRequest
  generalize requestTeardown env sessionId request w.controller = outcome at hleaves ⊢
  obtain ⟨c, e | ref⟩ := outcome <;> exact hleaves

lemma afterControl_leaves (env : Env) (w : World) (n : ℕ) (sessionId : String)
    (decoded : Except PyError LoopbackMessage) :
    Leaves w.controller (afterControl env w n sessionId decoded).controller := by
  have hleaves := processControlMessage_leaves env sessionId decoded w.controller
  unfold afterControl
  generalize processControlMessage env sessionId decoded w.controller = outcome at hleaves ⊢
  obtain ⟨c, e | reply⟩ := outcome
  · exact hleaves
  · cases reply <;> exact hleaves

section

variable {w w' : World}

lemma moved_case {a : Action} {run run' : TeardownRun} {f : TeardownRun → TeardownRun}
    (hrun : taskOf w.controller ref = some run) (hmoves : Moves w a ref run run')
    (hv : w'.controller = moveTask w.controller ref f) (hf : f run = run') :
    StepCase env w w' a := by
  have htask := (taskOf_some hrun).2
  refine .moved a ref run run' htask hmoves ?_
  rw [hv, moveTask_const htask, hf]

lemma activate_case {sessionId token : String} {now : ℚ} {launched : Option BrowserHandle}
    (hs : step w (env, .activate sessionId token now launched) = some w') :
    StepCase env w w' (.activate sessionId token now launched) := by
  rw [step, Option.ite_none_right_eq_some, Option.some_inj] at hs
  obtain ⟨⟨hfresh, -⟩, rfl⟩ := hs
  have hcontroller : (afterActivate env w sessionId token now launched).controller =
      (activate env sessionId token now launched w.controller).1 := by
    unfold afterActivate
    generalize activate env sessionId token now launched w.controller = outcome
    obtain ⟨c, e | result⟩ := outcome <;> rfl
  rcases activate_activated (c := w.controller) env sessionId token now launched with h | h
  · rw [← hcontroller] at h
    exact .minor _ (fun _ h => by cases h) (by rw [h]; exact .same _)
  · rw [← hcontroller] at h
    exact .activated sessionId token now launched hfresh h

lemma close_case {n : ℕ} {outcome : SessionOutcome} {error : Option String}
    (hs : step w (env, .close n outcome error) = some w') :
    StepCase env w w' (.close n outcome error) := by
  rw [step, Option.ite_none_left_eq_some] at hs
  obtain ⟨-, hs⟩ := hs
  split at hs <;> obtain rfl := Option.some_inj.mp hs <;>
    exact .minor _ (fun _ h => by cases h) (.same _)

lemma closeRequest_case {n : ℕ} (hs : step w (env, .closeRequest n) = some w') :
    StepCase env w w' (.closeRequest n) := by
  simp only [step] at hs
  split at hs
  · next sessionId request hn =>
    obtain rfl := Option.some_inj.mp hs
    exact .minor _ (fun _ h => by cases h) (afterRequest_leaves env w n sessionId request false)
  · simp at hs

lemma deadlineFires_case {n ref : ℕ} (hs : step w (env, .deadlineFires n ref) = some w') :
    StepCase env w w' (.deadlineFires n ref) := by
  rw [step, Option.ite_none_left_eq_some] at hs
  obtain ⟨-, hs⟩ := hs
  split at hs
  · rw [Option.ite_none_right_eq_some, Option.some_inj] at hs
    obtain ⟨-, rfl⟩ := hs
    exact .minor _ (fun _ h => by cases h) (.update (.inl rfl))
  · simp at hs

lemma expire_case {n : ℕ} (hs : step w (env, .expire n) = some w') :
    StepCase env w w' (.expire n) := by
  simp only [step] at hs
  split at hs
  · next ref hn =>
    have hleaves := expireBrowserStartup_leaves env ref w.controller
    generalize expireBrowserStartup env ref w.controller = outcome at hleaves hs
    obtain ⟨c, e | b⟩ := outcome
    · obtain rfl := Option.some_inj.mp hs
      exact .minor _ (fun _ h => by cases h) hleaves
    · cases b <;> obtain rfl := Option.some_inj.mp hs <;>
        exact .minor _ (fun _ h => by cases h) hleaves
  · simp at hs

lemma deliver_case {n : ℕ} (hs : step w (env, .deliver n) = some w') :
    StepCase env w w' (.deliver n) := by
  simp only [step] at hs
  split at hs
  · split at hs
    · split_ifs at hs <;> obtain rfl := Option.some_inj.mp hs <;>
        exact .minor _ (fun _ h => by cases h) (.same _)
    · simp at hs
  · simp at hs

lemma cancel_case {n : ℕ} (hs : step w (env, .cancel n) = some w') :
    StepCase env w w' (.cancel n) := by
  simp only [step] at hs
  split at hs
  · next ref shield answers hn =>
    split_ifs at hs with hshield <;> obtain rfl := Option.some_inj.mp hs
    · exact .minor _ (fun _ h => by cases h) (.same _)
    · obtain rfl : shield = false := by simpa using hshield
      rcases htask : (w.controller.heap ref).teardown.task with _ | run
      · refine .minor _ (fun _ h => by cases h) (.update (.inl ?_))
        rw [TeardownCoordinator.mapTask, htask]
        rfl
      · refine .moved _ ref run run.cancel htask (.cancelled n ref answers run hn) ?_
        exact moveTask_const htask _
  · obtain rfl := Option.some_inj.mp hs
    exact .minor _ (fun _ h => by cases h) (.same _)
  · simp at hs

lemma enter_case {ref : ℕ} (hs : step w (env, .enter ref) = some w') :
    StepCase env w w' (.enter ref) := by
  simp only [step] at hs
  split at hs
  · next run hrun =>
    rw [Option.ite_none_right_eq_some, Option.some_inj] at hs
    obtain ⟨hpoint, rfl⟩ := hs
    exact moved_case hrun (.entered ref run hpoint) rfl rfl
  · simp at hs

lemma hook_case {ref : ℕ} (hs : step w (env, .hook ref) = some w') :
    StepCase env w w' (.hook ref) := by
  simp only [step] at hs
  split at hs
  · next run hrun =>
    split at hs
    · next hook hpoint =>
      obtain rfl := Option.some_inj.mp hs
      by_cases hhook : hook = .requestBrowserStop
      · subst hhook
        have hfst : (callHook env ref run .requestBrowserStop w.controller).1 =
            (requestBrowserStop env ref run.request w.controller).1 := Op.bind_pure_fst _ _ _
        rcases requestBrowserStop_cases env w.controller ref run.request with
          ⟨hsilent, h⟩ | ⟨own, queue, h⟩
        · refine .hooked ref _ run _ _ hrun hpoint (fun _ => hsilent) ?_ rfl
          rw [hfst, h]
          exact .same _
        · exact .asked ref run own queue _ _ hrun hpoint (by rw [hfst]; exact h) rfl
      · exact .hooked ref hook run _ _ hrun hpoint (fun h => absurd h hhook)
          (callHook_leaves run hhook _) rfl
    · simp at hs
  · simp at hs

lemma hookEnds_case {ref : ℕ} {result : StepResult}
    (hs : step w (env, .hookEnds ref result) = some w') :
    StepCase env w w' (.hookEnds ref result) := by
  simp only [step] at hs
  split at hs
  · next run hrun =>
    split at hs
    · next hook hpoint =>
      obtain rfl := Option.some_inj.mp hs
      exact moved_case hrun (.ended ref result hook run hpoint) rfl rfl
    · simp at hs
  · simp at hs

lemma ackArrives_case {ref : ℕ} (hs : step w (env, .ackArrives ref) = some w') :
    StepCase env w w' (.ackArrives ref) := by
  simp only [step] at hs
  split at hs
  · next run hrun =>
    rw [Option.ite_none_right_eq_some, Option.some_inj] at hs
    obtain ⟨⟨hpoint, -⟩, rfl⟩ := hs
    exact moved_case hrun (.acked ref run hpoint) rfl rfl
  · simp at hs

lemma ackTimeout_case {ref : ℕ} (hs : step w (env, .ackTimeout ref) = some w') :
    StepCase env w w' (.ackTimeout ref) := by
  simp only [step] at hs
  split at hs
  · next run hrun =>
    rw [Option.ite_none_right_eq_some, Option.some_inj] at hs
    obtain ⟨hpoint, rfl⟩ := hs
    exact moved_case hrun (.timedOut ref run hpoint) rfl rfl
  · simp at hs

lemma finalize_case {ref : ℕ} (hs : step w (env, .finalize ref) = some w') :
    StepCase env w w' (.finalize ref) := by
  simp only [step] at hs
  split at hs
  · next run hrun =>
    rw [Option.ite_none_right_eq_some, Option.some_inj] at hs
    obtain ⟨hcreated, rfl⟩ := hs
    exact .finalized ref run hrun hcreated rfl
  · simp at hs

lemma finish_case {ref : ℕ} (hs : step w (env, .finish ref) = some w') :
    StepCase env w w' (.finish ref) := by
  simp only [step] at hs
  split at hs
  · next run hrun =>
    rw [Option.ite_none_right_eq_some, Option.some_inj] at hs
    obtain ⟨⟨hfinished, cancelled, hpoint⟩, rfl⟩ := hs
    exact moved_case hrun (.finished ref cancelled run hfinished hpoint) rfl rfl
  · simp at hs

lemma publish_case {sessionId : String} {message : TaskEventMessage}
    (hs : step w (env, .publish sessionId message) = some w') :
    StepCase env w w' (.publish sessionId message) := by
  obtain rfl := Option.some_inj.mp hs
  rcases publish_cases w.controller sessionId message with h |
    ⟨queue, hroom, hmessage, hactive, hqueue, h⟩
  · refine .minor _ (fun _ h => by cases h) ?_
    change Leaves w.controller (publishTaskEvent sessionId message w.controller).1
    rw [h]
    exact .same _
  · refine .published sessionId message queue hroom hmessage hactive hqueue ?_ ?_
    · change publishTaskEvent sessionId message w.controller =
        ((publishTaskEvent sessionId message w.controller).1, .ok true)
      rw [h]
    · change (publishTaskEvent sessionId message w.controller).1 = _
      rw [h]

/-- **Every step is one of these.** -/
theorem step_case {a : Action} (hs : step w (env, a) = some w') : StepCase env w w' a := by
  cases a with
  | activate sessionId token now launched => exact activate_case hs
  | control n sessionId decoded =>
    rw [step, Option.ite_none_left_eq_some, Option.some_inj] at hs
    obtain ⟨-, rfl⟩ := hs
    exact .minor _ (fun _ h => by cases h) (afterControl_leaves env w n sessionId decoded)
  | request n sessionId request shield =>
    rw [step, Option.ite_none_left_eq_some, Option.some_inj] at hs
    obtain ⟨-, rfl⟩ := hs
    exact .minor _ (fun _ h => by cases h) (afterRequest_leaves env w n sessionId request shield)
  | close n outcome error => exact close_case hs
  | closeRequest n => exact closeRequest_case hs
  | deadlineFires n ref => exact deadlineFires_case hs
  | expire n => exact expire_case hs
  | deliver n => exact deliver_case hs
  | cancel n => exact cancel_case hs
  | enter ref => exact enter_case hs
  | hook ref => exact hook_case hs
  | hookEnds ref result => exact hookEnds_case hs
  | ackArrives ref => exact ackArrives_case hs
  | ackTimeout ref => exact ackTimeout_case hs
  | finalize ref => exact finalize_case hs
  | finish ref => exact finish_case hs
  | consume token now =>
    obtain rfl := Option.some_inj.mp hs
    exact .consumed token now (consume_store _ _ _)
  | publish sessionId message => exact publish_case hs
  | get queue =>
    obtain rfl := Option.some_inj.mp hs
    exact .got queue rfl
  | handoff sessionId record =>
    obtain rfl := Option.some_inj.mp hs
    exact .minor _ (fun _ h => by cases h) (registerHandoff_leaves sessionId record w.controller)
  | permission sessionId =>
    obtain rfl := Option.some_inj.mp hs
    exact .minor _ (fun _ h => by cases h) (resolveTaskPermission_leaves sessionId w.controller)
  | beginResponse sessionId responseId receivedNs started =>
    obtain rfl := Option.some_inj.mp hs
    exact .minor _ (fun _ h => by cases h)
      (beginRealtimeResponse_leaves sessionId responseId receivedNs started w.controller)
  | interruption sessionId event =>
    obtain rfl := Option.some_inj.mp hs
    exact .minor _ (fun _ h => by cases h)
      (recordInterruptionEvent_leaves sessionId event w.controller)

end

/-! ### One task -/

/-- What a step does to the task of a session. -/
inductive TaskStep (w : World) (a : Action) (ref : ℕ) (run : TeardownRun) : TeardownRun → Prop
  | same : TaskStep w a ref run run
  | moved {run' : TeardownRun} (hmoves : Moves w a ref run run') : TaskStep w a ref run run'
  | called (hook result) (ha : a = .hook ref) (hpoint : run.point = .calling hook) :
      TaskStep w a ref run (hookCalled hook result run)
  | finalized (result) (ha : a = .finalize ref) (hcreated : run.finalization = .created) :
      TaskStep w a ref run (run.finalized result)

/-- A task that has been called goes on. -/
lemma taskStep_called {w w' : World} {run run₀ : TeardownRun} {r : ℕ} {hook : TeardownHook}
    {c₁ : VoiceSessionController} {result : Except PyError Bool}
    (hrun : (w.controller.heap ref).teardown.task = some run)
    (hrun₀ : taskOf w.controller r = some run₀) (hpoint : run₀.point = .calling hook)
    (htasks : ∀ r, TaskKept (w.controller.activeSession = some r)
      (w.controller.heap r).teardown.task (c₁.heap r).teardown.task)
    (h : w'.controller = moveTask c₁ r (hookCalled hook result)) :
    ∃ run', (w'.controller.heap ref).teardown.task = some run' ∧
      TaskStep w (.hook r) ref run run' := by
  have hrun₁ := (htasks ref).of_some hrun
  rw [h]
  by_cases hr : ref = r
  · subst hr
    obtain rfl : run = run₀ := Option.some_inj.mp (hrun.symm.trans (taskOf_some hrun₀).2)
    exact ⟨_, moveTask_task hrun₁ _, .called hook result rfl hpoint⟩
  · exact ⟨run, by rw [moveTask_of_ne hr, hrun₁], .same⟩

/-- **A step takes the task of a session a step further at most.** -/
theorem task_step {w w' : World} {a : Action} {run : TeardownRun}
    (hg : Bookkeeping.Good w.controller) (href : ref < w.controller.created)
    (hrun : (w.controller.heap ref).teardown.task = some run)
    (hs : step w (env, a) = some w') :
    ∃ run', (w'.controller.heap ref).teardown.task = some run' ∧ TaskStep w a ref run run' := by
  cases step_case hs with
  | minor a hother h => exact ⟨run, (h.tasks ref).of_some hrun, .same⟩
  | activated sessionId token now launched hfresh h =>
    exact ⟨run, by rw [h.heap ref href.ne, hrun], .same⟩
  | consumed token now h => exact ⟨run, by rw [h, hrun], .same⟩
  | published sessionId message queue hroom hmessage hactive hqueue h hput =>
    exact ⟨run, by rw [hput]; exact hrun, .same⟩
  | got queue h => exact ⟨run, by rw [h]; exact hrun, .same⟩
  | moved a r run₀ run' hrun₀ hmoves h =>
    rw [h]
    by_cases hr : ref = r
    · subst hr
      obtain rfl : run = run₀ := Option.some_inj.mp (hrun.symm.trans hrun₀)
      exact ⟨run', moveTask_task hrun _, .moved hmoves⟩
    · exact ⟨run, by rw [moveTask_of_ne hr, hrun], .same⟩
  | hooked r hook run₀ c₁ result hrun₀ hpoint _ hleaves h =>
    exact taskStep_called hrun hrun₀ hpoint hleaves.tasks h
  | asked r run₀ own queue c₁ result hrun₀ hpoint hasked h =>
    exact taskStep_called hrun hrun₀ hpoint hasked.rest.tasks h
  | finalized r run₀ hrun₀ hcreated h =>
    have htask₀ := (taskOf_some hrun₀).2
    have hsame := (finalize_effects (k := ⟨True, True, False, True, True⟩) env hg htask₀
      fun _ h => h.elim).2.2
    rw [h]
    by_cases hr : ref = r
    · subst hr
      obtain rfl : run = run₀ := Option.some_inj.mp (hrun.symm.trans htask₀)
      exact ⟨_, moveTask_task (by rw [hsame.2, hrun]) _, .finalized _ rfl hcreated⟩
    · exact ⟨run, by rw [moveTask_of_ne hr, hsame.2, hrun], .same⟩

end HermesRealtime.StepCases

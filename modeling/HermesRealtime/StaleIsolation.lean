import HermesRealtime.Changes

/-!
Whatever comes from another session leaves the active one alone: operations with its id, tokens
that are not the active session's, and all that the coordinator of an earlier session still does.
-/

namespace HermesRealtime.StaleIsolation

open Values Text Protocol Phases Timing Tokens Interruption Teardown TaskEvents Controller
  Operations
  SessionRuns Lifecycle Bookkeeping CriticalSections Changes Runs

variable {w w' : World} {env : Env} {c c' : VoiceSessionController} {ref r : ℕ}

/-- The active session is as it was: its record, with the phase, the history, the trace, the
interruptions, the stop reason, the coordinator and the browser handle, its queue, its launch
token, and its future. -/
structure Untouched (ref : ℕ) (c c' : VoiceSessionController) : Prop where
  active : c'.activeSession = c.activeSession
  record : c'.heap ref = c.heap ref
  outbound : c'.outboundMessages (c.heap ref).sessionId = c.outboundMessages (c.heap ref).sessionId
  queues : c'.queues = c.queues
  token : c'.tokenStore.records (c.heap ref).token = c.tokenStore.records (c.heap ref).token
  generation : c'.tokenStore.generation = c.tokenStore.generation
  terminalFuture : c'.terminalFutures (c.heap ref).sessionId =
    c.terminalFutures (c.heap ref).sessionId
  futures : c'.futures = c.futures

/-- The action is that of another session than `ref`: it names another id, in its argument or in
what it brings, another token, or the coordinator or the deadline of another session; or it asks
for a new session. -/
def Foreign (w : World) (ref : ℕ) : Action → Prop
  | .activate _ _ _ _ => True
  | .control _ sessionId decoded => sessionId ≠ (w.controller.heap ref).sessionId ∨
      ∃ message s, decoded = .ok message ∧ message.sessionId? = some s ∧
        s ≠ (w.controller.heap ref).sessionId
  | .request _ sessionId _ _ => sessionId ≠ (w.controller.heap ref).sessionId
  | .close _ _ _ => False
  | .closeRequest n => ∃ sessionId request, w.waiters n = some (.closing sessionId request) ∧
      sessionId ≠ (w.controller.heap ref).sessionId
  | .deadlineFires _ r => r ≠ ref
  | .expire n => ∃ r, w.waiters n = some (.expiring r) ∧ r ≠ ref
  | .deliver n => ∃ r shield answers, w.waiters n = some (.awaiting r shield answers) ∧ r ≠ ref
  | .cancel n => ∃ r shield answers, w.waiters n = some (.awaiting r shield answers) ∧ r ≠ ref
  | .enter r => r ≠ ref
  | .hook r => r ≠ ref
  | .hookEnds r _ => r ≠ ref
  | .ackArrives r => r ≠ ref
  | .ackTimeout r => r ≠ ref
  | .finalize r => r ≠ ref
  | .finish r => r ≠ ref
  | .consume token _ => token ≠ (w.controller.heap ref).token
  | .publish sessionId message => sessionId ≠ (w.controller.heap ref).sessionId ∨
      message.sessionId ≠ (w.controller.heap ref).sessionId
  | .get _ => False
  | .handoff sessionId _ => sessionId ≠ (w.controller.heap ref).sessionId
  | .permission sessionId => sessionId ≠ (w.controller.heap ref).sessionId
  | .beginResponse sessionId _ _ _ => sessionId ≠ (w.controller.heap ref).sessionId
  | .interruption sessionId event => sessionId ≠ (w.controller.heap ref).sessionId ∨
      event.localSessionId ≠ (w.controller.heap ref).sessionId

lemma Untouched.refl (ref : ℕ) (c : VoiceSessionController) : Untouched ref c c :=
  ⟨rfl, rfl, rfl, rfl, rfl, rfl, rfl, rfl⟩

/-- Another session's record does not matter. -/
lemma untouched_setSession (hr : r ≠ ref) (c : VoiceSessionController) (s : WakeSession) :
    Untouched ref c (setSession c r s) :=
  ⟨rfl, Function.update_of_ne hr.symm .., rfl, rfl, rfl, rfl, rfl, rfl⟩

/-! ### Operations with another id -/

section

variable {sessionId : String}

/-- With one session active, another id is stale. -/
lemma stale_of_ne (hactive : c.activeSession = some ref)
    (hid : sessionId ≠ (c.heap ref).sessionId) :
    requireActiveSession sessionId c = (c, .error (.staleControlMessage "stale session id")) := by
  refine requireActiveSession_of_stale fun active hactive' => ?_
  obtain rfl : ref = active := by simpa [hactive] using hactive'
  exact hid.symm

lemma begin_stale (hactive : c.activeSession = some ref) (hid : sessionId ≠ (c.heap ref).sessionId)
    (request : TeardownRequest) : (beginTeardownLocked env sessionId request c).1 = c := by
  rw [beginTeardownLocked, Op.bind_of_error (stale_of_ne hactive hid)]

lemma request_stale (env : Env) (hactive : c.activeSession = some ref)
    (hid : sessionId ≠ (c.heap ref).sessionId) (request : TeardownRequest) :
    ∃ e, requestTeardown env sessionId request c = (c, .error e) :=
  ⟨_, Op.bind_of_error (stale_of_ne hactive hid)⟩

lemma sessionIsActive_stale (hactive : c.activeSession = some ref)
    (hid : sessionId ≠ (c.heap ref).sessionId) : c.sessionIsActive sessionId = false := by
  simp [VoiceSessionController.sessionIsActive, hactive, hid.symm]

/-- A message that names another session is refused, whoever brings it. -/
lemma control_stale (env : Env) (hactive : c.activeSession = some ref)
    {decoded : Except PyError LoopbackMessage}
    (h : sessionId ≠ (c.heap ref).sessionId ∨ ∃ message s, decoded = .ok message ∧
      message.sessionId? = some s ∧ s ≠ (c.heap ref).sessionId) :
    ∃ e, processControlMessage env sessionId decoded c = (c, .error e) := by
  rcases hparse : parseLoopbackMessage decoded sessionId with e | message
  · exact ⟨e, by rw [processControlMessage, Op.bind_apply, Op.ofExcept_apply, hparse]⟩
  · obtain ⟨rfl, haddressed⟩ := parsed_message hparse
    have hid : sessionId ≠ (c.heap ref).sessionId := by
      rcases h with h | ⟨m, s, hm, hs, hne⟩
      · exact h
      · obtain rfl := Except.ok.inj hm
        rwa [← haddressed s hs]
    rw [processControlMessage, Op.bind_apply, Op.ofExcept_apply, hparse]
    cases message with
    | taskEvent m => exact ⟨_, rfl⟩
    | _ => exact ⟨.staleControlMessage "stale session id", by simp [hactive, hid.symm]⟩

lemma publish_stale (hactive : c.activeSession = some ref) {message : TaskEventMessage}
    (h : sessionId ≠ (c.heap ref).sessionId ∨ message.sessionId ≠ (c.heap ref).sessionId) :
    publishTaskEvent sessionId message c = (c, .ok false) := by
  rw [publishTaskEvent, Op.get_bind]
  by_cases hmessage : message.sessionId = sessionId
  · have hid : sessionId ≠ (c.heap ref).sessionId := by
      rcases h with h | h
      · exact h
      · rwa [← hmessage]
    simp [hmessage, sessionIsActive_stale hactive hid]
  · simp [hmessage]

lemma handoff_stale (hactive : c.activeSession = some ref)
    (hid : sessionId ≠ (c.heap ref).sessionId) (record : HandoffRecord) :
    registerHandoff env sessionId record c = (c, .ok false) := by
  simp [registerHandoff, sessionIsActive_stale hactive hid]

lemma permission_stale (hactive : c.activeSession = some ref)
    (hid : sessionId ≠ (c.heap ref).sessionId) : (resolveTaskPermission sessionId c).1 = c := by
  simp [resolveTaskPermission, sessionIsActive_stale hactive hid]

lemma beginResponse_stale (hactive : c.activeSession = some ref)
    (hid : sessionId ≠ (c.heap ref).sessionId) (responseId : String) (receivedNs : ℤ)
    (started : Option ℤ) :
    (beginRealtimeResponse env sessionId responseId receivedNs started c).1 = c := by
  unfold beginRealtimeResponse
  rw [Op.bind_of_error (stale_of_ne hactive hid)]

lemma interruption_stale (hactive : c.activeSession = some ref) {event : InterruptionEvent}
    (h : sessionId ≠ (c.heap ref).sessionId ∨ event.localSessionId ≠ (c.heap ref).sessionId) :
    (recordInterruptionEvent env sessionId event c).1 = c := by
  by_cases hid : sessionId = (c.heap ref).sessionId
  · subst hid
    have hevent := h.resolve_left fun h => h rfl
    rw [recordInterruptionEvent, Op.bind_of_ok (requireActiveSession_of_active hactive)]
    simp [hevent]
  · rw [recordInterruptionEvent, Op.bind_of_error (stale_of_ne hactive hid)]

end

lemma consume_other (ref : ℕ) {token : String} (now : ℚ) (htoken : token ≠ (c.heap ref).token) :
    Untouched ref c (consumeActivationToken token now c).1 := by
  have hstore : (consumeActivationToken token now c).1 =
      { c with tokenStore := (c.tokenStore.consume token now).1 } := consume_store c token now
  rw [hstore]
  refine ⟨rfl, rfl, rfl, rfl, ?_, ?_, rfl, rfl⟩
  · exact LaunchTokenStore.consume_of_ne _ now htoken.symm
  · exact LaunchTokenStore.consume_generation _ _ _

/-! ### Hooks of another session -/

/-- Recording in the trace of a session changes that session's record. -/
lemma record_elsewhere (env : Env) (c : VoiceSessionController) (r : ℕ) (name : String)
    (source : TimingEventSource) (data : JsonDict) (ns : Option ℤ) :
    ∃ s, (recordTrace env r name source data ns c).1 = setSession c r s := by
  rw [recordTrace_apply]
  rcases (c.heap r).trace.record env.clock name source data ns with e | trace
  · exact ⟨c.heap r, (setSession_self c r).symm⟩
  · exact ⟨_, rfl⟩

lemma recordFailures_elsewhere (env : Env) (c : VoiceSessionController) (r : ℕ)
    (failures : List TeardownStepFailure) :
    ∃ s, (recordFailures env r failures c).1 = setSession c r s := by
  induction failures generalizing c with
  | nil => exact record_elsewhere env c r _ _ _ _
  | cons failure failures ih =>
    rw [recordFailures, Op.bind_apply]
    obtain ⟨s, hs⟩ := record_elsewhere env c r "teardown_step_failed" .controller
      [("step", .str failure.step.value), ("kind", .str failure.kind.value)] none
    rcases hrecord : recordTrace env r "teardown_step_failed" .controller
      [("step", .str failure.step.value), ("kind", .str failure.kind.value)] none c with ⟨c', e | u⟩
    · exact ⟨s, by simpa [hrecord] using hs⟩
    · obtain ⟨s', hs'⟩ := ih c'
      obtain rfl : c' = setSession c r s := by simpa [hrecord] using hs
      exact ⟨s', by simpa using hs'⟩

/-- A hook changes the record of its own session, when another one is active. -/
lemma hook_elsewhere (env : Env) (hg : Good c) (hactive : c.activeSession = some ref) (hr : r ≠ ref)
    (href : r < c.created) (run : TeardownRun) (hook : TeardownHook) :
    ∃ s, (callHook env r run hook c).1 = setSession c r s := by
  have hid : (c.heap r).sessionId ≠ (c.heap ref).sessionId := fun h =>
    hr (hg.ids r href ref (hg.active ref hactive).1 h)
  have hsame (h : (callHook env r run hook c).1 = c) :
      ∃ s, (callHook env r run hook c).1 = setSession c r s :=
    ⟨c.heap r, h.trans (setSession_self c r).symm⟩
  cases hook with
  | markStopping =>
    refine hsame ?_
    simp only [callHook, markStopping, Op.bind_pure_fst, Op.get_bind]
    exact begin_stale hactive hid run.request
  | requestBrowserStop =>
    refine hsame ?_
    simp only [callHook, Op.bind_pure_fst]
    rw [requestBrowserStop, Op.get_bind, Op.bind_of_error (stale_of_ne hactive hid)]
  | closeBrowser => exact ⟨_, rfl⟩
  | releaseProfileLock => exact hsame rfl
  | persistTrace =>
    obtain ⟨s, hs⟩ := recordFailures_elsewhere env c r run.failures
    refine ⟨s, ?_⟩
    rw [← hs]
    simp only [callHook, persistTrace, Op.bind_apply]
    rcases recordFailures env r run.failures c with ⟨c', e | u⟩ <;> rfl

/-- The task of another session moves. -/
lemma move_elsewhere (hr : r ≠ ref) (f : TeardownRun → TeardownRun) :
    Untouched ref c (moveTask c r f) := untouched_setSession hr c _

/-! ### Steps -/

lemma request_untouched (hactive : w.controller.activeSession = some ref) {n : ℕ}
    {sessionId : String} (hid : sessionId ≠ (w.controller.heap ref).sessionId)
    (request : TeardownRequest) (shield : Bool) :
    (afterRequest env w n sessionId request shield).controller = w.controller := by
  obtain ⟨e, hrequest⟩ := request_stale env hactive hid request
  rw [afterRequest, hrequest]
  rfl

lemma foreign_activate {token : String} {now : ℚ} {launched : Option BrowserHandle}
    (hactive : w.controller.activeSession = some ref)
    (hs : step w (env, .activate sessionId token now launched) = some w') :
    Untouched ref w.controller w'.controller := by
  rw [step, Option.ite_none_right_eq_some, Option.some_inj] at hs
  obtain ⟨-, rfl⟩ := hs
  have hbusy : openSession env sessionId token now w.controller = (w.controller, .ok none) := by
    simp [openSession, hactive]
  have hsame : activate env sessionId token now launched w.controller =
      (w.controller, .ok { status := .busy }) := by
    rw [activate, Op.bind_of_ok hbusy]
    rfl
  simp only [afterActivate, hsame]
  exact .refl ref _

lemma foreign_control {n : ℕ} {decoded : Except PyError LoopbackMessage}
    (hactive : w.controller.activeSession = some ref)
    (hforeign : Foreign w ref (.control n sessionId decoded))
    (hs : step w (env, .control n sessionId decoded) = some w') :
    Untouched ref w.controller w'.controller := by
  rw [step, Option.ite_none_left_eq_some, Option.some_inj] at hs
  obtain ⟨-, rfl⟩ := hs
  obtain ⟨e, hrefused⟩ := control_stale env hactive hforeign
  rw [afterControl, hrefused]
  exact .refl ref _

lemma foreign_request {n : ℕ} {request : TeardownRequest} {shield : Bool}
    (hactive : w.controller.activeSession = some ref)
    (hforeign : Foreign w ref (.request n sessionId request shield))
    (hs : step w (env, .request n sessionId request shield) = some w') :
    Untouched ref w.controller w'.controller := by
  rw [step, Option.ite_none_left_eq_some, Option.some_inj] at hs
  obtain ⟨-, rfl⟩ := hs
  rw [request_untouched hactive hforeign]
  exact .refl ref _

lemma foreign_closeRequest {n : ℕ} (hactive : w.controller.activeSession = some ref)
    (hforeign : Foreign w ref (.closeRequest n)) (hs : step w (env, .closeRequest n) = some w') :
    Untouched ref w.controller w'.controller := by
  obtain ⟨sessionId, request, hn, hid⟩ := hforeign
  simp only [step, hn, Option.some_inj] at hs
  subst hs
  rw [request_untouched hactive hid]
  exact .refl ref _

lemma foreign_deadlineFires {n : ℕ} (hforeign : Foreign w ref (.deadlineFires n r))
    (hs : step w (env, .deadlineFires n r) = some w') :
    Untouched ref w.controller w'.controller := by
  rw [step, Option.ite_none_left_eq_some] at hs
  obtain ⟨-, hs⟩ := hs
  split at hs
  · split_ifs at hs
    obtain rfl := Option.some_inj.mp hs
    exact untouched_setSession hforeign _ _
  · simp at hs

lemma foreign_expire {n : ℕ} (hactive : w.controller.activeSession = some ref)
    (hforeign : Foreign w ref (.expire n)) (hs : step w (env, .expire n) = some w') :
    Untouched ref w.controller w'.controller := by
  obtain ⟨r, hn, hr⟩ := hforeign
  have hskip : expireBrowserStartup env r w.controller = (w.controller, .ok false) := by
    simp [expireBrowserStartup, hactive, hr.symm]
  simp only [step, hn, hskip, Option.some_inj] at hs
  subst hs
  exact .refl ref _

lemma foreign_deliver {n : ℕ} (hforeign : Foreign w ref (.deliver n))
    (hs : step w (env, .deliver n) = some w') :
    Untouched ref w.controller w'.controller := by
  obtain ⟨r, shield, answers, hn, -⟩ := hforeign
  simp only [step, hn] at hs
  split at hs
  · split_ifs at hs <;> obtain rfl := Option.some_inj.mp hs <;> exact .refl ref _
  · simp at hs

lemma foreign_cancel {n : ℕ} (hforeign : Foreign w ref (.cancel n))
    (hs : step w (env, .cancel n) = some w') :
    Untouched ref w.controller w'.controller := by
  obtain ⟨r, shield, answers, hn, hr⟩ := hforeign
  simp only [step, hn] at hs
  split_ifs at hs <;> obtain rfl := Option.some_inj.mp hs
  · exact .refl ref _
  · exact move_elsewhere hr _

lemma foreign_enter (hforeign : Foreign w ref (.enter r)) (hs : step w (env, .enter r) = some w') :
    Untouched ref w.controller w'.controller := by
  simp only [step] at hs
  split at hs
  · split_ifs at hs
    obtain rfl := Option.some_inj.mp hs
    exact move_elsewhere hforeign _
  · simp at hs

lemma foreign_hook (hgood : Good w.controller) (hactive : w.controller.activeSession = some ref)
    (hforeign : Foreign w ref (.hook r)) (hs : step w (env, .hook r) = some w') :
    Untouched ref w.controller w'.controller := by
  simp only [step] at hs
  split at hs
  · next run hrun =>
    split at hs
    · next hook hpoint =>
      obtain rfl := Option.some_inj.mp hs
      obtain ⟨s, hs⟩ := hook_elsewhere env hgood hactive hforeign (taskOf_some hrun).1 run hook
      change Untouched ref w.controller (moveTask _ r _)
      rw [hs, moveTask, setSession_heap, setSession_setSession]
      exact untouched_setSession hforeign _ _
    · simp at hs
  · simp at hs

lemma foreign_hookEnds {result : StepResult} (hforeign : Foreign w ref (.hookEnds r result))
    (hs : step w (env, .hookEnds r result) = some w') :
    Untouched ref w.controller w'.controller := by
  simp only [step] at hs
  split at hs
  · split at hs
    · obtain rfl := Option.some_inj.mp hs
      exact move_elsewhere hforeign _
    · simp at hs
  · simp at hs

lemma foreign_ackArrives (hforeign : Foreign w ref (.ackArrives r))
    (hs : step w (env, .ackArrives r) = some w') :
    Untouched ref w.controller w'.controller := by
  simp only [step] at hs
  split at hs
  · split_ifs at hs
    obtain rfl := Option.some_inj.mp hs
    exact move_elsewhere hforeign _
  · simp at hs

lemma foreign_ackTimeout (hforeign : Foreign w ref (.ackTimeout r))
    (hs : step w (env, .ackTimeout r) = some w') :
    Untouched ref w.controller w'.controller := by
  simp only [step] at hs
  split at hs
  · split_ifs at hs
    obtain rfl := Option.some_inj.mp hs
    exact move_elsewhere hforeign _
  · simp at hs

lemma foreign_finalize (hactive : w.controller.activeSession = some ref)
    (hforeign : Foreign w ref (.finalize r)) (hs : step w (env, .finalize r) = some w') :
    Untouched ref w.controller w'.controller := by
  simp only [step] at hs
  split at hs
  · next run hrun =>
    split_ifs at hs
    obtain rfl := Option.some_inj.mp hs
    have hskip : finalize env r run.request w.controller = (w.controller, .ok ()) := by
      rw [finalize, Op.get_bind, if_pos]
      · rfl
      · rw [hactive]
        exact fun h => hforeign (Option.some_inj.mp h).symm
    rw [hskip]
    exact move_elsewhere hforeign _
  · simp at hs

lemma foreign_finish (hforeign : Foreign w ref (.finish r)) (hs : step w (env, .finish r) = some w')
    :
    Untouched ref w.controller w'.controller := by
  simp only [step] at hs
  split at hs
  · split_ifs at hs
    obtain rfl := Option.some_inj.mp hs
    exact move_elsewhere hforeign _
  · simp at hs

lemma foreign_publish {message : TaskEventMessage} (hactive : w.controller.activeSession = some ref)
    (hforeign : Foreign w ref (.publish sessionId message))
    (hs : step w (env, .publish sessionId message) = some w') :
    Untouched ref w.controller w'.controller := by
  obtain rfl := Option.some_inj.mp hs
  change Untouched ref w.controller (publishTaskEvent sessionId message w.controller).1
  rw [publish_stale hactive hforeign]
  exact .refl ref _

lemma foreign_handoff {record : HandoffRecord} (hactive : w.controller.activeSession = some ref)
    (hforeign : Foreign w ref (.handoff sessionId record))
    (hs : step w (env, .handoff sessionId record) = some w') :
    Untouched ref w.controller w'.controller := by
  obtain rfl := Option.some_inj.mp hs
  change Untouched ref w.controller (registerHandoff env sessionId record w.controller).1
  rw [handoff_stale hactive hforeign]
  exact .refl ref _

lemma foreign_permission (hactive : w.controller.activeSession = some ref)
    (hforeign : Foreign w ref (.permission sessionId))
    (hs : step w (env, .permission sessionId) = some w') :
    Untouched ref w.controller w'.controller := by
  obtain rfl := Option.some_inj.mp hs
  change Untouched ref w.controller (resolveTaskPermission sessionId w.controller).1
  rw [permission_stale hactive hforeign]
  exact .refl ref _

lemma foreign_beginResponse {responseId : String} {receivedNs : ℤ} {started : Option ℤ}
    (hactive : w.controller.activeSession = some ref)
    (hforeign : Foreign w ref (.beginResponse sessionId responseId receivedNs started))
    (hs : step w (env, .beginResponse sessionId responseId receivedNs started) = some w') :
    Untouched ref w.controller w'.controller := by
  obtain rfl := Option.some_inj.mp hs
  change Untouched ref w.controller
    (beginRealtimeResponse env sessionId responseId receivedNs started w.controller).1
  rw [beginResponse_stale hactive hforeign]
  exact .refl ref _

lemma foreign_interruption {event : InterruptionEvent}
    (hactive : w.controller.activeSession = some ref)
    (hforeign : Foreign w ref (.interruption sessionId event))
    (hs : step w (env, .interruption sessionId event) = some w') :
    Untouched ref w.controller w'.controller := by
  obtain rfl := Option.some_inj.mp hs
  change Untouched ref w.controller (recordInterruptionEvent env sessionId event w.controller).1
  rw [interruption_stale hactive hforeign]
  exact .refl ref _

/-- **A foreign step leaves the active session alone.** -/
theorem foreign_step {a : Action} (hw : Sound w) (hactive : w.controller.activeSession = some ref)
    (hforeign : Foreign w ref a) (hs : step w (env, a) = some w') :
    Untouched ref w.controller w'.controller := by
  cases a with
  | activate sessionId token now launched => exact foreign_activate hactive hs
  | control n sessionId decoded => exact foreign_control hactive hforeign hs
  | request n sessionId request shield => exact foreign_request hactive hforeign hs
  | close n outcome error => exact hforeign.elim
  | closeRequest n => exact foreign_closeRequest hactive hforeign hs
  | deadlineFires n r => exact foreign_deadlineFires hforeign hs
  | expire n => exact foreign_expire hactive hforeign hs
  | deliver n => exact foreign_deliver hforeign hs
  | cancel n => exact foreign_cancel hforeign hs
  | enter r => exact foreign_enter hforeign hs
  | hook r => exact foreign_hook hw.good hactive hforeign hs
  | hookEnds r result => exact foreign_hookEnds hforeign hs
  | ackArrives r => exact foreign_ackArrives hforeign hs
  | ackTimeout r => exact foreign_ackTimeout hforeign hs
  | finalize r => exact foreign_finalize hactive hforeign hs
  | finish r => exact foreign_finish hforeign hs
  | consume token now =>
    obtain rfl := Option.some_inj.mp hs
    exact consume_other ref now hforeign
  | publish sessionId message => exact foreign_publish hactive hforeign hs
  | get queue => exact hforeign.elim
  | handoff sessionId record => exact foreign_handoff hactive hforeign hs
  | permission sessionId => exact foreign_permission hactive hforeign hs
  | beginResponse sessionId responseId receivedNs started =>
    exact foreign_beginResponse hactive hforeign hs
  | interruption sessionId event => exact foreign_interruption hactive hforeign hs

/-- **Stale isolation**: in every reachable state, no step of another session than the active one
changes the active one. -/
theorem stale_isolation {g : Config} {as : List (Env × Action)} {a : Action}
    (h : Run step (fun _ _ => True) (start g) as w)
    (hactive : w.controller.activeSession = some ref)
    (hforeign : Foreign w ref a) (hs : step w (env, a) = some w') :
    Untouched ref w.controller w'.controller :=
  foreign_step ((sound_start g).run h).1 hactive hforeign hs

/-- The first session has been closed, its coordinator has not returned; the second one is
active. -/
def replaced : List (Env × Action) :=
  [(stillEnv, .activate "voice-one-01" "token" 0 (some ⟨1⟩)),
   (stillEnv, .control 0 "voice-one-01" (.ok (.stop "voice-one-01" .button)))] ++ askPage ++
  [(stillEnv, .ackTimeout 0), (stillEnv, .hook 0), (stillEnv, .hookEnds 0 .ok),
   (stillEnv, .hook 0), (stillEnv, .hook 0), (stillEnv, .finalize 0),
   (stillEnv, .activate "voice-two-02" "token-2" 5 (some ⟨2⟩))]

theorem stale_isolation_finish : ∃ w w' : World, w.controller.activeSession = some 1 ∧
    step w (stillEnv, .finish 0) = some w' ∧ Untouched 1 w.controller w'.controller := by
  have hexec : (exec step (fun _ _ => true) (start {}) replaced).map
      (fun w => (w.controller.activeSession, (step w (stillEnv, .finish 0)).isSome)) =
      some (some 1, true) := by
    decide +kernel
  obtain ⟨w, hw, hfacts⟩ := Option.map_eq_some_iff.mp hexec
  simp only [Prod.mk.injEq] at hfacts
  obtain ⟨hactive, hstep⟩ := hfacts
  obtain ⟨w', hs⟩ := Option.isSome_iff_exists.mp hstep
  have hrun := run_of_exec (C := fun _ _ => True) (fun _ _ _ => trivial) _ _ hw
  have hother : Foreign w 1 (.finish 0) := Nat.zero_ne_one
  exact ⟨w, w', hactive, hs, stale_isolation hrun hactive hother hs⟩

end HermesRealtime.StaleIsolation

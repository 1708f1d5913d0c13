import HermesRealtime.StepCases

/-!
Invariants of the sessions. Whatever the controller does to the record of a session, it leaves its
id, its trace and its timeline alone, or it lets the trace take a record or the timeline an
observation. So what a new session satisfies and these three keep holds of every session in every
run.
-/

namespace HermesRealtime.SessionInvariants

open Values Protocol Phases Timing Tokens Interruption Teardown Controller Operations SessionRuns
  CriticalSections StepCases Runs

/-- A property of a session that a new one has, and that its trace and its timeline keep. -/
structure Local (I : WakeSession → Prop) : Prop where
  fresh : ∀ sessionId token state, I (newSession sessionId token state)
  same : ∀ s s' : WakeSession, s'.sessionId = s.sessionId → s'.trace = s.trace →
    s'.interruptions = s.interruptions → I s → I s'
  record : ∀ (s : WakeSession) clock name source data ns trace,
    s.trace.record clock name source data ns = .ok trace → I s → I { s with trace }
  begun : ∀ (s : WakeSession) responseId receivedNs started interruptions,
    s.interruptions.beginResponse responseId receivedNs started = .ok interruptions →
      I s → I { s with interruptions }
  consumed : ∀ (s : WakeSession) event,
    I s → I { s with interruptions := (s.interruptions.consume event).1 }

variable {I : WakeSession → Prop} {env : Env} {c c' : VoiceSessionController} {ref : ℕ}

/-! ### Operations -/

/-- Every session of the controller has the property. -/
def All (I : WakeSession → Prop) (c : VoiceSessionController) : Prop := ∀ ref, I (c.heap ref)

/-- The property is lost by no session. -/
def Holds (I : WakeSession → Prop) (c c' : VoiceSessionController) : Prop := All I c → All I c'

instance : Std.Refl (Holds I) := ⟨fun _ h => h⟩

instance : IsTrans VoiceSessionController (Holds I) where
  trans _ _ _ h h' := h' ∘ h

lemma Holds.update {s : WakeSession} (hs : I (c.heap ref) → I s) :
    Holds I c (setSession c ref s) := by
  intro h r
  by_cases hr : r = ref
  · subst hr
    rw [setSession_heap]
    exact hs (h r)
  · rw [setSession_heap_of_ne c s hr]
    exact h r

/-- What leaves the records of sessions alone. -/
lemma modify_holds (f : VoiceSessionController → VoiceSessionController)
    (hf : ∀ c, (f c).heap = c.heap := by exact fun _ => rfl) :
    Op.Keeps (Holds I) (Op.modify f : ControllerM Unit) :=
  .modify fun c h r => by rw [hf]; exact h r

lemma notifyStatus_holds : Op.Keeps (Holds I) (notifyStatus env) := by
  intro c
  rw [notifyStatus_apply]
  exact fun h => h

lemma requireActiveSession_holds (sessionId : String) :
    Op.Keeps (Holds I) (requireActiveSession sessionId) := by
  intro c
  rcases requireActiveSession_cases c sessionId with ⟨ref, hactive, rfl⟩ | hstale
  · rw [requireActiveSession_of_active hactive]
    exact fun h => h
  · rw [hstale]
    exact fun h => h

lemma answerClosed_holds (sessionId : String) (message : LoopbackMessage) :
    Op.Keeps (Holds I) (answerClosed sessionId message) := by
  refine .get_bind fun c => ?_
  cases message with
  | teardownComplete => exact Op.Keeps.ite (.pure _) (.raise _) c
  | _ => exact fun h => h

lemma registerHandoff_holds (sessionId : String) (record : HandoffRecord) :
    Op.Keeps (Holds I) (registerHandoff env sessionId record) := by
  refine .get_bind fun c => Op.Keeps.ite (.pure _) ?_ c
  split
  · exact fun _ h => h
  · exact .pure _

lemma consume_holds (token : String) (now : ℚ) :
    Op.Keeps (Holds I) (consumeActivationToken token now) := by
  intro c h ref
  rw [consume_store]
  exact h ref

lemma publish_holds (sessionId : String) (message : TaskEventMessage) :
    Op.Keeps (Holds I) (publishTaskEvent sessionId message) := by
  intro c
  rcases publish_cases c sessionId message with h | ⟨queue, hroom, -, -, -, h⟩
  · rw [h]
    exact fun h => h
  · rw [h]
    exact fun h => h

section

variable (hI : Local I)

include hI

lemma modifySession_holds (ref : ℕ) (f : WakeSession → WakeSession)
    (hf : ∀ s, (f s).sessionId = s.sessionId ∧ (f s).trace = s.trace ∧
      (f s).interruptions = s.interruptions := by exact fun _ => ⟨rfl, rfl, rfl⟩) :
    Op.Keeps (Holds I) (modifySession ref f) :=
  .modify fun c => .update fun h =>
    hI.same _ _ (hf (c.heap ref)).1 (hf (c.heap ref)).2.1 (hf (c.heap ref)).2.2 h

lemma transition_holds (ref : ℕ) (phase : SessionPhase) :
    Op.Keeps (Holds I) (transition ref phase) :=
  .get_bind fun c => (Op.Keeps.ofExcept _).bind (fun _ => modifySession_holds hI ref _) c

lemma recordTrace_holds {ref : ℕ} {name : String} {source : TimingEventSource} {data : JsonDict}
    {ns : Option ℤ} : Op.Keeps (Holds I) (recordTrace env ref name source data ns) := by
  intro c
  rw [recordTrace_apply]
  rcases hrecord : (c.heap ref).trace.record env.clock name source data ns with e | trace
  · exact fun h => h
  · exact .update (hI.record _ _ _ _ _ _ _ hrecord)

lemma beginTeardownLocked_holds (sessionId : String) (request : TeardownRequest) :
    Op.Keeps (Holds I) (beginTeardownLocked env sessionId request) := by
  refine (requireActiveSession_holds sessionId).bind fun ref => Op.Keeps.bind ?_ fun _ =>
    Op.Keeps.bind ?_ fun _ => (modifySession_holds hI ref _).bind fun _ => .pure _
  · refine .get_bind fun c => ?_
    have hreason : Op.Keeps (Holds I) (modifySession ref fun s =>
        { s with stopReason := s.stopReason <|> some request.reason }) :=
      modifySession_holds hI ref _
    rw [Op.ite_apply]
    split_ifs
    · exact (transition_holds hI ref _).bind (fun _ => notifyStatus_holds.bind fun _ => hreason) c
    · exact hreason c
  · exact .get_bind fun c => Op.Keeps.ite (.pure _)
      ((recordTrace_holds hI).bind fun _ => modifySession_holds hI ref _) c

lemma requestTeardown_holds (env : Env) (sessionId : String) (request : TeardownRequest) :
    Op.Keeps (Holds I) (requestTeardown env sessionId request) :=
  (requireActiveSession_holds sessionId).bind fun _ =>
    .get_bind fun c => beginTeardownLocked_holds hI _ request c

lemma expireBrowserStartup_holds (env : Env) (ref : ℕ) :
    Op.Keeps (Holds I) (expireBrowserStartup env ref) :=
  .get_bind fun c => Op.Keeps.ite (.pure _)
    ((beginTeardownLocked_holds hI _ _).bind fun _ => .pure _) c

lemma handleMessage_holds (message : LoopbackMessage) :
    Op.Keeps (Holds I) (handleMessage env ref message) := by
  cases message with
  | pageReady =>
    exact (transition_holds hI ref _).bind fun _ => notifyStatus_holds.bind fun _ => .pure _
  | pageStarted =>
    exact (transition_holds hI ref _).bind fun _ => (modifySession_holds hI ref _).bind fun _ =>
      notifyStatus_holds.bind fun _ => .pure _
  | timing message =>
    rw [handleMessage]
    split
    · exact .raise _
    · exact (recordTrace_holds hI).bind fun _ => .pure _
  | stop =>
    exact .get_bind fun c => (beginTeardownLocked_holds hI _ _).bind (fun _ => .pure _) c
  | teardownComplete =>
    exact .get_bind fun c => (beginTeardownLocked_holds hI _ _).bind
      (fun _ => (modifySession_holds hI ref _).bind fun _ => .pure _) c
  | _ => exact .raise _

lemma processControlMessage_holds (env : Env) (sessionId : String)
    (decoded : Except PyError LoopbackMessage) :
    Op.Keeps (Holds I) (processControlMessage env sessionId decoded) := by
  refine (Op.Keeps.ofExcept _).bind fun message => ?_
  cases message with
  | taskEvent => exact .raise _
  | _ =>
    refine .get_bind fun c => ?_
    rcases c.activeSession with _ | ref
    · exact answerClosed_holds sessionId _ c
    · exact Op.Keeps.ite (.raise _) (handleMessage_holds hI _) c

lemma beginRealtimeResponse_holds (sessionId responseId : String) (receivedNs : ℤ)
    (providerAudioStartMs : Option ℤ) : Op.Keeps (Holds I)
      (beginRealtimeResponse env sessionId responseId receivedNs providerAudioStartMs) := by
  refine (requireActiveSession_holds sessionId).bind fun ref => .get_bind fun c => ?_
  rw [Op.bind_apply, Op.ofExcept_apply]
  rcases hbegin : (c.heap ref).interruptions.beginResponse responseId receivedNs
      providerAudioStartMs with e | interruptions
  · exact fun h => h
  · have hbegun : Holds I c (setSession c ref { c.heap ref with interruptions }) :=
      .update (hI.begun _ _ _ _ _ hbegin)
    exact trans_of (Holds I) hbegun (recordTrace_holds hI _)

lemma recordInterruptionEvent_holds (sessionId : String) (event : InterruptionEvent) :
    Op.Keeps (Holds I) (recordInterruptionEvent env sessionId event) := by
  refine (requireActiveSession_holds sessionId).bind fun ref => Op.Keeps.ite (.raise _) <|
    .get_bind fun c => ?_
  have hconsumed : Holds I c (setSession c ref { c.heap ref with
      interruptions := ((c.heap ref).interruptions.consume event).1 }) :=
    .update (hI.consumed _ event)
  refine trans_of (Holds I) hconsumed ?_
  exact Op.Keeps.ite ((recordTrace_holds hI).bind fun _ => .pure _) (.pure _) _

lemma openSession_holds (sessionId token : String) (now : ℚ) :
    Op.Keeps (Holds I) (openSession env sessionId token now) := by
  refine .get_bind fun c => Op.Keeps.ite (.pure _) ?_ c
  refine (modify_holds _).bind fun _ => (Op.Keeps.ofExcept _).bind fun _ =>
    (Op.Keeps.ofExcept _).bind fun state => Op.Keeps.bind (.modify fun d => ?_) fun _ =>
      notifyStatus_holds.bind fun _ => (modify_holds _).bind fun _ => .pure _
  intro h r
  by_cases hr : r = c.created
  · subst hr
    dsimp only
    rw [Function.update_self]
    exact hI.fresh sessionId token state
  · dsimp only
    rw [Function.update_of_ne hr]
    exact h r

lemma activate_holds (env : Env) (sessionId token : String) (now : ℚ)
    (launched : Option BrowserHandle) :
    Op.Keeps (Holds I) (activate env sessionId token now launched) := by
  refine (openSession_holds hI sessionId token now).bind fun opened => ?_
  rcases opened with _ | ref
  · exact .pure _
  · rcases launched with _ | handle
    · exact (modifySession_holds hI ref _).bind fun _ => (modify_holds _).bind fun _ =>
        (transition_holds hI ref _).bind fun _ => notifyStatus_holds.bind fun _ =>
          (modify_holds _).bind fun _ => .pure _
    · exact .get_bind fun c => (modifySession_holds hI ref _).bind (fun _ => .pure _) c

lemma recordFailures_holds (failures : List TeardownStepFailure) :
    Op.Keeps (Holds I) (recordFailures env ref failures) := by
  induction failures with
  | nil => exact recordTrace_holds hI
  | cons failure failures ih => exact (recordTrace_holds hI).bind fun _ => ih

lemma callHook_holds (run : TeardownRun) (hook : TeardownHook) :
    Op.Keeps (Holds I) (callHook env ref run hook) := by
  cases hook with
  | markStopping =>
    exact Op.Keeps.bind
      (.get_bind fun c => (beginTeardownLocked_holds hI _ _).bind (fun _ => .pure _) c)
        fun _ => .pure _
  | requestBrowserStop =>
    refine Op.Keeps.bind (.get_bind fun c => ?_) fun _ => .pure _
    refine (requireActiveSession_holds _).bind (fun active => ?_) c
    rcases c.outboundMessages (c.heap ref).sessionId with _ | queue
    · exact .raise _
    · exact (modify_holds _).bind fun _ => recordTrace_holds hI
  | closeBrowser =>
    exact Op.Keeps.bind
      (.get_bind fun c => (modifySession_holds hI ref _).bind (fun _ => .pure _) c)
      fun _ => .pure _
  | releaseProfileLock => exact .get_bind fun c => fun h => h
  | persistTrace => exact (recordFailures_holds hI _).bind fun _ => .get_bind fun c => fun h => h

lemma finalize_holds (env : Env) (ref : ℕ) (request : TeardownRequest) :
    Op.Keeps (Holds I) (finalize env ref request) := by
  have hresolve : Op.Keeps (Holds I) (resolveTerminalResult ref request.outcome request.error) :=
    .get_bind fun c => Op.Keeps.ite (.pure _)
      ((modifySession_holds hI ref _).bind fun _ => modify_holds _) c
  exact .get_bind fun c => Op.Keeps.ite (.pure _) ((transition_holds hI ref _).bind fun _ =>
    (modify_holds _).bind fun _ => notifyStatus_holds.bind fun _ => (modify_holds _).bind fun _ =>
      (modifySession_holds hI ref _).bind fun _ => hresolve) c

lemma moveTask_holds (c : VoiceSessionController) (ref : ℕ) (f : TeardownRun → TeardownRun) :
    Holds I c (moveTask c ref f) :=
  .update fun h => hI.same (c.heap ref) _ rfl rfl rfl h

/-! ### Runs -/

lemma afterRequest_holds (env : Env) (w : World) (n : ℕ) (sessionId : String)
    (request : TeardownRequest) (shield : Bool) :
    Holds I w.controller (afterRequest env w n sessionId request shield).controller := by
  have hholds := requestTeardown_holds hI env sessionId request w.controller
  unfold afterRequest
  generalize requestTeardown env sessionId request w.controller = outcome at hholds ⊢
  obtain ⟨c, e | ref⟩ := outcome <;> exact hholds

lemma afterControl_holds (env : Env) (w : World) (n : ℕ) (sessionId : String)
    (decoded : Except PyError LoopbackMessage) :
    Holds I w.controller (afterControl env w n sessionId decoded).controller := by
  have hholds := processControlMessage_holds hI env sessionId decoded w.controller
  unfold afterControl
  generalize processControlMessage env sessionId decoded w.controller = outcome at hholds ⊢
  obtain ⟨c, e | reply⟩ := outcome
  · exact hholds
  · cases reply <;> exact hholds

lemma afterActivate_holds (env : Env) (w : World) (sessionId token : String) (now : ℚ)
    (launched : Option BrowserHandle) :
    Holds I w.controller (afterActivate env w sessionId token now launched).controller := by
  have hholds := activate_holds hI env sessionId token now launched w.controller
  unfold afterActivate
  generalize activate env sessionId token now launched w.controller = outcome at hholds ⊢
  obtain ⟨c, e | result⟩ := outcome <;> exact hholds

/-- A step of a coordinator that calls no hook and does not finalize writes no record. -/
lemma moved {w w' : World} {a : Action} (hs : step w (env, a) = some w') (hown : Own ref a)
    (hquiet : a ≠ .hook ref ∧ a ≠ .finalize ref) : Holds I w.controller w'.controller := by
  cases step_case hs with
  | minor a hother => exact absurd hown (hother ref)
  | moved a r run run' hrun hmoves h => exact h ▸ moveTask_holds hI _ _ _
  | hooked => cases hown; exact absurd rfl hquiet.1
  | asked => cases hown; exact absurd rfl hquiet.1
  | finalized => cases hown; exact absurd rfl hquiet.2
  | _ => cases hown

/-- No step takes the property from a session. -/
theorem step_holds {w w' : World} {a : Action} (hs : step w (env, a) = some w') :
    Holds I w.controller w'.controller := by
  cases a with
  | activate sessionId token now launched =>
    rw [step, Option.ite_none_right_eq_some, Option.some_inj] at hs
    obtain ⟨-, rfl⟩ := hs
    exact afterActivate_holds hI env w sessionId token now launched
  | control n sessionId decoded =>
    rw [step, Option.ite_none_left_eq_some, Option.some_inj] at hs
    obtain ⟨-, rfl⟩ := hs
    exact afterControl_holds hI env w n sessionId decoded
  | request n sessionId request shield =>
    rw [step, Option.ite_none_left_eq_some, Option.some_inj] at hs
    obtain ⟨-, rfl⟩ := hs
    exact afterRequest_holds hI env w n sessionId request shield
  | close n outcome error =>
    rw [step, Option.ite_none_left_eq_some] at hs
    obtain ⟨-, hs⟩ := hs
    split at hs <;> obtain rfl := Option.some_inj.mp hs <;> exact fun h => h
  | closeRequest n =>
    simp only [step] at hs
    split at hs
    · next sessionId request hn =>
      obtain rfl := Option.some_inj.mp hs
      exact afterRequest_holds hI env w n sessionId request false
    · cases hs
  | deadlineFires n ref =>
    rw [step, Option.ite_none_left_eq_some] at hs
    obtain ⟨-, hs⟩ := hs
    split at hs
    · rw [Option.ite_none_right_eq_some, Option.some_inj] at hs
      obtain ⟨-, rfl⟩ := hs
      exact .update fun h => hI.same (w.controller.heap ref) _ rfl rfl rfl h
    · cases hs
  | expire n =>
    simp only [step] at hs
    split at hs
    · next ref hn =>
      have hholds := expireBrowserStartup_holds hI env ref w.controller
      generalize expireBrowserStartup env ref w.controller = outcome at hholds hs
      obtain ⟨c, e | b⟩ := outcome
      · obtain rfl := Option.some_inj.mp hs
        exact hholds
      · cases b <;> obtain rfl := Option.some_inj.mp hs <;> exact hholds
    · cases hs
  | hook ref =>
    simp only [step] at hs
    split at hs
    · next run hrun =>
      split at hs
      · next hook hpoint =>
        obtain rfl := Option.some_inj.mp hs
        exact trans_of (Holds I) (callHook_holds hI run hook w.controller)
          (moveTask_holds hI _ ref _)
      · cases hs
    · cases hs
  | finalize ref =>
    simp only [step] at hs
    split at hs
    · next run hrun =>
      rw [Option.ite_none_right_eq_some, Option.some_inj] at hs
      obtain ⟨-, rfl⟩ := hs
      exact trans_of (Holds I) (finalize_holds hI env ref run.request w.controller)
        (moveTask_holds hI _ ref _)
    · cases hs
  | consume token now =>
    obtain rfl := Option.some_inj.mp hs
    exact consume_holds token now w.controller
  | publish sessionId message =>
    obtain rfl := Option.some_inj.mp hs
    exact publish_holds sessionId message w.controller
  | get queue =>
    obtain rfl := Option.some_inj.mp hs
    exact fun h => h
  | handoff sessionId record =>
    obtain rfl := Option.some_inj.mp hs
    exact registerHandoff_holds sessionId record w.controller
  | permission sessionId =>
    obtain rfl := Option.some_inj.mp hs
    exact Op.Keeps.get_bind (fun c => Op.Keeps.ite (.raise _) (.pure _) c) w.controller
  | beginResponse sessionId responseId receivedNs started =>
    obtain rfl := Option.some_inj.mp hs
    exact beginRealtimeResponse_holds hI sessionId responseId receivedNs started w.controller
  | interruption sessionId event =>
    obtain rfl := Option.some_inj.mp hs
    exact recordInterruptionEvent_holds hI sessionId event w.controller
  | deliver n =>
    simp only [step] at hs
    split at hs
    · split at hs
      · split_ifs at hs <;> obtain rfl := Option.some_inj.mp hs <;> exact fun h => h
      · cases hs
    · cases hs
  | cancel n =>
    simp only [step] at hs
    split at hs
    · split_ifs at hs <;> obtain rfl := Option.some_inj.mp hs
      · exact fun h => h
      · exact moveTask_holds hI _ _ _
    · obtain rfl := Option.some_inj.mp hs
      exact fun h => h
    · cases hs
  | enter ref => exact moved hI hs .enter (by simp)
  | hookEnds ref result => exact moved hI hs (.hookEnds result) (by simp)
  | ackArrives ref => exact moved hI hs .ackArrives (by simp)
  | ackTimeout ref => exact moved hI hs .ackTimeout (by simp)
  | finish ref => exact moved hI hs .finish (by simp)

end

/-- **The invariant rule for sessions.** -/
theorem run_holds (hI : Local I) {g : Config} {as : List (Env × Action)} {w : World}
    (h : Run step (fun _ _ => True) (start g) as w) : All I w.controller :=
  Run.invariant (I := fun w => All I w.controller) h (fun _ => hI.fresh _ _ _)
    fun _ _ _ hw _ hs => step_holds hI hs hw

end HermesRealtime.SessionInvariants

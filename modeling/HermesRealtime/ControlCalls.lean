import HermesRealtime.RelayFailures
import HermesRealtime.StepCases
import HermesRealtime.TeardownStart

/-!
A call of `process_control_message` to its end. A message that tells of a completed teardown makes
the method wait for the coordinator of the session, behind a shield: it returns what the coordinator
reports, or `CancelledError` reaches it when the task of the coordinator has been cancelled, or the
call itself is.
-/

namespace HermesRealtime.ControlCalls

open Values Protocol Phases Frames Teardown Controller Operations SessionRuns Lifecycle Bookkeeping
  CriticalSections Changes StepCases TeardownStart RelayFailures Runs

variable {α β : Type} {env : Env} {w w' w₁ w₂ : World} {c : VoiceSessionController} {ref n : ℕ}
  {run run' : TeardownRun} {as : List (Env × Action)}

/-- What a call comes to. `CancelledError` is not an `Exception`. -/
inductive CallEnd
  | returned (closed : Option SessionOutcome)
  | raised (e : PyError)
  | cancelled

/-- The call returns, or raises what the relay handles. -/
def CallEnd.Handled : CallEnd → Prop
  | .returned _ => True
  | .raised e => e.isValueError = true
  | .cancelled => False

/-- A call by the waiter `n`, from the world it is made in to its end. `as` is what happens while it
awaits a coordinator, up to its own cancellation if it comes to that. -/
inductive Call (w : World) (env : Env) (n : ℕ) (sessionId : String)
    (decoded : Except PyError LoopbackMessage) : List (Env × Action) → CallEnd → Prop
  | nothing (hreply : (processControlMessage env sessionId decoded w.controller).2 = .ok .nothing) :
      Call w env n sessionId decoded [] (.returned none)
  | closed (outcome : SessionOutcome)
      (hreply : (processControlMessage env sessionId decoded w.controller).2 =
        .ok (.closed outcome)) :
      Call w env n sessionId decoded [] (.returned (some outcome))
  | raised (e : PyError)
      (hreply : (processControlMessage env sessionId decoded w.controller).2 = .error e) :
      Call w env n sessionId decoded [] (.raised e)
  | reported (ref request as w₁ w₂ run)
      (hreply : (processControlMessage env sessionId decoded w.controller).2 =
        .ok (.awaits ref request))
      (hs : step w (env, .control n sessionId decoded) = some w₁)
      (hrun : Run step (fun _ x => x.2 ≠ .cancel n) w₁ as w₂)
      (htask : taskOf w₂.controller ref = some run) (hpoint : run.point = .returned) :
      Call w env n sessionId decoded as (.returned (some run.request.outcome))
  | abandoned (ref request as w₁ w₂ run)
      (hreply : (processControlMessage env sessionId decoded w.controller).2 =
        .ok (.awaits ref request))
      (hs : step w (env, .control n sessionId decoded) = some w₁)
      (hrun : Run step (fun _ x => x.2 ≠ .cancel n) w₁ as w₂)
      (htask : taskOf w₂.controller ref = some run) (hpoint : run.point = .cancelled) :
      Call w env n sessionId decoded as .cancelled
  | cancelled (ref request as w₁ w₂ env')
      (hreply : (processControlMessage env sessionId decoded w.controller).2 =
        .ok (.awaits ref request))
      (hs : step w (env, .control n sessionId decoded) = some w₁)
      (hrun : Run step (fun _ x => x.2 ≠ .cancel n) w₁ as w₂) :
      Call w env n sessionId decoded (as ++ [(env', .cancel n)]) .cancelled

/-! ### Tasks that are cancelled -/

/-- The task has been cancelled: it is in the handler of the cancellation, or past it. -/
def Abandoned (run : TeardownRun) : Prop :=
  run.point = .cancelled ∨ run.point = .awaitingFinalize true

/-- The step cancels the task of the session, which has not reported. -/
def Cancels (w : World) (ref : ℕ) : Action → Prop
  | .cancel n => (∃ answers, w.waiters n = some (.awaiting ref false answers)) ∧
      ∀ run, (w.controller.heap ref).teardown.task = some run → run.point ≠ .returned
  | _ => False

lemma abandoned_hookReturned (hook : TeardownHook) (result : StepResult) :
    ¬ Abandoned (run.hookReturned hook result) := by
  cases hook with
  | requestBrowserStop =>
    simp only [TeardownRun.hookReturned]
    split_ifs <;> simp [Abandoned]
  | _ => simp [TeardownRun.hookReturned, Abandoned]

lemma abandoned_hookCalled (hook : TeardownHook) (result : Except PyError Bool) :
    ¬ Abandoned (hookCalled hook result run) := by
  unfold hookCalled
  split
  · simp [Abandoned]
  · exact abandoned_hookReturned _ _
  · exact abandoned_hookReturned _ _

lemma abandoned_ackAwaited (inTime : Bool) : ¬ Abandoned (run.ackAwaited inTime) := by
  cases inTime <;> simp [TeardownRun.ackAwaited, Abandoned]

lemma abandoned_cancel : Abandoned run.cancel ↔ run.point ≠ .returned := by
  unfold TeardownRun.cancel
  split <;> simp_all [Abandoned]

lemma abandoned_finish : Abandoned run.finish ↔ Abandoned run := by
  unfold TeardownRun.finish
  split <;> simp_all [Abandoned]

/-- A task that is not cancelled in a step is as much abandoned as it was. -/
lemma abandoned_taskStep {a : Action} (h : TaskStep w a ref run run')
    (hcancel : ∀ n, a = .cancel n → ∀ answers, w.waiters n ≠ some (.awaiting ref false answers)) :
    Abandoned run' ↔ Abandoned run := by
  cases h with
  | same => rfl
  | called hook result ha hpoint =>
    exact iff_of_false (abandoned_hookCalled _ _) (by simp [Abandoned, hpoint])
  | finalized result ha hcreated => rfl
  | moved hmoves =>
    cases hmoves with
    | entered ref run hpoint =>
      exact iff_of_false (by simp [Abandoned]) (by simp [Abandoned, hpoint])
    | ended ref result hook run hpoint =>
      exact iff_of_false (abandoned_hookReturned _ _) (by simp [Abandoned, hpoint])
    | acked ref run hpoint =>
      exact iff_of_false (abandoned_ackAwaited _) (by simp [Abandoned, hpoint])
    | timedOut ref run hpoint =>
      exact iff_of_false (abandoned_ackAwaited _) (by simp [Abandoned, hpoint])
    | cancelled n ref answers run hn => exact absurd hn (hcancel n rfl answers)
    | finished ref cancelled run hfinished hpoint => exact abandoned_finish

/-- **A task is abandoned where it is cancelled**, and stays so. -/
lemma abandoned_step {a : Action} (hg : Good w.controller) (href : ref < w.controller.created)
    (hrun : (w.controller.heap ref).teardown.task = some run) (hs : step w (env, a) = some w') :
    ∃ run', (w'.controller.heap ref).teardown.task = some run' ∧
      (Abandoned run' ↔ Abandoned run ∨ Cancels w ref a) := by
  by_cases hcancels : ∃ n answers, a = .cancel n ∧ w.waiters n = some (.awaiting ref false answers)
  · obtain ⟨n, answers, rfl, hn⟩ := hcancels
    simp only [step, hn, Bool.false_eq_true, if_false] at hs
    obtain rfl := Option.some_inj.mp hs
    refine ⟨run.cancel, moveTask_task hrun _, abandoned_cancel.trans ⟨fun h => ?_, ?_⟩⟩
    · refine .inr ⟨⟨answers, hn⟩, fun run' hrun' => ?_⟩
      rwa [← Option.some_inj.mp (hrun.symm.trans hrun')]
    · rintro (h | h)
      · rcases h with h | h <;> simp [h]
      · exact h.2 run hrun
  · obtain ⟨run', hrun', hstep⟩ := task_step hg href hrun hs
    refine ⟨run', hrun', (abandoned_taskStep hstep ?_).trans (or_iff_left ?_).symm⟩
    · exact fun n ha answers hn => hcancels ⟨n, answers, ha, hn⟩
    · cases a with
      | cancel n => exact fun h => hcancels ⟨n, h.1.choose, rfl, h.1.choose_spec⟩
      | _ => exact id

/-- In a run a task is abandoned exactly if it was at the start, or a step cancels it. -/
lemma abandoned_run {C : World → Env × Action → Prop} (hw : Sound w)
    (href : ref < w.controller.created) (hrun : (w.controller.heap ref).teardown.task = some run)
    (h : Run step C w as w') : ref < w'.controller.created ∧
      ∃ run', (w'.controller.heap ref).teardown.task = some run' ∧
        (¬ Abandoned run' ↔
          ¬ Abandoned run ∧ Run step (fun v x => ¬ Cancels v ref x.2) w as w') := by
  induction h with
  | nil => exact ⟨href, run, hrun, by simp [Run.nil]⟩
  | @snoc as t u x h hc hs ih =>
    obtain ⟨hcreated, run₁, hrun₁, hiff⟩ := ih
    obtain ⟨ht, -⟩ := hw.run h
    obtain ⟨run₂, hrun₂, hstep⟩ := abandoned_step ht.good hcreated hrun₁ hs
    have hkept := (change_keeps (step_change ht.good ht.waits hs) ht.good).2
    refine ⟨hcreated.trans_le hkept.created, run₂, hrun₂, ?_⟩
    rw [hstep, not_or, hiff, and_assoc, Run.snoc_iff h hs]

/-! ### Messages that make the call wait -/

/-- The frame tells the session that it is torn down, and the teardown may begin. -/
def Awaits (env : Env) (c : VoiceSessionController) (sessionId : String)
    (decoded : Except PyError LoopbackMessage) (ref : ℕ) : Prop :=
  ∃ id, decoded = .ok (.teardownComplete id) ∧
    Addressed c sessionId (.teardownComplete id) ref ∧ Lets env c (c.heap ref)

lemma ok_of_bind {x : ControllerM α} {f : α → ControllerM β} {b : β}
    (h : ((x >>= f) c).2 = .ok b) : ∃ a c', x c = (c', .ok a) ∧ (f a c').2 = .ok b := by
  rw [Op.bind_apply] at h
  rcases hx : x c with ⟨c', e | a⟩
  · simp [hx] at h
  · exact ⟨a, c', rfl, by simpa [hx] using h⟩

/-- Only `teardown_complete` makes the method wait. -/
lemma handleMessage_awaits {message : LoopbackMessage} {r : ℕ} {request : TeardownRequest}
    (h : (handleMessage env ref message c).2 = .ok (.awaits r request)) :
    ∃ id, message = .teardownComplete id ∧ r = ref ∧
      ∃ c' began, beginTeardownLocked env (c.heap ref).sessionId request c = (c', .ok began) := by
  cases message with
  | teardownComplete id =>
    rw [handleMessage, Op.get_bind] at h
    obtain ⟨began, c', hbegin, h⟩ := ok_of_bind h
    obtain ⟨_, _, -, h⟩ := ok_of_bind h
    obtain ⟨rfl, rfl⟩ := by simpa using h
    exact ⟨id, rfl, rfl, c', began, hbegin⟩
  | pageReady =>
    obtain ⟨_, _, -, h⟩ := ok_of_bind h
    obtain ⟨_, _, -, h⟩ := ok_of_bind h
    simp at h
  | pageStarted =>
    obtain ⟨_, _, -, h⟩ := ok_of_bind h
    obtain ⟨_, _, -, h⟩ := ok_of_bind h
    obtain ⟨_, _, -, h⟩ := ok_of_bind h
    simp at h
  | timing message =>
    cases hns : message.monotonicMs.mulTrunc 1000000 with
    | none => simp [handleMessage, hns] at h
    | some ns =>
      simp only [handleMessage, hns] at h
      obtain ⟨_, _, -, h⟩ := ok_of_bind h
      simp at h
  | stop =>
    rw [handleMessage, Op.get_bind] at h
    obtain ⟨_, _, -, h⟩ := ok_of_bind h
    simp at h
  | _ => simp [handleMessage] at h

lemma answerClosed_awaits {sessionId : String} {message : LoopbackMessage}
    {request : TeardownRequest} :
    (answerClosed sessionId message c).2 ≠ .ok (.awaits ref request) := by
  cases message with
  | teardownComplete =>
    simp only [answerClosed, Op.get_bind, Op.ite_apply]
    split_ifs <;> simp
  | _ => simp [answerClosed]

/-- **When a call waits for a coordinator.** -/
lemma awaits_iff (hg : Good c) (sessionId : String) (decoded : Except PyError LoopbackMessage) :
    (∃ request, (processControlMessage env sessionId decoded c).2 = .ok (.awaits ref request)) ↔
      Awaits env c sessionId decoded ref := by
  constructor
  · rintro ⟨request, h⟩
    rcases decoded with e | message
    · simp [processControlMessage, parseLoopbackMessage, bind, Except.bind] at h
    rcases parse_cases message sessionId with ⟨hids, hparse⟩ | ⟨-, hparse⟩ <;>
      rw [processControlMessage, hparse] at h
    · rw [Op.bind_of_ok (Op.ofExcept_apply _ _)] at h
      cases message with
      | taskEvent m => simp at h
      | _ =>
        dsimp only at h
        rw [Op.get_bind] at h
        rcases hactive : c.activeSession with _ | active
        · rw [hactive] at h
          exact absurd h answerClosed_awaits
        · rw [hactive] at h
          dsimp only at h
          rw [Op.ite_apply] at h
          split_ifs at h with hid
          · simp at h
          · obtain ⟨id, hmessage, rfl, c', began, hbegin⟩ := handleMessage_awaits h
            refine ⟨id, congrArg _ hmessage, ⟨hmessage ▸ hids, hactive, not_not.mp hid⟩, ?_⟩
            rcases begin_cases env ⟨True, True, True, True, True⟩ hg hactive request with
              ⟨_, -, -, hlets⟩ | ⟨_, _, herror, -⟩
            · exact hlets
            · cases hbegin.symm.trans herror
    · simp [Op.bind_apply] at h
  · rintro ⟨id, rfl, ⟨hids, hactive, rfl⟩, hlets⟩
    obtain rfl : id = (c.heap ref).sessionId := hids id rfl
    rw [control_active hactive rfl (by simp), handleMessage, Op.get_bind]
    obtain ⟨c', hbegin, -⟩ := (begin_iff env hg hactive _).mpr hlets
    rw [Op.bind_of_ok hbegin]
    exact ⟨_, rfl⟩

/-- The task that a call comes to wait for is the one that was there, or a new one. -/
lemma awaited_task {sessionId : String} {decoded : Except PyError LoopbackMessage}
    {request : TeardownRequest} (hw : Sound w)
    (hreply : (processControlMessage env sessionId decoded w.controller).2 =
      .ok (.awaits ref request))
    (hs : step w (env, .control n sessionId decoded) = some w₁) :
    ref < w₁.controller.created ∧ ∃ run, (w₁.controller.heap ref).teardown.task = some run ∧
      (¬ Abandoned run ↔
        ∀ run', (w.controller.heap ref).teardown.task = some run' → ¬ Abandoned run') := by
  have houtcome := control_outcome (k := ⟨False, False, False, False, False⟩) env hw.good sessionId
    decoded (fun h => h.elim) (fun _ _ _ _ _ h => h)
  have hkept := (processControlMessage_leaves env sessionId decoded w.controller).tasks ref
  rw [step, Option.ite_none_left_eq_some, Option.some_inj] at hs
  obtain ⟨-, rfl⟩ := hs
  rw [afterControl]
  generalize processControlMessage env sessionId decoded w.controller = outcome at *
  cases houtcome with
  | awaits c' c₁ ref' request' hbegun heffect href htask hid =>
    obtain ⟨rfl, rfl⟩ : ref' = ref ∧ request' = request := by simpa using hreply
    refine ⟨href, ?_⟩
    obtain ⟨run, hrun⟩ := Option.ne_none_iff_exists'.mp htask
    refine ⟨run, hrun, ?_⟩
    rcases hkept with hsame | ⟨-, hnone, started, hstarted⟩
    · rw [← hsame]
      dsimp only at hrun ⊢
      simp [hrun]
    · dsimp only at hstarted
      obtain rfl := Option.some_inj.mp (hrun.symm.trans hstarted)
      simp [hnone, Abandoned]
  | _ => simp at hreply

/-! ### Calls -/

/-- The task that a call waits for is not cancelled, neither before the call nor during it, and the
call is not cancelled either. -/
structure Uncancelled (w w₁ : World) (n ref : ℕ) (as : List (Env × Action)) : Prop where
  before : ∀ run, (w.controller.heap ref).teardown.task = some run → ¬ Abandoned run
  during : ∃ w₂, Run step (fun v x => ¬ Cancels v ref x.2) w₁ as w₂
  call : ∀ x ∈ as, x.2 ≠ .cancel n

/-- The task at the end of the wait has not been cancelled exactly if nobody has done so. -/
lemma uncancelled_iff {sessionId : String} {decoded : Except PyError LoopbackMessage}
    {request : TeardownRequest} (hw : Sound w)
    (hreply : (processControlMessage env sessionId decoded w.controller).2 =
      .ok (.awaits ref request))
    (hs : step w (env, .control n sessionId decoded) = some w₁)
    (hrun : Run step (fun _ x => x.2 ≠ .cancel n) w₁ as w₂)
    (htask : taskOf w₂.controller ref = some run) :
    ¬ Abandoned run ↔ Uncancelled w w₁ n ref as := by
  obtain ⟨href, run₁, hrun₁, hbefore⟩ := awaited_task hw hreply hs
  obtain ⟨-, run₂, hrun₂, hduring⟩ := abandoned_run (hw.step hs) href hrun₁ hrun
  obtain rfl : run = run₂ := Option.some_inj.mp ((taskOf_some htask).2.symm.trans hrun₂)
  rw [hduring, hbefore]
  constructor
  · rintro ⟨hfirst, hlater⟩
    exact ⟨hfirst, ⟨w₂, hlater⟩, hrun.forall_labels fun _ _ h => h⟩
  · rintro ⟨hfirst, ⟨v, hlater⟩, -⟩
    exact ⟨hfirst, hlater.unique hrun ▸ hlater⟩

/-- **A call returns, or raises what the relay handles**, exactly if its frame is not fatal and the
task it comes to wait for, and the call, are not cancelled. -/
theorem answered_unless_fatal {g : Config} {before : List (Env × Action)} {sessionId raw : String}
    {read : String → Option Json} {ended : CallEnd}
    (hbefore : Run step (fun _ _ => True) (start g) before w)
    (hcall : Call w env n sessionId (decodeFrame read raw) as ended) :
    ended.Handled ↔ ¬ Fatal env w.controller sessionId read raw ∧
      ∀ ref w₁, Awaits env w.controller sessionId (decodeFrame read raw) ref →
        step w (env, .control n sessionId (decodeFrame read raw)) = some w₁ →
          Uncancelled w w₁ n ref as := by
  have hw := ((sound_start g).run hbefore).1
  have hsection := section_answered_iff env w.controller sessionId read raw
  have hawaits (ref : ℕ) : _ ↔ Awaits env w.controller sessionId (decodeFrame read raw) ref :=
    awaits_iff hw.good sessionId (decodeFrame read raw)
  -- a call that does not wait
  have hnever (hreply : ∀ ref request, (processControlMessage env sessionId (decodeFrame read raw)
      w.controller).2 ≠ .ok (.awaits ref request)) (ref : ℕ) :
      ¬ Awaits env w.controller sessionId (decodeFrame read raw) ref := fun h =>
    (((hawaits ref).mpr h).elim fun request h => hreply ref request h)
  -- one that waits for the coordinator of a session
  have hwaits {ref : ℕ} {request : TeardownRequest} {v : World}
      (hreply : (processControlMessage env sessionId (decodeFrame read raw) w.controller).2 =
        .ok (.awaits ref request))
      (hs : step w (env, .control n sessionId (decodeFrame read raw)) = some v) {ref' : ℕ}
      {v' : World} (hawait : Awaits env w.controller sessionId (decodeFrame read raw) ref')
      (hs' : step w (env, .control n sessionId (decodeFrame read raw)) = some v') :
      ref' = ref ∧ v' = v := by
    obtain ⟨request', hreply'⟩ := (hawaits ref').mpr hawait
    rw [hreply] at hreply'
    obtain ⟨rfl, -⟩ : ref' = ref ∧ request' = request := by
      simpa using (Except.ok.inj hreply').symm
    exact ⟨rfl, Option.some_inj.mp (hs'.symm.trans hs)⟩
  cases hcall with
  | nothing hreply =>
    refine iff_of_true trivial ⟨hsection.mp (by simp [hreply, Answered]), fun ref _ hawait => ?_⟩
    exact absurd hawait (hnever (by simp [hreply]) ref)
  | closed outcome hreply =>
    refine iff_of_true trivial ⟨hsection.mp (by simp [hreply, Answered]), fun ref _ hawait => ?_⟩
    exact absurd hawait (hnever (by simp [hreply]) ref)
  | raised e hreply =>
    rw [← hsection, hreply]
    refine Iff.trans (by simp [CallEnd.Handled, Answered]) (and_iff_left ?_).symm
    exact fun ref _ hawait => absurd hawait (hnever (by simp [hreply]) ref)
  | reported ref request as w₁ w₂ run hreply hs hrun htask hpoint =>
    refine iff_of_true trivial
      ⟨hsection.mp (by simp [hreply, Answered]), fun ref' v' hawait hs' => ?_⟩
    obtain ⟨rfl, rfl⟩ := hwaits hreply hs hawait hs'
    exact (uncancelled_iff hw hreply hs hrun htask).mp (by simp [Abandoned, hpoint])
  | abandoned ref request as w₁ w₂ run hreply hs hrun htask hpoint =>
    refine iff_of_false id fun h => ?_
    have huncancelled := h.2 ref w₁ ((hawaits ref).mp ⟨request, hreply⟩) hs
    exact (uncancelled_iff hw hreply hs hrun htask).mpr huncancelled (.inl hpoint)
  | cancelled ref request as w₁ w₂ env' hreply hs hrun =>
    refine iff_of_false id fun h => ?_
    have huncancelled := h.2 ref w₁ ((hawaits ref).mp ⟨request, hreply⟩) hs
    exact huncancelled.call (env', .cancel n) (by simp) rfl

/-- The text of a frame that says the page is torn down, as it is read. -/
def farewell (text : String) : Option Json :=
  if text = "teardown_complete" then
    some (.obj [("type", .str "teardown_complete"), ("session_id", .str "voice-one-01")])
  else none

/-- A session that has been launched, and one whose shutdown was cancelled before its coordinator
has taken a step. -/
def launchedOnly : List (Env × Action) :=
  [(stillEnv, .activate "voice-one-01" "token" 0 (some ⟨1⟩))]

def shutDownEarly : List (Env × Action) :=
  launchedOnly ++ [(stillEnv, .close 1 .cancelled none), (stillEnv, .closeRequest 1),
    (stillEnv, .cancel 1)]

def isCancel : Action → Bool
  | .cancel _ => true
  | _ => false

/-- The world a farewell finds after `before`, what it is answered at first, and the task that is
waited for once `as` has happened. -/
def farewellAfter (before as : List (Env × Action)) :
    Option (World × Except PyError ControlReply × Option TeardownRun) :=
  (exec step (fun _ _ => true) (start {}) before).bind fun w =>
    let decoded := decodeFrame farewell "teardown_complete"
    (step w (stillEnv, .control 0 "voice-one-01" decoded)).bind fun w₁ =>
      (exec step (fun _ x => !isCancel x.2) w₁ as).map fun w₂ =>
        (w, (processControlMessage stillEnv "voice-one-01" decoded w.controller).2,
          taskOf w₂.controller 0)

/-- A farewell that waits for a task that has ended. -/
lemma farewell_call {before : List (Env × Action)} {request : TeardownRequest}
    (h : (farewellAfter before as).map Prod.snd =
      some (.ok (.awaits 0 request), some run)) :
    ∃ w, Run step (fun _ _ => True) (start {}) before w ∧
      (run.point = .returned → Call w stillEnv 0 "voice-one-01"
        (decodeFrame farewell "teardown_complete") as (.returned (some run.request.outcome))) ∧
      (run.point = .cancelled → Call w stillEnv 0 "voice-one-01"
        (decodeFrame farewell "teardown_complete") as .cancelled) := by
  obtain ⟨⟨w, reply, task⟩, hafter, hsnd⟩ := Option.map_eq_some_iff.mp h
  obtain ⟨rfl, rfl⟩ : reply = _ ∧ task = _ := Prod.mk.inj hsnd
  obtain ⟨v, hv, hafter⟩ := Option.bind_eq_some_iff.mp hafter
  obtain ⟨w₁, hs, hafter⟩ := Option.bind_eq_some_iff.mp hafter
  obtain ⟨w₂, hw₂, hfacts⟩ := Option.map_eq_some_iff.mp hafter
  simp only [Prod.mk.injEq] at hfacts
  obtain ⟨rfl, hreply, htask⟩ := hfacts
  have hrun : Run step (fun _ x => x.2 ≠ .cancel 0) w₁ as w₂ :=
    run_of_exec (fun _ x hpass hcancel => by simp [hcancel, isCancel] at hpass) _ _ hw₂
  exact ⟨v, run_of_exec (fun _ _ _ => trivial) _ _ hv,
    fun hpoint => .reported 0 request as w₁ w₂ run hreply hs hrun htask hpoint,
    fun hpoint => .abandoned 0 request as w₁ w₂ run hreply hs hrun htask hpoint⟩

/-- The farewell of a page is answered, when nothing cancels the teardown. -/
theorem farewell_answered : ∃ w, Run step (fun _ _ => True) (start {}) launchedOnly w ∧
    ¬ Fatal stillEnv w.controller "voice-one-01" farewell "teardown_complete" := by
  have hafter : (farewellAfter launchedOnly (askPage ++ closeDown)).map Prod.snd =
      some (.ok (.awaits 0 ⟨.completed, .button, none⟩),
        some ⟨⟨.completed, .button, none⟩, .returned, [], true, .finished⟩) := by
    decide +kernel
  obtain ⟨w, hrun, hcall, -⟩ := farewell_call hafter
  exact ⟨w, hrun, ((answered_unless_fatal hrun (hcall rfl)).mp trivial).1⟩

/-- **A farewell whose frame is in order ends in a cancellation**, as the shutdown of the session
was cancelled before. -/
theorem farewell_abandoned : ∃ w, Run step (fun _ _ => True) (start {}) shutDownEarly w ∧
    Call w stillEnv 0 "voice-one-01" (decodeFrame farewell "teardown_complete") [] .cancelled := by
  have hafter : (farewellAfter shutDownEarly []).map Prod.snd =
      some (.ok (.awaits 0 ⟨.cancelled, .nativeCancel, none⟩),
        some ⟨⟨.cancelled, .nativeCancel, none⟩, .cancelled, [], false, .absent⟩) := by
    decide +kernel
  obtain ⟨w, hrun, -, hcall⟩ := farewell_call hafter
  exact ⟨w, hrun, hcall rfl⟩

end HermesRealtime.ControlCalls

import HermesRealtime.CriticalSections

/-!
Every step of the world is one of the changes, when the controller's bookkeeping is intact;
and every run keeps it so.
-/

namespace HermesRealtime.Changes

open Values Text Protocol Phases Timing Tokens Interruption Teardown TaskEvents Controller
  Operations SessionRuns Lifecycle Bookkeeping CriticalSections Runs

variable {w w' : World} {env : Env} {k : Smooth} {n ref : ℕ}

lemma waiters_update {c' : VoiceSessionController} {v : Option Waiter}
    (h : WaiterStep c' (w.waiters n) v) (m : ℕ) :
    WaiterStep c' (w.waiters m) (Function.update w.waiters n v m) := by
  by_cases hm : m = n
  · subst hm
    rwa [Function.update_self]
  · rw [Function.update_of_ne hm]
    exact .same

lemma taskOf_some {c : VoiceSessionController} {run : TeardownRun}
    (h : taskOf c ref = some run) : ref < c.created ∧ (c.heap ref).teardown.task = some run := by
  unfold taskOf at h
  split_ifs at h with href
  exact ⟨href, h⟩

/-- A waiter that is free, or is not the handler of a deadline, may go. -/
lemma gone_of_free {c' : VoiceSessionController} {v : Option Waiter}
    (h : ∀ ref, v ≠ some (.expiring ref)) : WaiterStep c' v none :=
  .gone fun ref hv => absurd hv (h ref)

/-- The waiter of a teardown that has begun. -/
lemma awaiting_of_begun {c c' : VoiceSessionController} {v : Option Waiter} {shield : Bool}
    {request : TeardownRequest} (hg : Good c) (hbegun : Begun c ref request c')
    (hv : ∀ r, v = some (.expiring r) → r = ref) :
    WaiterStep c' v (some (.awaiting ref shield none)) := by
  obtain ⟨hstopped, href, htask, -⟩ := begun_facts hg hbegun
  refine .awaiting ref shield none (fun r hr => ?_) href (by simp [htask]) (by simp)
  obtain rfl := hv r hr
  exact hstopped

/-- `request_teardown` by a waiter. -/
lemma request_change (hg : Good w.controller) {sessionId : String} {request : TeardownRequest}
    {shield : Bool} (hfree : ∀ ref, w.waiters n ≠ some (.expiring ref))
    (hlets : k.beginning → ∀ ref, w.controller.activeSession = some ref →
      (w.controller.heap ref).sessionId = sessionId →
        Lets env w.controller (w.controller.heap ref)) :
    Change k w (afterRequest env w n sessionId request shield) := by
  rcases request_cases (k := k) env hg request hlets with
    ⟨ref, c', hrequest, hbegun⟩ | ⟨c', e, hrequest, heffects⟩
  · rw [afterRequest, hrequest]
    refine .requested ref request false c' hbegun .refl (by simp) rfl (waiters_update ?_)
    exact awaiting_of_begun hg hbegun fun r hr => absurd hr (hfree r)
  · rw [afterRequest, hrequest]
    exact .internal heffects rfl (waiters_update (gone_of_free hfree))

/-- The handler of a deadline that has fired. -/
lemma expire_change (hg : Good w.controller) (hn : w.waiters n = some (.expiring ref))
    (hw : step w (env, .expire n) = some w')
    (hlets : k.beginning → Starting w.controller ref →
      Lets env w.controller (w.controller.heap ref)) : Change k w w' := by
  simp only [step, hn] at hw
  rcases expire_cases (k := k) env hg ref hlets with
    ⟨c', hexpire, hstarting, hbegun⟩ | ⟨c', r, hexpire, hr, heffects, hstopped⟩
  · simp only [hexpire] at hw
    obtain rfl := Option.some_inj.mp hw
    refine .requested ref startupTimedOut true c' hbegun .refl (fun _ => hstarting) rfl
      (waiters_update ?_)
    refine awaiting_of_begun hg hbegun fun r hr => ?_
    rw [hn] at hr
    simpa using hr.symm
  · have hw' : w' = (w.withController c').setWaiter n none := by
      rcases r with e | b
      · simpa only [hexpire, Option.some_inj, eq_comm] using hw
      · cases b with
        | false => simpa only [hexpire, Option.some_inj, eq_comm] using hw
        | true => exact absurd rfl hr
    subst hw'
    refine .internal heffects rfl (waiters_update (.gone fun r hr => ?_))
    rw [hn] at hr
    obtain rfl : ref = r := by simpa using hr
    exact hstopped

/-- Activating a session makes no waiter. -/
lemma afterActivate_waiters (env : Env) (w : World) (sessionId token : String) (now : ℚ)
    (launched : Option BrowserHandle) :
    (afterActivate env w sessionId token now launched).waiters = w.waiters := by
  unfold afterActivate
  rcases activate env sessionId token now launched w.controller with ⟨c, e | result⟩ <;> rfl

/-- A message that waits for no coordinator makes no waiter. -/
lemma afterControl_waiters {env : Env} {n : ℕ} {sessionId : String}
    {decoded : Except PyError LoopbackMessage}
    (h : ∀ ref request,
      (processControlMessage env sessionId decoded w.controller).2 ≠ .ok (.awaits ref request)) :
    (afterControl env w n sessionId decoded).waiters = w.waiters := by
  unfold afterControl
  generalize processControlMessage env sessionId decoded w.controller = outcome at h ⊢
  obtain ⟨c, e | reply⟩ := outcome
  · rfl
  · cases reply with
    | awaits ref request => exact absurd rfl (h ref request)
    | _ => rfl

/-- `process_control_message` by a new waiter. -/
lemma control_change (hg : Good w.controller) (hfree : w.waiters n = none) {sessionId : String}
    {decoded : Except PyError LoopbackMessage}
    (hlets : k.beginning → (∃ reason, decoded = .ok (.stop sessionId reason)) ∨
      decoded = .ok (.teardownComplete sessionId) → ∀ ref, w.controller.activeSession = some ref →
      (w.controller.heap ref).sessionId = sessionId →
        Lets env w.controller (w.controller.heap ref))
    (hspoken : decoded = .ok (.pageStarted sessionId) →
      ∀ ref, w.controller.activeSession = some ref →
        (w.controller.heap ref).sessionId = sessionId →
          (w.controller.heap ref).state.phase ≠ .live → ¬ k.silent) :
    Change k w (afterControl env w n sessionId decoded) := by
  have houtcome := control_outcome env hg sessionId decoded hlets hspoken
  unfold afterControl
  generalize processControlMessage env sessionId decoded w.controller = outcome at houtcome ⊢
  cases houtcome with
  | handled c' heffects hseen =>
    refine .internal heffects ?_ fun _ => .same
    simp [World.observe, World.withController, hseen]
  | raised c' e heffects => exact .internal heffects rfl fun _ => .same
  | pageStarted c' ref heffects hactive hlive hseen =>
    refine .pageStarted ref hactive heffects hlive ?_ rfl
    simp [World.observe, World.withController, hseen]
  | stopped c' ref request hbegun hseen =>
    refine .requested ref request false c' hbegun .refl (by simp) ?_ fun _ => .same
    simp [World.observe, World.withController, hseen]
  | awaits c' c₁ ref request hbegun heffect href htask hid =>
    refine .requested ref request false c₁ hbegun (.single heffect) (by simp) rfl
      (waiters_update ?_)
    refine .awaiting ref true (some sessionId) (by simp [hfree]) href htask fun s hs => ?_
    obtain rfl : sessionId = s := by simpa using hs
    exact hid
  | closed hlast => exact .answered sessionId hlast rfl rfl rfl

lemma activate_change {sessionId token : String} {launched : Option BrowserHandle} (now : ℚ)
    (hfresh : Fresh w.controller sessionId)
    (hopening : w.controller.activeSession = none → k.opening →
      env.observerRaises .launching = false)
    (hfailing : launched = none → w.controller.activeSession = none → k.failing →
      env.observerRaises .idle = false) :
    Change k w (afterActivate env w sessionId token now launched) := by
  unfold afterActivate
  rcases activate_cases (k := k) env token now hfresh hopening hfailing with
    ⟨c', r, hactivate, heffects, hnone, hresult⟩ |
      ⟨c', r, hactivate, hidle, heffect, hopen, hcreated, hid, hresult⟩
  · have hcalls : launches (openSession env sessionId token now w.controller).2 = [] := by
      unfold launches
      split
      · next ref href => exact absurd href (hnone ref)
      · rfl
    rw [hactivate, hcalls]
    rcases r with e | result
    · exact .internal heffects (by simp [World.observe, World.withController]) fun _ => .same
    · refine .internal heffects ?_ fun _ => .same
      simp [World.observe, World.withController, hresult result rfl]
  · rw [hactivate, hopen]
    rcases r with e | result
    · exact .launched sessionId false hidle heffect hcreated hid rfl rfl
    · refine .launched sessionId true hidle heffect hcreated hid ?_ rfl
      simp [World.observe, World.withController, hresult result rfl, launches]

/-! ### The coordinators -/

/-- A move of a coordinator's task is one effect. -/
lemma moveTask_effect {c : VoiceSessionController} (href : ref < c.created) {run : TeardownRun}
    (hrun : (c.heap ref).teardown.task = some run) {f : TeardownRun → TeardownRun}
    (hmove : TaskMove (c.activeSession = some ref) run (f run)) :
        Effect k c (moveTask c ref f) := by
  have htask : (c.heap ref).teardown.mapTask f =
      { (c.heap ref).teardown with task := some (f run) } := by
    rw [TeardownCoordinator.mapTask, hrun, Option.map_some]
  rw [moveTask, htask]
  exact .touched ref _ href ⟨rfl, rfl, rfl, rfl, rfl, rfl, rfl⟩ rfl
    (.moved run (f run) hrun hmove)

/-- A step that only moves a task. -/
lemma move_change {run : TeardownRun} (htask : taskOf w.controller ref = some run)
    {f : TeardownRun → TeardownRun}
    (hmove : TaskMove (w.controller.activeSession = some ref) run (f run)) :
    Change k w (w.withController (moveTask w.controller ref f)) := by
  obtain ⟨href, hrun⟩ := taskOf_some htask
  exact .internal (.single (moveTask_effect href hrun hmove)) rfl fun _ => .same

/-- A hook is called, and the task goes on. -/
lemma hook_change (hg : Good w.controller) {run : TeardownRun}
    (htask : taskOf w.controller ref = some run) {hook : TeardownHook}
    (hpoint : run.point = .calling hook) :
    Change k w (w.withController (moveTask (callHook env ref run hook w.controller).1 ref
      (hookCalled hook (callHook env ref run hook w.controller).2))) := by
  obtain ⟨href, hrun⟩ := taskOf_some htask
  obtain ⟨heffects, hsame⟩ := hook_effects (k := k) env hg href hrun hpoint
  have hrun' : ((callHook env ref run hook w.controller).1.heap ref).teardown.task = some run := by
    rwa [hsame.2]
  refine .internal (.tail heffects (moveTask_effect (by rwa [hsame.1]) hrun' ?_)) rfl fun _ => .same
  · rcases (callHook env ref run hook w.controller).2 with e | _ | _
    · exact .returned hook .error (.inl hpoint)
    · exact .returned hook .ok (.inl hpoint)
    · exact .suspended hook hpoint

/-- The finalization task runs. -/
lemma finalize_change (env : Env) (hg : Good w.controller) {run : TeardownRun}
    (htask : taskOf w.controller ref = some run) (hcreated : run.finalization = .created)
    (hcloses : w.controller.activeSession = some ref → k.closing →
      env.observerRaises .idle = false) :
    Change k w (w.withController (moveTask (finalize env ref run.request w.controller).1 ref
      fun r => r.finalized
        (finalizeResult (finalize env ref run.request w.controller).2))) := by
  obtain ⟨href, hrun⟩ := taskOf_some htask
  obtain ⟨heffects, hclosed, hsame⟩ := finalize_effects (k := k) env hg hrun hcloses
  have hrun' : ((finalize env ref run.request w.controller).1.heap ref).teardown.task =
      some run := by
    rwa [hsame.2]
  refine .internal (.tail heffects (moveTask_effect (by rwa [hsame.1]) hrun' ?_)) rfl fun _ => .same
  · exact .finalized _ hcreated hclosed

/-! ### Steps -/

/-- Who waits for a coordinator waits for one that has been started. -/
def Waits (w : World) : Prop :=
  ∀ n ref shield answers, w.waiters n = some (.awaiting ref shield answers) →
    ref < w.controller.created ∧ (w.controller.heap ref).teardown.task ≠ none ∧
      ∀ sessionId, answers = some sessionId → (w.controller.heap ref).sessionId = sessionId

lemma change_activate {sessionId token : String} {now : ℚ} {launched : Option BrowserHandle}
    (hw : step w (env, .activate sessionId token now launched) = some w') :
    Change (smooth w (env, .activate sessionId token now launched)) w w' := by
  rw [step, Option.ite_none_right_eq_some, Option.some_inj] at hw
  obtain ⟨⟨hfresh, -⟩, rfl⟩ := hw
  refine activate_change now hfresh (fun hidle h => ?_) fun hlaunch hidle h => ?_
  · exact h sessionId token now launched rfl hidle
  · subst hlaunch
    exact h sessionId token now rfl hidle

lemma change_control {sessionId : String} {decoded : Except PyError LoopbackMessage}
    (hg : Good w.controller) (hw : step w (env, .control n sessionId decoded) = some w') :
    Change (smooth w (env, .control n sessionId decoded)) w w' := by
  rw [step, Option.ite_none_left_eq_some, Option.some_inj] at hw
  obtain ⟨hfree, rfl⟩ := hw
  refine control_change hg (by simpa using hfree) (fun h hrequests ref hactive hid => ?_) ?_
  · refine h ref hactive ?_
    rcases hrequests with ⟨reason, rfl⟩ | rfl <;> rw [asks, if_pos rfl, hid]
  · rintro rfl ref hactive rfl hphase hsilent
    exact hsilent n ref hactive hphase rfl

lemma change_request {sessionId : String} {request : TeardownRequest} {shield : Bool}
    (hg : Good w.controller) (hw : step w (env, .request n sessionId request shield) = some w') :
    Change (smooth w (env, .request n sessionId request shield)) w w' := by
  rw [step, Option.ite_none_left_eq_some, Option.some_inj] at hw
  obtain ⟨hfree, rfl⟩ := hw
  refine request_change hg (by simp_all) fun h ref hactive hid => ?_
  exact h ref hactive (by rw [asks, hid])

lemma change_close {outcome : SessionOutcome} {error : Option String}
    (hw : step w (env, .close n outcome error) = some w') :
    Change (smooth w (env, .close n outcome error)) w w' := by
  rw [step, Option.ite_none_left_eq_some] at hw
  obtain ⟨hfree, hw⟩ := hw
  split at hw <;> obtain rfl := Option.some_inj.mp hw
  · exact .internal .refl rfl fun _ => .same
  · exact .internal .refl rfl (waiters_update (.closing _ _ (by simpa using hfree)))

lemma change_closeRequest (hg : Good w.controller) (hw : step w (env, .closeRequest n) = some w') :
    Change (smooth w (env, .closeRequest n)) w w' := by
  simp only [step] at hw
  split at hw
  · next sessionId request hn =>
    obtain rfl := Option.some_inj.mp hw
    refine request_change hg (by simp [hn]) fun h ref hactive hid => h ref hactive ?_
    simp [asks, hn, hid]
  · simp at hw

lemma change_deadlineFires (hw : step w (env, .deadlineFires n ref) = some w') :
    Change (smooth w (env, .deadlineFires n ref)) w w' := by
  rw [step, Option.ite_none_left_eq_some] at hw
  obtain ⟨hfree, hw⟩ := hw
  rw [not_or, not_not] at hfree
  split at hw
  · next deadline hd =>
    rw [Option.ite_none_right_eq_some, Option.some_inj] at hw
    obtain ⟨harmed, rfl⟩ := hw
    exact .fired n ref deadline hfree.2 hd harmed (by simpa using hfree.1) rfl rfl rfl
  · simp at hw

lemma change_expire (hg : Good w.controller) (hw : step w (env, .expire n) = some w') :
    Change (smooth w (env, .expire n)) w w' := by
  rcases hn : w.waiters n with _ | v
  · simp [step, hn] at hw
  cases v with
  | expiring ref =>
    refine expire_change hg hn hw fun h hstarting => h ref hstarting.1 ?_
    simp [asks, hn, hstarting]
  | closing _ _ => simp [step, hn] at hw
  | awaiting _ _ _ => simp [step, hn] at hw

lemma change_deliver (hw : step w (env, .deliver n) = some w') :
    Change (smooth w (env, .deliver n)) w w' := by
  simp only [step] at hw
  split at hw
  · next ref shield answers hn =>
    split at hw
    · next run hrun =>
      split_ifs at hw with hreturned hcancelled <;> obtain rfl := Option.some_inj.mp hw
      · exact .delivered n ref shield answers run hn hrun rfl rfl rfl
      · exact .internal .refl rfl (waiters_update (gone_of_free (by simp [hn])))
    · simp at hw
  · simp at hw

lemma change_cancel (hwaits : Waits w) (hw : step w (env, .cancel n) = some w') :
    Change (smooth w (env, .cancel n)) w w' := by
  simp only [step] at hw
  split at hw
  · next ref shield answers hn =>
    split_ifs at hw <;> obtain rfl := Option.some_inj.mp hw
    · exact .internal .refl rfl (waiters_update (gone_of_free (by simp [hn])))
    · refine .internal ?_ rfl (waiters_update (gone_of_free (by simp [hn])))
      obtain ⟨href, htask, -⟩ := hwaits n ref shield answers hn
      obtain ⟨run, hrun⟩ := Option.ne_none_iff_exists'.mp htask
      exact .single (moveTask_effect href hrun .cancelled)
  · next sessionId request hn =>
    obtain rfl := Option.some_inj.mp hw
    exact .internal .refl rfl (waiters_update (gone_of_free (by simp [hn])))
  · simp at hw

lemma change_enter (hw : step w (env, .enter ref) = some w') :
    Change (smooth w (env, .enter ref)) w w' := by
  simp only [step] at hw
  split at hw
  · next run hrun =>
    rw [Option.ite_none_right_eq_some, Option.some_inj] at hw
    obtain ⟨hpoint, rfl⟩ := hw
    exact move_change hrun (.entered hpoint)
  · simp at hw

lemma change_hook (hg : Good w.controller) (hw : step w (env, .hook ref) = some w') :
    Change (smooth w (env, .hook ref)) w w' := by
  simp only [step] at hw
  split at hw
  · next run hrun =>
    split at hw
    · next hook hpoint =>
      obtain rfl := Option.some_inj.mp hw
      exact hook_change hg hrun hpoint
    · simp at hw
  · simp at hw

lemma change_hookEnds {result : StepResult} (hw : step w (env, .hookEnds ref result) = some w') :
    Change (smooth w (env, .hookEnds ref result)) w w' := by
  simp only [step] at hw
  split at hw
  · next run hrun =>
    split at hw
    · next hook hpoint =>
      obtain rfl := Option.some_inj.mp hw
      exact move_change hrun (.returned hook result (.inr hpoint))
    · simp at hw
  · simp at hw

lemma change_ackArrives (hw : step w (env, .ackArrives ref) = some w') :
    Change (smooth w (env, .ackArrives ref)) w w' := by
  simp only [step] at hw
  split at hw
  · next run hrun =>
    rw [Option.ite_none_right_eq_some, Option.some_inj] at hw
    obtain ⟨⟨hpoint, -⟩, rfl⟩ := hw
    exact move_change hrun (.acked true hpoint)
  · simp at hw

lemma change_ackTimeout (hw : step w (env, .ackTimeout ref) = some w') :
    Change (smooth w (env, .ackTimeout ref)) w w' := by
  simp only [step] at hw
  split at hw
  · next run hrun =>
    rw [Option.ite_none_right_eq_some, Option.some_inj] at hw
    obtain ⟨hpoint, rfl⟩ := hw
    exact move_change hrun (.acked false hpoint)
  · simp at hw

lemma change_finalize (hg : Good w.controller) (hw : step w (env, .finalize ref) = some w') :
    Change (smooth w (env, .finalize ref)) w w' := by
  simp only [step] at hw
  split at hw
  · next run hrun =>
    rw [Option.ite_none_right_eq_some, Option.some_inj] at hw
    obtain ⟨hcreated, rfl⟩ := hw
    refine finalize_change env hg hrun hcreated fun hactive
      (h : (smooth w (env, .finalize ref)).closing) => ?_
    exact h ref rfl hactive
  · simp at hw

lemma change_finish (hw : step w (env, .finish ref) = some w') :
    Change (smooth w (env, .finish ref)) w w' := by
  simp only [step] at hw
  split at hw
  · next run hrun =>
    rw [Option.ite_none_right_eq_some, Option.some_inj] at hw
    obtain ⟨⟨hfinished, -⟩, rfl⟩ := hw
    exact move_change hrun (.finished hfinished)
  · simp at hw

/-- **Every step is one of the changes.** -/
theorem step_change {x : Env × Action} (hg : Good w.controller) (hwaits : Waits w)
    (hw : step w x = some w') :
    Change (smooth w x) w w' := by
  obtain ⟨env, a⟩ := x
  cases a with
  | activate sessionId token now launched => exact change_activate hw
  | control n sessionId decoded => exact change_control hg hw
  | request n sessionId request shield => exact change_request hg hw
  | close n outcome error => exact change_close hw
  | closeRequest n => exact change_closeRequest hg hw
  | deadlineFires n ref => exact change_deadlineFires hw
  | expire n => exact change_expire hg hw
  | deliver n => exact change_deliver hw
  | cancel n => exact change_cancel hwaits hw
  | enter ref => exact change_enter hw
  | hook ref => exact change_hook hg hw
  | hookEnds ref result => exact change_hookEnds hw
  | ackArrives ref => exact change_ackArrives hw
  | ackTimeout ref => exact change_ackTimeout hw
  | finalize ref => exact change_finalize hg hw
  | finish ref => exact change_finish hw
  | consume token now =>
    obtain rfl := Option.some_inj.mp hw
    exact .internal (.single (consume_effect _ _ _ _)) rfl fun _ => .same
  | publish sessionId message =>
    obtain rfl := Option.some_inj.mp hw
    exact .internal (publish_effects _ _ _ _) rfl fun _ => .same
  | get queue =>
    obtain rfl := Option.some_inj.mp hw
    exact .internal (.single (get_effect _ _ _)) rfl fun _ => .same
  | handoff sessionId record =>
    obtain rfl := Option.some_inj.mp hw
    exact .internal (handoff_effects _ _ _ _ _) rfl fun _ => .same
  | permission sessionId =>
    obtain rfl := Option.some_inj.mp hw
    exact .internal (permission_effects _ _ _) rfl fun _ => .same
  | beginResponse sessionId responseId receivedNs started =>
    obtain rfl := Option.some_inj.mp hw
    exact .internal (beginResponse_effects _ _ hg _ _ _ _) rfl fun _ => .same
  | interruption sessionId event =>
    obtain rfl := Option.some_inj.mp hw
    exact .internal (interruption_effects _ _ hg _ _) rfl fun _ => .same

/-! ### Runs -/

/-- A deadline that has fired changes nothing that the bookkeeping is about. -/
lemma fired_record (c : VoiceSessionController) (ref : ℕ) (d : Option BrowserStartupDeadline) :
    SameTables c (setSession c ref { c.heap ref with startupDeadline := d }) ∧
      Records c (setSession c ref { c.heap ref with startupDeadline := d }) := by
  refine ⟨⟨rfl, rfl, rfl, rfl, rfl, rfl, rfl⟩, .update rfl ?_⟩
  exact ⟨rfl, rfl, .inl rfl, List.prefix_rfl, fun h => h, fun run hrun => ⟨run, hrun, rfl⟩, .inl,
    fun h => h⟩

/-- A change leaves the bookkeeping intact, and takes nothing back. -/
lemma change_keeps (h : Change k w w') (hg : Good w.controller) :
    Good w'.controller ∧ Persists w.controller w'.controller := by
  cases h with
  | internal heffects => exact ⟨hg.effects heffects, hg.persists_effects heffects⟩
  | fired n ref d href hd harmed hfree hcontroller =>
    obtain ⟨hsame, hrecords⟩ := fired_record w.controller ref (some d.expire)
    rw [hcontroller]
    exact ⟨hg.records hsame hrecords, .records hg hsame hrecords⟩
  | requested ref request byDeadline c₁ hbegun heffects =>
    have hg₁ := hg.begun hbegun
    exact ⟨hg₁.effects heffects, (hg.persists_begun hbegun).trans (hg₁.persists_effects heffects)⟩
  | pageStarted ref hactive heffects =>
    exact ⟨hg.effects heffects, hg.persists_effects heffects⟩
  | launched sessionId returned hidle heffect =>
    exact ⟨hg.effect heffect, hg.persists_effect heffect⟩
  | delivered n ref shield answers run hn hrun hcontroller =>
    rw [hcontroller]
    exact ⟨hg, .refl _⟩
  | answered sessionId hlast hcontroller =>
    rw [hcontroller]
    exact ⟨hg, .refl _⟩

lemma waiterStep_waits {c c' : VoiceSessionController} {v v' : Option Waiter} {shield : Bool}
    {answers : Option String} (h : WaiterStep c' v v') (hc : Persists c c')
    (hv' : v' = some (.awaiting ref shield answers))
    (hv : v = some (.awaiting ref shield answers) → ref < c.created ∧
      (c.heap ref).teardown.task ≠ none ∧
        ∀ sessionId, answers = some sessionId → (c.heap ref).sessionId = sessionId) :
    ref < c'.created ∧ (c'.heap ref).teardown.task ≠ none ∧
      ∀ sessionId, answers = some sessionId → (c'.heap ref).sessionId = sessionId := by
  cases h with
  | same =>
    obtain ⟨href, htask, hanswers⟩ := hv hv'
    obtain ⟨run, hrun⟩ := Option.ne_none_iff_exists'.mp htask
    obtain ⟨run', hrun', -⟩ := hc.task ref href run hrun
    exact ⟨lt_of_lt_of_le href hc.created, by simp [hrun'], fun s hs => by
      rw [hc.id ref href, hanswers s hs]⟩
  | closing => simp at hv'
  | gone => simp at hv'
  | awaiting r b a hexpiring href htask hanswers =>
    obtain ⟨rfl, rfl, rfl⟩ : r = ref ∧ b = shield ∧ a = answers := by simpa using hv'
    exact ⟨href, htask, hanswers⟩

/-- The bookkeeping is intact, and everyone who waits has something to wait for. -/
structure Sound (w : World) : Prop where
  good : Good w.controller
  waits : Waits w

lemma change_waits (h : Change k w w') (hw : Sound w) : Waits w' := by
  obtain ⟨-, hpersists⟩ := change_keeps h hw.good
  have hall (hstep : ∀ n, WaiterStep w'.controller (w.waiters n) (w'.waiters n)) : Waits w' :=
    fun n ref shield answers hn => waiterStep_waits (hstep n) hpersists hn
      (hw.waits n ref shield answers)
  cases h with
  | internal _ _ hwaiters => exact hall hwaiters
  | fired n r d href hd harmed hfree hcontroller hlog hwaiters =>
    intro m ref shield answers hm
    rw [hwaiters] at hm
    by_cases hmn : m = n
    · subst hmn
      simp at hm
    · rw [Function.update_of_ne hmn] at hm
      exact waiterStep_waits .same hpersists hm (hw.waits m ref shield answers)
  | requested _ _ _ _ _ _ _ _ hwaiters => exact hall hwaiters
  | pageStarted _ _ _ _ _ hwaiters => exact hall fun n => by rw [hwaiters]; exact .same
  | launched _ _ _ _ _ _ _ hwaiters => exact hall fun n => by rw [hwaiters]; exact .same
  | delivered n r b a run hn hrun hcontroller hlog hwaiters =>
    refine hall fun m => ?_
    rw [hwaiters]
    exact waiters_update (gone_of_free (by simp [hn])) m
  | answered _ _ _ _ hwaiters => exact hall fun n => by rw [hwaiters]; exact .same

lemma Sound.change (hw : Sound w) (h : Change k w w') : Sound w' :=
  ⟨(change_keeps h hw.good).1, change_waits h hw⟩

lemma Sound.step {x : Env × Action} (hw : Sound w) (h : step w x = some w') : Sound w' :=
  hw.change (step_change hw.good hw.waits h)

lemma sound_start (g : Config) : Sound (start g) := by
  refine ⟨⟨?_, ?_, ?_, ?_, ?_, ?_, ?_, ?_⟩, ?_⟩ <;> simp [start, Waits]

/-- **A run keeps the bookkeeping intact, and takes nothing back.** -/
theorem Sound.run {C : World → Env × Action → Prop} {as : List (Env × Action)} (hw : Sound w)
    (h : Run SessionRuns.step C w as w') : Sound w' ∧ Persists w.controller w'.controller := by
  refine ⟨h.invariant hw fun _ _ _ ht _ hs => ht.step hs, ?_⟩
  have htrans (t u v : World) (h₁ : Persists t.controller u.controller)
      (h₂ : Persists u.controller v.controller) : Persists t.controller v.controller :=
    h₁.trans h₂
  refine h.respects (R := fun t u => Persists t.controller u.controller) hw
    (fun _ _ _ ht _ hs => ht.step hs) (fun t => .refl _) htrans fun t x u ht _ hs => ?_
  exact (change_keeps (step_change ht.good ht.waits hs) ht.good).2

end HermesRealtime.Changes

import HermesRealtime.StepCases

/-!
A coordinator whose task is cancelled. The handler of the cancellation sees to the finalization,
wherever in the body it comes; but a task that is cancelled before its first step has no handler
yet, and its session is never finalized.
-/

namespace HermesRealtime.Finalizations

open Values Phases Teardown Controller Operations SessionRuns Lifecycle Bookkeeping CriticalSections
  Changes StepCases Runs

variable {env : Env} {w w' : World} {c c' : VoiceSessionController} {ref : ℕ}
  {run run' : TeardownRun}

/-- A task that has not been entered is cancelled. -/
def cancelsCreated (w : World) : Action → Bool
  | .cancel n =>
    match w.waiters n with
    | some (.awaiting ref false _) =>
      (w.controller.heap ref).teardown.task.any fun run => run.point = .created
    | _ => false
  | _ => false

/-- No cancellation comes before the first step of a coordinator's task, and the observer does not
raise when it is told that the session is closed. -/
def Finalizes (w : World) (x : Env × Action) : Prop :=
  cancelsCreated w x.2 = false ∧ ∀ ref, x.2 = .finalize ref → x.1.observerRaises .idle = false

def isFinalize (ref : ℕ) : Action → Bool
  | .finalize r => r = ref
  | _ => false

/-- How often the finalize hook of the session was invoked. -/
def finalizations (ref : ℕ) (as : List (Env × Action)) : ℕ := as.countP fun x => isFinalize ref x.2

/-- How many steps of its own a task has left at most. -/
def stepsLeft (run : TeardownRun) : ℕ :=
  match run.point with
  | .created => 15
  | .calling .markStopping => 14
  | .suspended .markStopping => 13
  | .calling .requestBrowserStop => 12
  | .suspended .requestBrowserStop => 11
  | .awaitingAck => 10
  | .calling .closeBrowser => 9
  | .suspended .closeBrowser => 8
  | .calling .releaseProfileLock => 7
  | .suspended .releaseProfileLock => 6
  | .calling .persistTrace => 5
  | .suspended .persistTrace => 4
  | .awaitingFinalize _ => if run.finalization = .finished then 1 else 2
  | .returned | .cancelled => if run.finalization = .created then 1 else 0

/-! ### One coordinator -/

/-- The finalization task exists from the moment the body is done with the hooks. -/
def InStep (run : TeardownRun) : Prop :=
  match run.point with
  | .created | .calling _ | .suspended _ | .awaitingAck => run.finalization = .absent
  | .awaitingFinalize _ | .cancelled => run.finalization ≠ .absent
  | .returned => run.finalization = .finished

/-- The finalization is as it was, or has been created. -/
def SameEnd (run run' : TeardownRun) : Prop :=
  run'.request = run.request ∧ (run'.finalization = .finished ↔ run.finalization = .finished)

lemma inStep_returned {hook : TeardownHook} (result : StepResult) (hin : InStep run)
    (hpoint : run.point = .calling hook ∨ run.point = .suspended hook) :
    InStep (run.hookReturned hook result) ∧ SameEnd run (run.hookReturned hook result) ∧
      stepsLeft (run.hookReturned hook result) < stepsLeft run := by
  have habsent : run.finalization = .absent := by
    rcases hpoint with hpoint | hpoint <;> simpa [InStep, hpoint] using hin
  refine ⟨?_, ⟨by simp, ?_⟩, ?_⟩
  · cases hook with
    | requestBrowserStop =>
      simp only [TeardownRun.hookReturned]
      split_ifs <;> exact habsent
    | persistTrace => simp [TeardownRun.hookReturned, InStep]
    | _ => exact habsent
  · cases hook with
    | requestBrowserStop =>
      simp only [TeardownRun.hookReturned]
      split_ifs <;> rfl
    | persistTrace => simp [TeardownRun.hookReturned, habsent]
    | _ => rfl
  · cases hook with
    | requestBrowserStop =>
      simp only [TeardownRun.hookReturned]
      rcases hpoint with hpoint | hpoint <;> split_ifs <;> simp [stepsLeft, hpoint]
    | _ => rcases hpoint with hpoint | hpoint <;> simp [TeardownRun.hookReturned, stepsLeft, hpoint]

/-- A hook is called. -/
lemma inStep_called {hook : TeardownHook} (result : Except PyError Bool) (hin : InStep run)
    (hpoint : run.point = .calling hook) :
    InStep (hookCalled hook result run) ∧ SameEnd run (hookCalled hook result run) ∧
      stepsLeft (hookCalled hook result run) < stepsLeft run := by
  have habsent : run.finalization = .absent := by simpa [InStep, hpoint] using hin
  unfold hookCalled
  split
  · refine ⟨habsent, ⟨rfl, Iff.rfl⟩, ?_⟩
    cases hook <;> simp [stepsLeft, hpoint]
  · exact inStep_returned _ hin (.inl hpoint)
  · exact inStep_returned _ hin (.inl hpoint)

lemma inStep_acked (inTime : Bool) (hin : InStep run) (hpoint : run.point = .awaitingAck) :
    InStep (run.ackAwaited inTime) ∧ SameEnd run (run.ackAwaited inTime) ∧
      stepsLeft (run.ackAwaited inTime) < stepsLeft run := by
  have habsent : run.finalization = .absent := by simpa [InStep, hpoint] using hin
  cases inTime <;>
    exact ⟨habsent, ⟨rfl, Iff.rfl⟩, by simp [stepsLeft, TeardownRun.ackAwaited, hpoint]⟩

/-- **A cancellation in the body leaves a finalization to be run**, also the next ones. -/
lemma inStep_cancelled (hin : InStep run) (hpoint : run.point ≠ .created) :
    InStep run.cancel ∧ SameEnd run run.cancel := by
  cases hp : run.point with
  | created => exact absurd hp hpoint
  | calling hook | suspended hook | awaitingAck =>
    have habsent : run.finalization = .absent := by simpa [InStep, hp] using hin
    simp [TeardownRun.cancel, hp, InStep, SameEnd, habsent]
  | awaitingFinalize cancelled =>
    have hthere : run.finalization ≠ .absent := by simpa [InStep, hp] using hin
    cases cancelled <;> simp [TeardownRun.cancel, hp, InStep, SameEnd, hthere]
  | returned | cancelled =>
    have hsame : run.cancel = run := by simp [TeardownRun.cancel, hp]
    rw [hsame]
    exact ⟨hin, rfl, Iff.rfl⟩

lemma inStep_finished {cancelled : Bool} (hpoint : run.point = .awaitingFinalize cancelled)
    (hfinished : run.finalization = .finished) :
    InStep run.finish ∧ SameEnd run run.finish ∧ stepsLeft run.finish < stepsLeft run := by
  cases cancelled <;>
    simp [TeardownRun.finish, hpoint, InStep, SameEnd, hfinished, stepsLeft]

lemma inStep_finalized (result : StepResult) (hin : InStep run)
    (hcreated : run.finalization = .created) :
    InStep (run.finalized result) ∧ stepsLeft (run.finalized result) < stepsLeft run := by
  cases hp : run.point <;> simp_all [InStep, TeardownRun.finalized, stepsLeft]

/-! ### The sessions -/

/-- The session is active until it is finalized, and then it has its result. -/
structure Underway (c : VoiceSessionController) (ref : ℕ) (run : TeardownRun) : Prop where
  inStep : InStep run
  active : c.activeSession = some ref ↔ run.finalization ≠ .finished
  result : run.finalization = .finished →
    c.terminalResults (c.heap ref).sessionId = some (closingResult (c.heap ref) run.request)

/-- Whoever has a coordinator is on the way to its end, or there. -/
def Tended (c : VoiceSessionController) : Prop :=
  ∀ ref run, (c.heap ref).teardown.task = some run → ref < c.created ∧ Underway c ref run

/-- The results of sessions stay, so what matters is who is active. -/
lemma Underway.keep (hu : Underway c ref run) (href : ref < c.created) (hkept : Persists c c')
    (hactive : c'.activeSession = some ref ↔ c.activeSession = some ref) (hin : InStep run')
    (hsame : SameEnd run run') : Underway c' ref run' := by
  refine ⟨hin, ?_, fun hfinished => ?_⟩
  · rw [hactive, hu.active, ne_eq, ne_eq, hsame.2]
  · have hid := hkept.id ref href
    have hresult := hkept.results _ _ (hu.result (hsame.2.mp hfinished))
    rw [hid]
    simpa [closingResult, hid, hsame.1] using hresult

lemma Underway.same (hu : Underway c ref run) (href : ref < c.created) (hkept : Persists c c')
    (hactive : c'.activeSession = c.activeSession) : Underway c' ref run :=
  hu.keep href hkept (by rw [hactive]) hu.inStep ⟨rfl, Iff.rfl⟩

/-- A task that has just been started. -/
lemma underway_started {request : TeardownRequest} (hactive : c.activeSession = some ref) :
    Underway c ref { request } := ⟨rfl, by simp [hactive], by simp⟩

/-- Where tasks are started at most, all are tended as before. -/
lemma Tended.leaves (ht : Tended c) (hg : Good c) (hkept : Persists c c') (h : Leaves c c') :
    Tended c' := by
  intro r run hrun
  rcases h.tasks r with hsame | ⟨hactive, -, request, hstarted⟩
  · rw [hsame] at hrun
    obtain ⟨href, hu⟩ := ht r run hrun
    exact ⟨href.trans_le hkept.created, hu.same href hkept h.active⟩
  · rw [hstarted, Option.some_inj] at hrun
    subst hrun
    exact ⟨(hg.active r hactive).1.trans_le hkept.created,
      underway_started (h.active.trans hactive)⟩

/-- One task moves on, and no other more than to its start. -/
lemma Tended.move (ht : Tended c) (hg : Good c) (hkept : Persists c c')
    (hactive : c'.activeSession = c.activeSession)
    (hothers : ∀ r ≠ ref, TaskKept (c.activeSession = some r) (c.heap r).teardown.task
      (c'.heap r).teardown.task)
    (hrun : (c.heap ref).teardown.task = some run)
    (hrun' : (c'.heap ref).teardown.task = some run') (hin : InStep run')
    (hsame : SameEnd run run') : Tended c' := by
  intro r q hq
  by_cases hr : r = ref
  · subst hr
    rw [hrun', Option.some_inj] at hq
    subst hq
    obtain ⟨href, hu⟩ := ht r run hrun
    exact ⟨href.trans_le hkept.created, hu.keep href hkept (by rw [hactive]) hin hsame⟩
  · rcases hothers r hr with hold | ⟨hown, -, request, hstarted⟩
    · rw [hold] at hq
      obtain ⟨href, hu⟩ := ht r q hq
      exact ⟨href.trans_le hkept.created, hu.same href hkept hactive⟩
    · rw [hstarted, Option.some_inj] at hq
      subst hq
      exact ⟨(hg.active r hown).1.trans_le hkept.created, underway_started (hactive.trans hown)⟩

/-- A task that goes on when a hook has been called. -/
lemma Tended.hook (ht : Tended c) (hg : Good c) {c₁ : VoiceSessionController}
    {hook : TeardownHook} {result : Except PyError Bool}
    (hkept : Persists c (moveTask c₁ ref (hookCalled hook result)))
    (hactive : c₁.activeSession = c.activeSession)
    (htasks : ∀ r, TaskKept (c.activeSession = some r) (c.heap r).teardown.task
      (c₁.heap r).teardown.task)
    (hrun : (c.heap ref).teardown.task = some run) (hpoint : run.point = .calling hook) :
    Tended (moveTask c₁ ref (hookCalled hook result)) := by
  have hrun₁ := (htasks ref).of_some hrun
  obtain ⟨hin, hsame, -⟩ := inStep_called result (ht ref run hrun).2.inStep hpoint
  refine ht.move hg hkept hactive (fun r hr => ?_) hrun (moveTask_task hrun₁ _) hin hsame
  rw [moveTask_of_ne hr]
  exact htasks r

/-- The moves of a task, unless it is cancelled before its first step. -/
lemma inStep_moves {a : Action} (h : Moves w a ref run run')
    (hrun : (w.controller.heap ref).teardown.task = some run) (hin : InStep run)
    (hc : cancelsCreated w a = false) :
    InStep run' ∧ SameEnd run run' ∧ (Own ref a → stepsLeft run' < stepsLeft run) := by
  cases h with
  | entered ref run hpoint =>
    have habsent : run.finalization = .absent := by simpa [InStep, hpoint] using hin
    exact ⟨habsent, ⟨rfl, Iff.rfl⟩, fun _ => by simp [stepsLeft, hpoint]⟩
  | ended ref result hook run hpoint =>
    obtain ⟨hin, hsame, hlt⟩ := inStep_returned result hin (.inr hpoint)
    exact ⟨hin, hsame, fun _ => hlt⟩
  | acked ref run hpoint =>
    obtain ⟨hin, hsame, hlt⟩ := inStep_acked true hin hpoint
    exact ⟨hin, hsame, fun _ => hlt⟩
  | timedOut ref run hpoint =>
    obtain ⟨hin, hsame, hlt⟩ := inStep_acked false hin hpoint
    exact ⟨hin, hsame, fun _ => hlt⟩
  | cancelled n ref answers run hn =>
    obtain ⟨hin, hsame⟩ := inStep_cancelled hin (by simpa [cancelsCreated, hn, hrun] using hc)
    exact ⟨hin, hsame, fun hown => by cases hown⟩
  | finished ref cancelled run hfinished hpoint =>
    obtain ⟨hin, hsame, hlt⟩ := inStep_finished hpoint hfinished
    exact ⟨hin, hsame, fun _ => hlt⟩

/-- The finalization of an active session, when the observer lets it end. -/
lemma finalize_active (env : Env) (hg : Good c)
    (hrun : (c.heap ref).teardown.task = some run) (hactive : c.activeSession = some ref)
    (hquiet : env.observerRaises .idle = false) :
    ∃ state, finalize env ref run.request c = (afterClose c ref state run.request, .ok ()) := by
  have hresult := (hg.active ref hactive).2.2
  have hphase := hg.stopping hactive (by simp [hrun])
  obtain ⟨state, next, -, -, ⟨hraises, -⟩ | hfinalize⟩ :=
    finalize_cases env hactive hphase hresult run.request
  · simp [hquiet] at hraises
  · exact ⟨state, hfinalize⟩

/-- **Every step keeps the coordinators on the way to the end of their sessions.** -/
theorem tended_step {a : Action} (hw : Sound w) (ht : Tended w.controller)
    (hc : Finalizes w (env, a)) (hs : step w (env, a) = some w') : Tended w'.controller := by
  have hg := hw.good
  have hkept := (change_keeps (step_change hg hw.waits hs) hg).2
  have hstill (hheap : w'.controller.heap = w.controller.heap)
      (hactive : w'.controller.activeSession = w.controller.activeSession) :
      Tended w'.controller := by
    intro r run hrun
    rw [hheap] at hrun
    obtain ⟨href, hu⟩ := ht r run hrun
    exact ⟨href.trans_le hkept.created, hu.same href hkept hactive⟩
  cases step_case hs with
  | minor a hother h => exact ht.leaves hg hkept h
  | activated sessionId token now launched hfresh h =>
    intro r run hrun
    have hold : r ≠ w.controller.created := by
      rintro rfl
      rcases h.created with ⟨-, -, hheap, -⟩ | ⟨-, -, hnone, -⟩
      · rw [hheap] at hrun
        exact absurd (ht _ run hrun).1 (lt_irrefl _)
      · rw [hnone] at hrun
        cases hrun
    rw [h.heap r hold] at hrun
    obtain ⟨href, hu⟩ := ht r run hrun
    refine ⟨href.trans_le hkept.created, hu.keep href hkept ?_ hu.inStep ⟨rfl, Iff.rfl⟩⟩
    rw [h.idle]
    refine iff_of_false (fun hactive => ?_) (by simp)
    rcases h.created with ⟨-, hnone, -⟩ | ⟨-, hnone | hnew, -⟩
    · simp [hnone] at hactive
    · simp [hnone] at hactive
    · rw [hnew, Option.some_inj] at hactive
      exact hold hactive.symm
  | consumed token now h => exact hstill (by rw [h]) (by rw [h])
  | published sessionId message queue hroom hmessage hactive hqueue h hput =>
    exact hstill (by rw [hput]; rfl) (by rw [hput]; rfl)
  | got queue h => exact hstill (by rw [h]; rfl) (by rw [h]; rfl)
  | moved a ref run run' hrun hmoves h =>
    obtain ⟨hin, hsame, -⟩ := inStep_moves hmoves hrun (ht ref run hrun).2.inStep hc.1
    rw [h] at hkept ⊢
    refine ht.move hg hkept rfl (fun r hr => .inl ?_) hrun (moveTask_task hrun _) hin hsame
    rw [moveTask_of_ne hr]
  | hooked ref hook run c₁ result hrun hpoint _ hleaves h =>
    rw [h] at hkept ⊢
    exact ht.hook hg hkept hleaves.active hleaves.tasks (taskOf_some hrun).2 hpoint
  | asked ref run own queue c₁ result hrun hpoint hasked h =>
    rw [h] at hkept ⊢
    exact ht.hook hg hkept hasked.rest.active hasked.rest.tasks (taskOf_some hrun).2 hpoint
  | finalized ref run hrun hcreated h =>
    obtain ⟨href, hrun⟩ := taskOf_some hrun
    obtain ⟨-, hu⟩ := ht ref run hrun
    have hactive : w.controller.activeSession = some ref := hu.active.mpr (by simp [hcreated])
    obtain ⟨state, hfinalize⟩ := finalize_active env hg hrun hactive (hc.2 ref rfl)
    rw [hfinalize] at h
    rw [h] at hkept ⊢
    have hclosed : ((afterClose w.controller ref state run.request).heap ref).teardown.task =
        some run := by
      simp [afterClose, closedSession, hrun]
    intro r q hq
    by_cases hr : r = ref
    · subst hr
      rw [moveTask_task hclosed, Option.some_inj] at hq
      subst hq
      refine ⟨href, (inStep_finalized _ hu.inStep hcreated).1, ?_, fun _ => ?_⟩
      · simp [moveTask, setSession, afterClose, atClose, TeardownRun.finalized]
      · simp [moveTask, setSession, afterClose, closedSession, closingResult, TeardownRun.finalized]
    · rw [moveTask_of_ne hr] at hq
      have hq' : (w.controller.heap r).teardown.task = some q := by
        have hheap : (afterClose w.controller ref state run.request).heap r = w.controller.heap r :=
          Function.update_of_ne hr _ _
        rwa [hheap] at hq
      obtain ⟨hr', hu'⟩ := ht r q hq'
      refine ⟨hr', hu'.keep hr' hkept ?_ hu'.inStep ⟨rfl, Iff.rfl⟩⟩
      refine iff_of_false (by simp [moveTask, setSession, afterClose, atClose]) ?_
      rw [hactive, Option.some_inj]
      exact fun h => hr h.symm

/-! ### The steps of a coordinator -/

/-- Until its end a coordinator has a step to take, whatever its hooks do. -/
lemma own_enabled (ht : Tended w.controller)
    (hrun : (w.controller.heap ref).teardown.task = some run)
    (hrest : ¬ run.Finished) : ∃ env a w', Own ref a ∧ step w (env, a) = some w' := by
  obtain ⟨href, hu⟩ := ht ref run hrun
  have htask : taskOf w.controller ref = some run := by rw [taskOf, if_pos href, hrun]
  have hin := hu.inStep
  have htakes {a : Action} (hown : Own ref a) (hs : (step w (stillEnv, a)).isSome) :
      ∃ env a w', Own ref a ∧ step w (env, a) = some w' := by
    obtain ⟨w', hw'⟩ := Option.isSome_iff_exists.mp hs
    exact ⟨stillEnv, a, w', hown, hw'⟩
  by_cases hcreated : run.finalization = .created
  · exact htakes .finalize (by simp [step, htask, hcreated])
  cases hp : run.point with
  | created => exact htakes .enter (by simp [step, htask, hp])
  | calling hook => exact htakes .hook (by simp [step, htask, hp])
  | suspended hook => exact htakes (.hookEnds .timeout) (by simp [step, htask, hp])
  | awaitingAck => exact htakes .ackTimeout (by simp [step, htask, hp])
  | awaitingFinalize cancelled =>
    have hfinished : run.finalization = .finished := by
      cases hf : run.finalization <;> simp_all [InStep]
    exact htakes .finish (by simp [step, htask, hp, hfinished])
  | returned => exact absurd ⟨.inl hp, hcreated⟩ hrest
  | cancelled => exact absurd ⟨.inr hp, hcreated⟩ hrest

/-- Every one of them leaves fewer. -/
lemma own_decreases {a : Action} (hg : Good w.controller) (ht : Tended w.controller)
    (hrun : (w.controller.heap ref).teardown.task = some run) (hown : Own ref a)
    (hs : step w (env, a) = some w') :
    ∃ run', (w'.controller.heap ref).teardown.task = some run' ∧
        stepsLeft run' < stepsLeft run := by
  have hin := (ht ref run hrun).2.inStep
  have hcalled {c₁ : VoiceSessionController} {hook : TeardownHook} {result : Except PyError Bool}
      {run₀ : TeardownRun} (hrun₀ : taskOf w.controller ref = some run₀)
      (hpoint : run₀.point = .calling hook)
      (htask : TaskKept (w.controller.activeSession = some ref)
        (w.controller.heap ref).teardown.task (c₁.heap ref).teardown.task)
      (h : w'.controller = moveTask c₁ ref (hookCalled hook result)) :
      ∃ run', (w'.controller.heap ref).teardown.task = some run' ∧
        stepsLeft run' < stepsLeft run := by
    obtain rfl : run = run₀ := by
      have := (taskOf_some hrun₀).2
      simpa [hrun] using this
    have hrun₁ := htask.of_some hrun
    rw [h]
    exact ⟨_, moveTask_task hrun₁ _, (inStep_called result hin hpoint).2.2⟩
  cases step_case hs with
  | minor a hother h => exact absurd hown (hother ref)
  | activated | consumed | published | got => cases hown
  | moved a r run₀ run' hrun₀ hmoves h =>
    have hc : cancelsCreated w a = false := by cases hown <;> rfl
    obtain rfl : r = ref := by cases hown <;> cases hmoves <;> rfl
    obtain rfl : run = run₀ := by simpa [hrun] using hrun₀
    rw [h]
    exact ⟨run', moveTask_task hrun _, (inStep_moves hmoves hrun hin hc).2.2 hown⟩
  | hooked r hook run₀ c₁ result hrun₀ hpoint _ hleaves h =>
    cases hown
    exact hcalled hrun₀ hpoint (hleaves.tasks ref) h
  | asked r run₀ own queue c₁ result hrun₀ hpoint hasked h =>
    cases hown
    exact hcalled hrun₀ hpoint (hasked.rest.tasks ref) h
  | finalized r run₀ hrun₀ hcreated h =>
    cases hown
    obtain ⟨href, hrun₀⟩ := taskOf_some hrun₀
    obtain rfl : run = run₀ := by simpa [hrun] using hrun₀
    have hsame := (finalize_effects (k := ⟨True, True, False, True, True⟩) env hg hrun
      fun _ h => h.elim).2.2
    rw [h]
    refine ⟨_, moveTask_task ?_ _, (inStep_finalized _ hin hcreated).2⟩
    rw [hsame.2, hrun]

lemma stepsLeft_cancel (run : TeardownRun) : stepsLeft run.cancel ≤ stepsLeft run := by
  cases hp : run.point with
  | calling hook | suspended hook => cases hook <;> simp [TeardownRun.cancel, hp, stepsLeft]
  | awaitingFinalize cancelled =>
    cases cancelled <;> cases hf : run.finalization <;>
      simp [TeardownRun.cancel, hp, hf, stepsLeft]
  | created =>
    simp only [TeardownRun.cancel, hp, stepsLeft]
    split_ifs <;> omega
  | _ => simp [TeardownRun.cancel, hp, stepsLeft]

/-- No step leaves more. -/
lemma step_leaves {a : Action} (hg : Good w.controller) (ht : Tended w.controller)
    (hrun : (w.controller.heap ref).teardown.task = some run) (hs : step w (env, a) = some w') :
    ∃ run', (w'.controller.heap ref).teardown.task = some run' ∧
        stepsLeft run' ≤ stepsLeft run := by
  obtain ⟨href, hu⟩ := ht ref run hrun
  have hin := hu.inStep
  obtain ⟨run', hrun', hstep⟩ := task_step hg href hrun hs
  refine ⟨run', hrun', ?_⟩
  cases hstep with
  | same => exact le_rfl
  | called hook result ha hpoint => exact (inStep_called result hin hpoint).2.2.le
  | finalized result ha hcreated => exact (inStep_finalized result hin hcreated).2.le
  | moved hmoves =>
    cases hmoves with
    | entered ref run hpoint => simp [stepsLeft, hpoint]
    | ended ref result hook run hpoint => exact (inStep_returned result hin (.inr hpoint)).2.2.le
    | acked ref run hpoint => exact (inStep_acked true hin hpoint).2.2.le
    | timedOut ref run hpoint => exact (inStep_acked false hin hpoint).2.2.le
    | cancelled n ref answers run hn => exact stepsLeft_cancel run
    | finished ref cancelled run hfinished hpoint => exact (inStep_finished hpoint hfinished).2.2.le

/-! ### Once -/

/-- The session has been finalized. -/
def finalizedIn (c : VoiceSessionController) (ref : ℕ) : Bool :=
  (c.heap ref).teardown.task.any fun run => run.finalization = .finished

lemma finalizedIn_of_kept {active : Prop}
    (h : TaskKept active (c.heap ref).teardown.task (c'.heap ref).teardown.task) :
    finalizedIn c' ref = finalizedIn c ref := by
  unfold finalizedIn
  rcases h with hsame | ⟨-, hnone, request, hstarted⟩
  · rw [hsame]
  · rw [hnone, hstarted]
    rfl

lemma finalizedIn_of_moved (hrun : (c.heap ref).teardown.task = some run)
    (hrun' : (c'.heap ref).teardown.task = some run') (hsame : SameEnd run run') :
    finalizedIn c' ref = finalizedIn c ref := by
  simp [finalizedIn, hrun, hrun', hsame.2]

/-- The hook is invoked by the step that finalizes the session. -/
lemma finalizedIn_step {a : Action} (hw : Sound w) (ht : Tended w.controller)
    (hc : Finalizes w (env, a)) (hs : step w (env, a) = some w') (r : ℕ) :
    (finalizedIn w'.controller r).toNat =
      (finalizedIn w.controller r).toNat + (isFinalize r a).toNat := by
  have hstill (hother : isFinalize r a = false)
      (h : finalizedIn w'.controller r = finalizedIn w.controller r) :
      (finalizedIn w'.controller r).toNat =
        (finalizedIn w.controller r).toNat + (isFinalize r a).toNat := by
    rw [h, hother]
    rfl
  -- what a hook leaves of the task
  have hcalled {ref : ℕ} {run : TeardownRun} {hook : TeardownHook} {c₁ : VoiceSessionController}
      {result : Except PyError Bool} (hrun : taskOf w.controller ref = some run)
      (hpoint : run.point = .calling hook)
      (htasks : ∀ r, TaskKept (w.controller.activeSession = some r)
        (w.controller.heap r).teardown.task (c₁.heap r).teardown.task)
      (h : w'.controller = moveTask c₁ ref (hookCalled hook result)) :
      finalizedIn w'.controller r = finalizedIn w.controller r := by
    obtain ⟨-, hrun⟩ := taskOf_some hrun
    rw [h]
    by_cases hr : r = ref
    · subst hr
      have hrun₁ := (htasks r).of_some hrun
      exact finalizedIn_of_moved hrun (moveTask_task hrun₁ _)
        (inStep_called result (ht r run hrun).2.inStep hpoint).2.1
    · have hkept := htasks r
      rw [← moveTask_of_ne (c := c₁) hr (hookCalled hook result)] at hkept
      exact finalizedIn_of_kept hkept
  cases step_case hs with
  | minor a hother h =>
    refine hstill ?_ (finalizedIn_of_kept (h.tasks r))
    cases a with
    | finalize ref => exact absurd .finalize (hother ref)
    | _ => rfl
  | activated sessionId token now launched hfresh h =>
    refine hstill rfl ?_
    by_cases hr : r = w.controller.created
    · subst hr
      have hnone : (w.controller.heap w.controller.created).teardown.task = none := by
        rcases hrun : (w.controller.heap w.controller.created).teardown.task with _ | run
        · rfl
        · exact absurd (ht _ run hrun).1 (lt_irrefl _)
      rcases h.created with ⟨-, -, hheap, -⟩ | ⟨-, -, hnew, -⟩
      · rw [finalizedIn, finalizedIn, hheap]
      · rw [finalizedIn, finalizedIn, hnew, hnone]
    · rw [finalizedIn, finalizedIn, h.heap r hr]
  | consumed token now h => exact hstill rfl (by rw [h]; rfl)
  | published sessionId message queue hroom hmessage hactive hqueue h hput =>
    exact hstill rfl (by rw [hput]; rfl)
  | got queue h => exact hstill rfl (by rw [h]; rfl)
  | moved a ref run run' hrun hmoves h =>
    obtain ⟨-, hsame, -⟩ := inStep_moves hmoves hrun (ht ref run hrun).2.inStep hc.1
    refine hstill (by cases hmoves <;> rfl) ?_
    rw [h]
    by_cases hr : r = ref
    · subst hr
      exact finalizedIn_of_moved hrun (moveTask_task hrun _) hsame
    · rw [finalizedIn, finalizedIn, moveTask_of_ne hr]
  | hooked ref hook run c₁ result hrun hpoint _ hleaves h =>
    exact hstill rfl (hcalled hrun hpoint hleaves.tasks h)
  | asked ref run own queue c₁ result hrun hpoint hasked h =>
    exact hstill rfl (hcalled hrun hpoint hasked.rest.tasks h)
  | finalized ref run hrun hcreated h =>
    obtain ⟨href, hrun⟩ := taskOf_some hrun
    have hsame := (finalize_effects (k := ⟨True, True, False, True, True⟩) env hw.good hrun
      fun _ h => h.elim).2.2
    have hrun' : ((finalize env ref run.request w.controller).1.heap ref).teardown.task =
        some run := by
      rw [hsame.2, hrun]
    by_cases hr : r = ref
    · subst hr
      rw [h, finalizedIn, finalizedIn, moveTask_task hrun', hrun]
      simp [TeardownRun.finalized, hcreated, isFinalize]
    · refine hstill (by simpa [isFinalize] using fun h => hr h.symm) ?_
      rw [h, finalizedIn, finalizedIn, moveTask_of_ne hr, hsame.2]

lemma tended_run {g : Config} {as : List (Env × Action)} (h : Run step Finalizes (start g) as w) :
    Sound w ∧ Tended w.controller := by
  refine h.invariant (I := fun w => Sound w ∧ Tended w.controller) ⟨sound_start g, ?_⟩ ?_
  · intro r run hrun
    simp [start, newSession] at hrun
  · exact fun t x u ht hc hs => ⟨ht.1.step hs, tended_step ht.1 ht.2 hc hs⟩

lemma finalizations_run {g : Config} {as : List (Env × Action)}
    (h : Run step Finalizes (start g) as w) (ref : ℕ) :
    finalizations ref as = (finalizedIn w.controller ref).toNat := by
  induction h with
  | nil => rfl
  | @snoc as t u x h hc hs ih =>
    obtain ⟨ht, htended⟩ := tended_run h
    obtain ⟨env, a⟩ := x
    rw [finalizedIn_step ht htended hc hs, ← ih]
    simp only [finalizations, List.countP_append, List.countP_singleton]
    cases isFinalize ref a <;> rfl

/-- The shutdown of a service, cancelled before the task of the coordinator has been entered. -/
def cancelledEarly : List (Env × Action) :=
  [(stillEnv, .activate "voice-one-01" "token" 0 (some ⟨1⟩)), (stillEnv, .close 1 .cancelled none),
   (stillEnv, .closeRequest 1), (stillEnv, .cancel 1)]

/-- The task is cancelled and nothing of it is left to run, but the finalize hook has not been
invoked: the session keeps its slot, in `STOPPING`, and has no result. -/
theorem cancelled_unfinalized : ∃ w run, Run step (fun _ _ => True) (start {}) cancelledEarly w ∧
    (w.controller.heap 0).teardown.task = some run ∧ run.Finished ∧
    finalizations 0 cancelledEarly = 0 ∧ w.controller.activeSession = some 0 ∧
    (w.controller.heap 0).state.phase = .stopping ∧
    w.controller.terminalResults "voice-one-01" = none := by
  have hexec : (exec step (fun _ _ => true) (start {}) cancelledEarly).map
      (fun w => ((w.controller.heap 0).teardown.task, w.controller.activeSession,
        (w.controller.heap 0).state.phase, w.controller.terminalResults "voice-one-01")) =
      some (some { request := ⟨.cancelled, .nativeCancel, none⟩, point := .cancelled }, some 0,
        .stopping, none) := by
    decide +kernel
  obtain ⟨w, hw, hfacts⟩ := Option.map_eq_some_iff.mp hexec
  simp only [Prod.mk.injEq] at hfacts
  obtain ⟨htask, hactive, hphase, hresult⟩ := hfacts
  exact ⟨w, _, run_of_exec (fun _ _ _ => trivial) _ _ hw, htask, by decide, by decide, hactive,
    hphase, hresult⟩

/-- **A shutdown is finalized exactly once**, if its task is not cancelled before its first step
and the observer does not raise when it is told of the end: wherever else the task is cancelled,
and however often, the hook is invoked once by the time the coordinator is done, which it is after
a bounded number of steps of its own, whatever happens in between; and then the session is not
active any more and has its result. -/
theorem finalized_once {g : Config} {as : List (Env × Action)}
    (h : Run step Finalizes (start g) as w)
    (hrun : (w.controller.heap ref).teardown.task = some run) :
    finalizations ref as ≤ 1 ∧
    (run.Finished → finalizations ref as = 1 ∧ w.controller.activeSession ≠ some ref ∧
      w.controller.terminalResults (w.controller.heap ref).sessionId =
        some (closingResult (w.controller.heap ref) run.request)) ∧
    (¬ run.Finished → ∃ env a w', Own ref a ∧ step w (env, a) = some w') ∧
    ∀ env a w', step w (env, a) = some w' →
      ∃ run', (w'.controller.heap ref).teardown.task = some run' ∧
        stepsLeft run' ≤ stepsLeft run ∧ (Own ref a → stepsLeft run' < stepsLeft run) := by
  obtain ⟨hw, ht⟩ := tended_run h
  have hcount := finalizations_run h ref
  have hu := (ht ref run hrun).2
  refine ⟨?_, fun hrest => ?_, own_enabled ht hrun, fun env a w' hs => ?_⟩
  · rw [hcount]
    exact Bool.toNat_le _
  · have hfinished : run.finalization = .finished := by
      obtain ⟨hpoint, hcreated⟩ := hrest
      have hin := hu.inStep
      rcases hpoint with hpoint | hpoint <;> cases hf : run.finalization <;>
        simp_all [InStep]
    refine ⟨?_, ?_, hu.result hfinished⟩
    · rw [hcount, finalizedIn, hrun]
      simp [hfinished]
    · exact fun hactive => hu.active.mp hactive hfinished
  · obtain ⟨run', hrun', hle⟩ := step_leaves hw.good ht hrun hs
    refine ⟨run', hrun', hle, fun hown => ?_⟩
    obtain ⟨run₁, hrun₁, hlt⟩ := own_decreases hw.good ht hrun hown hs
    rwa [Option.some_inj.mp (hrun'.symm.trans hrun₁)]

/-- A shutdown that is cancelled while the acknowledgement is awaited. -/
def cancelledLate : List (Env × Action) :=
  [(stillEnv, .activate "voice-one-01" "token" 0 (some ⟨1⟩)), (stillEnv, .close 1 .cancelled none),
   (stillEnv, .closeRequest 1), (stillEnv, .enter 0), (stillEnv, .hook 0), (stillEnv, .hook 0),
   (stillEnv, .cancel 1), (stillEnv, .finalize 0), (stillEnv, .finish 0)]

theorem finalized_once_late : ∃ w : World, w.controller.activeSession ≠ some 0 ∧
    finalizations 0 cancelledLate = 1 := by
  have hexec : (exec step (fun w x => !cancelsCreated w x.2 && !x.1.observerRaises .idle) (start {})
      cancelledLate).map (fun w => (w.controller.heap 0).teardown.task.map fun run =>
        (run.point, run.finalization)) = some (some (.cancelled, .finished)) := by
    decide +kernel
  obtain ⟨w, hw, htask⟩ := Option.map_eq_some_iff.mp hexec
  obtain ⟨run, hrun, hpoint⟩ := Option.map_eq_some_iff.mp htask
  simp only [Prod.mk.injEq] at hpoint
  have h : Run step Finalizes (start {}) cancelledLate w := by
    refine run_of_exec (fun w x hpass => ?_) _ _ hw
    simp only [Bool.and_eq_true, Bool.not_eq_eq_eq_not, Bool.not_true] at hpass
    exact ⟨hpass.1, fun _ _ => hpass.2⟩
  have hrest : run.Finished := ⟨.inr hpoint.1, by simp [hpoint.2]⟩
  obtain ⟨hcount, hactive, -⟩ := (finalized_once h hrun).2.1 hrest
  exact ⟨w, hactive, hcount⟩

end HermesRealtime.Finalizations

import HermesRealtime.Teardown
import HermesRealtime.Runs

/-!
One coordinator and everyone who calls it: the order of its hooks, what they are given, and what
the callers are told, whatever the hooks do and whenever the page acknowledges.

The transcript is what the task of the coordinator does: a hook is called, has ended in one of the
three ways `_run_step` tells apart, and the acknowledgement is awaited in between.
-/

namespace HermesRealtime.TeardownOrder

open Teardown Runs

/-! ### The transcript -/

/-- A hook with the arguments it is called with. -/
inductive HookCall
  | markStopping (request : TeardownRequest)
  | requestBrowserStop (request : TeardownRequest)
  | closeBrowser
  | releaseProfileLock
  | persistTrace (failures : List TeardownStepFailure)
  | finalize (request : TeardownRequest) (failures : List TeardownStepFailure)
  deriving DecidableEq

def HookCall.step : HookCall → FailedStep
  | .markStopping _ => .hook .markStopping
  | .requestBrowserStop _ => .hook .requestBrowserStop
  | .closeBrowser => .hook .closeBrowser
  | .releaseProfileLock => .hook .releaseProfileLock
  | .persistTrace _ => .hook .persistTrace
  | .finalize _ _ => .finalize

inductive CoordinatorEvent
  | called (call : HookCall)
  | ended (step : FailedStep) (result : StepResult)
  | ackAwaited
  | ackEnded (inTime : Bool)
  deriving DecidableEq

/-- The order of the hooks. -/
def teardownOrder : List FailedStep :=
  [.hook .markStopping, .hook .requestBrowserStop, .hook .closeBrowser, .hook .releaseProfileLock,
    .hook .persistTrace, .finalize]

def stepCalled : CoordinatorEvent → Option FailedStep
  | .called call => some call.step
  | _ => none

def stepEnded : CoordinatorEvent → Option FailedStep
  | .ended step _ => some step
  | _ => none

def hooksCalled (t : List CoordinatorEvent) : List FailedStep := t.filterMap stepCalled

def stepsEnded (t : List CoordinatorEvent) : List FailedStep := t.filterMap stepEnded

/-- The failure an event is, if it is one. -/
def failureOf : CoordinatorEvent → List TeardownStepFailure
  | .ended step result => result.failure step
  | .ackEnded inTime => if inTime then [] else StepResult.timeout.failure .browserAck
  | _ => []

/-- The steps that have failed, in order. -/
def failuresOf (t : List CoordinatorEvent) : List TeardownStepFailure := t.flatMap failureOf

/-! ### The coordinator and its callers -/

/-- A coordinator, the callers of `run` that wait, each shielded or not, the requests in the order
they came, and the reports that have been given. `finalizing`: the finalization task has called its
hook; `settled`: the acknowledgement had arrived before it was awaited. -/
structure CoordinatorWorld where
  coordinator : TeardownCoordinator := {}
  finalizing : Bool := false
  settled : Bool := false
  callers : ℕ → Option Bool := fun _ => none
  requests : List TeardownRequest := []
  reports : List TeardownReport := []
  transcript : List CoordinatorEvent := []

inductive CoordinatorAction
  | start (request : TeardownRequest)
  | run (n : ℕ) (request : TeardownRequest) (shield : Bool)
  | acknowledge
  /-- the task is entered -/
  | enter
  /-- the next hook is called -/
  | call
  /-- it has returned, raised, or run out of time -/
  | ends (result : StepResult)
  /-- the wait for the acknowledgement is over -/
  | ack (inTime : Bool)
  | callFinalize
  | endFinalize (result : StepResult)
  | finish
  | deliver (n : ℕ)
  /-- a shielded caller is cancelled -/
  | cancel (n : ℕ)

/-- The actions of the coordinator's own tasks. -/
def CoordinatorAction.isTask : CoordinatorAction → Bool
  | .enter | .call | .ends _ | .ack _ | .callFinalize | .endFinalize _ | .finish => true
  | _ => false

/-- The call of a hook: the request and the failures are read when it is made. -/
def hookCall (run : TeardownRun) : TeardownHook → HookCall
  | .markStopping => .markStopping run.request
  | .requestBrowserStop => .requestBrowserStop run.request
  | .closeBrowser => .closeBrowser
  | .releaseProfileLock => .releaseProfileLock
  | .persistTrace => .persistTrace run.failures

namespace CoordinatorWorld

def begin (w : CoordinatorWorld) (request : TeardownRequest) : CoordinatorWorld :=
  { w with
    coordinator := w.coordinator.start request
    requests := w.requests ++ [request] }

def setCaller (w : CoordinatorWorld) (n : ℕ) (caller : Option Bool) : CoordinatorWorld :=
  { w with callers := Function.update w.callers n caller }

/-- The task moves on, and the events are written down. -/
def move (w : CoordinatorWorld) (run : TeardownRun) (events : List CoordinatorEvent) :
    CoordinatorWorld :=
  { w with
    coordinator := { w.coordinator with task := some run }
    transcript := w.transcript ++ events }

end CoordinatorWorld

/-- What comes after a hook has ended: the acknowledgement is awaited, or nothing is. -/
def awaits : TeardownHook → StepResult → List CoordinatorEvent
  | .requestBrowserStop, .ok => [.ackAwaited]
  | _, _ => []

/-- A step of the coordinator's tasks. -/
def taskStep (w : CoordinatorWorld) (run : TeardownRun) :
    CoordinatorAction → Option CoordinatorWorld
  | .enter =>
    if run.point = .created then some (w.move { run with point := .calling .markStopping } [])
    else none
  | .call =>
    match run.point with
    | .calling hook =>
      some (w.move { run with point := .suspended hook } [.called (hookCall run hook)])
    | _ => none
  | .ends result =>
    match run.point with
    | .suspended hook =>
      let ended := w.move (run.hookReturned hook result)
        (.ended (.hook hook) result :: awaits hook result)
      some { ended with settled := w.coordinator.browserAcknowledged }
    | _ => none
  | .ack inTime =>
    if run.point = .awaitingAck ∧ (if inTime then w.coordinator.browserAcknowledged else !w.settled)
    then some (w.move (run.ackAwaited inTime) [.ackEnded inTime])
    else none
  | .callFinalize =>
    if run.finalization = .created ∧ !w.finalizing then
      some { w.move run [.called (.finalize run.request run.failures)] with finalizing := true }
    else none
  | .endFinalize result =>
    if run.finalization = .created ∧ w.finalizing then
      some (w.move (run.finalized result) [.ended .finalize result])
    else none
  | .finish =>
    if run.finalization = .finished ∧ run.point = .awaitingFinalize false then
      some (w.move run.finish [])
    else none
  | _ => none

def coordinatorStep (w : CoordinatorWorld) : CoordinatorAction → Option CoordinatorWorld
  | .start request => some (w.begin request)
  | .run n request shield =>
    if (w.callers n).isSome then none else some ((w.begin request).setCaller n (some shield))
  | .acknowledge =>
    some { w with coordinator := w.coordinator.acknowledgeBrowserTeardown }
  | .deliver n =>
    match w.callers n, w.coordinator.task with
    | some _, some run =>
      if run.point = .returned then
        some { w.setCaller n none with reports := w.reports ++ [run.report] }
      else none
    | _, _ => none
  | .cancel n => if w.callers n = some true then some (w.setCaller n none) else none
  | a => w.coordinator.task.bind fun run => taskStep w run a

variable {w w' : CoordinatorWorld} {run run' : TeardownRun} {t : List CoordinatorEvent}
variable {request : TeardownRequest}

@[simp] lemma hooksCalled_append (t u : List CoordinatorEvent) :
    hooksCalled (t ++ u) = hooksCalled t ++ hooksCalled u := List.filterMap_append

@[simp] lemma stepsEnded_append (t u : List CoordinatorEvent) :
    stepsEnded (t ++ u) = stepsEnded t ++ stepsEnded u := List.filterMap_append

@[simp] lemma failuresOf_append (t u : List CoordinatorEvent) :
    failuresOf (t ++ u) = failuresOf t ++ failuresOf u := List.flatMap_append

lemma coordinatorStep_task {a : CoordinatorAction} (ha : a.isTask = true) :
    coordinatorStep w a = w.coordinator.task.bind fun run => taskStep w run a := by
  cases a <;> first | rfl | cases ha

/-! ### What a hook is called with -/

/-- The call is what it should be after what has happened `before`: it gets the request and the
failures so far, and the browser is closed once an acknowledgement that was awaited is over. -/
def CallRight (request : TeardownRequest) (before : List CoordinatorEvent) : HookCall → Prop
  | .markStopping r => r = request
  | .requestBrowserStop r => r = request
  | .closeBrowser => .ackAwaited ∈ before → ∃ inTime, .ackEnded inTime ∈ before
  | .releaseProfileLock => True
  | .persistTrace failures => failures = failuresOf before
  | .finalize r failures => r = request ∧ failures = failuresOf before

/-- Every call of the transcript is right. -/
def CallsRight (request : TeardownRequest) (t : List CoordinatorEvent) : Prop :=
  ∀ before after call, t = before ++ .called call :: after → CallRight request before call

lemma callsRight_snoc {e : CoordinatorEvent} (h : CallsRight request t)
    (he : ∀ call, e = .called call → CallRight request t call) : CallsRight request (t ++ [e]) := by
  intro before after call hsplit
  rcases List.eq_nil_or_concat after with rfl | ⟨after, x, rfl⟩
  · obtain ⟨rfl, hlast⟩ := List.append_inj' hsplit rfl
    exact he call (List.cons.inj hlast).1
  · rw [List.concat_eq_append, ← List.cons_append, ← List.append_assoc] at hsplit
    obtain ⟨rfl, -⟩ := List.append_inj' hsplit rfl
    exact h before after call rfl

lemma callsRight_append {u : List CoordinatorEvent} (h : CallsRight request t)
    (hu : ∀ e ∈ u, stepCalled e = none) : CallsRight request (t ++ u) := by
  induction u generalizing t with
  | nil => simpa using h
  | cons e u ih =>
    rw [List.append_cons]
    refine ih (callsRight_snoc h ?_) fun e' he' => hu e' (List.mem_cons_of_mem e he')
    rintro call rfl
    simpa [stepCalled] using hu _ List.mem_cons_self

/-! ### Where the task stands -/

/-- The hooks before this one. -/
def hooksBefore : TeardownHook → List FailedStep
  | .markStopping => []
  | .requestBrowserStop => teardownOrder.take 1
  | .closeBrowser => teardownOrder.take 2
  | .releaseProfileLock => teardownOrder.take 3
  | .persistTrace => teardownOrder.take 4

/-- The hooks that have been called when the task has got here. -/
def calledAt (point : RunPoint) (finalizing : Bool) : List FailedStep :=
  match point with
  | .created => []
  | .calling hook => hooksBefore hook
  | .suspended hook => hooksBefore hook ++ [.hook hook]
  | .awaitingAck => hooksBefore .closeBrowser
  | _ => teardownOrder.take 5 ++ if finalizing then [.finalize] else []

/-- The steps that have ended when the task has got here. -/
def endedAt (point : RunPoint) (finalization : FinalizationTask) : List FailedStep :=
  match point with
  | .created => []
  | .calling hook => hooksBefore hook
  | .suspended hook => hooksBefore hook
  | .awaitingAck => hooksBefore .closeBrowser
  | _ => teardownOrder.take 5 ++ if finalization = .finished then [.finalize] else []

/-- How the finalization goes with the point the task has reached. -/
def FinalizationAt (run : TeardownRun) (finalizing : Bool) : Prop :=
  match run.point with
  | .awaitingFinalize false => run.finalization = .created ∨
      run.finalization = .finished ∧ finalizing
  | .returned => run.finalization = .finished ∧ finalizing
  | .awaitingFinalize true => False
  | .cancelled => False
  | _ => run.finalization = .absent ∧ finalizing = false

/-- The transcript of a task that has got so far. -/
structure Told (w : CoordinatorWorld) (run : TeardownRun) : Prop where
  first : w.requests.head? = some run.request
  called : hooksCalled w.transcript = calledAt run.point w.finalizing
  ended : stepsEnded w.transcript = endedAt run.point run.finalization
  failures : run.failures = failuresOf w.transcript
  right : CallsRight run.request w.transcript
  asked : .ackAwaited ∈ w.transcript ↔
    .ended (.hook .requestBrowserStop) .ok ∈ w.transcript
  waited : .ackAwaited ∈ w.transcript → run.point = .awaitingAck ∨
    ∃ inTime, .ackEnded inTime ∈ w.transcript
  finalization : FinalizationAt run w.finalizing
  settled : w.settled → w.coordinator.browserAcknowledged
  reports : ∀ report ∈ w.reports, run.point = .returned ∧ report = run.report

/-- Nothing has been asked of the coordinator. -/
structure Idle (w : CoordinatorWorld) : Prop where
  requests : w.requests = []
  transcript : w.transcript = []
  finalizing : w.finalizing = false
  settled : w.settled = false
  reports : w.reports = []

/-! ### The task moves -/

lemma Told.unreported (h : Told w run) (hpoint : run.point ≠ .returned) (r : TeardownReport) :
    r ∉ w.reports := fun hr => hpoint (h.reports r hr).1

/-- A hook is called. -/
lemma Told.call {hook : TeardownHook} (h : Told w run) (hpoint : run.point = .calling hook) :
    Told (w.move { run with point := .suspended hook } [.called (hookCall run hook)])
      { run with point := .suspended hook } := by
  have hnew : ¬ run.point = .returned := by rw [hpoint]; exact RunPoint.noConfusion
  have hcalled := h.called
  have hended := h.ended
  have hfinal := h.finalization
  rw [hpoint] at hcalled hended
  simp only [FinalizationAt, hpoint] at hfinal
  refine ⟨h.first, ?_, ?_, ?_, ?_, ?_, ?_, hfinal, h.settled, ?_⟩
  · rw [CoordinatorWorld.move, hooksCalled_append, hcalled]
    cases hook <;> rfl
  · rw [CoordinatorWorld.move, stepsEnded_append, hended]
    cases hook <;> rfl
  · rw [CoordinatorWorld.move, failuresOf_append, ← h.failures]
    exact (List.append_nil _).symm
  · refine callsRight_snoc h.right fun call hcall => ?_
    obtain rfl := CoordinatorEvent.called.inj hcall
    cases hook with
    | markStopping => exact rfl
    | requestBrowserStop => exact rfl
    | closeBrowser => exact fun hmem => (h.waited hmem).resolve_left (by simp [hpoint])
    | releaseProfileLock => trivial
    | persistTrace => exact h.failures
  · simpa [CoordinatorWorld.move] using h.asked
  · intro hmem
    have hold : .ackAwaited ∈ w.transcript := by simpa [CoordinatorWorld.move] using hmem
    obtain ⟨inTime, hin⟩ := (h.waited hold).resolve_left (by simp [hpoint])
    exact .inr ⟨inTime, List.mem_append_left _ hin⟩
  · exact fun r hr => absurd hr (h.unreported hnew r)

/-- A hook has ended. -/
lemma Told.ends {hook : TeardownHook} (result : StepResult) (h : Told w run)
    (hpoint : run.point = .suspended hook) :
    Told { w.move (run.hookReturned hook result)
        (.ended (.hook hook) result :: awaits hook result) with
      settled := w.coordinator.browserAcknowledged } (run.hookReturned hook result) := by
  have hnew : ¬ run.point = .returned := by rw [hpoint]; exact RunPoint.noConfusion
  have hcalled := h.called
  have hended := h.ended
  have hfinal := h.finalization
  rw [hpoint] at hcalled hended
  simp only [FinalizationAt, hpoint] at hfinal
  refine ⟨?_, ?_, ?_, ?_, ?_, ?_, ?_, ?_, fun hack => hack, ?_⟩
  · rw [TeardownRun.hookReturned_request]
    exact h.first
  · simp only [CoordinatorWorld.move]
    rw [hooksCalled_append, hcalled]
    cases hook <;> cases result <;> simp [hfinal, TeardownRun.hookReturned] <;> rfl
  · simp only [CoordinatorWorld.move]
    rw [stepsEnded_append, hended]
    cases hook <;> cases result <;> rfl
  · simp only [CoordinatorWorld.move]
    rw [failuresOf_append, ← h.failures]
    cases hook <;> cases result <;> rfl
  · rw [TeardownRun.hookReturned_request]
    refine callsRight_append h.right ?_
    cases hook <;> cases result <;> simp [awaits, stepCalled]
  · simp only [CoordinatorWorld.move, List.mem_append, h.asked]
    cases hook <;> cases result <;> simp [awaits]
  · intro hmem
    simp only [CoordinatorWorld.move, List.mem_append] at hmem ⊢
    rcases hmem with hold | hnew
    · obtain ⟨inTime, hin⟩ := (h.waited hold).resolve_left (by simp [hpoint])
      exact .inr ⟨inTime, .inl hin⟩
    · left
      cases hook <;> cases result <;> simp [awaits] at hnew
      rfl
  · change FinalizationAt _ w.finalizing
    cases hook <;> cases result <;> simp [FinalizationAt, TeardownRun.hookReturned, hfinal]
  · exact fun r hr => absurd hr (h.unreported hnew r)

/-- The wait for the acknowledgement is over. -/
lemma Told.ack (inTime : Bool) (h : Told w run) (hpoint : run.point = .awaitingAck) :
    Told (w.move (run.ackAwaited inTime) [.ackEnded inTime]) (run.ackAwaited inTime) := by
  have hnew : ¬ run.point = .returned := by rw [hpoint]; exact RunPoint.noConfusion
  have hcalled := h.called
  have hended := h.ended
  have hfinal := h.finalization
  rw [hpoint] at hcalled hended
  simp only [FinalizationAt, hpoint] at hfinal
  refine ⟨?_, ?_, ?_, ?_, ?_, ?_, ?_, ?_, h.settled, ?_⟩
  · rw [TeardownRun.ackAwaited_request]
    exact h.first
  · rw [CoordinatorWorld.move, hooksCalled_append, hcalled]
    cases inTime <;> rfl
  · rw [CoordinatorWorld.move, stepsEnded_append, hended]
    cases inTime <;> rfl
  · rw [CoordinatorWorld.move, failuresOf_append, ← h.failures]
    cases inTime <;> simp [TeardownRun.ackAwaited, failuresOf, failureOf]
  · rw [TeardownRun.ackAwaited_request]
    exact callsRight_append h.right (by simp [stepCalled])
  · simpa [CoordinatorWorld.move] using h.asked
  · exact fun _ => .inr ⟨inTime, List.mem_append_right _ (List.mem_singleton.mpr rfl)⟩
  · change FinalizationAt _ w.finalizing
    cases inTime <;> simp [FinalizationAt, TeardownRun.ackAwaited, hfinal]
  · exact fun r hr => absurd hr (h.unreported hnew r)

/-- The finalization task has a point at which it is awaited. -/
lemma Told.awaitingFinalize (h : Told w run) (hcreated : run.finalization = .created) :
    run.point = .awaitingFinalize false := by
  have hfinal := h.finalization
  unfold FinalizationAt at hfinal
  split at hfinal
  · assumption
  · simp [hcreated] at hfinal
  · exact hfinal.elim
  · exact hfinal.elim
  · simp [hcreated] at hfinal

lemma Told.callFinalize (h : Told w run) (hcreated : run.finalization = .created)
    (hfinalizing : w.finalizing = false) :
    Told { w.move run [.called (.finalize run.request run.failures)] with finalizing := true }
      run := by
  have hpoint := h.awaitingFinalize hcreated
  have hnew : ¬ run.point = .returned := by rw [hpoint]; exact RunPoint.noConfusion
  have hcalled := h.called
  have hended := h.ended
  rw [hpoint] at hcalled hended
  rw [hfinalizing] at hcalled
  refine ⟨h.first, ?_, ?_, ?_, ?_, ?_, ?_, ?_, h.settled, ?_⟩
  · simp only [CoordinatorWorld.move, hpoint]
    rw [hooksCalled_append, hcalled]
    rfl
  · simp only [CoordinatorWorld.move, hpoint]
    rw [stepsEnded_append, hended]
    exact List.append_nil _
  · simp only [CoordinatorWorld.move]
    rw [failuresOf_append, ← h.failures]
    exact (List.append_nil _).symm
  · refine callsRight_snoc h.right fun call hcall => ?_
    obtain rfl := CoordinatorEvent.called.inj hcall
    exact ⟨rfl, h.failures⟩
  · simpa [CoordinatorWorld.move] using h.asked
  · intro hmem
    have hold : .ackAwaited ∈ w.transcript := by simpa [CoordinatorWorld.move] using hmem
    obtain ⟨inTime, hin⟩ := (h.waited hold).resolve_left (by simp [hpoint])
    exact .inr ⟨inTime, List.mem_append_left _ hin⟩
  · simp [FinalizationAt, hpoint, hcreated]
  · exact fun r hr => absurd hr (h.unreported hnew r)

lemma Told.endFinalize (result : StepResult) (h : Told w run)
    (hcreated : run.finalization = .created)
    (hfinalizing : w.finalizing = true) :
    Told (w.move (run.finalized result) [.ended .finalize result]) (run.finalized result) := by
  have hpoint := h.awaitingFinalize hcreated
  have hnew : ¬ run.point = .returned := by rw [hpoint]; exact RunPoint.noConfusion
  have hcalled := h.called
  have hended := h.ended
  rw [hpoint] at hcalled hended
  rw [hcreated] at hended
  refine ⟨h.first, ?_, ?_, ?_, ?_, ?_, ?_, ?_, h.settled, ?_⟩
  · simp only [CoordinatorWorld.move, TeardownRun.finalized, hpoint]
    rw [hooksCalled_append, hcalled]
    exact List.append_nil _
  · simp only [CoordinatorWorld.move, TeardownRun.finalized, hpoint]
    rw [stepsEnded_append, hended]
    rfl
  · simp only [CoordinatorWorld.move, TeardownRun.finalized]
    rw [failuresOf_append, ← h.failures]
    simp [failuresOf, failureOf]
  · exact callsRight_append h.right (by simp [stepCalled])
  · simpa [CoordinatorWorld.move] using h.asked
  · intro hmem
    have hold : .ackAwaited ∈ w.transcript := by simpa [CoordinatorWorld.move] using hmem
    obtain ⟨inTime, hin⟩ := (h.waited hold).resolve_left (by simp [hpoint])
    exact .inr ⟨inTime, List.mem_append_left _ hin⟩
  · simp [FinalizationAt, CoordinatorWorld.move, TeardownRun.finalized, hpoint, hfinalizing]
  · exact fun r hr => absurd hr (h.unreported hnew r)

lemma Told.finish (h : Told w run) (hfinished : run.finalization = .finished)
    (hpoint : run.point = .awaitingFinalize false) : Told (w.move run.finish []) run.finish := by
  have hnew : ¬ run.point = .returned := by rw [hpoint]; exact RunPoint.noConfusion
  have hfinish : run.finish = { run with point := .returned } := by
    simp [TeardownRun.finish, hpoint]
  have hcalled := h.called
  have hended := h.ended
  have hfinal := h.finalization
  rw [hpoint] at hcalled hended
  simp only [FinalizationAt, hpoint, hfinished] at hfinal
  rw [hfinish]
  refine ⟨h.first, ?_, ?_, ?_, ?_, ?_, ?_, ?_, h.settled, ?_⟩
  · simp only [CoordinatorWorld.move, List.append_nil]
    exact hcalled
  · simp only [CoordinatorWorld.move, List.append_nil]
    exact hended
  · simpa [CoordinatorWorld.move] using h.failures
  · simpa [CoordinatorWorld.move] using h.right
  · simpa [CoordinatorWorld.move] using h.asked
  · intro hmem
    have hold : .ackAwaited ∈ w.transcript := by simpa [CoordinatorWorld.move] using hmem
    obtain ⟨inTime, hin⟩ := (h.waited hold).resolve_left (by simp [hpoint])
    exact .inr ⟨inTime, List.mem_append_left _ hin⟩
  · change run.finalization = .finished ∧ w.finalizing = true
    exact ⟨hfinished, by simpa using hfinal⟩
  · exact fun r hr => absurd hr (h.unreported hnew r)

lemma Told.enter (h : Told w run) (hpoint : run.point = .created) :
    Told (w.move { run with point := .calling .markStopping } [])
      { run with point := .calling .markStopping } := by
  have hnew : ¬ run.point = .returned := by rw [hpoint]; exact RunPoint.noConfusion
  have hcalled := h.called
  have hended := h.ended
  have hfinal := h.finalization
  rw [hpoint] at hcalled hended
  simp only [FinalizationAt, hpoint] at hfinal
  refine ⟨h.first, ?_, ?_, ?_, ?_, ?_, ?_, hfinal, h.settled, ?_⟩
  · simp only [CoordinatorWorld.move, List.append_nil]
    exact hcalled
  · simp only [CoordinatorWorld.move, List.append_nil]
    exact hended
  · simpa [CoordinatorWorld.move] using h.failures
  · simpa [CoordinatorWorld.move] using h.right
  · simpa [CoordinatorWorld.move] using h.asked
  · intro hmem
    have hold : .ackAwaited ∈ w.transcript := by simpa [CoordinatorWorld.move] using hmem
    obtain ⟨inTime, hin⟩ := (h.waited hold).resolve_left (by simp [hpoint])
    exact .inr ⟨inTime, List.mem_append_left _ hin⟩
  · exact fun r hr => absurd hr (h.unreported hnew r)

/-! ### Every step -/

/-- How many steps of its own the coordinator has before it at most. -/
def remaining (w : CoordinatorWorld) : ℕ :=
  match w.coordinator.task with
  | none => 16
  | some run =>
    match run.point with
    | .created => 15
    | .calling .markStopping => 14
    | .suspended .markStopping => 13
    | .calling .requestBrowserStop => 12
    | .suspended .requestBrowserStop => 11
    | .awaitingAck => 10
    | .calling .closeBrowser => 9
    | .suspended .closeBrowser => 8
    | .calling .releaseProfileLock => 7
    | .suspended .releaseProfileLock => 6
    | .calling .persistTrace => 5
    | .suspended .persistTrace => 4
    | .awaitingFinalize _ =>
      if run.finalization = .finished then 1 else if w.finalizing then 2 else 3
    | .returned => 0
    | .cancelled => 0

/-- **A step of the coordinator's tasks** keeps the transcript told, and leaves fewer of them. -/
theorem taskStep_told {a : CoordinatorAction} (h : Told w run)
    (hrun : w.coordinator.task = some run)
    (hs : taskStep w run a = some w') :
    (∃ run', w'.coordinator.task = some run' ∧ Told w' run') ∧ remaining w' < remaining w := by
  cases a with
  | enter =>
    obtain ⟨hpoint, rfl⟩ := by simpa [taskStep] using hs
    refine ⟨⟨_, rfl, h.enter hpoint⟩, ?_⟩
    simp [remaining, CoordinatorWorld.move, hrun, hpoint]
  | call =>
    simp only [taskStep] at hs
    split at hs
    · rename_i hook hpoint
      obtain rfl := Option.some.inj hs
      refine ⟨⟨_, rfl, h.call hpoint⟩, ?_⟩
      cases hook <;> simp [remaining, CoordinatorWorld.move, hrun, hpoint]
    · cases hs
  | ends result =>
    simp only [taskStep] at hs
    split at hs
    · rename_i hook hpoint
      obtain rfl := Option.some.inj hs
      have hfinal := h.finalization
      simp only [FinalizationAt, hpoint] at hfinal
      refine ⟨⟨_, rfl, h.ends result hpoint⟩, ?_⟩
      cases hook <;> cases result <;>
        simp [remaining, CoordinatorWorld.move, TeardownRun.hookReturned, hrun, hpoint, hfinal]
    · cases hs
  | ack inTime =>
    obtain ⟨⟨hpoint, -⟩, rfl⟩ := by simpa [taskStep] using hs
    refine ⟨⟨_, rfl, h.ack inTime hpoint⟩, ?_⟩
    cases inTime <;> simp [remaining, CoordinatorWorld.move, TeardownRun.ackAwaited, hrun, hpoint]
  | callFinalize =>
    obtain ⟨⟨hcreated, hfinalizing⟩, rfl⟩ := by simpa [taskStep] using hs
    refine ⟨⟨_, rfl, h.callFinalize hcreated hfinalizing⟩, ?_⟩
    simp [remaining, CoordinatorWorld.move, hrun, h.awaitingFinalize hcreated, hcreated,
      hfinalizing]
  | endFinalize result =>
    obtain ⟨⟨hcreated, hfinalizing⟩, rfl⟩ := by simpa [taskStep] using hs
    refine ⟨⟨_, rfl, h.endFinalize result hcreated hfinalizing⟩, ?_⟩
    simp [remaining, CoordinatorWorld.move, TeardownRun.finalized, hrun,
      h.awaitingFinalize hcreated, hcreated, hfinalizing]
  | finish =>
    obtain ⟨⟨hfinished, hpoint⟩, rfl⟩ := by simpa [taskStep] using hs
    refine ⟨⟨_, rfl, h.finish hfinished hpoint⟩, ?_⟩
    simp [remaining, CoordinatorWorld.move, TeardownRun.finish, hrun, hpoint, hfinished]
  | _ => simp [taskStep] at hs

/-- What holds of a coordinator, before it is asked for anything and after. -/
inductive Accounted (w : CoordinatorWorld) : Prop
  | idle (hnone : w.coordinator.task = none) (hidle : Idle w)
  | told (run : TeardownRun) (hrun : w.coordinator.task = some run) (htold : Told w run)

/-- The first request is the one the task runs with. -/
lemma accounted_begin (h : Accounted w) (request : TeardownRequest) :
    Accounted (w.begin request) := by
  cases h with
  | idle hnone hidle =>
    have htask : (w.coordinator.start request).task = some { request } := by
      rw [TeardownCoordinator.start_task, hnone]
      rfl
    refine .told _ htask ⟨?_, ?_, ?_, ?_, ?_, ?_, ?_, ?_, ?_, ?_⟩
    · simp [CoordinatorWorld.begin, hidle.requests]
    · simp [CoordinatorWorld.begin, hidle.transcript, hooksCalled, calledAt]
    · simp [CoordinatorWorld.begin, hidle.transcript, stepsEnded, endedAt]
    · simp [CoordinatorWorld.begin, hidle.transcript, failuresOf]
    · intro before after call hsplit
      simp [CoordinatorWorld.begin, hidle.transcript] at hsplit
    · simp [CoordinatorWorld.begin, hidle.transcript]
    · simp [CoordinatorWorld.begin, hidle.transcript]
    · exact ⟨rfl, hidle.finalizing⟩
    · simp [CoordinatorWorld.begin, hidle.settled]
    · simp [CoordinatorWorld.begin, hidle.reports]
  | told run hrun htold =>
    have hstart : w.coordinator.start request = w.coordinator := by
      simp [TeardownCoordinator.start, hrun]
    refine .told run (by simpa [CoordinatorWorld.begin, hstart] using hrun)
      ⟨?_, htold.called, htold.ended, htold.failures, htold.right, htold.asked, htold.waited,
        htold.finalization, ?_, htold.reports⟩
    · simp [CoordinatorWorld.begin, List.head?_append, htold.first]
    · simpa [CoordinatorWorld.begin, hstart] using htold.settled

/-- **A step of a coordinator or of one who calls it.** -/
theorem accounted_step {a : CoordinatorAction} (h : Accounted w)
    (hs : coordinatorStep w a = some w') :
    Accounted w' := by
  have htask : ∀ a, (w.coordinator.task.bind fun run => taskStep w run a) = some w' →
      Accounted w' := by
    intro a hs
    obtain ⟨run, hrun, hs⟩ := Option.bind_eq_some_iff.mp hs
    cases h with
    | idle hnone => simp [hnone] at hrun
    | told run' hrun' htold =>
      obtain rfl := Option.some.inj (hrun.symm.trans hrun')
      obtain ⟨⟨run', hrun', htold'⟩, -⟩ := taskStep_told htold hrun hs
      exact .told run' hrun' htold'
  cases a with
  | start request =>
    obtain rfl := Option.some.inj hs
    exact accounted_begin h request
  | run n request shield =>
    simp only [coordinatorStep] at hs
    split_ifs at hs
    obtain rfl := Option.some.inj hs
    cases accounted_begin h request with
    | idle hnone hidle => exact .idle hnone ⟨hidle.1, hidle.2, hidle.3, hidle.4, hidle.5⟩
    | told run hrun htold =>
      exact .told run hrun ⟨htold.1, htold.2, htold.3, htold.4, htold.5, htold.6, htold.7, htold.8,
        htold.9, htold.10⟩
  | acknowledge =>
    obtain rfl := Option.some.inj hs
    cases h with
    | idle hnone hidle => exact .idle hnone ⟨hidle.1, hidle.2, hidle.3, hidle.4, hidle.5⟩
    | told run hrun htold =>
      exact .told run hrun ⟨htold.1, htold.2, htold.3, htold.4, htold.5, htold.6, htold.7, htold.8,
        fun _ => rfl, htold.10⟩
  | deliver n =>
    simp only [coordinatorStep] at hs
    split at hs
    · rename_i shield run hcaller hrun
      split_ifs at hs with hpoint
      obtain rfl := Option.some.inj hs
      cases h with
      | idle hnone => simp [hnone] at hrun
      | told run' hrun' htold =>
        obtain rfl := Option.some.inj (hrun.symm.trans hrun')
        refine .told run hrun ⟨htold.1, htold.2, htold.3, htold.4, htold.5, htold.6, htold.7,
          htold.8, htold.9, fun report hreport => ?_⟩
        rcases List.mem_append.mp hreport with hold | hnew
        · exact htold.reports report hold
        · exact ⟨hpoint, List.mem_singleton.mp hnew⟩
    · cases hs
  | cancel n =>
    simp only [coordinatorStep] at hs
    split_ifs at hs
    obtain rfl := Option.some.inj hs
    cases h with
    | idle hnone hidle => exact .idle hnone ⟨hidle.1, hidle.2, hidle.3, hidle.4, hidle.5⟩
    | told run hrun htold =>
      exact .told run hrun ⟨htold.1, htold.2, htold.3, htold.4, htold.5, htold.6, htold.7, htold.8,
        htold.9, htold.10⟩
  | enter => exact htask _ hs
  | call => exact htask _ hs
  | ends result => exact htask _ hs
  | ack inTime => exact htask _ hs
  | callFinalize => exact htask _ hs
  | endFinalize result => exact htask _ hs
  | finish => exact htask _ hs

/-- A task that has not returned has a step to take, whatever the hooks do. -/
lemma Told.progresses (h : Told w run) (hrun : w.coordinator.task = some run)
    (hpoint : run.point ≠ .returned) :
    ∃ a w', a.isTask = true ∧ coordinatorStep w a = some w' := by
  have hfinal := h.finalization
  have hstep : ∀ a, a.isTask = true → (taskStep w run a).isSome →
      ∃ a w', a.isTask = true ∧ coordinatorStep w a = some w' := by
    intro a ha hsome
    obtain ⟨w', hw'⟩ := Option.isSome_iff_exists.mp hsome
    exact ⟨a, w', ha, by rw [coordinatorStep_task ha, hrun, Option.bind_some, hw']⟩
  cases hp : run.point with
  | created => exact hstep .enter rfl (by simp [taskStep, hp])
  | calling hook => exact hstep .call rfl (by simp [taskStep, hp])
  | suspended hook => exact hstep (.ends .ok) rfl (by simp [taskStep, hp])
  | awaitingAck =>
    cases hsettled : w.settled with
    | true => exact hstep (.ack true) rfl (by simp [taskStep, hp, h.settled hsettled])
    | false => exact hstep (.ack false) rfl (by simp [taskStep, hp, hsettled])
  | awaitingFinalize cancelled =>
    cases cancelled with
    | true => simp [FinalizationAt, hp] at hfinal
    | false =>
      simp only [FinalizationAt, hp] at hfinal
      rcases hfinal with hcreated | ⟨hfinished, -⟩
      · cases hfinalizing : w.finalizing with
        | true => exact hstep (.endFinalize .ok) rfl (by simp [taskStep, hcreated, hfinalizing])
        | false => exact hstep .callFinalize rfl (by simp [taskStep, hcreated, hfinalizing])
      · exact hstep .finish rfl (by simp [taskStep, hp, hfinished])
  | returned => exact absurd hp hpoint
  | cancelled => simp [FinalizationAt, hp] at hfinal

/-! ### The laws of a coordinator -/

/-- What is claimed of a coordinator, in a state it can reach. -/
structure TeardownLaws (w : CoordinatorWorld) : Prop where
  /-- each hook is called at most once, and in order -/
  ordered : hooksCalled w.transcript <+: teardownOrder
  /-- each call gets the first request, or the failures before it -/
  right : ∀ request, w.requests.head? = some request → CallsRight request w.transcript
  /-- the acknowledgement is awaited exactly if the page was asked to stop -/
  asked : .ackAwaited ∈ w.transcript ↔
    .ended (.hook .requestBrowserStop) .ok ∈ w.transcript
  /-- what is reported is of the first request and lists the steps that failed, and then every hook
  has been called and has ended -/
  reported : ∀ report ∈ w.reports, w.requests.head? = some report.request ∧
    report.failures = failuresOf w.transcript ∧ hooksCalled w.transcript = teardownOrder ∧
      stepsEnded w.transcript = teardownOrder
  /-- all callers get the same report -/
  agree : ∀ report ∈ w.reports, ∀ report' ∈ w.reports, report = report'
  /-- once asked, the coordinator goes on until it has returned -/
  proceeds : w.requests ≠ [] → ∃ run, w.coordinator.task = some run ∧
    (run.point = .returned ∨ ∃ a w', a.isTask = true ∧ coordinatorStep w a = some w')
  /-- … which takes a bounded number of steps -/
  bounded : ∀ a w', a.isTask = true → coordinatorStep w a = some w' → remaining w' < remaining w
  /-- a caller that waits is answered once it has -/
  answered : ∀ n run, (w.callers n).isSome → w.coordinator.task = some run →
    run.point = .returned → ∃ w', coordinatorStep w (.deliver n) = some w' ∧
      w'.reports = w.reports ++ [run.report]

lemma calledAt_le {point : RunPoint} {finalizing : Bool} :
    calledAt point finalizing <+: teardownOrder := by
  unfold calledAt
  split
  · exact List.nil_prefix
  · rename_i hook
    cases hook <;> decide
  · rename_i hook
    cases hook <;> decide
  · exact List.take_prefix ..
  · cases finalizing <;> decide

lemma answered_of_returned {n : ℕ} (hcaller : (w.callers n).isSome)
    (hrun : w.coordinator.task = some run) (hpoint : run.point = .returned) :
    ∃ w', coordinatorStep w (.deliver n) = some w' ∧ w'.reports = w.reports ++ [run.report] := by
  obtain ⟨shield, hshield⟩ := Option.isSome_iff_exists.mp hcaller
  refine ⟨{ w.setCaller n none with reports := w.reports ++ [run.report] }, ?_, rfl⟩
  simp only [coordinatorStep, hshield, hrun]
  exact if_pos hpoint

lemma Told.laws (h : Told w run) (hrun : w.coordinator.task = some run) : TeardownLaws w := by
  refine ⟨h.called ▸ calledAt_le, ?_, h.asked, ?_, ?_, ?_, ?_, ?_⟩
  · intro request hrequest
    obtain rfl : run.request = request := Option.some.inj (h.first.symm.trans hrequest)
    exact h.right
  · intro report hreport
    obtain ⟨hpoint, rfl⟩ := h.reports report hreport
    have hfinal := h.finalization
    simp only [FinalizationAt, hpoint] at hfinal
    refine ⟨h.first, h.failures, ?_, ?_⟩
    · rw [h.called, hpoint, hfinal.2]
      decide
    · rw [h.ended, hpoint, hfinal.1]
      decide
  · intro report hreport report' hreport'
    exact (h.reports report hreport).2.trans (h.reports report' hreport').2.symm
  · intro _
    by_cases hpoint : run.point = .returned
    · exact ⟨run, hrun, .inl hpoint⟩
    · exact ⟨run, hrun, .inr (h.progresses hrun hpoint)⟩
  · intro a w' ha hs
    rw [coordinatorStep_task ha, hrun] at hs
    exact (taskStep_told h hrun hs).2
  · intro n run' hcaller hrun' hpoint
    exact answered_of_returned hcaller hrun' hpoint

lemma Idle.laws (h : Idle w) (hnone : w.coordinator.task = none) : TeardownLaws w := by
  refine ⟨?_, ?_, ?_, ?_, ?_, ?_, ?_, ?_⟩
  · simp [h.transcript, hooksCalled]
  · simp [h.requests]
  · simp [h.transcript]
  · simp [h.reports]
  · simp [h.reports]
  · exact fun hrequests => absurd h.requests hrequests
  · intro a w' ha hs
    simp [coordinatorStep_task ha, hnone] at hs
  · intro n run hcaller hrun
    simp [hnone] at hrun

/-- Two callers, the first one cancelled; the page is not asked to stop, and the trace cannot be
persisted. -/
def sampleTeardown : List CoordinatorAction :=
  [.run 0 ⟨.completed, .button, none⟩ true, .enter, .call, .ends .ok, .call, .ends .error,
   .cancel 0, .run 1 ⟨.failed, .transportFailure, some "late"⟩ true, .call, .ends .ok, .call,
   .ends .ok, .call, .ends .timeout, .callFinalize, .endFinalize .ok, .finish, .deliver 1]

end HermesRealtime.TeardownOrder

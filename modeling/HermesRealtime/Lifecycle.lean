import HermesRealtime.SessionRuns
import HermesRealtime.Operations
import Mathlib.Logic.Relation

/-!
What a step can do to the sessions of the controller, said once.

An effect is a change of the controller that leaves its bookkeeping intact; the critical
sections are one effect each, or a few in a row. Those that an exception cuts short are effects
of their own. Beginning a teardown that is not under way yet is
not among them: the log tells of it, so it is a change of the world.
-/

namespace HermesRealtime.Lifecycle

open Values Text Protocol Phases Timing Tokens Interruption Teardown Controller Operations
  SessionRuns

/-- The two controllers differ in the records of sessions, in what queues hold, and in what is
kept for observers and other components. -/
structure SameTables (c c' : VoiceSessionController) : Prop where
  created : c'.created = c.created
  active : c'.activeSession = c.activeSession
  lastClosed : c'.lastClosedSessionId = c.lastClosedSessionId
  terminalFutures : c'.terminalFutures = c.terminalFutures
  futures : c'.futures = c.futures
  results : c'.terminalResults = c.terminalResults
  outbound : c'.outboundMessages = c.outboundMessages

lemma SameTables.refl (c : VoiceSessionController) : SameTables c c :=
  ⟨rfl, rfl, rfl, rfl, rfl, rfl, rfl⟩

/-! ### What an action depends on -/

/-- The browser of the session is being waited for. -/
def Starting (c : VoiceSessionController) (ref : ℕ) : Prop :=
  c.activeSession = some ref ∧
    ((c.heap ref).state.phase = .launching ∨ (c.heap ref).state.phase = .connecting)

instance (c : VoiceSessionController) (ref : ℕ) : Decidable (Starting c ref) := by
  unfold Starting; infer_instance

/-- The session an action requests a teardown of. -/
def asks (w : World) : Action → Option String
  | .request _ sessionId _ _ => some sessionId
  | .closeRequest n =>
    match w.waiters n with
    | some (.closing sessionId _) => some sessionId
    | _ => none
  | .control _ sessionId (.ok (.stop s _)) => if s = sessionId then some sessionId else none
  | .control _ sessionId (.ok (.teardownComplete s)) =>
    if s = sessionId then some sessionId else none
  | .expire n =>
    match w.waiters n with
    | some (.expiring ref) =>
      if Starting w.controller ref then some (w.controller.heap ref).sessionId else none
    | _ => none
  | _ => none

/-- Neither the observer nor the trace stops the teardown of `s`. -/
def Lets (env : Env) (c : VoiceSessionController) (s : WakeSession) : Prop :=
  ObserverLets env c s ∧ TraceLets env s

instance (env : Env) (c : VoiceSessionController) (s : WakeSession) : Decidable (Lets env c s) := by
  unfold Lets ObserverLets TraceLets; infer_instance

/-- Which of the exceptions that can cut a critical section short do not occur in a step: of
the observer, told that a session opens, that its launch failed or that it is closed; of the
observer or the trace when a teardown is requested. And whether the page of the active session
is silent about its start. -/
structure Smooth where
  opening : Prop
  failing : Prop
  closing : Prop
  beginning : Prop
  silent : Prop

def smooth (w : World) (x : Env × Action) : Smooth where
  opening := ∀ sessionId token now launched, x.2 = .activate sessionId token now launched →
    w.controller.activeSession = none → x.1.observerRaises .launching = false
  failing := ∀ sessionId token now, x.2 = .activate sessionId token now none →
    w.controller.activeSession = none → x.1.observerRaises .idle = false
  closing := ∀ ref, x.2 = .finalize ref → w.controller.activeSession = some ref →
    x.1.observerRaises .idle = false
  beginning := ∀ ref, w.controller.activeSession = some ref →
    asks w x.2 = some (w.controller.heap ref).sessionId →
      Lets x.1 w.controller (w.controller.heap ref)
  silent := ∀ n ref, w.controller.activeSession = some ref →
    (w.controller.heap ref).state.phase ≠ .live →
      x.2 ≠ .control n (w.controller.heap ref).sessionId
        (.ok (.pageStarted (w.controller.heap ref).sessionId))

/-! ### Records -/

/-- The moves of a coordinator's task. The finalization ends when the session is not active. -/
inductive TaskMove (active : Prop) (run : TeardownRun) : TeardownRun → Prop
  | entered (hpoint : run.point = .created) :
      TaskMove active run { run with point := .calling .markStopping }
  | suspended (hook) (hpoint : run.point = .calling hook) :
      TaskMove active run { run with point := .suspended hook }
  | returned (hook result) (hpoint : run.point = .calling hook ∨ run.point = .suspended hook) :
      TaskMove active run (run.hookReturned hook result)
  | acked (inTime) (hpoint : run.point = .awaitingAck) : TaskMove active run (run.ackAwaited inTime)
  | cancelled : TaskMove active run run.cancel
  | finalized (result) (hcreated : run.finalization = .created) (hclosed : ¬ active) :
      TaskMove active run (run.finalized result)
  | finished (hfinished : run.finalization = .finished) : TaskMove active run run.finish

lemma TaskMove.request {active : Prop} {run run' : TeardownRun} (h : TaskMove active run run') :
    run'.request = run.request := by
  cases h <;> simp

/-- Changes of the record of any session, active or not. -/
inductive Touch (active : Prop) (s : WakeSession) : WakeSession → Prop
  | observed (trace interruptions) : Touch active s { s with trace, interruptions }
  | acknowledged :
      Touch active s { s with teardown := s.teardown.acknowledgeBrowserTeardown }
  | handleTaken (run) (hrun : s.teardown.task = some run)
      (hpoint : run.point = .calling .closeBrowser) :
        Touch active s { s with browserHandle := none }
  | moved (run run') (hrun : s.teardown.task = some run) (hmove : TaskMove active run run') :
      Touch active s { s with teardown := { s.teardown with task := some run' } }

/-- Changes of the record of the active session. It goes live at the word of its page, and a
teardown that begins again has a task. -/
inductive Move (k : Smooth) (s : WakeSession) : WakeSession → Prop
  | connected (state) (hstate : s.state.transition .connecting = .ok state) :
      Move k s { s with state }
  | wentLive (state) (hstate : s.state.transition .live = .ok state)
      (hpage : s.state.phase ≠ .live → ¬ k.silent) :
      Move k s { s with state, startupDeadline := none }
  | raised (state stopReason) (hstate : s.state.transition .stopping = .ok state)
      (hlets : ¬ k.beginning) : Move k s { s with state, stopReason }
  | begunAgain (state trace request) (hstate : s.state.transition .stopping = .ok state)
      (htask : s.teardown.task ≠ none) : Move k s (begunSession s state trace request)

/-- What every change of a record keeps of it. -/
structure RecordStep (active : Prop) (s s' : WakeSession) : Prop where
  id : s'.sessionId = s.sessionId
  result : s'.resolvedResult = s.resolvedResult
  state : s'.state = s.state ∨ active ∧ s'.state.phase.Active
  history : s.state.history <+: s'.state.history
  stays : s.state.phase = .stopping → s'.state.phase = .stopping
  task : ∀ run, s.teardown.task = some run →
    ∃ run', s'.teardown.task = some run' ∧ run'.request = run.request
  started : s'.teardown.task ≠ none →
    s.teardown.task ≠ none ∨ s'.state.phase = .stopping ∧ s'.teardownMarked = true
  marked : s.teardownMarked = true → s'.teardownMarked = true

lemma RecordStep.refl (active : Prop) (s : WakeSession) : RecordStep active s s :=
  ⟨rfl, rfl, .inl rfl, List.prefix_rfl, fun h => h, fun run hrun => ⟨run, hrun, rfl⟩, .inl,
    fun h => h⟩

lemma Touch.record {active : Prop} {s s' : WakeSession} (h : Touch active s s') :
    RecordStep active s s' := by
  have hkept (k : TeardownCoordinator) (htask : k.task = s.teardown.task) :
      ∀ run, s.teardown.task = some run → ∃ run', k.task = some run' ∧ run'.request = run.request :=
    fun run hrun => ⟨run, by rw [htask, hrun], rfl⟩
  cases h with
  | observed | handleTaken =>
    exact ⟨rfl, rfl, .inl rfl, List.prefix_rfl, id, hkept _ rfl, .inl, id⟩
  | acknowledged => exact ⟨rfl, rfl, .inl rfl, List.prefix_rfl, id, hkept _ rfl, .inl, id⟩
  | moved run run' hrun hmove =>
    refine ⟨rfl, rfl, .inl rfl, List.prefix_rfl, id, fun r hr => ?_, fun _ => .inl (by simp [hrun]),
      id⟩
    obtain rfl : run = r := by simpa [hrun] using hr
    exact ⟨run', rfl, hmove.request⟩

/-- A history only grows. -/
lemma history_isPrefix {s t : SessionState} {next : SessionPhase} (h : s.transition next = .ok t) :
    s.history <+: t.history := by
  rcases (SessionState.transition_ok h).2.2 with rfl | ⟨-, hhistory⟩
  · exact List.prefix_rfl
  · exact ⟨[next], hhistory.symm⟩

/-- From `STOPPING` no transition leads back. -/
lemma transition_of_stopping {s t : SessionState} {next : SessionPhase} (hs : s.phase = .stopping)
    (h : s.transition next = .ok t) : next = .stopping ∨ next.Final := by
  rcases (SessionState.transition_ok h).2.2 with rfl | ⟨hmem, -⟩
  · exact .inl ((SessionState.transition_ok h).1.symm.trans hs)
  · rw [hs] at hmem
    cases next <;> simp_all [SessionPhase.transitions, SessionPhase.Final]

/-- The record of a session whose teardown begins. -/
lemma begunSession_record {s : WakeSession} {state : SessionState} {trace : SessionTrace}
    {request : TeardownRequest} (hstate : s.state.transition .stopping = .ok state) :
    RecordStep True s (begunSession s state trace request) := by
  have hphase := (SessionState.transition_ok hstate).1
  refine ⟨rfl, rfl, .inr ⟨trivial, .inr (.inr (.inr hphase))⟩, history_isPrefix hstate,
    fun _ => hphase, fun run hrun => ⟨run, ?_, rfl⟩, fun _ => .inr ⟨hphase, rfl⟩, fun _ => rfl⟩
  simp [begunSession, TeardownCoordinator.start_task, hrun]

lemma Move.record {k : Smooth} {s s' : WakeSession} (h : Move k s s') : RecordStep True s s' := by
  -- a transition that leaves the task alone
  have hmoved {state : SessionState} {next : SessionPhase} (t : WakeSession)
      (hstate : s.state.transition next = .ok state) (hactive : next.Active)
      (hid : t.sessionId = s.sessionId) (hresult : t.resolvedResult = s.resolvedResult)
      (hs : t.state = state) (htask : t.teardown = s.teardown)
      (hmarked : t.teardownMarked = s.teardownMarked) : RecordStep True s t := by
    have hphase := (SessionState.transition_ok hstate).1
    refine ⟨hid, hresult, .inr ⟨trivial, ?_⟩, ?_, fun hstopping => ?_,
      fun run hrun => ⟨run, ?_, rfl⟩, fun h => .inl ?_, fun h => ?_⟩
    · rw [hs, hphase]; exact hactive
    · rw [hs]; exact history_isPrefix hstate
    · rw [hs, hphase]
      rcases transition_of_stopping hstopping hstate with h | h
      · exact h
      · rcases hactive with rfl | rfl | rfl | rfl <;> simp [SessionPhase.Final] at h
    · rw [htask, hrun]
    · rwa [htask] at h
    · rwa [hmarked]
  cases h with
  | connected state hstate => exact hmoved _ hstate (.inr (.inl rfl)) rfl rfl rfl rfl rfl
  | wentLive state hstate => exact hmoved _ hstate (.inr (.inr (.inl rfl))) rfl rfl rfl rfl rfl
  | raised state stopReason hstate =>
    exact hmoved _ hstate (.inr (.inr (.inr rfl))) rfl rfl rfl rfl rfl
  | begunAgain state trace request hstate => exact begunSession_record hstate

/-! ### Effects -/

/-- The record of a session that `activate` has opened, or failed to open. -/
def openedSession (sessionId token : String) (state : SessionState) (seconds : ℚ)
    (handle : BrowserHandle) : WakeSession :=
  { newSession sessionId token state with
    browserHandle := some handle
    startupDeadline := some { timeoutSeconds := seconds, armed := true } }

def activationFailure (sessionId : String) : TerminalSessionResult :=
  { sessionId, outcome := .failed, error := some "activation failed" }

def failedSession (sessionId token : String) (state : SessionState) : WakeSession :=
  { newSession sessionId token state with
    resolvedResult := some (activationFailure sessionId) }

/-- The session's result when its teardown is finalized. -/
def closingResult (s : WakeSession) (request : TeardownRequest) : TerminalSessionResult :=
  { sessionId := s.sessionId, outcome := request.outcome, error := request.error }

def closedSession (s : WakeSession) (state : SessionState) (request : TeardownRequest) :
    WakeSession :=
  { s with state, startupDeadline := none, resolvedResult := some (closingResult s request) }

/-- The id has not been given to a session before. -/
def Fresh (c : VoiceSessionController) (sessionId : String) : Prop :=
  ∀ ref < c.created, (c.heap ref).sessionId ≠ sessionId

/-- Beginning the teardown of a session with a request. -/
inductive Begun (c : VoiceSessionController) (ref : ℕ) (request : TeardownRequest) :
    VoiceSessionController → Prop
  | intro (c' state trace) (hactive : c.activeSession = some ref) (hsame : SameTables c c')
      (hstate : (c.heap ref).state.transition .stopping = .ok state)
      (hheap : c'.heap = Function.update c.heap ref
        (begunSession (c.heap ref) state trace request)) : Begun c ref request c'

/-- A session is opened, and its launch fails: the tables that this changes. -/
structure Opening (c c' : VoiceSessionController) (sessionId : String) (s : WakeSession) :
    Prop where
  idle : c.activeSession = none
  fresh : Fresh c sessionId
  created : c'.created = c.created + 1
  heap : c'.heap = Function.update c.heap c.created s
  id : s.sessionId = sessionId
  task : s.teardown.task = none

/-- The active session has been closed, with `s'` as its last record. -/
structure Closing (c c' : VoiceSessionController) (ref : ℕ) (s' : WakeSession)
    (run : TeardownRun) : Prop where
  active : c.activeSession = some ref
  task : (c.heap ref).teardown.task = some run
  created : c'.created = c.created
  idle : c'.activeSession = none
  heap : c'.heap = Function.update c.heap ref s'
  id : s'.sessionId = (c.heap ref).sessionId
  teardown : s'.teardown = (c.heap ref).teardown
  marked : s'.teardownMarked = (c.heap ref).teardownMarked
  phase : s'.state.phase.Final
  history : (c.heap ref).state.history <+: s'.state.history

/-- What a step can do to the controller, apart from beginning a teardown and from the end of a
deadline's sleep. -/
inductive Effect (k : Smooth) (c c' : VoiceSessionController) : Prop
  | tables (hsame : SameTables c c') (hheap : c'.heap = c.heap)
  | touched (ref s') (href : ref < c.created) (hsame : SameTables c c')
      (hheap : c'.heap = Function.update c.heap ref s')
      (htouch : Touch (c.activeSession = some ref) (c.heap ref) s')
  | moved (ref s') (hactive : c.activeSession = some ref) (hsame : SameTables c c')
      (hheap : c'.heap = Function.update c.heap ref s') (hmove : Move k (c.heap ref) s')
  | opened (sessionId token state seconds handle) (hphase : state.phase = .launching)
      (hopening : Opening c c' sessionId (openedSession sessionId token state seconds handle))
      (hactive : c'.activeSession = some c.created)
      (hlast : c'.lastClosedSessionId = none) (hresults : c'.terminalResults = c.terminalResults)
      (hfutures : c'.futures = c.futures)
      (hterminal : c'.terminalFutures =
        Function.update c.terminalFutures sessionId (some c.created))
      (houtbound : c'.outboundMessages =
        Function.update c.outboundMessages sessionId (some c.created))
  | openRaised (sessionId token state) (hphase : state.phase = .launching)
      (hraises : ¬ k.opening)
      (hopening : Opening c c' sessionId (newSession sessionId token state))
      (hactive : c'.activeSession = some c.created)
      (hlast : c'.lastClosedSessionId = c.lastClosedSessionId)
      (hresults : c'.terminalResults = c.terminalResults)
      (hfutures : c'.futures = c.futures) (hterminal : c'.terminalFutures = c.terminalFutures)
  | launchFailed (sessionId token state) (hphase : state.phase = .failed)
      (hopening : Opening c c' sessionId (failedSession sessionId token state))
      (hactive : c'.activeSession = none) (hlast : c'.lastClosedSessionId = none)
      (hresults : c'.terminalResults =
        Function.update c.terminalResults sessionId (some (activationFailure sessionId)))
      (hfutures : c'.futures = Function.update c.futures c.created
        (some ((c.futures c.created).getD (activationFailure sessionId))))
      (hterminal : c'.terminalFutures = Function.update c.terminalFutures sessionId none)
      (houtbound : c'.outboundMessages = Function.update c.outboundMessages sessionId none)
  | launchFailedRaised (sessionId token state) (hphase : state.phase = .failed)
      (hraises : ¬ k.failing)
      (hopening : Opening c c' sessionId (failedSession sessionId token state))
      (hactive : c'.activeSession = none) (hlast : c'.lastClosedSessionId = none)
      (hresults : c'.terminalResults = c.terminalResults) (hfutures : c'.futures = c.futures)
      (hterminal : c'.terminalFutures =
        Function.update c.terminalFutures sessionId (some c.created))
  | closed (ref state run)
      (hclosing : Closing c c' ref (closedSession (c.heap ref) state run.request) run)
      (hlast : c'.lastClosedSessionId = some (c.heap ref).sessionId)
      (hresults : c'.terminalResults = Function.update c.terminalResults (c.heap ref).sessionId
        (some (closingResult (c.heap ref) run.request)))
      (hfutures : c'.futures = match c.terminalFutures (c.heap ref).sessionId with
        | some future => Function.update c.futures future
            (some ((c.futures future).getD (closingResult (c.heap ref) run.request)))
        | none => c.futures)
      (hterminal : c'.terminalFutures =
        Function.update c.terminalFutures (c.heap ref).sessionId none)
      (houtbound : c'.outboundMessages =
        Function.update c.outboundMessages (c.heap ref).sessionId none)
  | closedRaised (ref state run) (hraises : ¬ k.closing)
      (hclosing : Closing c c' ref { c.heap ref with state } run)
      (hlast : c'.lastClosedSessionId = c.lastClosedSessionId)
      (hresults : c'.terminalResults = c.terminalResults) (hfutures : c'.futures = c.futures)
      (hterminal : c'.terminalFutures = c.terminalFutures)

/-- Effects in a row. -/
def Effects (k : Smooth) : VoiceSessionController → VoiceSessionController → Prop :=
  Relation.ReflTransGen (Effect k)

/-- What holds of a controller and survives every effect survives effects in a row. -/
theorem Effects.invariant {k : Smooth} {c c' : VoiceSessionController}
    {I : VoiceSessionController → Prop} (h : Effects k c c') (h0 : I c)
    (hstep : ∀ c c', I c → Effect k c c' → I c') : I c' := by
  induction h with
  | refl => exact h0
  | tail _ heffect ih => exact hstep _ _ ih heffect

/-! ### Changes of the world -/

/-- What a step does to a waiter, `c'` being the controller after it. -/
inductive WaiterStep (c' : VoiceSessionController) (v : Option Waiter) : Option Waiter → Prop
  | same : WaiterStep c' v v
  | closing (sessionId request) (hfree : v = none) :
      WaiterStep c' v (some (.closing sessionId request))
  | gone (hexpiring : ∀ ref, v = some (.expiring ref) → ¬ Starting c' ref) : WaiterStep c' v none
  | awaiting (ref shield answers) (hexpiring : ∀ ref, v = some (.expiring ref) → ¬ Starting c' ref)
      (href : ref < c'.created) (htask : (c'.heap ref).teardown.task ≠ none)
      (hanswers : ∀ sessionId, answers = some sessionId → (c'.heap ref).sessionId = sessionId) :
      WaiterStep c' v (some (.awaiting ref shield answers))

/-- What a step can do to the world. -/
inductive Change (k : Smooth) (w w' : World) : Prop
  | internal (heffects : Effects k w.controller w'.controller) (hlog : w'.log = w.log)
      (hwaiters : ∀ n, WaiterStep w'.controller (w.waiters n) (w'.waiters n))
  | fired (n ref d) (href : ref < w.controller.created)
      (hd : (w.controller.heap ref).startupDeadline = some d) (harmed : d.armed = true)
      (hfree : w.waiters n = none)
      (hcontroller : w'.controller = setSession w.controller ref
        { w.controller.heap ref with startupDeadline := some d.expire })
      (hlog : w'.log = w.log)
      (hwaiters : w'.waiters = Function.update w.waiters n (some (.expiring ref)))
  | requested (ref request byDeadline c₁) (hbegun : Begun w.controller ref request c₁)
      (heffects : Effects k c₁ w'.controller)
      (hstarting : byDeadline = true → Starting w.controller ref)
      (hlog : w'.log = w.log ++ [.requested ref request byDeadline])
      (hwaiters : ∀ n, WaiterStep w'.controller (w.waiters n) (w'.waiters n))
  | pageStarted (ref) (hactive : w.controller.activeSession = some ref)
      (heffects : Effects k w.controller w'.controller)
      (hlive : .live ∈ (w'.controller.heap ref).state.history)
      (hlog : w'.log = w.log ++ [.pageStarted ref]) (hwaiters : w'.waiters = w.waiters)
  | launched (sessionId returned) (hidle : w.controller.activeSession = none)
      (heffect : Effect k w.controller w'.controller)
      (hcreated : w'.controller.created = w.controller.created + 1)
      (hid : (w'.controller.heap w.controller.created).sessionId = sessionId)
      (hlog : w'.log = w.log ++ .launched w.controller.created ::
        if returned = true then [.activated sessionId] else [])
      (hwaiters : w'.waiters = w.waiters)
  | delivered (n ref shield answers run) (hw : w.waiters n = some (.awaiting ref shield answers))
      (hrun : taskOf w.controller ref = some run)
      (hcontroller : w'.controller = w.controller)
      (hlog : w'.log = w.log ++ delivered ref run.report answers)
      (hwaiters : w'.waiters = Function.update w.waiters n none)
  | answered (sessionId) (hlast : w.controller.lastClosedSessionId = some sessionId)
      (hcontroller : w'.controller = w.controller)
      (hlog : w'.log = w.log ++ [.answered sessionId
        (((w.controller.terminalResults sessionId).map (·.outcome)).getD .completed)])
      (hwaiters : w'.waiters = w.waiters)

/-! ### Records over an effect -/

/-- Every record is kept, as records are. -/
def Records (c c' : VoiceSessionController) : Prop :=
  ∀ ref < c.created, RecordStep (c.activeSession = some ref) (c.heap ref) (c'.heap ref)

lemma Records.update {c c' : VoiceSessionController} {ref : ℕ} {s' : WakeSession}
    (hheap : c'.heap = Function.update c.heap ref s')
    (h : RecordStep (c.activeSession = some ref) (c.heap ref) s') : Records c c' := by
  intro r _
  rw [hheap]
  by_cases hr : r = ref
  · subst hr
    rwa [Function.update_self]
  · rw [Function.update_of_ne hr]
    exact .refl _ _

section

variable {c c' : VoiceSessionController} {sessionId : String} {s : WakeSession}

lemma Opening.old (ho : Opening c c' sessionId s) {ref : ℕ} (href : ref < c.created) :
    c'.heap ref = c.heap ref := by
  rw [ho.heap, Function.update_of_ne (by omega)]

lemma Opening.new (ho : Opening c c' sessionId s) : c'.heap c.created = s := by
  rw [ho.heap, Function.update_self]

lemma Opening.cases (ho : Opening c c' sessionId s) {ref : ℕ} (href : ref < c'.created) :
    ref < c.created ∧ c'.heap ref = c.heap ref ∨ ref = c.created ∧ c'.heap ref = s := by
  rw [ho.created] at href
  rcases Nat.lt_succ_iff_lt_or_eq.mp href with h | rfl
  · exact .inl ⟨h, ho.old h⟩
  · exact .inr ⟨rfl, ho.new⟩

/-! ### The active session over an effect -/

variable {ref : ℕ}

/-- What an effect makes of the record of the session that is active after it. -/
inductive ActiveRecord (k : Smooth) (c : VoiceSessionController) (ref : ℕ) (s : WakeSession) : Prop
  | same (hactive : c.activeSession = some ref) (hs : s = c.heap ref)
  | touched (hactive : c.activeSession = some ref)
      (htouch : Touch (c.activeSession = some ref) (c.heap ref) s)
  | moved (hactive : c.activeSession = some ref) (hmove : Move k (c.heap ref) s)
  | opened (sessionId token state seconds handle) (hphase : state.phase = .launching)
      (hs : s = openedSession sessionId token state seconds handle)
  | openRaised (sessionId token state) (hphase : state.phase = .launching) (hraises : ¬ k.opening)
      (hs : s = newSession sessionId token state)

lemma active_of_update {r : ℕ} {s' : WakeSession} (hsame : SameTables c c')
    (hheap : c'.heap = Function.update c.heap r s') (hactive : c'.activeSession = some ref) :
    c.activeSession = some ref ∧ (r = ref ∧ c'.heap ref = s' ∨ c'.heap ref = c.heap ref) := by
  rw [hsame.active] at hactive
  refine ⟨hactive, ?_⟩
  rw [hheap]
  by_cases hr : r = ref
  · subst hr
    exact .inl ⟨rfl, Function.update_self ..⟩
  · exact .inr (Function.update_of_ne (Ne.symm hr) ..)

theorem Effect.activeRecord {k : Smooth} (h : Effect k c c')
    (hactive : c'.activeSession = some ref) : ActiveRecord k c ref (c'.heap ref) := by
  have hidle {P : Prop} (hidle : c'.activeSession = none) : P := by simp [hidle] at hactive
  cases h with
  | tables hsame hheap => exact .same (hsame.active ▸ hactive) (by rw [hheap])
  | touched r s' href hsame hheap htouch =>
    obtain ⟨hold, ⟨rfl, hs⟩ | hs⟩ := active_of_update hsame hheap hactive
    · exact .touched hold (hs ▸ htouch)
    · exact .same hold hs
  | moved r s' hwas hsame hheap hmove =>
    obtain ⟨hold, ⟨rfl, hs⟩ | hs⟩ := active_of_update hsame hheap hactive
    · exact .moved hold (hs ▸ hmove)
    · exact .same hold hs
  | opened sessionId token state seconds handle hphase ho hnew =>
    obtain rfl : c.created = ref := by simpa [hnew] using hactive
    exact .opened sessionId token state seconds handle hphase ho.new
  | openRaised sessionId token state hphase hraises ho hnew =>
    obtain rfl : c.created = ref := by simpa [hnew] using hactive
    exact .openRaised sessionId token state hphase hraises ho.new
  | launchFailed _ _ _ _ _ hnone => exact hidle hnone
  | launchFailedRaised _ _ _ _ _ _ hnone => exact hidle hnone
  | closed _ _ _ hclosing => exact hidle hclosing.idle
  | closedRaised _ _ _ _ hclosing => exact hidle hclosing.idle

end

lemma Closing.record {c c' : VoiceSessionController} {ref : ℕ} {s' : WakeSession}
    {run : TeardownRun} (h : Closing c c' ref s' run) (r : ℕ) :
    (c'.heap r).sessionId = (c.heap r).sessionId ∧ (c'.heap r).teardown = (c.heap r).teardown ∧
      (c'.heap r).teardownMarked = (c.heap r).teardownMarked ∧
      (c.heap r).state.history <+: (c'.heap r).state.history ∧
      (r ≠ ref → c'.heap r = c.heap r) := by
  rw [h.heap]
  by_cases hr : r = ref
  · subst hr
    rw [Function.update_self]
    exact ⟨h.id, h.teardown, h.marked, h.history, fun h => absurd rfl h⟩
  · rw [Function.update_of_ne hr]
    exact ⟨rfl, rfl, rfl, List.prefix_rfl, fun _ => rfl⟩

end HermesRealtime.Lifecycle

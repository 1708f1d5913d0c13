import HermesRealtime.Admission
import HermesRealtime.OutboundOrder

/-!
What a relay conveys: what has been taken from the queue of its session is what it has sent to the
page, and what its outbound task holds. A session whose coordinator has returned is over, so a
relay that has the answer to a `teardown_complete` serves a session that is not active.
-/

namespace HermesRealtime.Conveyance

open Values Protocol Phases Teardown Controller Operations SessionRuns Lifecycle Bookkeeping
  CriticalSections Changes Relay Orphans StepCases Admission Ledgers OutboundOrder Runs

variable {env : Env} {c c' : VoiceSessionController} {w w' : World} {ref : ℕ}
  {run run' : TeardownRun}

/-! ### Coordinators that have returned -/

/-- A coordinator returns when the finalization has been run, and that leaves no session active. -/
structure Ended (active : Prop) (run : TeardownRun) : Prop where
  returned : run.point = .returned → run.finalization = .finished
  finished : run.finalization = .finished → ¬ active

lemma Ended.imp {active active' : Prop} (h : Ended active run) (himp : active' → active) :
    Ended active' run :=
  ⟨h.returned, fun hfinished hactive => h.finished hfinished (himp hactive)⟩

lemma ended_returned {active : Prop} {hook : TeardownHook} (result : StepResult)
    (h : Ended active run) : Ended active (run.hookReturned hook result) := by
  cases hook with
  | requestBrowserStop =>
    simp only [TeardownRun.hookReturned]
    split <;> exact ⟨by simp, h.finished⟩
  | persistTrace => exact ⟨by simp [TeardownRun.hookReturned], by simp [TeardownRun.hookReturned]⟩
  | _ => exact ⟨by simp [TeardownRun.hookReturned], h.finished⟩

lemma ended_called {active : Prop} {hook : TeardownHook} (result : Except PyError Bool)
    (h : Ended active run) : Ended active (hookCalled hook result run) := by
  unfold hookCalled
  split
  · exact ⟨by simp, h.finished⟩
  · exact ended_returned _ h
  · exact ended_returned _ h

lemma ended_moves {active : Prop} {a : Action} (h : Moves w a ref run run')
    (hend : Ended active run) : Ended active run' := by
  cases h with
  | entered ref run hpoint => exact ⟨by simp, hend.finished⟩
  | ended ref result hook run hpoint => exact ended_returned _ hend
  | acked | timedOut =>
    exact ⟨by simp [TeardownRun.ackAwaited], by simpa [TeardownRun.ackAwaited] using hend.finished⟩
  | cancelled n ref answers run hn =>
    unfold TeardownRun.cancel
    split
    all_goals first
      | exact hend
      | exact ⟨by simp, hend.finished⟩
      | exact ⟨by simp, by simp⟩
  | finished ref cancelled run hfinished hpoint =>
    cases cancelled <;> simp only [TeardownRun.finish, hpoint]
    · exact ⟨fun _ => hfinished, hend.finished⟩
    · exact ⟨by simp, hend.finished⟩

/-- No coordinator that has returned left its session active. -/
def AllEnded (c : VoiceSessionController) : Prop :=
  ∀ ref run, (c.heap ref).teardown.task = some run → Ended (c.activeSession = some ref) run

/-- One task moves, and the sessions that are active do not. -/
lemma AllEnded.move (h : AllEnded c) (hactive : c'.activeSession = c.activeSession)
    (htasks : ∀ r, TaskKept (c.activeSession = some r) (c.heap r).teardown.task
      (c'.heap r).teardown.task) (hrun : (c.heap ref).teardown.task = some run)
    (f : TeardownRun → TeardownRun) (hf : Ended (c.activeSession = some ref) (f run)) :
    AllEnded (moveTask c' ref f) := by
  intro r q hq
  change Ended (c'.activeSession = some r) q
  rw [hactive]
  by_cases hr : r = ref
  · subst hr
    rw [moveTask_task ((htasks r).of_some hrun), Option.some_inj] at hq
    exact hq ▸ hf
  · rw [moveTask_of_ne hr] at hq
    rcases htasks r with hsame | ⟨-, -, request, hstarted⟩
    · exact h r q (hsame ▸ hq)
    · rw [hstarted, Option.some_inj] at hq
      exact hq ▸ ⟨by simp, by simp⟩

/-- The finalization leaves its session inactive, also when the observer raises. -/
lemma finalize_inactive (env : Env) (hg : Good c)
    (hrun : (c.heap ref).teardown.task = some run) (request : TeardownRequest) :
    (finalize env ref request c).1.activeSession ≠ some ref ∧
      ∀ r, (finalize env ref request c).1.activeSession = some r → c.activeSession = some r := by
  by_cases hactive : c.activeSession = some ref
  · have hresult := (hg.active ref hactive).2.2
    have hphase := hg.stopping hactive (by simp [hrun])
    obtain ⟨state, next, -, -, ⟨-, h⟩ | h⟩ := finalize_cases env hactive hphase hresult request <;>
      rw [h] <;> simp [atClose, afterClose]
  · have hsame : finalize env ref request c = (c, .ok ()) := by
      rw [finalize, Op.get_bind, Op.ite_apply, if_pos hactive]
      rfl
    rw [hsame]
    exact ⟨hactive, fun _ h => h⟩

theorem allEnded_step {a : Action} (hg : Good w.controller) (h : AllEnded w.controller)
    (hs : step w (env, a) = some w') : AllEnded w'.controller := by
  have hstill (hheap : w'.controller.heap = w.controller.heap)
      (hactive : w'.controller.activeSession = w.controller.activeSession) :
      AllEnded w'.controller := by
    intro r run hrun
    rw [hactive]
    exact h r run (hheap ▸ hrun)
  cases step_case hs with
  | minor a hother hleaves =>
    intro r run hrun
    rw [hleaves.active]
    rcases hleaves.tasks r with hsame | ⟨-, -, request, hstarted⟩
    · exact h r run (hsame ▸ hrun)
    · rw [hstarted, Option.some_inj] at hrun
      exact hrun ▸ ⟨by simp, by simp⟩
  | activated sessionId token now launched hfresh hactivated =>
    intro r run hrun
    rcases hactivated.created with ⟨-, hnone, hheap, -⟩ | ⟨-, hactive, htask, -⟩
    · rw [hheap] at hrun
      exact (h r run hrun).imp (by simp [hnone])
    · have hold : r ≠ w.controller.created := by
        rintro rfl
        rw [htask] at hrun
        cases hrun
      rw [hactivated.heap r hold] at hrun
      refine (h r run hrun).imp fun hnew => ?_
      rcases hactive with hnone | hmade
      · cases hnone.symm.trans hnew
      · exact absurd (Option.some_inj.mp (hmade.symm.trans hnew)).symm hold
  | consumed token now h => exact hstill (by rw [h]) (by rw [h])
  | published sessionId message queue hroom hmessage hactive hqueue h hput =>
    exact hstill (by rw [hput]; rfl) (by rw [hput]; rfl)
  | got queue h => exact hstill (by rw [h]; rfl) (by rw [h]; rfl)
  | moved a ref run run' hrun hmoves hmoved =>
    rw [hmoved]
    exact h.move rfl (fun _ => .inl rfl) hrun _ (ended_moves hmoves (h ref run hrun))
  | hooked ref hook run c₁ result hrun hpoint hsilent hleaves hmoved =>
    rw [hmoved]
    have htask := (taskOf_some hrun).2
    exact h.move hleaves.active hleaves.tasks htask _ (ended_called result (h ref run htask))
  | asked ref run own queue c₁ result hrun hpoint hasked hmoved =>
    rw [hmoved]
    have htask := (taskOf_some hrun).2
    exact h.move hasked.rest.active hasked.rest.tasks htask _
      (ended_called result (h ref run htask))
  | finalized ref run hrun hcreated hmoved =>
    rw [hmoved]
    obtain ⟨href, htask⟩ := taskOf_some hrun
    obtain ⟨hclosed, hothers⟩ := finalize_inactive env hg htask run.request
    have hcloses := finalize_closes env ref run.request w.controller
    intro r q hq
    change Ended ((finalize env ref run.request w.controller).1.activeSession = some r) q
    by_cases hr : r = ref
    · subst hr
      rw [moveTask_task ((hcloses.tasks r).trans htask), Option.some_inj] at hq
      exact hq ▸ ⟨fun _ => rfl, fun _ => hclosed⟩
    · rw [moveTask_of_ne hr, hcloses.tasks r] at hq
      exact (h r q hq).imp (hothers r)

/-! ### Callers that wait -/

lemma afterRequest_waiters (env : Env) (w : World) (n : ℕ) (sessionId : String)
    (request : TeardownRequest) (shield : Bool) : ∃ waiter,
      (afterRequest env w n sessionId request shield).waiters =
          Function.update w.waiters n waiter := by
  unfold afterRequest
  rcases requestTeardown env sessionId request w.controller with ⟨c, e | ref⟩ <;> exact ⟨_, rfl⟩

lemma afterControl_waiters (env : Env) (w : World) (n : ℕ) (sessionId : String)
    (decoded : Except PyError LoopbackMessage) :
    (afterControl env w n sessionId decoded).waiters = w.waiters ∨ ∃ waiter,
      (afterControl env w n sessionId decoded).waiters = Function.update w.waiters n waiter := by
  unfold afterControl
  rcases processControlMessage env sessionId decoded w.controller with ⟨c, e | reply⟩
  · exact .inl rfl
  · cases reply with
    | nothing | closed => exact .inl rfl
    | awaits => exact .inr ⟨_, rfl⟩

/-- A caller waits for a coordinator until it is answered or cancelled. -/
lemma awaiting_kept {k own : ℕ} {shield : Bool} {answers : Option String} {a : Action}
    (hs : step w (env, a) = some w') (hk : w.waiters k = some (.awaiting own shield answers))
    (hdeliver : a ≠ .deliver k) (hcancel : a ≠ .cancel k) :
    w'.waiters k = some (.awaiting own shield answers) := by
  have hother {n : ℕ} {waiters : ℕ → Option Waiter} {waiter : Option Waiter}
      (hwaiters : waiters = Function.update w.waiters n waiter) (hne : k ≠ n) :
      waiters k = some (.awaiting own shield answers) := by
    rw [hwaiters, Function.update_of_ne hne, hk]
  have hfree {n : ℕ} (hn : ¬ (w.waiters n).isSome = true) : k ≠ n := by
    rintro rfl
    simp [hk] at hn
  cases a with
  | activate sessionId token now launched =>
    rw [step, Option.ite_none_right_eq_some, Option.some_inj] at hs
    obtain ⟨-, rfl⟩ := hs
    unfold afterActivate
    rcases activate env sessionId token now launched w.controller with ⟨c, e | result⟩ <;> exact hk
  | control n sessionId decoded =>
    rw [step, Option.ite_none_left_eq_some, Option.some_inj] at hs
    obtain ⟨hn, rfl⟩ := hs
    rcases afterControl_waiters env w n sessionId decoded with h | ⟨waiter, h⟩
    · rw [h, hk]
    · exact hother h (hfree hn)
  | request n sessionId request shield =>
    rw [step, Option.ite_none_left_eq_some, Option.some_inj] at hs
    obtain ⟨hn, rfl⟩ := hs
    obtain ⟨waiter, h⟩ := afterRequest_waiters env w n sessionId request shield
    exact hother h (hfree hn)
  | close n outcome error =>
    rw [step, Option.ite_none_left_eq_some] at hs
    obtain ⟨hn, hs⟩ := hs
    split at hs <;> obtain rfl := Option.some_inj.mp hs
    · exact hk
    · exact hother rfl (hfree hn)
  | closeRequest n =>
    simp only [step] at hs
    split at hs
    · next sessionId request hn =>
      obtain rfl := Option.some_inj.mp hs
      obtain ⟨waiter, h⟩ := afterRequest_waiters env w n sessionId request false
      refine hother h ?_
      rintro rfl
      simp [hk] at hn
    · simp at hs
  | deadlineFires n ref =>
    rw [step, Option.ite_none_left_eq_some, not_or] at hs
    obtain ⟨⟨hn, -⟩, hs⟩ := hs
    split at hs
    · rw [Option.ite_none_right_eq_some, Option.some_inj] at hs
      obtain ⟨-, rfl⟩ := hs
      exact hother rfl (hfree hn)
    · simp at hs
  | expire n =>
    simp only [step] at hs
    split at hs
    · next ref hn =>
      have hne : k ≠ n := by
        rintro rfl
        simp [hk] at hn
      split at hs <;> obtain rfl := Option.some_inj.mp hs <;> exact hother rfl hne
    · simp at hs
  | deliver n =>
    have hne : k ≠ n := fun h => hdeliver (by rw [h])
    simp only [step] at hs
    split at hs
    · split at hs
      · split_ifs at hs <;> obtain rfl := Option.some_inj.mp hs <;> exact hother rfl hne
      · simp at hs
    · simp at hs
  | cancel n =>
    have hne : k ≠ n := fun h => hcancel (by rw [h])
    simp only [step] at hs
    split at hs
    · split_ifs at hs <;> obtain rfl := Option.some_inj.mp hs <;> exact hother rfl hne
    · obtain rfl := Option.some_inj.mp hs
      exact hother rfl hne
    · simp at hs
  | enter | hook | hookEnds | ackArrives | ackTimeout | finalize | finish =>
    simp only [step] at hs
    split at hs
    · split at hs
      · obtain rfl := Option.some_inj.mp hs
        exact hk
      · simp at hs
    · simp at hs
  | _ =>
    obtain rfl := Option.some_inj.mp hs
    exact hk

/-! ### What a relay has sent -/

/-- What the outbound task holds. -/
def held : OutboundTask → List LoopbackMessage
  | .done (.ok message) => [message]
  | _ => []

/-- The relay sends what it takes: it is not about to say that the session is closed. -/
def Serving (r : ControlRelay) : Prop :=
  match r.point with
  | .closing _ | .returned => False
  | _ => True

/-- The relay has sent what has been taken from the queue of its session, but for what it holds. -/
structure Carries (taken : List LoopbackMessage) (r : ControlRelay) : Prop where
  sent : taken = r.sent ++ held r.outbound
  stopSent : r.serverStopSent = r.sent.any isStop

def isClosed : LoopbackMessage → Bool
  | .sessionClosed _ _ => true
  | _ => false

/-- That the session is closed is said once, and last. -/
def SignedOff (r : ControlRelay) : Prop :=
  ∃ before, (∀ m ∈ before, isClosed m = false) ∧ (r.sent = before ∨ r.point = .returned ∧
    ∃ outcome, r.sent = before ++ [.sessionClosed r.sessionId outcome])

/-- The relay of a session: what it takes from its queue it sends. -/
structure Conveys (u : RecordedWorld) (w : World) (r : ControlRelay) (ref : ℕ) : Prop where
  born : ref < w.controller.created
  id : (w.controller.heap ref).sessionId = r.sessionId
  queue : ∀ q, r.outbound = .waiting q → q = ref
  carries : Serving r → Carries (u.taken ref) r
  signedOff : SignedOff r
  processing : ∀ k, r.point = .processing k → ∃ own shield,
    w.waiters k = some (.awaiting own shield (some r.sessionId))

/-- The relays convey the queues of their sessions, and no other message has been taken. -/
structure Conveyed (u : RecordedWorld) (v : RelayWorld) : Prop where
  world : u.world = v.world
  accounted : Accounted u
  plain : ∀ queue, ∀ m ∈ u.accepted queue, isClosed m = false
  admitted : Admitted v
  ended : AllEnded v.world.controller
  conveys : ∀ n r, v.relays n = some r → ∃ ref, Conveys u v.world r ref
  untaken : ∀ ref < v.world.controller.created, (∀ n r, v.relays n = some r →
    r.sessionId ≠ (v.world.controller.heap ref).sessionId) → u.taken ref = []

variable {u : RecordedWorld} {v v' : RelayWorld}

lemma conveyed_start (g : Config) : Conveyed { world := start g } (startRelays g) := by
  refine ⟨rfl, accounted_start g, ?_, admitted_start g, ?_, ?_, ?_⟩ <;>
    simp [startRelays, start, AllEnded, newSession]

lemma accepts_plain (w : World) (queue : ℕ) (a : Action) :
    ∀ m ∈ accepts w queue a, isClosed m = false := by
  intro m hm
  cases a with
  | publish sessionId message =>
    simp only [accepts] at hm
    split at hm
    · split_ifs at hm
      · rw [List.mem_singleton.mp hm]
        rfl
      · simp at hm
    · simp at hm
  | hook ref =>
    simp only [accepts] at hm
    split at hm
    · split_ifs at hm
      · rw [List.mem_singleton.mp hm]
        rfl
      · simp at hm
    · simp at hm
  | _ => simp [accepts] at hm

/-- The record of a step of the controller, if there is one. -/
def recorded (u : RecordedWorld) (w : World) : Option Action → RecordedWorld
  | none => u
  | some a => u.record a w

/-- What of the invariant is about the controller alone. -/
lemma Conveyed.advance (hv : Conveyed u v) {o : Option Action}
    (hw : mayStep v.world env o = some w) :
    (recorded u w o).world = w ∧ Accounted (recorded u w o) ∧
      (∀ queue, ∀ m ∈ (recorded u w o).accepted queue, isClosed m = false) ∧
      AllEnded w.controller ∧ Persists v.world.controller w.controller := by
  have hsound := hv.admitted.sound
  rcases o with _ | a
  · obtain rfl := Option.some_inj.mp hw
    exact ⟨hv.world, hv.accounted, hv.plain, hv.ended, .refl _⟩
  · have hw : step v.world (env, a) = some w := hw
    have hkept := (change_keeps (step_change hsound.good hsound.waits hw) hsound.good).2
    refine ⟨rfl, accounted_step (x := (env, a)) hv.accounted ?_, fun queue m hm => ?_,
      allEnded_step hsound.good hv.ended hw, hkept⟩
    · rw [recordedStep, hv.world, hw]
      rfl
    · rcases List.mem_append.mp hm with hm | hm
      · exact hv.plain queue m hm
      · exact accepts_plain _ queue a m hm

lemma Conveys.keep {u' : RecordedWorld} {r : ControlRelay} (h : Conveys u w r ref)
    (hkept : Persists w.controller w'.controller) (htaken : u'.taken ref = u.taken ref)
    (hwaits : ∀ k own shield, w.waiters k = some (.awaiting own shield (some r.sessionId)) →
      r.point = .processing k → w'.waiters k = some (.awaiting own shield (some r.sessionId))) :
    Conveys u' w' r ref := by
  refine ⟨h.born.trans_le hkept.created, (hkept.id ref h.born).trans h.id, h.queue,
    fun hserving => htaken ▸ h.carries hserving, h.signedOff, fun k hpoint => ?_⟩
  obtain ⟨own, shield, hk⟩ := h.processing k hpoint
  exact ⟨own, shield, hwaits k own shield hk hpoint⟩

/-- Until it returns, a relay has not said that the session is closed. -/
lemma SignedOff.plain {r : ControlRelay} (h : SignedOff r) (hpoint : r.point ≠ .returned) :
    ∀ m ∈ r.sent, isClosed m = false := by
  obtain ⟨before, hbefore, hsent | ⟨hreturned, -⟩⟩ := h
  · exact hsent ▸ hbefore
  · exact absurd hreturned hpoint

lemma SignedOff.of_plain {r : ControlRelay} (h : ∀ m ∈ r.sent, isClosed m = false) : SignedOff r :=
  ⟨r.sent, h, .inl rfl⟩

lemma SignedOff.leave {r : ControlRelay} (h : SignedOff r) : SignedOff r.leave := by
  obtain ⟨before, hbefore, hsent | ⟨-, outcome, hsent⟩⟩ := h
  · exact ⟨before, hbefore, .inl hsent⟩
  · exact ⟨before, hbefore, .inr ⟨rfl, outcome, hsent⟩⟩

/-- What a relay holds has been accepted, so it does not say that the session is closed. -/
lemma Conveyed.held_plain (hv : Conveyed u v) {r : ControlRelay} (h : Conveys u v.world r ref)
    (hserving : Serving r) : ∀ m ∈ held r.outbound, isClosed m = false := by
  intro m hm
  have htaken : m ∈ u.taken ref := by
    rw [(h.carries hserving).sent]
    exact List.mem_append_right _ hm
  refine hv.plain ref m ((hv.accounted.orderly ref).sublist.mem ?_)
  exact List.mem_append_left _ htaken

lemma processed_sent (r : ControlRelay) (k : ℕ) (reply : Except PyError ControlReply) :
    (r.processed k reply).sessionId = r.sessionId ∧ (r.processed k reply).sent = r.sent ∧
      (r.processed k reply).outbound = r.outbound ∧
      (r.processed k reply).serverStopSent = r.serverStopSent := by
  rcases reply with e | reply
  · exact ⟨rfl, rfl, rfl, rfl⟩
  · cases reply <;> exact ⟨rfl, rfl, rfl, rfl⟩

lemma answered_sent (r : ControlRelay) (run : TeardownRun) :
    (r.answered run).sessionId = r.sessionId ∧ (r.answered run).sent = r.sent ∧
      (r.answered run).outbound = r.outbound ∧
      (r.answered run).serverStopSent = r.serverStopSent := by
  unfold ControlRelay.answered
  split <;> exact ⟨rfl, rfl, rfl, rfl⟩

/-- Where the answer of a message leaves its relay. -/
lemma processing_of_processed {r : ControlRelay} {k j : ℕ} {reply : Except PyError ControlReply}
    (hpoint : r.point = .waiting) (h : (r.processed k reply).point = .processing j) :
    j = k ∧ ∃ own request, reply = .ok (.awaits own request) := by
  rcases reply with e | reply
  · simp [ControlRelay.processed, ControlRelay.leave] at h
  · cases reply with
    | nothing => simp [ControlRelay.processed, hpoint] at h
    | closed outcome =>
      simp only [ControlRelay.processed, ControlRelay.finish] at h
      split_ifs at h
    | awaits own request =>
      simp only [ControlRelay.processed, RelayPoint.processing.injEq] at h
      exact ⟨h.symm, own, request, rfl⟩

/-- A relay that says no more takes nothing more, so nothing is asked of it. -/
lemma Conveys.say {r r' : ControlRelay} (h : Conveys u v.world r ref)
    (hid : r'.sessionId = r.sessionId)
    (hqueue : ∀ q, r'.outbound = .waiting q → q = ref)
    (hcarries : Serving r' → Carries (u.taken ref) r') (hsigned : SignedOff r')
    (hpoint : ∀ k, r'.point = .processing k → r.point = .processing k) : Conveys u v.world r' ref :=
  ⟨h.born, h.id.trans hid.symm, hqueue, hcarries, hsigned,
    fun k hk => hid ▸ h.processing k (hpoint k hk)⟩

lemma queue_of_asked {sessionId : String} {queue : ℕ}
    (h : (waitForOutboundMessage sessionId c).2 = .ok queue) :
    c.outboundMessages sessionId = some queue := by
  rw [waitForOutboundMessage] at h
  rcases requireActiveSession_cases c sessionId with ⟨own, hactive, rfl⟩ | hstale
  · rw [Op.bind_of_ok (requireActiveSession_of_active hactive), Op.get_bind] at h
    rcases hqueue : c.outboundMessages (c.heap own).sessionId with _ | q
    · simp [hqueue] at h
    · rw [hqueue] at h
      simpa using h
  · rw [Op.bind_of_error hstale] at h
    cases h

/-- The outbound task of a relay sends what it holds, or the relay returns. -/
lemma Conveys.sends (hv : Conveyed u v) {r r' : ControlRelay} {message : LoopbackMessage}
    (h : Conveys u v.world r ref) (hserving : Serving r) (hdone : r.outbound = .done (.ok message))
    (hid : r'.sessionId = r.sessionId) (hsent : r'.sent = r.sent ++ [message])
    (hrest : r'.outbound = .created ∧ r'.point = r.point ∧
      r'.serverStopSent = (r.serverStopSent || isStop message) ∨
      (∃ outcome, r'.point = .closing outcome) ∧ r'.outbound = r.outbound) :
    Conveys u v.world r' ref := by
  have hcarries := h.carries hserving
  have hpoint : r.point ≠ .returned := by
    intro hreturned
    simp [Serving, hreturned] at hserving
  have hplain : ∀ m ∈ r'.sent, isClosed m = false := by
    intro m hm
    rw [hsent, List.mem_append] at hm
    rcases hm with hm | hm
    · exact h.signedOff.plain hpoint m hm
    · exact hv.held_plain h hserving m (by rw [hdone]; exact hm)
  rcases hrest with ⟨houtbound, hsame, hstop⟩ | ⟨⟨outcome, hclosing⟩, houtbound⟩
  · refine h.say hid (by simp [houtbound]) (fun _ => ⟨?_, ?_⟩) (.of_plain hplain)
      fun k hk => hsame ▸ hk
    · rw [hcarries.sent, hdone, houtbound, hsent]
      simp [held]
    · rw [hstop, hcarries.stopSent, hsent, List.any_append]
      simp
  · refine h.say hid (fun q hq => h.queue q (houtbound ▸ hq)) (fun hserves => ?_)
      (.of_plain hplain) fun k hk => ?_
    · simp [Serving, hclosing] at hserves
    · rw [hclosing] at hk
      cases hk

/-- **A relay that moves goes on conveying its queue.** -/
theorem Conveys.move (hv : Conveyed u v) {n : ℕ} {r r' : ControlRelay} {a : RelayAction}
    {action : Option Action} (h : Conveys u v.world r ref)
    (hmove : RelayMove v.world env n r a action r') (hw : mayStep v.world env action = some w) :
    Conveys (recorded u w action) w r' ref := by
  obtain ⟨hworld, -, -, -, hkept⟩ := hv.advance hw
  have hborn : ref < w.controller.created := h.born.trans_le hkept.created
  have hid : (w.controller.heap ref).sessionId = r.sessionId := (hkept.id ref h.born).trans h.id
  cases hmove with
  | received k decoded hpoint =>
    have hs : step v.world (env, .control k r.sessionId decoded) = some w := hw
    have hserving : Serving r := by simp [Serving, hpoint]
    obtain ⟨hsession, hsent, houtbound, hstop⟩ := processed_sent r k
      (processControlMessage env r.sessionId decoded v.world.controller).2
    refine ⟨hborn, hid.trans hsession.symm, fun q hq => h.queue q (houtbound ▸ hq),
      fun _ => ⟨?_, ?_⟩, .of_plain (hsent ▸ h.signedOff.plain (by simp [hpoint])), fun j hj => ?_⟩
    · rw [hsent, houtbound, ← (h.carries hserving).sent]
      simp [recorded, RecordedWorld.record, takes]
    · rw [hstop, hsent, (h.carries hserving).stopSent]
    · obtain ⟨rfl, own, request, hreply⟩ := processing_of_processed hpoint hj
      rw [step, Option.ite_none_left_eq_some, Option.some_inj] at hs
      obtain ⟨-, rfl⟩ := hs
      refine ⟨own, true, ?_⟩
      rw [hsession]
      unfold afterControl
      generalize processControlMessage env r.sessionId decoded v.world.controller = outcome
        at hreply ⊢
      obtain ⟨c, result⟩ := outcome
      obtain rfl : result = .ok (.awaits own request) := hreply
      exact Function.update_self ..
  | disconnected hpoint =>
    obtain rfl := Option.some_inj.mp hw
    exact h.say rfl h.queue (fun hserves => hserves.elim) h.signedOff.leave fun _ hk => by cases hk
  | replied k own shield answers run hpoint hk hrun =>
    have hserving : Serving r := by simp [Serving, hpoint]
    obtain ⟨hsession, hsent, houtbound, hstop⟩ := answered_sent r run
    refine ⟨hborn, hid.trans hsession.symm, fun q hq => h.queue q (houtbound ▸ hq),
      fun _ => ⟨?_, ?_⟩, .of_plain (hsent ▸ h.signedOff.plain (by simp [hpoint])), fun j hj => ?_⟩
    · rw [hsent, houtbound, ← (h.carries hserving).sent]
      simp [recorded, RecordedWorld.record, takes]
    · rw [hstop, hsent, (h.carries hserving).stopSent]
    · simp only [ControlRelay.answered, ControlRelay.finish, ControlRelay.leave] at hj
      split_ifs at hj
  | asked queue hpoint hcreated hqueue =>
    obtain rfl := Option.some_inj.mp hw
    have hown : queue = ref := by
      have hentry := queue_of_asked hqueue
      rw [← hv.world] at hentry
      exact hv.accounted.own hentry (hv.world ▸ h.born) (hv.world ▸ h.id)
    refine h.say rfl (by simp [hown]) (fun hserves => ⟨?_, (h.carries hserves).stopSent⟩)
      h.signedOff
      fun _ hk => hk
    simpa [held, hcreated] using (h.carries hserves).sent
  | refused e hpoint hcreated he =>
    obtain rfl := Option.some_inj.mp hw
    refine h.say rfl (by simp) (fun hserves => ⟨?_, (h.carries hserves).stopSent⟩) h.signedOff
      fun _ hk => hk
    simpa [held, hcreated] using (h.carries hserves).sent
  | got queue message hpoint hwaits hmessage =>
    have hs : step v.world (env, .get queue) = some w := hw
    obtain rfl := h.queue queue hwaits
    have hhead : (v.world.controller.queues queue).messages.head? = some message := by
      simpa [getOutbound] using hmessage
    refine ⟨hborn, hid, by simp, fun hserves => ⟨?_, (h.carries hserves).stopSent⟩, h.signedOff,
      fun k hk => ?_⟩
    · simp [recorded, RecordedWorld.record, takes, hv.world, hhead,
        (h.carries hserves).sent, hwaits, held]
    · obtain ⟨own, shield, hk⟩ := h.processing k hk
      exact ⟨own, shield, awaiting_kept hs hk (fun h => by cases h) fun h => by cases h⟩
  | forwarded result arrives hpoint hdone =>
    obtain rfl := Option.some_inj.mp hw
    have hleave : Conveys u v.world r.leave ref :=
      h.say rfl h.queue (fun hserves => hserves.elim) h.signedOff.leave fun _ hk => by cases hk
    rcases result with e | message
    · exact hleave
    · cases arrives with
      | false => exact hleave
      | true => exact h.sends hv (by simp [Serving, hpoint]) hdone rfl rfl (.inl ⟨rfl, rfl, rfl⟩)
  | drained outcome result arrives hpoint hdone =>
    obtain rfl := Option.some_inj.mp hw
    have hserving : Serving r := by simp [Serving, hpoint]
    have hleave : Conveys u v.world r.leave ref :=
      h.say rfl h.queue (fun hserves => hserves.elim) h.signedOff.leave fun _ hk => by cases hk
    have hclosing : Conveys u v.world { r with point := .closing outcome } ref :=
      h.say rfl h.queue (fun hserves => hserves.elim)
        (.of_plain (h.signedOff.plain (by simp [hpoint]))) fun _ hk => by cases hk
    rcases result with e | message
    · cases e with
      | staleControlMessage => exact hclosing
      | _ => exact hleave
    · cases arrives with
      | false => exact hleave
      | true =>
        rcases hstop : isStop message with _ | _
        · have hdrained : r.drain outcome (.ok message) true =
              { r with sent := r.sent ++ [message], outbound := .created } := by
            simp [ControlRelay.drain, hstop]
          rw [hdrained]
          exact h.sends hv hserving hdone rfl rfl (.inl ⟨rfl, rfl, by simp [hstop]⟩)
        · have hdrained : r.drain outcome (.ok message) true = { r with
              sent := r.sent ++ [message], serverStopSent := true, point := .closing outcome } := by
            simp [ControlRelay.drain, hstop]
          rw [hdrained]
          exact h.sends hv hserving hdone rfl rfl (.inr ⟨⟨outcome, rfl⟩, rfl⟩)
  | timedOut outcome hpoint =>
    obtain rfl := Option.some_inj.mp hw
    exact h.say rfl h.queue (fun hserves => hserves.elim)
      (.of_plain (h.signedOff.plain (by simp [hpoint]))) fun _ hk => by cases hk
  | closed outcome arrives hpoint =>
    obtain rfl := Option.some_inj.mp hw
    refine h.say rfl h.queue (fun hserves => hserves.elim)
      ⟨r.sent, h.signedOff.plain (by simp [hpoint]), ?_⟩ fun _ hk => by cases hk
    cases arrives with
    | false => exact .inl rfl
    | true => exact .inr ⟨rfl, outcome, rfl⟩
  | cancelled k hpoint =>
    exact ⟨hborn, hid, h.queue, fun hserves => hserves.elim, h.signedOff.leave,
      fun _ hk => by cases hk⟩
  | dropped hpoint =>
    obtain rfl := Option.some_inj.mp hw
    exact h.say rfl h.queue (fun hserves => hserves.elim) h.signedOff.leave fun _ hk => by cases hk

/-- An action that takes nothing leaves all that has been taken as it is. -/
lemma record_taken {a : Action} (h : ∀ queue, a ≠ .get queue) (q : ℕ) :
    (u.record a w).taken q = u.taken q := by
  cases a with
  | get queue => exact absurd rfl (h queue)
  | _ => exact List.append_nil _

/-- A relay that moves takes from its own queue. -/
lemma Conveys.taken_of_ne {n q : ℕ} {r r' : ControlRelay} {a : RelayAction}
    {action : Option Action} (h : Conveys u v.world r ref)
    (hmove : RelayMove v.world env n r a action r') (hq : q ≠ ref) :
    (recorded u w action).taken q = u.taken q := by
  rcases action with _ | a'
  · rfl
  · cases a' with
    | get queue =>
      cases hmove with
      | got _ message hpoint hwaits hmessage =>
        have hne : ¬ queue = q := fun hsame => hq (hsame.symm.trans (h.queue queue hwaits))
        simp [recorded, RecordedWorld.record, takes, hne]
    | _ => exact List.append_nil _

/-- A relay that moves lets others wait. -/
lemma moves_own_waiter {n k : ℕ} {r r' : ControlRelay} {a : RelayAction}
    {action : Option Action} (hmove : RelayMove v.world env n r a action r')
    (h : action = some (.deliver k) ∨ action = some (.cancel k)) : r.point = .processing k := by
  cases hmove <;> simp_all

/-- The caller that a relay has left waiting is the relay's to answer and to cancel. -/
lemma not_own_of_awaiting {k own : ℕ} {shield : Bool} {s : String} {a : Action}
    (hown : ofRelay w a = false) (hk : w.waiters k = some (.awaiting own shield (some s))) :
    a ≠ .deliver k ∧ a ≠ .cancel k := by
  constructor <;> rintro rfl <;> simp [ofRelay, hk] at hown

/-- Sessions that no relay serves are old ones, or have just been made. -/
lemma Conveyed.untaken_kept (hv : Conveyed u v) {u' : RecordedWorld}
    (hkept : Persists v.world.controller w.controller)
    (hrelays : ∀ n r, v.relays n = some r → ∃ m r', v'.relays m = some r' ∧
      r'.sessionId = r.sessionId) {q : ℕ} (htaken : u'.taken q = u.taken q)
    (hfree : ∀ n r, v'.relays n = some r → r.sessionId ≠ (w.controller.heap q).sessionId) :
    u'.taken q = [] := by
  rw [htaken]
  by_cases hold : q < v.world.controller.created
  · refine hv.untaken q hold fun n r hn hid => ?_
    obtain ⟨m, r', hm, hsame⟩ := hrelays n r hn
    exact hfree m r' hm (hsame.trans (hid.trans (hkept.id q hold).symm))
  · exact congrArg Ledger.taken (hv.accounted.unborn q (hv.world ▸ not_lt.mp hold))

/-- **Every step keeps the queues conveyed.** -/
theorem conveyed_step {x : Env × RelayAction} (hv : Conveyed u v) (hs : relayStep v x = some v') :
    ∃ u', Conveyed u' v' := by
  obtain ⟨env, a⟩ := x
  have hadmitted := admitted_step hv.admitted hs
  -- a relay that stays as it is while the controller takes a step
  have hstay {a : Action} {w : World} {n : ℕ} {r : ControlRelay} (hn : v.relays n = some r)
      (hw : step v.world (env, a) = some w) (hget : ∀ queue, a ≠ .get queue)
      (hown : ∀ k own shield, v.world.waiters k = some (.awaiting own shield (some r.sessionId)) →
        a ≠ .deliver k ∧ a ≠ .cancel k) : ∃ ref, Conveys (u.record a w) w r ref := by
    obtain ⟨ref, h⟩ := hv.conveys n r hn
    obtain ⟨-, -, -, -, hkept⟩ := hv.advance (o := some a) hw
    refine ⟨ref, h.keep hkept (record_taken hget ref) fun k own shield hk _ => ?_⟩
    obtain ⟨hdeliver, hcancel⟩ := hown k own shield hk
    exact awaiting_kept hw hk hdeliver hcancel
  cases relay_change hs with
  | elsewhere a w hown hw =>
    obtain ⟨hworld, haccounted, hplain, hended, hkept⟩ := hv.advance (o := some a) hw
    have hget : ∀ queue, a ≠ .get queue := by
      rintro queue rfl
      simp [ofRelay] at hown
    refine ⟨u.record a w, hworld, haccounted, hplain, hadmitted, hended, fun n r hn => ?_,
      fun q _ hfree => ?_⟩
    · exact hstay hn hw hget fun _ _ _ hk => not_own_of_awaiting hown hk
    · exact hv.untaken_kept hkept (fun n r hn => ⟨n, r, hn, rfl⟩) (record_taken hget q) hfree
  | refused n token now w hw =>
    have hconsume : mayStep v.world env (some (.consume token now)) = some w := hw
    obtain ⟨hworld, haccounted, hplain, hended, hkept⟩ := hv.advance hconsume
    refine ⟨u.record _ w, hworld, haccounted, hplain, hadmitted, hended, fun n r hn => ?_,
      fun q _ hfree => ?_⟩
    · exact hstay hn hw (by simp) (by simp)
    · exact hv.untaken_kept hkept (fun n r hn => ⟨n, r, hn, rfl⟩) (record_taken (by simp) q) hfree
  | attached n token now sessionId w hfree hw hconsumed =>
    have hconsume : mayStep v.world env (some (.consume token now)) = some w := hw
    obtain ⟨hworld, haccounted, hplain, hended, hkept⟩ := hv.advance hconsume
    obtain ⟨own, hactive, hid⟩ := active_of_consumed hconsumed
    have hborn := (hv.admitted.sound.good.active own hactive).1
    -- no relay served the session, so nothing has been taken from its queue
    have hnone : u.taken own = [] := by
      refine hv.untaken own hborn fun m r hm hr => ?_
      obtain ⟨⟨expiresAt, hpending⟩, -⟩ := closed_of_consumed hv.admitted.orderly hconsumed
      exact hv.admitted.closed m r hm token expiresAt (hr.trans hid ▸ hpending)
    refine ⟨u.record _ w, hworld, haccounted, hplain, hadmitted, hended, fun m r hm => ?_,
      fun q _ hserved => ?_⟩
    · change Function.update v.relays n (some { sessionId }) m = some r at hm
      by_cases hmn : m = n
      · subst hmn
        obtain rfl : { sessionId } = r := by simpa using hm
        refine ⟨own, hborn.trans_le hkept.created, (hkept.id own hborn).trans hid, by simp,
          fun _ => ⟨?_, rfl⟩, .of_plain (by simp), by simp⟩
        exact (record_taken (by simp) own).trans hnone
      · rw [Function.update_of_ne hmn] at hm
        exact hstay hm hw (by simp) (by simp)
    · refine hv.untaken_kept hkept (fun m r hm => ⟨m, r, ?_, rfl⟩)
        (record_taken (by simp) q) hserved
      have hmn : m ≠ n := by
        rintro rfl
        cases hfree.symm.trans hm
      exact (Function.update_of_ne hmn _ _).trans hm
  | moved n a action r r' w hn hmove hw =>
    obtain ⟨hworld, haccounted, hplain, hended, hkept⟩ := hv.advance hw
    obtain ⟨ref, h⟩ := hv.conveys n r hn
    have hid := hmove.sessionId
    refine ⟨recorded u w action, hworld, haccounted, hplain, hadmitted, hended, fun m q hm => ?_,
      fun own hown hfree => ?_⟩
    · change Function.update v.relays n (some r') m = some q at hm
      by_cases hmn : m = n
      · subst hmn
        obtain rfl : r' = q := by simpa using hm
        exact ⟨ref, h.move hv hmove hw⟩
      · rw [Function.update_of_ne hmn] at hm
        obtain ⟨own, h'⟩ := hv.conveys m q hm
        have hother : q.sessionId ≠ r.sessionId := fun hsame =>
          hmn (hv.admitted.single m n q r hm hn hsame)
        have hne : own ≠ ref := by
          rintro rfl
          exact hother (h'.id.symm.trans h.id)
        refine ⟨own, h'.keep hkept (h.taken_of_ne hmove hne) fun k holder shield hk hpoint => ?_⟩
        have hwaiter (hsame : action = some (.deliver k) ∨ action = some (.cancel k)) : False := by
          obtain ⟨holder', shield', hk'⟩ := h.processing k (moves_own_waiter hmove hsame)
          have hsame := hk.symm.trans hk'
          simp only [Option.some_inj, Waiter.awaiting.injEq] at hsame
          exact hother hsame.2.2
        rcases action with _ | a'
        · obtain rfl := Option.some_inj.mp hw
          exact hk
        · have hs : step v.world (env, a') = some w := hw
          exact awaiting_kept hs hk (fun h => hwaiter (.inl (by rw [h])))
            fun h => hwaiter (.inr (by rw [h]))
    · have hne : own ≠ ref := by
        rintro rfl
        refine hfree n r' (by simp [RelayWorld.setRelay]) (hid.trans ?_)
        exact (h.id.symm.trans (hkept.id own h.born).symm)
      refine hv.untaken_kept hkept (fun m q hm => ?_) (h.taken_of_ne hmove hne) hfree
      by_cases hmn : m = n
      · subst hmn
        obtain rfl : r = q := Option.some_inj.mp (hn.symm.trans hm)
        exact ⟨m, r', by simp, hid⟩
      · exact ⟨m, q, (Function.update_of_ne hmn _ _).trans hm, rfl⟩

/-- **In every run the relays convey the queues of their sessions.** -/
theorem conveyed_run {g : Config} {as : List (Env × RelayAction)}
    (h : Run relayStep (fun _ _ => True) (startRelays g) as v) : ∃ u, Conveyed u v :=
  h.invariant (I := fun v => ∃ u, Conveyed u v) ⟨_, conveyed_start g⟩
    fun _ _ _ ht _ hs => ht.elim fun _ hu => conveyed_step hu hs

end HermesRealtime.Conveyance

import HermesRealtime.OneSession
import Mathlib.Algebra.Group.Int.Defs

/-!
When a request for a teardown starts the coordinator. It does exactly if neither the observer nor
the trace raises while the teardown begins; the trace does when the page has reported a time that
the controller's clock has not reached, and then the session stays in `STOPPING` without a
coordinator.
-/

namespace HermesRealtime.TeardownStart

open Values Text Protocol Phases Timing Interruption Teardown Controller Operations SessionRuns
  Lifecycle Bookkeeping CriticalSections Changes OneSession Runs

variable {w w' : World} {env : Env} {c : VoiceSessionController} {ref : ℕ}

/-- The requests of a step for the teardown of the active session meet an observer and a trace
that let it begin. -/
def LetsBegin (w : World) (x : Env × Action) : Prop := (smooth w x).beginning

instance (w : World) (x : Env × Action) : Decidable (LetsBegin w x) :=
  decidable_of_iff (∀ ref ∈ w.controller.activeSession,
    asks w x.2 = some (w.controller.heap ref).sessionId →
      Lets x.1 w.controller (w.controller.heap ref)) Iff.rfl

/-- A teardown of the session has been requested without an exception, and its coordinator is
started. -/
def Started (w w' : World) (ref : ℕ) : Prop :=
  (∃ request byDeadline, w'.log = w.log ++ [.requested ref request byDeadline]) ∧
    (w'.controller.heap ref).teardown.task ≠ none

/-- In `STOPPING` the coordinator of the active session has been started. -/
def Unwedged (c : VoiceSessionController) : Prop :=
  ∀ ref, c.activeSession = some ref → (c.heap ref).state.phase = .stopping →
    (c.heap ref).teardown.task ≠ none

/-- A page that reports a time far ahead of the clock, and is stopped by the tray. -/
def farAhead : List (Env × Action) :=
  [(stillEnv, .activate "voice-one-01" "token" 0 (some ⟨1⟩)),
   (stillEnv, .control 0 "voice-one-01" (.ok (.pageReady "voice-one-01"))),
   (stillEnv, .control 1 "voice-one-01" (.ok (.pageStarted "voice-one-01"))),
   (stillEnv, .control 2 "voice-one-01" (.ok (.timing
      ⟨"voice-one-01", .peerConnectionState, ⟨1, 40, by decide, by decide, by decide⟩,
        [("state", .str "connected")]⟩))),
   (stillEnv, .request 3 "voice-one-01" ⟨.cancelled, .nativeCancel, none⟩ true),
   (stillEnv, .control 4 "voice-one-01" (.ok (.stop "voice-one-01" .button)))]

/-- The page is believed about its clock, and then no request starts the coordinator: the session
is in `STOPPING` for good, though the observer never raised. -/
theorem wedged_by_page : ∃ w ref, Run step Quiet (start {}) farAhead w ∧
    w.controller.activeSession = some ref ∧
    (w.controller.heap ref).trace.events.map (·.monotonicNs) = [1000000 * 2 ^ 40] ∧
    (w.controller.heap ref).state.phase = .stopping ∧
    (w.controller.heap ref).teardown.task = none ∧
    ∀ request byDeadline, .requested ref request byDeadline ∉ w.log := by
  have hexec : (exec step (fun w x => decide (Quiet w x)) (start {}) farAhead).map
      (fun w => (w.controller.activeSession, (w.controller.heap 0).state.phase,
        (w.controller.heap 0).trace.events.map (·.monotonicNs),
        (w.controller.heap 0).teardown.task.isNone, w.log)) =
      some (some 0, .stopping, [1000000 * 2 ^ 40], true,
        [.launched 0, .activated "voice-one-01", .pageStarted 0]) := by
    decide +kernel
  obtain ⟨w, hw, hfacts⟩ := Option.map_eq_some_iff.mp hexec
  obtain ⟨hactive, hphase, htimes, htask, hlog⟩ := by simpa only [Prod.mk.injEq] using hfacts
  have hrun := run_of_exec (C := Quiet) (fun _ _ h => of_decide_eq_true h) _ _ hw
  exact ⟨w, 0, hrun, hactive, htimes, hphase, Option.isNone_iff_eq_none.mp htask, by simp [hlog]⟩

/-! ### One request -/

lemma begin_iff (env : Env) (hg : Good c) (hactive : c.activeSession = some ref)
    (request : TeardownRequest) :
    (∃ c', beginTeardownLocked env (c.heap ref).sessionId request c = (c', .ok ref) ∧
      Begun c ref request c') ↔ Lets env c (c.heap ref) := by
  rcases begin_cases env ⟨True, True, True, True, True⟩ hg hactive request with
    ⟨c', hbegin, hbegun, hlets⟩ | ⟨c', e, hbegin, hno, -⟩
  · exact ⟨fun _ => hlets, fun _ => ⟨c', hbegin, hbegun⟩⟩
  · refine ⟨fun ⟨c'', hok, _⟩ => ?_, fun h => absurd h hno⟩
    rw [hbegin] at hok
    simp at hok

/-- A message addressed to the active session is handled. -/
lemma control_active (hactive : c.activeSession = some ref) {message : LoopbackMessage}
    (hid : message.sessionId? = some (c.heap ref).sessionId)
    (hkind : ∀ m, message ≠ .taskEvent m) :
    processControlMessage env (c.heap ref).sessionId (.ok message) c =
      handleMessage env ref message c := by
  have hparse : parseLoopbackMessage (.ok message) (c.heap ref).sessionId = .ok message := by
    simp [parseLoopbackMessage, bind, Except.bind, hid, pure, Except.pure]
  rw [processControlMessage, Op.bind_apply, Op.ofExcept_apply, hparse]
  cases message with
  | taskEvent m => exact absurd rfl (hkind m)
  | _ => simp [hactive]

lemma not_started (hlog : w'.log = w.log) : ¬ Started w w' ref := by
  rintro ⟨⟨request, byDeadline, h⟩, -⟩
  rw [hlog] at h
  have hlength := congrArg List.length h
  simp at hlength

lemma request_iff (hg : Good w.controller) (hactive : w.controller.activeSession = some ref)
    (n : ℕ) (request : TeardownRequest) (shield : Bool) :
    Started w (afterRequest env w n (w.controller.heap ref).sessionId request shield) ref ↔
      Lets env w.controller (w.controller.heap ref) := by
  have hrequest : requestTeardown env (w.controller.heap ref).sessionId request w.controller =
      beginTeardownLocked env (w.controller.heap ref).sessionId request w.controller := by
    rw [requestTeardown, Op.bind_of_ok (requireActiveSession_of_active hactive), Op.get_bind]
  rw [afterRequest, hrequest]
  rcases begin_cases env ⟨True, True, True, True, True⟩ hg hactive request with
    ⟨c', hbegin, hbegun, hlets⟩ | ⟨c', e, hbegin, hno, -⟩ <;> rw [hbegin]
  · refine iff_of_true ⟨⟨request, false, rfl⟩, ?_⟩ hlets
    exact ne_of_eq_of_ne (begun_facts hg hbegun).2.2.1 (by simp)
  · exact iff_of_false (not_started rfl) hno

lemma expire_iff (hg : Good w.controller) {n : ℕ} (hn : w.waiters n = some (.expiring ref))
    (hstarting : Starting w.controller ref) (hs : step w (env, .expire n) = some w') :
    Started w w' ref ↔ Lets env w.controller (w.controller.heap ref) := by
  obtain ⟨hactive, hphase⟩ := hstarting
  have hexpire : expireBrowserStartup env ref w.controller =
      (beginTeardownLocked env (w.controller.heap ref).sessionId startupTimedOut >>=
        fun _ => pure true) w.controller := by
    rw [expireBrowserStartup, Op.get_bind, if_neg]
    rcases hphase with h | h <;> simp [hactive, h]
  simp only [step, hn, hexpire] at hs
  rcases begin_cases env ⟨True, True, True, True, True⟩ hg hactive startupTimedOut with
    ⟨c', hbegin, hbegun, hlets⟩ | ⟨c', e, hbegin, hno, -⟩
  · rw [Op.bind_of_ok hbegin] at hs
    obtain rfl := Option.some_inj.mp hs
    refine iff_of_true ⟨⟨startupTimedOut, true, rfl⟩, ?_⟩ hlets
    exact ne_of_eq_of_ne (begun_facts hg hbegun).2.2.1 (by simp)
  · rw [Op.bind_of_error hbegin] at hs
    obtain rfl := Option.some_inj.mp hs
    exact iff_of_false (not_started rfl) hno

lemma stop_iff (hg : Good w.controller) (hactive : w.controller.activeSession = some ref) (n : ℕ)
    (reason : StopReason) :
    Started w (afterControl env w n (w.controller.heap ref).sessionId
        (.ok (.stop (w.controller.heap ref).sessionId reason))) ref ↔
      Lets env w.controller (w.controller.heap ref) := by
  rw [afterControl, control_active hactive rfl (by simp), handleMessage, Op.get_bind]
  rcases begin_cases env ⟨True, True, True, True, True⟩ hg hactive
    { outcome := outcomeForStopReason reason, reason } with
    ⟨c', hbegin, hbegun, hlets⟩ | ⟨c', e, hbegin, hno, -⟩
  · rw [Op.bind_of_ok hbegin]
    refine iff_of_true ⟨⟨{ outcome := outcomeForStopReason reason, reason }, false, ?_⟩, ?_⟩ hlets
    · simp [World.observe, World.withController, observed, hactive]
    · exact ne_of_eq_of_ne (begun_facts hg hbegun).2.2.1 (by simp)
  · rw [Op.bind_of_error hbegin]
    exact iff_of_false (not_started rfl) hno

lemma teardownComplete_iff (hg : Good w.controller)
    (hactive : w.controller.activeSession = some ref) (n : ℕ) :
    Started w (afterControl env w n (w.controller.heap ref).sessionId
        (.ok (.teardownComplete (w.controller.heap ref).sessionId))) ref ↔
      Lets env w.controller (w.controller.heap ref) := by
  rw [afterControl, control_active hactive rfl (by simp), handleMessage, Op.get_bind]
  set reason := (w.controller.heap ref).stopReason.getD .button
  rcases begin_cases env ⟨True, True, True, True, True⟩ hg hactive
    { outcome := outcomeForStopReason reason, reason } with
    ⟨c', hbegin, hbegun, hlets⟩ | ⟨c', e, hbegin, hno, -⟩
  · rw [Op.bind_of_ok hbegin]
    refine iff_of_true ⟨⟨_, false, rfl⟩, ?_⟩ hlets
    have htask := (begun_facts hg hbegun).2.2.1
    simp [World.observe, World.withController, World.setWaiter, Op.bind_apply,
      TeardownCoordinator.acknowledgeBrowserTeardown, htask]
  · rw [Op.bind_of_error hbegin]
    exact iff_of_false (not_started rfl) hno

/-- **A request starts the coordinator exactly if the observer and the trace let it.** -/
theorem started_iff {a : Action} (hw : Sound w) (hs : step w (env, a) = some w')
    (hactive : w.controller.activeSession = some ref)
    (hasks : asks w a = some (w.controller.heap ref).sessionId) :
    Started w w' ref ↔ Lets env w.controller (w.controller.heap ref) := by
  cases a with
  | request n sessionId request shield =>
    obtain rfl := Option.some_inj.mp hasks
    rw [step, Option.ite_none_left_eq_some, Option.some_inj] at hs
    obtain ⟨-, rfl⟩ := hs
    exact request_iff hw.good hactive n request shield
  | closeRequest n =>
    rcases hn : w.waiters n with _ | v
    · simp [asks, hn] at hasks
    cases v with
    | closing sessionId request =>
      simp only [asks, hn, Option.some_inj] at hasks
      subst hasks
      simp only [step, hn, Option.some_inj] at hs
      subst hs
      exact request_iff hw.good hactive n request false
    | expiring _ => simp [asks, hn] at hasks
    | awaiting _ _ _ => simp [asks, hn] at hasks
  | control n sessionId decoded =>
    rw [step, Option.ite_none_left_eq_some, Option.some_inj] at hs
    obtain ⟨-, rfl⟩ := hs
    rcases decoded with e | message
    · simp [asks] at hasks
    cases message with
    | stop s reason =>
      simp only [asks, Option.ite_none_right_eq_some, Option.some_inj] at hasks
      obtain ⟨rfl, rfl⟩ := hasks
      exact stop_iff hw.good hactive n reason
    | teardownComplete s =>
      simp only [asks, Option.ite_none_right_eq_some, Option.some_inj] at hasks
      obtain ⟨rfl, rfl⟩ := hasks
      exact teardownComplete_iff hw.good hactive n
    | _ => simp [asks] at hasks
  | expire n =>
    rcases hn : w.waiters n with _ | v
    · simp [asks, hn] at hasks
    cases v with
    | expiring r =>
      simp only [asks, hn, Option.ite_none_right_eq_some, Option.some_inj] at hasks
      obtain ⟨hstarting, -⟩ := hasks
      obtain rfl : r = ref := by simpa [hactive, eq_comm] using hstarting.1
      exact expire_iff hw.good hn hstarting hs
    | closing _ _ => simp [asks, hn] at hasks
    | awaiting _ _ _ => simp [asks, hn] at hasks
  | _ => simp [asks] at hasks

/-! ### Runs -/

variable {k : Smooth} {c' : VoiceSessionController}

/-- A record that keeps its phase keeps the session from being wedged. -/
lemma Unwedged.update {s' : WakeSession} (hu : Unwedged c) (hsame : SameTables c c')
    (hheap : c'.heap = Function.update c.heap ref s')
    (hs : s'.state.phase = .stopping → s'.teardown.task = none →
      (c.heap ref).state.phase = .stopping ∧ (c.heap ref).teardown.task = none) :
    Unwedged c' := by
  intro r hactive hstopping hnone
  obtain ⟨hold, ⟨rfl, hrecord⟩ | hrecord⟩ := active_of_update hsame hheap hactive
  · obtain ⟨hwas, hwasnt⟩ := hs (hrecord ▸ hstopping) (hrecord ▸ hnone)
    exact hu ref hold hwas hwasnt
  · exact hu r hold (hrecord ▸ hstopping) (hrecord ▸ hnone)

lemma Unwedged.effect (hu : Unwedged c) (hk : k.beginning) (h : Effect k c c') : Unwedged c' := by
  intro r hactive hstopping hnone
  have hrecord := h.activeRecord hactive
  generalize c'.heap r = s' at hstopping hnone hrecord
  cases hrecord with
  | same hold hs => exact hu r hold (hs ▸ hstopping) (hs ▸ hnone)
  | touched hold htouch =>
    cases htouch with
    | observed | handleTaken | acknowledged => exact hu r hold hstopping hnone
    | moved run run' hrun hmove => simp at hnone
  | moved hold hmove =>
    cases hmove with
    | connected state hstate => simp [(SessionState.transition_ok hstate).1] at hstopping
    | wentLive state hstate => simp [(SessionState.transition_ok hstate).1] at hstopping
    | raised state stopReason hstate hlets => exact absurd hk hlets
    | begunAgain state trace request => simp [begunSession, TeardownCoordinator.start_task] at hnone
  -- a session that has just been opened is not in `STOPPING`
  | opened _ _ _ _ _ hphase hs => simp [hs, openedSession, newSession, hphase] at hstopping
  | openRaised _ _ _ hphase _ hs => simp [hs, newSession, hphase] at hstopping

lemma Unwedged.begun {request : TeardownRequest} (hu : Unwedged c) (h : Begun c ref request c') :
    Unwedged c' := by
  obtain ⟨state, trace, hactive, hsame, hstate, hheap⟩ := h
  exact hu.update hsame hheap (by simp [begunSession, TeardownCoordinator.start_task])

lemma Unwedged.effects (hu : Unwedged c) (hk : k.beginning) (h : Effects k c c') : Unwedged c' :=
  h.invariant hu fun _ _ hu heffect => hu.effect hk heffect

lemma unwedged_change (hu : Unwedged w.controller) (hk : k.beginning) (h : Change k w w') :
    Unwedged w'.controller := by
  cases h with
  | internal heffects => exact hu.effects hk heffects
  | fired n ref d href hd harmed hfree hcontroller =>
    rw [hcontroller]
    exact hu.update (fired_record w.controller ref _).1 rfl fun h h' => ⟨h, h'⟩
  | requested ref request byDeadline c₁ hbegun heffects =>
      exact (hu.begun hbegun).effects hk heffects
  | pageStarted ref hactive heffects => exact hu.effects hk heffects
  | launched sessionId returned hidle heffect => exact hu.effect hk heffect
  | delivered n ref shield answers run hn hrun hcontroller => rwa [hcontroller]
  | answered sessionId hlast hcontroller => rwa [hcontroller]

/-- **No wedge.** In a run whose requests for a teardown all meet an observer and a trace that
let it begin, a session in `STOPPING` has its coordinator; and a further request is accepted and
leaves the coordinator started exactly if they let it. -/
theorem teardown_starts {g : Config} {as : List (Env × Action)}
    (h : Run step LetsBegin (start g) as w) :
    Unwedged w.controller ∧
      ∀ env a w' ref, step w (env, a) = some w' → w.controller.activeSession = some ref →
        asks w a = some (w.controller.heap ref).sessionId →
          (Started w w' ref ↔ Lets env w.controller (w.controller.heap ref)) := by
  have hrun : Sound w ∧ Unwedged w.controller := by
    refine h.invariant (I := fun w => Sound w ∧ Unwedged w.controller)
      ⟨sound_start g, by simp [Unwedged, start]⟩ fun t x u ht hx hs => ?_
    have hchange := step_change ht.1.good ht.1.waits hs
    exact ⟨ht.1.change hchange, unwedged_change ht.2 hx hchange⟩
  exact ⟨hrun.2, fun env a w' ref hs hactive hasks => started_iff hrun.1 hs hactive hasks⟩

theorem teardown_starts_button :
    ∃ w w' : World, Started w w' 0 ∧ Unwedged w'.controller := by
  have hexec : (exec step (fun w x => decide (LetsBegin w x)) (start {})
      [(stillEnv, .activate "voice-one-01" "token" 0 (some ⟨1⟩))]).map
      (fun w => (w.controller.activeSession, (w.controller.heap 0).sessionId,
        decide (Lets stillEnv w.controller (w.controller.heap 0)), (w.waiters 0).isSome)) =
      some (some 0, "voice-one-01", true, false) := by
    decide +kernel
  obtain ⟨w, hw, hfacts⟩ := Option.map_eq_some_iff.mp hexec
  obtain ⟨hactive, hid, hlets, hfree⟩ := by simpa only [Prod.mk.injEq] using hfacts
  have hrun := run_of_exec (C := LetsBegin) (fun _ _ h => of_decide_eq_true h) _ _ hw
  set stop : Action := .control 0 "voice-one-01" (.ok (.stop "voice-one-01" .button)) with hstop
  obtain ⟨w', hs⟩ : ∃ w', step w (stillEnv, stop) = some w' := ⟨_, if_neg (by simp [hfree])⟩
  have hasks : asks w stop = some (w.controller.heap 0).sessionId := by simp [asks, hstop, hid]
  have hstarted := ((teardown_starts hrun).2 stillEnv stop w' 0 hs hactive hasks).mpr
    (of_decide_eq_true hlets)
  have hlets' : LetsBegin w (stillEnv, stop) := by
    intro ref href _
    obtain rfl : 0 = ref := by simpa [hactive] using href
    exact of_decide_eq_true hlets
  exact ⟨w, w', hstarted, (teardown_starts (hrun.snoc hlets' hs)).1⟩

end HermesRealtime.TeardownStart

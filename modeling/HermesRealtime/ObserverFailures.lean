import HermesRealtime.StartupGuard

/-!
What a status observer that raises leaves behind. Telling it that the page connected, or that the
session is live, may fail without harm; but where it is told in the middle of an activation, of
the beginning of a teardown or of a finalization, the rest of that operation is lost with it: a
session stays active without a browser, or is closed without a result.
-/

namespace HermesRealtime.ObserverFailures

open Values Protocol Phases Teardown Controller SessionRuns Lifecycle Bookkeeping Changes Settlement
  TeardownStart StartupGuard Runs

variable {w : World}

/-- No operation is cut short: the observer does not raise when the set of active sessions
changes, and neither it nor the trace when a teardown begins. -/
def Completes (w : World) (x : Env × Action) : Prop := Calm (smooth w x) ∧ LetsBegin w x

/-- Every deadline that has fired has been handled, and every task that was started has
finished. -/
def AtRest (w : World) : Prop :=
  (∀ n ref, w.waiters n ≠ some (.expiring ref)) ∧
    ∀ ref < w.controller.created, ∀ run, (w.controller.heap ref).teardown.task = some run →
      run.Finished

/-- An active session has a browser, and something will end it or the page is live; any other
session has its result, and so do those who wait for it. -/
structure InOrder (c : VoiceSessionController) : Prop where
  active : ∀ ref, c.activeSession = some ref → (c.heap ref).browserHandle ≠ none ∧
    (Armed (c.heap ref) ∨ (c.heap ref).state.phase = .live ∨ (c.heap ref).teardown.task ≠ none)
  closed : ∀ ref < c.created, c.activeSession ≠ some ref → ∃ result,
    c.terminalResults (c.heap ref).sessionId = some result ∧ c.futures ref = some result

/-- An observer that fails to write the status of a launch. -/
def fullDisk : Env := { stillEnv with observerRaises := fun state => state = .launching }

/-- The first activation fails to write its status, the second comes when the disk is free. -/
def activateTwice : List (Env × Action) :=
  [(fullDisk, .activate "voice-one-01" "token" 0 (some ⟨1⟩)),
   (stillEnv, .activate "voice-two-02" "token-2" 0 (some ⟨2⟩))]

/-- The session whose status was not written is active for good: it has no browser, no deadline
and no teardown, and the next activation finds the controller busy. -/
theorem stuck_by_observer : ∃ w ref, Run step (fun _ _ => True) (start {}) activateTwice w ∧
    AtRest w ∧ w.controller.activeSession = some ref ∧
    (w.controller.heap ref).browserHandle = none ∧ ¬ Armed (w.controller.heap ref) ∧
    (w.controller.heap ref).state.phase = .launching ∧
    (w.controller.heap ref).teardown.task = none ∧ w.log = [] := by
  obtain ⟨v, hv⟩ : ∃ v, v = afterActivate fullDisk (start {}) "voice-one-01" "token" 0 (some ⟨1⟩) :=
    ⟨_, rfl⟩
  obtain ⟨w, hw⟩ : ∃ w, w = afterActivate stillEnv v "voice-two-02" "token-2" 0 (some ⟨2⟩) :=
    ⟨_, rfl⟩
  have hfirst : step (start {}) (fullDisk, .activate "voice-one-01" "token" 0 (some ⟨1⟩)) =
      some v := by
    rw [step, if_pos (by decide), hv]
  have hsecond : step v (stillEnv, .activate "voice-two-02" "token-2" 0 (some ⟨2⟩)) = some w := by
    rw [step, if_pos (by rw [hv]; decide +kernel), hw]
  have hrun : Run step (fun _ _ => True) (start {}) activateTwice w :=
    (Run.nil.snoc trivial hfirst).snoc trivial hsecond
  have hactive : (w.controller.activeSession, w.controller.created, w.log) = (some 0, 1, []) := by
    rw [hw, hv]
    decide +kernel
  have hrecord : ((w.controller.heap 0).browserHandle, (w.controller.heap 0).startupDeadline,
      (w.controller.heap 0).state.phase, (w.controller.heap 0).teardown.task) =
      (none, none, .launching, none) := by
    rw [hw, hv]
    decide +kernel
  simp only [Prod.mk.injEq] at hactive hrecord
  obtain ⟨hactive, hcreated, hlog⟩ := hactive
  obtain ⟨hhandle, hdeadline, hphase, htask⟩ := hrecord
  have hwaiters : w.waiters = fun _ => none := by
    rw [hw, afterActivate_waiters, hv, afterActivate_waiters]
    rfl
  refine ⟨w, 0, hrun, ⟨by simp [hwaiters], fun ref href run hrun => ?_⟩, hactive, hhandle,
    ?_, hphase, htask, hlog⟩
  · obtain rfl : ref = 0 := by omega
    simp [htask] at hrun
  · simp [Armed, hdeadline]

/-- **Nothing is left behind** by a run none of whose operations is cut short: once the deadlines
and the tasks are at rest, an active session can still be ended, and every other one has its
result. -/
theorem in_order_at_rest {g : Config} {as : List (Env × Action)}
    (h : Run step Completes (start g) as w) (hrest : AtRest w) : InOrder w.controller := by
  obtain ⟨hsound, hsettled, hunwedged, hguarded, hhandled⟩ : Sound w ∧ Settled w.controller ∧
      Unwedged w.controller ∧ Guarded w ∧ Handled w.controller := by
    refine h.invariant (I := fun w => Sound w ∧ Settled w.controller ∧ Unwedged w.controller ∧
      Guarded w ∧ Handled w.controller) ⟨sound_start g, settled_start g, ?_, ?_, ?_⟩ ?_
    · simp [Unwedged, start]
    · simp [Guarded, Starting, start]
    · simp [Handled, start]
    · rintro t x u ⟨ht, hsettled, hunwedged, hguarded, hhandled⟩ ⟨hcalm, hbegins⟩ hs
      have hchange := step_change ht.good ht.waits hs
      exact ⟨ht.change hchange, settled_change hsettled ht.good hcalm hchange,
        unwedged_change hunwedged hbegins hchange, guarded_change hguarded ht.good hcalm.1 hchange,
        handled_change hhandled hcalm.1 hchange⟩
  refine ⟨fun ref hactive => ⟨?_, ?_⟩, hsettled.recorded⟩
  · obtain ⟨htaken, hfinal⟩ := hhandled ref hactive
    rcases htaken with htaken | ⟨run, hrun, hran⟩
    · exact htaken
    · have hfinished := hrest.2 ref (hsound.good.active ref hactive).1 run hrun
      exact absurd hran (not_ran hfinished (hfinal run hrun))
  · have hstarting (hstarting : Starting w.controller ref) : Armed (w.controller.heap ref) := by
      refine (hguarded ref hstarting).resolve_right ?_
      rintro ⟨n, hn⟩
      exact hrest.1 n ref hn
    rcases (hsound.good.active ref hactive).2.1 with hphase | hphase | hphase | hphase
    · exact .inl (hstarting ⟨hactive, .inl hphase⟩)
    · exact .inl (hstarting ⟨hactive, .inr hphase⟩)
    · exact .inr (.inl hphase)
    · exact .inr (.inr (hunwedged ref hactive hphase))

/-- An observer that fails to write that the page connected. -/
def fullLater : Env := { stillEnv with observerRaises := fun state => state = .connecting }

theorem in_order_at_rest_connected : ∃ w : World, (w.controller.heap 0).state.phase = .connecting ∧
    w.controller.activeSession = some 0 ∧ InOrder w.controller := by
  obtain ⟨v, hv⟩ : ∃ v, v = afterActivate fullLater (start {}) "voice-one-01" "token" 0
      (some ⟨1⟩) := ⟨_, rfl⟩
  obtain ⟨w, hw⟩ : ∃ w, w = afterControl fullLater v 0 "voice-one-01"
      (.ok (.pageReady "voice-one-01")) := ⟨_, rfl⟩
  have hfree : v.waiters = fun _ => none := by
    rw [hv, afterActivate_waiters]
    rfl
  have hfirst : step (start {}) (fullLater, .activate "voice-one-01" "token" 0 (some ⟨1⟩)) =
      some v := by
    rw [step, if_pos (by decide), hv]
  have hsecond : step v (fullLater, .control 0 "voice-one-01" (.ok (.pageReady "voice-one-01"))) =
      some w := by
    rw [step, if_neg (by simp [hfree]), hw]
  have hcalm (v : World) (a : Action) (hasks : asks v a = none) : Completes v (fullLater, a) := by
    refine ⟨⟨fun _ _ _ _ _ _ => rfl, fun _ _ _ _ _ => rfl, fun _ _ _ => rfl⟩, fun ref _ h => ?_⟩
    simp [hasks] at h
  have hrun := (Run.nil.snoc (hcalm _ _ rfl) hfirst).snoc (hcalm _ _ rfl) hsecond
  have hfacts : (w.controller.activeSession, w.controller.created,
      (w.controller.heap 0).state.phase, (w.controller.heap 0).teardown.task) =
      (some 0, 1, .connecting, none) := by
    rw [hw, hv]
    decide +kernel
  have hraised : (processControlMessage fullLater "voice-one-01" (.ok (.pageReady "voice-one-01"))
      v.controller).2 = .error .osError := by
    rw [hv]
    decide +kernel
  have hwaiters : w.waiters = fun _ => none := by
    rw [hw, afterControl_waiters (by simp [hraised]), hfree]
  simp only [Prod.mk.injEq] at hfacts
  obtain ⟨hactive, hcreated, hphase, htask⟩ := hfacts
  refine ⟨w, hphase, hactive,
    in_order_at_rest hrun ⟨by simp [hwaiters], fun ref href run hrun => ?_⟩⟩
  obtain rfl : ref = 0 := by omega
  simp [htask] at hrun

end HermesRealtime.ObserverFailures

import HermesRealtime.TeardownStart

/-!
A session whose browser is being waited for is watched: its startup deadline is armed, or has
fired and its handler has not run. And while a session is active its browser handle is there
until its coordinator takes it.
-/

namespace HermesRealtime.StartupGuard

open Values Text Protocol Phases Timing Interruption Teardown Controller Operations SessionRuns
  Lifecycle Bookkeeping CriticalSections Changes TeardownStart Runs

variable {w w' : World} {k : Smooth} {c c' : VoiceSessionController} {ref : ℕ}

/-! ### The deadline -/

/-- The startup deadline of the session is armed. -/
def Armed (s : WakeSession) : Prop := ∃ d, s.startupDeadline = some d ∧ d.armed = true

/-- The deadline of a session that is waited for is armed, or has fired. -/
def Guarded (w : World) : Prop :=
  ∀ ref, Starting w.controller ref →
    Armed (w.controller.heap ref) ∨ ∃ n, w.waiters n = some (.expiring ref)

/-- Whoever is waited for now was waited for with the same deadline, or has an armed one. -/
def KeepsDeadlines (c c' : VoiceSessionController) : Prop :=
  ∀ ref, Starting c' ref →
    Starting c ref ∧ (c'.heap ref).startupDeadline = (c.heap ref).startupDeadline ∨
      Armed (c'.heap ref)

lemma KeepsDeadlines.trans {c₁ c₂ c₃ : VoiceSessionController} (h : KeepsDeadlines c₁ c₂)
    (h' : KeepsDeadlines c₂ c₃) : KeepsDeadlines c₁ c₃ := by
  intro ref hstarting
  rcases h' ref hstarting with ⟨hstarting₂, hsame⟩ | harmed
  · rcases h ref hstarting₂ with ⟨hstarting₁, hsame₁⟩ | harmed
    · exact .inl ⟨hstarting₁, hsame.trans hsame₁⟩
    · refine .inr ?_
      rwa [Armed, hsame]
  · exact .inr harmed

/-- A page is ready only while it is waited for. -/
lemma starting_of_connecting {s t : SessionState} (h : s.transition .connecting = .ok t) :
    s.phase = .launching ∨ s.phase = .connecting := by
  obtain ⟨hphase, -, rfl | ⟨hmem, -⟩⟩ := SessionState.transition_ok h
  · exact .inr hphase
  · cases hs : s.phase <;> rw [hs] at hmem <;> simp [SessionPhase.transitions] at hmem ⊢

lemma effect_deadlines (hk : k.opening) (h : Effect k c c') : KeepsDeadlines c c' := by
  rintro r ⟨hactive, hphase⟩
  have hrecord := h.activeRecord hactive
  generalize c'.heap r = s' at hphase hrecord ⊢
  cases hrecord with
  | same hold hs => exact .inl ⟨⟨hold, hs ▸ hphase⟩, by rw [hs]⟩
  | touched hold htouch =>
    cases htouch with
    | observed | handleTaken | acknowledged | moved => exact .inl ⟨⟨hold, hphase⟩, rfl⟩
  | moved hold hmove =>
    cases hmove with
    | connected state hstate => exact .inl ⟨⟨hold, starting_of_connecting hstate⟩, rfl⟩
    | wentLive state hstate => simp [(SessionState.transition_ok hstate).1] at hphase
    | raised state stopReason hstate => simp [(SessionState.transition_ok hstate).1] at hphase
    | begunAgain state trace request hstate =>
      simp [begunSession, (SessionState.transition_ok hstate).1] at hphase
  | opened _ _ _ _ _ _ hs => exact .inr ⟨_, by rw [hs, openedSession], rfl⟩
  | openRaised _ _ _ _ hraises => exact absurd hk hraises

lemma effects_deadlines (hk : k.opening) (h : Effects k c c') : KeepsDeadlines c c' := by
  induction h with
  | refl => exact fun ref h => .inl ⟨h, rfl⟩
  | tail _ heffect ih => exact ih.trans (effect_deadlines hk heffect)

/-- A handler that has not run stays, or is not needed any more. -/
lemma guarded_of_kept (hw : Guarded w) (hkept : KeepsDeadlines w.controller w'.controller)
    (hwaiters : ∀ n, WaiterStep w'.controller (w.waiters n) (w'.waiters n)) : Guarded w' := by
  intro ref hstarting
  rcases hkept ref hstarting with ⟨hstarting₀, hsame⟩ | harmed
  · rcases hw ref hstarting₀ with harmed | ⟨n, hn⟩
    · refine .inl ?_
      rwa [Armed, hsame]
    · refine .inr ⟨n, ?_⟩
      have hstep := hwaiters n
      rw [hn] at hstep
      generalize w'.waiters n = v at hstep
      cases hstep with
      | same => rfl
      | closing sessionId request hfree => simp at hfree
      | gone hexpiring => exact absurd hstarting (hexpiring ref rfl)
      | awaiting r shield answers hexpiring => exact absurd hstarting (hexpiring ref rfl)
  · exact .inl harmed

/-- **A session that is waited for stays watched**, when the observer lets sessions open. -/
theorem guarded_change (hw : Guarded w) (hg : Good w.controller) (hk : k.opening)
    (h : Change k w w') : Guarded w' := by
  cases h with
  | internal heffects _ hwaiters =>
      exact guarded_of_kept hw (effects_deadlines hk heffects) hwaiters
  | fired n r d href hd harmed hfree hcontroller hlog hwaiters =>
    rintro ref ⟨hactive, hphase⟩
    rw [hcontroller] at hactive hphase ⊢
    by_cases hr : ref = r
    · exact .inr ⟨n, by rw [hwaiters, hr, Function.update_self]⟩
    · have hheap : (setSession w.controller r { w.controller.heap r with
          startupDeadline := some d.expire }).heap ref = w.controller.heap ref :=
        Function.update_of_ne hr _ _
      rw [hheap] at hphase ⊢
      rcases hw ref ⟨hactive, hphase⟩ with harmed | ⟨m, hm⟩
      · exact .inl harmed
      · refine .inr ⟨m, ?_⟩
        rw [hwaiters, Function.update_of_ne, hm]
        rintro rfl
        simp [hfree] at hm
  | requested r request byDeadline c₁ hbegun heffects hstarting hlog hwaiters =>
    intro ref hwaited
    rcases effects_deadlines hk heffects ref hwaited with ⟨hwaited₁, -⟩ | harmed
    · -- the session whose teardown has begun is the active one
      have hstopped := (begun_facts hg hbegun).1
      obtain ⟨state, trace, hactive, hsame, -⟩ := hbegun
      have hsess := hwaited₁.1
      rw [hsame.active, hactive, Option.some_inj] at hsess
      exact absurd (hsess ▸ hwaited₁) hstopped
    · exact .inl harmed
  | pageStarted r hactive heffects hlive hlog hwaiters =>
    exact guarded_of_kept hw (effects_deadlines hk heffects) fun n => by rw [hwaiters]; exact .same
  | launched sessionId returned hidle heffect hcreated hid hlog hwaiters =>
    exact guarded_of_kept hw (effect_deadlines hk heffect) fun n => by rw [hwaiters]; exact .same
  | delivered n r shield answers run hn hrun hcontroller hlog hwaiters =>
    refine guarded_of_kept hw (fun ref h => ?_) fun m => ?_
    · rw [hcontroller] at h ⊢
      exact .inl ⟨h, rfl⟩
    · rw [hwaiters]
      exact waiters_update (gone_of_free (by simp [hn])) m
  | answered sessionId hlast hcontroller hlog hwaiters =>
    refine guarded_of_kept hw (fun ref h => ?_) fun m => by rw [hwaiters]; exact .same
    rw [hcontroller] at h ⊢
    exact .inl ⟨h, rfl⟩

/-! ### The browser handle -/

/-- The task has come to the hook that closes the browser, or to its finalization. -/
def Ran (run : TeardownRun) : Prop :=
  run.finalization ≠ .absent ∨
    match run.point with
    | .calling hook | .suspended hook => hook ≠ .markStopping ∧ hook ≠ .requestBrowserStop
    | _ => False

/-- The active session has a browser handle or a task that has taken it, and its task has not
been finalized. -/
def Handled (c : VoiceSessionController) : Prop :=
  ∀ ref, c.activeSession = some ref →
    ((c.heap ref).browserHandle ≠ none ∨ ∃ run, (c.heap ref).teardown.task = some run ∧ Ran run) ∧
      ∀ run, (c.heap ref).teardown.task = some run → run.finalization ≠ .finished

/-- A task that has ended without being finalized has not taken the handle. -/
lemma not_ran {run : TeardownRun} (h : run.Finished) (hfinal : run.finalization ≠ .finished) :
    ¬ Ran run := by
  obtain ⟨hpoint, hcreated⟩ := h
  rintro (h | h)
  · cases hf : run.finalization <;> simp_all
  · rcases hpoint with hpoint | hpoint <;> simp [hpoint] at h

lemma ran_of_move {active : Prop} {run run' : TeardownRun} (h : TaskMove active run run')
    (hran : Ran run) : Ran run' := by
  cases h with
  | entered hpoint => exact .inl (by simpa [Ran, hpoint] using hran)
  | suspended hook hpoint => simpa [Ran, hpoint] using hran
  | returned hook result hpoint =>
    have hran : run.finalization ≠ .absent ∨ hook ≠ .markStopping ∧ hook ≠ .requestBrowserStop := by
      rcases hpoint with hpoint | hpoint <;> simpa [Ran, hpoint] using hran
    cases hook with
    | markStopping => exact .inl (by simpa [TeardownRun.hookReturned] using hran)
    | requestBrowserStop =>
      refine .inl ?_
      simp only [TeardownRun.hookReturned]
      split_ifs <;> simpa using hran
    | closeBrowser | releaseProfileLock => exact .inr (by simp [TeardownRun.hookReturned])
    | persistTrace => exact .inl (by simp [TeardownRun.hookReturned])
  | acked inTime hpoint =>
    have hran : run.finalization ≠ .absent := by simpa [Ran, hpoint] using hran
    cases inTime <;> exact .inl hran
  | cancelled =>
    refine .inl ?_
    cases hpoint : run.point with
    | calling _ | suspended _ | awaitingAck => simp [TeardownRun.cancel, hpoint]
    | awaitingFinalize c =>
      have hfinal : run.finalization ≠ .absent := by simpa [Ran, hpoint] using hran
      cases c <;> simpa [TeardownRun.cancel, hpoint] using hfinal
    | _ => simpa [Ran, TeardownRun.cancel, hpoint] using hran
  | finalized result hcreated => exact .inl (by simp [TeardownRun.finalized])
  | finished hfinished =>
    refine .inl ?_
    unfold TeardownRun.finish
    split <;> simp [hfinished]

/-- Only a session that is not active is finalized. -/
lemma unfinished_of_move {active : Prop} {run run' : TeardownRun} (h : TaskMove active run run')
    (hactive : active) (hrun : run.finalization ≠ .finished) : run'.finalization ≠ .finished := by
  cases h with
  | entered | suspended => exact hrun
  | returned hook result hpoint =>
    cases hook with
    | requestBrowserStop =>
      simp only [TeardownRun.hookReturned]
      split_ifs <;> exact hrun
    | persistTrace => simp [TeardownRun.hookReturned]
    | _ => exact hrun
  | acked inTime hpoint => cases inTime <;> exact hrun
  | cancelled =>
    unfold TeardownRun.cancel
    split <;> simp [hrun]
  | finalized result hcreated hclosed => exact absurd hactive hclosed
  | finished hfinished => exact absurd hfinished hrun

/-- What `Handled` says of the record of the active session. -/
def Attended (s : WakeSession) : Prop :=
  (s.browserHandle ≠ none ∨ ∃ run, s.teardown.task = some run ∧ Ran run) ∧
    ∀ run, s.teardown.task = some run → run.finalization ≠ .finished

/-- A record with the same handle and task. -/
lemma Attended.same {s s' : WakeSession} (h : Attended s)
    (hhandle : s'.browserHandle = s.browserHandle) (htask : s'.teardown.task = s.teardown.task) :
    Attended s' := by
  rwa [Attended, hhandle, htask]

/-- Starting the coordinator leaves a task that there is, and makes one that has not run. -/
lemma Attended.started {s s' : WakeSession} {request : TeardownRequest} (h : Attended s)
    (hhandle : s'.browserHandle = s.browserHandle)
    (htask : s'.teardown.task = some (s.teardown.task.getD { request })) : Attended s' := by
  obtain ⟨htaken, hfinal⟩ := h
  rw [Attended, hhandle, htask]
  cases hold : s.teardown.task with
  | none =>
    refine ⟨.inl (htaken.resolve_right ?_), fun run hrun => ?_⟩
    · rintro ⟨run, hrun, -⟩
      simp [hold] at hrun
    · rw [Option.getD_none, Option.some_inj] at hrun
      simp [← hrun]
  | some run => exact ⟨hold ▸ htaken, fun _ h => hfinal _ (hold.trans h)⟩

lemma Attended.touched {active : Prop} {s s' : WakeSession} (h : Attended s) (hactive : active)
    (htouch : Touch active s s') : Attended s' := by
  cases htouch with
  | observed | acknowledged => exact h.same rfl rfl
  | handleTaken run hrun hpoint => exact ⟨.inr ⟨run, hrun, .inr (by simp [hpoint])⟩, h.2⟩
  | moved run run' hrun hmove =>
    obtain ⟨htaken, hfinal⟩ := h
    refine ⟨htaken.imp_right ?_, fun next hnext => ?_⟩
    · rintro ⟨old, hold, hran⟩
      obtain rfl : run = old := by simpa [hrun] using hold
      exact ⟨run', rfl, ran_of_move hmove hran⟩
    · obtain rfl : run' = next := by simpa using hnext
      exact unfinished_of_move hmove hactive (hfinal run hrun)

lemma Attended.moved {s s' : WakeSession} (h : Attended s) (hmove : Move k s s') :
    Attended s' := by
  cases hmove with
  | connected | wentLive | raised => exact h.same rfl rfl
  | begunAgain state trace request => exact h.started rfl (TeardownCoordinator.start_task _ _)

lemma Handled.update {s' : WakeSession} (hh : Handled c) (hsame : SameTables c c')
    (hheap : c'.heap = Function.update c.heap ref s')
    (hs : Attended (c.heap ref) → Attended s') : Handled c' := by
  intro r hactive
  obtain ⟨hold, ⟨rfl, hrecord⟩ | hrecord⟩ := active_of_update hsame hheap hactive
  · rw [hrecord]
    exact hs (hh ref hold)
  · rw [hrecord]
    exact hh r hold

theorem Handled.effect (hh : Handled c) (hk : k.opening) (h : Effect k c c') : Handled c' := by
  intro r hactive
  change Attended (c'.heap r)
  cases h.activeRecord hactive with
  | same hold hs => exact hs ▸ hh r hold
  | touched hold htouch => exact Attended.touched (hh r hold) hold htouch
  | moved hold hmove => exact Attended.moved (hh r hold) hmove
  | opened _ _ _ _ _ _ hs =>
    rw [hs]
    exact ⟨.inl (by simp [openedSession]), by simp [openedSession, newSession]⟩
  | openRaised _ _ _ _ hraises => exact absurd hk hraises

lemma Handled.effects (hh : Handled c) (hk : k.opening) (h : Effects k c c') : Handled c' :=
  h.invariant hh fun _ _ hh heffect => hh.effect hk heffect

lemma Handled.begun {request : TeardownRequest} (hh : Handled c) (h : Begun c ref request c') :
    Handled c' := by
  obtain ⟨state, trace, hactive, hsame, hstate, hheap⟩ := h
  exact hh.update hsame hheap fun h => h.started rfl (TeardownCoordinator.start_task _ _)

/-- **The handle of the active session is there until its task takes it**, when the observer lets
sessions open. -/
theorem handled_change (hh : Handled w.controller) (hk : k.opening) (h : Change k w w') :
    Handled w'.controller := by
  cases h with
  | internal heffects => exact hh.effects hk heffects
  | fired n ref d href hd harmed hfree hcontroller =>
    rw [hcontroller]
    exact hh.update (fired_record w.controller ref _).1 rfl fun h => h.same rfl rfl
  | requested ref request byDeadline c₁ hbegun heffects =>
      exact (hh.begun hbegun).effects hk heffects
  | pageStarted ref hactive heffects => exact hh.effects hk heffects
  | launched sessionId returned hidle heffect => exact hh.effect hk heffect
  | delivered n ref shield answers run hn hrun hcontroller => rwa [hcontroller]
  | answered sessionId hlast hcontroller => rwa [hcontroller]

end HermesRealtime.StartupGuard

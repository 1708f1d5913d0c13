import HermesRealtime.Settlement

/-!
One session at a time: with an observer that does not raise, in every state of every run there
is at most one active session, its history is legal, `STOPPING` is not left for a live phase,
the startup deadline does not touch a page that has started, and every session that was
activated is either the active one, with a pending future and a queue, or has a result.
-/

namespace HermesRealtime.OneSession

open Values Text Protocol Phases Timing Interruption Teardown Controller Operations SessionRuns
  Lifecycle Bookkeeping CriticalSections Changes Settlement Runs

variable {w w' : World} {k : Smooth}

/-- The observer does not raise. -/
def Quiet (_ : World) (x : Env × Action) : Prop := ∀ state, x.1.observerRaises state = false

instance (w : World) (x : Env × Action) : Decidable (Quiet w x) :=
  decidable_of_iff (∀ state ∈ [ControlState.idle, .launching, .connecting, .live, .stopping],
    x.1.observerRaises state = false) ⟨fun h state => h state (by cases state <;> simp),
      fun h state _ => h state⟩

lemma Quiet.calm {x : Env × Action} (h : Quiet w x) : Calm (smooth w x) :=
  ⟨fun _ _ _ _ _ _ => h .launching, fun _ _ _ _ _ => h .idle, fun _ _ _ => h .idle⟩

/-- What the log tells of the sessions. -/
structure Witnessed (w : World) : Prop where
  activated : ∀ sessionId, .activated sessionId ∈ w.log →
    ∃ ref < w.controller.created, (w.controller.heap ref).sessionId = sessionId
  pageStarted : ∀ ref, .pageStarted ref ∈ w.log → ref < w.controller.created ∧
    .live ∈ (w.controller.heap ref).state.history
  byDeadline : ∀ ref request, .requested ref request true ∈ w.log → ref < w.controller.created ∧
    Over (w.controller.heap ref) ∧ .live ∉ (w.controller.heap ref).state.history

/-- What the log has told stays true. -/
lemma Witnessed.keep {l : List Observation} (hw : Witnessed w) (hlog : w'.log = w.log ++ l)
    (hkept : Persists w.controller w'.controller)
    (hactivated : ∀ sessionId, .activated sessionId ∈ l →
      ∃ ref < w'.controller.created, (w'.controller.heap ref).sessionId = sessionId)
    (hstarted : ∀ ref, .pageStarted ref ∈ l → ref < w'.controller.created ∧
      .live ∈ (w'.controller.heap ref).state.history)
    (hdeadline : ∀ ref request, .requested ref request true ∈ l → ref < w'.controller.created ∧
      Over (w'.controller.heap ref) ∧ .live ∉ (w'.controller.heap ref).state.history) :
    Witnessed w' := by
  have hlt {ref : ℕ} (href : ref < w.controller.created) : ref < w'.controller.created :=
    lt_of_lt_of_le href hkept.created
  refine ⟨fun s hs => ?_, fun ref href => ?_, fun ref request href => ?_⟩
  · rw [hlog, List.mem_append] at hs
    rcases hs with hs | hs
    · obtain ⟨ref, href, hid⟩ := hw.activated s hs
      exact ⟨ref, hlt href, (hkept.id ref href).trans hid⟩
    · exact hactivated s hs
  · rw [hlog, List.mem_append] at href
    rcases href with href | href
    · obtain ⟨href, hlive⟩ := hw.pageStarted ref href
      exact ⟨hlt href, (hkept.history ref href).subset hlive⟩
    · exact hstarted ref href
  · rw [hlog, List.mem_append] at href
    rcases href with href | href
    · obtain ⟨href, hover, hlive⟩ := hw.byDeadline ref request href
      refine ⟨hlt href, hkept.ended ref href hover, fun h => hlive ?_⟩
      exact SessionState.live_before (hkept.history ref href) hover h
    · exact hdeadline ref request href

/-- A session that the deadline can still stop has not been live. -/
lemma not_live_of_starting {c : VoiceSessionController} {ref : ℕ} (h : Starting c ref) :
    .live ∉ (c.heap ref).state.history := by
  intro hlive
  rcases SessionState.late_of_live hlive with hlate | hlate | hlate | hlate <;>
    rcases h.2 with h | h <;> rw [h] at hlate <;> simp at hlate

lemma witnessed_change (hw : Witnessed w) (hg : Good w.controller) (h : Change k w w') :
    Witnessed w' := by
  have hkept := (change_keeps h hg).2
  cases h with
  | internal _ hlog =>
    exact hw.keep (l := []) (by simpa using hlog) hkept (by simp) (by simp) (by simp)
  | fired _ _ _ _ _ _ _ _ hlog =>
    exact hw.keep (l := []) (by simpa using hlog) hkept (by simp) (by simp) (by simp)
  | requested ref request byDeadline c₁ hbegun heffects hstarting hlog =>
    refine hw.keep hlog hkept (by simp) (by simp) fun r q hr => ?_
    obtain ⟨rfl, rfl, rfl⟩ : r = ref ∧ q = request ∧ true = byDeadline := by simpa using hr
    have hg₁ := hg.begun hbegun
    have hkept₁ := hg₁.persists_effects heffects
    have hstart := hstarting rfl
    obtain ⟨-, href, -⟩ := begun_facts hg hbegun
    obtain ⟨state, trace, hactive, hsame, hstate, hheap⟩ := hbegun
    obtain ⟨hphase, -, hhistory⟩ := SessionState.transition_ok hstate
    have hover : Over (c₁.heap r) := by
      rw [hheap, Function.update_self]
      exact .inl hphase
    -- the history has grown by `STOPPING` only
    have hnot : .live ∉ (c₁.heap r).state.history := by
      rw [hheap, Function.update_self]
      rcases hhistory with rfl | ⟨-, hhistory⟩
      · exact not_live_of_starting hstart
      · change .live ∉ state.history
        rw [hhistory, List.mem_append, not_or]
        exact ⟨not_live_of_starting hstart, by simp⟩
    refine ⟨lt_of_lt_of_le href hkept₁.created, hkept₁.ended r href hover, fun hlive => hnot ?_⟩
    exact SessionState.live_before (hkept₁.history r href) hover hlive
  | pageStarted ref hactive heffects hlive hlog =>
    refine hw.keep hlog hkept (by simp) (fun r hr => ?_) (by simp)
    obtain rfl : r = ref := by simpa using hr
    exact ⟨lt_of_lt_of_le (hg.active r hactive).1 hkept.created, hlive⟩
  | launched sessionId returned hidle heffect hcreated hid hlog =>
    refine hw.keep hlog hkept (fun s hs => ?_) (fun r hr => ?_) fun r q hr => ?_
    · cases returned with
      | false => simp at hs
      | true =>
        obtain rfl : s = sessionId := by simpa using hs
        exact ⟨_, by rw [hcreated]; omega, hid⟩
    · cases returned <;> simp at hr
    · cases returned <;> simp at hr
  | delivered n ref shield answers run _ _ _ hlog =>
    refine hw.keep hlog hkept (fun s hs => ?_) (fun r hr => ?_) fun r q hr => ?_
    · cases answers <;> simp [delivered] at hs
    · cases answers <;> simp [delivered] at hr
    · cases answers <;> simp [delivered] at hr
  | answered _ _ _ hlog => exact hw.keep hlog hkept (by simp) (by simp) (by simp)

/-- The run's invariant. -/
structure Orderly (w : World) : Prop where
  sound : Sound w
  settled : Settled w.controller
  witnessed : Witnessed w

lemma orderly_run {g : Config} {as : List (Env × Action)} (h : Run step Quiet (start g) as w) :
    Orderly w := by
  refine h.invariant ⟨sound_start g, settled_start g, ?_⟩ fun t x u ht hx hs => ?_
  · refine ⟨?_, ?_, ?_⟩ <;> simp [start]
  · have hchange := step_change ht.sound.good ht.sound.waits hs
    exact ⟨ht.sound.change hchange, settled_change ht.settled ht.sound.good hx.calm hchange,
      witnessed_change ht.witnessed ht.sound.good hchange⟩

/-! ### The theorem -/

/-- The future of the session is pending. -/
def Pending (c : VoiceSessionController) (sessionId : String) : Prop :=
  ∃ future, c.terminalFutures sessionId = some future ∧ c.futures future = none

/-- The session has a terminal result. -/
def Recorded (c : VoiceSessionController) (sessionId : String) : Prop :=
  (c.terminalResults sessionId).isSome = true

/-- The session is the active one. -/
def IsActive (c : VoiceSessionController) (sessionId : String) : Prop :=
  ∃ ref, c.activeSession = some ref ∧ (c.heap ref).sessionId = sessionId

lemma pending_iff (hg : Good w.controller) (hs : Settled w.controller) (sessionId : String) :
    Pending w.controller sessionId ↔ IsActive w.controller sessionId := by
  constructor
  · rintro ⟨future, hfuture, -⟩
    exact ⟨future, hs.promised _ _ hfuture, (hg.promised _ _ hfuture).2.1⟩
  · rintro ⟨ref, hactive, rfl⟩
    have hfuture := hs.pending ref hactive
    exact ⟨ref, hfuture, (hg.promised _ _ hfuture).2.2⟩

lemma recorded_iff (hg : Good w.controller) (hs : Settled w.controller) {ref : ℕ}
    (href : ref < w.controller.created) :
    Recorded w.controller (w.controller.heap ref).sessionId ↔
      w.controller.activeSession ≠ some ref := by
  constructor
  · intro h hactive
    obtain ⟨result, hresult⟩ := Option.isSome_iff_exists.mp h
    exact hg.result_ne hactive hresult rfl
  · intro h
    obtain ⟨result, hresult, -⟩ := hs.recorded ref href h
    rw [Recorded, hresult, Option.isSome_some]

/-- An active phase is the active session's. -/
lemma active_of_phase {c : VoiceSessionController} (hg : Good c) {ref : ℕ} (href : ref < c.created)
    (h : (c.heap ref).state.phase.Active) : c.activeSession = some ref := by
  by_contra hactive
  exact (hg.inactive ref href hactive).not_active h

/-- A session that has been live is not touched by its deadline. -/
lemma expire_of_live (env : Env) {ref : ℕ}
    (hlive : .live ∈ (w.controller.heap ref).state.history) :
    expireBrowserStartup env ref w.controller = (w.controller, .ok false) := by
  have hignored : w.controller.activeSession ≠ some ref ∨
      (w.controller.heap ref).state.phase ≠ .launching ∧
        (w.controller.heap ref).state.phase ≠ .connecting := by
    refine .inr ⟨fun h => ?_, fun h => ?_⟩ <;>
      rcases SessionState.late_of_live hlive with hlate | hlate | hlate | hlate <;>
        rw [h] at hlate <;> simp at hlate
  rw [expireBrowserStartup, Op.get_bind, if_pos hignored]
  rfl

/-- The launcher is called when every earlier session is over. -/
lemma launched_idle (hw : Orderly w) {x : Env × Action} (hs : step w x = some w') {ref : ℕ}
    (href : .launched ref ∈ w'.log.drop w.log.length) {r : ℕ} (hr : r < w.controller.created) :
    (w.controller.heap r).state.phase.Final := by
  have hnew {l : List Observation} (hlog : w'.log = w.log ++ l) : .launched ref ∈ l := by
    rwa [hlog, List.drop_left] at href
  cases step_change hw.sound.good hw.sound.waits hs with
  | internal _ hlog => simpa using hnew (l := []) (by simpa using hlog)
  | fired _ _ _ _ _ _ _ _ hlog => simpa using hnew (l := []) (by simpa using hlog)
  | requested _ _ _ _ _ _ _ hlog => simpa using hnew hlog
  | pageStarted _ _ _ _ hlog => simpa using hnew hlog
  | launched _ _ hidle => exact hw.sound.good.inactive r hr (by simp [hidle])
  | delivered _ _ _ answers _ _ _ _ hlog =>
    cases answers <;> simpa [delivered] using hnew hlog
  | answered _ _ _ hlog => simpa using hnew hlog

/-- **One session at a time.** With an observer that does not raise: at most one session is in
an active phase, and the launcher is called only when none is; the active session is in a phase
of the slot and its history is legal; `STOPPING` is not left for `CONNECTING` or `LIVE`; the
startup deadline does not tear down a session whose page has started; and every id that
`activate` has returned is pending or recorded, pending for the active session only, which is
also the only one with an outbound queue. -/
theorem one_session {g : Config} {as : List (Env × Action)} (h : Run step Quiet (start g) as w) :
    (∀ a < w.controller.created, ∀ b < w.controller.created,
      (w.controller.heap a).state.phase.Active → (w.controller.heap b).state.phase.Active →
        a = b) ∧
    (∀ x w', Quiet w x → step w x = some w' → ∀ ref, .launched ref ∈ w'.log.drop w.log.length →
      ∀ r < w.controller.created, (w.controller.heap r).state.phase.Final) ∧
    (∀ ref, w.controller.activeSession = some ref →
      (w.controller.heap ref).state.phase.Active ∧
        postInit (w.controller.heap ref).state.phase (w.controller.heap ref).state.history =
          .ok ()) ∧
    (∀ bs w', Run step Quiet w bs w' → ∀ ref < w.controller.created,
      (w.controller.heap ref).state.phase = .stopping →
        (w'.controller.heap ref).state.phase ≠ .connecting ∧
          (w'.controller.heap ref).state.phase ≠ .live) ∧
    (∀ ref, .pageStarted ref ∈ w.log → (∀ request, .requested ref request true ∉ w.log) ∧
      ∀ env, expireBrowserStartup env ref w.controller = (w.controller, .ok false)) ∧
    (∀ sessionId, .activated sessionId ∈ w.log →
      Xor (Pending w.controller sessionId) (Recorded w.controller sessionId) ∧
        (Pending w.controller sessionId ↔ IsActive w.controller sessionId)) ∧
    (∀ sessionId, (w.controller.outboundMessages sessionId).isSome = true ↔
      IsActive w.controller sessionId) := by
  have hw := orderly_run h
  have hg := hw.sound.good
  have hs := hw.settled
  refine ⟨fun a ha b hb hpa hpb => ?_,
    fun x w' _ hstep ref href r hr => launched_idle hw hstep href hr,
    fun ref hactive => ⟨(hg.active ref hactive).2.1, (w.controller.heap ref).state.legal⟩,
    fun bs w' hrun ref href hstopping => ?_,
    fun ref href => ⟨fun request hrequest => ?_, fun env => ?_⟩,
    fun sessionId hsession => ⟨?_, pending_iff hg hs sessionId⟩, hs.outbound⟩
  · have hactive := active_of_phase hg ha hpa
    rw [active_of_phase hg hb hpb] at hactive
    exact (Option.some_inj.mp hactive).symm
  · rcases (hw.sound.run hrun).2.ended ref href (.inl hstopping) with hover | hover | hover <;>
      simp [hover]
  · exact (hw.witnessed.byDeadline ref request hrequest).2.2 (hw.witnessed.pageStarted ref href).2
  · exact expire_of_live env (hw.witnessed.pageStarted ref href).2
  · obtain ⟨ref, href, rfl⟩ := hw.witnessed.activated sessionId hsession
    rw [pending_iff hg hs, recorded_iff hg hs href]
    have hown : IsActive w.controller (w.controller.heap ref).sessionId ↔
        w.controller.activeSession = some ref := by
      constructor
      · rintro ⟨r, hactive, hid⟩
        obtain rfl := hg.ids r (hg.active r hactive).1 ref href hid
        exact hactive
      · exact fun hactive => ⟨ref, hactive, rfl⟩
    rw [hown, Ne, xor_not_right]

/-- A page that is ready, starts, and outlives its deadline. -/
def startedPage : List (Env × Action) :=
  [(stillEnv, .activate "voice-one-01" "token" 0 (some ⟨1⟩)),
   (stillEnv, .control 0 "voice-one-01" (.ok (.pageReady "voice-one-01"))),
   (stillEnv, .control 1 "voice-one-01" (.ok (.pageStarted "voice-one-01")))]

theorem one_session_started :
    ∃ w : World, IsActive w.controller "voice-one-01" ∧ Pending w.controller "voice-one-01" ∧
      ∀ env, expireBrowserStartup env 0 w.controller = (w.controller, .ok false) := by
  have hexec : (exec step (fun w x => decide (Quiet w x)) (start {}) startedPage).map
      (fun w => (w.controller.activeSession, (w.controller.heap 0).sessionId, w.log)) =
      some (some 0, "voice-one-01",
        [.launched 0, .activated "voice-one-01", .pageStarted 0]) := by
    decide +kernel
  obtain ⟨w, hw, hfacts⟩ := Option.map_eq_some_iff.mp hexec
  obtain ⟨hactive, hid, hlog⟩ := by simpa only [Prod.mk.injEq] using hfacts
  have hrun := run_of_exec (C := Quiet) (fun _ _ h => of_decide_eq_true h) _ _ hw
  obtain ⟨-, -, -, -, hstarted, hsettled, -⟩ := one_session hrun
  have hown : IsActive w.controller "voice-one-01" := ⟨0, hactive, hid⟩
  exact ⟨w, hown, (hsettled _ (by simp [hlog])).2.mpr hown, (hstarted 0 (by simp [hlog])).2⟩

end HermesRealtime.OneSession

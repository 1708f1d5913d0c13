import HermesRealtime.Bookkeeping

/-!
Each critical section of the controller as effects, for a controller whose bookkeeping is
intact.
-/

namespace HermesRealtime.CriticalSections

open Values Text Protocol Phases Timing Tokens Interruption Teardown TaskEvents Controller
  Operations SessionRuns Lifecycle Bookkeeping

variable {env : Env} {k : Smooth} {c : VoiceSessionController} {ref : ℕ}

/-! ### Activation -/

lemma new_launching (sessionId : String) :
    ∃ state, (SessionState.new sessionId).transitionTo .launching = .ok state ∧
      state.phase = .launching := by
  have hmem : SessionPhase.launching ∈ SessionPhase.idle.transitions := by decide
  refine ⟨⟨sessionId, .launching, [.idle, .launching], by decide⟩, ?_, rfl⟩
  simp [SessionState.transitionTo, SessionState.new, hmem]

/-- The controller with a session that has just been made. -/
def withNew (c : VoiceSessionController) (sessionId token : String) (now : ℚ)
    (state : SessionState) : VoiceSessionController :=
  { c with
    tokenStore := c.tokenStore.issue sessionId token now
    heap := Function.update c.heap c.created (newSession sessionId token state)
    created := c.created + 1
    activeSession := some c.created
    lastNotifiedStatus := some .launching }

/-- The controller when the launcher is called. -/
def atLaunch (c : VoiceSessionController) (sessionId token : String) (now : ℚ)
    (state : SessionState) : VoiceSessionController :=
  { withNew c sessionId token now state with
    terminalFutures := Function.update c.terminalFutures sessionId (some c.created)
    outboundMessages := Function.update c.outboundMessages sessionId (some c.created)
    queues := Function.update c.queues c.created .empty
    lastClosedSessionId := none
    lastClosedInterruptionTraces := [] }

/-- The ways `activate` goes until it calls the launcher. -/
lemma openSession_cases (env : Env) (c : VoiceSessionController) (sessionId token : String)
    (now : ℚ) :
    c.activeSession ≠ none ∧ openSession env sessionId token now c = (c, .ok none) ∨
    c.activeSession = none ∧ (∃ e, openSession env sessionId token now c =
      ({ c with tokenStore := c.tokenStore.issue sessionId token now }, .error e)) ∨
    c.activeSession = none ∧ ∃ state, state.phase = .launching ∧
      (env.observerRaises .launching = true ∧ openSession env sessionId token now c =
          (withNew c sessionId token now state, .error .osError) ∨
        openSession env sessionId token now c =
          (atLaunch c sessionId token now state, .ok (some c.created))) := by
  rcases hactive : c.activeSession with _ | active
  swap
  · exact .inl ⟨by simp, by simp [openSession, hactive]⟩
  obtain ⟨state, hstate, hphase⟩ := new_launching sessionId
  rcases hid : validateIdentifier sessionId 128 with e | _
  · exact .inr (.inl ⟨rfl, e, by simp [openSession, hactive, hid, Op.bind_apply]⟩)
  refine .inr (.inr ⟨rfl, state, hphase, ?_⟩)
  -- everything up to the call of the observer
  set made : VoiceSessionController := { c with
    tokenStore := c.tokenStore.issue sessionId token now
    heap := Function.update c.heap c.created (newSession sessionId token state)
    created := c.created + 1
    activeSession := some c.created } with hmade
  have hstatus : made.status = .launching := by
    have hown : made.activeSession = some c.created := by rw [hmade]
    rw [status_of_active hown, hmade]
    simp [newSession, hphase, statusOf]
  have hnotify := notifyStatus_apply env made
  rw [hstatus] at hnotify
  have hopen : openSession env sessionId token now c = (notifyStatus env >>= fun _ =>
      Op.modify (fun d => { d with
        terminalFutures := Function.update d.terminalFutures sessionId (some c.created)
        outboundMessages := Function.update d.outboundMessages sessionId (some c.created)
        queues := Function.update d.queues c.created .empty
        lastClosedSessionId := none
        lastClosedInterruptionTraces := [] }) >>= fun _ => pure (some c.created)) made := by
    simp [openSession, hactive, Op.bind_apply, hid, hstate, hmade]
  rw [hopen]
  split_ifs at hnotify with hraises
  · refine .inl ⟨hraises.2, ?_⟩
    rw [Op.bind_of_error hnotify]
    rfl
  · refine .inr ?_
    rw [Op.bind_of_ok hnotify]
    rfl

lemma transition_failed {s : SessionState} (h : s.phase = .launching) :
    ∃ state, s.transition .failed = .ok state ∧ state.phase = .failed := by
  have hmem : .failed ∈ s.phase.transitions := by rw [h]; decide
  obtain ⟨state, hstate⟩ := SessionState.transition_of_mem hmem
  exact ⟨state, hstate, (SessionState.transition_ok hstate).1⟩

/-- The controller when the observer is told of a failed launch. -/
def atFailure (c : VoiceSessionController) (sessionId token : String) (now : ℚ)
    (state failed : SessionState) : VoiceSessionController :=
  { atLaunch c sessionId token now state with
    heap := Function.update c.heap c.created (failedSession sessionId token failed)
    activeSession := none
    outboundMessages := Function.update c.outboundMessages sessionId none
    lastNotifiedStatus := some .idle }

/-- The controller after a failed launch. -/
def afterFailure (c : VoiceSessionController) (sessionId token : String) (now : ℚ)
    (state failed : SessionState) : VoiceSessionController :=
  { atFailure c sessionId token now state failed with
    terminalFutures := Function.update c.terminalFutures sessionId none
    terminalResults :=
      Function.update c.terminalResults sessionId (some (activationFailure sessionId))
    futures := Function.update c.futures c.created
      (some ((c.futures c.created).getD (activationFailure sessionId)))
    tokenStore := (c.tokenStore.issue sessionId token now).invalidate token }

def activationFailed (sessionId token : String) : ActivationResult :=
  { status := .failed, sessionId := some sessionId, token := some token,
    error := some "activation failed" }

/-- What `activate` does when the launcher raises. -/
lemma launchFailed_cases (env : Env) (c : VoiceSessionController) (sessionId token : String)
    (now : ℚ) {state : SessionState} (hphase : state.phase = .launching) :
    ∃ failed : SessionState, failed.phase = .failed ∧
      (env.observerRaises .idle = true ∧
          launchFailed env c.created sessionId token (atLaunch c sessionId token now state) =
            (atFailure c sessionId token now state failed, .error .osError) ∨
        launchFailed env c.created sessionId token (atLaunch c sessionId token now state) =
          (afterFailure c sessionId token now state failed,
            .ok (activationFailed sessionId token))) := by
  obtain ⟨failed, hfailed, hfailedPhase⟩ := transition_failed hphase
  refine ⟨failed, hfailedPhase, ?_⟩
  set made : VoiceSessionController :=
    { atFailure c sessionId token now state failed with lastNotifiedStatus := some .launching }
    with hmade
  have hnotify := notifyStatus_apply env made
  rw [status_of_none (c := made) rfl] at hnotify
  have hfail : launchFailed env c.created sessionId token (atLaunch c sessionId token now state) =
      (notifyStatus env >>= fun _ => Op.modify (fun d => { d with
        terminalFutures := Function.update d.terminalFutures sessionId none
        terminalResults :=
          Function.update d.terminalResults sessionId (some (activationFailure sessionId))
        futures := Function.update d.futures c.created
          (some ((d.futures c.created).getD (activationFailure sessionId)))
        tokenStore := d.tokenStore.invalidate token }) >>= fun _ =>
          pure (activationFailed sessionId token)) made := by
    simp [launchFailed, Op.bind_apply, transition_apply, atLaunch, withNew, setSession,
      newSession, hfailed, hmade, atFailure, failedSession, activationFailure, activationFailed]
  rw [hfail]
  split_ifs at hnotify with hraises
  · refine .inl ⟨hraises.2, ?_⟩
    rw [Op.bind_of_error hnotify]
    rfl
  · refine .inr ?_
    rw [Op.bind_of_ok hnotify]
    simp [hmade, afterFailure, atFailure, atLaunch, withNew]

/-- What `activate` does: it launches nothing, or it launches the session it has made. -/
lemma activate_cases (env : Env) {sessionId : String} {launched : Option BrowserHandle}
    (token : String) (now : ℚ)
    (hfresh : Fresh c sessionId)
    (hopening : c.activeSession = none → k.opening → env.observerRaises .launching = false)
    (hfailing : launched = none → c.activeSession = none → k.failing →
      env.observerRaises .idle = false) :
    (∃ c' r, activate env sessionId token now launched c = (c', r) ∧ Effects k c c' ∧
      (∀ ref, (openSession env sessionId token now c).2 ≠ .ok (some ref)) ∧
      ∀ result, r = .ok result → result.sessionId = none) ∨
    ∃ c' r, activate env sessionId token now launched c = (c', r) ∧ c.activeSession = none ∧
      Effect k c c' ∧ (openSession env sessionId token now c).2 = .ok (some c.created) ∧
      c'.created = c.created + 1 ∧ (c'.heap c.created).sessionId = sessionId ∧
      ∀ result, r = .ok result → result.sessionId = some sessionId := by
  rcases openSession_cases env c sessionId token now with
    ⟨hbusy, hopen⟩ | ⟨hidle, e, hopen⟩ | ⟨hidle, state, hphase, ⟨hraises, hopen⟩ | hopen⟩
  · refine .inl ⟨c, .ok { status := .busy }, ?_, .refl, by simp [hopen], by simp⟩
    rw [activate, Op.bind_of_ok hopen]
    rfl
  · refine .inl ⟨_, _, Op.bind_of_error hopen, ?_, by simp [hopen], by simp⟩
    exact .single (.tables ⟨rfl, rfl, rfl, rfl, rfl, rfl, rfl⟩ rfl)
  · refine .inl ⟨_, _, Op.bind_of_error hopen, ?_, by simp [hopen], by simp⟩
    refine .single (.openRaised sessionId token state hphase (fun h => ?_)
      ⟨hidle, hfresh, rfl, rfl, rfl, rfl⟩ rfl rfl rfl rfl rfl)
    rw [hopening hidle h] at hraises
    simp at hraises
  · refine .inr ?_
    rcases launched with _ | handle
    · obtain ⟨failed, hfailed, ⟨hraises, hlaunch⟩ | hlaunch⟩ :=
        launchFailed_cases env c sessionId token now hphase
      · refine ⟨_, _, (Op.bind_of_ok hopen).trans hlaunch, hidle, ?_, by rw [hopen],
          rfl, by simp [atFailure, failedSession, newSession], by simp⟩
        refine .launchFailedRaised sessionId token failed hfailed (fun h => ?_)
          ⟨hidle, hfresh, rfl, rfl, rfl, rfl⟩ rfl rfl rfl rfl rfl
        rw [hfailing rfl hidle h] at hraises
        simp at hraises
      · refine ⟨_, _, (Op.bind_of_ok hopen).trans hlaunch, hidle, ?_, by rw [hopen],
          rfl, by simp [afterFailure, atFailure, failedSession, newSession],
          by simp [activationFailed]⟩
        refine .launchFailed sessionId token failed hfailed ⟨hidle, hfresh, rfl, rfl, rfl, rfl⟩
          rfl rfl rfl rfl rfl ?_
        simp [afterFailure, atFailure]
    · set opened := setSession (atLaunch c sessionId token now state) c.created
        (openedSession sessionId token state c.browserStartTimeoutSeconds handle) with hopened
      have hlaunch : launchSucceeded c.created sessionId token handle
          (atLaunch c sessionId token now state) = (opened, .ok
            { status := .opened, sessionId := some sessionId, token := some token }) := by
        simp [launchSucceeded, Op.bind_apply, atLaunch, withNew, hopened, openedSession]
      have hheap : opened.heap = Function.update c.heap c.created
          (openedSession sessionId token state c.browserStartTimeoutSeconds handle) := by
        simp [hopened, setSession, atLaunch, withNew]
      refine ⟨_, _, (Op.bind_of_ok hopen).trans hlaunch, hidle, ?_, by rw [hopen],
        rfl, by rw [hheap, Function.update_self]; rfl, by simp⟩
      refine .opened sessionId token state c.browserStartTimeoutSeconds handle hphase
        ⟨hidle, hfresh, rfl, hheap, rfl, rfl⟩ rfl rfl rfl rfl rfl rfl

/-! ### Beginning a teardown -/

/-- `_begin_teardown_locked` for the active session: it begins the teardown, or an exception
leaves the session in `STOPPING`. -/
lemma begin_cases (env : Env) (k : Smooth) (hg : Good c) (hactive : c.activeSession = some ref)
    (request : TeardownRequest) :
    (∃ c', beginTeardownLocked env (c.heap ref).sessionId request c = (c', .ok ref) ∧
      Begun c ref request c' ∧ Lets env c (c.heap ref)) ∨
    ∃ c' e, beginTeardownLocked env (c.heap ref).sessionId request c = (c', .error e) ∧
      ¬ Lets env c (c.heap ref) ∧ (¬ k.beginning → Effect k c c') ∧ ¬ Starting c' ref := by
  have houtcome := beginTeardownLocked_outcome env hactive (hg.active ref hactive).2.1 request
  -- a controller whose session is in `STOPPING`
  have hstopped {c' : VoiceSessionController} {state : SessionState} {s' : WakeSession}
      (hstate : (c.heap ref).state.transition .stopping = .ok state) (hs : s'.state = state)
      (hheap : c'.heap = Function.update c.heap ref s') : ¬ Starting c' ref := by
    rintro ⟨-, h⟩
    rw [hheap, Function.update_self, hs, (SessionState.transition_ok hstate).1] at h
    simp at h
  generalize beginTeardownLocked env (c.heap ref).sessionId request c = outcome at houtcome ⊢
  cases houtcome with
  | observerRaised state hstate hobserver =>
    refine .inr ⟨_, _, rfl, fun h => hobserver h.1, fun hlets => ?_, hstopped hstate rfl rfl⟩
    exact .moved ref _ hactive ⟨rfl, rfl, rfl, rfl, rfl, rfl, rfl⟩ rfl
      (.raised state (c.heap ref).stopReason hstate hlets)
  | traceRaised state told error hstate hobserver htrace =>
    refine .inr ⟨_, _, rfl, fun h => htrace h.2, fun hlets => ?_, hstopped hstate rfl rfl⟩
    exact .moved ref _ hactive ⟨rfl, rfl, rfl, rfl, rfl, rfl, rfl⟩ rfl
      (.raised state _ hstate hlets)
  | begun state told trace hstate hobserver htrace =>
    exact .inl ⟨_, rfl, .intro _ state trace hactive
      ⟨rfl, rfl, rfl, rfl, rfl, rfl, rfl⟩ hstate rfl, hobserver, htrace⟩

/-- A session whose teardown has begun is not waited for, and has a task. -/
lemma begun_facts {c' : VoiceSessionController} {request : TeardownRequest} (hg : Good c)
    (h : Begun c ref request c') : ¬ Starting c' ref ∧ ref < c'.created ∧
      (c'.heap ref).teardown.task = some ((c.heap ref).teardown.task.getD { request }) ∧
      (c'.heap ref).sessionId = (c.heap ref).sessionId := by
  obtain ⟨state, trace, hactive, hsame, hstate, hheap⟩ := h
  rw [hheap, Function.update_self]
  refine ⟨?_, hsame.created ▸ (hg.active ref hactive).1, ?_, rfl⟩
  · rintro ⟨-, h⟩
    rw [hheap, Function.update_self] at h
    simp [begunSession, (SessionState.transition_ok hstate).1] at h
  · exact TeardownCoordinator.start_task _ _

/-- `request_teardown` up to the wait. -/
lemma request_cases (env : Env) (hg : Good c) {sessionId : String} (request : TeardownRequest)
    (hlets : k.beginning → ∀ ref, c.activeSession = some ref →
      (c.heap ref).sessionId = sessionId → Lets env c (c.heap ref)) :
    (∃ ref c', requestTeardown env sessionId request c = (c', .ok ref) ∧
      Begun c ref request c') ∨
    ∃ c' e, requestTeardown env sessionId request c = (c', .error e) ∧ Effects k c c' := by
  rcases requireActiveSession_cases c sessionId with ⟨ref, hactive, rfl⟩ | hstale
  · have hrequest : requestTeardown env (c.heap ref).sessionId request c =
        beginTeardownLocked env (c.heap ref).sessionId request c := by
      rw [requestTeardown, Op.bind_of_ok (requireActiveSession_of_active hactive), Op.get_bind]
    rw [hrequest]
    rcases begin_cases env k hg hactive request with
      ⟨c', hbegin, hbegun, -⟩ | ⟨c', e, hbegin, hno, h, -⟩
    · exact .inl ⟨ref, c', hbegin, hbegun⟩
    · exact .inr ⟨c', e, hbegin, .single (h fun hk => hno (hlets hk ref hactive rfl))⟩
  · exact .inr ⟨c, _, Op.bind_of_error hstale, .refl⟩

/-- `_expire_browser_startup` up to the wait. -/
lemma expire_cases (env : Env) (hg : Good c) (ref : ℕ)
    (hlets : k.beginning → Starting c ref → Lets env c (c.heap ref)) :
    (∃ c', expireBrowserStartup env ref c = (c', .ok true) ∧ Starting c ref ∧
      Begun c ref startupTimedOut c') ∨
    ∃ c' r, expireBrowserStartup env ref c = (c', r) ∧ r ≠ .ok true ∧ Effects k c c' ∧
      ¬ Starting c' ref := by
  by_cases hstarting : Starting c ref
  · obtain ⟨hactive, hphase⟩ := hstarting
    have hexpire : expireBrowserStartup env ref c =
        (beginTeardownLocked env (c.heap ref).sessionId startupTimedOut >>= fun _ => pure true)
            c := by
      rw [expireBrowserStartup, Op.get_bind, if_neg]
      rcases hphase with h | h <;> simp [hactive, h]
    rw [hexpire]
    rcases begin_cases env k hg hactive startupTimedOut with
      ⟨c', hbegin, hbegun, -⟩ | ⟨c', e, hbegin, hno, h, hstopped⟩
    · exact .inl ⟨c', by rw [Op.bind_of_ok hbegin]; rfl, ⟨hactive, hphase⟩, hbegun⟩
    · refine .inr ⟨c', _, Op.bind_of_error hbegin, by simp, ?_, hstopped⟩
      exact .single (h fun hk => hno (hlets hk ⟨hactive, hphase⟩))
  · refine .inr ⟨c, .ok false, ?_, by simp, .refl, hstarting⟩
    have hignored : c.activeSession ≠ some ref ∨
        (c.heap ref).state.phase ≠ .launching ∧ (c.heap ref).state.phase ≠ .connecting := by
      by_contra h
      rw [not_or, not_not, not_and_or, not_not, not_not] at h
      exact hstarting h
    rw [expireBrowserStartup, Op.get_bind, if_pos hignored]
    rfl

/-! ### Control messages -/

/-- The coordinators are the same. -/
def SameTeardowns (c c' : VoiceSessionController) : Prop :=
  c'.created = c.created ∧ ∀ r, (c'.heap r).teardown = (c.heap r).teardown

lemma SameTeardowns.trans {c₁ c₂ c₃ : VoiceSessionController} (h : SameTeardowns c₁ c₂)
    (h' : SameTeardowns c₂ c₃) : SameTeardowns c₁ c₃ :=
  ⟨h'.1.trans h.1, fun r => (h'.2 r).trans (h.2 r)⟩

lemma SameTeardowns.update {c' : VoiceSessionController} {s' : WakeSession}
    (hcreated : c'.created = c.created) (hheap : c'.heap = Function.update c.heap ref s')
    (hs : s'.teardown = (c.heap ref).teardown) : SameTeardowns c c' := by
  refine ⟨hcreated, fun r => ?_⟩
  rw [hheap]
  by_cases hr : r = ref
  · subst hr
    rw [Function.update_self, hs]
  · rw [Function.update_of_ne hr]

/-- Recording an event is one effect, or raises and does nothing. -/
lemma record_cases (env : Env) (k : Smooth) (href : ref < c.created) (name : String)
    (source : TimingEventSource) (data : JsonDict) (ns : Option ℤ) :
    (∃ c', recordTrace env ref name source data ns c = (c', .ok ()) ∧ Effect k c c' ∧
      SameTeardowns c c') ∨ ∃ e, recordTrace env ref name source data ns c = (c, .error e) := by
  rw [recordTrace_apply]
  rcases (c.heap ref).trace.record env.clock name source data ns with e | trace
  · exact .inr ⟨e, rfl⟩
  · exact .inl ⟨_, rfl, .touched ref _ href ⟨rfl, rfl, rfl, rfl, rfl, rfl, rfl⟩ rfl
      (.observed trace (c.heap ref).interruptions), .update rfl rfl rfl⟩

lemma notify_effect (env : Env) (k : Smooth) (c : VoiceSessionController) :
    Effect k c (notifyStatus env c).1 := by
  rw [notifyStatus_apply]
  exact .tables ⟨rfl, rfl, rfl, rfl, rfl, rfl, rfl⟩ rfl

/-- The ways a control message is handled. -/
inductive ControlOutcome (k : Smooth) (c : VoiceSessionController) (sessionId : String)
    (decoded : Except PyError LoopbackMessage) :
    VoiceSessionController × Except PyError ControlReply → Prop
  | handled (c') (heffects : Effects k c c') (hseen : observed c decoded = []) :
      ControlOutcome k c sessionId decoded (c', .ok .nothing)
  | raised (c' e) (heffects : Effects k c c') : ControlOutcome k c sessionId decoded (c', .error e)
  | pageStarted (c' ref) (heffects : Effects k c c') (hactive : c.activeSession = some ref)
      (hlive : .live ∈ (c'.heap ref).state.history)
      (hseen : observed c decoded = [.pageStarted ref]) :
      ControlOutcome k c sessionId decoded (c', .ok .nothing)
  | stopped (c' ref request) (hbegun : Begun c ref request c')
      (hseen : observed c decoded = [.requested ref request false]) :
      ControlOutcome k c sessionId decoded (c', .ok .nothing)
  | awaits (c' c₁ ref request) (hbegun : Begun c ref request c₁) (heffect : Effect k c₁ c')
      (href : ref < c'.created) (htask : (c'.heap ref).teardown.task ≠ none)
      (hid : (c'.heap ref).sessionId = sessionId) :
      ControlOutcome k c sessionId decoded (c', .ok (.awaits ref request))
  | closed (hlast : c.lastClosedSessionId = some sessionId) :
      ControlOutcome k c sessionId decoded (c, .ok (.closed
        (((c.terminalResults sessionId).map (·.outcome)).getD .completed)))

/-- A change of the active session's record, and the observer told. -/
lemma advance_effects (env : Env) (hactive : c.activeSession = some ref) {s' : WakeSession}
    (hmove : Move k (c.heap ref) s') :
    Effects k c (notifyStatus env (setSession c ref s')).1 := by
  have hmoved : Effect k c (setSession c ref s') :=
    .moved ref s' hactive ⟨rfl, rfl, rfl, rfl, rfl, rfl, rfl⟩ rfl hmove
  exact .tail (.single hmoved) (notify_effect env k _)

/-- A message of the active session. -/
lemma handleMessage_outcome (env : Env) (hg : Good c) (hactive : c.activeSession = some ref)
    (message : LoopbackMessage)
    (hlets : k.beginning → (∃ s reason, message = .stop s reason) ∨
      (∃ s, message = .teardownComplete s) → Lets env c (c.heap ref))
    (hspoken : (∃ s, message = .pageStarted s) → (c.heap ref).state.phase ≠ .live → ¬ k.silent) :
    ControlOutcome k c (c.heap ref).sessionId (.ok message) (handleMessage env ref message c) := by
  obtain ⟨href, -, -⟩ := hg.active ref hactive
  cases message with
  | pageReady _ =>
    rcases htransition : (c.heap ref).state.transition .connecting with e | state
    · have hraise : transition ref .connecting c = (c, .error e) := by
        rw [transition_apply, htransition]
      rw [handleMessage, Op.bind_of_error hraise]
      exact .raised _ _ .refl
    · have hmove : transition ref .connecting c =
          (setSession c ref { c.heap ref with state }, .ok ()) := by
        rw [transition_apply, htransition]
      have heffects := advance_effects env hactive (.connected (k := k) state htransition)
      rw [handleMessage, Op.bind_of_ok hmove, Op.bind_apply]
      rcases hnotify : notifyStatus env (setSession c ref { c.heap ref with state })
        with ⟨c', e | _⟩ <;> rw [hnotify] at heffects
      · exact .raised _ _ heffects
      · exact .handled _ heffects (by simp [observed, hactive])
  | pageStarted s =>
    rcases htransition : (c.heap ref).state.transition .live with e | state
    · have hraise : transition ref .live c = (c, .error e) := by
        rw [transition_apply, htransition]
      rw [handleMessage, Op.bind_of_error hraise]
      exact .raised _ _ .refl
    · have hmove : transition ref .live c =
          (setSession c ref { c.heap ref with state }, .ok ()) := by
        rw [transition_apply, htransition]
      have heffects := advance_effects env hactive
        (.wentLive (k := k) state htransition (hspoken ⟨s, rfl⟩))
      set live := setSession c ref { c.heap ref with state, startupDeadline := none } with hlive
      have hcleared : modifySession ref (fun s => { s with startupDeadline := none })
          (setSession c ref { c.heap ref with state }) = (live, .ok ()) := by
        rw [modifySession_apply, setSession_heap, setSession_setSession]
      have hheap : (notifyStatus env live).1.heap ref =
          { c.heap ref with state, startupDeadline := none } := by
        rw [notifyStatus_apply, hlive]
        exact setSession_heap c ref _
      rw [handleMessage, Op.bind_of_ok hmove, Op.bind_of_ok hcleared, Op.bind_apply]
      rcases hnotify : notifyStatus env live with ⟨c', e | _⟩ <;> rw [hnotify] at heffects hheap
      · exact .raised _ _ heffects
      · refine .pageStarted _ ref heffects hactive ?_ (by simp [observed, hactive])
        rw [hheap, ← (SessionState.transition_ok htransition).1]
        exact state.phase_mem_history
  | timing message =>
    simp only [handleMessage]
    rcases message.monotonicMs.mulTrunc 1000000 with _ | ns
    · exact .raised _ _ .refl
    · rcases record_cases env k href message.name.value .browser
        (sanitizeTimingData env.platform message.data) (some (ns : ℤ)) with
        ⟨c', hrecord, heffect, -⟩ | ⟨e, hrecord⟩
      · simp only [Op.bind_of_ok hrecord]
        exact .handled _ (.single heffect) (by simp [observed, hactive])
      · simp only [Op.bind_of_error hrecord]
        exact .raised _ _ .refl
  | stop s reason =>
    rw [handleMessage, Op.get_bind]
    rcases begin_cases env k hg hactive { outcome := outcomeForStopReason reason, reason } with
      ⟨c', hbegin, hbegun, -⟩ | ⟨c', e, hbegin, hno, h, -⟩
    · rw [Op.bind_of_ok hbegin]
      exact .stopped _ ref _ hbegun (by simp [observed, hactive])
    · rw [Op.bind_of_error hbegin]
      exact .raised _ _ (.single (h fun hk => hno (hlets hk (.inl ⟨s, reason, rfl⟩))))
  | teardownComplete s =>
    rw [handleMessage, Op.get_bind]
    set reason := (c.heap ref).stopReason.getD .button
    rcases begin_cases env k hg hactive { outcome := outcomeForStopReason reason, reason } with
      ⟨c', hbegin, hbegun, -⟩ | ⟨c', e, hbegin, hno, h, -⟩
    · rw [Op.bind_of_ok hbegin]
      obtain ⟨-, href', htask, hid⟩ := begun_facts hg hbegun
      have hack : Effect k c' (setSession c' ref { c'.heap ref with
          teardown := (c'.heap ref).teardown.acknowledgeBrowserTeardown }) :=
        .touched ref _ href' ⟨rfl, rfl, rfl, rfl, rfl, rfl, rfl⟩ rfl .acknowledged
      refine .awaits _ c' ref _ hbegun hack href' ?_ ?_
      · rw [setSession_heap]
        simp [TeardownCoordinator.acknowledgeBrowserTeardown, htask]
      · rw [setSession_heap]
        exact hid
    · rw [Op.bind_of_error hbegin]
      exact .raised _ _ (.single (h fun hk => hno (hlets hk (.inr ⟨s, rfl⟩))))
  | activation _ _ _ => exact .raised _ _ .refl
  | sessionClosed _ _ => exact .raised _ _ .refl
  | taskEvent _ => exact .raised _ _ .refl

/-- A message when no session is active. -/
lemma answerClosed_outcome (c : VoiceSessionController) (sessionId : String)
    (message : LoopbackMessage) (decoded : Except PyError LoopbackMessage) :
    ControlOutcome k c sessionId decoded (answerClosed sessionId message c) := by
  cases message with
  | teardownComplete _ =>
    simp only [answerClosed, Op.get_bind, Op.ite_apply]
    split_ifs with hlast
    · exact .closed hlast
    · exact .raised _ _ .refl
  | _ => exact .raised _ _ .refl

/-- `process_control_message` up to the wait. -/
lemma control_outcome (env : Env) (hg : Good c) (sessionId : String)
    (decoded : Except PyError LoopbackMessage)
    (hlets : k.beginning → (∃ reason, decoded = .ok (.stop sessionId reason)) ∨
      decoded = .ok (.teardownComplete sessionId) → ∀ ref, c.activeSession = some ref →
      (c.heap ref).sessionId = sessionId → Lets env c (c.heap ref))
    (hspoken : decoded = .ok (.pageStarted sessionId) → ∀ ref, c.activeSession = some ref →
      (c.heap ref).sessionId = sessionId → (c.heap ref).state.phase ≠ .live → ¬ k.silent) :
    ControlOutcome k c sessionId decoded (processControlMessage env sessionId decoded c) := by
  rcases hparse : parseLoopbackMessage decoded sessionId with e | message
  · rw [processControlMessage, Op.bind_apply, Op.ofExcept_apply, hparse]
    exact .raised _ _ .refl
  obtain ⟨rfl, haddressed⟩ := parsed_message hparse
  rw [processControlMessage, Op.bind_apply, Op.ofExcept_apply, hparse]
  rcases hactive : c.activeSession with _ | ref
  · cases message with
    | taskEvent _ => exact .raised _ _ .refl
    | _ =>
      dsimp only
      rw [Op.get_bind, hactive]
      exact answerClosed_outcome c sessionId _ _
  by_cases hid : (c.heap ref).sessionId = sessionId
  · subst hid
    have hhandled := handleMessage_outcome env hg hactive message
      (fun hk hrequests => hlets hk (by
        rcases hrequests with ⟨s, reason, rfl⟩ | ⟨s, rfl⟩
        · exact .inl ⟨reason, by rw [haddressed s rfl]⟩
        · exact .inr (by rw [haddressed s rfl])) ref hactive rfl)
      (by
        rintro ⟨s, rfl⟩
        exact hspoken (by rw [haddressed s rfl]) ref hactive rfl)
    cases message with
    | taskEvent _ => exact .raised _ _ .refl
    | _ =>
      dsimp only
      rw [Op.get_bind, hactive]
      simpa using hhandled
  · cases message with
    | taskEvent _ => exact .raised _ _ .refl
    | _ =>
      dsimp only
      rw [Op.get_bind, hactive]
      simp only [hid, ne_eq, not_false_eq_true, if_true]
      exact .raised _ _ .refl

/-! ### The coordinator -/

/-- `_begin_teardown_locked` when the teardown is under way. -/
lemma beginAgain_effects (env : Env) (hg : Good c) (href : ref < c.created)
    (htask : (c.heap ref).teardown.task ≠ none) (request : TeardownRequest) :
    Effects k c (beginTeardownLocked env (c.heap ref).sessionId request c).1 ∧
      SameTeardowns c (beginTeardownLocked env (c.heap ref).sessionId request c).1 := by
  rcases requireActiveSession_cases c (c.heap ref).sessionId with ⟨active, hactive, hid⟩ | hstale
  · obtain rfl := hg.ids active (hg.active active hactive).1 ref href hid
    -- the phase and the mark are those of a session whose teardown has begun
    have hmarked := (hg.started active href htask).2
    have hstopping := hg.stopping hactive htask
    rcases begin_cases env k hg hactive request with ⟨c', hbegin, hbegun, -⟩ | ⟨c', e, -, hno, -⟩
    · rw [hbegin]
      obtain ⟨state, trace, -, hsame, hstate, hheap⟩ := hbegun
      refine ⟨.single (.moved active _ hactive hsame hheap
        (.begunAgain state trace request hstate htask)), .update hsame.created hheap ?_⟩
      obtain ⟨run, hrun⟩ := Option.ne_none_iff_exists'.mp htask
      simp [begunSession, TeardownCoordinator.start, hrun]
    · exact absurd ⟨.inl hstopping, .inl hmarked⟩ hno
  · rw [beginTeardownLocked, Op.bind_of_error hstale]
    exact ⟨.refl, rfl, fun _ => rfl⟩

lemma recordFailures_effects (env : Env) (failures : List TeardownStepFailure)
    (href : ref < c.created) : Effects k c (recordFailures env ref failures c).1 ∧
      SameTeardowns c (recordFailures env ref failures c).1 := by
  induction failures generalizing c with
  | nil =>
    rw [recordFailures]
    rcases record_cases env k href "teardown_complete" .controller [] none with
      ⟨c', hrecord, heffect, hsame⟩ | ⟨e, hrecord⟩ <;> rw [hrecord]
    · exact ⟨.single heffect, hsame⟩
    · exact ⟨.refl, rfl, fun _ => rfl⟩
  | cons failure failures ih =>
    rw [recordFailures]
    rcases record_cases env k href "teardown_step_failed" .controller
      [("step", .str failure.step.value), ("kind", .str failure.kind.value)] none with
      ⟨c', hrecord, heffect, hsame⟩ | ⟨e, hrecord⟩
    · rw [Op.bind_of_ok hrecord]
      obtain ⟨heffects, hsame'⟩ := ih (c := c') (by rwa [hsame.1])
      exact ⟨.head heffect heffects, hsame.trans hsame'⟩
    · rw [Op.bind_of_error hrecord]
      exact ⟨.refl, rfl, fun _ => rfl⟩

/-- `request_browser_stop`. -/
lemma browserStop_effects (env : Env) (hg : Good c) (request : TeardownRequest) :
    Effects k c (requestBrowserStop env ref request c).1 ∧
      SameTeardowns c (requestBrowserStop env ref request c).1 := by
  rw [requestBrowserStop, Op.get_bind]
  rcases requireActiveSession_cases c (c.heap ref).sessionId with ⟨active, hactive, hid⟩ | hstale
  · have hrequire := requireActiveSession_of_active hactive
    rw [hid] at hrequire
    rw [Op.bind_of_ok hrequire]
    rcases hqueue : c.outboundMessages (c.heap ref).sessionId with _ | queue
    · exact ⟨.refl, rfl, fun _ => rfl⟩
    · set stopped : VoiceSessionController := { c with
        queues := Function.update c.queues queue
          ((c.queues queue).putStop (.stop (c.heap ref).sessionId request.reason)) } with hstopped
      have hput : Effect k c stopped := .tables ⟨rfl, rfl, rfl, rfl, rfl, rfl, rfl⟩ rfl
      change Effects k c (recordTrace env active _ _ _ _ stopped).1 ∧
        SameTeardowns c (recordTrace env active _ _ _ _ stopped).1
      rcases record_cases env k (c := stopped) (hg.active active hactive).1
        "browser_stop_requested" .controller [("reason", .str request.reason.value)] none with
        ⟨c', hrecord, heffect, hsame⟩ | ⟨e, hrecord⟩ <;> rw [hrecord]
      · exact ⟨.tail (.single hput) heffect, hsame⟩
      · exact ⟨.single hput, rfl, fun _ => rfl⟩
  · rw [Op.bind_of_error hstale]
    exact ⟨.refl, rfl, fun _ => rfl⟩

/-- A hook of a session's coordinator up to its first await. -/
lemma hook_effects (env : Env) (hg : Good c) (href : ref < c.created) {run : TeardownRun}
    (hrun : (c.heap ref).teardown.task = some run) {hook : TeardownHook}
    (hpoint : run.point = .calling hook) : Effects k c (callHook env ref run hook c).1 ∧
      SameTeardowns c (callHook env ref run hook c).1 := by
  cases hook with
  | markStopping =>
    simp only [callHook, markStopping, Op.bind_pure_fst, Op.get_bind]
    exact beginAgain_effects env hg href (by simp [hrun]) run.request
  | requestBrowserStop =>
    simp only [callHook, Op.bind_pure_fst]
    exact browserStop_effects env hg run.request
  | closeBrowser =>
    exact ⟨.single (.touched ref _ href ⟨rfl, rfl, rfl, rfl, rfl, rfl, rfl⟩ rfl
      (.handleTaken run hrun hpoint)), .update rfl rfl rfl⟩
  | releaseProfileLock => exact ⟨.refl, rfl, fun _ => rfl⟩
  | persistTrace =>
    have h := recordFailures_effects (k := k) env run.failures href
    rw [callHook, persistTrace, Op.bind_apply]
    rcases hrecord : recordFailures env ref run.failures c with ⟨c', e | r⟩ <;>
      rw [hrecord] at h <;> exact h

lemma stopping_closes {s : SessionState} (h : s.phase = .stopping) {next : SessionPhase}
    (hnext : next.Final) : ∃ state, s.transition next = .ok state := by
  refine SessionState.transition_of_mem ?_
  rw [h]
  rcases hnext with rfl | rfl <;> decide

/-- The controller when the observer is told that the session is closed. -/
def atClose (c : VoiceSessionController) (ref : ℕ) (state : SessionState) :
    VoiceSessionController :=
  { setSession c ref { c.heap ref with state } with
    lastClosedInterruptionTraces := (c.heap ref).interruptions.traces
    activeSession := none
    lastNotifiedStatus := some .idle }

/-- The controller after the session has been closed. -/
def afterClose (c : VoiceSessionController) (ref : ℕ) (state : SessionState)
    (request : TeardownRequest) : VoiceSessionController :=
  { atClose c ref state with
    heap := Function.update c.heap ref (closedSession (c.heap ref) state request)
    lastClosedSessionId := some (c.heap ref).sessionId
    outboundMessages := Function.update c.outboundMessages (c.heap ref).sessionId none
    terminalResults := Function.update c.terminalResults (c.heap ref).sessionId
      (some (closingResult (c.heap ref) request))
    terminalFutures := Function.update c.terminalFutures (c.heap ref).sessionId none
    futures := match c.terminalFutures (c.heap ref).sessionId with
      | some future => Function.update c.futures future
          (some ((c.futures future).getD (closingResult (c.heap ref) request)))
      | none => c.futures
    tokenStore := c.tokenStore.invalidate (c.heap ref).token }

/-- What `finalize` does for the active session, whose teardown is under way. -/
lemma finalize_cases (env : Env) (hactive : c.activeSession = some ref)
    (hphase : (c.heap ref).state.phase = .stopping) (hresult : (c.heap ref).resolvedResult = none)
    (request : TeardownRequest) :
    ∃ state next, (c.heap ref).state.transition next = .ok state ∧ next.Final ∧
      (env.observerRaises .idle = true ∧
          finalize env ref request c = (atClose c ref state, .error .osError) ∨
        finalize env ref request c = (afterClose c ref state request, .ok ())) := by
  set next : SessionPhase := if request.outcome = .failed then .failed else .closed with hnext
  have hfinal : next.Final := by
    rw [hnext]
    split_ifs
    · exact .inr rfl
    · exact .inl rfl
  obtain ⟨state, hstate⟩ := stopping_closes hphase hfinal
  refine ⟨state, next, hstate, hfinal, ?_⟩
  have hmove : transition ref next c = (setSession c ref { c.heap ref with state }, .ok ()) := by
    rw [transition_apply, hstate]
  set made : VoiceSessionController :=
    { atClose c ref state with lastNotifiedStatus := c.lastNotifiedStatus } with hmade
  have hnotify := notifyStatus_apply env made
  rw [status_of_none (c := made) rfl] at hnotify
  have hfinalize : finalize env ref request c = (notifyStatus env >>= fun _ => do
      Op.modify fun d => { d with
        lastClosedSessionId := some (c.heap ref).sessionId
        outboundMessages := Function.update d.outboundMessages (c.heap ref).sessionId none }
      modifySession ref fun s => { s with startupDeadline := none }
      resolveTerminalResult ref request.outcome request.error) made := by
    simp only [finalize, Op.get_bind, hactive, ne_eq, not_true_eq_false, if_false, ← hnext,
      Op.bind_of_ok hmove]
    simp [hmade, atClose, setSession]
  rw [hfinalize]
  split_ifs at hnotify with hraises
  · refine .inl ⟨hraises.2, ?_⟩
    rw [Op.bind_of_error hnotify]
    rfl
  · refine .inr ?_
    rw [Op.bind_of_ok hnotify]
    rcases hfuture : c.terminalFutures (c.heap ref).sessionId with _ | future <;>
      simp [resolveTerminalResult, Op.bind_apply, setSession, hmade, atClose, afterClose, hresult,
        closedSession, closingResult, hfuture]

/-- `finalize` leaves the session closed, whatever it was. -/
lemma finalize_effects (env : Env) (hg : Good c) {run : TeardownRun}
    (hrun : (c.heap ref).teardown.task = some run)
    (hcloses : c.activeSession = some ref → k.closing → env.observerRaises .idle = false) :
    Effects k c (finalize env ref run.request c).1 ∧
      (finalize env ref run.request c).1.activeSession ≠ some ref ∧
      SameTeardowns c (finalize env ref run.request c).1 := by
  by_cases hactive : c.activeSession = some ref
  · have hresult := (hg.active ref hactive).2.2
    have hphase := hg.stopping hactive (by simp [hrun])
    obtain ⟨state, next, hstate, hfinal, ⟨hraises, hfinalize⟩ | hfinalize⟩ :=
      finalize_cases env hactive hphase hresult run.request
    · have hclosed : state.phase.Final := by rwa [(SessionState.transition_ok hstate).1]
      rw [hfinalize]
      refine ⟨.single (.closedRaised ref state run (fun h => ?_) ⟨hactive, hrun, rfl, rfl, rfl, rfl,
        rfl, rfl, hclosed, history_isPrefix hstate⟩ rfl rfl rfl rfl), by simp [atClose],
        .update rfl rfl rfl⟩
      rw [hcloses hactive h] at hraises
      simp at hraises
    · have hclosed : state.phase.Final := by rwa [(SessionState.transition_ok hstate).1]
      rw [hfinalize]
      exact ⟨.single (.closed ref state run ⟨hactive, hrun, rfl, rfl, rfl, rfl,
        rfl, rfl, hclosed, history_isPrefix hstate⟩ rfl rfl rfl rfl rfl),
        by simp [afterClose, atClose], .update rfl rfl rfl⟩
  · have hskip : finalize env ref run.request c = (c, .ok ()) := by
      rw [finalize, Op.get_bind, if_pos hactive]
      rfl
    rw [hskip]
    exact ⟨.refl, hactive, rfl, fun _ => rfl⟩

/-! ### Tokens, observations, task events -/

/-- Consuming a token changes the store, whatever comes of it. -/
lemma consume_store (c : VoiceSessionController) (token : String) (now : ℚ) :
    (consumeActivationToken token now c).1 =
      { c with tokenStore := (c.tokenStore.consume token now).1 } := by
  simp only [consumeActivationToken, Op.get_bind, Op.modify_bind]
  rcases (c.tokenStore.consume token now).2 with _ | id
  · rfl
  · rcases hactive : c.activeSession with _ | ref
    · rfl
    · simp only [Op.ite_apply]
      split_ifs <;> rfl

lemma consume_effect (k : Smooth) (c : VoiceSessionController) (token : String) (now : ℚ) :
    Effect k c (consumeActivationToken token now c).1 := by
  rw [consume_store]
  exact .tables ⟨rfl, rfl, rfl, rfl, rfl, rfl, rfl⟩ rfl

lemma publish_effects (k : Smooth) (c : VoiceSessionController) (sessionId : String)
    (message : TaskEventMessage) : Effects k c (publishTaskEvent sessionId message c).1 := by
  rw [publishTaskEvent, Op.get_bind]
  simp only [Op.ite_apply]
  split_ifs
  · exact .refl
  · rcases hqueue : c.outboundMessages sessionId with _ | queue
    · exact .refl
    · by_cases hroom : (c.queues queue).messages.length < 64
      · simp only [dif_pos hroom, Op.modify_bind]
        exact .single (.tables ⟨rfl, rfl, rfl, rfl, rfl, rfl, rfl⟩ rfl)
      · simp only [dif_neg hroom]
        exact .refl
  · exact .refl

lemma get_effect (k : Smooth) (c : VoiceSessionController) (queue : ℕ) :
    Effect k c (getOutbound queue c).1 :=
  .tables ⟨rfl, rfl, rfl, rfl, rfl, rfl, rfl⟩ rfl

lemma handoff_effects (env : Env) (k : Smooth) (c : VoiceSessionController) (sessionId : String)
    (record : HandoffRecord) : Effects k c (registerHandoff env sessionId record c).1 := by
  rw [registerHandoff, Op.get_bind]
  simp only [Op.ite_apply]
  split_ifs
  · rcases record.boardSlug.filter (· ≠ "") with _ | slug
    · exact .refl
    · rcases record.dbPath.filter (· ≠ "") with _ | path
      · exact .refl
      · exact .single (.tables ⟨rfl, rfl, rfl, rfl, rfl, rfl, rfl⟩ rfl)
  · exact .refl

lemma permission_effects (k : Smooth) (c : VoiceSessionController) (sessionId : String) :
    Effects k c (resolveTaskPermission sessionId c).1 := by
  rw [resolveTaskPermission, Op.get_bind, Op.ite_apply]
  split_ifs <;> exact .refl

/-- Changing what is kept of the interruptions is one effect. -/
lemma interruptions_effect (k : Smooth) (href : ref < c.created)
    (interruptions : InterruptionTimelineReducer) :
    Effect k c (setSession c ref { c.heap ref with interruptions }) :=
  .touched ref _ href ⟨rfl, rfl, rfl, rfl, rfl, rfl, rfl⟩ rfl
    (.observed (c.heap ref).trace interruptions)

/-- … and recording an event after it is at most one more. -/
lemma observe_effects (env : Env) (k : Smooth) (href : ref < c.created)
    (interruptions : InterruptionTimelineReducer) (name : String) (source : TimingEventSource)
    (data : JsonDict) (ns : Option ℤ) :
    Effects k c (recordTrace env ref name source data ns
      (setSession c ref { c.heap ref with interruptions })).1 := by
  have hchange := interruptions_effect k href interruptions
  rcases record_cases env k (c := setSession c ref { c.heap ref with interruptions }) href name
    source data ns with ⟨c', hrecord, heffect, -⟩ | ⟨e, hrecord⟩ <;> rw [hrecord]
  · exact .tail (.single hchange) heffect
  · exact .single hchange

lemma beginResponse_effects (env : Env) (k : Smooth) (hg : Good c) (sessionId responseId : String)
    (receivedNs : ℤ) (started : Option ℤ) :
    Effects k c (beginRealtimeResponse env sessionId responseId receivedNs started c).1 := by
  unfold beginRealtimeResponse
  rw [Op.bind_apply]
  rcases requireActiveSession_cases c sessionId with ⟨ref, hactive, rfl⟩ | hstale
  · rw [requireActiveSession_of_active hactive]
    simp only [Op.get_bind]
    rw [Op.bind_apply, Op.ofExcept_apply]
    rcases (c.heap ref).interruptions.beginResponse responseId receivedNs started with e | r
    · exact .refl
    · exact observe_effects env k (hg.active ref hactive).1 r _ _ _ _
  · rw [hstale]
    exact .refl

lemma interruption_effects (env : Env) (k : Smooth) (hg : Good c) (sessionId : String)
    (event : InterruptionEvent) :
    Effects k c (recordInterruptionEvent env sessionId event c).1 := by
  unfold recordInterruptionEvent
  rw [Op.bind_apply]
  rcases requireActiveSession_cases c sessionId with ⟨ref, hactive, rfl⟩ | hstale
  · rw [requireActiveSession_of_active hactive]
    simp only [Op.ite_apply]
    by_cases hid : event.localSessionId ≠ (c.heap ref).sessionId
    · rw [if_pos hid]
      exact .refl
    · rw [if_neg hid]
      have href := (hg.active ref hactive).1
      simp only [Op.get_bind, Op.bind_of_ok (modifySession_apply c ref _), Op.ite_apply]
      set r := ((c.heap ref).interruptions.consume event).1
      by_cases haccepted : ((c.heap ref).interruptions.consume event).2 = true
      · rw [if_pos haccepted]
        simp only [Op.bind_pure_fst]
        exact observe_effects env k href r _ _ _ _
      · rw [if_neg haccepted]
        exact .single (interruptions_effect k href r)
  · rw [hstale]
    exact .refl

end HermesRealtime.CriticalSections

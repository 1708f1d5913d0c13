import HermesRealtime.Controller

/-!
What the operations of the controller that others are made of do, in closed form: telling the
observer, changing the phase, recording an event, beginning a teardown.
-/

namespace HermesRealtime.Operations

open Values Text Protocol Phases Timing Tokens Interruption Teardown Controller

variable {env : Env} {c : VoiceSessionController} {ref : ℕ}

@[simp] lemma setSession_heap (c : VoiceSessionController) (ref : ℕ) (s : WakeSession) :
    (setSession c ref s).heap ref = s := by
  simp [setSession]

lemma setSession_heap_of_ne (c : VoiceSessionController) {ref other : ℕ} (s : WakeSession)
    (h : other ≠ ref) : (setSession c ref s).heap other = c.heap other :=
  Function.update_of_ne h _ _

@[simp] lemma setSession_setSession (c : VoiceSessionController) (ref : ℕ) (s s' : WakeSession) :
    setSession (setSession c ref s) ref s' = setSession c ref s' := by
  simp [setSession]

@[simp] lemma setSession_self (c : VoiceSessionController) (ref : ℕ) :
    setSession c ref (c.heap ref) = c := by
  simp [setSession]

@[simp] lemma modifySession_apply (c : VoiceSessionController) (ref : ℕ)
    (f : WakeSession → WakeSession) :
    modifySession ref f c = (setSession c ref (f (c.heap ref)), .ok ()) := rfl

lemma status_of_active (h : c.activeSession = some ref) :
    c.status = statusOf (c.heap ref).state.phase := by
  simp [VoiceSessionController.status, h]

lemma status_of_none (h : c.activeSession = none) : c.status = .idle := by
  simp [VoiceSessionController.status, h]

/-- Telling the observer changes what is remembered of the last state told, and nothing else;
it raises only if the observer does, for a state it was not told last. -/
lemma notifyStatus_apply (env : Env) (c : VoiceSessionController) :
    notifyStatus env c = ({ c with lastNotifiedStatus := some c.status },
      if c.lastNotifiedStatus ≠ some c.status ∧ env.observerRaises c.status = true then
        .error .osError
      else .ok ()) := by
  unfold notifyStatus
  rw [Op.get_bind]
  by_cases hsame : c.lastNotifiedStatus = some c.status
  · have hc : { c with lastNotifiedStatus := some c.status } = c := by rw [← hsame]
    rw [hc]
    simp [hsame]
  · cases hraises : env.observerRaises c.status <;> simp [hsame]

lemma transition_apply (c : VoiceSessionController) (ref : ℕ) (phase : SessionPhase) :
    transition ref phase c = match (c.heap ref).state.transition phase with
      | .ok state => (setSession c ref { c.heap ref with state }, .ok ())
      | .error e => (c, .error e) := by
  unfold transition
  rw [Op.get_bind, Op.bind_apply, Op.ofExcept_apply]
  rcases (c.heap ref).state.transition phase with e | state <;> rfl

lemma recordTrace_apply (env : Env) (c : VoiceSessionController) (ref : ℕ) (name : String)
    (source : TimingEventSource) (data : JsonDict) (ns : Option ℤ) :
    recordTrace env ref name source data ns c =
      match (c.heap ref).trace.record env.clock name source data ns with
      | .ok trace => (setSession c ref { c.heap ref with trace }, .ok ())
      | .error e => (c, .error e) := by
  unfold recordTrace
  rw [Op.get_bind, Op.bind_apply, Op.ofExcept_apply]
  rcases (c.heap ref).trace.record env.clock name source data ns with e | trace <;> rfl

/-! ### The active session -/

lemma requireActiveSession_of_active (h : c.activeSession = some ref) :
    requireActiveSession (c.heap ref).sessionId c = (c, .ok ref) := by
  simp [requireActiveSession, h]

/-- Another session's id is refused, and nothing happens. -/
lemma requireActiveSession_of_stale {sessionId : String}
    (h : ∀ ref, c.activeSession = some ref → (c.heap ref).sessionId ≠ sessionId) :
    requireActiveSession sessionId c =
      (c, .error (.staleControlMessage "stale session id")) := by
  rcases hactive : c.activeSession with _ | ref
  · simp [requireActiveSession, hactive]
  · simp [requireActiveSession, hactive, h ref hactive]

/-- An id is that of the active session, or it is refused. -/
lemma requireActiveSession_cases (c : VoiceSessionController) (sessionId : String) :
    (∃ ref, c.activeSession = some ref ∧ (c.heap ref).sessionId = sessionId) ∨
      requireActiveSession sessionId c =
        (c, .error (.staleControlMessage "stale session id")) := by
  by_cases h : ∃ ref, c.activeSession = some ref ∧ (c.heap ref).sessionId = sessionId
  · exact .inl h
  · exact .inr (requireActiveSession_of_stale fun ref hactive hid => h ⟨ref, hactive, hid⟩)

/-! ### Beginning a teardown -/

/-- The observer does not stop the teardown of `s`: it is not told, or does not raise. -/
def ObserverLets (env : Env) (c : VoiceSessionController) (s : WakeSession) : Prop :=
  s.state.phase = .stopping ∨ c.lastNotifiedStatus = some .stopping ∨
    env.observerRaises .stopping = false

/-- The trace does not stop the teardown of `s`: it is marked already, or the clock has reached
the last timestamp of the trace. -/
def TraceLets (env : Env) (s : WakeSession) : Prop :=
  s.teardownMarked = true ∨ s.trace.Admits env.clock.monotonicNs

/-- The session once a teardown of it has begun. -/
def begunSession (s : WakeSession) (state : SessionState) (trace : SessionTrace)
    (request : TeardownRequest) : WakeSession :=
  { s with
    state
    stopReason := s.stopReason <|> some request.reason
    trace
    teardownMarked := true
    teardown := s.teardown.start request }

/-- The ways `_begin_teardown_locked` ends for the active session. -/
inductive BeginOutcome (env : Env) (c : VoiceSessionController) (ref : ℕ)
    (request : TeardownRequest) : VoiceSessionController × Except PyError ℕ → Prop
  | observerRaised (state) (hstate : (c.heap ref).state.transition .stopping = .ok state)
      (hobserver : ¬ ObserverLets env c (c.heap ref)) :
      BeginOutcome env c ref request
        ({ setSession c ref { c.heap ref with state } with lastNotifiedStatus := some .stopping },
          .error .osError)
  | traceRaised (state told error)
      (hstate : (c.heap ref).state.transition .stopping = .ok state)
      (hobserver : ObserverLets env c (c.heap ref)) (htrace : ¬ TraceLets env (c.heap ref)) :
      BeginOutcome env c ref request
        ({ setSession c ref { c.heap ref with
            state, stopReason := (c.heap ref).stopReason <|> some request.reason } with
          lastNotifiedStatus := told }, .error error)
  | begun (state told trace) (hstate : (c.heap ref).state.transition .stopping = .ok state)
      (hobserver : ObserverLets env c (c.heap ref)) (htrace : TraceLets env (c.heap ref)) :
      BeginOutcome env c ref request
        ({ setSession c ref (begunSession (c.heap ref) state trace request) with
          lastNotifiedStatus := told }, .ok ref)

/-- What `_begin_teardown_locked` does after the phase is `STOPPING`. -/
lemma mark_and_start (env : Env) (c : VoiceSessionController) (ref : ℕ)
    (request : TeardownRequest) :
    (∃ e, ¬ TraceLets env (c.heap ref) ∧
      (do markTeardown env ref request
          modifySession ref fun s => { s with teardown := s.teardown.start request }
          return ref : ControllerM ℕ) c = (c, .error e)) ∨
    ∃ trace, TraceLets env (c.heap ref) ∧
      (do markTeardown env ref request
          modifySession ref fun s => { s with teardown := s.teardown.start request }
          return ref : ControllerM ℕ) c =
        (setSession c ref { c.heap ref with
          trace, teardownMarked := true, teardown := (c.heap ref).teardown.start request },
          .ok ref) := by
  cases hmarked : (c.heap ref).teardownMarked with
  | true =>
    refine .inr ⟨(c.heap ref).trace, .inl hmarked, ?_⟩
    have hmark : markTeardown env ref request c = (c, .ok ()) := by
      simp [markTeardown, hmarked]
    rw [Op.bind_of_ok hmark]
    simp only [Op.bind_apply, modifySession_apply, Op.pure_apply, ← hmarked]
  | false =>
    have hmark : markTeardown env ref request c =
        (recordTrace env ref "teardown_requested" .controller
          [("outcome", .str request.outcome.value), ("reason", .str request.reason.value)] none >>=
          fun _ => modifySession ref fun s => { s with teardownMarked := true }) c := by
      simp [markTeardown, hmarked]
    have hdata : validJsonFields
        [("outcome", .str request.outcome.value), ("reason", .str request.reason.value)] =
            true := by
      simp [validJsonFields, validJsonValue]
    rcases hrecord : (c.heap ref).trace.record env.clock "teardown_requested" .controller
        [("outcome", .str request.outcome.value), ("reason", .str request.reason.value)] none
      with e | trace
    · refine .inl ⟨e, ?_, ?_⟩
      · rintro (h | h)
        · simp [hmarked] at h
        · obtain ⟨t, ht⟩ : ∃ t, (c.heap ref).trace.record env.clock "teardown_requested" .controller
              [("outcome", .str request.outcome.value), ("reason", .str request.reason.value)]
              none = .ok t := (SessionTrace.record_now_iff hdata).mpr h
          simp [hrecord] at ht
      · rw [Op.bind_of_error (e := e)]
        rw [hmark, Op.bind_of_error (e := e)]
        rw [recordTrace_apply, hrecord]
    · refine .inr ⟨trace, .inr ((SessionTrace.record_now_iff hdata).mp ⟨trace, hrecord⟩), ?_⟩
      have hdone : markTeardown env ref request c =
          (setSession c ref { c.heap ref with trace, teardownMarked := true }, .ok ()) := by
        rw [hmark, Op.bind_of_ok (a := ()) (t := setSession c ref { c.heap ref with trace })]
        · simp
        · rw [recordTrace_apply, hrecord]
      rw [Op.bind_of_ok hdone]
      simp only [Op.bind_apply, modifySession_apply, Op.pure_apply, setSession_heap,
        setSession_setSession]

lemma active_transitions {p : SessionPhase} (h : p.Active) : .stopping ∈ p.transitions := by
  rcases h with rfl | rfl | rfl | rfl <;> decide

lemma transition_stopping_self {s : SessionState} (h : s.phase = .stopping) :
    s.transition .stopping = .ok s := by
  have hmem : SessionPhase.stopping ∈ SessionPhase.stopping.transitions := by decide
  simp [SessionState.transition, SessionState.transitionTo, hmem, h]

/-- What `_begin_teardown_locked` does until the phase is `STOPPING`. -/
lemma enterStopping_cases (env : Env) (hactive : c.activeSession = some ref)
    (hphase : (c.heap ref).state.phase.Active) (request : TeardownRequest) :
    ∃ state, (c.heap ref).state.transition .stopping = .ok state ∧
      (¬ ObserverLets env c (c.heap ref) ∧ enterStopping env ref request c =
          ({ setSession c ref { c.heap ref with state } with lastNotifiedStatus := some .stopping },
            .error .osError) ∨
        ObserverLets env c (c.heap ref) ∧ ∃ told, enterStopping env ref request c =
          ({ setSession c ref { c.heap ref with
              state, stopReason := (c.heap ref).stopReason <|> some request.reason } with
            lastNotifiedStatus := told }, .ok ())) := by
  obtain ⟨state, hstate⟩ := SessionState.transition_of_mem (active_transitions hphase)
  refine ⟨state, hstate, ?_⟩
  by_cases hstopping : (c.heap ref).state.phase = .stopping
  · obtain rfl : (c.heap ref).state = state := by
      simpa [transition_stopping_self hstopping] using hstate
    refine .inr ⟨.inl hstopping, c.lastNotifiedStatus, ?_⟩
    simp [enterStopping, hstopping, setSession]
  · -- the phase changes, and the observer is told
    have hmove : transition ref .stopping c =
        (setSession c ref { c.heap ref with state }, .ok ()) := by
      rw [transition_apply, hstate]
    set moved := setSession c ref { c.heap ref with state } with hmoved
    have htold : moved.status = .stopping := by
      rw [status_of_active (show moved.activeSession = some ref from hactive), hmoved,
        setSession_heap, (SessionState.transition_ok hstate).1]
      rfl
    have hbegin : enterStopping env ref request c = (notifyStatus env >>= fun _ =>
        modifySession ref fun s => { s with stopReason := s.stopReason <|> some request.reason })
        moved := by
      unfold enterStopping
      rw [Op.get_bind, if_pos hstopping]
      simp only [Op.bind_apply, hmove]
    have hnotify := notifyStatus_apply env moved
    rw [htold] at hnotify
    by_cases hlets : ObserverLets env c (c.heap ref)
    · have hquiet : ¬ (moved.lastNotifiedStatus ≠ some .stopping ∧
          env.observerRaises .stopping = true) := by
        rintro ⟨hlast, hraises⟩
        rcases hlets with h | h | h
        · exact hstopping h
        · exact hlast h
        · simp [hraises] at h
      rw [if_neg hquiet] at hnotify
      refine .inr ⟨hlets, some .stopping, ?_⟩
      rw [hbegin, Op.bind_of_ok hnotify]
      simp [hmoved, setSession]
    · have hloud : moved.lastNotifiedStatus ≠ some .stopping ∧
          env.observerRaises .stopping = true := by
        refine ⟨fun h => hlets (.inr (.inl h)), ?_⟩
        cases hraises : env.observerRaises .stopping with
        | true => rfl
        | false => exact absurd (.inr (.inr hraises)) hlets
      rw [if_pos hloud] at hnotify
      refine .inl ⟨hlets, ?_⟩
      rw [hbegin, Op.bind_of_error hnotify]

/-- Every call of `_begin_teardown_locked` for the active session ends in one of these ways. -/
theorem beginTeardownLocked_outcome (env : Env) (hactive : c.activeSession = some ref)
    (hphase : (c.heap ref).state.phase.Active) (request : TeardownRequest) :
    BeginOutcome env c ref request (beginTeardownLocked env (c.heap ref).sessionId request c) := by
  unfold beginTeardownLocked
  rw [Op.bind_of_ok (requireActiveSession_of_active hactive)]
  obtain ⟨state, hstate, ⟨hlets, henter⟩ | ⟨hlets, told, henter⟩⟩ :=
    enterStopping_cases env hactive hphase request
  · rw [Op.bind_of_error henter]
    exact .observerRaised state hstate hlets
  · rw [Op.bind_of_ok henter]
    set stopped : WakeSession := { c.heap ref with
      state, stopReason := (c.heap ref).stopReason <|> some request.reason } with hstopped
    have hheap : ({ setSession c ref stopped with lastNotifiedStatus := told } :
        VoiceSessionController).heap ref = stopped := by simp [setSession]
    have htrace : TraceLets env stopped ↔ TraceLets env (c.heap ref) := Iff.rfl
    rcases mark_and_start env { setSession c ref stopped with lastNotifiedStatus := told } ref
      request with ⟨e, hno, hrun⟩ | ⟨trace, hyes, hrun⟩
    · rw [hheap, htrace] at hno
      rw [hrun]
      exact .traceRaised state told e hstate hlets hno
    · rw [hheap, htrace] at hyes
      rw [hheap] at hrun
      rw [hrun]
      have hdone : BeginOutcome env c ref request _ :=
        .begun state told trace hstate hlets hyes
      simpa [setSession, begunSession, hstopped] using hdone

end HermesRealtime.Operations

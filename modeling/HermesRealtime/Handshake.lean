import HermesRealtime.RelayFailures
import HermesRealtime.TeardownStart

/-!
The handshake of the page: `page_ready` when its socket is open, `page_started` when the provider
has taken the session. The controller accepts a `page_started` that overtakes the `page_ready`, but
not the `page_ready` that comes after it.
-/

namespace HermesRealtime.Handshake

open Values Protocol Phases Teardown Controller Operations SessionRuns RelayFailures TeardownStart

variable {env : Env} {c : VoiceSessionController} {ref : ℕ}

inductive PageMessage
  | ready | started
  deriving DecidableEq

namespace PageMessage

def message (sessionId : String) : PageMessage → LoopbackMessage
  | .ready => .pageReady sessionId
  | .started => .pageStarted sessionId

def phase : PageMessage → SessionPhase
  | .ready => .connecting
  | .started => .live

end PageMessage

/-- The messages of the page, one after another, each in its own circumstances. The first that is
not accepted ends the relay. -/
def handshake (sessionId : String) : List (Env × PageMessage) → ControllerM Unit
  | [] => return ()
  | (env, m) :: rest => do
    let _ ← processControlMessage env sessionId (.ok (m.message sessionId))
    handshake sessionId rest

/-- The session has come to the phase of a message, and the observer knows. -/
structure Greeted (c c' : VoiceSessionController) (ref : ℕ) (m : PageMessage) : Prop where
  active : c'.activeSession = some ref
  sessionId : (c'.heap ref).sessionId = (c.heap ref).sessionId
  phase : (c'.heap ref).state.phase = m.phase
  told : c'.lastNotifiedStatus = some (statusOf m.phase)
  deadline : (c'.heap ref).startupDeadline =
    if m = .started then none else (c.heap ref).startupDeadline

/-- The session once a message has changed its phase. -/
def greeted (s : WakeSession) (state : SessionState) : PageMessage → WakeSession
  | .ready => { s with state }
  | .started => { s with state, startupDeadline := none }

/-- The message changes the phase, and then the observer is told. -/
lemma handle_message (env : Env) (m : PageMessage) (sessionId : String) {state : SessionState}
    (hstate : (c.heap ref).state.transition m.phase = .ok state) :
    handleMessage env ref (m.message sessionId) c = (notifyStatus env >>= fun _ =>
      pure ControlReply.nothing) (setSession c ref (greeted (c.heap ref) state m)) := by
  have hmove : transition ref m.phase c = (setSession c ref { c.heap ref with state }, .ok ()) := by
    rw [transition_apply, hstate]
  cases m with
  | ready => exact Op.bind_of_ok hmove
  | started =>
    refine (Op.bind_of_ok hmove).trans ((Op.bind_of_ok (modifySession_apply _ _ _)).trans ?_)
    rw [setSession_setSession, setSession_heap]
    rfl

/-- A message is accepted exactly if its phase can be reached and the observer takes it. -/
lemma message_cases (env : Env) (hactive : c.activeSession = some ref) (m : PageMessage) :
    (Reaches (c.heap ref).state.phase m.phase ∧ ¬ObserverFails env c m.phase ∧ ∃ c',
      processControlMessage env (c.heap ref).sessionId (.ok (m.message (c.heap ref).sessionId)) c =
        (c', .ok .nothing) ∧ Greeted c c' ref m) ∨
    (¬(Reaches (c.heap ref).state.phase m.phase ∧ ¬ObserverFails env c m.phase) ∧ ∃ c' e,
      processControlMessage env (c.heap ref).sessionId (.ok (m.message (c.heap ref).sessionId)) c =
        (c', .error e)) := by
  have hhandle : processControlMessage env (c.heap ref).sessionId
      (.ok (m.message (c.heap ref).sessionId)) c =
        handleMessage env ref (m.message (c.heap ref).sessionId) c := by
    refine control_active hactive ?_ ?_ <;>
      cases m <;> simp [PageMessage.message, LoopbackMessage.sessionId?]
  rw [hhandle]
  obtain ⟨⟨state, hstate⟩, hreaches⟩ | ⟨⟨text, herror⟩, hreaches⟩ :=
    transition_reaches (c.heap ref).state m.phase
  · rw [handle_message env m _ hstate]
    have hphase : (greeted (c.heap ref) state m).state.phase = m.phase := by
      have hreached := (SessionState.transition_ok hstate).1
      cases m <;> exact hreached
    have hnotify := notifyStatus_apply env (setSession c ref (greeted (c.heap ref) state m))
    rw [status_of_active (show (setSession c ref _).activeSession = some ref from hactive),
      setSession_heap, hphase] at hnotify
    split_ifs at hnotify with hfails
    · rw [Op.bind_of_error hnotify]
      exact .inr ⟨fun h => h.2 hfails, _, _, rfl⟩
    · rw [Op.bind_of_ok hnotify]
      refine .inl ⟨hreaches, hfails, _, rfl, hactive, ?_, ?_, rfl, ?_⟩
      · cases m <;> simp [greeted, setSession]
      · simpa [setSession] using hphase
      · cases m <;> simp [greeted, setSession]
  · have hmove : transition ref m.phase c = (c, .error (.sessionTransitionError text)) := by
      rw [transition_apply, herror]
    refine .inr ⟨fun h => hreaches h.1, c, .sessionTransitionError text, ?_⟩
    cases m <;> exact Op.bind_of_error hmove

/-! ### Sequences -/

/-- No `page_ready` comes after a `page_started`, and the observer takes the first message and the
first `page_started`. -/
structure Orderly (c : VoiceSessionController) (msgs : List (Env × PageMessage)) : Prop where
  order : msgs.Pairwise fun a b => a.2 = .started → b.2 = .started
  first : ∀ x ∈ msgs.head?, ¬ObserverFails x.1 c x.2.phase
  live : ∀ x ∈ msgs.head?, x.2 = .ready → ∀ y ∈ msgs.find? fun y => y.2 = .started,
    y.1.observerRaises .live = false

/-- The session is live, the deadline of its start is cancelled, and its history is legal. -/
def Live (c : VoiceSessionController) (ref : ℕ) : Prop :=
  (c.heap ref).state.phase = .live ∧ (c.heap ref).startupDeadline = none ∧
    postInit (c.heap ref).state.phase (c.heap ref).state.history = .ok ()

/-- The session of the run so far is in the phase of the last message. -/
lemma handshake_cons (env : Env) (hactive : c.activeSession = some ref) (m : PageMessage)
    (rest : List (Env × PageMessage)) {sessionId : String}
    (hid : (c.heap ref).sessionId = sessionId) :
    (Reaches (c.heap ref).state.phase m.phase ∧ ¬ObserverFails env c m.phase ∧ ∃ c',
      handshake sessionId ((env, m) :: rest) c = handshake sessionId rest c' ∧
        Greeted c c' ref m) ∨
    (¬(Reaches (c.heap ref).state.phase m.phase ∧ ¬ObserverFails env c m.phase) ∧ ∃ c' e,
      handshake sessionId ((env, m) :: rest) c = (c', .error e)) := by
  subst hid
  rcases message_cases env hactive m with ⟨hreaches, hlets, c', hprocess, hgreeted⟩ |
    ⟨hno, c', e, hprocess⟩
  · exact .inl ⟨hreaches, hlets, c', Op.bind_of_ok hprocess, hgreeted⟩
  · exact .inr ⟨hno, c', e, Op.bind_of_error hprocess⟩

/-- While the session is live, more `page_started` messages are accepted and nothing else is. -/
lemma live_handshake {sessionId : String} {msgs : List (Env × PageMessage)}
    (hactive : c.activeSession = some ref) (hid : (c.heap ref).sessionId = sessionId)
    (hphase : (c.heap ref).state.phase = .live) (hdeadline : (c.heap ref).startupDeadline = none)
    (htold : c.lastNotifiedStatus = some .live) :
    (∃ c', handshake sessionId msgs c = (c', .ok ()) ∧ c'.activeSession = some ref ∧ Live c' ref) ↔
      ∀ x ∈ msgs, x.2 = .started := by
  induction msgs generalizing c with
  | nil =>
    exact iff_of_true ⟨c, rfl, hactive, hphase, hdeadline, (c.heap ref).state.legal⟩ (by simp)
  | cons x rest ih =>
    obtain ⟨env, m⟩ := x
    rcases handshake_cons env hactive m rest hid with ⟨hreaches, -, c', hrun, hgreeted⟩ |
      ⟨hno, c', e, hrun⟩
    · cases m with
      | ready =>
        rw [hphase] at hreaches
        rcases hreaches with h | h
        · exact absurd h (by decide)
        · cases h
      | started =>
        rw [hrun, ih hgreeted.active (hgreeted.sessionId.trans hid) hgreeted.phase
          (by simpa using hgreeted.deadline) hgreeted.told]
        simp
    · refine iff_of_false (fun h => by cases hrun.symm.trans h.choose_spec.1) fun h => hno ?_
      have hm : m = .started := h (env, m) (by simp)
      subst hm
      exact ⟨.inr hphase, fun hfails => hfails.1 htold⟩

/-- In order after a `page_started`: only more of them. -/
lemma pairwise_started (env : Env) (rest : List (Env × PageMessage)) :
    ((env, PageMessage.started) :: rest).Pairwise (fun a b => a.2 = .started → b.2 = .started) ↔
      ∀ x ∈ rest, x.2 = .started := by
  rw [List.pairwise_cons]
  refine ⟨fun h x hx => h.1 x hx rfl, fun h => ⟨fun x hx _ => h x hx, ?_⟩⟩
  exact List.Pairwise.imp_of_mem (fun _ hb _ _ => h _ hb)
    (List.pairwise_of_forall fun _ _ => trivial)

lemma pairwise_ready (env : Env) (rest : List (Env × PageMessage)) :
    ((env, PageMessage.ready) :: rest).Pairwise (fun a b => a.2 = .started → b.2 = .started) ↔
      rest.Pairwise (fun a b => a.2 = .started → b.2 = .started) := by
  simp [List.pairwise_cons]

/-- While the session is connecting, the first `page_started` makes it live. -/
lemma connecting_handshake {sessionId : String} {msgs : List (Env × PageMessage)}
    (hactive : c.activeSession = some ref) (hid : (c.heap ref).sessionId = sessionId)
    (hphase : (c.heap ref).state.phase = .connecting)
    (htold : c.lastNotifiedStatus = some .connecting)
    (hstarted : ∃ x ∈ msgs, x.2 = .started) :
    (∃ c', handshake sessionId msgs c = (c', .ok ()) ∧ c'.activeSession = some ref ∧ Live c' ref) ↔
      msgs.Pairwise (fun a b => a.2 = .started → b.2 = .started) ∧
        ∀ y ∈ msgs.find? (fun y => y.2 = .started), y.1.observerRaises .live = false := by
  induction msgs generalizing c with
  | nil => simp at hstarted
  | cons x rest ih =>
    obtain ⟨env, m⟩ := x
    rcases handshake_cons env hactive m rest hid with ⟨-, hlets, c', hrun, hgreeted⟩ |
      ⟨hno, c', e, hrun⟩
    · have hid' := hgreeted.sessionId.trans hid
      cases m with
      | ready =>
        rw [hrun, ih hgreeted.active hid' hgreeted.phase hgreeted.told (by simpa using hstarted),
          pairwise_ready]
        simp
      | started =>
        have hquiet : env.observerRaises .live = false := by
          by_contra hraises
          exact hlets ⟨by simp [htold, PageMessage.phase, statusOf], Bool.not_eq_false _ ▸ hraises⟩
        rw [hrun, live_handshake hgreeted.active hid' hgreeted.phase
          (by simpa using hgreeted.deadline)
          hgreeted.told, pairwise_started]
        simp [hquiet]
    · refine iff_of_false (fun h => by cases hrun.symm.trans h.choose_spec.1) fun h => hno ?_
      cases m with
      | ready => exact ⟨.inr hphase, fun hfails => hfails.1 htold⟩
      | started =>
        refine ⟨.inl (by rw [hphase]; decide), fun hfails => ?_⟩
        have hquiet : env.observerRaises .live = false := h.2 (env, .started) (by simp)
        simp [ObserverFails, PageMessage.phase, statusOf, hquiet] at hfails

/-- A controller that has just launched a session. -/
def launched : VoiceSessionController :=
  (afterActivate stillEnv (start {}) "voice-one-01" "token" 0 (some ⟨1⟩)).controller

/-- The provider takes the session before the page has said that it is ready, as a page that
connects again quickly may find: the `page_ready` that follows is rejected. -/
theorem late_ready_rejected : launched.activeSession = some 0 ∧
    (launched.heap 0).state.phase = .launching ∧
    (handshake "voice-one-01" [(stillEnv, .started), (stillEnv, .ready)] launched).2 =
      .error (.sessionTransitionError "cannot transition from live to connecting") := by
  refine ⟨by decide +kernel, by decide +kernel, ?_⟩
  decide +kernel

/-- **The handshake of a session that is starting succeeds in the order of the messages only**:
every message is accepted and the session becomes live exactly if no `page_ready` follows a
`page_started`, and the observer takes the changes of the phase. -/
theorem handshake_orderly {msgs : List (Env × PageMessage)} (hactive : c.activeSession = some ref)
    (hphase : (c.heap ref).state.phase = .launching ∨ (c.heap ref).state.phase = .connecting)
    (hstarted : ∃ x ∈ msgs, x.2 = .started) :
    (∃ c', handshake (c.heap ref).sessionId msgs c = (c', .ok ()) ∧ c'.activeSession = some ref ∧
      Live c' ref) ↔ Orderly c msgs := by
  rcases msgs with _ | ⟨⟨env, m⟩, rest⟩
  · simp at hstarted
  have hreaches : Reaches (c.heap ref).state.phase m.phase := by
    rcases hphase with h | h <;> rw [h] <;> cases m <;>
      simp [Reaches, PageMessage.phase, SessionPhase.transitions]
  have horderly : Orderly c ((env, m) :: rest) ↔
      ((env, m) :: rest).Pairwise (fun a b => a.2 = .started → b.2 = .started) ∧
        ¬ObserverFails env c m.phase ∧ (m = .ready →
          ∀ y ∈ rest.find? (fun y => y.2 = .started), y.1.observerRaises .live = false) := by
    constructor
    · rintro ⟨horder, hfirst, hlive⟩
      refine ⟨horder, hfirst (env, m) rfl, ?_⟩
      rintro rfl y hy
      exact hlive (env, .ready) rfl rfl y (by simpa using hy)
    · rintro ⟨horder, hfirst, hlive⟩
      refine ⟨horder, ?_, ?_⟩
      · rintro x hx
        cases hx
        exact hfirst
      · rintro x hx hready y hy
        cases hx
        obtain rfl : m = .ready := hready
        exact hlive rfl y (by simpa using hy)
  rw [horderly]
  rcases handshake_cons env hactive m rest rfl with
    ⟨-, hlets, c', hrun, hgreeted⟩ | ⟨hno, c', e, hrun⟩
  · cases m with
    | ready =>
      rw [hrun, connecting_handshake hgreeted.active hgreeted.sessionId hgreeted.phase hgreeted.told
        (by simpa using hstarted), pairwise_ready]
      simp [hlets]
    | started =>
      rw [hrun, live_handshake hgreeted.active hgreeted.sessionId hgreeted.phase
        (by simpa using hgreeted.deadline) hgreeted.told, pairwise_started]
      simp [hlets]
  · refine iff_of_false (fun h => by cases hrun.symm.trans h.choose_spec.1)
      fun h => hno ⟨hreaches, h.2.1⟩

theorem handshake_launched :
    ∃ c', handshake "voice-one-01" [(stillEnv, .ready), (stillEnv, .started)]
    launched = (c', .ok ()) ∧ c'.activeSession = some 0 ∧ Live c' 0 := by
  have hactive : launched.activeSession = some 0 := by decide +kernel
  have hphase : (launched.heap 0).state.phase = .launching := by decide +kernel
  refine (handshake_orderly hactive (.inl hphase) ⟨(stillEnv, .started), by simp, rfl⟩).2 ?_
  exact {
    order := by simp
    first := by simp [ObserverFails, stillEnv]
    live := by simp [stillEnv] }

end HermesRealtime.Handshake

import HermesRealtime.Rejections
import HermesRealtime.SessionRuns

/-!
Which frames end the relay instead of being rejected: those for which the critical section of
`process_control_message` raises anything but a `ValueError`.
-/

namespace HermesRealtime.RelayFailures

open Values Text Protocol Phases Timing Frames Teardown Controller Operations SessionRuns Rejections

variable {α β : Type} {env : Env} {c : VoiceSessionController} {ref : ℕ}

/-- Whatever is raised is handled by the relay. -/
def Answered (r : Except PyError α) : Prop := ∀ e, r = .error e → e.isValueError = true

lemma answered_iff {r : Except PyError α} : Answered r ↔ ¬Raises r := by
  rcases r with e | a
  · simp [Answered, raises_error]
  · simp [Answered]

/-! ### Operations -/

lemma raises_op_bind {x : ControllerM α} {f : α → ControllerM β} :
    Raises ((x >>= f) c).2 ↔
      Raises (x c).2 ∨ ∃ a, (x c).2 = .ok a ∧ Raises (f a (x c).1).2 := Checks.escapes_op_bind

/-- What comes last raises nothing. -/
lemma raises_op_last {x : ControllerM α} {f : α → ControllerM β}
    (hf : ∀ a c, ¬Raises (f a c).2) : Raises ((x >>= f) c).2 ↔ Raises (x c).2 := by
  rw [raises_op_bind, or_iff_left]
  rintro ⟨a, -, h⟩
  exact hf a _ h

/-- A phase that `_transition` accepts after another. -/
def Reaches (p next : SessionPhase) : Prop := next ∈ p.transitions ∨ p = next

lemma transition_reaches (s : SessionState) (next : SessionPhase) :
    (∃ t, s.transition next = .ok t) ∧ Reaches s.phase next ∨
      (∃ text, s.transition next = .error (.sessionTransitionError text)) ∧
        ¬Reaches s.phase next := by
  by_cases hmem : next ∈ s.phase.transitions
  · exact .inl ⟨SessionState.transition_of_mem hmem, .inl hmem⟩
  · have hto : s.transitionTo next = .error (transitionError s.phase next) := by
      rw [SessionState.transitionTo, dif_neg hmem]
    by_cases hsame : s.phase = next
    · exact .inl ⟨⟨s, by rw [SessionState.transition, hto]; simp [hsame]⟩, .inr hsame⟩
    · have herror : s.transition next = .error (transitionError s.phase next) := by
        rw [SessionState.transition, hto]
        simp [hsame]
      refine .inr ⟨⟨_, herror⟩, ?_⟩
      rintro (h | h)
      · exact hmem h
      · exact hsame h

lemma not_raises_record (t : SessionTrace) (clock : Clock) (name : String)
    (source : TimingEventSource) (data : JsonDict) (ns : Option ℤ) :
    ¬Raises (t.record clock name source data ns) := by
  rw [SessionTrace.record]
  split_ifs <;> simp [raises_error, PyError.isValueError]

lemma not_raises_recordTrace (name : String) (source : TimingEventSource) (data : JsonDict)
    (ns : Option ℤ) : ¬Raises (recordTrace env ref name source data ns c).2 := by
  have h := not_raises_record (c.heap ref).trace env.clock name source data ns
  rw [recordTrace_apply]
  rcases hrecord : (c.heap ref).trace.record env.clock name source data ns with e | trace
  · rw [hrecord, raises_error] at h
    simpa [raises_error] using h
  · simp

/-- The observer raises when it is told of a phase, and was not told of it last. -/
def ObserverFails (env : Env) (c : VoiceSessionController) (phase : SessionPhase) : Prop :=
  c.lastNotifiedStatus ≠ some (statusOf phase) ∧ env.observerRaises (statusOf phase) = true

lemma raises_notifyStatus (hactive : c.activeSession = some ref) (s : WakeSession) :
    Raises (notifyStatus env (setSession c ref s)).2 ↔ ObserverFails env c s.state.phase := by
  rw [notifyStatus_apply, status_of_active (show (setSession c ref s).activeSession = some ref from
    hactive), setSession_heap, ObserverFails]
  split_ifs with h
  · exact iff_of_true (raises_error.mpr rfl) h
  · exact iff_of_false not_raises_ok h

/-- A change of phase that is told to the observer in `k`. -/
lemma raises_told {next : SessionPhase} {k : ControllerM α}
    (hk : ∀ t : SessionState, t.phase = next →
      (Raises (k (setSession c ref { c.heap ref with state := t })).2 ↔ ObserverFails env c next)) :
    Raises ((transition ref next >>= fun _ => k) c).2 ↔
      Reaches (c.heap ref).state.phase next ∧ ObserverFails env c next := by
  obtain ⟨⟨t, ht⟩, hreaches⟩ | ⟨⟨text, ht⟩, hreaches⟩ :=
    transition_reaches (c.heap ref).state next
  · have hmove : transition ref next c =
        (setSession c ref { c.heap ref with state := t }, .ok ()) := by
      rw [transition_apply, ht]
    rw [Op.bind_of_ok hmove, hk t (SessionState.transition_ok ht).1]
    exact (and_iff_right hreaches).symm
  · have hmove : transition ref next c = (c, .error (.sessionTransitionError text)) := by
      rw [transition_apply, ht]
    rw [Op.bind_of_error hmove]
    simp [hreaches, raises_error, PyError.isValueError]

/-- What the teardown of a session whose phase is `p` raises. -/
def StoppingFails (env : Env) (c : VoiceSessionController) (p : SessionPhase) : Prop :=
  p ≠ .stopping ∧ Reaches p .stopping ∧ ObserverFails env c .stopping

lemma raises_enterStopping (hactive : c.activeSession = some ref) (request : TeardownRequest) :
    Raises (enterStopping env ref request c).2 ↔
      StoppingFails env c (c.heap ref).state.phase := by
  unfold enterStopping
  rw [Op.get_bind, StoppingFails]
  by_cases hstopping : (c.heap ref).state.phase = .stopping
  · simp [hstopping]
  · rw [if_pos hstopping, and_iff_right hstopping]
    refine raises_told fun t ht => ?_
    rw [raises_op_last (by simp), raises_notifyStatus hactive]
    simp [ht]

lemma not_raises_markTeardown (request : TeardownRequest) (c : VoiceSessionController) :
    ¬Raises (markTeardown env ref request c).2 := by
  unfold markTeardown
  rw [Op.get_bind]
  split
  · simp
  · rw [raises_op_last (by simp)]
    exact not_raises_recordTrace _ _ _ _

lemma raises_beginTeardownLocked (hactive : c.activeSession = some ref)
    (request : TeardownRequest) :
    Raises (beginTeardownLocked env (c.heap ref).sessionId request c).2 ↔
      StoppingFails env c (c.heap ref).state.phase := by
  unfold beginTeardownLocked
  rw [Op.bind_of_ok (requireActiveSession_of_active hactive), raises_op_last,
    raises_enterStopping hactive]
  intro _ c
  rw [raises_op_last fun _ _ => not_raises_ok]
  exact not_raises_markTeardown _ _

/-! ### Messages -/

/-- The messages of the page that make the controller raise, where `s` is the active session: those
it never gets to, a timestamp that is too large for an integer number of nanoseconds, and a change
of phase that the observer fails to take. -/
def FatalMessage (env : Env) (c : VoiceSessionController) (s : WakeSession) : LoopbackMessage → Prop
  | .activation _ _ _ => True
  | .sessionClosed _ _ => True
  | .timing m => Binary64.overflow * 2 ^ 1074 ≤ m.monotonicMs.scaled * 1000000
  | .pageReady _ => Reaches s.state.phase .connecting ∧ ObserverFails env c .connecting
  | .pageStarted _ => Reaches s.state.phase .live ∧ ObserverFails env c .live
  | .stop _ _ => StoppingFails env c s.state.phase
  | .teardownComplete _ => StoppingFails env c s.state.phase
  | .taskEvent _ => False

lemma raises_handleMessage (hactive : c.activeSession = some ref) {message : LoopbackMessage}
    (hevent : ∀ m, message ≠ .taskEvent m) :
    Raises (handleMessage env ref message c).2 ↔ FatalMessage env c (c.heap ref) message := by
  cases message with
  | activation => simp [handleMessage, FatalMessage, raises_error, PyError.isValueError]
  | sessionClosed => simp [handleMessage, FatalMessage, raises_error, PyError.isValueError]
  | taskEvent m => exact absurd rfl (hevent m)
  | pageReady =>
    refine raises_told fun t ht => ?_
    rw [raises_op_last (by simp), raises_notifyStatus hactive]
    simp [ht]
  | pageStarted =>
    refine raises_told fun t ht => ?_
    rw [Op.bind_of_ok (modifySession_apply _ _ _), setSession_setSession, raises_op_last (by simp),
      raises_notifyStatus hactive]
    simp [ht]
  | timing m =>
    rw [FatalMessage, ← Binary64.mulTrunc_eq_none_iff]
    simp only [handleMessage]
    rcases m.monotonicMs.mulTrunc 1000000 with _ | ns
    · simp [raises_error, PyError.isValueError]
    · dsimp only
      rw [raises_op_last (by simp)]
      exact iff_of_false (not_raises_recordTrace _ _ _ _) (by simp)
  | stop _ reason =>
    simp only [handleMessage, FatalMessage]
    rw [Op.get_bind, raises_op_last fun _ _ => not_raises_ok, raises_beginTeardownLocked hactive]
  | teardownComplete =>
    simp only [handleMessage, FatalMessage]
    rw [Op.get_bind, raises_op_last fun _ _ => not_raises_ok, raises_beginTeardownLocked hactive]

lemma not_raises_answerClosed (sessionId : String) (message : LoopbackMessage) :
    ¬Raises (answerClosed sessionId message c).2 := by
  unfold answerClosed
  rw [Op.get_bind]
  split
  · split
    · exact not_raises_ok
    · simp [raises_error, PyError.isValueError]
  · simp [raises_error, PyError.isValueError]

/-! ### Frames -/

/-- The message is addressed to the active session, or to none, while the relay belongs to it. -/
def Addressed (c : VoiceSessionController) (sessionId : String) (message : LoopbackMessage)
    (ref : ℕ) : Prop :=
  (∀ s, message.sessionId? = some s → s = sessionId) ∧ c.activeSession = some ref ∧
    (c.heap ref).sessionId = sessionId

/-- A frame that ends the relay of `sessionId`, given what the JSON reader makes of texts. -/
def Fatal (env : Env) (c : VoiceSessionController) (sessionId : String)
    (read : String → Option Json) (raw : String) : Prop :=
  (∃ json, read raw = some json ∧ FatalFrame json) ∨
    ∃ message ref, decodeFrame read raw = .ok message ∧ Addressed c sessionId message ref ∧
      FatalMessage env c (c.heap ref) message

/-- The check of the session, for a message that has been decoded. -/
lemma parse_cases (message : LoopbackMessage) (sessionId : String) :
    (∀ s, message.sessionId? = some s → s = sessionId) ∧
        parseLoopbackMessage (.ok message) sessionId = .ok message ∨
      (¬∀ s, message.sessionId? = some s → s = sessionId) ∧
        parseLoopbackMessage (.ok message) sessionId =
          .error (.valueError "session_id mismatch") := by
  rcases hid : message.sessionId? with _ | s
  · exact .inl ⟨by simp, by simp [parseLoopbackMessage, bind, Except.bind, pure, Except.pure, hid]⟩
  · by_cases hs : s = sessionId
    · exact .inl ⟨by simp [hs],
        by simp [parseLoopbackMessage, bind, Except.bind, pure, Except.pure, hid, hs]⟩
    · refine .inr ⟨by simpa using hs, ?_⟩
      simp [parseLoopbackMessage, bind, Except.bind, throw, throwThe, MonadExceptOf.throw, hid, hs]

lemma raises_addressed {sessionId : String} {message : LoopbackMessage}
    (hparse : parseLoopbackMessage (.ok message) sessionId = .ok message) :
    Raises (processControlMessage env sessionId (.ok message) c).2 ↔
      ∃ ref, (c.activeSession = some ref ∧ (c.heap ref).sessionId = sessionId) ∧
        FatalMessage env c (c.heap ref) message := by
  unfold processControlMessage
  rw [hparse, Op.bind_of_ok (Op.ofExcept_apply _ _)]
  cases message with
  | taskEvent m => simp [FatalMessage, raises_error, PyError.isValueError]
  | _ =>
    dsimp only
    rcases hactive : c.activeSession with _ | ref
    · rw [Op.get_bind, hactive]
      exact iff_of_false (not_raises_answerClosed _ _) (by simp)
    · rw [Op.get_bind, hactive]
      by_cases hid : (c.heap ref).sessionId = sessionId
      · simp only [hid, ne_eq, not_true_eq_false, if_false]
        rw [raises_handleMessage hactive (by simp)]
        simp [hid]
      · simp [hid, raises_error, PyError.isValueError]

lemma raises_processControlMessage_ok (sessionId : String) (message : LoopbackMessage) :
    Raises (processControlMessage env sessionId (.ok message) c).2 ↔
      ∃ ref, Addressed c sessionId message ref ∧ FatalMessage env c (c.heap ref) message := by
  rcases parse_cases message sessionId with ⟨hids, hparse⟩ | ⟨hids, hparse⟩
  · simp only [raises_addressed hparse, Addressed, iff_true_intro hids, true_and]
  · refine iff_of_false ?_ fun ⟨_, h, _⟩ => hids h.1
    rw [processControlMessage, hparse, Op.bind_of_error (Op.ofExcept_apply _ _)]
    simp [raises_error, PyError.isValueError]

/-- **What the page can make the critical section raise** that the relay does not handle. -/
theorem section_answered_iff (env : Env) (c : VoiceSessionController) (sessionId : String)
    (read : String → Option Json) (raw : String) :
    Answered (processControlMessage env sessionId (decodeFrame read raw) c).2 ↔
      ¬Fatal env c sessionId read raw := by
  rw [answered_iff, not_iff_not, Fatal, ← raises_decodeFrame]
  rcases decodeFrame read raw with e | message
  · have herror : processControlMessage env sessionId (.error e) c = (c, .error e) :=
      Op.bind_of_error rfl
    simp [herror, raises_error]
  · simp [raises_processControlMessage_ok]

/-! ### Frames that end the relay -/

/-- A report of the peer connection. -/
def peerState (monotonicMs state : Json) : Json :=
  .obj [("type", .str "timing"), ("session_id", .str "voice-one-01"),
    ("name", .str "peer_connection_state"), ("monotonic_ms", monotonicMs),
    ("data", .obj [("state", state)])]

/-- Texts of frames, with the JSON they are read as: a state that is a list, the time `1e308`, and
a message that is not the page's to send. -/
def deadlyFrames : List (String × Json) :=
  [("\x7b\"type\":\"timing\",\"session_id\":\"voice-one-01\",\"name\":\"peer_connection_state\"," ++
      "\"monotonic_ms\":1,\"data\":\x7b\"state\":[]\x7d\x7d", peerState (.int 1) (.arr [])),
   ("\x7b\"type\":\"timing\",\"session_id\":\"voice-one-01\",\"name\":\"peer_connection_state\"," ++
      "\"monotonic_ms\":1e308,\"data\":\x7b\"state\":\"new\"\x7d\x7d",
    peerState (.float (.finite false ⟨5010420900022432, 971, by decide, by decide, by decide⟩))
      (.str "new")),
   ("\x7b\"type\":\"session_closed\",\"session_id\":\"voice-one-01\"," ++
      "\"outcome\":\"completed\"\x7d",
    .obj [("type", .str "session_closed"), ("session_id", .str "voice-one-01"),
      ("outcome", .str "completed")])]

/-- The answer to one of them, in a session whose page has not said anything yet. -/
def answerDeadly (n : ℕ) : Except PyError ControlReply :=
  let launched := (afterActivate stillEnv (start {}) "voice-one-01" "token" 0 (some ⟨1⟩)).controller
  let raw := (deadlyFrames[n]?.map Prod.fst).getD ""
  (processControlMessage stillEnv "voice-one-01"
    (decodeFrame (fun text => deadlyFrames.lookup text) raw) launched).2

/-- The relay handles none of the three exceptions. -/
theorem frames_unanswered :
    answerDeadly 0 = .error (.typeError "unhashable type: 'list'") ∧
      answerDeadly 1 = .error .overflowError ∧
      answerDeadly 2 = .error (.runtimeError "unreachable") ∧
      ∀ n ≤ 2, ¬Answered (answerDeadly n) := by
  have htype : answerDeadly 0 = .error (.typeError "unhashable type: 'list'") := by decide +kernel
  have hoverflow : answerDeadly 1 = .error .overflowError := by decide +kernel
  have hruntime : answerDeadly 2 = .error (.runtimeError "unreachable") := by decide +kernel
  refine ⟨htype, hoverflow, hruntime, fun n hn h => ?_⟩
  obtain rfl | rfl | rfl : n = 0 ∨ n = 1 ∨ n = 2 := by omega
  · exact absurd (h _ htype) (by decide)
  · exact absurd (h _ hoverflow) (by decide)
  · exact absurd (h _ hruntime) (by decide)

end HermesRealtime.RelayFailures

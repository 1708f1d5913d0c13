import HermesRealtime.Checks
import HermesRealtime.Text

/-!
The loopback messages between the controller and the voice page, as `protocol.py` declares
them. A message that has been parsed carries its validated fields; `parseLoopbackMessage`
is the last check, that of the session it is addressed to.
-/

namespace HermesRealtime.Protocol

open Values Text Checks

inductive TimingName
  | playbackSuppressed | nextResponseFirstAudio | listeningRestored | peerConnectionState
  | iceConnectionState | iceGatheringState | dataChannelState | sdpOfferCreated
  | sdpAnswerApplied | transportFailure | realtimeResponseDone | realtimeError | pageError
  deriving DecidableEq

def TimingName.value : TimingName → String
  | .playbackSuppressed => "playback_suppressed"
  | .nextResponseFirstAudio => "next_response_first_audio"
  | .listeningRestored => "listening_restored"
  | .peerConnectionState => "peer_connection_state"
  | .iceConnectionState => "ice_connection_state"
  | .iceGatheringState => "ice_gathering_state"
  | .dataChannelState => "data_channel_state"
  | .sdpOfferCreated => "sdp_offer_created"
  | .sdpAnswerApplied => "sdp_answer_applied"
  | .transportFailure => "transport_failure"
  | .realtimeResponseDone => "realtime_response_done"
  | .realtimeError => "realtime_error"
  | .pageError => "page_error"

inductive StopReason
  | button | modelRequest | transportFailure | nativeCancel | timeout
  deriving DecidableEq

def StopReason.value : StopReason → String
  | .button => "button"
  | .modelRequest => "model_request"
  | .transportFailure => "transport_failure"
  | .nativeCancel => "native_cancel"
  | .timeout => "timeout"

inductive SessionOutcome
  | completed | failed | cancelled | timedOut
  deriving DecidableEq

def SessionOutcome.value : SessionOutcome → String
  | .completed => "completed"
  | .failed => "failed"
  | .cancelled => "cancelled"
  | .timedOut => "timed_out"

inductive TaskEventKind
  | completed | blocked | gaveUp | crashed | timedOut | blockLoopDetected
  deriving DecidableEq

def TaskEventKind.value : TaskEventKind → String
  | .completed => "completed"
  | .blocked => "blocked"
  | .gaveUp => "gave_up"
  | .crashed => "crashed"
  | .timedOut => "timed_out"
  | .blockLoopDetected => "block_loop_detected"

/-- `TaskEventKind(value)`, for a value that names a kind. -/
def TaskEventKind.ofValue? (value : String) : Option TaskEventKind :=
  [.completed, .blocked, .gaveUp, .crashed, .timedOut, .blockLoopDetected].find? fun kind =>
    kind.value = value

inductive BlockKind
  | dependency | needsInput | transient | capability
  deriving DecidableEq

def BlockKind.ofValue? : String → Option BlockKind
  | "dependency" => some .dependency
  | "needs_input" => some .needsInput
  | "transient" => some .transient
  | "capability" => some .capability
  | _ => none

def isIdChar (c : Char) : Bool := c.isAlphanum || c == '_' || c == '-'

lemma isIdChar_range {c : Char} (h : isIdChar c = true) :
    (65 ≤ c.toNat ∧ c.toNat ≤ 90) ∨ (97 ≤ c.toNat ∧ c.toNat ≤ 122) ∨
      (48 ≤ c.toNat ∧ c.toNat ≤ 57) ∨ c.toNat = 95 ∨ c.toNat = 45 := by
  simp only [isIdChar, Bool.or_eq_true, beq_iff_eq] at h
  rcases h with ((h | rfl) | rfl)
  · rcases alphanum_range h with h | h | h
    · exact .inr (.inr (.inl h))
    · exact .inl h
    · exact .inr (.inl h)
  · exact .inr (.inr (.inr (.inl rfl)))
  · exact .inr (.inr (.inr (.inr rfl)))

/-- `_validate_session_id`. -/
def validateSessionId (value : String) : Except PyError Unit :=
  let chars := value.toList
  if ¬ (12 ≤ chars.length ∧ chars.length ≤ 128 ∧ chars.all isIdChar) then
    .error (.validationError "session_id must be 12..128 chars in [A-Za-z0-9_-]")
  else
    let lowered := chars.map Char.toLower
    if "call_".toList <+: lowered ∨ "session_".toList <+: lowered then
      .error (.validationError "session_id must not be provider-looking")
    else .ok ()

structure TimingMessage where
  sessionId : String
  name : TimingName
  monotonicMs : Binary64
  data : JsonDict

structure TaskEventMessage where
  sessionId : String
  eventId : ℤ
  taskId : String
  kind : TaskEventKind
  title : String
  detail : Option String
  requiresUserInput : Bool
  blockKind : Option BlockKind
  deriving DecidableEq

/-- `TaskEventMessage._validate_bounded_text`. -/
def validateBoundedText (value : String) : Except PyError String :=
  if value.toList.any fun c => c.toNat < 32 && c != '\t' && c != '\n' then
    .error (.validationError "task event text contains control characters")
  else
    let normalized := String.ofList (joinWords value.toList)
    if normalized = "" then .error (.validationError "task event text must not be blank")
    else .ok normalized

def validateOptionalText : Option String → Except PyError (Option String)
  | none => .ok none
  | some value => (validateBoundedText value).map some

/-- The declared bounds of the fields of `TaskEventMessage`. -/
def TaskEventMessage.fieldsOk (m : TaskEventMessage) : Bool :=
  let taskId := m.taskId.toList
  decide (1 ≤ m.eventId) && decide (3 ≤ taskId.length) && decide (taskId.length ≤ 128) &&
    taskId.all isIdChar && decide (1 ≤ m.title.toList.length) &&
    decide (m.title.toList.length ≤ 160) &&
    m.detail.all fun detail => decide (detail.toList.length ≤ 400)

/-- The construction of a `TaskEventMessage`: the field bounds, the validators, the shape of
a block. -/
def TaskEventMessage.build (m : TaskEventMessage) : Except PyError TaskEventMessage := do
  validateSessionId m.sessionId
  if ¬ m.fieldsOk then throw (.validationError "task event field out of bounds")
  let title ← validateBoundedText m.title
  let detail ← validateOptionalText m.detail
  if m.kind ≠ .blocked ∧ (m.requiresUserInput ∨ m.blockKind.isSome) then
    throw (.validationError "only blocked task events may request user input")
  return { m with title, detail }

inductive LoopbackMessage
  | activation (probability detectedAt : PyFloat) (nativeListener : Bool)
  | pageReady (sessionId : String)
  | pageStarted (sessionId : String)
  | timing (message : TimingMessage)
  | stop (sessionId : String) (reason : StopReason)
  | teardownComplete (sessionId : String)
  | sessionClosed (sessionId : String) (outcome : SessionOutcome)
  | taskEvent (message : TaskEventMessage)

/-- The session a message is addressed to; only an activation has none. -/
def LoopbackMessage.sessionId? : LoopbackMessage → Option String
  | .activation _ _ _ => none
  | .pageReady s => some s
  | .pageStarted s => some s
  | .timing m => some m.sessionId
  | .stop s _ => some s
  | .teardownComplete s => some s
  | .sessionClosed s _ => some s
  | .taskEvent m => some m.sessionId

/-- `parse_loopback_message` after the frame has been decoded and validated, or has failed to
be: the message must be addressed to the expected session. -/
def parseLoopbackMessage (decoded : Except PyError LoopbackMessage) (expected : String) :
    Except PyError LoopbackMessage := do
  let parsed ← decoded
  if parsed.sessionId?.any fun s => s ≠ expected then throw (.valueError "session_id mismatch")
  return parsed

/-- A message that is accepted is the one decoded, and addressed to the expected session. -/
lemma parsed_message {decoded : Except PyError LoopbackMessage} {expected : String}
    {message : LoopbackMessage} (h : parseLoopbackMessage decoded expected = .ok message) :
    decoded = .ok message ∧ ∀ s, message.sessionId? = some s → s = expected := by
  rcases decoded with e | parsed
  · simp [parseLoopbackMessage, bind, Except.bind] at h
  · simp only [parseLoopbackMessage, bind, Except.bind] at h
    split_ifs at h with hother
    obtain rfl : parsed = message := by simpa [pure, Except.pure] using h
    refine ⟨rfl, fun s hs => ?_⟩
    simpa [hs] using hother

/-- What is checked of a task event, and what is built of it. -/
lemma build_eq_ok {m built : TaskEventMessage} : m.build = .ok built ↔
    validateSessionId m.sessionId = .ok () ∧ m.fieldsOk = true ∧
      (m.kind = .blocked ∨ m.requiresUserInput = false ∧ m.blockKind = none) ∧
      ∃ title detail, validateBoundedText m.title = .ok title ∧
        validateOptionalText m.detail = .ok detail ∧ built = { m with title, detail } := by
  have hshape : (m.kind = .blocked ∨ m.requiresUserInput = false ∧ m.blockKind = none) ↔
      ¬(m.kind ≠ .blocked ∧ (m.requiresUserInput = true ∨ m.blockKind.isSome = true)) := by
    cases m.requiresUserInput <;> cases m.blockKind <;> simp
  rw [TaskEventMessage.build, then_eq_ok, hshape]
  refine and_congr_right fun _ => ?_
  by_cases hfields : m.fieldsOk = true
  · simp only [hfields, not_true_eq_false, if_false, true_and, bind_eq_ok]
    constructor
    · rintro ⟨title, htitle, detail, hdetail, h⟩
      split_ifs at h with hbad
      · cases h
      · exact ⟨hbad, title, detail, htitle, hdetail, by cases h; rfl⟩
    · rintro ⟨hgood, title, detail, htitle, hdetail, rfl⟩
      refine ⟨title, htitle, detail, hdetail, ?_⟩
      rw [if_neg hgood]
      rfl
  · simp only [hfields, not_false_eq_true, if_true, Bool.false_eq_true, false_and, iff_false]
    intro h
    cases h

lemma build_fields {m built : TaskEventMessage} (h : m.build = .ok built) :
    built.sessionId = m.sessionId ∧ built.eventId = m.eventId ∧ built.taskId = m.taskId ∧
      built.kind = m.kind ∧ built.requiresUserInput = m.requiresUserInput := by
  obtain ⟨-, -, -, title, detail, -, -, rfl⟩ := build_eq_ok.mp h
  exact ⟨rfl, rfl, rfl, rfl, rfl⟩

lemma validateBoundedText_ne {value normalized : String}
    (h : validateBoundedText value = .ok normalized) : normalized ≠ "" := by
  simp only [validateBoundedText] at h
  split_ifs at h with hcontrol hblank
  exact Except.ok.inj h ▸ hblank

/-- What has been checked of a message that could be built. -/
lemma build_checked {m built : TaskEventMessage} (h : m.build = .ok built) :
    m.fieldsOk = true ∧ validateBoundedText m.title = .ok built.title := by
  obtain ⟨-, hfields, -, title, detail, htitle, -, rfl⟩ := build_eq_ok.mp h
  exact ⟨hfields, htitle⟩

/-! ### Task events are built once and for all -/

/-- A text that has been checked passes the check as it is. -/
lemma validateBoundedText_idem {value normalized : String}
    (h : validateBoundedText value = .ok normalized) :
    validateBoundedText normalized = .ok normalized ∧
      normalized.toList.length ≤ value.toList.length := by
  have hne := validateBoundedText_ne h
  simp only [validateBoundedText] at h
  split_ifs at h with hcontrol hblank
  cases h
  refine ⟨?_, by simpa using joinWords_length value.toList⟩
  have hplain : ((joinWords value.toList).any fun c => c.toNat < 32 && c != '\t' && c != '\n') =
      false := by
    rw [List.any_eq_false]
    intro c hc
    rcases mem_joinWords hc with rfl | hc
    · decide
    · exact fun hbad => hcontrol (List.any_eq_true.mpr ⟨c, hc, hbad⟩)
  simp only [validateBoundedText, String.toList_ofList, hplain, Bool.false_eq_true, if_false,
    joinWords_idem, hne]

lemma validateOptionalText_idem {value normalized : Option String}
    (h : validateOptionalText value = .ok normalized) :
    validateOptionalText normalized = .ok normalized ∧
      ∀ limit, (value.all fun text => decide (text.toList.length ≤ limit)) = true →
        (normalized.all fun text => decide (text.toList.length ≤ limit)) = true := by
  rcases value with _ | text
  · cases h
    exact ⟨rfl, fun _ _ => rfl⟩
  · rw [validateOptionalText] at h
    rcases htext : validateBoundedText text with e | text'
    · simp [htext, Except.map] at h
    · obtain ⟨hidem, hlength⟩ := validateBoundedText_idem htext
      rw [htext] at h
      cases h
      refine ⟨by simp [validateOptionalText, hidem, Except.map], fun limit hlimit => ?_⟩
      simp only [Option.all_some, decide_eq_true_eq] at hlimit ⊢
      omega

/-- What has been built is built of itself. -/
lemma build_idem {m built : TaskEventMessage} (h : m.build = .ok built) :
    built.build = .ok built := by
  obtain ⟨hid, hfields, hshape, title, detail, htitle, hdetail, rfl⟩ := build_eq_ok.mp h
  obtain ⟨htitle', htitleLength⟩ := validateBoundedText_idem htitle
  obtain ⟨hdetail', hdetailLength⟩ := validateOptionalText_idem hdetail
  refine build_eq_ok.mpr ⟨hid, ?_, hshape, title, detail, htitle', hdetail', rfl⟩
  have hpos : 1 ≤ title.toList.length := by
    rw [Nat.one_le_iff_ne_zero, Ne, List.length_eq_zero_iff, String.toList_eq_nil_iff]
    exact validateBoundedText_ne htitle
  simp only [TaskEventMessage.fieldsOk, Bool.and_eq_true, decide_eq_true_eq] at hfields ⊢
  obtain ⟨⟨⟨hhead, -⟩, hmax⟩, hdetailMax⟩ := hfields
  exact ⟨⟨⟨hhead, hpos⟩, htitleLength.trans hmax⟩, hdetailLength 400 hdetailMax⟩

end HermesRealtime.Protocol

import HermesRealtime.Checks
import HermesRealtime.Frames
import HermesRealtime.Operations

/-!
What a frame of the page can make `process_control_message` raise. The relay handles
`ValueError`s; any other exception ends it without closing the session.
-/

namespace HermesRealtime.Rejections

open Values Text Protocol Phases Timing Frames Checks Teardown Controller Operations

/-- Raises an exception the relay does not handle. -/
def Raises {α : Type} (r : Except PyError α) : Prop := Escapes PyError.isValueError r

variable {α β : Type}

lemma raises_error {e : PyError} : Raises (.error e : Except PyError α) ↔ e.isValueError = false :=
  escapes_error

@[simp] lemma not_raises_ok {a : α} : ¬Raises (.ok a : Except PyError α) := not_escapes_ok

@[simp] lemma not_raises_invalid {text : String} : ¬Raises (invalid text : Except PyError α) := by
  simp [Raises, invalid, PyError.isValueError]

lemma raises_bind {x : Except PyError α} {f : α → Except PyError β} :
    Raises (x >>= f) ↔ Raises x ∨ ∃ a, x = .ok a ∧ Raises (f a) := escapes_bind

lemma not_raises_bind {x : Except PyError α} {f : α → Except PyError β} (hx : ¬Raises x)
    (hf : ∀ a, ¬Raises (f a)) : ¬Raises (x >>= f) := by
  rw [raises_bind]
  rintro (h | ⟨a, -, h⟩)
  · exact hx h
  · exact hf a h

/-- A check that raises only `ValueError`s adds nothing but what it lets through. -/
lemma raises_bind_of_not {x : Except PyError α} {f : α → Except PyError β} (hx : ¬Raises x) :
    Raises (x >>= f) ↔ ∃ a, x = .ok a ∧ Raises (f a) := by
  rw [raises_bind, or_iff_right hx]

lemma raises_then {x : Except PyError Unit} {f : Unit → Except PyError β} (hx : ¬Raises x) :
    Raises (x >>= f) ↔ x = .ok () ∧ Raises (f ()) := by
  rw [raises_bind_of_not hx]
  exact ⟨fun ⟨(), h⟩ => h, fun h => ⟨(), h⟩⟩

/-! ### Timing data -/

mutual

lemma not_raises_scanNoSecrets : ∀ json : Json, ¬Raises (scanNoSecrets json)
  | .null => not_raises_ok
  | .bool _ => not_raises_ok
  | .int _ => not_raises_ok
  | .str _ => not_raises_ok
  | .float x => by
    rw [scanNoSecrets]
    split <;> simp
  | .arr items => not_raises_scanItems items
  | .obj fields => not_raises_scanFields fields

lemma not_raises_scanItems : ∀ items : List Json, ¬Raises (scanItems items)
  | [] => not_raises_ok
  | item :: items =>
    not_raises_bind (not_raises_scanNoSecrets item) fun _ => not_raises_scanItems items

lemma not_raises_scanFields : ∀ fields : JsonDict, ¬Raises (scanFields fields)
  | [] => not_raises_ok
  | (key, nested) :: fields => by
    rw [scanFields]
    split
    · exact not_raises_invalid
    · exact not_raises_bind (not_raises_scanNoSecrets nested) fun _ => not_raises_scanFields fields

end

lemma not_raises_onlyKeys (allowed : List String) (data : JsonDict) :
    ¬Raises (onlyKeys allowed data) := by
  rw [onlyKeys]
  split <;> simp

lemma not_raises_requireKeys (required : List String) (text : String) (data : JsonDict) :
    ¬Raises (requireKeys required text data) := by
  rw [requireKeys]
  split <;> simp

lemma not_raises_responseId (value : Option Json) : ¬Raises (validateProviderResponseId value) := by
  unfold validateProviderResponseId
  split
  · split <;> simp
  · exact not_raises_invalid

lemma not_raises_optionalResponseId (data : JsonDict) (field : String) :
    ¬Raises (validateOptionalResponseId data field) := by
  rw [validateOptionalResponseId]
  split
  · exact not_raises_responseId _
  · exact not_raises_ok

lemma not_raises_diagnosticText (maxLength : ℕ) (value : Json) :
    ¬Raises (validateDiagnosticText maxLength value) := by
  unfold validateDiagnosticText
  split
  · split_ifs <;> simp
  · exact not_raises_invalid

lemma not_raises_texts {check : Json → Except PyError Unit} (h : ∀ value, ¬Raises (check value)) :
    ∀ items, ¬Raises (validateTexts check items)
  | [] => not_raises_ok
  | item :: items => not_raises_bind (h item) fun _ => not_raises_texts h items

lemma not_raises_diagnosticStrings (maxItems : ℕ) (value : Option Json) :
    ¬Raises (validateDiagnosticStrings maxItems value) := by
  unfold validateDiagnosticStrings
  split
  · split
    · exact not_raises_invalid
    · exact not_raises_texts (not_raises_diagnosticText 64) _
  · exact not_raises_invalid

lemma not_raises_bool (text : String) (value : Option Json) :
    ¬Raises (validateBool text value) := by
  unfold validateBool
  split <;> simp

lemma not_raises_errorFields : ∀ fields : JsonDict, ¬Raises (validateErrorFields fields)
  | [] => not_raises_ok
  | (_, value) :: fields =>
    not_raises_bind (not_raises_diagnosticText _ value) fun _ => not_raises_errorFields fields

/-- A list or a dictionary. -/
def isContainer : Json → Bool
  | .arr _ => true
  | .obj _ => true
  | _ => false

/-- Looking something up in a set raises for a container. -/
lemma raises_inSet (allowed : List String) (value : Json) :
    Raises (inSet allowed value) ↔ isContainer value = true := by
  cases value <;> simp [inSet, isContainer, raises_error, PyError.isValueError]

/-- The field of the data that is looked up in a set. -/
def lookedUp : TimingName → Option String
  | .peerConnectionState => some "state"
  | .iceConnectionState => some "state"
  | .iceGatheringState => some "state"
  | .dataChannelState => some "state"
  | .transportFailure => some "state"
  | .pageError => some "kind"
  | .realtimeResponseDone => some "status"
  | _ => none

/-- What the data has passed when the field is looked up. -/
def PassedBefore (data : JsonDict) : TimingName → Prop
  | .pageError => onlyKeys ["kind", "message"] data = .ok () ∧ (dictGet data "message").isSome
  | .realtimeResponseDone => onlyKeys responseDoneKeys data = .ok () ∧
      (∀ key ∈ responseDoneRequired, (dictGet data key).isSome) ∧
      validateProviderResponseId (dictGet data "response_id") = .ok () ∧
      validateOptionalResponseId data "suppressed_response_id" = .ok () ∧
      validateOptionalResponseId data "pending_restore_response_id" = .ok ()
  | _ => onlyKeys ["state"] data = .ok ()

/-- The field that is looked up holds a list or a dictionary, and nothing is wrong before it. -/
def Unhashable (name : TimingName) (data : JsonDict) : Prop :=
  scanNoSecrets (.obj data) = .ok () ∧ PassedBefore data name ∧
    ∃ key value, lookedUp name = some key ∧ dictGet data key = some value ∧
      isContainer value = true

lemma raises_state {allowed : List String} {text : String} {data : JsonDict} :
    Raises (validateState allowed text data) ↔ onlyKeys ["state"] data = .ok () ∧
      ∃ value, dictGet data "state" = some value ∧ isContainer value = true := by
  rw [validateState, raises_then (not_raises_onlyKeys _ _)]
  refine and_congr_right fun _ => ?_
  rcases dictGet data "state" with _ | value
  · simp
  · have hrest (found : Bool) :
        ¬Raises (if found = true then .ok () else invalid text : Except PyError Unit) := by
      split <;> simp
    simp only [raises_bind, raises_inSet, Option.some.injEq, exists_eq_left', or_iff_left_iff_imp]
    rintro ⟨found, -, h⟩
    exact absurd h (hrest found)

lemma raises_pageError {data : JsonDict} : Raises (validatePageError data) ↔
    (onlyKeys ["kind", "message"] data = .ok () ∧ (dictGet data "message").isSome) ∧
      ∃ value, dictGet data "kind" = some value ∧ isContainer value = true := by
  rw [validatePageError, raises_then (not_raises_onlyKeys _ _), and_assoc]
  refine and_congr_right fun _ => ?_
  rcases dictGet data "kind" with _ | kind <;> rcases dictGet data "message" with _ | message
  · simp
  · simp
  · simp
  · simp only [raises_bind, raises_inSet, Option.some.injEq, exists_eq_left', Option.isSome_some,
      true_and, or_iff_left_iff_imp]
    rintro ⟨found, -, h⟩
    refine absurd h ?_
    cases found
    · simp
    · cases message <;> simp
      split <;> simp

lemma requireKeys_eq_ok {required : List String} {text : String} {data : JsonDict} :
    requireKeys required text data = .ok () ↔ ∀ key ∈ required, (dictGet data key).isSome := by
  rw [requireKeys, invalid, ite_ok_eq_ok, List.all_eq_true]

lemma raises_responseDone {data : JsonDict} : Raises (validateResponseDone data) ↔
    PassedBefore data .realtimeResponseDone ∧
      ∃ value, dictGet data "status" = some value ∧ isContainer value = true := by
  have hstatus (hrequired : ∀ key ∈ responseDoneRequired, (dictGet data key).isSome) :
      Raises (do
        if ← inSet responseStatuses ((dictGet data "status").getD .null) then
          validateDiagnosticStrings 16 (dictGet data "output_types")
          validateBool "remote_audio_muted must be a bool" (dictGet data "remote_audio_muted")
        else invalid "invalid realtime response status") ↔
      ∃ value, dictGet data "status" = some value ∧ isContainer value = true := by
    obtain ⟨status, hget⟩ := Option.isSome_iff_exists.mp (hrequired "status" (by decide))
    rw [hget, raises_bind, raises_inSet]
    simp only [Option.getD_some, Option.some.injEq, exists_eq_left', or_iff_left_iff_imp]
    rintro ⟨found, -, h⟩
    refine absurd h ?_
    cases found
    · simp
    · exact not_raises_bind (not_raises_diagnosticStrings _ _) fun _ => not_raises_bool _ _
  rw [validateResponseDone, raises_then (not_raises_onlyKeys _ _),
    raises_then (not_raises_requireKeys _ _ _), raises_then (not_raises_responseId _),
    raises_then (not_raises_optionalResponseId _ _),
    raises_then (not_raises_optionalResponseId _ _), requireKeys_eq_ok, PassedBefore]
  constructor
  · rintro ⟨honly, hrequired, hid, hsuppressed, hpending, h⟩
    exact ⟨⟨honly, hrequired, hid, hsuppressed, hpending⟩, (hstatus hrequired).mp h⟩
  · rintro ⟨⟨honly, hrequired, hid, hsuppressed, hpending⟩, h⟩
    exact ⟨honly, hrequired, hid, hsuppressed, hpending, (hstatus hrequired).mpr h⟩

/-- The other names look nothing up. -/
lemma not_raises_rest (data : JsonDict) : ¬Raises (validatePlaybackSuppressed data) ∧
    ¬Raises (validateResponseIds data) ∧ ¬Raises (validateSdpHash data) ∧
    ¬Raises (validateRealtimeError data) := by
  refine ⟨?_, ?_, ?_, ?_⟩
  · rw [validatePlaybackSuppressed]
    refine not_raises_bind (not_raises_onlyKeys _ _) fun _ => ?_
    dsimp only
    split
    · exact not_raises_bind (not_raises_bool _ _) fun _ => not_raises_optionalResponseId _ _
    · exact not_raises_optionalResponseId _ _
  · exact not_raises_bind (not_raises_onlyKeys _ _) fun _ => not_raises_bind
      (not_raises_requireKeys _ _ _) fun _ => not_raises_bind (not_raises_responseId _) fun _ =>
        not_raises_responseId _
  · refine not_raises_bind (not_raises_onlyKeys _ _) fun _ => ?_
    split
    · exact not_raises_ok
    · split <;> simp
    · exact not_raises_invalid
  · refine not_raises_bind (not_raises_onlyKeys _ _) fun _ => ?_
    split
    · exact not_raises_invalid
    · exact not_raises_errorFields data

/-- **Timing data raises exactly if it is unhashable where a string is looked up.** -/
lemma raises_timingData (name : TimingName) (data : JsonDict) :
    Raises (validateTimingMessageData name data) ↔ Unhashable name data := by
  obtain ⟨hsuppressed, hids, hsdp, herror⟩ := not_raises_rest data
  rw [validateTimingMessageData, raises_then (not_raises_scanNoSecrets _), Unhashable]
  cases name <;> simp [validateTimingData, lookedUp, PassedBefore, raises_state, raises_pageError,
    raises_responseDone, hsuppressed, hids, hsdp, herror]

/-! ### Frames -/

lemma not_raises_memberOf {members : List α} {value : α → String} {text : String}
    (json : Option Json) : ¬Raises (memberOf members value text json) := by
  unfold memberOf
  split
  · split <;> simp
  · exact not_raises_invalid

lemma not_raises_strField (fields : JsonDict) (key : String) : ¬Raises (strField fields key) := by
  unfold strField
  split <;> simp

lemma not_raises_boolField (text : String) (value : Option Json) :
    ¬Raises (boolField text value) := by
  unfold boolField
  split <;> simp

lemma not_raises_sessionId (value : String) : ¬Raises (validateSessionId value) := by
  unfold validateSessionId
  dsimp only
  split
  · exact not_raises_invalid
  · split
    · exact not_raises_invalid
    · exact not_raises_ok

lemma not_raises_sessionField (fields : JsonDict) : ¬Raises (sessionField fields) :=
  not_raises_bind (not_raises_strField _ _) fun _ =>
    not_raises_bind (not_raises_sessionId _) fun _ => not_raises_ok

lemma not_raises_finiteFloat (field : String) (value : Option Json) :
    ¬Raises (finiteFloat field value) := by
  unfold finiteFloat
  split
  · split <;> simp
  · exact not_raises_invalid

lemma not_raises_dataField (value : Option Json) : ¬Raises (dataField value) := by
  unfold dataField
  split <;> simp

lemma not_raises_activation (fields : JsonDict) : ¬Raises (validateActivation fields) := by
  refine not_raises_bind (not_raises_finiteFloat _ _) fun _ => not_raises_bind
    (not_raises_finiteFloat _ _) fun _ => not_raises_bind (not_raises_boolField _ _) fun _ =>
      not_raises_bind (not_raises_onlyKeys _ _) fun _ => ?_
  split
  · exact not_raises_invalid
  · split
    · exact not_raises_invalid
    · exact not_raises_ok

lemma not_raises_bare (make : String → LoopbackMessage) (fields : JsonDict) :
    ¬Raises (validateBare make fields) :=
  not_raises_bind (not_raises_sessionField _) fun _ =>
    not_raises_bind (not_raises_onlyKeys _ _) fun _ => not_raises_ok

lemma not_raises_stop (fields : JsonDict) : ¬Raises (validateStop fields) :=
  not_raises_bind (not_raises_sessionField _) fun _ => not_raises_bind (not_raises_memberOf _)
    fun _ => not_raises_bind (not_raises_onlyKeys _ _) fun _ => not_raises_ok

lemma not_raises_sessionClosed (fields : JsonDict) : ¬Raises (validateSessionClosed fields) :=
  not_raises_bind (not_raises_sessionField _) fun _ => not_raises_bind (not_raises_memberOf _)
    fun _ => not_raises_bind (not_raises_onlyKeys _ _) fun _ => not_raises_ok

lemma not_raises_boundedText (value : String) : ¬Raises (validateBoundedText value) := by
  unfold validateBoundedText
  dsimp only
  split
  · exact not_raises_invalid
  · split
    · exact not_raises_invalid
    · exact not_raises_ok

lemma not_raises_map {x : Except PyError α} {f : α → β} (h : ¬Raises x) : ¬Raises (x.map f) := by
  rcases x with e | a
  · simpa [Except.map, raises_error] using h
  · exact not_raises_ok

lemma not_raises_optionalText (value : Option String) : ¬Raises (validateOptionalText value) := by
  rcases value with _ | value
  · exact not_raises_ok
  · exact not_raises_map (not_raises_boundedText value)

lemma not_raises_build (m : TaskEventMessage) : ¬Raises m.build := by
  rw [TaskEventMessage.build]
  refine not_raises_bind (not_raises_sessionId _) fun _ => ?_
  dsimp only
  split
  · exact not_raises_invalid
  · refine not_raises_bind (not_raises_boundedText _) fun _ => not_raises_bind
      (not_raises_optionalText _) fun _ => ?_
    split
    · exact not_raises_invalid
    · exact not_raises_ok

lemma not_raises_optionalBlockKind (value : Option Json) :
    ¬Raises (optionalBlockKind value) := by
  unfold optionalBlockKind
  split
  · exact not_raises_ok
  · exact not_raises_ok
  · exact not_raises_map (not_raises_memberOf _)

lemma not_raises_intField (value : Option Json) : ¬Raises (intField value) := by
  unfold intField
  split <;> simp

lemma not_raises_optionalStr (value : Option Json) : ¬Raises (optionalStr value) := by
  unfold optionalStr
  split <;> simp

lemma not_raises_taskEvent (fields : JsonDict) : ¬Raises (validateTaskEvent fields) := by
  refine not_raises_bind (not_raises_strField _ _) fun _ => ?_
  refine not_raises_bind (not_raises_intField _) fun _ => ?_
  refine not_raises_bind (not_raises_strField _ _) fun _ => ?_
  refine not_raises_bind (not_raises_memberOf _) fun _ => ?_
  refine not_raises_bind (not_raises_strField _ _) fun _ => ?_
  refine not_raises_bind (not_raises_optionalStr _) fun _ => ?_
  refine not_raises_bind (not_raises_boolField _ _) fun _ => ?_
  refine not_raises_bind (not_raises_optionalBlockKind _) fun _ => ?_
  refine not_raises_bind (not_raises_onlyKeys _ _) fun _ => ?_
  exact not_raises_bind (not_raises_build _) fun _ => not_raises_ok

/-- An integer that no float is near to. -/
def TooLarge (value : Option Json) : Prop :=
  ∃ z, value = some (.int z) ∧ Binary64.overflow ≤ z.natAbs

lemma tooLarge_int {z : ℤ} :
    TooLarge (some (.int z)) ↔ Binary64.ofNat? z.natAbs = none := by
  rw [← Option.not_isSome_iff_eq_none, Binary64.ofNat?_isSome_iff, not_lt]
  exact ⟨fun ⟨_, h, hlarge⟩ => by cases h; exact hlarge, fun h => ⟨z, rfl, h⟩⟩

lemma not_tooLarge {value : Option Json} (h : ∀ z, value ≠ some (.int z)) : ¬TooLarge value :=
  fun ⟨z, hz, _⟩ => h z hz

/-- The one exception of the timestamp that is no `ValueError`. -/
lemma monotonicMs_cases (value : Option Json) :
    TooLarge value ∧ validateMonotonicMs value = .error .overflowError ∨
      ¬TooLarge value ∧ ¬Raises (validateMonotonicMs value) := by
  unfold validateMonotonicMs
  split
  · rw [tooLarge_int]
    split
    · exact .inl ⟨‹_›, rfl⟩
    · refine .inr ⟨by simp_all, ?_⟩
      split <;> simp
  · refine .inr ⟨not_tooLarge (by simp), ?_⟩
    split <;> simp
  · exact .inr ⟨not_tooLarge (by simp), not_raises_invalid⟩
  · rename_i hint _ _
    exact .inr ⟨not_tooLarge hint, not_raises_invalid⟩

/-- The fields of a `timing` frame that make a validator raise: a timestamp that is too large, or
data that is unhashable where all fields are valid. -/
def FatalFields (fields : JsonDict) : Prop :=
  TooLarge (dictGet fields "monotonic_ms") ∨
    ∃ sessionId name monotonicMs data, sessionField fields = .ok sessionId ∧
      memberOf timingNames TimingName.value "not a valid TimingName" (dictGet fields "name") =
        .ok name ∧
      validateMonotonicMs (dictGet fields "monotonic_ms") = .ok monotonicMs ∧
      dataField (dictGet fields "data") = .ok data ∧
      onlyKeys ["type", "session_id", "name", "monotonic_ms", "data"] fields = .ok () ∧
      Unhashable name data

lemma raises_timing (fields : JsonDict) : Raises (validateTiming fields) ↔ FatalFields fields := by
  rw [validateTiming, FatalFields]
  rcases monotonicMs_cases (dictGet fields "monotonic_ms") with ⟨hlarge, heq⟩ | ⟨hlarge, hraises⟩
  · rw [heq]
    exact iff_of_true (raises_error.mpr rfl) (.inl hlarge)
  · split
    · rename_i heq
      exact absurd (heq ▸ raises_error.mpr rfl) hraises
    · rw [or_iff_right hlarge, raises_bind_of_not (not_raises_sessionField _)]
      simp only [raises_bind_of_not (not_raises_memberOf _), raises_bind_of_not hraises,
        raises_bind_of_not (not_raises_dataField _), raises_then (not_raises_onlyKeys _ _)]
      simp only [raises_bind, raises_timingData, pure, Except.pure, not_raises_ok, and_false,
        exists_false, or_false]
      constructor
      · rintro ⟨sessionId, hsession, name, hname, monotonicMs, hms, data, hdata, honly, h⟩
        exact ⟨sessionId, name, monotonicMs, data, hsession, hname, hms, hdata, honly, h⟩
      · rintro ⟨sessionId, name, monotonicMs, data, hsession, hname, hms, hdata, honly, h⟩
        exact ⟨sessionId, hsession, name, hname, monotonicMs, hms, data, hdata, honly, h⟩

/-- A frame with such fields. -/
def FatalFrame : Json → Prop
  | .obj fields => dictGet fields "type" = some (.str "timing") ∧ FatalFields fields
  | _ => False

lemma raises_validateMessage (json : Json) : Raises (validateMessage json) ↔ FatalFrame json := by
  unfold validateMessage
  split
  · rename_i fields
    rw [FatalFrame]
    split
    · rename_i tag htag
      by_cases htiming : tag = "timing"
      · subst htiming
        simp [raises_timing, htag]
      · refine iff_of_false ?_ fun h => htiming (by simpa [htag] using h.1)
        rw [if_neg htiming]
        split_ifs
        · exact not_raises_activation _
        · exact not_raises_bare _ _
        · exact not_raises_bare _ _
        · exact not_raises_stop _
        · exact not_raises_bare _ _
        · exact not_raises_sessionClosed _
        · exact not_raises_taskEvent _
        · exact not_raises_invalid
    · rename_i hother
      exact iff_of_false not_raises_invalid fun h => hother _ h.1
  · rename_i hother
    refine iff_of_false not_raises_invalid fun h => ?_
    cases json with
    | obj fields => exact hother fields rfl
    | _ => exact h

/-- **What a frame raises**, whatever the JSON reader makes of its text. -/
lemma raises_decodeFrame (read : String → Option Json) (raw : String) :
    Raises (decodeFrame read raw) ↔ ∃ json, read raw = some json ∧ FatalFrame json := by
  rw [decodeFrame]
  rcases read raw with _ | json
  · simp
  · simp [raises_validateMessage]

end HermesRealtime.Rejections

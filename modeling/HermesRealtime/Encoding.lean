import HermesRealtime.PageTiming
import HermesRealtime.RelayFailures
import HermesRealtime.Sanitizing
import Mathlib.Data.List.Perm.Basic

/-!
The round trip of a message: `encode_loopback_message` writes the fields of a message in the order
of their keys, and `parse_loopback_message` reads the message back, but for the order of the keys of
timing data.
-/

namespace HermesRealtime.Encoding

open Values Text Protocol Documents Frames Checks Rejections

/-! ### Objects with sorted keys -/

mutual

/-- `sort_keys=True`. -/
def sortKeys : Json → Json
  | .arr items => .arr (sortItems items)
  | .obj fields => .obj ((sortValues fields).mergeSort fun a b => a.1 ≤ b.1)
  | value => value

def sortItems : List Json → List Json
  | [] => []
  | item :: items => sortKeys item :: sortItems items

def sortValues : JsonDict → JsonDict
  | [] => []
  | (key, value) :: fields => (key, sortKeys value) :: sortValues fields

end

/-- The value has no object in it that sorting could change. -/
def Plain (value : Json) : Prop := sortKeys value = value

lemma plain_of_scalar {value : Json} (h : isContainer value = false) : Plain value := by
  cases value with
  | arr => cases h
  | obj => cases h
  | _ => rfl

lemma plain_arr {items : List Json} (h : ∀ item ∈ items, Plain item) : Plain (.arr items) := by
  have hitems : sortItems items = items := by
    induction items with
    | nil => rfl
    | cons item items ih =>
      rw [sortItems, ih fun i hi => h i (by simp [hi]), h item (by simp)]
  rw [Plain, sortKeys, hitems]

lemma sortValues_plain {fields : JsonDict} (h : ∀ field ∈ fields, Plain field.2) :
    sortValues fields = fields := by
  induction fields with
  | nil => rfl
  | cons field fields ih =>
    obtain ⟨key, value⟩ := field
    have hvalue : sortKeys value = value := h (key, value) (by simp)
    rw [sortValues, ih fun f hf => h f (by simp [hf]), hvalue]

@[simp] lemma sortValues_keys (fields : JsonDict) :
    (sortValues fields).map Prod.fst = fields.map Prod.fst := by
  induction fields with
  | nil => rfl
  | cons field fields ih => simp [sortValues, ih]

/-- The keys are distinct, as those of a dictionary. -/
def Distinct (data : JsonDict) : Prop := (data.map Prod.fst).Nodup

lemma dictGet_eq_some_iff {data : JsonDict} (h : Distinct data) {key : String} {value : Json} :
    dictGet data key = some value ↔ (key, value) ∈ data := by
  induction data with
  | nil => simp [dictGet]
  | cons field data ih =>
    obtain ⟨key', value'⟩ := field
    obtain ⟨hnew, hrest⟩ : key' ∉ data.map Prod.fst ∧ Distinct data := by
      simpa [Distinct, List.nodup_cons] using h
    have ih := ih hrest
    by_cases hkey : key' = key
    · subst hkey
      have hnot : (key', value) ∉ data := fun hmem => hnew (List.mem_map.mpr ⟨_, hmem, rfl⟩)
      simp [dictGet, hnot, eq_comm]
    · have hcons : dictGet ((key', value') :: data) key = dictGet data key := by
        simp [dictGet, hkey]
      rw [hcons, ih]
      simp [Ne.symm hkey]

lemma dictGet_perm {data data' : JsonDict} (h : Distinct data) (hperm : data.Perm data') :
    dictGet data = dictGet data' := by
  have h' : Distinct data' := (hperm.map Prod.fst).nodup_iff.mp h
  funext key
  refine Option.ext fun value => ?_
  rw [dictGet_eq_some_iff h, dictGet_eq_some_iff h', hperm.mem_iff]

lemma onlyKeys_perm {data data' : JsonDict} (hperm : data.Perm data') (allowed : List String) :
    onlyKeys allowed data = onlyKeys allowed data' := by
  rw [onlyKeys, onlyKeys, hperm.all_eq]

/-! ### Timing data in another order -/

lemma scanFields_eq_ok {data : JsonDict} : scanFields data = .ok () ↔
    ∀ field ∈ data, containsSecretKey field.1 = false ∧ scanNoSecrets field.2 = .ok () := by
  induction data with
  | nil => simp [scanFields]
  | cons field data ih =>
    obtain ⟨key, value⟩ := field
    rw [scanFields]
    cases hkey : containsSecretKey key with
    | true => simp [hkey, invalid]
    | false => simp [then_eq_ok, hkey, ih]

lemma validateErrorFields_eq_ok {data : JsonDict} : validateErrorFields data = .ok () ↔
    ∀ field ∈ data, validateDiagnosticText (if field.1 = "message" then 512 else 128) field.2 =
      .ok () := by
  induction data with
  | nil => simp [validateErrorFields]
  | cons field data ih =>
    obtain ⟨key, value⟩ := field
    simp [validateErrorFields, then_eq_ok, ih]

lemma validateTimingData_perm {data data' : JsonDict} (h : Distinct data)
    (hperm : data.Perm data') (name : TimingName) (hok : validateTimingData name data = .ok ()) :
    validateTimingData name data' = .ok () := by
  have hget := dictGet_perm h hperm
  have honly := onlyKeys_perm hperm
  have hstate (allowed : List String) (text : String) :
      validateState allowed text data = validateState allowed text data' := by
    simp only [validateState, honly, hget]
  have hids : validateResponseIds data = validateResponseIds data' := by
    simp only [validateResponseIds, requireKeys, honly, hget]
  have hsdp : validateSdpHash data = validateSdpHash data' := by
    simp only [validateSdpHash, honly, hget]
  cases name with
  | playbackSuppressed =>
    rw [← hok]
    simp only [validateTimingData, validatePlaybackSuppressed, validateOptionalResponseId, honly,
      hget]
  | nextResponseFirstAudio => exact hids.symm.trans hok
  | listeningRestored => exact hids.symm.trans hok
  | peerConnectionState => exact (hstate _ _).symm.trans hok
  | iceConnectionState => exact (hstate _ _).symm.trans hok
  | iceGatheringState => exact (hstate _ _).symm.trans hok
  | dataChannelState => exact (hstate _ _).symm.trans hok
  | sdpOfferCreated => exact hsdp.symm.trans hok
  | sdpAnswerApplied => exact hsdp.symm.trans hok
  | transportFailure => exact (hstate _ _).symm.trans hok
  | realtimeResponseDone =>
    rw [← hok]
    simp only [validateTimingData, validateResponseDone, requireKeys, validateOptionalResponseId,
      honly, hget]
  | realtimeError =>
    simp only [validateTimingData, validateRealtimeError, then_eq_ok] at hok ⊢
    obtain ⟨hkeys, hfields⟩ := hok
    refine ⟨(honly _).symm.trans hkeys, ?_⟩
    have hempty : data'.isEmpty = data.isEmpty := by
      rw [Bool.eq_iff_iff, List.isEmpty_iff, List.isEmpty_iff, ← List.length_eq_zero_iff,
        ← List.length_eq_zero_iff, hperm.length_eq]
    rw [hempty]
    split_ifs at hfields ⊢
    · exact hfields
    · rw [validateErrorFields_eq_ok] at hfields ⊢
      exact fun field hfield => hfields field (hperm.mem_iff.mpr hfield)
  | pageError =>
    rw [← hok]
    simp only [validateTimingData, validatePageError, honly, hget]

/-- **The order of the keys of timing data does not matter.** -/
lemma validateTimingMessageData_perm {data data' : JsonDict} (h : Distinct data)
    (hperm : data.Perm data') {name : TimingName}
    (hok : validateTimingMessageData name data = .ok ()) :
    validateTimingMessageData name data' = .ok () := by
  simp only [validateTimingMessageData, then_eq_ok] at hok ⊢
  obtain ⟨hscan, hdata⟩ := hok
  refine ⟨?_, validateTimingData_perm h hperm name hdata⟩
  rw [scanNoSecrets, scanFields_eq_ok] at hscan ⊢
  exact fun field hfield => hscan field (hperm.mem_iff.mpr hfield)

/-! ### Timing data is plain -/

lemma plain_of_inSet {allowed : List String} {value : Json} {found : Bool}
    (h : inSet allowed value = .ok found) : Plain value := by
  refine plain_of_scalar ?_
  by_contra hcontainer
  have hraises := (raises_inSet allowed value).mpr (Bool.not_eq_false _ ▸ hcontainer)
  rw [h] at hraises
  exact not_raises_ok hraises

lemma plain_of_bool {text : String} {value : Json} (h : validateBool text (some value) = .ok ()) :
    Plain value := by
  unfold validateBool at h
  split at h
  · rename_i heq
    cases heq
    rfl
  · cases h

lemma plain_of_responseId {value : Json}
    (h : validateProviderResponseId (some value) = .ok ()) : Plain value := by
  unfold validateProviderResponseId at h
  split at h
  · rename_i heq
    cases heq
    rfl
  · cases h

lemma plain_of_optionalResponseId {data : JsonDict} {key : String} {value : Json}
    (h : validateOptionalResponseId data key = .ok ()) (hget : dictGet data key = some value) :
    Plain value := by
  rw [validateOptionalResponseId, hget] at h
  exact plain_of_responseId h

lemma plain_of_diagnosticText {maxLength : ℕ} {value : Json}
    (h : validateDiagnosticText maxLength value = .ok ()) : Plain value := by
  cases value with
  | str s => rfl
  | _ => cases h

lemma plain_of_texts {check : Json → Except PyError Unit}
    (hcheck : ∀ value, check value = .ok () → Plain value) : ∀ {items : List Json},
      validateTexts check items = .ok () → ∀ item ∈ items, Plain item
  | [], _ => by simp
  | item :: items, h => by
    rw [validateTexts, then_eq_ok] at h
    simpa using ⟨hcheck item h.1, plain_of_texts hcheck h.2⟩

lemma plain_of_diagnosticStrings {maxItems : ℕ} {value : Json}
    (h : validateDiagnosticStrings maxItems (some value) = .ok ()) : Plain value := by
  unfold validateDiagnosticStrings at h
  split at h
  · rename_i heq
    cases heq
    split_ifs at h
    · cases h
    · exact plain_arr (plain_of_texts (fun _ => plain_of_diagnosticText) h)
  · cases h

/-- All keys are allowed, and what stands under an allowed key is plain. -/
lemma plain_of_keys {data : JsonDict} (hdistinct : Distinct data) {allowed : List String}
    (honly : onlyKeys allowed data = .ok ())
    (h : ∀ key ∈ allowed, ∀ value, dictGet data key = some value → Plain value) :
    ∀ field ∈ data, Plain field.2 := by
  rintro ⟨key, value⟩ hfield
  rw [onlyKeys, invalid, ite_ok_eq_ok, List.all_eq_true] at honly
  have hkey : key ∈ allowed := by simpa using honly (key, value) hfield
  exact h key hkey value ((dictGet_eq_some_iff hdistinct).mpr hfield)

section

variable {data : JsonDict} (hdistinct : Distinct data)

include hdistinct

lemma plain_state {allowed : List String} {text : String}
    (h : validateState allowed text data = .ok ()) : ∀ field ∈ data, Plain field.2 := by
  rw [validateState, then_eq_ok] at h
  refine plain_of_keys hdistinct h.1 fun key hkey value hget => ?_
  obtain rfl : key = "state" := by simpa using hkey
  have hvalue := h.2
  simp only [hget, bind_eq_ok] at hvalue
  obtain ⟨found, hfound, -⟩ := hvalue
  exact plain_of_inSet hfound

lemma plain_responseIds (h : validateResponseIds data = .ok ()) :
    ∀ field ∈ data, Plain field.2 := by
  simp only [validateResponseIds, then_eq_ok] at h
  obtain ⟨honly, -, hid, hinterrupted⟩ := h
  refine plain_of_keys hdistinct honly fun key hkey value hget => ?_
  obtain rfl | rfl : key = "response_id" ∨ key = "interrupted_response_id" := by simpa using hkey
  · exact plain_of_responseId (hget ▸ hid)
  · exact plain_of_responseId (hget ▸ hinterrupted)

lemma plain_playbackSuppressed (h : validatePlaybackSuppressed data = .ok ()) :
    ∀ field ∈ data, Plain field.2 := by
  rw [validatePlaybackSuppressed, then_eq_ok] at h
  obtain ⟨honly, h⟩ := h
  refine plain_of_keys hdistinct honly fun key hkey value hget => ?_
  obtain rfl | rfl : key = "suppressed" ∨ key = "response_id" := by simpa using hkey
  · rw [hget] at h
    simp only [Option.isSome_some, if_true, then_eq_ok] at h
    exact plain_of_bool h.1
  · dsimp only at h
    split_ifs at h
    · rw [then_eq_ok] at h
      exact plain_of_optionalResponseId h.2 hget
    · exact plain_of_optionalResponseId h hget

lemma plain_sdpHash (h : validateSdpHash data = .ok ()) : ∀ field ∈ data, Plain field.2 := by
  rw [validateSdpHash, then_eq_ok] at h
  refine plain_of_keys hdistinct h.1 fun key hkey value hget => ?_
  obtain rfl : key = "sdp_hash" := by simpa using hkey
  have hvalue := h.2
  rw [hget] at hvalue
  cases value with
  | str s => rfl
  | _ => cases hvalue

lemma plain_pageError (h : validatePageError data = .ok ()) : ∀ field ∈ data, Plain field.2 := by
  rw [validatePageError, then_eq_ok] at h
  obtain ⟨honly, h⟩ := h
  rcases hkind : dictGet data "kind" with _ | kind
  · simp [hkind, invalid] at h
  rcases hmessage : dictGet data "message" with _ | message
  · simp [hkind, hmessage, invalid] at h
  simp only [hkind, hmessage, bind_eq_ok] at h
  obtain ⟨found, hfound, h⟩ := h
  refine plain_of_keys hdistinct honly fun key hkey value hget => ?_
  obtain rfl | rfl : key = "kind" ∨ key = "message" := by simpa using hkey
  · rw [hkind] at hget
    cases hget
    exact plain_of_inSet hfound
  · rw [hmessage] at hget
    cases hget
    split_ifs at h
    · cases message with
      | str s => rfl
      | _ => cases h
    · cases h

lemma plain_responseDone (h : validateResponseDone data = .ok ()) :
    ∀ field ∈ data, Plain field.2 := by
  rw [validateResponseDone, then_eq_ok, then_eq_ok, then_eq_ok, then_eq_ok, then_eq_ok,
    bind_eq_ok] at h
  obtain ⟨honly, -, hid, hsuppressed, hpending, found, hstatus, h⟩ := h
  split_ifs at h
  · rw [then_eq_ok] at h
    refine plain_of_keys hdistinct honly fun key hkey value hget => ?_
    simp only [responseDoneKeys, List.mem_cons, List.not_mem_nil, or_false] at hkey
    rcases hkey with rfl | rfl | rfl | rfl | rfl | rfl
    · exact plain_of_responseId (hget ▸ hid)
    · rw [hget] at hstatus
      exact plain_of_inSet hstatus
    · exact plain_of_diagnosticStrings (hget ▸ h.1)
    · exact plain_of_optionalResponseId hsuppressed hget
    · exact plain_of_optionalResponseId hpending hget
    · exact plain_of_bool (hget ▸ h.2)
  · cases h

omit hdistinct in
lemma plain_realtimeError (h : validateRealtimeError data = .ok ()) :
    ∀ field ∈ data, Plain field.2 := by
  rw [validateRealtimeError, then_eq_ok] at h
  have hfields := h.2
  split_ifs at hfields
  · cases hfields
  · rw [validateErrorFields_eq_ok] at hfields
    exact fun field hfield => plain_of_diagnosticText (hfields field hfield)

/-- Timing data that is accepted has no objects in it. -/
lemma plain_timingData {name : TimingName} (h : validateTimingMessageData name data = .ok ()) :
    ∀ field ∈ data, Plain field.2 := by
  rw [validateTimingMessageData, then_eq_ok] at h
  have hdata := h.2
  cases name with
  | playbackSuppressed => exact plain_playbackSuppressed hdistinct hdata
  | nextResponseFirstAudio => exact plain_responseIds hdistinct hdata
  | listeningRestored => exact plain_responseIds hdistinct hdata
  | peerConnectionState => exact plain_state hdistinct hdata
  | iceConnectionState => exact plain_state hdistinct hdata
  | iceGatheringState => exact plain_state hdistinct hdata
  | dataChannelState => exact plain_state hdistinct hdata
  | sdpOfferCreated => exact plain_sdpHash hdistinct hdata
  | sdpAnswerApplied => exact plain_sdpHash hdistinct hdata
  | transportFailure => exact plain_state hdistinct hdata
  | realtimeResponseDone => exact plain_responseDone hdistinct hdata
  | realtimeError => exact plain_realtimeError hdata
  | pageError => exact plain_pageError hdistinct hdata

end

/-! ### Messages -/

/-- What the models of `protocol.py` have checked of a message: only valid messages can be made. -/
def Valid : LoopbackMessage → Prop
  | .activation probability detectedAt _ => probability.isFinite = true ∧
      isProbability probability = true ∧ detectedAt.isFinite = true ∧ isPositive detectedAt = true
  | .pageReady sessionId => validateSessionId sessionId = .ok ()
  | .pageStarted sessionId => validateSessionId sessionId = .ok ()
  | .timing m => validateSessionId m.sessionId = .ok () ∧ Distinct m.data ∧
      validateTimingMessageData m.name m.data = .ok ()
  | .stop sessionId _ => validateSessionId sessionId = .ok ()
  | .teardownComplete sessionId => validateSessionId sessionId = .ok ()
  | .sessionClosed sessionId _ => validateSessionId sessionId = .ok ()
  | .taskEvent m => ∃ raw : TaskEventMessage, raw.build = .ok m

lemma session_valid {fields : JsonDict} {sessionId : String}
    (h : sessionField fields = .ok sessionId) : validateSessionId sessionId = .ok () := by
  simp only [sessionField, bind_eq_ok] at h
  obtain ⟨s, -, ⟨⟩, hs, h⟩ := h
  cases h
  exact hs

lemma float_finite {field : String} {value : Option Json} {x : PyFloat}
    (h : finiteFloat field value = .ok x) : x.isFinite = true := by
  unfold finiteFloat at h
  split at h
  · split_ifs at h with hfinite
    · cases h
      exact hfinite
    · cases h
  · cases h

lemma bare_valid {make : String → LoopbackMessage} {fields : JsonDict} {m : LoopbackMessage}
    (h : validateBare make fields = .ok m) :
    ∃ sessionId, m = make sessionId ∧ validateSessionId sessionId = .ok () := by
  simp only [validateBare, bind_eq_ok] at h
  obtain ⟨sessionId, hsession, ⟨⟩, -, h⟩ := h
  cases h
  exact ⟨sessionId, rfl, session_valid hsession⟩

/-- What is accepted is valid, where the timing data is a dictionary. -/
theorem validateMessage_valid {fields : JsonDict} {m : LoopbackMessage}
    (h : validateMessage (.obj fields) = .ok m)
    (hdata : ∀ data, dictGet fields "data" = some (.obj data) → Distinct data) : Valid m := by
  simp only [validateMessage] at h
  split at h
  · split_ifs at h
    · simp only [validateActivation, bind_eq_ok] at h
      obtain ⟨probability, hprobability, detectedAt, hdetectedAt, nativeListener, -, ⟨⟩, -, h⟩ := h
      split_ifs at h with hrange hpositive
      · cases h
        exact ⟨float_finite hprobability, hrange, float_finite hdetectedAt, hpositive⟩
      · cases h
      · cases h
    · obtain ⟨sessionId, rfl, hs⟩ := bare_valid h
      exact hs
    · obtain ⟨sessionId, rfl, hs⟩ := bare_valid h
      exact hs
    · simp only [validateTiming] at h
      split at h
      · cases h
      · simp only [bind_eq_ok] at h
        obtain ⟨sessionId, hsession, name, -, ms, -, data, hfield, ⟨⟩, -, ⟨⟩, hvalid, h⟩ := h
        cases h
        refine ⟨session_valid hsession, ?_, hvalid⟩
        unfold dataField at hfield
        split at hfield
        · cases hfield
          simp [Distinct]
        · rename_i heq
          cases hfield
          exact hdata _ heq
        · cases hfield
    · simp only [validateStop, bind_eq_ok] at h
      obtain ⟨sessionId, hsession, reason, -, ⟨⟩, -, h⟩ := h
      cases h
      exact session_valid hsession
    · obtain ⟨sessionId, rfl, hs⟩ := bare_valid h
      exact hs
    · simp only [validateSessionClosed, bind_eq_ok] at h
      obtain ⟨sessionId, hsession, outcome, -, ⟨⟩, -, h⟩ := h
      cases h
      exact session_valid hsession
    · simp only [validateTaskEvent, bind_eq_ok] at h
      obtain ⟨_, -, _, -, _, -, _, -, _, -, _, -, _, -, _, -, ⟨⟩, -, built, hbuilt, h⟩ := h
      cases h
      exact ⟨_, hbuilt⟩
    · cases h
  · cases h

/-! ### The round trip -/

/-- Equality of messages: dictionaries are equal whatever the order of their keys. -/
def Same : LoopbackMessage → LoopbackMessage → Prop
  | .timing m, .timing m' => ∃ data, m.data.Perm data ∧ m' = { m with data }
  | m, m' => m = m'

/-- `encode_loopback_message`. -/
def encodeLoopbackMessage (m : LoopbackMessage) : Document := dumps (sortKeys (.obj (modelDump m)))

/-- `parse_loopback_message` of a text, with the session that is expected, if any. -/
def parseText (text : Document) (expected : Option String) : Except PyError LoopbackMessage :=
  match expected with
  | none => PageTiming.readFrame text
  | some sessionId => parseLoopbackMessage (PageTiming.readFrame text) sessionId

lemma modelDump_distinct (m : LoopbackMessage) : Distinct (modelDump m) := by
  cases m <;> simp [Distinct, modelDump]

/-- The order of the fields of a message does not matter. -/
lemma validateMessage_perm {fields fields' : JsonDict} (h : Distinct fields)
    (hperm : fields.Perm fields') :
        validateMessage (.obj fields) = validateMessage (.obj fields') := by
  have hget := dictGet_perm h hperm
  have honly := onlyKeys_perm hperm
  simp only [validateMessage, validateActivation, validateBare, validateTiming, validateStop,
    validateSessionClosed, validateTaskEvent, sessionField, strField, hget, honly]

lemma validateMessage_modelDump {m : LoopbackMessage} (hm : Valid m) :
    validateMessage (.obj (modelDump m)) = .ok m := by
  cases m with
  | activation probability detectedAt nativeListener =>
    obtain ⟨hfinite, hprobability, hfinite', hpositive⟩ := hm
    simp [validateMessage, modelDump, dictGet, validateActivation, finiteFloat, hfinite, hfinite',
      boolField, onlyKeys, hprobability, hpositive, bind, Except.bind, pure, Except.pure]
  | pageReady sessionId =>
    have hs : validateSessionId sessionId = .ok () := hm
    simp [validateMessage, modelDump, dictGet, validateBare, sessionField, strField, onlyKeys, hs,
      bind, Except.bind, pure, Except.pure]
  | pageStarted sessionId =>
    have hs : validateSessionId sessionId = .ok () := hm
    simp [validateMessage, modelDump, dictGet, validateBare, sessionField, strField, onlyKeys, hs,
      bind, Except.bind, pure, Except.pure]
  | teardownComplete sessionId =>
    have hs : validateSessionId sessionId = .ok () := hm
    simp [validateMessage, modelDump, dictGet, validateBare, sessionField, strField, onlyKeys, hs,
      bind, Except.bind, pure, Except.pure]
  | stop sessionId reason =>
    have hs : validateSessionId sessionId = .ok () := hm
    cases reason <;> simp [validateMessage, modelDump, dictGet, validateStop, sessionField,
      strField, onlyKeys, hs, memberOf, StopReason.value, bind, Except.bind, pure, Except.pure]
  | sessionClosed sessionId outcome =>
    have hs : validateSessionId sessionId = .ok () := hm
    cases outcome <;> simp [validateMessage, modelDump, dictGet, validateSessionClosed,
      sessionField, strField, onlyKeys, hs, memberOf, SessionOutcome.value, bind, Except.bind,
      pure, Except.pure]
  | timing m =>
    obtain ⟨hs, -, hdata⟩ := hm
    have hperm : (modelDump (.timing m)).Perm (PageTiming.readFields m.sessionId m.name
        (.float (.finite false m.monotonicMs)) m.data) :=
      .cons _ (show ([_] ++ [_, _, _] : JsonDict).Perm ([_, _, _] ++ [_]) from
        List.perm_append_comm)
    rw [validateMessage_perm (modelDump_distinct _) hperm,
      PageTiming.validateMessage_timing hs m.name (m := m.monotonicMs)
        (by simp [validateMonotonicMs]) m.data, hdata]
    rfl
  | taskEvent m =>
    obtain ⟨raw, hraw⟩ := hm
    have hbuild := build_idem hraw
    have hkind : memberOf [.completed, .blocked, .gaveUp, .crashed, .timedOut, .blockLoopDetected]
        TaskEventKind.value "not a valid TaskEventKind" (some (.str m.kind.value)) =
            .ok m.kind := by
      cases m.kind <;> rfl
    have hdetail : optionalStr (some ((m.detail.map Json.str).getD .null)) = .ok m.detail := by
      cases m.detail <;> rfl
    have hblock : optionalBlockKind (some ((m.blockKind.map fun kind =>
        Json.str (blockKindValue kind)).getD .null)) = .ok m.blockKind := by
      rcases m.blockKind with _ | kind
      · rfl
      · cases kind <;> rfl
    simp [validateMessage, modelDump, dictGet, validateTaskEvent, strField, intField, boolField,
      onlyKeys, hkind, hdetail, hblock, hbuild, bind, Except.bind, pure, Except.pure]

/-- The fields of a message with their objects sorted are those of a message that is the same. -/
lemma sortValues_modelDump {m : LoopbackMessage} (hm : Valid m) : ∃ m', Same m m' ∧ Valid m' ∧
    m'.sessionId? = m.sessionId? ∧ sortValues (modelDump m) = modelDump m' := by
  have hsame (hplain : ∀ field ∈ modelDump m, Plain field.2) (hrefl : Same m m) :
      ∃ m', Same m m' ∧ Valid m' ∧ m'.sessionId? = m.sessionId? ∧
        sortValues (modelDump m) = modelDump m' :=
    ⟨m, hrefl, hm, rfl, sortValues_plain hplain⟩
  cases m with
  | timing m =>
    obtain ⟨hs, hdistinct, hdata⟩ := hm
    have hperm : m.data.Perm (m.data.mergeSort fun a b => a.1 ≤ b.1) :=
      (List.mergeSort_perm _ _).symm
    refine ⟨.timing { m with data := m.data.mergeSort fun a b => a.1 ≤ b.1 }, ⟨_, hperm, rfl⟩,
      ⟨hs, (hperm.map Prod.fst).nodup_iff.mp hdistinct,
        validateTimingMessageData_perm hdistinct hperm hdata⟩, rfl, ?_⟩
    simp only [modelDump, sortValues, sortKeys, sortValues_plain (plain_timingData hdistinct hdata)]
  | taskEvent m =>
    refine hsame (fun field hfield => plain_of_scalar ?_) rfl
    simp only [modelDump, List.mem_cons, List.not_mem_nil, or_false] at hfield
    rcases hfield with rfl | rfl | rfl | rfl | rfl | rfl | rfl | rfl | rfl
    all_goals try rfl
    · cases m.detail <;> rfl
    · cases m.blockKind <;> rfl
  | _ =>
    refine hsame (fun field hfield => plain_of_scalar ?_) rfl
    simp only [modelDump, List.mem_cons, List.not_mem_nil, or_false] at hfield
    rcases hfield with rfl | rfl | rfl | rfl <;> rfl

/-- The text of a valid message is read as a message that is the same. -/
lemma readFrame_encode {m : LoopbackMessage} (hm : Valid m) : ∃ m', Same m m' ∧
    m'.sessionId? = m.sessionId? ∧ PageTiming.readFrame (encodeLoopbackMessage m) = .ok m' := by
  obtain ⟨m', hsame, hm', hsession, hdump⟩ := sortValues_modelDump hm
  refine ⟨m', hsame, hsession, ?_⟩
  have hperm : (modelDump m').Perm ((modelDump m').mergeSort fun a b => a.1 ≤ b.1) :=
    (List.mergeSort_perm _ _).symm
  rw [PageTiming.readFrame, encodeLoopbackMessage, loads_dumps, sortKeys, hdump]
  dsimp only
  rw [← validateMessage_perm (modelDump_distinct m') hperm, validateMessage_modelDump hm']

/-- **The round trip of a message**, exactly if no session is expected or its own. -/
theorem parse_encode {m : LoopbackMessage} (hm : Valid m) (expected : Option String) :
    (∃ m', parseText (encodeLoopbackMessage m) expected = .ok m' ∧ Same m m') ↔
      ∀ sessionId, m.sessionId? = some sessionId → expected = none ∨ expected = some sessionId := by
  obtain ⟨m', hsame, hsession, hread⟩ := readFrame_encode hm
  rcases expected with _ | expected
  · simp [parseText, hread, hsame]
  · rw [parseText, hread]
    rcases RelayFailures.parse_cases m' expected with ⟨hids, hparse⟩ | ⟨hids, hparse⟩
    · rw [hsession] at hids
      refine iff_of_true ⟨m', hparse, hsame⟩ fun sessionId hid => .inr ?_
      rw [hids sessionId hid]
    · rw [hsession] at hids
      refine iff_of_false ?_ fun h => hids fun sessionId hid => ?_
      · rintro ⟨m'', h, -⟩
        cases hparse.symm.trans h
      · simpa [eq_comm] using h sessionId hid

/-- An error of the page, its data not in the order of the keys. -/
def boom : LoopbackMessage :=
  .timing ⟨"voice-one-01", .pageError, .zero, [("message", .str "boom"), ("kind", .str "error")]⟩

lemma boom_valid : Valid boom := ⟨by decide +kernel, by simp [Distinct], by decide +kernel⟩

theorem parse_encode_boom :
    ∃ m, parseText (encodeLoopbackMessage boom) (some "voice-one-01") = .ok m ∧ Same boom m :=
  (parse_encode boom_valid (some "voice-one-01")).mpr fun _ h => .inr h

end HermesRealtime.Encoding

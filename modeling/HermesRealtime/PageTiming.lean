import HermesRealtime.Checks
import HermesRealtime.PageFrames

/-!
The timing messages of the voice page, from what the page observes to the frame it sends, and which
of them the controller accepts.

The texts in them come from the provider and from the browser. They are cut to a number of UTF-16
units, which may leave one half of a surrogate pair at the end.
-/

namespace HermesRealtime.PageTiming

open Values Text Protocol Utf16 Documents Frames PageFrames Checks

/-! ### Texts the page cuts -/

/-- The class of a control character. -/
def isControl (u : UInt16) : Bool := u.toNat < 32 || u.toNat == 127

/-- `value.replace(/[\u0000-\u001f\u007f]+/gu, " ")`; `inRun` after the first unit of a run. -/
def replaceControls (inRun : Bool) : List UInt16 → List UInt16
  | [] => []
  | u :: us =>
    if isControl u then
      if inRun then replaceControls true us else 32 :: replaceControls true us
    else u :: replaceControls false us

/-- The white space and line ends `trim` removes. -/
def isWhite (u : UInt16) : Bool :=
  let n := u.toNat
  (9 ≤ n && n ≤ 13) || n == 32 || n == 160 || n == 5760 || (8192 ≤ n && n ≤ 8202) || n == 8232 ||
    n == 8233 || n == 8239 || n == 8287 || n == 12288 || n == 65279

def trim (units : List UInt16) : List UInt16 :=
  ((units.dropWhile isWhite).reverse.dropWhile isWhite).reverse

/-- `boundedDiagnosticText`. -/
def boundedDiagnosticText (value : JsValue) (maxLength : ℕ) : JsValue :=
  match value with
  | .string units =>
    let normalized := trim (replaceControls false units)
    if normalized = [] then .undefined else .string (normalized.take maxLength)
  | _ => .undefined

/-! ### What the page reports -/

inductive PeerConnectionState
  | new | connecting | connected | disconnected | failed | closed
  deriving DecidableEq

def PeerConnectionState.value : PeerConnectionState → String
  | .new => "new"
  | .connecting => "connecting"
  | .connected => "connected"
  | .disconnected => "disconnected"
  | .failed => "failed"
  | .closed => "closed"

inductive IceConnectionState
  | new | checking | connected | completed | failed | disconnected | closed
  deriving DecidableEq

def IceConnectionState.value : IceConnectionState → String
  | .new => "new"
  | .checking => "checking"
  | .connected => "connected"
  | .completed => "completed"
  | .failed => "failed"
  | .disconnected => "disconnected"
  | .closed => "closed"

inductive IceGatheringState
  | new | gathering | complete
  deriving DecidableEq

def IceGatheringState.value : IceGatheringState → String
  | .new => "new"
  | .gathering => "gathering"
  | .complete => "complete"

inductive DataChannelState
  | connecting | opened | closing | closed
  deriving DecidableEq

def DataChannelState.value : DataChannelState → String
  | .connecting => "connecting"
  | .opened => "open"
  | .closing => "closing"
  | .closed => "closed"

inductive PageErrorKind
  | error | unhandledrejection
  deriving DecidableEq

def PageErrorKind.value : PageErrorKind → String
  | .error => "error"
  | .unhandledrejection => "unhandledrejection"

/-- What makes the page send a timing message: a state, an offer or an answer, an event or an error
of the provider, an error of the page with its message as a text, empty if there is none. -/
inductive Report
  | peerConnectionState (state : PeerConnectionState)
  | iceConnectionState (state : IceConnectionState)
  | iceGatheringState (state : IceGatheringState)
  | dataChannelState (state : DataChannelState)
  | sdpOfferCreated
  | sdpAnswerApplied
  | responseDone (event : JsValue)
  | realtimeError (error : JsValue)
  | pageError (kind : PageErrorKind) (message : List UInt16)

def text (s : String) : JsValue := .string (ofString s)

/-- `Boolean(value)`. -/
def truthy : JsValue → Bool
  | .undefined => false
  | .null => false
  | .bool b => b
  | .number (.finite _ m) => m.mant ≠ 0
  | .number .nan => false
  | .string units => units ≠ []
  | _ => true

def isString : JsValue → Bool
  | .string _ => true
  | _ => false

/-- `value || fallback`. -/
def orElse (value fallback : JsValue) : JsValue := if truthy value then value else fallback

/-- `controlTimingData`, of the names the page records. -/
def controlTimingData (name : TimingName) (data : JsValue) : List (String × JsValue) :=
  match name with
  | .peerConnectionState => [("state", data.get "state")]
  | .iceConnectionState => [("state", data.get "state")]
  | .iceGatheringState => [("state", data.get "state")]
  | .dataChannelState => [("state", data.get "state")]
  | .realtimeResponseDone =>
    [("response_id", data.get "responseId"), ("status", data.get "status"),
     ("output_types", data.get "outputTypes"), ("remote_audio_muted", data.get "remoteAudioMuted")]
  | .realtimeError =>
    [("error_type", data.get "errorType"), ("code", data.get "code"),
     ("message", data.get "message")]
  | _ => []

/-- The message of `recordTiming` and `reportPageError`. -/
def timingMessage (name : TimingName) (atMs : Binary64) (data : List (String × JsValue)) :
    List (String × JsValue) :=
  [("type", text "timing"), ("name", text name.value),
   ("monotonic_ms", .number (.finite false atMs)), ("data", .ofFields data)]

/-- `recordTiming`. -/
def recordTiming (name : TimingName) (atMs : Binary64) (data : List (String × JsValue)) :
    List (String × JsValue) :=
  timingMessage name atMs (controlTimingData name (.ofFields data))

/-- The output types of a response: at most 16, each bounded. -/
def outputTypes (response : JsValue) : List JsValue :=
  let output := match response.get "output" with
    | .array items => items
    | _ => []
  ((output.map fun item => boundedDiagnosticText (item.get "type") 64).filter truthy).take 16

/-- `event.response || {}`. -/
def responseOf (event : JsValue) : JsValue := orElse (event.get "response") (.object [])

/-- `recordRealtimeResponseDone`; nothing is recorded without an id and a status. -/
def recordRealtimeResponseDone (atMs : Binary64) (event : JsValue) :
    Option (List (String × JsValue)) :=
  let response := responseOf event
  if isString (response.get "id") && isString (response.get "status") then
    some (recordTiming .realtimeResponseDone atMs
      [("responseId", response.get "id"), ("status", response.get "status"),
       ("outputTypes", .array (outputTypes response)), ("remoteAudioMuted", .bool false)])
  else none

/-- `recordRealtimeError`. -/
def recordRealtimeError (atMs : Binary64) (error : JsValue) : List (String × JsValue) :=
  recordTiming .realtimeError atMs
    [("errorType", boundedDiagnosticText (error.get "type") 128),
     ("code", boundedDiagnosticText (error.get "code") 128),
     ("message", orElse (boundedDiagnosticText (error.get "message") 512)
       (text "Unspecified Realtime error"))]

/-- The message of a page error as it is sent. -/
def boundedMessage (message : List UInt16) : List UInt16 :=
  (if message = [] then ofString "unknown" else message).take 512

/-- `reportPageError`. -/
def reportPageError (atMs : Binary64) (kind : PageErrorKind) (message : List UInt16) :
    List (String × JsValue) :=
  timingMessage .pageError atMs
    [("kind", text kind.value), ("message", .string (boundedMessage message))]

/-- The message the page sends at a time for what it reports. -/
def Report.message (atMs : Binary64) : Report → Option (List (String × JsValue))
  | .peerConnectionState s =>
      some (recordTiming .peerConnectionState atMs [("state", text s.value)])
  | .iceConnectionState s => some (recordTiming .iceConnectionState atMs [("state", text s.value)])
  | .iceGatheringState s => some (recordTiming .iceGatheringState atMs [("state", text s.value)])
  | .dataChannelState s => some (recordTiming .dataChannelState atMs [("state", text s.value)])
  | .sdpOfferCreated => some (recordTiming .sdpOfferCreated atMs [])
  | .sdpAnswerApplied => some (recordTiming .sdpAnswerApplied atMs [])
  | .responseDone event => recordRealtimeResponseDone atMs event
  | .realtimeError error => some (recordRealtimeError atMs error)
  | .pageError kind message => some (reportPageError atMs kind message)

/-- `sendControlMessage`: the text of the message with its session. -/
def sendControlMessage (S : Spelling) (sessionId : String) (message : List (String × JsValue)) :
    Option Document :=
  stringify S (.ofFields (message ++ [("session_id", text sessionId)]))

/-- The frame of a report. -/
def Report.frame (S : Spelling) (sessionId : String) (atMs : Binary64) (r : Report) :
    Option Document :=
  (r.message atMs).bind (sendControlMessage S sessionId)

/-! ### The frame of a timing message -/

/-- The controller's reading of a frame. -/
def readFrame (frame : Document) : Except PyError LoopbackMessage :=
  match loads frame with
  | none => invalid "Invalid JSON"
  | some json => validateMessage json

/-- The fields of an object the page writes out. -/
def written (S : Spelling) (fields : List (String × JsValue)) : List (List UInt16 × Document) :=
  stringifyFields S (fields.map fun field => (ofString field.1, field.2))

lemma loadsFields_cons (key : String) (item : Document) (fields : List (List UInt16 × Document)) :
    loadsFields ((ofString key, item) :: fields) = (loads item).bind fun value =>
      (loadsFields fields).bind fun values => some ((key, value) :: values) := by
  simp only [loadsFields, readText_ofString]
  rfl

lemma memberOf_timingName (name : TimingName) (reason : String) :
    memberOf timingNames TimingName.value reason (some (.str name.value)) = .ok name := by
  cases name <;> rfl

/-- A time the page reports is read back. -/
lemma monotonicMs_written (S : Spelling) (atMs : Binary64) : ∃ json m,
    loads (.number (S.write false atMs)) = some json ∧
      validateMonotonicMs (some json) = .ok m ∧ m.scaled = atMs.scaled := by
  obtain ⟨m, hwrite, hm⟩ := S.reads_back false atMs
  rw [Bool.false_and] at hwrite
  rcases hliteral : S.write false atMs with z | x
  · rw [hliteral] at hwrite
    refine ⟨.int z, m, rfl, ?_, hm⟩
    rcases hfinite : Binary64.ofNat? z.natAbs with _ | m'
    · simp [Literal.toDouble, hfinite] at hwrite
    · simp only [Literal.toDouble, hfinite, PyFloat.finite.injEq, decide_eq_false_iff_not] at hwrite
      obtain ⟨hsign, rfl⟩ := hwrite
      simp [validateMonotonicMs, hfinite, hsign]
  · rw [hliteral, Literal.toDouble] at hwrite
    subst hwrite
    exact ⟨.float (.finite false m), m, rfl, by simp [validateMonotonicMs], hm⟩

lemma sendControlMessage_timing (S : Spelling) (sessionId : String) (name : TimingName)
    (atMs : Binary64) (data : List (String × JsValue)) :
    sendControlMessage S sessionId (timingMessage name atMs data) = some (.object
      [(ofString "type", .text (ofString "timing")), (ofString "name", .text (ofString name.value)),
       (ofString "monotonic_ms", .number (S.write false atMs)),
       (ofString "data", .object (written S data)),
       (ofString "session_id", .text (ofString sessionId))]) := by
  simp [sendControlMessage, timingMessage, JsValue.ofFields, stringify, stringifyFields, text,
    written]

/-- The fields of a timing message as the controller reads them. -/
def readFields (sessionId : String) (name : TimingName) (json : Json) (data : JsonDict) :
    JsonDict :=
  [("type", .str "timing"), ("name", .str name.value), ("monotonic_ms", json), ("data", .obj data),
   ("session_id", .str sessionId)]

lemma validateMessage_timing {sessionId : String} (hs : validateSessionId sessionId = .ok ())
    (name : TimingName) {json : Json} {m : Binary64} (hm : validateMonotonicMs (some json) = .ok m)
    (data : JsonDict) : validateMessage (.obj (readFields sessionId name json data)) = do
      validateTimingMessageData name data
      return .timing { sessionId, name, monotonicMs := m, data } := by
  have hkeys : onlyKeys ["type", "session_id", "name", "monotonic_ms", "data"]
      (readFields sessionId name json data) = .ok () := by
    simp [onlyKeys, readFields]
  have htype : dictGet (readFields sessionId name json data) "type" = some (.str "timing") := by
    simp [dictGet, readFields]
  have hms : dictGet (readFields sessionId name json data) "monotonic_ms" = some json := by
    simp [dictGet, readFields]
  have hname : dictGet (readFields sessionId name json data) "name" = some (.str name.value) := by
    simp [dictGet, readFields]
  have hdata : dictGet (readFields sessionId name json data) "data" = some (.obj data) := by
    simp [dictGet, readFields]
  have hsession : sessionField (readFields sessionId name json data) = .ok sessionId := by
    simp [sessionField, strField, dictGet, readFields, hs, bind, Except.bind, pure, Except.pure]
  rw [validateMessage, htype]
  simp only [String.reduceEq, if_false, if_true, validateTiming, hms, hm, hname, hdata, hsession,
    memberOf_timingName, hkeys, dataField, bind, Except.bind]

/-- The controller takes a timing message exactly if it can read its data and finds it valid. -/
lemma timing_read (S : Spelling) {sessionId : String} (hs : validateSessionId sessionId = .ok ())
    (name : TimingName) (atMs : Binary64) (data : List (String × JsValue)) {frame : Document}
    (hframe : sendControlMessage S sessionId (timingMessage name atMs data) = some frame) :
    (∃ m, parseLoopbackMessage (readFrame frame) sessionId = .ok (.timing m)) ↔
      ∃ d, loadsFields (written S data) = some d ∧ validateTimingMessageData name d = .ok () := by
  rw [sendControlMessage_timing] at hframe
  obtain rfl := Option.some.inj hframe
  obtain ⟨json, m, hjson, hms, -⟩ := monotonicMs_written S atMs
  rw [readFrame, loads, loadsFields_cons, loadsFields_cons, loadsFields_cons, loadsFields_cons,
    loadsFields_cons, hjson]
  simp only [loads, readText_ofString, Option.map_some, Option.bind_some, loadsFields]
  rcases loadsFields (written S data) with _ | d
  · simp [parseLoopbackMessage, invalid, bind, Except.bind]
  · change (∃ m, parseLoopbackMessage (validateMessage (.obj (readFields sessionId name json d)))
      sessionId = .ok (.timing m)) ↔ _
    rw [validateMessage_timing hs name hms]
    rcases hvalid : validateTimingMessageData name d with e | _
    · simp [parseLoopbackMessage, hvalid, bind, Except.bind]
    · refine iff_of_true ⟨{ sessionId, name, monotonicMs := m, data := d }, ?_⟩ ⟨d, rfl, hvalid⟩
      simp [parseLoopbackMessage, LoopbackMessage.sessionId?, bind, Except.bind, pure, Except.pure]

/-! ### The texts that are cut -/

lemma isControl_replaceControls (inRun : Bool) (units : List UInt16) :
    ∀ u ∈ replaceControls inRun units, isControl u = false := by
  induction units generalizing inRun with
  | nil => simp [replaceControls]
  | cons v units ih =>
    intro u hu
    rw [replaceControls] at hu
    split_ifs at hu with hcontrol hrun
    · exact ih true u hu
    · rcases List.mem_cons.mp hu with rfl | hu
      · rfl
      · exact ih true u hu
    · rcases List.mem_cons.mp hu with rfl | hu
      · simpa using hcontrol
      · exact ih false u hu

lemma mem_of_mem_trim {units : List UInt16} {u : UInt16} (h : u ∈ trim units) : u ∈ units := by
  rw [trim, List.mem_reverse] at h
  have hinner := (List.dropWhile_sublist _).mem h
  exact (List.dropWhile_sublist _).mem (List.mem_reverse.mp hinner)

/-- What is kept of a text is not empty, not too long and free of control characters. -/
structure Bounded (maxLength : ℕ) (units : List UInt16) : Prop where
  nonempty : units ≠ []
  short : units.length ≤ maxLength
  plain : ∀ u ∈ units, isControl u = false

lemma bounded_diagnosticText (value : JsValue) (maxLength : ℕ) (hpos : 0 < maxLength) :
    boundedDiagnosticText value maxLength = .undefined ∨
      ∃ units, boundedDiagnosticText value maxLength = .string units ∧ Bounded maxLength units := by
  cases value with
  | string units =>
    simp only [boundedDiagnosticText]
    split_ifs with hempty
    · exact .inl rfl
    · refine .inr ⟨_, rfl, ?_, List.length_take_le _ _, fun u hu => ?_⟩
      · simp [List.take_eq_nil_iff, hempty, hpos.ne']
      · exact isControl_replaceControls false units u (mem_of_mem_trim (List.mem_of_mem_take hu))
  | _ => exact .inl rfl

/-- The controller accepts such a text if it can read it. -/
lemma validateDiagnosticText_ok {maxLength : ℕ} {s : String} (h : Bounded maxLength (ofString s)) :
    validateDiagnosticText maxLength (.str s) = .ok () := by
  have hne : s ≠ "" := by
    rintro rfl
    exact h.nonempty rfl
  have hshort : ¬maxLength < s.toList.length := by
    have := (length_le_encode s.toList).trans h.short
    omega
  have hplain : s.toList.any (fun c => c.toNat < 32 || c.toNat == 127) = false := by
    rw [List.any_eq_false]
    intro c hc hcontrol
    have hbasic : c.toNat < 0x10000 := by
      simp only [Bool.or_eq_true, decide_eq_true_eq, beq_iff_eq] at hcontrol
      omega
    obtain ⟨u, hu, htoNat⟩ := mem_encode hc hbasic
    have hcontrol' := h.plain u hu
    rw [isControl, htoNat] at hcontrol'
    exact absurd hcontrol (by simp [hcontrol'])
  rw [validateDiagnosticText, if_neg (by simp [hne, hshort]), hplain]
  rfl

/-- A value that, if it is a text, has no half of a surrogate pair alone. -/
def Readable : JsValue → Prop
  | .string units => ∃ s, units = ofString s
  | _ => True

/-- A value the page sends as a bounded text, or not at all. -/
def Diagnostic (maxLength : ℕ) (value : JsValue) : Prop :=
  value = .undefined ∨ ∃ units, value = .string units ∧ Bounded maxLength units

lemma loads_text {units : List UInt16} {json : Json} :
    loads (.text units) = some json ↔ ∃ s, units = ofString s ∧ json = .str s := by
  simp only [loads, Option.map_eq_some_iff, readText_eq_some_iff]
  exact exists_congr fun s => and_congr_right fun _ => eq_comm

variable (S : Spelling)

lemma loads_written_units (key : String) (units : List UInt16) (data : List (String × JsValue))
    (d : JsonDict) : loadsFields (written S ((key, .string units) :: data)) = some d ↔
      ∃ s values, units = ofString s ∧ loadsFields (written S data) = some values ∧
        (key, .str s) :: values = d := by
  refine (loadsFields_cons key (.text units) (written S data)) ▸ ?_
  simp only [Option.bind_eq_some_iff, loads_text, Option.some.injEq]
  constructor
  · rintro ⟨-, ⟨s, hs, rfl⟩, values, hvalues, rfl⟩
    exact ⟨s, values, hs, hvalues, rfl⟩
  · rintro ⟨s, values, hs, hvalues, rfl⟩
    exact ⟨_, ⟨s, hs, rfl⟩, values, hvalues, rfl⟩

/-- The fields of an error, cut to their bounds, are valid if they can be read. -/
lemma errorFields_written {fields : List (String × JsValue)}
    (h : ∀ field ∈ fields, Diagnostic (if field.1 = "message" then 512 else 128) field.2) :
    (∀ d, loadsFields (written S fields) = some d → validateErrorFields d = .ok () ∧
      (d = [] → ∀ field ∈ fields, field.2 = .undefined) ∧
      ∀ g ∈ d, (∃ field ∈ fields, field.1 = g.1) ∧ ∃ s, g.2 = .str s) ∧
    ((∃ d, loadsFields (written S fields) = some d) ↔ ∀ field ∈ fields, Readable field.2) := by
  induction fields with
  | nil => simp [written, stringifyFields, loadsFields, validateErrorFields]
  | cons field fields ih =>
    obtain ⟨key, value⟩ := field
    obtain ⟨ihvalid, ihread⟩ := ih fun f hf => h f (List.mem_cons_of_mem _ hf)
    rcases h (key, value) List.mem_cons_self with hundefined | ⟨units, hunits, hbounded⟩
    · obtain rfl : value = .undefined := hundefined
      change (∀ d, loadsFields (written S fields) = some d → _) ∧
        ((∃ d, loadsFields (written S fields) = some d) ↔ _)
      refine ⟨fun d hd => ?_, by simp [ihread, Readable]⟩
      obtain ⟨hok, hempty, hall⟩ := ihvalid d hd
      refine ⟨hok, fun h => List.forall_mem_cons.mpr ⟨rfl, hempty h⟩, fun g hg => ?_⟩
      obtain ⟨⟨f, hf, hkey⟩, htext⟩ := hall g hg
      exact ⟨⟨f, List.mem_cons_of_mem _ hf, hkey⟩, htext⟩
    · obtain rfl : value = .string units := hunits
      refine ⟨fun d hd => ?_, ?_⟩
      · obtain ⟨s, values, rfl, hvalues, rfl⟩ := (loads_written_units S key _ fields d).mp hd
        obtain ⟨hok, -, hall⟩ := ihvalid values hvalues
        refine ⟨?_, nofun, fun g hg => ?_⟩
        · rw [validateErrorFields, bind_eq_ok]
          exact ⟨(), validateDiagnosticText_ok hbounded, hok⟩
        · rcases List.mem_cons.mp hg with rfl | hg
          · exact ⟨⟨_, List.mem_cons_self, rfl⟩, s, rfl⟩
          · obtain ⟨⟨f, hf, hkey⟩, htext⟩ := hall g hg
            exact ⟨⟨f, List.mem_cons_of_mem _ hf, hkey⟩, htext⟩
      · rw [List.forall_mem_cons, ← ihread]
        simp only [loads_written_units]
        constructor
        · rintro ⟨-, s, values, hs, hvalues, -⟩
          exact ⟨⟨s, hs⟩, values, hvalues⟩
        · rintro ⟨⟨s, hs⟩, values, hvalues⟩
          exact ⟨_, s, values, hs, hvalues, rfl⟩

/-! ### The scan of the data -/

/-- The keys of all data the page sends. -/
def pageKeys : List String :=
  ["state", "kind", "message", "response_id", "status", "output_types", "remote_audio_muted",
   "error_type", "code"]

/-- None of them looks like a secret. -/
lemma pageKeys_plain : ∀ key ∈ pageKeys, containsSecretKey key = false := by decide +kernel

/-- Data under these keys is scanned value by value. -/
lemma scan_page {data : JsonDict}
    (h : ∀ field ∈ data, field.1 ∈ pageKeys ∧ scanNoSecrets field.2 = .ok ()) :
    scanNoSecrets (.obj data) = .ok () := by
  rw [scanNoSecrets]
  induction data with
  | nil => rfl
  | cons field data ih =>
    obtain ⟨hkey, hvalue⟩ := h field List.mem_cons_self
    rw [scanFields, pageKeys_plain field.1 hkey]
    simp only [Bool.false_eq_true, if_false, bind_eq_ok]
    exact ⟨(), hvalue, ih fun f hf => h f (List.mem_cons_of_mem _ hf)⟩

/-! ### Which reports are accepted -/

/-- The condition on the texts of a report. A response has to have an identifier and a status the
controller knows; a text that has been cut must not end in half of a surrogate pair. -/
def Acceptable : Report → Prop
  | .responseDone event =>
    (∃ id, (responseOf event).get "id" = text id ∧ isProviderResponseId id = true) ∧
      (∃ status ∈ responseStatuses, (responseOf event).get "status" = text status) ∧
      ∀ type ∈ outputTypes (responseOf event), Readable type
  | .realtimeError error =>
    Readable (boundedDiagnosticText (error.get "type") 128) ∧
      Readable (boundedDiagnosticText (error.get "code") 128) ∧
      Readable (boundedDiagnosticText (error.get "message") 512)
  | .pageError _ message => Readable (.string (boundedMessage message))
  | _ => True

/-- The data is read, and found valid. -/
def Valid (name : TimingName) (data : List (String × JsValue)) : Prop :=
  ∃ d, loadsFields (written S data) = some d ∧ validateTimingMessageData name d = .ok ()

lemma loads_written_text (key value : String) {data : List (String × JsValue)} {d : JsonDict}
    (h : loadsFields (written S data) = some d) :
    loadsFields (written S ((key, text value) :: data)) = some ((key, .str value) :: d) := by
  have hcons := loadsFields_cons key (.text (ofString value)) (written S data)
  rw [loads, readText_ofString, h] at hcons
  exact hcons

/-- A state is accepted if the controller knows it. -/
lemma valid_state {name : TimingName} {value : String}
    (h : validateTimingData name [("state", .str value)] = .ok ()) :
    Valid S name [("state", text value)] := by
  refine ⟨_, loads_written_text S "state" value rfl, ?_⟩
  have hscan : scanNoSecrets (.obj [("state", .str value)]) = .ok () :=
    scan_page (by simp [scanNoSecrets, pageKeys])
  rw [validateTimingMessageData, bind_eq_ok]
  exact ⟨(), hscan, h⟩

lemma valid_peerConnectionState (state : PeerConnectionState) :
    Valid S .peerConnectionState [("state", text state.value)] :=
  valid_state S (by cases state <;> rfl)

lemma valid_iceConnectionState (state : IceConnectionState) :
    Valid S .iceConnectionState [("state", text state.value)] :=
  valid_state S (by cases state <;> rfl)

lemma valid_iceGatheringState (state : IceGatheringState) :
    Valid S .iceGatheringState [("state", text state.value)] :=
  valid_state S (by cases state <;> rfl)

lemma valid_dataChannelState (state : DataChannelState) :
    Valid S .dataChannelState [("state", text state.value)] :=
  valid_state S (by cases state <;> rfl)

/-- A page error is accepted if its message can be read: it is short enough in any case. -/
lemma valid_pageError (kind : PageErrorKind) (message : List UInt16) :
    Valid S .pageError [("kind", text kind.value), ("message", .string (boundedMessage message))] ↔
      Readable (.string (boundedMessage message)) := by
  have hlength : (boundedMessage message).length ≤ 512 := List.length_take_le _ _
  generalize boundedMessage message = units at hlength
  constructor
  · rintro ⟨d, hd, -⟩
    obtain ⟨-, values, -, hvalues, -⟩ := (loads_written_units S "kind" _ _ d).mp hd
    obtain ⟨s, -, hs, -⟩ := (loads_written_units S "message" units [] values).mp hvalues
    exact ⟨s, hs⟩
  · rintro ⟨s, rfl⟩
    refine ⟨_, loads_written_text S "kind" kind.value (loads_written_text S "message" s rfl), ?_⟩
    have hshort : ¬512 < s.toList.length := by
      have := (length_le_encode s.toList).trans hlength
      omega
    have hscan : scanNoSecrets (.obj [("kind", .str kind.value), ("message", .str s)]) = .ok () :=
      scan_page (by simp [scanNoSecrets, pageKeys])
    rw [validateTimingMessageData, bind_eq_ok]
    refine ⟨(), hscan, ?_⟩
    cases kind <;> simp [validateTimingData, validatePageError, onlyKeys, dictGet, inSet,
      PageErrorKind.value, hshort, bind, Except.bind]

/-- The data of an error of the provider. -/
def errorData (error : JsValue) : List (String × JsValue) :=
  [("error_type", boundedDiagnosticText (error.get "type") 128),
   ("code", boundedDiagnosticText (error.get "code") 128),
   ("message", orElse (boundedDiagnosticText (error.get "message") 512)
     (text "Unspecified Realtime error"))]

/-- The message of an error is a text in any case; the one that stands in for it can be read. -/
lemma orElse_message (value : JsValue) : ∃ units,
    orElse (boundedDiagnosticText value 512) (text "Unspecified Realtime error") = .string units ∧
      Bounded 512 units ∧
        (Readable (boundedDiagnosticText value 512) ↔ Readable (.string units)) := by
  rcases bounded_diagnosticText value 512 (by decide) with h | ⟨units, h, hbounded⟩
  · have hplain : ((ofString "Unspecified Realtime error").all fun u => !isControl u) = true := by
      decide +kernel
    refine ⟨ofString "Unspecified Realtime error", by rw [h]; rfl,
      ⟨by decide, by decide, fun u hu => ?_⟩, ?_⟩
    · exact Bool.not_eq_true' _ ▸ List.all_eq_true.mp hplain u hu
    · rw [h]
      exact iff_of_true trivial ⟨_, rfl⟩
  · refine ⟨units, ?_, hbounded, by rw [h]⟩
    rw [h, orElse, truthy, if_pos (by simpa using hbounded.nonempty)]

lemma valid_realtimeError (error : JsValue) : Valid S .realtimeError (errorData error) ↔
    Acceptable (.realtimeError error) := by
  obtain ⟨units, horElse, hmessage, hreadable⟩ := orElse_message (error.get "message")
  have hbounds : ∀ field ∈ errorData error,
      Diagnostic (if field.1 = "message" then 512 else 128) field.2 := by
    simp only [errorData, horElse, List.forall_mem_cons, List.not_mem_nil, false_implies,
      implies_true, and_true]
    exact ⟨bounded_diagnosticText _ 128 (by decide), bounded_diagnosticText _ 128 (by decide),
      .inr ⟨units, rfl, hmessage⟩⟩
  obtain ⟨hvalid, hread⟩ := errorFields_written S hbounds
  have hacceptable : Acceptable (.realtimeError error) ↔
      ∃ d, loadsFields (written S (errorData error)) = some d := by
    rw [hread, Acceptable, hreadable]
    simp [errorData, horElse]
  rw [hacceptable, Valid]
  refine exists_congr fun d => and_iff_left_of_imp fun hd => ?_
  obtain ⟨hok, hempty, hall⟩ := hvalid d hd
  have hkeys : ∀ g ∈ d, g.1 ∈ ["error_type", "code", "message"] ∧ ∃ s, g.2 = .str s := by
    intro g hg
    obtain ⟨⟨field, hfield, hkey⟩, htext⟩ := hall g hg
    refine ⟨hkey ▸ ?_, htext⟩
    simpa [errorData] using List.mem_map_of_mem (f := Prod.fst) hfield
  have hscan : scanNoSecrets (.obj d) = .ok () := by
    refine scan_page fun g hg => ?_
    obtain ⟨hkey, s, hs⟩ := hkeys g hg
    exact ⟨(show ["error_type", "code", "message"] ⊆ pageKeys by decide) hkey, by rw [hs]; rfl⟩
  have honly : onlyKeys ["error_type", "code", "message"] d = .ok () := by
    rw [onlyKeys, if_pos]
    rw [List.all_eq_true]
    exact fun g hg => List.elem_eq_true_of_mem (hkeys g hg).1
  have hne : d.isEmpty = false := by
    rw [List.isEmpty_eq_false_iff]
    intro h
    have hundefined := hempty h ("message", .string units) (by simp [errorData, horElse])
    cases hundefined
  rw [validateTimingMessageData, bind_eq_ok]
  refine ⟨(), hscan, ?_⟩
  rw [validateTimingData, validateRealtimeError, bind_eq_ok]
  exact ⟨(), honly, by rw [hne]; exact hok⟩

/-- At most 16 texts, each cut to its bound. -/
lemma outputTypes_bounded (response : JsValue) : (outputTypes response).length ≤ 16 ∧
    ∀ type ∈ outputTypes response, ∃ units, type = .string units ∧ Bounded 64 units := by
  refine ⟨List.length_take_le _ _, fun type htype => ?_⟩
  obtain ⟨hmem, htruthy⟩ := List.mem_filter.mp (List.mem_of_mem_take htype)
  obtain ⟨item, -, rfl⟩ := List.mem_map.mp hmem
  rcases bounded_diagnosticText (item.get "type") 64 (by decide) with h | h
  · simp [h, truthy] at htruthy
  · exact h

/-- A list of such texts is valid if all of them can be read. -/
lemma types_written {types : List JsValue}
    (h : ∀ type ∈ types, ∃ units, type = .string units ∧ Bounded 64 units) :
    (∀ items, loadsItems (stringifyItems S types) = some items →
      validateTexts (validateDiagnosticText 64) items = .ok () ∧ items.length = types.length ∧
        scanItems items = .ok ()) ∧
    ((∃ items, loadsItems (stringifyItems S types) = some items) ↔
        ∀ type ∈ types, Readable type) := by
  induction types with
  | nil => simp [stringifyItems, loadsItems, validateTexts, scanItems]
  | cons type types ih =>
    obtain ⟨ihvalid, ihread⟩ := ih fun t ht => h t (List.mem_cons_of_mem _ ht)
    obtain ⟨units, rfl, hbounded⟩ := h type List.mem_cons_self
    have hcons (items : List Json) : loadsItems (stringifyItems S (.string units :: types)) =
        some items ↔ ∃ s values, units = ofString s ∧
          loadsItems (stringifyItems S types) = some values ∧ .str s :: values = items := by
      change ((loads (.text units)).bind fun value => (loadsItems (stringifyItems S types)).bind
        fun values => some (value :: values)) = some items ↔ _
      simp only [Option.bind_eq_some_iff, loads_text, Option.some.injEq]
      constructor
      · rintro ⟨-, ⟨s, hs, rfl⟩, values, hvalues, rfl⟩
        exact ⟨s, values, hs, hvalues, rfl⟩
      · rintro ⟨s, values, hs, hvalues, rfl⟩
        exact ⟨_, ⟨s, hs, rfl⟩, values, hvalues, rfl⟩
    refine ⟨fun items hitems => ?_, ?_⟩
    · obtain ⟨s, values, rfl, hvalues, rfl⟩ := (hcons items).mp hitems
      obtain ⟨hok, hlength, hscan⟩ := ihvalid values hvalues
      refine ⟨?_, by simp [hlength], hscan⟩
      rw [validateTexts, bind_eq_ok]
      exact ⟨(), validateDiagnosticText_ok hbounded, hok⟩
    · rw [List.forall_mem_cons, ← ihread]
      simp only [hcons]
      constructor
      · rintro ⟨-, s, values, hs, hvalues, -⟩
        exact ⟨⟨s, hs⟩, values, hvalues⟩
      · rintro ⟨⟨s, hs⟩, values, hvalues⟩
        exact ⟨_, s, values, hs, hvalues, rfl⟩

/-- The data of a response that is done. -/
def responseData (response : JsValue) : List (String × JsValue) :=
  [("response_id", response.get "id"), ("status", response.get "status"),
   ("output_types", .array (outputTypes response)), ("remote_audio_muted", .bool false)]

lemma validate_responseDone {id status : String} {items : List Json} (hlength : items.length ≤ 16)
    (htexts : validateTexts (validateDiagnosticText 64) items = .ok ())
    (hscan : scanItems items = .ok ()) :
    validateTimingMessageData .realtimeResponseDone
      [("response_id", .str id), ("status", .str status), ("output_types", .arr items),
       ("remote_audio_muted", .bool false)] = .ok () ↔
      isProviderResponseId id = true ∧ status ∈ responseStatuses := by
  set data : JsonDict := [("response_id", .str id), ("status", .str status),
    ("output_types", .arr items), ("remote_audio_muted", .bool false)] with hdata
  have hscan' : scanNoSecrets (.obj data) = .ok () :=
    scan_page (by simp [hdata, scanNoSecrets, pageKeys, hscan])
  have honly : onlyKeys responseDoneKeys data = .ok () := by
    simp [onlyKeys, hdata, responseDoneKeys]
  have hrequire (reason : String) : requireKeys responseDoneRequired reason data = .ok () := by
    simp [requireKeys, hdata, responseDoneRequired, dictGet]
  have hid : dictGet data "response_id" = some (.str id) := by simp [hdata, dictGet]
  have hstatus : dictGet data "status" = some (.str status) := by simp [hdata, dictGet]
  have htypes : dictGet data "output_types" = some (.arr items) := by simp [hdata, dictGet]
  have hmuted : dictGet data "remote_audio_muted" = some (.bool false) := by simp [hdata, dictGet]
  have hsuppressed : validateOptionalResponseId data "suppressed_response_id" = .ok () := by
    simp [validateOptionalResponseId, hdata, dictGet]
  have hpending : validateOptionalResponseId data "pending_restore_response_id" = .ok () := by
    simp [validateOptionalResponseId, hdata, dictGet]
  have hitems : validateDiagnosticStrings 16 (some (.arr items)) = .ok () := by
    rw [validateDiagnosticStrings, if_neg (by omega), htexts]
  simp only [validateTimingMessageData, validateTimingData, validateResponseDone, bind_eq_ok,
    hscan', honly, hrequire, hid, hstatus, htypes, hmuted, hsuppressed, hpending, hitems, inSet,
    validateBool, validateProviderResponseId, invalid, Option.getD_some, Except.ok.injEq,
    exists_eq_left', exists_const, true_and, List.contains_eq_mem]
  by_cases hvalid : isProviderResponseId id = true <;> by_cases hmem : status ∈ responseStatuses <;>
    simp [hvalid, hmem, bind, Except.bind]

lemma valid_responseDone {event : JsValue} {id status : List UInt16}
    (hid : (responseOf event).get "id" = .string id)
    (hstatus : (responseOf event).get "status" = .string status) :
    Valid S .realtimeResponseDone (responseData (responseOf event)) ↔
      Acceptable (.responseDone event) := by
  obtain ⟨hlength, hbounded⟩ := outputTypes_bounded (responseOf event)
  obtain ⟨htexts, hread⟩ := types_written S hbounded
  have hloads (d : JsonDict) : loadsFields (written S (responseData (responseOf event))) = some d ↔
      ∃ s, id = ofString s ∧ ∃ t, status = ofString t ∧ ∃ items,
        loadsItems (stringifyItems S (outputTypes (responseOf event))) = some items ∧
        [("response_id", .str s), ("status", .str t), ("output_types", .arr items),
          ("remote_audio_muted", .bool false)] = d := by
    have htail (tail : JsonDict) : loadsFields (written S
        [("output_types", .array (outputTypes (responseOf event))),
          ("remote_audio_muted", .bool false)]) = some tail ↔ ∃ items,
        loadsItems (stringifyItems S (outputTypes (responseOf event))) = some items ∧
          [("output_types", .arr items), ("remote_audio_muted", .bool false)] = tail := by
      refine (loadsFields_cons "output_types" _ _) ▸ ?_
      simp only [loads, Option.bind_eq_some_iff, Option.map_eq_some_iff]
      constructor
      · rintro ⟨-, ⟨items, hitems, rfl⟩, values, hvalues, htail⟩
        have hmuted : some [("remote_audio_muted", Json.bool false)] = some values := hvalues
        obtain rfl := Option.some.inj hmuted
        exact ⟨items, hitems, Option.some.inj htail⟩
      · rintro ⟨items, hitems, rfl⟩
        exact ⟨_, ⟨items, hitems, rfl⟩, _, rfl, rfl⟩
    simp only [responseData, hid, hstatus, loads_written_units, htail]
    constructor
    · rintro ⟨s, -, hs, ⟨t, -, ht, ⟨items, hitems, rfl⟩, rfl⟩, rfl⟩
      exact ⟨s, hs, t, ht, items, hitems, rfl⟩
    · rintro ⟨s, hs, t, ht, items, hitems, rfl⟩
      exact ⟨s, _, hs, ⟨t, _, ht, ⟨items, hitems, rfl⟩, rfl⟩, rfl⟩
  rw [Valid]
  simp only [hloads]
  constructor
  · rintro ⟨d, ⟨s, rfl, t, rfl, items, hitems, rfl⟩, hvalid⟩
    obtain ⟨hok, hsame, hscan⟩ := htexts items hitems
    obtain ⟨hprovider, hmem⟩ := (validate_responseDone (by omega) hok hscan).mp hvalid
    exact ⟨⟨s, hid, hprovider⟩, ⟨t, hmem, hstatus⟩, hread.mp ⟨items, hitems⟩⟩
  · rintro ⟨⟨s, hs, hprovider⟩, ⟨t, hmem, ht⟩, hreadable⟩
    obtain ⟨items, hitems⟩ := hread.mpr hreadable
    obtain ⟨hok, hsame, hscan⟩ := htexts items hitems
    exact ⟨_, ⟨s, JsValue.string.inj (hid.symm.trans hs), t,
      JsValue.string.inj (hstatus.symm.trans ht), items, hitems, rfl⟩,
      (validate_responseDone (by omega) hok hscan).mpr ⟨hprovider, hmem⟩⟩

lemma eq_string_of_isString {value : JsValue} (h : isString value = true) :
    ∃ units, value = .string units := by
  cases value with
  | string units => exact ⟨units, rfl⟩
  | _ => cases h

/-- The page sends the data of a response that has an identifier and a status. -/
lemma recordRealtimeResponseDone_eq {atMs : Binary64} {event : JsValue}
    {message : List (String × JsValue)} (h : recordRealtimeResponseDone atMs event = some message) :
    ∃ id status, (responseOf event).get "id" = .string id ∧
      (responseOf event).get "status" = .string status ∧
      message = timingMessage .realtimeResponseDone atMs (responseData (responseOf event)) := by
  simp only [recordRealtimeResponseDone] at h
  split_ifs at h with hstrings
  obtain ⟨hid, hstatus⟩ := Bool.and_eq_true_iff.mp hstrings
  obtain ⟨id, hid⟩ := eq_string_of_isString hid
  obtain ⟨status, hstatus⟩ := eq_string_of_isString hstatus
  refine ⟨id, status, hid, hstatus, (Option.some.inj h).symm.trans ?_⟩
  simp [recordTiming, controlTimingData, get_ofFields, responseData]

/-- **A timing message is accepted exactly if its texts are.** Whatever the spelling of numbers, the
controller takes the frame of a report for a timing message of the session if and only if the report
is acceptable; states, offers and answers always are. -/
theorem timing_accepted {sessionId : String} (hs : validateSessionId sessionId = .ok ())
    {atMs : Binary64} {r : Report} {frame : Document}
    (hframe : r.frame S sessionId atMs = some frame) :
    (∃ m, parseLoopbackMessage (readFrame frame) sessionId = .ok (.timing m)) ↔ Acceptable r := by
  have hread {name : TimingName} {data : List (String × JsValue)}
      (h : r.message atMs = some (timingMessage name atMs data)) :
      (∃ m, parseLoopbackMessage (readFrame frame) sessionId = .ok (.timing m)) ↔
        Valid S name data := by
    rw [Report.frame, h, Option.bind_some] at hframe
    exact timing_read S hs name atMs data hframe
  cases r with
  | peerConnectionState s =>
    exact (hread (by simp [Report.message, recordTiming, controlTimingData, get_ofFields])).trans
      (iff_of_true (valid_peerConnectionState S s) trivial)
  | iceConnectionState s =>
    exact (hread (by simp [Report.message, recordTiming, controlTimingData, get_ofFields])).trans
      (iff_of_true (valid_iceConnectionState S s) trivial)
  | iceGatheringState s =>
    exact (hread (by simp [Report.message, recordTiming, controlTimingData, get_ofFields])).trans
      (iff_of_true (valid_iceGatheringState S s) trivial)
  | dataChannelState s =>
    exact (hread (by simp [Report.message, recordTiming, controlTimingData, get_ofFields])).trans
      (iff_of_true (valid_dataChannelState S s) trivial)
  | sdpOfferCreated =>
    exact (hread rfl).trans (iff_of_true ⟨[], rfl, rfl⟩ trivial)
  | sdpAnswerApplied =>
    exact (hread rfl).trans (iff_of_true ⟨[], rfl, rfl⟩ trivial)
  | responseDone event =>
    rw [Report.frame, Option.bind_eq_some_iff] at hframe
    obtain ⟨message, hmessage, -⟩ := hframe
    obtain ⟨id, status, hid, hstatus, rfl⟩ := recordRealtimeResponseDone_eq hmessage
    exact (hread hmessage).trans (valid_responseDone S hid hstatus)
  | realtimeError error =>
    have hmessage : Report.message atMs (.realtimeError error) =
        some (timingMessage .realtimeError atMs (errorData error)) := by
      simp [Report.message, recordRealtimeError, recordTiming, controlTimingData, get_ofFields,
        errorData]
    exact (hread hmessage).trans (valid_realtimeError S error)
  | pageError kind message => exact (hread rfl).trans (valid_pageError S kind message)

/-- A spelling that writes every number with a fraction. -/
def plainSpelling : Spelling where
  write negative m := .decimal (.finite (negative && m.mant ≠ 0) m)
  reads_back _ m := ⟨m, rfl, rfl⟩

/-- 10.5 ms. -/
def tenAndHalf : Binary64 := ⟨21, -1, by decide, by decide, by decide⟩

theorem timing_accepted_boom : ∃ frame,
    (Report.pageError .error (ofString "boom")).frame plainSpelling "local-session-01" tenAndHalf =
      some frame ∧
    ∃ m, parseLoopbackMessage (readFrame frame) "local-session-01" = .ok (.timing m) := by
  have hframe : (Report.pageError .error (ofString "boom")).frame plainSpelling "local-session-01"
    tenAndHalf = some _ := rfl
  have hreadable : Acceptable (.pageError .error (ofString "boom")) := ⟨"boom", by decide⟩
  exact ⟨_, hframe, (timing_accepted plainSpelling (by decide) hframe).mpr hreadable⟩

/-- A message that is cut in the middle of a character. -/
def cutMessage : List UInt16 :=
  encode (List.replicate 511 'a' ++ [Char.ofNat 0x1F600])

lemma unreadable_cutMessage : readText (boundedMessage cutMessage) = none := by decide +kernel

/-- The controller cannot read a frame with such a message, which closes the control socket. -/
theorem timing_rejected : ∃ frame,
    (Report.pageError .error cutMessage).frame plainSpelling "local-session-01" tenAndHalf =
      some frame ∧
    parseLoopbackMessage (readFrame frame) "local-session-01" =
      .error (.validationError "Invalid JSON") := by
  refine ⟨_, sendControlMessage_timing _ _ _ _ _, ?_⟩
  have hdata : loadsFields (written plainSpelling [("kind", text PageErrorKind.error.value),
      ("message", .string (boundedMessage cutMessage))]) = none := by
    refine Option.eq_none_iff_forall_ne_some.mpr fun d hd => ?_
    obtain ⟨-, values, -, hvalues, -⟩ := (loads_written_units _ "kind" _ _ d).mp hd
    obtain ⟨s, -, hs, -⟩ := (loads_written_units _ "message" _ [] values).mp hvalues
    exact absurd unreadable_cutMessage (by simp [hs])
  have hload : loads (.object (written plainSpelling [("kind", text PageErrorKind.error.value),
      ("message", .string (boundedMessage cutMessage))])) = none := by
    rw [loads, hdata, Option.map_none]
  rw [readFrame, loads, loadsFields_cons, loadsFields_cons, loadsFields_cons, loadsFields_cons,
    hload]
  rfl

end HermesRealtime.PageTiming

import HermesRealtime.Binary64
import HermesRealtime.Serializing
import Mathlib.Algebra.Ring.Int.Defs
import Mathlib.Control.Monad.Basic

/-!
The measurement tool reads the traces that the controller has written. The writer puts the name of
an event under one key, and the reader looks for it under two others.
-/

namespace HermesRealtime.Measurement

open Values Text Timing Serializing

/-! ### The writer -/

section

variable (P : Platform) (dumps : Json → String)

def toJsonl (t : SessionTrace) : String :=
  String.ofList (['\n'].intercalate
    (t.events.map fun event => (dumps (.obj (serializeEvent P t event))).toList))

end

/-! ### The reader -/

/-- `str.splitlines`, `acc` being the line so far. -/
def splitlinesFrom (acc : List Char) : List Char → List (List Char)
  | [] => if acc = [] then [] else [acc.reverse]
  | '\r' :: '\n' :: rest => acc.reverse :: splitlinesFrom [] rest
  | c :: rest =>
    if isLineBreak c then acc.reverse :: splitlinesFrom [] rest else splitlinesFrom (c :: acc) rest

/-- A `MeasurementError`. -/
def measurementError (text : String) : PyError := .runtimeError text

/-- The loop of `load_trace_jsonl`; `loads` has no result for a `JSONDecodeError`. -/
def loadLines (loads : String → Option Json) : ℕ → List (List Char) →
    Except PyError (List JsonDict)
  | _, [] => .ok []
  | number, line :: lines =>
    if line.all isSpace then loadLines loads (number + 1) lines
    else match loads (String.ofList line) with
      | none => .error (measurementError
          ("trace line " ++ toString number ++ " is not valid JSON"))
      | some (.obj value) => do
        let values ← loadLines loads (number + 1) lines
        return value :: values
      | some _ => .error (measurementError
          ("trace line " ++ toString number ++ " is not an object"))

/-- `load_trace_jsonl` of a file with the text, `none` where it cannot be read. -/
def loadTraceJsonl (loads : String → Option Json) : Option String →
    Except PyError (List JsonDict)
  | none => .error (measurementError "could not read lifecycle trace")
  | some text => loadLines loads 1 (splitlinesFrom [] text.toList)

/-- `int(value)` of a number that is not negative. -/
def intOf (x : Binary64) : ℤ :=
  if 0 ≤ x.exp then x.mant * 2 ^ x.exp.toNat else x.mant / 2 ^ (-x.exp).toNat

def invalidTimestamp : PyError := measurementError "trace event has invalid monotonic timestamp"

/-- `_event_timestamp_ns`; a large integer has no `float`. -/
def eventTimestampNs (event : JsonDict) : Except PyError ℤ :=
  match dictGet event "monotonic_ns" with
  | some (.int z) =>
    if (Binary64.ofNat? z.natAbs).isNone then .error .overflowError
    else if z < 0 then .error invalidTimestamp
    else .ok z
  | some (.float (.finite negative x)) =>
    if negative ∧ x.mant ≠ 0 then .error invalidTimestamp else .ok (intOf x)
  | _ => .error invalidTimestamp

/-- A text with something in it. -/
def nonemptyText : Option Json → Option String
  | some (.str text) => if text.toList = [] then none else some text
  | _ => none

/-- `event.get("event", event.get("type"))`. -/
def eventName (event : JsonDict) : Option Json :=
  (dictGet event "event").orElse fun _ => dictGet event "type"

structure Marker where
  sessionId : String
  name : String
  timestamp : ℤ
  deriving DecidableEq

def normalizeEvent (event : JsonDict) : Except PyError Marker := do
  match nonemptyText (dictGet event "session_id") with
  | none => .error (measurementError "trace event has invalid session_id")
  | some sessionId => match nonemptyText (eventName event) with
    | none => .error (measurementError "trace event has invalid event name")
    | some name => return ⟨sessionId, name, ← eventTimestampNs event⟩

def lifecyclePairs : List (String × String × String) :=
  [("wake_detected_to_page_process_started_ms", "wake_detected", "page_process_started"),
   ("page_started_to_webrtc_live_ms", "page_started", "webrtc_live"),
   ("speech_stopped_to_first_model_audio_ms", "speech_stopped", "first_model_audio"),
   ("user_interruption_to_local_playback_suppressed_ms", "user_interruption",
    "local_playback_suppressed"),
   ("stop_or_close_to_microphone_tracks_stopped_ms", "stop_or_close", "microphone_tracks_stopped"),
   ("teardown_start_to_wake_rearmed_ms", "teardown_start", "wake_rearmed")]

/-- The timestamps of the markers of a session that have the name. -/
def timestamps (markers : List Marker) (sessionId name : String) : List ℤ :=
  (markers.filter fun m => m.sessionId = sessionId ∧ m.name = name).map Marker.timestamp

/-- The first start marker of a session with an end marker that is not earlier. -/
def sessionDelta (markers : List Marker) (startName endName sessionId : String) : Option ℤ :=
  (timestamps markers sessionId startName).findSome? fun start =>
    (((timestamps markers sessionId endName).filter fun ns => start ≤ ns).min?).map fun ns =>
      ns - start

/-- The first session with such a pair, in the order of the events. -/
def pairDelta (markers : List Marker) (startName endName : String) : Option ℤ :=
  (markers.map Marker.sessionId).eraseDups.findSome? (sessionDelta markers startName endName)

structure Deltas where
  values : List (String × Option PyFloat)
  errors : List String

/-- `compute_lifecycle_deltas`; `milliseconds` is the rounded quotient of a time by a million. -/
def computeLifecycleDeltas (milliseconds : ℤ → PyFloat) (events : List JsonDict) :
    Except PyError Deltas := do
  let markers ← events.mapM normalizeEvent
  return {
    values := lifecyclePairs.map fun (metric, startName, endName) =>
      (metric, (pairDelta markers startName endName).map milliseconds)
    errors := lifecyclePairs.filterMap fun (_, startName, endName) =>
      if (pairDelta markers startName endName).isNone then
        some ("missing marker pair: " ++ startName ++ " -> " ++ endName)
      else none }

/-! ### The lines of a trace -/

/-- A line of JSON: something is on it, and it is one line. -/
structure IsLine (line : List Char) : Prop where
  unbroken : ∀ c ∈ line, isLineBreak c = false
  notBlank : line.all isSpace = false

lemma splitlinesFrom_cons {c : Char} (hc : isLineBreak c = false) (acc rest : List Char) :
    splitlinesFrom acc (c :: rest) = splitlinesFrom (c :: acc) rest := by
  rw [splitlinesFrom.eq_3 acc c rest ?_, if_neg (by simp [hc])]
  rintro rest' rfl -
  simp [isLineBreak] at hc

lemma splitlinesFrom_append {line : List Char} (h : ∀ c ∈ line, isLineBreak c = false)
    (acc rest : List Char) :
    splitlinesFrom acc (line ++ rest) = splitlinesFrom (line.reverse ++ acc) rest := by
  induction line generalizing acc with
  | nil => rfl
  | cons c line ih =>
    obtain ⟨hc, hline⟩ := List.forall_mem_cons.mp h
    rw [List.cons_append, splitlinesFrom_cons hc, ih hline]
    simp

lemma splitlinesFrom_newline (acc rest : List Char) :
    splitlinesFrom acc ('\n' :: rest) = acc.reverse :: splitlinesFrom [] rest := by
  rw [splitlinesFrom.eq_3 acc '\n' rest (by simp), if_pos (by decide)]

lemma IsLine.ne_nil {line : List Char} (h : IsLine line) : line ≠ [] := by
  rintro rfl
  cases h.notBlank

lemma splitlines_intercalate {lines : List (List Char)} (h : ∀ line ∈ lines, IsLine line) :
    splitlinesFrom [] (['\n'].intercalate lines) = lines := by
  induction lines with
  | nil => rfl
  | cons line lines ih =>
    obtain ⟨hline, hlines⟩ := List.forall_mem_cons.mp h
    cases lines with
    | nil =>
      have hsplit := splitlinesFrom_append hline.unbroken [] []
      rw [List.append_nil] at hsplit
      simp [hsplit, splitlinesFrom, hline.ne_nil]
    | cons next lines =>
      rw [List.intercalate_cons_cons, List.append_assoc, splitlinesFrom_append hline.unbroken,
        List.singleton_append, splitlinesFrom_newline, ih hlines]
      simp

/-- **The loading half holds**: where each event is written to one line that reads as it was
written, the reader gets the events as they were written, one for each. -/
theorem loadTraceJsonl_toJsonl {P : Platform} {dumps : Json → String}
    {loads : String → Option Json} {t : SessionTrace}
    (hline : ∀ event ∈ t.events, IsLine (dumps (.obj (serializeEvent P t event))).toList)
    (hround : ∀ event ∈ t.events,
      loads (dumps (.obj (serializeEvent P t event))) = some (.obj (serializeEvent P t event))) :
    loadTraceJsonl loads (some (toJsonl P dumps t)) =
      .ok (t.events.map (serializeEvent P t)) := by
  have hlines : ∀ (events : List TimingEvent) (number : ℕ), events ⊆ t.events →
      loadLines loads number
          (events.map fun event => (dumps (.obj (serializeEvent P t event))).toList) =
        .ok (events.map (serializeEvent P t)) := by
    intro events
    induction events with
    | nil => exact fun _ _ => rfl
    | cons event events ih =>
      intro number hsub
      obtain ⟨hmem, hrest⟩ := List.cons_subset.mp hsub
      have hread := hround event hmem
      simp [loadLines, (hline event hmem).notBlank, hread, ih (number + 1) hrest, bind,
        Except.bind, pure, Except.pure]
  have hall : ∀ line ∈ t.events.map fun event =>
      (dumps (.obj (serializeEvent P t event))).toList, IsLine line := by
    simpa using hline
  rw [loadTraceJsonl, toJsonl, String.toList_ofList, splitlines_intercalate hall]
  exact hlines t.events 1 (List.Subset.refl _)

/-! ### The deltas of markers -/

lemma mem_timestamps {markers : List Marker} {sessionId name : String} {ns : ℤ} :
    ns ∈ timestamps markers sessionId name ↔ ⟨sessionId, name, ns⟩ ∈ markers := by
  unfold timestamps
  simp only [List.mem_map, List.mem_filter, decide_eq_true_eq]
  constructor
  · rintro ⟨m, ⟨hmem, rfl, rfl⟩, rfl⟩
    exact hmem
  · exact fun hmem => ⟨_, ⟨hmem, rfl, rfl⟩, rfl⟩

lemma sessionDelta_isSome_iff {markers : List Marker} {startName endName sessionId : String} :
    (sessionDelta markers startName endName sessionId).isSome ↔
      ∃ start stop, ⟨sessionId, startName, start⟩ ∈ markers ∧
        ⟨sessionId, endName, stop⟩ ∈ markers ∧ start ≤ stop := by
  unfold sessionDelta
  simp [List.findSome?_isSome_iff, mem_timestamps]

/-- **A delta is reported exactly for a pair of markers** of one session in which the end is not
earlier than the start. -/
theorem pairDelta_isSome_iff {markers : List Marker} {startName endName : String} :
    (pairDelta markers startName endName).isSome ↔
      ∃ sessionId start stop, ⟨sessionId, startName, start⟩ ∈ markers ∧
        ⟨sessionId, endName, stop⟩ ∈ markers ∧ start ≤ stop := by
  unfold pairDelta
  simp only [List.findSome?_isSome_iff, List.mem_eraseDups, sessionDelta_isSome_iff]
  constructor
  · rintro ⟨sessionId, -, h⟩
    exact ⟨sessionId, h⟩
  · rintro ⟨sessionId, start, stop, hstart, h⟩
    exact ⟨sessionId, List.mem_map.mpr ⟨_, hstart, rfl⟩, start, stop, hstart, h⟩

/-- Of events that have the fields it looks for, the reader reports what the markers say. -/
theorem computeLifecycleDeltas_reports {milliseconds : ℤ → PyFloat} {events : List JsonDict}
    {markers : List Marker} (hmarkers : events.mapM normalizeEvent = .ok markers) :
    ∃ deltas, computeLifecycleDeltas milliseconds events = .ok deltas ∧
      ∀ metric startName endName, (metric, startName, endName) ∈ lifecyclePairs →
        (∃ sessionId start stop, ⟨sessionId, startName, start⟩ ∈ markers ∧
          ⟨sessionId, endName, stop⟩ ∈ markers ∧ start ≤ stop) →
            ∃ ms, (metric, some ms) ∈ deltas.values := by
  refine ⟨_, by rw [computeLifecycleDeltas, hmarkers]; rfl, ?_⟩
  intro metric startName endName hpair hmarks
  obtain ⟨ns, hns⟩ := Option.isSome_iff_exists.mp (pairDelta_isSome_iff.mpr hmarks)
  exact ⟨milliseconds ns, List.mem_map.mpr ⟨_, hpair, by simp [hns]⟩⟩

/-! ### The reader and the writer -/

/-- The serialized event has no name for the reader. -/
lemma eventName_serializeEvent (P : Platform) (t : SessionTrace) (event : TimingEvent) :
    eventName (serializeEvent P t event) = none := rfl

lemma normalizeEvent_serializeEvent (P : Platform) (t : SessionTrace) (event : TimingEvent) :
    ∃ e, normalizeEvent (serializeEvent P t event) = .error e := by
  unfold normalizeEvent
  rw [eventName_serializeEvent]
  cases nonemptyText (dictGet (serializeEvent P t event) "session_id") with
  | none => exact ⟨_, rfl⟩
  | some sessionId => exact ⟨_, rfl⟩

lemma computeLifecycleDeltas_serialized {P : Platform} {milliseconds : ℤ → PyFloat}
    {t : SessionTrace} (hne : t.events ≠ []) :
    ∃ e, computeLifecycleDeltas milliseconds (t.events.map (serializeEvent P t)) = .error e := by
  obtain ⟨event, events, hevents⟩ := List.exists_cons_of_ne_nil hne
  obtain ⟨e, he⟩ := normalizeEvent_serializeEvent P t event
  refine ⟨e, ?_⟩
  simp [computeLifecycleDeltas, hevents, he, bind, Except.bind]

/-- The trace has the start marker, and after it the end marker with a time that is not earlier. -/
def HasPair (t : SessionTrace) (startName endName : String) : Prop :=
  ∃ first last, [first, last].Sublist t.events ∧ first.name = startName ∧ last.name = endName ∧
    first.monotonicNs ≤ last.monotonicNs

/-- The tool reads the trace that the controller writes. -/
def ReadsTrace (P : Platform) (dumps : Json → String) (loads : String → Option Json)
    (milliseconds : ℤ → PyFloat) (t : SessionTrace) : Prop :=
  ∃ events, loadTraceJsonl loads (some (toJsonl P dumps t)) = .ok events ∧
    events = t.events.map (serializeEvent P t) ∧
    ∃ deltas, computeLifecycleDeltas milliseconds events = .ok deltas ∧
      ∀ metric startName endName, (metric, startName, endName) ∈ lifecyclePairs →
        HasPair t startName endName → ∃ ms, (metric, some ms) ∈ deltas.values

/-- **The tool reads no trace of the controller**: it finds no name in the first event. -/
theorem not_readsTrace (P : Platform) (dumps : Json → String) (loads : String → Option Json)
    (milliseconds : ℤ → PyFloat) {t : SessionTrace} (hne : t.events ≠ []) :
    ¬ ReadsTrace P dumps loads milliseconds t := by
  rintro ⟨events, -, rfl, deltas, hdeltas, -⟩
  obtain ⟨e, he⟩ := computeLifecycleDeltas_serialized hne
  cases he.symm.trans hdeltas

/-- A trace with one event, and its line. -/
def wakeEvent : TimingEvent := ⟨"wake_detected", 5, "2026-07-21T10:00:00Z", .wake, []⟩

def wakeTrace : SessionTrace := ⟨"s1", [wakeEvent]⟩

def wakeLine : String :=
  "\x7b\"session_id\":\"s1\",\"name\":\"wake_detected\",\"monotonic_ns\":5," ++
    "\"wall_time\":\"2026-07-21T10:00:00Z\",\"source\":\"wake\",\"data\":\x7b\x7d\x7d"

/-- What `json` does with the event and its line. -/
def wakeDumps : Json → String := fun _ => wakeLine

def wakeLoads (line : String) : Option Json :=
  if line = wakeLine then some (.obj (serializeEvent asciiPlatform wakeTrace wakeEvent)) else none

theorem not_readsTrace_wake :
    ¬ ReadsTrace asciiPlatform wakeDumps wakeLoads (fun _ => .nan) wakeTrace :=
  not_readsTrace asciiPlatform wakeDumps wakeLoads (fun _ => .nan) (by simp [wakeTrace])

/-- The event is loaded as it was written, and then has no name. -/
theorem wakeTrace_unread :
    loadTraceJsonl wakeLoads (some (toJsonl asciiPlatform wakeDumps wakeTrace)) =
      .ok [serializeEvent asciiPlatform wakeTrace wakeEvent] ∧
    computeLifecycleDeltas (fun _ => .nan) [serializeEvent asciiPlatform wakeTrace wakeEvent] =
      .error (measurementError "trace event has invalid event name") ∧
    ¬ ReadsTrace asciiPlatform wakeDumps wakeLoads (fun _ => .nan) wakeTrace := by
  have hunbroken : (wakeLine.toList.all fun c => !isLineBreak c) = true := by decide +kernel
  have hline : IsLine wakeLine.toList := by
    refine ⟨fun c hc => ?_, by decide +kernel⟩
    simpa using List.all_eq_true.mp hunbroken c hc
  have hraises : computeLifecycleDeltas (fun _ => .nan)
      [serializeEvent asciiPlatform wakeTrace wakeEvent] =
        .error (measurementError "trace event has invalid event name") := rfl
  refine ⟨?_, hraises, ?_⟩
  · refine loadTraceJsonl_toJsonl (fun event hmem => hline) fun event hmem => ?_
    rw [List.mem_singleton.mp hmem]
    exact if_pos rfl
  · rintro ⟨events, -, rfl, deltas, hdeltas, -⟩
    cases hraises.symm.trans hdeltas

end HermesRealtime.Measurement

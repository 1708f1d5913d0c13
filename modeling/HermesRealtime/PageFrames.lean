import HermesRealtime.Frames

/-!
The frames of the control socket as the voice page reads and writes them: the task events it
accepts from the controller, and the timing messages it sends.

What the page holds is JavaScript's: a text is measured in UTF-16 units, and a number of a frame is
the double it rounds to.
-/

namespace HermesRealtime.PageFrames

open Values Text Protocol Utf16 Documents Frames

/-! ### What the page accepts -/

/-- `value === text`. -/
def isText (text : String) : JsValue → Bool
  | .string units => units = ofString text
  | _ => false

/-- `value === localSessionId`. -/
def isLocalSession : Option String → JsValue → Bool
  | none, .null => true
  | some sessionId, value => isText sessionId value
  | _, _ => false

/-- The unit of a character in `[A-Za-z0-9_-]`. -/
def isIdUnit (u : UInt16) : Bool :=
  let n := u.toNat
  (65 ≤ n && n ≤ 90) || (97 ≤ n && n ≤ 122) || (48 ≤ n && n ≤ 57) || n == 95 || n == 45

/-- `/^[A-Za-z0-9_-]{3,128}$/u`, of a string. -/
def isTaskId : JsValue → Bool
  | .string units => decide (3 ≤ units.length) && decide (units.length ≤ 128) && units.all isIdUnit
  | _ => false

def isTitle : JsValue → Bool
  | .string units => decide (1 ≤ units.length) && decide (units.length ≤ 160)
  | _ => false

/-- `Number.isInteger(value) && value >= 1`. -/
def isEventId : JsValue → Bool
  | .number (.finite false m) => m.isInteger && decide (2 ^ 1074 ≤ m.scaled)
  | _ => false

def validKinds : List String :=
  ["completed", "blocked", "gave_up", "crashed", "timed_out", "block_loop_detected"]

def isValidKind (value : JsValue) : Bool := validKinds.any fun kind => isText kind value

def isBoolean : JsValue → Bool
  | .bool _ => true
  | _ => false

def isDetail : JsValue → Bool
  | .undefined => true
  | .null => true
  | .string _ => true
  | _ => false

/-- `parseTaskEventMessage`; a value that is no object has no type either. -/
def parseTaskEventMessage (localSessionId : Option String) (event : JsValue) :
    Except String JsValue :=
  if isText "task_event" (event.get "type") &&
      isLocalSession localSessionId (event.get "session_id") &&
      isEventId (event.get "event_id") && isTaskId (event.get "task_id") &&
      isTitle (event.get "title") && isValidKind (event.get "kind") &&
      isBoolean (event.get "requires_user_input") then
    if isDetail (event.get "detail") then .ok event else .error "Invalid task event detail"
  else .error "Invalid task event from controller"

/-- What a frame of the controller makes the page do. -/
inductive Received
  | stop
  | sessionClosed
  | taskEvent (event : JsValue)
  | nothing
  | failure

/-- The handler of the control socket. -/
def receive (localSessionId : Option String) (frame : Document) : Received :=
  match parse frame with
  | .null => .failure
  | event =>
    if isText "stop" (event.get "type") then .stop
    else if isText "session_closed" (event.get "type") then .sessionClosed
    else if isText "task_event" (event.get "type") then
      match parseTaskEventMessage localSessionId event with
      | .ok event => .taskEvent event
      | .error _ => .failure
    else .nothing

/-- The frame of a message. -/
def frameOf (message : LoopbackMessage) : Document := dumps (.obj (modelDump message))

/-! ### Objects that are read back -/

lemma isText_ofString (s t : String) : isText s (.string (ofString t)) = decide (t = s) := by
  simp [isText, ofString_injective.eq_iff]

lemma get_ofFields (fields : List (String × JsValue)) (key : String) :
    (JsValue.ofFields fields).get key =
      ((fields.find? fun field => field.1 = key).map Prod.snd).getD .undefined := by
  rw [JsValue.ofFields, JsValue.get, List.find?_map, Option.map_map]
  have hkeys : (fun field : List UInt16 × JsValue => decide (field.1 = ofString key)) ∘
      (fun field : String × JsValue => (ofString field.1, field.2)) =
        fun field => decide (field.1 = key) := by
    funext field
    simp [ofString_injective.eq_iff]
  rw [hkeys]
  rfl

lemma parseFields_dumpsFields (fields : JsonDict) :
    parseFields (dumpsFields fields) =
      fields.map fun field => (ofString field.1, parse (dumps field.2)) := by
  induction fields with
  | nil => rfl
  | cons field fields ih => simp [dumpsFields, parseFields, ih]

/-- The page reads the fields Python has written. -/
lemma parse_obj (fields : JsonDict) : parse (dumps (.obj fields)) =
    .ofFields (fields.map fun field => (field.1, parse (dumps field.2))) := by
  simp [dumps, parse, parseFields_dumpsFields, JsValue.ofFields]

/-! ### A task event the controller has built -/

lemma isIdChar_bounds {c : Char} (h : isIdChar c = true) : c.toNat < 0x10000 ∧
    isIdUnit (UInt16.ofNat c.toNat) = true := by
  have hrange := isIdChar_range h
  refine ⟨by omega, ?_⟩
  simp only [isIdUnit, toNat_unit (show c.toNat < 0x10000 by omega), Bool.or_eq_true,
    Bool.and_eq_true, decide_eq_true_eq, beq_iff_eq]
  omega

lemma isTaskId_ofString {s : String} (h3 : 3 ≤ s.toList.length) (h128 : s.toList.length ≤ 128)
    (hid : s.toList.all isIdChar = true) : isTaskId (.string (ofString s)) = true := by
  rw [List.all_eq_true] at hid
  have hunits : ofString s = s.toList.map fun c => UInt16.ofNat c.toNat :=
    encode_basic fun c hc => (isIdChar_bounds (hid c hc)).1
  simp only [isTaskId, hunits, List.length_map, Bool.and_eq_true, decide_eq_true_eq,
    List.all_map, List.all_eq_true]
  exact ⟨⟨h3, h128⟩, fun c hc => (isIdChar_bounds (hid c hc)).2⟩

lemma isValidKind_value (kind : TaskEventKind) :
    isValidKind (.string (ofString kind.value)) = true := by
  simp only [isValidKind, List.any_eq_true]
  refine ⟨kind.value, ?_, by simp [isText]⟩
  cases kind <;> simp [validKinds, TaskEventKind.value]

lemma toDouble_int (n : ℕ) : (Literal.int n).toDouble =
    ((Binary64.ofNat? n).map (PyFloat.finite false)).getD (.inf false) := by
  unfold Literal.toDouble
  dsimp only [Int.natAbs_natCast]
  generalize Binary64.ofNat? n = rounded
  cases rounded <;> simp

/-- The page takes an event id if it is finite as a double. -/
lemma isEventId_int {n : ℕ} (hpos : 1 ≤ n) :
    isEventId (.number (Literal.int n).toDouble) = true ↔ n < Binary64.overflow := by
  rw [← Binary64.ofNat?_isSome_iff, toDouble_int]
  rcases hm : Binary64.ofNat? n with _ | m
  · exact iff_of_false (by simp [isEventId]) (by simp)
  · have hone := Binary64.ofNat?_ge_one hpos hm
    have haccepted : isEventId (.number (.finite false m)) = true := by
      rw [isEventId, Binary64.ofNat?_isInteger hm, Bool.true_and]
      exact decide_eq_true hone
    exact iff_of_true haccepted rfl

/-- The parts of a built task event the page looks at. -/
structure Sendable (m : TaskEventMessage) : Prop where
  eventId : 1 ≤ m.eventId
  taskIdMin : 3 ≤ m.taskId.toList.length
  taskIdMax : m.taskId.toList.length ≤ 128
  taskId : m.taskId.toList.all isIdChar = true
  title : m.title ≠ ""

lemma sendable_of_build {m built : TaskEventMessage} (h : m.build = .ok built) :
    Sendable built := by
  obtain ⟨-, hevent, htask, -⟩ := build_fields h
  obtain ⟨hfields, htitle⟩ := build_checked h
  simp only [TaskEventMessage.fieldsOk, Bool.and_eq_true, decide_eq_true_eq] at hfields
  obtain ⟨⟨⟨⟨⟨⟨hid, hmin⟩, hmax⟩, hall⟩, -⟩, -⟩, -⟩ := hfields
  rw [← hevent] at hid
  rw [← htask] at hmin hmax hall
  exact ⟨hid, hmin, hmax, hall, validateBoundedText_ne htitle⟩

/-- The title in UTF-16 units is not empty, and at most as long as the page allows. -/
lemma isTitle_ofString {s : String} (hs : s ≠ "") :
    isTitle (.string (ofString s)) = decide ((ofString s).length ≤ 160) := by
  have hne : ofString s ≠ [] := by
    rw [ofString, Ne, encode_eq_nil]
    exact fun h => hs (String.toList_eq_nil_iff.mp h)
  have hpos : 1 ≤ (ofString s).length := List.length_pos_iff.mpr hne
  simp [isTitle, hpos]

/-- The title has at most 160 UTF-16 units, and the event id is finite as a double. -/
def Understood (m : TaskEventMessage) : Prop :=
  (ofString m.title).length ≤ 160 ∧ m.eventId.toNat < Binary64.overflow

instance (m : TaskEventMessage) : Decidable (Understood m) := inferInstanceAs (Decidable (_ ∧ _))

lemma isDetail_dumps (detail : Option String) :
    isDetail (parse (dumps ((detail.map Json.str).getD .null))) = true := by
  cases detail <;> rfl

/-- The properties of the event the page reads. -/
lemma get_frame (m : TaskEventMessage) :
    let event := parse (frameOf (.taskEvent m))
    event.get "type" = .string (ofString "task_event") ∧
      event.get "session_id" = .string (ofString m.sessionId) ∧
      event.get "event_id" = .number (Literal.int m.eventId).toDouble ∧
      event.get "task_id" = .string (ofString m.taskId) ∧
      event.get "title" = .string (ofString m.title) ∧
      event.get "kind" = .string (ofString m.kind.value) ∧
      event.get "requires_user_input" = .bool m.requiresUserInput ∧
      event.get "detail" = parse (dumps ((m.detail.map Json.str).getD .null)) := by
  simp only [frameOf, modelDump, parse_obj, get_ofFields, List.map_cons, List.map_nil]
  simp [dumps, parse]

/-- The page accepts the frame as it is, or not at all. -/
lemma parse_frame {m : TaskEventMessage} (hs : Sendable m) :
    parseTaskEventMessage (some m.sessionId) (parse (frameOf (.taskEvent m))) =
      if Understood m then .ok (parse (frameOf (.taskEvent m)))
      else .error "Invalid task event from controller" := by
  obtain ⟨htype, hsession, hevent, htask, htitle, hkind, hrequires, hdetail⟩ := get_frame m
  obtain ⟨n, hn⟩ := Int.eq_ofNat_of_zero_le (show 0 ≤ m.eventId by have := hs.eventId; omega)
  have hid := isEventId_int (show 1 ≤ n by have := hs.eventId; omega)
  have hchecks : (isText "task_event" (.string (ofString "task_event")) &&
      isLocalSession (some m.sessionId) (.string (ofString m.sessionId)) &&
      isEventId (.number (Literal.int m.eventId).toDouble) &&
      isTaskId (.string (ofString m.taskId)) && isTitle (.string (ofString m.title)) &&
      isValidKind (.string (ofString m.kind.value)) &&
      isBoolean (.bool m.requiresUserInput)) = true ↔
      Understood m := by
    rw [isLocalSession, isText_ofString, isText_ofString, isTitle_ofString hs.title,
      isTaskId_ofString hs.taskIdMin hs.taskIdMax hs.taskId, isValidKind_value, isBoolean,
      Understood, hn, Int.toNat_natCast, ← hid]
    simp [and_comm]
  rw [parseTaskEventMessage, htype, hsession, hevent, htask, htitle, hkind, hrequires, hdetail,
    isDetail_dumps]
  by_cases hunderstood : Understood m
  · rw [if_pos (hchecks.mpr hunderstood), if_pos rfl, if_pos hunderstood]
  · rw [if_neg (mt hchecks.mp hunderstood), if_neg hunderstood]

/-- **A task event the controller has built is understood exactly if its title is short in UTF-16.**
The page accepts its frame if and only if the title has at most 160 UTF-16 units, where the
controller has counted characters, and the event id is finite as a double. -/
theorem taskEvent_understood {m built : TaskEventMessage} (h : m.build = .ok built) :
    (∃ event, parseTaskEventMessage (some built.sessionId) (parse (frameOf (.taskEvent built))) =
      .ok event) ↔ Understood built := by
  rw [parse_frame (sendable_of_build h)]
  split_ifs with hunderstood
  · exact iff_of_true ⟨_, rfl⟩ hunderstood
  · exact iff_of_false (fun ⟨_, h⟩ => by cases h) hunderstood

/-- What is not understood ends the conversation. -/
theorem taskEvent_received {m built : TaskEventMessage} (h : m.build = .ok built) :
    receive (some built.sessionId) (frameOf (.taskEvent built)) =
      if Understood built then .taskEvent (parse (frameOf (.taskEvent built))) else .failure := by
  have hparse := parse_frame (sendable_of_build h)
  obtain ⟨htype, -⟩ := get_frame built
  obtain ⟨fields, hobject⟩ :
      ∃ fields, parse (frameOf (.taskEvent built)) = .object fields := ⟨_, rfl⟩
  rw [hobject] at hparse htype
  have hstop : isText "stop" (.string (ofString "task_event")) = false := by
    simp [isText_ofString]
  have hclosed : isText "session_closed" (.string (ofString "task_event")) = false := by
    simp [isText_ofString]
  have hevent : isText "task_event" (.string (ofString "task_event")) = true := by
    simp [isText_ofString]
  simp only [receive, hobject, htype, hstop, hclosed, hevent, hparse, Bool.false_eq_true, if_true,
    if_false]
  split_ifs <;> rfl

/-- A task event with a title of `n` characters beyond the basic plane. -/
def titled (n : ℕ) : TaskEventMessage where
  sessionId := "voice-one-01"
  eventId := 1
  taskId := "task-1"
  kind := .completed
  title := String.ofList (List.replicate n (Char.ofNat 0x1F600))
  detail := none
  requiresUserInput := false
  blockKind := none

/-- Such a title is one word, which stays as it is. -/
lemma titled_build {n : ℕ} (hpos : n ≠ 0) (hn : n ≤ 160) : (titled n).build = .ok (titled n) := by
  have hchars : ∀ c ∈ (titled n).title.toList, c = Char.ofNat 0x1F600 := by
    simp only [titled, String.toList_ofList]
    exact fun c hc => List.eq_of_mem_replicate hc
  have hlength : (titled n).title.toList.length = n := by simp [titled]
  have hne : (titled n).title.toList ≠ [] :=
    List.length_pos_iff.mp (by omega)
  have hwords : joinWords (titled n).title.toList = (titled n).title.toList := by
    have h := wordsFrom_append [] [] (fun c hc => hchars c hc ▸ (by decide :
      isSpace (Char.ofNat 0x1F600) = false))
    rw [List.append_nil, List.append_nil, wordsFrom, if_neg (by simpa using hne)] at h
    rw [joinWords, h]
    simp
  have hclean : (titled n).title.toList.any
      (fun c => c.toNat < 32 && c != '\t' && c != '\n') = false := by
    simp only [List.any_eq_false]
    exact fun c hc => hchars c hc ▸ by decide
  have hsession : validateSessionId "voice-one-01" = .ok () := by decide
  have hok : (titled n).fieldsOk = true := by
    rw [TaskEventMessage.fieldsOk, hlength]
    simp +decide [titled, hn, Nat.one_le_iff_ne_zero, hpos]
  have htitle : validateBoundedText (titled n).title = .ok (titled n).title := by
    rw [validateBoundedText, if_neg (by simp [hclean]), hwords, String.ofList_toList,
      if_neg fun h => hne (by rw [h, String.toList_empty])]
  rw [TaskEventMessage.build, hok, htitle]
  simp [titled, hsession, validateOptionalText, bind, Except.bind, pure, Except.pure]

lemma titled_understood {n : ℕ} : Understood (titled n) ↔ n ≤ 80 := by
  have hunits : (ofString (titled n).title).length = n + n := by
    have hastral : astral (Char.ofNat 0x1F600) = true := by decide
    simp [titled, ofString, length_encode, List.countP_replicate, hastral]
  have hid : (titled n).eventId.toNat < Binary64.overflow :=
    (by decide +kernel : 1 < Binary64.overflow)
  rw [Understood, hunits]
  omega

theorem taskEvent_understood_titled : ∃ event, parseTaskEventMessage (some "voice-one-01")
    (parse (frameOf (.taskEvent (titled 80)))) = .ok event :=
  (taskEvent_understood (titled_build (by decide) (by decide))).mpr (titled_understood.mpr le_rfl)

/-- One more such character, and the page takes the frame for a failure of the controller. -/
theorem taskEvent_tooLong : (titled 81).build = .ok (titled 81) ∧
    ¬∃ event, parseTaskEventMessage (some "voice-one-01")
      (parse (frameOf (.taskEvent (titled 81)))) =
      .ok event := by
  have hbuild : (titled 81).build = .ok (titled 81) := titled_build (by decide) (by decide)
  refine ⟨hbuild, ?_⟩
  have hlong : ¬Understood (titled 81) := fun h => absurd (titled_understood.mp h) (by decide)
  have hparse := parse_frame (sendable_of_build hbuild)
  rw [if_neg hlong] at hparse
  rintro ⟨event, hevent⟩
  cases hparse.symm.trans hevent

end HermesRealtime.PageFrames

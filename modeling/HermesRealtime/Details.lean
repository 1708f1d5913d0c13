import HermesRealtime.TaskLanes

/-!
What a poll makes of an event, whatever its payload says.

A payload is read when its text is no JSON or no object, unless `json.loads` raises something
that is not caught: then none of the rows is read. The detail is the first text among the keys
of the kind that is not blank once it has been bounded. Text that is only white space is passed
over; the empty text is not, since it has no first line. The limit of a worker that timed out
is put into a sentence as it is. Lone surrogates reach the notifier, whose subprocess cannot be
given them, and the message, which is no valid one.
-/

namespace HermesRealtime.Details

open Values Text Checks Protocol TaskEvents TaskRuns TaskLanes Runs

/-! ### Messages that can be built -/

/-- Its own construction leaves the message as it is. -/
def Valid (m : TaskEventMessage) : Prop := m.build = .ok m

/-- What `TaskEventMessage` asks of a task id. -/
def taskIdOk (taskId : String) : Bool :=
  decide (3 ≤ taskId.toList.length) && decide (taskId.toList.length ≤ 128) &&
    taskId.toList.all isIdChar

lemma fieldsOk_iff (m : TaskEventMessage) : m.fieldsOk = true ↔
    1 ≤ m.eventId ∧ taskIdOk m.taskId = true ∧ 1 ≤ m.title.toList.length ∧
      m.title.toList.length ≤ 160 ∧ ∀ detail ∈ m.detail, detail.toList.length ≤ 400 := by
  simp only [TaskEventMessage.fieldsOk, taskIdOk, Bool.and_eq_true, decide_eq_true_eq,
    Option.all_eq_true]
  tauto

variable {limit : ℕ} {text : String}

lemma nonempty_of_presentable (h : Presentable limit text) : 1 ≤ text.toList.length := by
  rw [Nat.one_le_iff_ne_zero, Ne, List.length_eq_zero_iff]
  intro hnil
  exact h.solid (by simp [Blank, hnil])

/-- Presentable text passes the check of the protocol. -/
lemma validateBoundedText_ok (h : Presentable limit text) :
    ∃ normalized, validateBoundedText text = .ok normalized := by
  have hcontrol : (text.toList.any fun c => c.toNat < 32 && c != '\t' && c != '\n') = false := by
    rw [List.any_eq_false]
    intro c hc
    have := h.plain c hc
    simp only [Bool.and_eq_true, decide_eq_true_eq]
    omega
  have hsolid : String.ofList (joinWords text.toList) ≠ "" := by
    intro hempty
    have hnil : joinWords text.toList = [] := by simpa [← String.toList_inj] using hempty
    exact h.solid (joinWords_eq_nil.mp hnil)
  simp only [validateBoundedText, hcontrol, Bool.false_eq_true, if_false]
  exact ⟨_, if_neg hsolid⟩

lemma validateOptionalText_ok {detail : Option String}
    (h : ∀ text ∈ detail, Presentable limit text) :
    ∃ normalized, validateOptionalText detail = .ok normalized := by
  cases detail with
  | none => exact ⟨none, rfl⟩
  | some text =>
    obtain ⟨normalized, hok⟩ := validateBoundedText_ok (h text rfl)
    exact ⟨some normalized, by simp [validateOptionalText, hok, Except.map]⟩

/-- Presentable texts under valid ids make a message, and the message is valid. -/
lemma build_valid {m : TaskEventMessage} (hsession : validateSessionId m.sessionId = .ok ())
    (hid : 1 ≤ m.eventId) (htask : taskIdOk m.taskId = true) (htitle : Presentable 160 m.title)
    (hdetail : ∀ text ∈ m.detail, Presentable 400 text)
    (hshape : m.kind = .blocked ∨ m.requiresUserInput = false ∧ m.blockKind = none) :
    ∃ built, m.build = .ok built ∧ Valid built := by
  have hfields : m.fieldsOk = true := (fieldsOk_iff m).mpr ⟨hid, htask,
    nonempty_of_presentable htitle, htitle.short, fun detail hd => (hdetail detail hd).short⟩
  obtain ⟨title, htitleOk⟩ := validateBoundedText_ok htitle
  obtain ⟨detail, hdetailOk⟩ := validateOptionalText_ok hdetail
  have hbuild : m.build = .ok { m with title, detail } :=
    build_eq_ok.mpr ⟨hsession, hfields, hshape, title, detail, htitleOk, hdetailOk, rfl⟩
  exact ⟨_, hbuild, build_idem hbuild⟩

/-! ### The rows -/

/-- On a payload's text `json.loads` raises nothing but what is caught. -/
def Parsable (P : Platform) (payload : Option String) : Prop :=
  ∀ raw ∈ payload, raw ≠ "" → ∀ error, P.jsonLoads raw = .error error →
    caughtInPayload error = true

/-- Every payload after the cursor can be read, where the task has a row at all. -/
def AllParsable (P : Platform) (board : Board) (taskId : String) (cursor : ℤ) : Prop :=
  (board.tasks taskId).isSome → ∀ row ∈ board.after taskId cursor, Parsable P row.payload

lemma parsePayload_succeeds_iff {P : Platform} {payload : Option String} :
    (∃ fields, parsePayload P payload = .ok fields) ↔ Parsable P payload := by
  rcases payload with _ | raw
  · simp [parsePayload, Parsable]
  by_cases hempty : raw = ""
  · simp [parsePayload, Parsable, hempty]
  simp only [Parsable, Option.mem_def, Option.some.injEq, forall_eq', ne_eq, hempty,
    not_false_eq_true, forall_const, parsePayload, if_false]
  rcases P.jsonLoads raw with error | value
  · cases hcaught : caughtInPayload error <;> simp [hcaught]
  · cases value <;> simp

lemma joined_succeeds_iff {P : Platform} {task : BoardTask} {row : BoardEvent} :
    (∃ event, row.joined P task = .ok event) ↔ Parsable P row.payload := by
  rw [← parsePayload_succeeds_iff]
  constructor
  · rintro ⟨event, h⟩
    obtain ⟨fields, hfields, -⟩ := bind_eq_ok.mp h
    exact ⟨fields, hfields⟩
  · rintro ⟨fields, hfields⟩
    exact ⟨_, bind_eq_ok.mpr ⟨fields, hfields, rfl⟩⟩

/-- The rows are read exactly when every payload among them can be. -/
lemma readEvents_succeeds_iff {P : Platform} {board : Board} {taskId : String} {cursor : ℤ} :
    (∃ events, board.readEvents P taskId cursor = .ok events) ↔
      AllParsable P board taskId cursor := by
  unfold Board.readEvents AllParsable
  rcases board.tasks taskId with _ | task
  · simp
  · simp only [mapM_succeeds_iff, joined_succeeds_iff, Option.isSome_some, forall_const]

/-! ### Texts that can be encoded -/

lemma isFsEncodable_append (P : Platform) (a b : String) :
    isFsEncodable P (a ++ b) = (isFsEncodable P a && isFsEncodable P b) := by
  simp [isFsEncodable, List.all_append]

lemma isFsEncodable_of_isUnicode {P : Platform} {text : String} (h : isUnicode P text = true) :
    isFsEncodable P text = true := by
  simp only [isUnicode, isFsEncodable, List.all_eq_true, Bool.or_eq_true] at h ⊢
  exact fun c hc => .inl (h c hc)

/-- The code's own texts have no private-use characters. -/
lemma isUnicode_of_small (P : Platform) {text : String}
    (h : ∀ c ∈ text.toList, c.toNat < 983040) : isUnicode P text = true := by
  rw [isUnicode, List.all_eq_true]
  intro c hc
  cases hsurrogate : P.isSurrogate c with
  | false => rfl
  | true =>
    have := (P.isSurrogate_private c hsurrogate).1
    have := h c hc
    omega

/-- A text of an event can go where the texts of its kind go: to the notifier if it runs a
binary, and into a message if the kind is spoken. -/
def Passes (P : Platform) (notifier : Notifier) (kind : TaskEventKind) (text : String) : Prop :=
  (notifier.enabled = true → notifier.installed = true → isFsEncodable P text = true) ∧
    (isVoiceKind kind = true → isUnicode P text = true)

lemma passes_of_isUnicode {P : Platform} {text : String} (notifier : Notifier)
    (kind : TaskEventKind) (h : isUnicode P text = true) : Passes P notifier kind text :=
  ⟨fun _ _ => isFsEncodable_of_isUnicode h, fun _ => h⟩

/-! ### The detail -/

section

variable (P : Platform) (payload : JsonDict)

/-- The key holds a text whose first line is not blank once it has been bounded. -/
def Telling (key : String) : Prop :=
  ∃ value line, dictGet payload key = some (.str value) ∧ firstLine value = .ok line ∧
    boundedText P line 400 ≠ ""

/-- None of the keys holds the empty text, up to the first that tells something. -/
def Legible : List String → Prop
  | [] => True
  | key :: keys =>
    dictGet payload key ≠ some (.str "") ∧ (Telling P payload key ∨ Legible keys)

/-- What is told by the first key that tells something has the property. -/
def Foremost (fits : String → Prop) : List String → Prop
  | [] => True
  | key :: keys =>
    (∀ value line, dictGet payload key = some (.str value) → firstLine value = .ok line →
      boundedText P line 400 ≠ "" → fits (boundedText P line 400)) ∧
      (Telling P payload key ∨ Foremost fits keys)

/-- Where no key tells anything, the limit of a worker that timed out has a bounded text. -/
def LimitFits (kind : TaskEventKind) : Prop :=
  kind = .timedOut → (∀ key ∈ detailKeys kind, ¬ Telling P payload key) →
    ∀ seconds ∈ limitSeconds payload, seconds.toList.length ≤ 360

variable {P payload}

lemma firstLine_ok {value : String} (h : value ≠ "") : ∃ line, firstLine value = .ok line := by
  refine ⟨_, if_neg fun hnil => h ?_⟩
  rw [← String.toList_inj, hnil]
  rfl

/-- A key that holds the empty text ends the search with an exception. -/
lemma detailFrom_empty {key : String} (keys : List String)
    (h : dictGet payload key = some (.str "")) :
    detailFrom P payload (key :: keys) = .error .indexError := by
  simp [detailFrom, h, firstLine, bind, Except.bind]

/-- A key that tells something ends it with what it tells. -/
lemma detailFrom_telling {key : String} (keys : List String) (h : Telling P payload key) :
    ∃ text, detailFrom P payload (key :: keys) = .ok (some text) ∧ Presentable 400 text := by
  obtain ⟨value, line, hget, hline, htext⟩ := h
  refine ⟨_, ?_, boundedText_presentable P htext⟩
  simp [detailFrom, hget, hline, bind, Except.bind, htext, pure, Except.pure]

/-- Any other key is passed over. -/
lemma detailFrom_silent {key : String} (keys : List String)
    (hempty : dictGet payload key ≠ some (.str "")) (h : ¬ Telling P payload key) :
    detailFrom P payload (key :: keys) = detailFrom P payload keys := by
  rw [detailFrom]
  split
  · next value hget =>
    obtain ⟨line, hline⟩ := firstLine_ok (fun hvalue : value = "" => hempty (hvalue ▸ hget))
    have hblank : boundedText P line 400 = "" := by
      by_contra htext
      exact h ⟨value, line, hget, hline, htext⟩
    simp [hline, bind, Except.bind, hblank]
  · rfl

/-- Keys that cannot be read through end the search with an exception. -/
lemma detailFrom_error {keys : List String} (h : ¬ Legible P payload keys) :
    detailFrom P payload keys = .error .indexError := by
  induction keys with
  | nil => exact absurd trivial h
  | cons key keys ih =>
    by_cases hempty : dictGet payload key = some (.str "")
    · exact detailFrom_empty keys hempty
    · have hrest := not_or.mp fun hr => h ⟨hempty, hr⟩
      rw [detailFrom_silent keys hempty hrest.1]
      exact ih hrest.2

/-- Keys that can are searched to the first that tells something. -/
lemma detailFrom_ok {keys : List String} (h : Legible P payload keys) :
    ((∀ key ∈ keys, ¬ Telling P payload key) ∧ detailFrom P payload keys = .ok none) ∨
      ((∃ key ∈ keys, Telling P payload key) ∧
        ∃ text, detailFrom P payload keys = .ok (some text) ∧ Presentable 400 text) := by
  induction keys with
  | nil => exact .inl ⟨by simp, rfl⟩
  | cons key keys ih =>
    obtain ⟨hempty, hrest⟩ := h
    by_cases htell : Telling P payload key
    · exact .inr ⟨⟨key, by simp, htell⟩, detailFrom_telling keys htell⟩
    · rw [detailFrom_silent keys hempty htell]
      rcases ih (hrest.resolve_left htell) with ⟨hnone, hok⟩ | ⟨⟨k, hk, htells⟩, htext⟩
      · exact .inl ⟨by simpa [htell] using hnone, hok⟩
      · exact .inr ⟨⟨k, by simp [hk], htells⟩, htext⟩

/-- What has been found is what the first of those keys tells. -/
lemma detailFrom_foremost {fits : String → Prop} {keys : List String} {found : Option String}
    (h : detailFrom P payload keys = .ok found) :
    (∀ text ∈ found, fits text) ↔ Foremost P payload fits keys := by
  induction keys with
  | nil =>
    cases h
    simp [Foremost]
  | cons key keys ih =>
    by_cases hempty : dictGet payload key = some (.str "")
    · rw [detailFrom_empty keys hempty] at h
      cases h
    by_cases htell : Telling P payload key
    · have ⟨value, line, hget, hline, htext⟩ := htell
      have hfound : found = some (boundedText P line 400) := by
        simpa [detailFrom, hget, hline, bind, Except.bind, htext, pure, Except.pure, eq_comm]
          using h
      subst hfound
      simp only [Option.mem_def, Option.some.injEq, forall_eq', Foremost, htell, true_or, and_true]
      refine ⟨fun hfits value' line' hget' hline' _ => ?_, fun hall => hall _ _ hget hline htext⟩
      obtain rfl : value' = value := by simpa [hget] using hget'.symm
      obtain rfl : line' = line := by simpa [hline] using hline'.symm
      exact hfits
    · rw [detailFrom_silent keys hempty htell] at h
      rw [ih h, Foremost]
      refine ⟨fun hrest => ⟨fun value line hget hline htext => ?_, .inr hrest⟩,
        fun hall => hall.2.resolve_left htell⟩
      exact absurd ⟨value, line, hget, hline, htext⟩ htell

/-- The sentence for a limit. -/
def exceeded (seconds : String) : String :=
  "Worker exceeded " ++ seconds ++ " seconds and will retry."

lemma exceeded_eq (seconds : String) :
    exceeded seconds = "Worker exceeded " ++ seconds ++ " seconds and will retry." :=
  rfl

/-- A printable character of ASCII. -/
def Printable (c : Char) : Prop := 32 ≤ c.toNat ∧ c.toNat < 127

instance (c : Char) : Decidable (Printable c) := inferInstanceAs (Decidable (_ ∧ _))

lemma printable_toString (z : ℤ) : ∀ c ∈ (toString z).toList, Printable c := by
  have hdigits (n : ℕ) : ∀ c ∈ (Nat.repr n).toList, Printable c := by
    intro c hc
    rw [Nat.repr_eq_ofList_toDigits, String.toList_ofList] at hc
    have hdigit := Nat.isDigit_of_mem_toDigits (by decide) (by decide) hc
    simp only [Char.isDigit, Bool.and_eq_true, decide_eq_true_eq] at hdigit
    have hlow : 48 ≤ c.toNat := UInt32.le_iff_toNat_le.mp hdigit.1
    have hhigh : c.toNat ≤ 57 := UInt32.le_iff_toNat_le.mp hdigit.2
    constructor <;> omega
  cases z with
  | ofNat n => exact hdigits n
  | negSucc n =>
    intro c hc
    rw [show toString (Int.negSucc n) = "-" ++ Nat.repr (n + 1) from rfl, String.toList_append,
      List.mem_append] at hc
    rcases hc with hc | hc
    · obtain rfl : c = '-' := by simpa using hc
      decide
    · exact hdigits _ c hc

lemma limitSeconds_printable {seconds : String} (h : seconds ∈ limitSeconds payload) :
    ∀ c ∈ seconds.toList, Printable c := by
  simp only [limitSeconds, Option.mem_def] at h
  split at h
  · cases h
    exact printable_toString _
  · next b _ =>
    cases h
    cases b <;> simp [Printable]
  · cases h

lemma exceeded_printable {seconds : String} (h : seconds ∈ limitSeconds payload) :
    ∀ c ∈ (exceeded seconds).toList, Printable c := by
  intro c hc
  simp only [exceeded_eq, String.toList_append, List.mem_append] at hc
  rcases hc with (hc | hc) | hc
  · have hall : ("Worker exceeded ".toList.all fun c => decide (Printable c)) = true := by
      decide +kernel
    exact of_decide_eq_true (List.all_eq_true.mp hall c hc)
  · exact limitSeconds_printable h c hc
  · have hall : (" seconds and will retry.".toList.all fun c => decide (Printable c)) = true := by
      decide +kernel
    exact of_decide_eq_true (List.all_eq_true.mp hall c hc)

lemma exceeded_presentable {seconds : String} (h : seconds ∈ limitSeconds payload) :
    Presentable 400 (exceeded seconds) ↔ seconds.toList.length ≤ 360 := by
  have hlength : (exceeded seconds).toList.length = seconds.toList.length + 40 := by
    simp [exceeded_eq]
  refine ⟨fun hp => ?_, fun hshort => ⟨by omega, ?_, ?_⟩⟩
  · have := hp.short
    omega
  · intro hblank
    have : isSpace 'W' = true := hblank 'W' (by simp [exceeded_eq])
    revert this
    decide
  · exact fun c hc => (exceeded_printable h c hc).1

/-- **The detail of an event** is none or presentable exactly when the keys can be read through
and the limit, where it is needed, is short. -/
theorem eventDetail_iff (kind : TaskEventKind) :
    (∃ detail, eventDetail P kind payload = .ok detail ∧
        ∀ text ∈ detail, Presentable 400 text) ↔
      Legible P payload (detailKeys kind) ∧ LimitFits P payload kind := by
  by_cases hlegible : Legible P payload (detailKeys kind)
  · simp only [hlegible, true_and]
    rcases detailFrom_ok hlegible with ⟨hnone, hok⟩ | ⟨⟨k, hk, htell⟩, text, hok, htext⟩
    · simp only [eventDetail, hok, bind, Except.bind, pure, Except.pure, LimitFits]
      by_cases htimed : kind = .timedOut
      · subst htimed
        rcases hlimit : limitSeconds payload with _ | seconds
        · simp
        · have hiff := exceeded_presentable hlimit
          rw [exceeded_eq] at hiff
          simpa only [if_true, Option.map_some, Option.mem_def, forall_const, Except.ok.injEq,
            exists_eq_left', Option.some.injEq, forall_eq', forall_prop_of_true hnone] using hiff
      · simp [htimed]
    · refine ⟨fun _ _ hnone => absurd htell (hnone k hk), fun _ => ⟨some text, ?_, ?_⟩⟩
      · simp [eventDetail, hok, bind, Except.bind, pure, Except.pure]
      · simpa using htext
  · simp [eventDetail, detailFrom_error hlegible, hlegible, bind, Except.bind]

/-- The detail can go where it should exactly when what the foremost key tells can. -/
lemma eventDetail_passes {notifier : Notifier} {kind : TaskEventKind} {detail : Option String}
    (h : eventDetail P kind payload = .ok detail) :
    (∀ text ∈ detail, Passes P notifier kind text) ↔
      Foremost P payload (Passes P notifier kind) (detailKeys kind) := by
  obtain ⟨found, hfound, h⟩ := bind_eq_ok.mp h
  rw [← detailFrom_foremost hfound]
  cases found with
  | some text => cases h; rfl
  | none =>
    refine iff_of_true ?_ (by simp)
    intro text htext
    simp only at h
    split_ifs at h with htimed
    · cases h
      obtain ⟨seconds, hseconds, rfl⟩ := Option.map_eq_some_iff.mp htext
      refine passes_of_isUnicode notifier kind (isUnicode_of_small P fun c hc => ?_)
      have := (exceeded_printable hseconds c hc).2
      omega
    · cases h
      cases htext

end

/-! ### Tracked tasks -/

/-- What holds of every tracked task: its title was bounded when it was registered or is its
id, and its cursor is at an event while one is in the hands of its poll. -/
structure Sound (P : Platform) (k : TrackedTask) (point : Option PollPoint) : Prop where
  title : ∃ title, k.title = orText (boundedText P title 160) k.taskId
  cursor : 0 ≤ k.cursor
  inHand : ∀ event isCurrent rest, point = some (.checking event rest) ∨
    point = some (.checked event isCurrent rest) → 0 < k.cursor

def AllSound (P : Platform) (w : TaskWorld) : Prop :=
  ∀ t k, w.coordinator.tracked t = some k → Sound P k (w.polls t)

lemma finish_tracked {k k' : TrackedTask} {clean : Bool} {log : List TaskObservation}
    (h : (finish k clean log).tracked = some k') : k' = k := by
  simp only [finish] at h
  split_ifs at h
  exact (Option.some.inj h).symm

lemma pollChange_sound {P : Platform} {view : PollView} {k k' : TrackedTask} {point : PollPoint}
    {action : PollAction} {e : PollEffect} (h : PollChange P view k point action e)
    (hpoint : PointOk k.taskId k point) (hk : Sound P k (some point)) (hk' : e.tracked = some k') :
    Sound P k' e.point := by
  cases h with
  | toCheck event rest =>
    cases hk'
    have hlt : k.cursor < event.eventId := hpoint.tail.1
    have := hk.cursor
    exact ⟨hk.title, by simp only; omega, fun _ _ _ _ => by simp only; omega⟩
  | seen event rest =>
    cases hk'
    exact ⟨hk.title, hk.cursor, fun _ _ _ _ => hk.inHand event true rest (.inl rfl)⟩
  | skipped event rest | toNotify event rest | detailRaised event rest =>
    cases hk'
    have hlt : k.cursor < event.eventId := hpoint.tail.1
    have := hk.cursor
    exact ⟨hk.title, by simp only; omega, by simp [goOn, raised]⟩
  | dropped | flushed | acceptedLast | refused =>
    obtain rfl := finish_tracked hk'
    exact ⟨hk.title, hk.cursor, by simp [finish]⟩
  | readRaised | parseRaised | readIn | drained | checkRaised | stale | current | currentRaised
  | notifyRaised | shown | buildRaised | spoken | asked | locked | handing | acceptedNext
  | publishRaised =>
    cases hk'
    exact ⟨hk.title, hk.cursor, by simp [goOn, raised]⟩

/-- Tracked tasks stay so in every step. -/
lemma AllSound.step {P : Platform} {w w' : TaskWorld} {a : Action} (hw : AllSound P w)
    (ht : Tables w) (hp : Points w) (h : Change P w a w') : AllSound P w' := by
  intro t k hk
  have hl := h.lane t
  generalize hl' : lane w' t = l at hl
  have hk' : l.tracked = some k := hl' ▸ hk
  have hp' : w'.polls t = l.point := hl' ▸ rfl
  rw [hp']
  cases hl with
  | same => exact hw t k hk'
  | registered s title slug path hactive hfree hnew =>
    cases hk'
    rw [show w.polls t = none from ht.polled t hfree]
    exact ⟨⟨title, by simp only [newTask]⟩, by simp [newTask], by simp⟩
  | started k₀ hk₀ hp₀ =>
    cases hk'
    have hk := hw t k hk₀
    exact ⟨hk.title, hk.cursor, by simp⟩
  | polled k₀ point action e hk₀ hp₀ hs =>
    obtain ⟨rfl, -⟩ := ht.tracked t k₀ hk₀
    have hk := hw _ k₀ hk₀
    rw [hp₀] at hk
    exact pollChange_sound hs (hp _ k₀ point hk₀ hp₀) hk hk'

lemma sound_of_reachable {P : Platform} {boards : String → Board} {w : TaskWorld}
    (h : Reachable (TaskWorld.step P) (TaskLanes.start boards) w) :
    Tables w ∧ Points w ∧ AllSound P w := by
  obtain ⟨as, hrun⟩ := h
  refine hrun.invariant (I := fun w => Tables w ∧ Points w ∧ AllSound P w)
    ⟨tables_start boards, by simp [Points, TaskLanes.start],
      by simp [AllSound, TaskLanes.start]⟩ fun w a w' hw _ hs => ?_
  obtain ⟨ht, hp, hsound⟩ := hw
  have hc := step_change hs
  exact ⟨ht.step hc, hp.step ht hc, hsound.step ht hp hc⟩

/-! ### One call of `_handle_event` -/

/-- At this point the next step of the poll of `k` calls `_handle_event` with the event, on the
task as `k'` has it. -/
inductive Calling (k : TrackedTask) : PollPoint → TrackedTask → KanbanTaskEvent →
    TaskEventKind → List KanbanTaskEvent → Prop
  | read (event kind rest) (hkind : TaskEventKind.ofValue? event.kind = some kind)
      (hblocked : kind ≠ .blocked) :
      Calling k (.looping (event :: rest)) { k with cursor := event.eventId } event kind rest
  | current (event rest) : Calling k (.checked event true rest) k event .blocked rest

/-- The call ends without an exception: the detail is none or presentable, the title is not
empty, what is shown can be given to the notifier's subprocess, and the kinds that are spoken
put a valid message in line. -/
def HandledWell (P : Platform) (notifier : Notifier) (k : TrackedTask) (event : KanbanTaskEvent)
    (kind : TaskEventKind) (rest : List KanbanTaskEvent) : Prop :=
  orText (boundedText P event.title 160) k.title ≠ "" ∧
    ∃ detail, eventDetail P kind event.payload = .ok detail ∧
      (∀ text ∈ detail, Presentable 400 text) ∧
      (beginHandling P k event kind rest).point = some (.notifying event kind detail rest) ∧
      notifier.notify P (desktopMessage P kind event.title detail) = .ok () ∧
      (endHandling P k event kind detail rest).point.isSome ∧
      (isVoiceKind kind = true → ∃ m k', Valid m ∧
        (endHandling P k event kind detail rest).tracked = some k' ∧
        k'.pendingVoice = k.pendingVoice ++ [m])

/-- What is asked of an event: of its payload, and that neither the text told first nor the
title holds a lone surrogate that would have to go further. -/
structure Readable (P : Platform) (notifier : Notifier) (k : TrackedTask)
    (event : KanbanTaskEvent) (kind : TaskEventKind) : Prop where
  legible : Legible P event.payload (detailKeys kind)
  limit : LimitFits P event.payload kind
  told : Foremost P event.payload (Passes P notifier kind) (detailKeys kind)
  shown : notifier.enabled = true → notifier.installed = true →
    isFsEncodable P (boundedText P event.title 160) = true
  titled : isVoiceKind kind = true →
    isUnicode P (orText (boundedText P event.title 160) k.title) = true

/-- Such a call is a step of the poll. -/
lemma Calling.step {P : Platform} {view : PollView} {k k' : TrackedTask} {point : PollPoint}
    {event : KanbanTaskEvent} {kind : TaskEventKind} {rest : List KanbanTaskEvent}
    (h : Calling k point k' event kind rest) :
    ∃ action, pollStep P view k point action = some (beginHandling P k' event kind rest) := by
  cases h with
  | read _ _ _ hkind hblocked => exact ⟨.next, by simp [pollStep, nextEvent, hkind, hblocked]⟩
  | current => exact ⟨.resume, rfl⟩

lemma isIdChar_solid {c : Char} (h : isIdChar c = true) : isSpace c = false ∧ 32 ≤ c.toNat := by
  have hrange := isIdChar_range h
  refine ⟨?_, by omega⟩
  simp only [isSpace, Bool.or_eq_false_iff, Bool.and_eq_false_iff, decide_eq_false_iff_not,
    beq_eq_false_iff_ne]
  omega

lemma taskId_presentable {taskId : String} (h : taskIdOk taskId = true) :
    Presentable 160 taskId := by
  simp only [taskIdOk, Bool.and_eq_true, decide_eq_true_eq, List.all_eq_true] at h
  obtain ⟨⟨hlong, hshort⟩, hall⟩ := h
  refine ⟨by omega, fun hblank => ?_, fun c hc => (isIdChar_solid (hall c hc)).2⟩
  obtain ⟨c, hc⟩ := List.exists_mem_of_length_pos (l := taskId.toList) (by omega)
  have hspace := hblank c hc
  rw [(isIdChar_solid (hall c hc)).1] at hspace
  cases hspace

lemma orText_presentable {value fallback : String} (h : value ≠ "" → Presentable limit value)
    (hfallback : Presentable limit fallback) : Presentable limit (orText value fallback) := by
  unfold orText
  split_ifs with hempty
  · exact hfallback
  · exact h hempty

section

variable {P : Platform} {k k' : TrackedTask} {point : PollPoint} {event : KanbanTaskEvent}
  {kind : TaskEventKind} {rest : List KanbanTaskEvent}

lemma isUnicode_heading (P : Platform) (kind : TaskEventKind) :
    isUnicode P (heading kind).1 = true := by
  refine isUnicode_of_small P fun c hc => ?_
  have hall : ((heading kind).1.toList.all fun c => decide (c.toNat < 983040)) = true := by
    cases kind <;> decide +kernel
  exact of_decide_eq_true (List.all_eq_true.mp hall c hc)

lemma isFsEncodable_body (P : Platform) (title : String) :
    isFsEncodable P (orText title "Background task") = isFsEncodable P title := by
  unfold orText
  split_ifs with hempty
  · have hdefault : isFsEncodable P "Background task" = true := by
      refine isFsEncodable_of_isUnicode (isUnicode_of_small P fun c hc => ?_)
      have hall : ("Background task".toList.all fun c => decide (Printable c)) = true := by
        decide +kernel
      have := (of_decide_eq_true (List.all_eq_true.mp hall c hc) : Printable c).2
      omega
    rw [hdefault, hempty]
    rfl
  · rfl

/-- The notifier's subprocess can be given what is shown exactly when it can be given the title
and the detail. -/
lemma notify_succeeds_iff {notifier : Notifier} {title : String} {detail : Option String}
    (hsolid : ∀ text ∈ detail, text ≠ "") :
    notifier.notify P (desktopMessage P kind title detail) = .ok () ↔
      (notifier.enabled = true → notifier.installed = true →
        isFsEncodable P (boundedText P title 160) = true ∧
          ∀ text ∈ detail, isFsEncodable P text = true) := by
  have hbreak : isFsEncodable P "\n" = true := by
    refine isFsEncodable_of_isUnicode (isUnicode_of_small P fun c hc => ?_)
    obtain rfl : c = '\n' := by simpa using hc
    decide
  have hbody : isFsEncodable P (desktopMessage P kind title detail).body =
      (isFsEncodable P (boundedText P title 160) && detail.all (isFsEncodable P)) := by
    cases detail with
    | none => simp [desktopMessage, isFsEncodable_body]
    | some text =>
      simp [desktopMessage, hsolid text rfl, isFsEncodable_append, isFsEncodable_body, hbreak]
  have htitle : isFsEncodable P (desktopMessage P kind title detail).title = true :=
    isFsEncodable_of_isUnicode (isUnicode_heading P kind)
  rw [Notifier.notify, htitle, hbody, Bool.true_and]
  split_ifs with hidle hencodable
  · refine iff_of_true rfl fun henabled hinstalled => ?_
    simp [henabled, hinstalled] at hidle
  · rw [Bool.and_eq_true, Option.all_eq_true] at hencodable
    exact iff_of_true rfl fun _ _ => hencodable
  · rw [Bool.and_eq_true, Option.all_eq_true] at hencodable
    obtain ⟨henabled, hinstalled⟩ := not_or.mp hidle
    exact iff_of_false (fun h => by cases h) fun h =>
      hencodable (h (not_not.mp henabled) (not_not.mp hinstalled))

/-- What the poll knows when it calls `_handle_event`. -/
lemma Calling.facts (h : Calling k point k' event kind rest) (hk : Sound P k (some point))
    (hpoint : PointOk k.taskId k point) :
    k'.sessionId = k.sessionId ∧ k'.taskId = k.taskId ∧ k'.title = k.title ∧
      event.taskId = k.taskId ∧ 1 ≤ event.eventId := by
  cases h with
  | read event kind rest =>
    have hlt : k.cursor < event.eventId := hpoint.tail.1
    have := hk.cursor
    exact ⟨rfl, rfl, rfl, hpoint.tail.2.1, by omega⟩
  | current event rest =>
    have hlt := hk.inHand event true rest (.inr rfl)
    obtain ⟨⟨hid, htask, -⟩, -⟩ := hpoint
    exact ⟨rfl, rfl, rfl, htask, by omega⟩

/-- A kind that is spoken makes a valid message of any presentable detail, if the texts have no
lone surrogates. -/
lemma voiceMessage_valid (kind : TaskEventKind) {detail : Option String}
    (hsession : validateSessionId k.sessionId = .ok ()) (hid : 1 ≤ event.eventId)
    (htask : taskIdOk event.taskId = true)
    (htitle : Presentable 160 (orText (boundedText P event.title 160) k.title))
    (hdetail : ∀ text ∈ detail, Presentable 400 text)
    (hunicode : isUnicode P (orText (boundedText P event.title 160) k.title) = true ∧
      ∀ text ∈ detail, isUnicode P text = true) :
    ∃ m, voiceMessage P k event kind detail = .ok m ∧ Valid m := by
  have hshape : kind = .blocked ∨ requiresUserInput kind event = false ∧
      (if kind = .blocked then eventBlockKind event else none) = none := by
    by_cases hblocked : kind = .blocked
    · exact .inl hblocked
    · exact .inr ⟨by simp [requiresUserInput, hblocked], if_neg hblocked⟩
  have htitle' : Presentable 160 (voiceFields P k event kind detail).title := by
    rwa [voiceFields_title]
  obtain ⟨m, hm, hvalid⟩ := build_valid (m := voiceFields P k event kind detail) hsession hid
    htask htitle' hdetail hshape
  exact ⟨m, voiceMessage_eq_ok.mpr ⟨hunicode, hm⟩, hvalid⟩

/-- Where the call goes on after the notification the message has been built. -/
lemma endHandling_built (rest : List KanbanTaskEvent) {detail : Option String}
    (hvoice : isVoiceKind kind = true)
    (h : (endHandling P k event kind detail rest).point.isSome) :
    ∃ m, voiceMessage P k event kind detail = .ok m := by
  rcases hm : voiceMessage P k event kind detail with error | m
  · simp [endHandling, hvoice, hm, raised] at h
  · exact ⟨m, rfl⟩

/-- What comes after the notification, once the message is built. -/
lemma endHandling_voice (rest : List KanbanTaskEvent) {detail : Option String}
    {m : TaskEventMessage}
    (hvoice : isVoiceKind kind = true) (hm : voiceMessage P k event kind detail = .ok m) :
    (endHandling P k event kind detail rest).point.isSome ∧ ∃ k',
      (endHandling P k event kind detail rest).tracked = some k' ∧
        k'.pendingVoice = k.pendingVoice ++ [m] := by
  simp only [endHandling, hvoice, if_true, hm]
  split <;> exact ⟨rfl, _, rfl, rfl⟩

end

/-- A step that reads the board goes on with the events exactly when every payload can be
read. -/
lemma read_iff {P : Platform} {w : TaskWorld} {t : String} {k : TrackedTask}
    (hk : w.coordinator.tracked t = some k) (hp : w.polls t = some .reading) :
    (∃ w' events, w.step P (.poll t (.read false)) = some w' ∧
        w'.polls t = some (.looping events)) ↔
      AllParsable P (w.boards k.dbPath) k.taskId k.cursor := by
  rw [← readEvents_succeeds_iff]
  simp only [TaskWorld.step, hk, hp, pollStep, Bool.false_eq_true, if_false, TaskWorld.view]
  rcases (w.boards k.dbPath).readEvents P k.taskId k.cursor with error | events
  · simp [TaskWorld.afterPoll, raised]
  · simp [TaskWorld.afterPoll, goOn]

/-- **Every readable payload is handled, and no other**: a poll of a tracked task with a valid
session id and task id gets hold of the events exactly when every payload it reads can be read,
and where it calls `_handle_event` the call goes well exactly when the event is readable. -/
theorem handled_iff {P : Platform} (notifier : Notifier) {boards : String → Board}
    {w : TaskWorld} {t : String} {k : TrackedTask} {point : PollPoint}
    (h : Reachable (TaskWorld.step P) (TaskLanes.start boards) w)
    (hk : w.coordinator.tracked t = some k) (hp : w.polls t = some point)
    (hsession : validateSessionId k.sessionId = .ok ()) (htask : taskIdOk k.taskId = true) :
    (point = .reading →
      ((∃ w' events, w.step P (.poll t (.read false)) = some w' ∧
          w'.polls t = some (.looping events)) ↔
        AllParsable P (w.boards k.dbPath) k.taskId k.cursor)) ∧
    ∀ k' event kind rest, Calling k point k' event kind rest →
      (HandledWell P notifier k' event kind rest ↔ Readable P notifier k' event kind) := by
  refine ⟨fun hreading => read_iff hk (hreading ▸ hp), fun k' event kind rest hcall => ?_⟩
  obtain ⟨htables, hpoints, hsound⟩ := sound_of_reachable h
  obtain rfl := (htables.tracked t k hk).1
  have hs := hsound _ k hk
  rw [hp] at hs
  obtain ⟨hsession', -, htitle', htask', hid⟩ := hcall.facts hs (hpoints _ k point hk hp)
  have htitle : Presentable 160 (orText (boundedText P event.title 160) k'.title) := by
    obtain ⟨title, hbounded⟩ := hs.title
    refine orText_presentable (fun hne => boundedText_presentable P hne) ?_
    rw [htitle', hbounded]
    exact orText_presentable (fun hne => boundedText_presentable P hne) (taskId_presentable htask)
  constructor
  · rintro ⟨-, detail, hdetail, hpresentable, -, hnotify, hend, -⟩
    have ⟨hlegible, hlimit⟩ := (eventDetail_iff kind).mp ⟨detail, hdetail, hpresentable⟩
    rw [notify_succeeds_iff fun text htext => (hpresentable text htext).ne_empty] at hnotify
    have hmessage (hvoice : isVoiceKind kind = true) :
        isUnicode P (orText (boundedText P event.title 160) k'.title) = true ∧
          ∀ text ∈ detail, isUnicode P text = true := by
      obtain ⟨m, hm⟩ := endHandling_built rest hvoice hend
      exact (voiceMessage_eq_ok.mp hm).1
    refine ⟨hlegible, hlimit, (eventDetail_passes hdetail).mp fun text htext => ?_,
      fun henabled hinstalled => (hnotify henabled hinstalled).1,
      fun hvoice => (hmessage hvoice).1⟩
    exact ⟨fun henabled hinstalled => (hnotify henabled hinstalled).2 text htext,
      fun hvoice => (hmessage hvoice).2 text htext⟩
  · intro hreadable
    obtain ⟨detail, hdetail, hpresentable⟩ :=
      (eventDetail_iff kind).mpr ⟨hreadable.legible, hreadable.limit⟩
    have hpasses := (eventDetail_passes hdetail).mpr hreadable.told
    have hbegin : (beginHandling P k' event kind rest).point =
        some (.notifying event kind detail rest) := by
      simp [beginHandling, hdetail, goOn]
    have hnotify : notifier.notify P (desktopMessage P kind event.title detail) = .ok () := by
      refine (notify_succeeds_iff fun text htext => (hpresentable text htext).ne_empty).mpr ?_
      exact fun henabled hinstalled => ⟨hreadable.shown henabled hinstalled,
        fun text htext => (hpasses text htext).1 henabled hinstalled⟩
    refine ⟨htitle.ne_empty, detail, hdetail, hpresentable, hbegin, hnotify, ?_⟩
    cases hvoice : isVoiceKind kind with
    | false => exact ⟨by simp [endHandling, hvoice, goOn], fun hno => by cases hno⟩
    | true =>
      obtain ⟨m, hm, hvalid⟩ := voiceMessage_valid kind (hsession' ▸ hsession) hid
        (htask' ▸ htask) htitle hpresentable
        ⟨hreadable.titled hvoice, fun text htext => (hpasses text htext).2 hvoice⟩
      obtain ⟨hpoint, k'', hk'', hline⟩ := endHandling_voice rest hvoice hm
      exact ⟨hpoint, fun _ => ⟨m, k'', hvalid, hk'', hline⟩⟩

/-! ### A completion that is read -/

/-- A platform whose JSON reader knows one text. -/
def knowing (raw : String) (payload : JsonDict) : Platform :=
  { asciiPlatform with
    jsonLoads := fun s => if s = raw then .ok (.obj payload) else asciiPlatform.jsonLoads s }

lemma parsePayload_knowing {raw : String} {payload : JsonDict} (h : raw ≠ "") :
    parsePayload (knowing raw payload) (some raw) = .ok payload := by
  simp [parsePayload, knowing, h]

/-- A board with one completion. -/
def finishedBoard (raw : String) : Board where
  tasks := fun t => if t = "task" then some ⟨"Deploy", "done", none⟩ else none
  events := [⟨1, "task", "completed", some raw⟩]
  ordered := by simp
  positive := by simp

/-- The completion as it is read. -/
def completion (payload : JsonDict) : KanbanTaskEvent :=
  ⟨1, "task", "completed", "Deploy", "done", none, payload⟩

/-- A poll that is about to read its board. -/
def polling : List Action :=
  [.openSession "voice-one-01", .register "voice-one-01" "task" "Deploy" "default" "board",
   .pollStart "task"]

lemma polling_spec (P : Platform) (raw : String) : ∃ w k,
    exec (TaskWorld.step P) (fun _ _ => true) (TaskLanes.start fun _ => finishedBoard raw)
        polling = some w ∧
      w.coordinator.tracked "task" = some k ∧
      k = newTask P "voice-one-01" "task" "Deploy" "default" "board" ∧
      w.polls "task" = some .reading ∧ w.boards "board" = finishedBoard raw ∧
      w.history "task" = [] :=
  ⟨_, _, rfl, rfl, rfl, rfl, rfl, rfl⟩

lemma finishedBoard_readEvents {P : Platform} {raw : String} {payload : JsonDict}
    (h : parsePayload P (some raw) = .ok payload) :
    (finishedBoard raw).readEvents P "task" 0 = .ok [completion payload] := by
  simp [finishedBoard, Board.readEvents, Board.after, BoardEvent.joined, h, completion, bind,
    Except.bind, pure, Except.pure]

/-- A poll that has read its board. -/
lemma readIn_spec {P : Platform} {raw : String} {payload : JsonDict}
    (h : parsePayload P (some raw) = .ok payload) : ∃ w k,
    Reachable (TaskWorld.step P) (TaskLanes.start fun _ => finishedBoard raw) w ∧
      w.coordinator.tracked "task" = some k ∧
      k = newTask P "voice-one-01" "task" "Deploy" "default" "board" ∧
      w.polls "task" = some (.looping [completion payload]) ∧ w.history "task" = [] := by
  obtain ⟨w, k, hw, hk, hnew, hp, hboard, hhistory⟩ := polling_spec P raw
  have hread : (w.boards k.dbPath).readEvents P k.taskId k.cursor = .ok [completion payload] := by
    subst hnew
    exact hboard ▸ finishedBoard_readEvents h
  have hstep : w.step P (.poll "task" (.read false)) =
      some (w.afterPoll "task" k (goOn k (.looping [completion payload]) [])) := by
    simp [TaskWorld.step, hk, hp, pollStep, TaskWorld.view, hread]
  obtain ⟨as, hrun⟩ := reachable_of_exec hw
  refine ⟨_, k, (hrun.snoc trivial hstep).reachable, ?_, hnew, ?_, ?_⟩ <;>
    simp [TaskWorld.afterPoll, goOn, hhistory]

def emptySummary : String := "\x7b\"summary\": \"\"\x7d"

def blankSummary : String := "\x7b\"summary\": \"\\n\", \"result\": \"Built the page\"\x7d"

/-- A completion whose summary is the empty text is not handled: the poll raises with the cursor
on the event, no message is in line and the task stays in the table. -/
theorem empty_summary_raises : ∃ (P : Platform) (w : TaskWorld) (k : TrackedTask)
    (event : KanbanTaskEvent),
    Reachable (TaskWorld.step P) (TaskLanes.start fun _ => finishedBoard emptySummary) w ∧
      w.coordinator.tracked "task" = some k ∧ w.polls "task" = some (.looping [event]) ∧
      Calling k (.looping [event]) { k with cursor := event.eventId } event .completed [] ∧
      validateSessionId k.sessionId = .ok () ∧ taskIdOk k.taskId = true ∧
      (∀ notifier,
        ¬ HandledWell P notifier { k with cursor := event.eventId } event .completed []) ∧
      ∃ w' k', w.step P (.poll "task" .next) = some w' ∧ w'.history "task" = [.raised] ∧
        w'.coordinator.tracked "task" = some k' ∧ k'.cursor = 1 ∧ k'.pendingVoice = [] ∧
        k'.terminalSeen = false := by
  let P := knowing emptySummary [("summary", .str "")]
  have hpayload : parsePayload P (some emptySummary) = .ok [("summary", .str "")] :=
    parsePayload_knowing (by decide)
  obtain ⟨w, k, hw, hk, rfl, hp, hhistory⟩ := readIn_spec hpayload
  have hdetail : eventDetail P .completed [("summary", .str "")] = .error .indexError := by
    rw [eventDetail, detailKeys, detailFrom_empty _ rfl]
    rfl
  have hstep : w.step P (.poll "task" .next) = some (w.afterPoll "task"
      (newTask P "voice-one-01" "task" "Deploy" "default" "board")
      (raised { newTask P "voice-one-01" "task" "Deploy" "default" "board" with
        cursor := 1 })) := by
    have hkind : TaskEventKind.ofValue? "completed" = some .completed := by decide
    simp [TaskWorld.step, hk, hp, pollStep, nextEvent, completion, hkind, beginHandling, hdetail]
  refine ⟨P, w, _, _, hw, hk, hp, .read _ _ _ (by decide) (by decide),
    by decide +kernel, by decide +kernel, ?_, _,
    { newTask P "voice-one-01" "task" "Deploy" "default" "board" with cursor := 1 }, hstep, ?_, ?_,
    rfl, rfl, rfl⟩
  · rintro notifier ⟨-, detail, hok, -⟩
    rw [show (completion [("summary", .str "")]).payload = [("summary", .str "")] from rfl,
      hdetail] at hok
    cases hok
  · simp [TaskWorld.afterPoll, raised, hhistory]
  · simp [TaskWorld.afterPoll, raised]

/-- Where the summary is a line break the result is told. -/
theorem handled_iff_blank_summary : ∃ (P : Platform) (w : TaskWorld) (k : TrackedTask)
    (event : KanbanTaskEvent),
    w.coordinator.tracked "task" = some k ∧ w.polls "task" = some (.looping [event]) ∧
      dictGet event.payload "summary" = some (.str "\n") ∧
      ∀ notifier,
        HandledWell P notifier { k with cursor := event.eventId } event .completed [] := by
  let payload : JsonDict := [("summary", .str "\n"), ("result", .str "Built the page")]
  let P := knowing blankSummary payload
  have hpayload : parsePayload P (some blankSummary) = .ok payload :=
    parsePayload_knowing (by decide)
  obtain ⟨w, k, hw, hk, rfl, hp, -⟩ := readIn_spec hpayload
  have htell : Telling P payload "result" :=
    ⟨"Built the page", "Built the page", rfl, rfl, by decide +kernel⟩
  have hunicode (text : String) : isUnicode P text = true := by
    simp [isUnicode, P, knowing, asciiPlatform]
  refine ⟨P, w, _, _, hk, hp, rfl, fun notifier => ?_⟩
  have hpasses (text : String) : Passes P notifier .completed text :=
    passes_of_isUnicode notifier .completed (hunicode text)
  refine ((handled_iff notifier hw hk hp (by decide +kernel) (by decide +kernel)).2 _ _ _ _
    (.read _ _ _ (by decide) (by decide))).mpr ⟨?_, (fun hno => by cases hno), ?_,
      fun _ _ => isFsEncodable_of_isUnicode (hunicode _), fun _ => hunicode _⟩
  · exact ⟨by simp [completion, dictGet, payload],
      .inr ⟨by simp [completion, dictGet, payload], .inl htell⟩⟩
  · exact ⟨fun _ _ _ _ _ => hpasses _, .inr ⟨fun _ _ _ _ _ => hpasses _, .inl htell⟩⟩

end HermesRealtime.Details

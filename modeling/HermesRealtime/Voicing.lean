import HermesRealtime.Handling

/-!
What becomes of the events a poll reads.

Two cursors trail the cursor of a tracked task by at most one event: the events up to
`notedUpTo` have been shown or passed over, and those up to `spokenUpTo` have been put in
line for the voice page or passed over. A step of a poll moves each of them by one event at
most; `LaneInvariant` turns what such steps preserve into what holds of every run.
-/

namespace HermesRealtime.Voicing

open Values Text Protocol TaskEvents TaskRuns TaskLanes Cursors Handling Runs

/-! ### What has become of the events -/

/-- Events up to here have been put in line for the voice page, or passed over. -/
def spokenUpTo (k : TrackedTask) : Option PollPoint → ℤ
  | some (.checking _ _) => k.cursor - 1
  | some (.checked _ _ _) => k.cursor - 1
  | some (.notifying _ _ _ _) => k.cursor - 1
  | _ => k.cursor

/-- Events up to here have been shown on the desktop, or passed over. -/
def notedUpTo (k : TrackedTask) : Option PollPoint → ℤ
  | some (.checking _ _) => k.cursor - 1
  | some (.checked _ _ _) => k.cursor - 1
  | _ => k.cursor

/-- Where a cursor stands after a step; a task that leaves the table has been through all the
events up to its own. -/
def endOf (bound : TrackedTask → Option PollPoint → ℤ) (k : TrackedTask) (e : PollEffect) : ℤ :=
  match e.tracked with
  | some k' => bound k' e.point
  | none => k.cursor

/-- The messages accepted so far, then those in line. -/
def voiced (h : List TaskObservation) (tracked : Option TrackedTask) : List TaskEventMessage :=
  accepted h ++ (tracked.map TrackedTask.pendingVoice).getD []

/-- What a history says about the event a poll is at. -/
def HistoryOk (h : List TaskObservation) : PollPoint → Prop
  | .checking event _ => sawCurrent h event.eventId = false
  | .checked event isCurrent _ => sawCurrent h event.eventId = isCurrent
  | .notifying event kind _ _ => kind = .blocked → sawCurrent h event.eventId = true
  | .publishing m => m ∈ handed h
  | _ => True

/-- The poll raises while it handles an event that is to be spoken. -/
def loses (P : Platform) (k : TrackedTask) : PollPoint → PollAction → Bool
  | .looping (event :: _), .next =>
    (TaskEventKind.ofValue? event.kind).any fun kind =>
      kind ≠ .blocked && isVoiceKind kind && !(eventDetail P kind event.payload).isOk
  | .checking _ _, .check fails => fails
  | .checked event isCurrent _, .resume =>
    isCurrent && !(eventDetail P .blocked event.payload).isOk
  | .notifying event kind detail _, .notify fails =>
    isVoiceKind kind && (fails || !(voiceMessage P k event kind detail).isOk)
  | _, _ => false

/-- Why an event is not put in line: it is not of a kind that is spoken, it is a block that
was found not to be current, or its handling raised. -/
inductive Silence (P : Platform) (k : TrackedTask) (h : List TaskObservation) (point : PollPoint)
    (action : PollAction) (e : PollEffect) (row : BoardEvent) : Prop
  | kind (hkind : (rowKind row).any isVoiceKind = false)
  | stale (event rest) (hpoint : point = .checked event false rest)
      (hkey : rowKey row = eventKey event) (hkind : rowKind row = some .blocked)
      (hseen : sawCurrent h row.id = false)
  | lost (h : loses P k point action = true) (hraised : .raised ∈ e.log)

/-- What a step of a poll does to the line of messages. -/
inductive VoiceChange (P : Platform) (b : Board) (live : Bool) (h : List TaskObservation)
    (k : TrackedTask) (point : PollPoint) (action : PollAction) (e : PollEffect) : Prop
  | same (hvoiced : voiced (h ++ e.log) e.tracked = voiced h (some k))
      (hup : upTo BoardEvent.id (rows b k.taskId) (endOf spokenUpTo k e) =
        upTo BoardEvent.id (rows b k.taskId) (spokenUpTo k (some point)))
  | spoken (row m) (hvoiced : voiced (h ++ e.log) e.tracked = voiced h (some k) ++ [m])
      (hup : upTo BoardEvent.id (rows b k.taskId) (endOf spokenUpTo k e) =
        upTo BoardEvent.id (rows b k.taskId) (spokenUpTo k (some point)) ++ [row])
      (hkey : (m.eventId, m.kind.value) = rowKey row) (hkind : rowKind row = some m.kind)
      (hvoice : isVoiceKind m.kind = true)
      (hcurrent : m.kind = .blocked → sawCurrent h row.id = true)
      (haddress : m.sessionId = k.sessionId ∧ m.taskId = k.taskId)
  | silent (row) (hvoiced : voiced (h ++ e.log) e.tracked = voiced h (some k))
      (hup : upTo BoardEvent.id (rows b k.taskId) (endOf spokenUpTo k e) =
        upTo BoardEvent.id (rows b k.taskId) (spokenUpTo k (some point)) ++ [row])
      (hsilent : Silence P k h point action e row)
  | dropped (hlive : live = false) (hvoiced : voiced (h ++ e.log) e.tracked = accepted h)
      (hup : upTo BoardEvent.id (rows b k.taskId) (endOf spokenUpTo k e) =
        upTo BoardEvent.id (rows b k.taskId) (spokenUpTo k (some point)))

lemma kind_of_key {row : BoardEvent} {event : KanbanTaskEvent} (h : rowKey row = eventKey event) :
    rowKind row = TaskEventKind.ofValue? event.kind := by
  rw [rowKind, show row.kind = event.kind from congrArg Prod.snd h]

lemma id_of_key {row : BoardEvent} {event : KanbanTaskEvent} (h : rowKey row = eventKey event) :
    row.id = event.eventId := congrArg Prod.fst h

/-- Every step of a poll changes the line of messages in one of these ways. -/
theorem pollChange_voice {P : Platform} {view : PollView} {k : TrackedTask} {point : PollPoint}
    {action : PollAction} {e : PollEffect} {h : List TaskObservation}
    (hs : PollChange P view k point action e) (hpoint : PointOk k.taskId k point)
    (hboard : BoardOk view.board k.taskId k.cursor point) (hhistory : HistoryOk h point) :
    VoiceChange P view.board view.sessionIsActive h k point action e := by
  cases hs with
  | skipped event rest hkind =>
    obtain ⟨⟨row, hkey, -, hup⟩, -⟩ := Upcoming.next hboard
    exact .silent row (by simp [voiced, goOn]) hup (.kind (by simp [kind_of_key hkey, hkind]))
  | toCheck event rest hkind =>
    obtain ⟨-, hbefore, -⟩ := Upcoming.next hboard
    exact .same (by simp [voiced, goOn]) hbefore
  | toNotify event rest kind detail hkind =>
    obtain ⟨-, hbefore, -⟩ := Upcoming.next hboard
    exact .same (by simp [voiced, goOn, accepted]) hbefore
  | detailRaised event rest kind error hkind hblocked hdetail =>
    obtain ⟨⟨row, hkey, -, hup⟩, -⟩ := Upcoming.next hboard
    refine .silent row (by simp [voiced, raised, accepted]) hup ?_
    cases hvoice : isVoiceKind kind with
    | false => exact .kind (by simp [kind_of_key hkey, hkind, hvoice])
    | true =>
      exact .lost (by simp [loses, hkind, hblocked, hvoice, hdetail, Except.isOk, Except.toBool])
        (by simp [raised])
  | checkRaised event rest =>
    obtain ⟨⟨row, hup, -⟩, -⟩ := hboard
    exact .silent row (by simp [voiced, raised, accepted]) hup (.lost rfl (by simp [raised]))
  | stale event rest =>
    obtain ⟨⟨row, hup, hkey⟩, -⟩ := hboard
    refine .silent row (by simp [voiced, goOn]) hup (.stale event rest rfl hkey ?_ ?_)
    · rw [kind_of_key hkey, hpoint.2]
    · rw [id_of_key hkey]
      exact hhistory
  | currentRaised event rest error hdetail =>
    obtain ⟨⟨row, hup, -⟩, -⟩ := hboard
    exact .silent row (by simp [voiced, raised, accepted]) hup
      (.lost (by simp [loses, hdetail, Except.isOk, Except.toBool]) (by simp [raised]))
  | notifyRaised event kind detail rest =>
    obtain ⟨⟨row, hup, hkey⟩, -⟩ := hboard
    refine .silent row (by simp [voiced, raised, accepted]) hup ?_
    cases hvoice : isVoiceKind kind with
    | false => exact .kind (by simp [kind_of_key hkey, hpoint.2, hvoice])
    | true => exact .lost (by simp [loses, hvoice]) (by simp [raised])
  | buildRaised event kind detail rest error hvoice hmessage =>
    obtain ⟨⟨row, hup, -⟩, -⟩ := hboard
    exact .silent row (by simp [voiced, raised, accepted]) hup
      (.lost (by simp [loses, hvoice, hmessage, Except.isOk, Except.toBool]) (by simp [raised]))
  | shown event kind detail rest hvoice =>
    obtain ⟨⟨row, hup, hkey⟩, -⟩ := hboard
    exact .silent row (by simp [voiced, goOn]) hup
      (.kind (by simp [kind_of_key hkey, hpoint.2, hvoice]))
  | spoken event kind detail rest m hvoice hmessage hinput =>
    obtain ⟨⟨row, hup, hkey⟩, -⟩ := hboard
    obtain ⟨hsession, hid, htask, hkind, -⟩ := voiceMessage_fields hmessage
    refine .spoken row m (by simp [voiced, goOn]) hup ?_ ?_ (hkind ▸ hvoice)
      (fun hblocked => ?_) ⟨hsession, htask.trans hpoint.1.2.1⟩
    · rw [hkey, hid, hkind, eventKey, ofValue?_value hpoint.2]
    · rw [kind_of_key hkey, hpoint.2, hkind]
    · rw [id_of_key hkey]
      exact hhistory (hkind ▸ hblocked)
  | asked event kind detail rest m hvoice hmessage hinput =>
    obtain ⟨⟨row, hup, hkey⟩, -⟩ := hboard
    obtain ⟨hsession, hid, htask, hkind, -⟩ := voiceMessage_fields hmessage
    refine .spoken row m (by simp [voiced, goOn]) hup ?_ ?_ (hkind ▸ hvoice)
      (fun hblocked => ?_) ⟨hsession, htask.trans hpoint.1.2.1⟩
    · rw [hkey, hid, hkind, eventKey, ofValue?_value hpoint.2]
    · rw [kind_of_key hkey, hpoint.2, hkind]
    · rw [id_of_key hkey]
      exact hhistory (hkind ▸ hblocked)
  | dropped hactive =>
    refine .dropped hactive ?_ ?_
    · by_cases hseen : k.terminalSeen <;> simp [voiced, finish, accepted, hseen]
    · by_cases hseen : k.terminalSeen <;> simp [endOf, finish, hseen, spokenUpTo]
  | flushed hactive hempty =>
    refine .same ?_ ?_
    · by_cases hseen : k.terminalSeen <;> simp [voiced, finish, accepted, hempty, hseen]
    · by_cases hseen : k.terminalSeen <;> simp [endOf, finish, hempty, hseen, spokenUpTo]
  | refused m =>
    refine .same ?_ ?_
    · by_cases hdone : k.terminalSeen = true ∧ k.pendingVoice = []
      · simp [voiced, finish, accepted, hdone]
      · simp [voiced, finish, accepted, hdone]
    · by_cases hdone : k.terminalSeen = true ∧ k.pendingVoice = []
      · simp [endOf, finish, hdone, spokenUpTo]
      · simp [endOf, finish, hdone, spokenUpTo]
  | acceptedLast m hactive hrest =>
    obtain ⟨ms, hpending⟩ : ∃ ms, k.pendingVoice = m :: ms := by
      rcases hp : k.pendingVoice with _ | ⟨m', ms⟩
      · simp [PointOk, hp] at hpoint
      · exact ⟨ms, by simpa [PointOk, hp] using hpoint⟩
    obtain rfl : ms = [] := by simpa [hpending] using hrest
    refine .same ?_ ?_
    · by_cases hseen : k.terminalSeen <;> simp [voiced, finish, accepted, hpending, hseen]
    · by_cases hseen : k.terminalSeen <;> simp [endOf, finish, hseen, spokenUpTo]
  | acceptedNext m m' ms hactive hrest =>
    obtain ⟨ms', hpending⟩ : ∃ ms, k.pendingVoice = m :: ms := by
      rcases hp : k.pendingVoice with _ | ⟨m₀, ms⟩
      · simp [PointOk, hp] at hpoint
      · exact ⟨ms, by simpa [PointOk, hp] using hpoint⟩
    obtain rfl : ms' = m' :: ms := by simpa [hpending] using hrest
    exact .same (by simp [voiced, goOn, accepted, hpending]) rfl
  | readRaised | parseRaised | publishRaised => exact .same (by simp [voiced, raised, accepted]) rfl
  | readIn | drained | seen | current | locked | handing =>
    exact .same (by simp [voiced, goOn, accepted]) rfl

/-- Why an event is not shown: it is of no kind that is, it is a block that was found not to be
current, or an exception came first. -/
inductive Passed (h : List TaskObservation) (e : PollEffect) (row : BoardEvent) : Prop
  | kind (hkind : rowKind row = none)
  | stale (hkind : rowKind row = some .blocked) (hseen : sawCurrent h row.id = false)
  | lost (hraised : .raised ∈ e.log)

/-- What a step of a poll does to the notifications. -/
inductive NoteChange (b : Board) (h : List TaskObservation) (k : TrackedTask) (point : PollPoint)
    (e : PollEffect) : Prop
  | same (hnotified : notified (h ++ e.log) = notified h)
      (hup : upTo BoardEvent.id (rows b k.taskId) (endOf notedUpTo k e) =
        upTo BoardEvent.id (rows b k.taskId) (notedUpTo k (some point)))
  | shown (row kind) (hnotified : notified (h ++ e.log) = notified h ++ [row.id])
      (hup : upTo BoardEvent.id (rows b k.taskId) (endOf notedUpTo k e) =
        upTo BoardEvent.id (rows b k.taskId) (notedUpTo k (some point)) ++ [row])
      (hkind : rowKind row = some kind) (hcurrent : kind = .blocked → sawCurrent h row.id = true)
  | passed (row) (hnotified : notified (h ++ e.log) = notified h)
      (hup : upTo BoardEvent.id (rows b k.taskId) (endOf notedUpTo k e) =
        upTo BoardEvent.id (rows b k.taskId) (notedUpTo k (some point)) ++ [row])
      (hpassed : Passed h e row)

/-- Every step of a poll changes the notifications in one of these ways. -/
theorem pollChange_note {P : Platform} {view : PollView} {k : TrackedTask} {point : PollPoint}
    {action : PollAction} {e : PollEffect} {h : List TaskObservation}
    (hs : PollChange P view k point action e) (hpoint : PointOk k.taskId k point)
    (hboard : BoardOk view.board k.taskId k.cursor point) (hhistory : HistoryOk h point) :
    NoteChange view.board h k point e := by
  cases hs with
  | skipped event rest hkind =>
    obtain ⟨⟨row, hkey, -, hup⟩, -⟩ := Upcoming.next hboard
    exact .passed row (by simp [goOn]) hup (.kind (by rw [kind_of_key hkey, hkind]))
  | toCheck event rest hkind =>
    obtain ⟨-, hbefore, -⟩ := Upcoming.next hboard
    exact .same (by simp [goOn]) hbefore
  | toNotify event rest kind detail hkind hblocked =>
    obtain ⟨⟨row, hkey, -, hup⟩, -⟩ := Upcoming.next hboard
    exact .shown row kind (by simp [goOn, notified, id_of_key hkey]) hup
      (by rw [kind_of_key hkey, hkind]) fun h => absurd h hblocked
  | detailRaised event rest kind error hkind hblocked hdetail =>
    obtain ⟨⟨row, hkey, -, hup⟩, -⟩ := Upcoming.next hboard
    exact .passed row (by simp [raised, notified]) hup (.lost (by simp [raised]))
  | checkRaised event rest =>
    obtain ⟨⟨row, hup, -⟩, -⟩ := hboard
    exact .passed row (by simp [raised, notified]) hup (.lost (by simp [raised]))
  | stale event rest =>
    obtain ⟨⟨row, hup, hkey⟩, -⟩ := hboard
    refine .passed row (by simp [goOn]) hup (.stale ?_ ?_)
    · rw [kind_of_key hkey, hpoint.2]
    · rw [id_of_key hkey]
      exact hhistory
  | current event rest detail hdetail =>
    obtain ⟨⟨row, hup, hkey⟩, -⟩ := hboard
    refine .shown row .blocked (by simp [goOn, notified, id_of_key hkey]) hup ?_ fun _ => ?_
    · rw [kind_of_key hkey, hpoint.2]
    · rw [id_of_key hkey]
      exact hhistory
  | currentRaised event rest error hdetail =>
    obtain ⟨⟨row, hup, -⟩, -⟩ := hboard
    exact .passed row (by simp [raised, notified]) hup (.lost (by simp [raised]))
  | dropped | flushed | refused | acceptedLast =>
    refine .same (by simp [finish, notified]) ?_
    simp only [endOf, finish, notedUpTo]
    split_ifs <;> rfl
  | readRaised | parseRaised | notifyRaised | buildRaised | publishRaised =>
    exact .same (by simp [raised, notified]) rfl
  | readIn | drained | seen | shown | spoken | asked | handing | acceptedNext =>
    exact .same (by simp [goOn, notified]) rfl
  | locked => exact .same (by simp) rfl

/-- What a poll knows of the history stays true as it goes on. -/
lemma pollChange_historyOk {P : Platform} {view : PollView} {k : TrackedTask} {point : PollPoint}
    {action : PollAction} {e : PollEffect} {h : List TaskObservation}
    (hs : PollChange P view k point action e) (hpoint : PointOk k.taskId k point)
    (hseen : ∀ id, sawCurrent h id = true → id ≤ k.cursor) (hhistory : HistoryOk h point) :
    ∀ point', e.point = some point' → HistoryOk (h ++ e.log) point' := by
  intro point' hp
  cases hs with
  | toCheck event rest hkind =>
    cases hp
    have hlt := (Ahead.tail hpoint).1
    cases hsaw : sawCurrent h event.eventId with
    | false => simpa [HistoryOk, goOn] using hsaw
    | true =>
      have := hseen _ hsaw
      omega
  | toNotify event rest kind detail hkind hblocked =>
    cases hp
    exact fun h => absurd h hblocked
  | seen event rest =>
    cases hp
    have hno : sawCurrent h event.eventId = false := hhistory
    rw [HistoryOk, sawCurrent_append, hno, Bool.false_or]
    simp [goOn, sawCurrent]
  | current event rest detail hdetail =>
    cases hp
    have hyes : sawCurrent h event.eventId = true := hhistory
    simp [HistoryOk, goOn, hyes]
  | handing m ms => cases hp; simp [HistoryOk, goOn, handed]
  | acceptedNext m m' ms => cases hp; simp [HistoryOk, goOn, handed]
  | readIn | skipped | drained | stale | shown | spoken | asked | locked => cases hp; trivial
  | readRaised | parseRaised | detailRaised | checkRaised | currentRaised | notifyRaised
  | buildRaised | dropped | flushed | acceptedLast | refused | publishRaised => cases hp

/-- A block is looked up when the cursor is at it. -/
lemma pollChange_saw {P : Platform} {view : PollView} {k : TrackedTask}
    {point : PollPoint} {action : PollAction} {e : PollEffect}
    (hs : PollChange P view k point action e) (hpoint : PointOk k.taskId k point) :
    (∀ id, id ≤ endOf notedUpTo k e → sawCurrent e.log id = false) ∧
      ∀ k', e.tracked = some k' → k.cursor ≤ k'.cursor ∧
        ∀ id, sawCurrent e.log id = true → id ≤ k'.cursor := by
  cases hs with
  | skipped event rest | detailRaised event rest | toCheck event rest | toNotify event rest =>
    have hlt := (Ahead.tail hpoint).1
    refine ⟨fun id hid => by simp [goOn, raised, sawCurrent], fun k' hk => ?_⟩
    cases hk
    exact ⟨le_of_lt hlt, fun id hid => by simp [goOn, raised, sawCurrent] at hid⟩
  | seen event rest =>
    have hcursor : event.eventId = k.cursor := hpoint.1.1
    refine ⟨fun id hid => ?_, fun k' hk => ?_⟩
    · simp only [endOf, goOn, notedUpTo] at hid
      have hne : ¬ event.eventId = id := by omega
      simp [goOn, sawCurrent, hne]
    · cases hk
      refine ⟨le_refl _, fun id hid => ?_⟩
      simp only [goOn, sawCurrent, List.any_cons, List.any_nil, Bool.or_false,
        Bool.and_eq_true, decide_eq_true_eq] at hid
      omega
  | dropped | flushed | refused | acceptedLast =>
    refine ⟨fun id hid => by simp [finish, sawCurrent], fun k' hk => ?_⟩
    simp only [finish] at hk
    split_ifs at hk
    cases hk
    exact ⟨le_refl _, fun id hid => by simp [finish, sawCurrent] at hid⟩
  | readRaised | parseRaised | readIn | drained | checkRaised | stale | current | currentRaised
  | notifyRaised | shown | buildRaised | spoken | asked | locked | handing | acceptedNext
  | publishRaised =>
    refine ⟨fun id hid => by simp [goOn, raised, sawCurrent], fun k' hk => ?_⟩
    cases hk
    exact ⟨le_refl _, fun id hid => by simp [goOn, raised, sawCurrent] at hid⟩

/-! ### What every poll knows -/

/-- A history has looked up no block beyond the cursor, and says of the event at hand what the
poll takes it to be. -/
def Remembered (w : TaskWorld) : Prop :=
  ∀ t k, w.coordinator.tracked t = some k →
    (∀ id, sawCurrent (w.history t) id = true → id ≤ k.cursor) ∧
      ∀ point, w.polls t = some point → HistoryOk (w.history t) point

structure Base (w : TaskWorld) : Prop where
  tables : Tables w
  points : Points w
  inStep : InStep w
  remembered : Remembered w

lemma base_start (boards : String → Board) : Base (start boards) :=
  ⟨tables_start boards, by simp [Points, start], by simp [InStep, start],
    by simp [Remembered, start]⟩

lemma Remembered.step {P : Platform} {w w' : TaskWorld} {a : Action} (hw : Base w)
    (h : Change P w a w') : Remembered w' := by
  intro t k hk
  have hl := h.lane t
  generalize hl' : lane w' t = l at hl
  have hk' : l.tracked = some k := hl' ▸ hk
  have hp' : w'.polls t = l.point := hl' ▸ rfl
  have hh' : w'.history t = l.history := hl' ▸ rfl
  rw [hp', hh']
  cases hl with
  | same => exact hw.remembered t k hk'
  | registered s title slug path hactive hfree hnew =>
    rw [show w.history t = [] from hw.tables.fresh t hnew,
      show w.polls t = none from hw.tables.polled t hfree]
    exact ⟨fun id hid => by simp [sawCurrent] at hid, fun point hp => by cases hp⟩
  | started k₀ hk₀ hp₀ =>
    cases hk'
    exact ⟨(hw.remembered t k hk₀).1, fun point hp => by cases hp; trivial⟩
  | polled k₀ point₀ action e hk₀ hp₀ hs =>
    obtain ⟨rfl, -⟩ := hw.tables.tracked t k₀ hk₀
    have hpoint := hw.points _ k₀ point₀ hk₀ hp₀
    obtain ⟨hseen, hhistory⟩ := hw.remembered _ k₀ hk₀
    obtain ⟨hmono, hnew⟩ := (pollChange_saw hs hpoint).2 k hk'
    refine ⟨fun id hid => ?_, pollChange_historyOk hs hpoint hseen (hhistory point₀ hp₀)⟩
    rw [sawCurrent_append, Bool.or_eq_true] at hid
    rcases hid with hid | hid
    · have := hseen id hid
      omega
    · exact hnew id hid

lemma Base.step {P : Platform} {w w' : TaskWorld} {a : Action} (hw : Base w)
    (h : Change P w a w') (ha : AppendOnly w a) : Base w' :=
  ⟨hw.tables.step h, hw.points.step hw.tables h, hw.inStep.step hw.tables h ha,
    Remembered.step hw h⟩

/-! ### Invariants of one task -/

variable {E : Board → Board → Prop} {A : TrackedTask → PollPoint → PollAction → Prop}

/-- What the environment of a run does: every board is written as `E` allows, and every poll
takes the steps that `A` allows. -/
def Allows (E : Board → Board → Prop) (A : TrackedTask → PollPoint → PollAction → Prop)
    (w : TaskWorld) : Action → Prop
  | .write path board => E (w.boards path) board
  | .poll t action => ∀ k point, w.coordinator.tracked t = some k → w.polls t = some point →
    A k point action
  | _ => True

instance [∀ b b', Decidable (E b b')] [∀ k point action, Decidable (A k point action)]
    (w : TaskWorld) (a : Action) : Decidable (Allows E A w a) :=
  match a with
  | .write path board => inferInstanceAs (Decidable (E (w.boards path) board))
  | .poll t action =>
    match hk : w.coordinator.tracked t, hp : w.polls t with
    | some k, some point => decidable_of_iff (A k point action) (by simp [Allows, hk, hp])
    | none, _ => isTrue (by simp [Allows, hk])
    | _, none => isTrue (by simp [Allows, hp])
  | .openSession _ | .endSession _ | .register _ _ _ _ _ | .pollStart _ | .callStart _ _
  | .call _ _ => isTrue trivial

/-- A property of one task that every step preserves: of its id and registration, its board,
whether its session is active, its history, its record and its poll. -/
structure LaneInvariant (P : Platform) (E : Board → Board → Prop)
    (A : TrackedTask → PollPoint → PollAction → Prop)
    (I : String → Registration → Board → Prop → List TaskObservation → Option TrackedTask →
      Option PollPoint → Prop) : Prop where
  fresh : ∀ s t title slug path b live,
    I t ⟨s, path⟩ b live [] (some (newTask P s t title slug path)) none
  write : ∀ t r b b' live h tracked point, E b b' → I t r b live h tracked point →
    I t r b' live h tracked point
  close : ∀ t r b (live live' : Prop) h tracked point, (live' → live) →
    I t r b live h tracked point → I t r b live' h tracked point
  start : ∀ t r b live h k, I t r b live h (some k) none → I t r b live h (some k) (some .reading)
  poll : ∀ view k point action e h live, (live ↔ view.sessionIsActive = true) →
    PointOk k.taskId k point → Reached view.board k.cursor →
    BoardOk view.board k.taskId k.cursor point →
    (∀ id, sawCurrent h id = true → id ≤ k.cursor) → HistoryOk h point → A k point action →
    PollChange P view k point action e →
    I k.taskId ⟨k.sessionId, k.dbPath⟩ view.board live h (some k) (some point) →
    I k.taskId ⟨k.sessionId, k.dbPath⟩ view.board live (h ++ e.log) e.tracked e.point

variable {P : Platform} {I : String → Registration → Board → Prop → List TaskObservation →
  Option TrackedTask →
    Option PollPoint → Prop}

/-- The property holds of every registered task. -/
def Everywhere (I : String → Registration → Board → Prop → List TaskObservation →
    Option TrackedTask → Option PollPoint → Prop) (w : TaskWorld) : Prop :=
  ∀ t r, w.registered t = some r → I t r (w.boards r.dbPath) (w.sessions r.sessionId = .live)
    (w.history t) (w.coordinator.tracked t) (w.polls t)

lemma LaneInvariant.step (hI : LaneInvariant P E A I) {w w' : TaskWorld} {a : Action}
    (hw : Base w) (hall : Everywhere I w) (h : Change P w a w') (ha : Allows E A w a) :
    Everywhere I w' := by
  intro t r hr
  cases h with
  | opened s hs =>
    refine hI.close _ _ _ _ _ _ _ _ (fun hlive => ?_) (hall t r hr)
    exact ((Change.opened (P := P) s hs).sessions_mono (hw.tables.opened t r hr)).2 hlive
  | ended s hs =>
    refine hI.close _ _ _ _ _ _ _ _ (fun hlive => ?_) (hall t r hr)
    exact ((Change.ended (P := P) s hs).sessions_mono (hw.tables.opened t r hr)).2 hlive
  | wrote path board =>
    by_cases hp : r.dbPath = path
    · subst hp
      have hE : E (w.boards r.dbPath) board := ha
      simpa using hI.write _ _ _ _ _ _ _ _ hE (hall t r hr)
    · simpa [Function.update_of_ne hp] using hall t r hr
  | unregistered | refusedArgs | calling => exact hall t r hr
  | registered s t' title slug path hactive hfree hnew =>
    by_cases ht : t = t'
    · subst ht
      obtain rfl : r = ⟨s, path⟩ := by simpa using hr.symm
      simpa [hw.tables.fresh t hnew, hw.tables.polled t hfree] using
        hI.fresh s t title slug path (w.boards path) (w.sessions s = .live)
    · simpa [Function.update_of_ne ht] using
        hall t r (by simpa [Function.update_of_ne ht] using hr)
  | started t' k hk hp =>
    by_cases ht : t = t'
    · subst ht
      simpa [hk] using hI.start _ _ _ _ _ _ (by simpa [hk, hp] using hall t r hr)
    · simpa [Function.update_of_ne ht] using hall t r hr
  | called n call action e hc hs =>
    simpa [TaskWorld.afterCall, hs.tracked] using hall t r hr
  | polled t' k point action e hk hp hs =>
    by_cases ht : t = t'
    · subst ht
      obtain ⟨rfl, hreg⟩ := hw.tables.tracked t k hk
      obtain rfl : r = ⟨k.sessionId, k.dbPath⟩ := Option.some.inj (hr.symm.trans hreg)
      obtain ⟨hreached, hboard⟩ := hw.inStep _ k hk
      obtain ⟨hseen, hhistory⟩ := hw.remembered _ k hk
      simpa [TaskWorld.afterPoll, TaskWorld.view] using hI.poll (w.view k) k point action e _ _
        (by simp [TaskWorld.view, TaskWorld.sessionIsActive]) (hw.points _ k point hk hp) hreached
        (hboard point hp) hseen (hhistory point hp) (ha k point hk hp) hs
        (by simpa [hk, hp, TaskWorld.view] using hall _ _ hr)
    · simpa [TaskWorld.afterPoll, Function.update_of_ne ht] using hall t r hr

lemma Allows.appendOnly {w : TaskWorld} {a : Action} (hE : ∀ b b', E b b' → Extends b b')
    (h : Allows E A w a) : AppendOnly w a := by
  cases a with
  | write path board => exact hE _ _ h
  | openSession | endSession | register | pollStart | poll | callStart | call => trivial

/-- **The rule of lanes**: what every step preserves of a task holds of every registered task
in every run that the conditions allow. -/
theorem LaneInvariant.run (hI : LaneInvariant P E A I) (hE : ∀ b b', E b b' → Extends b b')
    {boards : String → Board} {w : TaskWorld} {as : List Action}
    (h : Run (TaskWorld.step P) (Allows E A) (TaskLanes.start boards) as w) :
        Base w ∧ Everywhere I w := by
  refine Run.invariant (I := fun w => Base w ∧ Everywhere I w) h ⟨base_start boards, ?_⟩
    fun w a w' hw ha hs => ?_
  · intro t r hr
    simp [TaskLanes.start] at hr
  · have hc := step_change hs
    exact ⟨hw.1.step hc (ha.appendOnly hE), hI.step hw.1 hw.2 hc ha⟩

end HermesRealtime.Voicing

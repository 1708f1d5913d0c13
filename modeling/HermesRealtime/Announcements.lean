import HermesRealtime.Voicing

/-!
Announcements come in order and once: what a task's messages and notifications have to do
with the events on its board, over runs in which boards are only written at their end.

In every run the messages accepted are some of the events, in their order. Where no call
raises and the session stays active they are the first of those that are due, with none left
out.
-/

namespace HermesRealtime.Announcements

open Values Text Protocol TaskEvents TaskRuns TaskLanes Cursors Handling Voicing Runs

/-- An event that is spoken: completed, gave_up, or a block that was found current. -/
def due (h : List TaskObservation) (row : BoardEvent) : Bool :=
  (rowKind row).any fun kind => isVoiceKind kind && (kind ≠ .blocked || sawCurrent h row.id)

/-- An event that is shown: any of the six kinds, blocks only when found current. -/
def noted (h : List TaskObservation) (row : BoardEvent) : Bool :=
  (rowKind row).any fun kind => kind ≠ .blocked || sawCurrent h row.id

def messageKey (m : TaskEventMessage) : ℤ × String := (m.eventId, m.kind.value)

/-- The events of a task up to a cursor. -/
abbrev rowsUpTo (b : Board) (t : String) (c : ℤ) : List BoardEvent :=
  upTo BoardEvent.id (rows b t) c

/-! ### The line of messages -/

/-- The messages accepted and in line are events up to `c`, in order, and addressed to the
session of the task; if nothing was raised while the session was active, they are all those
that were due. -/
structure VoicedUpTo (t : String) (r : Registration) (b : Board) (live : Prop)
    (h : List TaskObservation) (tracked : Option TrackedTask) (c : ℤ) : Prop where
  reached : Reached b c
  ordered : ((voiced h tracked).map messageKey).Sublist ((rowsUpTo b t c).map rowKey)
  addressed : ∀ m ∈ voiced h tracked, m.sessionId = r.sessionId ∧ m.taskId = t
  complete : .raised ∉ h → live →
    (voiced h tracked).map messageKey = ((rowsUpTo b t c).filter (due h)).map rowKey

def Voiced (t : String) (r : Registration) (b : Board) (live : Prop) (h : List TaskObservation)
    (tracked : Option TrackedTask) (point : Option PollPoint) : Prop :=
  ∃ c, (∀ k, tracked = some k → c = spokenUpTo k point) ∧ VoicedUpTo t r b live h tracked c

lemma spokenUpTo_le (k : TrackedTask) (point : Option PollPoint) :
    spokenUpTo k point ≤ k.cursor := by
  unfold spokenUpTo
  split <;> omega

lemma notedUpTo_le (k : TrackedTask) (point : Option PollPoint) :
    notedUpTo k point ≤ k.cursor := by
  unfold notedUpTo
  split <;> omega

lemma endOf_spoken_le_noted (k : TrackedTask) (e : PollEffect) :
    endOf spokenUpTo k e ≤ endOf notedUpTo k e := by
  unfold endOf
  split
  · rcases e.point with _ | point
    · exact le_refl _
    · cases point <;> simp only [spokenUpTo, notedUpTo] <;> omega
  · exact le_refl _

lemma endOf_some {bound : TrackedTask → Option PollPoint → ℤ} {k k' : TrackedTask}
    {e : PollEffect} (h : e.tracked = some k') : endOf bound k e = bound k' e.point := by
  simp [endOf, h]

section

variable {P : Platform} {view : PollView} {k : TrackedTask} {point : PollPoint}
  {action : PollAction} {e : PollEffect} {h : List TaskObservation}

/-- A step keeps every trailing cursor on the board. -/
lemma reached_endOf {bound : TrackedTask → Option PollPoint → ℤ}
    (hle : ∀ k point, bound k point ≤ k.cursor) (hs : PollChange P view k point action e)
    (hreached : Reached view.board k.cursor)
    (hboard : BoardOk view.board k.taskId k.cursor point) :
    Reached view.board (endOf bound k e) := by
  unfold endOf
  split
  · next k' hk =>
    exact (PollChange.boardOk hs hreached hboard k' hk).1.mono (hle k' e.point)
  · exact hreached

/-- A step does not change which of the events behind it were due. -/
lemma filter_due (hsaw : ∀ id, id ≤ endOf notedUpTo k e → sawCurrent e.log id = false)
    (b : Board) (t : String) :
    (rowsUpTo b t (endOf spokenUpTo k e)).filter (due (h ++ e.log)) =
      (rowsUpTo b t (endOf spokenUpTo k e)).filter (due h) := by
  refine List.filter_congr fun row hrow => ?_
  have hle := (mem_upTo.mp hrow).2
  simp [due, hsaw row.id (le_trans hle (endOf_spoken_le_noted k e))]

lemma due_of_kind {row : BoardEvent} {kind : TaskEventKind} (hkind : rowKind row = some kind)
    (hvoice : isVoiceKind kind = true) (hcurrent : kind = .blocked → sawCurrent h row.id = true) :
    due h row = true := by
  by_cases hb : kind = .blocked
  · simp [due, hkind, hvoice, hcurrent hb]
  · simp [due, hkind, hvoice, hb]

lemma not_due_of_kind {row : BoardEvent} (hkind : (rowKind row).any isVoiceKind = false) :
    due h row = false := by
  rcases hrow : rowKind row with _ | kind
  · simp [due, hrow]
  · have hvoice : isVoiceKind kind = false := by simpa [hrow] using hkind
    simp [due, hrow, hvoice]

lemma Voiced.poll {live : Prop} (hlive : live ↔ view.sessionIsActive = true)
    (hpoint : PointOk k.taskId k point) (hreached : Reached view.board k.cursor)
    (hboard : BoardOk view.board k.taskId k.cursor point) (hhistory : HistoryOk h point)
    (hs : PollChange P view k point action e)
    (hv : Voiced k.taskId ⟨k.sessionId, k.dbPath⟩ view.board live h (some k) (some point)) :
    Voiced k.taskId ⟨k.sessionId, k.dbPath⟩ view.board live (h ++ e.log) e.tracked e.point := by
  obtain ⟨c, hc, hup⟩ := hv
  obtain rfl := hc k rfl
  have hsaw := (pollChange_saw hs hpoint).1
  refine ⟨endOf spokenUpTo k e, fun k' hk => endOf_some hk,
    reached_endOf spokenUpTo_le hs hreached hboard, ?_, ?_, ?_⟩
  · -- the messages are still events in order
    cases pollChange_voice hs hpoint hboard hhistory with
    | same hvoiced hrows =>
      rw [hvoiced, rowsUpTo, hrows]
      exact hup.ordered
    | spoken row m hvoiced hrows hkey =>
      rw [hvoiced, rowsUpTo, hrows, List.map_append, List.map_append]
      refine hup.ordered.append ?_
      rw [List.map_singleton, List.map_singleton, ← hkey]
      exact List.Sublist.refl _
    | silent row hvoiced hrows =>
      rw [hvoiced, rowsUpTo, hrows, List.map_append]
      exact hup.ordered.trans (List.sublist_append_left _ _)
    | dropped hdead hvoiced hrows =>
      rw [hvoiced, rowsUpTo, hrows]
      have hold := hup.ordered
      rw [voiced, List.map_append] at hold
      exact (List.sublist_append_left _ _).trans hold
  · intro m hm
    cases pollChange_voice hs hpoint hboard hhistory with
    | same hvoiced hrows => exact hup.addressed m (hvoiced ▸ hm)
    | spoken row m' hvoiced hrows hkey hkind hvoice hcurrent haddress =>
      rw [hvoiced] at hm
      rcases List.mem_append.mp hm with hm | hm
      · exact hup.addressed m hm
      · obtain rfl := List.mem_singleton.mp hm
        exact haddress
    | silent row hvoiced hrows => exact hup.addressed m (hvoiced ▸ hm)
    | dropped hdead hvoiced hrows =>
      rw [hvoiced] at hm
      exact hup.addressed m (List.mem_append_left _ hm)
  · intro hraised hactive
    obtain ⟨hraised, hraised'⟩ := not_or.mp (mt List.mem_append.mpr hraised)
    have hold := hup.complete hraised hactive
    rw [filter_due hsaw]
    cases pollChange_voice hs hpoint hboard hhistory with
    | same hvoiced hrows => rw [hvoiced, rowsUpTo, hrows, hold]
    | spoken row m hvoiced hrows hkey hkind hvoice hcurrent =>
      have hdue := due_of_kind hkind hvoice hcurrent
      rw [hvoiced, rowsUpTo, hrows, List.map_append, hold, List.filter_append, List.map_append]
      simp [hdue, messageKey, hkey]
    | silent row hvoiced hrows hsilent =>
      have hnot : due h row = false := by
        cases hsilent with
        | kind hkind => exact not_due_of_kind hkind
        | stale event rest hp hkey hkind hseen => simp [due, hkind, hseen]
        | lost hl hraised'' => exact absurd hraised'' hraised'
      rw [hvoiced, rowsUpTo, hrows, hold, List.filter_append]
      simp [hnot]
    | dropped hdead => simp [hlive.mp hactive] at hdead

end

lemma voiced_invariant (P : Platform) :
    LaneInvariant P Extends (fun _ _ _ => True) Voiced where
  fresh s t title slug path b live := by
    have hnone : rowsUpTo b t 0 = [] := upTo_of_lt fun row hrow =>
      b.positive row (List.mem_filter.mp hrow).1
    refine ⟨0, fun k hk => ?_, .inl (le_refl _), ?_, ?_, ?_⟩
    · cases hk
      rfl
    · simp [voiced, accepted, newTask]
    · simp [voiced, accepted, newTask]
    · simp [voiced, accepted, newTask, hnone]
  write t r b b' live h tracked point hext hv := by
    obtain ⟨c, hc, hup⟩ := hv
    have hrows : rowsUpTo b' t c = rowsUpTo b t c := hext.upTo hup.reached t
    exact ⟨c, hc, hext.reached hup.reached, hrows ▸ hup.ordered, hup.addressed,
      hrows ▸ hup.complete⟩
  close t r b live live' h tracked point himp hv := by
    obtain ⟨c, hc, hup⟩ := hv
    exact ⟨c, hc, hup.reached, hup.ordered, hup.addressed,
      fun hraised hlive => hup.complete hraised (himp hlive)⟩
  start t r b live h k hv := by
    obtain ⟨c, hc, hup⟩ := hv
    exact ⟨c, fun k' hk => by cases hk; exact hc k rfl, hup⟩
  poll view k point action e h live hlive hpoint hreached hboard hseen hhistory _ hs hv :=
    hv.poll hlive hpoint hreached hboard hhistory hs

/-! ### The notifications -/

/-- Unless something was raised, what has been shown is what was to be shown of the events up
to `c`. -/
structure NotedUpTo (t : String) (b : Board) (h : List TaskObservation) (c : ℤ) : Prop where
  reached : Reached b c
  complete : .raised ∉ h → notified h = ((rowsUpTo b t c).filter (noted h)).map BoardEvent.id

def Noted (t : String) (_ : Registration) (b : Board) (_ : Prop) (h : List TaskObservation)
    (tracked : Option TrackedTask) (point : Option PollPoint) : Prop :=
  ∃ c, (∀ k, tracked = some k → c = notedUpTo k point) ∧ NotedUpTo t b h c

lemma noted_invariant (P : Platform) : LaneInvariant P Extends (fun _ _ _ => True) Noted where
  fresh s t title slug path b live := by
    have hnone : rowsUpTo b t 0 = [] := upTo_of_lt fun row hrow =>
      b.positive row (List.mem_filter.mp hrow).1
    refine ⟨0, fun k hk => ?_, .inl (le_refl _), ?_⟩
    · cases hk
      rfl
    · simp [notified, hnone]
  write t r b b' live h tracked point hext hv := by
    obtain ⟨c, hc, hup⟩ := hv
    have hrows : rowsUpTo b' t c = rowsUpTo b t c := hext.upTo hup.reached t
    exact ⟨c, hc, hext.reached hup.reached, hrows ▸ hup.complete⟩
  close t r b live live' h tracked point _ hv := hv
  start t r b live h k hv := by
    obtain ⟨c, hc, hup⟩ := hv
    exact ⟨c, fun k' hk => by cases hk; exact hc k rfl, hup⟩
  poll view k point action e h live _ hpoint hreached hboard hseen hhistory _ hs hv := by
    obtain ⟨c, hc, hup⟩ := hv
    obtain rfl := hc k rfl
    have hsaw := (pollChange_saw hs hpoint).1
    refine ⟨endOf notedUpTo k e, fun k' hk => endOf_some hk,
      reached_endOf notedUpTo_le hs hreached hboard, fun hraised => ?_⟩
    obtain ⟨hraised, hraised'⟩ := not_or.mp (mt List.mem_append.mpr hraised)
    have hold := hup.complete hraised
    have hfilter : (rowsUpTo view.board k.taskId (endOf notedUpTo k e)).filter
        (noted (h ++ e.log)) =
          (rowsUpTo view.board k.taskId (endOf notedUpTo k e)).filter (noted h) := by
      refine List.filter_congr fun row hrow => ?_
      simp [noted, hsaw row.id (mem_upTo.mp hrow).2]
    rw [hfilter]
    cases pollChange_note hs hpoint hboard hhistory with
    | same hnotified hrows => rw [hnotified, rowsUpTo, hrows, hold]
    | shown row kind hnotified hrows hkind hcurrent =>
      have hnoted : noted h row = true := by
        by_cases hb : kind = .blocked
        · simp [noted, hkind, hcurrent hb]
        · simp [noted, hkind, hb]
      rw [hnotified, rowsUpTo, hrows, hold, List.filter_append, List.map_append]
      simp [hnoted]
    | passed row hnotified hrows hpassed =>
      have hnot : noted h row = false := by
        cases hpassed with
        | kind hkind => simp [noted, hkind]
        | stale hkind hseen => simp [noted, hkind, hseen]
        | lost hlost => exact absurd hlost hraised'
      rw [hnotified, rowsUpTo, hrows, hold, List.filter_append]
      simp [hnot]

/-! ### Leaving the table -/

/-- The completion of a task that has been seen, or has left the table, has been put in line, or
accepted. -/
def Completed (_ : String) (_ : Registration) (_ : Board) (live : Prop) (h : List TaskObservation)
    (tracked : Option TrackedTask) (_ : Option PollPoint) : Prop :=
  live → (∀ k, tracked = some k → k.terminalSeen = true →
      ∃ m ∈ voiced h tracked, m.kind = .completed) ∧
    (tracked = none → ∃ m ∈ accepted h, m.kind = .completed)

/-- While the session is active no message leaves the line but by being accepted. -/
lemma voiced_subset {P : Platform} {view : PollView} {k : TrackedTask} {point : PollPoint}
    {action : PollAction} {e : PollEffect} {h : List TaskObservation}
    (hs : PollChange P view k point action e) (hpoint : PointOk k.taskId k point)
    (hboard : BoardOk view.board k.taskId k.cursor point) (hhistory : HistoryOk h point)
    (hactive : view.sessionIsActive = true) :
    ∀ m ∈ voiced h (some k), m ∈ voiced (h ++ e.log) e.tracked := by
  intro m hm
  cases pollChange_voice hs hpoint hboard hhistory with
  | same hvoiced => rwa [hvoiced]
  | spoken row m' hvoiced =>
    rw [hvoiced]
    exact List.mem_append_left _ hm
  | silent row hvoiced => rwa [hvoiced]
  | dropped hdead => simp [hactive] at hdead

/-- A task is marked as completed by the message that says so, and leaves the table once it is
marked. -/
lemma pollChange_terminal {P : Platform} {view : PollView} {k : TrackedTask} {point : PollPoint}
    {action : PollAction} {e : PollEffect} (h : List TaskObservation)
    (hs : PollChange P view k point action e) :
    (∀ k', e.tracked = some k' → k'.terminalSeen = true → k.terminalSeen = true ∨
      ∃ m ∈ voiced (h ++ e.log) e.tracked, m.kind = .completed) ∧
      (e.tracked = none → k.terminalSeen = true) := by
  cases hs with
  | spoken event kind detail rest m hvoice hmessage hinput =>
    refine ⟨fun k' hk hseen => ?_, fun hk => by cases hk⟩
    cases hk
    rcases (Bool.or_eq_true _ _).mp hseen with hseen | hseen
    · exact .inl hseen
    · obtain ⟨-, -, -, hkind, -⟩ := voiceMessage_fields hmessage
      exact .inr ⟨m, by simp [voiced, goOn], by simpa [hkind] using hseen⟩
  | dropped | flushed | refused | acceptedLast =>
    refine ⟨fun k' hk hseen => .inl ?_, fun hk => ?_⟩
    · simp only [finish] at hk
      split_ifs at hk
      cases hk
      exact hseen
    · simp only [finish] at hk
      split_ifs at hk with hdone
      exact hdone.1
  | readRaised | parseRaised | readIn | drained | skipped | toCheck | toNotify | detailRaised
  | checkRaised | seen | stale | current | currentRaised | notifyRaised | shown | buildRaised
  | asked | locked | handing | acceptedNext | publishRaised =>
    exact ⟨fun k' hk hseen => by cases hk; exact .inl hseen, fun hk => by cases hk⟩

lemma completed_invariant (P : Platform) :
    LaneInvariant P Extends (fun _ _ _ => True) Completed where
  fresh s t title slug path b live _ :=
    ⟨fun k hk hseen => by cases hk; simp [newTask] at hseen, fun hk => by cases hk⟩
  write t r b b' live h tracked point _ hv := hv
  close t r b live live' h tracked point himp hv hlive := hv (himp hlive)
  start t r b live h k hv hlive :=
    ⟨fun k' hk => by cases hk; exact (hv hlive).1 k rfl, fun hk => by cases hk⟩
  poll view k point action e h live hlive hpoint hreached hboard hseen hhistory _ hs hv
      hactive := by
    obtain ⟨hkeep, -⟩ := hv hactive
    have hsubset := voiced_subset hs hpoint hboard hhistory (hlive.mp hactive)
    obtain ⟨hmark, hleave⟩ := pollChange_terminal h hs
    refine ⟨fun k' hk hterminal => ?_, fun hk => ?_⟩
    · rcases hmark k' hk hterminal with hold | hnew
      · obtain ⟨m, hm, hkind⟩ := hkeep k rfl hold
        exact ⟨m, hsubset m hm, hkind⟩
      · exact hnew
    · obtain ⟨m, hm, hkind⟩ := hkeep k rfl (hleave hk)
      exact ⟨m, by simpa [voiced, hk] using hsubset m hm, hkind⟩

/-! ### In order and once -/

/-- Nothing is accepted for a session that is not active. -/
lemma accepted_of_inactive {P : Platform} {view : PollView} {k : TrackedTask} {point : PollPoint}
    {action : PollAction} {e : PollEffect} (hs : PollChange P view k point action e)
    (hdead : view.sessionIsActive = false) : accepted e.log = [] := by
  cases hs <;> simp_all [goOn, raised, finish, accepted]

lemma Allows.of_appendOnly {w : TaskWorld} {a : Action} (h : AppendOnly w a) :
    Allows Extends (fun _ _ _ => True) w a := by
  cases a with
  | write path board => exact h
  | poll t action => exact fun _ _ _ _ => trivial
  | openSession | endSession | register | pollStart | callStart | call => trivial

/-- What an inactive session has accepted is all it ever will. -/
lemma accepted_stays {P : Platform} {w w' : TaskWorld} {bs : List Action} {t : String}
    {r : Registration} (hbase : Base w) (hr : w.registered t = some r)
    (hdead : w.sessions r.sessionId ≠ .live) (hrun : Run (TaskWorld.step P) AppendOnly w bs w') :
    accepted (w'.history t) = accepted (w.history t) := by
  have hinv := Run.invariant (I := fun w' => Base w' ∧ w'.registered t = some r ∧
    w'.sessions r.sessionId ≠ .live ∧ accepted (w'.history t) = accepted (w.history t)) hrun
    ⟨hbase, hr, hdead, rfl⟩ ?_
  · exact hinv.2.2.2
  · rintro u a u' ⟨hu, hru, hlive, hsame⟩ ha hs
    have hc := step_change hs
    refine ⟨hu.step hc ha, hc.registered_mono hru, fun hlive' => ?_, ?_⟩
    · exact hlive ((hc.sessions_mono (hu.tables.opened t r hru)).2 hlive')
    · have hl := hc.lane t
      generalize hl' : lane u' t = l at hl
      have hh : u'.history t = l.history := hl' ▸ rfl
      rw [hh, ← hsame]
      cases hl with
      | same => rfl
      | registered => rfl
      | started => rfl
      | polled k point action e hk hp hpoll =>
        obtain ⟨-, hreg⟩ := hu.tables.tracked t k hk
        obtain rfl : r = ⟨k.sessionId, k.dbPath⟩ := Option.some.inj (hru.symm.trans hreg)
        have hno := accepted_of_inactive hpoll
          (by simpa [TaskWorld.view, TaskWorld.sessionIsActive] using hlive)
        simp [hno]

/-- What a task's session has been told, while it is active and nothing has been raised. -/
structure InFull (w : TaskWorld) (t : String) (r : Registration) : Prop where
  /-- the messages accepted are the first of the events that are due -/
  spoken : (accepted (w.history t)).map messageKey <+:
    ((rows (w.boards r.dbPath) t).filter (due (w.history t))).map rowKey
  /-- the notifications are those of the first events that are shown -/
  shown : notified (w.history t) <+:
    ((rows (w.boards r.dbPath) t).filter (noted (w.history t))).map BoardEvent.id
  /-- between two polls all events up to the cursor are accepted or in line, and shown -/
  upToDate : ∀ k, w.coordinator.tracked t = some k → w.polls t = none →
    (accepted (w.history t) ++ k.pendingVoice).map messageKey =
        ((rowsUpTo (w.boards r.dbPath) t k.cursor).filter (due (w.history t))).map rowKey ∧
      notified (w.history t) =
        ((rowsUpTo (w.boards r.dbPath) t k.cursor).filter (noted (w.history t))).map BoardEvent.id
  /-- the task is tracked until its completion is accepted -/
  left : w.coordinator.tracked t = none → ∃ m ∈ accepted (w.history t), m.kind = .completed

lemma rowsUpTo_filter_isPrefix (b : Board) (t : String) (c : ℤ) (p : BoardEvent → Bool) :
    (rowsUpTo b t c).filter p <+: (rows b t).filter p :=
  (upTo_isPrefix (rows_sorted b t)).filter p

/-- **Announcements in order and once**: the messages accepted have increasing ids and the
session of their task; while it is active and nothing is raised none is missing, and once it
is not, none is added. -/
theorem announced_in_order {P : Platform} {boards : String → Board} {w : TaskWorld}
    {as : List Action} (hrun : Run (TaskWorld.step P) AppendOnly (TaskLanes.start boards) as w)
    {t : String} {r : Registration} (hr : w.registered t = some r) :
    ((accepted (w.history t)).map TaskEventMessage.eventId).Pairwise (· < ·) ∧
      (∀ m ∈ accepted (w.history t), m.sessionId = r.sessionId ∧ m.taskId = t) ∧
      (.raised ∉ w.history t → w.sessions r.sessionId = .live → InFull w t r) ∧
      (w.sessions r.sessionId ≠ .live → ∀ bs w', Run (TaskWorld.step P) AppendOnly w bs w' →
        accepted (w'.history t) = accepted (w.history t)) := by
  have hallows := hrun.mono fun _ _ => Allows.of_appendOnly
  obtain ⟨hbase, hvoiced⟩ := (voiced_invariant P).run (fun _ _ h => h) hallows
  obtain ⟨c, hc, hup⟩ := hvoiced t r hr
  obtain ⟨d, hd, hnotes⟩ := ((noted_invariant P).run (fun _ _ h => h) hallows).2 t r hr
  have hcompleted := ((completed_invariant P).run (fun _ _ h => h) hallows).2 t r hr
  refine ⟨?_, fun m hm => hup.addressed m (List.mem_append_left _ hm), fun hraised hlive => ?_,
    fun hdead bs w' hrun' => accepted_stays hbase hr hdead hrun'⟩
  · have hsub := hup.ordered.map Prod.fst
    rw [List.map_map, List.map_map, voiced, List.map_append] at hsub
    have hsorted : ((rowsUpTo (w.boards r.dbPath) t c).map BoardEvent.id).Pairwise (· < ·) := by
      rw [List.pairwise_map]
      exact (rows_sorted _ t).filter _
    exact hsorted.sublist ((List.sublist_append_left _ _).trans hsub)
  · have hall := hup.complete hraised hlive
    have hshown := hnotes.complete hraised
    refine ⟨?_, ?_, fun k hk hp => ?_, fun hleft => (hcompleted hlive).2 hleft⟩
    · have hpre := (rowsUpTo_filter_isPrefix (w.boards r.dbPath) t c (due (w.history t))).map rowKey
      rw [← hall, voiced, List.map_append] at hpre
      exact (List.prefix_append _ _).trans hpre
    · rw [hshown]
      exact (rowsUpTo_filter_isPrefix _ t d _).map _
    · obtain rfl : c = k.cursor := by rw [hc k hk, hp]; rfl
      obtain rfl : d = k.cursor := by rw [hd k hk, hp]; rfl
      rw [voiced, hk] at hall
      exact ⟨hall, hshown⟩

/-- A block and a completion, announced one after the other. -/
def announcing : List Action :=
  [.openSession "voice-one-01", .write "board" blockedBoard,
   .register "voice-one-01" "task" "Deploy" "default" "board"] ++ pollBlocked ++
  [.write "board" completedBoard] ++ pollCompleted

theorem announced_in_order_completed :
    ∃ w, (accepted (w.history "task")).map TaskEventMessage.eventId = [1, 2] ∧
      InFull w "task" ⟨"voice-one-01", "board"⟩ := by
  have hexec : (exec (TaskWorld.step asciiPlatform) (fun w a => decide (AppendOnly w a))
      (TaskLanes.start fun _ => blockedBoard) announcing).map
      (fun w => (w.registered "task", w.sessions "voice-one-01",
        decide (.raised ∈ w.history "task"),
        (accepted (w.history "task")).map TaskEventMessage.eventId)) =
      some (some ⟨"voice-one-01", "board"⟩, .live, false, [1, 2]) := by
    decide +kernel
  obtain ⟨w, hw, hfacts⟩ := Option.map_eq_some_iff.mp hexec
  obtain ⟨hr, hlive, hraised, hids⟩ := by simpa only [Prod.mk.injEq] using hfacts
  have hrun := run_of_exec (C := AppendOnly) (fun _ _ h => of_decide_eq_true h) _ _ hw
  exact ⟨w, hids, (announced_in_order hrun hr).2.2.1 (of_decide_eq_false hraised) hlive⟩

end HermesRealtime.Announcements

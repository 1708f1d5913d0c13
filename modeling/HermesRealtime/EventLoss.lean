import HermesRealtime.Announcements

/-!
When an event is lost, and when none is.

The cursor of a task moves to an event before the event is handled. An exception in between
ends the poll, and the next one starts behind the event: it is never put in line. An exception
in reading the board or in publishing loses nothing, since the events read again are those
after the cursor and a message stays in line until it is accepted.
-/

namespace HermesRealtime.EventLoss

open Values Text Protocol TaskEvents TaskRuns TaskLanes Cursors Handling Voicing Announcements Runs

/-- The event is of a kind that is spoken, and if it is a block it is the current one. -/
def owed (b : Board) (t : String) (row : BoardEvent) : Bool :=
  (rowKind row).any fun kind =>
    isVoiceKind kind && (kind ≠ .blocked || b.isCurrentBlock t row.id)

/-- A board is written at its end, and no block that was not current becomes so again. -/
def Undisturbed (b b' : Board) : Prop :=
  Extends b b' ∧ ∀ row ∈ b.events, b'.isCurrentBlock row.taskId row.id = true →
    b.isCurrentBlock row.taskId row.id = true

instance (b b' : Board) : Decidable (Undisturbed b b') := by
  unfold Undisturbed
  infer_instance

/-- No poll raises while it handles an event that is to be spoken. -/
def Handles (P : Platform) (k : TrackedTask) (point : PollPoint) (action : PollAction) : Prop :=
  loses P k point action = false

instance (P : Platform) (k : TrackedTask) (point : PollPoint) (action : PollAction) :
    Decidable (Handles P k point action) := inferInstanceAs (Decidable (_ = false))

/-! ### Nothing is lost -/

/-- The events up to `c` that are owed to the voice page are among the messages. -/
def NoneMissing (b : Board) (t : String) (c : ℤ) (messages : List TaskEventMessage) : Prop :=
  Reached b c ∧ ∀ row ∈ rowsUpTo b t c, owed b t row = true →
    row.id ∈ messages.map TaskEventMessage.eventId

/-- The block a poll has found not to be current is not. -/
def StaleBlock (b : Board) (t : String) : Option PollPoint → Prop
  | some (.checked event false _) =>
    b.isCurrentBlock t event.eventId = false ∧ ∃ row ∈ rows b t, row.id = event.eventId
  | _ => True

structure Kept (t : String) (r : Registration) (b : Board) (live : Prop)
    (h : List TaskObservation) (tracked : Option TrackedTask) (point : Option PollPoint) :
    Prop where
  /-- what was accepted had been handed to `publish` -/
  handed : ∀ m ∈ accepted h, m ∈ Handling.handed h
  stale : StaleBlock b t point
  inLine : live → ∃ c, (∀ k, tracked = some k → c = spokenUpTo k point) ∧
    NoneMissing b t c (voiced h tracked)
  finished : live → ∀ pre c, h = pre ++ [.finished c true] → NoneMissing b t c (accepted h)

lemma owed_of_undisturbed {b b' : Board} (h : Undisturbed b b') {t : String} {row : BoardEvent}
    (hrow : row ∈ rows b t) (howed : owed b' t row = true) : owed b t row = true := by
  obtain ⟨hmem, htask⟩ := List.mem_filter.mp hrow
  obtain rfl : row.taskId = t := by simpa using htask
  have hold := h.2 row hmem
  unfold owed at howed ⊢
  rcases hkind : rowKind row with _ | kind
  · simp [hkind] at howed
  · simp only [hkind, Option.any_some, Bool.and_eq_true, Bool.or_eq_true] at howed ⊢
    exact ⟨howed.1, howed.2.imp_right hold⟩

lemma NoneMissing.write {b b' : Board} (h : Undisturbed b b') {t : String} {c : ℤ}
    {messages : List TaskEventMessage} (hnone : NoneMissing b t c messages) :
    NoneMissing b' t c messages := by
  obtain ⟨hreached, hall⟩ := hnone
  refine ⟨h.1.reached hreached, fun row hrow howed => ?_⟩
  have hsame : rowsUpTo b' t c = rowsUpTo b t c := h.1.upTo hreached t
  rw [hsame] at hrow
  exact hall row hrow (owed_of_undisturbed h (mem_upTo.mp hrow).1 howed)

lemma StaleBlock.write {b b' : Board} (h : Undisturbed b b') {t : String}
    {point : Option PollPoint} (hstale : StaleBlock b t point) : StaleBlock b' t point := by
  unfold StaleBlock at hstale ⊢
  split
  · next event rest =>
    obtain ⟨hno, row, hrow, hid⟩ := hstale
    obtain ⟨hmem, htask⟩ := List.mem_filter.mp hrow
    obtain rfl : row.taskId = t := by simpa using htask
    refine ⟨?_, row, List.mem_filter.mpr ⟨h.1.subset hmem, htask⟩, hid⟩
    cases hyes : b'.isCurrentBlock row.taskId event.eventId with
    | false => rfl
    | true =>
      have hback := h.2 row hmem (by rw [hid]; exact hyes)
      rw [hid, hno] at hback
      cases hback
  · trivial

section

variable {P : Platform} {view : PollView} {k : TrackedTask} {point : PollPoint}
  {action : PollAction} {e : PollEffect} {h : List TaskObservation}

/-- What is accepted is what was handed over. -/
lemma accepted_handed (hs : PollChange P view k point action e) (hhistory : HistoryOk h point)
    (hold : ∀ m ∈ accepted h, m ∈ handed h) :
    ∀ m ∈ accepted (h ++ e.log), m ∈ handed (h ++ e.log) := by
  intro m hm
  rw [accepted_append] at hm
  rw [handed_append]
  refine List.mem_append_left _ ?_
  rcases List.mem_append.mp hm with hm | hm
  · exact hold m hm
  · cases hs <;> simp [goOn, raised, finish, accepted] at hm
    all_goals
      subst hm
      exact hhistory

/-- A block that a poll looks up is on its board. -/
lemma staleBlock_poll (hs : PollChange P view k point action e)
    (hboard : BoardOk view.board k.taskId k.cursor point) :
    StaleBlock view.board k.taskId e.point := by
  cases hs with
  | seen event rest =>
    obtain ⟨⟨row, hup, hkey⟩, -⟩ := hboard
    have hrow : row ∈ rowsUpTo view.board k.taskId k.cursor := by
      rw [rowsUpTo, hup]
      simp
    cases hcurrent : view.board.isCurrentBlock k.taskId event.eventId with
    | true => simp [goOn, StaleBlock]
    | false => exact ⟨hcurrent, row, (mem_upTo.mp hrow).1, id_of_key hkey⟩
  | readRaised | parseRaised | readIn | drained | skipped | toCheck | toNotify | detailRaised
  | checkRaised | stale | current | currentRaised | notifyRaised | shown | buildRaised | spoken
  | asked | locked | dropped | flushed | handing | acceptedLast | acceptedNext | refused
  | publishRaised => trivial

/-- A poll that ends with nothing refused leaves nothing in line. -/
lemma finished_clean (hs : PollChange P view k point action e)
    (hactive : view.sessionIsActive = true) {pre : List TaskObservation} {c : ℤ}
    (hlog : e.log = pre ++ [.finished c true]) :
    endOf spokenUpTo k e = c ∧ voiced (h ++ e.log) e.tracked = accepted (h ++ e.log) := by
  have hlast : e.log.getLast? = some (.finished c true) := by simp [hlog]
  cases hs with
  | dropped hdead => simp [hactive] at hdead
  | flushed _ hempty =>
    obtain rfl : k.cursor = c := by simpa [finish] using hlast
    by_cases hseen : k.terminalSeen <;>
      simp [endOf, finish, hempty, hseen, spokenUpTo, voiced]
  | acceptedLast m _ hrest =>
    obtain rfl : k.cursor = c := by simpa [finish] using hlast
    by_cases hseen : k.terminalSeen <;> simp [endOf, finish, hseen, spokenUpTo, voiced]
  | readRaised | parseRaised | readIn | drained | skipped | toCheck | toNotify | detailRaised
  | checkRaised | seen | stale | current | currentRaised | notifyRaised | shown | buildRaised
  | spoken | asked | locked | handing | acceptedNext | refused | publishRaised =>
    simp [goOn, raised, finish] at hlast

/-- A step that handles what it should leaves no event out of the line. -/
lemma noneMissing_poll (hpoint : PointOk k.taskId k point)
    (hreached : Reached view.board k.cursor)
    (hboard : BoardOk view.board k.taskId k.cursor point) (hhistory : HistoryOk h point)
    (hhandles : Handles P k point action) (hs : PollChange P view k point action e)
    (hactive : view.sessionIsActive = true) (hstale : StaleBlock view.board k.taskId (some point))
    (hnone : NoneMissing view.board k.taskId (spokenUpTo k (some point)) (voiced h (some k))) :
    NoneMissing view.board k.taskId (endOf spokenUpTo k e) (voiced (h ++ e.log) e.tracked) := by
  refine ⟨reached_endOf spokenUpTo_le hs hreached hboard, fun row hrow howed => ?_⟩
  cases pollChange_voice hs hpoint hboard hhistory with
  | same hvoiced hrows =>
    rw [rowsUpTo, hrows] at hrow
    rw [hvoiced]
    exact hnone.2 row hrow howed
  | spoken row' m hvoiced hrows hkey =>
    rw [rowsUpTo, hrows] at hrow
    rw [hvoiced, List.map_append]
    rcases List.mem_append.mp hrow with hrow | hrow
    · exact List.mem_append_left _ (hnone.2 row hrow howed)
    · obtain rfl := List.mem_singleton.mp hrow
      have hid : m.eventId = row.id := congrArg Prod.fst hkey
      simp [hid]
  | silent row' hvoiced hrows hsilent =>
    rw [rowsUpTo, hrows] at hrow
    rw [hvoiced]
    rcases List.mem_append.mp hrow with hrow | hrow
    · exact hnone.2 row hrow howed
    · obtain rfl := List.mem_singleton.mp hrow
      -- an event that was passed over is not owed
      exfalso
      cases hsilent with
      | kind hkind =>
        rcases hk : rowKind row with _ | kind
        · simp [owed, hk] at howed
        · have hvoice : isVoiceKind kind = false := by simpa [hk] using hkind
          simp [owed, hk, hvoice] at howed
      | stale event rest hp hkey hkind hseen =>
        subst hp
        have hno : view.board.isCurrentBlock k.taskId row.id = false := by
          rw [id_of_key hkey]
          exact hstale.1
        simp [owed, hkind, hno] at howed
      | lost hl => simp [Handles, hl] at hhandles
  | dropped hdead => simp [hactive] at hdead

end

lemma kept_invariant (P : Platform) : LaneInvariant P Undisturbed (Handles P) Kept where
  fresh s t title slug path b live := by
    have hnone : rowsUpTo b t 0 = [] := upTo_of_lt fun row hrow =>
      b.positive row (List.mem_filter.mp hrow).1
    refine ⟨by simp [accepted], trivial, fun _ => ⟨0, fun k hk => ?_, .inl (le_refl _), ?_⟩,
      fun _ pre c hh => by simp at hh⟩
    · cases hk
      rfl
    · simp [hnone]
  write t r b b' live h tracked point hE hv := by
    refine ⟨hv.handed, hv.stale.write hE, fun hlive => ?_, fun hlive pre c hh => ?_⟩
    · obtain ⟨c, hc, hnone⟩ := hv.inLine hlive
      exact ⟨c, hc, hnone.write hE⟩
    · exact (hv.finished hlive pre c hh).write hE
  close t r b live live' h tracked point himp hv :=
    ⟨hv.handed, hv.stale, fun hlive => hv.inLine (himp hlive),
      fun hlive => hv.finished (himp hlive)⟩
  start t r b live h k hv := by
    refine ⟨hv.handed, trivial, fun hlive => ?_, hv.finished⟩
    obtain ⟨c, hc, hnone⟩ := hv.inLine hlive
    exact ⟨c, fun k' hk => by cases hk; exact hc k rfl, hnone⟩
  poll view k point action e h live hlive hpoint hreached hboard hseen hhistory hhandles hs hv := by
    have hline : live → NoneMissing view.board k.taskId (endOf spokenUpTo k e)
        (voiced (h ++ e.log) e.tracked) := by
      intro hl
      obtain ⟨c, hc, hnone⟩ := hv.inLine hl
      obtain rfl := hc k rfl
      exact noneMissing_poll hpoint hreached hboard hhistory hhandles hs
        (hlive.mp hl) hv.stale hnone
    refine ⟨accepted_handed hs hhistory hv.handed, staleBlock_poll hs hboard,
      fun hl => ⟨_, fun k' hk => endOf_some hk, hline hl⟩, fun hl pre c hh => ?_⟩
    rcases List.eq_nil_or_concat e.log with hlog | ⟨pre', o, hlog⟩
    · rw [hlog, List.append_nil] at hh ⊢
      exact hv.finished hl pre c hh
    · have ho : o = .finished c true := by
        rw [hlog, List.concat_eq_append, ← List.append_assoc] at hh
        exact List.singleton_injective (List.append_inj_right' hh rfl)
      rw [ho, List.concat_eq_append] at hlog
      obtain ⟨hc, hvoiced⟩ := finished_clean (h := h) hs (hlive.mp hl) hlog
      rw [← hc, ← hvoiced]
      exact hline hl

/-! ### A locked board -/

/-- The block is read, but whether it is current cannot be: the board is locked. The next poll
finds nothing new. -/
def lockedBoard : List Action :=
  [.openSession "voice-one-01", .register "voice-one-01" "task" "Deploy" "default" "board",
   .pollStart "task", .poll "task" (.read false), .poll "task" .next, .poll "task" (.check true),
   .pollStart "task", .poll "task" (.read false), .poll "task" .next, .poll "task" .flush]

/-- A poll in which nothing raises can leave a current block behind the cursor that was never
handed to `publish`. -/
theorem current_block_lost :
    ∃ w, Run (TaskWorld.step asciiPlatform) AppendOnly (TaskLanes.start fun _ => blockedBoard)
        lockedBoard w ∧
      w.registered "task" = some ⟨"voice-one-01", "board"⟩ ∧ w.sessions "voice-one-01" = .live ∧
      w.history "task" = [.raised] ++ [.finished 1 true] ∧
      (∃ row ∈ rowsUpTo (w.boards "board") "task" 1, owed (w.boards "board") "task" row = true) ∧
      handed (w.history "task") = [] := by
  have hexec : (exec (TaskWorld.step asciiPlatform) (fun w a => decide (AppendOnly w a))
      (TaskLanes.start fun _ => blockedBoard) lockedBoard).map
      (fun w => (w.registered "task", w.sessions "voice-one-01", w.history "task",
        (rowsUpTo (w.boards "board") "task" 1).any (owed (w.boards "board") "task"))) =
      some (some ⟨"voice-one-01", "board"⟩, .live, [.raised, .finished 1 true], true) := by
    decide +kernel
  obtain ⟨w, hw, hfacts⟩ := Option.map_eq_some_iff.mp hexec
  obtain ⟨hr, hlive, hhistory, howed⟩ := by simpa only [Prod.mk.injEq] using hfacts
  have hrun := run_of_exec (C := AppendOnly) (fun _ _ h => of_decide_eq_true h) _ _ hw
  refine ⟨w, hrun, hr, hlive, hhistory, List.any_eq_true.mp howed, ?_⟩
  rw [hhistory]
  rfl

/-- **No event is lost** in a run in which no poll raises while it handles an event that is to
be spoken: after a poll that refuses nothing, every event up to its cursor that is owed to the
voice page has been handed to `publish`. -/
theorem none_lost_when_handled {P : Platform} {boards : String → Board} {w : TaskWorld}
    {as : List Action}
    (hrun : Run (TaskWorld.step P) (Allows Undisturbed (Handles P)) (TaskLanes.start boards) as w)
    {t : String} {r : Registration} (hr : w.registered t = some r)
    (hlive : w.sessions r.sessionId = .live) {pre : List TaskObservation} {c : ℤ}
    (hfinished : w.history t = pre ++ [.finished c true]) :
    ∀ row ∈ rowsUpTo (w.boards r.dbPath) t c, owed (w.boards r.dbPath) t row = true →
      row.id ∈ (handed (w.history t)).map TaskEventMessage.eventId := by
  intro row hrow howed
  have hkept := ((kept_invariant P).run (fun _ _ h => h.1) hrun).2 t r hr
  obtain ⟨m, hm, hid⟩ := List.mem_map.mp ((hkept.finished hlive pre c hfinished).2 row hrow howed)
  exact List.mem_map.mpr ⟨m, hkept.handed m hm, hid⟩

/-- The same block with a board that can be read. -/
def readableBoard : List Action :=
  [.openSession "voice-one-01", .register "voice-one-01" "task" "Deploy" "default" "board"] ++
    pollBlocked

theorem none_lost_when_handled_block :
    ∃ (w : TaskWorld) (c : ℤ) (row : BoardEvent), row ∈ rowsUpTo (w.boards "board") "task" c ∧
      owed (w.boards "board") "task" row = true ∧
      row.id ∈ (handed (w.history "task")).map TaskEventMessage.eventId := by
  have hexec : (exec (TaskWorld.step asciiPlatform)
      (fun w a => decide (Allows Undisturbed (Handles asciiPlatform) w a))
      (TaskLanes.start fun _ => blockedBoard) readableBoard).map
      (fun w => (w.registered "task", w.sessions "voice-one-01", (w.history "task").getLast?,
        (rowsUpTo (w.boards "board") "task" 1).any (owed (w.boards "board") "task"))) =
      some (some ⟨"voice-one-01", "board"⟩, .live, some (.finished 1 true), true) := by
    decide +kernel
  obtain ⟨w, hw, hfacts⟩ := Option.map_eq_some_iff.mp hexec
  obtain ⟨hr, hlive, hlast, howed⟩ := by simpa only [Prod.mk.injEq] using hfacts
  obtain ⟨pre, hpre⟩ := List.getLast?_eq_some_iff.mp hlast
  obtain ⟨row, hrow, howed⟩ := List.any_eq_true.mp howed
  have hrun := run_of_exec (C := Allows Undisturbed (Handles asciiPlatform))
    (fun _ _ h => of_decide_eq_true h) _ _ hw
  exact ⟨w, 1, row, hrow, howed, none_lost_when_handled hrun hr hlive hpre row hrow howed⟩

end HermesRealtime.EventLoss

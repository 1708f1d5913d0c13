import HermesRealtime.TaskLanes
import HermesRealtime.Cursors

/-!
Polls that read append-only boards: the history of a task, the events of a task on its board,
and what the events in the hands of a poll have to do with the rows of the board.
-/

namespace HermesRealtime.Handling

open Values Text Protocol TaskEvents TaskRuns TaskLanes Cursors

/-! ### The history of a task -/

def accepted (h : List TaskObservation) : List TaskEventMessage :=
  h.filterMap fun
    | .accepted m => some m
    | _ => none

def handed (h : List TaskObservation) : List TaskEventMessage :=
  h.filterMap fun
    | .handed m => some m
    | _ => none

def notified (h : List TaskObservation) : List ℤ :=
  h.filterMap fun
    | .notified id _ => some id
    | _ => none

/-- A poll found the block current when it came to it. -/
def sawCurrent (h : List TaskObservation) (id : ℤ) : Bool :=
  h.any fun
    | .blockSeen id' isCurrent => id' = id && isCurrent
    | _ => false

@[simp] lemma accepted_append (h h' : List TaskObservation) :
    accepted (h ++ h') = accepted h ++ accepted h' := List.filterMap_append ..

@[simp] lemma handed_append (h h' : List TaskObservation) :
    handed (h ++ h') = handed h ++ handed h' := List.filterMap_append ..

@[simp] lemma notified_append (h h' : List TaskObservation) :
    notified (h ++ h') = notified h ++ notified h' := List.filterMap_append ..

@[simp] lemma sawCurrent_append (h h' : List TaskObservation) (id : ℤ) :
    sawCurrent (h ++ h') id = (sawCurrent h id || sawCurrent h' id) := List.any_append ..

/-! ### The events of a task on its board -/

def rows (board : Board) (t : String) : List BoardEvent :=
  board.events.filter fun event => event.taskId = t

lemma rows_sorted (board : Board) (t : String) : Sorted BoardEvent.id (rows board t) :=
  board.ordered.filter _

lemma after_eq (board : Board) (t : String) (c : ℤ) :
    board.after t c = beyond BoardEvent.id (rows board t) c := by
  simp only [Board.after, beyond, rows, List.filter_filter]
  exact List.filter_congr fun event _ => by simp [Bool.and_comm]

def rowKind (row : BoardEvent) : Option TaskEventKind := TaskEventKind.ofValue? row.kind

/-- The board is only written at its end. -/
def Extends (b b' : Board) : Prop := b.events <+: b'.events

/-- The cursor does not lie beyond the board. -/
def Reached (b : Board) (c : ℤ) : Prop := c ≤ 0 ∨ ∃ row ∈ b.events, c ≤ row.id

/-- What is written after a cursor that the board has reached lies beyond it. -/
lemma Extends.rows {b b' : Board} (h : Extends b b') (t : String) :
    ∃ new, rows b' t = rows b t ++ new ∧ ∀ c, Reached b c → ∀ row ∈ new, c < row.id := by
  obtain ⟨new, hnew⟩ := h
  refine ⟨new.filter fun event => event.taskId = t, by simp [Handling.rows, ← hnew], ?_⟩
  intro c hc row hrow
  have hmem : row ∈ new := (List.mem_filter.mp hrow).1
  have hb' : row ∈ b'.events := hnew ▸ List.mem_append_right _ hmem
  rcases hc with hc | ⟨old, hold, hc⟩
  · have := b'.positive row hb'
    omega
  · have hordered := b'.ordered
    rw [← hnew] at hordered
    have := (List.pairwise_append.mp hordered).2.2 old hold row hmem
    omega

lemma Extends.upTo {b b' : Board} (h : Extends b b') {c : ℤ} (hc : Reached b c) (t : String) :
    upTo BoardEvent.id (Handling.rows b' t) c = upTo BoardEvent.id (Handling.rows b t) c := by
  obtain ⟨new, heq, hnew⟩ := h.rows t
  rw [heq, upTo_of_append (hnew c hc)]

lemma Extends.beyond {b b' : Board} (h : Extends b b') {c : ℤ} (hc : Reached b c) (t : String) :
    ∃ new, beyond BoardEvent.id (Handling.rows b' t) c =
      beyond BoardEvent.id (Handling.rows b t) c ++ new := by
  obtain ⟨new, heq, hnew⟩ := h.rows t
  exact ⟨new, by rw [heq, beyond_of_append (hnew c hc)]⟩

lemma Reached.mono {b : Board} {c d : ℤ} (h : Reached b c) (hd : d ≤ c) : Reached b d := by
  rcases h with h | ⟨row, hrow, h⟩
  · exact .inl (by omega)
  · exact .inr ⟨row, hrow, by omega⟩

lemma Extends.reached {b b' : Board} (h : Extends b b') {c : ℤ} (hc : Reached b c) :
    Reached b' c := by
  rcases hc with hc | ⟨row, hrow, hc⟩
  · exact .inl hc
  · exact .inr ⟨row, h.subset hrow, hc⟩

/-! ### What a poll holds against its board -/

def rowKey (row : BoardEvent) : ℤ × String := (row.id, row.kind)

def eventKey (event : KanbanTaskEvent) : ℤ × String := (event.eventId, event.kind)

/-- The events read are the next ones on the board. -/
def Upcoming (b : Board) (t : String) (c : ℤ) (rest : List KanbanTaskEvent) : Prop :=
  ∃ more, (beyond BoardEvent.id (rows b t) c).map rowKey = rest.map eventKey ++ more

/-- The event is the last one up to the cursor. -/
def AtRow (b : Board) (t : String) (c : ℤ) (event : KanbanTaskEvent)
    (rest : List KanbanTaskEvent) : Prop :=
  (∃ row, upTo BoardEvent.id (rows b t) c = upTo BoardEvent.id (rows b t) (c - 1) ++ [row] ∧
    rowKey row = eventKey event) ∧ Upcoming b t c rest

def BoardOk (b : Board) (t : String) (c : ℤ) : PollPoint → Prop
  | .looping rest => Upcoming b t c rest
  | .checking event rest => AtRow b t c event rest
  | .checked event _ rest => AtRow b t c event rest
  | .notifying event _ _ rest => AtRow b t c event rest
  | .locking event rest => AtRow b t c event rest
  | .reading => True
  | .flushing => True
  | .publishing _ => True

lemma Extends.upcoming {b b' : Board} (h : Extends b b') {t : String} {c : ℤ}
    {rest : List KanbanTaskEvent} (hc : Reached b c) (hrest : Upcoming b t c rest) :
    Upcoming b' t c rest := by
  obtain ⟨more, hmore⟩ := hrest
  obtain ⟨new, hnew⟩ := h.beyond hc t
  exact ⟨more ++ new.map rowKey, by rw [hnew, List.map_append, hmore, List.append_assoc]⟩

lemma Extends.atRow {b b' : Board} (h : Extends b b') {t : String} {c : ℤ}
    {event : KanbanTaskEvent} {rest : List KanbanTaskEvent} (hc : Reached b c)
    (hrow : AtRow b t c event rest) : AtRow b' t c event rest := by
  obtain ⟨⟨row, hup, hkey⟩, hrest⟩ := hrow
  exact ⟨⟨row, by rw [h.upTo hc, h.upTo (hc.mono (by omega)), hup], hkey⟩, h.upcoming hc hrest⟩

lemma Extends.boardOk {b b' : Board} (h : Extends b b') {t : String} {c : ℤ} {point : PollPoint}
    (hc : Reached b c) (hpoint : BoardOk b t c point) : BoardOk b' t c point := by
  cases point with
  | looping rest => exact h.upcoming hc hpoint
  | checking event rest => exact h.atRow hc hpoint
  | checked event isCurrent rest => exact h.atRow hc hpoint
  | notifying event kind detail rest => exact h.atRow hc hpoint
  | locking event rest => exact h.atRow hc hpoint
  | reading | flushing | publishing => trivial

lemma readEvents_upcoming {P : Platform} {b : Board} {t : String} {c : ℤ}
    {events : List KanbanTaskEvent} (h : b.readEvents P t c = .ok events) :
    Upcoming b t c events := by
  obtain rfl | ⟨task, hrows⟩ := readEvents_rows h
  · exact ⟨_, rfl⟩
  · refine ⟨[], ?_⟩
    rw [List.append_nil, ← after_eq]
    refine (Checks.mapM_keeps (fun row event hrow => ?_) hrows).symm
    obtain ⟨hid, -, hkind⟩ := joined_row hrow
    rw [eventKey, rowKey, hid, hkind]

/-- Taking the next event moves the cursor to its row. -/
lemma Upcoming.next {b : Board} {t : String} {c : ℤ} {event : KanbanTaskEvent}
    {rest : List KanbanTaskEvent} (h : Upcoming b t c (event :: rest)) :
    (∃ row, rowKey row = eventKey event ∧ row ∈ b.events ∧
      upTo BoardEvent.id (rows b t) event.eventId = upTo BoardEvent.id (rows b t) c ++ [row]) ∧
      upTo BoardEvent.id (rows b t) (event.eventId - 1) = upTo BoardEvent.id (rows b t) c ∧
      Upcoming b t event.eventId rest := by
  obtain ⟨more, hmore⟩ := h
  rcases hnext : Cursors.beyond BoardEvent.id (rows b t) c with _ | ⟨row, later⟩
  · simp [hnext] at hmore
  rw [hnext, List.map_cons, List.map_cons, List.cons_append, List.cons.injEq] at hmore
  obtain ⟨hkey, hlater⟩ := hmore
  have hid : row.id = event.eventId := congrArg Prod.fst hkey
  obtain ⟨hup, hbefore, hbeyond⟩ := Cursors.move (rows_sorted b t) hnext
  rw [hid] at hup hbefore hbeyond
  have hmem : row ∈ rows b t := (mem_beyond.mp (hnext ▸ List.mem_cons_self)).1
  exact ⟨⟨row, hkey, (List.mem_filter.mp hmem).1, hup⟩, hbefore, more, by rw [hbeyond, hlater]⟩

lemma Upcoming.atRow {b : Board} {t : String} {c : ℤ} {event : KanbanTaskEvent}
    {rest : List KanbanTaskEvent} (h : Upcoming b t c (event :: rest)) :
    AtRow b t event.eventId event rest := by
  obtain ⟨⟨row, hkey, -, hup⟩, hbefore, hrest⟩ := h.next
  exact ⟨⟨row, by rw [hup, hbefore], hkey⟩, hrest⟩

lemma PollChange.boardOk {P : Platform} {view : PollView} {k : TrackedTask} {point : PollPoint}
    {action : PollAction} {e : PollEffect} (h : PollChange P view k point action e)
    (hreached : Reached view.board k.cursor)
    (hpoint : BoardOk view.board k.taskId k.cursor point) :
    ∀ k', e.tracked = some k' → Reached view.board k'.cursor ∧
      ∀ point', e.point = some point' → BoardOk view.board k.taskId k'.cursor point' := by
  intro k' hk
  -- the event taken from the list is a row of the board
  have hreach : ∀ {event rest}, Upcoming view.board k.taskId k.cursor (event :: rest) →
      Reached view.board event.eventId := by
    intro event rest hup
    obtain ⟨⟨row, hkey, hmem, -⟩, -⟩ := hup.next
    exact .inr ⟨row, hmem, le_of_eq (congrArg Prod.fst hkey).symm⟩
  cases h with
  | readIn events hread =>
    cases hk
    exact ⟨hreached, fun _ hp => by cases hp; exact readEvents_upcoming hread⟩
  | skipped event rest hkind =>
    cases hk
    exact ⟨hreach hpoint, fun _ hp => by cases hp; exact (Upcoming.next hpoint).2.2⟩
  | toCheck event rest hkind =>
    cases hk
    exact ⟨hreach hpoint, fun _ hp => by cases hp; exact Upcoming.atRow hpoint⟩
  | toNotify event rest kind detail hkind =>
    cases hk
    exact ⟨hreach hpoint, fun _ hp => by cases hp; exact Upcoming.atRow hpoint⟩
  | detailRaised event rest kind error hkind =>
    cases hk
    exact ⟨hreach hpoint, fun _ hp => by cases hp⟩
  | seen | current | asked =>
    cases hk
    exact ⟨hreached, fun _ hp => by cases hp; exact hpoint⟩
  | stale | shown | spoken | locked =>
    cases hk
    exact ⟨hreached, fun _ hp => by cases hp; exact hpoint.2⟩
  | drained | handing | acceptedNext =>
    cases hk
    exact ⟨hreached, fun _ hp => by cases hp; trivial⟩
  | readRaised | parseRaised | checkRaised | currentRaised | notifyRaised | buildRaised
  | publishRaised =>
    cases hk
    exact ⟨hreached, fun _ hp => by cases hp⟩
  | dropped | flushed | acceptedLast | refused =>
    simp only [finish] at hk
    split_ifs at hk
    cases hk
    exact ⟨hreached, fun _ hp => by cases hp⟩

/-- Every poll under way is in step with its board. -/
def InStep (w : TaskWorld) : Prop :=
  ∀ t k, w.coordinator.tracked t = some k → Reached (w.boards k.dbPath) k.cursor ∧
    ∀ point, w.polls t = some point → BoardOk (w.boards k.dbPath) t k.cursor point

/-- Boards are only written at their end. -/
def AppendOnly (w : TaskWorld) : Action → Prop
  | .write path board => Extends (w.boards path) board
  | _ => True

instance (b b' : Board) : Decidable (Extends b b') :=
  inferInstanceAs (Decidable (b.events <+: b'.events))

instance (w : TaskWorld) (a : Action) : Decidable (AppendOnly w a) :=
  match a with
  | .write path board => inferInstanceAs (Decidable (Extends (w.boards path) board))
  | .openSession _ | .endSession _ | .register _ _ _ _ _ | .pollStart _ | .poll _ _
  | .callStart _ _ | .call _ _ => isTrue trivial

lemma Change.extends {P : Platform} {w w' : TaskWorld} {a : Action} (h : Change P w a w')
    (ha : AppendOnly w a) (path : String) : Extends (w.boards path) (w'.boards path) := by
  cases h with
  | wrote path' board =>
    by_cases hp : path = path'
    · subst hp
      have hext : Extends (w.boards path) board := ha
      simpa using hext
    · simp [Function.update_of_ne hp, Extends]
  | opened | ended | unregistered | registered | started | polled | refusedArgs | calling
  | called =>
    exact List.prefix_refl _

lemma InStep.step {P : Platform} {w w' : TaskWorld} {a : Action} (hw : InStep w) (ht : Tables w)
    (h : Change P w a w') (ha : AppendOnly w a) : InStep w' := by
  intro t k hk
  have hext := Change.extends h ha k.dbPath
  have hl := h.lane t
  generalize hl' : lane w' t = l at hl
  have hk' : l.tracked = some k := hl' ▸ hk
  have hp' : w'.polls t = l.point := hl' ▸ rfl
  rw [hp']
  cases hl with
  | same =>
    obtain ⟨hreached, hpoint⟩ := hw t k hk'
    exact ⟨hext.reached hreached, fun point hp => hext.boardOk hreached (hpoint point hp)⟩
  | registered s title slug path hactive hfree hnew =>
    cases hk'
    refine ⟨.inl (le_refl _), fun point hp => ?_⟩
    rw [show w.polls t = none from ht.polled t hfree] at hp
    cases hp
  | started k₀ hk₀ hp₀ =>
    obtain rfl : k₀ = k := Option.some.inj hk'
    obtain ⟨hreached, -⟩ := hw t k₀ hk₀
    exact ⟨hext.reached hreached, fun point hp => by cases hp; trivial⟩
  | polled k₀ point₀ action e hk₀ hp₀ hs =>
    obtain ⟨rfl, -⟩ := ht.tracked t k₀ hk₀
    obtain ⟨-, -, hpath⟩ := hs.sameTask.1 k hk'
    obtain ⟨hreached, hpoint⟩ := hw _ k₀ hk₀
    obtain ⟨hreached', hpoint'⟩ := PollChange.boardOk hs hreached (hpoint point₀ hp₀) k hk'
    rw [TaskWorld.view, ← hpath] at hreached' hpoint'
    exact ⟨hext.reached hreached', fun point hp => hext.boardOk hreached' (hpoint' point hp)⟩

end HermesRealtime.Handling

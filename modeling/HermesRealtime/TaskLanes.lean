import HermesRealtime.TaskRuns
import Mathlib.Data.List.Pairwise

/-!
What one step can do to the task-event coordinator, said once, and the invariants that hold
of a tracked task whatever the boards do.
-/

namespace HermesRealtime.TaskLanes

open Values Text Protocol TaskEvents TaskRuns Runs

/-! ### What a poll's step does -/

section

variable (P : Platform) (view : PollView) (k : TrackedTask)

/-- The steps of a poll, one constructor for each way a step can end. -/
inductive PollChange : PollPoint → PollAction → PollEffect → Prop
  | readRaised : PollChange .reading (.read true) (raised k)
  | parseRaised (error) (hread : view.board.readEvents P k.taskId k.cursor = .error error) :
      PollChange .reading (.read false) (raised k)
  | readIn (events) (hread : view.board.readEvents P k.taskId k.cursor = .ok events) :
      PollChange .reading (.read false) (goOn k (.looping events) [])
  | drained : PollChange (.looping []) .next (goOn k .flushing [])
  | skipped (event rest) (hkind : TaskEventKind.ofValue? event.kind = none) :
      PollChange (.looping (event :: rest)) .next
        (goOn { k with cursor := event.eventId } (.looping rest) [])
  | toCheck (event rest) (hkind : TaskEventKind.ofValue? event.kind = some .blocked) :
      PollChange (.looping (event :: rest)) .next
        (goOn { k with cursor := event.eventId } (.checking event rest) [])
  | toNotify (event rest kind detail) (hkind : TaskEventKind.ofValue? event.kind = some kind)
      (hblocked : kind ≠ .blocked) (hdetail : eventDetail P kind event.payload = .ok detail) :
      PollChange (.looping (event :: rest)) .next
        (goOn { k with cursor := event.eventId } (.notifying event kind detail rest)
          [.notified event.eventId (desktopMessage P kind event.title detail)])
  | detailRaised (event rest kind error) (hkind : TaskEventKind.ofValue? event.kind = some kind)
      (hblocked : kind ≠ .blocked) (hdetail : eventDetail P kind event.payload = .error error) :
      PollChange (.looping (event :: rest)) .next (raised { k with cursor := event.eventId })
  | checkRaised (event rest) : PollChange (.checking event rest) (.check true) (raised k)
  | seen (event rest) : PollChange (.checking event rest) (.check false)
      (goOn k (.checked event (view.board.isCurrentBlock k.taskId event.eventId) rest)
        [.blockSeen event.eventId (view.board.isCurrentBlock k.taskId event.eventId)])
  | stale (event rest) : PollChange (.checked event false rest) .resume (goOn k (.looping rest) [])
  | current (event rest detail) (hdetail : eventDetail P .blocked event.payload = .ok detail) :
      PollChange (.checked event true rest) .resume
        (goOn k (.notifying event .blocked detail rest)
          [.notified event.eventId (desktopMessage P .blocked event.title detail)])
  | currentRaised (event rest error)
      (hdetail : eventDetail P .blocked event.payload = .error error) :
      PollChange (.checked event true rest) .resume (raised k)
  | notifyRaised (event kind detail rest) :
      PollChange (.notifying event kind detail rest) (.notify true) (raised k)
  | shown (event kind detail rest) (hvoice : isVoiceKind kind = false) :
      PollChange (.notifying event kind detail rest) (.notify false) (goOn k (.looping rest) [])
  | buildRaised (event kind detail rest error) (hvoice : isVoiceKind kind = true)
      (hmessage : voiceMessage P k event kind detail = .error error) :
      PollChange (.notifying event kind detail rest) (.notify false) (raised k)
  | spoken (event kind detail rest m) (hvoice : isVoiceKind kind = true)
      (hmessage : voiceMessage P k event kind detail = .ok m)
      (hinput : requiresUserInput kind event = false) :
      PollChange (.notifying event kind detail rest) (.notify false)
        (goOn { k with
          pendingVoice := k.pendingVoice ++ [m]
          terminalSeen := k.terminalSeen || kind = .completed } (.looping rest) [])
  | asked (event kind detail rest m) (hvoice : isVoiceKind kind = true)
      (hmessage : voiceMessage P k event kind detail = .ok m)
      (hinput : requiresUserInput kind event = true) :
      PollChange (.notifying event kind detail rest) (.notify false)
        (goOn { k with pendingVoice := k.pendingVoice ++ [m] } (.locking event rest) [])
  | locked (event rest) (hlock : view.lockFree = true) :
      PollChange (.locking event rest) .lock
        { tracked := some k, point := some (.looping rest), block := some event.eventId }
  | dropped (hactive : view.sessionIsActive = false) :
      PollChange .flushing .flush (finish { k with pendingVoice := [] } true [])
  | flushed (hactive : view.sessionIsActive = true) (hempty : k.pendingVoice = []) :
      PollChange .flushing .flush (finish k true [])
  | handing (m ms) (hactive : view.sessionIsActive = true) (hpending : k.pendingVoice = m :: ms) :
      PollChange .flushing .flush (goOn k (.publishing m) [.handed m])
  | acceptedLast (m) (hactive : view.sessionIsActive = true) (hrest : k.pendingVoice.tail = []) :
      PollChange (.publishing m) (.publish .accepts)
        (finish { k with pendingVoice := [] } true [.accepted m])
  | acceptedNext (m m' ms) (hactive : view.sessionIsActive = true)
      (hrest : k.pendingVoice.tail = m' :: ms) :
      PollChange (.publishing m) (.publish .accepts)
        (goOn { k with pendingVoice := m' :: ms } (.publishing m') [.accepted m, .handed m'])
  | refused (m) : PollChange (.publishing m) (.publish .refuses) (finish k false [.refused m])
  | publishRaised (m) : PollChange (.publishing m) (.publish .raises) (raised k)

variable {P view k}

/-- Every step of a poll is one of these. -/
lemma pollStep_change {point : PollPoint} {action : PollAction} {e : PollEffect}
    (h : pollStep P view k point action = some e) : PollChange P view k point action e := by
  cases point with
  | reading =>
    cases action <;> simp only [pollStep, reduceCtorEq, Option.some.injEq] at h
    next fails =>
      cases fails <;> subst h
      · simp only [Bool.false_eq_true, if_false]
        rcases hread : view.board.readEvents P k.taskId k.cursor with error | events
        · exact .parseRaised error hread
        · exact .readIn events hread
      · exact .readRaised
  | looping rest =>
    cases action <;> simp only [pollStep, reduceCtorEq, Option.some.injEq] at h
    cases rest with
    | nil => exact h ▸ .drained
    | cons event rest =>
      subst h
      simp only [nextEvent]
      rcases hkind : TaskEventKind.ofValue? event.kind with _ | kind
      · exact .skipped event rest hkind
      · by_cases hblocked : kind = .blocked
        · subst hblocked
          exact .toCheck event rest hkind
        · simp only [hblocked, if_false, beginHandling]
          rcases hdetail : eventDetail P kind event.payload with error | detail
          · exact .detailRaised event rest kind error hkind hblocked hdetail
          · exact .toNotify event rest kind detail hkind hblocked hdetail
  | checking event rest =>
    cases action <;> simp only [pollStep, reduceCtorEq, Option.some.injEq] at h
    next fails =>
      cases fails <;> subst h
      · exact .seen event rest
      · exact .checkRaised event rest
  | checked event isCurrent rest =>
    cases action <;> simp only [pollStep, reduceCtorEq, Option.some.injEq] at h
    cases isCurrent <;> subst h
    · exact .stale event rest
    · simp only [if_true, beginHandling]
      rcases hdetail : eventDetail P .blocked event.payload with error | detail
      · exact .currentRaised event rest error hdetail
      · exact .current event rest detail hdetail
  | notifying event kind detail rest =>
    cases action <;> simp only [pollStep, reduceCtorEq, Option.some.injEq] at h
    next fails =>
      cases fails <;> subst h
      · simp only [Bool.false_eq_true, if_false, endHandling]
        cases hvoice : isVoiceKind kind with
        | false => exact .shown event kind detail rest hvoice
        | true =>
          simp only [if_true]
          rcases hmessage : voiceMessage P k event kind detail with error | m
          · exact .buildRaised event kind detail rest error hvoice hmessage
          · cases hinput : requiresUserInput kind event with
            | false => exact .spoken event kind detail rest m hvoice hmessage hinput
            | true => exact .asked event kind detail rest m hvoice hmessage hinput
      · exact .notifyRaised event kind detail rest
  | locking event rest =>
    cases action <;> simp only [pollStep, reduceCtorEq, Option.ite_none_right_eq_some,
      Option.some.injEq] at h
    obtain ⟨hlock, rfl⟩ := h
    exact .locked event rest hlock
  | flushing =>
    cases action <;> simp only [pollStep, reduceCtorEq, Option.some.injEq] at h
    subst h
    simp only [flush]
    cases hactive : view.sessionIsActive with
    | false => exact .dropped hactive
    | true =>
      simp only [if_true, flushFrom]
      rcases hpending : k.pendingVoice with _ | ⟨m, ms⟩
      · exact .flushed hactive hpending
      · exact .handing m ms hactive hpending
  | publishing m =>
    cases action <;> simp only [pollStep, reduceCtorEq] at h
    next outcome =>
      cases outcome <;>
        simp only [published, Option.ite_none_right_eq_some, Option.some.injEq] at h
      · obtain ⟨hactive, rfl⟩ := h
        simp only [flushFrom]
        rcases hrest : k.pendingVoice.tail with _ | ⟨m', ms⟩
        · exact .acceptedLast m hactive hrest
        · exact .acceptedNext m m' ms hactive hrest
      · exact h ▸ .refused m
      · exact h ▸ .publishRaised m

end

/-! ### What a call's step does -/

section

variable (c : TaskEventCoordinator) (boards : String → Board) (sessionIsActive : String → Bool)
  (n : ℕ) (call : PermissionCall)

/-- The steps of a call, one constructor for each way a step can end. -/
inductive CallChange : CallPoint → CallAction → CallEffect → Prop
  | turnedAway (error) (hlock : c.lock = none)
      (howner : checkOwner c sessionIsActive call.args = .error error) :
      CallChange .waiting .acquire ⟨c, none, [.returned n (.error error)]⟩
  | entered (tracked) (hlock : c.lock = none)
      (howner : checkOwner c sessionIsActive call.args = .ok tracked) :
      CallChange .waiting .acquire ⟨{ c with lock := some n },
        some { call with point := .checking tracked }, [.entered n tracked]⟩
  | checkRaised (tracked) : CallChange (.checking tracked) (.check true)
      (callRaised c n (.otherError "is_current_block"))
  | seen (tracked isCurrent)
      (hread : isCurrent =
        (boards tracked.dbPath).isCurrentBlock call.args.taskId call.args.blockEventId) :
      CallChange (.checking tracked) (.check false)
        ⟨c, some { call with point := .checked tracked isCurrent },
          [.blockSeen n tracked.dbPath call.args.taskId call.args.blockEventId isCurrent]⟩
  | stale (tracked) : CallChange (.checked tracked false) .resume
      (callRaised (c.dropPending (pendingKey call.args) call.args.blockEventId) n
        (.valueError "permission request is no longer pending"))
  | sessionOver (tracked) (hactive : sessionIsActive call.args.sessionId = false) :
      CallChange (.checked tracked true) .resume
        (callRaised c n (.valueError "originating voice session is no longer live"))
  | invoked (tracked) (hactive : sessionIsActive call.args.sessionId = true) :
      CallChange (.checked tracked true) .resume
        ⟨c, some { call with point := .resolving }, [.invoked n call.args.sessionId
          ⟨tracked.boardSlug, call.args.taskId, call.args.blockEventId, call.args.decision,
            call.normalizedResponse⟩]⟩
  | succeeded : CallChange .resolving (.resolve true)
      ⟨{ c.dropPending (pendingKey call.args) call.args.blockEventId with lock := none }, none,
        [.succeeded call.args.taskId call.args.blockEventId, .left n,
          .returned n (.ok (permissionResult call.args))]⟩
  | failed : CallChange .resolving (.resolve false)
      (callRaised c n (.runtimeError "unblock failed"))

variable {c boards sessionIsActive n call}

/-- Every step of a call is one of these. -/
lemma callStep_change {point : CallPoint} {action : CallAction} {e : CallEffect}
    (h : callStep c boards sessionIsActive n call point action = some e) :
    CallChange c boards sessionIsActive n call point action e := by
  cases point with
  | waiting =>
    cases action <;> simp only [callStep, reduceCtorEq] at h
    rcases hlock : c.lock with _ | holder
    · rcases howner : checkOwner c sessionIsActive call.args with error | tracked
      · simp only [hlock, howner, Option.isSome_none, Bool.false_eq_true, if_false,
          Option.some.injEq] at h
        exact h ▸ .turnedAway error hlock howner
      · simp only [hlock, howner, Option.isSome_none, Bool.false_eq_true, if_false,
          Option.some.injEq] at h
        exact h ▸ .entered tracked hlock howner
    · simp [hlock] at h
  | checking tracked =>
    cases action <;> simp only [callStep, reduceCtorEq, Option.some.injEq] at h
    next fails =>
      cases fails <;> subst h
      · exact .seen tracked _ rfl
      · exact .checkRaised tracked
  | checked tracked stillBlocked =>
    cases action <;> simp only [callStep, reduceCtorEq] at h
    cases stillBlocked with
    | false =>
      obtain rfl := by simpa using h
      exact .stale tracked
    | true =>
      cases hactive : sessionIsActive call.args.sessionId with
      | false =>
        simp only [hactive, not_true_eq_false, if_false, Bool.false_eq_true, not_false_eq_true,
          if_true, Option.some.injEq] at h
        exact h ▸ .sessionOver tracked hactive
      | true =>
        simp only [hactive, not_true_eq_false, if_false, Option.some.injEq] at h
        exact h ▸ .invoked tracked hactive
  | resolving =>
    cases action <;> simp only [callStep, reduceCtorEq, Option.some.injEq] at h
    next succeeds =>
      cases succeeds <;> subst h
      · exact .failed
      · exact .succeeded

end

/-! ### What a step of the world does -/

/-- The steps of the world, one constructor for each way a step can end. -/
inductive Change (P : Platform) (w : TaskWorld) : Action → TaskWorld → Prop
  | opened (s) (h : w.sessions s = .unopened) :
      Change P w (.openSession s) { w with sessions := Function.update w.sessions s .live }
  | ended (s) (h : w.sessions s = .live) :
      Change P w (.endSession s) { w with sessions := Function.update w.sessions s .ended }
  | wrote (path board) :
      Change P w (.write path board) { w with boards := Function.update w.boards path board }
  | unregistered (s t title slug path) : Change P w (.register s t title slug path) w
  | registered (s t title slug path) (hactive : w.sessions s = .live)
      (hfree : w.coordinator.tracked t = none) (hnew : w.registered t = none) :
      Change P w (.register s t title slug path) { w with
        coordinator := { w.coordinator with
          tracked :=
            Function.update w.coordinator.tracked t (some (newTask P s t title slug path)) }
        registered := Function.update w.registered t (some ⟨s, path⟩) }
  | started (t k) (hk : w.coordinator.tracked t = some k) (hp : w.polls t = none) :
      Change P w (.pollStart t) { w with polls := Function.update w.polls t (some .reading) }
  | polled (t k point action e) (hk : w.coordinator.tracked t = some k)
      (hp : w.polls t = some point) (hs : PollChange P (w.view k) k point action e) :
      Change P w (.poll t action) (w.afterPoll t k e)
  | refusedArgs (n args error) :
      Change P w (.callStart n args)
        { w with callHistory := w.callHistory ++ [.returned n (.error error)] }
  | calling (n args normalizedResponse) (hn : w.calls n = none)
      (hargs : checkArgs P args = .ok normalizedResponse) :
      Change P w (.callStart n args) { w with
        calls := Function.update w.calls n (some { args, normalizedResponse, point := .waiting }) }
  | called (n call action e) (hc : w.calls n = some call)
      (hs : CallChange w.coordinator w.boards w.sessionIsActive n call call.point action e) :
      Change P w (.call n action) (w.afterCall n e)

/-- Every step of the world is one of these. -/
theorem step_change {P : Platform} {w w' : TaskWorld} {a : Action} (h : w.step P a = some w') :
    Change P w a w' := by
  cases a with
  | openSession s =>
    simp only [TaskWorld.step, Option.ite_none_right_eq_some, Option.some.injEq] at h
    exact h.2 ▸ .opened s h.1
  | endSession s =>
    simp only [TaskWorld.step, Option.ite_none_right_eq_some, Option.some.injEq] at h
    exact h.2 ▸ .ended s h.1
  | write path board =>
    obtain rfl := by simpa [TaskWorld.step] using h
    exact .wrote path board
  | register s t title slug path =>
    simp only [TaskWorld.step] at h
    split_ifs at h with hactive htracked hregistered
    · exact Option.some.inj h ▸ .unregistered s t title slug path
    · exact Option.some.inj h ▸ .unregistered s t title slug path
    · have hfree : w.coordinator.tracked t = none := by simpa using htracked
      have hlive : w.sessions s = .live := by
        simp only [not_or, not_not] at hactive
        simpa [TaskWorld.sessionIsActive] using hactive.1
      have hc : (w.coordinator.registerTask (newTask P s t title slug path)).1 =
          { w.coordinator with
            tracked := Function.update w.coordinator.tracked t
              (some (newTask P s t title slug path)) } := by
        simp [TaskEventCoordinator.registerTask, newTask, hfree]
      rw [hc] at h
      exact Option.some.inj h ▸ .registered s t title slug path hlive hfree
        (by simpa using hregistered)
  | pollStart t =>
    simp only [TaskWorld.step, Option.ite_none_right_eq_some, Option.some.injEq] at h
    obtain ⟨⟨hk, hp⟩, rfl⟩ := h
    obtain ⟨k, hk⟩ := Option.isSome_iff_exists.mp hk
    exact .started t k hk (by simpa using hp)
  | poll t action =>
    simp only [TaskWorld.step] at h
    rcases hk : w.coordinator.tracked t with _ | k
    · simp [hk] at h
    rcases hp : w.polls t with _ | point
    · simp [hk, hp] at h
    simp only [hk, hp, Option.map_eq_some_iff] at h
    obtain ⟨e, he, rfl⟩ := h
    exact .polled t k point action e hk hp (pollStep_change he)
  | callStart n args =>
    simp only [TaskWorld.step] at h
    split_ifs at h with hn
    rcases hargs : checkArgs P args with error | normalizedResponse
    · rw [hargs] at h
      exact Option.some.inj h ▸ .refusedArgs n args error
    · rw [hargs] at h
      exact Option.some.inj h ▸ .calling n args normalizedResponse (by simpa using hn) hargs
  | call n action =>
    simp only [TaskWorld.step] at h
    rcases hc : w.calls n with _ | call
    · simp [hc] at h
    simp only [hc, Option.map_eq_some_iff] at h
    obtain ⟨e, he, rfl⟩ := h
    exact .called n call action e hc (callStep_change he)

/-! ### One task at a time -/

/-- What the polls of one task work on. -/
structure Lane where
  tracked : Option TrackedTask
  point : Option PollPoint
  history : List TaskObservation

def lane (w : TaskWorld) (t : String) : Lane := ⟨w.coordinator.tracked t, w.polls t, w.history t⟩

/-- What a step of the world does to the lane of the task `t`. -/
inductive LaneChange (P : Platform) (w : TaskWorld) (t : String) : Action → Lane → Prop
  | same (a) : LaneChange P w t a (lane w t)
  | registered (s title slug path) (hactive : w.sessions s = .live)
      (hfree : w.coordinator.tracked t = none) (hnew : w.registered t = none) :
      LaneChange P w t (.register s t title slug path)
        ⟨some (newTask P s t title slug path), w.polls t, w.history t⟩
  | started (k) (hk : w.coordinator.tracked t = some k) (hp : w.polls t = none) :
      LaneChange P w t (.pollStart t) ⟨some k, some .reading, w.history t⟩
  | polled (k point action e) (hk : w.coordinator.tracked t = some k)
      (hp : w.polls t = some point) (hs : PollChange P (w.view k) k point action e) :
      LaneChange P w t (.poll t action) ⟨e.tracked, e.point, w.history t ++ e.log⟩

lemma CallChange.tracked {c : TaskEventCoordinator} {boards : String → Board}
    {sessionIsActive : String → Bool} {n : ℕ} {call : PermissionCall} {point : CallPoint}
    {action : CallAction} {e : CallEffect}
    (h : CallChange c boards sessionIsActive n call point action e) :
    e.coordinator.tracked = c.tracked := by
  cases h <;> simp [callRaised]

lemma Change.lane {P : Platform} {w w' : TaskWorld} {a : Action} (h : Change P w a w')
    (t : String) : LaneChange P w t a (lane w' t) := by
  cases h with
  | opened s h => exact .same _
  | ended s h => exact .same _
  | wrote path board => exact .same _
  | unregistered s t' title slug path => exact .same _
  | registered s t' title slug path hactive hfree hnew =>
    by_cases ht : t = t'
    · subst ht
      simpa [TaskLanes.lane] using LaneChange.registered s title slug path hactive hfree hnew
    · simpa [TaskLanes.lane, Function.update_of_ne ht] using LaneChange.same (P := P) (w := w) _
  | started t' k hk hp =>
    by_cases ht : t = t'
    · subst ht
      simpa [TaskLanes.lane, hk] using LaneChange.started k hk hp
    · simpa [TaskLanes.lane, Function.update_of_ne ht] using LaneChange.same (P := P) (w := w) _
  | polled t' k point action e hk hp hs =>
    by_cases ht : t = t'
    · subst ht
      simpa [TaskLanes.lane, TaskWorld.afterPoll] using LaneChange.polled k point action e hk hp hs
    · simpa [TaskLanes.lane, TaskWorld.afterPoll, Function.update_of_ne ht] using
        LaneChange.same (P := P) (w := w) _
  | refusedArgs n args error => exact .same _
  | calling n args normalizedResponse hn hargs => exact .same _
  | called n call action e hc hs =>
    simpa [TaskLanes.lane, TaskWorld.afterCall, hs.tracked] using
      LaneChange.same (P := P) (w := w) (t := t) (.call n action)

/-! ### The tables agree -/

/-- A tracked task is the one that was registered under its id, and only tracked tasks are
polled. -/
structure Tables (w : TaskWorld) : Prop where
  tracked : ∀ t k, w.coordinator.tracked t = some k →
    k.taskId = t ∧ w.registered t = some ⟨k.sessionId, k.dbPath⟩
  polled : ∀ t, w.coordinator.tracked t = none → w.polls t = none
  opened : ∀ t r, w.registered t = some r → w.sessions r.sessionId ≠ .unopened
  fresh : ∀ t, w.registered t = none → w.history t = []

/-- A poll keeps the identity of its task, and ends when it takes the task out of the
table. -/
lemma PollChange.sameTask {P : Platform} {view : PollView} {k : TrackedTask} {point : PollPoint}
    {action : PollAction} {e : PollEffect} (h : PollChange P view k point action e) :
    (∀ k', e.tracked = some k' →
      k'.taskId = k.taskId ∧ k'.sessionId = k.sessionId ∧ k'.dbPath = k.dbPath) ∧
      (e.tracked = none → e.point = none) := by
  cases h <;> simp only [goOn, raised, finish] <;> try split_ifs
  all_goals simp

lemma Change.registered_mono {P : Platform} {w w' : TaskWorld} {a : Action} (h : Change P w a w')
    {t : String} {r : Registration} (hr : w.registered t = some r) : w'.registered t = some r := by
  cases h <;> try exact hr
  next s t' title slug path hactive hfree hnew =>
    have ht : t ≠ t' := by
      rintro rfl
      simp [hnew] at hr
    simpa [Function.update_of_ne ht] using hr

/-- A session that has been opened stays so. -/
lemma Change.sessions_mono {P : Platform} {w w' : TaskWorld} {a : Action} (h : Change P w a w')
    {s : String} (hs : w.sessions s ≠ .unopened) :
    w'.sessions s ≠ .unopened ∧ (w'.sessions s = .live → w.sessions s = .live) := by
  cases h <;> try exact ⟨hs, id⟩
  next s' hs' =>
    have hne : s ≠ s' := by
      rintro rfl
      exact hs hs'
    simpa [Function.update_of_ne hne] using hs
  next s' hs' =>
    by_cases hne : s = s'
    · subst hne
      simp
    · simpa [Function.update_of_ne hne] using hs

/-- The world before anything has happened. -/
def start (boards : String → Board) : TaskWorld := { boards }

lemma tables_start (boards : String → Board) : Tables (start boards) where
  tracked := by simp [start]
  polled := by simp [start]
  opened := by simp [start]
  fresh := by simp [start]

lemma Tables.step {P : Platform} {w w' : TaskWorld} {a : Action} (hw : Tables w)
    (h : Change P w a w') : Tables w' := by
  have hlane := fun t => h.lane t
  refine ⟨fun t k hk => ?_, fun t hk => ?_, fun t r hr => ?_, fun t hr => ?_⟩
  · have hl := hlane t
    generalize hl' : lane w' t = l at hl
    have hk' : l.tracked = some k := hl' ▸ hk
    cases hl with
    | same =>
      obtain ⟨ht, hr⟩ := hw.tracked t k hk'
      exact ⟨ht, h.registered_mono hr⟩
    | registered s title slug path hactive hfree hnew =>
      cases h with
      | unregistered => simp [lane, hk] at hl'; simp [hfree] at hk
      | registered =>
        obtain rfl := Option.some.inj hk'
        exact ⟨rfl, by simp [newTask]⟩
    | started k₀ hk₀ hp =>
      obtain ⟨ht, hr⟩ := hw.tracked t k (hk₀.trans hk')
      exact ⟨ht, h.registered_mono hr⟩
    | polled k₀ point action e hk₀ hp hs =>
      obtain ⟨ht, hr⟩ := hw.tracked t k₀ hk₀
      obtain ⟨hid, hsession, hpath⟩ := hs.sameTask.1 k hk'
      exact ⟨hid.trans ht, by rw [hsession, hpath]; exact h.registered_mono hr⟩
  · have hl := hlane t
    generalize hl' : lane w' t = l at hl
    have hk' : l.tracked = none := hl' ▸ hk
    have hgoal : w'.polls t = l.point := hl' ▸ rfl
    rw [hgoal]
    cases hl with
    | same => exact hw.polled t hk'
    | registered => simp at hk'
    | started => simp at hk'
    | polled k₀ point action e hk₀ hp hs => exact hs.sameTask.2 hk'
  · cases h with
    | registered s t' title slug path hactive hfree hnew =>
      by_cases ht : t = t'
      · subst ht
        obtain rfl : r = ⟨s, path⟩ := by simpa using hr.symm
        simp [hactive]
      · exact hw.opened t r (by simpa [Function.update_of_ne ht] using hr)
    | opened s hs => exact ((Change.opened (P := P) s hs).sessions_mono (hw.opened t r hr)).1
    | ended s hs => exact ((Change.ended (P := P) s hs).sessions_mono (hw.opened t r hr)).1
    | wrote | unregistered | started | polled | refusedArgs | calling | called =>
      exact hw.opened t r hr
  · have hr₀ : w.registered t = none := by
      by_contra hne
      obtain ⟨r, hr'⟩ := Option.ne_none_iff_exists'.mp hne
      simp [h.registered_mono hr'] at hr
    have hl := hlane t
    generalize hl' : lane w' t = l at hl
    have hgoal : w'.history t = l.history := hl' ▸ rfl
    rw [hgoal]
    cases hl with
    | same => exact hw.fresh t hr₀
    | registered => exact hw.fresh t hr₀
    | started => exact hw.fresh t hr₀
    | polled k₀ point action e hk₀ hp hs =>
      simp [(hw.tracked t k₀ hk₀).2] at hr₀

/-! ### The events still to come -/

/-- Events of the task after the cursor, in order. -/
def Ahead (t : String) (cursor : ℤ) (rest : List KanbanTaskEvent) : Prop :=
  (∀ event ∈ rest, cursor < event.eventId ∧ event.taskId = t) ∧
    rest.Pairwise fun a b => a.eventId < b.eventId

lemma Ahead.tail {t : String} {cursor : ℤ} {event : KanbanTaskEvent}
    {rest : List KanbanTaskEvent} (h : Ahead t cursor (event :: rest)) :
    cursor < event.eventId ∧ event.taskId = t ∧ Ahead t event.eventId rest := by
  obtain ⟨hall, hsorted⟩ := h
  obtain ⟨hlt, hsorted⟩ := List.pairwise_cons.mp hsorted
  obtain ⟨hcursor, htask⟩ := hall event (by simp)
  exact ⟨hcursor, htask, fun e he => ⟨hlt e he, (hall e (by simp [he])).2⟩, hsorted⟩

/-- An event in the hands of a poll is the one at the cursor. -/
def AtCursor (t : String) (k : TrackedTask) (event : KanbanTaskEvent)
    (rest : List KanbanTaskEvent) : Prop :=
  event.eventId = k.cursor ∧ event.taskId = t ∧ Ahead t k.cursor rest

/-- What a poll knows at each point. -/
def PointOk (t : String) (k : TrackedTask) : PollPoint → Prop
  | .reading => True
  | .looping rest => Ahead t k.cursor rest
  | .checking event rest =>
    AtCursor t k event rest ∧ TaskEventKind.ofValue? event.kind = some .blocked
  | .checked event _ rest =>
    AtCursor t k event rest ∧ TaskEventKind.ofValue? event.kind = some .blocked
  | .notifying event kind _ rest =>
    AtCursor t k event rest ∧ TaskEventKind.ofValue? event.kind = some kind
  | .locking event rest => AtCursor t k event rest
  | .flushing => True
  | .publishing m => k.pendingVoice.head? = some m

lemma AtCursor.of_ahead {t : String} {k : TrackedTask} {event : KanbanTaskEvent}
    {rest : List KanbanTaskEvent} (h : Ahead t k.cursor (event :: rest)) :
    AtCursor t { k with cursor := event.eventId } event rest :=
  ⟨rfl, h.tail.2.1, h.tail.2.2⟩

lemma PollChange.pointOk {P : Platform} {view : PollView} {k : TrackedTask} {point : PollPoint}
    {action : PollAction} {e : PollEffect} (h : PollChange P view k point action e)
    (hpoint : PointOk k.taskId k point) :
    ∀ k' point', e.tracked = some k' → e.point = some point' → PointOk k.taskId k' point' := by
  intro k' point' hk hp
  cases h with
  | readIn events hread =>
    cases hk; cases hp
    exact readEvents_spec hread
  | skipped event rest hkind => cases hk; cases hp; exact (AtCursor.of_ahead hpoint).2.2
  | toCheck event rest hkind => cases hk; cases hp; exact ⟨.of_ahead hpoint, hkind⟩
  | toNotify event rest kind detail hkind => cases hk; cases hp; exact ⟨.of_ahead hpoint, hkind⟩
  | drained => cases hk; cases hp; trivial
  | seen event rest => cases hk; cases hp; exact hpoint
  | stale event rest => cases hk; cases hp; exact hpoint.1.2.2
  | current event rest detail => cases hk; cases hp; exact hpoint
  | shown event kind detail rest => cases hk; cases hp; exact hpoint.1.2.2
  | spoken event kind detail rest m => cases hk; cases hp; exact hpoint.1.2.2
  | asked event kind detail rest m => cases hk; cases hp; exact hpoint.1
  | locked event rest => cases hk; cases hp; exact hpoint.2.2
  | handing m ms hactive hpending => cases hk; cases hp; simp [PointOk, hpending]
  | acceptedNext m m' ms => cases hk; cases hp; simp [PointOk]
  | readRaised | parseRaised | detailRaised | checkRaised | currentRaised | notifyRaised
  | buildRaised | dropped | flushed | acceptedLast | refused | publishRaised => cases hp

/-- Every poll under way knows what `PointOk` says. -/
def Points (w : TaskWorld) : Prop :=
  ∀ t k point, w.coordinator.tracked t = some k → w.polls t = some point → PointOk t k point

lemma Points.step {P : Platform} {w w' : TaskWorld} {a : Action} (hw : Points w) (ht : Tables w)
    (h : Change P w a w') : Points w' := by
  intro t k point hk hp
  have hl := h.lane t
  generalize hl' : lane w' t = l at hl
  have hk' : l.tracked = some k := hl' ▸ hk
  have hp' : l.point = some point := hl' ▸ hp
  cases hl with
  | same => exact hw t k point hk' hp'
  | registered s title slug path hactive hfree hnew =>
    rw [show w.polls t = none from ht.polled t hfree] at hp'
    cases hp'
  | started k₀ hk₀ hp₀ => cases hp'; trivial
  | polled k₀ point₀ action e hk₀ hp₀ hs =>
    have hid := (ht.tracked t k₀ hk₀).1
    subst hid
    exact hs.pointOk (hw _ k₀ point₀ hk₀ hp₀) k point hk' hp'

end HermesRealtime.TaskLanes

import HermesRealtime.Custody

/-!
The order in which task events are announced. The maps of the scheduler keep their entries in the
order of insertion, so the events that wait are announced as they arrived, until a response that is
cancelled, fails or is deferred puts its events back behind others.
-/

namespace HermesRealtime.Arrivals

open Scheduler Turns Runs

/-! ### Lists that follow the order of another -/

section

variable {α : Type} {a l l' : List α}

lemma mem_of_pair {x y : α} (h : [x, y].Sublist a) : x ∈ a ∧ y ∈ a :=
  ⟨h.subset (by simp), h.subset (by simp)⟩

/-- Nothing comes before the head of a list without repetitions. -/
lemma not_pair_head {x y : α} (hnodup : (x :: a).Nodup) : ¬ [y, x].Sublist (x :: a) := by
  intro hpair
  have hx : x ∉ a := (List.nodup_cons.mp hnodup).1
  cases hpair with
  | cons _ h => exact hx (mem_of_pair h).2
  | cons_cons _ h => exact hx (h.subset (by simp))

/-- Two lists in a row follow the order of a list without repetitions exactly if each does, and
every entry of the first comes before every entry of the second. -/
lemma append_sublist_iff (hnodup : a.Nodup) : (l ++ l').Sublist a ↔
    l.Sublist a ∧ l'.Sublist a ∧ ∀ x ∈ l, ∀ y ∈ l', [x, y].Sublist a := by
  constructor
  · intro h
    refine ⟨(List.sublist_append_left l l').trans h, (List.sublist_append_right l l').trans h, ?_⟩
    intro x hx y hy
    have hpair : ([x] ++ [y]).Sublist (l ++ l') :=
      (List.singleton_sublist.mpr hx).append (List.singleton_sublist.mpr hy)
    exact hpair.trans h
  · rintro ⟨hl, hl', hbefore⟩
    induction a generalizing l l' with
    | nil => simp [List.sublist_nil.mp hl, List.sublist_nil.mp hl']
    | cons z a ih =>
      have hrest : a.Nodup := (List.nodup_cons.mp hnodup).2
      rcases l with _ | ⟨x, l⟩
      · simpa using hl'
      have hz : z ∉ l' := fun hz =>
        not_pair_head hnodup (hbefore x List.mem_cons_self z hz)
      have hl'a : l'.Sublist a := by
        cases hl' with
        | cons _ h => exact h
        | cons_cons _ h => exact absurd List.mem_cons_self hz
      have hlater : ∀ x' ∈ x :: l, x' ≠ z → ∀ y ∈ l', [x', y].Sublist a := by
        intro x' hx' hne y hy
        cases hbefore x' hx' y hy with
        | cons _ h => exact h
        | cons_cons _ h => exact absurd rfl hne
      cases hl with
      | cons _ h =>
        have hnot : z ∉ x :: l := fun hmem =>
          (List.nodup_cons.mp hnodup).1 (h.subset hmem)
        refine (ih hrest h hl'a fun x' hx' => hlater x' hx' ?_).cons z
        rintro rfl
        exact hnot hx'
      | cons_cons _ h =>
        have hnot : z ∉ l := fun hmem => (List.nodup_cons.mp hnodup).1 (h.subset hmem)
        refine (ih hrest h hl'a fun x' hx' => hlater x' (List.mem_cons_of_mem z hx') ?_).cons_cons z
        rintro rfl
        exact hnot hx'

end

/-! ### The keys of a map -/

variable {m other : EventMap}

/-- The keys of another map come behind, but for those that are there already. -/
lemma keys_setAll (hnodup : (EventMap.keys other).Nodup) : EventMap.keys (m.setAll other) =
    EventMap.keys m ++ (EventMap.keys other).filter fun key => key ∉ EventMap.keys m := by
  induction other generalizing m with
  | nil => simp [EventMap.setAll, EventMap.keys]
  | cons entry other ih =>
    have hstep : m.setAll (entry :: other) = (m.set entry.1 entry.2).setAll other := rfl
    have hcons : EventMap.keys (entry :: other) = entry.1 :: EventMap.keys other := rfl
    rw [hcons] at hnodup ⊢
    obtain ⟨hnew, hrest⟩ := List.nodup_cons.mp hnodup
    rw [hstep, ih hrest, EventMap.keys_set]
    by_cases hmem : entry.1 ∈ EventMap.keys m
    · simp [hmem]
    · have hfilter : (EventMap.keys other).filter (fun key => key ∉ EventMap.keys m ++ [entry.1]) =
          (EventMap.keys other).filter fun key => key ∉ EventMap.keys m := by
        refine List.filter_congr fun key hkey => ?_
        have hne : key ≠ entry.1 := fun heq => hnew (heq ▸ hkey)
        simp [hne]
      rw [if_neg hmem, hfilter]
      simp [hmem]

/-! ### Arrivals -/

/-- The keys of the events that have been given since the last reset, as they were first given. -/
def arrivals : List Happened → List String
  | [] => []
  | .called .reset :: _ => []
  | .called (.taskEvent event) :: h =>
    if eventKey event ∈ arrivals h then arrivals h else arrivals h ++ [eventKey event]
  | _ :: h => arrivals h

/-- The event with the first key was given before the one with the second. -/
def ArrivedBefore (h : List Happened) (key key' : String) : Prop := [key, key'].Sublist (arrivals h)

instance (h : List Happened) (key key' : String) : Decidable (ArrivedBefore h key key') :=
  inferInstanceAs (Decidable ([key, key'].Sublist (arrivals h)))

lemma arrivals_nodup (h : List Happened) : (arrivals h).Nodup := by
  induction h with
  | nil => exact List.nodup_nil
  | cons x h ih =>
    cases x with
    | sent r => exact ih
    | called c =>
      cases c with
      | reset => exact List.nodup_nil
      | taskEvent event =>
        rw [arrivals]
        split_ifs with hmem
        · exact ih
        · exact List.nodup_append.mpr ⟨ih, by simp, by
            rintro key hkey key' hkey' rfl
            exact hmem (List.mem_singleton.mp hkey' ▸ hkey)⟩
      | _ => exact ih

/-- The events of every response that has been asked for are in the order of their arrival. -/
def AnnouncedInOrder (h : List Happened) : Prop :=
  ∀ after before r, h = after ++ .sent r :: before →
    (EventMap.keys r.events).Sublist (arrivals before)

/-! ### Calls that keep the order -/

/-- The call puts no event behind one that arrived after it: an event is not given again behind a
later one, and where the events of a response are put back, none waits that arrived after one of
them. -/
def KeepsOrder (w : SchedulerWorld) : SchedulerCall → Prop
  | .taskEvent event =>
    eventKey event ∈ arrivals w.history →
      eventKey event ∉ EventMap.keys w.scheduler.pendingEvents →
      ∀ key ∈ EventMap.keys w.scheduler.pendingEvents, ArrivedBefore w.history key (eventKey event)
  | .responseDone status deferContinuation =>
    (deferContinuation || status ≠ "completed") = true →
      ∀ key ∈ EventMap.keys w.scheduler.pendingEvents,
        ∀ key' ∈ EventMap.keys w.scheduler.inFlightEvents,
          key' ∉ EventMap.keys w.scheduler.pendingEvents → ArrivedBefore w.history key key'
  | _ => True

/-- The events that wait, those in flight and those announced follow the order of arrival. -/
structure InOrder (s : TaskTurnScheduler) (h : List Happened) : Prop where
  pending : (EventMap.keys s.pendingEvents).Sublist (arrivals h)
  inFlight : (EventMap.keys s.inFlightEvents).Sublist (arrivals h)
  announced : AnnouncedInOrder h

variable {s : TaskTurnScheduler} {h : List Happened} {w : SchedulerWorld} {channel : Channel}

lemma InOrder.nodup_pending (hi : InOrder s h) : (EventMap.keys s.pendingEvents).Nodup :=
  hi.pending.nodup (arrivals_nodup h)

lemma AnnouncedInOrder.called (ha : AnnouncedInOrder h) (c : SchedulerCall) :
    AnnouncedInOrder (.called c :: h) := by
  intro after before r hsplit
  rcases split_cons hsplit with ⟨-, heq, -⟩ | ⟨after, -, htail⟩
  · cases heq
  · exact ha after before r htail

lemma AnnouncedInOrder.sent (ha : AnnouncedInOrder h) {r : ResponseCreate}
    (hr : (EventMap.keys r.events).Sublist (arrivals h)) : AnnouncedInOrder (.sent r :: h) := by
  intro after before r' hsplit
  rcases split_cons hsplit with ⟨-, heq, rfl⟩ | ⟨after, -, htail⟩
  · obtain rfl := Happened.sent.inj heq
    exact hr
  · exact ha after before r' htail

lemma arrivals_sublist_taskEvent (event : TaskEvent) :
    (arrivals h).Sublist (arrivals (.called (.taskEvent event) :: h)) := by
  rw [arrivals]
  split_ifs
  · exact List.Sublist.refl _
  · exact List.sublist_append_left _ _

/-- **An event is given in order** exactly if it is new, waits already, or no later one waits. -/
lemma taskEvent_inOrder_iff (hi : InOrder w.scheduler w.history) (event : TaskEvent) :
    (EventMap.keys (w.scheduler.pendingEvents.set (eventKey event) event)).Sublist
        (arrivals (.called (.taskEvent event) :: w.history)) ↔
      KeepsOrder w (.taskEvent event) := by
  rw [EventMap.keys_set, arrivals, KeepsOrder]
  by_cases hwaits : eventKey event ∈ EventMap.keys w.scheduler.pendingEvents
  · have hgiven := hi.pending.subset hwaits
    simp [hwaits, hgiven, hi.pending]
  · by_cases hgiven : eventKey event ∈ arrivals w.history
    · rw [if_neg hwaits, if_pos hgiven, append_sublist_iff (arrivals_nodup w.history)]
      simp [hgiven, hwaits, hi.pending, ArrivedBefore]
    · rw [if_neg hwaits, if_neg hgiven]
      exact iff_of_true (hi.pending.append (List.Sublist.refl _)) fun h => absurd h hgiven

/-- **Events are put back in order** exactly if none waits that arrived after one of them. -/
lemma putBack_inOrder_iff (hi : InOrder w.scheduler w.history) {status : String}
    {deferContinuation : Bool} (hback : (deferContinuation || status ≠ "completed") = true) :
    (EventMap.keys (w.scheduler.pendingEvents.setAll w.scheduler.inFlightEvents)).Sublist
        (arrivals w.history) ↔
      KeepsOrder w (.responseDone status deferContinuation) := by
  have hfilter := (List.filter_sublist
    (p := fun key => decide (key ∉ EventMap.keys w.scheduler.pendingEvents))
    (l := EventMap.keys w.scheduler.inFlightEvents)).trans hi.inFlight
  rw [keys_setAll (hi.inFlight.nodup (arrivals_nodup w.history)),
    append_sublist_iff (arrivals_nodup w.history), KeepsOrder]
  simp only [hi.pending, hfilter, hback, true_and, forall_const, List.mem_filter,
    decide_eq_true_eq, and_imp]
  rfl

lemma inOrder_prepared (c : SchedulerCall) (hkeeps : KeepsOrder w c)
    (hi : InOrder w.scheduler w.history) :
    InOrder (prepared w.scheduler c) (.called c :: w.history) := by
  have hannounced := hi.announced.called c
  cases c with
  | reset => exact ⟨List.nil_sublist _, List.nil_sublist _, hannounced⟩
  | taskEvent event =>
    exact ⟨(taskEvent_inOrder_iff hi event).mpr hkeeps,
      hi.inFlight.trans (arrivals_sublist_taskEvent event), hannounced⟩
  | responseDone status deferContinuation =>
    refine ⟨?_, List.nil_sublist _, hannounced⟩
    by_cases hback : (deferContinuation || status ≠ "completed") = true
    · have hpending :
        (prepared w.scheduler (.responseDone status deferContinuation)).pendingEvents =
          w.scheduler.pendingEvents.setAll w.scheduler.inFlightEvents := by
        simp only [prepared, TaskTurnScheduler.putBack, hback, if_true]
      rw [hpending]
      exact (putBack_inOrder_iff hi hback).mpr hkeeps
    · have hpending :
        (prepared w.scheduler (.responseDone status deferContinuation)).pendingEvents =
          w.scheduler.pendingEvents := by
        simp only [prepared, TaskTurnScheduler.putBack, hback]
        rfl
      rw [hpending]
      exact hi.pending
  | channelReady | speechStarted | speechStopped | audioCommitted | responseCreated
  | requestResponse | maybeCreateResponse => exact ⟨hi.pending, hi.inFlight, hannounced⟩

lemma inOrder_created (hi : InOrder s h) : InOrder (created s) (.sent ⟨s.pendingEvents⟩ :: h) :=
  ⟨List.nil_sublist _, hi.pending, hi.announced.sent hi.pending⟩

lemma inOrder_restored (hi : InOrder s h) : InOrder (restored s) h := by
  refine ⟨?_, List.nil_sublist _, hi.announced⟩
  have hkeys : EventMap.keys (restored s).pendingEvents = EventMap.keys s.pendingEvents := by
    rw [restored, keys_setAll hi.nodup_pending]
    simp [EventMap.keys]
  rw [hkeys]
  exact hi.pending

/-- **Task events are announced in the order of their arrival** in a run whose calls keep the order:
no event is given again behind a later one, and none is put back behind a later one. -/
theorem announced_in_arrival_order {w : SchedulerWorld} {as : List (Channel × SchedulerCall)}
    (hrun : Run schedulerStep (fun w a => KeepsOrder w a.2) {} as w) :
    AnnouncedInOrder w.history := by
  have hstart : InOrder {} [] := by
    refine ⟨List.nil_sublist _, List.nil_sublist _, fun after before r hsplit => ?_⟩
    simp at hsplit
  have hi : InOrder w.scheduler w.history :=
    scheduler_invariant (I := InOrder) hrun hstart
      (fun w channel c hkeeps hi => inOrder_prepared c hkeeps hi)
      (fun s h channel _ hi => inOrder_restored hi) (fun s h channel _ hi => inOrder_created hi)
  exact hi.announced

instance (w : SchedulerWorld) : (c : SchedulerCall) → Decidable (KeepsOrder w c)
  | .taskEvent event => inferInstanceAs (Decidable (eventKey event ∈ arrivals w.history →
      eventKey event ∉ EventMap.keys w.scheduler.pendingEvents →
      ∀ key ∈ EventMap.keys w.scheduler.pendingEvents,
        ArrivedBefore w.history key (eventKey event)))
  | .responseDone status deferContinuation =>
    inferInstanceAs (Decidable ((deferContinuation || status ≠ "completed") = true →
      ∀ key ∈ EventMap.keys w.scheduler.pendingEvents,
        ∀ key' ∈ EventMap.keys w.scheduler.inFlightEvents,
          key' ∉ EventMap.keys w.scheduler.pendingEvents → ArrivedBefore w.history key key'))
  | .reset | .channelReady | .speechStarted | .speechStopped | .audioCommitted
  | .responseCreated | .requestResponse | .maybeCreateResponse => .isTrue trivial

def completedEvent (eventId : ℤ) : TaskEvent :=
  ⟨"t_voice01", eventId, "completed", "done", none, false, none⟩

/-- An announcement is cancelled before a newer event comes. -/
def putBackAhead : List (Channel × SchedulerCall) :=
  ([.taskEvent (completedEvent 17), .responseCreated, .responseDone "cancelled" false,
    .taskEvent (completedEvent 18)] : List SchedulerCall).map fun c => (openChannel, c)

theorem announced_in_arrival_order_putBack : ∃ w,
    Run schedulerStep (fun w a => KeepsOrder w a.2) {} putBackAhead w ∧
    w.history.head? = some (.sent ⟨[("t_voice01:17", completedEvent 17),
      ("t_voice01:18", completedEvent 18)]⟩) ∧ AnnouncedInOrder w.history := by
  have hexec : (exec schedulerStep
      (fun w (a : Channel × SchedulerCall) => decide (KeepsOrder w a.2)) {} putBackAhead).map
      (fun w => w.history.head?) = some (some (.sent ⟨[("t_voice01:17", completedEvent 17),
        ("t_voice01:18", completedEvent 18)]⟩)) := by
    decide +kernel
  obtain ⟨w, hw, hlatest⟩ := Option.map_eq_some_iff.mp hexec
  have hrun := run_of_exec (C := fun w (a : Channel × SchedulerCall) => KeepsOrder w a.2)
    (fun _ _ hkeeps => of_decide_eq_true hkeeps) _ _ hw
  exact ⟨w, hrun, hlatest, announced_in_arrival_order hrun⟩

/-- An announcement is cancelled while a newer event waits. -/
def putBackBehind : List (Channel × SchedulerCall) :=
  ([.taskEvent (completedEvent 17), .responseCreated, .taskEvent (completedEvent 18),
    .responseDone "cancelled" false, .audioCommitted] : List SchedulerCall).map
      fun c => (openChannel, c)

/-- The newer event is announced before the one that was put back behind it. -/
theorem announced_behind : ∃ w, Run schedulerStep (fun _ _ => True) {} putBackBehind w ∧
    ¬ AnnouncedInOrder w.history := by
  have hexec : (exec schedulerStep (fun _ _ => true) {} putBackBehind).map
      (fun w => (w.history.head?, arrivals w.history)) =
        some (some (.sent ⟨[("t_voice01:18", completedEvent 18),
          ("t_voice01:17", completedEvent 17)]⟩), ["t_voice01:17", "t_voice01:18"]) := by
    decide +kernel
  obtain ⟨w, hw, hfacts⟩ := Option.map_eq_some_iff.mp hexec
  obtain ⟨hlatest, harrivals⟩ := Prod.mk.inj hfacts
  refine ⟨w, run_of_exec (fun _ _ _ => trivial) _ _ hw, fun hordered => ?_⟩
  obtain ⟨before, hhistory⟩ := List.head?_eq_some_iff.mp hlatest
  have hsublist := hordered [] before _ hhistory
  rw [hhistory] at harrivals
  rw [show arrivals before = ["t_voice01:17", "t_voice01:18"] from harrivals] at hsublist
  revert hsublist
  decide +kernel

end HermesRealtime.Arrivals

import HermesRealtime.Turns

/-!
The task events the scheduler has been given: none is lost while responses are cancelled, fail, are
deferred or cannot be asked for, and none is announced twice.
-/

namespace HermesRealtime.Custody

open Scheduler Turns Runs

variable {s p : TaskTurnScheduler} {channel : Channel} {h : List Happened} {k : String}

/-! ### Readings of the history -/

/-- The response is completed, and its continuation is not deferred. -/
def completion : Happened := .called (.responseDone "completed" false)

/-- The event with this key has been part of a response that was asked for and then completed. -/
def announced (k : String) : List Happened → Bool
  | [] => false
  | x :: h =>
      (decide (x = completion) && (outstanding h).any fun r => k ∈ EventMap.keys r.events) ||
      announced k h

/-- The first of the calls that end a response. -/
def firstEnd : List Happened → Option Happened
  | [] => none
  | x :: h => (firstEnd h).or (if Ends x then some x else none)

/-- The event with this key has been given to the scheduler. -/
def Given (k : String) (h : List Happened) : Prop :=
  ∃ event, .called (.taskEvent event) ∈ h ∧ eventKey event = k

/-- The event waits, or is part of the response that is in flight. -/
def Held (s : TaskTurnScheduler) (k : String) : Prop :=
  k ∈ EventMap.keys s.pendingEvents ∨ k ∈ EventMap.keys s.inFlightEvents

/-- Every event that has been given since the last reset is held, or has been announced since. -/
def NoneLost (s : TaskTurnScheduler) (h : List Happened) : Prop :=
  ∀ after before event, h = after ++ .called (.taskEvent event) :: before →
    .called .reset ∉ after → Held s (eventKey event) ∨ announced (eventKey event) after = true

/-- An event that has been announced is not part of another response, unless it was given again
since the first one was asked for. -/
def NoneRepeated (h : List Happened) : Prop :=
  ∀ after mid before response response' k,
    h = after ++ .sent response' :: mid ++ .sent response :: before →
      firstEnd mid = some completion → k ∈ EventMap.keys response.events →
        k ∈ EventMap.keys response'.events → Given k mid

lemma outstanding_append {after before : List Happened} {r : ResponseCreate}
    (hafter : outstanding after = some r) : outstanding (after ++ before) = some r := by
  induction after with
  | nil => simp [outstanding] at hafter
  | cons x after ih =>
    cases x with
    | sent r' => simpa [outstanding] using hafter
    | called c =>
      cases hends : Ends (.called c) with
      | true => simp [outstanding, hends] at hafter
      | false =>
        simp only [outstanding, hends, List.cons_append] at hafter ⊢
        exact ih hafter

lemma firstEnd_cons {x : Happened} (hends : Ends x = false) : firstEnd (x :: h) = firstEnd h := by
  simp [firstEnd, hends]

lemma Given.cons {x : Happened} (hgiven : Given k h) : Given k (x :: h) := by
  obtain ⟨event, hmem, hkey⟩ := hgiven
  exact ⟨event, List.mem_cons_of_mem x hmem, hkey⟩

lemma announced_cons {x : Happened} (hannounced : announced k h = true) :
    announced k (x :: h) = true := by
  simp [announced, hannounced]

/-! ### What the maps say of the history -/

structure Keeps (s : TaskTurnScheduler) (h : List Happened) : Prop where
  inFlight : ∀ r, outstanding h = some r → s.inFlightEvents = r.events
  idle : outstanding h = none → s.inFlightEvents = []
  kept : ∀ after before event, h = after ++ .called (.taskEvent event) :: before →
    .called .reset ∉ after → eventKey event ∈ EventMap.keys s.pendingEvents ∨
      (∃ r, outstanding after = some r ∧ eventKey event ∈ EventMap.keys r.events) ∨
      announced (eventKey event) after = true
  again : ∀ mid before r k, h = mid ++ .sent r :: before → k ∈ EventMap.keys r.events →
    (firstEnd mid = none ∧ k ∈ EventMap.keys s.pendingEvents) ∨
      (firstEnd mid = some completion ∧ Held s k) → Given k mid
  norepeat : NoneRepeated h

lemma noneRepeated_called {c : SchedulerCall} (hn : NoneRepeated h) :
    NoneRepeated (.called c :: h) := by
  intro after mid before response response' k hsplit
  rw [List.append_assoc, List.cons_append] at hsplit
  rcases split_cons hsplit with ⟨-, heq, -⟩ | ⟨after, -, htail⟩
  · cases heq
  · exact hn after mid before response response' k
      (by rw [htail, List.append_assoc, List.cons_append])

/-- A call that ends nothing; what it adds to the events that wait has been given. -/
lemma Keeps.called {c : SchedulerCall} (hk : Keeps s h) (hends : Ends (.called c) = false)
    (hinFlight : p.inFlightEvents = s.inFlightEvents)
    (hold : ∀ k, k ∈ EventMap.keys s.pendingEvents → k ∈ EventMap.keys p.pendingEvents)
    (hnew : ∀ k, k ∈ EventMap.keys p.pendingEvents → k ∈ EventMap.keys s.pendingEvents ∨
      ∃ event, c = .taskEvent event ∧ eventKey event = k)
    (hgiven : ∀ event, c = .taskEvent event → eventKey event ∈ EventMap.keys p.pendingEvents) :
    Keeps p (.called c :: h) := by
  have hout : ∀ g, outstanding (.called c :: g) = outstanding g := fun g => by
    simp [outstanding, hends]
  refine ⟨?_, ?_, ?_, ?_, noneRepeated_called hk.norepeat⟩
  · rw [hout, hinFlight]
    exact hk.inFlight
  · rw [hout, hinFlight]
    exact hk.idle
  · intro after before event hsplit hreset
    rcases split_cons hsplit with ⟨rfl, heq, -⟩ | ⟨after, rfl, htail⟩
    · exact .inl (hgiven event (Happened.called.inj heq))
    · rw [List.mem_cons, not_or] at hreset
      rcases hk.kept after before event htail hreset.2 with hmem | hout' | hannounced
      · exact .inl (hold _ hmem)
      · exact .inr (.inl (by rwa [hout]))
      · exact .inr (.inr (announced_cons hannounced))
  · intro mid before r k hsplit hr hheld
    rcases split_cons hsplit with ⟨-, heq, -⟩ | ⟨mid, rfl, htail⟩
    · cases heq
    · rw [firstEnd_cons hends, Held, hinFlight] at hheld
      have hcase : (∃ event, c = .taskEvent event ∧ eventKey event = k) ∨
          ((firstEnd mid = none ∧ k ∈ EventMap.keys s.pendingEvents) ∨
            (firstEnd mid = some completion ∧ Held s k)) := by
        rcases hheld with ⟨hfirst, hmem⟩ | ⟨hfirst, hmem | hmem⟩
        · exact (hnew k hmem).symm.imp_right fun hmem => .inl ⟨hfirst, hmem⟩
        · exact (hnew k hmem).symm.imp_right fun hmem => .inr ⟨hfirst, .inl hmem⟩
        · exact .inr (.inr ⟨hfirst, .inr hmem⟩)
      rcases hcase with ⟨event, rfl, hkey⟩ | hcase
      · exact ⟨event, List.mem_cons_self, hkey⟩
      · exact (hk.again mid before r k htail hr hcase).cons

/-- A response has ended: its events are put back, or it was completed. -/
lemma Keeps.ended {status : String} {d : Bool} (hk : Keeps s h) (hinFlight : p.inFlightEvents = [])
    (hback : Happened.called (.responseDone status d) ≠ completion → ∀ k,
      k ∈ EventMap.keys p.pendingEvents ↔ Held s k)
    (hdone : Happened.called (.responseDone status d) = completion →
      p.pendingEvents = s.pendingEvents) :
    Keeps p (.called (.responseDone status d) :: h) := by
  have hsub : ∀ k, Held p k → Held s k := by
    rintro k (hmem | hmem)
    · by_cases hcompletion : Happened.called (.responseDone status d) = completion
      · exact .inl (hdone hcompletion ▸ hmem)
      · exact (hback hcompletion k).mp hmem
    · simp [hinFlight, EventMap.keys] at hmem
  refine ⟨?_, fun _ => hinFlight, ?_, ?_, noneRepeated_called hk.norepeat⟩
  · intro r hr
    simp [outstanding, Ends] at hr
  · intro after before event hsplit hreset
    rcases split_cons hsplit with ⟨-, heq, -⟩ | ⟨after, rfl, htail⟩
    · cases heq
    rw [List.mem_cons, not_or] at hreset
    rcases hk.kept after before event htail hreset.2 with hmem | ⟨r, hr, hmem⟩ | hannounced
    · by_cases hcompletion : Happened.called (.responseDone status d) = completion
      · exact .inl (by rwa [hdone hcompletion])
      · exact .inl ((hback hcompletion _).mpr (.inl hmem))
    · by_cases hcompletion : Happened.called (.responseDone status d) = completion
      · exact .inr (.inr (by simp [announced, hcompletion, hr, hmem]))
      · have hout : outstanding h = some r := htail ▸ outstanding_append hr
        exact .inl ((hback hcompletion _).mpr (.inr (hk.inFlight r hout ▸ hmem)))
    · exact .inr (.inr (announced_cons hannounced))
  · intro mid before r k hsplit hr hheld
    rcases split_cons hsplit with ⟨-, heq, -⟩ | ⟨mid, rfl, htail⟩
    · cases heq
    refine (hk.again mid before r k htail hr ?_).cons
    cases hfirst : firstEnd mid with
    | none =>
      -- this call ended the response itself
      simp only [firstEnd, hfirst, Ends, if_true, Option.none_or, Option.some.injEq, reduceCtorEq,
        false_and, false_or] at hheld
      obtain ⟨hcompletion, hmem | hmem⟩ := hheld
      · exact .inl ⟨rfl, hdone hcompletion ▸ hmem⟩
      · simp [hinFlight, EventMap.keys] at hmem
    | some x =>
      simp only [firstEnd, hfirst, Option.some_or, reduceCtorEq, false_and, false_or] at hheld
      exact .inr ⟨hheld.1, hsub k hheld.2⟩

lemma keeps_reset (hk : Keeps s h) : Keeps {} (.called .reset :: h) := by
  refine ⟨?_, fun _ => rfl, ?_, ?_, noneRepeated_called hk.norepeat⟩
  · intro r hr
    simp [outstanding, Ends] at hr
  · intro after before event hsplit hreset
    rcases split_cons hsplit with ⟨-, heq, -⟩ | ⟨after, rfl, -⟩
    · cases heq
    · simp at hreset
  · intro mid before r k _ _ hheld
    simp [Held, EventMap.keys] at hheld

lemma keeps_prepared {w : SchedulerWorld} (c : SchedulerCall) (hk : Keeps w.scheduler w.history) :
    Keeps (prepared w.scheduler c) (.called c :: w.history) := by
  cases c with
  | reset => exact keeps_reset hk
  | taskEvent event =>
    refine hk.called rfl rfl (fun k hmem => ?_) (fun k hmem => ?_) fun event' heq => ?_
    · exact EventMap.mem_keys_set.mpr (.inr hmem)
    · exact (EventMap.mem_keys_set.mp hmem).symm.imp_right fun heq => ⟨event, rfl, heq.symm⟩
    · obtain rfl := SchedulerCall.taskEvent.inj heq
      exact EventMap.mem_keys_set.mpr (.inl rfl)
  | responseDone status d =>
    refine hk.ended rfl (fun hne k => ?_) fun heq => ?_
    · have hback : (d || decide (status ≠ "completed")) = true := by
        by_contra hnot
        have hboth : d = false ∧ status = "completed" := by simpa using hnot
        exact hne (by rw [hboth.1, hboth.2]; rfl)
      simp only [prepared, TaskTurnScheduler.putBack, hback, if_true, EventMap.mem_keys_setAll]
      rfl
    · obtain ⟨rfl, rfl⟩ := SchedulerCall.responseDone.inj (Happened.called.inj heq)
      rfl
  | channelReady | speechStarted | speechStopped | audioCommitted | responseCreated
  | requestResponse | maybeCreateResponse =>
    exact hk.called rfl rfl (fun _ => id) (fun _ => .inl) (by simp)

/-- All events that wait become part of the response. -/
lemma keeps_created (hnone : outstanding h = none) (hk : Keeps s h) :
    Keeps (created s) (.sent ⟨s.pendingEvents⟩ :: h) := by
  have hheld : ∀ k, Held (created s) k → Held s k := by
    rintro k (hmem | hmem)
    · simp [created, EventMap.keys] at hmem
    · exact .inl hmem
  refine ⟨?_, fun h => by simp [outstanding] at h, ?_, ?_, ?_⟩
  · intro r hr
    obtain rfl : (⟨s.pendingEvents⟩ : ResponseCreate) = r := by simpa [outstanding] using hr
    rfl
  · intro after before event hsplit hreset
    rcases split_cons hsplit with ⟨-, heq, -⟩ | ⟨after, rfl, htail⟩
    · cases heq
    rw [List.mem_cons, not_or] at hreset
    rcases hk.kept after before event htail hreset.2 with hmem | ⟨r, hr, -⟩ | hannounced
    · exact .inr (.inl ⟨_, rfl, hmem⟩)
    · have hout : outstanding h = some r := htail ▸ outstanding_append hr
      simp [hnone] at hout
    · exact .inr (.inr (announced_cons hannounced))
  · intro mid before r k hsplit hr hcase
    rcases split_cons hsplit with ⟨rfl, -, -⟩ | ⟨mid, rfl, htail⟩
    · simp [firstEnd, created, EventMap.keys] at hcase
    rw [firstEnd_cons rfl] at hcase
    refine (hk.again mid before r k htail hr ?_).cons
    rcases hcase with ⟨-, hmem⟩ | ⟨hfirst, hmem⟩
    · simp [created, EventMap.keys] at hmem
    · exact .inr ⟨hfirst, hheld k hmem⟩
  · intro after mid before response response' k hsplit hfirst hmem hmem'
    rw [List.append_assoc, List.cons_append] at hsplit
    rcases split_cons hsplit with ⟨-, heq, htail⟩ | ⟨after, -, htail⟩
    · obtain rfl := Happened.sent.inj heq
      exact hk.again mid before response k htail hmem (.inr ⟨hfirst, .inl hmem'⟩)
    · exact hk.norepeat after mid before response response' k
        (by rw [htail, List.append_assoc, List.cons_append]) hfirst hmem hmem'

lemma keeps_restored (hnone : outstanding h = none) (hk : Keeps s h) : Keeps (restored s) h := by
  have hpending : ∀ k, k ∈ EventMap.keys (restored s).pendingEvents ↔
      k ∈ EventMap.keys s.pendingEvents := fun k => by
    simp only [restored, EventMap.mem_keys_setAll]
    simp [EventMap.keys]
  refine ⟨fun r hr => by simp [hnone] at hr, fun _ => rfl, ?_, ?_, hk.norepeat⟩
  · intro after before event hsplit hreset
    rw [hpending]
    exact hk.kept after before event hsplit hreset
  · intro mid before r k hsplit hr hcase
    refine hk.again mid before r k hsplit hr ?_
    rcases hcase with ⟨hfirst, hmem⟩ | ⟨hfirst, hmem | hmem⟩
    · exact .inl ⟨hfirst, (hpending k).mp hmem⟩
    · exact .inr ⟨hfirst, .inl ((hpending k).mp hmem)⟩
    · simp [restored, EventMap.keys] at hmem

/-- The events of a response are in flight only while it is pending or in progress. -/
def FlightCovered (s : TaskTurnScheduler) : Prop :=
  s.inFlightEvents ≠ [] → s.responseCreatePending = true ∨ s.assistantResponding = true

/-- **Task events are neither lost nor repeated**, whatever the channel does. -/
theorem events_kept {w : SchedulerWorld} {as : List (Channel × SchedulerCall)}
    (hrun : Run schedulerStep (fun _ _ => True) {} as w) :
    NoneLost w.scheduler w.history ∧ NoneRepeated w.history ∧ FlightCovered w.scheduler := by
  have hstart : Keeps {} [] := by
    refine ⟨?_, fun _ => rfl, ?_, ?_, ?_⟩ <;> simp [outstanding, NoneRepeated]
  obtain ⟨ht, hk⟩ : TakesTurns w.scheduler w.history ∧ Keeps w.scheduler w.history :=
    scheduler_invariant (I := fun s h => TakesTurns s h ∧ Keeps s h) hrun
      ⟨takesTurns_start, hstart⟩
      (fun w channel c _ hi => ⟨takesTurns_prepared c hi.1, keeps_prepared c hi.2⟩)
      (fun s history channel hmay hi =>
        ⟨takesTurns_restored hmay hi.1, keeps_restored (hi.1.none_outstanding hmay) hi.2⟩)
      (fun s history channel hmay hi =>
        ⟨takesTurns_created hmay hi.1, keeps_created (hi.1.none_outstanding hmay) hi.2⟩)
  refine ⟨fun after before event hsplit hreset => ?_, hk.norepeat, fun hflight => ?_⟩
  · rcases hk.kept after before event hsplit hreset with hmem | ⟨r, hr, hmem⟩ | hannounced
    · exact .inl (.inl hmem)
    · have hout : outstanding w.history = some r := hsplit ▸ outstanding_append hr
      exact .inl (.inr (hk.inFlight r hout ▸ hmem))
    · exact .inr hannounced
  · refine ht.responding (Option.isSome_iff_ne_none.mpr fun hnone => ?_)
    exact hflight (hk.idle hnone)

theorem events_kept_twoAnnouncements :
    ∃ w, Run schedulerStep (fun _ _ => True) {} twoAnnouncements w ∧
    w.scheduler.inFlightEvents.length = 1 ∧
    NoneLost w.scheduler w.history ∧ NoneRepeated w.history ∧ FlightCovered w.scheduler := by
  have hexec : (exec schedulerStep (fun _ _ => true) {} twoAnnouncements).map
      (fun w => w.scheduler.inFlightEvents.length) = some 1 := by
    decide +kernel
  obtain ⟨w, hw, hlength⟩ := Option.map_eq_some_iff.mp hexec
  have hrun := run_of_exec (C := fun _ _ => True) (fun _ _ _ => trivial) _ _ hw
  exact ⟨w, hrun, hlength, events_kept hrun⟩

end HermesRealtime.Custody

import HermesRealtime.Dispatching

/-!
What an error of the provider does to a voice session. A `response.create` that is rejected is
answered by an error in place of the events of a response, and the scheduler is not told: until a
response is created or done, or everything is reset, it goes on waiting for the response it has
asked for and asks for no other.
-/

namespace HermesRealtime.ProviderErrors

open Scheduler Dispatching Runs

variable {p p' : RealtimePage} {channel : Channel} {s : TaskTurnScheduler} {h : List Observed}

/-! ### Readings of the history -/

/-- The calls after which the scheduler waits for no response it has asked for. -/
def releases : SchedulerCall → Bool
  | .reset | .responseCreated | .responseDone _ _ => true
  | _ => false

/-- The latest response that has been asked for has not been released. -/
def awaited : List Observed → Bool
  | [] => false
  | .scheduler (.sent _) :: _ => true
  | .scheduler (.called c) :: h => !releases c && awaited h
  | .providerError :: h => awaited h

/-- A response has been created and is not done. -/
def responding : List Observed → Bool
  | [] => false
  | .scheduler (.called .responseCreated) :: _ => true
  | .scheduler (.called c) :: h => !releases c && responding h
  | _ :: h => responding h

/-- A response has been asked for or created, and is neither done nor rejected: an error answers a
`response.create` that no response has been created for. -/
def inProgress : List Observed → Bool
  | [] => false
  | .scheduler (.sent _) :: _ => true
  | .scheduler (.called .responseCreated) :: _ => true
  | .scheduler (.called c) :: h => !releases c && inProgress h
  | .providerError :: h => responding h

/-- The latest `response.create` has been answered by an error, and not been released since. -/
def Rejected (h : List Observed) : Prop :=
  ∃ mid r before, h = mid ++ .scheduler (.sent r) :: before ∧ .providerError ∈ mid ∧
    ∀ c, .scheduler (.called c) ∈ mid → releases c = false

lemma responding_of_inProgress (hidle : inProgress h = false) : responding h = false := by
  induction h with
  | nil => rfl
  | cons x h ih =>
    cases x with
    | providerError => exact hidle
    | scheduler x =>
      cases x with
      | sent r => cases hidle
      | called c =>
        cases c with
        | responseCreated => cases hidle
        | _ => first | rfl | exact ih hidle

/-- The response that is waited for: nothing since it has been asked for releases it. -/
lemma awaited_iff : awaited h = true ↔ ∃ mid r before, h = mid ++ .scheduler (.sent r) :: before ∧
    ∀ c, .scheduler (.called c) ∈ mid → releases c = false := by
  induction h with
  | nil => simp [awaited]
  | cons x h ih =>
    constructor
    · intro hawaited
      cases x with
      | providerError =>
        obtain ⟨mid, r, before, rfl, hkept⟩ := ih.mp hawaited
        exact ⟨.providerError :: mid, r, before, rfl, by simpa using hkept⟩
      | scheduler x =>
        cases x with
        | sent r => exact ⟨[], r, h, rfl, by simp⟩
        | called c =>
          rw [awaited, Bool.and_eq_true, Bool.not_eq_true'] at hawaited
          obtain ⟨mid, r, before, rfl, hkept⟩ := ih.mp hawaited.2
          refine ⟨.scheduler (.called c) :: mid, r, before, rfl, fun c' hmem => ?_⟩
          rcases List.mem_cons.mp hmem with heq | hmem
          · obtain rfl : c' = c := by simpa using heq
            exact hawaited.1
          · exact hkept c' hmem
    · rintro ⟨mid, r, before, hsplit, hkept⟩
      cases mid with
      | nil =>
        obtain ⟨rfl, -⟩ := List.cons.inj hsplit
        rfl
      | cons y mid =>
        obtain ⟨rfl, rfl⟩ := List.cons.inj hsplit
        have hrest :=
          ih.mpr ⟨mid, r, before, rfl, fun c hmem => hkept c (List.mem_cons_of_mem _ hmem)⟩
        cases x with
        | providerError => exact hrest
        | scheduler x =>
          cases x with
          | sent r' => rfl
          | called c =>
            have hkeep := hkept c List.mem_cons_self
            rw [awaited, hkeep]
            exact hrest

lemma Rejected.cons (hrejected : Rejected h) {x : Observed}
    (hx : ∀ c, x = .scheduler (.called c) → releases c = false) : Rejected (x :: h) := by
  obtain ⟨mid, r, before, rfl, herror, hkept⟩ := hrejected
  refine ⟨x :: mid, r, before, rfl, List.mem_cons_of_mem x herror, fun c hmem => ?_⟩
  rcases List.mem_cons.mp hmem with heq | hmem
  · exact hx c heq.symm
  · exact hkept c hmem

/-- Without a response in progress, the one that is waited for has been rejected. -/
lemma rejected_iff (hidle : inProgress h = false) : Rejected h ↔ awaited h = true := by
  constructor
  · rintro ⟨mid, r, before, hsplit, -, hkept⟩
    exact awaited_iff.mpr ⟨mid, r, before, hsplit, hkept⟩
  · intro hawaited
    induction h with
    | nil => cases hawaited
    | cons x h ih =>
      cases x with
      | providerError =>
        have hbefore : awaited h = true := hawaited
        obtain ⟨mid, r, before, rfl, hkept⟩ := awaited_iff.mp hbefore
        exact ⟨.providerError :: mid, r, before, rfl, List.mem_cons_self, by simpa using hkept⟩
      | scheduler x =>
        cases x with
        | sent r => cases hidle
        | called c =>
          rw [awaited, Bool.and_eq_true, Bool.not_eq_true'] at hawaited
          have hrest : inProgress h = false := by
            cases c with
            | responseCreated => cases hidle
            | reset | responseDone => cases hawaited.1
            | _ => exact hidle
          refine (ih hrest hawaited.2).cons fun c' heq => ?_
          obtain rfl : c = c' := by simpa using heq
          exact hawaited.1

/-! ### What the flags say of the history -/

/-- Between two responses that have been asked for, something has released the first. -/
def ReleasedBetween (h : List Observed) : Prop :=
  ∀ after mid before r r',
    h = after ++ .scheduler (.sent r') :: mid ++ .scheduler (.sent r) :: before →
      ∃ c, .scheduler (.called c) ∈ mid ∧ releases c = true

structure Flags (s : TaskTurnScheduler) (h : List Observed) : Prop where
  pending : s.responseCreatePending = awaited h
  responding : s.assistantResponding = responding h
  between : ReleasedBetween h

lemma ReleasedBetween.cons (hb : ReleasedBetween h) {x : Observed}
    (hx : ∀ r, x = .scheduler (.sent r) → awaited h = false) : ReleasedBetween (x :: h) := by
  intro after mid before r r' hsplit
  cases after with
  | cons y after =>
    rw [List.append_assoc, List.cons_append] at hsplit
    obtain ⟨-, htail⟩ := List.cons.inj hsplit
    exact hb after mid before r r' (by rw [htail]; simp)
  | nil =>
    obtain ⟨rfl, rfl⟩ := List.cons.inj hsplit
    by_contra hnone
    have hkept : ∀ c, .scheduler (.called c) ∈ mid → releases c = false := fun c hmem => by
      by_contra hreleases
      exact hnone ⟨c, hmem, by simpa using hreleases⟩
    have hawaited := awaited_iff.mpr ⟨mid, r, before, rfl, hkept⟩
    exact absurd (hawaited.symm.trans (hx r' rfl)) (by simp)

/-- A call changes the flags as it changes what has happened. -/
lemma flags_prepared (c : SchedulerCall) (hf : Flags s h) :
    Flags (prepared s c) (.scheduler (.called c) :: h) := by
  refine ⟨?_, ?_, hf.between.cons (by simp)⟩
  · rw [awaited]
    cases c with
    | reset | responseCreated => rfl
    | responseDone status d => exact (Turns.prepared_done s status d).2.2.2.2.1
    | _ => exact hf.pending
  · cases c with
    | reset | responseCreated => rfl
    | responseDone status d => exact (Turns.prepared_done s status d).2.2.2.1
    | _ => exact hf.responding

lemma flags_kept : Kept Flags where
  prepared _ _ c hf := flags_prepared c hf
  restored s h channel hmay hf := by
    obtain ⟨-, -, -, -, hpending, -⟩ := mayCreate_iff.mp hmay
    exact ⟨hpending.symm.trans hf.pending, hf.responding, hf.between⟩
  created s h channel hmay hf := by
    obtain ⟨-, -, -, -, hpending, -⟩ := mayCreate_iff.mp hmay
    exact ⟨rfl, hf.responding, hf.between.cons fun _ _ => hf.pending.symm.trans hpending⟩
  error s h hf := ⟨hf.pending, hf.responding, hf.between.cons (by simp)⟩

lemma flags_start : Flags {} [] := by
  refine ⟨rfl, rfl, fun after mid before r r' hsplit => ?_⟩
  simp at hsplit

/-- **After a rejected response nothing is asked for** until a response is created or done, or the
scheduler is reset. -/
theorem released_between {as : List (Channel × PageEvent)}
    (hrun : Run pageStep (fun _ _ => True) {} as p) : ReleasedBetween p.history :=
  (page_invariant flags_kept flags_start hrun).between

/-- **A turn after an error**: with the channel ready, the user silent and no response in progress,
a committed turn is answered by a new response exactly if the latest one has not been rejected, or
something has released it since. -/
theorem turn_after_error_iff {as : List (Channel × PageEvent)}
    (hrun : Run pageStep (fun _ _ => True) {} as p) (hidle : inProgress p.history = false)
    (hsilent : p.scheduler.userSpeaking = false) (hready : channel.ready = true)
    (hsends : channel.throws = false)
    (hs : pageStep p (channel, .realtime .audioCommitted) = some p') :
    (∃ r, p'.history = .scheduler (.sent r) :: .scheduler (.called .audioCommitted) :: p.history) ↔
      ¬ Rejected p.history := by
  have hf : Flags p.scheduler p.history := page_invariant flags_kept flags_start hrun
  have hresponding : p.scheduler.assistantResponding = false :=
    hf.responding.trans (responding_of_inProgress hidle)
  have hmay : (prepared p.scheduler .audioCommitted).mayCreate channel =
      !p.scheduler.responseCreatePending := by
    simp [prepared, TaskTurnScheduler.mayCreate, hsilent, hresponding, hready]
  obtain rfl := Option.some.inj hs
  rw [rejected_iff hidle, ← hf.pending]
  simp only [RealtimePage.handleRealtimeEvent, RealtimePage.call, schedule_eq,
    maybeCreateResponse_eq, tries, hmay, hsends]
  cases p.scheduler.responseCreatePending <;> simp

/-! ### Sample runs -/

def onOpenChannel (events : List PageEvent) : List (Channel × PageEvent) :=
  events.map fun event => (Turns.openChannel, event)

/-- A turn of the user, up to its commit. -/
def spokenTurn : List PageEvent := [.realtime .speechStarted, .realtime .speechStopped]

/-- The response to a first turn is rejected, and the user speaks again. -/
def rejectedTurn : List (Channel × PageEvent) :=
  onOpenChannel ([.startConversation, .channelOpen, .realtime .sessionUpdated] ++ spokenTurn ++
    [.realtime .audioCommitted, .realtime .error] ++ spokenTurn)

/-- The same, but a response that had been forgotten is done before the user speaks again. -/
def releasedTurn : List (Channel × PageEvent) :=
  onOpenChannel ([.startConversation, .channelOpen, .realtime .sessionUpdated] ++ spokenTurn ++
    [.realtime .audioCommitted, .realtime .error,
      .realtime (.responseDone (some "cancelled") none 0)] ++ spokenTurn)

theorem turn_after_error_released : ∃ p p', Run pageStep (fun _ _ => True) {} releasedTurn p ∧
    .providerError ∈ p.history ∧
    pageStep p (Turns.openChannel, .realtime .audioCommitted) = some p' ∧
    ∃ r, p'.history =
      .scheduler (.sent r) :: .scheduler (.called .audioCommitted) :: p.history := by
  have hexec : (exec pageStep (fun _ _ => true) {} releasedTurn).map
      (fun p => (inProgress p.history, awaited p.history, p.scheduler.userSpeaking,
        decide (Observed.providerError ∈ p.history))) = some (false, false, false, true) := by
    decide +kernel
  obtain ⟨p, hp, hfacts⟩ := Option.map_eq_some_iff.mp hexec
  simp only [Prod.mk.injEq, decide_eq_true_eq] at hfacts
  obtain ⟨hidle, hawaited, hsilent, herror⟩ := hfacts
  have hrun := run_of_exec (C := fun _ _ => True) (fun _ _ _ => trivial) _ _ hp
  have hnot : ¬ Rejected p.history := by
    rw [rejected_iff hidle, hawaited]
    simp
  exact ⟨p, _, hrun, herror, rfl,
    (turn_after_error_iff hrun hidle hsilent rfl rfl rfl).mpr hnot⟩

/-- **A rejected response silences the session**: the turn after it is not answered. -/
theorem turn_after_error_unanswered : ∃ p p',
    Run pageStep (fun _ _ => True) {} rejectedTurn p ∧ Rejected p.history ∧
    inProgress p.history = false ∧ p.scheduler.userSpeaking = false ∧
    pageStep p (Turns.openChannel, .realtime .audioCommitted) = some p' ∧
    ¬ ∃ r, p'.history =
      .scheduler (.sent r) :: .scheduler (.called .audioCommitted) :: p.history := by
  have hexec : (exec pageStep (fun _ _ => true) {} rejectedTurn).map
      (fun p => (inProgress p.history, awaited p.history, p.scheduler.userSpeaking,
        (p.call Turns.openChannel .audioCommitted).history.head?)) =
      some (false, true, false, some (.scheduler (.called .audioCommitted))) := by
    decide +kernel
  obtain ⟨p, hp, hfacts⟩ := Option.map_eq_some_iff.mp hexec
  simp only [Prod.mk.injEq] at hfacts
  obtain ⟨hidle, hawaited, hsilent, hlatest⟩ := hfacts
  have hrun := run_of_exec (C := fun _ _ => True) (fun _ _ _ => trivial) _ _ hp
  refine ⟨p, _, hrun, (rejected_iff hidle).mpr hawaited, hidle, hsilent, rfl, ?_⟩
  rintro ⟨r, hsent⟩
  have hhead := congrArg List.head? hsent
  rw [List.head?_cons] at hhead
  exact absurd (hlatest.symm.trans hhead) (by simp)

end HermesRealtime.ProviderErrors

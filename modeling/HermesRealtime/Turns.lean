import HermesRealtime.Scheduler

/-!
Turn taking: when the assistant is asked for a response, and whether each turn the user has
committed is answered.
-/

namespace HermesRealtime.Turns

open Scheduler Runs

variable {s : TaskTurnScheduler} {channel : Channel} {h : List Happened}

/-! ### Readings of the history -/

/-- The call ends a response, or everything. -/
def Ends : Happened → Bool
  | .called .reset => true
  | .called (.responseDone _ _) => true
  | _ => false

/-- The response that has been asked for and has not ended. -/
def outstanding : List Happened → Option ResponseCreate
  | [] => none
  | x :: h =>
    match x with
    | .sent response => some response
    | .called _ => if Ends x then none else outstanding h

/-- A turn has been committed, and since then nothing has been sent. -/
def owed : List Happened → Bool
  | [] => false
  | x :: h =>
    match x with
    | .sent _ => false
    | .called .reset => false
    | .called .audioCommitted => true
    | .called _ => owed h

/-- Each committed turn has been followed by a response that was asked for, or by a reset. -/
def TurnsAnswered (h : List Happened) : Prop :=
  ∀ after before, h = after ++ .called .audioCommitted :: before → .called .reset ∉ after →
    ∃ response, .sent response ∈ after

lemma turnsAnswered_of_owed (howed : owed h = false) : TurnsAnswered h := by
  intro after before hsplit hreset
  induction after generalizing h with
  | nil =>
    rw [hsplit] at howed
    simp [owed] at howed
  | cons x after ih =>
    rw [List.mem_cons, not_or] at hreset
    obtain ⟨hx, hreset⟩ := hreset
    subst hsplit
    cases x with
    | sent response => exact ⟨response, List.mem_cons_self⟩
    | called c =>
      have htail : owed (after ++ .called .audioCommitted :: before) = false := by
        cases c with
        | reset => exact absurd rfl hx
        | audioCommitted => simp [owed] at howed
        | _ => exact howed
      obtain ⟨response, hresponse⟩ := ih htail rfl hreset
      exact ⟨response, List.mem_cons_of_mem _ hresponse⟩

/-! ### A committed turn is answered -/

/-- The user is silent, no commit is awaited, and no response is pending or in progress. -/
def Quiescent (s : TaskTurnScheduler) : Prop :=
  s.userSpeaking = false ∧ s.awaitingCommit = false ∧ s.assistantResponding = false ∧
    s.responseCreatePending = false

/-- `onResponseDone` takes back the request for a response. -/
def clears (s : TaskTurnScheduler) (status : String) (deferContinuation : Bool) : Bool :=
  status ≠ "completed" && !(deferContinuation && s.inFlightEvents.length > 0)

/-- No request is taken back while a turn is owed an answer, unless the user has begun to speak
again since it was committed. -/
def KeepsRequest (w : SchedulerWorld) : SchedulerCall → Prop
  | .responseDone status deferContinuation => clears w.scheduler status deferContinuation →
      owed w.history = false ∨ w.scheduler.audioCommittedSinceSpeechStarted = false
  | _ => True

/-- The channel is ready and does not throw, and no request is taken back. -/
def KeepsTurns (w : SchedulerWorld) (a : Channel × SchedulerCall) : Prop :=
  a.1.ready = true ∧ a.1.throws = false ∧ KeepsRequest w a.2

/-- What the flags say of a turn that is owed an answer. -/
structure Owes (s : TaskTurnScheduler) (h : List Happened) : Prop where
  requested : owed h = true → s.audioCommittedSinceSpeechStarted = true →
    s.responseRequested = true
  speaking : owed h = true → s.audioCommittedSinceSpeechStarted = false →
    s.userSpeaking = true ∨ s.awaitingCommit = true
  committed : s.audioCommittedSinceSpeechStarted = true → s.awaitingCommit = false

lemma putBack_flags (s : TaskTurnScheduler) (status : String) (d : Bool) :
    (s.putBack status d).userSpeaking = s.userSpeaking ∧
    (s.putBack status d).awaitingCommit = s.awaitingCommit ∧
    (s.putBack status d).audioCommittedSinceSpeechStarted = s.audioCommittedSinceSpeechStarted ∧
    (s.putBack status d).assistantResponding = s.assistantResponding ∧
    (s.putBack status d).responseCreatePending = s.responseCreatePending := by
  unfold TaskTurnScheduler.putBack
  split_ifs <;> exact ⟨rfl, rfl, rfl, rfl, rfl⟩

lemma putBack_requested {status : String} {d : Bool} (hclears : clears s status d = false)
    (hrequested : s.responseRequested = true) :
    (s.putBack status d).responseRequested = true := by
  unfold TaskTurnScheduler.putBack
  unfold clears at hclears
  split_ifs with hback hdefer hstatus
  · rfl
  · simp [hdefer, hstatus] at hclears
  · exact hrequested
  · exact hrequested

/-- The flags after a response has ended. -/
lemma prepared_done (s : TaskTurnScheduler) (status : String) (d : Bool) :
    let p := prepared s (.responseDone status d)
    p.userSpeaking = s.userSpeaking ∧ p.awaitingCommit = s.awaitingCommit ∧
      p.audioCommittedSinceSpeechStarted = s.audioCommittedSinceSpeechStarted ∧
      p.assistantResponding = false ∧ p.responseCreatePending = false ∧ p.inFlightEvents = [] := by
  obtain ⟨hspeaking, hawaiting, hcommitted, hresponding, hpending⟩ := putBack_flags
    { s with responseCreatePending := false, assistantResponding := false } status d
  exact ⟨hspeaking, hawaiting, hcommitted, hresponding, hpending, rfl⟩

lemma owes_prepared {w : SchedulerWorld} {c : SchedulerCall} (hc : KeepsRequest w c)
    (ho : Owes w.scheduler w.history) :
    Owes (prepared w.scheduler c) (.called c :: w.history) := by
  cases c with
  | reset => exact ⟨fun h => absurd h (by simp [owed]), fun h => absurd h (by simp [owed]), by
      simp [prepared, TaskTurnScheduler.reset]⟩
  | channelReady => exact ⟨ho.requested, ho.speaking, ho.committed⟩
  | taskEvent event => exact ⟨fun _ _ => rfl, ho.speaking, ho.committed⟩
  | speechStarted =>
    refine ⟨fun _ hcommitted => ?_, fun _ _ => .inl rfl, fun _ => rfl⟩
    simp [prepared, TaskTurnScheduler.onSpeechStarted] at hcommitted
  | speechStopped =>
    refine ⟨ho.requested, fun howed hcommitted => .inr ?_, fun hcommitted => ?_⟩
    · change (!w.scheduler.audioCommittedSinceSpeechStarted) = true
      rw [show w.scheduler.audioCommittedSinceSpeechStarted = false from hcommitted]
      rfl
    · change (!w.scheduler.audioCommittedSinceSpeechStarted) = false
      rw [show w.scheduler.audioCommittedSinceSpeechStarted = true from hcommitted]
      rfl
  | audioCommitted =>
    exact ⟨fun _ _ => rfl, fun _ hcommitted => absurd hcommitted (by simp [prepared]), fun _ => rfl⟩
  | responseCreated => exact ⟨ho.requested, ho.speaking, ho.committed⟩
  | responseDone status d =>
    obtain ⟨hspeaking, hawaiting, hcommitted, -⟩ := prepared_done w.scheduler status d
    refine ⟨fun howed hflag => ?_, ?_, ?_⟩
    · rw [hcommitted] at hflag
      have hkeeps : clears w.scheduler status d = false := by
        by_contra hclears
        rcases hc (by simpa using hclears) with hnone | hnone
        · exact absurd (hnone.symm.trans howed) Bool.false_ne_true
        · simp [hflag] at hnone
      exact putBack_requested (s := { w.scheduler with
        responseCreatePending := false, assistantResponding := false }) hkeeps
        (ho.requested howed hflag)
    · rw [hspeaking, hawaiting, hcommitted]
      exact ho.speaking
    · rw [hawaiting, hcommitted]
      exact ho.committed
  | requestResponse => exact ⟨fun _ _ => rfl, ho.speaking, ho.committed⟩
  | maybeCreateResponse => exact ⟨ho.requested, ho.speaking, ho.committed⟩

lemma owes_run {C : SchedulerWorld → Channel × SchedulerCall → Prop} {w : SchedulerWorld}
    {as : List (Channel × SchedulerCall)} (hC : ∀ w channel c, C w (channel, c) → KeepsRequest w c)
    (hrun : Run schedulerStep C {} as w) : Owes w.scheduler w.history := by
  refine scheduler_invariant hrun ⟨fun h => absurd h (by simp [owed]), by simp [owed], by simp⟩
    (fun w channel c hc ho => owes_prepared (hC w channel c hc) ho) ?_ ?_
  · exact fun s history channel _ ho => ⟨fun _ _ => rfl, ho.speaking, ho.committed⟩
  · intro s history channel _ ho
    refine ⟨fun h => absurd h ?_, fun h => absurd h ?_, ho.committed⟩ <;> simp [owed]

/-- A response that ends with its continuation deferred: the page asks for the next one itself. -/
def Defers : SchedulerCall → Bool
  | .responseDone _ deferContinuation => deferContinuation
  | _ => false

/-- **A committed turn is answered**: when the scheduler is quiescent after a call that does not
defer, each turn that has been committed has been followed by a response that was asked for, in a
run in which no request is taken back. -/
theorem turns_answered {w : SchedulerWorld} {as : List (Channel × SchedulerCall)}
    {c : SchedulerCall}
    (hrun : Run schedulerStep KeepsTurns {} (as ++ [(channel, c)]) w) (hdefers : Defers c = false)
    (hquiescent : Quiescent w.scheduler) : TurnsAnswered w.history := by
  obtain ⟨w', -, ⟨hready, hthrows, -⟩, hs⟩ := hrun.of_snoc
  have howes := owes_run (fun w channel c hc => hc.2.2) hrun
  obtain ⟨hspeaking, hawaiting, hresponding, hpending⟩ := hquiescent
  refine turnsAnswered_of_owed (Bool.eq_false_iff.mpr fun howed => ?_)
  have hcommitted : w.scheduler.audioCommittedSinceSpeechStarted = true := by
    by_contra hnot
    rcases howes.speaking howed (by simpa using hnot) with h | h
    · simp [hspeaking] at h
    · simp [hawaiting] at h
  have hrequested := howes.requested howed hcommitted
  have hmay : w.scheduler.mayCreate channel :=
    mayCreate_iff.mpr ⟨hrequested, hspeaking, hawaiting, hresponding, hpending, hready⟩
  cases called_of_step hs with
  | kept hkept =>
    have htries : tries c = false := Bool.eq_false_iff.mpr fun ht => hkept ht hmay
    cases c with
    | reset => simp [owed] at howed
    | speechStarted => simp [prepared, TaskTurnScheduler.onSpeechStarted] at hspeaking
    | responseCreated => simp [prepared, TaskTurnScheduler.onResponseCreated] at hresponding
    | responseDone status d => simp [tries, show d = false from hdefers] at htries
    | _ => simp [tries] at htries
  | failed _ _ hthrown => exact absurd (hthrows.symm.trans hthrown) Bool.false_ne_true
  | sent => simp [owed] at howed

lemma not_turnsAnswered (howed : owed h = true) : ¬ TurnsAnswered h := by
  intro hanswered
  obtain ⟨after, before, hsplit, hreset, hsent⟩ : ∃ after before,
      h = after ++ .called .audioCommitted :: before ∧ .called .reset ∉ after ∧
        ∀ response, .sent response ∉ after := by
    clear hanswered
    induction h with
    | nil => simp [owed] at howed
    | cons x h ih =>
      have hcons : owed h = true → (x ≠ .called .reset ∧ ∀ response, x ≠ .sent response) →
          ∃ after before, x :: h = after ++ .called .audioCommitted :: before ∧
            .called .reset ∉ after ∧ ∀ response, .sent response ∉ after := by
        rintro howed ⟨hreset, hsent⟩
        obtain ⟨after, before, rfl, hreset', hsent'⟩ := ih howed
        refine ⟨x :: after, before, rfl, ?_, fun response => ?_⟩
        · simpa using ⟨hreset.symm, hreset'⟩
        · simpa using ⟨(hsent response).symm, hsent' response⟩
      cases x with
      | sent response => simp [owed] at howed
      | called c =>
        cases c with
        | reset => simp [owed] at howed
        | audioCommitted => exact ⟨[], h, rfl, by simp, by simp⟩
        | _ => exact hcons howed (by simp)
  obtain ⟨response, hresponse⟩ := hanswered after before hsplit hreset
  exact hsent response hresponse

/-- **A committed turn is dropped** when the request is taken back and the user is silent. -/
theorem turn_dropped {C : SchedulerWorld → Channel × SchedulerCall → Prop} {w w' : SchedulerWorld}
    {as : List (Channel × SchedulerCall)} {status : String}
    (hC : ∀ w channel c, C w (channel, c) → KeepsRequest w c) (hrun : Run schedulerStep C {} as w)
    (howed : owed w.history = true) (hsilent : w.scheduler.userSpeaking = false)
    (hcommitted : w.scheduler.audioCommittedSinceSpeechStarted = true)
    (hclears : clears w.scheduler status false = true)
    (hs : schedulerStep w (channel, .responseDone status false) = some w') :
    Quiescent w'.scheduler ∧ ¬ TurnsAnswered w'.history := by
  have howes := owes_run hC hrun
  obtain ⟨hspeaking, hawaiting, -, hresponding, hpending, -⟩ :=
    prepared_done w.scheduler status false
  have hstatus : status ≠ "completed" := by simpa [clears] using hclears
  have hrequested :
      (prepared w.scheduler (.responseDone status false)).responseRequested = false := by
    simp [prepared, TaskTurnScheduler.putBack, hstatus]
  have hmay : ¬ (prepared w.scheduler (.responseDone status false)).mayCreate channel := by
    simp [mayCreate_iff, hrequested]
  cases called_of_step hs with
  | kept =>
    refine ⟨⟨hspeaking.trans hsilent, hawaiting.trans (howes.committed hcommitted), hresponding,
      hpending⟩, not_turnsAnswered howed⟩
  | failed _ hmay' => exact absurd hmay' hmay
  | sent _ hmay' => exact absurd hmay' hmay

/-! ### Sample runs -/

def openChannel : Channel := ⟨true, false⟩

/-- The user speaks, and the response is completed. -/
def spoken : List (Channel × SchedulerCall) :=
  ([.speechStarted, .speechStopped, .audioCommitted, .responseCreated] : List SchedulerCall).map
    fun c => (openChannel, c)

theorem turns_answered_spoken : ∃ w, Run schedulerStep KeepsTurns {}
    (spoken ++ [(openChannel, .responseDone "completed" false)]) w ∧ Quiescent w.scheduler ∧
    TurnsAnswered w.history := by
  have hexec : (exec schedulerStep (fun w a => a.1.ready && !a.1.throws &&
      match a.2 with
      | .responseDone status d => !clears w.scheduler status d
      | _ => true) {} (spoken ++ [(openChannel, .responseDone "completed" false)])).map
        SchedulerWorld.scheduler = some { audioCommittedSinceSpeechStarted := true } := by
    decide +kernel
  obtain ⟨w, hw, hscheduler⟩ := Option.map_eq_some_iff.mp hexec
  have hrun : Run schedulerStep KeepsTurns {}
      (spoken ++ [(openChannel, .responseDone "completed" false)]) w := by
    refine run_of_exec (fun w a hpass => ?_) _ _ hw
    obtain ⟨channel, c⟩ := a
    simp only [Bool.and_eq_true, Bool.not_eq_true'] at hpass
    refine ⟨hpass.1.1, hpass.1.2, ?_⟩
    cases c with
    | responseDone status d =>
      intro hclears
      simp [hclears] at hpass
    | _ => trivial
  have hquiescent : Quiescent w.scheduler := by
    rw [hscheduler]
    exact ⟨rfl, rfl, rfl, rfl⟩
  exact ⟨w, hrun, hquiescent, turns_answered hrun rfl hquiescent⟩

/-- The user interrupts a response; its cancellation is reported after the commit. -/
def interrupted : List (Channel × SchedulerCall) :=
  ([.requestResponse, .responseCreated, .speechStarted, .speechStopped, .audioCommitted,
    .responseDone "cancelled" false] : List SchedulerCall).map fun c => (openChannel, c)

theorem turns_answered_interrupted : ∃ w, Run schedulerStep
    (fun _ a => a.1.ready = true ∧ a.1.throws = false) {} interrupted w ∧
    Quiescent w.scheduler ∧ ¬ TurnsAnswered w.history := by
  have hexec : (exec schedulerStep (fun _ a => a.1.ready && !a.1.throws) {} interrupted).map
      (fun w => (w.scheduler, owed w.history)) = some ({ audioCommittedSinceSpeechStarted := true },
        true) := by
    decide +kernel
  obtain ⟨w, hw, hfacts⟩ := Option.map_eq_some_iff.mp hexec
  simp only [Prod.mk.injEq] at hfacts
  obtain ⟨hscheduler, howed⟩ := hfacts
  have hrun := run_of_exec (C := fun _ a => a.1.ready = true ∧ a.1.throws = false)
    (fun _ _ => by simp) _ _ hw
  exact ⟨w, hrun, by rw [hscheduler]; exact ⟨rfl, rfl, rfl, rfl⟩, not_turnsAnswered howed⟩

/-! ### One response at a time, and not over the user -/

/-- Between two responses that have been asked for, one has ended or everything was reset. -/
def OneAtATime (h : List Happened) : Prop :=
  ∀ after mid before response response',
    h = after ++ .sent response' :: mid ++ .sent response :: before → ∃ x ∈ mid, Ends x = true

/-- The user has not begun to speak since the last reset, or has stopped since then and what was
said has been committed. -/
def TurnOver (h : List Happened) : Prop :=
  ∀ mid before, h = mid ++ .called .speechStarted :: before → .called .reset ∉ mid →
    .called .speechStarted ∉ mid → .called .speechStopped ∈ mid ∧ .called .audioCommitted ∈ mid

/-- No response is asked for over the user. -/
def NotOverUser (h : List Happened) : Prop :=
  ∀ after before response, h = after ++ .sent response :: before → TurnOver before

/-- What the flags say of the latest speech and of the response that has been asked for. -/
structure TakesTurns (s : TaskTurnScheduler) (h : List Happened) : Prop where
  responding : (outstanding h).isSome →
    s.responseCreatePending = true ∨ s.assistantResponding = true
  stopped : ∀ mid before, h = mid ++ .called .speechStarted :: before → .called .reset ∉ mid →
    .called .speechStarted ∉ mid → .called .speechStopped ∈ mid ∨ s.userSpeaking = true
  committed : ∀ mid before, h = mid ++ .called .speechStarted :: before → .called .reset ∉ mid →
    .called .speechStarted ∉ mid → .called .audioCommitted ∈ mid ∨
      s.audioCommittedSinceSpeechStarted = false ∧
        (s.userSpeaking = true ∨ s.awaitingCommit = true)
  one : ∀ after before response, h = after ++ .sent response :: before →
    outstanding before = none ∧ TurnOver before

/-- A split of a history that has grown. -/
lemma split_cons {x y : Happened} {after before : List Happened}
    (hsplit : x :: h = after ++ y :: before) :
    (after = [] ∧ x = y ∧ h = before) ∨
      ∃ after', after = x :: after' ∧ h = after' ++ y :: before := by
  cases after with
  | nil =>
    obtain ⟨rfl, rfl⟩ := List.cons.inj hsplit
    exact .inl ⟨rfl, rfl, rfl⟩
  | cons z after =>
    obtain ⟨rfl, rfl⟩ := List.cons.inj hsplit
    exact .inr ⟨after, rfl, rfl⟩

lemma outstanding_ends {mid before : List Happened} {response : ResponseCreate}
    (hnone : outstanding (mid ++ .sent response :: before) = none) : ∃ x ∈ mid, Ends x = true := by
  induction mid with
  | nil => simp [outstanding] at hnone
  | cons x mid ih =>
    cases hends : Ends x with
    | true => exact ⟨x, List.mem_cons_self, hends⟩
    | false =>
      have htail : outstanding (mid ++ .sent response :: before) = none := by
        cases x with
        | sent r => simp [outstanding] at hnone
        | called c => simpa [outstanding, hends] using hnone
      obtain ⟨y, hy, hends'⟩ := ih htail
      exact ⟨y, List.mem_cons_of_mem x hy, hends'⟩

/-- A call other than the start of speech. -/
lemma TakesTurns.called {p : TaskTurnScheduler} {c : SchedulerCall} (ht : TakesTurns s h)
    (hc : c ≠ .speechStarted)
    (hresponding : (outstanding (.called c :: h)).isSome →
      p.responseCreatePending = true ∨ p.assistantResponding = true)
    (hstopped : c = .reset ∨ c = .speechStopped ∨ (s.userSpeaking = true → p.userSpeaking = true))
    (hcommitted : c = .reset ∨ c = .audioCommitted ∨
      (s.audioCommittedSinceSpeechStarted = false ∧
        (s.userSpeaking = true ∨ s.awaitingCommit = true) →
        p.audioCommittedSinceSpeechStarted = false ∧
        (p.userSpeaking = true ∨ p.awaitingCommit = true))) :
    TakesTurns p (.called c :: h) := by
  refine ⟨hresponding, ?_, ?_, ?_⟩
  · intro mid before hsplit hreset hstarted
    rcases split_cons hsplit with ⟨rfl, heq, -⟩ | ⟨mid, rfl, htail⟩
    · exact absurd (Happened.called.inj heq) hc
    rw [List.mem_cons, not_or] at hreset hstarted
    rcases ht.stopped mid before htail hreset.2 hstarted.2 with hmem | hspeaking
    · exact .inl (List.mem_cons_of_mem _ hmem)
    · rcases hstopped with rfl | rfl | hkeep
      · exact absurd rfl hreset.1
      · exact .inl List.mem_cons_self
      · exact .inr (hkeep hspeaking)
  · intro mid before hsplit hreset hstarted
    rcases split_cons hsplit with ⟨rfl, heq, -⟩ | ⟨mid, rfl, htail⟩
    · exact absurd (Happened.called.inj heq) hc
    rw [List.mem_cons, not_or] at hreset hstarted
    rcases ht.committed mid before htail hreset.2 hstarted.2 with hmem | hopen
    · exact .inl (List.mem_cons_of_mem _ hmem)
    · rcases hcommitted with rfl | rfl | hkeep
      · exact absurd rfl hreset.1
      · exact .inl List.mem_cons_self
      · exact .inr (hkeep hopen)
  · intro after before response hsplit
    rcases split_cons hsplit with ⟨-, heq, -⟩ | ⟨after, -, htail⟩
    · cases heq
    · exact ht.one after before response htail

lemma takesTurns_prepared {w : SchedulerWorld} (c : SchedulerCall)
    (ht : TakesTurns w.scheduler w.history) :
    TakesTurns (prepared w.scheduler c) (.called c :: w.history) := by
  cases c with
  | reset => exact ht.called (by simp) (by simp [outstanding, Ends]) (.inl rfl) (.inl rfl)
  | channelReady =>
    exact ht.called (by simp) ht.responding (.inr (.inr id)) (.inr (.inr id))
  | taskEvent event =>
    exact ht.called (by simp) ht.responding (.inr (.inr id)) (.inr (.inr id))
  | speechStarted =>
    refine ⟨ht.responding, ?_, ?_, ?_⟩
    · exact fun mid before hsplit hreset hstarted => .inr rfl
    · exact fun mid before hsplit hreset hstarted => .inr ⟨rfl, .inl rfl⟩
    · intro after before response hsplit
      rcases split_cons hsplit with ⟨-, heq, -⟩ | ⟨after, -, htail⟩
      · cases heq
      · exact ht.one after before response htail
  | speechStopped =>
    refine ht.called (by simp) ht.responding (.inr (.inl rfl)) (.inr (.inr ?_))
    rintro ⟨hcommitted, -⟩
    exact ⟨hcommitted, .inr (by simp [prepared, hcommitted])⟩
  | audioCommitted =>
    exact ht.called (by simp) ht.responding (.inr (.inr id)) (.inr (.inl rfl))
  | responseCreated =>
    exact ht.called (by simp) (fun _ => .inr rfl) (.inr (.inr id)) (.inr (.inr id))
  | responseDone status d =>
    obtain ⟨hspeaking, hawaiting, hcommitted, -⟩ := prepared_done w.scheduler status d
    refine ht.called (by simp) (by simp [outstanding, Ends]) (.inr (.inr ?_)) (.inr (.inr ?_))
    · rw [hspeaking]
      exact id
    · rw [hspeaking, hawaiting, hcommitted]
      exact id
  | requestResponse =>
    exact ht.called (by simp) ht.responding (.inr (.inr id)) (.inr (.inr id))
  | maybeCreateResponse =>
    exact ht.called (by simp) ht.responding (.inr (.inr id)) (.inr (.inr id))

lemma TakesTurns.none_outstanding (ht : TakesTurns s h) (hmay : s.mayCreate channel) :
    outstanding h = none := by
  obtain ⟨-, -, -, hresponding, hpending, -⟩ := mayCreate_iff.mp hmay
  by_contra hsome
  have := ht.responding (Option.isSome_iff_ne_none.mpr hsome)
  simp [hresponding, hpending] at this

/-- A response is asked for when none is outstanding and the user's turn is over. -/
lemma takesTurns_created (hmay : s.mayCreate channel) (ht : TakesTurns s h) :
    TakesTurns (created s) (.sent ⟨s.pendingEvents⟩ :: h) := by
  obtain ⟨-, hspeaking, hawaiting, -⟩ := mayCreate_iff.mp hmay
  have hnone := ht.none_outstanding hmay
  have hover : TurnOver h := by
    intro mid before hsplit hreset hstarted
    refine ⟨(ht.stopped mid before hsplit hreset hstarted).resolve_right (by simp [hspeaking]), ?_⟩
    exact (ht.committed mid before hsplit hreset hstarted).resolve_right
      (by simp [hspeaking, hawaiting])
  refine ⟨fun _ => .inl rfl, ?_, ?_, ?_⟩
  · intro mid before hsplit hreset hstarted
    rcases split_cons hsplit with ⟨-, heq, -⟩ | ⟨mid, rfl, htail⟩
    · cases heq
    · rw [List.mem_cons, not_or] at hreset hstarted
      exact (ht.stopped mid before htail hreset.2 hstarted.2).imp_left (List.mem_cons_of_mem _)
  · intro mid before hsplit hreset hstarted
    rcases split_cons hsplit with ⟨-, heq, -⟩ | ⟨mid, rfl, htail⟩
    · cases heq
    · rw [List.mem_cons, not_or] at hreset hstarted
      exact (ht.committed mid before htail hreset.2 hstarted.2).imp_left (List.mem_cons_of_mem _)
  · intro after before response hsplit
    rcases split_cons hsplit with ⟨-, -, rfl⟩ | ⟨after, -, htail⟩
    · exact ⟨hnone, hover⟩
    · exact ht.one after before response htail

lemma takesTurns_restored (hmay : s.mayCreate channel) (ht : TakesTurns s h) :
    TakesTurns (restored s) h :=
  ⟨fun hsome => absurd (ht.none_outstanding hmay) (Option.isSome_iff_ne_none.mp hsome), ht.stopped,
    ht.committed, ht.one⟩

lemma takesTurns_start : TakesTurns {} [] := by
  refine ⟨?_, ?_, ?_, ?_⟩ <;> simp [outstanding]

/-- **The assistant takes turns**: it is not asked for a response while one is outstanding, and not
while the user speaks or what was said has not been committed, whatever the channel does. -/
theorem takes_turns {w : SchedulerWorld} {as : List (Channel × SchedulerCall)}
    (hrun : Run schedulerStep (fun _ _ => True) {} as w) :
    OneAtATime w.history ∧ NotOverUser w.history := by
  have ht : TakesTurns w.scheduler w.history :=
    scheduler_invariant hrun takesTurns_start (fun w channel c _ ht => takesTurns_prepared c ht)
      (fun s history channel hmay ht => takesTurns_restored hmay ht)
      (fun s history channel hmay ht => takesTurns_created hmay ht)
  refine ⟨fun after mid before response response' hsplit => ?_,
    fun after before response hsplit => ?_⟩
  · rw [List.append_assoc, List.cons_append] at hsplit
    exact outstanding_ends (ht.one after _ response' hsplit).1
  · exact (ht.one after before response hsplit).2

/-- A task event comes while the user speaks, and once more while the response is in progress. -/
def twoAnnouncements : List (Channel × SchedulerCall) :=
  let event : TaskEvent := ⟨"t_voice01", 17, "completed", "done", none, false, none⟩
  ([.speechStarted, .taskEvent event, .speechStopped, .audioCommitted, .responseCreated,
    .taskEvent { event with eventId := 18 }, .responseDone "completed" false] :
    List SchedulerCall).map fun c => (openChannel, c)

theorem takes_turns_twoAnnouncements :
    ∃ w, Run schedulerStep (fun _ _ => True) {} twoAnnouncements w ∧
    w.history.length = 9 ∧ OneAtATime w.history ∧ NotOverUser w.history := by
  have hexec : (exec schedulerStep (fun _ _ => true) {} twoAnnouncements).map
      (fun w => w.history.length) = some 9 := by
    decide +kernel
  obtain ⟨w, hw, hlength⟩ := Option.map_eq_some_iff.mp hexec
  have hrun := run_of_exec (C := fun _ _ => True) (fun _ _ _ => trivial) _ _ hw
  exact ⟨w, hrun, hlength, takes_turns hrun⟩

end HermesRealtime.Turns

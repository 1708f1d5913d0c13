import HermesRealtime.TaskLanes

/-!
What stands behind every call of `permission_client.resolve`, and that one block is resolved
at most once.

The lock makes the checks of a call and its resolution one critical section, in which the
pending block of the task cannot change. A block is made pending once at most, since it is so
only when its event is read and the cursor never goes back; a resolution that succeeds takes
it out for good.
-/

namespace HermesRealtime.Permissions

open Values Text Protocol TaskEvents TaskRuns TaskLanes Runs

/-! ### The critical section -/

/-- The lock changes hands. -/
def Passes : CallObservation → Prop
  | .entered _ _ => True
  | .left _ => True
  | _ => False

/-- The `n`-th call entered its critical section when it saw `k` in the table, and has been in
it since; `mid` is what was observed meanwhile. -/
def Entered (history : List CallObservation) (n : ℕ) (k : TrackedTask)
    (mid : List CallObservation) : Prop :=
  (∃ pre, history = pre ++ .entered n k :: mid) ∧ ∀ o ∈ mid, ¬ Passes o

/-- What the call has read so far. -/
def SeenAt (n : ℕ) (args : PermissionArgs) (k : TrackedTask) (mid : List CallObservation) :
    CallPoint → Prop
  | .waiting => True
  | .checking tracked => tracked = k
  | .checked tracked stillBlocked =>
    tracked = k ∧ .blockSeen n k.dbPath args.taskId args.blockEventId stillBlocked ∈ mid
  | .resolving => .blockSeen n k.dbPath args.taskId args.blockEventId true ∈ mid

/-- What holds while a call is in its critical section. -/
structure InSection (w : TaskWorld) (n : ℕ) (call : PermissionCall) : Prop where
  lock : w.coordinator.lock = some n
  pending : w.coordinator.pendingBlocks (pendingKey call.args) = some call.args.blockEventId
  entry : ∃ k mid, Entered w.callHistory n k mid ∧
    (k.taskId = call.args.taskId ∧ k.sessionId = call.args.sessionId) ∧
    w.registered call.args.taskId = some ⟨call.args.sessionId, k.dbPath⟩ ∧
    SeenAt n call.args k mid call.point

structure Calls (P : Platform) (w : TaskWorld) : Prop where
  args : ∀ n call, w.calls n = some call → checkArgs P call.args = .ok call.normalizedResponse
  inside : ∀ n call, w.calls n = some call → call.point ≠ .waiting → InSection w n call

lemma Entered.snoc {history : List CallObservation} {n : ℕ} {k : TrackedTask}
    {mid : List CallObservation} (h : Entered history n k mid) {o : CallObservation}
    (ho : ¬ Passes o) : Entered (history ++ [o]) n k (mid ++ [o]) := by
  obtain ⟨⟨pre, rfl⟩, hmid⟩ := h
  refine ⟨⟨pre, by simp⟩, fun o' ho' => ?_⟩
  rcases List.mem_append.mp ho' with h' | h'
  · exact hmid o' h'
  · obtain rfl := List.mem_singleton.mp h'
    exact ho

lemma SeenAt.snoc {n : ℕ} {args : PermissionArgs} {k : TrackedTask} {mid : List CallObservation}
    {point : CallPoint} (h : SeenAt n args k mid point) (o : CallObservation) :
    SeenAt n args k (mid ++ [o]) point := by
  cases point with
  | waiting => trivial
  | checking tracked => exact h
  | checked tracked stillBlocked => exact ⟨h.1, by simp [h.2]⟩
  | resolving => exact List.mem_append_left _ h

/-- A call stays in its section when the lock, its pending block and the registration stay,
and the history grows by something that does not pass the lock on. -/
lemma InSection.of_eq {w w' : TaskWorld} {n : ℕ} {call : PermissionCall}
    (h : InSection w n call) (hlock : w'.coordinator.lock = w.coordinator.lock)
    (hpending : w'.coordinator.pendingBlocks (pendingKey call.args) =
      w.coordinator.pendingBlocks (pendingKey call.args))
    (hregistered : ∀ r, w.registered call.args.taskId = some r →
      w'.registered call.args.taskId = some r)
    (hhistory : w'.callHistory = w.callHistory ∨
      ∃ o, ¬ Passes o ∧ w'.callHistory = w.callHistory ++ [o]) :
    InSection w' n call := by
  obtain ⟨k, mid, hentered, htask, hr, hseen⟩ := h.entry
  refine ⟨hlock.trans h.lock, hpending.trans h.pending, ?_⟩
  rcases hhistory with heq | ⟨o, ho, heq⟩
  · exact ⟨k, mid, heq ▸ hentered, htask, hregistered _ hr, hseen⟩
  · exact ⟨k, mid ++ [o], heq ▸ hentered.snoc ho, htask, hregistered _ hr, hseen.snoc o⟩

/-! ### What a call's checks establish -/

lemma checkArgs_ok {P : Platform} {args : PermissionArgs} {response : String}
    (h : checkArgs P args = .ok response) :
    (args.decision = "approve_once" ∨ args.decision = "deny") ∧ ¬ Blank response ∧
      response.toList.length ≤ 500 := by
  have hlength := boundedText_length P args.response 500
  have hnotBlank := @boundedText_not_blank P args.response 500
  unfold checkArgs at h
  generalize boundedText P args.response 500 = bounded at h hlength hnotBlank
  split_ifs at h with hdecision hblank
  obtain rfl : bounded = response := Except.ok.inj h
  refine ⟨?_, hnotBlank hblank, hlength⟩
  by_contra hno
  exact hdecision (not_or.mp hno)

lemma checkOwner_ok {c : TaskEventCoordinator} {sessionIsActive : String → Bool}
    {args : PermissionArgs} {k : TrackedTask} (h : checkOwner c sessionIsActive args = .ok k) :
    c.tracked args.taskId = some k ∧ k.sessionId = args.sessionId ∧
      c.pendingBlocks (pendingKey args) = some args.blockEventId := by
  unfold checkOwner at h
  rcases hk : c.tracked args.taskId with _ | k'
  · simp [hk] at h
  rcases hp : c.pendingBlocks (args.sessionId, args.taskId) with _ | pending
  · simp only [hk, hp] at h
    split_ifs at h
  · simp only [hk, hp] at h
    split_ifs at h with hsession hactive hstale
    cases h
    exact ⟨rfl, not_not.mp hsession, by simpa [pendingKey, hp] using hstale⟩

/-! ### The sections are kept -/

lemma pollChange_block {P : Platform} {view : PollView} {k : TrackedTask} {point : PollPoint}
    {action : PollAction} {e : PollEffect} (h : PollChange P view k point action e) :
    e.block = none ∨ view.lockFree = true := by
  cases h <;> simp_all [goOn, raised, finish]

lemma calls_start (P : Platform) (boards : String → Board) : Calls P (start boards) :=
  ⟨by simp [start], by simp [start]⟩

/-- A step of the world that is no step of a call keeps a call in its section. -/
lemma InSection.of_change {P : Platform} {w w' : TaskWorld} {a : Action} {n : ℕ}
    {call : PermissionCall} (h : InSection w n call) (hc : Change P w a w')
    (ha : ∀ m action, a ≠ .call m action) : InSection w' n call := by
  cases hc with
  | opened | ended | wrote | unregistered | started | calling =>
    exact h.of_eq rfl rfl (fun r hr => hr) (.inl rfl)
  | registered s t title slug path hactive hfree hnew =>
    exact h.of_eq rfl rfl
      (fun r hr => (Change.registered s t title slug path hactive hfree hnew).registered_mono hr)
      (.inl rfl)
  | refusedArgs m args error =>
    exact h.of_eq rfl rfl (fun r hr => hr) (.inr ⟨_, id, rfl⟩)
  | polled t k point action e hk hp hs =>
    refine h.of_eq rfl ?_ (fun r hr => hr) (.inl rfl)
    have hlock : (w.view k).lockFree = false := by simp [TaskWorld.view, h.lock]
    rcases pollChange_block hs with hnone | hfree
    · simp [TaskWorld.afterPoll, hnone]
    · simp [hlock] at hfree
  | called m call action e hm hs => exact absurd rfl (ha m action)

/-- A step of a call from inside its section keeps it there, as long as the call goes on. -/
lemma InSection.of_callChange {w : TaskWorld} {n : ℕ} {call call' : PermissionCall}
    {action : CallAction} {e : CallEffect}
    (h : InSection w n call) (hwaiting : call.point ≠ .waiting)
    (hs : CallChange w.coordinator w.boards w.sessionIsActive n call call.point action e)
    (hcall : e.call = some call') : InSection (w.afterCall n e) n call' := by
  obtain ⟨k, mid, hentered, htask, hr, hseen⟩ := h.entry
  generalize hpoint : call.point = point at hs hseen hwaiting
  cases hs with
  | turnedAway | entered => exact absurd rfl hwaiting
  | checkRaised | stale | sessionOver | succeeded | failed => cases hcall
  | seen tracked isCurrent hread =>
    cases hcall
    obtain rfl : tracked = k := hseen
    exact ⟨h.lock, h.pending, tracked, _, hentered.snoc id, htask, hr, rfl, by simp⟩
  | invoked tracked hactive =>
    cases hcall
    exact ⟨h.lock, h.pending, k, _, hentered.snoc id, htask, hr, List.mem_append_left _ hseen.2⟩

lemma Calls.step {P : Platform} {w w' : TaskWorld} {a : Action} (hw : Calls P w) (ht : Tables w)
    (h : Change P w a w') : Calls P w' := by
  by_cases ha : ∃ m action, a = .call m action
  · obtain ⟨m, action, rfl⟩ := ha
    cases h with
    | called m call action e hm hs =>
      refine ⟨fun n call' hn => ?_, fun n call' hn hwaiting => ?_⟩
      · by_cases hnm : n = m
        · subst hnm
          have hargs := hw.args n call hm
          have hcall : e.call = some call' := by simpa [TaskWorld.afterCall] using hn
          generalize call.point = point at hs
          cases hs <;> cases hcall <;> exact hargs
        · exact hw.args n call' (by simpa [TaskWorld.afterCall, Function.update_of_ne hnm] using hn)
      · by_cases hnm : n = m
        · subst hnm
          have hcall : e.call = some call' := by simpa [TaskWorld.afterCall] using hn
          by_cases hfirst : call.point = .waiting
          · rw [hfirst] at hs
            cases hs with
            | turnedAway error hlock howner => cases hcall
            | entered tracked hlock howner =>
              cases hcall
              obtain ⟨hk, hsession, hpending⟩ := checkOwner_ok howner
              obtain ⟨htask, hr⟩ := ht.tracked _ _ hk
              exact ⟨rfl, hpending, tracked, [], ⟨⟨w.callHistory, rfl⟩, by simp⟩,
                ⟨htask, hsession⟩, hsession ▸ hr, rfl⟩
          · exact (hw.inside n call hm hfirst).of_callChange hfirst hs hcall
        · -- another call inside its section keeps this one from moving
          have hn' : w.calls n = some call' := by
            simpa [TaskWorld.afterCall, Function.update_of_ne hnm] using hn
          have hlock := (hw.inside n call' hn' hwaiting).lock
          by_cases hfirst : call.point = .waiting
          · rw [hfirst] at hs
            cases hs <;> simp_all
          · have := (hw.inside m call hm hfirst).lock
            simp_all
  · have ha' : ∀ m action, a ≠ .call m action := fun m action heq => ha ⟨m, action, heq⟩
    have hcalls : ∀ n call, w'.calls n = some call → call.point ≠ .waiting →
        w.calls n = some call := by
      intro n call hn hwaiting
      cases h with
      | calling m args normalizedResponse hm hargs =>
        by_cases hnm : n = m
        · subst hnm
          obtain rfl : _ = call := by simpa using hn
          exact absurd rfl hwaiting
        · simpa [Function.update_of_ne hnm] using hn
      | called m call action e hm hs => exact absurd rfl (ha' m action)
      | opened | ended | wrote | unregistered | registered | started | polled | refusedArgs =>
          exact hn
    refine ⟨fun n call hn => ?_, fun n call hn hwaiting =>
      (hw.inside n call (hcalls n call hn hwaiting) hwaiting).of_change h ha'⟩
    cases h with
    | calling m args normalizedResponse hm hargs =>
      by_cases hnm : n = m
      · subst hnm
        obtain rfl : _ = call := by simpa using hn
        exact hargs
      · exact hw.args n call (by simpa [Function.update_of_ne hnm] using hn)
    | called m call action e hm hs => exact absurd rfl (ha' m action)
    | opened | ended | wrote | unregistered | registered | started | polled | refusedArgs =>
      exact hw.args n call hn

/-! ### No block is made pending twice -/

/-- No event after this one has been made pending. -/
def blockedUpTo (k : TrackedTask) : Option PollPoint → ℤ
  | some (.checking _ _) => k.cursor - 1
  | some (.checked _ _ _) => k.cursor - 1
  | some (.notifying _ _ _ _) => k.cursor - 1
  | some (.locking _ _) => k.cursor - 1
  | _ => k.cursor

/-- A poll makes nothing pending but the event after all that were. -/
lemma pollChange_blocked {P : Platform} {view : PollView} {k k' : TrackedTask}
    {point : PollPoint} {action : PollAction} {e : PollEffect}
    (h : PollChange P view k point action e) (hpoint : PointOk k.taskId k point)
    (hk : e.tracked = some k') :
    blockedUpTo k (some point) ≤ blockedUpTo k' e.point ∧
      ∀ id, e.block = some id →
        blockedUpTo k (some point) < id ∧ id ≤ blockedUpTo k' e.point := by
  cases h with
  | skipped event rest | detailRaised event rest | toCheck event rest | toNotify event rest =>
    cases hk
    have hlt := (Ahead.tail hpoint).1
    simp only [blockedUpTo, goOn, raised, reduceCtorEq, false_implies, implies_true, and_true]
    omega
  | locked event rest hlock =>
    cases hk
    have hcursor : event.eventId = k.cursor := hpoint.1
    simp only [blockedUpTo, Option.some.injEq]
    refine ⟨by omega, fun id hid => ?_⟩
    omega
  | dropped | flushed | acceptedLast | refused =>
    simp only [finish] at hk
    split_ifs at hk
    cases hk
    simp [blockedUpTo, finish]
  | readRaised | parseRaised | readIn | drained | checkRaised | seen | stale | current
  | currentRaised | notifyRaised | shown | buildRaised | spoken | asked | handing | acceptedNext
  | publishRaised =>
    cases hk
    simp only [blockedUpTo, goOn, raised, reduceCtorEq, false_implies, implies_true, and_true]
    omega

/-! ### No block is resolved twice -/

def isSuccess (t : String) (id : ℤ) : CallObservation → Bool
  | .succeeded t' id' => t' = t && id' = id
  | _ => false

/-- How often `permission_client.resolve` has succeeded for a block of a task. -/
def successes (history : List CallObservation) (t : String) (id : ℤ) : ℕ :=
  history.countP (isSuccess t id)

/-- The block has been made pending: it still is, or it has been resolved. -/
def Used (w : TaskWorld) (t : String) (id : ℤ) : Prop :=
  (∃ s, w.coordinator.pendingBlocks (s, t) = some id) ∨ 1 ≤ successes w.callHistory t id

/-- A block that has been made pending lies behind its task's cursor, and is resolved at most
once, after which it is not pending. -/
structure Once (w : TaskWorld) : Prop where
  owner : ∀ s t id, w.coordinator.pendingBlocks (s, t) = some id →
    ∃ path, w.registered t = some ⟨s, path⟩
  registered : ∀ t id, Used w t id → w.registered t ≠ none
  behind : ∀ t id k, Used w t id → w.coordinator.tracked t = some k →
    id ≤ blockedUpTo k (w.polls t)
  apart : ∀ s t id, w.coordinator.pendingBlocks (s, t) = some id → successes w.callHistory t id = 0
  once : ∀ t id, successes w.callHistory t id ≤ 1

lemma once_start (boards : String → Board) : Once (start boards) := by
  constructor <;> simp [start, Used, successes]

lemma callChange_pending {c : TaskEventCoordinator} {boards : String → Board}
    {sessionIsActive : String → Bool} {n : ℕ} {call : PermissionCall} {point : CallPoint}
    {action : CallAction} {e : CallEffect}
    (h : CallChange c boards sessionIsActive n call point action e) {key : String × String}
    {id : ℤ} (hkey : e.coordinator.pendingBlocks key = some id) :
    c.pendingBlocks key = some id := by
  cases h with
  | stale | succeeded => exact TaskEventCoordinator.dropPending_some hkey
  | turnedAway | entered | checkRaised | seen | sessionOver | invoked | failed => exact hkey

/-- Only the end of a resolution counts as a success, and it leaves nothing pending under its
key. -/
lemma callChange_successes {c : TaskEventCoordinator} {boards : String → Board}
    {sessionIsActive : String → Bool} {n : ℕ} {call : PermissionCall} {point : CallPoint}
    {action : CallAction} {e : CallEffect}
    (h : CallChange c boards sessionIsActive n call point action e) (t : String) (id : ℤ) :
    successes e.log t id = 0 ∨
      successes e.log t id = 1 ∧ point = .resolving ∧ t = call.args.taskId ∧
        id = call.args.blockEventId ∧
        e.coordinator.pendingBlocks (pendingKey call.args) ≠ some id := by
  cases h with
  | succeeded =>
    by_cases hsame : call.args.taskId = t ∧ call.args.blockEventId = id
    · obtain ⟨rfl, rfl⟩ := hsame
      exact .inr ⟨by simp [successes, isSuccess], rfl, rfl, rfl,
        TaskEventCoordinator.dropPending_self _ _ _⟩
    · exact .inl (by simpa [successes, isSuccess] using hsame)
  | turnedAway | entered | checkRaised | seen | stale | sessionOver | invoked | failed =>
    exact .inl (by simp [successes, isSuccess, callRaised])

lemma Used.of_mono {w w' : TaskWorld} {t : String} {id : ℤ} (h : Used w' t id)
    (hpending : ∀ s, w'.coordinator.pendingBlocks (s, t) = some id →
      w.coordinator.pendingBlocks (s, t) = some id)
    (hsuccess : successes w'.callHistory t id = successes w.callHistory t id) : Used w t id := by
  rcases h with ⟨s, hs⟩ | hs
  · exact .inl ⟨s, hpending s hs⟩
  · exact .inr (hsuccess ▸ hs)

/-- A step that makes nothing pending, resolves nothing and does not move the cursors back
keeps the invariant. -/
lemma Once.of_mono {w w' : TaskWorld} (hw : Once w)
    (hpending : ∀ key id, w'.coordinator.pendingBlocks key = some id →
      w.coordinator.pendingBlocks key = some id)
    (hsuccess : ∀ t id, successes w'.callHistory t id = successes w.callHistory t id)
    (hregistered : ∀ t r, w.registered t = some r → w'.registered t = some r)
    (hbound : ∀ t k', w'.coordinator.tracked t = some k' → w.registered t = none ∨
      ∃ k, w.coordinator.tracked t = some k ∧
        blockedUpTo k (w.polls t) ≤ blockedUpTo k' (w'.polls t)) : Once w' := by
  have hused : ∀ t id, Used w' t id → Used w t id := fun t id h =>
    h.of_mono (fun s => hpending (s, t) id) (hsuccess t id)
  refine ⟨fun s t id h => ?_, fun t id h => ?_, fun t id k' h hk' => ?_, fun s t id h => ?_,
    fun t id => ?_⟩
  · obtain ⟨path, hr⟩ := hw.owner s t id (hpending _ _ h)
    exact ⟨path, hregistered t _ hr⟩
  · obtain ⟨r, hr⟩ := Option.ne_none_iff_exists'.mp (hw.registered t id (hused t id h))
    simp [hregistered t r hr]
  · rcases hbound t k' hk' with hnone | ⟨k, hk, hle⟩
    · exact absurd hnone (hw.registered t id (hused t id h))
    · have := hw.behind t id k (hused t id h) hk
      omega
  · rw [hsuccess]
    exact hw.apart s t id (hpending _ _ h)
  · rw [hsuccess]
    exact hw.once t id

/-- The step of a poll: it may make the event at its cursor pending. -/
lemma Once.polled {P : Platform} {w : TaskWorld} {t : String} {k : TrackedTask}
    {point : PollPoint} {action : PollAction} {e : PollEffect} (hw : Once w) (ht : Tables w)
    (hp : Points w) (hk : w.coordinator.tracked t = some k) (hpoint : w.polls t = some point)
    (hs : PollChange P (w.view k) k point action e) : Once (w.afterPoll t k e) := by
  obtain ⟨rfl, hr⟩ := ht.tracked t k hk
  have hblocked := fun k' (hk' : e.tracked = some k') =>
    pollChange_blocked hs (hp _ k point hk hpoint) hk'
  have hbound : ∀ t' k', (w.afterPoll k.taskId k e).coordinator.tracked t' = some k' →
      ∃ k₀, w.coordinator.tracked t' = some k₀ ∧ blockedUpTo k₀ (w.polls t') ≤
        blockedUpTo k' ((w.afterPoll k.taskId k e).polls t') := by
    intro t' k' hk'
    by_cases hne : t' = k.taskId
    · subst hne
      refine ⟨k, hk, ?_⟩
      simp only [TaskWorld.afterPoll, Function.update_self, hpoint] at hk' ⊢
      exact (hblocked k' hk').1
    · simp only [TaskWorld.afterPoll, Function.update_of_ne hne] at hk' ⊢
      exact ⟨k', hk', le_refl _⟩
  rcases hblock : e.block with _ | id₀
  · refine hw.of_mono (fun key id h => ?_) (fun _ _ => rfl) (fun _ _ h => h)
      fun t' k' h => .inr (hbound t' k' h)
    simpa [TaskWorld.afterPoll, hblock] using h
  · -- the event at the cursor is made pending
    have hnew : ∀ s t' id, (w.afterPoll k.taskId k e).coordinator.pendingBlocks (s, t') = some id →
        s = k.sessionId ∧ t' = k.taskId ∧ id = id₀ ∨
          w.coordinator.pendingBlocks (s, t') = some id := by
      intro s t' id h
      by_cases hkey : (s, t') = (k.sessionId, k.taskId)
      · obtain ⟨hs', ht'⟩ := Prod.mk.inj hkey
        refine .inl ⟨hs', ht', ?_⟩
        simpa [TaskWorld.afterPoll, hblock, hkey] using h.symm
      · exact .inr (by simpa [TaskWorld.afterPoll, hblock, Function.update_of_ne hkey] using h)
    have hunused : ¬ Used w k.taskId id₀ := by
      intro hu
      have hle := hw.behind _ _ k hu hk
      rw [hpoint] at hle
      cases hs <;> try cases hblock
      have hid : _ = k.cursor := (hp _ k _ hk hpoint).1
      simp only [blockedUpTo] at hle
      omega
    have hused : ∀ t' id, Used (w.afterPoll k.taskId k e) t' id →
        t' = k.taskId ∧ id = id₀ ∨ Used w t' id := by
      rintro t' id (⟨s, h⟩ | h)
      · rcases hnew s t' id h with ⟨-, ht', hid⟩ | h
        · exact .inl ⟨ht', hid⟩
        · exact .inr (.inl ⟨s, h⟩)
      · exact .inr (.inr h)
    refine ⟨fun s t' id h => ?_, fun t' id h => ?_, fun t' id k' h hk' => ?_, fun s t' id h => ?_,
      hw.once⟩
    · rcases hnew s t' id h with ⟨rfl, rfl, -⟩ | h
      · exact ⟨_, hr⟩
      · exact hw.owner s t' id h
    · rcases hused t' id h with ⟨rfl, -⟩ | h
      · simp [TaskWorld.afterPoll, hr]
      · exact hw.registered t' id h
    · rcases hused t' id h with ⟨rfl, rfl⟩ | h
      · simp only [TaskWorld.afterPoll, Function.update_self] at hk' ⊢
        exact ((hblocked k' hk').2 id hblock).2
      · obtain ⟨k₀, hk₀, hle⟩ := hbound t' k' hk'
        have := hw.behind t' id k₀ h hk₀
        omega
    · rcases hnew s t' id h with ⟨-, rfl, rfl⟩ | h
      · exact Nat.lt_one_iff.mp (not_le.mp fun hs' => hunused (.inr hs'))
      · exact hw.apart s t' id h

/-- The step of a call: it may end a resolution. -/
lemma Once.called {P : Platform} {w : TaskWorld} {n : ℕ} {call : PermissionCall}
    {action : CallAction} {e : CallEffect} (hw : Once w) (hcalls : Calls P w)
    (hc : w.calls n = some call)
    (hs : CallChange w.coordinator w.boards w.sessionIsActive n call call.point action e) :
    Once (w.afterCall n e) := by
  have hpending : ∀ key id, (w.afterCall n e).coordinator.pendingBlocks key = some id →
      w.coordinator.pendingBlocks key = some id := fun key id h => callChange_pending hs h
  have hsum : ∀ t id, successes (w.afterCall n e).callHistory t id =
      successes w.callHistory t id + successes e.log t id := by
    intro t id
    simp [TaskWorld.afterCall, successes, List.countP_append]
  have htracked : (w.afterCall n e).coordinator.tracked = w.coordinator.tracked := hs.tracked
  have hold : ∀ t id, successes e.log t id = 1 → successes w.callHistory t id = 0 ∧ Used w t id ∧
      ∀ s, (w.afterCall n e).coordinator.pendingBlocks (s, t) ≠ some id := by
    intro t id h
    rcases callChange_successes hs t id with h0 | ⟨-, hpoint, rfl, rfl, hdropped⟩
    · omega
    have hin := (hcalls.inside n call hc (by rw [hpoint]; exact CallPoint.noConfusion)).pending
    refine ⟨hw.apart _ _ _ hin, .inl ⟨_, hin⟩, fun s hs' => ?_⟩
    obtain ⟨path, hr⟩ := hw.owner _ _ _ hin
    obtain ⟨path', hr'⟩ := hw.owner s _ _ (hpending _ _ hs')
    obtain rfl : call.args.sessionId = s := by
      simpa using congrArg Registration.sessionId (Option.some.inj (hr.symm.trans hr'))
    exact hdropped hs'
  have hused : ∀ t id, Used (w.afterCall n e) t id → Used w t id := by
    rintro t id (⟨s, h⟩ | h)
    · exact .inl ⟨s, hpending _ _ h⟩
    · rcases callChange_successes hs t id with h0 | ⟨h1, -⟩
      · exact .inr (by rw [hsum, h0] at h; exact h)
      · exact (hold t id h1).2.1
  refine ⟨fun s t id h => hw.owner s t id (hpending _ _ h),
    fun t id h => hw.registered t id (hused t id h), fun t id k h hk => ?_, fun s t id h => ?_,
    fun t id => ?_⟩
  · rw [htracked] at hk
    exact hw.behind t id k (hused t id h) hk
  · rcases callChange_successes hs t id with h0 | ⟨h1, -⟩
    · rw [hsum, h0, hw.apart s t id (hpending _ _ h)]
    · exact absurd h ((hold t id h1).2.2 s)
  · rcases callChange_successes hs t id with h0 | ⟨h1, -⟩
    · rw [hsum, h0]
      exact hw.once t id
    · rw [hsum, h1, (hold t id h1).1]

lemma Once.step {P : Platform} {w w' : TaskWorld} {a : Action} (hw : Once w) (ht : Tables w)
    (hp : Points w) (hcalls : Calls P w) (h : Change P w a w') : Once w' := by
  cases h with
  | opened | ended | wrote | unregistered | calling =>
    exact hw.of_mono (fun _ _ h => h) (fun _ _ => rfl) (fun _ _ h => h)
      fun t k' hk' => .inr ⟨k', hk', le_refl _⟩
  | refusedArgs n args error =>
    refine hw.of_mono (fun _ _ h => h) (fun t id => ?_) (fun _ _ h => h)
      fun t k' hk' => .inr ⟨k', hk', le_refl _⟩
    simp [successes, List.countP_append, isSuccess]
  | registered s t title slug path hactive hfree hnew =>
    refine hw.of_mono (fun _ _ h => h) (fun _ _ => rfl) (fun t' r hr =>
      (Change.registered (P := P) s t title slug path hactive hfree hnew).registered_mono hr)
      fun t' k' hk' => ?_
    by_cases hne : t' = t
    · exact .inl (hne ▸ hnew)
    · exact .inr ⟨k', by simpa [Function.update_of_ne hne] using hk', le_refl _⟩
  | started t k hk hpoint =>
    refine hw.of_mono (fun _ _ h => h) (fun _ _ => rfl) (fun _ _ h => h)
      fun t' k' hk' => .inr ⟨k', hk', ?_⟩
    by_cases hne : t' = t
    · subst hne
      simp [hpoint, blockedUpTo]
    · simp [Function.update_of_ne hne]
  | polled t k point action e hk hpoint hs => exact hw.polled ht hp hk hpoint hs
  | called n call action e hc hs => exact hw.called hcalls hc hs

/-! ### The law of permissions -/

/-- What holds when the `n`-th call invokes `permission_client.resolve` for the session `s`.
The task is registered under the session, and was found in its name when the call entered the
critical section; if it is still tracked, it is so under the session. -/
structure Authorized (w : TaskWorld) (n : ℕ) (s : String) (r : Resolution) : Prop where
  active : w.sessionIsActive s = true
  owner : ∃ registration, w.registered r.taskId = some registration ∧ registration.sessionId = s
  tracked : ∀ k, w.coordinator.tracked r.taskId = some k → k.sessionId = s
  pending : w.coordinator.pendingBlocks (s, r.taskId) = some r.blockEventId
  decision : r.decision = "approve_once" ∨ r.decision = "deny"
  notBlank : ¬ Blank r.response
  bounded : r.response.toList.length ≤ 500
  checked : ∃ k mid, Entered w.callHistory n k mid ∧ k.taskId = r.taskId ∧ k.sessionId = s ∧
    .blockSeen n k.dbPath r.taskId r.blockEventId true ∈ mid

/-- What holds of every world a run leads to. -/
structure Inv (P : Platform) (w : TaskWorld) : Prop where
  tables : Tables w
  points : Points w
  calls : Calls P w
  once : Once w

lemma inv_of_reachable {P : Platform} {boards : String → Board} {w : TaskWorld}
    (h : Reachable (TaskWorld.step P) (start boards) w) : Inv P w := by
  obtain ⟨as, hrun⟩ := h
  refine hrun.invariant ?_ fun t a u hi _ hs => ?_
  · exact ⟨tables_start boards, by simp [Points, start], calls_start P boards, once_start boards⟩
  · have hc := step_change hs
    exact ⟨hi.tables.step hc, hi.points.step hi.tables hc, hi.calls.step hi.tables hc,
      hi.once.step hi.tables hi.points hi.calls hc⟩

lemma Inv.authorized {P : Platform} {w w' : TaskWorld} {a : Action} {n : ℕ} {s : String}
    {r : Resolution} (hw : Inv P w) (hs : w.step P a = some w')
    (hlog : w'.callHistory = w.callHistory ++ [.invoked n s r]) : Authorized w n s r := by
  cases step_change hs with
  | opened | ended | wrote | unregistered | registered | started | polled | calling =>
    simp [TaskWorld.afterPoll] at hlog
  | refusedArgs m args error => simp at hlog
  | called m call action e hm hstep =>
    have hlog' : e.log = [.invoked n s r] := List.append_cancel_left hlog
    have hargs := hw.calls.args m call hm
    generalize hpoint : call.point = point at hstep
    cases hstep with
    | turnedAway | entered | checkRaised | seen | stale | sessionOver | succeeded | failed =>
      simp [callRaised] at hlog'
    | invoked tracked hactive =>
      obtain ⟨rfl, rfl, rfl⟩ : m = n ∧ call.args.sessionId = s ∧ _ = r := by simpa using hlog'
      have hin := hw.calls.inside m call hm (by rw [hpoint]; exact CallPoint.noConfusion)
      obtain ⟨k, mid, hentered, ⟨htask, hsession⟩, hr, hseen⟩ := hin.entry
      obtain ⟨hdecision, hblank, hlength⟩ := checkArgs_ok hargs
      rw [hpoint] at hseen
      refine ⟨hactive, ⟨_, hr, rfl⟩, fun k' hk' => ?_, hin.pending, hdecision, hblank, hlength,
        k, mid, hentered, htask, hsession, hseen.2⟩
      have hr' := (hw.tables.tracked _ k' hk').2
      exact congrArg Registration.sessionId (Option.some.inj (hr'.symm.trans hr))

/-! ### A completion that overtakes a call

The task is read as blocked for the call, then completed on the board; the poll announces the
completion and drops the task before the call goes on. -/

def overtaken : List Action :=
  [.openSession "voice-one-01", .write "board" blockedBoard,
   .register "voice-one-01" "task" "Deploy" "default" "board"] ++ pollBlocked ++
  [.callStart 0 ⟨"voice-one-01", "task", 1, "deny", "no"⟩, .call 0 .acquire,
   .call 0 (.check false), .write "board" completedBoard] ++ pollCompleted

lemma overtaken_spec :
    ∃ w, Reachable (TaskWorld.step asciiPlatform) (start fun _ => blockedBoard) w ∧
      w.coordinator.tracked "task" = none ∧
      ∃ w', w.step asciiPlatform (.call 0 .resume) = some w' ∧ w'.callHistory = w.callHistory ++
        [.invoked 0 "voice-one-01" ⟨"default", "task", 1, "deny", "no"⟩] := by
  have hrun : (exec (TaskWorld.step asciiPlatform) (fun _ _ => true) (start fun _ => blockedBoard)
        overtaken).map
      (fun w => (w.coordinator.tracked "task", w.sessions "voice-one-01", w.calls 0)) =
      some (none, .live, some ⟨⟨"voice-one-01", "task", 1, "deny", "no"⟩, "no",
        .checked { newTask asciiPlatform "voice-one-01" "task" "Deploy" "default" "board" with
          cursor := 1 } true⟩) := by
    decide +kernel
  obtain ⟨w, hw, hfacts⟩ := Option.map_eq_some_iff.mp hrun
  obtain ⟨htracked, hsession, hcall⟩ := by simpa only [Prod.mk.injEq] using hfacts
  refine ⟨w, reachable_of_exec hw, htracked, ?_⟩
  simp only [TaskWorld.step, hcall, callStep, TaskWorld.sessionIsActive, hsession]
  exact ⟨_, rfl, rfl⟩

/-- The task of an invocation need not be tracked any more. -/
theorem invoked_after_completion :
    ∃ w w' n s r, Reachable (TaskWorld.step asciiPlatform) (start fun _ => blockedBoard) w ∧
      w.step asciiPlatform (.call n .resume) = some w' ∧
      w'.callHistory = w.callHistory ++ [.invoked n s r] ∧
      w.coordinator.tracked r.taskId = none := by
  obtain ⟨w, hw, htracked, w', hs, hlog⟩ := overtaken_spec
  exact ⟨w, w', _, _, _, hw, hs, hlog, htracked⟩

/-- **One-shot permissions**: every invocation of `permission_client.resolve` is authorized,
and none succeeds twice for one block of a task. -/
theorem permissions_one_shot {P : Platform} {boards : String → Board} {w : TaskWorld}
    (h : Reachable (TaskWorld.step P) (start boards) w) :
    (∀ a w' n s r, w.step P a = some w' →
      w'.callHistory = w.callHistory ++ [.invoked n s r] → Authorized w n s r) ∧
      ∀ t id, successes w.callHistory t id ≤ 1 := by
  have hw := inv_of_reachable h
  exact ⟨fun a w' n s r hs hlog => hw.authorized hs hlog, hw.once.once⟩

theorem permissions_one_shot_overtaken :
    ∃ w, Authorized w 0 "voice-one-01" ⟨"default", "task", 1, "deny", "no"⟩ ∧
      ∀ t id, successes w.callHistory t id ≤ 1 := by
  obtain ⟨w, hw, -, w', hs, hlog⟩ := overtaken_spec
  obtain ⟨hauthorized, honce⟩ := permissions_one_shot hw
  exact ⟨w, hauthorized _ w' _ _ _ hs hlog, honce⟩

end HermesRealtime.Permissions

import HermesRealtime.BrowserSafety

/-!
Closing a browser that leaves in time. What the handle has found out about the group may be stale
by the next call: the signal then finds no group, which the check takes for its absence and the
signal for a failure, and the clock may then be past the deadline. Closing succeeds exactly when
neither happens.
-/

namespace HermesRealtime.BrowserCompleteness

open Op BrowserHandle BrowserSafety

/-- The main process exits and the group disappears before the deadline. A wait runs out only if
the process is there for all of its time, a check finds the group only before it disappears, and a
signal fails only once it has disappeared. -/
structure Vanishing (env : Environment) (h : DedicatedBrowserHandle) (exitTime goneTime : ℚ) :
    Prop where
  exits : exitTime < env.now [] + h.closeTimeoutSeconds * 3
  disappears : goneTime < env.now [] + h.closeTimeoutSeconds * 3
  clock : ∀ log, env.clockRaises log = none
  poll : ∀ log, ∃ code, env.poll log = .ok code ∧ (code = none → env.now log < exitTime)
  wait : ∀ log timeout e, env.wait log timeout = .error e →
    e = .timeoutExpired ∧ env.now log + timeout ≤ exitTime ∧
      env.now log + timeout ≤ env.now (.wait timeout (.error e) :: log)
  terminate : ∀ log, env.terminate log = .ok ()
  groupExists : ∀ log, ∃ found, env.groupExists log h.processGroupId = .ok found ∧
    (found = true → env.now log < goneTime)
  killGroup : ∀ log signal e, env.killGroup log h.processGroupId signal = .error e →
    e = .processLookupError ∧
      goneTime ≤ env.now (.killGroup h.processGroupId signal (.error e) :: log)
  sleep : ∀ log seconds, env.sleep log seconds = .ok ()

/-- A signal that finds no group, or a reading of the clock at the deadline or later when the last
check has found the group. -/
def Disturbs (deadline : ℚ) (earlier : Log) : Event → Prop
  | .killGroup _ _ (.error _) => True
  | .clock (.ok t) => deadline ≤ t ∧ ∃ group, earlier.head? = some (.groupExists group (.ok true))
  | _ => False

def Undisturbed (deadline : ℚ) : Log → Prop
  | [] => True
  | event :: earlier => ¬ Disturbs deadline earlier event ∧ Undisturbed deadline earlier

variable {env : Environment} {h : DedicatedBrowserHandle} {exitTime goneTime deadline began : ℚ}

/-! ### The loop -/

/-- How a computation raises that is not to be tried again. -/
def Spoilt (deadline : ℚ) (halt : Halt) (s : State) : Prop :=
  halt ≠ .raised .timeoutExpired ∧ (halt ≠ .outOfFuel → ¬ Undisturbed deadline s.log)

lemma spoilt_of_disturbs {e : Exn} {event : Event} {log : Log} {closed : Bool}
    (hne : e ≠ .timeoutExpired) (hevent : Disturbs deadline log event) :
    Spoilt deadline (.raised e) ⟨event :: log, closed⟩ :=
  ⟨by simpa using hne, fun _ hlog => hlog.1 hevent⟩

/-- Looking for the group answers. -/
lemma processGroupExists_quiet (hleaves : Vanishing env h exitTime goneTime) :
    Meets (fun s => Undisturbed deadline s.log) (processGroupExists env h)
      (fun found s => Undisturbed deadline s.log ∧ (found = true →
        ∃ group, s.log.head? = some (.groupExists group (.ok true))))
      (fun _ _ => False) := by
  refine ask_meets (fun s found hs _ => ⟨⟨not_false, hs⟩, ?_⟩) fun s e _ hanswer => ?_
  · rintro rfl
    exact ⟨_, rfl⟩
  · obtain ⟨found, hfound, _⟩ := hleaves.groupExists s.log
    rw [hfound] at hanswer
    cases hanswer

/-- Nothing has been disturbed, and the last call was no check that found the group. -/
structure Ready (env : Environment) (deadline began : ℚ) (s : State) : Prop where
  quiet : Undisturbed deadline s.log
  since : began ≤ env.now s.log
  unchecked : ∀ group, s.log.head? ≠ some (.groupExists group (.ok true))

/-- A signal that finds the group disturbs nothing, and one that does not is raised. -/
lemma killProcessGroup_quiet (began : ℚ) (hleaves : Vanishing env h exitTime goneTime)
    {signal : Signal} :
    Meets (fun s => Undisturbed deadline s.log ∧ began ≤ env.now s.log)
      (killProcessGroup env h signal) (fun _ => Ready env deadline began) (Spoilt deadline) := by
  refine ask_meets (fun s _ hs _ => ?_) fun s e hs hanswer => ?_
  · exact ⟨⟨not_false, hs.1⟩, hs.2.trans (env.now_le _ _), by simp⟩
  · obtain ⟨rfl, _⟩ := hleaves.killGroup s.log signal e hanswer
    exact spoilt_of_disturbs (by simp) trivial

/-- Reading the clock before the deadline disturbs nothing, and after a check that has found the
group it disturbs otherwise. -/
lemma clock_quiet (hleaves : Vanishing env h exitTime goneTime) :
    Meets (fun s => Undisturbed deadline s.log ∧
        ∃ group, s.log.head? = some (.groupExists group (.ok true))) (clock env)
      (fun t s => (t < deadline → Undisturbed deadline s.log) ∧
        (deadline ≤ t → ¬ Undisturbed deadline s.log))
      (fun _ _ => False) := by
  refine clock_meets (fun s hs => ⟨fun hlt => ?_, fun hle hlog => ?_⟩) fun s e _ hraises _ => ?_
  · exact ⟨fun hdisturbs => not_le.mpr hlt hdisturbs.1, hs.1⟩
  · exact hlog.1 ⟨hle, hs.2⟩
  · rw [hleaves.clock] at hraises
    cases hraises

lemma awaitGroupExited_quiet (hleaves : Vanishing env h exitTime goneTime) (fuel : ℕ) :
    Meets (fun s => Undisturbed deadline s.log) (awaitGroupExited env h deadline fuel)
      (fun _ s => Undisturbed deadline s.log) (Spoilt deadline) := by
  induction fuel with
  | zero => exact Meets.raise fun s _ => ⟨by simp, fun hne => absurd rfl hne⟩
  | succ fuel ih =>
    unfold awaitGroupExited
    refine Meets.bind (processGroupExists_quiet hleaves).total fun found => ?_
    refine Meets.ite (fun hfound => ?_) fun _ => Meets.pure fun s hs => hs.1
    refine Meets.bind ((clock_quiet hleaves).total.before fun s hs => ⟨hs.1, hs.2 hfound⟩)
      fun t => ?_
    refine Meets.ite (fun hover => Meets.raise fun s hs => ⟨by simp, fun _ => ?_⟩)
      fun hremaining => ?_
    · exact hs.2 (sub_nonpos.mp hover)
    · refine Meets.bind (Q := fun _ s => Undisturbed deadline s.log) ?_ fun _ => ih
      refine ask_meets (fun s _ hs _ => ?_) fun s e _ hanswer => ?_
      · exact ⟨not_false, hs.1 (sub_pos.mp (not_le.mp hremaining))⟩
      · rw [hleaves.sleep] at hanswer
        cases hanswer

lemma ensureAndMark_quiet (hleaves : Vanishing env h exitTime goneTime) (fuel : ℕ) :
    Meets (fun s => Undisturbed deadline s.log) (ensureAndMark env h deadline fuel)
      (fun _ s => Undisturbed deadline s.log) (Spoilt deadline) := by
  refine Meets.bind (Q := fun _ s => Undisturbed deadline s.log) ?_ fun _ => Meets.modify
    fun _ hs => hs
  refine Meets.bind (processGroupExists_quiet hleaves).total fun found => ?_
  refine Meets.ite (fun _ => ?_) fun _ => Meets.pure fun s hs => hs.1
  refine Meets.bind (Q := fun _ s => Undisturbed deadline s.log) ?_ fun _ =>
    awaitGroupExited_quiet hleaves fuel
  intro s hs
  exact (killProcessGroup_quiet (env.now s.log) hleaves).after (fun _ _ hs => hs.quiet) s
    ⟨hs.1, le_rfl⟩

/-! ### The phases -/

/-- A phase that runs out has taken all of the close timeout, and the deadline is not nearer than
that. -/
def RunOut (env : Environment) (h : DedicatedBrowserHandle) (deadline began : ℚ) (s : State) :
    Prop :=
  Undisturbed deadline s.log ∧ began + h.closeTimeoutSeconds ≤ env.now s.log ∧
    began + h.closeTimeoutSeconds < deadline

/-- The limit of a phase that ends before the deadline is the whole close timeout. -/
lemma phase_whole {T t now : ℚ} (hread : t ≤ now)
    (hends : now + min T (max (1 / 1000) (deadline - t)) < deadline) :
    min T (max (1 / 1000) (deadline - t)) = T := by
  refine min_eq_left (not_lt.mp fun hlt => ?_)
  rw [min_eq_right hlt.le] at hends
  have hrest := le_max_right (1 / 1000) (deadline - t)
  linarith

lemma phaseTimeout_quiet (hleaves : Vanishing env h exitTime goneTime) :
    Meets (Ready env deadline began) (phaseTimeout env h deadline)
      (fun timeout s => Undisturbed deadline s.log ∧ began ≤ env.now s.log ∧
        ∃ t ≤ env.now s.log, timeout = min h.closeTimeoutSeconds (max (1 / 1000) (deadline - t)))
      (fun _ _ => False) := by
  refine Meets.bind (Q := fun t s => Undisturbed deadline s.log ∧ began ≤ env.now s.log ∧
    t ≤ env.now s.log) ?_ fun t => Meets.pure fun s hs => ⟨hs.1, hs.2.1, t, hs.2.2, rfl⟩
  refine clock_meets (fun s hs => ⟨⟨?_, hs.quiet⟩, hs.since.trans (env.now_le _ _), env.now_le _ _⟩)
    fun s e _ hraises _ => ?_
  · rintro ⟨_, group, hhead⟩
    exact hs.unchecked group hhead
  · rw [hleaves.clock] at hraises
    cases hraises

lemma wait_quiet (hleaves : Vanishing env h exitTime goneTime) (hexits : exitTime < deadline)
    {timeout : ℚ} :
    Meets (fun s => Undisturbed deadline s.log ∧ began ≤ env.now s.log ∧
        ∃ t ≤ env.now s.log, timeout = min h.closeTimeoutSeconds (max (1 / 1000) (deadline - t)))
      (wait env timeout) (fun _ s => Undisturbed deadline s.log)
      (fun halt s => halt = .raised .timeoutExpired ∧ RunOut env h deadline began s) := by
  refine ask_meets (fun s _ hs _ => ⟨not_false, hs.1⟩) fun s e hs hanswer => ?_
  obtain ⟨rfl, hthere, hlong⟩ := hleaves.wait s.log timeout e hanswer
  obtain ⟨hquiet, hsince, t, hread, htimeout⟩ := hs
  have hwhole : timeout = h.closeTimeoutSeconds := by
    rw [htimeout] at hthere ⊢
    exact phase_whole hread (hthere.trans_lt hexits)
  rw [hwhole] at hthere hlong
  refine ⟨rfl, ⟨not_false, hquiet⟩, ?_, ?_⟩
  · simp only [hwhole]
    linarith
  · linarith

/-- The limit of the last phase reaches the deadline. -/
lemma killPhase_quiet (hleaves : Vanishing env h exitTime goneTime) (hexits : exitTime < deadline)
    (hlast : deadline ≤ began + h.closeTimeoutSeconds) :
    Meets (fun s => Undisturbed deadline s.log ∧ began ≤ env.now s.log) (killPhase env h deadline)
      (fun _ s => Undisturbed deadline s.log) (Spoilt deadline) := by
  refine Meets.bind (killProcessGroup_quiet began hleaves) fun _ => ?_
  refine excepting_meets (E := fun _ _ => False) ?_ (fun e _ => Meets.raise fun s hs => hs.elim)
    (fun e s _ hs => hs.elim) fun s hs => hs.elim
  refine Meets.bind (phaseTimeout_quiet hleaves) fun timeout => ?_
  exact (wait_quiet hleaves hexits).raising fun _ s hs => (not_lt.mpr hlast hs.2.2.2).elim

lemma termPhase_quiet (hleaves : Vanishing env h exitTime goneTime) (hexits : exitTime < deadline)
    (hlast : deadline ≤ began + h.closeTimeoutSeconds * 2) :
    Meets (fun s => Undisturbed deadline s.log ∧ began ≤ env.now s.log) (termPhase env h deadline)
      (fun _ s => Undisturbed deadline s.log) (Spoilt deadline) := by
  refine Meets.bind (Q := fun _ => Ready env deadline began) ?_ fun _ => ?_
  · refine ask_meets (fun s _ hs _ => ?_) fun s e _ hanswer => ?_
    · exact ⟨⟨not_false, hs.1⟩, hs.2.trans (env.now_le _ _), by simp⟩
    · rw [hleaves.terminate] at hanswer
      cases hanswer
  refine excepting_meets (E := fun halt s => halt = .raised .timeoutExpired ∧
    RunOut env h deadline began s) ?_ (fun e _ => ?_) (fun e s he hs => ?_) fun s hs => ?_
  · refine Meets.bind (phaseTimeout_quiet hleaves).total fun timeout => wait_quiet hleaves hexits
  · have hthird : deadline ≤ began + h.closeTimeoutSeconds + h.closeTimeoutSeconds := by linarith
    exact (killPhase_quiet hleaves hexits hthird).before fun s hs => ⟨hs.2.1, hs.2.2.1⟩
  · cases hs.1
    cases he
  · cases hs.1

/-- What raises in the first phase, when the limit has not run out, is not tried again. -/
lemma gracefulPhase_quiet (hleaves : Vanishing env h exitTime goneTime)
    (hexits : exitTime < deadline) (fuel : ℕ) :
    Meets (Ready env deadline began) (gracefulPhase env h deadline fuel)
      (fun exited s => Undisturbed deadline s.log ∧
        (exited = false → began + h.closeTimeoutSeconds ≤ env.now s.log))
      (Spoilt deadline) := by
  refine excepting_meets (E := fun halt s => Spoilt deadline halt s ∨
    halt = .raised .timeoutExpired ∧ RunOut env h deadline began s) ?_
    (fun e he => Meets.pure fun s hs => ?_) (fun e s he hs => ?_) fun s hs => ?_
  · refine Meets.bind (phaseTimeout_quiet hleaves).total fun timeout => ?_
    refine Meets.bind ((wait_quiet hleaves hexits).raising fun _ _ hs => Or.inr hs) fun _ => ?_
    refine Meets.bind ((ensureAndMark_quiet hleaves fuel).raising fun _ _ hs => Or.inl hs)
      fun _ => Meets.pure fun s hs => ⟨hs, ?_⟩
    simp
  · obtain rfl := eq_of_beq he
    rcases hs with hs | hs
    · exact absurd rfl hs.1
    · exact ⟨hs.2.1, fun _ => hs.2.2.1⟩
  · rcases hs with hs | hs
    · exact hs
    · cases hs.1
      cases he
  · rcases hs with hs | hs
    · exact hs
    · cases hs.1

lemma closeProcess_quiet (hleaves : Vanishing env h exitTime goneTime)
    (hexits : exitTime < deadline) (hlast : deadline ≤ began + h.closeTimeoutSeconds * 3)
    (fuel : ℕ) :
    Meets (fun s => Undisturbed deadline s.log ∧ began ≤ env.now s.log)
      (closeProcess env h deadline fuel) (fun _ s => Undisturbed deadline s.log)
      (Spoilt deadline) := by
  refine Meets.bind (Q := fun _ => Ready env deadline began) ?_ fun code => ?_
  · refine ask_meets (fun s _ hs _ => ?_) fun s e _ hanswer => ?_
    · exact ⟨⟨not_false, hs.1⟩, hs.2.trans (env.now_le _ _), by simp⟩
    · obtain ⟨code, hcode, _⟩ := hleaves.poll s.log
      rw [hcode] at hanswer
      cases hanswer
  refine Meets.ite (fun _ => ?_) fun _ => ?_
  · exact (ensureAndMark_quiet hleaves fuel).before fun _ hs => hs.quiet
  refine Meets.bind (gracefulPhase_quiet hleaves hexits fuel) fun exited => ?_
  refine Meets.ite (fun _ => Meets.pure fun s hs => hs.1) fun hexited => ?_
  have hsecond : deadline ≤ began + h.closeTimeoutSeconds + h.closeTimeoutSeconds * 2 := by
    linarith
  refine Meets.bind ((termPhase_quiet hleaves hexits hsecond).before fun s hs => ?_)
    fun _ => ensureAndMark_quiet hleaves fuel
  exact ⟨hs.1, hs.2 (Bool.eq_false_iff.mpr hexited)⟩

/-! ### The whole call -/

/-- Closing returns only when nothing has been disturbed, and raises only when something has. -/
lemma close_quiet (hleaves : Vanishing env h exitTime goneTime) (fuel : ℕ) :
    Meets (· = ⟨[], false⟩) (close env h fuel)
      (fun _ s => Undisturbed (env.now [] + h.closeTimeoutSeconds * 3) s.log)
      (fun halt s => halt ≠ .outOfFuel →
        ¬ Undisturbed (env.now [] + h.closeTimeoutSeconds * 3) s.log) := by
  refine Meets.get_bind fun s hs => ?_
  subst hs
  refine Meets.ite (fun hclosed => by cases hclosed) fun _ => ?_
  refine Meets.bind (Q := fun t s => t = env.now [] ∧
    s = ⟨[.clock (.ok (env.now []))], false⟩) ?_ fun t => ?_
  · refine clock_meets (fun s hs => ?_) fun s e _ hraises _ => ?_
    · subst hs
      exact ⟨rfl, rfl⟩
    · rw [hleaves.clock] at hraises
      cases hraises
  · rintro s ⟨rfl, rfl⟩
    refine excepting_meets (closeProcess_quiet hleaves hleaves.exits le_rfl fuel)
      (fun e _ => Meets.raise fun s hs _ => hs.2 (by simp)) (fun e s _ hs => hs.2)
      (fun s _ hne => absurd rfl hne) _ ⟨⟨?_, trivial⟩, env.now_le _ _⟩
    rintro ⟨_, group, hhead⟩
    cases hhead

/-- A browser that leaves before the deadline is closed exactly when no signal finds that the group
has disappeared, and no reading of the clock comes at the deadline or later after a check that has
found the group. -/
theorem close_returns_iff {rounds fuel : ℕ} (hleaves : Vanishing env h exitTime goneTime)
    (hrounds : h.closeTimeoutSeconds * 300 ≤ rounds) (hfuel : rounds < fuel) :
    ((close env h fuel ⟨[], false⟩).2 = .ok () ∧ (close env h fuel ⟨[], false⟩).1.closed = true) ↔
      Undisturbed (env.now [] + h.closeTimeoutSeconds * 3)
        (close env h fuel ⟨[], false⟩).1.log := by
  have hdone : SafelyDone h (close env h fuel ⟨[], false⟩) := close_safelyDone hrounds hfuel
  have hquiet := close_quiet hleaves fuel _ rfl
  rcases hclose : close env h fuel ⟨[], false⟩ with ⟨s, halt | a⟩ <;> rw [hclose] at hdone hquiet
  · have hdisturbed := hquiet fun heq => hdone.ends (by rw [heq])
    refine ⟨fun hreturns => ?_, fun hlog => absurd hlog hdisturbed⟩
    cases hreturns.1
  · exact ⟨fun _ => hquiet, fun _ => ⟨rfl, hdone.returns rfl⟩⟩

lemma leaving_vanishing {T : ℚ} {group : ℤ} (hexits : exitTime < T * 3) (hgone : goneTime < T * 3) :
    Vanishing (leaving exitTime goneTime) ⟨group, T⟩ exitTime goneTime where
  exits := by simpa [leaving, timeAfter] using hexits
  disappears := by simpa [leaving, timeAfter] using hgone
  clock _ := rfl
  poll log := by
    simp only [leaving]
    split
    · exact ⟨none, rfl, fun _ => ‹_›⟩
    · exact ⟨some 0, rfl, fun h => by cases h⟩
  wait log timeout e herror := by
    simp only [leaving] at herror ⊢
    split at herror
    · cases herror
      have hle := le_max_left timeout 0
      refine ⟨rfl, ?_, ?_⟩
      · linarith
      · simp [timeAfter]
    · cases herror
  terminate _ := rfl
  groupExists log := by
    simp only [leaving, signalGroup]
    split
    · exact ⟨true, rfl, fun _ => ‹_›⟩
    · exact ⟨false, rfl, fun h => by cases h⟩
  killGroup log signal e herror := by
    simp only [leaving, signalGroup] at herror ⊢
    split at herror
    · cases herror
    · cases herror
      exact ⟨rfl, not_lt.mp ‹_›⟩
  sleep _ _ := rfl

/-- A browser has exited, and its group disappears after the SIGKILL; or before it, which has the
close raise. -/
theorem close_returns_iff_leaving :
    ((close (leaving 0 (3 / 2000)) ⟨4711, 1⟩ 301 ⟨[], false⟩).2 = .ok () ∧
      Undisturbed ((leaving 0 (3 / 2000)).now [] + 1 * 3)
        (close (leaving 0 (3 / 2000)) ⟨4711, 1⟩ 301 ⟨[], false⟩).1.log) ∧
    ((close (leaving 0 (1 / 2000)) ⟨4711, 1⟩ 301 ⟨[], false⟩).2 ≠ .ok () ∧
      ¬ Undisturbed ((leaving 0 (1 / 2000)).now [] + 1 * 3)
        (close (leaving 0 (1 / 2000)) ⟨4711, 1⟩ 301 ⟨[], false⟩).1.log) := by
  have hleaves (goneTime : ℚ) (hgone : goneTime < 1 * 3) :
      Vanishing (leaving 0 goneTime) ⟨4711, 1⟩ 0 goneTime :=
    leaving_vanishing (by norm_num) hgone
  have hrounds : (1 : ℚ) * 300 ≤ (300 : ℕ) := by norm_num
  have hfuel : 300 < 301 := by decide
  refine ⟨?_, ?_⟩
  · have hreturns : (close (leaving 0 (3 / 2000)) ⟨4711, 1⟩ 301 ⟨[], false⟩).2 = .ok () ∧
        (close (leaving 0 (3 / 2000)) ⟨4711, 1⟩ 301 ⟨[], false⟩).1.closed = true := by
      decide +kernel
    have hiff := close_returns_iff (hleaves (3 / 2000) (by norm_num)) hrounds hfuel
    exact ⟨hreturns.1, hiff.mp hreturns⟩
  · have hraises : (close (leaving 0 (1 / 2000)) ⟨4711, 1⟩ 301 ⟨[], false⟩).2 ≠ .ok () := by
      decide +kernel
    have hiff := close_returns_iff (hleaves (1 / 2000) (by norm_num)) hrounds hfuel
    exact ⟨hraises, fun hlog => hraises (hiff.mpr hlog).1⟩

/-- Two browsers that have exited. The group of the first disappears while it is looked for, before
the signal; that of the second has been killed, and disappears before the clock is read. -/
theorem close_stale :
    (Vanishing (leaving 0 (1 / 2000)) ⟨4711, 1⟩ 0 (1 / 2000) ∧
      close (leaving 0 (1 / 2000)) ⟨4711, 1⟩ 301 ⟨[], false⟩ =
        (⟨[.killGroup 4711 .sigkill (.error .processLookupError),
            .groupExists 4711 (.ok true), .poll (.ok (some 0)), .clock (.ok 0)], false⟩,
          .error (.raised (.browserLaunchError
            "failed to close Brave process group: ProcessLookupError")))) ∧
    (Vanishing (leaving 0 (3 / 2000)) ⟨4711, 1 / 1500⟩ 0 (3 / 2000) ∧
      close (leaving 0 (3 / 2000)) ⟨4711, 1 / 1500⟩ 301 ⟨[], false⟩ =
        (⟨[.clock (.ok (1 / 500)), .groupExists 4711 (.ok true),
            .killGroup 4711 .sigkill (.ok ()), .groupExists 4711 (.ok true),
            .poll (.ok (some 0)), .clock (.ok 0)], false⟩,
          .error (.raised (.browserLaunchError
            "failed to close Brave process group: RuntimeError")))) := by
  refine ⟨⟨leaving_vanishing (by norm_num) (by norm_num), ?_⟩,
    leaving_vanishing (by norm_num) (by norm_num), ?_⟩
  · decide +kernel
  · decide +kernel

end HermesRealtime.BrowserCompleteness

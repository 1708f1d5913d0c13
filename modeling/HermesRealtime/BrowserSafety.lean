import HermesRealtime.BrowserHandle
import Mathlib.Tactic.Linarith

/-!
Closing the browser is safe in every environment. The loop ends, since every round sleeps and the
deadline comes nearer; the group is killed only when the main process is gone or has outlived the
phase that TERM began; and the handle is closed only when the group has been seen to be gone.
-/

namespace HermesRealtime.BrowserSafety

open Op BrowserHandle

/-! ### What a call may follow -/

/-- The answer says that the main process has exited. -/
def ShowsExit : Event → Prop
  | .poll (.ok (some _)) => True
  | .wait _ (.ok ()) => True
  | _ => False

/-- TERM has been sent, and a wait after it has run out. -/
def OutlivedTerm (log : Log) : Prop :=
  ∃ later timeout earlier, log = later ++ .wait timeout (.error .timeoutExpired) :: earlier ∧
    .terminate (.ok ()) ∈ earlier

def MayKill (log : Log) : Prop := (∃ event ∈ log, ShowsExit event) ∨ OutlivedTerm log

/-- What the handle asks for after the calls that came earlier. -/
def Allowed (h : DedicatedBrowserHandle) (earlier : Log) : Event → Prop
  | .wait timeout _ => timeout ≤ h.closeTimeoutSeconds
  | .groupExists group _ => group = h.processGroupId
  | .killGroup group signal _ => group = h.processGroupId ∧ signal = .sigkill ∧ MayKill earlier
  | _ => True

/-- Every call is allowed after the ones before it. -/
def Orderly (h : DedicatedBrowserHandle) (log : Log) : Prop :=
  ∀ later event earlier, log = later ++ event :: earlier → Allowed h earlier event

/-- The owned group has been observed absent. -/
def ObservedAbsent (h : DedicatedBrowserHandle) (log : Log) : Prop :=
  .groupExists h.processGroupId (.ok false) ∈ log

lemma MayKill.cons {log : Log} (hlog : MayKill log) (event : Event) : MayKill (event :: log) := by
  rcases hlog with ⟨exit, hmem, hexit⟩ | ⟨later, timeout, earlier, rfl, hterm⟩
  · exact Or.inl ⟨exit, List.mem_cons_of_mem _ hmem, hexit⟩
  · exact Or.inr ⟨event :: later, timeout, earlier, rfl, hterm⟩

lemma mayKill_of_exit {event : Event} (hexit : ShowsExit event) (log : Log) :
    MayKill (event :: log) := Or.inl ⟨event, List.mem_cons_self, hexit⟩

variable {env : Environment} {h : DedicatedBrowserHandle}

lemma Orderly.cons {log : Log} {event : Event} (hlog : Orderly h log)
    (hevent : Allowed h log event) : Orderly h (event :: log) := by
  intro later event' earlier hsplit
  cases later with
  | nil =>
    obtain ⟨rfl, rfl⟩ := List.cons.inj hsplit
    exact hevent
  | cons first later => exact hlog later event' earlier (List.cons.inj hsplit).2

/-! ### While the handle is not closed -/

/-- The calls so far are in order, and the rounds that are left are enough for the time that is
left. -/
structure Running (env : Environment) (h : DedicatedBrowserHandle) (deadline : ℚ) (rounds : ℕ)
    (s : State) : Prop where
  closed : s.closed = false
  orderly : Orderly h s.log
  soon : (deadline - env.now s.log) * 100 ≤ rounds

variable {deadline : ℚ} {rounds : ℕ}

lemma Running.call {s : State} (hs : Running env h deadline rounds s) {event : Event}
    (hevent : Allowed h s.log event) :
    Running env h deadline rounds { s with log := event :: s.log } := by
  refine ⟨hs.closed, hs.orderly.cons hevent, ?_⟩
  have hlater := env.now_le event s.log
  have hsoon := hs.soon
  simp only
  linarith

lemma Running.more {s : State} (hs : Running env h deadline rounds s) :
    Running env h deadline (rounds + 1) s := by
  refine ⟨hs.closed, hs.orderly, hs.soon.trans ?_⟩
  push_cast
  linarith

/-- How a computation raises: the rounds have been enough, and the handle is not closed. -/
def Stops (env : Environment) (h : DedicatedBrowserHandle) (deadline : ℚ) (rounds : ℕ)
    (halt : Halt) (s : State) : Prop :=
  halt ≠ .outOfFuel ∧ Running env h deadline rounds s

/-- What is said of the log only grows truer with it. -/
def Lasting (K : Log → Prop) : Prop := ∀ event log, K log → K (event :: log)

/-- The limit of a phase is within the limit of the handle. Reading the clock does not run out. -/
lemma phaseTimeout_meets {K : Log → Prop} (hK : Lasting K) :
    Meets (fun s => Running env h deadline rounds s ∧ K s.log) (phaseTimeout env h deadline)
      (fun timeout s => (Running env h deadline rounds s ∧ K s.log) ∧
        timeout ≤ h.closeTimeoutSeconds)
      (fun halt s => Stops env h deadline rounds halt s ∧ halt ≠ .raised .timeoutExpired) := by
  refine Meets.bind (Q := fun _ s => Running env h deadline rounds s ∧ K s.log) ?_ fun t =>
    Meets.pure fun s hs => ⟨hs, min_le_left _ _⟩
  refine clock_meets (fun s hs => ⟨hs.1.call trivial, hK _ _ hs.2⟩) fun s e hs _ hne => ?_
  exact ⟨⟨by simp, hs.1.call trivial⟩, by simpa using hne⟩

/-- A wait that ends has seen the main process exit; one that runs out has waited in vain. -/
lemma wait_meets {K : Log → Prop} {timeout : ℚ} :
    Meets (fun s => (Running env h deadline rounds s ∧ K s.log) ∧ timeout ≤ h.closeTimeoutSeconds)
      (wait env timeout) (fun _ s => Running env h deadline rounds s ∧ MayKill s.log)
      (fun halt s => Stops env h deadline rounds halt s ∧ (halt = .raised .timeoutExpired →
        ∃ earlier, s.log = .wait timeout (.error .timeoutExpired) :: earlier ∧ K earlier)) := by
  refine ask_meets (fun s a hs _ => ?_) fun s e hs _ => ?_
  · have hexit : ShowsExit (.wait timeout (.ok a)) := trivial
    exact ⟨hs.1.1.call hs.2, mayKill_of_exit hexit s.log⟩
  · refine ⟨⟨by simp, hs.1.1.call hs.2⟩, fun heq => ?_⟩
    cases heq
    exact ⟨s.log, rfl, hs.1.2⟩

lemma phase_meets {K : Log → Prop} (hK : Lasting K) :
    Meets (fun s => Running env h deadline rounds s ∧ K s.log)
      (do wait env (← phaseTimeout env h deadline))
      (fun _ s => Running env h deadline rounds s ∧ MayKill s.log)
      (fun halt s => Stops env h deadline rounds halt s ∧ (halt = .raised .timeoutExpired →
        ∃ timeout earlier, s.log = .wait timeout (.error .timeoutExpired) :: earlier ∧
          K earlier)) := by
  refine Meets.bind ((phaseTimeout_meets hK).raising fun halt s hs => ?_) fun timeout => ?_
  · exact ⟨hs.1, fun heq => absurd heq hs.2⟩
  · exact wait_meets.raising fun _ _ hs => ⟨hs.1, fun heq => ⟨timeout, hs.2 heq⟩⟩

/-- A round of the loop takes at least a hundredth of a second, or all the time that is left. -/
lemma round_shortens {now later remaining : ℚ} {n : ℕ} (hpos : 0 < remaining)
    (hremaining : remaining = deadline - now) (hsoon : remaining * 100 ≤ (n : ℚ))
    (hlater : now + min (1 / 100) remaining ≤ later) :
    ∃ m, n = m + 1 ∧ (deadline - later) * 100 ≤ (m : ℚ) := by
  cases n with
  | zero =>
    rw [Nat.cast_zero] at hsoon
    linarith
  | succ m =>
    refine ⟨m, rfl, ?_⟩
    push_cast at hsoon
    rcases min_choice (1 / 100) remaining with hmin | hmin
    · rw [hmin] at hlater
      linarith
    · rw [hmin] at hlater
      have hzero : (0 : ℚ) ≤ m := Nat.cast_nonneg m
      linarith

lemma lasting_mayKill : Lasting MayKill := fun event _ hlog => hlog.cons event

/-- Nothing more is said of the log than what `Running` says. -/
lemma Running.plain {s : State} (hs : Running env h deadline rounds s) :
    Running env h deadline rounds s ∧ True := ⟨hs, trivial⟩

/-- Looking for the group keeps what is known of the log, and finding none is observed. -/
lemma processGroupExists_meets {K : Log → Prop} (hK : Lasting K) :
    Meets (fun s => Running env h deadline rounds s ∧ K s.log) (processGroupExists env h)
      (fun found s => (Running env h deadline rounds s ∧ K s.log) ∧
        (found = false → ObservedAbsent h s.log))
      (Stops env h deadline rounds) := by
  refine ask_meets (fun s found hs _ => ?_) fun s e hs _ => ⟨by simp, hs.1.call rfl⟩
  refine ⟨⟨hs.1.call rfl, hK _ _ hs.2⟩, ?_⟩
  rintro rfl
  exact List.mem_cons_self

/-- The next round has a round less to come after it. -/
lemma round_meets
    (hnext : ∀ m, rounds = m + 1 → Meets (Running env h deadline m)
      (awaitGroupExited env h deadline rounds)
      (fun _ s => Running env h deadline m s ∧ ObservedAbsent h s.log) (Stops env h deadline m)) :
    Meets (Running env h deadline rounds) (awaitGroupExited env h deadline (rounds + 1))
      (fun _ s => Running env h deadline rounds s ∧ ObservedAbsent h s.log)
      (Stops env h deadline rounds) := by
  unfold awaitGroupExited
  refine Meets.bind ((processGroupExists_meets (K := fun _ => True) fun _ _ _ => trivial).before
    fun _ hs => hs.plain) fun found => ?_
  refine Meets.ite (fun _ => ?_) fun hfound => Meets.pure fun s hs =>
    ⟨hs.1.1, hs.2 (Bool.eq_false_iff.mpr hfound)⟩
  -- the time is read before the sleep, so that the sleep ends later than the time it adds up to
  refine Meets.bind (Q := fun t s => Running env h deadline rounds s ∧ t ≤ env.now s.log ∧
    (deadline - t) * 100 ≤ rounds) ?_ fun t => ?_
  · exact clock_meets (fun s hs => ⟨hs.1.1.call trivial, env.now_le _ _, hs.1.1.soon⟩)
      fun s e hs _ _ => ⟨by simp, hs.1.1.call trivial⟩
  refine Meets.ite (fun _ => Meets.raise fun s hs => ⟨by simp, hs.1⟩) fun hremaining => ?_
  refine Meets.bind (Q := fun _ s => ∃ m, rounds = m + 1 ∧ Running env h deadline m s) ?_
    fun _ => ?_
  · refine ask_meets (fun s _ hs _ => ?_) fun s e hs _ => ⟨by simp, hs.1.call trivial⟩
    have hasleep := env.now_sleep (min (1 / 100) (deadline - t)) s.log
    obtain ⟨m, hm, hsoon⟩ := round_shortens (not_le.mp hremaining) rfl hs.2.2
      ((add_le_add_left hs.2.1 _).trans hasleep)
    exact ⟨m, hm, hs.1.closed, hs.1.orderly.cons trivial, hsoon⟩
  · rintro s ⟨m, rfl, hs⟩
    exact ((hnext m rfl).mono (fun _ hs => hs) (fun _ _ hs => ⟨hs.1.more, hs.2⟩)
      fun _ _ hs => ⟨hs.1, hs.2.more⟩) s hs

/-- The rounds are enough for the loop, by induction on them. -/
lemma awaitGroupExited_meets (rounds : ℕ) :
    Meets (Running env h deadline rounds) (awaitGroupExited env h deadline (rounds + 1))
      (fun _ s => Running env h deadline rounds s ∧ ObservedAbsent h s.log)
      (Stops env h deadline rounds) := by
  induction rounds with
  | zero => exact round_meets fun m hm => absurd hm (by omega)
  | succ rounds ih =>
    refine round_meets fun m hm => ?_
    obtain rfl : rounds = m := by omega
    exact ih

/-- The group is killed when it is still there, which it may be once the main process is gone. -/
lemma ensureOwnedProcessGroupExited_meets :
    Meets (fun s => Running env h deadline rounds s ∧ MayKill s.log)
      (ensureOwnedProcessGroupExited env h deadline (rounds + 1))
      (fun _ s => Running env h deadline rounds s ∧ ObservedAbsent h s.log)
      (Stops env h deadline rounds) := by
  refine Meets.bind (processGroupExists_meets lasting_mayKill) fun found => ?_
  refine Meets.ite (fun _ => ?_) fun hfound => Meets.pure fun s hs =>
    ⟨hs.1.1, hs.2 (Bool.eq_false_iff.mpr hfound)⟩
  refine Meets.bind ?_ fun _ => awaitGroupExited_meets rounds
  refine ask_meets (fun s _ hs _ => ?_) fun s e hs _ => ⟨by simp, ?_⟩
  · exact hs.1.1.call ⟨rfl, rfl, hs.1.2⟩
  · exact hs.1.1.call ⟨rfl, rfl, hs.1.2⟩

/-! ### The phases of closing -/

/-- The handle is closed, and the group has been observed absent. -/
structure Marked (h : DedicatedBrowserHandle) (s : State) : Prop where
  closed : s.closed = true
  orderly : Orderly h s.log
  absent : ObservedAbsent h s.log

lemma ensureAndMark_meets :
    Meets (fun s => Running env h deadline rounds s ∧ MayKill s.log)
      (ensureAndMark env h deadline (rounds + 1)) (fun _ s => Marked h s)
      (Stops env h deadline rounds) :=
  Meets.bind ensureOwnedProcessGroupExited_meets fun _ => Meets.modify fun _ hs =>
    ⟨rfl, hs.1.orderly, hs.2⟩

/-- The first phase closes the handle or leaves it as it is, whatever in it ran out. -/
lemma gracefulPhase_meets :
    Meets (Running env h deadline rounds) (gracefulPhase env h deadline (rounds + 1))
      (fun exited s => (exited = true → Marked h s) ∧
        (exited = false → Running env h deadline rounds s))
      (Stops env h deadline rounds) := by
  refine excepting_meets (E := Stops env h deadline rounds) ?_
    (fun e _ => Meets.pure fun s hs => ?_) (fun e s _ hs => hs) fun s hs => hs
  · refine Meets.bind ((phaseTimeout_meets (K := fun _ => True) fun _ _ _ => trivial).mono
      (fun _ hs => hs.plain) (fun _ _ hs => hs) fun _ _ hs => hs.1) fun timeout => ?_
    refine Meets.bind ((wait_meets (K := fun _ => True)).raising fun _ _ hs => hs.1) fun _ => ?_
    exact Meets.bind ensureAndMark_meets fun _ => Meets.pure fun s hs =>
      ⟨fun _ => hs, fun h => by cases h⟩
  · exact ⟨fun h => (by cases h), fun _ => hs.2⟩

lemma killPhase_meets :
    Meets (fun s => Running env h deadline rounds s ∧ MayKill s.log) (killPhase env h deadline)
      (fun _ s => Running env h deadline rounds s ∧ MayKill s.log)
      (Stops env h deadline rounds) := by
  refine Meets.bind (Q := fun _ s => Running env h deadline rounds s ∧ MayKill s.log) ?_
    fun _ => ?_
  · refine ask_meets (fun s _ hs _ => ?_) fun s e hs _ => ⟨by simp, ?_⟩
    · exact ⟨hs.1.call ⟨rfl, rfl, hs.2⟩, hs.2.cons _⟩
    · exact hs.1.call ⟨rfl, rfl, hs.2⟩
  · refine excepting_meets (E := Stops env h deadline rounds) ?_
      (fun e _ => Meets.raise fun s hs => ⟨by simp, hs.2⟩) (fun e s _ hs => hs) fun s hs => hs
    exact (phase_meets lasting_mayKill).raising fun _ _ hs => hs.1

/-- After TERM the main process has exited, or the wait for it ran out and KILL has followed. -/
lemma termPhase_meets :
    Meets (Running env h deadline rounds) (termPhase env h deadline)
      (fun _ s => Running env h deadline rounds s ∧ MayKill s.log)
      (Stops env h deadline rounds) := by
  have hsent : Lasting (.terminate (.ok ()) ∈ ·) := fun _ _ hlog => List.mem_cons_of_mem _ hlog
  refine Meets.bind (Q := fun _ s => Running env h deadline rounds s ∧
    .terminate (.ok ()) ∈ s.log) ?_ fun _ => ?_
  · exact ask_meets (fun s _ hs _ => ⟨hs.call trivial, List.mem_cons_self⟩)
      fun s e hs _ => ⟨by simp, hs.call trivial⟩
  · refine excepting_meets (phase_meets hsent) (fun e he => ?_) (fun e s _ hs => hs.1)
      fun s hs => hs.1
    obtain rfl := eq_of_beq he
    refine killPhase_meets.before fun s hs => ⟨hs.1.2, ?_⟩
    obtain ⟨timeout, earlier, hlog, hterm⟩ := hs.2 rfl
    exact Or.inr ⟨[], timeout, earlier, hlog, hterm⟩

lemma closeProcess_meets :
    Meets (Running env h deadline rounds) (closeProcess env h deadline (rounds + 1))
      (fun _ s => Marked h s) (Stops env h deadline rounds) := by
  refine Meets.bind (Q := fun code s => Running env h deadline rounds s ∧
    (code.isSome = true → MayKill s.log)) ?_ fun code => ?_
  · refine ask_meets (fun s code hs _ => ⟨hs.call trivial, fun hcode => ?_⟩)
      fun s e hs _ => ⟨by simp, hs.call trivial⟩
    obtain ⟨status, rfl⟩ := Option.isSome_iff_exists.mp hcode
    have hexit : ShowsExit (.poll (.ok (some status))) := trivial
    exact mayKill_of_exit hexit s.log
  refine Meets.ite (fun hcode => ?_) fun _ => ?_
  · exact ensureAndMark_meets.before fun s hs => ⟨hs.1, hs.2 hcode⟩
  refine Meets.bind (gracefulPhase_meets.before fun _ hs => hs.1) fun exited => ?_
  refine Meets.ite (fun hexited => Meets.pure fun s hs => hs.1 hexited) fun hexited => ?_
  refine Meets.bind (termPhase_meets.before fun s hs => ?_) fun _ => ensureAndMark_meets
  exact hs.2 (Bool.eq_false_iff.mpr hexited)

/-! ### Rounds to spare -/

variable {fuel more : ℕ}

lemma awaitGroupExited_refines (hmore : fuel ≤ more) :
    Refines Halt.outOfFuel (awaitGroupExited env h deadline fuel)
      (awaitGroupExited env h deadline more) := by
  induction fuel generalizing more with
  | zero => exact Refines.out _
  | succ fuel ih =>
    obtain ⟨more, rfl⟩ := Nat.exists_eq_add_of_le' (Nat.one_le_of_lt hmore)
    unfold awaitGroupExited
    refine Refines.bind (Refines.refl _) fun found => Refines.ite ?_ (Refines.refl _)
    refine Refines.bind (Refines.refl _) fun t => Refines.ite (Refines.refl _) ?_
    exact Refines.bind (Refines.refl _) fun _ => ih (Nat.le_of_succ_le_succ hmore)

lemma ensureAndMark_refines (hmore : fuel ≤ more) :
    Refines Halt.outOfFuel (ensureAndMark env h deadline fuel)
      (ensureAndMark env h deadline more) := by
  refine Refines.bind ?_ fun _ => Refines.refl _
  refine Refines.bind (Refines.refl _) fun found => Refines.ite ?_ (Refines.refl _)
  exact Refines.bind (Refines.refl _) fun _ => awaitGroupExited_refines hmore

lemma excepting_refines {α : Type} {x y : HandleM α} {caught : Exn → Bool}
    {handler : Exn → HandleM α} (hx : Refines Halt.outOfFuel x y) :
    Refines Halt.outOfFuel (excepting x caught handler) (excepting y caught handler) :=
  hx.catching fun _ => rfl

lemma closeProcess_refines (hmore : fuel ≤ more) :
    Refines Halt.outOfFuel (closeProcess env h deadline fuel)
      (closeProcess env h deadline more) := by
  refine Refines.bind (Refines.refl _) fun code =>
    Refines.ite (ensureAndMark_refines hmore) ?_
  refine Refines.bind ?_ fun exited => Refines.ite (Refines.refl _) ?_
  · refine excepting_refines (Refines.bind (Refines.refl _) fun _ => ?_)
    refine Refines.bind (Refines.refl _) fun _ => ?_
    exact Refines.bind (ensureAndMark_refines hmore) fun _ => Refines.refl _
  · exact Refines.bind (Refines.refl _) fun _ => ensureAndMark_refines hmore

lemma close_refines (hmore : fuel ≤ more) :
    Refines Halt.outOfFuel (close env h fuel) (close env h more) := by
  refine Refines.bind (Refines.refl _) fun s => Refines.ite (Refines.refl _) ?_
  refine Refines.bind (Refines.refl _) fun t => ?_
  exact excepting_refines (closeProcess_refines hmore)

/-! ### The whole call -/

/-- What a call to `close` comes to: it ends, what it asks for is allowed at the time, it marks the
handle closed only when the group has been observed absent, and it does not when it raises. -/
structure SafelyDone (h : DedicatedBrowserHandle) (outcome : State × Except Halt Unit) : Prop where
  ends : outcome.2 ≠ .error .outOfFuel
  orderly : Orderly h outcome.1.log
  absent : outcome.1.closed = true → ObservedAbsent h outcome.1.log
  raises : ∀ e, outcome.2 = .error (.raised e) → outcome.1.closed = false
  returns : outcome.2 = .ok () → outcome.1.closed = true

lemma close_meets (hrounds : h.closeTimeoutSeconds * 300 ≤ rounds) :
    Meets (· = ⟨[], false⟩) (close env h (rounds + 1)) (fun _ s => Marked h s)
      (fun halt s => halt ≠ .outOfFuel ∧ s.closed = false ∧ Orderly h s.log) := by
  refine Meets.get_bind fun s hs => ?_
  subst hs
  refine Meets.ite (fun hclosed => by cases hclosed) fun _ => ?_
  have hstart (t : ℚ) (answer : Except Exn ℚ) (ht : t = env.now []) :
      Running env h (t + h.closeTimeoutSeconds * 3) rounds ⟨[.clock answer], false⟩ := by
    refine ⟨rfl, Orderly.cons (fun later event earlier heq => ?_) trivial, ?_⟩
    · simp at heq
    · have hlater := env.now_le (.clock answer) []
      simp only
      linarith
  refine Meets.bind (Q := fun t s =>
    Running env h (t + h.closeTimeoutSeconds * 3) rounds s) ?_ fun t => ?_
  · refine clock_meets (fun s hs => ?_) fun s e hs _ _ => ?_
    · subst hs
      exact hstart _ _ rfl
    · subst hs
      have hbegun := hstart _ (.error e) rfl
      exact ⟨by simp, hbegun.closed, hbegun.orderly⟩
  · refine excepting_meets closeProcess_meets (fun e _ => Meets.raise fun s hs => ?_)
      (fun e s _ hs => ?_) fun s hs => absurd rfl hs.1
    · exact ⟨by simp, hs.2.closed, hs.2.orderly⟩
    · exact ⟨by simp, hs.2.closed, hs.2.orderly⟩

/-- The rounds are enough, so that more of them change nothing. -/
lemma close_same (hrounds : h.closeTimeoutSeconds * 300 ≤ rounds) (hfuel : rounds < fuel) :
    close env h fuel ⟨[], false⟩ = close env h (rounds + 1) ⟨[], false⟩ := by
  have hrun : Ends _ _ (close env h (rounds + 1) ⟨[], false⟩) := close_meets hrounds _ rfl
  refine close_refines hfuel _ fun heq => ?_
  rcases hclose : close env h (rounds + 1) ⟨[], false⟩ with ⟨s, e | a⟩ <;> rw [hclose] at hrun heq
  · cases heq
    exact hrun.1 rfl
  · cases heq

lemma close_safelyDone (hrounds : h.closeTimeoutSeconds * 300 ≤ rounds) (hfuel : rounds < fuel) :
    SafelyDone h (close env h fuel ⟨[], false⟩) := by
  have hrun : Ends _ _ (close env h (rounds + 1) ⟨[], false⟩) := close_meets hrounds _ rfl
  rw [close_same hrounds hfuel]
  rcases hclose : close env h (rounds + 1) ⟨[], false⟩ with ⟨s, e | a⟩ <;> rw [hclose] at hrun
  · refine ⟨fun heq => ?_, hrun.2.2, fun hclosed => ?_, fun _ _ => hrun.2.1, fun heq => ?_⟩
    · cases heq
      exact hrun.1 rfl
    · rw [hrun.2.1] at hclosed
      cases hclosed
    · cases heq
  · refine ⟨fun heq => ?_, hrun.orderly, fun _ => hrun.absent, fun e heq => ?_,
      fun _ => hrun.closed⟩
    · cases heq
    · cases heq

end HermesRealtime.BrowserSafety

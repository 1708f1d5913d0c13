import HermesRealtime.CaptureHealth

/-!
The threads of the wake listener, in any order of their steps: what the process exits with, that
nothing is taken away from a worker that still runs, and which requests to stop are heeded.
-/

namespace HermesRealtime.ListenerRuns

open Listener Watching Runs
open Archiving (CaptureStatus)

variable {T F : Type} {ti : Times T} {fl : Floats F} {o : Judging F}

/-! ### What a step does -/

/-- The steps by what they need and what they change. -/
inductive Step (ti : Times T) (fl : Floats F) (o : Judging F) (p : Process T F) :
    Event T F → Process T F → Prop
  | installed (h : p.main = .start) :
    Step ti fl o p (.installHandlers true) { p with main := .armed }
  | notInstalled (h : p.main = .start) :
    Step ti fl o p (.installHandlers false) { p with main := .cleanup true }
  | setFlag (h : p.main = .armed) :
    Step ti fl o p .setFlag { p with main := .flagged, running := true }
  | loopMade (h : p.main = .flagged) :
    Step ti fl o p (.makeLoop true) { p with main := .looped, loop := .alive }
  | noLoop (h : p.main = .flagged) :
    Step ti fl o p (.makeLoop false) { p with main := .cleanup true }
  | streamMade (h : p.main = .looped) :
    Step ti fl o p (.makeStream true) { p with main := .streamed, stream := true }
  | noStream (h : p.main = .looped) :
    Step ti fl o p (.makeStream false) { p with main := .destroyLoop true }
  | connected (h : p.main = .streamed) :
    Step ti fl o p (.connect true) { p with main := .connected }
  | notConnected (h : p.main = .streamed) :
    Step ti fl o p (.connect false) { p with main := .destroyStream true }
  | threadCreated (h : p.main = .connected) :
    Step ti fl o p (.createThread true) { p with main := .looping, thread := .created }
  | noThread (h : p.main = .connected) :
    Step ti fl o p (.createThread false) { p with main := .destroyStream true }
  | loopReturns (h : p.main = .looping) (hquit : p.quit = true) :
    Step ti fl o p .loopReturns { p with main := .returned }
  | clearFlag (h : p.main = .returned) :
    Step ti fl o p .clearFlag { p with main := .joining, running := false }
  | join (h : p.main = .joining) (hdone : p.thread = .done) :
    Step ti fl o p .join { p with main := .destroyStream p.failed }
  | destroyStream {failing : Bool} (h : p.main = .destroyStream failing) :
    Step ti fl o p .destroyStream { p with main := .destroyLoop failing, stream := false }
  | destroyLoop {failing : Bool} (h : p.main = .destroyLoop failing) :
    Step ti fl o p .destroyLoop { p with main := .cleanup failing, loop := .destroyed }
  | cleanup {failing unlinked : Bool} (h : p.main = .cleanup failing) :
    Step ti fl o p (.cleanup unlinked)
      { p with main := .exited failing, status := if unlinked then none else p.status }
  | workerStarted {now : T} (h : p.thread = .created) :
    Step ti fl o p (.startWorker true now) (p.begin ti true now)
  | workerFailed {now : T} (h : p.thread = .created) :
    Step ti fl o p (.startWorker false now) (p.begin ti false now)
  | goOn (h : p.thread = .checking) (hrunning : p.running = true) :
    Step ti fl o p .checkFlag { p with thread := .busy }
  | getOut (h : p.thread = .checking) (hrunning : p.running = false) :
    Step ti fl o p .checkFlag { p with thread := .leaving }
  | round {r : Round T F} {w : Worker T} (h : p.thread = .busy) (hw : p.worker = some w) :
    Step ti fl o p (.round r) (Process.write
      { p with thread := .checking, worker := some (goRound ti fl o w r).1 }
      (goRound ti fl o w r).2)
  | leave (h : p.thread = .leaving) :
    Step ti fl o p .leave { p with thread := .done, status := some .stopped }
  | signal (hstart : p.main ≠ .start) (hexited : ∀ failing, p.main ≠ .exited failing) :
    Step ti fl o p .signal p.stop
  | streamFails (h : p.stream = true) : Step ti fl o p .streamFails p.fail

lemma step_of_eq {p q : Process T F} {a : Event T F} (h : p.step ti fl o a = some q) :
    Step ti fl o p a q := by
  cases a with
  | installHandlers ok =>
    simp only [Process.step, Option.ite_none_right_eq_some, Option.some.injEq] at h
    obtain ⟨hmain, rfl⟩ := h
    cases ok with
    | true => exact .installed hmain
    | false => exact .notInstalled hmain
  | setFlag =>
    simp only [Process.step, Option.ite_none_right_eq_some, Option.some.injEq] at h
    obtain ⟨hmain, rfl⟩ := h
    exact .setFlag hmain
  | makeLoop ok =>
    simp only [Process.step, Option.ite_none_right_eq_some, Option.some.injEq] at h
    obtain ⟨hmain, rfl⟩ := h
    cases ok with
    | true => exact .loopMade hmain
    | false => exact .noLoop hmain
  | makeStream ok =>
    simp only [Process.step, Option.ite_none_right_eq_some, Option.some.injEq] at h
    obtain ⟨hmain, rfl⟩ := h
    cases ok with
    | true => exact .streamMade hmain
    | false => exact .noStream hmain
  | connect ok =>
    simp only [Process.step, Option.ite_none_right_eq_some, Option.some.injEq] at h
    obtain ⟨hmain, rfl⟩ := h
    cases ok with
    | true => exact .connected hmain
    | false => exact .notConnected hmain
  | createThread ok =>
    simp only [Process.step, Option.ite_none_right_eq_some, Option.some.injEq] at h
    obtain ⟨hmain, rfl⟩ := h
    cases ok with
    | true => exact .threadCreated hmain
    | false => exact .noThread hmain
  | loopReturns =>
    simp only [Process.step, Option.ite_none_right_eq_some, Option.some.injEq] at h
    obtain ⟨⟨hmain, hquit⟩, rfl⟩ := h
    exact .loopReturns hmain hquit
  | clearFlag =>
    simp only [Process.step, Option.ite_none_right_eq_some, Option.some.injEq] at h
    obtain ⟨hmain, rfl⟩ := h
    exact .clearFlag hmain
  | join =>
    simp only [Process.step, Option.ite_none_right_eq_some, Option.some.injEq] at h
    obtain ⟨⟨hmain, hdone⟩, rfl⟩ := h
    exact .join hmain hdone
  | destroyStream =>
    simp only [Process.step] at h
    split at h
    · rename_i hmain
      obtain rfl := Option.some.inj h
      exact .destroyStream hmain
    · cases h
  | destroyLoop =>
    simp only [Process.step] at h
    split at h
    · rename_i hmain
      obtain rfl := Option.some.inj h
      exact .destroyLoop hmain
    · cases h
  | cleanup unlinked =>
    simp only [Process.step] at h
    split at h
    · rename_i hmain
      obtain rfl := Option.some.inj h
      exact .cleanup hmain
    · cases h
  | startWorker ok now =>
    simp only [Process.step, Option.ite_none_right_eq_some, Option.some.injEq] at h
    obtain ⟨hthread, rfl⟩ := h
    cases ok with
    | true => exact .workerStarted hthread
    | false => exact .workerFailed hthread
  | checkFlag =>
    simp only [Process.step, Option.ite_none_right_eq_some, Option.some.injEq] at h
    obtain ⟨hthread, rfl⟩ := h
    by_cases hrunning : p.running = true
    · rw [if_pos hrunning]
      exact .goOn hthread hrunning
    · rw [if_neg hrunning]
      exact .getOut hthread (Bool.eq_false_of_not_eq_true hrunning)
  | round r =>
    simp only [Process.step] at h
    split at h
    · rename_i hthread hworker
      obtain rfl := Option.some.inj h
      exact .round hthread hworker
    · cases h
  | leave =>
    simp only [Process.step, Option.ite_none_right_eq_some, Option.some.injEq] at h
    obtain ⟨hthread, rfl⟩ := h
    exact .leave hthread
  | signal =>
    simp only [Process.step] at h
    split at h
    · cases h
    · cases h
    · rename_i hstart hexited
      obtain rfl := Option.some.inj h
      exact .signal hstart hexited
  | streamFails =>
    simp only [Process.step, Option.ite_none_right_eq_some, Option.some.injEq] at h
    obtain ⟨hstream, rfl⟩ := h
    exact .streamFails hstream

/-! ### Where the threads are -/

/-- The worker does not run, and will not. -/
def WorkerPoint.Quiet (t : WorkerPoint) : Prop := t = .absent ∨ t = .done

/-- What the main thread has set up and taken away when it is at some point. -/
def Ordered (p : Process T F) : Prop :=
  match p.main with
  | .start | .armed => p.thread = .absent ∧ p.loop = .null ∧ p.stream = false ∧ p.quit = false ∧
      p.running = false ∧ p.failed = false
  | .flagged => p.thread = .absent ∧ p.loop = .null ∧ p.stream = false ∧ p.quit = false
  | .looped => p.thread = .absent ∧ p.loop = .alive ∧ p.stream = false
  | .streamed | .connected => p.thread = .absent ∧ p.loop = .alive
  | .looping | .returned => p.thread ≠ .absent ∧ p.loop = .alive
  | .joining => p.thread ≠ .absent ∧ p.loop = .alive ∧ p.running = false
  | .destroyStream _ => WorkerPoint.Quiet p.thread ∧ p.loop = .alive
  | .destroyLoop _ => WorkerPoint.Quiet p.thread ∧ p.loop = .alive ∧ p.stream = false
  | .cleanup _ => WorkerPoint.Quiet p.thread ∧ p.loop ≠ .alive ∧ p.stream = false
  | .exited _ => WorkerPoint.Quiet p.thread ∧ p.stream = false

lemma ordered_init (left : Option CaptureStatus) : Ordered (Process.init left : Process T F) :=
  ⟨rfl, rfl, rfl, rfl, rfl, rfl⟩

/-- A worker that is there runs while the main thread waits for it. -/
lemma Ordered.waits {p : Process T F} (hp : Ordered p) (h : ¬ WorkerPoint.Quiet p.thread) :
    p.main = .looping ∨ p.main = .returned ∨ p.main = .joining := by
  unfold Ordered at hp
  split at hp
  case h_7 hmain => exact Or.inl hmain
  case h_8 hmain => exact Or.inr (Or.inl hmain)
  case h_9 hmain => exact Or.inr (Or.inr hmain)
  all_goals first
    | exact absurd (Or.inl hp.1) h
    | exact absurd hp.1 h

/-- Wherever the stream is, the loop is. -/
lemma Ordered.loop_alive {p : Process T F} (hp : Ordered p) (h : p.stream = true) :
    p.loop = .alive := by
  unfold Ordered at hp
  split at hp <;> simp_all

/-- A change that the order of things has nothing to do with. -/
lemma Ordered.of_frame {p q : Process T F} (hp : Ordered p) (hmain : q.main = p.main)
    (hthread : q.thread = p.thread) (hloop : q.loop = p.loop) (hstream : q.stream = p.stream)
    (hquit : p.loop = .null → q.quit = p.quit)
    (hrunning : q.running = true → p.running = true)
    (hfailed : p.running = false → q.failed = p.failed) : Ordered q := by
  unfold Ordered at hp ⊢
  rw [hmain, hthread, hloop, hstream]
  split at hp <;> simp_all

/-- The worker goes on while the main thread waits for it. -/
lemma Ordered.of_thread {p q : Process T F} (hp : Ordered p) (h : ¬ WorkerPoint.Quiet p.thread)
    (hmain : q.main = p.main) (hthread : q.thread ≠ .absent) (hloop : q.loop = p.loop)
    (hrunning : q.running = true → p.running = true) : Ordered q := by
  have hwaits := hp.waits h
  unfold Ordered at hp ⊢
  rcases hwaits with hw | hw | hw
  · rw [hw] at hp
    rw [hmain, hw, hloop]
    exact ⟨hthread, hp.2⟩
  · rw [hw] at hp
    rw [hmain, hw, hloop]
    exact ⟨hthread, hp.2⟩
  · rw [hw] at hp
    rw [hmain, hw, hloop]
    refine ⟨hthread, hp.2.1, Bool.eq_false_of_not_eq_true fun htrue => ?_⟩
    have hset := hrunning htrue
    rw [hp.2.2] at hset
    cases hset

lemma ordered_step {p q : Process T F} {a : Event T F} (hp : Ordered p)
    (h : Step ti fl o p a q) : Ordered q := by
  cases h with
  | installed h => simpa [Ordered, h] using hp
  | notInstalled h =>
    simp only [Ordered, h] at hp ⊢
    exact ⟨Or.inl hp.1, by simp [hp.2.1], hp.2.2.1⟩
  | setFlag h =>
    simp only [Ordered, h] at hp ⊢
    exact ⟨hp.1, hp.2.1, hp.2.2.1, hp.2.2.2.1⟩
  | loopMade h =>
    simp only [Ordered, h] at hp ⊢
    exact ⟨hp.1, trivial, hp.2.2.1⟩
  | noLoop h =>
    simp only [Ordered, h] at hp ⊢
    exact ⟨Or.inl hp.1, by simp [hp.2.1], hp.2.2.1⟩
  | streamMade h =>
    simp only [Ordered, h] at hp ⊢
    exact ⟨hp.1, hp.2.1⟩
  | noStream h =>
    simp only [Ordered, h] at hp ⊢
    exact ⟨Or.inl hp.1, hp.2⟩
  | connected h => simpa [Ordered, h] using hp
  | notConnected h =>
    simp only [Ordered, h] at hp ⊢
    exact ⟨Or.inl hp.1, hp.2⟩
  | threadCreated h =>
    simp only [Ordered, h] at hp ⊢
    exact ⟨by simp, hp.2⟩
  | noThread h =>
    simp only [Ordered, h] at hp ⊢
    exact ⟨Or.inl hp.1, hp.2⟩
  | loopReturns h hquit => simpa [Ordered, h] using hp
  | clearFlag h =>
    simp only [Ordered, h] at hp ⊢
    exact ⟨hp.1, hp.2, trivial⟩
  | join h hdone =>
    simp only [Ordered, h] at hp ⊢
    exact ⟨Or.inr hdone, hp.2.1⟩
  | destroyStream h =>
    simp only [Ordered, h] at hp ⊢
    exact ⟨hp.1, hp.2, trivial⟩
  | destroyLoop h =>
    simp only [Ordered, h] at hp ⊢
    exact ⟨hp.1, by simp, hp.2.2⟩
  | cleanup h =>
    simp only [Ordered, h] at hp ⊢
    exact ⟨hp.1, hp.2.2⟩
  | workerStarted h =>
    exact hp.of_thread (by simp [h, WorkerPoint.Quiet]) rfl (by simp [Process.begin]) rfl id
  | workerFailed h =>
    exact hp.of_thread (by simp [h, WorkerPoint.Quiet]) rfl
      (by simp [Process.begin, Process.quitLoop]) rfl (by simp [Process.begin, Process.quitLoop])
  | goOn h hrunning => exact hp.of_thread (by simp [h, WorkerPoint.Quiet]) rfl (by simp) rfl id
  | getOut h hrunning => exact hp.of_thread (by simp [h, WorkerPoint.Quiet]) rfl (by simp) rfl id
  | round h hw =>
    exact hp.of_thread (by simp [h, WorkerPoint.Quiet]) rfl (by simp [Process.write]) rfl id
  | leave h => exact hp.of_thread (by simp [h, WorkerPoint.Quiet]) rfl (by simp) rfl id
  | signal hstart hexited =>
    exact hp.of_frame rfl rfl rfl rfl
      (fun hnull => by simp [Process.stop, Process.quitLoop, hnull])
      (by simp [Process.stop, Process.quitLoop]) fun _ => rfl
  | streamFails h =>
    have halive := hp.loop_alive h
    unfold Process.fail
    split
    · rename_i hrunning
      exact hp.of_frame rfl rfl rfl rfl (fun hnull => by simp [hnull] at halive)
        (by simp [Process.quitLoop]) fun hfalse => by simp [hfalse] at hrunning
    · exact hp

lemma ordered_run {C : Process T F → Event T F → Prop} {left : Option CaptureStatus}
    {as : List (Event T F)} {p : Process T F}
    (h : Run (Process.step ti fl o) C (.init left) as p) : Ordered p :=
  h.invariant (ordered_init left) fun _ _ _ hp _ hs => ordered_step hp (step_of_eq hs)

/-! ### The exit status -/

/-- Something that the main thread needs could not be had. -/
def SetupFails : Event T F → Prop
  | .installHandlers ok | .makeLoop ok | .makeStream ok | .connect ok | .createThread ok =>
    ok = false
  | _ => False

def WorkerFails : Event T F → Prop
  | .startWorker ok _ => ok = false
  | _ => False

/-- What clears the flag, whatever it was. -/
def Clears : Event T F → Prop
  | .clearFlag | .signal | .streamFails => True
  | .startWorker ok _ => ok = false
  | _ => False

/-- The flag has been set and not been cleared since. -/
def Flagged (as : List (Event T F)) : Prop :=
  ∃ before after, as = before ++ .setFlag :: after ∧ ∀ a ∈ after, ¬ Clears a

/-- The stream has failed while the running flag was set. -/
def StreamLost (as : List (Event T F)) : Prop :=
  ∃ before after, as = before ++ .streamFails :: after ∧ Flagged before

lemma flagged_snoc {as : List (Event T F)} {a : Event T F} (ha : a ≠ .setFlag) :
    Flagged (as ++ [a]) ↔ Flagged as ∧ ¬ Clears a := by
  constructor
  · rintro ⟨before, after, heq, hafter⟩
    rcases List.eq_nil_or_concat after with rfl | ⟨rest, last, rfl⟩
    · exact absurd (List.append_inj' heq rfl).2 (by simpa using ha)
    · rw [List.concat_eq_append, ← List.cons_append, ← List.append_assoc] at heq
      obtain ⟨rfl, hlast⟩ := List.append_inj' heq rfl
      obtain rfl := List.singleton_inj.mp hlast
      exact ⟨⟨before, rest, rfl, fun b hb => hafter b (by simp [hb])⟩, hafter a (by simp)⟩
  · rintro ⟨⟨before, after, rfl, hafter⟩, hclear⟩
    refine ⟨before, after ++ [a], by simp, fun b hb => ?_⟩
    rcases List.mem_append.mp hb with hb | hb
    · exact hafter b hb
    · rwa [List.mem_singleton.mp hb]

lemma flagged_setFlag (as : List (Event T F)) : Flagged (as ++ [.setFlag]) :=
  ⟨as, [], rfl, by simp⟩

lemma streamLost_snoc {as : List (Event T F)} {a : Event T F} :
    StreamLost (as ++ [a]) ↔ StreamLost as ∨ a = .streamFails ∧ Flagged as := by
  constructor
  · rintro ⟨before, after, heq, hflagged⟩
    rcases List.eq_nil_or_concat after with rfl | ⟨rest, last, rfl⟩
    · obtain ⟨rfl, hlast⟩ := List.append_inj' heq rfl
      exact Or.inr ⟨List.singleton_inj.mp hlast, hflagged⟩
    · rw [List.concat_eq_append, ← List.cons_append, ← List.append_assoc] at heq
      obtain ⟨rfl, -⟩ := List.append_inj' heq rfl
      exact Or.inl ⟨before, rest, rfl, hflagged⟩
  · rintro (⟨before, after, rfl, hflagged⟩ | ⟨rfl, hflagged⟩)
    · exact ⟨before, after ++ [a], by simp, hflagged⟩
    · exact ⟨as, [], rfl, hflagged⟩

lemma running_step {p q : Process T F} {a : Event T F} (h : Step ti fl o p a q)
    (ha : a ≠ .setFlag) : q.running = true ↔ p.running = true ∧ ¬ Clears a := by
  cases h with
  | setFlag h => exact absurd rfl ha
  | streamFails h =>
    simp only [Clears, not_true_eq_false, and_false, iff_false]
    unfold Process.fail
    split
    · simp [Process.quitLoop]
    · assumption
  | workerStarted h => simp [Clears, Process.begin]
  | workerFailed h => simp [Clears, Process.begin, Process.quitLoop]
  | clearFlag h => simp [Clears]
  | signal hstart hexited => simp [Clears, Process.stop, Process.quitLoop]
  | _ => simp [Clears, Process.write]

lemma failed_step {p q : Process T F} {a : Event T F} (h : Step ti fl o p a q) :
    q.failed = true ↔ p.failed = true ∨ WorkerFails a ∨ a = .streamFails ∧ p.running = true := by
  cases h with
  | streamFails h =>
    unfold Process.fail
    split
    · rename_i hrunning
      simp [Process.quitLoop, hrunning]
    · rename_i hrunning
      simp [WorkerFails, hrunning]
  | workerStarted h => simp [WorkerFails, Process.begin]
  | workerFailed h => simp [WorkerFails, Process.begin, Process.quitLoop]
  | signal hstart hexited => simp [WorkerFails, Process.stop, Process.quitLoop]
  | _ => simp [WorkerFails, Process.write]

/-- Whether the process is to exit with a failure, once it cleans up. -/
def verdict : MainPoint → Option Bool
  | .destroyStream failing | .destroyLoop failing | .cleanup failing | .exited failing =>
    some failing
  | _ => none

/-- The verdict is passed when something could not be set up, and after the worker is joined. -/
lemma verdict_step {p q : Process T F} {a : Event T F} (h : Step ti fl o p a q) :
    (verdict q.main = verdict p.main ∧ ¬ SetupFails a) ∨
      (verdict p.main = none ∧ verdict q.main = some true ∧ SetupFails a) ∨
      (p.main = .joining ∧ a = .join ∧ verdict q.main = some p.failed ∧ q.failed = p.failed ∧
        q.running = p.running) := by
  cases h with
  | notInstalled h => exact Or.inr (Or.inl ⟨by rw [h]; rfl, rfl, rfl⟩)
  | noLoop h => exact Or.inr (Or.inl ⟨by rw [h]; rfl, rfl, rfl⟩)
  | noStream h => exact Or.inr (Or.inl ⟨by rw [h]; rfl, rfl, rfl⟩)
  | notConnected h => exact Or.inr (Or.inl ⟨by rw [h]; rfl, rfl, rfl⟩)
  | noThread h => exact Or.inr (Or.inl ⟨by rw [h]; rfl, rfl, rfl⟩)
  | join h hdone => exact Or.inr (Or.inr ⟨h, rfl, rfl, rfl, rfl⟩)
  | streamFails h =>
    refine Or.inl ⟨?_, id⟩
    unfold Process.fail
    split <;> rfl
  | workerStarted h => exact Or.inl ⟨rfl, id⟩
  | workerFailed h => exact Or.inl ⟨rfl, id⟩
  | goOn h hrunning => exact Or.inl ⟨rfl, id⟩
  | getOut h hrunning => exact Or.inl ⟨rfl, id⟩
  | round h hw => exact Or.inl ⟨rfl, id⟩
  | leave h => exact Or.inl ⟨rfl, id⟩
  | signal hstart hexited => exact Or.inl ⟨rfl, id⟩
  | _ h => exact Or.inl ⟨by simp [h, verdict], by simp [SetupFails]⟩

/-- What the flags and the verdict say of the past of the process. -/
structure Tells (as : List (Event T F)) (p : Process T F) : Prop where
  running : p.running = true ↔ Flagged as
  failed : p.failed = true ↔ (∃ a ∈ as, WorkerFails a) ∨ StreamLost as
  pending : verdict p.main = none → ∀ a ∈ as, ¬ SetupFails a
  passed : ∀ failing, verdict p.main = some failing → (failing = true ∧ ∃ a ∈ as, SetupFails a) ∨
    ((∀ a ∈ as, ¬ SetupFails a) ∧ p.running = false ∧ failing = p.failed)

/-- Once the process cleans up, a worker that is not there does not fail. -/
lemma failed_frame {p q : Process T F} {a : Event T F} (hp : Ordered p)
    (h : Step ti fl o p a q) {failing : Bool} (hverdict : verdict p.main = some failing)
    (hrunning : p.running = false) : q.running = false ∧ q.failed = p.failed := by
  have hquiet : WorkerPoint.Quiet p.thread := by
    by_contra hbusy
    rcases hp.waits hbusy with hmain | hmain | hmain
    all_goals
      rw [hmain] at hverdict
      cases hverdict
  have hflag : a ≠ .setFlag := by
    rintro rfl
    cases h with
    | setFlag h =>
      rw [h] at hverdict
      cases hverdict
  have hworker : ¬ WorkerFails a := by
    intro hfails
    cases h with
    | workerFailed h =>
      rw [h] at hquiet
      rcases hquiet with hcase | hcase <;> cases hcase
    | workerStarted h => cases hfails
    | _ => exact hfails
  refine ⟨Bool.eq_false_of_not_eq_true fun htrue => ?_, ?_⟩
  · rw [((running_step h hflag).mp htrue).1] at hrunning
    cases hrunning
  · rw [Bool.eq_iff_iff, failed_step h]
    simp [hworker, hrunning]

lemma tells_step {as : List (Event T F)} {p q : Process T F} {a : Event T F} (hp : Ordered p)
    (hpast : Tells as p) (h : Step ti fl o p a q) : Tells (as ++ [a]) q := by
  obtain ⟨hrunning, hfailed, hpending, hpassed⟩ := hpast
  refine ⟨?_, ?_, fun hnone => ?_, fun failing hsome => ?_⟩
  · by_cases ha : a = .setFlag
    · subst ha
      cases h
      exact iff_of_true rfl (flagged_setFlag as)
    · rw [running_step h ha, flagged_snoc ha, hrunning]
  · rw [failed_step h, hfailed, streamLost_snoc, hrunning]
    constructor
    · rintro ((⟨b, hb, hfails⟩ | hlost) | hfails | hlost)
      · exact Or.inl ⟨b, List.mem_append_left _ hb, hfails⟩
      · exact Or.inr (Or.inl hlost)
      · exact Or.inl ⟨a, by simp, hfails⟩
      · exact Or.inr (Or.inr hlost)
    · rintro (⟨b, hb, hfails⟩ | hlost | hlost)
      · rcases List.mem_append.mp hb with hb | hb
        · exact Or.inl (Or.inl ⟨b, hb, hfails⟩)
        · exact Or.inr (Or.inl (List.mem_singleton.mp hb ▸ hfails))
      · exact Or.inl (Or.inr hlost)
      · exact Or.inr (Or.inr hlost)
  · rcases verdict_step h with ⟨hsame, hok⟩ | ⟨-, htrue, -⟩ | ⟨-, -, hjoined, -⟩
    · rintro b hb
      rcases List.mem_append.mp hb with hb | hb
      · exact hpending (hsame.symm.trans hnone) b hb
      · rwa [List.mem_singleton.mp hb]
    · rw [htrue] at hnone
      cases hnone
    · rw [hjoined] at hnone
      cases hnone
  · rcases verdict_step h with ⟨hsame, hok⟩ | ⟨hnone, htrue, hfails⟩ |
      ⟨hmain, rfl, hjoined, hfailed', hrunning'⟩
    · rw [hsame] at hsome
      rcases hpassed failing hsome with ⟨htrue, b, hb, hfails⟩ | ⟨hnone, hclear, heq⟩
      · exact Or.inl ⟨htrue, b, List.mem_append_left _ hb, hfails⟩
      · obtain ⟨hclear', hfailed'⟩ := failed_frame hp h hsome hclear
        refine Or.inr ⟨fun b hb => ?_, hclear', heq.trans hfailed'.symm⟩
        rcases List.mem_append.mp hb with hb | hb
        · exact hnone b hb
        · rwa [List.mem_singleton.mp hb]
    · rw [htrue] at hsome
      exact Or.inl ⟨(Option.some.inj hsome).symm, a, by simp, hfails⟩
    · have hclear : p.running = false := by
        simp only [Ordered, hmain] at hp
        exact hp.2.2
      rw [hjoined] at hsome
      refine Or.inr ⟨fun b hb => ?_, hrunning'.trans hclear, ?_⟩
      · rcases List.mem_append.mp hb with hb | hb
        · exact hpending (by rw [hmain]; rfl) b hb
        · rw [List.mem_singleton.mp hb]
          exact id
      · rw [hfailed', Option.some.inj hsome]

lemma tells_run {C : Process T F → Event T F → Prop} {left : Option CaptureStatus}
    {as : List (Event T F)} {p : Process T F}
    (h : Run (Process.step ti fl o) C (.init left) as p) : Tells as p := by
  induction h with
  | nil =>
    refine ⟨iff_of_false (by simp [Process.init]) ?_, iff_of_false (by simp [Process.init]) ?_,
      fun _ => by simp, fun failing hsome => by cases hsome⟩
    · rintro ⟨before, after, heq, -⟩
      simp at heq
    · rintro (⟨a, ha, -⟩ | ⟨before, after, heq, -⟩)
      · simp at ha
      · simp at heq
  | snoc hrun _ hs ih => exact tells_step (ordered_run hrun) ih (step_of_eq hs)

/-- **What the exit status says.** In every order of the steps, the process exits with a failure if
something could not be set up, if the worker could not start, or if the stream was lost while the
running flag was set; a stream that goes away after the flag has been cleared is no failure. -/
theorem exit_status (ti : Times T) (fl : Floats F) (o : Judging F) (left : Option CaptureStatus)
    {as : List (Event T F)} {p : Process T F} {failing : Bool}
    (h : Run (Process.step ti fl o) (fun _ _ => True) (.init left) as p)
    (hexited : p.main = .exited failing) :
    failing = true ↔ (∃ a ∈ as, SetupFails a) ∨ (∃ a ∈ as, WorkerFails a) ∨ StreamLost as := by
  obtain ⟨-, hfailed, -, hpassed⟩ := tells_run h
  rcases hpassed failing (by rw [hexited]; rfl) with ⟨htrue, hfails⟩ | ⟨hnone, -, heq⟩
  · exact iff_of_true htrue (Or.inl hfails)
  · rw [heq, hfailed]
    constructor
    · exact Or.inr
    · rintro (⟨a, ha, hfails⟩ | hrest)
      · exact absurd hfails (hnone a ha)
      · exact hrest

/-- A listener that is set up and stopped by a signal in the middle of a round; the stream goes away
when it is destroyed. -/
def stopRun : List (Event ℤ ℤ) :=
  [.installHandlers true, .setFlag, .makeLoop true, .makeStream true, .connect true,
    .createThread true, .startWorker true 0, .checkFlag, .signal,
    .round ⟨160, 100, none, none, true⟩, .loopReturns, .checkFlag, .clearFlag, .leave, .join,
    .streamFails, .destroyStream, .destroyLoop, .cleanup true]

lemma stopRun_exec : ∃ p,
    exec (Process.step CaptureHealth.milliseconds integers CaptureHealth.pairs) (fun _ _ => true)
      (.init (some .unhealthy)) stopRun = some p ∧ p.main = .exited false :=
  ⟨_, rfl, rfl⟩

/-- A stream that goes away in the end is not lost. -/
theorem exit_status_stopped : ¬ StreamLost stopRun := by
  obtain ⟨p, hexec, hexited⟩ := stopRun_exec
  have hstatus := exit_status CaptureHealth.milliseconds integers CaptureHealth.pairs _
    (run_of_exec (fun _ _ _ => trivial) _ _ hexec) hexited
  intro hlost
  cases hstatus.mpr (Or.inr (Or.inr hlost))

/-! ### Cleaning up -/

/-- A step that asks a loop to return which is no longer there. -/
def Wild (p : Process T F) (a : Event T F) : Prop := a = .signal ∧ p.loop = .destroyed

lemma wild_step {p q : Process T F} {a : Event T F} (hp : Ordered p) (h : Step ti fl o p a q)
    (hwild : p.wild = false) (ha : ¬ Wild p a) : q.wild = false := by
  cases h with
  | signal hstart hexited =>
    have halive : p.loop ≠ .destroyed := fun hdestroyed => ha ⟨rfl, hdestroyed⟩
    simp [Process.stop, Process.quitLoop, hwild, halive]
  | streamFails h =>
    unfold Process.fail
    split
    · simp [Process.quitLoop, hwild, hp.loop_alive h]
    · exact hwild
  | workerFailed h =>
    have halive : p.loop = .alive := by
      rcases hp.waits (by simp [h, WorkerPoint.Quiet]) with hmain | hmain | hmain
      all_goals
        simp only [Ordered, hmain] at hp
        simp [hp]
    simp [Process.begin, Process.quitLoop, hwild, halive]
  | _ => exact hwild

/-- Nothing happens once the process has exited. -/
lemma exited_still {p : Process T F} (hp : Ordered p) {failing : Bool}
    (hexited : p.main = .exited failing) (a : Event T F) : Process.step ti fl o p a = none := by
  simp only [Ordered, hexited] at hp
  obtain ⟨hquiet, hstream⟩ := hp
  refine Option.eq_none_iff_forall_ne_some.mpr fun q hq => ?_
  have hbusy {t : WorkerPoint} (ht : p.thread = t) (hbusy : ¬ WorkerPoint.Quiet t) : False :=
    hbusy (ht ▸ hquiet)
  cases step_of_eq hq with
  | signal _ hother => exact hother failing hexited
  | streamFails hthere => simp [hstream] at hthere
  | workerStarted hthread => exact hbusy hthread (by simp [WorkerPoint.Quiet])
  | workerFailed hthread => exact hbusy hthread (by simp [WorkerPoint.Quiet])
  | goOn hthread _ => exact hbusy hthread (by simp [WorkerPoint.Quiet])
  | getOut hthread _ => exact hbusy hthread (by simp [WorkerPoint.Quiet])
  | round hthread _ => exact hbusy hthread (by simp [WorkerPoint.Quiet])
  | leave hthread => exact hbusy hthread (by simp [WorkerPoint.Quiet])
  | _ hmain =>
    rw [hexited] at hmain
    cases hmain

/-- The step with which the process exits is the clean-up, and it takes the status away if it
can. -/
lemma exited_by_cleanup {p q : Process T F} {a : Event T F} {failing : Bool} (hp : Ordered p)
    (hs : Process.step ti fl o p a = some q) (hexited : q.main = .exited failing) :
    ∃ unlinked, a = .cleanup unlinked ∧ (unlinked = true → q.status = none) := by
  have hbefore (hsame : p.main = .exited failing) : False := by
    rw [exited_still hp hsame a] at hs
    cases hs
  cases step_of_eq hs with
  | cleanup h => exact ⟨_, rfl, fun hunlinked => if_pos hunlinked⟩
  | streamFails h =>
    rw [Process.fail] at hexited
    split at hexited <;> exact (hbefore hexited).elim
  | workerStarted h => exact (hbefore hexited).elim
  | workerFailed h => exact (hbefore hexited).elim
  | goOn h hrunning => exact (hbefore hexited).elim
  | getOut h hrunning => exact (hbefore hexited).elim
  | round h hw => exact (hbefore hexited).elim
  | leave h => exact (hbefore hexited).elim
  | signal hstart hother => exact (hbefore hexited).elim
  | _ => cases hexited

lemma status_gone {left : Option CaptureStatus} {as : List (Event T F)} {p : Process T F}
    {failing : Bool} (h : Run (Process.step ti fl o) (fun _ _ => True) (.init left) as p)
    (hexited : p.main = .exited failing) (hunlinked : .cleanup false ∉ as) : p.status = none := by
  cases h with
  | nil => cases hexited
  | snoc hrun _ hs =>
    obtain ⟨unlinked, rfl, hgone⟩ := exited_by_cleanup (ordered_run hrun) hs hexited
    cases unlinked with
    | true => exact hgone rfl
    | false => exact absurd (List.mem_append_right _ List.mem_cons_self) hunlinked

/-- **Nothing is taken away too early.** In every order of the steps, the worker is not there, or is
done, when the main thread destroys what it uses; the status file is gone when the process has
exited, if it could be unlinked, and nothing happens after that. The loop is not used once it is
destroyed, unless by a signal that comes after that. -/
theorem cleanup_safe (ti : Times T) (fl : Floats F) (o : Judging F) (left : Option CaptureStatus)
    {as : List (Event T F)} {p : Process T F}
    (h : Run (Process.step ti fl o) (fun _ _ => True) (.init left) as p) :
    (verdict p.main ≠ none → WorkerPoint.Quiet p.thread) ∧
      (∀ failing, p.main = .exited failing → (.cleanup false ∉ as → p.status = none) ∧
        ∀ a, Process.step ti fl o p a = none) ∧
      (Run (Process.step ti fl o) (fun q a => ¬ Wild q a) (.init left) as p → p.wild = false) := by
  have hp := ordered_run h
  refine ⟨fun hverdict => ?_, fun failing hexited => ?_, fun hrun => ?_⟩
  · by_contra hbusy
    rcases hp.waits hbusy with hmain | hmain | hmain
    all_goals
      rw [hmain] at hverdict
      exact hverdict rfl
  · exact ⟨status_gone h hexited, exited_still hp hexited⟩
  · exact hrun.invariant (I := fun p => Ordered p ∧ p.wild = false)
      ⟨ordered_init left, rfl⟩ (fun t a u ht ha hs =>
        ⟨ordered_step ht.1 (step_of_eq hs), wild_step ht.1 (step_of_eq hs) ht.2 ha⟩) |>.2

/-- Nothing is left of the status, and nothing happens any more. -/
theorem cleanup_safe_stopped : ∃ p : Process ℤ ℤ, p.main = .exited false ∧ p.status = none ∧
    ∀ a, Process.step CaptureHealth.milliseconds integers CaptureHealth.pairs p a = none := by
  obtain ⟨p, hexec, hexited⟩ := stopRun_exec
  have hsafe := cleanup_safe CaptureHealth.milliseconds integers CaptureHealth.pairs _
    (run_of_exec (fun _ _ _ => trivial) _ _ hexec)
  obtain ⟨hgone, hstill⟩ := hsafe.2.1 false hexited
  exact ⟨p, hexited, hgone (by simp [stopRun]), hstill⟩

/-! ### Requests to stop -/

/-- A signal between the setting of the flag and the making of the loop. -/
def TooEarly (p : Process T F) (a : Event T F) : Prop := a = .signal ∧ p.main = .flagged

/-- Where the flag has been cleared, the loop has been asked to return. -/
def Heeded (p : Process T F) : Prop :=
  match p.main with
  | .flagged => p.running = true
  | .looped | .streamed | .connected | .looping => p.running = true ∨ p.quit = true
  | _ => True

/-- A change that does not clear the flag without asking the loop to return. -/
lemma Heeded.of_frame {p q : Process T F} (hordered : Ordered p) (hp : Heeded p)
    (hmain : q.main = p.main) (hflag : p.main = .flagged → p.running = true → q.running = true)
    (hquit : p.loop = .alive → p.running = true ∨ p.quit = true →
      q.running = true ∨ q.quit = true) : Heeded q := by
  unfold Heeded at hp ⊢
  unfold Ordered at hordered
  rw [hmain]
  split at hp <;> rename_i hpoint
  · exact hflag hpoint hp
  · rw [hpoint] at hordered
    exact hquit hordered.2.1 hp
  · rw [hpoint] at hordered
    exact hquit hordered.2 hp
  · rw [hpoint] at hordered
    exact hquit hordered.2 hp
  · rw [hpoint] at hordered
    exact hquit hordered.2 hp
  · trivial

lemma heeded_step {p q : Process T F} {a : Event T F} (hordered : Ordered p) (hp : Heeded p)
    (h : Step ti fl o p a q) (ha : ¬ TooEarly p a) : Heeded q := by
  cases h with
  | setFlag h => exact rfl
  | loopMade h =>
    simp only [Heeded, h] at hp ⊢
    exact Or.inl hp
  | streamMade h => simpa [Heeded, h] using hp
  | connected h => simpa [Heeded, h] using hp
  | threadCreated h => simpa [Heeded, h] using hp
  | signal hstart hexited =>
    refine hp.of_frame hordered rfl (fun hmain => absurd ⟨rfl, hmain⟩ ha) fun halive _ => Or.inr ?_
    simp [Process.stop, Process.quitLoop, halive]
  | streamFails h =>
    unfold Process.fail
    split
    · refine hp.of_frame hordered rfl (fun hmain _ => ?_) fun _ _ => Or.inr ?_
      · simp only [Ordered, hmain] at hordered
        rw [hordered.2.2.1] at h
        cases h
      · simp [Process.quitLoop, hordered.loop_alive h]
    · exact hp
  | workerStarted h => exact hp.of_frame hordered rfl (fun _ => id) fun _ => id
  | workerFailed h =>
    have hwaits := hordered.waits (by simp [h, WorkerPoint.Quiet])
    have halive : p.loop = .alive := by
      rcases hwaits with hmain | hmain | hmain
      all_goals
        simp only [Ordered, hmain] at hordered
        simp [hordered]
    refine hp.of_frame hordered rfl (fun hmain _ => ?_) fun _ _ => Or.inr ?_
    · rw [hmain] at hwaits
      simp at hwaits
    · simp [Process.begin, Process.quitLoop, halive]
  | goOn h hrunning => exact hp.of_frame hordered rfl (fun _ => id) fun _ => id
  | getOut h hrunning => exact hp.of_frame hordered rfl (fun _ => id) fun _ => id
  | round h hw => exact hp.of_frame hordered rfl (fun _ => id) fun _ => id
  | leave h => exact hp.of_frame hordered rfl (fun _ => id) fun _ => id
  | _ => exact trivial

/-- The loop waits for a request that has already come. -/
structure Stuck (p : Process T F) : Prop where
  cleared : p.running = false
  unasked : p.quit = false
  point : p.main ≠ .start ∧ p.main ≠ .armed ∧ p.main ≠ .returned ∧ p.main ≠ .joining

lemma stuck_step {p q : Process T F} {a : Event T F} (hp : Stuck p) (h : Step ti fl o p a q)
    (ha : a ≠ .signal ∧ ¬ WorkerFails a) : Stuck q := by
  obtain ⟨hcleared, hunasked, hstart, harmed, hreturned, hjoining⟩ := hp
  cases h with
  | installed h => exact absurd h hstart
  | notInstalled h => exact absurd h hstart
  | setFlag h => exact absurd h harmed
  | loopReturns h hquit =>
    rw [hunasked] at hquit
    cases hquit
  | clearFlag h => exact absurd h hreturned
  | join h hdone => exact absurd h hjoining
  | signal hstart hexited => exact absurd rfl ha.1
  | workerFailed h => exact absurd rfl ha.2
  | streamFails h =>
    rw [Process.fail, if_neg (by simp [hcleared])]
    exact ⟨hcleared, hunasked, hstart, harmed, hreturned, hjoining⟩
  | workerStarted h => exact ⟨hcleared, hunasked, hstart, harmed, hreturned, hjoining⟩
  | goOn h hrunning => exact ⟨hcleared, hunasked, hstart, harmed, hreturned, hjoining⟩
  | getOut h hrunning => exact ⟨hcleared, hunasked, hstart, harmed, hreturned, hjoining⟩
  | round h hw => exact ⟨hcleared, hunasked, hstart, harmed, hreturned, hjoining⟩
  | leave h => exact ⟨hcleared, hunasked, hstart, harmed, hreturned, hjoining⟩
  | _ => exact ⟨hcleared, hunasked, by simp⟩

/-- The loop has been made and has not returned. -/
def MainPoint.HasLoop (m : MainPoint) : Prop :=
  m = .looped ∨ m = .streamed ∨ m = .connected ∨ m = .looping

/-- **Which requests to stop are heeded.** In every order of the steps, the main loop has been asked
to return where the flag is cleared once the loop is made, unless a signal came between the setting
of the flag and the making of the loop; after such a signal the loop does not return until another
one comes or the worker fails to start. -/
theorem stop_heeded (ti : Times T) (fl : Floats F) (o : Judging F) (left : Option CaptureStatus) :
    (∀ as (p : Process T F),
      Run (Process.step ti fl o) (fun q a => ¬ TooEarly q a) (.init left) as p →
        MainPoint.HasLoop p.main → p.running = false → p.quit = true) ∧
    ∀ as (p q : Process T F), Run (Process.step ti fl o) (fun _ _ => True) (.init left) as p →
      p.main = .flagged → ∀ bs, Run (Process.step ti fl o)
        (fun _ b => b ≠ .signal ∧ ¬ WorkerFails b) p.stop bs q →
          q.main ≠ .returned ∧ q.quit = false := by
  constructor
  · intro as p h hmain hcleared
    have hinv := h.invariant (I := fun p => Ordered p ∧ Heeded p)
      ⟨ordered_init left, trivial⟩ fun t a u ht ha hs =>
        ⟨ordered_step ht.1 (step_of_eq hs), heeded_step ht.1 ht.2 (step_of_eq hs) ha⟩
    have hheeded : p.running = true ∨ p.quit = true := by
      have hheeded := hinv.2
      rcases hmain with hmain | hmain | hmain | hmain <;> simpa only [Heeded, hmain] using hheeded
    rcases hheeded with hrunning | hquit
    · rw [hcleared] at hrunning
      cases hrunning
    · exact hquit
  · intro as p q h hmain bs hbs
    have hp := ordered_run h
    simp only [Ordered, hmain] at hp
    have hstuck : Stuck p.stop := by
      refine ⟨rfl, ?_, ?_⟩
      · simp [Process.stop, Process.quitLoop, hp.2.1, hp.2.2.2]
      · simp [Process.stop, Process.quitLoop, hmain]
    have hend := hbs.invariant (I := Stuck) hstuck
      fun t a u ht ha hs => stuck_step ht (step_of_eq hs) ha
    exact ⟨hend.point.2.2.1, hend.unasked⟩

/-- A signal comes as soon as the flag is set, and the worker finds it cleared when it starts. -/
def earlyRun : List (Event ℤ ℤ) :=
  [.makeLoop true, .makeStream true, .connect true, .createThread true, .startWorker true 0,
    .checkFlag, .leave]

/-- Nobody asks the loop to return. -/
def goesOn : Event T F → Bool
  | .signal => false
  | .startWorker ok _ => ok
  | _ => true

/-- The worker is done, and the main loop waits. -/
theorem stop_heeded_early : ∃ p : Process ℤ ℤ, p.main = .looping ∧ p.thread = .done ∧
    p.quit = false := by
  obtain ⟨p, q, hexec, hflagged, hend, hlooping, hdone⟩ : ∃ p q, exec
      (Process.step CaptureHealth.milliseconds integers CaptureHealth.pairs) (fun _ _ => true)
        (.init none) [.installHandlers true, .setFlag] = some p ∧ p.main = .flagged ∧ exec
      (Process.step CaptureHealth.milliseconds integers CaptureHealth.pairs)
        (fun _ => goesOn)
        p.stop earlyRun = some q ∧ q.main = .looping ∧ q.thread = .done :=
    ⟨_, _, rfl, rfl, rfl, rfl, rfl⟩
  have hrun := run_of_exec (C := fun _ b => b ≠ .signal ∧ ¬ WorkerFails b) (by
    intro _ b hb
    cases b with
    | signal => exact absurd hb Bool.false_ne_true
    | startWorker ok now => exact ⟨by simp, fun hfails => absurd (hfails.symm.trans hb) (by simp)⟩
    | _ => exact ⟨by simp, id⟩) _ _ hend
  exact ⟨q, hlooping, hdone, ((stop_heeded CaptureHealth.milliseconds integers CaptureHealth.pairs
    none).2 _ _ _ (run_of_exec (fun _ _ _ => trivial) _ _ hexec) hflagged _ hrun).2⟩

/-! ### The last round -/

def IsRound : Event T F → Bool
  | .round _ => true
  | _ => false

/-- The rounds that the worker has begun and not ended. -/
def begun (p : Process T F) : ℕ := if p.thread = .busy then 1 else 0

/-- The flag is cleared, and nothing sets it any more. -/
structure Stopped (p : Process T F) : Prop where
  cleared : p.running = false
  point : p.main ≠ .start ∧ p.main ≠ .armed

lemma stopped_step {p q : Process T F} {a : Event T F} (hp : Stopped p)
    (h : Step ti fl o p a q) : Stopped q ∧ (if IsRound a then 1 else 0) + begun q ≤ begun p := by
  obtain ⟨hcleared, hstart, harmed⟩ := hp
  cases h with
  | installed h => exact absurd h hstart
  | notInstalled h => exact absurd h hstart
  | setFlag h => exact absurd h harmed
  | goOn h hrunning =>
    rw [hcleared] at hrunning
    cases hrunning
  | round h hw =>
    refine ⟨⟨hcleared, hstart, harmed⟩, ?_⟩
    simp [IsRound, begun, Process.write, h]
  | streamFails h =>
    rw [Process.fail, if_neg (by simp [hcleared])]
    exact ⟨⟨hcleared, hstart, harmed⟩, by simp [IsRound]⟩
  | workerStarted h => exact ⟨⟨hcleared, hstart, harmed⟩, by simp [IsRound, begun, Process.begin]⟩
  | workerFailed h =>
    exact ⟨⟨rfl, hstart, harmed⟩, by simp [IsRound, begun, Process.begin, Process.quitLoop]⟩
  | getOut h hrunning => exact ⟨⟨hcleared, hstart, harmed⟩, by simp [IsRound, begun]⟩
  | leave h => exact ⟨⟨hcleared, hstart, harmed⟩, by simp [IsRound, begun]⟩
  | signal hstart' hexited =>
    exact ⟨⟨rfl, hstart, harmed⟩, Nat.le_of_eq (Nat.zero_add _)⟩
  | clearFlag h => exact ⟨⟨rfl, by simp⟩, by simp [IsRound, begun]⟩
  | _ => exact ⟨⟨hcleared, by simp⟩, by simp [IsRound, begun]⟩

/-- **A stopped worker goes round no more than once.** Where the flag is cleared after it has been
set, it stays so, and the worker ends at most the round that it has begun. -/
theorem stopped_for_good (ti : Times T) (fl : Floats F) (o : Judging F) {p q : Process T F}
    (hp : Stopped p) {as : List (Event T F)}
    (h : Run (Process.step ti fl o) (fun _ _ => True) p as q) :
    q.running = false ∧ as.countP IsRound ≤ if p.thread = .busy then 1 else 0 := by
  have hinv : Stopped q ∧ as.countP IsRound + begun q ≤ begun p := by
    induction h with
    | nil => exact ⟨hp, by simp⟩
    | snoc _ _ hs ih =>
      obtain ⟨hstopped, hcount⟩ := ih
      obtain ⟨hstopped', hstep⟩ := stopped_step hstopped (step_of_eq hs)
      refine ⟨hstopped', ?_⟩
      rw [List.countP_append, List.countP_singleton]
      omega
  exact ⟨hinv.1.cleared, (Nat.le_add_right _ _).trans hinv.2⟩

/-- A worker that has begun a round when a signal comes. -/
def interrupted : Process ℤ ℤ :=
  ⟨.looping, .busy, false, false, .alive, true, true,
    some (.init CaptureHealth.milliseconds 0), some .starting, false⟩

/-- The worker ends its round, and goes. -/
theorem stopped_for_good_interrupted : ∃ q : Process ℤ ℤ, q.thread = .done ∧ q.running = false := by
  obtain ⟨q, hend, hdone⟩ : ∃ q, exec
      (Process.step CaptureHealth.milliseconds integers CaptureHealth.pairs) (fun _ _ => true)
        interrupted [.round ⟨160, 100, none, none, true⟩, .checkFlag, .leave] = some q ∧
          q.thread = .done := ⟨_, rfl, rfl⟩
  exact ⟨q, hdone, (stopped_for_good CaptureHealth.milliseconds integers CaptureHealth.pairs
    (p := interrupted) ⟨rfl, by decide, by decide⟩
      (run_of_exec (fun _ _ _ => trivial) _ _ hend)).1⟩

end HermesRealtime.ListenerRuns

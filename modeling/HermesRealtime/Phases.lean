import HermesRealtime.Values
import Mathlib.Data.List.Chain

/-!
The lifecycle of a voice session: its phases, the transition table, and the history that
`SessionState` keeps of them.
-/

namespace HermesRealtime.Phases

open Values

inductive SessionPhase
  | idle | launching | connecting | live | stopping | closed | failed
  deriving DecidableEq

namespace SessionPhase

def value : SessionPhase → String
  | .idle => "idle"
  | .launching => "launching"
  | .connecting => "connecting"
  | .live => "live"
  | .stopping => "stopping"
  | .closed => "closed"
  | .failed => "failed"

/-- `_TRANSITIONS`. -/
def transitions : SessionPhase → List SessionPhase
  | .idle => [.launching]
  | .launching => [.connecting, .live, .stopping, .failed]
  | .connecting => [.live, .stopping, .failed]
  | .live => [.stopping, .failed]
  | .stopping => [.stopping, .closed, .failed]
  | .closed => []
  | .failed => []

/-- The phases of a session that holds the controller's slot. -/
def Active (p : SessionPhase) : Prop :=
  p = .launching ∨ p = .connecting ∨ p = .live ∨ p = .stopping

/-- The phases a session ends in. -/
def Final (p : SessionPhase) : Prop := p = .closed ∨ p = .failed

lemma Final.not_active {p : SessionPhase} (h : p.Final) : ¬ p.Active := by
  rcases h with rfl | rfl <;> simp [Active]

end SessionPhase

def transitionError (previous next : SessionPhase) : PyError :=
  .sessionTransitionError s!"cannot transition from {previous.value} to {next.value}"

/-- The first step of a history that the table does not allow. -/
def illegalStep (history : List SessionPhase) : Option (SessionPhase × SessionPhase) :=
  (history.zip history.tail).find? fun step => step.2 ∉ step.1.transitions

/-- `__post_init__`: what a phase and a history must satisfy to make a `SessionState`. -/
def postInit (phase : SessionPhase) (history : List SessionPhase) : Except PyError Unit :=
  if history = [] then .error (.valueError "history must not be empty")
  else if history.head? ≠ some .idle then
    .error (.valueError "history must begin with SessionPhase.IDLE")
  else match illegalStep history with
    | some (previous, next) => .error (transitionError previous next)
    | none =>
      if history.getLast? ≠ some phase then
        .error (.valueError "history must end at the current phase")
      else .ok ()

lemma illegalStep_none_iff (history : List SessionPhase) :
    illegalStep history = none ↔ List.IsChain (fun p n => n ∈ p.transitions) history := by
  induction history with
  | nil => simp [illegalStep]
  | cons p l ih =>
    rcases l with _ | ⟨n, l⟩
    · simp [illegalStep]
    · rw [List.isChain_cons_cons, ← ih]
      by_cases hn : n ∈ p.transitions <;> simp [illegalStep, hn]

/-- **What `__post_init__` accepts**: histories that begin with `IDLE`, follow the table and
end at the current phase. -/
lemma postInit_ok_iff (phase : SessionPhase) (history : List SessionPhase) :
    postInit phase history = .ok () ↔
      history.head? = some .idle ∧ List.IsChain (fun p n => n ∈ p.transitions) history ∧
        history.getLast? = some phase := by
  rw [← illegalStep_none_iff]
  unfold postInit
  rcases illegalStep history with _ | ⟨p, n⟩
  · split_ifs <;> simp_all
  · split_ifs <;> simp

/-- A phase with the history that led to it. No value violates `__post_init__`. -/
structure SessionState where
  sessionId : String
  phase : SessionPhase
  history : List SessionPhase
  legal : postInit phase history = .ok ()

namespace SessionState

def new (sessionId : String) : SessionState := ⟨sessionId, .idle, [.idle], by decide⟩

lemma legal_snoc (s : SessionState) {next : SessionPhase} (h : next ∈ s.phase.transitions) :
    postInit next (s.history ++ [next]) = .ok () := by
  obtain ⟨hhead, hchain, hlast⟩ := (postInit_ok_iff _ _).mp s.legal
  refine (postInit_ok_iff _ _).mpr ⟨?_, ?_, by simp⟩
  · simp [List.head?_append, hhead]
  · refine List.isChain_append.mpr ⟨hchain, .singleton next, ?_⟩
    simpa [hlast] using h

/-- `transition_to`. -/
def transitionTo (s : SessionState) (next : SessionPhase) : Except PyError SessionState :=
  if h : next ∈ s.phase.transitions then
    if next = s.phase ∧ s.phase = .stopping then .ok s
    else .ok ⟨s.sessionId, next, s.history ++ [next], s.legal_snoc h⟩
  else .error (transitionError s.phase next)

/-- `_transition` of the controller: a transition to the phase already reached is accepted
where the table has no entry for it. -/
def transition (s : SessionState) (next : SessionPhase) : Except PyError SessionState :=
  match s.transitionTo next with
  | .ok t => .ok t
  | .error e => if s.phase = next then .ok s else .error e

lemma phase_mem_history (s : SessionState) : s.phase ∈ s.history := by
  obtain ⟨-, -, hlast⟩ := (postInit_ok_iff _ _).mp s.legal
  exact List.mem_of_getLast? hlast

lemma transitionTo_ok {s t : SessionState} {next : SessionPhase}
    (h : s.transitionTo next = .ok t) :
    t.phase = next ∧ t.sessionId = s.sessionId ∧
      (t = s ∨ next ∈ s.phase.transitions ∧ t.history = s.history ++ [next]) := by
  unfold transitionTo at h
  split_ifs at h with hmem hstop
  · cases h
    exact ⟨hstop.1.symm, rfl, .inl rfl⟩
  · cases h
    exact ⟨rfl, rfl, .inr ⟨hmem, rfl⟩⟩

/-- What an accepted transition does: nothing when the phase is already there, otherwise it
appends a phase that the table allows. -/
lemma transition_ok {s t : SessionState} {next : SessionPhase} (h : s.transition next = .ok t) :
    t.phase = next ∧ t.sessionId = s.sessionId ∧
      (t = s ∨ next ∈ s.phase.transitions ∧ t.history = s.history ++ [next]) := by
  unfold transition at h
  rcases hto : s.transitionTo next with e | u
  · simp only [hto] at h
    split_ifs at h with hsame
    cases h
    exact ⟨hsame, rfl, .inl rfl⟩
  · simp only [hto] at h
    cases h
    exact transitionTo_ok hto

lemma transition_of_mem {s : SessionState} {next : SessionPhase}
    (h : next ∈ s.phase.transitions) : ∃ t, s.transition next = .ok t := by
  unfold transition transitionTo
  rw [dif_pos h]
  by_cases hstop : next = s.phase ∧ s.phase = .stopping
  · exact ⟨s, by rw [if_pos hstop]⟩
  · exact ⟨_, by rw [if_neg hstop]⟩

/-! ### What a history tells -/

/-- A property that no entry of the table leads out of holds at the end of a history that has
reached it. -/
lemma last_of_mem {P : SessionPhase → Prop} (hP : ∀ p, P p → ∀ q ∈ p.transitions, P q)
    {l : List SessionPhase} (hchain : List.IsChain (fun p n => n ∈ p.transitions) l)
    {p : SessionPhase} (hp : p ∈ l) (h : P p) : ∀ q ∈ l.getLast?, P q := by
  induction l generalizing p with
  | nil => simp at hp
  | cons a l ih =>
    rcases l with _ | ⟨b, l⟩
    · obtain rfl : p = a := by simpa using hp
      simpa using h
    · rw [List.isChain_cons_cons] at hchain
      rw [List.getLast?_cons_cons]
      rcases List.mem_cons.mp hp with rfl | hp
      · exact ih hchain.2 List.mem_cons_self (hP p h b hchain.1)
      · exact ih hchain.2 hp h

/-- … and of everything after it. -/
lemma mem_after {P : SessionPhase → Prop} (hP : ∀ p, P p → ∀ q ∈ p.transitions, P q)
    {l m : List SessionPhase} (hchain : List.IsChain (fun p n => n ∈ p.transitions) (l ++ m))
    {p : SessionPhase} (hp : p ∈ l) (h : P p) : ∀ q ∈ m, P q := by
  intro q hq
  obtain ⟨a, b, rfl⟩ := List.append_of_mem hq
  have hpre : l ++ (a ++ [q]) <+: l ++ (a ++ q :: b) := ⟨b, by simp⟩
  have hchain' := hchain.prefix hpre
  have hp' : p ∈ l ++ (a ++ [q]) := List.mem_append_left _ hp
  exact last_of_mem hP hchain' hp' h q (by simp)

/-- A session that has been live is live, or its teardown has been asked for. -/
lemma late_of_live {s : SessionState} (h : .live ∈ s.history) :
    s.phase = .live ∨ s.phase = .stopping ∨ s.phase.Final := by
  obtain ⟨-, hchain, hlast⟩ := (postInit_ok_iff _ _).mp s.legal
  refine last_of_mem (P := fun p => p = .live ∨ p = .stopping ∨ p.Final) ?_ hchain h
    (.inl rfl) _ hlast
  rintro p (rfl | rfl | rfl | rfl) <;> simp [SessionPhase.transitions, SessionPhase.Final]

/-- A session whose teardown has been asked for does not go live any more. -/
lemma live_before {s t : SessionState} (hpre : s.history <+: t.history)
    (hover : s.phase = .stopping ∨ s.phase.Final) (h : .live ∈ t.history) : .live ∈ s.history := by
  obtain ⟨m, hm⟩ := hpre
  obtain ⟨-, hchain, -⟩ := (postInit_ok_iff _ _).mp t.legal
  rw [← hm] at hchain h
  rcases List.mem_append.mp h with h | h
  · exact h
  · have hafter := mem_after (P := fun p => p = .stopping ∨ p.Final) ?_ hchain
      s.phase_mem_history hover .live h
    · simp [SessionPhase.Final] at hafter
    · rintro p (rfl | rfl | rfl) <;> simp [SessionPhase.transitions, SessionPhase.Final]

end SessionState

end HermesRealtime.Phases

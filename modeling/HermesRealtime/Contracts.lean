import HermesRealtime.Op

/-!
Contracts of computations that may raise: what holds before, what holds of the value and the state
when the computation ends with a value, and what holds of the exception and the state when it
raises. A `try` statement hands what its body raises to the handler.
-/

namespace HermesRealtime.Op

variable {σ ε α β : Type}

/-- `try: x except: ..`; the handler raises again what it does not catch. -/
def catching (x : Op σ ε α) (handler : ε → Op σ ε α) : Op σ ε α := fun s =>
  match x s with
  | (t, .ok a) => (t, .ok a)
  | (t, .error e) => handler e t

/-- The value and the state are in `Q`, the exception and the state in `E`. -/
def Ends (Q : α → σ → Prop) (E : ε → σ → Prop) : σ × Except ε α → Prop
  | (t, .ok a) => Q a t
  | (t, .error e) => E e t

/-- From a state with `P` the computation ends in `Q`, or raises in `E`. -/
def Meets (P : σ → Prop) (x : Op σ ε α) (Q : α → σ → Prop) (E : ε → σ → Prop) : Prop :=
  ∀ s, P s → Ends Q E (x s)

namespace Meets

variable {P P' : σ → Prop} {Q Q' : α → σ → Prop} {R : β → σ → Prop} {E E' F : ε → σ → Prop}
  {x : Op σ ε α} {f : α → Op σ ε β}

lemma pure {a : α} (h : ∀ s, P s → Q a s) : Meets P (Pure.pure a : Op σ ε α) Q E := h

lemma raise {e : ε} (h : ∀ s, P s → E e s) : Meets P (Op.raise e : Op σ ε α) Q E := h

lemma modify {g : σ → σ} {Q : Unit → σ → Prop} (h : ∀ s, P s → Q () (g s)) :
    Meets P (Op.modify g : Op σ ε Unit) Q E := h

lemma get_bind {f : σ → Op σ ε β} (h : ∀ s, P s → Meets (· = s) (f s) R E) :
    Meets P (Op.get >>= f) R E :=
  fun s hs => h s hs s rfl

lemma bind (hx : Meets P x Q E) (hf : ∀ a, Meets (Q a) (f a) R E) : Meets P (x >>= f) R E := by
  intro s hs
  have hstart := hx s hs
  rw [bind_apply]
  rcases hxs : x s with ⟨t, e | a⟩ <;> rw [hxs] at hstart
  · exact hstart
  · exact hf a t hstart

lemma catching {handler : ε → Op σ ε α} (hx : Meets P x Q E)
    (hhandler : ∀ e, Meets (E e) (handler e) Q F) : Meets P (Op.catching x handler) Q F := by
  intro s hs
  have hbody := hx s hs
  unfold Op.catching
  rcases hxs : x s with ⟨t, e | a⟩ <;> rw [hxs] at hbody
  · exact hhandler e t hbody
  · exact hbody

lemma ite {c : Prop} [Decidable c] {x y : Op σ ε α} (hx : c → Meets P x Q E)
    (hy : ¬ c → Meets P y Q E) : Meets P (if c then x else y) Q E := by
  by_cases h : c
  · rw [if_pos h]
    exact hx h
  · rw [if_neg h]
    exact hy h

lemma mono (hx : Meets P x Q E) (hP : ∀ s, P' s → P s) (hQ : ∀ a s, Q a s → Q' a s)
    (hE : ∀ e s, E e s → E' e s) : Meets P' x Q' E' := by
  intro s hs
  have hbody := hx s (hP s hs)
  rcases hxs : x s with ⟨t, e | a⟩ <;> rw [hxs] at hbody
  · exact hE e t hbody
  · exact hQ a t hbody

lemma before (hx : Meets P x Q E) (hP : ∀ s, P' s → P s) : Meets P' x Q E :=
  hx.mono hP (fun _ _ hs => hs) fun _ _ hs => hs

lemma after (hx : Meets P x Q E) (hQ : ∀ a s, Q a s → Q' a s) : Meets P x Q' E :=
  hx.mono (fun _ hs => hs) hQ fun _ _ hs => hs

lemma raising (hx : Meets P x Q E) (hE : ∀ e s, E e s → E' e s) : Meets P x Q E' :=
  hx.mono (fun _ hs => hs) (fun _ _ hs => hs) hE

/-- What does not depend on the state is a hypothesis. -/
lemma fact {c : Prop} (h : c → Meets P x Q E) : Meets (fun s => c ∧ P s) x Q E :=
  fun s hs => h hs.1 s hs.2

/-- A computation that does not raise. -/
lemma total (hx : Meets P x Q fun _ _ => False) : Meets P x Q E :=
  hx.raising fun _ _ hs => hs.elim

end Meets

/-! ### Computations with a budget -/

/-- The second computation does what the first does, unless the first ends with the exception. -/
def Refines (budget : ε) (x y : Op σ ε α) : Prop := ∀ s, (x s).2 ≠ .error budget → y s = x s

namespace Refines

variable {budget : ε} {x y : Op σ ε α} {f g : α → Op σ ε β}

lemma refl (x : Op σ ε α) : Refines budget x x := fun _ _ => rfl

lemma out (y : Op σ ε α) : Refines budget (Op.raise budget) y := fun _ h => absurd rfl h

lemma bind (hx : Refines budget x y) (hf : ∀ a, Refines budget (f a) (g a)) :
    Refines budget (x >>= f) (y >>= g) := by
  intro s hs
  rw [bind_apply] at hs ⊢
  rw [bind_apply]
  have hbody := hx s
  rcases hxs : x s with ⟨t, e | a⟩
  · simp only [hxs] at hs hbody ⊢
    rw [hbody (by simpa using hs)]
  · simp only [hxs] at hs hbody ⊢
    rw [hbody (by simp)]
    exact hf a t hs

lemma ite {c : Prop} [Decidable c] {x x' y y' : Op σ ε α} (hx : Refines budget x x')
    (hy : Refines budget y y') :
    Refines budget (if c then x else y) (if c then x' else y') := by
  split
  · exact hx
  · exact hy

/-- The handler does not catch the exception. -/
lemma catching {handler : ε → Op σ ε α} (hx : Refines budget x y)
    (hpass : ∀ s, handler budget s = (s, .error budget)) :
    Refines budget (Op.catching x handler) (Op.catching y handler) := by
  intro s hs
  unfold Op.catching at hs ⊢
  have hbody := hx s
  rcases hxs : x s with ⟨t, e | a⟩
  · simp only [hxs] at hs hbody ⊢
    have hne : e ≠ budget := by
      rintro rfl
      exact hs (by rw [hpass])
    rw [hbody (by simpa using hne)]
  · rw [hbody (by simp [hxs]), hxs]

end Refines

/-- A bigger budget changes nothing once the budget is big enough, and for every state some budget
is. -/
structure Steady (budget : ε) (x : ℕ → Op σ ε α) : Prop where
  grows : ∀ n m, n ≤ m → Refines budget (x n) (x m)
  settles : ∀ s, ∃ n, (x n s).2 ≠ .error budget

namespace Steady

variable {budget : ε} {x y : ℕ → Op σ ε α} {f : ℕ → α → Op σ ε β}

/-- A computation that has no use for the budget. -/
lemma const {x : Op σ ε α} (h : ∀ s, (x s).2 ≠ .error budget) : Steady budget fun _ => x :=
  ⟨fun _ _ _ => .refl x, fun s => ⟨0, h s⟩⟩

lemma pure (a : α) : Steady budget fun _ => (Pure.pure a : Op σ ε α) :=
  const fun _ => by simp

lemma bind (hx : Steady budget x) (hf : ∀ a, Steady budget fun n => f n a) :
    Steady budget fun n => x n >>= f n := by
  refine ⟨fun n m hle => .bind (hx.grows n m hle) fun a => (hf a).grows n m hle, fun s => ?_⟩
  obtain ⟨n, hn⟩ := hx.settles s
  rcases hrun : x n s with ⟨t, e | a⟩
  · refine ⟨n, ?_⟩
    rw [bind_apply, hrun]
    simpa [hrun] using hn
  obtain ⟨m, hm⟩ := (hf a).settles t
  have hfirst : x (max n m) s = (t, .ok a) := by
    rw [← hrun]
    exact hx.grows n _ (Nat.le_max_left n m) s hn
  have hsecond : f (max n m) a t = f m a t := (hf a).grows m _ (Nat.le_max_right n m) t hm
  refine ⟨max n m, ?_⟩
  rw [bind_apply, hfirst]
  show (f (max n m) a t).2 ≠ .error budget
  rwa [hsecond]

lemma ite {c : Prop} [Decidable c] (hx : Steady budget x) (hy : Steady budget y) :
    Steady budget fun n => if c then x n else y n := by
  by_cases h : c
  · simpa only [if_pos h] using hx
  · simpa only [if_neg h] using hy

/-- From some budget on the computation ends in one way. -/
lemma eventually (hx : Steady budget x) (s : σ) :
    ∃ n r, r.2 ≠ .error budget ∧ ∀ m, n ≤ m → x m s = r := by
  obtain ⟨n, hn⟩ := hx.settles s
  exact ⟨n, x n s, hn, fun m hle => hx.grows n m hle s hn⟩

end Steady

end HermesRealtime.Op

import Mathlib.Tactic.Common

/-!
Computations over a mutable state that may raise, where the state changed so far stays
changed when they do.

This is what a method that mutates its object and lets an exception escape does: unlike in
a transaction, the caller that catches the exception sees the half-made change. `Keeps R`
says that whatever way the computation ends, `R` relates the state before to the state
after.
-/

namespace HermesRealtime

/-- A computation over `σ` with exceptions `ε`. -/
def Op (σ ε α : Type) : Type := σ → σ × Except ε α

namespace Op

variable {σ ε α β : Type}

instance : Monad (Op σ ε) where
  pure a := fun s => (s, .ok a)
  bind x f := fun s =>
    match x s with
    | (t, .ok a) => f a t
    | (t, .error e) => (t, .error e)

/-- The current state. -/
def get : Op σ ε σ := fun s => (s, .ok s)

def modify (f : σ → σ) : Op σ ε Unit := fun s => (f s, .ok ())

def raise (e : ε) : Op σ ε α := fun s => (s, .error e)

/-- Raises what `r` raises, and gives its value otherwise. -/
def ofExcept (r : Except ε α) : Op σ ε α := fun s => (s, r)

@[simp] lemma pure_apply (a : α) (s : σ) : (pure a : Op σ ε α) s = (s, .ok a) := rfl
@[simp] lemma get_apply (s : σ) : (get : Op σ ε σ) s = (s, .ok s) := rfl
@[simp] lemma modify_apply (f : σ → σ) (s : σ) : (modify f : Op σ ε Unit) s = (f s, .ok ()) := rfl
@[simp] lemma raise_apply (e : ε) (s : σ) : (raise e : Op σ ε α) s = (s, .error e) := rfl
@[simp] lemma ofExcept_apply (r : Except ε α) (s : σ) : (ofExcept r : Op σ ε α) s = (s, r) := rfl

lemma bind_apply (x : Op σ ε α) (f : α → Op σ ε β) (s : σ) :
    (x >>= f) s = match x s with
      | (t, .ok a) => f a t
      | (t, .error e) => (t, .error e) := rfl

lemma bind_of_ok {x : Op σ ε α} {f : α → Op σ ε β} {s t : σ} {a : α} (h : x s = (t, .ok a)) :
    (x >>= f) s = f a t := by
  rw [bind_apply, h]

lemma bind_of_error {x : Op σ ε α} {f : α → Op σ ε β} {s t : σ} {e : ε}
    (h : x s = (t, .error e)) : (x >>= f) s = (t, .error e) := by
  rw [bind_apply, h]

@[simp] lemma get_bind (f : σ → Op σ ε β) (s : σ) : (get >>= f) s = f s s := rfl
@[simp] lemma modify_bind (g : σ → σ) (f : Unit → Op σ ε β) (s : σ) :
    (modify g >>= f) s = f () (g s) := rfl
@[simp] lemma raise_bind (e : ε) (f : α → Op σ ε β) (s : σ) :
    ((raise e : Op σ ε α) >>= f) s = (s, .error e) := rfl
@[simp] lemma pure_bind_apply (a : α) (f : α → Op σ ε β) (s : σ) :
    ((pure a : Op σ ε α) >>= f) s = f a s := rfl

/-- What is returned at the end does not matter to the state. -/
lemma bind_pure_fst (x : Op σ ε α) (f : α → β) (s : σ) :
    ((x >>= fun a => pure (f a)) s).1 = (x s).1 := by
  rw [bind_apply]
  rcases x s with ⟨t, e | a⟩ <;> rfl

/-- A computation without a value is what it was when its value has been replaced and dropped. -/
lemma bind_pure_unit (x : Op σ ε Unit) (b : β) (s : σ) :
    ((x >>= fun _ => pure b) >>= fun _ => (pure () : Op σ ε Unit)) s = x s := by
  rw [bind_apply, bind_apply]
  rcases x s with ⟨t, e | a⟩ <;> rfl

lemma ite_apply (c : Prop) [Decidable c] (x y : Op σ ε α) (s : σ) :
    (if c then x else y) s = if c then x s else y s := by
  split <;> rfl

/-! ### Relating the state before to the state after -/

/-- However `x` ends, `R` relates the state before to the state after. -/
def Keeps (R : σ → σ → Prop) (x : Op σ ε α) : Prop := ∀ s, R s (x s).1

namespace Keeps

variable {R : σ → σ → Prop} {x : Op σ ε α} {f : α → Op σ ε β}

lemma pure [Std.Refl R] (a : α) : Keeps R (Pure.pure a : Op σ ε α) := fun s => refl_of R s

lemma raise [Std.Refl R] (e : ε) : Keeps R (Op.raise e : Op σ ε α) := fun s => refl_of R s

lemma ofExcept [Std.Refl R] (r : Except ε α) : Keeps R (Op.ofExcept r : Op σ ε α) :=
  fun s => refl_of R s

lemma modify {g : σ → σ} (h : ∀ s, R s (g s)) : Keeps R (Op.modify g : Op σ ε Unit) := h

/-- Reading the state gives the rest of the computation a state to start from that it may
rely on. -/
lemma get_bind {f : σ → Op σ ε β} (h : ∀ s, R s (f s s).1) : Keeps R (Op.get >>= f) := h

lemma bind [IsTrans σ R] (hx : Keeps R x) (hf : ∀ a, Keeps R (f a)) : Keeps R (x >>= f) := by
  intro s
  rw [bind_apply]
  rcases h : x s with ⟨t, e | a⟩
  · simpa [h] using hx s
  · exact trans_of R (by simpa [h] using hx s) (hf a t)

lemma ite {c : Prop} [Decidable c] {x y : Op σ ε α} (hx : Keeps R x) (hy : Keeps R y) :
    Keeps R (if c then x else y) := by
  split <;> assumption

end Keeps

end Op

end HermesRealtime

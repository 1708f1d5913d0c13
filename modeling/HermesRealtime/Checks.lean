import HermesRealtime.Op
import Mathlib.Data.List.Forall2

/-!
Validators as computations in `Except`: when a sequence of checks succeeds, and when it raises an
exception that whoever called it does not catch. Computations over a state raise in the same way.
-/

namespace HermesRealtime.Checks

variable {ε α β : Type*}

/-- Both checks succeed, one after the other. -/
lemma bind_eq_ok {ε α β : Type} {x : Except ε α} {f : α → Except ε β} {b : β} :
    (x >>= f) = .ok b ↔ ∃ a, x = .ok a ∧ f a = .ok b := by
  cases x <;> simp [bind, Except.bind]

lemma then_eq_ok {ε β : Type} {x : Except ε Unit} {f : Unit → Except ε β} {b : β} :
    (x >>= f) = .ok b ↔ x = .ok () ∧ f () = .ok b := by
  rw [bind_eq_ok]
  exact ⟨fun ⟨(), h⟩ => h, fun h => ⟨(), h⟩⟩

lemma ite_ok_eq_ok {c : Prop} [Decidable c] {e : ε} {a : α} :
    (if c then .ok a else .error e : Except ε α) = .ok a ↔ c := by
  split_ifs with h <;> simp [h]

/-- Every element is mapped, in order. -/
lemma mapM_eq_ok {ε α β : Type} {f : α → Except ε β} {xs : List α} {ys : List β} :
    xs.mapM f = .ok ys ↔ List.Forall₂ (fun x y => f x = .ok y) xs ys := by
  induction xs generalizing ys with
  | nil => simp [pure, Except.pure, eq_comm, List.forall₂_nil_left_iff]
  | cons x xs ih =>
    rw [List.mapM_cons, bind_eq_ok]
    constructor
    · rintro ⟨y, hy, h⟩
      obtain ⟨rest, hrest, hys⟩ := bind_eq_ok.mp h
      cases hys
      exact .cons hy (ih.mp hrest)
    · intro h
      cases h with
      | cons hy hrest => exact ⟨_, hy, bind_eq_ok.mpr ⟨_, ih.mpr hrest, rfl⟩⟩

/-- It succeeds where each of them can be mapped. -/
lemma mapM_succeeds_iff {ε α β : Type} {f : α → Except ε β} {xs : List α} :
    (∃ ys, xs.mapM f = .ok ys) ↔ ∀ x ∈ xs, ∃ y, f x = .ok y := by
  simp only [mapM_eq_ok]
  constructor
  · rintro ⟨ys, h⟩
    induction h with
    | nil => simp
    | cons hy _ ih => simpa using ⟨⟨_, hy⟩, ih⟩
  · intro h
    induction xs with
    | nil => exact ⟨[], .nil⟩
    | cons x xs ih =>
      obtain ⟨⟨y, hy⟩, hrest⟩ := List.forall_mem_cons.mp h
      obtain ⟨ys, hys⟩ := ih hrest
      exact ⟨y :: ys, .cons hy hys⟩

/-- What the function keeps of an element is kept all along the list. -/
lemma mapM_keeps {ε α β γ : Type} {f : α → Except ε β} {g : α → γ} {k : β → γ}
    (hkeeps : ∀ x y, f x = .ok y → k y = g x) {xs : List α} {ys : List β}
    (h : xs.mapM f = .ok ys) : ys.map k = xs.map g := by
  have hall := mapM_eq_ok.mp h
  clear h
  induction hall with
  | nil => rfl
  | cons hy _ ih => rw [List.map_cons, List.map_cons, hkeeps _ _ hy, ih]

/-- The error is none of those that are caught. -/
def Escapes (caught : ε → Bool) (r : Except ε α) : Prop := ∃ e, r = .error e ∧ caught e = false

variable {caught : ε → Bool}

@[simp] lemma not_escapes_ok {a : α} : ¬Escapes caught (.ok a : Except ε α) := by
  rintro ⟨e, h, -⟩
  cases h

@[simp] lemma not_escapes_pure {ε α : Type} {caught : ε → Bool} {a : α} :
    ¬Escapes caught (pure a : Except ε α) := not_escapes_ok

@[simp] lemma escapes_error {e : ε} :
    Escapes caught (.error e : Except ε α) ↔ caught e = false := by
  simp [Escapes]

/-- The first check raises it, or the second one after the first has succeeded. -/
lemma escapes_bind {ε α β : Type} {caught : ε → Bool} {x : Except ε α} {f : α → Except ε β} :
    Escapes caught (x >>= f) ↔ Escapes caught x ∨ ∃ a, x = .ok a ∧ Escapes caught (f a) := by
  cases x <;> simp [bind, Except.bind]

lemma escapes_op_bind {σ ε α β : Type} {caught : ε → Bool} {x : Op σ ε α} {f : α → Op σ ε β}
    {s : σ} : Escapes caught ((x >>= f) s).2 ↔
      Escapes caught (x s).2 ∨ ∃ a, (x s).2 = .ok a ∧ Escapes caught (f a (x s).1).2 := by
  rw [Op.bind_apply]
  rcases x s with ⟨t, e | a⟩ <;> simp

lemma escapes_ofExcept_bind {σ ε α β : Type} {caught : ε → Bool} {r : Except ε α}
    {f : α → Op σ ε β} {s : σ} : Escapes caught ((Op.ofExcept r >>= f) s).2 ↔
      Escapes caught r ∨ ∃ a, r = .ok a ∧ Escapes caught (f a s).2 := by
  rw [escapes_op_bind, Op.ofExcept_apply]

end HermesRealtime.Checks

import Mathlib.Data.Fin.Basic
import Mathlib.Logic.Function.Basic
import Mathlib.Data.List.Basic

/-!
A circular buffer and the history of what was put into it. The buffer holds the end of the history,
each value at its place modulo the capacity, and a value is lost when the place comes round again.
So a reader that is behind the writer by a window still finds the window while the writer goes on,
as long as both together do not go round.
-/

namespace HermesRealtime.CircularBuffers

variable {α : Type*} {capacity : ℕ}

/-- The slots hold the end of the history. -/
def Holds (slots : Fin capacity → α) (history : List α) : Prop :=
  ∀ (j : ℕ) (hj : j < history.length), history.length ≤ j + capacity →
    ∀ i : Fin capacity, i.val = j % capacity → slots i = history.get ⟨j, hj⟩

lemma holds_nil (slots : Fin capacity → α) : Holds slots [] := fun _ hj => absurd hj (by simp)

/-- Two places less than a round apart are different. -/
lemma mod_ne {j k : ℕ} (hlt : j < k) (hnear : k < j + capacity) : j % capacity ≠ k % capacity := by
  intro heq
  have hdvd : capacity ∣ k - j := Nat.dvd_of_mod_eq_zero (Nat.sub_mod_eq_zero_of_mod_eq heq.symm)
  have hle := Nat.le_of_dvd (by omega) hdvd
  omega

/-- What is put at the place of the writer is the new end of the history. -/
lemma Holds.put {slots : Fin capacity → α} {history : List α} (h : Holds slots history)
    {i : Fin capacity} (hi : i.val = history.length % capacity) (x : α) :
    Holds (Function.update slots i x) (history ++ [x]) := by
  intro j hj hround k hk
  rw [List.length_append, List.length_singleton] at hj hround
  rcases Nat.lt_or_ge j history.length with hold | hnew
  · have hne : k ≠ i := by
      rintro rfl
      exact mod_ne hold (by omega) (hk.symm.trans hi)
    rw [Function.update_of_ne hne, h j hold (by omega) k hk]
    simp [List.getElem_append_left hold]
  · obtain rfl : j = history.length := by omega
    obtain rfl : k = i := Fin.ext (hk.trans hi.symm)
    simp

/-- A value of the history stays where it is while it is less than a round behind. -/
lemma Holds.get_of_append {slots : Fin capacity → α} {history more : List α}
    (h : Holds slots (history ++ more)) {j : ℕ} (hj : j < history.length)
    (hround : history.length + more.length ≤ j + capacity) {i : Fin capacity}
    (hi : i.val = j % capacity) : slots i = history.get ⟨j, hj⟩ := by
  have hlong : j < (history ++ more).length := by
    rw [List.length_append]
    omega
  rw [h j hlong (by rw [List.length_append]; omega) i hi]
  simp [List.getElem_append_left hj]

end HermesRealtime.CircularBuffers

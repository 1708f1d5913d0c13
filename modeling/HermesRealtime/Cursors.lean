import Mathlib.Tactic.Common
import Mathlib.Data.List.Basic
import Mathlib.Data.Int.Notation

/-!
A log whose entries are sorted by an integer key, read through a cursor: what lies up to the
cursor and what lies beyond it, how the two change when the cursor moves to the next entry,
and that they do not depend on what is appended later.
-/

namespace HermesRealtime.Cursors

variable {α : Type*} (key : α → ℤ)

def upTo (l : List α) (c : ℤ) : List α := l.filter fun x => key x ≤ c

def beyond (l : List α) (c : ℤ) : List α := l.filter fun x => c < key x

/-- The entries are strictly sorted by their keys. -/
def Sorted (l : List α) : Prop := l.Pairwise fun x y => key x < key y

variable {key} {l l' : List α} {c d : ℤ} {x : α} {xs : List α}

lemma mem_upTo : x ∈ upTo key l c ↔ x ∈ l ∧ key x ≤ c := by simp [upTo]

lemma mem_beyond : x ∈ beyond key l c ↔ x ∈ l ∧ c < key x := by simp [beyond]

lemma upTo_of_le (h : ∀ x ∈ l, key x ≤ c) : upTo key l c = l :=
  List.filter_eq_self.mpr fun x hx => by simpa using h x hx

lemma upTo_of_lt (h : ∀ x ∈ l, c < key x) : upTo key l c = [] :=
  List.filter_eq_nil_iff.mpr fun x hx => by simpa using h x hx

lemma beyond_of_le (h : ∀ x ∈ l, key x ≤ c) : beyond key l c = [] :=
  List.filter_eq_nil_iff.mpr fun x hx => by simpa using h x hx

lemma beyond_of_lt (h : ∀ x ∈ l, c < key x) : beyond key l c = l :=
  List.filter_eq_self.mpr fun x hx => by simpa using h x hx

lemma upTo_append : upTo key (l ++ l') c = upTo key l c ++ upTo key l' c := List.filter_append ..

lemma beyond_append : beyond key (l ++ l') c = beyond key l c ++ beyond key l' c :=
  List.filter_append ..

/-- A sorted log is what lies up to the cursor, then what lies beyond it. -/
lemma upTo_append_beyond (h : Sorted key l) : upTo key l c ++ beyond key l c = l := by
  induction l with
  | nil => rfl
  | cons x xs ih =>
    obtain ⟨hx, hxs⟩ := List.pairwise_cons.mp h
    by_cases hc : key x ≤ c
    · have hb : ¬ c < key x := by omega
      simpa [upTo, beyond, hc, hb] using ih hxs
    · have hlt : ∀ y ∈ x :: xs, c < key y := by
        intro y hy
        rcases List.mem_cons.mp hy with rfl | hy
        · omega
        · have := hx y hy
          omega
      rw [upTo_of_lt hlt, beyond_of_lt hlt, List.nil_append]

/-- **The next entry**: a cursor that moves to the first entry beyond it takes in that entry
and no other; just before the entry it has taken in nothing. -/
theorem move (h : Sorted key l) (hnext : beyond key l c = x :: xs) :
    upTo key l (key x) = upTo key l c ++ [x] ∧ upTo key l (key x - 1) = upTo key l c ∧
      beyond key l (key x) = xs := by
  have hc : c < key x := (mem_beyond.mp (hnext ▸ List.mem_cons_self)).2
  have hsplit := upTo_append_beyond (c := c) h
  rw [hnext] at hsplit
  have hold : ∀ y ∈ upTo key l c, key y ≤ c := fun y hy => (mem_upTo.mp hy).2
  have hrest : ∀ y ∈ xs, key x < key y := by
    rw [← hsplit] at h
    exact (List.pairwise_cons.mp (List.pairwise_append.mp h).2.1).1
  refine ⟨?_, ?_, ?_⟩
  · calc upTo key l (key x) = upTo key (upTo key l c ++ ([x] ++ xs)) (key x) := by
          rw [List.singleton_append, hsplit]
      _ = upTo key l c ++ [x] := by
          rw [upTo_append, upTo_append, upTo_of_le fun y hy => by have := hold y hy; omega,
            upTo_of_le (l := [x]) (by simp), upTo_of_lt hrest, List.append_nil]
  · calc upTo key l (key x - 1) = upTo key (upTo key l c ++ (x :: xs)) (key x - 1) := by
          rw [hsplit]
      _ = upTo key l c := by
          rw [upTo_append, upTo_of_le fun y hy => by have := hold y hy; omega,
            upTo_of_lt (l := x :: xs), List.append_nil]
          intro y hy
          rcases List.mem_cons.mp hy with rfl | hy
          · omega
          · have := hrest y hy
            omega
  · calc beyond key l (key x) = beyond key (upTo key l c ++ ([x] ++ xs)) (key x) := by
          rw [List.singleton_append, hsplit]
      _ = xs := by
          rw [beyond_append, beyond_append,
            beyond_of_le fun y hy => by have := hold y hy; omega,
            beyond_of_le (l := [x]) (by simp), beyond_of_lt hrest, List.nil_append, List.nil_append]

/-- What is appended after the cursor does not change what lies up to it. -/
lemma upTo_of_append (h : ∀ y ∈ l', c < key y) : upTo key (l ++ l') c = upTo key l c := by
  rw [upTo_append, upTo_of_lt h, List.append_nil]

lemma beyond_of_append (h : ∀ y ∈ l', c < key y) :
    beyond key (l ++ l') c = beyond key l c ++ l' := by
  rw [beyond_append, beyond_of_lt h]

lemma upTo_isPrefix (h : Sorted key l) : upTo key l c <+: l :=
  ⟨beyond key l c, upTo_append_beyond h⟩

end HermesRealtime.Cursors

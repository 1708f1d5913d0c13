import Mathlib.Tactic.Common
import Mathlib.Data.List.Basic

/-!
Runs of a labelled transition system given by a partial step function, and the two
inductions on them.

`Run step C s as t` says that the labels `as` lead from `s` to `t` and that each of them
met `C` in the state it was taken from. `C` carries what a result assumes about the
environment, step by step.
-/

namespace HermesRealtime.Runs

variable {σ α : Type*}

/-- The labels `as` lead from `s` to `t`, each one meeting `C` where it is taken. -/
inductive Run (step : σ → α → Option σ) (C : σ → α → Prop) (s : σ) : List α → σ → Prop
  | nil : Run step C s [] s
  | snoc {as : List α} {t u : σ} {a : α} (h : Run step C s as t) (hc : C t a)
      (hs : step t a = some u) : Run step C s (as ++ [a]) u

variable {step : σ → α → Option σ} {C D : σ → α → Prop} {s t u : σ} {as bs : List α}

namespace Run

lemma mono (hCD : ∀ t a, C t a → D t a) (h : Run step C s as t) : Run step D s as t := by
  induction h with
  | nil => exact .nil
  | snoc _ hc hs ih => exact .snoc ih (hCD _ _ hc) hs

/-- The last step of a run. -/
lemma of_snoc {a : α} (h : Run step C s (as ++ [a]) u) :
    ∃ t, Run step C s as t ∧ C t a ∧ step t a = some u := by
  generalize has : as ++ [a] = bs at h
  cases h with
  | nil => simp at has
  | snoc h hc hs =>
    obtain ⟨rfl, hlast⟩ := List.append_inj' has rfl
    obtain rfl := List.singleton_inj.mp hlast
    exact ⟨_, h, hc, hs⟩

lemma append (h : Run step C s as t) (h' : Run step C t bs u) : Run step C s (as ++ bs) u := by
  induction h' with
  | nil => simpa using h
  | snoc _ hc hs ih => simpa [List.append_assoc] using ih.snoc hc hs

/-- **The invariant rule**: what holds at the start and survives every step that meets the
condition holds wherever a run ends. -/
theorem invariant {I : σ → Prop} (h : Run step C s as t) (h0 : I s)
    (hstep : ∀ t a u, I t → C t a → step t a = some u → I u) : I t := by
  induction h with
  | nil => exact h0
  | snoc _ hc hs ih => exact hstep _ _ _ ih hc hs

/-- **The monotonicity rule**: a preorder that every step respects, from the states that
satisfy an invariant, relates the two ends of a run. -/
theorem respects {I : σ → Prop} {R : σ → σ → Prop} (h : Run step C s as t) (h0 : I s)
    (hstep : ∀ t a u, I t → C t a → step t a = some u → I u) (hrefl : ∀ x, R x x)
    (htrans : ∀ x y z, R x y → R y z → R x z)
    (hR : ∀ t a u, I t → C t a → step t a = some u → R t u) : R s t := by
  induction h with
  | nil => exact hrefl s
  | snoc h' hc hs ih => exact htrans _ _ _ ih (hR _ _ _ (h'.invariant h0 hstep) hc hs)

/-- A condition on the labels alone. -/
lemma forall_labels {P : α → Prop} (hC : ∀ t a, C t a → P a) (h : Run step C s as t) :
    ∀ a ∈ as, P a := by
  induction h with
  | nil => simp
  | snoc _ hc _ ih =>
    intro a ha
    rcases List.mem_append.mp ha with ha | ha
    · exact ih a ha
    · exact List.mem_singleton.mp ha ▸ hC _ _ hc

/-- The labels decide where a run ends. -/
lemma unique {v : σ} (h : Run step C s as t) (h' : Run step D s as v) : t = v := by
  induction h generalizing v with
  | nil =>
    generalize has : [] = bs at h'
    cases h' with
    | nil => rfl
    | snoc _ _ _ => simp at has
  | snoc h hc hs ih =>
    obtain ⟨v', h', -, hs'⟩ := h'.of_snoc
    obtain rfl := ih h'
    exact Option.some.inj (hs.symm.trans hs')

/-- The last step of a run meets another condition as well. -/
lemma snoc_iff {a : α} (h : Run step C s as t) (hs : step t a = some u) :
    Run step D s (as ++ [a]) u ↔ Run step D s as t ∧ D t a := by
  refine ⟨fun h' => ?_, fun ⟨h', hd⟩ => h'.snoc hd hs⟩
  obtain ⟨v, h', hd, -⟩ := h'.of_snoc
  obtain rfl := h.unique h'
  exact ⟨h', hd⟩

end Run

/-- Some run without conditions leads to `t`. -/
def Reachable (step : σ → α → Option σ) (s t : σ) : Prop :=
  ∃ as, Run step (fun _ _ => True) s as t

lemma Run.reachable (h : Run step C s as t) : Reachable step s t :=
  ⟨as, h.mono fun _ _ _ => trivial⟩

/-! ### Running a list of labels -/

/-- The state a list of labels leads to, if each of them is enabled in its turn and passes the
test `c`. -/
def exec (step : σ → α → Option σ) (c : σ → α → Bool) : σ → List α → Option σ
  | s, [] => some s
  | s, a :: as => if c s a then (step s a).bind fun t => exec step c t as else none

lemma run_of_exec {c : σ → α → Bool} (hc : ∀ s a, c s a = true → C s a) (as : List α) (s : σ)
    (h : exec step c s as = some t) : Run step C s as t := by
  induction as generalizing s with
  | nil =>
    obtain rfl : s = t := by simpa [exec] using h
    exact .nil
  | cons a as ih =>
    simp only [exec, Option.ite_none_right_eq_some] at h
    obtain ⟨hpass, h⟩ := h
    obtain ⟨v, hv, hr⟩ := Option.bind_eq_some_iff.mp h
    have hfirst : Run step C s [a] v := by simpa using Run.nil.snoc (hc s a hpass) hv
    simpa using hfirst.append (ih v hr)

lemma reachable_of_exec {c : σ → α → Bool} (h : exec step c s as = some t) :
    Reachable step s t :=
  ⟨as, run_of_exec (fun _ _ _ => trivial) as s h⟩

end HermesRealtime.Runs

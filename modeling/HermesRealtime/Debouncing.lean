import HermesRealtime.Listener
import Mathlib.Algebra.BigOperators.Group.List.Basic
import Mathlib.Algebra.GroupWithZero.Nat
import Mathlib.Data.List.Induction

/-!
When the worker fires. It counts the windows in a row whose probability reaches the threshold, a
window that the model could not judge being passed over, and it fires and starts again when there
are enough. So a run of hits fires once for every full group in it.
-/

namespace HermesRealtime.Debouncing

open Listener

variable {F : Type} (fl : Floats F) (threshold : F) (required : RequiredCount)

/-- The worker over some windows: at which of them an activation is fired. -/
def activations (consecutiveHits : ℕ) : List (Option F) → List Bool
  | [] => []
  | window :: windows =>
    let judged := afterInference fl threshold required consecutiveHits window
    judged.2 :: activations judged.1 windows

/-- The count after some windows. -/
def counted (windows : List (Option F)) : ℕ :=
  windows.foldl (fun hits window => (afterInference fl threshold required hits window).1) 0

/-! ### Runs of hits -/

def isHit : Option F → Bool
  | some probability => fl.atLeast probability threshold
  | none => false

/-- The model has judged the window, and not found the word. -/
def isMiss : Option F → Bool
  | some probability => !fl.atLeast probability threshold
  | none => false

/-- The lengths of the runs of hits: of what lies between the misses, failures left out. -/
def hitRuns (windows : List (Option F)) : List ℕ :=
  ((windows.filter Option.isSome).splitOnP (isMiss fl threshold)).map List.length

/-- How many hits the last run has, up to the end of the windows. -/
def lastRun (windows : List (Option F)) : ℕ :=
  ((windows.reverse.takeWhile fun window => !isMiss fl threshold window).filter
    (isHit fl threshold)).length

variable {fl threshold required}

/-- What the worker does with a window, by its kind. -/
lemma afterInference_eq (hits : ℕ) (hlt : hits < required.value) (window : Option F) :
    afterInference fl threshold required hits window =
      if isHit fl threshold window then
        if hits + 1 = required.value then (0, true) else (hits + 1, false)
      else if isMiss fl threshold window then (0, false)
      else (hits, false) := by
  have hpos := required.pos
  have hsmall := required.small
  rcases window with _ | probability
  · rfl
  · by_cases hscore : fl.atLeast probability threshold = true
    · have hround : (hits + 1) % 2 ^ 32 = hits + 1 := Nat.mod_eq_of_lt (by omega)
      simp only [afterInference, isHit, hscore, if_true, hround]
      by_cases hfull : hits + 1 = required.value
      · rw [if_pos (by omega), if_pos hfull]
      · rw [if_neg (by omega), if_neg hfull]
    · simp only [afterInference, isHit, isMiss, hscore, if_false, Bool.not_false, if_true,
        Bool.false_eq_true]
      rw [if_neg (by omega)]

lemma lastRun_snoc (windows : List (Option F)) (window : Option F) :
    lastRun fl threshold (windows ++ [window]) =
      if isMiss fl threshold window then 0
      else if isHit fl threshold window then lastRun fl threshold windows + 1
      else lastRun fl threshold windows := by
  rw [lastRun, List.reverse_append, List.reverse_singleton, List.singleton_append,
    List.takeWhile_cons]
  by_cases hmiss : isMiss fl threshold window = true
  · simp [hmiss]
  · by_cases hhit : isHit fl threshold window = true
    · simp [hmiss, hhit, lastRun]
    · simp [hmiss, hhit, lastRun]

/-- One more hit, counted in groups. -/
lemma succ_mod (hits : ℕ) {group : ℕ} (hgroup : 0 < group) :
    (hits + 1) % group = if hits % group + 1 = group then 0 else hits % group + 1 := by
  have hlt := Nat.mod_lt hits hgroup
  rw [← Nat.mod_add_mod]
  split_ifs with hfull
  · rw [hfull, Nat.mod_self]
  · exact Nat.mod_eq_of_lt (by omega)

/-- A hit is no miss. -/
lemma not_miss_of_hit {window : Option F} (h : isHit fl threshold window = true) :
    ¬ isMiss fl threshold window = true := by
  cases window with
  | none => exact Bool.false_ne_true
  | some probability => simpa [isMiss, isHit] using h

/-- The count is the length of the last run, without the groups that have fired. -/
lemma counted_eq (windows : List (Option F)) :
    counted fl threshold required windows = lastRun fl threshold windows % required.value := by
  induction windows using List.reverseRecOn with
  | nil => rfl
  | append_singleton windows window ih =>
    have hlt := Nat.mod_lt (lastRun fl threshold windows) required.pos
    have hsnoc : counted fl threshold required (windows ++ [window]) =
        (afterInference fl threshold required
            (counted fl threshold required windows) window).1 := by
      rw [counted, List.foldl_append]
      rfl
    rw [hsnoc, ih, afterInference_eq _ hlt, lastRun_snoc]
    by_cases hhit : isHit fl threshold window = true
    · rw [if_pos hhit, if_neg (not_miss_of_hit hhit), if_pos hhit, succ_mod _ required.pos]
      split_ifs <;> rfl
    · rw [if_neg hhit]
      by_cases hmiss : isMiss fl threshold window = true
      · rw [if_pos hmiss, if_pos hmiss, Nat.zero_mod]
      · rw [if_neg hmiss, if_neg hmiss, if_neg hhit]

/-- The worker fires at a hit that makes the run a multiple of what is required. -/
lemma fires_iff (windows : List (Option F)) (window : Option F) :
    (afterInference fl threshold required (counted fl threshold required windows) window).2 =
        true ↔
      isHit fl threshold window = true ∧
        required.value ∣ lastRun fl threshold (windows ++ [window]) := by
  have hlt := Nat.mod_lt (lastRun fl threshold windows) required.pos
  rw [counted_eq, afterInference_eq _ hlt, lastRun_snoc]
  by_cases hhit : isHit fl threshold window = true
  · rw [if_pos hhit, if_neg (not_miss_of_hit hhit), if_pos hhit, Nat.dvd_iff_mod_eq_zero,
      succ_mod _ required.pos]
    by_cases hfull : lastRun fl threshold windows % required.value + 1 = required.value
    · simp [hhit, hfull]
    · simp [hfull]
  · rw [if_neg hhit]
    refine iff_of_false ?_ fun h => hhit h.1
    split_ifs <;> simp

/-! ### All windows -/

lemma activations_get (hits : ℕ) (before : List (Option F)) (window : Option F)
    (after : List (Option F)) :
    (activations fl threshold required hits (before ++ window :: after))[before.length]? =
      some (afterInference fl threshold required
        (before.foldl
          (fun hits window => (afterInference fl threshold required hits window).1) hits)
        window).2 := by
  induction before generalizing hits with
  | nil => rfl
  | cons first before ih => exact ih _

lemma hitRuns_hit {window : Option F} (h : isHit fl threshold window = true)
    (windows : List (Option F)) : hitRuns fl threshold (window :: windows) =
      (hitRuns fl threshold windows).modifyHead (· + 1) := by
  have hjudged : window.isSome = true := by
    cases window with
    | none => cases h
    | some probability => rfl
  rw [hitRuns, List.filter_cons_of_pos hjudged, List.splitOnP_cons_eq_if_modifyHead,
    if_neg (not_miss_of_hit h), hitRuns]
  rcases (windows.filter Option.isSome).splitOnP (isMiss fl threshold) with _ | ⟨run, runs⟩ <;> rfl

lemma hitRuns_miss {window : Option F} (h : isMiss fl threshold window = true)
    (windows : List (Option F)) :
    hitRuns fl threshold (window :: windows) = 0 :: hitRuns fl threshold windows := by
  have hjudged : window.isSome = true := by
    cases window with
    | none => cases h
    | some probability => rfl
  rw [hitRuns, List.filter_cons_of_pos hjudged, List.splitOnP_cons_eq_if_modifyHead, if_pos h]
  rfl

lemma hitRuns_failed (windows : List (Option F)) :
    hitRuns fl threshold (none :: windows) = hitRuns fl threshold windows := rfl

lemma hitRuns_ne_nil (windows : List (Option F)) : hitRuns fl threshold windows ≠ [] := by
  simp [hitRuns, List.splitOnP_ne_nil]

/-- The groups that are full when a run goes on with `k` hits counted. -/
lemma count_activations {hits : ℕ} (hlt : hits < required.value) (windows : List (Option F)) :
    (activations fl threshold required hits windows).count true =
      (((hitRuns fl threshold windows).modifyHead (hits + ·)).map (· / required.value)).sum := by
  induction windows generalizing hits with
  | nil => simp [activations, hitRuns, Nat.div_eq_of_lt hlt]
  | cons window windows ih =>
    rw [activations, afterInference_eq _ hlt]
    obtain ⟨run, runs, hruns⟩ := List.exists_cons_of_ne_nil (hitRuns_ne_nil windows)
    by_cases hhit : isHit fl threshold window = true
    · rw [if_pos hhit, hitRuns_hit hhit, hruns]
      by_cases hfull : hits + 1 = required.value
      · -- the group is full, and the rest of the run starts from 0
        have hgroup : (hits + (run + 1)) / required.value = run / required.value + 1 := by
          rw [← Nat.add_div_right run required.pos]
          congr 1
          omega
        rw [if_pos hfull, List.count_cons, ih required.pos, hruns]
        simp [hgroup]
        omega
      · rw [if_neg hfull, List.count_cons, ih (by omega), hruns]
        have hmore : hits + 1 + run = hits + (run + 1) := by omega
        simp [hmore]
    · rw [if_neg hhit]
      by_cases hmiss : isMiss fl threshold window = true
      · rw [if_pos hmiss, hitRuns_miss hmiss, List.count_cons, ih required.pos, hruns]
        simp [Nat.div_eq_of_lt hlt]
      · -- the model has not judged the window
        obtain rfl : window = none := by
          cases window with
          | none => rfl
          | some probability => exact absurd (by simpa [isMiss, isHit] using hmiss) hhit
        rw [if_neg hmiss, hitRuns_failed, List.count_cons, ih hlt]
        simp

/-- **An activation for every full group of hits**: as many as fit in the runs of hits, and each at
the hit that fills a group. -/
theorem activations_debounced (fl : Floats F) (threshold : F) (required : RequiredCount)
    (windows : List (Option F)) :
    (activations fl threshold required 0 windows).count true =
        ((hitRuns fl threshold windows).map (· / required.value)).sum ∧
      ∀ before window after, windows = before ++ window :: after →
        ((activations fl threshold required 0 windows)[before.length]? = some true ↔
          isHit fl threshold window = true ∧
            required.value ∣ lastRun fl threshold (before ++ [window])) := by
  constructor
  · rw [count_activations required.pos]
    congr 2
    rcases hitRuns fl threshold windows with _ | ⟨run, runs⟩ <;> simp
  · rintro before window after rfl
    rw [activations_get, Option.some_inj]
    exact fires_iff before window

end HermesRealtime.Debouncing

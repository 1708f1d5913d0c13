import Mathlib.Tactic.Common
import Mathlib.Algebra.Group.Nat.Defs
import Mathlib.Data.Nat.Log

/-!
Non-negative finite binary64 numbers, and the integer part of their product with a small
natural number, computed as the hardware does: one rounding to 53 bits, to nearest with ties
to even, overflow to infinity.
-/

namespace HermesRealtime

/-- The number `mant * 2 ^ exp`. -/
structure Binary64 where
  mant : ℕ
  exp : ℤ
  mant_lt : mant < 2 ^ 53
  exp_ge : -1074 ≤ exp
  exp_le : exp ≤ 971
  deriving DecidableEq

namespace Binary64

def zero : Binary64 := ⟨0, 0, by decide, by decide, by decide⟩

/-- `n / 2 ^ s` rounded to the nearest natural number, ties to even. -/
def roundShift (n s : ℕ) : ℕ :=
  if 2 * (n % 2 ^ s) < 2 ^ s ∨ 2 * (n % 2 ^ s) = 2 ^ s ∧ n / 2 ^ s % 2 = 0 then n / 2 ^ s
  else n / 2 ^ s + 1

/-- How many low bits of `n` do not fit in 53. -/
def excess (n : ℕ) : ℕ := n.log2 + 1 - 53

/-- The integer part of the rounded product, `none` where the product overflows. The factor
is itself a binary64 number when it is below `2 ^ 53`. -/
def mulTrunc (x : Binary64) (n : ℕ) : Option ℕ :=
  let s := excess (x.mant * n)
  let m := roundShift (x.mant * n) s
  match x.exp + s with
  | .ofNat e => if m * 2 ^ e < 2 ^ 1024 then some (m * 2 ^ e) else none
  | .negSucc e => some (m / 2 ^ (e + 1))

/-- The nearest binary64 number to `n`, ties to even, `none` where it overflows. -/
def ofNat? (n : ℕ) : Option Binary64 :=
  let s := excess n
  let m := roundShift n s
  if hm : m < 2 ^ 53 then
    if hs : s ≤ 971 then some ⟨m, s, hm, by omega, by omega⟩ else none
  else
    if hs : s + 1 ≤ 971 then some ⟨2 ^ 52, s + 1, by decide, by omega, by omega⟩ else none

/-- The number in units of the smallest one, `2 ^ -1074`; two numbers are equal if it is. -/
def scaled (x : Binary64) : ℕ := x.mant * 2 ^ (x.exp + 1074).toNat

/-- `Number.isInteger`. -/
def isInteger (x : Binary64) : Bool := x.mant % 2 ^ (-x.exp).toNat = 0

/-- The first natural number that rounds to infinity: `2 ^ 1024 - 2 ^ 970`. -/
def overflow : ℕ := (2 ^ 54 - 1) * 2 ^ 970

lemma roundShift_zero (n : ℕ) : roundShift n 0 = n := by simp [roundShift, Nat.mod_one]

/-- `n` has at most 53 bits above those that are rounded off. -/
lemma shifted_lt (n : ℕ) : n / 2 ^ excess n < 2 ^ 53 := by
  rw [Nat.div_lt_iff_lt_mul (Nat.two_pow_pos _), ← Nat.pow_add]
  calc n < 2 ^ (n.log2 + 1) := Nat.lt_log2_self
    _ ≤ 2 ^ (53 + excess n) := Nat.pow_le_pow_right (by decide) (by rw [excess]; omega)

lemma excess_le {n k : ℕ} (h : n < 2 ^ (53 + k)) : excess n ≤ k := by
  rcases eq_or_ne n 0 with rfl | hn
  · simp [excess]
  · have hlog := (Nat.log2_lt hn).mpr h
    rw [excess]
    omega

lemma le_excess {n k : ℕ} (h : 2 ^ (53 + k) ≤ n) : k + 1 ≤ excess n := by
  have hn : n ≠ 0 := by
    have := Nat.two_pow_pos (53 + k)
    omega
  have hlog := (Nat.le_log2 hn).mpr h
  rw [excess]
  omega

/-- Where 53 bits stand above `k + 1` others, rounding carries from the middle of the last gap. -/
lemma roundShift_lt_iff {n k : ℕ} (hn : n < 2 ^ (53 + (k + 1))) :
    roundShift n (k + 1) < 2 ^ 53 ↔ n < (2 ^ 54 - 1) * 2 ^ k := by
  have hsplit := Nat.div_add_mod n (2 ^ (k + 1))
  have hrest := Nat.mod_lt n (Nat.two_pow_pos (k + 1))
  have hlt : n / 2 ^ (k + 1) < 2 ^ 53 :=
    (Nat.div_lt_iff_lt_mul (Nat.two_pow_pos _)).mpr (by rwa [← Nat.pow_add])
  have hgap : 2 ^ (k + 1) = 2 * 2 ^ k := Nat.pow_succ'
  clear hn
  rw [roundShift]
  rw [hgap] at hsplit hrest hlt ⊢
  clear hgap
  generalize n / (2 * 2 ^ k) = q at *
  generalize n % (2 * 2 ^ k) = r at *
  generalize 2 ^ k = half at *
  subst hsplit
  rcases Nat.lt_or_ge q (2 ^ 53 - 1) with hq | hq
  · -- below the last gap
    have hmul : 2 * half * q ≤ 2 * half * (2 ^ 53 - 2) := Nat.mul_le_mul_left _ (by omega)
    split_ifs <;> omega
  · have hlast : q = 9007199254740991 := by omega
    have hmul : 2 * half * q = 2 * half * 9007199254740991 := by rw [hlast]
    split_ifs <;> omega

lemma ofNat?_isSome (n : ℕ) : (ofNat? n).isSome ↔
    excess n ≤ 970 ∨ excess n = 971 ∧ roundShift n (excess n) < 2 ^ 53 := by
  simp only [ofNat?]
  split_ifs <;> simp <;> omega

lemma le_lastGap (k : ℕ) : 2 ^ (53 + k) ≤ (2 ^ 54 - 1) * 2 ^ k := by
  rw [Nat.pow_add]
  exact Nat.mul_le_mul_right _ (by decide)

lemma lastGap_le (k : ℕ) : (2 ^ 54 - 1) * 2 ^ k ≤ 2 ^ (53 + (k + 1)) := by
  have hgap : 2 ^ (k + 1) = 2 * 2 ^ k := Nat.pow_succ'
  rw [Nat.pow_add, hgap, ← Nat.mul_assoc]
  exact Nat.mul_le_mul_right _ (by decide)

/-- A natural number is finite as a binary64 number below `overflow`. -/
theorem ofNat?_isSome_iff (n : ℕ) : (ofNat? n).isSome ↔ n < overflow := by
  rw [ofNat?_isSome, overflow]
  rcases Nat.lt_or_ge n (2 ^ (53 + 970)) with hsmall | hlarge
  · exact iff_of_true (.inl (excess_le hsmall)) (hsmall.trans_le (le_lastGap 970))
  rcases Nat.lt_or_ge n (2 ^ (53 + (970 + 1))) with htop | hover
  · have hs : excess n = 970 + 1 := le_antisymm (excess_le htop) (le_excess hlarge)
    rw [hs, ← roundShift_lt_iff htop]
    omega
  · have hs : 970 + 1 + 1 ≤ excess n := le_excess hover
    exact iff_of_false (by omega) ((lastGap_le 970).trans hover).not_gt

/-- What a natural number rounds to is an integer. -/
lemma ofNat?_exp {n : ℕ} {x : Binary64} (h : ofNat? n = some x) : 0 ≤ x.exp := by
  simp only [ofNat?] at h
  split_ifs at h <;> cases h <;> dsimp only <;> omega

lemma ofNat?_isInteger {n : ℕ} {x : Binary64} (h : ofNat? n = some x) : x.isInteger = true := by
  have hexp := ofNat?_exp h
  have hzero : (-x.exp).toNat = 0 := by omega
  simp [isInteger, hzero, Nat.mod_one]

/-- Rounding does not reach zero. -/
lemma ofNat?_mant {n : ℕ} {x : Binary64} (hn : 1 ≤ n) (h : ofNat? n = some x) : 1 ≤ x.mant := by
  have hpow : 2 ^ excess n ≤ n := by
    rcases Nat.eq_zero_or_pos (excess n) with hs | hs
    · simpa [hs] using hn
    · calc 2 ^ excess n ≤ 2 ^ n.log2 := Nat.pow_le_pow_right (by decide) (by rw [excess]; omega)
        _ ≤ n := Nat.log2_self_le (by omega)
  have hround : 1 ≤ roundShift n (excess n) := by
    have hquot : 1 ≤ n / 2 ^ excess n := (Nat.one_le_div_iff (Nat.two_pow_pos _)).mpr hpow
    rw [roundShift]
    split_ifs <;> omega
  simp only [ofNat?] at h
  split_ifs at h <;> cases h
  · exact hround
  · exact Nat.two_pow_pos 52

lemma le_scaled {x : Binary64} {k : ℕ} (hmant : 1 ≤ x.mant) (hk : k ≤ (x.exp + 1074).toNat) :
    2 ^ k ≤ x.scaled :=
  (Nat.pow_le_pow_right (by decide) hk).trans (Nat.le_mul_of_pos_left _ hmant)

/-- A positive number rounds to no less than `1`. -/
lemma ofNat?_ge_one {n : ℕ} {x : Binary64} (hn : 1 ≤ n) (h : ofNat? n = some x) :
    2 ^ 1074 ≤ x.scaled := by
  have hexp := ofNat?_exp h
  exact le_scaled (k := 1074) (ofNat?_mant hn h) (by omega)

section
variable {n e t u k : ℕ}

lemma lt_excess (n : ℕ) : n < 2 ^ (53 + excess n) := by
  rw [Nat.pow_add, ← Nat.div_lt_iff_lt_mul (Nat.two_pow_pos _)]
  exact shifted_lt n

/-- Where some bits do not fit, all that fit are used. -/
lemma excess_ge (h : excess n = k + 1) : 2 ^ (52 + excess n) ≤ n := by
  rcases Nat.lt_or_ge n (2 ^ (53 + k)) with hlt | hge
  · have := excess_le hlt
    omega
  · rwa [h, show 52 + (k + 1) = 53 + k by omega]

lemma roundShift_le (n : ℕ) : roundShift n (excess n) ≤ 2 ^ 53 := by
  have hlt := shifted_lt n
  rw [roundShift]
  split_ifs <;> omega

lemma le_roundShift (h : 2 ^ (52 + excess n) ≤ n) : 2 ^ 52 ≤ roundShift n (excess n) := by
  have hle : 2 ^ 52 ≤ n / 2 ^ excess n :=
    (Nat.le_div_iff_mul_le (Nat.two_pow_pos _)).mpr (by rwa [← Nat.pow_add])
  rw [roundShift]
  split_ifs <;> omega

/-- Below the last exponent `t + 1` nothing is out of range, rounded or not. -/
lemma small_lt (he : e ≤ t) (hs : excess n ≤ e + u) :
    roundShift n (excess n) * 2 ^ e < 2 ^ (53 + (t + 1)) ∧
      n * 2 ^ (e + u - excess n) < (2 ^ 54 - 1) * 2 ^ t * 2 ^ u := by
  constructor
  · calc roundShift n (excess n) * 2 ^ e ≤ 2 ^ 53 * 2 ^ e :=
          Nat.mul_le_mul_right _ (roundShift_le n)
      _ = 2 ^ (53 + e) := (Nat.pow_add ..).symm
      _ < 2 ^ (53 + (t + 1)) := Nat.pow_lt_pow_right (by decide) (by omega)
  · calc n * 2 ^ (e + u - excess n) < 2 ^ (53 + excess n) * 2 ^ (e + u - excess n) :=
          Nat.mul_lt_mul_of_pos_right (lt_excess n) (Nat.two_pow_pos _)
      _ = 2 ^ (53 + e + u) := by
          rw [← Nat.pow_add]
          congr 1
          omega
      _ ≤ 2 ^ (53 + t + u) := Nat.pow_le_pow_right (by decide) (by omega)
      _ = 2 ^ (53 + t) * 2 ^ u := Nat.pow_add ..
      _ ≤ (2 ^ 54 - 1) * 2 ^ t * 2 ^ u := Nat.mul_le_mul_right _ (le_lastGap t)

/-- Above it everything is that uses all bits. -/
lemma large_ge (hn : 2 ^ (52 + excess n) ≤ n) (he : t + 2 ≤ e) (hs : excess n ≤ e + u) :
    2 ^ (53 + (t + 1)) ≤ roundShift n (excess n) * 2 ^ e ∧
      (2 ^ 54 - 1) * 2 ^ t * 2 ^ u ≤ n * 2 ^ (e + u - excess n) := by
  constructor
  · calc 2 ^ (53 + (t + 1)) ≤ 2 ^ (52 + e) := Nat.pow_le_pow_right (by decide) (by omega)
      _ = 2 ^ 52 * 2 ^ e := Nat.pow_add ..
      _ ≤ roundShift n (excess n) * 2 ^ e := Nat.mul_le_mul_right _ (le_roundShift hn)
  · calc (2 ^ 54 - 1) * 2 ^ t * 2 ^ u ≤ 2 ^ (53 + (t + 1)) * 2 ^ u :=
          Nat.mul_le_mul_right _ (lastGap_le t)
      _ = 2 ^ (53 + (t + 1) + u) := (Nat.pow_add ..).symm
      _ ≤ 2 ^ (52 + e + u) := Nat.pow_le_pow_right (by decide) (by omega)
      _ = 2 ^ (52 + excess n) * 2 ^ (e + u - excess n) := by
          rw [← Nat.pow_add]
          congr 1
          omega
      _ ≤ n * 2 ^ (e + u - excess n) := Nat.mul_le_mul_right _ hn

/-- At the last exponent rounding decides. -/
lemma last_iff (hk : excess n = k + 1) (hs : excess n ≤ t + 1 + u) :
    2 ^ (53 + (t + 1)) ≤ roundShift n (excess n) * 2 ^ (t + 1) ↔
      (2 ^ 54 - 1) * 2 ^ t * 2 ^ u ≤ n * 2 ^ (t + 1 + u - excess n) := by
  have hround := roundShift_lt_iff (n := n) (k := k) (hk ▸ lt_excess n)
  have hgap : (2 ^ 54 - 1) * 2 ^ t * 2 ^ u =
      (2 ^ 54 - 1) * 2 ^ k * 2 ^ (t + 1 + u - (k + 1)) := by
    rw [Nat.mul_assoc, Nat.mul_assoc, ← Nat.pow_add, ← Nat.pow_add]
    congr 2
    omega
  rw [hk, Nat.pow_add 2 53, hgap, Nat.mul_le_mul_right_iff (Nat.two_pow_pos _),
    Nat.mul_le_mul_right_iff (Nat.two_pow_pos _)]
  omega

/-- A number of 53 bits is in range at the last exponent too. -/
lemma short_lt (hn : n < 2 ^ 53) (he : e ≤ t + 1) :
    n * 2 ^ e < 2 ^ (53 + (t + 1)) ∧ n * 2 ^ (e + u) < (2 ^ 54 - 1) * 2 ^ t * 2 ^ u := by
  have hgap : (2 ^ 53 - 1) * 2 ^ (t + 1) < (2 ^ 54 - 1) * 2 ^ t := by
    have hsucc : 2 ^ (t + 1) = 2 * 2 ^ t := Nat.pow_succ'
    rw [hsucc, ← Nat.mul_assoc]
    exact Nat.mul_lt_mul_of_pos_right (by decide) (Nat.two_pow_pos _)
  have hlt : n * 2 ^ e < (2 ^ 54 - 1) * 2 ^ t :=
    (Nat.mul_le_mul (by omega) (Nat.pow_le_pow_right (by decide) he)).trans_lt hgap
  refine ⟨hlt.trans_le (lastGap_le t), ?_⟩
  rw [Nat.pow_add, ← Nat.mul_assoc]
  exact Nat.mul_lt_mul_of_pos_right hlt (Nat.two_pow_pos _)

/-- Where rounding takes a number out of the range, with the exponent of the bits that are kept. -/
lemma rounded_overflows (he : excess n = 0 → e ≤ t + 1) (hs : excess n ≤ e + u) :
    2 ^ (53 + (t + 1)) ≤ roundShift n (excess n) * 2 ^ e ↔
      (2 ^ 54 - 1) * 2 ^ t * 2 ^ u ≤ n * 2 ^ (e + u - excess n) := by
  rcases hk : excess n with _ | k
  · obtain ⟨hround, hvalue⟩ := short_lt (u := u) (by simpa [hk] using lt_excess n) (he hk)
    rw [roundShift_zero, Nat.sub_zero]
    exact iff_of_false hround.not_ge hvalue.not_ge
  · rw [← hk]
    rcases Nat.lt_trichotomy e (t + 1) with hsmall | rfl | hlarge
    · obtain ⟨hround, hvalue⟩ := small_lt (t := t) (by omega) hs
      exact iff_of_false hround.not_ge hvalue.not_ge
    · exact last_iff hk hs
    · obtain ⟨hround, hvalue⟩ := large_ge (t := t) (excess_ge hk) (by omega) hs
      exact iff_of_true hround hvalue

end

/-- **A product is out of range from `overflow` on**, rounded to the nearest. -/
theorem mulTrunc_eq_none_iff (x : Binary64) (n : ℕ) :
    x.mulTrunc n = none ↔ overflow * 2 ^ 1074 ≤ x.scaled * n := by
  have hge := x.exp_ge
  have hle := x.exp_le
  have hlt := lt_excess (x.mant * n)
  rw [scaled, Nat.mul_right_comm, overflow]
  simp only [mulTrunc]
  rcases hexp : x.exp + excess (x.mant * n) with e | e
  · have hcast : x.exp + excess (x.mant * n) = (e : ℤ) := hexp
    have hshift : (x.exp + 1074).toNat = e + 1074 - excess (x.mant * n) := by omega
    rw [hshift, ← rounded_overflows (t := 970) (u := 1074) (by omega) (by omega),
      show 53 + (970 + 1) = 1024 from rfl]
    dsimp only
    split_ifs with h
    · exact iff_of_false (by simp) h.not_ge
    · exact iff_of_true rfl (Nat.le_of_not_lt h)
  · -- an integer part below `2 ^ 53`
    have hcast : x.exp + excess (x.mant * n) = -((e : ℤ) + 1) := hexp
    have hshift : (x.exp + 1074).toNat ≤ 0 + 1074 - excess (x.mant * n) := by omega
    have hsmall := (small_lt (n := x.mant * n) (t := 970) (u := 1074) (Nat.zero_le 970)
      (by omega)).2
    exact iff_of_false (by simp) ((Nat.mul_le_mul_left _
      (Nat.pow_le_pow_right (by decide) hshift)).trans_lt hsmall).not_ge

attribute [irreducible] ofNat?

example : mulTrunc ⟨3, -1, by decide, by decide, by decide⟩ 1000000 = some 1500000 := by decide

end Binary64

end HermesRealtime

import HermesRealtime.Binary64

/-!
Rounding to 53 bits is monotone, and so is the integer part of a rounded product.
-/

namespace HermesRealtime.Binary64

variable {m n k s : ℕ}

/-- The number of 53 significant bits nearest to `n`, ties to even. -/
def rounded (n : ℕ) : ℕ := roundShift n (excess n) * 2 ^ excess n

lemma roundShift_mono (h : m ≤ n) (s : ℕ) : roundShift m s ≤ roundShift n s := by
  have hquot : m / 2 ^ s ≤ n / 2 ^ s := Nat.div_le_div_right h
  have hm := Nat.div_add_mod m (2 ^ s)
  have hn := Nat.div_add_mod n (2 ^ s)
  rw [roundShift, roundShift]
  rcases Nat.lt_or_eq_of_le hquot with hlt | heq
  · split_ifs <;> omega
  · -- the quotients agree, and the remainders are in the order of the numbers
    have hrest : m % 2 ^ s ≤ n % 2 ^ s := by
      rw [heq] at hm
      omega
    rw [heq]
    split_ifs <;> omega

/-- Low bits that are zero do not matter. -/
lemma roundShift_shift (n s k : ℕ) : roundShift (n * 2 ^ k) (s + k) = roundShift n s := by
  have hpos := Nat.two_pow_pos k
  have hlt : 2 * (n % 2 ^ s * 2 ^ k) < 2 ^ s * 2 ^ k ↔ 2 * (n % 2 ^ s) < 2 ^ s := by
    rw [← Nat.mul_assoc]
    exact Nat.mul_lt_mul_right hpos
  have heq : 2 * (n % 2 ^ s * 2 ^ k) = 2 ^ s * 2 ^ k ↔ 2 * (n % 2 ^ s) = 2 ^ s := by
    rw [← Nat.mul_assoc]
    exact Nat.mul_left_inj hpos.ne'
  rw [roundShift, roundShift, Nat.pow_add, Nat.mul_mod_mul_right, Nat.mul_div_mul_right _ _ hpos]
  simp only [hlt, heq]

lemma excess_mono (h : m ≤ n) : excess m ≤ excess n := excess_le (h.trans_lt (lt_excess n))

lemma rounded_of_dvd (h : 2 ^ excess n ∣ n) : rounded n = n := by
  have hmod : n % 2 ^ excess n = 0 := Nat.mod_eq_zero_of_dvd h
  have hlow : 2 * (n % 2 ^ excess n) < 2 ^ excess n := by
    rw [hmod]
    exact Nat.two_pow_pos _
  rw [rounded, roundShift, if_pos (.inl hlow), Nat.div_mul_cancel h]

/-- Rounding commutes with shifting. -/
lemma rounded_shift (n k : ℕ) : rounded (n * 2 ^ k) = rounded n * 2 ^ k := by
  have hlt := lt_excess n
  have hshifted : n * 2 ^ k < 2 ^ (53 + (excess n + k)) := by
    rw [← Nat.add_assoc, Nat.pow_add]
    exact Nat.mul_lt_mul_of_pos_right hlt (Nat.two_pow_pos k)
  rcases hs : excess n with _ | s
  · -- all bits of `n` fit, so those of the shifted number that do not are zero
    rw [hs, Nat.zero_add] at hshifted
    have hdvd : 2 ^ excess (n * 2 ^ k) ∣ n * 2 ^ k :=
      Nat.dvd_trans (Nat.pow_dvd_pow 2 (excess_le hshifted)) (Nat.dvd_mul_left _ _)
    rw [rounded_of_dvd hdvd, rounded_of_dvd (by simp [hs])]
  · have hge : 2 ^ (53 + (s + k)) ≤ n * 2 ^ k := by
      have := excess_ge hs
      rw [← Nat.add_assoc, Nat.pow_add]
      refine Nat.mul_le_mul_right _ ?_
      rwa [hs, show 52 + (s + 1) = 53 + s by omega] at this
    have hexcess : excess (n * 2 ^ k) = s + 1 + k := by
      have hle := excess_le hshifted
      have hge' := le_excess hge
      omega
    rw [rounded, rounded, hexcess, hs, roundShift_shift, Nat.pow_add, Nat.mul_assoc]

/-- **Rounding is monotone.** -/
theorem rounded_mono (h : m ≤ n) : rounded m ≤ rounded n := by
  rcases Nat.lt_or_eq_of_le (excess_mono h) with hlt | heq
  · obtain ⟨k, hk⟩ : ∃ k, excess n = k + 1 := ⟨excess n - 1, by omega⟩
    calc rounded m ≤ 2 ^ 53 * 2 ^ excess m := Nat.mul_le_mul_right _ (roundShift_le m)
      _ = 2 ^ (53 + excess m) := (Nat.pow_add ..).symm
      _ ≤ 2 ^ (52 + excess n) := Nat.pow_le_pow_right (by decide) (by omega)
      _ = 2 ^ 52 * 2 ^ excess n := Nat.pow_add ..
      _ ≤ rounded n := Nat.mul_le_mul_right _ (le_roundShift (excess_ge hk))
  · rw [rounded, rounded, heq]
    exact Nat.mul_le_mul_right _ (roundShift_mono h _)

/-- The integer part of a product is that of the rounded product. -/
lemma mulTrunc_eq {x : Binary64} {a : ℕ} (h : x.mulTrunc n = some a) :
    a = rounded (x.scaled * n) / 2 ^ 1074 := by
  have hge := x.exp_ge
  have hrounded : rounded (x.scaled * n) =
      roundShift (x.mant * n) (excess (x.mant * n)) *
        2 ^ (excess (x.mant * n) + (x.exp + 1074).toNat) := by
    rw [scaled, Nat.mul_right_comm, rounded_shift, rounded, Nat.mul_assoc, ← Nat.pow_add]
  rw [hrounded]
  obtain ⟨unit, hunit⟩ : ∃ unit : ℕ, unit = 1074 := ⟨_, rfl⟩
  rw [← hunit]
  simp only [mulTrunc] at h
  generalize roundShift (x.mant * n) (excess (x.mant * n)) = r at h ⊢
  generalize excess (x.mant * n) = s at h ⊢
  rcases hexp : x.exp + s with e | e
  · have hcast : x.exp + s = (e : ℤ) := hexp
    rw [hexp] at h
    dsimp only at h
    split_ifs at h
    obtain rfl := Option.some_inj.mp h
    rw [show s + (x.exp + 1074).toNat = e + unit by omega, Nat.pow_add, ← Nat.mul_assoc,
      Nat.mul_div_cancel _ (Nat.two_pow_pos _)]
  · have hcast : x.exp + s = -((e : ℤ) + 1) := hexp
    rw [hexp] at h
    obtain rfl := Option.some_inj.mp h
    have hpow : 2 ^ unit = 2 ^ (e + 1) * 2 ^ (s + (x.exp + 1074).toNat) := by
      rw [← Nat.pow_add]
      congr 1
      omega
    rw [hpow, Nat.mul_div_mul_right _ _ (Nat.two_pow_pos _)]

/-- **The integer part of a product is monotone** in the factor. -/
theorem mulTrunc_mono {x y : Binary64} {a b : ℕ} (h : x.scaled ≤ y.scaled)
    (hx : x.mulTrunc n = some a) (hy : y.mulTrunc n = some b) : a ≤ b := by
  rw [mulTrunc_eq hx, mulTrunc_eq hy]
  exact Nat.div_le_div_right (rounded_mono (Nat.mul_le_mul_right n h))

end HermesRealtime.Binary64

import HermesRealtime.Listener
import Mathlib.Tactic.Ring
import Mathlib.Tactic.Linarith

/-!
Resampling without drift. Every frame adds the rate of the model to an accumulator, and a sample is
pushed for each time the rate of the input fits into it. So the number of samples is that of a
division with remainder, and the remainder is what the accumulator keeps for the next callback.

The loop stands twice in the listener, once where it is tested and once where it is used. The second
divides by the number of channels before it makes sure that there are any.
-/

namespace HermesRealtime.Resampling

open Listener

variable {F : Type}

/-! ### One frame -/

def push (ring : SampleRing F) (sample : F) : SampleRing F := ring.write [sample]

/-- What a frame adds. -/
def resampleMono (rate : ℕ) (s : Capture F) (mono : F) : Capture F :=
  pushWhile rate mono { s with accumulator := (s.accumulator + modelRate) % 2 ^ 32 }

/-- The mono mix of a frame. -/
def monoOf (fl : Floats F) (samples : ℕ → F) (channels frame : ℕ) : F :=
  fl.div ((List.range channels).foldl
    (fun mono ch => fl.add mono (samples (frame * channels + ch))) fl.zero)
    (fl.ofUnsigned channels)

/-- The loop pushes the sample as often as the rate fits, and leaves the remainder. -/
lemma pushWhile_eq {rate : ℕ} (hrate : 0 < rate) (mono : F) (s : Capture F) :
    pushWhile rate mono s =
      ⟨(List.replicate (s.accumulator / rate) mono).foldl push s.ring, s.accumulator % rate⟩ := by
  induction h : s.accumulator using Nat.strong_induction_on generalizing s with
  | _ accumulator ih =>
    subst h
    rw [pushWhile]
    by_cases hfits : rate ≤ s.accumulator
    · rw [if_pos ⟨hrate, hfits⟩, ih (s.accumulator - rate) (by omega) _ rfl]
      rw [Nat.div_eq_sub_div hrate hfits, List.replicate_succ, List.foldl_cons,
        ← Nat.mod_eq_sub_mod hfits]
      rfl
    · rw [if_neg (fun h => hfits h.2), Nat.div_eq_of_lt (by omega), Nat.mod_eq_of_lt (by omega)]
      rfl

/-! ### What is pushed -/

/-- The samples that are pushed for some frames. -/
def emitted (rate : ℕ) : ℕ → List F → List F
  | _, [] => []
  | accumulator, mono :: monos =>
    List.replicate ((accumulator + modelRate) / rate) mono ++
      emitted rate ((accumulator + modelRate) % rate) monos

lemma step_remainder (rate a total : ℕ) :
    a + total = rate * (a / rate) + (a % rate + total) := by
  have h := Nat.div_add_mod a rate
  omega

lemma emitted_length {rate : ℕ} (hrate : 0 < rate) {accumulator : ℕ} (hlt : accumulator < rate)
    (monos : List F) : (emitted rate accumulator monos).length =
      (accumulator + modelRate * monos.length) / rate := by
  induction monos generalizing accumulator with
  | nil => simpa [emitted] using (Nat.div_eq_of_lt hlt).symm
  | cons mono monos ih =>
    rw [emitted, List.length_append, List.length_replicate, ih (Nat.mod_lt _ hrate)]
    have hsplit : accumulator + modelRate * (mono :: monos).length =
        rate * ((accumulator + modelRate) / rate) +
          ((accumulator + modelRate) % rate + modelRate * monos.length) := by
      rw [← step_remainder, List.length_cons, Nat.mul_succ]
      omega
    rw [hsplit, Nat.mul_add_div hrate]

/-- The frame from which sample `j` comes: the first that brings the accumulator so far. -/
structure From (rate accumulator j f : ℕ) : Prop where
  reached : (j + 1) * rate ≤ accumulator + modelRate * (f + 1)
  first : ∀ earlier < f, accumulator + modelRate * (earlier + 1) < (j + 1) * rate

lemma emitted_from {rate : ℕ} (hrate : 0 < rate) {accumulator : ℕ} (monos : List F) {j : ℕ}
    {sample : F} (hj : (emitted rate accumulator monos)[j]? = some sample) :
    ∃ f, monos[f]? = some sample ∧ From rate accumulator j f := by
  induction monos generalizing accumulator j with
  | nil => simp [emitted] at hj
  | cons mono monos ih =>
    have hdiv := Nat.div_add_mod (accumulator + modelRate) rate
    have hmod := Nat.mod_lt (accumulator + modelRate) hrate
    rw [emitted] at hj
    set times := (accumulator + modelRate) / rate with htimes
    rcases Nat.lt_or_ge j times with hnow | hlater
    · rw [List.getElem?_append_left (by simpa using hnow), List.getElem?_replicate,
        if_pos hnow] at hj
      refine ⟨0, by simpa using hj, ?_, fun _ h => absurd h (Nat.not_lt_zero _)⟩
      calc (j + 1) * rate ≤ times * rate := Nat.mul_le_mul_right _ hnow
        _ ≤ accumulator + modelRate * (0 + 1) := by rw [Nat.mul_comm]; omega
    · rw [List.getElem?_append_right (by simpa using hlater), List.length_replicate] at hj
      obtain ⟨f, hf, hreached, hfirst⟩ := ih hj
      have hshift : (j + 1) * rate = rate * times + (j - times + 1) * rate := by
        rw [Nat.mul_comm rate, ← Nat.add_mul]
        congr 1
        omega
      refine ⟨f + 1, by simpa using hf, ?_, fun earlier hearlier => ?_⟩
      · rw [hshift]
        linarith
      · rw [hshift]
        rcases earlier with _ | earlier
        · have hone : rate ≤ (j - times + 1) * rate := Nat.le_mul_of_pos_left _ (by omega)
          omega
        · have hbefore := hfirst earlier (by omega)
          linarith

/-- Frames one after another, while the accumulator does not come round. -/
lemma resample_run {rate : ℕ} (hrate : 0 < rate) (hsmall : rate ≤ 2 ^ 32 - modelRate)
    (s : Capture F) (hs : s.accumulator < rate) (monos : List F) :
    monos.foldl (resampleMono rate) s =
      ⟨(emitted rate s.accumulator monos).foldl push s.ring,
        (s.accumulator + modelRate * monos.length) % rate⟩ := by
  induction monos generalizing s with
  | nil =>
    have hmod := Nat.mod_eq_of_lt hs
    simp [emitted, hmod]
  | cons mono monos ih =>
    have hmodel : modelRate = 16000 := rfl
    have hstep : resampleMono rate s mono =
        ⟨(List.replicate ((s.accumulator + modelRate) / rate) mono).foldl push s.ring,
          (s.accumulator + modelRate) % rate⟩ := by
      rw [resampleMono, pushWhile_eq hrate]
      dsimp only
      rw [Nat.mod_eq_of_lt (by omega)]
    rw [List.foldl_cons, hstep, ih _ (Nat.mod_lt _ hrate), emitted, List.foldl_append]
    dsimp only
    rw [Nat.mod_add_mod, List.length_cons, Nat.mul_succ, Nat.add_assoc,
      Nat.add_comm modelRate (modelRate * monos.length)]

/-! ### Callbacks -/

/-- `mix_and_resample_downmix` for a chunk: for the whole frames in it. -/
def mixChunk (fl : Floats F) (channels rate : ℕ) (s : Capture F) (chunk : Chunk F) : Capture F :=
  mixAndResampleDownmix fl chunk.samples (chunk.size / (4 * max channels 1)) channels rate s

/-- The frames of a chunk, mixed. -/
def monosOf (fl : Floats F) (channels : ℕ) (chunk : Chunk F) : List F :=
  (List.range (chunk.size / (4 * max channels 1))).map
    (monoOf fl chunk.samples (max channels 1))

lemma guard_eq_max (channels : ℕ) : (if channels = 0 then 1 else channels) = max channels 1 := by
  split_ifs with h <;> omega

lemma mixChunk_eq (fl : Floats F) (channels : ℕ) {rate : ℕ} (hrate : 0 < rate) (s : Capture F)
    (chunk : Chunk F) :
    mixChunk fl channels rate s chunk =
      (monosOf fl channels chunk).foldl (resampleMono rate) s := by
  rw [mixChunk, mixAndResampleDownmix, monosOf, List.foldl_map, guard_eq_max,
    if_neg (by omega : rate ≠ 0)]
  rfl

/-- **The loop that is used agrees with the one that is tested exactly if there are channels**, or
no samples at all; else it divides by zero. -/
theorem onProcess_eq_mix_iff (fl : Floats F) (channels rate : ℕ) (s : Capture F)
    (chunk : Chunk F) :
    onProcess fl channels rate s chunk = some (mixChunk fl channels rate s chunk) ↔
      channels ≠ 0 ∨ chunk.size = 0 := by
  rw [onProcess]
  by_cases hsize : chunk.size = 0
  · simp [hsize, mixChunk, mixAndResampleDownmix]
  · by_cases hchannels : channels = 0
    · simp [hsize, hchannels]
    · have hmax : max channels 1 = channels := by omega
      have hguard : ¬ 4 * channels = 0 := by omega
      simp only [hsize, hchannels, hguard, if_false, mixChunk, mixAndResampleDownmix, hmax]
      exact iff_of_true rfl (.inl hchannels)

/-- A ring of eight samples, and nothing left over. -/
def silence : Capture ℤ := ⟨⟨8, fun _ => 0, 0, 0, by decide⟩, 0⟩

/-- The capture thread divides by zero: the format that was negotiated has no channels, and two
samples arrive. -/
theorem onProcess_no_channels : onProcess integers 0 48000 silence ⟨fun _ => 1, 8⟩ = none ∧
    onProcess integers 0 48000 silence ⟨fun _ => 1, 8⟩ ≠
      some (mixChunk integers 0 48000 silence ⟨fun _ => 1, 8⟩) := by
  have hnone : onProcess integers 0 48000 silence ⟨fun _ => 1, 8⟩ = none := by
    simp [onProcess]
  exact ⟨hnone, by simp [hnone]⟩

/-- Frames resampled without drift. -/
structure Resampled (rate : ℕ) (s : Capture F) (monos : List F) (s' : Capture F) : Prop where
  accumulator : s'.accumulator = (s.accumulator + modelRate * monos.length) % rate
  pushed : ∃ pushed : List F, s'.ring = pushed.foldl push s.ring ∧
    pushed.length = (s.accumulator + modelRate * monos.length) / rate ∧
    ∀ j sample, pushed[j]? = some sample →
      ∃ f, monos[f]? = some sample ∧ From rate s.accumulator j f

lemma foldl_mixChunk (fl : Floats F) (channels : ℕ) {rate : ℕ} (hrate : 0 < rate) (s : Capture F)
    (chunks : List (Chunk F)) : chunks.foldl (mixChunk fl channels rate) s =
      (chunks.flatMap (monosOf fl channels)).foldl (resampleMono rate) s := by
  induction chunks generalizing s with
  | nil => rfl
  | cons chunk chunks ih =>
    rw [List.foldl_cons, ih, mixChunk_eq fl channels hrate, List.flatMap_cons, List.foldl_append]

lemma foldlM_onProcess (fl : Floats F) {channels : ℕ} (hchannels : channels ≠ 0) (rate : ℕ)
    (s : Capture F) (chunks : List (Chunk F)) :
    chunks.foldlM (onProcess fl channels rate) s =
      some (chunks.foldl (mixChunk fl channels rate) s) := by
  induction chunks generalizing s with
  | nil => rfl
  | cons chunk chunks ih =>
    have hchunk := (onProcess_eq_mix_iff fl channels rate s chunk).mpr (.inl hchannels)
    rw [List.foldlM_cons, hchunk, List.foldl_cons, ← ih]
    rfl

/-- **Resampling without drift**: whatever the chunks in which frames arrive, what is pushed and
what is left depend on the frames alone. -/
theorem resample_exact (fl : Floats F) (channels : ℕ) {rate : ℕ} (hrate : 1 ≤ rate)
    (hsmall : rate ≤ 2 ^ 32 - modelRate) (s : Capture F) (hs : s.accumulator < rate)
    (chunks : List (Chunk F)) :
    ∃ s', Resampled rate s (chunks.flatMap (monosOf fl channels)) s' ∧
      ∀ split : List (Chunk F), split.flatMap (monosOf fl channels) =
        chunks.flatMap (monosOf fl channels) →
          split.foldl (mixChunk fl channels rate) s = s' ∧
            (channels ≠ 0 → split.foldlM (onProcess fl channels rate) s = some s') := by
  set monos := chunks.flatMap (monosOf fl channels) with hmonos
  have hrun := resample_run hrate hsmall s hs monos
  refine ⟨monos.foldl (resampleMono rate) s, ?_, fun split hsplit => ?_⟩
  · rw [hrun]
    exact ⟨rfl, _, rfl, emitted_length hrate hs monos,
      fun j sample hj => emitted_from hrate monos hj⟩
  · have hmix : split.foldl (mixChunk fl channels rate) s = monos.foldl (resampleMono rate) s := by
      rw [foldl_mixChunk fl channels hrate, hsplit]
    exact ⟨hmix, fun hchannels => by rw [foldlM_onProcess fl hchannels, hmix]⟩

/-- Three frames of two channels at 48 kHz, in one callback or in two, leave one sample: the mix of
the last frame. -/
theorem resample_third : ∃ s', Resampled 48000 silence [2, 3, 5] s' ∧
    ([⟨fun i => i + 2, 8⟩, ⟨fun i => i + 3, 16⟩] : List (Chunk ℤ)).foldlM
      (onProcess integers 2 48000) silence = some s' := by
  have hmonos : ([⟨fun i => i + 2, 8⟩, ⟨fun i => i + 3, 16⟩] : List (Chunk ℤ)).flatMap
      (monosOf integers 2) = [2, 3, 5] := by
    decide
  obtain ⟨s', h, hsplit⟩ := resample_exact integers 2 (by decide : 1 ≤ 48000) (by decide) silence
    (by decide) [⟨fun i => i + 2, 8⟩, ⟨fun i => i + 3, 16⟩]
  rw [hmonos] at h
  exact ⟨s', h, (hsplit _ rfl).2 (by decide)⟩

end HermesRealtime.Resampling

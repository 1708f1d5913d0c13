import Mathlib.Tactic.Common
import Mathlib.Data.List.Basic
import Mathlib.Data.List.Forall2

/-!
Texts as UTF-16 code units, the way JavaScript has them.

A text of characters is a sequence of units in exactly one way; a sequence of units is a text
unless one half of a surrogate pair stands in it alone. `decode` and `encode` are inverse to each
other where the first is defined.
-/

namespace HermesRealtime.Utf16

def isHigh (u : UInt16) : Bool := 0xD800 ≤ u.toNat && u.toNat < 0xDC00

def isLow (u : UInt16) : Bool := 0xDC00 ≤ u.toNat && u.toNat < 0xE000

/-- The character of a surrogate pair. -/
def combine (u v : UInt16) : Char :=
  Char.ofNat (0x10000 + (u.toNat - 0xD800) * 0x400 + (v.toNat - 0xDC00))

def encodeChar (c : Char) : List UInt16 :=
  if c.toNat < 0x10000 then [UInt16.ofNat c.toNat]
  else
    [UInt16.ofNat (0xD800 + (c.toNat - 0x10000) / 0x400),
      UInt16.ofNat (0xDC00 + (c.toNat - 0x10000) % 0x400)]

def encode (text : List Char) : List UInt16 := text.flatMap encodeChar

def decode : List UInt16 → Option (List Char)
  | [] => some []
  | [u] => if isHigh u || isLow u then none else some [Char.ofNat u.toNat]
  | u :: v :: us =>
    if isHigh u then
      if isLow v then (decode us).map (combine u v :: ·) else none
    else if isLow u then none
    else (decode (v :: us)).map (Char.ofNat u.toNat :: ·)

/-- The units of a text the program writes out. -/
def ofString (text : String) : List UInt16 := encode text.toList

@[simp] lemma encode_nil : encode [] = [] := rfl

@[simp] lemma encode_cons (c : Char) (text : List Char) :
    encode (c :: text) = encodeChar c ++ encode text := rfl

/-! ### Single characters -/

lemma toNat_bounds (c : Char) : c.toNat < 0xD800 ∨ 0xDFFF < c.toNat ∧ c.toNat < 0x110000 := by
  have hvalid := c.valid
  simp only [UInt32.isValidChar, Nat.isValidChar] at hvalid
  exact hvalid

lemma ofNat_toNat {n : ℕ} (h : n < 0xD800 ∨ 0xDFFF < n ∧ n < 0x110000) :
    (Char.ofNat n).toNat = n := by
  rw [Char.ofNat, dif_pos h]
  rfl

lemma toNat_unit {n : ℕ} (h : n < 0x10000) : (UInt16.ofNat n).toNat = n :=
  UInt16.toNat_ofNat_of_lt' h

/-- The two halves of a character beyond the basic plane. -/
lemma encodeChar_pair {c : Char} (h : 0x10000 ≤ c.toNat) : ∃ u v, encodeChar c = [u, v] ∧
    isHigh u = true ∧ isLow v = true ∧ combine u v = c := by
  have hbound := toNat_bounds c
  have hu := toNat_unit (n := 0xD800 + (c.toNat - 0x10000) / 0x400) (by omega)
  have hv := toNat_unit (n := 0xDC00 + (c.toNat - 0x10000) % 0x400) (by omega)
  refine ⟨_, _, by rw [encodeChar, if_neg (by omega)], ?_, ?_, ?_⟩
  · simp only [isHigh, hu, Bool.and_eq_true, decide_eq_true_eq]
    omega
  · simp only [isLow, hv, Bool.and_eq_true, decide_eq_true_eq]
    omega
  · have hsum : 0x10000 + (0xD800 + (c.toNat - 0x10000) / 0x400 - 0xD800) * 0x400 +
        (0xDC00 + (c.toNat - 0x10000) % 0x400 - 0xDC00) = c.toNat := by omega
    rw [combine, hu, hv, hsum, Char.ofNat_toNat]

lemma encodeChar_unit {c : Char} (h : c.toNat < 0x10000) : ∃ u, encodeChar c = [u] ∧
    u.toNat = c.toNat ∧ isHigh u = false ∧ isLow u = false := by
  have hbound := toNat_bounds c
  have hu := toNat_unit h
  refine ⟨_, by rw [encodeChar, if_pos h], hu, ?_, ?_⟩
  · simp only [isHigh, hu, Bool.and_eq_false_iff, decide_eq_false_iff_not]
    omega
  · simp only [isLow, hu, Bool.and_eq_false_iff, decide_eq_false_iff_not]
    omega

/-- A unit that is not half of a pair is a character. -/
lemma encodeChar_ofNat {u : UInt16} (hhigh : isHigh u = false) (hlow : isLow u = false) :
    encodeChar (Char.ofNat u.toNat) = [u] := by
  simp only [isHigh, isLow, Bool.and_eq_false_iff, decide_eq_false_iff_not] at hhigh hlow
  have hlt := u.toNat_lt
  have hu : (Char.ofNat u.toNat).toNat = u.toNat := ofNat_toNat (by omega)
  rw [encodeChar, hu, if_pos (by omega), UInt16.ofNat_toNat]

/-- A pair is a character. -/
lemma encodeChar_combine {u v : UInt16} (hu : isHigh u = true) (hv : isLow v = true) :
    encodeChar (combine u v) = [u, v] := by
  simp only [isHigh, isLow, Bool.and_eq_true, decide_eq_true_eq] at hu hv
  have hc : (combine u v).toNat = 0x10000 + (u.toNat - 0xD800) * 0x400 + (v.toNat - 0xDC00) :=
    ofNat_toNat (by omega)
  have hhigh : 0xD800 + ((combine u v).toNat - 0x10000) / 0x400 = u.toNat := by omega
  have hlow : 0xDC00 + ((combine u v).toNat - 0x10000) % 0x400 = v.toNat := by omega
  rw [encodeChar, if_neg (by omega), hhigh, hlow, UInt16.ofNat_toNat, UInt16.ofNat_toNat]

/-! ### Whole texts -/

lemma decode_cons {u : UInt16} (hhigh : isHigh u = false) (hlow : isLow u = false)
    (us : List UInt16) : decode (u :: us) = (decode us).map (Char.ofNat u.toNat :: ·) := by
  cases us with
  | nil => simp [decode, hhigh, hlow]
  | cons v us => simp [decode, hhigh, hlow]

lemma decode_pair {u v : UInt16} (hu : isHigh u = true) (hv : isLow v = true)
    (us : List UInt16) : decode (u :: v :: us) = (decode us).map (combine u v :: ·) := by
  simp [decode, hu, hv]

/-- **A text is read back.** -/
@[simp] theorem decode_encode (text : List Char) : decode (encode text) = some text := by
  induction text with
  | nil => rfl
  | cons c text ih =>
    rw [encode_cons]
    rcases Nat.lt_or_ge c.toNat 0x10000 with h | h
    · obtain ⟨u, hu, htoNat, hhigh, hlow⟩ := encodeChar_unit h
      rw [hu, List.singleton_append, decode_cons hhigh hlow, ih, htoNat, Char.ofNat_toNat]
      rfl
    · obtain ⟨u, v, huv, hu, hv, hc⟩ := encodeChar_pair h
      rw [huv, List.cons_append, List.singleton_append, decode_pair hu hv, ih, hc]
      rfl

/-- What is read as a text is how that text is written. -/
lemma encode_of_decode {us : List UInt16} {text : List Char} (h : decode us = some text) :
    encode text = us := by
  fun_induction decode us generalizing text with
  | case1 =>
    obtain rfl := Option.some.inj h
    rfl
  | case2 => cases h
  | case3 u hsurrogate =>
    obtain ⟨hhigh, hlow⟩ : isHigh u = false ∧ isLow u = false := by simpa using hsurrogate
    obtain rfl := Option.some.inj h
    simp [encodeChar_ofNat hhigh hlow]
  | case4 u v us hu hv ih =>
    obtain ⟨rest, hrest, rfl⟩ := Option.map_eq_some_iff.mp h
    rw [encode_cons, encodeChar_combine hu hv, ih hrest]
    rfl
  | case5 => cases h
  | case6 => cases h
  | case7 u v us hhigh hlow ih =>
    obtain ⟨rest, hrest, rfl⟩ := Option.map_eq_some_iff.mp h
    rw [encode_cons, encodeChar_ofNat (by simpa using hhigh) (by simpa using hlow), ih hrest]
    rfl

theorem decode_eq_some_iff {us : List UInt16} {text : List Char} :
    decode us = some text ↔ us = encode text :=
  ⟨fun h => (encode_of_decode h).symm, fun h => h ▸ decode_encode text⟩

lemma encode_injective : Function.Injective encode := by
  intro s t h
  have hs := decode_encode s
  rw [h, decode_encode] at hs
  exact (Option.some.inj hs).symm

@[simp] lemma encode_eq_nil {text : List Char} : encode text = [] ↔ text = [] :=
  ⟨fun h => encode_injective (h.trans encode_nil.symm), fun h => h ▸ rfl⟩

lemma ofString_injective : Function.Injective ofString :=
  fun _ _ h => String.toList_inj.mp (encode_injective h)

/-! ### Lengths -/

/-- The characters that take two units. -/
def astral (c : Char) : Bool := 0x10000 ≤ c.toNat

lemma length_encode (text : List Char) :
    (encode text).length = text.length + text.countP astral := by
  induction text with
  | nil => rfl
  | cons c text ih =>
    rw [encode_cons, List.length_append, ih, List.length_cons, List.countP_cons]
    rcases Nat.lt_or_ge c.toNat 0x10000 with h | h
    · obtain ⟨u, hu, -⟩ := encodeChar_unit h
      rw [hu, if_neg (by simp [astral]; omega), List.length_singleton]
      omega
    · obtain ⟨u, v, huv, -⟩ := encodeChar_pair h
      rw [huv, if_pos (by simpa [astral] using h), List.length_cons, List.length_singleton]
      omega

lemma length_le_encode (text : List Char) : text.length ≤ (encode text).length := by
  rw [length_encode]
  omega

/-- Characters of the basic plane are units. -/
lemma mem_encode {text : List Char} {c : Char} (hc : c ∈ text) (h : c.toNat < 0x10000) :
    ∃ u ∈ encode text, u.toNat = c.toNat := by
  obtain ⟨u, hu, htoNat, -⟩ := encodeChar_unit h
  exact ⟨u, List.mem_flatMap.mpr ⟨c, hc, by simp [hu]⟩, htoNat⟩

/-- A text of the basic plane has one unit for each character. -/
lemma encode_basic {text : List Char} (h : ∀ c ∈ text, c.toNat < 0x10000) :
    encode text = text.map fun c => UInt16.ofNat c.toNat := by
  induction text with
  | nil => rfl
  | cons c text ih =>
    rw [encode_cons, encodeChar, if_pos (h c (by simp)), ih fun d hd => h d (by simp [hd])]
    rfl

end HermesRealtime.Utf16

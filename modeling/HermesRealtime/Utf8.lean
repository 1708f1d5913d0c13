import Mathlib.Data.List.Basic

/-!
UTF-8 over the numbers of the characters. A surrogate has no encoding. The decoder is a scan with
what is pending of a character; what cannot be continued is replaced, up to the octet that does not
continue it.
-/

namespace HermesRealtime.Utf8

/-- A text, by the numbers of its characters. -/
abbrev Str := List ℕ

/-- The number of a character that is no surrogate. -/
def IsScalar (c : ℕ) : Prop := c < 0xD800 ∨ 0xE000 ≤ c ∧ c < 0x110000

instance (c : ℕ) : Decidable (IsScalar c) := by
  unfold IsScalar
  infer_instance

def encodeChar (c : ℕ) : List ℕ :=
  if c < 0x80 then [c]
  else if c < 0x800 then [0xC0 + c / 64, 0x80 + c % 64]
  else if c < 0x10000 then [0xE0 + c / 4096, 0x80 + c / 64 % 64, 0x80 + c % 64]
  else [0xF0 + c / 262144, 0x80 + c / 4096 % 64, 0x80 + c / 64 % 64, 0x80 + c % 64]

/-- `encode('utf-8')`, unless it raises. -/
def encode (s : Str) : Option (List ℕ) :=
  if ∀ c ∈ s, IsScalar c then some (s.flatMap encodeChar) else none

/-- The bits so far, how many octets follow the next one, and the range of the next one. -/
structure Pending where
  value : ℕ
  more : ℕ
  low : ℕ
  high : ℕ

def replacement : ℕ := 0xFFFD

/-- The first octet of a character: what it gives, and what is pending after it. -/
def first (b : ℕ) : Str × Option Pending :=
  if b < 0x80 then ([b], none)
  else if b < 0xC2 then ([replacement], none)
  else if b < 0xE0 then ([], some ⟨b - 0xC0, 0, 0x80, 0xBF⟩)
  else if b < 0xF0 then
    ([], some ⟨b - 0xE0, 1, if b = 0xE0 then 0xA0 else 0x80, if b = 0xED then 0x9F else 0xBF⟩)
  else if b < 0xF5 then
    ([], some ⟨b - 0xF0, 2, if b = 0xF0 then 0x90 else 0x80, if b = 0xF4 then 0x8F else 0xBF⟩)
  else ([replacement], none)

def next (p : Pending) (b : ℕ) : Str × Option Pending :=
  if p.low ≤ b ∧ b ≤ p.high then
    match p.more with
    | 0 => ([p.value * 64 + (b - 0x80)], none)
    | more + 1 => ([], some ⟨p.value * 64 + (b - 0x80), more, 0x80, 0xBF⟩)
  else (replacement :: (first b).1, (first b).2)

def step : Option Pending → ℕ → Str × Option Pending
  | none => first
  | some p => next p

def decodeFrom : Option Pending → List ℕ → Str
  | none, [] => []
  | some _, [] => [replacement]
  | p, b :: bs => (step p b).1 ++ decodeFrom (step p b).2 bs

/-- `decode('utf-8', 'replace')`. -/
def decode (bs : List ℕ) : Str := decodeFrom none bs

lemma decodeFrom_cons (p : Option Pending) (b : ℕ) (bs : List ℕ) :
    decodeFrom p (b :: bs) = (step p b).1 ++ decodeFrom (step p b).2 bs := by
  cases p <;> rfl

lemma next_more {value more low high x : ℕ} (hlow : low ≤ 0x80 + x) (hhigh : 0x80 + x ≤ high) :
    next ⟨value, more + 1, low, high⟩ (0x80 + x) =
      ([], some ⟨value * 64 + x, more, 0x80, 0xBF⟩) := by
  rw [next, if_pos ⟨hlow, hhigh⟩]
  simp

lemma next_last {value low high x : ℕ} (hlow : low ≤ 0x80 + x) (hhigh : 0x80 + x ≤ high) :
    next ⟨value, 0, low, high⟩ (0x80 + x) = ([value * 64 + x], none) := by
  rw [next, if_pos ⟨hlow, hhigh⟩]
  simp

/-! ### What is encoded is decoded -/

section

variable {c : ℕ}

lemma decodeFrom_one (h : c < 0x80) (bs : List ℕ) :
    decodeFrom none ([c] ++ bs) = c :: decodeFrom none bs := by
  rw [List.cons_append, decodeFrom_cons, step, first, if_pos h]
  rfl

lemma decodeFrom_two (hlow : 0x80 ≤ c) (hhigh : c < 0x800) (bs : List ℕ) :
    decodeFrom none ([0xC0 + c / 64, 0x80 + c % 64] ++ bs) = c :: decodeFrom none bs := by
  have hfirst : first (0xC0 + c / 64) = ([], some ⟨c / 64, 0, 0x80, 0xBF⟩) := by
    rw [first, if_neg (by omega), if_neg (by omega), if_pos (by omega), Nat.add_sub_cancel_left]
  have hvalue : c / 64 * 64 + c % 64 = c := by omega
  simp only [List.cons_append, List.nil_append]
  rw [decodeFrom_cons, step, hfirst, decodeFrom_cons, step, next_last (by omega) (by omega), hvalue]
  rfl

lemma decodeFrom_three (hlow : 0x800 ≤ c) (hhigh : c < 0x10000) (hscalar : IsScalar c)
    (bs : List ℕ) :
    decodeFrom none ([0xE0 + c / 4096, 0x80 + c / 64 % 64, 0x80 + c % 64] ++ bs) =
      c :: decodeFrom none bs := by
  have hfirst : first (0xE0 + c / 4096) = ([], some ⟨c / 4096, 1,
      if 0xE0 + c / 4096 = 0xE0 then 0xA0 else 0x80,
      if 0xE0 + c / 4096 = 0xED then 0x9F else 0xBF⟩) := by
    rw [first, if_neg (by omega), if_neg (by omega), if_neg (by omega), if_pos (by omega),
      Nat.add_sub_cancel_left]
  have hbits : c / 4096 * 64 + c / 64 % 64 = c / 64 := by omega
  have hvalue : c / 64 * 64 + c % 64 = c := by omega
  simp only [List.cons_append, List.nil_append]
  rw [decodeFrom_cons, step, hfirst, decodeFrom_cons, step, next_more, hbits, decodeFrom_cons, step,
    next_last (by omega) (by omega), hvalue]
  · rfl
  -- the ranges of the second octet leave out what is too long and what is a surrogate
  · split <;> omega
  · unfold IsScalar at hscalar
    split <;> omega

lemma decodeFrom_four (hlow : 0x10000 ≤ c) (hhigh : c < 0x110000) (bs : List ℕ) :
    decodeFrom none ([0xF0 + c / 262144, 0x80 + c / 4096 % 64, 0x80 + c / 64 % 64, 0x80 + c % 64] ++
      bs) = c :: decodeFrom none bs := by
  have hfirst : first (0xF0 + c / 262144) = ([], some ⟨c / 262144, 2,
      if 0xF0 + c / 262144 = 0xF0 then 0x90 else 0x80,
      if 0xF0 + c / 262144 = 0xF4 then 0x8F else 0xBF⟩) := by
    rw [first, if_neg (by omega), if_neg (by omega), if_neg (by omega), if_neg (by omega),
      if_pos (by omega), Nat.add_sub_cancel_left]
  have hbits : c / 262144 * 64 + c / 4096 % 64 = c / 4096 := by omega
  have hmore : c / 4096 * 64 + c / 64 % 64 = c / 64 := by omega
  have hvalue : c / 64 * 64 + c % 64 = c := by omega
  simp only [List.cons_append, List.nil_append]
  rw [decodeFrom_cons, step, hfirst, decodeFrom_cons, step, next_more, hbits, decodeFrom_cons, step,
    next_more (by omega) (by omega), hmore, decodeFrom_cons, step,
    next_last (by omega) (by omega), hvalue]
  · rfl
  · split <;> omega
  · split <;> omega

lemma decodeFrom_encodeChar (h : IsScalar c) (bs : List ℕ) :
    decodeFrom none (encodeChar c ++ bs) = c :: decodeFrom none bs := by
  unfold encodeChar
  split
  · exact decodeFrom_one ‹_› bs
  split
  · exact decodeFrom_two (by omega) ‹_› bs
  split
  · exact decodeFrom_three (by omega) ‹_› h bs
  · have hlast : c < 0x110000 := by
      unfold IsScalar at h
      omega
    exact decodeFrom_four (by omega) hlast bs

/-- The octets of a character are below 256. -/
lemma encodeChar_lt (h : IsScalar c) : ∀ b ∈ encodeChar c, b < 256 := by
  unfold IsScalar at h
  intro b hb
  unfold encodeChar at hb
  split at hb
  · simp at hb
    omega
  split at hb
  · simp at hb
    omega
  split at hb
  · simp at hb
    omega
  · simp at hb
    omega

end

variable {s : Str} {bs : List ℕ}

theorem decode_encode (h : encode s = some bs) : decode bs = s := by
  unfold encode at h
  split at h
  case isFalse => cases h
  case isTrue hscalar =>
    cases h
    unfold decode
    induction s with
    | nil => rfl
    | cons c s ih =>
      rw [List.flatMap_cons, decodeFrom_encodeChar (hscalar c List.mem_cons_self),
        ih fun c' hc => hscalar c' (List.mem_cons_of_mem _ hc)]

lemma encode_lt (h : encode s = some bs) : ∀ b ∈ bs, b < 256 := by
  unfold encode at h
  split at h
  case isFalse => cases h
  case isTrue hscalar =>
    cases h
    intro b hb
    obtain ⟨c, hc, hmem⟩ := List.mem_flatMap.mp hb
    exact encodeChar_lt (hscalar c hc) b hmem

end HermesRealtime.Utf8

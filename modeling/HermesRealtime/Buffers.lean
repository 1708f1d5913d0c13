import Mathlib.Data.Nat.Digits.Defs

/-!
A block of memory that is filled field by field: what one store leaves to be loaded, and the number
that little-endian bytes are the digits of.
-/

namespace HermesRealtime.Buffers

variable {α : Type*} {n k l : ℕ}

/-- The block with the values at the offset; a store past the end does not exist. -/
def store (block : Vector α n) (offset : ℕ) (xs : Vector α k)
    (_h : offset + k ≤ n) : Vector α n :=
  .ofFn fun i => if h : offset ≤ i ∧ i < offset + k then xs[i - offset] else block[i]

def load (block : Vector α n) (offset k : ℕ) (h : offset + k ≤ n) : Vector α k :=
  .ofFn fun i => block[offset + i]

@[simp] lemma load_store (block : Vector α n) (offset : ℕ) (xs : Vector α k) (h : offset + k ≤ n) :
    load (store block offset xs h) offset k h = xs := by
  ext i hi
  simp [load, store]

/-- A field is not touched by a store beside it. -/
lemma load_store_of_disjoint (block : Vector α n) {offset offset' : ℕ} (xs : Vector α k)
    (h : offset + k ≤ n) (h' : offset' + l ≤ n)
    (hdisjoint : offset' + l ≤ offset ∨ offset + k ≤ offset') :
    load (store block offset xs h) offset' l h' = load block offset' l h' := by
  ext i hi
  have hout : ¬ (offset ≤ offset' + i ∧ offset' + i < offset + k) := by omega
  simp [load, store, hout]

/-- The number whose digits the bytes are, the lowest first. -/
def littleEndian (bytes : Vector UInt8 k) : ℕ := Nat.ofDigits 256 (bytes.toList.map UInt8.toNat)

end HermesRealtime.Buffers

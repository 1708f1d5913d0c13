import HermesRealtime.Rounding
import HermesRealtime.Values
import Mathlib.Data.Rat.Defs
import Mathlib.Logic.Function.Basic

/-!
The store of single-use launch tokens. A token is bound to a session, expires after a fixed
time, and only the token of the newest generation is valid.

The times are floats, taken as the rationals they are. They are compared exactly, but the time at
which a token expires is a sum that has been rounded.
-/

namespace HermesRealtime.Tokens

/-- `x + y` of two floats. The exact sum is a whole number of units of `1 / den`, and 53 bits of it
are kept. A sum that is out of range exceeds every float here, as infinity does. -/
def floatSum (x y : ℚ) : ℚ :=
  let sum := x + y
  mkRat (sum.num.sign * (Binary64.rounded sum.num.natAbs : ℤ)) sum.den

/-- `1010.07 + 15.0` is `1025.0700000000002`, and more than the exact sum. -/
example : floatSum (8884669678941635 / 2 ^ 43) 15 = 2254152768568689 / 2 ^ 41 ∧
    (8884669678941635 / 2 ^ 43 + 15 : ℚ) < 2254152768568689 / 2 ^ 41 := by decide +kernel

structure TokenRecord where
  localSessionId : String
  expiresAt : ℚ
  generation : ℕ
  consumed : Bool := false
  deriving DecidableEq

structure LaunchTokenStore where
  tokenTtlSeconds : ℚ := 15
  records : String → Option TokenRecord := fun _ => none
  generation : ℕ := 0

namespace LaunchTokenStore

/-- `issue`, `token` being what the token factory made and `now` what the clock read. -/
def issue (s : LaunchTokenStore) (localSessionId token : String) (now : ℚ) :
    LaunchTokenStore :=
  { s with
    generation := s.generation + 1
    records := Function.update s.records token
      (some ⟨localSessionId, floatSum now s.tokenTtlSeconds, s.generation + 1, false⟩) }

def validate (s : LaunchTokenStore) (token : String) (now : ℚ) : Option String :=
  match s.records token with
  | none => none
  | some record =>
    if record.generation ≠ s.generation then none
    else if record.consumed then none
    else if now > record.expiresAt then none
    else some record.localSessionId

/-- Marks the record of a token as used, if there is one. -/
def markConsumed (s : LaunchTokenStore) (token : String) : LaunchTokenStore :=
  match s.records token with
  | none => s
  | some record =>
    { s with records := Function.update s.records token (some { record with consumed := true }) }

def consume (s : LaunchTokenStore) (token : String) (now : ℚ) :
    LaunchTokenStore × Option String :=
  match s.validate token now with
  | none => (s, none)
  | some localSessionId => (s.markConsumed token, some localSessionId)

def invalidate (s : LaunchTokenStore) (token : String) : LaunchTokenStore := s.markConsumed token

lemma markConsumed_of_ne (s : LaunchTokenStore) {token other : String} (h : other ≠ token) :
    (s.markConsumed token).records other = s.records other := by
  unfold markConsumed
  split
  · rfl
  · simp [Function.update_of_ne h]

lemma markConsumed_generation (s : LaunchTokenStore) (token : String) :
    (s.markConsumed token).generation = s.generation := by
  unfold markConsumed
  split <;> rfl

lemma consume_of_ne (s : LaunchTokenStore) {token other : String} (now : ℚ) (h : other ≠ token) :
    (s.consume token now).1.records other = s.records other := by
  unfold consume
  split
  · rfl
  · exact s.markConsumed_of_ne h

lemma consume_generation (s : LaunchTokenStore) (token : String) (now : ℚ) :
    (s.consume token now).1.generation = s.generation := by
  unfold consume
  split
  · rfl
  · exact s.markConsumed_generation token

end LaunchTokenStore

end HermesRealtime.Tokens

import HermesRealtime.Binary64

/-!
The Python values the runtime passes around: exceptions, JSON, and the readings of the two
clocks a trace event is stamped with.
-/

namespace HermesRealtime.Values

/-- The exceptions that leave a function of the runtime. -/
inductive PyError
  | staleControlMessage (text : String)
  | sessionTransitionError (text : String)
  | validationError (text : String)
  | executionContractError (text : String)
  | valueError (text : String)
  | typeError (text : String)
  | keyError (key : String)
  | indexError
  | overflowError
  | runtimeError (text : String)
  | osError
  | otherError (text : String)
  deriving DecidableEq

/-- `isinstance(error, ValueError)`. -/
def PyError.isValueError : PyError → Bool
  | .staleControlMessage _ => true
  | .sessionTransitionError _ => true
  | .validationError _ => true
  | .executionContractError _ => true
  | .valueError _ => true
  | _ => false

def PyError.isTypeError : PyError → Bool
  | .typeError _ => true
  | _ => false

inductive PyFloat
  | finite (negative : Bool) (magnitude : Binary64)
  | inf (negative : Bool)
  | nan
  deriving DecidableEq

def PyFloat.isFinite : PyFloat → Bool
  | .finite _ _ => true
  | _ => false

inductive Json
  | null
  | bool (b : Bool)
  | int (z : ℤ)
  | float (x : PyFloat)
  | str (s : String)
  | arr (items : List Json)
  | obj (fields : List (String × Json))

abbrev JsonDict := List (String × Json)

def dictGet (d : JsonDict) (key : String) : Option Json :=
  (d.find? fun field => field.1 = key).map Prod.snd

/-- `time.monotonic_ns()` and the wall clock, read while an operation runs. -/
structure Clock where
  monotonicNs : ℤ
  wallTime : String
  deriving DecidableEq

/-- `text[:limit]`. -/
def truncate (limit : ℕ) (text : String) : String := String.ofList (text.toList.take limit)

end HermesRealtime.Values

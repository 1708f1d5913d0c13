import HermesRealtime.Values
import HermesRealtime.Utf16

/-!
JSON documents between the two programs, and what each of them reads in one.

A document is taken up to the spelling of its texts and numbers: a text is the code units its
characters and escapes stand for, so one half of a surrogate pair may stand in it alone; a number
without a fraction or an exponent is an integer, any other the double it rounds to. Neither
program writes a key of an object twice.
-/

namespace HermesRealtime.Documents

open Values Utf16

inductive Literal
  | int (z : ℤ)
  | decimal (x : PyFloat)
  deriving DecidableEq

inductive Document
  | null
  | bool (b : Bool)
  | number (n : Literal)
  | text (units : List UInt16)
  | array (items : List Document)
  | object (fields : List (List UInt16 × Document))

/-! ### Python -/

def readText (units : List UInt16) : Option String := (decode units).map String.ofList

mutual

/-- What the JSON reader makes of a document; it does not accept a lone surrogate. -/
def loads : Document → Option Json
  | .null => some .null
  | .bool b => some (.bool b)
  | .number (.int z) => some (.int z)
  | .number (.decimal x) => some (.float x)
  | .text units => (readText units).map .str
  | .array items => (loadsItems items).map .arr
  | .object fields => (loadsFields fields).map .obj

def loadsItems : List Document → Option (List Json)
  | [] => some []
  | item :: items => do
    let value ← loads item
    let values ← loadsItems items
    return value :: values

def loadsFields : List (List UInt16 × Document) → Option JsonDict
  | [] => some []
  | (key, item) :: fields => do
    let name ← readText key
    let value ← loads item
    let values ← loadsFields fields
    return (name, value) :: values

end

mutual

/-- `json.dumps`, and `model_dump_json` of a finite value. -/
def dumps : Json → Document
  | .null => .null
  | .bool b => .bool b
  | .int z => .number (.int z)
  | .float x => .number (.decimal x)
  | .str s => .text (ofString s)
  | .arr items => .array (dumpsItems items)
  | .obj fields => .object (dumpsFields fields)

def dumpsItems : List Json → List Document
  | [] => []
  | item :: items => dumps item :: dumpsItems items

def dumpsFields : JsonDict → List (List UInt16 × Document)
  | [] => []
  | (key, item) :: fields => (ofString key, dumps item) :: dumpsFields fields

end

@[simp] lemma readText_ofString (s : String) : readText (ofString s) = some s := by
  simp [readText, ofString]

lemma readText_eq_some_iff {units : List UInt16} {s : String} :
    readText units = some s ↔ units = ofString s := by
  refine ⟨fun h => ?_, fun h => h ▸ readText_ofString s⟩
  obtain ⟨text, htext, rfl⟩ := Option.map_eq_some_iff.mp h
  rw [decode_eq_some_iff.mp htext, ofString, String.toList_ofList]

mutual

/-- **What Python writes it reads back.** -/
theorem loads_dumps : ∀ j : Json, loads (dumps j) = some j
  | .null => rfl
  | .bool _ => rfl
  | .int _ => rfl
  | .float _ => rfl
  | .str s => by simp [dumps, loads]
  | .arr items => by simp [dumps, loads, loadsItems_dumpsItems items]
  | .obj fields => by simp [dumps, loads, loadsFields_dumpsFields fields]

lemma loadsItems_dumpsItems : ∀ items : List Json, loadsItems (dumpsItems items) = some items
  | [] => rfl
  | item :: items => by
    simp [dumpsItems, loadsItems, loads_dumps item, loadsItems_dumpsItems items]

lemma loadsFields_dumpsFields : ∀ fields : JsonDict,
    loadsFields (dumpsFields fields) = some fields
  | [] => rfl
  | (key, item) :: fields => by
    simp [dumpsFields, loadsFields, loads_dumps item, loadsFields_dumpsFields fields]

end

/-! ### JavaScript -/

inductive JsValue
  | undefined
  | null
  | bool (b : Bool)
  | number (x : PyFloat)
  | string (units : List UInt16)
  | array (items : List JsValue)
  | object (fields : List (List UInt16 × JsValue))

/-- The double a literal stands for; integers overflow to infinity. -/
def Literal.toDouble : Literal → PyFloat
  | .int z =>
    match Binary64.ofNat? z.natAbs with
    | some m => .finite (decide (z < 0)) m
    | none => .inf (decide (z < 0))
  | .decimal x => x

mutual

/-- `JSON.parse`. -/
def parse : Document → JsValue
  | .null => .null
  | .bool b => .bool b
  | .number n => .number n.toDouble
  | .text units => .string units
  | .array items => .array (parseItems items)
  | .object fields => .object (parseFields fields)

def parseItems : List Document → List JsValue
  | [] => []
  | item :: items => parse item :: parseItems items

def parseFields : List (List UInt16 × Document) → List (List UInt16 × JsValue)
  | [] => []
  | (key, item) :: fields => (key, parse item) :: parseFields fields

end

/-- How `JSON.stringify` writes finite numbers: they are read back as they were, except that the
sign of a zero is lost. -/
structure Spelling where
  write : Bool → Binary64 → Literal
  reads_back : ∀ negative m, ∃ m', (write negative m).toDouble =
    .finite (negative && m.mant ≠ 0) m' ∧ m'.scaled = m.scaled

mutual

/-- `JSON.stringify`; nothing is written for `undefined`. -/
def stringify (S : Spelling) : JsValue → Option Document
  | .undefined => none
  | .null => some .null
  | .bool b => some (.bool b)
  | .number (.finite negative m) => some (.number (S.write negative m))
  | .number _ => some .null
  | .string units => some (.text units)
  | .array items => some (.array (stringifyItems S items))
  | .object fields => some (.object (stringifyFields S fields))

def stringifyItems (S : Spelling) : List JsValue → List Document
  | [] => []
  | item :: items => (stringify S item).getD .null :: stringifyItems S items

def stringifyFields (S : Spelling) : List (List UInt16 × JsValue) → List (List UInt16 × Document)
  | [] => []
  | (key, item) :: fields =>
    match stringify S item with
    | some document => (key, document) :: stringifyFields S fields
    | none => stringifyFields S fields

end

namespace JsValue

/-- `value.key`; a value that is no object has none of the properties the page reads. -/
def get (value : JsValue) (key : String) : JsValue :=
  match value with
  | .object fields =>
      ((fields.find? fun field => field.1 = ofString key).map Prod.snd).getD .undefined
  | _ => .undefined

/-- An object the page writes out. -/
def ofFields (fields : List (String × JsValue)) : JsValue :=
  .object (fields.map fun field => (ofString field.1, field.2))

end JsValue

end HermesRealtime.Documents

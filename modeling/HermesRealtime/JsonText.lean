import HermesRealtime.Documents
import Mathlib.Data.List.TakeWhile
import Mathlib.Tactic.IntervalCases

/-!
The spelling of documents: how the JSON writer of the standard library spells a document with
nothing but printable ASCII, and what its reader makes of any text.
-/

namespace HermesRealtime.JsonText

open Values Documents Utf16

/-! ### Writing -/

def hexDigits (u : UInt16) : List Char :=
  [u.toNat / 4096, u.toNat / 256 % 16, u.toNat / 16 % 16, u.toNat % 16].map Nat.digitChar

/-- `ensure_ascii`: a character beyond the basic plane is the escapes of its two halves. -/
def writeUnit (u : UInt16) : List Char :=
  if u.toNat = 34 then ['\\', '"']
  else if u.toNat = 92 then ['\\', '\\']
  else if u.toNat = 10 then ['\\', 'n']
  else if u.toNat = 13 then ['\\', 'r']
  else if u.toNat = 9 then ['\\', 't']
  else if u.toNat = 8 then ['\\', 'b']
  else if u.toNat = 12 then ['\\', 'f']
  else if 32 ≤ u.toNat ∧ u.toNat < 127 then [Char.ofNat u.toNat]
  else '\\' :: 'u' :: hexDigits u

def writeText (units : List UInt16) : List Char := '"' :: units.flatMap writeUnit ++ ['"']

/-- An exponent: the letter, a sign and digits. -/
def IsExponent (text : List Char) : Prop :=
  ∃ sign ∈ [[], ['+'], ['-']], ∃ digits, digits ≠ [] ∧ (∀ c ∈ digits, c.isDigit = true) ∧
    text = 'e' :: sign ++ digits

/-- The text of a number that is no integer. -/
structure Numeral where
  negative : Bool
  whole : ℕ
  fraction : List Char
  exponent : List Char
  digits : ∀ c ∈ fraction, c.isDigit = true
  scaled : exponent = [] ∨ IsExponent exponent
  broken : fraction ≠ [] ∨ exponent ≠ []

def sign (negative : Bool) : List Char := if negative then ['-'] else []

def Numeral.text (n : Numeral) : List Char :=
  sign n.negative ++ Nat.toDigits 10 n.whole ++
    (if n.fraction = [] then [] else '.' :: n.fraction) ++ n.exponent

/-- How the floats are written, and what is made of a text that is no integer. What has been read
is written so that it is read again. -/
structure Numbers where
  spell : Bool → Binary64 → Numeral
  value : List Char → PyFloat
  reads_back : ∀ text negative m, value text = .finite negative m →
    value (spell negative m).text = .finite negative m

variable (N : Numbers)

def writeNumber : Literal → List Char
  | .int z => sign (z < 0) ++ Nat.toDigits 10 z.natAbs
  | .decimal (.finite negative m) => (N.spell negative m).text
  | .decimal .nan => "NaN".toList
  | .decimal (.inf negative) => sign negative ++ "Infinity".toList

/-- What stands after a comma and a colon: a blank, unless the separators are compact. -/
def gap (compact : Bool) : List Char := if compact then [] else [' ']

variable (compact : Bool)

mutual

/-- `json.dumps`. -/
def write : Document → List Char
  | .null => "null".toList
  | .bool true => "true".toList
  | .bool false => "false".toList
  | .number n => writeNumber N n
  | .text units => writeText units
  | .array items => '[' :: writeItems items ++ [']']
  | .object fields => '\x7b' :: writeFields fields ++ ['\x7d']

def writeItems : List Document → List Char
  | [] => []
  | [item] => write item
  | item :: items => write item ++ ',' :: gap compact ++ writeItems items

def writeFields : List (List UInt16 × Document) → List Char
  | [] => []
  | [(key, item)] => writeText key ++ ':' :: gap compact ++ write item
  | (key, item) :: fields =>
    writeText key ++ ':' :: gap compact ++ write item ++ ',' :: gap compact ++ writeFields fields

end

/-! ### Reading -/

def isBlank (c : Char) : Bool := c == ' ' || c == '\t' || c == '\n' || c == '\r'

def skip (text : List Char) : List Char := text.dropWhile isBlank

def hexValue (c : Char) : Option ℕ :=
  if c.isDigit then some (c.toNat - 48)
  else if 97 ≤ c.toNat ∧ c.toNat ≤ 102 then some (c.toNat - 87)
  else if 65 ≤ c.toNat ∧ c.toNat ≤ 70 then some (c.toNat - 55)
  else none

/-- The four digits of an escape. -/
def hexUnit (a b c d : Char) : Option UInt16 := do
  let a ← hexValue a
  let b ← hexValue b
  let c ← hexValue c
  let d ← hexValue d
  return UInt16.ofNat (4096 * a + 256 * b + 16 * c + d)

def shortEscape : Char → Option UInt16
  | '"' => some 34
  | '\\' => some 92
  | '/' => some 47
  | 'b' => some 8
  | 'f' => some 12
  | 'n' => some 10
  | 'r' => some 13
  | 't' => some 9
  | _ => none

/-- A text after its first quotation mark. -/
def readUnits : List Char → Option (List UInt16 × List Char)
  | [] => none
  | '"' :: rest => some ([], rest)
  | '\\' :: 'u' :: a :: b :: c :: d :: rest => do
    let unit ← hexUnit a b c d
    let (units, rest) ← readUnits rest
    return (unit :: units, rest)
  | '\\' :: c :: rest => do
    let unit ← shortEscape c
    let (units, rest) ← readUnits rest
    return (unit :: units, rest)
  | c :: rest =>
    if c.toNat < 32 ∨ c = '\\' then none
    else do
      let (units, rest) ← readUnits rest
      return (encodeChar c ++ units, rest)

/-- The part of a number before the point; no digit follows a leading zero. -/
def readWhole : List Char → Option (List Char × List Char)
  | '0' :: rest => some (['0'], rest)
  | text =>
    let digits := text.takeWhile (·.isDigit)
    if digits = [] then none else some (digits, text.dropWhile (·.isDigit))

def readFraction : List Char → List Char × List Char
  | '.' :: rest =>
    let digits := rest.takeWhile (·.isDigit)
    if digits = [] then ([], '.' :: rest) else ('.' :: digits, rest.dropWhile (·.isDigit))
  | text => ([], text)

def takeSign : List Char → List Char × List Char
  | '+' :: rest => (['+'], rest)
  | '-' :: rest => (['-'], rest)
  | text => ([], text)

def readExponent : List Char → List Char × List Char
  | [] => ([], [])
  | e :: rest =>
    let digits := (takeSign rest).2.takeWhile (·.isDigit)
    if (e = 'e' ∨ e = 'E') ∧ digits ≠ [] then
      (e :: (takeSign rest).1 ++ digits, (takeSign rest).2.dropWhile (·.isDigit))
    else ([], e :: rest)

def takeMinus : List Char → Bool × List Char
  | '-' :: rest => (true, rest)
  | text => (false, text)

def readNumber (text : List Char) : Option (Literal × List Char) := do
  let (negative, afterSign) := takeMinus text
  let (whole, afterWhole) ← readWhole afterSign
  let (fraction, afterFraction) := readFraction afterWhole
  let (exponent, rest) := readExponent afterFraction
  if fraction = [] ∧ exponent = [] then
    let n : ℤ := Nat.ofDigitChars 10 whole 0
    return (.int (if negative then -n else n), rest)
  else return (.decimal (N.value (sign negative ++ whole ++ fraction ++ exponent)), rest)

/-- The last value of a key counts. -/
def setField (fields : List (List UInt16 × Document)) (key : List UInt16) (item : Document) :
    List (List UInt16 × Document) :=
  if key ∈ fields.map Prod.fst then
    fields.map fun field => if field.1 = key then (key, item) else field
  else fields ++ [(key, item)]

def setFields (fields : List (List UInt16 × Document)) : List (List UInt16 × Document) :=
  fields.foldl (fun found field => setField found field.1 field.2) []

mutual

/-- The reader of values; the first argument bounds how often it calls itself. -/
def readValue : ℕ → List Char → Option (Document × List Char)
  | 0, _ => none
  | fuel + 1, text =>
    match text with
    | '"' :: rest => do
      let (units, rest) ← readUnits rest
      return (.text units, rest)
    | '\x7b' :: rest =>
      match skip rest with
      | '\x7d' :: rest => some (.object [], rest)
      | rest => do
        let (fields, rest) ← readFields fuel rest
        return (.object (setFields fields), rest)
    | '[' :: rest =>
      match skip rest with
      | ']' :: rest => some (.array [], rest)
      | rest => do
        let (items, rest) ← readItems fuel rest
        return (.array items, rest)
    | 'n' :: 'u' :: 'l' :: 'l' :: rest => some (.null, rest)
    | 't' :: 'r' :: 'u' :: 'e' :: rest => some (.bool true, rest)
    | 'f' :: 'a' :: 'l' :: 's' :: 'e' :: rest => some (.bool false, rest)
    | 'N' :: 'a' :: 'N' :: rest => some (.number (.decimal .nan), rest)
    | 'I' :: 'n' :: 'f' :: 'i' :: 'n' :: 'i' :: 't' :: 'y' :: rest =>
      some (.number (.decimal (.inf false)), rest)
    | '-' :: 'I' :: 'n' :: 'f' :: 'i' :: 'n' :: 'i' :: 't' :: 'y' :: rest =>
      some (.number (.decimal (.inf true)), rest)
    | text => do
      let (n, rest) ← readNumber N text
      return (.number n, rest)

def readItems : ℕ → List Char → Option (List Document × List Char)
  | 0, _ => none
  | fuel + 1, text => do
    let (item, rest) ← readValue fuel text
    match skip rest with
    | ']' :: rest => return ([item], rest)
    | ',' :: rest =>
      let (items, rest) ← readItems fuel (skip rest)
      return (item :: items, rest)
    | _ => none

def readFields : ℕ → List Char → Option (List (List UInt16 × Document) × List Char)
  | 0, _ => none
  | fuel + 1, text =>
    match text with
    | '"' :: rest => do
      let (key, rest) ← readUnits rest
      match skip rest with
      | ':' :: rest =>
        let (item, rest) ← readValue fuel (skip rest)
        match skip rest with
        | '\x7d' :: rest => return ([(key, item)], rest)
        | ',' :: rest =>
          let (fields, rest) ← readFields fuel (skip rest)
          return ((key, item) :: fields, rest)
        | _ => none
      | _ => none
    | _ => none

end

/-- `JSONDecoder.raw_decode` of a text without leading blanks. -/
def rawDecode (text : List Char) : Option (Document × List Char) :=
  readValue N (text.length + 2) text

/-- The document of a whole text; only blanks may stand around it. -/
def read (text : List Char) : Option Document :=
  match rawDecode N (skip text) with
  | some (d, rest) => if skip rest = [] then some d else none
  | none => none

/-! ### Texts -/

lemma hexValue_digitChar {n : ℕ} (h : n < 16) : hexValue (Nat.digitChar n) = some n := by
  interval_cases n <;> decide

lemma hexUnit_hexDigits (u : UInt16) (a b c d : Char) (h : hexDigits u = [a, b, c, d]) :
    hexUnit a b c d = some u := by
  have hlt := u.toNat_lt
  simp only [hexDigits, List.map_cons, List.map_nil, List.cons.injEq, and_true] at h
  obtain ⟨rfl, rfl, rfl, rfl⟩ := h
  have hsum : 4096 * (u.toNat / 4096) + 256 * (u.toNat / 256 % 16) + 16 * (u.toNat / 16 % 16) +
      u.toNat % 16 = u.toNat := by omega
  rw [hexUnit, hexValue_digitChar (show u.toNat / 4096 < 16 by omega),
    hexValue_digitChar (show u.toNat / 256 % 16 < 16 by omega),
    hexValue_digitChar (show u.toNat / 16 % 16 < 16 by omega),
    hexValue_digitChar (show u.toNat % 16 < 16 by omega)]
  show some (UInt16.ofNat _) = some u
  rw [hsum, UInt16.ofNat_toNat]

lemma readUnits_plain {c : Char} (hquote : c ≠ '"') (hslash : c ≠ '\\') (hlow : ¬ c.toNat < 32)
    (rest : List Char) : readUnits (c :: rest) =
      (readUnits rest).map fun p => (encodeChar c ++ p.1, p.2) := by
  rw [readUnits.eq_def]
  split
  · simp_all
  · simp_all
  · simp_all
  · simp_all
  · rename_i heq
    obtain ⟨rfl, rfl⟩ := List.cons.inj heq
    rw [if_neg (by simp [hlow, hslash])]
    cases readUnits rest <;> rfl

lemma readUnits_short {c : Char} {u : UInt16} (h : shortEscape c = some u) (hu : c ≠ 'u')
    (rest : List Char) : readUnits ('\\' :: c :: rest) =
      (readUnits rest).map fun p => (u :: p.1, p.2) := by
  rw [readUnits.eq_def]
  split
  · simp_all
  · simp_all
  · simp_all
  · rename_i heq
    obtain ⟨rfl, rfl⟩ := List.cons.inj (List.cons.inj heq).2
    rw [h]
    cases readUnits rest <;> rfl
  · rename_i hnone heq
    obtain ⟨rfl, rfl⟩ := List.cons.inj heq
    exact absurd rfl (hnone c rest rfl)

/-- Whatever a unit is written as, it is read back. -/
lemma readUnits_writeUnit (u : UInt16) (rest : List Char) : readUnits (writeUnit u ++ rest) =
    (readUnits rest).map fun p => (u :: p.1, p.2) := by
  have hof {n : ℕ} (h : u.toNat = n) : u = UInt16.ofNat n := by rw [← h, UInt16.ofNat_toNat]
  unfold writeUnit
  split_ifs with h1 h2 h3 h4 h5 h6 h7 h8
  · exact readUnits_short (by rw [hof h1]; rfl) (by decide) rest
  · exact readUnits_short (by rw [hof h2]; rfl) (by decide) rest
  · exact readUnits_short (by rw [hof h3]; rfl) (by decide) rest
  · exact readUnits_short (by rw [hof h4]; rfl) (by decide) rest
  · exact readUnits_short (by rw [hof h5]; rfl) (by decide) rest
  · exact readUnits_short (by rw [hof h6]; rfl) (by decide) rest
  · exact readUnits_short (by rw [hof h7]; rfl) (by decide) rest
  · have hchar : (Char.ofNat u.toNat).toNat = u.toNat := ofNat_toNat (by omega)
    have hne {d : Char} (h : u.toNat ≠ d.toNat) : Char.ofNat u.toNat ≠ d := by
      rintro rfl
      exact h hchar.symm
    rw [List.singleton_append, readUnits_plain (hne h1) (hne h2) (by omega)]
    have hunit : encodeChar (Char.ofNat u.toNat) = [u] := by
      rw [encodeChar, if_pos (by omega), hchar, UInt16.ofNat_toNat]
    rw [hunit]
    rfl
  · have hunit := hexUnit_hexDigits u _ _ _ _ rfl
    show readUnits ('\\' :: 'u' :: _ :: _ :: _ :: _ :: rest) = _
    rw [readUnits, hunit]
    cases readUnits rest <;> rfl

lemma readUnits_writeText (units : List UInt16) (rest : List Char) :
    readUnits (units.flatMap writeUnit ++ '"' :: rest) = some (units, rest) := by
  induction units with
  | nil => rfl
  | cons u units ih => rw [List.flatMap_cons, List.append_assoc, readUnits_writeUnit, ih]; rfl

/-! ### Numbers -/

/-- The text does not begin with a digit. -/
def NoDigit (text : List Char) : Prop := ∀ c ∈ text.head?, c.isDigit = false

/-- A number ends where the text begins. -/
def Delimited (text : List Char) : Prop :=
  ∀ c ∈ text.head?, c.isDigit = false ∧ c ≠ '.' ∧ c ≠ 'e' ∧ c ≠ 'E'

lemma Delimited.noDigit {text : List Char} (h : Delimited text) : NoDigit text :=
  fun c hc => (h c hc).1

lemma takeWhile_digits {digits rest : List Char} (h : ∀ c ∈ digits, c.isDigit = true)
    (hrest : NoDigit rest) : (digits ++ rest).takeWhile (·.isDigit) = digits := by
  rw [List.takeWhile_append_of_pos h]
  cases rest with
  | nil => simp
  | cons c rest => simp [hrest c rfl]

lemma dropWhile_digits {digits rest : List Char} (h : ∀ c ∈ digits, c.isDigit = true)
    (hrest : NoDigit rest) : (digits ++ rest).dropWhile (·.isDigit) = rest := by
  rw [List.dropWhile_append_of_pos h]
  cases rest with
  | nil => rfl
  | cons c rest => simp [hrest c rfl]

lemma isDigit_toDigits {n : ℕ} {c : Char} (h : c ∈ Nat.toDigits 10 n) : c.isDigit = true :=
  Nat.isDigit_of_mem_toDigits (by decide) (by decide) h

lemma toDigits_head {n : ℕ} (h : 0 < n) : ∃ c rest, Nat.toDigits 10 n = c :: rest ∧ c ≠ '0' := by
  induction n using Nat.strongRecOn with
  | _ n ih =>
    rw [Nat.toDigits_eq_if (by decide)]
    split
    · refine ⟨_, _, rfl, ?_⟩
      interval_cases n <;> decide
    · obtain ⟨c, rest, hdigits, hc⟩ := ih (n / 10) (by omega) (by omega)
      exact ⟨c, rest ++ [_], by rw [hdigits]; rfl, hc⟩

lemma readWhole_of_ne {c : Char} (hc : c ≠ '0') (text : List Char) : readWhole (c :: text) =
    if (c :: text).takeWhile (·.isDigit) = [] then none
    else some ((c :: text).takeWhile (·.isDigit), (c :: text).dropWhile (·.isDigit)) := by
  rw [readWhole.eq_def]
  split
  · rename_i heq
    exact absurd (List.cons.inj heq).1 hc
  · rfl

lemma readWhole_toDigits (n : ℕ) {rest : List Char} (hrest : NoDigit rest) :
    readWhole (Nat.toDigits 10 n ++ rest) = some (Nat.toDigits 10 n, rest) := by
  have htake := takeWhile_digits (fun c => isDigit_toDigits (n := n) (c := c)) hrest
  have hdrop := dropWhile_digits (fun c => isDigit_toDigits (n := n) (c := c)) hrest
  rcases Nat.eq_zero_or_pos n with rfl | hpos
  · rfl
  obtain ⟨c, digits, hdigits, hc⟩ := toDigits_head hpos
  rw [hdigits] at htake hdrop ⊢
  rw [List.cons_append] at htake hdrop ⊢
  rw [readWhole_of_ne hc, htake, hdrop, if_neg (by simp)]

lemma readFraction_none {text : List Char} (h : ∀ c ∈ text.head?, c ≠ '.') :
    readFraction text = ([], text) := by
  rw [readFraction.eq_def]
  split
  · exact absurd rfl (h '.' rfl)
  · rfl

lemma readFraction_some {digits rest : List Char} (h : ∀ c ∈ digits, c.isDigit = true)
    (hne : digits ≠ []) (hrest : NoDigit rest) :
    readFraction ('.' :: digits ++ rest) = ('.' :: digits, rest) := by
  rw [List.cons_append, readFraction, takeWhile_digits h hrest, dropWhile_digits h hrest]
  simp [hne]

lemma readExponent_none {text : List Char} (h : ∀ c ∈ text.head?, c ≠ 'e' ∧ c ≠ 'E') :
    readExponent text = ([], text) := by
  cases text with
  | nil => rfl
  | cons c rest =>
    have hc := h c rfl
    simp [readExponent, hc.1, hc.2]

lemma takeSign_digits {digits rest : List Char} (h : ∀ c ∈ digits, c.isDigit = true)
    (hne : digits ≠ []) : takeSign (digits ++ rest) = ([], digits ++ rest) := by
  cases digits with
  | nil => exact absurd rfl hne
  | cons c digits =>
    have hdigit := h c List.mem_cons_self
    rw [takeSign.eq_def]
    split
    · rename_i heq
      obtain ⟨rfl, -⟩ := List.cons.inj heq
      simp at hdigit
    · rename_i heq
      obtain ⟨rfl, -⟩ := List.cons.inj heq
      simp at hdigit
    · rfl

lemma readExponent_some {text rest : List Char} (h : IsExponent text) (hrest : NoDigit rest) :
    readExponent (text ++ rest) = (text, rest) := by
  obtain ⟨sign, hsign, digits, hne, hdigits, rfl⟩ := h
  have htake := takeWhile_digits hdigits hrest
  have hdrop := dropWhile_digits hdigits hrest
  have hsplit : takeSign (sign ++ (digits ++ rest)) = (sign, digits ++ rest) := by
    simp only [List.mem_cons, List.not_mem_nil, or_false] at hsign
    rcases hsign with rfl | rfl | rfl
    · rw [List.nil_append]
      exact takeSign_digits hdigits hne
    · rfl
    · rfl
  show readExponent ('e' :: (sign ++ digits ++ rest)) = _
  unfold readExponent
  simp only [List.append_assoc, hsplit, htake, hdrop]
  simp [hne]

lemma takeMinus_sign {negative : Bool} {text : List Char} (h : ∀ c ∈ text.head?, c ≠ '-') :
    takeMinus (sign negative ++ text) = (negative, text) := by
  cases negative with
  | true => rfl
  | false =>
    rw [sign, if_neg (by decide), List.nil_append, takeMinus.eq_def]
    split
    · exact absurd rfl (h '-' rfl)
    · rfl

/-- A text of digits begins with a digit. -/
lemma toDigits_head_digit (n : ℕ) (rest : List Char) :
    ∃ c text, Nat.toDigits 10 n ++ rest = c :: text ∧ c.isDigit = true := by
  rcases h : Nat.toDigits 10 n with _ | ⟨c, text⟩
  · exact absurd h Nat.toDigits_ne_nil
  · exact ⟨c, text ++ rest, rfl, isDigit_toDigits (n := n) (by simp [h])⟩

lemma readNumber_int (z : ℤ) {rest : List Char} (hrest : Delimited rest) :
    readNumber N (writeNumber N (.int z) ++ rest) = some (.int z, rest) := by
  have hminus : ∀ c ∈ (Nat.toDigits 10 z.natAbs ++ rest).head?, c ≠ '-' := by
    obtain ⟨c, text, htext, hdigit⟩ := toDigits_head_digit z.natAbs rest
    rw [htext]
    rintro d ⟨⟩ rfl
    simp at hdigit
  have hvalue : (if (decide (z < 0)) = true then -(z.natAbs : ℤ) else z.natAbs) = z := by
    by_cases h : z < 0
    · rw [if_pos (by simpa using h)]
      omega
    · rw [if_neg (by simpa using h)]
      omega
  rw [readNumber, writeNumber, List.append_assoc, takeMinus_sign hminus]
  dsimp only
  rw [readWhole_toDigits _ hrest.noDigit]
  show (if (readFraction rest).1 = [] ∧ _ then _ else _) = _
  rw [readFraction_none fun c hc => (hrest c hc).2.1,
    readExponent_none fun c hc => (hrest c hc).2.2, if_pos ⟨rfl, rfl⟩,
    Nat.ofDigitChars_ten_toDigits]
  simp only [hvalue]
  rfl

lemma readNumber_numeral (n : Numeral) {rest : List Char} (hrest : Delimited rest) :
    readNumber N (n.text ++ rest) = some (.decimal (N.value n.text), rest) := by
  have hminus (text : List Char) : ∀ c ∈ (Nat.toDigits 10 n.whole ++ text).head?, c ≠ '-' := by
    obtain ⟨c, tail, htext, hdigit⟩ := toDigits_head_digit n.whole text
    rw [htext]
    rintro d ⟨⟩ rfl
    simp at hdigit
  -- what the parts are delimited by
  have hexponent : readExponent (n.exponent ++ rest) = (n.exponent, rest) := by
    rcases n.scaled with h | h
    · rw [h, List.nil_append, readExponent_none fun c hc => (hrest c hc).2.2]
    · exact readExponent_some h hrest.noDigit
  have hafter : ∀ c ∈ (n.exponent ++ rest).head?, c.isDigit = false ∧ c ≠ '.' := by
    rcases n.scaled with h | ⟨sign, -, digits, -, -, h⟩
    · rw [h, List.nil_append]
      exact fun c hc => ⟨(hrest c hc).1, (hrest c hc).2.1⟩
    · rw [h]
      rintro c ⟨⟩
      decide
  set fraction := if n.fraction = [] then [] else '.' :: n.fraction with hfraction
  have hread : readFraction (fraction ++ (n.exponent ++ rest)) =
      (fraction, n.exponent ++ rest) := by
    by_cases h : n.fraction = []
    · rw [hfraction, if_pos h, List.nil_append, readFraction_none fun c hc => (hafter c hc).2]
    · rw [hfraction, if_neg h, readFraction_some n.digits h fun c hc => (hafter c hc).1]
  have hwhole : NoDigit (fraction ++ (n.exponent ++ rest)) := by
    by_cases h : n.fraction = []
    · rw [hfraction, if_pos h, List.nil_append]
      exact fun c hc => (hafter c hc).1
    · rw [hfraction, if_neg h]
      rintro c ⟨⟩
      decide
  have hbroken : ¬ (fraction = [] ∧ n.exponent = []) := by
    rintro ⟨hnone, hexp⟩
    rcases n.broken with h | h
    · rw [hfraction, if_neg h] at hnone
      cases hnone
    · exact h hexp
  have htext : n.text ++ rest = sign n.negative ++
      (Nat.toDigits 10 n.whole ++ (fraction ++ (n.exponent ++ rest))) := by
    simp [Numeral.text, hfraction]
  rw [readNumber, htext, takeMinus_sign (hminus _)]
  dsimp only
  rw [readWhole_toDigits _ hwhole]
  show (if (readFraction (fraction ++ (n.exponent ++ rest))).1 = [] ∧ _ then _ else _) = _
  rw [hread]
  dsimp only
  rw [hexponent, if_neg hbroken]
  rfl

/-! ### Documents -/

/-- The number is read as it is written. -/
def Kept : Literal → Prop
  | .decimal (.finite negative m) => N.value (N.spell negative m).text = .finite negative m
  | _ => True

lemma kept_value (text : List Char) : Kept N (.decimal (N.value text)) := by
  unfold Kept
  split
  · rename_i heq
    exact N.reads_back text _ _ (Literal.decimal.inj heq)
  · trivial

mutual

/-- No object has a key twice, and every number is read as it is written. -/
def Faithful : Document → Prop
  | .number n => Kept N n
  | .array items => FaithfulItems items
  | .object fields => (fields.map Prod.fst).Nodup ∧ FaithfulFields fields
  | _ => True

def FaithfulItems : List Document → Prop
  | [] => True
  | item :: items => Faithful item ∧ FaithfulItems items

def FaithfulFields : List (List UInt16 × Document) → Prop
  | [] => True
  | (_, item) :: fields => Faithful item ∧ FaithfulFields fields

end

lemma setFields_nodup {fields : List (List UInt16 × Document)}
    (h : (fields.map Prod.fst).Nodup) : setFields fields = fields := by
  have hfold (seen fields : List (List UInt16 × Document))
      (h : ((seen ++ fields).map Prod.fst).Nodup) :
      fields.foldl (fun found field => setField found field.1 field.2) seen = seen ++ fields := by
    induction fields generalizing seen with
    | nil => simp
    | cons field fields ih =>
      have hnew : field.1 ∉ seen.map Prod.fst := by
        rw [List.map_append, List.nodup_append] at h
        exact fun hmem => h.2.2 _ hmem _ List.mem_cons_self rfl
      rw [List.foldl_cons, setField, if_neg hnew, ih _ (by simpa using h)]
      simp
  exact (hfold [] fields h).trans (List.nil_append fields)

mutual

/-- How often the reader calls itself. -/
def size : Document → ℕ
  | .array items => 1 + sizeItems items
  | .object fields => 1 + sizeFields fields
  | _ => 1

def sizeItems : List Document → ℕ
  | [] => 0
  | item :: items => 1 + size item + sizeItems items

def sizeFields : List (List UInt16 × Document) → ℕ
  | [] => 0
  | (_, item) :: fields => 1 + size item + sizeFields fields

end

/-- How a value begins: with nothing that ends a list of values or is skipped. -/
def Opens (text : List Char) : Prop :=
  ∃ c rest, text = c :: rest ∧ isBlank c = false ∧ c ≠ ']' ∧ c ≠ '\x7d'

lemma Opens.append {text : List Char} (h : Opens text) (rest : List Char) :
    Opens (text ++ rest) := by
  obtain ⟨c, tail, rfl, hc⟩ := h
  exact ⟨c, tail ++ rest, rfl, hc⟩

lemma skip_cons {c : Char} (h : isBlank c = false) (rest : List Char) :
    skip (c :: rest) = c :: rest := by
  rw [skip, List.dropWhile_cons_of_neg (by simp [h])]

lemma skip_gap {text : List Char} (h : Opens text) : skip (gap compact ++ text) = text := by
  obtain ⟨c, rest, rfl, hblank, -⟩ := h
  have hstop : skip (c :: rest) = c :: rest := skip_cons hblank rest
  cases compact with
  | true => exact hstop
  | false =>
    show skip (' ' :: c :: rest) = c :: rest
    rw [skip, List.dropWhile_cons_of_pos (by decide)]
    exact hstop

lemma not_blank_digit {c : Char} (h : c.isDigit = true) :
    isBlank c = false ∧ c ≠ ']' ∧ c ≠ '\x7d' := by
  refine ⟨?_, ?_, ?_⟩
  · cases hc : isBlank c with
    | false => rfl
    | true =>
      simp only [isBlank, Bool.or_eq_true, beq_iff_eq] at hc
      rcases hc with ((rfl | rfl) | rfl) | rfl <;> simp at h
  · rintro rfl
    simp at h
  · rintro rfl
    simp at h

lemma opens_number {negative : Bool} {n : ℕ} (rest : List Char) :
    Opens (sign negative ++ (Nat.toDigits 10 n ++ rest)) := by
  cases negative with
  | true => exact ⟨'-', _, rfl, by decide, by decide, by decide⟩
  | false =>
    obtain ⟨c, text, htext, hdigit⟩ := toDigits_head_digit n rest
    exact ⟨c, text, htext, not_blank_digit hdigit⟩

lemma write_opens (d : Document) : Opens (write N compact d) := by
  have hlit (c : Char) (rest : List Char) (h : isBlank c = false ∧ c ≠ ']' ∧ c ≠ '\x7d') :
      Opens (c :: rest) := ⟨c, rest, rfl, h⟩
  cases d with
  | null => exact hlit _ _ (by decide)
  | bool b => cases b <;> exact hlit _ _ (by decide)
  | number n =>
    cases n with
    | int z => simpa [write, writeNumber] using opens_number (n := z.natAbs) []
    | decimal x =>
      cases x with
      | finite negative m =>
        rw [write, writeNumber, Numeral.text, List.append_assoc, List.append_assoc]
        exact opens_number _
      | inf negative => cases negative <;> exact hlit _ _ (by decide)
      | nan => exact hlit _ _ (by decide)
  | text units => exact hlit _ _ (by decide)
  | array items => exact hlit _ _ (by decide)
  | object fields => exact hlit _ _ (by decide)

/-- Only a number begins with a digit, after a minus sign if it has one. -/
lemma readValue_number (fuel : ℕ) {negative : Bool} {n : ℕ} (rest : List Char) :
    readValue N (fuel + 1) (sign negative ++ (Nat.toDigits 10 n ++ rest)) =
      (readNumber N (sign negative ++ (Nat.toDigits 10 n ++ rest))).map
        fun p => (.number p.1, p.2) := by
  obtain ⟨c, text, htext, hdigit⟩ := toDigits_head_digit n rest
  rw [htext]
  have hne (d : Char) (hd : d.isDigit = false) : c ≠ d := by
    rintro rfl
    rw [hd] at hdigit
    cases hdigit
  cases negative with
  | false =>
    show readValue N (fuel + 1) (c :: text) = (readNumber N (c :: text)).map _
    rw [readValue.eq_def]
    dsimp only
    split
    case h_10 => cases readNumber N (c :: text) <;> rfl
    all_goals
      rename_i heq
      exact absurd (List.cons.inj heq).1 (hne _ (by decide))
  | true =>
    show readValue N (fuel + 1) ('-' :: c :: text) = (readNumber N ('-' :: c :: text)).map _
    rw [readValue.eq_def]
    dsimp only
    split
    case h_10 => cases readNumber N ('-' :: c :: text) <;> rfl
    case h_9 heq => exact absurd (List.cons.inj (List.cons.inj heq).2).1 (hne _ (by decide))
    all_goals
      rename_i heq
      exact absurd (List.cons.inj heq).1 (by decide)

lemma readValue_writeNumber (fuel : ℕ) {l : Literal} (hl : Kept N l) {rest : List Char}
    (hrest : Delimited rest) :
    readValue N (fuel + 1) (writeNumber N l ++ rest) = some (.number l, rest) := by
  cases l with
  | int z =>
    have hnumber := readNumber_int N z hrest
    rw [writeNumber, List.append_assoc] at hnumber ⊢
    rw [readValue_number, hnumber]
    rfl
  | decimal x =>
    cases x with
    | finite negative m =>
      have hnumber := readNumber_numeral N (N.spell negative m) hrest
      have hkept : N.value (N.spell negative m).text = .finite negative m := hl
      rw [hkept] at hnumber
      rw [writeNumber]
      rw [Numeral.text, List.append_assoc, List.append_assoc, List.append_assoc] at hnumber ⊢
      rw [readValue_number, hnumber]
      rfl
    | inf negative => cases negative <;> rfl
    | nan => rfl

lemma readValue_array (fuel : ℕ) {text : List Char} (h : Opens text) :
    readValue N (fuel + 1) ('[' :: text) =
      (readItems N fuel text).map fun p => (.array p.1, p.2) := by
  obtain ⟨c, rest, rfl, hblank, hne, -⟩ := h
  rw [readValue]
  rw [skip_cons hblank]
  split
  · rename_i heq
    exact absurd (List.cons.inj heq).1 hne
  · cases readItems N fuel (c :: rest) <;> rfl

lemma readValue_object (fuel : ℕ) {text : List Char} (h : Opens text) :
    readValue N (fuel + 1) ('\x7b' :: text) =
      (readFields N fuel text).map fun p => (.object (setFields p.1), p.2) := by
  obtain ⟨c, rest, rfl, hblank, -, hne⟩ := h
  rw [readValue]
  rw [skip_cons hblank]
  split
  · rename_i heq
    exact absurd (List.cons.inj heq).1 hne
  · cases readFields N fuel (c :: rest) <;> rfl

lemma writeItems_opens (item : Document) (items : List Document) :
    Opens (writeItems N compact (item :: items)) := by
  cases items with
  | nil => exact write_opens N compact item
  | cons next items =>
    have htext : writeItems N compact (item :: next :: items) = write N compact item ++
        (',' :: gap compact ++ writeItems N compact (next :: items)) := by
      simp [writeItems]
    rw [htext]
    exact (write_opens N compact item).append _

lemma writeFields_opens (key : List UInt16) (item : Document)
    (fields : List (List UInt16 × Document)) :
    Opens (writeFields N compact ((key, item) :: fields)) := by
  cases fields <;> exact ⟨'"', _, rfl, by decide, by decide, by decide⟩

/-- A field that is followed by another one. -/
lemma readFields_next {fuel : ℕ} {key : List UInt16} {item : Document}
    {text body next : List Char} (hskip : skip text = body)
    (hitem : readValue N fuel body = some (item, ',' :: next)) :
    readFields N (fuel + 1) (writeText key ++ ':' :: text) =
      (readFields N fuel (skip next)).map fun p => ((key, item) :: p.1, p.2) := by
  have htext : writeText key ++ ':' :: text =
      '"' :: (key.flatMap writeUnit ++ '"' :: ':' :: text) := by
    simp [writeText]
  rw [htext, readFields, readUnits_writeText]
  show (do
    let (item, rest) ← readValue N fuel (skip text)
    match skip rest with
    | '\x7d' :: rest => pure ([(key, item)], rest)
    | ',' :: rest => do
      let (fields, rest) ← readFields N fuel (skip rest)
      pure ((key, item) :: fields, rest)
    | _ => none) = _
  rw [hskip, hitem]
  show (do
    let (fields, rest) ← readFields N fuel (skip next)
    pure ((key, item) :: fields, rest)) = _
  cases readFields N fuel (skip next) <;> rfl

/-- The last field. -/
lemma readFields_last {fuel : ℕ} {key : List UInt16} {item : Document}
    {text body rest : List Char} (hskip : skip text = body)
    (hitem : readValue N fuel body = some (item, '\x7d' :: rest)) :
    readFields N (fuel + 1) (writeText key ++ ':' :: text) = some ([(key, item)], rest) := by
  have htext : writeText key ++ ':' :: text =
      '"' :: (key.flatMap writeUnit ++ '"' :: ':' :: text) := by
    simp [writeText]
  rw [htext, readFields, readUnits_writeText]
  show (do
    let (item, rest) ← readValue N fuel (skip text)
    match skip rest with
    | '\x7d' :: rest => pure ([(key, item)], rest)
    | ',' :: rest => do
      let (fields, rest) ← readFields N fuel (skip rest)
      pure ((key, item) :: fields, rest)
    | _ => none) = _
  rw [hskip, hitem]
  rfl

/-! ### The round trip -/

lemma delimited_cons {c : Char} (h : c.isDigit = false ∧ c ≠ '.' ∧ c ≠ 'e' ∧ c ≠ 'E')
    (rest : List Char) : Delimited (c :: rest) := by
  rintro d ⟨⟩
  exact h

lemma readValue_writeText (fuel : ℕ) (units : List UInt16) (rest : List Char) :
    readValue N (fuel + 1) (writeText units ++ rest) = some (.text units, rest) := by
  have htext := readUnits_writeText units rest
  show (do
    let (units, rest) ← readUnits (units.flatMap writeUnit ++ ['"'] ++ rest)
    pure (Document.text units, rest)) = _
  rw [List.append_assoc, List.singleton_append, htext]
  rfl

mutual

theorem readValue_write : ∀ (d : Document) (fuel : ℕ) (rest : List Char), Faithful N d →
    size d ≤ fuel → Delimited rest →
      readValue N fuel (write N compact d ++ rest) = some (d, rest)
  | d, 0, _, _, h, _ => by
    cases d <;> simp [size] at h
  | .null, fuel + 1, _, _, _, _ => rfl
  | .bool true, fuel + 1, _, _, _, _ => rfl
  | .bool false, fuel + 1, _, _, _, _ => rfl
  | .number _, fuel + 1, rest, hkept, _, hrest => readValue_writeNumber N fuel hkept hrest
  | .text units, fuel + 1, rest, _, _, _ => readValue_writeText N fuel units rest
  | .array [], fuel + 1, _, _, _, _ => rfl
  | .array (item :: items), fuel + 1, rest, hkeys, hfuel, _ => by
    have hitems := readItems_write item items fuel rest hkeys (by simp [size] at hfuel ⊢; omega)
    have hopens := (writeItems_opens N compact item items).append (']' :: rest)
    show readValue N (fuel + 1) ('[' :: (writeItems N compact (item :: items) ++ [']'] ++ rest)) = _
    rw [List.append_assoc, List.singleton_append, readValue_array N fuel hopens, hitems]
    rfl
  | .object [], fuel + 1, _, _, _, _ => rfl
  | .object ((key, item) :: fields), fuel + 1, rest, hkeys, hfuel, _ => by
    have hfields := readFields_write key item fields fuel rest hkeys.2
      (by simp [size] at hfuel ⊢; omega)
    have hopens := (writeFields_opens N compact key item fields).append ('\x7d' :: rest)
    show readValue N (fuel + 1)
      ('\x7b' :: (writeFields N compact ((key, item) :: fields) ++ ['\x7d'] ++ rest)) = _
    rw [List.append_assoc, List.singleton_append, readValue_object N fuel hopens, hfields]
    rw [Option.map_some, setFields_nodup hkeys.1]

theorem readItems_write : ∀ (item : Document) (items : List Document) (fuel : ℕ)
    (rest : List Char), FaithfulItems N (item :: items) → sizeItems (item :: items) ≤ fuel →
      readItems N fuel (writeItems N compact (item :: items) ++ ']' :: rest) =
        some (item :: items, rest)
  | _, _, 0, _, _, h => by simp [sizeItems] at h
  | item, [], fuel + 1, rest, hkeys, hfuel => by
    have hitem := readValue_write item fuel (']' :: rest) hkeys.1
      (by simp [sizeItems] at hfuel; omega) (delimited_cons (by decide) rest)
    rw [writeItems, readItems, hitem]
    rfl
  | item, next :: items, fuel + 1, rest, hkeys, hfuel => by
    have hitem := readValue_write item fuel
      (',' :: (gap compact ++ (writeItems N compact (next :: items) ++ ']' :: rest))) hkeys.1
      (by simp [sizeItems] at hfuel; omega) (delimited_cons (by decide) _)
    have hitems := readItems_write next items fuel rest hkeys.2
      (by simp [sizeItems] at hfuel ⊢; omega)
    have hopens := (writeItems_opens N compact next items).append (']' :: rest)
    have htext : writeItems N compact (item :: next :: items) ++ ']' :: rest =
        write N compact item ++ (',' :: (gap compact ++
          (writeItems N compact (next :: items) ++ ']' :: rest))) := by
      simp [writeItems]
    rw [htext, readItems, hitem]
    show (do
      let (items, rest) ← readItems N fuel (skip (gap compact ++ _))
      pure (item :: items, rest)) = _
    rw [skip_gap compact hopens, hitems]
    rfl

theorem readFields_write : ∀ (key : List UInt16) (item : Document)
    (fields : List (List UInt16 × Document)) (fuel : ℕ) (rest : List Char),
    FaithfulFields N ((key, item) :: fields) → sizeFields ((key, item) :: fields) ≤ fuel →
      readFields N fuel (writeFields N compact ((key, item) :: fields) ++ '\x7d' :: rest) =
        some ((key, item) :: fields, rest)
  | _, _, _, 0, _, _, h => by simp [sizeFields] at h
  | key, item, [], fuel + 1, rest, hkeys, hfuel => by
    have hitem := readValue_write item fuel ('\x7d' :: rest) hkeys.1
      (by simp [sizeFields] at hfuel; omega) (delimited_cons (by decide) rest)
    have hopens := (write_opens N compact item).append ('\x7d' :: rest)
    have htext : writeFields N compact [(key, item)] ++ '\x7d' :: rest =
        writeText key ++ ':' :: (gap compact ++ (write N compact item ++ '\x7d' :: rest)) := by
      simp [writeFields]
    rw [htext, readFields_last N (skip_gap compact hopens) hitem]
  | key, item, next :: fields, fuel + 1, rest, hkeys, hfuel => by
    have hitem := readValue_write item fuel
      (',' :: (gap compact ++ (writeFields N compact (next :: fields) ++ '\x7d' :: rest))) hkeys.1
      (by simp [sizeFields] at hfuel; omega) (delimited_cons (by decide) _)
    have hfields := readFields_write next.1 next.2 fields fuel rest hkeys.2
      (by simp [sizeFields] at hfuel ⊢; omega)
    have hopens := (write_opens N compact item).append
      (',' :: (gap compact ++ (writeFields N compact (next :: fields) ++ '\x7d' :: rest)))
    have hopens' := (writeFields_opens N compact next.1 next.2 fields).append ('\x7d' :: rest)
    have htext : writeFields N compact ((key, item) :: next :: fields) ++ '\x7d' :: rest =
        writeText key ++ ':' :: (gap compact ++ (write N compact item ++
          ',' :: (gap compact ++ (writeFields N compact (next :: fields) ++ '\x7d' :: rest)))) := by
      simp [writeFields]
    rw [htext, readFields_next N (skip_gap compact hopens) hitem, skip_gap compact hopens', hfields]
    rfl

end

/-! ### The fuel is enough -/

lemma writeNumber_ne_nil (l : Literal) : 1 ≤ (writeNumber N l).length := by
  have hopens : Opens (writeNumber N l) := write_opens N true (.number l)
  obtain ⟨c, rest, htext, -⟩ := hopens
  simp [htext]

mutual

lemma size_le_length : ∀ d : Document, size d ≤ (write N compact d).length
  | .null => by simp [size, write]
  | .bool true => by simp [size, write]
  | .bool false => by simp [size, write]
  | .number n => writeNumber_ne_nil N n
  | .text units => by simp [size, write, writeText]
  | .array items => by
    have h := sizeItems_le_length items
    simp [size, write]
    omega
  | .object fields => by
    have h := sizeFields_le_length fields
    simp [size, write]
    omega

lemma sizeItems_le_length : ∀ items : List Document,
    sizeItems items ≤ (writeItems N compact items).length + 1
  | [] => by simp [sizeItems]
  | [item] => by
    have h := size_le_length item
    simp [sizeItems, writeItems]
    omega
  | item :: next :: items => by
    have h := size_le_length item
    have hrest := sizeItems_le_length (next :: items)
    rw [sizeItems]
    simp [writeItems]
    omega

lemma sizeFields_le_length : ∀ fields : List (List UInt16 × Document),
    sizeFields fields ≤ (writeFields N compact fields).length + 1
  | [] => by simp [sizeFields]
  | [(key, item)] => by
    have h := size_le_length item
    simp [sizeFields, writeFields]
    omega
  | (key, item) :: next :: fields => by
    have h := size_le_length item
    have hrest := sizeFields_le_length (next :: fields)
    rw [sizeFields]
    simp [writeFields]
    omega

end

/-- **A document is what is read in its text**, with blanks around it or none. -/
theorem read_write {d : Document} (h : Faithful N d) (before after : List Char)
    (hbefore : ∀ c ∈ before, isBlank c = true) (hafter : ∀ c ∈ after, isBlank c = true) :
    read N (before ++ write N compact d ++ after) = some d := by
  have hskip : skip (before ++ write N compact d ++ after) = write N compact d ++ after := by
    obtain ⟨c, rest, htext, hblank, -⟩ := write_opens N compact d
    rw [List.append_assoc, skip, List.dropWhile_append_of_pos hbefore, htext]
    exact skip_cons hblank _
  have hend : Delimited after := by
    intro c hc
    have hblank := hafter c (List.mem_of_mem_head? hc)
    simp only [isBlank, Bool.or_eq_true, beq_iff_eq] at hblank
    rcases hblank with ((rfl | rfl) | rfl) | rfl <;> decide
  have hsize : size d ≤ (write N compact d ++ after).length + 2 := by
    have hle := size_le_length N compact d
    rw [List.length_append]
    omega
  rw [read, hskip, rawDecode, readValue_write N compact d _ after h hsize hend]
  have hrest : skip after = [] := List.dropWhile_eq_nil_iff.mpr hafter
  simp [hrest]

/-! ### What is left of a text -/

lemma readUnits_suffix {text rest : List Char} {units : List UInt16}
    (h : readUnits text = some (units, rest)) : rest <:+ text := by
  fun_induction readUnits text generalizing units rest with
  | case1 => cases h
  | case2 tail => 
    obtain ⟨-, rfl⟩ := Prod.mk.inj (Option.some.inj h)
    exact List.suffix_cons _ _
  | case3 a b c d tail ih =>
    simp only [Option.bind_eq_bind, Option.bind_eq_some_iff, Prod.exists] at h
    obtain ⟨unit, -, units', rest', hread, heq⟩ := h
    obtain ⟨-, rfl⟩ := Prod.mk.inj (Option.some.inj heq)
    exact (ih hread).trans (List.suffix_append ['\\', 'u', a, b, c, d] tail)
  | case4 c tail h ih => 
    simp only [Option.bind_eq_bind, Option.bind_eq_some_iff, Prod.exists] at h
    obtain ⟨unit, -, units', rest', hread, heq⟩ := h
    obtain ⟨-, rfl⟩ := Prod.mk.inj (Option.some.inj heq)
    exact (ih hread).trans (List.suffix_append ['\\', c] tail)
  | case5 => cases h
  | case6 c tail _ _ _ _ ih =>
    simp only [Option.bind_eq_bind, Option.bind_eq_some_iff, Prod.exists] at h
    obtain ⟨units', rest', hread, heq⟩ := h
    obtain ⟨-, rfl⟩ := Prod.mk.inj (Option.some.inj heq)
    exact (ih hread).trans (List.suffix_cons _ _)
  
lemma readWhole_suffix {text whole rest : List Char} (h : readWhole text = some (whole, rest)) :
    rest <:+ text := by
  unfold readWhole at h
  split at h
  · obtain ⟨-, rfl⟩ := Prod.mk.inj (Option.some.inj h)
    exact List.suffix_cons _ _
  · dsimp only at h
    split at h
    · cases h
    · obtain ⟨-, rfl⟩ := Prod.mk.inj (Option.some.inj h)
      exact List.dropWhile_suffix _

lemma readFraction_suffix (text : List Char) : (readFraction text).2 <:+ text := by
  unfold readFraction
  split
  · dsimp only
    split
    · exact List.suffix_refl _
    · exact (List.dropWhile_suffix _).trans (List.suffix_cons _ _)
  · exact List.suffix_refl _

lemma takeSign_suffix (text : List Char) : (takeSign text).2 <:+ text := by
  unfold takeSign
  split
  · exact List.suffix_cons _ _
  · exact List.suffix_cons _ _
  · exact List.suffix_refl _

lemma readExponent_suffix (text : List Char) : (readExponent text).2 <:+ text := by
  unfold readExponent
  split
  · exact List.suffix_refl _
  · dsimp only
    split
    · exact ((List.dropWhile_suffix _).trans (takeSign_suffix _)).trans (List.suffix_cons _ _)
    · exact List.suffix_refl _

lemma takeMinus_suffix (text : List Char) : (takeMinus text).2 <:+ text := by
  unfold takeMinus
  split
  · exact List.suffix_cons _ _
  · exact List.suffix_refl _

lemma readNumber_suffix {text rest : List Char} {n : Literal}
    (h : readNumber N text = some (n, rest)) : rest <:+ text := by
  simp only [readNumber, Option.bind_eq_bind, Option.bind_eq_some_iff, Prod.exists] at h
  obtain ⟨whole, after, hwhole, h⟩ := h
  have hrest : rest = (readExponent (readFraction after).2).2 := by
    split at h <;> exact (Prod.mk.inj (Option.some.inj h)).2.symm
  rw [hrest]
  exact (((readExponent_suffix _).trans (readFraction_suffix _)).trans
    (readWhole_suffix hwhole)).trans (takeMinus_suffix _)

lemma skip_suffix (text : List Char) : skip text <:+ text := List.dropWhile_suffix _

lemma suffix_of_skip {c : Char} {text rest : List Char} (h : skip text = c :: rest) :
    rest <:+ text := (List.suffix_cons c rest).trans (h ▸ skip_suffix text)

/-- A field has been read, and what stands after it says whether it is the last one. -/
lemma readFields_cases {fuel : ℕ} {text rest : List Char}
    {fields : List (List UInt16 × Document)}
    (h : readFields N (fuel + 1) text = some (fields, rest)) :
    ∃ body key afterKey value item after, text = '"' :: body ∧
      readUnits body = some (key, afterKey) ∧ skip afterKey = ':' :: value ∧
      readValue N fuel (skip value) = some (item, after) ∧
        (skip after = '\x7d' :: rest ∨ ∃ next more, skip after = ',' :: next ∧
          readFields N fuel (skip next) = some (more, rest)) := by
  rw [readFields.eq_def] at h
  dsimp only at h
  split at h
  · rename_i body
    simp only [Option.bind_eq_bind, Option.bind_eq_some_iff, Prod.exists] at h
    obtain ⟨key, afterKey, hkey, h⟩ := h
    split at h
    · rename_i value hcolon
      simp only [Option.bind_eq_some_iff, Prod.exists] at h
      obtain ⟨item, after, hitem, h⟩ := h
      refine ⟨body, key, afterKey, value, item, after, rfl, hkey, hcolon, hitem, ?_⟩
      split at h
      · rename_i hskip
        obtain ⟨-, rfl⟩ := Prod.mk.inj (Option.some.inj h)
        exact Or.inl hskip
      · rename_i next hskip
        simp only [Option.bind_eq_some_iff, Prod.exists] at h
        obtain ⟨more, rest', hmore, heq⟩ := h
        obtain ⟨-, rfl⟩ := Prod.mk.inj (Option.some.inj heq)
        exact Or.inr ⟨next, more, hskip, hmore⟩
      · cases h
    · cases h
  · cases h

/-- What the readers leave is the end of their text. -/
lemma readers_suffix (fuel : ℕ) :
    (∀ text d rest, readValue N fuel text = some (d, rest) → rest <:+ text) ∧
    (∀ text items rest, readItems N fuel text = some (items, rest) → rest <:+ text) ∧
      (∀ text fields rest, readFields N fuel text = some (fields, rest) → rest <:+ text) := by
  induction fuel with
  | zero =>
    refine ⟨fun _ _ _ h => ?_, fun _ _ _ h => ?_, fun _ _ _ h => ?_⟩
    · cases h
    · cases h
    · cases h
  | succ fuel ih =>
    obtain ⟨hvalue, hitems, hfields⟩ := ih
    refine ⟨fun text d rest h => ?_, fun text items rest h => ?_, fun text fields rest h => ?_⟩
    · rw [readValue.eq_def] at h
      dsimp only at h
      split at h
      · simp only [Option.bind_eq_bind, Option.bind_eq_some_iff, Prod.exists] at h
        obtain ⟨units, rest', hread, heq⟩ := h
        obtain ⟨-, rfl⟩ := Prod.mk.inj (Option.some.inj heq)
        exact (readUnits_suffix hread).trans (List.suffix_cons _ _)
      · split at h
        · rename_i hskip
          obtain ⟨-, rfl⟩ := Prod.mk.inj (Option.some.inj h)
          exact (suffix_of_skip hskip).trans (List.suffix_cons _ _)
        · simp only [Option.bind_eq_bind, Option.bind_eq_some_iff, Prod.exists] at h
          obtain ⟨fields, rest', hread, heq⟩ := h
          obtain ⟨-, rfl⟩ := Prod.mk.inj (Option.some.inj heq)
          exact ((hfields _ _ _ hread).trans (skip_suffix _)).trans (List.suffix_cons _ _)
      · split at h
        · rename_i hskip
          obtain ⟨-, rfl⟩ := Prod.mk.inj (Option.some.inj h)
          exact (suffix_of_skip hskip).trans (List.suffix_cons _ _)
        · simp only [Option.bind_eq_bind, Option.bind_eq_some_iff, Prod.exists] at h
          obtain ⟨items, rest', hread, heq⟩ := h
          obtain ⟨-, rfl⟩ := Prod.mk.inj (Option.some.inj heq)
          exact ((hitems _ _ _ hread).trans (skip_suffix _)).trans (List.suffix_cons _ _)
      · obtain ⟨-, rfl⟩ := Prod.mk.inj (Option.some.inj h)
        exact List.suffix_append ['n', 'u', 'l', 'l'] _
      · obtain ⟨-, rfl⟩ := Prod.mk.inj (Option.some.inj h)
        exact List.suffix_append ['t', 'r', 'u', 'e'] _
      · obtain ⟨-, rfl⟩ := Prod.mk.inj (Option.some.inj h)
        exact List.suffix_append ['f', 'a', 'l', 's', 'e'] _
      · obtain ⟨-, rfl⟩ := Prod.mk.inj (Option.some.inj h)
        exact List.suffix_append ['N', 'a', 'N'] _
      · obtain ⟨-, rfl⟩ := Prod.mk.inj (Option.some.inj h)
        exact List.suffix_append ['I', 'n', 'f', 'i', 'n', 'i', 't', 'y'] _
      · obtain ⟨-, rfl⟩ := Prod.mk.inj (Option.some.inj h)
        exact List.suffix_append ['-', 'I', 'n', 'f', 'i', 'n', 'i', 't', 'y'] _
      · simp only [Option.bind_eq_bind, Option.bind_eq_some_iff, Prod.exists] at h
        obtain ⟨n, rest', hread, heq⟩ := h
        obtain ⟨-, rfl⟩ := Prod.mk.inj (Option.some.inj heq)
        exact readNumber_suffix N hread
    · simp only [readItems, Option.bind_eq_bind, Option.bind_eq_some_iff, Prod.exists] at h
      obtain ⟨item, after, hread, h⟩ := h
      have hafter := hvalue _ _ _ hread
      split at h
      · rename_i hskip
        obtain ⟨-, rfl⟩ := Prod.mk.inj (Option.some.inj h)
        exact (suffix_of_skip hskip).trans hafter
      · rename_i hskip
        simp only [Option.bind_eq_some_iff, Prod.exists] at h
        obtain ⟨items, rest', hmore, heq⟩ := h
        obtain ⟨-, rfl⟩ := Prod.mk.inj (Option.some.inj heq)
        exact (((hitems _ _ _ hmore).trans (skip_suffix _)).trans (suffix_of_skip hskip)).trans
          hafter
      · cases h
    · obtain ⟨body, key, afterKey, value, item, after, rfl, hkey, hcolon, hitem, hcase⟩ :=
        readFields_cases N h
      have hvalue' : value <:+ '"' :: body :=
        ((suffix_of_skip hcolon).trans (readUnits_suffix hkey)).trans (List.suffix_cons _ _)
      have hafter : after <:+ '"' :: body :=
        ((hvalue _ _ _ hitem).trans (skip_suffix _)).trans hvalue'
      rcases hcase with hskip | ⟨next, more, hskip, hmore⟩
      · exact (suffix_of_skip hskip).trans hafter
      · exact (((hfields _ _ _ hmore).trans (skip_suffix _)).trans (suffix_of_skip hskip)).trans
          hafter

/-- There is a closing brace after the fields. -/
lemma brace_of_readFields {fuel : ℕ} {text rest : List Char}
    {fields : List (List UInt16 × Document)} (h : readFields N fuel text = some (fields, rest)) :
    '\x7d' ∈ text := by
  induction fuel generalizing text fields with
  | zero => cases h
  | succ fuel ih =>
    obtain ⟨body, key, afterKey, value, item, after, rfl, hkey, hcolon, hitem, hcase⟩ :=
      readFields_cases N h
    have hvalue : value <:+ '"' :: body :=
      ((suffix_of_skip hcolon).trans (readUnits_suffix hkey)).trans (List.suffix_cons _ _)
    have hafter : after <:+ '"' :: body :=
      (((readers_suffix N fuel).1 _ _ _ hitem).trans (skip_suffix _)).trans hvalue
    rcases hcase with hskip | ⟨next, more, hskip, hmore⟩
    · have hmem : '\x7d' ∈ skip after := hskip ▸ List.mem_cons_self
      exact hafter.mem ((skip_suffix after).mem hmem)
    · exact hafter.mem ((suffix_of_skip hskip).mem ((skip_suffix next).mem (ih hmore)))

/-- An object is read only where there is a closing brace. -/
lemma brace_of_readValue {fuel : ℕ} {text rest : List Char}
    {fields : List (List UInt16 × Document)}
    (h : readValue N fuel text = some (.object fields, rest)) :
    '\x7d' ∈ text := by
  cases fuel with
  | zero => cases h
  | succ fuel =>
    rw [readValue.eq_def] at h
    dsimp only at h
    split at h
    case h_2 =>
      rename_i tail
      split at h
      · rename_i hskip
        have hmem : '\x7d' ∈ skip tail := hskip ▸ List.mem_cons_self
        exact List.mem_cons_of_mem _ ((skip_suffix tail).mem hmem)
      · simp only [Option.bind_eq_bind, Option.bind_eq_some_iff, Prod.exists] at h
        obtain ⟨fields, rest', hread, -⟩ := h
        exact List.mem_cons_of_mem _ ((skip_suffix tail).mem (brace_of_readFields N hread))
    case h_3 =>
      split at h
      · cases h
      · simp [Option.bind_eq_some_iff] at h
    all_goals simp [Option.bind_eq_some_iff] at h

lemma brace_of_read {text : List Char} {fields : List (List UInt16 × Document)}
    (h : read N text = some (.object fields)) : '\x7d' ∈ text := by
  unfold read at h
  split at h
  · rename_i d rest hraw
    split at h
    · obtain rfl := Option.some.inj h
      exact (skip_suffix text).mem (brace_of_readValue N hraw)
    · cases h
  · cases h

/-! ### What is written -/

/-- Printable ASCII. -/
def Printable (c : Char) : Prop := 32 ≤ c.toNat ∧ c.toNat < 127

instance : DecidablePred Printable := fun _ => inferInstanceAs (Decidable (_ ∧ _))

/-- All characters of the text are printable ASCII. -/
def Plain (text : List Char) : Prop := ∀ c ∈ text, Printable c

lemma Plain.append {a b : List Char} (ha : Plain a) (hb : Plain b) : Plain (a ++ b) :=
  fun c hc => (List.mem_append.mp hc).elim (ha c) (hb c)

lemma Plain.cons {c : Char} {text : List Char} (hc : Printable c) (h : Plain text) :
    Plain (c :: text) :=
  fun d hd => (List.mem_cons.mp hd).elim (fun hdc => hdc ▸ hc) (h d)

lemma Plain.nil : Plain [] := fun _ h => (List.not_mem_nil h).elim

lemma plain_of_all {text : List Char} (h : text.all (fun c => decide (Printable c)) = true) :
    Plain text :=
  fun c hc => of_decide_eq_true (List.all_eq_true.mp h c hc)

lemma plain_digits {text : List Char} (h : ∀ c ∈ text, c.isDigit = true) : Plain text := by
  intro c hc
  have hdigit := h c hc
  simp only [Char.isDigit, Bool.and_eq_true, decide_eq_true_eq, ge_iff_le, UInt32.le_iff_toNat_le]
    at hdigit
  change 48 ≤ c.toNat ∧ c.toNat ≤ 57 at hdigit
  exact ⟨by omega, by omega⟩

lemma plain_sign (negative : Bool) : Plain (sign negative) := by
  cases negative with
  | true => exact .cons (by decide) .nil
  | false => exact .nil

lemma plain_numeral (n : Numeral) : Plain n.text := by
  have hwhole : Plain (Nat.toDigits 10 n.whole) := plain_digits fun c => isDigit_toDigits
  refine (((plain_sign _).append hwhole).append ?_).append ?_
  · split
    · exact .nil
    · exact .cons (by decide) (plain_digits n.digits)
  · rcases n.scaled with h | ⟨sign, hsign, digits, -, hdigits, h⟩
    · rw [h]
      exact .nil
    · rw [h]
      refine .append (.cons (by decide) ?_) (plain_digits hdigits)
      simp only [List.mem_cons, List.not_mem_nil, or_false] at hsign
      rcases hsign with rfl | rfl | rfl
      · exact .nil
      · exact .cons (by decide) .nil
      · exact .cons (by decide) .nil

lemma plain_number (l : Literal) : Plain (writeNumber N l) := by
  cases l with
  | int z => exact (plain_sign _).append (plain_digits fun c => isDigit_toDigits)
  | decimal x =>
    cases x with
    | finite negative m => exact plain_numeral _
    | inf negative => exact (plain_sign _).append (plain_of_all (by decide))
    | nan =>
      exact plain_of_all (by decide : "NaN".toList.all (fun c => decide (Printable c)) = true)

lemma printable_digitChar {n : ℕ} (h : n < 16) : Printable (Nat.digitChar n) := by
  interval_cases n <;> decide

lemma plain_unit (u : UInt16) : Plain (writeUnit u) := by
  have hlt := u.toNat_lt
  have hhex : Plain (hexDigits u) :=
    .cons (printable_digitChar (by omega)) <| .cons (printable_digitChar (by omega)) <|
      .cons (printable_digitChar (by omega)) <| .cons (printable_digitChar (by omega)) .nil
  unfold writeUnit
  have htwo {c d : Char} (hc : Printable c) (hd : Printable d) : Plain [c, d] :=
    .cons hc (.cons hd .nil)
  split_ifs with h1 h2 h3 h4 h5 h6 h7 h8
  · exact htwo (by decide) (by decide)
  · exact htwo (by decide) (by decide)
  · exact htwo (by decide) (by decide)
  · exact htwo (by decide) (by decide)
  · exact htwo (by decide) (by decide)
  · exact htwo (by decide) (by decide)
  · exact htwo (by decide) (by decide)
  · have hchar : (Char.ofNat u.toNat).toNat = u.toNat := ofNat_toNat (by omega)
    exact .cons ⟨by omega, by omega⟩ .nil
  · exact .cons (by decide) (.cons (by decide) hhex)

lemma plain_text (units : List UInt16) : Plain (writeText units) := by
  refine .append (.cons (by decide) fun c hc => ?_) (.cons (by decide) .nil)
  obtain ⟨u, -, hu⟩ := List.mem_flatMap.mp hc
  exact plain_unit u c hu

lemma plain_gap : Plain (gap compact) := by
  cases compact with
  | true => exact .nil
  | false => exact .cons (by decide) .nil

mutual

/-- **What is written is printable ASCII**, whatever the document holds. -/
theorem write_plain : ∀ d : Document, Plain (write N compact d)
  | .null => plain_of_all (by decide : "null".toList.all (fun c => decide (Printable c)) = true)
  | .bool true =>
    plain_of_all (by decide : "true".toList.all (fun c => decide (Printable c)) = true)
  | .bool false =>
    plain_of_all (by decide : "false".toList.all (fun c => decide (Printable c)) = true)
  | .number n => plain_number N n
  | .text units => plain_text units
  | .array items =>
    .append (.cons (by decide) (plain_items items)) (.cons (by decide) .nil)
  | .object fields =>
    .append (.cons (by decide) (plain_fields fields)) (.cons (by decide) .nil)

lemma plain_items : ∀ items : List Document, Plain (writeItems N compact items)
  | [] => .nil
  | [item] => write_plain item
  | item :: next :: items =>
    ((write_plain item).append (.cons (by decide) (plain_gap compact))).append
      (plain_items (next :: items))

lemma plain_fields : ∀ fields : List (List UInt16 × Document), Plain (writeFields N compact fields)
  | [] => .nil
  | [(key, item)] =>
    ((plain_text key).append (.cons (by decide) (plain_gap compact))).append (write_plain item)
  | (key, item) :: next :: fields =>
    ((((plain_text key).append (.cons (by decide) (plain_gap compact))).append
      (write_plain item)).append (.cons (by decide) (plain_gap compact))).append
        (plain_fields (next :: fields))

end

end HermesRealtime.JsonText

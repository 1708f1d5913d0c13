import HermesRealtime.Values

/-!
The text helpers of `task_events.py`: redaction of secrets, replacement of control
characters, collapsing of white space and truncation.

The two patterns are matched position by position, as `re.sub` does. Both are
deterministic once the keyword is fixed: the separators after it are taken greedily and
nothing is gained by giving characters back, except at the end of a token, where the run is
shortened until a word boundary follows it.
-/

namespace HermesRealtime.Text

open Values

/-- What the code takes from the Python platform: the Unicode tables behind `\w` and
`str.lower`, the JSON reader with what it raises, and SHA-256.

A Python text may hold lone surrogates, and no `Char` is one. In the texts of task events some
private-use characters stand for them, and the platform says which; `isEscape` says which of
those are the ones (U+DC80 to U+DCFF) that `os.fsencode` turns back into bytes. -/
structure Platform where
  isAlnum : Char → Bool
  isAlnum_ascii : ∀ c : Char, c.toNat < 128 → isAlnum c = c.isAlphanum
  lower : String → String
  jsonLoads : String → Except PyError Json
  sha256Hex : String → String
  isSurrogate : Char → Bool
  isSurrogate_private : ∀ c : Char, isSurrogate c = true → 983040 ≤ c.toNat ∧ isAlnum c = false
  isEscape : Char → Bool

/-- A platform that knows the letters of ASCII and no JSON. -/
def asciiPlatform : Platform where
  isAlnum := Char.isAlphanum
  isAlnum_ascii := fun _ _ => rfl
  lower := fun s => String.ofList (s.toList.map Char.toLower)
  jsonLoads := fun _ => .error (.valueError "Expecting value")
  sha256Hex := id
  isSurrogate := fun _ => false
  isSurrogate_private := fun _ h => absurd h Bool.false_ne_true
  isEscape := fun _ => false

lemma alphanum_range {c : Char} (h : c.isAlphanum = true) :
    48 ≤ c.toNat ∧ c.toNat ≤ 57 ∨ 65 ≤ c.toNat ∧ c.toNat ≤ 90 ∨ 97 ≤ c.toNat ∧ c.toNat ≤ 122 := by
  have hval : c.isAlphanum = ((decide (65 ≤ c.val ∧ c.val ≤ 90) ||
      (decide (97 ≤ c.val) && decide (c.val ≤ 122))) ||
      (decide (48 ≤ c.val) && decide (c.val ≤ 57))) := rfl
  simp only [hval, Bool.or_eq_true, Bool.and_eq_true, decide_eq_true_eq,
    UInt32.le_iff_toNat_le] at h
  change ((65 ≤ c.toNat ∧ c.toNat ≤ 90) ∨ (97 ≤ c.toNat ∧ c.toNat ≤ 122)) ∨
    (48 ≤ c.toNat ∧ c.toNat ≤ 57) at h
  exact Or.symm h

/-- `str.isspace` of one character. -/
def isSpace (c : Char) : Bool :=
  let n := c.toNat
  (9 ≤ n && n ≤ 13) || (28 ≤ n && n ≤ 32) || n == 133 || n == 160 || n == 5760 ||
    (8192 ≤ n && n ≤ 8202) || n == 8232 || n == 8233 || n == 8239 || n == 8287 || n == 12288

/-- The characters `str.splitlines` ends a line at. -/
def isLineBreak (c : Char) : Bool :=
  let n := c.toNat
  (10 ≤ n && n ≤ 13) || (28 ≤ n && n ≤ 30) || n == 133 || n == 8232 || n == 8233

/-- `value.splitlines()[0]`; the empty string has no lines. -/
def firstLine (value : String) : Except PyError String :=
  if value.toList = [] then .error .indexError
  else .ok (String.ofList (value.toList.takeWhile fun c => !isLineBreak c))

def wordsFrom (acc : List Char) : List Char → List (List Char)
  | [] => if acc = [] then [] else [acc.reverse]
  | c :: cs =>
    if isSpace c then
      if acc = [] then wordsFrom [] cs else acc.reverse :: wordsFrom [] cs
    else wordsFrom (c :: acc) cs

/-- `" ".join(value.split())`. -/
def joinWords (value : List Char) : List Char := [' '].intercalate (wordsFrom [] value)

/-! ### The secret patterns -/

section Patterns

variable (P : Platform)

def isWord (c : Char) : Bool := P.isAlnum c || c == '_'

/-- `\b` between two neighbours. -/
def boundary (before after : Option Char) : Bool :=
  before.any (isWord P) != after.any (isWord P)

/-- `c` matches the lower-case letter `p` of a pattern with `(?i)`. -/
def foldEq (p c : Char) : Bool :=
  c == p || c == p.toUpper || (p == 'i' && (c.toNat == 0x130 || c.toNat == 0x131)) ||
    (p == 's' && c.toNat == 0x17f) || (p == 'k' && c.toNat == 0x212a)

/-- A piece of a keyword: letters, or the optional separator `[_ -]?`. -/
inductive Piece
  | letters (s : List Char)
  | separator

def dropLetters : List Char → List Char → Option (List Char)
  | [], rest => some rest
  | p :: ps, c :: cs => if foldEq p c then dropLetters ps cs else none
  | _ :: _, [] => none

/-- The rests after a keyword, the greedy choice of each separator first. -/
def dropPieces : List Piece → List Char → List (List Char)
  | [], rest => [rest]
  | .letters s :: ps, rest => ((dropLetters s rest).map (dropPieces ps)).getD []
  | .separator :: ps, rest =>
    match rest with
    | c :: cs =>
      if c == '_' || c == ' ' || c == '-' then dropPieces ps cs ++ dropPieces ps rest
      else dropPieces ps rest
    | [] => dropPieces ps rest

def secretKeywords : List (List Piece) :=
  [[.letters "api".toList, .separator, .letters "key".toList],
   [.letters "access".toList, .separator, .letters "token".toList],
   [.letters "token".toList], [.letters "password".toList], [.letters "secret".toList]]

def redacted : List Char := "[REDACTED]".toList

/-- What follows a keyword in `_SECRET_ASSIGNMENT_RE`: the length of `\s*[:=]\s*` and the
text after the secret itself. -/
def assignedSecret (rest : List Char) : Option (ℕ × List Char) :=
  let blank := rest.takeWhile isSpace
  match rest.dropWhile isSpace with
  | c :: cs =>
    if c == ':' || c == '=' then
      let secret := cs.dropWhile isSpace
      if secret = [] then none
      else some (blank.length + 1 + (cs.takeWhile isSpace).length,
        secret.dropWhile fun c => !isSpace c)
    else none
  | [] => none

/-- A match of `_SECRET_ASSIGNMENT_RE` at the start of `text`: its replacement and the rest. -/
def matchAssignment (before : Option Char) (text : List Char) :
    Option (List Char × List Char) :=
  if boundary P before text.head? then
    (secretKeywords.flatMap fun k => dropPieces k text).findSome? fun rest =>
      let keyword := text.take (text.length - rest.length)
      if boundary P keyword.getLast? rest.head? then
        (assignedSecret rest).map fun (n, after) => (keyword ++ rest.take n ++ redacted, after)
      else none
  else none

def isTokenChar (c : Char) : Bool := c.isAlphanum || c == '_' || c == '-'

def dropLiteral : List Char → List Char → Option (List Char)
  | [], rest => some rest
  | p :: ps, c :: cs => if p == c then dropLiteral ps cs else none
  | _ :: _, [] => none

def tokenPrefixes : List (List Char) :=
  ["sk", "ghp", "github_pat", "xoxb", "xoxa", "xoxp", "xoxr", "xoxs"].map String.toList

/-- The longest prefix of at least 8 token characters that ends at a word boundary. -/
def tokenLength (body : List Char) : Option ℕ :=
  let run := body.takeWhile isTokenChar
  ((List.range (run.length + 1)).reverse.find? fun n =>
    8 ≤ n && boundary P (body.take n).getLast? (body.drop n).head?)

/-- A match of `_SECRET_TOKEN_RE` at the start of `text`: its replacement and the rest. -/
def matchToken (before : Option Char) (text : List Char) : Option (List Char × List Char) :=
  if boundary P before text.head? then
    tokenPrefixes.findSome? fun literal =>
      match dropLiteral literal text with
      | some (c :: body) =>
        if c == '-' || c == '_' then
          (tokenLength P body).map fun n => (redacted, body.drop n)
        else none
      | _ => none
  else none

/-- `re.sub`: the matches found from left to right, none overlapping another. The fuel is the
length of the text, since no match is empty. -/
def substitute (find : Option Char → List Char → Option (List Char × List Char)) :
    ℕ → Option Char → List Char → List Char
  | 0, _, text => text
  | _ + 1, _, [] => []
  | fuel + 1, before, c :: cs =>
    match find before (c :: cs) with
    | some (replacement, rest) =>
      let consumed := (c :: cs).take ((c :: cs).length - rest.length)
      replacement ++ substitute find fuel consumed.getLast? rest
    | none => c :: substitute find fuel (some c) cs

def redact (text : List Char) : List Char :=
  let assigned := substitute (matchAssignment P) text.length none text
  substitute (matchToken P) assigned.length none assigned

/-- `_bounded_text`. -/
def boundedText (value : String) (limit : ℕ) : String :=
  let cleaned := (redact P value.toList).map fun c => if c.toNat < 32 then ' ' else c
  truncate limit (String.ofList (joinWords cleaned))

end Patterns

/-! ### Bounded text is short and not blank -/

/-- Every character of the text is white space. -/
def Blank (value : String) : Prop := ∀ c ∈ value.toList, isSpace c = true

lemma wordsFrom_solid (l acc : List Char) (hacc : ∀ c ∈ acc, isSpace c = false) :
    ∀ w ∈ wordsFrom acc l, w ≠ [] ∧ ∀ c ∈ w, isSpace c = false := by
  induction l generalizing acc with
  | nil =>
    intro w hw
    by_cases h : acc = []
    · simp [wordsFrom, h] at hw
    · obtain rfl : w = acc.reverse := by simpa [wordsFrom, h] using hw
      exact ⟨by simpa using h, fun c hc => hacc c (by simpa using hc)⟩
  | cons c cs ih =>
    intro w hw
    cases hc : isSpace c with
    | true =>
      by_cases h : acc = []
      · simp only [wordsFrom, hc, h, if_true] at hw
        exact ih [] (by simp) w hw
      · simp only [wordsFrom, hc, if_true, h, if_false, List.mem_cons] at hw
        rcases hw with rfl | hw
        · exact ⟨by simpa using h, fun d hd => hacc d (by simpa using hd)⟩
        · exact ih [] (by simp) w hw
    | false =>
      simp only [wordsFrom, hc, Bool.false_eq_true, if_false] at hw
      exact ih (c :: acc) (by simpa [hc] using hacc) w hw

lemma joinWords_head {l : List Char} {c : Char} {cs : List Char} (h : joinWords l = c :: cs) :
    isSpace c = false := by
  have hsolid := wordsFrom_solid l [] (by simp)
  unfold joinWords at h
  rcases hw : wordsFrom [] l with _ | ⟨w, ws⟩
  · simp [hw] at h
  · obtain ⟨hne, hs⟩ := hsolid w (by simp [hw])
    obtain ⟨d, ds, rfl⟩ := List.exists_cons_of_ne_nil hne
    have hd : isSpace d = false := hs d (by simp)
    rw [hw] at h
    cases ws <;> simp at h <;> exact h.1 ▸ hd

/-- Up to the first white space the characters belong to one word. -/
lemma wordsFrom_append {w : List Char} (l acc : List Char) (hw : ∀ c ∈ w, isSpace c = false) :
    wordsFrom acc (w ++ l) = wordsFrom (w.reverse ++ acc) l := by
  induction w generalizing acc with
  | nil => rfl
  | cons c cs ih =>
    have hc : isSpace c = false := hw c (by simp)
    rw [List.cons_append, wordsFrom, if_neg (by simp [hc]),
      ih (c :: acc) fun d hd => hw d (by simp [hd])]
    simp

/-- Words that are joined come apart again. -/
lemma wordsFrom_intercalate (ws : List (List Char))
    (hws : ∀ w ∈ ws, w ≠ [] ∧ ∀ c ∈ w, isSpace c = false) :
    wordsFrom [] ([' '].intercalate ws) = ws := by
  induction ws with
  | nil => rfl
  | cons w ws ih =>
    obtain ⟨hne, hsolid⟩ := hws w (by simp)
    have ih := ih fun v hv => hws v (by simp [hv])
    rcases ws with _ | ⟨v, ws⟩
    · have h := wordsFrom_append [] [] hsolid
      simpa [wordsFrom, hne] using h
    · rw [List.intercalate_cons_cons, List.append_assoc, wordsFrom_append _ _ hsolid,
        List.singleton_append, wordsFrom, if_pos (by decide), ih]
      simp [hne]

lemma joinWords_idem (l : List Char) : joinWords (joinWords l) = joinWords l := by
  rw [joinWords, joinWords, wordsFrom_intercalate _ (wordsFrom_solid l [] (by simp))]

lemma wordsFrom_eq_nil {l acc : List Char} :
    wordsFrom acc l = [] ↔ acc = [] ∧ ∀ c ∈ l, isSpace c = true := by
  induction l generalizing acc with
  | nil => simp [wordsFrom]
  | cons c cs ih =>
    cases hc : isSpace c <;> by_cases hacc : acc = [] <;> simp [wordsFrom, hc, hacc, ih]

lemma joinWords_eq_nil {l : List Char} : joinWords l = [] ↔ ∀ c ∈ l, isSpace c = true := by
  refine ⟨fun h => ?_, fun h => ?_⟩
  · rcases hw : wordsFrom [] l with _ | ⟨w, ws⟩
    · exact (wordsFrom_eq_nil.mp hw).2
    · obtain ⟨hne, -⟩ := wordsFrom_solid l [] (by simp) w (by simp [hw])
      rw [joinWords, hw] at h
      cases ws <;> simp [hne] at h
  · rw [joinWords, wordsFrom_eq_nil.mpr ⟨rfl, h⟩]
    rfl

/-- The joined words and the words that are still to be read are no longer than the text. -/
lemma joined_length (l acc : List Char) :
    ([' '].intercalate (wordsFrom acc l)).length ≤ acc.length + l.length := by
  induction l generalizing acc with
  | nil => by_cases hacc : acc = [] <;> simp [wordsFrom, hacc]
  | cons c cs ih =>
    cases hc : isSpace c with
    | false =>
      have := ih (c :: acc)
      simp only [wordsFrom, hc, Bool.false_eq_true, if_false, List.length_cons] at this ⊢
      omega
    | true =>
      have := ih []
      by_cases hacc : acc = []
      · simp only [wordsFrom, hc, hacc, if_true, List.length_cons, List.length_nil] at this ⊢
        omega
      · simp only [wordsFrom, hc, hacc, if_true, if_false]
        rcases hw : wordsFrom [] cs with _ | ⟨v, ws⟩
        · simp
        · rw [hw] at this
          rw [List.intercalate_cons_cons]
          simp only [List.length_append, List.length_reverse, List.length_cons, List.length_nil]
            at this ⊢
          omega

lemma joinWords_length (l : List Char) : (joinWords l).length ≤ l.length := by
  have h := joined_length l []
  rwa [List.length_nil, Nat.zero_add] at h

/-- Only white space is lost. -/
lemma wordsFrom_flatten (acc l : List Char) :
    (wordsFrom acc l).flatten = acc.reverse ++ l.filter fun c => !isSpace c := by
  induction l generalizing acc with
  | nil => by_cases hacc : acc = [] <;> simp [wordsFrom, hacc]
  | cons c cs ih =>
    cases hc : isSpace c <;> by_cases hacc : acc = [] <;> simp [wordsFrom, hc, hacc, ih]

lemma mem_intercalate {ws : List (List Char)} {c : Char} (h : c ∈ [' '].intercalate ws) :
    c = ' ' ∨ c ∈ ws.flatten := by
  induction ws with
  | nil => cases h
  | cons w ws ih =>
    rcases ws with _ | ⟨v, ws⟩
    · exact .inr (by simpa using h)
    · rw [List.intercalate_cons_cons, List.mem_append, List.mem_append] at h
      rw [List.flatten_cons, List.mem_append]
      rcases h with (h | h) | h
      · exact .inr (.inl h)
      · exact .inl (List.mem_singleton.mp h)
      · exact (ih h).imp_right .inr

lemma mem_joinWords {l : List Char} {c : Char} (h : c ∈ joinWords l) : c = ' ' ∨ c ∈ l := by
  refine (mem_intercalate h).imp_right fun hc => ?_
  have hmem : c ∈ l ∧ isSpace c = false := by simpa [wordsFrom_flatten] using hc
  exact hmem.1

variable (P : Platform)

lemma boundedText_length (value : String) (limit : ℕ) :
    (boundedText P value limit).toList.length ≤ limit := by
  simp only [boundedText, truncate, String.toList_ofList]
  exact List.length_take_le _ _

lemma boundedText_not_blank {value : String} {limit : ℕ} (h : boundedText P value limit ≠ "") :
    ¬ Blank (boundedText P value limit) := by
  intro hb
  simp only [boundedText, truncate, String.toList_ofList] at h hb
  generalize hj : joinWords ((redact P value.toList).map fun c => if c.toNat < 32 then ' ' else c)
    = j at h hb
  rcases j with _ | ⟨c, cs⟩
  · simp at h
  · rcases limit with _ | n
    · simp at h
    · have hc := joinWords_head hj
      have : isSpace c = true := hb c (by simp)
      simp [hc] at this

/-- Bounded text has no control characters. -/
lemma boundedText_plain (value : String) (limit : ℕ) :
    ∀ c ∈ (boundedText P value limit).toList, 32 ≤ c.toNat := by
  intro c hc
  simp only [boundedText, truncate, String.toList_ofList] at hc
  rcases mem_joinWords (List.mem_of_mem_take hc) with rfl | hc
  · decide
  · obtain ⟨d, -, rfl⟩ := List.mem_map.mp hc
    split
    · decide
    · omega

/-- Text to be shown: not too long, not blank and without control characters. -/
structure Presentable (limit : ℕ) (text : String) : Prop where
  short : text.toList.length ≤ limit
  solid : ¬ Blank text
  plain : ∀ c ∈ text.toList, 32 ≤ c.toNat

lemma Presentable.ne_empty {limit : ℕ} {text : String} (h : Presentable limit text) :
    text ≠ "" := by
  rintro rfl
  exact h.solid (by simp [Blank])

lemma boundedText_presentable {value : String} {limit : ℕ} (h : boundedText P value limit ≠ "") :
    Presentable limit (boundedText P value limit) :=
  ⟨boundedText_length P value limit, boundedText_not_blank P h, boundedText_plain P value limit⟩

end HermesRealtime.Text

import HermesRealtime.Utf8
import Mathlib.Data.List.SplitBy
import Mathlib.Data.List.TakeWhile

/-!
Query strings: the quoting of names and values and what is read back from them. What is quoted is
ASCII without a separator in it, so that the parts of a query are those it was made of.
-/

namespace HermesRealtime.QueryStrings

open Utf8

/-- The numbers of the characters of a literal. -/
def str (s : String) : Str := s.toList.map Char.toNat

/-- `s.partition(sep)`: what is before, and what is after if the separator is there. -/
def partition (sep : ℕ) (s : Str) : Str × Option Str :=
  match s.dropWhile (· != sep) with
  | [] => (s, none)
  | _ :: after => (s.takeWhile (· != sep), some after)

/-! ### Quoting -/

def isDigit (c : ℕ) : Bool := '0'.toNat ≤ c && c ≤ '9'.toNat

def isUpper (c : ℕ) : Bool := 'A'.toNat ≤ c && c ≤ 'Z'.toNat

def isLower (c : ℕ) : Bool := 'a'.toNat ≤ c && c ≤ 'z'.toNat

/-- `_ALWAYS_SAFE`. -/
def alwaysSafe (c : ℕ) : Bool := isUpper c || isLower c || isDigit c || (str "_.-~").contains c

def hexDigit (n : ℕ) : ℕ := if n < 10 then '0'.toNat + n else 'A'.toNat + (n - 10)

def hexValue (c : ℕ) : Option ℕ :=
  if isDigit c then some (c - '0'.toNat)
  else if 'A'.toNat ≤ c ∧ c ≤ 'F'.toNat then some (c - 'A'.toNat + 10)
  else if 'a'.toNat ≤ c ∧ c ≤ 'f'.toNat then some (c - 'a'.toNat + 10)
  else none

def quoteOctet (b : ℕ) : Str :=
  if alwaysSafe b then [b]
  else if b = ' '.toNat then ['+'.toNat]
  else ['%'.toNat, hexDigit (b / 16), hexDigit (b % 16)]

/-- `quote_plus`, unless encoding raises. -/
def quotePlus (s : Str) : Option Str := (encode s).map (·.flatMap quoteOctet)

/-- `unquote_to_bytes` of ASCII. -/
def unquoteToOctets : Str → List ℕ
  | c :: x :: y :: cs =>
    match c == '%'.toNat, hexValue x, hexValue y with
    | true, some high, some low => (16 * high + low) :: unquoteToOctets cs
    | _, _, _ => c :: unquoteToOctets (x :: y :: cs)
  | c :: cs => c :: unquoteToOctets cs
  | [] => []

def isAscii (c : ℕ) : Bool := c < 128

/-- `unquote`: every run of ASCII is unquoted and decoded for itself. -/
def unquote (s : Str) : Str :=
  (s.splitBy fun c d => isAscii c == isAscii d).flatMap fun run =>
    if run.all isAscii then decode (unquoteToOctets run) else run

def plusToSpace (s : Str) : Str := s.map fun c => if c = '+'.toNat then ' '.toNat else c

/-! ### Queries -/

/-- The names of a query with their values. -/
abbrev Query := List (Str × List Str)

/-- One name and value of `parse_qsl`. -/
def parsePair (nameValue : Str) : Str × Str :=
  (unquote (plusToSpace (partition '='.toNat nameValue).1),
    unquote (plusToSpace ((partition '='.toNat nameValue).2.getD [])))

/-- `parse_qsl` with `keep_blank_values`. -/
def parseQsl (qs : Str) : List (Str × Str) :=
  ((qs.splitOn '&'.toNat).filter (· ≠ [])).map parsePair

/-- The value is appended to those of its name. -/
def addValue : Query → Str × Str → Query
  | [], (name, value) => [(name, [value])]
  | (name', values) :: rest, (name, value) =>
    if name' = name then (name', values ++ [value]) :: rest
    else (name', values) :: addValue rest (name, value)

/-- `parse_qs` with `keep_blank_values`. -/
def parseQs (qs : Str) : Query := (parseQsl qs).foldl addValue []

/-- `query[name] = values`. -/
def setValues (name : Str) (values : List Str) : Query → Query
  | [] => [(name, values)]
  | (name', values') :: rest =>
    if name' = name then (name', values) :: rest
    else (name', values') :: setValues name values rest

/-- `name=value` for every value. -/
def quotePairs (item : Str × List Str) : Option (List Str) := do
  let name ← quotePlus item.1
  item.2.mapM fun value => do return name ++ '='.toNat :: (← quotePlus value)

/-- `urlencode` with `doseq`. -/
def urlencode (query : Query) : Option Str := do
  return ['&'.toNat].intercalate (← query.mapM quotePairs).flatten

/-! ### Partitions -/

variable {sep : ℕ} {s before after : Str}

lemma partition_of_notMem (h : sep ∉ s) : partition sep s = (s, none) := by
  have hdrop : s.dropWhile (· != sep) = [] := by
    rw [List.dropWhile_eq_nil_iff]
    intro c hc
    exact bne_iff_ne.mpr fun heq => h (heq ▸ hc)
  rw [partition, hdrop]

lemma partition_append (h : sep ∉ before) :
    partition sep (before ++ sep :: after) = (before, some after) := by
  have hbefore : ∀ c ∈ before, (c != sep) = true := fun c hc =>
    bne_iff_ne.mpr fun heq => h (heq ▸ hc)
  rw [partition, List.dropWhile_append_of_pos hbefore, List.takeWhile_append_of_pos hbefore]
  simp

/-- A partition takes the text apart. -/
lemma partition_spec (sep : ℕ) (s : Str) :
    (sep ∉ s ∧ partition sep s = (s, none)) ∨
      ∃ before after, s = before ++ sep :: after ∧ sep ∉ before ∧
        partition sep s = (before, some after) := by
  by_cases h : sep ∈ s
  · obtain ⟨before, after, rfl, hbefore⟩ := List.eq_append_cons_of_mem h
    exact Or.inr ⟨before, after, rfl, hbefore, partition_append hbefore⟩
  · exact Or.inl ⟨h, partition_of_notMem h⟩

/-! ### What is quoted is read back -/

lemma alwaysSafe_range {c : ℕ} (h : alwaysSafe c = true) :
    48 ≤ c ∧ c ≤ 57 ∨ 65 ≤ c ∧ c ≤ 90 ∨ 97 ≤ c ∧ c ≤ 122 ∨ c = 95 ∨ c = 46 ∨ c = 45 ∨ c = 126 := by
  simp [alwaysSafe, isUpper, isLower, isDigit, str] at h
  omega

/-- The characters that quoting leaves or makes. -/
def Quoted (c : ℕ) : Prop := alwaysSafe c = true ∨ c = '+'.toNat ∨ c = '%'.toNat

/-- None of them is a separator or white space. -/
lemma Quoted.range {c : ℕ} (h : Quoted c) :
    32 < c ∧ c < 128 ∧ c ≠ '&'.toNat ∧ c ≠ '='.toNat ∧ c ≠ '#'.toNat ∧ c ≠ '?'.toNat := by
  rcases h with h | rfl | rfl
  · have hrange := alwaysSafe_range h
    simp only [Char.reduceToNat]
    omega
  · decide
  · decide

lemma hexDigit_spec :
    ∀ n < 16, alwaysSafe (hexDigit n) = true ∧ hexValue (hexDigit n) = some n := by
  decide

lemma quoteOctet_quoted {b : ℕ} (h : b < 256) : ∀ c ∈ quoteOctet b, Quoted c := by
  intro c hc
  unfold quoteOctet at hc
  split at hc
  · rw [List.mem_singleton.mp hc]
    exact Or.inl ‹_›
  split at hc
  · exact Or.inr (Or.inl (List.mem_singleton.mp hc))
  · have hhigh := (hexDigit_spec (b / 16) (by omega)).1
    have hlow := (hexDigit_spec (b % 16) (by omega)).1
    simp only [List.mem_cons, List.not_mem_nil, or_false] at hc
    rcases hc with rfl | rfl | rfl
    · exact Or.inr (Or.inr rfl)
    · exact Or.inl hhigh
    · exact Or.inl hlow

lemma plusToSpace_cons {c : ℕ} (h : c ≠ '+'.toNat) (s : Str) :
    plusToSpace (c :: s) = c :: plusToSpace s := by
  rw [plusToSpace, List.map_cons, if_neg h]
  rfl

lemma alwaysSafe_ne {c : ℕ} (h : alwaysSafe c = true) : c ≠ '+'.toNat ∧ c ≠ '%'.toNat := by
  have hrange := alwaysSafe_range h
  simp only [Char.reduceToNat]
  omega

lemma unquoteToOctets_cons {c : ℕ} (h : c ≠ '%'.toNat) (cs : Str) :
    unquoteToOctets (c :: cs) = c :: unquoteToOctets cs := by
  rcases cs with _ | ⟨x, _ | ⟨y, cs⟩⟩
  · rfl
  · rfl
  · rw [unquoteToOctets, beq_eq_false_iff_ne.mpr h]

lemma unquoteToOctets_escape {b : ℕ} (h : b < 256) (cs : Str) :
    unquoteToOctets ('%'.toNat :: hexDigit (b / 16) :: hexDigit (b % 16) :: cs) =
      b :: unquoteToOctets cs := by
  rw [unquoteToOctets, (hexDigit_spec (b / 16) (by omega)).2, (hexDigit_spec (b % 16) (by omega)).2]
  simp only [beq_self_eq_true]
  rw [Nat.div_add_mod]

/-- Reading an octet, the way it has been quoted. -/
lemma unquoteToOctets_quoteOctet {b : ℕ} (h : b < 256) (s : Str) :
    unquoteToOctets (plusToSpace (quoteOctet b ++ s)) = b :: unquoteToOctets (plusToSpace s) := by
  unfold quoteOctet
  split
  case isTrue hsafe =>
    obtain ⟨hplus, hpercent⟩ := alwaysSafe_ne hsafe
    rw [List.singleton_append, plusToSpace_cons hplus, unquoteToOctets_cons hpercent]
  case isFalse =>
    split
    case isTrue hspace =>
      rw [hspace]
      exact unquoteToOctets_cons (by decide) (plusToSpace s)
    case isFalse =>
      have hhigh := alwaysSafe_ne (hexDigit_spec (b / 16) (by omega)).1
      have hlow := alwaysSafe_ne (hexDigit_spec (b % 16) (by omega)).1
      have hpercent : '%'.toNat ≠ '+'.toNat := by decide
      simp only [List.cons_append, List.nil_append]
      rw [plusToSpace_cons hpercent, plusToSpace_cons hhigh.1, plusToSpace_cons hlow.1,
        unquoteToOctets_escape h]

lemma unquoteToOctets_quoted {bs : List ℕ} (h : ∀ b ∈ bs, b < 256) :
    unquoteToOctets (plusToSpace (bs.flatMap quoteOctet)) = bs := by
  induction bs with
  | nil => rfl
  | cons b bs ih =>
    rw [List.flatMap_cons, unquoteToOctets_quoteOctet (h b List.mem_cons_self),
      ih fun b' hb => h b' (List.mem_cons_of_mem _ hb)]

/-- A text of ASCII is one run. -/
lemma unquote_ascii {s : Str} (h : ∀ c ∈ s, isAscii c = true) :
    unquote s = decode (unquoteToOctets s) := by
  by_cases hs : s = []
  · rw [hs]
    rfl
  · have hchain : s.IsChain fun c d => (isAscii c == isAscii d) = true := by
      refine List.isChain_iff_getElem.mpr fun i hi => ?_
      rw [h _ (List.getElem_mem _), h _ (List.getElem_mem _)]
      rfl
    rw [unquote, List.splitBy_of_isChain hs hchain, List.flatMap_singleton,
      if_pos (List.all_eq_true.mpr h)]

variable {quoted : Str}

lemma quotePlus_quoted (h : quotePlus s = some quoted) : ∀ c ∈ quoted, Quoted c := by
  obtain ⟨bs, hencode, rfl⟩ := Option.map_eq_some_iff.mp h
  intro c hc
  obtain ⟨b, hb, hmem⟩ := List.mem_flatMap.mp hc
  exact quoteOctet_quoted (encode_lt hencode b hb) c hmem

theorem unquote_quotePlus (h : quotePlus s = some quoted) : unquote (plusToSpace quoted) = s := by
  have hquoted := quotePlus_quoted h
  obtain ⟨bs, hencode, rfl⟩ := Option.map_eq_some_iff.mp h
  have hascii : ∀ c ∈ plusToSpace (bs.flatMap quoteOctet), isAscii c = true := by
    intro c hc
    obtain ⟨d, hd, rfl⟩ := List.mem_map.mp hc
    have hrange := (hquoted d hd).range
    split
    · rfl
    · exact decide_eq_true hrange.2.1
  rw [unquote_ascii hascii, unquoteToOctets_quoted (encode_lt hencode), decode_encode hencode]

/-! ### Queries are read back -/

lemma parsePair_quoted {name value name' value' : Str} (hname : quotePlus name = some name')
    (hvalue : quotePlus value = some value') :
    parsePair (name' ++ '='.toNat :: value') = (name, value) := by
  have hfree : '='.toNat ∉ name' := fun hmem => (quotePlus_quoted hname _ hmem).range.2.2.2.1 rfl
  rw [parsePair, partition_append hfree, Option.getD_some, unquote_quotePlus hname,
    unquote_quotePlus hvalue]

/-- The parts of an encoded query, read one by one. -/
def ReadAs (parts : List Str) (pairs : List (Str × Str)) : Prop :=
  parts.map parsePair = pairs ∧ ∀ part ∈ parts, part ≠ [] ∧ ∀ c ∈ part, Quoted c ∨ c = '='.toNat

lemma ReadAs.append {parts parts' : List Str} {pairs pairs' : List (Str × Str)}
    (h : ReadAs parts pairs) (h' : ReadAs parts' pairs') :
    ReadAs (parts ++ parts') (pairs ++ pairs') := by
  refine ⟨by rw [List.map_append, h.1, h'.1], fun part hpart => ?_⟩
  rcases List.mem_append.mp hpart with hpart | hpart
  · exact h.2 part hpart
  · exact h'.2 part hpart

lemma readAs_pair {name value name' value' : Str} (hname : quotePlus name = some name')
    (hvalue : quotePlus value = some value') :
    ReadAs [name' ++ '='.toNat :: value'] [(name, value)] := by
  refine ⟨by rw [List.map_singleton, parsePair_quoted hname hvalue], fun part hpart => ?_⟩
  rw [List.mem_singleton.mp hpart]
  refine ⟨by simp, fun c hc => ?_⟩
  rcases List.mem_append.mp hc with hc | hc
  · exact Or.inl (quotePlus_quoted hname c hc)
  · rcases List.mem_cons.mp hc with heq | hc
    · exact Or.inr heq
    · exact Or.inl (quotePlus_quoted hvalue c hc)

lemma quotePairs_readAs {item : Str × List Str} {parts : List Str}
    (h : quotePairs item = some parts) :
    ReadAs parts (item.2.map fun value => (item.1, value)) := by
  obtain ⟨name, values⟩ := item
  obtain ⟨name', hname, hparts⟩ := Option.bind_eq_some_iff.mp h
  change quotePlus name = some name' at hname
  clear h
  induction values generalizing parts with
  | nil =>
    cases hparts
    exact ⟨rfl, fun part hpart => absurd hpart (by simp)⟩
  | cons value values ih =>
    rw [List.mapM_cons] at hparts
    obtain ⟨part, hpart, hrest⟩ := Option.bind_eq_some_iff.mp hparts
    obtain ⟨rest, hmap, hcons⟩ := Option.bind_eq_some_iff.mp hrest
    obtain ⟨value', hvalue, hmade⟩ := Option.bind_eq_some_iff.mp hpart
    cases hcons
    cases hmade
    exact (readAs_pair hname hvalue).append (ih hmap)

/-- The pairs of a query, in the order of its encoding. -/
def pairs (query : Query) : List (Str × Str) :=
  query.flatMap fun item => item.2.map fun value => (item.1, value)

lemma mapM_quotePairs_readAs {query : Query} {parts : List (List Str)}
    (h : query.mapM quotePairs = some parts) : ReadAs parts.flatten (pairs query) := by
  induction query generalizing parts with
  | nil =>
    cases h
    exact ⟨rfl, fun part hpart => absurd hpart (by simp)⟩
  | cons item query ih =>
    rw [List.mapM_cons] at h
    obtain ⟨part, hpart, hrest⟩ := Option.bind_eq_some_iff.mp h
    obtain ⟨rest, hmap, hcons⟩ := Option.bind_eq_some_iff.mp hrest
    cases hcons
    exact (quotePairs_readAs hpart).append (ih hmap)

/-- The parts have no separator in them. -/
lemma ReadAs.free {parts : List Str} {pairs : List (Str × Str)} (h : ReadAs parts pairs) :
    ∀ part ∈ parts, '&'.toNat ∉ part := by
  intro part hpart hmem
  rcases (h.2 part hpart).2 _ hmem with hquoted | heq
  · exact hquoted.range.2.2.1 rfl
  · exact absurd heq (by decide)

/-- What is encoded is read back, name by name and value by value. -/
theorem parseQsl_urlencode {query : Query} {encoded : Str} (h : urlencode query = some encoded) :
    parseQsl encoded = pairs query := by
  obtain ⟨parts, hparts, hmade⟩ := Option.bind_eq_some_iff.mp h
  cases hmade
  have hread := mapM_quotePairs_readAs hparts
  rw [← hread.1, parseQsl]
  by_cases hempty : parts.flatten = []
  · rw [hempty]
    rfl
  · rw [List.splitOn_intercalate _ hread.free hempty,
      List.filter_eq_self.mpr fun part hpart => decide_eq_true (hread.2 part hpart).1]

lemma mem_of_mem_intercalate {c : ℕ} {parts : List Str} (h : c ∈ [sep].intercalate parts) :
    c = sep ∨ ∃ part ∈ parts, c ∈ part := by
  induction parts with
  | nil => cases h
  | cons part parts ih =>
    cases parts with
    | nil => exact Or.inr ⟨part, by simp, by simpa using h⟩
    | cons part' parts =>
      rw [List.intercalate_cons_cons, List.append_assoc] at h
      rcases List.mem_append.mp h with h | h
      · exact Or.inr ⟨part, by simp, h⟩
      rcases List.mem_append.mp h with h | h
      · exact Or.inl (List.mem_singleton.mp h)
      · exact (ih h).imp id fun ⟨p, hp, hc⟩ => ⟨p, List.mem_cons_of_mem _ hp, hc⟩

/-- Nothing in an encoded query ends it. -/
lemma urlencode_chars {query : Query} {encoded : Str} (h : urlencode query = some encoded) :
    ∀ c ∈ encoded, 32 < c ∧ c ≠ '#'.toNat := by
  obtain ⟨parts, hparts, hmade⟩ := Option.bind_eq_some_iff.mp h
  cases hmade
  intro c hc
  rcases mem_of_mem_intercalate hc with rfl | ⟨part, hpart, hc⟩
  · decide
  rcases ((mapM_quotePairs_readAs hparts).2 part hpart).2 c hc with hquoted | rfl
  · exact ⟨hquoted.range.1, hquoted.range.2.2.2.2.1⟩
  · decide

end HermesRealtime.QueryStrings

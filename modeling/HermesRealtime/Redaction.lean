import HermesRealtime.Text
import Mathlib.Data.List.Basic

/-!
Bounded text has no secret token in it, unless the limit makes one. Redaction removes every token,
and neither the replacement of control characters nor the joining of words puts two characters
together that could be one. The limit can: a token ends at the border of a word, and a run of
characters that went on in the text ends where the text is cut.
-/

namespace HermesRealtime.Redaction

open Values Text

section

variable (P : Platform)

/-- `_SECRET_TOKEN_RE` matches somewhere in the text. -/
def HasToken (text : List Char) : Prop :=
  ∃ before rest, text = before ++ rest ∧ (matchToken P before.getLast? rest).isSome

/-- The text of `_bounded_text` before it is cut. -/
def unboundedText (value : String) : List Char :=
  joinWords ((redact P value.toList).map fun c => if c.toNat < 32 then ' ' else c)

/-- Whether there is a word character on this side of a border. -/
def wordSide (side : Option Char) : Bool := side.any (isWord P)

end

/-- The characters of a token: a prefix, a separator and at least eight more. -/
def IsToken (w : List Char) : Prop :=
  ∃ literal ∈ tokenPrefixes, ∃ sep body, w = literal ++ sep :: body ∧ (sep = '-' ∨ sep = '_') ∧
    8 ≤ body.length ∧ ∀ c ∈ body, isTokenChar c = true

/-- The cut falls behind the characters of a token that go on with a word character. -/
def CutsToken (P : Platform) (text : List Char) (limit : ℕ) : Prop :=
  ∃ before w c rest, text = before ++ w ++ c :: rest ∧ (before ++ w).length = limit ∧ IsToken w ∧
    wordSide P before.getLast? = false ∧ wordSide P w.getLast? = true ∧ isWord P c = true

/-! ### What a token is made of -/

lemma literal_chars : ∀ literal ∈ tokenPrefixes, literal.all isTokenChar = true ∧
    literal.head?.any (fun c => c.isAlphanum && c.isLower) = true := by
  decide

lemma IsToken.chars {w : List Char} (h : IsToken w) : ∀ c ∈ w, isTokenChar c = true := by
  obtain ⟨literal, hliteral, sep, body, rfl, hsep, -, hbody⟩ := h
  intro c hc
  rcases List.mem_append.mp hc with hc | hc
  · exact List.all_eq_true.mp (literal_chars literal hliteral).1 c hc
  · rcases List.mem_cons.mp hc with rfl | hc
    · rcases hsep with rfl | rfl <;> rfl
    · exact hbody c hc

lemma IsToken.head {w : List Char} (h : IsToken w) :
    ∃ c rest, w = c :: rest ∧ c.isAlphanum = true ∧ c.isLower = true := by
  obtain ⟨literal, hliteral, sep, body, rfl, -⟩ := h
  have hhead := (literal_chars literal hliteral).2
  cases literal with
  | nil => cases hhead
  | cons c literal => exact ⟨c, _, rfl, by simpa using hhead⟩

lemma isWord_of_alphanum {P : Platform} {c : Char} (h : c.isAlphanum = true) :
    isWord P c = true := by
  have hrange := alphanum_range h
  rw [isWord, P.isAlnum_ascii c (by omega), h, Bool.true_or]

lemma tokenChar_ne {c : Char} (h : isTokenChar c = true) : c ≠ '[' := by
  rintro rfl
  cases h

/-! ### The pattern -/

lemma dropLiteral_eq_some {literal text rest : List Char} :
    dropLiteral literal text = some rest ↔ text = literal ++ rest := by
  induction literal generalizing text with
  | nil => simp [dropLiteral, eq_comm]
  | cons p literal ih =>
    cases text with
    | nil => simp [dropLiteral]
    | cons c text =>
      by_cases h : p = c
      · simp [dropLiteral, h, ih]
      · simp [dropLiteral, h, Ne.symm h]

variable {P : Platform}

lemma tokenLength_some {body : List Char} {n : ℕ} (h : tokenLength P body = some n) :
    8 ≤ n ∧ n ≤ body.length ∧ (∀ c ∈ body.take n, isTokenChar c = true) ∧
      boundary P (body.take n).getLast? (body.drop n).head? = true := by
  have hfound := List.find?_some h
  have hmem : n < (body.takeWhile isTokenChar).length + 1 := by
    simpa using List.mem_of_find?_eq_some h
  have hprefix : body.takeWhile isTokenChar <+: body := List.takeWhile_prefix isTokenChar
  have hlength := hprefix.length_le
  simp only [Bool.and_eq_true, decide_eq_true_eq] at hfound
  refine ⟨hfound.1, by omega, fun c hc => ?_, hfound.2⟩
  have htake : body.take n = (body.takeWhile isTokenChar).take n := by
    obtain ⟨after, hafter⟩ := hprefix
    conv_lhs => rw [← hafter, List.take_append_of_le_length (by omega)]
  exact List.all_eq_true.mp List.all_takeWhile c (List.mem_of_mem_take (htake ▸ hc))

lemma tokenLength_isSome {body rest : List Char} (hlong : 8 ≤ body.length)
    (hbody : ∀ c ∈ body, isTokenChar c = true)
    (hend : boundary P body.getLast? rest.head? = true) :
    (tokenLength P (body ++ rest)).isSome := by
  have hrun : body.length ≤ ((body ++ rest).takeWhile isTokenChar).length := by
    rw [List.takeWhile_append_of_pos hbody, List.length_append]
    omega
  rw [tokenLength, List.find?_isSome]
  refine ⟨body.length, by simpa using by omega, ?_⟩
  rw [List.take_left, List.drop_left, hend]
  simpa using hlong

/-- A token begins with a word character. -/
lemma IsToken.boundary_iff {w : List Char} (hw : IsToken w) (before : Option Char)
    (rest : List Char) :
    boundary P before (w ++ rest).head? = true ↔ wordSide P before = false := by
  obtain ⟨c, tail, rfl, hc, -⟩ := hw.head
  simp [boundary, wordSide, isWord_of_alphanum hc]

lemma getLast?_token {literal body : List Char} {sep : Char} (h : 8 ≤ body.length) :
    (literal ++ sep :: body).getLast? = body.getLast? := by
  have hne : body ≠ [] := List.ne_nil_of_length_pos (by omega)
  rw [List.getLast?_append_of_ne_nil _ (List.cons_ne_nil _ _), List.getLast?_cons_of_ne_nil hne]

/-- A match is a token between two borders of words. -/
lemma matchToken_some {before : Option Char} {text replacement rest : List Char}
    (h : matchToken P before text = some (replacement, rest)) :
    replacement = redacted ∧ ∃ w, text = w ++ rest ∧ IsToken w ∧
      wordSide P before = false ∧ boundary P w.getLast? rest.head? = true := by
  unfold matchToken at h
  split_ifs at h with hbefore
  obtain ⟨literal, hliteral, hmatch⟩ := List.exists_of_findSome?_eq_some h
  cases hdrop : dropLiteral literal text with
  | none => simp [hdrop] at hmatch
  | some tail =>
    cases tail with
    | nil => simp [hdrop] at hmatch
    | cons sep body =>
      simp only [hdrop, Option.ite_none_right_eq_some, Option.map_eq_some_iff, Prod.mk.injEq]
        at hmatch
      obtain ⟨hsep, n, hn, rfl, rfl⟩ := hmatch
      obtain ⟨hlong, hle, hchars, hend⟩ := tokenLength_some hn
      have hw : IsToken (literal ++ sep :: body.take n) := by
        refine ⟨literal, hliteral, sep, body.take n, rfl, by simpa using hsep, ?_, hchars⟩
        rw [List.length_take]
        omega
      have htext : text = (literal ++ sep :: body.take n) ++ body.drop n := by
        simp [dropLiteral_eq_some.mp hdrop]
      refine ⟨rfl, _, htext, hw, ?_, ?_⟩
      · rwa [htext, hw.boundary_iff] at hbefore
      · rw [getLast?_token (by rw [List.length_take]; omega)]
        exact hend

lemma matchToken_isSome {before : Option Char} {w rest : List Char} (hw : IsToken w)
    (hbefore : wordSide P before = false) (hend : boundary P w.getLast? rest.head? = true) :
    (matchToken P before (w ++ rest)).isSome := by
  have hborder := (hw.boundary_iff before rest).mpr hbefore
  obtain ⟨literal, hliteral, sep, body, rfl, hsep, hlong, hbody⟩ := hw
  rw [getLast?_token hlong] at hend
  rw [matchToken, if_pos hborder, List.findSome?_isSome_iff]
  refine ⟨literal, hliteral, ?_⟩
  have hdrop : dropLiteral literal ((literal ++ sep :: body) ++ rest) =
      some (sep :: (body ++ rest)) :=
    dropLiteral_eq_some.mpr (by simp)
  simp only [hdrop]
  rw [if_pos (by simpa using hsep), Option.isSome_map]
  exact tokenLength_isSome hlong hbody hend

lemma hasToken_iff {text : List Char} : HasToken P text ↔
    ∃ before w rest, text = before ++ (w ++ rest) ∧ IsToken w ∧
      wordSide P before.getLast? = false ∧ boundary P w.getLast? rest.head? = true := by
  constructor
  · rintro ⟨before, rest, rfl, hmatch⟩
    obtain ⟨⟨replacement, rest'⟩, hmatch⟩ := Option.isSome_iff_exists.mp hmatch
    obtain ⟨-, w, rfl, hw, hbefore, hend⟩ := matchToken_some hmatch
    exact ⟨before, w, rest', rfl, hw, hbefore, hend⟩
  · rintro ⟨before, w, rest, rfl, hw, hbefore, hend⟩
    exact ⟨before, w ++ rest, rfl, matchToken_isSome hw hbefore hend⟩

/-- The two texts have the same characters here, and words end at the same side of them. -/
lemma hasToken_of_sides {before w rest before' rest' : List Char} (hw : IsToken w)
    (hbefore : wordSide P before'.getLast? = wordSide P before.getLast?)
    (hrest : wordSide P rest'.head? = wordSide P rest.head?)
    (hstart : wordSide P before.getLast? = false)
    (hend : boundary P w.getLast? rest.head? = true) : HasToken P (before' ++ (w ++ rest')) := by
  refine hasToken_iff.mpr ⟨before', w, rest', rfl, hw, hbefore.trans hstart, ?_⟩
  unfold boundary at hend ⊢
  unfold wordSide at hrest
  rwa [hrest]

/-! ### Redaction leaves no token -/

lemma IsToken.ne_nil {w : List Char} (hw : IsToken w) : w ≠ [] := by
  obtain ⟨c, rest, rfl, -⟩ := hw.head
  exact List.cons_ne_nil c rest

lemma wordSide_bracket (P : Platform) {c : Char} (hc : c = '[' ∨ c = ']') :
    wordSide P (some c) = false := by
  have hascii : P.isAlnum c = c.isAlphanum :=
    P.isAlnum_ascii c (by rcases hc with rfl | rfl <;> decide)
  rcases hc with rfl | rfl <;> simp [wordSide, isWord, hascii]

/-- Before the first replacement the text is what it was; where a replacement follows, a match
begins there. -/
lemma substitute_prefix {fuel : ℕ} {before : Option Char} {text w rest : List Char}
    (h : substitute (matchToken P) fuel before text = w ++ rest) (hw : '[' ∉ w) :
    ∃ rest', text = w ++ rest' ∧ (rest'.head? = rest.head? ∨ rest.head? = some '[' ∧
      wordSide P rest'.head? = true ∧ wordSide P (w.getLast?.or before) = false) := by
  induction w generalizing fuel before text with
  | nil =>
    refine ⟨text, rfl, ?_⟩
    rw [List.nil_append] at h
    subst h
    match fuel, text with
    | 0, _ => exact Or.inl rfl
    | _ + 1, [] => exact Or.inl rfl
    | fuel + 1, c :: cs =>
      rw [substitute]
      cases hfind : matchToken P before (c :: cs) with
      | none => exact Or.inl rfl
      | some found =>
        obtain ⟨replacement, rest⟩ := found
        obtain ⟨rfl, w, htext, hw, hbefore, -⟩ := matchToken_some hfind
        obtain ⟨d, tail, rfl, hd, -⟩ := hw.head
        rw [List.cons_append, List.cons.injEq] at htext
        refine Or.inr ⟨rfl, ?_, hbefore⟩
        rw [htext.1]
        exact isWord_of_alphanum hd
  | cons d w ih =>
    match fuel, text with
    | 0, _ => exact ⟨rest, h, Or.inl rfl⟩
    | _ + 1, [] => cases h
    | fuel + 1, c :: cs =>
      rw [substitute] at h
      cases hfind : matchToken P before (c :: cs) with
      | none =>
        simp only [hfind, List.cons_append, List.cons.injEq] at h
        obtain ⟨rfl, h⟩ := h
        obtain ⟨rest', rfl, hrest⟩ := ih h fun hmem => hw (List.mem_cons_of_mem _ hmem)
        refine ⟨rest', rfl, hrest.imp_right fun ⟨hbracket, hword, hlast⟩ => ⟨hbracket, hword, ?_⟩⟩
        rw [List.getLast?_cons, Option.some_or]
        cases hw' : w.getLast? <;> simpa [hw'] using hlast
      | some found =>
        obtain ⟨replacement, rest'⟩ := found
        obtain ⟨rfl, -⟩ := matchToken_some hfind
        simp only [hfind] at h
        have hd : '[' = d := (List.cons.inj h).1
        exact absurd List.mem_cons_self (hd ▸ hw)

/-- No match begins in the text with this character before it. -/
def Clear (P : Platform) (before : Option Char) (text : List Char) : Prop :=
  ∀ skipped rest, text = skipped ++ rest → matchToken P (skipped.getLast?.or before) rest = none

lemma not_hasToken_of_clear {text : List Char} (h : Clear P none text) : ¬ HasToken P text := by
  rintro ⟨before, rest, rfl, hmatch⟩
  have hnone := h before rest rfl
  rw [Option.or_none] at hnone
  simp [hnone] at hmatch

lemma clear_nil (before : Option Char) : Clear P before [] := by
  intro skipped rest h
  obtain ⟨rfl, rfl⟩ := List.append_eq_nil_iff.mp h.symm
  refine Option.eq_none_iff_forall_ne_some.mpr fun found hfind => ?_
  obtain ⟨-, w, htext, hw, -⟩ := matchToken_some hfind
  exact hw.ne_nil (List.append_eq_nil_iff.mp htext.symm).1

lemma Clear.cons {before : Option Char} {c : Char} {text : List Char}
    (hhere : matchToken P before (c :: text) = none) (h : Clear P (some c) text) :
    Clear P before (c :: text) := by
  intro skipped rest htext
  cases skipped with
  | nil =>
    rw [List.nil_append] at htext
    exact htext ▸ hhere
  | cons d skipped =>
    obtain ⟨rfl, rfl⟩ := List.cons.inj htext
    have hlast : (c :: skipped).getLast?.or before = skipped.getLast?.or (some c) := by
      cases hs : skipped.getLast? <;> simp [List.getLast?_cons, hs]
    rw [hlast]
    exact h skipped rest rfl

lemma redacted_no_lower : ∀ c ∈ redacted, c.isLower = false := by
  have hall : (redacted.all fun c => !c.isLower) = true := by decide
  intro c hc
  simpa using List.all_eq_true.mp hall c hc

/-- Text without small letters is passed over. -/
lemma Clear.append_left {before : Option Char} {passed text : List Char}
    (hpassed : ∀ c ∈ passed, c.isLower = false) (h : Clear P (passed.getLast?.or before) text) :
    Clear P before (passed ++ text) := by
  induction passed generalizing before with
  | nil => exact h
  | cons c passed ih =>
    obtain ⟨hc, hpassed⟩ := List.forall_mem_cons.mp hpassed
    refine Clear.cons ?_ (ih hpassed ?_)
    · refine Option.eq_none_iff_forall_ne_some.mpr fun found hfind => ?_
      obtain ⟨-, w, htext, hw, -⟩ := matchToken_some hfind
      obtain ⟨d, tail, rfl, -, hd⟩ := hw.head
      rw [← (List.cons.inj htext).1, hc] at hd
      cases hd
    · rw [List.getLast?_cons, Option.some_or] at h
      cases hs : passed.getLast? <;> simpa [hs] using h

/-- What is put together from text without a match and replacements has no match in it. The
character before it may be another one than in the text, as long as no word begins or ends there. -/
lemma substitute_clear {fuel : ℕ} {before before' : Option Char} {text : List Char}
    (hfuel : text.length ≤ fuel)
    (hside : wordSide P text.head? = true → wordSide P before' = wordSide P before) :
    Clear P before' (substitute (matchToken P) fuel before text) := by
  induction fuel generalizing before before' text with
  | zero =>
    obtain rfl := List.eq_nil_of_length_eq_zero (Nat.le_zero.mp hfuel)
    exact clear_nil before'
  | succ fuel ih =>
    cases text with
    | nil => exact clear_nil before'
    | cons c cs =>
      cases hfind : matchToken P before (c :: cs) with
      | none =>
        have hout : substitute (matchToken P) (fuel + 1) before (c :: cs) =
            c :: substitute (matchToken P) fuel (some c) cs := by
          rw [substitute, hfind]
        rw [hout]
        refine Clear.cons (Option.eq_none_iff_forall_ne_some.mpr fun found hfound => ?_)
          (ih (Nat.le_of_succ_le_succ hfuel) fun _ => rfl)
        -- a match in what comes out is one in the text
        obtain ⟨-, w, hsplit, hw, hbefore, hend⟩ := matchToken_some hfound
        obtain ⟨rest, htext, hsame | ⟨hbracket, -, hlast⟩⟩ :=
          substitute_prefix (hout.trans hsplit) fun hmem => tokenChar_ne (hw.chars _ hmem) rfl
        · have hhead : wordSide P (some c) = true := by
            obtain ⟨d, tail, rfl, hd, -⟩ := hw.head
            rw [(List.cons.inj htext).1]
            exact isWord_of_alphanum hd
          rw [hside hhead] at hbefore
          rw [← hsame] at hend
          have hmatch := matchToken_isSome hw hbefore hend
          rw [← htext, hfind] at hmatch
          cases hmatch
        · have hd := List.getLast?_eq_some_getLast hw.ne_nil
          rw [hd, Option.some_or] at hlast
          have hnone : boundary P (some (w.getLast hw.ne_nil)) (some '[') = false := by
            have hside := wordSide_bracket P (Or.inl rfl : '[' = '[' ∨ '[' = ']')
            unfold wordSide at hlast hside
            rw [boundary, hlast, hside]
            rfl
          rw [hd, hbracket, hnone] at hend
          cases hend
      | some found =>
        obtain ⟨replacement, rest⟩ := found
        obtain ⟨rfl, w, htext, hw, -, hend⟩ := matchToken_some hfind
        have hconsumed : (c :: cs).take ((c :: cs).length - rest.length) = w := by
          rw [htext, List.length_append, Nat.add_sub_cancel, List.take_left]
        have hshort : rest.length ≤ fuel := by
          have hlength := congrArg List.length htext
          have hpos := List.length_pos_of_ne_nil hw.ne_nil
          simp only [List.length_append, List.length_cons] at hlength hfuel
          omega
        rw [substitute, hfind]
        simp only [hconsumed]
        refine Clear.append_left redacted_no_lower (ih hshort fun hword => ?_)
        have hlast : wordSide P w.getLast? = false := by
          unfold wordSide at hword ⊢
          simpa [boundary, hword] using hend
        rw [hlast]
        exact wordSide_bracket P (Or.inr rfl)

theorem redact_no_token (text : List Char) : ¬ HasToken P (redact P text) :=
  not_hasToken_of_clear (substitute_clear (le_refl _) fun _ => rfl)

/-! ### Control characters and white space -/

/-- What stands for a character in the cleaned text. -/
def cleanChar (c : Char) : Char := if c.toNat < 32 then ' ' else c

lemma isWord_cleanChar (P : Platform) (c : Char) : isWord P (cleanChar c) = isWord P c := by
  unfold cleanChar
  split
  case isTrue hcontrol =>
    have hblank : isWord P ' ' = false := by
      simp [isWord, P.isAlnum_ascii ' ' (by decide)]
    have hnot : c.isAlphanum = false := by
      refine Bool.eq_false_iff.mpr fun h => ?_
      have hrange := alphanum_range h
      omega
    have hne : c ≠ '_' := by
      rintro rfl
      exact absurd hcontrol (by decide)
    rw [hblank, isWord, P.isAlnum_ascii c (by omega), hnot]
    simp [hne]
  case isFalse => rfl

lemma wordSide_map_cleanChar (P : Platform) (side : Option Char) :
    wordSide P (side.map cleanChar) = wordSide P side := by
  cases side with
  | none => rfl
  | some c => exact isWord_cleanChar P c

lemma cleanChar_token {c : Char} (h : isTokenChar (cleanChar c) = true) : cleanChar c = c := by
  unfold cleanChar at h ⊢
  split
  case isTrue hcontrol => simp [hcontrol, isTokenChar] at h
  case isFalse => rfl

lemma hasToken_of_clean {text : List Char} (h : HasToken P (text.map cleanChar)) :
    HasToken P text := by
  obtain ⟨before, w, rest, htext, hw, hstart, hend⟩ := hasToken_iff.mp h
  obtain ⟨before', tail, rfl, rfl, htail⟩ := List.map_eq_append_iff.mp htext
  obtain ⟨w', rest', rfl, rfl, rfl⟩ := List.map_eq_append_iff.mp htail
  have hsame : w'.map cleanChar = w' := by
    refine (List.map_congr_left fun c hc => ?_).trans (List.map_id w')
    exact cleanChar_token (hw.chars _ (List.mem_map_of_mem hc))
  rw [hsame] at hw hend
  refine hasToken_of_sides hw ?_ ?_ hstart hend
  · rw [List.getLast?_map, wordSide_map_cleanChar]
  · rw [List.head?_map, wordSide_map_cleanChar]

/-! ### Words -/

/-- A word of the text stands between white space. -/
lemma mem_wordsFrom {acc text v : List Char} (h : v ∈ wordsFrom acc text) :
    ∃ p q, acc.reverse ++ text = p ++ (v ++ q) ∧ (∀ c ∈ p.getLast?, isSpace c = true) ∧
      ∀ c ∈ q.head?, isSpace c = true := by
  induction text generalizing acc with
  | nil =>
    by_cases hacc : acc = []
    · simp [wordsFrom, hacc] at h
    · obtain rfl : v = acc.reverse := by simpa [wordsFrom, hacc] using h
      exact ⟨[], [], by simp, by simp, by simp⟩
  | cons c text ih =>
    cases hc : isSpace c with
    | false =>
      simp only [wordsFrom, hc, Bool.false_eq_true, if_false] at h
      simpa using ih h
    | true =>
      -- what comes later stands behind the white space
      have hlater : v ∈ wordsFrom [] text → ∃ p q, acc.reverse ++ c :: text = p ++ (v ++ q) ∧
          (∀ d ∈ p.getLast?, isSpace d = true) ∧ ∀ d ∈ q.head?, isSpace d = true := by
        intro h
        obtain ⟨p, q, htext, hp, hq⟩ := ih h
        rw [List.reverse_nil, List.nil_append] at htext
        refine ⟨acc.reverse ++ c :: p, q, by simp [htext], fun d hd => ?_, hq⟩
        rw [List.getLast?_append_cons, List.getLast?_cons] at hd
        cases hlast : p.getLast? with
        | none =>
          obtain rfl : c = d := by simpa [hlast] using hd
          exact hc
        | some e =>
          obtain rfl : e = d := by simpa [hlast] using hd
          exact hp e hlast
      by_cases hacc : acc = []
      · simp only [wordsFrom, hc, hacc, if_true] at h
        exact hlater h
      · simp only [wordsFrom, hc, hacc, if_true, if_false, List.mem_cons] at h
        rcases h with rfl | h
        · exact ⟨[], c :: text, by simp, by simp, by simpa using hc⟩
        · exact hlater h

/-- What has no blank in it is inside one of the words that have been joined. -/
lemma mem_of_intercalate {words : List (List Char)} {before w rest : List Char}
    (h : [' '].intercalate words = before ++ (w ++ rest)) (hne : w ≠ []) (hblank : ' ' ∉ w) :
    ∃ v ∈ words, ∃ a b, v = a ++ (w ++ b) ∧
      (before.getLast? = a.getLast? ∨ a = [] ∧ before.getLast? = some ' ') ∧
      (rest.head? = b.head? ∨ b = [] ∧ rest.head? = some ' ') := by
  induction words generalizing before with
  | nil =>
    have hnil := (List.append_eq_nil_iff.mp h.symm).2
    exact absurd (List.append_eq_nil_iff.mp hnil).1 hne
  | cons v words ih =>
    cases words with
    | nil =>
      rw [List.intercalate_singleton] at h
      exact ⟨v, List.mem_cons_self, before, rest, h, Or.inl rfl, Or.inl rfl⟩
    | cons next words =>
      rw [List.intercalate_cons_cons, List.append_assoc, List.singleton_append] at h
      rcases List.append_eq_append_iff.mp h with ⟨later, rfl, hlater⟩ | ⟨inside, rfl, hinside⟩
      · -- it begins after the first word
        cases later with
        | nil =>
          obtain ⟨c, w, rfl⟩ := List.exists_cons_of_ne_nil hne
          exact absurd ((List.cons.inj hlater).1 ▸ List.mem_cons_self) hblank
        | cons c later =>
          rw [List.cons_append, List.cons.injEq] at hlater
          obtain ⟨rfl, hlater⟩ := hlater
          obtain ⟨u, hu, a, b, hsplit, hbefore, hrest⟩ := ih hlater
          refine ⟨u, List.mem_cons_of_mem v hu, a, b, hsplit, ?_, hrest⟩
          rw [List.getLast?_append_cons, List.getLast?_cons]
          cases hlast : later.getLast? with
          | none =>
            rw [hlast] at hbefore
            exact Or.inr ⟨by simpa [eq_comm] using hbefore, rfl⟩
          | some d => simpa [hlast] using hbefore
      · rcases List.append_eq_append_iff.mp hinside.symm with ⟨more, rfl, hmore⟩ | ⟨b, rfl, hb⟩
        · cases more with
          | nil =>
            refine ⟨_, List.mem_cons_self, before, [], by simp, Or.inl rfl, ?_⟩
            rw [List.nil_append] at hmore
            exact Or.inr ⟨rfl, by rw [← hmore]; rfl⟩
          | cons c more =>
            obtain ⟨rfl, -⟩ := List.cons.inj hmore
            exact absurd (List.mem_append_right _ List.mem_cons_self) hblank
        · refine ⟨_, List.mem_cons_self, before, b, rfl, Or.inl rfl, ?_⟩
          cases b with
          | nil => exact Or.inr ⟨rfl, by rw [hb]; rfl⟩
          | cons c b => exact Or.inl (by rw [hb]; rfl)

/-- White space is no part of a word. -/
def SpacesSeparate (P : Platform) : Prop := ∀ c, isSpace c = true → P.isAlnum c = false

lemma SpacesSeparate.wordSide {side : Option Char} (hspace : SpacesSeparate P)
    (h : ∀ c ∈ side, isSpace c = true) : wordSide P side = false := by
  cases side with
  | none => rfl
  | some c =>
    have hc := h c rfl
    have hne : c ≠ '_' := by
      rintro rfl
      cases hc
    simp [Redaction.wordSide, isWord, hspace c hc, hne]

lemma wordSide_append_last {p a : List Char} (hp : wordSide P p.getLast? = false) :
    wordSide P (p ++ a).getLast? = wordSide P a.getLast? := by
  cases a with
  | nil => rw [List.append_nil, hp]; rfl
  | cons c a => rw [List.getLast?_append_of_ne_nil _ (List.cons_ne_nil c a)]

lemma wordSide_append_head {b q : List Char} (hq : wordSide P q.head? = false) :
    wordSide P (b ++ q).head? = wordSide P b.head? := by
  cases b with
  | nil => rw [List.nil_append, hq]; rfl
  | cons c b => rfl

lemma hasToken_of_joinWords (hspace : SpacesSeparate P) {text : List Char}
    (h : HasToken P (joinWords text)) : HasToken P text := by
  obtain ⟨before, w, rest, htext, hw, hstart, hend⟩ := hasToken_iff.mp h
  have hblank : ' ' ∉ w := fun hmem => by cases hw.chars _ hmem
  obtain ⟨v, hv, a, b, rfl, hbefore, hrest⟩ := mem_of_intercalate htext hw.ne_nil hblank
  obtain ⟨p, q, hsplit, hp, hq⟩ := mem_wordsFrom hv
  rw [List.reverse_nil, List.nil_append] at hsplit
  have hsides : text = (p ++ a) ++ (w ++ (b ++ q)) := by simp [hsplit]
  have hspaceSide : wordSide P (some ' ') = false := hspace.wordSide (by simp [isSpace])
  rw [hsides]
  refine hasToken_of_sides hw ?_ ?_ hstart hend
  · rw [wordSide_append_last (hspace.wordSide hp)]
    rcases hbefore with hlast | ⟨rfl, hlast⟩
    · rw [hlast]
    · rw [hlast, hspaceSide]
      rfl
  · rw [wordSide_append_head (hspace.wordSide hq)]
    rcases hrest with hhead | ⟨rfl, hhead⟩
    · rw [hhead]
    · rw [hhead, hspaceSide]
      rfl

lemma unboundedText_no_token (hspace : SpacesSeparate P) (value : String) :
    ¬ HasToken P (unboundedText P value) := fun h =>
  redact_no_token value.toList (hasToken_of_clean (hasToken_of_joinWords hspace h))

/-! ### The cut -/

lemma boundary_eq (before after : Option Char) :
    boundary P before after = (wordSide P before != wordSide P after) := rfl

/-- Where the text has no token, the cut makes one exactly behind the characters of a token that
go on. -/
lemma hasToken_take_iff {text : List Char} (h : ¬ HasToken P text) (limit : ℕ) :
    HasToken P (text.take limit) ↔ CutsToken P text limit := by
  constructor
  · intro hcut
    obtain ⟨before, w, rest, htake, hw, hstart, hend⟩ := hasToken_iff.mp hcut
    have htext : text = before ++ (w ++ (rest ++ text.drop limit)) := by
      conv_lhs => rw [← List.take_append_drop limit text, htake]
      simp
    -- the token ends at the cut, and there with a word character
    have hside : wordSide P (rest ++ text.drop limit).head? ≠ wordSide P rest.head? := by
      intro hsame
      rw [htext] at h
      exact h (hasToken_of_sides hw rfl hsame hstart hend)
    cases rest with
    | cons c rest => exact absurd rfl hside
    | nil =>
      rw [List.nil_append] at hside htext
      have hlast : wordSide P w.getLast? = true := by
        rw [boundary_eq] at hend
        simpa [wordSide] using hend
      cases hdrop : text.drop limit with
      | nil => simp [hdrop] at hside
      | cons c rest =>
        have hword : isWord P c = true := by simpa [hdrop, wordSide] using hside
        refine ⟨before, w, c, rest, by rw [htext, hdrop]; simp, ?_, hw, hstart, hlast, hword⟩
        have hlong : limit < text.length := by
          refine lt_of_not_ge fun hle => ?_
          rw [List.drop_eq_nil_of_le hle] at hdrop
          cases hdrop
        have hlength := congrArg List.length htake
        rw [List.length_take, Nat.min_eq_left hlong.le] at hlength
        simpa using hlength.symm
  · rintro ⟨before, w, c, rest, rfl, rfl, hw, hstart, hlast, -⟩
    rw [List.take_left]
    refine hasToken_iff.mpr ⟨before, w, [], by simp, hw, hstart, ?_⟩
    rw [boundary_eq, hlast]
    rfl

/-- **Bounded text has a secret token in it exactly when the limit cuts one out** of a longer run of
characters, which as a whole was none. -/
theorem boundedText_no_token_iff (hspace : SpacesSeparate P) (value : String) (limit : ℕ) :
    ¬ HasToken P (boundedText P value limit).toList ↔
      ¬ CutsToken P (unboundedText P value) limit := by
  have hbounded : (boundedText P value limit).toList = (unboundedText P value).take limit := by
    simp only [boundedText, unboundedText, truncate, String.toList_ofList]
  rw [hbounded, hasToken_take_iff (unboundedText_no_token hspace value)]

/-- A platform that knows one letter more than ASCII has. -/
def latinPlatform : Platform where
  isAlnum c := c.isAlphanum || c == 'é'
  isAlnum_ascii c hc := by
    have hne : c ≠ 'é' := by
      rintro rfl
      exact absurd hc (by decide)
    simp [hne]
  lower := id
  jsonLoads := asciiPlatform.jsonLoads
  sha256Hex := id
  isSurrogate := fun _ => false
  isSurrogate_private := fun _ h => absurd h Bool.false_ne_true
  isEscape := fun _ => false

lemma latinPlatform_spaces : SpacesSeparate latinPlatform := by
  intro c hc
  have hnot : c.isAlphanum = false := by
    refine Bool.eq_false_iff.mpr fun h => ?_
    have hrange := alphanum_range h
    simp only [isSpace, Bool.or_eq_true, Bool.and_eq_true, decide_eq_true_eq, beq_iff_eq] at hc
    omega
  have hne : c ≠ 'é' := by
    rintro rfl
    exact absurd hc (by decide)
  simp [latinPlatform, hnot, hne]

theorem boundedText_uncut :
    ¬ HasToken latinPlatform (boundedText latinPlatform "sk-12345678é" 400).toList := by
  refine (boundedText_no_token_iff latinPlatform_spaces "sk-12345678é" 400).mpr ?_
  rintro ⟨before, w, c, rest, htext, hlength, -⟩
  have hshort := congrArg List.length htext
  have hlong : (unboundedText latinPlatform "sk-12345678é").length = 12 := by decide +kernel
  rw [List.length_append, hlength, hlong, List.length_cons] at hshort
  omega

/-- The letter behind the token keeps the pattern from matching, until the limit takes it away. -/
theorem boundedText_cut : boundedText latinPlatform "sk-12345678é" 11 = "sk-12345678" ∧
    HasToken latinPlatform (boundedText latinPlatform "sk-12345678é" 11).toList := by
  have hbounded : boundedText latinPlatform "sk-12345678é" 11 = "sk-12345678" := by decide +kernel
  refine ⟨hbounded, [], "sk-12345678".toList, by rw [hbounded]; rfl, by decide +kernel⟩

/-! ### Texts of ASCII -/

/-- Where every word character is one that a token may have, a token goes on to the end of its
word. -/
lemma exists_whole_token {w rest : List Char} (hw : IsToken w)
    (hlast : wordSide P w.getLast? = true) (hascii : ∀ c ∈ rest, c.toNat < 128) :
    ∃ whole rest', w ++ rest = whole ++ rest' ∧ IsToken whole ∧
      boundary P whole.getLast? rest'.head? = true := by
  induction rest generalizing w with
  | nil => exact ⟨w, [], rfl, hw, by rw [boundary_eq, hlast]; rfl⟩
  | cons c rest ih =>
    cases hword : isWord P c with
    | false =>
      refine ⟨w, c :: rest, rfl, hw, ?_⟩
      have hside : wordSide P (c :: rest).head? = false := by simpa [wordSide] using hword
      rw [boundary_eq, hlast, hside]
      rfl
    | true =>
      obtain ⟨hc, hrest⟩ := List.forall_mem_cons.mp hascii
      have hchar : isTokenChar c = true := by
        rw [isWord, P.isAlnum_ascii c hc] at hword
        rw [isTokenChar, hword, Bool.true_or]
      obtain ⟨literal, hliteral, sep, body, rfl, hsep, hlong, hbody⟩ := hw
      have hmore : IsToken (literal ++ sep :: body ++ [c]) := by
        refine ⟨literal, hliteral, sep, body ++ [c], by simp, hsep, by simp; omega, ?_⟩
        intro d hd
        rcases List.mem_append.mp hd with hd | hd
        · exact hbody d hd
        · obtain rfl := List.mem_singleton.mp hd
          exact hchar
      have hend : wordSide P (literal ++ sep :: body ++ [c]).getLast? = true := by
        rw [List.getLast?_append_cons, List.getLast?_singleton]
        simpa [wordSide] using hword
      obtain ⟨whole, rest', hsplit, hwhole⟩ := ih hmore hend hrest
      exact ⟨whole, rest', by rw [← hsplit]; simp, hwhole⟩

lemma hasToken_of_cut {text : List Char} {limit : ℕ} (hascii : ∀ c ∈ text, c.toNat < 128)
    (h : CutsToken P text limit) : HasToken P text := by
  obtain ⟨before, w, c, rest, rfl, -, hw, hstart, hlast, -⟩ := h
  have hrest : ∀ d ∈ c :: rest, d.toNat < 128 := fun d hd =>
    hascii d (List.mem_append_right _ hd)
  obtain ⟨whole, rest', hsplit, hwhole, hend⟩ := exists_whole_token hw hlast hrest
  refine hasToken_iff.mpr ⟨before, whole, rest', ?_, hwhole, hstart, hend⟩
  rw [List.append_assoc, hsplit]

lemma dropLetters_suffix {letters text rest : List Char}
    (h : dropLetters letters text = some rest) : rest <:+ text := by
  induction letters generalizing text with
  | nil =>
    obtain rfl := Option.some.inj h
    exact List.suffix_refl _
  | cons p letters ih =>
    cases text with
    | nil => cases h
    | cons c text =>
      rw [dropLetters, Option.ite_none_right_eq_some] at h
      exact (ih h.2).trans (List.suffix_cons c text)

lemma dropPieces_suffix {pieces : List Piece} {text rest : List Char}
    (h : rest ∈ dropPieces pieces text) : rest <:+ text := by
  induction pieces generalizing text with
  | nil =>
    obtain rfl := List.mem_singleton.mp h
    exact List.suffix_refl _
  | cons piece pieces ih =>
    cases piece with
    | letters s =>
      rw [dropPieces] at h
      cases hdrop : dropLetters s text with
      | none => simp [hdrop] at h
      | some tail =>
        rw [hdrop] at h
        exact (ih h).trans (dropLetters_suffix hdrop)
    | separator =>
      cases text with
      | nil => exact ih h
      | cons c text =>
        simp only [dropPieces] at h
        split_ifs at h
        · rcases List.mem_append.mp h with h | h
          · exact (ih h).trans (List.suffix_cons c text)
          · exact ih h
        · exact ih h

lemma assignedSecret_suffix {text after : List Char} {n : ℕ}
    (h : assignedSecret text = some (n, after)) : after <:+ text := by
  unfold assignedSecret at h
  dsimp only at h
  split at h
  · rename_i c cs hdrop
    split_ifs at h
    obtain ⟨-, rfl⟩ := Prod.mk.inj (Option.some.inj h)
    have hcs : cs <:+ text :=
      (List.suffix_cons c cs).trans (hdrop ▸ List.dropWhile_suffix isSpace)
    exact ((List.dropWhile_suffix _).trans (List.dropWhile_suffix _)).trans hcs
  · cases h

/-- What takes the place of a match, and what comes after it, is made of the text. -/
def Made (find : Option Char → List Char → Option (List Char × List Char)) : Prop :=
  ∀ before text replacement rest, find before text = some (replacement, rest) →
    rest <:+ text ∧ ∀ c ∈ replacement, c ∈ text ∨ c ∈ redacted

lemma made_matchToken : Made (matchToken P) := by
  intro before text replacement rest h
  obtain ⟨rfl, w, rfl, -⟩ := matchToken_some h
  exact ⟨List.suffix_append w rest, fun c hc => Or.inr hc⟩

lemma made_matchAssignment : Made (matchAssignment P) := by
  intro before text replacement after h
  unfold matchAssignment at h
  split_ifs at h
  obtain ⟨rest, hrest, hmatch⟩ := List.exists_of_findSome?_eq_some h
  obtain ⟨pieces, -, hpieces⟩ := List.mem_flatMap.mp hrest
  have hsuffix := dropPieces_suffix hpieces
  dsimp only at hmatch
  split_ifs at hmatch
  obtain ⟨⟨n, after'⟩, hsecret, heq⟩ := Option.map_eq_some_iff.mp hmatch
  obtain ⟨rfl, rfl⟩ := Prod.mk.inj heq
  refine ⟨(assignedSecret_suffix hsecret).trans hsuffix, fun c hc => ?_⟩
  rcases List.mem_append.mp hc with hc | hc
  · rcases List.mem_append.mp hc with hc | hc
    · exact Or.inl (List.mem_of_mem_take hc)
    · exact Or.inl (hsuffix.subset (List.mem_of_mem_take hc))
  · exact Or.inr hc

lemma mem_substitute {find : Option Char → List Char → Option (List Char × List Char)}
    (hfind : Made find) {fuel : ℕ} {before : Option Char} {text : List Char} {c : Char}
    (h : c ∈ substitute find fuel before text) : c ∈ text ∨ c ∈ redacted := by
  induction fuel generalizing before text with
  | zero => exact Or.inl h
  | succ fuel ih =>
    cases text with
    | nil => cases h
    | cons d text =>
      rw [substitute] at h
      split at h
      · rename_i replacement rest hmatch
        obtain ⟨hrest, hreplacement⟩ := hfind _ _ _ _ hmatch
        rcases List.mem_append.mp h with h | h
        · exact hreplacement c h
        · exact (ih h).imp_left fun hc => hrest.subset hc
      · rcases List.mem_cons.mp h with rfl | h
        · exact Or.inl List.mem_cons_self
        · exact (ih h).imp_left (List.mem_cons_of_mem d)

lemma mem_redact {text : List Char} {c : Char} (h : c ∈ redact P text) :
    c ∈ text ∨ c ∈ redacted := by
  rcases mem_substitute made_matchToken h with h | h
  · exact mem_substitute made_matchAssignment h
  · exact Or.inr h

lemma mem_intercalate {words : List (List Char)} {c : Char} (h : c ∈ [' '].intercalate words) :
    (∃ v ∈ words, c ∈ v) ∨ c = ' ' := by
  induction words with
  | nil => cases h
  | cons v words ih =>
    cases words with
    | nil =>
      rw [List.intercalate_singleton] at h
      exact Or.inl ⟨v, List.mem_cons_self, h⟩
    | cons next words =>
      rw [List.intercalate_cons_cons, List.append_assoc, List.singleton_append] at h
      rcases List.mem_append.mp h with h | h
      · exact Or.inl ⟨v, List.mem_cons_self, h⟩
      · rcases List.mem_cons.mp h with rfl | h
        · exact Or.inr rfl
        · exact (ih h).imp_left fun ⟨u, hu, hc⟩ => ⟨u, List.mem_cons_of_mem v hu, hc⟩

lemma mem_joinWords {text : List Char} {c : Char} (h : c ∈ joinWords text) :
    c ∈ text ∨ c = ' ' := by
  rcases mem_intercalate h with ⟨word, hword, hc⟩ | hblank
  · obtain ⟨p, q, hsplit, -⟩ := mem_wordsFrom hword
    rw [List.reverse_nil, List.nil_append] at hsplit
    rw [hsplit]
    exact Or.inl (by simp [hc])
  · exact Or.inr hblank

lemma unboundedText_ascii {value : String} (h : ∀ c ∈ value.toList, c.toNat < 128) :
    ∀ c ∈ unboundedText P value, c.toNat < 128 := by
  have hredacted : ∀ c ∈ redacted, c.toNat < 128 := by
    have hall : redacted.all (fun c => decide (c.toNat < 128)) = true := by decide
    exact fun c hc => of_decide_eq_true (List.all_eq_true.mp hall c hc)
  intro c hc
  rcases mem_joinWords hc with hc | rfl
  · obtain ⟨d, hd, rfl⟩ := List.mem_map.mp hc
    split
    · decide
    · exact (mem_redact hd).elim (h d) (hredacted d)
  · decide

/-- **Bounded text of ASCII has no secret token in it**, wherever the limit cuts. -/
theorem boundedText_ascii (hspace : SpacesSeparate P) {value : String}
    (h : ∀ c ∈ value.toList, c.toNat < 128) (limit : ℕ) :
    ¬ HasToken P (boundedText P value limit).toList := by
  have hwhole := unboundedText_no_token hspace value
  have hbounded : (boundedText P value limit).toList = (unboundedText P value).take limit := by
    simp only [boundedText, unboundedText, truncate, String.toList_ofList]
  rw [hbounded, hasToken_take_iff hwhole]
  exact fun hcut => hwhole (hasToken_of_cut (unboundedText_ascii h) hcut)

end HermesRealtime.Redaction

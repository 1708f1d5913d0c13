import HermesRealtime.Timing
import Mathlib.Data.List.Infix

/-!
What the sanitizing of timing data hides: the values under secret keys, whatever they are, and
session descriptions but for their hashes; and where it leaves a bearer credential as it is.
-/

namespace HermesRealtime.Sanitizing

open Values Text Timing

variable {P : Platform}

/-- What Unicode says of `str.lower`: the letters of ASCII are lowered one by one, and a text with
other characters stays one, but for the Kelvin sign. -/
structure Lowers (P : Platform) : Prop where
  ascii : ∀ s : String, (∀ c ∈ s.toList, c.toNat < 128) →
    P.lower s = String.ofList (s.toList.map Char.toLower)
  foreign : ∀ s : String, ∀ c ∈ s.toList, 128 ≤ c.toNat →
    ∃ d ∈ (P.lower s).toList, 128 ≤ d.toNat ∨ d = 'k'

lemma asciiPlatform_lowers : Lowers asciiPlatform where
  ascii _ _ := rfl
  foreign s c hc hlarge := by
    refine ⟨c, ?_, .inl hlarge⟩
    have hsame : c.toLower = c := by
      refine dif_neg ?_
      rintro ⟨-, hsmall⟩
      have : c.toNat ≤ 90 := UInt32.le_iff_toNat_le.mp hsmall
      omega
    simpa [asciiPlatform] using ⟨c, hc, hsame⟩

/-! ### Keys with rules of their own are not secret -/

/-- The blanks of camel case are not seen by what filters them out. -/
lemma splitCamelCase_filter {g : Char → Char} (hg : isSpace (g ' ') = true) (l : List Char) :
    ((splitCamelCase l).map g).filter (fun c => !isSpace c) =
      (l.map g).filter fun c => !isSpace c := by
  induction l using splitCamelCase.induct with
  | case1 a b rest hcamel ih =>
    rw [splitCamelCase, if_pos hcamel]
    simp only [List.map_cons] at ih
    simp [List.filter_cons, hg, ih]
  | case2 a b rest hcamel ih =>
    rw [splitCamelCase, if_neg hcamel]
    simp only [List.map_cons] at ih
    simp [List.filter_cons, ih]
  | case3 rest h =>
    rw [splitCamelCase]
    exact h

/-- Neither white space nor a mark between words. -/
def isLetter (c : Char) : Bool := !isSpace c && c != '_' && c != '-'

/-- The key with its marks made blanks, character by character. -/
def normalize (c : Char) : Char := if c == '_' || c == '-' then ' ' else c

lemma letters_normalize {c : Char} (hc : c.toNat < 128) :
    (!isSpace (normalize c).toLower) = isLetter c.toLower ∧
      (isLetter c.toLower = true → (normalize c).toLower = c.toLower) := by
  have hall : ∀ n < 128, (!isSpace (normalize (Char.ofNat n)).toLower) =
      isLetter (Char.ofNat n).toLower ∧ (isLetter (Char.ofNat n).toLower = true →
        (normalize (Char.ofNat n)).toLower = (Char.ofNat n).toLower) := by decide +kernel
  simpa using hall c.toNat hc

lemma filter_normalize {l : List Char} (hl : ∀ c ∈ l, c.toNat < 128) :
    (l.map fun c => (normalize c).toLower).filter (fun c => !isSpace c) =
      (l.map Char.toLower).filter isLetter := by
  induction l with
  | nil => rfl
  | cons c cs ih =>
    obtain ⟨hletter, hsame⟩ := letters_normalize (hl c (by simp))
    have hrest := ih fun d hd => hl d (by simp [hd])
    simp only [List.map_cons, List.filter_cons, hletter, hrest]
    split_ifs with h
    · rw [hsame h]
    · rfl

lemma splitCamelCase_forall {p : Char → Prop} (hblank : p ' ') {l : List Char}
    (hl : ∀ c ∈ l, p c) : ∀ c ∈ splitCamelCase l, p c := by
  induction l using splitCamelCase.induct with
  | case1 a b rest hcamel ih =>
    rw [splitCamelCase, if_pos hcamel]
    have hrest := ih fun c hc => hl c (List.mem_cons_of_mem _ hc)
    simpa [hblank, hl a (by simp)] using hrest
  | case2 a b rest hcamel ih =>
    rw [splitCamelCase, if_neg hcamel]
    have hrest := ih fun c hc => hl c (List.mem_cons_of_mem _ hc)
    simpa [hl a (by simp)] using hrest
  | case3 rest h =>
    rw [splitCamelCase]
    · exact hl
    · exact h

/-- The words of a key, written together. -/
lemma keyComponents_letters (hP : Lowers P) {key : String}
    (hkey : ∀ c ∈ key.toList, c.toNat < 128) :
    (keyComponents P key).flatMap String.toList = (P.lower key).toList.filter isLetter := by
  have hsplit : ∀ c ∈ (splitCamelCase key.toList).map normalize, c.toNat < 128 := by
    simp only [List.mem_map, forall_exists_index, and_imp, forall_apply_eq_imp_iff₂]
    refine splitCamelCase_forall (by decide) fun c hc => ?_
    rw [normalize]
    split
    · decide
    · exact hkey c hc
  have hcomponents : keyComponents P key =
      (wordsFrom []
        (P.lower (String.ofList ((splitCamelCase key.toList).map normalize))).toList).map
        String.ofList := rfl
  rw [hcomponents, hP.ascii _ (by simpa using hsplit), hP.ascii _ hkey, List.flatMap_map]
  simp only [String.toList_ofList, List.flatMap_id', List.map_map]
  rw [wordsFrom_flatten]
  exact (splitCamelCase_filter (by decide) _).trans (filter_normalize hkey)

/-- The names of keys that are recorded as a hash, or sanitized like a value. -/
def plainNames : List String := sdpKeys.map Prod.fst ++ correlationKeys

lemma ascii_of_plain (hP : Lowers P) {key : String} (h : P.lower key ∈ plainNames) :
    ∀ c ∈ key.toList, c.toNat < 128 := by
  have hnames : ∀ name ∈ plainNames, name.toList.all (fun d => d.toNat < 128 && d != 'k') := by
    decide +kernel
  simp only [List.all_eq_true, Bool.and_eq_true, decide_eq_true_eq, bne_iff_ne] at hnames
  intro c hc
  by_contra hlarge
  obtain ⟨d, hd, hforeign⟩ := hP.foreign key c hc (by omega)
  obtain ⟨hsmall, hk⟩ := hnames _ h d hd
  rcases hforeign with hforeign | hforeign
  · omega
  · exact hk hforeign

/-- A secret key has the letters of a secret word in a row. -/
lemma secret_infix {key : String} (h : isSecretKey P key = true) :
    ∃ shape ∈ secretKeyShapes,
      shape.flatMap String.toList <:+: (keyComponents P key).flatMap String.toList := by
  simp only [isSecretKey, Bool.and_eq_true, List.any_eq_true, List.mem_tails,
    List.isPrefixOf_iff_prefix] at h
  obtain ⟨-, shape, hshape, rest, ⟨front, hfront⟩, ⟨back, hback⟩⟩ := h
  refine ⟨shape, hshape, front.flatMap String.toList, back.flatMap String.toList, ?_⟩
  rw [← hfront, ← hback]
  simp

/-- **A key with a rule of its own is not secret.** -/
lemma not_secret_of_plain (hP : Lowers P) {key : String} (h : P.lower key ∈ plainNames) :
    isSecretKey P key = false := by
  have hnames : ∀ name ∈ plainNames, ∀ shape ∈ secretKeyShapes,
      ¬ shape.flatMap String.toList <:+: name.toList.filter isLetter := by
    decide +kernel
  by_contra hsecret
  obtain ⟨shape, hshape, hinfix⟩ := secret_infix (Bool.not_eq_false _ ▸ hsecret)
  rw [keyComponents_letters hP (ascii_of_plain hP h)] at hinfix
  exact hnames _ h shape hshape hinfix

/-! ### What is hidden -/

mutual

/-- The two values differ only in what stands under secret keys, and in session descriptions of the
same hash, at any depth. -/
inductive Alike (P : Platform) : Json → Json → Prop
  | refl (value : Json) : Alike P value value
  | arr {xs ys : List Json} : AlikeItems P xs ys → Alike P (.arr xs) (.arr ys)
  | obj {xs ys : JsonDict} : AlikeFields P xs ys → Alike P (.obj xs) (.obj ys)

inductive AlikeItems (P : Platform) : List Json → List Json → Prop
  | nil : AlikeItems P [] []
  | cons {x y : Json} {xs ys : List Json} :
      Alike P x y → AlikeItems P xs ys → AlikeItems P (x :: xs) (y :: ys)

inductive AlikeFields (P : Platform) : JsonDict → JsonDict → Prop
  | nil : AlikeFields P [] []
  | alike {key : String} {x y : Json} {xs ys : JsonDict} :
      Alike P x y → AlikeFields P xs ys → AlikeFields P ((key, x) :: xs) ((key, y) :: ys)
  | secret {key : String} {x y : Json} {xs ys : JsonDict} : isSecretKey P key = true →
      AlikeFields P xs ys → AlikeFields P ((key, x) :: xs) ((key, y) :: ys)
  | sdp {key s t : String} {xs ys : JsonDict} : P.lower key ∈ sdpKeys.map Prod.fst →
      P.sha256Hex s = P.sha256Hex t → AlikeFields P xs ys →
      AlikeFields P ((key, .str s) :: xs) ((key, .str t) :: ys)

end

lemma sdpHash_of_secret (hP : Lowers P) {key : String} (h : isSecretKey P key = true) (x : Json) :
    sdpHash P key x = none := by
  have hnot : P.lower key ∉ sdpKeys.map Prod.fst := fun hmem => by
    simp [not_secret_of_plain hP (List.mem_append_left _ hmem)] at h
  have hlookup : sdpKeys.lookup (P.lower key) = none := by
    rw [List.lookup_eq_none_iff]
    intro pair hpair
    simpa using fun heq : P.lower key = pair.1 => hnot (List.mem_map.mpr ⟨pair, hpair, heq.symm⟩)
  simp [sdpHash, hlookup]

lemma not_correlation_of_secret (hP : Lowers P) {key : String} (h : isSecretKey P key = true) :
    P.lower key ∉ correlationKeys := fun hmem => by
  simp [not_secret_of_plain hP (List.mem_append_right _ hmem)] at h

/-- Values that are alike have the same hash, or none. -/
lemma Alike.sdpHash {key : String} {x y : Json} (h : Alike P x y) :
    sdpHash P key x = sdpHash P key y := by
  cases h with
  | refl => rfl
  | arr => simp [Timing.sdpHash]
  | obj => simp [Timing.sdpHash]

lemma sdpHash_congr {key s t : String} (hkey : P.lower key ∈ sdpKeys.map Prod.fst)
    (h : P.sha256Hex s = P.sha256Hex t) : ∃ hash, sdpHash P key (.str s) = some hash ∧
      sdpHash P key (.str t) = some hash := by
  obtain ⟨hashKey, hlookup⟩ : ∃ hashKey, sdpKeys.lookup (P.lower key) = some hashKey := by
    obtain ⟨pair, hpair, heq⟩ := List.mem_map.mp hkey
    refine Option.isSome_iff_exists.mp (List.lookup_isSome_iff.mpr ⟨pair, hpair, ?_⟩)
    simp [heq]
  exact ⟨(hashKey, .str (P.sha256Hex s)), by simp [sdpHash, hlookup], by simp [sdpHash, hlookup, h]⟩

mutual

lemma sanitizeScalar_alike (hP : Lowers P) : ∀ {x y : Json}, Alike P x y →
    sanitizeScalar P x = sanitizeScalar P y
  | _, _, .refl _ => rfl
  | _, _, .arr h => by rw [sanitizeScalar, sanitizeScalar, sanitizeItems_alike hP h]
  | _, _, .obj h => by rw [sanitizeScalar, sanitizeScalar, sanitizeDict_alike hP false [] h]

lemma sanitizeItems_alike (hP : Lowers P) : ∀ {xs ys : List Json}, AlikeItems P xs ys →
    sanitizeItems P xs = sanitizeItems P ys
  | _, _, .nil => rfl
  | _, _, .cons h hs => by
    rw [sanitizeItems, sanitizeItems, sanitizeScalar_alike hP h, sanitizeItems_alike hP hs]

lemma sanitizeDict_alike (hP : Lowers P) (payload : Bool) : ∀ (output : JsonDict)
    {xs ys : JsonDict}, AlikeFields P xs ys →
      sanitizeDict P payload output xs = sanitizeDict P payload output ys
  | _, _, _, .nil => rfl
  | output, _, _, .alike h hs => by
    have hrest (output : JsonDict) := sanitizeDict_alike hP payload output hs
    rw [sanitizeDict, sanitizeDict, h.sdpHash, sanitizeScalar_alike hP h]
    simp only [hrest]
  | output, _, _, .secret hkey hs => by
    have hrest (output : JsonDict) := sanitizeDict_alike hP payload output hs
    rw [sanitizeDict, sanitizeDict, sdpHash_of_secret hP hkey, sdpHash_of_secret hP hkey]
    simp [not_correlation_of_secret hP hkey, hkey, hrest]
  | output, _, _, .sdp hkey hsame hs => by
    obtain ⟨hash, hx, hy⟩ := sdpHash_congr hkey hsame
    rw [sanitizeDict, sanitizeDict, hx, hy]
    exact sanitizeDict_alike hP payload _ hs

end

mutual

lemma sanitizeArgumentsOrResult_alike (hP : Lowers P) : ∀ {x y : Json}, Alike P x y →
    sanitizeArgumentsOrResult P x = sanitizeArgumentsOrResult P y
  | _, _, .refl _ => rfl
  | _, _, .arr h => by
    rw [sanitizeArgumentsOrResult, sanitizeArgumentsOrResult, sanitizeArgumentItems_alike hP h]
  | _, _, .obj h => by
    rw [sanitizeArgumentsOrResult, sanitizeArgumentsOrResult, sanitizeDict_alike hP true [] h]

lemma sanitizeArgumentItems_alike (hP : Lowers P) : ∀ {xs ys : List Json}, AlikeItems P xs ys →
    sanitizeArgumentItems P xs = sanitizeArgumentItems P ys
  | _, _, .nil => rfl
  | _, _, .cons h hs => by
    rw [sanitizeArgumentItems, sanitizeArgumentItems, sanitizeArgumentsOrResult_alike hP h,
      sanitizeArgumentItems_alike hP hs]

end

lemma sanitizeTimingField_alike (hP : Lowers P) (output : JsonDict) {key : String} {x y : Json}
    (h : Alike P x y) :
    sanitizeTimingField P output (key, x) = sanitizeTimingField P output (key, y) := by
  rw [sanitizeTimingField, sanitizeTimingField, h.sdpHash, sanitizeScalar_alike hP h,
    sanitizeArgumentsOrResult_alike hP h]

lemma sanitizeTimingField_secret (hP : Lowers P) (output : JsonDict) {key : String}
    (h : isSecretKey P key = true) (x : Json) :
    sanitizeTimingField P output (key, x) = dictSet output key (.str "[REDACTED]") := by
  rw [sanitizeTimingField, sdpHash_of_secret hP h]
  simp [not_correlation_of_secret hP h, h]

lemma foldl_alike (hP : Lowers P) : ∀ {xs ys : JsonDict} (output : JsonDict), AlikeFields P xs ys →
    xs.foldl (sanitizeTimingField P) output = ys.foldl (sanitizeTimingField P) output
  | _, _, _, .nil => rfl
  | _, _, output, .alike h hs => by
    rw [List.foldl_cons, List.foldl_cons, sanitizeTimingField_alike hP output h]
    exact foldl_alike hP _ hs
  | _, _, output, .secret hkey hs => by
    rw [List.foldl_cons, List.foldl_cons, sanitizeTimingField_secret hP output hkey,
      sanitizeTimingField_secret hP output hkey]
    exact foldl_alike hP _ hs
  | _, _, output, .sdp hkey hsame hs => by
    obtain ⟨hash, hx, hy⟩ := sdpHash_congr hkey hsame
    rw [List.foldl_cons, List.foldl_cons, sanitizeTimingField, sanitizeTimingField, hx, hy]
    exact foldl_alike hP _ hs

/-- **Nothing of a secret is seen** in what is recorded, and of a session description only its
hash. -/
theorem sanitizeTimingData_alike (hP : Lowers P) {data data' : JsonDict}
    (h : AlikeFields P data data') : sanitizeTimingData P data = sanitizeTimingData P data' :=
  foldl_alike hP [] h

/-- Two payloads that differ under secret keys at the top, in a correlation value and in the
arguments of a function. -/
def payload (secret : Json) : JsonDict :=
  [("apiKey", secret), ("response", .obj [("id", .str "resp_1"), ("access_token", secret)]),
   ("arguments", .obj [("query", .str "play jazz"), ("calls", .arr [.obj [("password", secret)]])])]

lemma payload_alike (x y : Json) : AlikeFields asciiPlatform (payload x) (payload y) :=
  .secret (by decide +kernel) <|
    .alike (.obj (.alike (.refl _) (.secret (by decide +kernel) .nil))) <|
      .alike (.obj (.alike (.refl _) (.alike
        (.arr (.cons (.obj (.secret (by decide +kernel) .nil)) .nil)) .nil))) .nil

theorem payload_hidden : sanitizeTimingData asciiPlatform (payload (.str "hunter2")) =
    sanitizeTimingData asciiPlatform (payload (.arr [.int 7, .null])) :=
  sanitizeTimingData_alike asciiPlatform_lowers (payload_alike _ _)

/-! ### What the walkers keep -/

/-- A property that lists and objects have by their parts. -/
structure Hereditary (value : Json → Bool) (items : List Json → Bool) (fields : JsonDict → Bool) :
    Prop where
  arr : ∀ l, value (.arr l) = items l
  obj : ∀ d, value (.obj d) = fields d
  items_nil : items [] = true
  items_cons : ∀ v l, items (v :: l) = (value v && items l)
  fields_nil : fields [] = true
  fields_cons : ∀ key v d, fields ((key, v) :: d) = (value v && fields d)

lemma anything_hereditary : Hereditary (fun _ => true) (fun _ => true) (fun _ => true) :=
  ⟨fun _ => rfl, fun _ => rfl, rfl, fun _ _ => rfl, rfl, fun _ _ _ => rfl⟩

lemma mem_dictSet {d : JsonDict} {key : String} {value : Json} {field : String × Json}
    (h : field ∈ dictSet d key value) : field ∈ d ∨ field = (key, value) := by
  rw [dictSet] at h
  split_ifs at h
  · obtain ⟨old, hold, rfl⟩ := List.mem_map.mp h
    split_ifs
    · exact .inr rfl
    · exact .inl hold
  · simpa using h

lemma sdpHash_eq_some {key hashKey : String} {value hash : Json}
    (h : sdpHash P key value = some (hashKey, hash)) :
    hashKey ∈ sdpKeys.map Prod.snd ∧ ∃ s, hash = .str (P.sha256Hex s) := by
  unfold sdpHash at h
  split at h
  · rename_i hlookup
    cases h
    obtain ⟨front, back, heq, -⟩ := List.lookup_eq_some_iff.mp hlookup
    have hmem : (P.lower key, hashKey) ∈ sdpKeys := by
      rw [heq]
      simp
    exact ⟨List.mem_map.mpr ⟨_, hmem, rfl⟩, _, rfl⟩
  · cases h

section

variable {old new : Json → Bool} {oldItems newItems : List Json → Bool}
  {oldFields newFields : JsonDict → Bool}

lemma Hereditary.fields_iff (h : Hereditary new newItems newFields) {fields : JsonDict} :
    newFields fields = true ↔ ∀ field ∈ fields, new field.2 = true := by
  induction fields with
  | nil => simp [h.fields_nil]
  | cons field fields ih => simp [h.fields_cons, ih]

lemma Hereditary.dictSet (h : Hereditary new newItems newFields) {d : JsonDict} {key : String}
    {value : Json} (hd : newFields d = true) (hvalue : new value = true) :
    newFields (dictSet d key value) = true := by
  rw [h.fields_iff] at hd ⊢
  intro field hfield
  rcases mem_dictSet hfield with hold | rfl
  · exact hd field hold
  · exact hvalue

/-- What stands in place of a secret or a session description has the property `new`, and so has
what is made of a scalar with the property `old`. -/
structure Clears (P : Platform) (old : Json → Bool) (oldItems : List Json → Bool)
    (oldFields : JsonDict → Bool) (new : Json → Bool) (newItems : List Json → Bool)
    (newFields : JsonDict → Bool) : Prop where
  before : Hereditary old oldItems oldFields
  after : Hereditary new newItems newFields
  redacted : new (.str "[REDACTED]") = true
  hash : ∀ s, new (.str (P.sha256Hex s)) = true
  scalar : ∀ value, (∀ items, value ≠ .arr items) → (∀ fields, value ≠ .obj fields) →
    old value = true → new (sanitizeScalar P value) = true

lemma Clears.sdpHash (h : Clears P old oldItems oldFields new newItems newFields)
    {key hashKey : String} {value hash : Json}
    (hhash : sdpHash P key value = some (hashKey, hash)) : new hash = true := by
  obtain ⟨-, s, rfl⟩ := sdpHash_eq_some hhash
  exact h.hash s

mutual

/-- What is made of a value with the property `old` has the property `new`. -/
lemma Clears.sanitizeScalar (h : Clears P old oldItems oldFields new newItems newFields) :
    ∀ value : Json, old value = true → new (sanitizeScalar P value) = true
  | .arr items, hvalue => by
    rw [Timing.sanitizeScalar, h.after.arr]
    exact h.sanitizeItems items (h.before.arr items ▸ hvalue)
  | .obj fields, hvalue => by
    rw [Timing.sanitizeScalar, h.after.obj]
    exact h.sanitizeDict false [] h.after.fields_nil fields (h.before.obj fields ▸ hvalue)
  | .null, hvalue => h.scalar _ (by simp) (by simp) hvalue
  | .bool _, hvalue => h.scalar _ (by simp) (by simp) hvalue
  | .int _, hvalue => h.scalar _ (by simp) (by simp) hvalue
  | .float _, hvalue => h.scalar _ (by simp) (by simp) hvalue
  | .str _, hvalue => h.scalar _ (by simp) (by simp) hvalue

lemma Clears.sanitizeItems (h : Clears P old oldItems oldFields new newItems newFields) :
    ∀ items : List Json, oldItems items = true → newItems (sanitizeItems P items) = true
  | [], _ => h.after.items_nil
  | item :: items, hitems => by
    rw [h.before.items_cons, Bool.and_eq_true] at hitems
    rw [Timing.sanitizeItems, h.after.items_cons, h.sanitizeScalar item hitems.1,
      h.sanitizeItems items hitems.2, Bool.and_self]

lemma Clears.sanitizeDict (h : Clears P old oldItems oldFields new newItems newFields)
    (payload : Bool) (output : JsonDict) (houtput : newFields output = true) :
    ∀ fields : JsonDict, oldFields fields = true →
      newFields (sanitizeDict P payload output fields) = true
  | [], _ => houtput
  | (key, item) :: rest, hfields => by
    rw [h.before.fields_cons, Bool.and_eq_true] at hfields
    have hrest (output : JsonDict) (houtput : newFields output = true) :=
      h.sanitizeDict payload output houtput rest hfields.2
    have hitem := h.sanitizeScalar item hfields.1
    rw [Timing.sanitizeDict]
    split
    · rename_i hash hhash
      exact hrest _ (h.after.dictSet houtput (h.sdpHash hhash))
    · split_ifs
      · exact hrest _ (h.after.dictSet houtput hitem)
      · exact hrest _ (h.after.dictSet houtput h.redacted)
      · exact hrest _ (h.after.dictSet houtput h.redacted)
      · exact hrest _ (h.after.dictSet houtput hitem)

end

end

/-! ### Bearer credentials -/

section

variable (P : Platform)

mutual

/-- No string in the value is recognised as a bearer credential. -/
def noBearer : Json → Bool
  | .str s => !isBearerSecret P s
  | .arr items => noBearerItems items
  | .obj fields => noBearerFields fields
  | _ => true

def noBearerItems : List Json → Bool
  | [] => true
  | item :: items => noBearer item && noBearerItems items

def noBearerFields : JsonDict → Bool
  | [] => true
  | (_, value) :: fields => noBearer value && noBearerFields fields

end

mutual

/-- The same of the strings that are the value itself, or stand in its lists but in no object. -/
def noBareBearer : Json → Bool
  | .str s => !isBearerSecret P s
  | .arr items => noBareBearerItems items
  | _ => true

def noBareBearerItems : List Json → Bool
  | [] => true
  | item :: items => noBareBearer item && noBareBearerItems items

end

end

/-- `hexdigest()`. -/
def HexDigests (P : Platform) : Prop :=
  ∀ s, ∀ c ∈ (P.sha256Hex s).toList, c ∈ "0123456789abcdef".toList

lemma dropLetters_suffix {pattern text rest : List Char}
    (h : dropLetters pattern text = some rest) : rest <:+ text := by
  induction pattern generalizing text with
  | nil =>
    cases h
    exact List.suffix_rfl
  | cons p ps ih =>
    rcases text with _ | ⟨c, cs⟩
    · simp [dropLetters] at h
    · rw [dropLetters] at h
      split_ifs at h
      exact (ih h).trans (List.suffix_cons c cs)

lemma space_of_matchBearer {before : Option Char} {text : List Char}
    (h : matchBearer P before text = true) : ∃ c ∈ text, isSpace c = true := by
  rw [matchBearer, Bool.and_eq_true] at h
  obtain ⟨-, hmatch⟩ := h
  split at hmatch
  · rename_i c rest hdrop
    exact ⟨c, (dropLetters_suffix hdrop).subset (by simp), (Bool.and_eq_true _ _ ▸ hmatch).1⟩
  · cases hmatch

/-- A bearer credential has a blank in it. -/
lemma space_of_bearer {s : String} (h : isBearerSecret P s = true) :
    ∃ c ∈ s.toList, isSpace c = true := by
  simp only [isBearerSecret, List.any_eq_true] at h
  obtain ⟨i, -, hmatch⟩ := h
  obtain ⟨c, hc, hspace⟩ := space_of_matchBearer hmatch
  exact ⟨c, List.mem_of_mem_drop hc, hspace⟩

/-- No character of the text is a space. -/
def solid (s : String) : Bool := s.toList.all fun c => !isSpace c

lemma noBearer_of_solid {s : String} (h : solid s = true) : noBearer P (.str s) = true := by
  rw [noBearer, Bool.not_eq_true']
  by_contra hbearer
  obtain ⟨c, hc, hspace⟩ := space_of_bearer (Bool.not_eq_false _ ▸ hbearer)
  simpa [hspace] using List.all_eq_true.mp h c hc

lemma noBearer_redacted : noBearer P (.str "[REDACTED]") = true :=
  noBearer_of_solid (by decide +kernel)

lemma noBearer_hash (hP : HexDigests P) (s : String) :
    noBearer P (.str (P.sha256Hex s)) = true := by
  have hdigits : solid "0123456789abcdef" = true := by decide +kernel
  exact noBearer_of_solid
    (List.all_eq_true.mpr fun c hc => List.all_eq_true.mp hdigits c (hP s c hc))

lemma noBearer_hereditary : Hereditary (noBearer P) (noBearerItems P) (noBearerFields P) :=
  ⟨fun _ => rfl, fun _ => rfl, rfl, fun _ _ => rfl, rfl, fun _ _ _ => rfl⟩

lemma noBearer_clears (hP : HexDigests P) : Clears P (fun _ => true) (fun _ => true)
    (fun _ => true) (noBearer P) (noBearerItems P) (noBearerFields P) where
  before := anything_hereditary
  after := noBearer_hereditary
  redacted := noBearer_redacted
  hash := noBearer_hash hP
  scalar value harr hobj _ := by
    cases value with
    | str s =>
      rw [sanitizeScalar]
      split_ifs with h
      · exact noBearer_redacted
      · simpa [noBearer] using h
    | arr items => exact absurd rfl (harr items)
    | obj fields => exact absurd rfl (hobj fields)
    | _ => rfl

/-- What the walkers of values leave has no credential in it. -/
lemma noBearer_sanitizeScalar (hP : HexDigests P) (value : Json) :
    noBearer P (sanitizeScalar P value) = true :=
  (noBearer_clears hP).sanitizeScalar value rfl

mutual

/-- What the walker of arguments leaves has one exactly if it stands in no object. -/
lemma noBearer_sanitizeArguments (hP : HexDigests P) : ∀ value : Json,
    noBearer P (sanitizeArgumentsOrResult P value) = noBareBearer P value
  | .null => rfl
  | .bool _ => rfl
  | .int _ => rfl
  | .float _ => rfl
  | .str _ => rfl
  | .arr items => noBearer_sanitizeArgumentItems hP items
  | .obj fields => (noBearer_clears hP).sanitizeDict true [] rfl fields rfl

lemma noBearer_sanitizeArgumentItems (hP : HexDigests P) : ∀ items : List Json,
    noBearerItems P (sanitizeArgumentItems P items) = noBareBearerItems P items
  | [] => rfl
  | item :: items => by
    rw [sanitizeArgumentItems, noBearerItems, noBareBearerItems, noBearer_sanitizeArguments hP item,
      noBearer_sanitizeArgumentItems hP items]

end

/-- A key in small letters of ASCII that no rule names, and whose letters spell no secret word. -/
def isPlainKey (key : String) : Bool :=
  (key.toList.all fun c => c.toNat < 128) && String.ofList (key.toList.map Char.toLower) == key &&
    (sdpKeys.lookup key).isNone && !correlationKeys.contains key &&
    secretKeyShapes.all fun shape =>
      decide ¬ shape.flatMap String.toList <:+: key.toList.filter isLetter

/-- Such keys have no rule of their own. -/
lemma plainKey_rules (hP : Lowers P) {key : String} (h : isPlainKey key = true) :
    (∀ value, sdpHash P key value = none) ∧ P.lower key ∉ correlationKeys ∧
      isSecretKey P key = false := by
  simp only [isPlainKey, Bool.and_eq_true, List.all_eq_true, decide_eq_true_eq, beq_iff_eq,
    Bool.not_eq_true', List.contains_eq_mem, decide_eq_false_iff_not,
      Option.isNone_iff_eq_none] at h
  obtain ⟨⟨⟨⟨hascii, hsame⟩, hlookup⟩, hcorrelation⟩, hshapes⟩ := h
  have hlower : P.lower key = key := (hP.ascii key hascii).trans hsame
  refine ⟨fun value => ?_, by rwa [hlower], ?_⟩
  · simp [sdpHash, hlower, hlookup]
  · by_contra hsecret
    obtain ⟨shape, hshape, hinfix⟩ := secret_infix (Bool.not_eq_false _ ▸ hsecret)
    rw [keyComponents_letters hP hascii, hlower] at hinfix
    exact hshapes shape hshape hinfix

/-- The keys whose values are the arguments or the result of a function. -/
def functionKeys : List String := ["arguments", "result"]

lemma functionKey_plain {key : String} (h : key ∈ functionKeys) : isPlainKey key = true := by
  have hall : functionKeys.all isPlainKey = true := by decide +kernel
  exact List.all_eq_true.mp hall key h

lemma sanitizeTimingField_function (hP : Lowers P) (output : JsonDict) {key : String}
    (h : key ∈ functionKeys) (value : Json) : sanitizeTimingField P output (key, value) =
      dictSet output key (sanitizeArgumentsOrResult P value) := by
  obtain ⟨hsdp, hcorrelation, hsecret⟩ := plainKey_rules hP (functionKey_plain h)
  have hkey : key = "arguments" ∨ key = "result" := by simpa [functionKeys] using h
  rw [sanitizeTimingField, hsdp]
  simp [hcorrelation, hsecret, hkey]

/-- Any other field is sanitized like a value, under its own key or that of its hash. -/
lemma sanitizeTimingField_other (hP : HexDigests P) (output : JsonDict) {key : String}
    (h : key ∉ functionKeys) (value : Json) : ∃ key' value',
      sanitizeTimingField P output (key, value) = dictSet output key' value' ∧
        key' ∉ functionKeys ∧ noBearer P value' = true := by
  have hkey : ¬(key = "arguments" ∨ key = "result") := by simpa [functionKeys] using h
  rw [sanitizeTimingField]
  split
  · rename_i hashKey hash hhash
    have hnames : ∀ name ∈ sdpKeys.map Prod.snd, name ∉ functionKeys := by decide +kernel
    exact ⟨hashKey, hash, rfl, hnames _ (sdpHash_eq_some hhash).1,
      (noBearer_clears hP).sdpHash hhash⟩
  · split_ifs
    · exact ⟨key, _, rfl, h, noBearer_sanitizeScalar hP value⟩
    · exact ⟨key, _, rfl, h, noBearer_redacted⟩
    · exact ⟨key, _, rfl, h, noBearer_sanitizeScalar hP value⟩

lemma mem_dictSet_self (d : JsonDict) (key : String) (value : Json) :
    (key, value) ∈ dictSet d key value := by
  rw [dictSet]
  split_ifs with h
  · obtain ⟨field, hfield, hkey⟩ := List.any_eq_true.mp h
    exact List.mem_map.mpr ⟨field, hfield, if_pos (of_decide_eq_true hkey)⟩
  · simp

lemma mem_dictSet_of_ne {d : JsonDict} {key : String} {field : String × Json} (h : field ∈ d)
    (hne : field.1 ≠ key) (value : Json) : field ∈ dictSet d key value := by
  rw [dictSet]
  split_ifs
  · exact List.mem_map.mpr ⟨field, h, if_neg hne⟩
  · exact List.mem_append_left _ h

/-- The arguments stay where they are once they are recorded. -/
lemma function_kept (hP : Lowers P) (hhex : HexDigests P) {field : String × Json}
    (hfunction : field.1 ∈ functionKeys) {data output : JsonDict} (h : field ∈ output)
    (hnew : field.1 ∉ data.map Prod.fst) : field ∈ data.foldl (sanitizeTimingField P) output := by
  induction data generalizing output with
  | nil => exact h
  | cons other data ih =>
    obtain ⟨key, value⟩ := other
    obtain ⟨hne, hnew⟩ : field.1 ≠ key ∧ field.1 ∉ data.map Prod.fst := by simpa using hnew
    refine ih ?_ hnew
    by_cases hkey : key ∈ functionKeys
    · rw [sanitizeTimingField_function hP output hkey]
      exact mem_dictSet_of_ne h hne _
    · obtain ⟨key', value', heq, hkey', -⟩ := sanitizeTimingField_other hhex output hkey value
      have hne : field.1 ≠ key' := by
        rintro rfl
        exact hkey' hfunction
      rw [heq]
      exact mem_dictSet_of_ne h hne _

lemma function_recorded (hP : Lowers P) (hhex : HexDigests P) {key : String} {value : Json}
    (hfunction : key ∈ functionKeys) {data : JsonDict} (output : JsonDict)
    (h : (key, value) ∈ data) (hkeys : (data.map Prod.fst).Nodup) :
    (key, sanitizeArgumentsOrResult P value) ∈ data.foldl (sanitizeTimingField P) output := by
  induction data generalizing output with
  | nil => simp at h
  | cons other data ih =>
    rw [List.map_cons, List.nodup_cons] at hkeys
    rcases List.mem_cons.mp h with rfl | h
    · rw [List.foldl_cons]
      refine function_kept hP hhex hfunction ?_ hkeys.1
      rw [sanitizeTimingField_function hP output hfunction]
      exact mem_dictSet_self _ _ _
    · exact ih _ h hkeys.2

lemma foldl_noBearer (hP : Lowers P) (hhex : HexDigests P) {data output : JsonDict}
    (houtput : noBearerFields P output = true)
    (h : ∀ field ∈ data, field.1 ∈ functionKeys → noBareBearer P field.2 = true) :
    noBearerFields P (data.foldl (sanitizeTimingField P) output) = true := by
  induction data generalizing output with
  | nil => exact houtput
  | cons field data ih =>
    obtain ⟨key, value⟩ := field
    refine ih ?_ fun field hfield => h field (by simp [hfield])
    by_cases hkey : key ∈ functionKeys
    · rw [sanitizeTimingField_function hP output hkey]
      refine noBearer_hereditary.dictSet houtput ?_
      rw [noBearer_sanitizeArguments hhex]
      exact h (key, value) (by simp) hkey
    · obtain ⟨key', value', heq, -, hvalue⟩ := sanitizeTimingField_other hhex output hkey value
      rw [heq]
      exact noBearer_hereditary.dictSet houtput hvalue

/-- **A bearer credential survives exactly where it is the arguments or the result itself**, or
stands in a list there. -/
theorem noBearer_sanitizeTimingData (hP : Lowers P) (hhex : HexDigests P) {data : JsonDict}
    (hkeys : (data.map Prod.fst).Nodup) :
    noBearerFields P (sanitizeTimingData P data) = true ↔
      ∀ field ∈ data, field.1 ∈ functionKeys → noBareBearer P field.2 = true := by
  refine ⟨fun h field hfield hfunction => ?_, foldl_noBearer hP hhex rfl⟩
  have hmem := function_recorded hP hhex hfunction [] hfield hkeys
  have hclean := noBearer_hereditary.fields_iff.mp h _ hmem
  rwa [noBearer_sanitizeArguments hhex] at hclean

/-- A platform whose digests are all the same. -/
def digestPlatform : Platform :=
  { asciiPlatform with sha256Hex := fun _ => String.ofList (List.replicate 64 '0') }

lemma digestPlatform_lowers : Lowers digestPlatform :=
  ⟨asciiPlatform_lowers.ascii, asciiPlatform_lowers.foreign⟩

lemma digestPlatform_hex : HexDigests digestPlatform := by
  intro s c hc
  have hzero : c = '0' := by
    simpa [digestPlatform] using hc
  rw [hzero]
  decide

/-- The header of a request, as the arguments of a function. -/
def bearerArguments : JsonDict :=
  [("arguments", .arr [.str "Bearer live-secret"]), ("note", .str "Bearer live-secret")]

theorem bearerArguments_kept : noBearerFields digestPlatform
    (sanitizeTimingData digestPlatform bearerArguments) = false := by
  decide +kernel

theorem bearer_hidden : noBearerFields digestPlatform (sanitizeTimingData digestPlatform
    [("arguments", .obj [("header", .str "Bearer live-secret")]), ("result", .str "ok")]) = true :=
  (noBearer_sanitizeTimingData digestPlatform_lowers digestPlatform_hex (by decide)).mpr
    (by decide +kernel)

end HermesRealtime.Sanitizing

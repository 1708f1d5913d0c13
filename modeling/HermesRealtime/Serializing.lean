import HermesRealtime.Sanitizing

/-!
What a page reports is sanitized when it is recorded, and again when the trace is written. The
second time changes nothing: a walker writes the fields that it has cleaned one after another, and
a field that has been cleaned is left as it is, under the key that it has then.
-/

namespace HermesRealtime.Serializing

open Values Text Timing Sanitizing

variable {P : Platform}

/-! ### Writing fields -/

/-- An object in which the fields are written one after another. -/
def writeFields (output fields : JsonDict) : JsonDict :=
  fields.foldl (fun output field => dictSet output field.1 field.2) output

lemma mem_writeFields {output fields : JsonDict} {field : String × Json}
    (h : field ∈ writeFields output fields) : field ∈ output ∨ field ∈ fields := by
  induction fields generalizing output with
  | nil => exact .inl h
  | cons first fields ih =>
    rcases ih h with hold | hmem
    · rcases mem_dictSet hold with hmem | rfl
      · exact .inl hmem
      · exact .inr (by simp)
    · exact .inr (List.mem_cons_of_mem _ hmem)

/-- Setting a key keeps the others, and adds it if it is new. -/
lemma keys_dictSet (d : JsonDict) (key : String) (value : Json) :
    (dictSet d key value).map Prod.fst =
      if key ∈ d.map Prod.fst then d.map Prod.fst else d.map Prod.fst ++ [key] := by
  have hany : (d.any fun field => field.1 = key) = true ↔ key ∈ d.map Prod.fst := by
    simp
  rw [dictSet]
  by_cases h : key ∈ d.map Prod.fst
  · rw [if_pos (hany.mpr h), if_pos h, List.map_map]
    refine List.map_congr_left fun field _ => ?_
    by_cases hkey : field.1 = key <;> simp [hkey]
  · rw [if_neg (mt hany.mp h), if_neg h, List.map_append]
    rfl

lemma distinct_writeFields {output fields : JsonDict} (h : (output.map Prod.fst).Nodup) :
    ((writeFields output fields).map Prod.fst).Nodup := by
  induction fields generalizing output with
  | nil => exact h
  | cons field fields ih =>
    refine ih ?_
    rw [keys_dictSet]
    split_ifs with hkey
    · exact h
    · rw [List.nodup_append]
      refine ⟨h, by simp, fun key hmem key' hkey' => ?_⟩
      rw [List.mem_singleton.mp hkey']
      exact fun heq => hkey (heq ▸ hmem)

/-- Fields with keys of their own are written as they are. -/
lemma writeFields_distinct {output fields : JsonDict}
    (h : ((output ++ fields).map Prod.fst).Nodup) :
        writeFields output fields = output ++ fields := by
  induction fields generalizing output with
  | nil => simp [writeFields]
  | cons field fields ih =>
    have hnew : field.1 ∉ output.map Prod.fst := by
      rw [List.map_append, List.nodup_append] at h
      exact fun hmem => h.2.2 _ hmem field.1 (by simp) rfl
    have hset : dictSet output field.1 field.2 = output ++ [field] := by
      rw [dictSet, if_neg]
      simpa using hnew
    have hrest : writeFields (output ++ [field]) fields = output ++ [field] ++ fields :=
      ih (by simpa using h)
    calc writeFields output (field :: fields)
        = writeFields (dictSet output field.1 field.2) fields := rfl
      _ = output ++ [field] ++ fields := by rw [hset, hrest]
      _ = output ++ field :: fields := by simp

/-- What has been written is written again as it is, if none of its fields changes. -/
lemma writeFields_again {fields : JsonDict} {clean : String × Json → String × Json}
    (h : ∀ field ∈ fields, clean field = field) :
    writeFields [] ((writeFields [] fields).map clean) = writeFields [] fields := by
  have hsame : (writeFields [] fields).map clean = writeFields [] fields := by
    refine (List.map_congr_left fun field hfield => ?_).trans (List.map_id _)
    rcases mem_writeFields hfield with hnil | hmem
    · cases hnil
    · exact h field hmem
  rw [hsame, writeFields_distinct]
  · rfl
  · exact distinct_writeFields List.nodup_nil

/-! ### Cleaning a field -/

/-- What is written for a field, `clean` being what is done to a value without a rule. -/
def cleanField (P : Platform) (clean : String → Json → Json) (field : String × Json) :
    String × Json :=
  match sdpHash P field.1 field.2 with
  | some hash => hash
  | none =>
    if correlationKeys.contains (P.lower field.1) then (field.1, sanitizeScalar P field.2)
    else if isSecretKey P field.1 then (field.1, .str "[REDACTED]")
    else (field.1, clean field.1 field.2)

/-- The values of a report. -/
def cleanValue (P : Platform) (key : String) (value : Json) : Json :=
  if key = "arguments" ∨ key = "result" then sanitizeArgumentsOrResult P value
  else sanitizeScalar P value

lemma sanitizeDict_eq (payload : Bool) (output fields : JsonDict) :
    sanitizeDict P payload output fields =
      writeFields output (fields.map (cleanField P fun _ => sanitizeScalar P)) := by
  induction fields generalizing output with
  | nil => rw [sanitizeDict]; rfl
  | cons field fields ih =>
    obtain ⟨key, value⟩ := field
    set cleaned := cleanField P (fun _ => sanitizeScalar P) (key, value) with hcleaned
    have hfirst : sanitizeDict P payload output ((key, value) :: fields) =
        sanitizeDict P payload (dictSet output cleaned.1 cleaned.2) fields := by
      rw [hcleaned, sanitizeDict, cleanField]
      rcases sdpHash P key value with _ | hash
      · by_cases hsecret : isSecretKey P key = true
        · simp only [hsecret, Bool.and_true, if_true, ite_self]
          split_ifs <;> rfl
        · simp only [hsecret, Bool.and_false, Bool.false_eq_true, if_false]
          split_ifs <;> rfl
      · rfl
    rw [hfirst, ih]
    rfl

lemma sanitizeTimingData_eq (data : JsonDict) :
    sanitizeTimingData P data = writeFields [] (data.map (cleanField P (cleanValue P))) := by
  rw [sanitizeTimingData, writeFields, List.foldl_map]
  congr
  funext output field
  obtain ⟨key, value⟩ := field
  rw [sanitizeTimingField, cleanField]
  split
  · next hash hhash => simp [hhash]
  · next hnone =>
    rw [hnone]
    dsimp only [cleanValue]
    split_ifs <;> rfl

/-! ### Cleaning twice -/

/-- The keys of hashes have no rule. -/
lemma hashKey_plain {key : String} (h : key ∈ sdpKeys.map Prod.snd) :
    isPlainKey key = true ∧ key ∉ functionKeys := by
  have hall : (sdpKeys.map Prod.snd).all (fun key => isPlainKey key && !functionKeys.contains key) =
      true := by
    decide +kernel
  simpa using List.all_eq_true.mp hall key h

/-- What is a text once it is cleaned was one before. -/
def KeepsTexts (clean : String → Json → Json) : Prop :=
  ∀ key value s, clean key value = .str s → ∃ t, value = .str t

lemma scalar_text {value : Json} {s : String} (h : sanitizeScalar P value = .str s) :
    ∃ t, value = .str t := by
  cases value with
  | str t => exact ⟨t, rfl⟩
  | _ => cases h

lemma cleanValue_keepsTexts : KeepsTexts (cleanValue P) := by
  intro key value s h
  rw [cleanValue] at h
  split_ifs at h
  · cases value with
    | str t => exact ⟨t, rfl⟩
    | _ => cases h
  · exact scalar_text h

/-- A value that is no text has no hash, whatever is made of it. -/
lemma sdpHash_clean {clean : String → Json → Json} (hclean : KeepsTexts clean) {key : String}
    {value : Json} (h : sdpHash P key value = none) : sdpHash P key (clean key value) = none := by
  unfold sdpHash at h ⊢
  split at h
  · cases h
  · next hno =>
    split
    · next hashKey s hlookup htext =>
      obtain ⟨t, rfl⟩ := hclean _ _ _ htext
      exact absurd hlookup (hno hashKey t · rfl)
    · rfl

/-- A digest is no credential. -/
lemma scalar_hash (hhex : HexDigests P) (s : String) :
    sanitizeScalar P (.str (P.sha256Hex s)) = .str (P.sha256Hex s) := by
  have hbearer : noBearer P (.str (P.sha256Hex s)) = true := noBearer_hash hhex s
  rw [sanitizeScalar, if_neg (by simpa [noBearer] using hbearer)]

/-- **A field that has been cleaned is left as it is.** -/
lemma cleanField_again (hP : Lowers P) (hhex : HexDigests P) {clean : String → Json → Json}
    (hclean : KeepsTexts clean)
    (hplain : ∀ key ∉ functionKeys, ∀ value, clean key value = sanitizeScalar P value)
    {field : String × Json}
    (hscalar : sanitizeScalar P (sanitizeScalar P field.2) = sanitizeScalar P field.2)
    (hvalue : clean field.1 (clean field.1 field.2) = clean field.1 field.2) :
    cleanField P clean (cleanField P clean field) = cleanField P clean field := by
  obtain ⟨key, value⟩ := field
  rcases hhash : sdpHash P key value with _ | ⟨hashKey, hash⟩
  · by_cases hcorrelation : P.lower key ∈ correlationKeys
    · have hfirst : cleanField P clean (key, value) = (key, sanitizeScalar P value) := by
        simp [cleanField, hhash, hcorrelation]
      have hnone : sdpHash P key (sanitizeScalar P value) = none :=
        sdpHash_clean (fun _ _ _ => scalar_text : KeepsTexts fun _ => sanitizeScalar P) hhash
      rw [hfirst]
      simpa [cleanField, hnone, hcorrelation] using hscalar
    · by_cases hsecret : isSecretKey P key = true
      · have hfirst : cleanField P clean (key, value) = (key, .str "[REDACTED]") := by
          simp [cleanField, hhash, hcorrelation, hsecret]
        rw [hfirst]
        simp [cleanField, sdpHash_of_secret hP hsecret, hcorrelation, hsecret]
      · have hfirst : cleanField P clean (key, value) = (key, clean key value) := by
          simp [cleanField, hhash, hcorrelation, hsecret]
        rw [hfirst]
        simpa [cleanField, sdpHash_clean hclean hhash, hcorrelation, hsecret] using hvalue
  · have hfirst : cleanField P clean (key, value) = (hashKey, hash) := by
      simp [cleanField, hhash]
    obtain ⟨hmem, s, rfl⟩ := sdpHash_eq_some hhash
    obtain ⟨hquiet, hfunction⟩ := hashKey_plain hmem
    obtain ⟨hnone, hcorrelation, hsecret⟩ := plainKey_rules hP hquiet
    have hsame : clean hashKey (.str (P.sha256Hex s)) = .str (P.sha256Hex s) :=
      (hplain hashKey hfunction _).trans (scalar_hash hhex s)
    rw [hfirst]
    simp [cleanField, hnone, hcorrelation, hsecret, hsame]

/-- So is an object whose values are. -/
lemma fields_again (hP : Lowers P) (hhex : HexDigests P) {clean : String → Json → Json}
    (hclean : KeepsTexts clean)
    (hplain : ∀ key ∉ functionKeys, ∀ value, clean key value = sanitizeScalar P value)
    {fields : JsonDict}
    (hscalar : ∀ field ∈ fields,
      sanitizeScalar P (sanitizeScalar P field.2) = sanitizeScalar P field.2)
    (hvalue : ∀ field ∈ fields, clean field.1 (clean field.1 field.2) = clean field.1 field.2) :
    writeFields [] ((writeFields [] (fields.map (cleanField P clean))).map (cleanField P clean)) =
      writeFields [] (fields.map (cleanField P clean)) := by
  refine writeFields_again fun field hfield => ?_
  obtain ⟨source, hsource, rfl⟩ := List.mem_map.mp hfield
  exact cleanField_again hP hhex hclean hplain (hscalar source hsource) (hvalue source hsource)

mutual

lemma sanitizeScalar_again (hP : Lowers P) (hhex : HexDigests P) : ∀ value : Json,
    sanitizeScalar P (sanitizeScalar P value) = sanitizeScalar P value
  | .null => rfl
  | .bool _ => rfl
  | .int _ => rfl
  | .float _ => rfl
  | .str s => by
    by_cases h : isBearerSecret P s = true
    · rw [sanitizeScalar, if_pos h, sanitizeScalar]
      exact ite_self _
    · rw [sanitizeScalar, if_neg h, sanitizeScalar, if_neg h]
  | .arr items => by
    rw [sanitizeScalar, sanitizeScalar, sanitizeItems_again hP hhex items]
  | .obj fields => by
    have hfields := sanitizeFields_again hP hhex fields
    rw [sanitizeScalar, sanitizeScalar, sanitizeDict_eq, sanitizeDict_eq,
      fields_again hP hhex (fun _ _ _ => scalar_text) (fun _ _ _ => rfl) hfields hfields]

lemma sanitizeItems_again (hP : Lowers P) (hhex : HexDigests P) : ∀ items : List Json,
    sanitizeItems P (sanitizeItems P items) = sanitizeItems P items
  | [] => rfl
  | item :: items => by
    rw [sanitizeItems, sanitizeItems, sanitizeScalar_again hP hhex item,
      sanitizeItems_again hP hhex items]

lemma sanitizeFields_again (hP : Lowers P) (hhex : HexDigests P) : ∀ fields : JsonDict,
    ∀ field ∈ fields, sanitizeScalar P (sanitizeScalar P field.2) = sanitizeScalar P field.2
  | [], field, h => absurd h List.not_mem_nil
  | (key, value) :: fields, field, h => by
    rcases List.mem_cons.mp h with rfl | hmem
    · exact sanitizeScalar_again hP hhex value
    · exact sanitizeFields_again hP hhex fields field hmem

end

lemma sanitizeDict_again (hP : Lowers P) (hhex : HexDigests P) (payload : Bool)
    (fields : JsonDict) :
    sanitizeDict P payload [] (sanitizeDict P payload [] fields) =
      sanitizeDict P payload [] fields := by
  have hfields := sanitizeFields_again hP hhex fields
  rw [sanitizeDict_eq, sanitizeDict_eq]
  exact fields_again hP hhex (fun _ _ _ => scalar_text) (fun _ _ _ => rfl) hfields hfields

mutual

lemma sanitizeArguments_again (hP : Lowers P) (hhex : HexDigests P) : ∀ value : Json,
    sanitizeArgumentsOrResult P (sanitizeArgumentsOrResult P value) =
      sanitizeArgumentsOrResult P value
  | .null => rfl
  | .bool _ => rfl
  | .int _ => rfl
  | .float _ => rfl
  | .str _ => rfl
  | .arr items => by
    rw [sanitizeArgumentsOrResult, sanitizeArgumentsOrResult,
      sanitizeArgumentItems_again hP hhex items]
  | .obj fields => by
    rw [sanitizeArgumentsOrResult, sanitizeArgumentsOrResult, sanitizeDict_again hP hhex]

lemma sanitizeArgumentItems_again (hP : Lowers P) (hhex : HexDigests P) : ∀ items : List Json,
    sanitizeArgumentItems P (sanitizeArgumentItems P items) = sanitizeArgumentItems P items
  | [] => rfl
  | item :: items => by
    rw [sanitizeArgumentItems, sanitizeArgumentItems, sanitizeArguments_again hP hhex item,
      sanitizeArgumentItems_again hP hhex items]

end

/-- **Sanitizing is idempotent**: what has been sanitized once is sanitized to itself. -/
theorem sanitizeTimingData_again (hP : Lowers P) (hhex : HexDigests P) (data : JsonDict) :
    sanitizeTimingData P (sanitizeTimingData P data) = sanitizeTimingData P data := by
  rw [sanitizeTimingData_eq, sanitizeTimingData_eq]
  refine fields_again hP hhex cleanValue_keepsTexts (fun key hkey value => ?_)
    (fun field _ => sanitizeScalar_again hP hhex field.2) (fun field _ => ?_)
  · rw [cleanValue, if_neg (by simpa [functionKeys] using hkey)]
  · by_cases hkey : field.1 = "arguments" ∨ field.1 = "result"
    · simp only [cleanValue, if_pos hkey]
      exact sanitizeArguments_again hP hhex field.2
    · simp only [cleanValue, if_neg hkey]
      exact sanitizeScalar_again hP hhex field.2

/-- Session descriptions under keys that differ in their case, a hash that was there before, and
secrets at two depths. -/
def crowded : JsonDict :=
  [("sdp_hash", .str "Bearer live-secret"), ("SDP", .str "v=0"), ("sdp", .str "v=1"),
   ("authToken", .obj [("sdp", .int 1)]),
   ("result", .arr [.str "Bearer live-secret", .obj [("Sdp", .str "v=2"), ("secret", .null)]])]

theorem crowded_again :
    sanitizeTimingData digestPlatform (sanitizeTimingData digestPlatform crowded) =
      sanitizeTimingData digestPlatform crowded :=
  sanitizeTimingData_again digestPlatform_lowers digestPlatform_hex crowded

/-! ### Writing the trace -/

def sourceValue : TimingEventSource → String
  | .wake => "wake"
  | .controller => "controller"
  | .browser => "browser"
  | .openai => "openai"

/-- `_serialize_event`. -/
def serializeEvent (P : Platform) (t : SessionTrace) (e : TimingEvent) : JsonDict :=
  [("session_id", .str t.sessionId), ("name", .str e.name), ("monotonic_ns", .int e.monotonicNs),
   ("wall_time", .str e.wallTime), ("source", .str (sourceValue e.source)),
   ("data", .obj (sanitizeTimingData P e.data))]

end HermesRealtime.Serializing

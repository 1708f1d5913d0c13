import HermesRealtime.Handoff

/-!
What an activation comes to. The socket answers every client with one line, which says no more than
what became of the session; the handler makes an exit code of it, and the listener takes the
activation for handled exactly when its session has been completed.
-/

namespace HermesRealtime.Handoffs

open Values Documents Utf16 Protocol Frames Text Handoff
open Encoding hiding Plain
open JsonText (Plain Printable)

/-- What becomes of an activation. -/
inductive Report
  | completed (sessionId : String)
  | cancelled (sessionId : String)
  | busy
  | failed
  deriving DecidableEq

def Report.response : Report → JsonDict
  | .completed sessionId => sessionResponse "completed" sessionId
  | .cancelled sessionId => sessionResponse "cancelled" sessionId
  | .busy => [("outcome", .str "busy")]
  | .failed => failedResponse "activation failed"

def Report.exitCode : Report → ℕ
  | .completed _ => 0
  | .failed => 1
  | .busy => 2
  | .cancelled _ => 3

def reportOf (result : Controller.TerminalSessionResult) : Report :=
  match result.outcome with
  | .completed => .completed result.sessionId
  | .cancelled => .cancelled result.sessionId
  | .failed | .timedOut => .failed

/-- What the controller does with an activation. -/
def report (controller : Behaviour) : Report :=
  match controller.activate with
  | .error _ => .failed
  | .ok activation =>
    match activation.status with
    | .busy => .busy
    | .failed => .failed
    | .opened =>
      match controller.terminal (activation.sessionId.getD "") with
      | .error _ => .failed
      | .ok result => reportOf result

/-- The sessions of the controller have valid ids. -/
def ValidIds (controller : Behaviour) : Prop :=
  ∀ sessionId result, controller.terminal sessionId = .ok result →
    validateSessionId result.sessionId = .ok ()

variable {N : JsonText.Numbers} {S : PyStr}

/-! ### Texts and bytes -/

lemma isScalar_char (c : Char) : Utf8.IsScalar c.toNat := by
  rcases toNat_bounds c with h | h
  · exact Or.inl h
  · exact Or.inr ⟨by omega, h.2⟩

lemma decodeText_encodeText (text : List Char) : decodeText (encodeText text) = some text := by
  have hencode : Utf8.encode (text.map Char.toNat) = some (encodeText text) := by
    rw [Utf8.encode, if_pos]
    · simp [encodeText, List.flatMap_map]
    · intro c hc
      obtain ⟨d, -, rfl⟩ := List.mem_map.mp hc
      exact isScalar_char d
  have hdecode : Utf8.decode (encodeText text) = text.map Char.toNat := Utf8.decode_encode hencode
  have hback : (text.map Char.toNat).map Char.ofNat = text := by
    rw [List.map_map]
    exact List.map_id'' (fun c => Char.ofNat_toNat c) text
  simp only [decodeText, hdecode, hencode, if_true, hback]

/-- A text of one byte for each character. -/
def OneByte (text : List Char) : Prop := ∀ c ∈ text, c.toNat < 128

lemma OneByte.append {a b : List Char} (ha : OneByte a) (hb : OneByte b) : OneByte (a ++ b) :=
  fun c hc => (List.mem_append.mp hc).elim (ha c) (hb c)

lemma oneByte_of_all {text : List Char} (h : text.all (fun c => decide (c.toNat < 128)) = true) :
    OneByte text :=
  fun c hc => of_decide_eq_true (List.all_eq_true.mp h c hc)

lemma oneByte_of_plain {text : List Char} (h : Plain text) : OneByte text :=
  fun c hc => Nat.lt_trans (h c hc).2 (by decide)

lemma encodeText_oneByte {text : List Char} (h : OneByte text) :
    encodeText text = text.map Char.toNat := by
  induction text with
  | nil => rfl
  | cons c text ih =>
    have hone : Utf8.encodeChar c.toNat = [c.toNat] := by
      rw [Utf8.encodeChar, if_pos (h c List.mem_cons_self)]
    rw [encodeText, List.flatMap_cons, hone, ← encodeText, ih fun d hd =>
      h d (List.mem_cons_of_mem _ hd)]
    rfl

lemma encodeText_plain {text : List Char} (h : Plain text) :
    encodeText text = text.map Char.toNat :=
  encodeText_oneByte (oneByte_of_plain h)

lemma encodeText_append (a b : List Char) : encodeText (a ++ b) = encodeText a ++ encodeText b :=
  List.flatMap_append

lemma stripText_line {c d : Char} {text : List Char} (hc : isSpace c = false)
    (hd : isSpace d = false) : stripText (c :: text ++ [d] ++ ['\n']) = c :: text ++ [d] := by
  have hnewline : isSpace '\n' = true := by decide
  rw [stripText, List.cons_append, List.cons_append, List.dropWhile_cons_of_neg (by simp [hc]),
    ← List.cons_append, ← List.cons_append, List.reverse_append, List.reverse_append]
  simp [hnewline, hd]

/-! ### What is written -/

lemma sortKeys_session (outcome sessionId : String) :
    sortKeys (.obj (sessionResponse outcome sessionId)) =
      .obj (sessionResponse outcome sessionId) := by
  simp [sortKeys, sortValues, sessionResponse, List.mergeSort]

lemma sortKeys_failed (error : String) : sortKeys (.obj (failedResponse error)) =
    .obj [("error", .str error), ("outcome", .str "failed")] := by
  simp [sortKeys, sortValues, failedResponse, List.mergeSort]

lemma sortKeys_busy : sortKeys (.obj Report.busy.response) = .obj Report.busy.response := by
  simp [sortKeys, sortValues, Report.response]

/-- A character that stands for itself in a text, and is no closing brace. -/
def Safe (c : Char) : Prop := Printable c ∧ c ≠ '"' ∧ c ≠ '\\' ∧ c ≠ '\x7d'

lemma writeText_safe {text : List Char} (h : ∀ c ∈ text, Safe c) :
    JsonText.writeText (encode text) = '"' :: text ++ ['"'] := by
  have hunit (c : Char) (hc : Safe c) : (encodeChar c).flatMap JsonText.writeUnit = [c] := by
    obtain ⟨⟨hlow, hhigh⟩, hquote, hslash, -⟩ := hc
    have hne {d : Char} (hd : c ≠ d) : c.toNat ≠ d.toNat := fun heq =>
      hd (Char.ext (UInt32.toNat_inj.mp heq))
    have hunit : (UInt16.ofNat c.toNat).toNat = c.toNat := toNat_unit (by omega)
    have hquote' : c.toNat ≠ 34 := hne hquote
    have hslash' : c.toNat ≠ 92 := hne hslash
    rw [encodeChar, if_pos (by omega), List.flatMap_singleton, JsonText.writeUnit, hunit]
    rw [if_neg hquote', if_neg hslash', if_neg (by omega), if_neg (by omega), if_neg (by omega),
      if_neg (by omega), if_neg (by omega), if_pos ⟨hlow, hhigh⟩, Char.ofNat_toNat]
  have hbody : (encode text).flatMap JsonText.writeUnit = text := by
    induction text with
    | nil => rfl
    | cons c text ih =>
      rw [encode_cons, List.flatMap_append, hunit c (h c List.mem_cons_self),
        ih fun d hd => h d (List.mem_cons_of_mem _ hd)]
      rfl
  rw [JsonText.writeText, hbody]

lemma validateSessionId_chars {value : String} (h : validateSessionId value = .ok ()) :
    value.toList.length ≤ 128 ∧ ∀ c ∈ value.toList, isIdChar c = true := by
  unfold validateSessionId at h
  dsimp only at h
  split at h
  · cases h
  · rename_i hvalid
    rw [not_not] at hvalid
    exact ⟨hvalid.2.1, List.all_eq_true.mp hvalid.2.2⟩

lemma safe_of_idChar {c : Char} (h : isIdChar c = true) : Safe c := by
  have hrange := isIdChar_range h
  have hne {d : Char} (hd : c.toNat ≠ d.toNat) : c ≠ d := fun heq => hd (heq ▸ rfl)
  refine ⟨⟨by omega, by omega⟩, hne ?_, hne ?_, hne ?_⟩
  · show c.toNat ≠ 34
    omega
  · show c.toNat ≠ 92
    omega
  · show c.toNat ≠ 125
    omega

instance : DecidablePred Safe := fun _ => inferInstanceAs (Decidable (_ ∧ _ ∧ _ ∧ _))

lemma safe_of_all {text : String} (h : text.toList.all (fun c => decide (Safe c)) = true) :
    ∀ c ∈ text.toList, Safe c :=
  fun c hc => of_decide_eq_true (List.all_eq_true.mp h c hc)

lemma writeText_length {text : String} (h : ∀ c ∈ text.toList, Safe c) :
    (JsonText.writeText (ofString text)).length = text.toList.length + 2 := by
  rw [ofString, writeText_safe h]
  simp

lemma bare_writeText {text : String} (h : ∀ c ∈ text.toList, Safe c) :
    '\x7d' ∉ JsonText.writeText (ofString text) := by
  rw [ofString, writeText_safe h]
  have hsafe : '\x7d' ∉ text.toList := fun hmem => (h _ hmem).2.2.2 rfl
  simp [hsafe]

/-- A response that is small enough to be sent, with its keys sorted and one closing brace. -/
structure Readable (N : JsonText.Numbers) (payload sorted : JsonDict) : Prop where
  sorts : sortKeys (.obj payload) = .obj sorted
  once : JsonText.Faithful N (dumps (.obj sorted))
  fits : (jsonDumps N payload).length < maxBytes
  bare : '\x7d' ∉ JsonText.writeFields N true (dumpsFields sorted)

lemma readable_session {outcome sessionId : String}
    (houtcome : outcome = "completed" ∨ outcome = "cancelled")
    (hid : validateSessionId sessionId = .ok ()) :
    Readable N (sessionResponse outcome sessionId) (sessionResponse outcome sessionId) := by
  obtain ⟨hlength, hchars⟩ := validateSessionId_chars hid
  have hsorts := sortKeys_session outcome sessionId
  refine ⟨hsorts, ?_, ?_, ?_⟩
  · have hne : ofString "outcome" ≠ ofString "session_id" := by decide
    simp [sessionResponse, dumps, dumpsFields, JsonText.Faithful, JsonText.FaithfulFields, hne]
  · have hid' := writeText_length fun c hc => safe_of_idChar (hchars c hc)
    have hkeys : (JsonText.writeText (ofString "outcome")).length = 9 ∧
        (JsonText.writeText (ofString "session_id")).length = 12 := by decide
    have hout : (JsonText.writeText (ofString outcome)).length = 11 := by
      rcases houtcome with rfl | rfl <;> decide
    rw [jsonDumps, hsorts]
    simp only [sessionResponse, dumps, dumpsFields, JsonText.write, JsonText.writeFields,
      JsonText.gap, List.length_append, List.length_cons, List.length_nil, hid', hkeys.1, hkeys.2,
      hout, maxBytes, if_true]
    omega
  · have hkeys := @bare_writeText "outcome" (safe_of_all (by decide))
    have hkeys' := @bare_writeText "session_id" (safe_of_all (by decide))
    have hout : '\x7d' ∉ JsonText.writeText (ofString outcome) := by
      rcases houtcome with rfl | rfl
      · exact bare_writeText (safe_of_all (by decide))
      · exact bare_writeText (safe_of_all (by decide))
    have hid' := bare_writeText fun c hc => safe_of_idChar (hchars c hc)
    simp [sessionResponse, dumps, dumpsFields, JsonText.writeFields, JsonText.write, JsonText.gap,
      hkeys, hkeys', hout, hid']

lemma readable_busy : Readable N Report.busy.response Report.busy.response := by
  refine ⟨sortKeys_busy, ?_, ?_, ?_⟩
  · simp [Report.response, dumps, dumpsFields, JsonText.Faithful, JsonText.FaithfulFields]
  · rw [jsonDumps, sortKeys_busy]
    simp only [Report.response, dumps, dumpsFields, JsonText.write, JsonText.writeFields]
    decide
  · simp only [Report.response, dumps, dumpsFields, JsonText.write, JsonText.writeFields]
    decide

lemma readable_failed {error : String} (hsafe : ∀ c ∈ error.toList, Safe c)
    (hshort : error.toList.length ≤ 20) :
    Readable N (failedResponse error) [("error", .str error), ("outcome", .str "failed")] := by
  have hsorts := sortKeys_failed error
  refine ⟨hsorts, ?_, ?_, ?_⟩
  · have hne : ofString "error" ≠ ofString "outcome" := by decide
    simp [dumps, dumpsFields, JsonText.Faithful, JsonText.FaithfulFields, hne]
  · have herror := writeText_length hsafe
    have hkeys : (JsonText.writeText (ofString "error")).length = 7 ∧
        (JsonText.writeText (ofString "outcome")).length = 9 ∧
          (JsonText.writeText (ofString "failed")).length = 8 := by decide
    rw [jsonDumps, hsorts]
    simp only [dumps, dumpsFields, JsonText.write, JsonText.writeFields, JsonText.gap,
      List.length_append, List.length_cons, List.length_nil, herror, hkeys.1, hkeys.2.1,
      hkeys.2.2, maxBytes, if_true]
    omega
  · have hkeys := @bare_writeText "error" (safe_of_all (by decide))
    have hkeys' := @bare_writeText "outcome" (safe_of_all (by decide))
    have hfailed := @bare_writeText "failed" (safe_of_all (by decide))
    simp [dumps, dumpsFields, JsonText.writeFields, JsonText.write, JsonText.gap, hkeys, hkeys',
      hfailed, bare_writeText hsafe]

lemma jsonDumps_plain (payload : JsonDict) : Plain (jsonDumps N payload) :=
  JsonText.write_plain N true _

/-- The line of a response that is small enough. -/
lemma writeResponse_eq {payload sorted : JsonDict} (h : Readable N payload sorted) :
    writeResponse N payload = encodeText (jsonDumps N payload ++ ['\n']) := by
  have hlength : (encodeText (jsonDumps N payload)).length ≤ maxBytes := by
    rw [encodeText_plain (jsonDumps_plain payload), List.length_map]
    exact h.fits.le
  simp only [writeResponse, if_neg (Nat.not_lt.mpr hlength), encodeText_append]
  rfl

/-- The handler reads what the socket writes. -/
lemma decode_writeResponse {payload sorted : JsonDict} (h : Readable N payload sorted) :
    ((decodeText (writeResponse N payload)).bind fun raw => JsonText.read N (stripText raw)) =
      some (.object (dumpsFields sorted)) := by
  rw [writeResponse_eq h, decodeText_encodeText, Option.bind_some]
  have htext : jsonDumps N payload =
      '\x7b' :: JsonText.writeFields N true (dumpsFields sorted) ++ ['\x7d'] := by
    rw [jsonDumps, h.sorts]
    rfl
  have hstrip : stripText (jsonDumps N payload ++ ['\n']) = jsonDumps N payload := by
    rw [htext]
    exact stripText_line (by decide) (by decide)
  have hread := JsonText.read_write N true h.once [] [] (by simp) (by simp)
  rw [List.nil_append, List.append_nil] at hread
  rw [hstrip, jsonDumps, h.sorts, hread, dumps]

lemma decodeResponse_of_readable {payload sorted : JsonDict} (h : Readable N payload sorted) :
    (decodeText (writeResponse N payload)).bind (decodeResponse N S) =
      normalizeResponse S (dumpsFields sorted) := by
  have hline := decode_writeResponse h
  rcases hraw : decodeText (writeResponse N payload) with _ | raw
  · rw [hraw] at hline
    cases hline
  · rw [hraw, Option.bind_some] at hline
    rw [Option.bind_some, decodeResponse, hline]

lemma lookup_sessionId (outcome sessionId : String) :
    (dumpsFields (sessionResponse outcome sessionId)).lookup (ofString "session_id") =
      some (.text (ofString sessionId)) := by
  have hne : (ofString "session_id" == ofString "outcome") = false := by decide
  simp only [sessionResponse, dumpsFields, dumps, List.lookup_cons, hne, beq_self_eq_true]

lemma normalize_session (S : PyStr) {outcome : String}
    (h : outcome = "completed" ∨ outcome = "cancelled") (sessionId : String) :
    normalizeResponse S (dumpsFields (sessionResponse outcome sessionId)) =
      some (sessionResponse outcome sessionId) := by
  have houtcome : (dumpsFields (sessionResponse outcome sessionId)).lookup (ofString "outcome") =
      some (.text (ofString outcome)) := by
    simp only [sessionResponse, dumpsFields, dumps, List.lookup_cons_self]
  simp only [normalizeResponse, lookup_sessionId, houtcome, Option.map_some, Option.getD_some,
    S.str_text]
  rcases h with rfl | rfl
  · rw [if_pos rfl]
  · rw [if_neg (by decide), if_neg (by decide), if_pos rfl]

lemma normalize_failed (S : PyStr) (error : String) :
    normalizeResponse S (dumpsFields [("error", .str error), ("outcome", .str "failed")]) =
      some (failedResponse "activation failed") := by
  have hne : (ofString "outcome" == ofString "error") = false := by decide
  have houtcome : (dumpsFields [("error", .str error), ("outcome", .str "failed")]).lookup
      (ofString "outcome") = some (.text (ofString "failed")) := by
    simp only [dumpsFields, dumps, List.lookup_cons, hne, beq_self_eq_true]
  simp only [normalizeResponse, houtcome]
  rw [if_neg (by decide), if_neg (by decide), if_neg (by decide)]

/-- What becomes of an activation whose session has an id is reported with a valid one. -/
def Report.Valid : Report → Prop
  | .completed sessionId | .cancelled sessionId => validateSessionId sessionId = .ok ()
  | .busy | .failed => True

/-- The line of a report says what it is to the handler. -/
lemma readable_report {r : Report} (hr : r.Valid) : ∃ sorted, Readable N r.response sorted ∧
    normalizeResponse S (dumpsFields sorted) = some r.response := by
  cases r with
  | completed sessionId =>
    exact ⟨_, readable_session (.inl rfl) hr, normalize_session S (by decide) sessionId⟩
  | cancelled sessionId =>
    exact ⟨_, readable_session (.inr rfl) hr, normalize_session S (by decide) sessionId⟩
  | busy => exact ⟨_, readable_busy, rfl⟩
  | failed =>
    exact ⟨_, readable_failed (safe_of_all (by decide)) (by decide), normalize_failed S _⟩

/-- A request that was refused is a failed activation to the handler. -/
lemma readable_failure (e : Failure) : ∃ sorted, Readable N e.response sorted ∧
    normalizeResponse S (dumpsFields sorted) = some Report.failed.response := by
  have hfailed {error : String} (hsafe : ∀ c ∈ error.toList, Safe c)
      (hshort : error.toList.length ≤ 20) : ∃ sorted, Readable N (failedResponse error) sorted ∧
        normalizeResponse S (dumpsFields sorted) = some Report.failed.response :=
    ⟨_, readable_failed hsafe hshort, normalize_failed S error⟩
  cases e with
  | timeout => exact hfailed (safe_of_all (by decide)) (by decide)
  | protocol => exact hfailed (safe_of_all (by decide)) (by decide)
  | other => exact hfailed (safe_of_all (by decide)) (by decide)

/-! ### The socket -/

lemma reportOf_valid {result : Controller.TerminalSessionResult}
    (h : validateSessionId result.sessionId = .ok ()) : (reportOf result).Valid := by
  unfold reportOf
  cases result.outcome with
  | completed => exact h
  | cancelled => exact h
  | failed => exact trivial
  | timedOut => exact trivial

lemma report_valid {controller : Behaviour} (h : ValidIds controller) :
    (report controller).Valid := by
  unfold report
  split
  · exact trivial
  split
  · exact trivial
  · exact trivial
  split
  · exact trivial
  · rename_i result hresult
    exact reportOf_valid (h _ _ hresult)

/-- Whatever the controller raises, the line says what its report is. -/
lemma answer_report (controller : Behaviour) :
    (∃ e, answer controller = .error e ∧ report controller = .failed) ∨
      answer controller = .ok (report controller).response := by
  unfold answer report
  rcases controller.activate with e | activation
  · exact Or.inl ⟨e, rfl, rfl⟩
  simp only [bind, Except.bind, pure, Except.pure]
  cases activation.status with
  | busy => exact Or.inr rfl
  | failed => exact Or.inr rfl
  | opened =>
    dsimp only
    rcases controller.terminal (activation.sessionId.getD "") with e | result
    · exact Or.inl ⟨e, rfl, rfl⟩
    · obtain ⟨sessionId, outcome, error⟩ := result
      cases outcome <;> exact Or.inr rfl

lemma jsonDumps_line {payload sorted : JsonDict} (h : Readable N payload sorted) :
    ∃ text, Plain text ∧ text.length < maxBytes ∧
      writeResponse N payload = text.map Char.toNat ++ [10] := by
  refine ⟨jsonDumps N payload, jsonDumps_plain payload, h.fits, ?_⟩
  rw [writeResponse_eq h, encodeText_append, encodeText_plain (jsonDumps_plain payload)]
  rfl

/-- What the answer to a client says: of a request that is refused, that it has failed. -/
def reported (client : Client) (controller : Behaviour) (N : JsonText.Numbers) : Report :=
  if (handleClient N client controller).1 then report controller else .failed

/-! ### A session that is completed -/

lemma one_fits : 1 < 2 ^ 53 := by decide

lemma thousand_fits : 1000 < 2 ^ 53 := by decide

lemma half_ge : (-1074 : ℤ) ≤ -1 := by decide

lemma half_le : (-1 : ℤ) ≤ 971 := by decide

def half : Binary64 := ⟨1, -1, one_fits, half_ge, half_le⟩

def thousand : Binary64 :=
  ⟨1000, 0, thousand_fits, Binary64.zero.exp_ge, Binary64.zero.exp_le⟩

def halfNumeral : JsonText.Numeral :=
  ⟨false, 0, ['5'], [], by simp, .inl rfl, .inl (by simp)⟩

def thousandNumeral : JsonText.Numeral :=
  ⟨false, 1000, ['0'], [], by simp, .inl rfl, .inl (by simp)⟩

/-- The floats of one payload. -/
def twoNumbers : JsonText.Numbers where
  spell _ m := if m = half then halfNumeral else thousandNumeral
  value text :=
    if text = "0.5".toList ∨ text = "0.500000000".toList then .finite false half
    else if text = "1000.0".toList ∨ text = "1000.000000000".toList then .finite false thousand
    else .nan
  reads_back := by
    intro text negative m h
    split_ifs at h
    · obtain ⟨rfl, rfl⟩ := PyFloat.finite.inj h
      decide
    · obtain ⟨rfl, rfl⟩ := PyFloat.finite.inj h
      decide

/-- A text is its own `str`, and every other value the empty one. -/
def onlyTexts : PyStr where
  str
    | .text units => (readText units).getD ""
    | _ => ""
  str_text s := by
    show (readText (ofString s)).getD "" = s
    rw [readText_ofString, Option.getD_some]

/-- A controller whose session is completed. -/
def completing : Behaviour where
  activate := .ok { status := .opened, sessionId := some "s-1234567890", error := none }
  terminal _ := .ok { sessionId := "s-1234567890", outcome := .completed, error := none }

lemma validIds_completing : ValidIds completing := by
  intro _ result h
  obtain rfl := Except.ok.inj h
  decide

/-! ### The answer -/

/-- What is written to a client is a response that says what has become of the activation. -/
lemma answered (N : JsonText.Numbers) (S : PyStr) (client : Client) {controller : Behaviour}
    (hids : ValidIds controller) : ∃ payload sorted, Readable N payload sorted ∧
      (handleClient N client controller).2 = writeResponse N payload ∧
        normalizeResponse S (dumpsFields sorted) =
          some (reported client controller N).response := by
  rcases hrequest : readRequest N client with e | _
  · have hrun : handleClient N client controller = (false, writeResponse N e.response) := by
      simp [handleClient, hrequest]
    obtain ⟨sorted, hreadable, hnormal⟩ := readable_failure (N := N) (S := S) e
    refine ⟨e.response, sorted, hreadable, by rw [hrun], ?_⟩
    simpa [reported, hrun] using hnormal
  · rcases answer_report controller with ⟨e, hanswer, hreport⟩ | hanswer
    · have hrun : handleClient N client controller = (true, writeResponse N e.response) := by
        simp [handleClient, hrequest, hanswer]
      obtain ⟨sorted, hreadable, hnormal⟩ := readable_failure (N := N) (S := S) e
      refine ⟨e.response, sorted, hreadable, by rw [hrun], ?_⟩
      simpa [reported, hrun, hreport] using hnormal
    · have hrun : handleClient N client controller =
          (true, writeResponse N (report controller).response) := by
        simp [handleClient, hrequest, hanswer]
      obtain ⟨sorted, hreadable, hnormal⟩ := readable_report (N := N) (S := S) (report_valid hids)
      refine ⟨(report controller).response, sorted, hreadable, by rw [hrun], ?_⟩
      simpa [reported, hrun] using hnormal

lemma asked_iff (N : JsonText.Numbers) (client : Client) (controller : Behaviour) :
    (handleClient N client controller).1 = true ↔ readRequest N client = .ok () := by
  unfold handleClient
  rcases readRequest N client with e | _
  · simp
  · rcases answer controller with e | payload <;> simp

/-! ### The payload -/

lemma fixed9_digits_isDigit (x : Fixed9) : ∀ c ∈ x.digits, c.isDigit = true := by
  intro c hc
  rw [Fixed9.digits, List.leftpad, List.mem_append] at hc
  rcases hc with hc | hc
  · rw [List.eq_of_mem_replicate hc]
    decide
  · exact JsonText.isDigit_toDigits hc

lemma fixed9_digits_ne_nil (x : Fixed9) : x.digits ≠ [] := by
  intro h
  have hempty := (List.append_eq_nil_iff.mp h).2
  exact Nat.toDigits_ne_nil hempty

/-- A number that `"%.9f"` has written. -/
def Fixed9.numeral (x : Fixed9) : JsonText.Numeral where
  negative := false
  whole := x.whole
  fraction := x.digits
  exponent := []
  digits := fixed9_digits_isDigit x
  scaled := Or.inl rfl
  broken := Or.inl (fixed9_digits_ne_nil x)

lemma fixed9_text (x : Fixed9) : (Fixed9.numeral x).text = x.text := by
  simp [JsonText.Numeral.text, Fixed9.numeral, JsonText.sign, Fixed9.text, fixed9_digits_ne_nil]

lemma readValue_fixed9 (x : Fixed9) (fuel : ℕ) {rest : List Char}
    (hrest : JsonText.Delimited rest) :
    JsonText.readValue N (fuel + 1) (x.text ++ rest) =
      some (.number (.decimal (N.value x.text)), rest) := by
  have hnumber := JsonText.readNumber_numeral N (Fixed9.numeral x) hrest
  rw [fixed9_text] at hnumber
  have hsplit : x.text ++ rest = JsonText.sign false ++
      (Nat.toDigits 10 x.whole ++ ('.' :: x.digits ++ rest)) := by
    simp [Fixed9.text, JsonText.sign]
  rw [hsplit] at hnumber ⊢
  rw [JsonText.readValue_number, hnumber]
  rfl

/-- The message that the payload stands for. -/
def payloadMessage (N : JsonText.Numbers) (probability detectedAt : Fixed9) : LoopbackMessage :=
  .activation (N.value probability.text) (N.value detectedAt.text) true

lemma faithful_payload (probability detectedAt : Fixed9) : JsonText.Faithful N
    (dumps (.obj (modelDump (payloadMessage N probability detectedAt)))) := by
  refine ⟨?_, trivial, JsonText.kept_value N _, JsonText.kept_value N _, trivial, trivial⟩
  show [ofString "type", ofString "probability", ofString "detected_at",
    ofString "native_listener"].Nodup
  decide

lemma writeText_name (text : String) (h : text.toList.all (fun c => decide (Safe c)) = true) :
    JsonText.writeText (ofString text) = '"' :: text.toList ++ ['"'] :=
  writeText_safe (safe_of_all h)

/-- The names in a payload and the text of its type, as they are written. -/
lemma writeText_names :
    JsonText.writeText (ofString "type") = "\"type\"".toList ∧
      JsonText.writeText (ofString "activation") = "\"activation\"".toList ∧
      JsonText.writeText (ofString "probability") = "\"probability\"".toList ∧
      JsonText.writeText (ofString "detected_at") = "\"detected_at\"".toList ∧
      JsonText.writeText (ofString "native_listener") = "\"native_listener\"".toList := by
  refine ⟨?_, ?_, ?_, ?_, ?_⟩
  all_goals
    rw [writeText_name _ (by decide)]
    simp

/-- The payload, field by field. -/
lemma activationPayload_eq (probability detectedAt : Fixed9) :
    activationPayload probability detectedAt =
      '\x7b' :: (JsonText.writeText (ofString "type") ++
        ':' :: (JsonText.writeText (ofString "activation") ++
        ',' :: (JsonText.writeText (ofString "probability") ++ ':' :: (probability.text ++
        ',' :: (JsonText.writeText (ofString "detected_at") ++ ':' :: (detectedAt.text ++
        ',' :: (JsonText.writeText (ofString "native_listener") ++
          ':' :: ("true".toList ++ '\x7d' :: ['\n'])))))))) := by
  obtain ⟨htype, hactivation, hprobability, hdetected, hnative⟩ := writeText_names
  unfold activationPayload
  simp [htype, hactivation, hprobability, hdetected, hnative]

lemma activationPayload_length (probability detectedAt : Fixed9) :
    (activationPayload probability detectedAt).length =
      probability.text.length + detectedAt.text.length + 75 := by
  unfold activationPayload
  simp only [List.length_append, String.reduceToList, List.length_cons, List.length_nil]
  omega

lemma skip_fixed9 (x : Fixed9) (rest : List Char) :
    JsonText.skip (x.text ++ rest) = x.text ++ rest := by
  have hopens : JsonText.Opens (JsonText.sign false ++
      (Nat.toDigits 10 x.whole ++ ('.' :: x.digits ++ rest))) := JsonText.opens_number _
  have htext : JsonText.sign false ++ (Nat.toDigits 10 x.whole ++ ('.' :: x.digits ++ rest)) =
      x.text ++ rest := by
    simp [Fixed9.text, JsonText.sign]
  rw [htext] at hopens
  obtain ⟨c, tail, hc, hblank, -⟩ := hopens
  rw [hc]
  exact JsonText.skip_cons hblank _

/-- The handler reads the payload of the listener as its document, up to the line end. -/
lemma rawDecode_payload (probability detectedAt : Fixed9) :
    JsonText.rawDecode N (activationPayload probability detectedAt) =
      some (dumps (.obj (modelDump (payloadMessage N probability detectedAt))), ['\n']) := by
  have hcomma (rest : List Char) : JsonText.Delimited (',' :: rest) :=
    JsonText.delimited_cons (by decide) rest
  have hskip (units : List UInt16) (rest : List Char) :
      JsonText.skip (JsonText.writeText units ++ rest) = JsonText.writeText units ++ rest :=
    JsonText.skip_cons (by decide) _
  have htext (fuel : ℕ) (units : List UInt16) (rest : List Char) :
      JsonText.readValue N (fuel + 1) (JsonText.writeText units ++ rest) =
        some (.text units, rest) :=
    JsonText.readValue_writeText N fuel units rest
  -- the fields, from the last one to the first
  set last := JsonText.writeText (ofString "native_listener") ++
    ':' :: ("true".toList ++ '\x7d' :: ['\n']) with hlast
  have hnative (fuel : ℕ) : JsonText.readFields N (fuel + 2) last =
      some ([(ofString "native_listener", .bool true)], ['\n']) :=
    JsonText.readFields_last N rfl rfl
  have hdetected (fuel : ℕ) : JsonText.readFields N (fuel + 3)
      (JsonText.writeText (ofString "detected_at") ++ ':' :: (detectedAt.text ++ ',' :: last)) =
        some ([(ofString "detected_at", .number (.decimal (N.value detectedAt.text))),
          (ofString "native_listener", .bool true)], ['\n']) := by
    rw [JsonText.readFields_next N (skip_fixed9 _ _) (readValue_fixed9 _ _ (hcomma _)),
      hskip, hnative]
    rfl
  have hprobability (fuel : ℕ) : JsonText.readFields N (fuel + 4)
      (JsonText.writeText (ofString "probability") ++ ':' :: (probability.text ++
        ',' :: (JsonText.writeText (ofString "detected_at") ++
          ':' :: (detectedAt.text ++ ',' :: last)))) =
        some ([(ofString "probability", .number (.decimal (N.value probability.text))),
          (ofString "detected_at", .number (.decimal (N.value detectedAt.text))),
          (ofString "native_listener", .bool true)], ['\n']) := by
    rw [JsonText.readFields_next N (skip_fixed9 _ _) (readValue_fixed9 _ _ (hcomma _)),
      hskip, hdetected]
    rfl
  have htype (fuel : ℕ) : JsonText.readFields N (fuel + 5)
      (JsonText.writeText (ofString "type") ++ ':' :: (JsonText.writeText (ofString "activation") ++
        ',' :: (JsonText.writeText (ofString "probability") ++ ':' :: (probability.text ++
          ',' :: (JsonText.writeText (ofString "detected_at") ++
            ':' :: (detectedAt.text ++ ',' :: last)))))) =
        some (dumpsFields (modelDump (payloadMessage N probability detectedAt)), ['\n']) := by
    rw [JsonText.readFields_next N (hskip _ _) (htext _ _ _), hskip, hprobability]
    rfl
  have hopens (rest : List Char) :
      JsonText.Opens (JsonText.writeText (ofString "type") ++ rest) :=
    ⟨'"', _, rfl, by decide, by decide, by decide⟩
  have hkeys : JsonText.Faithful N
      (dumps (.obj (modelDump (payloadMessage N probability detectedAt)))) :=
    faithful_payload _ _
  rw [JsonText.rawDecode, activationPayload_eq]
  obtain ⟨fuel, hfuel⟩ : ∃ fuel, (List.length ('\x7b' :: (JsonText.writeText (ofString "type") ++
      ':' :: (JsonText.writeText (ofString "activation") ++
        ',' :: (JsonText.writeText (ofString "probability") ++ ':' :: (probability.text ++
          ',' :: (JsonText.writeText (ofString "detected_at") ++
            ':' :: (detectedAt.text ++ ',' :: last)))))))) + 2 = fuel + 6 := by
    refine ⟨_, (Nat.sub_add_cancel ?_).symm⟩
    simp only [List.length_cons, List.length_append]
    omega
  rw [hfuel, JsonText.readValue_object N _ (hopens _), htype]
  rw [Option.map_some, JsonText.setFields_nodup hkeys.1]
  rfl

/-- The numbers of the payload are read as numbers that an activation may have. -/
structure Acceptable (N : JsonText.Numbers) (probability detectedAt : Fixed9) : Prop where
  probability : isProbability (N.value probability.text) = true
  detectedAt : isPositive (N.value detectedAt.text) = true

lemma isFinite_of_isProbability {x : PyFloat} (h : isProbability x = true) :
    x.isFinite = true := by
  cases x with
  | finite negative m => rfl
  | inf negative => cases h
  | nan => cases h

lemma isFinite_of_isPositive {x : PyFloat} (h : isPositive x = true) : x.isFinite = true := by
  cases x with
  | finite negative m => rfl
  | inf negative => cases h
  | nan => cases h

lemma Acceptable.valid {probability detectedAt : Fixed9} (h : Acceptable N probability detectedAt) :
    Valid (payloadMessage N probability detectedAt) :=
  ⟨isFinite_of_isProbability h.probability, h.probability, isFinite_of_isPositive h.detectedAt,
    h.detectedAt⟩

/-- A valid message is read in its document, the fields in the order of their declaration. -/
lemma parseText_modelDump {m : LoopbackMessage} (hm : Valid m) :
    parseText (dumps (.obj (modelDump m))) none = .ok m := by
  rw [parseText, PageTiming.readFrame, loads_dumps]
  exact validateMessage_modelDump hm

lemma oneByte_fixed9 (x : Fixed9) : OneByte x.text := by
  rw [← fixed9_text]
  exact oneByte_of_plain (JsonText.plain_numeral _)

lemma activationPayload_oneByte (probability detectedAt : Fixed9) :
    OneByte (activationPayload probability detectedAt) := by
  unfold activationPayload
  refine .append (.append (.append (.append ?_ (oneByte_fixed9 _)) ?_) (oneByte_fixed9 _)) ?_
  · exact oneByte_of_all (by decide)
  · exact oneByte_of_all (by decide)
  · exact oneByte_of_all (by decide)

lemma encodeText_length {text : List Char} (h : OneByte text) :
    (encodeText text).length = text.length := by
  rw [encodeText_oneByte h, List.length_map]

/-- The handler reads the payload of the listener, and validates what it reads. -/
lemma parseStdinMessage_payload {probability detectedAt : Fixed9}
    (hshort : (activationPayload probability detectedAt).length < 256) :
    parseStdinMessage N (encodeText (activationPayload probability detectedAt)) =
      (parseText (dumps (.obj (modelDump (payloadMessage N probability detectedAt)))) none).bind
        fun m => match m with
          | .activation p t n => .ok (.activation p t n)
          | _ => .error (.valueError "not activation message") := by
  have hlength := encodeText_length (activationPayload_oneByte probability detectedAt)
  have htake : (encodeText (activationPayload probability detectedAt)).take (maxBytes + 1) =
      encodeText (activationPayload probability detectedAt) :=
    List.take_of_length_le (by rw [hlength, maxBytes]; omega)
  have hne : encodeText (activationPayload probability detectedAt) ≠ [] := by
    intro hnil
    rw [hnil, activationPayload_eq] at hlength
    simp at hlength
  have hraw : JsonText.rawDecode N (activationPayload probability detectedAt) = some
      (.object (dumpsFields (modelDump (payloadMessage N probability detectedAt))), ['\n']) :=
    rawDecode_payload probability detectedAt
  have hsingle : decodeSingleJson N (encodeText (activationPayload probability detectedAt)) =
      .ok (activationPayload probability detectedAt) := by
    have hstrip : stripText ['\n'] = [] := by decide
    simp only [decodeSingleJson, decodeText_encodeText, hraw, hstrip, ne_eq, not_true_eq_false,
      if_false]
  have hparse : parseLoopback N (some (activationPayload probability detectedAt)) =
      parseText (dumps (.obj (modelDump (payloadMessage N probability detectedAt)))) none := by
    have hskip : JsonText.skip (activationPayload probability detectedAt) =
        activationPayload probability detectedAt := by
      rw [activationPayload_eq]
      exact JsonText.skip_cons (by decide) _
    have hend : JsonText.skip ['\n'] = [] := by decide
    have hread : JsonText.read N (activationPayload probability detectedAt) =
        some (.object (dumpsFields (modelDump (payloadMessage N probability detectedAt)))) := by
      simp only [JsonText.read, hskip, hraw, hend, if_true]
    simp only [parseLoopback, Option.bind_some, hread]
    rfl
  have hlong : ¬ (encodeText (activationPayload probability detectedAt)).length > maxBytes := by
    rw [hlength, maxBytes]
    omega
  rcases hresult :
    parseText (dumps (.obj (modelDump (payloadMessage N probability detectedAt)))) none with e | m
  · simp [parseStdinMessage, htake, hne, hlong, hsingle, hparse, hresult, bind, Except.bind]
  · cases m <;>
      simp [parseStdinMessage, htake, hne, hlong, hsingle, hparse, hresult, bind, Except.bind]

lemma parseText_of_acceptable {probability detectedAt : Fixed9}
    (h : Acceptable N probability detectedAt) :
    parseText (dumps (.obj (modelDump (payloadMessage N probability detectedAt)))) none =
      .ok (payloadMessage N probability detectedAt) :=
  parseText_modelDump h.valid

lemma error_ne_ok {e : PyError} {m : LoopbackMessage}
    (h : (.error e : Except PyError LoopbackMessage) = .ok m) : False := by
  cases h

/-- Nothing else is accepted. -/
lemma acceptable_of_parseText {probability detectedAt : Fixed9} {m : LoopbackMessage}
    (h : parseText (dumps (.obj (modelDump (payloadMessage N probability detectedAt)))) none =
      .ok m) : Acceptable N probability detectedAt := by
  have hfloat {field : String} {x : PyFloat} (hx : x.isFinite = true) :
      finiteFloat field (some (.float x)) = .ok x := by simp [finiteFloat, hx]
  have hinvalid {field : String} {x : PyFloat} (hx : ¬ x.isFinite = true) :
      finiteFloat field (some (.float x)) = invalid (field ++ " must be finite") := by
    simp [finiteFloat, hx]
  set p := N.value probability.text with hp
  set t := N.value detectedAt.text with ht
  rw [parseText, PageTiming.readFrame, loads_dumps] at h
  have hkeys : onlyKeys ["type", "probability", "detected_at", "native_listener"]
      (modelDump (.activation p t true)) = .ok () := by
    simp [onlyKeys, modelDump]
  change (do
    let p ← finiteFloat "probability" (some (.float p))
    let t ← finiteFloat "detected_at" (some (.float t))
    let nativeListener ← Except.ok true
    onlyKeys ["type", "probability", "detected_at", "native_listener"]
      (modelDump (.activation p t true))
    if ¬ isProbability p then invalid "probability must be in the range [0, 1]"
    else if ¬ isPositive t then invalid "detected_at must be > 0"
    else pure (LoopbackMessage.activation p t nativeListener)) = Except.ok m at h
  by_cases hpf : p.isFinite = true
  · by_cases htf : t.isFinite = true
    · rw [hfloat hpf, hfloat htf] at h
      simp only [bind, Except.bind, hkeys] at h
      by_cases hprobability : isProbability p = true
      · by_cases hpositive : isPositive t = true
        · exact ⟨hprobability, hpositive⟩
        · rw [if_neg (not_not.mpr hprobability), if_pos hpositive] at h
          exact (error_ne_ok h).elim
      · rw [if_pos hprobability] at h
        exact (error_ne_ok h).elim
    · rw [hfloat hpf, hinvalid htf] at h
      exact (error_ne_ok h).elim
  · rw [hinvalid hpf] at h
    exact (error_ne_ok h).elim

/-! ### The request -/

lemma readRequestLine_line {text : List Char} (h : Plain text) (hne : text ≠ [])
    (hlength : text.length < maxBytes) (ended : Bool) :
    readRequestLine ⟨text.map Char.toNat ++ [10], ended, [], true⟩ =
      .ok (text.map Char.toNat, []) := by
  set payload := text.map Char.toNat with hpayload
  have hrange : ∀ b ∈ payload, 32 ≤ b := by
    intro b hb
    obtain ⟨c, hc, rfl⟩ := List.mem_map.mp hb
    exact (h c hc).1
  have hten : ∀ b ∈ payload, (b != 10) = true := fun b hb => by
    have := hrange b hb
    simp
    omega
  have hsize : payload.length < maxBytes := by rwa [hpayload, List.length_map]
  have hsome : payload ≠ [] := by simpa [hpayload] using hne
  have htake : (payload ++ [10]).takeWhile (· != 10) = payload := by
    rw [List.takeWhile_append_of_pos hten]
    simp
  have hdrop : (payload ++ [10]).dropWhile (· != 10) = [10] := by
    rw [List.dropWhile_append_of_pos hten]
    simp
  have hstrip : (payload.reverse.dropWhile (· == 13)).reverse = payload := by
    cases hreverse : payload.reverse with
    | nil => exact absurd (List.reverse_eq_nil_iff.mp hreverse) hsome
    | cons b rest =>
      have hb : 32 ≤ b := hrange b (List.mem_reverse.mp (hreverse ▸ List.mem_cons_self))
      rw [List.dropWhile_cons_of_neg (by simp; omega), ← hreverse, List.reverse_reverse]
  have hclean : 10 ∉ payload := fun hmem => by
    have := hrange 10 hmem
    omega
  have hline : readline ⟨payload ++ [10], ended, [], true⟩ = .ok (payload ++ [10], []) := by
    have hlimit : ¬ payload.length > streamLimit := by
      rw [maxBytes] at hsize
      rw [streamLimit]
      omega
    simp only [readline, htake, hdrop, if_neg hlimit]
  rw [readRequestLine, hline]
  simp only [bind, Except.bind, List.dropLast_concat, hstrip]
  rw [if_neg (by simp), if_neg (by simp; omega), if_neg (by simp), if_neg hclean,
    if_neg (by omega), if_neg hsome]

/-- A number that is not too long, as all floats are written. -/
def Short (N : JsonText.Numbers) : Prop :=
  ∀ negative m, (N.spell negative m).text.length ≤ 24

lemma short_twoNumbers : Short twoNumbers := by
  intro negative m
  show (JsonText.Numeral.text (if m = half then halfNumeral else thousandNumeral)).length ≤ 24
  split
  · decide
  · decide

/-- The text of the request, field by field. -/
lemma request_eq (p t : PyFloat) :
    JsonText.write N true (dumps (.obj (modelDump (.activation p t true)))) =
      "\x7b\"type\":\"activation\",\"probability\":".toList ++
        JsonText.writeNumber N (.decimal p) ++ ",\"detected_at\":".toList ++
          JsonText.writeNumber N (.decimal t) ++ ",\"native_listener\":true\x7d".toList := by
  obtain ⟨htype, hactivation, hprobability, hdetected, hnative⟩ := writeText_names
  simp [modelDump, dumps, dumpsFields, JsonText.write, JsonText.writeFields, JsonText.gap, htype,
    hactivation, hprobability, hdetected, hnative]

lemma writeNumber_short (hN : Short N) (x : PyFloat) :
    (JsonText.writeNumber N (.decimal x)).length ≤ 24 := by
  cases x with
  | finite negative m => exact hN negative m
  | inf negative => cases negative <;> simp [JsonText.writeNumber, JsonText.sign]
  | nan => simp [JsonText.writeNumber]

lemma request_short (hN : Short N) (p t : PyFloat) :
    (JsonText.write N true (dumps (.obj (modelDump (.activation p t true))))).length <
      maxBytes := by
  have hp := writeNumber_short hN p
  have ht := writeNumber_short hN t
  have hconst : "\x7b\"type\":\"activation\",\"probability\":".toList.length = 35 ∧
      ",\"detected_at\":".toList.length = 15 ∧
        ",\"native_listener\":true\x7d".toList.length = 24 := by decide
  rw [request_eq]
  simp only [List.length_append, hconst.1, hconst.2.1, hconst.2.2, maxBytes]
  omega

lemma requestLine_short (hN : Short N) (probability detectedAt : Fixed9) :
    (requestLine N (payloadMessage N probability detectedAt)).length ≤ maxBytes := by
  have hlength := request_short hN (N.value probability.text) (N.value detectedAt.text)
  rw [requestLine, encodeText_append, encodeText_plain (JsonText.write_plain N true _)]
  rw [List.length_append, List.length_map]
  exact hlength

/-- The socket takes the request of the handler, once that has ended. -/
lemma readRequest_requestLine (hN : Short N) {probability detectedAt : Fixed9}
    (h : Acceptable N probability detectedAt) (ended : Bool) :
    readRequest N ⟨requestLine N (payloadMessage N probability detectedAt), ended, [], true⟩ =
      .ok () := by
  set m := payloadMessage N probability detectedAt with hm
  set text := JsonText.write N true (dumps (.obj (modelDump m))) with htext
  have hplain : Plain text := JsonText.write_plain N true _
  have hlength : text.length < maxBytes := request_short hN _ _
  have hne : text ≠ [] := by simp [htext, dumps, JsonText.write]
  have hbytes : requestLine N m = text.map Char.toNat ++ [10] := by
    rw [requestLine, encodeText_append, encodeText_plain hplain]
    rfl
  have hread : JsonText.read N text = some (dumps (.obj (modelDump m))) := by
    have hread := JsonText.read_write N true (faithful_payload probability detectedAt) [] []
      (by simp) (by simp)
    rwa [List.nil_append, List.append_nil] at hread
  have hloopback : parseLoopback N (decodeText (text.map Char.toNat)) = .ok m := by
    rw [← encodeText_plain hplain, decodeText_encodeText, parseLoopback, Option.bind_some, hread]
    exact parseText_of_acceptable h
  rw [readRequest, hbytes, readRequestLine_line hplain hne hlength]
  simp only [bind, Except.bind, readTrailing, List.append_nil, ne_eq, not_true_eq_false, if_false,
    Bool.or_true, if_true, parseActivationMessage, hloopback]
  rw [hm, payloadMessage]
  rfl

/-! ### Every client -/

/-- A request that ends only after its line has been read. -/
def asking : Client :=
  ⟨requestLine twoNumbers (payloadMessage twoNumbers ⟨0, 500000000⟩ ⟨1000, 0⟩), false, [], true⟩

lemma acceptable_half : Acceptable twoNumbers ⟨0, 500000000⟩ ⟨1000, 0⟩ :=
  ⟨by decide +kernel, by decide +kernel⟩

/-- **One line for every client**: printable ASCII of bounded length, from which the handler reads
what has become of the activation, and the controller is asked only for an acceptable request. -/
theorem handleClient_line (N : JsonText.Numbers) (S : PyStr) (client : Client)
    {controller : Behaviour} (hids : ValidIds controller) :
    (∃ text, Plain text ∧ text.length < maxBytes ∧
      (handleClient N client controller).2 = text.map Char.toNat ++ [10]) ∧
    (decodeText (handleClient N client controller).2).bind (decodeResponse N S) =
      some (reported client controller N).response ∧
    ((handleClient N client controller).1 = true ↔ readRequest N client = .ok ()) := by
  obtain ⟨payload, sorted, hreadable, hline, hnormal⟩ := answered N S client hids
  refine ⟨?_, ?_, asked_iff N client controller⟩
  · rw [hline]
    exact jsonDumps_line hreadable
  · rw [hline, decodeResponse_of_readable hreadable, hnormal]

/-- The request of the handler gets the answer of the controller, a client that says nothing a
failure. -/
theorem handleClient_request :
    (decodeText (handleClient twoNumbers asking completing).2).bind
        (decodeResponse twoNumbers onlyTexts) = some (Report.completed "s-1234567890").response ∧
      (handleClient twoNumbers asking completing).1 = true ∧
      (decodeText (handleClient twoNumbers ⟨[], false, [], false⟩ completing).2).bind
        (decodeResponse twoNumbers onlyTexts) = some Report.failed.response ∧
      (handleClient twoNumbers ⟨[], false, [], false⟩ completing).1 = false := by
  obtain ⟨-, hdecode, hasked⟩ := handleClient_line twoNumbers onlyTexts asking validIds_completing
  have hanswer : (handleClient twoNumbers asking completing).1 = true :=
    hasked.mpr (readRequest_requestLine short_twoNumbers acceptable_half false)
  obtain ⟨-, hdecode', hasked'⟩ := handleClient_line twoNumbers onlyTexts ⟨[], false, [], false⟩
    validIds_completing
  have hsilent : (handleClient twoNumbers ⟨[], false, [], false⟩ completing).1 = false := by
    rw [Bool.eq_false_iff]
    intro htrue
    cases hasked'.mp htrue
  rw [reported, hanswer] at hdecode
  rw [reported, hsilent] at hdecode'
  exact ⟨hdecode, hanswer, hdecode', hsilent⟩

/-- Something is written after its line only to a client that is gone, and that is a failure. -/
theorem writtenAgain_line {client : Client} {controller : Behaviour} {lost : Bool} {again : Bytes}
    (h : writtenAgain N client controller lost = some again) :
    lost = true ∧ (handleClient N client controller).1 = true ∧
      (decodeText again).bind (decodeResponse N S) = some Report.failed.response := by
  unfold writtenAgain at h
  split at h
  · rename_i hrequest hanswer
    split at h
    · rename_i hlost
      obtain rfl := Option.some.inj h
      obtain ⟨sorted, hreadable, hnormal⟩ := readable_failure (N := N) (S := S) .other
      refine ⟨hlost, (asked_iff N client controller).mpr hrequest, ?_⟩
      rw [decodeResponse_of_readable hreadable, hnormal]
    · cases h
  · cases h

/-! ### Connections that break -/

lemma stripText_closed {c : Char} {text : List Char} (hc : isSpace c = false) :
    stripText (c :: text ++ ['\x7d']) = c :: text ++ ['\x7d'] := by
  rw [stripText, List.cons_append, List.dropWhile_cons_of_neg (by simp [hc]), ← List.cons_append,
    List.reverse_append, List.reverse_singleton, List.singleton_append,
    List.dropWhile_cons_of_neg (by decide), ← List.singleton_append, List.reverse_append,
    List.reverse_reverse, List.reverse_singleton]

lemma mem_stripText {c : Char} {text : List Char} (h : c ∈ stripText text) : c ∈ text := by
  rw [stripText, List.mem_reverse] at h
  have hfront := List.mem_reverse.mp ((List.dropWhile_suffix _).mem h)
  exact (List.dropWhile_suffix _).mem hfront

/-- No object is read in a text without a closing brace. -/
lemma decodeResponse_open {text : List Char} (h : '\x7d' ∉ text) :
    decodeResponse N S text = none := by
  unfold decodeResponse
  split
  · rename_i response hread
    exact absurd (mem_stripText (JsonText.brace_of_read N hread)) h
  · rfl

/-- A line that has been cut off is worth nothing, or as much as the whole line. -/
lemma decode_torn {payload sorted : JsonDict} (h : Readable N payload sorted) {line : Bytes}
    (hline : line <+: writeResponse N payload) :
    (decodeText line).bind (decodeResponse N S) = none ∨
      (decodeText line).bind (decodeResponse N S) = normalizeResponse S (dumpsFields sorted) := by
  set inner := JsonText.writeFields N true (dumpsFields sorted) with hinner
  have htext : jsonDumps N payload = '\x7b' :: inner ++ ['\x7d'] := by
    rw [jsonDumps, h.sorts]
    rfl
  set part := ('\x7b' :: inner ++ ['\x7d'] ++ ['\n']).take line.length with hpart
  have honeByte : OneByte ('\x7b' :: inner ++ ['\x7d'] ++ ['\n']) :=
    .append (htext ▸ oneByte_of_plain (jsonDumps_plain payload)) (oneByte_of_all (by decide))
  have hdecode : decodeText line = some part := by
    rw [writeResponse_eq h, htext, encodeText_oneByte honeByte] at hline
    have heq : line = encodeText part := by
      rw [encodeText_oneByte fun c hc => honeByte c (List.mem_of_mem_take hc), List.map_take]
      exact List.prefix_iff_eq_take.mp hline
    rw [heq, decodeText_encodeText]
  rw [hdecode, Option.bind_some]
  rcases Nat.lt_or_ge line.length (inner.length + 2) with hcut | hwhole
  · -- the closing brace is missing
    refine Or.inl (decodeResponse_open fun hmem => ?_)
    have hfront : part = ('\x7b' :: inner).take line.length := by
      rw [hpart, List.append_assoc, List.take_append_of_le_length (by simp; omega)]
    rw [hfront] at hmem
    rcases List.mem_cons.mp (List.mem_of_mem_take hmem) with hbrace | hbrace
    · exact absurd hbrace (by decide)
    · exact h.bare hbrace
  · -- at most the line end is missing
    right
    have hfull := decodeResponse_of_readable (S := S) h
    rw [writeResponse_eq h, htext, decodeText_encodeText, Option.bind_some] at hfull
    rw [← hfull]
    have hstrip : stripText part = stripText ('\x7b' :: inner ++ ['\x7d'] ++ ['\n']) := by
      rw [stripText_line (by decide) (by decide)]
      rcases Nat.lt_or_ge line.length (inner.length + 3) with hline' | hline'
      · have hpart' : part = '\x7b' :: inner ++ ['\x7d'] := by
          have hlength : line.length = ('\x7b' :: inner ++ ['\x7d']).length := by simp; omega
          rw [hpart, hlength, List.take_left]
        rw [hpart', stripText_closed (by decide)]
      · have hpart' : part = '\x7b' :: inner ++ ['\x7d'] ++ ['\n'] := by
          rw [hpart, List.take_of_length_le (by simp; omega)]
        rw [hpart', stripText_line (by decide) (by decide)]
    rw [decodeResponse, decodeResponse, hstrip]

/-- All that a connection brings has been written to some client by the service of the controller,
which may have been killed in the middle of a line. -/
def Genuine (N : JsonText.Numbers) (controller : Behaviour) (connecting : Connecting) : Prop :=
  ∀ timeout reply, connecting = .opened timeout reply →
    ∀ request line tail, reply request = .line line tail →
      ∃ client, line <+: (handleClient N client controller).2

lemma requestActivation_genuine {m : LoopbackMessage} {connecting : Connecting}
    {controller : Behaviour} (hids : ValidIds controller)
    (hgenuine : Genuine N controller connecting) {response : JsonDict}
    (h : requestActivation N S m connecting = .ok response) :
    ∃ client, response = (reported client controller N).response := by
  unfold requestActivation at h
  split at h
  · cases h
  · cases h
  rename_i timeout reply
  split at h
  · cases h
  split at h
  · cases h
  split at h
  · cases h
  · cases h
  rename_i line tail hreply
  obtain ⟨client, hline⟩ := hgenuine timeout reply rfl _ _ _ hreply
  obtain ⟨payload, sorted, hreadable, hwritten, hnormal⟩ := answered N S client hids
  rw [hwritten] at hline
  refine ⟨client, ?_⟩
  split_ifs at h
  rcases decode_torn (S := S) hreadable hline with hnone | hsome
  · rw [hnone] at h
    cases h
  · rw [hsome, hnormal] at h
    exact (Except.ok.inj h).symm

lemma exitCode_response (r : Report) : Handoff.exitCode r.response = r.exitCode := by
  cases r <;> rfl

/-- **The handler says nothing of an activation that is not so**: whatever is handed to it and
wherever its connection breaks, it prints and returns what has become of the activation, or that
it has failed. -/
theorem handlerMain_genuine (N : JsonText.Numbers) (S : PyStr) (stdin : Bytes)
    {connecting : Connecting} {controller : Behaviour} (hids : ValidIds controller)
    (hgenuine : Genuine N controller connecting) :
    (handlerMain N S stdin connecting).2 = 1 ∨
      handlerMain N S stdin connecting =
        (some (report controller).response, (report controller).exitCode) := by
  unfold handlerMain
  split
  · split
    · exact Or.inl rfl
    · exact Or.inl rfl
    · rename_i response hresponse
      obtain ⟨client, rfl⟩ := requestActivation_genuine hids hgenuine hresponse
      rw [exitCode_response]
      unfold reported
      split
      · exact Or.inr rfl
      · exact Or.inl rfl
  · exact Or.inl rfl
  · split
    · exact Or.inl rfl
    · exact Or.inl rfl

/-- A service that is killed after twenty bytes of its answer. -/
def killed : Connecting :=
  .opened (some defaultResultTimeout) fun request =>
    .line ((handleClient twoNumbers ⟨request, true, [], true⟩ completing).2.take 20) []

theorem handlerMain_killed :
    (handlerMain twoNumbers onlyTexts (encodeText (activationPayload ⟨0, 500000000⟩ ⟨1000, 0⟩))
        killed).2 = 1 ∨
      handlerMain twoNumbers onlyTexts (encodeText (activationPayload ⟨0, 500000000⟩ ⟨1000, 0⟩))
        killed = (some (report completing).response, (report completing).exitCode) :=
  handlerMain_genuine twoNumbers onlyTexts _ validIds_completing <| by
    rintro timeout reply hreply request line tail hline
    obtain ⟨-, rfl⟩ := Connecting.opened.inj hreply
    obtain ⟨rfl, -⟩ := Reply.line.inj hline
    exact ⟨_, List.take_prefix _ _⟩

/-! ### From the listener to the controller -/

/-- A connection by which the service gets the whole request in time, and the handler its whole
answer. -/
def Served (N : JsonText.Numbers) (controller : Behaviour) (connecting : Connecting) : Prop :=
  ∃ timeout reply, connecting = .opened timeout reply ∧ isResultTimeout timeout = true ∧
    ∀ request, ∃ ended tail, tail.all isByteSpace = true ∧
      reply request = .line (handleClient N ⟨request, ended, [], true⟩ controller).2 tail

lemma Served.genuine {controller : Behaviour} {connecting : Connecting}
    (h : Served N controller connecting) : Genuine N controller connecting := by
  obtain ⟨timeout, reply, rfl, -, hreply⟩ := h
  intro timeout' reply' heq request line tail hline
  obtain ⟨-, rfl⟩ := Connecting.opened.inj heq
  obtain ⟨ended, tail', -, hanswer⟩ := hreply request
  obtain ⟨rfl, -⟩ := Reply.line.inj (hanswer.symm.trans hline)
  exact ⟨_, List.prefix_refl _⟩

lemma requestActivation_served (hN : Short N) {probability detectedAt : Fixed9}
    (h : Acceptable N probability detectedAt) {controller : Behaviour}
    (hids : ValidIds controller) {connecting : Connecting}
    (hserved : Served N controller connecting) :
    requestActivation N S (payloadMessage N probability detectedAt) connecting =
      .ok (report controller).response := by
  obtain ⟨timeout, reply, rfl, htimeout, hreply⟩ := hserved
  set request := requestLine N (payloadMessage N probability detectedAt) with hrequest
  obtain ⟨ended, tail, htail, hline⟩ := hreply request
  set client : Client := ⟨request, ended, [], true⟩ with hclient
  have hasked : (handleClient N client controller).1 = true :=
    (asked_iff N client controller).mpr (readRequest_requestLine hN h ended)
  obtain ⟨payload, sorted, hreadable, hwritten, hnormal⟩ := answered N S client hids
  rw [reported, if_pos hasked] at hnormal
  obtain ⟨text, -, hlength, htext⟩ := jsonDumps_line hreadable
  have hne : writeResponse N payload ≠ [] := by simp [htext]
  have hfits : ¬ (writeResponse N payload).length > maxBytes := by
    rw [htext, List.length_append, List.length_map]
    exact Nat.not_lt.mpr hlength
  have hblank : tail.any (!isByteSpace ·) = false := by
    rw [List.any_eq_false]
    intro b hb
    rw [List.all_eq_true.mp htail b hb]
    decide
  have hdecode := decodeResponse_of_readable (S := S) hreadable
  rw [requestActivation, if_neg (Nat.not_lt.mpr (requestLine_short hN _ _)),
    if_neg (not_not.mpr htimeout)]
  simp only [← hrequest, hline, hwritten, if_neg hne, if_neg hfits, hblank, Bool.false_eq_true,
    if_false, hdecode, hnormal]

/-- What the handler prints, and how it exits, when the service answers. -/
lemma handlerMain_served (hN : Short N) {probability detectedAt : Fixed9}
    (hshort : (activationPayload probability detectedAt).length < 256)
    (h : Acceptable N probability detectedAt) {controller : Behaviour}
    (hids : ValidIds controller) {connecting : Connecting}
    (hserved : Served N controller connecting) :
    handlerMain N S (encodeText (activationPayload probability detectedAt)) connecting =
      (some (report controller).response, (report controller).exitCode) := by
  have hstdin := parseStdinMessage_payload (N := N) hshort
  rw [parseText_of_acceptable h] at hstdin
  have hresponse := requestActivation_served (S := S) hN h hids hserved
  simp only [payloadMessage] at hstdin hresponse
  simp only [handlerMain, hstdin, Except.bind, hresponse, exitCode_response]

lemma handlerMain_unacceptable {probability detectedAt : Fixed9}
    (hshort : (activationPayload probability detectedAt).length < 256)
    (h : ¬ Acceptable N probability detectedAt) (connecting : Connecting) :
    (handlerMain N S (encodeText (activationPayload probability detectedAt)) connecting).2 = 1 := by
  rw [handlerMain, parseStdinMessage_payload hshort]
  rcases hparse : parseText
    (dumps (.obj (modelDump (payloadMessage N probability detectedAt)))) none with e | m
  · simp only [Except.bind]
    split <;> rfl
  · exact absurd (acceptable_of_parseText hparse) h

lemma exitCode_eq_zero {r : Report} : r.exitCode = 0 ↔ ∃ sessionId, r = .completed sessionId := by
  cases r <;> simp [Report.exitCode]

/-- Exit code zero is that of a completed session, wherever the connection breaks. -/
lemma completed_of_exit {stdin : Bytes} {connecting : Connecting} {controller : Behaviour}
    (hids : ValidIds controller) (hgenuine : Genuine N controller connecting)
    (h : (handlerMain N S stdin connecting).2 = 0) :
    ∃ sessionId, report controller = .completed sessionId := by
  unfold handlerMain at h
  split at h
  · split at h
    · cases h
    · cases h
    · rename_i response hresponse
      obtain ⟨client, rfl⟩ := requestActivation_genuine hids hgenuine hresponse
      rw [exitCode_response, exitCode_eq_zero] at h
      unfold reported at h
      split at h
      · exact h
      · obtain ⟨sessionId, hfailed⟩ := h
        cases hfailed
  · cases h
  · split at h <;> cases h

/-- The child ends with zero only as the handler. -/
lemma childEnds_eq_zero {calls : Calls} {handler : Bytes → Ended} {payload : Bytes} :
    childEnds calls handler payload = .exited 0 ↔
      calls.dup2 = true ∧ calls.execv = true ∧ handler payload = .exited 0 := by
  unfold childEnds
  split_ifs with hdup hexec <;> simp_all

/-- All that success takes: every call, and a handler that exits with zero. -/
lemma runHandler_eq_true {calls : Calls} {handler : Bytes → Ended}
    {probability detectedAt : Fixed9} :
    runHandler calls handler probability detectedAt = true ↔
      (activationPayload probability detectedAt).length < 256 ∧ calls = .all ∧
        handler (encodeText (activationPayload probability detectedAt)) = .exited 0 := by
  obtain ⟨pipe2, fork, dup2, execv, writeAll, waitpid⟩ := calls
  unfold runHandler
  dsimp only
  split_ifs with hlong hpipe hfork hwrite hwait
  · simp [Nat.not_lt.mpr hlong]
  · rw [beq_iff_eq, childEnds_eq_zero]
    simp [Calls.all, Nat.not_le.mp hlong, hpipe, hfork, hwrite, hwait, and_assoc]
  · simp [Calls.all, hwait]
  · simp [Calls.all, hwrite]
  · simp [Calls.all, hfork]
  · simp [Calls.all, hpipe]

/-- The connection of a handler that runs to its end is one to the service. -/
def AsksService (N : JsonText.Numbers) (controller : Behaviour) (process : HandlerProcess) : Prop :=
  ∀ connecting, process = .main connecting → Genuine N controller connecting

/-- **The listener takes an activation for handled only when its session has been completed**,
whatever the system answers to its calls, however the handler ends and wherever the connection
breaks; and if the calls succeed and the handler is served, then whenever it has been. The payload,
the request line and the response line are each read as they were meant. -/
theorem runHandler_iff (S : PyStr) (hN : Short N) (calls : Calls) (process : HandlerProcess)
    (probability detectedAt : Fixed9) {controller : Behaviour} (hids : ValidIds controller)
    (hgenuine : AsksService N controller process) :
    (runHandler calls (process.ended N S) probability detectedAt = true →
      (activationPayload probability detectedAt).length < 256 ∧
        Acceptable N probability detectedAt ∧
          ∃ sessionId, report controller = .completed sessionId) ∧
    (calls = .all → (∃ connecting, process = .main connecting ∧ Served N controller connecting) →
      (runHandler calls (process.ended N S) probability detectedAt = true ↔
        (activationPayload probability detectedAt).length < 256 ∧
          Acceptable N probability detectedAt ∧
            ∃ sessionId, report controller = .completed sessionId)) := by
  have hsound : runHandler calls (process.ended N S) probability detectedAt = true →
      (activationPayload probability detectedAt).length < 256 ∧
        Acceptable N probability detectedAt ∧
          ∃ sessionId, report controller = .completed sessionId := by
    intro h
    obtain ⟨hshort, -, hended⟩ := runHandler_eq_true.mp h
    cases process with
    | other ended unsuccessful => exact absurd hended unsuccessful
    | main connecting =>
      have hexit := Ended.exited.inj hended
      refine ⟨hshort, ?_, completed_of_exit hids (hgenuine connecting rfl) hexit⟩
      by_contra hacceptable
      rw [handlerMain_unacceptable hshort hacceptable] at hexit
      cases hexit
  refine ⟨hsound, ?_⟩
  rintro hcalls ⟨connecting, rfl, hserved⟩
  refine ⟨hsound, ?_⟩
  rintro ⟨hshort, hacceptable, hcompleted⟩
  refine runHandler_eq_true.mpr ⟨hshort, hcalls, ?_⟩
  rw [HandlerProcess.ended, handlerMain_served hN hshort hacceptable hids hserved]
  exact congrArg _ (exitCode_eq_zero.mpr hcompleted)

/-- A service that answers at once. -/
def prompt : Connecting :=
  .opened (some defaultResultTimeout) fun request =>
    .line (handleClient twoNumbers ⟨request, true, [], true⟩ completing).2 []

lemma served_prompt : Served twoNumbers completing prompt :=
  ⟨_, _, rfl, by decide +kernel, fun _ => ⟨true, [], rfl, rfl⟩⟩

/-- The listener is told of the completed session, and not if it cannot wait for the handler. -/
theorem runHandler_completing :
    runHandler .all ((HandlerProcess.main prompt).ended twoNumbers onlyTexts)
        ⟨0, 500000000⟩ ⟨1000, 0⟩ = true ∧
      runHandler ⟨true, true, true, true, true, false⟩
        ((HandlerProcess.main prompt).ended twoNumbers onlyTexts)
        ⟨0, 500000000⟩ ⟨1000, 0⟩ = false := by
  have hgenuine : AsksService twoNumbers completing (.main prompt) := by
    rintro connecting hmain
    obtain rfl := HandlerProcess.main.inj hmain
    exact served_prompt.genuine
  have hanswer := (runHandler_iff onlyTexts short_twoNumbers .all (.main prompt)
    ⟨0, 500000000⟩ ⟨1000, 0⟩ validIds_completing hgenuine).2 rfl ⟨prompt, rfl, served_prompt⟩
  refine ⟨hanswer.mpr ⟨?_, acceptable_half, "s-1234567890", rfl⟩, ?_⟩
  · rw [activationPayload_length]
    decide
  · rw [Bool.eq_false_iff]
    intro h
    obtain ⟨-, hcalls, -⟩ := runHandler_eq_true.mp h
    cases hcalls

end HermesRealtime.Handoffs

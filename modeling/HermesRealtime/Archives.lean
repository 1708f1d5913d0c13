import HermesRealtime.Archiving

/-!
The archive of activations as a reader of the file system finds it, at whatever call the listener
is killed: where there is metadata there is the recording it describes, each of them whole.
-/

namespace HermesRealtime.Archives

open Publications Archiving WavHeader

variable {F X : Type} {env : Env F} {reply : ℕ → Reply} {fuel : ℕ}

/-! ### Names -/

lemma decimal_injective {n m : ℕ} (h : decimal n = decimal m) : n = m := by
  have hvalue := congrArg (Nat.ofDigitChars 10 · 0) h
  simpa [decimal] using hvalue

lemma underscore_notMem_decimal (n : ℕ) : '_' ∉ decimal n := Nat.underscore_not_in_toDigits

lemma decimal_getLast (n : ℕ) : ∃ c, (decimal n).getLast? = some c ∧ c.isDigit = true := by
  have hne : decimal n ≠ [] := Nat.toDigits_ne_nil
  refine ⟨(decimal n).getLast hne, List.getLast?_eq_some_getLast hne, ?_⟩
  exact Nat.isDigit_of_mem_toDigits (by decide) (by decide) (List.getLast_mem hne)

lemma decimal_pid_length (env : Env F) : (decimal env.pid.toNat).length ≤ 10 := by
  rw [decimal, Nat.length_toDigits_le_iff (by decide) (by decide)]
  have hlt := env.pid.toNat_lt
  omega

@[simp] lemma wavName_getLast (stem : Path) : (wavName stem).getLast? = some 'v' := by
  simp [wavName, List.getLast?_append]

@[simp] lemma jsonName_getLast (stem : Path) : (jsonName stem).getLast? = some 'n' := by
  simp [jsonName, List.getLast?_append]

@[simp] lemma jsonTmpName_getLast (stem : Path) : (jsonTmpName stem).getLast? = some 'p' := by
  simp [jsonTmpName, List.getLast?_append]

lemma tmpName_getLast (env : Env F) (path : Path) :
    ∃ c, (tmpName env path).getLast? = some c ∧ c.isDigit = true := by
  obtain ⟨c, hlast, hdigit⟩ := decimal_getLast env.pid.toNat
  exact ⟨c, by rw [tmpName, List.getLast?_append, hlast, Option.some_or], hdigit⟩

lemma wavName_injective {a b : Path} (h : wavName a = wavName b) : a = b :=
  List.append_cancel_right h

lemma jsonName_injective {a b : Path} (h : jsonName a = jsonName b) : a = b :=
  List.append_cancel_right h

lemma wavName_ne_jsonName (a b : Path) : wavName a ≠ jsonName b := by
  intro h
  simpa using congrArg List.getLast? h

/-- What follows the last separator. -/
lemma eq_of_append_cons_eq {α : Type} (sep : α) {a b x y : List α} (hx : sep ∉ x)
    (hy : sep ∉ y) (h : a ++ sep :: x = b ++ sep :: y) : x = y := by
  rcases List.append_eq_append_iff.mp h with ⟨w, -, hw⟩ | ⟨w, -, hw⟩
  · cases w with
    | nil => simpa using hw
    | cons c w =>
      obtain ⟨-, rfl⟩ := List.cons_eq_cons.mp hw
      simp at hx
  · cases w with
    | nil => simpa using hw.symm
    | cons c w =>
      obtain ⟨-, rfl⟩ := List.cons_eq_cons.mp hw
      simp at hy

lemma stemOf_plain_getLast (env : Env F) (directory : Path) (now : Clock) (sequence : UInt32) :
    ∃ c, (stemOf env directory now sequence false).getLast? = some c ∧ c.isDigit = true := by
  obtain ⟨c, hlast, hdigit⟩ := decimal_getLast sequence.toNat
  refine ⟨c, ?_, hdigit⟩
  unfold stemOf
  rw [if_neg (by decide), List.append_nil, List.getLast?_append, hlast, Option.some_or]

lemma stemOf_selfTest_getLast (env : Env F) (directory : Path) (now : Clock) (sequence : UInt32) :
    (stemOf env directory now sequence true).getLast? = some 't' := by
  unfold stemOf
  rw [if_pos rfl, List.getLast?_append]
  rfl

/-- **No two activations of a process have a name in common.** -/
lemma stemOf_sequence {directory : Path} {now now' : Clock} {sequence sequence' : UInt32}
    {selfTest selfTest' : Bool}
    (h : stemOf env directory now sequence selfTest =
      stemOf env directory now' sequence' selfTest') : sequence = sequence' := by
  have hsame : selfTest = selfTest' := by
    have hplain := stemOf_plain_getLast env
    have hlast := congrArg List.getLast? h
    cases selfTest <;> cases selfTest' <;> try rfl
    · obtain ⟨c, hc, hdigit⟩ := hplain directory now sequence
      rw [hc, stemOf_selfTest_getLast] at hlast
      obtain rfl := Option.some.inj hlast
      simp at hdigit
    · obtain ⟨c, hc, hdigit⟩ := hplain directory now' sequence'
      rw [hc, stemOf_selfTest_getLast] at hlast
      obtain rfl := Option.some.inj hlast
      simp at hdigit
  subst hsame
  have hcore := List.append_cancel_right h
  simp only [List.append_assoc, List.singleton_append] at hcore
  have hdigits := eq_of_append_cons_eq '_'
    (a := directory ++ "/activation_".toList ++ now.timestamp ++ ['_'] ++
      padded3 (now.nanoseconds / 1000000) ++ ['_'] ++ decimal env.pid.toNat)
    (b := directory ++ "/activation_".toList ++ now'.timestamp ++ ['_'] ++
      padded3 (now'.nanoseconds / 1000000) ++ ['_'] ++ decimal env.pid.toNat)
    (underscore_notMem_decimal sequence.toNat) (underscore_notMem_decimal sequence'.toNat)
    (by simpa using hcore)
  exact UInt32.toNat_inj.mp (decimal_injective hdigits)

/-! ### What each function does to the files -/

section Functions

variable {Inv : Files Path UInt8 → Prop} {m : X} {f : Files Path UInt8}
  {A : Files Path UInt8 → Prop} {E : Killed → Machine Path UInt8 X → Prop}

lemma mkdirs_meets (directories : List Path) :
    Op.Meets (Holds Inv m A) (mkdirs reply directories) (fun _ => Holds Inv m A) E := by
  induction directories with
  | nil => exact .pure fun s hs => hs
  | cons directory rest ih =>
    exact .bind other_meets fun made => .ite (fun _ => ih) fun _ => .pure fun s hs => hs

lemma ensureParentDir_meets (path : Path) :
    Op.Meets (Holds Inv m A) (ensureParentDir reply path) (fun _ => Holds Inv m A) E := by
  unfold ensureParentDir
  refine .ite (fun _ => .pure fun s hs => hs) fun _ => ?_
  split
  · exact .pure fun s hs => hs
  · exact .pure fun s hs => hs
  · exact mkdirs_meets _

/-- The recording as it is published. -/
def wavFile (env : Env F) (samples : List F) : File UInt8 :=
  ⟨activationFile env.pcm16 samples, true⟩

lemma activationFile_split (samples : List F) : activationFile env.pcm16 samples =
    (activationHeader (dataSize samples.length)).toList ++ pcmBytes env samples := rfl

/-- The header, the samples and `fsync`. -/
lemma fillWav_meets {temporary : Path} (hp : Temporary Inv temporary) (samples : List F) :
    Op.Meets (Holds Inv m (Draft f temporary ⟨[], false⟩))
      (fillWav env reply fuel temporary samples)
      (fun ok => Holds Inv m fun g => ∃ file,
        (ok = true → file = wavFile env samples) ∧ Draft f temporary file g)
      (fun _ => Throughout Inv) := by
  unfold fillWav
  refine .bind (writeAll_meets hp _ _) fun header => exists_meets fun file => ?_
  refine fact_meets fun hheader => .ite (fun _ => ?_) fun hwritten => ?_
  · exact .pure fun s hs => hs.mono fun g hg => ⟨file, by simp, hg⟩
  rw [hheader (not_not.mp hwritten)]
  refine .bind (writeAll_meets hp _ _) fun pcm => exists_meets fun file => ?_
  refine fact_meets fun hpcm => .ite (fun _ => ?_) fun hwritten => ?_
  · exact .pure fun s hs => hs.mono fun g hg => ⟨file, by simp, hg⟩
  rw [hpcm (not_not.mp hwritten), File.append_append, ← activationFile_split]
  refine .bind (fsync_meets hp _) fun synced => .ite (fun _ => ?_) fun hsynced => ?_
  · exact .pure fun s hs => hs.mono fun g hg => ⟨_, by simp, hg⟩
  refine .after other_meets fun ok s hs => hs.mono fun g hg => ⟨_, fun _ => ?_, hg⟩
  have hne : activationFile env.pcm16 samples ≠ [] := by
    rw [activationFile_split]
    intro h
    simpa using congrArg List.length h
  simp [not_not.mp hsynced, wavFile, File.append, hne]

/-- What a function leaves that has failed: at most the temporary file, if `unlink` failed too. -/
def Cleaned (reply : ℕ → Reply) (f : Files Path UInt8) (p : Path) (g : Files Path UInt8) : Prop :=
  g = f ∨ g = Function.update f p none ∨ ¬ Unlinks reply ∧ ∃ x, g = Function.update f p x

lemma Cleaned.exists {f g : Files Path UInt8} {p : Path} (h : Cleaned reply f p g) :
    ∃ x, g = Function.update f p x := by
  rcases h with rfl | h | ⟨-, h⟩
  · exact ⟨g p, by simp⟩
  · exact ⟨none, h⟩
  · exact h

lemma unlink_draft_meets {p : Path} (hp : Temporary Inv p) (x : Option (File UInt8)) :
    Op.Meets (Holds Inv m (· = Function.update f p x)) (unlink reply p)
      (fun _ => Holds Inv m (Cleaned reply f p)) E := by
  refine (unlink_meets fun h => ?_).after fun _ s hs => hs.mono ?_
  · exact hp _ none h
  · rintro g (hg | ⟨hfails, hg⟩)
    · exact Or.inr (Or.inl (by rw [hg, Function.update_idem]))
    · exact Or.inr (Or.inr ⟨hfails, x, hg⟩)

/-- **`write_activation_wav`**: the whole recording at once, or at most a temporary file. -/
lemma writeActivationWav_meets {path temporary : Path} {samples : List F}
    (htmp : (tmpName env path).take 8191 = temporary) (hp : Temporary Inv temporary)
    (hpub : Admitted samples.length → Inv f →
      Inv (Function.update (Function.update f temporary none) path (some (wavFile env samples)))) :
    Op.Meets (Holds Inv m (· = f)) (writeActivationWav env reply fuel path samples)
      (fun ok => Holds Inv m (Ending (fun g => Admitted samples.length ∧ g =
        Function.update (Function.update f temporary none) path (some (wavFile env samples)))
          (Cleaned reply f temporary) ok))
      (fun _ => Throughout Inv) := by
  have hunchanged {s : Machine Path UInt8 X} (hs : Holds Inv m (· = f) s) :
      Holds Inv m (Cleaned reply f temporary) s := hs.mono fun g hg => Or.inl hg
  unfold writeActivationWav
  refine .ite (fun _ => .pure fun s hs => hunchanged hs) fun hadmitted => ?_
  rw [not_not] at hadmitted
  refine .bind (ensureParentDir_meets path) fun parent => ?_
  refine .ite (fun _ => .pure fun s hs => hunchanged hs) fun _ => ?_
  refine .bind other_meets fun allocated => ?_
  refine .ite (fun _ => .pure fun s hs => hunchanged hs) fun _ => ?_
  simp only [htmp]
  refine .bind (openTruncate_meets hp) fun opened => ?_
  cases opened with
  | false =>
    -- what may be there already is unlinked
    refine .ite (fun _ => failing_meets ?_) fun h => absurd (by decide) h
    exact (unlink_draft_meets hp (f temporary)).before fun s hs => hs.mono fun g hg => by
      simpa using hg
  | true =>
    refine .ite (fun h => absurd h (by decide)) fun _ => ?_
    refine .bind (fillWav_meets hp samples) fun filled => exists_meets fun file => ?_
    refine fact_meets fun hfile => .ite (fun hfilled => ?_) fun _ => ?_
    · rw [hfile hfilled]
      refine .bind (rename_meets (hpub hadmitted) hp) fun renamed => ?_
      cases renamed with
      | false =>
        exact .ite (fun h => absurd h (by decide)) fun _ =>
          failing_meets (unlink_draft_meets hp (some (wavFile env samples)))
      | true =>
        refine .ite (fun _ => .pure fun s hs => hs.mono fun g hg => ?_) fun h => absurd rfl h
        exact ⟨hadmitted, hg⟩
    · exact .bind other_meets fun _ => failing_meets (unlink_draft_meets hp (some file))

/-- The bytes go to the file in order, and all of them have when `fflush` says so. -/
lemma fillStream_meets {temporary : Path} (hp : Temporary Inv temporary) (text : List UInt8)
    (hne : text ≠ []) :
    Op.Meets (Holds Inv m (Draft f temporary ⟨[], false⟩)) (fillStream reply temporary text)
      (fun ok => Holds Inv m fun g => ∃ file,
        (ok = true → file = ⟨text, true⟩) ∧ Draft f temporary file g) E := by
  have hspill (file : File UInt8) (pending : List UInt8) :
      Op.Meets (Holds Inv m (Draft f temporary file))
        (spill reply temporary pending true >>= fun _ => pure false)
        (fun ok => Holds Inv m fun g => ∃ file,
          (ok = true → file = ⟨text, true⟩) ∧ Draft f temporary file g) E := by
    refine .bind (spill_meets hp file pending true) fun _ => .pure fun s hs => hs.mono ?_
    rintro g ⟨taken, -, hdraft⟩
    exact ⟨_, by simp, hdraft⟩
  unfold fillStream
  refine .bind (spill_meets hp _ text false) fun printed => exists_meets fun first => ?_
  refine fact_meets fun ⟨hfirst, _⟩ => .ite (fun _ => hspill _ _) fun _ => ?_
  refine .bind (spill_meets hp _ printed.2 true) fun flushed => exists_meets fun second => ?_
  refine fact_meets fun ⟨hsecond, hall⟩ => .ite (fun _ => hspill _ _) fun hflushed => ?_
  have hempty : flushed.2 = [] := hall rfl (not_not.mp hflushed)
  rw [File.append_append, show first ++ second = text by rw [hfirst, hsecond, hempty]; simp]
  refine .bind (fsync_meets hp _) fun synced => .bind (spill_meets hp _ _ true) fun closed => ?_
  refine exists_meets fun third => fact_meets fun ⟨hthird, _⟩ => .pure fun s hs => hs.mono ?_
  obtain rfl : third = [] := (List.append_eq_nil_iff.mp (hempty ▸ hthird).symm).1
  intro g hg
  refine ⟨_, fun hok => ?_, hg⟩
  have hsynced : synced = true := (Bool.and_eq_true_iff.mp hok).1
  simp [hsynced, File.append, hne]

/-- What is left when the metadata could not be published: the recording is dropped with it. -/
structure Dropped (reply : ℕ → Reply) (f : Files Path UInt8) (stem : Path)
    (g : Files Path UInt8) : Prop where
  others : ∀ p, p ≠ jsonTmpName stem → p ≠ wavName stem → g p = f p
  wav : g (wavName stem) = f (wavName stem) ∨ g (wavName stem) = none
  cleaned : Unlinks reply → g (wavName stem) = none ∧ g (jsonTmpName stem) = none

lemma metadataFailure_meets {stem : Path} (hp : Temporary Inv (jsonTmpName stem))
    (hdrop : ∀ x, Inv (Function.update f (jsonTmpName stem) x) →
      Inv (Function.update (Function.update f (jsonTmpName stem) x) (wavName stem) none))
    (hne : jsonTmpName stem ≠ wavName stem) (x : Option (File UInt8))
    {D : Files Path UInt8 → Prop} :
    Op.Meets (Holds Inv m (· = Function.update f (jsonTmpName stem) x)) (metadataFailure reply stem)
      (fun ok => Holds Inv m (Ending D (Dropped reply f stem) ok)) E := by
  have hfirst : Op.Meets (Holds Inv m (· = Function.update f (jsonTmpName stem) x))
      (unlink reply (jsonTmpName stem)) (fun _ => Holds Inv m fun g => ∃ y,
        (Unlinks reply → y = none) ∧ g = Function.update f (jsonTmpName stem) y) E := by
    refine (unlink_meets fun h => hp _ none h).after fun _ s hs => hs.mono ?_
    rintro g (hg | ⟨hfails, hg⟩)
    · exact ⟨none, fun _ => rfl, by rw [hg, Function.update_idem]⟩
    · exact ⟨x, fun h => absurd h hfails, hg⟩
  refine .bind hfirst fun _ => exists_meets fun y => fact_meets fun hy => failing_meets ?_
  refine (unlink_meets (hdrop y)).after fun _ s hs => hs.mono ?_
  rintro g (hg | ⟨hfails, hg⟩) <;> subst hg
  · refine ⟨fun p hp hwav => ?_, ?_, fun h => ?_⟩
    · rw [Function.update_of_ne hwav, Function.update_of_ne hp]
    · simp
    · simp [hy h, Function.update_of_ne hne]
  · refine ⟨fun p hp _ => Function.update_of_ne hp _ _, ?_, fun h => absurd h hfails⟩
    rw [Function.update_of_ne hne.symm]
    exact Or.inl rfl

/-- The metadata at once beside the recording, or neither. -/
lemma writeMetadata_meets {stem : Path} {text : List UInt8} (htext : text ≠ [])
    (hp : Temporary Inv (jsonTmpName stem)) (hne : jsonTmpName stem ≠ wavName stem)
    (hdrop : ∀ x, Inv (Function.update f (jsonTmpName stem) x) →
      Inv (Function.update (Function.update f (jsonTmpName stem) x) (wavName stem) none))
    (hpub : Inv f → Inv (Function.update (Function.update f (jsonTmpName stem) none)
      (jsonName stem) (some ⟨text, true⟩))) :
    Op.Meets (Holds Inv m (· = f)) (writeMetadata reply stem text)
      (fun ok => Holds Inv m (Ending (· = Function.update
        (Function.update f (jsonTmpName stem) none) (jsonName stem) (some ⟨text, true⟩))
          (Dropped reply f stem) ok)) E := by
  have hfailure (x : Option (File UInt8)) :
      Op.Meets (Holds Inv m (· = Function.update f (jsonTmpName stem) x))
        (metadataFailure reply stem) (fun ok => Holds Inv m (Ending (· = Function.update
          (Function.update f (jsonTmpName stem) none) (jsonName stem) (some ⟨text, true⟩))
            (Dropped reply f stem) ok)) E :=
    metadataFailure_meets hp hdrop hne x
  unfold writeMetadata
  refine .bind (openTruncate_meets hp) fun opened => ?_
  cases opened with
  | false =>
    refine .ite (fun _ => ?_) fun h => absurd (by decide) h
    exact (hfailure (f (jsonTmpName stem))).before fun s hs => hs.mono fun g hg => by
      simpa using hg
  | true =>
    refine .ite (fun h => absurd h (by decide)) fun _ => ?_
    refine .bind (fillStream_meets hp text htext) fun filled => exists_meets fun file => ?_
    refine fact_meets fun hfile => .ite (fun _ => hfailure (some file)) fun hfilled => ?_
    rw [hfile (not_not.mp hfilled)]
    refine .bind (rename_meets hpub hp) fun renamed => ?_
    cases renamed with
    | false => exact .ite (fun h => absurd h (by decide)) fun _ => hfailure _
    | true => exact .ite (fun _ => .pure fun s hs => hs) fun h => absurd rfl h

/-- The status at once, or what there was; a temporary file is left if `rename` fails. -/
lemma writeCaptureStatus_meets {health : Path} (hp : Temporary Inv (tmpName env health))
    (status : CaptureStatus)
    (hpub : Inv f → Inv (Function.update (Function.update f (tmpName env health) none) health
      (some ⟨status.line, true⟩))) :
    Op.Meets (Holds Inv m (· = f)) (writeCaptureStatus env reply health status)
      (fun _ => Holds Inv m fun g => ∀ p, p ≠ tmpName env health → p ≠ health → g p = f p) E := by
  have hdraft (x : Option (File UInt8)) {p : Path} (hne : p ≠ tmpName env health) :
      Function.update f (tmpName env health) x p = f p := Function.update_of_ne hne _ _
  have hcleanup (x : Option (File UInt8)) :
      Op.Meets (Holds Inv m (· = Function.update f (tmpName env health) x))
        (unlink reply (tmpName env health) >>= fun _ => pure ())
        (fun _ => Holds Inv m fun g => ∀ p, p ≠ tmpName env health → p ≠ health → g p = f p) E := by
    refine .bind (unlink_draft_meets hp x) fun _ => .pure fun s hs => hs.mono fun g hg p hne _ => ?_
    obtain ⟨y, rfl⟩ := hg.exists
    exact hdraft y hne
  have hline : status.line ≠ [] := by cases status <;> decide
  have hunchanged {s : Machine Path UInt8 X} (hs : Holds Inv m (· = f) s) :
      Holds Inv m (fun g => ∀ p, p ≠ tmpName env health → p ≠ health → g p = f p) s :=
    hs.mono fun g hg p _ _ => by rw [hg]
  unfold writeCaptureStatus
  refine .ite (fun _ => .pure fun s hs => hunchanged hs) fun _ => ?_
  refine .bind (ensureParentDir_meets health) fun parent => ?_
  refine .ite (fun _ => .pure fun s hs => hunchanged hs) fun _ => ?_
  refine .ite (fun _ => .pure fun s hs => hunchanged hs) fun _ => ?_
  refine .bind (openTruncate_meets hp) fun opened => ?_
  cases opened with
  | false =>
    exact .ite (fun _ => .pure fun s hs => hunchanged hs) fun h => absurd (by decide) h
  | true =>
    refine .ite (fun h => absurd h (by decide)) fun _ => .bind other_meets fun stream => ?_
    refine .ite (fun _ => .bind other_meets fun _ => hcleanup (some ⟨[], false⟩)) fun _ => ?_
    refine .bind (fillStream_meets hp status.line hline) fun filled => exists_meets fun file => ?_
    refine fact_meets fun hfile => .ite (fun _ => hcleanup (some file)) fun hfilled => ?_
    rw [hfile (not_not.mp hfilled)]
    refine .bind (rename_meets hpub hp) fun renamed => .pure fun s hs => hs.mono ?_
    intro g hg p hne hne'
    rw [hg]
    split
    · rw [Function.update_of_ne hne', hdraft none hne]
    · exact hdraft _ hne

end Functions

/-! ### What a reader finds -/

/-- The metadata as it is published. -/
def jsonFile (env : Env F) (probability : F) (sampleCount : ℕ) (selfTest : Bool) : File UInt8 :=
  ⟨asBytes (metadataText env probability sampleCount selfTest), true⟩

/-- What the archive and the status file hold is whole and synced, and the metadata of an
activation lies beside the recording it describes. -/
structure Sound (env : Env F) (health : Path) (f : Files Path UInt8) : Prop where
  recordings : ∀ stem file, f (wavName stem) = some file →
    ∃ samples : List F, Admitted samples.length ∧ file = wavFile env samples
  pairs : ∀ stem file, f (jsonName stem) = some file →
    ∃ (samples : List F) (probability : F) (selfTest : Bool), Admitted samples.length ∧
      f (wavName stem) = some (wavFile env samples) ∧
        file = jsonFile env probability samples.length selfTest
  status : ∀ file, f health = some file → ∃ status : CaptureStatus, file = ⟨status.line, true⟩

/-- The status file is none of those of the archive, and no temporary one. -/
structure Apart (env : Env F) (health : Path) : Prop where
  wav : ∀ stem, health ≠ wavName stem
  json : ∀ stem, health ≠ jsonName stem
  jsonTmp : ∀ stem, health ≠ jsonTmpName stem
  tmp : ∀ path, health ≠ tmpName env path

section Soundness

variable {health : Path} {f : Files Path UInt8} {stem : Path}

/-- A name that no reader looks at. -/
lemma temporary_of_ne {p : Path} (hwav : ∀ stem, wavName stem ≠ p)
    (hjson : ∀ stem, jsonName stem ≠ p) (hhealth : health ≠ p) :
    Temporary (Sound env health) p := by
  intro f x h
  refine ⟨fun stem file hfile => ?_, fun stem file hfile => ?_, fun file hfile => ?_⟩
  · rw [Function.update_of_ne (hwav stem)] at hfile
    exact h.recordings stem file hfile
  · rw [Function.update_of_ne (hjson stem)] at hfile
    rw [Function.update_of_ne (hwav stem)]
    exact h.pairs stem file hfile
  · rw [Function.update_of_ne hhealth] at hfile
    exact h.status file hfile

lemma wavName_ne_tmpName (stem path : Path) : wavName stem ≠ tmpName env path := by
  intro h
  obtain ⟨c, hlast, hdigit⟩ := tmpName_getLast env path
  rw [← h, wavName_getLast] at hlast
  obtain rfl := Option.some.inj hlast
  simp at hdigit

lemma jsonName_ne_tmpName (stem path : Path) : jsonName stem ≠ tmpName env path := by
  intro h
  obtain ⟨c, hlast, hdigit⟩ := tmpName_getLast env path
  rw [← h, jsonName_getLast] at hlast
  obtain rfl := Option.some.inj hlast
  simp at hdigit

lemma wavName_ne_jsonTmpName (a b : Path) : wavName a ≠ jsonTmpName b := by
  intro h
  simpa using congrArg List.getLast? h

lemma jsonName_ne_jsonTmpName (a b : Path) : jsonName a ≠ jsonTmpName b := by
  intro h
  simpa using congrArg List.getLast? h

lemma jsonTmpName_ne_tmpName (stem path : Path) : jsonTmpName stem ≠ tmpName env path := by
  intro h
  obtain ⟨c, hlast, hdigit⟩ := tmpName_getLast env path
  rw [← h, jsonTmpName_getLast] at hlast
  obtain rfl := Option.some.inj hlast
  simp at hdigit

lemma temporary_tmpName (h : Apart env health) (path : Path) :
    Temporary (Sound env health) (tmpName env path) :=
  temporary_of_ne (fun _ => wavName_ne_tmpName _ _) (fun _ => jsonName_ne_tmpName _ _) (h.tmp path)

lemma temporary_jsonTmpName (h : Apart env health) (stem : Path) :
    Temporary (Sound env health) (jsonTmpName stem) :=
  temporary_of_ne (fun _ => wavName_ne_jsonTmpName _ _) (fun _ => jsonName_ne_jsonTmpName _ _)
    (h.jsonTmp stem)

/-- A recording may be published, or dropped, as long as there is no metadata for it. -/
lemma Sound.setWav (h : Sound env health f) (hapart : Apart env health)
    (hfree : f (jsonName stem) = none) {x : Option (File UInt8)}
    (hx : ∀ file, x = some file →
      ∃ samples : List F, Admitted samples.length ∧ file = wavFile env samples) :
    Sound env health (Function.update f (wavName stem) x) := by
  refine ⟨fun other file hfile => ?_, fun other file hfile => ?_, fun file hfile => ?_⟩
  · by_cases hsame : wavName other = wavName stem
    · rw [hsame, Function.update_self] at hfile
      exact hx file hfile
    · rw [Function.update_of_ne hsame] at hfile
      exact h.recordings other file hfile
  · rw [Function.update_of_ne (wavName_ne_jsonName _ _).symm] at hfile
    have hother : wavName other ≠ wavName stem := by
      intro hsame
      rw [wavName_injective hsame, hfree] at hfile
      cases hfile
    rw [Function.update_of_ne hother]
    exact h.pairs other file hfile
  · rw [Function.update_of_ne (hapart.wav stem)] at hfile
    exact h.status file hfile

lemma Sound.setJson (h : Sound env health f) (hapart : Apart env health) {samples : List F}
    (hadmitted : Admitted samples.length) (hwav : f (wavName stem) = some (wavFile env samples))
    (probability : F) (selfTest : Bool) :
    Sound env health (Function.update f (jsonName stem)
      (some (jsonFile env probability samples.length selfTest))) := by
  refine ⟨fun other file hfile => ?_, fun other file hfile => ?_, fun file hfile => ?_⟩
  · rw [Function.update_of_ne (wavName_ne_jsonName _ _)] at hfile
    exact h.recordings other file hfile
  · rw [Function.update_of_ne (wavName_ne_jsonName _ _)]
    by_cases hsame : jsonName other = jsonName stem
    · rw [hsame, Function.update_self] at hfile
      rw [jsonName_injective hsame]
      exact ⟨samples, probability, selfTest, hadmitted, hwav, (Option.some.inj hfile).symm⟩
    · rw [Function.update_of_ne hsame] at hfile
      exact h.pairs other file hfile
  · rw [Function.update_of_ne (hapart.json stem)] at hfile
    exact h.status file hfile

lemma Sound.setStatus (h : Sound env health f) (hapart : Apart env health)
    {x : Option (File UInt8)}
    (hx : ∀ file, x = some file → ∃ status : CaptureStatus, file = ⟨status.line, true⟩) :
    Sound env health (Function.update f health x) := by
  refine ⟨fun stem file hfile => ?_, fun stem file hfile => ?_, fun file hfile => ?_⟩
  · rw [Function.update_of_ne (hapart.wav stem).symm] at hfile
    exact h.recordings stem file hfile
  · rw [Function.update_of_ne (hapart.json stem).symm] at hfile
    rw [Function.update_of_ne (hapart.wav stem).symm]
    exact h.pairs stem file hfile
  · rw [Function.update_self] at hfile
    exact hx file hfile

end Soundness

/-! ### One activation -/

/-- The path is not that of the recording of an activation, nor that of one of its two temporary
files. -/
structure Elsewhere (env : Env F) (stem p : Path) : Prop where
  wav : p ≠ wavName stem
  wavTmp : p ≠ tmpName env (wavName stem)
  jsonTmp : p ≠ jsonTmpName stem

/-- The activation is in the archive, with nothing beside it. -/
structure Published (env : Env F) (f : Files Path UInt8) (stem : Path) (samples : List F)
    (probability : F) (selfTest : Bool) (g : Files Path UInt8) : Prop where
  admitted : Admitted samples.length
  wav : g (wavName stem) = some (wavFile env samples)
  json : g (jsonName stem) = some (jsonFile env probability samples.length selfTest)
  wavTmp : g (tmpName env (wavName stem)) = none
  jsonTmp : g (jsonTmpName stem) = none
  others : ∀ p, Elsewhere env stem p → p ≠ jsonName stem → g p = f p

/-- The activation is not in the archive; what its files held may be gone. -/
structure Missed (env : Env F) (reply : ℕ → Reply) (f : Files Path UInt8) (stem : Path)
    (g : Files Path UInt8) : Prop where
  others : ∀ p, Elsewhere env stem p → g p = f p
  cleaned : Unlinks reply → ∀ p, g p = f p ∨ g p = none

lemma Missed.refl (f : Files Path UInt8) (stem : Path) : Missed env reply f stem f :=
  ⟨fun _ _ => rfl, fun _ _ => Or.inl rfl⟩

lemma tmpName_take {stem : Path} (h : ¬ 4096 ≤ stem.length) :
    (tmpName env (wavName stem)).take 8191 = tmpName env (wavName stem) := by
  have hpid := decimal_pid_length env
  have hwav : (wavName stem).length = stem.length + 4 := List.length_append
  have htmp : (tmpName env (wavName stem)).length =
      (wavName stem).length + 5 + (decimal env.pid.toNat).length := by
    rw [tmpName, List.length_append, List.length_append]
    rfl
  exact List.take_of_length_le (by omega)

lemma nextSequence_meets {Inv A : Files Path UInt8 → Prop} {m : UInt32}
    {E : Killed → Machine Path UInt8 UInt32 → Prop} :
    Op.Meets (Holds Inv m A) nextSequence (fun sequence s => sequence = m ∧ Holds Inv (m + 1) A s)
      E := by
  rintro s ⟨rfl, hA, hinv⟩
  exact ⟨rfl, rfl, hA, hinv.files, hinv.past⟩

lemma metadataText_ne_nil (env : Env F) (probability : F) (sampleCount : ℕ) (selfTest : Bool) :
    asBytes (metadataText env probability sampleCount selfTest) ≠ [] := by
  intro h
  have hlast := (List.append_eq_nil_iff.mp (List.map_eq_nil_iff.mp h)).2
  exact absurd hlast (by decide)

/-- The files once the recording is published. -/
def withWav (env : Env F) (f : Files Path UInt8) (stem : Path) (samples : List F) :
    Files Path UInt8 :=
  Function.update (Function.update f (tmpName env (wavName stem)) none) (wavName stem)
    (some (wavFile env samples))

lemma withWav_self (f : Files Path UInt8) (stem : Path) (samples : List F) :
    withWav env f stem samples (wavName stem) = some (wavFile env samples) :=
  Function.update_self _ _ _

lemma withWav_json (f : Files Path UInt8) (stem : Path) (samples : List F) :
    withWav env f stem samples (jsonName stem) = f (jsonName stem) := by
  rw [withWav, Function.update_of_ne (wavName_ne_jsonName _ _).symm,
    Function.update_of_ne (jsonName_ne_tmpName _ _)]

lemma withWav_tmp (f : Files Path UInt8) (stem : Path) (samples : List F) :
    withWav env f stem samples (tmpName env (wavName stem)) = none := by
  rw [withWav, Function.update_of_ne (wavName_ne_tmpName _ _).symm, Function.update_self]

lemma withWav_of_ne {f : Files Path UInt8} {stem p : Path} {samples : List F}
    (hwav : p ≠ wavName stem) (hwavTmp : p ≠ tmpName env (wavName stem)) :
    withWav env f stem samples p = f p := by
  rw [withWav, Function.update_of_ne hwav, Function.update_of_ne hwavTmp]

lemma Cleaned.missed {f g : Files Path UInt8} {stem : Path}
    (h : Cleaned reply f (tmpName env (wavName stem)) g) : Missed env reply f stem g := by
  refine ⟨fun p hp => ?_, fun hunlinks p => ?_⟩
  · obtain ⟨x, rfl⟩ := h.exists
    exact Function.update_of_ne hp.wavTmp _ _
  · rcases h with rfl | rfl | ⟨hfails, -⟩
    · exact Or.inl rfl
    · by_cases hp : p = tmpName env (wavName stem)
      · exact Or.inr (by rw [hp, Function.update_self])
      · exact Or.inl (Function.update_of_ne hp _ _)
    · exact absurd hunlinks hfails

lemma Dropped.missed {f g : Files Path UInt8} {stem : Path} {samples : List F}
    (h : Dropped reply (withWav env f stem samples) stem g) : Missed env reply f stem g := by
  refine ⟨fun p hp => ?_, fun hunlinks p => ?_⟩
  · rw [h.others p hp.jsonTmp hp.wav, withWav_of_ne hp.wav hp.wavTmp]
  · by_cases hwav : p = wavName stem
    · exact Or.inr (by rw [hwav, (h.cleaned hunlinks).1])
    by_cases hjsonTmp : p = jsonTmpName stem
    · exact Or.inr (by rw [hjsonTmp, (h.cleaned hunlinks).2])
    rw [h.others p hjsonTmp hwav]
    by_cases hwavTmp : p = tmpName env (wavName stem)
    · exact Or.inr (by rw [hwavTmp, withWav_tmp])
    · exact Or.inl (withWav_of_ne hwav hwavTmp)

lemma published_withWav {f : Files Path UInt8} {stem : Path} {samples : List F}
    (hadmitted : Admitted samples.length) (probability : F) (selfTest : Bool) :
    Published env f stem samples probability selfTest
      (Function.update (Function.update (withWav env f stem samples) (jsonTmpName stem) none)
        (jsonName stem) (some (jsonFile env probability samples.length selfTest))) := by
  refine ⟨hadmitted, ?_, Function.update_self _ _ _, ?_, ?_, fun p hp hne => ?_⟩
  · rw [Function.update_of_ne (wavName_ne_jsonName _ _),
      Function.update_of_ne (wavName_ne_jsonTmpName _ _), withWav_self]
  · rw [Function.update_of_ne (jsonName_ne_tmpName _ _).symm,
      Function.update_of_ne (jsonTmpName_ne_tmpName _ _).symm, withWav_tmp]
  · rw [Function.update_of_ne (jsonName_ne_jsonTmpName _ _).symm, Function.update_self]
  · rw [Function.update_of_ne hne, Function.update_of_ne hp.jsonTmp,
      withWav_of_ne hp.wav hp.wavTmp]

/-- **`archive_activation`**, as long as there is no metadata under the name it takes. -/
lemma archiveActivation_meets (reply : ℕ → Reply) (fuel : ℕ) {health directory : Path}
    (hapart : Apart env health)
    {f : Files Path UInt8} {m : UInt32} {now : Clock} (samples : List F) (probability : F)
    {selfTest : Bool} {stem : Path} (hstem : stemOf env directory now m selfTest = stem)
    (hdir : directory ≠ []) (hfree : f (jsonName stem) = none) :
    Op.Meets (Holds (Sound env health) m (· = f))
      (archiveActivation env reply fuel directory (some now) samples probability selfTest)
      (fun ok => Holds (Sound env health) (m + 1) (Ending
        (Published env f stem samples probability selfTest) (Missed env reply f stem) ok))
      (fun _ => Throughout (Sound env health)) := by
  unfold archiveActivation
  refine .ite (fun h => absurd h hdir) fun _ => .bind nextSequence_meets fun sequence => ?_
  refine .fact fun hsequence => ?_
  simp only [hsequence, hstem]
  refine .ite (fun _ => .pure fun s hs => hs.mono ?_) fun hshort => ?_
  · rintro g rfl
    exact Missed.refl _ _
  have hlength : ¬ 4096 ≤ stem.length := fun h => hshort (Or.inl h)
  have hpub (hadmitted : Admitted samples.length) (h : Sound env health f) :
      Sound env health (withWav env f stem samples) := by
    refine Sound.setWav (temporary_tmpName hapart _ f none h) hapart ?_ fun file hfile => ?_
    · rw [Function.update_of_ne (jsonName_ne_tmpName _ _), hfree]
    · exact ⟨samples, hadmitted, (Option.some.inj hfile).symm⟩
  refine .bind (writeActivationWav_meets (tmpName_take hlength) (temporary_tmpName hapart _) hpub)
    fun written => ?_
  cases written with
  | false =>
    refine .ite (fun _ => .pure fun s hs => hs.mono fun g hg => ?_) fun h => absurd (by decide) h
    exact hg.missed
  | true =>
    refine .ite (fun h => absurd h (by decide)) fun _ => fact_meets fun hadmitted => ?_
    have hdrop (x : Option (File UInt8))
        (h : Sound env health (Function.update (withWav env f stem samples) (jsonTmpName stem) x)) :
        Sound env health (Function.update
          (Function.update (withWav env f stem samples) (jsonTmpName stem) x)
          (wavName stem) none) := by
      refine h.setWav hapart ?_ fun file hfile => nomatch hfile
      rw [Function.update_of_ne (jsonName_ne_jsonTmpName _ _), withWav_json, hfree]
    have hpair (h : Sound env health (withWav env f stem samples)) :
        Sound env health (Function.update
          (Function.update (withWav env f stem samples) (jsonTmpName stem) none) (jsonName stem)
            (some (jsonFile env probability samples.length selfTest))) := by
      refine Sound.setJson (temporary_jsonTmpName hapart stem _ none h) hapart hadmitted ?_
        probability selfTest
      rw [Function.update_of_ne (wavName_ne_jsonTmpName _ _), withWav_self]
    refine .after (writeMetadata_meets (metadataText_ne_nil env probability _ selfTest)
      (temporary_jsonTmpName hapart stem) (wavName_ne_jsonTmpName _ _).symm hdrop hpair)
        fun ok s hs => ?_
    cases ok with
    | false => exact hs.mono fun g hg => hg.missed
    | true =>
      refine hs.mono ?_
      rintro g rfl
      exact published_withWav hadmitted probability selfTest

/-! ### The functions end -/

section Termination

variable {α : Type}

lemma mkdirs_steady (directories : List Path) :
    Op.Steady .killed fun _ => (mkdirs reply directories : Prog Path UInt8 X Bool) := by
  induction directories with
  | nil => exact .pure true
  | cons directory rest ih =>
    have hmkdir : Op.Steady .killed fun _ => (mkdir reply directory : Prog Path UInt8 X Bool) := by
      unfold mkdir other
      exact call_steady _
    exact .bind hmkdir fun _ => .ite ih (.pure false)

lemma ensureParentDir_steady (path : Path) :
    Op.Steady .killed fun _ => (ensureParentDir reply path : Prog Path UInt8 X Bool) := by
  unfold ensureParentDir
  refine .ite (.pure false) ?_
  split
  · exact .pure true
  · exact .pure true
  · exact mkdirs_steady _

lemma writeActivationWav_steady (hfair : Fair reply) (path : Path) (samples : List F) :
    Op.Steady .killed fun n =>
      (writeActivationWav env reply n path samples : Prog Path UInt8 X Bool) := by
  have hfill (temporary : Path) : Op.Steady .killed fun n =>
      (fillWav env reply n temporary samples : Prog Path UInt8 X Bool) :=
    .bind (writeAll_steady hfair _) fun _ => .ite (.pure false) <|
      .bind (writeAll_steady hfair _) fun _ => .ite (.pure false) <|
        .bind (call_steady _) fun _ => .ite (.pure false) (call_steady _)
  have hunlink (temporary : Path) : Op.Steady .killed fun _ =>
      (unlink reply temporary >>= fun _ => pure false : Prog Path UInt8 X Bool) :=
    .bind (call_steady _) fun _ => .pure false
  refine .ite (.pure false) <| .bind (ensureParentDir_steady path) fun _ => .ite (.pure false) <|
    .bind (call_steady _) fun _ => .ite (.pure false) <| .bind (call_steady _) fun _ =>
      .ite (hunlink _) <| .bind (hfill _) fun _ => .ite ?_ ?_
  · exact .bind (call_steady _) fun _ => .ite (.pure true) (hunlink _)
  · exact .bind (call_steady _) fun _ => hunlink _

lemma fillStream_steady (temporary : Path) (text : List UInt8) :
    Op.Steady .killed fun _ => (fillStream reply temporary text : Prog Path UInt8 X Bool) := by
  have hclose (pending : List UInt8) : Op.Steady .killed fun _ =>
      (spill reply temporary pending true >>= fun _ => pure false : Prog Path UInt8 X Bool) :=
    .bind (call_steady _) fun _ => .pure false
  exact .bind (call_steady _) fun _ => .ite (hclose _) <| .bind (call_steady _) fun _ =>
    .ite (hclose _) <| .bind (call_steady _) fun _ => .bind (call_steady _) fun _ => .pure _

lemma writeMetadata_steady (stem : Path) (text : List UInt8) :
    Op.Steady .killed fun _ => (writeMetadata reply stem text : Prog Path UInt8 X Bool) := by
  have hfailure : Op.Steady .killed fun _ =>
      (metadataFailure reply stem : Prog Path UInt8 X Bool) :=
    .bind (call_steady _) fun _ => .bind (call_steady _) fun _ => .pure false
  exact .bind (call_steady _) fun _ => .ite hfailure <| .bind (fillStream_steady _ _) fun _ =>
    .ite hfailure <| .bind (call_steady _) fun _ => .ite (.pure true) hfailure

lemma archiveActivation_steady (env : Env F) (hfair : Fair reply) (directory : Path)
    (now : Option Clock)
    (samples : List F) (probability : F) (selfTest : Bool) : Op.Steady .killed fun n =>
      archiveActivation env reply n directory now samples probability selfTest := by
  refine .ite (.pure true) ?_
  cases now with
  | none => exact .pure false
  | some now =>
    refine .bind (.const fun s => by simp [nextSequence, Op.bind_apply]) fun sequence => ?_
    exact .ite (.pure false) <| .bind (writeActivationWav_steady hfair _ _) fun _ =>
      .ite (.pure false) (writeMetadata_steady _ _)

/-- **An activation is archived, or leaves nothing.** Where the names that it takes are free, the
call returns; when it says that it has succeeded, the recording and its metadata are there and
nothing else has changed, and otherwise nothing has but the recording and the temporary files, and
these neither unless an `unlink` failed. -/
theorem archiveActivation_outcome {health directory : Path} (hapart : Apart env health)
    (hfair : Fair reply) (hdir : directory ≠ []) (now : Clock) (samples : List F) (probability : F)
    (selfTest : Bool) {s : Machine Path UInt8 UInt32} (hsound : Throughout (Sound env health) s)
    {stem : Path} (hstem : stemOf env directory now s.memory selfTest = stem)
    (hfree : ∀ p, ¬ Elsewhere env stem p ∨ p = jsonName stem → s.files p = none) :
    ∃ fuel t ok, (∀ more, fuel ≤ more → archiveActivation env reply more directory (some now)
        samples probability selfTest s = (t, .ok ok)) ∧
      (ok = true → Published env s.files stem samples probability selfTest t.files) ∧
      (ok = false → (∀ p, Elsewhere env stem p → t.files p = s.files p) ∧
        (Unlinks reply → t.files = s.files)) := by
  obtain ⟨fuel, ⟨t, r⟩, hr, hrun⟩ := (archiveActivation_steady env hfair directory
    (some now) samples probability selfTest).eventually s
  cases r with
  | error e => exact absurd rfl hr
  | ok ok =>
    have hends := archiveActivation_meets reply fuel hapart samples probability hstem hdir
      (hfree _ (Or.inr rfl)) s ⟨rfl, rfl, hsound⟩
    rw [hrun fuel le_rfl] at hends
    refine ⟨fuel, t, ok, hrun, ?_, ?_⟩
    · rintro rfl
      exact hends.files
    · rintro rfl
      have hmissed : Missed env reply s.files stem t.files := hends.files
      refine ⟨hmissed.others, fun hunlinks => funext fun p => ?_⟩
      by_cases hp : Elsewhere env stem p
      · exact hmissed.others p hp
      · rw [hfree p (Or.inl hp)]
        rcases hmissed.cleaned hunlinks p with h | h
        · rw [h, hfree p (Or.inl hp)]
        · exact h

end Termination

/-! A status file that is named as the one of the program. -/

def statusPath : Path := "/run/capture.status".toList

def tinyEnv : Env UInt16 := ⟨4711, id, fun _ => ['1'], fun _ _ => "0.1".toList⟩

lemma statusPath_apart (env : Env F) : Apart env statusPath := by
  have hlast : statusPath.getLast? = some 's' := by decide
  constructor <;> intro path h <;> rw [h] at hlast
  · simp at hlast
  · simp at hlast
  · simp at hlast
  · obtain ⟨c, hc, hdigit⟩ := tmpName_getLast env path
    rw [hlast] at hc
    obtain rfl := Option.some.inj hc
    simp at hdigit

lemma sound_empty (env : Env F) (health : Path) : Sound env health fun _ => none :=
  ⟨fun _ _ h => (nomatch h), fun _ _ h => (nomatch h), fun _ h => (nomatch h)⟩

/-- A reply that interrupts the fourth call; a write takes seven bytes. -/
def slowReply (n : ℕ) : Reply := ⟨n == 3, n == 30, 7, true⟩

lemma slowReply_fair : Fair slowReply := by
  refine fun n => ⟨n + 4, by omega, ?_, Or.inr ?_⟩
  · simp [slowReply]
  · simp [slowReply]

theorem archiveActivation_two_samples : ∃ fuel t ok, (∀ more, fuel ≤ more →
      archiveActivation tinyEnv slowReply more "/a".toList
        (some ⟨"20250101_120000".toList, 5000000⟩) [7, 8] 1 false ⟨fun _ => none, [], 0, 0⟩ =
          (t, .ok ok)) ∧
    (ok = true → Published tinyEnv (fun _ => none) "/a/activation_20250101_120000_005_4711_0".toList
      [7, 8] 1 false t.files) ∧
    (ok = false → (∀ p, Elsewhere tinyEnv "/a/activation_20250101_120000_005_4711_0".toList p →
      t.files p = none) ∧ (Unlinks slowReply → t.files = fun _ => none)) :=
  archiveActivation_outcome (statusPath_apart tinyEnv) slowReply_fair (by decide) _ [7, 8] 1 false
    ⟨sound_empty tinyEnv statusPath, by simp⟩ (by decide) fun _ _ => rfl

/-! ### The whole process -/

section Process

variable {health directory : Path}

/-- No activation that is still to come finds metadata under the name that it takes. -/
def FreeNames (env : Env F) (directory : Path) (requests : List (Request F)) (m : UInt32)
    (f : Files Path UInt8) : Prop :=
  ∀ now samples probability selfTest,
    Request.archive (some now) samples probability selfTest ∈ requests →
      ∀ sequence : UInt32, m.toNat ≤ sequence.toNat →
        f (jsonName (stemOf env directory now sequence selfTest)) = none

lemma FreeNames.tail {request : Request F} {rest : List (Request F)} {m : UInt32}
    {f : Files Path UInt8} (h : FreeNames env directory (request :: rest) m f) :
    FreeNames env directory rest m f :=
  fun now samples probability selfTest hmem =>
    h now samples probability selfTest (List.mem_cons_of_mem _ hmem)

lemma FreeNames.congr {requests : List (Request F)} {m : UInt32} {f g : Files Path UInt8}
    (h : FreeNames env directory requests m f)
    (hfg : ∀ stem, g (jsonName stem) = f (jsonName stem)) :
    FreeNames env directory requests m g :=
  fun now samples probability selfTest hmem sequence hle => by
    rw [hfg, h now samples probability selfTest hmem sequence hle]

lemma elsewhere_jsonName (a b : Path) : Elsewhere env a (jsonName b) :=
  ⟨(wavName_ne_jsonName _ _).symm, jsonName_ne_tmpName _ _, jsonName_ne_jsonTmpName _ _⟩

/-- What a process relies on between two requests. -/
structure Ready (env : Env F) (health directory : Path) (requests : List (Request F))
    (s : Machine Path UInt8 UInt32) : Prop where
  throughout : Throughout (Sound env health) s
  free : FreeNames env directory requests s.memory s.files
  count : s.memory.toNat + requests.length ≤ 2 ^ 32

/-- One more activation has used its sequence number up. -/
lemma FreeNames.next {request : Request F} {rest : List (Request F)} {m : UInt32}
    {f g : Files Path UInt8} {now : Clock} {selfTest : Bool}
    (h : FreeNames env directory (request :: rest) m f)
    (hcount : m.toNat + (request :: rest).length ≤ 2 ^ 32)
    (hothers : ∀ p, Elsewhere env (stemOf env directory now m selfTest) p →
      p ≠ jsonName (stemOf env directory now m selfTest) → g p = f p) :
    FreeNames env directory rest (m + 1) g ∧ (m + 1).toNat + rest.length ≤ 2 ^ 32 := by
  rw [List.length_cons] at hcount
  by_cases hlast : rest = []
  · subst hlast
    refine ⟨fun _ _ _ _ hmem => by simp at hmem, ?_⟩
    simpa using (m + 1).toNat_lt.le
  have hpos := List.length_pos_iff.mpr hlast
  have hnext : (m + 1).toNat = m.toNat + 1 := by
    rw [UInt32.toNat_add, UInt32.toNat_one, Nat.mod_eq_of_lt (by omega)]
  refine ⟨fun now' samples probability selfTest' hmem sequence hle => ?_, by omega⟩
  have hother : jsonName (stemOf env directory now' sequence selfTest') ≠
      jsonName (stemOf env directory now m selfTest) := by
    intro hsame
    have hsequence := stemOf_sequence (jsonName_injective hsame)
    rw [hsequence] at hle
    omega
  rw [hothers _ (elsewhere_jsonName _ _) hother]
  exact h.tail now' samples probability selfTest' hmem sequence (by omega)

lemma archiveActivation_ready (hapart : Apart env health) {rest : List (Request F)}
    (now : Option Clock) (samples : List F) (probability : F) (selfTest : Bool) :
    Op.Meets (Ready env health directory (.archive now samples probability selfTest :: rest))
      (archiveActivation env reply fuel directory now samples probability selfTest)
      (fun _ => Ready env health directory rest) (fun _ => Throughout (Sound env health)) := by
  have hsame {s : Machine Path UInt8 UInt32}
      (hs : Ready env health directory (.archive now samples probability selfTest :: rest) s) :
      Ready env health directory rest s :=
    ⟨hs.throughout, hs.free.tail, Nat.le_trans (by simp) hs.count⟩
  by_cases hdir : directory = []
  · unfold archiveActivation
    exact .ite (fun _ => .pure fun s hs => hsame hs) fun h => absurd hdir h
  cases now with
  | none =>
    unfold archiveActivation
    exact .ite (fun h => absurd h hdir) fun _ => .pure fun s hs => hsame hs
  | some now =>
    intro s hs
    have hfree := hs.free now samples probability selfTest List.mem_cons_self s.memory le_rfl
    refine (Op.Meets.after
      (archiveActivation_meets reply fuel hapart samples probability rfl hdir hfree)
      fun ok t ht => ?_) s ⟨rfl, rfl, hs.throughout⟩
    have hothers (p : Path) (hp : Elsewhere env (stemOf env directory now s.memory selfTest) p)
        (hne : p ≠ jsonName (stemOf env directory now s.memory selfTest)) :
        t.files p = s.files p := by
      have hfiles := ht.files
      cases ok with
      | false => exact hfiles.others p hp
      | true => exact hfiles.others p hp hne
    obtain ⟨hnext, hcount⟩ := hs.free.next hs.count hothers
    rw [← ht.memory] at hnext hcount
    exact ⟨ht.throughout, hnext, hcount⟩

lemma perform_ready (hapart : Apart env health) (request : Request F) {rest : List (Request F)} :
    Op.Meets (Ready env health directory (request :: rest))
      (perform env reply fuel directory health request)
      (fun _ => Ready env health directory rest) (fun _ => Throughout (Sound env health)) := by
  have hkept {s t : Machine Path UInt8 UInt32} {A : Files Path UInt8 → Prop}
      (hs : Ready env health directory (request :: rest) s)
      (ht : Holds (Sound env health) s.memory A t)
      (hothers : ∀ stem, t.files (jsonName stem) = s.files (jsonName stem)) :
      Ready env health directory rest t := by
    refine ⟨ht.throughout, ?_, ?_⟩ <;> rw [ht.memory]
    · exact hs.free.tail.congr hothers
    · exact Nat.le_trans (by simp) hs.count
  cases request with
  | archive now samples probability selfTest =>
    exact .bind (archiveActivation_ready hapart now samples probability selfTest) fun _ =>
      .pure fun s hs => hs
  | status status =>
    intro s hs
    have hpub (h : Sound env health s.files) : Sound env health (Function.update
        (Function.update s.files (tmpName env health) none) health (some ⟨status.line, true⟩)) :=
      Sound.setStatus (temporary_tmpName hapart _ _ none h) hapart fun file hfile =>
        ⟨status, (Option.some.inj hfile).symm⟩
    refine (Op.Meets.after (writeCaptureStatus_meets (temporary_tmpName hapart _) status hpub)
      fun _ t ht => ?_) s ⟨rfl, rfl, hs.throughout⟩
    exact hkept hs ht fun stem =>
      ht.files _ (jsonName_ne_tmpName _ _) (hapart.json stem).symm
  | clear =>
    refine .ite (fun hnil => ?_) fun _ => ?_
    · exact .pure fun s hs => ⟨hs.throughout, hs.free.tail, Nat.le_trans (by simp) hs.count⟩
    intro s hs
    refine (Op.Meets.bind (unlink_meets fun h => h.setStatus hapart fun file hfile =>
      nomatch hfile) fun _ => .pure fun t ht => ?_) s ⟨rfl, rfl, hs.throughout⟩
    refine hkept hs ht fun stem => ?_
    rcases ht.files with hg | ⟨-, hg⟩ <;> rw [hg]
    exact Function.update_of_ne (hapart.json stem).symm _ _

lemma performAll_throughout (reply : ℕ → Reply) (fuel : ℕ) (hapart : Apart env health)
    (requests : List (Request F)) :
    Op.Meets (Ready env health directory requests)
      (performAll env reply fuel directory health requests)
      (fun _ => Throughout (Sound env health)) (fun _ => Throughout (Sound env health)) := by
  induction requests with
  | nil => exact .pure fun s hs => hs.throughout
  | cons request rest ih => exact .bind (perform_ready hapart request) fun _ => ih

/-- **The archive is sound at every call.** Whatever the system answers and wherever the listener
is killed, a reader finds whole recordings, metadata only beside the recording that it describes,
and a whole status. -/
theorem archive_sound_at_every_call (hapart : Apart env health) (reply : ℕ → Reply) (fuel : ℕ)
    (requests : List (Request F)) (hcount : requests.length ≤ 2 ^ 32) {files : Files Path UInt8}
    (hsound : Sound env health files) (hfree : FreeNames env directory requests 0 files) :
    ∀ f ∈ (performAll env reply fuel directory health requests ⟨files, [], 0, 0⟩).1.past,
      Sound env health f := by
  have hready : Ready env health directory requests ⟨files, [], 0, 0⟩ :=
    ⟨⟨hsound, by simp⟩, hfree, by simpa using hcount⟩
  have hends := performAll_throughout reply fuel hapart requests _ hready
  rcases hrun : performAll env reply fuel directory health requests ⟨files, [], 0, 0⟩ with
    ⟨t, e | a⟩ <;> rw [hrun] at hends <;> exact hends.past

/-- Two activations in the same second, between a status and its removal. -/
theorem archive_sound_two : ∃ s, (performAll tinyEnv slowReply 90 "/a".toList statusPath
    [.status .healthy, .archive (some ⟨"20250101_120000".toList, 5000000⟩) [7, 8] 1 false,
      .archive (some ⟨"20250101_120000".toList, 5000000⟩) [9] 1 false, .clear]
    ⟨fun _ => none, [], 0, 0⟩).1 = s ∧ ∀ f ∈ s.past, Sound tinyEnv statusPath f :=
  ⟨_, rfl, archive_sound_at_every_call (statusPath_apart tinyEnv) _ _ _ (by decide)
    (sound_empty tinyEnv statusPath) fun _ _ _ _ _ _ _ => rfl⟩

end Process

end HermesRealtime.Archives

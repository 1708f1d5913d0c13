import HermesRealtime.Contracts
import Mathlib.Logic.Function.Basic

/-!
Files that are published by renaming them. A writer makes a temporary file, fills it, has it synced
and renames it; any call of the system may fail, a write may take a part of what it is given, and
the writer may be killed after any call. What a reader can ever find is what the files were after
one of the calls.
-/

namespace HermesRealtime.Publications

/-- What a name refers to. A file is synced when nothing has been written to it since it was. -/
structure File (B : Type) where
  content : List B
  synced : Bool
  deriving DecidableEq

abbrev Files (P B : Type) := P → Option (File B)

/-- What the system answers to a call. A write takes at most `count` bytes; an interrupted call has
done nothing. Whether the call succeeds if it is one of `unlink` is said apart. -/
structure Reply where
  interrupted : Bool
  fails : Bool
  count : ℕ
  unlinks : Bool
  deriving DecidableEq

/-- A process, the files, and what these were after each call it has made. -/
structure Machine (P B X : Type) where
  files : Files P B
  past : List (Files P B)
  calls : ℕ
  memory : X

/-- The process is killed. -/
inductive Killed
  | killed
  deriving DecidableEq

abbrev Prog (P B X α : Type) := Op (Machine P B X) Killed α

variable {P B X α : Type}

/-! ### Calls of the system -/

section Calls

variable [DecidableEq P] (reply : ℕ → Reply)

def call (effect : Reply → Files P B → Files P B × α) : Prog P B X α := fun s =>
  let done := effect (reply s.calls) s.files
  ({ s with files := done.1, past := s.past ++ [done.1], calls := s.calls + 1 }, .ok done.2)

/-- `open` with `O_CREAT | O_TRUNC | O_WRONLY`, and `fopen` for writing. -/
def openTruncate (p : P) : Prog P B X Bool :=
  call reply fun r f =>
    if r.fails then (f, false) else (Function.update f p (some ⟨[], false⟩), true)

/-- The file with the bytes after what it holds. -/
def File.append (file : File B) (bytes : List B) : File B :=
  if bytes = [] then file else ⟨file.content ++ bytes, false⟩

def appendTo (f : Files P B) (p : P) (bytes : List B) : Files P B :=
  Function.update f p ((f p).map (·.append bytes))

inductive Written
  | interrupted
  | failed
  | wrote (count : ℕ)

/-- `write` on a descriptor of the name, which nothing renames while it is open. -/
def write (p : P) (bytes : List B) : Prog P B X Written :=
  call reply fun r f =>
    if r.interrupted then (f, .interrupted)
    else if r.fails then (f, .failed)
    else (appendTo f p (bytes.take r.count), .wrote (min r.count bytes.length))

def fsync (p : P) : Prog P B X Bool :=
  call reply fun r f =>
    if r.fails then (f, false)
    else (Function.update f p ((f p).map fun file => { file with synced := true }), true)

/-- A call that changes no file: `close`, `mkdir`. -/
def other : Prog P B X Bool := call reply fun r f => (f, !r.fails)

def rename (p q : P) : Prog P B X Bool :=
  call reply fun r f =>
    match f p with
    | some file =>
      if r.fails then (f, false)
      else (Function.update (Function.update f p none) q (some file), true)
    | none => (f, false)

def unlink (p : P) : Prog P B X Bool :=
  call reply fun r f => if r.unlinks then (Function.update f p none, true) else (f, false)

/-- `fprintf`, `fflush` and `fclose` on a buffered stream: a part of what is pending goes to the
file, all of it if the call is to `empty` the buffer and does not fail. -/
def spill (p : P) (pending : List B) (empty : Bool) : Prog P B X (Bool × List B) :=
  call reply fun r f =>
    let count := if empty && !r.fails then pending.length else r.count
    (appendTo f p (pending.take count), !r.fails, pending.drop count)

/-- `write` until all bytes are written; an interrupted call is repeated. -/
def writeAll (p : P) : ℕ → List B → Prog P B X Bool
  | 0, _ => Op.raise .killed
  | fuel + 1, bytes =>
    if bytes = [] then pure true
    else do
      match ← write reply p bytes with
      | .interrupted => writeAll p fuel bytes
      | .failed => pure false
      | .wrote count => writeAll p fuel (bytes.drop count)

end Calls
/-! ### What holds after every call -/

/-- The invariant holds of the files as they are and as they were after each call. -/
structure Throughout (Inv : Files P B → Prop) (s : Machine P B X) : Prop where
  files : Inv s.files
  past : ∀ f ∈ s.past, Inv f

/-- An assertion about the files, beside the invariant and what the process remembers. -/
structure Holds (Inv : Files P B → Prop) (m : X) (A : Files P B → Prop) (s : Machine P B X) :
    Prop where
  memory : s.memory = m
  files : A s.files
  throughout : Throughout Inv s

/-- The invariant says nothing about the name. -/
def Temporary [DecidableEq P] (Inv : Files P B → Prop) (p : P) : Prop :=
  ∀ f x, Inv f → Inv (Function.update f p x)

section Rules

variable {Inv : Files P B → Prop} {m : X} {reply : ℕ → Reply} {f : Files P B} {p q : P}
  {file : File B} {A A' : Files P B → Prop}

lemma Holds.mono {s : Machine P B X} (h : Holds Inv m A s) (hA : ∀ f, A f → A' f) :
    Holds Inv m A' s :=
  ⟨h.memory, hA _ h.files, h.throughout⟩

lemma exists_meets {ι β : Type} {A : ι → Files P B → Prop} {x : Prog P B X β}
    {Q : β → Machine P B X → Prop} {E : Killed → Machine P B X → Prop}
    (h : ∀ i, Op.Meets (Holds Inv m (A i)) x Q E) :
    Op.Meets (Holds Inv m fun g => ∃ i, A i g) x Q E := by
  rintro s ⟨hm, ⟨i, hi⟩, hinv⟩
  exact h i s ⟨hm, hi, hinv⟩

lemma fact_meets {β : Type} {c : Prop} {x : Prog P B X β} {Q : β → Machine P B X → Prop}
    {E : Killed → Machine P B X → Prop} (h : c → Op.Meets (Holds Inv m A) x Q E) :
    Op.Meets (Holds Inv m fun g => c ∧ A g) x Q E := by
  rintro s ⟨hm, ⟨hc, hA⟩, hinv⟩
  exact h hc s ⟨hm, hA, hinv⟩

/-- How the files are left by a function that says whether it has succeeded. -/
def Ending (D F : Files P B → Prop) : Bool → Files P B → Prop
  | true => D
  | false => F

/-- Whatever is done before a function says that it has failed. -/
lemma failing_meets {β : Type} {P' : Machine P B X → Prop} {x : Prog P B X β}
    {D F : Files P B → Prop} {E : Killed → Machine P B X → Prop}
    (hx : Op.Meets P' x (fun _ => Holds Inv m F) E) :
    Op.Meets P' (x >>= fun _ => pure false) (fun ok => Holds Inv m (Ending D F ok)) E :=
  .bind hx fun _ => .pure fun _ hs => hs

/-- **The rule of a call**: what the system does to the files keeps the invariant, whatever it
answers. -/
lemma call_meets {effect : Reply → Files P B → Files P B × α} {Q : α → Files P B → Prop}
    {E : Killed → Machine P B X → Prop}
    (h : ∀ n f, A f → Inv f →
      Inv (effect (reply n) f).1 ∧ Q (effect (reply n) f).2 (effect (reply n) f).1) :
    Op.Meets (Holds Inv m A) (call reply effect) (fun a => Holds Inv m (Q a)) E := by
  rintro s ⟨hm, hA, hnow, hpast⟩
  obtain ⟨hinv, hQ⟩ := h s.calls s.files hA hnow
  refine ⟨hm, hQ, hinv, fun g hg => ?_⟩
  rcases List.mem_append.mp hg with hg | hg
  · exact hpast g hg
  · rw [List.mem_singleton.mp hg]
    exact hinv

lemma other_meets {E : Killed → Machine P B X → Prop} :
    Op.Meets (Holds Inv m A) (other reply) (fun _ => Holds Inv m A) E :=
  call_meets fun _ _ hA hinv => ⟨hinv, hA⟩

@[simp] lemma File.append_nil (file : File B) : file.append [] = file := by simp [File.append]

lemma File.append_append (file : File B) (a b : List B) :
    (file.append a).append b = file.append (a ++ b) := by
  unfold File.append
  by_cases ha : a = [] <;> by_cases hb : b = [] <;> simp [ha, hb]

variable [DecidableEq P]

@[simp] lemma appendTo_update (f : Files P B) (p : P) (file : File B) (bytes : List B) :
    appendTo (Function.update f p (some file)) p bytes =
      Function.update f p (some (file.append bytes)) := by
  simp [appendTo]

lemma openTruncate_meets (hp : Temporary Inv p) {E : Killed → Machine P B X → Prop} :
    Op.Meets (Holds Inv m (· = f)) (openTruncate reply p)
      (fun ok => Holds Inv m (· = if ok then Function.update f p (some ⟨[], false⟩) else f)) E := by
  refine call_meets fun n g hg hinv => ?_
  generalize reply n = r
  subst hg
  by_cases hr : r.fails
  · simpa [hr] using hinv
  · simpa [hr] using hp _ _ hinv

/-- A file that is being written beside the files `f`. -/
def Draft (f : Files P B) (p : P) (file : File B) (g : Files P B) : Prop :=
  g = Function.update f p (some file)

lemma write_meets (hp : Temporary Inv p) (file : File B) (bytes : List B)
    {E : Killed → Machine P B X → Prop} :
    Op.Meets (Holds Inv m (Draft f p file)) (write reply p bytes)
      (fun result => Holds Inv m (match result with
        | .interrupted | .failed => Draft f p file
        | .wrote count => Draft f p (file.append (bytes.take count)))) E := by
  refine call_meets fun n g hg hinv => ?_
  generalize reply n = r
  rw [Draft] at hg
  subst hg
  by_cases hi : r.interrupted
  · simpa [hi] using ⟨hinv, rfl⟩
  by_cases hr : r.fails
  · simpa [hi, hr] using ⟨hinv, rfl⟩
  · have hkept := hp _ (some (file.append (bytes.take r.count))) hinv
    rw [Function.update_idem] at hkept
    have htaken : bytes.take (min r.count bytes.length) = bytes.take r.count := by
      rcases Nat.le_total r.count bytes.length with h | h
      · rw [Nat.min_eq_left h]
      · rw [Nat.min_eq_right h, List.take_length, List.take_of_length_le h]
    simpa [hi, hr, Draft, htaken] using hkept

/-- **What `write` is repeated for.** The bytes are in the file when it says so. -/
lemma writeAll_meets (hp : Temporary Inv p) {fuel : ℕ} (file : File B) (bytes : List B) :
    Op.Meets (Holds Inv m (Draft f p file)) (writeAll reply p fuel bytes)
      (fun ok => Holds Inv m fun g => ∃ file',
        (ok = true → file' = file.append bytes) ∧ Draft f p file' g)
      (fun _ => Throughout Inv) := by
  induction fuel generalizing file bytes with
  | zero => exact .raise fun s hs => hs.throughout
  | succ fuel ih =>
    unfold writeAll
    refine .ite (fun hnil => .pure fun s hs => hs.mono fun g hg => ⟨file, fun _ => ?_, hg⟩)
      fun _ => .bind (write_meets hp file bytes) fun result => ?_
    · rw [hnil, File.append_nil]
    cases result with
    | interrupted => exact ih file bytes
    | failed => exact .pure fun s hs => hs.mono fun g hg => ⟨file, by simp, hg⟩
    | wrote count =>
      refine (ih _ _).after fun ok s hs => hs.mono ?_
      rintro g ⟨file', hok, hdraft⟩
      refine ⟨file', fun h => ?_, hdraft⟩
      rw [hok h, File.append_append, List.take_append_drop]

lemma spill_meets (hp : Temporary Inv p) (file : File B) (pending : List B) (empty : Bool)
    {E : Killed → Machine P B X → Prop} :
    Op.Meets (Holds Inv m (Draft f p file)) (spill reply p pending empty)
      (fun result => Holds Inv m fun g => ∃ taken,
        (pending = taken ++ result.2 ∧ (empty = true → result.1 = true → result.2 = [])) ∧
          Draft f p (file.append taken) g) E := by
  refine call_meets fun n g hg hinv => ?_
  generalize reply n = r
  rw [Draft] at hg
  subst hg
  set count := if empty && !r.fails then pending.length else r.count with hcount
  have hkept := hp _ (some (file.append (pending.take count))) hinv
  rw [Function.update_idem] at hkept
  refine ⟨by simpa using hkept, pending.take count, ⟨(List.take_append_drop _ _).symm,
    fun hempty hok => ?_⟩, appendTo_update _ _ _ _⟩
  have hall : count = pending.length := by
    rw [hcount, hempty, show (!r.fails) = true from hok]
    rfl
  show pending.drop count = []
  rw [hall, List.drop_length]

lemma fsync_meets (hp : Temporary Inv p) (file : File B) {E : Killed → Machine P B X → Prop} :
    Op.Meets (Holds Inv m (Draft f p file)) (fsync reply p)
      (fun ok => Holds Inv m (Draft f p (if ok then { file with synced := true } else file)))
      E := by
  refine call_meets fun n g hg hinv => ?_
  generalize reply n = r
  rw [Draft] at hg
  subst hg
  by_cases hr : r.fails
  · simpa [hr, Draft] using hinv
  · have hkept := hp _ (some { file with synced := true }) hinv
    rw [Function.update_idem] at hkept
    simpa [hr, Draft] using hkept

/-- No `unlink` fails. -/
def Unlinks (reply : ℕ → Reply) : Prop := ∀ n, (reply n).unlinks = true

/-- The name is free, unless `unlink` failed. -/
lemma unlink_meets (hdrop : Inv f → Inv (Function.update f p none))
    {E : Killed → Machine P B X → Prop} :
    Op.Meets (Holds Inv m (· = f)) (unlink reply p)
      (fun _ => Holds Inv m fun g =>
        g = Function.update f p none ∨ ¬ Unlinks reply ∧ g = f) E := by
  refine call_meets fun n g hg hinv => ?_
  subst hg
  by_cases hr : (reply n).unlinks
  · simpa [hr] using hdrop hinv
  · have hkept : ¬ Unlinks reply := fun h => hr (h n)
    simpa [hr, hkept] using hinv

/-- What a temporary name stands for may be dropped. -/
lemma Temporary.base (hp : Temporary Inv p) {x : Option (File B)}
    (h : Inv (Function.update f p x)) : Inv f := by
  have hback := hp _ (f p) h
  rwa [Function.update_idem, Function.update_eq_self] at hback

/-- **Publication**: the name has the file at once, and the temporary name is free. -/
lemma rename_meets (hinv : Inv f → Inv (Function.update (Function.update f p none) q (some file)))
    (hp : Temporary Inv p) {E : Killed → Machine P B X → Prop} :
    Op.Meets (Holds Inv m (Draft f p file)) (rename reply p q)
      (fun ok => Holds Inv m (· = if ok then
        Function.update (Function.update f p none) q (some file)
        else Function.update f p (some file))) E := by
  refine call_meets fun n g hg hnow => ?_
  generalize reply n = r
  rw [Draft] at hg
  subst hg
  by_cases hr : r.fails
  · simpa [hr] using hnow
  · simpa [hr] using hinv (hp.base hnow)

end Rules

/-! ### Writing ends -/

/-- A write that is answered so is not interrupted, and fails or makes progress. -/
def Reply.Effective (r : Reply) : Prop :=
  r.interrupted = false ∧ (r.fails = true ∨ 0 < r.count)

/-- Again and again a write has an effect. -/
def Fair (reply : ℕ → Reply) : Prop := ∀ n, ∃ k, n ≤ k ∧ (reply k).Effective

section Termination

variable {reply : ℕ → Reply} {p : P}

lemma call_steady (effect : Reply → Files P B → Files P B × α) :
    Op.Steady .killed fun _ => (call reply effect : Prog P B X α) :=
  .const fun _ => by simp [call]

variable [DecidableEq P]

lemma writeAll_grows (n m : ℕ) (h : n ≤ m) (bytes : List B) :
    Op.Refines .killed (writeAll reply p n bytes : Prog P B X Bool) (writeAll reply p m bytes) := by
  induction n generalizing m bytes with
  | zero => exact .out _
  | succ n ih =>
    obtain ⟨m, rfl⟩ : ∃ m', m = m' + 1 := ⟨m - 1, by omega⟩
    have hle : n ≤ m := by omega
    unfold writeAll
    refine .ite (.refl _) (.bind (.refl _) fun result => ?_)
    cases result with
    | interrupted => exact ih m hle bytes
    | failed => exact .refl _
    | wrote count => exact ih m hle _

/-- One write of the loop. -/
lemma writeAll_succ (reply : ℕ → Reply) (p : P) {bytes : List B} (hne : bytes ≠ [])
    (s : Machine P B X) :
    ∃ t : Machine P B X, t.calls = s.calls + 1 ∧ ∀ fuel, writeAll reply p (fuel + 1) bytes s =
      if (reply s.calls).interrupted then writeAll reply p fuel bytes t
      else if (reply s.calls).fails then (t, .ok false)
      else writeAll reply p fuel (bytes.drop (min (reply s.calls).count bytes.length)) t := by
  have hwrite : write reply p bytes s = ((write reply p bytes s : _ × Except Killed _).1, .ok
      (if (reply s.calls).interrupted then .interrupted
        else if (reply s.calls).fails then .failed
        else .wrote (min (reply s.calls).count bytes.length))) := by
    by_cases hi : (reply s.calls).interrupted
    · simp [write, call, hi]
    by_cases hf : (reply s.calls).fails <;> simp [write, call, hi, hf]
  refine ⟨(write reply p bytes s : _ × Except Killed _).1, rfl, fun fuel => ?_⟩
  rw [writeAll, if_neg hne, Op.bind_of_ok hwrite]
  split_ifs <;> rfl

/-- A loop ends if it does with what one write leaves to be written: less than before, or the same
after a write without effect. -/
lemma writeAll_settles_step {bytes : List B} {s : Machine P B X}
    (h : ∀ (rest : List B) (t : Machine P B X), t.calls = s.calls + 1 →
      rest.length < bytes.length ∨ rest = bytes ∧ ¬ (reply s.calls).Effective →
        ∃ n, (writeAll reply p n rest t).2 ≠ .error .killed) :
    ∃ n, (writeAll reply p n bytes s).2 ≠ .error .killed := by
  by_cases hnil : bytes = []
  · exact ⟨1, by simp [writeAll, hnil]⟩
  have hpos := List.length_pos_iff.mpr hnil
  obtain ⟨t, hcalls, hstep⟩ := writeAll_succ reply p hnil s
  by_cases hi : (reply s.calls).interrupted
  · obtain ⟨n, hn⟩ := h bytes t hcalls (Or.inr ⟨rfl, by simp [Reply.Effective, hi]⟩)
    exact ⟨n + 1, by rwa [hstep, if_pos hi]⟩
  by_cases hf : (reply s.calls).fails
  · exact ⟨1, by rw [hstep, if_neg hi, if_pos hf]; simp⟩
  have hleft : (bytes.drop (min (reply s.calls).count bytes.length)).length < bytes.length ∨
      bytes.drop (min (reply s.calls).count bytes.length) = bytes ∧
        ¬ (reply s.calls).Effective := by
    by_cases hcount : (reply s.calls).count = 0
    · exact Or.inr (by simp [hcount, Reply.Effective, hf])
    · rw [List.length_drop]
      omega
  obtain ⟨n, hn⟩ := h _ t hcalls hleft
  exact ⟨n + 1, by rwa [hstep, if_neg hi, if_neg hf]⟩

lemma writeAll_settles (hfair : Fair reply) (bytes : List B) (s : Machine P B X) :
    ∃ n, (writeAll reply p n bytes s).2 ≠ .error .killed := by
  -- the bytes that are left, then the calls until a write has an effect
  induction hsize : bytes.length using Nat.strongRecOn generalizing bytes s with
  | _ size ihsize =>
    obtain ⟨k, hk, heffective⟩ := hfair s.calls
    induction hdist : k - s.calls generalizing s with
    | zero =>
      obtain rfl : k = s.calls := by omega
      refine writeAll_settles_step fun rest t _ hleft => ?_
      rcases hleft with hless | ⟨-, hnone⟩
      · exact ihsize _ (hsize ▸ hless) rest t rfl
      · exact absurd heffective hnone
    | succ d ihdist =>
      refine writeAll_settles_step fun rest t hcalls hleft => ?_
      rcases hleft with hless | ⟨rfl, -⟩
      · exact ihsize _ (hsize ▸ hless) rest t rfl
      · exact ihdist t (by omega) (by omega)

lemma writeAll_steady (hfair : Fair reply) (bytes : List B) :
    Op.Steady .killed fun n => (writeAll reply p n bytes : Prog P B X Bool) :=
  ⟨fun n m hle => writeAll_grows n m hle bytes, writeAll_settles hfair bytes⟩

end Termination

end HermesRealtime.Publications

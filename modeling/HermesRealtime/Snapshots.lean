import HermesRealtime.CircularBuffers
import HermesRealtime.Listener
import Mathlib.Data.Nat.ModEq

/-!
What a snapshot of the ring is. The worker loads the number of samples and the index, and then
copies slot by slot while the capture thread goes on writing; what it gets is the window that ended
where the index was, as long as the writes during the copy fit in the rest of the ring.

The number of samples is kept modulo `2 ^ 64`, and just after it has come round the ring is taken
to be empty.
-/

namespace HermesRealtime.Snapshots

open Listener CircularBuffers

variable {F : Type} {ring : SampleRing F} {history : List F}

/-- The ring after the samples of a history. -/
structure Written (ring : SampleRing F) (history : List F) : Prop where
  index : ring.writeIndex.val = history.length % ring.capacity
  holds : Holds ring.samples history

lemma slot_val (ring : SampleRing F) {index : ℕ} (h : index < 2 ^ 64) :
    (ring.slot index).val = index % ring.capacity := by
  change index % 2 ^ 64 % ring.capacity = index % ring.capacity
  rw [Nat.mod_eq_of_lt h]

lemma Written.store (h : Written ring history) (sample : F) :
    Written (ring.store sample) (history ++ [sample]) := by
  refine ⟨?_, h.holds.put h.index sample⟩
  have hindex := ring.writeIndex.isLt
  have hallocated := ring.allocated
  calc (ring.slot (ring.writeIndex + 1)).val
      = (ring.writeIndex + 1) % ring.capacity := slot_val ring (by omega)
    _ = (history ++ [sample]).length % ring.capacity := by
      rw [h.index, Nat.mod_add_mod, List.length_append, List.length_singleton]

lemma Written.foldl (h : Written ring history) (samples : List F) :
    Written (samples.foldl SampleRing.store ring) (history ++ samples) := by
  induction samples generalizing ring history with
  | nil => simpa using h
  | cons sample samples ih => simpa using ih (h.store sample)

lemma Written.write (h : Written ring history) (samples : List F) :
    Written (ring.write samples) (history ++ samples) := by
  obtain ⟨hindex, hholds⟩ := h.foldl samples
  exact ⟨hindex, hholds⟩

lemma Written.writes (h : Written ring history) (calls : List (List F)) :
    Written (calls.foldl SampleRing.write ring) (history ++ calls.flatten) := by
  induction calls generalizing ring history with
  | nil => simpa using h
  | cons samples calls ih => simpa using ih (h.write samples)

@[simp] lemma store_capacity (ring : SampleRing F) (sample : F) :
    (ring.store sample).capacity = ring.capacity := rfl

lemma foldl_store_capacity (ring : SampleRing F) (samples : List F) :
    (samples.foldl SampleRing.store ring).capacity = ring.capacity := by
  induction samples generalizing ring with
  | nil => rfl
  | cons sample samples ih => rw [List.foldl_cons, ih, store_capacity]

@[simp] lemma write_capacity (ring : SampleRing F) (samples : List F) :
    (ring.write samples).capacity = ring.capacity := foldl_store_capacity ring samples

lemma writes_capacity (ring : SampleRing F) (calls : List (List F)) :
    (calls.foldl SampleRing.write ring).capacity = ring.capacity := by
  induction calls generalizing ring with
  | nil => rfl
  | cons samples calls ih => rw [List.foldl_cons, ih, write_capacity]

lemma write_total (ring : SampleRing F) (samples : List F) :
    (ring.write samples).totalWritten = (ring.totalWritten + samples.length) % 2 ^ 64 := by
  have hstore (ring : SampleRing F) (samples : List F) :
      (samples.foldl SampleRing.store ring).totalWritten = ring.totalWritten := by
    induction samples generalizing ring with
    | nil => rfl
    | cons sample samples ih => rw [List.foldl_cons, ih]; rfl
  rw [SampleRing.write]
  dsimp only
  rw [hstore]

lemma writes_total (ring : SampleRing F) (calls : List (List F)) {written : ℕ}
    (h : ring.totalWritten = written % 2 ^ 64) :
    (calls.foldl SampleRing.write ring).totalWritten =
      (written + calls.flatten.length) % 2 ^ 64 := by
  induction calls generalizing ring written with
  | nil => simpa using h
  | cons samples calls ih =>
    have hwrite : (ring.write samples).totalWritten = (written + samples.length) % 2 ^ 64 := by
      rw [write_total, h, Nat.mod_add_mod]
    rw [List.foldl_cons, ih _ hwrite, List.flatten_cons, List.length_append, Nat.add_assoc]

lemma ringInit_written {fl : Floats F} {capacity : ℕ} {hasRoom : Bool}
    (h : ringInit fl capacity hasRoom = some ring) :
    ring.capacity = capacity ∧ ring.totalWritten = 0 ∧ Written ring [] := by
  rw [ringInit] at h
  split_ifs at h
  cases h
  exact ⟨rfl, rfl, by simp, holds_nil _⟩

/-! ### Copying -/

/-- The last `n` samples of a history. -/
def latest (n : ℕ) (history : List F) : List F := history.drop (history.length - n)

def isRead : ReadEvent F → Bool
  | .read => true
  | .write _ => false

def reads (events : List (ReadEvent F)) : ℕ := (events.filter isRead).length

def writes (events : List (ReadEvent F)) : ℕ := (events.filter fun e => !isRead e).length

/-- The slot of the reader, `i` slots after the one where it started. -/
lemma readIndex_mod {capacity written n readIndex index i : ℕ} (hindex : index = written % capacity)
    (hread : readIndex = (index + capacity - n) % capacity) (hn : n ≤ capacity)
    (hwritten : n ≤ written) : (readIndex + i) % capacity = (written - n + i) % capacity := by
  have hback : index + capacity - n ≡ written - n [MOD capacity] := by
    refine Nat.ModEq.add_right_cancel' n ?_
    calc index + capacity - n + n = index + capacity := by omega
      _ ≡ index [MOD capacity] := by simp [Nat.ModEq]
      _ ≡ written [MOD capacity] := by simp [Nat.ModEq, hindex]
      _ = written - n + n := by omega
  rw [hread, Nat.mod_add_mod]
  exact hback.add_right i

/-- The reader finds the rest of its window, while the writes leave it alone. -/
lemma readSlots_latest {n readIndex i : ℕ} {more out : List F} {events : List (ReadEvent F)}
    (h : Written ring (history ++ more)) (hn : n ≤ ring.capacity) (hlong : n ≤ history.length)
    (hread : readIndex = (history.length % ring.capacity + ring.capacity - n) % ring.capacity)
    (hi : i + reads events = n) (hslack : more.length + writes events ≤ ring.capacity - n)
    (hout : out.length = n) (hdone : ∀ k < i, out[k]? = (latest n history)[k]?) :
    readSlots readIndex i ring out events = latest n history := by
  induction events generalizing ring more i out with
  | nil =>
    rw [readSlots]
    have hi : i = n := by simpa [reads] using hi
    refine List.ext_getElem? fun k => ?_
    rcases Nat.lt_or_ge k n with hk | hk
    · exact hdone k (by omega)
    · rw [List.getElem?_eq_none (by omega), List.getElem?_eq_none]
      rw [latest, List.length_drop]
      omega
  | cons event events ih =>
    cases event with
    | write sample =>
      rw [readSlots]
      have hwritten := h.write [sample]
      rw [List.append_assoc] at hwritten
      have hcapacity := write_capacity ring [sample]
      refine ih hwritten (by rwa [hcapacity]) (by rwa [hcapacity]) hi ?_ hout hdone
      have hmore : more.length + (writes events + 1) ≤ ring.capacity - n := hslack
      rw [List.length_append, List.length_singleton, hcapacity]
      omega
    | read =>
      rw [readSlots]
      have hcount : i + (reads events + 1) = n := hi
      have hallocated := ring.allocated
      have hreadlt : readIndex < ring.capacity := hread ▸ Nat.mod_lt _ ring.writeIndex.pos
      have hslot : (ring.slot (readIndex + i)).val =
          (history.length - n + i) % ring.capacity := by
        rw [slot_val ring (by omega)]
        exact readIndex_mod rfl hread hn hlong
      have hvalue := h.holds.get_of_append (j := history.length - n + i) (by omega)
        (by omega) hslot
      refine ih h hn hread (by omega) hslack (by rw [List.length_set, hout]) fun k hk => ?_
      rcases Nat.lt_or_ge k i with hold | hnew
      · rw [List.getElem?_set_ne (by omega), hdone k hold]
      · obtain rfl : k = i := by omega
        rw [List.getElem?_set_self (by omega), hvalue, latest, List.getElem?_drop,
          List.getElem?_eq_getElem (by omega)]
        rfl

/-! ### Snapshots -/

/-- What the worker gets of a ring that some history has been written to. -/
lemma ringSnapshotLatest_written (h : Written ring history)
    (hcount : ring.totalWritten = history.length % 2 ^ 64) (between : List (List F))
    {events : List (ReadEvent F)} {out : List F} (hwindow : 1 ≤ out.length)
    (hcapacity : out.length ≤ ring.capacity) (hreads : reads events = out.length)
    (hwrites : writes events ≤ ring.capacity - out.length) :
    ringSnapshotLatest ring between events out =
      if history.length % 2 ^ 64 < out.length then (0, out)
      else (out.length, latest out.length (history ++ between.flatten)) := by
  have hwritten := h.writes between
  rw [ringSnapshotLatest, if_neg (by omega), hcount]
  split_ifs with hfew
  · rfl
  · have hcapacities : (between.foldl SampleRing.write ring).capacity = ring.capacity :=
      writes_capacity ring between
    set current := between.foldl SampleRing.write ring with hcurrent
    have hallocated := current.allocated
    have hindex := current.writeIndex.isLt
    have hlong : out.length ≤ (history ++ between.flatten).length := by
      have hmod := Nat.mod_le history.length (2 ^ 64)
      rw [List.length_append]
      omega
    have hread : (current.slot (current.writeIndex + current.capacity + 2 ^ 64 - out.length)).val =
        ((history ++ between.flatten).length % current.capacity + current.capacity - out.length) %
          current.capacity := by
      -- the subtraction comes round once, and the sum is an index again
      have hround : current.writeIndex.val + current.capacity + 2 ^ 64 - out.length =
          current.writeIndex.val + current.capacity - out.length + 2 ^ 64 := by omega
      have hlt : current.writeIndex.val + current.capacity - out.length < 2 ^ 64 := by omega
      change _ % 2 ^ 64 % current.capacity = _
      rw [hround, Nat.add_mod_right, Nat.mod_eq_of_lt hlt, hwritten.index]
    refine Prod.ext rfl ?_
    have hstart : Written current ((history ++ between.flatten) ++ []) := by
      rwa [List.append_nil]
    exact readSlots_latest hstart (by omega) hlong hread
      (by simpa using hreads) (by simpa [hcapacities] using hwrites) rfl (by simp)

/-- A ring that has been made and written to. -/
lemma writes_written {fl : Floats F} {capacity : ℕ} {hasRoom : Bool}
    (hinit : ringInit fl capacity hasRoom = some ring) (calls : List (List F)) :
    (calls.foldl SampleRing.write ring).capacity = capacity ∧
      Written (calls.foldl SampleRing.write ring) calls.flatten ∧
      (calls.foldl SampleRing.write ring).totalWritten = calls.flatten.length % 2 ^ 64 := by
  obtain ⟨rfl, htotal, hempty⟩ := ringInit_written hinit
  refine ⟨writes_capacity ring calls, by simpa using hempty.writes calls, ?_⟩
  rw [writes_total ring calls (by rw [htotal, Nat.zero_mod]), Nat.zero_add]

/-- **A snapshot is the last window**: whatever was written before, and whatever the capture thread
writes meanwhile within the slack of the ring, the worker gets the samples that were the last ones
when it loaded the index. Where the number of samples has come round it gets nothing. -/
theorem snapshot_latest {fl : Floats F} {capacity : ℕ} {hasRoom : Bool}
    (hinit : ringInit fl capacity hasRoom = some ring) (calls between : List (List F))
    {events : List (ReadEvent F)} {out : List F} (hwindow : 1 ≤ out.length)
    (hcapacity : out.length ≤ capacity) (hreads : reads events = out.length)
    (hwrites : writes events ≤ capacity - out.length) :
    ringSnapshotLatest (calls.foldl SampleRing.write ring) between events out =
      if calls.flatten.length % 2 ^ 64 < out.length then (0, out)
      else (out.length, latest out.length (calls ++ between).flatten) := by
  obtain ⟨rfl, hwritten, hcount⟩ := writes_written hinit calls
  rw [List.flatten_append]
  exact ringSnapshotLatest_written hwritten hcount between hwindow hcapacity hreads hwrites

/-- A window of two from a ring of four, while two more samples are written. -/
theorem snapshot_among_writes : ∃ ring, ringInit integers 4 true = some ring ∧
    ringSnapshotLatest (([[1, 2, 3], [4, 5]] : List (List ℤ)).foldl SampleRing.write ring) []
      [.write 6, .read, .write 7, .read] [0, 0] = (2, [4, 5]) := by
  obtain ⟨ring, hinit⟩ : ∃ ring, ringInit integers 4 true = some ring := ⟨_, rfl⟩
  refine ⟨ring, hinit, ?_⟩
  rw [snapshot_latest hinit _ _ (by decide) (by decide) (by decide) (by decide)]
  decide

/-- A window is missed: `2 ^ 64` samples were written, and their number is kept as 0. -/
theorem snapshot_missed : ∃ ring, ringInit integers 1 true = some ring ∧
    1 ≤ (List.replicate (2 ^ 64) [(7 : ℤ)]).flatten.length ∧
    ringSnapshotLatest ((List.replicate (2 ^ 64) [7]).foldl SampleRing.write ring) [] [.read] [0] =
      (0, [0]) ∧
    latest 1 (List.replicate (2 ^ 64) [(7 : ℤ)]).flatten = [7] := by
  have hlength : (List.replicate (2 ^ 64) [(7 : ℤ)]).flatten.length = 2 ^ 64 := by
    rw [List.flatten_replicate_singleton, List.length_replicate]
  obtain ⟨ring, hinit⟩ : ∃ ring, ringInit integers 1 true = some ring := ⟨_, rfl⟩
  refine ⟨ring, hinit, by rw [hlength]; decide, ?_, ?_⟩
  · rw [snapshot_latest hinit _ _ (by decide) (by decide) (by decide) (by decide), hlength,
      Nat.mod_self, if_pos (by decide)]
  · rw [latest, hlength, List.flatten_replicate_singleton, List.drop_replicate]
    rfl

end HermesRealtime.Snapshots

import Mathlib.Algebra.Group.Nat.Defs
import Mathlib.Data.Fin.Basic
import Mathlib.Logic.Function.Basic
import Mathlib.Data.List.Basic

/-!
The wake listener: the ring of samples that the capture thread writes and the worker reads, the
downmix and resampling of what is captured, and the counting of hits that fires an activation.
Samples are of any type with the operations of `float`.
-/

namespace HermesRealtime.Listener

/-- The operations of `float` that the listener uses. -/
structure Floats (F : Type) where
  zero : F
  add : F → F → F
  div : F → F → F
  ofUnsigned : ℕ → F
  atLeast : F → F → Bool

/-- Samples that are integers. -/
def integers : Floats ℤ := ⟨0, (· + ·), (· / ·), Int.ofNat, fun a b => decide (b ≤ a)⟩

def modelRate : ℕ := 16000

/-! ### The ring -/

/-- `struct sample_ring`, once `ring_init` has made it: `calloc` gives no array of floats that is
longer than memory can be, and the index is in the array. -/
structure SampleRing (F : Type) where
  capacity : ℕ
  samples : Fin capacity → F
  writeIndex : Fin capacity
  totalWritten : ℕ
  allocated : 4 * capacity < 2 ^ 64

namespace SampleRing

variable {F : Type}

/-- An index modulo the capacity, computed in `size_t`. -/
def slot (ring : SampleRing F) (index : ℕ) : Fin ring.capacity :=
  ⟨index % 2 ^ 64 % ring.capacity, Nat.mod_lt _ ring.writeIndex.pos⟩

/-- The body of the loop of `ring_write`. -/
def store (ring : SampleRing F) (sample : F) : SampleRing F :=
  { ring with
    samples := Function.update ring.samples ring.writeIndex sample
    writeIndex := ring.slot (ring.writeIndex + 1) }

/-- `ring_write`. -/
def write (ring : SampleRing F) (samples : List F) : SampleRing F :=
  let written := samples.foldl store ring
  { written with totalWritten := (written.totalWritten + samples.length) % 2 ^ 64 }

end SampleRing

/-- `ring_init`; `calloc` may find no room. -/
def ringInit {F : Type} (fl : Floats F) (capacity : ℕ) (hasRoom : Bool) : Option (SampleRing F) :=
  if h : 0 < capacity ∧ 4 * capacity < 2 ^ 64 then
    if hasRoom then
      some ⟨capacity, fun _ => fl.zero, ⟨0, h.1⟩, 0, h.2⟩
    else none
  else none

/-- What happens between two steps of a reader of the ring: the capture thread writes a sample, or
the reader reads the next slot. -/
inductive ReadEvent (F : Type)
  | write (sample : F)
  | read

/-- The loop of `ring_snapshot_latest` from slot `i` on, among the writes of the capture thread. -/
def readSlots {F : Type} (readIndex : ℕ) (i : ℕ) (ring : SampleRing F) (out : List F) :
    List (ReadEvent F) → List F
  | [] => out
  | .write sample :: events => readSlots readIndex i (ring.write [sample]) out events
  | .read :: events =>
    readSlots readIndex (i + 1) ring (out.set i (ring.samples (ring.slot (readIndex + i)))) events

/-- `ring_snapshot_latest`: the samples that were written before `total_written` is loaded are in
`ring`, `between` are the calls of `ring_write` before `write_index` is loaded, and `events` is what
happens after. The result is the number of samples, and the buffer of the caller. -/
def ringSnapshotLatest {F : Type} (ring : SampleRing F) (between : List (List F))
    (events : List (ReadEvent F)) (out : List F) : ℕ × List F :=
  if out.length = 0 then (0, out)
  else if ring.totalWritten < out.length then (0, out)
  else
    let ring := between.foldl SampleRing.write ring
    let readIndex := ring.slot (ring.writeIndex + ring.capacity + 2 ^ 64 - out.length)
    (out.length, readSlots readIndex 0 ring out events)

/-! ### Capture -/

/-- What the capture thread changes. -/
structure Capture (F : Type) where
  ring : SampleRing F
  accumulator : ℕ

/-- `while (accumulator >= rate)`; the rate is not 0. -/
def pushWhile {F : Type} (rate : ℕ) (mono : F) (s : Capture F) : Capture F :=
  if 0 < rate ∧ rate ≤ s.accumulator then
    pushWhile rate mono ⟨s.ring.write [mono], s.accumulator - rate⟩
  else s
termination_by s.accumulator

/-- One frame of `mix_and_resample_downmix`, `samples` being where it starts. -/
def downmixFrame {F : Type} (fl : Floats F) (samples : ℕ → F) (channels rate : ℕ)
    (s : Capture F) (frame : ℕ) : Capture F :=
  let mono := (List.range channels).foldl
    (fun mono ch => fl.add mono (samples (frame * channels + ch))) fl.zero
  let mono := fl.div mono (fl.ofUnsigned channels)
  pushWhile rate mono { s with accumulator := (s.accumulator + modelRate) % 2 ^ 32 }

/-- `mix_and_resample_downmix`. -/
def mixAndResampleDownmix {F : Type} (fl : Floats F) (samples : ℕ → F)
    (frames channels rate : ℕ) (s : Capture F) : Capture F :=
  let channels := if channels = 0 then 1 else channels
  let rate := if rate = 0 then modelRate else rate
  (List.range frames).foldl (downmixFrame fl samples channels rate) s

/-- A buffer that PipeWire hands over: where its samples start, and the size of its chunk. -/
structure Chunk (F : Type) where
  samples : ℕ → F
  size : ℕ

/-- One frame of the loop in `on_process`. -/
def processFrame {F : Type} (fl : Floats F) (samples : ℕ → F) (channels rate : ℕ)
    (s : Capture F) (frame : ℕ) : Capture F :=
  let mono := (List.range channels).foldl
    (fun mono ch => fl.add mono (samples (frame * channels + ch))) fl.zero
  let mono := fl.div mono (fl.ofUnsigned channels)
  pushWhile rate mono { s with accumulator := (s.accumulator + modelRate) % 2 ^ 32 }

/-- `on_process` for a chunk of floats, with what was negotiated; nothing where it divides by
zero. -/
def onProcess {F : Type} (fl : Floats F) (channels rate : ℕ) (s : Capture F) (chunk : Chunk F) :
    Option (Capture F) :=
  if chunk.size = 0 then some s
  else if 4 * channels = 0 then none
  else
    let frames := chunk.size / (4 * channels)
    let channels := if channels = 0 then 1 else channels
    let rate := if rate = 0 then modelRate else rate
    some ((List.range frames).foldl (processFrame fl chunk.samples channels rate) s)

/-! ### Activations -/

/-- How `strtoul` ends: what it has parsed, whether it has seen a digit and all of the text, and
whether it has set `errno`. -/
structure Strtoul where
  value : ℕ
  sawDigits : Bool
  sawAll : Bool
  failed : Bool

/-- A count from 1 to `UINT32_MAX`. -/
structure RequiredCount where
  value : ℕ
  pos : 0 < value
  small : value < 2 ^ 32

/-- `parse_unsigned`. -/
def parseUnsigned (parsed : Strtoul) : Option RequiredCount :=
  if parsed.failed ∨ parsed.sawDigits = false ∨ parsed.sawAll = false ∨ parsed.value = 0 then none
  else if h : 0 < parsed.value ∧ parsed.value < 2 ^ 32 then some ⟨parsed.value, h.1, h.2⟩
  else none

/-- What the worker does with a window: `run_model` gives a probability or fails. The result is the
number of consecutive hits, and whether an activation is fired. -/
def afterInference {F : Type} (fl : Floats F) (threshold : F) (required : RequiredCount)
    (consecutiveHits : ℕ) : Option F → ℕ × Bool
  | none => (consecutiveHits, false)
  | some probability =>
    let hits := if fl.atLeast probability threshold then (consecutiveHits + 1) % 2 ^ 32 else 0
    if required.value ≤ hits then (0, true) else (hits, false)

end HermesRealtime.Listener

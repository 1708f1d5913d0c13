import HermesRealtime.Buffers

/-!
The header of the recording of an activation: 44 bytes, built field by field with arithmetic of 32
bits. The guard bounds the size of the samples; the size of the whole file is 36 bytes more.
-/

namespace HermesRealtime.WavHeader

open Buffers

/-! ### The writer -/

def modelRate : UInt32 := 16000

/-- `sizeof(int16_t)`. -/
def sampleBytes : ℕ := 2

def putU16Le (value : UInt16) : Vector UInt8 2 :=
  #v[(value &&& 0xff).toUInt8, ((value >>> 8) &&& 0xff).toUInt8]

def putU32Le (value : UInt32) : Vector UInt8 4 :=
  #v[(value &&& 0xff).toUInt8, ((value >>> 8) &&& 0xff).toUInt8, ((value >>> 16) &&& 0xff).toUInt8,
    ((value >>> 24) &&& 0xff).toUInt8]

/-- `"RIFF"`, `"WAVEfmt "` and `"data"`. -/
def riffId : Vector UInt8 4 := #v[0x52, 0x49, 0x46, 0x46]

def waveFmtId : Vector UInt8 8 := #v[0x57, 0x41, 0x56, 0x45, 0x66, 0x6d, 0x74, 0x20]

def dataId : Vector UInt8 4 := #v[0x64, 0x61, 0x74, 0x61]

def activationHeader (dataSize : UInt32) : Vector UInt8 44 :=
  let header := store (Vector.replicate 44 0) 0 riffId (by decide)
  let header := store header 4 (putU32Le (36 + dataSize)) (by decide)
  let header := store header 8 waveFmtId (by decide)
  let header := store header 16 (putU32Le 16) (by decide)
  let header := store header 20 (putU16Le 1) (by decide)
  let header := store header 22 (putU16Le 1) (by decide)
  let header := store header 24 (putU32Le modelRate) (by decide)
  let header := store header 28 (putU32Le (modelRate * UInt32.ofNat sampleBytes)) (by decide)
  let header := store header 32 (putU16Le (UInt16.ofNat sampleBytes)) (by decide)
  let header := store header 34 (putU16Le 16) (by decide)
  let header := store header 36 dataId (by decide)
  store header 40 (putU32Le dataSize) (by decide)

/-- The guard of `write_activation_wav`. -/
def Admitted (sampleCount : ℕ) : Prop :=
  ¬ (sampleCount = 0 ∨ sampleCount > (UInt32.size - 1) / sampleBytes)

instance : DecidablePred Admitted := fun _ => inferInstanceAs (Decidable (¬ _))

/-- The product is one of `size_t`, the conversion cuts it to 32 bits. -/
def dataSize (sampleCount : ℕ) : UInt32 := UInt32.ofNat (sampleCount * sampleBytes)

/-- What is written to the temporary file: each sample as one of 16 bits. -/
def activationFile {α : Type*} (pcm16 : α → UInt16) (samples : List α) : List UInt8 :=
  let pcm := samples.flatMap fun sample => (putU16Le (pcm16 sample)).toList
  let size := dataSize samples.length
  (activationHeader size).toList ++ pcm.take size.toNat

/-! ### What a reader of the header finds -/

structure Header where
  riff : Vector UInt8 4
  riffSize : ℕ
  waveFmt : Vector UInt8 8
  fmtSize : ℕ
  audioFormat : ℕ
  channels : ℕ
  sampleRate : ℕ
  byteRate : ℕ
  blockAlign : ℕ
  bitsPerSample : ℕ
  data : Vector UInt8 4
  dataSize : ℕ

def decode (header : Vector UInt8 44) : Header where
  riff := load header 0 4 (by decide)
  riffSize := littleEndian (load header 4 4 (by decide))
  waveFmt := load header 8 8 (by decide)
  fmtSize := littleEndian (load header 16 4 (by decide))
  audioFormat := littleEndian (load header 20 2 (by decide))
  channels := littleEndian (load header 22 2 (by decide))
  sampleRate := littleEndian (load header 24 4 (by decide))
  byteRate := littleEndian (load header 28 4 (by decide))
  blockAlign := littleEndian (load header 32 2 (by decide))
  bitsPerSample := littleEndian (load header 34 2 (by decide))
  data := load header 36 4 (by decide)
  dataSize := littleEndian (load header 40 4 (by decide))

/-- The header says that what follows is mono PCM of 16 bits at 16 kHz. -/
structure Header.IsPcm (h : Header) : Prop where
  riff : h.riff = riffId
  waveFmt : h.waveFmt = waveFmtId
  data : h.data = dataId
  fmtSize : h.fmtSize = 16
  audioFormat : h.audioFormat = 1
  channels : h.channels = 1
  sampleRate : h.sampleRate = 16000
  bitsPerSample : h.bitsPerSample = 16
  blockAlign : h.blockAlign = h.channels * (h.bitsPerSample / 8)
  byteRate : h.byteRate = h.sampleRate * h.blockAlign

/-- The header fits the file it stands at the start of. -/
structure Header.Fits (h : Header) (sampleCount fileLength : ℕ) : Prop where
  pcm : h.IsPcm
  dataSize : h.dataSize = 2 * sampleCount
  riffSize : h.riffSize + 8 = fileLength

/-! ### Decoding what was encoded -/

lemma mask_byte (x : ℕ) : x &&& 255 = x % 256 := Nat.and_two_pow_sub_one_eq_mod x 8

lemma littleEndian_putU16Le (value : UInt16) : littleEndian (putU16Le value) = value.toNat := by
  have hlt := value.toNat_lt
  have hdigits : littleEndian (putU16Le value) =
      (value.toNat % 256 &&& 255) + 256 * (value.toNat / 256 % 256 &&& 255) := by
    simp [littleEndian, putU16Le, Nat.ofDigits_cons, Nat.shiftRight_eq_div_pow]
  simp only [hdigits, mask_byte]
  omega

lemma littleEndian_putU32Le (value : UInt32) : littleEndian (putU32Le value) = value.toNat := by
  have hlt := value.toNat_lt
  have hdigits : littleEndian (putU32Le value) =
      (value.toNat % 256 &&& 255) + 256 * ((value.toNat / 256 % 256 &&& 255) +
        256 * ((value.toNat / 65536 % 256 &&& 255) +
          256 * (value.toNat / 16777216 % 256 &&& 255))) := by
    simp [littleEndian, putU32Le, Nat.ofDigits_cons, Nat.shiftRight_eq_div_pow]
  simp only [hdigits, mask_byte]
  omega

/-- No field is lost under a later one. -/
lemma decode_activationHeader (size : UInt32) :
    decode (activationHeader size) =
      { riff := riffId, riffSize := (36 + size).toNat, waveFmt := waveFmtId, fmtSize := 16,
        audioFormat := 1, channels := 1, sampleRate := 16000, byteRate := 32000, blockAlign := 2,
        bitsPerSample := 16, data := dataId, dataSize := size.toNat } := by
  simp [decode, activationHeader, load_store_of_disjoint, littleEndian_putU16Le,
    littleEndian_putU32Le, modelRate, sampleBytes]

lemma activationHeader_isPcm (size : UInt32) : (decode (activationHeader size)).IsPcm := by
  have h := decode_activationHeader size
  constructor <;> simp only [h]

lemma admitted_iff {sampleCount : ℕ} :
    Admitted sampleCount ↔ 0 < sampleCount ∧ sampleCount ≤ 2147483647 := by
  simp only [Admitted, sampleBytes, UInt32.size]
  omega

lemma dataSize_toNat {sampleCount : ℕ} (h : Admitted sampleCount) :
    (dataSize sampleCount).toNat = 2 * sampleCount := by
  have hle := (admitted_iff.mp h).2
  rw [dataSize, sampleBytes, UInt32.toNat_ofNat_of_lt' (by simp only [UInt32.size]; omega)]
  omega

lemma activationFile_length {α : Type*} (pcm16 : α → UInt16) {samples : List α}
    (h : Admitted samples.length) :
    (activationFile pcm16 samples).length = 44 + 2 * samples.length := by
  have hpcm : (samples.flatMap fun sample => (putU16Le (pcm16 sample)).toList).length =
      2 * samples.length := by
    simp [List.length_flatMap, List.map_const', mul_comm]
  simp [activationFile, hpcm, dataSize_toNat h]

/-- The sum is one of 32 bits. -/
lemma riffSize_toNat {sampleCount : ℕ} (h : Admitted sampleCount) :
    (36 + dataSize sampleCount).toNat = (36 + 2 * sampleCount) % 4294967296 := by
  simp [UInt32.toNat_add, dataSize_toNat h]

/-- **The header fits the file until the sum wraps.** The guard lets eighteen more sample counts
pass, and for these the size at the start of the file is that of a nearly empty one. -/
theorem header_fits_iff {α : Type*} (pcm16 : α → UInt16) {samples : List α}
    (h : Admitted samples.length) :
    (decode (activationHeader (dataSize samples.length))).Fits samples.length
        (activationFile pcm16 samples).length ↔ samples.length ≤ 2147483629 := by
  have hle := (admitted_iff.mp h).2
  have hriff : (decode (activationHeader (dataSize samples.length))).riffSize =
      (36 + 2 * samples.length) % 4294967296 := by
    rw [decode_activationHeader, riffSize_toNat h]
  have hdata : (decode (activationHeader (dataSize samples.length))).dataSize =
      2 * samples.length := by
    rw [decode_activationHeader, dataSize_toNat h]
  rw [activationFile_length pcm16 h]
  constructor
  · intro hfits
    have hsize := hfits.riffSize
    omega
  · intro hsmall
    exact ⟨activationHeader_isPcm _, hdata, by omega⟩

/-- The last count that fits. -/
theorem header_fits_last : (decode (activationHeader
    (dataSize (List.replicate 2147483629 (7 : UInt16)).length))).Fits
      (List.replicate 2147483629 (7 : UInt16)).length
      (activationFile id (List.replicate 2147483629 (7 : UInt16))).length := by
  have hadmitted : Admitted (List.replicate 2147483629 (7 : UInt16)).length := by
    rw [List.length_replicate]
    decide
  refine (header_fits_iff id hadmitted).mpr ?_
  rw [List.length_replicate]

/-- The first count that wraps gives a size of zero for a file of four gigabytes. -/
theorem header_wraps : Admitted (List.replicate 2147483630 (0 : UInt16)).length ∧
    (decode (activationHeader (dataSize 2147483630))).riffSize = 0 ∧
    ¬ (decode (activationHeader (dataSize 2147483630))).Fits 2147483630
      (activationFile id (List.replicate 2147483630 (0 : UInt16))).length := by
  have hadmitted : Admitted (List.replicate 2147483630 (0 : UInt16)).length := by
    rw [List.length_replicate]
    decide
  have hzero : (decode (activationHeader (dataSize 2147483630))).riffSize = 0 := by
    rw [decode_activationHeader]
    decide
  refine ⟨hadmitted, hzero, fun hfits => ?_⟩
  have hriff := hfits.riffSize
  rw [hzero, activationFile_length id hadmitted, List.length_replicate] at hriff
  omega

end HermesRealtime.WavHeader

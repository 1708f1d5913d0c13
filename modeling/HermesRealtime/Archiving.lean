import HermesRealtime.Publications
import HermesRealtime.WavHeader

/-!
What the wake listener leaves in the file system: the recording and the metadata of each activation,
and the file that says how the capture does. All of it is published by renaming.
-/

namespace HermesRealtime.Archiving

open Publications WavHeader

/-- A path, without the byte that ends it. -/
abbrev Path := List Char

/-- The rest of the program, and the parts of the C library that format a number. -/
structure Env (F : Type) where
  pid : UInt32
  pcm16 : F → UInt16
  /-- `"%.9g"`. -/
  general9 : F → List Char
  /-- `"%.1f"` of the quotient. -/
  fixed1 : ℕ → ℕ → List Char

/-- `"%u"`, `"%ld"` and `"%zu"` of a number that is not negative. -/
def decimal (n : ℕ) : List Char := Nat.toDigits 10 n

/-- `"%03ld"`. -/
def padded3 (n : ℕ) : List Char := (decimal n).leftpad 3 '0'

def asBytes (text : List Char) : List UInt8 := text.map fun c => UInt8.ofNat c.toNat

def wavName (stem : Path) : Path := stem ++ ".wav".toList

def jsonName (stem : Path) : Path := stem ++ ".json".toList

def jsonTmpName (stem : Path) : Path := jsonName stem ++ ".tmp".toList

variable {F X : Type} (env : Env F) (reply : ℕ → Reply) (fuel : ℕ)

/-- `"%s.tmp.%ld"`. -/
def tmpName (path : Path) : Path := path ++ ".tmp.".toList ++ decimal env.pid.toNat

/-! ### Directories -/

/-- A directory that exists already is no failure. -/
def mkdir (_directory : Path) : Prog Path UInt8 X Bool := other reply

def mkdirs : List Path → Prog Path UInt8 X Bool
  | [] => pure true
  | directory :: rest => do
    let made ← mkdir reply directory
    if made then mkdirs rest else pure false

/-- What comes before the last slash. -/
def parentOf (path : Path) : Option Path :=
  match path.reverse.dropWhile (· != '/') with
  | [] => none
  | _ :: rest => some rest.reverse

/-- The directories that `ensure_parent_dir` makes, the outermost first. -/
def ancestors (directory : Path) : List Path :=
  ((List.range directory.length).filter fun i => 1 ≤ i && directory[i]? == some '/').map
    (directory.take ·) ++ [directory]

/-- The buffer holds 4095 characters. -/
def ensureParentDir (path : Path) : Prog Path UInt8 X Bool :=
  if path = [] then pure false
  else
    match parentOf (path.take 4095) with
    | none | some [] => pure true
    | some directory => mkdirs reply (ancestors directory)

/-! ### The recording -/

/-- The samples that the second `write_all` is given. -/
def pcmBytes (samples : List F) : List UInt8 :=
  (samples.flatMap fun sample => (putU16Le (env.pcm16 sample)).toList).take
    (dataSize samples.length).toNat

/-- The conditions of `write_activation_wav` on the open file, the last is `close`. -/
def fillWav (temporary : Path) (samples : List F) : Prog Path UInt8 X Bool := do
  let header ← writeAll reply temporary fuel (activationHeader (dataSize samples.length)).toList
  if ¬ header then pure false
  else do
    let pcm ← writeAll reply temporary fuel (pcmBytes env samples)
    if ¬ pcm then pure false
    else do
      let synced ← fsync reply temporary
      if ¬ synced then pure false else other reply

def writeActivationWav (path : Path) (samples : List F) : Prog Path UInt8 X Bool :=
  if ¬ Admitted samples.length then pure false
  else do
    let parent ← ensureParentDir reply path
    if ¬ parent then pure false
    else do
      let temporary := (tmpName env path).take 8191
      let allocated ← other reply
      if ¬ allocated then pure false
      else do
        let opened ← openTruncate reply temporary
        if ¬ opened then do
          let _ ← unlink reply temporary
          pure false
        else do
          let filled ← fillWav env reply fuel temporary samples
          if filled then do
            let renamed ← rename reply temporary path
            if renamed then pure true
            else do
              let _ ← unlink reply temporary
              pure false
          else do
            -- the descriptor is closed
            let _ ← other reply
            let _ ← unlink reply temporary
            pure false

/-! ### The metadata -/

def metadataText (probability : F) (sampleCount : ℕ) (selfTest : Bool) : List Char :=
  "\x7b\"probability\":".toList ++ env.general9 probability ++ ",\"sample_rate\":".toList ++
    decimal modelRate.toNat ++ ",\"sample_count\":".toList ++ decimal sampleCount ++
    ",\"duration_seconds\":".toList ++ env.fixed1 sampleCount modelRate.toNat ++
    ",\"native_listener\":true,\"self_test\":".toList ++
    (if selfTest then "true" else "false").toList ++ "\x7d\n".toList

/-- What goes through a stream to a file: `fprintf`, `fflush` and `fsync`, and `fclose` whatever
these say. -/
def fillStream (temporary : Path) (text : List UInt8) : Prog Path UInt8 X Bool := do
  let printed ← spill reply temporary text false
  if ¬ printed.1 then do
    let _ ← spill reply temporary printed.2 true
    pure false
  else do
    let flushed ← spill reply temporary printed.2 true
    if ¬ flushed.1 then do
      let _ ← spill reply temporary flushed.2 true
      pure false
    else do
      let synced ← fsync reply temporary
      let closed ← spill reply temporary flushed.2 true
      pure (synced && closed.1)

/-- `metadata_failure`. -/
def metadataFailure (stem : Path) : Prog Path UInt8 X Bool := do
  let _ ← unlink reply (jsonTmpName stem)
  let _ ← unlink reply (wavName stem)
  pure false

def writeMetadata (stem : Path) (text : List UInt8) : Prog Path UInt8 X Bool := do
  let opened ← openTruncate reply (jsonTmpName stem)
  if ¬ opened then metadataFailure reply stem
  else do
    let filled ← fillStream reply (jsonTmpName stem) text
    if ¬ filled then metadataFailure reply stem
    else do
      let renamed ← rename reply (jsonTmpName stem) (jsonName stem)
      if renamed then pure true else metadataFailure reply stem

/-! ### An activation -/

/-- What `clock_gettime`, `gmtime_r` and `strftime` say. -/
structure Clock where
  timestamp : List Char
  nanoseconds : ℕ
  deriving DecidableEq

def stemOf (directory : Path) (now : Clock) (sequence : UInt32) (selfTest : Bool) : Path :=
  directory ++ "/activation_".toList ++ now.timestamp ++ ['_'] ++
    padded3 (now.nanoseconds / 1000000) ++ ['_'] ++ decimal env.pid.toNat ++ ['_'] ++
    decimal sequence.toNat ++ (if selfTest then "_selftest".toList else [])

/-- `atomic_fetch_add` of `g_activation_archive_sequence`, which is what is remembered. -/
def nextSequence : Prog Path UInt8 UInt32 UInt32 := do
  let s ← Op.get
  Op.modify fun s => { s with memory := s.memory + 1 }
  pure s.memory

def archiveActivation (directory : Path) (now : Option Clock) (samples : List F) (probability : F)
    (selfTest : Bool) : Prog Path UInt8 UInt32 Bool :=
  if directory = [] then pure true
  else
    match now with
    | none => pure false
    | some now => do
      let sequence ← nextSequence
      let stem := stemOf env directory now sequence selfTest
      if 4096 ≤ stem.length ∨ 8192 ≤ (wavName stem).length ∨ 8192 ≤ (jsonName stem).length ∨
          8192 ≤ (jsonTmpName stem).length then pure false
      else do
        let written ← writeActivationWav env reply fuel (wavName stem) samples
        if ¬ written then pure false
        else
          writeMetadata reply stem
            (asBytes (metadataText env probability samples.length selfTest))

/-! ### How the capture does -/

inductive CaptureStatus
  | starting
  | healthy
  | unhealthy
  | handlerFailed
  | stopped
  deriving DecidableEq

def CaptureStatus.text : CaptureStatus → List Char
  | .starting => "starting".toList
  | .healthy => "healthy".toList
  | .unhealthy => "unhealthy".toList
  | .handlerFailed => "handler_failed".toList
  | .stopped => "stopped".toList

/-- `"%s\n"`. -/
def CaptureStatus.line (status : CaptureStatus) : List UInt8 := asBytes (status.text ++ ['\n'])

/-- What `rename` says is not asked. -/
def writeCaptureStatus (health : Path) (status : CaptureStatus) : Prog Path UInt8 X Unit :=
  if health = [] then pure ()
  else do
    let parent ← ensureParentDir reply health
    if ¬ parent then pure ()
    else if 8192 ≤ (tmpName env health).length then pure ()
    else do
      let opened ← openTruncate reply (tmpName env health)
      if ¬ opened then pure ()
      else do
        let stream ← other reply
        if ¬ stream then do
          let _ ← other reply
          let _ ← unlink reply (tmpName env health)
          pure ()
        else do
          let filled ← fillStream reply (tmpName env health) status.line
          if ¬ filled then do
            let _ ← unlink reply (tmpName env health)
            pure ()
          else do
            let _ ← rename reply (tmpName env health) health
            pure ()

def clearCaptureStatus (health : Path) : Prog Path UInt8 X Unit :=
  if health = [] then pure ()
  else do
    let _ ← unlink reply health
    pure ()

/-! ### The process -/

/-- What the worker does to the file system. -/
inductive Request (F : Type)
  | archive (now : Option Clock) (samples : List F) (probability : F) (selfTest : Bool)
  | status (status : CaptureStatus)
  | clear

def perform (directory health : Path) : Request F → Prog Path UInt8 UInt32 Unit
  | .archive now samples probability selfTest => do
    let _ ← archiveActivation env reply fuel directory now samples probability selfTest
    pure ()
  | .status status => writeCaptureStatus env reply health status
  | .clear => clearCaptureStatus reply health

def performAll (directory health : Path) : List (Request F) → Prog Path UInt8 UInt32 Unit
  | [] => pure ()
  | request :: rest => do
    perform env reply fuel directory health request
    performAll directory health rest

end HermesRealtime.Archiving

import HermesRealtime.Rollbacks

/-!
The installer of the user services. It stops at the first command that fails, and its trap removes
the files that have been marked as installed by then; a file is marked some commands after the one
that makes it.
-/

namespace HermesRealtime.Installation

open Rollbacks

/-- What the installer makes under its prefix; a library is known by its name. -/
inductive Target
  | configFile
  | controllerUnit
  | wakewordUnit
  | controllerLauncher
  | activationLauncher
  | listenerBinary
  | modelTarget
  | library (name : String)
  | venvDir
  deriving DecidableEq

inductive Directory
  | configDir
  | systemdDir
  | binDir
  | shareDir
  | libDir
  | listenerLibDir
  | modelsDir
  deriving DecidableEq

/-- The options of a run without `--force`, and what the tests of the script find. -/
structure Options where
  modelPath : String
  modelFound : Bool
  skipNative : Bool
  listenerPath : String
  onnxruntimeRoot : String
  libDirFound : Bool
  /-- What the pattern `libonnxruntime.so*` matches, and whether the first match exists. -/
  libs : List String
  firstLibFound : Bool
  skipVenv : Bool
  uvFound : Bool
  python3Found : Bool
  skipSystemctl : Bool
  enable : Bool

inductive Command
  | requireFileAbsent (target : Target)
  | dirname (target : Target)
  | mkdir (directory : Directory)
  | setInstalling (on : Bool)
  | chmodDir (directory : Directory)
  | chmod (targets : List Target)
  | install (target : Target)
  | cp (target : Target)
  | cpArchive (target : Target)
  | cat (target : Target)
  | makeVenv (target : Target)
  | pip (arguments : String)
  | mktemp
  | buildListener
  | systemctl (arguments : String)
  | recordInstallState
  | markInstalled (target : Target)
  | exit (message : String)
  deriving DecidableEq

/-- A file is there as soon as it is opened for writing. What `pip` writes is inside the venv. -/
def Command.action : Command → Action Target
  | .requireFileAbsent target => .refuse target
  | .setInstalling on => .arm on
  | .install target => .command {target}
  | .cp target => .command {target}
  | .cpArchive target => .command {target}
  | .cat target => .command {target}
  | .makeVenv target => .command {target}
  | .markInstalled target => .register target
  | .exit _ => .quit
  | .dirname _ | .mkdir _ | .chmodDir _ | .chmod _ | .pip _ | .mktemp | .buildListener
  | .systemctl _ | .recordInstallState => .command ∅

lemma action_markInstalled (target : Target) :
    (Command.markInstalled target).action = .register target := rfl

/-! ### The script -/

/-- The loop over the files that must not be there. -/
def preamble : List Command :=
  [.requireFileAbsent .configFile, .dirname .configFile, .mkdir .configDir,
   .requireFileAbsent .controllerUnit, .dirname .controllerUnit, .mkdir .systemdDir,
   .requireFileAbsent .wakewordUnit, .dirname .wakewordUnit, .mkdir .systemdDir,
   .requireFileAbsent .controllerLauncher, .dirname .controllerLauncher, .mkdir .binDir,
   .requireFileAbsent .activationLauncher, .dirname .activationLauncher, .mkdir .binDir,
   .requireFileAbsent .listenerBinary, .dirname .listenerBinary, .mkdir .libDir, .mkdir .libDir,
   .requireFileAbsent .modelTarget, .dirname .modelTarget, .mkdir .modelsDir]

def installConfig : List Command :=
  [.chmodDir .configDir, .install .configFile, .markInstalled .configFile]

def installUnits : List Command :=
  [.mkdir .systemdDir, .cp .controllerUnit, .cp .wakewordUnit, .markInstalled .controllerUnit,
   .markInstalled .wakewordUnit, .chmod [.controllerUnit, .wakewordUnit]]

def installLaunchers : List Command :=
  [.mkdir .binDir,
   .cat .controllerLauncher, .chmod [.controllerLauncher], .markInstalled .controllerLauncher,
   .cat .activationLauncher, .chmod [.activationLauncher], .markInstalled .activationLauncher]

def installModel (o : Options) : List Command :=
  if o.modelPath.isEmpty then [.exit "--model is required"]
  else if ! o.modelFound then [.exit ("model file not found: " ++ o.modelPath)]
  else [.mkdir .modelsDir, .cp .modelTarget, .markInstalled .modelTarget]

def installListener (o : Options) : List Command :=
  if ! o.listenerPath.isEmpty then
    if o.onnxruntimeRoot.isEmpty then [.exit "--onnxruntime-root is required with --listener"]
    else [.cp .listenerBinary, .markInstalled .listenerBinary]
  else if o.onnxruntimeRoot.isEmpty then
    [.exit "--listener or --onnxruntime-root is required for listener install"]
  else [.mktemp, .buildListener, .cp .listenerBinary, .markInstalled .listenerBinary]

def installLibraries (o : Options) : List Command :=
  let sourceLibDir := o.onnxruntimeRoot ++ "/lib"
  if ! o.libDirFound then [.exit ("ONNX Runtime library directory not found: " ++ sourceLibDir)]
  else .mkdir .listenerLibDir ::
    if o.libs.isEmpty || ! o.firstLibFound then
      [.exit ("ONNX Runtime shared library not found under: " ++ sourceLibDir)]
    else o.libs.flatMap fun lib => [.cpArchive (.library lib), .markInstalled (.library lib)]

def installNativeListener (o : Options) : List Command :=
  if o.skipNative then [] else .mkdir .libDir :: (installListener o ++ installLibraries o)

def installVenv (o : Options) : List Command :=
  .mkdir .shareDir ::
    if o.uvFound then [.makeVenv .venvDir, .markInstalled .venvDir, .pip "install"]
    else if ! o.python3Found then [.exit "python3 is required for venv creation"]
    else [.makeVenv .venvDir, .markInstalled .venvDir, .pip "install --upgrade pip",
      .pip "install --no-input"]

def runInstallSystemctl (o : Options) : List Command :=
  if o.skipSystemctl then []
  else .systemctl "daemon-reload" :: if o.enable then [.systemctl "enable --now"] else []

/-- The part of the script that depends on the options. -/
def installRest (o : Options) : List Command :=
  installModel o ++ installNativeListener o ++ (if o.skipVenv then [] else installVenv o) ++
    runInstallSystemctl o ++ [.recordInstallState]

def installScript (o : Options) : List Command :=
  preamble ++ .setInstalling true :: (installConfig ++ (installUnits ++ (installLaunchers ++
    (installRest o ++ [.setInstalling false]))))

/-- A prefix in which nothing of the targets exists. -/
def fresh : Ledger Target := { present := ∅, registered := [], armed := false }

/-- The install fails at the command, which leaves what it has made of its own. -/
def FailsAt (o : Options) (c : Command) (left : Finset Target) (s : Ledger Target) : Prop :=
  Fails Command.action (installScript o) fresh c left s

/-! ### What the trap does not find -/

/-- The files that are made before the command and marked after it. -/
def stranded : Command → Finset Target
  | .cp .wakewordUnit => {.controllerUnit}
  | .chmod [.controllerLauncher] => {.controllerLauncher}
  | .chmod [.activationLauncher] => {.activationLauncher}
  | _ => ∅

/-- Nothing of what the parts of the script that are prompt do is stranded. -/
def Neat (script : List Command) : Prop :=
  Prompt Command.action script ∧ ∀ c ∈ script, stranded c = ∅

lemma Neat.append {a b : List Command} (ha : Neat a) (hb : Neat b) : Neat (a ++ b) :=
  ⟨ha.1.append hb.1, fun c hc => (List.mem_append.mp hc).elim (ha.2 c) (hb.2 c)⟩

lemma neat_nil : Neat [] := ⟨.nil, by simp⟩

lemma Neat.plain {c : Command} {script : List Command}
    (hc : c.action = .command ∅ ∨ c.action = .quit) (hnone : stranded c = ∅) (h : Neat script) :
    Neat (c :: script) :=
  ⟨.plain hc h.1, List.forall_mem_cons.mpr ⟨hnone, h.2⟩⟩

lemma Neat.made {c : Command} {script : List Command} {target : Target}
    (hc : c.action = .command {target}) (hnone : stranded c = ∅) (h : Neat script) :
    Neat (c :: .markInstalled target :: script) :=
  ⟨.made hc rfl h.1, List.forall_mem_cons.mpr ⟨hnone, List.forall_mem_cons.mpr ⟨rfl, h.2⟩⟩⟩

lemma Neat.rollback_eq {script : List Command} (h : Neat script) {s s' : Ledger Target}
    (hs : s.Balanced) {c : Command} {left : Finset Target}
    (hf : Fails Command.action script s c left s') : s'.rollback = stranded c ∪ left := by
  rw [h.2 c hf.mem, Finset.empty_union, h.1.rollback_eq hs hf]

lemma installConfig_neat : Neat installConfig := (neat_nil.made rfl rfl).plain (Or.inl rfl) rfl

lemma installModel_neat (o : Options) : Neat (installModel o) := by
  unfold installModel
  split_ifs
  · exact neat_nil.plain (Or.inr rfl) rfl
  · exact neat_nil.plain (Or.inr rfl) rfl
  · exact (neat_nil.made rfl rfl).plain (Or.inl rfl) rfl

lemma installListener_neat (o : Options) : Neat (installListener o) := by
  unfold installListener
  split_ifs
  · exact neat_nil.plain (Or.inr rfl) rfl
  · exact neat_nil.made rfl rfl
  · exact neat_nil.plain (Or.inr rfl) rfl
  · exact ((neat_nil.made rfl rfl).plain (Or.inl rfl) rfl).plain (Or.inl rfl) rfl

lemma installLibraries_neat (o : Options) : Neat (installLibraries o) := by
  have hlibs : ∀ libs : List String, Neat (libs.flatMap fun lib =>
      [.cpArchive (.library lib), .markInstalled (.library lib)]) := by
    intro libs
    induction libs with
    | nil => exact neat_nil
    | cons lib libs ih => exact ih.made rfl rfl
  unfold installLibraries
  split_ifs
  · exact neat_nil.plain (Or.inr rfl) rfl
  · exact (neat_nil.plain (Or.inr rfl) rfl).plain (Or.inl rfl) rfl
  · exact (hlibs o.libs).plain (Or.inl rfl) rfl

lemma installNativeListener_neat (o : Options) : Neat (installNativeListener o) := by
  unfold installNativeListener
  split_ifs
  · exact neat_nil
  · exact ((installListener_neat o).append (installLibraries_neat o)).plain (Or.inl rfl) rfl

lemma installVenv_neat (o : Options) : Neat (installVenv o) := by
  unfold installVenv
  split_ifs
  · exact ((neat_nil.plain (Or.inl rfl) rfl).made rfl rfl).plain (Or.inl rfl) rfl
  · exact (neat_nil.plain (Or.inr rfl) rfl).plain (Or.inl rfl) rfl
  · have hpip := (neat_nil.plain (Or.inl rfl) rfl : Neat [.pip "install --no-input"])
    exact ((hpip.plain (Or.inl rfl) rfl).made rfl rfl).plain (Or.inl rfl) rfl

lemma runInstallSystemctl_neat (o : Options) : Neat (runInstallSystemctl o) := by
  unfold runInstallSystemctl
  split_ifs
  · exact neat_nil
  · exact (neat_nil.plain (Or.inl rfl) rfl).plain (Or.inl rfl) rfl
  · exact neat_nil.plain (Or.inl rfl) rfl

lemma installRest_neat (o : Options) : Neat (installRest o) := by
  have hvenv : Neat (if o.skipVenv then [] else installVenv o) := by
    split_ifs
    · exact neat_nil
    · exact installVenv_neat o
  have hrecord : Neat [.recordInstallState] := neat_nil.plain (Or.inl rfl) rfl
  exact ((((installModel_neat o).append (installNativeListener_neat o)).append hvenv).append
    (runInstallSystemctl_neat o)).append hrecord

/-- The units: the first is marked after the second has been made. -/
lemma installUnits_rollback {s s' : Ledger Target} (hs : s.Balanced)
    (hnew : Target.controllerUnit ∉ s.present) {c : Command} {left : Finset Target}
    (h : Fails Command.action installUnits s c left s') : s'.rollback = stranded c ∪ left := by
  unfold installUnits at h
  have hmkdir : (Command.mkdir .systemdDir).action = .command ∅ := rfl
  have hfirst : (Command.cp .controllerUnit).action = .command {.controllerUnit} := rfl
  have hsecond : (Command.cp .wakewordUnit).action = .command {.wakewordUnit} := rfl
  rcases h.command_cases hmkdir with ⟨rfl, hleft, rfl⟩ | h
  · exact (hs.rollback_union hleft).trans (Finset.empty_union left).symm
  rw [Ledger.perform_empty] at h
  rcases h.command_cases hfirst with ⟨rfl, hleft, rfl⟩ | h
  · exact (hs.rollback_union hleft).trans (Finset.empty_union left).symm
  rcases h.command_cases hsecond with ⟨rfl, hleft, rfl⟩ | h
  · exact hs.rollback_late hnew hleft
  -- both are marked now
  have hmarked := (h.of_register (action_markInstalled _)).of_register (action_markInstalled _)
  have hneat : Neat [.chmod [.controllerUnit, .wakewordUnit]] := neat_nil.plain (Or.inl rfl) rfl
  refine hneat.rollback_eq ?_ hmarked
  refine ⟨hs.armed, fun r => ?_⟩
  simpa [Ledger.perform, hs.registered, or_assoc] using or_rotate.symm

/-- A launcher is marked after its mode has been changed. -/
lemma launcher_rollback {s s' : Ledger Target} (hs : s.Balanced) {launcher : Target}
    (hnew : launcher ∉ s.present) (hmode : stranded (.chmod [launcher]) = {launcher})
    {c : Command} {left : Finset Target}
    (h : Fails Command.action
      [.cat launcher, .chmod [launcher], .markInstalled launcher] s c left s') :
    s'.rollback = stranded c ∪ left := by
  have hcat : (Command.cat launcher).action = .command {launcher} := rfl
  have hchmod : (Command.chmod [launcher]).action = .command ∅ := rfl
  rcases h.command_cases hcat with ⟨rfl, hleft, rfl⟩ | h
  · exact (hs.rollback_union hleft).trans (Finset.empty_union left).symm
  rcases h.command_cases hchmod with ⟨rfl, hleft, rfl⟩ | h
  · rw [hmode]
    exact hs.rollback_late hnew hleft
  · cases h.of_register (action_markInstalled _)

/-- The ledgers at which the parts of the script begin. -/
def covering (targets : List Target) : Ledger Target :=
  { present := targets.toFinset, registered := targets, armed := true }

lemma covering_balanced (targets : List Target) : (covering targets).Balanced :=
  ⟨rfl, fun r => by simp [covering]⟩

lemma installLaunchers_rollback {s' : Ledger Target} {c : Command} {left : Finset Target}
    (h : Fails Command.action installLaunchers
      (covering [.configFile, .controllerUnit, .wakewordUnit]) c left s') :
    s'.rollback = stranded c ∪ left := by
  have hparts : installLaunchers = [.mkdir .binDir] ++
      ([.cat .controllerLauncher, .chmod [.controllerLauncher],
        .markInstalled .controllerLauncher] ++
      [.cat .activationLauncher, .chmod [.activationLauncher],
        .markInstalled .activationLauncher]) := rfl
  have hdir : Neat [.mkdir .binDir] := neat_nil.plain (Or.inl rfl) rfl
  have hfirst : Target.controllerLauncher ∉
      (covering [.configFile, .controllerUnit, .wakewordUnit]).present := by decide
  have hsecond : Target.activationLauncher ∉ (covering [.configFile, .controllerUnit,
      .wakewordUnit, .controllerLauncher]).present := by decide
  rw [hparts] at h
  rcases h.append_cases with h | h
  · exact hdir.rollback_eq (covering_balanced _) h
  rcases h.append_cases with h | h
  · exact launcher_rollback (covering_balanced _) hfirst rfl h
  · exact launcher_rollback (covering_balanced _) hsecond rfl h

lemma preamble_rollback {s : Ledger Target} {c : Command} {left : Finset Target}
    (h : Fails Command.action preamble fresh c left s) : s.rollback = stranded c ∪ left := by
  have hidle : ∀ d ∈ preamble, d.action = .command ∅ ∨ ∃ r, d.action = .refuse r := by
    simp [preamble, Command.action]
  have hnone : ∀ d ∈ preamble, stranded d = ∅ := by simp [preamble, stranded]
  obtain ⟨rfl, rfl⟩ := h.idle hidle
  rw [hnone c h.mem]
  rfl

/-- **What survives a failed install**: what the failing command has made itself, and the files
that are stranded at it. -/
lemma rollback_eq_stranded {o : Options} {c : Command} {left : Finset Target} {s : Ledger Target}
    (h : FailsAt o c left s) : s.rollback = stranded c ∪ left := by
  rcases Fails.append_cases h with h | h
  · exact preamble_rollback h
  -- the trap covers what follows
  cases h with
  | command hc _ => cases hc
  | refuse hc _ => cases hc
  | quit hc => cases hc
  | later _ h =>
    rcases h.append_cases with h | h
    · exact installConfig_neat.rollback_eq (covering_balanced []) h
    rcases h.append_cases with h | h
    · exact installUnits_rollback (covering_balanced [.configFile]) (by decide) h
    rcases h.append_cases with h | h
    · exact installLaunchers_rollback h
    rcases h.append_cases with h | h
    · exact (installRest_neat o).rollback_eq (covering_balanced [.configFile, .controllerUnit,
        .wakewordUnit, .controllerLauncher, .activationLauncher]) h
    · cases h with
      | command hc _ => cases hc
      | refuse hc _ => cases hc
      | quit hc => cases hc
      | later _ h => cases h

/-- The command stands between the making of a file and its marking. -/
def Strands (c : Command) : Prop :=
  c = .cp .wakewordUnit ∨ c = .chmod [.controllerLauncher] ∨ c = .chmod [.activationLauncher]

lemma stranded_eq_empty_iff {c : Command} : stranded c = ∅ ↔ ¬ Strands c := by
  unfold stranded Strands
  split <;> simp_all

/-- **A failed install leaves nothing behind** exactly when the failing command has made nothing
itself and is none of the three that come between the making of a file and its marking. -/
theorem failed_install_clean_iff {o : Options} {c : Command} {left : Finset Target}
    {s : Ledger Target} (h : FailsAt o c left s) :
    s.rollback = ∅ ↔ left = ∅ ∧ ¬ Strands c := by
  rw [rollback_eq_stranded h, Finset.union_eq_empty, stranded_eq_empty_iff, and_comm]

/-- An install with `uv` and without the native listener. -/
def uvInstall : Options where
  modelPath := "model.onnx"
  modelFound := true
  skipNative := true
  listenerPath := ""
  onnxruntimeRoot := ""
  libDirFound := false
  libs := []
  firstLibFound := false
  skipVenv := false
  uvFound := true
  python3Found := true
  skipSystemctl := true
  enable := false

/-- `uv pip install` fails. -/
theorem failed_pip_clean : ∃ s, FailsAt uvInstall (.pip "install") ∅ s ∧ s.rollback = ∅ := by
  have hrun : failAt Command.action ∅ 45 (installScript uvInstall) fresh =
      some (.pip "install", covering [.configFile, .controllerUnit, .wakewordUnit,
        .controllerLauncher, .activationLauncher, .modelTarget, .venvDir]) := by
    decide +kernel
  have hfails : FailsAt uvInstall (.pip "install") ∅ _ := fails_of_failAt hrun
  exact ⟨_, hfails, (failed_install_clean_iff hfails).mpr ⟨rfl, by simp [Strands]⟩⟩

/-- The second unit cannot be copied, and the first one stays. -/
theorem failed_unit_stranded : ∃ s, FailsAt uvInstall (.cp .wakewordUnit) ∅ s ∧
    s.rollback = {.controllerUnit} ∧ s.rollback ≠ ∅ := by
  have hrun : failAt Command.action ∅ 28 (installScript uvInstall) fresh =
      some (.cp .wakewordUnit,
        { covering [.configFile] with present := {.configFile, .controllerUnit} }) := by
    decide +kernel
  exact ⟨_, fails_of_failAt hrun, by decide, by decide⟩

end HermesRealtime.Installation

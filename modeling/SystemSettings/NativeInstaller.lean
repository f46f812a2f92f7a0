import Mathlib.Data.List.Infix
import SystemSettings.CallHistory
import SystemSettings.CommonManifest

/-!
# The native installer

`native-installer.c` from `main` down to the calls it makes: it looks for what a build
needs, extracts its payload into a temporary workspace, builds, trains, builds again,
tests, packages, and installs the package.

* `SystemCall`: what `main` calls out to. `fork`, `execvp` and `waitpid` of
  `run_command` are one call that answers with the exit status, or -1; `copy_payload` and
  `remove_tree` are one call each.
* `main`, with the environment's `PATH` as its memory.

Texts are bytes. A buffer that `snprintf` fills is taken into account where the code does.
-/

namespace SystemSettings

namespace NativeInstaller

/-! ## Calls -/

/-- What the installer calls out to. -/
inductive SystemCall : Type where
  /-- `setenv("PATH", value, 1)` -/
  | setenv (value : Path)
  /-- `strdup` -/
  | strdup (text : Path)
  /-- `access(path, X_OK)` -/
  | access (path : Path)
  /-- `run_command` -/
  | run (cwd : Option Path) (argv : List Path)
  /-- the child of `capture_command`, and what is read of its output -/
  | capture (argv : List Path)
  /-- `readlink("/proc/self/exe", ..)` -/
  | readlink
  | mkdir (path : Path)
  /-- `copy_payload` -/
  | copyPayload (self : Path)
  | unlink (path : Path)
  | geteuid
  /-- `mkdtemp` with the template of `main` -/
  | mkdtemp
  /-- `sysconf(_SC_NPROCESSORS_ONLN)` -/
  | sysconf
  /-- `opendir` and `readdir` up to the end of the listing -/
  | readdir (path : Path)
  /-- `remove_tree` -/
  | removeTree (path : Path)

/-- What each call answers: whether it succeeded, or what it returns. -/
def SystemCall.Answer : SystemCall → Type
  | .setenv _ | .strdup _ | .access _ | .mkdir _ | .unlink _ | .removeTree _ => Bool
  | .run _ _ | .sysconf => ℤ
  | .capture _ => ℤ × List UInt8
  | .readlink | .mkdtemp | .copyPayload _ => Option Path
  | .geteuid => ℕ
  | .readdir _ => Option (List Name)

/-- The calls of the installer. -/
abbrev Calls : Signature := ⟨SystemCall, SystemCall.Answer⟩

/-- Code of the installer, whose memory is the `PATH` of the environment. -/
abbrev InstallerM : Type → Type := Action Calls (Option Path)

/-- `strdup` -/
def strdup (text : Path) : InstallerM Bool := Action.call (S := Calls) (.strdup text)

/-- `access` -/
def access (path : Path) : InstallerM Bool := Action.call (S := Calls) (.access path)

/-- `readlink` -/
def readlink : InstallerM (Option Path) := Action.call (S := Calls) .readlink

/-- `mkdir` -/
def mkdir (path : Path) : InstallerM Bool := Action.call (S := Calls) (.mkdir path)

/-- `copy_payload` -/
def copyPayload (self : Path) : InstallerM (Option Path) :=
  Action.call (S := Calls) (.copyPayload self)

/-- `unlink` -/
def unlink (path : Path) : InstallerM Bool := Action.call (S := Calls) (.unlink path)

/-- `geteuid` -/
def geteuid : InstallerM ℕ := Action.call (S := Calls) .geteuid

/-- `mkdtemp` -/
def mkdtemp : InstallerM (Option Path) := Action.call (S := Calls) .mkdtemp

/-- `sysconf` -/
def sysconf : InstallerM ℤ := Action.call (S := Calls) .sysconf

/-- `opendir` and `readdir` -/
def readdir (path : Path) : InstallerM (Option (List Name)) :=
  Action.call (S := Calls) (.readdir path)

/-- `remove_tree` -/
def removeTree (path : Path) : InstallerM Bool := Action.call (S := Calls) (.removeTree path)

/-- The child of `capture_command` -/
def capture (argv : List Path) : InstallerM (ℤ × List UInt8) :=
  Action.call (S := Calls) (.capture argv)

/-- `setenv` -/
def setenv (value : Path) : InstallerM Bool := do
  let ok : Bool ← Action.call (S := Calls) (.setenv value)
  Action.when ok (Action.modify fun _ => some value)
  return ok

/-- `run_command` -/
def runCommand (cwd : Option Path) (argv : List Path) : InstallerM ℤ :=
  Action.call (S := Calls) (.run cwd argv)

/-- Commands joined with `||` on their failures: the first one that fails ends it. -/
def runAll : List (Option Path × List Path) → InstallerM Bool
  | [] => pure true
  | (cwd, argv) :: rest => do
    let status ← runCommand cwd argv
    if status = 0 then runAll rest else pure false

/-- `capture_command`: the output, where the command succeeds and says something. -/
def captureCommand (argv : List Path) (capacity : ℕ) : InstallerM (Option (List UInt8)) := do
  let answer ← capture argv
  let out := answer.2.take (capacity - 1)
  return if answer.1 = 0 ∧ out ≠ [] then some out else none

/-! ## What is printed -/

/-- What `main` returns, or `fail` exits with, and what is written to `stderr`. -/
structure Exit : Type where
  /-- the exit status -/
  status : ℕ
  /-- the diagnostic -/
  stderr : List UInt8
  deriving DecidableEq

/-- `fail` -/
def fail (message : String) : Exit :=
  ⟨1, bytes "System Settings native installer: " ++ bytes message ++ bytes "\n"⟩

/-- `snprintf`, where a text that fills the buffer is refused. -/
def fitted (capacity : ℕ) (text : Path) : Option Path :=
  if text.length < capacity - 1 then some text else none

/-- `snprintf`, where the text is cut at the end of the buffer. -/
def cut (capacity : ℕ) (text : Path) : Path := text.take (capacity - 1)

/-! ## Prerequisites -/

/-- `trusted_path` -/
def trustedPath : Path := bytes "/usr/local/sbin:/usr/local/bin:/usr/sbin:/usr/bin:/sbin:/bin"

/-- The parts that `strtok_r` finds between colons. -/
def pathParts (path : Path) : List Path := (path.splitOn 58).filter (· ≠ [])

/-- The loop of `command_exists`. -/
def anyExecutable (name : Path) : List Path → InstallerM Bool
  | [] => pure false
  | part :: parts =>
    let candidate := part ++ separator :: name
    if candidate.length < pathMax then do
      let found ← access candidate
      if found then pure true else anyExecutable name parts
    else anyExecutable name parts

/-- `command_exists` -/
def commandExists (name : Path) : InstallerM Bool := do
  match ← Action.get with
  | none => pure false
  | some path =>
    if name = [] then pure false
    else
      let copied ← strdup path
      if copied then anyExecutable name (pathParts path) else pure false

/-- `required` -/
def required : List Path :=
  [bytes "tar", bytes "cmake", bytes "cc", bytes "make", bytes "ctest", bytes "cpack",
    bytes "pkg-config", bytes "dpkg-deb", bytes "xvfb-run", bytes "dbus-daemon"]

/-- `gtk_argv` -/
def gtkArgv : List Path := [bytes "pkg-config", bytes "--exists", bytes "gtk4 >= 4.6"]

/-- `geocode_argv` -/
def geocodeArgv : List Path := [bytes "pkg-config", bytes "--exists", bytes "geocode-glib-2.0"]

/-- The loop of `build_prerequisites_available`. -/
def allExist : List Path → InstallerM Bool
  | [] => pure true
  | name :: names => do
    let found ← commandExists name
    if found then allExist names else pure false

/-- `build_prerequisites_available` -/
def buildPrerequisitesAvailable : InstallerM Bool := do
  let found ← allExist required
  if found then runAll [(none, gtkArgv), (none, geocodeArgv)] else pure false

/-- `update_argv` -/
def updateArgv : List Path :=
  [bytes "sudo", bytes "apt-get", bytes "-o", bytes "DPkg::Lock::Timeout=300", bytes "update"]

/-- `install_argv` of `ensure_prerequisites` -/
def prerequisitesArgv : List Path :=
  [bytes "sudo", bytes "apt-get", bytes "-o", bytes "DPkg::Lock::Timeout=300", bytes "install",
    bytes "-y", bytes "--no-install-recommends", bytes "build-essential", bytes "cmake",
    bytes "dpkg-dev", bytes "pkg-config", bytes "libgtk-4-dev", bytes "libgeocode-glib-dev",
    bytes "xvfb", bytes "dbus-x11", bytes "tar"]

/-- `ensure_prerequisites`: the message with which it fails, if it does. -/
def ensurePrerequisites : InstallerM (Option String) := do
  let available ← buildPrerequisitesAvailable
  if available then return none
  let apt ← commandExists (bytes "apt-get")
  if !apt then
    return some "APT is required to install missing native-build prerequisites."
  let hasSudo ← commandExists (bytes "sudo")
  if !hasSudo then
    return some "sudo is required to install missing native-build prerequisites."
  let installed ← runAll [(none, updateArgv), (none, prerequisitesArgv)]
  if !installed then
    return some "APT could not install the required native-build prerequisites."
  let available ← buildPrerequisitesAvailable
  if !available then
    return some
      "required native-build prerequisites remain unavailable after APT installation."
  return none

/-- `argv` of `compiler_supports_gcc_pgo` -/
def compilerArgv : List Path := [bytes "cc", bytes "--version"]

/-- What the version of the compiler says: `strstr` looks no further than the first NUL. -/
def namesGcc (output : List UInt8) : Bool :=
  let text := output.takeWhile (· ≠ 0)
  !decide (bytes "clang" <:+: text) &&
    (decide (bytes "gcc" <:+: text) || decide (bytes "GCC" <:+: text) ||
      decide (bytes "Free Software Foundation" <:+: text))

/-- `compiler_supports_gcc_pgo` -/
def compilerSupportsGccPgo : InstallerM Bool := do
  match ← captureCommand compilerArgv 1024 with
  | none => pure false
  | some output => pure (namesGcc output)

/-! ## The payload and the package -/

/-- `executable_path` -/
def executablePath (argv0 : Option Path) (capacity : ℕ) : InstallerM (Option Path) := do
  let link ← readlink
  match link with
  | some out => if 0 < out.length ∧ out.length < capacity then return some out
  | none => pure ()
  match argv0 with
  | none => return none
  | some path => return if path ≠ [] ∧ path.length < capacity then some path else none

/-- `tar_argv` -/
def tarArgv (archive destination : Path) : List Path :=
  [bytes "tar", bytes "-xzf", archive, bytes "-C", destination]

/-- `extract_payload` -/
def extractPayload (self destination : Path) : InstallerM Bool := do
  let copied ← copyPayload self
  match copied with
  | none => pure false
  | some archive =>
    let status ← runCommand none (tarArgv archive destination)
    let _ ← unlink archive
    pure (decide (status = 0))

/-- The entries that `find_debian_package` looks for. -/
def isDebianPackage (name : Name) : Bool :=
  (bytes "system-settings_").isPrefixOf name && (bytes ".deb").isSuffixOf name

/-- The loop of `find_debian_package`; `found` is what `out` holds. -/
def findPackage (directory : Path) (capacity : ℕ) (found : Option Path) :
    List Name → Option Path
  | [] => found
  | name :: names =>
    if isDebianPackage name then
      match found, fitted capacity (directory ++ separator :: name) with
      | none, some path => findPackage directory capacity (some path) names
      | _, _ => none
    else findPackage directory capacity found names

/-- `find_debian_package` -/
def findDebianPackage (directory : Path) (capacity : ℕ) : InstallerM (Option Path) := do
  let listing ← readdir directory
  match listing with
  | none => pure none
  | some names => pure (findPackage directory capacity none names)

/-! ## The workspace -/

/-- `(void)remove_tree(work)` and `fail` -/
def discard (work : Path) (message : String) : InstallerM Exit := do
  let _ ← removeTree work
  pure (fail message)

/-- The end of `main`. -/
def finish (work : Path) : InstallerM Exit := do
  let removed ← removeTree work
  pure ⟨0, if removed then []
    else bytes "Warning: could not remove temporary build directory " ++ work ++ bytes "\n"⟩

/-- `install_argv` of `main` -/
def installArgv (deb : Path) : List Path :=
  [bytes "sudo", bytes "apt-get", bytes "install", bytes "-y", deb]

/-- The first program that the package installs. -/
def programsPath : Path := bytes "/Programs/system-settings"

/-- The second program that the package installs. -/
def commandsPath : Path := bytes "/System/Commands/system-settings-time"

/-- Whether both programs have been installed. -/
def programsInstalled : InstallerM Bool := do
  let programs ← access programsPath
  if programs then access commandsPath else pure false

/-- The part of `main` that installs the package. -/
def installPackage (work deb : Path) : InstallerM Exit := do
  let status ← runCommand none (installArgv deb)
  if status ≠ 0 then discard work "APT installation failed."
  else do
    let installed ← programsInstalled
    if installed then finish work
    else discard work ("native package did not install System Settings into the InfiltratorOS " ++
      "executable namespaces.")

/-- `generate_flags` -/
def generateFlags (pgo : Path) : Path :=
  bytes "-O3 -DNDEBUG -march=native -mtune=native -flto -fprofile-generate=" ++ pgo

/-- `final_flags` -/
def finalFlags (pgo : Path) : Path :=
  bytes "-O3 -DNDEBUG -march=native -mtune=native -flto -fprofile-use=" ++ pgo ++
    bytes " -fprofile-correction -Wno-missing-profile"

/-- `configure_argv`, with the three arguments that are printed for each build. -/
def configureArgv (work build profile flags profileData : Path) : List Path :=
  [bytes "cmake", bytes "-S", work, bytes "-B", build, bytes "-DCMAKE_BUILD_TYPE=Release",
    cut 64 (bytes "-DSYSTEM_SETTINGS_BUILD_PROFILE=" ++ profile), bytes "-DBUILD_TESTING=ON",
    cut (pathMax + 160) (bytes "-DCMAKE_C_FLAGS_RELEASE=" ++ flags),
    cut (pathMax + 64) (bytes "-DSYSTEM_SETTINGS_NATIVE_PROFILE_DATA_DIR=" ++ profileData)]

/-- `build_argv` -/
def buildArgv (build jobs : Path) : List Path :=
  [bytes "cmake", bytes "--build", build, bytes "--parallel", jobs]

/-- `test_argv` -/
def testArgv (build : Path) : List Path :=
  [bytes "ctest", bytes "--test-dir", build, bytes "--output-on-failure"]

/-- `cpack_argv` -/
def cpackArgv : List Path := [bytes "cpack", bytes "-G", bytes "DEB"]

/-- `jobs`: all processors but one, and at least one. -/
def jobsText (processors : ℤ) : Path :=
  bytes (toString (if processors < 1 then 1 else if processors > 1 then processors - 1
    else processors))

/-- The part of `main` that builds twice, and packages what it has built. -/
def buildPackage (work build pgo jobs : Path) (buildOnly : Bool) : InstallerM Exit := do
  let trained ← runAll
    [(none, configureArgv work build (bytes "generic") (generateFlags pgo) []),
      (none, buildArgv build jobs), (none, testArgv build)]
  if !trained then discard work "native PGO training build or test suite failed."
  else do
  let built ← runAll
    [(none, configureArgv work build (bytes "native") (finalFlags pgo) pgo),
      (none, buildArgv build jobs)]
  if !built then discard work "native LTO/PGO build failed."
  else do
  let tested ← runAll [(none, testArgv build)]
  if !tested then discard work "optimized native test suite failed; package was not installed."
  else do
  let packaged ← runAll [(some build, cpackArgv)]
  if !packaged then discard work "Debian package creation failed."
  else do
  match ← findDebianPackage build pathMax with
  | none => discard work "Debian package creation failed."
  | some deb => if buildOnly then finish work else installPackage work deb

/-- The part of `main` after `mkdtemp`. -/
def inWorkspace (self work : Path) (buildOnly : Bool) : InstallerM Exit := do
  let extracted ← extractPayload self work
  if !extracted then discard work "could not extract the embedded source payload."
  else
  match fitted pathMax (work ++ bytes "/build") with
  | none => discard work "temporary build path is too long."
  | some build =>
  match fitted pathMax (work ++ bytes "/pgo") with
  | none => discard work "could not create the PGO training directory."
  | some pgo => do
  let made ← mkdir pgo
  if !made then discard work "could not create the PGO training directory."
  else
  match fitted (pathMax + 128) (generateFlags pgo), fitted (pathMax + 128) (finalFlags pgo) with
  | some _, some _ => do
    let processors ← sysconf
    buildPackage work build pgo (jobsText processors) buildOnly
  | _, _ => discard work "native PGO flags are too long."

/-! ## `main` -/

/-- Whether `sudo` is found where it is needed for the installation. -/
def sudoForInstallation (buildOnly : Bool) : InstallerM Bool :=
  if buildOnly then pure true else commandExists (bytes "sudo")

/-- The part of `main` that builds, and installs. -/
def buildMain (self : Path) (buildOnly : Bool) : InstallerM Exit := do
  let uid ← geteuid
  if uid = 0 then
    return fail ("run as your ordinary user; prerequisite and package installation use sudo " ++
      "only when required.")
  match ← ensurePrerequisites with
  | some message => return fail message
  | none =>
  let hasSudo ← sudoForInstallation buildOnly
  if !hasSudo then return fail "sudo is required for final package installation."
  let gcc ← compilerSupportsGccPgo
  if !gcc then
    return fail "the native profile requires GCC so LTO and trained PGO are both guaranteed."
  let work ← mkdtemp
  match work with
  | none => return fail "could not create a temporary build directory."
  | some work => inWorkspace self work buildOnly

/-- The part of `main` that extracts the payload into a directory. -/
def extractMain (self directory : Path) : InstallerM Exit := do
  if directory = [] then return fail "supply a new extraction directory."
  let made ← mkdir directory
  if !made then return fail "supply a new extraction directory."
  let extracted ← extractPayload self directory
  if extracted then return ⟨0, []⟩
  discard directory "could not extract the embedded source payload."

/-- The arguments ask for the help text. -/
def AsksForHelp (argv : List Path) : Prop :=
  argv.length = 2 ∧ (argv[1]? = some (bytes "--help") ∨ argv[1]? = some (bytes "-h"))

/-- The arguments ask for the package only. -/
def AsksForBuildOnly (argv : List Path) : Prop :=
  argv.length = 2 ∧ argv[1]? = some (bytes "--build-only")

/-- The arguments ask for the payload, in this directory. -/
def AsksForExtraction (argv : List Path) (directory : Path) : Prop :=
  ∃ argv0, argv = [argv0, bytes "--extract", directory]

instance (argv : List Path) : Decidable (AsksForHelp argv) := inferInstanceAs (Decidable (_ ∧ _))

instance (argv : List Path) : Decidable (AsksForBuildOnly argv) :=
  inferInstanceAs (Decidable (_ ∧ _))

/-- `main` after the arguments have been understood. -/
def mainAfterOptions (argv : List Path) : InstallerM Exit := do
  match ← executablePath argv.head? pathMax with
  | none => return fail "cannot resolve the installer executable path."
  | some self =>
  match argv with
  | [_, _, directory] => extractMain self directory
  | _ => buildMain self (decide (AsksForBuildOnly argv))

/-- `main` after the search path has been set. -/
def mainOptions (argv : List Path) : InstallerM Exit :=
  if AsksForHelp argv then pure ⟨0, []⟩
  else if AsksForBuildOnly argv ∨ argv.length = 1 ∨
      argv.length = 3 ∧ argv[1]? = some (bytes "--extract") then
    mainAfterOptions argv
  else pure ⟨2, []⟩

/-- `main` -/
def main (argv : List Path) : InstallerM Exit := do
  let ok ← setenv trustedPath
  if !ok then return fail "could not establish the trusted build-tool search path."
  mainOptions argv

end NativeInstaller

end SystemSettings

import SystemSettings.CallHistory
import SystemSettings.CommonManifest
import SystemSettings.ManualDateTime
import SystemSettings.PayloadBounds
import SystemSettings.ZoneTable

/-!
# The source asset builder

`source-asset-builder.c` from `main` down to the calls it makes: it checks that what is
released is what is committed, exports it with the pinned Common into a temporary
workspace, packs it, writes the installer and the source archive into the output
directory, and verifies what the installer extracts.

* `SystemCall`: what `main` calls out to. `fork`, `execvp` and `waitpid` of `run_command`
  are one call; so are the functions of the builder that work on whole files or trees.
* `main`, with the environment's `PATH` as its memory. A stage of it ends with what the
  next stage needs, or with the message with which the builder fails.

Texts are bytes.
-/

namespace SystemSettings

namespace SourceAssetBuilder

/-! ## Calls -/

/-- A call that says whether it succeeded. -/
inductive Attempt : Type where
  | chdir (path : Path)
  /-- `write_text` -/
  | writeText (path : Path) (text : List UInt8)
  /-- `write_common_manifest` -/
  | writeCommonManifest (root : Path)
  /-- `normalize_tree_times` -/
  | normalizeTreeTimes (root : Path) (epoch : ℕ)
  /-- `fopen(path, "wb")` -/
  | fopen (path : Path)
  /-- `append_file` to what was opened -/
  | appendFile (path : Path)
  | fflush
  | fsync
  | fclose
  /-- `chmod(path, 0755)` -/
  | chmod (path : Path)
  /-- `trees_equal` -/
  | treesEqual (left right : Path)
  /-- `files_equal` -/
  | filesEqual (left right : Path)
  /-- `remove_tree` -/
  | removeTree (path : Path)

/-- How `mkdir` ends. -/
inductive Mkdir : Type where
  | made
  /-- `EEXIST` -/
  | present
  | failed
  deriving DecidableEq

/-- What the builder calls out to. -/
inductive SystemCall : Type where
  /-- `setenv("PATH", value, 1)` -/
  | setenv (value : Path)
  | attempt (what : Attempt)
  /-- `run_command` -/
  | run (cwd : Option Path) (argv : List Path)
  /-- the child of `capture_command`, and what is read of its output -/
  | capture (cwd : Option Path) (argv : List Path)
  /-- `fopen` and `fread` of `read_trimmed` -/
  | fread (path : Path)
  | mkdir (path : Path)
  | getcwd
  /-- `mkdtemp` with the template of `main` -/
  | mkdtemp
  /-- `stat`, for the size -/
  | stat (path : Path)
  /-- `fprintf` to what was opened -/
  | fprintf (text : List UInt8)

/-- What each call answers: whether it succeeded, or what it returns. -/
def SystemCall.Answer : SystemCall → Type
  | .setenv _ | .attempt _ => Bool
  | .run _ _ | .fprintf _ => ℤ
  | .capture _ _ => ℤ × List UInt8
  | .fread _ => Option (List UInt8)
  | .mkdir _ => Mkdir
  | .getcwd | .mkdtemp => Option Path
  | .stat _ => Option ℤ

/-- The calls of the builder. -/
abbrev Calls : Signature := ⟨SystemCall, SystemCall.Answer⟩

/-- Code of the builder, whose memory is the `PATH` of the environment. -/
abbrev BuilderM : Type → Type := Action Calls (Option Path)

/-- A call that says whether it succeeded. -/
def attempt (what : Attempt) : BuilderM Bool := Action.call (S := Calls) (.attempt what)

/-- The child of `capture_command` -/
def capture (cwd : Option Path) (argv : List Path) : BuilderM (ℤ × List UInt8) :=
  Action.call (S := Calls) (.capture cwd argv)

/-- `fopen` and `fread` -/
def fread (path : Path) : BuilderM (Option (List UInt8)) := Action.call (S := Calls) (.fread path)

/-- `mkdir` -/
def mkdir (path : Path) : BuilderM Mkdir := Action.call (S := Calls) (.mkdir path)

/-- `getcwd` -/
def getcwd : BuilderM (Option Path) := Action.call (S := Calls) .getcwd

/-- `mkdtemp` -/
def mkdtemp : BuilderM (Option Path) := Action.call (S := Calls) .mkdtemp

/-- `stat` -/
def stat (path : Path) : BuilderM (Option ℤ) := Action.call (S := Calls) (.stat path)

/-- `fprintf` -/
def fprintf (text : List UInt8) : BuilderM ℤ := Action.call (S := Calls) (.fprintf text)

/-- `setenv` -/
def setenv (value : Path) : BuilderM Bool := do
  let ok : Bool ← Action.call (S := Calls) (.setenv value)
  Action.when ok (Action.modify fun _ => some value)
  return ok

/-- The exit status of `run_command` -/
def status (cwd : Option Path) (argv : List Path) : BuilderM ℤ :=
  Action.call (S := Calls) (.run cwd argv)

/-- `run_command`, which succeeds with 0. -/
def runCommand (cwd : Option Path) (argv : List Path) : BuilderM Bool := do
  let status ← status cwd argv
  return decide (status = 0)

/-- `capture_command`: the output without the blanks at its end, where the command succeeds and
says something. -/
def captureCommand (cwd : Option Path) (argv : List Path) (capacity : ℕ) :
    BuilderM (Option Path) := do
  let answer ← capture cwd argv
  let out := captureOutput capacity answer.2
  return if answer.1 = 0 ∧ out ≠ [] then some (cString out) else none

/-- A search that uses what another one has found. -/
def search {α β : Type} (found : BuilderM (Option α)) (next : α → BuilderM (Option β)) :
    BuilderM (Option β) := do
  match ← found with
  | none => return none
  | some a => next a

/-- `mkdir_one` -/
def mkdirOne (path : Path) : BuilderM Bool := do
  let answer ← mkdir path
  return decide (answer ≠ .failed)

/-- `mkdir`, which has to make the directory. -/
def makeDirectory (path : Path) : BuilderM Bool := do
  let answer ← mkdir path
  return decide (answer = .made)

/-! ## Stages -/

/-- A stage of `main`: what it has found, or the message with which `main` fails. -/
abbrev Stage (α : Type) : Type := BuilderM (Except String α)

/-- Nothing is left to do. -/
def found {α : Type} (a : α) : BuilderM (Except String α) := pure (.ok a)

/-- One stage after the other. -/
def andThen {α β : Type} (stage : BuilderM (Except String α)) (next : α → Stage β) :
    BuilderM (Except String β) := do
  match ← stage with
  | .error message => pure (.error message)
  | .ok a => next a

/-- The next stage uses what has been found. -/
def need {α β : Type} (found : BuilderM (Option α)) (message : String) (next : α → Stage β) :
    BuilderM (Except String β) := do
  match ← found with
  | none => pure (.error message)
  | some a => next a

/-- The next stage comes after a success. -/
def ensure {β : Type} (ok : BuilderM Bool) (message : String) (next : Stage β) :
    BuilderM (Except String β) := do
  let ok ← ok
  if ok then next else pure (.error message)

/-- The next stage uses a text that fits. -/
def fitting {β : Type} (text : Option Path) (message : String) (next : Path → Stage β) : Stage β :=
  need (pure text) message next

/-- `snprintf`, where a text that does not fit is refused. -/
def printed (capacity : ℕ) (text : Path) : Option Path :=
  if 0 < text.length ∧ text.length < capacity then some text else none

/-! ## What is released -/

/-- `strtoll`, and what follows the number; `none` where there is none or it does not fit. -/
def strtoll (text : Path) : Option (ℤ × Path) :=
  let signed (negative : Bool) (digits : Path) : Option (ℤ × Path) :=
    let number := digits.takeWhile isDigit
    let value : ℤ := if negative then -decimalValue number else decimalValue number
    if number ≠ [] ∧ -2 ^ 63 ≤ value ∧ value < 2 ^ 63 then
      some (value, digits.dropWhile isDigit)
    else none
  match text.dropWhile isSpace with
  | 45 :: digits => signed true digits
  | 43 :: digits => signed false digits
  | digits => signed false digits

/-- The timestamp that `main` accepts. -/
def parseEpoch (text : Path) : Option ℕ :=
  match strtoll text with
  | some (parsed, []) => if 0 < parsed then some parsed.toNat else none
  | _ => none

/-- The loop of `valid_version`. -/
def validVersionLoop : ℕ → Bool → Path → Bool
  | dots, digit, [] => dots = 2 && digit
  | dots, digit, b :: rest =>
    if b = 46 then
      if !digit || 2 ≤ dots then false else validVersionLoop (dots + 1) false rest
    else if isDigit b then validVersionLoop dots true rest
    else false

/-- `valid_version` -/
def validVersion (value : Path) : Bool :=
  if value = [] then false else validVersionLoop 0 false value

/-- `read_trimmed`: a file that is shorter than the buffer, without the blanks at its end. -/
def readTrimmed (path : Path) (capacity : ℕ) : BuilderM (Option Path) :=
  search (fread path) fun content =>
  let out := (content.reverse.dropWhile isSpace).reverse
  return if content.length < capacity - 1 ∧ out ≠ [] then some (cString out) else none

/-- `common_relative` -/
def commonRelative : Path := bytes "src/vendor/infiltratr-common"

/-- `root_argv` -/
def rootArgv : List Path := [bytes "git", bytes "rev-parse", bytes "--show-toplevel"]

/-- `epoch_argv` -/
def epochArgv : List Path :=
  [bytes "git", bytes "show", bytes "-s", bytes "--format=%ct", bytes "HEAD"]

/-- `diff_argv` -/
def diffArgv : List Path :=
  [bytes "git", bytes "diff", bytes "--quiet", bytes "HEAD", bytes "--"]

/-- `pin_argv` -/
def pinArgv (revspec : Path) : List Path := [bytes "git", bytes "rev-parse", revspec]

/-- `common_head_argv` -/
def commonHeadArgv (common : Path) : List Path :=
  [bytes "git", bytes "-C", common, bytes "rev-parse", bytes "HEAD"]

/-- What is going to be released. -/
structure Source : Type where
  root : Path
  /-- `source_epoch` -/
  epoch : ℕ
  version : Path
  common : Path
  pin : Path

/-- What is going to be released, and where. -/
structure Release extends Source where
  output : Path

/-- `version_path` and `version` -/
def readVersion (root : Path) : BuilderM (Option Path) :=
  search (pure (pathJoin pathMax root (bytes "VERSION"))) fun path =>
  search (readTrimmed path 64) fun version =>
  return if validVersion version then some version else none

/-- `pin`, where it is what is checked out as well. -/
def readPin (root common revspec : Path) : BuilderM (Option Path) :=
  search (captureCommand (some root) (pinArgv revspec) 80) fun pin =>
  search (captureCommand (some root) (commonHeadArgv common) 80) fun head =>
  return if pin = head then some pin else none

/-- `output`, relative to the directory that the builder is in. -/
def resolveOutput (directory : Path) : Stage Path :=
  if isAbsolute directory then
    fitting (if directory.length < pathMax then some directory else none)
      "output directory path is too long." fun output => found output
  else
    need getcwd "cannot resolve output directory." fun current =>
    fitting (pathJoin pathMax current directory) "cannot resolve output directory." fun output =>
    found output

/-- The part of `main` that looks at what is going to be released. -/
def lookAtSource : Stage Source :=
  need (captureCommand none rootArgv pathMax)
    "not inside the System Settings Git repository." fun root =>
  ensure (attempt (.chdir root)) "cannot enter repository root." <|
  need (captureCommand (some root) epochArgv 32)
    "cannot read release commit timestamp." fun text =>
  need (pure (parseEpoch text)) "release commit timestamp is invalid." fun epoch =>
  ensure (runCommand (some root) diffArgv) "tracked working tree differs from HEAD." <|
  need (readVersion root) "VERSION is not a valid major.minor.patch value." fun version =>
  fitting (pathJoin pathMax root commonRelative) "Common path is too long." fun common =>
  fitting (printed pathMax (bytes "HEAD:" ++ commonRelative))
    "cannot form Common revision." fun revspec =>
  need (readPin root common revspec)
    "checked-out Common does not match the pinned submodule commit." fun pin =>
  found ⟨root, epoch, version, common, pin⟩

/-- The part of `main` before the workspace is made. -/
def checkRelease (directory : Path) : Stage Release :=
  andThen lookAtSource fun source =>
  ensure (mkdirOne directory) "cannot create output directory." <|
  andThen (resolveOutput directory) fun output =>
  found ⟨source, output⟩

/-! ## The workspace -/

/-- The temporary workspace. -/
structure Workspace : Type where
  work : Path
  /-- `source_root` -/
  sourceRoot : Path
  /-- `common_export` -/
  commonExport : Path

/-- The message with which `main` fails before there is a workspace to clean up. -/
def workspaceMessage : String := "cannot create temporary source workspace."

/-- The part of `main` that makes the workspace. -/
def makeWorkspace : Stage Workspace :=
  need mkdtemp workspaceMessage fun work =>
  fitting (pathJoin pathMax work (bytes "source")) workspaceMessage fun sourceRoot =>
  ensure (makeDirectory sourceRoot) workspaceMessage <|
  fitting (pathJoin pathMax sourceRoot commonRelative) workspaceMessage fun commonExport =>
  found ⟨work, sourceRoot, commonExport⟩

/-- What `main` says after its cleanup. -/
def cleanupMessage : String := "asset generation or verification failed."

/-- A stage that ends in the cleanup where it fails. -/
def reach {α : Type} (ok : BuilderM Bool) (next : Stage α) : Stage α :=
  ensure ok cleanupMessage next

/-- A stage that ends in the cleanup where a text does not fit. -/
def reaching {β : Type} (text : Option Path) (next : Path → Stage β) : Stage β :=
  fitting text cleanupMessage next

/-- Commands joined with `||` on their failures: the first one that fails ends it. -/
def runAll : List (Option Path × List Path) → BuilderM Bool
  | [] => pure true
  | (cwd, argv) :: rest => do
    let ok ← runCommand cwd argv
    if ok then runAll rest else pure false

/-- Calls joined with `||` on their failures. -/
def attemptAll : List Attempt → BuilderM Bool
  | [] => pure true
  | what :: rest => do
    let ok ← attempt what
    if ok then attemptAll rest else pure false

/-- The loop over `parent`, from a place in it: the directories that end before a separator, and
the last one. -/
def makeParents : Path → Path → BuilderM Bool
  | parent, [] => mkdirOne parent
  | parent, b :: rest =>
    if b = separator then do
      let ok ← mkdirOne parent
      if ok then makeParents (parent ++ [b]) rest else pure false
    else makeParents (parent ++ [b]) rest

/-- `archive_root`, `extract_root`, `archive_common` and `extract_common` -/
def exportArgvs (r : Release) (w : Workspace) (rootTar commonTar rootOutput commonOutput : Path) :
    List (List Path) :=
  [[bytes "git", bytes "archive", bytes "--format=tar", rootOutput, bytes "HEAD"],
    [bytes "tar", bytes "-xf", rootTar, bytes "-C", w.sourceRoot],
    [bytes "git", bytes "-C", r.common, bytes "archive", bytes "--format=tar", commonOutput, r.pin],
    [bytes "tar", bytes "-xf", commonTar, bytes "-C", w.commonExport]]

/-- The part of `main` that exports the sources. -/
def exportSources {α : Type} (r : Release) (w : Workspace) (next : Stage α) : Stage α :=
  reach (if w.commonExport.length < pathMax then
    makeParents (w.sourceRoot ++ [separator]) commonRelative else pure false) <|
  reaching (pathJoin pathMax w.work (bytes "root.tar")) fun rootTar =>
  reaching (pathJoin pathMax w.work (bytes "common.tar")) fun commonTar =>
  reaching (printed pathMax (bytes "--output=" ++ rootTar)) fun rootOutput =>
  reaching (printed pathMax (bytes "--output=" ++ commonTar)) fun commonOutput =>
  reach (runAll ((exportArgvs r w rootTar commonTar rootOutput commonOutput).map
    fun argv => (some r.root, argv))) next

/-- `.system-settings-common-commit`, and the manifest; then the times of everything. -/
def recordProvenance {α : Type} (r : Release) (w : Workspace) (next : Stage α) : Stage α :=
  reaching (pathJoin pathMax w.commonExport commitName) fun marker =>
  reaching (printed 128 (r.pin ++ [10])) fun markerText =>
  reach (attemptAll [.writeText marker markerText, .writeCommonManifest w.commonExport]) <|
  reach (attempt (.normalizeTreeTimes w.sourceRoot r.epoch)) next

/-- `tar_argv` -/
def tarArgv (w : Workspace) (epochArgument payload : Path) : List Path :=
  [bytes "tar", bytes "--sort=name", epochArgument, bytes "--owner=0", bytes "--group=0",
    bytes "--numeric-owner", bytes "-czf", payload, bytes "-C", w.sourceRoot, bytes "."]

/-- The part of `main` that packs what has been exported. -/
def packSources {α : Type} (r : Release) (w : Workspace) (next : Path → Stage α) : Stage α :=
  reaching (pathJoin pathMax w.work (bytes "source.tar.gz")) fun payload =>
  reaching (printed 64 (bytes "--mtime=@" ++ bytes (toString r.epoch))) fun epochArgument =>
  reach (runCommand (some r.root) (tarArgv w epochArgument payload)) (next payload)

/-- `compile_argv` -/
def compileArgv (installerSource installerBinary : Path) : List Path :=
  [bytes "cc", bytes "-std=c11", bytes "-O2", bytes "-Wall", bytes "-Wextra", bytes "-Wpedantic",
    bytes "-Werror", bytes "-o", installerBinary, installerSource]

/-- The footer is printed in full. -/
def printFooter (size : ℤ) : BuilderM Bool := do
  let count ← fprintf (payloadFooter size.toNat)
  return decide (count = 32)

/-- What is written to the installer after it has been opened, up to `fsync`. -/
def writeParts (installerBinary payload : Path) (size : ℤ) : BuilderM Bool := do
  let appended ← attemptAll [.appendFile installerBinary, .appendFile payload]
  if appended then do
    let complete ← printFooter size
    if complete then attemptAll [.fflush, .fsync] else pure false
  else pure false

/-- What was opened is closed in any case. -/
def closing (written : BuilderM Bool) : BuilderM Bool := do
  let written ← written
  let closed ← attempt .fclose
  return written && closed

/-- The installer is written. -/
def writeRun (runPath installerBinary payload : Path) (size : ℤ) : BuilderM Bool := do
  let opened ← attempt (.fopen runPath)
  if opened then closing (writeParts installerBinary payload size) else pure false

/-- `payload_stat` of a payload that is not empty -/
def statPayload (payload : Path) : BuilderM (Option ℤ) :=
  search (stat payload) fun size => return if size ≤ 0 then none else some size

/-- The part of `main` that writes the installer. -/
def writeInstaller {α : Type} (r : Release) (w : Workspace) (payload : Path)
    (next : Path → Stage α) : Stage α :=
  reaching (pathJoin pathMax w.sourceRoot (bytes "packaging/native-installer.c"))
    fun installerSource =>
  reaching (pathJoin pathMax w.work (bytes "native-installer")) fun installerBinary =>
  reach (runCommand (some r.root) (compileArgv installerSource installerBinary)) <|
  reaching (printed pathMax (bytes "System-Settings-" ++ r.version ++ bytes "-native.run"))
    fun name =>
  reaching (pathJoin pathMax r.output name) fun runPath =>
  need (statPayload payload) cleanupMessage fun size =>
  reach (writeRun runPath installerBinary payload size) <|
  reach (attempt (.chmod runPath)) (next runPath)

/-- `zip_argv` -/
def zipArgv (zipPath : Path) : List Path :=
  [bytes "cmake", bytes "-E", bytes "tar", bytes "cf", zipPath, bytes "--format=zip", bytes "--",
    bytes "."]

/-- The part of `main` that writes the source archive. -/
def writeArchive {α : Type} (r : Release) (w : Workspace) (next : Stage α) : Stage α :=
  reaching (printed pathMax (bytes "System-Settings-" ++ r.version ++ bytes "-source.zip"))
    fun name =>
  reaching (pathJoin pathMax r.output name) fun zipPath =>
  reach (runCommand (some w.sourceRoot) (zipArgv zipPath)) next

/-- `configure_argv` -/
def configureArgv (verified verifyBuild : Path) : List Path :=
  [bytes "cmake", bytes "-S", verified, bytes "-B", verifyBuild, bytes "-DBUILD_TESTING=OFF",
    bytes "-DSYSTEM_SETTINGS_BUILD_PROFILE=generic"]

/-- The part of `main` that verifies what the installer extracts. -/
def verifyInstaller (r : Release) (w : Workspace) (runPath : Path) : Stage Unit :=
  reach (runAll [(some r.root, [bytes "readelf", bytes "-h", runPath]),
    (some r.root, [runPath, bytes "--help"])]) <|
  reaching (pathJoin pathMax w.work (bytes "verified")) fun verified =>
  reach (runCommand (some r.root) [runPath, bytes "--extract", verified]) <|
  reach (attempt (.treesEqual w.sourceRoot verified)) <|
  reaching (pathJoin pathMax w.sourceRoot (bytes "VERSION")) fun sourceVersion =>
  reaching (pathJoin pathMax verified (bytes "VERSION")) fun verifiedVersion =>
  reaching (pathJoin pathMax w.commonExport (bytes "VERSION")) fun sourceCommonVersion =>
  reaching (pathJoin pathMax verified (bytes "src/vendor/infiltratr-common/VERSION"))
    fun verifiedCommonVersion =>
  reach (attemptAll [.filesEqual sourceVersion verifiedVersion,
    .filesEqual sourceCommonVersion verifiedCommonVersion]) <|
  reaching (pathJoin pathMax w.work (bytes "verify-build")) fun verifyBuild =>
  reach (runCommand (some r.root) (configureArgv verified verifyBuild)) (found ())

/-- The part of `main` that works in the workspace, up to its cleanup. -/
def buildAssets (r : Release) (w : Workspace) : Stage Unit :=
  exportSources r w <|
  recordProvenance r w <|
  packSources r w fun payload =>
  writeInstaller r w payload fun runPath =>
  writeArchive r w <|
  verifyInstaller r w runPath

/-! ## `main` -/

/-- What `main` returns, or `fail` exits with, and what is written to `stderr`. -/
structure Exit : Type where
  /-- the exit status -/
  status : ℕ
  /-- the diagnostic -/
  stderr : List UInt8
  deriving DecidableEq

/-- The line of `fail` -/
def failure (message : String) : List UInt8 :=
  bytes "System Settings source asset builder: " ++ bytes message ++ bytes "\n"

/-- `fail` -/
def fail (message : String) : Exit := ⟨1, failure message⟩

/-- The warning about a workspace that could not be removed. -/
def warning (work : Path) (removed : Bool) : List UInt8 :=
  if removed then []
  else bytes "Warning: could not remove temporary workspace " ++ work ++ bytes "\n"

/-- How `main` ends, where `result` is what has come of the assets. -/
def ending (work : Path) (result : Except String Unit) (removed : Bool) : Exit :=
  match result with
  | .ok () => ⟨0, warning work removed⟩
  | .error message => ⟨1, warning work removed ++ failure message⟩

/-- `cleanup` -/
def cleanup (work : Path) (result : Except String Unit) : BuilderM Exit := do
  let removed ← attempt (.removeTree work)
  return ending work result removed

/-- `main` with a directory for its output. -/
def release (directory : Path) : BuilderM Exit := do
  match ← checkRelease directory with
  | .error message => return fail message
  | .ok r =>
    match ← makeWorkspace with
    | .error message => return fail message
    | .ok w =>
      let result ← buildAssets r w
      cleanup w.work result

/-- The arguments ask for the help text. -/
def AsksForHelp (argv : List Path) : Prop :=
  argv.length = 2 ∧ (argv[1]? = some (bytes "--help") ∨ argv[1]? = some (bytes "-h"))

instance (argv : List Path) : Decidable (AsksForHelp argv) := inferInstanceAs (Decidable (_ ∧ _))

/-- `main` after the search path has been set. -/
def mainOptions (argv : List Path) : BuilderM Exit :=
  if AsksForHelp argv then pure ⟨0, []⟩
  else
    match argv with
    | [_, directory] => if directory = [] then pure ⟨2, []⟩ else release directory
    | _ => pure ⟨2, []⟩

/-- `trusted_path` -/
def trustedPath : Path := bytes "/usr/local/sbin:/usr/local/bin:/usr/sbin:/usr/bin:/sbin:/bin"

/-- `main` -/
def main (argv : List Path) : BuilderM Exit := do
  let ok ← setenv trustedPath
  if !ok then return fail "could not establish the trusted build-tool search path."
  mainOptions argv

end SourceAssetBuilder

end SystemSettings

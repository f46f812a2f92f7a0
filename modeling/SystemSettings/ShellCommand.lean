import SystemSettings.Decimal
import SystemSettings.FileWalk

/-!
# The trusted system programs

`shell-command.c`: the lookup of a program that the shell may delegate to. The
path returned has to name a file of root's that nobody else can change, below
directories that nobody else can change.
-/

namespace SystemSettings

variable (schedule : ℕ → FileTree) (user : User)

/-! ## The lookup -/

/-- `S_IWGRP` -/
def sIwgrp : BitVec 12 := 0o020

/-- `S_IWOTH` -/
def sIwoth : BitVec 12 := 0o002

/-- `mode_is_trusted` -/
def modeIsTrusted (mode : BitVec 12) : Bool := mode &&& (sIwgrp ||| sIwoth) = 0

/-- `trusted_directory` -/
def trustedDirectory (path : Path) : Look Bool := do
  match ← stat schedule user path with
  | none => pure false
  | some (_, status) => pure (status.isDirectory && status.owner = 0 && modeIsTrusted status.mode)

/-- The loop of `trusted_parent_chain`. -/
def trustedParents (current : { path : Path // isAbsolute path = true }) : Look Bool := do
  if ← trustedDirectory schedule user current.1 then
    if current.1 = [separator] then pure true
    else if pathGetDirname current.1 = current.1 then pure false
    else trustedParents ⟨pathGetDirname current.1, isAbsolute_pathGetDirname current.2⟩
  else pure false
termination_by current.1.length
decreasing_by exact length_pathGetDirname_lt current.2 ‹_›

/-- `trusted_parent_chain` -/
def trustedParentChain (resolvedPath : Path) : Look Bool :=
  if h : isAbsolute resolvedPath = true then
    trustedParents schedule user ⟨pathGetDirname resolvedPath, isAbsolute_pathGetDirname h⟩
  else pure false

/-- `g_file_test` with `G_FILE_TEST_IS_EXECUTABLE` -/
def fileTestIsExecutable (path : Path) : Look Bool := do
  match ← stat schedule user path with
  | none => pure false
  | some (_, status) => pure (status.mayExecute user)

/-- `trusted_system_executable` -/
def trustedSystemExecutable (directory candidate : Path) : Look (Option Path) := do
  if ← trustedDirectory schedule user directory then
    match ← realpath schedule user candidate with
    | none => pure none
    | some resolved =>
      match ← stat schedule user resolved with
      | none => pure none
      | some (_, executableStat) =>
        if executableStat.isRegular && executableStat.owner = 0 &&
            modeIsTrusted executableStat.mode then
          if ← trustedParentChain schedule user resolved then
            if ← fileTestIsExecutable schedule user resolved then pure (some resolved)
            else pure none
          else pure none
        else pure none
  else pure none

/-- `directories` of `find_trusted_system_program` -/
def trustedDirectories : List Path :=
  ["/usr/bin", "/usr/sbin", "/bin", "/sbin", "/usr/local/bin", "/usr/local/sbin"].map bytes

/-- `g_build_filename` of a directory and a name -/
def buildFilename (directory : Path) (program : Name) : Path := directory ++ separator :: program

/-- The loop of `find_trusted_system_program`. -/
def findInDirectories (program : Name) : List Path → Look (Option Path)
  | [] => pure none
  | directory :: directories => do
    match ← trustedSystemExecutable schedule user directory (buildFilename directory program) with
    | some resolved => pure (some resolved)
    | none => findInDirectories program directories

/-- `find_trusted_system_program`; `none` is `NULL`. -/
def findTrustedSystemProgram (program : Option Name) : Look (Option Path) :=
  match program with
  | none => pure none
  | some program =>
    if program = [] ∨ separator ∈ program then pure none
    else findInDirectories schedule user program trustedDirectories

/-! ## What a path returned is -/

/-- A path that names this file at all times, below directories of root's. -/
structure TrustedProgram (path : Path) (ino : Ino) (file : FileNode) : Prop where
  /-- the path has no empty name and no `.` and `..` -/
  canonical : ∃ names, (∀ name ∈ names, PlainName name) ∧ path = rootedPath names
  /-- no part of the path is a symbolic link -/
  noLink : ∀ n k, ∃ found, (lstat schedule user (pathGetDirname^[n] path) k).1 = some found ∧
    found.2.linkTarget = none
  regular : file.isRegular = true
  rootOwned : file.owner = 0
  notWritable : modeIsTrusted file.mode = true
  executable : file.mayExecute user = true
  /-- the directory, and every one above it -/
  directories : ∀ n k, (trustedDirectory schedule user (pathGetDirname^[n + 1] path) k).1 = true
  /-- the file that is looked at -/
  validated : ∀ k, (stat schedule user path k).1 = some (ino, file)
  /-- the file that is run -/
  runs : ∀ k, (execve schedule user path k).1 = some (ino, file)

end SystemSettings

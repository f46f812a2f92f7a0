import SystemSettings.Decimal
import SystemSettings.PathText

/-!
# The manifest of the exported Common source

`write_common_manifest` of `source-asset-builder.c` writes one line for each file of
the exported tree, and `CMakeLists.txt` checks a tree against these lines before it
builds it.
-/

namespace SystemSettings

/-! ## Source trees -/

/-- What `readdir` lists of a directory, with what the subdirectories list. -/
inductive Listing : Type where
  | nil
  | file (name : Name) (content : List UInt8) (rest : Listing)
  | directory (name : Name) (children rest : Listing)
  deriving DecidableEq

/-- What a path leads to. -/
inductive TreeEntry : Type where
  | file (content : List UInt8)
  | directory (children : Listing)
  deriving DecidableEq

/-- The entry of this name. -/
def Listing.entry (name : Name) : Listing → Option TreeEntry
  | .nil => none
  | .file other content rest => if other = name then some (.file content) else rest.entry name
  | .directory other children rest =>
    if other = name then some (.directory children) else rest.entry name

/-- What these names lead to. -/
def Listing.open : Listing → List Name → Option TreeEntry
  | listing, [] => some (.directory listing)
  | listing, name :: names =>
    match listing.entry name with
    | none => none
    | some (.file content) => if names = [] then some (.file content) else none
    | some (.directory children) => children.open names

/-- The content of the file at a path. -/
def Listing.read (listing : Listing) (path : Path) : Option (List UInt8) :=
  match listing.open (pathNames path) with
  | some (.file content) => some content
  | _ => none

/-- The names in a directory. -/
def Listing.names : Listing → List Name
  | .nil => []
  | .file name _ rest => name :: rest.names
  | .directory name _ rest => name :: rest.names

/-- The names of a source tree: printable ASCII that CMake's lists leave alone. -/
def SourceName (name : Name) : Prop :=
  PlainName name ∧ ∀ b ∈ name, 32 ≤ b ∧ b ≤ 126 ∧ b ∉ bytes ";[]\\"

/-- No name twice in a directory. -/
def Listing.WellFormed : Listing → Prop
  | .nil => True
  | .file name _ rest => SourceName name ∧ name ∉ rest.names ∧ rest.WellFormed
  | .directory name children rest =>
    SourceName name ∧ name ∉ rest.names ∧ children.WellFormed ∧ rest.WellFormed

/-- A tree of directories and regular files. -/
structure SourceTree : Type where
  listing : Listing
  wellFormed : listing.WellFormed

/-! ## The writer -/

/-- `PATH_MAX` -/
def pathMax : ℕ := 4096

/-- `.system-settings-common-commit` -/
def commitName : Name := bytes ".system-settings-common-commit"

/-- `.system-settings-common-sha256` -/
def manifestName : Name := bytes ".system-settings-common-sha256"

/-- `path_join` -/
def pathJoin (capacity : ℕ) (left right : Path) : Option Path :=
  let joined := left ++ separator :: right
  if joined.length < capacity then some joined else none

/-- `child_relative` of `collect_files` -/
def childRelative (relative : Path) (name : Name) : Option Path :=
  if relative = [] then
    if name ≠ [] ∧ name.length < pathMax then some name else none
  else pathJoin pathMax relative name

/-- `collect_files`. The calls of the file system succeed. -/
def collectFiles (root : Path) : Path → Listing → List Path → Option (List Path)
  | _, .nil, list => some list
  | relative, .file name _ rest, list =>
    if name = dot ∨ name = dotDot then collectFiles root relative rest list
    else do
      let child ← childRelative relative name
      let _ ← pathJoin pathMax root child
      if child ≠ commitName ∧ child ≠ manifestName then
        collectFiles root relative rest (list ++ [child])
      else collectFiles root relative rest list
  | relative, .directory name children rest, list =>
    if name = dot ∨ name = dotDot then collectFiles root relative rest list
    else do
      let child ← childRelative relative name
      let _ ← pathJoin pathMax root child
      let list ← collectFiles root child children list
      collectFiles root relative rest list

/-- `strcmp` says that the first string does not come after the second. -/
def comparePaths : Path → Path → Bool
  | [], _ => true
  | _ :: _, [] => false
  | a :: as, b :: bs => a < b || (a == b && comparePaths as bs)

/-- What `capture_command` drops at the end of the output. -/
def isTrailingBlank (b : UInt8) : Bool := b = 10 || b = 13 || b = 32 || b = 9

/-- `out` of `capture_command`, after what the command has written -/
def captureOutput (capacity : ℕ) (output : List UInt8) : List UInt8 :=
  ((output.take (capacity - 1)).reverse.dropWhile isTrailingBlank).reverse

/-- `isxdigit`, and the class `[0-9a-fA-F]` -/
def isHexDigit (b : UInt8) : Bool :=
  isDigit b || (97 ≤ b && b ≤ 102) || (65 ≤ b && b ≤ 70)

/-- `tolower` -/
def toLower (b : UInt8) : UInt8 := if 65 ≤ b ∧ b ≤ 90 then b + 32 else b

variable (sha256 : List UInt8 → List UInt8)

/-- The line of `sha256sum`, for a path that needs no escapes. -/
def sha256sumLine (path : Path) (content : List UInt8) : List UInt8 :=
  sha256 content ++ bytes "  " ++ path ++ [10]

/-- `sha256_file` -/
def sha256File (path : Path) (content : List UInt8) : Option (List UInt8) :=
  let output := captureOutput 256 (sha256sumLine sha256 path content)
  if 64 ≤ output.length ∧ (output.take 64).all isHexDigit then some ((output.take 64).map toLower)
  else none

/-- The lines of `write_common_manifest` for these paths. -/
def manifestLines (root : Path) (listing : Listing) : List Path → Option (List UInt8)
  | [] => some []
  | path :: paths => do
    let filePath ← pathJoin pathMax root path
    let content ← listing.read path
    let hash ← sha256File sha256 filePath content
    let rest ← manifestLines root listing paths
    some (hash ++ bytes "  " ++ path ++ [10] ++ rest)

/-- `write_common_manifest`: what it writes, `none` when it fails. -/
def writeCommonManifest (root : Path) (tree : SourceTree) : Option (List UInt8) := do
  let list ← collectFiles root [] tree.listing []
  let _ ← pathJoin pathMax root manifestName
  match tree.listing.entry manifestName with
  -- there is no file to open
  | some (.directory _) => none
  | _ => manifestLines sha256 root tree.listing (list.mergeSort comparePaths)

/-! ## The verifier -/

/-- A byte of the strings of `file(STRINGS)` -/
def isStringByte (b : UInt8) : Bool := (32 ≤ b && b ≤ 126) || b = 9

/-- One byte of `file(STRINGS)`: the strings so far and the current one. -/
def stringsStep (strings : List (List UInt8) × List UInt8) (b : UInt8) :
    List (List UInt8) × List UInt8 :=
  if b = 13 then strings
  else if b = 10 then (strings.1 ++ [strings.2], [])
  else if isStringByte b then (strings.1, strings.2 ++ [b])
  else (if strings.2 = [] then strings.1 else strings.1 ++ [strings.2], [])

/-- `file(STRINGS)` -/
def fileStrings (content : List UInt8) : List (List UInt8) :=
  let strings := content.foldl stringsStep ([], [])
  if strings.2 = [] then strings.1 else strings.1 ++ [strings.2]

/-- `string(STRIP)` -/
def stringStrip (text : List UInt8) : List UInt8 :=
  let isBlank (b : UInt8) : Bool := b = 32 || (9 ≤ b && b ≤ 13)
  ((text.dropWhile isBlank).reverse.dropWhile isBlank).reverse

/-- `MATCHES "^[0-9a-fA-F]+$"` -/
def matchesHex (text : List UInt8) : Bool := text ≠ [] && text.all isHexDigit

/-- The commit marker is well formed. -/
def validMarker (marker : List UInt8) : Bool :=
  (stringStrip marker).length = 40 && matchesHex (stringStrip marker)

/-- The body of the loop over the lines: the path of the line, `none` for an error. -/
def verifyLine (tree : SourceTree) (line : List UInt8) : Option Path :=
  if line.length < 67 then none
  else
    let fileHash := line.take 64
    let hashSeparator := (line.drop 64).take 2
    let relativePath := line.drop 66
    -- the last condition is `MATCHES "(^|/)\\.\\.(/|$)"`
    if !matchesHex fileHash || hashSeparator ≠ bytes "  " || relativePath = [] ||
        dotDot ∈ relativePath.splitOn separator then none
    else
      match tree.listing.read relativePath with
      | none => none
      | some content => if sha256 content = fileHash then some relativePath else none

/-- `file(GLOB_RECURSE … RELATIVE)` -/
def globRecurse : Path → Listing → List Path
  | _, .nil => []
  | relative, .file name _ rest =>
    (if relative = [] then name else relative ++ separator :: name) :: globRecurse relative rest
  | relative, .directory name children rest =>
    globRecurse (if relative = [] then name else relative ++ separator :: name) children ++
      globRecurse relative rest

/-- The value of a list variable. -/
def listValue (items : List Path) : List UInt8 := [59].intercalate items

/-- The check of the exported Common source in `CMakeLists.txt`. -/
def verifyCommon (tree : SourceTree) : Bool :=
  match tree.listing.open [commitName], tree.listing.open [manifestName] with
  | some (.file marker), some (.file manifest) =>
    validMarker marker &&
      match (fileStrings manifest).mapM (verifyLine sha256 tree) with
      | none => false
      -- without a line the variable is not set, and `list(SORT)` needs a list
      | some [] => false
      | some manifestPaths =>
        let exportedFiles := (globRecurse [] tree.listing).filter fun path =>
          path ≠ commitName ∧ path ≠ manifestName
        listValue (exportedFiles.mergeSort comparePaths) =
          listValue (manifestPaths.mergeSort comparePaths)
  | _, _ => false

/-! ## What both are for -/

/-- The files of a tree: the names from the root, and the content. -/
def Listing.files : Listing → List (List Name × List UInt8)
  | .nil => []
  | .file name content rest => ([name], content) :: rest.files
  | .directory name children rest =>
    (children.files.map fun file => (name :: file.1, file.2)) ++ rest.files

/-- The names of the two files that say where the source is from. -/
def provenanceNames : List (List Name) := [[commitName], [manifestName]]

/-- The same files with equal SHA-256, but for the two provenance files. -/
def SameSource (source tree : SourceTree) : Prop :=
  ∀ names ∉ provenanceNames, ∀ digest,
    (∃ content, (names, content) ∈ source.listing.files ∧ sha256 content = digest) ↔
      ∃ content, (names, content) ∈ tree.listing.files ∧ sha256 content = digest

end SystemSettings

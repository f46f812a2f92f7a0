import SystemSettings.ManifestAgreement

/-!
# Comparing trees

`trees_equal` of `source-asset-builder.c`: the files of both trees are collected, sorted and
compared in pairs, a buffer at a time. The comparison says that the trees have the same
files, whatever the order in which directories are read and however reads are split.

No call of the file system fails, and nothing changes the trees.
-/

namespace SystemSettings

/-! ## Reading a file -/

/-- An open file. -/
structure Stream : Type where
  /-- what is left to read -/
  rest : List UInt8
  /-- `feof` -/
  eof : Bool
  /-- how much each `read` to come delivers, but for one byte that it delivers at least -/
  splits : ℕ → ℕ

/-- A file that has just been opened. -/
def Stream.ofContent (content : List UInt8) (splits : ℕ → ℕ) : Stream := ⟨content, false, splits⟩

/-- `read`: as much as is there, is asked for and is delivered. Nothing means the end. -/
def Stream.read (count : ℕ) (stream : Stream) : List UInt8 × Stream :=
  let got := stream.rest.take (min count (stream.splits 0 + 1))
  (got, ⟨stream.rest.drop got.length, stream.eof || got.isEmpty, fun i => stream.splits (i + 1)⟩)

/-- `read` delivers no more than it is asked for, and no more than is there. -/
theorem Stream.length_read_le (count : ℕ) (stream : Stream) :
    (stream.read count).1.length ≤ count ∧
      (stream.read count).1.length ≤ stream.rest.length := by
  simp only [read, List.length_take]
  omega

/-- `fread` of bytes: it reads until it has them all, or the file ends. -/
def Stream.fread (count : ℕ) (stream : Stream) : List UInt8 × Stream :=
  if _hcount : count = 0 then ([], stream)
  else if _hgot : (stream.read count).1 = [] then ([], (stream.read count).2)
  else
    let more := (stream.read count).2.fread (count - (stream.read count).1.length)
    ((stream.read count).1 ++ more.1, more.2)
termination_by count
decreasing_by
  have hpos := List.length_pos_of_ne_nil ‹¬(stream.read count).1 = []›
  omega

/-- How the reads are split does not matter. -/
theorem Stream.fread_eq (count : ℕ) (stream : Stream) :
    (stream.fread count).1 = stream.rest.take count ∧
      (stream.fread count).2.rest = stream.rest.drop count ∧
      (stream.rest.length < count → (stream.fread count).2.eof = true) := by
  fun_induction Stream.fread count stream with
  | case1 stream => exact ⟨rfl, rfl, fun h => absurd h (Nat.not_lt_zero _)⟩
  | case2 count stream hcount hgot =>
    have hempty : stream.rest = [] := by
      have hlength := congrArg List.length hgot
      simp only [read, List.length_take, List.length_nil] at hlength
      exact List.eq_nil_of_length_eq_zero (by omega)
    simp [read, hempty]
  | case3 count stream hcount hgot more ih =>
    obtain ⟨htake, hdrop, heof⟩ := ih
    have hpos := List.length_pos_of_ne_nil hgot
    obtain ⟨hcount, hthere⟩ := stream.length_read_le count
    have hgot' : (stream.read count).1 = stream.rest.take (stream.read count).1.length := by
      simp only [read, List.length_take]
      rw [List.take_eq_take_iff]
      omega
    have hrest : (stream.read count).2.rest =
        stream.rest.drop (stream.read count).1.length := rfl
    rw [hrest] at htake hdrop heof
    set size := (stream.read count).1.length
    have hsum : size + (count - size) = count := by omega
    refine ⟨?_, ?_, fun hlt => heof ?_⟩
    · rw [htake, hgot', ← List.take_add, hsum]
    · rw [hdrop, List.drop_drop, hsum]
    · rw [List.length_drop]
      omega

/-! ## Comparing files -/

/-- `sizeof(abuf)` -/
def compareBufferSize : ℕ := 8192

/-- The loop of `files_equal`. -/
def filesEqual (a b : Stream) : Bool :=
  let abuf := a.fread compareBufferSize
  let bbuf := b.fread compareBufferSize
  if abuf.1.length ≠ bbuf.1.length || (decide (0 < abuf.1.length) && abuf.1 != bbuf.1) then false
  else if abuf.1.length < compareBufferSize then abuf.2.eof && bbuf.2.eof
  else filesEqual abuf.2 bbuf.2
termination_by a.rest.length
decreasing_by
  obtain ⟨htake, hdrop, -⟩ := a.fread_eq compareBufferSize
  rename_i _ hfull
  rw [htake, List.length_take] at hfull
  rw [hdrop, List.length_drop]
  simp only [compareBufferSize] at hfull ⊢
  omega

/-- Files are equal when their contents are. -/
theorem filesEqual_iff (a b : Stream) : filesEqual a b = true ↔ a.rest = b.rest := by
  fun_induction filesEqual a b with
  | case1 a b abuf bbuf hdiffer =>
    obtain ⟨htake, -, -⟩ := a.fread_eq compareBufferSize
    obtain ⟨htake', -, -⟩ := b.fread_eq compareBufferSize
    refine ⟨fun h => absurd h Bool.false_ne_true, fun heq => ?_⟩
    have hsame : abuf.1 = bbuf.1 := htake.trans ((congrArg _ heq).trans htake'.symm)
    simp [hsame] at hdiffer
  | case2 a b abuf bbuf hsame hshort =>
    obtain ⟨htake, -, heof⟩ := a.fread_eq compareBufferSize
    obtain ⟨htake', -, heof'⟩ := b.fread_eq compareBufferSize
    have hbuf : abuf.1 = bbuf.1 := by
      simp only [Bool.or_eq_true, Bool.and_eq_true, decide_eq_true_eq, bne_iff_ne, not_or,
        not_and, not_not] at hsame
      rcases Nat.eq_zero_or_pos abuf.1.length with hzero | hpos
      · rw [List.eq_nil_of_length_eq_zero hzero,
          List.eq_nil_of_length_eq_zero (hsame.1.symm.trans hzero)]
      · exact hsame.2 hpos
    -- both files end within the buffer
    have hlt : a.rest.length < compareBufferSize := by
      rw [htake, List.length_take] at hshort
      omega
    have hlt' : b.rest.length < compareBufferSize := by
      rw [hbuf, htake', List.length_take] at hshort
      omega
    have hend : abuf.2.eof = true := heof hlt
    have hend' : bbuf.2.eof = true := heof' hlt'
    rw [List.take_of_length_le hlt.le] at htake
    rw [List.take_of_length_le hlt'.le] at htake'
    rw [hend, hend', ← htake, ← htake']
    exact ⟨fun _ => hbuf, fun _ => rfl⟩
  | case3 a b abuf bbuf hsame hfull ih =>
    obtain ⟨htake, hdrop, -⟩ := a.fread_eq compareBufferSize
    obtain ⟨htake', hdrop', -⟩ := b.fread_eq compareBufferSize
    have hbuf : abuf.1 = bbuf.1 := by
      simp only [Bool.or_eq_true, Bool.and_eq_true, decide_eq_true_eq, bne_iff_ne, not_or,
        not_and, not_not] at hsame
      exact hsame.2 (Nat.lt_of_lt_of_le (by decide) (Nat.not_lt.mp hfull))
    have htakes : a.rest.take compareBufferSize = b.rest.take compareBufferSize :=
      htake.symm.trans (hbuf.trans htake')
    have hrest : abuf.2.rest = a.rest.drop compareBufferSize := hdrop
    have hrest' : bbuf.2.rest = b.rest.drop compareBufferSize := hdrop'
    rw [ih, hrest, hrest']
    refine ⟨fun hdrops => ?_, fun heq => by rw [heq]⟩
    rw [← List.take_append_drop compareBufferSize a.rest, htakes, hdrops,
      List.take_append_drop]

/-! ## Trees -/

/-- What `readdir` lists of a directory, in the order in which it does. A symbolic link, a
device and the like are `special`; so are `.` and `..`, which lead out of the directory. -/
inductive Entries : Type where
  | nil
  | file (name : Name) (content : List UInt8) (rest : Entries)
  | directory (name : Name) (children rest : Entries)
  | special (name : Name) (rest : Entries)

/-- The names in a directory. -/
def Entries.names : Entries → List Name
  | .nil => []
  | .file name _ rest => name :: rest.names
  | .directory name _ rest => name :: rest.names
  | .special name rest => name :: rest.names

/-- No name twice in a directory, and `.` and `..` for nothing else. -/
def Entries.WellFormed : Entries → Prop
  | .nil => True
  | .file name _ rest => PlainName name ∧ name ∉ rest.names ∧ rest.WellFormed
  | .directory name children rest =>
    PlainName name ∧ name ∉ rest.names ∧ children.WellFormed ∧ rest.WellFormed
  | .special name rest => EntryName name ∧ name ∉ rest.names ∧ rest.WellFormed

/-- Only directories and regular files. -/
def Entries.Regular : Entries → Prop
  | .nil => True
  | .file _ _ rest => rest.Regular
  | .directory _ children rest => children.Regular ∧ rest.Regular
  | .special name rest => (name = dot ∨ name = dotDot) ∧ rest.Regular

/-- The regular files: the names from the root, and the content. -/
def Entries.files : Entries → List (List Name × List UInt8)
  | .nil => []
  | .file name content rest => ([name], content) :: rest.files
  | .directory name children rest =>
    (children.files.map fun file => (name :: file.1, file.2)) ++ rest.files
  | .special _ rest => rest.files

/-- The regular files and the directories. -/
def Entries.paths : Entries → List (List Name)
  | .nil => []
  | .file name _ rest => [name] :: rest.paths
  | .directory name children rest =>
    [name] :: ((children.paths.map (name :: ·)) ++ rest.paths)
  | .special _ rest => rest.paths

/-- `directory_path` of `collect_files` -/
def directoryPath (root relative : Path) : Option Path :=
  if relative = [] then if root.length < pathMax then some root else none
  else pathJoin pathMax root relative

/-- The loop of `collect_files` over the entries of a directory. -/
def Entries.collectFiles (root : Path) : Path → Entries → List Path → Option (List Path)
  | _, .nil, list => some list
  | relative, .file name _ rest, list =>
    if name = dot ∨ name = dotDot then rest.collectFiles root relative list
    else do
      let child ← childRelative relative name
      let _ ← pathJoin pathMax root child
      if child ≠ commitName ∧ child ≠ manifestName then
        rest.collectFiles root relative (list ++ [child])
      else rest.collectFiles root relative list
  | relative, .directory name children rest, list =>
    if name = dot ∨ name = dotDot then rest.collectFiles root relative list
    else do
      let child ← childRelative relative name
      let _ ← pathJoin pathMax root child
      let _ ← directoryPath root child
      let list ← children.collectFiles root child list
      rest.collectFiles root relative list
  | relative, .special name rest, list =>
    if name = dot ∨ name = dotDot then rest.collectFiles root relative list
    -- the type is not supported
    else none

/-- `fopen` of a path below the root, and the content it leads to -/
def Entries.open (entries : Entries) (path : Path) : Option (List UInt8) :=
  (entries.files.find? fun file => relativePath file.1 == path).map Prod.snd

/-- How the reads of each file are split. -/
abbrev Splits : Type := Path → ℕ → ℕ

/-- The loop of `trees_equal` over the pairs. -/
def pairsEqual (leftRoot rightRoot : Path) (left right : Entries) (leftSplits rightSplits : Splits) :
    List Path → List Path → Bool
  | leftItem :: leftItems, rightItem :: rightItems =>
    if leftItem ≠ rightItem then false
    else
      match pathJoin pathMax leftRoot leftItem, pathJoin pathMax rightRoot rightItem with
      | some leftPath, some rightPath =>
        match left.open leftItem, right.open rightItem with
        | some leftContent, some rightContent =>
          if !filesEqual (.ofContent leftContent (leftSplits leftPath))
              (.ofContent rightContent (rightSplits rightPath)) then false
          else pairsEqual leftRoot rightRoot left right leftSplits rightSplits leftItems rightItems
        | _, _ => false
      | _, _ => false
  | _, _ => true

/-- `trees_equal` -/
def treesEqual (leftRoot rightRoot : Path) (left right : Entries)
    (leftSplits rightSplits : Splits) : Bool :=
  match (directoryPath leftRoot []).bind fun _ => left.collectFiles leftRoot [] [],
      (directoryPath rightRoot []).bind fun _ => right.collectFiles rightRoot [] [] with
  | some leftItems, some rightItems =>
    if leftItems.length ≠ rightItems.length then false
    else
      pairsEqual leftRoot rightRoot left right leftSplits rightSplits
        (leftItems.mergeSort comparePaths) (rightItems.mergeSort comparePaths)
  | _, _ => false

/-- A directory and all that is below it. -/
structure DirectoryTree : Type where
  entries : Entries
  wellFormed : entries.WellFormed

/-- Every full path is short enough. -/
def PathsFit (root : Path) (entries : Entries) : Prop :=
  root.length < pathMax ∧
    ∀ names ∈ entries.paths, (root ++ separator :: relativePath names).length < pathMax

/-- The same relative file paths, but for the two provenance files, and the same bytes. -/
def SameFiles (left right : Entries) : Prop :=
  (∀ names ∉ provenanceNames, (∃ content, (names, content) ∈ left.files) ↔
    ∃ content, (names, content) ∈ right.files) ∧
  ∀ names ∉ provenanceNames, ∀ leftContent rightContent, (names, leftContent) ∈ left.files →
    (names, rightContent) ∈ right.files → leftContent = rightContent

/-! ## The files of a tree -/

theorem Entries.mem_names_of_mem_files {entries : Entries} {name : Name} {names : List Name}
    {content : List UInt8} (h : (name :: names, content) ∈ entries.files) :
    name ∈ entries.names := by
  induction entries with
  | nil => exact absurd h List.not_mem_nil
  | file other _ rest ih =>
    rcases List.mem_cons.mp h with heq | h
    · cases heq
      exact List.mem_cons_self
    · exact List.mem_cons_of_mem _ (ih h)
  | directory other children rest _ ih =>
    rcases List.mem_append.mp h with h | h
    · obtain ⟨file, _, heq⟩ := List.mem_map.mp h
      cases heq
      exact List.mem_cons_self
    · exact List.mem_cons_of_mem _ (ih h)
  | special other rest ih => exact List.mem_cons_of_mem _ (ih h)

/-- A file has a path of names, and no `.` or `..` among them. -/
theorem Entries.files_names {entries : Entries} (h : entries.WellFormed)
    {file : List Name × List UInt8} (hfile : file ∈ entries.files) :
    file.1 ≠ [] ∧ ∀ name ∈ file.1, EntryName name := by
  induction entries generalizing file with
  | nil => exact absurd hfile List.not_mem_nil
  | file name content rest ih =>
    obtain ⟨hname, -, hrest⟩ := h
    rcases List.mem_cons.mp hfile with rfl | hfile
    · refine ⟨List.cons_ne_nil _ _, fun other hother => ?_⟩
      rw [List.mem_singleton.mp hother]
      exact hname.1
    · exact ih hrest hfile
  | directory name children rest ihChildren ih =>
    obtain ⟨hname, -, hchildren, hrest⟩ := h
    rcases List.mem_append.mp hfile with hfile | hfile
    · obtain ⟨below, hbelow, rfl⟩ := List.mem_map.mp hfile
      refine ⟨List.cons_ne_nil _ _, fun other hother => ?_⟩
      rcases List.mem_cons.mp hother with rfl | hother
      · exact hname.1
      · exact (ihChildren hchildren hbelow).2 other hother
    · exact ih hrest hfile
  | special name rest ih =>
    obtain ⟨-, -, hrest⟩ := h
    exact ih hrest hfile

/-- No two files have the same path. -/
theorem Entries.nodup_files {entries : Entries} (h : entries.WellFormed) :
    (entries.files.map (·.1)).Nodup := by
  induction entries with
  | nil => exact List.nodup_nil
  | file name content rest ih =>
    obtain ⟨-, hnotin, hrest⟩ := h
    rw [files, List.map_cons, List.nodup_cons]
    refine ⟨fun hmem => hnotin ?_, ih hrest⟩
    obtain ⟨⟨_, content'⟩, hfile, rfl⟩ := List.mem_map.mp hmem
    exact mem_names_of_mem_files hfile
  | directory name children rest ihChildren ih =>
    obtain ⟨-, hnotin, hchildren, hrest⟩ := h
    have hbelow : (children.files.map fun file => (name :: file.1, file.2)).map (·.1) =
        (children.files.map (·.1)).map (name :: ·) := by
      rw [List.map_map, List.map_map]
      rfl
    rw [files, List.map_append, hbelow, List.nodup_append]
    refine ⟨(ihChildren hchildren).map fun _ _ heq => (List.cons.inj heq).2, ih hrest, ?_⟩
    rintro names hnames _ hnames' rfl
    obtain ⟨below, _, rfl⟩ := List.mem_map.mp hnames
    obtain ⟨⟨_, content'⟩, hfile, heq⟩ := List.mem_map.mp hnames'
    simp only at heq
    subst heq
    exact hnotin (mem_names_of_mem_files hfile)
  | special name rest ih =>
    obtain ⟨-, -, hrest⟩ := h
    exact ih hrest

/-- A file can be opened by its path. -/
theorem Entries.open_relativePath {entries : Entries} (h : entries.WellFormed)
    {file : List Name × List UInt8} (hfile : file ∈ entries.files) :
    entries.open (relativePath file.1) = some file.2 := by
  unfold Entries.open
  cases hfind : entries.files.find? fun other => relativePath other.1 == relativePath file.1 with
  | none => exact absurd (List.find?_eq_none.mp hfind file hfile) (by simp)
  | some found =>
    have hpath := List.find?_some hfind
    have hfound := List.mem_of_find?_eq_some hfind
    obtain ⟨hne, hnames⟩ := files_names h hfile
    obtain ⟨hne', hnames'⟩ := files_names h hfound
    have heq := relativePath_injective hnames' hnames hne' hne (by simpa using hpath)
    rw [List.inj_on_of_nodup_map (nodup_files h) hfound hfile heq]
    rfl

/-! ## Collecting -/

/-- The paths of the files of a directory, but for the provenance files. -/
def Entries.sourcePaths (front : List Name) (entries : Entries) : List Path :=
  (entries.files.map fun file => relativePath (front ++ file.1)).filter fun path =>
    path ≠ commitName ∧ path ≠ manifestName

theorem Entries.sourcePaths_file (front : List Name) (name : Name) (content : List UInt8)
    (rest : Entries) :
    (Entries.file name content rest).sourcePaths front =
      (if joinName (relativePath front) name ≠ commitName ∧
          joinName (relativePath front) name ≠ manifestName then
        [joinName (relativePath front) name] else []) ++ rest.sourcePaths front := by
  rw [sourcePaths, files, List.map_cons, relativePath_concat, List.filter_cons]
  split
  · next h => rw [if_pos (of_decide_eq_true h)]; rfl
  · next h => rw [if_neg (fun hkeep => h (decide_eq_true hkeep))]; rfl

theorem Entries.sourcePaths_directory (front : List Name) (name : Name)
    (children rest : Entries) :
    (Entries.directory name children rest).sourcePaths front =
      children.sourcePaths (front ++ [name]) ++ rest.sourcePaths front := by
  simp only [sourcePaths, files, List.map_append, List.map_map, List.filter_append]
  congr 3
  funext file
  simp

/-- What has been collected is the files, and everything else is a directory. -/
theorem Entries.collectFiles_eq {root : Path} {front : List Name} {entries : Entries}
    {list result : List Path} (h : entries.WellFormed)
    (hcollect : entries.collectFiles root (relativePath front) list = some result) :
    entries.Regular ∧ result = list ++ entries.sourcePaths front := by
  induction entries generalizing front list result with
  | nil =>
    cases hcollect
    exact ⟨trivial, (List.append_nil _).symm⟩
  | file name content rest ih =>
    obtain ⟨hname, -, hrest⟩ := h
    rw [collectFiles, if_neg (not_or.mpr hname.2)] at hcollect
    obtain ⟨child, hchild, hcollect⟩ := Option.bind_eq_some_iff.mp hcollect
    obtain rfl := childRelative_eq hchild
    obtain ⟨_, -, hcollect⟩ := Option.bind_eq_some_iff.mp hcollect
    rw [sourcePaths_file]
    split at hcollect
    · next hsource =>
      obtain ⟨hregular, rfl⟩ := ih hrest hcollect
      exact ⟨hregular, by rw [if_pos hsource, List.append_assoc]⟩
    · next hprovenance =>
      obtain ⟨hregular, rfl⟩ := ih hrest hcollect
      exact ⟨hregular, by rw [if_neg hprovenance, List.nil_append]⟩
  | directory name children rest ihChildren ih =>
    obtain ⟨hname, -, hchildren, hrest⟩ := h
    rw [collectFiles, if_neg (not_or.mpr hname.2)] at hcollect
    obtain ⟨child, hchild, hcollect⟩ := Option.bind_eq_some_iff.mp hcollect
    obtain rfl := childRelative_eq hchild
    obtain ⟨_, -, hcollect⟩ := Option.bind_eq_some_iff.mp hcollect
    obtain ⟨_, -, hcollect⟩ := Option.bind_eq_some_iff.mp hcollect
    obtain ⟨below, hbelow, hcollect⟩ := Option.bind_eq_some_iff.mp hcollect
    rw [← relativePath_concat] at hbelow
    obtain ⟨hregular, rfl⟩ := ihChildren hchildren hbelow
    obtain ⟨hregular', rfl⟩ := ih hrest hcollect
    exact ⟨⟨hregular, hregular'⟩, by rw [sourcePaths_directory, List.append_assoc]⟩
  | special name rest ih =>
    obtain ⟨-, -, hrest⟩ := h
    rw [collectFiles] at hcollect
    split at hcollect
    · next hdots =>
      obtain ⟨hregular, rfl⟩ := ih hrest hcollect
      exact ⟨⟨hdots, hregular⟩, rfl⟩
    · cases hcollect

/-- The path of an entry is not too long when the full path is not. -/
theorem child_fits {root relative : Path} {name : Name} (hname : EntryName name)
    (hfits : (root ++ separator :: joinName relative name).length < pathMax) :
    childRelative relative name = some (joinName relative name) ∧
      pathJoin pathMax root (joinName relative name) =
        some (root ++ separator :: joinName relative name) ∧
      directoryPath root (joinName relative name) =
        some (root ++ separator :: joinName relative name) := by
  have hjoin : pathJoin pathMax root (joinName relative name) =
      some (root ++ separator :: joinName relative name) := if_pos hfits
  have hshort : (joinName relative name).length < pathMax := by
    simp only [List.length_append, List.length_cons] at hfits
    omega
  refine ⟨?_, hjoin, ?_⟩
  · rw [childRelative]
    by_cases hempty : relative = []
    · rw [joinName, if_pos hempty] at hshort ⊢
      rw [if_pos hempty, if_pos ⟨hname.1, hshort⟩]
    · rw [joinName, if_neg hempty] at hshort ⊢
      rw [if_neg hempty]
      exact if_pos hshort
  · have hne : joinName relative name ≠ [] := by
      rw [joinName]
      split
      · exact hname.1
      · exact List.append_ne_nil_of_right_ne_nil _ (List.cons_ne_nil _ _)
    rw [directoryPath, if_neg hne, hjoin]

/-- A tree of directories and regular files is collected when its paths fit. -/
theorem Entries.collectFiles_isSome {root : Path} {front : List Name} {entries : Entries}
    (list : List Path) (h : entries.WellFormed) (hregular : entries.Regular)
    (hfits : ∀ names ∈ entries.paths,
      (root ++ separator :: relativePath (front ++ names)).length < pathMax) :
    (entries.collectFiles root (relativePath front) list).isSome = true := by
  induction entries generalizing front list with
  | nil => rfl
  | file name content rest ih =>
    obtain ⟨hname, -, hrest⟩ := h
    have hchild := hfits [name] List.mem_cons_self
    rw [relativePath_concat] at hchild
    obtain ⟨hrelative, hjoin, -⟩ := child_fits hname.1 hchild
    have hmore (list : List Path) := ih list hrest hregular fun names hnames =>
      hfits names (List.mem_cons_of_mem _ hnames)
    rw [collectFiles, if_neg (not_or.mpr hname.2), hrelative]
    simp only [bind, Option.bind_some, hjoin]
    split
    · exact hmore _
    · exact hmore _
  | directory name children rest ihChildren ih =>
    obtain ⟨hname, -, hchildren, hrest⟩ := h
    have hchild := hfits [name] List.mem_cons_self
    rw [relativePath_concat] at hchild
    obtain ⟨hrelative, hjoin, hdirectory⟩ := child_fits hname.1 hchild
    have hbelow :
        (children.collectFiles root (relativePath (front ++ [name])) list).isSome = true := by
      refine ihChildren list hchildren hregular.1 fun names hnames => ?_
      rw [List.append_assoc, List.singleton_append]
      exact hfits _ (List.mem_cons_of_mem _ (List.mem_append_left _ (List.mem_map_of_mem hnames)))
    rw [relativePath_concat] at hbelow
    obtain ⟨list', hlist'⟩ := Option.isSome_iff_exists.mp hbelow
    rw [collectFiles, if_neg (not_or.mpr hname.2), hrelative]
    simp only [bind, Option.bind_some, hjoin, hdirectory, hlist']
    exact ih list' hrest hregular.2 fun names hnames =>
      hfits names (List.mem_cons_of_mem _ (List.mem_append_right _ hnames))
  | special name rest ih =>
    obtain ⟨-, -, hrest⟩ := h
    rw [collectFiles, if_pos hregular.1]
    exact ih list hrest hregular.2 hfits

/-! ## The comparison -/

variable {leftRoot rightRoot : Path} {left right : Entries} {leftSplits rightSplits : Splits}

/-- The walk finds equal paths and equal contents. -/
theorem pairsEqual_iff {leftItems rightItems : List Path}
    (hlength : leftItems.length = rightItems.length)
    (hleft : ∀ item ∈ leftItems,
      (pathJoin pathMax leftRoot item).isSome = true ∧ (left.open item).isSome = true)
    (hright : ∀ item ∈ rightItems,
      (pathJoin pathMax rightRoot item).isSome = true ∧ (right.open item).isSome = true) :
    pairsEqual leftRoot rightRoot left right leftSplits rightSplits leftItems rightItems = true ↔
      leftItems = rightItems ∧ ∀ item ∈ leftItems, left.open item = right.open item := by
  induction leftItems generalizing rightItems with
  | nil =>
    rw [List.eq_nil_of_length_eq_zero hlength.symm]
    simp [pairsEqual]
  | cons item leftItems ih =>
    cases rightItems with
    | nil => cases hlength
    | cons item' rightItems =>
      have hrest := ih (Nat.succ.inj hlength)
        (fun other hother => hleft other (List.mem_cons_of_mem _ hother))
        (fun other hother => hright other (List.mem_cons_of_mem _ hother))
      obtain ⟨hjoin, hopen⟩ := hleft item List.mem_cons_self
      obtain ⟨hjoin', hopen'⟩ := hright item' List.mem_cons_self
      obtain ⟨leftPath, hleftPath⟩ := Option.isSome_iff_exists.mp hjoin
      obtain ⟨rightPath, hrightPath⟩ := Option.isSome_iff_exists.mp hjoin'
      obtain ⟨leftContent, hleftContent⟩ := Option.isSome_iff_exists.mp hopen
      obtain ⟨rightContent, hrightContent⟩ := Option.isSome_iff_exists.mp hopen'
      by_cases hitem : item = item'
      · subst hitem
        have hfile := filesEqual_iff (.ofContent leftContent (leftSplits leftPath))
          (.ofContent rightContent (rightSplits rightPath))
        rw [pairsEqual, if_neg (not_not.mpr rfl), hleftPath, hrightPath]
        simp only [hleftContent, hrightContent]
        by_cases hcontent : leftContent = rightContent
        · rw [hfile.mpr hcontent, Bool.not_true, if_neg Bool.false_ne_true, hrest]
          simp [hleftContent, hrightContent, hcontent]
        · rw [Bool.eq_false_iff.mpr (mt hfile.mp hcontent), Bool.not_false, if_pos rfl]
          simp [hleftContent, hrightContent, hcontent]
      · rw [pairsEqual, if_pos hitem]
        simp [hitem]

/-- The paths that are collected from the root. -/
theorem Entries.mem_sourcePaths {entries : Entries} (h : entries.WellFormed) {path : Path} :
    path ∈ entries.sourcePaths [] ↔
      ∃ file ∈ entries.files, file.1 ∉ provenanceNames ∧ relativePath file.1 = path := by
  have hprovenance {file : List Name × List UInt8} (hfile : file ∈ entries.files) :
      file.1 ∉ provenanceNames ↔
        relativePath file.1 ≠ commitName ∧ relativePath file.1 ≠ manifestName :=
    not_mem_provenanceNames (files_names h hfile).2 (files_names h hfile).1
  simp only [sourcePaths, List.nil_append, List.mem_filter, List.mem_map, decide_eq_true_eq]
  constructor
  · rintro ⟨⟨file, hfile, rfl⟩, hsource⟩
    exact ⟨file, hfile, (hprovenance hfile).mpr hsource, rfl⟩
  · rintro ⟨file, hfile, hsource, rfl⟩
    exact ⟨⟨file, hfile, rfl⟩, (hprovenance hfile).mp hsource⟩

/-- A path is collected when it is that of a file. -/
theorem Entries.relativePath_mem_sourcePaths {entries : Entries} (h : entries.WellFormed)
    {names : List Name} (hsource : names ∉ provenanceNames) (hne : names ≠ [])
    (hnames : ∀ name ∈ names, EntryName name) :
    relativePath names ∈ entries.sourcePaths [] ↔ ∃ content, (names, content) ∈ entries.files := by
  rw [mem_sourcePaths h]
  constructor
  · rintro ⟨⟨names', content⟩, hfile, -, heq⟩
    obtain ⟨hne', hnames'⟩ := files_names h hfile
    obtain rfl : names' = names := relativePath_injective hnames' hnames hne' hne heq
    exact ⟨content, hfile⟩
  · rintro ⟨content, hfile⟩
    exact ⟨(names, content), hfile, hsource, rfl⟩

theorem Entries.nodup_sourcePaths {entries : Entries} (h : entries.WellFormed) :
    (entries.sourcePaths []).Nodup := by
  refine List.Nodup.filter _ ?_
  refine (List.nodup_map_iff_inj_on (List.Nodup.of_map _ (nodup_files h))).mpr ?_
  intro file hfile file' hfile' heq
  obtain ⟨hne, hnames⟩ := files_names h hfile
  obtain ⟨hne', hnames'⟩ := files_names h hfile'
  exact List.inj_on_of_nodup_map (nodup_files h) hfile hfile'
    (relativePath_injective hnames hnames' hne hne' heq)

theorem Entries.mem_paths_of_mem_files {entries : Entries} {file : List Name × List UInt8}
    (h : file ∈ entries.files) : file.1 ∈ entries.paths := by
  induction entries generalizing file with
  | nil => exact absurd h List.not_mem_nil
  | file name content rest ih =>
    rcases List.mem_cons.mp h with rfl | h
    · exact List.mem_cons_self
    · exact List.mem_cons_of_mem _ (ih h)
  | directory name children rest ihChildren ih =>
    refine List.mem_cons_of_mem _ ?_
    rcases List.mem_append.mp h with h | h
    · obtain ⟨below, hbelow, rfl⟩ := List.mem_map.mp h
      exact List.mem_append_left _ (List.mem_map_of_mem (ihChildren hbelow))
    · exact List.mem_append_right _ (ih h)
  | special name rest ih => exact ih h

/-- A collected path can be joined to the root, and opened. -/
theorem Entries.sourcePath_opens {root : Path} {entries : Entries} (h : entries.WellFormed)
    (hfits : PathsFit root entries) {path : Path} (hpath : path ∈ entries.sourcePaths []) :
    (pathJoin pathMax root path).isSome = true ∧ (entries.open path).isSome = true := by
  obtain ⟨file, hfile, -, rfl⟩ := (mem_sourcePaths h).mp hpath
  have hjoin : pathJoin pathMax root (relativePath file.1) =
      some (root ++ separator :: relativePath file.1) :=
    if_pos (hfits.2 file.1 (mem_paths_of_mem_files hfile))
  rw [hjoin, open_relativePath h hfile]
  exact ⟨rfl, rfl⟩

/-- The same paths and what they open say the same as the same files. -/
theorem sameFiles_iff (hleft : left.WellFormed) (hright : right.WellFormed) :
    SameFiles left right ↔ (left.sourcePaths []).Perm (right.sourcePaths []) ∧
      ∀ path ∈ left.sourcePaths [], left.open path = right.open path := by
  constructor
  · rintro ⟨hpaths, hcontents⟩
    constructor
    · refine (List.perm_ext_iff_of_nodup (Entries.nodup_sourcePaths hleft)
        (Entries.nodup_sourcePaths hright)).mpr fun path => ?_
      rw [Entries.mem_sourcePaths hleft, Entries.mem_sourcePaths hright]
      constructor
      · rintro ⟨⟨names, content⟩, hfile, hsource, rfl⟩
        obtain ⟨content', hfile'⟩ := (hpaths names hsource).mp ⟨content, hfile⟩
        exact ⟨(names, content'), hfile', hsource, rfl⟩
      · rintro ⟨⟨names, content⟩, hfile, hsource, rfl⟩
        obtain ⟨content', hfile'⟩ := (hpaths names hsource).mpr ⟨content, hfile⟩
        exact ⟨(names, content'), hfile', hsource, rfl⟩
    · intro path hpath
      obtain ⟨⟨names, content⟩, hfile, hsource, rfl⟩ := (Entries.mem_sourcePaths hleft).mp hpath
      obtain ⟨content', hfile'⟩ := (hpaths names hsource).mp ⟨content, hfile⟩
      have hopen := Entries.open_relativePath hleft hfile
      have hopen' := Entries.open_relativePath hright hfile'
      simp only at hopen hopen' ⊢
      rw [hopen, hopen', hcontents names hsource content content' hfile hfile']
  · rintro ⟨hperm, hopens⟩
    refine ⟨fun names hsource => ⟨?_, ?_⟩, ?_⟩
    · rintro ⟨content, hfile⟩
      obtain ⟨hne, hnames⟩ := Entries.files_names hleft hfile
      have hpath := (Entries.relativePath_mem_sourcePaths hleft hsource hne hnames).mpr ⟨_, hfile⟩
      exact (Entries.relativePath_mem_sourcePaths hright hsource hne hnames).mp
        (hperm.mem_iff.mp hpath)
    · rintro ⟨content, hfile⟩
      obtain ⟨hne, hnames⟩ := Entries.files_names hright hfile
      have hpath := (Entries.relativePath_mem_sourcePaths hright hsource hne hnames).mpr ⟨_, hfile⟩
      exact (Entries.relativePath_mem_sourcePaths hleft hsource hne hnames).mp
        (hperm.mem_iff.mpr hpath)
    · intro names hsource content content' hfile hfile'
      have hpath := (Entries.mem_sourcePaths hleft).mpr ⟨_, hfile, hsource, rfl⟩
      have hopen := Entries.open_relativePath hleft hfile
      have hopen' := Entries.open_relativePath hright hfile'
      simp only at hopen hopen'
      rw [hopens _ hpath, hopen'] at hopen
      exact (Option.some.inj hopen).symm

/-- What the comparison of a tree that is collected starts from. -/
theorem Entries.collect_root {root : Path} {entries : Entries} (h : entries.WellFormed)
    {items : List Path}
    (hcollect : ((directoryPath root []).bind fun _ => entries.collectFiles root [] []) =
      some items) : entries.Regular ∧ items = entries.sourcePaths [] := by
  obtain ⟨_, -, hcollect⟩ := Option.bind_eq_some_iff.mp hcollect
  have hfront : entries.collectFiles root (relativePath []) [] = some items := hcollect
  exact collectFiles_eq h hfront

theorem Entries.collect_root_isSome {root : Path} {entries : Entries} (h : entries.WellFormed)
    (hregular : entries.Regular) (hfits : PathsFit root entries) :
    ((directoryPath root []).bind fun _ => entries.collectFiles root [] []) =
      some (entries.sourcePaths []) := by
  have hroot : directoryPath root [] = some root := by
    rw [directoryPath, if_pos rfl, if_pos hfits.1]
  have hsome : (entries.collectFiles root (relativePath []) []).isSome = true :=
    collectFiles_isSome [] h hregular hfits.2
  obtain ⟨items, hitems⟩ := Option.isSome_iff_exists.mp hsome
  have hcollect : ((directoryPath root []).bind fun _ => entries.collectFiles root [] []) =
      some items := by
    rw [hroot, Option.bind_some]
    exact hitems
  rw [hcollect, (collect_root h hcollect).2]

/-- **The comparison of trees is exact.** Trees of directories and regular files are reported
equal if and only if they have the same relative file paths, but for the two provenance
files, and each pair of files has the same bytes. A tree with a file of any other type is
never reported equal. -/
theorem treesEqual_exact (leftRoot rightRoot : Path) (left right : DirectoryTree)
    (leftSplits rightSplits : Splits) :
    (¬left.entries.Regular ∨ ¬right.entries.Regular →
      treesEqual leftRoot rightRoot left.entries right.entries leftSplits rightSplits = false) ∧
    (left.entries.Regular → right.entries.Regular →
      PathsFit leftRoot left.entries → PathsFit rightRoot right.entries →
      (treesEqual leftRoot rightRoot left.entries right.entries leftSplits rightSplits = true ↔
        SameFiles left.entries right.entries)) := by
  obtain ⟨left, hleft⟩ := left
  obtain ⟨right, hright⟩ := right
  simp only
  constructor
  · intro hspecial
    unfold treesEqual
    split
    · next leftItems rightItems hcollect hcollect' =>
      have hregular := (Entries.collect_root hleft hcollect).1
      have hregular' := (Entries.collect_root hright hcollect').1
      rcases hspecial with hspecial | hspecial
      · exact absurd hregular hspecial
      · exact absurd hregular' hspecial
    · rfl
  · intro hregular hregular' hfits hfits'
    have hperm (l : List Path) := List.mergeSort_perm l comparePaths
    have hpairs (hlength : (left.sourcePaths []).length = (right.sourcePaths []).length) :
        pairsEqual leftRoot rightRoot left right leftSplits rightSplits
            ((left.sourcePaths []).mergeSort comparePaths)
            ((right.sourcePaths []).mergeSort comparePaths) = true ↔ _ :=
      pairsEqual_iff
        (((hperm (left.sourcePaths [])).length_eq.trans hlength).trans
          (hperm (right.sourcePaths [])).length_eq.symm)
        (fun item hitem => Entries.sourcePath_opens hleft hfits ((hperm _).mem_iff.mp hitem))
        (fun item hitem => Entries.sourcePath_opens hright hfits' ((hperm _).mem_iff.mp hitem))
    simp only [treesEqual, Entries.collect_root_isSome hleft hregular hfits,
      Entries.collect_root_isSome hright hregular' hfits']
    rw [sameFiles_iff hleft hright]
    by_cases hlength : (left.sourcePaths []).length = (right.sourcePaths []).length
    · rw [if_neg (not_not.mpr hlength), hpairs hlength, mergeSort_eq_iff]
      refine and_congr_right fun _ => ⟨fun h path hpath => ?_, fun h path hpath => ?_⟩
      · exact h path ((hperm _).mem_iff.mpr hpath)
      · exact h path ((hperm _).mem_iff.mp hpath)
    · rw [if_pos hlength]
      refine ⟨fun h => absurd h Bool.false_ne_true, fun h => ?_⟩
      exact absurd h.1.length_eq hlength

end SystemSettings

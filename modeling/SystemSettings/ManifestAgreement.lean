import Mathlib.Data.List.Nodup
import SystemSettings.CommonManifest

/-!
# The writer and the verifier of the manifest agree

Both name a file by the path of its names, and these paths can be read back. So
the manifest of a tree is accepted with another tree exactly when both have the
same files, as far as SHA-256 can tell.
-/

namespace SystemSettings

/-! ## The files of a tree -/

theorem Listing.mem_names_of_mem_files {listing : Listing} {name : Name} {names : List Name}
    {content : List UInt8} (h : (name :: names, content) ∈ listing.files) :
    name ∈ listing.names := by
  induction listing with
  | nil => exact absurd h List.not_mem_nil
  | file other _ rest ih =>
    rcases List.mem_cons.mp h with heq | h
    · cases heq
      exact List.mem_cons_self
    · exact List.mem_cons_of_mem _ (ih h)
  | directory other children rest _ ih =>
    rcases List.mem_append.mp h with h | h
    · obtain ⟨file, _, heq⟩ := List.mem_map.mp h
      cases heq
      exact List.mem_cons_self
    · exact List.mem_cons_of_mem _ (ih h)

theorem Listing.entry_eq_none {listing : Listing} {name : Name} (h : name ∉ listing.names) :
    listing.entry name = none := by
  induction listing with
  | nil => rfl
  | file other _ rest ih =>
    rw [names, List.mem_cons, not_or] at h
    rw [entry, if_neg fun heq => h.1 heq.symm, ih h.2]
  | directory other _ rest _ ih =>
    rw [names, List.mem_cons, not_or] at h
    rw [entry, if_neg fun heq => h.1 heq.symm, ih h.2]

/-- No file is the directory itself. -/
theorem Listing.ne_nil_of_mem_files {listing : Listing} {file : List Name × List UInt8}
    (h : file ∈ listing.files) : file.1 ≠ [] := by
  induction listing with
  | nil => exact absurd h List.not_mem_nil
  | file name content rest ih =>
    rcases List.mem_cons.mp h with rfl | h
    · nofun
    · exact ih h
  | directory name children rest _ ih =>
    rcases List.mem_append.mp h with h | h
    · obtain ⟨below, _, rfl⟩ := List.mem_map.mp h
      nofun
    · exact ih h

/-- The files are what the names can be opened as. -/
theorem Listing.mem_files_iff {listing : Listing} (h : listing.WellFormed) {name : Name}
    {names : List Name} {content : List UInt8} :
    (name :: names, content) ∈ listing.files ↔
      listing.open (name :: names) = some (.file content) := by
  induction listing generalizing name names with
  | nil => exact ⟨fun hmem => absurd hmem List.not_mem_nil, nofun⟩
  | file other content' rest ih =>
    obtain ⟨-, hnotin, hrest⟩ := h
    rw [files, List.mem_cons, ih hrest, Listing.open, Listing.open, entry]
    by_cases heq : other = name
    · subst heq
      rw [if_pos rfl, entry_eq_none hnotin]
      cases names <;> simp [eq_comm]
    · rw [if_neg heq]
      simp [Ne.symm heq]
  | directory other children rest ihChildren ih =>
    obtain ⟨-, hnotin, hchildren, hrest⟩ := h
    rw [files, List.mem_append, ih hrest, Listing.open, Listing.open, entry]
    by_cases heq : other = name
    · subst heq
      rw [if_pos rfl, entry_eq_none hnotin]
      cases names with
      | nil =>
        simp only [Listing.open, Option.some.injEq, reduceCtorEq, or_false, iff_false]
        intro hmem
        obtain ⟨below, hbelow, hnames⟩ := List.mem_map.mp hmem
        simp only [Prod.mk.injEq, List.cons.injEq, true_and] at hnames
        exact ne_nil_of_mem_files hbelow hnames.1
      | cons first names =>
        rw [← ihChildren hchildren]
        simp
    · rw [if_neg heq]
      simp [heq]

theorem Listing.sourceName {listing : Listing} (h : listing.WellFormed)
    {file : List Name × List UInt8} (hfile : file ∈ listing.files) :
    ∀ name ∈ file.1, SourceName name := by
  induction listing generalizing file with
  | nil => exact absurd hfile List.not_mem_nil
  | file name content rest ih =>
    obtain ⟨hname, -, hrest⟩ := h
    rcases List.mem_cons.mp hfile with rfl | hfile
    · intro other hother
      rwa [List.mem_singleton.mp hother]
    · exact ih hrest hfile
  | directory name children rest ihChildren ih =>
    obtain ⟨hname, -, hchildren, hrest⟩ := h
    rcases List.mem_append.mp hfile with hfile | hfile
    · obtain ⟨below, hbelow, rfl⟩ := List.mem_map.mp hfile
      intro other hother
      rcases List.mem_cons.mp hother with rfl | hother
      · exact hname
      · exact ihChildren hchildren hbelow other hother
    · exact ih hrest hfile

theorem Listing.nodup_files {listing : Listing} (h : listing.WellFormed) :
    (listing.files.map (·.1)).Nodup := by
  induction listing with
  | nil => exact List.nodup_nil
  | file name content rest ih =>
    obtain ⟨-, hnotin, hrest⟩ := h
    rw [files, List.map_cons, List.nodup_cons]
    refine ⟨fun hmem => hnotin ?_, ih hrest⟩
    obtain ⟨⟨_, content'⟩, hfile, rfl⟩ := List.mem_map.mp hmem
    exact mem_names_of_mem_files hfile
  | directory name children rest ihChildren ih =>
    obtain ⟨-, hnotin, hchildren, hrest⟩ := h
    rw [files, List.map_append, List.map_map, List.nodup_append]
    refine ⟨?_, ih hrest, ?_⟩
    · have hcons : (children.files.map (·.1)).map (name :: ·) =
          children.files.map ((·.1) ∘ fun file => (name :: file.1, file.2)) := by
        rw [List.map_map]
        rfl
      rw [← hcons]
      exact List.Nodup.map (fun _ _ heq => (List.cons.inj heq).2) (ihChildren hchildren)
    · rintro names hnames _ hnames' rfl
      obtain ⟨below, _, rfl⟩ := List.mem_map.mp hnames
      obtain ⟨⟨_, content'⟩, hfile, heq⟩ := List.mem_map.mp hnames'
      simp only [Function.comp_apply] at heq
      subst heq
      exact hnotin (mem_names_of_mem_files hfile)

/-! ## Both list the same paths -/

/-- The paths of the files, but for the two provenance files. -/
def Listing.sourcePaths (listing : Listing) : List Path :=
  (globRecurse [] listing).filter fun path => path ≠ commitName ∧ path ≠ manifestName

theorem globRecurse_file (relative : Path) (name : Name) (content : List UInt8) (rest : Listing) :
    globRecurse relative (.file name content rest) =
      joinName relative name :: globRecurse relative rest := rfl

theorem globRecurse_directory (relative : Path) (name : Name) (children rest : Listing) :
    globRecurse relative (.directory name children rest) =
      globRecurse (joinName relative name) children ++ globRecurse relative rest := rfl

theorem globRecurse_relativePath (front : List Name) {listing : Listing}
    (hfront : ∀ name ∈ front, EntryName name) (h : listing.WellFormed) :
    globRecurse (relativePath front) listing =
      listing.files.map fun file => relativePath (front ++ file.1) := by
  induction listing generalizing front with
  | nil => rfl
  | file name content rest ih =>
    obtain ⟨-, -, hrest⟩ := h
    rw [globRecurse_file, Listing.files, List.map_cons, relativePath_concat, ih front hfront hrest]
  | directory name children rest ihChildren ih =>
    obtain ⟨hname, -, hchildren, hrest⟩ := h
    have hmore : ∀ other ∈ front ++ [name], EntryName other := by
      intro other hother
      rcases List.mem_append.mp hother with hother | hother
      · exact hfront other hother
      · rw [List.mem_singleton.mp hother]
        exact hname.1.1
    rw [globRecurse_directory, Listing.files, List.map_append, List.map_map,
      ← relativePath_concat, ihChildren _ hmore hchildren, ih front hfront hrest]
    simp [Function.comp_def]

theorem Listing.entryName {listing : Listing} (h : listing.WellFormed)
    {file : List Name × List UInt8} (hfile : file ∈ listing.files) :
    ∀ name ∈ file.1, EntryName name :=
  fun name hname => (sourceName h hfile name hname).1.1

theorem not_mem_provenanceNames {names : List Name} (h : ∀ name ∈ names, EntryName name)
    (hne : names ≠ []) :
    names ∉ provenanceNames ↔
      relativePath names ≠ commitName ∧ relativePath names ≠ manifestName := by
  have hsingle (name : Name) (hname : EntryName name) :
      names = [name] ↔ relativePath names = name := by
    refine ⟨fun heq => heq ▸ rfl, fun heq => ?_⟩
    refine relativePath_injective h (fun other hother => ?_) hne (List.cons_ne_nil _ _) heq
    rwa [List.mem_singleton.mp hother]
  have hcommit : EntryName commitName := ⟨by decide, by decide⟩
  have hmanifest : EntryName manifestName := ⟨by decide, by decide⟩
  simp only [provenanceNames, List.mem_cons, List.not_mem_nil, or_false, not_or,
    hsingle _ hcommit, hsingle _ hmanifest, ne_eq]

/-- The paths of the files, in terms of their names. -/
theorem Listing.sourcePaths_eq {listing : Listing} (h : listing.WellFormed) :
    listing.sourcePaths = (listing.files.filter fun file => file.1 ∉ provenanceNames).map
      fun file => relativePath file.1 := by
  have hglob := globRecurse_relativePath [] nofun h
  rw [relativePath_nil] at hglob
  rw [sourcePaths, hglob, List.filter_map]
  refine congrArg (List.map _) (List.filter_congr fun file hfile => ?_)
  rw [Function.comp_apply, List.nil_append, decide_eq_decide]
  exact (not_mem_provenanceNames (entryName h hfile) (ne_nil_of_mem_files hfile)).symm

theorem Listing.nodup_sourcePaths {listing : Listing} (h : listing.WellFormed) :
    listing.sourcePaths.Nodup := by
  have hnodup : (listing.files.filter fun file => file.1 ∉ provenanceNames).Pairwise
      fun file file' => file.1 ≠ file'.1 :=
    (List.pairwise_map.mp (nodup_files h)).filter _
  rw [sourcePaths_eq h, List.Nodup, List.pairwise_map]
  refine hnodup.imp_of_mem fun hfile hfile' hne heq => hne ?_
  have hmem := (List.mem_filter.mp hfile).1
  have hmem' := (List.mem_filter.mp hfile').1
  exact relativePath_injective (entryName h hmem) (entryName h hmem') (ne_nil_of_mem_files hmem)
    (ne_nil_of_mem_files hmem') heq

theorem childRelative_eq {relative : Path} {name : Name} {child : Path}
    (h : childRelative relative name = some child) : child = joinName relative name := by
  rw [childRelative] at h
  rw [joinName]
  split at h
  · next hnil =>
    obtain ⟨-, heq⟩ := Option.ite_none_right_eq_some.mp h
    cases heq
    rw [if_pos hnil]
  · next hne =>
    obtain ⟨-, heq⟩ := Option.ite_none_right_eq_some.mp h
    cases heq
    rw [if_neg hne]

/-- `collect_files` lists what `file(GLOB_RECURSE)` lists. -/
theorem collectFiles_eq {root relative : Path} {listing : Listing} {list result : List Path}
    (h : listing.WellFormed) (hcollect : collectFiles root relative listing list = some result) :
    result = list ++ (globRecurse relative listing).filter fun path =>
      path ≠ commitName ∧ path ≠ manifestName := by
  induction listing generalizing relative list result with
  | nil =>
    cases hcollect
    simp [globRecurse]
  | file name content rest ih =>
    obtain ⟨hname, -, hrest⟩ := h
    rw [collectFiles, if_neg (not_or.mpr hname.1.2)] at hcollect
    obtain ⟨child, hchild, hcollect⟩ := Option.bind_eq_some_iff.mp hcollect
    obtain rfl := childRelative_eq hchild
    obtain ⟨_, -, hcollect⟩ := Option.bind_eq_some_iff.mp hcollect
    split at hcollect
    · next hsource =>
      rw [ih hrest hcollect, globRecurse_file, List.filter_cons_of_pos, List.append_assoc]
      · rfl
      · exact decide_eq_true hsource
    · next hprovenance =>
      rw [ih hrest hcollect, globRecurse_file, List.filter_cons_of_neg]
      exact fun hkeep => hprovenance (of_decide_eq_true hkeep)
  | directory name children rest ihChildren ih =>
    obtain ⟨hname, -, hchildren, hrest⟩ := h
    rw [collectFiles, if_neg (not_or.mpr hname.1.2)] at hcollect
    obtain ⟨child, hchild, hcollect⟩ := Option.bind_eq_some_iff.mp hcollect
    obtain rfl := childRelative_eq hchild
    obtain ⟨_, -, hcollect⟩ := Option.bind_eq_some_iff.mp hcollect
    obtain ⟨below, hbelow, hcollect⟩ := Option.bind_eq_some_iff.mp hcollect
    rw [ih hrest hcollect, ihChildren hchildren hbelow, globRecurse_directory, List.filter_append,
      List.append_assoc]

/-! ## The lines are read back -/

/-- The text that SHA-256 is written as. -/
def IsDigest (digest : List UInt8) : Prop :=
  digest.length = 64 ∧ ∀ b ∈ digest, isDigit b = true ∨ 97 ≤ b ∧ b ≤ 102

theorem isHexDigit_of_digest {b : UInt8} (h : isDigit b = true ∨ 97 ≤ b ∧ b ≤ 102) :
    isHexDigit b = true := by
  simp only [isHexDigit, Bool.or_eq_true, Bool.and_eq_true, decide_eq_true_eq]
  exact .inl h

theorem IsDigest.matchesHex {digest : List UInt8} (h : IsDigest digest) :
    matchesHex digest = true := by
  have hne : digest ≠ [] := fun hnil => by simpa [hnil] using h.1
  simp only [SystemSettings.matchesHex, Bool.and_eq_true, decide_eq_true_eq, List.all_eq_true]
  exact ⟨hne, fun b hb => isHexDigit_of_digest (h.2 b hb)⟩

theorem captureOutput_append {digest : List UInt8} (h : IsDigest digest) (rest : List UInt8) :
    ∃ tail, captureOutput 256 (digest ++ rest) = digest ++ tail := by
  have hblank : digest.reverse.dropWhile isTrailingBlank = digest.reverse := by
    cases hreverse : digest.reverse with
    | nil => rfl
    | cons b front =>
      have hb := h.2 b (by rw [← List.mem_reverse, hreverse]; exact List.mem_cons_self)
      refine List.dropWhile_cons_of_neg fun hblank => ?_
      simp only [isTrailingBlank, Bool.or_eq_true, decide_eq_true_eq] at hblank
      rcases hblank with ((rfl | rfl) | rfl) | rfl <;> revert hb <;> decide
  rw [captureOutput, List.take_append, h.1, List.take_of_length_le (by rw [h.1]; decide),
    List.reverse_append, List.dropWhile_append]
  split
  · exact ⟨[], by rw [hblank, List.reverse_reverse, List.append_nil]⟩
  · exact ⟨_, by rw [List.reverse_append, List.reverse_reverse]⟩

theorem toLower_of_digest {b : UInt8} (h : isDigit b = true ∨ 97 ≤ b ∧ b ≤ 102) :
    toLower b = b := by
  refine if_neg fun hupper => ?_
  simp only [isDigit, Bool.and_eq_true, decide_eq_true_eq, UInt8.le_iff_toNat_le] at h hupper
  have h97 : (97 : UInt8).toNat = 97 := rfl
  have h65 : (65 : UInt8).toNat = 65 := rfl
  have h90 : (90 : UInt8).toNat = 90 := rfl
  omega

variable {sha256 : List UInt8 → List UInt8}

theorem sha256File_eq (hsha : ∀ content, IsDigest (sha256 content)) (path : Path)
    (content : List UInt8) : sha256File sha256 path content = some (sha256 content) := by
  have hdigest := hsha content
  obtain ⟨tail, htail⟩ := captureOutput_append hdigest (bytes "  " ++ path ++ [10])
  have hline : sha256sumLine sha256 path content =
      sha256 content ++ (bytes "  " ++ path ++ [10]) := by
    simp only [sha256sumLine, List.append_assoc]
  have htake : (sha256 content ++ tail).take 64 = sha256 content := by
    rw [← hdigest.1, List.take_left]
  have hlower : (sha256 content).map toLower = sha256 content := by
    have hid : (sha256 content).map toLower = (sha256 content).map id :=
      List.map_congr_left fun b hb => toLower_of_digest (hdigest.2 b hb)
    rw [hid, List.map_id]
  simp only [sha256File, hline, htail, htake, hlower]
  refine if_pos ⟨by rw [List.length_append, hdigest.1]; omega, ?_⟩
  exact List.all_eq_true.mpr fun b hb => isHexDigit_of_digest (hdigest.2 b hb)

/-- The line of a file, without its end. -/
def manifestLine (sha256 : List UInt8 → List UInt8) (listing : Listing) (path : Path) :
    List UInt8 :=
  sha256 ((listing.read path).getD []) ++ bytes "  " ++ path

theorem manifestLines_eq (hsha : ∀ content, IsDigest (sha256 content)) {root : Path}
    {listing : Listing} {paths : List Path} {text : List UInt8}
    (h : manifestLines sha256 root listing paths = some text) :
    text = (paths.map (manifestLine sha256 listing)).flatMap (· ++ [10]) := by
  induction paths generalizing text with
  | nil => cases h; rfl
  | cons path paths ih =>
    obtain ⟨filePath, -, h⟩ := Option.bind_eq_some_iff.mp h
    obtain ⟨content, hcontent, h⟩ := Option.bind_eq_some_iff.mp h
    obtain ⟨hash, hhash, h⟩ := Option.bind_eq_some_iff.mp h
    obtain ⟨rest, hrest, h⟩ := Option.bind_eq_some_iff.mp h
    rw [sha256File_eq hsha] at hhash
    cases hhash
    rw [← Option.some.inj h, ih hrest, List.map_cons, List.flatMap_cons, manifestLine, hcontent]
    rfl

/-- A byte that `file(STRINGS)` keeps in a line. -/
def IsLineByte (b : UInt8) : Prop := isStringByte b = true ∧ b ≠ 13 ∧ b ≠ 10

theorem foldl_stringsStep_line {line : List UInt8} (h : ∀ b ∈ line, IsLineByte b)
    (strings : List (List UInt8)) (current : List UInt8) :
    line.foldl stringsStep (strings, current) = (strings, current ++ line) := by
  induction line generalizing current with
  | nil => simp
  | cons b line ih =>
    obtain ⟨hstring, hcr, hlf⟩ := h b List.mem_cons_self
    have hstep : stringsStep (strings, current) b = (strings, current ++ [b]) := by
      rw [stringsStep, if_neg hcr, if_neg hlf, if_pos hstring]
    rw [List.foldl_cons, hstep, ih fun other hother => h other (List.mem_cons_of_mem _ hother)]
    simp

/-- The strings of a file of lines are its lines. -/
theorem fileStrings_lines {lines : List (List UInt8)}
    (h : ∀ line ∈ lines, ∀ b ∈ line, IsLineByte b) :
    fileStrings (lines.flatMap (· ++ [10])) = lines := by
  have hfold (strings : List (List UInt8)) :
      (lines.flatMap (· ++ [10])).foldl stringsStep (strings, []) = (strings ++ lines, []) := by
    induction lines generalizing strings with
    | nil => simp
    | cons line lines ih =>
      have hline : (line ++ [10]).foldl stringsStep (strings, []) = (strings ++ [line], []) := by
        rw [List.foldl_append, foldl_stringsStep_line (h line List.mem_cons_self)]
        rfl
      rw [List.flatMap_cons, List.foldl_append, hline,
        ih fun other hother => h other (List.mem_cons_of_mem _ hother)]
      simp
  simp only [fileStrings, hfold, List.nil_append, if_true]

theorem SourceName.isLineByte {names : List Name} (h : ∀ name ∈ names, SourceName name) {b : UInt8}
    (hb : b ∈ relativePath names) : IsLineByte b ∧ b ≠ 59 := by
  rcases mem_relativePath hb with rfl | ⟨name, hname, hb⟩
  · exact ⟨⟨by decide, by decide, by decide⟩, by decide⟩
  · obtain ⟨hlow, hhigh, hlist⟩ := (h name hname).2 b hb
    refine ⟨⟨?_, ?_, ?_⟩, ?_⟩
    · simp only [isStringByte, Bool.or_eq_true, Bool.and_eq_true, decide_eq_true_eq]
      exact .inl ⟨hlow, hhigh⟩
    · rintro rfl
      exact absurd hlow (by decide)
    · rintro rfl
      exact absurd hlow (by decide)
    · rintro rfl
      exact hlist (by decide)

theorem isLineByte_of_digest {b : UInt8} (h : isDigit b = true ∨ 97 ≤ b ∧ b ≤ 102) :
    IsLineByte b := by
  simp only [isDigit, Bool.and_eq_true, decide_eq_true_eq, UInt8.le_iff_toNat_le] at h
  have h97 : (97 : UInt8).toNat = 97 := rfl
  have h102 : (102 : UInt8).toNat = 102 := rfl
  refine ⟨?_, ?_, ?_⟩
  · simp only [isStringByte, Bool.or_eq_true, Bool.and_eq_true, decide_eq_true_eq,
      UInt8.le_iff_toNat_le]
    have h32 : (32 : UInt8).toNat = 32 := rfl
    have h126 : (126 : UInt8).toNat = 126 := rfl
    omega
  · rintro rfl
    have h13 : (13 : UInt8).toNat = 13 := rfl
    omega
  · rintro rfl
    have h10 : (10 : UInt8).toNat = 10 := rfl
    omega

theorem isLineByte_manifestLine (hsha : ∀ content, IsDigest (sha256 content)) {listing : Listing}
    {names : List Name} (h : ∀ name ∈ names, SourceName name) :
    ∀ b ∈ manifestLine sha256 listing (relativePath names), IsLineByte b := by
  intro b hb
  rcases List.mem_append.mp hb with hb | hb
  · rcases List.mem_append.mp hb with hb | hb
    · exact isLineByte_of_digest ((hsha _).2 b hb)
    · have hspace : b = 32 := by
        have hbytes : bytes "  " = [32, 32] := by decide
        simpa [hbytes] using hb
      rw [hspace]
      exact ⟨by decide, by decide, by decide⟩
  · exact (SourceName.isLineByte h hb).1

/-- The line of a path is accepted with another tree that has a file there with equal SHA-256. -/
theorem verifyLine_manifestLine (hsha : ∀ content, IsDigest (sha256 content)) {listing : Listing}
    {tree : SourceTree} {names : List Name} (hplain : ∀ name ∈ names, PlainName name)
    (hne : names ≠ []) {result : Path} :
    verifyLine sha256 tree (manifestLine sha256 listing (relativePath names)) = some result ↔
      result = relativePath names ∧ ∃ content, tree.listing.read (relativePath names) = some content ∧
        sha256 content = sha256 ((listing.read (relativePath names)).getD []) := by
  have hentry : ∀ name ∈ names, EntryName name := fun name hname => (hplain name hname).1
  have hpath := relativePath_ne_nil hentry hne
  have hdigest := hsha ((listing.read (relativePath names)).getD [])
  have hspaces : (bytes "  ").length = 2 := by decide
  have htake : (manifestLine sha256 listing (relativePath names)).take 64 =
      sha256 ((listing.read (relativePath names)).getD []) := by
    rw [manifestLine, List.append_assoc, ← hdigest.1, List.take_left]
  have hdrop : (manifestLine sha256 listing (relativePath names)).drop 64 =
      bytes "  " ++ relativePath names := by
    rw [manifestLine, List.append_assoc, ← hdigest.1, List.drop_left]
  have hseparator : (bytes "  " ++ relativePath names).take 2 = bytes "  " := by
    rw [← hspaces, List.take_left]
  have hrest : (manifestLine sha256 listing (relativePath names)).drop 66 = relativePath names := by
    rw [show 66 = 64 + 2 from rfl, ← List.drop_drop, hdrop, ← hspaces, List.drop_left]
  have hlength : ¬ (manifestLine sha256 listing (relativePath names)).length < 67 := by
    have hpos := List.length_pos_of_ne_nil hpath
    rw [manifestLine, List.length_append, List.length_append, hdigest.1, hspaces]
    omega
  have hparent : dotDot ∉ (relativePath names).splitOn separator := by
    rw [splitOn_relativePath hentry hne]
    exact fun hmem => (hplain _ hmem).2.2 rfl
  simp only [verifyLine, if_neg hlength, htake, hdrop, hseparator, hrest, hdigest.matchesHex, hpath,
    hparent]
  cases tree.listing.read (relativePath names) with
  | none => simp
  | some content =>
    by_cases hsame : sha256 content = sha256 ((listing.read (relativePath names)).getD [])
    · simp [hsame, eq_comm]
    · simp [hsame]

theorem mapM_eq_some_iff {α β : Type} {f : α → β} {g : β → Option α} {P : α → Prop}
    {items result : List α} (h : ∀ a ∈ items, ∀ b, g (f a) = some b ↔ b = a ∧ P a) :
    (items.map f).mapM g = some result ↔ result = items ∧ ∀ a ∈ items, P a := by
  induction items generalizing result with
  | nil => simp [eq_comm]
  | cons a items ih =>
    have hrest (rest : List α) := @ih rest fun b hb => h b (List.mem_cons_of_mem _ hb)
    rw [List.map_cons, List.mapM_cons]
    simp only [bind, pure, Option.bind_eq_some_iff, h a List.mem_cons_self, hrest,
      Option.some.injEq, List.forall_mem_cons]
    constructor
    · rintro ⟨_, ⟨rfl, ha⟩, _, ⟨rfl, hitems⟩, rfl⟩
      exact ⟨rfl, ha, hitems⟩
    · rintro ⟨rfl, ha, hitems⟩
      exact ⟨a, ⟨rfl, ha⟩, items, ⟨rfl, hitems⟩, rfl⟩

/-! ## The sorted lists are compared as text -/

theorem comparePaths_total (a b : Path) : (comparePaths a b || comparePaths b a) = true := by
  induction a generalizing b with
  | nil => rfl
  | cons x a ih =>
    cases b with
    | nil => rfl
    | cons y b =>
      have hrest := ih b
      simp only [comparePaths, Bool.or_eq_true, Bool.and_eq_true, decide_eq_true_eq, beq_iff_eq,
        UInt8.lt_iff_toNat_lt, ← UInt8.toNat_inj] at hrest ⊢
      rcases Nat.lt_trichotomy x.toNat y.toNat with hlt | heq | hlt
      · exact .inl (.inl hlt)
      · exact hrest.imp (fun h => .inr ⟨heq, h⟩) fun h => .inr ⟨heq.symm, h⟩
      · exact .inr (.inl hlt)

theorem comparePaths_antisymm {a b : Path} (hab : comparePaths a b = true)
    (hba : comparePaths b a = true) : a = b := by
  induction a generalizing b with
  | nil =>
    cases b with
    | nil => rfl
    | cons y b => cases hba
  | cons x a ih =>
    cases b with
    | nil => cases hab
    | cons y b =>
      simp only [comparePaths, Bool.or_eq_true, Bool.and_eq_true, decide_eq_true_eq, beq_iff_eq,
        UInt8.lt_iff_toNat_lt] at hab hba
      rcases hab with hlt | ⟨rfl, hab⟩
      · rcases hba with hlt' | ⟨rfl, -⟩ <;> omega
      · rcases hba with hlt' | ⟨-, hba⟩
        · omega
        · rw [ih hab hba]

theorem comparePaths_trans (a b c : Path) (hab : comparePaths a b = true)
    (hbc : comparePaths b c = true) : comparePaths a c = true := by
  induction a generalizing b c with
  | nil => rfl
  | cons x a ih =>
    cases b with
    | nil => cases hab
    | cons y b =>
      cases c with
      | nil => cases hbc
      | cons z c =>
        have hrest := ih b c
        simp only [comparePaths, Bool.or_eq_true, Bool.and_eq_true, decide_eq_true_eq, beq_iff_eq,
          UInt8.lt_iff_toNat_lt, ← UInt8.toNat_inj] at hab hbc hrest ⊢
        rcases hab with hlt | ⟨heq, hab⟩
        · rcases hbc with hlt' | ⟨heq', -⟩ <;> exact .inl (by omega)
        · rcases hbc with hlt' | ⟨heq', hbc⟩
          · exact .inl (by omega)
          · exact .inr ⟨heq.trans heq', hrest hab hbc⟩

/-- Sorted lists are equal when they have the same items. -/
theorem mergeSort_eq_iff {paths paths' : List Path} :
    paths.mergeSort comparePaths = paths'.mergeSort comparePaths ↔ paths.Perm paths' := by
  have hsorted (l : List Path) : (l.mergeSort comparePaths).Pairwise fun a b => comparePaths a b :=
    List.pairwise_mergeSort comparePaths_trans comparePaths_total l
  have hperm (l : List Path) := List.mergeSort_perm l comparePaths
  constructor
  · intro heq
    exact (hperm paths).symm.trans (heq ▸ hperm paths')
  · intro h
    exact ((hperm paths).trans (h.trans (hperm paths').symm)).eq_of_pairwise
      (fun _ _ _ _ => comparePaths_antisymm) (hsorted paths) (hsorted paths')

/-- The text of a list says what its items are. -/
theorem listValue_inj {paths paths' : List Path} (h : ∀ path ∈ paths, path ≠ [] ∧ 59 ∉ path)
    (h' : ∀ path ∈ paths', path ≠ [] ∧ 59 ∉ path) :
    listValue paths = listValue paths' ↔ paths = paths' := by
  have hitems (items : List Path) (hitem : ∀ path ∈ items, path ≠ [] ∧ 59 ∉ path) :
      ((listValue items).splitOn 59).filter (· ≠ []) = items := by
    cases items with
    | nil => rfl
    | cons path items =>
      rw [listValue, List.splitOn_intercalate 59 (fun item hmem => (hitem item hmem).2)
        (List.cons_ne_nil _ _)]
      exact List.filter_eq_self.mpr fun item hmem => decide_eq_true (hitem item hmem).1
  refine ⟨fun heq => ?_, fun heq => heq ▸ rfl⟩
  rw [← hitems paths h, heq, hitems paths' h']

/-! ## The manifest of a tree and another tree -/

/-- What is known of a path of a tree. -/
theorem Listing.sourcePath_cases {listing : Listing} (h : listing.WellFormed) {path : Path}
    (hpath : path ∈ listing.sourcePaths) :
    ∃ name names content, (name :: names, content) ∈ listing.files ∧
      name :: names ∉ provenanceNames ∧ path = relativePath (name :: names) ∧
      (∀ part ∈ name :: names, SourceName part) ∧ listing.read path = some content := by
  rw [sourcePaths_eq h] at hpath
  obtain ⟨⟨names, content⟩, hfile, rfl⟩ := List.mem_map.mp hpath
  obtain ⟨hmem, hsource⟩ := List.mem_filter.mp hfile
  cases names with
  | nil => exact absurd rfl (ne_nil_of_mem_files hmem)
  | cons name names =>
    refine ⟨name, names, content, hmem, of_decide_eq_true hsource, rfl, sourceName h hmem, ?_⟩
    rw [read, pathNames_relativePath (entryName h hmem) (List.cons_ne_nil _ _),
      (mem_files_iff h).mp hmem]

theorem Listing.relativePath_mem_sourcePaths {listing : Listing} (h : listing.WellFormed)
    {names : List Name} (hnames : names ∉ provenanceNames)
    (hentry : ∀ name ∈ names, EntryName name) (hne : names ≠ []) :
    relativePath names ∈ listing.sourcePaths ↔ ∃ content, (names, content) ∈ listing.files := by
  rw [sourcePaths_eq h, List.mem_map]
  constructor
  · rintro ⟨⟨names', content⟩, hfile, heq⟩
    have hmem := (List.mem_filter.mp hfile).1
    obtain rfl : names' = names :=
      relativePath_injective (entryName h hmem) hentry (ne_nil_of_mem_files hmem) hne heq
    exact ⟨content, hmem⟩
  · rintro ⟨content, hmem⟩
    exact ⟨(names, content), List.mem_filter.mpr ⟨hmem, decide_eq_true hnames⟩, rfl⟩

theorem Listing.read_relativePath {listing : Listing} (h : listing.WellFormed) {names : List Name}
    {content : List UInt8} (hentry : ∀ name ∈ names, EntryName name) (hne : names ≠ []) :
    listing.read (relativePath names) = some content ↔ (names, content) ∈ listing.files := by
  cases names with
  | nil => exact absurd rfl hne
  | cons name names =>
    rw [mem_files_iff h, read, pathNames_relativePath hentry hne]
    split
    · next heq => rw [heq, Option.some.injEq, Option.some.injEq, TreeEntry.file.injEq]
    · next hother => exact ⟨nofun, fun heq => absurd heq (hother content)⟩

/-- What a manifest is made of. -/
theorem writeCommonManifest_eq (hsha : ∀ content, IsDigest (sha256 content)) {root : Path}
    {source : SourceTree} {manifest : List UInt8}
    (h : writeCommonManifest sha256 root source = some manifest) :
    ∃ paths : List Path, paths.Perm source.listing.sourcePaths ∧
      manifest = (paths.map (manifestLine sha256 source.listing)).flatMap (· ++ [10]) := by
  obtain ⟨list, hlist, h⟩ := Option.bind_eq_some_iff.mp h
  obtain ⟨_, -, h⟩ := Option.bind_eq_some_iff.mp h
  have hlines : manifestLines sha256 root source.listing (list.mergeSort comparePaths) =
      some manifest := by
    split at h
    · cases h
    · exact h
  refine ⟨_, ?_, manifestLines_eq hsha hlines⟩
  have hcollected : list = source.listing.sourcePaths := by
    rw [collectFiles_eq source.wellFormed hlist, List.nil_append]
    rfl
  exact hcollected ▸ List.mergeSort_perm _ _

/-- The verifier accepts a manifest exactly when each line is right and the paths are the same. -/
theorem verifyCommon_lines (hsha : ∀ content, IsDigest (sha256 content)) {source tree : SourceTree}
    {paths : List Path} (hpaths : paths.Perm source.listing.sourcePaths) (hne : paths ≠ [])
    {marker : List UInt8} (hmarker : tree.listing.open [commitName] = some (.file marker))
    (hvalid : validMarker marker = true)
    (hcarries : tree.listing.open [manifestName] =
      some (.file ((paths.map (manifestLine sha256 source.listing)).flatMap (· ++ [10])))) :
    verifyCommon sha256 tree = true ↔
      (∀ path ∈ paths, ∃ content, tree.listing.read path = some content ∧
        sha256 content = sha256 ((source.listing.read path).getD [])) ∧
      tree.listing.sourcePaths.Perm paths := by
  have hcases (path : Path) (hpath : path ∈ paths) :=
    Listing.sourcePath_cases source.wellFormed (hpaths.mem_iff.mp hpath)
  have hstrings : fileStrings ((paths.map (manifestLine sha256 source.listing)).flatMap
      (· ++ [10])) = paths.map (manifestLine sha256 source.listing) := by
    refine fileStrings_lines fun line hline => ?_
    obtain ⟨path, hpath, rfl⟩ := List.mem_map.mp hline
    obtain ⟨name, names, _, _, _, rfl, hsource, _⟩ := hcases path hpath
    exact isLineByte_manifestLine hsha hsource
  have hlines (result : List Path) :
      (paths.map (manifestLine sha256 source.listing)).mapM (verifyLine sha256 tree) =
        some result ↔ result = paths ∧ ∀ path ∈ paths, ∃ content,
          tree.listing.read path = some content ∧
            sha256 content = sha256 ((source.listing.read path).getD []) := by
    refine mapM_eq_some_iff fun path hpath result => ?_
    obtain ⟨name, names, _, _, _, rfl, hsource, _⟩ := hcases path hpath
    exact verifyLine_manifestLine hsha (fun part hpart => (hsource part hpart).1)
      (List.cons_ne_nil _ _)
  have hitem {listing : Listing} (h : listing.WellFormed) (path : Path)
      (hpath : path ∈ listing.sourcePaths.mergeSort comparePaths) : path ≠ [] ∧ 59 ∉ path := by
    obtain ⟨name, names, _, _, _, rfl, hsource, _⟩ :=
      Listing.sourcePath_cases h (List.mem_mergeSort.mp hpath)
    exact ⟨relativePath_ne_nil (fun part hpart => (hsource part hpart).1.1) (List.cons_ne_nil _ _),
      fun hmem => (SourceName.isLineByte hsource hmem).2 rfl⟩
  have hsorted : listValue (tree.listing.sourcePaths.mergeSort comparePaths) =
      listValue (paths.mergeSort comparePaths) ↔ tree.listing.sourcePaths.Perm paths := by
    rw [listValue_inj (hitem tree.wellFormed), mergeSort_eq_iff]
    intro path hpath
    exact hitem source.wellFormed path
      (List.mem_mergeSort.mpr (hpaths.mem_iff.mp (List.mem_mergeSort.mp hpath)))
  rw [← hsorted]
  simp only [verifyCommon, hmarker, hcarries, hvalid, hstrings, Bool.true_and]
  cases hmapM : (paths.map (manifestLine sha256 source.listing)).mapM (verifyLine sha256 tree) with
  | none =>
    have hwrong := (hlines paths).mpr.mt (by rw [hmapM]; nofun)
    simp only [true_and] at hwrong
    simp [hwrong]
  | some result =>
    obtain ⟨rfl, hright⟩ := (hlines result).mp hmapM
    cases result with
    | nil => exact absurd rfl hne
    | cons path result =>
      simp only [decide_eq_true_eq]
      exact ⟨fun heq => ⟨hright, heq⟩, fun h => h.2⟩

/-- The manifest that was written for a tree is accepted with another one that has the same
files with equal SHA-256, and with no other. -/
theorem verifyCommon_iff_sameSource (hsha : ∀ content, IsDigest (sha256 content)) {root : Path}
    {source tree : SourceTree} {manifest marker : List UInt8}
    (hfiles : ∃ file ∈ source.listing.files, file.1 ∉ provenanceNames)
    (hwrite : writeCommonManifest sha256 root source = some manifest)
    (hmarker : tree.listing.open [commitName] = some (.file marker))
    (hvalid : validMarker marker = true)
    (hcarries : tree.listing.open [manifestName] = some (.file manifest)) :
    verifyCommon sha256 tree = true ↔ SameSource sha256 source tree := by
  obtain ⟨paths, hpaths, rfl⟩ := writeCommonManifest_eq hsha hwrite
  have hne : paths ≠ [] := by
    obtain ⟨⟨names, content⟩, hfile, hsource⟩ := hfiles
    have hmem := (Listing.relativePath_mem_sourcePaths source.wellFormed hsource
      (Listing.entryName source.wellFormed hfile) (Listing.ne_nil_of_mem_files hfile)).mpr
      ⟨content, hfile⟩
    exact List.ne_nil_of_mem (hpaths.mem_iff.mpr hmem)
  rw [verifyCommon_lines hsha hpaths hne hmarker hvalid hcarries]
  have hin {listing : Listing} (h : listing.WellFormed) {names : List Name} {content : List UInt8}
      (hnames : names ∉ provenanceNames) (hmem : (names, content) ∈ listing.files) :
      relativePath names ∈ listing.sourcePaths ∧
        listing.read (relativePath names) = some content ∧
        (∀ name ∈ names, EntryName name) ∧ names ≠ [] := by
    have hentry := Listing.entryName h hmem
    have hne := Listing.ne_nil_of_mem_files hmem
    exact ⟨(Listing.relativePath_mem_sourcePaths h hnames hentry hne).mpr ⟨content, hmem⟩,
      (Listing.read_relativePath h hentry hne).mpr hmem, hentry, hne⟩
  constructor
  · rintro ⟨hright, hperm⟩ names hnames digest
    constructor
    · rintro ⟨content, hmem, rfl⟩
      obtain ⟨hpath, hread, hentry, hne⟩ := hin source.wellFormed hnames hmem
      obtain ⟨content', hread', hsame⟩ := hright _ (hpaths.mem_iff.mpr hpath)
      rw [hread, Option.getD_some] at hsame
      exact ⟨content', (Listing.read_relativePath tree.wellFormed hentry hne).mp hread', hsame⟩
    · rintro ⟨content, hmem, rfl⟩
      obtain ⟨hpath, hread, hentry, hne⟩ := hin tree.wellFormed hnames hmem
      have hlisted := hperm.mem_iff.mp hpath
      obtain ⟨content', hmem'⟩ := (Listing.relativePath_mem_sourcePaths source.wellFormed hnames
        hentry hne).mp (hpaths.mem_iff.mp hlisted)
      obtain ⟨content'', hread'', hsame⟩ := hright _ hlisted
      rw [hread, Option.some.injEq] at hread''
      subst hread''
      rw [(hin source.wellFormed hnames hmem').2.1, Option.getD_some] at hsame
      exact ⟨content', hmem', hsame.symm⟩
  · intro hsame
    have hboth (path : Path) : path ∈ tree.listing.sourcePaths ↔ path ∈ paths := by
      rw [hpaths.mem_iff]
      constructor
      · intro hpath
        obtain ⟨name, names, content, hmem, hnames, rfl, _, _⟩ :=
          Listing.sourcePath_cases tree.wellFormed hpath
        obtain ⟨content', hmem', -⟩ := (hsame _ hnames _).mpr ⟨content, hmem, rfl⟩
        exact (hin source.wellFormed hnames hmem').1
      · intro hpath
        obtain ⟨name, names, content, hmem, hnames, rfl, _, _⟩ :=
          Listing.sourcePath_cases source.wellFormed hpath
        obtain ⟨content', hmem', -⟩ := (hsame _ hnames _).mp ⟨content, hmem, rfl⟩
        exact (hin tree.wellFormed hnames hmem').1
    refine ⟨fun path hpath => ?_, (List.perm_ext_iff_of_nodup
      (Listing.nodup_sourcePaths tree.wellFormed)
      (hpaths.nodup_iff.mpr (Listing.nodup_sourcePaths source.wellFormed))).mpr hboth⟩
    obtain ⟨name, names, content, hmem, hnames, rfl, _, hread⟩ :=
      Listing.sourcePath_cases source.wellFormed (hpaths.mem_iff.mp hpath)
    obtain ⟨content', hmem', hdigest⟩ := (hsame _ hnames _).mp ⟨content, hmem, rfl⟩
    rw [hread, Option.getD_some]
    exact ⟨content', (hin tree.wellFormed hnames hmem').2.1, hdigest⟩

/-- SHA-256 of the empty file and of `abc`. -/
def smallDigest (content : List UInt8) : List UInt8 :=
  if content = bytes "abc" then
    bytes "ba7816bf8f01cfea414140de5dae2223b00361a396177a9cb410ff61f20015ad"
  else bytes "e3b0c44298fc1c149afbf4c8996fb92427ae41e4649b934ca495991b7852b855"

/-- A tree with a file in a directory, and an empty file beside the directory. -/
def commonTree (content : List UInt8) : SourceTree where
  listing := .directory (bytes "src") (.file (bytes "clock.c") content .nil)
    (.file (bytes "VERSION") [] .nil)
  wellFormed :=
    ⟨⟨⟨⟨by decide, by decide⟩, by decide, by decide⟩, by decide +kernel⟩, by decide,
      ⟨⟨⟨⟨by decide, by decide⟩, by decide, by decide⟩, by decide +kernel⟩, List.not_mem_nil,
        trivial⟩,
      ⟨⟨⟨by decide, by decide⟩, by decide, by decide⟩, by decide +kernel⟩, List.not_mem_nil,
      trivial⟩

/-- The manifest of that tree, when the file in the directory is `abc`: the paths in order. -/
def commonManifest : List UInt8 :=
  smallDigest [] ++ bytes "  VERSION\n" ++ smallDigest (bytes "abc") ++ bytes "  src/clock.c\n"

/-- A tree like it, with that manifest. -/
def exportedTree (content : List UInt8) : SourceTree where
  listing :=
    .file commitName (List.replicate 40 48 ++ [10])
      (.file manifestName commonManifest (commonTree content).listing)
  wellFormed :=
    ⟨⟨⟨⟨by decide, by decide⟩, by decide, by decide⟩, by decide +kernel⟩,
      (by decide : commitName ∉ [manifestName, bytes "src", bytes "VERSION"]),
      ⟨⟨⟨by decide, by decide⟩, by decide, by decide⟩, by decide +kernel⟩,
      (by decide : manifestName ∉ [bytes "src", bytes "VERSION"]), (commonTree content).wellFormed⟩

/-- That is the manifest of the tree. -/
theorem writeCommonManifest_commonTree :
    writeCommonManifest smallDigest (bytes "/tmp/common") (commonTree (bytes "abc")) =
      some commonManifest := by
  have hlist : collectFiles (bytes "/tmp/common") [] (commonTree (bytes "abc")).listing [] =
      some [bytes "src/clock.c", bytes "VERSION"] := by
    decide +kernel
  have hsorted : [bytes "src/clock.c", bytes "VERSION"].mergeSort comparePaths =
      [bytes "VERSION", bytes "src/clock.c"] := by
    have hafter : comparePaths (bytes "src/clock.c") (bytes "VERSION") = false := by
      decide +kernel
    simp [List.mergeSort, List.MergeSort.Internal.splitInTwo, hafter]
  have hlines : manifestLines smallDigest (bytes "/tmp/common") (commonTree (bytes "abc")).listing
      [bytes "VERSION", bytes "src/clock.c"] = some commonManifest := by
    decide +kernel
  rw [writeCommonManifest, hlist]
  simp only [Option.bind_eq_bind, Option.bind_some, hsorted]
  exact hlines

/-- The tree with its manifest has the files of the tree. -/
theorem exportedTree_sameSource (content : List UInt8) :
    SameSource smallDigest (commonTree content) (exportedTree content) := by
  intro names hnames digest
  obtain ⟨hcommit, hmanifest⟩ : names ≠ [commitName] ∧ names ≠ [manifestName] := by
    simpa [provenanceNames] using hnames
  simp [exportedTree, Listing.files, hcommit, hmanifest]

/-- Without the content of its file it has not. -/
theorem exportedTree_not_sameSource :
    ¬SameSource smallDigest (commonTree (bytes "abc")) (exportedTree []) := by
  intro h
  obtain ⟨content, hmem, hdigest⟩ := (h [bytes "src", bytes "clock.c"] (by decide)
    (smallDigest (bytes "abc"))).mp ⟨bytes "abc", List.mem_cons_self, rfl⟩
  have hempty : content = [] := by
    simpa [exportedTree, commonTree, Listing.files] using hmem
  rw [hempty] at hdigest
  exact absurd hdigest (by decide +kernel)

/-- The tree itself is accepted, and not the one whose file has changed. -/
theorem verifyCommon_iff_sameSource_nested :
    verifyCommon smallDigest (exportedTree (bytes "abc")) = true ∧
      ¬verifyCommon smallDigest (exportedTree []) = true := by
  have hsha (content : List UInt8) : IsDigest (smallDigest content) := by
    unfold smallDigest
    split <;> exact ⟨by decide +kernel, by decide +kernel⟩
  have hfiles : ∃ file ∈ (commonTree (bytes "abc")).listing.files, file.1 ∉ provenanceNames :=
    ⟨_, List.mem_cons_self, by decide⟩
  have hiff (content : List UInt8) : verifyCommon smallDigest (exportedTree content) = true ↔
      SameSource smallDigest (commonTree (bytes "abc")) (exportedTree content) :=
    verifyCommon_iff_sameSource hsha hfiles writeCommonManifest_commonTree rfl
      (by decide +kernel) rfl
  exact ⟨(hiff _).mpr (exportedTree_sameSource _),
    fun h => exportedTree_not_sameSource ((hiff _).mp h)⟩

end SystemSettings

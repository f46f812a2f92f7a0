import Mathlib.Data.List.Induction
import Mathlib.Data.List.TakeWhile
import Mathlib.Logic.Function.Iterate

/-!
# Paths as text

A library for the text of paths: the names between the separators, the text of a
list of names, and the directory part of a path.
-/

namespace SystemSettings

/-- The bytes of a path. -/
abbrev Path := List UInt8

/-- The name of a directory entry. -/
abbrev Name := List UInt8

/-- `/` -/
def separator : UInt8 := 47

/-- `.` -/
def dot : Name := [46]

/-- `..` -/
def dotDot : Name := [46, 46]

/-- A path is absolute when it starts at the root. -/
def isAbsolute (path : Path) : Bool := path.head? = some separator

/-- The names of a path. What ends in a separator has to be a directory. -/
def pathNames (path : Path) : List Name :=
  let names := (path.splitOn separator).filter (· ≠ [])
  if names ≠ [] ∧ path.getLast? = some separator then names ++ [dot] else names

/-- The absolute path of these names. -/
def rootedPath (names : List Name) : Path :=
  if names = [] then [separator] else names.flatMap (separator :: ·)

/-- `g_path_get_dirname`: what stands before the last separators. -/
def pathGetDirname (path : Path) : Path :=
  match path.reverse.dropWhile (· ≠ separator) with
  | [] => dot
  | rest =>
    match rest.dropWhile (· = separator) with
    | [] => [separator]
    | kept => kept.reverse

/-- A name that an entry of a directory can have. -/
def EntryName (name : Name) : Prop := name ≠ [] ∧ separator ∉ name

/-- An entry name that does not lead back up. -/
def PlainName (name : Name) : Prop := EntryName name ∧ name ≠ dot ∧ name ≠ dotDot

/-! ## Names and text -/

theorem entryName_dot : EntryName dot := ⟨by decide, by decide⟩

theorem not_mem_of_mem_splitOn {α : Type*} [DecidableEq α] {a : α} {l part : List α}
    (h : part ∈ l.splitOn a) : a ∉ part := by
  induction l generalizing part with
  | nil =>
    rw [List.splitOn_nil, List.mem_singleton] at h
    simp [h]
  | cons b l ih =>
    rw [List.splitOn_cons_eq_if_modifyHead] at h
    split at h
    · rcases List.mem_cons.mp h with rfl | h
      · exact List.not_mem_nil
      · exact ih h
    · next hb =>
      cases hparts : l.splitOn a with
      | nil => exact absurd hparts (List.splitOn_ne_nil a l)
      | cons first rest =>
        rw [hparts] at h ih
        rcases List.mem_cons.mp h with rfl | h
        · simp only [List.mem_cons, not_or]
          exact ⟨fun heq => hb (beq_iff_eq.mpr heq.symm), ih List.mem_cons_self⟩
        · exact ih (List.mem_cons_of_mem _ h)

/-- What a path is made of are entry names. -/
theorem entryName_of_mem_pathNames {path : Path} {name : Name} (h : name ∈ pathNames path) :
    EntryName name := by
  have hsplit : name ∈ (path.splitOn separator).filter (· ≠ []) → EntryName name := by
    intro hmem
    obtain ⟨hpart, hne⟩ := List.mem_filter.mp hmem
    exact ⟨of_decide_eq_true hne, not_mem_of_mem_splitOn hpart⟩
  simp only [pathNames] at h
  split at h
  · rcases List.mem_append.mp h with h | h
    · exact hsplit h
    · rw [List.mem_singleton.mp h]
      exact entryName_dot
  · exact hsplit h

theorem rootedPath_concat (names : List Name) (name : Name) :
    rootedPath (names ++ [name]) = names.flatMap (separator :: ·) ++ separator :: name := by
  simp [rootedPath]

theorem isAbsolute_rootedPath (names : List Name) : isAbsolute (rootedPath names) = true := by
  cases names with
  | nil => rfl
  | cons name names => simp [rootedPath, isAbsolute]

theorem splitOn_flatMap {names : List Name} (h : ∀ name ∈ names, EntryName name) :
    (names.flatMap (separator :: ·)).splitOn separator = [] :: names := by
  induction names using List.reverseRecOn with
  | nil => rfl
  | append_singleton names name ih =>
    have hname : EntryName name := h name (by simp)
    rw [List.flatMap_append, List.flatMap_singleton, List.splitOn_append_cons_self,
      ih fun name hmem => h name (List.mem_append_left _ hmem), List.splitOn_eq_singleton hname.2,
      List.cons_append]

/-- The names of the path of these names. -/
theorem pathNames_rootedPath {names : List Name} (h : ∀ name ∈ names, EntryName name) :
    pathNames (rootedPath names) = names := by
  cases names using List.reverseRecOn with
  | nil => rfl
  | append_singleton names name =>
    have hname : EntryName name := h name (by simp)
    have hfilter : (names ++ [name]).filter (· ≠ []) = names ++ [name] :=
      List.filter_eq_self.mpr fun part hpart => decide_eq_true (h part hpart).1
    have hlast : (rootedPath (names ++ [name])).getLast? ≠ some separator := by
      rw [rootedPath_concat, List.getLast?_append, List.getLast?_cons]
      intro hlast
      obtain ⟨last, rest, rfl⟩ := List.exists_cons_of_ne_nil hname.1
      simp only [List.getLast?_cons, Option.getD_some, Option.some_or, Option.some.injEq] at hlast
      refine hname.2 (hlast ▸ ?_)
      cases hrest : rest.getLast? with
      | none => simp
      | some b => simpa using .inr (List.mem_of_getLast? hrest)
    have hsplit : (rootedPath (names ++ [name])).splitOn separator = [] :: (names ++ [name]) := by
      rw [← splitOn_flatMap h, rootedPath, if_neg (by simp)]
    simp only [pathNames, hsplit, hlast, and_false, if_false]
    simpa using hfilter

/-! ## The directory of a path -/

theorem pathGetDirname_separator_cons (path : Path) :
    pathGetDirname (separator :: path) = separator ::
      ((path.reverse.dropWhile (· ≠ separator)).dropWhile (· = separator)).reverse := by
  have hrest : (separator :: path).reverse.dropWhile (· ≠ separator) =
      path.reverse.dropWhile (· ≠ separator) ++ [separator] := by
    rw [List.reverse_cons, List.dropWhile_append]
    split
    · next hempty =>
      rw [List.isEmpty_iff.mp hempty]
      rfl
    · rfl
  have hkept : (path.reverse.dropWhile (· ≠ separator) ++ [separator]).dropWhile (· = separator) =
      if (path.reverse.dropWhile (· ≠ separator)).dropWhile (· = separator) = [] then []
      else (path.reverse.dropWhile (· ≠ separator)).dropWhile (· = separator) ++ [separator] := by
    rw [List.dropWhile_append]
    simp only [List.isEmpty_iff]
    rfl
  rw [pathGetDirname, hrest]
  split
  · next hnil => simp at hnil
  · rw [hkept]
    split_ifs with hempty
    · rw [hempty]
      rfl
    · cases hcons : (path.reverse.dropWhile (· ≠ separator)).dropWhile (· = separator) with
      | nil => exact absurd hcons hempty
      | cons b rest => simp

theorem pathGetDirname_root : pathGetDirname [separator] = [separator] := rfl

theorem exists_of_isAbsolute {path : Path} (h : isAbsolute path = true) :
    ∃ rest, path = separator :: rest := by
  cases path with
  | nil => cases h
  | cons b rest => exact ⟨rest, by rw [Option.some.inj (of_decide_eq_true h)]⟩

/-- The directory of an absolute path is absolute. -/
theorem isAbsolute_pathGetDirname {path : Path} (h : isAbsolute path = true) :
    isAbsolute (pathGetDirname path) = true := by
  obtain ⟨rest, rfl⟩ := exists_of_isAbsolute h
  rw [pathGetDirname_separator_cons]
  rfl

/-- The directory of an absolute path is shorter, until the root. -/
theorem length_pathGetDirname_lt {path : Path} (h : isAbsolute path = true)
    (hroot : path ≠ [separator]) : (pathGetDirname path).length < path.length := by
  obtain ⟨rest, rfl⟩ := exists_of_isAbsolute h
  have hrest : rest.reverse ≠ [] := by
    rw [List.reverse_ne_nil_iff]
    exact fun hnil => hroot (by rw [hnil])
  obtain ⟨b, tail, htail⟩ := List.exists_cons_of_ne_nil hrest
  have hlength : rest.length = tail.length + 1 := by
    rw [← List.length_reverse, htail, List.length_cons]
  rw [pathGetDirname_separator_cons, htail, List.length_cons, List.length_cons, List.length_reverse]
  refine Nat.succ_lt_succ (hlength ▸ Nat.lt_succ_of_le ?_)
  by_cases hb : b = separator
  · rw [List.dropWhile_cons_of_neg (by simpa using hb),
      List.dropWhile_cons_of_pos (by simpa using hb)]
    exact List.length_dropWhile_le _ tail
  · rw [List.dropWhile_cons_of_pos (by simpa using hb)]
    exact Nat.le_trans (List.length_dropWhile_le _ _) (List.length_dropWhile_le _ tail)

/-- Going up from an absolute path ends at the root. -/
theorem iterate_pathGetDirname {path : Path} (h : isAbsolute path = true) :
    ∃ n < path.length, pathGetDirname^[n] path = [separator] := by
  by_cases hroot : path = [separator]
  · exact ⟨0, by rw [hroot]; decide, hroot⟩
  · have hlt := length_pathGetDirname_lt h hroot
    obtain ⟨n, hn, hend⟩ := iterate_pathGetDirname (isAbsolute_pathGetDirname h)
    exact ⟨n + 1, by omega, by rwa [Function.iterate_succ_apply]⟩
termination_by path.length

/-- The directory of the path of these names. -/
theorem pathGetDirname_rootedPath {names : List Name} {name : Name}
    (h : ∀ part ∈ names ++ [name], EntryName part) :
    pathGetDirname (rootedPath (names ++ [name])) = rootedPath names := by
  have hname : separator ∉ name.reverse := by
    rw [List.mem_reverse]
    exact (h name (by simp)).2
  have hrest : (rootedPath (names ++ [name])).reverse.dropWhile (· ≠ separator) =
      separator :: (names.flatMap (separator :: ·)).reverse := by
    rw [rootedPath_concat, List.reverse_append, List.reverse_cons, List.append_assoc,
      List.dropWhile_append_of_pos]
    · rfl
    · intro b hb
      exact decide_eq_true fun heq => hname (heq ▸ hb)
  rw [pathGetDirname, hrest]
  cases names using List.reverseRecOn with
  | nil => rfl
  | append_singleton names last =>
    have hlast : EntryName last := h last (by simp)
    obtain ⟨b, tail, hb⟩ := List.exists_cons_of_ne_nil (List.reverse_ne_nil_iff.mpr hlast.1)
    have hne : b ≠ separator := by
      rintro rfl
      refine hlast.2 (List.mem_reverse.mp ?_)
      rw [hb]
      exact List.mem_cons_self
    have hflat : ((names ++ [last]).flatMap (separator :: ·)).reverse =
        b :: (tail ++ separator :: (names.flatMap (separator :: ·)).reverse) := by
      rw [List.flatMap_append, List.flatMap_singleton, List.reverse_append, List.reverse_cons, hb]
      simp
    have hkept : (separator :: ((names ++ [last]).flatMap (separator :: ·)).reverse).dropWhile
        (· = separator) = ((names ++ [last]).flatMap (separator :: ·)).reverse := by
      rw [List.dropWhile_cons_of_pos (by simp), hflat, List.dropWhile_cons_of_neg (by simpa using hne)]
    simp only [hkept]
    rw [hflat]
    simp only
    rw [← hflat, List.reverse_reverse, rootedPath, if_neg (by simp)]

/-- Going up from the path of these names comes to the path of the first ones. -/
theorem exists_iterate_pathGetDirname {names : List Name} (h : ∀ name ∈ names, EntryName name)
    (n : ℕ) :
    ∃ front, front <+: names ∧ pathGetDirname^[n] (rootedPath names) = rootedPath front := by
  induction n with
  | zero => exact ⟨names, List.prefix_refl names, rfl⟩
  | succ n ih =>
    obtain ⟨front, hfront, heq⟩ := ih
    rw [Function.iterate_succ_apply', heq]
    cases front using List.reverseRecOn with
    | nil => exact ⟨[], hfront, rfl⟩
    | append_singleton front name =>
      exact ⟨front, (List.prefix_append front [name]).trans hfront,
        pathGetDirname_rootedPath fun part hpart => h part (hfront.subset hpart)⟩

theorem iterate_pathGetDirname_rootedPath {front tail : List Name}
    (h : ∀ name ∈ front ++ tail, EntryName name) :
    pathGetDirname^[tail.length] (rootedPath (front ++ tail)) = rootedPath front := by
  induction tail using List.reverseRecOn with
  | nil => rw [List.append_nil]; rfl
  | append_singleton tail name ih =>
    rw [List.length_append, List.length_singleton, Function.iterate_succ_apply, ← List.append_assoc,
      pathGetDirname_rootedPath (by rwa [List.append_assoc]),
      ih fun part hpart => h part (by rw [← List.append_assoc]; exact List.mem_append_left _ hpart)]

/-! ## Relative paths -/

/-- The path of a name below a relative path. -/
def joinName (relative : Path) (name : Name) : Path :=
  if relative = [] then name else relative ++ separator :: name

/-- The relative path of these names. -/
def relativePath (names : List Name) : Path := names.foldl joinName []

@[simp] theorem relativePath_nil : relativePath [] = [] := rfl

theorem relativePath_concat (names : List Name) (name : Name) :
    relativePath (names ++ [name]) = joinName (relativePath names) name := by
  rw [relativePath, List.foldl_append]
  rfl

@[simp] theorem relativePath_singleton (name : Name) : relativePath [name] = name := rfl

theorem relativePath_ne_nil {names : List Name} (h : ∀ name ∈ names, EntryName name)
    (hne : names ≠ []) : relativePath names ≠ [] := by
  cases names using List.reverseRecOn with
  | nil => exact absurd rfl hne
  | append_singleton names name =>
    rw [relativePath_concat, joinName]
    split
    · exact (h name (by simp)).1
    · simp

theorem splitOn_relativePath {names : List Name} (h : ∀ name ∈ names, EntryName name)
    (hne : names ≠ []) : (relativePath names).splitOn separator = names := by
  induction names using List.reverseRecOn with
  | nil => exact absurd rfl hne
  | append_singleton names name ih =>
    have hname : name.splitOn separator = [name] := List.splitOn_eq_singleton (h name (by simp)).2
    have hnames : ∀ other ∈ names, EntryName other :=
      fun other hmem => h other (List.mem_append_left _ hmem)
    rw [relativePath_concat, joinName]
    by_cases hnil : names = []
    · rw [hnil, relativePath_nil, if_pos rfl, hname, List.nil_append]
    · rw [if_neg (relativePath_ne_nil hnames hnil), List.splitOn_append_cons_self, ih hnames hnil,
        hname]

theorem nil_mem_splitOn_of_getLast? {path : Path} (h : path.getLast? = some separator) :
    [] ∈ path.splitOn separator := by
  obtain ⟨front, rfl⟩ := List.getLast?_eq_some_iff.mp h
  rw [List.splitOn_append_cons_self]
  simp

theorem pathNames_relativePath {names : List Name} (h : ∀ name ∈ names, EntryName name)
    (hne : names ≠ []) : pathNames (relativePath names) = names := by
  have hsplit := splitOn_relativePath h hne
  have hlast : (relativePath names).getLast? ≠ some separator := by
    intro hlast
    have hnil := nil_mem_splitOn_of_getLast? hlast
    rw [hsplit] at hnil
    exact (h _ hnil).1 rfl
  simp only [pathNames, hsplit, hlast, and_false, if_false]
  exact List.filter_eq_self.mpr fun part hpart => decide_eq_true (h part hpart).1

theorem relativePath_injective {names names' : List Name} (h : ∀ name ∈ names, EntryName name)
    (h' : ∀ name ∈ names', EntryName name) (hne : names ≠ []) (hne' : names' ≠ [])
    (heq : relativePath names = relativePath names') : names = names' := by
  rw [← splitOn_relativePath h hne, heq, splitOn_relativePath h' hne']

theorem mem_relativePath {names : List Name} {b : UInt8} (h : b ∈ relativePath names) :
    b = separator ∨ ∃ name ∈ names, b ∈ name := by
  induction names using List.reverseRecOn with
  | nil => exact absurd h List.not_mem_nil
  | append_singleton names name ih =>
    rw [relativePath_concat, joinName] at h
    split at h
    · exact .inr ⟨name, by simp, h⟩
    · rcases List.mem_append.mp h with h | h
      · refine (ih h).imp_right fun ⟨other, hother, hb⟩ => ⟨other, ?_, hb⟩
        exact List.mem_append_left _ hother
      · rcases List.mem_cons.mp h with rfl | h
        · exact .inl rfl
        · exact .inr ⟨name, by simp, h⟩

end SystemSettings

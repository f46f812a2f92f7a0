import Mathlib.Data.List.Basic
import Mathlib.Logic.Relation
import SystemSettings.PathText

/-!
# A file tree on disk

A library for programs that change a file tree by path while nobody else does: the nodes,
the walk of a path through symbolic links, and what a walk can come to when entries are
removed. It comes to the same node or to nothing: a removed entry never sends it elsewhere.
-/

namespace SystemSettings

/-! ## Nodes -/

/-- What a node is. -/
inductive DiskNode : Type where
  | directory (parent : ℕ) (entries : List (Name × ℕ))
  | link (target : Path)
  /-- a file, a device or the like -/
  | other (content : List UInt8)

/-- A file tree: nodes by number. No entry is named `.` or `..`. -/
structure DiskTree : Type where
  root : ℕ
  node : ℕ → Option DiskNode
  plain : ∀ ino parent entries, node ino = some (.directory parent entries) →
    ∀ entry ∈ entries, PlainName entry.1

/-- Why a path leads nowhere. -/
inductive PathError : Type where
  /-- `ENOENT` -/
  | noent
  | other
  deriving DecidableEq

namespace DiskTree

variable (tree : DiskTree)

/-- `S_ISDIR` -/
def isDirectory (ino : ℕ) : Bool :=
  match tree.node ino with
  | some (.directory _ _) => true
  | _ => false

/-- Where a symbolic link points to. -/
def pointsTo (ino : ℕ) : Option Path :=
  match tree.node ino with
  | some (.link target) => some target
  | _ => none

/-- The entries of a directory. -/
def entries (ino : ℕ) : List (Name × ℕ) :=
  match tree.node ino with
  | some (.directory _ entries) => entries
  | _ => []

/-- The node of an entry. -/
def entry (directory : ℕ) (name : Name) : Option ℕ :=
  ((tree.entries directory).find? fun entry => entry.1 == name).map Prod.snd

/-- What a name leads to in a directory. -/
def find (directory : ℕ) (name : Name) : Except PathError ℕ :=
  match tree.node directory with
  | some (.directory parent _) =>
    if name = dot then .ok directory
    else if name = dotDot then .ok parent
    else
      match tree.entry directory name with
      | some ino => .ok ino
      | none => .error .noent
  | _ => .error .other

/-! ## Walks -/

/-- How a walk along names ends. -/
inductive WalkEnd : Type where
  | failed (error : PathError)
  | arrived (ino : ℕ)
  /-- a link stands in this directory, before the rest of the names -/
  | link (directory : ℕ) (target : Path) (rest : List Name)

/-- From a directory along these names, until a link. -/
def walkNames : ℕ → List Name → WalkEnd
  | ino, [] => .arrived ino
  | ino, name :: rest =>
    match tree.find ino name with
    | .error error => .failed error
    | .ok child =>
      match tree.pointsTo child with
      | some target => .link ino target rest
      | none => walkNames child rest

/-- From a directory along these names, through this many links at most. -/
def walk : ℕ → ℕ → List Name → Except PathError ℕ
  | links, ino, names =>
    match tree.walkNames ino names with
    | .failed error => .error error
    | .arrived last => .ok last
    | .link directory target rest =>
      match links with
      | 0 => .error .other
      | links + 1 =>
        walk links (if isAbsolute target then tree.root else directory) (pathNames target ++ rest)

/-- The names between the separators of a path. -/
def components (path : Path) : List Name := (path.splitOn separator).filter (· ≠ [])

/-- Where a path starts, for a process in the directory `cwd`. -/
def start (cwd : ℕ) (path : Path) : ℕ := if isAbsolute path then tree.root else cwd

/-- `MAXSYMLINKS` -/
def linkLimit : ℕ := 40

/-- The node of a path, every link followed. -/
def resolve (cwd : ℕ) (path : Path) : Except PathError ℕ :=
  tree.walk linkLimit (tree.start cwd path) (components path)

/-- The directory and the last name of a path. What ends in a separator is a directory: one that
stands there under its name, or one that a link leads to. -/
def locate (cwd : ℕ) (path : Path) : Except PathError (ℕ × Name) :=
  if path = [] then .error .noent
  else
    match (components path).getLast? with
    | none => .ok (tree.start cwd path, dot)
    | some last =>
      match tree.walk linkLimit (tree.start cwd path) (components path).dropLast with
      | .error error => .error error
      | .ok directory =>
        if path.getLast? = some separator then
          match tree.find directory last with
          | .error error => .error error
          | .ok child =>
            if tree.isDirectory child then .ok (directory, last)
            -- a link to a directory is followed, and what is neither is no directory
            else (tree.resolve cwd path).map fun ino => (ino, dot)
        else .ok (directory, last)

/-- `lstat`: the node of a path, without the last link followed. -/
def lstat (cwd : ℕ) (path : Path) : Except PathError ℕ :=
  match tree.locate cwd path with
  | .error error => .error error
  | .ok (directory, name) => tree.find directory name

end DiskTree

/-! ## Removing entries -/

/-- A node without the entry of this name. -/
def DiskNode.without (name : Name) : DiskNode → DiskNode
  | .directory parent entries => .directory parent (entries.filter fun entry => entry.1 ≠ name)
  | node => node

/-- The tree without an entry. -/
def DiskTree.removeEntry (tree : DiskTree) (directory : ℕ) (name : Name) : DiskTree where
  root := tree.root
  node ino := if ino = directory then (tree.node ino).map (.without name) else tree.node ino
  plain ino parent entries h entry hentry := by
    have hplain := tree.plain ino parent
    split at h
    · obtain ⟨node, hnode, heq⟩ := Option.map_eq_some_iff.mp h
      cases node with
      | directory parent' entries' =>
        obtain ⟨rfl, rfl⟩ := DiskNode.directory.inj heq
        exact hplain entries' hnode entry (List.mem_filter.mp hentry).1
      | link target => cases heq
      | other content => cases heq
    · exact hplain entries h entry hentry

/-- What is left of a tree when entries have been removed. -/
structure Fewer (tree' tree : DiskTree) : Prop where
  root : tree'.root = tree.root
  node : ∀ ino, tree'.node ino = tree.node ino ∨ ∃ parent entries entries',
    tree.node ino = some (.directory parent entries) ∧
      tree'.node ino = some (.directory parent entries')
  entry : ∀ directory name, tree'.entry directory name = tree.entry directory name ∨
    tree'.entry directory name = none

namespace Fewer

variable {tree tree' tree'' : DiskTree}

theorem refl (tree : DiskTree) : Fewer tree tree := ⟨rfl, fun _ => .inl rfl, fun _ _ => .inl rfl⟩

theorem trans (h' : Fewer tree'' tree') (h : Fewer tree' tree) : Fewer tree'' tree where
  root := h'.root.trans h.root
  node ino := by
    rcases h'.node ino with heq | ⟨parent, entries, entries', hbefore, hafter⟩
    · rw [heq]
      exact h.node ino
    · rcases h.node ino with heq | ⟨parent', first, entries'', hfirst, hbefore'⟩
      · rw [← heq]
        exact .inr ⟨parent, entries, entries', hbefore, hafter⟩
      · rw [hbefore] at hbefore'
        obtain ⟨rfl, rfl⟩ := DiskNode.directory.inj (Option.some.inj hbefore')
        exact .inr ⟨parent, first, entries', hfirst, hafter⟩
  entry directory name := by
    rcases h'.entry directory name with heq | hnone
    · rw [heq]
      exact h.entry directory name
    · exact .inr hnone

theorem isDirectory (h : Fewer tree' tree) (ino : ℕ) :
    tree'.isDirectory ino = tree.isDirectory ino := by
  rcases h.node ino with heq | ⟨parent, entries, entries', hbefore, hafter⟩
  · rw [DiskTree.isDirectory, heq, DiskTree.isDirectory]
  · rw [DiskTree.isDirectory, hafter, DiskTree.isDirectory, hbefore]

theorem pointsTo (h : Fewer tree' tree) (ino : ℕ) : tree'.pointsTo ino = tree.pointsTo ino := by
  rcases h.node ino with heq | ⟨parent, entries, entries', hbefore, hafter⟩
  · rw [DiskTree.pointsTo, heq, DiskTree.pointsTo]
  · rw [DiskTree.pointsTo, hafter, DiskTree.pointsTo, hbefore]

/-- A name leads to the same node or to nothing. -/
theorem find (h : Fewer tree' tree) (directory : ℕ) (name : Name) :
    tree'.find directory name = tree.find directory name ∨
      tree'.find directory name = .error .noent := by
  unfold DiskTree.find
  have hentry := h.entry directory name
  rcases h.node directory with heq | ⟨parent, entries, entries', hbefore, hafter⟩
  · rw [heq]
    split
    · rcases hentry with heq' | hnone
      · rw [heq']
        exact .inl rfl
      · rw [hnone]
        split_ifs
        · exact .inl rfl
        · exact .inl rfl
        · exact .inr rfl
    · exact .inl rfl
  · rw [hbefore, hafter]
    rcases hentry with heq' | hnone
    · simp only [heq']
      exact .inl trivial
    · simp only [hnone]
      split_ifs
      · exact .inl rfl
      · exact .inl rfl
      · exact .inr rfl

theorem walkNames (h : Fewer tree' tree) (ino : ℕ) (names : List Name) :
    tree'.walkNames ino names = tree.walkNames ino names ∨
      tree'.walkNames ino names = .failed .noent := by
  induction names generalizing ino with
  | nil => exact .inl rfl
  | cons name rest ih =>
    rw [DiskTree.walkNames, DiskTree.walkNames]
    rcases h.find ino name with heq | hnone
    · rw [heq]
      cases tree.find ino name with
      | error error => exact .inl rfl
      | ok child =>
        simp only [h.pointsTo child]
        cases tree.pointsTo child with
        | some target => exact .inl rfl
        | none => exact ih child
    · rw [hnone]
      exact .inr rfl

/-- A walk comes to the same node or to nothing. -/
theorem walk (h : Fewer tree' tree) (links ino : ℕ) (names : List Name) :
    tree'.walk links ino names = tree.walk links ino names ∨
      tree'.walk links ino names = .error .noent := by
  induction links generalizing ino names with
  | zero =>
    rw [DiskTree.walk, DiskTree.walk]
    rcases h.walkNames ino names with heq | hnone
    · rw [heq]
      exact .inl rfl
    · rw [hnone]
      exact .inr rfl
  | succ links ih =>
    rw [DiskTree.walk, DiskTree.walk]
    rcases h.walkNames ino names with heq | hnone
    · rw [heq, h.root]
      cases tree.walkNames ino names with
      | failed error => exact .inl rfl
      | arrived last => exact .inl rfl
      | link directory target rest => exact ih _ _
    · rw [hnone]
      exact .inr rfl

theorem start (h : Fewer tree' tree) (cwd : ℕ) (path : Path) :
    tree'.start cwd path = tree.start cwd path := by
  rw [DiskTree.start, DiskTree.start, h.root]

theorem resolve (h : Fewer tree' tree) (cwd : ℕ) (path : Path) :
    tree'.resolve cwd path = tree.resolve cwd path ∨ tree'.resolve cwd path = .error .noent := by
  rw [DiskTree.resolve, DiskTree.resolve, h.start]
  exact h.walk _ _ _

theorem locate (h : Fewer tree' tree) (cwd : ℕ) (path : Path) :
    tree'.locate cwd path = tree.locate cwd path ∨ tree'.locate cwd path = .error .noent := by
  unfold DiskTree.locate
  rw [h.start]
  split
  · exact .inl rfl
  · split
    · exact .inl rfl
    · next last hlast =>
      rcases h.walk DiskTree.linkLimit (tree.start cwd path)
        (DiskTree.components path).dropLast with heq | hnone
      · rw [heq]
        cases tree.walk DiskTree.linkLimit (tree.start cwd path)
            (DiskTree.components path).dropLast with
        | error error => exact .inl rfl
        | ok directory =>
          dsimp only
          by_cases hseparator : path.getLast? = some separator
          · simp only [if_pos hseparator]
            rcases h.find directory last with heq' | hnone
            · rw [heq']
              cases tree.find directory last with
              | error error => exact .inl rfl
              | ok child =>
                simp only [h.isDirectory child]
                split
                · exact .inl rfl
                · rcases h.resolve cwd path with heq'' | hnone
                  · rw [heq'']
                    exact .inl rfl
                  · rw [hnone]
                    exact .inr rfl
            · rw [hnone]
              exact .inr rfl
          · simp only [if_neg hseparator]
            exact .inl trivial
      · rw [hnone]
        exact .inr rfl

/-- A path leads to the same node or to nothing. -/
theorem lstat (h : Fewer tree' tree) (cwd : ℕ) (path : Path) :
    tree'.lstat cwd path = tree.lstat cwd path ∨ tree'.lstat cwd path = .error .noent := by
  unfold DiskTree.lstat
  rcases h.locate cwd path with heq | hnone
  · rw [heq]
    cases tree.locate cwd path with
    | error error => exact .inl rfl
    | ok place => exact h.find place.1 place.2
  · rw [hnone]
    exact .inr rfl

end Fewer

/-- An entry that is removed is gone, and the others stay. -/
theorem DiskTree.entries_removeEntry (tree : DiskTree) (directory ino : ℕ) (name : Name) :
    (tree.removeEntry directory name).entries ino =
      if ino = directory then (tree.entries ino).filter fun entry => entry.1 ≠ name
      else tree.entries ino := by
  simp only [entries, removeEntry]
  by_cases heq : ino = directory
  · rw [if_pos heq, if_pos heq]
    cases tree.node ino with
    | none => rfl
    | some node => cases node <;> rfl
  · rw [if_neg heq, if_neg heq]

theorem DiskTree.entry_removeEntry (tree : DiskTree) (directory ino : ℕ) (name other : Name) :
    (tree.removeEntry directory name).entry ino other =
      if ino = directory ∧ other = name then none else tree.entry ino other := by
  rw [entry, entries_removeEntry]
  by_cases hino : ino = directory
  · rw [if_pos hino]
    by_cases hother : other = name
    · rw [if_pos ⟨hino, hother⟩, Option.map_eq_none_iff, List.find?_eq_none]
      intro entry hentry heq
      obtain ⟨-, hne⟩ := List.mem_filter.mp hentry
      exact of_decide_eq_true hne ((beq_iff_eq.mp heq).trans hother)
    · rw [if_neg fun h => hother h.2, entry, List.find?_filter]
      congr 2
      funext entry
      by_cases heq : entry.1 = other
      · simp [heq, hother]
      · simp [heq]
  · rw [if_neg hino, if_neg fun h => hino h.1, entry]

theorem DiskTree.removeEntry_fewer (tree : DiskTree) (directory : ℕ) (name : Name) :
    Fewer (tree.removeEntry directory name) tree where
  root := rfl
  node ino := by
    simp only [removeEntry]
    split
    · cases hnode : tree.node ino with
      | none => exact .inl rfl
      | some node =>
        cases node with
        | directory parent entries => exact .inr ⟨parent, entries, _, rfl, rfl⟩
        | link target => exact .inl rfl
        | other content => exact .inl rfl
    · exact .inl rfl
  entry ino other := by
    rw [entry_removeEntry]
    split
    · exact .inr rfl
    · exact .inl rfl

/-! ## The path of an entry -/

namespace DiskTree

variable {tree : DiskTree}

theorem walkNames_append {ino : ℕ} {names : List Name} (more : List Name) :
    tree.walkNames ino (names ++ more) =
      match tree.walkNames ino names with
      | .failed error => .failed error
      | .arrived last => tree.walkNames last more
      | .link directory target rest => .link directory target (rest ++ more) := by
  induction names generalizing ino with
  | nil => rfl
  | cons name names ih =>
    rw [List.cons_append, walkNames, walkNames]
    cases tree.find ino name with
    | error error => rfl
    | ok child =>
      dsimp only
      cases tree.pointsTo child with
      | some target => rfl
      | none => exact ih

/-- One more name that is no link. -/
theorem walk_concat {links ino directory child : ℕ} {names : List Name} {name : Name}
    (h : tree.walk links ino names = .ok directory) (hfind : tree.find directory name = .ok child)
    (hlink : tree.pointsTo child = none) :
    tree.walk links ino (names ++ [name]) = .ok child := by
  have hlast : tree.walkNames directory [name] = .arrived child := by
    simp only [walkNames, hfind, hlink]
  induction links generalizing ino names with
  | zero =>
    rw [walk] at h ⊢
    rw [walkNames_append]
    cases hwalk : tree.walkNames ino names with
    | failed error =>
      rw [hwalk] at h
      cases h
    | arrived last =>
      rw [hwalk] at h
      cases h
      simp only [hlast]
    | link from_ target rest =>
      rw [hwalk] at h
      cases h
  | succ links ih =>
    rw [walk] at h ⊢
    rw [walkNames_append]
    cases hwalk : tree.walkNames ino names with
    | failed error =>
      rw [hwalk] at h
      cases h
    | arrived last =>
      rw [hwalk] at h
      cases h
      simp only [hlast]
    | link from_ target rest =>
      rw [hwalk] at h
      simp only [← List.append_assoc]
      exact ih h

theorem eq_of_find_dot {directory ino : ℕ} (h : tree.find directory dot = .ok ino) :
    ino = directory := by
  unfold find at h
  split at h
  · rw [if_pos rfl] at h
    exact (Except.ok.inj h).symm
  · cases h

/-- A name other than `.` and `..` is found as an entry. -/
theorem find_eq_ok_iff {directory : ℕ} {name : Name} (hdot : name ≠ dot) (hdotDot : name ≠ dotDot)
    {ino : ℕ} : tree.find directory name = .ok ino ↔ tree.entry directory name = some ino := by
  rw [find]
  cases hnode : tree.node directory with
  | none => simp [entry, entries, hnode]
  | some node =>
    cases node with
    | directory parent list =>
      simp only [if_neg hdot, if_neg hdotDot]
      cases tree.entry directory name with
      | none => simp
      | some child => simp
    | link target => simp [entry, entries, hnode]
    | other content => simp [entry, entries, hnode]

/-- What is no link is what its path leads to with every link followed. -/
theorem resolve_of_lstat_of_no_link {cwd ino : ℕ} {path : Path}
    (h : tree.lstat cwd path = .ok ino) (hlink : tree.pointsTo ino = none) :
    tree.resolve cwd path = .ok ino := by
  unfold lstat at h
  split at h
  · cases h
  · next directory name hlocate =>
    unfold locate at hlocate
    split at hlocate
    · cases hlocate
    · split at hlocate
      · next hnone =>
        obtain ⟨rfl, rfl⟩ := Prod.mk.inj (Except.ok.inj hlocate)
        have hempty : components path = [] := List.getLast?_eq_none_iff.mp hnone
        rw [eq_of_find_dot h, resolve, hempty, walk, walkNames]
      · next last hlast =>
        split at hlocate
        · cases hlocate
        · next found hwalk =>
          have hplace (hsame : (found, last) = (directory, name)) :
              tree.resolve cwd path = .ok ino := by
            obtain ⟨rfl, rfl⟩ := Prod.mk.inj hsame
            rw [resolve, ← List.dropLast_append_getLast? last hlast]
            exact walk_concat hwalk h hlink
          split at hlocate
          · split at hlocate
            · cases hlocate
            · split at hlocate
              · exact hplace (Except.ok.inj hlocate)
              · cases hresolve : tree.resolve cwd path with
                | error error =>
                  rw [hresolve] at hlocate
                  cases hlocate
                | ok found =>
                  rw [hresolve] at hlocate
                  obtain ⟨rfl, rfl⟩ := Prod.mk.inj (Except.ok.inj hlocate)
                  rw [eq_of_find_dot h]
          · exact hplace (Except.ok.inj hlocate)

/-- A directory is no link. -/
theorem resolve_of_lstat {cwd ino : ℕ} {path : Path} (h : tree.lstat cwd path = .ok ino)
    (hdirectory : tree.isDirectory ino = true) : tree.resolve cwd path = .ok ino := by
  refine resolve_of_lstat_of_no_link h ?_
  unfold isDirectory at hdirectory
  split at hdirectory
  · next hnode => simp [pointsTo, hnode]
  · cases hdirectory

/-- The place of an entry, by the path of its directory. -/
theorem locate_child {cwd : ℕ} {path : Path} {name : Name} (hpath : path ≠ [])
    (hname : EntryName name) :
    tree.locate cwd (path ++ separator :: name) =
      (tree.resolve cwd path).map fun ino => (ino, name) := by
  have hcomponents : components (path ++ separator :: name) = components path ++ [name] := by
    rw [components, List.splitOn_append_cons_self, List.splitOn_eq_singleton hname.2,
      List.filter_append]
    congr 1
    exact List.filter_eq_self.mpr fun part hpart => by
      rw [List.mem_singleton.mp hpart]
      exact decide_eq_true hname.1
  have hstart : tree.start cwd (path ++ separator :: name) = tree.start cwd path := by
    obtain ⟨b, rest, rfl⟩ := List.exists_cons_of_ne_nil hpath
    rfl
  have hlast : (path ++ separator :: name).getLast? ≠ some separator := by
    obtain ⟨b, rest, rfl⟩ := List.exists_cons_of_ne_nil hname.1
    rw [List.getLast?_append, List.getLast?_cons_cons]
    intro hlast
    rw [List.getLast?_cons, Option.some_or, Option.some.injEq] at hlast
    refine hname.2 (hlast ▸ ?_)
    cases hrest : rest.getLast? with
    | none => simp
    | some last => simpa using .inr (List.mem_of_getLast? hrest)
  have hresolve : tree.resolve cwd path =
    tree.walk linkLimit (tree.start cwd path) (components path) := rfl
  rw [locate, if_neg (List.append_ne_nil_of_right_ne_nil _ (List.cons_ne_nil _ _)), hcomponents,
    List.getLast?_concat, List.dropLast_concat, hstart, hresolve]
  cases tree.walk linkLimit (tree.start cwd path) (components path) with
  | error error => rfl
  | ok directory => exact if_neg hlast

/-- An entry has a plain name. -/
theorem plain_of_entry {directory ino : ℕ} {name : Name}
    (h : tree.entry directory name = some ino) : PlainName name := by
  obtain ⟨found, hfound, -⟩ := Option.map_eq_some_iff.mp h
  have hequal := List.find?_some hfound
  have hname : found.1 = name := by simpa using hequal
  have hmem := List.mem_of_find?_eq_some hfound
  unfold entries at hmem
  split at hmem
  · next parent entries hnode => exact hname ▸ tree.plain directory parent entries hnode found hmem
  · exact absurd hmem List.not_mem_nil

/-- An entry is found. -/
theorem find_of_entry {directory ino : ℕ} {name : Name}
    (h : tree.entry directory name = some ino) : tree.find directory name = .ok ino :=
  (find_eq_ok_iff (plain_of_entry h).2.1 (plain_of_entry h).2.2).mpr h

theorem entries_of_not_directory {ino : ℕ} (h : tree.isDirectory ino = false) :
    tree.entries ino = [] := by
  unfold entries
  split
  · next hnode => simp [isDirectory, hnode] at h
  · rfl

/-- A directory without entries has no entry. -/
theorem entry_of_empty {directory : ℕ} (h : tree.entries directory = []) (name : Name) :
    tree.entry directory name = none := by
  rw [entry, h]
  rfl

end DiskTree

end SystemSettings

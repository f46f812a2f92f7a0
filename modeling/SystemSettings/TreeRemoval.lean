import SystemSettings.CommonManifest
import SystemSettings.DiskTree

/-!
# Removing a tree

`remove_tree` of `native-installer.c`: every entry of a directory is removed before the
directory is. It looks at each path with `lstat` and never follows a link that it finds, so
nothing outside the tree is touched, whichever calls fail and wherever a listing ends.

Nobody else changes the tree. Each call may fail, and then it does nothing.
-/

namespace SystemSettings

/-- What the calls of a run answer, by their number. -/
structure RemovalCalls : Type where
  /-- the call fails -/
  fails : ℕ → Bool
  /-- the names that `readdir` gives of what an `opendir` opened: in any order, and as far as
  the listing goes -/
  listing : ℕ → List Name

/-- The tree, and how many calls have been made. -/
structure Removal : Type where
  tree : DiskTree
  calls : ℕ

/-- A call that leaves the tree alone. -/
def Removal.next (s : Removal) : Removal := ⟨s.tree, s.calls + 1⟩

variable (C : RemovalCalls) (cwd : ℕ)

/-- `lstat`. A call that fails does not say that there is nothing. -/
def Removal.lstat (path : Path) (s : Removal) : Except PathError ℕ :=
  if C.fails s.calls then .error .other else s.tree.lstat cwd path

/-- `unlink`: what is not a directory -/
def Removal.unlink (path : Path) (s : Removal) : Bool × Removal :=
  if C.fails s.calls then (false, s.next)
  else
    match s.tree.locate cwd path with
    | .error _ => (false, s.next)
    | .ok (directory, name) =>
      match s.tree.find directory name with
      | .error _ => (false, s.next)
      | .ok ino =>
        if s.tree.isDirectory ino || name = dot || name = dotDot then (false, s.next)
        else (true, ⟨s.tree.removeEntry directory name, s.calls + 1⟩)

/-- `rmdir`: only an empty directory, and only by its own name -/
def Removal.rmdir (path : Path) (s : Removal) : Bool × Removal :=
  if C.fails s.calls then (false, s.next)
  else
    match s.tree.locate cwd path with
    | .error _ => (false, s.next)
    | .ok (directory, name) =>
      match s.tree.find directory name with
      | .error _ => (false, s.next)
      | .ok ino =>
        if !s.tree.isDirectory ino || !(s.tree.entries ino).isEmpty || name = dot ||
            name = dotDot then (false, s.next)
        else (true, ⟨s.tree.removeEntry directory name, s.calls + 1⟩)

/-- `opendir`, and the names that `readdir` is going to give -/
def Removal.opendir (path : Path) (s : Removal) : Option (List Name) :=
  if C.fails s.calls then none
  else
    match s.tree.resolve cwd path with
    | .error _ => none
    | .ok ino =>
      if s.tree.isDirectory ino then
        some ((C.listing s.calls).filter fun name =>
          name = dot || name = dotDot || (s.tree.entry ino name).isSome)
      else none

/-- `closedir` -/
def Removal.closedir (s : Removal) : Bool := !C.fails s.calls

/-- The loop over the entries. A name that makes the path too long ends it. -/
def removeEntries (path : Path)
    (remove : ∀ child : Path, path.length < child.length → child.length < pathMax →
      Removal → Bool × Removal) :
    List Name → Removal → Bool × Removal
  | [], s => (true, s)
  | name :: names, s =>
    if name = dot ∨ name = dotDot then removeEntries path remove names s
    else
      -- `snprintf` cuts the text, and a text that fills the buffer is refused
      if hshort : (path ++ separator :: name).length < pathMax - 1 then
        match remove (path ++ separator :: name) (by simp) (by omega) s with
        | (false, s) => (false, s)
        | (true, s) => removeEntries path remove names s
      else (false, s)

/-- `remove_tree` -/
def removeTree (path : Path) (s : Removal) : Bool × Removal :=
  match s.lstat C cwd path with
  | .error .noent => (true, s.next)
  | .error .other => (false, s.next)
  | .ok ino =>
    if !s.tree.isDirectory ino then s.next.unlink C cwd path
    else
      match s.next.opendir C cwd path with
      | none => (false, s.next.next)
      | some names =>
        match removeEntries path (fun child _ _ => removeTree child) names s.next.next with
        | (false, s) => (false, s.next)
        | (true, s) => if s.closedir C then s.next.rmdir C cwd path else (false, s.next)
termination_by pathMax - path.length

/-! ## What a removal may change -/

/-- What a removal may have made of a tree: entries are gone, each in one of the directories
`S` or at the place of the path itself, and a directory whose entry is gone is empty. -/
structure Within (before : DiskTree) (S : ℕ → Prop) (place : Except PathError (ℕ × Name))
    (tree : DiskTree) : Prop where
  fewer : Fewer tree before
  inside : ∀ directory name, tree.entry directory name ≠ before.entry directory name →
    S directory ∨ place = .ok (directory, name)
  emptied : ∀ directory name ino, before.entry directory name = some ino →
    before.isDirectory ino = true → tree.entry directory name = none → tree.entries ino = []

section

variable {before tree : DiskTree} {S : ℕ → Prop} {place : Except PathError (ℕ × Name)}

theorem Within.refl (before : DiskTree) (S : ℕ → Prop) (place : Except PathError (ℕ × Name)) :
    Within before S place before where
  fewer := .refl before
  inside _ _ h := absurd rfl h
  emptied directory name ino hentry _ hnone := by
    rw [hentry] at hnone
    cases hnone

/-- An entry may be removed that is not a directory, or an empty one. -/
theorem Within.removeEntry (h : Within before S place tree) {directory : ℕ} {name : Name}
    (hplace : S directory ∨ place = .ok (directory, name))
    (hempty : ∀ ino, tree.entry directory name = some ino → tree.isDirectory ino = true →
      tree.entries ino = []) : Within before S place (tree.removeEntry directory name) where
  fewer := (tree.removeEntry_fewer directory name).trans h.fewer
  inside ino other hne := by
    rw [DiskTree.entry_removeEntry] at hne
    split at hne
    · next heq => exact heq.1 ▸ heq.2 ▸ hplace
    · exact h.inside ino other hne
  emptied ino other child hentry hdirectory hnone := by
    have hgone : tree.entries child = [] := by
      rw [DiskTree.entry_removeEntry] at hnone
      split at hnone
      · next heq =>
        obtain ⟨rfl, rfl⟩ := heq
        rcases h.fewer.entry ino other with hsame | hbefore
        · refine hempty child (hsame.trans hentry) ?_
          rw [h.fewer.isDirectory, hdirectory]
        · exact h.emptied ino other child hentry hdirectory hbefore
      · exact h.emptied ino other child hentry hdirectory hnone
    rw [DiskTree.entries_removeEntry, hgone]
    split <;> rfl

variable {C cwd} {path : Path} {s : Removal}

/-- The path is the place itself or an entry of one of the directories. -/
def Covered (before : DiskTree) (S : ℕ → Prop) (place : Except PathError (ℕ × Name)) (cwd : ℕ)
    (path : Path) : Prop :=
  ∀ directory name, before.locate cwd path = .ok (directory, name) →
    S directory ∨ place = .ok (directory, name)

/-- Where a path leads to now, it led to before. -/
theorem Within.locate (h : Within before S place tree) {found : ℕ × Name}
    (hlocate : tree.locate cwd path = .ok found) : before.locate cwd path = .ok found := by
  rcases h.fewer.locate cwd path with heq | hnone
  · rw [← heq, hlocate]
  · rw [hnone] at hlocate
    cases hlocate

theorem Within.lstat (h : Within before S place tree) {ino : ℕ}
    (hlstat : tree.lstat cwd path = .ok ino) : before.lstat cwd path = .ok ino := by
  rcases h.fewer.lstat cwd path with heq | hnone
  · rw [← heq, hlstat]
  · rw [hnone] at hlstat
    cases hlstat

/-- A call on a path fails and leaves the tree, or it removes the entry of an inode
in `P`. -/
def RemovesEntry (cwd : ℕ) (path : Path) (tree : DiskTree) (P : ℕ → Prop)
    (result : Bool × Removal) : Prop :=
  result.1 = false ∧ result.2.tree = tree ∨
    ∃ directory name ino, tree.locate cwd path = .ok (directory, name) ∧
      tree.find directory name = .ok ino ∧ P ino ∧ name ≠ dot ∧ name ≠ dotDot ∧
      result.2.tree = tree.removeEntry directory name

/-- `unlink` removes what is not a directory. -/
theorem Removal.unlink_removes : RemovesEntry cwd path s.tree
    (fun ino => s.tree.isDirectory ino = false) (s.unlink C cwd path) := by
  unfold Removal.unlink
  split
  · exact .inl ⟨rfl, rfl⟩
  · split
    · exact .inl ⟨rfl, rfl⟩
    · next directory name hlocate =>
      split
      · exact .inl ⟨rfl, rfl⟩
      · next ino hfind =>
        split
        · exact .inl ⟨rfl, rfl⟩
        · next hfile =>
          simp only [Bool.or_eq_true, decide_eq_true_eq, not_or, Bool.not_eq_true] at hfile
          exact .inr ⟨directory, name, ino, hlocate, hfind, hfile.1.1, hfile.1.2, hfile.2, rfl⟩

/-- `rmdir` removes an empty directory. -/
theorem Removal.rmdir_removes : RemovesEntry cwd path s.tree
    (fun ino => s.tree.entries ino = []) (s.rmdir C cwd path) := by
  unfold Removal.rmdir
  split
  · exact .inl ⟨rfl, rfl⟩
  · split
    · exact .inl ⟨rfl, rfl⟩
    · next directory name hlocate =>
      split
      · exact .inl ⟨rfl, rfl⟩
      · next ino hfind =>
        split
        · exact .inl ⟨rfl, rfl⟩
        · next hempty =>
          simp only [Bool.or_eq_true, Bool.not_eq_true', not_or, Bool.not_eq_false,
            List.isEmpty_iff, decide_eq_true_eq] at hempty
          exact .inr ⟨directory, name, ino, hlocate, hfind, hempty.1.1.2, hempty.1.2, hempty.2, rfl⟩

/-- A call that removes no directory with entries stays inside. -/
theorem Within.removes (h : Within before S place s.tree)
    (hcovered : Covered before S place cwd path) {P : ℕ → Prop} {result : Bool × Removal}
    (hremoves : RemovesEntry cwd path s.tree P result)
    (hempty : ∀ ino, P ino → s.tree.isDirectory ino = true → s.tree.entries ino = []) :
    Within before S place result.2.tree := by
  rcases hremoves with ⟨-, htree⟩ | ⟨directory, name, ino, hlocate, hfind, hino, -, -, htree⟩
  · rw [htree]
    exact h
  · rw [htree]
    refine h.removeEntry (hcovered _ _ (h.locate hlocate)) fun child hentry hdirectory => ?_
    have hchild := DiskTree.find_of_entry hentry
    obtain rfl := Except.ok.inj (hfind.symm.trans hchild)
    exact hempty ino hino hdirectory

/-- The loop stays inside when each removal does. -/
theorem Within.removeEntries {remove : ∀ child : Path, path.length < child.length →
      child.length < pathMax → Removal → Bool × Removal} {names : List Name}
    (h : Within before S place s.tree)
    (hremove : ∀ name ∈ names, name ≠ dot → name ≠ dotDot → ∀ hlonger hshort s,
      Within before S place s.tree →
      Within before S place (remove (path ++ separator :: name) hlonger hshort s).2.tree) :
    Within before S place (removeEntries path remove names s).2.tree := by
  induction names generalizing s with
  | nil => exact h
  | cons name names ih =>
    have hrest (s : Removal) (h : Within before S place s.tree) := ih h fun other hother =>
      hremove other (List.mem_cons_of_mem _ hother)
    unfold SystemSettings.removeEntries
    split
    · exact hrest s h
    · next hdots =>
      rw [not_or] at hdots
      split
      · next hshort =>
        have hchild := hremove name List.mem_cons_self hdots.1 hdots.2 (by simp) (by omega) s h
        split
        · next s' hfailed =>
          rw [hfailed] at hchild
          exact hchild
        · next s' hremoved =>
          rw [hremoved] at hchild
          exact hrest s' hchild
      · exact h

/-- A removal stays inside: its path is covered, and so is everything in the directory it
may lead to. The induction is on how much longer a path can become. -/
theorem Within.removeTree {path : Path} {s : Removal}
    (hclosed : ∀ directory name ino, S directory → before.entry directory name = some ino → S ino)
    (h : Within before S place s.tree) (hcovered : Covered before S place cwd path)
    (hdirectory : ∀ ino, before.lstat cwd path = .ok ino → before.isDirectory ino = true → S ino) :
    Within before S place (removeTree C cwd path s).2.tree := by
  unfold SystemSettings.removeTree
  split
  · exact h
  · exact h
  · next ino hlstat =>
    have hfound : before.lstat cwd path = .ok ino := by
      rw [Removal.lstat] at hlstat
      split at hlstat
      · cases hlstat
      · exact h.lstat hlstat
    split
    · refine Within.removes (s := s.next) h hcovered Removal.unlink_removes fun ino hfile hdir => ?_
      rw [hfile] at hdir
      cases hdir
    · next hisDirectory =>
      rw [Bool.not_eq_true', Bool.not_eq_false, h.fewer.isDirectory] at hisDirectory
      have hS := hdirectory ino hfound hisDirectory
      have hresolve := DiskTree.resolve_of_lstat hfound hisDirectory
      have hpath : path ≠ [] := by
        rintro rfl
        cases hfound
      split
      · exact h
      · next names hopendir =>
        -- what `readdir` gives are entries of the directory
        have hnames : ∀ name ∈ names, name ≠ dot → name ≠ dotDot → PlainName name := by
          intro name hname hdot hdotDot
          unfold Removal.opendir at hopendir
          split at hopendir
          · cases hopendir
          · split at hopendir
            · cases hopendir
            · obtain ⟨-, heq⟩ := (Option.ite_none_right_eq_some ..).mp hopendir
              rw [← Option.some.inj heq] at hname
              have hlisted := (List.mem_filter.mp hname).2
              simp only [hdot, hdotDot, decide_false, Bool.false_or, Option.isSome_iff_exists]
                at hlisted
              obtain ⟨child, hchild⟩ := hlisted
              exact DiskTree.plain_of_entry hchild
        have hloop : Within before S place
            (SystemSettings.removeEntries path
              (fun child _ _ => SystemSettings.removeTree C cwd child) names
              s.next.next).2.tree := by
          refine Within.removeEntries (s := s.next.next) h
            fun name hname hdot hdotDot hlonger hshort s hs => ?_
          have hplain := hnames name hname hdot hdotDot
          have hlocate : before.locate cwd (path ++ separator :: name) = .ok (ino, name) := by
            rw [DiskTree.locate_child hpath hplain.1, hresolve]
            rfl
          refine Within.removeTree hclosed hs ?_ ?_
          · intro directory other heq
            rw [hlocate] at heq
            obtain ⟨rfl, rfl⟩ := Prod.mk.inj (Except.ok.inj heq)
            exact .inl hS
          · intro child hchild _
            rw [DiskTree.lstat, hlocate] at hchild
            exact hclosed ino name child hS
              ((DiskTree.find_eq_ok_iff hplain.2.1 hplain.2.2).mp hchild)
        split
        · next s' hfailed =>
          rw [hfailed] at hloop
          exact hloop
        · next s' hremoved =>
          rw [hremoved] at hloop
          split
          · refine Within.removes (s := s'.next) hloop hcovered Removal.rmdir_removes ?_
            exact fun _ hnone _ => hnone
          · exact hloop
termination_by pathMax - path.length

end

/-! ## What a success says -/

/-- The directories and files below a node, and the node itself. -/
def DiskTree.Below (tree : DiskTree) : ℕ → ℕ → Prop :=
  Relation.ReflTransGen fun directory ino => ∃ name, tree.entry directory name = some ino

/-- A path whose entry is removed leads nowhere. -/
theorem DiskTree.lstat_removeEntry {tree : DiskTree} {cwd directory ino : ℕ} {path : Path}
    {name : Name} (hlocate : tree.locate cwd path = .ok (directory, name))
    (hfind : tree.find directory name = .ok ino) (hdot : name ≠ dot) (hdotDot : name ≠ dotDot) :
    (tree.removeEntry directory name).lstat cwd path = .error .noent := by
  have hfewer := tree.removeEntry_fewer directory name
  have hgone : (tree.removeEntry directory name).find directory name = .error .noent := by
    rcases hfewer.find directory name with heq | hnone
    · have hentry : (tree.removeEntry directory name).entry directory name = none := by
        rw [entry_removeEntry, if_pos ⟨rfl, rfl⟩]
      rw [hfind, find_eq_ok_iff hdot hdotDot, hentry] at heq
      cases heq
    · exact hnone
  unfold DiskTree.lstat
  rcases hfewer.locate cwd path with heq | hnone
  · rw [heq, hlocate]
    exact hgone
  · rw [hnone]

variable {C cwd} {path : Path} {s : Removal}

/-- After a call that succeeds the path leads to nothing. -/
theorem RemovesEntry.gone {P : ℕ → Prop} {result : Bool × Removal}
    (hremoves : RemovesEntry cwd path s.tree P result) (h : result.1 = true) :
    result.2.tree.lstat cwd path = .error .noent ∧
      ∃ ino, s.tree.lstat cwd path = .ok ino ∧ P ino ∧
        (s.tree.entries ino = [] → result.2.tree.entries ino = []) := by
  rcases hremoves with ⟨hfalse, -⟩ |
    ⟨directory, name, ino, hlocate, hfind, hino, hdot, hdotDot, htree⟩
  · rw [h] at hfalse
    cases hfalse
  · rw [htree]
    refine ⟨DiskTree.lstat_removeEntry hlocate hfind hdot hdotDot, ino, ?_, hino, fun hempty => ?_⟩
    · rw [DiskTree.lstat, hlocate]
      exact hfind
    · rw [DiskTree.entries_removeEntry, hempty]
      split <;> rfl

/-- The loop only removes entries. -/
theorem removeEntries_fewer (C : RemovalCalls) (cwd : ℕ) (path : Path) (names : List Name)
    (s : Removal) :
    Fewer (removeEntries path (fun child _ _ => removeTree C cwd child) names s).2.tree s.tree := by
  have hwithin : Within s.tree (fun _ => True) (s.tree.locate cwd path)
      (removeEntries path (fun child _ _ => removeTree C cwd child) names s).2.tree := by
    refine Within.removeEntries (.refl _ _ _) fun name _ _ _ _ _ s' hs => ?_
    exact Within.removeTree (fun _ _ _ _ _ => trivial) hs (fun _ _ _ => .inl trivial)
      fun _ _ _ => trivial
  exact hwithin.fewer

/-- A success ends with the entry of a file or of an empty directory, or begins with nothing. -/
theorem removeTree_true (h : (removeTree C cwd path s).1 = true) :
    (removeTree C cwd path s).2.tree.lstat cwd path = .error .noent ∧
      ∀ root, s.tree.lstat cwd path = .ok root → s.tree.isDirectory root = true →
        (removeTree C cwd path s).2.tree.entries root = [] := by
  unfold removeTree at h ⊢
  cases hlstat : s.lstat C cwd path with
  | error error =>
    cases error with
    | noent =>
      have hnone : s.tree.lstat cwd path = .error .noent := by
        rw [Removal.lstat] at hlstat
        split at hlstat
        · cases hlstat
        · exact hlstat
      refine ⟨hnone, fun root hroot => ?_⟩
      rw [hnone] at hroot
      cases hroot
    | other =>
      rw [hlstat] at h
      cases h
  | ok ino =>
    have hfound : s.tree.lstat cwd path = .ok ino := by
      rw [Removal.lstat] at hlstat
      split at hlstat
      · cases hlstat
      · exact hlstat
    simp only [hlstat] at h ⊢
    cases hisDirectory : s.tree.isDirectory ino with
    | false =>
      rw [hisDirectory] at h
      refine ⟨(RemovesEntry.gone Removal.unlink_removes h).1, fun root hroot hdirectory => ?_⟩
      rw [Except.ok.inj (hfound.symm.trans hroot), hdirectory] at hisDirectory
      cases hisDirectory
    | true =>
      simp only [hisDirectory, Bool.not_true, Bool.false_eq_true, if_false] at h ⊢
      cases hopendir : s.next.opendir C cwd path with
      | none =>
        rw [hopendir] at h
        cases h
      | some names =>
        have hfewer := removeEntries_fewer C cwd path names s.next.next
        simp only [hopendir] at h ⊢
        cases hloop : removeEntries path (fun child _ _ => removeTree C cwd child) names
          s.next.next with
        | mk ok s' =>
        rw [hloop] at hfewer
        simp only [hloop] at h ⊢
        cases ok with
        | false => cases h
        | true =>
          dsimp only at h hfewer ⊢
          split at h
          · next hclose =>
            rw [if_pos hclose]
            obtain ⟨hgone, found, hroot', hempty, hstays⟩ :=
              RemovesEntry.gone Removal.rmdir_removes h
            have hleft := hstays hempty
            refine ⟨hgone, fun root hroot _ => ?_⟩
            rcases hfewer.lstat cwd path with heq | hnone
            · have hsame : s.tree.lstat cwd path = .ok found := heq.symm.trans hroot'
              rwa [Except.ok.inj (hroot.symm.trans hsame)]
            · have hsome : s'.tree.lstat cwd path = .ok found := hroot'
              rw [hnone] at hsome
              cases hsome
          · cases h

/-- **A removal stays inside its tree.** Whatever calls fail and wherever listings end, an entry
that is not what it was is gone, and it was that of the path or one of a directory below. After
a success the path leads nowhere, and no directory that was below has an entry. -/
theorem removeTree_stays_inside (C : RemovalCalls) (cwd : ℕ) (path : Path) (s : Removal) :
    Fewer (removeTree C cwd path s).2.tree s.tree ∧
    (∀ directory name,
      (removeTree C cwd path s).2.tree.entry directory name ≠ s.tree.entry directory name →
      s.tree.locate cwd path = .ok (directory, name) ∨
        ∃ root, s.tree.lstat cwd path = .ok root ∧ s.tree.isDirectory root = true ∧
          s.tree.Below root directory) ∧
    ((removeTree C cwd path s).1 = true →
      (removeTree C cwd path s).2.tree.lstat cwd path = .error .noent ∧
      ∀ root, s.tree.lstat cwd path = .ok root → s.tree.isDirectory root = true →
        ∀ ino, s.tree.Below root ino → ∀ name,
          (removeTree C cwd path s).2.tree.entry ino name = none) := by
  have hwithin : Within s.tree (fun directory => ∃ root, s.tree.lstat cwd path = .ok root ∧
      s.tree.isDirectory root = true ∧ s.tree.Below root directory) (s.tree.locate cwd path)
      (removeTree C cwd path s).2.tree := by
    refine Within.removeTree ?_ (.refl _ _ _) (fun directory name h => .inr h) ?_
    · rintro directory name ino ⟨root, hroot, hdirectory, hbelow⟩ hentry
      exact ⟨root, hroot, hdirectory, hbelow.tail ⟨name, hentry⟩⟩
    · intro ino hino hdirectory
      exact ⟨ino, hino, hdirectory, .refl⟩
  refine ⟨hwithin.fewer, fun directory name hne => (hwithin.inside directory name hne).symm, ?_⟩
  intro hsuccess
  obtain ⟨hgone, hroots⟩ := removeTree_true hsuccess
  refine ⟨hgone, fun root hroot hdirectory ino hbelow name => ?_⟩
  -- downwards from the directory itself, which is empty in the end
  have hempty : (removeTree C cwd path s).2.tree.entries ino = [] := by
    induction hbelow with
    | refl => exact hroots root hroot hdirectory
    | @tail above ino _ hentry ih =>
      obtain ⟨name, hentry⟩ := hentry
      cases hino : s.tree.isDirectory ino with
      | true =>
        exact hwithin.emptied above name ino hentry hino (DiskTree.entry_of_empty ih name)
      | false =>
        exact DiskTree.entries_of_not_directory ((hwithin.fewer.isDirectory ino).trans hino)
  exact DiskTree.entry_of_empty hempty name

end SystemSettings

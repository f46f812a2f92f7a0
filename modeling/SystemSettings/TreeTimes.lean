import Mathlib.Logic.Function.Basic
import SystemSettings.TreeComparison
import SystemSettings.TreeRemoval

/-!
# One time for a whole tree

`normalize_tree_times` of `source-asset-builder.c`: everything below a directory gets the time
of the release, and the directory itself last. It looks at each path with `lstat` before it
follows it, and it refuses what is neither a directory nor a regular file, so no time outside
the tree changes, whichever calls fail and wherever a listing ends.

Nobody else changes the tree. Each call may fail, and then it does nothing.
-/

namespace SystemSettings

/-- What the calls of a run answer, by their number. -/
structure TimeCalls : Type where
  /-- the call fails -/
  fails : ℕ → Bool
  /-- the names that `readdir` gives of a directory that an `opendir` opened: in any order, and
  as far as the listing goes -/
  listing : ℕ → ℕ → List Name
  /-- `S_ISREG`, of what is neither a directory nor a link -/
  regular : ℕ → Bool

/-- When each node was modified, and how many calls have been made. -/
structure Dated : Type where
  modified : ℕ → ℤ
  calls : ℕ

/-- A call that leaves the times alone. -/
def Dated.next (s : Dated) : Dated := ⟨s.modified, s.calls + 1⟩

variable (C : TimeCalls) (tree : DiskTree) (cwd : ℕ)

/-- `S_ISREG` -/
def TimeCalls.isRegular (ino : ℕ) : Bool :=
  match tree.node ino with
  | some (.other _) => C.regular ino
  | _ => false

/-- `lstat` -/
def Dated.lstat (path : Path) (s : Dated) : Except PathError ℕ :=
  if C.fails s.calls then .error .other else tree.lstat cwd path

/-- `opendir`, and the names that `readdir` is going to give -/
def Dated.opendir (path : Path) (s : Dated) : Option (List Name) :=
  if C.fails s.calls || path = [] then none
  else
    match tree.resolve cwd path with
    | .error _ => none
    | .ok ino =>
      if tree.isDirectory ino then
        some ((C.listing s.calls ino).filter fun name =>
          name = dot || name = dotDot || (tree.entry ino name).isSome)
      else none

/-- `closedir` -/
def Dated.closedir (s : Dated) : Bool := !C.fails s.calls

/-- `utimensat` of the current directory, which follows every link -/
def Dated.utimensat (path : Path) (epoch : ℤ) (s : Dated) : Bool × Dated :=
  if C.fails s.calls || path = [] then (false, s.next)
  else
    match tree.resolve cwd path with
    | .error _ => (false, s.next)
    | .ok ino => (true, ⟨Function.update s.modified ino epoch, s.calls + 1⟩)

/-- A relative path grows with each name. -/
theorem childRelative_length {relative child : Path} {name : Name}
    (h : childRelative relative name = some child) :
    relative.length < child.length ∧ child.length < pathMax := by
  rw [childRelative] at h
  split at h
  · next hempty =>
    obtain ⟨⟨hname, hshort⟩, ⟨⟩⟩ := (Option.ite_none_right_eq_some ..).mp h
    rw [hempty]
    exact ⟨List.length_pos_iff.mpr hname, hshort⟩
  · obtain ⟨hshort, ⟨⟩⟩ := (Option.ite_none_right_eq_some ..).mp h
    exact ⟨by simp, hshort⟩

/-- A child gets its time when it has been looked at without a failure. -/
def dateChild (childPath : Path) (epoch : ℤ) : Bool × Dated → Bool × Dated
  | (false, s) => (false, s)
  | (true, s) => s.utimensat C tree cwd childPath epoch

/-- The body of the loop, for a name other than `.` and `..`. -/
def normalizeEntry (root relative : Path) (epoch : ℤ)
    (normalize : ∀ child : Path, relative.length < child.length → child.length < pathMax →
      Dated → Bool × Dated) (name : Name) (s : Dated) : Bool × Dated :=
  match hchild : childRelative relative name with
  | none => (false, s)
  | some child =>
    match pathJoin pathMax root child with
    | none => (false, s)
    | some childPath =>
      match s.lstat C tree cwd childPath with
      | .error _ => (false, s.next)
      | .ok ino =>
        dateChild C tree cwd childPath epoch <|
          if tree.isDirectory ino then
            normalize child (childRelative_length hchild).1 (childRelative_length hchild).2 s.next
          else (C.isRegular tree ino, s.next)

/-- The loop over the entries. -/
def normalizeEntries (root relative : Path) (epoch : ℤ)
    (normalize : ∀ child : Path, relative.length < child.length → child.length < pathMax →
      Dated → Bool × Dated) : List Name → Dated → Bool × Dated
  | [], s => (true, s)
  | name :: names, s =>
    if name = dot ∨ name = dotDot then normalizeEntries root relative epoch normalize names s
    else
      match normalizeEntry C tree cwd root relative epoch normalize name s with
      | (false, s) => (false, s)
      | (true, s) => normalizeEntries root relative epoch normalize names s

/-- `normalize_tree_times` -/
def normalizeTreeTimes (root : Path) (epoch : ℤ) (relative : Path) (s : Dated) : Bool × Dated :=
  match directoryPath root relative with
  | none => (false, s)
  | some path =>
    match s.opendir C tree cwd path with
    | none => (false, s.next)
    | some names =>
      match normalizeEntries C tree cwd root relative epoch
          (fun child _ _ => normalizeTreeTimes root epoch child) names s.next with
      | (false, s) => (false, s.next)
      | (true, s) =>
        if s.closedir C then s.next.utimensat C tree cwd path epoch else (false, s.next)
termination_by pathMax - relative.length

/-! ## The times that change -/

/-- The times of nodes in `S` may have become that of the release, and no others have changed. -/
def Redates (epoch : ℤ) (S : ℕ → Prop) (s s' : Dated) : Prop :=
  ∀ ino, s'.modified ino = s.modified ino ∨ s'.modified ino = epoch ∧ S ino

section

variable {epoch : ℤ} {S S' : ℕ → Prop} {s s' s'' : Dated}

theorem Redates.refl (epoch : ℤ) (S : ℕ → Prop) (s : Dated) : Redates epoch S s s :=
  fun _ => .inl rfl

theorem Redates.trans (h : Redates epoch S s s') (h' : Redates epoch S s' s'') :
    Redates epoch S s s'' := by
  intro ino
  rcases h' ino with hsame | hchanged
  · rw [hsame]
    exact h ino
  · exact .inr hchanged

theorem Redates.mono (h : Redates epoch S s s') (hS : ∀ ino, S ino → S' ino) :
    Redates epoch S' s s' :=
  fun ino => (h ino).imp_right fun hchanged => ⟨hchanged.1, hS ino hchanged.2⟩

/-- A time that is that of the release stays so. -/
theorem Redates.keeps (h : Redates epoch S s s') {ino : ℕ} (hs : s.modified ino = epoch) :
    s'.modified ino = epoch := by
  rcases h ino with hsame | hchanged
  · exact hsame.trans hs
  · exact hchanged.1

end

/-- Everything below a node is a directory or a regular file and has the time of the release. -/
def Uniform (epoch : ℤ) (node : ℕ) (s : Dated) : Prop :=
  ∀ ino, tree.Below node ino →
    (tree.isDirectory ino = true ∨ C.isRegular tree ino = true) ∧ s.modified ino = epoch

/-- Every listing gives all the names of the directory. -/
def TimeCalls.Complete : Prop :=
  ∀ call directory name ino, tree.entry directory name = some ino → name ∈ C.listing call directory

/-- What a call for a node comes to. -/
structure Normalized (epoch : ℤ) (node : ℕ) (s : Dated) (result : Bool × Dated) : Prop where
  redates : Redates epoch (tree.Below node) s result.2
  uniform : result.1 = true → C.Complete tree → Uniform C tree epoch node result.2

variable {C tree cwd} {root relative path : Path} {epoch : ℤ} {node : ℕ} {s : Dated}

theorem Uniform.redates {S : ℕ → Prop} {s' : Dated} (h : Uniform C tree epoch node s)
    (hs : Redates epoch S s s') : Uniform C tree epoch node s' :=
  fun ino hbelow => ⟨(h ino hbelow).1, hs.keeps (h ino hbelow).2⟩

/-- `utimensat` changes the time of what the path leads to. -/
theorem Dated.utimensat_redates (C : TimeCalls) (epoch : ℤ) (s : Dated)
    (hresolve : tree.resolve cwd path = .ok node) :
    Redates epoch (· = node) s (s.utimensat C tree cwd path epoch).2 ∧
      ((s.utimensat C tree cwd path epoch).1 = true →
        (s.utimensat C tree cwd path epoch).2.modified node = epoch) := by
  rw [Dated.utimensat]
  split
  · exact ⟨.refl _ _ _, by simp⟩
  · rw [hresolve]
    refine ⟨fun ino => ?_, fun _ => Function.update_self ..⟩
    by_cases hino : ino = node
    · rw [hino]
      exact .inr ⟨Function.update_self .., rfl⟩
    · exact .inl (Function.update_of_ne hino ..)

/-- The path of a child is that of its directory and its name. -/
theorem childPath_eq {child childPath : Path} {name : Name}
    (hpath : directoryPath root relative = some path)
    (hchild : childRelative relative name = some child)
    (hjoin : pathJoin pathMax root child = some childPath) :
    childPath = path ++ separator :: name ∧ directoryPath root child = some childPath := by
  have hne : child ≠ [] := by
    rintro rfl
    exact absurd (childRelative_length hchild).1 (Nat.not_lt_zero _)
  refine ⟨?_, by rw [directoryPath, if_neg hne, hjoin]⟩
  obtain ⟨-, ⟨⟩⟩ := (Option.ite_none_right_eq_some ..).mp hjoin
  rw [directoryPath] at hpath
  rw [childRelative] at hchild
  by_cases hempty : relative = []
  · rw [if_pos hempty] at hpath hchild
    obtain ⟨-, ⟨⟩⟩ := (Option.ite_none_right_eq_some ..).mp hpath
    obtain ⟨-, ⟨⟩⟩ := (Option.ite_none_right_eq_some ..).mp hchild
    rfl
  · rw [if_neg hempty] at hpath hchild
    obtain ⟨-, ⟨⟩⟩ := (Option.ite_none_right_eq_some ..).mp hpath
    obtain ⟨-, ⟨⟩⟩ := (Option.ite_none_right_eq_some ..).mp hchild
    simp

/-! ## The walk -/

/-- Nothing is below what is no directory. -/
theorem DiskTree.Below.eq_of_not_directory {ino : ℕ} (h : tree.Below node ino)
    (hnode : tree.isDirectory node = false) : ino = node := by
  rcases Relation.ReflTransGen.cases_head h with heq | ⟨child, ⟨name, hentry⟩, -⟩
  · exact heq.symm
  · rw [DiskTree.entry_of_empty (DiskTree.entries_of_not_directory hnode)] at hentry
    cases hentry

/-- A regular file is no link. -/
theorem TimeCalls.isRegular_pointsTo (h : C.isRegular tree node = true) :
    tree.pointsTo node = none := by
  rw [TimeCalls.isRegular] at h
  split at h
  · next hnode => simp [DiskTree.pointsTo, hnode]
  · cases h

/-- The time of a node is the last one of those below it to change. -/
theorem Normalized.dateChild {visited : Bool × Dated}
    (hredates : Redates epoch (tree.Below node) s visited.2)
    (hresolve : visited.1 = true → tree.resolve cwd path = .ok node)
    (hvisited : visited.1 = true → C.Complete tree → ∀ ino, tree.Below node ino →
      (tree.isDirectory ino = true ∨ C.isRegular tree ino = true) ∧
        (ino = node ∨ visited.2.modified ino = epoch)) :
    Normalized C tree epoch node s (dateChild C tree cwd path epoch visited) := by
  obtain ⟨ok, s'⟩ := visited
  cases ok with
  | false => exact ⟨hredates, by simp [SystemSettings.dateChild]⟩
  | true =>
    have hlast := Dated.utimensat_redates C epoch s' (hresolve rfl)
    refine ⟨hredates.trans (hlast.1.mono ?_), fun hok hcomplete ino hbelow => ?_⟩
    · rintro _ rfl
      exact .refl
    · obtain ⟨hkind, htime⟩ := hvisited rfl hcomplete ino hbelow
      refine ⟨hkind, ?_⟩
      rcases htime with rfl | htime
      · exact hlast.2 hok
      · exact hlast.1.keeps htime

/-- The body of the loop comes to a normalized child, when a call for a directory does. -/
theorem normalizeEntry_normalized {normalize : ∀ child : Path, relative.length < child.length →
      child.length < pathMax → Dated → Bool × Dated} {name : Name} {child : ℕ}
    (hpath : directoryPath root relative = some path) (hne : path ≠ [])
    (hresolve : tree.resolve cwd path = .ok node) (hentry : tree.entry node name = some child)
    (hnormalize : ∀ below hlonger hshort s belowPath ino,
      directoryPath root below = some belowPath → belowPath ≠ [] →
      tree.resolve cwd belowPath = .ok ino →
      Normalized C tree epoch ino s (normalize below hlonger hshort s)) :
    Normalized C tree epoch child s
      (normalizeEntry C tree cwd root relative epoch normalize name s) := by
  have hunchanged (s' : Dated) (hs : s'.modified = s.modified) :
      Normalized C tree epoch child s (false, s') :=
    ⟨fun ino => .inl (congrFun hs ino), by simp⟩
  rw [normalizeEntry]
  split
  · exact hunchanged s rfl
  · next relativeChild hchild =>
    split
    · exact hunchanged s rfl
    · next childPath hjoin =>
      obtain ⟨rfl, hdirectory⟩ := childPath_eq hpath hchild hjoin
      have hplain := DiskTree.plain_of_entry hentry
      have hlstat : tree.lstat cwd (path ++ separator :: name) = .ok child := by
        rw [DiskTree.lstat, DiskTree.locate_child hne hplain.1, hresolve]
        exact DiskTree.find_of_entry hentry
      split
      · exact hunchanged s.next rfl
      · next ino hfound =>
        have hino : ino = child := by
          rw [Dated.lstat] at hfound
          split at hfound
          · cases hfound
          · exact Except.ok.inj (hfound.symm.trans hlstat)
        rw [hino]
        by_cases hisDirectory : tree.isDirectory child = true
        · have hto := DiskTree.resolve_of_lstat hlstat hisDirectory
          have hbelow := hnormalize relativeChild (childRelative_length hchild).1
            (childRelative_length hchild).2 s.next _ _ hdirectory (by simp) hto
          simp only [if_pos hisDirectory]
          refine Normalized.dateChild hbelow.redates (fun _ => hto) fun hok hcomplete ino h => ?_
          obtain ⟨hkind, htime⟩ := hbelow.uniform hok hcomplete ino h
          exact ⟨hkind, .inr htime⟩
        · simp only [if_neg hisDirectory]
          refine Normalized.dateChild (.refl _ _ _) (fun hregular => ?_) fun hregular _ ino h => ?_
          · have hlink := TimeCalls.isRegular_pointsTo hregular
            exact DiskTree.resolve_of_lstat_of_no_link hlstat hlink
          · obtain rfl := h.eq_of_not_directory (Bool.not_eq_true _ ▸ hisDirectory)
            exact ⟨.inr hregular, .inl rfl⟩

/-- The loop changes times below the directory only, and comes to every name. -/
theorem normalizeEntries_normalized (C : TimeCalls) (epoch : ℤ) (s : Dated) {names : List Name}
    {normalize : ∀ child : Path, relative.length < child.length → child.length < pathMax →
      Dated → Bool × Dated}
    (hpath : directoryPath root relative = some path) (hne : path ≠ [])
    (hresolve : tree.resolve cwd path = .ok node)
    (hnames : ∀ name ∈ names, name ≠ dot → name ≠ dotDot →
      ∃ child, tree.entry node name = some child)
    (hnormalize : ∀ below hlonger hshort s belowPath ino,
      directoryPath root below = some belowPath → belowPath ≠ [] →
      tree.resolve cwd belowPath = .ok ino →
      Normalized C tree epoch ino s (normalize below hlonger hshort s)) :
    Redates epoch (tree.Below node) s
        (normalizeEntries C tree cwd root relative epoch normalize names s).2 ∧
      ((normalizeEntries C tree cwd root relative epoch normalize names s).1 = true →
        C.Complete tree → ∀ name ∈ names, ∀ child, tree.entry node name = some child →
          Uniform C tree epoch child
            (normalizeEntries C tree cwd root relative epoch normalize names s).2) := by
  induction names generalizing s with
  | nil => exact ⟨.refl _ _ _, by simp⟩
  | cons name names ih =>
    have hrest (s : Dated) := ih s fun other hother =>
      hnames other (List.mem_cons_of_mem _ hother)
    rw [normalizeEntries]
    by_cases hdots : name = dot ∨ name = dotDot
    · simp only [if_pos hdots]
      refine ⟨(hrest s).1, fun hok hcomplete other hother child hentry => ?_⟩
      rcases List.mem_cons.mp hother with rfl | hother
      · have hplain := DiskTree.plain_of_entry hentry
        exact (hdots.elim hplain.2.1 hplain.2.2).elim
      · exact (hrest s).2 hok hcomplete other hother child hentry
    · simp only [if_neg hdots]
      rw [not_or] at hdots
      obtain ⟨child, hentry⟩ := hnames name List.mem_cons_self hdots.1 hdots.2
      have hchild := normalizeEntry_normalized (s := s) hpath hne hresolve hentry hnormalize
      have hbelow : Redates epoch (tree.Below node) s
          (normalizeEntry C tree cwd root relative epoch normalize name s).2 :=
        hchild.redates.mono fun ino => .head ⟨name, hentry⟩
      generalize normalizeEntry C tree cwd root relative epoch normalize name s = visited at *
      obtain ⟨ok, s'⟩ := visited
      cases ok with
      | false => exact ⟨hbelow, by simp⟩
      | true =>
        refine ⟨hbelow.trans (hrest s').1, fun hok hcomplete other hother found hfound => ?_⟩
        rcases List.mem_cons.mp hother with rfl | hother
        · obtain rfl := Option.some.inj (hentry.symm.trans hfound)
          exact (hchild.uniform rfl hcomplete).redates (hrest s').1
        · exact (hrest s').2 hok hcomplete other hother found hfound

/-- A call for a directory changes times below it only, and after a success all of them are
that of the release. The induction is on how much longer a relative path can become. -/
theorem normalizeTreeTimes_normalized (C : TimeCalls) (epoch : ℤ) {relative path : Path} {node : ℕ}
    (s : Dated)
    (hpath : directoryPath root relative = some path) (hne : path ≠ [])
    (hresolve : tree.resolve cwd path = .ok node) :
    Normalized C tree epoch node s (normalizeTreeTimes C tree cwd root epoch relative s) := by
  rw [normalizeTreeTimes, hpath]
  dsimp only
  cases hopendir : s.opendir C tree cwd path with
  | none => exact ⟨.refl _ _ _, by simp⟩
  | some names =>
    rw [Dated.opendir, hresolve] at hopendir
    obtain ⟨-, hopendir⟩ := (Option.ite_none_left_eq_some ..).mp hopendir
    obtain ⟨hisDirectory, hnames⟩ := (Option.ite_none_right_eq_some ..).mp hopendir
    have hlisted : ∀ name ∈ names, name ≠ dot → name ≠ dotDot →
        ∃ child, tree.entry node name = some child := by
      intro name hname hdot hdotDot
      rw [← Option.some.inj hnames] at hname
      have hfound := (List.mem_filter.mp hname).2
      simpa only [hdot, hdotDot, decide_false, Bool.false_or, Option.isSome_iff_exists] using hfound
    have hloop := normalizeEntries_normalized C epoch s.next hpath hne hresolve
      hlisted fun below hlonger hshort s belowPath ino hbelow hnebelow hresolves =>
        normalizeTreeTimes_normalized C epoch s hbelow hnebelow hresolves
    cases hvisited : normalizeEntries C tree cwd root relative epoch
        (fun child _ _ => normalizeTreeTimes C tree cwd root epoch child) names s.next with
    | mk ok s' =>
      rw [hvisited] at hloop
      dsimp only
      rw [hvisited]
      cases ok with
      | false => exact ⟨hloop.1, by simp⟩
      | true =>
        dsimp only
        by_cases hclosedir : s'.closedir C = true
        · rw [if_pos hclosedir]
          have hlast := Dated.utimensat_redates C epoch s'.next hresolve
          refine ⟨hloop.1.trans (hlast.1.mono ?_), fun hok hcomplete ino hbelow => ?_⟩
          · rintro _ rfl
            exact .refl
          · rcases Relation.ReflTransGen.cases_head hbelow with rfl | ⟨child, ⟨name, hentry⟩, hrest⟩
            · exact ⟨.inl hisDirectory, hlast.2 hok⟩
            · have hmem : name ∈ names := by
                rw [← Option.some.inj hnames]
                refine List.mem_filter.mpr ⟨hcomplete _ _ _ _ hentry, ?_⟩
                rw [hentry]
                simp
              exact ((hloop.2 rfl hcomplete name hmem child hentry).redates hlast.1) ino hrest
        · rw [if_neg hclosedir]
          exact ⟨hloop.1, by simp⟩
termination_by pathMax - relative.length

/-- **The times of a tree are normalized, and no others.** Whatever calls fail and wherever
listings end, a time that changes becomes that of the release, and it is that of a node below the
directory. After a success with complete listings everything below is a directory or a regular
file, and its time is that of the release. -/
theorem tree_times_normalized (C : TimeCalls) (tree : DiskTree) (cwd : ℕ) (root : Path)
    (epoch : ℤ) (s : Dated) :
    (∀ ino, (normalizeTreeTimes C tree cwd root epoch [] s).2.modified ino ≠ s.modified ino →
      (normalizeTreeTimes C tree cwd root epoch [] s).2.modified ino = epoch ∧
        ∃ top, tree.resolve cwd root = .ok top ∧ tree.isDirectory top = true ∧
          tree.Below top ino) ∧
    ((normalizeTreeTimes C tree cwd root epoch [] s).1 = true → C.Complete tree →
      ∃ top, tree.resolve cwd root = .ok top ∧ tree.isDirectory top = true ∧
        ∀ ino, tree.Below top ino →
          (tree.isDirectory ino = true ∨ C.isRegular tree ino = true) ∧
            (normalizeTreeTimes C tree cwd root epoch [] s).2.modified ino = epoch) := by
  by_cases hopens : directoryPath root [] = some root ∧ root ≠ [] ∧
      ∃ top, tree.resolve cwd root = .ok top ∧ tree.isDirectory top = true
  · obtain ⟨hpath, hne, top, hresolve, hisDirectory⟩ := hopens
    obtain ⟨hredates, huniform⟩ := normalizeTreeTimes_normalized C epoch s hpath hne
      hresolve
    refine ⟨fun ino hchanged => ?_, fun hok hcomplete => ?_⟩
    · obtain ⟨htime, hbelow⟩ := (hredates ino).resolve_left hchanged
      exact ⟨htime, top, hresolve, hisDirectory, hbelow⟩
    · exact ⟨top, hresolve, hisDirectory, huniform hok hcomplete⟩
  · have hfails : ∃ s', normalizeTreeTimes C tree cwd root epoch [] s = (false, s') ∧
        s'.modified = s.modified := by
      rw [normalizeTreeTimes]
      cases hpath : directoryPath root [] with
      | none => exact ⟨s, rfl, rfl⟩
      | some path =>
        obtain ⟨hshort, ⟨⟩⟩ := (Option.ite_none_right_eq_some ..).mp hpath
        have hclosed : s.opendir C tree cwd root = none := by
          rw [Dated.opendir]
          split
          · rfl
          · next hopen =>
            rw [Bool.or_eq_true, not_or, decide_eq_true_eq] at hopen
            split
            · rfl
            · next top hresolve =>
              split
              · next hisDirectory =>
                exact (hopens ⟨hpath, hopen.2, top, hresolve, hisDirectory⟩).elim
              · rfl
        dsimp only
        rw [hclosed]
        exact ⟨s.next, rfl, rfl⟩
    obtain ⟨s', heq, hsame⟩ := hfails
    rw [heq]
    exact ⟨fun ino hchanged => (hchanged (congrFun hsame ino)).elim, by simp⟩

/-- A directory with a file and with a directory that holds another. -/
def nestedFiles : DiskTree where
  root := 0
  node
    | 0 => some (.directory 0 [(bytes "debian", 1), (bytes "VERSION", 2)])
    | 1 => some (.directory 0 [(bytes "control", 3)])
    | 2 | 3 => some (.other [])
    | _ => none
  plain ino parent entries h := by
    match ino with
    | 0 =>
      obtain ⟨-, rfl⟩ := DiskNode.directory.inj (Option.some.inj h)
      exact List.forall_mem_cons.mpr ⟨⟨⟨by decide, by decide⟩, by decide, by decide⟩,
        List.forall_mem_singleton.mpr ⟨⟨by decide, by decide⟩, by decide, by decide⟩⟩
    | 1 =>
      obtain ⟨-, rfl⟩ := DiskNode.directory.inj (Option.some.inj h)
      exact List.forall_mem_singleton.mpr ⟨⟨by decide, by decide⟩, by decide, by decide⟩
    | 2 | 3 => cases h
    | _ + 4 => cases h

/-- Nothing fails, and every listing is complete. -/
def TimeCalls.good (tree : DiskTree) : TimeCalls where
  fails _ := false
  listing _ directory := (tree.entries directory).map Prod.fst
  regular _ := true

theorem TimeCalls.good_complete (tree : DiskTree) : (good tree).Complete tree := by
  intro call directory name ino hentry
  obtain ⟨found, hfound, -⟩ := Option.map_eq_some_iff.mp hentry
  have hname : found.1 = name := by simpa using List.find?_some hfound
  exact List.mem_map.mpr ⟨found, List.mem_of_find?_eq_some hfound, hname⟩

/-- It goes well there. -/
theorem nestedFiles_normalized : (normalizeTreeTimes (.good nestedFiles) nestedFiles 0 dot 7 []
    ⟨fun _ => 0, 0⟩).1 = true := by
  decide +kernel

theorem tree_times_normalized_nested : ∃ top, nestedFiles.resolve 0 dot = .ok top ∧
    nestedFiles.isDirectory top = true ∧ ∀ ino, nestedFiles.Below top ino →
      (nestedFiles.isDirectory ino = true ∨
          (TimeCalls.good nestedFiles).isRegular nestedFiles ino = true) ∧
        (normalizeTreeTimes (.good nestedFiles) nestedFiles 0 dot 7 []
          ⟨fun _ => 0, 0⟩).2.modified ino = 7 :=
  (tree_times_normalized (.good nestedFiles) nestedFiles 0 dot 7 ⟨fun _ => 0, 0⟩).2
    nestedFiles_normalized (TimeCalls.good_complete nestedFiles)

end SystemSettings

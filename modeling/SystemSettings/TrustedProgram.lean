import SystemSettings.ShellCommand

/-!
# A trusted program cannot be swapped

The checks of the lookup hold at different times, and the other users act in
between. Going down from the root, each directory of the path is found to be
protected, so its entry for the next name is always the same; no name is a link
when the path is resolved, so it never is one.
-/

namespace SystemSettings

variable {schedule : ℕ → FileTree} {user : User}

/-! ## What the checks have seen -/

theorem modeIsTrusted_iff (mode : BitVec 12) :
    modeIsTrusted mode = true ↔ mode &&& 0o022 = 0 := by
  rw [modeIsTrusted, decide_eq_true_iff]
  rfl

/-- A trusted directory is a protected one. -/
theorem trustedDirectory_eq_true {path : Path} {k : ℕ} :
    (trustedDirectory schedule user path k).1 = true ↔
      ∃ ino directory, (stat schedule user path k).1 = some (ino, directory) ∧
        directory.isDirectory = true ∧ directory.Protected := by
  rw [trustedDirectory, Look.bind_apply]
  cases (stat schedule user path k).1 with
  | none => exact ⟨nofun, nofun⟩
  | some found =>
    obtain ⟨ino, status⟩ := found
    change (status.isDirectory && status.owner = 0 && modeIsTrusted status.mode) = true ↔ _
    simp [FileNode.Protected, modeIsTrusted_iff, and_assoc]

/-- The walk over the parents has seen every directory up to the root. -/
theorem yields_trustedParents (current : { path : Path // isAbsolute path = true }) :
    Yields (trustedParents schedule user current) fun trusted => trusted = true →
      ∀ n, ∃ k, (trustedDirectory schedule user (pathGetDirname^[n] current.1) k).1 = true := by
  rw [trustedParents]
  refine (Yields.observed _).bind fun trusted htrusted => ?_
  cases trusted with
  | false => exact Yields.pure nofun
  | true =>
    rw [if_pos rfl]
    split_ifs with hroot hfixed
    · refine Yields.pure fun _ n => ?_
      rw [hroot, Function.iterate_fixed pathGetDirname_root, ← hroot]
      exact htrusted
    · exact Yields.pure nofun
    · refine (yields_trustedParents ⟨_, isAbsolute_pathGetDirname current.2⟩).mono
        fun _ hparents htrue n => ?_
      cases n with
      | zero => exact htrusted
      | succ n => exact hparents htrue n
termination_by current.1.length
decreasing_by exact length_pathGetDirname_lt current.2 hroot

theorem yields_trustedParentChain (path : Path) :
    Yields (trustedParentChain schedule user path) fun trusted => trusted = true →
      ∀ n, ∃ k, (trustedDirectory schedule user (pathGetDirname^[n + 1] path) k).1 = true := by
  rw [trustedParentChain]
  split_ifs with habsolute
  · exact yields_trustedParents _
  · exact Yields.pure nofun

/-- What the checks have seen of the path that is returned, each at its time. -/
structure Checked (schedule : ℕ → FileTree) (user : User) (path : Path) : Prop where
  resolved : ∃ names, Resolved schedule user names ∧ path = rootedPath names
  file : ∃ k ino file, (stat schedule user path k).1 = some (ino, file) ∧
    file.isRegular = true ∧ file.Protected
  parents : ∀ n, ∃ k,
    (trustedDirectory schedule user (pathGetDirname^[n + 1] path) k).1 = true
  executable : ∃ k, (fileTestIsExecutable schedule user path k).1 = true

theorem yields_trustedSystemExecutable (directory candidate : Path) :
    Yields (trustedSystemExecutable schedule user directory candidate)
      fun found => ∀ path, found = some path → Checked schedule user path := by
  rw [trustedSystemExecutable]
  refine (Yields.observed _).bind fun trusted _ => ?_
  split_ifs
  · refine (yields_realpath candidate).bind fun found hfound => ?_
    cases found with
    | none => exact Yields.pure nofun
    | some resolved =>
      refine (Yields.observed _).bind fun status hstatus => ?_
      cases status with
      | none => exact Yields.pure nofun
      | some found =>
        obtain ⟨ino, file⟩ := found
        simp only
        split_ifs with hfile
        · refine (yields_trustedParentChain resolved).bind fun chain hchain => ?_
          split_ifs with hchained
          · refine (Yields.observed _).bind fun executable hexecutable => ?_
            split_ifs with hexec
            · refine Yields.pure fun path heq => ?_
              cases heq
              obtain ⟨k, hstat⟩ := hstatus
              simp only [Bool.and_eq_true, decide_eq_true_eq, modeIsTrusted_iff] at hfile
              exact ⟨hfound _ rfl, ⟨k, ino, file, hstat, hfile.1.1, hfile.1.2, hfile.2⟩,
                hchain hchained, hexec ▸ hexecutable⟩
            · exact Yields.pure nofun
          · exact Yields.pure nofun
        · exact Yields.pure nofun
  · exact Yields.pure nofun

theorem yields_findTrustedSystemProgram (program : Option Name) :
    Yields (findTrustedSystemProgram schedule user program)
      fun found => ∀ path, found = some path → Checked schedule user path := by
  have hloop (name : Name) (directories : List Path) :
      Yields (findInDirectories schedule user name directories)
        fun found => ∀ path, found = some path → Checked schedule user path := by
    induction directories with
    | nil => exact Yields.pure nofun
    | cons directory directories ih =>
      rw [findInDirectories]
      refine (yields_trustedSystemExecutable _ _).bind fun found hfound => ?_
      cases found with
      | none => exact ih
      | some resolved => exact Yields.pure hfound
  cases program with
  | none => exact Yields.pure nofun
  | some name =>
    rw [findTrustedSystemProgram]
    split_ifs
    · exact Yields.pure nofun
    · exact hloop name trustedDirectories

/-! ## What follows for all times -/

theorem stat_rootedPath {names : List Name} (h : ∀ name ∈ names, EntryName name) :
    stat schedule user (rootedPath names) = statNames schedule user true names := by
  rw [stat, if_pos (isAbsolute_rootedPath names), pathNames_rootedPath h]

theorem lstat_rootedPath {names : List Name} (h : ∀ name ∈ names, EntryName name) :
    lstat schedule user (rootedPath names) = statNames schedule user false names := by
  rw [lstat, if_pos (isAbsolute_rootedPath names), pathNames_rootedPath h]

theorem Resolved.plainName {names : List Name} (h : Resolved schedule user names) {name : Name}
    (hname : name ∈ names) : PlainName name := by
  obtain ⟨front, tail, rfl⟩ := List.append_of_mem hname
  exact (h front name ⟨tail, by simp⟩).1

/-- A protected node that a path has led to is what it always leads to. -/
theorem statNames_always (hshared : SharedTree schedule) {names : List Name} {last : Ino}
    (h : Leads schedule user (schedule 0).root names last) {ino : Ino} {node : FileNode} {j : ℕ}
    (hstat : (statNames schedule user true names j).1 = some (ino, node))
    (hnode : node.Protected) (follow : Bool) (k : ℕ) :
    (statNames schedule user follow names k).1 = some (ino, node) := by
  obtain ⟨i, hi⟩ := h.statNames hshared true j
  obtain ⟨found, hfound, heq⟩ := Option.map_eq_some_iff.mp (hi.symm.trans hstat)
  cases heq
  obtain ⟨i', hi'⟩ := h.statNames hshared follow k
  rw [hi', hshared.same hnode hfound i', Option.map_some]

theorem Leads.of_prefix {names front : List Name} {ino last : Ino}
    (h : Leads schedule user ino names last) (hfront : front <+: names) :
    ∃ middle, Leads schedule user ino front middle := by
  induction h generalizing front with
  | nil ino =>
    rw [List.prefix_nil.mp hfront]
    exact ⟨ino, .nil ino⟩
  | cons hchild hplain _ ih =>
    cases front with
    | nil => exact ⟨_, .nil _⟩
    | cons other front =>
      obtain ⟨rfl, htail⟩ := List.cons_prefix_cons.mp hfront
      obtain ⟨middle, hmiddle⟩ := ih htail
      exact ⟨middle, .cons hchild hplain hmiddle⟩

theorem FileNode.linkTarget_of_isDirectory {node : FileNode} (h : node.isDirectory = true) :
    node.linkTarget = none := by
  obtain ⟨owner, group, mode, kind⟩ := node
  cases kind <;> first | rfl | cases h

theorem FileNode.linkTarget_of_isRegular {node : FileNode} (h : node.isRegular = true) :
    node.linkTarget = none := by
  obtain ⟨owner, group, mode, kind⟩ := node
  cases kind <;> first | rfl | cases h

/-- What has been checked, each at its time, holds at all times. -/
theorem Checked.trustedProgram (hshared : SharedTree schedule) {path : Path}
    (h : Checked schedule user path) : ∃ ino file, TrustedProgram schedule user path ino file := by
  obtain ⟨names, hresolved, rfl⟩ := h.resolved
  obtain ⟨j, ino, file, hstat, hregular, hprotected⟩ := h.file
  have hentry : ∀ name ∈ names, EntryName name := fun name hname => (hresolved.plainName hname).1
  -- every directory of the path has been seen to be protected
  have hdirectory (front : List Name) (hfront : front <+: names) (n : ℕ)
      (heq : pathGetDirname^[n + 1] (rootedPath names) = rootedPath front) :
      ∃ k ino directory, (statNames schedule user true front k).1 = some (ino, directory) ∧
        directory.isDirectory = true ∧ directory.Protected := by
    obtain ⟨k, hk⟩ := h.parents n
    rw [heq, trustedDirectory_eq_true,
      stat_rootedPath fun name hname => hentry name (hfront.subset hname)] at hk
    exact ⟨k, hk⟩
  obtain ⟨last, hleads⟩ := hresolved.leads hshared fun front name hfront => by
    obtain ⟨tail, rfl⟩ := hfront
    have heq : pathGetDirname^[tail.length + 1] (rootedPath (front ++ [name] ++ tail)) =
        rootedPath front := by
      rw [Function.iterate_succ_apply', iterate_pathGetDirname_rootedPath hentry,
        pathGetDirname_rootedPath fun part hpart => hentry part (List.mem_append_left _ hpart)]
    obtain ⟨k, ino, directory, hk, -, hprotected⟩ :=
      hdirectory front (by rw [List.append_assoc]; exact List.prefix_append _ _) _ heq
    exact ⟨k, ino, directory, hk, hprotected⟩
  have hfile (follow : Bool) (k : ℕ) :
      (statNames schedule user follow names k).1 = some (ino, file) := by
    rw [stat_rootedPath hentry] at hstat
    exact statNames_always hshared hleads hstat hprotected follow k
  have habove (n k : ℕ) : ∃ front ino directory, front <+: names ∧
      pathGetDirname^[n + 1] (rootedPath names) = rootedPath front ∧
      directory.isDirectory = true ∧ directory.Protected ∧
      ∀ follow, (statNames schedule user follow front k).1 = some (ino, directory) := by
    obtain ⟨front, hfront, heq⟩ := exists_iterate_pathGetDirname hentry (n + 1)
    obtain ⟨i, ino, directory, hi, hdir, hnode⟩ := hdirectory front hfront n heq
    obtain ⟨middle, hmiddle⟩ := hleads.of_prefix hfront
    exact ⟨front, ino, directory, hfront, heq, hdir, hnode,
      fun follow => statNames_always hshared hmiddle hi hnode follow k⟩
  have hexecutable : file.mayExecute user = true := by
    obtain ⟨k, hk⟩ := h.executable
    rw [fileTestIsExecutable, Look.bind_apply, stat_rootedPath hentry, hfile] at hk
    exact hk
  refine ⟨ino, file, ⟨names, fun name hname => hresolved.plainName hname, rfl⟩, ?_, hregular,
    hprotected.1, (modeIsTrusted_iff _).mpr hprotected.2, hexecutable, ?_, ?_, ?_⟩
  · intro n k
    cases n with
    | zero =>
      refine ⟨(ino, file), ?_, FileNode.linkTarget_of_isRegular hregular⟩
      rw [Function.iterate_zero, id, lstat_rootedPath hentry, hfile]
    | succ n =>
      obtain ⟨front, above, directory, hfront, heq, hdir, -, hstatted⟩ := habove n k
      refine ⟨(above, directory), ?_, FileNode.linkTarget_of_isDirectory hdir⟩
      rw [heq, lstat_rootedPath fun name hname => hentry name (hfront.subset hname), hstatted]
  · intro n k
    obtain ⟨front, above, directory, hfront, heq, hdir, hnode, hstatted⟩ := habove n k
    rw [heq, trustedDirectory_eq_true,
      stat_rootedPath fun name hname => hentry name (hfront.subset hname)]
    exact ⟨above, directory, hstatted true, hdir, hnode⟩
  · intro k
    rw [stat_rootedPath hentry, hfile]
  · intro k
    rw [execve, Look.bind_apply, stat_rootedPath hentry, hfile]
    change Option.filter (fun found : Ino × FileNode =>
      found.2.isRegular && found.2.mayExecute user) (some (ino, file)) = _
    rw [Option.filter_some, hregular, hexecutable]
    rfl

/-- The path that the lookup returns is that of a program which no other user can swap, and the
walk over the parents of a path comes to the root. -/
theorem findTrustedSystemProgram_trusted (hshared : SharedTree schedule) {program : Option Name}
    {path : Path} {k : ℕ}
    (hfind : (findTrustedSystemProgram schedule user program k).1 = some path) :
    (∃ ino file, TrustedProgram schedule user path ino file) ∧
      ∀ path, isAbsolute path = true →
        ∃ n < path.length, pathGetDirname^[n] path = [separator] := by
  have hchecked : Checked schedule user path := yields_findTrustedSystemProgram program k path hfind
  exact ⟨hchecked.trustedProgram hshared, fun _ => iterate_pathGetDirname⟩

/-- A tree with `/usr/bin/cat`. -/
def catTree : FileTree where
  root := 1
  node ino :=
    match ino with
    | 1 => some ⟨0, 0, 0o755, .directory fun name => if name = bytes "usr" then some 2 else none⟩
    | 2 => some ⟨0, 0, 0o755, .directory fun name => if name = bytes "bin" then some 3 else none⟩
    | 3 => some ⟨0, 0, 0o755, .directory fun name => if name = bytes "cat" then some 4 else none⟩
    | 4 => some ⟨0, 0, 0o755, .regular []⟩
    | _ => none

/-- Another user makes a file while the program is looked up. -/
def catSchedule (k : ℕ) : FileTree :=
  if k < 9 then catTree else catTree.set 5 ⟨1000, 1000, 0o777, .regular []⟩

theorem sharedTree_catSchedule : SharedTree catSchedule := by
  intro k
  by_cases hk : k = 8
  · subst hk
    exact .single ⟨⟨1000, []⟩, .create 5 ⟨1000, 1000, 0o777, .regular []⟩, by decide, rfl⟩
  · have hsame : catSchedule (k + 1) = catSchedule k := by
      have hiff : k + 1 < 9 ↔ k < 9 := by omega
      simp only [catSchedule, hiff]
    rw [hsame]

theorem findTrustedSystemProgram_trusted_cat :
    ∃ ino file, TrustedProgram catSchedule ⟨1000, []⟩ (bytes "/usr/bin/cat") ino file := by
  have hfind : (findTrustedSystemProgram catSchedule ⟨1000, []⟩ (some (bytes "cat")) 0).1 =
      some (bytes "/usr/bin/cat") := by
    decide +kernel
  exact (findTrustedSystemProgram_trusted sharedTree_catSchedule hfind).1

end SystemSettings

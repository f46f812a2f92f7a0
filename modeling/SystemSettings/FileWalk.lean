import SystemSettings.FileTree

/-!
# Walking a shared file tree

A library for the system calls that take a path. Each looks at one directory after
the other, and the tree can be another one at each look.

A path whose directories are protected is walked to the same node at any time.
-/

namespace SystemSettings

/-! ## Looking at the tree -/

/-- A computation that looks at the tree. The state counts the looks. -/
abbrev Look := StateM ℕ

theorem Look.bind_apply {α β : Type} (m : Look α) (f : α → Look β) (k : ℕ) :
    (m >>= f) k = f (m k).1 (m k).2 := rfl

/-- What the computation returns has this property, whenever it starts. -/
def Yields {α : Type} (m : Look α) (P : α → Prop) : Prop := ∀ k, P (m k).1

namespace Yields

variable {α β : Type} {m : Look α} {f : α → Look β} {P : α → Prop} {Q : β → Prop}

theorem pure {a : α} (h : P a) : Yields (Pure.pure a) P := fun _ => h

theorem bind (hm : Yields m P) (hf : ∀ a, P a → Yields (f a) Q) : Yields (m >>= f) Q :=
  fun k => hf (m k).1 (hm k) (m k).2

/-- What is known of a result is that it was returned at some time. -/
theorem observed (m : Look α) : Yields m fun a => ∃ k, (m k).1 = a := fun k => ⟨k, rfl⟩

theorem mono {P' : α → Prop} (hm : Yields m P) (h : ∀ a, P a → P' a) : Yields m P' :=
  fun k => h _ (hm k)

end Yields

variable (schedule : ℕ → FileTree) (user : User)

/-- The other users do what they may between two looks. -/
def SharedTree : Prop :=
  ∀ k, Relation.ReflTransGen Unprivileged (schedule k) (schedule (k + 1))

/-- The tree at this look. -/
def look : Look FileTree := fun k => (schedule k, k + 1)

/-! ## The calls -/

/-- Where the entry of a directory leads to, for a user who may search it. -/
def FileTree.child (tree : FileTree) (user : User) (directory : Ino) (name : Name) : Option Ino :=
  match tree.node directory with
  | some ⟨owner, group, mode, .directory entry⟩ =>
    if FileNode.maySearch ⟨owner, group, mode, .directory entry⟩ user then
      if name = dot then some directory else entry name
    else none
  | _ => none

/-- Where this node points to, if it is a link. -/
def FileTree.linkTarget (tree : FileTree) (ino : Ino) : Option Path :=
  (tree.node ino).bind FileNode.linkTarget

/-- How a walk along names ends. -/
inductive WalkStop : Type where
  | missing
  | arrived (ino : Ino)
  /-- a link stands in this directory, before the rest of the names -/
  | link (directory : Ino) (target : Path) (rest : List Name)

/-- From a directory along these names, until a link that has to be followed. -/
def walkNames (follow : Bool) : Ino → List Name → Look WalkStop
  | ino, [] => pure (.arrived ino)
  | ino, name :: rest => do
    let tree ← look schedule
    match tree.child user ino name with
    | none => pure .missing
    | some child =>
      match tree.linkTarget child with
      | some target =>
        if rest = [] ∧ follow = false then pure (.arrived child)
        else pure (.link ino target rest)
      | none => walkNames follow child rest

/-- From a directory along these names, through this many links at most. -/
def walk (follow : Bool) : ℕ → Ino → List Name → Look (Option Ino)
  | links, ino, names => do
    match ← walkNames schedule user follow ino names with
    | .missing => pure none
    | .arrived last => pure (some last)
    | .link directory target rest =>
      match links with
      | 0 => pure none
      | links + 1 =>
        let tree ← look schedule
        walk follow links (if isAbsolute target then tree.root else directory)
          (pathNames target ++ rest)

/-- `MAXSYMLINKS` -/
def maxSymlinks : ℕ := 40

/-- The node that the absolute path of these names leads to. -/
def statNames (follow : Bool) (names : List Name) : Look (Option (Ino × FileNode)) := do
  let tree ← look schedule
  match ← walk schedule user follow maxSymlinks tree.root names with
  | none => pure none
  | some ino =>
    let tree ← look schedule
    pure ((tree.node ino).map fun node => (ino, node))

/-- `stat` of an absolute path -/
def stat (path : Path) : Look (Option (Ino × FileNode)) :=
  if isAbsolute path then statNames schedule user true (pathNames path) else pure none

/-- `lstat` of an absolute path -/
def lstat (path : Path) : Look (Option (Ino × FileNode)) :=
  if isAbsolute path then statNames schedule user false (pathNames path) else pure none

/-- `readlink`: the target of a link, `some none` where there is something else. -/
def readlink (names : List Name) : Look (Option (Option Path)) := do
  let status ← statNames schedule user false names
  pure (status.map fun found => found.2.linkTarget)

/-- How the resolution of names ends. -/
inductive RealpathStop : Type where
  | failed
  | resolved (names : List Name)
  /-- a link stands after the resolved names, before the rest -/
  | link (names : List Name) (target : Path) (rest : List Name)

/-- Resolves names after resolved ones, until a link. -/
def realpathNames : List Name → List Name → Look RealpathStop
  | resolved, [] => pure (.resolved resolved)
  | resolved, name :: rest => do
    if name = dot ∨ name = dotDot then
      match ← statNames schedule user true (resolved ++ [dot]) with
      | none => pure .failed
      | some _ => realpathNames (if name = dot then resolved else resolved.dropLast) rest
    else
      match ← readlink schedule user (resolved ++ [name]) with
      | none => pure .failed
      | some none => realpathNames (resolved ++ [name]) rest
      | some (some target) => pure (.link resolved target rest)

/-- Resolves names after resolved ones, through this many links at most. -/
def realpathLinks : ℕ → List Name → List Name → Look (Option (List Name))
  | links, resolved, names => do
    match ← realpathNames schedule user resolved names with
    | .failed => pure none
    | .resolved resolved => pure (some resolved)
    | .link resolved target rest =>
      match links with
      | 0 => pure none
      | links + 1 =>
        realpathLinks links (if isAbsolute target then [] else resolved) (pathNames target ++ rest)

/-- `realpath` of an absolute path -/
def realpath (path : Path) : Look (Option Path) := do
  if isAbsolute path then
    let resolved ← realpathLinks schedule user maxSymlinks [] (pathNames path)
    pure (resolved.map rootedPath)
  else pure none

/-- `execve`: the file that is run. -/
def execve (path : Path) : Look (Option (Ino × FileNode)) := do
  let status ← stat schedule user path
  pure (status.filter fun found => found.2.isRegular && found.2.mayExecute user)

/-! ## What stays -/

theorem undisturbed_of_actions {tree tree' : FileTree}
    (h : Relation.ReflTransGen Unprivileged tree tree') : Undisturbed tree tree' := by
  induction h with
  | refl => exact .refl _
  | tail _ hstep ih =>
    obtain ⟨user, action, huser, hstep⟩ := hstep
    exact ih.trans (userStep_undisturbed huser hstep)

section
variable {schedule} (h : SharedTree schedule)
include h

theorem SharedTree.undisturbed {j k : ℕ} (hjk : j ≤ k) : Undisturbed (schedule j) (schedule k) := by
  induction k, hjk using Nat.le_induction with
  | base => exact .refl _
  | succ k _ ih => exact ih.trans (undisturbed_of_actions (h k))

/-- A protected node is the same at all times. -/
theorem SharedTree.same {ino : Ino} {node : FileNode} (hnode : node.Protected) {j : ℕ}
    (hj : (schedule j).node ino = some node) (k : ℕ) : (schedule k).node ino = some node := by
  rcases Nat.le_total j k with hjk | hkj
  · exact ((h.undisturbed hjk).same ino node hnode).mp hj
  · exact ((h.undisturbed hkj).same ino node hnode).mpr hj

theorem SharedTree.root (k : ℕ) : (schedule k).root = (schedule 0).root :=
  (h.undisturbed (Nat.zero_le k)).root

/-- What is no link at one time is a link at no time. -/
theorem SharedTree.plain {ino : Ino} {node : FileNode} {j : ℕ}
    (hj : (schedule j).node ino = some node) (hplain : node.linkTarget = none) (k : ℕ) :
    (schedule k).linkTarget ino = none := by
  rcases Nat.le_total j k with hjk | hkj
  · obtain ⟨node', hnode', hlink⟩ := (h.undisturbed hjk).persists ino node hj
    rw [FileTree.linkTarget, hnode']
    exact hlink.mpr hplain
  · cases hnode : (schedule k).node ino with
    | none => rw [FileTree.linkTarget, hnode]; rfl
    | some first =>
      obtain ⟨node', hnode', hlink⟩ := (h.undisturbed hkj).persists ino first hnode
      rw [hj] at hnode'
      cases hnode'
      rw [FileTree.linkTarget, hnode]
      exact hlink.mp hplain

end

/-! ## Paths that lead to the same node at all times -/

/-- From one node along names to another, through no link, at all times. -/
inductive Leads : Ino → List Name → Ino → Prop
  | nil (ino : Ino) : Leads ino [] ino
  | cons {ino child last : Ino} {name : Name} {names : List Name}
      (hchild : ∀ k, (schedule k).child user ino name = some child)
      (hplain : ∀ k, (schedule k).linkTarget child = none) (h : Leads child names last) :
      Leads ino (name :: names) last

variable {schedule user}

theorem Leads.concat {ino directory child : Ino} {names : List Name} {name : Name}
    (h : Leads schedule user ino names directory)
    (hchild : ∀ k, (schedule k).child user directory name = some child)
    (hplain : ∀ k, (schedule k).linkTarget child = none) :
    Leads schedule user ino (names ++ [name]) child := by
  induction h with
  | nil ino => exact .cons hchild hplain (.nil child)
  | cons hfirst hfirstPlain _ ih => exact .cons hfirst hfirstPlain (ih hchild)

theorem Leads.walkNames {ino last : Ino} {names : List Name}
    (h : Leads schedule user ino names last) (follow : Bool) (rest : List Name) (k : ℕ) :
    walkNames schedule user follow ino (names ++ rest) k =
      walkNames schedule user follow last rest (k + names.length) := by
  induction h generalizing k with
  | nil ino => rfl
  | cons hchild hplain _ ih =>
    rw [List.length_cons, Nat.add_comm _ 1, ← Nat.add_assoc, ← ih (k + 1)]
    simp only [List.cons_append, SystemSettings.walkNames, bind, StateT.bind, look, hchild, hplain]

theorem statNames_of_arrived {follow : Bool} {last : Ino} {names : List Name} {j k : ℕ}
    (h : walkNames schedule user follow (schedule k).root names (k + 1) = (.arrived last, j)) :
    (statNames schedule user follow names k).1 =
      ((schedule j).node last).map fun node => (last, node) := by
  have hwalk : walk schedule user follow maxSymlinks (schedule k).root names (k + 1) =
      (some last, j) := by
    rw [walk]
    simp only [bind, StateT.bind, h]
    rfl
  simp only [statNames, bind, StateT.bind, look, hwalk]
  rfl

theorem statNames_of_missing {follow : Bool} {names : List Name} {j k : ℕ}
    (h : walkNames schedule user follow (schedule k).root names (k + 1) = (.missing, j)) :
    (statNames schedule user follow names k).1 = none := by
  have hwalk : walk schedule user follow maxSymlinks (schedule k).root names (k + 1) =
      (none, j) := by
    rw [walk]
    simp only [bind, StateT.bind, h]
    rfl
  simp only [statNames, bind, StateT.bind, look, hwalk]
  rfl

/-- The node that such a path leads to. -/
theorem Leads.statNames (hshared : SharedTree schedule) {last : Ino} {names : List Name}
    (h : Leads schedule user (schedule 0).root names last) (follow : Bool) (k : ℕ) :
    ∃ j, (statNames schedule user follow names k).1 =
      ((schedule j).node last).map fun node => (last, node) := by
  have hnames := h.walkNames follow [] (k + 1)
  rw [List.append_nil, ← hshared.root k] at hnames
  exact ⟨_, statNames_of_arrived (hnames.trans rfl)⟩

/-- The last name of a path whose last link is not followed. -/
theorem walkNames_last (directory : Ino) (name : Name) (k : ℕ) :
    walkNames schedule user false directory [name] k =
      (match (schedule k).child user directory name with
        | none => .missing
        | some child => .arrived child, k + 1) := by
  simp only [walkNames, bind, StateT.bind, look]
  cases (schedule k).child user directory name with
  | none => rfl
  | some child =>
    simp only
    cases (schedule k).linkTarget child <;> rfl

/-! ## What a resolved path has been through -/

variable (schedule user)

/-- Every name is plain, and at some time its path has led to something that is no link. -/
def Resolved (names : List Name) : Prop :=
  ∀ front name, front ++ [name] <+: names →
    PlainName name ∧ ∃ k, (readlink schedule user (front ++ [name]) k).1 = some none

variable {schedule user}

theorem Resolved.nil : Resolved schedule user [] := by
  intro front name hfront
  simp at hfront

theorem Resolved.of_prefix {names front : List Name} (h : Resolved schedule user names)
    (hfront : front <+: names) : Resolved schedule user front :=
  fun front' name hfront' => h front' name (hfront'.trans hfront)

theorem Resolved.concat {names : List Name} {name : Name} (h : Resolved schedule user names)
    (hname : PlainName name)
    (hplain : ∃ k, (readlink schedule user (names ++ [name]) k).1 = some none) :
    Resolved schedule user (names ++ [name]) := by
  intro front last hfront
  rcases List.prefix_concat_iff.mp hfront with heq | hfront
  · obtain ⟨rfl, hlast⟩ := List.append_inj' heq rfl
    cases hlast
    exact ⟨hname, hplain⟩
  · exact h front last hfront

/-- What a stop of the resolution says. -/
def RealpathStop.Sound (schedule : ℕ → FileTree) (user : User) : RealpathStop → Prop
  | .failed => True
  | .resolved names => Resolved schedule user names
  | .link names _ rest => Resolved schedule user names ∧ ∀ name ∈ rest, EntryName name

theorem yields_realpathNames {resolved rest : List Name} (h : Resolved schedule user resolved)
    (hrest : ∀ name ∈ rest, EntryName name) :
    Yields (realpathNames schedule user resolved rest) (RealpathStop.Sound schedule user) := by
  induction rest generalizing resolved with
  | nil => exact Yields.pure h
  | cons name rest ih =>
    have hentry : ∀ other ∈ rest, EntryName other :=
      fun other hmem => hrest other (List.mem_cons_of_mem _ hmem)
    rw [realpathNames]
    split
    · refine (Yields.observed _).bind fun status _ => ?_
      cases status with
      | none => exact Yields.pure trivial
      | some _ =>
        refine ih ?_ hentry
        split
        · exact h
        · exact h.of_prefix (List.dropLast_prefix resolved)
    · next hplain =>
      rw [not_or] at hplain
      have hname : PlainName name := ⟨hrest name List.mem_cons_self, hplain⟩
      refine (Yields.observed _).bind fun target htarget => ?_
      match target, htarget with
      | none, _ => exact Yields.pure trivial
      | some none, htarget => exact ih (h.concat hname htarget) hentry
      | some (some target), _ => exact Yields.pure ⟨h, hentry⟩

theorem yields_realpathLinks {links : ℕ} {resolved names : List Name}
    (h : Resolved schedule user resolved) (hnames : ∀ name ∈ names, EntryName name) :
    Yields (realpathLinks schedule user links resolved names)
      fun found => ∀ result, found = some result → Resolved schedule user result := by
  induction links using Nat.strong_induction_on generalizing resolved names with
  | h links ih =>
    rw [realpathLinks]
    refine (yields_realpathNames h hnames).bind fun stop hstop => ?_
    cases stop with
    | failed => exact Yields.pure nofun
    | resolved result =>
      refine Yields.pure fun _ heq => ?_
      cases heq
      exact hstop
    | link front target rest =>
      cases links with
      | zero => exact Yields.pure nofun
      | succ links =>
        have hmore : ∀ name ∈ pathNames target ++ rest, EntryName name := by
          intro name hmem
          rcases List.mem_append.mp hmem with hmem | hmem
          · exact entryName_of_mem_pathNames hmem
          · exact hstop.2 name hmem
        refine ih links (Nat.lt_succ_self links) ?_ hmore
        split
        · exact .nil
        · exact hstop.1

/-- `realpath` returns the text of a resolved path. -/
theorem yields_realpath (path : Path) :
    Yields (realpath schedule user path) fun found =>
      ∀ result, found = some result → ∃ names, Resolved schedule user names ∧
        result = rootedPath names := by
  rw [realpath]
  split_ifs
  · refine (yields_realpathLinks .nil fun name hmem => entryName_of_mem_pathNames hmem).bind
      fun found hfound => Yields.pure fun result hresult => ?_
    obtain ⟨names, hnames, rfl⟩ := Option.map_eq_some_iff.mp hresult
    exact ⟨names, hfound names hnames, rfl⟩
  · exact Yields.pure nofun

/-! ## Protected directories lead to the same node at all times -/

/-- What `readlink` has seen below a path that leads somewhere at all times. -/
theorem Leads.readlink (hshared : SharedTree schedule) {directory : Ino} {names : List Name}
    (h : Leads schedule user (schedule 0).root names directory) {name : Name} {k : ℕ}
    (hplain : (readlink schedule user (names ++ [name]) k).1 = some none) :
    ∃ child i j node, (schedule i).child user directory name = some child ∧
      (schedule j).node child = some node ∧ node.linkTarget = none := by
  have hstatus : (SystemSettings.statNames schedule user false (names ++ [name]) k).1.map
      (fun found => found.2.linkTarget) = some none := hplain
  have hnames := h.walkNames false [name] (k + 1)
  rw [walkNames_last, ← hshared.root k] at hnames
  cases hchild : (schedule (k + 1 + names.length)).child user directory name with
  | none =>
    rw [hchild] at hnames
    rw [statNames_of_missing hnames] at hstatus
    cases hstatus
  | some child =>
    rw [hchild] at hnames
    rw [statNames_of_arrived hnames, Option.map_map] at hstatus
    obtain ⟨node, hnode, htarget⟩ := Option.map_eq_some_iff.mp hstatus
    exact ⟨child, _, _, node, hchild, hnode, htarget⟩

theorem FileTree.child_congr {tree tree' : FileTree} {directory : Ino}
    (h : tree.node directory = tree'.node directory) (name : Name) :
    tree.child user directory name = tree'.child user directory name := by
  rw [child, child, h]

/-- A resolved path below protected directories leads to the same node at all times. -/
theorem Resolved.leads (hshared : SharedTree schedule) {names : List Name}
    (h : Resolved schedule user names)
    (hdirectories : ∀ front name, front ++ [name] <+: names → ∃ k ino node,
      (statNames schedule user true front k).1 = some (ino, node) ∧ node.Protected) :
    ∃ last, Leads schedule user (schedule 0).root names last := by
  induction names using List.reverseRecOn with
  | nil => exact ⟨_, .nil _⟩
  | append_singleton names name ih =>
    obtain ⟨directory, hleads⟩ := ih (h.of_prefix (List.prefix_append names [name]))
      fun front other hfront => hdirectories front other (hfront.trans (List.prefix_append _ _))
    obtain ⟨k, ino, node, hstat, hprotected⟩ := hdirectories names name (List.prefix_refl _)
    obtain ⟨j, hstatted⟩ := hleads.statNames hshared true k
    obtain ⟨found, hfound, heq⟩ := Option.map_eq_some_iff.mp (hstatted.symm.trans hstat)
    cases heq
    obtain ⟨k', hplain⟩ := (h names name (List.prefix_refl _)).2
    obtain ⟨child, i, j', last, hchild, hlast, htarget⟩ := hleads.readlink hshared hplain
    have hsame (m : ℕ) : (schedule m).node directory = some node :=
      hshared.same hprotected hfound m
    refine ⟨child, hleads.concat (fun m => ?_) (hshared.plain hlast htarget)⟩
    rw [FileTree.child_congr ((hsame m).trans (hsame i).symm), hchild]

end SystemSettings

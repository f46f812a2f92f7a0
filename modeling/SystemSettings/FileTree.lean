import Mathlib.Logic.Relation
import SystemSettings.PathText

/-!
# A file tree shared with other users

A library for programs that look at a file tree while other users change it: the
nodes with their owners and modes, the walk of a path, what a user may do, and
what no user but root can change.

A program looks at the tree again and again, and between two looks the others do
what they may. `schedule` is the tree at each look.
-/

namespace SystemSettings

/-! ## Nodes and users -/

/-- The number of a node. -/
abbrev Ino := ℕ

/-- What a node is. -/
inductive NodeKind : Type where
  | directory (entry : Name → Option Ino)
  | regular (content : List UInt8)
  | link (target : Path)
  /-- a device, a socket or a pipe -/
  | special

/-- A node with its `st_uid`, `st_gid` and permission bits. -/
structure FileNode : Type where
  owner : ℕ
  group : ℕ
  mode : BitVec 12
  kind : NodeKind

/-- A file tree. -/
structure FileTree : Type where
  root : Ino
  node : Ino → Option FileNode

/-- The identity that a process runs under. -/
structure User : Type where
  uid : ℕ
  groups : List ℕ

/-- `S_ISDIR` -/
def FileNode.isDirectory (node : FileNode) : Bool :=
  match node.kind with
  | .directory _ => true
  | _ => false

/-- `S_ISREG` -/
def FileNode.isRegular (node : FileNode) : Bool :=
  match node.kind with
  | .regular _ => true
  | _ => false

/-- Where a symbolic link points to. -/
def FileNode.linkTarget (node : FileNode) : Option Path :=
  match node.kind with
  | .link target => some target
  | _ => none

/-- The permission bit of the user's class: the owner, the group, or the others. -/
def FileNode.permits (node : FileNode) (user : User) (bit : BitVec 12) : Bool :=
  if user.uid = node.owner then node.mode &&& bit <<< 6 ≠ 0
  else if node.group ∈ user.groups then node.mode &&& bit <<< 3 ≠ 0
  else node.mode &&& bit ≠ 0

/-- Write permission. Root is never asked. -/
def FileNode.mayWrite (node : FileNode) (user : User) : Bool := node.permits user 0o2

/-- Search permission on a directory. -/
def FileNode.maySearch (node : FileNode) (user : User) : Bool :=
  user.uid = 0 || node.permits user 0o1

/-- Execute permission on a file. Root needs one of the three bits. -/
def FileNode.mayExecute (node : FileNode) (user : User) : Bool :=
  if user.uid = 0 then node.mode &&& 0o111 ≠ 0 else node.permits user 0o1

/-! ## What other users do -/

/-- The tree with another node. -/
def FileTree.set (tree : FileTree) (ino : Ino) (node : FileNode) : FileTree :=
  { tree with node := fun i => if i = ino then some node else tree.node i }

/-- An action of a user. A file is renamed by changing two entries. -/
inductive UserAction : Type where
  /-- a new node -/
  | create (ino : Ino) (node : FileNode)
  /-- an entry of a directory is made, changed or removed -/
  | enter (directory : Ino) (name : Name) (ino : Option Ino)
  | write (ino : Ino) (content : List UInt8)
  | chmod (ino : Ino) (mode : BitVec 12)
  | chgrp (ino : Ino) (group : ℕ)

/-- What the tree is after an action, `none` where the user may not do it. -/
def userStep (user : User) (tree : FileTree) : UserAction → Option FileTree
  | .create ino node =>
    if (tree.node ino).isNone ∧ node.owner = user.uid then some (tree.set ino node) else none
  | .enter directory name ino =>
    match tree.node directory with
    | some ⟨owner, group, mode, .directory entry⟩ =>
      if FileNode.mayWrite ⟨owner, group, mode, .directory entry⟩ user then
        some (tree.set directory
          ⟨owner, group, mode, .directory fun n => if n = name then ino else entry n⟩)
      else none
    | _ => none
  | .write ino content =>
    match tree.node ino with
    | some ⟨owner, group, mode, .regular old⟩ =>
      if FileNode.mayWrite ⟨owner, group, mode, .regular old⟩ user then
        some (tree.set ino ⟨owner, group, mode, .regular content⟩)
      else none
    | _ => none
  | .chmod ino mode =>
    match tree.node ino with
    | some node =>
      if node.owner = user.uid then some (tree.set ino { node with mode := mode }) else none
    | none => none
  | .chgrp ino group =>
    match tree.node ino with
    | some node =>
      if node.owner = user.uid then some (tree.set ino { node with group := group }) else none
    | none => none

/-- One action of a user who is not root. -/
def Unprivileged (tree tree' : FileTree) : Prop :=
  ∃ user action, user.uid ≠ 0 ∧ userStep user tree action = some tree'

/-! ## What no other user can change -/

/-- Root's own, and writable for nobody else. -/
def FileNode.Protected (node : FileNode) : Prop := node.owner = 0 ∧ node.mode &&& 0o022 = 0

/-- The protected nodes are the same, and what is no link stays none. -/
structure Undisturbed (tree tree' : FileTree) : Prop where
  root : tree'.root = tree.root
  same : ∀ ino node, node.Protected → (tree.node ino = some node ↔ tree'.node ino = some node)
  persists : ∀ ino node, tree.node ino = some node →
    ∃ node', tree'.node ino = some node' ∧ (node'.linkTarget = none ↔ node.linkTarget = none)

theorem Undisturbed.refl (tree : FileTree) : Undisturbed tree tree :=
  ⟨rfl, fun _ _ _ => Iff.rfl, fun _ node hnode => ⟨node, hnode, Iff.rfl⟩⟩

theorem Undisturbed.trans {tree₁ tree₂ tree₃ : FileTree} (h : Undisturbed tree₁ tree₂)
    (h' : Undisturbed tree₂ tree₃) : Undisturbed tree₁ tree₃ := by
  refine ⟨h'.root.trans h.root, fun ino node hnode =>
    (h.same ino node hnode).trans (h'.same ino node hnode), fun ino node hnode => ?_⟩
  obtain ⟨node₂, hnode₂, hlink₂⟩ := h.persists ino node hnode
  obtain ⟨node₃, hnode₃, hlink₃⟩ := h'.persists ino node₂ hnode₂
  exact ⟨node₃, hnode₃, hlink₃.trans hlink₂⟩

/-- Writing is for those whom the mode names. -/
theorem FileNode.not_protected_of_mayWrite {node : FileNode} {user : User} (huser : user.uid ≠ 0)
    (hwrite : node.mayWrite user = true) : ¬ node.Protected := by
  rintro ⟨howner, hmode⟩
  have hclass : node.mode &&& 0o020 = 0 ∧ node.mode &&& 0o002 = 0 := by
    have hsplit : (0o022 : BitVec 12) = 0o020 ||| 0o002 := by decide
    rw [hsplit, BitVec.and_or_distrib_left] at hmode
    exact BitVec.or_eq_zero_iff.mp hmode
  rw [mayWrite, permits, if_neg (howner ▸ huser)] at hwrite
  split at hwrite
  · exact of_decide_eq_true hwrite hclass.1
  · exact of_decide_eq_true hwrite hclass.2

theorem not_protected_of_owner {node : FileNode} {user : User} (huser : user.uid ≠ 0)
    (howner : node.owner = user.uid) : ¬ node.Protected :=
  fun hnode => huser (howner ▸ hnode.1)

/-- A node that is not protected becomes another one of its kind. -/
theorem Undisturbed.set {tree : FileTree} {ino : Ino} {node node' : FileNode}
    (hnode : tree.node ino = some node) (hold : ¬ node.Protected) (hnew : ¬ node'.Protected)
    (hlink : node'.linkTarget = none ↔ node.linkTarget = none) :
    Undisturbed tree (tree.set ino node') := by
  refine ⟨rfl, fun i other hother => ?_, fun i other hi => ?_⟩
  · by_cases hi : i = ino
    · subst hi
      simp only [FileTree.set, if_true, hnode, Option.some.injEq]
      constructor
      · rintro rfl
        exact absurd hother hold
      · rintro rfl
        exact absurd hother hnew
    · simp only [FileTree.set, if_neg hi]
  · by_cases hcase : i = ino
    · subst hcase
      rw [hnode] at hi
      cases hi
      exact ⟨node', if_pos rfl, hlink⟩
    · exact ⟨other, by simpa only [FileTree.set, if_neg hcase] using hi, Iff.rfl⟩

/-- Whoever may write into a node does not change what is protected. -/
theorem Undisturbed.of_mayWrite {tree : FileTree} {user : User} {ino : Ino} {node : FileNode}
    (huser : user.uid ≠ 0) (hnode : tree.node ino = some node)
    (hwrite : node.mayWrite user = true) {node' : FileNode} (howner : node'.owner = node.owner)
    (hmode : node'.mode = node.mode) (hlink : node'.linkTarget = none ↔ node.linkTarget = none) :
    Undisturbed tree (tree.set ino node') := by
  have hopen := FileNode.not_protected_of_mayWrite huser hwrite
  refine .set hnode hopen ?_ hlink
  rwa [FileNode.Protected, howner, hmode]

/-- The owner of a node does not change what is protected. -/
theorem Undisturbed.of_owner {tree : FileTree} {user : User} {ino : Ino} {node : FileNode}
    (huser : user.uid ≠ 0) (hnode : tree.node ino = some node) (howner : node.owner = user.uid)
    {node' : FileNode} (hsame : node'.owner = node.owner)
    (hlink : node'.linkTarget = none ↔ node.linkTarget = none) :
    Undisturbed tree (tree.set ino node') :=
  .set hnode (not_protected_of_owner huser howner)
    (not_protected_of_owner huser (hsame.trans howner)) hlink

/-- No action of another user changes what is protected. -/
theorem userStep_undisturbed {user : User} (huser : user.uid ≠ 0) {tree tree' : FileTree}
    {action : UserAction} (hstep : userStep user tree action = some tree') :
    Undisturbed tree tree' := by
  cases action with
  | create ino node =>
    obtain ⟨⟨hfree, howner⟩, hset⟩ := Option.ite_none_right_eq_some.mp hstep
    cases hset
    rw [Option.isNone_iff_eq_none] at hfree
    refine ⟨rfl, fun i other hother => ?_, fun i other hi => ?_⟩
    · by_cases hi : i = ino
      · subst hi
        simp only [FileTree.set, if_true, hfree, Option.some.injEq]
        refine ⟨nofun, ?_⟩
        rintro rfl
        exact absurd hother (not_protected_of_owner huser howner)
      · simp only [FileTree.set, if_neg hi]
    · have hne : i ≠ ino := by
        rintro rfl
        rw [hfree] at hi
        cases hi
      exact ⟨other, by simpa only [FileTree.set, if_neg hne] using hi, Iff.rfl⟩
  | enter directory name ino =>
    simp only [userStep] at hstep
    split at hstep
    · next hnode =>
      obtain ⟨hwrite, hset⟩ := Option.ite_none_right_eq_some.mp hstep
      cases hset
      exact .of_mayWrite huser hnode hwrite rfl rfl Iff.rfl
    · cases hstep
  | write ino content =>
    simp only [userStep] at hstep
    split at hstep
    · next hnode =>
      obtain ⟨hwrite, hset⟩ := Option.ite_none_right_eq_some.mp hstep
      cases hset
      exact .of_mayWrite huser hnode hwrite rfl rfl Iff.rfl
    · cases hstep
  | chmod ino mode =>
    simp only [userStep] at hstep
    split at hstep
    · next hnode =>
      obtain ⟨howner, hset⟩ := Option.ite_none_right_eq_some.mp hstep
      cases hset
      exact .of_owner huser hnode howner rfl Iff.rfl
    · cases hstep
  | chgrp ino group =>
    simp only [userStep] at hstep
    split at hstep
    · next hnode =>
      obtain ⟨howner, hset⟩ := Option.ite_none_right_eq_some.mp hstep
      cases hset
      exact .of_owner huser hnode howner rfl Iff.rfl
    · cases hstep

end SystemSettings

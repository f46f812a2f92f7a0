import Mathlib.Data.List.Basic
import Mathlib.Logic.Function.Basic

/-!
# Files that are published by renaming

A library for writers that prepare a document in a file of their own and then rename it
over a shared name. A volume has names and file objects apart, so a file that was opened
stays what it was when its name is taken by another.

`Act` is what one participant may do, by its stage. `Intact` is what holds of a volume and
the stages of all participants, and `Intact.act` keeps it: a staged file has one owner and
one name, and holds what its owner wrote. `Settled` files, those that were published, are
never written again.
-/

namespace SystemSettings

open Function

variable {ν β : Type}

/-- A volume: what the names stand for, and what is in the files. -/
structure Volume (ν β : Type) where
  /-- the file object under each name -/
  directory : ν → Option ℕ
  /-- the contents of the file objects -/
  contents : ℕ → List β
  /-- the number of the next file object -/
  next : ℕ
  /-- a file that has a name was created -/
  created : ∀ name file, directory name = some file → file < next

namespace Volume

variable [DecidableEq ν]

/-- A new, empty file under a name. -/
def create (v : Volume ν β) (name : ν) : Volume ν β where
  directory := update v.directory name (some v.next)
  contents := update v.contents v.next []
  next := v.next + 1
  created other file h := by
    rcases eq_or_ne other name with rfl | hne
    · rw [update_self] at h
      exact Option.some.inj h ▸ Nat.lt_succ_self _
    · rw [update_of_ne hne] at h
      exact Nat.lt_succ_of_lt (v.created other file h)

/-- More bytes at the end of a file. -/
def write (v : Volume ν β) (file : ℕ) (more : List β) : Volume ν β :=
  { v with contents := update v.contents file (v.contents file ++ more) }

/-- A name is removed. -/
def delete (v : Volume ν β) (name : ν) : Volume ν β where
  directory := update v.directory name none
  contents := v.contents
  next := v.next
  created other file h := by
    rcases eq_or_ne other name with rfl | hne
    · rw [update_self] at h
      exact absurd h.symm (Option.some_ne_none _)
    · rw [update_of_ne hne] at h
      exact v.created other file h

/-- The file under `source` is renamed; what had the name `target` loses it. -/
def move (v : Volume ν β) (source target : ν) : Volume ν β where
  directory := update (v.delete source).directory target (v.directory source)
  contents := v.contents
  next := v.next
  created other file h := by
    rcases eq_or_ne other target with rfl | hne
    · rw [update_self] at h
      exact v.created source file h
    · rw [update_of_ne hne] at h
      exact (v.delete source).created other file h

/-- The contents of the file under a name. -/
def document (v : Volume ν β) (name : ν) : Option (List β) :=
  (v.directory name).map v.contents

theorem document_move {v : Volume ν β} {source target : ν} {file : ℕ}
    (h : v.directory source = some file) :
    (v.move source target).document target = some (v.contents file) := by
  simp [document, move, delete, h]

theorem directory_move_of_ne {v : Volume ν β} {source target name : ν} (hsource : name ≠ source)
    (htarget : name ≠ target) : (v.move source target).directory name = v.directory name := by
  simp [move, delete, hsource, htarget]

theorem directory_delete_of_ne {v : Volume ν β} {deleted name : ν} (h : name ≠ deleted) :
    (v.delete deleted).directory name = v.directory name :=
  update_of_ne h ..

theorem document_delete_of_ne {v : Volume ν β} {deleted name : ν} (h : name ≠ deleted) :
    (v.delete deleted).document name = v.document name :=
  congrArg (Option.map v.contents) (directory_delete_of_ne h)

theorem document_move_self {v : Volume ν β} {source target : ν} (h : source ≠ target) :
    (v.move source target).document source = none := by
  simp [document, move, delete, h]

/-- A new file is under no other name. -/
theorem document_create (v : Volume ν β) {name other : ν} (hne : name ≠ other) :
    (v.create name).document other = v.document other := by
  cases hdirectory : v.directory other with
  | none => simp [document, create, hne.symm, hdirectory]
  | some file =>
    have hold : file ≠ v.next := Nat.ne_of_lt (v.created other file hdirectory)
    simp [document, create, hne.symm, hdirectory, hold]

/-- Where a name after `create` comes from. -/
theorem directory_create {v : Volume ν β} {fresh name : ν} {file : ℕ}
    (h : (v.create fresh).directory name = some file) :
    (name = fresh ∧ file = v.next) ∨ v.directory name = some file := by
  rcases eq_or_ne name fresh with rfl | hne
  · simp only [create, update_self] at h
    exact .inl ⟨rfl, (Option.some.inj h).symm⟩
  · simp only [create, update_of_ne hne] at h
    exact .inr h

/-- Where a name after `move` comes from. -/
theorem directory_move {v : Volume ν β} {source target name : ν} {file : ℕ}
    (h : (v.move source target).directory name = some file) :
    (name = target ∧ v.directory source = some file) ∨
      (name ≠ source ∧ v.directory name = some file) := by
  rcases eq_or_ne name target with rfl | htarget
  · simp only [move, update_self] at h
    exact .inl ⟨rfl, h⟩
  · rcases eq_or_ne name source with rfl | hsource
    · simp only [move, delete, update_of_ne htarget, update_self] at h
      exact absurd h.symm (Option.some_ne_none _)
    · exact .inr ⟨hsource, (directory_move_of_ne hsource htarget).symm.trans h⟩

/-- Where a name after `delete` comes from. -/
theorem directory_delete {v : Volume ν β} {deleted name : ν} {file : ℕ}
    (h : (v.delete deleted).directory name = some file) :
    name ≠ deleted ∧ v.directory name = some file := by
  rcases eq_or_ne name deleted with rfl | hne
  · simp only [delete, update_self] at h
    exact absurd h.symm (Option.some_ne_none _)
  · exact ⟨hne, (directory_delete_of_ne hne).symm.trans h⟩

end Volume

/-- What a participant is about. -/
inductive Stage (ν β : Type) : Type where
  /-- nothing yet -/
  | ready
  /-- it prepares a file under a name; what it wrote, when it knows -/
  | staged (name : ν) (file : ℕ) (written : Option (List β))
  /-- it has the published file open -/
  | reading (file : ℕ)
  /-- its part is over -/
  | over

section Acts

variable [DecidableEq ν]

/-- What a participant may do to the volume. Documents are published as `target`; a
published document is taken back by renaming it to `grave`. -/
inductive Act (target grave : ν) : Volume ν β → Stage ν β → Volume ν β → Stage ν β → Prop where
  /-- nothing -/
  | quiet (v : Volume ν β) (q : Stage ν β) : Act target grave v q v q
  /-- a file of its own, under a name that is free -/
  | create (v : Volume ν β) (name : ν) : v.directory name = none → name ≠ target →
      name ≠ grave → Act target grave v .ready (v.create name) (.staged name v.next (some []))
  /-- more of the document -/
  | write (v : Volume ν β) (name : ν) (file : ℕ) (written more : List β) :
      Act target grave v (.staged name file (some written)) (v.write file more)
        (.staged name file (some (written ++ more)))
  /-- a write that failed somewhere -/
  | spoil (v : Volume ν β) (name : ν) (file : ℕ) (written : Option (List β)) (more : List β) :
      Act target grave v (.staged name file written) (v.write file more) (.staged name file none)
  /-- the document is published -/
  | publish (v : Volume ν β) (name : ν) (file : ℕ) (written : List β) :
      Act target grave v (.staged name file (some written)) (v.move name target) .over
  /-- the document is given up -/
  | discard (v : Volume ν β) (name : ν) (file : ℕ) (written : Option (List β)) :
      Act target grave v (.staged name file written) (v.delete name) .over
  /-- the document is left behind -/
  | leave (v : Volume ν β) (q : Stage ν β) : Act target grave v q v .over
  /-- the published file is opened -/
  | read (v : Volume ν β) (file : ℕ) : v.directory target = some file →
      Act target grave v .ready v (.reading file)
  /-- what is published is taken back -/
  | retire (v : Volume ν β) : v.directory target ≠ none →
      Act target grave v .ready (v.move target grave) .over
  /-- what was taken back is removed -/
  | sweep (v : Volume ν β) : Act target grave v .over (v.delete grave) .over

end Acts

/-- A file that nobody prepares any more. -/
structure Settled (v : Volume ν β) (st : ℕ → Stage ν β) (file : ℕ) : Prop where
  /-- it was created -/
  created : file < v.next
  /-- it is nobody's -/
  free : ∀ n name written, st n ≠ .staged name file written

/-- What holds between the acts of all participants. -/
structure Intact (target grave : ν) (v : Volume ν β) (st : ℕ → Stage ν β) : Prop where
  /-- a staged file is under a name of its own, -/
  apart : ∀ n name file written, st n = .staged name file written → name ≠ target ∧ name ≠ grave
  /-- is there, -/
  there : ∀ n name file written, st n = .staged name file written →
    v.directory name = some file
  /-- has no other name, -/
  only : ∀ n name file written other, st n = .staged name file written →
    v.directory other = some file → other = name
  /-- has one owner, -/
  owner : ∀ n m name other file written more, st n = .staged name file written →
    st m = .staged other file more → n = m
  /-- and holds what its owner wrote -/
  holds : ∀ n name file written, st n = .staged name file (some written) →
    v.contents file = written
  /-- what is read is settled -/
  read : ∀ n file, st n = .reading file → Settled v st file

variable {target grave : ν} {v v' : Volume ν β} {st : ℕ → Stage ν β}

/-- Nobody has started. -/
theorem Intact.initial (v : Volume ν β) : Intact target grave v fun _ => .ready :=
  ⟨by simp, by simp, by simp, by simp, by simp, by simp⟩

/-- A published file is settled. -/
theorem Intact.settled (hi : Intact target grave v st) {file : ℕ}
    (h : v.directory target = some file) : Settled v st file :=
  ⟨v.created target file h, fun n name written hn =>
    (hi.apart n name file written hn).1 (hi.only n name file written target hn h).symm⟩

/-- A staged file is not the published one. -/
theorem Intact.document_write (hi : Intact target grave v st) {n : ℕ} {name : ν} {file : ℕ}
    {written : Option (List β)} (hn : st n = .staged name file written) (more : List β) :
    (v.write file more).document target = v.document target := by
  cases hdirectory : v.directory target with
  | none => simp [Volume.document, Volume.write, hdirectory]
  | some other =>
    have hne : other ≠ file := fun heq =>
      (hi.settled hdirectory).free n name written (heq ▸ hn)
    simp [Volume.document, Volume.write, hdirectory, hne]

/-! ## One act -/

section Act

variable [DecidableEq ν] {n : ℕ} {q q' : Stage ν β}

/-- Files are created, never forgotten. -/
theorem Act.next_le (h : Act target grave v q v' q') : v.next ≤ v'.next := by
  cases h with
  | create => exact Nat.le_succ _
  | _ => exact Nat.le_refl _

/-- A participant's own file is the one it had or a new one. -/
theorem Act.staged (h : Act target grave v q v' q') {name : ν} {file : ℕ}
    {written : Option (List β)} (hq : q' = .staged name file written) :
    (∃ before, q = .staged name file before) ∨ file = v.next := by
  cases h with
  | quiet => exact .inl ⟨written, hq⟩
  | create =>
    cases hq
    exact .inr rfl
  | write name file before =>
    cases hq
    exact .inl ⟨_, rfl⟩
  | spoil =>
    cases hq
    exact .inl ⟨_, rfl⟩
  | _ => cases hq

/-- A settled file is left alone. -/
theorem Settled.act {file : ℕ} (hs : Settled v st file) (hq : st n = q)
    (h : Act target grave v q v' q') :
    Settled v' (update st n q') file ∧ v'.contents file = v.contents file := by
  refine ⟨⟨Nat.lt_of_lt_of_le hs.created h.next_le, fun m name written hm => ?_⟩, ?_⟩
  · rcases eq_or_ne m n with rfl | hne
    · rw [update_self] at hm
      rcases h.staged hm with ⟨before, hbefore⟩ | hnew
      · exact hs.free m name before (hq.trans hbefore)
      · exact absurd hnew (Nat.ne_of_lt hs.created)
    · rw [update_of_ne hne] at hm
      exact hs.free m name written hm
  · cases h with
    | create => exact update_of_ne (Nat.ne_of_lt hs.created) ..
    | write name other | spoil name other =>
      refine update_of_ne (fun heq => ?_) ..
      rw [← heq] at hq
      exact hs.free n _ _ hq
    | _ => rfl

/-- A file staged by another is left alone. -/
theorem Intact.other (hi : Intact target grave v st) (hq : st n = q)
    (h : Act target grave v q v' q') {m : ℕ} (hne : m ≠ n) {name : ν} {file : ℕ}
    {written : Option (List β)} (hm : st m = .staged name file written) :
    v'.directory name = some file ∧ v'.contents file = v.contents file ∧
      ∀ other, v'.directory other = some file → other = name := by
  obtain ⟨htarget, hgrave⟩ := hi.apart m name file written hm
  have hthere := hi.there m name file written hm
  have honly := fun other => hi.only m name file written other hm
  have hcreated := v.created name file hthere
  -- no name of the other participants is that name, no file of theirs is that file
  have hname : ∀ own mine before, q = .staged own mine before → name ≠ own := by
    rintro own mine before hmine rfl
    have hmine' := hi.there n name mine before (hq.trans hmine)
    rw [hthere] at hmine'
    cases hmine'
    exact hne (hi.owner m n name name file written before hm (hq.trans hmine))
  have hfile : ∀ own mine before, q = .staged own mine before → file ≠ mine := by
    rintro own mine before hmine rfl
    exact hne (hi.owner m n name own file written before hm (hq.trans hmine))
  cases h with
  | quiet | leave | read => exact ⟨hthere, rfl, honly⟩
  | create fresh hfree =>
    have hnot : name ≠ fresh := by
      rintro rfl
      exact absurd (hthere.symm.trans hfree) (Option.some_ne_none _)
    refine ⟨(update_of_ne hnot ..).trans hthere, update_of_ne (Nat.ne_of_lt hcreated) ..,
      fun other ho => ?_⟩
    rcases Volume.directory_create ho with ⟨-, hnew⟩ | hold
    · exact absurd hnew (Nat.ne_of_lt hcreated)
    · exact honly other hold
  | write own mine | spoil own mine =>
    exact ⟨hthere, update_of_ne (hfile own mine _ rfl) .., honly⟩
  | publish own mine before =>
    have hnot := hname own mine _ rfl
    refine ⟨(Volume.directory_move_of_ne hnot htarget).trans hthere, rfl, fun other ho => ?_⟩
    rcases Volume.directory_move ho with ⟨-, hmoved⟩ | ⟨-, hold⟩
    · exact absurd (honly own hmoved).symm hnot
    · exact honly other hold
  | discard own mine =>
    refine ⟨(Volume.directory_delete_of_ne (hname own mine _ rfl)).trans hthere, rfl,
      fun other ho => honly other (Volume.directory_delete ho).2⟩
  | retire =>
    refine ⟨(Volume.directory_move_of_ne htarget hgrave).trans hthere, rfl, fun other ho => ?_⟩
    rcases Volume.directory_move ho with ⟨-, hmoved⟩ | ⟨-, hold⟩
    · exact absurd (honly target hmoved).symm htarget
    · exact honly other hold
  | sweep =>
    exact ⟨(Volume.directory_delete_of_ne hgrave).trans hthere, rfl,
      fun other ho => honly other (Volume.directory_delete ho).2⟩

/-- A participant's own file after its act. -/
theorem Intact.self (hi : Intact target grave v st) (hq : st n = q)
    (h : Act target grave v q v' q') {name : ν} {file : ℕ} {written : Option (List β)}
    (hq' : q' = .staged name file written) :
    (name ≠ target ∧ name ≠ grave) ∧ v'.directory name = some file ∧
      (∀ other, v'.directory other = some file → other = name) ∧
      ∀ text, written = some text → v'.contents file = text := by
  cases h with
  | quiet =>
    subst hq'
    refine ⟨hi.apart n _ _ _ hq, hi.there n _ _ _ hq, fun other => hi.only n _ _ _ other hq, ?_⟩
    rintro text rfl
    exact hi.holds n _ _ _ hq
  | create fresh hfree htarget hgrave =>
    cases hq'
    refine ⟨⟨htarget, hgrave⟩, update_self .., fun other ho => ?_, ?_⟩
    · rcases Volume.directory_create ho with ⟨hname, -⟩ | hold
      · exact hname
      · exact absurd (v.created other _ hold) (Nat.lt_irrefl _)
    · rintro text ⟨⟩
      exact update_self ..
  | write own mine before more =>
    cases hq'
    refine ⟨hi.apart n _ _ _ hq, hi.there n _ _ _ hq, fun other => hi.only n _ _ _ other hq, ?_⟩
    rintro text ⟨⟩
    exact (update_self ..).trans (congrArg (· ++ more) (hi.holds n _ _ _ hq))
  | spoil =>
    cases hq'
    exact ⟨hi.apart n _ _ _ hq, hi.there n _ _ _ hq, fun other => hi.only n _ _ _ other hq,
      fun text htext => absurd htext.symm (Option.some_ne_none _)⟩
  | _ => cases hq'

/-- An act keeps everything in order. -/
theorem Intact.act (hi : Intact target grave v st) (hq : st n = q)
    (h : Act target grave v q v' q') : Intact target grave v' (update st n q') := by
  -- a participant is the one that acts, or it is where it was
  have hcases : ∀ m stage, update st n q' m = stage →
      (m = n ∧ q' = stage) ∨ (m ≠ n ∧ st m = stage) := by
    intro m stage hm
    rcases eq_or_ne m n with rfl | hne
    · rw [update_self] at hm
      exact .inl ⟨rfl, hm⟩
    · rw [update_of_ne hne] at hm
      exact .inr ⟨hne, hm⟩
  have hnew : ∀ m name other file written before, m ≠ n → st m = .staged name file written →
      q' = .staged other file before → m = n := by
    intro m name other file written before hne hm hown
    rcases h.staged hown with ⟨earlier, hearlier⟩ | hfresh
    · exact hi.owner m n name other file written earlier hm (hq.trans hearlier)
    · exact absurd hfresh (Nat.ne_of_lt (v.created name file (hi.there m name file written hm)))
  constructor
  case apart =>
    intro m name file written hm
    rcases hcases m _ hm with ⟨rfl, hown⟩ | ⟨-, hm⟩
    · exact (hi.self hq h hown).1
    · exact hi.apart m name file written hm
  case there =>
    intro m name file written hm
    rcases hcases m _ hm with ⟨rfl, hown⟩ | ⟨hne, hm⟩
    · exact (hi.self hq h hown).2.1
    · exact (hi.other hq h hne hm).1
  case only =>
    intro m name file written other hm
    rcases hcases m _ hm with ⟨rfl, hown⟩ | ⟨hne, hm⟩
    · exact (hi.self hq h hown).2.2.1 other
    · exact (hi.other hq h hne hm).2.2 other
  case owner =>
    intro m k name other file written more hm hk
    rcases hcases m _ hm with ⟨hmn, hown⟩ | ⟨hne, hold⟩
    · rcases hcases k _ hk with ⟨hkn, -⟩ | ⟨hne, hold⟩
      · exact hmn.trans hkn.symm
      · exact hmn.trans (hnew k other name file more written hne hold hown).symm
    · rcases hcases k _ hk with ⟨hkn, hown⟩ | ⟨-, hold'⟩
      · exact (hnew m name other file written more hne hold hown).trans hkn.symm
      · exact hi.owner m k name other file written more hold hold'
  case holds =>
    intro m name file written hm
    rcases hcases m _ hm with ⟨rfl, hown⟩ | ⟨hne, hm⟩
    · exact (hi.self hq h hown).2.2.2 written rfl
    · exact (hi.other hq h hne hm).2.1.trans (hi.holds m name file written hm)
  case read =>
    intro m file hm
    rcases hcases m _ hm with ⟨rfl, hown⟩ | ⟨-, hm⟩
    · -- the file was being read before, or it is opened now
      have hsettled : Settled v st file := by
        cases h with
        | quiet => exact hi.read m file (hq.trans hown)
        | read other hother =>
          cases hown
          exact hi.settled hother
        | _ => cases hown
      exact (hsettled.act hq h).1
    · exact ((hi.read m file hm).act hq h).1

/-! ## The published document -/

/-- What is published is what was written. -/
theorem Intact.document_publish (hi : Intact target grave v st) {name : ν} {file : ℕ}
    {written : List β} (hn : st n = .staged name file (some written)) :
    (v.move name target).document target = some written := by
  rw [Volume.document_move (hi.there n _ _ _ hn), hi.holds n _ _ _ hn]

end Act

end SystemSettings

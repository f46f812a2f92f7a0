import SystemSettings.AdvisoryLock
import SystemSettings.WindowsPolicyStore

/-!
# The lock of the Windows policy store

`begin_update` and `end_update` of the Windows `temporal-policy-store.c`, call by call: the path
of the lock file is built, the file is opened, and an exclusive lock is tried a few times.

The calls are answered in any way. A `LockView` is what the kernel keeps of one process here as
well: its open handles, and which of them has the lock; its clock counts the milliseconds that
were slept.
-/

namespace SystemSettings

/-! ## Calls -/

/-- The calls of the two functions. -/
inductive WindowsLockCall : Type where
  /-- `SHGetKnownFolderPath` of the local application data -/
  | getKnownFolderPath
  /-- `calloc` -/
  | calloc
  /-- `CreateDirectoryW` -/
  | createDirectory (directory : WideText)
  /-- `CreateFileW` with `OPEN_ALWAYS` -/
  | createFile (path : WideText)
  /-- `LockFileEx` with `LOCKFILE_EXCLUSIVE_LOCK | LOCKFILE_FAIL_IMMEDIATELY` -/
  | lockFileEx (file : ℤ)
  /-- `UnlockFileEx` -/
  | unlockFileEx (file : ℤ)
  /-- `CloseHandle` -/
  | closeHandle (file : ℤ)
  /-- `Sleep` -/
  | sleep (milliseconds : ℤ)
  deriving DecidableEq

/-- What each call answers; `none` is the error of a call that succeeds. -/
def WindowsLockCall.Answer : WindowsLockCall → Type
  | .getKnownFolderPath => Option WideText
  | .calloc => Bool
  | .createDirectory _ => Option Win32Error
  | .createFile _ => Option ℤ
  | .lockFileEx _ => Option Win32Error
  | .unlockFileEx _ => Bool
  | .closeHandle _ => Bool
  | .sleep _ => Unit

/-- The calls as a signature. -/
def WindowsLockSys : Signature := ⟨WindowsLockCall, WindowsLockCall.Answer⟩

/-- Code on `update_lock_file`, whose `INVALID_HANDLE_VALUE` is `none`. -/
abbrev WindowsLockM : Type → Type := Action WindowsLockSys (Option ℤ)

section Calls

/-- `SHGetKnownFolderPath` -/
def getKnownFolderPath : WindowsLockM (Option WideText) :=
  Action.call (S := WindowsLockSys) .getKnownFolderPath

/-- `calloc` -/
def callocText : WindowsLockM Bool := Action.call (S := WindowsLockSys) .calloc

/-- `CreateDirectoryW` -/
def createDirectoryW (directory : WideText) : WindowsLockM (Option Win32Error) :=
  Action.call (S := WindowsLockSys) (.createDirectory directory)

/-- `CreateFileW` -/
def createFileW (path : WideText) : WindowsLockM (Option ℤ) :=
  Action.call (S := WindowsLockSys) (.createFile path)

/-- `LockFileEx` -/
def lockFileEx (file : ℤ) : WindowsLockM (Option Win32Error) :=
  Action.call (S := WindowsLockSys) (.lockFileEx file)

/-- `UnlockFileEx` -/
def unlockFileEx (file : ℤ) : WindowsLockM Bool :=
  Action.call (S := WindowsLockSys) (.unlockFileEx file)

/-- `CloseHandle` -/
def closeHandle (file : ℤ) : WindowsLockM Bool :=
  Action.call (S := WindowsLockSys) (.closeHandle file)

/-- `Sleep` -/
def sleepMilliseconds (milliseconds : ℤ) : WindowsLockM Unit :=
  Action.call (S := WindowsLockSys) (.sleep milliseconds)

end Calls

/-! ## Beginning and ending -/

/-- The separator of Windows paths. -/
def backslash : Char := Char.ofNat 92

/-- `needs_separator` -/
def needsSeparator (base : WideText) : Bool :=
  match base.getLast? with
  | some last => last ≠ backslash && last ≠ Char.ofNat 47
  | none => false

/-- `directory_out` -/
def policyDirectory (base : WideText) : WideText :=
  base ++ (if needsSeparator base then [backslash] else []) ++ "Infiltrator".toList

/-- `path_out` -/
def policyPath (base : WideText) : WideText :=
  policyDirectory base ++ backslash :: "presentation.conf".toList

/-- `build_paths`; the two paths are those of the folder. -/
def buildPaths : WindowsLockM (Option WideText) := do
  match ← getKnownFolderPath with
  | none => pure none
  | some base =>
    let directoryMade ← callocText
    let pathMade ← callocText
    pure (if directoryMade && pathMade then some base else none)

/-- `ERROR_IO_PENDING` -/
def ioPending : Win32Error := .other 997

/-- The loop of `begin_update` -/
def lockAttempts (file : ℤ) : ℕ → WindowsLockM Bool
  | 0 => pure false
  | attempts + 1 => do
    match ← lockFileEx file with
    | none => pure true
    | some error =>
      if error ≠ .lockViolation ∧ error ≠ ioPending then pure false
      else do
        sleepMilliseconds 10
        lockAttempts file attempts

/-- What `begin_update` does with the file that it has opened. -/
def lockOpened (file : ℤ) : WindowsLockM Bool := do
  Action.modify fun _ => some file
  let ok ← lockAttempts file 25
  if ok then pure true
  else do
    let _ ← closeHandle file
    Action.modify fun _ => none
    pure false

/-- What `begin_update` does with the directory that is there. -/
def lockIn (base : WideText) : WindowsLockM Bool := do
  let lockPathMade ← callocText
  if !lockPathMade then pure false
  else do
    match ← createFileW (policyPath base ++ ".lock".toList) with
    | none => do
      Action.modify fun _ => none
      pure false
    | some file => lockOpened file

/-- `begin_update` -/
def windowsBeginUpdate : WindowsLockM Bool := do
  let updateLockFile ← Action.get
  if updateLockFile ≠ none then pure false
  else do
    match ← buildPaths with
    | none => pure false
    | some base => do
      let error ← createDirectoryW (policyDirectory base)
      if error ≠ none ∧ error ≠ some .alreadyExists then pure false
      else lockIn base

/-- `end_update` -/
def windowsEndUpdate : WindowsLockM Unit := do
  match ← Action.get with
  | none => pure ()
  | some file => do
    let _ ← unlockFileEx file
    let _ ← closeHandle file
    Action.modify fun _ => none

/-! ## What the kernel keeps -/

/-- How a call may be answered. The lock is given to one handle at a time, and it may be refused
at any time, since other processes have it; closing a handle gives it back. -/
def LockView.WindowsAnswers (v : LockView) : (c : WindowsLockCall) → c.Answer → LockView → Prop
  | .getKnownFolderPath, _, v' => v' = v
  | .calloc, _, v' => v' = v
  | .createDirectory _, _, v' => v' = v
  | .createFile _, none, v' => v' = v
  | .createFile _, some (file : ℤ), v' => file ∉ v.descriptors ∧ v' = v.opened file
  | .lockFileEx file, none, v' => v.held = none ∧ ∃ h : file ∈ v.descriptors, v' = v.locked file h
  | .lockFileEx _, some _, v' => v' = v
  | .unlockFileEx file, (done : Bool), v' => v' = if done then v.unlocked file else v
  | .closeHandle file, _, v' => v' = v.closed file
  | .sleep milliseconds, _, v' => v' = v.read (v.clock + milliseconds)

/-- The kernel, as one process sees it. -/
def windowsLockMachine : Machine WindowsLockSys (Option ℤ) LockView :=
  Prog.quiet fun v e => v.WindowsAnswers e.cmd e.resp e.world

/-- The two functions. -/
inductive WindowsLockTask : Type where
  | beginUpdate
  | endUpdate

/-- What each of them does. -/
def WindowsLockTask.run : WindowsLockTask → WindowsLockM Bool
  | .beginUpdate => windowsBeginUpdate
  | .endUpdate => (fun _ => true) <$> windowsEndUpdate

/-- What a process can come to that calls the two functions in any order. -/
inductive WindowsLockSession : Option ℤ → LockView → Prop where
  | start (clock : ℤ) : WindowsLockSession none (.fresh clock)
  | next {updateLockFile updateLockFile' : Option ℤ} {v v' : LockView}
      {tr : List (Event WindowsLockSys LockView)} {ok : Bool} (task : WindowsLockTask)
      (h : WindowsLockSession updateLockFile v)
      (hrun : (task.run updateLockFile).Exec windowsLockMachine v tr ok updateLockFile' v') :
      WindowsLockSession updateLockFile' v'

/-! ## What the functions leave -/

/-- The handle that is kept is the only one that is open, and it has the lock. -/
structure LockKept (updateLockFile : Option ℤ) (v : LockView) : Prop where
  held : v.held = updateLockFile
  descriptors : ∀ file, file ∈ v.descriptors ↔ updateLockFile = some file

/-- A call against the kernel. -/
theorem leads_windowsCall {α : Type} {c : WindowsLockCall} {updateLockFile : Option ℤ}
    {k : c.Answer → Option ℤ → Prog WindowsLockSys (Option ℤ) α}
    {Q : α → Option ℤ → LockView → Prop} {v : LockView}
    (h : ∀ r v', v.WindowsAnswers c r v' → (k r updateLockFile).Leads windowsLockMachine Q v') :
    (Prog.call (S := WindowsLockSys) c updateLockFile k).Leads windowsLockMachine Q v :=
  Prog.Leads.call h

/-- The attempts leave the handles alone; the last one may have obtained the lock. -/
theorem lockAttempts_leads (file : ℤ) (attempts : ℕ) (updateLockFile : Option ℤ) (v : LockView) :
    (lockAttempts file attempts updateLockFile).Leads windowsLockMachine
      (fun ok updateLockFile' v' => updateLockFile' = updateLockFile ∧
        v'.descriptors = v.descriptors ∧ v'.held = (if ok then some file else v.held) ∧
        v.clock ≤ v'.clock ∧ v'.clock ≤ v.clock + 10 * attempts) v := by
  induction attempts generalizing v with
  | zero => exact ⟨rfl, rfl, rfl, le_refl _, by simp⟩
  | succ attempts ih =>
    refine leads_windowsCall fun (error : Option Win32Error) v₁ hlock => ?_
    cases error with
    | none =>
      obtain ⟨-, -, rfl⟩ := hlock
      refine ⟨rfl, rfl, rfl, le_refl _, ?_⟩
      change v.clock ≤ v.clock + _
      omega
    | some error =>
      obtain rfl : v₁ = v := hlock
      change ((if error ≠ .lockViolation ∧ error ≠ ioPending then (pure false : WindowsLockM Bool)
        else _) updateLockFile).Leads windowsLockMachine _ v₁
      by_cases hfatal : error ≠ .lockViolation ∧ error ≠ ioPending
      · rw [if_pos hfatal]
        exact ⟨rfl, rfl, rfl, le_refl _, by omega⟩
      · rw [if_neg hfatal]
        refine leads_windowsCall fun _ v₂ hsleep => ?_
        obtain rfl : v₂ = v₁.read (v₁.clock + 10) := hsleep
        refine (ih (v₁.read (v₁.clock + 10))).mono fun ok _ v' h => ?_
        obtain ⟨hfile, hdescriptors, hheld, hafter, hbefore⟩ := h
        simp only [LockView.read] at hdescriptors hheld hafter hbefore
        refine ⟨hfile, hdescriptors, hheld, ?_, ?_⟩
        · omega
        · push_cast
          omega

/-- What `begin_update` leaves behind when no lock was held: the lock of the handle that is kept,
or nothing. -/
def BeginOutcome (v : LockView) (ok : Bool) (updateLockFile : Option ℤ) (v' : LockView) : Prop :=
  LockKept updateLockFile v' ∧ updateLockFile.isSome = ok ∧ v'.clock ≤ v.clock + 250

/-- The file is locked, or it is closed again. -/
theorem lockOpened_leads {v : LockView} (hkept : LockKept none v) {file : ℤ} :
    (lockOpened file none).Leads windowsLockMachine (BeginOutcome v) (v.opened file) := by
  have hempty : v.descriptors = ∅ := by
    refine Finset.eq_empty_of_forall_notMem fun other hother => ?_
    cases (hkept.descriptors other).mp hother
  refine (lockAttempts_leads file 25 (some file) (v.opened file)).bind fun ok kept v₁ h => ?_
  obtain ⟨rfl, hdescriptors, hheld, -, hclock⟩ := h
  have hbudget : v₁.clock ≤ v.clock + 250 := by
    simp only [LockView.opened] at hclock
    omega
  have honly (other : ℤ) : other ∈ v₁.descriptors ↔ other = file := by
    rw [hdescriptors]
    simp [LockView.opened, hempty]
  cases ok with
  | true =>
    refine ⟨⟨hheld, fun other => ?_⟩, rfl, hbudget⟩
    rw [honly, Option.some.injEq]
    exact eq_comm
  | false =>
    refine leads_windowsCall fun _ v₂ hclose => ?_
    obtain rfl : v₂ = v₁.closed file := hclose
    refine ⟨⟨?_, fun other => ?_⟩, rfl, hbudget⟩
    · have hnone : v₁.held = none := hheld.trans hkept.held
      simp [LockView.closed, hnone]
    · simp [LockView.closed, honly]

/-- Nothing has been locked yet. -/
theorem BeginOutcome.refused {v : LockView} (hkept : LockKept none v) :
    BeginOutcome v false none v := ⟨hkept, rfl, by omega⟩

theorem buildPaths_leads (v : LockView) :
    (buildPaths none).Leads windowsLockMachine
      (fun _ updateLockFile v' => updateLockFile = none ∧ v' = v) v := by
  refine leads_windowsCall fun (base : Option WideText) v₁ hfolder => ?_
  obtain rfl : v₁ = v := hfolder
  cases base with
  | none => exact ⟨rfl, rfl⟩
  | some base =>
    refine leads_windowsCall fun (directoryMade : Bool) v₂ hdirectory => ?_
    obtain rfl : v₂ = v₁ := hdirectory
    refine leads_windowsCall fun (pathMade : Bool) v₃ hpath => ?_
    obtain rfl : v₃ = v₂ := hpath
    exact ⟨rfl, rfl⟩

theorem lockIn_leads {v : LockView} (hkept : LockKept none v) (base : WideText) :
    (lockIn base none).Leads windowsLockMachine (BeginOutcome v) v := by
  refine leads_windowsCall fun (lockPathMade : Bool) v₁ hcalloc => ?_
  obtain rfl : v₁ = v := hcalloc
  cases lockPathMade with
  | false => exact .refused hkept
  | true =>
    refine leads_windowsCall fun (file : Option ℤ) v₂ hopen => ?_
    cases file with
    | none =>
      obtain rfl : v₂ = v₁ := hopen
      exact .refused hkept
    | some file =>
      obtain ⟨-, rfl⟩ : file ∉ v₁.descriptors ∧ v₂ = v₁.opened file := hopen
      exact lockOpened_leads hkept

theorem windowsBeginUpdate_leads {v : LockView} (hkept : LockKept none v) :
    (windowsBeginUpdate none).Leads windowsLockMachine (BeginOutcome v) v := by
  refine (buildPaths_leads v).bind fun base _ v₁ hbuilt => ?_
  obtain ⟨rfl, rfl⟩ := hbuilt
  cases base with
  | none => exact .refused hkept
  | some base =>
    refine leads_windowsCall fun (error : Option Win32Error) v₂ hdirectory => ?_
    obtain rfl : v₂ = v₁ := hdirectory
    change ((if error ≠ none ∧ error ≠ some .alreadyExists then (pure false : WindowsLockM Bool)
      else lockIn base) none).Leads windowsLockMachine _ v₂
    by_cases hrefused : error ≠ none ∧ error ≠ some .alreadyExists
    · rw [if_pos hrefused]
      exact .refused hkept
    · rw [if_neg hrefused]
      exact lockIn_leads hkept base

theorem LockKept.fresh (clock : ℤ) : LockKept none (.fresh clock) :=
  ⟨rfl, fun file => by simp [LockView.fresh]⟩

/-- The lock is given back with its handle, whether unlocking succeeds or not. -/
theorem windowsEndUpdate_leads {updateLockFile : Option ℤ} {v : LockView}
    (hkept : LockKept updateLockFile v) :
    (windowsEndUpdate updateLockFile).Leads windowsLockMachine
      (fun _ updateLockFile' v' => updateLockFile' = none ∧ LockKept none v' ∧
        v'.clock = v.clock) v := by
  cases updateLockFile with
  | none => exact ⟨rfl, hkept, rfl⟩
  | some file =>
    refine leads_windowsCall fun (done : Bool) v₁ hunlock => ?_
    refine leads_windowsCall fun _ v₂ hclose => ?_
    obtain rfl : v₂ = v₁.closed file := hclose
    have hsame : v₁.descriptors = v.descriptors ∧ v₁.clock = v.clock ∧
        v₁.held.filter (· ≠ file) = none := by
      have hunlock : v₁ = if done then v.unlocked file else v := hunlock
      rw [hunlock]
      cases done with
      | true => exact ⟨rfl, rfl, by simp [LockView.unlocked, hkept.held]⟩
      | false => exact ⟨rfl, rfl, by simp [hkept.held]⟩
    obtain ⟨hdescriptors, hclock, hheld⟩ := hsame
    refine ⟨rfl, ⟨hheld, fun other => ?_⟩, hclock⟩
    simp only [LockView.closed, Finset.mem_erase, hdescriptors, hkept.descriptors]
    simp [eq_comm]

/-- Whatever a process does with the lock, it keeps one handle at most. -/
theorem WindowsLockSession.kept {updateLockFile : Option ℤ} {v : LockView}
    (h : WindowsLockSession updateLockFile v) : LockKept updateLockFile v := by
  induction h with
  | start clock => exact .fresh clock
  | @next updateLockFile updateLockFile' v v' tr ok task _ hrun ih =>
    cases task with
    | beginUpdate =>
      cases updateLockFile with
      | none => exact ((windowsBeginUpdate_leads ih).exec hrun).1
      | some file =>
        obtain ⟨-, -, rfl, rfl⟩ := hrun
        exact ih
    | endUpdate =>
      have hends : (WindowsLockTask.endUpdate.run updateLockFile).Leads windowsLockMachine
          (fun _ updateLockFile' v' => LockKept updateLockFile' v') v := by
        refine (windowsEndUpdate_leads ih).bind fun _ updateLockFile' v' h => ?_
        obtain ⟨rfl, hkept, -⟩ := h
        exact hkept
      exact hends.exec hrun

/-- **The Windows lock is balanced.** Whatever a process has done with it and however its calls
were answered: it has a handle open exactly while it has the lock, and it is the handle that it
keeps. To begin succeeds exactly when there was no lock and there is one now, and otherwise leaves
nothing open; it sleeps for a quarter of a second at most, and a lock that is held is refused
without a call. To end always leaves no lock and no handle. -/
theorem windows_lock_balanced {updateLockFile : Option ℤ} {v : LockView}
    (h : WindowsLockSession updateLockFile v) :
    v.held = updateLockFile ∧ (∀ file, file ∈ v.descriptors ↔ updateLockFile = some file) ∧
    (∀ tr ok updateLockFile' v',
      (windowsBeginUpdate updateLockFile).Exec windowsLockMachine v tr ok updateLockFile' v' →
      (ok = true ↔ updateLockFile = none ∧ updateLockFile'.isSome = true) ∧
        (ok = false → updateLockFile' = updateLockFile ∧ SameDescriptors v v') ∧
        (updateLockFile ≠ none → tr = []) ∧ v'.clock ≤ v.clock + 250) ∧
    (∀ tr ok updateLockFile' v',
      (windowsEndUpdate updateLockFile).Exec windowsLockMachine v tr ok updateLockFile' v' →
      updateLockFile' = none ∧ v'.held = none ∧ v'.descriptors = ∅) := by
  have hkept := h.kept
  refine ⟨hkept.held, hkept.descriptors, fun tr ok updateLockFile' v' hrun => ?_,
    fun tr ok updateLockFile' v' hrun => ?_⟩
  · cases updateLockFile with
    | some file =>
      obtain ⟨rfl, rfl, rfl, rfl⟩ := hrun
      exact ⟨by simp, fun _ => ⟨rfl, .refl _⟩, fun _ => rfl, by omega⟩
    | none =>
      obtain ⟨hkept', hok, hclock⟩ := (windowsBeginUpdate_leads hkept).exec hrun
      refine ⟨by simp [hok], fun hfalse => ?_, fun hne => (hne rfl).elim, hclock⟩
      rw [hfalse, Option.isSome_eq_false_iff, Option.isNone_iff_eq_none] at hok
      subst hok
      refine ⟨rfl, ?_, hkept'.held.trans hkept.held.symm⟩
      ext file
      rw [hkept'.descriptors, hkept.descriptors]
  · obtain ⟨hnone, hkept', -⟩ := (windowsEndUpdate_leads hkept).exec hrun
    refine ⟨hnone, hkept'.held, Finset.eq_empty_of_forall_notMem fun file hfile => ?_⟩
    cases (hkept'.descriptors file).mp hfile

/-- A process that is alone with the lock: `false` is a lock that somebody else has. -/
def windowsLockAlone (ok : Bool) (v : LockView) : (c : WindowsLockCall) → c.Answer × LockView
  | .getKnownFolderPath => (some "C:".toList, v)
  | .calloc => (true, v)
  | .createDirectory _ => (some .alreadyExists, v)
  | .createFile _ => if 7 ∈ v.descriptors then (none, v) else (some 7, v.opened 7)
  | .lockFileEx file =>
    if h : ok = true ∧ v.held = none ∧ file ∈ v.descriptors then (none, v.locked file h.2.2)
    else (some .lockViolation, v)
  | .unlockFileEx _ => (false, v)
  | .closeHandle file => (true, v.closed file)
  | .sleep milliseconds => ((), v.read (v.clock + milliseconds))

theorem windowsLockAlone_answers (ok : Bool) (v : LockView) (c : WindowsLockCall) :
    v.WindowsAnswers c (windowsLockAlone ok v c).1 (windowsLockAlone ok v c).2 := by
  cases c with
  | createFile path =>
    by_cases hopen : 7 ∈ v.descriptors
    · simp only [windowsLockAlone, if_pos hopen, LockView.WindowsAnswers]
    · simp only [windowsLockAlone, if_neg hopen, LockView.WindowsAnswers]
      exact ⟨hopen, trivial⟩
  | lockFileEx file =>
    by_cases hfree : ok = true ∧ v.held = none ∧ file ∈ v.descriptors
    · simp only [windowsLockAlone, dif_pos hfree, LockView.WindowsAnswers]
      exact ⟨hfree.2.1, hfree.2.2, trivial⟩
    · simp only [windowsLockAlone, dif_neg hfree, LockView.WindowsAnswers]
  | getKnownFolderPath => rfl
  | calloc => rfl
  | createDirectory directory => rfl
  | unlockFileEx file => rfl
  | closeHandle file => rfl
  | sleep milliseconds => rfl

/-- The first attempt comes too early. -/
def windowsLockPlayed : List (Event WindowsLockSys LockView) × Bool × Option ℤ × LockView :=
  (windowsBeginUpdate none).play windowsLockAlone (.fresh 0)
    [true, true, true, true, true, true, false]

theorem windows_lock_balanced_played : windowsLockPlayed.2.1 = true ∧
    windowsLockPlayed.2.2.2.clock = 10 ∧ windowsLockPlayed.2.2.2.held = some 7 ∧
    ∀ file, file ∈ windowsLockPlayed.2.2.2.descriptors ↔ some 7 = some file := by
  have hfile : windowsLockPlayed.2.2.1 = some 7 := by decide +kernel
  have hplayed : (WindowsLockTask.beginUpdate.run none).Exec windowsLockMachine (.fresh 0)
      windowsLockPlayed.1 windowsLockPlayed.2.1 windowsLockPlayed.2.2.1
      windowsLockPlayed.2.2.2 :=
    Prog.play_exec (fun ok v c => windowsLockAlone_answers ok v c) _ _ _
  have hbalanced := windows_lock_balanced (.next .beginUpdate (.start 0) hplayed)
  rw [hfile] at hbalanced
  exact ⟨by decide +kernel, by decide +kernel, hbalanced.1, hbalanced.2.1⟩

end SystemSettings

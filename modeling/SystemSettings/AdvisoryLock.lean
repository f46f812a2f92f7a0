import Mathlib.Data.Finset.Basic
import SystemSettings.Decimal
import SystemSettings.Platform

/-!
# The advisory lock

`linux-advisory-lock.h`: a lock file that is created, opened and locked with a
non-blocking `flock`, again and again until a deadline. `temporal-policy-store.c` and
`location-metadata.c` take a lock of their own with it.

The calls are answered in any way; a `LockView` is what the kernel keeps of one process:
the clock, its open descriptors and which of them has the lock. The loop has fuel, and
runs out of it without a result.
-/

namespace SystemSettings

/-! ## Calls -/

/-- The values of `errno` that the code tells apart. -/
inductive LockErrno : Type where
  | eintr
  | ewouldblock
  | eagain
  | eexist
  /-- any other -/
  | other
  deriving DecidableEq

/-- The calls of `linux-advisory-lock.h`. -/
inductive LockCall : Type where
  /-- `g_get_monotonic_time` -/
  | monotonicTime
  /-- `g_mkdir_with_parents (directory, 0700)` -/
  | mkdirWithParents (directory : Text)
  /-- `g_chmod (directory, 0700)` -/
  | chmod (directory : Text)
  /-- `open (lock_path, O_CREAT | O_RDWR | O_CLOEXEC, 0600)` -/
  | openFile (lockPath : Text)
  /-- `flock (fd, LOCK_EX | LOCK_NB)` -/
  | flockExclusive (fd : ℤ)
  /-- `flock (fd, LOCK_UN)` -/
  | flockUnlock (fd : ℤ)
  /-- `close` -/
  | close (fd : ℤ)
  /-- `g_usleep` -/
  | usleep (usec : ℤ)
  deriving DecidableEq

/-- What each call answers; `none` is the errno of a call that succeeds. -/
def LockCall.Answer : LockCall → Type
  | .monotonicTime => ℤ
  | .mkdirWithParents _ => Option LockErrno
  | .chmod _ => Bool
  | .openFile _ => ℤ
  | .flockExclusive _ => Option LockErrno
  | .flockUnlock _ => Bool
  | .close _ => Bool
  | .usleep _ => Unit

/-- The calls as a signature. -/
def LockSys : Signature := ⟨LockCall, LockCall.Answer⟩

/-- `SsLinuxAdvisoryLockResult` -/
inductive LockResult : Type where
  | ok
  | busy
  | ioError
  | alreadyHeld
  deriving DecidableEq

/-- `SsLinuxAdvisoryLock` -/
structure AdvisoryLock : Type where
  fd : ℤ
  deriving DecidableEq

/-- `SS_LINUX_ADVISORY_LOCK_INIT` -/
def AdvisoryLock.init : AdvisoryLock := ⟨-1⟩

/-- `SS_LINUX_ADVISORY_LOCK_MAX_WAIT_USEC` -/
def maxWaitUsec : ℤ := 50 * 1000

/-- `SS_LOCK_RETRY_USEC`, in both files -/
def lockRetryUsec : ℤ := 5000

/-- Code on one lock. -/
abbrev LockM : Type → Type := Action LockSys AdvisoryLock

section Calls

/-- `g_get_monotonic_time` -/
def monotonicTime : LockM ℤ := Action.call (S := LockSys) .monotonicTime

/-- `g_mkdir_with_parents` -/
def mkdirWithParents (directory : Text) : LockM (Option LockErrno) :=
  Action.call (S := LockSys) (.mkdirWithParents directory)

/-- `g_chmod` -/
def chmodDirectory (directory : Text) : LockM Bool := Action.call (S := LockSys) (.chmod directory)

/-- `open` -/
def openLockFile (lockPath : Text) : LockM ℤ := Action.call (S := LockSys) (.openFile lockPath)

/-- `flock`, to lock -/
def flockExclusive (fd : ℤ) : LockM (Option LockErrno) :=
  Action.call (S := LockSys) (.flockExclusive fd)

/-- `flock`, to unlock -/
def flockUnlock (fd : ℤ) : LockM Bool := Action.call (S := LockSys) (.flockUnlock fd)

/-- `close` -/
def closeLockFile (fd : ℤ) : LockM Bool := Action.call (S := LockSys) (.close fd)

/-- `g_usleep` -/
def usleep (usec : ℤ) : LockM Unit := Action.call (S := LockSys) (.usleep usec)

end Calls

/-! ## Acquiring and releasing -/

/-- The arguments of `ss_linux_advisory_lock_acquire` but for the lock; `none` is `NULL`. -/
structure LockArguments : Type where
  directory : Option Text
  lockPath : Option Text
  waitUsec : ℤ
  retryUsec : ℤ

/-- `bounded_wait_usec` -/
def LockArguments.boundedWaitUsec (arguments : LockArguments) : ℤ :=
  min (max arguments.waitUsec 0) maxWaitUsec

/-- The loop of `ss_linux_advisory_lock_acquire`; `none` when the fuel runs out -/
def lockAcquireLoop (boundedWaitUsec deadline retryUsec fd : ℤ) : ℕ → LockM (Option LockResult)
  | 0 => pure none
  | fuel + 1 => do
    match ← flockExclusive fd with
    | none =>
      Action.modify fun lock => { lock with fd := fd }
      pure (some .ok)
    | some errno =>
      if errno = .eintr then
        lockAcquireLoop boundedWaitUsec deadline retryUsec fd fuel
      else if errno ≠ .ewouldblock ∧ errno ≠ .eagain then
        let _ ← closeLockFile fd
        pure (some .ioError)
      else
        let remaining := deadline - (← monotonicTime)
        if boundedWaitUsec ≤ 0 ∨ remaining ≤ 0 then
          let _ ← closeLockFile fd
          pure (some .busy)
        else
          usleep (min (max retryUsec 1) remaining)
          lockAcquireLoop boundedWaitUsec deadline retryUsec fd fuel

/-- `ss_linux_advisory_lock_acquire` on a lock that is not `NULL` -/
def lockAcquire (fuel : ℕ) (arguments : LockArguments) : LockM (Option LockResult) := do
  let deadline := (← monotonicTime) + arguments.boundedWaitUsec
  match arguments.directory, arguments.lockPath with
  | some directory, some lockPath =>
    if directory = [] ∨ lockPath = [] then pure (some .ioError)
    else if (← Action.get).fd ≥ 0 then pure (some .alreadyHeld)
    else
      let errno ← mkdirWithParents directory
      if errno ≠ none ∧ errno ≠ some .eexist then pure (some .ioError)
      else if !(← chmodDirectory directory) then pure (some .ioError)
      else
        let fd ← openLockFile lockPath
        if fd < 0 then pure (some .ioError)
        else lockAcquireLoop arguments.boundedWaitUsec deadline arguments.retryUsec fd fuel
  | _, _ => pure (some .ioError)

/-- `ss_linux_advisory_lock_release` on a lock that is not `NULL` -/
def lockRelease : LockM Unit := do
  let fd := (← Action.get).fd
  if fd < 0 then pure ()
  else
    let _ ← flockUnlock fd
    let _ ← closeLockFile fd
    Action.modify fun lock => { lock with fd := -1 }

/-! ## The two locks -/

section Locks

variable (buildFilename : List Text → Option Text) (configDir : Text)

/-- The arguments that `begin_update` of `temporal-policy-store.c` makes. -/
def updateLockArguments : LockArguments :=
  let directory := buildFilename [configDir, bytes "infiltrator"]
  { directory
    lockPath := directory.bind fun directory => buildFilename [directory, bytes "presentation.lock"]
    waitUsec := maxWaitUsec
    retryUsec := lockRetryUsec }

/-- The arguments that `ss_location_metadata_transaction_begin` makes. -/
def localityLockArguments : LockArguments where
  directory := buildFilename [configDir, bytes "infiltrator", bytes "system-settings"]
  lockPath :=
    buildFilename [configDir, bytes "infiltrator", bytes "system-settings", bytes "location.lock"]
  waitUsec := maxWaitUsec
  retryUsec := lockRetryUsec

/-- What both do with them. -/
def lockBegin (fuel : ℕ) (arguments : LockArguments) : LockM (Option Bool) :=
  if arguments.directory = none ∨ arguments.lockPath = none then pure (some false)
  else Option.map (· == LockResult.ok) <$> lockAcquire fuel arguments

/-- `begin_update` -/
def beginUpdate (fuel : ℕ) : LockM (Option Bool) :=
  lockBegin fuel (updateLockArguments buildFilename configDir)

/-- `end_update` -/
def endUpdate : LockM Unit := lockRelease

/-- `ss_location_metadata_transaction_begin` -/
def localityTransactionBegin (fuel : ℕ) : LockM (Option Bool) :=
  lockBegin fuel (localityLockArguments buildFilename configDir)

/-- `ss_location_metadata_transaction_end` -/
def localityTransactionEnd : LockM Unit := lockRelease

end Locks

/-! ## What the kernel keeps -/

/-- What the kernel keeps of one process: only an open descriptor has the lock. -/
@[ext] structure LockView : Type where
  clock : ℤ
  descriptors : Finset ℤ
  /-- the descriptor that has the lock -/
  held : Option ℤ
  held_open : ∀ fd, held = some fd → fd ∈ descriptors

namespace LockView

/-- A new process. -/
def fresh (clock : ℤ) : LockView := ⟨clock, ∅, none, nofun⟩

/-- A reading of the clock. -/
def read (v : LockView) (clock : ℤ) : LockView := ⟨clock, v.descriptors, v.held, v.held_open⟩

/-- A descriptor is opened. -/
def opened (v : LockView) (fd : ℤ) : LockView :=
  ⟨v.clock, insert fd v.descriptors, v.held,
    fun _ h => Finset.mem_insert_of_mem (v.held_open _ h)⟩

/-- A descriptor gets the lock. -/
def locked (v : LockView) (fd : ℤ) (h : fd ∈ v.descriptors) : LockView :=
  ⟨v.clock, v.descriptors, some fd, fun _ heq => Option.some.inj heq ▸ h⟩

/-- A descriptor loses the lock, if it has it. -/
def unlocked (v : LockView) (fd : ℤ) : LockView :=
  ⟨v.clock, v.descriptors, v.held.filter (· ≠ fd),
    fun _ h => v.held_open _ (Option.filter_eq_some_iff.mp h).1⟩

/-- A descriptor is closed, and the lock with it. -/
def closed (v : LockView) (fd : ℤ) : LockView :=
  ⟨v.clock, v.descriptors.erase fd, v.held.filter (· ≠ fd), fun fd' h => by
    obtain ⟨hheld, hne⟩ := Option.filter_eq_some_iff.mp h
    exact Finset.mem_erase.mpr ⟨of_decide_eq_true hne, v.held_open _ hheld⟩⟩

/-- How a call may be answered. Time passes while the process sleeps, and at any other
time; a call may fail whenever it likes. -/
def Answers (v : LockView) : (c : LockCall) → c.Answer → LockView → Prop
  | .monotonicTime, (time : ℤ), v' => v.clock ≤ time ∧ v' = v.read time
  | .mkdirWithParents _, _, v' => v' = v
  | .chmod _, _, v' => v' = v
  | .openFile _, (fd : ℤ), v' => fd < 0 ∧ v' = v ∨ 0 ≤ fd ∧ fd ∉ v.descriptors ∧ v' = v.opened fd
  | .flockExclusive fd, none, v' =>
    (∀ fd', v.held = some fd' → fd' = fd) ∧ ∃ h : fd ∈ v.descriptors, v' = v.locked fd h
  | .flockExclusive _, some _, v' => v' = v
  | .flockUnlock fd, (done : Bool), v' => v' = if done then v.unlocked fd else v
  | .close fd, _, v' => v' = v.closed fd
  | .usleep usec, _, v' => ∃ time, v.clock + usec ≤ time ∧ v' = v.read time

end LockView

/-- The kernel, as one process sees it. -/
def lockMachine : Machine LockSys AdvisoryLock LockView :=
  Prog.quiet fun v e => v.Answers e.cmd e.resp e.world

/-! ## What a run asks for -/

/-- The sleep that a call asks for. -/
def LockCall.sleep : LockCall → ℤ
  | .usleep usec => usec
  | _ => 0

/-- The sleeps that a run asks for. -/
def slept (tr : List (Event LockSys LockView)) : ℤ := (tr.map fun e => e.cmd.sleep).sum

/-- A lock that was interrupted. -/
def flockInterrupted : (c : LockCall) → c.Answer → Bool
  | .flockExclusive _, (errno : Option LockErrno) => decide (errno = some .eintr)
  | _, _ => false

/-- The interruptions of a run. -/
def interruptions (tr : List (Event LockSys LockView)) : ℕ :=
  tr.countP fun e => flockInterrupted e.cmd e.resp

/-- The exclusive lock was obtained in the run. -/
def Obtains (tr : List (Event LockSys LockView)) : Prop :=
  ∃ fd v, ⟨.flockExclusive fd, (none : Option LockErrno), v⟩ ∈ tr

/-- The same descriptors are open, and the same one has the lock. -/
structure SameDescriptors (v v' : LockView) : Prop where
  descriptors : v'.descriptors = v.descriptors
  held : v'.held = v.held

namespace SameDescriptors

variable {v v' v'' : LockView}

theorem refl (v : LockView) : SameDescriptors v v := ⟨rfl, rfl⟩

theorem trans (h : SameDescriptors v v') (h' : SameDescriptors v' v'') : SameDescriptors v v'' :=
  ⟨h'.descriptors.trans h.descriptors, h'.held.trans h.held⟩

theorem read (v : LockView) (clock : ℤ) : SameDescriptors v (v.read clock) := ⟨rfl, rfl⟩

theorem closed (h : SameDescriptors v v') (fd : ℤ) : SameDescriptors (v.closed fd) (v'.closed fd) :=
  ⟨congrArg (·.erase fd) h.descriptors, congrArg (·.filter (· ≠ fd)) h.held⟩

/-- What was just opened and is closed again. -/
theorem opened_closed {fd : ℤ} (hnew : fd ∉ v.descriptors) (h : SameDescriptors (v.opened fd) v') :
    SameDescriptors v (v'.closed fd) := by
  refine ⟨?_, ?_⟩
  · change v'.descriptors.erase fd = v.descriptors
    rw [h.descriptors]
    exact Finset.erase_insert hnew
  · change v'.held.filter (· ≠ fd) = v.held
    rw [h.held]
    change v.held.filter (· ≠ fd) = v.held
    cases hheld : v.held with
    | none => rfl
    | some fd' =>
      have hne : fd' ≠ fd := fun heq => hnew (v.held_open _ (heq ▸ hheld))
      exact Option.filter_some_pos (decide_eq_true hne)

end SameDescriptors

@[simp] theorem slept_nil : slept [] = 0 := rfl

@[simp] theorem slept_cons (e : Event LockSys LockView) (tr : List (Event LockSys LockView)) :
    slept (e :: tr) = e.cmd.sleep + slept tr := by
  simp [slept]

theorem slept_append (tr tr' : List (Event LockSys LockView)) :
    slept (tr ++ tr') = slept tr + slept tr' := by
  simp [slept]

theorem interruptions_append (tr tr' : List (Event LockSys LockView)) :
    interruptions (tr ++ tr') = interruptions tr + interruptions tr' := List.countP_append

@[simp] theorem interruptions_nil : interruptions [] = 0 := rfl

@[simp] theorem interruptions_cons (e : Event LockSys LockView)
    (tr : List (Event LockSys LockView)) :
    interruptions (e :: tr) = interruptions tr + (flockInterrupted e.cmd e.resp).toNat := by
  rw [interruptions, List.countP_cons]
  cases flockInterrupted e.cmd e.resp <;> rfl

/-- A call that is not a lock that succeeds. -/
def obtaining : (c : LockCall) → c.Answer → Prop
  | .flockExclusive _, (errno : Option LockErrno) => errno = none
  | _, _ => False

theorem not_obtains_nil : ¬ Obtains [] := by
  rintro ⟨fd, v, h⟩
  exact List.not_mem_nil h

theorem obtains_cons {e : Event LockSys LockView} {tr : List (Event LockSys LockView)}
    (he : ¬ obtaining e.cmd e.resp) : Obtains (e :: tr) ↔ Obtains tr := by
  constructor
  · rintro ⟨fd, v, h⟩
    rcases List.mem_cons.mp h with rfl | h
    · exact absurd rfl he
    · exact ⟨fd, v, h⟩
  · rintro ⟨fd, v, h⟩
    exact ⟨fd, v, List.mem_cons_of_mem _ h⟩

/-! ## The loop -/

/-- A call against the kernel. -/
theorem wp_lockCall {α : Type} {c : LockCall} {lock : AdvisoryLock}
    {k : c.Answer → AdvisoryLock → Prog LockSys AdvisoryLock α}
    {Q : List (Event LockSys LockView) → α → AdvisoryLock → LockView → Prop} {v : LockView}
    (h : ∀ r v', v.Answers c r v' →
      (k r lock).wp lockMachine (fun tr => Q (⟨c, r, v'⟩ :: tr)) v') :
    (Prog.call (S := LockSys) c lock k).wp lockMachine Q v := by
  rintro r lock' v' ⟨rfl, hanswers⟩
  exact h r v' hanswers

/-- What the loop leaves when it is entered with a descriptor. -/
structure LoopOutcome (fuel : ℕ) (deadline fd : ℤ) (lock : AdvisoryLock) (v : LockView)
    (tr : List (Event LockSys LockView)) (result : Option LockResult) (lock' : AdvisoryLock)
    (v' : LockView) : Prop where
  /-- the sleeps end at the deadline -/
  slept_le : slept tr ≤ max 0 (deadline - v.clock)
  /-- every round is interrupted or sleeps -/
  fuel_le : result = none → (fuel : ℤ) ≤ interruptions tr + slept tr
  /-- the last call obtained the lock, and its descriptor was recorded -/
  locked : result = some .ok → lock' = ⟨fd⟩ ∧ v'.descriptors = v.descriptors ∧
    v'.held = some fd ∧ ∃ before,
      tr = before ++ [⟨.flockExclusive fd, (none : Option LockErrno), v'⟩]
  unlocked : result ≠ some .ok → lock' = lock ∧ ¬ Obtains tr
  closed : result ≠ none → result ≠ some .ok → SameDescriptors (v.closed fd) v'
  running : result = none → SameDescriptors v v'
  free : result ≠ some .alreadyHeld

namespace LoopOutcome

variable {fuel : ℕ} {deadline fd : ℤ} {lock lock' : AdvisoryLock} {v v₁ v' : LockView}
  {tr : List (Event LockSys LockView)} {result : Option LockResult}

theorem exhausted (lock : AdvisoryLock) (v : LockView) :
    LoopOutcome 0 deadline fd lock v [] none lock v where
  slept_le := le_max_left ..
  fuel_le _ := by simp
  locked := nofun
  unlocked _ := ⟨rfl, not_obtains_nil⟩
  closed h := absurd rfl h
  running _ := .refl v
  free := nofun

theorem obtained (hfd : fd ∈ v.descriptors) :
    LoopOutcome (fuel + 1) deadline fd lock v
      [⟨.flockExclusive fd, (none : Option LockErrno), v.locked fd hfd⟩] (some .ok) ⟨fd⟩
      (v.locked fd hfd) where
  slept_le := by simp [LockCall.sleep]
  fuel_le := nofun
  locked _ := ⟨rfl, rfl, rfl, [], rfl⟩
  unlocked h := absurd rfl h
  closed _ h := absurd rfl h
  running := nofun
  free := nofun

/-- The loop gives up: it closes the descriptor after calls that change nothing. -/
theorem closing {result : LockResult} (hbusy : result = .busy ∨ result = .ioError)
    (hslept : slept tr = 0) (hobtains : ¬ Obtains tr) (hsame : SameDescriptors (v.closed fd) v') :
    LoopOutcome fuel deadline fd lock v tr (some result) lock v' where
  slept_le := hslept ▸ le_max_left ..
  fuel_le := nofun
  locked h := by rcases hbusy with rfl | rfl <;> cases h
  unlocked _ := ⟨rfl, hobtains⟩
  closed _ _ := hsame
  running := nofun
  free h := by rcases hbusy with rfl | rfl <;> cases h

/-- A round that does not end the loop comes before the others. -/
theorem round (h : LoopOutcome fuel deadline fd lock v₁ tr result lock' v')
    (round : List (Event LockSys LockView)) (hsame : SameDescriptors v v₁)
    (hobtains : Obtains (round ++ tr) ↔ Obtains tr)
    (hround : 1 ≤ interruptions round + slept round)
    (hdeadline : slept round + max 0 (deadline - v₁.clock) ≤ max 0 (deadline - v.clock)) :
    LoopOutcome (fuel + 1) deadline fd lock v (round ++ tr) result lock' v' where
  slept_le := by
    rw [slept_append]
    exact (Int.add_le_add_left h.slept_le _).trans hdeadline
  fuel_le hresult := by
    have hfuel := h.fuel_le hresult
    rw [slept_append, interruptions_append]
    push_cast
    omega
  locked hresult := by
    obtain ⟨hlock, hdescriptors, hheld, before, rfl⟩ := h.locked hresult
    exact ⟨hlock, hdescriptors.trans hsame.descriptors, hheld, round ++ before,
      (List.append_assoc ..).symm⟩
  unlocked hresult := by
    obtain ⟨hlock, hnot⟩ := h.unlocked hresult
    exact ⟨hlock, hobtains.not.mpr hnot⟩
  closed hresult hok := (hsame.closed fd).trans (h.closed hresult hok)
  running hresult := hsame.trans (h.running hresult)
  free := h.free

end LoopOutcome

/-- One round of the loop, call by call. -/
theorem lockAcquireLoop_succ (boundedWaitUsec deadline retryUsec fd : ℤ) (fuel : ℕ)
    (lock : AdvisoryLock) :
    lockAcquireLoop boundedWaitUsec deadline retryUsec fd (fuel + 1) lock =
      .call (S := LockSys) (.flockExclusive fd) lock fun (errno : Option LockErrno) lock =>
        match errno with
        | none => .ret (some .ok) ⟨fd⟩
        | some errno =>
          if errno = .eintr then
            lockAcquireLoop boundedWaitUsec deadline retryUsec fd fuel lock
          else if errno ≠ .ewouldblock ∧ errno ≠ .eagain then
            .call (S := LockSys) (.close fd) lock fun _ lock => .ret (some .ioError) lock
          else
            .call (S := LockSys) .monotonicTime lock fun (time : ℤ) lock =>
              if boundedWaitUsec ≤ 0 ∨ deadline - time ≤ 0 then
                .call (S := LockSys) (.close fd) lock fun _ lock => .ret (some .busy) lock
              else
                .call (S := LockSys) (.usleep (min (max retryUsec 1) (deadline - time))) lock
                  fun _ lock =>
                    lockAcquireLoop boundedWaitUsec deadline retryUsec fd fuel lock := by
  refine congrArg (Prog.call (S := LockSys) _ lock) (funext fun errno => funext fun lock => ?_)
  cases errno with
  | none => rfl
  | some errno =>
    refine (Action.ite_run _ _ _).trans (congrArg _ ?_)
    refine (Action.ite_run _ _ _).trans (congrArg _ ?_)
    refine congrArg (Prog.call (S := LockSys) _ lock) (funext fun time => funext fun lock => ?_)
    exact Action.ite_run _ _ _

theorem lockAcquireLoop_wp {boundedWaitUsec deadline retryUsec fd : ℤ} (fuel : ℕ)
    (lock : AdvisoryLock) (v : LockView) :
    (lockAcquireLoop boundedWaitUsec deadline retryUsec fd fuel lock).wp lockMachine
      (LoopOutcome fuel deadline fd lock v) v := by
  induction fuel generalizing v with
  | zero => exact LoopOutcome.exhausted lock v
  | succ fuel ih =>
    rw [lockAcquireLoop_succ]
    refine wp_lockCall fun errno v₁ hflock => ?_
    cases errno with
    | none =>
      obtain ⟨-, hfd, rfl⟩ := hflock
      exact LoopOutcome.obtained hfd
    | some errno =>
      obtain rfl : v₁ = v := hflock
      dsimp only
      by_cases heintr : errno = .eintr
      · rw [if_pos heintr]
        subst heintr
        refine Prog.wp_mono (fun tr result lock' v' h => ?_) (ih v₁)
        refine h.round [⟨.flockExclusive fd, some LockErrno.eintr, v₁⟩] (.refl v₁)
          (obtains_cons nofun) ?_ ?_
        · simp [flockInterrupted, LockCall.sleep]
        · simp [LockCall.sleep]
      rw [if_neg heintr]
      have hbusy : ¬ obtaining (.flockExclusive fd) (some errno) := nofun
      by_cases hfatal : errno ≠ .ewouldblock ∧ errno ≠ .eagain
      · rw [if_pos hfatal]
        refine wp_lockCall fun _ v' hclose => ?_
        obtain rfl : v' = v₁.closed fd := hclose
        refine LoopOutcome.closing (.inr rfl) (by simp [LockCall.sleep]) ?_ (.refl _)
        rw [obtains_cons hbusy, obtains_cons (by exact id)]
        exact not_obtains_nil
      rw [if_neg hfatal]
      refine wp_lockCall fun (time : ℤ) v₂ hclock => ?_
      obtain ⟨htime, rfl⟩ : v₁.clock ≤ time ∧ v₂ = v₁.read time := hclock
      by_cases hover : boundedWaitUsec ≤ 0 ∨ deadline - time ≤ 0
      · rw [if_pos hover]
        refine wp_lockCall fun _ v' hclose => ?_
        obtain rfl : v' = (v₁.read time).closed fd := hclose
        refine LoopOutcome.closing (.inl rfl) (by simp [LockCall.sleep]) ?_
          ((SameDescriptors.read v₁ time).closed fd)
        rw [obtains_cons hbusy, obtains_cons (by exact id), obtains_cons (by exact id)]
        exact not_obtains_nil
      rw [if_neg hover]
      refine wp_lockCall fun _ v₃ hsleep => ?_
      obtain ⟨woken, hwoken, rfl⟩ := hsleep
      -- the clock moves on by what was slept, and that was no more than what remained
      have hremaining : 1 ≤ deadline - time := by omega
      have hsleep : 1 ≤ min (max retryUsec 1) (deadline - time) := by omega
      have hle : min (max retryUsec 1) (deadline - time) ≤ deadline - time := min_le_right ..
      generalize min (max retryUsec 1) (deadline - time) = usec at hsleep hle hwoken ⊢
      refine Prog.wp_mono (fun tr result lock' v' h => ?_) (ih ((v₁.read time).read woken))
      refine h.round [⟨.flockExclusive fd, some errno, v₁⟩,
          ⟨.monotonicTime, time, v₁.read time⟩,
          ⟨.usleep usec, (), (v₁.read time).read woken⟩]
        ((SameDescriptors.read v₁ time).trans (.read _ woken)) ?_ ?_ ?_
      · exact (obtains_cons hbusy).trans ((obtains_cons id).trans (obtains_cons id))
      · simp [flockInterrupted, LockCall.sleep]
        omega
      · simp [LockCall.sleep, LockView.read] at hwoken ⊢
        omega

/-- More fuel does not change a run that ended. -/
theorem lockAcquireLoop_more {boundedWaitUsec deadline retryUsec fd : ℤ} {fuel more : ℕ}
    (hle : fuel ≤ more) {lock lock' : AdvisoryLock} {v v' : LockView}
    {tr : List (Event LockSys LockView)} {result : LockResult}
    (h : (lockAcquireLoop boundedWaitUsec deadline retryUsec fd fuel lock).Exec lockMachine v tr
      (some result) lock' v') :
    (lockAcquireLoop boundedWaitUsec deadline retryUsec fd more lock).Exec lockMachine v tr
      (some result) lock' v' := by
  induction fuel generalizing more lock v tr with
  | zero =>
    obtain ⟨-, hresult, -⟩ := h
    cases hresult
  | succ fuel ih =>
    obtain ⟨more, rfl⟩ : ∃ n, more = n + 1 := ⟨more - 1, by omega⟩
    have hrest : fuel ≤ more := by omega
    rw [lockAcquireLoop_succ] at h ⊢
    obtain ⟨errno, lock₁, v₁, tr₁, hflock, rfl, h⟩ := h
    refine ⟨errno, lock₁, v₁, tr₁, hflock, rfl, ?_⟩
    cases errno with
    | none => exact h
    | some errno =>
      dsimp only at h ⊢
      by_cases heintr : errno = .eintr
      · rw [if_pos heintr] at h ⊢
        exact ih hrest h
      rw [if_neg heintr] at h ⊢
      by_cases hfatal : errno ≠ .ewouldblock ∧ errno ≠ .eagain
      · rw [if_pos hfatal] at h ⊢
        exact h
      rw [if_neg hfatal] at h ⊢
      obtain ⟨(time : ℤ), lock₂, v₂, tr₂, hclock, rfl, h⟩ := h
      refine ⟨time, lock₂, v₂, tr₂, hclock, rfl, ?_⟩
      dsimp only at h ⊢
      by_cases hover : boundedWaitUsec ≤ 0 ∨ deadline - time ≤ 0
      · rw [if_pos hover] at h ⊢
        exact h
      rw [if_neg hover] at h ⊢
      obtain ⟨done, lock₃, v₃, tr₃, hsleep, rfl, h⟩ := h
      exact ⟨done, lock₃, v₃, tr₃, hsleep, rfl, ih hrest h⟩

/-! ## Acquiring -/

/-- `ss_linux_advisory_lock_acquire`, call by call. -/
theorem lockAcquire_run (fuel : ℕ) (arguments : LockArguments) (lock : AdvisoryLock) :
    lockAcquire fuel arguments lock =
      .call (S := LockSys) .monotonicTime lock fun (time : ℤ) lock =>
        match arguments.directory, arguments.lockPath with
        | some directory, some lockPath =>
          if directory = [] ∨ lockPath = [] then .ret (some .ioError) lock
          else if lock.fd ≥ 0 then .ret (some .alreadyHeld) lock
          else
            .call (S := LockSys) (.mkdirWithParents directory) lock
              fun (errno : Option LockErrno) lock =>
                if errno ≠ none ∧ errno ≠ some .eexist then .ret (some .ioError) lock
                else
                  .call (S := LockSys) (.chmod directory) lock fun (done : Bool) lock =>
                    if !done then .ret (some .ioError) lock
                    else
                      .call (S := LockSys) (.openFile lockPath) lock fun (fd : ℤ) lock =>
                        if fd < 0 then .ret (some .ioError) lock
                        else
                          lockAcquireLoop arguments.boundedWaitUsec
                            (time + arguments.boundedWaitUsec) arguments.retryUsec fd fuel lock
        | _, _ => .ret (some .ioError) lock := by
  refine congrArg (Prog.call (S := LockSys) _ lock) (funext fun time => funext fun lock => ?_)
  rcases arguments with ⟨_ | directory, _ | lockPath, waitUsec, retryUsec⟩
  · rfl
  · rfl
  · rfl
  refine (Action.ite_run _ _ _).trans (congrArg _ ?_)
  refine (Action.ite_run _ _ _).trans (congrArg _ ?_)
  refine congrArg (Prog.call (S := LockSys) _ lock) (funext fun (errno : Option LockErrno) =>
    funext fun lock => ?_)
  refine (Action.ite_run _ _ _).trans (congrArg _ ?_)
  refine congrArg (Prog.call (S := LockSys) _ lock) (funext fun (done : Bool) =>
    funext fun lock => ?_)
  refine (Action.ite_run _ _ _).trans (congrArg _ ?_)
  refine congrArg (Prog.call (S := LockSys) _ lock) (funext fun (fd : ℤ) => funext fun lock => ?_)
  exact Action.ite_run _ _ _

/-- What an attempt to acquire leaves. -/
structure AcquireOutcome (fuel : ℕ) (arguments : LockArguments) (lock : AdvisoryLock)
    (v : LockView) (tr : List (Event LockSys LockView)) (result : Option LockResult)
    (lock' : AdvisoryLock) (v' : LockView) : Prop where
  /-- the sleeps stay in the budget -/
  slept_le : slept tr ≤ min (max arguments.waitUsec 0) (50 * 1000)
  /-- every round is interrupted or sleeps: with that much fuel there is a result -/
  ends : interruptions tr + min (max arguments.waitUsec 0) (50 * 1000) < (fuel : ℤ) →
    ∃ r, result = some r
  /-- `OK` exactly when the last call obtained the lock and its descriptor was recorded -/
  ok_iff : result = some .ok ↔ ∃ before,
    tr = before ++ [⟨.flockExclusive lock'.fd, (none : Option LockErrno), v'⟩]
  obtains_iff : Obtains tr ↔ result = some .ok
  /-- the descriptor that was opened for it has the lock -/
  locked : result = some .ok → lock.fd < 0 ∧ 0 ≤ lock'.fd ∧ lock'.fd ∉ v.descriptors ∧
    v'.descriptors = insert lock'.fd v.descriptors ∧ v'.held = some lock'.fd
  /-- any other result leaves the lock, and closes what was opened -/
  refused : result ≠ none → result ≠ some .ok → lock' = lock ∧ SameDescriptors v v'
  /-- a lock that is held is left alone at once -/
  held : 0 ≤ lock.fd → lock' = lock ∧ SameDescriptors v v' ∧
    (result = some .alreadyHeld ∨ result = some .ioError ∧
      (arguments.directory.getD [] = [] ∨ arguments.lockPath.getD [] = []))

namespace AcquireOutcome

variable {fuel : ℕ} {arguments : LockArguments} {lock lock' : AdvisoryLock} {v v₁ v' : LockView}
  {tr : List (Event LockSys LockView)} {result : Option LockResult}

theorem budget_nonneg (arguments : LockArguments) :
    0 ≤ min (max arguments.waitUsec 0) (50 * 1000) := by omega

/-- The lock is not tried. -/
theorem refusal {result : LockResult} (hresult : result ≠ .ok) (hslept : slept tr = 0)
    (hobtains : ¬ Obtains tr) (hsame : SameDescriptors v v')
    (hheld : 0 ≤ lock.fd → result = .alreadyHeld ∨ result = .ioError ∧
      (arguments.directory.getD [] = [] ∨ arguments.lockPath.getD [] = [])) :
    AcquireOutcome fuel arguments lock v tr (some result) lock v' where
  slept_le := hslept ▸ budget_nonneg arguments
  ends _ := ⟨_, rfl⟩
  ok_iff := by
    refine ⟨fun h => absurd (Option.some.inj h) hresult, ?_⟩
    rintro ⟨before, rfl⟩
    exact absurd ⟨_, _, List.mem_append_right _ List.mem_cons_self⟩ hobtains
  obtains_iff := ⟨fun h => absurd h hobtains, fun h => absurd (Option.some.inj h) hresult⟩
  locked h := absurd (Option.some.inj h) hresult
  refused _ _ := ⟨rfl, hsame⟩
  held hfd := ⟨rfl, hsame, (hheld hfd).imp (congrArg some) (And.imp_left (congrArg some))⟩

/-- The loop was entered. -/
theorem of_loop {time fd : ℤ} (start : List (Event LockSys LockView))
    (h : LoopOutcome fuel (time + arguments.boundedWaitUsec) fd lock v₁ tr result lock' v')
    (hfree : lock.fd < 0) (hfd : 0 ≤ fd) (hnew : fd ∉ v.descriptors)
    (hopened : SameDescriptors (v.opened fd) v₁) (hclock : time ≤ v₁.clock)
    (hstart : slept start = 0) (hinterruptions : interruptions start = 0)
    (hobtains : Obtains (start ++ tr) ↔ Obtains tr) :
    AcquireOutcome fuel arguments lock v (start ++ tr) result lock' v' := by
  have hbudget : arguments.boundedWaitUsec = min (max arguments.waitUsec 0) (50 * 1000) := rfl
  have hslept : slept tr ≤ min (max arguments.waitUsec 0) (50 * 1000) := by
    have hle := h.slept_le
    omega
  have hiff : Obtains (start ++ tr) ↔ result = some .ok := by
    rw [hobtains]
    constructor
    · intro hobtained
      by_contra hresult
      exact (h.unlocked hresult).2 hobtained
    · intro hresult
      obtain ⟨-, -, -, before, rfl⟩ := h.locked hresult
      exact ⟨_, _, List.mem_append_right _ List.mem_cons_self⟩
  refine ⟨?_, fun hfuel => ?_, ?_, hiff, fun hresult => ?_, fun hresult hok => ?_, fun hheld => ?_⟩
  · rw [slept_append, hstart, zero_add]
    exact hslept
  · rw [interruptions_append, hinterruptions, Nat.zero_add] at hfuel
    refine Option.ne_none_iff_exists'.mp fun hresult => ?_
    have hle := h.fuel_le hresult
    omega
  · refine ⟨fun hresult => ?_, ?_⟩
    · obtain ⟨rfl, -, -, before, rfl⟩ := h.locked hresult
      exact ⟨start ++ before, (List.append_assoc ..).symm⟩
    · rintro ⟨before, heq⟩
      exact hiff.mp ⟨_, _, heq ▸ List.mem_append_right _ List.mem_cons_self⟩
  · obtain ⟨rfl, hdescriptors, hheld, -⟩ := h.locked hresult
    exact ⟨hfree, hfd, hnew, hdescriptors.trans hopened.descriptors, hheld⟩
  · exact ⟨(h.unlocked hok).1, (hopened.opened_closed hnew).trans (h.closed hresult hok)⟩
  · omega

end AcquireOutcome

theorem lockAcquire_wp (fuel : ℕ) (arguments : LockArguments) (lock : AdvisoryLock)
    (v : LockView) :
    (lockAcquire fuel arguments lock).wp lockMachine
      (AcquireOutcome fuel arguments lock v) v := by
  rw [lockAcquire_run]
  refine wp_lockCall fun (time : ℤ) v₁ hclock => ?_
  obtain ⟨htime, rfl⟩ : v.clock ≤ time ∧ v₁ = v.read time := hclock
  have hread : SameDescriptors v (v.read time) := .read v time
  have hnone : ¬ Obtains [(⟨.monotonicTime, time, v.read time⟩ : Event LockSys LockView)] :=
    (obtains_cons id).not.mpr not_obtains_nil
  obtain ⟨directory, lockPath, waitUsec, retryUsec⟩ := arguments
  -- without a directory and a path the lock is refused
  cases directory with
  | none => exact .refusal nofun rfl hnone hread fun _ => .inr ⟨rfl, .inl rfl⟩
  | some directory =>
  cases lockPath with
  | none => exact .refusal nofun rfl hnone hread fun _ => .inr ⟨rfl, .inr rfl⟩
  | some lockPath =>
  dsimp only
  by_cases hempty : directory = [] ∨ lockPath = []
  · rw [if_pos hempty]
    exact .refusal nofun rfl hnone hread fun _ => .inr ⟨rfl, hempty⟩
  rw [if_neg hempty]
  by_cases hheld : lock.fd ≥ 0
  · rw [if_pos hheld]
    exact .refusal nofun rfl hnone hread fun _ => .inl rfl
  rw [if_neg hheld]
  have hfree : lock.fd < 0 := by omega
  refine wp_lockCall fun (errno : Option LockErrno) v₁ hmkdir => ?_
  obtain rfl : v₁ = v.read time := hmkdir
  by_cases hfailed : errno ≠ none ∧ errno ≠ some .eexist
  · rw [if_pos hfailed]
    refine .refusal nofun rfl ?_ hread fun h => absurd h hheld
    rw [obtains_cons (by exact id), obtains_cons (by exact id)]
    exact not_obtains_nil
  rw [if_neg hfailed]
  refine wp_lockCall fun (done : Bool) v₁ hchmod => ?_
  obtain rfl : v₁ = v.read time := hchmod
  by_cases hdone : (!done) = true
  · rw [if_pos hdone]
    refine .refusal nofun rfl ?_ hread fun h => absurd h hheld
    rw [obtains_cons (by exact id), obtains_cons (by exact id), obtains_cons (by exact id)]
    exact not_obtains_nil
  rw [if_neg hdone]
  refine wp_lockCall fun (fd : ℤ) v₁ hopen => ?_
  have hstart : ∀ tr : List (Event LockSys LockView),
      Obtains (⟨.monotonicTime, time, v.read time⟩ ::
        ⟨.mkdirWithParents directory, errno, v.read time⟩ ::
        ⟨.chmod directory, done, v.read time⟩ :: ⟨.openFile lockPath, fd, v₁⟩ :: tr) ↔
      Obtains tr := fun tr => by
    rw [obtains_cons (by exact id), obtains_cons (by exact id), obtains_cons (by exact id),
      obtains_cons (by exact id)]
  rcases hopen with ⟨hfd, rfl⟩ | ⟨hfd, hnew, rfl⟩
  · rw [if_pos hfd]
    exact .refusal nofun rfl ((hstart []).not.mpr not_obtains_nil) hread
      fun h => absurd h hheld
  · rw [if_neg (by omega)]
    refine Prog.wp_mono (fun tr result lock' v' h => ?_) (lockAcquireLoop_wp fuel lock _)
    exact AcquireOutcome.of_loop [⟨.monotonicTime, time, v.read time⟩,
        ⟨.mkdirWithParents directory, errno, v.read time⟩,
        ⟨.chmod directory, done, v.read time⟩,
        ⟨.openFile lockPath, fd, (v.read time).opened fd⟩] h hfree hfd hnew
      ⟨rfl, rfl⟩ le_rfl rfl rfl (hstart tr)

/-- More fuel does not change an attempt that ended. -/
theorem lockAcquire_more {fuel more : ℕ} (hle : fuel ≤ more) {arguments : LockArguments}
    {lock lock' : AdvisoryLock} {v v' : LockView} {tr : List (Event LockSys LockView)}
    {result : LockResult}
    (h : (lockAcquire fuel arguments lock).Exec lockMachine v tr (some result) lock' v') :
    (lockAcquire more arguments lock).Exec lockMachine v tr (some result) lock' v' := by
  rw [lockAcquire_run] at h ⊢
  obtain ⟨(time : ℤ), lock₁, v₁, tr₁, hclock, rfl, h⟩ := h
  refine ⟨time, lock₁, v₁, tr₁, hclock, rfl, ?_⟩
  obtain ⟨directory, lockPath, waitUsec, retryUsec⟩ := arguments
  cases directory with
  | none => exact h
  | some directory =>
  cases lockPath with
  | none => exact h
  | some lockPath =>
  dsimp only at h ⊢
  by_cases hempty : directory = [] ∨ lockPath = []
  · rw [if_pos hempty] at h ⊢
    exact h
  rw [if_neg hempty] at h ⊢
  by_cases hheld : lock₁.fd ≥ 0
  · rw [if_pos hheld] at h ⊢
    exact h
  rw [if_neg hheld] at h ⊢
  obtain ⟨(errno : Option LockErrno), lock₂, v₂, tr₂, hmkdir, rfl, h⟩ := h
  refine ⟨errno, lock₂, v₂, tr₂, hmkdir, rfl, ?_⟩
  dsimp only at h ⊢
  by_cases hfailed : errno ≠ none ∧ errno ≠ some .eexist
  · rw [if_pos hfailed] at h ⊢
    exact h
  rw [if_neg hfailed] at h ⊢
  obtain ⟨(done : Bool), lock₃, v₃, tr₃, hchmod, rfl, h⟩ := h
  refine ⟨done, lock₃, v₃, tr₃, hchmod, rfl, ?_⟩
  dsimp only at h ⊢
  by_cases hdone : (!done) = true
  · rw [if_pos hdone] at h ⊢
    exact h
  rw [if_neg hdone] at h ⊢
  obtain ⟨(fd : ℤ), lock₄, v₄, tr₄, hopen, rfl, h⟩ := h
  refine ⟨fd, lock₄, v₄, tr₄, hopen, rfl, ?_⟩
  dsimp only at h ⊢
  by_cases hfd : fd < 0
  · rw [if_pos hfd] at h ⊢
    exact h
  rw [if_neg hfd] at h ⊢
  exact lockAcquireLoop_more hle h

/-- `begin_update` and its sibling: `true` when the lock was obtained, within 50 ms, and
`false` with nothing changed. -/
theorem lockBegin_wp (fuel : ℕ) (arguments : LockArguments) (lock : AdvisoryLock)
    (v : LockView) :
    (lockBegin fuel arguments lock).wp lockMachine
      (fun tr result lock' v' => slept tr ≤ 50 * 1000 ∧ (result = some true ↔ Obtains tr) ∧
        (result = some true → v'.held = some lock'.fd) ∧
        (result = some false → lock' = lock ∧ SameDescriptors v v')) v := by
  unfold lockBegin
  rw [Action.ite_run]
  split
  · exact ⟨by decide, ⟨nofun, fun h => absurd h not_obtains_nil⟩, nofun, fun _ => ⟨rfl, .refl v⟩⟩
  · rw [Action.map_run]
    refine Prog.wp_bind (Prog.wp_mono ?_ (lockAcquire_wp fuel arguments lock v))
    intro tr result lock' v' h
    change slept (tr ++ []) ≤ _ ∧ (_ ↔ Obtains (tr ++ [])) ∧ _ ∧ _
    rw [List.append_nil]
    have hslept : slept tr ≤ 50 * 1000 := by
      have hle := h.slept_le
      omega
    have htrue : result.map (· == LockResult.ok) = some true ↔ result = some .ok := by
      cases result with
      | none => simp
      | some result => cases result <;> decide
    refine ⟨hslept, htrue.trans h.obtains_iff.symm, fun hresult => ?_, fun hresult => ?_⟩
    · exact (h.locked (htrue.mp hresult)).2.2.2.2
    · refine h.refused ?_ fun hok => ?_
      · rintro rfl
        cases hresult
      · rw [hok] at hresult
        cases hresult

/-! ## Releasing -/

/-- A lock that is not held makes no call. -/
theorem lockRelease_free {lock : AdvisoryLock} (h : lock.fd < 0) :
    lockRelease lock = .ret () lock :=
  (Action.ite_run _ _ _).trans (if_pos h)

/-- `ss_linux_advisory_lock_release`, call by call. -/
theorem lockRelease_held {lock : AdvisoryLock} (h : 0 ≤ lock.fd) :
    lockRelease lock =
      .call (S := LockSys) (.flockUnlock lock.fd) lock fun _ lock' =>
        .call (S := LockSys) (.close lock.fd) lock' fun _ _ => .ret () ⟨-1⟩ :=
  (Action.ite_run _ _ _).trans (if_neg (by omega))

/-- After a release the lock is free, and its descriptor is closed. -/
theorem lockRelease_wp (lock : AdvisoryLock) (v : LockView) :
    (lockRelease lock).wp lockMachine
      (fun tr _ lock' v' => lock'.fd < 0 ∧ slept tr = 0 ∧
        (lock.fd < 0 → tr = [] ∧ lock' = lock ∧ v' = v) ∧
        (0 ≤ lock.fd → SameDescriptors (v.closed lock.fd) v')) v := by
  rcases lt_or_ge lock.fd 0 with hfree | hheld
  · rw [lockRelease_free hfree]
    exact ⟨hfree, rfl, fun _ => ⟨rfl, rfl, rfl⟩, fun h => by omega⟩
  · rw [lockRelease_held hheld]
    refine wp_lockCall fun (done : Bool) v₁ hunlock => ?_
    obtain rfl : v₁ = if done then v.unlocked lock.fd else v := hunlock
    refine wp_lockCall fun _ v' hclose => ?_
    obtain rfl : v' = LockView.closed _ lock.fd := hclose
    refine ⟨by decide, rfl, fun h => by omega, fun _ => ?_⟩
    cases done with
    | false => exact .refl _
    | true =>
      refine ⟨rfl, ?_⟩
      change (v.held.filter _).filter _ = v.held.filter _
      rw [Option.filter_filter]
      simp

end SystemSettings

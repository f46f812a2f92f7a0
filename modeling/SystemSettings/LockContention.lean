import Mathlib.Logic.Relation
import SystemSettings.AdvisoryLock
import SystemSettings.Automaton

/-!
# Processes that contend for a lock

Any number of processes acquire and release one lock file, call by call in any order, and
may be killed anywhere. The kernel gives the lock to a descriptor only when no other
process has it, and takes it back from a process that is gone.
-/

namespace SystemSettings

open Function Relation

/-! ## The system -/

/-- What a process does with its lock. -/
inductive LockTask : Type where
  | acquire (fuel : ℕ) (arguments : LockArguments)
  | release

/-- A release has no result. It counts as `OK`. -/
def LockTask.run : LockTask → LockM (Option LockResult)
  | .acquire fuel arguments => lockAcquire fuel arguments
  | .release => (fun _ => some LockResult.ok) <$> lockRelease

/-- How far a process is. -/
inductive LockProcess : Type where
  | idle (lock : AdvisoryLock)
  | running (task : LockTask) (prog : Prog LockSys AdvisoryLock (Option LockResult))

/-- The processes, and what the kernel keeps of each. -/
structure LockSystem : Type where
  processes : Pid → LockProcess
  views : Pid → LockView

namespace LockSystem

/-- Every process is new. -/
def initial (clock : Pid → ℤ) : LockSystem :=
  ⟨fun _ => .idle .init, fun p => .fresh (clock p)⟩

/-- One step of any process. What has run out of fuel goes nowhere. -/
inductive Step : LockSystem → LockSystem → Prop where
  /-- a process calls one of the two functions -/
  | start {c : LockSystem} (p : Pid) (task : LockTask) (lock : AdvisoryLock) :
      c.processes p = .idle lock →
      Step c { c with processes := update c.processes p (.running task (task.run lock)) }
  /-- a call, which gets the lock only when no other process has it -/
  | call {c : LockSystem} (p : Pid) (task : LockTask) (cmd : LockCall) (lock : AdvisoryLock)
      (k : cmd.Answer → AdvisoryLock → Prog LockSys AdvisoryLock (Option LockResult))
      (r : cmd.Answer) (v : LockView) :
      c.processes p = .running task (.call (S := LockSys) cmd lock k) →
      (c.views p).Answers cmd r v → (obtaining cmd r → ∀ q, q ≠ p → (c.views q).held = none) →
      Step c ⟨update c.processes p (.running task (k r lock)), update c.views p v⟩
  /-- the function returns -/
  | ret {c : LockSystem} (p : Pid) (task : LockTask) (result : LockResult) (lock : AdvisoryLock) :
      c.processes p = .running task (.ret (some result) lock) →
      Step c { c with processes := update c.processes p (.idle lock) }
  /-- the process is killed, and another one gets its number -/
  | kill {c : LockSystem} (p : Pid) (clock : ℤ) :
      Step c ⟨update c.processes p (.idle .init), update c.views p (.fresh clock)⟩

/-- The systems that any order of steps reaches. -/
abbrev Reachable (clock : Pid → ℤ) : LockSystem → Prop := ReflTransGen Step (initial clock)

/-- The process has acquired the lock and not begun to release it. -/
def Holds (c : LockSystem) (p : Pid) : Prop :=
  match c.processes p with
  | .idle lock => 0 ≤ lock.fd
  | .running (.acquire _ _) prog => 0 ≤ prog.memory.fd
  | .running .release _ => False

end LockSystem

/-! ## One process -/

/-- A lock that is held is held through its descriptor. -/
def Owns (lock : AdvisoryLock) (v : LockView) : Prop := 0 ≤ lock.fd → v.held = some lock.fd

/-- Between calls: the only descriptor that is open is the one that is recorded. -/
structure SettledLock (lock : AdvisoryLock) (v : LockView) : Prop where
  owns : Owns lock v
  descriptors : v.descriptors = if 0 ≤ lock.fd then {lock.fd} else ∅

theorem settledLock_fresh (clock : ℤ) : SettledLock .init (.fresh clock) := ⟨nofun, rfl⟩

theorem SettledLock.same {lock : AdvisoryLock} {v v' : LockView} (h : SettledLock lock v)
    (hsame : SameDescriptors v v') : SettledLock lock v' :=
  ⟨fun hfd => hsame.held.trans (h.owns hfd), hsame.descriptors.trans h.descriptors⟩

/-- An attempt to acquire leads from settled locks to settled ones. -/
theorem AcquireOutcome.settled {fuel : ℕ} {arguments : LockArguments} {lock lock' : AdvisoryLock}
    {v v' : LockView} {tr : List (Event LockSys LockView)} {result : LockResult}
    (h : AcquireOutcome fuel arguments lock v tr (some result) lock' v') (hv : SettledLock lock v) :
    SettledLock lock' v' := by
  by_cases hok : result = .ok
  · subst hok
    obtain ⟨hfree, hfd, -, hdescriptors, hheld⟩ := h.locked rfl
    have hempty : v.descriptors = ∅ := hv.descriptors.trans (if_neg (by omega))
    refine ⟨fun _ => hheld, ?_⟩
    rw [hdescriptors, hempty, if_pos hfd]
    rfl
  · obtain ⟨rfl, hsame⟩ := h.refused (Option.some_ne_none _) fun h => hok (Option.some.inj h)
    exact hv.same hsame

/-- What holds of lock and descriptors at every call of a task. -/
def LockTask.Invariant : LockTask → AdvisoryLock → LockView → Prop
  | .acquire _ _ => Owns
  | .release => fun _ _ => True

/-- What a task returns in. -/
def TaskReturns (result : Option LockResult) (lock : AdvisoryLock) (v : LockView) : Prop :=
  Owns lock v ∧ ∀ r, result = some r → SettledLock lock v

theorem maintains_lockCall {α : Type} {I : AdvisoryLock → LockView → Prop}
    {Q : α → AdvisoryLock → LockView → Prop} {c : LockCall} {lock : AdvisoryLock}
    {k : c.Answer → AdvisoryLock → Prog LockSys AdvisoryLock α} {v : LockView} (hI : I lock v)
    (h : ∀ r v', v.Answers c r v' → (k r lock).Maintains lockMachine I Q v') :
    (Prog.call (S := LockSys) c lock k).Maintains lockMachine I Q v := by
  refine ⟨hI, ?_⟩
  rintro r lock' v' ⟨rfl, hanswers⟩
  exact h r v' hanswers

/-- The loop runs while the lock is free. -/
theorem lockAcquireLoop_maintains {boundedWaitUsec deadline retryUsec fd : ℤ} (fuel : ℕ)
    {lock : AdvisoryLock} (hfree : lock.fd < 0) (v : LockView) :
    (lockAcquireLoop boundedWaitUsec deadline retryUsec fd fuel lock).Maintains lockMachine Owns
      (fun _ => Owns) v := by
  have howns : ∀ v, Owns lock v := fun v hfd => absurd hfd (by omega)
  induction fuel generalizing v with
  | zero => exact howns v
  | succ fuel ih =>
    rw [lockAcquireLoop_succ]
    refine maintains_lockCall (howns _) fun errno v₁ hflock => ?_
    cases errno with
    | none =>
      obtain ⟨-, hfd, rfl⟩ := hflock
      exact fun _ => rfl
    | some errno =>
      dsimp only
      split
      · exact ih v₁
      split
      · exact maintains_lockCall (howns _) fun _ v' _ => howns v'
      refine maintains_lockCall (howns _) fun (time : ℤ) v₂ _ => ?_
      split
      · exact maintains_lockCall (howns _) fun _ v' _ => howns v'
      · exact maintains_lockCall (howns _) fun _ v' _ => ih v'

theorem lockAcquire_maintains (fuel : ℕ) (arguments : LockArguments) {lock : AdvisoryLock}
    {v : LockView} (hv : Owns lock v) :
    (lockAcquire fuel arguments lock).Maintains lockMachine Owns (fun _ => Owns) v := by
  rw [lockAcquire_run]
  refine maintains_lockCall hv fun (time : ℤ) v₁ hclock => ?_
  obtain ⟨-, rfl⟩ : v.clock ≤ time ∧ v₁ = v.read time := hclock
  obtain ⟨directory, lockPath, waitUsec, retryUsec⟩ := arguments
  cases directory with
  | none => exact hv
  | some directory =>
  cases lockPath with
  | none => exact hv
  | some lockPath =>
  dsimp only
  split
  · exact hv
  split
  · exact hv
  next hheld =>
    have hfree : lock.fd < 0 := by omega
    have howns : ∀ v, Owns lock v := fun v hfd => absurd hfd hheld
    refine maintains_lockCall (howns _) fun (errno : Option LockErrno) v₂ _ => ?_
    split
    · exact howns _
    refine maintains_lockCall (howns _) fun (done : Bool) v₃ _ => ?_
    split
    · exact howns _
    refine maintains_lockCall (howns _) fun (fd : ℤ) v₄ _ => ?_
    split
    · exact howns _
    · exact lockAcquireLoop_maintains fuel hfree v₄

/-- The loop records a descriptor at its very end. -/
theorem lockAcquireLoop_steady {boundedWaitUsec deadline retryUsec fd : ℤ} (fuel : ℕ)
    {lock : AdvisoryLock} (hfree : lock.fd < 0) :
    (lockAcquireLoop boundedWaitUsec deadline retryUsec fd fuel lock).Steady (0 ≤ ·.fd) := by
  have hlock : ∀ s : AdvisoryLock, 0 ≤ lock.fd → s = lock := fun s hfd => absurd hfd (by omega)
  induction fuel with
  | zero => trivial
  | succ fuel ih =>
    rw [lockAcquireLoop_succ]
    refine fun errno => ⟨hlock _, ?_⟩
    cases errno with
    | none => trivial
    | some errno =>
      dsimp only
      split
      · exact ih
      split
      · exact fun _ => ⟨hlock _, trivial⟩
      refine fun (time : ℤ) => ⟨hlock _, ?_⟩
      dsimp only
      split
      · exact fun _ => ⟨hlock _, trivial⟩
      · exact fun _ => ⟨hlock _, ih⟩

theorem lockAcquire_steady (fuel : ℕ) (arguments : LockArguments) (lock : AdvisoryLock) :
    (lockAcquire fuel arguments lock).Steady (0 ≤ ·.fd) := by
  rw [lockAcquire_run]
  obtain ⟨directory, lockPath, waitUsec, retryUsec⟩ := arguments
  refine fun (time : ℤ) => ?_
  cases directory with
  | none => exact ⟨fun _ => rfl, trivial⟩
  | some directory =>
  cases lockPath with
  | none => exact ⟨fun _ => rfl, trivial⟩
  | some lockPath =>
  dsimp only
  split
  · exact ⟨fun _ => rfl, trivial⟩
  split
  · exact ⟨fun _ => rfl, trivial⟩
  next hheld =>
    have hfree : lock.fd < 0 := by omega
    have hlock : ∀ s : AdvisoryLock, 0 ≤ lock.fd → s = lock := fun s hfd => absurd hfd hheld
    refine ⟨hlock _, fun (errno : Option LockErrno) => ⟨hlock _, ?_⟩⟩
    dsimp only
    split
    · trivial
    refine fun (done : Bool) => ⟨hlock _, ?_⟩
    dsimp only
    split
    · trivial
    refine fun (fd : ℤ) => ⟨hlock _, ?_⟩
    dsimp only
    split
    · trivial
    · exact lockAcquireLoop_steady fuel hfree

theorem lockRelease_maintains {lock : AdvisoryLock} {v : LockView} (hv : SettledLock lock v) :
    (lockRelease lock).Maintains lockMachine (fun _ _ => True) (fun _ => SettledLock) v := by
  rcases lt_or_ge lock.fd 0 with hfree | hheld
  · rw [lockRelease_free hfree]
    exact hv
  · rw [lockRelease_held hheld]
    refine maintains_lockCall trivial fun (done : Bool) v₁ hunlock => ?_
    obtain rfl : v₁ = if done then v.unlocked lock.fd else v := hunlock
    refine maintains_lockCall trivial fun _ v' hclose => ?_
    obtain rfl : v' = LockView.closed _ lock.fd := hclose
    refine ⟨nofun, ?_⟩
    have hdescriptors : v.descriptors = {lock.fd} := hv.descriptors.trans (if_pos hheld)
    have hunlocked : (if done then v.unlocked lock.fd else v).descriptors = {lock.fd} := by
      cases done <;> exact hdescriptors
    change Finset.erase _ _ = ∅
    rw [hunlocked]
    simp

/-- A task that is started between calls keeps its invariant and ends between calls. -/
theorem LockTask.run_maintains (task : LockTask) {lock : AdvisoryLock} {v : LockView}
    (hv : SettledLock lock v) :
    (task.run lock).Maintains lockMachine task.Invariant TaskReturns v := by
  cases task with
  | acquire fuel arguments =>
    have hsettled : (lockAcquire fuel arguments lock).wp lockMachine
        (fun _ result lock' v' => ∀ r, result = some r → SettledLock lock' v') v := by
      refine Prog.wp_mono ?_ (lockAcquire_wp fuel arguments lock v)
      rintro tr result lock' v' h r rfl
      exact h.settled hv
    exact (lockAcquire_maintains fuel arguments hv.owns).and_wp hsettled
  | release =>
    refine Prog.Maintains.bind ((lockRelease_maintains hv).mono fun _ lock' v' h => ?_)
    exact ⟨h.owns, fun _ _ => h⟩

/-! ## All processes -/

/-- What is left of a process fits what the kernel keeps of it. -/
def LockProcess.Fits : LockProcess → LockView → Prop
  | .idle lock, v => SettledLock lock v
  | .running task prog, v => prog.Maintains lockMachine task.Invariant TaskReturns v

/-- What is left of an attempt to acquire leaves a lock that is held. -/
def LockProcess.Steady : LockProcess → Prop
  | .running (.acquire _ _) prog => prog.Steady (0 ≤ ·.fd)
  | _ => True

namespace LockSystem

/-- The invariant: every process fits, and one descriptor at most has the lock. -/
structure Sound (c : LockSystem) : Prop where
  fits : ∀ p, (c.processes p).Fits (c.views p)
  steady : ∀ p, (c.processes p).Steady
  exclusive : ∀ p q, (c.views p).held ≠ none → (c.views q).held ≠ none → p = q

theorem sound_initial (clock : Pid → ℤ) : Sound (initial clock) :=
  ⟨fun _ => settledLock_fresh _, fun _ => trivial, fun _ _ h => absurd rfl h⟩

/-- Only a lock that succeeds makes a process hold the lock. -/
theorem held_of_answers {v v' : LockView} {c : LockCall} {r : c.Answer}
    (h : v.Answers c r v') (hc : ¬ obtaining c r) (hheld : v'.held ≠ none) : v.held ≠ none := by
  intro hnone
  refine hheld ?_
  cases c with
  | monotonicTime =>
    obtain ⟨-, rfl⟩ := h
    exact hnone
  | mkdirWithParents => exact (congrArg LockView.held h).trans hnone
  | chmod => exact (congrArg LockView.held h).trans hnone
  | openFile =>
    rcases h with ⟨-, rfl⟩ | ⟨-, -, rfl⟩ <;> exact hnone
  | flockExclusive fd =>
    cases r with
    | none => exact absurd rfl hc
    | some errno => exact (congrArg LockView.held h).trans hnone
  | flockUnlock fd =>
    cases r with
    | false => exact (congrArg LockView.held h).trans hnone
    | true =>
      refine (congrArg LockView.held h).trans ?_
      change v.held.filter _ = none
      rw [hnone]
      rfl
  | close fd =>
    refine (congrArg LockView.held h).trans ?_
    change v.held.filter _ = none
    rw [hnone]
    rfl
  | usleep usec =>
    obtain ⟨-, -, rfl⟩ := h
    exact hnone

/-- A step of one process concerns what holds of that process. -/
theorem forall_update {α : Type} {P : Pid → α → Prop} {f : Pid → α} (h : ∀ q, P q (f q)) {p : Pid}
    {a : α} (ha : P p a) (q : Pid) : P q (update f p a q) := by
  rcases eq_or_ne q p with rfl | hne
  · rwa [update_self]
  · rw [update_of_ne hne]
    exact h q

theorem Step.steady {c c' : LockSystem} (hstep : Step c c')
    (hc : ∀ p, (c.processes p).Steady) : ∀ p, (c'.processes p).Steady := by
  cases hstep with
  | start p task lock hidle =>
    refine forall_update (P := fun _ => LockProcess.Steady) hc ?_
    cases task with
    | acquire fuel arguments => exact lockAcquire_steady fuel arguments lock
    | release => trivial
  | call p task cmd lock k r v hrunning =>
    refine forall_update (P := fun _ => LockProcess.Steady) hc ?_
    have hsteady := hc p
    rw [hrunning] at hsteady
    cases task with
    | acquire fuel arguments => exact (hsteady r).2
    | release => trivial
  | ret p task result lock hrunning =>
    exact forall_update (P := fun _ => LockProcess.Steady) hc trivial
  | kill p clock =>
    exact forall_update (P := fun _ => LockProcess.Steady) hc trivial

theorem Step.sound {c c' : LockSystem} (hstep : Step c c') (hc : Sound c) : Sound c' := by
  have hsteady := hstep.steady hc.steady
  cases hstep with
  | start p task lock hidle =>
    refine ⟨fun q => ?_, hsteady, hc.exclusive⟩
    dsimp only
    rcases eq_or_ne q p with rfl | hne
    · have hsettled := hc.fits q
      rw [hidle] at hsettled
      rw [update_self]
      exact task.run_maintains hsettled
    · rw [update_of_ne hne]
      exact hc.fits q
  | call p task cmd lock k r v hrunning hanswers hfree =>
    refine ⟨fun q => ?_, hsteady, ?_⟩
    · dsimp only
      rcases eq_or_ne q p with rfl | hne
      · have hfits := hc.fits q
        rw [hrunning] at hfits
        rw [update_self, update_self]
        exact hfits.2 r lock v ⟨rfl, hanswers⟩
      · rw [update_of_ne hne, update_of_ne hne]
        exact hc.fits q
    · have hnew : v.held ≠ none → ∀ q, (c.views q).held ≠ none → q = p := by
        intro hheld q hq
        by_contra hne
        by_cases hobtains : obtaining cmd r
        · exact hq (hfree hobtains q hne)
        · exact hne (hc.exclusive q p hq (held_of_answers hanswers hobtains hheld))
      intro q q' hq hq'
      dsimp only at hq hq'
      rcases eq_or_ne q p with rfl | hne <;> rcases eq_or_ne q' q with rfl | hne'
      · rfl
      · rw [update_self] at hq
        rw [update_of_ne hne'] at hq'
        exact (hnew hq q' hq').symm
      · rfl
      · rw [update_of_ne hne] at hq
        rcases eq_or_ne q' p with rfl | hother
        · rw [update_self] at hq'
          exact hnew hq' q hq
        · rw [update_of_ne hother] at hq'
          exact hc.exclusive q q' hq hq'
  | ret p task result lock hrunning =>
    refine ⟨fun q => ?_, hsteady, hc.exclusive⟩
    dsimp only
    rcases eq_or_ne q p with rfl | hne
    · have hfits := hc.fits q
      rw [hrunning] at hfits
      rw [update_self]
      exact hfits.2 result rfl
    · rw [update_of_ne hne]
      exact hc.fits q
  | kill p clock =>
    refine ⟨fun q => ?_, hsteady, fun q q' hq hq' => ?_⟩
    · dsimp only
      rcases eq_or_ne q p with rfl | hne
      · rw [update_self, update_self]
        exact settledLock_fresh clock
      · rw [update_of_ne hne, update_of_ne hne]
        exact hc.fits q
    · have hother : ∀ q, (update c.views p (.fresh clock) q).held ≠ none →
          (c.views q).held ≠ none := by
        intro q hq
        rcases eq_or_ne q p with rfl | hne
        · rw [update_self] at hq
          exact absurd rfl hq
        · rwa [update_of_ne hne] at hq
      exact hc.exclusive q q' (hother q hq) (hother q' hq')

theorem Reachable.sound {clock : Pid → ℤ} {c : LockSystem} (h : Reachable clock c) : Sound c := by
  induction h with
  | refl => exact sound_initial clock
  | tail _ hstep ih => exact hstep.sound ih

/-- A process that holds the lock has it from the kernel. -/
theorem Sound.held {c : LockSystem} (hc : Sound c) {p : Pid} (h : c.Holds p) :
    (c.views p).held ≠ none := by
  have hfits := hc.fits p
  unfold Holds at h
  have hheld : ∀ lock : AdvisoryLock, Owns lock (c.views p) → 0 ≤ lock.fd →
      (c.views p).held ≠ none := fun lock howns hfd => by
    rw [howns hfd]
    exact Option.some_ne_none _
  split at h
  · next lock hidle =>
    rw [hidle] at hfits
    exact hheld lock hfits.owns h
  · next fuel arguments prog hrunning =>
    rw [hrunning] at hfits
    exact hheld prog.memory (Prog.Maintains.now hfits fun _ _ _ hreturns => hreturns.1) h
  · exact h.elim

/-- Who holds the lock holds it until it begins a release or is killed. -/
theorem Step.holds {c c' : LockSystem} (hstep : Step c c') (hc : Sound c) {p : Pid}
    (h : c.Holds p) :
    c'.Holds p ∨ (∃ prog, c'.processes p = .running .release prog) ∨
      c'.processes p = .idle .init := by
  cases hstep with
  | start q task lock hidle =>
    rcases eq_or_ne p q with rfl | hne
    · cases task with
      | acquire fuel arguments =>
        left
        unfold Holds at h ⊢
        rw [hidle] at h
        dsimp only
        rw [update_self]
        exact h
      | release => exact .inr (.inl ⟨_, update_self ..⟩)
    · left
      unfold Holds at h ⊢
      dsimp only
      rwa [update_of_ne hne]
  | call q task cmd lock k r v hrunning =>
    left
    rcases eq_or_ne p q with rfl | hne
    · have hsteady := hc.steady p
      unfold Holds at h ⊢
      rw [hrunning] at hsteady h
      dsimp only
      rw [update_self]
      cases task with
      | acquire fuel arguments =>
        have hmemory := (hsteady r).1 h
        dsimp only
        rw [hmemory]
        exact h
      | release => exact h.elim
    · unfold Holds at h ⊢
      dsimp only
      rwa [update_of_ne hne]
  | ret q task result lock hrunning =>
    left
    rcases eq_or_ne p q with rfl | hne
    · unfold Holds at h ⊢
      rw [hrunning] at h
      dsimp only
      rw [update_self]
      cases task with
      | acquire fuel arguments => exact h
      | release => exact h.elim
    · unfold Holds at h ⊢
      dsimp only
      rwa [update_of_ne hne]
  | kill q clock =>
    rcases eq_or_ne p q with rfl | hne
    · exact .inr (.inr (update_self ..))
    · left
      unfold Holds at h ⊢
      dsimp only
      rwa [update_of_ne hne]

end LockSystem

/-- The advisory lock. Whatever the calls answer, an attempt to acquire has the outcome
that `AcquireOutcome` states: it sleeps no longer than its budget, ends but for
interruptions, and keeps a descriptor exactly when it has obtained the lock. Fuel does not
matter once there is a result. A release closes the descriptor and frees the lock, and
does nothing to a free lock. Among any number of processes at most one holds the lock, no
idle process has a descriptor open but the one it recorded, and who holds the lock holds
it until it begins a release or is killed. -/
theorem advisoryLock_sound :
    (∀ (fuel : ℕ) (arguments : LockArguments) (lock : AdvisoryLock) (v : LockView)
      (tr : List (Event LockSys LockView)) (result : Option LockResult) (lock' : AdvisoryLock)
      (v' : LockView),
      (lockAcquire fuel arguments lock).Exec lockMachine v tr result lock' v' →
      AcquireOutcome fuel arguments lock v tr result lock' v') ∧
    (∀ (fuel more : ℕ) (arguments : LockArguments) (lock : AdvisoryLock) (v : LockView)
      (tr : List (Event LockSys LockView)) (result : LockResult) (lock' : AdvisoryLock)
      (v' : LockView), fuel ≤ more →
      (lockAcquire fuel arguments lock).Exec lockMachine v tr (some result) lock' v' →
      (lockAcquire more arguments lock).Exec lockMachine v tr (some result) lock' v') ∧
    (∀ (lock : AdvisoryLock) (v : LockView) (tr : List (Event LockSys LockView)) (u : Unit)
      (lock' : AdvisoryLock) (v' : LockView),
      (lockRelease lock).Exec lockMachine v tr u lock' v' →
      lock'.fd < 0 ∧ slept tr = 0 ∧ (lock.fd < 0 → tr = [] ∧ lock' = lock ∧ v' = v) ∧
        (0 ≤ lock.fd → SameDescriptors (v.closed lock.fd) v')) ∧
    (∀ (clock : Pid → ℤ) (c : LockSystem), LockSystem.Reachable clock c →
      (∀ p q, c.Holds p → c.Holds q → p = q) ∧
      (∀ p lock, c.processes p = .idle lock →
        (c.views p).descriptors = if 0 ≤ lock.fd then {lock.fd} else ∅) ∧
      ∀ p c', c.Holds p → LockSystem.Step c c' →
        c'.Holds p ∨ (∃ prog, c'.processes p = .running .release prog) ∨
          c'.processes p = .idle .init) := by
  refine ⟨fun fuel arguments lock v tr result lock' v' h => ?_,
    fun fuel more arguments lock v tr result lock' v' hle h => ?_,
    fun lock v tr u lock' v' h => ?_, fun clock c hreachable => ?_⟩
  · exact h.of_wp (lockAcquire_wp fuel arguments lock v)
  · exact lockAcquire_more hle h
  · exact h.of_wp (lockRelease_wp lock v)
  · have hc := hreachable.sound
    refine ⟨fun p q hp hq => ?_, fun p lock hidle => ?_, fun p c' hp hstep => hstep.holds hc hp⟩
    · exact hc.exclusive p q (hc.held hp) (hc.held hq)
    · have hfits := hc.fits p
      rw [hidle] at hfits
      exact hfits.descriptors

/-- A wait of less than nothing is no wait: no sleep is less than nothing. -/
theorem not_slept_le_waitUsec :
    ¬ ∀ (fuel : ℕ) (arguments : LockArguments) (lock : AdvisoryLock) (v : LockView)
      (tr : List (Event LockSys LockView)) (result : Option LockResult) (lock' : AdvisoryLock)
      (v' : LockView),
      (lockAcquire fuel arguments lock).Exec lockMachine v tr result lock' v' →
      slept tr ≤ min arguments.waitUsec (50 * 1000) := by
  intro h
  have hfd : (3 : ℤ) ∈ ((LockView.fresh 0).opened 3).descriptors := Finset.mem_insert_self ..
  have hrun : (lockAcquire 1 ⟨some [47], some [47, 108], -1, 5000⟩ .init).Exec lockMachine
      (.fresh 0) [⟨.monotonicTime, (0 : ℤ), .fresh 0⟩,
        ⟨.mkdirWithParents [47], (none : Option LockErrno), .fresh 0⟩,
        ⟨.chmod [47], true, .fresh 0⟩, ⟨.openFile [47, 108], (3 : ℤ), (LockView.fresh 0).opened 3⟩,
        ⟨.flockExclusive 3, (none : Option LockErrno),
          ((LockView.fresh 0).opened 3).locked 3 hfd⟩]
      (some .ok) ⟨3⟩ (((LockView.fresh 0).opened 3).locked 3 hfd) := by
    refine Prog.exec_quiet.mpr ⟨⟨_, _, _, rfl, _, _, _, rfl, _, _, _, rfl, _, _, _, rfl, _, _, _,
      rfl, rfl, rfl, rfl⟩, ?_⟩
    exact ⟨⟨le_rfl, rfl⟩, rfl, rfl, .inr ⟨by decide, by decide, rfl⟩, ⟨nofun, hfd, rfl⟩, rfl⟩
  have hle := h _ _ _ _ _ _ _ _ hrun
  simp [LockCall.sleep] at hle

end SystemSettings

import Mathlib.Logic.Function.Basic
import Mathlib.Logic.Relation
import SystemSettings.Program

/-!
# Programs that share a resource under an exclusive lock

A library for processes that run programs against one world, call by call and in
any interleaving. The world holds a resource and an exclusive lock on it.

* `Prog.Meets` is the local side: a program that changes the resource only while
  it holds the lock, that holds it at most once, and that has given it back when
  it ends. It is proved of one program with everybody else reduced to `Rely`.
* `Config`, `Step` are the global side: processes start, call and return one
  step at a time.
* `serializable` connects them: if every program meets its contract, the
  resource has gone through the sections of the programs one after another, in
  the order in which they took the lock.
* `Config.play` runs a system by a schedule, and checks the guard where the lock is taken.
-/

namespace SystemSettings

open Function Relation

variable {S : Signature} {σ α β ι W D : Type}

/-- A world with a resource behind an exclusive lock. -/
structure LockedResource (S : Signature) (W D : Type) where
  /-- who holds the lock -/
  holder : W → Option ℕ
  /-- the resource -/
  res : W → D
  /-- how the world answers a call of a process -/
  answer : ℕ → W → Event S W → Prop
  /-- what happens by itself -/
  env : W → W → Prop
  /-- a call leaves the lock alone, takes it when it is free, or gives it back -/
  holder_answer : ∀ {p w e}, answer p w e → holder e.world = holder w ∨
    (holder w = none ∧ holder e.world = some p) ∨ (holder w = some p ∧ holder e.world = none)
  /-- nothing else moves the lock -/
  holder_env : ∀ {w w'}, env w w' → holder w' = holder w
  /-- nothing else changes the resource -/
  res_env : ∀ {w w'}, env w w' → res w' = res w

/-- Where a program is with respect to its section. -/
inductive Phase (D : Type) : Type where
  /-- before it -/
  | outside
  /-- inside, since the resource was `before` -/
  | inside (before : D)
  /-- after it; it turned `before` into `after` -/
  | done (before after : D)

/-- What is asked of the programs of a system, by the task they run. -/
structure Contract (ι σ α D : Type) where
  /-- what is known of memory and resource when a task takes the lock -/
  guard : ι → σ → D → Prop
  /-- how a task may change the resource in one call -/
  changes : ι → D → D → Prop
  /-- what a section does to the resource, by the result of the task -/
  effect : ι → α → D → D → Prop
  /-- the results of a task that never took the lock -/
  untouched : ι → α → Prop
  /-- the memory between tasks -/
  ready : σ → Prop

namespace LockedResource

variable (L : LockedResource S W D)

/-- What the others may do: they leave the lock of `p` to `p`, and the resource
alone while `p` holds it. -/
def Rely (p : ℕ) (w w' : W) : Prop :=
  (L.holder w' = some p ↔ L.holder w = some p) ∧ (L.holder w = some p → L.res w' = L.res w)

theorem Rely.refl (p : ℕ) (w : W) : L.Rely p w w := ⟨Iff.rfl, fun _ => rfl⟩

variable {L} in
theorem Rely.trans {p : ℕ} {w w' w'' : W} (h : L.Rely p w w') (h' : L.Rely p w' w'') :
    L.Rely p w w'' :=
  ⟨h'.1.trans h.1, fun hl => (h'.2 (h.1.mpr hl)).trans (h.2 hl)⟩

/-- A call that takes the lock. -/
def Takes (p : ℕ) (w w' : W) : Prop := L.holder w ≠ some p ∧ L.holder w' = some p

/-- The phase of `p` across one of its calls. There is none for a call that
changes the resource without the lock, or that takes the lock again. -/
inductive Next (p : ℕ) (changes : D → D → Prop) (w w' : W) : Phase D → Phase D → Prop where
  /-- nothing yet -/
  | stay : L.holder w' ≠ some p → L.res w' = L.res w → Next p changes w w' .outside .outside
  /-- the lock is taken -/
  | take : L.Takes p w w' → L.res w' = L.res w →
      Next p changes w w' .outside (.inside (L.res w'))
  /-- a call inside -/
  | work (before : D) : L.holder w' = some p → L.res w' = L.res w ∨ changes (L.res w) (L.res w') →
      Next p changes w w' (.inside before) (.inside before)
  /-- the lock is given back -/
  | give (before : D) : L.holder w' ≠ some p → L.res w' = L.res w →
      Next p changes w w' (.inside before) (.done before (L.res w'))
  /-- nothing any more -/
  | rest (before after : D) : L.holder w' ≠ some p → L.res w' = L.res w →
      Next p changes w w' (.done before after) (.done before after)

end LockedResource

/-! ## Programs in a section -/

namespace Prog

variable (L : LockedResource S W D) (guard : σ → D → Prop) (changes : D → D → Prop) (p : ℕ)

/-- From this world and phase the program of process `p` keeps to its section
and ends in `Q`, whatever the others do. -/
def Meets : Prog S σ α → (α → σ → Phase D → W → Prop) → Phase D → W → Prop
  | ret a s, Q, μ, w => Q a s μ w
  | call c s k, Q, μ, w => ∀ w₁ r w', L.Rely p w w₁ → L.answer p w₁ ⟨c, r, w'⟩ →
      (L.Takes p w₁ w' → guard s (L.res w₁)) →
      ∃ μ', L.Next p changes w₁ w' μ μ' ∧ (k r s).Meets Q μ' w'

variable {L guard changes p}

@[simp] theorem meets_ret {a : α} {s : σ} {Q : α → σ → Phase D → W → Prop} {μ : Phase D} {w : W} :
    (ret a s : Prog S σ α).Meets L guard changes p Q μ w ↔ Q a s μ w := Iff.rfl

/-- The sequencing rule. -/
theorem Meets.bind {m : Prog S σ α} {f : α → σ → Prog S σ β} {Q' : α → σ → Phase D → W → Prop}
    {Q : β → σ → Phase D → W → Prop} {μ : Phase D} {w : W}
    (hm : m.Meets L guard changes p Q' μ w)
    (hf : ∀ a s μ w, Q' a s μ w → (f a s).Meets L guard changes p Q μ w) :
    (m.bind f).Meets L guard changes p Q μ w := by
  induction m generalizing μ w with
  | ret a s => exact hf a s μ w hm
  | call c s k ih =>
    intro w₁ r w' hR ha hg
    obtain ⟨μ', hn, hk⟩ := hm w₁ r w' hR ha hg
    exact ⟨μ', hn, ih r s hk⟩

/-- The others do not disturb it. -/
theorem Meets.of_rely {m : Prog S σ α} {Q : α → σ → Phase D → W → Prop} {μ : Phase D} {w w' : W}
    (hQ : ∀ a s, Q a s μ w → Q a s μ w') (h : m.Meets L guard changes p Q μ w)
    (hR : L.Rely p w w') : m.Meets L guard changes p Q μ w' := by
  cases m with
  | ret a s => exact hQ a s h
  | call c s k => exact fun w₁ r w₂ hR' ha hg => h w₁ r w₂ (hR.trans hR') ha hg

end Prog

/-- How a task may end. -/
def Contract.Ends (C : Contract ι σ α D) (i : ι) (a : α) (s : σ) : Phase D → Prop
  | .outside => C.ready s ∧ C.untouched i a
  | .inside _ => False
  | .done before after => C.ready s ∧ C.effect i a before after

/-- The program of process `p` keeps to the contract of the task `i`. -/
def Prog.Keeps (L : LockedResource S W D) (C : Contract ι σ α D) (p : ℕ) (i : ι)
    (m : Prog S σ α) (μ : Phase D) (w : W) : Prop :=
  m.Meets L (C.guard i) (C.changes i) p (fun a s μ _ => C.Ends i a s μ) μ w

/-! ## Systems -/

/-- A process: at rest with its memory, or running a task. Every run of a task
has a number of its own. -/
inductive Process (S : Signature) (σ ι α : Type) : Type where
  /-- between tasks -/
  | idle (s : σ)
  /-- what is left of a task -/
  | running (id : ℕ) (task : ι) (prog : Prog S σ α)

/-- The state of a system, and what it has done so far. -/
structure Config (S : Signature) (σ ι α W : Type) where
  /-- the world -/
  world : W
  /-- the processes -/
  procs : ℕ → Process S σ ι α
  /-- the runs that took the lock, in that order -/
  order : List ℕ
  /-- the runs that ended, with their results -/
  results : ℕ → Option (ι × α)
  /-- the number of the next run -/
  next : ℕ

variable (L : LockedResource S W D) (C : Contract ι σ α D) (run : ι → Action S σ α)

/-- One step of a system. A run takes the lock only when its guard holds. -/
inductive Step : Config S σ ι α W → Config S σ ι α W → Prop where
  /-- a process starts a task -/
  | start {c : Config S σ ι α W} (p : ℕ) (i : ι) (s : σ) : c.procs p = .idle s →
      Step c { c with
        procs := update c.procs p (.running c.next i (run i s))
        next := c.next + 1 }
  /-- a process makes a call -/
  | call {c : Config S σ ι α W} (p id : ℕ) (i : ι) (cmd : S.Cmd) (s : σ)
      (k : S.Resp cmd → σ → Prog S σ α) (r : S.Resp cmd) (w' : W) :
      c.procs p = .running id i (.call cmd s k) → L.answer p c.world ⟨cmd, r, w'⟩ →
      (L.Takes p c.world w' → C.guard i s (L.res c.world)) →
      Step c { c with
        world := w'
        procs := update c.procs p (.running id i (k r s))
        order := if L.holder c.world ≠ some p ∧ L.holder w' = some p then c.order ++ [id]
          else c.order }
  /-- a task ends -/
  | ret {c : Config S σ ι α W} (p id : ℕ) (i : ι) (a : α) (s : σ) :
      c.procs p = .running id i (.ret a s) →
      Step c { c with
        procs := update c.procs p (.idle s)
        results := update c.results id (some (i, a)) }
  /-- something happens by itself -/
  | env {c : Config S σ ι α W} (w' : W) : L.env c.world w' → Step c { c with world := w' }

/-- Nothing has happened yet. -/
structure Config.Initial (c : Config S σ ι α W) : Prop where
  /-- every process is at rest and ready -/
  idle : ∀ p, ∃ s, c.procs p = .idle s ∧ C.ready s
  /-- the lock is free -/
  free : L.holder c.world = none
  /-- nobody has taken it -/
  order : c.order = []
  /-- nothing has ended -/
  results : ∀ id, c.results id = none

/-- Every process is at rest. -/
def Config.Quiescent (c : Config S σ ι α W) : Prop := ∀ p, ∃ s, c.procs p = .idle s

/-- A section that has ended. -/
structure Section (D : Type) : Type where
  /-- the run -/
  id : ℕ
  /-- the resource when it took the lock -/
  before : D
  /-- and when it gave it back -/
  after : D

/-- Sections that lead from one state of the resource to another, each starting
where the one before it ended. -/
def Chain : D → List (Section D) → D → Prop
  | d, [], d' => d = d'
  | d, x :: xs, d' => x.before = d ∧ Chain x.after xs d'

theorem Chain.snoc {d d' : D} {xs : List (Section D)} (h : Chain d xs d') {x : Section D}
    (hx : x.before = d') : Chain d (xs ++ [x]) x.after := by
  induction xs generalizing d with
  | nil =>
    obtain rfl : d = d' := h
    exact ⟨hx, rfl⟩
  | cons y ys ih => exact ⟨h.1, ih h.2⟩

/-! ## The invariant -/

/-- What holds between steps, from the resource `d` at the start to `d'` at the
end of the last section: `μ` is the phase of every process, `xs` the sections
that have ended. -/
structure Invariant (d : D) (c : Config S σ ι α W) (μ : ℕ → Phase D) (xs : List (Section D))
    (d' : D) : Prop where
  /-- a process at rest is ready and does not hold the lock -/
  idle : ∀ p s, c.procs p = .idle s → C.ready s ∧ L.holder c.world ≠ some p
  /-- a running one keeps to its contract -/
  running : ∀ p id i m, c.procs p = .running id i m → m.Keeps L C p i (μ p) c.world
  /-- and holds the lock exactly inside its section -/
  held : ∀ p id i m, c.procs p = .running id i m →
    (L.holder c.world = some p ↔ ∃ before, μ p = .inside before)
  /-- its number is taken and has no result yet -/
  number : ∀ p id i m, c.procs p = .running id i m → id < c.next ∧ c.results id = none
  /-- and is nobody else's -/
  distinct : ∀ p q id i j m m', c.procs p = .running id i m → c.procs q = .running id j m' → p = q
  /-- the sections form a chain -/
  chain : Chain d xs d'
  /-- a free lock leaves the resource where the last section left it -/
  free : L.holder c.world = none → L.res c.world = d' ∧ c.order = xs.map Section.id
  /-- a section begins there -/
  busy : ∀ p id i m before, c.procs p = .running id i m → μ p = .inside before →
    before = d' ∧ c.order = xs.map Section.id ++ [id]
  /-- a section that has ended is that of a run that returned, or will return -/
  ended : ∀ x ∈ xs, (∃ i a, c.results x.id = some (i, a) ∧ C.effect i a x.before x.after) ∨
    ∃ p i m, c.procs p = .running x.id i m ∧ μ p = .done x.before x.after
  /-- a run is in the order once it has been inside -/
  outside : ∀ p id i m, c.procs p = .running id i m → (μ p = .outside ↔ id ∉ c.order)
  /-- a run that ended is in the order, or never took the lock -/
  result : ∀ id i a, c.results id = some (i, a) → id < c.next ∧ (id ∈ c.order ∨ C.untouched i a)
  /-- the numbers in the order are taken -/
  bound : ∀ id ∈ c.order, id < c.next
  /-- a run takes the lock once -/
  nodup : c.order.Nodup

variable {L C run}

theorem Invariant.initial {c : Config S σ ι α W} (h : c.Initial L C) :
    Invariant L C (L.res c.world) c (fun _ => .outside) [] (L.res c.world) := by
  have resting : ∀ p id i m, c.procs p ≠ .running id i m := by
    intro p id i m hp
    obtain ⟨s, hs, -⟩ := h.idle p
    rw [hs] at hp
    cases hp
  refine ⟨fun p s hp => ⟨?_, by simp [h.free]⟩, fun p id i m hp => absurd hp (resting p id i m),
    fun p id i m hp => absurd hp (resting p id i m),
    fun p id i m hp => absurd hp (resting p id i m),
    fun p q id i j m m' hp => absurd hp (resting p id i m), rfl, fun _ => ⟨rfl, h.order⟩,
    fun p id i m _ hp => absurd hp (resting p id i m), by simp,
    fun p id i m hp => absurd hp (resting p id i m), fun id i a hr => ?_, by simp [h.order],
    by simp [h.order]⟩
  · obtain ⟨s', hs, hr⟩ := h.idle p
    rw [hs] at hp
    cases hp
    exact hr
  · rw [h.results id] at hr
    cases hr

section Steps

variable {d d' : D} {c : Config S σ ι α W} {μ : ℕ → Phase D} {xs : List (Section D)}

/-- A step of the others is what each process relies on. -/
theorem Invariant.rely (hi : Invariant L C d c μ xs d') {p id : ℕ} {i : ι} {m : Prog S σ α}
    (hp : c.procs p = .running id i m) {e : Event S W} (ha : L.answer p c.world e) {μ' : Phase D}
    (hn : L.Next p (C.changes i) c.world e.world (μ p) μ') {q : ℕ} (hq : q ≠ p) :
    L.Rely q c.world e.world := by
  constructor
  · rcases L.holder_answer ha with h | ⟨h, h'⟩ | ⟨h, h'⟩
    · rw [h]
    · simp [h, h', hq.symm]
    · simp [h, h', hq.symm]
  · intro hh
    have not_inside : ∀ before, μ p ≠ .inside before := by
      intro before hb
      have := (hi.held p id i m hp).mpr ⟨before, hb⟩
      rw [hh] at this
      exact hq (Option.some.inj this)
    generalize hμ : μ p = ν at hn
    cases hn with
    | stay _ hr | take _ hr | rest _ _ _ hr | give _ _ hr => exact hr
    | work before => exact absurd hμ (not_inside before)

theorem Prog.Keeps.of_rely {p : ℕ} {i : ι} {m : Prog S σ α} {ν : Phase D} {w w' : W}
    (h : m.Keeps L C p i ν w) (hR : L.Rely p w w') : m.Keeps L C p i ν w' :=
  Prog.Meets.of_rely (fun _ _ hQ => hQ) h hR

/-- A new run starts outside. -/
theorem Invariant.start (hi : Invariant L C d c μ xs d')
    (hrun : ∀ i s p w, C.ready s → L.holder w ≠ some p → (run i s).Keeps L C p i .outside w)
    {p : ℕ} {i : ι} {s : σ} (hp : c.procs p = .idle s) :
    Invariant L C d { c with
      procs := update c.procs p (.running c.next i (run i s))
      next := c.next + 1 } (update μ p .outside) xs d' := by
  obtain ⟨hready, hfree⟩ := hi.idle p s hp
  -- every run but the new one was there before
  have old : ∀ q id j m,
      update c.procs p (.running c.next i (run i s)) q = .running id j m →
      (q = p ∧ id = c.next ∧ j = i ∧ m ≍ run i s) ∨ (q ≠ p ∧ c.procs q = .running id j m) := by
    intro q id j m hq
    rcases eq_or_ne q p with rfl | hne
    · rw [update_self] at hq
      cases hq
      exact .inl ⟨rfl, rfl, rfl, HEq.rfl⟩
    · rw [update_of_ne hne] at hq
      exact .inr ⟨hne, hq⟩
  have unused : c.results c.next = none := by
    cases hr : c.results c.next with
    | none => rfl
    | some x => exact absurd (hi.result c.next x.1 x.2 hr).1 (Nat.lt_irrefl _)
  constructor
  case idle =>
    intro q s' hq
    rcases eq_or_ne q p with rfl | hne
    · simp at hq
    · simp only [update_of_ne hne] at hq
      exact hi.idle q s' hq
  case running =>
    intro q id j m hq
    rcases old q id j m hq with ⟨rfl, rfl, rfl, h⟩ | ⟨hne, hq⟩
    · cases h
      rw [update_self]
      exact hrun j s q _ hready hfree
    · rw [update_of_ne hne]
      exact hi.running q id j m hq
  case held =>
    intro q id j m hq
    rcases old q id j m hq with ⟨rfl, -⟩ | ⟨hne, hq⟩
    · simp [hfree]
    · rw [update_of_ne hne]
      exact hi.held q id j m hq
  case number =>
    intro q id j m hq
    rcases old q id j m hq with ⟨rfl, rfl, -⟩ | ⟨hne, hq⟩
    · exact ⟨Nat.lt_succ_self _, unused⟩
    · obtain ⟨hlt, hnone⟩ := hi.number q id j m hq
      exact ⟨Nat.lt_succ_of_lt hlt, hnone⟩
  case distinct =>
    intro q q' id j j' m m' hq hq'
    rcases old q id j m hq with ⟨hqp, hid, -⟩ | ⟨-, hq₀⟩
    · rcases old q' id j' m' hq' with ⟨hqp', -⟩ | ⟨-, hq₀'⟩
      · exact hqp.trans hqp'.symm
      · exact absurd (hid ▸ (hi.number q' id j' m' hq₀').1) (Nat.lt_irrefl _)
    · rcases old q' id j' m' hq' with ⟨-, hid, -⟩ | ⟨-, hq₀'⟩
      · exact absurd (hid ▸ (hi.number q id j m hq₀).1) (Nat.lt_irrefl _)
      · exact hi.distinct q q' id j j' m m' hq₀ hq₀'
  case chain => exact hi.chain
  case free => exact hi.free
  case busy =>
    intro q id j m before hq hb
    rcases old q id j m hq with ⟨rfl, -⟩ | ⟨hne, hq⟩
    · rw [update_self] at hb
      cases hb
    · rw [update_of_ne hne] at hb
      exact hi.busy q id j m before hq hb
  case ended =>
    intro x hx
    rcases hi.ended x hx with h | ⟨q, j, m, hq, hd⟩
    · exact .inl h
    · have hne : q ≠ p := by
        rintro rfl
        rw [hp] at hq
        cases hq
      exact .inr ⟨q, j, m, by simp only [update_of_ne hne]; exact hq, by rwa [update_of_ne hne]⟩
  case outside =>
    intro q id j m hq
    rcases old q id j m hq with ⟨rfl, rfl, -⟩ | ⟨hne, hq⟩
    · simp only [update_self, true_iff]
      exact fun h => Nat.lt_irrefl _ (hi.bound _ h)
    · rw [update_of_ne hne]
      exact hi.outside q id j m hq
  case result =>
    intro id j a hr
    obtain ⟨hlt, h⟩ := hi.result id j a hr
    exact ⟨Nat.lt_succ_of_lt hlt, h⟩
  case bound => exact fun id hid => Nat.lt_succ_of_lt (hi.bound id hid)
  case nodup => exact hi.nodup

/-- A call of `p` that leads to the phase `ν`, the order `order'` and the
sections `xs'` keeps the invariant if these go together. -/
theorem Invariant.call_of (hi : Invariant L C d c μ xs d') {p id : ℕ} {i : ι} {m m' : Prog S σ α}
    (hp : c.procs p = .running id i m) {w' : W} {ν : Phase D} {order' : List ℕ}
    {xs' : List (Section D)} {d'' : D}
    (hrely : ∀ q, q ≠ p → L.Rely q c.world w')
    (hkeeps : m'.Keeps L C p i ν w')
    (hheld : L.holder w' = some p ↔ ∃ before, ν = .inside before)
    (hchain : Chain d xs' d'')
    (hfree : L.holder w' = none → L.res w' = d'' ∧ order' = xs'.map Section.id)
    (hbusy : ∀ before, ν = .inside before → before = d'' ∧ order' = xs'.map Section.id ++ [id])
    (hothers : ∀ q, q ≠ p → L.holder c.world = some q → xs' = xs ∧ d'' = d' ∧ order' = c.order)
    (hended : ∀ x ∈ xs', x ∈ xs ∨ x.id = id ∧ ν = .done x.before x.after)
    (hdone : ∀ before after, μ p = .done before after → ν = .done before after)
    (hout : ν = .outside ↔ id ∉ order')
    (horder : ∀ id', id' ∈ order' ↔ id' ∈ c.order ∨ id' = id ∧ id ∈ order')
    (hnodup : order'.Nodup) :
    Invariant L C d { c with
      world := w'
      procs := update c.procs p (.running id i m')
      order := order' } (update μ p ν) xs' d'' := by
  have old : ∀ q id' j m'', update c.procs p (.running id i m') q = .running id' j m'' →
      (q = p ∧ id' = id ∧ j = i ∧ m'' = m') ∨ (q ≠ p ∧ c.procs q = .running id' j m'') := by
    intro q id' j m'' hq
    rcases eq_or_ne q p with rfl | hne
    · rw [update_self] at hq
      cases hq
      exact .inl ⟨rfl, rfl, rfl, rfl⟩
    · rw [update_of_ne hne] at hq
      exact .inr ⟨hne, hq⟩
  constructor
  case idle =>
    intro q s' hq
    rcases eq_or_ne q p with rfl | hne
    · simp at hq
    · simp only [update_of_ne hne] at hq
      obtain ⟨hr, hh⟩ := hi.idle q s' hq
      exact ⟨hr, fun h => hh ((hrely q hne).1.mp h)⟩
  case running =>
    intro q id' j m'' hq
    rcases old q id' j m'' hq with ⟨rfl, rfl, rfl, rfl⟩ | ⟨hne, hq⟩
    · rw [update_self]
      exact hkeeps
    · rw [update_of_ne hne]
      exact (hi.running q id' j m'' hq).of_rely (hrely q hne)
  case held =>
    intro q id' j m'' hq
    rcases old q id' j m'' hq with ⟨rfl, -⟩ | ⟨hne, hq⟩
    · rw [update_self]
      exact hheld
    · rw [update_of_ne hne]
      exact (hrely q hne).1.trans (hi.held q id' j m'' hq)
  case number =>
    intro q id' j m'' hq
    rcases old q id' j m'' hq with ⟨rfl, rfl, -⟩ | ⟨hne, hq⟩
    · exact hi.number q id' i m hp
    · exact hi.number q id' j m'' hq
  case distinct =>
    intro q q' id' j j' m₁ m₂ hq hq'
    rcases old q id' j m₁ hq with ⟨hqp, hid, -⟩ | ⟨-, hq₀⟩
    · rcases old q' id' j' m₂ hq' with ⟨hqp', -⟩ | ⟨-, hq₀'⟩
      · exact hqp.trans hqp'.symm
      · exact hqp.trans (hi.distinct p q' id' i j' m m₂ (hid ▸ hp) hq₀')
    · rcases old q' id' j' m₂ hq' with ⟨hqp', hid, -⟩ | ⟨-, hq₀'⟩
      · exact (hi.distinct q p id' j i m₁ m hq₀ (hid ▸ hp)).trans hqp'.symm
      · exact hi.distinct q q' id' j j' m₁ m₂ hq₀ hq₀'
  case chain => exact hchain
  case free => exact hfree
  case busy =>
    intro q id' j m'' before hq hb
    rcases old q id' j m'' hq with ⟨rfl, rfl, -⟩ | ⟨hne, hq₀⟩
    · rw [update_self] at hb
      exact hbusy before hb
    · rw [update_of_ne hne] at hb
      obtain ⟨hxs, hd, ho⟩ := hothers q hne ((hi.held q id' j m'' hq₀).mpr ⟨before, hb⟩)
      rw [hxs, hd, ho]
      exact hi.busy q id' j m'' before hq₀ hb
  case ended =>
    intro x hx
    rcases hended x hx with hx | ⟨hxid, hν⟩
    · rcases hi.ended x hx with h | ⟨q, j, m'', hq, hd⟩
      · exact .inl h
      · rcases eq_or_ne q p with rfl | hne
        · rw [hp] at hq
          cases hq
          exact .inr ⟨q, i, m', by simp, by rw [update_self]; exact hdone _ _ hd⟩
        · exact .inr ⟨q, j, m'', by simpa only [update_of_ne hne] using hq,
            by rwa [update_of_ne hne]⟩
    · subst hxid
      exact .inr ⟨p, i, m', by simp, by rw [update_self]; exact hν⟩
  case outside =>
    intro q id' j m'' hq
    rcases old q id' j m'' hq with ⟨rfl, rfl, -⟩ | ⟨hne, hq⟩
    · rw [update_self]
      exact hout
    · rw [update_of_ne hne, hi.outside q id' j m'' hq, not_iff_not, horder]
      have other : id' ≠ id := fun h => hne (hi.distinct q p id' j i m'' m hq (h ▸ hp))
      exact ⟨.inl, fun h => h.resolve_right fun h => other h.1⟩
  case result =>
    intro id' j a hr
    obtain ⟨hlt, h⟩ := hi.result id' j a hr
    exact ⟨hlt, h.imp_left fun h => (horder id').mpr (.inl h)⟩
  case bound =>
    intro id' hid'
    rcases (horder id').mp hid' with h | ⟨rfl, -⟩
    · exact hi.bound id' h
    · exact (hi.number p id' i m hp).1
  case nodup => exact hnodup

/-- One call. -/
theorem Invariant.call (hi : Invariant L C d c μ xs d') {p id : ℕ} {i : ι} {cmd : S.Cmd} {s : σ}
    {k : S.Resp cmd → σ → Prog S σ α} {r : S.Resp cmd} {w' : W}
    (hp : c.procs p = .running id i (.call cmd s k)) (ha : L.answer p c.world ⟨cmd, r, w'⟩)
    (hg : L.Takes p c.world w' → C.guard i s (L.res c.world)) :
    ∃ μ' xs' d'', Invariant L C d { c with
      world := w'
      procs := update c.procs p (.running id i (k r s))
      order := if L.holder c.world ≠ some p ∧ L.holder w' = some p then c.order ++ [id]
        else c.order } μ' xs' d'' := by
  obtain ⟨ν, hn, hk⟩ := hi.running p id i _ hp _ r w' (LockedResource.Rely.refl L p c.world) ha hg
  have hrely : ∀ q, q ≠ p → L.Rely q c.world w' := fun q hq => hi.rely hp ha hn hq
  have hheld := hi.held p id i _ hp
  have hout := hi.outside p id i _ hp
  -- the lock is somebody else's, or free, as long as `p` neither takes nor gives it
  have same : L.holder c.world ≠ some p → L.holder w' ≠ some p →
      L.holder w' = L.holder c.world := by
    intro h h'
    rcases L.holder_answer ha with he | ⟨-, he⟩ | ⟨he, -⟩
    · exact he
    · exact absurd he h'
    · exact absurd he h
  generalize hμ : μ p = ν₀ at hn hheld hout
  cases hn with
  | stay hw hr =>
    have hc : L.holder c.world ≠ some p := by simp [hheld]
    refine ⟨_, xs, d', hi.call_of hp hrely hk (by simp [hw]) hi.chain ?_ (by simp)
      (fun _ _ _ => ⟨rfl, rfl, by simp [hw]⟩) (fun x hx => .inl hx) (by simp [hμ]) ?_ ?_
      (by simpa [hw] using hi.nodup)⟩
    · intro hnone
      rw [hr]
      simpa [hw] using hi.free ((same hc hw).symm.trans hnone)
    · simpa [hw] using hout
    · intro id'
      have hin : id ∉ c.order := hout.mp rfl
      simp [hw, hin]
  | take hw hr =>
    have hnone : L.holder c.world = none := by
      rcases L.holder_answer ha with he | ⟨he, -⟩ | ⟨he, -⟩
      · exact absurd (he.symm.trans hw.2) hw.1
      · exact he
      · exact absurd he hw.1
    obtain ⟨hd, ho⟩ := hi.free hnone
    have hid : id ∉ c.order := hout.mp rfl
    refine ⟨_, xs, d', hi.call_of hp hrely hk (by simp [hw.2]) hi.chain (by simp [hw.2]) ?_
      (fun q _ hq => by simp [hnone] at hq) (fun x hx => .inl hx) (by simp [hμ])
      (by simp [hw.2, hnone]) (by simp [hw.2, hnone]) ?_⟩
    swap
    · rw [if_pos ⟨hw.1, hw.2⟩]
      simpa [List.nodup_append, hi.nodup] using fun id' hin (h : id' = id) => hid (h ▸ hin)
    intro before hb
    cases hb
    exact ⟨hr.trans hd, by simp [hw.2, hnone, ho]⟩
  | work before hw hc =>
    have hc : L.holder c.world = some p := hheld.mpr ⟨before, rfl⟩
    obtain ⟨hb, ho⟩ := hi.busy p id i _ before hp hμ
    refine ⟨_, xs, d', hi.call_of hp hrely hk (by simp [hw]) hi.chain (by simp [hw]) ?_
      (fun q hq hcq => absurd (Option.some.inj (hcq.symm.trans hc)) hq) (fun x hx => .inl hx)
      (by simp [hμ]) (by simp [hc, ho]) (by simp [hc, ho]) (by simpa [hc] using hi.nodup)⟩
    intro before' hb'
    cases hb'
    exact ⟨hb, by simp [hc, ho]⟩
  | give before hw hr =>
    have hc : L.holder c.world = some p := hheld.mpr ⟨before, rfl⟩
    obtain ⟨hb, ho⟩ := hi.busy p id i _ before hp hμ
    refine ⟨_, xs ++ [⟨id, before, L.res w'⟩], L.res w', hi.call_of hp hrely hk (by simp [hw])
      (hi.chain.snoc hb) (fun _ => ⟨rfl, by simp [hc, ho]⟩) (by simp)
      (fun q hq hcq => absurd (Option.some.inj (hcq.symm.trans hc)) hq) ?_
      (by simp [hμ]) (by simp [hc, ho]) (by simp [hc, ho]) (by simpa [hc] using hi.nodup)⟩
    intro x hx
    rcases List.mem_append.mp hx with hx | hx
    · exact .inl hx
    · rw [List.mem_singleton.mp hx]
      exact .inr ⟨rfl, rfl⟩
  | rest before after hw hr =>
    have hc : L.holder c.world ≠ some p := by simp [hheld]
    have hid : id ∈ c.order := by simpa using hout
    refine ⟨_, xs, d', hi.call_of hp hrely hk (by simp [hw]) hi.chain ?_ (by simp)
      (fun _ _ _ => ⟨rfl, rfl, by simp [hw]⟩) (fun x hx => .inl hx) (by simp [hμ])
      (by simp [hw, hid]) (by simp [hw, hid]) (by simpa [hw] using hi.nodup)⟩
    intro hnone
    rw [hr]
    simpa [hw] using hi.free ((same hc hw).symm.trans hnone)

/-- The end of a run. -/
theorem Invariant.ret (hi : Invariant L C d c μ xs d') {p id : ℕ} {i : ι} {a : α} {s : σ}
    (hp : c.procs p = .running id i (.ret a s)) :
    Invariant L C d { c with
      procs := update c.procs p (.idle s)
      results := update c.results id (some (i, a)) } μ xs d' := by
  have hends : C.Ends i a s (μ p) := hi.running p id i _ hp
  have hnumber := hi.number p id i _ hp
  have hfree : L.holder c.world ≠ some p := by
    rw [Ne, hi.held p id i _ hp]
    rintro ⟨before, hb⟩
    rw [hb] at hends
    exact hends
  have old : ∀ q id' j m, update c.procs p (.idle s) q = .running id' j m →
      id' ≠ id ∧ c.procs q = .running id' j m := by
    intro q id' j m hq
    rcases eq_or_ne q p with rfl | hne
    · rw [update_self] at hq
      cases hq
    · rw [update_of_ne hne] at hq
      exact ⟨fun h => hne (hi.distinct q p id' j i m _ hq (h ▸ hp)), hq⟩
  constructor
  case idle =>
    intro q s' hq
    rcases eq_or_ne q p with rfl | hne
    · simp only [update_self] at hq
      cases hq
      refine ⟨?_, hfree⟩
      cases hμ : μ q with
      | outside => exact (hμ ▸ hends).1
      | inside before => exact (hμ ▸ hends).elim
      | done before after => exact (hμ ▸ hends).1
    · simp only [update_of_ne hne] at hq
      exact hi.idle q s' hq
  case running => exact fun q id' j m hq => hi.running q id' j m (old q id' j m hq).2
  case held => exact fun q id' j m hq => hi.held q id' j m (old q id' j m hq).2
  case number =>
    intro q id' j m hq
    obtain ⟨hne, hq⟩ := old q id' j m hq
    simp only [update_of_ne hne]
    exact hi.number q id' j m hq
  case distinct =>
    exact fun q q' id' j j' m m' hq hq' =>
      hi.distinct q q' id' j j' m m' (old q id' j m hq).2 (old q' id' j' m' hq').2
  case chain => exact hi.chain
  case free => exact hi.free
  case busy => exact fun q id' j m before hq => hi.busy q id' j m before (old q id' j m hq).2
  case ended =>
    intro x hx
    rcases hi.ended x hx with ⟨j, b, hr, hs⟩ | ⟨q, j, m, hq, hd⟩
    · -- a run has one result
      have hne : x.id ≠ id := by
        intro h
        rw [h, hnumber.2] at hr
        cases hr
      exact .inl ⟨j, b, by simpa only [update_of_ne hne] using hr, hs⟩
    · rcases eq_or_ne q p with rfl | hne
      · rw [hp] at hq
        cases hq
        rw [hd] at hends
        exact .inl ⟨i, a, by simp, hends.2⟩
      · exact .inr ⟨q, j, m, by simpa only [update_of_ne hne] using hq, hd⟩
  case outside => exact fun q id' j m hq => hi.outside q id' j m (old q id' j m hq).2
  case result =>
    intro id' j b hr
    rcases eq_or_ne id' id with rfl | hne
    · simp only [update_self, Option.some.injEq, Prod.mk.injEq] at hr
      obtain ⟨rfl, rfl⟩ := hr
      refine ⟨hnumber.1, ?_⟩
      by_cases hin : id' ∈ c.order
      · exact .inl hin
      · have hμ := (hi.outside p id' i _ hp).mpr hin
        rw [hμ] at hends
        exact .inr hends.2
    · simp only [update_of_ne hne] at hr
      exact hi.result id' j b hr
  case bound => exact hi.bound
  case nodup => exact hi.nodup

/-- Something happens by itself. -/
theorem Invariant.env (hi : Invariant L C d c μ xs d') {w' : W} (he : L.env c.world w') :
    Invariant L C d { c with world := w' } μ xs d' := by
  have hh := L.holder_env he
  have hr := L.res_env he
  have hrely : ∀ q, L.Rely q c.world w' := fun q => ⟨by rw [hh], fun _ => hr⟩
  exact ⟨fun p s hp => ⟨(hi.idle p s hp).1, by simpa only [hh] using (hi.idle p s hp).2⟩,
    fun p id i m hp => (hi.running p id i m hp).of_rely (hrely p),
    fun p id i m hp => by simpa only [hh] using hi.held p id i m hp,
    hi.number, hi.distinct, hi.chain, by simpa only [hh, hr] using hi.free, hi.busy, hi.ended,
    hi.outside, hi.result, hi.bound, hi.nodup⟩

/-- A step leaves the resource as it is, or it is a call of the process that
holds the lock, and its task may change the resource so. -/
theorem Invariant.changes (hi : Invariant L C d c μ xs d') {c' : Config S σ ι α W}
    (h : Step L C run c c') : L.res c'.world = L.res c.world ∨
      ∃ p id i m, c.procs p = .running id i m ∧ L.holder c'.world = some p ∧
        (∀ q, q ≠ p → c'.procs q = c.procs q) ∧
        C.changes i (L.res c.world) (L.res c'.world) := by
  cases h with
  | start | ret => exact .inl rfl
  | env w' he => exact .inl (L.res_env he)
  | call p id i cmd s k r w' hp ha hg =>
    obtain ⟨ν, hn, -⟩ :=
      hi.running p id i _ hp _ r w' (LockedResource.Rely.refl L p c.world) ha hg
    generalize μ p = ν₀ at hn
    cases hn with
    | stay _ hr | take _ hr | give _ _ hr | rest _ _ _ hr => exact .inl hr
    | work before hh hc =>
      exact hc.imp_right fun hc => ⟨p, id, i, _, hp, hh, fun q hq => update_of_ne hq .., hc⟩

end Steps

/-- The invariant of every run of a system whose tasks keep to the contract. -/
theorem exists_invariant {c₀ c : Config S σ ι α W}
    (hrun : ∀ i s p w, C.ready s → L.holder w ≠ some p → (run i s).Keeps L C p i .outside w)
    (h₀ : c₀.Initial L C) (h : ReflTransGen (Step L C run) c₀ c) :
    ∃ μ xs d', Invariant L C (L.res c₀.world) c μ xs d' := by
  induction h with
  | refl => exact ⟨_, _, _, .initial h₀⟩
  | tail _ hstep ih =>
    obtain ⟨μ, xs, d', hi⟩ := ih
    cases hstep with
    | start p i s hp => exact ⟨_, _, _, hi.start hrun hp⟩
    | call p id i cmd s k r w' hp ha hg => exact hi.call hp ha hg
    | ret p id i a s hp => exact ⟨_, _, _, hi.ret hp⟩
    | env w' he => exact ⟨_, _, _, hi.env he⟩

/-- Serializability. When every process is at rest again, the resource has gone
through the sections of the runs that took the lock, one after another and in
that order, and every other run was without effect. -/
theorem serializable {c₀ c : Config S σ ι α W}
    (hrun : ∀ i s p w, C.ready s → L.holder w ≠ some p → (run i s).Keeps L C p i .outside w)
    (h₀ : c₀.Initial L C) (h : ReflTransGen (Step L C run) c₀ c) (hq : c.Quiescent) :
    c.order.Nodup ∧ ∃ xs : List (Section D), xs.map Section.id = c.order ∧
      Chain (L.res c₀.world) xs (L.res c.world) ∧
      (∀ x ∈ xs, ∃ i a, c.results x.id = some (i, a) ∧ C.effect i a x.before x.after) ∧
      ∀ id i a, c.results id = some (i, a) → id ∉ c.order → C.untouched i a := by
  obtain ⟨μ, xs, d', hi⟩ := exists_invariant hrun h₀ h
  have hfree : L.holder c.world = none := by
    cases hh : L.holder c.world with
    | none => rfl
    | some p =>
      obtain ⟨s, hs⟩ := hq p
      exact absurd hh (hi.idle p s hs).2
  obtain ⟨hd, ho⟩ := hi.free hfree
  refine ⟨hi.nodup, xs, ho.symm, hd ▸ hi.chain, ?_, ?_⟩
  · intro x hx
    rcases hi.ended x hx with h | ⟨p, i, m, hp, -⟩
    · exact h
    · obtain ⟨s, hs⟩ := hq p
      rw [hs] at hp
      cases hp
  · exact fun id i a hr hin => (hi.result id i a hr).2.resolve_left hin

/-! ## Scheduled runs -/

/-- A move of a scheduler. -/
inductive Move (ι : Type) : Type where
  /-- the process starts a task -/
  | start (p : ℕ) (task : ι)
  /-- it makes its next call, which succeeds or fails, or returns -/
  | go (p : ℕ) (ok : Bool)

/-- The process that moves. -/
def Move.process : Move ι → ℕ
  | start p _ | go p _ => p

variable (L run) in
/-- The configuration after a move, if that process can make it. A run takes the lock only when
it passes the check. -/
def Config.move (respond : ℕ → Bool → W → (c : S.Cmd) → S.Resp c × W) (check : ι → σ → D → Bool)
    (c : Config S σ ι α W) : Move ι → Option (Config S σ ι α W)
  | .start p i =>
    match c.procs p with
    | .idle s => some { c with
        procs := update c.procs p (.running c.next i (run i s))
        next := c.next + 1 }
    | .running .. => none
  | .go p ok =>
    match c.procs p with
    | .idle _ => none
    | .running id i (.ret a s) => some { c with
        procs := update c.procs p (.idle s)
        results := update c.results id (some (i, a)) }
    | .running id i (.call cmd s k) =>
      let (r, w') := respond p ok c.world cmd
      if (L.holder c.world ≠ some p ∧ L.holder w' = some p) ∧ check i s (L.res c.world) = false then
        none
      else some { c with
        world := w'
        procs := update c.procs p (.running id i (k r s))
        order := if L.holder c.world ≠ some p ∧ L.holder w' = some p then c.order ++ [id]
          else c.order }

variable (L run) in
/-- The configuration after a schedule. -/
def Config.play (respond : ℕ → Bool → W → (c : S.Cmd) → S.Resp c × W) (check : ι → σ → D → Bool)
    (c : Config S σ ι α W) : List (Move ι) → Option (Config S σ ι α W)
  | [] => some c
  | mv :: mvs => (c.move L run respond check mv).bind fun c => c.play respond check mvs

variable {respond : ℕ → Bool → W → (c : S.Cmd) → S.Resp c × W} {check : ι → σ → D → Bool}

theorem Config.move_step (hR : ∀ p ok w cmd,
      L.answer p w ⟨cmd, (respond p ok w cmd).1, (respond p ok w cmd).2⟩)
    (hcheck : ∀ i s d, check i s d = true → C.guard i s d) {c c' : Config S σ ι α W} {mv : Move ι}
    (h : c.move L run respond check mv = some c') : Step L C run c c' := by
  cases mv with
  | start p i =>
    cases hp : c.procs p with
    | running => simp [move, hp] at h
    | idle s =>
      simp only [move, hp, Option.some.injEq] at h
      subst h
      exact .start p i s hp
  | go p ok =>
    cases hp : c.procs p with
    | idle => simp [move, hp] at h
    | running id i m =>
      cases m with
      | ret a s =>
        simp only [move, hp, Option.some.injEq] at h
        subst h
        exact .ret p id i a s hp
      | call cmd s k =>
        simp only [move, hp, Option.ite_none_left_eq_some, Option.some.injEq,
          not_and (b := _ = false), Bool.not_eq_false] at h
        obtain ⟨htakes, rfl⟩ := h
        exact .call p id i cmd s k _ _ hp (hR p ok c.world cmd)
          fun hlock => hcheck i s _ (htakes hlock)

/-- A schedule is a run of the system. -/
theorem Config.play_steps (hR : ∀ p ok w cmd,
      L.answer p w ⟨cmd, (respond p ok w cmd).1, (respond p ok w cmd).2⟩)
    (hcheck : ∀ i s d, check i s d = true → C.guard i s d) {c c' : Config S σ ι α W}
    {mvs : List (Move ι)} (h : c.play L run respond check mvs = some c') :
    ReflTransGen (Step L C run) c c' := by
  induction mvs generalizing c with
  | nil =>
    obtain rfl : c = c' := Option.some.inj h
    exact .refl
  | cons mv mvs ih =>
    obtain ⟨c₁, hc₁, h⟩ := Option.bind_eq_some_iff.mp h
    exact .head (move_step hR hcheck hc₁) (ih h)

/-- A process that is not scheduled does nothing. -/
theorem Config.play_procs {c c' : Config S σ ι α W} {mvs : List (Move ι)} {p : ℕ}
    (hp : ∀ mv ∈ mvs, mv.process ≠ p) (h : c.play L run respond check mvs = some c') :
    c'.procs p = c.procs p := by
  induction mvs generalizing c with
  | nil =>
    obtain rfl : c = c' := Option.some.inj h
    rfl
  | cons mv mvs ih =>
    obtain ⟨c₁, hc₁, h⟩ := Option.bind_eq_some_iff.mp h
    rw [ih (fun mv hmv => hp mv (List.mem_cons_of_mem _ hmv)) h]
    have hne := hp mv List.mem_cons_self
    cases mv with
    | start q i =>
      simp only [move] at hc₁
      split at hc₁
      · cases hc₁
        exact update_of_ne (Ne.symm hne) ..
      · cases hc₁
    | go q ok =>
      simp only [move] at hc₁
      split at hc₁
      · cases hc₁
      · cases hc₁
        exact update_of_ne (Ne.symm hne) ..
      · obtain ⟨-, hc₁⟩ := Option.ite_none_left_eq_some.mp hc₁
        cases hc₁
        exact update_of_ne (Ne.symm hne) ..

end SystemSettings

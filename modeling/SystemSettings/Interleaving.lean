import Mathlib.Logic.Function.Basic
import Mathlib.Logic.Relation
import SystemSettings.Program

/-!
# Interleaved runs that obey a discipline

A library for programs that run side by side against one world, call by call, and that
may be stopped anywhere.

* `Prog.Obeys` is the local side: a program whose calls and answers lead a control state
  through an automaton. It does not mention the world, so it is proved of one program
  alone.
* `Interleaving.Config`, `Interleaving.Step` are the global side: runs are started, make
  calls, return and are stopped in any order, and a trace records every call.
* `Interleaving.exists_control` connects them: an invariant of world, control states and
  trace that every call allowed by the discipline keeps holds in every state reached.
-/

namespace SystemSettings

open Function Relation

variable {S : Signature} {σ α β W ι Q : Type}

namespace Prog

/-- Every call leads the control state on, whatever the answer, and the program ends in
`post`. -/
def Obeys (next : Q → (c : S.Cmd) → S.Resp c → Q → Prop) (post : α → Q → Prop) :
    Prog S σ α → Q → Prop
  | ret a _, q => post a q
  | call c s k, q => ∀ r, ∃ q', next q c r q' ∧ (k r s).Obeys next post q'

variable {next : Q → (c : S.Cmd) → S.Resp c → Q → Prop} {post : α → Q → Prop}

/-- The sequencing rule. -/
theorem Obeys.bind {m : Prog S σ α} {f : α → σ → Prog S σ β} {post' : β → Q → Prop} {q : Q}
    (h : m.Obeys next post q) (hf : ∀ a s q, post a q → (f a s).Obeys next post' q) :
    (m.bind f).Obeys next post' q := by
  induction m generalizing q with
  | ret a s => exact hf a s q h
  | call c s k ih =>
    intro r
    obtain ⟨q', hnext, hk⟩ := h r
    exact ⟨q', hnext, ih r s hk⟩

theorem Obeys.ite {p : Prop} [Decidable p] {m m' : Action S σ α} {s : σ} {q : Q}
    (h : p → (m s).Obeys next post q) (h' : ¬ p → (m' s).Obeys next post q) :
    ((if p then m else m') s).Obeys next post q := by
  split
  next hp => exact h hp
  next hp => exact h' hp

/-! ### Counting calls -/

/-- What a call adds to a count. -/
def cost (counts : S.Cmd → Bool) (c : S.Cmd) : ℕ := if counts c then 1 else 0

/-- The program makes at most so many calls of a kind. -/
def AtMost (counts : S.Cmd → Bool) : Prog S σ α → ℕ → Prop
  | ret _ _, _ => True
  | call c s k, limit => ∃ rest, cost counts c + rest ≤ limit ∧ ∀ r, (k r s).AtMost counts rest

variable {counts : S.Cmd → Bool}

@[simp] theorem atMost_ret {a : α} {s : σ} {limit : ℕ} :
    (ret a s : Prog S σ α).AtMost counts limit := trivial

/-- The rule for a call. -/
theorem AtMost.call {c : S.Cmd} {s : σ} {k : S.Resp c → σ → Prog S σ α} {price rest : ℕ}
    (hprice : cost counts c ≤ price) (h : ∀ r, (k r s).AtMost counts rest) :
    (Prog.call c s k).AtMost counts (price + rest) :=
  ⟨rest, Nat.add_le_add_right hprice rest, h⟩

theorem AtMost.mono {m : Prog S σ α} {limit more : ℕ} (h : m.AtMost counts limit)
    (hle : limit ≤ more) : m.AtMost counts more := by
  cases m with
  | ret a s => trivial
  | call c s k =>
    obtain ⟨rest, hrest, hk⟩ := h
    exact ⟨rest, Nat.le_trans hrest hle, hk⟩

theorem AtMost.ite {p : Prop} [Decidable p] {m m' : Action S σ α} {s : σ} {limit : ℕ}
    (h : (m s).AtMost counts limit) (h' : (m' s).AtMost counts limit) :
    ((if p then m else m') s).AtMost counts limit := by
  split
  · exact h
  · exact h'

/-- The calls of a sequence add up. -/
theorem AtMost.bind {m : Prog S σ α} {f : α → σ → Prog S σ β} {limit more : ℕ}
    (h : m.AtMost counts limit) (hf : ∀ a s, (f a s).AtMost counts more) :
    (m.bind f).AtMost counts (limit + more) := by
  induction m generalizing limit with
  | ret a s => exact (hf a s).mono (Nat.le_add_left ..)
  | call c s k ih =>
    obtain ⟨rest, hrest, hk⟩ := h
    exact ⟨rest + more, by omega, fun r => ih r s (hk r)⟩

theorem AtMost.map {m : Action S σ α} {s : σ} {limit : ℕ} (h : (m s).AtMost counts limit)
    (f : α → β) : ((f <$> m) s).AtMost counts limit :=
  h.bind fun a s => (atMost_ret : (ret (f a) s : Prog S σ β).AtMost counts 0)

end Prog

namespace Interleaving

/-- One call of a run: which run, of which task, the world before, and the event. -/
structure Record (S : Signature) (ι W : Type) where
  /-- the run -/
  run : ℕ
  /-- its task -/
  task : ι
  /-- the world that the call found -/
  before : W
  /-- the call, its answer and the world it left -/
  event : Event S W

/-- How far a run is. -/
inductive Status (S : Signature) (σ α : Type) : Type where
  /-- what is left of it -/
  | running (prog : Prog S σ α)
  /-- it has returned -/
  | ended (result : α)
  /-- it was stopped on its way -/
  | stopped

/-- The world, every run so far with its task, and the calls made in order. -/
structure Config (S : Signature) (σ ι α W : Type) where
  /-- the world -/
  world : W
  /-- the runs, each under a number of its own -/
  runs : ℕ → Option (ι × Status S σ α)
  /-- the calls so far -/
  trace : List (Record S ι W)

/-- Nothing has been started. -/
def Config.initial (w : W) : Config S σ ι α W := ⟨w, fun _ => none, []⟩

/-- The calls of a run among those of a trace. -/
def own (trace : List (Record S ι W)) (n : ℕ) : List (Event S W) :=
  (trace.filter fun r => r.run == n).map Record.event

theorem own_append_self (trace : List (Record S ι W)) (r : Record S ι W) :
    own (trace ++ [r]) r.run = own trace r.run ++ [r.event] := by
  simp [own]

theorem own_append_of_ne (trace : List (Record S ι W)) {r : Record S ι W} {n : ℕ}
    (h : r.run ≠ n) : own (trace ++ [r]) n = own trace n := by
  simp [own, h]

variable (answer : W → Event S W → Prop) (env : W → W → Prop) (program : ι → Prog S σ α)

/-- One step: any run goes on, or the world moves by itself. -/
inductive Step : Config S σ ι α W → Config S σ ι α W → Prop where
  /-- a run is started under a new number -/
  | start {c : Config S σ ι α W} (n : ℕ) (i : ι) : c.runs n = none →
      Step c { c with runs := update c.runs n (some (i, .running (program i))) }
  /-- a run makes its next call -/
  | call {c : Config S σ ι α W} (n : ℕ) (i : ι) (cmd : S.Cmd) (s : σ)
      (k : S.Resp cmd → σ → Prog S σ α) (r : S.Resp cmd) (w : W) :
      c.runs n = some (i, .running (.call cmd s k)) → answer c.world ⟨cmd, r, w⟩ →
      Step c ⟨w, update c.runs n (some (i, .running (k r s))),
        c.trace ++ [⟨n, i, c.world, ⟨cmd, r, w⟩⟩]⟩
  /-- a run returns -/
  | ret {c : Config S σ ι α W} (n : ℕ) (i : ι) (a : α) (s : σ) :
      c.runs n = some (i, .running (.ret a s)) →
      Step c { c with runs := update c.runs n (some (i, .ended a)) }
  /-- a run is stopped: its process is gone -/
  | stop {c : Config S σ ι α W} (n : ℕ) (i : ι) (m : Prog S σ α) :
      c.runs n = some (i, .running m) →
      Step c { c with runs := update c.runs n (some (i, .stopped)) }
  /-- something happens by itself -/
  | env {c : Config S σ ι α W} (w : W) : env c.world w → Step c { c with world := w }

/-- The configurations that interleaved runs can reach from a world. -/
abbrev Reachable (w : W) : Config S σ ι α W → Prop :=
  ReflTransGen (Step answer env program) (Config.initial w)

/-- What holds of every record of a trace with the records before it. -/
def AtEach (P : List (Record S ι W) → Record S ι W → Prop) (trace : List (Record S ι W)) : Prop :=
  ∀ before r after, trace = before ++ r :: after → P before r

theorem atEach_nil {P : List (Record S ι W) → Record S ι W → Prop} : AtEach P [] :=
  fun before r after h => by simp at h

theorem AtEach.append {P : List (Record S ι W) → Record S ι W → Prop}
    {trace : List (Record S ι W)} (h : AtEach P trace) {r : Record S ι W} (hr : P trace r) :
    AtEach P (trace ++ [r]) := by
  intro before x after hsplit
  rcases List.eq_nil_or_concat after with rfl | ⟨after, last, rfl⟩
  · obtain ⟨rfl, hlast⟩ := List.append_inj' hsplit rfl
    cases hlast
    exact hr
  · rw [List.concat_eq_append, ← List.cons_append, ← List.append_assoc] at hsplit
    exact h before x after (List.append_inj' hsplit rfl).1

/-- What is asked of the runs: an automaton for each task, and how a run may end. -/
structure Discipline (S : Signature) (ι α Q : Type) where
  /-- where every run starts -/
  start : Q
  /-- what a call with its answer may do to the control state -/
  next : ι → Q → (c : S.Cmd) → S.Resp c → Q → Prop
  /-- the control states in which a task may return a result -/
  post : ι → α → Q → Prop

namespace Discipline

variable (D : Discipline S ι α Q)

/-- The program of every task obeys. -/
def Obeyed (program : ι → Prog S σ α) : Prop :=
  ∀ i, (program i).Obeys (D.next i) (D.post i) D.start

/-- What is left of a run, against its control state. -/
def Fits (i : ι) (q : Q) : Status S σ α → Prop
  | .running m => m.Obeys (D.next i) (D.post i) q
  | .ended a => D.post i a q
  | .stopped => True

/-- The control states fit what is left of the runs. -/
structure Controls (c : Config S σ ι α W) (st : ℕ → Q) : Prop where
  /-- nothing happens in a run before it is started -/
  absent : ∀ n, c.runs n = none → st n = D.start
  /-- a run is where its calls have led it -/
  fits : ∀ n i status, c.runs n = some (i, status) → D.Fits i (st n) status
  /-- the calls of a run are calls of its task -/
  task : ∀ r ∈ c.trace, ∃ status, c.runs r.run = some (r.task, status)

variable {D} {answer env program}

theorem controls_initial (w : W) :
    D.Controls (Config.initial w : Config S σ ι α W) fun _ => D.start :=
  ⟨fun _ _ => rfl, fun _ _ _ h => absurd h.symm (Option.some_ne_none _),
    fun _ h => absurd h List.not_mem_nil⟩

/-- A run that only changes its status, or is started, calls nothing. -/
theorem Controls.of_status {c : Config S σ ι α W} {st : ℕ → Q} (h : D.Controls c st) {n : ℕ}
    {i : ι} {status : Status S σ α} (hfits : D.Fits i (st n) status)
    (htask : ∀ j old, c.runs n = some (j, old) → j = i) :
    D.Controls { c with runs := update c.runs n (some (i, status)) } st := by
  refine ⟨fun m hm => ?_, fun m j other hm => ?_, fun r hr => ?_⟩
  · dsimp only at hm
    rcases eq_or_ne m n with rfl | hne
    · rw [update_self] at hm
      exact absurd hm (Option.some_ne_none _)
    · rw [update_of_ne hne] at hm
      exact h.absent m hm
  · dsimp only at hm
    rcases eq_or_ne m n with rfl | hne
    · rw [update_self] at hm
      cases hm
      exact hfits
    · rw [update_of_ne hne] at hm
      exact h.fits m j other hm
  · obtain ⟨old, hold⟩ := h.task r hr
    rcases eq_or_ne r.run n with heq | hne
    · subst heq
      rw [htask r.task old hold]
      exact ⟨status, update_self ..⟩
    · exact ⟨old, (update_of_ne hne ..).trans hold⟩

/-- A call leads its run on. -/
theorem Controls.call {c : Config S σ ι α W} {st : ℕ → Q} (h : D.Controls c st) {n : ℕ} {i : ι}
    {old : Status S σ α} (hrun : c.runs n = some (i, old)) {e : Event S W} {q : Q}
    {m : Prog S σ α} (hm : m.Obeys (D.next i) (D.post i) q) :
    D.Controls ⟨e.world, update c.runs n (some (i, .running m)), c.trace ++ [⟨n, i, c.world, e⟩]⟩
      (update st n q) := by
  refine ⟨fun k hk => ?_, fun k j status hk => ?_, fun r hr => ?_⟩
  · dsimp only at hk
    rcases eq_or_ne k n with rfl | hne
    · rw [update_self] at hk
      exact absurd hk (Option.some_ne_none _)
    · rw [update_of_ne hne] at hk
      exact (update_of_ne hne ..).trans (h.absent k hk)
  · dsimp only at hk
    rcases eq_or_ne k n with rfl | hne
    · rw [update_self] at hk
      cases hk
      rwa [update_self]
    · rw [update_of_ne hne] at hk
      rw [update_of_ne hne]
      exact h.fits k j status hk
  · rcases List.mem_append.mp hr with hr | hr
    · obtain ⟨status, hstatus⟩ := h.task r hr
      rcases eq_or_ne r.run n with heq | hne
      · rw [heq, hrun] at hstatus
        cases hstatus
        exact ⟨.running m, heq ▸ update_self ..⟩
      · exact ⟨status, (update_of_ne hne ..).trans hstatus⟩
    · rw [List.mem_singleton.mp hr]
      exact ⟨_, update_self ..⟩

end Discipline

variable {D : Discipline S ι α Q} {answer env program}

/-- What every allowed call keeps holds in every configuration reached, with the control
states of the runs. -/
theorem exists_control {I : W → (ℕ → Q) → List (Record S ι W) → Prop}
    (hprogram : D.Obeyed program)
    (hcall : ∀ w st trace n i e q, I w st trace → answer w e →
      D.next i (st n) e.cmd e.resp q → I e.world (update st n q) (trace ++ [⟨n, i, w, e⟩]))
    (henv : ∀ w w' st trace, I w st trace → env w w' → I w' st trace)
    {w : W} (hinitial : I w (fun _ => D.start) []) {c : Config S σ ι α W}
    (h : Reachable answer env program w c) : ∃ st, I c.world st c.trace ∧ D.Controls c st := by
  induction h with
  | refl => exact ⟨_, hinitial, Discipline.controls_initial w⟩
  | tail _ hstep ih =>
    obtain ⟨st, hI, hcontrols⟩ := ih
    cases hstep with
    | start n i hnone =>
      refine ⟨st, hI, hcontrols.of_status ?_ fun j old hold => ?_⟩
      · rw [Discipline.Fits, hcontrols.absent n hnone]
        exact hprogram i
      · exact absurd (hold.symm.trans hnone) (Option.some_ne_none _)
    | call n i cmd s k r w' hrun hanswer =>
      obtain ⟨q, hnext, hk⟩ := hcontrols.fits n i _ hrun r
      let e : Event S W := ⟨cmd, r, w'⟩
      exact ⟨_, hcall _ st _ n i e q hI hanswer hnext, hcontrols.call (e := e) hrun hk⟩
    | ret n i a s hrun =>
      have hrunning := hcontrols.fits n i _ hrun
      have hended : D.Fits i (st n) (.ended a : Status S σ α) := hrunning
      refine ⟨st, hI, hcontrols.of_status hended fun j old hold => ?_⟩
      rw [hrun] at hold
      cases hold
      rfl
    | stop n i m hrun =>
      refine ⟨st, hI, hcontrols.of_status trivial fun j old hold => ?_⟩
      rw [hrun] at hold
      cases hold
      rfl
    | env w' hmove =>
      exact ⟨st, henv _ w' st _ hI hmove, hcontrols.absent, hcontrols.fits, hcontrols.task⟩

/-- The result of a run that has returned. -/
def Config.result (c : Config S σ ι α W) (n : ℕ) : Option α :=
  match c.runs n with
  | some (_, .ended a) => some a
  | _ => none

/-! ## Scheduled runs -/

/-- A move of a scheduler. -/
inductive Move (ι : Type) : Type where
  /-- a run is started under a number -/
  | start (n : ℕ) (task : ι)
  /-- a run makes its next call, which succeeds or fails, or returns -/
  | go (n : ℕ) (ok : Bool)

/-- The configuration after a move, if it can be made. -/
def Config.move (program : ι → Prog S σ α) (respond : Bool → W → (c : S.Cmd) → S.Resp c × W)
    (c : Config S σ ι α W) : Move ι → Option (Config S σ ι α W)
  | .start n i =>
    match c.runs n with
    | none => some { c with runs := update c.runs n (some (i, .running (program i))) }
    | some _ => none
  | .go n ok =>
    match c.runs n with
    | some (i, .running (.call cmd s k)) =>
      let (r, w) := respond ok c.world cmd
      some ⟨w, update c.runs n (some (i, .running (k r s))),
        c.trace ++ [⟨n, i, c.world, ⟨cmd, r, w⟩⟩]⟩
    | some (i, .running (.ret a _)) =>
      some { c with runs := update c.runs n (some (i, .ended a)) }
    | _ => none

/-- The configuration after a schedule. -/
def Config.play (program : ι → Prog S σ α) (respond : Bool → W → (c : S.Cmd) → S.Resp c × W)
    (c : Config S σ ι α W) : List (Move ι) → Option (Config S σ ι α W)
  | [] => some c
  | move :: moves => (c.move program respond move).bind fun c => c.play program respond moves

variable {respond : Bool → W → (c : S.Cmd) → S.Resp c × W}

theorem Config.move_step
    (hrespond : ∀ ok w cmd, answer w ⟨cmd, (respond ok w cmd).1, (respond ok w cmd).2⟩)
    {c c' : Config S σ ι α W} {move : Move ι} (h : c.move program respond move = some c') :
    Step answer env program c c' := by
  cases move with
  | start n i =>
    cases hrun : c.runs n with
    | some run => simp [Config.move, hrun] at h
    | none =>
      simp only [Config.move, hrun, Option.some.injEq] at h
      subst h
      exact .start n i hrun
  | go n ok =>
    cases hrun : c.runs n with
    | none => simp [Config.move, hrun] at h
    | some run =>
      obtain ⟨i, status⟩ := run
      cases status with
      | ended a => simp [Config.move, hrun] at h
      | stopped => simp [Config.move, hrun] at h
      | running m =>
        cases m with
        | ret a s =>
          simp only [Config.move, hrun, Option.some.injEq] at h
          subst h
          exact .ret n i a s hrun
        | call cmd s k =>
          simp only [Config.move, hrun, Option.some.injEq] at h
          subst h
          exact .call n i cmd s k _ _ hrun (hrespond ok c.world cmd)

/-- A schedule is a run of the system. -/
theorem Config.play_steps
    (hrespond : ∀ ok w cmd, answer w ⟨cmd, (respond ok w cmd).1, (respond ok w cmd).2⟩)
    {c c' : Config S σ ι α W} {moves : List (Move ι)}
    (h : c.play program respond moves = some c') :
    ReflTransGen (Step answer env program) c c' := by
  induction moves generalizing c with
  | nil =>
    obtain rfl : c = c' := Option.some.inj h
    exact .refl
  | cons move moves ih =>
    obtain ⟨c₁, hfirst, hrest⟩ := Option.bind_eq_some_iff.mp h
    exact .head (move_step hrespond hfirst) (ih hrest)

end Interleaving

end SystemSettings

import Mathlib.Logic.Basic
import Mathlib.Data.List.Basic

/-!
# Programs that call out

A library for sequential code whose only effects are calls to something outside
it. Three layers:

* `Prog S σ α`: the free monad over the calls of a signature `S`. Each call node
  carries the memory `σ` as it is when the call is made, and its continuation
  takes the memory as it is when the call returns. So code that runs *inside* a
  call (a callback that re-enters the program) can change the memory, and a run
  can be interrupted between any two calls.
* `Exec`: the runs of a program against a `Machine`, the relation that says how
  a call may be answered. A run records its trace, every call with its answer
  and the world it left.
* `wp`, `Cut`: the weakest precondition of a program and its runs that are cut
  short, each by recursion on the program.
-/

namespace SystemSettings

/-- The calls a program can make, and the answers to each. -/
structure Signature where
  /-- the calls -/
  Cmd : Type
  /-- what each call answers -/
  Resp : Cmd → Type

/-- A program over the calls of `S` with memory `σ` and result `α`. -/
inductive Prog (S : Signature) (σ α : Type) : Type where
  /-- return a value and leave the memory as it is -/
  | ret : α → σ → Prog S σ α
  /-- make a call with the memory exposed, and go on with the answer and the
  memory the call left -/
  | call : (c : S.Cmd) → σ → (S.Resp c → σ → Prog S σ α) → Prog S σ α

namespace Prog

variable {S : Signature} {σ α β γ : Type}

/-- Graft a continuation onto every `ret` leaf. -/
protected def bind : Prog S σ α → (α → σ → Prog S σ β) → Prog S σ β
  | ret a s, f => f a s
  | call c s k, f => call c s fun r s' => (k r s').bind f

@[simp] theorem ret_bind (a : α) (s : σ) (f : α → σ → Prog S σ β) :
    (ret a s : Prog S σ α).bind f = f a s := rfl

@[simp] theorem call_bind (c : S.Cmd) (s : σ) (k : S.Resp c → σ → Prog S σ α)
    (f : α → σ → Prog S σ β) :
    (call c s k).bind f = call c s fun r s' => (k r s').bind f := rfl

@[simp] theorem bind_ret (m : Prog S σ α) : m.bind ret = m := by
  induction m with
  | ret a s => rfl
  | call c s k ih => exact congrArg (call c s) (funext fun r => funext fun s' => ih r s')

theorem bind_assoc (m : Prog S σ α) (f : α → σ → Prog S σ β) (g : β → σ → Prog S σ γ) :
    (m.bind f).bind g = m.bind fun a s => (f a s).bind g := by
  induction m with
  | ret a s => rfl
  | call c s k ih => exact congrArg (call c s) (funext fun r => funext fun s' => ih r s')

end Prog

/-- Code in the style of a C function: it starts from the memory it is called
with. -/
abbrev Action (S : Signature) (σ α : Type) : Type := σ → Prog S σ α

namespace Action

variable {S : Signature} {σ α β : Type}

instance : Monad (Action S σ) where
  pure a := fun s => .ret a s
  bind m f := fun s => (m s).bind f

@[simp] theorem pure_run (a : α) (s : σ) : (pure a : Action S σ α) s = .ret a s := rfl

@[simp] theorem bind_run (m : Action S σ α) (f : α → Action S σ β) (s : σ) :
    (m >>= f) s = (m s).bind f := rfl

@[simp] theorem map_run (f : α → β) (m : Action S σ α) (s : σ) :
    (f <$> m) s = (m s).bind fun a s' => .ret (f a) s' := rfl

@[simp] theorem ite_run {p : Prop} [Decidable p] (m m' : Action S σ α) (s : σ) :
    (if p then m else m') s = if p then m s else m' s := by
  split <;> rfl

instance : LawfulMonad (Action S σ) := LawfulMonad.mk' _
  (fun m => funext fun s => Prog.bind_ret (m s))
  (fun _ _ => rfl)
  (fun m _ _ => funext fun s => Prog.bind_assoc (m s) _ _)

/-- Make one call. -/
def call (c : S.Cmd) : Action S σ (S.Resp c) := fun s => .call c s .ret

@[simp] theorem call_run (c : S.Cmd) (s : σ) :
    (call c : Action S σ (S.Resp c)) s = .call c s .ret := rfl

/-- Read the memory. -/
def get : Action S σ σ := fun s => .ret s s

@[simp] theorem get_run (s : σ) : (get : Action S σ σ) s = .ret s s := rfl

/-- Change the memory. -/
def modify (f : σ → σ) : Action S σ Unit := fun s => .ret () (f s)

@[simp] theorem modify_run (f : σ → σ) (s : σ) :
    (modify f : Action S σ Unit) s = .ret () (f s) := rfl

/-- Do `m` when `p` holds. -/
def when (p : Bool) (m : Action S σ Unit) : Action S σ Unit := if p then m else pure ()

@[simp] theorem when_run (p : Bool) (m : Action S σ Unit) (s : σ) :
    when p m s = if p then m s else .ret () s := by
  cases p <;> rfl

end Action

/-! ## Runs -/

/-- One call as it was made and answered, with the world it left. -/
structure Event (S : Signature) (W : Type) where
  /-- the call -/
  cmd : S.Cmd
  /-- its answer -/
  resp : S.Resp cmd
  /-- the world right after it -/
  world : W

/-- How calls may be answered: from memory and world before, by answer, memory
and world after. -/
abbrev Machine (S : Signature) (σ W : Type) : Type :=
  σ → W → (c : S.Cmd) → S.Resp c → σ → W → Prop

namespace Prog

variable {S : Signature} {σ W α β : Type} {T : Machine S σ W}

/-- The complete runs of a program: world before, trace, result, memory and
world after. -/
def Exec (T : Machine S σ W) :
    Prog S σ α → W → List (Event S W) → α → σ → W → Prop
  | ret a s, w, tr, a', s', w' => tr = [] ∧ a' = a ∧ s' = s ∧ w' = w
  | call c s k, w, tr, a', s', w' =>
      ∃ r s₁ w₁ tr₁, T s w c r s₁ w₁ ∧ tr = ⟨c, r, w₁⟩ :: tr₁ ∧
        (k r s₁).Exec T w₁ tr₁ a' s' w'

/-- Runs of a sequence are runs of its parts. -/
theorem exec_bind {m : Prog S σ α} {f : α → σ → Prog S σ β} {w w' : W}
    {tr : List (Event S W)} {b : β} {s' : σ} (h : (m.bind f).Exec T w tr b s' w') :
    ∃ tr₁ a s₁ w₁ tr₂, m.Exec T w tr₁ a s₁ w₁ ∧ (f a s₁).Exec T w₁ tr₂ b s' w' ∧
      tr = tr₁ ++ tr₂ := by
  induction m generalizing w tr with
  | ret a s => exact ⟨[], a, s, w, tr, ⟨rfl, rfl, rfl, rfl⟩, h, rfl⟩
  | call c s k ih =>
    obtain ⟨r, s₁, w₁, tr₁, hT, rfl, h⟩ := h
    obtain ⟨tr₂, a, s₂, w₂, tr₃, hm, hf, rfl⟩ := ih r s₁ h
    exact ⟨⟨c, r, w₁⟩ :: tr₂, a, s₂, w₂, tr₃, ⟨r, s₁, w₁, tr₂, hT, rfl, hm⟩, hf, rfl⟩

/-- What holds of every run, by recursion on the program. -/
def wp (T : Machine S σ W) :
    Prog S σ α → (List (Event S W) → α → σ → W → Prop) → W → Prop
  | ret a s, Q, w => Q [] a s w
  | call c s k, Q, w => ∀ r s₁ w₁, T s w c r s₁ w₁ →
      (k r s₁).wp T (fun tr => Q (⟨c, r, w₁⟩ :: tr)) w₁

@[simp] theorem wp_ret (a : α) (s : σ) (Q : List (Event S W) → α → σ → W → Prop) (w : W) :
    (ret a s).wp T Q w ↔ Q [] a s w := Iff.rfl

/-- `wp` is exactly what holds of every run. -/
theorem wp_iff {m : Prog S σ α} {Q : List (Event S W) → α → σ → W → Prop} {w : W} :
    m.wp T Q w ↔ ∀ tr a s' w', m.Exec T w tr a s' w' → Q tr a s' w' := by
  induction m generalizing w Q with
  | ret a s =>
    constructor
    · rintro h tr a' s' w' ⟨rfl, rfl, rfl, rfl⟩
      exact h
    · intro h
      exact h [] a s w ⟨rfl, rfl, rfl, rfl⟩
  | call c s k ih =>
    constructor
    · rintro h tr a' s' w' ⟨r, s₁, w₁, tr₁, hT, rfl, hk⟩
      exact (ih r s₁).mp (h r s₁ w₁ hT) tr₁ a' s' w' hk
    · intro h r s₁ w₁ hT
      exact (ih r s₁).mpr fun tr a' s' w' hk =>
        h _ a' s' w' ⟨r, s₁, w₁, tr, hT, rfl, hk⟩

theorem Exec.of_wp {m : Prog S σ α} {Q : List (Event S W) → α → σ → W → Prop} {w w' : W}
    {tr : List (Event S W)} {a : α} {s' : σ} (h : m.Exec T w tr a s' w') (hQ : m.wp T Q w) :
    Q tr a s' w' :=
  wp_iff.mp hQ tr a s' w' h

theorem wp_of_forall {m : Prog S σ α} {Q : List (Event S W) → α → σ → W → Prop} {w : W}
    (h : ∀ tr a s' w', Q tr a s' w') : m.wp T Q w :=
  wp_iff.mpr fun tr a s' w' _ => h tr a s' w'

/-- Weakening the postcondition. -/
theorem wp_mono {m : Prog S σ α} {Q Q' : List (Event S W) → α → σ → W → Prop} {w : W}
    (hQ : ∀ tr a s' w', Q tr a s' w' → Q' tr a s' w') (h : m.wp T Q w) : m.wp T Q' w :=
  wp_iff.mpr fun tr a s' w' hx => hQ tr a s' w' (wp_iff.mp h tr a s' w' hx)

/-- The sequencing rule. -/
theorem wp_bind {m : Prog S σ α} {f : α → σ → Prog S σ β}
    {Q : List (Event S W) → β → σ → W → Prop} {w : W}
    (h : m.wp T (fun tr a s₁ w₁ => (f a s₁).wp T (fun tr' => Q (tr ++ tr')) w₁) w) :
    (m.bind f).wp T Q w := by
  refine wp_iff.mpr fun tr b s' w' hx => ?_
  obtain ⟨tr₁, a, s₁, w₁, tr₂, hm, hf, rfl⟩ := exec_bind hx
  exact hf.of_wp (hm.of_wp h)

/-! ### Where a run ends -/

/-- Every run ends in `Q`, whatever calls it made. -/
def Leads (T : Machine S σ W) (m : Prog S σ α) (Q : α → σ → W → Prop) (w : W) : Prop :=
  m.wp T (fun _ => Q) w

section Leads

variable {m : Prog S σ α} {Q Q' : α → σ → W → Prop} {w : W}

@[simp] theorem leads_ret {a : α} {s : σ} : (ret a s).Leads T Q w ↔ Q a s w := Iff.rfl

theorem leads_iff : m.Leads T Q w ↔ ∀ tr a s' w', m.Exec T w tr a s' w' → Q a s' w' := wp_iff

theorem Leads.exec (h : m.Leads T Q w) {tr : List (Event S W)} {a : α} {s' : σ} {w' : W}
    (hx : m.Exec T w tr a s' w') : Q a s' w' :=
  leads_iff.mp h tr a s' w' hx

theorem Leads.bind {f : α → σ → Prog S σ β} {R : β → σ → W → Prop} (hm : m.Leads T Q w)
    (hf : ∀ a s w', Q a s w' → (f a s).Leads T R w') : (m.bind f).Leads T R w :=
  wp_bind (wp_mono (fun _ a s w' h => hf a s w' h) hm)

theorem Leads.mono (hm : m.Leads T Q w) (hQ : ∀ a s w', Q a s w' → Q' a s w') : m.Leads T Q' w :=
  wp_mono (fun _ => hQ) hm

end Leads

/-! ### Machines that leave the memory alone -/

/-- A machine whose calls only step the world. -/
def quiet (step : W → Event S W → Prop) : Machine S σ W :=
  fun s w c r s' w' => s' = s ∧ step w ⟨c, r, w'⟩

theorem Leads.call {step : W → Event S W → Prop} {c : S.Cmd} {s : σ} {k : S.Resp c → σ → Prog S σ α}
    {Q : α → σ → W → Prop} {w : W}
    (h : ∀ r w', step w ⟨c, r, w'⟩ → (k r s).Leads (quiet step) Q w') :
    (Prog.call c s k).Leads (quiet step) Q w := by
  rintro r _ w' ⟨rfl, hstep⟩
  exact h r w' hstep

/-- The worlds along a trace. -/
def Path (step : W → Event S W → Prop) : W → List (Event S W) → W → Prop
  | w, [], w' => w' = w
  | w, e :: tr, w' => step w e ∧ Path step e.world tr w'

@[simp] theorem path_nil {step : W → Event S W → Prop} {w w' : W} :
    Path step w [] w' ↔ w' = w := Iff.rfl

@[simp] theorem path_cons {step : W → Event S W → Prop} {w w' : W} {e : Event S W}
    {tr : List (Event S W)} :
    Path step w (e :: tr) w' ↔ step w e ∧ Path step e.world tr w' := Iff.rfl

/-- What the program does for given answers, whatever the world: trace, result
and memory after. -/
def Yields : Prog S σ α → List (Event S W) → α → σ → Prop
  | ret a s, tr, a', s' => tr = [] ∧ a' = a ∧ s' = s
  | call c s k, tr, a', s' => ∃ r w tr₁, tr = ⟨c, r, w⟩ :: tr₁ ∧ (k r s).Yields tr₁ a' s'

@[simp] theorem yields_ret {a a' : α} {s s' : σ} {tr : List (Event S W)} :
    (ret a s).Yields tr a' s' ↔ tr = [] ∧ a' = a ∧ s' = s := Iff.rfl

@[simp] theorem yields_call {c : S.Cmd} {s s' : σ} {k : S.Resp c → σ → Prog S σ α} {a : α}
    {tr : List (Event S W)} :
    (call c s k).Yields tr a s' ↔
      ∃ r w tr₁, tr = ⟨c, r, w⟩ :: tr₁ ∧ (k r s).Yields tr₁ a s' := Iff.rfl

@[simp] theorem yields_call_cons {c : S.Cmd} {s s' : σ} {k : S.Resp c → σ → Prog S σ α} {a : α}
    {r : S.Resp c} {w : W} {tr : List (Event S W)} :
    (call c s k).Yields (⟨c, r, w⟩ :: tr) a s' ↔ (k r s).Yields tr a s' := by
  constructor
  · rintro ⟨r', w', tr', h, hk⟩
    cases h
    exact hk
  · exact fun hk => ⟨r, w, tr, rfl, hk⟩

theorem yields_bind {m : Prog S σ α} {f : α → σ → Prog S σ β} {tr : List (Event S W)} {b : β}
    {s' : σ} (h : (m.bind f).Yields tr b s') :
    ∃ tr₁ a s₁ tr₂, m.Yields tr₁ a s₁ ∧ (f a s₁).Yields tr₂ b s' ∧ tr = tr₁ ++ tr₂ := by
  induction m generalizing tr with
  | ret a s => exact ⟨[], a, s, tr, ⟨rfl, rfl, rfl⟩, h, rfl⟩
  | call c s k ih =>
    obtain ⟨r, w, tr₁, rfl, h⟩ := h
    obtain ⟨tr₂, a, s₁, tr₃, hm, hf, rfl⟩ := ih r s h
    exact ⟨⟨c, r, w⟩ :: tr₂, a, s₁, tr₃, ⟨r, w, tr₂, rfl, hm⟩, hf, rfl⟩

/-- Runs of the parts make a run of the sequence. -/
theorem Yields.bind {m : Prog S σ α} {f : α → σ → Prog S σ β} {tr₁ tr₂ : List (Event S W)} {a : α}
    {s₁ : σ} {b : β} {s' : σ} (hm : m.Yields tr₁ a s₁) (hf : (f a s₁).Yields tr₂ b s') :
    (m.bind f).Yields (tr₁ ++ tr₂) b s' := by
  induction m generalizing tr₁ with
  | ret a s =>
    obtain ⟨rfl, rfl, rfl⟩ := hm
    exact hf
  | call c s k ih =>
    obtain ⟨r, w, tr, rfl, hk⟩ := hm
    exact ⟨r, w, tr ++ tr₂, rfl, ih r s hk⟩

/-- The answers decide the run. -/
theorem Yields.unique {m : Prog S σ α} {tr : List (Event S W)} {a a' : α} {s' s'' : σ}
    (h : m.Yields tr a s') (h' : m.Yields tr a' s'') : a' = a ∧ s'' = s' := by
  induction m generalizing tr with
  | ret a s =>
    obtain ⟨-, rfl, rfl⟩ := h
    exact h'.2
  | call c s k ih =>
    obtain ⟨r, w, tr, rfl, hk⟩ := h
    exact ih r s hk (yields_call_cons.mp h')

/-- A program that is always answered does something. -/
theorem exists_yields [∀ c, Nonempty (S.Resp c)] [Nonempty W] (m : Prog S σ α) :
    ∃ (tr : List (Event S W)) (a : α) (s' : σ), m.Yields tr a s' := by
  induction m with
  | ret a s => exact ⟨[], a, s, rfl, rfl, rfl⟩
  | call c s k ih =>
    obtain ⟨r⟩ := ‹∀ c, Nonempty (S.Resp c)› c
    obtain ⟨w⟩ := ‹Nonempty W›
    obtain ⟨tr, a, s', hk⟩ := ih r s
    exact ⟨⟨c, r, w⟩ :: tr, a, s', r, w, tr, rfl, hk⟩

/-- Against a quiet machine, program and world can be looked at one by one. -/
theorem exec_quiet {step : W → Event S W → Prop} {m : Prog S σ α} {w w' : W}
    {tr : List (Event S W)} {a : α} {s' : σ} :
    m.Exec (quiet step) w tr a s' w' ↔ m.Yields tr a s' ∧ Path step w tr w' := by
  induction m generalizing w tr with
  | ret a s =>
    constructor
    · rintro ⟨rfl, rfl, rfl, rfl⟩
      exact ⟨⟨rfl, rfl, rfl⟩, rfl⟩
    · rintro ⟨⟨rfl, rfl, rfl⟩, rfl⟩
      exact ⟨rfl, rfl, rfl, rfl⟩
  | call c s k ih =>
    constructor
    · rintro ⟨r, s₁, w₁, tr₁, ⟨rfl, hT⟩, rfl, h⟩
      obtain ⟨hy, hp⟩ := (ih r _).mp h
      exact ⟨⟨r, w₁, tr₁, rfl, hy⟩, hT, hp⟩
    · rintro ⟨⟨r, w₁, tr₁, rfl, hy⟩, hT, hp⟩
      exact ⟨r, s, w₁, tr₁, ⟨rfl, hT⟩, rfl, (ih r s).mpr ⟨hy, hp⟩⟩

/-- A run whose every event is in `P` is a run of the machine that allows no others. -/
theorem Exec.restrict {step : W → Event S W → Prop} {P : Event S W → Prop} {m : Prog S σ α}
    {w w' : W} {tr : List (Event S W)} {a : α} {s' : σ} (h : m.Exec (quiet step) w tr a s' w')
    (hP : ∀ e ∈ tr, P e) : m.Exec (quiet fun w e => step w e ∧ P e) w tr a s' w' := by
  induction m generalizing w tr with
  | ret a s => exact h
  | call c s k ih =>
    obtain ⟨r, s₁, w₁, tr₁, ⟨rfl, hstep⟩, rfl, hk⟩ := h
    exact ⟨r, _, w₁, tr₁, ⟨rfl, hstep, hP _ List.mem_cons_self⟩, rfl,
      ih r _ hk fun e he => hP e (List.mem_cons_of_mem _ he)⟩

/-! ### The calls a run gets to -/

/-- A run of the program gets to the call `c'` with memory `s'` in the world `w'`. -/
def Reaches (T : Machine S σ W) : Prog S σ α → W → S.Cmd → σ → W → Prop
  | ret _ _, _, _, _, _ => False
  | call c s k, w, c', s', w' => (c' = c ∧ s' = s ∧ w' = w) ∨
      ∃ r s₁ w₁, T s w c r s₁ w₁ ∧ (k r s₁).Reaches T w₁ c' s' w'

/-- For some answers the program gets to the call `c'` with memory `s'`. -/
def Calls : Prog S σ α → S.Cmd → σ → Prop
  | ret _ _, _, _ => False
  | call c s k, c', s' => (c' = c ∧ s' = s) ∨ ∃ r, (k r s).Calls c' s'

@[simp] theorem calls_ret {a : α} {s s' : σ} {c' : S.Cmd} : ¬ (ret a s : Prog S σ α).Calls c' s' :=
  id

@[simp] theorem calls_call {c c' : S.Cmd} {s s' : σ} {k : S.Resp c → σ → Prog S σ α} :
    (call c s k).Calls c' s' ↔ (c' = c ∧ s' = s) ∨ ∃ r, (k r s).Calls c' s' := Iff.rfl

theorem Reaches.calls {step : W → Event S W → Prop} {m : Prog S σ α} {w w' : W} {c : S.Cmd}
    {s' : σ} (h : m.Reaches (quiet step) w c s' w') : m.Calls c s' := by
  induction m generalizing w with
  | ret a s => exact h
  | call c s k ih =>
    rcases h with ⟨hc, hs, -⟩ | ⟨r, s₁, w₁, ⟨rfl, -⟩, h⟩
    · exact .inl ⟨hc, hs⟩
    · exact .inr ⟨r, ih r _ h⟩

/-- What a program can get to, it gets to in some run. -/
theorem Calls.yields [∀ c, Nonempty (S.Resp c)] [Nonempty W] {m : Prog S σ α} {c : S.Cmd}
    {s' : σ} (h : m.Calls c s') :
    ∃ (tr : List (Event S W)) (a : α) (s'' : σ), m.Yields tr a s'' ∧ ∃ e ∈ tr, e.cmd = c := by
  induction m with
  | ret a s => exact h.elim
  | call c₀ s k ih =>
    rcases h with ⟨rfl, rfl⟩ | ⟨r, h⟩
    · obtain ⟨r⟩ := ‹∀ c, Nonempty (S.Resp c)› c
      obtain ⟨w⟩ := ‹Nonempty W›
      obtain ⟨tr, a, s'', hy⟩ := exists_yields (W := W) (k r s')
      exact ⟨⟨c, r, w⟩ :: tr, a, s'', ⟨r, w, tr, rfl, hy⟩, _, List.mem_cons_self, rfl⟩
    · obtain ⟨tr, a, s'', hy, e, he, hc⟩ := ih r s h
      obtain ⟨w⟩ := ‹Nonempty W›
      exact ⟨⟨c₀, r, w⟩ :: tr, a, s'', ⟨r, w, tr, rfl, hy⟩, e, List.mem_cons_of_mem _ he, hc⟩

/-- The first part of a sequence is called in it. -/
theorem Calls.bind {m : Prog S σ α} {f : α → σ → Prog S σ β} {c : S.Cmd} {s' : σ}
    (h : m.Calls c s') : (m.bind f).Calls c s' := by
  induction m with
  | ret a s => exact h.elim
  | call c₀ s k ih => exact h.imp_right fun ⟨r, h⟩ => ⟨r, ih r s h⟩

/-- A call of a sequence is a call of one of its parts. -/
theorem calls_bind {m : Prog S σ α} {f : α → σ → Prog S σ β} {c : S.Cmd} {s' : σ}
    (h : (m.bind f).Calls c s') :
    m.Calls c s' ∨ ∃ (tr : List (Event S Unit)) (a : α) (s₁ : σ),
      m.Yields tr a s₁ ∧ (f a s₁).Calls c s' := by
  induction m with
  | ret a s => exact .inr ⟨[], a, s, ⟨rfl, rfl, rfl⟩, h⟩
  | call c s k ih =>
    rcases h with h | ⟨r, h⟩
    · exact .inl (.inl h)
    · rcases ih r s h with h | ⟨tr, a, s₁, hy, h⟩
      · exact .inl (.inr ⟨r, h⟩)
      · exact .inr ⟨⟨c, r, ()⟩ :: tr, a, s₁, ⟨r, (), tr, rfl, hy⟩, h⟩

/-- The program starts with the call `c'` and memory `s'`. -/
def Starts : Prog S σ α → S.Cmd → σ → Prop
  | ret _ _, _, _ => False
  | call c s _, c', s' => c' = c ∧ s' = s

theorem Starts.bind {m : Prog S σ α} {f : α → σ → Prog S σ β} {c : S.Cmd} {s : σ}
    (h : m.Starts c s) : (m.bind f).Starts c s := by
  cases m with
  | ret a s => exact h.elim
  | call c s k => exact h

theorem Starts.reaches {m : Prog S σ α} {c : S.Cmd} {s : σ} {w : W} (h : m.Starts c s) :
    m.Reaches T w c s w := by
  cases m with
  | ret a s => exact h.elim
  | call c s k => exact .inl ⟨h.1, h.2, rfl⟩

theorem Starts.trace_ne_nil {m : Prog S σ α} {c : S.Cmd} {s s' : σ} {a : α}
    {tr : List (Event S W)} (h : m.Starts c s) (hy : m.Yields tr a s') : tr ≠ [] := by
  cases m with
  | ret a s => exact h.elim
  | call c s k =>
    obtain ⟨r, w, tr₁, rfl, -⟩ := hy
    exact List.cons_ne_nil _ _

/-! ### Programs by the answers they get -/

/-- The program makes only calls in `asks`, and when every answer is in `told` it
ends in `Q`. -/
def Under (asks : S.Cmd → Prop) (told : (c : S.Cmd) → S.Resp c → Prop) (Q : α → σ → Prop) :
    Prog S σ α → Prop
  | ret a s => Q a s
  | call c s k => asks c ∧ ∀ r, told c r → (k r s).Under asks told Q

section Under

variable {asks : S.Cmd → Prop} {told : (c : S.Cmd) → S.Resp c → Prop} {Q Q' : α → σ → Prop}

@[simp] theorem under_ret {a : α} {s : σ} : (ret a s : Prog S σ α).Under asks told Q ↔ Q a s :=
  Iff.rfl

theorem Under.bind {m : Prog S σ α} {f : α → σ → Prog S σ β} {R : β → σ → Prop}
    (hm : m.Under asks told Q) (hf : ∀ a s, Q a s → (f a s).Under asks told R) :
    (m.bind f).Under asks told R := by
  induction m with
  | ret a s => exact hf a s hm
  | call c s k ih => exact ⟨hm.1, fun r hr => ih r s (hm.2 r hr)⟩

theorem Under.mono {m : Prog S σ α} (hm : m.Under asks told Q) (hQ : ∀ a s, Q a s → Q' a s) :
    m.Under asks told Q' := by
  induction m with
  | ret a s => exact hQ a s hm
  | call c s k ih => exact ⟨hm.1, fun r hr => ih r s (hm.2 r hr)⟩

/-- What every run does that gets the answers told. -/
theorem under_of_told [∀ c, Nonempty (S.Resp c)] {m : Prog S σ α}
    (h : ∀ (tr : List (Event S Unit)) (a : α) (s' : σ), m.Yields tr a s' →
      (∀ e ∈ tr, asks e.cmd) ∧ ((∀ e ∈ tr, told e.cmd e.resp) → Q a s')) :
    m.Under asks told Q := by
  induction m with
  | ret a s => exact (h [] a s ⟨rfl, rfl, rfl⟩).2 fun _ he => (List.not_mem_nil he).elim
  | call c s k ih =>
    refine ⟨?_, fun r hr => ih r s fun tr a s' hy => ?_⟩
    · obtain ⟨r⟩ := ‹∀ c, Nonempty (S.Resp c)› c
      obtain ⟨tr, a, s', hy⟩ := exists_yields (W := Unit) (k r s)
      exact (h _ a s' ⟨r, (), tr, rfl, hy⟩).1 _ List.mem_cons_self
    · have hrun := h _ a s' ⟨r, (), tr, rfl, hy⟩
      refine ⟨fun e he => hrun.1 e (List.mem_cons_of_mem _ he), fun htold => hrun.2 ?_⟩
      exact List.forall_mem_cons.mpr ⟨hr, htold⟩

/-- What every run does, whatever the answers. -/
theorem under_of_yields [∀ c, Nonempty (S.Resp c)] {m : Prog S σ α}
    (h : ∀ (tr : List (Event S Unit)) (a : α) (s' : σ), m.Yields tr a s' →
      (∀ e ∈ tr, asks e.cmd) ∧ Q a s') : m.Under asks told Q :=
  under_of_told fun tr a s' hy => (h tr a s' hy).imp_right fun hQ _ => hQ

/-- An invariant of the world under which the calls asked for get the answers told. -/
theorem Under.exec {step : W → Event S W → Prop} {I : W → Prop}
    (hI : ∀ w e, I w → step w e → asks e.cmd → told e.cmd e.resp ∧ I e.world)
    {m : Prog S σ α} (h : m.Under asks told Q) {w w' : W} (hw : I w) {tr : List (Event S W)} {a : α}
    {s' : σ} (hx : m.Exec (quiet step) w tr a s' w') :
    (∀ e ∈ tr, told e.cmd e.resp) ∧ Q a s' ∧ I w' := by
  induction m generalizing w tr with
  | ret a s =>
    obtain ⟨rfl, rfl, rfl, rfl⟩ := hx
    exact ⟨fun _ he => (List.not_mem_nil he).elim, h, hw⟩
  | call c s k ih =>
    obtain ⟨r, s₁, w₁, tr₁, ⟨rfl, hstep⟩, rfl, hk⟩ := hx
    obtain ⟨hr, hw₁⟩ := hI w _ hw hstep h.1
    obtain ⟨htold, hends⟩ := ih r _ (h.2 r hr) hw₁ hk
    refine ⟨fun e he => ?_, hends⟩
    rcases List.mem_cons.mp he with rfl | he
    · exact hr
    · exact htold e he

/-- A run that gets the answers told. -/
theorem Under.yields {m : Prog S σ α} (h : m.Under asks told Q) {tr : List (Event S W)} {a : α}
    {s' : σ} (hy : m.Yields tr a s') (htold : ∀ e ∈ tr, told e.cmd e.resp) : Q a s' := by
  induction m generalizing tr with
  | ret a s =>
    obtain ⟨-, rfl, rfl⟩ := hy
    exact h
  | call c s k ih =>
    obtain ⟨r, w, tr₁, rfl, hk⟩ := hy
    exact ih r s (h.2 r (htold _ List.mem_cons_self)) hk
      fun e he => htold e (List.mem_cons_of_mem _ he)

end Under

/-! ### How a program ends -/

/-- Whatever the answers, the program ends in `Q`. -/
def Ends (Q : α → σ → Prop) : Prog S σ α → Prop
  | ret a s => Q a s
  | call _ s k => ∀ r, (k r s).Ends Q

section Ends

variable {Q : α → σ → Prop}

@[simp] theorem ends_ret {a : α} {s : σ} : (ret a s : Prog S σ α).Ends Q ↔ Q a s := Iff.rfl

@[simp] theorem ends_call {c : S.Cmd} {s : σ} {k : S.Resp c → σ → Prog S σ α} :
    (call c s k).Ends Q ↔ ∀ r, (k r s).Ends Q := Iff.rfl

theorem Ends.bind {m : Prog S σ α} {f : α → σ → Prog S σ β} {R : β → σ → Prop} (hm : m.Ends Q)
    (hf : ∀ a s, Q a s → (f a s).Ends R) : (m.bind f).Ends R := by
  induction m with
  | ret a s => exact hf a s hm
  | call c s k ih => exact fun r => ih r s (hm r)

/-- Every program ends. -/
theorem ends_true (m : Prog S σ α) : m.Ends fun _ _ => True := by
  induction m with
  | ret a s => trivial
  | call c s k ih => exact fun r => ih r s

/-- The first part of a sequence does not matter. -/
theorem Ends.of_forall {m : Prog S σ α} {f : α → σ → Prog S σ β} {R : β → σ → Prop}
    (hf : ∀ a s, (f a s).Ends R) : (m.bind f).Ends R :=
  (ends_true m).bind fun a s _ => hf a s

theorem Ends.yields {m : Prog S σ α} (h : m.Ends Q) {tr : List (Event S W)} {a : α} {s' : σ}
    (hy : m.Yields tr a s') : Q a s' := by
  induction m generalizing tr with
  | ret a s =>
    obtain ⟨-, rfl, rfl⟩ := hy
    exact h
  | call c s k ih =>
    obtain ⟨r, w, tr₁, -, hk⟩ := hy
    exact ih r s (h r) hk

end Ends

/-! ### Playing a program -/

/-- Run a program against a world that answers, with one Boolean for each call
(`true` when they run out): the trace, the result, memory and world. -/
def play (answer : Bool → W → (c : S.Cmd) → S.Resp c × W) :
    Prog S σ α → W → List Bool → List (Event S W) × α × σ × W
  | ret a s, w, _ => ([], a, s, w)
  | call c s k, w, oks =>
    let x := answer (oks.headD true) w c
    let rest := (k x.1 s).play answer x.2 oks.tail
    (⟨c, x.1, x.2⟩ :: rest.1, rest.2)

/-- What is played is a run. -/
theorem play_exec {step : W → Event S W → Prop}
    {answer : Bool → W → (c : S.Cmd) → S.Resp c × W}
    (hstep : ∀ ok w c, step w ⟨c, (answer ok w c).1, (answer ok w c).2⟩)
    (m : Prog S σ α) (w : W) (oks : List Bool) :
    m.Exec (quiet step) w (m.play answer w oks).1 (m.play answer w oks).2.1
      (m.play answer w oks).2.2.1 (m.play answer w oks).2.2.2 := by
  induction m generalizing w oks with
  | ret a s => exact ⟨rfl, rfl, rfl, rfl⟩
  | call c s k ih =>
    exact ⟨_, s, _, _, ⟨rfl, hstep (oks.headD true) w c⟩, rfl, ih _ _ _ _⟩

/-! ### Runs that are cut short -/

/-- A run that was stopped between two calls, or after the last one: the trace
so far and the world it left. -/
def Cut (T : Machine S σ W) : Prog S σ α → W → List (Event S W) → W → Prop
  | ret _ _, w, tr, w' => tr = [] ∧ w' = w
  | call c s k, w, tr, w' => (tr = [] ∧ w' = w) ∨
      ∃ r s₁ w₁ tr₁, T s w c r s₁ w₁ ∧ tr = ⟨c, r, w₁⟩ :: tr₁ ∧ (k r s₁).Cut T w₁ tr₁ w'

/-- A run that was stopped, and whose every event is in `P`, is one of the machine that allows
no others. -/
theorem Cut.restrict {step : W → Event S W → Prop} {P : Event S W → Prop} {m : Prog S σ α}
    {w w' : W} {tr : List (Event S W)} (h : m.Cut (quiet step) w tr w') (hP : ∀ e ∈ tr, P e) :
    m.Cut (quiet fun w e => step w e ∧ P e) w tr w' := by
  induction m generalizing w tr with
  | ret a s => exact h
  | call c s k ih =>
    rcases h with ⟨rfl, rfl⟩ | ⟨r, s₁, w₁, tr₁, ⟨rfl, hstep⟩, rfl, hk⟩
    · exact .inl ⟨rfl, rfl⟩
    · exact .inr ⟨r, _, w₁, tr₁, ⟨rfl, hstep, hP _ List.mem_cons_self⟩, rfl,
        ih r _ hk fun e he => hP e (List.mem_cons_of_mem _ he)⟩

/-- Play a program until the answers run out. -/
def playTo (answer : Bool → W → (c : S.Cmd) → S.Resp c × W) :
    Prog S σ α → W → List Bool → List (Event S W) × W
  | ret _ _, w, _ => ([], w)
  | call _ _ _, w, [] => ([], w)
  | call c s k, w, ok :: oks =>
    let x := answer ok w c
    let rest := (k x.1 s).playTo answer x.2 oks
    (⟨c, x.1, x.2⟩ :: rest.1, rest.2)

/-- Every call that is played passes the check. -/
def playsWithin (check : W → (c : S.Cmd) → S.Resp c → Bool)
    (answer : Bool → W → (c : S.Cmd) → S.Resp c × W) : Prog S σ α → W → List Bool → Bool
  | ret _ _, _, _ => true
  | call _ _ _, _, [] => true
  | call c s k, w, ok :: oks =>
    let x := answer ok w c
    check w c x.1 && (k x.1 s).playsWithin check answer x.2 oks

/-- What is played is a run that was stopped. -/
theorem playTo_cut {step : W → Event S W → Prop}
    {answer : Bool → W → (c : S.Cmd) → S.Resp c × W}
    {check : W → (c : S.Cmd) → S.Resp c → Bool}
    (hstep : ∀ ok w c, check w c (answer ok w c).1 = true →
      step w ⟨c, (answer ok w c).1, (answer ok w c).2⟩)
    (m : Prog S σ α) (w : W) (oks : List Bool) (h : m.playsWithin check answer w oks = true) :
    m.Cut (quiet step) w (m.playTo answer w oks).1 (m.playTo answer w oks).2 := by
  induction m generalizing w oks with
  | ret a s => exact ⟨rfl, rfl⟩
  | call c s k ih =>
    cases oks with
    | nil => exact .inl ⟨rfl, rfl⟩
    | cons ok oks =>
      obtain ⟨hcheck, hrest⟩ := Bool.and_eq_true_iff.mp h
      exact .inr ⟨_, s, _, _, ⟨rfl, hstep ok w c hcheck⟩, rfl, ih _ _ _ _ hrest⟩

end Prog

end SystemSettings

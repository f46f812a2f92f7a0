import Mathlib.Logic.Relation
import SystemSettings.Program

/-!
# Programs that follow an automaton

A library for what a program does to a part of the world, call by call, also when it
is cut short.

* `Cut.map`, `Exec.map`: a run seen through an abstraction of the world is a run of an
  abstract machine.
* `Prog.Follows` is the local side: every call of the program is a step of an automaton
  with a control state, or changes nothing.
* `Cut.follows`, `Exec.follows` connect them: a run, cut or complete, is a path of the
  automaton.
* `Prog.Maintains` is an invariant of memory and world at every call, `Prog.Steady` one of
  the memory alone.
-/

namespace SystemSettings

open Relation

variable {S : Signature} {σ W D A α β : Type}

/-- The event, with the world seen through `abs`. -/
def Event.map (abs : W → D) (e : Event S W) : Event S D := ⟨e.cmd, e.resp, abs e.world⟩

namespace Prog

/-! ## Runs seen through an abstraction -/

section Map

variable {abs : W → D} {step : W → Event S W → Prop} {step' : D → Event S D → Prop}
  {m : Prog S σ α} {w w' : W} {tr : List (Event S W)}

theorem Cut.map (hstep : ∀ w e, step w e → step' (abs w) (e.map abs))
    (h : m.Cut (quiet step) w tr w') :
    m.Cut (quiet step') (abs w) (tr.map (Event.map abs)) (abs w') := by
  induction m generalizing w tr with
  | ret a s =>
    obtain ⟨rfl, rfl⟩ := h
    exact ⟨rfl, rfl⟩
  | call c s k ih =>
    rcases h with ⟨rfl, rfl⟩ | ⟨r, s₁, w₁, tr₁, ⟨rfl, hT⟩, rfl, hk⟩
    · exact .inl ⟨rfl, rfl⟩
    · exact .inr ⟨r, _, abs w₁, _, ⟨rfl, hstep w _ hT⟩, rfl, ih r _ hk⟩

theorem Exec.map (hstep : ∀ w e, step w e → step' (abs w) (e.map abs)) {a : α} {s' : σ}
    (h : m.Exec (quiet step) w tr a s' w') :
    m.Exec (quiet step') (abs w) (tr.map (Event.map abs)) a s' (abs w') := by
  induction m generalizing w tr with
  | ret a s =>
    obtain ⟨rfl, rfl, rfl, rfl⟩ := h
    exact ⟨rfl, rfl, rfl, rfl⟩
  | call c s k ih =>
    obtain ⟨r, s₁, w₁, tr₁, ⟨rfl, hT⟩, rfl, hk⟩ := h
    exact ⟨r, _, abs w₁, _, ⟨rfl, hstep w _ hT⟩, rfl, ih r _ hk⟩

end Map

/-- A complete run is one that was stopped after its last call. -/
theorem Exec.cut {T : Machine S σ W} {m : Prog S σ α} {w w' : W} {tr : List (Event S W)} {a : α}
    {s' : σ} (h : m.Exec T w tr a s' w') : m.Cut T w tr w' := by
  induction m generalizing w tr with
  | ret a s =>
    obtain ⟨rfl, -, -, rfl⟩ := h
    exact ⟨rfl, rfl⟩
  | call c s k ih =>
    obtain ⟨r, s₁, w₁, tr₁, hT, rfl, hk⟩ := h
    exact .inr ⟨r, s₁, w₁, tr₁, hT, rfl, ih r s₁ hk⟩

/-! ## Following an automaton -/

variable {T : Machine S σ D} {next : A → D → A → D → Prop}

/-- Every call is a step of the automaton or changes nothing, and the program ends in `Q`. -/
def Follows (T : Machine S σ D) (next : A → D → A → D → Prop) :
    Prog S σ α → (α → σ → A → D → Prop) → A → D → Prop
  | ret a s, Q, q, d => Q a s q d
  | call c s k, Q, q, d => ∀ r s₁ d₁, T s d c r s₁ d₁ →
      ∃ q', (next q d q' d₁ ∨ q' = q ∧ d₁ = d) ∧ (k r s₁).Follows T next Q q' d₁

theorem Follows.mono {m : Prog S σ α} {Q Q' : α → σ → A → D → Prop} {q : A} {d : D}
    (h : m.Follows T next Q q d) (hQ : ∀ a s q d, Q a s q d → Q' a s q d) :
    m.Follows T next Q' q d := by
  induction m generalizing q d with
  | ret a s => exact hQ a s q d h
  | call c s k ih =>
    intro r s₁ d₁ hT
    obtain ⟨q', hnext, hk⟩ := h r s₁ d₁ hT
    exact ⟨q', hnext, ih r s₁ hk⟩

/-- The sequencing rule. -/
theorem Follows.bind {m : Prog S σ α} {f : α → σ → Prog S σ β} {Q : α → σ → A → D → Prop}
    {R : β → σ → A → D → Prop} {q : A} {d : D} (h : m.Follows T next Q q d)
    (hf : ∀ a s q d, Q a s q d → (f a s).Follows T next R q d) :
    (m.bind f).Follows T next R q d := by
  induction m generalizing q d with
  | ret a s => exact hf a s q d h
  | call c s k ih =>
    intro r s₁ d₁ hT
    obtain ⟨q', hnext, hk⟩ := h r s₁ d₁ hT
    exact ⟨q', hnext, ih r s₁ hk⟩

/-- A program that only makes calls which change nothing. -/
theorem Follows.of_under {asks : S.Cmd → Prop} {told : (c : S.Cmd) → S.Resp c → Prop} {d : D}
    (hT : ∀ s c r s₁ d₁, asks c → T s d c r s₁ d₁ → s₁ = s ∧ d₁ = d ∧ told c r)
    {m : Prog S σ α} {Q : α → σ → A → D → Prop} {q : A}
    (h : m.Under asks told fun a s => Q a s q d) : m.Follows T next Q q d := by
  induction m with
  | ret a s => exact h
  | call c s k ih =>
    intro r s₁ d₁ hstep
    obtain ⟨rfl, rfl, htold⟩ := hT s c r s₁ d₁ h.1 hstep
    exact ⟨q, .inr ⟨rfl, rfl⟩, ih r _ (h.2 r htold)⟩

/-- One step of the automaton, as a relation on pairs. -/
abbrev Steps (next : A → D → A → D → Prop) : A × D → A × D → Prop :=
  ReflTransGen fun x y => next x.1 x.2 y.1 y.2

theorem Cut.follows {m : Prog S σ α} {Q : α → σ → A → D → Prop} {q : A} {d d' : D}
    {tr : List (Event S D)} (h : m.Cut T d tr d') (hm : m.Follows T next Q q d) :
    ∃ q', Steps next (q, d) (q', d') := by
  induction m generalizing q d tr with
  | ret a s =>
    obtain ⟨-, rfl⟩ := h
    exact ⟨q, .refl⟩
  | call c s k ih =>
    rcases h with ⟨-, rfl⟩ | ⟨r, s₁, d₁, tr₁, hT, -, hk⟩
    · exact ⟨q, .refl⟩
    · obtain ⟨q₁, hnext, hm⟩ := hm r s₁ d₁ hT
      obtain ⟨q', hsteps⟩ := ih r s₁ hk hm
      rcases hnext with hnext | ⟨rfl, rfl⟩
      · exact ⟨q', .head hnext hsteps⟩
      · exact ⟨q', hsteps⟩

theorem Exec.follows {m : Prog S σ α} {Q : α → σ → A → D → Prop} {q : A} {d d' : D}
    {tr : List (Event S D)} {a : α} {s' : σ} (h : m.Exec T d tr a s' d')
    (hm : m.Follows T next Q q d) : ∃ q', Steps next (q, d) (q', d') ∧ Q a s' q' d' := by
  induction m generalizing q d tr with
  | ret a s =>
    obtain ⟨-, rfl, rfl, rfl⟩ := h
    exact ⟨q, .refl, hm⟩
  | call c s k ih =>
    obtain ⟨r, s₁, d₁, tr₁, hT, -, hk⟩ := h
    obtain ⟨q₁, hnext, hm⟩ := hm r s₁ d₁ hT
    obtain ⟨q', hsteps, hQ⟩ := ih r s₁ hk hm
    rcases hnext with hnext | ⟨rfl, rfl⟩
    · exact ⟨q', .head hnext hsteps, hQ⟩
    · exact ⟨q', hsteps, hQ⟩

/-- What every step keeps holds along a path. -/
theorem Steps.keeps {I : A → D → Prop} (hstep : ∀ q d q' d', I q d → next q d q' d' → I q' d')
    {x y : A × D} (h : Steps next x y) (hx : I x.1 x.2) : I y.1 y.2 := by
  induction h with
  | refl => exact hx
  | tail _ hnext ih => exact hstep _ _ _ _ ih hnext

/-! ## Keeping an invariant -/

section Maintains

variable {T : Machine S σ W} {I : σ → W → Prop}

/-- The memory at the root of a program: as the next call finds it, or as it returns. -/
def memory : Prog S σ α → σ
  | ret _ s => s
  | call _ s _ => s

/-- Memory and world satisfy `I` at every call, and `Q` at the end. -/
def Maintains (T : Machine S σ W) (I : σ → W → Prop) (Q : α → σ → W → Prop) :
    Prog S σ α → W → Prop
  | ret a s, w => Q a s w
  | call c s k, w => I s w ∧ ∀ r s₁ w₁, T s w c r s₁ w₁ → (k r s₁).Maintains T I Q w₁

theorem Maintains.mono {Q Q' : α → σ → W → Prop} (hQ : ∀ a s w, Q a s w → Q' a s w)
    {m : Prog S σ α} {w : W} (h : m.Maintains T I Q w) : m.Maintains T I Q' w := by
  induction m generalizing w with
  | ret a s => exact hQ a s w h
  | call c s k ih => exact ⟨h.1, fun r s₁ w₁ hT => ih r s₁ (h.2 r s₁ w₁ hT)⟩

/-- The sequencing rule. -/
theorem Maintains.bind {m : Prog S σ α} {f : α → σ → Prog S σ β} {Q : β → σ → W → Prop} {w : W}
    (h : m.Maintains T I (fun a s w => (f a s).Maintains T I Q w) w) :
    (m.bind f).Maintains T I Q w := by
  induction m generalizing w with
  | ret a s => exact h
  | call c s k ih => exact ⟨h.1, fun r s₁ w₁ hT => ih r s₁ (h.2 r s₁ w₁ hT)⟩

/-- What holds of every run holds at the end. -/
theorem Maintains.and_wp {m : Prog S σ α} {Q : α → σ → W → Prop} {R : α → σ → W → Prop} {w : W}
    (h : m.Maintains T I R w) (hwp : m.wp T (fun _ a s w' => Q a s w') w) :
    m.Maintains T I (fun a s w => R a s w ∧ Q a s w) w := by
  induction m generalizing w with
  | ret a s => exact ⟨h, hwp⟩
  | call c s k ih =>
    exact ⟨h.1, fun r s₁ w₁ hT => ih r s₁ (h.2 r s₁ w₁ hT) (hwp r s₁ w₁ hT)⟩

/-- Right now, when the end satisfies the invariant too. -/
theorem Maintains.now {m : Prog S σ α} {Q : α → σ → W → Prop} {w : W} (h : m.Maintains T I Q w)
    (hQ : ∀ a s w, Q a s w → I s w) : I m.memory w := by
  cases m with
  | ret a s => exact hQ a s w h
  | call c s k => exact h.1

/-- A call changes no memory that satisfies `P`. -/
def Steady (P : σ → Prop) : Prog S σ α → Prop
  | ret _ _ => True
  | call _ s k => ∀ r, (P s → (k r s).memory = s) ∧ (k r s).Steady P

end Maintains

end Prog

end SystemSettings

import SystemSettings.Program

/-!
# What has been done before a call

A library for programs in which the order of the calls matters: something is done only
after everything it needs, or only once.

* `Prog.Guarded` is a program logic over the history of a run, the calls so far with their
  answers: each call satisfies a guard on what has been done before it, and the end a
  condition on all that has been done.
* `Guarded.yields` and `Guarded.before` connect it to the runs of the program.
-/

namespace SystemSettings

/-- The calls so far with their answers, the first one first. -/
abbrev History (S : Signature) : Type := List (Event S Unit)

/-- A call with its answer. -/
abbrev Event.of {S : Signature} (c : S.Cmd) (r : S.Resp c) : Event S Unit := ⟨c, r, ()⟩

namespace Prog

variable {S : Signature} {σ α β : Type} {guard : History S → S.Cmd → σ → Prop}
  {Q Q' : History S → α → σ → Prop} {m : Prog S σ α} {past : History S}

/-- Every call satisfies `guard` after what has been done before it, and the end `Q`. -/
def Guarded (guard : History S → S.Cmd → σ → Prop) :
    Prog S σ α → (History S → α → σ → Prop) → History S → Prop
  | ret a s, Q, past => Q past a s
  | call c s k, Q, past => guard past c s ∧
      ∀ r, (k r s).Guarded guard Q (past ++ [.of c r])

@[simp] theorem guarded_ret {a : α} {s : σ} :
    (ret a s : Prog S σ α).Guarded guard Q past ↔ Q past a s := Iff.rfl

@[simp] theorem guarded_call {c : S.Cmd} {s : σ} {k : S.Resp c → σ → Prog S σ α} :
    (call c s k).Guarded guard Q past ↔
      guard past c s ∧ ∀ r, (k r s).Guarded guard Q (past ++ [.of c r]) := Iff.rfl

theorem Guarded.mono (h : m.Guarded guard Q past) (hQ : ∀ past a s, Q past a s → Q' past a s) :
    m.Guarded guard Q' past := by
  induction m generalizing past with
  | ret a s => exact hQ past a s h
  | call c s k ih => exact ⟨h.1, fun r => ih r s (h.2 r)⟩

/-- The sequencing rule. -/
theorem Guarded.bind {f : α → σ → Prog S σ β} {R : History S → β → σ → Prop}
    (h : m.Guarded guard Q past)
    (hf : ∀ past a s, Q past a s → (f a s).Guarded guard R past) :
    (m.bind f).Guarded guard R past := by
  induction m generalizing past with
  | ret a s => exact hf past a s h
  | call c s k ih => exact ⟨h.1, fun r => ih r s (h.2 r)⟩

/-- A call is made after all that has been done before. -/
theorem Guarded.weaken {guard' : History S → S.Cmd → σ → Prop} (h : m.Guarded guard Q past)
    (hguard : ∀ later c s, past <+: later → guard later c s → guard' later c s) :
    m.Guarded guard' Q past := by
  have hgeneral : ∀ base, base <+: past →
      (∀ later c s, base <+: later → guard later c s → guard' later c s) →
      m.Guarded guard' Q past := by
    clear hguard
    intro base hbase hguard
    induction m generalizing past with
    | ret a s => exact h
    | call c s k ih =>
      refine ⟨hguard past c s hbase h.1, fun r => ih r s (h.2 r) ?_⟩
      exact hbase.trans (List.prefix_append past _)
  exact hgeneral past (List.prefix_refl past) hguard

/-- The end is that of a run. -/
theorem Guarded.and_yields (h : m.Guarded guard Q past) :
    m.Guarded guard (fun later a s => Q later a s ∧ ∃ tr, later = past ++ tr ∧ m.Yields tr a s)
      past := by
  induction m generalizing past with
  | ret a s => exact ⟨h, [], (List.append_nil past).symm, rfl, rfl, rfl⟩
  | call c s k ih =>
    refine ⟨h.1, fun r => (ih r s (h.2 r)).mono ?_⟩
    rintro later a s' ⟨hQ, tr, rfl, hy⟩
    exact ⟨hQ, .of c r :: tr, List.append_assoc .., r, (), tr, rfl, hy⟩

/-- What holds in the end of every run. -/
theorem Guarded.yields (h : m.Guarded guard Q past) {tr : History S} {a : α} {s' : σ}
    (hy : m.Yields tr a s') : Q (past ++ tr) a s' := by
  induction m generalizing past tr with
  | ret a s =>
    obtain ⟨rfl, rfl, rfl⟩ := hy
    rw [List.append_nil]
    exact h
  | call c s k ih =>
    obtain ⟨r, w, tr, rfl, hk⟩ := hy
    have hrest := ih r s (h.2 r) hk
    rwa [List.append_assoc] at hrest

/-- What holds of every call of a run. -/
theorem Guarded.before (h : m.Guarded guard Q past) {before after : History S}
    {e : Event S Unit} {a : α} {s' : σ} (hy : m.Yields (before ++ e :: after) a s') :
    ∃ s, guard (past ++ before) e.cmd s := by
  induction m generalizing past before with
  | ret a s =>
    obtain ⟨hnil, -, -⟩ := hy
    cases before <;> cases hnil
  | call c s k ih =>
    obtain ⟨r, w, tr, htr, hk⟩ := hy
    cases before with
    | nil =>
      obtain ⟨rfl, -⟩ := List.cons_eq_cons.mp htr
      rw [List.append_nil]
      exact ⟨s, h.1⟩
    | cons first before =>
      obtain ⟨rfl, rfl⟩ := List.cons_eq_cons.mp htr
      obtain ⟨s, hguard⟩ := ih r s (h.2 r) hk
      rw [List.append_assoc] at hguard
      exact ⟨s, hguard⟩

/-- What holds of every call that a run can get to, with the memory that it finds. -/
theorem Guarded.calls (h : m.Guarded guard Q past) {c : S.Cmd} {s : σ} (hc : m.Calls c s) :
    ∃ before, guard (past ++ before) c s := by
  induction m generalizing past with
  | ret a s => exact hc.elim
  | call c₀ s₀ k ih =>
    rcases hc with ⟨rfl, rfl⟩ | ⟨r, hc⟩
    · refine ⟨[], ?_⟩
      rw [List.append_nil]
      exact h.1
    · obtain ⟨before, hguard⟩ := ih r s₀ (h.2 r) hc
      rw [List.append_assoc] at hguard
      exact ⟨_, hguard⟩

/-- A program that may be answered as told has such a run. -/
theorem Under.exists_yields {asks : S.Cmd → Prop} {told : (c : S.Cmd) → S.Resp c → Prop}
    {R : α → σ → Prop} (h : m.Under asks told R) (htold : ∀ c, ∃ r, told c r) :
    ∃ (tr : History S) (a : α) (s' : σ), m.Yields tr a s' ∧
      (∀ e ∈ tr, told e.cmd e.resp) ∧ R a s' := by
  induction m with
  | ret a s => exact ⟨[], a, s, ⟨rfl, rfl, rfl⟩, by simp, h⟩
  | call c s k ih =>
    obtain ⟨r, hr⟩ := htold c
    obtain ⟨tr, a, s', hy, htr, hR⟩ := ih r s (h.2 r hr)
    exact ⟨.of c r :: tr, a, s', ⟨r, (), tr, rfl, hy⟩, List.forall_mem_cons.mpr ⟨hr, htr⟩, hR⟩

end Prog

end SystemSettings

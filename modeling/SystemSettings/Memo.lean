import Mathlib.Data.List.Induction

/-!
# Remembering one result

A library for caches of a single entry. `Memo` keeps the last argument on which
a partial function had a value, with that value; `Display` keeps only the
argument, and relies on a label that already shows the value.

The first is always right. The second is right as long as nothing else was
shown in between.
-/

namespace SystemSettings

variable {κ ν τ : Type*} [DecidableEq κ]

/-! ## An argument and its value -/

/-- The last argument that had a value, and that value. -/
abbrev Memo (κ ν : Type*) : Type _ := Option (κ × ν)

namespace Memo

/-- What is remembered is a value of `f`. -/
def Sound (f : κ → Option ν) (m : Memo κ ν) : Prop := ∀ k v, m = some (k, v) → f k = some v

/-- The value remembered for `k`. -/
def hit (m : Memo κ ν) (k : κ) : Option ν :=
  match m with
  | some (k', v) => if k' = k then some v else none
  | none => none

/-- The value at `k`, from memory if it is there; only a value is remembered. -/
def fetch (f : κ → Option ν) (m : Memo κ ν) (k : κ) : Option ν × Memo κ ν :=
  match m.hit k with
  | some v => (some v, m)
  | none =>
    match f k with
    | some v => (some v, some (k, v))
    | none => (none, m)

omit [DecidableEq κ] in
theorem Sound.none (f : κ → Option ν) : Sound f (none : Memo κ ν) := nofun

theorem Sound.hit {f : κ → Option ν} {m : Memo κ ν} (h : m.Sound f) {k : κ} {v : ν}
    (hhit : m.hit k = some v) : f k = some v := by
  cases m with
  | none => cases hhit
  | some entry =>
    obtain ⟨k', v'⟩ := entry
    simp only [Memo.hit] at hhit
    split at hhit
    · next hkey =>
      cases hhit
      exact hkey ▸ h k' _ rfl
    · cases hhit

/-- A memory of `f` answers as `f` does. -/
theorem Sound.fetch_fst {f : κ → Option ν} {m : Memo κ ν} (h : m.Sound f) (k : κ) :
    (fetch f m k).1 = f k := by
  simp only [fetch]
  cases hhit : m.hit k with
  | some v => exact (h.hit hhit).symm
  | none => cases hvalue : f k <;> rfl

/-- And stays one. -/
theorem Sound.fetch_snd {f : κ → Option ν} {m : Memo κ ν} (h : m.Sound f) (k : κ) :
    (fetch f m k).2.Sound f := by
  simp only [fetch]
  cases hhit : m.hit k with
  | some v => exact h
  | none =>
    cases hvalue : f k with
    | some v =>
      rintro k' v' ⟨⟩
      exact hvalue
    | none => exact h

end Memo

/-! ## An argument alone -/

/-- A label and the last argument that was shown on it and is worth remembering. -/
structure Display (κ τ : Type*) where
  label : τ
  key : Option κ

namespace Display

variable (render : κ → τ) (kept : κ → Bool)

/-- Shows `k`, unless it is the argument remembered. -/
def refresh (d : Display κ τ) (k : κ) : Display κ τ :=
  if d.key = some k then d
  else ⟨render k, if kept k then some k else d.key⟩

/-- Shows one argument after the other. -/
def run (d : Display κ τ) (ks : List κ) : Display κ τ := ks.foldl (refresh render kept) d

/-- The last argument that is worth remembering. -/
def lastKept (kept : κ → Bool) (ks : List κ) : Option κ := (ks.filter kept).getLast?

/-- An argument that is not remembered is shown between two showings of one that is. -/
def ReturnsAfterFailure (ks : List κ) : Prop :=
  ∃ pre j k post, ks = pre ++ j :: k :: post ∧ kept j = false ∧ lastKept kept pre = some k ∧
    render j ≠ render k

@[simp] theorem run_nil (d : Display κ τ) : d.run render kept [] = d := rfl

@[simp] theorem run_append_singleton (d : Display κ τ) (ks : List κ) (k : κ) :
    d.run render kept (ks ++ [k]) = (d.run render kept ks).refresh render kept k := by
  simp [run]

omit [DecidableEq κ] in
theorem lastKept_append_singleton (ks : List κ) (k : κ) :
    lastKept kept (ks ++ [k]) = if kept k then some k else lastKept kept ks := by
  cases hkept : kept k <;> simp [lastKept, hkept]

/-- What is remembered depends on the arguments only. -/
theorem run_key {d : Display κ τ} (hd : d.key = none) (ks : List κ) :
    (d.run render kept ks).key = lastKept kept ks := by
  induction ks using List.reverseRecOn with
  | nil => exact hd
  | append_singleton ks k ih =>
    rw [run_append_singleton, lastKept_append_singleton, refresh]
    split
    · next hkey =>
      rw [hkey, ← ih, hkey, ite_self]
    · rw [ih]

/-- The label is right after a showing that follows a right one, unless it
returns to what is remembered after a failure. -/
theorem label_refresh {d : Display κ τ} (hd : d.key = none) {pre : List κ} {j k : κ}
    (hlabel : (d.run render kept (pre ++ [j])).label = render j)
    (hreturn : kept j = false → lastKept kept pre = some k → render j = render k) :
    (d.run render kept (pre ++ [j, k])).label = render k := by
  have hkey := run_key render kept hd (pre ++ [j])
  have hlist : pre ++ [j, k] = (pre ++ [j]) ++ [k] := by simp
  rw [hlist, run_append_singleton, refresh]
  split
  · next hhit =>
    rw [hkey, lastKept_append_singleton] at hhit
    rw [hlabel]
    cases hkept : kept j with
    | true =>
      rw [hkept, if_pos rfl] at hhit
      exact congrArg render (Option.some.inj hhit)
    | false =>
      rw [hkept] at hhit
      exact hreturn hkept hhit
  · rfl

/-- Every showing is right exactly when none returns to what is remembered after a failure. -/
theorem label_iff {d : Display κ τ} (hd : d.key = none) (ks : List κ) :
    (∀ pre k post, ks = pre ++ k :: post → (d.run render kept (pre ++ [k])).label = render k) ↔
      ¬ ReturnsAfterFailure render kept ks := by
  constructor
  · rintro hlabel ⟨pre, j, k, post, rfl, hfailed, hlast, hdiffer⟩
    have hj := hlabel pre j (k :: post) rfl
    have hk := hlabel (pre ++ [j]) k post (by simp)
    have hhit : (d.run render kept (pre ++ [j])).key = some k := by
      rw [run_key render kept hd, lastKept_append_singleton, hfailed]
      exact hlast
    rw [run_append_singleton, refresh, if_pos hhit, hj] at hk
    exact hdiffer hk
  · intro hreturns pre
    induction pre using List.reverseRecOn with
    | nil =>
      rintro k post -
      simp [run, refresh, hd]
    | append_singleton pre j ih =>
      intro k post hks
      have hj := ih j (k :: post) (by rw [hks]; simp)
      rw [List.append_assoc]
      refine label_refresh render kept hd hj fun hfailed hlast => ?_
      by_contra hdiffer
      exact hreturns ⟨pre, j, k, post, by rw [hks]; simp, hfailed, hlast, hdiffer⟩

end Display

end SystemSettings

import Mathlib.Data.List.MinMax
import Mathlib.Data.List.TakeWhile

/-!
# Tables of text

A library for rows of separated fields: splitting a list a bounded number of times, and
the first of the rows with the least score.
-/

namespace SystemSettings

/-! ## Bounded splitting -/

section Split

variable {α : Type*} [DecidableEq α]

/-- The pieces before the first `splits` delimiters, and what is left after them. -/
def splitAtMost (delimiter : α) : ℕ → List α → List (List α)
  | 0, text => [text]
  | splits + 1, text =>
    match text.dropWhile (· ≠ delimiter) with
    | [] => [text]
    | _ :: rest => text.takeWhile (· ≠ delimiter) :: splitAtMost delimiter splits rest

/-- Stopping early does not change the pieces before. -/
theorem take_splitAtMost (delimiter : α) (splits : ℕ) (text : List α) :
    (splitAtMost delimiter splits text).take splits = (text.splitOn delimiter).take splits := by
  induction splits generalizing text with
  | zero => rfl
  | succ splits ih =>
    have hbefore : delimiter ∉ text.takeWhile (· ≠ delimiter) := fun hmem => by
      simpa using List.mem_takeWhile_imp hmem
    have htext : text.takeWhile (· ≠ delimiter) ++ text.dropWhile (· ≠ delimiter) = text :=
      List.takeWhile_append_dropWhile
    rw [splitAtMost]
    cases hrest : text.dropWhile (· ≠ delimiter) with
    | nil =>
      rw [hrest, List.append_nil] at htext
      rw [htext] at hbefore
      rw [List.splitOn_eq_singleton hbefore]
    | cons first rest =>
      have hfirst : first = delimiter := by
        have hnot := List.head?_dropWhile_not (· ≠ delimiter) text
        rw [hrest] at hnot
        simpa using hnot
      rw [hrest, hfirst] at htext
      conv_rhs => rw [← htext]
      rw [List.splitOn_append_cons_self, List.splitOn_eq_singleton hbefore, List.singleton_append,
        List.take_succ_cons, List.take_succ_cons, ih]

end Split

/-! ## The first least element -/

section FirstLeast

variable {α β : Type*} [LinearOrder β] {f : α → β}

/-- `List.argmin` is the first of the elements with the least image. -/
theorem argmin_eq_some_iff_first {l : List α} {m : α} :
    l.argmin f = some m ↔ ∃ before after, l = before ++ m :: after ∧
      (∀ a ∈ before, f m < f a) ∧ ∀ a ∈ after, f m ≤ f a := by
  constructor
  · induction l using List.reverseRecOn generalizing m with
    | nil => exact fun h => absurd h.symm (Option.some_ne_none m)
    | append_singleton l a ih =>
      intro h
      rw [List.argmin_concat] at h
      cases hl : l.argmin f with
      | none =>
        rw [hl] at h
        rw [List.argmin_eq_none.mp hl, ← Option.some.inj h]
        exact ⟨[], [], rfl, fun _ h => (List.not_mem_nil h).elim, fun _ h =>
          (List.not_mem_nil h).elim⟩
      | some c =>
        rw [hl] at h
        dsimp only at h
        split at h
        · next hlt =>
          rw [← Option.some.inj h]
          exact ⟨l, [], rfl, fun x hx => hlt.trans_le (List.le_of_mem_argmin hx hl), fun _ h =>
            (List.not_mem_nil h).elim⟩
        · next hle =>
          obtain ⟨before, after, rfl, hbefore, hafter⟩ := ih (hl.trans h)
          refine ⟨before, after ++ [a], by rw [List.append_assoc]; rfl, hbefore, fun x hx => ?_⟩
          rcases List.mem_append.mp hx with hx | hx
          · exact hafter x hx
          · rw [List.mem_singleton.mp hx, ← Option.some.inj h]
            exact le_of_not_gt hle
  · rintro ⟨before, after, rfl, hbefore, hafter⟩
    induction after using List.reverseRecOn with
    | nil =>
      rw [List.argmin_concat]
      cases hl : before.argmin f with
      | none => rfl
      | some c => exact if_pos (hbefore c (List.argmin_mem hl))
    | append_singleton after a ih =>
      have hlast : f m ≤ f a := hafter a (by simp)
      rw [← List.cons_append, ← List.append_assoc, List.argmin_concat,
        ih fun x hx => hafter x (List.mem_append_left _ hx)]
      exact if_neg (not_lt_of_ge hlast)

/-- The first of the rows that say something with the least image. -/
theorem argmin_filterMap_eq_some_iff {γ : Type*} {g : γ → Option α} {rows : List γ} {m : α} :
    (rows.filterMap g).argmin f = some m ↔
      ∃ before row after, rows = before ++ row :: after ∧ g row = some m ∧
        (∀ other ∈ before, ∀ a, g other = some a → f m < f a) ∧
        ∀ other ∈ after, ∀ a, g other = some a → f m ≤ f a := by
  rw [argmin_eq_some_iff_first]
  constructor
  · rintro ⟨said, later, hsaid, hbefore, hafter⟩
    obtain ⟨before, rest, rfl, rfl, hrest⟩ := List.filterMap_eq_append_iff.mp hsaid
    obtain ⟨silent, row, after, rfl, hsilent, hrow, rfl⟩ := List.filterMap_eq_cons_iff.mp hrest
    refine ⟨before ++ silent, row, after, by rw [List.append_assoc], hrow, ?_, ?_⟩
    · intro other hother a ha
      rcases List.mem_append.mp hother with hmem | hmem
      · exact hbefore a (List.mem_filterMap.mpr ⟨other, hmem, ha⟩)
      · rw [hsilent other hmem] at ha
        exact absurd ha.symm (Option.some_ne_none a)
    · exact fun other hother a ha => hafter a (List.mem_filterMap.mpr ⟨other, hother, ha⟩)
  · rintro ⟨before, row, after, rfl, hrow, hbefore, hafter⟩
    refine ⟨before.filterMap g, after.filterMap g, ?_, fun a ha => ?_, fun a ha => ?_⟩
    · rw [List.filterMap_append, List.filterMap_cons_some hrow]
    · obtain ⟨other, hother, hsays⟩ := List.mem_filterMap.mp ha
      exact hbefore other hother a hsays
    · obtain ⟨other, hother, hsays⟩ := List.mem_filterMap.mp ha
      exact hafter other hother a hsays

end FirstLeast

end SystemSettings

import Mathlib.Data.List.Basic
import Mathlib.Order.Defs.LinearOrder

/-!
# Timeouts of a main loop

A library for code that arms one-shot timeouts and keeps the identifier of the
one it waits for, with 0 for none. The loop hands out identifiers that are not in
use; a timeout that is due is dispatched and then removed.
-/

namespace SystemSettings

/-- An armed timeout. -/
structure Timeout : Type where
  /-- its identifier -/
  id : ℕ
  /-- the delay it was armed with -/
  delay : ℕ
  deriving DecidableEq

/-- The timeouts of a main loop. Identifiers are positive and not used twice. -/
structure Timeouts : Type where
  /-- the next identifier -/
  next : ℕ
  /-- the armed timeouts -/
  pending : List Timeout
  /-- 0 is no identifier -/
  next_pos : 0 < next
  /-- identifiers have been handed out -/
  fresh : ∀ timeout ∈ pending, 0 < timeout.id ∧ timeout.id < next

namespace Timeouts

/-- No timeout is armed. -/
def none : Timeouts := ⟨1, [], Nat.one_pos, by simp⟩

/-- Arm a timeout, whose identifier is `next`. -/
def add (timeouts : Timeouts) (delay : ℕ) : Timeouts where
  next := timeouts.next + 1
  pending := timeouts.pending ++ [⟨timeouts.next, delay⟩]
  next_pos := Nat.succ_pos _
  fresh := by
    intro timeout htimeout
    rcases List.mem_append.mp htimeout with htimeout | htimeout
    · have hfresh := timeouts.fresh timeout htimeout
      exact ⟨hfresh.1, Nat.lt_succ_of_lt hfresh.2⟩
    · obtain rfl := List.mem_singleton.mp htimeout
      exact ⟨timeouts.next_pos, Nat.lt_succ_self _⟩

/-- Disarm a timeout. -/
def remove (timeouts : Timeouts) (id : ℕ) : Timeouts where
  next := timeouts.next
  pending := timeouts.pending.filter fun timeout => timeout.id ≠ id
  next_pos := timeouts.next_pos
  fresh := fun timeout htimeout => timeouts.fresh timeout (List.mem_filter.mp htimeout).1

@[simp] theorem pending_none : Timeouts.none.pending = [] := rfl

@[simp] theorem pending_add (timeouts : Timeouts) (delay : ℕ) :
    (timeouts.add delay).pending = timeouts.pending ++ [⟨timeouts.next, delay⟩] := rfl

/-- The identifier `id` stands for the one armed timeout; 0 stands for none. The
delay is in `delays`. -/
def Tracks (timeouts : Timeouts) (id : ℕ) (delays : ℕ → Prop) : Prop :=
  id = 0 ∧ timeouts.pending = [] ∨
    id ≠ 0 ∧ ∃ delay, timeouts.pending = [⟨id, delay⟩] ∧ delays delay

variable {timeouts : Timeouts} {id : ℕ} {delays delays' : ℕ → Prop}

theorem tracks_none : Timeouts.none.Tracks 0 delays := .inl ⟨rfl, rfl⟩

theorem Tracks.pending_eq_nil (h : timeouts.Tracks 0 delays) : timeouts.pending = [] := by
  obtain ⟨-, hpending⟩ | ⟨hne, -⟩ := h
  · exact hpending
  · exact absurd rfl hne

theorem Tracks.pending_ne_nil (h : timeouts.Tracks id delays) (hid : id ≠ 0) :
    timeouts.pending ≠ [] := by
  obtain ⟨hzero, -⟩ | ⟨-, delay, hpending, -⟩ := h
  · exact absurd hzero hid
  · simp [hpending]

theorem Tracks.length_le_one (h : timeouts.Tracks id delays) : timeouts.pending.length ≤ 1 := by
  obtain ⟨-, hpending⟩ | ⟨-, delay, hpending, -⟩ := h
  · simp [hpending]
  · simp [hpending]

theorem Tracks.of_mem (h : timeouts.Tracks id delays) {timeout : Timeout}
    (htimeout : timeout ∈ timeouts.pending) : timeout.id = id ∧ delays timeout.delay := by
  obtain ⟨-, hpending⟩ | ⟨-, delay, hpending, hdelay⟩ := h
  · simp [hpending] at htimeout
  · rw [hpending, List.mem_singleton] at htimeout
    exact htimeout ▸ ⟨rfl, hdelay⟩

/-- A timeout of one delay is armed exactly while something is shown. -/
theorem Tracks.map_delay {delay : ℕ} {shown : Bool} (h : timeouts.Tracks id (· = delay))
    (hid : id ≠ 0 ↔ shown = true) :
    timeouts.pending.map Timeout.delay = if shown then [delay] else [] := by
  obtain ⟨hzero, hpending⟩ | ⟨hne, _, hpending, rfl⟩ := h
  · rw [hpending, if_neg fun hshown => hid.mpr hshown hzero, List.map_nil]
  · rw [hpending, if_pos (hid.mp hne), List.map_singleton]

/-- A timeout is armed while there is none. -/
theorem Tracks.add (h : timeouts.Tracks 0 delays) {delay : ℕ} (hdelay : delays delay) :
    (timeouts.add delay).Tracks timeouts.next delays := by
  obtain ⟨-, hpending⟩ | ⟨hne, -⟩ := h
  · exact .inr ⟨Nat.ne_of_gt timeouts.next_pos, delay, by simp [hpending], hdelay⟩
  · exact absurd rfl hne

/-- The timeout that is waited for is disarmed. -/
theorem Tracks.remove (h : timeouts.Tracks id delays) :
    (timeouts.remove id).Tracks 0 delays' := by
  refine .inl ⟨rfl, ?_⟩
  obtain ⟨-, hpending⟩ | ⟨-, delay, hpending, -⟩ := h
  · simp [Timeouts.remove, hpending]
  · simp [Timeouts.remove, hpending]

/-- A timeout that is due arms the next one before it is removed. -/
theorem Tracks.add_remove (h : timeouts.Tracks id delays) {delay : ℕ} (hdelay : delays' delay) :
    ((timeouts.add delay).remove id).Tracks timeouts.next delays' := by
  refine .inr ⟨Nat.ne_of_gt timeouts.next_pos, delay, ?_, hdelay⟩
  obtain ⟨rfl, hpending⟩ | ⟨-, delay', hpending, -⟩ := h
  · simp [Timeouts.remove, hpending, Nat.ne_of_gt timeouts.next_pos]
  · have hlt := (timeouts.fresh ⟨id, delay'⟩ (by simp [hpending])).2
    simp [Timeouts.remove, hpending, Nat.ne_of_gt hlt]

end Timeouts

end SystemSettings

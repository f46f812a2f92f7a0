import Mathlib.Algebra.Group.Nat.Defs
import Mathlib.Tactic.ByContra

/-!
# The civil calendar

A library for wall times: a date of the Gregorian calendar and a time of the day, the
seconds from the epoch to it, and what a clock in a zone with changing offsets shows.
A wall time stands for one second on a clock without offset, and a zone shows one wall
time at a time. It may show a wall time never, once or twice.
-/

namespace SystemSettings

/-! ## Consecutive blocks -/

/-- Blocks that follow each other without a gap. -/
def Consecutive (start length : ℕ → ℕ) : Prop := ∀ n, start (n + 1) = start n + length n

theorem Consecutive.le {start length : ℕ → ℕ} (h : Consecutive start length) {m n : ℕ}
    (hmn : m < n) : start m + length m ≤ start n := by
  induction n with
  | zero => exact absurd hmn (Nat.not_lt_zero m)
  | succ n ih =>
    have hnext := h n
    rcases Nat.lt_succ_iff_lt_or_eq.mp hmn with hlt | rfl
    · have hbefore := ih hlt
      omega
    · omega

/-- A position says the block it is in, and its place there. -/
theorem Consecutive.unique {start length : ℕ → ℕ} (h : Consecutive start length)
    {m n i j : ℕ} (hi : i < length m) (hj : j < length n) (heq : start m + i = start n + j) :
    m = n ∧ i = j := by
  rcases Nat.lt_trichotomy m n with hlt | rfl | hlt
  · have hle := h.le hlt
    omega
  · exact ⟨rfl, by omega⟩
  · have hle := h.le hlt
    omega

/-! ## Years and months -/

/-- A leap year of the Gregorian calendar. -/
def isLeap (year : ℕ) : Bool := year % 4 = 0 && (year % 100 ≠ 0 || year % 400 = 0)

/-- The days of a month; 0 where there is none. -/
def daysInMonth (year month : ℕ) : ℕ :=
  if month = 0 ∨ 12 < month then 0
  else if month = 2 then if isLeap year then 29 else 28
  else if month = 4 ∨ month = 6 ∨ month = 9 ∨ month = 11 then 30
  else 31

/-- The days of a year before a month. -/
def daysBeforeMonth (year : ℕ) : ℕ → ℕ
  | 0 => 0
  | month + 1 => daysBeforeMonth year month + daysInMonth year month

def daysInYear (year : ℕ) : ℕ := if isLeap year then 366 else 365

/-- The days from the year 0 to a year. -/
def daysBeforeYear (year : ℕ) : ℕ :=
  365 * year + (year + 3) / 4 - (year + 99) / 100 + (year + 399) / 400

theorem consecutive_months (year : ℕ) : Consecutive (daysBeforeMonth year) (daysInMonth year) :=
  fun _ => rfl

/-- How often a period has begun before the next year. -/
theorem periods_succ {period : ℕ} (year : ℕ) (h : 0 < period) :
    (year + 1 + (period - 1)) / period =
      (year + (period - 1)) / period + if year % period = 0 then 1 else 0 := by
  have hnext : year + 1 + (period - 1) = year + (period - 1) + 1 := by omega
  have hdvd : period ∣ year + (period - 1) + 1 ↔ year % period = 0 := by
    rw [show year + (period - 1) + 1 = year + period by omega, Nat.dvd_iff_mod_eq_zero,
      Nat.add_mod_right]
  rw [hnext]
  by_cases hbegins : year % period = 0
  · rw [Nat.succ_div_of_dvd (hdvd.mpr hbegins), if_pos hbegins]
  · rw [Nat.succ_div_of_not_dvd (mt hdvd.mp hbegins), if_neg hbegins, Nat.add_zero]

theorem daysBeforeYear_succ (year : ℕ) :
    daysBeforeYear (year + 1) = daysBeforeYear year + daysInYear year := by
  have hfour : (year + 1 + 3) / 4 = (year + 3) / 4 + if year % 4 = 0 then 1 else 0 :=
    periods_succ year (Nat.succ_pos _)
  have hcentury : (year + 1 + 99) / 100 = (year + 99) / 100 + if year % 100 = 0 then 1 else 0 :=
    periods_succ year (Nat.succ_pos _)
  have hcycle : (year + 1 + 399) / 400 = (year + 399) / 400 + if year % 400 = 0 then 1 else 0 :=
    periods_succ year (Nat.succ_pos _)
  have hle : (year + 99) / 100 ≤ year := by omega
  have hcenturies : year % 100 = 0 → year % 4 = 0 := by omega
  have hcycles : year % 400 = 0 → year % 100 = 0 := by omega
  simp only [daysBeforeYear, hfour, hcentury, hcycle, daysInYear, isLeap, Bool.and_eq_true,
    Bool.or_eq_true, decide_eq_true_eq]
  generalize (year + 3) / 4 = fours
  generalize (year + 99) / 100 = centuries at hle ⊢
  generalize (year + 399) / 400 = cycles
  by_cases hfour : year % 4 = 0
  · by_cases hcentury : year % 100 = 0
    · by_cases hcycle : year % 400 = 0
      · simp only [hfour, hcentury, hcycle, if_true, ne_eq, not_true_eq_false, false_or, and_self]
        omega
      · simp only [hfour, hcentury, hcycle, if_true, if_false, ne_eq, not_true_eq_false,
          or_self, and_false]
        omega
    · have hcycle : year % 400 ≠ 0 := fun h => hcentury (hcycles h)
      simp only [hfour, hcentury, hcycle, if_true, if_false, ne_eq, not_false_eq_true,
        true_or, and_self]
      omega
  · have hcentury : year % 100 ≠ 0 := fun h => hfour (hcenturies h)
    have hcycle : year % 400 ≠ 0 := fun h => hcentury (hcycles h)
    simp only [hfour, hcentury, hcycle, if_false, false_and]
    omega

theorem consecutive_years : Consecutive daysBeforeYear daysInYear := daysBeforeYear_succ

/-- A year has as many days as its months. -/
theorem daysBeforeMonth_thirteen (year : ℕ) : daysBeforeMonth year 13 = daysInYear year := by
  simp only [daysBeforeMonth, daysInMonth, daysInYear]
  cases isLeap year <;> rfl

/-! ## Wall times -/

/-- What a clock on the wall shows. -/
structure WallTime : Type where
  year : ℕ
  month : ℕ
  day : ℕ
  hour : ℕ
  minute : ℕ
  second : ℕ
  deriving DecidableEq

/-- A date of the calendar and a time of the day. -/
structure WallTime.Real (wall : WallTime) : Prop where
  month : 1 ≤ wall.month
  day : 1 ≤ wall.day ∧ wall.day ≤ daysInMonth wall.year wall.month
  hour : wall.hour < 24
  minute : wall.minute < 60
  second : wall.second < 60

/-- The days from the year 0. -/
def WallTime.dayNumber (wall : WallTime) : ℕ :=
  daysBeforeYear wall.year + (daysBeforeMonth wall.year wall.month + (wall.day - 1))

/-- The seconds of the day. -/
def WallTime.secondOfDay (wall : WallTime) : ℕ :=
  wall.hour * 3600 + wall.minute * 60 + wall.second

/-- The seconds from 1970-01-01 00:00:00 to a wall time, without offset. -/
def WallTime.epochSecond (wall : WallTime) : ℤ :=
  (wall.dayNumber * 86400 + wall.secondOfDay : ℤ) - 719528 * 86400

/-- The epoch, and a day of a leap year. -/
example : (WallTime.mk 1970 1 1 0 0 0).epochSecond = 0 ∧
    (WallTime.mk 2024 2 29 12 0 0).epochSecond = 1709208000 := by decide +kernel

theorem daysInMonth_pos {year month : ℕ} (h : 0 < daysInMonth year month) :
    1 ≤ month ∧ month ≤ 12 := by
  by_contra hmonth
  rw [daysInMonth, if_pos (by omega)] at h
  exact absurd h (Nat.lt_irrefl 0)

/-- A day of a month is a day of its year. -/
theorem WallTime.Real.day_lt {wall : WallTime} (h : wall.Real) :
    daysBeforeMonth wall.year wall.month + (wall.day - 1) < daysInYear wall.year := by
  have hday := h.day
  have hmonth := daysInMonth_pos (show 0 < daysInMonth wall.year wall.month by omega)
  have hle := (consecutive_months wall.year).le (show wall.month < 13 by omega)
  rw [daysBeforeMonth_thirteen] at hle
  omega

/-- A second without offset is that of one wall time. -/
theorem WallTime.Real.epochSecond_injective {wall wall' : WallTime} (h : wall.Real)
    (h' : wall'.Real) (heq : wall.epochSecond = wall'.epochSecond) : wall = wall' := by
  have hhour := h.hour
  have hminute := h.minute
  have hsecond := h.second
  have hhour' := h'.hour
  have hminute' := h'.minute
  have hsecond' := h'.second
  simp only [epochSecond, secondOfDay] at heq
  have hdays : wall.dayNumber = wall'.dayNumber := by omega
  obtain ⟨hyear, hdayOfYear⟩ := consecutive_years.unique h.day_lt h'.day_lt hdays
  have hday := h.day
  have hday' := h'.day
  rw [← hyear] at hday' hdayOfYear
  obtain ⟨hmonth, hdayOfMonth⟩ := (consecutive_months wall.year).unique
    (show wall.day - 1 < daysInMonth wall.year wall.month by omega)
    (show wall'.day - 1 < daysInMonth wall.year wall'.month by omega) hdayOfYear
  obtain ⟨year, month, day, hour, minute, second⟩ := wall
  obtain ⟨year', month', day', hour', minute', second'⟩ := wall'
  simp only at *
  simp only [WallTime.mk.injEq]
  omega

/-! ## Zones -/

/-- A clock shows a wall time at a second from the epoch. `offset` is what the zone adds to
universal time, second for second. -/
structure ZoneShows (offset : ℤ → ℤ) (instant : ℤ) (wall : WallTime) : Prop where
  real : wall.Real
  second : wall.epochSecond = instant + offset instant

/-- A clock shows one wall time at a time. -/
theorem ZoneShows.unique {offset : ℤ → ℤ} {instant : ℤ} {wall wall' : WallTime}
    (h : ZoneShows offset instant wall) (h' : ZoneShows offset instant wall') : wall = wall' :=
  h.real.epochSecond_injective h'.real (h.second.trans h'.second.symm)

end SystemSettings

import Mathlib.Algebra.Order.Field.Basic
import Mathlib.Data.Rat.Floor
import SystemSettings.CivilCalendar
import SystemSettings.ManualDraft
import SystemSettings.ManualTimeGrammar

/-!
# The typed date and time

`parse_manual_datetime`: the date text goes through shape checks and a lenient scanner,
the time text through the parser of manual time, and both through the local calendar of
GLib, which may move a wall time that the zone skips. What is accepted is a date and a
time that the zone shows, and the instant is one at which it shows them.
-/

namespace SystemSettings

/-! ## The date text -/

/-- `isspace` -/
def isSpace (b : UInt8) : Bool := b == 32 || decide (9 ≤ b.toNat) && decide (b.toNat ≤ 13)

/-- The digits of a number of at most `width` characters, and what follows. -/
def scanDigits (width : ℕ) (text : List UInt8) : Option (ℕ × List UInt8) :=
  let digits := (text.take width).takeWhile isDigit
  if digits = [] then none else some (decimalValue digits, text.drop digits.length)

/-- The conversion `%d` of `sscanf`, with a width: blanks are skipped, and a sign counts as
one of the characters. -/
def scanInt (width : ℕ) (text : List UInt8) : Option (ℤ × List UInt8) :=
  match text.dropWhile isSpace with
  | 45 :: text => (scanDigits (width - 1) text).map fun scanned => (-scanned.1, scanned.2)
  | 43 :: text => (scanDigits (width - 1) text).map fun scanned => (scanned.1, scanned.2)
  | text => (scanDigits width text).map fun scanned => (scanned.1, scanned.2)

/-- `sscanf (date_text, "%4d-%2d-%2d%c", …)`: year, month and day, when it reports three
conversions. It reports four when anything follows the day. -/
def scanDate (text : List UInt8) : Option (ℤ × ℤ × ℤ) :=
  match scanInt 4 text with
  | some (year, 45 :: text) =>
    match scanInt 2 text with
    | some (month, 45 :: text) =>
      match scanInt 2 text with
      | some (day, []) => some (year, month, day)
      | _ => none
    | _ => none
  | _ => none

/-- The checks of the date text, up to the scanner. -/
def manualDate (text : List UInt8) : Option (ℤ × ℤ × ℤ) :=
  if text.length ≠ 10 || text[4]? != some 45 || text[7]? != some 45 ||
      (text.takeWhile fun b => (bytes "0123456789-").contains b).length ≠ 10 then none
  else scanDate text

/-- Four digits, two digits and two digits, with dashes between them: year, month and day. -/
inductive DateText : List UInt8 → ℕ → ℕ → ℕ → Prop where
  | mk {years months days : List UInt8} :
      (∀ b ∈ years, isDigit b = true) → years.length = 4 →
      (∀ b ∈ months, isDigit b = true) → months.length = 2 →
      (∀ b ∈ days, isDigit b = true) → days.length = 2 →
      DateText (years ++ 45 :: (months ++ 45 :: days))
        (decimalValue years) (decimalValue months) (decimalValue days)

/-- The characters that `strspn` lets through. -/
theorem dateCharacter (b : UInt8) :
    (bytes "0123456789-").contains b = true ↔ isDigit b = true ∨ b = 45 := by
  have hset : bytes "0123456789-" = [48, 49, 50, 51, 52, 53, 54, 55, 56, 57, 45] := by
    decide +kernel
  rw [hset]
  constructor
  · intro h
    simp only [List.contains_iff_mem, List.mem_cons, List.not_mem_nil, or_false] at h
    rcases h with rfl | rfl | rfl | rfl | rfl | rfl | rfl | rfl | rfl | rfl | rfl
    all_goals decide
  · rintro (h | rfl)
    · simp only [isDigit, Bool.and_eq_true, decide_eq_true_eq] at h
      have hall : ∀ n < 10, [48, 49, 50, 51, 52, 53, 54, 55, 56, 57, 45].contains
          (decimalDigit n) = true := by decide
      have hb : decimalDigit (b.toNat - 48) = b :=
        UInt8.toNat_inj.mp (by rw [decimalDigit_toNat (by omega)]; omega)
      rw [← hb]
      exact hall _ (by omega)
    · rfl

theorem not_isSpace_of_isDigit {b : UInt8} (h : isDigit b = true) : ¬isSpace b = true := by
  simp only [isDigit, Bool.and_eq_true, decide_eq_true_eq] at h
  simp only [isSpace, Bool.or_eq_true, Bool.and_eq_true, decide_eq_true_eq, beq_iff_eq]
  rintro (rfl | hspace)
  · exact absurd h (by decide)
  · omega

theorem scanDigits_eq_some {width : ℕ} {text rest : List UInt8} {number : ℕ}
    (h : scanDigits width text = some (number, rest)) :
    ∃ digits, text = digits ++ rest ∧ (∀ b ∈ digits, isDigit b = true) ∧
      digits.length ≤ width ∧ number = decimalValue digits := by
  unfold scanDigits at h
  set digits := (text.take width).takeWhile isDigit with hdigits
  obtain ⟨-, heq⟩ := (Option.ite_none_left_eq_some ..).mp h
  obtain ⟨rfl, rfl⟩ := Prod.mk.inj (Option.some.inj heq)
  have hprefix : digits <+: text :=
    (List.takeWhile_prefix isDigit).trans (List.take_prefix width text)
  refine ⟨digits, (List.prefix_iff_eq_append.mp hprefix).symm, ?_, ?_, rfl⟩
  · intro b hb
    exact List.mem_takeWhile_imp hb
  · exact (List.takeWhile_prefix isDigit).length_le.trans (List.length_take_le width text)

/-- A positive number in a text of digits and dashes has no sign. -/
theorem scanInt_pos {width : ℕ} {text rest : List UInt8} {number : ℤ}
    (htext : ∀ b ∈ text, isDigit b = true ∨ b = 45) (hpos : 0 < number)
    (h : scanInt width text = some (number, rest)) :
    ∃ digits, text = digits ++ rest ∧ (∀ b ∈ digits, isDigit b = true) ∧
      digits.length ≤ width ∧ number = decimalValue digits := by
  have hblank : text.dropWhile isSpace = text := by
    cases text with
    | nil => rfl
    | cons b text =>
      refine List.dropWhile_cons_of_neg ?_
      rcases htext b List.mem_cons_self with hb | rfl
      · exact not_isSpace_of_isDigit hb
      · decide
  unfold scanInt at h
  rw [hblank] at h
  split at h
  · obtain ⟨⟨scanned, rest'⟩, -, heq⟩ := Option.map_eq_some_iff.mp h
    simp only [Prod.mk.injEq] at heq
    omega
  · exact absurd (htext 43 List.mem_cons_self) (by decide)
  · obtain ⟨⟨scanned, rest'⟩, hscan, heq⟩ := Option.map_eq_some_iff.mp h
    obtain ⟨rfl, rfl⟩ := Prod.mk.inj heq
    obtain ⟨digits, htext, hdigits, hlength, hvalue⟩ := scanDigits_eq_some hscan
    exact ⟨digits, htext, hdigits, hlength, by exact_mod_cast hvalue⟩

/-- As many digits as there may be are scanned. -/
theorem scanInt_digits {width : ℕ} {digits : List UInt8} (rest : List UInt8)
    (hwidth : 0 < width) (hlength : digits.length = width)
    (hdigits : ∀ b ∈ digits, isDigit b = true) :
    scanInt width (digits ++ rest) = some ((decimalValue digits : ℤ), rest) := by
  have hscan : scanDigits width (digits ++ rest) = some (decimalValue digits, rest) := by
    have htake : ((digits ++ rest).take width).takeWhile isDigit = digits := by
      rw [List.take_append_of_le_length hlength.ge, List.take_of_length_le hlength.le,
        List.takeWhile_eq_self_iff.mpr hdigits]
    have hne : digits ≠ [] := List.ne_nil_of_length_pos (hlength ▸ hwidth)
    simp only [scanDigits, htake, if_neg hne, List.drop_left]
  cases digits with
  | nil => exact absurd hlength (Nat.ne_of_lt hwidth)
  | cons b digits =>
    have hb := hdigits b List.mem_cons_self
    unfold scanInt
    rw [List.cons_append, List.dropWhile_cons_of_neg (not_isSpace_of_isDigit hb)]
    split
    · next heq =>
      obtain ⟨rfl, -⟩ := List.cons.inj heq
      exact absurd hb (by decide)
    · next heq =>
      obtain ⟨rfl, -⟩ := List.cons.inj heq
      exact absurd hb (by decide)
    · rw [List.cons_append] at hscan
      rw [hscan, Option.map_some]

/-- The scanner is lenient, but what it reads as a date of the present has the shape of one:
a sign or a missing digit makes a number too small, or leaves text behind. -/
theorem manualDate_sound {text : List UInt8} {year month day : ℤ}
    (h : manualDate text = some (year, month, day)) (hyear : 1000 ≤ year) (hmonth : 1 ≤ month)
    (hday : 1 ≤ day) :
    ∃ year' month' day' : ℕ, DateText text year' month' day' ∧
      year = year' ∧ month = month' ∧ day = day' := by
  obtain ⟨hshape, hscan⟩ := (Option.ite_none_left_eq_some ..).mp h
  simp only [ne_eq, bne_iff_ne, decide_not, Bool.or_eq_true, Bool.not_eq_true',
    decide_eq_false_iff_not, not_or, Decidable.not_not] at hshape
  obtain ⟨⟨⟨hlength, -⟩, -⟩, hspan⟩ := hshape
  have htaken := List.takeWhile_prefix (l := text) fun b => (bytes "0123456789-").contains b
  have hall := List.takeWhile_eq_self_iff.mp
    (htaken.eq_of_length (hspan.trans hlength.symm))
  have htext : ∀ b ∈ text, isDigit b = true ∨ b = 45 := fun b hb =>
    (dateCharacter b).mp (hall b hb)
  unfold scanDate at hscan
  split at hscan
  · next year' text₁ hscanned =>
    split at hscan
    · next month' text₂ hscanned₁ =>
      split at hscan
      · next day' hscanned₂ =>
        simp only [Option.some.injEq, Prod.mk.injEq] at hscan
        obtain ⟨rfl, rfl, rfl⟩ := hscan
        obtain ⟨years, rfl, hyears, hyearslength, rfl⟩ := scanInt_pos htext (by omega) hscanned
        have htext₁ : ∀ b ∈ text₁, isDigit b = true ∨ b = 45 := fun b hb =>
          htext b (List.mem_append_right _ (List.mem_cons_of_mem _ hb))
        obtain ⟨months, rfl, hmonths, hmonthslength, rfl⟩ :=
          scanInt_pos htext₁ (by omega) hscanned₁
        have htext₂ : ∀ b ∈ text₂, isDigit b = true ∨ b = 45 := fun b hb =>
          htext₁ b (List.mem_append_right _ (List.mem_cons_of_mem _ hb))
        obtain ⟨days, rfl, hdays, hdayslength, rfl⟩ :=
          scanInt_pos htext₂ (by omega) hscanned₂
        -- a year from 1000 on takes four digits, and the ten characters leave two and two
        have hlt := decimalValue_lt hyears
        have hfour : ¬years.length ≤ 3 := fun hthree => by
          have hpow : 10 ^ years.length ≤ 10 ^ 3 := Nat.pow_le_pow_right (by decide) hthree
          omega
        simp only [List.append_nil, List.length_append, List.length_cons] at hlength ⊢
        exact ⟨_, _, _, .mk hyears (by omega) hmonths (by omega) hdays (by omega), rfl, rfl, rfl⟩
      · cases hscan
    · cases hscan
  · cases hscan

/-- A date text is scanned as it says. -/
theorem DateText.manualDate {text : List UInt8} {year month day : ℕ}
    (h : DateText text year month day) :
    manualDate text = some ((year : ℤ), (month : ℤ), (day : ℤ)) := by
  cases h with
  | @mk years months days hyears hfour hmonths htwo hdays htwo' =>
    have hscan : scanDate (years ++ 45 :: (months ++ 45 :: days)) =
        some ((decimalValue years : ℤ), (decimalValue months : ℤ), (decimalValue days : ℤ)) := by
      have hlast := scanInt_digits [] (by decide) htwo' hdays
      rw [List.append_nil] at hlast
      simp only [scanDate, scanInt_digits _ (Nat.succ_pos 3) hfour hyears,
        scanInt_digits _ (Nat.succ_pos 1) htwo hmonths, hlast]
    have hspan : (years ++ 45 :: (months ++ 45 :: days)).takeWhile
        (fun b => (bytes "0123456789-").contains b) = years ++ 45 :: (months ++ 45 :: days) := by
      refine List.takeWhile_eq_self_iff.mpr fun b hb => (dateCharacter b).mpr ?_
      simp only [List.mem_append, List.mem_cons] at hb
      rcases hb with hb | hb | hb | hb | hb
      · exact .inl (hyears b hb)
      · exact .inr hb
      · exact .inl (hmonths b hb)
      · exact .inr hb
      · exact .inl (hdays b hb)
    have hfirst : (years ++ 45 :: (months ++ 45 :: days))[4]? = some 45 := by
      rw [← hfour, List.getElem?_append_right (Nat.le_refl _), Nat.sub_self, List.getElem?_cons_zero]
    have hsecond : (years ++ 45 :: (months ++ 45 :: days))[7]? = some 45 := by
      rw [show 7 = years.length + (months.length + 1) by omega,
        List.getElem?_append_right (Nat.le_add_right _ _), Nat.add_sub_cancel_left,
        List.getElem?_cons_succ, List.getElem?_append_right (Nat.le_refl _), Nat.sub_self,
        List.getElem?_cons_zero]
    have hlength : (years ++ 45 :: (months ++ 45 :: days)).length = 10 := by
      simp only [List.length_append, List.length_cons]
      omega
    rw [SystemSettings.manualDate, hspan, hfirst, hsecond, hlength, hscan]
    rfl

/-! ## The local calendar -/

/-- GLib's `GDateTime` in the local zone. -/
structure LocalCalendar (D : Type) : Type where
  /-- `g_date_time_new_local`. The seconds are the rational that the double stands for. -/
  newLocal : ℤ → ℤ → ℤ → ℤ → ℤ → ℚ → Option D
  /-- `g_date_time_get_year`, `_get_month`, `_get_day_of_month`, `_get_hour`, `_get_minute`
  and `_get_second` -/
  wall : D → WallTime
  /-- `g_date_time_to_unix` -/
  toUnix : D → ℤ

/-- What GLib documents, in a zone. -/
structure LocalCalendar.Correct {D : Type} (L : LocalCalendar D) (offset : ℤ → ℤ) : Prop where
  /-- the getters say what the zone shows at the instant -/
  shows : ∀ year month day hour minute seconds value,
    L.newLocal year month day hour minute seconds = some value →
    ZoneShows offset (L.toUnix value) (L.wall value)
  /-- a wall time that the zone shows is not moved -/
  exact : ∀ wall : WallTime, 1 ≤ wall.year → wall.year ≤ 9999 →
    (∃ instant, ZoneShows offset instant wall) → ∀ fraction : ℚ, 0 ≤ fraction → fraction < 1 →
    ∃ value, L.newLocal wall.year wall.month wall.day wall.hour wall.minute
      (wall.second + fraction) = some value ∧ L.wall value = wall

variable {D : Type} (L : LocalCalendar D)

/-- The end of `parse_manual_datetime`, from the ranges on. -/
def LocalCalendar.instant (year month day : ℤ) (microseconds : ℕ) : Option ℤ :=
  if year < 1970 || year > 9999 || month < 1 || month > 12 || day < 1 || day > 31 then none
  else
    let wholeSeconds := microseconds / usPerSecond
    let hour := wholeSeconds / 3600
    let minute := wholeSeconds % 3600 / 60
    let seconds : ℚ := (wholeSeconds % 60 : ℕ) + (microseconds % usPerSecond : ℕ) / usPerSecond
    match L.newLocal year month day hour minute seconds with
    | none => none
    | some value =>
      -- GLib normalises a wall time that does not exist
      if (L.wall value).year ≠ year || (L.wall value).month ≠ month ||
          (L.wall value).day ≠ day || (L.wall value).hour ≠ hour ||
          (L.wall value).minute ≠ minute || (L.wall value).second ≠ wholeSeconds % 60 then none
      else some (L.toUnix value * usPerSecond + (microseconds % usPerSecond : ℕ))

/-- `parse_manual_datetime`, for the policy of the model and the format of the desktop -/
def manualInstant (equalCi : List UInt8 → List UInt8 → Bool) (policy : Option TemporalPolicyV3)
    (desktopUse24h : Bool) (dateText timeText : List UInt8) : Option ℤ :=
  if !manualRepresentationSupported policy then none
  else
    match manualDate dateText with
    | none => none
    | some (year, month, day) =>
      match policy with
      | none => none
      | some policy =>
        match manualTimeParse equalCi policy.clockMode desktopUse24h timeText with
        | none => none
        | some microseconds => L.instant year month day microseconds

/-- The submission of the panel is this instant. -/
def LocalCalendar.localInstant (dateText : List UInt8) (microseconds : ℕ) : Option ℤ :=
  (manualDate dateText).bind fun date => L.instant date.1 date.2.1 date.2.2 microseconds

theorem manualInstant_eq (equalCi : List UInt8 → List UInt8 → Bool) {policy : TemporalPolicyV3}
    (h : manualRepresentationSupported (some policy) = true) (desktopUse24h : Bool)
    (dateText timeText : List UInt8) :
    manualInstant L equalCi (some policy) desktopUse24h dateText timeText =
      (manualTimeParse equalCi policy.clockMode desktopUse24h timeText).bind
        (L.localInstant dateText) := by
  simp only [manualInstant, h, Bool.not_true, Bool.false_eq_true, if_false]
  cases hdate : manualDate dateText with
  | none =>
    cases manualTimeParse equalCi policy.clockMode desktopUse24h timeText with
    | none => rfl
    | some microseconds => simp [LocalCalendar.localInstant, hdate]
  | some date =>
    cases manualTimeParse equalCi policy.clockMode desktopUse24h timeText with
    | none => rfl
    | some microseconds => simp [LocalCalendar.localInstant, hdate]

theorem parseManualDatetime_eq {B : Type} (m : ModelId)
    (equalCi : List UInt8 → List UInt8 → Bool) (draft : DraftPanel) :
    (parseManualDatetime m ⟨equalCi, L.localInstant⟩ draft : SysM B (Option ManualSubmission)) =
      (do
        match ← modelPolicy m with
        | none => pure none
        | some policy =>
          if !manualRepresentationSupported (some policy) then pure none
          else
            let desktopUse24h ← desktopUses24h
            pure ((manualInstant L equalCi (some policy) desktopUse24h draft.manualDate
              draft.manualTime).map fun instant =>
                ⟨policy.clockMode, desktopUse24h, draft.manualDate, draft.manualTime, instant⟩)) := by
  unfold parseManualDatetime
  refine bind_congr fun policy => ?_
  cases policy with
  | none => rfl
  | some policy =>
    cases hsupported : manualRepresentationSupported (some policy) with
    | false => simp only [hsupported, Bool.not_false, if_true]
    | true =>
      simp only [hsupported, Bool.not_true, Bool.false_eq_true, if_false,
        manualInstant_eq L equalCi hsupported]

/-! ## The instant -/

/-- The wall time of a date and a microsecond of the day. -/
def typedWall (year month day microseconds : ℕ) : WallTime where
  year := year
  month := month
  day := day
  hour := microseconds / usPerSecond / 3600
  minute := microseconds / usPerSecond % 3600 / 60
  second := microseconds / usPerSecond % 60

/-- A date of the calendar, in the years that the panel supports. -/
structure SupportedDate (year month day : ℕ) : Prop where
  years : 1970 ≤ year ∧ year ≤ 9999
  months : 1 ≤ month ∧ month ≤ 12
  days : 1 ≤ day ∧ day ≤ daysInMonth year month

/-- On a conventional clock the wall time is the typed time, and there is no fraction. -/
theorem ClockText.typedWall {profile : ClockProfile} {text : List UInt8} {typed : TypedTime}
    (h : ClockText profile text typed) (hprofile : profile ≠ .decimal10) (year month day : ℕ) :
    typedWall year month day (typed.microsecond profile) =
        ⟨year, month, day, typed.hourOfDay, typed.minute, typed.second⟩ ∧
      typed.microsecond profile % usPerSecond = 0 := by
  have hrange := h.range
  have hmicrosecond : typed.microsecond profile =
      (typed.hourOfDay * 3600 + typed.minute * 60 + typed.second) * 1000000 := by
    cases profile with
    | conventional24 => rfl
    | conventional12 => rfl
    | decimal10 => exact absurd rfl hprofile
  have hsixty : typed.minute < 60 ∧ typed.second < 60 := by
    cases profile with
    | conventional24 => exact ⟨Nat.lt_succ_of_le hrange.2.1, Nat.lt_succ_of_le hrange.2.2.1⟩
    | conventional12 => exact ⟨Nat.lt_succ_of_le hrange.2.2.1, Nat.lt_succ_of_le hrange.2.2.2.1⟩
    | decimal10 => exact absurd rfl hprofile
  rw [hmicrosecond]
  simp only [SystemSettings.typedWall, usPerSecond, WallTime.mk.injEq, true_and]
  omega

/-- Every typed time is its wall time and a fraction of a second. -/
theorem typedWall_microsecond (year month day microseconds : ℕ) :
    (typedWall year month day microseconds).secondOfDay * usPerSecond +
      microseconds % usPerSecond = microseconds := by
  simp only [WallTime.secondOfDay, typedWall, usPerSecond]
  omega

variable {L} {offset : ℤ → ℤ}

/-- An instant is one at which the zone shows the typed wall time. -/
theorem LocalCalendar.Correct.instant_shows (hL : L.Correct offset)
    {year month day microseconds : ℕ} {instant : ℤ}
    (h : L.instant year month day microseconds = some instant) :
    (1970 ≤ year ∧ year ≤ 9999) ∧
      ZoneShows offset (instant / 1000000) (typedWall year month day microseconds) ∧
      instant % 1000000 = ((microseconds % 1000000 : ℕ) : ℤ) := by
  obtain ⟨hrange, hvalue⟩ := (Option.ite_none_left_eq_some ..).mp h
  simp only [Bool.or_eq_true, decide_eq_true_eq, not_or, not_lt, gt_iff_lt] at hrange
  dsimp only at hvalue
  split at hvalue
  · cases hvalue
  · next value hnew =>
    obtain ⟨hwall, heq⟩ := (Option.ite_none_left_eq_some ..).mp hvalue
    simp only [ne_eq, decide_not, Bool.or_eq_true, Bool.not_eq_true', decide_eq_false_iff_not,
      not_or, Decidable.not_not, Nat.cast_inj] at hwall
    obtain ⟨⟨⟨⟨⟨hyear, hmonth⟩, hday⟩, hhour⟩, hminute⟩, hsecond⟩ := hwall
    have hshown : L.wall value = typedWall year month day microseconds := by
      generalize L.wall value = wall at *
      obtain ⟨year', month', day', hour', minute', second'⟩ := wall
      simp only at *
      simp only [typedWall, WallTime.mk.injEq]
      exact ⟨hyear, hmonth, hday, hhour, hminute, hsecond⟩
    have hshows := hL.shows _ _ _ _ _ _ _ hnew
    have hinstant := Option.some.inj heq
    simp only [usPerSecond] at hinstant
    have hseconds : instant / 1000000 = L.toUnix value := by omega
    refine ⟨by omega, ?_, by omega⟩
    rw [hseconds, ← hshown]
    exact hshows

/-- A wall time that the zone shows has an instant. -/
theorem LocalCalendar.Correct.instant_isSome (hL : L.Correct offset)
    {year month day microseconds : ℕ} (hdate : SupportedDate year month day)
    (hshows : ∃ instant, ZoneShows offset instant (typedWall year month day microseconds)) :
    (L.instant year month day microseconds).isSome = true := by
  have hfraction : (microseconds % usPerSecond : ℕ) / (usPerSecond : ℚ) < 1 := by
    rw [div_lt_one (by exact_mod_cast Nat.succ_pos _)]
    exact_mod_cast Nat.mod_lt _ (Nat.succ_pos _)
  have hnonneg : 0 ≤ (microseconds % usPerSecond : ℕ) / (usPerSecond : ℚ) :=
    div_nonneg (Nat.cast_nonneg _) (Nat.cast_nonneg _)
  obtain ⟨value, hnew, hwall⟩ := hL.exact (typedWall year month day microseconds)
    (show 1 ≤ year from le_trans (by decide) hdate.years.1) hdate.years.2 hshows _ hnonneg hfraction
  have hyear := hdate.years
  have hmonth := hdate.months
  have hday := hdate.days
  have hlong : daysInMonth year month ≤ 31 := by
    unfold daysInMonth
    split_ifs <;> omega
  rw [LocalCalendar.instant, if_neg (by
    simp only [Bool.or_eq_true, decide_eq_true_eq, not_or, not_lt, gt_iff_lt]
    omega)]
  simp only [typedWall] at hnew hwall
  simp only [hnew, hwall]
  simp

/-! ## The parser -/

/-- A mode that stands for a clock can be typed. -/
theorem ModeClock.supported {desktopUse24h : Bool} {clockMode : String} {profile : ClockProfile}
    (h : ModeClock desktopUse24h clockMode profile) : manualTimeModeSupported clockMode = true := by
  cases h with
  | standard => rfl
  | standard24 => rfl
  | standard12 => rfl
  | decimal => rfl

variable {equalCi : List UInt8 → List UInt8 → Bool}
  (hequal : ∀ left right, equalCi left right = true ↔ left.map toLower = right.map toLower)

include hequal

theorem manualTimeParse_eq_some {clockMode : String} {desktopUse24h : Bool} {text : List UInt8}
    {microseconds : ℕ} :
    manualTimeParse equalCi clockMode desktopUse24h text = some microseconds ↔
      ∃ profile typed, ModeClock desktopUse24h clockMode profile ∧
        ClockText profile text typed ∧ typed.microsecond profile = microseconds := by
  constructor
  · intro h
    cases hprofile : profileForMode clockMode desktopUse24h with
    | none => simp [manualTimeParse, hprofile] at h
    | some profile =>
      have hparse := (parseProfile_eq_some hequal profile text microseconds).mp (by
        cases profile <;> simpa only [manualTimeParse, hprofile] using h)
      obtain ⟨typed, htext, hmicrosecond⟩ := hparse
      exact ⟨profile, typed, profileForMode_eq_some.mp hprofile, htext, hmicrosecond⟩
  · rintro ⟨profile, typed, hmode, htext, hmicrosecond⟩
    have hparse := (parseProfile_eq_some hequal profile text microseconds).mpr
      ⟨typed, htext, hmicrosecond⟩
    cases profile <;> simpa only [manualTimeParse, profileForMode_eq_some.mpr hmode] using hparse

/-- The texts are a date and a time that the zone shows. -/
structure TypedInstant (offset : ℤ → ℤ) (clockMode : String) (desktopUse24h : Bool)
    (dateText timeText : List UInt8) (year month day : ℕ) (profile : ClockProfile)
    (typed : TypedTime) : Prop where
  dateText : DateText dateText year month day
  date : SupportedDate year month day
  mode : ModeClock desktopUse24h clockMode profile
  timeText : ClockText profile timeText typed
  exists_shows : ∃ instant,
    ZoneShows offset instant (typedWall year month day (typed.microsecond profile))

/-- The texts of an instant are a date and a time that the zone shows, and it shows them
there. -/
theorem manualInstant_eq_some (hL : L.Correct offset) {policy : TemporalPolicyV3}
    {desktopUse24h : Bool} {dateText timeText : List UInt8} {instant : ℤ}
    (h : manualInstant L equalCi (some policy) desktopUse24h dateText timeText = some instant) :
    policy.calendar = "gregorian" ∧ ∃ year month day profile typed,
      TypedInstant offset policy.clockMode desktopUse24h dateText timeText year month day
        profile typed ∧
      ZoneShows offset (instant / 1000000)
        (typedWall year month day (typed.microsecond profile)) ∧
      instant % 1000000 = ((typed.microsecond profile % 1000000 : ℕ) : ℤ) := by
  cases hsupported : manualRepresentationSupported (some policy) with
  | false => simp [manualInstant, hsupported] at h
  | true =>
    rw [manualInstant_eq L equalCi hsupported] at h
    obtain ⟨microseconds, hparse, hlocal⟩ := Option.bind_eq_some_iff.mp h
    obtain ⟨⟨year, month, day⟩, hdate, hinstant⟩ := Option.bind_eq_some_iff.mp hlocal
    obtain ⟨profile, typed, hmode, htext, rfl⟩ := (manualTimeParse_eq_some hequal).mp hparse
    obtain ⟨hrange, -⟩ := (Option.ite_none_left_eq_some ..).mp hinstant
    simp only [Bool.or_eq_true, decide_eq_true_eq, not_or, not_lt, gt_iff_lt] at hrange
    obtain ⟨year, month, day, hdateText, rfl, rfl, rfl⟩ :=
      manualDate_sound hdate (by omega) (by omega) (by omega)
    obtain ⟨hyear, hshows, hfraction⟩ := hL.instant_shows hinstant
    simp only [manualRepresentationSupported, Option.any_some, Bool.and_eq_true,
      beq_iff_eq] at hsupported
    have hday : 1 ≤ day ∧ day ≤ daysInMonth year month := hshows.real.day
    have hmonth : 1 ≤ month ∧ month ≤ 12 :=
      daysInMonth_pos (show 0 < daysInMonth year month by omega)
    exact ⟨hsupported.1, year, month, day, profile, typed,
      ⟨hdateText, ⟨hyear, hmonth, hday⟩, hmode, htext, _, hshows⟩, hshows, hfraction⟩

/-- A date and a time that the zone shows are accepted on the Gregorian calendar. -/
theorem TypedInstant.manualInstant_isSome (hL : L.Correct offset) {policy : TemporalPolicyV3}
    (hcalendar : policy.calendar = "gregorian") {desktopUse24h : Bool}
    {dateText timeText : List UInt8} {year month day : ℕ} {profile : ClockProfile}
    {typed : TypedTime}
    (h : TypedInstant offset policy.clockMode desktopUse24h dateText timeText year month day
      profile typed) :
    (manualInstant L equalCi (some policy) desktopUse24h dateText timeText).isSome = true := by
  have hsupported : manualRepresentationSupported (some policy) = true := by
    simp [manualRepresentationSupported, hcalendar, h.mode.supported]
  have hparse := (manualTimeParse_eq_some hequal).mpr ⟨profile, typed, h.mode, h.timeText, rfl⟩
  rw [manualInstant_eq L equalCi hsupported, hparse, Option.bind_some,
    LocalCalendar.localInstant, h.dateText.manualDate, Option.bind_some]
  exact hL.instant_isSome h.date h.exists_shows

omit hequal in
theorem DateText.unique {text : List UInt8} {year month day year' month' day' : ℕ}
    (h : DateText text year month day) (h' : DateText text year' month' day') :
    year = year' ∧ month = month' ∧ day = day' := by
  have heq := h.manualDate.symm.trans h'.manualDate
  simpa only [Option.some.injEq, Prod.mk.injEq, Nat.cast_inj] using heq

theorem ClockText.unique {profile : ClockProfile} {text : List UInt8} {typed typed' : TypedTime}
    (h : ClockText profile text typed) (h' : ClockText profile text typed') : typed = typed' := by
  have hparse := (parseProfile_eq_some hequal profile text _).mpr ⟨typed, h, rfl⟩
  have hparse' := (parseProfile_eq_some hequal profile text _).mpr ⟨typed', h', rfl⟩
  exact h.microsecond_injective h' (Option.some.inj (hparse.symm.trans hparse'))

/-- Texts say one date and one time. -/
theorem TypedInstant.unique {clockMode : String} {desktopUse24h : Bool}
    {dateText timeText : List UInt8} {year month day year' month' day' : ℕ}
    {profile profile' : ClockProfile} {typed typed' : TypedTime}
    (h : TypedInstant offset clockMode desktopUse24h dateText timeText year month day
      profile typed)
    (h' : TypedInstant offset clockMode desktopUse24h dateText timeText year' month' day'
      profile' typed') :
    year = year' ∧ month = month' ∧ day = day' ∧ profile = profile' ∧ typed = typed' := by
  obtain ⟨hyear, hmonth, hday⟩ := h.dateText.unique h'.dateText
  obtain rfl := h.mode.unique h'.mode
  exact ⟨hyear, hmonth, hday, rfl, h.timeText.unique hequal h'.timeText⟩

/-- **Manual date and time become exactly the typed local instant.** On the Gregorian calendar
the texts are accepted if and only if they are a supported date and a time that the zone
shows. The instant, shown back in the zone, is the typed wall time and nothing else, with the
microseconds below the second kept. -/
theorem manualInstant_exact (hL : L.Correct offset) (policy : TemporalPolicyV3)
    (desktopUse24h : Bool) (dateText timeText : List UInt8) :
    ((manualInstant L equalCi (some policy) desktopUse24h dateText timeText).isSome = true ↔
      policy.calendar = "gregorian" ∧ ∃ year month day profile typed,
        TypedInstant offset policy.clockMode desktopUse24h dateText timeText year month day
          profile typed) ∧
    (∀ instant year month day profile typed,
      manualInstant L equalCi (some policy) desktopUse24h dateText timeText = some instant →
      TypedInstant offset policy.clockMode desktopUse24h dateText timeText year month day
        profile typed →
      (∀ wall, ZoneShows offset (instant / 1000000) wall ↔
        wall = typedWall year month day (typed.microsecond profile)) ∧
      instant % 1000000 = ((typed.microsecond profile % 1000000 : ℕ) : ℤ)) ∧
    (∀ year month day profile typed,
      TypedInstant offset policy.clockMode desktopUse24h dateText timeText year month day
        profile typed →
      (typedWall year month day (typed.microsecond profile)).secondOfDay * 1000000 +
          typed.microsecond profile % 1000000 = typed.microsecond profile ∧
      (profile ≠ .decimal10 → typedWall year month day (typed.microsecond profile) =
        ⟨year, month, day, typed.hourOfDay, typed.minute, typed.second⟩)) := by
  refine ⟨⟨fun h => ?_, ?_⟩, ?_, ?_⟩
  · obtain ⟨instant, hinstant⟩ := Option.isSome_iff_exists.mp h
    obtain ⟨hcalendar, year, month, day, profile, typed, htyped, -⟩ :=
      manualInstant_eq_some hequal hL hinstant
    exact ⟨hcalendar, year, month, day, profile, typed, htyped⟩
  · rintro ⟨hcalendar, year, month, day, profile, typed, htyped⟩
    exact htyped.manualInstant_isSome hequal hL hcalendar
  · intro instant year month day profile typed hinstant htyped
    obtain ⟨-, year', month', day', profile', typed', htyped', hshows, hfraction⟩ :=
      manualInstant_eq_some hequal hL hinstant
    obtain ⟨rfl, rfl, rfl, rfl, rfl⟩ := htyped.unique hequal htyped'
    refine ⟨fun wall => ⟨fun hwall => hwall.unique hshows, ?_⟩, hfraction⟩
    rintro rfl
    exact hshows
  · intro year month day profile typed htyped
    refine ⟨typedWall_microsecond year month day _, fun hprofile => ?_⟩
    exact (htyped.timeText.typedWall hprofile year month day).1

omit hequal

/-! ## Summer time -/

instance (wall : WallTime) : Decidable wall.Real :=
  decidable_of_iff (1 ≤ wall.month ∧ (1 ≤ wall.day ∧ wall.day ≤ daysInMonth wall.year wall.month) ∧
      wall.hour < 24 ∧ wall.minute < 60 ∧ wall.second < 60)
    ⟨fun h => ⟨h.1, h.2.1, h.2.2.1, h.2.2.2.1, h.2.2.2.2⟩,
      fun h => ⟨h.month, h.day, h.hour, h.minute, h.second⟩⟩

/-- A zone whose clocks go forward on 29 March 2026 and back on 25 October, at one o'clock
universal time. -/
def summerOffset (instant : ℤ) : ℤ :=
  if 1774746000 ≤ instant ∧ instant < 1792890000 then 7200 else 3600

theorem summerOffset_cases (instant : ℤ) :
    summerOffset instant = 3600 ∨ summerOffset instant = 7200 := by
  unfold summerOffset
  split
  · exact .inr rfl
  · exact .inl rfl

/-- The local calendar of that zone. The hour that it shows twice is read as standard time, and
what is in the hour that it skips becomes the end of that hour. -/
def summerCalendar : LocalCalendar (ℤ × WallTime) where
  newLocal year month day hour minute seconds :=
    let wall : WallTime :=
      ⟨year.toNat, month.toNat, day.toNat, hour.toNat, minute.toNat, ⌊seconds⌋.toNat⟩
    if wall.Real then
      -- standard time is tried first, for the hour that is shown twice
      if summerOffset (wall.epochSecond - 3600) = 3600 then some (wall.epochSecond - 3600, wall)
      else if summerOffset (wall.epochSecond - 7200) = 7200 then
        some (wall.epochSecond - 7200, wall)
      -- no offset gives what is in the hour that is skipped
      else some (1774746000, ⟨2026, 3, 29, 3, 0, 0⟩)
    else none
  wall := Prod.snd
  toUnix := Prod.fst

theorem summerCalendar_correct : summerCalendar.Correct summerOffset where
  shows year month day hour minute seconds value h := by
    obtain ⟨hreal, hvalue⟩ := (Option.ite_none_right_eq_some ..).mp h
    split at hvalue
    · next hstandard =>
      obtain rfl := Option.some.inj hvalue
      exact ⟨hreal, by simp only [summerCalendar, hstandard, sub_add_cancel]⟩
    · split at hvalue
      · next hsummer =>
        obtain rfl := Option.some.inj hvalue
        exact ⟨hreal, by simp only [summerCalendar, hsummer, sub_add_cancel]⟩
      · obtain rfl := Option.some.inj hvalue
        exact ⟨by decide, by decide +kernel⟩
  exact wall _ _ hshows fraction hnonneg hlt := by
    obtain ⟨instant, hinstant⟩ := hshows
    have hfloor : ⌊(wall.second : ℚ) + fraction⌋ = wall.second := by
      rw [Int.floor_natCast_add, Int.floor_eq_zero_iff.mpr ⟨hnonneg, hlt⟩, add_zero]
    have hoffset : summerOffset (wall.epochSecond - summerOffset instant) =
        summerOffset instant := by
      rw [hinstant.second, add_sub_cancel_right]
    simp only [summerCalendar, Int.toNat_natCast, hfloor]
    rw [if_pos hinstant.real]
    split
    · exact ⟨_, rfl, rfl⟩
    · next hstandard =>
      rcases summerOffset_cases instant with hcase | hcase
      · rw [hcase] at hoffset
        exact (hstandard hoffset).elim
      · rw [hcase] at hoffset
        rw [if_pos hoffset]
        exact ⟨_, rfl, rfl⟩

/-- The texts of a time in the hour that is shown twice, on the 24-hour clock. -/
theorem typedInstant_repeated : TypedInstant summerOffset "standard-24" true
    (bytes "2026-10-25") (bytes "02:30") 2026 10 25 .conventional24 ⟨2, 30, 0, none⟩ where
  dateText :=
    have htext : DateText ([50, 48, 50, 54] ++ 45 :: ([49, 48] ++ 45 :: [50, 53])) 2026 10 25 :=
      .mk (by simp [isDigit]) rfl (by simp [isDigit]) rfl (by simp [isDigit]) rfl
    htext
  date := ⟨by decide, by decide, by decide⟩
  mode := .standard24
  timeText := .conventional24 (.two (.two rfl rfl) (.two rfl rfl)) (by decide) (by decide)
    (by decide)
  exists_shows := ⟨1792891800, by decide +kernel, by decide +kernel⟩

/-- No instant is shown as a time in the hour that is skipped. -/
theorem not_typedInstant_skipped {year month day : ℕ} {profile : ClockProfile}
    {typed : TypedTime} : ¬TypedInstant summerOffset "standard-24" true (bytes "2026-03-29")
      (bytes "02:30") year month day profile typed := by
  intro h
  have hdate : DateText ([50, 48, 50, 54] ++ 45 :: ([48, 51] ++ 45 :: [50, 57])) 2026 3 29 :=
    .mk (by simp [isDigit]) rfl (by simp [isDigit]) rfl (by simp [isDigit]) rfl
  obtain ⟨rfl, rfl, rfl⟩ := h.dateText.unique hdate
  obtain rfl := h.mode.unique .standard24
  obtain rfl := h.timeText.unique decide_toLower_iff typedInstant_repeated.timeText
  obtain ⟨instant, hshows⟩ := h.exists_shows
  have hlocal : (typedWall 2026 3 29 (TypedTime.microsecond ⟨2, 30, 0, none⟩
      .conventional24)).epochSecond = 1774751400 := by
    decide +kernel
  have hsecond := hlocal.symm.trans hshows.second
  -- standard time would put it after the change, and summer time before
  unfold summerOffset at hsecond
  split at hsecond <;> omega

/-- On another calendar the same texts are refused. -/
theorem not_manualInstant_isSome_iff :
    ¬((manualInstant summerCalendar
        (fun left right => decide (left.map toLower = right.map toLower))
        (some ⟨"standard-24", "julian", false, false, .finite 0, .finite 0⟩) true
        (bytes "2026-10-25") (bytes "02:30")).isSome = true ↔
      ∃ year month day profile typed,
        TypedInstant summerOffset "standard-24" true (bytes "2026-10-25") (bytes "02:30")
          year month day profile typed) := by
  intro h
  have hsome := h.mpr ⟨_, _, _, _, _, typedInstant_repeated⟩
  exact absurd hsome (by decide +kernel)

/-- The hour that is shown twice is accepted, and the one that is skipped is not. -/
theorem manualInstant_exact_summer :
    (manualInstant summerCalendar (fun left right => decide (left.map toLower = right.map toLower))
      (some ⟨"standard-24", "gregorian", false, false, .finite 0, .finite 0⟩) true
      (bytes "2026-10-25") (bytes "02:30")).isSome = true ∧
    ¬(manualInstant summerCalendar (fun left right => decide (left.map toLower = right.map toLower))
      (some ⟨"standard-24", "gregorian", false, false, .finite 0, .finite 0⟩) true
      (bytes "2026-03-29") (bytes "02:30")).isSome = true := by
  have hexact := manualInstant_exact decide_toLower_iff summerCalendar_correct
    ⟨"standard-24", "gregorian", false, false, .finite 0, .finite 0⟩ true
  refine ⟨(hexact _ _).1.mpr ⟨rfl, _, _, _, _, _, typedInstant_repeated⟩, fun h => ?_⟩
  obtain ⟨-, year, month, day, profile, typed, htyped⟩ := (hexact _ _).1.mp h
  exact not_typedInstant_skipped htyped

end SystemSettings

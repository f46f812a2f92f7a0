import SystemSettings.CommonManifest
import SystemSettings.ManualTime

/-!
# The texts of manual time

The grammar that the parser of `manual-time.c` accepts: two or three fields of one or
two digits, in the ranges of the clock, and on the 12-hour clock a marker. The parser
accepts these texts and no others, and each of them for one microsecond of the day.
-/

namespace SystemSettings

/-! ## Fields -/

/-- One or two digits, and the number they say. -/
inductive Field : List UInt8 → ℕ → Prop where
  | one {b : UInt8} : isDigit b = true → Field [b] (decimalValue [b])
  | two {b c : UInt8} : isDigit b = true → isDigit c = true → Field [b, c] (decimalValue [b, c])

/-- The text does not go on with a digit. -/
def NoDigit (text : List UInt8) : Prop := text.head?.any isDigit = false

/-- A field is parsed as far as it goes. -/
theorem Field.parse {digits rest : List UInt8} {number : ℕ} (h : Field digits number)
    (hrest : NoDigit rest) : parseField (digits ++ rest) = some (number, rest) := by
  have hend : rest.head?.any isDigit = false := hrest
  cases h with
  | @one b hb =>
    have hdigits : fieldDigits (b.toNat - 48) 1 rest = (b.toNat - 48, 1, rest) := by
      cases rest with
      | nil => rfl
      | cons c rest =>
        have hc : isDigit c = false := hrest
        simp [fieldDigits, hc]
    have hvalue : decimalValue [b] = b.toNat - 48 := by simp [decimalValue]
    simp [parseField, fieldDigits, hb, hdigits, hvalue, hend]
  | @two b c hb hc =>
    have hdigits (number : ℕ) : fieldDigits number 2 rest = (number, 2, rest) := by
      cases rest with
      | nil => rfl
      | cons d rest => simp [fieldDigits]
    have hvalue : decimalValue [b, c] = (b.toNat - 48) * 10 + (c.toNat - 48) := by
      simp [decimalValue, Nat.mul_comm]
    simp [parseField, fieldDigits, hb, hc, hdigits, hvalue, hend]

/-- What is parsed is a field, and the text does not go on with a digit. -/
theorem parseField_eq_some {text rest : List UInt8} {number : ℕ}
    (h : parseField text = some (number, rest)) :
    ∃ digits, text = digits ++ rest ∧ Field digits number ∧ NoDigit rest := by
  have hfield {digits rest' : List UInt8} {number' : ℕ} (hdigits : Field digits number')
      (hrest' : NoDigit rest') (htext : text = digits ++ rest') :
      ∃ digits, text = digits ++ rest ∧ Field digits number ∧ NoDigit rest := by
    rw [htext, hdigits.parse hrest'] at h
    obtain ⟨rfl, rfl⟩ := Prod.mk.inj (Option.some.inj h)
    exact ⟨digits, htext, hdigits, hrest'⟩
  match text with
  | [] => simp [parseField, fieldDigits] at h
  | b :: text =>
    cases hb : isDigit b with
    | false => simp [parseField, fieldDigits, hb] at h
    | true =>
      by_cases hone : NoDigit text
      · exact hfield (.one hb) hone rfl
      match text with
      | [] => exact absurd rfl hone
      | c :: text =>
        have hc : isDigit c = true := by simpa [NoDigit] using hone
        by_cases htwo : NoDigit text
        · exact hfield (.two hb hc) htwo rfl
        -- a third digit
        match text with
        | [] => exact absurd rfl htwo
        | d :: text =>
          have hd : isDigit d = true := by simpa [NoDigit] using htwo
          simp [parseField, fieldDigits, hb, hc, hd] at h

/-- Hour, minute and second, which is 0 when it is missing. -/
inductive Fields : List UInt8 → ℕ → ℕ → ℕ → Prop where
  | two {hours minutes : List UInt8} {hour minute : ℕ} :
      Field hours hour → Field minutes minute → Fields (hours ++ 58 :: minutes) hour minute 0
  | three {hours minutes seconds : List UInt8} {hour minute second : ℕ} :
      Field hours hour → Field minutes minute → Field seconds second →
      Fields (hours ++ 58 :: (minutes ++ 58 :: seconds)) hour minute second

/-- The text does not go on with a digit or a colon. -/
def FieldsEnd (text : List UInt8) : Prop := text.head?.any (fun b => isDigit b || b == 58) = false

theorem FieldsEnd.noDigit {text : List UInt8} (h : FieldsEnd text) : NoDigit text := by
  cases text with
  | nil => rfl
  | cons b text =>
    simp only [FieldsEnd, List.head?_cons, Option.any_some, Bool.or_eq_false_iff] at h
    exact h.1

theorem Fields.parse {front rest : List UInt8} {hour minute second : ℕ}
    (h : Fields front hour minute second) (hrest : FieldsEnd rest) :
    parseFields (front ++ rest) = some ((hour, minute, second), rest) := by
  have hcolon (text : List UInt8) : NoDigit (58 :: text) := rfl
  cases h with
  | two hhour hminute =>
    simp only [parseFields, List.append_assoc, List.cons_append,
      hhour.parse (hcolon _), hminute.parse hrest.noDigit]
    cases rest with
    | nil => rfl
    | cons b rest =>
      have hb : b ≠ 58 := by
        rintro rfl
        simp [FieldsEnd] at hrest
      simp [hb]
  | three hhour hminute hsecond =>
    simp only [parseFields, List.append_assoc, List.cons_append,
      hhour.parse (hcolon _), hminute.parse (hcolon _),
      hsecond.parse hrest.noDigit, Option.map_some]

theorem parseFields_eq_some {text rest : List UInt8} {hour minute second : ℕ}
    (h : parseFields text = some ((hour, minute, second), rest)) :
    ∃ front, text = front ++ rest ∧ Fields front hour minute second := by
  unfold parseFields at h
  split at h
  · next hour' text₁ hhour =>
    obtain ⟨hours, rfl, hhours, -⟩ := parseField_eq_some hhour
    split at h
    · next minute' text₂ hminute =>
      obtain ⟨minutes, rfl, hminutes, -⟩ := parseField_eq_some hminute
      obtain ⟨⟨second', rest'⟩, hsecond, heq⟩ := Option.map_eq_some_iff.mp h
      obtain ⟨seconds, rfl, hseconds, -⟩ := parseField_eq_some hsecond
      simp only [Prod.mk.injEq] at heq
      obtain ⟨⟨rfl, rfl, rfl⟩, rfl⟩ := heq
      exact ⟨_, by simp, .three hhours hminutes hseconds⟩
    · next minute' text₂ _ hminute =>
      obtain ⟨minutes, rfl, hminutes, -⟩ := parseField_eq_some hminute
      simp only [Option.some.injEq, Prod.mk.injEq] at h
      obtain ⟨⟨rfl, rfl, rfl⟩, rfl⟩ := h
      exact ⟨_, by simp, .two hhours hminutes⟩
    · cases h
  · cases h

/-! ## Clocks -/

/-- The halves of the 12-hour clock. -/
inductive Meridiem : Type where
  | am
  | pm
  deriving DecidableEq

/-- The marker, in capitals. -/
def Meridiem.marker : Meridiem → List UInt8
  | am => bytes "AM"
  | pm => bytes "PM"

/-- A time of the day as it is typed. Only the 12-hour clock has a marker. -/
structure TypedTime : Type where
  hour : ℕ
  minute : ℕ
  second : ℕ
  meridiem : Option Meridiem
  deriving DecidableEq

/-- A text in the grammar of a clock, and the time it says. -/
inductive ClockText : ClockProfile → List UInt8 → TypedTime → Prop where
  | conventional24 {text : List UInt8} {hour minute second : ℕ} :
      Fields text hour minute second → hour ≤ 23 → minute ≤ 59 → second ≤ 59 →
      ClockText .conventional24 text ⟨hour, minute, second, none⟩
  | conventional12 {text blanks marker : List UInt8} {hour minute second : ℕ}
      {meridiem : Meridiem} :
      Fields text hour minute second → 1 ≤ hour → hour ≤ 12 → minute ≤ 59 → second ≤ 59 →
      (∀ b ∈ blanks, b = 32 ∨ b = 9) → marker.map toLower = meridiem.marker.map toLower →
      ClockText .conventional12 (text ++ (blanks ++ marker)) ⟨hour, minute, second, some meridiem⟩
  | decimal10 {text : List UInt8} {hour minute second : ℕ} :
      Fields text hour minute second → hour ≤ 9 → minute ≤ 99 → second ≤ 99 →
      ClockText .decimal10 text ⟨hour, minute, second, none⟩

/-- The hour of the day: 12 AM is hour 0 and 12 PM is hour 12. -/
def TypedTime.hourOfDay (typed : TypedTime) : ℕ :=
  match typed.meridiem with
  | none => typed.hour
  | some .am => if typed.hour = 12 then 0 else typed.hour
  | some .pm => if typed.hour = 12 then 12 else typed.hour + 12

/-- The microsecond of the day. A decimal second is 864000 microseconds. -/
def TypedTime.microsecond (typed : TypedTime) : ClockProfile → ℕ
  | .decimal10 => (typed.hour * 10000 + typed.minute * 100 + typed.second) * 864000
  | _ => (typed.hourOfDay * 3600 + typed.minute * 60 + typed.second) * 1000000

/-- A field has at most two digits. -/
theorem Field.lt {digits : List UInt8} {number : ℕ} (h : Field digits number) : number < 100 := by
  cases h with
  | @one b hb =>
    have hlt : decimalValue [b] < 10 ^ 1 := decimalValue_lt (by simpa using hb)
    exact hlt.trans (by decide)
  | @two b c hb hc => exact decimalValue_lt (by simpa using ⟨hb, hc⟩)

theorem Fields.lt {text : List UInt8} {hour minute second : ℕ}
    (h : Fields text hour minute second) :
    minute < 100 ∧ second < 100 := by
  cases h with
  | two _ hminute => exact ⟨hminute.lt, by decide⟩
  | three _ hminute hsecond => exact ⟨hminute.lt, hsecond.lt⟩

theorem Fields.parse_nil {text : List UInt8} {hour minute second : ℕ}
    (h : Fields text hour minute second) :
    parseFields text = some ((hour, minute, second), []) := by
  have hparse := h.parse (show FieldsEnd [] from rfl)
  rwa [List.append_nil] at hparse

theorem parse24Hour_eq_some {text : List UInt8} {microseconds : ℕ} :
    parse24Hour text = some microseconds ↔
      ∃ typed, ClockText .conventional24 text typed ∧
        typed.microsecond .conventional24 = microseconds := by
  constructor
  · intro h
    unfold parse24Hour at h
    split at h
    · next hour minute second hfields =>
      obtain ⟨front, rfl, hfront⟩ := parseFields_eq_some hfields
      split at h
      · cases h
      · next hrange =>
        simp only [Bool.or_eq_true, decide_eq_true_eq, not_or, not_lt] at hrange
        obtain ⟨⟨hhour, hminute⟩, hsecond⟩ := hrange
        rw [List.append_nil]
        exact ⟨_, .conventional24 hfront hhour hminute hsecond, Option.some.inj h⟩
    · cases h
  · rintro ⟨typed, htext, rfl⟩
    cases htext with
    | conventional24 hfields hhour hminute hsecond =>
      simp only [parse24Hour, hfields.parse_nil]
      rw [if_neg (by simp only [Bool.or_eq_true, decide_eq_true_eq]; omega)]
      rfl

theorem parseDecimal_eq_some {text : List UInt8} {microseconds : ℕ} :
    parseDecimal text = some microseconds ↔
      ∃ typed, ClockText .decimal10 text typed ∧ typed.microsecond .decimal10 = microseconds := by
  constructor
  · intro h
    unfold parseDecimal at h
    split at h
    · next hour minute second hfields =>
      obtain ⟨front, rfl, hfront⟩ := parseFields_eq_some hfields
      have hlt := hfront.lt
      split at h
      · cases h
      · next hrange =>
        obtain ⟨-, hvalue⟩ := (Option.ite_none_right_eq_some ..).mp h
        rw [List.append_nil]
        exact ⟨_, .decimal10 hfront (by omega) (by omega) (by omega), Option.some.inj hvalue⟩
    · cases h
  · rintro ⟨typed, htext, rfl⟩
    cases htext with
    | decimal10 hfields hhour hminute hsecond =>
      simp only [parseDecimal, hfields.parse_nil]
      rw [if_neg (by omega), if_pos (by simp only [usPerDay, usPerSecond]; omega)]
      rfl

/-! ## The marker -/

/-- What begins a marker ends the fields, and is no blank. -/
theorem letter_of_toLower {b : UInt8} (h : toLower b = 97 ∨ toLower b = 112) :
    (isDigit b || b == 58) = false ∧ (b == 32 || b == 9) = false := by
  have hne {c : UInt8} (hc : toLower c ≠ 97 ∧ toLower c ≠ 112) : b ≠ c := by
    rintro rfl
    exact h.elim hc.1 hc.2
  have hdigit : isDigit b = false := by
    by_contra hdigit
    simp only [isDigit, Bool.not_eq_false, Bool.and_eq_true, decide_eq_true_eq] at hdigit
    have hlower : toLower b = b := by
      rw [toLower, if_neg]
      simp only [UInt8.le_iff_toNat_le, UInt8.reduceToNat]
      omega
    rw [hlower] at h
    rcases h with rfl | rfl
    · exact absurd hdigit (by decide)
    · exact absurd hdigit (by decide)
  simp [hdigit, hne (c := 58) (by decide), hne (c := 32) (by decide), hne (c := 9) (by decide)]

/-- The number of the half in which an hour of the 12-hour clock falls. -/
theorem TypedTime.hourOfDay_some {hour minute second : ℕ} {meridiem : Meridiem}
    (hhour : 1 ≤ hour) (hhour' : hour ≤ 12) :
    TypedTime.hourOfDay ⟨hour, minute, second, some meridiem⟩ =
      if meridiem = .pm then hour % 12 + 12 else hour % 12 := by
  cases meridiem with
  | am =>
    simp only [hourOfDay, reduceCtorEq, if_false]
    split <;> omega
  | pm =>
    simp only [hourOfDay, if_true]
    split <;> omega

/-- A marker, in any case, begins with a letter. -/
theorem marker_head {meridiem : Meridiem} {marker : List UInt8}
    (h : marker.map toLower = meridiem.marker.map toLower) :
    ∃ b rest, marker = b :: rest ∧ (toLower b = 97 ∨ toLower b = 112) := by
  have ham : Meridiem.am.marker.map toLower = [97, 109] := by decide +kernel
  have hpm : Meridiem.pm.marker.map toLower = [112, 109] := by decide +kernel
  cases marker with
  | nil =>
    cases meridiem with
    | am => simp [ham] at h
    | pm => simp [hpm] at h
  | cons b rest =>
    refine ⟨b, rest, rfl, ?_⟩
    cases meridiem with
    | am =>
      rw [ham, List.map_cons] at h
      exact .inl (List.cons.inj h).1
    | pm =>
      rw [hpm, List.map_cons] at h
      exact .inr (List.cons.inj h).1

/-- The blanks before a marker are skipped, and the marker is not. -/
theorem dropWhile_blanks {meridiem : Meridiem} {blanks marker : List UInt8}
    (hblanks : ∀ b ∈ blanks, b = 32 ∨ b = 9)
    (hmarker : marker.map toLower = meridiem.marker.map toLower) :
    (blanks ++ marker).dropWhile (fun b => b == 32 || b == 9) = marker := by
  obtain ⟨b, rest, rfl, hletter⟩ := marker_head hmarker
  rw [List.dropWhile_append_of_pos (by simpa using hblanks), List.dropWhile_cons_of_neg]
  rw [(letter_of_toLower hletter).2]
  exact Bool.false_ne_true

/-- Blanks and a marker end the fields. -/
theorem FieldsEnd.blanks {meridiem : Meridiem} {blanks marker : List UInt8}
    (hblanks : ∀ b ∈ blanks, b = 32 ∨ b = 9)
    (hmarker : marker.map toLower = meridiem.marker.map toLower) :
    FieldsEnd (blanks ++ marker) := by
  cases blanks with
  | nil =>
    obtain ⟨b, rest, rfl, hletter⟩ := marker_head hmarker
    exact (letter_of_toLower hletter).1
  | cons b blanks =>
    rcases hblanks b List.mem_cons_self with rfl | rfl
    · rfl
    · rfl

section

variable {equalCi : List UInt8 → List UInt8 → Bool}
  (hequal : ∀ left right, equalCi left right = true ↔ left.map toLower = right.map toLower)

include hequal

theorem parse12Hour_eq_some {text : List UInt8} {microseconds : ℕ} :
    parse12Hour equalCi text = some microseconds ↔
      ∃ typed, ClockText .conventional12 text typed ∧
        typed.microsecond .conventional12 = microseconds := by
  have ham : bytes "AM" = Meridiem.am.marker := rfl
  have hpm : bytes "PM" = Meridiem.pm.marker := rfl
  constructor
  · intro h
    unfold parse12Hour at h
    split at h
    · next hour minute second rest hfields =>
      obtain ⟨front, rfl, hfront⟩ := parseFields_eq_some hfields
      split at h
      · cases h
      · next hrange =>
        simp only [Bool.or_eq_true, decide_eq_true_eq, not_or, not_lt] at hrange
        obtain ⟨⟨⟨hone, htwelve⟩, hminute⟩, hsecond⟩ := hrange
        have hblanks : ∀ b ∈ rest.takeWhile (fun b => b == 32 || b == 9), b = 32 ∨ b = 9 := by
          intro b hb
          simpa using List.mem_takeWhile_imp hb
        have hrest := List.takeWhile_append_dropWhile (p := fun b => b == 32 || b == 9) (l := rest)
        set marker := rest.dropWhile fun b => b == 32 || b == 9
        have htext (meridiem : Meridiem) (hmarker : equalCi marker meridiem.marker = true) :
            ClockText .conventional12 (front ++ rest) ⟨hour, minute, second, some meridiem⟩ := by
          rw [← hrest]
          exact .conventional12 hfront hone htwelve hminute hsecond hblanks
            ((hequal _ _).mp hmarker)
        simp only [ham, hpm] at h
        cases hmarker : equalCi marker Meridiem.pm.marker with
        | true =>
          simp only [hmarker, Bool.not_true, Bool.and_false, Bool.false_eq_true, if_false,
            if_true, Option.some.injEq] at h
          refine ⟨_, htext .pm hmarker, ?_⟩
          rw [← h, TypedTime.microsecond, TypedTime.hourOfDay_some hone htwelve]
          · rfl
          · exact ClockProfile.noConfusion
        | false =>
          cases hmarker' : equalCi marker Meridiem.am.marker with
          | true =>
            simp only [hmarker, hmarker', Bool.not_true, Bool.false_and, Bool.false_eq_true,
              if_false, Option.some.injEq] at h
            refine ⟨_, htext .am hmarker', ?_⟩
            rw [← h, TypedTime.microsecond, TypedTime.hourOfDay_some hone htwelve]
            · rfl
            · exact ClockProfile.noConfusion
          | false => simp [hmarker, hmarker'] at h
    · cases h
  · rintro ⟨typed, htext, rfl⟩
    cases htext with
    | @conventional12 front blanks marker hour minute second meridiem hfields hone htwelve hminute
        hsecond hblanks hmarker =>
      have hequal' (meridiem' : Meridiem) :
          equalCi marker meridiem'.marker = decide (meridiem = meridiem') := by
        rw [Bool.eq_iff_iff, hequal, hmarker, decide_eq_true_eq]
        cases meridiem <;> cases meridiem' <;> decide +kernel
      simp only [parse12Hour, hfields.parse (.blanks hblanks hmarker),
        dropWhile_blanks hblanks hmarker, ham, hpm, hequal']
      rw [if_neg (by simp only [Bool.or_eq_true, decide_eq_true_eq]; omega), if_neg (by
        cases meridiem <;> decide), TypedTime.microsecond,
        TypedTime.hourOfDay_some hone htwelve]
      · simp [usPerSecond]
      · exact ClockProfile.noConfusion

end

/-! ## The microsecond of a typed time -/

/-- What the grammar promises of the numbers. -/
theorem ClockText.range {profile : ClockProfile} {text : List UInt8} {typed : TypedTime}
    (h : ClockText profile text typed) :
    match profile with
    | .conventional24 =>
      typed.hour ≤ 23 ∧ typed.minute ≤ 59 ∧ typed.second ≤ 59 ∧ typed.meridiem = none
    | .conventional12 =>
      1 ≤ typed.hour ∧ typed.hour ≤ 12 ∧ typed.minute ≤ 59 ∧ typed.second ≤ 59 ∧
        typed.meridiem ≠ none
    | .decimal10 =>
      typed.hour ≤ 9 ∧ typed.minute ≤ 99 ∧ typed.second ≤ 99 ∧ typed.meridiem = none := by
  cases h with
  | conventional24 _ hhour hminute hsecond => exact ⟨hhour, hminute, hsecond, rfl⟩
  | conventional12 _ hone htwelve hminute hsecond =>
    exact ⟨hone, htwelve, hminute, hsecond, Option.some_ne_none _⟩
  | decimal10 _ hhour hminute hsecond => exact ⟨hhour, hminute, hsecond, rfl⟩

/-- Every typed time falls in the day. -/
theorem ClockText.microsecond_lt {profile : ClockProfile} {text : List UInt8} {typed : TypedTime}
    (h : ClockText profile text typed) : typed.microsecond profile < usPerDay := by
  have hrange := h.range
  obtain ⟨hour, minute, second, meridiem⟩ := typed
  rw [show usPerDay = 86400000000 from rfl]
  cases profile with
  | conventional24 =>
    obtain ⟨hhour, hminute, hsecond, rfl⟩ := hrange
    simp only [TypedTime.microsecond, TypedTime.hourOfDay] at hhour hminute hsecond ⊢
    omega
  | conventional12 =>
    obtain ⟨hone, htwelve, hminute, hsecond, hmeridiem⟩ := hrange
    obtain ⟨meridiem, rfl⟩ := Option.ne_none_iff_exists'.mp hmeridiem
    simp only at hone htwelve hminute hsecond
    simp only [TypedTime.microsecond, TypedTime.hourOfDay_some hone htwelve]
    split <;> omega
  | decimal10 =>
    obtain ⟨hhour, hminute, hsecond, rfl⟩ := hrange
    simp only [TypedTime.microsecond] at hhour hminute hsecond ⊢
    omega

/-- Two times that are typed differently are different times. -/
theorem ClockText.microsecond_injective {profile : ClockProfile} {text text' : List UInt8}
    {typed typed' : TypedTime} (h : ClockText profile text typed)
    (h' : ClockText profile text' typed')
    (heq : typed.microsecond profile = typed'.microsecond profile) : typed = typed' := by
  have hrange := h.range
  have hrange' := h'.range
  obtain ⟨hour, minute, second, meridiem⟩ := typed
  obtain ⟨hour', minute', second', meridiem'⟩ := typed'
  cases profile with
  | conventional24 =>
    obtain ⟨hhour, hminute, hsecond, rfl⟩ := hrange
    obtain ⟨hhour', hminute', hsecond', rfl⟩ := hrange'
    simp only [TypedTime.microsecond, TypedTime.hourOfDay] at *
    simp only [TypedTime.mk.injEq, and_true]
    omega
  | conventional12 =>
    obtain ⟨hone, htwelve, hminute, hsecond, hmeridiem⟩ := hrange
    obtain ⟨hone', htwelve', hminute', hsecond', hmeridiem'⟩ := hrange'
    obtain ⟨half, rfl⟩ := Option.ne_none_iff_exists'.mp hmeridiem
    obtain ⟨half', rfl⟩ := Option.ne_none_iff_exists'.mp hmeridiem'
    simp only at hone htwelve hminute hsecond hone' htwelve' hminute' hsecond'
    simp only [TypedTime.microsecond, TypedTime.hourOfDay_some hone htwelve,
      TypedTime.hourOfDay_some hone' htwelve'] at heq
    -- the half is that in which the hour of the day falls
    have hhalf : half = half' := by
      cases half <;> cases half' <;> simp only [reduceCtorEq, if_true, if_false] at heq ⊢ <;> omega
    subst hhalf
    simp only [TypedTime.mk.injEq, and_true]
    split at heq <;> omega
  | decimal10 =>
    obtain ⟨hhour, hminute, hsecond, rfl⟩ := hrange
    obtain ⟨hhour', hminute', hsecond', rfl⟩ := hrange'
    simp only [TypedTime.microsecond] at *
    simp only [TypedTime.mk.injEq, and_true]
    omega

/-! ## Canonical texts -/

/-- The seconds of a day. -/
def ClockProfile.secondsPerDay : ClockProfile → ℕ
  | .decimal10 => 100000
  | _ => 86400

/-- The microseconds of a second. -/
def ClockProfile.usPerSecond : ClockProfile → ℕ
  | .decimal10 => 864000
  | _ => 1000000

/-- A second of the day, as it is typed. -/
def TypedTime.ofSecond (second : ℕ) : ClockProfile → TypedTime
  | .conventional24 => ⟨second / 3600, second / 60 % 60, second % 60, none⟩
  | .conventional12 =>
    ⟨(second / 3600 + 11) % 12 + 1, second / 60 % 60, second % 60,
      some (if second < 43200 then .am else .pm)⟩
  | .decimal10 => ⟨second / 10000, second / 100 % 100, second % 100, none⟩

/-- The text of a field, with or without a zero before a single digit. -/
def fieldText (padded : Bool) (number : ℕ) : List UInt8 :=
  paddedDecimal (if padded || decide (10 ≤ number) then 2 else 1) number

/-- The canonical text of a time. Only the hour may go without its zero. -/
def TypedTime.text (padded : Bool) (typed : TypedTime) : List UInt8 :=
  fieldText padded typed.hour ++ 58 ::
    (fieldText true typed.minute ++ 58 :: fieldText true typed.second) ++
    match typed.meridiem with
    | some meridiem => 32 :: meridiem.marker
    | none => []

theorem Field.fieldText {number : ℕ} (padded : Bool) (h : number < 100) :
    Field (fieldText padded number) number := by
  have hdigit (n : ℕ) : isDigit (decimalDigit (n % 10)) = true :=
    decimalDigit_isDigit (Nat.mod_lt n (by decide))
  unfold SystemSettings.fieldText
  split
  · have hfield : Field (paddedDecimal 2 number) (decimalValue (paddedDecimal 2 number)) :=
      .two (hdigit (number / 10)) (hdigit number)
    rwa [decimalValue_paddedDecimal h] at hfield
  · next hone =>
    simp only [Bool.or_eq_true, decide_eq_true_eq, not_or, not_le] at hone
    have hfield : Field (paddedDecimal 1 number) (decimalValue (paddedDecimal 1 number)) :=
      .one (hdigit number)
    rwa [decimalValue_paddedDecimal hone.2] at hfield

/-- The canonical text of a second of the day is in the grammar. -/
theorem ClockText.ofSecond {profile : ClockProfile} {second : ℕ} (padded : Bool)
    (h : second < profile.secondsPerDay) :
    ClockText profile ((TypedTime.ofSecond second profile).text padded)
      (TypedTime.ofSecond second profile) := by
  cases profile with
  | conventional24 =>
    simp only [ClockProfile.secondsPerDay] at h
    rw [TypedTime.text]
    simp only [TypedTime.ofSecond, List.append_nil]
    exact .conventional24 (.three (.fieldText _ (by omega)) (.fieldText _ (by omega))
      (.fieldText _ (by omega))) (by omega) (by omega) (by omega)
  | conventional12 =>
    simp only [ClockProfile.secondsPerDay] at h
    rw [TypedTime.text]
    simp only [TypedTime.ofSecond]
    exact .conventional12 (.three (.fieldText _ (by omega)) (.fieldText _ (by omega))
      (.fieldText _ (by omega))) (by omega) (by omega) (by omega) (by omega)
      (show ∀ b ∈ [32], b = 32 ∨ b = 9 by simp) rfl
  | decimal10 =>
    simp only [ClockProfile.secondsPerDay] at h
    rw [TypedTime.text]
    simp only [TypedTime.ofSecond, List.append_nil]
    exact .decimal10 (.three (.fieldText _ (by omega)) (.fieldText _ (by omega))
      (.fieldText _ (by omega))) (by omega) (by omega) (by omega)

theorem TypedTime.microsecond_ofSecond {profile : ClockProfile} {second : ℕ}
    (h : second < profile.secondsPerDay) :
    (TypedTime.ofSecond second profile).microsecond profile = second * profile.usPerSecond := by
  cases profile with
  | conventional24 =>
    simp only [TypedTime.ofSecond, microsecond, hourOfDay, ClockProfile.usPerSecond]
    omega
  | conventional12 =>
    simp only [ClockProfile.secondsPerDay] at h
    simp only [TypedTime.ofSecond, microsecond, ClockProfile.usPerSecond]
    rw [hourOfDay_some (by omega) (by omega)]
    by_cases hhalf : second < 43200
    · simp only [hhalf, if_true, reduceCtorEq, if_false]
      omega
    · simp only [hhalf, if_false, if_true]
      omega
  | decimal10 =>
    simp only [TypedTime.ofSecond, microsecond, ClockProfile.usPerSecond]
    omega

/-! ## The parser -/

/-- The clock that a mode stands for. -/
inductive ModeClock (desktopUse24h : Bool) : String → ClockProfile → Prop where
  | standard : ModeClock desktopUse24h "standard"
      (if desktopUse24h then .conventional24 else .conventional12)
  | standard24 : ModeClock desktopUse24h "standard-24" .conventional24
  | standard12 : ModeClock desktopUse24h "standard-12" .conventional12
  | decimal : ModeClock desktopUse24h "decimal" .decimal10

/-- `ss_manual_time_parse`: the answer, and `*microseconds_of_day` afterwards -/
def manualTimeParseInto (equalCi : List UInt8 → List UInt8 → Bool) (clockMode : String)
    (desktopUse24h : Bool) (text : List UInt8) (output : ℤ) : Bool × ℤ :=
  match profileForMode clockMode desktopUse24h with
  | none => (false, output)
  | some profile =>
    -- `parsed` is written to the output once the text is known to be good
    let parsed := match profile with
      | .conventional12 => parse12Hour equalCi text
      | .conventional24 => parse24Hour text
      | .decimal10 => parseDecimal text
    match parsed with
    | none => (false, output)
    | some parsed => (true, parsed)

theorem profileForMode_eq_some {clockMode : String} {desktopUse24h : Bool}
    {profile : ClockProfile} :
    profileForMode clockMode desktopUse24h = some profile ↔
      ModeClock desktopUse24h clockMode profile := by
  constructor
  · intro h
    unfold profileForMode at h
    split at h
    · next found hfound =>
      obtain rfl := Option.some.inj h
      unfold nativeClockModeProfile at hfound
      split at hfound
      · next hmode =>
        subst hmode
        rw [← Option.some.inj hfound]
        exact .standard
      · split at hfound
        · next hmode =>
          subst hmode
          rw [← Option.some.inj hfound]
          exact .standard24
        · obtain ⟨hmode, hprofile⟩ := (Option.ite_none_right_eq_some ..).mp hfound
          subst hmode
          rw [← Option.some.inj hprofile]
          exact .standard12
    · obtain ⟨hmode, hprofile⟩ := (Option.ite_none_right_eq_some ..).mp h
      subst hmode
      rw [← Option.some.inj hprofile]
      exact .decimal
  · intro h
    cases h with
    | standard => rfl
    | standard24 => rfl
    | standard12 => rfl
    | decimal => rfl

/-- A mode stands for one clock. -/
theorem ModeClock.unique {desktopUse24h : Bool} {clockMode : String}
    {profile profile' : ClockProfile} (h : ModeClock desktopUse24h clockMode profile)
    (h' : ModeClock desktopUse24h clockMode profile') : profile = profile' :=
  Option.some.inj ((profileForMode_eq_some.mpr h).symm.trans (profileForMode_eq_some.mpr h'))

section

variable {equalCi : List UInt8 → List UInt8 → Bool}
  (hequal : ∀ left right, equalCi left right = true ↔ left.map toLower = right.map toLower)

include hequal

/-- The parser of a clock accepts its grammar. -/
theorem parseProfile_eq_some (profile : ClockProfile) (text : List UInt8) (parsed : ℕ) :
    (match profile with
      | .conventional12 => parse12Hour equalCi text
      | .conventional24 => parse24Hour text
      | .decimal10 => parseDecimal text) = some parsed ↔
      ∃ typed, ClockText profile text typed ∧ typed.microsecond profile = parsed := by
  cases profile with
  | conventional12 => exact parse12Hour_eq_some hequal
  | conventional24 => exact parse24Hour_eq_some
  | decimal10 => exact parseDecimal_eq_some

/-- A text of the grammar is accepted for its time, whatever the output held. -/
theorem ClockText.parse {clockMode : String} {desktopUse24h : Bool} {profile : ClockProfile}
    {text : List UInt8} {typed : TypedTime} (hmode : ModeClock desktopUse24h clockMode profile)
    (htext : ClockText profile text typed) (output : ℤ) :
    manualTimeParseInto equalCi clockMode desktopUse24h text output =
      (true, (typed.microsecond profile : ℤ)) := by
  have hparsed := (parseProfile_eq_some hequal profile text _).mpr ⟨typed, htext, rfl⟩
  simp only [manualTimeParseInto, profileForMode_eq_some.mpr hmode]
  rw [hparsed]

/-- Any other text is refused, and the output is what it was. -/
theorem manualTimeParseInto_refused {clockMode : String} {desktopUse24h : Bool}
    {text : List UInt8}
    (h : ¬∃ profile typed, ModeClock desktopUse24h clockMode profile ∧
      ClockText profile text typed) (output : ℤ) :
    manualTimeParseInto equalCi clockMode desktopUse24h text output = (false, output) := by
  unfold manualTimeParseInto
  split
  · rfl
  · next profile hprofile =>
    dsimp only
    split
    · rfl
    · next parsed hparsed =>
      obtain ⟨typed, htext, -⟩ := (parseProfile_eq_some hequal profile text parsed).mp hparsed
      exact absurd ⟨profile, typed, profileForMode_eq_some.mp hprofile, htext⟩ h

/-- **The parser of manual time accepts its grammar and nothing else.** A text is accepted
if and only if the mode stands for a clock and the text is in its grammar; the output is
then the microsecond of the time that the text says, and otherwise what it was. That
microsecond is in the day, it is not that of any other time of the clock, and the canonical
text of a second of the day gives that second back. -/
theorem manualTimeParse_accepts_grammar :
    (∀ clockMode desktopUse24h text output,
      (manualTimeParseInto equalCi clockMode desktopUse24h text output).1 = true ↔
        ∃ profile typed, ModeClock desktopUse24h clockMode profile ∧
          ClockText profile text typed) ∧
    (∀ clockMode desktopUse24h text output profile typed,
      ModeClock desktopUse24h clockMode profile → ClockText profile text typed →
      (manualTimeParseInto equalCi clockMode desktopUse24h text output).2 =
        typed.microsecond profile) ∧
    (∀ clockMode desktopUse24h text output,
      (manualTimeParseInto equalCi clockMode desktopUse24h text output).1 = false →
      (manualTimeParseInto equalCi clockMode desktopUse24h text output).2 = output) ∧
    (∀ profile text typed, ClockText profile text typed →
      typed.microsecond profile < 86400000000) ∧
    (∀ profile text text' typed typed',
      ClockText profile text typed → ClockText profile text' typed' →
      typed.microsecond profile = typed'.microsecond profile → typed = typed') ∧
    (∀ clockMode desktopUse24h profile padded second output,
      ModeClock desktopUse24h clockMode profile → second < profile.secondsPerDay →
      manualTimeParseInto equalCi clockMode desktopUse24h
          ((TypedTime.ofSecond second profile).text padded) output =
        (true, ((second * profile.usPerSecond : ℕ) : ℤ))) := by
  refine ⟨fun clockMode desktopUse24h text output => ⟨fun h => ?_, ?_⟩, ?_, ?_, ?_, ?_, ?_⟩
  · by_contra hnone
    rw [manualTimeParseInto_refused hequal hnone] at h
    exact Bool.false_ne_true h
  · rintro ⟨profile, typed, hmode, htext⟩
    rw [htext.parse hequal hmode]
  · intro clockMode desktopUse24h text output profile typed hmode htext
    rw [htext.parse hequal hmode]
  · intro clockMode desktopUse24h text output h
    by_cases hsome : ∃ profile typed, ModeClock desktopUse24h clockMode profile ∧
      ClockText profile text typed
    · obtain ⟨profile, typed, hmode, htext⟩ := hsome
      rw [htext.parse hequal hmode] at h
      exact absurd h.symm Bool.false_ne_true
    · rw [manualTimeParseInto_refused hequal hsome]
  · intro profile text typed h
    exact h.microsecond_lt
  · intro profile text text' typed typed' h h' heq
    exact h.microsecond_injective h' heq
  · intro clockMode desktopUse24h profile padded second output hmode hsecond
    rw [(ClockText.ofSecond padded hsecond).parse hequal hmode,
      TypedTime.microsecond_ofSecond hsecond]

end

/-- The comparison of the letters, decided. -/
theorem decide_toLower_iff (left right : List UInt8) :
    decide (left.map toLower = right.map toLower) = true ↔
      left.map toLower = right.map toLower := decide_eq_true_iff

/-- Noon on the 12-hour clock, with a comparison of the letters. -/
theorem manualTimeParse_accepts_grammar_noon :
    (manualTimeParseInto (fun left right => decide (left.map toLower = right.map toLower))
      "standard-12" false (bytes "12:00 pm") 0).2 = 43200000000 := by
  have htext : ClockText .conventional12 (bytes "12:00 pm") ⟨12, 0, 0, some .pm⟩ :=
    .conventional12 (.two (.two rfl rfl) (.two rfl rfl)) (by decide) (by decide) (by decide)
      (by decide) (show ∀ b ∈ [32], b = 32 ∨ b = 9 by simp)
      (show [112, 109].map toLower = Meridiem.pm.marker.map toLower by decide +kernel)
  exact (manualTimeParse_accepts_grammar decide_toLower_iff).2.1 "standard-12" false _ 0 .conventional12 _
    .standard12 htext

end SystemSettings

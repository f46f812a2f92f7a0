import SystemSettings.Decimal
import SystemSettings.Policy

/-!
# Manual time

`manual-time.c`: the clocks in which a wall time can be typed, and the parser of
each. The native default is the 12-hour or the 24-hour clock, as the desktop has
it; so the same text can be read under two clocks.

A text is the list of its bytes. Comparison without case belongs to Common.
-/

namespace SystemSettings

/-! ## Profiles -/

/-- `InfiltratrClockProfile`, as far as times can be typed in it. -/
inductive ClockProfile : Type where
  /-- `INFILTRATR_CLOCK_PROFILE_CONVENTIONAL_12` -/
  | conventional12
  /-- `INFILTRATR_CLOCK_PROFILE_CONVENTIONAL_24` -/
  | conventional24
  /-- `INFILTRATR_CLOCK_PROFILE_DECIMAL_10` -/
  | decimal10
  deriving DecidableEq

/-- `ss_native_clock_mode_profile` -/
def nativeClockModeProfile (clockMode : String) (desktopUse24h : Bool) : Option ClockProfile :=
  if clockMode = "standard" then
    some (if desktopUse24h then .conventional24 else .conventional12)
  else if clockMode = "standard-24" then some .conventional24
  else if clockMode = "standard-12" then some .conventional12
  else none

/-- `profile_for_mode` -/
def profileForMode (clockMode : String) (desktopUse24h : Bool) : Option ClockProfile :=
  match nativeClockModeProfile clockMode desktopUse24h with
  | some profile => some profile
  | none => if clockMode = "decimal" then some .decimal10 else none

/-- `ss_manual_time_mode_supported` -/
def manualTimeModeSupported (clockMode : String) : Bool :=
  (profileForMode clockMode true).isSome

/-- The profile of the identifier for a native setting. -/
@[simp] theorem profileForMode_nativeClockModeId (use24h desktopUse24h : Bool) :
    profileForMode (nativeClockModeId use24h) desktopUse24h =
      some (if use24h then .conventional24 else .conventional12) := by
  cases use24h <;> rfl

/-! ## Fields -/

/-- The digits that `parse_field` takes, two at most: their value, their number and
what follows. -/
def fieldDigits (number digits : ℕ) : List UInt8 → ℕ × ℕ × List UInt8
  | [] => (number, digits, [])
  | b :: text =>
    if isDigit b && decide (digits < 2) then
      fieldDigits (number * 10 + (b.toNat - 48)) (digits + 1) text
    else (number, digits, b :: text)

/-- `parse_field` -/
def parseField (text : List UInt8) : Option (ℕ × List UInt8) :=
  let (number, digits, rest) := fieldDigits 0 0 text
  if digits = 0 || rest.head?.any isDigit then none else some (number, rest)

/-- `parse_fields`: hour, minute and second, which is 0 when it is missing. -/
def parseFields (text : List UInt8) : Option ((ℕ × ℕ × ℕ) × List UInt8) :=
  match parseField text with
  | some (hour, 58 :: text) =>
    match parseField text with
    | some (minute, 58 :: text) =>
      (parseField text).map fun field => ((hour, minute, field.1), field.2)
    | some (minute, text) => some ((hour, minute, 0), text)
    | none => none
  | _ => none

/-! ## Clocks -/

/-- `US_PER_SECOND` -/
def usPerSecond : ℕ := 1000000

/-- `US_PER_DAY` -/
def usPerDay : ℕ := 86400 * usPerSecond

/-- `parse_24_hour` -/
def parse24Hour (text : List UInt8) : Option ℕ :=
  match parseFields text with
  | some ((hour, minute, second), []) =>
    if hour > 23 || minute > 59 || second > 59 then none
    else some ((hour * 3600 + minute * 60 + second) * usPerSecond)
  | _ => none

/-- `parse_12_hour`. `equalCi` is `infiltratr_ascii_equal_ci`. -/
def parse12Hour (equalCi : List UInt8 → List UInt8 → Bool) (text : List UInt8) : Option ℕ :=
  match parseFields text with
  | some ((hour, minute, second), text) =>
    if hour < 1 || hour > 12 || minute > 59 || second > 59 then none
    else
      let marker := text.dropWhile fun b => b == 32 || b == 9
      if !equalCi marker (bytes "AM") && !equalCi marker (bytes "PM") then none
      else
        let hour := if equalCi marker (bytes "PM") then hour % 12 + 12 else hour % 12
        some ((hour * 3600 + minute * 60 + second) * usPerSecond)
  | none => none

/-- `parse_decimal`. A decimal second is 864000 microseconds. -/
def parseDecimal (text : List UInt8) : Option ℕ :=
  match parseFields text with
  | some ((hour, minute, second), []) =>
    if hour > 9 then none
    else
      let microseconds := (hour * 10000 + minute * 100 + second) * 864000
      if microseconds < usPerDay then some microseconds else none
  | _ => none

/-- `ss_manual_time_parse`: the microseconds of the day. -/
def manualTimeParse (equalCi : List UInt8 → List UInt8 → Bool) (clockMode : String)
    (desktopUse24h : Bool) (text : List UInt8) : Option ℕ :=
  match profileForMode clockMode desktopUse24h with
  | some .conventional12 => parse12Hour equalCi text
  | some .conventional24 => parse24Hour text
  | some .decimal10 => parseDecimal text
  | none => none

/-- A text that two clocks accept, for two different times. -/
example : parse24Hour (bytes "5:30") = some 19800000000 ∧
    parseDecimal (bytes "5:30") = some 45792000000 := by decide +kernel

end SystemSettings

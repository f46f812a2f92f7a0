import SystemSettings.Decimal
import SystemSettings.Memo
import SystemSettings.Platform

/-!
# Temporal presentation

What the Home page and the preview of the Date & Time page show: the clock and
the date of one instant, as the policy chooses them.

The installed clocks, calendars and their formatters belong to Common; they are
fixed partial functions here.
-/

namespace SystemSettings

/-! ## Instants and resources -/

/-- A day of the proleptic calendar that GLib counts in. -/
structure CivilDate : Type where
  year : ℤ
  month : ℤ
  day : ℤ
  deriving DecidableEq

/-- A `GDateTime` in the local zone. -/
structure LocalTime : Type where
  date : CivilDate
  /-- microseconds since the epoch -/
  unixUs : ℤ
  /-- the offset from UTC in microseconds -/
  offsetUs : ℤ

/-- What presentation uses of `InfiltratrTemporalClockModeInfo`. -/
structure ClockModeDetails : Type where
  name : Text
  requiresLatitude : Bool
  requiresLongitude : Bool

/-- The arguments of `infiltratr_temporal_clock_presentation_format`. -/
structure ClockReading : Type where
  unixUs : ℤ
  /-- seconds east of UTC -/
  utcOffset : ℤ
  showSeconds : Bool
  hasLocation : Bool
  latitude : Double
  longitude : Double
  /-- the size of the caller's buffer -/
  capacity : ℕ

/-- An `InfiltratrTemporalClockPresentation`. -/
abbrev ClockPresentation : Type := ClockReading → Option Text

/-- What presentation uses of Common. -/
structure TemporalResources : Type where
  /-- `infiltratr_temporal_clock_mode_find` -/
  clockModeFind : String → Option ClockModeDetails
  /-- `infiltratr_temporal_clock_presentation_new` -/
  clockPresentationNew : String → Option ClockPresentation
  /-- `infiltratr_temporal_installed_calendar_find`: the name of the calendar -/
  calendarFind : String → Option Text
  /-- `infiltratr_temporal_posix_format_date` in the style `"full"` -/
  formatDate : String → CivilDate → Option Text

/-- The arguments that an instant and a policy give, with a place that may stand for none. -/
def LocalTime.reading (now : LocalTime) (policy : TemporalPolicyV3) (hasLocation : Bool)
    (latitude longitude : Double) (capacity : ℕ) : ClockReading where
  unixUs := now.unixUs
  utcOffset := now.offsetUs.tdiv 1000000
  showSeconds := policy.showSeconds
  hasLocation := hasLocation
  latitude := latitude
  longitude := longitude
  capacity := capacity

/-- The clock that a policy selects on this desktop. -/
def effectiveMode (policy : TemporalPolicyV3) (use24h : Bool) : String :=
  if policy.clockMode = "standard" then nativeClockModeId use24h else policy.clockMode

/-- `calendar != NULL ? calendar->name : policy->calendar` -/
def TemporalResources.calendarName (R : TemporalResources) (calendar : String) : Text :=
  (R.calendarFind calendar).getD (bytes calendar)

/-- The date under a calendar, as far as it can be formatted. -/
def TemporalResources.dateText (R : TemporalResources) (key : String × CivilDate) : Option Text :=
  R.formatDate key.1 key.2

end SystemSettings

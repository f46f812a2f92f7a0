import Mathlib.Algebra.Order.Field.Rat

/-!
# The temporal presentation policy

The policy document that System Settings edits, the validators and assignments
of `date-time-model.c`, the isolated drafts the command line works on, and the
classification of clock modes in `native-clock-policy.c`.

The Common library owns the policy type, the catalogue of clock modes, the
identifier grammar and the built-in default. It is not part of this repository,
so what the code uses of it is the record `Common` that every definition takes
as a parameter.
-/

namespace SystemSettings

/-! ## Doubles -/

/-- A C `double` as far as the code looks at it: a finite value, or one of the
values that are not finite. A literal of the source is its nearest binary value,
and arithmetic is exact. -/
inductive Double : Type where
  /-- a finite value: the binary fraction itself, not the decimal it is written as -/
  | finite (value : ℚ)
  /-- an infinity -/
  | infinite (negative : Bool)
  /-- not a number -/
  | nan
  deriving DecidableEq

namespace Double

instance : Inhabited Double := ⟨finite 0⟩

/-- `isfinite`. -/
def isFinite : Double → Bool
  | finite _ => true
  | _ => false

/-- The comparison `<=`; false as soon as one side is not a number. -/
def le : Double → Double → Bool
  | finite a, finite b => decide (a ≤ b)
  | infinite true, finite _ => true
  | infinite true, infinite _ => true
  | finite _, infinite false => true
  | infinite false, infinite false => true
  | _, _ => false

/-- The comparison `<`; false as soon as one side is not a number. -/
def lt : Double → Double → Bool
  | finite a, finite b => decide (a < b)
  | infinite true, finite _ => true
  | infinite true, infinite false => true
  | finite _, infinite false => true
  | _, _ => false

/-- Unary minus. -/
def neg : Double → Double
  | finite a => finite (-a)
  | infinite n => infinite !n
  | nan => nan

/-- Subtraction. -/
def sub : Double → Double → Double
  | finite a, finite b => finite (a - b)
  | finite _, infinite n => infinite !n
  | infinite n, finite _ => infinite n
  | infinite n, infinite m => if n = m then nan else infinite n
  | _, _ => nan

end Double

/-! ## The policy and what Common knows about it -/

/-- `InfiltratrTemporalPolicyV3`. -/
structure TemporalPolicyV3 : Type where
  /-- identifier of the clock system -/
  clockMode : String
  /-- identifier of the calendar -/
  calendar : String
  /-- whether seconds are shown -/
  showSeconds : Bool
  /-- whether the coordinates are a choice -/
  locationConfigured : Bool
  /-- degrees north -/
  latitude : Double
  /-- degrees east -/
  longitude : Double
  deriving DecidableEq, Inhabited

/-- `InfiltratrTemporalClockModeInfo`, reduced to the identifier. -/
structure ClockModeInfo : Type where
  /-- the catalogue's own spelling of the identifier -/
  id : String
  deriving DecidableEq

/-- What the code uses of the Common library. -/
structure Common : Type where
  /-- `infiltratr_temporal_clock_mode_find` -/
  clockModeFind : String → Option ClockModeInfo
  /-- `infiltratr_temporal_id_valid` -/
  temporalIdValid : String → Bool
  /-- `infiltratr_copy_string` into the `clock_mode` array -/
  copyClockMode : String → String
  /-- `infiltratr_copy_string` into the `calendar` array -/
  copyCalendar : String → String
  /-- `infiltratr_temporal_policy_v3_default`; `none` when it reports failure -/
  policyDefault : Option TemporalPolicyV3
  /-- `infiltratr_parse_double_range`: text, least and greatest value accepted -/
  parseDoubleRange : String → ℚ → ℚ → Option Double

/-- A small library for concrete runs: four clocks, every non-empty identifier,
and no parser of numbers. -/
def Common.small : Common where
  clockModeFind clockMode :=
    if clockMode ∈ ["standard", "standard-12", "standard-24", "decimal"] then some ⟨clockMode⟩
    else none
  temporalIdValid id := id ≠ ""
  copyClockMode := id
  copyCalendar := id
  policyDefault := some ⟨"standard", "gregorian", false, false, .finite 0, .finite 0⟩
  parseDoubleRange _ _ _ := none

variable (K : Common)

/-! ## Validation and assignment -/

/-- `valid_clock_mode` -/
def validClockMode (clockMode : String) : Option ClockModeInfo :=
  K.clockModeFind clockMode

/-- `valid_calendar`: the identifier grammar, not what is installed. -/
def validCalendar (calendarId : String) : Bool :=
  K.temporalIdValid calendarId

/-- `valid_location` -/
def validLocation (latitude longitude : Double) : Bool :=
  latitude.isFinite && longitude.isFinite &&
    Double.le (.finite (-90)) latitude && Double.le latitude (.finite 90) &&
    Double.le (.finite (-180)) longitude && Double.le longitude (.finite 180)

/-- `assign_clock_mode` -/
def assignClockMode (info : ClockModeInfo) (policy : TemporalPolicyV3) : TemporalPolicyV3 :=
  { policy with clockMode := K.copyClockMode info.id }

/-- `assign_calendar` -/
def assignCalendar (calendarId : String) (policy : TemporalPolicyV3) : TemporalPolicyV3 :=
  { policy with calendar := K.copyCalendar calendarId }

/-- The assignment to `show_seconds`. -/
def assignShowSeconds (showSeconds : Bool) (policy : TemporalPolicyV3) : TemporalPolicyV3 :=
  { policy with showSeconds := showSeconds }

/-- `assign_location` -/
def assignLocation (configured : Bool) (latitude longitude : Double)
    (policy : TemporalPolicyV3) : TemporalPolicyV3 :=
  { policy with locationConfigured := configured, latitude := latitude, longitude := longitude }

/-! ## Drafts

`SsDateTimePolicyDraft` validates like the model but never persists. A setter
that refuses its argument returns `none` and leaves the draft to its caller. -/

/-- `ss_date_time_policy_draft_set_clock_mode` -/
def policyDraftSetClockMode (draft : TemporalPolicyV3) (clockMode : String) :
    Option TemporalPolicyV3 :=
  (validClockMode K clockMode).map fun info => assignClockMode K info draft

/-- `ss_date_time_policy_draft_set_calendar` -/
def policyDraftSetCalendar (draft : TemporalPolicyV3) (calendarId : String) :
    Option TemporalPolicyV3 :=
  if validCalendar K calendarId then some (assignCalendar K calendarId draft) else none

/-- `ss_date_time_policy_draft_set_show_seconds` -/
def policyDraftSetShowSeconds (draft : TemporalPolicyV3) (showSeconds : Bool) :
    Option TemporalPolicyV3 :=
  some (assignShowSeconds showSeconds draft)

/-- `ss_date_time_policy_draft_set_location` -/
def policyDraftSetLocation (draft : TemporalPolicyV3) (configured : Bool)
    (latitude longitude : Double) : Option TemporalPolicyV3 :=
  if validLocation latitude longitude then
    some (assignLocation configured latitude longitude draft)
  else none

/-- A calendar is drafted when it is valid. -/
theorem policyDraftSetCalendar_eq_some {draft policy : TemporalPolicyV3} {calendarId : String} :
    policyDraftSetCalendar K draft calendarId = some policy ↔
      validCalendar K calendarId = true ∧ assignCalendar K calendarId draft = policy := by
  rw [policyDraftSetCalendar, Option.ite_none_right_eq_some, Option.some.injEq]

/-- A location is drafted when it is valid. -/
theorem policyDraftSetLocation_eq_some {draft policy : TemporalPolicyV3} {configured : Bool}
    {latitude longitude : Double} :
    policyDraftSetLocation draft configured latitude longitude = some policy ↔
      validLocation latitude longitude = true ∧
        assignLocation configured latitude longitude draft = policy := by
  rw [policyDraftSetLocation, Option.ite_none_right_eq_some, Option.some.injEq]

/-! ## Native clock modes -/

/-- `ss_native_clock_mode_id` -/
def nativeClockModeId (use24h : Bool) : String :=
  if use24h then "standard-24" else "standard-12"

/-- `ss_native_clock_mode_is_legacy_default` -/
def nativeClockModeIsLegacyDefault (clockMode : String) : Bool :=
  clockMode == "standard"

/-- `ss_native_clock_mode_is_conventional` -/
def nativeClockModeIsConventional (clockMode : String) : Bool :=
  clockMode == "standard-12" || clockMode == "standard-24"

/-- `ss_native_clock_mode_tracks_desktop` -/
def nativeClockModeTracksDesktop (clockMode : String) : Bool :=
  nativeClockModeIsLegacyDefault clockMode || nativeClockModeIsConventional clockMode

@[simp] theorem nativeClockModeTracksDesktop_id (use24h : Bool) :
    nativeClockModeTracksDesktop (nativeClockModeId use24h) = true := by
  cases use24h <;> decide

end SystemSettings

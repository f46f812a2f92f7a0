import SystemSettings.TemporalPresentation

/-!
# The preview of the Date & Time page

`linux-date-time-preview.c`: the two labels at the top of the page. The clock
is formatted at every tick; the date is formatted once for a day and a calendar,
and its label is left alone until one of them changes.
-/

namespace SystemSettings

variable (R : TemporalResources)

/-! ## The state of the preview -/

/-- `SsLinuxDateTimePreviewState`, its sources and its other widgets left out. -/
structure PreviewState : Type where
  clockLabel : Text
  dateLabel : Text
  clockPresentation : Option ClockPresentation
  clockPresentationId : Option String
  dateYear : ℤ
  dateMonth : ℤ
  dateDay : ℤ
  dateCalendar : Option String
  dateCacheValid : Bool

/-- The zeroed state of a new panel. -/
def PreviewState.new : PreviewState := ⟨[], [], none, none, 0, 0, 0, none, false⟩

/-- What a refresh reads. -/
structure PreviewTick : Type where
  /-- the local time, where it can be had -/
  now : Option LocalTime
  /-- `ss_date_time_model_policy` -/
  policy : Option TemporalPolicyV3
  /-- the desktop's choice of clock -/
  desktopUses24h : Bool
  regionalContext : RegionalContext

/-! ## The clock -/

/-- `ensure_clock_presentation` -/
def ensureClockPresentation (state : PreviewState) (clockId : String) :
    Option ClockPresentation × PreviewState :=
  if state.clockPresentationId = some clockId then (state.clockPresentation, state)
  else
    let presentation := R.clockPresentationNew clockId
    (presentation,
      { state with clockPresentation := presentation, clockPresentationId := some clockId })

/-- `preview_coordinates` -/
def previewCoordinates (policy : Option TemporalPolicyV3) (context : RegionalContext) :
    Option (Double × Double) :=
  match policy with
  | some policy =>
    if policy.locationConfigured then some (policy.latitude, policy.longitude) else reference
  | none => reference
where
  /-- the representative coordinate of the zone -/
  reference : Option (Double × Double) :=
    if context.hasReferenceCoordinates then
      some (context.referenceLatitude, context.referenceLongitude)
    else none

/-- `sizeof(clock_text)` -/
def clockTextSize : ℕ := 160

/-- `g_snprintf` into the clock text. -/
def clipClockText (text : Text) : Text := text.take (clockTextSize - 1)

/-- `format_preview_at` -/
def formatPreviewAt (policy : TemporalPolicyV3) (now : LocalTime) (tick : PreviewTick)
    (state : PreviewState) : Option Text × PreviewState :=
  let mode := effectiveMode policy tick.desktopUses24h
  match R.clockModeFind mode with
  | none => (none, state)
  | some info =>
    let location := previewCoordinates tick.policy tick.regionalContext
    if (info.requiresLatitude || info.requiresLongitude) && location.isNone then
      (some (clipClockText (info.name ++ bytes " — location required")), state)
    else
      match ensureClockPresentation R state mode with
      | (none, state) =>
        (some (clipClockText (info.name ++ bytes " — resource unavailable")), state)
      | (some presentation, state) =>
        let (latitude, longitude) := location.getD (.finite 0, .finite 0)
        match presentation (now.reading policy location.isSome latitude longitude clockTextSize) with
        | some text => (some text, state)
        | none => (some (clipClockText (info.name ++ bytes " — display unavailable")), state)

/-! ## The date -/

/-- `date_cache_hit` -/
def dateCacheHit (state : PreviewState) (policy : TemporalPolicyV3) (date : CivilDate) : Bool :=
  state.dateCacheValid && state.dateYear == date.year && state.dateMonth == date.month &&
    state.dateDay == date.day && state.dateCalendar == some policy.calendar

/-- The two outcomes of formatting: the summary, and whether it is cacheable. -/
def dateSummary (calendar : String) (date : CivilDate) : Text × Bool :=
  match R.formatDate calendar date with
  | some selectedDate => (R.calendarName calendar ++ bytes " • " ++ selectedDate, true)
  | none => (R.calendarName calendar ++ bytes " • resource unavailable", false)

/-- `gtk_label_set_text` on the date label, when the text differs. -/
def PreviewState.showDate (state : PreviewState) (summary : Text) : PreviewState :=
  if state.dateLabel ≠ summary then { state with dateLabel := summary } else state

/-- The part of a refresh below `if (!date_cache_hit)`. -/
def refreshDate (policy : TemporalPolicyV3) (date : CivilDate) (state : PreviewState) :
    PreviewState :=
  if dateCacheHit state policy date then state
  else
    let (summary, cacheable) := dateSummary R policy.calendar date
    if cacheable then
      { state.showDate summary with
        dateYear := date.year
        dateMonth := date.month
        dateDay := date.day
        dateCalendar := some policy.calendar
        dateCacheValid := true }
    else state.showDate summary

/-- `ss_linux_date_time_preview_refresh` -/
def previewRefresh (state : PreviewState) (tick : PreviewTick) : PreviewState :=
  match tick.now, tick.policy with
  | some now, some policy =>
    let (clockText, state) := formatPreviewAt R policy now tick state
    let state :=
      match clockText with
      | some clockText =>
        if state.clockLabel ≠ clockText then { state with clockLabel := clockText } else state
      | none => state
    refreshDate R policy now.date state
  | _, _ => state

/-- The preview after these refreshes. -/
def previewRun (state : PreviewState) (ticks : List PreviewTick) : PreviewState :=
  ticks.foldl (previewRefresh R) state

/-- The calendar and the day that a refresh is about, unless it returns at once. -/
def PreviewTick.key (tick : PreviewTick) : Option (String × CivilDate) :=
  match tick.now, tick.policy with
  | some now, some policy => some (policy.calendar, now.date)
  | _, _ => none

/-- The date label without a cache. -/
def freshDateLabel (key : String × CivilDate) : Text := (dateSummary R key.1 key.2).1

/-- Whether the date can be formatted. -/
def dateAvailable (key : String × CivilDate) : Bool := (R.dateText key).isSome

/-! ## The label as a display -/

/-- The date label and the key of the cache. -/
def PreviewState.display (state : PreviewState) : Display (String × CivilDate) Text where
  label := state.dateLabel
  key :=
    if state.dateCacheValid then
      state.dateCalendar.map (·, ⟨state.dateYear, state.dateMonth, state.dateDay⟩)
    else none

/-- The label shows the text either way. -/
theorem PreviewState.showDate_eq (state : PreviewState) (summary : Text) :
    state.showDate summary = { state with dateLabel := summary } := by
  simp only [showDate]
  split
  · rfl
  · next hsame => rw [← not_not.mp hsame]

theorem dateSummary_eq (key : String × CivilDate) :
    dateSummary R key.1 key.2 = (freshDateLabel R key, dateAvailable R key) := by
  simp only [freshDateLabel, dateAvailable, dateSummary, TemporalResources.dateText]
  cases R.formatDate key.1 key.2 <;> rfl

/-- The clock leaves the date alone. -/
theorem formatPreviewAt_display (policy : TemporalPolicyV3) (now : LocalTime) (tick : PreviewTick)
    (state : PreviewState) :
    (formatPreviewAt R policy now tick state).2.display = state.display := by
  have ensure (clockId : String) :
      (ensureClockPresentation R state clockId).2.display = state.display := by
    simp only [ensureClockPresentation]
    split <;> rfl
  simp only [formatPreviewAt]
  split
  · rfl
  split
  · rfl
  next hlocated =>
    have hensure := ensure (effectiveMode policy tick.desktopUses24h)
    split
    · next hnone => rwa [hnone] at hensure
    · next hsome =>
      rw [hsome] at hensure
      split <;> exact hensure

/-- The date of a refresh is a showing of its key. -/
theorem refreshDate_display (policy : TemporalPolicyV3) (date : CivilDate) (state : PreviewState) :
    (refreshDate R policy date state).display =
      state.display.refresh (freshDateLabel R) (dateAvailable R) (policy.calendar, date) := by
  have hhit : dateCacheHit state policy date = true ↔
      state.display.key = some (policy.calendar, date) := by
    simp only [dateCacheHit, PreviewState.display, Bool.and_eq_true, beq_iff_eq]
    cases state.dateCacheValid <;> cases state.dateCalendar <;> cases date <;> simp; tauto
  simp only [refreshDate, Display.refresh, hhit]
  split
  · rfl
  · rw [dateSummary_eq R (policy.calendar, date)]
    simp only [PreviewState.showDate_eq]
    split <;> rfl

/-- A refresh shows its key, if it has one. -/
theorem previewRefresh_display (state : PreviewState) (tick : PreviewTick) :
    (previewRefresh R state tick).display =
      match tick.key with
      | some key => state.display.refresh (freshDateLabel R) (dateAvailable R) key
      | none => state.display := by
  simp only [previewRefresh, PreviewTick.key]
  cases tick.now with
  | none => rfl
  | some now =>
    cases tick.policy with
    | none => rfl
    | some policy =>
      have hclock := formatPreviewAt_display R policy now tick state
      simp only
      rw [refreshDate_display, ← hclock]
      congr 1
      split
      · split <;> rfl
      · rfl

/-- A run of refreshes shows their keys. -/
theorem previewRun_display (state : PreviewState) (ticks : List PreviewTick) :
    (previewRun R state ticks).display =
      state.display.run (freshDateLabel R) (dateAvailable R) (ticks.filterMap PreviewTick.key) := by
  induction ticks generalizing state with
  | nil => rfl
  | cons tick ticks ih =>
    have hrun : previewRun R state (tick :: ticks) =
        previewRun R (previewRefresh R state tick) ticks :=
      rfl
    rw [hrun, ih, previewRefresh_display]
    cases hkey : tick.key with
    | none => rw [List.filterMap_cons_none hkey]
    | some key =>
      rw [List.filterMap_cons_some hkey]
      rfl

/-! ## When the label is right -/

/-- Every refresh in this sequence leaves the label that its date and its calendar
have without a cache. -/
def LabelsFresh (ticks : List PreviewTick) : Prop :=
  ∀ pre tick post, ticks = pre ++ tick :: post → ∀ key, tick.key = some key →
    (previewRun R .new (pre ++ [tick])).dateLabel = freshDateLabel R key

/-- The label of a panel is always right exactly when no refresh returns to the
date formatted last, directly from one that could not be formatted. -/
theorem labelsFresh_iff (ticks : List PreviewTick) :
    LabelsFresh R ticks ↔
      ¬ Display.ReturnsAfterFailure (freshDateLabel R) (dateAvailable R)
        (ticks.filterMap PreviewTick.key) := by
  rw [← Display.label_iff (freshDateLabel R) (dateAvailable R) (d := PreviewState.new.display) rfl]
  have label (ticks : List PreviewTick) : (previewRun R .new ticks).dateLabel =
      (PreviewState.new.display.run (freshDateLabel R) (dateAvailable R)
        (ticks.filterMap PreviewTick.key)).label :=
    congrArg Display.label (previewRun_display R .new ticks)
  constructor
  · intro h pre key post hkeys
    obtain ⟨front, rest, rfl, rfl, hrest⟩ := List.filterMap_eq_append_iff.mp hkeys
    obtain ⟨skipped, tick, back, rfl, hskipped, hkey, rfl⟩ := List.filterMap_eq_cons_iff.mp hrest
    have htick := h (front ++ skipped) tick back (by simp) key hkey
    rw [label] at htick
    simpa [List.filterMap_eq_nil_iff.mpr hskipped, hkey] using htick
  · intro h pre tick post hticks key hkey
    rw [label, List.filterMap_append, List.filterMap_cons_some hkey]
    refine h _ key (post.filterMap PreviewTick.key) ?_
    rw [hticks, List.filterMap_append, List.filterMap_cons_some hkey]

/-- One clock that nothing can show, and two calendars of which one is missing. -/
def TemporalResources.oneCalendar : TemporalResources where
  clockModeFind _ := none
  clockPresentationNew _ := none
  calendarFind _ := none
  formatDate calendar _ := if calendar = "gregorian" then some (bytes "1 May") else none

/-- A refresh at noon on the first of May under this calendar. -/
def PreviewTick.may (calendar : String) : PreviewTick where
  now := some ⟨⟨2024, 5, 1⟩, 0, 0⟩
  policy := some { (default : TemporalPolicyV3) with calendar := calendar }
  desktopUses24h := true
  regionalContext := .zero

/-- Away to a calendar that is not installed and back on the same day: the label
stays at the missing one. -/
theorem labelsFresh_counterexample :
    ¬ ∀ (R : TemporalResources) (ticks : List PreviewTick), LabelsFresh R ticks := by
  intro h
  have hlabel := h .oneCalendar [.may "gregorian", .may "hebrew", .may "gregorian"]
    [.may "gregorian", .may "hebrew"] (.may "gregorian") [] rfl ("gregorian", ⟨2024, 5, 1⟩) rfl
  exact absurd hlabel (by decide)

end SystemSettings

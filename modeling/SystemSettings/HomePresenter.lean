import SystemSettings.TemporalPresentation

/-!
# The Home presenter

`home-temporal-presentation.c`: the plain presentation of an instant under a
policy, and the long-lived presenter that keeps the policy, the desktop's choice
of clock and the last date it formatted.
-/

namespace SystemSettings

variable (R : TemporalResources) (K : Common)

/-! ## The plain presentation -/

/-- `SsHomeTemporalPresentation` -/
structure HomeTemporalPresentation : Type where
  clockText : Text
  dateText : Text
  systemTimeText : Text
  deriving DecidableEq

/-- `format_clock` -/
def formatClock (policy : TemporalPolicyV3) (now : LocalTime) (use24h : Bool) : Option Text :=
  match R.clockModeFind (effectiveMode policy use24h) with
  | none => none
  | some mode =>
    if (mode.requiresLatitude || mode.requiresLongitude) && !policy.locationConfigured then
      some (mode.name ++ bytes " — location required")
    else
      match R.clockPresentationNew (effectiveMode policy use24h) with
      | none => some (mode.name ++ bytes " — resource unavailable")
      | some presentation =>
        match presentation (now.reading policy policy.locationConfigured policy.latitude
            policy.longitude 192) with
        | some text => some text
        | none => some (mode.name ++ bytes " — display unavailable")

/-- `format_date_with_provider` -/
def formatDateWithProvider (policy : TemporalPolicyV3) (now : LocalTime) : Text :=
  match R.formatDate policy.calendar now.date with
  | some formatted => formatted
  | none => R.calendarName policy.calendar ++ bytes " — resource unavailable"

/-- The three texts from a clock and a date. -/
def presentTexts (clockText : Option Text) (dateText : Text) : Option HomeTemporalPresentation :=
  clockText.map fun clockText => ⟨clockText, dateText, dateText ++ bytes "  " ++ clockText⟩

/-- `ss_home_temporal_presentation_format` -/
def homeTemporalPresentationFormat (policy : Option TemporalPolicyV3) (now : Option LocalTime)
    (use24h : Bool) : Option HomeTemporalPresentation :=
  match policy, now with
  | some policy, some now =>
    presentTexts (formatClock R policy now use24h) (formatDateWithProvider R policy now)
  | _, _ => none

/-! ## The presenter -/

/-- `SsHomeTemporalPresenter`, its observers and its retry timer left out. -/
structure HomeTemporalPresenter : Type where
  policy : TemporalPolicyV3
  policyValid : Bool
  use24h : Bool
  cachedDateText : Option Text
  cachedCalendarId : Option String
  cachedDate : CivilDate

/-- `desktop_uses_24h_from_settings`; the setting is `none` where it cannot be read. -/
def desktopUses24hFromSettings (setting : Option Bool) : Bool := setting.getD true

/-- `presenter_format_date` -/
def presenterFormatDate (presenter : HomeTemporalPresenter) (now : LocalTime) :
    Text × HomeTemporalPresenter :=
  match presenter.cachedDateText, presenter.cachedCalendarId with
  | some text, some calendarId =>
    if presenter.cachedDate = now.date ∧ calendarId = presenter.policy.calendar then
      (text, presenter)
    else miss
  | _, _ => miss
where
  /-- the branch that asks the provider -/
  miss : Text × HomeTemporalPresenter :=
    match R.formatDate presenter.policy.calendar now.date with
    | none =>
      (R.calendarName presenter.policy.calendar ++ bytes " — resource unavailable", presenter)
    | some formatted =>
      (formatted, { presenter with
        cachedDateText := some formatted
        cachedCalendarId := some presenter.policy.calendar
        cachedDate := now.date })

/-- `presenter_format_into` -/
def presenterFormatInto (presenter : HomeTemporalPresenter) (now : LocalTime) :
    Option HomeTemporalPresentation × HomeTemporalPresenter :=
  if presenter.policyValid then
    let clockText := formatClock R presenter.policy now presenter.use24h
    let (dateText, presenter) := presenterFormatDate R presenter now
    (presentTexts clockText dateText, presenter)
  else (none, presenter)

/-- `ss_home_temporal_presenter_format_now`; `now` is `none` where the local time
cannot be had. -/
def presenterFormatNow (presenter : HomeTemporalPresenter) (now : Option LocalTime) :
    Option HomeTemporalPresentation × HomeTemporalPresenter :=
  match now with
  | some now => presenterFormatInto R presenter now
  | none => (none, presenter)

/-- `presenter_reload_policy`; `loaded` is what the store gives back, if it does. -/
def presenterReloadPolicy (loaded : Option TemporalPolicyV3) (presenter : HomeTemporalPresenter) :
    HomeTemporalPresenter :=
  match K.policyDefault, loaded with
  | some _, some loaded =>
    { presenter with policy := { loaded with showSeconds := false }, policyValid := true }
  | _, _ => presenter

/-- `on_presenter_settings_changed` -/
def onPresenterSettingsChanged (key : String) (setting : Option Bool)
    (presenter : HomeTemporalPresenter) : HomeTemporalPresenter :=
  if key = "clock-use-24h" then
    { presenter with use24h := desktopUses24hFromSettings setting }
  else presenter

/-- `ss_home_temporal_presenter_new` -/
def homeTemporalPresenterNew (setting : Option Bool) (loaded : Option TemporalPolicyV3) :
    HomeTemporalPresenter :=
  presenterReloadPolicy K loaded
    { policy := default
      policyValid := false
      use24h := desktopUses24hFromSettings setting
      cachedDateText := none
      cachedCalendarId := none
      cachedDate := ⟨0, 0, 0⟩ }

/-! ## The remembered date -/

/-- The cached date as a memory of the provider. -/
def HomeTemporalPresenter.memo (presenter : HomeTemporalPresenter) :
    Memo (String × CivilDate) Text :=
  match presenter.cachedDateText, presenter.cachedCalendarId with
  | some text, some calendarId => some ((calendarId, presenter.cachedDate), text)
  | _, _ => none

/-- The cached path looks the date up in that memory. -/
theorem presenterFormatDate_fetch (presenter : HomeTemporalPresenter) (now : LocalTime) :
    (presenterFormatDate R presenter now).1 =
        (Memo.fetch R.dateText presenter.memo (presenter.policy.calendar, now.date)).1.getD
          (R.calendarName presenter.policy.calendar ++ bytes " — resource unavailable") ∧
      (presenterFormatDate R presenter now).2.memo =
        (Memo.fetch R.dateText presenter.memo (presenter.policy.calendar, now.date)).2 := by
  have miss (hhit : presenter.memo.hit (presenter.policy.calendar, now.date) = none) :
      (presenterFormatDate.miss R presenter now).1 =
          (Memo.fetch R.dateText presenter.memo (presenter.policy.calendar, now.date)).1.getD
            (R.calendarName presenter.policy.calendar ++ bytes " — resource unavailable") ∧
        (presenterFormatDate.miss R presenter now).2.memo =
          (Memo.fetch R.dateText presenter.memo (presenter.policy.calendar, now.date)).2 := by
    simp only [Memo.fetch, hhit, presenterFormatDate.miss, TemporalResources.dateText]
    cases R.formatDate presenter.policy.calendar now.date with
    | none => exact ⟨rfl, rfl⟩
    | some formatted => exact ⟨rfl, rfl⟩
  simp only [presenterFormatDate]
  cases htext : presenter.cachedDateText with
  | none => exact miss (by simp [HomeTemporalPresenter.memo, htext, Memo.hit])
  | some text =>
    cases hcalendar : presenter.cachedCalendarId with
    | none => exact miss (by simp [HomeTemporalPresenter.memo, htext, hcalendar, Memo.hit])
    | some calendarId =>
      simp only
      split
      · next hkey =>
        have hhit : presenter.memo.hit (presenter.policy.calendar, now.date) = some text := by
          simp [HomeTemporalPresenter.memo, htext, hcalendar, Memo.hit, hkey.1, hkey.2]
        simp [Memo.fetch, hhit]
      · next hkey =>
        refine miss ?_
        simp only [HomeTemporalPresenter.memo, htext, hcalendar, Memo.hit, Prod.mk.injEq,
          ite_eq_right_iff, reduceCtorEq, imp_false]
        exact fun h => hkey ⟨h.2, h.1⟩

/-- A date costs the presenter nothing but its cache. -/
theorem presenterFormatDate_rest (presenter : HomeTemporalPresenter) (now : LocalTime) :
    (presenterFormatDate R presenter now).2.policy = presenter.policy ∧
      (presenterFormatDate R presenter now).2.policyValid = presenter.policyValid ∧
      (presenterFormatDate R presenter now).2.use24h = presenter.use24h := by
  have miss : (presenterFormatDate.miss R presenter now).2.policy = presenter.policy ∧
      (presenterFormatDate.miss R presenter now).2.policyValid = presenter.policyValid ∧
      (presenterFormatDate.miss R presenter now).2.use24h = presenter.use24h := by
    simp only [presenterFormatDate.miss]
    split <;> exact ⟨rfl, rfl, rfl⟩
  simp only [presenterFormatDate]
  split
  · split
    · exact ⟨rfl, rfl, rfl⟩
    · exact miss
  · exact miss

/-- With a sound cache the date is the plain one. -/
theorem presenterFormatDate_sound {presenter : HomeTemporalPresenter}
    (h : presenter.memo.Sound R.dateText) (now : LocalTime) :
    (presenterFormatDate R presenter now).1 = formatDateWithProvider R presenter.policy now ∧
      (presenterFormatDate R presenter now).2.memo.Sound R.dateText := by
  obtain ⟨htext, hmemo⟩ := presenterFormatDate_fetch R presenter now
  rw [htext, hmemo, h.fetch_fst]
  refine ⟨?_, h.fetch_snd _⟩
  simp only [TemporalResources.dateText, formatDateWithProvider]
  cases R.formatDate presenter.policy.calendar now.date <;> rfl

/-! ## Runs -/

/-- What happens to a presenter. -/
inductive PresenterEvent : Type where
  /-- the policy is read again: a change of its file, or a retry -/
  | reload (loaded : Option TemporalPolicyV3)
  /-- a desktop setting has changed -/
  | settingsChanged (key : String) (setting : Option Bool)
  /-- the page asks for its texts -/
  | formatNow (now : Option LocalTime)

/-- One event. -/
def PresenterEvent.apply (presenter : HomeTemporalPresenter) :
    PresenterEvent → HomeTemporalPresenter
  | reload loaded => presenterReloadPolicy K loaded presenter
  | settingsChanged key setting => onPresenterSettingsChanged key setting presenter
  | formatNow now => (presenterFormatNow R presenter now).2

/-- The presenter after these events. -/
def presenterRun (presenter : HomeTemporalPresenter) (events : List PresenterEvent) :
    HomeTemporalPresenter :=
  events.foldl (PresenterEvent.apply R K) presenter

/-- The policy that an event loads. -/
def PresenterEvent.loaded : PresenterEvent → Option TemporalPolicyV3
  | reload loaded => if K.policyDefault.isSome then loaded else none
  | _ => none

/-- The choice of clock that an event brings. -/
def PresenterEvent.use24h : PresenterEvent → Option Bool
  | settingsChanged key setting =>
    if key = "clock-use-24h" then some (desktopUses24hFromSettings setting) else none
  | _ => none

/-- The last policy that was loaded. -/
def lastLoaded (events : List PresenterEvent) : Option TemporalPolicyV3 :=
  (events.filterMap (PresenterEvent.loaded K)).getLast?

/-- The last choice of clock, or the first one. -/
def lastUse24h (first : Bool) (events : List PresenterEvent) : Bool :=
  (events.filterMap PresenterEvent.use24h).getLast?.getD first

/-- Home shows no seconds. -/
def withoutSeconds (policy : TemporalPolicyV3) : TemporalPolicyV3 :=
  { policy with showSeconds := false }

/-- The presenter holds this policy and this choice, and a sound cache. -/
structure HomeTemporalPresenter.Holds (presenter : HomeTemporalPresenter)
    (policy : Option TemporalPolicyV3) (use24h : Bool) : Prop where
  valid : presenter.policyValid = policy.isSome
  policy : ∀ p, policy = some p → presenter.policy = withoutSeconds p
  use24h : presenter.use24h = use24h
  cache : presenter.memo.Sound R.dateText

theorem HomeTemporalPresenter.Holds.format {presenter : HomeTemporalPresenter}
    {policy : Option TemporalPolicyV3} {use24h : Bool} (h : presenter.Holds R policy use24h)
    (now : Option LocalTime) :
    (presenterFormatNow R presenter now).1 =
        homeTemporalPresentationFormat R (policy.map withoutSeconds) now use24h ∧
      (presenterFormatNow R presenter now).2.Holds R policy use24h := by
  cases now with
  | none => exact ⟨by cases policy <;> rfl, h⟩
  | some now =>
    simp only [presenterFormatNow, presenterFormatInto, h.valid]
    cases policy with
    | none => exact ⟨rfl, h⟩
    | some p =>
      obtain ⟨htext, hcache⟩ := presenterFormatDate_sound R h.cache now
      obtain ⟨hpolicy, hvalid, huse⟩ := presenterFormatDate_rest R presenter now
      simp only [Option.isSome_some, if_true]
      refine ⟨?_, ⟨hvalid.trans h.valid, fun p' hp' => hpolicy.trans (h.policy p' hp'),
        huse.trans h.use24h, hcache⟩⟩
      rw [htext, h.policy p rfl, h.use24h]
      rfl

theorem HomeTemporalPresenter.Holds.reload {presenter : HomeTemporalPresenter}
    {policy : Option TemporalPolicyV3} {use24h : Bool} (h : presenter.Holds R policy use24h)
    (loaded : Option TemporalPolicyV3) :
    (presenterReloadPolicy K loaded presenter).Holds R
      ((PresenterEvent.loaded K (.reload loaded)).or policy) use24h := by
  simp only [presenterReloadPolicy, PresenterEvent.loaded]
  cases K.policyDefault with
  | none => exact h
  | some fallback =>
    cases loaded with
    | none => exact h
    | some p =>
      refine ⟨rfl, ?_, h.use24h, h.cache⟩
      rintro p' ⟨⟩
      rfl

/-- One event keeps what the presenter holds up to date. -/
theorem HomeTemporalPresenter.Holds.apply {presenter : HomeTemporalPresenter}
    {policy : Option TemporalPolicyV3} {use24h : Bool} (h : presenter.Holds R policy use24h)
    (e : PresenterEvent) :
    (e.apply R K presenter).Holds R ((e.loaded K).or policy) (e.use24h.getD use24h) := by
  cases e with
  | reload loaded => exact h.reload R K loaded
  | settingsChanged key setting =>
    simp only [PresenterEvent.apply, onPresenterSettingsChanged, PresenterEvent.use24h]
    split
    · exact ⟨h.valid, h.policy, rfl, h.cache⟩
    · exact h
  | formatNow now => exact (h.format R now).2

/-- The last answer of a list that grows at its end. -/
theorem getLast?_filterMap_append_singleton {α β : Type} (f : α → Option β) (l : List α) (a : α) :
    ((l ++ [a]).filterMap f).getLast? = (f a).or (l.filterMap f).getLast? := by
  cases h : f a <;> simp [List.filterMap_append, h]

/-- A run keeps it up to date. -/
theorem presenterRun_holds (setting : Option Bool) (loaded : Option TemporalPolicyV3)
    (events : List PresenterEvent) :
    (presenterRun R K (homeTemporalPresenterNew K setting loaded) events).Holds R
      (lastLoaded K (.reload loaded :: events))
      (lastUse24h (desktopUses24hFromSettings setting) events) := by
  induction events using List.reverseRecOn with
  | nil =>
    have hnew : HomeTemporalPresenter.Holds R
        ⟨default, false, desktopUses24hFromSettings setting, none, none, ⟨0, 0, 0⟩⟩ none
        (desktopUses24hFromSettings setting) := ⟨rfl, nofun, rfl, Memo.Sound.none _⟩
    have hlast : lastLoaded K [.reload loaded] =
        (PresenterEvent.loaded K (.reload loaded)).or none :=
      getLast?_filterMap_append_singleton (PresenterEvent.loaded K) [] (.reload loaded)
    rw [hlast]
    exact hnew.reload R K loaded
  | append_singleton events e ih =>
    have hlast : lastLoaded K (.reload loaded :: (events ++ [e])) =
        (e.loaded K).or (lastLoaded K (.reload loaded :: events)) :=
      getLast?_filterMap_append_singleton (PresenterEvent.loaded K) (.reload loaded :: events) e
    have huse : lastUse24h (desktopUses24hFromSettings setting) (events ++ [e]) =
        e.use24h.getD (lastUse24h (desktopUses24hFromSettings setting) events) := by
      rw [lastUse24h, getLast?_filterMap_append_singleton]
      cases e.use24h <;> rfl
    rw [presenterRun, List.foldl_append, hlast, huse]
    exact ih.apply R K e

/-- Every format call of the presenter is the plain one, with seconds off, on the
policy loaded last; before any is loaded it fails. -/
theorem presenterFormatNow_eq_plain (setting : Option Bool) (loaded : Option TemporalPolicyV3)
    (events : List PresenterEvent) (now : Option LocalTime) :
    let presenter := presenterRun R K (homeTemporalPresenterNew K setting loaded) events
    let policy := lastLoaded K (.reload loaded :: events)
    (presenterFormatNow R presenter now).1 =
        homeTemporalPresentationFormat R (policy.map withoutSeconds) now
          (lastUse24h (desktopUses24hFromSettings setting) events) ∧
      (policy = none → (presenterFormatNow R presenter now).1 = none) := by
  have hformat := ((presenterRun_holds R K setting loaded events).format R now).1
  refine ⟨hformat, fun hnone => ?_⟩
  rw [hformat, hnone]
  rfl

end SystemSettings

import SystemSettings.HomePolicyWatch
import SystemSettings.Transition

/-!
# The clock of the home page

`home-page.c`: the labels of the clock and the date, and the ticker that asks the presenter for
their texts. While the page is on the screen one timer asks every minute; the labels keep what was
formatted last. The presenter hears of its policy and of the desktop's settings in between, and
outlives the page.
-/

namespace SystemSettings

variable (R : TemporalResources) (K : Common)

/-- `HomeTemporalTicker`, with its labels and the presenter of its provider. -/
structure HomeClock : Type where
  presenter : HomeTemporalPresenter
  /-- the three labels -/
  labels : HomeTemporalPresentation
  /-- `source_id` -/
  sourceId : ℕ
  /-- `interval_ms` -/
  intervalMs : ℕ
  /-- the main loop's timeouts that call `refresh_home_temporal` -/
  timeouts : Timeouts
  mapped : Bool
  /-- the page has not been destroyed -/
  alive : Bool
  /-- what has happened to the presenter -/
  events : List PresenterEvent
  /-- when the labels were formatted, and what had happened to the presenter before -/
  shownAt : Option (LocalTime × List PresenterEvent)

/-- `ss_home_temporal_presenter_refresh_interval_ms`: a minute, whatever the presenter holds. -/
def refreshIntervalMs (_presenter : HomeTemporalPresenter) : ℕ := 60000

namespace HomeClock

/-- Something happens to the presenter. -/
def happens (event : PresenterEvent) (clock : HomeClock) : HomeClock :=
  { clock with
    presenter := event.apply R K clock.presenter
    events := clock.events ++ [event] }

/-- The first part of `refresh_home_temporal`: texts that cannot be formatted leave the labels. -/
def showTexts (now : Option LocalTime) (clock : HomeClock) : HomeClock :=
  match (presenterFormatNow R clock.presenter now).1 with
  | some presentation =>
    { clock.happens R K (.formatNow now) with
      labels := presentation
      shownAt := now.map fun now => (now, clock.events) }
  | none => clock.happens R K (.formatNow now)

/-- `refresh_home_temporal`; whether the timer that calls it goes on. -/
def refresh (now : Option LocalTime) (clock : HomeClock) : Bool × HomeClock :=
  let clock := clock.showTexts R K now
  let desiredInterval := refreshIntervalMs clock.presenter
  if desiredInterval ≠ clock.intervalMs then
    (false, { clock with
      intervalMs := desiredInterval
      sourceId := clock.timeouts.next
      timeouts := clock.timeouts.add desiredInterval })
  else (true, clock)

/-- `stop_home_temporal_ticker` -/
def stop (clock : HomeClock) : HomeClock :=
  if clock.sourceId ≠ 0 then
    { clock with timeouts := clock.timeouts.remove clock.sourceId, sourceId := 0 }
  else clock

/-- `start_home_temporal_ticker` -/
def start (now : Option LocalTime) (clock : HomeClock) : HomeClock :=
  if clock.sourceId ≠ 0 then clock
  else
    let clock := { clock with intervalMs := refreshIntervalMs clock.presenter }
    let clock := (clock.refresh R K now).2
    if clock.sourceId = 0 then
      { clock with
        sourceId := clock.timeouts.next
        timeouts := clock.timeouts.add clock.intervalMs }
    else clock

/-- The labels of `ss_linux_home_page_new` before anything has been formatted. -/
def unknownTexts : HomeTemporalPresentation := ⟨bytes "Unknown", [], bytes "Unknown"⟩

/-- The clock of `ss_linux_home_page_new`, whose provider makes its presenter now. -/
def new (setting : Option Bool) (loaded : Option TemporalPolicyV3) (now : Option LocalTime) :
    HomeClock :=
  showTexts R K now
    ⟨homeTemporalPresenterNew K setting loaded, unknownTexts, 0, 0, .none, false, true, [], none⟩

end HomeClock

/-- What can happen next. -/
inductive HomeClockAction : Type where
  /-- the page comes to the screen -/
  | map (now : Option LocalTime)
  /-- the page leaves the screen -/
  | unmap
  /-- a timer expires -/
  | timer (id : ℕ) (now : Option LocalTime)
  /-- the presenter's policy is read again -/
  | reload (loaded : Option TemporalPolicyV3)
  /-- a setting of the desktop has changed -/
  | settingsChanged (key : String) (setting : Option Bool)
  /-- the page is destroyed -/
  | destroy

/-- One step; `none` where the action cannot happen. -/
def homeClockStep (clock : HomeClock) : HomeClockAction → Option HomeClock
  | .map now =>
    if clock.mapped then none
    else
      let clock := { clock with mapped := true }
      some (if clock.alive then clock.start R K now else clock)
  | .unmap =>
    if clock.mapped then
      let clock := { clock with mapped := false }
      some (if clock.alive then clock.stop else clock)
    else none
  | .timer id now =>
    if id ∈ clock.timeouts.pending.map Timeout.id then
      let (goesOn, clock) := clock.refresh R K now
      some (if goesOn then clock else { clock with timeouts := clock.timeouts.remove id })
    else none
  | .reload loaded => some (clock.happens R K (.reload loaded))
  | .settingsChanged key setting => some (clock.happens R K (.settingsChanged key setting))
  | .destroy => if clock.alive then some { clock.stop with alive := false } else none

namespace HomeClock

variable {R K} {clock : HomeClock} {setting : Option Bool} {loaded : Option TemporalPolicyV3}
  {now : Option LocalTime}

/-! ## The labels -/

/-- The labels are what the presenter formatted at the time that they show. -/
structure Shows (R : TemporalResources) (K : Common) (setting : Option Bool)
    (loaded : Option TemporalPolicyV3) (clock : HomeClock) : Prop where
  presenter : clock.presenter =
    presenterRun R K (homeTemporalPresenterNew K setting loaded) clock.events
  labels : ∀ now events, clock.shownAt = some (now, events) →
    events <+: clock.events ∧
      homeTemporalPresentationFormat R
        ((lastLoaded K (.reload loaded :: events)).map withoutSeconds) (some now)
        (lastUse24h (desktopUses24hFromSettings setting) events) = some clock.labels
  unknown : clock.shownAt = none → clock.labels = unknownTexts

theorem Shows.happens (h : clock.Shows R K setting loaded) (event : PresenterEvent) :
    (clock.happens R K event).Shows R K setting loaded where
  presenter := by
    change event.apply R K clock.presenter = _
    rw [h.presenter]
    exact (List.foldl_concat ..).symm
  labels now events hshown :=
    ⟨(h.labels now events hshown).1.trans (List.prefix_append ..), (h.labels now events hshown).2⟩
  unknown := h.unknown

/-- A refresh formats the texts of its time. -/
theorem Shows.showTexts (h : clock.Shows R K setting loaded) (now : Option LocalTime) :
    (clock.showTexts R K now).Shows R K setting loaded := by
  have hkept := h.happens (.formatNow now)
  have hformat := ((presenterRun_holds R K setting loaded clock.events).format R now).1
  rw [← h.presenter] at hformat
  rw [HomeClock.showTexts]
  split
  · next presentation hpresentation =>
    cases now with
    | none => cases hpresentation
    | some now =>
      refine ⟨hkept.presenter, ?_, fun hnone => ?_⟩
      · rintro _ _ ⟨⟩
        exact ⟨List.prefix_append .., hformat ▸ hpresentation⟩
      · cases hnone
  · exact hkept

/-- What formatting leaves alone. -/
theorem showTexts_frame (clock : HomeClock) (now : Option LocalTime) :
    clock.showTexts R K now =
      { clock with
        presenter := (clock.showTexts R K now).presenter
        labels := (clock.showTexts R K now).labels
        events := (clock.showTexts R K now).events
        shownAt := (clock.showTexts R K now).shownAt } := by
  rw [showTexts]
  split
  · rfl
  · rfl

/-! ## The timer -/

/-- The identifier stands for a timer of a minute, and the interval is the minute then. -/
structure Kept (clock : HomeClock) : Prop where
  tracks : clock.timeouts.Tracks clock.sourceId (· = 60000)
  interval : clock.sourceId ≠ 0 → clock.intervalMs = 60000

/-- The timer runs exactly while the page is shown. -/
def Armed (clock : HomeClock) : Prop :=
  clock.sourceId ≠ 0 ↔ clock.mapped = true ∧ clock.alive = true

theorem Kept.showTexts (h : clock.Kept) (now : Option LocalTime) :
    (clock.showTexts R K now).Kept := by
  rw [showTexts_frame]
  exact ⟨h.tracks, h.interval⟩

theorem Armed.showTexts (h : clock.Armed) (now : Option LocalTime) :
    (clock.showTexts R K now).Armed := by
  rw [showTexts_frame]
  exact h

/-- The interval never changes, so the timer that is due goes on. -/
theorem refresh_eq (hinterval : clock.intervalMs = 60000) (now : Option LocalTime) :
    clock.refresh R K now = (true, clock.showTexts R K now) := by
  have hsame : (clock.showTexts R K now).intervalMs = 60000 := by
    rw [showTexts_frame]
    exact hinterval
  rw [refresh]
  simp [refreshIntervalMs, hsame]

/-- What a start does. -/
theorem start_eq (hid : clock.sourceId = 0) (now : Option LocalTime) :
    clock.start R K now =
      { HomeClock.showTexts R K now { clock with intervalMs := 60000 } with
        sourceId := clock.timeouts.next
        timeouts := clock.timeouts.add 60000 } := by
  have hrefresh : HomeClock.refresh R K now { clock with intervalMs := 60000 } =
      (true, HomeClock.showTexts R K now { clock with intervalMs := 60000 }) := refresh_eq rfl now
  rw [start, if_neg (not_not.mpr hid)]
  simp only [refreshIntervalMs, hrefresh]
  rw [showTexts_frame]
  simp [hid]

theorem Kept.start (h : clock.Kept) (hid : clock.sourceId = 0) (now : Option LocalTime) :
    (clock.start R K now).Kept := by
  rw [start_eq hid, showTexts_frame]
  have htracks := h.tracks
  rw [hid] at htracks
  exact ⟨htracks.add rfl, fun _ => rfl⟩

theorem armed_start (clock : HomeClock) (hid : clock.sourceId = 0)
    (hmapped : clock.mapped = true) (halive : clock.alive = true) (now : Option LocalTime) :
    (clock.start R K now).Armed := by
  rw [Armed, start_eq hid, showTexts_frame]
  exact iff_of_true (Nat.ne_of_gt clock.timeouts.next_pos) ⟨hmapped, halive⟩

theorem Kept.stop (h : clock.Kept) : clock.stop.Kept ∧ clock.stop.sourceId = 0 := by
  rw [HomeClock.stop]
  split
  · exact ⟨⟨h.tracks.remove, fun hid => absurd rfl hid⟩, rfl⟩
  · next hid => exact ⟨h, not_not.mp hid⟩

theorem stop_frame (clock : HomeClock) :
    clock.stop =
      { clock with timeouts := clock.stop.timeouts, sourceId := clock.stop.sourceId } := by
  rw [stop]
  split
  · rfl
  · rfl

/-- Starting and stopping show nothing new but what a start formats. -/
theorem Shows.start (h : clock.Shows R K setting loaded) (hid : clock.sourceId = 0)
    (now : Option LocalTime) : (clock.start R K now).Shows R K setting loaded := by
  have hready : Shows R K setting loaded { clock with intervalMs := 60000 } :=
    ⟨h.presenter, h.labels, h.unknown⟩
  have hshown := hready.showTexts now
  rw [start_eq hid]
  exact ⟨hshown.presenter, hshown.labels, hshown.unknown⟩

theorem Shows.stop (h : clock.Shows R K setting loaded) : clock.stop.Shows R K setting loaded := by
  rw [stop_frame]
  exact ⟨h.presenter, h.labels, h.unknown⟩

/-! ## Runs -/

/-- What is kept. -/
structure Good (R : TemporalResources) (K : Common) (setting : Option Bool)
    (loaded : Option TemporalPolicyV3) (clock : HomeClock) : Prop where
  shows : clock.Shows R K setting loaded
  kept : clock.Kept
  armed : clock.Armed

theorem good_new (now : Option LocalTime) :
    (new R K setting loaded now).Good R K setting loaded := by
  refine ⟨Shows.showTexts ⟨rfl, ?_, fun _ => rfl⟩ now, Kept.showTexts ⟨.inl ⟨rfl, rfl⟩, ?_⟩ now,
    Armed.showTexts ?_ now⟩
  · rintro _ _ ⟨⟩
  · exact fun hid => absurd rfl hid
  · simp [Armed]

/-- What happens to the presenter does not concern the page. -/
theorem Good.happens (h : clock.Good R K setting loaded) (event : PresenterEvent) :
    (clock.happens R K event).Good R K setting loaded :=
  ⟨h.shows.happens event, ⟨h.kept.tracks, h.kept.interval⟩, h.armed⟩

/-- What one step keeps. -/
theorem Good.step {clock' : HomeClock} {action : HomeClockAction}
    (h : clock.Good R K setting loaded) (hstep : homeClockStep R K clock action = some clock') :
    clock'.Good R K setting loaded := by
  have hpage (mapped alive : Bool) :
      Shows R K setting loaded { clock with mapped := mapped, alive := alive } ∧
        Kept { clock with mapped := mapped, alive := alive } :=
    ⟨⟨h.shows.presenter, h.shows.labels, h.shows.unknown⟩, ⟨h.kept.tracks, h.kept.interval⟩⟩
  cases action with
  | map now =>
    obtain ⟨hhidden, hsome⟩ := Option.ite_none_left_eq_some.mp hstep
    obtain rfl := Option.some.inj hsome
    have hid : clock.sourceId = 0 := by
      by_contra hid
      exact hhidden (h.armed.mp hid).1
    obtain ⟨hshows, hkept⟩ := hpage true clock.alive
    by_cases halive : clock.alive = true
    · rw [if_pos halive]
      have harmed := armed_start (R := R) (K := K) { clock with mapped := true } hid rfl halive now
      exact ⟨hshows.start hid now, hkept.start hid now, harmed⟩
    · rw [if_neg halive]
      exact ⟨hshows, hkept, by simp [Armed, hid, halive]⟩
  | unmap =>
    obtain ⟨-, hsome⟩ := Option.ite_none_right_eq_some.mp hstep
    obtain rfl := Option.some.inj hsome
    obtain ⟨hshows, hkept⟩ := hpage false clock.alive
    split
    · refine ⟨hshows.stop, hkept.stop.1, ?_⟩
      rw [Armed, stop_frame]
      simp [hkept.stop.2]
    · next halive =>
      have hid : clock.sourceId = 0 := by
        by_contra hid
        exact halive (h.armed.mp hid).2
      exact ⟨hshows, hkept, by simp [Armed, hid]⟩
  | timer id now =>
    obtain ⟨hmem, -⟩ := Option.ite_none_right_eq_some.mp hstep
    obtain ⟨timeout, htimeout, -⟩ := List.mem_map.mp hmem
    have hid : clock.sourceId ≠ 0 := by
      have hsame := (h.kept.tracks.of_mem htimeout).1
      exact hsame ▸ Nat.ne_of_gt (clock.timeouts.fresh timeout htimeout).1
    simp only [homeClockStep, refresh_eq (h.kept.interval hid), if_pos hmem] at hstep
    obtain rfl := Option.some.inj hstep
    exact ⟨h.shows.showTexts now, h.kept.showTexts now, h.armed.showTexts now⟩
  | reload loaded' =>
    obtain rfl := Option.some.inj hstep
    exact h.happens _
  | settingsChanged key setting' =>
    obtain rfl := Option.some.inj hstep
    exact h.happens _
  | destroy =>
    obtain ⟨-, hsome⟩ := Option.ite_none_right_eq_some.mp hstep
    obtain rfl := Option.some.inj hsome
    have hshows := h.shows.stop
    have hkept := h.kept.stop
    exact ⟨⟨hshows.presenter, hshows.labels, hshows.unknown⟩, ⟨hkept.1.tracks, hkept.1.interval⟩,
      by simp [Armed, hkept.2]⟩

end HomeClock

/-- **The home page's clock.** In every run there is one timer, of a minute, exactly while the page
is on the screen. The labels are the unknown ones until something could be formatted; from then on
they are the plain presentation of one instant, under the policy that had been loaded last and the
desktop's choice of clock. -/
theorem home_clock_follows_presenter {setting : Option Bool} {loaded : Option TemporalPolicyV3}
    {clock : HomeClock}
    (h : Visits (homeClockStep R K) (fun c => ∃ now, c = .new R K setting loaded now)
      (fun _ => True) clock) :
    clock.timeouts.pending.map Timeout.delay =
        (if clock.mapped && clock.alive then [60000] else []) ∧
      (clock.shownAt = none → clock.labels = HomeClock.unknownTexts) ∧
      ∀ now events, clock.shownAt = some (now, events) →
        events <+: clock.events ∧
          homeTemporalPresentationFormat R
            ((lastLoaded K (.reload loaded :: events)).map withoutSeconds) (some now)
            (lastUse24h (desktopUses24hFromSettings setting) events) = some clock.labels := by
  have hgood : clock.Good R K setting loaded := by
    refine Visits.invariant ?_ (fun s a s' _ hs hstep _ => hs.step hstep) h
    rintro _ ⟨now, rfl⟩
    exact HomeClock.good_new now
  refine ⟨hgood.kept.tracks.map_delay ?_, hgood.shows.unknown, hgood.shows.labels⟩
  rw [Bool.and_eq_true]
  exact hgood.armed

/-- A policy is saved before the page comes to the screen at noon. -/
def HomeClock.noon : HomeClock :=
  let clock := HomeClock.new .oneDay Common.small none none none
  let clock := clock.happens .oneDay Common.small (.reload (some savedPolicy))
  { clock with mapped := true }.start .oneDay Common.small (some ⟨⟨2024, 5, 1⟩, 0, 0⟩)

/-- The page shows its clock without seconds, and waits a minute. -/
theorem home_clock_follows_presenter_noon :
    HomeClock.noon.labels = ⟨[0], bytes "1 May", bytes "1 May" ++ bytes "  " ++ [0]⟩ ∧
      HomeClock.noon.timeouts.pending.map Timeout.delay = [60000] := by
  have hfollows := @home_clock_follows_presenter .oneDay Common.small none none .noon
    (.next (.map (some ⟨⟨2024, 5, 1⟩, 0, 0⟩))
      (.next (.reload (some savedPolicy)) (.start ⟨none, rfl⟩ trivial) rfl trivial) rfl trivial)
  refine ⟨?_, hfollows.1⟩
  obtain ⟨-, hlabels⟩ := hfollows.2.2 _ _ rfl
  exact (Option.some.inj hlabels).symm.trans (by decide)

end SystemSettings

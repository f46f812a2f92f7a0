import SystemSettings.Preview
import SystemSettings.Timeouts
import SystemSettings.Transition

/-!
# The timer of the preview

`linux-date-time-preview.c`, from the other side: when the preview is refreshed. While the page
is on the screen one timer waits for the next change of the clock, and when it is due it
refreshes the labels and arms the next one. Nothing waits for a page that is not shown.

The page is mapped and unmapped, its policy changes, and it is freed, in any order.
-/

namespace SystemSettings

/-! ## The next boundary -/

/-- The arguments of `infiltratr_temporal_clock_presentation_next_tick`. -/
structure TickReading : Type where
  unixUs : ℤ
  /-- seconds east of UTC -/
  utcOffset : ℤ
  showSeconds : Bool
  latitude : Double
  longitude : Double

/-- `infiltratr_temporal_clock_presentation_next_tick`, by the identifier of the clock: the
milliseconds until what it shows changes -/
abbrev NextTick : Type := String → TickReading → Option ℕ

variable (R : TemporalResources) (T : NextTick)

/-- `ss_linux_date_time_panel_preview_interval_ms` -/
def previewIntervalMs (policy : Option TemporalPolicyV3) : ℕ :=
  match policy with
  | none => 1000
  | some policy =>
    if !policy.showSeconds then 1000
    else if policy.clockMode = "standard" ∨ policy.clockMode = "standard-12" ∨
        policy.clockMode = "standard-24" then 1000
    else 250

/-- The clock needs a place, and there is none. -/
def PreviewTick.unlocated (clockId : String) (tick : PreviewTick) : Bool :=
  match R.clockModeFind clockId with
  | some info =>
    (info.requiresLatitude || info.requiresLongitude) &&
      (previewCoordinates tick.policy tick.regionalContext).isNone
  | none => false

/-- What a clock says about its next change, unless it says that it is now. -/
def PreviewTick.untilTick (clockId : String) (policy : TemporalPolicyV3) (tick : PreviewTick) :
    Option ℕ :=
  match tick.now with
  | none => none
  | some now =>
    let (latitude, longitude) :=
      (previewCoordinates tick.policy tick.regionalContext).getD (.finite 0, .finite 0)
    (T clockId ⟨now.unixUs, now.offsetUs.tdiv 1000000, policy.showSeconds, latitude,
      longitude⟩).filter fun untilTick => 0 < untilTick

/-- `next_preview_boundary_ms` -/
def nextPreviewBoundaryMs (tick : PreviewTick) (state : PreviewState) : ℕ × PreviewState :=
  match tick.policy with
  | none => (1000, state)
  | some policy =>
    let clockId := effectiveMode policy tick.desktopUses24h
    match ensureClockPresentation R state clockId with
    | (none, state) => (60000, state)
    | (some _, state) =>
      if tick.unlocated R clockId then (60000, state)
      else
        match tick.untilTick T clockId policy with
        | some untilTick => (min untilTick 60000, state)
        | none => (previewIntervalMs tick.policy, state)

/-! ## The timer -/

/-- The preview with its sources. -/
structure PreviewTimer : Type where
  /-- the labels' part -/
  preview : PreviewState
  /-- `timer_id` -/
  timerId : ℕ
  /-- `idle_id` -/
  idleId : ℕ
  /-- the main loop's timeouts that call `preview_timer_once` -/
  timeouts : Timeouts
  /-- the main loop's idle sources that call `refresh_preview_once` -/
  idles : Timeouts
  /-- `gtk_widget_get_mapped` of the root -/
  mapped : Bool
  /-- the panel has not been freed -/
  alive : Bool
  /-- what was read when the timer was armed; the code does not keep it -/
  armedAt : Option PreviewTick

namespace PreviewTimer

/-- `stop_preview_timer` -/
def stop (timer : PreviewTimer) : PreviewTimer :=
  if timer.timerId ≠ 0 then
    { timer with timeouts := timer.timeouts.remove timer.timerId, timerId := 0 }
  else timer

/-- `ss_linux_date_time_preview_restart` -/
def restart (next : PreviewTick) (timer : PreviewTimer) : PreviewTimer :=
  if !timer.mapped then timer
  else
    let timer := timer.stop
    let (delay, preview) := nextPreviewBoundaryMs R T next timer.preview
    { timer with
      preview := preview
      timerId := timer.timeouts.next
      timeouts := timer.timeouts.add delay
      armedAt := some next }

/-- `ss_linux_date_time_preview_refresh` -/
def refresh (shown : PreviewTick) (timer : PreviewTimer) : PreviewTimer :=
  { timer with preview := previewRefresh R timer.preview shown }

/-- `preview_timer_once` -/
def timerOnce (shown next : PreviewTick) (timer : PreviewTimer) : PreviewTimer :=
  ({ timer with timerId := 0 }.refresh R shown).restart R T next

/-- `refresh_preview_once` -/
def refreshOnce (shown : PreviewTick) (timer : PreviewTimer) : PreviewTimer :=
  { timer with idleId := 0 }.refresh R shown

/-- `on_panel_mapped` -/
def onPanelMapped (shown next : PreviewTick) (timer : PreviewTimer) : PreviewTimer :=
  let timer := timer.refresh R shown
  if timer.timerId = 0 then timer.restart R T next else timer

/-- `ss_linux_date_time_preview_schedule_initial` -/
def scheduleInitial (timer : PreviewTimer) : PreviewTimer :=
  if timer.idleId = 0 then
    { timer with idleId := timer.idles.next, idles := timer.idles.add 0 }
  else timer

/-- `ss_linux_date_time_preview_dispose` -/
def dispose (timer : PreviewTimer) : PreviewTimer :=
  let timer := timer.stop
  let timer :=
    if timer.idleId ≠ 0 then
      { timer with idles := timer.idles.remove timer.idleId, idleId := 0 }
    else timer
  { timer with
    preview := { timer.preview with
      dateCalendar := none
      clockPresentation := none
      clockPresentationId := none
      dateCacheValid := false } }

/-- The preview of a new panel, which is not shown yet. -/
def new : PreviewTimer :=
  PreviewTimer.scheduleInitial ⟨.new, 0, 0, .none, .none, false, true, none⟩

end PreviewTimer

/-- What can happen next, with what the calls of it read. -/
inductive PreviewAction : Type where
  /-- the page comes to the screen -/
  | map (shown next : PreviewTick)
  /-- the page leaves the screen -/
  | unmap
  /-- a timer expires -/
  | timer (id : ℕ) (shown next : PreviewTick)
  /-- the main loop is idle -/
  | idle (id : ℕ) (shown : PreviewTick)
  /-- the panel refreshes the preview, after a change of policy or of the settings -/
  | refresh (shown : PreviewTick)
  /-- the panel starts the timer again, after such a change -/
  | restart (next : PreviewTick)
  /-- the panel is freed -/
  | free

/-- One step; `none` where the action cannot happen. A panel that has been freed has no
handlers any more. -/
def previewStep (timer : PreviewTimer) : PreviewAction → Option PreviewTimer
  | .map shown next =>
    if timer.mapped then none
    else
      let timer := { timer with mapped := true }
      some (if timer.alive then timer.onPanelMapped R T shown next else timer)
  | .unmap =>
    if timer.mapped then
      let timer := { timer with mapped := false }
      some (if timer.alive then timer.stop else timer)
    else none
  | .timer id shown next =>
    if id ∈ timer.timeouts.pending.map Timeout.id then
      let timer := timer.timerOnce R T shown next
      some { timer with timeouts := timer.timeouts.remove id }
    else none
  | .idle id shown =>
    if id ∈ timer.idles.pending.map Timeout.id then
      let timer := timer.refreshOnce R shown
      some { timer with idles := timer.idles.remove id }
    else none
  | .refresh shown => if timer.alive then some (timer.refresh R shown) else none
  | .restart next => if timer.alive then some (timer.restart R T next) else none
  | .free => if timer.alive then some { timer.dispose with alive := false } else none

/-! ## The delay

The resource of a clock is kept from one tick to the next. It is the one that would be
created anew, so the delay depends on what is read only. -/

/-- The resource that is kept is that of its clock. -/
def PreviewState.Cached (state : PreviewState) : Prop :=
  ∀ clockId, state.clockPresentationId = some clockId →
    state.clockPresentation = R.clockPresentationNew clockId

/-- The delay without a cache. -/
def previewDelay (tick : PreviewTick) : ℕ := (nextPreviewBoundaryMs R T tick .new).1

/-- When the preview changes next, where the clock that it shows says so. -/
def PreviewTick.nextChange (tick : PreviewTick) : Option ℕ :=
  match tick.policy with
  | none => none
  | some policy =>
    let clockId := effectiveMode policy tick.desktopUses24h
    if (R.clockPresentationNew clockId).isSome && !tick.unlocated R clockId then
      tick.untilTick T clockId policy
    else none

variable {R T} {state : PreviewState} {tick : PreviewTick}

theorem PreviewState.cached_new : PreviewState.new.Cached R := by
  intro clockId hkept
  cases hkept

/-- Keeping the resource makes no difference. -/
theorem ensureClockPresentation_eq (h : state.Cached R) (clockId : String) :
    ensureClockPresentation R state clockId =
      (R.clockPresentationNew clockId, { state with
        clockPresentation := R.clockPresentationNew clockId
        clockPresentationId := some clockId }) := by
  rw [ensureClockPresentation]
  split
  · next hkept => rw [h clockId hkept, ← h clockId hkept, ← hkept]
  · rfl

theorem ensureClockPresentation_cached (h : state.Cached R) (clockId : String) :
    (ensureClockPresentation R state clockId).2.Cached R := by
  rw [ensureClockPresentation_eq h]
  rintro _ ⟨⟩
  rfl

/-- The delay is that of a new preview. -/
theorem nextPreviewBoundaryMs_eq (h : state.Cached R) (T : NextTick) (tick : PreviewTick) :
    (nextPreviewBoundaryMs R T tick state).1 = previewDelay R T tick ∧
      (nextPreviewBoundaryMs R T tick state).2.Cached R := by
  unfold previewDelay nextPreviewBoundaryMs
  cases tick.policy with
  | none => exact ⟨rfl, h⟩
  | some policy =>
    have hcached := ensureClockPresentation_cached h (effectiveMode policy tick.desktopUses24h)
    have hnew := ensureClockPresentation_eq (R := R) PreviewState.cached_new
    rw [ensureClockPresentation_eq h] at hcached
    simp only [ensureClockPresentation_eq h, hnew]
    cases hclock : R.clockPresentationNew (effectiveMode policy tick.desktopUses24h) with
    | none =>
      rw [hclock] at hcached
      exact ⟨rfl, hcached⟩
    | some presentation =>
      rw [hclock] at hcached
      dsimp only
      split
      · exact ⟨rfl, hcached⟩
      · split
        · exact ⟨rfl, hcached⟩
        · exact ⟨rfl, hcached⟩

theorem previewIntervalMs_bounds (policy : Option TemporalPolicyV3) :
    0 < previewIntervalMs policy ∧ previewIntervalMs policy ≤ 60000 := by
  unfold previewIntervalMs
  split
  · decide
  · split_ifs <;> decide

/-- A clock does not say that it changes now. -/
theorem PreviewTick.untilTick_pos {clockId : String} {policy : TemporalPolicyV3} {untilTick : ℕ}
    (h : tick.untilTick T clockId policy = some untilTick) : 0 < untilTick := by
  rw [PreviewTick.untilTick] at h
  split at h
  · cases h
  · exact of_decide_eq_true (Option.filter_eq_some_iff.mp h).2

/-- A preview waits for a minute at most. -/
theorem previewDelay_bounds (R : TemporalResources) (T : NextTick) (tick : PreviewTick) :
    0 < previewDelay R T tick ∧ previewDelay R T tick ≤ 60000 := by
  unfold previewDelay nextPreviewBoundaryMs
  split
  · decide
  · next policy _ =>
    dsimp only
    split
    · simp
    · split
      · simp
      · split
        · next untilTick huntil =>
          have hpos := PreviewTick.untilTick_pos huntil
          dsimp only
          omega
        · exact previewIntervalMs_bounds _

/-- A preview does not wait beyond the next change of its clock. -/
theorem previewDelay_of_nextChange {change : ℕ} (h : tick.nextChange R T = some change) :
    previewDelay R T tick = min change 60000 := by
  rw [PreviewTick.nextChange] at h
  unfold previewDelay nextPreviewBoundaryMs
  split at h
  · cases h
  · next policy hpolicy =>
    obtain ⟨hclock, huntil⟩ := Option.ite_none_right_eq_some.mp h
    rw [Bool.and_eq_true, Option.isSome_iff_exists, Bool.not_eq_true'] at hclock
    obtain ⟨⟨presentation, hpresentation⟩, hlocated⟩ := hclock
    rw [hpolicy]
    simp only [ensureClockPresentation_eq PreviewState.cached_new, hpresentation, hlocated, huntil]
    rfl

/-! ## Refreshing keeps the resource -/

theorem formatPreviewAt_cached (h : state.Cached R) (policy : TemporalPolicyV3) (now : LocalTime)
    (tick : PreviewTick) :
    (formatPreviewAt R policy now tick state).2.Cached R := by
  have hensure := ensureClockPresentation_cached h (effectiveMode policy tick.desktopUses24h)
  simp only [formatPreviewAt]
  split
  · exact h
  · split
    · exact h
    · split
      · next hnone => rwa [hnone] at hensure
      · next hsome =>
        rw [hsome] at hensure
        split <;> exact hensure

theorem previewRefresh_cached (h : state.Cached R) : (previewRefresh R state tick).Cached R := by
  rw [previewRefresh]
  split
  · next now policy _ _ =>
    have hformat := formatPreviewAt_cached h policy now tick
    -- the date has fields of its own
    have hdate (state : PreviewState) (h : state.Cached R) :
        (refreshDate R policy now.date state).Cached R := by
      rw [refreshDate]
      simp only [PreviewState.showDate_eq]
      split
      · exact h
      · split
        · exact h
        · exact h
    generalize formatPreviewAt R policy now tick state = formatted at hformat ⊢
    obtain ⟨clockText, formatted⟩ := formatted
    refine hdate _ ?_
    cases clockText with
    | none => exact hformat
    | some text =>
      dsimp only
      split_ifs
      · exact hformat
      · exact hformat
  · exact h

/-! ## The sources -/

/-- What is kept by all that the panel does: the identifiers stand for the sources, the delay is
that of what was read, and nothing waits for a panel that has been freed. -/
structure PreviewTimer.Kept (R : TemporalResources) (T : NextTick) (timer : PreviewTimer) :
    Prop where
  cached : timer.preview.Cached R
  tracks : timer.timeouts.Tracks timer.timerId fun delay =>
    ∃ tick, timer.armedAt = some tick ∧ delay = previewDelay R T tick
  idle : timer.idles.Tracks timer.idleId fun delay => delay = 0
  freed : timer.alive = false → timer.idleId = 0

/-- A timer is armed exactly for a page that is shown. -/
def PreviewTimer.Armed (timer : PreviewTimer) : Prop :=
  timer.timerId ≠ 0 ↔ timer.mapped = true ∧ timer.alive = true

namespace PreviewTimer

variable {timer : PreviewTimer} {shown next : PreviewTick}

theorem kept_new : PreviewTimer.new.Kept R T where
  cached := PreviewState.cached_new
  tracks := Timeouts.tracks_none
  idle := Timeouts.tracks_none.add rfl
  freed hfreed := by cases hfreed

theorem Kept.refresh (h : timer.Kept R T) : (timer.refresh R shown).Kept R T where
  cached := previewRefresh_cached h.cached
  tracks := h.tracks
  idle := h.idle
  freed := h.freed

/-- Without its timer the preview is as before. -/
theorem stop_eq (h : timer.Kept R T) : timer.stop.Kept R T ∧ timer.stop =
    { timer with timeouts := timer.stop.timeouts, timerId := 0 } := by
  rw [stop]
  split
  · exact ⟨⟨h.cached, h.tracks.remove, h.idle, h.freed⟩, rfl⟩
  · next hzero =>
    rw [not_not] at hzero
    exact ⟨h, by rw [← hzero]⟩

/-- A timer of a page that is shown is armed anew. -/
theorem restart_eq (T : NextTick) (next : PreviewTick) (timer : PreviewTimer)
    (hcached : timer.preview.Cached R) (hmapped : timer.mapped = true) :
    ∃ preview, preview.Cached R ∧ timer.restart R T next = { timer.stop with
      preview := preview
      timerId := timer.stop.timeouts.next
      timeouts := timer.stop.timeouts.add (previewDelay R T next)
      armedAt := some next } := by
  have hpreview : timer.stop.preview = timer.preview := by
    rw [stop]
    split <;> rfl
  obtain ⟨hdelay, hkept⟩ := nextPreviewBoundaryMs_eq hcached T next
  refine ⟨_, hkept, ?_⟩
  rw [restart, hmapped]
  simp only [hpreview, hdelay]
  rfl

theorem Kept.restart (h : timer.Kept R T) : (timer.restart R T next).Kept R T := by
  cases hmapped : timer.mapped with
  | false =>
    rw [PreviewTimer.restart, hmapped]
    exact h
  | true =>
    obtain ⟨preview, hpreview, heq⟩ := restart_eq T next timer h.cached hmapped
    obtain ⟨hstop, hsame⟩ := stop_eq h
    have htracks := hstop.tracks
    rw [hsame] at htracks
    rw [heq]
    exact ⟨hpreview, .add (.inl ⟨rfl, htracks.pending_eq_nil⟩) ⟨next, rfl, rfl⟩, hstop.idle,
      hstop.freed⟩

/-- After it has been started again the timer of a page that is shown is armed. -/
theorem Kept.restart_armed (h : timer.Kept R T) (hmapped : timer.mapped = true)
    (halive : timer.alive = true) : (timer.restart R T next).Armed := by
  obtain ⟨preview, -, heq⟩ := restart_eq T next timer h.cached hmapped
  have hsame := (stop_eq h).2
  rw [heq, hsame]
  exact iff_of_true (Nat.ne_of_gt (Timeouts.next_pos _)) ⟨hmapped, halive⟩

theorem stop_timerId (h : timer.Kept R T) : timer.stop.timerId = 0 := by
  rw [(stop_eq h).2]

/-- The page comes to the screen. -/
theorem Kept.onPanelMapped (h : timer.Kept R T) (hid : timer.timerId = 0)
    (hmapped : timer.mapped = true) (halive : timer.alive = true) :
    (timer.onPanelMapped R T shown next).Kept R T ∧
      (timer.onPanelMapped R T shown next).Armed := by
  have hrefresh : (timer.refresh R shown).Kept R T := h.refresh
  unfold PreviewTimer.onPanelMapped
  dsimp only
  rw [if_pos (show (timer.refresh R shown).timerId = 0 from hid)]
  exact ⟨hrefresh.restart, hrefresh.restart_armed hmapped halive⟩

/-- The timer is due: the labels are refreshed, and the next timer takes its place. -/
theorem Kept.timerOnce (h : timer.Kept R T) (hmapped : timer.mapped = true)
    (halive : timer.alive = true) :
    let timer' := timer.timerOnce R T shown next
    let timer' := { timer' with timeouts := timer'.timeouts.remove timer.timerId }
    timer'.Kept R T ∧ timer'.Armed := by
  have hcached : (previewRefresh R timer.preview shown).Cached R := previewRefresh_cached h.cached
  obtain ⟨preview, hpreview, heq⟩ := restart_eq T next
    ({ timer with timerId := 0 }.refresh R shown) hcached hmapped
  have hstop : ({ timer with timerId := 0 }.refresh R shown).stop =
      { timer with timerId := 0 }.refresh R shown := rfl
  rw [PreviewTimer.timerOnce, heq, hstop]
  refine ⟨⟨hpreview, h.tracks.add_remove ⟨next, rfl, rfl⟩, h.idle, h.freed⟩, ?_⟩
  exact iff_of_true (Nat.ne_of_gt timer.timeouts.next_pos) ⟨hmapped, halive⟩

/-- The main loop is idle for the first time. -/
theorem Kept.refreshOnce (h : timer.Kept R T) :
    let timer' := timer.refreshOnce R shown
    { timer' with idles := timer'.idles.remove timer.idleId }.Kept R T where
  cached := previewRefresh_cached h.cached
  tracks := h.tracks
  idle := h.idle.remove
  freed _ := rfl

/-- A panel that is freed leaves no source behind. -/
theorem Kept.dispose (h : timer.Kept R T) :
    { timer.dispose with alive := false }.Kept R T ∧
      { timer.dispose with alive := false }.Armed := by
  obtain ⟨hstop, -⟩ := stop_eq h
  have hid := stop_timerId h
  have hcached (state : PreviewState) (hnone : state.clockPresentationId = none) :
      state.Cached R := by
    intro clockId hkept
    rw [hnone] at hkept
    cases hkept
  rw [PreviewTimer.dispose]
  dsimp only
  split
  · refine ⟨⟨hcached _ rfl, hstop.tracks, hstop.idle.remove, fun _ => rfl⟩, ?_⟩
    exact iff_of_false (not_not.mpr hid) (by simp)
  · next hidle =>
    refine ⟨⟨hcached _ rfl, hstop.tracks, hstop.idle, fun _ => not_not.mp hidle⟩, ?_⟩
    exact iff_of_false (not_not.mpr hid) (by simp)

/-- Every step keeps the identifiers, and the timer with the page. -/
theorem Kept.step {timer' : PreviewTimer} {action : PreviewAction} (h : timer.Kept R T)
    (harmed : timer.Armed) (hstep : previewStep R T timer action = some timer') :
    timer'.Kept R T ∧ timer'.Armed := by
  cases action with
  | map shown next =>
    obtain ⟨hunmapped, hstep⟩ := Option.ite_none_left_eq_some.mp hstep
    obtain rfl := Option.some.inj hstep
    have hid : timer.timerId = 0 := by
      by_contra hid
      exact hunmapped (harmed.mp hid).1
    have hmapped : { timer with mapped := true }.Kept R T := ⟨h.cached, h.tracks, h.idle, h.freed⟩
    dsimp only
    by_cases halive : timer.alive = true
    · rw [if_pos halive]
      exact hmapped.onPanelMapped hid rfl halive
    · rw [if_neg halive]
      exact ⟨hmapped, iff_of_false (not_not.mpr hid) fun hshown => halive hshown.2⟩
  | unmap =>
    obtain ⟨-, hstep⟩ := Option.ite_none_right_eq_some.mp hstep
    obtain rfl := Option.some.inj hstep
    have hunmapped : { timer with mapped := false }.Kept R T :=
      ⟨h.cached, h.tracks, h.idle, h.freed⟩
    dsimp only
    by_cases halive : timer.alive = true
    · obtain ⟨hstop, hsame⟩ := stop_eq hunmapped
      rw [if_pos halive]
      refine ⟨hstop, ?_⟩
      rw [hsame]
      exact iff_of_false (by simp) (by simp)
    · rw [if_neg halive]
      exact ⟨hunmapped, iff_of_false (fun hid => halive (harmed.mp hid).2) (by simp)⟩
  | timer id shown next =>
    obtain ⟨hid, hstep⟩ := Option.ite_none_right_eq_some.mp hstep
    obtain rfl := Option.some.inj hstep
    obtain ⟨due, hdue, rfl⟩ := List.mem_map.mp hid
    have hdueId := (h.tracks.of_mem hdue).1
    have hne : timer.timerId ≠ 0 := by
      rw [← hdueId]
      exact Nat.ne_of_gt (timer.timeouts.fresh due hdue).1
    obtain ⟨hmapped, halive⟩ := harmed.mp hne
    rw [hdueId]
    exact h.timerOnce hmapped halive
  | idle id shown =>
    obtain ⟨hid, hstep⟩ := Option.ite_none_right_eq_some.mp hstep
    obtain rfl := Option.some.inj hstep
    obtain ⟨due, hdue, rfl⟩ := List.mem_map.mp hid
    rw [(h.idle.of_mem hdue).1]
    exact ⟨h.refreshOnce, harmed⟩
  | refresh shown =>
    obtain ⟨-, hstep⟩ := Option.ite_none_right_eq_some.mp hstep
    obtain rfl := Option.some.inj hstep
    exact ⟨h.refresh, harmed⟩
  | restart next =>
    obtain ⟨halive, hstep⟩ := Option.ite_none_right_eq_some.mp hstep
    obtain rfl := Option.some.inj hstep
    cases hmapped : timer.mapped with
    | true => exact ⟨h.restart, h.restart_armed hmapped halive⟩
    | false =>
      have hsame : timer.restart R T next = timer := by
        rw [PreviewTimer.restart, hmapped]
        rfl
      rw [hsame]
      exact ⟨h, harmed⟩
  | free =>
    obtain ⟨-, hstep⟩ := Option.ite_none_right_eq_some.mp hstep
    obtain rfl := Option.some.inj hstep
    exact h.dispose

end PreviewTimer

/-- **The timer follows the page.** In every run there is one timer while the page is shown, and
none otherwise; after the panel has been freed nothing is left that would call it. The timer waits
for a minute at most, and never beyond the next change that the shown clock has announced. -/
theorem preview_timer_follows_page {R : TemporalResources} {T : NextTick} {timer : PreviewTimer}
    (h : Visits (previewStep R T) (· = .new) (fun _ => True) timer) :
    timer.timeouts.pending.length ≤ 1 ∧ timer.idles.pending.length ≤ 1 ∧
    (timer.timeouts.pending ≠ [] ↔ timer.mapped = true ∧ timer.alive = true) ∧
    (timer.alive = false → timer.idles.pending = []) ∧
    ∀ due ∈ timer.timeouts.pending, due.id = timer.timerId ∧ 0 < due.delay ∧ due.delay ≤ 60000 ∧
      ∃ tick, timer.armedAt = some tick ∧ due.delay = previewDelay R T tick ∧
        ∀ change, tick.nextChange R T = some change → due.delay ≤ change := by
  have hinvariant : timer.Kept R T ∧ timer.Armed := by
    refine h.invariant (I := fun timer => timer.Kept R T ∧ timer.Armed) ?_ ?_
    · rintro _ rfl
      exact ⟨PreviewTimer.kept_new, iff_of_false (by decide) (by decide)⟩
    · rintro timer action timer' - ⟨hkept, harmed⟩ hstep -
      exact hkept.step harmed hstep
  obtain ⟨hkept, harmed⟩ := hinvariant
  refine ⟨hkept.tracks.length_le_one, hkept.idle.length_le_one, ?_, fun hfreed => ?_,
    fun due hdue => ?_⟩
  · refine Iff.trans ⟨fun hpending hid => hpending ?_, hkept.tracks.pending_ne_nil⟩ harmed
    exact (hid ▸ hkept.tracks).pending_eq_nil
  · have hidle := hkept.idle
    rw [hkept.freed hfreed] at hidle
    exact hidle.pending_eq_nil
  · obtain ⟨hid, tick, harmedAt, hdelay⟩ := hkept.tracks.of_mem hdue
    have hbounds := previewDelay_bounds R T tick
    refine ⟨hid, hdelay ▸ hbounds.1, hdelay ▸ hbounds.2, tick, harmedAt, hdelay, ?_⟩
    intro change hchange
    rw [hdelay, previewDelay_of_nextChange hchange]
    exact Nat.min_le_left ..

/-- Every clock is installed. -/
def TemporalResources.anyClock : TemporalResources :=
  { TemporalResources.oneCalendar with clockPresentationNew := fun _ => some fun _ => none }

/-- The page has come to the screen, and its first timer has expired. -/
def PreviewTimer.ticked : PreviewTimer :=
  let tick := PreviewTick.may "gregorian"
  let timer := { PreviewTimer.new with mapped := true }.onPanelMapped .anyClock
    (fun _ _ => some 400) tick tick
  let timer := timer.timerOnce .anyClock (fun _ _ => some 400) tick tick
  { timer with timeouts := timer.timeouts.remove 1 }

theorem preview_timer_follows_page_ticked : PreviewTimer.ticked.timeouts.pending = [⟨2, 400⟩] ∧
    ∀ due ∈ PreviewTimer.ticked.timeouts.pending, due.id = PreviewTimer.ticked.timerId ∧
      0 < due.delay ∧ due.delay ≤ 60000 := by
  have hfollows := @preview_timer_follows_page .anyClock (fun _ _ => some 400) .ticked
    (.next (.timer 1 (.may "gregorian") (.may "gregorian"))
      (.next (.map (.may "gregorian") (.may "gregorian")) (.start rfl trivial) rfl trivial)
      rfl trivial)
  refine ⟨rfl, fun due hdue => ?_⟩
  obtain ⟨hid, hpos, hminute, -⟩ := hfollows.2.2.2.2 due hdue
  exact ⟨hid, hpos, hminute⟩

end SystemSettings

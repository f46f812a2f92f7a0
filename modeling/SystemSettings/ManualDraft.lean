import SystemSettings.LocationSelection
import SystemSettings.ManualTime
import SystemSettings.Panel
import SystemSettings.SystemTimeOperations

/-!
# The typed wall time

The date and the time that the user types into the Date & Time panel, and what
every callback of the panel does with them: `linux-date-time-system-time.c`, and
the calls that `linux-date-time-panel.c` makes into it.

The panel marks a typed text as dirty. It drops the mark when it knows that the
clock has changed, and the next synchronisation then fills the fields again. The
clock under which the user last typed is kept beside it; the code has no such
field.

A callback that ends with a synchronisation and does nothing else to the draft is
the task `sync` after what it does.
-/

namespace SystemSettings

variable {B : Type} (K : Common) (G : GLib B) (m : ModelId)

/-! ## The fields -/

/-- The panel with the fields of manual time. -/
structure DraftPanel : Type where
  /-- the panel -/
  panel : Panel
  /-- `SsLinuxDateTimeSystemTimeState` -/
  system : SystemTimePanel
  /-- the text of `manual_date` -/
  manualDate : Text
  /-- the text of `manual_time` -/
  manualTime : Text
  /-- the clock in force when the user last typed what the fields hold; `none` when
  the panel has filled them since -/
  typedUnder : Option (Option ClockProfile)

/-- What the panel finds when it fills the fields. -/
structure ManualReading : Type where
  /-- `g_date_time_new_now_local` and its date -/
  today : Option Text
  /-- `infiltratr_temporal_clock_presentation_new` and `_format`, at the present
  instant: clock and seconds -/
  clockText : String → Bool → Option Text

/-- `manual_representation_supported` -/
def manualRepresentationSupported (policy : Option TemporalPolicyV3) : Bool :=
  policy.any fun policy =>
    policy.calendar == "gregorian" && manualTimeModeSupported policy.clockMode

/-- `format_manual_clock_resource` -/
def formatManualClockResource (reading : ManualReading) (mode : String) (desktopUse24h : Bool)
    (seconds : Bool) : Option Text :=
  reading.clockText (if mode = "standard" then nativeClockModeId desktopUse24h else mode) seconds

/-- The fields are filled as far as there is something to fill them with. -/
def DraftPanel.fill (draft : DraftPanel) (date time : Option Text) : DraftPanel :=
  { draft with
    manualDate := date.getD draft.manualDate
    manualTime := time.getD draft.manualTime
    typedUnder := if date.isSome && time.isSome then none else draft.typedUnder }

/-- `fill_manual_time_entries` -/
def fillManualTimeEntries (reading : ManualReading) (draft : DraftPanel) : SysM B DraftPanel := do
  match ← modelPolicy m with
  | none => pure draft
  | some policy =>
    if reading.today.isNone || !manualRepresentationSupported (some policy) then pure draft
    else
      let desktopUse24h ← desktopUses24h
      pure (draft.fill reading.today
        (formatManualClockResource reading policy.clockMode desktopUse24h policy.showSeconds))

/-- `ss_linux_date_time_system_time_sync`, from the state that the service reports -/
def draftSyncState (reading : ManualReading) (draft : DraftPanel)
    (state : Option SystemTimeState) : SysM B DraftPanel := do
  let supported := manualRepresentationSupported (← modelPolicy m)
  let draft := { draft with system := systemTimeSync ⟨state, supported⟩ draft.system }
  if draft.system.controls.manualRow && !draft.system.manualDirty then
    fillManualTimeEntries m reading draft
  else pure draft

/-- `ss_linux_date_time_system_time_sync` -/
def draftSync (reading : ManualReading) (draft : DraftPanel) : SysM B DraftPanel :=
  if draft.system.service then do
    draftSyncState m reading draft (← readSystemTime)
  else draftSyncState m reading draft none

/-- `ss_linux_date_time_system_time_invalidate_manual_draft` -/
def DraftPanel.invalidate (draft : DraftPanel) : DraftPanel :=
  { draft with system := { draft.system with manualDirty := false } }

/-- `on_manual_entry_changed`, by the user: the fields as they are now, and the
clock in force. -/
def onManualEntryChanged (date time : Text) (clock : Option ClockProfile) (draft : DraftPanel) :
    DraftPanel :=
  { draft with
    manualDate := date
    manualTime := time
    system := { draft.system with manualDirty := true }
    typedUnder := some clock }

/-! ## Set time -/

/-- What `parse_manual_datetime` reads, and the instant it makes of it. -/
structure ManualSubmission : Type where
  clockMode : String
  desktopUse24h : Bool
  date : Text
  time : Text
  instant : ℤ

/-- The parts of `parse_manual_datetime` that belong to others: the comparison of
Common, and the instant of a date text and the microseconds of a day. -/
structure ManualParser : Type where
  /-- `infiltratr_ascii_equal_ci` -/
  equalCi : Text → Text → Bool
  /-- the date and the local calendar -/
  localInstant : Text → ℕ → Option ℤ

/-- `parse_manual_datetime` -/
def parseManualDatetime (P : ManualParser) (draft : DraftPanel) :
    SysM B (Option ManualSubmission) := do
  match ← modelPolicy m with
  | none => pure none
  | some policy =>
    if !manualRepresentationSupported (some policy) then pure none
    else
      let desktopUse24h ← desktopUses24h
      pure (((manualTimeParse P.equalCi policy.clockMode desktopUse24h draft.manualTime).bind
        (P.localInstant draft.manualDate)).map fun instant =>
          ⟨policy.clockMode, desktopUse24h, draft.manualDate, draft.manualTime, instant⟩)

/-- `on_manual_set_time_clicked`: what is sent to the service, if anything. -/
def draftSetTimeClicked (P : ManualParser) (reading : ManualReading) (draft : DraftPanel) :
    SysM B (Option ManualSubmission × DraftPanel) := do
  if !draft.system.service then pure (none, draft)
  else
    match ← parseManualDatetime m P draft with
    | none => pure (none, draft)
    | some submission =>
      match beginSystemTimeOperation .manual draft.system with
      | none => pure (none, draft)
      | some (_, system) =>
        let draft ← draftSync m reading { draft with system := system }
        pure (some submission, draft)

/-! ## The callbacks -/

/-- `on_clock_changed` and `on_calendar_changed`: a setter that succeeds changes how
a typed text is to be read. -/
def draftRepresentationChanged (set : SysM B Bool) (reading : ManualReading) (draft : DraftPanel) :
    SysM B DraftPanel := do
  let saved ← set
  draftSync m reading (if saved then draft.invalidate else draft)

/-- `on_clock_changed`, with the identifier of the selected mode -/
def draftClockChanged (id : String) (reading : ManualReading) (draft : DraftPanel) :
    SysM B DraftPanel :=
  draftRepresentationChanged m (modelSetClockMode K m id) reading draft

/-- `on_calendar_changed`, with the identifier of the selected calendar -/
def draftCalendarChanged (id : String) (reading : ManualReading) (draft : DraftPanel) :
    SysM B DraftPanel :=
  draftRepresentationChanged m (modelSetCalendar K m id) reading draft

/-- `on_seconds_changed` -/
def draftSecondsChanged (active : Bool) (reading : ManualReading) (draft : DraftPanel) :
    SysM B DraftPanel := do
  let _ ← modelSetShowSeconds m active
  draftSync m reading draft

/-- What `policy_file_changed` does for the panel when the policy has been reloaded. -/
def policyFileReloaded (panel : Panel) : SysM B Panel := do
  if ← locationMetadataRecover G then
    let loaded ← locationMetadataLoadStatus G
    let panel := { panel.remember loaded with
      metadataUncertain := loaded.1 = .invalid ∨ loaded.1 = .ioError
      recoveryFailed := false }
    pure (refreshLocationAuthorityState (← modelPolicy m) panel)
  else
    pure (refreshLocationAuthorityState (← modelPolicy m) { panel with recoveryFailed := true })

/-- `policy_file_changed` -/
def draftPolicyFileChanged (reading : ManualReading) (draft : DraftPanel) : SysM B DraftPanel := do
  match ← modelPolicy m with
  | none => pure draft
  | some previous =>
    if ← modelReload K m then
      let panel ← policyFileReloaded G m draft.panel
      let policy ← modelPolicy m
      let manualContextChanged := policy.any fun policy =>
        previous.clockMode != policy.clockMode || previous.calendar != policy.calendar
      let draft := { draft with panel := panel }
      draftSync m reading (if manualContextChanged then draft.invalidate else draft)
    else pure draft

theorem policyFileChanged_eq (panel : Panel) : policyFileChanged K G m panel = (do
    match ← modelPolicy m with
    | none => pure panel
    | some _ => if ← modelReload K m then policyFileReloaded G m panel else pure panel) := rfl

/-- `ss_linux_date_time_panel_reconcile_system_time_change` -/
def draftReconcile (systemState : SystemTimeState) (reading : ManualReading)
    (draft : DraftPanel) : SysM B DraftPanel := do
  if !systemState.available then draftSync m reading draft
  else
    let timezoneChanged := !systemState.timezone.isEmpty &&
      draft.panel.regionalContext.timezoneId != systemState.timezone
    let draft := if timezoneChanged || systemState.ntpEnabled then draft.invalidate else draft
    let panel ← reconcileSystemTimeChange K G m systemState draft.panel
    draftSync m reading { draft with panel := panel }

/-- A request for a protected operation other than Set time. -/
def draftRequest (operation : SystemTimeOperation) (reading : ManualReading)
    (draft : DraftPanel) : SysM B DraftPanel :=
  if draft.system.service then
    match beginSystemTimeOperation operation draft.system with
    | none => draftSync m reading draft
    | some (_, system) => draftSync m reading { draft with system := system }
  else pure draft

/-- `system_time_operation_complete` -/
def draftOperationComplete (request : SystemTimeUiRequest) (ok : Bool) (reading : ManualReading)
    (draft : DraftPanel) : SysM B DraftPanel :=
  if request.generation = draft.system.generation request.operation then do
    let system := { draft.system with
      inFlight := Function.update draft.system.inFlight request.operation false }
    let draft := { draft with system := system }
    if ok then
      let panel ← systemTimeOperationApplied draft.panel
      draftSync m reading { draft.invalidate with panel := panel }
    else draftSync m reading draft
  else pure draft

/-! ## Runs -/

/-- What can happen to a live panel. -/
inductive DraftTask : Type where
  /-- the controls are synchronised -/
  | sync
  /-- the user edits the fields -/
  | edit (date time : Text)
  /-- `on_manual_set_time_clicked` -/
  | setTime
  /-- `on_clock_changed` -/
  | clockChanged (id : String)
  /-- `on_calendar_changed` -/
  | calendarChanged (id : String)
  /-- `on_seconds_changed` -/
  | secondsChanged (active : Bool)
  /-- `on_location_result_activated` or `commit_location_coordinates` -/
  | place (t : TokenId) (candidate : LocationMetadata)
  /-- `policy_file_changed` -/
  | policyFileChanged
  /-- `location_metadata_file_changed` -/
  | locationMetadataFileChanged
  /-- `retry_locality_recovery` -/
  | retryLocalityRecovery
  /-- `on_cinnamon_interface_changed` -/
  | interfaceChanged (updatingControls : Bool) (key : String)
  /-- `ss_linux_date_time_panel_reconcile_system_time_change` -/
  | reconcile (systemState : SystemTimeState)
  /-- `request_system_timezone` or `on_network_time_changed` -/
  | request (operation : SystemTimeOperation)
  /-- `system_time_operation_complete` -/
  | operationComplete (sent : SystemTimeUiRequest) (ok : Bool)
  /-- `system_time_service_ready` -/
  | serviceReady
  /-- the desktop's `clock-use-24h` is set -/
  | nativeChanged (native : Option Bool)

/-- The panel, the memory of its process, and the desktop's `clock-use-24h`. -/
structure DraftState : Type where
  draft : DraftPanel
  memory : Memory
  native : Option Bool

/-- The clock in force: that of the policy, as the desktop resolves it. -/
def DraftState.clock (x : DraftState) : Option ClockProfile :=
  (x.memory.models m).bind fun priv =>
    profileForMode priv.policy.clockMode (x.native.getD true)

/-- Run a task. -/
def DraftTask.run (P : ManualParser) (reading : ManualReading) (clock : Option ClockProfile)
    (draft : DraftPanel) : DraftTask → SysM B DraftPanel
  | sync => draftSync m reading draft
  | edit date time => pure (onManualEntryChanged date time clock draft)
  | setTime => Prod.snd <$> draftSetTimeClicked m P reading draft
  | clockChanged id => draftClockChanged K m id reading draft
  | calendarChanged id => draftCalendarChanged K m id reading draft
  | secondsChanged active => draftSecondsChanged m active reading draft
  | place t candidate => do
    pure { draft with panel := ← commitLocation K G m t candidate draft.panel }
  | policyFileChanged => draftPolicyFileChanged K G m reading draft
  | locationMetadataFileChanged => do
    pure { draft with panel := ← SystemSettings.locationMetadataFileChanged G m draft.panel }
  | retryLocalityRecovery => do
    pure { draft with panel := ← SystemSettings.retryLocalityRecovery G m draft.panel }
  | interfaceChanged updatingControls key => do
    onCinnamonInterfaceChanged K m updatingControls key
    pure draft
  | reconcile systemState => draftReconcile K G m systemState reading draft
  | request operation => draftRequest m operation reading draft
  | operationComplete sent ok => draftOperationComplete m sent ok reading draft
  | serviceReady =>
    draftSync m reading { draft with system := { draft.system with service := true } }
  | nativeChanged _ => pure draft

/-- What the desktop has after a task. -/
def DraftTask.nativeAfter (native : Option Bool) : DraftTask → Option Bool
  | nativeChanged native' => native'
  | _ => native

/-- The desktop answers what it has. -/
def TellsNative (native : Option Bool) : (c : Call B) → c.Answer → Prop
  | .clockUse24h, answer => answer = native
  | _, _ => True

/-- One task of a live panel, for any other answers of the world. -/
structure DraftStep (P : ManualParser) (task : DraftTask) (reading : ManualReading)
    (tr : List (Event (Sys B) Unit)) (x x' : DraftState) : Prop where
  runs : (task.run K G m P reading (x.clock m) x.draft x.memory).Yields tr x'.draft x'.memory
  native : x'.native = task.nativeAfter x.native
  tells : ∀ e ∈ tr, TellsNative x.native e.cmd e.resp

/-- A panel that has just been made, over any policy. -/
structure DraftState.Fresh (x : DraftState) : Prop where
  typedUnder : x.draft.typedUnder = none
  clean : x.draft.system.manualDirty = false
  store : ∀ priv, x.memory.models m = some priv → priv.store = platformTemporalPolicyStore

/-- The states of a panel whose every task so far was allowed. -/
inductive DraftRun (P : ManualParser)
    (allows : DraftTask → ManualReading → List (Event (Sys B) Unit) → DraftState → Prop) :
    DraftState → Prop where
  /-- the panel has just been made -/
  | start {x : DraftState} : x.Fresh m → DraftRun P allows x
  /-- one task more -/
  | step {x x' : DraftState} {reading : ManualReading} {tr : List (Event (Sys B) Unit)}
      (task : DraftTask) : DraftRun P allows x → DraftStep K G m P task reading tr x x' →
      allows task reading tr x → DraftRun P allows x'

end SystemSettings

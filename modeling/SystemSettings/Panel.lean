import SystemSettings.LocationMetadata
import SystemSettings.DateTimeModel

/-!
# The Date & Time panel

The part of `linux-date-time-panel.c` that decides what is written: the start of
a panel, the reaction to the desktop's own settings, and the reconciliation with
the system time zone. Widgets, status texts and the draft of a manual time are
left out.

A panel is a value that its functions take and return. Its model is the handle
`m` in the memory of the process.
-/

namespace SystemSettings

variable {B : Type} (K : Common) (G : GLib B) (m : ModelId)

/-- The fields of `SsLinuxDateTimePanel` that these functions use. -/
structure Panel : Type where
  /-- `regional_context` -/
  regionalContext : RegionalContext
  /-- `location.metadata` -/
  metadata : LocationMetadata
  /-- `location.metadata_present` -/
  metadataPresent : Bool
  /-- `location.metadata_uncertain` -/
  metadataUncertain : Bool
  /-- `location.follows_timezone_reference` -/
  followsTimezoneReference : Bool
  /-- `location.recovery_failed` -/
  recoveryFailed : Bool
  deriving DecidableEq

/-! ## What the panel knows -/

/-- `ss_linux_date_time_location_coordinate_close` -/
def locationCoordinateClose (left right : Double) : Bool := coordinateClose left right

/-- `ss_linux_date_time_location_metadata_matches_policy` -/
def locationMetadataMatchesPolicy (panel : Panel) : Option TemporalPolicyV3 → Bool
  | none => false
  | some policy =>
    policy.locationConfigured && panel.metadataPresent &&
      locationCoordinateClose policy.latitude panel.metadata.latitude &&
      locationCoordinateClose policy.longitude panel.metadata.longitude

/-- `ss_linux_date_time_location_policy_matches_reference` -/
def locationPolicyMatchesReference (panel : Panel) : Option TemporalPolicyV3 → Bool
  | none => false
  | some policy =>
    panel.regionalContext.hasReferenceCoordinates && policy.locationConfigured &&
      locationCoordinateClose policy.latitude panel.regionalContext.referenceLatitude &&
      locationCoordinateClose policy.longitude panel.regionalContext.referenceLongitude

/-- `refresh_location_authority_state`, given the model's policy -/
def refreshLocationAuthorityState (policy : Option TemporalPolicyV3) (panel : Panel) : Panel :=
  { panel with
    followsTimezoneReference :=
      if panel.metadataUncertain then false
      else !locationMetadataMatchesPolicy panel policy &&
        (policy.all (fun policy => !policy.locationConfigured) ||
          locationPolicyMatchesReference panel policy) }

@[simp] theorem locationMetadataMatchesPolicy_refresh (policy policy' : Option TemporalPolicyV3)
    (panel : Panel) :
    locationMetadataMatchesPolicy (refreshLocationAuthorityState policy' panel) policy =
      locationMetadataMatchesPolicy panel policy := by
  cases policy <;> rfl

@[simp] theorem locationPolicyMatchesReference_refresh (policy policy' : Option TemporalPolicyV3)
    (panel : Panel) :
    locationPolicyMatchesReference (refreshLocationAuthorityState policy' panel) policy =
      locationPolicyMatchesReference panel policy := by
  cases policy <;> rfl

/-- The panel after a read of `location.ini` with this outcome. An unreadable
file leaves the record it remembers. -/
def Panel.remember (panel : Panel) : LoadStatus × LocationMetadata → Panel
  | (.ok, loaded) => { panel with metadata := loaded, metadataPresent := true }
  | (.missing, _) => { panel with metadata := .zero, metadataPresent := false }
  | _ => panel

section Remember

variable (panel : Panel) (loaded : LoadStatus × LocationMetadata)

@[simp] theorem Panel.remember_regionalContext :
    (panel.remember loaded).regionalContext = panel.regionalContext := by
  obtain ⟨status, metadata⟩ := loaded
  cases status <;> rfl

@[simp] theorem Panel.remember_metadataUncertain :
    (panel.remember loaded).metadataUncertain = panel.metadataUncertain := by
  obtain ⟨status, metadata⟩ := loaded
  cases status <;> rfl

end Remember

/-- `ss_date_time_model_policy` -/
def modelPolicy : SysM B (Option TemporalPolicyV3) := do
  pure ((← readModel m).map ModelPrivate.policy)

/-- `ss_date_time_model_is_saving` -/
def modelIsSaving : SysM B Bool := do
  pure ((← readModel m).any ModelPrivate.saving)

/-- `ss_date_time_model_has_persisted_policy` -/
def modelHasPersistedPolicy : SysM B Bool := do
  pure ((← readModel m).any ModelPrivate.persistedPolicyPresent)

@[simp] theorem modelPolicy_run (s : Memory) :
    (modelPolicy m : SysM B _) s = .ret ((s.models m).map ModelPrivate.policy) s := rfl

@[simp] theorem modelIsSaving_run (s : Memory) :
    (modelIsSaving m : SysM B _) s = .ret ((s.models m).any ModelPrivate.saving) s := rfl

@[simp] theorem modelHasPersistedPolicy_run (s : Memory) :
    (modelHasPersistedPolicy m : SysM B _) s =
      .ret ((s.models m).any ModelPrivate.persistedPolicyPresent) s := rfl

/-! ## The desktop's settings -/

/-- `ss_linux_date_time_panel_desktop_uses_24h` -/
def desktopUses24h : SysM B Bool := do
  pure ((← cinnamonClockUse24h).getD true)

/-- `migrate_legacy_native_clock` -/
def migrateLegacyNativeClock : SysM B Bool := do
  match ← modelPolicy m with
  | none => pure true
  | some policy =>
    if !nativeClockModeIsLegacyDefault policy.clockMode then pure true
    else
      let native := nativeClockModeId (← desktopUses24h)
      if !(← modelHasPersistedPolicy m) then modelNormalizeUnpersistedClockMode K m native
      else modelSetClockMode K m native

/-- `on_cinnamon_interface_changed` for a change of `key` -/
def onCinnamonInterfaceChanged (updatingControls : Bool) (key : String) : SysM B Unit := do
  if updatingControls then pure ()
  else if ← modelIsSaving m then pure ()
  else
    match ← modelPolicy m with
    | none => pure ()
    | some policy =>
      if key = "clock-use-24h" then
        -- an extended clock ignores the native fallback
        if nativeClockModeTracksDesktop policy.clockMode then
          match ← cinnamonClockUse24h with
          | some nativeValue =>
            Action.when (policy.clockMode != nativeClockModeId nativeValue) do
              let _ ← modelSetClockMode K m (nativeClockModeId nativeValue)
          | none => pure ()
        else pure ()
      else if key = "clock-show-seconds" then
        match ← cinnamonClockShowSeconds with
        | some nativeValue =>
          Action.when (policy.showSeconds != nativeValue) do
            let _ ← modelSetShowSeconds m nativeValue
        | none => pure ()
      else pure ()

/-! ## The life of a panel -/

/-- `ss_linux_date_time_panel_new`. An observer that cannot be made is a failed
allocation here. -/
def panelNew : SysM B (Option Panel) := do
  if ← modelInit K m platformTemporalPolicyStore then
    let regionalContext := (← regionalContextDetect).getD .zero
    match ← modelPolicy m with
    | none =>
      modelClear m
      pure none
    | some policy =>
      let recovered ← locationMetadataRecover G
      let (status, metadata) ← locationMetadataLoadStatus G
      let panel := refreshLocationAuthorityState (some policy)
        { regionalContext := regionalContext
          metadata := metadata
          metadataPresent := status = .ok
          metadataUncertain := status = .invalid ∨ status = .ioError
          followsTimezoneReference := false
          recoveryFailed := !recovered }
      if ← calloc then
        if ← calloc then
          let _ ← migrateLegacyNativeClock K m
          pure (some panel)
        else
          modelClear m
          pure none
      else
        modelClear m
        pure none
  else pure none

/-- `location_metadata_file_changed` -/
def locationMetadataFileChanged (panel : Panel) : SysM B Panel := do
  let loaded ← locationMetadataLoadStatus G
  let panel := { panel.remember loaded with
    metadataUncertain := loaded.1 = .invalid ∨ loaded.1 = .ioError }
  pure (refreshLocationAuthorityState (← modelPolicy m) panel)

/-- `retry_locality_recovery` -/
def retryLocalityRecovery (panel : Panel) : SysM B Panel := do
  if ← locationMetadataRecover G then
    locationMetadataFileChanged G m { panel with recoveryFailed := false }
  else pure { panel with recoveryFailed := true }

/-- `policy_file_changed`. A failed recovery leaves what the panel knows of the
metadata. -/
def policyFileChanged (panel : Panel) : SysM B Panel := do
  match ← modelPolicy m with
  | none => pure panel
  | some _ =>
    if ← modelReload K m then
      if ← locationMetadataRecover G then
        let loaded ← locationMetadataLoadStatus G
        let panel := { panel.remember loaded with
          metadataUncertain := loaded.1 = .invalid ∨ loaded.1 = .ioError
          recoveryFailed := false }
        pure (refreshLocationAuthorityState (← modelPolicy m) panel)
      else
        pure (refreshLocationAuthorityState (← modelPolicy m) { panel with recoveryFailed := true })
    else pure panel

/-- `ss_linux_date_time_panel_system_time_operation_applied` -/
def systemTimeOperationApplied (panel : Panel) : SysM B Panel := do
  pure { panel with regionalContext := (← regionalContextDetect).getD .zero }

/-! ## Reconciliation with the system time zone -/

/-- The rewrite of `location.ini` after a change of zone: the same place, the
system's zone. -/
def reconcileMetadata (policy : Option TemporalPolicyV3) (locked : Option SystemTimeState)
    (panel : Panel) : SysM B Panel := do
  match locked with
  | none => pure panel
  | some locked =>
    if locationMetadataMatchesPolicy panel policy && !locked.timezone.isEmpty &&
        panel.metadata.timezoneId != locked.timezone then
      let candidate := { panel.metadata with timezoneId := locked.timezone.take 127 }
      if ← locationMetadataSave G candidate then pure { panel with metadata := candidate }
      else pure panel
    else pure panel

/-- The publication of the zone's reference coordinate. -/
def reconcileReference (policy : Option TemporalPolicyV3) (matchesSystem : Bool)
    (panel : Panel) : SysM B Unit :=
  Action.when (panel.followsTimezoneReference && matchesSystem &&
      panel.regionalContext.hasReferenceCoordinates) do
    Action.when (!locationPolicyMatchesReference panel policy) do
      let _ ← modelSetLocation m true panel.regionalContext.referenceLatitude
        panel.regionalContext.referenceLongitude

/-- What the reconciliation does under the locality lock. -/
def reconcileLocked (panel : Panel) : SysM B Panel := do
  let locked ← readSystemTime
  let regional ← regionalContextDetect
  let panel := { panel with regionalContext := regional.getD .zero }
  let matchesSystem := locked.any fun locked =>
    regional.isSome && !locked.timezone.isEmpty &&
      panel.regionalContext.timezoneId == locked.timezone
  let reloaded ← modelReload K m
  let panel := panel.remember (← locationMetadataLoadStatus G)
  if reloaded then
    let policy ← modelPolicy m
    let panel ← reconcileMetadata G policy locked (refreshLocationAuthorityState policy panel)
    reconcileReference m policy matchesSystem panel
    pure panel
  else pure panel

/-- `ss_linux_date_time_panel_reconcile_system_time_change` -/
def reconcileSystemTimeChange (systemState : SystemTimeState) (panel : Panel) : SysM B Panel := do
  if !systemState.available then pure panel
  else
    let timezoneChanged := !systemState.timezone.isEmpty &&
      panel.regionalContext.timezoneId != systemState.timezone
    let panel := { panel with regionalContext := (← regionalContextDetect).getD .zero }
    if timezoneChanged || panel.followsTimezoneReference then
      if ← locationMetadataTransactionBegin then
        let panel ← reconcileLocked K G m panel
        locationMetadataTransactionEnd
        pure panel
      else pure panel
    else pure panel

end SystemSettings

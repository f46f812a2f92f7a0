import SystemSettings.Cli
import SystemSettings.Panel

/-!
# Choosing a place

The two commits of `linux-date-time-location.c`: a place that was found by a search,
and coordinates from the spin buttons. Both are the same transaction on the policy and
`location.ini`. The search itself, the suggestion of a time zone and the widgets are
left out.
-/

namespace SystemSettings

variable {B : Type} (K : Common) (G : GLib B) (m : ModelId) (t : TokenId)

/-- `SsLocationSearchResult` -/
structure LocationSearchResult : Type where
  /-- `display_name`, an array of 256 -/
  displayName : Text
  /-- `country_code`, an array of 8 -/
  countryCode : Text
  /-- degrees north -/
  latitude : Double
  /-- degrees east -/
  longitude : Double
  deriving DecidableEq

/-- `load_authoritative_location_metadata`: the record and whether there is one. -/
def loadAuthoritativeLocationMetadata : SysM B (Option (LocationMetadata × Bool)) := do
  match ← locationMetadataLoadStatus G with
  | (.ok, metadata) => pure (some (metadata, true))
  | (.missing, metadata) => pure (some (metadata, false))
  | _ => pure none

/-- The record with the zone of the system, when that is known. -/
def LocationMetadata.inZone (candidate : LocationMetadata) (system : Option SystemTimeState) :
    LocationMetadata :=
  match system with
  | none => candidate
  | some system =>
    if system.timezone.isEmpty then candidate
    else { candidate with timezoneId := system.timezone.take 127 }

/-- From the staged journal to the end of the transaction. The panel is what it shows
when the transaction fails. -/
def commitStaged (candidate : LocationMetadata) (panel : Panel) : SysM B Panel := do
  writeToken t LocationUpdate.init
  if ← modelBeginLocationUpdate m true candidate.latitude candidate.longitude t then
    if ← locationMetadataFinishStaged G then
      if ← modelFinishLocationUpdate m t then
        locationMetadataTransactionEnd
        pure { panel with
          metadata := candidate, metadataPresent := true, followsTimezoneReference := false }
      else
        locationMetadataTransactionEnd
        pure { panel with metadata := candidate, metadataPresent := true }
    else
      let restored ← modelRollbackLocationUpdate m t
      if restored then
        let _ ← locationMetadataDiscardStaged
      else
        let _ ← modelReload K m
      locationMetadataTransactionEnd
      pure panel
  else
    let _ ← locationMetadataDiscardStaged
    locationMetadataTransactionEnd
    pure panel

/-- The transaction of both commits, for a record without a zone. -/
def commitLocation (candidate : LocationMetadata) (panel : Panel) : SysM B Panel := do
  if ← locationMetadataTransactionBegin then
    match ← loadAuthoritativeLocationMetadata G with
    | none =>
      locationMetadataTransactionEnd
      pure panel
    | some (previous, present) =>
      let panel := { panel with metadata := previous, metadataPresent := present }
      let candidate := candidate.inZone (← readSystemTime)
      -- the journal comes before the coordinates
      if ← locationMetadataStage G candidate then
        commitStaged K G m t candidate panel
      else
        locationMetadataTransactionEnd
        pure panel
  else pure panel

/-- The record of a result, before it has a zone. `g_strlcpy` cuts what does not fit. -/
def LocationSearchResult.candidate (result : LocationSearchResult) : LocationMetadata where
  displayName := result.displayName.take 255
  countryCode := result.countryCode.take 7
  timezoneId := []
  latitude := result.latitude
  longitude := result.longitude

/-- The record of coordinates that were typed in. -/
def customCandidate (latitude longitude : Double) : LocationMetadata where
  displayName := customCoordinates
  countryCode := []
  timezoneId := []
  latitude := latitude
  longitude := longitude

/-- `on_location_result_activated` -/
def onLocationResultActivated (result : LocationSearchResult) (panel : Panel) : SysM B Panel :=
  commitLocation K G m t result.candidate panel

/-- `commit_location_coordinates`, with the values of the spin buttons -/
def commitLocationCoordinates (updatingControls : Bool) (latitude longitude : Double)
    (panel : Panel) : SysM B Panel :=
  if updatingControls then pure panel
  else commitLocation K G m t (customCandidate latitude longitude) panel

end SystemSettings

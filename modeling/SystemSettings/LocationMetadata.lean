import SystemSettings.Platform

/-!
# Locality metadata

`location-metadata.c`: the record of a selected locality, its two files
`location.ini` and `location.pending`, the staged two-file transaction and the
recovery of an interrupted one.

GLib's key files and UTF-8 validation are outside the repository. What the code
uses of them is the record `GLib` that every definition takes as a parameter.
-/

namespace SystemSettings

variable {B : Type}

/-- `SsLocationMetadata` -/
structure LocationMetadata : Type where
  /-- `display_name`, an array of 256 -/
  displayName : Text
  /-- `country_code`, an array of 8 -/
  countryCode : Text
  /-- `timezone_id`, an array of 128 -/
  timezoneId : Text
  /-- degrees north -/
  latitude : Double
  /-- degrees east -/
  longitude : Double
  deriving DecidableEq

/-- A cleared record. -/
def LocationMetadata.zero : LocationMetadata := ⟨[], [], [], default, default⟩

/-- `SsLocationMetadataLoadStatus` -/
inductive LoadStatus : Type where
  /-- `SS_LOCATION_METADATA_LOAD_OK` -/
  | ok
  /-- `SS_LOCATION_METADATA_LOAD_MISSING` -/
  | missing
  /-- `SS_LOCATION_METADATA_LOAD_INVALID` -/
  | invalid
  /-- `SS_LOCATION_METADATA_LOAD_IO_ERROR` -/
  | ioError
  deriving DecidableEq

/-- What the code uses of GLib. A key file is read as the values of its
`Location` group. -/
structure GLib (B : Type) : Type 1 where
  /-- a loaded key file -/
  KeyFile : Type
  /-- `g_key_file_load_from_file` on these contents; `none` when it is malformed -/
  load : B → Option KeyFile
  /-- `g_key_file_get_string` -/
  getString : KeyFile → String → Option Text
  /-- `g_key_file_get_double` -/
  getDouble : KeyFile → String → Option Double
  /-- `g_key_file_to_data` after the five keys of a record have been set -/
  toData : LocationMetadata → Option B
  /-- `g_utf8_validate` -/
  utf8Validate : Text → Bool

/-- A small GLib for concrete runs: a key file is the record it holds, or
malformed. -/
def GLib.small : GLib (Option LocationMetadata) where
  KeyFile := LocationMetadata
  load := id
  getString keyFile key :=
    if key = "Name" then some keyFile.displayName
    else if key = "CountryCode" then some keyFile.countryCode
    else if key = "Timezone" then some keyFile.timezoneId
    else none
  getDouble keyFile key :=
    if key = "Latitude" then some keyFile.latitude
    else if key = "Longitude" then some keyFile.longitude
    else none
  toData metadata := some (some metadata)
  utf8Validate _ := true

variable (G : GLib B)

/-- `metadata_valid`. A field is terminated when it is shorter than its array. -/
def metadataValid (value : LocationMetadata) : Bool :=
  !value.displayName.isEmpty &&
    decide (value.displayName.length < 256) &&
    decide (value.countryCode.length < 8) &&
    decide (value.timezoneId.length < 128) &&
    G.utf8Validate value.displayName &&
    G.utf8Validate value.countryCode &&
    G.utf8Validate value.timezoneId &&
    value.latitude.isFinite && value.longitude.isFinite &&
    Double.le (.finite (-90)) value.latitude && Double.le value.latitude (.finite 90) &&
    Double.le (.finite (-180)) value.longitude && Double.le value.longitude (.finite 180)

/-- The record a key file holds, if it is well formed. `CountryCode` and
`Timezone` may be missing. `g_strlcpy` refuses what does not fit. -/
def metadataParse (data : B) : Option LocationMetadata := do
  let keyFile ← G.load data
  let name ← G.getString keyFile "Name"
  let country := (G.getString keyFile "CountryCode").getD []
  let timezone := (G.getString keyFile "Timezone").getD []
  let latitude ← G.getDouble keyFile "Latitude"
  let longitude ← G.getDouble keyFile "Longitude"
  let candidate : LocationMetadata := ⟨name, country, timezone, latitude, longitude⟩
  if name.length < 256 && country.length < 8 && timezone.length < 128 &&
      metadataValid G candidate then
    some candidate
  else none

/-- `metadata_load_path` on a path in this state: the status and the record,
which stays cleared on failure. -/
def metadataLoad : FileState B → LoadStatus × LocationMetadata
  | .absent => (.missing, .zero)
  | .unreadable => (.ioError, .zero)
  | .contents data =>
    match metadataParse G data with
    | some metadata => (.ok, metadata)
    | none => (.invalid, .zero)

/-- `metadata_load_path` -/
def metadataLoadPath (f : LocalityFile) : SysM B (LoadStatus × LocationMetadata) := do
  pure (metadataLoad G (← readFile f))

/-- `metadata_save_path` -/
def metadataSavePath (f : LocalityFile) (metadata : LocationMetadata) : SysM B Bool :=
  if metadataValid G metadata then
    match G.toData metadata with
    | some data => writeFile f data
    | none => pure false
  else pure false

/-- `ss_location_metadata_load_status` -/
def locationMetadataLoadStatus : SysM B (LoadStatus × LocationMetadata) :=
  metadataLoadPath G .locationIni

/-- `ss_location_metadata_save` -/
def locationMetadataSave (metadata : LocationMetadata) : SysM B Bool :=
  metadataSavePath G .locationIni metadata

/-- `ss_location_metadata_clear` -/
def locationMetadataClear : SysM B Bool := unlinkFile .locationIni

/-- `ss_location_metadata_stage` -/
def locationMetadataStage (metadata : LocationMetadata) : SysM B Bool :=
  metadataSavePath G .locationPending metadata

/-- `ss_location_metadata_discard_staged` -/
def locationMetadataDiscardStaged : SysM B Bool := unlinkFile .locationPending

/-- `ss_location_metadata_finish_staged` -/
def locationMetadataFinishStaged : SysM B Bool := do
  match ← metadataLoadPath G .locationPending with
  | (.ok, staged) =>
    if ← locationMetadataSave G staged then
      -- the metadata is durable, so a failed cleanup is not reported
      let _ ← locationMetadataDiscardStaged
      pure true
    else pure false
  | _ => pure false

/-- The difference of two coordinates without its sign. -/
def coordinateDifference (left right : Double) : Double :=
  let difference := Double.sub left right
  if Double.lt difference (.finite 0) then Double.neg difference else difference

/-- The literal `0.000001`, which is a little less than a millionth. -/
def coordinateTolerance : ℚ := 4722366482869645 / 2 ^ 72

/-- Two coordinates that differ by less than the tolerance. -/
def coordinateClose (left right : Double) : Bool :=
  Double.lt (coordinateDifference left right) (.finite coordinateTolerance)

/-- What `ss_location_metadata_recover` does under the lock. -/
def locationMetadataRecoverLocked : SysM B Bool := do
  match ← storeLoad with
  | none => pure false
  | some (authoritative, _) =>
    let locationConfigured := authoritative.locationConfigured
    let (stagedStatus, staged) ← metadataLoadPath G .locationPending
    match stagedStatus with
    | .missing =>
      if locationConfigured then pure true else locationMetadataClear
    | .ioError => pure false
    | .invalid =>
      if ← locationMetadataDiscardStaged then
        if locationConfigured then pure true else locationMetadataClear
      else pure false
    | .ok =>
      if locationConfigured && coordinateClose staged.latitude authoritative.latitude &&
          coordinateClose staged.longitude authoritative.longitude then
        locationMetadataFinishStaged G
      else if ← locationMetadataDiscardStaged then
        if locationConfigured then pure true else locationMetadataClear
      else pure false

/-- `ss_location_metadata_recover` -/
def locationMetadataRecover : SysM B Bool := do
  if ← locationMetadataTransactionBegin then
    let recovered ← locationMetadataRecoverLocked G
    locationMetadataTransactionEnd
    pure recovered
  else pure false

end SystemSettings

import SystemSettings.DateTimeModel
import SystemSettings.LocationMetadata

/-!
# The command line tool

`time-settings-cli.c` as it is built on Linux. A run with options is one
transaction under the policy lock, and under the locality lock as well when it
touches the location.
-/

namespace SystemSettings

variable {B : Type} (K : Common) (G : GLib B)

/-- What a run of the tool leaves: its exit code, what it wrote to `stderr`, and
the policy it printed with whether that is an explicit one. -/
structure CliResult : Type where
  /-- the exit code -/
  exitCode : ℕ
  /-- the message on `stderr` -/
  message : Option String
  /-- the policy on `stdout` -/
  output : Option (TemporalPolicyV3 × Bool)
  deriving DecidableEq

/-- A run that stopped with a message. -/
def CliResult.failure (exitCode : ℕ) (message : String) : CliResult :=
  ⟨exitCode, some message, none⟩

/-- `print_usage` -/
def usage (program : String) : String :=
  "Usage: " ++ program ++ " [--clock MODE] [--calendar ID] [--seconds on|off] " ++
    "[--location LAT LON|--clear-location]\n"

/-- The message of a run whose policy was saved and then restored. -/
def restoredMessage : String :=
  "Locality metadata could not be committed; the previous temporal policy state was restored.\n"

/-- `command_touches_location` -/
def commandTouchesLocation (args : List String) : Bool :=
  args.any fun argument => argument == "--location" || argument == "--clear-location"

/-- "Custom coordinates", the display name of coordinates from the command line. -/
def customCoordinates : Text := "Custom coordinates".toUTF8.data.toList

/-- The variables the option loop changes. -/
structure CliDraft : Type where
  /-- the policy draft -/
  policy : TemporalPolicyV3
  /-- `location_change_requested` -/
  locationChangeRequested : Bool
  /-- `location_clear_requested` -/
  locationClearRequested : Bool
  /-- `location_candidate` -/
  locationCandidate : LocationMetadata

/-- Before the loop. -/
def CliDraft.start (policy : TemporalPolicyV3) : CliDraft := ⟨policy, false, false, .zero⟩

/-- `--location LAT LON` -/
def cliSetLocation (latitudeText longitudeText : String) (draft : CliDraft) : Option CliDraft := do
  let latitude ← K.parseDoubleRange latitudeText (-90) 90
  let longitude ← K.parseDoubleRange longitudeText (-180) 180
  let policy ← policyDraftSetLocation draft.policy true latitude longitude
  pure ⟨policy, true, false, ⟨customCoordinates, [], [], latitude, longitude⟩⟩

/-- `--clear-location` -/
def cliClearLocation (draft : CliDraft) : Option CliDraft := do
  let policy ←
    policyDraftSetLocation draft.policy false draft.policy.latitude draft.policy.longitude
  pure { draft with
    policy := policy, locationChangeRequested := true, locationClearRequested := true }

/-- `--seconds on|off`: the value, or `none` for the usage message. -/
def cliSeconds (value : String) : Option Bool :=
  if value = "on" then some true else if value = "off" then some false else none

/-- The loop over the options: the draft, or the message it stopped with. An
option that lacks its values falls through to the usage message. -/
def cliOptions (program : String) : List String → CliDraft → Except String CliDraft
  | [], draft => .ok draft
  | option :: rest, draft =>
    match option, rest with
    | "--clock", mode :: rest =>
      match policyDraftSetClockMode K draft.policy mode with
      | some policy => cliOptions program rest { draft with policy := policy }
      | none => .error "Unable to set clock mode.\n"
    | "--calendar", id :: rest =>
      match policyDraftSetCalendar K draft.policy id with
      | some policy => cliOptions program rest { draft with policy := policy }
      | none => .error "Unable to set calendar.\n"
    | "--seconds", value :: rest =>
      match cliSeconds value with
      | none => .error (usage program)
      | some showSeconds =>
        match policyDraftSetShowSeconds draft.policy showSeconds with
        | some policy => cliOptions program rest { draft with policy := policy }
        | none => .error "Unable to set seconds policy.\n"
    | "--location", latitudeText :: longitudeText :: rest =>
      match cliSetLocation K latitudeText longitudeText draft with
      | some draft => cliOptions program rest draft
      | none => .error "Unable to set geographic location.\n"
    | "--clear-location", rest =>
      match cliClearLocation draft with
      | some draft => cliOptions program rest draft
      | none => .error "Unable to clear geographic location.\n"
    | _, _ => .error (usage program)

/-- Publish a draft: the journal, the policy, the locality metadata, and the
rollback of the policy when the last of these fails. -/
def cliCommit (original : TemporalPolicyV3) (originalPersisted : Bool) (draft : CliDraft) :
    SysM B CliResult := do
  let locationStaged := draft.locationChangeRequested && !draft.locationClearRequested
  let ready ← (if locationStaged then locationMetadataStage G draft.locationCandidate else pure true)
  if !ready then
    pure (.failure 2 "Unable to stage locality metadata.\n")
  else if ← storeSave draft.policy then
    let metadataOk ← (
      if draft.locationChangeRequested then
        if draft.locationClearRequested then locationMetadataClear
        else locationMetadataFinishStaged G
      else pure true)
    if !metadataOk then
      let rolledBack ← (if originalPersisted then storeSave original else storeClear)
      Action.when (rolledBack && locationStaged) do
        let _ ← locationMetadataDiscardStaged
      pure (.failure 3 (if rolledBack then restoredMessage
        else "Locality metadata could not be committed and policy rollback failed; recovery is required.\n"))
    else if ← storeCompatibilityMatches draft.policy then
      pure ⟨0, none, some (draft.policy, true)⟩
    else
      pure (.failure 3 "Temporal policy was saved, but native desktop compatibility settings did not fully synchronize.\n")
  else
    Action.when locationStaged do
      let _ ← locationMetadataDiscardStaged
    pure (.failure 2 "Unable to save temporal presentation policy.\n")

/-- From the initialised model to the label `done`. -/
def cliTransaction (m : ModelId) (program : String) (args : List String) : SysM B CliResult := do
  match ← readModel m with
  | none => pure (.failure 1 "Unable to read temporal presentation policy.\n")
  | some priv =>
    if ← calloc then
      match cliOptions K program args (.start priv.policy) with
      | .error message => pure (.failure 2 message)
      | .ok draft =>
        if args.isEmpty then
          pure ⟨0, none, some (priv.policy, priv.persistedPolicyPresent)⟩
        else cliCommit G priv.policy priv.persistedPolicyPresent draft
    else pure (.failure 1 "Unable to stage temporal presentation policy.\n")

/-- `main` from the policy lock on. -/
def cliWithPolicy (m : ModelId) (program : String) (args : List String)
    (localityLocked : Bool) : SysM B CliResult := do
  let platformLocked ← (if args.isEmpty then pure false else storeBeginUpdate)
  if !args.isEmpty && !platformLocked then
    Action.when localityLocked locationMetadataTransactionEnd
    pure (.failure 2 "Unable to acquire the temporal policy update lock.\n")
  else if ← modelInit K m platformTemporalPolicyStore then
    let result ← cliTransaction K G m program args
    Action.when platformLocked storeEndUpdate
    Action.when localityLocked locationMetadataTransactionEnd
    modelClear m
    pure result
  else
    Action.when platformLocked storeEndUpdate
    Action.when localityLocked locationMetadataTransactionEnd
    pure (.failure 1 "Unable to load temporal presentation policy.\n")

/-- `main` -/
def cliMain (m : ModelId) (program : String) (args : List String) : SysM B CliResult := do
  if commandTouchesLocation args then
    if ← locationMetadataTransactionBegin then
      cliWithPolicy K G m program args true
    else pure (.failure 2 "Unable to acquire the locality transaction lock.\n")
  else cliWithPolicy K G m program args false

end SystemSettings

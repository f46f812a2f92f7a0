import SystemSettings.Decimal
import SystemSettings.Platform
import SystemSettings.Transition

/-!
# Protected system-time operations

`linux-date-time-system-time.c`: the three requests that the panel sends to
timedated, and their replies. A request marks its kind as in flight and takes
the next generation of it; the reply counts if it has the newest generation.

The panel can be gone when a reply arrives. A request holds the panel's lifetime,
which says whether it is.
-/

namespace SystemSettings

/-! ## The panel -/

/-- `SsSystemTimeOperation` -/
inductive SystemTimeOperation : Type where
  | timezone
  | ntp
  | manual
  deriving DecidableEq

/-- The protected controls: whether they take input, and the rows that come and go. -/
structure ProtectedControls : Type where
  timezone : Bool
  networkTime : Bool
  /-- the date, the time and the button of manual time -/
  manual : Bool
  /-- whether the manual row is visible -/
  manualRow : Bool
  /-- whether its replacement is visible -/
  manualUnavailable : Bool
  deriving DecidableEq

/-- What the panel reads of its surroundings when it updates its controls. -/
structure SystemReading : Type where
  /-- `ss_system_time_service_read` -/
  state : Option SystemTimeState
  /-- `manual_representation_supported` -/
  manualSupported : Bool

/-- The fields of the panel that protected operations use. -/
structure SystemTimePanel : Type where
  /-- `service != NULL` -/
  service : Bool
  /-- `timezone_cancellable`, `ntp_cancellable` and `manual_time_cancellable`, where not `NULL` -/
  inFlight : SystemTimeOperation → Bool
  /-- `timezone_generation`, `ntp_generation` and `manual_time_generation` -/
  generation : SystemTimeOperation → UInt32
  manualDirty : Bool
  controls : ProtectedControls
  /-- what was read when the controls were last updated; the source keeps it in the widgets only -/
  shown : SystemReading
  status : Text

/-- `protected_operation_active` -/
def SystemTimePanel.active (panel : SystemTimePanel) : Bool :=
  panel.inFlight .timezone || panel.inFlight .ntp || panel.inFlight .manual

/-- The controls that `ss_linux_date_time_system_time_sync` leaves. -/
def syncControls (reading : SystemReading) (active : Bool) (controls : ProtectedControls) :
    ProtectedControls :=
  match reading.state with
  | none =>
    { controls with
      timezone := false, networkTime := false, manualRow := false, manualUnavailable := false }
  | some state =>
    let manualVisible := !state.ntpEnabled && reading.manualSupported
    { timezone := !active
      networkTime := state.canNtp && !active
      manual := if manualVisible then !active else controls.manual
      manualRow := manualVisible
      manualUnavailable := !state.ntpEnabled && !reading.manualSupported }

/-- What the panel can read: nothing without a service. -/
def SystemTimePanel.reads (panel : SystemTimePanel) (reading : SystemReading) : SystemReading :=
  if panel.service then reading else { reading with state := none }

/-- `ss_linux_date_time_system_time_sync` -/
def systemTimeSync (reading : SystemReading) (panel : SystemTimePanel) : SystemTimePanel :=
  let reading := panel.reads reading
  let controls := syncControls reading panel.active panel.controls
  { panel with
    controls := controls
    shown := reading
    manualDirty := if reading.state.isSome && !controls.manualRow then false else panel.manualDirty }

/-- `ss_linux_date_time_panel_set_status` -/
def SystemTimePanel.setStatus (panel : SystemTimePanel) (status : Text) : SystemTimePanel :=
  { panel with status := status }

/-! ## Requests -/

/-- `SystemTimeUiRequest`, whose lifetime is that of the panel. -/
structure SystemTimeUiRequest : Type where
  generation : UInt32
  operation : SystemTimeOperation
  deriving DecidableEq

/-- Whether an operation of another kind is in flight. -/
def SystemTimePanel.otherInFlight (panel : SystemTimePanel) (operation : SystemTimeOperation) :
    Bool :=
  (operation != .timezone && panel.inFlight .timezone) ||
    (operation != .ntp && panel.inFlight .ntp) ||
    (operation != .manual && panel.inFlight .manual)

/-- `begin_system_time_operation` -/
def beginSystemTimeOperation (operation : SystemTimeOperation) (panel : SystemTimePanel) :
    Option (SystemTimeUiRequest × SystemTimePanel) :=
  if panel.otherInFlight operation then none
  else
    let generation := panel.generation operation + 1
    some (⟨generation, operation⟩,
      { panel with
        inFlight := Function.update panel.inFlight operation true
        generation := Function.update panel.generation operation generation })

/-- The text of a refusal. -/
def busyMessage : Text := bytes "Another protected date/time change is still being applied."

/-- A request to timedated, from its begin to the call that sends it. Two of the
three kinds synchronise the controls when they are refused as well. -/
def sendSystemTimeOperation (operation : SystemTimeOperation) (syncRefused : Bool) (message : Text)
    (reading : SystemReading) (panel : SystemTimePanel) :
    Option SystemTimeUiRequest × SystemTimePanel :=
  match beginSystemTimeOperation operation panel with
  | none =>
    (none, (if syncRefused then systemTimeSync reading panel else panel).setStatus busyMessage)
  | some (request, panel) => (some request, (systemTimeSync reading panel).setStatus message)

/-- `request_system_timezone` -/
def requestSystemTimezone (timezoneId : Text) (reading : SystemReading) (panel : SystemTimePanel) :
    Option SystemTimeUiRequest × SystemTimePanel :=
  if panel.service && !timezoneId.isEmpty then
    sendSystemTimeOperation .timezone true (bytes "Updating the operating-system time zone…")
      reading panel
  else (none, panel)

/-- `on_network_time_changed` -/
def onNetworkTimeChanged (enabled : Bool) (reading : SystemReading) (panel : SystemTimePanel) :
    Option SystemTimeUiRequest × SystemTimePanel :=
  if panel.service then
    sendSystemTimeOperation .ntp true
      (if enabled then bytes "Enabling network time…" else bytes "Disabling network time…")
      reading panel
  else (none, panel)

/-- `on_manual_set_time_clicked`; `parsed` is what `parse_manual_datetime` makes of the entries. -/
def onManualSetTimeClicked (parsed : Option ℤ) (reading : SystemReading) (panel : SystemTimePanel) :
    Option SystemTimeUiRequest × SystemTimePanel :=
  if panel.service then
    match parsed with
    | none =>
      (none, panel.setStatus
        (bytes "Enter a valid Gregorian date and a time in the selected clock system."))
    | some _ =>
      sendSystemTimeOperation .manual false
        (bytes "Setting the operating-system date and time…") reading panel
  else (none, panel)

/-! ## Replies -/

/-- What a reply brings: whether it is `SS_SYSTEM_TIME_RESULT_OK`, the text of the
error otherwise, and whether the locality metadata has another zone. -/
structure SystemTimeReply : Type where
  ok : Bool
  errorMessage : Text
  metadataOutOfSync : Bool

/-- `system_time_operation_complete`, when the panel is there. -/
def systemTimeOperationComplete (request : SystemTimeUiRequest) (reply : SystemTimeReply)
    (reading : SystemReading) (panel : SystemTimePanel) : SystemTimePanel :=
  if request.generation = panel.generation request.operation then
    let panel :=
      { panel with inFlight := Function.update panel.inFlight request.operation false }
    if reply.ok then
      let panel := systemTimeSync reading { panel with manualDirty := false }
      panel.setStatus
        (if request.operation = .timezone ∧ reply.metadataOutOfSync then
          bytes "The operating-system time zone changed, but locality metadata is not yet synchronized."
        else bytes "Operating-system date/time settings updated.")
    else (systemTimeSync reading panel).setStatus reply.errorMessage
  else panel

/-- `system_time_service_ready`, when the service is there. -/
def systemTimeServiceReady (reading : SystemReading) (panel : SystemTimePanel) : SystemTimePanel :=
  systemTimeSync reading { panel with service := true }

/-! ## The panel among its requests -/

/-- A request that has no reply yet, and its place among the requests of its kind. -/
structure SentRequest : Type extends SystemTimeUiRequest where
  ordinal : ℕ
  deriving DecidableEq

/-- The panel and the requests. -/
structure OperationWorld : Type where
  /-- the panel, until it is freed -/
  panel : Option SystemTimePanel
  /-- the panel pointer of the lifetime is not `NULL` -/
  lifetime : Bool
  pending : List SentRequest
  /-- the requests of each kind that have been sent -/
  sent : SystemTimeOperation → ℕ
  /-- the panel has been touched after it was freed -/
  touched : Bool

/-- A panel without a service. -/
def SystemTimePanel.new (reading : SystemReading) : SystemTimePanel :=
  systemTimeSync reading
    ⟨false, fun _ => false, fun _ => 0, false, ⟨true, true, true, true, true⟩, ⟨none, false⟩, []⟩

/-- A new panel that has sent nothing. -/
def OperationWorld.Starts (w : OperationWorld) : Prop :=
  ∃ reading, w = ⟨some (.new reading), true, [], fun _ => 0, false⟩

/-- What can happen next. -/
inductive OperationAction : Type where
  | timezone (timezoneId : Text) (reading : SystemReading)
  | networkTime (enabled : Bool) (reading : SystemReading)
  | manualTime (parsed : Option ℤ) (reading : SystemReading)
  | reply (request : SentRequest) (reply : SystemTimeReply) (reading : SystemReading)
  /-- the service is there -/
  | serviceReady (reading : SystemReading)
  /-- something else makes the panel update its controls -/
  | sync (reading : SystemReading)
  /-- `ss_linux_date_time_panel_free` -/
  | dispose

/-- The user acts on the panel, and a request may be sent. -/
def OperationWorld.request (w : OperationWorld)
    (act : SystemTimePanel → Option SystemTimeUiRequest × SystemTimePanel) :
    Option OperationWorld :=
  match w.panel with
  | none => none
  | some panel =>
    match act panel with
    | (none, panel) => some { w with panel := some panel }
    | (some request, panel) =>
      let ordinal := w.sent request.operation + 1
      some { w with
        panel := some panel
        pending := ⟨request, ordinal⟩ :: w.pending
        sent := Function.update w.sent request.operation ordinal }

/-- A reply comes to its request, which looks at the lifetime first. -/
def OperationWorld.answer (w : OperationWorld) (request : SentRequest) (reply : SystemTimeReply)
    (reading : SystemReading) : OperationWorld :=
  let w := { w with pending := w.pending.erase request }
  if w.lifetime then
    match w.panel with
    | some panel =>
      { w with
        panel := some (systemTimeOperationComplete request.toSystemTimeUiRequest reply reading panel) }
    | none => { w with touched := true }
  else w

/-- One step; `none` where the action cannot happen. -/
def operationStep (w : OperationWorld) : OperationAction → Option OperationWorld
  | .timezone timezoneId reading => w.request (requestSystemTimezone timezoneId reading)
  | .networkTime enabled reading => w.request (onNetworkTimeChanged enabled reading)
  | .manualTime parsed reading => w.request (onManualSetTimeClicked parsed reading)
  | .reply request reply reading =>
    if request ∈ w.pending then some (w.answer request reply reading) else none
  | .serviceReady reading =>
    w.panel.map fun panel => { w with panel := some (systemTimeServiceReady reading panel) }
  | .sync reading => w.panel.map fun panel => { w with panel := some (systemTimeSync reading panel) }
  | .dispose => w.panel.map fun _ => { w with panel := none, lifetime := false }

end SystemSettings

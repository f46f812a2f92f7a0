import SystemSettings.LocationSearch
import SystemSettings.Transition

/-!
# Searches of the panel

`begin_location_search` and `location_search_complete` of `linux-date-time-location.c`
over `ss_location_search_async` and `search_finished` of `location-search.c`, with the end
of the panel and the lifetime that its requests share with it.

Every call into other code that can complete a search is a frame of the stack: a cancel, the
start of the backend. While one is there, as at any other time, any search in flight may
complete. What is handed over and given back is counted for each search.
-/

namespace SystemSettings

/-! ## The state -/

/-- The search part of `SsLinuxDateTimeLocationState`, with the rows of `results` as the
items they show, and the status line of the panel. -/
structure SearchPanel : Type where
  results : List LocationSearchResult
  resultsVisible : Bool
  status : Text
  statusError : Bool
  /-- `search_cancellable != NULL` -/
  searchCancellable : Bool
  searchGeneration : UInt32

/-- A new panel. -/
def SearchPanel.new : SearchPanel := ⟨[], false, [], false, false, 0⟩

/-- What a pointer to an `SsLinuxDateTimeLifetime` points to. -/
inductive LifetimeMemory : Type where
  /-- `panel` says whether it still leads to the panel -/
  | live (references : UInt32) (panel : Bool)
  /-- after `g_free` -/
  | released

/-- `LocationSearchUiRequest`, with the number of its search. -/
structure LocationSearchUiRequest : Type where
  number : ℕ
  generation : UInt32
  deriving DecidableEq

/-- A call into other code. -/
inductive SearchFrame : Type where
  /-- the cancel of `begin_location_search`. `forward` says whether the backend can be made. -/
  | cancelling (query : Text) (forward : Bool)
  /-- `geocode_forward_search_async` -/
  | starting (number : ℕ)
  /-- the cancel of `ss_linux_date_time_panel_free` -/
  | freeing

/-- The panel and everything around it. -/
structure SearchSession : Type where
  /-- nothing once it has been given back -/
  panel : Option SearchPanel
  lifetime : LifetimeMemory
  /-- the searches in flight -/
  pending : List LocationSearchUiRequest
  /-- the references on backend objects, by the number of their search -/
  forwards : List ℕ
  /-- innermost first -/
  stack : List SearchFrame
  /-- memory that was given back has been touched -/
  touched : Bool
  /-- the number of searches that were started -/
  started : ℕ
  /-- how many result lists a search was answered with -/
  handed : ℕ → ℕ
  /-- how many of these were given back -/
  listsReleased : ℕ → ℕ
  /-- how often its `LocationSearchUiRequest` was given back -/
  requestsFreed : ℕ → ℕ
  /-- how often it was given an `SsLocationSearchRequest` -/
  callsMade : ℕ → ℕ
  /-- how often that was given back -/
  callsFreed : ℕ → ℕ
  /-- the list it was answered with -/
  answers : ℕ → List LocationSearchResult

/-- A new panel has the only reference to its lifetime. -/
def SearchSession.start : SearchSession where
  panel := some .new
  lifetime := .live 1 true
  pending := []
  forwards := []
  stack := []
  touched := false
  started := 0
  handed _ := 0
  listsReleased _ := 0
  requestsFreed _ := 0
  callsMade _ := 0
  callsFreed _ := 0
  answers _ := []

/-- What can happen next. -/
inductive SearchAction : Type where
  /-- the search button, or the return key in the entry -/
  | search (query : Text) (forward : Bool)
  /-- the backend completes a search: it answers or reports an error, a cancellation too -/
  | complete (request : LocationSearchUiRequest) (places : Option (List (Option GeocodePlace)))
      (error : Option Text)
  /-- the innermost call returns -/
  | returns
  /-- a result is chosen, and its location saved -/
  | activate
  /-- `ss_linux_date_time_panel_free` -/
  | free

/-! ## The functions -/

/-- One more for a search. -/
def countUp (count : ℕ → ℕ) (number : ℕ) : ℕ → ℕ :=
  Function.update count number (count number + 1)

/-- `ss_linux_date_time_panel_set_status` -/
def SearchPanel.setStatus (panel : SearchPanel) (message : Text) (error : Bool) : SearchPanel :=
  { panel with status := message, statusError := error }

/-- `clear_location_results` -/
def clearLocationResults (panel : SearchPanel) : SearchPanel :=
  { panel with results := [], resultsVisible := false }

/-- `ss_linux_date_time_lifetime_ref` -/
def lifetimeRef (s : SearchSession) : SearchSession :=
  match s.lifetime with
  | .live references panel => { s with lifetime := .live (references + 1) panel }
  | .released => { s with touched := true }

/-- `ss_linux_date_time_lifetime_unref` -/
def lifetimeUnref (s : SearchSession) : SearchSession :=
  match s.lifetime with
  | .live references panel =>
    if references - 1 = 0 then { s with lifetime := .released }
    else { s with lifetime := .live (references - 1) panel }
  | .released => { s with touched := true }

/-- `location_search_request_free` -/
def locationSearchRequestFree (request : LocationSearchUiRequest) (s : SearchSession) :
    SearchSession :=
  let s := lifetimeUnref s
  { s with requestsFreed := countUp s.requestsFreed request.number }

/-- `g_ptr_array_unref` on the results of a search, and then the request is given back. -/
def releaseResults (request : LocationSearchUiRequest) (s : SearchSession) : SearchSession :=
  locationSearchRequestFree request
    { s with listsReleased := countUp s.listsReleased request.number }

/-- What `location_search_complete` does to a panel whose newest search is answered. -/
def showResults (results : List LocationSearchResult) (errorMessage : Option Text)
    (panel : SearchPanel) : SearchPanel :=
  let panel := clearLocationResults panel
  if results = [] then
    panel.setStatus (errorMessage.getD (bytes "No matching locations were found.")) true
  else
    { panel with results := results, resultsVisible := true }.setStatus
      (bytes ("Select the matching locality. Its coordinates will become the system geographic " ++
        "location; any nearest IANA time zone is advisory and must be chosen explicitly.")) false

/-- `location_search_complete` with a result list, which is handed over -/
def locationSearchComplete (results : List LocationSearchResult) (errorMessage : Option Text)
    (request : LocationSearchUiRequest) (s : SearchSession) : SearchSession :=
  let s := { s with
    handed := countUp s.handed request.number
    answers := Function.update s.answers request.number results }
  match s.lifetime with
  | .live _ true =>
    match s.panel with
    | some panel =>
      if request.generation ≠ panel.searchGeneration then releaseResults request s
      else releaseResults request { s with panel := some (showResults results errorMessage panel) }
    | none => { s with touched := true }
  | .live _ false => releaseResults request s
  | .released => { s with touched := true }

/-- `search_finished`. What the backend does not answer is `NULL`. -/
def searchFinishedCallback (request : LocationSearchUiRequest)
    (places : Option (List (Option GeocodePlace))) (error : Option Text) (s : SearchSession) :
    SearchSession :=
  let s := { s with pending := s.pending.erase request }
  let s := locationSearchComplete (searchFinished (places.getD [])) error request s
  { s with
    callsFreed := countUp s.callsFreed request.number
    forwards := s.forwards.erase request.number }

section Begin

variable (utf8Validate : Text → Bool)

/-- `ss_location_search_async` up to the call of the backend -/
def locationSearchAsync (query : Text) (forward : Bool) (request : LocationSearchUiRequest)
    (s : SearchSession) : SearchSession :=
  if query = [] ∨ utf8Validate query = false ∨ 512 < query.length then
    locationSearchComplete []
      (some (if query ≠ [] then bytes "The locality search text is invalid or too long."
        else bytes "Enter a locality or place name.")) request s
  else if !forward then
    locationSearchComplete [] (some (bytes "Unable to initialise location search.")) request s
  else
    -- one reference of this function, one until the completion
    { s with
      callsMade := countUp s.callsMade request.number
      forwards := request.number :: request.number :: s.forwards
      pending := request :: s.pending
      stack := .starting request.number :: s.stack }

/-- `begin_location_search` from the cancel of the last search on -/
def beginSearchRequest (query : Text) (forward : Bool) (panel : SearchPanel) (s : SearchSession) :
    SearchSession :=
  let panel := { panel with
    searchCancellable := true
    searchGeneration := panel.searchGeneration + 1 }
  let panel := (clearLocationResults panel).setStatus
    (bytes "Searching for matching localities…") false
  let request : LocationSearchUiRequest := ⟨s.started, panel.searchGeneration⟩
  locationSearchAsync utf8Validate query forward request
    (lifetimeRef { s with panel := some panel, started := s.started + 1 })

/-- `begin_location_search`, up to the cancel if there is something to cancel -/
def beginLocationSearch (query : Text) (forward : Bool) (panel : SearchPanel)
    (s : SearchSession) : SearchSession :=
  if query = [] then
    { s with panel := some (panel.setStatus (bytes "Enter a locality or place name.") true) }
  else if panel.searchCancellable then
    { s with stack := .cancelling query forward :: s.stack }
  else beginSearchRequest utf8Validate query forward panel s

/-- `ss_linux_date_time_panel_free` from its cancel on -/
def finishPanelFree (s : SearchSession) : SearchSession :=
  { lifetimeUnref s with panel := none }

/-- `ss_linux_date_time_panel_free` -/
def panelFree (panel : SearchPanel) (s : SearchSession) : SearchSession :=
  -- the lifetime is invalidated before anything else
  let s := match s.lifetime with
    | .live references _ => { s with lifetime := .live references false }
    | .released => { s with touched := true }
  if panel.searchCancellable then { s with stack := .freeing :: s.stack } else finishPanelFree s

/-- One step; `none` where the action cannot happen. The user acts between calls. -/
def searchStep (s : SearchSession) : SearchAction → Option SearchSession
  | .search query forward =>
    match s.stack, s.panel with
    | [], some panel => some (beginLocationSearch utf8Validate query forward panel s)
    | _, _ => none
  | .complete request places error =>
    if request ∈ s.pending then some (searchFinishedCallback request places error s) else none
  | .returns =>
    match s.stack with
    | .cancelling query forward :: stack =>
      match s.panel with
      | some panel =>
        some (beginSearchRequest utf8Validate query forward panel { s with stack := stack })
      | none => some { s with touched := true }
    -- the last call of `ss_location_search_async`
    | .starting number :: stack =>
      some { s with stack := stack, forwards := s.forwards.erase number }
    | .freeing :: stack => some (finishPanelFree { s with stack := stack })
    | [] => none
  | .activate =>
    match s.stack, s.panel with
    | [], some panel => some { s with panel := some (clearLocationResults panel) }
    | _, _ => none
  | .free =>
    match s.stack, s.panel with
    | [], some panel => some (panelFree panel s)
    | _, _ => none

end Begin

end SystemSettings

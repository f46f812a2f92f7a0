import SystemSettings.ModelOutcome
import SystemSettings.Panel
import SystemSettings.TemporalPresentation

/-!
# The drop-downs of the panel

How the Date & Time panel shows the clock and the calendar of the policy, and
what a pick of the user does: `clock_index_for_id`, `calendar_index_for_id`,
`selected_clock_mode`, `selected_calendar`, `sync_controls`, `on_clock_changed`
and `on_calendar_changed` of `linux-date-time-panel.c`, with the two lists that
`linux-date-time-panel-ui.c` fills.

A drop-down holds a position in its list, and a change is signalled only when
the position changes. Both lookups fall back to position 0, so an identifier
that is not listed is shown as the first system of the list, and that system
can then not be picked.
-/

namespace SystemSettings

/-! ## Drop-downs -/

/-- The first position of `key`, or 0 when it has none. -/
def indexOrZero {α : Type} [DecidableEq α] (keys : List α) (key : α) : ℕ :=
  (keys.findIdx? (· == key)).getD 0

/-- A `GtkDropDown` over `n` entries. -/
structure DropDown (n : ℕ) : Type where
  /-- the selected position; `none` is `GTK_INVALID_LIST_POSITION` -/
  selected : Option (Fin n)
  deriving DecidableEq

namespace DropDown

variable {α : Type} {n : ℕ}

/-- `gtk_drop_down_set_selected`. A position outside the list selects nothing. -/
def setSelected (_dropDown : DropDown n) (position : ℕ) : DropDown n :=
  ⟨if h : position < n then some ⟨position, h⟩ else none⟩

/-- The user picks an entry: the drop-down with its new selection when that is a
change, which is when `notify::selected` is emitted. -/
def pick (dropDown : DropDown n) (position : Fin n) : Option (DropDown n) :=
  if dropDown.selected = some position then none else some ⟨some position⟩

theorem pick_eq_some {dropDown : DropDown n} {position : Fin n}
    (h : dropDown.selected ≠ some position) : dropDown.pick position = some ⟨some position⟩ :=
  if_neg h

section Keys

variable [DecidableEq α] {keys : List α} {key : α}

/-- A key that is listed is shown. -/
theorem setSelected_of_mem (dropDown : DropDown keys.length) (h : key ∈ keys) :
    ∃ position, (dropDown.setSelected (indexOrZero keys key)).selected = some position ∧
      keys.get position = key := by
  obtain ⟨position, hposition⟩ : ∃ position, keys.findIdx? (· == key) = some position :=
    Option.isSome_iff_exists.mp (by simpa [List.findIdx?_isSome] using h)
  obtain ⟨hlt, hkey, -⟩ := List.findIdx?_eq_some_iff_getElem.mp hposition
  refine ⟨⟨position, hlt⟩, ?_, eq_of_beq hkey⟩
  simp [setSelected, indexOrZero, hposition, hlt]

/-- A key that is not listed is shown as the first entry. -/
theorem setSelected_of_not_mem (dropDown : DropDown keys.length) (h : key ∉ keys)
    (hne : keys ≠ []) :
    ∃ position, (dropDown.setSelected (indexOrZero keys key)).selected = some position := by
  have hnone : keys.findIdx? (· == key) = none := by
    refine List.findIdx?_eq_none_iff.mpr fun entry hentry => ?_
    exact beq_eq_false_iff_ne.mpr fun heq => h (heq ▸ hentry)
  have hlt : 0 < keys.length := List.length_pos_iff.mpr hne
  exact ⟨⟨0, hlt⟩, by simp [setSelected, indexOrZero, hnone, hlt]⟩

omit [DecidableEq α] in
/-- Nothing is shown of an empty list. -/
theorem setSelected_of_nil (dropDown : DropDown keys.length) (h : keys = []) (position : ℕ) :
    (dropDown.setSelected position).selected = none := by
  subst h
  simp [setSelected]

/-- The drop-down shows the key, or nothing when it is not listed, exactly if it
is listed or nothing is. -/
theorem shows_iff (dropDown : DropDown keys.length) :
    (dropDown.setSelected (indexOrZero keys key)).selected.map keys.get =
        (if key ∈ keys then some key else none) ↔ key ∈ keys ∨ keys = [] := by
  by_cases h : key ∈ keys
  · obtain ⟨position, hselected, hkey⟩ := dropDown.setSelected_of_mem h
    rw [if_pos h, hselected, Option.map_some, hkey]
    exact iff_of_true rfl (.inl h)
  · rw [if_neg h]
    by_cases hnil : keys = []
    · simp [dropDown.setSelected_of_nil hnil, hnil]
    · obtain ⟨position, hselected⟩ := dropDown.setSelected_of_not_mem h hnil
      simp [h, hnil, hselected]

/-- While the key is shown, every other entry can be picked. -/
theorem pick_of_ne (dropDown : DropDown keys.length) (h : key ∈ keys ∨ keys = [])
    {position : Fin keys.length} (hne : keys.get position ≠ key) :
    (dropDown.setSelected (indexOrZero keys key)).pick position = some ⟨some position⟩ := by
  rcases h with h | h
  · obtain ⟨shown, hselected, hkey⟩ := dropDown.setSelected_of_mem h
    refine pick_eq_some fun heq => hne ?_
    rw [← Option.some.inj (hselected.symm.trans heq)]
    exact hkey
  · exact absurd position.isLt (by simp [h])

end Keys

end DropDown

/-! ## What is installed -/

/-- `InfiltratrTemporalClockModeInfo` as the drop-down and its capabilities use it. -/
structure InstalledClockMode : Type where
  id : String
  supportsSeconds : Bool
  requiresLatitude : Bool
  requiresLongitude : Bool
  deriving DecidableEq

/-- The installed systems, as Common enumerates and finds them. -/
structure InstalledCatalogue : Type where
  /-- `infiltratr_temporal_installed_clock_mode_count` and `_at` -/
  clockModes : List InstalledClockMode
  /-- `infiltratr_temporal_installed_clock_mode_find` -/
  clockModeFind : String → Option InstalledClockMode
  /-- the identifiers of `infiltratr_temporal_installed_calendar_count` and `_at` -/
  calendars : List String
  /-- a lookup finds the system it is asked for -/
  clockModeFind_id : ∀ {id : String} {info : InstalledClockMode},
    clockModeFind id = some info → info.id = id
  /-- what is enumerated is found -/
  clockModeFind_isSome : ∀ {info : InstalledClockMode},
    info ∈ clockModes → (clockModeFind info.id).isSome = true

/-- What Common's own tables and arrays promise of the installed systems: a lookup
finds the system it is asked for, and identifiers fit the arrays of a policy. -/
structure Common.Keeps (K : Common) (I : InstalledCatalogue) : Prop where
  clockModeFind_id : ∀ {id : String} {info : ClockModeInfo},
    K.clockModeFind id = some info → info.id = id
  copyClockMode : ∀ {info : InstalledClockMode}, info ∈ I.clockModes →
    K.copyClockMode info.id = info.id
  copyCalendar : ∀ {id : String}, id ∈ I.calendars → K.copyCalendar id = id

variable {B W : Type} (K : Common) (I : InstalledCatalogue) (panel : Panel) (m : ModelId)

/-- `clock_mode_strings`: the identifiers behind the entries. The legacy native
default is not offered. -/
def clockModeIds : List String :=
  (I.clockModes.map InstalledClockMode.id).filter fun id => !nativeClockModeIsLegacyDefault id

/-- A status line: its text and whether it reports an error. -/
abbrev StatusLine : Type := String × Bool

/-- The controls that follow the policy. -/
structure PolicyControls : Type where
  /-- `updating_controls` -/
  updatingControls : Bool
  /-- `clock_mode` -/
  clockMode : DropDown (clockModeIds I).length
  /-- `calendar` -/
  calendar : DropDown I.calendars.length
  /-- `show_seconds` -/
  showSeconds : Bool
  /-- whether `show_seconds` is sensitive -/
  showSecondsSensitive : Bool
  /-- `location.latitude` -/
  latitude : Double
  /-- `location.longitude` -/
  longitude : Double
  /-- `location.search_entry` -/
  searchEntry : Text
  /-- the status line -/
  status : StatusLine

/-! ## From identifier to position and back -/

/-- `clock_index_for_id` -/
def clockIndexForId (id : String) : SysM B ℕ := do
  if nativeClockModeIsLegacyDefault id then
    let use24h ← desktopUses24h
    pure (indexOrZero (clockModeIds I) (nativeClockModeId use24h))
  else pure (indexOrZero (clockModeIds I) id)

/-- `calendar_index_for_id` -/
def calendarIndexForId (id : String) : ℕ := indexOrZero I.calendars id

variable {I} in
/-- `selected_clock_mode` -/
def PolicyControls.selectedClockMode (controls : PolicyControls I) : Option InstalledClockMode :=
  (controls.clockMode.selected.map (clockModeIds I).get).bind I.clockModeFind

variable {I} in
/-- `selected_calendar` -/
def PolicyControls.selectedCalendar (controls : PolicyControls I) : Option String :=
  controls.calendar.selected.map I.calendars.get

/-! ## Synchronisation -/

variable {I} in
/-- `update_control_capabilities` -/
def updateControlCapabilities (policy : Option TemporalPolicyV3) (controls : PolicyControls I) :
    PolicyControls I :=
  let mode := controls.selectedClockMode
  let needsLocation := mode.any fun mode => mode.requiresLatitude || mode.requiresLongitude
  let configured := policy.any TemporalPolicyV3.locationConfigured
  { controls with
    showSecondsSensitive := mode.all InstalledClockMode.supportsSeconds
    status :=
      if needsLocation && !configured && !panel.regionalContext.hasReferenceCoordinates then
        ("This clock system needs a geographic location for a meaningful result.", false)
      else controls.status }

variable {I} in
/-- The part of `sync_controls` about the location. -/
def PolicyControls.syncLocation (policy : TemporalPolicyV3) (controls : PolicyControls I) :
    PolicyControls I :=
  if policy.locationConfigured then
    { controls with
      latitude := policy.latitude
      longitude := policy.longitude
      searchEntry :=
        if locationMetadataMatchesPolicy panel (some policy) then panel.metadata.displayName
        else controls.searchEntry }
  else if panel.regionalContext.hasReferenceCoordinates then
    { controls with
      latitude := panel.regionalContext.referenceLatitude
      longitude := panel.regionalContext.referenceLongitude
      searchEntry :=
        if panel.regionalContext.timezoneCity ≠ [] then panel.regionalContext.timezoneCity
        else controls.searchEntry }
  else controls

variable {I} in
/-- `sync_controls`. The two selections notify like any other, but
`updating_controls` is set while they do, and their handlers return at once. -/
def panelSyncControls (controls : PolicyControls I) : SysM B (PolicyControls I) := do
  match ← modelPolicy m with
  | none => pure controls
  | some policy =>
    let position ← clockIndexForId I policy.clockMode
    let selected :=
      { controls with
        clockMode := controls.clockMode.setSelected position
        calendar := controls.calendar.setSelected (calendarIndexForId I policy.calendar)
        showSeconds := policy.showSeconds }
    pure (updateControlCapabilities panel (some policy)
      { selected.syncLocation panel policy with updatingControls := false })

/-! ## Picks -/

/-- `native_compatibility_matches`; the platform's store can compare. -/
def nativeCompatibilityMatches : SysM B Bool := do
  match ← modelPolicy m with
  | none => pure false
  | some policy => storeCompatibilityMatches policy

variable {I} in
/-- `policy_saved` -/
def policySaved (controls : PolicyControls I) : SysM B (PolicyControls I) := do
  let compatibilityOk ← nativeCompatibilityMatches m
  let policy ← modelPolicy m
  pure (updateControlCapabilities panel policy
    { controls with
      status :=
        if compatibilityOk then
          ("System temporal policy saved. Calendar and other Common-aware applications use this setting.",
            false)
        else
          ("System temporal policy saved, but Mint/Cinnamon compatibility settings did not fully synchronize.",
            true) })

variable {I} in
/-- The handler of a drop-down whose selection has changed: set the policy to the
selected identifier, or say so and go back to what the policy has. -/
def onSelectionChanged (selected : Option String) (set : String → SysM B Bool) (failure : String)
    (controls : PolicyControls I) : SysM B (PolicyControls I) := do
  if controls.updatingControls then pure controls
  else
    let saved ← match selected with
      | none => pure false
      | some id => set id
    if saved then policySaved panel m controls
    else panelSyncControls panel m { controls with status := (failure, true) }

variable {I} in
/-- `on_clock_changed` -/
def onClockChanged (controls : PolicyControls I) : SysM B (PolicyControls I) :=
  onSelectionChanged panel m (controls.selectedClockMode.map InstalledClockMode.id)
    (modelSetClockMode K m) "Could not save the clock system." controls

variable {I} in
/-- `on_calendar_changed` -/
def onCalendarChanged (controls : PolicyControls I) : SysM B (PolicyControls I) :=
  onSelectionChanged panel m controls.selectedCalendar (modelSetCalendar K m)
    "Could not save the calendar." controls

variable {I} in
/-- The user picks a clock: the controls at the change event, if there is one. -/
def PolicyControls.pickClockMode (controls : PolicyControls I)
    (position : Fin (clockModeIds I).length) : Option (PolicyControls I) :=
  (controls.clockMode.pick position).map fun clockMode => { controls with clockMode := clockMode }

variable {I} in
/-- The user picks a calendar: the controls at the change event, if there is one. -/
def PolicyControls.pickCalendar (controls : PolicyControls I)
    (position : Fin I.calendars.length) : Option (PolicyControls I) :=
  (controls.calendar.pick position).map fun calendar => { controls with calendar := calendar }

/-! ## What the controls show after a synchronisation -/

/-- What the desktop answered about 24 hours in a run; true without an answer. -/
def answeredUse24h (tr : List (Event (Sys B) W)) : Bool :=
  (tr.findSome? fun
    | ⟨.clockUse24h, answer, _⟩ => answer
    | _ => none).getD true

variable {K I panel m} {s s' : Memory} {priv : ModelPrivate} {tr : List (Event (Sys B) W)}
  {controls controls' : PolicyControls I}

/-- The position of a clock is that of the clock in effect on this desktop. -/
theorem clockIndexForId_yields {policy : TemporalPolicyV3} {position : ℕ}
    (h : (clockIndexForId I policy.clockMode s).Yields tr position s') :
    position = indexOrZero (clockModeIds I) (effectiveMode policy (answeredUse24h tr)) ∧
      s' = s ∧ (tr = [] ∨ ∃ answer w, tr = [event .clockUse24h answer w]) := by
  by_cases hlegacy : policy.clockMode = "standard"
  · simp [clockIndexForId, nativeClockModeIsLegacyDefault, hlegacy, desktopUses24h] at h
    obtain ⟨answer, ⟨w, rfl⟩, rfl, rfl⟩ := h
    refine ⟨?_, rfl, .inr ⟨answer, w, rfl⟩⟩
    cases answer <;> simp [effectiveMode, hlegacy, answeredUse24h]
  · simp [clockIndexForId, nativeClockModeIsLegacyDefault, hlegacy] at h
    obtain ⟨rfl, rfl, rfl⟩ := h
    exact ⟨by simp [effectiveMode, hlegacy], rfl, .inl rfl⟩

@[simp] theorem updateControlCapabilities_clockMode (policy : Option TemporalPolicyV3) :
    (updateControlCapabilities panel policy controls).clockMode = controls.clockMode := rfl

@[simp] theorem updateControlCapabilities_calendar (policy : Option TemporalPolicyV3) :
    (updateControlCapabilities panel policy controls).calendar = controls.calendar := rfl

@[simp] theorem updateControlCapabilities_updatingControls (policy : Option TemporalPolicyV3) :
    (updateControlCapabilities panel policy controls).updatingControls =
      controls.updatingControls := rfl

@[simp] theorem syncLocation_clockMode (policy : TemporalPolicyV3) :
    (controls.syncLocation panel policy).clockMode = controls.clockMode := by
  unfold PolicyControls.syncLocation
  split_ifs <;> rfl

@[simp] theorem syncLocation_calendar (policy : TemporalPolicyV3) :
    (controls.syncLocation panel policy).calendar = controls.calendar := by
  unfold PolicyControls.syncLocation
  split_ifs <;> rfl

/-- Both drop-downs are set to the position of what the policy has. -/
theorem panelSyncControls_yields (hm : s.models m = some priv)
    (h : (panelSyncControls panel m controls s).Yields tr controls' s') :
    s' = s ∧ controls'.updatingControls = false ∧
      controls'.clockMode = controls.clockMode.setSelected
        (indexOrZero (clockModeIds I) (effectiveMode priv.policy (answeredUse24h tr))) ∧
      controls'.calendar =
        controls.calendar.setSelected (indexOrZero I.calendars priv.policy.calendar) := by
  simp only [panelSyncControls, Action.bind_run, modelPolicy_run, hm, Option.map_some,
    Prog.ret_bind] at h
  obtain ⟨tr₁, position, s₁, tr₂, h₁, h₂, rfl⟩ := Prog.yields_bind h
  obtain ⟨rfl, rfl, rfl⟩ := h₂
  rw [List.append_nil]
  obtain ⟨rfl, rfl, -⟩ := clockIndexForId_yields h₁
  exact ⟨rfl, rfl, by simp, by simp [calendarIndexForId]⟩

/-- The clock in effect is never the legacy native default. -/
theorem effectiveMode_ne_standard (policy : TemporalPolicyV3) (use24h : Bool) :
    nativeClockModeIsLegacyDefault (effectiveMode policy use24h) = false := by
  unfold effectiveMode nativeClockModeIsLegacyDefault
  split_ifs with h
  · cases use24h <;> decide
  · simpa using h

/-- So it is offered when it is installed. -/
theorem effectiveMode_mem_clockModeIds {policy : TemporalPolicyV3} {use24h : Bool} :
    effectiveMode policy use24h ∈ clockModeIds I ↔
      effectiveMode policy use24h ∈ I.clockModes.map InstalledClockMode.id := by
  simp [clockModeIds, List.mem_filter, effectiveMode_ne_standard]

/-- What is offered is installed. -/
theorem mem_clockModes_of_mem_clockModeIds {id : String} (h : id ∈ clockModeIds I) :
    ∃ info ∈ I.clockModes, info.id = id :=
  List.mem_map.mp (List.mem_filter.mp h).1

/-- An offered clock is found again. -/
theorem selectedClockMode_id :
    controls.selectedClockMode.map InstalledClockMode.id =
      controls.clockMode.selected.map (clockModeIds I).get := by
  cases hselected : controls.clockMode.selected with
  | none => simp [PolicyControls.selectedClockMode, hselected]
  | some position =>
    obtain ⟨info, hinfo, hid⟩ :=
      mem_clockModes_of_mem_clockModeIds ((clockModeIds I).get_mem position)
    obtain ⟨found, hfound⟩ := Option.isSome_iff_exists.mp (I.clockModeFind_isSome hinfo)
    rw [hid] at hfound
    rw [PolicyControls.selectedClockMode, hselected, Option.map_some, Option.bind_some, hfound,
      Option.map_some, I.clockModeFind_id hfound]

/-! ## What a pick leaves -/

/-- A synchronisation only asks the desktop. -/
theorem panelSyncControls_trace
    (h : (panelSyncControls panel m controls s).Yields tr controls' s') :
    s' = s ∧ (tr = [] ∨ ∃ answer w, tr = [event .clockUse24h answer w]) := by
  cases hm : s.models m with
  | none =>
    simp [panelSyncControls, hm] at h
    exact ⟨h.2.2, .inl h.1⟩
  | some priv =>
    simp only [panelSyncControls, Action.bind_run, modelPolicy_run, hm, Option.map_some,
      Prog.ret_bind] at h
    obtain ⟨tr₁, position, s₁, tr₂, h₁, h₂, rfl⟩ := Prog.yields_bind h
    obtain ⟨rfl, rfl, rfl⟩ := h₂
    rw [List.append_nil]
    exact (clockIndexForId_yields h₁).2

/-- The report of a success only compares the desktop's settings. -/
theorem policySaved_trace (h : (policySaved panel m controls s).Yields tr controls' s') :
    s' = s ∧
      (tr = [] ∨ ∃ policy answer w, tr = [event (.compatibilityMatches policy) answer w]) := by
  cases hm : s.models m with
  | none =>
    simp [policySaved, nativeCompatibilityMatches, hm] at h
    exact ⟨h.2.2, .inl h.1⟩
  | some priv =>
    simp only [policySaved, nativeCompatibilityMatches, Action.bind_run, modelPolicy_run, hm,
      Option.map_some, Prog.ret_bind, storeCompatibilityMatches_run, Prog.call_bind,
      Prog.yields_call] at h
    obtain ⟨answer, w, tr₁, rfl, rfl, -, rfl⟩ := h
    exact ⟨rfl, .inr ⟨priv.policy, answer, w, rfl⟩⟩

/-- A setter that saves a document saves its own change, and the model takes it. -/
theorem ModelOp.Outcome.saves {op : ModelOp} {id : String} {ok : Bool}
    (hop : op = .setClockMode id ∨ op = .setCalendar id) (h : op.Outcome K m s tr ok s')
    {saved : TemporalPolicyV3} {w : W} (hsave : event (.save saved) true w ∈ tr) :
    ok = true ∧ ∃ edit policy, op.change K = some edit ∧ saved = edit policy ∧
      (s'.models m).map ModelPrivate.policy = some saved := by
  rcases hop with rfl | rfl
  all_goals
    cases h with
    | saved priv _ edit x w₁ w₂ w₃ w₄ hm hs hchange =>
      simp [event] at hsave
      exact ⟨rfl, edit, x.1, hchange, hsave.1, by simp [hsave.1]⟩
    | _ => simp [event] at hsave

/-- A handler that saves a document saves the selected identifier. -/
theorem onSelectionChanged_saves (op : String → ModelOp) {selected : Option String}
    {failure : String} (hop : op = .setClockMode ∨ op = .setCalendar)
    (hl : ∀ priv, s.models m = some priv → priv.store.Locking)
    (h : (onSelectionChanged panel m selected (fun id => (op id).run K m) failure controls
      s).Yields tr controls' s')
    {saved : TemporalPolicyV3} {w : W} (hsave : event (.save saved) true w ∈ tr) :
    ∃ id edit policy, selected = some id ∧ (op id).change K = some edit ∧ saved = edit policy ∧
      (s'.models m).map ModelPrivate.policy = some saved := by
  have hsync : ∀ {controls : PolicyControls I} {tr₁ : List (Event (Sys B) W)} {s₁ s₂ : Memory},
      (panelSyncControls panel m controls s₁).Yields tr₁ controls' s₂ →
        event (.save saved) true w ∉ tr₁ := by
    intro controls tr₁ s₁ s₂ hsync hmem
    obtain ⟨-, rfl | ⟨answer, w', rfl⟩⟩ := panelSyncControls_trace hsync
    · cases hmem
    · simp [event] at hmem
  unfold onSelectionChanged at h
  split_ifs at h with hupdating
  · obtain ⟨rfl, -⟩ := h
    cases hsave
  cases selected with
  | none =>
    simp only [Action.bind_run, Action.pure_run, Prog.ret_bind] at h
    exact absurd hsave (hsync h)
  | some id =>
    obtain ⟨tr₁, ok, s₁, tr₂, h₁, h₂, rfl⟩ := Prog.yields_bind h
    have houtcome := ModelOp.run_outcome hl h₁
    have hid : op id = .setClockMode id ∨ op id = .setCalendar id := by
      rcases hop with rfl | rfl
      · exact .inl rfl
      · exact .inr rfl
    cases ok with
    | false =>
      rcases List.mem_append.mp hsave with hsave | hsave
      · obtain ⟨hok, -⟩ := houtcome.saves hid hsave
        cases hok
      · exact absurd hsave (hsync h₂)
    | true =>
      obtain ⟨rfl, htrace⟩ := policySaved_trace h₂
      rcases List.mem_append.mp hsave with hsave | hsave
      · obtain ⟨-, edit, policy, hchange, heq, hpolicy⟩ := houtcome.saves hid hsave
        exact ⟨id, edit, policy, rfl, hchange, heq, hpolicy⟩
      · obtain rfl | ⟨policy, answer, w', rfl⟩ := htrace
        · cases hsave
        · simp [event] at hsave

/-- A clock that is saved is the selected one. -/
theorem onClockChanged_saves (hK : K.Keeps I)
    (hl : ∀ priv, s.models m = some priv → priv.store.Locking)
    (h : (onClockChanged K panel m controls s).Yields tr controls' s')
    {saved : TemporalPolicyV3} {w : W} (hsave : event (.save saved) true w ∈ tr) :
    controls.clockMode.selected.map (clockModeIds I).get = some saved.clockMode ∧
      (s'.models m).map ModelPrivate.policy = some saved := by
  obtain ⟨id, edit, policy, hid, hchange, rfl, hpolicy⟩ :=
    onSelectionChanged_saves .setClockMode (.inl rfl) hl h hsave
  obtain ⟨info, hinfo, rfl⟩ := Option.map_eq_some_iff.mp hchange
  rw [selectedClockMode_id] at hid
  obtain ⟨position, -, hposition⟩ := Option.map_eq_some_iff.mp hid
  obtain ⟨installed, hinstalled, heq⟩ :=
    mem_clockModes_of_mem_clockModeIds ((clockModeIds I).get_mem position)
  refine ⟨hid.trans (congrArg some ?_), hpolicy⟩
  calc id = installed.id := (heq.trans hposition).symm
    _ = K.copyClockMode installed.id := (hK.copyClockMode hinstalled).symm
    _ = K.copyClockMode info.id := by
      rw [hK.clockModeFind_id hinfo, heq]
      exact congrArg K.copyClockMode hposition

/-- A calendar that is saved is the selected one. -/
theorem onCalendarChanged_saves (hK : K.Keeps I)
    (hl : ∀ priv, s.models m = some priv → priv.store.Locking)
    (h : (onCalendarChanged K panel m controls s).Yields tr controls' s')
    {saved : TemporalPolicyV3} {w : W} (hsave : event (.save saved) true w ∈ tr) :
    controls.calendar.selected.map I.calendars.get = some saved.calendar ∧
      (s'.models m).map ModelPrivate.policy = some saved := by
  obtain ⟨id, edit, policy, hid, hchange, rfl, hpolicy⟩ :=
    onSelectionChanged_saves .setCalendar (.inr rfl) hl h hsave
  obtain ⟨-, hedit⟩ := (Option.ite_none_right_eq_some ..).mp hchange
  obtain rfl := Option.some.inj hedit
  obtain ⟨position, -, hposition⟩ := Option.map_eq_some_iff.mp hid
  have hmem : id ∈ I.calendars := hposition ▸ I.calendars.get_mem position
  exact ⟨hid.trans (congrArg some (hK.copyCalendar hmem).symm), hpolicy⟩

/-! ## The drop-downs and the policy -/

variable (B W K panel m) in
/-- The drop-downs show the systems of the policy, as far as they are installed,
and every other entry can be picked: that is a change, and a handler that saves
then leaves a policy with the identifier picked. -/
structure OwnSystems (policy : TemporalPolicyV3) (use24h : Bool)
    (controls : PolicyControls I) : Prop where
  /-- the clock shown is the one in effect, or none -/
  clockMode : controls.selectedClockMode.map InstalledClockMode.id =
    if effectiveMode policy use24h ∈ I.clockModes.map InstalledClockMode.id then
      some (effectiveMode policy use24h) else none
  /-- the calendar shown is the policy's, or none -/
  calendar : controls.selectedCalendar =
    if policy.calendar ∈ I.calendars then some policy.calendar else none
  /-- any other clock can be picked -/
  pickClockMode : ∀ position, (clockModeIds I).get position ≠ effectiveMode policy use24h →
    ∃ picked, controls.pickClockMode position = some picked ∧ picked.updatingControls = false ∧
      ∀ (s s' : Memory) (tr : List (Event (Sys B) W)) (left : PolicyControls I),
        (∀ priv, s.models m = some priv → priv.store.Locking) →
        (onClockChanged K panel m picked s).Yields tr left s' →
        ∀ saved w, event (.save saved) true w ∈ tr →
          saved.clockMode = (clockModeIds I).get position ∧
            (s'.models m).map ModelPrivate.policy = some saved
  /-- any other calendar can be picked -/
  pickCalendar : ∀ position, I.calendars.get position ≠ policy.calendar →
    ∃ picked, controls.pickCalendar position = some picked ∧ picked.updatingControls = false ∧
      ∀ (s s' : Memory) (tr : List (Event (Sys B) W)) (left : PolicyControls I),
        (∀ priv, s.models m = some priv → priv.store.Locking) →
        (onCalendarChanged K panel m picked s).Yields tr left s' →
        ∀ saved w, event (.save saved) true w ∈ tr →
          saved.calendar = I.calendars.get position ∧
            (s'.models m).map ModelPrivate.policy = some saved

/-- The drop-downs show the policy's own systems after a synchronisation exactly
if each of them is installed or its list is empty. -/
theorem ownSystems_iff (hK : K.Keeps I) (hm : s.models m = some priv)
    (h : (panelSyncControls panel m controls s).Yields tr controls' s') :
    OwnSystems B W K panel m priv.policy (answeredUse24h tr) controls' ↔
      (effectiveMode priv.policy (answeredUse24h tr) ∈ I.clockModes.map InstalledClockMode.id ∨
        clockModeIds I = []) ∧
      (priv.policy.calendar ∈ I.calendars ∨ I.calendars = []) := by
  obtain ⟨-, hupdating, hclock, hcalendar⟩ := panelSyncControls_yields hm h
  have hclockShown : controls'.selectedClockMode.map InstalledClockMode.id =
      (if effectiveMode priv.policy (answeredUse24h tr) ∈
          I.clockModes.map InstalledClockMode.id then
        some (effectiveMode priv.policy (answeredUse24h tr)) else none) ↔
      effectiveMode priv.policy (answeredUse24h tr) ∈ I.clockModes.map InstalledClockMode.id ∨
        clockModeIds I = [] := by
    simp only [selectedClockMode_id, hclock, ← effectiveMode_mem_clockModeIds]
    exact DropDown.shows_iff _
  have hcalendarShown : controls'.selectedCalendar =
      (if priv.policy.calendar ∈ I.calendars then some priv.policy.calendar else none) ↔
      priv.policy.calendar ∈ I.calendars ∨ I.calendars = [] := by
    rw [PolicyControls.selectedCalendar, hcalendar]
    exact DropDown.shows_iff _
  constructor
  · intro hown
    exact ⟨hclockShown.mp hown.clockMode, hcalendarShown.mp hown.calendar⟩
  · rintro ⟨hinstalled, hlisted⟩
    refine ⟨hclockShown.mpr hinstalled, hcalendarShown.mpr hlisted, ?_, ?_⟩
    · intro position hne
      rw [← effectiveMode_mem_clockModeIds] at hinstalled
      refine ⟨{ controls' with clockMode := ⟨some position⟩ }, ?_, hupdating, ?_⟩
      · rw [PolicyControls.pickClockMode, hclock, DropDown.pick_of_ne _ hinstalled hne,
          Option.map_some]
      · intro s₁ s₂ tr₁ left hl hrun saved w hsave
        obtain ⟨hid, hpolicy⟩ := onClockChanged_saves hK hl hrun hsave
        exact ⟨(Option.some.inj hid).symm, hpolicy⟩
    · intro position hne
      refine ⟨{ controls' with calendar := ⟨some position⟩ }, ?_, hupdating, ?_⟩
      · rw [PolicyControls.pickCalendar, hcalendar, DropDown.pick_of_ne _ hlisted hne,
          Option.map_some]
      · intro s₁ s₂ tr₁ left hl hrun saved w hsave
        obtain ⟨hid, hpolicy⟩ := onCalendarChanged_saves hK hl hrun hsave
        exact ⟨(Option.some.inj hid).symm, hpolicy⟩

/-! ## A calendar that is not installed -/

/-- Two clocks and one calendar. -/
def InstalledCatalogue.small : InstalledCatalogue where
  clockModes := [⟨"standard-12", true, false, false⟩, ⟨"standard-24", true, false, false⟩]
  clockModeFind id :=
    if id = "standard-12" ∨ id = "standard-24" then some ⟨id, true, false, false⟩ else none
  calendars := ["gregorian"]
  clockModeFind_id := by
    intro id info h
    split_ifs at h
    exact Option.some.inj h ▸ rfl
  clockModeFind_isSome := by
    intro info h
    simp at h
    rcases h with rfl | rfl <;> rfl

theorem Common.small_keeps : Common.small.Keeps .small where
  clockModeFind_id := by
    intro id info h
    simp only [Common.small] at h
    split_ifs at h
    exact Option.some.inj h ▸ rfl
  copyClockMode _ := rfl
  copyCalendar _ := rfl

/-- A model that has a policy with this clock and calendar. -/
def modelOf (clockMode calendar : String) : ModelPrivate :=
  ⟨⟨clockMode, calendar, true, false, .finite 0, .finite 0⟩, platformTemporalPolicyStore, true,
    false⟩

/-- A panel that knows no place. -/
def placelessPanel : Panel := ⟨.zero, .zero, false, false, false, false⟩

/-- The controls as they are made. -/
def PolicyControls.small : PolicyControls .small where
  updatingControls := false
  clockMode := ⟨some ⟨0, by decide⟩⟩
  calendar := ⟨some ⟨0, by decide⟩⟩
  showSeconds := false
  showSecondsSensitive := true
  latitude := .finite 0
  longitude := .finite 0
  searchEntry := []
  status := ("", false)

/-- The same controls after a policy that shows seconds. -/
def PolicyControls.smallSynced : PolicyControls .small :=
  { PolicyControls.small with showSeconds := true }

/-- The desktop's equivalent of the legacy default is shown. -/
theorem ownSystems_legacy :
    OwnSystems Unit Unit Common.small placelessPanel 0 (modelOf "standard" "gregorian").policy false
      PolicyControls.smallSynced := by
  have hrun : (panelSyncControls placelessPanel 0 PolicyControls.small
      (Memory.empty.setModel 0 (some (modelOf "standard" "gregorian")))).Yields
        [event (B := Unit) .clockUse24h (some false) ()] PolicyControls.smallSynced
        (Memory.empty.setModel 0 (some (modelOf "standard" "gregorian"))) :=
    ⟨some false, (), [], rfl, rfl, rfl, rfl⟩
  exact (ownSystems_iff Common.small_keeps (Memory.setModel_self ..) hrun).mpr (by decide)

/-- A calendar that is not installed is shown as the first one that is, which can
then not be picked. -/
theorem not_ownSystems_of_uninstalled_calendar :
    (panelSyncControls placelessPanel 0 PolicyControls.small
        (Memory.empty.setModel 0 (some (modelOf "standard-12" "mayan")))).Yields
      ([] : List (Event (Sys Unit) Unit)) PolicyControls.smallSynced
      (Memory.empty.setModel 0 (some (modelOf "standard-12" "mayan"))) ∧
    PolicyControls.smallSynced.selectedCalendar = some "gregorian" ∧
    PolicyControls.smallSynced.pickCalendar ⟨0, by decide⟩ = none ∧
    ¬ OwnSystems Unit Unit Common.small placelessPanel 0 (modelOf "standard-12" "mayan").policy true
      PolicyControls.smallSynced := by
  refine ⟨⟨rfl, rfl, rfl⟩, rfl, rfl, fun hown => ?_⟩
  exact absurd hown.calendar (by decide)

end SystemSettings

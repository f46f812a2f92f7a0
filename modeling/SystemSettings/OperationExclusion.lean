import SystemSettings.SystemTimeOperations

/-!
# One protected operation at a time

At most one kind of operation is in flight, a request of another kind is
refused, and only the reply to the newest request of a kind ends it. The marks
follow the requests that have no reply: a mark without one cannot be.
-/

namespace SystemSettings

/-! ## What holds of the panel and its requests -/

/-- The controls go with what was last read of the service and with the marks as they are now. -/
structure SystemTimePanel.Synced (panel : SystemTimePanel) : Prop where
  timezone : ∀ state, panel.shown.state = some state → panel.controls.timezone = !panel.active
  networkTime : ∀ state, panel.shown.state = some state →
    panel.controls.networkTime = (state.canNtp && !panel.active)
  manualRow : ∀ state, panel.shown.state = some state →
    panel.controls.manualRow = (!state.ntpEnabled && panel.shown.manualSupported)
  /-- manual time, where it is visible -/
  manual : panel.controls.manualRow = true → panel.controls.manual = !panel.active

/-- No control is disabled for an operation: where the service was readable, the zone and network
time take input, the latter if the system has it, and so does manual time where it is visible. -/
structure SystemTimePanel.Usable (panel : SystemTimePanel) : Prop where
  timezone : ∀ state, panel.shown.state = some state → panel.controls.timezone = true
  networkTime : ∀ state, panel.shown.state = some state →
    panel.controls.networkTime = state.canNtp
  manual : ∀ state, panel.shown.state = some state → state.ntpEnabled = false →
    panel.shown.manualSupported = true → panel.controls.manual = true
  /-- manual time is visible only then -/
  visible : panel.controls.manualRow = true → panel.controls.manual = true

/-- The kind of request that an action makes. -/
def OperationAction.kind : OperationAction → Option SystemTimeOperation
  | timezone _ _ => some .timezone
  | networkTime _ _ => some .ntp
  | manualTime _ _ => some .manual
  | _ => none

/-- The generations of every kind fit their counter. -/
def OperationWorld.Countable (w : OperationWorld) : Prop := ∀ operation, w.sent operation < 2 ^ 32

/-- What holds at every moment. -/
structure OneOperation (w : OperationWorld) : Prop where
  /-- one kind of operation is in flight at most -/
  exclusive : ∀ panel, w.panel = some panel → ∀ operation operation',
    panel.inFlight operation = true → panel.inFlight operation' = true → operation = operation'
  /-- a request of another kind is not sent and leaves the marks as they are -/
  refusal : ∀ panel operation, w.panel = some panel → panel.inFlight operation = true →
    ∀ a kind w', a.kind = some kind → kind ≠ operation → operationStep w a = some w' →
      w'.pending = w.pending ∧ ∃ panel', w'.panel = some panel' ∧
        panel'.inFlight = panel.inFlight ∧ panel'.generation = panel.generation
  /-- a reply that changes the panel is the one to the newest request of its kind -/
  newest : ∀ request reply reading w', operationStep w (.reply request reply reading) = some w' →
    w'.panel ≠ w.panel → request.ordinal = w.sent request.operation
  /-- that reply ends the operation and brings the controls up to date -/
  answered : ∀ request reply reading w' panel panel', w.panel = some panel →
    request.ordinal = w.sent request.operation →
    operationStep w (.reply request reply reading) = some w' → w'.panel = some panel' →
      panel'.inFlight request.operation = false ∧ panel'.shown = panel.reads reading
  /-- the controls go with the last reading and the marks -/
  controls : ∀ panel, w.panel = some panel → panel.Synced
  /-- without a request that waits for its reply no mark is left, no control is
  disabled for one, nor by any later update, and every kind of request can be made -/
  settled : w.pending = [] → ∀ panel, w.panel = some panel →
    (∀ operation, panel.inFlight operation = false) ∧
      panel.Usable ∧ (∀ reading, (systemTimeSync reading panel).Usable) ∧
      ∀ operation, beginSystemTimeOperation operation panel ≠ none
  /-- once the panel is freed nothing touches it -/
  disposed : w.touched = false ∧ (w.panel = none → ∀ request reply reading w',
    operationStep w (.reply request reply reading) = some w' →
      w' = { w with pending := w.pending.erase request })

/-- The invariant of the panel and its requests. -/
structure OperationInvariant (w : OperationWorld) : Prop where
  lifetime : w.lifetime = w.panel.isSome
  untouched : w.touched = false
  exclusive : ∀ panel, w.panel = some panel → ∀ operation operation',
    panel.inFlight operation = true → panel.inFlight operation' = true → operation = operation'
  generation : ∀ panel, w.panel = some panel → ∀ operation,
    panel.generation operation = UInt32.ofNat (w.sent operation)
  owed : ∀ panel, w.panel = some panel → ∀ operation, panel.inFlight operation = true →
    ∃ request ∈ w.pending, request.operation = operation ∧ request.ordinal = w.sent operation
  numbered : ∀ request ∈ w.pending, request.generation = UInt32.ofNat request.ordinal ∧
    request.ordinal ≤ w.sent request.operation
  synced : ∀ panel, w.panel = some panel → panel.Synced

/-! ## Requests -/

@[simp] theorem systemTimeSync_inFlight (reading : SystemReading) (panel : SystemTimePanel) :
    (systemTimeSync reading panel).inFlight = panel.inFlight := rfl

@[simp] theorem systemTimeSync_generation (reading : SystemReading) (panel : SystemTimePanel) :
    (systemTimeSync reading panel).generation = panel.generation := rfl

@[simp] theorem setStatus_inFlight (panel : SystemTimePanel) (status : Text) :
    (panel.setStatus status).inFlight = panel.inFlight := rfl

@[simp] theorem setStatus_generation (panel : SystemTimePanel) (status : Text) :
    (panel.setStatus status).generation = panel.generation := rfl

@[simp] theorem systemTimeSync_active (reading : SystemReading) (panel : SystemTimePanel) :
    (systemTimeSync reading panel).active = panel.active := rfl

@[simp] theorem systemTimeSync_shown (reading : SystemReading) (panel : SystemTimePanel) :
    (systemTimeSync reading panel).shown = panel.reads reading := rfl

@[simp] theorem systemTimeSync_controls (reading : SystemReading) (panel : SystemTimePanel) :
    (systemTimeSync reading panel).controls =
      syncControls (panel.reads reading) panel.active panel.controls := rfl

theorem systemTimeSync_synced (reading : SystemReading) (panel : SystemTimePanel) :
    (systemTimeSync reading panel).Synced := by
  constructor
  · intro state hstate
    simp_all [syncControls]
  · intro state hstate
    simp_all [syncControls]
  · intro state hstate
    simp_all [syncControls]
  · intro hrow
    cases hstate : (panel.reads reading).state with
    | none => simp [syncControls, hstate] at hrow
    | some state => simp_all [syncControls]

theorem SystemTimePanel.Synced.setStatus {panel : SystemTimePanel} (h : panel.Synced)
    (status : Text) : (panel.setStatus status).Synced :=
  ⟨h.timezone, h.networkTime, h.manualRow, h.manual⟩

/-- Without an operation in flight none is disabled for one. -/
theorem SystemTimePanel.Synced.usable {panel : SystemTimePanel} (h : panel.Synced)
    (hactive : panel.active = false) : panel.Usable := by
  have hvisible : panel.controls.manualRow = true → panel.controls.manual = true := by
    intro hrow
    rw [h.manual hrow, hactive]
    rfl
  refine ⟨fun state hstate => ?_, fun state hstate => ?_, fun state hstate hntp hsupported => ?_,
    hvisible⟩
  · rw [h.timezone state hstate, hactive]
    rfl
  · rw [h.networkTime state hstate, hactive, Bool.not_false, Bool.and_true]
  · refine hvisible ?_
    rw [h.manualRow state hstate, hntp, hsupported]
    rfl

/-- Another kind in flight is a kind in flight. -/
theorem otherInFlight_iff {panel : SystemTimePanel} {operation : SystemTimeOperation} :
    panel.otherInFlight operation = true ↔
      ∃ other, other ≠ operation ∧ panel.inFlight other = true := by
  simp only [SystemTimePanel.otherInFlight, Bool.or_eq_true, Bool.and_eq_true, bne_iff_ne, ne_eq]
  constructor
  · rintro ((h | h) | h)
    · exact ⟨_, Ne.symm h.1, h.2⟩
    · exact ⟨_, Ne.symm h.1, h.2⟩
    · exact ⟨_, Ne.symm h.1, h.2⟩
  · rintro ⟨other, hother, hflight⟩
    cases other with
    | timezone => exact .inl (.inl ⟨Ne.symm hother, hflight⟩)
    | ntp => exact .inl (.inr ⟨Ne.symm hother, hflight⟩)
    | manual => exact .inr ⟨Ne.symm hother, hflight⟩

/-- Nothing is sent, and the marks stay. -/
structure Unsent (panel : SystemTimePanel) (result : Option SystemTimeUiRequest × SystemTimePanel) :
    Prop where
  nothing : result.1 = none
  inFlight : result.2.inFlight = panel.inFlight
  generation : result.2.generation = panel.generation
  synced : panel.Synced → result.2.Synced

/-- A request of this kind is sent, and no other kind was in flight. -/
structure Sent (operation : SystemTimeOperation) (panel : SystemTimePanel)
    (result : Option SystemTimeUiRequest × SystemTimePanel) : Prop where
  request : result.1 = some ⟨panel.generation operation + 1, operation⟩
  free : panel.otherInFlight operation = false
  inFlight : result.2.inFlight = Function.update panel.inFlight operation true
  generation : result.2.generation =
    Function.update panel.generation operation (panel.generation operation + 1)
  synced : result.2.Synced

/-- What a function of the panel that makes requests of one kind can do. -/
def Asks (operation : SystemTimeOperation)
    (act : SystemTimePanel → Option SystemTimeUiRequest × SystemTimePanel) : Prop :=
  ∀ panel, Unsent panel (act panel) ∨ Sent operation panel (act panel)

theorem Unsent.refl (panel : SystemTimePanel) : Unsent panel (none, panel) :=
  ⟨rfl, rfl, rfl, id⟩

theorem sendSystemTimeOperation_asks (operation : SystemTimeOperation) (syncRefused : Bool)
    (message : Text) (reading : SystemReading) :
    Asks operation (sendSystemTimeOperation operation syncRefused message reading) := by
  intro panel
  cases hother : panel.otherInFlight operation with
  | true =>
    left
    simp only [sendSystemTimeOperation, beginSystemTimeOperation, hother, if_true]
    cases syncRefused with
    | true =>
      exact ⟨rfl, rfl, rfl, fun _ => (systemTimeSync_synced reading panel).setStatus busyMessage⟩
    | false => exact ⟨rfl, rfl, rfl, fun hsynced => hsynced.setStatus busyMessage⟩
  | false =>
    right
    simp only [sendSystemTimeOperation, beginSystemTimeOperation, hother]
    exact ⟨rfl, hother, rfl, rfl, (systemTimeSync_synced _ _).setStatus message⟩

theorem requestSystemTimezone_asks (timezoneId : Text) (reading : SystemReading) :
    Asks .timezone (requestSystemTimezone timezoneId reading) := by
  intro panel
  simp only [requestSystemTimezone]
  split
  · exact sendSystemTimeOperation_asks _ _ _ _ panel
  · exact .inl (.refl panel)

theorem onNetworkTimeChanged_asks (enabled : Bool) (reading : SystemReading) :
    Asks .ntp (onNetworkTimeChanged enabled reading) := by
  intro panel
  simp only [onNetworkTimeChanged]
  split
  · exact sendSystemTimeOperation_asks _ _ _ _ panel
  · exact .inl (.refl panel)

theorem onManualSetTimeClicked_asks (parsed : Option ℤ) (reading : SystemReading) :
    Asks .manual (onManualSetTimeClicked parsed reading) := by
  intro panel
  simp only [onManualSetTimeClicked]
  split
  · cases parsed with
    | none => exact .inl ⟨rfl, rfl, rfl, fun hsynced => hsynced.setStatus _⟩
    | some unixTime => exact sendSystemTimeOperation_asks _ _ _ _ panel
  · exact .inl (.refl panel)

/-- Every action of the user asks for one kind. -/
theorem operationStep_request {w : OperationWorld} {a : OperationAction}
    {kind : SystemTimeOperation} (hkind : a.kind = some kind) :
    ∃ act, Asks kind act ∧ operationStep w a = w.request act := by
  cases a with
  | timezone timezoneId reading =>
    cases hkind
    exact ⟨_, requestSystemTimezone_asks timezoneId reading, rfl⟩
  | networkTime enabled reading =>
    cases hkind
    exact ⟨_, onNetworkTimeChanged_asks enabled reading, rfl⟩
  | manualTime parsed reading =>
    cases hkind
    exact ⟨_, onManualSetTimeClicked_asks parsed reading, rfl⟩
  | _ => cases hkind

/-- What a request comes to. -/
theorem request_cases {w w' : OperationWorld} {kind : SystemTimeOperation}
    {act : SystemTimePanel → Option SystemTimeUiRequest × SystemTimePanel} (hasks : Asks kind act)
    (h : w.request act = some w') :
    ∃ panel panel', w.panel = some panel ∧
      (w' = { w with panel := some panel' } ∧ Unsent panel (none, panel') ∨
        w' = { w with
            panel := some panel'
            pending := ⟨⟨panel.generation kind + 1, kind⟩, w.sent kind + 1⟩ :: w.pending
            sent := Function.update w.sent kind (w.sent kind + 1) } ∧
          Sent kind panel (some ⟨panel.generation kind + 1, kind⟩, panel')) := by
  simp only [OperationWorld.request] at h
  split at h
  · cases h
  · next panel hpanel =>
    have hact := hasks panel
    split at h
    · next panel' hresult =>
      rw [hresult] at hact
      cases h
      refine ⟨panel, panel', hpanel, .inl ⟨rfl, ?_⟩⟩
      rcases hact with hunsent | hsent
      · exact hunsent
      · cases hsent.request
    · next request panel' hresult =>
      rw [hresult] at hact
      cases h
      rcases hact with hunsent | hsent
      · cases hunsent.nothing
      · cases hsent.request
        exact ⟨panel, panel', hpanel, .inr ⟨rfl, hsent⟩⟩

/-- A request keeps the invariant. -/
theorem OperationInvariant.request {w w' : OperationWorld} (h : OperationInvariant w)
    {kind : SystemTimeOperation}
    {act : SystemTimePanel → Option SystemTimeUiRequest × SystemTimePanel} (hasks : Asks kind act)
    (hstep : w.request act = some w') : OperationInvariant w' := by
  obtain ⟨panel, panel', hpanel, ⟨rfl, hunsent⟩ | ⟨rfl, hsent⟩⟩ := request_cases hasks hstep
  · have hmarks : panel'.inFlight = panel.inFlight := hunsent.inFlight
    have hgeneration : panel'.generation = panel.generation := hunsent.generation
    refine ⟨?_, h.untouched, ?_, ?_, ?_, h.numbered, ?_⟩
    · rw [h.lifetime, hpanel]
      rfl
    · rintro _ ⟨⟩
      rw [hmarks]
      exact h.exclusive panel hpanel
    · rintro _ ⟨⟩
      rw [hgeneration]
      exact h.generation panel hpanel
    · rintro _ ⟨⟩
      rw [hmarks]
      exact h.owed panel hpanel
    · rintro _ ⟨⟩
      exact hunsent.synced (h.synced panel hpanel)
  · have hmarks : panel'.inFlight = Function.update panel.inFlight kind true := hsent.inFlight
    have hgeneration : panel'.generation =
      Function.update panel.generation kind (panel.generation kind + 1) := hsent.generation
    have hnext : panel.generation kind + 1 = UInt32.ofNat (w.sent kind + 1) := by
      rw [h.generation panel hpanel kind, UInt32.ofNat_add]
      rfl
    have honly : ∀ operation, panel'.inFlight operation = true → operation = kind := by
      intro operation hflight
      by_contra hother
      rw [hmarks, Function.update_of_ne hother] at hflight
      have hbusy := otherInFlight_iff.mpr ⟨operation, hother, hflight⟩
      rw [hsent.free] at hbusy
      cases hbusy
    refine ⟨?_, h.untouched, ?_, ?_, ?_, ?_, ?_⟩
    · rw [h.lifetime, hpanel]
      rfl
    · rintro _ ⟨⟩ operation operation' hflight hflight'
      rw [honly operation hflight, honly operation' hflight']
    · rintro _ ⟨⟩ operation
      rw [hgeneration]
      by_cases hkind : operation = kind
      · subst hkind
        simp only [Function.update_self, hnext]
      · simp only [Function.update_of_ne hkind]
        exact h.generation panel hpanel operation
    · rintro _ ⟨⟩ operation hflight
      obtain rfl := honly operation hflight
      exact ⟨_, List.mem_cons_self, rfl, by simp only [Function.update_self]⟩
    · intro request hrequest
      rcases List.mem_cons.mp hrequest with rfl | hrequest
      · exact ⟨hnext, by simp only [Function.update_self, le_refl]⟩
      · obtain ⟨hrequestGeneration, hordinal⟩ := h.numbered request hrequest
        refine ⟨hrequestGeneration, ?_⟩
        by_cases hkind : request.operation = kind
        · rw [hkind] at hordinal
          simp only [hkind, Function.update_self]
          omega
        · simp only [Function.update_of_ne hkind]
          exact hordinal
    · rintro _ ⟨⟩
      exact hsent.synced

/-! ## Replies -/

/-- The generation of a waiting request is the newest one when the request is. -/
theorem OperationInvariant.generation_iff {w : OperationWorld} (h : OperationInvariant w)
    (hfit : w.Countable) {panel : SystemTimePanel} (hpanel : w.panel = some panel)
    {request : SentRequest} (hrequest : request ∈ w.pending) :
    request.generation = panel.generation request.operation ↔
      request.ordinal = w.sent request.operation := by
  obtain ⟨hgeneration, hordinal⟩ := h.numbered request hrequest
  have hsent := hfit request.operation
  rw [hgeneration, h.generation panel hpanel, ← UInt32.toNat_inj, UInt32.toNat_ofNat',
    UInt32.toNat_ofNat', Nat.mod_eq_of_lt (by omega), Nat.mod_eq_of_lt (by omega)]

/-- A reply to the newest request clears its mark and nothing else. -/
theorem systemTimeOperationComplete_newest {request : SystemTimeUiRequest}
    {panel : SystemTimePanel} (h : request.generation = panel.generation request.operation)
    (reply : SystemTimeReply) (reading : SystemReading) :
    (systemTimeOperationComplete request reply reading panel).inFlight =
        Function.update panel.inFlight request.operation false ∧
      (systemTimeOperationComplete request reply reading panel).generation = panel.generation ∧
      (systemTimeOperationComplete request reply reading panel).shown = panel.reads reading ∧
      (systemTimeOperationComplete request reply reading panel).Synced := by
  simp only [systemTimeOperationComplete, h, if_true]
  split
  · exact ⟨rfl, rfl, rfl, (systemTimeSync_synced _ _).setStatus _⟩
  · exact ⟨rfl, rfl, rfl, (systemTimeSync_synced _ _).setStatus _⟩

/-- Once the panel is freed only the numbers of the requests matter. -/
theorem OperationInvariant.of_freed {w : OperationWorld} (hpanel : w.panel = none)
    (hlifetime : w.lifetime = false) (huntouched : w.touched = false)
    (hnumbered : ∀ request ∈ w.pending, request.generation = UInt32.ofNat request.ordinal ∧
      request.ordinal ≤ w.sent request.operation) : OperationInvariant w := by
  have hnone {panel : SystemTimePanel} : w.panel ≠ some panel := by
    rw [hpanel]
    exact (Option.some_ne_none panel).symm
  refine ⟨?_, huntouched, ?_, ?_, ?_, hnumbered, ?_⟩
  · rw [hlifetime, hpanel]
    rfl
  · intro panel h
    exact absurd h hnone
  · intro panel h
    exact absurd h hnone
  · intro panel h
    exact absurd h hnone
  · intro panel h
    exact absurd h hnone

/-- A reply keeps the invariant. -/
theorem OperationInvariant.answer {w : OperationWorld} (h : OperationInvariant w)
    (hfit : w.Countable) {request : SentRequest} (hrequest : request ∈ w.pending)
    (reply : SystemTimeReply) (reading : SystemReading) :
    OperationInvariant (w.answer request reply reading) := by
  have hnumbered : ∀ r ∈ w.pending.erase request, r.generation = UInt32.ofNat r.ordinal ∧
      r.ordinal ≤ w.sent r.operation := fun r hr => h.numbered r (List.mem_of_mem_erase hr)
  simp only [OperationWorld.answer, h.lifetime]
  cases hpanel : w.panel with
  | none =>
    exact .of_freed rfl rfl h.untouched hnumbered
  | some panel =>
    simp only [Option.isSome_some, if_true]
    have hiff := h.generation_iff hfit hpanel hrequest
    by_cases hnewest : request.generation = panel.generation request.operation
    · obtain ⟨hmarks, hgeneration, -, hsynced⟩ :=
        systemTimeOperationComplete_newest hnewest reply reading
      have hleft : ∀ operation, (systemTimeOperationComplete request.toSystemTimeUiRequest reply
          reading panel).inFlight operation = true →
          operation ≠ request.operation ∧ panel.inFlight operation = true := by
        intro operation hflight
        rw [hmarks] at hflight
        by_cases hsame : operation = request.operation
        · rw [hsame, Function.update_self] at hflight
          cases hflight
        · rw [Function.update_of_ne hsame] at hflight
          exact ⟨hsame, hflight⟩
      refine ⟨rfl, h.untouched, ?_, ?_, ?_, hnumbered, ?_⟩
      · rintro _ ⟨⟩ operation operation' hflight hflight'
        exact h.exclusive panel hpanel operation operation' (hleft _ hflight).2 (hleft _ hflight').2
      · rintro _ ⟨⟩ operation
        rw [hgeneration]
        exact h.generation panel hpanel operation
      · rintro _ ⟨⟩ operation hflight
        obtain ⟨hother, hbefore⟩ := hleft operation hflight
        obtain ⟨r, hr, hkind, hordinal⟩ := h.owed panel hpanel operation hbefore
        refine ⟨r, (List.mem_erase_of_ne ?_).mpr hr, hkind, hordinal⟩
        rintro rfl
        exact hother hkind.symm
      · rintro _ ⟨⟩
        exact hsynced
    · have hsame : systemTimeOperationComplete request.toSystemTimeUiRequest reply reading panel =
          panel := if_neg hnewest
      rw [hsame]
      refine ⟨rfl, h.untouched, ?_, ?_, ?_, hnumbered, ?_⟩
      · rintro _ ⟨⟩
        exact h.exclusive panel hpanel
      · rintro _ ⟨⟩
        exact h.generation panel hpanel
      · rintro _ ⟨⟩ operation hflight
        obtain ⟨r, hr, hkind, hordinal⟩ := h.owed panel hpanel operation hflight
        refine ⟨r, (List.mem_erase_of_ne ?_).mpr hr, hkind, hordinal⟩
        rintro rfl
        exact hnewest (hiff.mpr (hkind ▸ hordinal))
      · rintro _ ⟨⟩
        exact h.synced panel hpanel

/-! ## Runs -/

/-- A change of the panel that leaves the marks alone and updates the controls. -/
theorem OperationInvariant.update {w : OperationWorld} (h : OperationInvariant w)
    {panel panel' : SystemTimePanel} (hpanel : w.panel = some panel)
    (hmarks : panel'.inFlight = panel.inFlight) (hgeneration : panel'.generation = panel.generation)
    (hsynced : panel'.Synced) : OperationInvariant { w with panel := some panel' } := by
  refine ⟨?_, h.untouched, ?_, ?_, ?_, h.numbered, ?_⟩
  · rw [h.lifetime, hpanel]
    rfl
  · rintro _ ⟨⟩
    rw [hmarks]
    exact h.exclusive panel hpanel
  · rintro _ ⟨⟩
    rw [hgeneration]
    exact h.generation panel hpanel
  · rintro _ ⟨⟩
    rw [hmarks]
    exact h.owed panel hpanel
  · rintro _ ⟨⟩
    exact hsynced

/-- One action keeps the invariant. -/
theorem OperationInvariant.step {w w' : OperationWorld} {a : OperationAction} (hfit : w.Countable)
    (h : OperationInvariant w) (hstep : operationStep w a = some w') : OperationInvariant w' := by
  cases hkind : a.kind with
  | some kind =>
    obtain ⟨act, hasks, hact⟩ := operationStep_request (w := w) hkind
    exact h.request hasks (hact ▸ hstep)
  | none =>
    cases a with
    | reply request reply reading =>
      simp only [operationStep] at hstep
      split at hstep
      · next hrequest =>
        cases hstep
        exact h.answer hfit hrequest reply reading
      · cases hstep
    | serviceReady reading =>
      obtain ⟨panel, hpanel, rfl⟩ := Option.map_eq_some_iff.mp hstep
      exact h.update hpanel rfl rfl (systemTimeSync_synced _ _)
    | sync reading =>
      obtain ⟨panel, hpanel, rfl⟩ := Option.map_eq_some_iff.mp hstep
      exact h.update hpanel rfl rfl (systemTimeSync_synced _ _)
    | dispose =>
      obtain ⟨panel, hpanel, rfl⟩ := Option.map_eq_some_iff.mp hstep
      exact .of_freed rfl rfl h.untouched h.numbered
    | _ => cases hkind

/-- The states of the runs whose generations fit their counters. -/
abbrev OperationReached : OperationWorld → Prop :=
  Visits operationStep OperationWorld.Starts OperationWorld.Countable

theorem OperationReached.invariant {w : OperationWorld} (h : OperationReached w) :
    OperationInvariant w := by
  refine Visits.invariant ?_ ?_ h
  · rintro w ⟨reading, rfl⟩
    refine ⟨rfl, rfl, ?_, ?_, ?_, nofun, ?_⟩
    · rintro _ ⟨⟩ operation operation' hflight
      cases hflight
    · rintro _ ⟨⟩ operation
      rfl
    · rintro _ ⟨⟩ operation hflight
      cases hflight
    · rintro _ ⟨⟩
      exact systemTimeSync_synced _ _
  · exact fun w a w' hfit hw hstep _ => hw.step hfit hstep

/-- Whatever the user and timedated do, in whatever order. -/
theorem oneOperation {w : OperationWorld} (h : OperationReached w) : OneOperation w := by
  have hinv := OperationReached.invariant h
  constructor
  · exact hinv.exclusive
  · intro panel operation hpanel hflight a kind w' hkind hother hstep
    obtain ⟨act, hasks, hact⟩ := operationStep_request (w := w) hkind
    obtain ⟨before, after, hbefore, ⟨rfl, hunsent⟩ | ⟨rfl, hsent⟩⟩ :=
      request_cases hasks (hact ▸ hstep)
    · rw [hpanel] at hbefore
      cases hbefore
      exact ⟨rfl, after, rfl, hunsent.inFlight, hunsent.generation⟩
    · rw [hpanel] at hbefore
      cases hbefore
      have hbusy := otherInFlight_iff.mpr ⟨operation, hother.symm, hflight⟩
      rw [hsent.free] at hbusy
      cases hbusy
  · intro request reply reading w' hstep hchanged
    simp only [operationStep] at hstep
    split at hstep
    · next hrequest =>
      cases hstep
      simp only [OperationWorld.answer, hinv.lifetime] at hchanged
      cases hpanel : w.panel with
      | none => simp [hpanel] at hchanged
      | some panel =>
        refine (hinv.generation_iff h.holds hpanel hrequest).mp ?_
        by_contra hold
        simp [hpanel, systemTimeOperationComplete, hold] at hchanged
    · cases hstep
  · intro request reply reading w' panel panel' hpanel hordinal hstep hpanel'
    simp only [operationStep] at hstep
    split at hstep
    · next hrequest =>
      cases hstep
      have hnewest := (hinv.generation_iff h.holds hpanel hrequest).mpr hordinal
      obtain ⟨hmarks, -, hshown, -⟩ := systemTimeOperationComplete_newest hnewest reply reading
      simp only [OperationWorld.answer, hinv.lifetime, hpanel, Option.isSome_some, if_true,
        Option.some.injEq] at hpanel'
      subst hpanel'
      exact ⟨by rw [hmarks, Function.update_self], hshown⟩
    · cases hstep
  · exact hinv.synced
  · intro hpending panel hpanel
    have hnone : ∀ operation, panel.inFlight operation = false := by
      intro operation
      by_contra hflight
      obtain ⟨request, hrequest, -⟩ :=
        hinv.owed panel hpanel operation (Bool.not_eq_false _ ▸ hflight)
      rw [hpending] at hrequest
      exact List.not_mem_nil hrequest
    have hactive : panel.active = false := by
      simp only [SystemTimePanel.active, hnone, Bool.or_self]
    refine ⟨hnone, (hinv.synced panel hpanel).usable hactive, fun reading => ?_, ?_⟩
    · exact (systemTimeSync_synced reading panel).usable hactive
    · intro operation
      simp [beginSystemTimeOperation, SystemTimePanel.otherInFlight, hnone]
  · refine ⟨hinv.untouched, fun hpanel request reply reading w' hstep => ?_⟩
    simp only [operationStep] at hstep
    split at hstep
    · cases hstep
      simp [OperationWorld.answer, hinv.lifetime, hpanel]
    · cases hstep

/-! ### One run -/

instance (w : OperationWorld) : Decidable w.Countable :=
  decidable_of_iff
    (w.sent .timezone < 2 ^ 32 ∧ w.sent .ntp < 2 ^ 32 ∧ w.sent .manual < 2 ^ 32)
    ⟨fun h operation => by cases operation; exacts [h.1, h.2.1, h.2.2],
      fun h => ⟨h _, h _, h _⟩⟩

/-- A zone is asked for twice and network time in between; the first reply comes last. -/
def supersededZone : Option OperationWorld :=
  let reading : SystemReading := ⟨some ⟨[85], true, true, false⟩, true⟩
  Visits.run operationStep OperationWorld.Countable
    ⟨some (.new reading), true, [], fun _ => 0, false⟩
    [.serviceReady reading, .timezone [85] reading, .networkTime true reading,
      .timezone [86] reading, .reply ⟨⟨2, .timezone⟩, 2⟩ ⟨true, [], false⟩ reading,
      .reply ⟨⟨1, .timezone⟩, 1⟩ ⟨false, [], false⟩ reading]

theorem oneOperation_superseded : OneOperation (supersededZone.get (by decide)) := by
  let reading : SystemReading := ⟨some ⟨[85], true, true, false⟩, true⟩
  have hstart : OperationReached ⟨some (.new reading), true, [], fun _ => 0, false⟩ :=
    .start ⟨reading, rfl⟩ (by decide)
  exact oneOperation (hstart.of_run _ (Option.some_get _).symm)

end SystemSettings

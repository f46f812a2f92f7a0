import SystemSettings.LocalityState
import SystemSettings.ModelSession
import SystemSettings.Reconciliation

/-!
# The reference coordinate and the system time zone

A panel whose user has chosen no place is to keep the location of the policy at
the reference coordinate of the system time zone. A run of such a panel is its
start and any sequence of its callbacks and of choices other than a place, among
processes that keep off the location. Nothing in it makes a locality file.
-/

namespace SystemSettings

variable {P B : Type} {K : Common} {F : PolicyFormat P} {G : GLib B} {m : ModelId} {p : Pid}
  {s s' : Memory} {panel panel' : Panel} {w w' : World (FileState P) B}

/-! ## Runs of a panel -/

/-- What a panel does after its start when no place is chosen. -/
inductive PanelTask : Type where
  /-- `ss_linux_date_time_panel_reconcile_system_time_change` -/
  | reconcileSystemTimeChange (systemState : SystemTimeState)
  /-- `policy_file_changed` -/
  | policyFileChanged
  /-- `location_metadata_file_changed` -/
  | locationMetadataFileChanged
  /-- `retry_locality_recovery` -/
  | retryLocalityRecovery
  /-- `ss_linux_date_time_panel_system_time_operation_applied` -/
  | systemTimeOperationApplied
  /-- `on_cinnamon_interface_changed` -/
  | interfaceChanged (updatingControls : Bool) (key : String)
  /-- a choice of clock -/
  | setClockMode (clockMode : String)
  /-- a choice of calendar -/
  | setCalendar (calendarId : String)
  /-- a choice of seconds -/
  | setShowSeconds (showSeconds : Bool)

variable (K G m) in
/-- Run a task of a panel. -/
def PanelTask.run (panel : Panel) : PanelTask → SysM B Panel
  | reconcileSystemTimeChange systemState =>
    SystemSettings.reconcileSystemTimeChange K G m systemState panel
  | policyFileChanged => SystemSettings.policyFileChanged K G m panel
  | locationMetadataFileChanged => SystemSettings.locationMetadataFileChanged G m panel
  | retryLocalityRecovery => SystemSettings.retryLocalityRecovery G m panel
  | systemTimeOperationApplied => SystemSettings.systemTimeOperationApplied panel
  | interfaceChanged updatingControls key => do
    onCinnamonInterfaceChanged K m updatingControls key
    pure panel
  | setClockMode clockMode => do
    let _ ← modelSetClockMode K m clockMode
    pure panel
  | setCalendar calendarId => do
    let _ ← modelSetCalendar K m calendarId
    pure panel
  | setShowSeconds showSeconds => do
    let _ ← modelSetShowSeconds m showSeconds
    pure panel

/-- There are no locality files. -/
def World.NoMetadata (w : World (FileState P) B) : Prop :=
  w.locationIni = .absent ∧ w.locationPending = .absent

variable (K F G m p) in
/-- The states of a panel that was started in the world `w₀`, between two
callbacks. -/
inductive PanelRun (w₀ : World (FileState P) B) :
    Panel → Memory → World (FileState P) B → Prop where
  /-- the panel starts -/
  | start {s₀ s : Memory} {panel : Panel} {w : World (FileState P) B}
      {tr : List (Event (Sys B) (World (FileState P) B))} : s₀.models m = none →
      (panelNew K G m s₀).Exec (localityMachine K F B p) w₀ tr (some panel) s w →
      PanelRun w₀ panel s w
  /-- something happens elsewhere -/
  | elsewhere {panel : Panel} {s : Memory} {w w' : World (FileState P) B} :
      PanelRun w₀ panel s w → w.SparesLocality K F w' → PanelRun w₀ panel s w'
  /-- the panel does something -/
  | task {panel panel' : Panel} {s s' : Memory} {w w' : World (FileState P) B}
      {tr : List (Event (Sys B) (World (FileState P) B))} (task : PanelTask) :
      PanelRun w₀ panel s w →
      (task.run K G m panel s).Exec (localityMachine K F B p) w tr panel' s' w' →
      PanelRun w₀ panel' s' w'

/-! ## Nothing is remembered -/

/-- A call that makes no locality file. -/
def Call.MakesNoFile : Call B → Prop
  | .writeFile _ _ => False
  | _ => True

/-- An answer that shows no locality file. -/
def Call.FindsNoFile : (c : Call B) → c.Answer → Prop
  | .readFile _, .contents _ => False
  | _, _ => True

/-- Without locality files the program makes none, and ends in `Q`. -/
abbrev Unlocated {α : Type} (Q : α → Memory → Prop) (prog : Prog (Sys B) Memory α) : Prop :=
  prog.Under Call.MakesNoFile Call.FindsNoFile Q

theorem World.NoMetadata.step {e : Event (Sys B) (World (FileState P) B)} (h : w.NoMetadata)
    (hstep : World.Step (platformStorage K F) p (World.SparesLocality K F) w e)
    (hc : e.cmd.MakesNoFile) : e.cmd.FindsNoFile e.resp ∧ e.world.NoMetadata := by
  obtain ⟨w₁, ok, hR, hr, hw⟩ := hstep
  have h₁ : w₁.NoMetadata := ⟨hR.ini.trans h.1, hR.pending.trans h.2⟩
  obtain ⟨c, r, w₂⟩ := e
  simp only at hc hr hw ⊢
  subst hr hw
  cases c with
  | writeFile f data => exact hc.elim
  | readFile f =>
    refine ⟨?_, h₁⟩
    cases ok with
    | false => exact trivial
    | true => cases f <;> simp [World.respond, World.file, h₁.1, h₁.2, Call.FindsNoFile]
  | save policy =>
    refine ⟨trivial, ?_⟩
    simp only [World.respond]
    split <;> exact h₁
  | unlinkFile f =>
    refine ⟨trivial, ?_⟩
    cases ok with
    | false => exact h₁
    | true =>
      cases f with
      | locationIni => exact ⟨rfl, h₁.2⟩
      | locationPending => exact ⟨h₁.1, rfl⟩
  | clear | beginUpdate | endUpdate | transactionBegin | transactionEnd =>
    refine ⟨trivial, ?_⟩
    simp only [World.respond]
    split <;> exact h₁
  | _ => exact ⟨trivial, h₁⟩

/-- The operations that a panel runs by themselves leave its model at rest. -/
theorem ModelOp.run_unlocated (op : ModelOp) (hm : PanelModel m s)
    (hop : op = .reload ∨ (∃ clockMode, op = .normalize clockMode) ∨ op.change K ≠ none) :
    Unlocated (B := B) (fun _ s' => PanelModel m s') (op.run K m s) := by
  have hl : ∀ priv, s.models m = some priv → priv.store.Locking := fun priv h =>
    (hm priv h).1 ▸ platformTemporalPolicyStore_locking
  refine Prog.under_of_yields fun tr ok s' hy => ?_
  cases ModelOp.run_outcome hl hy with
  | refused => exact ⟨by simp, hm⟩
  | reloadFailed | lockRefused | loadFailed | saveFailed =>
    exact ⟨by simp [Call.MakesNoFile], hm⟩
  | reloaded priv x w hpriv hs | normalized priv clockMode info hpriv hs =>
    exact ⟨by simp [Call.MakesNoFile], panelModel_setModel (hm priv hpriv).1 hs⟩
  | saved priv op edit x w₁ w₂ w₃ w₄ hpriv hs =>
    exact ⟨by simp [Call.MakesNoFile], panelModel_setModel (hm priv hpriv).1 hs⟩
  | beginFailed | begun | finished | rolledBack | rollbackFailed => simp [ModelOp.change] at hop

/-- A setter with a refused argument does nothing. -/
theorem ModelOp.run_setter_unlocated (op : ModelOp) (hm : PanelModel m s)
    (hop : op.change K = none → (op.run K m : SysM B Bool) = pure false) :
    Unlocated (B := B) (fun _ s' => PanelModel m s') (op.run K m s) := by
  cases hc : op.change K with
  | some edit => exact ModelOp.run_unlocated op hm (.inr (.inr (by simp [hc])))
  | none =>
    rw [hop hc]
    exact hm

theorem modelSetClockMode_unlocated {clockMode : String} (hm : PanelModel m s) :
    Unlocated (B := B) (fun _ s' => PanelModel m s') (modelSetClockMode K m clockMode s) := by
  refine ModelOp.run_setter_unlocated (.setClockMode clockMode) hm fun hc => ?_
  have hmode : validClockMode K clockMode = none := by simpa [ModelOp.change] using hc
  simp [ModelOp.run, modelSetClockMode, hmode]

theorem modelSetCalendar_unlocated {calendarId : String} (hm : PanelModel m s) :
    Unlocated (B := B) (fun _ s' => PanelModel m s') (modelSetCalendar K m calendarId s) := by
  refine ModelOp.run_setter_unlocated (.setCalendar calendarId) hm fun hc => ?_
  have hcalendar : validCalendar K calendarId = false := by simpa [ModelOp.change] using hc
  simp [ModelOp.run, modelSetCalendar, hcalendar]

theorem modelSetShowSeconds_unlocated {showSeconds : Bool} (hm : PanelModel m s) :
    Unlocated (B := B) (fun _ s' => PanelModel m s') (modelSetShowSeconds m showSeconds s) :=
  ModelOp.run_unlocated (K := Common.small) (.setShowSeconds showSeconds) hm
    (.inr (.inr (by simp [ModelOp.change])))

theorem modelSetLocation_unlocated {configured : Bool} {latitude longitude : Double}
    (hm : PanelModel m s) : Unlocated (B := B) (fun _ s' => PanelModel m s')
      (modelSetLocation m configured latitude longitude s) := by
  refine ModelOp.run_setter_unlocated (K := Common.small)
    (.setLocation configured latitude longitude) hm fun hc => ?_
  have hlocation : validLocation latitude longitude = false := by
    simpa [ModelOp.change] using hc
  simp [ModelOp.run, modelSetLocation, hlocation]

theorem modelReload_unlocated (hm : PanelModel m s) :
    Unlocated (B := B) (fun _ s' => PanelModel m s') (modelReload K m s) :=
  ModelOp.run_unlocated .reload hm (.inl rfl)

/-! ### Locality metadata -/

/-- A read that shows no file leaves a cleared record. -/
theorem metadataLoad_findsNoFile {f : LocalityFile} {file : FileState B}
    (h : (Call.readFile f).FindsNoFile file) :
    metadataLoad G file = (.missing, .zero) ∨ metadataLoad G file = (.ioError, .zero) := by
  cases file with
  | absent => exact .inl rfl
  | unreadable => exact .inr rfl
  | contents data => exact h.elim

theorem locationMetadataLoadStatus_unlocated : Unlocated (B := B)
    (fun loaded s' => s' = s ∧ loaded.1 ≠ .ok) (locationMetadataLoadStatus G s) := by
  refine ⟨trivial, fun file hfile => ⟨rfl, ?_⟩⟩
  rcases metadataLoad_findsNoFile (G := G) hfile with h | h <;> simp [h]

theorem locationMetadataRecoverLocked_unlocated :
    Unlocated (B := B) (fun _ s' => s' = s) (locationMetadataRecoverLocked G s) := by
  refine ⟨trivial, fun loaded _ => ?_⟩
  cases loaded with
  | none => rfl
  | some x =>
    refine ⟨trivial, fun file hfile => ?_⟩
    rcases metadataLoad_findsNoFile (G := G) hfile with h | h
    · simp only [Prog.ret_bind, Action.pure_run, h]
      split
      · rfl
      · exact ⟨trivial, fun _ _ => rfl⟩
    · simp only [Prog.ret_bind, Action.pure_run, h]
      rfl

/-- Recovery finds no journal, and at most removes what is not there. -/
theorem locationMetadataRecover_unlocated :
    Unlocated (B := B) (fun _ s' => s' = s) (locationMetadataRecover G s) := by
  refine ⟨trivial, fun begun _ => ?_⟩
  cases begun with
  | false => rfl
  | true =>
    refine locationMetadataRecoverLocked_unlocated.bind ?_
    rintro recovered _ rfl
    exact ⟨trivial, fun _ _ => rfl⟩

/-! ### The tasks -/

/-- The panel remembers no metadata, and its model is at rest. -/
def Panel.Unlocated (m : ModelId) (panel : Panel) (s : Memory) : Prop :=
  panel.metadataPresent = false ∧ PanelModel m s

theorem Panel.Unlocated.remember {loaded : LoadStatus × LocationMetadata}
    (h : panel.Unlocated m s) (hloaded : loaded.1 ≠ .ok) :
    (panel.remember loaded).Unlocated m s := by
  obtain ⟨status, metadata⟩ := loaded
  cases status with
  | ok => exact absurd rfl hloaded
  | missing => exact ⟨rfl, h.2⟩
  | invalid | ioError => exact h

theorem locationMetadataFileChanged_unlocated (h : panel.Unlocated m s) :
    Unlocated (B := B) (fun panel' s' => panel'.Unlocated m s')
      (locationMetadataFileChanged G m panel s) := by
  refine locationMetadataLoadStatus_unlocated.bind ?_
  rintro loaded _ ⟨rfl, hloaded⟩
  exact ⟨(h.remember hloaded).1, h.2⟩

theorem retryLocalityRecovery_unlocated (h : panel.Unlocated m s) :
    Unlocated (B := B) (fun panel' s' => panel'.Unlocated m s')
      (retryLocalityRecovery G m panel s) := by
  refine locationMetadataRecover_unlocated.bind ?_
  rintro recovered _ rfl
  cases recovered with
  | true =>
    have h : Panel.Unlocated m { panel with recoveryFailed := false } _ := h
    exact locationMetadataFileChanged_unlocated h
  | false => exact h

theorem policyFileChanged_unlocated (h : panel.Unlocated m s) :
    Unlocated (B := B) (fun panel' s' => panel'.Unlocated m s')
      (policyFileChanged K G m panel s) := by
  simp only [policyFileChanged, modelPolicy_run, Action.bind_run, Prog.ret_bind]
  cases (s.models m).map ModelPrivate.policy with
  | none => exact h
  | some policy =>
    refine (modelReload_unlocated h.2).bind fun reloaded s₁ h₁ => ?_
    cases reloaded with
    | false => exact ⟨h.1, h₁⟩
    | true =>
      refine locationMetadataRecover_unlocated.bind ?_
      rintro recovered _ rfl
      cases recovered with
      | false => exact ⟨h.1, h₁⟩
      | true =>
        refine locationMetadataLoadStatus_unlocated.bind ?_
        rintro loaded _ ⟨rfl, hloaded⟩
        exact ⟨(Panel.Unlocated.remember ⟨h.1, h₁⟩ hloaded).1, h₁⟩

theorem onCinnamonInterfaceChanged_unlocated {updatingControls : Bool} {key : String}
    (hm : PanelModel m s) : Unlocated (B := B) (fun _ s' => PanelModel m s')
      (onCinnamonInterfaceChanged K m updatingControls key s) := by
  cases hpriv : s.models m with
  | none =>
    simp only [onCinnamonInterfaceChanged, Action.ite_run, Action.bind_run, modelIsSaving_run,
      modelPolicy_run, hpriv, Prog.ret_bind, Option.any_none, Option.map_none, Action.pure_run]
    split <;> exact hm
  | some priv =>
    simp only [onCinnamonInterfaceChanged, Action.ite_run, Action.bind_run, modelIsSaving_run,
      modelPolicy_run, hpriv, Prog.ret_bind, Option.map_some, Action.pure_run]
    split
    · exact hm
    split
    · exact hm
    split
    · split
      · refine ⟨trivial, fun native _ => ?_⟩
        cases native with
        | none => exact hm
        | some nativeValue =>
          simp only [Prog.ret_bind, Action.when_run]
          split
          · exact (modelSetClockMode_unlocated hm).bind fun _ _ h => h
          · exact hm
      · exact hm
    · split
      · refine ⟨trivial, fun native _ => ?_⟩
        cases native with
        | none => exact hm
        | some nativeValue =>
          simp only [Prog.ret_bind, Action.when_run]
          split
          · exact (modelSetShowSeconds_unlocated hm).bind fun _ _ h => h
          · exact hm
      · exact hm

theorem migrateLegacyNativeClock_unlocated (hm : PanelModel m s) :
    Unlocated (B := B) (fun _ s' => PanelModel m s') (migrateLegacyNativeClock K m s) := by
  cases hpriv : s.models m with
  | none =>
    simp only [migrateLegacyNativeClock, Action.bind_run, modelPolicy_run, hpriv, Prog.ret_bind,
      Option.map_none, Action.pure_run]
    exact hm
  | some priv =>
    simp only [migrateLegacyNativeClock, Action.bind_run, modelPolicy_run, hpriv, Prog.ret_bind,
      Option.map_some, Action.ite_run, Action.pure_run]
    split
    · exact hm
    · refine ⟨trivial, fun native _ => ?_⟩
      simp only [Prog.ret_bind, Action.pure_run, Action.bind_run, modelHasPersistedPolicy_run,
        Action.ite_run]
      split
      · exact ModelOp.run_unlocated (.normalize _) hm (.inr (.inl ⟨_, rfl⟩))
      · exact modelSetClockMode_unlocated hm

theorem modelInit_unlocated (hnone : s.models m = none) :
    Unlocated (B := B) (fun ok s' => if ok then PanelModel m s' else s' = s)
      (modelInit K m platformTemporalPolicyStore s) := by
  refine Prog.under_of_yields fun tr ok s' hy => ?_
  rcases modelInit_yields hnone rfl rfl hy with
    ⟨rfl, rfl, rfl | ⟨r, w, rfl⟩ | ⟨w₁, w₂, rfl⟩⟩ | ⟨rfl, -, x, w₁, w₂, rfl, rfl⟩
  · exact ⟨by simp, rfl⟩
  · exact ⟨by simp [Call.MakesNoFile], rfl⟩
  · exact ⟨by simp [Call.MakesNoFile], rfl⟩
  · exact ⟨by simp [Call.MakesNoFile], panelModel_setModel rfl rfl⟩

/-- A start that gives up. -/
theorem modelClear_unlocated {Q : Option Panel → Memory → Prop} (hm : PanelModel m s)
    (hQ : ∀ s', Q none s') :
    Unlocated (B := B) Q ((do modelClear m; pure none : SysM B (Option Panel)) s) := by
  have hl : ∀ priv, s.models m = some priv → priv.store.Locking := fun priv h =>
    (hm priv h).1 ▸ platformTemporalPolicyStore_locking
  have hclear : Unlocated (B := B) (fun _ _ => True) (modelClear m s) := by
    refine Prog.under_of_yields fun tr u s' hy => ?_
    obtain ⟨-, ⟨-, rfl⟩ | ⟨-, w, rfl⟩⟩ := modelClear_yields hl hy
    · exact ⟨by simp, trivial⟩
    · exact ⟨by simp [Call.MakesNoFile], trivial⟩
  exact hclear.bind fun _ s' _ => hQ s'

theorem panelNew_unlocated (hnone : s.models m = none) :
    Unlocated (B := B) (fun started s' => ∀ panel, started = some panel → panel.Unlocated m s')
      (panelNew K G m s) := by
  refine (modelInit_unlocated hnone).bind fun ok s₁ h => ?_
  cases ok with
  | false => exact fun panel h => by cases h
  | true =>
    have hm : PanelModel m s₁ := h
    refine ⟨trivial, fun regional _ => ?_⟩
    simp only [Prog.ret_bind, Action.bind_run, modelPolicy_run]
    cases (s₁.models m).map ModelPrivate.policy with
    | none => exact modelClear_unlocated hm fun _ _ h => by cases h
    | some policy =>
      refine locationMetadataRecover_unlocated.bind ?_
      rintro recovered _ rfl
      refine locationMetadataLoadStatus_unlocated.bind ?_
      rintro loaded _ ⟨rfl, hloaded⟩
      refine ⟨trivial, fun observer _ => ?_⟩
      cases observer with
      | false => exact modelClear_unlocated hm fun _ _ h => by cases h
      | true =>
        refine ⟨trivial, fun observer _ => ?_⟩
        cases observer with
        | false => exact modelClear_unlocated hm fun _ _ h => by cases h
        | true =>
          refine (migrateLegacyNativeClock_unlocated hm).bind fun _ s₂ h₂ => ?_
          rintro panel h
          cases h
          exact ⟨by simp [refreshLocationAuthorityState, hloaded], h₂⟩

/-- Without metadata nothing is rewritten. -/
theorem reconcileMetadata_unlocated {policy : Option TemporalPolicyV3}
    {locked : Option SystemTimeState} (h : panel.metadataPresent = false) :
    reconcileMetadata G policy locked panel s = .ret panel s := by
  have hmatches : locationMetadataMatchesPolicy panel policy = false := by
    cases policy <;> simp [locationMetadataMatchesPolicy, h]
  cases locked <;> simp [reconcileMetadata, hmatches]

theorem reconcileReference_unlocated {policy : Option TemporalPolicyV3} {matchesSystem : Bool}
    (hm : PanelModel m s) : Unlocated (B := B) (fun _ s' => PanelModel m s')
      (reconcileReference m policy matchesSystem panel s) := by
  simp only [reconcileReference, Action.when_run, Action.bind_run]
  split
  · split
    · exact (modelSetLocation_unlocated hm).bind fun _ _ h => h
    · exact hm
  · exact hm

theorem reconcileLocked_unlocated (h : panel.Unlocated m s) :
    Unlocated (B := B) (fun panel' s' => panel'.Unlocated m s')
      (reconcileLocked K G m panel s) := by
  refine ⟨trivial, fun system _ => ⟨trivial, fun regional _ => ?_⟩⟩
  refine (modelReload_unlocated h.2).bind fun reloaded s₁ h₁ => ?_
  refine locationMetadataLoadStatus_unlocated.bind ?_
  rintro loaded _ ⟨rfl, hloaded⟩
  have remembered : (Panel.remember { panel with regionalContext := regional.getD .zero }
      loaded).Unlocated m _ := Panel.Unlocated.remember ⟨h.1, h₁⟩ hloaded
  cases reloaded with
  | false => exact remembered
  | true =>
    simp only [if_true, Action.bind_run, modelPolicy_run, Prog.ret_bind]
    rw [reconcileMetadata_unlocated (by exact remembered.1)]
    refine (reconcileReference_unlocated h₁).bind fun _ s₂ h₂ => ?_
    exact ⟨remembered.1, h₂⟩

theorem reconcileSystemTimeChange_unlocated {systemState : SystemTimeState}
    (h : panel.Unlocated m s) : Unlocated (B := B) (fun panel' s' => panel'.Unlocated m s')
      (reconcileSystemTimeChange K G m systemState panel s) := by
  simp only [reconcileSystemTimeChange, Action.ite_run]
  split
  · exact h
  · refine ⟨trivial, fun regional _ => ?_⟩
    simp only [Prog.ret_bind, Action.ite_run]
    split
    · refine ⟨trivial, fun begun _ => ?_⟩
      cases begun with
      | false => exact h
      | true =>
        have h : Panel.Unlocated m { panel with regionalContext := regional.getD .zero } s := h
        refine (reconcileLocked_unlocated h).bind fun panel' s' h' => ?_
        exact ⟨trivial, fun _ _ => h'⟩
    · exact h

theorem PanelTask.run_unlocated (task : PanelTask) (h : panel.Unlocated m s) :
    Unlocated (B := B) (fun panel' s' => panel'.Unlocated m s') (task.run K G m panel s) := by
  cases task with
  | reconcileSystemTimeChange systemState => exact reconcileSystemTimeChange_unlocated h
  | policyFileChanged => exact policyFileChanged_unlocated h
  | locationMetadataFileChanged => exact locationMetadataFileChanged_unlocated h
  | retryLocalityRecovery => exact retryLocalityRecovery_unlocated h
  | systemTimeOperationApplied => exact ⟨trivial, fun _ _ => h⟩
  | interfaceChanged updatingControls key =>
    exact (onCinnamonInterfaceChanged_unlocated h.2).bind fun _ _ hm => ⟨h.1, hm⟩
  | setClockMode clockMode =>
    exact (modelSetClockMode_unlocated h.2).bind fun _ _ hm => ⟨h.1, hm⟩
  | setCalendar calendarId =>
    exact (modelSetCalendar_unlocated h.2).bind fun _ _ hm => ⟨h.1, hm⟩
  | setShowSeconds showSeconds =>
    exact (modelSetShowSeconds_unlocated h.2).bind fun _ _ hm => ⟨h.1, hm⟩

/-- In every state of a run there is no metadata, on disk or in memory. -/
theorem PanelRun.unlocated {w₀ : World (FileState P) B} (h₀ : w₀.NoMetadata)
    (h : PanelRun K F G m p w₀ panel s w) : panel.Unlocated m s ∧ w.NoMetadata := by
  induction h with
  | start hnone hx =>
    obtain ⟨-, hpanel, hw⟩ := (panelNew_unlocated hnone).exec
      (fun w e hw hstep hc => hw.step hstep hc) h₀ hx
    exact ⟨hpanel _ rfl, hw⟩
  | elsewhere _ hR ih => exact ⟨ih.1, hR.ini.trans ih.2.1, hR.pending.trans ih.2.2⟩
  | task task _ hx ih =>
    exact ((task.run_unlocated ih.1).exec (fun w e hw hstep hc => hw.step hstep hc) ih.2 hx).2

/-! ## Reconciliations without a fault -/

/-- A call that the reconciliation depends on was answered. -/
def Call.Succeeded : (c : Call B) → c.Answer → Prop
  | .load, loaded => loaded.isSome = true
  | .save _, saved => saved = true
  | .beginUpdate, locked => locked = true
  | .transactionBegin, locked => locked = true
  | .readSystemTime, system => system.isSome = true
  | .detectRegional, regional => regional.isSome = true
  | _, _ => True

/-- If this is what the system service reports, it is this zone. -/
def Call.ReportsZone (zone : Text) : (c : Call B) → c.Answer → Prop
  | .readSystemTime, some locked => locked.timezone ≠ [] ∧ zone = locked.timezone
  | _, _ => True

instance : (c : Call B) → (r : c.Answer) → Decidable (c.Succeeded r)
  | .load, loaded => inferInstanceAs (Decidable (loaded.isSome = true))
  | .save _, saved => inferInstanceAs (Decidable (saved = true))
  | .beginUpdate, locked => inferInstanceAs (Decidable (locked = true))
  | .transactionBegin, locked => inferInstanceAs (Decidable (locked = true))
  | .readSystemTime, system => inferInstanceAs (Decidable (system.isSome = true))
  | .detectRegional, regional => inferInstanceAs (Decidable (regional.isSome = true))
  | .clear, _ | .endUpdate, _ | .compatibilityMatches _, _ | .calloc, _ | .transactionEnd, _
  | .readFile _, _ | .writeFile _ _, _ | .unlinkFile _, _ | .clockUse24h, _
  | .clockShowSeconds, _ => .isTrue trivial

instance (zone : Text) : (c : Call B) → (r : c.Answer) → Decidable (c.ReportsZone zone r)
  | .readSystemTime, some _ => inferInstanceAs (Decidable (_ ∧ _))
  | .readSystemTime, none => .isTrue trivial
  | .load, _ | .save _, _ | .beginUpdate, _ | .transactionBegin, _ | .detectRegional, _
  | .clear, _ | .endUpdate, _ | .compatibilityMatches _, _ | .calloc, _ | .transactionEnd, _
  | .readFile _, _ | .writeFile _ _, _ | .unlinkFile _, _ | .clockUse24h, _
  | .clockShowSeconds, _ => .isTrue trivial

/-- The panel knows the zone that every read of the system reported. -/
def SameZone (tr : List (Event (Sys B) (World (FileState P) B))) (panel' : Panel) : Prop :=
  ∀ e ∈ tr, e.cmd.ReportsZone panel'.regionalContext.timezoneId e.resp

/-- The zone that the panel knows has a reference coordinate. -/
def Panel.HasReference (panel : Panel) : Prop :=
  panel.regionalContext.hasReferenceCoordinates = true ∧
    validLocation panel.regionalContext.referenceLatitude
      panel.regionalContext.referenceLongitude = true

/-- A reconciliation in which the locality lock, the reload of the policy, its
save and the system and regional reads succeed, both reads name one zone, and
the zone has a reference coordinate. -/
structure Faultless (tr : List (Event (Sys B) (World (FileState P) B))) (panel' : Panel) :
    Prop where
  /-- no call failed -/
  succeeded : ∀ e ∈ tr, e.cmd.Succeeded e.resp
  /-- the policy was loaded -/
  reloaded : ∃ e ∈ tr, e.cmd = .load
  /-- the system's zone is that of the regional context under the lock -/
  zone : SameZone tr panel'
  /-- the zone has a reference coordinate -/
  reference : panel'.HasReference

/-- The reference coordinate of the zone that the panel knows. -/
def Panel.reference (panel : Panel) : Coordinates :=
  (panel.regionalContext.referenceLatitude, panel.regionalContext.referenceLongitude)

variable (K F) in
/-- The policy is configured for this coordinate, to its precision. -/
def World.LocatedAt (w : World (FileState P) B) (c : Coordinates) : Prop :=
  ∃ location, policyLocation K F w.document = some (some location) ∧ location.Close c

/-- Process `p` when no call that matters fails and there are no locality files. -/
abbrev faultlessMachine (K : Common) (F : PolicyFormat P) (B : Type) (p : Pid) :
    Machine (Sys B) Memory (World (FileState P) B) :=
  Prog.quiet fun w e => World.Step (platformStorage K F) p (World.SparesLocality K F) w e ∧
    e.cmd.Succeeded e.resp ∧ e.cmd.FindsNoFile e.resp

section Rules

variable {α : Type} {l : Option (Option Coordinates)}
  {Q : List (Event (Sys B) (World (FileState P) B)) → α → Memory → World (FileState P) B → Prop}

/-- A call that writes nothing leaves the location. -/
theorem faultless_call {c : Call B} {k : c.Answer → Memory → Prog (Sys B) Memory α}
    (hc : ¬ c.IsWrite) (hw : policyLocation K F w.document = l)
    (h : ∀ r w', c.Succeeded r → c.FindsNoFile r → policyLocation K F w'.document = l →
      (k r s).wp (faultlessMachine K F B p) (fun tr => Q (⟨c, r, w'⟩ :: tr)) w') :
    (Prog.call (S := Sys B) c s k).wp (faultlessMachine K F B p) Q w := by
  rintro r s₁ w' ⟨rfl, ⟨w₁, ok, hR, hr, hw'⟩, hsucceeded, hfile⟩
  refine h r w' hsucceeded hfile ?_
  simp only at hw'
  rw [hw', (World.respond_of_not_write hc _ p ok w₁).1]
  exact hR.location.trans hw

/-- The policy that is loaded has the location. -/
theorem faultless_load {k : Option (TemporalPolicyV3 × Bool) → Memory → Prog (Sys B) Memory α}
    (hw : policyLocation K F w.document = l)
    (h : ∀ x w', l = some x.1.location → policyLocation K F w'.document = l →
      (k (some x) s).wp (faultlessMachine K F B p) (fun tr => Q (⟨.load, some x, w'⟩ :: tr)) w') :
    (Prog.call (S := Sys B) .load s k).wp (faultlessMachine K F B p) Q w := by
  rintro r s₁ w' ⟨rfl, ⟨w₁, ok, hR, hr, hw'⟩, hsucceeded, -⟩
  simp only [World.respond] at hr hw'
  subst hw'
  obtain ⟨x, rfl⟩ := Option.isSome_iff_exists.mp hsucceeded
  cases ok with
  | false => cases hr
  | true =>
    have hl := hR.location.trans hw
    exact h x w' (hl.symm.trans (policyLocation_of_load hr.symm)) hl

variable {round : Double → Double}

/-- What is saved is the location afterwards. -/
theorem faultless_save (hF : F.SixDecimals round) {policy : TemporalPolicyV3}
    {k : Bool → Memory → Prog (Sys B) Memory α}
    (h : ∀ w', policyLocation K F w'.document =
        some (policy.location.map (Coordinates.rounded round)) →
      (k true s).wp (faultlessMachine K F B p) (fun tr => Q (⟨.save policy, true, w'⟩ :: tr)) w') :
    (Prog.call (S := Sys B) (.save policy) s k).wp (faultlessMachine K F B p) Q w := by
  rintro r s₁ w' ⟨rfl, ⟨w₁, ok, -, hr, hw'⟩, hsucceeded, -⟩
  have hsucceeded : r = true := hsucceeded
  subst hsucceeded
  cases hsave : if ok then (platformStorage K F).save policy else none with
  | none => simp [World.respond, hsave] at hr
  | some document =>
    cases ok with
    | false => cases hsave
    | true =>
      simp only [if_true] at hsave
      obtain ⟨data, hdata, rfl⟩ := Option.map_eq_some_iff.mp hsave
      refine h w' ?_
      simp only [World.respond, if_true, hsave] at hw'
      rw [hw']
      exact policyLocation_save hF hdata

/-- The reference coordinate, once published, is the location. -/
theorem modelSetLocation_faultless (hF : F.SixDecimals round) {priv : ModelPrivate}
    (hm : PanelModel m s) (hpriv : s.models m = some priv) {c : Coordinates}
    (hc : validLocation c.1 c.2 = true) (w : World (FileState P) B) :
    (modelSetLocation (B := B) m true c.1 c.2 s).wp (faultlessMachine K F B p)
      (fun _ _ _ w' => policyLocation K F w'.document = some (some (c.rounded round))) w := by
  obtain ⟨hst, hs⟩ := hm priv hpriv
  simp only [modelSetLocation, hc, if_true, setField, beginCandidate, Action.bind_run,
    readModel_run, hpriv, Prog.ret_bind, hst, hs, platformTemporalPolicyStore, Bool.not_true,
    Bool.or_self, Bool.false_eq_true, if_false, modifyModel_run, storeBeginUpdate_run,
    Prog.call_bind, Option.map_some]
  refine faultless_call id rfl fun locked w₁ hlocked _ _ => ?_
  have hlocked : locked = true := hlocked
  subst hlocked
  refine faultless_load rfl fun x w₂ _ _ => ?_
  simp only [Prog.ret_bind, Action.pure_run, saveCandidate, Action.bind_run, readModel_run,
    Memory.setModel_self, Bool.not_true, Bool.or_self, Bool.false_eq_true, if_false,
    storeSave_run, Prog.call_bind]
  refine faultless_save hF fun w₃ h₃ => ?_
  simp only [Prog.ret_bind, releaseUpdateLock, Action.bind_run, readModel_run,
    Memory.setModel_self, Action.when_run, Bool.and_self, if_true, storeEndUpdate_run,
    Prog.call_bind]
  exact faultless_call id h₃ fun _ w₄ _ _ h₄ => h₄

/-- The policy is at the reference coordinate. -/
theorem locationPolicyMatchesReference_iff {policy : TemporalPolicyV3} :
    locationPolicyMatchesReference panel (some policy) = true ↔
      panel.regionalContext.hasReferenceCoordinates = true ∧
        ∃ c, policy.location = some c ∧ c.Close panel.reference := by
  cases hconf : policy.locationConfigured <;>
    simp [locationPolicyMatchesReference, TemporalPolicyV3.location, hconf, Coordinates.Close,
      locationCoordinateClose, Panel.reference, and_assoc]

/-- The condition for the publication to leave the policy at the reference. -/
def Panel.Follows (panel : Panel) (location : Option Coordinates) : Prop :=
  (∃ c, location = some c ∧ c.Close panel.reference) ∨
    (location = none ∧ panel.metadataUncertain = false)

theorem locatedAt_iff {location : Option Coordinates} {c : Coordinates}
    (hw : policyLocation K F w.document = some location) :
    w.LocatedAt K F c ↔ ∃ c', location = some c' ∧ c'.Close c := by
  simp [World.LocatedAt, hw]

theorem reconcileReference_faultless (hF : F.SixDecimals round) {priv : ModelPrivate}
    (hm : PanelModel m s) (hpriv : s.models m = some priv) (hpanel : panel.metadataPresent = false)
    (href : panel.regionalContext.hasReferenceCoordinates = true)
    (hvalid : validLocation panel.regionalContext.referenceLatitude
      panel.regionalContext.referenceLongitude = true)
    {policy : TemporalPolicyV3} (hw : policyLocation K F w.document = some policy.location) :
    (reconcileReference (B := B) m (some policy) true
        (refreshLocationAuthorityState (some policy) panel) s).wp (faultlessMachine K F B p)
      (fun _ _ _ w' => w'.LocatedAt K F panel.reference ↔ panel.Follows policy.location) w := by
  have hmetadata : locationMetadataMatchesPolicy panel (some policy) = false := by
    simp [locationMetadataMatchesPolicy, hpanel]
  -- without a publication the location stays
  have stays : (panel.Follows policy.location → ∃ c, policy.location = some c ∧
        c.Close panel.reference) →
      (w.LocatedAt K F panel.reference ↔ panel.Follows policy.location) :=
    fun h => (locatedAt_iff hw).trans ⟨.inl, h⟩
  have hreference : (refreshLocationAuthorityState (some policy) panel).regionalContext =
      panel.regionalContext := rfl
  simp only [reconcileReference, hreference, href, Bool.and_true,
    locationPolicyMatchesReference_refresh, Action.when_run, Action.bind_run]
  split
  · next hfollows =>
    obtain ⟨huncertain, -, hlocation⟩ := refresh_follows_iff.mp hfollows
    split
    · next hother =>
      have hother : locationPolicyMatchesReference panel (some policy) = false := by
        simpa using hother
      have hnone : policy.location = none :=
        TemporalPolicyV3.location_eq_none.mpr (hlocation.resolve_right (by simp [hother]))
      refine Prog.wp_bind (Prog.wp_mono ?_ (modelSetLocation_faultless hF hm hpriv
        (c := panel.reference) hvalid w))
      intro tr ok s' w' hw'
      refine (locatedAt_iff hw').trans ⟨fun _ => .inr ⟨hnone, huncertain⟩, fun _ => ?_⟩
      exact ⟨_, rfl, Coordinates.rounded_close hF hvalid⟩
    · next hother =>
      have hmatches : locationPolicyMatchesReference panel (some policy) = true := by
        simpa using hother
      exact stays fun _ => (locationPolicyMatchesReference_iff.mp hmatches).2
  · next hfollows =>
    refine stays fun h => h.resolve_right fun hunlocated => hfollows ?_
    obtain ⟨hnone, huncertain⟩ := hunlocated
    exact refresh_follows_iff.mpr
      ⟨huncertain, hmetadata, .inl (TemporalPolicyV3.location_eq_none.mp hnone)⟩

/-- What the locked part does to the location. -/
theorem reconcileLocked_faultless (hF : F.SixDecimals round) (hpanel : panel.Unlocated m s)
    (hw : policyLocation K F w.document = l) :
    (reconcileLocked K G m panel s).wp (faultlessMachine K F B p)
      (fun tr panel' _ w' => (∃ e ∈ tr, e.cmd = Call.load) → SameZone tr panel' →
        panel'.HasReference → panel'.metadataUncertain = panel.metadataUncertain ∧
          (w'.LocatedAt K F panel'.reference ↔
            ∃ location, l = some location ∧ panel'.Follows location)) w := by
  refine faultless_call id hw fun system w₁ hsystem _ h₁ => ?_
  obtain ⟨locked, rfl⟩ := Option.isSome_iff_exists.mp hsystem
  refine faultless_call id h₁ fun regional w₂ hregional _ h₂ => ?_
  obtain ⟨context, rfl⟩ := Option.isSome_iff_exists.mp hregional
  simp only [Prog.ret_bind, Action.bind_run, modelReload, readModel_run]
  cases hpriv : s.models m with
  | none =>
    refine faultless_call id h₂ fun file w₃ _ _ h₃ => ?_
    rintro ⟨e, he, hload⟩
    simp only [List.mem_cons, List.not_mem_nil, or_false] at he
    rcases he with rfl | rfl | rfl <;> cases hload
  | some priv =>
    obtain ⟨hst, hs⟩ := hpanel.2 priv hpriv
    cases hK : K.policyDefault with
    | none =>
      simp only [hst, hs, platformTemporalPolicyStore, Bool.not_true, Option.isNone_none,
        Bool.or_true, if_true, Action.pure_run, Prog.ret_bind]
      refine faultless_call id h₂ fun file w₃ _ _ h₃ => ?_
      rintro ⟨e, he, hload⟩
      simp only [List.mem_cons, List.not_mem_nil, or_false] at he
      rcases he with rfl | rfl | rfl <;> cases hload
    | some default =>
      simp only [hst, hs, platformTemporalPolicyStore, Bool.not_true, Option.isNone_some,
        Bool.or_self, Bool.false_eq_true, if_false, Action.bind_run, storeLoad_run, Prog.call_bind,
        Prog.ret_bind]
      refine faultless_load h₂ fun x w₃ hl h₃ => ?_
      simp only [Action.bind_run, modifyModel_run, Prog.ret_bind, Action.pure_run, hpriv,
        Option.map_some]
      refine faultless_call id h₃ fun file w₄ _ hfile h₄ => ?_
      have hremembered : Panel.Unlocated m (Panel.remember { panel with
          regionalContext := context } (metadataLoad G file)) (s.setModel m (some
            { priv with policy := x.1, persistedPolicyPresent := x.2 })) :=
        Panel.Unlocated.remember ⟨hpanel.1, panelModel_setModel hst hs⟩ (by
          rcases metadataLoad_findsNoFile (G := G) hfile with h | h <;> simp [h])
      have huncertain : (Panel.remember { panel with regionalContext := context }
          (metadataLoad G file)).metadataUncertain = panel.metadataUncertain :=
        Panel.remember_metadataUncertain ..
      have hcontext : (Panel.remember { panel with regionalContext := context }
          (metadataLoad G file)).regionalContext = context :=
        Panel.remember_regionalContext ..
      simp only [Prog.ret_bind, Action.pure_run, if_true, Action.bind_run, modelPolicy_run,
        Memory.setModel_self, Option.map_some, Option.getD_some]
      generalize Panel.remember { panel with regionalContext := context } (metadataLoad G file) =
        panel₁ at hremembered huncertain hcontext ⊢
      rw [reconcileMetadata_unlocated (by exact hremembered.1)]
      simp only [Prog.ret_bind, Action.bind_run]
      by_cases hzone : (locked.timezone ≠ [] ∧ context.timezoneId = locked.timezone) ∧
          panel₁.HasReference
      · obtain ⟨⟨hzone, hsame⟩, href, hvalid⟩ := hzone
        have hmatches : (some locked).any (fun locked => (some context).isSome &&
            !locked.timezone.isEmpty && context.timezoneId == locked.timezone) = true := by
          simp [hzone, hsame]
        rw [hmatches]
        refine Prog.wp_bind (Prog.wp_mono ?_ (reconcileReference_faultless hF hremembered.2
          (Memory.setModel_self ..) hremembered.1 href hvalid (h₄.trans hl)))
        intro tr _ s' w' hw' _ _ _
        refine ⟨huncertain, hw'.trans ?_⟩
        simp only [hl, Option.some.injEq, exists_eq_left']
        exact Iff.rfl
      · -- then there is nothing to show at the end
        refine Prog.wp_bind (Prog.wp_of_forall fun tr _ s' w' => ?_)
        intro _ hsame href
        have h := hsame _ List.mem_cons_self
        exact absurd ⟨hcontext ▸ h, href⟩ hzone

end Rules

/-- A faultless reconciliation of a panel that remembers no metadata leaves the
policy at the reference coordinate of the zone exactly when it found it there, or
found no location and knows that there is no metadata. -/
theorem reconcile_faultless {round : Double → Double} (hF : F.SixDecimals round)
    (hpanel : panel.Unlocated m s) (hnone : w.NoMetadata) {systemState : SystemTimeState}
    {tr : List (Event (Sys B) (World (FileState P) B))}
    (hx : (reconcileSystemTimeChange K G m systemState panel s).Exec (localityMachine K F B p) w tr
      panel' s' w')
    (hfaultless : Faultless tr panel') :
    w'.LocatedAt K F panel'.reference ↔ w.LocatedAt K F panel'.reference ∨
      (policyLocation K F w.document = some none ∧ panel.metadataUncertain = false) := by
  have htold := ((reconcileSystemTimeChange_unlocated hpanel).exec
    (fun w e hw hstep hc => hw.step hstep hc) hnone hx).1
  have hrun := hx.restrict fun e he =>
    (⟨hfaultless.succeeded e he, htold e he⟩ :
      e.cmd.Succeeded e.resp ∧ e.cmd.FindsNoFile e.resp)
  have hwp : (reconcileSystemTimeChange K G m systemState panel s).wp (faultlessMachine K F B p)
      (fun tr panel' _ w' => (∃ e ∈ tr, e.cmd = Call.load) → SameZone tr panel' →
        panel'.HasReference → (w'.LocatedAt K F panel'.reference ↔
          w.LocatedAt K F panel'.reference ∨
            (policyLocation K F w.document = some none ∧ panel.metadataUncertain = false))) w := by
    simp only [reconcileSystemTimeChange]
    split
    · rintro ⟨e, he, -⟩
      cases he
    refine faultless_call id rfl fun regional w₁ _ _ h₁ => ?_
    simp only [Prog.ret_bind]
    split
    swap
    · rintro ⟨e, he, hload⟩
      rw [List.mem_singleton] at he
      subst he
      cases hload
    refine faultless_call id h₁ fun begun w₂ hbegun _ h₂ => ?_
    have hbegun : begun = true := hbegun
    subst hbegun
    have hpanel₁ : Panel.Unlocated m { panel with regionalContext := regional.getD .zero } s :=
      hpanel
    simp only [Prog.ret_bind, if_true, Action.bind_run]
    refine Prog.wp_bind (Prog.wp_mono ?_ (reconcileLocked_faultless hF hpanel₁ h₂))
    intro tr panel' s' w' h
    refine faultless_call id rfl fun _ w'' _ _ hdocument => ?_
    rintro ⟨e, he, hload⟩ hzone href
    have hmem : e ∈ tr := by
      simp only [List.mem_cons, List.mem_append, List.not_mem_nil, or_false] at he
      rcases he with rfl | rfl | he | rfl
      · cases hload
      · cases hload
      · exact he
      · cases hload
    have hzone : SameZone tr panel' := fun e he =>
      hzone e (List.mem_cons_of_mem _ (List.mem_cons_of_mem _ (List.mem_append_left _ he)))
    obtain ⟨huncertain, hlocated⟩ := h ⟨e, hmem, hload⟩ hzone href
    have hsame : w''.LocatedAt K F panel'.reference ↔ w'.LocatedAt K F panel'.reference := by
      simp only [World.LocatedAt, hdocument]
    rw [hsame, hlocated]
    simp only [World.LocatedAt, Panel.Follows, huncertain]
    constructor
    · rintro ⟨location, hl, ⟨c, rfl, hc⟩ | ⟨rfl, hknown⟩⟩
      · exact .inl ⟨c, hl, hc⟩
      · exact .inr ⟨hl, hknown⟩
    · rintro (⟨c, hl, hc⟩ | ⟨hl, hknown⟩)
      · exact ⟨_, hl, .inl ⟨c, rfl, hc⟩⟩
      · exact ⟨_, hl, .inr ⟨rfl, hknown⟩⟩
  exact hrun.of_wp hwp hfaultless.reloaded hfaultless.zone hfaultless.reference

/-- In every run of a panel without metadata, each faultless reconciliation leaves
the policy at the reference coordinate of the zone exactly when the policy was
there before, or had no location and the panel knew that there is no metadata. -/
theorem reference_follows_zone {round : Double → Double} (hF : F.SixDecimals round)
    {w₀ : World (FileState P) B} (h₀ : w₀.NoMetadata) (hrun : PanelRun K F G m p w₀ panel s w)
    {systemState : SystemTimeState} {tr : List (Event (Sys B) (World (FileState P) B))}
    (hx : (reconcileSystemTimeChange K G m systemState panel s).Exec (localityMachine K F B p) w tr
      panel' s' w')
    (hfaultless : Faultless tr panel') :
    w'.LocatedAt K F panel'.reference ↔ w.LocatedAt K F panel'.reference ∨
      (policyLocation K F w.document = some none ∧ panel.metadataUncertain = false) :=
  reconcile_faultless hF (hrun.unlocated h₀).1 (hrun.unlocated h₀).2 hx hfaultless

/-! ### A change of zone -/

/-- A world over the small format and the small GLib. -/
abbrev SmallWorld : Type := World (FileState (Option TemporalPolicyV3)) (Option LocationMetadata)

/-- The system is in this zone, with this reference coordinate. -/
def SmallWorld.inZone (w : SmallWorld) (zone : Text) (latitude longitude : ℚ) : SmallWorld :=
  { w with
    system := ⟨zone, true, false, false⟩
    regional := ⟨zone, zone, .finite latitude, .finite longitude, true⟩ }

/-- Somewhere else the zone changes, or is set for the first time. -/
theorem SmallWorld.inZone_spares (w : SmallWorld) (zone : Text) (latitude longitude : ℚ) :
    w.SparesLocality Common.small PolicyFormat.small (w.inZone zone latitude longitude) :=
  ⟨rfl, rfl, rfl⟩

/-- Play code of process 1. -/
abbrev SmallWorld.play {α : Type} (w : SmallWorld)
    (prog : Prog (Sys (Option LocationMetadata)) Memory α) :
    List (Event (Sys (Option LocationMetadata)) SmallWorld) × α × Memory × SmallWorld :=
  World.play (platformStorage Common.small PolicyFormat.small) 1 prog w []

theorem SmallWorld.play_exec {α : Type} (w : SmallWorld)
    (prog : Prog (Sys (Option LocationMetadata)) Memory α) :
    prog.Exec (localityMachine Common.small PolicyFormat.small _ 1) w (w.play prog).1
      (w.play prog).2.1 (w.play prog).2.2.1 (w.play prog).2.2.2 :=
  World.play_exec _ 1 World.SparesLocality.refl prog w []

/-- The zone `[1]`, with the policy at its reference coordinate or without a
location. -/
def startWorld (configured : Bool) : SmallWorld :=
  SmallWorld.inZone (World.fresh (.contents (some
    ⟨"standard-24", "gregorian", false, configured, .finite (-37), .finite 145⟩))) [1] (-37) 145

/-- The panel that starts there. -/
def startedPanel : Panel where
  regionalContext := (startWorld true).regional
  metadata := .zero
  metadataPresent := false
  metadataUncertain := false
  followsTimezoneReference := true
  recoveryFailed := false

/-- After its start. -/
def started (configured : Bool) : Memory × SmallWorld :=
  ((startWorld configured).play (panelNew Common.small GLib.small 0 Memory.empty)).2.2

/-- The zone is now `[2]`. -/
def movedWorld (configured : Bool) : SmallWorld := (started configured).2.inZone [2] (-31) 115

theorem movedWorld_run (configured : Bool) : PanelRun Common.small PolicyFormat.small GLib.small 0 1
    (startWorld configured) startedPanel (started configured).1 (movedWorld configured) := by
  have hx := (startWorld configured).play_exec (panelNew Common.small GLib.small 0 Memory.empty)
  have hpanel : ((startWorld configured).play
      (panelNew Common.small GLib.small 0 Memory.empty)).2.1 = some startedPanel := by
    cases configured <;> decide +kernel
  rw [hpanel] at hx
  exact .elsewhere (.start rfl hx) (SmallWorld.inZone_spares _ _ _ _)

/-- The reconciliation with the new zone. -/
def movedRun (configured : Bool) :
    List (Event (Sys (Option LocationMetadata)) SmallWorld) × Panel × Memory × SmallWorld :=
  (movedWorld configured).play (reconcileSystemTimeChange Common.small GLib.small 0
    ⟨[2], true, false, false⟩ startedPanel (started configured).1)

theorem movedRun_faultless (configured : Bool) :
    Faultless (movedRun configured).1 (movedRun configured).2.1 := by
  constructor
  · cases configured <;> decide +kernel
  · cases configured <;> decide +kernel
  · cases configured <;> unfold SameZone <;> decide +kernel
  · cases configured <;> unfold Panel.HasReference <;> decide +kernel

/-- A policy without a location gets the reference coordinate. -/
theorem reference_follows_zone_first : (movedRun false).2.2.2.LocatedAt Common.small
    PolicyFormat.small (movedRun false).2.1.reference :=
  (reference_follows_zone PolicyFormat.small_sixDecimals ⟨rfl, rfl⟩ (movedWorld_run false)
    (SmallWorld.play_exec _ _) (movedRun_faultless false)).mpr (.inr ⟨rfl, rfl⟩)

/-- A policy at the old reference coordinate stays there. -/
theorem reference_follows_zone_counterexample :
    ¬ ∀ (w₀ w w' : SmallWorld) (panel panel' : Panel) (s s' : Memory)
      (systemState : SystemTimeState)
      (tr : List (Event (Sys (Option LocationMetadata)) SmallWorld)), w₀.NoMetadata →
      (policyLocation Common.small PolicyFormat.small w₀.document = some none ∨
        w₀.LocatedAt Common.small PolicyFormat.small
          (w₀.regional.referenceLatitude, w₀.regional.referenceLongitude)) →
      PanelRun Common.small PolicyFormat.small GLib.small 0 1 w₀ panel s w →
      (reconcileSystemTimeChange Common.small GLib.small 0 systemState panel s).Exec
        (localityMachine Common.small PolicyFormat.small _ 1) w tr panel' s' w' →
      Faultless tr panel' →
      w'.LocatedAt Common.small PolicyFormat.small panel'.reference := by
  intro h
  have hstart : (startWorld true).LocatedAt Common.small PolicyFormat.small
      ((startWorld true).regional.referenceLatitude,
        (startWorld true).regional.referenceLongitude) :=
    ⟨(.finite (-37), .finite 145), rfl, by decide +kernel⟩
  obtain ⟨location, hlocation, hclose⟩ := h (startWorld true) _ _ _ _ _ _ _ _ ⟨rfl, rfl⟩
    (.inr hstart) (movedWorld_run true) (SmallWorld.play_exec _ _) (movedRun_faultless true)
  have hold : policyLocation Common.small PolicyFormat.small (movedRun true).2.2.2.document =
      some (some (.finite (-37), .finite 145)) := by decide +kernel
  cases hold.symm.trans hlocation
  exact absurd hclose (by decide +kernel)

end SystemSettings

import SystemSettings.ManualDraft
import SystemSettings.PolicyRepresentation

/-!
# The clock of a typed wall time

A panel that has discarded or refilled every text whose clock has changed submits
no text under another clock. The panel takes over whatever clock the policy
document has when it saves something else, when it commits a place and when it
reconciles without a change of zone, and it follows the desktop; none of these
drops the mark of the typed text. As long as they bring no other clock, every
typed text is read under the clock it was typed in.
-/

namespace SystemSettings

variable {B W : Type} {K : Common} {G : GLib B} {m : ModelId} {s s' : Memory}
  {native : Option Bool} {saves : Prop} {T : String → String → Prop}
  {draft draft' : DraftPanel} {reading : ManualReading}

/-! ## The synchronisation -/

/-- The present date and time can be written in every clock of manual time. -/
structure ManualReading.Complete (reading : ManualReading) : Prop where
  today : reading.today.isSome = true
  clockText : ∀ mode ∈ ["standard-12", "standard-24", "decimal"], ∀ seconds,
    (reading.clockText mode seconds).isSome = true

theorem manualTimeModeSupported_iff {clockMode : String} :
    manualTimeModeSupported clockMode = true ↔
      clockMode = "standard" ∨ clockMode ∈ ["standard-12", "standard-24", "decimal"] := by
  simp only [manualTimeModeSupported, profileForMode, nativeClockModeProfile]
  split_ifs <;> simp_all

theorem formatManualClockResource_isSome {reading : ManualReading} (h : reading.Complete)
    {clockMode : String} (hmode : manualTimeModeSupported clockMode = true)
    (desktopUse24h seconds : Bool) :
    (formatManualClockResource reading clockMode desktopUse24h seconds).isSome = true := by
  refine h.clockText _ ?_ seconds
  split_ifs with hlegacy
  · cases desktopUse24h <;> decide
  · exact (manualTimeModeSupported_iff.mp hmode).resolve_left hlegacy

/-- Whether the draft may be read under a clock and a calendar: if it is dirty, the
clock is the one it was typed under, or the panel refuses to read any text. -/
def DraftPanel.Reads (native : Option Bool) (draft : DraftPanel) (clockMode calendar : String) :
    Prop :=
  draft.system.manualDirty = true → calendar = "gregorian" →
    manualTimeModeSupported clockMode = true →
    draft.typedUnder = some (profileForMode clockMode (native.getD true))

/-- A typed text is dirty under its own clock, or the fields have been filled since. -/
structure DraftInvariant (m : ModelId) (native : Option Bool) (draft : DraftPanel) (s : Memory) :
    Prop where
  reads : RepresentationIn m (draft.Reads native) s
  filled : draft.system.controls.manualRow = true → draft.system.manualDirty = false →
    draft.typedUnder = none

/-- What is not dirty is not read. -/
theorem RepresentationIn.clean {Q : String → String → Prop} (h : RepresentationIn m Q s)
    (hclean : draft.system.manualDirty = false) : RepresentationIn m (draft.Reads native) s :=
  fun priv hm => ⟨(h priv hm).1, fun hdirty => absurd (hclean.symm.trans hdirty) (by decide)⟩

/-- The mark and the clock are all that matters of a draft. -/
theorem RepresentationIn.of_draft (h : RepresentationIn m (draft.Reads native) s)
    (hdirty : draft'.system.manualDirty = true → draft.system.manualDirty = true)
    (htyped : draft'.typedUnder = draft.typedUnder) :
    RepresentationIn m (draft'.Reads native) s := by
  intro priv hm
  refine ⟨(h priv hm).1, fun hmark => ?_⟩
  rw [htyped]
  exact (h priv hm).2 (hdirty hmark)

theorem fillManualTimeEntries_synced (hreading : reading.Complete) {policy : TemporalPolicyV3}
    (hpolicy : (s.models m).map ModelPrivate.policy = some policy)
    (hsupported : manualRepresentationSupported (some policy) = true) :
    UnderClock (B := B) native saves T (fun draft' s' => s' = s ∧ draft'.system = draft.system ∧
      draft'.typedUnder = none) (fillManualTimeEntries m reading draft s) := by
  have hmode : manualTimeModeSupported policy.clockMode = true := by
    simp only [manualRepresentationSupported, Option.any_some, Bool.and_eq_true] at hsupported
    exact hsupported.2
  have htoday : reading.today.isNone = false := by
    rw [← Option.not_isSome, hreading.today]
    rfl
  simp only [fillManualTimeEntries, Action.bind_run, modelPolicy_run, hpolicy, Prog.ret_bind,
    hsupported, htoday, Bool.not_true, Bool.or_false, Bool.false_eq_true, if_false]
  refine ⟨trivial, fun answer _ => ⟨rfl, rfl, ?_⟩⟩
  have htext := formatManualClockResource_isSome hreading hmode (answer.getD true)
    policy.showSeconds
  simp [DraftPanel.fill, hreading.today, htext]

/-- A synchronisation hides the manual row, or shows it over a policy that manual
time supports. -/
theorem systemTimeSync_manual (panel : SystemTimePanel) (read : SystemReading) :
    let panel' := systemTimeSync read panel
    (panel'.controls.manualRow = false ∧
      (panel'.manualDirty = true → panel.manualDirty = true)) ∨
    (panel'.controls.manualRow = true ∧ read.manualSupported = true ∧
      panel'.manualDirty = panel.manualDirty) := by
  have hsupported : (panel.reads read).manualSupported = read.manualSupported := by
    unfold SystemTimePanel.reads
    split <;> rfl
  cases hstate : (panel.reads read).state with
  | none => exact .inl (by simp [systemTimeSync, syncControls, hstate])
  | some systemState =>
    by_cases hvisible : (!systemState.ntpEnabled && read.manualSupported) = true
    · have hmanual := (Bool.and_eq_true_iff.mp hvisible).2
      exact .inr (by simp_all [systemTimeSync, syncControls])
    · rw [Bool.not_eq_true] at hvisible
      exact .inl (by simp [systemTimeSync, syncControls, hstate, hsupported, hvisible])

theorem draftSyncState_invariant (hreading : reading.Complete)
    (h : RepresentationIn m (draft.Reads native) s) (state : Option SystemTimeState) :
    UnderClock (B := B) native saves T (DraftInvariant m native)
      (draftSyncState m reading draft state s) := by
  simp only [draftSyncState, Action.bind_run, modelPolicy_run, Prog.ret_bind]
  set system := systemTimeSync ⟨state, manualRepresentationSupported
    ((s.models m).map ModelPrivate.policy)⟩ draft.system with hsystem
  have hmanual := systemTimeSync_manual draft.system ⟨state, manualRepresentationSupported
    ((s.models m).map ModelPrivate.policy)⟩
  rw [← hsystem] at hmanual
  obtain ⟨hrow, hdirty⟩ | ⟨hrow, hsupported, hdirty⟩ := hmanual
  · -- the row is hidden: there is nothing to fill
    rw [if_neg (by simp [hrow])]
    exact ⟨h.of_draft hdirty rfl, fun hvisible => absurd (hrow.symm.trans hvisible) (by decide)⟩
  · cases hmark : system.manualDirty with
    | true =>
      rw [if_neg (by simp)]
      exact ⟨h.of_draft (hdirty ▸ ·) rfl,
        fun _ hclean => absurd (hmark.symm.trans hclean) (by decide)⟩
    | false =>
      rw [if_pos (by simp [hrow])]
      cases hpolicy : (s.models m).map ModelPrivate.policy with
      | none => simp [hpolicy, manualRepresentationSupported] at hsupported
      | some policy =>
        rw [hpolicy] at hsupported
        have hfill : UnderClock (B := B) native saves T
            (fun draft' s' => s' = s ∧
              draft'.system = ({ draft with system := system } : DraftPanel).system ∧
              draft'.typedUnder = none)
            (fillManualTimeEntries m reading { draft with system := system } s) :=
          fillManualTimeEntries_synced hreading hpolicy hsupported
        refine hfill.mono ?_
        rintro draft' s' ⟨rfl, hsame, hfilled⟩
        exact ⟨h.clean (by rw [hsame, ← hmark]), fun _ _ => hfilled⟩

/-- A synchronisation keeps what is dirty and fills what is visible. -/
theorem draftSync_invariant (hreading : reading.Complete)
    (h : RepresentationIn m (draft.Reads native) s) :
    UnderClock (B := B) native saves T (DraftInvariant m native) (draftSync m reading draft s) := by
  unfold draftSync
  split
  · exact ⟨trivial, fun state _ => draftSyncState_invariant hreading h state⟩
  · exact draftSyncState_invariant hreading h none

/-! ## The tasks -/

theorem onManualEntryChanged_invariant {date time : Text} {clock : Option ClockProfile}
    (hclock : ∀ priv, s.models m = some priv →
      clock = profileForMode priv.policy.clockMode (native.getD true))
    (h : DraftInvariant m native draft s) :
    DraftInvariant m native (onManualEntryChanged date time clock draft) s where
  reads priv hm := ⟨(h.reads priv hm).1, fun _ _ _ => congrArg some (hclock priv hm)⟩
  filled _ hclean := by cases hclean

theorem beginSystemTimeOperation_manualDirty {operation : SystemTimeOperation}
    {panel panel' : SystemTimePanel} {request : SystemTimeUiRequest}
    (h : beginSystemTimeOperation operation panel = some (request, panel')) :
    panel'.manualDirty = panel.manualDirty := by
  obtain ⟨-, hbegun⟩ := (Option.ite_none_left_eq_some ..).mp h
  obtain ⟨-, rfl⟩ := Prod.mk.inj (Option.some.inj hbegun)
  rfl

/-- What Set time submits under a policy: one that manual time supports, as the
desktop resolves it. -/
structure ManualSubmission.Under (native : Option Bool) (draft : DraftPanel)
    (policy : TemporalPolicyV3) (submission : ManualSubmission) : Prop where
  gregorian : policy.calendar = "gregorian"
  supported : manualTimeModeSupported policy.clockMode = true
  clockMode : submission.clockMode = policy.clockMode
  desktopUse24h : submission.desktopUse24h = native.getD true
  date : submission.date = draft.manualDate
  time : submission.time = draft.manualTime

theorem parseManualDatetime_submits {P : ManualParser} :
    UnderClock (B := B) native saves T (fun parsed s' => s' = s ∧
      ∀ submission, parsed = some submission →
        ∃ priv, s.models m = some priv ∧ submission.Under native draft priv.policy)
      (parseManualDatetime m P draft s) := by
  simp only [parseManualDatetime, Action.bind_run, modelPolicy_run, Prog.ret_bind]
  cases hm : s.models m with
  | none => exact ⟨rfl, fun _ hparsed => by cases hparsed⟩
  | some priv =>
    simp only [Option.map_some]
    split
    · exact ⟨rfl, fun _ hparsed => by cases hparsed⟩
    · next hsupported =>
      simp only [Bool.not_eq_true', Bool.not_eq_false, manualRepresentationSupported,
        Option.any_some, Bool.and_eq_true, beq_iff_eq] at hsupported
      refine ⟨trivial, fun answer hanswer => ⟨rfl, fun submission hparsed => ?_⟩⟩
      obtain ⟨instant, -, rfl⟩ := Option.map_eq_some_iff.mp hparsed
      exact ⟨priv, rfl, hsupported.1, hsupported.2, rfl, congrArg (Option.getD · true) hanswer,
        rfl, rfl⟩

theorem draftSetTimeClicked_invariant {P : ManualParser} (hreading : reading.Complete)
    (h : DraftInvariant m native draft s) :
    UnderClock (B := B) native saves T (fun result s' => DraftInvariant m native result.2 s')
      (draftSetTimeClicked m P reading draft s) := by
  unfold draftSetTimeClicked
  split
  · exact h
  refine parseManualDatetime_submits.bind ?_
  rintro submission s ⟨rfl, -⟩
  cases submission with
  | none => exact h
  | some submission =>
    cases hbegin : beginSystemTimeOperation .manual draft.system with
    | none => exact h
    | some begun =>
      obtain ⟨request, system⟩ := begun
      have hbegun := beginSystemTimeOperation_manualDirty hbegin
      have hsync : UnderClock (B := B) native saves T (DraftInvariant m native)
          (draftSync m reading { draft with system := system } s) :=
        draftSync_invariant hreading (h.reads.of_draft (hbegun ▸ ·) rfl)
      exact hsync.bind fun draft' s' h' => h'

/-- A clock or a calendar that is set discards what was typed. -/
theorem draftRepresentationChanged_invariant {op : ModelOp} (hop : op.Represents)
    (hreading : reading.Complete) (h : DraftInvariant m native draft s) :
    UnderClock (B := B) native saves T (DraftInvariant m native)
      (draftRepresentationChanged m (op.run K m) reading draft s) := by
  have hstore : RepresentationIn m (fun _ _ => True) s :=
    fun priv hm => ⟨(h.reads priv hm).1, trivial⟩
  refine (hop.keeps hstore).bind ?_
  rintro saved s' ⟨hfailed, hstore'⟩
  cases saved with
  | true => exact draftSync_invariant hreading (hstore'.clean rfl)
  | false =>
    obtain rfl := hfailed rfl
    exact draftSync_invariant hreading h.reads

theorem draftSecondsChanged_invariant {active : Bool} (hreading : reading.Complete)
    (h : DraftInvariant m native draft s) :
    UnderClock (B := B) native saves (draft.Reads native) (DraftInvariant m native)
      (draftSecondsChanged m active reading draft s) := by
  have hset : UnderClock (B := B) native saves (draft.Reads native)
      (fun _ s' => RepresentationIn m (draft.Reads native) s') (modelSetShowSeconds m active s) :=
    (ModelOp.Adopts.setShowSeconds ..).representationIn (K := Common.small)
      (fun _ _ hread => hread) h.reads
  exact hset.bind fun _ s' h' => draftSync_invariant hreading h'

/-- A place that is committed leaves the draft as it is. -/
theorem DraftInvariant.of_panel {native : Option Bool} (h : DraftInvariant m native draft s)
    {panel : Panel} (h' : RepresentationIn m (draft.Reads native) s') :
    DraftInvariant m native { draft with panel := panel } s' :=
  ⟨h', h.filled⟩

/-- What concerns only the locality leaves the draft as it is. -/
theorem DraftInvariant.aside {prog : SysM B Panel} (h : DraftInvariant m native draft s)
    (hf : Aside s (prog s)) :
    UnderClock native saves T (DraftInvariant m native)
      ((do pure { draft with panel := ← prog } : SysM B DraftPanel) s) := by
  refine hf.then fun panel => ?_
  exact h.of_panel h.reads

/-- A reloaded policy with another clock or calendar discards what was typed. -/
theorem draftPolicyFileChanged_invariant (hreading : reading.Complete)
    (h : DraftInvariant m native draft s) :
    UnderClock (B := B) native saves T (DraftInvariant m native)
      (draftPolicyFileChanged K G m reading draft s) := by
  have hl : ∀ priv, s.models m = some priv → priv.store.Locking :=
    fun priv hm => (h.reads priv hm).1
  simp only [draftPolicyFileChanged, Action.bind_run, modelPolicy_run, Prog.ret_bind]
  cases hm : s.models m with
  | none => exact h
  | some priv =>
  have hreload : UnderClock (B := B) native saves T
      (fun reloaded s' => (reloaded = false → s' = s) ∧
        RepresentationIn m (fun _ _ => True) s') (modelReload K m s) := by
    refine Prog.under_of_yields fun tr ok s' hy => ⟨fun _ _ => trivial, ?_⟩
    have hsame : RepresentationIn m (fun _ _ => True) s := fun priv hm => ⟨hl priv hm, trivial⟩
    cases modelReload_outcome hl hy with
    | refused | reloadFailed | lockRefused | loadFailed => exact ⟨fun _ => rfl, hsame⟩
    | reloaded priv x w hm =>
      exact ⟨fun hok => absurd hok (by decide), .setModel (hl priv hm) trivial⟩
    | saveFailed _ _ _ _ _ _ _ _ _ _ hc => cases hc
    | saved _ _ _ _ _ _ _ _ _ _ hc => cases hc
  refine hreload.bind ?_
  rintro reloaded s' ⟨hfailed, hstore⟩
  cases reloaded with
  | false =>
    obtain rfl := hfailed rfl
    exact h
  | true =>
    have hrefresh (panel : Panel) : Aside s' (policyFileReloaded G m panel s') := by
      refine locationMetadataRecover_aside.bind fun recovered => ?_
      cases recovered with
      | true => exact locationMetadataLoadStatus_aside.bind fun _ => rfl
      | false => exact rfl
    refine (hrefresh draft.panel).then fun panel => ?_
    refine draftSync_invariant hreading ?_
    split
    · exact hstore.clean rfl
    · next hsame =>
      -- the policy has the clock and the calendar it had
      intro priv' hm'
      rw [hm'] at hsame
      simp only [Option.map_some, Option.any_some, Bool.or_eq_true, bne_iff_ne, ne_eq, not_or,
        not_not] at hsame
      refine ⟨(hstore priv' hm').1, ?_⟩
      rw [← hsame.1, ← hsame.2]
      exact (h.reads priv hm).2

theorem draftRequest_invariant {operation : SystemTimeOperation} (hreading : reading.Complete)
    (h : DraftInvariant m native draft s) :
    UnderClock (B := B) native saves T (DraftInvariant m native)
      (draftRequest m operation reading draft s) := by
  unfold draftRequest
  split
  · cases hbegin : beginSystemTimeOperation operation draft.system with
    | none => exact draftSync_invariant hreading h.reads
    | some begun =>
      obtain ⟨request, system⟩ := begun
      have hbegun := beginSystemTimeOperation_manualDirty hbegin
      exact draftSync_invariant hreading (h.reads.of_draft (hbegun ▸ ·) rfl)
  · exact h

theorem draftOperationComplete_invariant {request : SystemTimeUiRequest} {ok : Bool}
    (hreading : reading.Complete) (h : DraftInvariant m native draft s) :
    UnderClock (B := B) native saves T (DraftInvariant m native)
      (draftOperationComplete m request ok reading draft s) := by
  unfold draftOperationComplete
  split
  · cases ok with
    | true => exact ⟨trivial, fun _ _ => draftSync_invariant hreading (h.reads.clean rfl)⟩
    | false => exact draftSync_invariant hreading (h.reads.of_draft id rfl)
  · exact h

/-- Whether a reconciliation discards the draft. -/
def DraftPanel.Discards (draft : DraftPanel) (systemState : SystemTimeState) : Prop :=
  (!systemState.timezone.isEmpty && draft.panel.regionalContext.timezoneId != systemState.timezone)
    = true ∨ systemState.ntpEnabled = true

theorem draftReconcile_invariant {systemState : SystemTimeState} (hreading : reading.Complete)
    (h : DraftInvariant m native draft s)
    (hT : ¬ draft.Discards systemState → ∀ c d, T c d → draft.Reads native c d) :
    UnderClock (B := B) native True T (DraftInvariant m native)
      (draftReconcile K G m systemState reading draft s) := by
  have hreconcile (draft' : DraftPanel) (h' : RepresentationIn m (draft'.Reads native) s)
      (hTQ : ∀ c d, T c d → draft'.Reads native c d) :
      UnderClock (B := B) native True T (DraftInvariant m native) ((do
        let panel ← reconcileSystemTimeChange K G m systemState draft'.panel
        draftSync m reading { draft' with panel := panel } : SysM B DraftPanel) s) :=
    (reconcileSystemTimeChange_representationIn trivial hTQ h').bind fun panel s' h' =>
      draftSync_invariant hreading (h'.of_draft id rfl)
  simp only [draftReconcile]
  split
  · exact draftSync_invariant hreading h.reads
  · split
    · exact hreconcile _ (h.reads.clean rfl) fun _ _ _ hdirty => by cases hdirty
    · next hkeeps => exact hreconcile _ h.reads (hT (by simpa [DraftPanel.Discards] using hkeeps))

/-! ## Runs -/

/-- A policy was saved. -/
def SavedPolicy (tr : List (Event (Sys B) W)) : Prop :=
  ∃ policy w, event (.save policy) true w ∈ tr

/-- Every policy that was read has its clock and its calendar in `T`. -/
def LoadsOnly (T : String → String → Prop) (tr : List (Event (Sys B) W)) : Prop :=
  ∀ policy persisted w, event .load (some (policy, persisted)) w ∈ tr →
    T policy.clockMode policy.calendar

/-- What a run is told of the representation. -/
theorem toldRepresentation_of {tr : List (Event (Sys B) W)}
    (hnative : ∀ e ∈ tr, TellsNative native e.cmd e.resp) (hsaves : SavedPolicy tr → saves)
    (hloads : saves → LoadsOnly T tr) :
    ∀ e ∈ tr, ToldRepresentation native saves T e.cmd e.resp := by
  rintro ⟨cmd, resp, w⟩ he
  cases cmd with
  | load =>
    cases resp with
    | none => trivial
    | some read => exact fun hs => hloads hs read.1 read.2 w he
  | save policy =>
    cases resp with
    | false => trivial
    | true => exact hsaves ⟨policy, w, he⟩
  | clockUse24h => exact hnative _ he
  | _ => trivial

/-- A task that discards no draft brings none under another clock: it saves nothing,
or the policies that it reads have the clock of the draft; and the desktop does not
change it either. -/
def DraftTask.Spares (m : ModelId) (x : DraftState) (tr : List (Event (Sys B) Unit)) :
    DraftTask → Prop
  | .secondsChanged _ | .place _ _ => SavedPolicy tr → LoadsOnly (x.draft.Reads x.native) tr
  | .interfaceChanged _ key =>
    SavedPolicy tr →
      if key = "clock-use-24h" then
        ∀ native, x.native = some native →
          ∀ calendar, x.draft.Reads x.native (nativeClockModeId native) calendar
      else LoadsOnly (x.draft.Reads x.native) tr
  | .reconcile systemState =>
    ¬ x.draft.Discards systemState → LoadsOnly (x.draft.Reads x.native) tr
  | .nativeChanged native =>
    ∀ priv, x.memory.models m = some priv →
      x.draft.Reads native priv.policy.clockMode priv.policy.calendar
  | _ => True

/-- What a task may be in a run without the defect; the panel can write the present
date and time. -/
def DraftTask.Benign (m : ModelId) (task : DraftTask) (reading : ManualReading)
    (tr : List (Event (Sys B) Unit)) (x : DraftState) : Prop :=
  reading.Complete ∧ task.Spares m x tr

variable {P : ManualParser} {x x' : DraftState} {tr : List (Event (Sys B) Unit)}

theorem DraftStep.invariant {task : DraftTask}
    (hfind : ∀ {id : String} {info : ClockModeInfo}, K.clockModeFind id = some info → info.id = id)
    (hcopy : ∀ use24h, K.copyClockMode (nativeClockModeId use24h) = nativeClockModeId use24h)
    (hstep : DraftStep K G m P task reading tr x x') (hbenign : task.Benign m reading tr x)
    (h : DraftInvariant m x.native x.draft x.memory) :
    DraftInvariant m x'.native x'.draft x'.memory := by
  obtain ⟨hreading, hspares⟩ := hbenign
  obtain ⟨hruns, hnative, htells⟩ := hstep
  -- most tasks are told nothing of the policies that they read
  have htold {saves : Prop} {T : String → String → Prop} (hsaves : SavedPolicy tr → saves)
      (hloads : saves → LoadsOnly T tr) := toldRepresentation_of htells hsaves hloads
  have hany : ∀ e ∈ tr, ToldRepresentation x.native True (fun _ _ => True) e.cmd e.resp :=
    htold (fun _ => trivial) fun _ _ _ _ _ => trivial
  cases task with
  | sync =>
    rw [hnative]
    exact (draftSync_invariant hreading h.reads).yields hruns hany
  | edit date time =>
    obtain ⟨-, hdraft, hmemory⟩ := hruns
    rw [hnative, hdraft, hmemory]
    refine onManualEntryChanged_invariant (fun priv hm => ?_) h
    simp [DraftState.clock, hm, DraftTask.nativeAfter]
  | setTime =>
    rw [hnative]
    have hclicked : UnderClock (B := B) x.native True (fun _ _ => True) (DraftInvariant m x.native)
        ((Prod.snd <$> draftSetTimeClicked m P reading x.draft : SysM B DraftPanel) x.memory) :=
      (draftSetTimeClicked_invariant hreading h).bind fun result s' h' => h'
    exact hclicked.yields hruns hany
  | clockChanged id =>
    rw [hnative]
    exact (draftRepresentationChanged_invariant (.setClockMode id) hreading h).yields hruns hany
  | calendarChanged id =>
    rw [hnative]
    exact (draftRepresentationChanged_invariant (.setCalendar id) hreading h).yields hruns hany
  | secondsChanged active =>
    rw [hnative]
    exact (draftSecondsChanged_invariant hreading h).yields hruns (htold id hspares)
  | place t candidate =>
    rw [hnative]
    have hplaced : UnderClock (B := B) x.native (SavedPolicy tr) (x.draft.Reads x.native)
        (DraftInvariant m x.native) ((do
          pure { x.draft with panel := ← commitLocation K G m t candidate x.draft.panel } :
            SysM B DraftPanel) x.memory) :=
      (commitLocation_representationIn (fun _ _ hread => hread) h.reads).bind
        fun panel s' h' => h.of_panel h'
    exact hplaced.yields hruns (htold id hspares)
  | policyFileChanged =>
    rw [hnative]
    exact (draftPolicyFileChanged_invariant hreading h).yields hruns hany
  | locationMetadataFileChanged =>
    rw [hnative]
    exact (h.aside locationMetadataFileChanged_aside).yields hruns hany
  | retryLocalityRecovery =>
    rw [hnative]
    exact (h.aside retryLocalityRecovery_aside).yields hruns hany
  | interfaceChanged updatingControls key =>
    rw [hnative]
    have hchanged : UnderClock (B := B) x.native (SavedPolicy tr)
        (fun c d => key ≠ "clock-use-24h" → x.draft.Reads x.native c d)
        (fun _ s' => RepresentationIn m (x.draft.Reads x.native) s')
        (onCinnamonInterfaceChanged K m updatingControls key x.memory) := by
      refine onCinnamonInterfaceChanged_representationIn h.reads
        (fun hkey _ _ hread => hread hkey) ?_
      intro hkey _ nativeValue _ _ hvalue hsaved info calendar hinfo
      rw [hfind hinfo, hcopy]
      exact (if_pos hkey ▸ hspares hsaved) nativeValue hvalue calendar
    refine Prog.Under.yields (hchanged.bind fun _ s' h' => ?_) hruns
      (htold id fun hsaved policy persisted w he hkey => ?_)
    · exact ⟨h', h.filled⟩
    · exact (if_neg hkey ▸ hspares hsaved) policy persisted w he
  | reconcile systemState =>
    rw [hnative]
    refine (draftReconcile_invariant (T := fun c d => ¬ x.draft.Discards systemState →
      x.draft.Reads x.native c d) hreading h fun hkeeps _ _ hread => hread hkeeps).yields hruns ?_
    exact htold (fun _ => trivial) fun _ policy persisted w he hkeeps =>
      hspares hkeeps policy persisted w he
  | request operation =>
    rw [hnative]
    exact (draftRequest_invariant hreading h).yields hruns hany
  | operationComplete sent ok =>
    rw [hnative]
    exact (draftOperationComplete_invariant hreading h).yields hruns hany
  | serviceReady =>
    rw [hnative]
    have hsync : UnderClock (B := B) x.native True (fun _ _ => True) (DraftInvariant m x.native)
        (draftSync m reading { x.draft with system := { x.draft.system with service := true } }
          x.memory) := draftSync_invariant hreading (h.reads.of_draft id rfl)
    exact hsync.yields hruns hany
  | nativeChanged native =>
    obtain ⟨-, hdraft, hmemory⟩ := hruns
    rw [hnative, hdraft, hmemory]
    exact ⟨fun priv hm => ⟨(h.reads priv hm).1, hspares priv hm⟩, h.filled⟩

theorem DraftRun.invariant
    (hfind : ∀ {id : String} {info : ClockModeInfo}, K.clockModeFind id = some info → info.id = id)
    (hcopy : ∀ use24h, K.copyClockMode (nativeClockModeId use24h) = nativeClockModeId use24h)
    (h : DraftRun K G m P (DraftTask.Benign m) x) :
    DraftInvariant m x.native x.draft x.memory := by
  induction h with
  | start hfresh =>
    refine ⟨fun priv hm => ⟨?_, fun hdirty => ?_⟩, fun _ _ => hfresh.typedUnder⟩
    · rw [hfresh.store priv hm]
      exact ⟨rfl, rfl, rfl, rfl⟩
    · exact absurd (hfresh.clean.symm.trans hdirty) (by decide)
  | step task _ hstep hbenign ih => exact hstep.invariant hfind hcopy hbenign ih

theorem draftSetTimeClicked_submits :
    UnderClock (B := B) native saves T (fun result _ => ∀ submission, result.1 = some submission →
      ∃ priv, s.models m = some priv ∧ submission.Under native draft priv.policy)
      (draftSetTimeClicked m P reading draft s) := by
  unfold draftSetTimeClicked
  split
  · exact fun submission hsent => by cases hsent
  refine parseManualDatetime_submits.bind ?_
  rintro parsed s' ⟨rfl, hparsed⟩
  cases parsed with
  | none => exact fun submission hsent => by cases hsent
  | some submission =>
    cases hbegin : beginSystemTimeOperation .manual draft.system with
    | none => exact fun submission hsent => by cases hsent
    | some begun =>
      refine Prog.Under.bind (Prog.under_of_yields fun _ _ _ _ => ⟨fun _ _ => trivial, trivial⟩)
        fun draft' s'' _ submission' hsent => ?_
      exact hparsed submission' hsent

/-- In every run of a panel, a typed text is submitted under the clock in which it
was typed. -/
def TypedUnderItsClock (K : Common) (G : GLib B) (m : ModelId) (P : ManualParser)
    (allows : DraftTask → ManualReading → List (Event (Sys B) Unit) → DraftState → Prop) : Prop :=
  ∀ (x : DraftState) (reading : ManualReading) (tr : List (Event (Sys B) Unit))
    (submission : ManualSubmission) (draft : DraftPanel) (s : Memory)
    (clock : Option ClockProfile),
    DraftRun K G m P allows x → x.draft.system.controls.manualRow = true →
    (draftSetTimeClicked m P reading x.draft x.memory).Yields tr (some submission, draft) s →
    (∀ e ∈ tr, TellsNative x.native e.cmd e.resp) → x.draft.typedUnder = some clock →
    submission.date = x.draft.manualDate ∧ submission.time = x.draft.manualTime ∧
      profileForMode submission.clockMode submission.desktopUse24h = clock

/-- It is so as long as nothing but what discards the draft changes the clock. -/
theorem typedUnderItsClock
    (hfind : ∀ {id : String} {info : ClockModeInfo}, K.clockModeFind id = some info → info.id = id)
    (hcopy : ∀ use24h, K.copyClockMode (nativeClockModeId use24h) = nativeClockModeId use24h) :
    TypedUnderItsClock K G m P (DraftTask.Benign m) := by
  intro x reading tr submission draft s clock hrun hvisible hy htells htyped
  have hinvariant := hrun.invariant hfind hcopy
  have htold : ∀ e ∈ tr, ToldRepresentation x.native True (fun _ _ => True) e.cmd e.resp :=
    toldRepresentation_of htells (fun _ => trivial) fun _ _ _ _ _ => trivial
  obtain ⟨priv, hm, hunder⟩ := draftSetTimeClicked_submits.yields hy htold submission rfl
  refine ⟨hunder.date, hunder.time, ?_⟩
  rw [hunder.clockMode, hunder.desktopUse24h]
  cases hdirty : x.draft.system.manualDirty with
  | true =>
    have hreads := (hinvariant.reads priv hm).2 hdirty hunder.gregorian hunder.supported
    exact Option.some.inj (hreads.symm.trans htyped)
  | false =>
    -- the fields have been filled since
    have hfilled := hinvariant.filled hvisible hdirty
    rw [hfilled] at htyped
    cases htyped

/-! ## A setting is changed beside a typed time -/

/-- A parser for the time zone UTC, on one day. -/
def epochParser : ManualParser where
  equalCi text text' := text == text'
  localInstant date microseconds :=
    if date = bytes "1970-01-01" then some microseconds else none

/-- The present date and time of a day that is about to end. -/
def lateReading : ManualReading := ⟨some (bytes "1970-01-01"), fun _ _ => some (bytes "9:00")⟩

theorem lateReading_complete : lateReading.Complete := ⟨rfl, fun _ _ _ => rfl⟩

/-- A policy with this clock. -/
def clockPolicy (clockMode : String) (showSeconds : Bool) : TemporalPolicyV3 :=
  ⟨clockMode, "gregorian", showSeconds, false, .finite 0, .finite 0⟩

/-- The memory of a panel that has this policy. -/
def clockMemory (policy : TemporalPolicyV3) : Memory :=
  Memory.empty.setModel 0 (some ⟨policy, platformTemporalPolicyStore, true, false⟩)

/-- A panel over the 24-hour clock, with network time off, on a 24-hour desktop. -/
def manualPanel : DraftState where
  draft :=
    { panel := ⟨.zero, .zero, false, false, true, false⟩
      system := ⟨true, fun _ => false, fun _ => 0, false, ⟨true, true, true, true, false⟩,
        ⟨some ⟨[], true, true, false⟩, true⟩, []⟩
      manualDate := bytes "1970-01-01"
      manualTime := bytes "21:36"
      typedUnder := none }
  memory := clockMemory (clockPolicy "standard-24" false)
  native := some true

/-- The user types a time into it. -/
def typedPanel : DraftState :=
  { manualPanel with
    draft := onManualEntryChanged (bytes "1970-01-01") (bytes "5:30") (some .conventional24)
      manualPanel.draft }

/-- Then turns the seconds on, over a policy with the clock `clockMode`. -/
def secondsPanel (clockMode : String) : DraftState :=
  { typedPanel with memory := clockMemory (clockPolicy clockMode true) }

/-- The calls of the setter. -/
def secondsCalls (clockMode : String) : List (Event (Sys (Option LocationMetadata)) Unit) :=
  [event .beginUpdate true (), event .load (some (clockPolicy clockMode false, true)) (),
    event (.save (clockPolicy clockMode true)) true (), event .endUpdate () ()]

/-- The state of the service is read, on behalf of a synchronisation. -/
def readingCalls : List (Event (Sys (Option LocationMetadata)) Unit) :=
  [event .readSystemTime (some ⟨[], true, true, false⟩) ()]

theorem manualPanel_fresh : manualPanel.Fresh 0 where
  typedUnder := rfl
  clean := rfl
  store priv hm := by
    simp only [manualPanel, clockMemory, Memory.setModel_self] at hm
    obtain rfl := Option.some.inj hm
    rfl

theorem typedPanel_step :
    DraftStep (B := Option LocationMetadata) Common.small GLib.small 0 epochParser
      (.edit (bytes "1970-01-01") (bytes "5:30")) lateReading [] manualPanel typedPanel :=
  ⟨⟨rfl, rfl, rfl⟩, rfl, fun _ he => absurd he List.not_mem_nil⟩

theorem modelSetShowSeconds_yields (clockMode : String) :
    (modelSetShowSeconds 0 true (clockMemory (clockPolicy "standard-24" false))).Yields
      (secondsCalls clockMode) true (clockMemory (clockPolicy clockMode true)) := by
  refine ⟨true, (), _, rfl, some (clockPolicy clockMode false, true), (), _, rfl, true, (), _, rfl,
    (), (), _, rfl, rfl, rfl, ?_⟩
  simp only [clockMemory, Memory.setModel_setModel]
  rfl

theorem secondsPanel_step {clockMode : String} (hclock : clockMode ∈ ["standard-24", "decimal"]) :
    DraftStep Common.small GLib.small 0 epochParser (.secondsChanged true) lateReading
      (secondsCalls clockMode ++ readingCalls) typedPanel (secondsPanel clockMode) where
  runs := by
    refine (modelSetShowSeconds_yields clockMode).bind ?_
    simp only [List.mem_cons, List.not_mem_nil, or_false] at hclock
    obtain rfl | rfl := hclock <;>
      exact ⟨some ⟨[], true, true, false⟩, (), _, rfl, rfl, rfl, rfl⟩
  native := rfl
  tells e he := by
    simp only [secondsCalls, readingCalls, List.cons_append, List.nil_append, List.mem_cons,
      List.not_mem_nil, or_false] at he
    obtain rfl | rfl | rfl | rfl | rfl := he <;> trivial

/-- What the panel sends then. -/
def sentTime (clockMode : String) (microseconds : ℕ) : ManualSubmission :=
  ⟨clockMode, true, bytes "1970-01-01", bytes "5:30", microseconds⟩

/-- The panel while the request is on its way. -/
def sentPanel : DraftPanel :=
  { typedPanel.draft with
    system :=
      { typedPanel.draft.system with
        inFlight := Function.update (fun _ => false) .manual true
        generation := Function.update (fun _ => 0) .manual 1
        controls := ⟨false, false, false, true, false⟩ } }

theorem secondsPanel_parses {clockMode : String} {microseconds : ℕ}
    (hsupported : manualTimeModeSupported clockMode = true)
    (hparse : manualTimeParse epochParser.equalCi clockMode true (bytes "5:30") =
      some microseconds) :
    (parseManualDatetime (B := Option LocationMetadata) 0 epochParser (secondsPanel clockMode).draft
      (secondsPanel clockMode).memory).Yields [event .clockUse24h (some true) ()]
      (some (sentTime clockMode microseconds)) (secondsPanel clockMode).memory := by
  have hm : (secondsPanel clockMode).memory.models 0 =
      some ⟨clockPolicy clockMode true, platformTemporalPolicyStore, true, false⟩ :=
    Memory.setModel_self ..
  have hfields : manualTimeParse epochParser.equalCi clockMode true
      (secondsPanel clockMode).draft.manualTime = some microseconds := hparse
  have hday : epochParser.localInstant (secondsPanel clockMode).draft.manualDate microseconds =
      some (microseconds : ℤ) := by
    simp [epochParser, secondsPanel, typedPanel, onManualEntryChanged]
  have hpolicy : manualRepresentationSupported (some (clockPolicy clockMode true)) = true :=
    Bool.and_eq_true_iff.mpr ⟨rfl, hsupported⟩
  simp only [parseManualDatetime, Action.bind_run, modelPolicy_run, Prog.ret_bind, hm,
    Option.map_some, hpolicy, Bool.not_true, Bool.false_eq_true, if_false]
  refine ⟨some true, (), _, rfl, rfl, ?_, rfl⟩
  simp only [Option.getD_some, clockPolicy, hfields, Option.bind_some, hday, Option.map_some]
  rfl

theorem secondsPanel_submits {clockMode : String} {microseconds : ℕ}
    (hclock : clockMode ∈ ["standard-24", "decimal"])
    (hparse : manualTimeParse epochParser.equalCi clockMode true (bytes "5:30") =
      some microseconds) :
    (draftSetTimeClicked 0 epochParser lateReading (secondsPanel clockMode).draft
      (secondsPanel clockMode).memory).Yields (event .clockUse24h (some true) () :: readingCalls)
      (some (sentTime clockMode microseconds), sentPanel) (secondsPanel clockMode).memory := by
  have hsupported : manualTimeModeSupported clockMode = true := by
    rw [manualTimeModeSupported_iff]
    exact .inr (List.mem_cons_of_mem _ hclock)
  refine (secondsPanel_parses hsupported hparse).bind ?_
  simp only [List.mem_cons, List.not_mem_nil, or_false] at hclock
  obtain rfl | rfl := hclock <;>
    exact ⟨some ⟨[], true, true, false⟩, (), _, rfl, rfl, rfl, rfl⟩

theorem setTimeCalls_tell : ∀ e ∈ (event .clockUse24h (some true) () :: readingCalls),
    TellsNative (some true) e.cmd e.resp := by
  intro e he
  simp only [readingCalls, List.mem_cons, List.not_mem_nil, or_false] at he
  obtain rfl | rfl := he <;> trivial

/-- The setter read the clock that the panel had: the time is submitted under it. -/
theorem typedUnderItsClock_same :
    profileForMode (sentTime "standard-24" 19800000000).clockMode
      (sentTime "standard-24" 19800000000).desktopUse24h = some .conventional24 := by
  have hrun : DraftRun Common.small GLib.small 0 epochParser (DraftTask.Benign 0)
      (secondsPanel "standard-24") := by
    refine .step _ (.step _ (.start manualPanel_fresh) typedPanel_step
      ⟨lateReading_complete, trivial⟩) (secondsPanel_step (by decide))
      ⟨lateReading_complete, fun _ policy persisted w he => ?_⟩
    simp [secondsCalls, readingCalls, event] at he
    obtain ⟨rfl, -⟩ := he
    exact fun _ _ _ => rfl
  have hparse : manualTimeParse epochParser.equalCi "standard-24" true (bytes "5:30") =
      some 19800000000 := by decide +kernel
  have hsubmitted := typedUnderItsClock (K := Common.small) (G := GLib.small)
    (fun {id info} hinfo => by
      obtain ⟨-, hinfo⟩ := (Option.ite_none_right_eq_some ..).mp hinfo
      exact Option.some.inj hinfo ▸ rfl) (fun _ => rfl) _ _ _ _ _ _ (some .conventional24) hrun rfl
    (secondsPanel_submits (by decide) hparse) setTimeCalls_tell rfl
  exact hsubmitted.2.2

/-- The setter reads the decimal clock, which another process has saved, and what
was typed in the 24-hour clock is submitted as a decimal time. -/
theorem not_typedUnderItsClock :
    ¬ TypedUnderItsClock Common.small GLib.small 0 epochParser
      fun _ reading _ _ => reading.Complete := by
  intro kept
  have hrun : DraftRun Common.small GLib.small 0 epochParser
      (fun _ reading _ _ => reading.Complete) (secondsPanel "decimal") :=
    .step _ (.step _ (.start manualPanel_fresh) typedPanel_step lateReading_complete)
      (secondsPanel_step (by decide)) lateReading_complete
  have hparse : manualTimeParse epochParser.equalCi "decimal" true (bytes "5:30") =
      some 45792000000 := by decide +kernel
  have hsubmitted := kept _ _ _ _ _ _ (some .conventional24) hrun rfl
    (secondsPanel_submits (by decide) hparse) setTimeCalls_tell rfl
  exact absurd hsubmitted.2.2 (by decide)

end SystemSettings

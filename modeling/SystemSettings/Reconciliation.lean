import SystemSettings.Panel

/-!
# Reconciliation over unreadable metadata

What `reconcile_system_time_change` writes when the read of `location.ini` under
the locality lock fails. The reads it has made by then are fixed; what it does
after them is a question about the program alone.
-/

namespace SystemSettings

variable {B : Type} {K : Common} {G : GLib B} {m : ModelId} {s s' : Memory} {panel panel' : Panel}
  {systemState : SystemTimeState} {priv : ModelPrivate}

/-! ## What has been read -/

/-- The reads of a reconciliation up to that of `location.ini`. -/
structure Readings (B : Type) : Type where
  /-- the regional context before the lock -/
  before : Option RegionalContext
  /-- the system state under the lock -/
  system : Option SystemTimeState
  /-- the regional context under the lock -/
  regional : Option RegionalContext
  /-- the policy -/
  policy : Option (TemporalPolicyV3 × Bool)
  /-- `location.ini` -/
  file : FileState B

/-- The calls that make these reads, the lock taken after the first. -/
def Readings.events (r : Readings B) : List (Event (Sys B) Unit) :=
  [⟨.detectRegional, r.before, ()⟩, ⟨.transactionBegin, true, ()⟩, ⟨.readSystemTime, r.system, ()⟩,
    ⟨.detectRegional, r.regional, ()⟩, ⟨.load, r.policy, ()⟩, ⟨.readFile .locationIni, r.file, ()⟩]

/-- `location.ini` is invalid or could not be read. -/
def Readings.Unreadable (G : GLib B) (r : Readings B) : Prop :=
  (metadataLoad G r.file).1 = .invalid ∨ (metadataLoad G r.file).1 = .ioError

/-- The reconciliation gets as far as reading: the service is there, the zone
changed or the panel follows it, and there is a model that can reload. -/
def Reads (K : Common) (m : ModelId) (s : Memory) (panel : Panel)
    (systemState : SystemTimeState) : Prop :=
  systemState.available = true ∧
    (systemState.timezone ≠ [] ∧ panel.regionalContext.timezoneId ≠ systemState.timezone ∨
      panel.followsTimezoneReference = true) ∧
    s.models m ≠ none ∧ K.policyDefault ≠ none

/-! ## What it writes -/

/-- The remembered metadata is that of the policy, and its zone is out of date:
the record is written. -/
def WritesMetadata (G : GLib B) (panel : Panel) (policy : TemporalPolicyV3)
    (system : Option SystemTimeState) : Prop :=
  locationMetadataMatchesPolicy panel (some policy) = true ∧
    ∃ locked data, system = some locked ∧ locked.timezone ≠ [] ∧
      panel.metadata.timezoneId ≠ locked.timezone ∧
      metadataValid G { panel.metadata with timezoneId := locked.timezone.take 127 } = true ∧
      G.toData { panel.metadata with timezoneId := locked.timezone.take 127 } = some data

/-- The policy has no location and the panel does not know that the metadata is
uncertain: the reference coordinate is written. -/
def WritesReference (panel : Panel) (policy : TemporalPolicyV3)
    (system : Option SystemTimeState) (regional : Option RegionalContext) : Prop :=
  panel.metadataUncertain = false ∧ policy.locationConfigured = false ∧
    ∃ locked context, system = some locked ∧ regional = some context ∧
      locked.timezone ≠ [] ∧ context.timezoneId = locked.timezone ∧
      context.hasReferenceCoordinates = true ∧
      validLocation context.referenceLatitude context.referenceLongitude = true

/-- The system and the regional context name the same zone. -/
def zonesMatch (system : Option SystemTimeState) (regional : Option RegionalContext) : Bool :=
  system.any fun locked =>
    regional.isSome && !locked.timezone.isEmpty &&
      (regional.getD .zero).timezoneId == locked.timezone

theorem zonesMatch_iff {system : Option SystemTimeState} {regional : Option RegionalContext} :
    zonesMatch system regional = true ↔ ∃ locked context, system = some locked ∧
      regional = some context ∧ locked.timezone ≠ [] ∧ context.timezoneId = locked.timezone := by
  cases system <;> cases regional <;> simp [zonesMatch]

/-- The panel after the reads. -/
def Panel.afterReads (panel : Panel) (G : GLib B) (r : Readings B) : Panel :=
  { panel with regionalContext := r.regional.getD .zero }.remember (metadataLoad G r.file)

/-- The memory after the reads. -/
def Readings.memory (r : Readings B) (m : ModelId) (priv : ModelPrivate) (s : Memory) : Memory :=
  match r.policy with
  | some x => s.setModel m (some { priv with policy := x.1, persistedPolicyPresent := x.2 })
  | none => s

/-- What is left to do under the lock after the reads. -/
def reconcileRest (G : GLib B) (m : ModelId) (r : Readings B) (panel : Panel) : SysM B Panel :=
  match r.policy with
  | some x => do
    let panel ← reconcileMetadata G (some x.1) r.system
      (refreshLocationAuthorityState (some x.1) panel)
    reconcileReference m (some x.1) (zonesMatch r.system r.regional) panel
    pure panel
  | none => pure panel

/-- A model of a panel between two callbacks. -/
def PanelModel (m : ModelId) (s : Memory) : Prop :=
  ∀ priv, s.models m = some priv → priv.store = platformTemporalPolicyStore ∧ priv.saving = false

/-- After a write that leaves it at rest, a model is one of a panel. -/
theorem panelModel_setModel {priv : ModelPrivate}
    (hst : priv.store = platformTemporalPolicyStore) (hs : priv.saving = false) :
    PanelModel m (s.setModel m (some priv)) := by
  intro priv' h
  rw [Memory.setModel_self, Option.some.injEq] at h
  subst h
  exact ⟨hst, hs⟩

/-- What the locked part does after its reads. -/
theorem reconcileLocked_yields (hm : PanelModel m s) {r : Readings B}
    {f : Panel → Memory → Prog (Sys B) Memory Panel} {rest : List (Event (Sys B) Unit)} :
    ((reconcileLocked K G m panel s).bind f).Yields (⟨.readSystemTime, r.system, ()⟩ ::
        ⟨.detectRegional, r.regional, ()⟩ :: ⟨.load, r.policy, ()⟩ ::
        ⟨.readFile .locationIni, r.file, ()⟩ :: rest) panel' s' ↔
      K.policyDefault ≠ none ∧ ∃ priv, s.models m = some priv ∧
        ((reconcileRest G m r (panel.afterReads G r) (r.memory m priv s)).bind f).Yields rest
          panel' s' := by
  obtain ⟨before, system, regional, policy, file⟩ := r
  cases hmodel : s.models m with
  | none =>
    simp [reconcileLocked, modelReload, hmodel, locationMetadataLoadStatus, metadataLoadPath]
  | some priv =>
    obtain ⟨hst, hs⟩ := hm priv hmodel
    cases hK : K.policyDefault with
    | none =>
      simp [reconcileLocked, modelReload, hmodel, hK, locationMetadataLoadStatus,
        metadataLoadPath]
    | some default =>
      simp only [reconcileLocked, modelReload, Action.bind_run, readSystemTime_run,
        regionalContextDetect_run, readModel_run, Prog.call_bind, Prog.ret_bind,
        Prog.yields_call_cons, hmodel, hst, hs, hK, platformTemporalPolicyStore, Bool.not_true,
        Option.isNone_some, Bool.or_self, Bool.false_eq_true, if_false, storeLoad_run]
      cases policy with
      | none =>
        simp [locationMetadataLoadStatus, metadataLoadPath, reconcileRest, Readings.memory,
          Panel.afterReads]
      | some x =>
        simp [locationMetadataLoadStatus, metadataLoadPath, reconcileRest, Readings.memory,
          Panel.afterReads, Prog.bind_assoc, zonesMatch, hmodel, hs, hst,
          platformTemporalPolicyStore]

/-- What a reconciliation does after the reads `r`. -/
theorem reconcile_yields (hm : PanelModel m s) {r : Readings B}
    {rest : List (Event (Sys B) Unit)} :
    (reconcileSystemTimeChange K G m systemState panel s).Yields (r.events ++ rest) panel' s' ↔
      Reads K m s panel systemState ∧ ∃ priv, s.models m = some priv ∧
        ((reconcileRest G m r (panel.afterReads G r) >>= fun panel => do
            locationMetadataTransactionEnd
            pure panel : SysM B Panel) (r.memory m priv s)).Yields rest panel' s' := by
  simp only [reconcileSystemTimeChange, Readings.events, Reads]
  by_cases havailable : systemState.available = true
  swap
  · simp [havailable]
  by_cases hchanged : systemState.timezone ≠ [] ∧
      panel.regionalContext.timezoneId ≠ systemState.timezone ∨
      panel.followsTimezoneReference = true
  swap
  · simp [havailable, hchanged]
  have henter : (!systemState.timezone.isEmpty &&
      panel.regionalContext.timezoneId != systemState.timezone ||
      panel.followsTimezoneReference) = true := by
    simpa using hchanged
  have hafter : ∀ context, { panel with regionalContext := context }.afterReads G r =
      panel.afterReads G r := fun _ => rfl
  simp only [havailable, henter, hchanged, reconcileLocked_yields hm, hafter, Bool.not_true,
    Bool.false_eq_true, if_false, if_true, Action.bind_run, regionalContextDetect_run,
    locationMetadataTransactionBegin_run, Prog.call_bind, Prog.ret_bind, List.cons_append,
    List.nil_append, Prog.yields_call_cons, true_and]
  constructor
  · rintro ⟨hK, priv, hpriv, h⟩
    exact ⟨⟨by simp [hpriv], hK⟩, priv, hpriv, h⟩
  · rintro ⟨⟨-, hK⟩, h⟩
    exact ⟨hK, h⟩

/-! ## What is written over unreadable metadata -/

section Writes

variable {policy : TemporalPolicyV3} {r : Readings B}

/-- An unreadable file changes nothing of what the panel remembers. -/
theorem Panel.afterReads_unreadable (hr : r.Unreadable G) :
    panel.afterReads G r = { panel with regionalContext := r.regional.getD .zero } := by
  unfold Readings.Unreadable at hr
  unfold Panel.afterReads
  rcases hload : metadataLoad G r.file with ⟨status, metadata⟩
  rw [hload] at hr
  cases status with
  | ok | missing => simp at hr
  | invalid | ioError => rfl

theorem reconcileMetadata_of_not {system : Option SystemTimeState}
    (h : ¬ WritesMetadata G panel policy system) :
    reconcileMetadata G (some policy) system panel s = .ret panel s := by
  cases system with
  | none => rfl
  | some locked =>
    simp only [reconcileMetadata]
    split
    · next hold =>
      simp only [Bool.and_eq_true, Bool.not_eq_true', List.isEmpty_eq_false_iff,
        bne_iff_ne] at hold
      obtain ⟨⟨hmatches, hzone⟩, hne⟩ := hold
      simp only [locationMetadataSave, metadataSavePath, Action.bind_run]
      split
      · next hvalid =>
        cases hdata : G.toData { panel.metadata with timezoneId := locked.timezone.take 127 } with
        | some data => exact absurd ⟨hmatches, locked, data, rfl, hzone, hne, hvalid, hdata⟩ h
        | none => rfl
      · rfl
    · rfl

theorem reconcileMetadata_writes {system : Option SystemTimeState}
    (h : WritesMetadata G panel policy system) :
    ∃ data k, reconcileMetadata G (some policy) system panel s =
      .call (S := Sys B) (.writeFile .locationIni data) s k := by
  obtain ⟨hmatches, locked, data, rfl, hzone, hne, hvalid, hdata⟩ := h
  refine ⟨data, fun saved s => if saved then .ret { panel with
    metadata := { panel.metadata with timezoneId := locked.timezone.take 127 } } s
    else .ret panel s, ?_⟩
  simp only at hvalid hdata
  simp [reconcileMetadata, hmatches, hzone, hne, locationMetadataSave, metadataSavePath, hvalid,
    hdata]

/-- What the panel follows after the reload. -/
theorem refresh_follows_iff : (refreshLocationAuthorityState (some policy)
      panel).followsTimezoneReference = true ↔
    panel.metadataUncertain = false ∧ locationMetadataMatchesPolicy panel (some policy) = false ∧
      (policy.locationConfigured = false ∨
        locationPolicyMatchesReference panel (some policy) = true) := by
  simp only [refreshLocationAuthorityState, Option.all_some]
  cases panel.metadataUncertain <;> simp

/-- The metadata of an unconfigured policy is nobody's. -/
theorem locationMetadataMatchesPolicy_unconfigured (h : policy.locationConfigured = false) :
    locationMetadataMatchesPolicy panel (some policy) = false := by
  simp [locationMetadataMatchesPolicy, h]

/-- The reference is published when the panel follows the zone, the zones match
and the policy has another location. -/
theorem reconcileReference_of_not {regional : Option RegionalContext}
    {system : Option SystemTimeState} (hp : panel.regionalContext = regional.getD .zero)
    (h : ¬ WritesReference panel policy system regional) :
    reconcileReference (B := B) m (some policy) (zonesMatch system regional)
      (refreshLocationAuthorityState (some policy) panel) s = .ret () s := by
  simp only [reconcileReference, Action.when_run, Action.bind_run]
  split
  · next hfollows =>
    simp only [Bool.and_eq_true, refresh_follows_iff, zonesMatch_iff] at hfollows
    obtain ⟨⟨⟨huncertain, -, hloc⟩, locked, context, rfl, rfl, hzone, hsame⟩, href⟩ := hfollows
    split
    · next hother =>
      have hconf : policy.locationConfigured = false :=
        hloc.resolve_right fun hm => by simp [hm] at hother
      simp only [modelSetLocation]
      split
      · next hvalid =>
        simp only [refreshLocationAuthorityState, hp, Option.getD_some] at href hvalid
        exact absurd ⟨huncertain, hconf, locked, context, rfl, rfl, hzone, hsame, href, hvalid⟩ h
      · rfl
    · rfl
  · rfl

/-- A setter of a panel can get to its save. -/
theorem setField_calls {edit : TemporalPolicyV3 → TemporalPolicyV3} (hm : PanelModel m s)
    (hpriv : s.models m = some priv) :
    (setField m edit s : Prog (Sys B) Memory Bool).Calls (.save (edit policy))
      (s.setModel m (some { priv with saving := true })) := by
  obtain ⟨hst, hs⟩ := hm priv hpriv
  have hraised := s.setModel_self m (some { priv with saving := true })
  simp only [setField, beginCandidate, Action.bind_run, readModel_run, hpriv, Prog.ret_bind, hst,
    hs, platformTemporalPolicyStore, Bool.not_true, Bool.or_self, Bool.false_eq_true, if_false,
    if_true, modifyModel_run, storeBeginUpdate_run, Prog.call_bind, Option.map_some]
  refine .inr ⟨true, .inr ⟨some (policy, true), ?_⟩⟩
  simp [saveCandidate]

/-- The publication of the reference can get to its save. -/
theorem reconcileReference_calls (hm : PanelModel m s) (hpriv : s.models m = some priv)
    {system : Option SystemTimeState} {regional : Option RegionalContext}
    (hp : panel.regionalContext = regional.getD .zero)
    (h : WritesReference panel policy system regional) :
    ∃ c s₁, c.IsWrite ∧ (reconcileReference (B := B) m (some policy) (zonesMatch system regional)
      (refreshLocationAuthorityState (some policy) panel) s).Calls c s₁ := by
  obtain ⟨huncertain, hconf, locked, context, rfl, rfl, hzone, hsame, href, hvalid⟩ := h
  have hfollows : (refreshLocationAuthorityState (some policy)
      panel).followsTimezoneReference = true :=
    refresh_follows_iff.mpr
      ⟨huncertain, locationMetadataMatchesPolicy_unconfigured hconf, .inl hconf⟩
  have hmatch : zonesMatch (some locked) (some context) = true :=
    zonesMatch_iff.mpr ⟨locked, context, rfl, rfl, hzone, hsame⟩
  have hother : locationPolicyMatchesReference panel (some policy) = false := by
    simp [locationPolicyMatchesReference, hconf]
  have hcontext : (refreshLocationAuthorityState (some policy) panel).regionalContext = context :=
    hp
  refine ⟨.save (assignLocation true context.referenceLatitude context.referenceLongitude policy),
    s.setModel m (some { priv with saving := true }), trivial, ?_⟩
  simp only [reconcileReference, hfollows, hmatch, hcontext, href, hother, modelSetLocation,
    hvalid, locationPolicyMatchesReference_refresh, Bool.and_self, Bool.not_false, Action.when_run,
    if_true, Action.bind_run]
  exact (setField_calls hm hpriv).bind

end Writes

/-! ## The condition -/

section Condition

variable {r : Readings B}

/-- What is left of a reconciliation that writes nothing. -/
theorem reconcileRest_of_not (hr : r.Unreadable G) (hpolicy : ∀ x, r.policy = some x →
      ¬ WritesMetadata G panel x.1 r.system ∧ ¬ WritesReference panel x.1 r.system r.regional) :
    ∃ panel', reconcileRest G m r (panel.afterReads G r) s = .ret panel' s := by
  rw [Panel.afterReads_unreadable hr]
  cases hx : r.policy with
  | none =>
    refine ⟨{ panel with regionalContext := r.regional.getD .zero }, ?_⟩
    simp only [reconcileRest, hx]
    rfl
  | some x =>
    obtain ⟨hmetadata, hreference⟩ := hpolicy x hx
    have hmetadata : ¬ WritesMetadata G (refreshLocationAuthorityState (some x.1)
        { panel with regionalContext := r.regional.getD .zero }) x.1 r.system := hmetadata
    have hreference : ¬ WritesReference { panel with regionalContext := r.regional.getD .zero }
        x.1 r.system r.regional := hreference
    refine ⟨refreshLocationAuthorityState (some x.1)
      { panel with regionalContext := r.regional.getD .zero }, ?_⟩
    simp only [reconcileRest, hx, Action.bind_run]
    rw [reconcileMetadata_of_not hmetadata]
    simp only [Prog.ret_bind, Action.bind_run]
    rw [reconcileReference_of_not rfl hreference]
    rfl

/-- A reconciliation that would write can get to a write. -/
theorem reconcileRest_calls (hr : r.Unreadable G) (hm : PanelModel m s)
    (hpriv : s.models m = some priv) {x : TemporalPolicyV3 × Bool} (hx : r.policy = some x)
    (h : WritesMetadata G panel x.1 r.system ∨ WritesReference panel x.1 r.system r.regional) :
    ∃ c s₁, c.IsWrite ∧
      (reconcileRest G m r (panel.afterReads G r) (r.memory m priv s)).Calls c s₁ := by
  rw [Panel.afterReads_unreadable hr]
  simp only [reconcileRest, Readings.memory, hx, Action.bind_run]
  generalize hcontext : { panel with regionalContext := r.regional.getD .zero } = panel₁
  have hwrites : WritesMetadata G (refreshLocationAuthorityState (some x.1) panel₁) x.1 r.system ∨
      WritesReference panel₁ x.1 r.system r.regional := by
    subst hcontext
    exact h
  have hregional : panel₁.regionalContext = r.regional.getD .zero := by
    subst hcontext
    rfl
  by_cases hmetadata : WritesMetadata G (refreshLocationAuthorityState (some x.1) panel₁) x.1
      r.system
  · obtain ⟨data, k, hcall⟩ := reconcileMetadata_writes hmetadata
    rw [hcall]
    exact ⟨.writeFile .locationIni data, _, trivial, .inl ⟨rfl, rfl⟩⟩
  · have hreference := hwrites.resolve_left hmetadata
    have hm' : PanelModel m (s.setModel m (some
        { priv with policy := x.1, persistedPolicyPresent := x.2 })) := by
      intro priv' hpriv'
      rw [Memory.setModel_self, Option.some.injEq] at hpriv'
      subst hpriv'
      exact hm priv hpriv
    rw [reconcileMetadata_of_not hmetadata]
    obtain ⟨c, s₁, hc, hcalls⟩ :=
      reconcileReference_calls (B := B) hm' (Memory.setModel_self ..) hregional hreference
    exact ⟨c, s₁, hc, hcalls.bind⟩

/-- Reading writes nothing. -/
theorem Readings.events_reads {e : Event (Sys B) Unit} (he : e ∈ r.events) : ¬ e.cmd.IsWrite := by
  simp only [events, List.mem_cons, List.not_mem_nil, or_false] at he
  rcases he with rfl | rfl | rfl | rfl | rfl | rfl <;> exact id

variable (K G m s panel systemState) in
/-- A reconciliation that makes these reads writes nothing, whatever the calls
after them answer. -/
def ReconcilesQuietly (r : Readings B) : Prop :=
  ∀ (tr : List (Event (Sys B) Unit)) (panel' : Panel) (s' : Memory),
    (reconcileSystemTimeChange K G m systemState panel s).Yields tr panel' s' →
    r.events <+: tr → ∀ e ∈ tr, ¬ e.cmd.IsWrite

/-- With these answers to its reads, a reconciliation that would write can do so. -/
theorem reconcile_writes (hm : PanelModel m s) (hr : r.Unreadable G)
    (hreads : Reads K m s panel systemState) {x : TemporalPolicyV3 × Bool}
    (hx : r.policy = some x)
    (h : WritesMetadata G panel x.1 r.system ∨ WritesReference panel x.1 r.system r.regional) :
    ∃ (tr : List (Event (Sys B) Unit)) (panel' : Panel) (s' : Memory),
      (reconcileSystemTimeChange K G m systemState panel s).Yields tr panel' s' ∧
      r.events <+: tr ∧ ∃ e ∈ tr, e.cmd.IsWrite := by
  obtain ⟨priv, hpriv⟩ := Option.ne_none_iff_exists'.mp hreads.2.2.1
  obtain ⟨c, s₁, hc, hcalls⟩ := reconcileRest_calls (s := s) hr hm hpriv hx h
  obtain ⟨rest, panel', s', hrest, e, he, rfl⟩ := Prog.Calls.yields (W := Unit) (hcalls.bind
    (f := fun panel => (do locationMetadataTransactionEnd; pure panel : SysM B Panel)))
  exact ⟨r.events ++ rest, panel', s', (reconcile_yields hm).mpr ⟨hreads, priv, hpriv, hrest⟩,
    List.prefix_append _ _, e, List.mem_append_right _ he, hc⟩

/-- A reconciliation that reads `location.ini` as invalid or not at all writes
nothing exactly when it would not have written over the metadata it remembers,
nor published the reference. -/
theorem reconcile_unreadable_iff (hm : PanelModel m s) (hr : r.Unreadable G) :
    ReconcilesQuietly K G m s panel systemState r ↔ ¬ (Reads K m s panel systemState ∧ ∃ x, r.policy = some x ∧
      (WritesMetadata G panel x.1 r.system ∨ WritesReference panel x.1 r.system r.regional)) := by
  constructor
  · rintro h ⟨hreads, x, hx, hwrites⟩
    obtain ⟨tr, panel', s', hy, hevents, e, he, hwrite⟩ := reconcile_writes hm hr hreads hx hwrites
    exact h tr panel' s' hy hevents e he hwrite
  · rintro h tr panel' s' hy ⟨rest, rfl⟩ e he
    obtain ⟨hreads, priv, hpriv, hrest⟩ := (reconcile_yields hm).mp hy
    rcases List.mem_append.mp he with he | he
    · exact Readings.events_reads he
    · -- nothing is left but to give the lock back
      have hquiet : ∃ panel₁, reconcileRest G m r (panel.afterReads G r) (r.memory m priv s) =
          .ret panel₁ (r.memory m priv s) :=
        reconcileRest_of_not hr fun x hx => not_or.mp fun hwrites => h ⟨hreads, x, hx, hwrites⟩
      obtain ⟨panel₁, hret⟩ := hquiet
      simp only [Action.bind_run, hret, Prog.ret_bind, locationMetadataTransactionEnd_run,
        Prog.call_bind, Action.pure_run, Prog.yields_call, Prog.yields_ret] at hrest
      obtain ⟨r, w, tr, hrest, hnil, -⟩ := hrest
      rw [hrest, hnil, List.mem_singleton] at he
      rw [he]
      exact id

/-! ### A change of zone over damaged metadata -/

/-- A panel that remembers a place in the zone `[1]`. -/
def rememberingPanel : Panel where
  regionalContext := ⟨[1], [1], .finite 0, .finite 0, false⟩
  metadata := ⟨[77], [], [1], .finite (-37), .finite 145⟩
  metadataPresent := true
  metadataUncertain := false
  followsTimezoneReference := false
  recoveryFailed := false

/-- A memory with the model `0`. -/
def panelMemory : Memory :=
  Memory.empty.setModel 0 (some ⟨default, platformTemporalPolicyStore, true, false⟩)

theorem panelMemory_model : PanelModel 0 panelMemory := by
  rintro priv h
  rw [panelMemory, Memory.setModel_self, Option.some.injEq] at h
  subst h
  exact ⟨rfl, rfl⟩

/-- The zone is now `[2]`, the policy has these coordinates and `location.ini` is
malformed. -/
def damagedReadings (latitude : Double) : Readings (Option LocationMetadata) where
  before := none
  system := some ⟨[2], true, false, false⟩
  regional := none
  policy := some (⟨"standard", "gregorian", false, true, latitude, .finite 145⟩, true)
  file := .contents none

theorem damagedReadings_unreadable (latitude : Double) :
    (damagedReadings latitude).Unreadable GLib.small := .inl rfl

/-- Nothing is written when the policy is elsewhere. -/
theorem reconcile_unreadable_elsewhere :
    ReconcilesQuietly Common.small GLib.small 0 panelMemory rememberingPanel
      ⟨[2], true, false, false⟩ (damagedReadings (.finite 0)) := by
  refine (reconcile_unreadable_iff panelMemory_model (damagedReadings_unreadable _)).mpr ?_
  rintro ⟨-, x, hx, hwrites⟩
  cases hx
  rcases hwrites with ⟨hmatches, -⟩ | ⟨-, hconf, -⟩
  · exact absurd hmatches (by decide +kernel)
  · exact absurd hconf (by decide)

/-- The place that the panel remembers is written over the malformed file. -/
theorem reconcile_unreadable_counterexample :
    ¬ ∀ (panel : Panel) (systemState : SystemTimeState) (r : Readings (Option LocationMetadata)),
      r.Unreadable GLib.small →
      ReconcilesQuietly Common.small GLib.small 0 panelMemory panel systemState r := by
  intro h
  have hreads : Reads Common.small 0 panelMemory rememberingPanel ⟨[2], true, false, false⟩ :=
    ⟨rfl, by decide, by simp [panelMemory], by decide⟩
  have hwrites : WritesMetadata GLib.small rememberingPanel
      ⟨"standard", "gregorian", false, true, .finite (-37), .finite 145⟩
      (some ⟨[2], true, false, false⟩) :=
    ⟨by decide +kernel, ⟨[2], true, false, false⟩, _, rfl, by decide, by decide,
      by decide +kernel, rfl⟩
  obtain ⟨tr, panel', s', hy, hevents, e, he, hwrite⟩ := reconcile_writes panelMemory_model
    (damagedReadings_unreadable (.finite (-37))) hreads rfl (.inl hwrites)
  exact h _ _ _ (damagedReadings_unreadable _) tr panel' s' hy hevents e he hwrite

end Condition

end SystemSettings

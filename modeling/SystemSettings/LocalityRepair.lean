import SystemSettings.LocalityTransactions

/-!
# Recovery and reconciliation of the locality

The other runs that touch the locality: recovery, the reconciliation with the system
time zone, and the setters of the other fields, which only pass by.
-/

namespace SystemSettings

variable {P B : Type} {K : Common} {F : PolicyFormat P} {G : GLib B} {m : ModelId}
  {round : Double → Double} {s : Memory} {d : Locality}
  {allowed : Locality → LocalityMove → Prop} {offers : Set LocalityPair}

/-! ## Recovery -/

section Recovery

variable {guard : Locality → (c : Call B) → c.Answer → Prop} {loaded : TemporalPolicyV3 × Bool}

/-- No removal of the journal fails. -/
def RemovesJournal (guard : Locality → (c : Call B) → c.Answer → Prop) : Prop :=
  ∀ d ok, guard d (.unlinkFile .locationPending) ok → ok = true

/-- What recovery promises when no removal of the journal fails. -/
def Locality.Recovered (guard : Locality → (c : Call B) → c.Answer → Prop) (d : Locality) : Prop :=
  RemovesJournal guard →
    d.pending = FileView.missing ∧ (d.place = some none → d.ini = FileView.missing)

/-- Once the journal is gone, `location.ini` goes with the location. -/
theorem recoverIni_follows (hloaded : LoadedAt K F round loaded d.place)
    (hpending : d.pending = FileView.missing) :
    ((if loaded.1.locationConfigured then pure true else locationMetadataClear : SysM B Bool)
      s).Follows (protocolMachine K F G round guard) (LocalityStep round allowed offers .recovery)
      (fun recovered _ _ d' => recovered = true → d'.Recovered guard) .idle d := by
  cases hconfigured : loaded.1.locationConfigured with
  | true =>
    intro _ _
    refine ⟨hpending, fun hplace => ?_⟩
    rw [hloaded.shown, Option.some.injEq, TemporalPolicyV3.location_eq_none, hconfigured] at hplace
    cases hplace
  | false =>
    have hplace : d.place = some none := by
      rw [hloaded.shown, TemporalPolicyV3.location_eq_none.mpr hconfigured]
    refine follows_write fun ok d₁ heffect _ => ?_
    cases ok with
    | false => exact ⟨.idle, .inr ⟨rfl, heffect⟩, fun h => absurd h Bool.false_ne_true⟩
    | true =>
      have hd₁ : d₁ = { d with ini := FileView.missing } := heffect
      subst hd₁
      exact ⟨.idle, .inl (.drop hplace), fun _ _ => ⟨hpending, fun _ => rfl⟩⟩

/-- A journal that is of no use is discarded. -/
theorem recoverDiscard_follows (hloaded : LoadedAt K F round loaded d.place)
    (hnone : ∀ record c, ¬ d.Journals record c) :
    ((do
      if ← locationMetadataDiscardStaged then
        if loaded.1.locationConfigured then pure true else locationMetadataClear
      else pure false : SysM B Bool) s).Follows (protocolMachine K F G round guard)
      (LocalityStep round allowed offers .recovery)
      (fun recovered _ _ d' => recovered = true → d'.Recovered guard) .idle d := by
  refine follows_write fun ok d₁ heffect _ => ?_
  have hd₁ : d₁ = d.unlinkPending ok := heffect
  subst hd₁
  refine ⟨.idle, .inl (.discard ok hnone), ?_⟩
  cases ok with
  | false => exact fun h => absurd h Bool.false_ne_true
  | true => exact recoverIni_follows hloaded rfl

/-- The test of recovery: the journal is about the place of the policy. -/
theorem journals_iff (hloaded : LoadedAt K F round loaded d.place) {record : LocationMetadata}
    (hpending : d.pending = (.ok, record)) :
    (loaded.1.locationConfigured && coordinateClose record.latitude loaded.1.latitude &&
      coordinateClose record.longitude loaded.1.longitude) = true ↔ ∃ c, d.Journals record c := by
  simp only [Bool.and_eq_true]
  constructor
  · rintro ⟨⟨hconfigured, hlatitude⟩, hlongitude⟩
    refine ⟨(loaded.1.latitude, loaded.1.longitude), hpending, ?_, hlatitude, hlongitude⟩
    rw [hloaded.shown]
    exact congrArg some (TemporalPolicyV3.location_eq_some.mpr ⟨hconfigured, rfl, rfl⟩)
  · rintro ⟨c, hjournals⟩
    have hlocation := Option.some.inj (hloaded.shown.symm.trans hjournals.place)
    obtain ⟨hconfigured, hlatitude, hlongitude⟩ := TemporalPolicyV3.location_eq_some.mp hlocation
    rw [hlatitude, hlongitude]
    exact ⟨⟨hconfigured, hjournals.close.1⟩, hjournals.close.2⟩

/-- Recovery under the lock. -/
theorem locationMetadataRecoverLocked_follows (hG : G.ReadsBack)
    (hview : d.pending.1 = .missing → d.pending = FileView.missing) :
    (locationMetadataRecoverLocked G s).Follows (protocolMachine K F G round guard)
      (LocalityStep round allowed offers .recovery)
      (fun recovered _ _ d' => recovered = true → d'.Recovered guard) .idle d := by
  refine follows_load (fun h => absurd h Bool.false_ne_true) fun loaded hloaded => ?_
  refine follows_load_path ?_ fun h => absurd h Bool.false_ne_true
  cases hpending : d.pending with
  | mk status staged =>
    simp only [Locality.file, hpending]
    cases status with
    | missing => exact recoverIni_follows hloaded (hview (congrArg Prod.fst hpending))
    | ioError => exact fun h => absurd h Bool.false_ne_true
    | invalid =>
      refine recoverDiscard_follows hloaded fun record c hjournals => ?_
      exact LoadStatus.noConfusion (congrArg Prod.fst (hpending.symm.trans hjournals.pending))
    | ok =>
      simp only [Action.ite_run]
      split
      · next htest =>
        obtain ⟨c, hjournals⟩ := (journals_iff hloaded hpending).mp htest
        refine (locationMetadataFinishStaged_follows hG hpending
          (LocalityStep.replay hjournals) LocalityStep.retire).mono ?_
        rintro finished s₁ q d₁ ⟨-, hfinished⟩ rfl
        obtain ⟨rfl, ok, hguard, rfl⟩ := hfinished
        intro hdurable
        obtain rfl : ok = true := hdurable _ ok hguard
        refine ⟨rfl, fun hplace => ?_⟩
        exact absurd hplace hjournals.place_ne
      · next htest =>
        refine recoverDiscard_follows hloaded fun record c hjournals => htest ?_
        obtain rfl : staged = record := congrArg Prod.snd (hpending.symm.trans hjournals.pending)
        exact (journals_iff hloaded hpending).mpr ⟨c, hjournals⟩

/-- Recovery. -/
theorem locationMetadataRecover_follows (hG : G.ReadsBack)
    (hview : d.pending.1 = .missing → d.pending = FileView.missing) :
    (locationMetadataRecover G s).Follows (protocolMachine K F G round guard)
      (LocalityStep round allowed offers .recovery)
      (fun recovered _ _ d' => recovered = true → d'.Recovered guard) .idle d := by
  refine follows_skip id fun begun => ?_
  cases begun with
  | false => exact fun h => absurd h Bool.false_ne_true
  | true =>
    refine (locationMetadataRecoverLocked_follows hG hview).bind fun recovered s₁ q d₁ h => ?_
    exact follows_skip id fun _ => h

end Recovery

/-! ## Setters of other fields -/

section Setters

variable {A : Type} {guard : Locality → (c : Call B) → c.Answer → Prop}
  {next : A → Locality → A → Locality → Prop} {q : A}

theorem modelSetClockMode_follows (hm : PanelModel m s) (clockMode : String) :
    (modelSetClockMode K m clockMode s).Follows (protocolMachine K F G round guard) next
      (fun _ _ q' d' => q' = q ∧ d' = d) q d := by
  cases hmode : validClockMode K clockMode with
  | none =>
    simp only [modelSetClockMode, hmode]
    exact ⟨rfl, rfl⟩
  | some info =>
    simp only [modelSetClockMode, hmode]
    exact setField_follows hm (location_assignClockMode info)

theorem modelSetCalendar_follows (hm : PanelModel m s) (calendarId : String) :
    (modelSetCalendar K m calendarId s).Follows (protocolMachine K F G round guard) next
      (fun _ _ q' d' => q' = q ∧ d' = d) q d := by
  simp only [modelSetCalendar, Action.ite_run]
  split
  · exact setField_follows hm (location_assignCalendar calendarId)
  · exact ⟨rfl, rfl⟩

theorem modelSetShowSeconds_follows (hm : PanelModel m s) (showSeconds : Bool) :
    (modelSetShowSeconds m showSeconds s).Follows (protocolMachine K F G round guard) next
      (fun _ _ q' d' => q' = q ∧ d' = d) q d :=
  setField_follows hm (location_assignShowSeconds showSeconds)

end Setters

/-! ## Reconciliation -/

section Reconciliation

variable (K F G round allowed) in
/-- The machine of the reconciliations. -/
abbrev reconciliationMachine : Machine (Sys B) Memory Locality :=
  protocolMachine K F G round (MoveAllowed G round allowed .reconciliation)

/-- The rewrite of `location.ini`. -/
theorem reconcileMetadata_follows (hG : G.ReadsBack) {policy : Option TemporalPolicyV3}
    {locked : Option SystemTimeState} {panel : Panel} :
    (reconcileMetadata G policy locked panel s).Follows
      (reconciliationMachine K F G round allowed) (LocalityStep round allowed offers .reconciliation)
      (fun _ s' q _ => s' = s ∧ q = .idle) .idle d := by
  cases locked with
  | none => exact ⟨rfl, rfl⟩
  | some locked =>
    simp only [reconcileMetadata, Action.ite_run]
    split
    · refine (metadataSavePath_follows hG fun _ data hparse hguard =>
        LocalityStep.rewrite _ (hguard rfl rfl _ hparse)).bind ?_
      rintro saved s q d ⟨rfl, hsaved⟩
      cases saved with
      | false => exact ⟨rfl, hsaved.1⟩
      | true => exact ⟨rfl, hsaved.1⟩
    · exact ⟨rfl, rfl⟩

/-- The publication of a reference coordinate. -/
theorem modelSetLocation_follows (hm : PanelModel m s) (latitude longitude : Double) :
    (modelSetLocation m true latitude longitude s).Follows
      (reconciliationMachine K F G round allowed) (LocalityStep round allowed offers .reconciliation)
      (fun _ _ q _ => q = .idle) .idle d := by
  simp only [modelSetLocation, Action.ite_run]
  split
  · refine (beginCandidate_follows hm).bind ?_
    rintro candidate s₁ q d ⟨-, rfl, rfl, -⟩
    cases candidate with
    | none => rfl
    | some x =>
      refine (saveCandidate_follows fun hguard => .inl
        (LocalityStep.relocate _ (hguard.2 rfl rfl (latitude, longitude) rfl))).mono ?_
      rintro saved _ q d hsaved
      cases saved with
      | false => exact hsaved.1
      | true => exact hsaved.1
  · rfl

theorem reconcileReference_follows (hm : PanelModel m s) {policy : Option TemporalPolicyV3}
    {matchesSystem : Bool} {panel : Panel} :
    (reconcileReference m policy matchesSystem panel s).Follows
      (reconciliationMachine K F G round allowed) (LocalityStep round allowed offers .reconciliation)
      (fun _ _ q _ => q = .idle) .idle d := by
  simp only [reconcileReference, Action.when_run, Action.bind_run]
  split
  · split
    · exact (modelSetLocation_follows hm _ _).bind fun _ _ _ _ h => h
    · rfl
  · rfl

/-- What the reconciliation does under the locality lock. -/
theorem reconcileLocked_follows (hG : G.ReadsBack) (hm : PanelModel m s) {panel : Panel} :
    (reconcileLocked K G m panel s).Follows (reconciliationMachine K F G round allowed)
      (LocalityStep round allowed offers .reconciliation) (fun _ _ _ _ => True) .idle d := by
  refine follows_skip id fun locked => follows_skip id fun regional => ?_
  refine modelReload_follows.bind ?_
  rintro reloaded s₁ q d ⟨hm₁, rfl, rfl⟩
  refine follows_skip id fun file => ?_
  cases reloaded with
  | false => trivial
  | true =>
    simp only [if_true, Action.bind_run, modelPolicy_run, Prog.ret_bind, Action.pure_run]
    refine (reconcileMetadata_follows hG).bind ?_
    rintro panel s₂ q d₁ ⟨rfl, rfl⟩
    exact (reconcileReference_follows (hm₁ hm)).bind fun _ _ _ _ _ => trivial

/-- The reconciliation. -/
theorem reconcileSystemTimeChange_follows (hG : G.ReadsBack) (hm : PanelModel m s) {panel : Panel}
    {systemState : SystemTimeState} :
    (reconcileSystemTimeChange K G m systemState panel s).Follows
      (reconciliationMachine K F G round allowed) (LocalityStep round allowed offers .reconciliation)
      (fun _ _ _ _ => True) .idle d := by
  simp only [reconcileSystemTimeChange, Action.ite_run]
  split
  · trivial
  refine follows_skip id fun regional => ?_
  simp only [Prog.ret_bind, Action.pure_run, Action.ite_run]
  split
  · refine follows_skip id fun begun => ?_
    cases begun with
    | false => trivial
    | true =>
      refine (reconcileLocked_follows hG hm).bind fun _ _ _ _ _ => ?_
      exact follows_skip id fun _ => trivial
  · trivial

end Reconciliation

end SystemSettings

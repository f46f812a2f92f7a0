import SystemSettings.LocalityCalls
import SystemSettings.LocationSelection
import SystemSettings.Reconciliation

/-!
# The transactions on a place

The operations of the model and of the locality files, and the transactions that are
made of them, follow the locality protocol.
-/

namespace SystemSettings

variable {P B A : Type} {K : Common} {F : PolicyFormat P} {G : GLib B} {m : ModelId}
  {t : TokenId} {round : Double → Double} {s : Memory} {d : Locality}

/-! ## The locality files -/

section Files

variable {guard : Locality → (c : Call B) → c.Answer → Prop}
  {next : A → Locality → A → Locality → Prop} {q q' : A} {record : LocationMetadata}

/-- A record is saved in a locality file. -/
theorem metadataSavePath_follows (hG : G.ReadsBack) {f : LocalityFile}
    (hwrite : metadataValid G record = true → ∀ data, metadataParse G data = some record →
      guard d (.writeFile f data) true → next q d q' (d.write f (.ok, record))) :
    (metadataSavePath G f record s).Follows (protocolMachine K F G round guard) next
      (fun saved s' q₁ d₁ => s' = s ∧
        if saved then q₁ = q' ∧ d₁ = d.write f (.ok, record) else q₁ = q ∧ d₁ = d) q d := by
  unfold metadataSavePath
  split
  · next hvalid =>
    cases hdata : G.toData record with
    | none => exact ⟨rfl, rfl, rfl⟩
    | some data =>
      have hparse := hG record data hvalid hdata
      refine follows_write fun ok d₁ heffect hguard => ?_
      cases ok with
      | false => exact ⟨q, .inr ⟨rfl, heffect⟩, rfl, rfl, heffect⟩
      | true =>
        have hd₁ : d₁ = d.write f (.ok, record) := by
          simpa only [Locality.Effect, if_true, metadataLoad, hparse] using heffect
        subst hd₁
        exact ⟨q', .inl (hwrite hvalid data hparse hguard), rfl, rfl, rfl⟩
  · exact ⟨rfl, rfl, rfl⟩

/-- The journal is published, or `location.ini` stays. -/
theorem locationMetadataFinishStaged_follows (hG : G.ReadsBack)
    (hpending : d.pending = (.ok, record))
    (hpublish : next q d q' (d.write .locationIni (.ok, record)))
    (hretire : ∀ ok, next q' (d.write .locationIni (.ok, record)) q'
      ((d.write .locationIni (.ok, record)).unlinkPending ok)) :
    (locationMetadataFinishStaged G s).Follows (protocolMachine K F G round guard) next
      (fun finished s' q₁ d₁ => s' = s ∧
        if finished then q₁ = q' ∧ ∃ ok,
          guard (d.write .locationIni (.ok, record)) (.unlinkFile .locationPending) ok ∧
            d₁ = (d.write .locationIni (.ok, record)).unlinkPending ok
        else q₁ = q ∧ d₁ = d) q d := by
  refine follows_load_path ?_ ⟨rfl, rfl, rfl⟩
  simp only [Locality.file, hpending, Action.bind_run]
  refine (metadataSavePath_follows hG fun _ _ _ _ => hpublish).bind ?_
  rintro saved _ q₁ d₁ ⟨rfl, hsaved⟩
  cases saved with
  | false => exact ⟨rfl, hsaved⟩
  | true =>
    obtain ⟨rfl, rfl⟩ := hsaved
    refine follows_write fun ok d₂ heffect hguard => ?_
    have hd₂ : d₂ = (d.write .locationIni (.ok, record)).unlinkPending ok := heffect
    subst hd₂
    exact ⟨_, .inl (hretire ok), rfl, rfl, ok, hguard, rfl⟩

end Files

/-! ## The model -/

section Model

variable {guard : Locality → (c : Call B) → c.Answer → Prop}
  {next : A → Locality → A → Locality → Prop} {q q' : A}

/-- The lock is released, and nothing else changes. -/
theorem releaseUpdateLock_follows : (releaseUpdateLock m s).Follows
    (protocolMachine K F G round guard) next
    (fun _ s' q' d' => s'.tokens = s.tokens ∧ q' = q ∧ d' = d) q d := by
  cases hm : s.models m with
  | none =>
    simp only [releaseUpdateLock, Action.bind_run, readModel_run, Prog.ret_bind, hm]
    exact ⟨rfl, rfl, rfl⟩
  | some priv =>
    simp only [releaseUpdateLock, Action.bind_run, readModel_run, Prog.ret_bind, hm,
      Action.when_run]
    split
    · split
      · exact follows_skip id fun _ => ⟨rfl, rfl, rfl⟩
      · exact ⟨rfl, rfl, rfl⟩
    · exact ⟨rfl, rfl, rfl⟩

/-- The policy is read again. -/
theorem modelReload_follows : (modelReload K m s).Follows (protocolMachine K F G round guard) next
    (fun _ s' q' d' => (PanelModel m s → PanelModel m s') ∧ q' = q ∧ d' = d) q d := by
  cases hpriv : s.models m with
  | none =>
    simp only [modelReload, Action.bind_run, readModel_run, Prog.ret_bind, hpriv]
    exact ⟨id, rfl, rfl⟩
  | some priv =>
    simp only [modelReload, Action.bind_run, readModel_run, Prog.ret_bind, hpriv, Action.ite_run]
    split
    · exact ⟨id, rfl, rfl⟩
    · refine follows_load ⟨id, rfl, rfl⟩ fun loaded _ => ⟨fun hm => ?_, rfl, rfl⟩
      simp only [hpriv, Option.map_some]
      exact panelModel_setModel (hm priv hpriv).1 (hm priv hpriv).2

theorem modelFinishLocationUpdate_follows : (modelFinishLocationUpdate m t s).Follows
    (protocolMachine K F G round guard) next (fun _ _ q' d' => q' = q ∧ d' = d) q d := by
  cases hm : s.models m with
  | none =>
    simp only [modelFinishLocationUpdate, Action.bind_run, readModel_run, Prog.ret_bind, hm]
    exact ⟨rfl, rfl⟩
  | some priv =>
    simp only [modelFinishLocationUpdate, Action.bind_run, readModel_run, Prog.ret_bind, hm,
      readToken_run, Action.ite_run]
    split
    · refine releaseUpdateLock_follows.bind ?_
      rintro _ s' q d ⟨-, rfl, rfl⟩
      exact ⟨rfl, rfl⟩
    · exact ⟨rfl, rfl⟩

/-- A candidate is at the place of the policy. -/
theorem beginCandidate_follows (hm : PanelModel m s) : (beginCandidate m s).Follows
    (protocolMachine K F G round guard) next
    (fun candidate s' q' d' => s'.tokens = s.tokens ∧ q' = q ∧ d' = d ∧
      ∀ x, candidate = some x → LoadedAt K F round x d.place) q d := by
  cases hpriv : s.models m with
  | none =>
    simp only [beginCandidate, Action.bind_run, readModel_run, Prog.ret_bind, hpriv]
    exact ⟨rfl, rfl, rfl, fun x hx => absurd hx.symm (Option.some_ne_none x)⟩
  | some priv =>
    have hl : priv.store.Locking := (hm priv hpriv).1 ▸ platformTemporalPolicyStore_locking
    refine follows_of_under (Prog.under_of_told fun tr candidate s' hy => ?_)
    rcases beginCandidate_yields hpriv hl hy with ⟨rfl, rfl, rfl⟩ | ⟨-, hy⟩
    · exact ⟨by simp, fun _ => ⟨rfl, rfl, rfl, fun x hx => absurd hx.symm (Option.some_ne_none x)⟩⟩
    rcases hy with ⟨w₁, rfl, rfl, rfl⟩ | ⟨w₁, w₂, w₃, rfl, rfl, rfl⟩ | ⟨x, w₁, w₂, rfl, rfl, rfl⟩
    · refine ⟨by simp [Call.IsWrite], fun _ => ⟨rfl, rfl, rfl, fun x hx => ?_⟩⟩
      exact absurd hx.symm (Option.some_ne_none x)
    · refine ⟨by simp [Call.IsWrite], fun _ => ⟨rfl, rfl, rfl, fun x hx => ?_⟩⟩
      exact absurd hx.symm (Option.some_ne_none x)
    · refine ⟨by simp [Call.IsWrite], fun htold => ⟨rfl, rfl, rfl, fun x' hx' => ?_⟩⟩
      cases hx'
      exact (htold (event .load (some x) w₂) (.tail _ (.head _))).2 x rfl

/-- A candidate is saved, or nothing happens. -/
theorem saveCandidate_follows {candidate : TemporalPolicyV3}
    (hsaved : guard d (.save candidate) true →
      next q d q' { d with place := some (candidate.location.map (Coordinates.rounded round)) } ∨
        q' = q ∧ some (candidate.location.map (Coordinates.rounded round)) = d.place) :
    (saveCandidate m candidate s).Follows (protocolMachine K F G round guard) next
      (fun saved _ q₁ d₁ => if saved then q₁ = q' ∧
          d₁ = { d with place := some (candidate.location.map (Coordinates.rounded round)) }
        else q₁ = q ∧ d₁ = d) q d := by
  cases hm : s.models m with
  | none =>
    simp only [saveCandidate, Action.bind_run, readModel_run, Prog.ret_bind, hm]
    exact ⟨rfl, rfl⟩
  | some priv =>
    simp only [saveCandidate, Action.bind_run, readModel_run, Prog.ret_bind, hm, Action.ite_run]
    split
    · exact ⟨rfl, rfl⟩
    · refine follows_save ?_ fun hguard => ⟨q', hsaved hguard, ?_⟩
      · refine releaseUpdateLock_follows.bind ?_
        rintro _ s' q₁ d₁ ⟨-, rfl, rfl⟩
        exact ⟨rfl, rfl⟩
      · refine releaseUpdateLock_follows.bind ?_
        rintro _ s' q₁ d₁ ⟨-, rfl, rfl⟩
        exact ⟨rfl, rfl⟩

/-- A setter that leaves the place where it is. -/
theorem setField_follows (hm : PanelModel m s) {edit : TemporalPolicyV3 → TemporalPolicyV3}
    (hedit : ∀ policy, (edit policy).location = policy.location) :
    (setField m edit s).Follows (protocolMachine K F G round guard) next
      (fun _ _ q' d' => q' = q ∧ d' = d) q d := by
  refine (beginCandidate_follows hm).bind ?_
  rintro candidate s₁ q d ⟨-, rfl, rfl, hloaded⟩
  cases candidate with
  | none => exact ⟨rfl, rfl⟩
  | some x =>
    have hx := hloaded x rfl
    have hplace : some ((edit x.1).location.map (Coordinates.rounded round)) = d.place := by
      rw [hedit, hx.rounded, hx.shown]
    refine (saveCandidate_follows fun _ => .inr ⟨rfl, hplace⟩).mono ?_
    rintro saved _ q₁ d₁ hsaved
    cases saved with
    | false => exact hsaved
    | true =>
      refine ⟨hsaved.1, hsaved.2.trans ?_⟩
      rw [hplace]

/-- A policy that was loaded is put back, or nothing happens. -/
theorem undo_follows (clear : Bool) {before : Option (Option Coordinates)}
    {loaded : TemporalPolicyV3 × Bool} (hloaded : LoadedAt K F round loaded before)
    (hnext : next q d q' { d with place := before }) :
    ((if loaded.2 then storeSave loaded.1
      else if clear then storeClear else pure false : SysM B Bool) s).Follows
      (protocolMachine K F G round guard) next
      (fun restored s' q₁ d₁ => s' = s ∧
        if restored then q₁ = q' ∧ d₁ = { d with place := before } else q₁ = q ∧ d₁ = d) q d := by
  cases hfound : loaded.2 with
  | true =>
    have hplace : some (loaded.1.location.map (Coordinates.rounded round)) = before := by
      rw [hloaded.rounded, hloaded.shown]
    refine follows_save ⟨rfl, rfl, rfl⟩ fun _ => ?_
    rw [hplace]
    exact ⟨q', .inl hnext, rfl, rfl, rfl⟩
  | false =>
    cases clear with
    | false => exact ⟨rfl, rfl, rfl⟩
    | true =>
      refine follows_write fun ok d₁ heffect _ => ?_
      cases ok with
      | false => exact ⟨q, .inr ⟨rfl, heffect⟩, rfl, rfl, heffect⟩
      | true =>
        have hd₁ : d₁ = { d with place := before } := by
          simpa only [Locality.Effect, if_true, hloaded.absent hfound] using heffect
        subst hd₁
        exact ⟨q', .inl hnext, rfl, rfl, rfl⟩

end Model

/-! ## Choosing a place -/

theorem validLocation_of_metadataValid {record : LocationMetadata}
    (h : metadataValid G record = true) :
    validLocation record.latitude record.longitude = true := by
  simp only [metadataValid, Bool.and_eq_true] at h
  obtain ⟨⟨⟨⟨⟨⟨-, hlatitude⟩, hlongitude⟩, hsouth⟩, hnorth⟩, hwest⟩, heast⟩ := h
  simp only [validLocation, Bool.and_eq_true]
  exact ⟨⟨⟨⟨⟨hlatitude, hlongitude⟩, hsouth⟩, hnorth⟩, hwest⟩, heast⟩

section Transaction

variable {allowed : Locality → LocalityMove → Prop} {offers : Set LocalityPair}
  {record : LocationMetadata} {before : Option (Option Coordinates)}

variable (K F G round allowed) in
/-- The machine of the transactions. -/
abbrev transactionMachine : Machine (Sys B) Memory Locality :=
  protocolMachine K F G round (MoveAllowed G round allowed .transaction)

/-- A record goes to the journal. -/
theorem locationMetadataStage_follows (hG : G.ReadsBack) (hoffer : record.pair round ∈ offers) :
    (locationMetadataStage G record s).Follows (transactionMachine K F G round allowed)
      (LocalityStep round allowed offers .transaction)
      (fun staged s' q d' => s' = s ∧ if staged then q = .staged record d.place ∧
          d' = d.write .locationPending (.ok, record) else q = .idle ∧ d' = d) .idle d := by
  refine metadataSavePath_follows hG fun hvalid data hparse hguard => ?_
  exact .stage record hoffer (validLocation_of_metadataValid hvalid) (hguard rfl rfl record hparse)

/-- The journal of a transaction that failed is discarded. -/
theorem locationMetadataDiscardStaged_follows {q : RunState}
    (hq : q = .staged record before ∨ q = .undone record before) :
    (locationMetadataDiscardStaged s).Follows (transactionMachine K F G round allowed)
      (LocalityStep round allowed offers .transaction) (fun _ _ _ _ => True) q d := by
  refine follows_write fun ok d₁ heffect hguard => ?_
  have hd₁ : d₁ = d.unlinkPending ok := heffect
  subst hd₁
  exact ⟨.idle, .inl (.giveUp ok hq (hguard rfl)), trivial⟩

/-- The policy that a token remembers was loaded at this place. -/
def Memory.Remembers (K : Common) (F : PolicyFormat P) (round : Double → Double) (s : Memory)
    (t : TokenId) (before : Option (Option Coordinates)) : Prop :=
  LoadedAt K F round
    ((s.tokens t).previousPolicy, (s.tokens t).previousPersistedPolicyPresent) before

/-- The policy goes to the place of the journal. -/
theorem modelBeginLocationUpdate_follows (hm : PanelModel m s) (hplace : d.place = before) :
    (modelBeginLocationUpdate m true record.latitude record.longitude t s).Follows
      (transactionMachine K F G round allowed) (LocalityStep round allowed offers .transaction)
      (fun begun s' q d' => if begun then q = .saved record before ∧
          d' = { d with place := (record.pair round).1 } ∧ s'.Remembers K F round t before
        else q = .staged record before ∧ d' = d) (.staged record before) d := by
  cases hpriv : s.models m with
  | none =>
    simp only [modelBeginLocationUpdate, Action.bind_run, readModel_run, Prog.ret_bind, hpriv]
    exact ⟨rfl, rfl⟩
  | some priv =>
    simp only [modelBeginLocationUpdate, Action.bind_run, readModel_run, Prog.ret_bind, hpriv,
      readToken_run, Action.ite_run]
    split
    · exact ⟨rfl, rfl⟩
    refine (beginCandidate_follows hm).bind ?_
    rintro candidate s₁ q d ⟨-, rfl, rfl, hloaded⟩
    cases candidate with
    | none => exact ⟨rfl, rfl⟩
    | some x =>
      refine follows_save ?_ fun _ => ⟨.saved record before, .inl .save, ?_⟩
      · refine releaseUpdateLock_follows.bind ?_
        rintro _ s₂ q d ⟨-, rfl, rfl⟩
        exact ⟨rfl, rfl⟩
      · refine ⟨rfl, rfl, ?_⟩
        have hx := hloaded x rfl
        rw [hplace] at hx
        simpa [Memory.Remembers] using hx

/-- The policy goes back. -/
theorem modelRollbackLocationUpdate_follows (hremembers : s.Remembers K F round t before) :
    (modelRollbackLocationUpdate m t s).Follows (transactionMachine K F G round allowed)
      (LocalityStep round allowed offers .transaction)
      (fun restored _ q _ => if restored then q = .undone record before
        else q = .saved record before) (.saved record before) d := by
  cases hpriv : s.models m with
  | none =>
    simp only [modelRollbackLocationUpdate, Action.bind_run, readModel_run, Prog.ret_bind, hpriv]
    rfl
  | some priv =>
    simp only [modelRollbackLocationUpdate, Action.bind_run, readModel_run, Prog.ret_bind, hpriv,
      readToken_run]
    split
    · refine (undo_follows priv.store.clear hremembers .undo).bind ?_
      rintro restored s₁ q d ⟨rfl, hrestored⟩
      have hq : if restored then q = .undone record before else q = .saved record before := by
        cases restored with
        | false => exact hrestored.1
        | true => exact hrestored.1
      cases restored with
      | false | true =>
        refine releaseUpdateLock_follows.bind ?_
        rintro _ s₂ q d ⟨-, rfl, rfl⟩
        exact hq
    · rfl

/-- From the staged journal to the end. -/
theorem commitStaged_follows (hG : G.ReadsBack) (hm : PanelModel m s) {panel : Panel}
    (hplace : d.place = before) (hpending : d.pending = (.ok, record)) :
    (commitStaged K G m t record panel s).Follows (transactionMachine K F G round allowed)
      (LocalityStep round allowed offers .transaction) (fun _ _ _ _ => True)
      (.staged record before) d := by
  have hm' : PanelModel m (s.setToken t LocationUpdate.init) := hm
  simp only [commitStaged, Action.bind_run, writeToken_run, Prog.ret_bind]
  refine (modelBeginLocationUpdate_follows hm' hplace).bind ?_
  rintro begun s₁ q d₁ hbegun
  cases begun with
  | false =>
    obtain ⟨rfl, -⟩ := hbegun
    refine (locationMetadataDiscardStaged_follows (.inl rfl)).bind fun _ _ _ _ _ => ?_
    exact follows_skip id fun _ => trivial
  | true =>
    obtain ⟨rfl, rfl, hremembers⟩ := hbegun
    have hjournal : ({ d with place := (record.pair round).1 } : Locality).pending =
        (.ok, record) := hpending
    refine (locationMetadataFinishStaged_follows hG hjournal LocalityStep.publish
      LocalityStep.retire).bind ?_
    rintro finished s₂ q d₂ ⟨rfl, hfinished⟩
    cases finished with
    | true =>
      refine modelFinishLocationUpdate_follows.bind fun ok s₃ q d _ => ?_
      cases ok with
      | false | true => exact follows_skip id fun _ => trivial
    | false =>
      obtain ⟨rfl, rfl⟩ := hfinished
      refine (modelRollbackLocationUpdate_follows hremembers).bind ?_
      rintro restored s₃ q d₃ hrestored
      cases restored with
      | true =>
        refine (locationMetadataDiscardStaged_follows (.inr hrestored)).bind fun _ _ _ _ _ => ?_
        exact follows_skip id fun _ => trivial
      | false =>
        refine modelReload_follows.bind fun _ _ _ _ _ => ?_
        exact follows_skip id fun _ => trivial

theorem loadAuthoritativeLocationMetadata_follows {q : RunState} :
    (loadAuthoritativeLocationMetadata G s).Follows (transactionMachine K F G round allowed)
      (LocalityStep round allowed offers .transaction)
      (fun _ s' q' d' => s' = s ∧ q' = q ∧ d' = d) q d := by
  refine follows_load_path ?_ ⟨rfl, rfl, rfl⟩
  obtain ⟨status, metadata⟩ := d.file .locationIni
  cases status <;> exact ⟨rfl, rfl, rfl⟩

/-- The transaction of both commits. -/
theorem commitLocation_follows (hG : G.ReadsBack) (hm : PanelModel m s) {panel : Panel}
    (hoffers : ∀ system, (record.inZone system).pair round ∈ offers) :
    (commitLocation K G m t record panel s).Follows (transactionMachine K F G round allowed)
      (LocalityStep round allowed offers .transaction) (fun _ _ _ _ => True) .idle d := by
  refine follows_skip id fun begun => ?_
  cases begun with
  | false => trivial
  | true =>
    refine loadAuthoritativeLocationMetadata_follows.bind ?_
    rintro loaded s q d ⟨rfl, rfl, rfl⟩
    cases loaded with
    | none => exact follows_skip id fun _ => trivial
    | some previous =>
      refine follows_skip id fun system => ?_
      refine (locationMetadataStage_follows hG (hoffers system)).bind ?_
      rintro staged s q d₁ ⟨rfl, hstaged⟩
      cases staged with
      | false => exact follows_skip id fun _ => trivial
      | true =>
        obtain ⟨rfl, rfl⟩ := hstaged
        exact commitStaged_follows hG hm rfl rfl

end Transaction

end SystemSettings

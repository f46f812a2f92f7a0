import SystemSettings.NativeStore
import SystemSettings.PanelControls
import SystemSettings.PolicyRepresentation

/-!
# The desktop and the policy

The Date & Time panel mirrors its policy to two keys of the desktop, and takes the
changes that other programs make to these keys back into the policy. Both directions cross:
other programs write keys and policy documents at any time, a change is only delivered when
the panel is idle, and reads and writes fail.

* `deskProgram`: the code of the store behind a call of the panel.
* `Moves`: the steps of a panel at its desk, in any order.
* `Moves.trusted`: what every step keeps of the trust in the panel's policy.
-/

namespace SystemSettings

open NativeStore Relation

variable {B α β : Type} {K : Common} {G : GLib B} {m : ModelId}

/-! ## Calls of the panel -/

variable (K) in
/-- The code of the store behind a call. -/
def deskProgram : (c : Call B) → Option (StoreM c.Answer)
  | .load => some (NativeStore.platformLoad K)
  | .save policy => some (platformSave policy)
  | .clear => some platformClear
  | .compatibilityMatches policy => some (platformCompatibilityMatches policy)
  | .clockUse24h => some (panelGetBoolean .clockUse24h)
  | .clockShowSeconds => some (panelGetBoolean .clockShowSeconds)
  | _ => none

namespace NativeStore.Desk

variable (K) in
/-- A call of the panel is a run of the code behind it; without such code the desk drifts. -/
def Answers (d : Desk) (e : Event (Sys B) Desk) : Prop :=
  match deskProgram K e.cmd with
  | some prog => ∃ tr, (prog ()).Exec (Prog.quiet (Desk.Step K)) d tr e.resp () e.world
  | none => d.Drift e.world

variable {d d' : Desk}

theorem Answers.load
    (hcopy : ∀ use24h, K.copyClockMode (nativeClockModeId use24h) = nativeClockModeId use24h)
    {loaded : Option (TemporalPolicyV3 × Bool)} (h : d.Answers (B := B) K ⟨.load, loaded, d'⟩) :
    d.Drift d' ∧ ∀ x p, loaded = some (x, p) → ∀ y q key, d.Fits y q key → d'.Fits x p key := by
  obtain ⟨tr, hx⟩ := h
  exact (platformLoad_makes hcopy d).exec hx

theorem Answers.save {policy : TemporalPolicyV3} {saved : Bool}
    (h : d.Answers (B := B) K ⟨.save policy, saved, d'⟩) :
    if saved then ∀ key, d'.Fits policy true key else d.Drift d' := by
  obtain ⟨tr, hx⟩ := h
  exact (platformSave_makes policy d).exec hx

theorem Answers.clear {cleared : Bool} (h : d.Answers (B := B) K ⟨.clear, cleared, d'⟩) :
    if cleared then ∀ x p key, d.Fits x p key → d'.Fits x false key else d.Drift d' := by
  obtain ⟨tr, hx⟩ := h
  exact (platformClear_makes d).exec hx

/-- What a key is said to be. -/
theorem Answers.clockUse24h {value : Option Bool}
    (h : d.Answers (B := B) K ⟨.clockUse24h, value, d'⟩) :
    d.Drift d' ∧ ReadsKey .clockUse24h d' value := by
  obtain ⟨tr, hx⟩ := h
  exact (panelGetBoolean_makes .clockUse24h d).exec hx

theorem Answers.clockShowSeconds {value : Option Bool}
    (h : d.Answers (B := B) K ⟨.clockShowSeconds, value, d'⟩) :
    d.Drift d' ∧ ReadsKey .clockShowSeconds d' value := by
  obtain ⟨tr, hx⟩ := h
  exact (panelGetBoolean_makes .clockShowSeconds d).exec hx

/-- The calls that may change the policy. -/
def Publishes : Call B → Prop
  | .save _ | .clear => True
  | _ => False

/-- Any other call only lets the desk drift. -/
theorem Answers.drift
    (hcopy : ∀ use24h, K.copyClockMode (nativeClockModeId use24h) = nativeClockModeId use24h)
    {c : Call B} {r : c.Answer} (h : d.Answers K ⟨c, r, d'⟩) (hc : ¬ Publishes c) :
    d.Drift d' := by
  cases c with
  | save | clear => exact absurd trivial hc
  | load => exact (h.load hcopy).1
  | compatibilityMatches policy =>
    obtain ⟨tr, hx⟩ := h
    exact ((platformCompatibilityMatches_makes policy d).exec hx).1
  | clockUse24h => exact h.clockUse24h.1
  | clockShowSeconds => exact h.clockShowSeconds.1
  | _ => exact h

end NativeStore.Desk

variable (K) in
/-- The runs of the panel at its desk. -/
abbrev deskMachine : Machine (Sys B) Memory Desk := Prog.quiet (Desk.Answers K)

/-! ## Operations of the model -/

/-- At rest, and the policy that a model holds can be trusted. -/
structure Trusted (m : ModelId) (s : Memory) (d : Desk) : Prop where
  resting : Resting m s
  fits : ∀ priv, s.models m = some priv →
    ∀ key, d.Fits priv.policy priv.persistedPolicyPresent key

/-- A location update is open: the policy it saved can be trusted, and the one it would put
back says the same of the keys. -/
def OpenAt (m : ModelId) (t : TokenId) (s : Memory) (d : Desk) : Prop :=
  ∃ priv, ModelOp.Open s m t priv ∧ priv.store.Locking ∧
    (∀ key, d.Fits priv.policy priv.persistedPolicyPresent key) ∧
    ∀ key : Key, key.Same priv.policy (s.tokens t).previousPolicy

section Operations

variable {s : Memory} {d d' : Desk} {t : TokenId}

theorem Trusted.drift (h : Trusted m s d) (hd : d.Drift d') : Trusted m s d' :=
  ⟨h.resting, fun priv hm key => (h.fits priv hm key).drift (hd.key key)⟩

theorem Trusted.of_models {s' : Memory} (h : Trusted m s d) (hs : s'.models = s.models) :
    Trusted m s' d where
  resting priv hm := h.resting priv (hs ▸ hm)
  fits priv hm := h.fits priv (hs ▸ hm)

theorem OpenAt.drift (h : OpenAt m t s d) (hd : d.Drift d') : OpenAt m t s d' := by
  obtain ⟨priv, hopen, hl, hfits, hsame⟩ := h
  exact ⟨priv, hopen, hl, fun key => (hfits key).drift (hd.key key), hsame⟩

/-- A model that holds a policy that can be trusted. -/
theorem Trusted.of_model {priv : ModelPrivate} (hm : s.models m = some priv)
    (hl : priv.store.Locking) (hs : priv.saving = false)
    (hfits : ∀ key, d.Fits priv.policy priv.persistedPolicyPresent key) : Trusted m s d where
  resting := .of_model hm hl hs
  fits priv' hm' := by
    obtain rfl := Option.some.inj (hm.symm.trans hm')
    exact hfits

variable
  (hcopy : ∀ use24h, K.copyClockMode (nativeClockModeId use24h) = nativeClockModeId use24h)

include hcopy

/-- A setter publishes a policy that can be trusted, or nothing. -/
theorem setField_leads (op : ModelOp) {edit : TemporalPolicyV3 → TemporalPolicyV3}
    (hc : op.change K = some edit) (hr : Resting m s) :
    (setField m edit s).Leads (deskMachine (B := B) K) (fun ok s' d' =>
      (ok = false ∧ s' = s ∧ d.Drift d') ∨ ok = true ∧ Trusted m s' d') d := by
  refine Prog.leads_iff.mpr fun tr ok s' d' hx => ?_
  obtain ⟨hy, hpath⟩ := Prog.exec_quiet.mp hx
  cases setField_outcome (fun priv hm => (hr priv hm).1) hc hy with
  | refused =>
    obtain rfl := hpath
    exact .inl ⟨rfl, rfl, .refl _⟩
  | lockRefused priv _ w hm hs htakes =>
    obtain ⟨hlock, rfl⟩ := hpath
    exact .inl ⟨rfl, rfl, hlock.drift hcopy id⟩
  | loadFailed priv _ w₁ w₂ w₃ hm hs htakes =>
    obtain ⟨hlock, hload, hend, rfl⟩ := hpath
    exact .inl ⟨rfl, rfl, ((hlock.drift hcopy id).trans (hload.drift hcopy id)).trans
      (hend.drift hcopy id)⟩
  | saveFailed priv _ edit x w₁ w₂ w₃ w₄ hm hs hc =>
    obtain ⟨hlock, hload, hsave, hend, rfl⟩ := hpath
    have hread := (hlock.drift hcopy id).trans (hload.drift hcopy id)
    exact .inl ⟨rfl, rfl, (hread.trans hsave.save).trans (hend.drift hcopy id)⟩
  | saved priv _ edit x w₁ w₂ w₃ w₄ hm hs hc =>
    obtain ⟨hlock, hload, hsave, hend, rfl⟩ := hpath
    refine .inr ⟨rfl, .of_model (Memory.setModel_self ..) (hr priv hm).1 hs fun key => ?_⟩
    exact (hsave.save key).drift ((hend.drift hcopy id).key key)
  | _ => cases hc

/-- A reload publishes a policy that can be trusted like the one before. -/
theorem modelReload_leads (h : Trusted m s d) :
    (modelReload K m s).Leads (deskMachine (B := B) K) (fun _ s' d' => Trusted m s' d') d := by
  cases hm : s.models m with
  | none => simpa [modelReload, hm] using h
  | some priv =>
    obtain ⟨hl, hs⟩ := h.resting priv hm
    cases hK : K.policyDefault with
    | none => simpa [modelReload, hm, hK] using h
    | some policy =>
      simp only [modelReload, Action.bind_run, readModel_run, hm, Prog.ret_bind, hs, hl.load, hK,
        Bool.not_true, Bool.or_self, Option.isNone_some, Bool.false_eq_true, if_false]
      refine Prog.Leads.call fun loaded d' hload => ?_
      cases loaded with
      | none => exact h.drift (hload.drift hcopy id)
      | some x =>
        simp only [Prog.ret_bind, Action.bind_run, modifyModel_run, hm, Option.map_some]
        refine Trusted.of_model (Memory.setModel_self ..) hl hs fun key => ?_
        exact (hload.load hcopy).2 x.1 x.2 rfl _ _ key (h.fits priv hm key)

omit hcopy in
/-- The location is no key of the desktop. -/
theorem assignLocation_sameKey (configured : Bool) (latitude longitude : Double)
    (policy : TemporalPolicyV3) (key : Key) :
    key.Same (assignLocation configured latitude longitude policy) policy := by
  cases key <;> rfl

/-- A location update that begins is open. -/
theorem modelBeginLocationUpdate_leads {configured : Bool} {latitude longitude : Double}
    (h : Trusted m s d) :
    (modelBeginLocationUpdate m configured latitude longitude t s).Leads (deskMachine (B := B) K)
      (fun begun s' d' => if begun then OpenAt m t s' d' else Trusted m s' d') d := by
  refine Prog.leads_iff.mpr fun tr begun s' d' hx => ?_
  obtain ⟨hy, hpath⟩ := Prog.exec_quiet.mp hx
  have hl : ∀ priv, s.models m = some priv → priv.store.Locking :=
    fun priv hm => (h.resting priv hm).1
  cases modelBeginLocationUpdate_outcome (K := K) hl hy with
  | refused =>
    obtain rfl := hpath
    exact h
  | lockRefused priv _ w hm hs htakes =>
    obtain ⟨hlock, rfl⟩ := hpath
    exact h.drift (hlock.drift hcopy id)
  | loadFailed priv _ w₁ w₂ w₃ hm hs htakes =>
    obtain ⟨hlock, hload, hend, rfl⟩ := hpath
    exact h.drift (((hlock.drift hcopy id).trans (hload.drift hcopy id)).trans
      (hend.drift hcopy id))
  | beginFailed priv _ _ _ _ x w₁ w₂ w₃ w₄ hm hs ht =>
    obtain ⟨hlock, hload, hsave, hend, rfl⟩ := hpath
    have hread := (hlock.drift hcopy id).trans (hload.drift hcopy id)
    exact (h.drift ((hread.trans hsave.save).trans (hend.drift hcopy id))).of_models rfl
  | begun priv _ _ _ _ x w₁ w₂ w₃ hm hs ht =>
    obtain ⟨hlock, hload, hsave, rfl⟩ := hpath
    let published : ModelPrivate := { priv with
      policy := assignLocation configured latitude longitude x.1
      persistedPolicyPresent := true
      saving := true }
    refine ⟨published, ⟨by simp [published], rfl, by simp, by simp⟩, hl priv hm, hsave.save, ?_⟩
    intro key
    simpa using assignLocation_sameKey configured latitude longitude x.1 key
  | saveFailed _ _ _ _ _ _ _ _ _ _ hc => cases hc
  | saved _ _ _ _ _ _ _ _ _ _ hc => cases hc

theorem releaseUpdateLock_leads {priv : ModelPrivate} (hm : s.models m = some priv)
    (hl : priv.store.Locking) (hs : priv.saving = true) :
    (releaseUpdateLock m s).Leads (deskMachine (B := B) K) (fun _ s' d' =>
      s' = s.setModel m (some { priv with saving := false }) ∧ d.Drift d') d := by
  simp only [releaseUpdateLock, Action.bind_run, readModel_run, Prog.ret_bind, hm,
    Action.when_run, hs, hl.beginUpdate, hl.endUpdate, Bool.and_self, if_true, storeEndUpdate_run,
    Prog.call_bind, modifyModel_run]
  refine Prog.Leads.call fun _ d' hend => ⟨?_, hend.drift hcopy id⟩
  rw [hm]
  rfl

theorem modelFinishLocationUpdate_leads (h : OpenAt m t s d) :
    (modelFinishLocationUpdate m t s).Leads (deskMachine (B := B) K)
      (fun _ s' d' => Trusted m s' d') d := by
  obtain ⟨priv, ho, hl, hfits, -⟩ := h
  have hg : updateOpen m (s.tokens t) priv = true := by
    simp [updateOpen, ho.2.1, ho.2.2.1, ho.2.2.2]
  simp only [modelFinishLocationUpdate, Action.bind_run, readModel_run, ho.1, Prog.ret_bind,
    readToken_run, hg, if_true]
  refine (releaseUpdateLock_leads hcopy ho.1 hl ho.2.1).bind ?_
  rintro _ s₁ d₁ ⟨rfl, hdrift⟩
  have hclosed : Trusted m (s.setModel m (some { priv with saving := false })) d₁ :=
    .of_model (Memory.setModel_self ..) hl rfl fun key => (hfits key).drift (hdrift.key key)
  exact hclosed.of_models rfl

omit hcopy in
/-- The undo of a rollback. -/
theorem undo_leads {priv : ModelPrivate} {u : LocationUpdate}
    (hfits : ∀ key, d.Fits priv.policy priv.persistedPolicyPresent key)
    (hsame : ∀ key : Key, key.Same priv.policy u.previousPolicy) :
    ((if u.previousPersistedPolicyPresent then storeSave u.previousPolicy
      else if priv.store.clear then storeClear else pure false : SysM B Bool) s).Leads
      (deskMachine K) (fun restored s' d' => s' = s ∧ ∀ key,
        if restored then d'.Fits u.previousPolicy u.previousPersistedPolicyPresent key
        else d'.Fits priv.policy priv.persistedPolicyPresent key) d := by
  cases hfound : u.previousPersistedPolicyPresent with
  | true =>
    refine Prog.Leads.call fun restored d' hsave => ⟨rfl, fun key => ?_⟩
    cases restored with
    | true => exact hsave.save key
    | false => exact (hfits key).drift (Desk.Drift.key hsave.save key)
  | false =>
    cases hclear : priv.store.clear with
    | true =>
      refine Prog.Leads.call fun restored d' hclear => ⟨rfl, fun key => ?_⟩
      cases restored with
      | true => exact (hclear.clear _ _ key (hfits key)).same (hsame key)
      | false => exact (hfits key).drift (Desk.Drift.key hclear.clear key)
    | false => exact ⟨rfl, hfits⟩

theorem modelRollbackLocationUpdate_leads (h : OpenAt m t s d) :
    (modelRollbackLocationUpdate m t s).Leads (deskMachine (B := B) K)
      (fun _ s' d' => Trusted m s' d') d := by
  obtain ⟨priv, ho, hl, hfits, hsame⟩ := h
  have hg : updateOpen m (s.tokens t) priv = true := by
    simp [updateOpen, ho.2.1, ho.2.2.1, ho.2.2.2]
  simp only [modelRollbackLocationUpdate, Action.bind_run, readModel_run, ho.1, Prog.ret_bind,
    readToken_run, hg, if_true]
  refine (undo_leads hfits hsame).bind ?_
  rintro restored s₁ d₁ ⟨rfl, hundone⟩
  cases restored with
  | false =>
    simp only [Action.bind_run, Action.when_run, Prog.ret_bind, if_false, Bool.false_eq_true,
      readToken_run]
    refine (releaseUpdateLock_leads hcopy ho.1 hl ho.2.1).bind ?_
    rintro _ s₂ d₂ ⟨rfl, hdrift⟩
    have hclosed : Trusted m (s₁.setModel m (some { priv with saving := false })) d₂ :=
      .of_model (Memory.setModel_self ..) hl rfl fun key => (hundone key).drift (hdrift.key key)
    exact hclosed.of_models rfl
  | true =>
    simp only [Action.bind_run, Action.when_run, Prog.ret_bind, if_true, modifyModel_run, ho.1,
      Option.map_some, readToken_run]
    let undone : ModelPrivate := { priv with
      policy := (s₁.tokens t).previousPolicy
      persistedPolicyPresent := (s₁.tokens t).previousPersistedPolicyPresent }
    have held : (s₁.setModel m (some undone)).models m = some undone := Memory.setModel_self ..
    refine (releaseUpdateLock_leads hcopy held hl ho.2.1).bind ?_
    rintro _ s₂ d₂ ⟨rfl, hdrift⟩
    have hclosed : Trusted m ((s₁.setModel m (some undone)).setModel m
        (some { undone with saving := false })) d₂ :=
      .of_model (Memory.setModel_self ..) hl rfl fun key => (hundone key).drift (hdrift.key key)
    exact hclosed.of_models rfl

end Operations

/-! ## Callbacks of the panel -/

variable (K m) in
/-- Every run of the program ends with a policy that can be trusted. -/
abbrev EndsTrusted (prog : Prog (Sys B) Memory α) (d : Desk) : Prop :=
  prog.Leads (deskMachine K) (fun _ s' d' => Trusted m s' d') d

section Callbacks

variable {s : Memory} {d d' : Desk} {t : TokenId}
  (hcopy : ∀ use24h, K.copyClockMode (nativeClockModeId use24h) = nativeClockModeId use24h)

include hcopy

/-- A call that publishes nothing. -/
theorem leads_call {c : Call B} {k : c.Answer → Memory → Prog (Sys B) Memory α}
    {Q : α → Memory → Desk → Prop} (hc : ¬ Desk.Publishes c)
    (h : ∀ r d', d.Drift d' → (k r s).Leads (deskMachine K) Q d') :
    (Prog.call (S := Sys B) c s k).Leads (deskMachine K) Q d :=
  Prog.Leads.call fun r d' hcall => h r d' (hcall.drift hcopy hc)

/-- What is set aside only lets the desk drift. -/
theorem leads_aside {prog : Prog (Sys B) Memory α} {f : α → Memory → Prog (Sys B) Memory β}
    {Q : β → Memory → Desk → Prop} (haside : Aside s prog)
    (hf : ∀ a d', d.Drift d' → (f a s).Leads (deskMachine K) Q d') :
    (prog.bind f).Leads (deskMachine K) Q d := by
  induction prog generalizing d with
  | ret a s' =>
    obtain rfl : s' = s := haside
    exact hf a d (.refl d)
  | call c s' k ih =>
    obtain ⟨hneutral, rfl, hk⟩ := haside
    refine leads_call hcopy (fun hc => ?_) fun r d₁ hdrift =>
      ih r s' (hk r) fun a d' hdrift' => hf a d' (hdrift.trans hdrift')
    cases c with
    | save | clear => exact hneutral
    | _ => exact hc

/-- The end of a locality transaction. -/
theorem leads_end {α : Type} {f : Unit → SysM B α} (h : Trusted m s d)
    (hf : ∀ d', Trusted m s d' → EndsTrusted K m (f () s) d') :
    EndsTrusted K m ((locationMetadataTransactionEnd >>= f : SysM B α) s) d :=
  leads_call hcopy id fun _ d' hdrift => hf d' (h.drift hdrift)

theorem commitStaged_trusted {candidate : LocationMetadata} {panel : Panel} (h : Trusted m s d) :
    EndsTrusted K m (commitStaged K G m t candidate panel s) d := by
  have h' : Trusted m (s.setToken t LocationUpdate.init) d := h.of_models rfl
  simp only [commitStaged, Action.bind_run, writeToken_run, Prog.ret_bind]
  refine (modelBeginLocationUpdate_leads hcopy h').bind ?_
  intro begun s₁ d₁ hbegun
  cases begun with
  | false =>
    refine leads_aside hcopy unlinkFile_aside fun _ d₂ hdrift => ?_
    exact leads_end hcopy (hbegun.drift hdrift) fun _ h => h
  | true =>
    refine leads_aside hcopy locationMetadataFinishStaged_aside fun published d₂ hdrift => ?_
    have hopen : OpenAt m t s₁ d₂ := OpenAt.drift hbegun hdrift
    cases published with
    | false =>
      refine (modelRollbackLocationUpdate_leads hcopy hopen).bind fun restored s₂ d₃ h => ?_
      cases restored with
      | true =>
        refine leads_aside hcopy unlinkFile_aside fun _ d₄ hdrift => ?_
        exact leads_end hcopy (h.drift hdrift) fun _ h => h
      | false =>
        refine (modelReload_leads hcopy h).bind fun _ s₃ d₄ h => ?_
        exact leads_end hcopy h fun _ h => h
    | true =>
      refine (modelFinishLocationUpdate_leads hcopy hopen).bind fun finished s₂ d₃ h => ?_
      cases finished with
      | true => exact leads_end hcopy h fun _ h => h
      | false => exact leads_end hcopy h fun _ h => h

theorem commitLocation_trusted {candidate : LocationMetadata} {panel : Panel}
    (h : Trusted m s d) : EndsTrusted K m (commitLocation K G m t candidate panel s) d := by
  refine leads_call hcopy id fun taken d₁ hdrift => ?_
  replace h := h.drift hdrift
  cases taken with
  | false => exact h
  | true =>
    simp only [Prog.ret_bind, if_true, Action.bind_run]
    refine leads_aside hcopy loadAuthoritativeLocationMetadata_aside fun loaded d₂ hdrift => ?_
    replace h := h.drift hdrift
    cases loaded with
    | none => exact leads_end hcopy h fun _ h => h
    | some previous =>
      refine leads_call hcopy id fun system d₃ hdrift => ?_
      replace h := h.drift hdrift
      simp only [Prog.ret_bind, Action.bind_run]
      refine leads_aside hcopy metadataSavePath_aside fun staged d₄ hdrift => ?_
      replace h := h.drift hdrift
      cases staged with
      | false => exact leads_end hcopy h fun _ h => h
      | true => exact commitStaged_trusted hcopy h

theorem policyFileChanged_trusted {panel : Panel} (h : Trusted m s d) :
    EndsTrusted K m (policyFileChanged K G m panel s) d := by
  simp only [policyFileChanged, modelPolicy_run, Action.bind_run, Prog.ret_bind]
  cases (s.models m).map ModelPrivate.policy with
  | none => exact h
  | some policy =>
    refine (modelReload_leads hcopy h).bind fun reloaded s₁ d₁ h => ?_
    cases reloaded with
    | false => exact h
    | true =>
      refine leads_aside hcopy locationMetadataRecover_aside fun recovered d₂ hdrift => ?_
      cases recovered with
      | false => exact h.drift hdrift
      | true =>
        refine leads_aside hcopy locationMetadataLoadStatus_aside fun loaded d₃ hdrift' => ?_
        exact h.drift (hdrift.trans hdrift')

/-- A setter, done and forgotten. -/
theorem setField_trusted (op : ModelOp) {edit : TemporalPolicyV3 → TemporalPolicyV3}
    (hc : op.change K = some edit) (h : Trusted m s d) :
    EndsTrusted K m (setField m edit s : Prog (Sys B) Memory Bool) d := by
  refine (setField_leads hcopy op hc h.resting).mono ?_
  rintro ok s₁ d₁ (⟨rfl, rfl, hdrift⟩ | ⟨rfl, h⟩)
  · exact h.drift hdrift
  · exact h

theorem reconcileReference_trusted {policy : Option TemporalPolicyV3} {matchesSystem : Bool}
    {panel : Panel} (h : Trusted m s d) :
    EndsTrusted K m (reconcileReference m policy matchesSystem panel s : Prog (Sys B) Memory _)
      d := by
  simp only [reconcileReference, Action.when_run]
  split
  · split
    · simp only [Action.bind_run, modelSetLocation]
      split
      · next hvalid =>
        refine Prog.Leads.bind (setField_trusted hcopy (.setLocation true
          panel.regionalContext.referenceLatitude panel.regionalContext.referenceLongitude)
          (by simp [ModelOp.change, hvalid]) h) fun _ _ _ h => h
      · exact h
    · exact h
  · exact h

theorem reconcileSystemTimeChange_trusted {systemState : SystemTimeState} {panel : Panel}
    (h : Trusted m s d) :
    EndsTrusted K m (reconcileSystemTimeChange K G m systemState panel s) d := by
  simp only [reconcileSystemTimeChange]
  split
  · exact h
  · refine leads_call hcopy id fun regional d₁ hdrift => ?_
    replace h := h.drift hdrift
    simp only [Prog.ret_bind]
    split
    · refine leads_call hcopy id fun taken d₂ hdrift => ?_
      replace h := h.drift hdrift
      cases taken with
      | false => exact h
      | true =>
        refine leads_call hcopy id fun locked d₃ hdrift => ?_
        refine leads_call hcopy id fun regional d₄ hdrift' => ?_
        replace h := h.drift (hdrift.trans hdrift')
        simp only [Prog.ret_bind, Action.bind_run, Prog.bind_assoc]
        refine (modelReload_leads hcopy h).bind fun reloaded s₁ d₅ h => ?_
        refine leads_aside hcopy locationMetadataLoadStatus_aside fun loaded d₆ hdrift => ?_
        replace h := h.drift hdrift
        cases reloaded with
        | false => exact leads_end hcopy h fun _ h => h
        | true =>
          simp only [if_true, Action.bind_run, modelPolicy_run, Prog.ret_bind, Prog.bind_assoc]
          refine leads_aside hcopy reconcileMetadata_aside fun panel d₇ hdrift => ?_
          replace h := h.drift hdrift
          refine Prog.Leads.bind (reconcileReference_trusted hcopy h) fun _ s₂ d₈ h => ?_
          exact leads_end hcopy h fun _ h => h
    · exact h

end Callbacks

/-! ## A change of the desktop -/

/-- The name of a key. -/
def NativeStore.Key.name : Key → String
  | .clockUse24h => "clock-use-24h"
  | .clockShowSeconds => "clock-show-seconds"

/-- Read a key and set the policy to it where the two differ. -/
def reconcileKey (read : SysM B (Option Bool)) (differs : Bool → Bool)
    (set : Bool → SysM B Bool) : SysM B (Option Bool) := do
  match ← read with
  | some nativeValue => if differs nativeValue then some <$> set nativeValue else pure none
  | none => pure none

variable (K m) in
/-- `on_cinnamon_interface_changed` up to its messages: nothing when there is nothing to
reconcile, and otherwise whether the policy followed. -/
def reconcileDesktop (updatingControls : Bool) (key : String) : SysM B (Option Bool) := do
  if updatingControls then pure none
  else if ← modelIsSaving m then pure none
  else
    match ← modelPolicy m with
    | none => pure none
    | some policy =>
      if key = "clock-use-24h" then
        if nativeClockModeTracksDesktop policy.clockMode then
          reconcileKey cinnamonClockUse24h
            (fun value => policy.clockMode != nativeClockModeId value)
            fun value => modelSetClockMode K m (nativeClockModeId value)
        else pure none
      else if key = "clock-show-seconds" then
        reconcileKey cinnamonClockShowSeconds (fun value => policy.showSeconds != value)
          fun value => modelSetShowSeconds m value
      else pure none

theorem reconcileKey_forget (read : SysM B (Option Bool)) (differs : Bool → Bool)
    (set : Bool → SysM B Bool) :
    (fun _ => ()) <$> reconcileKey read differs set = (do
      match ← read with
      | some nativeValue => Action.when (differs nativeValue) do
          let _ ← set nativeValue
      | none => pure ()) := by
  rw [reconcileKey, map_bind]
  refine bind_congr fun value => ?_
  cases value with
  | none => rfl
  | some value =>
    dsimp only [Action.when]
    split_ifs
    · rw [Functor.map_map, bind_pure_comp]
    · rfl

/-- The handler is the reconciliation and its messages. -/
theorem onCinnamonInterfaceChanged_eq (updatingControls : Bool) (key : String) :
    (onCinnamonInterfaceChanged K m updatingControls key : SysM B Unit) =
      (fun _ => ()) <$> reconcileDesktop K m updatingControls key := by
  cases updatingControls with
  | true => rfl
  | false =>
    simp only [onCinnamonInterfaceChanged, reconcileDesktop, Bool.false_eq_true, if_false, map_bind]
    refine bind_congr fun saving => ?_
    cases saving with
    | true => rfl
    | false =>
      simp only [Bool.false_eq_true, if_false, map_bind]
      refine bind_congr fun policy => ?_
      cases policy with
      | none => rfl
      | some policy =>
        dsimp only
        split_ifs
        · exact (reconcileKey_forget _ _ _).symm
        · rfl
        · exact (reconcileKey_forget _ _ _).symm
        · rfl

/-- The desk after a reconciliation: one that failed is on record. -/
def NativeStore.Desk.reconciled (d : Desk) (key : Key) (result : Option Bool) : Desk :=
  if result = some false then d.disturb key else d

section Reconcile

variable {s : Memory} {d d' : Desk} {key : Key} {priv : ModelPrivate}
  (hcopy : ∀ use24h, K.copyClockMode (nativeClockModeId use24h) = nativeClockModeId use24h)

/-- The policy can be trusted but for one key, of which a change was delivered. -/
structure Delivered (m : ModelId) (key : Key) (priv : ModelPrivate) (s : Memory) (d : Desk) :
    Prop where
  model : s.models m = some priv
  locking : priv.store.Locking
  resting : priv.saving = false
  others : ∀ other, other ≠ key → d.Fits priv.policy priv.persistedPolicyPresent other
  documented : d.Documented priv.policy priv.persistedPolicyPresent key

theorem Delivered.drift (h : Delivered m key priv s d) (hd : d.Drift d') :
    Delivered m key priv s d' :=
  ⟨h.model, h.locking, h.resting, fun other hne => (h.others other hne).drift (hd.key other),
    h.documented.drift (hd.key key)⟩

/-- All that is missing is the key itself. -/
theorem Delivered.trusted (h : Delivered m key priv s d) (hsettled : d.Settled priv.policy key) :
    Trusted m s d := by
  refine .of_model h.model h.locking h.resting fun other => ?_
  by_cases hother : other = key
  · subst hother
    exact ⟨hsettled, h.documented⟩
  · exact h.others other hother

/-- A reconciliation of a key: it agrees, it is set, or the failure is on record. -/
theorem reconcileKey_leads (h : Delivered m key priv s d) {read : SysM B (Option Bool)}
    {differs : Bool → Bool} {set : Bool → SysM B Bool}
    (hread : (read s).Leads (deskMachine K) (fun value s' d' =>
      s' = s ∧ d.Drift d' ∧ ReadsKey key d' value) d)
    (hallows : ∀ value, differs value = false → key.Allows priv.policy value)
    (hset : ∀ value d₁, (set value s).Leads (deskMachine K) (fun ok s' d' =>
      (ok = false ∧ s' = s ∧ d₁.Drift d') ∨ ok = true ∧ Trusted m s' d') d₁) :
    (reconcileKey read differs set s).Leads (deskMachine K) (fun result s' d' =>
      Trusted m s' (d'.reconciled key result)) d := by
  refine hread.bind ?_
  rintro value _ d₁ ⟨rfl, hdrift, hreads⟩
  replace h := h.drift hdrift
  cases value with
  | none =>
    refine h.trusted ?_
    exact hreads.elim (fun hu => .inl (.inr (.inl hu))) .of_none
  | some value =>
    dsimp only
    cases hdiffers : differs value with
    | false =>
      refine h.trusted (.inr fun keys hkeys => ?_)
      have hvalue : key.read keys = value := by
        simpa [ReadsKey, hkeys] using hreads
      exact hvalue ▸ hallows value hdiffers
    | true =>
      simp only [if_true, Action.map_run]
      refine (hset value d₁).bind ?_
      rintro ok s' d' (⟨rfl, rfl, hdrift⟩ | ⟨rfl, h⟩)
      · have hdisturbed := hdrift.trans (.disturb d' key)
        exact (h.drift hdisturbed).trusted (.inl (.inr (.inl (d'.unsettled_disturb key))))
      · exact h

/-- A conventional clock allows its own value only. -/
theorem allows_of_clockMode {policy : TemporalPolicyV3} {value : Bool}
    (h : policy.clockMode = nativeClockModeId value) : Key.clockUse24h.Allows policy value := by
  constructor
  all_goals
    intro hmode
    rw [h] at hmode
    cases value <;> simp [nativeClockModeId] at hmode ⊢

/-- An extended clock allows every value. -/
theorem allows_of_extended {policy : TemporalPolicyV3} (value : Bool)
    (h : nativeClockModeTracksDesktop policy.clockMode = false) :
    Key.clockUse24h.Allows policy value := by
  constructor
  all_goals
    intro hmode
    rw [hmode] at h
    exact absurd h (by decide)

include hcopy

/-- A setter that a reconciliation uses. -/
theorem modelSetClockMode_leads {clockMode : String} (hr : Resting m s) :
    (modelSetClockMode K m clockMode s).Leads (deskMachine (B := B) K) (fun ok s' d' =>
      (ok = false ∧ s' = s ∧ d.Drift d') ∨ ok = true ∧ Trusted m s' d') d := by
  cases hvalid : validClockMode K clockMode with
  | none =>
    simp only [modelSetClockMode, hvalid]
    exact .inl ⟨rfl, rfl, .refl d⟩
  | some info =>
    simp only [modelSetClockMode, hvalid]
    exact setField_leads hcopy (.setClockMode clockMode) (by simp [ModelOp.change, hvalid]) hr

/-- A change of a key that is delivered leaves a policy that can be trusted. -/
theorem reconcileDesktop_leads (h : Delivered m key priv s d) :
    (reconcileDesktop K m false key.name s).Leads (deskMachine (B := B) K) (fun result s' d' =>
      Trusted m s' (d'.reconciled key result)) d := by
  have hr : Resting m s := .of_model h.model h.locking h.resting
  simp only [reconcileDesktop, Bool.false_eq_true, if_false, Action.bind_run, modelIsSaving_run,
    Prog.ret_bind, h.model, Option.any_some, h.resting, modelPolicy_run, Option.map_some]
  cases key with
  | clockUse24h =>
    simp only [Key.name]
    cases htracks : nativeClockModeTracksDesktop priv.policy.clockMode with
    | false => exact h.trusted (.inr fun keys _ => allows_of_extended _ htracks)
    | true =>
      refine reconcileKey_leads h ?_ ?_ fun value d₁ => modelSetClockMode_leads hcopy hr
      · exact Prog.Leads.call fun value d' hcall => ⟨rfl, hcall.clockUse24h⟩
      · exact fun value hvalue => allows_of_clockMode (by simpa using hvalue)
  | clockShowSeconds =>
    simp only [Key.name, String.reduceEq, if_true]
    refine reconcileKey_leads h ?_ ?_ fun value d₁ => ?_
    · exact Prog.Leads.call fun value d' hcall => ⟨rfl, hcall.clockShowSeconds⟩
    · intro value hvalue
      exact (show priv.policy.showSeconds = value by simpa using hvalue).symm
    · exact setField_leads hcopy (.setShowSeconds value) rfl hr

end Reconcile

/-! ## The panel at its desk -/

/-- A callback of the panel. The panel it runs on is an argument, and may be any panel. -/
inductive DeskTask : Type where
  /-- a control of the user sets a field of the policy -/
  | control (op : ModelOp)
  /-- `on_location_result_activated` -/
  | resultActivated (result : LocationSearchResult) (t : TokenId) (panel : Panel)
  /-- `commit_location_coordinates` -/
  | coordinates (updatingControls : Bool) (latitude longitude : Double) (t : TokenId)
      (panel : Panel)
  /-- `policy_file_changed` -/
  | policyFileChanged (panel : Panel)
  /-- `location_metadata_file_changed` -/
  | metadataFileChanged (panel : Panel)
  /-- `retry_locality_recovery` -/
  | retryRecovery (panel : Panel)
  /-- `ss_linux_date_time_panel_reconcile_system_time_change` -/
  | systemTimeChanged (systemState : SystemTimeState) (panel : Panel)

variable (K m) in
/-- A setter behind a control, and `policy_saved` when it has saved. -/
def controlChanged (op : ModelOp) : SysM B Unit := do
  if (op.change K).isSome then
    if ← op.run K m then
      let _ ← nativeCompatibilityMatches m
  else pure ()

variable (K G m) in
/-- Run a callback. -/
def DeskTask.run : DeskTask → SysM B Unit
  | control op => controlChanged K m op
  | resultActivated result t panel => do
    let _ ← onLocationResultActivated K G m t result panel
  | coordinates updatingControls latitude longitude t panel => do
    let _ ← commitLocationCoordinates K G m t updatingControls latitude longitude panel
  | policyFileChanged panel => do
    let _ ← SystemSettings.policyFileChanged K G m panel
  | metadataFileChanged panel => do
    let _ ← locationMetadataFileChanged G m panel
  | retryRecovery panel => do
    let _ ← retryLocalityRecovery G m panel
  | systemTimeChanged systemState panel => do
    let _ ← reconcileSystemTimeChange K G m systemState panel

/-- The memory of the panel, and its desk. -/
structure DeskState : Type where
  memory : Memory
  desk : Desk

variable (K G m) in
/-- What happens at the desk, one thing at a time: the callbacks are not reentrant, but
between any two calls of one, and between two callbacks, the desk drifts. -/
inductive DeskStep : DeskState → DeskState → Prop
  /-- other programs write, and reads of no consequence fail -/
  | drift {s : Memory} {d d' : Desk} : d.Drift d' → DeskStep ⟨s, d⟩ ⟨s, d'⟩
  /-- a callback -/
  | task (task : DeskTask) {s s' : Memory} {d d' : Desk} {tr : List (Event (Sys B) Desk)} :
    (task.run K G m s).Exec (deskMachine K) d tr () s' d' → DeskStep ⟨s, d⟩ ⟨s', d'⟩
  /-- a change of the desktop is delivered -/
  | delivered (key : Key) {result : Option Bool} {s s' : Memory} {d d' : Desk}
      {tr : List (Event (Sys B) Desk)} : d.outstanding key = true →
    (reconcileDesktop K m false key.name s).Exec (deskMachine K) (d.deliver key) tr result s' d' →
    DeskStep ⟨s, d⟩ ⟨s', d'.reconciled key result⟩

/-- A panel that has loaded its policy. A key that it has not brought into line is on
record. -/
structure DeskState.Started (m : ModelId) (x : DeskState) : Prop where
  resting : Resting m x.memory
  settled : ∀ priv, x.memory.models m = some priv →
    ∀ key, x.desk.unsettled key = true ∨ key.Agrees priv.policy x.desk.native
  documented : ∀ priv, x.memory.models m = some priv →
    ∀ key, x.desk.Documented priv.policy priv.persistedPolicyPresent key

section Steps

variable {s : Memory} {d d' : Desk} {x x₀ y : DeskState}
  (hcopy : ∀ use24h, K.copyClockMode (nativeClockModeId use24h) = nativeClockModeId use24h)

/-- The other keys are not delivered. -/
theorem keyDrift_deliver {key other : Key} (h : other ≠ key) :
    Desk.KeyDrift d (d.deliver key) other where
  outstanding ho := by simpa [Desk.deliver, h] using ho
  unsettled := id
  foreign := id
  native := .inl rfl
  document := .inr fun y hy => ⟨y, hy, .refl y other⟩

theorem Trusted.deliver (h : Trusted m s d) {key : Key} {priv : ModelPrivate}
    (hm : s.models m = some priv) : Delivered m key priv s (d.deliver key) where
  model := hm
  locking := (h.resting priv hm).1
  resting := (h.resting priv hm).2
  others other hne := (h.fits priv hm other).drift (keyDrift_deliver hne)
  documented := (h.fits priv hm key).documented

theorem nativeCompatibilityMatches_aside :
    Aside s ((nativeCompatibilityMatches m : SysM B Bool) s) := by
  simp only [nativeCompatibilityMatches, Action.bind_run, modelPolicy_run, Prog.ret_bind]
  cases (s.models m).map ModelPrivate.policy with
  | none => rfl
  | some policy => exact ⟨trivial, rfl, fun _ => rfl⟩

include hcopy

theorem controlChanged_trusted {op : ModelOp} (h : Trusted m s d) :
    EndsTrusted K m (controlChanged K m op s : Prog (Sys B) Memory Unit) d := by
  cases hc : op.change K with
  | none =>
    simp only [controlChanged, hc]
    exact h
  | some edit =>
    simp only [controlChanged, hc, Option.isSome_some, if_true, ModelOp.run_of_change hc,
      Action.bind_run]
    refine Prog.Leads.bind (setField_trusted hcopy _ hc h) fun ok s₁ d₁ h => ?_
    cases ok with
    | false => exact h
    | true =>
      exact leads_aside hcopy nativeCompatibilityMatches_aside fun _ _ hdrift => h.drift hdrift

theorem DeskTask.run_trusted {task : DeskTask} (h : Trusted m s d) :
    EndsTrusted K m (task.run K G m s) d := by
  have forget : ∀ {α : Type} {prog : Prog (Sys B) Memory α} {f : α → Unit},
      EndsTrusted K m prog d → EndsTrusted K m (prog.bind fun a s => .ret (f a) s) d :=
    fun hprog => Prog.Leads.bind hprog fun _ _ _ h => h
  cases task with
  | control op => exact controlChanged_trusted hcopy h
  | resultActivated result t panel => exact forget (commitLocation_trusted hcopy h)
  | coordinates updatingControls latitude longitude t panel =>
    cases updatingControls with
    | true => exact h
    | false => exact forget (commitLocation_trusted hcopy h)
  | policyFileChanged panel => exact forget (policyFileChanged_trusted hcopy h)
  | metadataFileChanged panel =>
    exact leads_aside hcopy locationMetadataFileChanged_aside fun _ _ hdrift => h.drift hdrift
  | retryRecovery panel =>
    exact leads_aside hcopy retryLocalityRecovery_aside fun _ _ hdrift => h.drift hdrift
  | systemTimeChanged systemState panel =>
    exact forget (reconcileSystemTimeChange_trusted hcopy h)

/-- Every step keeps the trust in the policy. -/
theorem DeskStep.trusted (hstep : DeskStep (B := B) K G m x y) (h : Trusted m x.memory x.desk) :
    Trusted m y.memory y.desk := by
  cases hstep with
  | drift hdrift => exact h.drift hdrift
  | task task hx => exact (DeskTask.run_trusted hcopy h).exec hx
  | @delivered key result s s' d d' tr ho hx =>
    cases hm : s.models m with
    | some priv => exact (reconcileDesktop_leads hcopy (h.deliver hm)).exec hx
    | none =>
      simp [reconcileDesktop, hm] at hx
      obtain ⟨-, rfl, rfl, rfl⟩ := hx
      exact ⟨h.resting, fun priv hm' => by simp [hm] at hm'⟩

omit hcopy in
theorem DeskState.Started.trusted (h : x.Started m) : Trusted m x.memory x.desk where
  resting := h.resting
  fits priv hm key :=
    ⟨(h.settled priv hm key).imp_left fun hu => .inr (.inl hu), h.documented priv hm key⟩

theorem trusted_of_steps (h₀ : x₀.Started m) (h : ReflTransGen (DeskStep (B := B) K G m) x₀ x) :
    Trusted m x.memory x.desk := by
  induction h with
  | refl => exact h₀.trusted
  | tail _ hstep ih => exact hstep.trusted hcopy ih

end Steps

/-! ## A desk of its own -/

/-- What code of the store answers with nobody else about and nothing that fails. -/
def playStore (prog : StoreM α) (d : Desk) : α × Desk :=
  let played := (prog ()).play (Desk.respond Common.small) d []
  (played.2.1, played.2.2.2)

/-- The answers of a desk with nobody else about. -/
def NativeStore.Desk.alone (ok : Bool) (d : Desk) : (c : Call B) → c.Answer × Desk
  | .load => playStore (NativeStore.platformLoad Common.small) d
  | .save policy => playStore (platformSave policy) d
  | .clear => playStore platformClear d
  | .compatibilityMatches policy => playStore (platformCompatibilityMatches policy) d
  | .clockUse24h => playStore (panelGetBoolean .clockUse24h) d
  | .clockShowSeconds => playStore (panelGetBoolean .clockShowSeconds) d
  | .beginUpdate | .calloc | .transactionBegin | .writeFile _ _ | .unlinkFile _ => (ok, d)
  | .endUpdate | .transactionEnd => ((), d)
  | .readFile _ => (.absent, d)
  | .readSystemTime | .detectRegional => (none, d)

theorem answers_alone (ok : Bool) (d : Desk) (c : Call B) :
    d.Answers Common.small ⟨c, (d.alone ok c).1, (d.alone ok c).2⟩ := by
  have played : ∀ {α : Type} (prog : StoreM α), ∃ tr, (prog ()).Exec
      (Prog.quiet (Desk.Step Common.small)) d tr (playStore prog d).1 () (playStore prog d).2 :=
    fun prog => ⟨_, Prog.play_exec (fun ok d c => ⟨d, ok, .refl d, rfl, rfl⟩) (prog ()) d []⟩
  cases c with
  | load | save | clear | compatibilityMatches | clockUse24h | clockShowSeconds => exact played _
  | _ => exact Desk.Drift.refl d

/-- A run of the panel with nobody else about. -/
def playDesk (m : SysM (Option LocationMetadata) α) (x : DeskState) : α × DeskState :=
  let played := (m x.memory).play (Desk.alone (B := Option LocationMetadata)) x.desk []
  (played.2.1, ⟨played.2.2.1, played.2.2.2⟩)

theorem playDesk_exec (m : SysM (Option LocationMetadata) α) (x : DeskState) :
    ∃ tr, (m x.memory).Exec (deskMachine Common.small) x.desk tr (playDesk m x).1
      (playDesk m x).2.memory (playDesk m x).2.desk :=
  ⟨_, Prog.play_exec answers_alone (m x.memory) x.desk []⟩

/-- A policy with a 24-hour clock is loaded, over a desktop that has never seen it. -/
def deskStart : DeskState where
  memory := Memory.empty.setModel 0 (some
    ⟨⟨"standard-24", "gregorian", false, false, .finite 0, .finite 0⟩,
      platformTemporalPolicyStore, true, false⟩)
  desk :=
    { document := .policy ⟨"standard-24", "gregorian", false, false, .finite 0, .finite 0⟩
      native := some ⟨false, false⟩
      gnome := some true
      outstanding := fun _ => false
      unsettled := fun _ => true
      foreign := fun _ => false }

/-- The user turns the seconds on. -/
def deskSaved : DeskState :=
  (playDesk (controlChanged Common.small 0 (.setShowSeconds true)) deskStart).2

/-- Another program goes back to twelve hours. -/
def deskChanged : DeskState :=
  { deskSaved with desk :=
      { deskSaved.desk with
        native := some ⟨false, true⟩
        outstanding := fun key => key == .clockUse24h } }

/-- The change is delivered. -/
def deskDelivered : DeskState :=
  (playDesk (reconcileDesktop Common.small 0 false "clock-use-24h")
    { deskChanged with desk := deskChanged.desk.deliver .clockUse24h }).2

/-- One thing after the other. -/
theorem deskDelivered_reached : ReflTransGen (DeskStep Common.small GLib.small 0) deskStart
    deskDelivered := by
  have hsaved : DeskStep Common.small GLib.small 0 deskStart deskSaved := by
    obtain ⟨tr, hx⟩ :=
      playDesk_exec (controlChanged Common.small 0 (.setShowSeconds true)) deskStart
    exact .task (.control (.setShowSeconds true)) hx
  have hchanged : DeskStep Common.small GLib.small 0 deskSaved deskChanged := by
    refine .drift ⟨rfl, rfl, fun key => ?_⟩
    refine ⟨fun ho => ?_, id, id, ?_, .inr fun y hy => ⟨y, hy, .refl y key⟩⟩
    · exact absurd ho (by cases key <;> decide)
    · cases key with
      | clockUse24h => exact .inr rfl
      | clockShowSeconds => exact .inl (by decide)
  have hdelivered : DeskStep Common.small GLib.small 0 deskChanged deskDelivered := by
    obtain ⟨tr, hx⟩ := playDesk_exec (reconcileDesktop Common.small 0 false "clock-use-24h")
      { deskChanged with desk := deskChanged.desk.deliver .clockUse24h }
    exact .delivered .clockUse24h rfl hx
  exact ((ReflTransGen.refl.tail hsaved).tail hchanged).tail hdelivered

section Agrees

variable {x x₀ : DeskState}

/-- The desktop and the policy of a panel agree, whatever other programs write to the keys, to
the policy and to the locality files, and whatever fails: in every state of a panel between
two callbacks, for each of the two keys a change is still to be delivered, or a read, a write
or a reconciliation of it has failed since the panel last wrote it, or another program has
saved another value since the panel last saved, or the desktop agrees with the policy in
memory. So when `compatibility_matches` reports a mismatch there is one of these reasons. -/
theorem desktop_agrees
    (hcopy : ∀ use24h, K.copyClockMode (nativeClockModeId use24h) = nativeClockModeId use24h)
    (h₀ : x₀.Started m) (h : ReflTransGen (DeskStep (B := B) K G m) x₀ x)
    {priv : ModelPrivate} (hm : x.memory.models m = some priv) :
    (∀ key, x.desk.Excused key ∨ key.Agrees priv.policy x.desk.native) ∧
      ∀ tr (matched : Bool) d', (platformCompatibilityMatches priv.policy ()).Exec
        (Prog.quiet (Desk.Step K)) x.desk tr matched () d' → matched = false →
        ∃ key, d'.Excused key := by
  have htrusted := trusted_of_steps hcopy h₀ h
  have hsettled : ∀ key, x.desk.Settled priv.policy key :=
    fun key => (htrusted.fits priv hm key).settled
  refine ⟨hsettled, fun tr matched d' hx hfalse => ?_⟩
  exact ((platformCompatibilityMatches_makes priv.policy x.desk).exec hx).2 hfalse hsettled

/-- The clock went back to twelve hours with the desktop, and the seconds that the user
turned on are still on. -/
theorem desktop_agrees_delivered :
    Key.clockUse24h.Agrees ⟨"standard-12", "gregorian", true, false, .finite 0, .finite 0⟩
        (some ⟨false, true⟩) ∧
      Key.clockShowSeconds.Agrees ⟨"standard-12", "gregorian", true, false, .finite 0, .finite 0⟩
        (some ⟨false, true⟩) := by
  have hstarted : deskStart.Started 0 := by
    refine ⟨.of_model (Memory.setModel_self ..) platformTemporalPolicyStore_locking rfl,
      fun _ _ _ => .inl rfl, fun priv hm key => .inr fun y hy => ?_⟩
    obtain rfl := Option.some.inj hm
    obtain rfl := Document.policy.inj hy
    exact ⟨rfl, .refl _ key⟩
  have hmodel : deskDelivered.memory.models 0 = some
      ⟨⟨"standard-12", "gregorian", true, false, .finite 0, .finite 0⟩,
        platformTemporalPolicyStore, true, false⟩ := by decide
  have hagrees := (desktop_agrees (fun _ => rfl) hstarted deskDelivered_reached hmodel).1
  have hno : ∀ key, ¬ deskDelivered.desk.Excused key := by
    intro key
    cases key <;> exact fun h => absurd h (by decide)
  exact ⟨(hagrees .clockUse24h).resolve_left (hno _),
    (hagrees .clockShowSeconds).resolve_left (hno _)⟩

end Agrees

end SystemSettings

import SystemSettings.LocationSelection
import SystemSettings.NativeClock

/-!
# The clock that the panel adopts

The callbacks of the panel that take over a policy which another process wrote, or
the clock of the desktop: a setter adopts all of what it reads, a place and a
reconciliation do so too. What each leaves in the model is what the policies say
that it read, where it saved one.
-/

namespace SystemSettings

variable {B : Type} {K : Common} {G : GLib B} {m : ModelId} {t : TokenId} {s s' : Memory}
  {native : Option Bool} {saves : Prop} {T Q : String → String → Prop} {panel : Panel}

/-! ## The representation that a program leaves -/

/-- The clock and the calendar of the model are in `Q`, over a store with locking. -/
def RepresentationIn (m : ModelId) (Q : String → String → Prop) (s : Memory) : Prop :=
  ∀ priv, s.models m = some priv →
    priv.store.Locking ∧ Q priv.policy.clockMode priv.policy.calendar

/-- A policy that is read where one is saved has its clock and its calendar in `T`,
and the desktop answers what it has. -/
def ToldRepresentation (native : Option Bool) (saves : Prop) (T : String → String → Prop) :
    (c : Call B) → c.Answer → Prop
  | .load, some (policy, _) => saves → T policy.clockMode policy.calendar
  | .save _, true => saves
  | .clockUse24h, answer => answer = native
  | _, _ => True

/-- When the policies that are read have their representation in `T`, the program
ends in `R`. -/
abbrev UnderClock {α : Type} (native : Option Bool) (saves : Prop) (T : String → String → Prop)
    (R : α → Memory → Prop) (prog : Prog (Sys B) Memory α) : Prop :=
  prog.Under (fun _ => True) (ToldRepresentation native saves T) R

theorem RepresentationIn.setModel {priv : ModelPrivate} (hl : priv.store.Locking)
    (hQ : Q priv.policy.clockMode priv.policy.calendar) :
    RepresentationIn m Q (s.setModel m (some priv)) := by
  intro priv' hm
  rw [Memory.setModel_self] at hm
  obtain rfl := Option.some.inj hm
  exact ⟨hl, hQ⟩

@[simp] theorem representationIn_setToken (u : LocationUpdate) :
    RepresentationIn m Q (s.setToken t u) ↔ RepresentationIn m Q s := Iff.rfl

/-- The setters that adopt the clock and the calendar they read. -/
inductive ModelOp.Adopts : ModelOp → Prop where
  | setShowSeconds (showSeconds : Bool) : Adopts (.setShowSeconds showSeconds)
  | setLocation (configured : Bool) (latitude longitude : Double) :
      Adopts (.setLocation configured latitude longitude)

/-- Their changes leave both alone. -/
theorem ModelOp.Adopts.change {op : ModelOp} (h : op.Adopts)
    {edit : TemporalPolicyV3 → TemporalPolicyV3} (hc : op.change K = some edit)
    (policy : TemporalPolicyV3) :
    (edit policy).clockMode = policy.clockMode ∧ (edit policy).calendar = policy.calendar := by
  cases h with
  | setShowSeconds showSeconds =>
    obtain rfl := Option.some.inj hc
    exact ⟨rfl, rfl⟩
  | setLocation configured latitude longitude =>
    obtain ⟨-, hedit⟩ := (Option.ite_none_right_eq_some ..).mp hc
    obtain rfl := Option.some.inj hedit
    exact ⟨rfl, rfl⟩

theorem ModelOp.Adopts.representationIn {op : ModelOp} (hop : op.Adopts)
    (hTQ : ∀ c d, T c d → Q c d) (h : RepresentationIn m Q s) :
    UnderClock (B := B) native saves T (fun _ s' => RepresentationIn m Q s') (op.run K m s) := by
  have hl : ∀ priv, s.models m = some priv → priv.store.Locking := fun priv hm => (h priv hm).1
  refine Prog.under_of_told fun tr ok s' hy => ⟨fun _ _ => trivial, fun htold => ?_⟩
  cases ModelOp.run_outcome hl hy with
  | refused | lockRefused | loadFailed | saveFailed => exact h
  | saved priv _ edit x w₁ w₂ w₃ w₄ hm hs hc =>
    have hsaves : saves := htold (event (.save (edit x.1)) true w₃) (by simp)
    have hread := htold (event .load (some x) w₂) (by simp) hsaves
    obtain ⟨hclock, hcalendar⟩ := hop.change hc x.1
    refine .setModel (hl priv hm) ?_
    rw [hclock, hcalendar]
    exact hTQ _ _ hread
  | reloadFailed | reloaded | normalized | beginFailed | begun | finished | rolledBack
  | rollbackFailed => cases hop

/-- A policy that is reloaded is adopted whether or not one is saved. -/
theorem modelReload_representationIn (hsaves : saves) (hTQ : ∀ c d, T c d → Q c d)
    (h : RepresentationIn m Q s) :
    UnderClock (B := B) native saves T (fun _ s' => RepresentationIn m Q s')
      (modelReload K m s) := by
  have hl : ∀ priv, s.models m = some priv → priv.store.Locking := fun priv hm => (h priv hm).1
  refine Prog.under_of_told fun tr ok s' hy => ⟨fun _ _ => trivial, fun htold => ?_⟩
  cases modelReload_outcome hl hy with
  | refused | reloadFailed | lockRefused | loadFailed => exact h
  | reloaded priv x w hm =>
    exact .setModel (hl priv hm) (hTQ _ _ (htold _ (List.mem_cons_self ..) hsaves))
  | saveFailed _ _ _ _ _ _ _ _ _ _ hc => cases hc
  | saved _ _ _ _ _ _ _ _ _ _ hc => cases hc

/-- A clock that is set is one of those the catalogue has. -/
theorem modelSetClockMode_representationIn {id : String}
    (hid : saves → ∀ info calendar, K.clockModeFind id = some info →
      Q (K.copyClockMode info.id) calendar)
    (h : RepresentationIn m Q s) :
    UnderClock (B := B) native saves T (fun _ s' => RepresentationIn m Q s')
      (modelSetClockMode K m id s) := by
  have hl : ∀ priv, s.models m = some priv → priv.store.Locking := fun priv hm => (h priv hm).1
  refine Prog.under_of_told fun tr ok s' hy => ⟨fun _ _ => trivial, fun htold => ?_⟩
  have houtcome : (ModelOp.setClockMode id).Outcome K m s tr ok s' := ModelOp.run_outcome hl hy
  cases houtcome with
  | refused | lockRefused | loadFailed | saveFailed => exact h
  | saved priv _ edit x w₁ w₂ w₃ w₄ hm hs hc =>
    have hsaves : saves := htold (event (.save (edit x.1)) true w₃) (by simp)
    obtain ⟨info, hinfo, rfl⟩ := Option.map_eq_some_iff.mp hc
    exact .setModel (hl priv hm) (hid hsaves info _ hinfo)

/-- The setters of the clock and of the calendar. -/
inductive ModelOp.Represents : ModelOp → Prop where
  | setClockMode (clockMode : String) : Represents (.setClockMode clockMode)
  | setCalendar (calendarId : String) : Represents (.setCalendar calendarId)

/-- One that fails has changed nothing. -/
theorem ModelOp.Represents.keeps {op : ModelOp} (hop : op.Represents)
    (hl : RepresentationIn m (fun _ _ => True) s) :
    UnderClock (B := B) native saves T (fun ok s' => (ok = false → s' = s) ∧
      RepresentationIn m (fun _ _ => True) s') (op.run K m s) := by
  have hlock : ∀ priv, s.models m = some priv → priv.store.Locking := fun priv hm => (hl priv hm).1
  refine Prog.under_of_yields fun tr ok s' hy => ⟨fun _ _ => trivial, ?_⟩
  cases ModelOp.run_outcome hlock hy with
  | refused | lockRefused | loadFailed | saveFailed => exact ⟨fun _ => rfl, hl⟩
  | saved priv _ edit x w₁ w₂ w₃ w₄ hm hs hc =>
    exact ⟨fun hok => absurd hok (by decide), .setModel (hlock priv hm) trivial⟩
  | reloadFailed | reloaded | normalized | beginFailed | begun | finished | rolledBack
  | rollbackFailed => cases hop

/-! ### The locality -/

/-- What concerns only the locality leaves the model alone. -/
theorem Aside.underClock {α : Type} {prog : Prog (Sys B) Memory α} (h : Aside s prog) :
    UnderClock native saves T (fun _ s' => s' = s) prog := by
  induction prog with
  | ret a s' => exact h
  | call c s' k ih =>
    obtain ⟨-, rfl, hk⟩ := h
    exact ⟨trivial, fun r _ => ih r s' (hk r)⟩

theorem Aside.then {α β : Type} {prog : Prog (Sys B) Memory α}
    {f : α → Memory → Prog (Sys B) Memory β} {R : β → Memory → Prop} (h : Aside s prog)
    (hf : ∀ a, UnderClock native saves T R (f a s)) :
    UnderClock native saves T R (prog.bind f) := by
  refine h.underClock.bind ?_
  rintro a _ rfl
  exact hf a

/-- An update that is open has a representation in `Q` to go back to. -/
def UpdateIn (m : ModelId) (t : TokenId) (Q : String → String → Prop) (s : Memory) : Prop :=
  RepresentationIn m Q s ∧ ((s.tokens t).active = true →
    Q (s.tokens t).previousPolicy.clockMode (s.tokens t).previousPolicy.calendar)

theorem UpdateIn.init (h : RepresentationIn m Q s) :
    UpdateIn m t Q (s.setToken t LocationUpdate.init) :=
  ⟨h, fun hactive => absurd hactive (by simp [LocationUpdate.init])⟩

theorem modelBeginLocationUpdate_updateIn {configured : Bool} {latitude longitude : Double}
    (hTQ : ∀ c d, T c d → Q c d) (h : UpdateIn m t Q s) :
    UnderClock (B := B) native saves T
      (fun begun s' => UpdateIn m t Q s' ∧ (begun = true → saves))
      (modelBeginLocationUpdate m configured latitude longitude t s) := by
  have hl : ∀ priv, s.models m = some priv → priv.store.Locking := fun priv hm => (h.1 priv hm).1
  refine Prog.under_of_told fun tr ok s' hy => ⟨fun _ _ => trivial, fun htold => ?_⟩
  have houtcome := modelBeginLocationUpdate_outcome (K := Common.small) hl hy
  cases houtcome with
  | refused | lockRefused | loadFailed => exact ⟨h, fun hok => by cases hok⟩
  | beginFailed priv _ _ _ _ x w₁ w₂ w₃ w₄ hm hs ht =>
    exact ⟨⟨h.1, fun hactive => absurd hactive (by simp)⟩, fun hok => by cases hok⟩
  | begun priv _ _ _ _ x w₁ w₂ w₃ hm hs ht =>
    have hsaves : saves :=
      htold (event (.save (assignLocation configured latitude longitude x.1)) true w₃) (by simp)
    have hread := hTQ _ _ (htold (event .load (some x) w₂) (by simp) hsaves)
    refine ⟨⟨?_, fun _ => by simpa using hread⟩, fun _ => hsaves⟩
    rw [representationIn_setToken]
    exact .setModel (hl priv hm) hread
  | saveFailed _ _ _ _ _ _ _ _ _ _ hc => cases hc
  | saved _ _ _ _ _ _ _ _ _ _ hc => cases hc

theorem modelFinishLocationUpdate_updateIn (h : UpdateIn m t Q s) :
    UnderClock (B := B) native saves T (fun _ s' => RepresentationIn m Q s')
      (modelFinishLocationUpdate m t s) := by
  have hl : ∀ priv, s.models m = some priv → priv.store.Locking := fun priv hm => (h.1 priv hm).1
  refine Prog.under_of_yields fun tr ok s' hy => ⟨fun _ _ => trivial, ?_⟩
  have houtcome := modelFinishLocationUpdate_outcome (K := Common.small) hl hy
  cases houtcome with
  | refused | lockRefused | loadFailed => exact h.1
  | finished priv _ w ho =>
    rw [representationIn_setToken]
    exact .setModel (hl priv ho.1) (h.1 priv ho.1).2
  | saveFailed _ _ _ _ _ _ _ _ _ _ hc => cases hc
  | saved _ _ _ _ _ _ _ _ _ _ hc => cases hc

theorem modelRollbackLocationUpdate_updateIn (h : UpdateIn m t Q s) :
    UnderClock (B := B) native saves T (fun _ s' => RepresentationIn m Q s')
      (modelRollbackLocationUpdate m t s) := by
  have hl : ∀ priv, s.models m = some priv → priv.store.Locking := fun priv hm => (h.1 priv hm).1
  refine Prog.under_of_yields fun tr ok s' hy => ⟨fun _ _ => trivial, ?_⟩
  have houtcome := modelRollbackLocationUpdate_outcome (K := Common.small) hl hy
  cases houtcome with
  | refused | lockRefused | loadFailed => exact h.1
  | rolledBack priv _ undo w ho hu =>
    rw [representationIn_setToken]
    exact .setModel (hl priv ho.1) (h.2 ho.2.2.1)
  | rollbackFailed priv _ undo w ho hu =>
    rw [representationIn_setToken]
    exact .setModel (hl priv ho.1) (h.1 priv ho.1).2
  | saveFailed _ _ _ _ _ _ _ _ _ _ hc => cases hc
  | saved _ _ _ _ _ _ _ _ _ _ hc => cases hc

theorem commitStaged_representationIn {candidate : LocationMetadata} (hTQ : ∀ c d, T c d → Q c d)
    (h : RepresentationIn m Q s) :
    UnderClock (B := B) native saves T (fun _ s' => RepresentationIn m Q s')
      (commitStaged K G m t candidate panel s) := by
  refine Prog.Under.bind (Q := fun _ s' => UpdateIn m t Q s') (UpdateIn.init h) fun _ s h => ?_
  refine (modelBeginLocationUpdate_updateIn hTQ h).bind fun begun s h => ?_
  cases begun with
  | false => exact unlinkFile_aside.then fun _ => ⟨trivial, fun _ _ => h.1.1⟩
  | true =>
    refine locationMetadataFinishStaged_aside.then fun published => ?_
    cases published with
    | false =>
      have hsaves := h.2 rfl
      refine (modelRollbackLocationUpdate_updateIn h.1).bind fun restored s h => ?_
      cases restored with
      | true => exact unlinkFile_aside.then fun _ => ⟨trivial, fun _ _ => h⟩
      | false =>
        refine (modelReload_representationIn hsaves hTQ h).bind fun _ s h => ?_
        exact ⟨trivial, fun _ _ => h⟩
    | true =>
      refine (modelFinishLocationUpdate_updateIn h.1).bind fun finished s h => ?_
      cases finished with
      | true => exact ⟨trivial, fun _ _ => h⟩
      | false => exact ⟨trivial, fun _ _ => h⟩

theorem loadAuthoritativeLocationMetadata_aside :
    Aside s (loadAuthoritativeLocationMetadata G s) := by
  refine locationMetadataLoadStatus_aside.bind fun loaded => ?_
  obtain ⟨status, metadata⟩ := loaded
  cases status <;> rfl

theorem commitLocation_representationIn {candidate : LocationMetadata} (hTQ : ∀ c d, T c d → Q c d)
    (h : RepresentationIn m Q s) :
    UnderClock (B := B) native saves T (fun _ s' => RepresentationIn m Q s')
      (commitLocation K G m t candidate panel s) := by
  refine ⟨trivial, fun begun _ => ?_⟩
  cases begun with
  | false => exact h
  | true =>
    simp only [Prog.ret_bind, if_true, Action.bind_run]
    refine loadAuthoritativeLocationMetadata_aside.then fun loaded => ?_
    cases loaded with
    | none => exact ⟨trivial, fun _ _ => h⟩
    | some previous =>
      refine ⟨trivial, fun system _ => ?_⟩
      simp only [Prog.ret_bind, Action.bind_run]
      refine metadataSavePath_aside.then fun staged => ?_
      cases staged with
      | false => exact ⟨trivial, fun _ _ => h⟩
      | true => exact commitStaged_representationIn hTQ h

theorem reconcileReference_representationIn {policy : Option TemporalPolicyV3}
    {matchesSystem : Bool} (hTQ : ∀ c d, T c d → Q c d) (h : RepresentationIn m Q s) :
    UnderClock (B := B) native saves T (fun _ s' => RepresentationIn m Q s')
      (reconcileReference m policy matchesSystem panel s) := by
  simp only [reconcileReference, Action.when_run]
  split
  · split
    · have hset : UnderClock (B := B) native saves T (fun _ s' => RepresentationIn m Q s')
          (modelSetLocation m true panel.regionalContext.referenceLatitude
            panel.regionalContext.referenceLongitude s) :=
        (ModelOp.Adopts.setLocation ..).representationIn (K := Common.small) hTQ h
      exact hset.bind fun _ s h => h
    · exact h
  · exact h

theorem reconcileSystemTimeChange_representationIn {systemState : SystemTimeState}
    (hsaves : saves) (hTQ : ∀ c d, T c d → Q c d) (h : RepresentationIn m Q s) :
    UnderClock (B := B) native saves T (fun _ s' => RepresentationIn m Q s')
      (reconcileSystemTimeChange K G m systemState panel s) := by
  simp only [reconcileSystemTimeChange]
  split
  · exact h
  · refine ⟨trivial, fun regional _ => ?_⟩
    simp only [Prog.ret_bind]
    split
    · refine ⟨trivial, fun begun _ => ?_⟩
      cases begun with
      | false => exact h
      | true =>
        refine ⟨trivial, fun locked _ => ⟨trivial, fun regional _ => ?_⟩⟩
        simp only [Prog.ret_bind, Action.bind_run, Prog.bind_assoc]
        refine (modelReload_representationIn hsaves hTQ h).bind fun reloaded s h => ?_
        refine locationMetadataLoadStatus_aside.then fun loaded => ?_
        cases reloaded with
        | false => exact ⟨trivial, fun _ _ => h⟩
        | true =>
          simp only [if_true, Action.bind_run, modelPolicy_run, Prog.ret_bind, Prog.bind_assoc]
          refine reconcileMetadata_aside.then fun panel => ?_
          refine (reconcileReference_representationIn hTQ h).bind fun _ s h => ?_
          exact ⟨trivial, fun _ _ => h⟩
    · exact h

/-- The desktop's clock, over a policy that follows it. -/
theorem onCinnamonInterfaceChanged_representationIn {updatingControls : Bool} {key : String}
    (h : RepresentationIn m Q s) (hTQ : key ≠ "clock-use-24h" → ∀ c d, T c d → Q c d)
    (hnative : key = "clock-use-24h" → ∀ (priv : ModelPrivate) (nativeValue : Bool),
      s.models m = some priv → nativeClockModeTracksDesktop priv.policy.clockMode = true →
      native = some nativeValue → saves → ∀ info calendar,
        K.clockModeFind (nativeClockModeId nativeValue) = some info →
        Q (K.copyClockMode info.id) calendar) :
    UnderClock (B := B) native saves T (fun _ s' => RepresentationIn m Q s')
      (onCinnamonInterfaceChanged K m updatingControls key s) := by
  cases hm : s.models m with
  | none =>
    cases updatingControls <;> simp [onCinnamonInterfaceChanged, hm] <;> exact h
  | some priv =>
  cases updatingControls with
  | true => exact h
  | false =>
    simp only [onCinnamonInterfaceChanged, modelIsSaving_run, hm, Action.bind_run, Prog.ret_bind,
      Option.any_some, Bool.false_eq_true, if_false]
    cases priv.saving with
    | true => exact h
    | false =>
    simp only [Bool.false_eq_true, if_false, Action.bind_run, modelPolicy_run, hm,
      Option.map_some, Prog.ret_bind]
    split
    · next hkey =>
      split
      · next htracks =>
        refine ⟨trivial, fun answer hanswer => ?_⟩
        cases answer with
        | none => exact h
        | some nativeValue =>
          simp only [Prog.ret_bind, Action.when_run]
          split
          · have hset : UnderClock (B := B) native saves T (fun _ s' => RepresentationIn m Q s')
                (modelSetClockMode K m (nativeClockModeId nativeValue) s) :=
              modelSetClockMode_representationIn
                (hnative hkey priv nativeValue hm htracks hanswer.symm) h
            exact hset.bind fun _ s h => h
          · exact h
      · exact h
    · next hkey =>
      split
      · refine ⟨trivial, fun answer _ => ?_⟩
        cases answer with
        | none => exact h
        | some nativeValue =>
          simp only [Prog.ret_bind, Action.when_run]
          split
          · have hset : UnderClock (B := B) native saves T (fun _ s' => RepresentationIn m Q s')
                (modelSetShowSeconds m nativeValue s) :=
              (ModelOp.Adopts.setShowSeconds ..).representationIn (K := Common.small) (hTQ hkey) h
            exact hset.bind fun _ s h => h
          · exact h
      · exact h

end SystemSettings

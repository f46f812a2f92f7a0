import SystemSettings.DateTimeModel

/-!
# What a model operation can do

Over a store with locking, every operation of the model ends in one of a dozen
ways. `ModelOp.Outcome` lists them, each with the exact calls it makes, its
result and the memory it leaves, and `ModelOp.run_outcome` says that there are
no others. The invariants of the model are case analyses on `Outcome` and never
look at the code again.
-/

namespace SystemSettings

variable {B W : Type} {K : Common} {m : ModelId} {s s' : Memory} {priv : ModelPrivate}
  {tr : List (Event (Sys B) W)}

/-- An event with its parts in a row. -/
abbrev event (c : Call B) (r : c.Answer) (w : W) : Event (Sys B) W := ⟨c, r, w⟩

/-! ## The shared steps -/

theorem releaseUpdateLock_yields (hm : s.models m = some priv) (hl : priv.store.Locking)
    (hs : priv.saving = true) {u : Unit} (h : (releaseUpdateLock m s).Yields tr u s') :
    ∃ w, tr = [event .endUpdate () w] ∧ s' = s.setModel m (some { priv with saving := false }) := by
  simp [releaseUpdateLock, hm, hs, hl.beginUpdate, hl.endUpdate] at h
  obtain ⟨⟨r, w, rfl⟩, rfl⟩ := h
  exact ⟨w, rfl, rfl⟩

/-- The three ways of not getting a candidate, and the one of getting it. -/
theorem beginCandidate_yields (hm : s.models m = some priv) (hl : priv.store.Locking)
    {a : Option (TemporalPolicyV3 × Bool)} (h : (beginCandidate m s).Yields tr a s') :
    (tr = [] ∧ a = none ∧ s' = s) ∨
    priv.saving = false ∧
      ((∃ w, tr = [event .beginUpdate false w] ∧ a = none ∧ s' = s) ∨
      (∃ w₁ w₂ w₃, tr = [event .beginUpdate true w₁, event .load none w₂,
          event .endUpdate () w₃] ∧ a = none ∧ s' = s) ∨
      (∃ x w₁ w₂, tr = [event .beginUpdate true w₁, event .load (some x) w₂] ∧ a = some x ∧
        s' = s.setModel m (some { priv with saving := true }))) := by
  cases hs : priv.saving with
  | true =>
    simp [beginCandidate, hm, hs, hl.save] at h
    exact .inl h
  | false =>
    -- the flag goes up and down again, which leaves the memory as it was
    have same : s.setModel m (some { priv with saving := false }) = s := by
      rw [← hs]
      exact Memory.setModel_eq_self hm
    refine .inr ⟨rfl, ?_⟩
    simp [beginCandidate, hm, hs, hl.save, hl.beginUpdate, hl.load, same] at h
    rcases h with ⟨⟨w₁, rfl⟩, rfl, rfl⟩ | ⟨w₁, r, w₂, tr₁, rfl, h⟩
    · exact .inl ⟨w₁, rfl, rfl, rfl⟩
    cases r with
    | none =>
      obtain ⟨tr₂, u, s₁, tr₃, h₁, h₂, rfl⟩ := Prog.yields_bind h
      have held := s.setModel_self m (some { priv with saving := true })
      obtain ⟨w₃, rfl, rfl⟩ := releaseUpdateLock_yields held hl rfl h₁
      simp [same] at h₂
      obtain ⟨rfl, rfl, rfl⟩ := h₂
      exact .inr (.inl ⟨w₁, w₂, w₃, rfl, rfl, rfl⟩)
    | some x =>
      simp at h
      obtain ⟨rfl, rfl, rfl⟩ := h
      exact .inr (.inr ⟨x, w₁, w₂, rfl, rfl, rfl⟩)

theorem saveCandidate_yields (hm : s.models m = some priv) (hl : priv.store.Locking)
    (hs : priv.saving = true) {candidate : TemporalPolicyV3} {a : Bool}
    (h : (saveCandidate m candidate s).Yields tr a s') :
    ∃ w₁ w₂, tr = [event (.save candidate) a w₁, event .endUpdate () w₂] ∧
      s' = s.setModel m (some (if a then
          { priv with policy := candidate, persistedPolicyPresent := true, saving := false }
        else { priv with saving := false })) := by
  simp [saveCandidate, hm, hs, hl.save] at h
  rcases h with ⟨w₁, tr₁, rfl, h⟩ | ⟨w₁, tr₁, rfl, h⟩
  all_goals
    obtain ⟨tr₂, u, s₁, tr₃, h₁, h₂, rfl⟩ := Prog.yields_bind h
    obtain ⟨w₂, rfl, rfl⟩ := releaseUpdateLock_yields hm hl hs h₁
    simp at h₂
    obtain ⟨rfl, rfl, rfl⟩ := h₂
    exact ⟨w₁, w₂, rfl, rfl⟩

/-! ## The outcomes -/

namespace ModelOp

variable (K) in
/-- The change a setter makes to the candidate. `none` for a refused argument,
and for the operations that are not setters. -/
def change : ModelOp → Option (TemporalPolicyV3 → TemporalPolicyV3)
  | setClockMode clockMode => (validClockMode K clockMode).map (assignClockMode K)
  | setCalendar calendarId =>
    if validCalendar K calendarId then some (assignCalendar K calendarId) else none
  | setShowSeconds showSeconds => some (assignShowSeconds showSeconds)
  | setLocation configured latitude longitude =>
    if validLocation latitude longitude then some (assignLocation configured latitude longitude)
    else none
  | _ => none

variable (K) in
/-- The operations that take the lock: setters with a valid argument, and the
begin of a location update. -/
def TakesLock (op : ModelOp) : Prop :=
  op.change K ≠ none ∨ ∃ configured latitude longitude t,
    op = .beginLocationUpdate configured latitude longitude t

/-- A setter is `setField` at its change. -/
theorem run_of_change {op : ModelOp} {edit : TemporalPolicyV3 → TemporalPolicyV3}
    (h : op.change K = some edit) : (op.run K m : SysM B Bool) = setField m edit := by
  cases op with
  | setClockMode clockMode =>
    cases hv : validClockMode K clockMode with
    | none => simp [change, hv] at h
    | some info =>
      simp [change, hv] at h
      simp [run, modelSetClockMode, hv, h]
  | setCalendar calendarId =>
    simp [change] at h
    simp [run, modelSetCalendar, h]
  | setShowSeconds showSeconds =>
    simp [change] at h
    simp [run, modelSetShowSeconds, h]
  | setLocation configured latitude longitude =>
    simp [change] at h
    simp [run, modelSetLocation, h]
  | _ => simp [change] at h

/-- The token `t` belongs to an update that `m` has open. -/
def Open (s : Memory) (m : ModelId) (t : TokenId) (priv : ModelPrivate) : Prop :=
  s.models m = some priv ∧ priv.saving = true ∧ (s.tokens t).active = true ∧
    (s.tokens t).model = some m

theorem open_of_updateOpen {t : TokenId} (hm : s.models m = some priv)
    (h : updateOpen m (s.tokens t) priv = true) : Open s m t priv := by
  simp only [updateOpen, Bool.and_eq_true, beq_iff_eq] at h
  exact ⟨hm, h.2, h.1.1, h.1.2⟩

/-- A token after its update has ended. -/
def closed (u : LocationUpdate) : LocationUpdate := { u with active := false, model := none }

/-- The undo of a location update: the call that was tried and whether the store
took it. Without a `clear` hook there is nothing to call. -/
inductive Undo (u : LocationUpdate) (store : TemporalPolicyStore) :
    List (Event (Sys B) W) → Bool → Prop where
  /-- a document is saved back -/
  | save (ok : Bool) (w : W) : u.previousPersistedPolicyPresent = true →
      Undo u store [event (.save u.previousPolicy) ok w] ok
  /-- the absence of one is restored -/
  | clear (ok : Bool) (w : W) : u.previousPersistedPolicyPresent = false →
      Undo u store [event .clear ok w] ok
  /-- the store cannot clear -/
  | unable : u.previousPersistedPolicyPresent = false → store.clear = false →
      Undo u store [] false

variable (K m s) in
/-- The ways an operation can end: its calls, its result and the memory after.
An operation that does not appear in a constructor's guard may end in it. -/
inductive Outcome : ModelOp → List (Event (Sys B) W) → Bool → Memory → Prop where
  /-- a guard refuses the call -/
  | refused (op : ModelOp) : Outcome op [] false s
  /-- `reload` cannot read -/
  | reloadFailed (priv : ModelPrivate) (w : W) : s.models m = some priv → priv.saving = false →
      Outcome .reload [event .load none w] false s
  /-- `reload` publishes what it read -/
  | reloaded (priv : ModelPrivate) (x : TemporalPolicyV3 × Bool) (w : W) :
      s.models m = some priv → priv.saving = false →
      Outcome .reload [event .load (some x) w] true
        (s.setModel m (some { priv with policy := x.1, persistedPolicyPresent := x.2 }))
  /-- the clock mode is normalised in memory -/
  | normalized (priv : ModelPrivate) (clockMode : String) (info : ClockModeInfo) :
      s.models m = some priv → priv.saving = false → priv.persistedPolicyPresent = false →
      validClockMode K clockMode = some info →
      Outcome (.normalize clockMode) [] true
        (s.setModel m (some { priv with policy := assignClockMode K info priv.policy }))
  /-- the lock is refused -/
  | lockRefused (priv : ModelPrivate) (op : ModelOp) (w : W) :
      s.models m = some priv → priv.saving = false → op.TakesLock K →
      Outcome op [event .beginUpdate false w] false s
  /-- the candidate cannot be read -/
  | loadFailed (priv : ModelPrivate) (op : ModelOp) (w₁ w₂ w₃ : W) :
      s.models m = some priv → priv.saving = false → op.TakesLock K →
      Outcome op [event .beginUpdate true w₁, event .load none w₂, event .endUpdate () w₃] false s
  /-- a setter cannot save -/
  | saveFailed (priv : ModelPrivate) (op : ModelOp)
      (edit : TemporalPolicyV3 → TemporalPolicyV3) (x : TemporalPolicyV3 × Bool)
      (w₁ w₂ w₃ w₄ : W) :
      s.models m = some priv → priv.saving = false → op.change K = some edit →
      Outcome op [event .beginUpdate true w₁, event .load (some x) w₂,
        event (.save (edit x.1)) false w₃, event .endUpdate () w₄] false s
  /-- a setter persists its change and publishes it -/
  | saved (priv : ModelPrivate) (op : ModelOp)
      (edit : TemporalPolicyV3 → TemporalPolicyV3) (x : TemporalPolicyV3 × Bool)
      (w₁ w₂ w₃ w₄ : W) :
      s.models m = some priv → priv.saving = false → op.change K = some edit →
      Outcome op [event .beginUpdate true w₁, event .load (some x) w₂,
        event (.save (edit x.1)) true w₃, event .endUpdate () w₄] true
        (s.setModel m (some { priv with policy := edit x.1, persistedPolicyPresent := true }))
  /-- a location update cannot save -/
  | beginFailed (priv : ModelPrivate) (configured : Bool) (latitude longitude : Double)
      (t : TokenId) (x : TemporalPolicyV3 × Bool) (w₁ w₂ w₃ w₄ : W) :
      s.models m = some priv → priv.saving = false → (s.tokens t).active = false →
      Outcome (.beginLocationUpdate configured latitude longitude t)
        [event .beginUpdate true w₁, event .load (some x) w₂,
          event (.save (assignLocation configured latitude longitude x.1)) false w₃,
          event .endUpdate () w₄] false
        (s.setToken t ⟨none, x.1, x.2, false⟩)
  /-- a location update is open, and keeps the lock -/
  | begun (priv : ModelPrivate) (configured : Bool) (latitude longitude : Double)
      (t : TokenId) (x : TemporalPolicyV3 × Bool) (w₁ w₂ w₃ : W) :
      s.models m = some priv → priv.saving = false → (s.tokens t).active = false →
      Outcome (.beginLocationUpdate configured latitude longitude t)
        [event .beginUpdate true w₁, event .load (some x) w₂,
          event (.save (assignLocation configured latitude longitude x.1)) true w₃] true
        ((s.setModel m (some { priv with
            policy := assignLocation configured latitude longitude x.1
            persistedPolicyPresent := true, saving := true })).setToken t
          ⟨some m, x.1, x.2, true⟩)
  /-- a location update is finished -/
  | finished (priv : ModelPrivate) (t : TokenId) (w : W) : Open s m t priv →
      Outcome (.finishLocationUpdate t) [event .endUpdate () w] true
        ((s.setModel m (some { priv with saving := false })).setToken t (closed (s.tokens t)))
  /-- a location update is rolled back -/
  | rolledBack (priv : ModelPrivate) (t : TokenId) (undo : List (Event (Sys B) W)) (w : W) :
      Open s m t priv → Undo (s.tokens t) priv.store undo true →
      Outcome (.rollbackLocationUpdate t) (undo ++ [event .endUpdate () w]) true
        ((s.setModel m (some { priv with
            policy := (s.tokens t).previousPolicy
            persistedPolicyPresent := (s.tokens t).previousPersistedPolicyPresent
            saving := false })).setToken t (closed (s.tokens t)))
  /-- a location update cannot be rolled back -/
  | rollbackFailed (priv : ModelPrivate) (t : TokenId) (undo : List (Event (Sys B) W)) (w : W) :
      Open s m t priv → Undo (s.tokens t) priv.store undo false →
      Outcome (.rollbackLocationUpdate t) (undo ++ [event .endUpdate () w]) false
        ((s.setModel m (some { priv with saving := false })).setToken t (closed (s.tokens t)))

end ModelOp

section Cases

variable {ok : Bool} (hl : ∀ priv, s.models m = some priv → priv.store.Locking)

include hl

theorem setField_outcome {op : ModelOp} {edit : TemporalPolicyV3 → TemporalPolicyV3}
    (hc : op.change K = some edit) (h : (setField m edit s).Yields tr ok s') :
    op.Outcome K m s tr ok s' := by
  cases hm : s.models m with
  | none =>
    simp [setField, beginCandidate, hm] at h
    obtain ⟨rfl, rfl, rfl⟩ := h
    exact .refused op
  | some priv =>
    have takes : op.TakesLock K := .inl (by rw [hc]; exact Option.some_ne_none edit)
    simp only [setField, Action.bind_run] at h
    obtain ⟨tr₁, a, s₁, tr₂, h₁, h₂, rfl⟩ := Prog.yields_bind h
    rcases beginCandidate_yields hm (hl priv hm) h₁ with ⟨rfl, rfl, rfl⟩ | ⟨hs, h₁⟩
    · simp at h₂
      obtain ⟨rfl, rfl, rfl⟩ := h₂
      exact .refused op
    rcases h₁ with ⟨w₁, rfl, rfl, rfl⟩ | ⟨w₁, w₂, w₃, rfl, rfl, rfl⟩ | ⟨x, w₁, w₂, rfl, rfl, rfl⟩
    · simp at h₂
      obtain ⟨rfl, rfl, rfl⟩ := h₂
      exact .lockRefused priv op w₁ hm hs takes
    · simp at h₂
      obtain ⟨rfl, rfl, rfl⟩ := h₂
      exact .loadFailed priv op w₁ w₂ w₃ hm hs takes
    · have held := s.setModel_self m (some { priv with saving := true })
      obtain ⟨w₃, w₄, rfl, rfl⟩ := saveCandidate_yields held (hl priv hm) rfl h₂
      cases ok with
      | false =>
        have same : s.setModel m (some { priv with saving := false }) = s := by
          rw [← hs]
          exact Memory.setModel_eq_self hm
        simpa [same] using ModelOp.Outcome.saveFailed priv op edit x w₁ w₂ w₃ w₄ hm hs hc
      | true =>
        simpa [← hs] using ModelOp.Outcome.saved priv op edit x w₁ w₂ w₃ w₄ hm hs hc

theorem modelReload_outcome (h : (modelReload K m s).Yields tr ok s') :
    ModelOp.Outcome K m s .reload tr ok s' := by
  cases hm : s.models m with
  | none =>
    simp [modelReload, hm] at h
    obtain ⟨rfl, rfl, rfl⟩ := h
    exact .refused .reload
  | some priv =>
    cases hs : priv.saving with
    | true =>
      simp [modelReload, hm, hs] at h
      obtain ⟨rfl, rfl, rfl⟩ := h
      exact .refused .reload
    | false =>
      cases hK : K.policyDefault with
      | none =>
        simp [modelReload, hm, hK] at h
        obtain ⟨rfl, rfl, rfl⟩ := h
        exact .refused .reload
      | some policy =>
        simp [modelReload, hm, hs, hK, (hl priv hm).load] at h
        obtain ⟨r, w, tr₁, rfl, h⟩ := h
        cases r with
        | none =>
          simp at h
          obtain ⟨rfl, rfl, rfl⟩ := h
          exact .reloadFailed priv w hm hs
        | some x =>
          simp [hm] at h
          obtain ⟨rfl, rfl, rfl⟩ := h
          exact .reloaded priv x w hm hs

omit hl in
theorem modelNormalizeUnpersistedClockMode_outcome {clockMode : String}
    (h : (modelNormalizeUnpersistedClockMode K m clockMode s).Yields tr ok s') :
    ModelOp.Outcome K m s (.normalize clockMode) tr ok s' := by
  cases hm : s.models m with
  | none =>
    simp [modelNormalizeUnpersistedClockMode, hm] at h
    obtain ⟨rfl, rfl, rfl⟩ := h
    exact .refused (.normalize clockMode)
  | some priv =>
    cases hv : validClockMode K clockMode with
    | none =>
      simp [modelNormalizeUnpersistedClockMode, hm, hv] at h
      obtain ⟨rfl, rfl, rfl⟩ := h
      exact .refused (.normalize clockMode)
    | some info =>
      cases hs : priv.saving <;> cases hp : priv.persistedPolicyPresent
      · simp [modelNormalizeUnpersistedClockMode, hm, hv, hs, hp] at h
        obtain ⟨rfl, rfl, rfl⟩ := h
        simpa [hs, hp] using ModelOp.Outcome.normalized priv clockMode info hm hs hp hv
      all_goals
        simp [modelNormalizeUnpersistedClockMode, hm, hv, hs, hp] at h
        obtain ⟨rfl, rfl, rfl⟩ := h
        exact .refused (.normalize clockMode)

theorem modelBeginLocationUpdate_outcome {configured : Bool} {latitude longitude : Double}
    {t : TokenId}
    (h : (modelBeginLocationUpdate m configured latitude longitude t s).Yields tr ok s') :
    ModelOp.Outcome K m s (.beginLocationUpdate configured latitude longitude t) tr ok s' := by
  cases hm : s.models m with
  | none =>
    simp [modelBeginLocationUpdate, hm] at h
    obtain ⟨rfl, rfl, rfl⟩ := h
    exact .refused _
  | some priv =>
    by_cases hg : ((s.tokens t).active || !validLocation latitude longitude ||
        !priv.store.beginUpdate || !priv.store.endUpdate || !priv.store.clear) = true
    · simp only [modelBeginLocationUpdate, Action.bind_run, readModel_run, hm, Prog.ret_bind,
        readToken_run, hg, if_true, Action.pure_run] at h
      obtain ⟨rfl, rfl, rfl⟩ := h
      exact .refused _
    have ht : (s.tokens t).active = false := by
      cases ht : (s.tokens t).active with
      | false => rfl
      | true => simp [ht] at hg
    simp only [modelBeginLocationUpdate, Action.bind_run, readModel_run, hm, Prog.ret_bind,
      readToken_run, hg] at h
    obtain ⟨tr₁, a, s₁, tr₂, h₁, h₂, rfl⟩ := Prog.yields_bind h
    rcases beginCandidate_yields hm (hl priv hm) h₁ with ⟨rfl, rfl, rfl⟩ | ⟨hs, h₁⟩
    · obtain ⟨rfl, rfl, rfl⟩ := h₂
      exact .refused _
    rcases h₁ with ⟨w₁, rfl, rfl, rfl⟩ | ⟨w₁, w₂, w₃, rfl, rfl, rfl⟩ | ⟨x, w₁, w₂, rfl, rfl, rfl⟩
    · obtain ⟨rfl, rfl, rfl⟩ := h₂
      exact .lockRefused priv _ w₁ hm hs (.inr ⟨_, _, _, _, rfl⟩)
    · obtain ⟨rfl, rfl, rfl⟩ := h₂
      exact .loadFailed priv _ w₁ w₂ w₃ hm hs (.inr ⟨_, _, _, _, rfl⟩)
    · simp at h₂
      rcases h₂ with ⟨w₃, tr₃, rfl, h₂⟩ | ⟨⟨w₃, rfl⟩, rfl, rfl⟩
      · obtain ⟨tr₄, u, s₁, tr₅, h₃, h₄, rfl⟩ := Prog.yields_bind h₂
        have held := ((s.setModel m (some { priv with saving := true })).setToken t
          ⟨some m, x.1, x.2, false⟩).setModel_self m (some { priv with saving := true })
        simp only [Memory.setToken_setModel, Memory.setModel_setModel] at held
        obtain ⟨w₄, rfl, rfl⟩ := releaseUpdateLock_yields held (hl priv hm) rfl h₃
        have same : s.setModel m (some { priv with saving := false }) = s := by
          rw [← hs]
          exact Memory.setModel_eq_self hm
        simp [Memory.setToken_setModel, same] at h₄
        obtain ⟨rfl, rfl, rfl⟩ := h₄
        exact .beginFailed priv configured latitude longitude t x w₁ w₂ w₃ w₄ hm hs ht
      · simpa [Memory.setToken_setModel] using
          ModelOp.Outcome.begun priv configured latitude longitude t x w₁ w₂ w₃ hm hs ht

theorem modelFinishLocationUpdate_outcome {t : TokenId}
    (h : (modelFinishLocationUpdate m t s).Yields tr ok s') :
    ModelOp.Outcome K m s (.finishLocationUpdate t) tr ok s' := by
  cases hm : s.models m with
  | none =>
    simp [modelFinishLocationUpdate, hm] at h
    obtain ⟨rfl, rfl, rfl⟩ := h
    exact .refused _
  | some priv =>
    cases hg : updateOpen m (s.tokens t) priv with
    | false =>
      simp [modelFinishLocationUpdate, hm, hg] at h
      obtain ⟨rfl, rfl, rfl⟩ := h
      exact .refused _
    | true =>
      simp [modelFinishLocationUpdate, hm, hg] at h
      obtain ⟨tr₁, u, s₁, tr₂, h₁, h₂, rfl⟩ := Prog.yields_bind h
      have ho := ModelOp.open_of_updateOpen hm hg
      obtain ⟨w, rfl, rfl⟩ := releaseUpdateLock_yields hm (hl priv hm) ho.2.1 h₁
      obtain ⟨rfl, rfl, rfl⟩ := h₂
      exact .finished priv t w ho

omit hl in
/-- The three undos of a rollback. -/
theorem undo_yields {u : LocationUpdate} {store : TemporalPolicyStore}
    (h : (if u.previousPersistedPolicyPresent then storeSave u.previousPolicy
      else if store.clear then storeClear else pure false : SysM B Bool) s |>.Yields tr ok s') :
    s' = s ∧ ModelOp.Undo u store tr ok := by
  cases hp : u.previousPersistedPolicyPresent with
  | true =>
    simp only [hp, if_true, storeSave_run] at h
    obtain ⟨r, w, tr₁, rfl, rfl, rfl, rfl⟩ := h
    exact ⟨rfl, .save _ w hp⟩
  | false =>
    cases hc : store.clear with
    | true =>
      simp only [hp, hc, if_true, Bool.false_eq_true, if_false, storeClear_run] at h
      obtain ⟨r, w, tr₁, rfl, rfl, rfl, rfl⟩ := h
      exact ⟨rfl, .clear _ w hp⟩
    | false =>
      simp only [hp, hc, Bool.false_eq_true, if_false] at h
      obtain ⟨rfl, rfl, rfl⟩ := h
      exact ⟨rfl, .unable hp hc⟩

theorem modelRollbackLocationUpdate_outcome {t : TokenId}
    (h : (modelRollbackLocationUpdate m t s).Yields tr ok s') :
    ModelOp.Outcome K m s (.rollbackLocationUpdate t) tr ok s' := by
  cases hm : s.models m with
  | none =>
    simp [modelRollbackLocationUpdate, hm] at h
    obtain ⟨rfl, rfl, rfl⟩ := h
    exact .refused _
  | some priv =>
    cases hg : updateOpen m (s.tokens t) priv with
    | false =>
      simp [modelRollbackLocationUpdate, hm, hg] at h
      obtain ⟨rfl, rfl, rfl⟩ := h
      exact .refused _
    | true =>
      simp only [modelRollbackLocationUpdate, Action.bind_run, readModel_run, hm, Prog.ret_bind,
        readToken_run, hg, if_true] at h
      have ho := ModelOp.open_of_updateOpen hm hg
      obtain ⟨undo, restored, s₁, tr₁, h₁, h₂, rfl⟩ := Prog.yields_bind h
      obtain ⟨same, hu⟩ := undo_yields h₁
      rw [same] at h₂
      cases restored with
      | false =>
        simp only [Action.bind_run, Action.when_run, Prog.ret_bind, if_false,
          Bool.false_eq_true, readToken_run] at h₂
        obtain ⟨tr₂, _, s₂, tr₃, h₃, h₄, rfl⟩ := Prog.yields_bind h₂
        obtain ⟨w, rfl, rfl⟩ := releaseUpdateLock_yields hm (hl priv hm) ho.2.1 h₃
        obtain ⟨rfl, rfl, rfl⟩ := h₄
        exact .rollbackFailed priv t undo w ho hu
      | true =>
        simp only [Action.bind_run, Action.when_run, Prog.ret_bind, if_true, modifyModel_run, hm,
          Option.map_some, readToken_run] at h₂
        obtain ⟨tr₂, _, s₂, tr₃, h₃, h₄, rfl⟩ := Prog.yields_bind h₂
        have held := s.setModel_self m (some { priv with
          policy := (s.tokens t).previousPolicy
          persistedPolicyPresent := (s.tokens t).previousPersistedPolicyPresent })
        obtain ⟨w, rfl, rfl⟩ := releaseUpdateLock_yields held (hl priv hm) ho.2.1 h₃
        obtain ⟨rfl, rfl, rfl⟩ := h₄
        simpa [ModelOp.closed] using ModelOp.Outcome.rolledBack priv t undo w ho hu

/-- Every run of an operation is one of the outcomes. -/
theorem ModelOp.run_outcome {op : ModelOp} (h : (op.run K m s).Yields tr ok s') :
    op.Outcome K m s tr ok s' := by
  cases hc : op.change K with
  | some edit =>
    rw [ModelOp.run_of_change hc] at h
    exact setField_outcome hl hc h
  | none =>
    cases op with
    | reload => exact modelReload_outcome hl h
    | normalize clockMode => exact modelNormalizeUnpersistedClockMode_outcome h
    | beginLocationUpdate configured latitude longitude t =>
      exact modelBeginLocationUpdate_outcome hl h
    | finishLocationUpdate t => exact modelFinishLocationUpdate_outcome hl h
    | rollbackLocationUpdate t => exact modelRollbackLocationUpdate_outcome hl h
    | setClockMode clockMode =>
      simp [change] at hc
      simp [run, modelSetClockMode, hc] at h
      obtain ⟨rfl, rfl, rfl⟩ := h
      exact .refused _
    | setCalendar calendarId =>
      simp [change] at hc
      simp [run, modelSetCalendar, hc] at h
      obtain ⟨rfl, rfl, rfl⟩ := h
      exact .refused _
    | setLocation configured latitude longitude =>
      simp [change] at hc
      simp [run, modelSetLocation, hc] at h
      obtain ⟨rfl, rfl, rfl⟩ := h
      exact .refused _
    | setShowSeconds showSeconds => simp [change] at hc

end Cases

end SystemSettings

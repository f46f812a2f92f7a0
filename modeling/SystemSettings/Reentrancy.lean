import SystemSettings.LockBalance

/-!
# Calls from inside the store

A store callback may call back into the model whose operation it serves. The
`saving` flag refuses such a call, with one exception: while a location update
is being ended, the token that is being ended is still active, and ending it
again from inside the callback goes through. `reentrancy_refused` says that
this is the only one.
-/

namespace SystemSettings

variable {D B W : Type} {St : Storage D} {p : Pid} {R : World D B → World D B → Prop}
  {K : Common} {m : ModelId} {store : TemporalPolicyStore} {s s' s₀ s₁ : Memory}
  {w w' w₀ : World D B} {ok : Bool} {t : TokenId} {priv : ModelPrivate}
  {c : Call B}

/-! ## Hooked runs -/

/-- The callbacks a store may call back from. -/
def Call.IsCallback : Call B → Prop
  | .save _ | .clear | .endUpdate => True
  | _ => False

/-- An operation that can be in progress: one of the model's, or `clear`. -/
inductive Outer : Type where
  /-- an operation -/
  | op (op : ModelOp)
  /-- `ss_date_time_model_clear` -/
  | clear

/-- Run it. `clear` has no result. -/
def Outer.run (K : Common) (m : ModelId) : Outer → SysM B Bool
  | op o => o.run K m
  | clear => do
    modelClear m
    pure true

variable (St p R K m) in
/-- Calls are answered as usual, but a callback may first or last make the call
`inner` on the model. -/
def reenter (inner : ModelOp) : Machine (Sys B) Memory (World D B) :=
  fun s w c r s' w' =>
    (s' = s ∧ World.Step St p R w ⟨c, r, w'⟩) ∨
    c.IsCallback ∧
      ((∃ tr ok w₁, (inner.run K m s).Exec (World.machine St p R) w tr ok s' w₁ ∧
        World.Step St p R w₁ ⟨c, r, w'⟩) ∨
      (∃ tr ok w₁, World.Step St p R w ⟨c, r, w₁⟩ ∧
        (inner.run K m s).Exec (World.machine St p R) w₁ tr ok s' w'))

variable (St p R K m) in
/-- The call `inner`, made from inside `outer`, is refused: it returns false and
changes nothing wherever it is made, and `outer` goes as it would have gone
without it. -/
structure Refused (outer : Outer) (inner : ModelOp) (s : Memory) (w : World D B) : Prop where
  /-- at every callback, before and after its effect -/
  silent : ∀ c s₁ w₁ w₂, (outer.run K m s).Reaches (World.machine St p R) w c s₁ w₁ →
    c.IsCallback → w₂ = w₁ ∨ (∃ r, World.Step St p R w₁ ⟨c, r, w₂⟩) →
    ∀ tr ok s₃ w₃, (inner.run K m s₁).Exec (World.machine St p R) w₂ tr ok s₃ w₃ →
      ok = false ∧ s₃ = s₁ ∧ w₃ = w₂
  /-- same calls, same answers, same result, same memory and world -/
  unseen : ∀ tr ok s' w', (outer.run K m s).Exec (reenter St p R K m inner) w tr ok s' w' →
    (outer.run K m s).Exec (World.machine St p R) w tr ok s' w'

/-- If the inner call is refused at every callback, the hooked run is a plain run. -/
theorem exec_of_reenter {α : Type} {inner : ModelOp} {prog : Prog (Sys B) Memory α}
    (hi : ∀ c s₁ w₁ w₂, prog.Reaches (World.machine St p R) w c s₁ w₁ →
      c.IsCallback → w₂ = w₁ ∨ (∃ r, World.Step St p R w₁ ⟨c, r, w₂⟩) →
      ∀ tr ok s₃ w₃, (inner.run K m s₁).Exec (World.machine St p R) w₂ tr ok s₃ w₃ →
        ok = false ∧ s₃ = s₁ ∧ w₃ = w₂)
    {tr : List (Event (Sys B) (World D B))} {a : α}
    (h : prog.Exec (reenter St p R K m inner) w tr a s' w') :
    prog.Exec (World.machine St p R) w tr a s' w' := by
  induction prog generalizing w tr with
  | ret a s => exact h
  | call c s k ih =>
    obtain ⟨r, s₁, w₁, tr₁, hT, rfl, h⟩ := h
    have plain : s₁ = s ∧ World.Step St p R w ⟨c, r, w₁⟩ := by
      rcases hT with hT | ⟨hc, ⟨_, _, w₂, hx, hs⟩ | ⟨_, _, w₂, hs, hx⟩⟩
      · exact hT
      · obtain ⟨-, rfl, rfl⟩ := hi c s w w (.inl ⟨rfl, rfl, rfl⟩) hc (.inl rfl) _ _ _ _ hx
        exact ⟨rfl, hs⟩
      · obtain ⟨-, rfl, rfl⟩ := hi c s w w₂ (.inl ⟨rfl, rfl, rfl⟩) hc (.inr ⟨r, hs⟩) _ _ _ _ hx
        exact ⟨rfl, hs⟩
    obtain ⟨rfl, hs⟩ := plain
    refine ⟨r, s₁, w₁, tr₁, ⟨rfl, hs⟩, rfl, ih r s₁ (fun c' s₂ w₂ w₃ hr => ?_) h⟩
    exact hi c' s₂ w₂ w₃ (.inr ⟨r, s₁, w₁, ⟨rfl, hs⟩, hr⟩)

/-! ## What a callback sees -/

/-- The operations that end the update of a token. -/
def ModelOp.Ends (op : ModelOp) (t : TokenId) : Prop :=
  op = .finishLocationUpdate t ∨ op = .rollbackLocationUpdate t

/-- The same from outside; `clear` ends every update of its model. -/
def Outer.Ends : Outer → TokenId → Prop
  | op o, t => o.Ends t
  | clear, _ => True

/-- The memory `s₁` that a callback sees when `outer` was called in `s`: the
model is saving, and the only token that can be active is one that `outer` is
about to end. -/
structure Guarded (m : ModelId) (outer : Outer) (s s₁ : Memory) : Prop where
  /-- the model is saving -/
  saving : Saving s₁ m
  /-- with its store -/
  locking : ∀ priv, s₁.models m = some priv → priv.store.Locking
  /-- an active token is being ended -/
  tokens : ∀ t, ActiveFor s₁ m t → Saving s m ∧ ActiveFor s m t ∧ outer.Ends t

theorem releaseUpdateLock_calls (hm : s.models m = some priv) (hl : priv.store.Locking)
    (h : (releaseUpdateLock m s : Prog (Sys B) Memory Unit).Calls c s₁) :
    s₁ = s ∧ priv.saving = true := by
  cases hs : priv.saving with
  | false => simp [releaseUpdateLock, hm, hs] at h
  | true =>
    simp [releaseUpdateLock, hm, hs, hl.beginUpdate, hl.endUpdate] at h
    exact ⟨h.2, rfl⟩

theorem beginCandidate_calls (hm : s.models m = some priv) (hl : priv.store.Locking)
    (h : (beginCandidate m s : Prog (Sys B) Memory _).Calls c s₁) (hc : c.IsCallback) :
    priv.saving = false ∧ s₁ = s.setModel m (some { priv with saving := true }) := by
  cases hs : priv.saving with
  | true => simp [beginCandidate, hm, hs, hl.save] at h
  | false =>
    refine ⟨rfl, ?_⟩
    simp [beginCandidate, hm, hs, hl.save, hl.beginUpdate, hl.load] at h
    rcases h with ⟨rfl, -⟩ | ⟨rfl, -⟩ | ⟨r, h⟩
    · exact hc.elim
    · exact hc.elim
    · cases r with
      | none =>
        rcases Prog.calls_bind h with h | ⟨_, _, _, _, h⟩
        · have held := s.setModel_self m (some { priv with saving := true })
          exact (releaseUpdateLock_calls held hl h).1
        · exact h.elim
      | some x => exact h.elim

theorem saveCandidate_calls (hm : s.models m = some priv) (hl : priv.store.Locking)
    {candidate : TemporalPolicyV3}
    (h : (saveCandidate m candidate s : Prog (Sys B) Memory _).Calls c s₁) :
    s₁ = s ∧ priv.saving = true := by
  cases hs : priv.saving with
  | false => simp [saveCandidate, hm, hs] at h
  | true =>
    refine ⟨?_, rfl⟩
    simp [saveCandidate, hm, hs, hl.save] at h
    rcases h with ⟨-, rfl⟩ | h | h
    · rfl
    all_goals
      rcases Prog.calls_bind h with h | ⟨_, _, _, _, h⟩
      · exact (releaseUpdateLock_calls hm hl h).1
      · simp at h

theorem modelReload_calls (h : (modelReload K m s : Prog (Sys B) Memory _).Calls c s₁) :
    ¬ c.IsCallback := by
  cases hm : s.models m with
  | none => simp [modelReload, hm] at h
  | some priv =>
    by_cases hg : (!priv.store.load || priv.saving || K.policyDefault.isNone) = true
    · simp only [modelReload, Action.bind_run, readModel_run, hm, Prog.ret_bind, hg, if_true] at h
      exact h.elim
    · simp only [modelReload, Action.bind_run, readModel_run, hm, Prog.ret_bind, hg] at h
      rcases h with ⟨rfl, -⟩ | ⟨r, h⟩
      · exact id
      · cases r <;> exact h.elim

theorem modelNormalizeUnpersistedClockMode_calls {clockMode : String}
    (h : (modelNormalizeUnpersistedClockMode K m clockMode s :
      Prog (Sys B) Memory _).Calls c s₁) : False := by
  cases hm : s.models m with
  | none => simp [modelNormalizeUnpersistedClockMode, hm] at h
  | some priv =>
    cases hv : validClockMode K clockMode with
    | none => simp [modelNormalizeUnpersistedClockMode, hm, hv] at h
    | some info =>
      simp only [modelNormalizeUnpersistedClockMode, Action.bind_run, readModel_run, hm,
        Prog.ret_bind, hv] at h
      split at h <;> exact h.elim

section Callbacks

variable (hl : ∀ priv, s.models m = some priv → priv.store.Locking) (ht : TokensBalanced s m)

include hl ht

/-- A model that was idle has no active token, and raising its flag activates
none. -/
theorem Guarded.of_idle {outer : Outer} (hm : s.models m = some priv) (hs : priv.saving = false)
    {priv' : ModelPrivate} (hm₁ : s₁.models m = some priv') (hs' : priv'.saving = true)
    (hst : priv'.store = priv.store) (htok : ∀ t, ActiveFor s₁ m t → ActiveFor s m t) :
    Guarded m outer s s₁ := by
  refine ⟨⟨priv', hm₁, hs'⟩, fun priv'' hm'' => ?_, fun t ha => ?_⟩
  · rw [← Option.some.inj (hm₁.symm.trans hm''), hst]
    exact hl priv hm
  · exact absurd (htok t ha) (ht.of_idle hm hs t)

theorem setField_guarded {outer : Outer} {edit : TemporalPolicyV3 → TemporalPolicyV3}
    (h : (setField m edit s : Prog (Sys B) Memory _).Calls c s₁) (hc : c.IsCallback) :
    Guarded m outer s s₁ := by
  cases hm : s.models m with
  | none => simp [setField, beginCandidate, hm] at h
  | some priv =>
    have raised := s.setModel_self m (some { priv with saving := true })
    simp only [setField, Action.bind_run] at h
    rcases Prog.calls_bind h with h | ⟨tr, a, s₂, hy, h⟩
    · obtain ⟨hs, rfl⟩ := beginCandidate_calls hm (hl priv hm) h hc
      exact .of_idle hl ht hm hs raised rfl rfl fun _ ha => ha
    · cases a with
      | none => exact h.elim
      | some x =>
        rcases beginCandidate_yields hm (hl priv hm) hy with ⟨-, h', -⟩ |
          ⟨hs, ⟨_, -, h', -⟩ | ⟨_, _, _, -, h', -⟩ | ⟨_, _, _, -, -, rfl⟩⟩
        · cases h'
        · cases h'
        · cases h'
        · obtain ⟨rfl, -⟩ := saveCandidate_calls raised (hl priv hm) h
          exact .of_idle hl ht hm hs raised rfl rfl fun _ ha => ha

theorem modelBeginLocationUpdate_guarded {outer : Outer} {configured : Bool}
    {latitude longitude : Double} {t : TokenId}
    (h : (modelBeginLocationUpdate m configured latitude longitude t s :
      Prog (Sys B) Memory _).Calls c s₁) (hc : c.IsCallback) : Guarded m outer s s₁ := by
  cases hm : s.models m with
  | none => simp [modelBeginLocationUpdate, hm] at h
  | some priv =>
    by_cases hg : ((s.tokens t).active || !validLocation latitude longitude ||
        !priv.store.beginUpdate || !priv.store.endUpdate || !priv.store.clear) = true
    · simp only [modelBeginLocationUpdate, Action.bind_run, readModel_run, hm, Prog.ret_bind,
        readToken_run, hg, if_true, Action.pure_run] at h
      exact h.elim
    have raised := s.setModel_self m (some { priv with saving := true })
    simp only [modelBeginLocationUpdate, Action.bind_run, readModel_run, hm, Prog.ret_bind,
      readToken_run, hg] at h
    rcases Prog.calls_bind h with h | ⟨tr, a, s₂, hy, h⟩
    · obtain ⟨hs, rfl⟩ := beginCandidate_calls hm (hl priv hm) h hc
      exact .of_idle hl ht hm hs raised rfl rfl fun _ ha => ha
    cases a with
    | none => exact h.elim
    | some x =>
      rcases beginCandidate_yields hm (hl priv hm) hy with ⟨-, h', -⟩ |
        ⟨hs, ⟨_, -, h', -⟩ | ⟨_, _, _, -, h', -⟩ | ⟨_, _, _, -, -, rfl⟩⟩
      · cases h'
      · cases h'
      · cases h'
      -- from here on every call sees the flag up and the token inactive
      have seen : Guarded m outer s ((s.setModel m (some { priv with saving := true })).setToken t
          ⟨some m, x.1, x.2, false⟩) :=
        .of_idle hl ht hm hs raised rfl rfl fun _ ha => (ha.of_setToken rfl).2
      simp at h
      rcases h with ⟨-, rfl⟩ | h
      · exact seen
      · rcases Prog.calls_bind h with h | ⟨_, _, _, _, h⟩
        · rw [(releaseUpdateLock_calls (s := (s.setModel m
            (some { priv with saving := true })).setToken t ⟨some m, x.1, x.2, false⟩)
            raised (hl priv hm) h).1]
          exact seen
        · simp at h

/-- Ending an update: the token is the only active one. -/
theorem Guarded.of_open {outer : Outer} (ho : ModelOp.Open s m t priv) (he : outer.Ends t)
    {priv' : ModelPrivate} (hm₁ : s₁.models m = some priv') (hs' : priv'.saving = true)
    (hst : priv'.store = priv.store) (htok : s₁.tokens = s.tokens) : Guarded m outer s s₁ := by
  refine ⟨⟨priv', hm₁, hs'⟩, fun priv'' hm'' => ?_, fun t' ha => ?_⟩
  · rw [← Option.some.inj (hm₁.symm.trans hm''), hst]
    exact hl priv ho.1
  · have ha' : ActiveFor s m t' := by simpa [ActiveFor, htok] using ha
    obtain rfl := ht.unique t' t ha' ho.2.2
    exact ⟨ho.saving, ha', he⟩

theorem modelFinishLocationUpdate_guarded {outer : Outer} (he : outer.Ends t)
    (h : (modelFinishLocationUpdate m t s : Prog (Sys B) Memory _).Calls c s₁) :
    Guarded m outer s s₁ := by
  cases hm : s.models m with
  | none => simp [modelFinishLocationUpdate, hm] at h
  | some priv =>
    cases hg : updateOpen m (s.tokens t) priv with
    | false => simp [modelFinishLocationUpdate, hm, hg] at h
    | true =>
      have ho := ModelOp.open_of_updateOpen hm hg
      simp [modelFinishLocationUpdate, hm, hg] at h
      rcases Prog.calls_bind h with h | ⟨_, _, _, _, h⟩
      · rw [(releaseUpdateLock_calls hm (hl priv hm) h).1]
        exact .of_open hl ht ho he hm ho.2.1 rfl rfl
      · simp at h

theorem modelRollbackLocationUpdate_guarded {outer : Outer} (he : outer.Ends t)
    (h : (modelRollbackLocationUpdate m t s : Prog (Sys B) Memory _).Calls c s₁) :
    Guarded m outer s s₁ := by
  cases hm : s.models m with
  | none => simp [modelRollbackLocationUpdate, hm] at h
  | some priv =>
    cases hg : updateOpen m (s.tokens t) priv with
    | false => simp [modelRollbackLocationUpdate, hm, hg] at h
    | true =>
      have ho := ModelOp.open_of_updateOpen hm hg
      simp only [modelRollbackLocationUpdate, Action.bind_run, readModel_run, hm, Prog.ret_bind,
        readToken_run, hg, if_true] at h
      rcases Prog.calls_bind h with h | ⟨undo, restored, s₂, hy, h⟩
      · -- the undo itself
        have same : s₁ = s := by
          split at h
          · simp at h
            exact h.2
          · split at h
            · simp at h
              exact h.2
            · exact h.elim
        rw [same]
        exact .of_open hl ht ho he hm ho.2.1 rfl rfl
      · -- the release, with the policy restored or not
        obtain ⟨rfl, -⟩ := undo_yields hy
        cases restored with
        | false =>
          simp only [Action.bind_run, Action.when_run, Prog.ret_bind, if_false,
            Bool.false_eq_true, readToken_run] at h
          rcases Prog.calls_bind h with h | ⟨_, _, _, _, h⟩
          · rw [(releaseUpdateLock_calls hm (hl priv hm) h).1]
            exact .of_open hl ht ho he hm ho.2.1 rfl rfl
          · simp at h
        | true =>
          simp only [Action.bind_run, Action.when_run, Prog.ret_bind, if_true, modifyModel_run,
            hm, Option.map_some, readToken_run] at h
          rcases Prog.calls_bind h with h | ⟨_, _, _, _, h⟩
          · have held := s₂.setModel_self m (some { priv with
              policy := (s₂.tokens t).previousPolicy
              persistedPolicyPresent := (s₂.tokens t).previousPersistedPolicyPresent })
            rw [(releaseUpdateLock_calls held (hl priv hm) h).1]
            exact .of_open hl ht ho he held ho.2.1 rfl rfl
          · simp at h

/-- Every callback of every operation is guarded. -/
theorem Outer.guarded {outer : Outer}
    (h : (outer.run K m s : Prog (Sys B) Memory _).Calls c s₁) (hc : c.IsCallback) :
    Guarded m outer s s₁ := by
  cases outer with
  | clear =>
    simp only [run, modelClear, Action.bind_run] at h
    rcases Prog.calls_bind h with h | ⟨_, _, _, _, h⟩
    · rcases Prog.calls_bind h with h | ⟨_, _, _, _, h⟩
      · cases hm : s.models m with
        | none => simp [releaseUpdateLock, hm] at h
        | some priv =>
          obtain ⟨rfl, hs⟩ := releaseUpdateLock_calls hm (hl priv hm) h
          exact ⟨⟨priv, hm, hs⟩, hl, fun t ha => ⟨⟨priv, hm, hs⟩, ha, trivial⟩⟩
      · exact h.elim
    · exact h.elim
  | op op =>
    simp only [run] at h
    cases hch : op.change K with
    | some edit =>
      rw [ModelOp.run_of_change hch] at h
      exact setField_guarded hl ht h hc
    | none =>
      cases op with
      | beginLocationUpdate configured latitude longitude t =>
        exact modelBeginLocationUpdate_guarded hl ht h hc
      | finishLocationUpdate t => exact modelFinishLocationUpdate_guarded hl ht (.inl rfl) h
      | rollbackLocationUpdate t => exact modelRollbackLocationUpdate_guarded hl ht (.inr rfl) h
      | reload =>
        -- its only call is `load`, which is not one of the callbacks
        exact absurd hc (modelReload_calls h)
      | normalize clockMode => exact (modelNormalizeUnpersistedClockMode_calls h).elim
      | setClockMode clockMode =>
        simp [ModelOp.change] at hch
        simp [ModelOp.run, modelSetClockMode, hch] at h
      | setCalendar calendarId =>
        simp [ModelOp.change] at hch
        simp [ModelOp.run, modelSetCalendar, hch] at h
      | setShowSeconds showSeconds => simp [ModelOp.change] at hch
      | setLocation configured latitude longitude =>
        simp [ModelOp.change] at hch
        simp [ModelOp.run, modelSetLocation, hch] at h

end Callbacks

/-! ## The inner call -/

/-- A call on a saving model is refused, unless it ends an active token. -/
theorem ModelOp.Outcome.of_saving {op : ModelOp} {tr : List (Event (Sys B) W)}
    (hs : Saving s m) (ht : ∀ t, op.Ends t → ¬ ActiveFor s m t)
    (h : op.Outcome K m s tr ok s') : tr = [] ∧ ok = false ∧ s' = s := by
  have busy : ∀ priv, s.models m = some priv → priv.saving = false → False := by
    intro priv hm hs'
    simp [saving_iff hm, hs'] at hs
  cases h with
  | refused => exact ⟨rfl, rfl, rfl⟩
  | reloadFailed priv _ hm hs' | reloaded priv _ _ hm hs' | normalized priv _ _ hm hs'
  | lockRefused priv _ _ hm hs' | loadFailed priv _ _ _ _ hm hs'
  | saveFailed priv _ _ _ _ _ _ _ hm hs' | saved priv _ _ _ _ _ _ _ hm hs'
  | beginFailed priv _ _ _ _ _ _ _ _ _ hm hs' | begun priv _ _ _ _ _ _ _ _ hm hs' =>
    exact (busy priv hm hs').elim
  | finished priv t w ho => exact absurd ho.2.2 (ht t (.inl rfl))
  | rolledBack priv t undo w ho | rollbackFailed priv t undo w ho =>
    exact absurd ho.2.2 (ht t (.inr rfl))

theorem releaseUpdateLock_starts (hm : s.models m = some priv) (hl : priv.store.Locking)
    (hs : priv.saving = true) :
    (releaseUpdateLock m s : Prog (Sys B) Memory Unit).Starts .endUpdate s := by
  simp [releaseUpdateLock, hm, hs, hl.beginUpdate, hl.endUpdate, Prog.Starts]

/-- Ending an open update starts with a callback, in the memory it was called with. -/
theorem ModelOp.Open.starts {op : ModelOp} (ho : ModelOp.Open s m t priv)
    (hl : priv.store.Locking) (he : op.Ends t) :
    ∃ c, (op.run K m s : Prog (Sys B) Memory Bool).Starts c s ∧ c.IsCallback := by
  have hg : updateOpen m (s.tokens t) priv = true := by
    simp [updateOpen, ho.2.1, ho.2.2.1, ho.2.2.2]
  have release := releaseUpdateLock_starts (B := B) ho.1 hl ho.2.1
  rcases he with rfl | rfl
  · refine ⟨.endUpdate, ?_, trivial⟩
    simp only [run, modelFinishLocationUpdate, Action.bind_run, readModel_run, ho.1,
      Prog.ret_bind, readToken_run, hg, if_true]
    exact release.bind
  · simp only [run, modelRollbackLocationUpdate, Action.bind_run, readModel_run, ho.1,
      Prog.ret_bind, readToken_run, hg, if_true]
    cases (s.tokens t).previousPersistedPolicyPresent with
    | true => exact ⟨.save _, ⟨rfl, rfl⟩, trivial⟩
    | false =>
      cases priv.store.clear with
      | true => exact ⟨.clear, ⟨rfl, rfl⟩, trivial⟩
      | false => exact ⟨.endUpdate, release.bind, trivial⟩

/-- An operation that ends an update and makes a call leaves the token inactive. -/
theorem ModelOp.Outcome.ended {op : ModelOp} {tr : List (Event (Sys B) W)} (he : op.Ends t)
    (hne : tr ≠ []) (h : op.Outcome K m s tr ok s') : ¬ ActiveFor s' m t := by
  have setter : op.change K = none := by rcases he with rfl | rfl <;> rfl
  have takes : ¬ op.TakesLock K := by
    rcases he with rfl | rfl <;> simp [TakesLock, change]
  cases h with
  | refused => exact absurd rfl hne
  | reloadFailed | reloaded | normalized | beginFailed | begun => rcases he with h | h <;> cases h
  | lockRefused _ _ _ _ _ htl | loadFailed _ _ _ _ _ _ _ htl => exact absurd htl takes
  | saveFailed _ _ _ _ _ _ _ _ _ _ hc | saved _ _ _ _ _ _ _ _ _ _ hc =>
    rw [setter] at hc
    cases hc
  | finished priv t' w ho | rolledBack priv t' undo w ho | rollbackFailed priv t' undo w ho =>
    rcases he with h | h <;> cases h
    simp [ActiveFor, closed]

theorem Outer.starts {outer : Outer} (ho : ModelOp.Open s m t priv) (hl : priv.store.Locking)
    (he : outer.Ends t) :
    ∃ c, (outer.run K m s : Prog (Sys B) Memory Bool).Starts c s ∧ c.IsCallback := by
  cases outer with
  | op op => exact ho.starts hl he
  | clear => exact ⟨.endUpdate, ((releaseUpdateLock_starts ho.1 hl ho.2.1).bind).bind, trivial⟩

/-! ## Refusal -/

/-- When a call from inside is refused. In every state that a session reaches,
the call `inner` made from inside `outer` is refused if and only if the two are
not about to end the same open update. -/
theorem reentrancy_refused {inner : ModelOp} {outer : Outer} (hm : s₀.models m = none)
    (hb : store.beginUpdate = true) (he : store.endUpdate = true)
    (ht : ∀ t, ¬ ActiveFor s₀ m t) (hw : w₀.policyLock ≠ some p)
    {log : List (Entry D B)}
    (h : Session St p (World.Others p) K m store s₀ w₀ log s w) :
    Refused St p (World.Others p) K m outer inner s w ↔
      ¬ ∃ t priv, ModelOp.Open s m t priv ∧ outer.Ends t ∧ inner.Ends t := by
  have hi := h.balanced hm hb he ht hw
  constructor
  · -- both end the update of `t`: the inner call gets through at the first callback
    rintro href ⟨t, priv, ho, hout, hin⟩
    obtain ⟨c, hstart, hc⟩ := Outer.starts (K := K) (B := B) ho (hi.locking priv ho.1) hout
    have hx := World.play_exec (R := World.Others p) St p (fun w => Iff.rfl)
      (inner.run K m s) w []
    obtain ⟨-, same, -⟩ := href.silent c s w w hstart.reaches hc (.inl rfl) _ _ _ _ hx
    obtain ⟨hy, -⟩ := Prog.exec_quiet.mp hx
    obtain ⟨c', hstart', -⟩ := ho.starts (K := K) (B := B) (hi.locking priv ho.1) hin
    have hended := (ModelOp.run_outcome hi.locking hy).ended hin (hstart'.trace_ne_nil hy)
    rw [same] at hended
    exact hended ho.2.2
  · intro hno
    have silent : ∀ c s₁ w₁ w₂,
        (outer.run K m s).Reaches (World.machine St p (World.Others p)) w c s₁ w₁ →
        c.IsCallback → w₂ = w₁ ∨ (∃ r, World.Step St p (World.Others p) w₁ ⟨c, r, w₂⟩) →
        ∀ tr ok s₃ w₃, (inner.run K m s₁).Exec (World.machine St p (World.Others p)) w₂ tr ok s₃ w₃ →
          ok = false ∧ s₃ = s₁ ∧ w₃ = w₂ := by
      intro c s₁ w₁ w₂ hr hc _ tr ok s₃ w₃ hx
      obtain ⟨hy, hp⟩ := Prog.exec_quiet.mp hx
      have hg := Outer.guarded hi.locking hi.tokens hr.calls hc
      have free : ∀ t, inner.Ends t → ¬ ActiveFor s₁ m t := by
        intro t hin ha
        obtain ⟨⟨priv, hm', hs'⟩, ha', hout⟩ := hg.tokens t ha
        exact hno ⟨t, priv, ⟨hm', hs', ha'⟩, hout, hin⟩
      obtain ⟨rfl, rfl, rfl⟩ := (ModelOp.run_outcome hg.locking hy).of_saving hg.saving free
      exact ⟨rfl, rfl, hp⟩
    exact ⟨silent, fun tr ok s' w' hx => exec_of_reenter silent hx⟩

/-- A setter from inside the `finish` of the concrete session is refused. -/
theorem reentrancy_refused_setter :
    Refused smallStorage 1 (World.Others 1) Common.small 0 (.op (.finishLocationUpdate 0))
      (.setShowSeconds false) smallBegun.2.2.1 smallBegun.2.2.2 := by
  have idle : ∀ t, ¬ ActiveFor Memory.empty 0 t := by
    simp [ActiveFor, Memory.empty, LocationUpdate.init]
  have hw : (World.fresh none : World (Option TemporalPolicyV3) Unit).policyLock ≠ some 1 := by
    decide
  refine (reentrancy_refused rfl rfl rfl idle hw (smallBegun_session fun w => Iff.rfl)).mpr ?_
  rintro ⟨t, priv, -, -, h | h⟩ <;> cases h

/-- A second `finish` from inside the `finish` of the concrete session, with the
token in use, is not: its `end_update` callback finds the token still active and
the model still saving, and the inner call returns true. -/
theorem reentrancy_refused_counterexample :
    ¬ Refused smallStorage 1 (World.Others 1) Common.small 0 (.op (.finishLocationUpdate 0))
      (.finishLocationUpdate 0) smallBegun.2.2.1 smallBegun.2.2.2 := by
  intro h
  have hstart : (Outer.run (B := Unit) Common.small 0 (.op (.finishLocationUpdate 0))
      smallBegun.2.2.1).Starts .endUpdate smallBegun.2.2.1 := ⟨rfl, rfl⟩
  obtain ⟨hfalse, -, -⟩ := h.silent .endUpdate _ _ _ hstart.reaches trivial (.inl rfl) _ _ _ _
    (World.play_exec smallStorage 1 (fun w => Iff.rfl) _ _ [])
  have htrue : (World.play smallStorage 1 ((ModelOp.finishLocationUpdate 0).run Common.small 0
      smallBegun.2.2.1) smallBegun.2.2.2 []).2.1 = true := by decide +kernel
  exact Bool.false_ne_true (hfalse.symm.trans htrue)

end SystemSettings

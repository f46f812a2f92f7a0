import SystemSettings.ModelSession

/-!
# The lock of a model is balanced

Between the operations of a session the store lock is held exactly when the
model is saving, every lock that was taken is given back once, and only a
location update that began keeps it across operations.
-/

namespace SystemSettings

variable {D B W : Type} {St : Storage D} {p : Pid}
  {K : Common} {m : ModelId} {store : TemporalPolicyStore}
  {s s' s₀ : Memory} {w w' w₀ : World D B} {tr tr' : List (Event (Sys B) (World D B))}
  {op : ModelOp} {ok : Bool}

/-! ## The lock along a trace -/

/-- What an event does to the lock: take it (`true`), give it back (`false`) or
nothing. A refused `begin_update` does nothing. -/
def lockEvent : Event (Sys B) W → Option Bool
  | ⟨.beginUpdate, taken, _⟩ => if taken then some true else none
  | ⟨.endUpdate, _, _⟩ => some false
  | _ => none

/-- The takes and gives of a trace, in order. -/
def lockEvents (tr : List (Event (Sys B) W)) : List Bool := tr.filterMap lockEvent

@[simp] theorem lockEvents_nil : lockEvents ([] : List (Event (Sys B) W)) = [] := rfl

@[simp] theorem lockEvents_append (tr tr' : List (Event (Sys B) W)) :
    lockEvents (tr ++ tr') = lockEvents tr ++ lockEvents tr' := List.filterMap_append ..

/-- Every take is given back once, before the next one. -/
inductive Paired : List Bool → Prop where
  /-- nothing was taken -/
  | nil : Paired []
  /-- one more take, given back -/
  | pair {l : List Bool} : Paired l → Paired (l ++ [true, false])

/-- Whether a lock that was held or not is held after some takes and gives. -/
def heldAfter (h : Prop) (l : List Bool) : Prop := l.foldl (fun _ taken => taken = true) h

@[simp] theorem heldAfter_nil (h : Prop) : heldAfter h [] = h := rfl

@[simp] theorem heldAfter_cons (h : Prop) (taken : Bool) (l : List Bool) :
    heldAfter h (taken :: l) = heldAfter (taken = true) l := rfl

/-- Others do as they like but neither take nor give back the lock of `p`. -/
def World.Others (p : Pid) (w w' : World D B) : Prop :=
  w'.policyLock = some p ↔ w.policyLock = some p

theorem World.Step.lock {e : Event (Sys B) (World D B)} (h : World.Step St p (Others p) w e) :
    e.world.policyLock = some p ↔
      heldAfter (w.policyLock = some p) (lockEvents [e]) := by
  obtain ⟨w₁, ok, hR, hr, hw⟩ := h
  obtain ⟨c, r, w'⟩ := e
  simp only at hr hw
  subst hr hw
  unfold Others at hR
  cases c with
  | beginUpdate =>
    simp only [World.respond, lockEvents, lockEvent, List.filterMap]
    split
    · simp
    · simp [hR]
  | endUpdate =>
    simp only [World.respond, lockEvents, lockEvent, List.filterMap]
    split
    · simp
    · next h => simpa using h
  | save policy =>
    simp only [World.respond, lockEvents, lockEvent, List.filterMap]
    split <;> exact hR
  | writeFile f data => cases f <;> cases ok <;> exact hR
  | unlinkFile f => cases f <;> cases ok <;> exact hR
  | clear => cases ok <;> exact hR
  | transactionBegin =>
    simp only [World.respond, lockEvents, lockEvent, List.filterMap]
    split <;> exact hR
  | transactionEnd =>
    simp only [World.respond, lockEvents, lockEvent, List.filterMap]
    split <;> exact hR
  | _ => exact hR

/-- The lock of `p` after a trace is what the trace's own events make of it. -/
theorem World.path_lock (h : Prog.Path (World.Step St p (Others p)) w tr w') :
    w'.policyLock = some p ↔ heldAfter (w.policyLock = some p) (lockEvents tr) := by
  induction tr generalizing w with
  | nil => rw [h]; rfl
  | cons e tr ih =>
    rw [ih h.2, show e :: tr = [e] ++ tr from rfl, lockEvents_append]
    simp only [heldAfter, List.foldl_append]
    rw [propext (World.Step.lock h.1)]
    rfl

/-! ## One operation -/

/-- The token `t` is active and belongs to `m`. -/
def ActiveFor (s : Memory) (m : ModelId) (t : TokenId) : Prop :=
  (s.tokens t).active = true ∧ (s.tokens t).model = some m

/-- The four ways an operation uses the lock. -/
inductive LockUse (s s' : Memory) (m : ModelId) (op : ModelOp) (ok : Bool) : List Bool → Prop where
  /-- not at all; an operation that succeeds so finds the model idle -/
  | none : (Saving s' m ↔ Saving s m) → (ok = true → ¬ Saving s m) → LockUse s s' m op ok []
  /-- take it and give it back -/
  | both : ¬ Saving s m → ¬ Saving s' m → LockUse s s' m op ok [true, false]
  /-- take it and keep it: a location update began -/
  | take {configured : Bool} {latitude longitude : Double} {t : TokenId} :
      ¬ Saving s m → Saving s' m → op = .beginLocationUpdate configured latitude longitude t →
      ok = true → LockUse s s' m op ok [true]
  /-- give it back -/
  | give : Saving s m → ¬ Saving s' m → LockUse s s' m op ok [false]

theorem ModelOp.Open.saving {t : TokenId} {priv : ModelPrivate} (h : ModelOp.Open s m t priv) :
    Saving s m := ⟨priv, h.1, h.2.1⟩

theorem saving_iff {priv : ModelPrivate} (hm : s.models m = some priv) :
    Saving s m ↔ priv.saving = true := by
  simp [Saving, hm]

@[simp] theorem saving_setToken (t : TokenId) (u : LocationUpdate) :
    Saving (s.setToken t u) m ↔ Saving s m := Iff.rfl

@[simp] theorem saving_setModel (priv : ModelPrivate) :
    Saving (s.setModel m (some priv)) m ↔ priv.saving = true :=
  saving_iff (Memory.setModel_self ..)

theorem ModelOp.Undo.lockEvents {u : LocationUpdate} {tr : List (Event (Sys B) W)}
    (h : ModelOp.Undo u store tr ok) : lockEvents tr = [] := by
  cases h <;> rfl

theorem ModelOp.Outcome.lockUse {tr : List (Event (Sys B) W)}
    (h : op.Outcome K m s tr ok s') : LockUse s s' m op ok (lockEvents tr) := by
  cases h with
  | refused | reloadFailed | lockRefused => exact .none Iff.rfl (by simp)
  | reloaded priv x w hm hs | normalized priv clockMode info hm hs =>
    exact .none (by simp [saving_iff hm]) (by simp [saving_iff hm, hs])
  | loadFailed priv op w₁ w₂ w₃ hm hs =>
    have idle : ¬ Saving s m := by simp [saving_iff hm, hs]
    exact .both idle idle
  | saveFailed priv op edit x w₁ w₂ w₃ w₄ hm hs =>
    have idle : ¬ Saving s m := by simp [saving_iff hm, hs]
    exact .both idle idle
  | saved priv op edit x w₁ w₂ w₃ w₄ hm hs =>
    exact .both (by simp [saving_iff hm, hs]) (by simp [hs])
  | beginFailed priv configured latitude longitude t x w₁ w₂ w₃ w₄ hm hs =>
    have idle : ¬ Saving s m := by simp [saving_iff hm, hs]
    exact .both idle idle
  | begun priv configured latitude longitude t x w₁ w₂ w₃ hm hs =>
    exact .take (by simp [saving_iff hm, hs]) (by simp) rfl rfl
  | finished priv t w ho => exact .give ⟨priv, ho.1, ho.2.1⟩ (by simp)
  | rolledBack priv t undo w ho hu =>
    rw [lockEvents_append, hu.lockEvents]
    exact .give ⟨priv, ho.1, ho.2.1⟩ (by simp)
  | rollbackFailed priv t undo w ho hu =>
    rw [lockEvents_append, hu.lockEvents]
    exact .give ⟨priv, ho.1, ho.2.1⟩ (by simp)

/-- No operation changes the store of its model. -/
theorem ModelOp.Outcome.same_store {tr : List (Event (Sys B) W)} (h : op.Outcome K m s tr ok s')
    {priv' : ModelPrivate} (hm' : s'.models m = some priv') :
    ∃ priv, s.models m = some priv ∧ priv'.store = priv.store := by
  cases h with
  | refused | reloadFailed | lockRefused | loadFailed | saveFailed | beginFailed =>
    exact ⟨priv', hm', rfl⟩
  | reloaded priv x w hm | normalized priv clockMode info hm | saved priv op edit x w₁ w₂ w₃ w₄ hm
  | begun priv configured latitude longitude t x w₁ w₂ w₃ hm =>
    obtain rfl : _ = priv' := by simpa using hm'
    exact ⟨priv, hm, rfl⟩
  | finished priv t w ho | rolledBack priv t undo w ho | rollbackFailed priv t undo w ho =>
    obtain rfl : _ = priv' := by simpa using hm'
    exact ⟨priv, ho.1, rfl⟩

/-- At most one token is active for the model, and only while it is saving. -/
structure TokensBalanced (s : Memory) (m : ModelId) : Prop where
  /-- an active token keeps its model saving, as long as there is a model -/
  saving : ∀ t, ActiveFor s m t → s.models m ≠ none → Saving s m
  /-- there are not two -/
  unique : ∀ t t', ActiveFor s m t → ActiveFor s m t' → t = t'

theorem TokensBalanced.of_idle {priv : ModelPrivate} (h : TokensBalanced s m)
    (hm : s.models m = some priv) (hs : priv.saving = false) (t : TokenId) : ¬ ActiveFor s m t := by
  intro ha
  have := h.saving t ha (by simp [hm])
  simp [saving_iff hm, hs] at this

/-- Writing an inactive token leaves the other tokens as they were. -/
theorem ActiveFor.of_setToken {t t' : TokenId} {u : LocationUpdate}
    (h : ActiveFor (s.setToken t' u) m t) (hu : u.active = false) :
    t ≠ t' ∧ ActiveFor s m t := by
  rcases eq_or_ne t t' with rfl | hne
  · simp [ActiveFor, hu] at h
  · exact ⟨hne, by simpa [ActiveFor, Memory.setToken_ne _ hne] using h⟩

theorem ModelOp.Outcome.tokens {tr : List (Event (Sys B) W)} (h : op.Outcome K m s tr ok s')
    (hi : TokensBalanced s m) : TokensBalanced s' m := by
  cases h with
  | refused | reloadFailed | lockRefused | loadFailed | saveFailed => exact hi
  | reloaded priv x w hm hs | normalized priv clockMode info hm hs
  | saved priv op edit x w₁ w₂ w₃ w₄ hm hs =>
    exact ⟨fun t ha _ => absurd ha (hi.of_idle hm hs t), hi.unique⟩
  | beginFailed priv configured latitude longitude t x w₁ w₂ w₃ w₄ hm hs =>
    exact ⟨fun t' ha => absurd (ha.of_setToken rfl).2 (hi.of_idle hm hs t'),
      fun t' _ ha => absurd (ha.of_setToken rfl).2 (hi.of_idle hm hs t')⟩
  | begun priv configured latitude longitude t x w₁ w₂ w₃ hm hs =>
    -- the model was idle, so the new token is the only one
    have only : ∀ t', ActiveFor ((s.setModel m (some { priv with
        policy := assignLocation configured latitude longitude x.1
        persistedPolicyPresent := true, saving := true })).setToken t ⟨some m, x.1, x.2, true⟩)
        m t' → t' = t := by
      intro t' ha
      by_contra hne
      refine hi.of_idle hm hs t' ?_
      simpa [ActiveFor, Memory.setToken_ne _ hne] using ha
    exact ⟨fun t' ha _ => by simp, fun t₁ t₂ h₁ h₂ => (only t₁ h₁).trans (only t₂ h₂).symm⟩
  | finished priv t w ho | rolledBack priv t undo w ho | rollbackFailed priv t undo w ho =>
    -- the token that was active has just been closed
    have none_left : ∀ t', ¬ ActiveFor (s.setToken t (closed (s.tokens t))) m t' := by
      intro t' ha
      obtain ⟨hne, ha⟩ := ha.of_setToken rfl
      exact hne (hi.unique t' t ha ho.2.2)
    exact ⟨fun t' ha => absurd ha (none_left t'), fun t' _ ha => absurd ha (none_left t')⟩

/-! ## Sessions -/

/-- The takes and gives of a trace that leaves the lock held or not: all paired,
but for a last take that holds it. -/
structure Ledger (l : List Bool) (held : Prop) : Prop where
  /-- a free lock: every take has been given back -/
  idle : ¬ held → Paired l
  /-- a held lock: every take but the last -/
  busy : held → ∃ l', Paired l' ∧ l = l' ++ [true]

theorem LockUse.held {l : List Bool} (h : LockUse s s' m op ok l) :
    heldAfter (Saving s m) l ↔ Saving s' m := by
  cases h with
  | none he _ => exact he.symm
  | both _ h₂ | give _ h₂ => simpa using h₂
  | take _ h₂ => simpa using h₂

theorem LockUse.ledger {l l' : List Bool} (h : LockUse s s' m op ok l')
    (hl : Ledger l (Saving s m)) : Ledger (l ++ l') (Saving s' m) := by
  cases h with
  | none he _ =>
    rw [List.append_nil, propext he]
    exact hl
  | both h₁ h₂ => exact ⟨fun _ => .pair (hl.idle h₁), fun h => absurd h h₂⟩
  | take h₁ h₂ => exact ⟨fun h => absurd h₂ h, fun _ => ⟨l, hl.idle h₁, rfl⟩⟩
  | give h₁ h₂ =>
    obtain ⟨l₀, hp, rfl⟩ := hl.busy h₁
    rw [List.append_assoc]
    exact ⟨fun _ => .pair hp, fun h => absurd h h₂⟩

/-- The invariant of a session. -/
structure Balanced (p : Pid) (m : ModelId) (tr : List (Event (Sys B) (World D B))) (s : Memory)
    (w : World D B) : Prop where
  /-- the store of the model offers locking -/
  locking : ∀ priv, s.models m = some priv → priv.store.Locking
  /-- the lock is held exactly when the model is saving -/
  lock : w.policyLock = some p ↔ Saving s m
  /-- takes and gives are paired up to the lock that is held -/
  ledger : Ledger (lockEvents tr) (Saving s m)
  /-- the tokens agree -/
  tokens : TokensBalanced s m

theorem Balanced.step (hi : Balanced p m tr s w)
    (h : (op.run K m s).Exec (World.machine St p (World.Others p)) w tr' ok s' w') :
    Balanced p m (tr ++ tr') s' w' := by
  obtain ⟨hy, hp⟩ := Prog.exec_quiet.mp h
  have ho := ModelOp.run_outcome hi.locking hy
  refine ⟨fun priv' hm' => ?_, ?_, ?_, ho.tokens hi.tokens⟩
  · obtain ⟨priv, hm, hst⟩ := ho.same_store hm'
    exact hst ▸ hi.locking priv hm
  · rw [World.path_lock hp, propext hi.lock]
    exact ho.lockUse.held
  · rw [lockEvents_append]
    exact ho.lockUse.ledger hi.ledger

theorem Balanced.init (hm : s₀.models m = none) (hb : store.beginUpdate = true)
    (he : store.endUpdate = true) (ht : ∀ t, ¬ ActiveFor s₀ m t)
    (hw : w₀.policyLock ≠ some p)
    (h : (modelInit K m store s₀).Exec (World.machine St p (World.Others p)) w₀ tr ok s w) :
    Balanced p m tr s w := by
  obtain ⟨hy, hp⟩ := Prog.exec_quiet.mp h
  have hlock := World.path_lock hp
  have no_calls : lockEvents tr = [] ∧ ¬ Saving s m ∧ s.tokens = s₀.tokens ∧
      ∀ priv, s.models m = some priv → priv.store.Locking := by
    rcases modelInit_yields hm hb he hy with ⟨-, rfl, htr⟩ | ⟨-, hl, x, w₁, w₂, rfl, rfl⟩
    · refine ⟨?_, by simp [Saving, hm], rfl, by simp [hm]⟩
      rcases htr with rfl | ⟨r, w₁, rfl⟩ | ⟨w₁, w₂, rfl⟩ <;> rfl
    · refine ⟨rfl, by simp, rfl, fun priv hm' => ?_⟩
      obtain rfl : _ = priv := by simpa using hm'
      exact hl
  obtain ⟨hl, hs, hts, hst⟩ := no_calls
  have idle : ∀ t, ¬ ActiveFor s m t := by
    simpa [ActiveFor, hts] using ht
  rw [hl, heldAfter_nil] at hlock
  refine ⟨hst, by simp [hlock, hw, hs], ?_, fun t ha => absurd ha (idle t),
    fun t _ ha => absurd ha (idle t)⟩
  rw [hl]
  exact ⟨fun _ => .nil, fun h => absurd h hs⟩

/-- The invariant of every session over a store with locking that starts with
no token of its own active and the lock not held. -/
theorem Session.balanced (hm : s₀.models m = none) (hb : store.beginUpdate = true)
    (he : store.endUpdate = true) (ht : ∀ t, ¬ ActiveFor s₀ m t)
    (hw : w₀.policyLock ≠ some p)
    {log : List (Entry D B)} (h : Session St p (World.Others p) K m store s₀ w₀ log s w) :
    Balanced p m (traces log) s w := by
  induction h with
  | init h =>
    rw [traces_singleton]
    exact .init hm hb he ht hw h
  | op op _ h ih =>
    rw [traces_append, traces_singleton]
    exact ih.step h

/-- A token that is not active for the model ends nothing: `finish` and
`rollback` refuse it without a call. -/
theorem ModelOp.Outcome.of_inactive {t : TokenId} {tr : List (Event (Sys B) W)}
    (ht : ¬ ActiveFor s m t) (hop : op = .finishLocationUpdate t ∨ op = .rollbackLocationUpdate t)
    (h : op.Outcome K m s tr ok s') : tr = [] ∧ ok = false ∧ s' = s := by
  rcases hop with rfl | rfl
  · cases h with
    | refused => exact ⟨rfl, rfl, rfl⟩
    | lockRefused _ _ _ _ _ htl | loadFailed _ _ _ _ _ _ _ htl => simp [TakesLock, change] at htl
    | saveFailed _ _ _ _ _ _ _ _ _ _ hc | saved _ _ _ _ _ _ _ _ _ _ hc => simp [change] at hc
    | finished priv t w ho => exact absurd ho.2.2 ht
  · cases h with
    | refused => exact ⟨rfl, rfl, rfl⟩
    | lockRefused _ _ _ _ _ htl | loadFailed _ _ _ _ _ _ _ htl => simp [TakesLock, change] at htl
    | saveFailed _ _ _ _ _ _ _ _ _ _ hc | saved _ _ _ _ _ _ _ _ _ _ hc => simp [change] at hc
    | rolledBack priv t undo w ho | rollbackFailed priv t undo w ho => exact absurd ho.2.2 ht

/-- Lock balance of the policy model. In every session: the lock is held exactly
when the model is saving; `clear` leaves it free, with every take of the whole
session given back once; an operation that returns with the lock held, having
found it free or having succeeded, is a location update that began; at most one
token is active; and ending an update with a token that is inactive or foreign
does nothing at all. -/
theorem lock_balance (hm : s₀.models m = none) (hb : store.beginUpdate = true)
    (he : store.endUpdate = true) (ht : ∀ t, ¬ ActiveFor s₀ m t)
    (hw : w₀.policyLock ≠ some p) {log : List (Entry D B)}
    (h : Session St p (World.Others p) K m store s₀ w₀ log s w) :
    (w.policyLock = some p ↔ Saving s m) ∧
    (∀ tr' u s' w',
      (modelClear m s).Exec (World.machine St p (World.Others p)) w tr' u s' w' →
      w'.policyLock ≠ some p ∧ Paired (lockEvents (traces log ++ tr'))) ∧
    (∀ op tr' ok s' w',
      (ModelOp.run K m op s).Exec (World.machine St p (World.Others p)) w tr' ok s' w' →
      w'.policyLock = some p → w.policyLock ≠ some p ∨ ok = true →
      ok = true ∧ ∃ configured latitude longitude t,
        op = .beginLocationUpdate configured latitude longitude t) ∧
    (∀ t t', ActiveFor s m t → ActiveFor s m t' → t = t') ∧
    (∀ t op tr' ok s' w', ¬ ActiveFor s m t →
      op = .finishLocationUpdate t ∨ op = .rollbackLocationUpdate t →
      (ModelOp.run K m op s).Exec (World.machine St p (World.Others p)) w tr' ok s' w' →
      ok = false ∧ s' = s ∧ w' = w) := by
  have hi := h.balanced hm hb he ht hw
  refine ⟨hi.lock, ?_, ?_, hi.tokens.unique, ?_⟩
  · intro tr' u s' w' hc
    obtain ⟨hy, hp⟩ := Prog.exec_quiet.mp hc
    rw [Ne, World.path_lock hp, propext hi.lock, lockEvents_append]
    rcases (modelClear_yields hi.locking hy).2 with ⟨hs, rfl⟩ | ⟨hs, w₁, rfl⟩
    · exact ⟨hs, by simpa using hi.ledger.idle hs⟩
    · obtain ⟨l, hl, hl'⟩ := hi.ledger.busy hs
      rw [hl', List.append_assoc]
      exact ⟨Bool.false_ne_true, .pair hl⟩
  · intro op tr' ok s' w' hx hheld hfree
    obtain ⟨hy, hp⟩ := Prog.exec_quiet.mp hx
    rw [Ne, hi.lock] at hfree
    rw [(hi.step hx).lock] at hheld
    have hu := (ModelOp.run_outcome hi.locking hy).lockUse
    generalize lockEvents tr' = l at hu
    cases hu with
    | none hsame hok =>
      have hs := hsame.mp hheld
      exact absurd hs (hfree.elim id hok)
    | both _ hs | give _ hs => exact absurd hheld hs
    | take _ _ hop hok => exact ⟨hok, _, _, _, _, hop⟩
  · intro t op tr' ok s' w' hta hop hx
    obtain ⟨hy, hp⟩ := Prog.exec_quiet.mp hx
    obtain ⟨rfl, rfl, rfl⟩ := (ModelOp.run_outcome hi.locking hy).of_inactive hta hop
    exact ⟨rfl, rfl, hp⟩

/-- While the update of the concrete session is open, the lock is held. -/
theorem lock_balance_begun :
    smallBegun.2.2.2.policyLock = some 1 ∧ Saving smallBegun.2.2.1 0 := by
  have hheld : smallBegun.2.2.2.policyLock = some 1 := by decide +kernel
  have idle : ∀ t, ¬ ActiveFor Memory.empty 0 t := by
    simp [ActiveFor, Memory.empty, LocationUpdate.init]
  have hw : (World.fresh none : World (Option TemporalPolicyV3) Unit).policyLock ≠ some 1 := by
    decide
  exact ⟨hheld, (lock_balance rfl rfl rfl idle hw
    (smallBegun_session fun w => Iff.rfl)).1.mp hheld⟩

end SystemSettings

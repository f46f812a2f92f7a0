import SystemSettings.LockBalance

/-!
# Persist before publish

Over a store that keeps documents as given, the model shows what was durable
when it last synchronised: at a reload, a save, the begin of a location update
or its rollback. Failures change nothing, and a rollback puts back what was
found when the update began.
-/

namespace SystemSettings

variable {B : Type} {fallback : Option Native → TemporalPolicyV3} {p : Pid} {K : Common}
  {m : ModelId} {store : TemporalPolicyStore} {s s' s₀ : Memory}
  {w w' w₀ : World (Option TemporalPolicyV3) B}
  {tr : List (Event (Sys B) (World (Option TemporalPolicyV3) B))} {op : ModelOp} {ok : Bool}
  {t : TokenId} {priv : ModelPrivate} {log : List (Entry (Option TemporalPolicyV3) B)}

/-! ## The document along a trace -/

/-- Others leave the document alone while `p` holds the lock, and the lock of `p`
alone at all times. -/
def World.Respect {D : Type} (p : Pid) (w w' : World D B) : Prop :=
  World.Others p w w' ∧ (w.policyLock = some p → w'.document = w.document)

theorem World.Step.of_respect {D : Type} {St : Storage D} {w : World D B}
    {e : Event (Sys B) (World D B)} (h : World.Step St p (World.Respect p) w e) :
    World.Step St p (World.Others p) w e := by
  obtain ⟨w₁, ok, hR, hr⟩ := h
  exact ⟨w₁, ok, hR.1, hr⟩

theorem World.path_of_respect {D : Type} {St : Storage D} {w w' : World D B}
    {tr : List (Event (Sys B) (World D B))}
    (h : Prog.Path (World.Step St p (World.Respect p)) w tr w') :
    Prog.Path (World.Step St p (World.Others p)) w tr w' := by
  induction tr generalizing w with
  | nil => exact h
  | cons e tr ih => exact ⟨h.1.of_respect, ih h.2⟩

/-- What a store with this document shows: the document, or some fallback. -/
def Shows (fallback : Option Native → TemporalPolicyV3) (document : Option TemporalPolicyV3)
    (x : TemporalPolicyV3 × Bool) : Prop :=
  match document with
  | some policy => x = (policy, true)
  | none => ∃ native, x = (fallback native, false)

/-- The document after an event, if nobody else writes. -/
def documentAfter (document : Option TemporalPolicyV3) :
    Event (Sys B) (World (Option TemporalPolicyV3) B) → Option TemporalPolicyV3
  | ⟨.save policy, saved, _⟩ => if saved then some policy else document
  | ⟨.clear, cleared, _⟩ => if cleared then none else document
  | _ => document

section Laws

variable {e : Event (Sys B) (World (Option TemporalPolicyV3) B)}

/-- While `p` holds the lock, only its own calls change the document. -/
theorem World.Step.document (h : World.Step (.exact fallback) p (World.Respect p) w e)
    (hl : w.policyLock = some p) : e.world.document = documentAfter w.document e := by
  obtain ⟨w₁, ok, hR, hr, hw⟩ := h
  obtain ⟨c, r, w'⟩ := e
  simp only at hr hw
  subst hr hw
  have same := hR.2 hl
  cases c with
  | save policy => cases ok <;> simp [World.respond, Storage.exact, documentAfter, same]
  | clear => cases ok <;> simp [World.respond, Storage.exact, documentAfter, same]
  | writeFile f data => cases f <;> cases ok <;> exact same
  | unlinkFile f => cases f <;> cases ok <;> exact same
  | beginUpdate | endUpdate | transactionBegin | transactionEnd =>
    simp only [World.respond, documentAfter]
    split <;> exact same
  | _ => exact same

theorem World.Step.saved {policy : TemporalPolicyV3}
    (h : World.Step (.exact fallback) p (World.Respect p) w (event (.save policy) true w')) :
    w'.document = some policy := by
  obtain ⟨w₁, ok, -, hr, hw⟩ := h
  cases ok with
  | false => simp [World.respond] at hr
  | true => exact congrArg World.document hw

theorem World.Step.cleared
    (h : World.Step (.exact fallback) p (World.Respect p) w (event .clear true w')) :
    w'.document = none := by
  obtain ⟨w₁, ok, -, hr, hw⟩ := h
  cases ok with
  | false => simp [World.respond] at hr
  | true => exact congrArg World.document hw

theorem World.Step.loaded {x : TemporalPolicyV3 × Bool}
    (h : World.Step (.exact fallback) p (World.Respect p) w (event .load (some x) w')) :
    Shows fallback w'.document x := by
  obtain ⟨w₁, ok, -, hr, hw⟩ := h
  cases ok with
  | false => simp [World.respond] at hr
  | true =>
    simp only [World.respond] at hw
    simp only [World.respond, Storage.exact, if_true, Option.some.injEq] at hr
    rw [hw, hr]
    cases hd : w₁.document with
    | some policy => rfl
    | none => exact ⟨w₁.native, rfl⟩

end Laws

/-! ## Synchronisation -/

/-- What the model shows. -/
def view (priv : ModelPrivate) : TemporalPolicyV3 × Bool :=
  (priv.policy, priv.persistedPolicyPresent)

namespace Entry

variable {D : Type}

/-- Whether a call synchronises the model with the store: a successful `init`,
reload, setter, begin or rollback. -/
def syncs (e : Entry D B) : Bool :=
  e.ok && match e.op with
    | some (.normalize _) | some (.finishLocationUpdate _) => false
    | _ => true

/-- A read or a write of the document. -/
def touchesDocument (e : Event (Sys B) (World D B)) : Bool :=
  match e.cmd with
  | .load | .save _ | .clear => true
  | _ => false

/-- The world at the moment a call synchronised: right after its last read or
write of the document. -/
def sync (e : Entry D B) : Option (World D B) :=
  if e.syncs then ((e.trace.filter touchesDocument).getLast?).map Event.world else none

variable (K) in
/-- What an explicit normalisation of the clock mode makes of what is shown. -/
def normalization (e : Entry D B) (x : TemporalPolicyV3 × Bool) : TemporalPolicyV3 × Bool :=
  match e.op, e.ok with
  | some (.normalize clockMode), true =>
    match validClockMode K clockMode with
    | some info => (assignClockMode K info x.1, x.2)
    | none => x
  | _, _ => x

theorem sync_of_not_ok {e : Entry D B} (h : e.ok = false) : e.sync = none := by
  simp [sync, syncs, h]

theorem normalization_of_not_ok {e : Entry D B} (h : e.ok = false)
    (x : TemporalPolicyV3 × Bool) : e.normalization K x = x := by
  unfold normalization
  split
  · next h' => simp [h] at h'
  · rfl

end Entry

variable (fallback K) in
/-- `x` is the durable state as it was at the last synchronisation of the log,
up to normalisations since then while nothing was persisted. -/
def Synced (log : List (Entry (Option TemporalPolicyV3) B)) (x : TemporalPolicyV3 × Bool) : Prop :=
  ∃ before e since w y, log = before ++ e :: since ∧ e.sync = some w ∧
    (∀ e' ∈ since, e'.sync = none) ∧ Shows fallback w.document y ∧
    x = since.foldl (fun y e => e.normalization K y) y ∧ (y.2 = true → x = y)

theorem Synced.of_sync (log : List (Entry (Option TemporalPolicyV3) B))
    {e : Entry (Option TemporalPolicyV3) B} {x : TemporalPolicyV3 × Bool}
    (he : e.sync = some w) (hx : Shows fallback w.document x) :
    Synced fallback K (log ++ [e]) x :=
  ⟨log, e, [], w, x, rfl, he, by simp, hx, rfl, fun _ => rfl⟩

theorem Synced.later {e : Entry (Option TemporalPolicyV3) B} {x x' : TemporalPolicyV3 × Bool}
    (h : Synced fallback K log x) (he : e.sync = none) (hx : x' = e.normalization K x)
    (hp : x.2 = true → x' = x) : Synced fallback K (log ++ [e]) x' := by
  obtain ⟨before, e₀, since, w, y, rfl, he₀, hs, hy, rfl, hk⟩ := h
  refine ⟨before, e₀, since ++ [e], w, y, by simp, he₀, ?_, hy, by simpa using hx, ?_⟩
  · intro e' he'
    rcases List.mem_append.mp he' with h | h
    · exact hs e' h
    · rwa [List.mem_singleton.mp h]
  · intro h
    have := hk h
    rw [hp (by rw [this, h]), this]

/-! ## The invariant -/

/-- A successful begin. -/
def Entry.begins {D : Type} (e : Entry D B) : Prop :=
  e.ok = true ∧ ∃ configured latitude longitude t,
    e.op = some (.beginLocationUpdate configured latitude longitude t)

/-- The last update of the log was begun with the token `t`, and found `x` under
the lock in the world `w`. -/
def Found (log : List (Entry (Option TemporalPolicyV3) B)) (t : TokenId)
    (w : World (Option TemporalPolicyV3) B) (x : TemporalPolicyV3 × Bool) : Prop :=
  ∃ before since configured latitude longitude w₁ policy w₃,
    log = before ++ ⟨some (.beginLocationUpdate configured latitude longitude t), true,
      [event .beginUpdate true w₁, event .load (some x) w, event (.save policy) true w₃]⟩ :: since ∧
    ∀ e ∈ since, ¬ e.begins

theorem Found.later {e : Entry (Option TemporalPolicyV3) B} {x : TemporalPolicyV3 × Bool}
    (h : Found log t w x) (he : e.ok = false) : Found (log ++ [e]) t w x := by
  obtain ⟨before, since, configured, latitude, longitude, w₁, policy, w₃, rfl, hs⟩ := h
  refine ⟨before, since ++ [e], configured, latitude, longitude, w₁, policy, w₃, by simp, ?_⟩
  intro e' he'
  rcases List.mem_append.mp he' with h | h
  · exact hs e' h
  · rw [List.mem_singleton.mp h]
    exact fun hb => Bool.false_ne_true (he.symm.trans hb.1)

variable (fallback p K m) in
/-- What every session keeps. -/
structure Published (log : List (Entry (Option TemporalPolicyV3) B)) (s : Memory)
    (w : World (Option TemporalPolicyV3) B) : Prop where
  /-- the lock is balanced -/
  balanced : Balanced p m (traces log) s w
  /-- the model shows what was durable when it last synchronised -/
  shown : ∀ priv, s.models m = some priv → Synced fallback K log (view priv)
  /-- inside an update the model is what is on disk -/
  durable : ∀ t priv, ModelOp.Open s m t priv →
    w.document = some priv.policy ∧ priv.persistedPolicyPresent = true
  /-- and the token is what was found when it began -/
  opened : ∀ t priv, ModelOp.Open s m t priv →
    ∃ w', Found log t w' ((s.tokens t).previousPolicy, (s.tokens t).previousPersistedPolicyPresent) ∧
      Shows fallback w'.document
        ((s.tokens t).previousPolicy, (s.tokens t).previousPersistedPolicyPresent)

/-- The ways an operation changes what is shown. -/
inductive Shown (fallback : Option Native → TemporalPolicyV3) (K : Common)
    (e : Entry (Option TemporalPolicyV3) B) (x : Option (TemporalPolicyV3 × Bool)) :
    Option (TemporalPolicyV3 × Bool) → Prop where
  /-- not at all -/
  | same : e.sync = none → (∀ y, e.normalization K y = y) → Shown fallback K e x x
  /-- a normalisation while nothing is persisted -/
  | normalized (y : TemporalPolicyV3 × Bool) : e.ok = true → e.sync = none → x = some y →
      y.2 = false → Shown fallback K e x (some (e.normalization K y))
  /-- a synchronisation -/
  | synced (w : World (Option TemporalPolicyV3) B) (y : TemporalPolicyV3 × Bool) : e.ok = true →
      e.sync = some w → Shows fallback w.document y → Shown fallback K e x (some y)

theorem Shown.of_not_ok {e : Entry (Option TemporalPolicyV3) B}
    {x : Option (TemporalPolicyV3 × Bool)} (h : e.ok = false) : Shown fallback K e x x :=
  .same (Entry.sync_of_not_ok h) (Entry.normalization_of_not_ok h)

theorem Synced.step {e : Entry (Option TemporalPolicyV3) B}
    {x x' : Option (TemporalPolicyV3 × Bool)} (h : ∀ y, x = some y → Synced fallback K log y)
    (hs : Shown fallback K e x x') (y : TemporalPolicyV3 × Bool) (hy : x' = some y) :
    Synced fallback K (log ++ [e]) y := by
  cases hs with
  | same he hn => exact (h y hy).later he (hn y).symm (fun _ => rfl)
  | normalized z _ he hx hz =>
    obtain rfl : _ = y := Option.some.inj hy
    exact (h z hx).later he rfl (fun hz' => absurd hz' (by simp [hz]))
  | synced w z _ he hz =>
    obtain rfl : z = y := Option.some.inj hy
    exact .of_sync log he hz

section Rollback

variable {u : LocationUpdate} {restored : Bool} {w₁ : World (Option TemporalPolicyV3) B}
  {undo : List (Event (Sys B) (World (Option TemporalPolicyV3) B))}
  (h : ModelOp.Undo u store undo restored)
  (hp : Prog.Path (World.Step (.exact fallback) p (World.Respect p)) w
    (undo ++ [event .endUpdate () w₁]) w')

include h hp

/-- A rollback that was taken synchronises on what the update had found. -/
theorem ModelOp.Undo.sync (hr : restored = true) :
    ∃ w₂, (⟨some (.rollbackLocationUpdate t), true, undo ++ [event .endUpdate () w₁]⟩ :
        Entry _ B).sync = some w₂ ∧
      w₂.document = if u.previousPersistedPolicyPresent then some u.previousPolicy else none := by
  subst hr
  cases h with
  | save _ w₂ hu =>
    refine ⟨w₂, rfl, ?_⟩
    rw [hp.1.saved, if_pos hu]
  | clear _ w₂ hu =>
    refine ⟨w₂, rfl, ?_⟩
    rw [hp.1.cleared, hu]
    rfl

/-- The document after a rollback. -/
theorem ModelOp.Undo.document (hl : w.policyLock = some p) :
    w'.document = if restored then
        if u.previousPersistedPolicyPresent then some u.previousPolicy else none
      else w.document := by
  cases h with
  | save _ w₂ hu =>
    have held : w₂.policyLock = some p := hp.1.of_respect.lock.mpr hl
    rw [hp.2.2, hp.2.1.document held, hu]
    exact hp.1.document hl
  | clear _ w₂ hu =>
    have held : w₂.policyLock = some p := hp.1.of_respect.lock.mpr hl
    rw [hp.2.2, hp.2.1.document held, hu]
    exact hp.1.document hl
  | unable =>
    rw [hp.2]
    exact hp.1.document hl

end Rollback

/-- The pre-image of an update and the document it was read from. -/
theorem Shows.document {d : Option TemporalPolicyV3} {policy : TemporalPolicyV3} {found : Bool}
    (h : Shows fallback d (policy, found)) : d = if found then some policy else none := by
  cases d with
  | some policy' =>
    obtain ⟨rfl, rfl⟩ := Prod.mk.inj h
    rfl
  | none =>
    obtain ⟨native, h⟩ := h
    rw [(Prod.mk.inj h).2]
    rfl

theorem Entry.syncs_of_change {edit : TemporalPolicyV3 → TemporalPolicyV3}
    (h : op.change K = some edit) :
    (⟨some op, true, tr⟩ : Entry (Option TemporalPolicyV3) B).syncs = true := by
  cases op with
  | normalize => simp [ModelOp.change] at h
  | finishLocationUpdate => simp [ModelOp.change] at h
  | _ => rfl

/-- What an operation does to what is shown. -/
theorem Published.shown_step (hi : Published fallback p K m log s w)
    (ho : op.Outcome K m s tr ok s')
    (hp : Prog.Path (World.Step (.exact fallback) p (World.Respect p)) w tr w') :
    Shown fallback K ⟨some op, ok, tr⟩ ((s.models m).map view) ((s'.models m).map view) := by
  cases ho with
  | refused | reloadFailed | lockRefused | loadFailed | saveFailed | beginFailed =>
    exact .of_not_ok rfl
  | reloaded priv x w₁ hm =>
    rw [Memory.setModel_self]
    exact .synced w₁ x rfl rfl hp.1.loaded
  | normalized priv clockMode info hm hs hpp hv =>
    have hx : (s.models m).map view = some (view priv) := by rw [hm]; rfl
    have hn : view { priv with policy := assignClockMode K info priv.policy } =
        (⟨some (.normalize clockMode), true, []⟩ : Entry (Option TemporalPolicyV3) B).normalization
          K (view priv) := by
      simp [Entry.normalization, hv, view]
    rw [Memory.setModel_self, Option.map_some, hn]
    exact .normalized (view priv) rfl rfl hx hpp
  | saved priv op edit x w₁ w₂ w₃ w₄ hm hs hc =>
    rw [Memory.setModel_self]
    refine .synced w₃ (edit x.1, true) rfl ?_ ?_
    · rw [Entry.sync, Entry.syncs_of_change hc]
      rfl
    · rw [hp.2.2.1.saved]
      rfl
  | begun priv configured latitude longitude t x w₁ w₂ w₃ hm =>
    rw [Memory.setToken_models, Memory.setModel_self]
    refine .synced w₃ _ rfl rfl ?_
    rw [hp.2.2.1.saved]
    rfl
  | finished priv t w₁ ho =>
    rw [Memory.setToken_models, Memory.setModel_self, ho.1]
    exact .same rfl fun y => rfl
  | rolledBack priv t undo w₁ ho hu =>
    obtain ⟨w₂, hs, hd⟩ := hu.sync hp rfl
    obtain ⟨w₃, -, hf⟩ := hi.opened t priv ho
    rw [Memory.setToken_models, Memory.setModel_self]
    refine .synced w₂ _ rfl hs ?_
    -- the pre-image is a document, or the fallback of an absent one
    rw [hd, ← hf.document]
    exact hf
  | rollbackFailed priv t undo w₁ ho =>
    rw [Memory.setToken_models, Memory.setModel_self, ho.1]
    exact .of_not_ok rfl

/-- Where an update is open after an operation: it was open before and nothing
happened, or it has just begun. -/
theorem ModelOp.Outcome.open_cases (hi : TokensBalanced s m) (ho : op.Outcome K m s tr ok s')
    (h : ModelOp.Open s' m t priv) :
    (tr = [] ∧ ok = false ∧ s' = s) ∨
    ∃ configured latitude longitude x w₁ w₂ w₃,
      op = .beginLocationUpdate configured latitude longitude t ∧ ok = true ∧
      tr = [event .beginUpdate true w₁, event .load (some x) w₂,
        event (.save (assignLocation configured latitude longitude x.1)) true w₃] ∧
      priv.policy = assignLocation configured latitude longitude x.1 ∧
      priv.persistedPolicyPresent = true ∧ s'.tokens t = ⟨some m, x.1, x.2, true⟩ := by
  have idle : ∀ priv', s.models m = some priv' → priv'.saving = false → s' = s → False := by
    rintro priv' hm hs rfl
    simp [Option.some.inj (hm.symm.trans h.1), h.2.1] at hs
  have busy := h.saving
  cases ho with
  | refused => exact .inl ⟨rfl, rfl, rfl⟩
  | reloadFailed priv' w hm hs | lockRefused priv' op w hm hs | loadFailed priv' op _ _ _ hm hs
  | saveFailed priv' op _ _ _ _ _ _ hm hs => exact absurd rfl (idle priv' hm hs)
  | beginFailed priv' _ _ _ _ _ _ _ _ _ hm hs =>
    simp [saving_iff hm, hs] at busy
  | reloaded priv' x w hm hs | normalized priv' clockMode info hm hs
  | saved priv' op edit x _ _ _ _ hm hs => simp [hs] at busy
  | begun priv' configured latitude longitude t' x w₁ w₂ w₃ hm hs =>
    rcases eq_or_ne t t' with rfl | hne
    · obtain rfl : _ = priv := by simpa using h.1
      exact .inr ⟨configured, latitude, longitude, x, w₁, w₂, w₃, rfl, rfl, rfl, rfl, rfl,
        Memory.setToken_self ..⟩
    · have ha := h.2.2
      rw [Memory.setToken_ne _ hne] at ha
      exact absurd ha (hi.of_idle hm hs t)
  | finished | rolledBack | rollbackFailed => simp at busy

theorem Published.step (hi : Published fallback p K m log s w)
    (h : (op.run K m s).Exec (World.machine (.exact fallback) p (World.Respect p)) w tr ok s' w') :
    Published fallback p K m (log ++ [⟨some op, ok, tr⟩]) s' w' := by
  obtain ⟨hy, hp⟩ := Prog.exec_quiet.mp h
  have ho := ModelOp.run_outcome hi.balanced.locking hy
  have hbalanced : Balanced p m (traces (log ++ [⟨some op, ok, tr⟩])) s' w' := by
    rw [traces_append, traces_singleton]
    exact hi.balanced.step (Prog.exec_quiet.mpr ⟨hy, World.path_of_respect hp⟩)
  refine ⟨hbalanced, fun priv hm => ?_, fun t priv hopen => ?_, fun t priv hopen => ?_⟩
  · refine Synced.step (fun y hy => ?_) (hi.shown_step ho hp) _ (by rw [hm]; rfl)
    obtain ⟨priv', hm', rfl⟩ := Option.map_eq_some_iff.mp hy
    exact hi.shown priv' hm'
  · rcases ho.open_cases hi.balanced.tokens hopen with ⟨rfl, rfl, rfl⟩ |
      ⟨configured, latitude, longitude, x, w₁, w₂, w₃, rfl, rfl, rfl, hpol, hpers, -⟩
    · rw [hp]
      exact hi.durable t priv hopen
    · rw [hp.2.2.2, hp.2.2.1.saved, hpol]
      exact ⟨rfl, hpers⟩
  · rcases ho.open_cases hi.balanced.tokens hopen with ⟨rfl, rfl, rfl⟩ |
      ⟨configured, latitude, longitude, x, w₁, w₂, w₃, rfl, rfl, rfl, hpol, hpers, htok⟩
    · obtain ⟨w₂, hf, hs⟩ := hi.opened t priv hopen
      exact ⟨w₂, hf.later rfl, hs⟩
    · rw [htok]
      exact ⟨w₂, ⟨log, [], configured, latitude, longitude, w₁, _, w₃, rfl, by simp⟩,
        hp.2.1.loaded⟩

theorem Published.init (hm : s₀.models m = none) (hb : store.beginUpdate = true)
    (he : store.endUpdate = true) (ht : ∀ t, ¬ ActiveFor s₀ m t) (hw : w₀.policyLock ≠ some p)
    (h : (modelInit K m store s₀).Exec (World.machine (.exact fallback) p (World.Respect p))
      w₀ tr ok s w) : Published fallback p K m [⟨none, ok, tr⟩] s w := by
  obtain ⟨hy, hp⟩ := Prog.exec_quiet.mp h
  have hbalanced : Balanced p m (traces [⟨none, ok, tr⟩]) s w := by
    rw [traces_singleton]
    exact .init hm hb he ht hw (Prog.exec_quiet.mpr ⟨hy, World.path_of_respect hp⟩)
  rcases modelInit_yields hm hb he hy with ⟨rfl, rfl, -⟩ | ⟨rfl, -, x, w₁, w₂, rfl, rfl⟩
  · refine ⟨hbalanced, fun priv h => ?_, fun t priv h => ?_, fun t priv h => ?_⟩
    · simp [hm] at h
    all_goals simp [ModelOp.Open, hm] at h
  · refine ⟨hbalanced, fun priv h => ?_, fun t priv h => ?_, fun t priv h => ?_⟩
    · obtain rfl : _ = priv := by simpa using h
      exact .of_sync [] rfl hp.2.1.loaded
    all_goals simpa using h.saving

theorem Session.published (hm : s₀.models m = none) (hb : store.beginUpdate = true)
    (he : store.endUpdate = true) (ht : ∀ t, ¬ ActiveFor s₀ m t) (hw : w₀.policyLock ≠ some p)
    (h : Session (.exact fallback) p (World.Respect p) K m store s₀ w₀ log s w) :
    Published fallback p K m log s w := by
  induction h with
  | init h => exact .init hm hb he ht hw h
  | op op _ h ih => exact ih.step h

/-- Persist before publish. After every session over a store that keeps
documents as given:

* the model shows what was durable when it last synchronised;
* an operation that fails leaves what it shows unchanged;
* a rollback that succeeds puts the store back to the document, or the absence
  of one, that the update had found under the lock, and the model with it;
* after a rollback that fails the model still is the policy on disk. -/
theorem persist_before_publish (hm : s₀.models m = none) (hb : store.beginUpdate = true)
    (he : store.endUpdate = true) (ht : ∀ t, ¬ ActiveFor s₀ m t) (hw : w₀.policyLock ≠ some p)
    (h : Session (.exact fallback) p (World.Respect p) K m store s₀ w₀ log s w) :
    (∀ priv, s.models m = some priv → Synced fallback K log (view priv)) ∧
    (∀ op tr s' w', (ModelOp.run K m op s).Exec
        (World.machine (.exact fallback) p (World.Respect p)) w tr false s' w' →
      (s'.models m).map view = (s.models m).map view) ∧
    (∀ t tr s' w', (ModelOp.run K m (.rollbackLocationUpdate t) s).Exec
        (World.machine (.exact fallback) p (World.Respect p)) w tr true s' w' →
      ∃ w₁ x w₂, Found log t w₁ x ∧ Shows fallback w₁.document x ∧
        (⟨some (.rollbackLocationUpdate t), true, tr⟩ : Entry _ B).sync = some w₂ ∧
        w₂.document = w₁.document ∧ w'.document = w₁.document ∧
        (s'.models m).map view = some x) ∧
    (∀ t tr s' w' priv, ModelOp.Open s m t priv →
      (ModelOp.run K m (.rollbackLocationUpdate t) s).Exec
        (World.machine (.exact fallback) p (World.Respect p)) w tr false s' w' →
      ∃ priv', s'.models m = some priv' ∧ view priv' = view priv ∧
        w'.document = some priv'.policy ∧ priv'.persistedPolicyPresent = true) := by
  have hi := h.published hm hb he ht hw
  refine ⟨hi.shown, ?_, ?_, ?_⟩
  · intro op tr s' w' hx
    obtain ⟨hy, hp⟩ := Prog.exec_quiet.mp hx
    have ho := ModelOp.run_outcome hi.balanced.locking hy
    have hs := hi.shown_step ho hp
    generalize (s'.models m).map view = x' at hs ⊢
    cases hs with
    | same => rfl
    | normalized _ hok | synced _ _ hok => exact absurd hok Bool.false_ne_true
  · intro t tr s' w' hx
    obtain ⟨hy, hp⟩ := Prog.exec_quiet.mp hx
    cases ModelOp.run_outcome hi.balanced.locking hy with
    | saved _ _ _ _ _ _ _ _ _ _ hc => simp [ModelOp.change] at hc
    | rolledBack priv t undo w₁ ho hu =>
      obtain ⟨w₀, hf, hs⟩ := hi.opened t priv ho
      obtain ⟨w₂, hsync, hd⟩ := hu.sync hp rfl
      have hd' := hu.document hp (hi.balanced.lock.mpr ho.saving)
      rw [← hs.document] at hd
      rw [if_pos rfl, ← hs.document] at hd'
      exact ⟨w₀, _, w₂, hf, hs, hsync, hd, hd', by simp [view]⟩
  · intro t tr s' w' priv hopen hx
    obtain ⟨hy, hp⟩ := Prog.exec_quiet.mp hx
    obtain ⟨hd, hpers⟩ := hi.durable t priv hopen
    cases ModelOp.run_outcome hi.balanced.locking hy with
    | refused =>
      rw [hp]
      exact ⟨priv, hopen.1, rfl, hd, hpers⟩
    | lockRefused _ _ _ _ _ htl | loadFailed _ _ _ _ _ _ _ htl =>
      simp [ModelOp.TakesLock, ModelOp.change] at htl
    | saveFailed _ _ _ _ _ _ _ _ _ _ hc => simp [ModelOp.change] at hc
    | rollbackFailed priv' t undo w₁ ho hu =>
      obtain rfl : priv' = priv := Option.some.inj (ho.1.symm.trans hopen.1)
      have hd' := hu.document hp (hi.balanced.lock.mpr ho.saving)
      exact ⟨{ priv' with saving := false }, by simp, rfl, hd'.trans hd, hpers⟩

/-- Rolling back the update of the concrete session: there is no document again. -/
theorem persist_before_publish_restored :
    let restored := World.play smallStorage 1
      ((ModelOp.rollbackLocationUpdate 0).run Common.small 0 smallBegun.2.2.1) smallBegun.2.2.2 []
    restored.2.1 = true ∧ restored.2.2.2.document = none ∧
      ∃ x, (restored.2.2.1.models 0).map view = some x ∧ x.2 = false := by
  intro restored
  have hok : restored.2.1 = true := by decide +kernel
  have hdoc : restored.2.2.2.document = none := by decide +kernel
  have refl : ∀ w : World (Option TemporalPolicyV3) Unit, World.Respect 1 w w :=
    fun w => ⟨Iff.rfl, fun _ => rfl⟩
  have idle : ∀ t, ¬ ActiveFor Memory.empty 0 t := by
    simp [ActiveFor, Memory.empty, LocationUpdate.init]
  have hw : (World.fresh none : World (Option TemporalPolicyV3) Unit).policyLock ≠ some 1 := by
    decide
  have hx := World.play_exec smallStorage 1 refl
    ((ModelOp.rollbackLocationUpdate 0).run Common.small 0 smallBegun.2.2.1) smallBegun.2.2.2 []
  obtain ⟨w₁, x, w₂, -, hs, -, -, hd, hx⟩ := (persist_before_publish rfl rfl rfl idle hw
    (smallBegun_session refl)).2.2.1 0 _ _ _ (hok ▸ hx)
  rw [← hd, hdoc] at hs
  obtain ⟨native, hs⟩ := hs
  exact ⟨hok, hdoc, x, hx, by rw [hs]⟩

end SystemSettings

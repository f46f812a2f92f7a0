import SystemSettings.ModelOutcome

/-!
# Sessions of a model

A session is the life of one model handle: `init`, then any operations in any
order, with any failures. What `init` and `clear` do, and the log of a session.
-/

namespace SystemSettings

variable {D B W : Type} {St : Storage D} {p : Pid} {R : World D B → World D B → Prop}
  {K : Common} {m : ModelId} {store : TemporalPolicyStore} {s s' : Memory} {ok : Bool}

/-! ## Init and clear -/

theorem modelInit_yields {tr : List (Event (Sys B) W)} (hm : s.models m = none)
    (hb : store.beginUpdate = true) (he : store.endUpdate = true)
    (h : (modelInit K m store s).Yields tr ok s') :
    (ok = false ∧ s' = s ∧ (tr = [] ∨ (∃ r w, tr = [event .calloc r w]) ∨
      ∃ w₁ w₂, tr = [event .calloc true w₁, event .load none w₂])) ∨
    (ok = true ∧ store.Locking ∧ ∃ x w₁ w₂,
      tr = [event .calloc true w₁, event .load (some x) w₂] ∧
      s' = s.setModel m (some ⟨x.1, store, x.2, false⟩)) := by
  cases hl : store.load with
  | false =>
    simp [modelInit, hm, hl] at h
    exact .inl ⟨h.2.1, h.2.2, .inl h.1⟩
  | true =>
    cases hs : store.save with
    | false =>
      simp [modelInit, hm, hl, hs] at h
      exact .inl ⟨h.2.1, h.2.2, .inl h.1⟩
    | true =>
      simp [modelInit, hm, hl, hs, hb, he] at h
      rcases h with ⟨⟨w₁, rfl⟩, rfl, rfl⟩ | ⟨w₁, tr₁, rfl, h⟩
      · exact .inl ⟨rfl, rfl, .inr (.inl ⟨false, w₁, rfl⟩)⟩
      cases hK : K.policyDefault with
      | none =>
        simp [hK] at h
        obtain ⟨rfl, rfl, rfl⟩ := h
        exact .inl ⟨rfl, rfl, .inr (.inl ⟨true, w₁, rfl⟩)⟩
      | some policy =>
        simp [hK, modelReload, hl] at h
        obtain ⟨r, w₂, tr₂, rfl, h⟩ := h
        cases r with
        | none =>
          simp [modelClear, releaseUpdateLock, hm] at h
          obtain ⟨rfl, rfl, rfl⟩ := h
          exact .inl ⟨rfl, rfl, .inr (.inr ⟨w₁, w₂, rfl⟩)⟩
        | some x =>
          simp at h
          obtain ⟨rfl, rfl, rfl⟩ := h
          exact .inr ⟨rfl, ⟨hl, hs, hb, he⟩, x, w₁, w₂, rfl, rfl⟩

/-- The model behind a handle is inside its persist-before-publish boundary. -/
def Saving (s : Memory) (m : ModelId) : Prop :=
  ∃ priv, s.models m = some priv ∧ priv.saving = true

theorem modelClear_yields {tr : List (Event (Sys B) W)} {u : Unit}
    (hl : ∀ priv, s.models m = some priv → priv.store.Locking)
    (h : (modelClear m s).Yields tr u s') :
    s' = s.setModel m none ∧
      (¬ Saving s m ∧ tr = [] ∨ Saving s m ∧ ∃ w, tr = [event .endUpdate () w]) := by
  cases hm : s.models m with
  | none =>
    simp [modelClear, releaseUpdateLock, hm] at h
    exact ⟨by simp [h.2, hm], .inl ⟨by simp [Saving, hm], h.1⟩⟩
  | some priv =>
    cases hs : priv.saving with
    | false =>
      simp [modelClear, releaseUpdateLock, hm, hs] at h
      exact ⟨h.2, .inl ⟨by simp [Saving, hm, hs], h.1⟩⟩
    | true =>
      simp only [modelClear, Action.bind_run] at h
      obtain ⟨tr₁, _, s₁, tr₂, h₁, h₂, rfl⟩ := Prog.yields_bind h
      obtain ⟨w, rfl, rfl⟩ := releaseUpdateLock_yields hm (hl priv hm) hs h₁
      obtain ⟨rfl, -, rfl⟩ := h₂
      exact ⟨by simp, .inr ⟨⟨priv, hm, hs⟩, w, rfl⟩⟩

/-! ## Sessions -/

/-- One call of a session as it went. -/
structure Entry (D B : Type) : Type where
  /-- the operation; `none` for `init` -/
  op : Option ModelOp
  /-- what it returned -/
  ok : Bool
  /-- the calls it made -/
  trace : List (Event (Sys B) (World D B))

variable (St p R K m store) in
/-- The life of a handle up to some point: `init`, successful or not, then
operations. Indexed by the log of its calls and by where it has led. -/
inductive Session (s₀ : Memory) (w₀ : World D B) :
    List (Entry D B) → Memory → World D B → Prop where
  /-- `init` -/
  | init {tr : List (Event (Sys B) (World D B))} {ok : Bool} {s : Memory} {w : World D B} :
      (modelInit K m store s₀).Exec (World.machine St p R) w₀ tr ok s w →
      Session s₀ w₀ [⟨none, ok, tr⟩] s w
  /-- one more operation -/
  | op {log : List (Entry D B)} {tr : List (Event (Sys B) (World D B))} {s s' : Memory}
      {w w' : World D B} (op : ModelOp) {ok : Bool} :
      Session s₀ w₀ log s w → (op.run K m s).Exec (World.machine St p R) w tr ok s' w' →
      Session s₀ w₀ (log ++ [⟨some op, ok, tr⟩]) s' w'

/-- All the calls of a session, in order. -/
def traces (log : List (Entry D B)) : List (Event (Sys B) (World D B)) := log.flatMap Entry.trace

@[simp] theorem traces_singleton (e : Entry D B) : traces [e] = e.trace := by simp [traces]

@[simp] theorem traces_append (log log' : List (Entry D B)) :
    traces (log ++ log') = traces log ++ traces log' := by simp [traces]

/-! ## A concrete session -/

/-- A store that keeps documents as given. -/
abbrev smallStorage : Storage (Option TemporalPolicyV3) :=
  .exact fun _ => ⟨"standard-24", "gregorian", true, false, .finite 0, .finite 0⟩

/-- `init` over an empty store. -/
def smallInit : List (Event (Sys Unit) (World (Option TemporalPolicyV3) Unit)) × Bool × Memory ×
    World (Option TemporalPolicyV3) Unit :=
  World.play smallStorage 1 (modelInit Common.small 0 platformTemporalPolicyStore Memory.empty)
    (World.fresh none) []

/-- A location update begun after it, with the token 0. -/
def smallBegun : List (Event (Sys Unit) (World (Option TemporalPolicyV3) Unit)) × Bool × Memory ×
    World (Option TemporalPolicyV3) Unit :=
  World.play smallStorage 1
    ((ModelOp.beginLocationUpdate true (.finite 10) (.finite 20) 0).run Common.small 0
      smallInit.2.2.1) smallInit.2.2.2 []

theorem smallBegun_session {R : World (Option TemporalPolicyV3) Unit → _ → Prop}
    (hR : ∀ w, R w w) :
    Session smallStorage 1 R Common.small 0 platformTemporalPolicyStore Memory.empty
      (World.fresh none) [⟨none, smallInit.2.1, smallInit.1⟩,
        ⟨some (.beginLocationUpdate true (.finite 10) (.finite 20) 0), smallBegun.2.1,
          smallBegun.1⟩] smallBegun.2.2.1 smallBegun.2.2.2 :=
  Session.op _ (.init (World.play_exec smallStorage 1 hR _ _ []))
    (World.play_exec smallStorage 1 hR _ _ [])

end SystemSettings

import SystemSettings.ModelSession

/-!
# A normalized default and the first save

A model whose store holds no policy can have its clock mode normalized in memory. The
setters of other fields come after that. With an update lock they start from what the store
reports, and a store without a policy does not know about the normalized clock mode.
-/

namespace SystemSettings

variable {D B : Type} {St : Storage D} {p : Pid} {K : Common} {m : ModelId}

/-- Nobody else writes what the store reads. Locks may be taken and released. -/
def SoleWriter (w w' : World D B) : Prop := w'.document = w.document ∧ w'.native = w.native

/-- A setter of another field than the clock mode. -/
def ModelOp.SetsOther : ModelOp → Prop
  | setCalendar _ | setShowSeconds _ | setLocation _ _ _ => True
  | _ => False

variable (St p K m) in
/-- Setters of other fields, successful or not, from a first state. Indexed by the log of
their calls and by where they have led. -/
inductive OtherSetters (s₀ : Memory) (w₀ : World D B) :
    List (Entry D B) → Memory → World D B → Prop where
  /-- none yet -/
  | nil : OtherSetters s₀ w₀ [] s₀ w₀
  /-- one more -/
  | op {log : List (Entry D B)} {tr : List (Event (Sys B) (World D B))} {s s' : Memory}
      {w w' : World D B} (op : ModelOp) {ok : Bool} : op.SetsOther →
      OtherSetters s₀ w₀ log s w →
      (op.run K m s).Exec (World.machine St p SoleWriter) w tr ok s' w' →
      OtherSetters s₀ w₀ (log ++ [⟨some op, ok, tr⟩]) s' w'

/-- The model still has the clock mode, and so has the first document that was written. -/
def ClockModeSurvives (m : ModelId) (clockMode : String) (log : List (Entry D B)) (s : Memory) :
    Prop :=
  (∀ priv, s.models m = some priv → priv.policy.clockMode = clockMode) ∧
    ∀ before policy w after, traces log = before ++ event (.save policy) true w :: after →
      (∀ policy' w', event (.save policy') true w' ∉ before) → policy.clockMode = clockMode

/-- What `ss_date_time_model_init` asks of a store. -/
structure TemporalPolicyStore.Accepted (store : TemporalPolicyStore) : Prop where
  /-- it can load -/
  load : store.load = true
  /-- it can save -/
  save : store.save = true
  /-- it has both lock hooks or neither -/
  hooks : store.beginUpdate = store.endUpdate

/-! ## One setter -/

/-- The setters of other fields keep the clock mode of their candidate. -/
theorem ModelOp.SetsOther.clockMode {op : ModelOp} (h : op.SetsOther)
    {edit : TemporalPolicyV3 → TemporalPolicyV3} (hc : op.change K = some edit)
    (policy : TemporalPolicyV3) : (edit policy).clockMode = policy.clockMode := by
  cases op with
  | setCalendar calendarId =>
    rw [change, Option.ite_none_right_eq_some, Option.some.injEq] at hc
    rw [← hc.2]
    rfl
  | setShowSeconds showSeconds =>
    rw [← Option.some.inj hc]
    rfl
  | setLocation configured latitude longitude =>
    rw [change, Option.ite_none_right_eq_some, Option.some.injEq] at hc
    rw [← hc.2]
    rfl
  | _ => exact h.elim

/-- A setter that refuses its argument does nothing. -/
theorem ModelOp.run_of_unchanged {op : ModelOp} (h : op.SetsOther) (hc : op.change K = none) :
    (op.run K m : SysM B Bool) = pure false := by
  cases op with
  | setCalendar calendarId =>
    have hinvalid : ¬ validCalendar K calendarId = true := fun hvalid => by
      simp [change, hvalid] at hc
    exact if_neg hinvalid
  | setShowSeconds showSeconds => exact absurd hc (Option.some_ne_none _)
  | setLocation configured latitude longitude =>
    have hinvalid : ¬ validLocation latitude longitude = true := fun hvalid => by
      simp [change, hvalid] at hc
    exact if_neg hinvalid
  | _ => exact h.elim

/-- Without lock hooks a setter starts from the policy in memory. -/
theorem setField_unlocked {W : Type} {s s' : Memory} {priv : ModelPrivate}
    {tr : List (Event (Sys B) W)} {edit : TemporalPolicyV3 → TemporalPolicyV3} {ok : Bool}
    (hm : s.models m = some priv) (hsave : priv.store.save = true)
    (hbegin : priv.store.beginUpdate = false) (hidle : priv.saving = false)
    (h : (setField m edit s).Yields tr ok s') :
    ∃ w, tr = [event (.save (edit priv.policy)) ok w] ∧
      s' = if ok then
          s.setModel m (some { priv with
            policy := edit priv.policy, persistedPolicyPresent := true })
        else s := by
  have same : s.setModel m (some { priv with saving := false }) = s := by
    rw [← hidle]
    exact Memory.setModel_eq_self hm
  simp [setField, beginCandidate, saveCandidate, releaseUpdateLock, hm, hsave, hbegin, hidle,
    same] at h
  rcases h with ⟨⟨w, rfl⟩, rfl, rfl⟩ | ⟨⟨w, rfl⟩, rfl, rfl⟩
  · exact ⟨w, rfl, rfl⟩
  · exact ⟨w, rfl, by rw [if_pos rfl, hidle]⟩

section Calls

variable {w : World D B}

theorem SoleWriter.refl (w : World D B) : SoleWriter w w := ⟨rfl, rfl⟩

theorem SoleWriter.trans {w₁ w₂ w₃ : World D B} (h : SoleWriter w₁ w₂) (h' : SoleWriter w₂ w₃) :
    SoleWriter w₁ w₃ :=
  ⟨h'.1.trans h.1, h'.2.trans h.2⟩

/-- A call that is not a write leaves what the store reads. -/
theorem soleWriter_of_step {e : Event (Sys B) (World D B)} (hc : ¬ e.cmd.IsWrite)
    (h : World.Step St p SoleWriter w e) : SoleWriter w e.world := by
  obtain ⟨w₁, ok, hR, -, hw⟩ := h
  have hnative : (World.respond St p ok w₁ e.cmd).2.native = w₁.native := by
    have hfile : ∀ (f : LocalityFile) (state : FileState B), (w₁.setFile f state).native =
        w₁.native := fun f _ => by cases f <;> rfl
    cases e.cmd with
    | writeFile f data =>
      simp only [World.respond]
      split
      · exact hfile f _
      · rfl
    | unlinkFile f =>
      simp only [World.respond]
      split
      · exact hfile f _
      · rfl
    | _ => simp only [World.respond] <;> split <;> rfl
  rw [hw]
  exact hR.trans ⟨(World.respond_of_not_write hc St p ok w₁).1, hnative⟩

/-- The store reports what it holds. -/
theorem load_of_step {x : TemporalPolicyV3 × Bool} {w' : World D B}
    (h : World.Step St p SoleWriter w (event .load (some x) w')) :
    St.load w.native w.document = some x := by
  obtain ⟨w₁, ok, hR, hr, -⟩ := h
  rw [← hR.1, ← hR.2]
  cases ok with
  | false => exact absurd hr (Option.some_ne_none x)
  | true => exact hr.symm

/-- The store holds what it took, and otherwise what it held. -/
theorem save_of_step {policy : TemporalPolicyV3} {ok : Bool} {w' : World D B}
    (h : World.Step St p SoleWriter w (event (.save policy) ok w')) :
    w'.native = w.native ∧
      if ok then St.save policy = some w'.document else w'.document = w.document := by
  obtain ⟨w₁, answered, hR, hr, hw⟩ := h
  simp only [World.respond] at hr hw
  rw [← hR.1, ← hR.2]
  split at hr
  · next d hd =>
    rw [hd] at hw
    subst hr hw
    cases answered with
    | false => exact absurd hd.symm (Option.some_ne_none d)
    | true => exact ⟨rfl, hd⟩
  · next hd =>
    rw [hd] at hw
    subst hr hw
    exact ⟨rfl, rfl⟩

end Calls

/-- No document is written in these calls. -/
def Unsaved (tr : List (Event (Sys B) (World D B))) : Prop :=
  ∀ policy w, event (.save policy) true w ∉ tr

/-- The setter has written this document, changed from this candidate. -/
structure Writes (St : Storage D) (m : ModelId) (priv : ModelPrivate) (s : Memory) (w : World D B)
    (tr : List (Event (Sys B) (World D B))) (s' : Memory) (w' : World D B)
    (base policy : TemporalPolicyV3) : Prop where
  /-- the only document it writes -/
  trace : ∃ before w₁ after, tr = before ++ event (.save policy) true w₁ :: after ∧
    Unsaved before ∧ Unsaved after
  /-- the clock mode is that of the candidate -/
  clockMode : policy.clockMode = base.clockMode
  /-- the candidate -/
  candidate : if priv.store.beginUpdate then
    ∃ found, St.load w.native w.document = some (base, found) else base = priv.policy
  /-- the store took it -/
  native : w'.native = w.native
  /-- the store holds it -/
  document : St.save policy = some w'.document
  /-- and so does the model -/
  memory : s' = s.setModel m (some { priv with policy := policy, persistedPolicyPresent := true })

/-- A setter of another field writes one document or leaves everything as it was. -/
theorem setter_step {op : ModelOp} (hother : op.SetsOther) {s s' : Memory} {w w' : World D B}
    {priv : ModelPrivate} (hm : s.models m = some priv) (haccepted : priv.store.Accepted)
    (hidle : priv.saving = false) {tr : List (Event (Sys B) (World D B))} {ok : Bool}
    (hx : (op.run K m s).Exec (World.machine St p SoleWriter) w tr ok s' w') :
    (SoleWriter w w' ∧ s' = s ∧ Unsaved tr) ∨
      ∃ base policy, Writes St m priv s w tr s' w' base policy := by
  obtain ⟨hyields, hpath⟩ := Prog.exec_quiet.mp hx
  cases hbegin : priv.store.beginUpdate with
  | true =>
    have hlocking : ∀ priv', s.models m = some priv' → priv'.store.Locking := by
      intro priv' hm'
      obtain rfl := Option.some.inj (hm.symm.trans hm')
      exact ⟨haccepted.load, haccepted.save, hbegin, haccepted.hooks ▸ hbegin⟩
    cases ModelOp.run_outcome hlocking hyields with
    | refused =>
      obtain rfl := hpath
      exact .inl ⟨.refl _, rfl, by simp [Unsaved]⟩
    | lockRefused priv' _ w₁ hm' hidle' htakes =>
      obtain ⟨hbeginning, rfl⟩ := hpath
      exact .inl ⟨soleWriter_of_step id hbeginning, rfl, by simp [Unsaved]⟩
    | loadFailed priv' _ w₁ w₂ w₃ hm' hidle' htakes =>
      obtain ⟨hbeginning, hload, hend, rfl⟩ := hpath
      refine .inl ⟨((soleWriter_of_step id hbeginning).trans (soleWriter_of_step id hload)).trans
        (soleWriter_of_step id hend), rfl, by simp [Unsaved]⟩
    | saveFailed priv' _ edit x w₁ w₂ w₃ w₄ hm' hidle' hc =>
      obtain ⟨hbeginning, hload, hsave, hend, rfl⟩ := hpath
      have hsaved := save_of_step hsave
      refine .inl ⟨(((soleWriter_of_step id hbeginning).trans (soleWriter_of_step id hload)).trans
        ⟨hsaved.2, hsaved.1⟩).trans (soleWriter_of_step id hend), rfl, by simp [Unsaved]⟩
    | saved priv' _ edit x w₁ w₂ w₃ w₄ hm' hidle' hc =>
      obtain rfl := Option.some.inj (hm.symm.trans hm')
      obtain ⟨hbeginning, hload, hsave, hend, rfl⟩ := hpath
      have hheld := soleWriter_of_step id hbeginning
      have hread := soleWriter_of_step id hload
      have hloaded := load_of_step hload
      obtain ⟨hnative, hdocument⟩ := save_of_step hsave
      have hended := soleWriter_of_step id hend
      refine .inr ⟨x.1, edit x.1, ?_⟩
      exact
        { trace := ⟨[event .beginUpdate true w₁, event .load (some x) w₂], w₃,
            [event .endUpdate () w'], rfl, by simp [Unsaved], by simp [Unsaved]⟩
          clockMode := hother.clockMode hc x.1
          candidate := by
            rw [if_pos hbegin, ← hheld.1, ← hheld.2]
            exact ⟨x.2, hloaded⟩
          native := ((hended.2.trans hnative).trans hread.2).trans hheld.2
          document := by
            rw [hended.1]
            exact hdocument
          memory := rfl }
    | _ => exact hother.elim
  | false =>
    cases hc : op.change K with
    | none =>
      rw [ModelOp.run_of_unchanged hother hc] at hyields
      obtain ⟨rfl, rfl, rfl⟩ := hyields
      obtain rfl := hpath
      exact .inl ⟨.refl _, rfl, by simp [Unsaved]⟩
    | some edit =>
      rw [ModelOp.run_of_change hc] at hyields
      obtain ⟨w₁, rfl, rfl⟩ := setField_unlocked hm haccepted.save hbegin hidle hyields
      obtain ⟨hsave, rfl⟩ := hpath
      obtain ⟨hnative, hdocument⟩ := save_of_step hsave
      cases ok with
      | false => exact .inl ⟨⟨hdocument, hnative⟩, rfl, by simp [Unsaved]⟩
      | true =>
        refine .inr ⟨priv.policy, edit priv.policy, ?_⟩
        exact
          { trace := ⟨[], w', [], rfl, by simp [Unsaved], by simp [Unsaved]⟩
            clockMode := hother.clockMode hc priv.policy
            candidate := by simp [hbegin]
            native := hnative
            document := hdocument
            memory := rfl }

/-! ## Runs of setters -/

/-- The model and its store agree on a clock mode, and so does every document written. -/
structure Carries (St : Storage D) (m : ModelId) (clockMode : String) (log : List (Entry D B))
    (s : Memory) (w : World D B) (priv : ModelPrivate) : Prop where
  /-- the model behind the handle -/
  model : s.models m = some priv
  /-- its store is one that `init` accepts -/
  accepted : priv.store.Accepted
  /-- it is not inside an update -/
  idle : priv.saving = false
  /-- its clock mode -/
  policy : priv.policy.clockMode = clockMode
  /-- what a setter would start from -/
  loads : priv.store.beginUpdate = true →
    ∀ x, St.load w.native w.document = some x → x.1.clockMode = clockMode
  /-- what was written -/
  written : ∀ policy w₁, event (.save policy) true w₁ ∈ traces log → policy.clockMode = clockMode

variable {clockMode : String} {s s' : Memory} {w w' : World D B} {log : List (Entry D B)}
  {priv : ModelPrivate}

theorem Carries.survives (h : Carries St m clockMode log s w priv) :
    ClockModeSurvives m clockMode log s := by
  refine ⟨fun priv' hm => ?_, fun before policy w₁ after hlog _ => h.written policy w₁ ?_⟩
  · rw [← Option.some.inj (h.model.symm.trans hm)]
    exact h.policy
  · rw [hlog]
    exact List.mem_append_right _ List.mem_cons_self

/-- A setter of another field keeps the agreement. -/
theorem Carries.setter (hround : ∀ native policy d x, St.save policy = some d →
      St.load native d = some x → x.1.clockMode = policy.clockMode)
    (h : Carries St m clockMode log s w priv) {op : ModelOp} (hother : op.SetsOther)
    {tr : List (Event (Sys B) (World D B))} {ok : Bool}
    (hx : (op.run K m s).Exec (World.machine St p SoleWriter) w tr ok s' w') :
    ∃ priv', priv'.store = priv.store ∧
      Carries St m clockMode (log ++ [⟨some op, ok, tr⟩]) s' w' priv' := by
  rcases setter_step hother h.model h.accepted h.idle hx with
    ⟨hsole, rfl, hunsaved⟩ | ⟨base, policy, hwrites⟩
  · refine ⟨priv, rfl, { h with loads := fun hbegin x hload => ?_, written := ?_ }⟩
    · rw [hsole.1, hsole.2] at hload
      exact h.loads hbegin x hload
    · intro policy w₁ hmem
      rw [traces_append, traces_singleton] at hmem
      rcases List.mem_append.mp hmem with hmem | hmem
      · exact h.written policy w₁ hmem
      · exact absurd hmem (hunsaved policy w₁)
  · obtain ⟨before, w₁, after, htrace, hbefore, hafter⟩ := hwrites.trace
    have hbase : base.clockMode = clockMode := by
      have hcandidate := hwrites.candidate
      split at hcandidate
      · next hbegin =>
        obtain ⟨found, hload⟩ := hcandidate
        exact h.loads hbegin (base, found) hload
      · rw [hcandidate]
        exact h.policy
    have hpolicy : policy.clockMode = clockMode := hwrites.clockMode.trans hbase
    refine ⟨{ priv with policy := policy, persistedPolicyPresent := true }, rfl, ?_⟩
    rw [hwrites.memory]
    refine
      { model := Memory.setModel_self ..
        accepted := h.accepted
        idle := h.idle
        policy := hpolicy
        loads := fun _ x hload => (hround _ _ _ x hwrites.document hload).trans hpolicy
        written := fun policy' w₂ hmem => ?_ }
    rw [traces_append, traces_singleton, htrace] at hmem
    rcases List.mem_append.mp hmem with hmem | hmem
    · exact h.written policy' w₂ hmem
    · rcases List.mem_append.mp hmem with hmem | hmem
      · exact absurd hmem (hbefore policy' w₂)
      · rcases List.mem_cons.mp hmem with heq | hmem
        · cases heq
          exact hpolicy
        · exact absurd hmem (hafter policy' w₂)

theorem OtherSetters.carries {s₀ : Memory} {w₀ : World D B}
    (hround : ∀ native policy d x, St.save policy = some d →
      St.load native d = some x → x.1.clockMode = policy.clockMode)
    (hstart : Carries St m clockMode [] s₀ w₀ priv)
    (h : OtherSetters St p K m s₀ w₀ log s w) :
    ∃ priv', priv'.store = priv.store ∧ Carries St m clockMode log s w priv' := by
  induction h with
  | nil => exact ⟨priv, rfl, hstart⟩
  | op op hother _ hx ih =>
    obtain ⟨priv', hstore, hcarries⟩ := ih
    obtain ⟨priv'', hstore', hcarries'⟩ := hcarries.setter hround hother hx
    exact ⟨priv'', hstore'.trans hstore, hcarries'⟩

/-- Over a store with lock hooks, one setter that meets no obstacle. The document it writes
is the one the store reports, with one field changed. -/
theorem exec_setShowSeconds (hm : s.models m = some priv) (haccepted : priv.store.Accepted)
    (hbegin : priv.store.beginUpdate = true) (hidle : priv.saving = false)
    {fallback : TemporalPolicyV3} {found showSeconds : Bool} {d : D}
    (hload : St.load w.native w.document = some (fallback, found))
    (hsave : St.save (assignShowSeconds showSeconds fallback) = some d) :
    ∃ tr w', ((ModelOp.setShowSeconds showSeconds).run K m s).Exec
      (World.machine St p SoleWriter) w tr true
      (s.setModel m (some { priv with
        policy := assignShowSeconds showSeconds fallback, persistedPolicyPresent := true })) w' := by
  have hend : priv.store.endUpdate = true := haccepted.hooks ▸ hbegin
  let held : World D B := { w with policyLock := some p }
  let written : World D B := { held with document := d }
  refine ⟨[event .beginUpdate true held, event .load (some (fallback, found)) held,
    event (.save (assignShowSeconds showSeconds fallback)) true written,
    event .endUpdate () { written with policyLock := none }], { written with policyLock := none },
    Prog.exec_quiet.mpr ⟨?_, ?_, ?_, ?_, ?_, rfl⟩⟩
  · simp [ModelOp.run, modelSetShowSeconds, setField, beginCandidate, saveCandidate,
      releaseUpdateLock, hm, haccepted.load, haccepted.save, hbegin, hend, hidle]
  · exact ⟨{ w with policyLock := none }, true, ⟨rfl, rfl⟩, by simp [World.respond],
      by simp [World.respond, held]⟩
  · exact ⟨held, true, .refl _, by simp [World.respond, held, hload], by simp [World.respond]⟩
  · exact ⟨held, true, .refl _, by simp [World.respond, hsave],
      by simp [World.respond, hsave, written]⟩
  · exact ⟨written, true, .refl _, by simp [World.respond],
      by simp [World.respond, written, held]⟩

/-- The normalized clock mode survives every run of setters of other fields if and only if
the store has no update lock or reports that very clock mode when it holds no policy. -/
theorem normalized_clock_mode_survives_iff (St : Storage D) (p : Pid) (K : Common) (m : ModelId)
    (clockMode : String) (info : ClockModeInfo) (fallback : TemporalPolicyV3) (s s₁ : Memory)
    (w w₁ : World D B) (priv : ModelPrivate) (tr : List (Event (Sys B) (World D B)))
    (hmodel : s.models m = some priv) (haccepted : priv.store.Accepted)
    (hempty : St.load w.native w.document = some (fallback, false))
    (hvalid : validClockMode K clockMode = some info)
    (hnormalized : (modelNormalizeUnpersistedClockMode K m clockMode s).Exec
      (World.machine St p SoleWriter) w tr true s₁ w₁)
    (hround : ∀ native policy d x, St.save policy = some d →
      St.load native d = some x → x.1.clockMode = policy.clockMode)
    (hwritable : ∃ showSeconds d, St.save (assignShowSeconds showSeconds fallback) = some d) :
    (∀ log s' w', OtherSetters St p K m s₁ w₁ log s' w' →
      ClockModeSurvives m (K.copyClockMode info.id) log s') ↔
      priv.store.beginUpdate = false ∨ fallback.clockMode = K.copyClockMode info.id := by
  obtain ⟨hyields, hpath⟩ := Prog.exec_quiet.mp hnormalized
  cases modelNormalizeUnpersistedClockMode_outcome hyields with
  | saved priv' _ edit x w₁ w₂ w₃ w₄ hm' hidle hc => exact absurd hc.symm (Option.some_ne_none edit)
  | normalized priv' _ info' hm' hidle hunpersisted hvalid' =>
    obtain rfl := Option.some.inj (hmodel.symm.trans hm')
    obtain rfl := Option.some.inj (hvalid.symm.trans hvalid')
    obtain rfl : w₁ = w := hpath
    have hmodel₁ := s.setModel_self m
      (some { priv with policy := assignClockMode K info priv.policy })
    constructor
    · intro hsurvives
      cases hbegin : priv.store.beginUpdate with
      | false => exact .inl rfl
      | true =>
        obtain ⟨showSeconds, d, hsave⟩ := hwritable
        obtain ⟨tr', w', hx⟩ :=
          exec_setShowSeconds (K := K) hmodel₁ haccepted hbegin hidle hempty hsave
        have hrun := hsurvives _ _ _ (.op (.setShowSeconds showSeconds) trivial .nil hx)
        exact .inr (hrun.1 _ (Memory.setModel_self ..))
    · intro hcondition log s' w' hrun
      have hstart : Carries St m (K.copyClockMode info.id) ([] : List (Entry D B)) _ w₁
          { priv with policy := assignClockMode K info priv.policy } :=
        { model := hmodel₁
          accepted := haccepted
          idle := hidle
          policy := rfl
          loads := fun hbegin x hload => by
            rcases hcondition with hnone | hsame
            · exact absurd (hnone.symm.trans hbegin) Bool.false_ne_true
            · rw [← Option.some.inj (hempty.symm.trans hload)]
              exact hsame
          written := fun _ _ hmem => (List.not_mem_nil hmem).elim }
      obtain ⟨priv', -, hcarries⟩ := hrun.carries hround hstart
      exact hcarries.survives

/-! ## A small run -/

/-- A store that reports the legacy default when it holds no policy. -/
abbrev legacyStorage : Storage (Option TemporalPolicyV3) :=
  .exact fun _ => ⟨"standard", "gregorian", false, false, .finite 0, .finite 0⟩

/-- A model over that storage, before any policy is saved. -/
def legacyModel (store : TemporalPolicyStore) : Memory := Memory.empty.setModel 0 (some
  ⟨⟨"standard", "gregorian", false, false, .finite 0, .finite 0⟩, store, false, false⟩)

/-- Its clock mode is normalized to the 12-hour clock. -/
def legacyNormalized (store : TemporalPolicyStore) :
    List (Event (Sys Unit) (World (Option TemporalPolicyV3) Unit)) × Bool × Memory ×
      World (Option TemporalPolicyV3) Unit :=
  World.play legacyStorage 1
    (modelNormalizeUnpersistedClockMode Common.small 0 "standard-12" (legacyModel store))
    (World.fresh none) []

/-- The first setter after that. -/
def legacySeconds (store : TemporalPolicyStore) :
    List (Event (Sys Unit) (World (Option TemporalPolicyV3) Unit)) × Bool × Memory ×
      World (Option TemporalPolicyV3) Unit :=
  World.play legacyStorage 1
    ((ModelOp.setShowSeconds true).run Common.small 0 (legacyNormalized store).2.2.1)
    (legacyNormalized store).2.2.2 []

theorem legacySeconds_run (store : TemporalPolicyStore) :
    OtherSetters legacyStorage 1 Common.small 0 (legacyNormalized store).2.2.1
      (legacyNormalized store).2.2.2
      [⟨some (.setShowSeconds true), (legacySeconds store).2.1, (legacySeconds store).1⟩]
      (legacySeconds store).2.2.1 (legacySeconds store).2.2.2 :=
  .op (.setShowSeconds true) trivial .nil
    (World.play_exec legacyStorage 1 SoleWriter.refl _ _ [])

/-- Without lock hooks the 12-hour clock is kept. -/
theorem normalized_clock_mode_survives_unlocked :
    ClockModeSurvives 0 "standard-12"
      [⟨some (.setShowSeconds true), (legacySeconds ⟨true, true, true, false, false, true⟩).2.1,
        (legacySeconds ⟨true, true, true, false, false, true⟩).1⟩]
      (legacySeconds ⟨true, true, true, false, false, true⟩).2.2.1 :=
  (normalized_clock_mode_survives_iff legacyStorage 1 Common.small 0 "standard-12" ⟨"standard-12"⟩
    ⟨"standard", "gregorian", false, false, .finite 0, .finite 0⟩
    (legacyModel ⟨true, true, true, false, false, true⟩) _ _ _ _ _ rfl
    ⟨rfl, rfl, rfl⟩ rfl (by decide)
    (World.play_exec legacyStorage 1 SoleWriter.refl _ (World.fresh none) [])
    (by
      rintro native policy d x hsave hload
      cases hsave
      cases hload
      rfl) ⟨true, _, rfl⟩).mpr (.inl rfl) _ _ _ (legacySeconds_run _)

/-- With the store of the platform the legacy default comes back as soon as the seconds are
shown. -/
theorem normalized_clock_mode_lost :
    ¬ ∀ (store : TemporalPolicyStore) (clockMode : String) (info : ClockModeInfo),
      store.Accepted → validClockMode Common.small clockMode = some info →
      ∀ tr s₁ w₁, (modelNormalizeUnpersistedClockMode Common.small 0 clockMode
          (legacyModel store)).Exec (World.machine legacyStorage 1 SoleWriter) (World.fresh none) tr
          true s₁ w₁ →
        ∀ (log : List (Entry (Option TemporalPolicyV3) Unit)) s w,
          OtherSetters legacyStorage 1 Common.small 0 s₁ w₁ log s w →
          ClockModeSurvives 0 (Common.small.copyClockMode info.id) log s := by
  intro h
  have hsurvives := h platformTemporalPolicyStore "standard-12" ⟨"standard-12"⟩ ⟨rfl, rfl, rfl⟩
    (by decide) _ _ _ (World.play_exec legacyStorage 1 SoleWriter.refl _ (World.fresh none) [])
    _ _ _ (legacySeconds_run platformTemporalPolicyStore)
  have hlost := hsurvives.1 ⟨⟨"standard", "gregorian", true, false, .finite 0, .finite 0⟩,
    platformTemporalPolicyStore, true, false⟩ rfl
  exact absurd hlost (by decide)

end SystemSettings

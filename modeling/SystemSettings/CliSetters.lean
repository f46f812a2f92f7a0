import SystemSettings.CliCommit

/-!
# The options as model setters

The options of a command line given to the model one after another, each with its
own transaction, by a process that is alone. The store rounds coordinates when it
writes them, so after the first setter the model goes on from a rounded policy; the
document is still the one that the fold of the options saves at once.
-/

namespace SystemSettings

variable {D B : Type} {St : Storage D} {K : Common} {p : Pid} {m : ModelId}
  {round : Double → Double} {s s' : Memory} {w w' : World D B}

/-! ## The setters -/

/-- The model setter of an option. To clear the location is to set it as it is, not
configured. -/
def CliOption.modelSet (K : Common) (m : ModelId) : CliOption → SysM B Bool
  | clock mode => modelSetClockMode K m mode
  | calendar id => modelSetCalendar K m id
  | seconds showSeconds => modelSetShowSeconds m showSeconds
  | location latitude longitude => modelSetLocation m true latitude longitude
  | clearLocation => do
    match ← readModel m with
    | none => pure false
    | some priv => modelSetLocation m false priv.policy.latitude priv.policy.longitude

/-- The model setters one after another. -/
def modelSetAll (K : Common) (m : ModelId) : List CliOption → SysM B Bool
  | [] => pure true
  | option :: options => do
    if ← option.modelSet K m then modelSetAll K m options else pure false

/-- A model on the platform store and the setters of these options. -/
def setterSequence (K : Common) (m : ModelId) (options : List CliOption) : SysM B Bool := do
  if ← modelInit K m platformTemporalPolicyStore then modelSetAll K m options else pure false

/-! ## What is known of the store -/

/-- The policy with its coordinates rounded. -/
def TemporalPolicyV3.rounded (round : Double → Double) (policy : TemporalPolicyV3) :
    TemporalPolicyV3 :=
  { policy with latitude := round policy.latitude, longitude := round policy.longitude }

/-- A document keeps a policy but for the rounding of its coordinates. -/
structure Storage.Rounds (St : Storage D) (round : Double → Double) : Prop where
  /-- what is rounded stays as it is -/
  round_round : ∀ x, round (round x) = round x
  /-- a saved policy is read back rounded -/
  load_save : ∀ policy document native, St.save policy = some document →
    St.load native document = some (policy.rounded round, true)
  /-- and rounded it would have been the same document -/
  save_rounded : ∀ policy, St.save (policy.rounded round) = St.save policy

/-! ## One setter -/

/-- A setter of a model that succeeds. -/
theorem setField_true {priv : ModelPrivate} {edit : TemporalPolicyV3 → TemporalPolicyV3}
    {tr : List (Event (Sys B) (World D B))} (hm : s.models m = some priv)
    (hl : priv.store.Locking) (hy : (setField m edit s).Yields tr true s') :
    ∃ x w₁ w₂ w₃ w₄, tr = [event .beginUpdate true w₁, event .load (some x) w₂,
        event (.save (edit x.1)) true w₃, event .endUpdate () w₄] ∧
      s'.models m = some ⟨edit x.1, priv.store, true, false⟩ := by
  simp only [setField, Action.bind_run] at hy
  obtain ⟨tr₁, candidate, s₁, tr₂, h₁, h₂, rfl⟩ := Prog.yields_bind hy
  rcases beginCandidate_yields hm hl h₁ with ⟨rfl, rfl, rfl⟩ | ⟨-, h₁⟩
  · cases h₂.2.1
  rcases h₁ with ⟨w₁, rfl, rfl, rfl⟩ | ⟨w₁, w₂, w₃, rfl, rfl, rfl⟩ | ⟨x, w₁, w₂, rfl, rfl, rfl⟩
  · cases h₂.2.1
  · cases h₂.2.1
  · have held := s.setModel_self m (some { priv with saving := true })
    obtain ⟨w₃, w₄, rfl, rfl⟩ := saveCandidate_yields held hl rfl h₂
    exact ⟨x, w₁, w₂, w₃, w₄, rfl, by simp⟩

/-- A process alone, by call. -/
abbrev AloneStep (St : Storage D) (p : Pid) (w : World D B) (e : Event (Sys B) (World D B)) :
    Prop :=
  World.Step St p (· = ·) w e

theorem AloneStep.load {x : TemporalPolicyV3 × Bool}
    (h : AloneStep St p w (event (B := B) .load (some x) w')) :
    w' = w ∧ St.load w.native w.document = some x := by
  obtain ⟨_, ok, rfl, hload, hw'⟩ := h
  cases ok with
  | false => cases hload
  | true => exact ⟨hw', hload.symm⟩

theorem AloneStep.save {policy : TemporalPolicyV3}
    (h : AloneStep St p w (event (B := B) (.save policy) true w')) :
    St.save policy = some w'.document := by
  obtain ⟨_, ok, rfl, hok, hw'⟩ := h
  simp only [World.respond] at hok hw'
  cases hsave : if ok then St.save policy else none with
  | none =>
    rw [hsave] at hok
    cases hok
  | some document =>
    rw [hsave] at hw'
    rw [hw']
    exact (Storage.saved hsave).2

theorem AloneStep.beginUpdate {ok : Bool}
    (h : AloneStep St p w (event (B := B) .beginUpdate ok w')) :
    w'.document = w.document ∧ w'.native = w.native := by
  obtain ⟨_, ok, rfl, -, hw'⟩ := h
  simp only [World.respond] at hw'
  split at hw' <;> rw [hw'] <;> exact ⟨rfl, rfl⟩

theorem AloneStep.endUpdate (h : AloneStep St p w (event (B := B) .endUpdate () w')) :
    w'.document = w.document := by
  obtain ⟨_, ok, rfl, -, hw'⟩ := h
  simp only [World.respond] at hw'
  split at hw' <;> rw [hw']

/-- The same by the document. -/
theorem setField_document {priv : ModelPrivate} {edit : TemporalPolicyV3 → TemporalPolicyV3}
    {tr : List (Event (Sys B) (World D B))} (hm : s.models m = some priv)
    (hl : priv.store.Locking)
    (hx : (setField m edit s).Exec (aloneMachine St B p) w tr true s' w') :
    ∃ x, St.load w.native w.document = some x ∧ St.save (edit x.1) = some w'.document ∧
      s'.models m = some ⟨edit x.1, priv.store, true, false⟩ := by
  obtain ⟨hy, hpath⟩ := Prog.exec_quiet.mp hx
  obtain ⟨x, w₁, w₂, w₃, w₄, rfl, hs'⟩ := setField_true hm hl hy
  obtain ⟨hbegin, hload, hsave, hend, rfl⟩ := hpath
  obtain ⟨hdocument, hnative⟩ := AloneStep.beginUpdate hbegin
  obtain ⟨rfl, hx⟩ := AloneStep.load hload
  rw [hdocument, hnative] at hx
  exact ⟨x, hx, (AloneStep.endUpdate hend) ▸ AloneStep.save hsave, hs'⟩

/-! ## One option -/

/-- Policies that a document does not tell apart. -/
def SameRounded (round : Double → Double) (policy policy' : TemporalPolicyV3) : Prop :=
  policy.rounded round = policy'.rounded round

theorem sameRounded_iff {policy policy' : TemporalPolicyV3} :
    SameRounded round policy policy' ↔ policy.clockMode = policy'.clockMode ∧
      policy.calendar = policy'.calendar ∧ policy.showSeconds = policy'.showSeconds ∧
      policy.locationConfigured = policy'.locationConfigured ∧
      round policy.latitude = round policy'.latitude ∧
      round policy.longitude = round policy'.longitude := by
  simp [SameRounded, TemporalPolicyV3.rounded]

theorem Storage.Rounds.save_congr (hround : St.Rounds round) {policy policy' : TemporalPolicyV3}
    (h : SameRounded round policy policy') : St.save policy = St.save policy' := by
  rw [← hround.save_rounded policy, h, hround.save_rounded]

theorem Storage.Rounds.rounded_rounded (hround : St.Rounds round) (policy : TemporalPolicyV3) :
    SameRounded round (policy.rounded round) policy := by
  simp [SameRounded, TemporalPolicyV3.rounded, hround.round_round]

/-- The setter of an option, where the option has an edit, is the same edit but for rounding,
or it refuses. -/
theorem CliOption.modelSet_eq {option : CliOption} {policy policy' : TemporalPolicyV3}
    {priv : ModelPrivate} (hedit : option.edit K policy = some policy')
    (hm : s.models m = some priv) (hpriv : SameRounded round priv.policy policy) :
    ∃ edit, (∀ candidate, SameRounded round candidate policy →
        SameRounded round (edit candidate) policy') ∧
      (option.modelSet K m s = (setField m edit s : Prog (Sys B) Memory Bool) ∨
        option.modelSet K m s = (.ret false s : Prog (Sys B) Memory Bool)) := by
  cases option with
  | clock mode =>
    obtain ⟨info, hinfo, rfl⟩ := Option.map_eq_some_iff.mp hedit
    refine ⟨assignClockMode K info, fun candidate h => ?_, .inl ?_⟩
    · exact sameRounded_iff.mpr ⟨rfl, (sameRounded_iff.mp h).2⟩
    · simp only [modelSet, modelSetClockMode, hinfo]
  | calendar id =>
    obtain ⟨hvalid, rfl⟩ := (policyDraftSetCalendar_eq_some K).mp hedit
    refine ⟨assignCalendar K id, fun candidate h => ?_, .inl ?_⟩
    · obtain ⟨hclock, -, hrest⟩ := sameRounded_iff.mp h
      exact sameRounded_iff.mpr ⟨hclock, rfl, hrest⟩
    · simp only [modelSet, modelSetCalendar, hvalid, if_true]
  | seconds showSeconds =>
    cases hedit
    refine ⟨assignShowSeconds showSeconds, fun candidate h => ?_, .inl rfl⟩
    obtain ⟨hclock, hcalendar, -, hrest⟩ := sameRounded_iff.mp h
    exact sameRounded_iff.mpr ⟨hclock, hcalendar, rfl, hrest⟩
  | location latitude longitude =>
    obtain ⟨hvalid, rfl⟩ := policyDraftSetLocation_eq_some.mp hedit
    refine ⟨assignLocation true latitude longitude, fun candidate h => ?_, .inl ?_⟩
    · obtain ⟨hclock, hcalendar, hseconds, -⟩ := sameRounded_iff.mp h
      exact sameRounded_iff.mpr ⟨hclock, hcalendar, hseconds, rfl, rfl, rfl⟩
    · simp only [modelSet, modelSetLocation, hvalid, if_true]
  | clearLocation =>
    -- the coordinates stay, and those of the model may be rounded already
    obtain ⟨-, rfl⟩ := policyDraftSetLocation_eq_some.mp hedit
    refine ⟨assignLocation false priv.policy.latitude priv.policy.longitude,
      fun candidate h => ?_, ?_⟩
    · obtain ⟨hclock, hcalendar, hseconds, -⟩ := sameRounded_iff.mp h
      obtain ⟨-, -, -, -, hlatitude, hlongitude⟩ := sameRounded_iff.mp hpriv
      exact sameRounded_iff.mpr ⟨hclock, hcalendar, hseconds, rfl, hlatitude, hlongitude⟩
    · simp only [modelSet, Action.bind_run, readModel_run, Prog.ret_bind, hm, modelSetLocation]
      split
      · exact .inl rfl
      · exact .inr rfl

/-! ## All options -/

/-- The model has come as far as this policy: it shows it, and the document holds it. -/
structure SetUpTo (St : Storage D) (round : Double → Double) (m : ModelId)
    (policy : TemporalPolicyV3) (s : Memory) (w : World D B) : Prop where
  model : ∃ priv, s.models m = some priv ∧ priv.store.Locking ∧
    SameRounded round priv.policy policy
  document : ∀ x, St.load w.native w.document = some x → SameRounded round x.1 policy

/-- One setter is one edit. -/
theorem SetUpTo.modelSet (hround : St.Rounds round) {option : CliOption}
    {policy policy' : TemporalPolicyV3} {tr : List (Event (Sys B) (World D B))}
    (h : SetUpTo St round m policy s w) (hedit : option.edit K policy = some policy')
    (hx : (option.modelSet K m s).Exec (aloneMachine St B p) w tr true s' w') :
    SetUpTo St round m policy' s' w' ∧ St.save policy' = some w'.document := by
  obtain ⟨priv, hm, hl, hpriv⟩ := h.model
  obtain ⟨edit, hsame, hrun | hrun⟩ := CliOption.modelSet_eq (B := B) hedit hm hpriv
  · rw [hrun] at hx
    obtain ⟨x, hload, hsave, hs'⟩ := setField_document hm hl hx
    have hx' : SameRounded round (edit x.1) policy' := hsame x.1 (h.document x hload)
    refine ⟨⟨⟨_, hs', hl, hx'⟩, fun y hy => ?_⟩, ?_⟩
    · rw [hround.load_save _ _ _ hsave] at hy
      cases hy
      exact (hround.rounded_rounded _).trans hx'
    · rw [← hround.save_congr hx']
      exact hsave
  · rw [hrun] at hx
    cases hx.2.1

/-- The setters are the fold of the edits: they leave the document that the last policy
saves. -/
theorem SetUpTo.modelSetAll (hround : St.Rounds round) {options : List CliOption}
    {policy final : TemporalPolicyV3} {tr : List (Event (Sys B) (World D B))}
    (h : SetUpTo St round m policy s w)
    (hfold : options.foldlM (CliOption.edit K) policy = some final) (hne : options ≠ [])
    (hx : (SystemSettings.modelSetAll K m options s).Exec (aloneMachine St B p) w tr true s' w') :
    St.save final = some w'.document := by
  induction options generalizing policy s w tr with
  | nil => exact absurd rfl hne
  | cons option options ih =>
    rw [List.foldlM_cons] at hfold
    obtain ⟨policy₁, hedit, hfold⟩ := Option.bind_eq_some_iff.mp hfold
    obtain ⟨tr₁, ok, s₁, w₁, tr₂, hx₁, hx₂, rfl⟩ := Prog.exec_bind hx
    cases ok with
    | false => cases hx₂.2.1
    | true =>
      obtain ⟨h₁, hsave⟩ := h.modelSet hround hedit hx₁
      cases options with
      | nil =>
        cases hfold
        obtain ⟨-, -, -, rfl⟩ := hx₂
        exact hsave
      | cons option' options => exact ih h₁ hfold (List.cons_ne_nil _ _) hx₂

/-- A model on the platform store and its setters leave the document of the fold. -/
theorem setterSequence_document (hround : St.Rounds round) {options : List CliOption}
    {loaded : TemporalPolicyV3 × Bool} {final : TemporalPolicyV3}
    {tr : List (Event (Sys B) (World D B))} (hload : St.load w.native w.document = some loaded)
    (hfold : options.foldlM (CliOption.edit K) loaded.1 = some final) (hne : options ≠ [])
    (hm : s.models m = none)
    (hx : (setterSequence K m options s).Exec (aloneMachine St B p) w tr true s' w') :
    St.save final = some w'.document := by
  obtain ⟨tr₁, ok, s₁, w₁, tr₂, hinit, hset, rfl⟩ := Prog.exec_bind hx
  have hmodel := hinit.of_wp (modelInit_wp hm)
  cases ok with
  | false => cases hset.2.1
  | true =>
    obtain ⟨rfl, -, loaded', hload', -, rfl⟩ := hmodel
    rw [hload] at hload'
    cases hload'
    have hstart : SetUpTo St round m loaded.1 (s.setModel m
        (some ⟨loaded.1, platformTemporalPolicyStore, loaded.2, false⟩)) w₁ := by
      refine ⟨⟨_, Memory.setModel_self .., platformTemporalPolicyStore_locking, rfl⟩, fun x hx => ?_⟩
      rw [hload] at hx
      cases hx
      rfl
    exact hstart.modelSetAll hround hfold hne hset

end SystemSettings

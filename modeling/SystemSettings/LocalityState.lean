import SystemSettings.PolicyFile

/-!
# The locality state

What the policy document says about the location, whatever else it holds, and
what the other processes leave alone when they edit other fields of the policy.

A policy file keeps a coordinate to six decimals.
-/

namespace SystemSettings

variable {P B : Type} {K : Common} {F : PolicyFormat P}

/-! ## Coordinates -/

/-- Degrees north and degrees east. -/
abbrev Coordinates : Type := Double × Double

theorem coordinateTolerance_pos : 0 < coordinateTolerance := by decide +kernel

/-- Two coordinates are close when they are finite and differ by less than the
tolerance. -/
theorem coordinateClose_iff {left right : Double} : coordinateClose left right = true ↔
    ∃ x y, left = .finite x ∧ right = .finite y ∧ |x - y| < coordinateTolerance := by
  cases left with
  | finite x =>
    cases right with
    | finite y =>
      by_cases h : x - y < 0
      · simp [coordinateClose, coordinateDifference, Double.sub, Double.lt, Double.neg, h,
          abs_of_neg h]
      · simp [coordinateClose, coordinateDifference, Double.sub, Double.lt, h,
          abs_of_nonneg (not_lt.mp h)]
    | infinite n => cases n <;> simp [coordinateClose, coordinateDifference, Double.sub,
        Double.lt, Double.neg]
    | nan => simp [coordinateClose, coordinateDifference, Double.sub, Double.lt]
  | infinite n =>
    cases right with
    | finite y => cases n <;> simp [coordinateClose, coordinateDifference, Double.sub, Double.lt,
        Double.neg]
    | infinite k => cases n <;> cases k <;> simp [coordinateClose, coordinateDifference,
        Double.sub, Double.lt, Double.neg]
    | nan => simp [coordinateClose, coordinateDifference, Double.sub, Double.lt]
  | nan => cases right <;> simp [coordinateClose, coordinateDifference, Double.sub, Double.lt]

theorem coordinateClose_comm (left right : Double) :
    coordinateClose left right = coordinateClose right left := by
  refine Bool.eq_iff_iff.mpr ?_
  simp only [coordinateClose_iff]
  constructor
  · rintro ⟨x, y, hx, hy, h⟩
    exact ⟨y, x, hy, hx, abs_sub_comm x y ▸ h⟩
  · rintro ⟨x, y, hx, hy, h⟩
    exact ⟨y, x, hy, hx, abs_sub_comm x y ▸ h⟩

/-- Both coordinates are close. -/
def Coordinates.Close (left right : Coordinates) : Prop :=
  coordinateClose left.1 right.1 = true ∧ coordinateClose left.2 right.2 = true

instance (left right : Coordinates) : Decidable (left.Close right) :=
  inferInstanceAs (Decidable (_ ∧ _))

theorem Coordinates.Close.symm {left right : Coordinates} (h : left.Close right) :
    right.Close left :=
  ⟨coordinateClose_comm left.1 right.1 ▸ h.1, coordinateClose_comm left.2 right.2 ▸ h.2⟩

/-! ## The location of a policy -/

/-- The location that a policy is configured for. -/
def TemporalPolicyV3.location (policy : TemporalPolicyV3) : Option Coordinates :=
  if policy.locationConfigured then some (policy.latitude, policy.longitude) else none

theorem TemporalPolicyV3.location_eq_none {policy : TemporalPolicyV3} :
    policy.location = none ↔ policy.locationConfigured = false := by
  simp [location]

theorem TemporalPolicyV3.location_eq_some {policy : TemporalPolicyV3} {c : Coordinates} :
    policy.location = some c ↔
      policy.locationConfigured = true ∧ policy.latitude = c.1 ∧ policy.longitude = c.2 := by
  simp [location, Prod.ext_iff]

@[simp] theorem location_loadCinnamonDefaults (native : Option Native)
    (policy : TemporalPolicyV3) :
    (loadCinnamonDefaults K native policy).location = policy.location := by
  cases native <;> rfl

@[simp] theorem location_assignClockMode (info : ClockModeInfo) (policy : TemporalPolicyV3) :
    (assignClockMode K info policy).location = policy.location := rfl

@[simp] theorem location_assignCalendar (calendarId : String) (policy : TemporalPolicyV3) :
    (assignCalendar K calendarId policy).location = policy.location := rfl

@[simp] theorem location_assignShowSeconds (showSeconds : Bool) (policy : TemporalPolicyV3) :
    (assignShowSeconds showSeconds policy).location = policy.location := rfl

@[simp] theorem location_assignLocation (latitude longitude : Double)
    (policy : TemporalPolicyV3) :
    (assignLocation true latitude longitude policy).location = some (latitude, longitude) := rfl

@[simp] theorem location_assignLocation_false (latitude longitude : Double)
    (policy : TemporalPolicyV3) :
    (assignLocation false latitude longitude policy).location = none := rfl

variable (K F) in
/-- The location that the policy file says; `none` when it cannot be read. -/
def policyLocation (document : FileState P) : Option (Option Coordinates) :=
  (platformLoad K F none document).map fun x => x.1.location

/-- The desktop's settings have no say in it. -/
theorem policyLocation_of_load {native : Option Native} {document : FileState P}
    {x : TemporalPolicyV3 × Bool} (h : platformLoad K F native document = some x) :
    policyLocation K F document = some x.1.location := by
  cases document with
  | absent =>
    obtain ⟨policy, hp, rfl⟩ := Option.map_eq_some_iff.mp h
    simp [policyLocation, platformLoad, hp]
  | unreadable => cases h
  | contents data =>
    cases hd : F.parse data with
    | ok policy =>
      simp only [platformLoad, hd, Option.some.injEq] at h
      subst h
      simp [policyLocation, platformLoad, hd]
    | error damage =>
      cases damage <;>
      · simp only [platformLoad, hd] at h
        obtain ⟨policy, hp, rfl⟩ := Option.map_eq_some_iff.mp h
        simp [policyLocation, platformLoad, hd, hp]

/-! ## What a saved policy keeps -/

/-- Round both coordinates. -/
def Coordinates.rounded (round : Double → Double) (c : Coordinates) : Coordinates :=
  (round c.1, round c.2)

/-- Policy files keep coordinates rounded to six decimals. -/
structure PolicyFormat.SixDecimals (F : PolicyFormat P) (round : Double → Double) : Prop where
  /-- what is written is read back with its coordinates rounded -/
  format : ∀ policy data, F.format policy = some data → ∃ stored, F.parse data = .ok stored ∧
    stored.location = policy.location.map (Coordinates.rounded round)
  /-- what is read is rounded -/
  parse : ∀ data policy, F.parse data = .ok policy →
    policy.location.map (Coordinates.rounded round) = policy.location
  /-- rounding moves a coordinate by less than the tolerance -/
  close : ∀ x : Double, x.isFinite = true → coordinateClose (round x) x = true

theorem PolicyFormat.small_sixDecimals : PolicyFormat.small.SixDecimals id where
  format policy data h := by
    cases h
    exact ⟨policy, rfl, by cases policy.location <;> rfl⟩
  parse data policy _ := by cases policy.location <;> rfl
  close x hx := by
    cases x with
    | finite x =>
      refine coordinateClose_iff.mpr ⟨x, x, rfl, rfl, ?_⟩
      rw [sub_self, abs_zero]
      exact coordinateTolerance_pos
    | infinite | nan => cases hx

variable {round : Double → Double}

/-- The location after a save. -/
theorem policyLocation_save (hF : F.SixDecimals round) {policy : TemporalPolicyV3} {data : P}
    (h : F.format policy = some data) : policyLocation K F (.contents data) =
      some (policy.location.map (Coordinates.rounded round)) := by
  obtain ⟨stored, hp, hlocation⟩ := hF.format policy data h
  simp [policyLocation, platformLoad, hp, hlocation]

theorem Coordinates.rounded_close (hF : F.SixDecimals round) {c : Coordinates}
    (hc : validLocation c.1 c.2 = true) : (c.rounded round).Close c := by
  simp only [validLocation, Bool.and_eq_true] at hc
  exact ⟨hF.close _ hc.1.1.1.1.1, hF.close _ hc.1.1.1.1.2⟩

/-! ## Other processes -/

variable (K F) in
/-- The other processes keep off the location and the locality files: they change
other fields of the policy, the locks and the system. -/
structure World.SparesLocality (w w' : World (FileState P) B) : Prop where
  /-- the location of the policy -/
  location : policyLocation K F w'.document = policyLocation K F w.document
  /-- `location.ini` -/
  ini : w'.locationIni = w.locationIni
  /-- the journal -/
  pending : w'.locationPending = w.locationPending

theorem World.SparesLocality.refl (w : World (FileState P) B) : w.SparesLocality K F w :=
  ⟨rfl, rfl, rfl⟩

theorem World.SparesLocality.trans {w₁ w₂ w₃ : World (FileState P) B}
    (h₁ : w₁.SparesLocality K F w₂) (h₂ : w₂.SparesLocality K F w₃) : w₁.SparesLocality K F w₃ :=
  ⟨h₂.location.trans h₁.location, h₂.ini.trans h₁.ini, h₂.pending.trans h₁.pending⟩

/-- Process `p` among processes that spare the locality. -/
abbrev localityMachine (K : Common) (F : PolicyFormat P) (B : Type) (p : Pid) :
    Machine (Sys B) Memory (World (FileState P) B) :=
  World.machine (platformStorage K F) p (World.SparesLocality K F)

end SystemSettings

import Mathlib.Data.List.Induction
import SystemSettings.Cli

/-!
# The options of the command line

What the option loop of `time-settings-cli.c` is for: the arguments are read as a
list of options, and each option is one edit of the policy. The draft that the
loop leaves is the fold of these edits, and what it notes of the location is what
the last location option says.
-/

namespace SystemSettings

variable (K : Common)

/-- An option with its values. -/
inductive CliOption : Type where
  | clock (mode : String)
  | calendar (id : String)
  | seconds (showSeconds : Bool)
  | location (latitude longitude : Double)
  | clearLocation
  deriving DecidableEq

/-- The options that the arguments say. -/
def readOptions : List String → Option (List CliOption)
  | [] => some []
  | option :: rest =>
    match option, rest with
    | "--clock", mode :: rest => (readOptions rest).map (.clock mode :: ·)
    | "--calendar", id :: rest => (readOptions rest).map (.calendar id :: ·)
    | "--seconds", value :: rest => do
      let showSeconds ← cliSeconds value
      (readOptions rest).map (.seconds showSeconds :: ·)
    | "--location", latitudeText :: longitudeText :: rest => do
      let latitude ← K.parseDoubleRange latitudeText (-90) 90
      let longitude ← K.parseDoubleRange longitudeText (-180) 180
      (readOptions rest).map (.location latitude longitude :: ·)
    | "--clear-location", rest => (readOptions rest).map (.clearLocation :: ·)
    | _, _ => none

/-- The edit of an option; `none` where its value is refused. -/
def CliOption.edit (policy : TemporalPolicyV3) : CliOption → Option TemporalPolicyV3
  | clock mode => policyDraftSetClockMode K policy mode
  | calendar id => policyDraftSetCalendar K policy id
  | seconds showSeconds => policyDraftSetShowSeconds policy showSeconds
  | location latitude longitude => policyDraftSetLocation policy true latitude longitude
  | clearLocation => policyDraftSetLocation policy false policy.latitude policy.longitude

/-- An option about the location. -/
def CliOption.isLocation : CliOption → Bool
  | location _ _ | clearLocation => true
  | _ => false

/-- The last option about the location. -/
def lastLocation (options : List CliOption) : Option CliOption :=
  (options.filter CliOption.isLocation).getLast?

/-- What the loop notes of an option. -/
def CliDraft.note (draft : CliDraft) (policy : TemporalPolicyV3) : CliOption → CliDraft
  | .location latitude longitude =>
    ⟨policy, true, false, ⟨customCoordinates, [], [], latitude, longitude⟩⟩
  | .clearLocation =>
    { draft with
      policy := policy, locationChangeRequested := true, locationClearRequested := true }
  | _ => { draft with policy := policy }

/-- The draft after an option. -/
def CliDraft.apply (draft : CliDraft) (option : CliOption) : Option CliDraft :=
  (option.edit K draft.policy).map fun policy => draft.note policy option

/-! ## The loop is the fold -/

variable {K}

/-- These arguments, from this draft to that one. -/
def Folds (K : Common) (args : List String) (draft draft' : CliDraft) : Prop :=
  ∃ options, readOptions K args = some options ∧
    options.foldlM (CliDraft.apply K) draft = some draft'

theorem Folds.cons {args rest : List String} {draft draft₁ draft' : CliDraft} (option : CliOption)
    (hread : readOptions K args = (readOptions K rest).map (option :: ·))
    (happly : draft.apply K option = some draft₁) (h : Folds K rest draft₁ draft') :
    Folds K args draft draft' := by
  obtain ⟨options, hrest, hfold⟩ := h
  refine ⟨option :: options, by rw [hread, hrest]; rfl, ?_⟩
  rw [List.foldlM_cons, happly]
  exact hfold

/-- The option loop folds the options over the draft. -/
theorem cliOptions_folds {program : String} {args : List String} {draft draft' : CliDraft}
    (h : cliOptions K program args draft = .ok draft') : Folds K args draft draft' := by
  fun_induction cliOptions K program args draft with
  | case1 draft => exact ⟨[], rfl, by cases h; rfl⟩
  | case2 draft mode rest policy hedit ih =>
    exact .cons _ rfl (by simp [CliDraft.apply, CliOption.edit, CliDraft.note, hedit]) (ih h)
  | case4 draft id rest policy hedit ih =>
    exact .cons _ rfl (by simp [CliDraft.apply, CliOption.edit, CliDraft.note, hedit]) (ih h)
  | case7 draft value rest showSeconds hseconds policy hedit ih =>
    refine .cons (.seconds showSeconds) ?_ ?_ (ih h)
    · simp [readOptions, hseconds]
    · simp [CliDraft.apply, CliOption.edit, CliDraft.note, hedit]
  | case9 draft latitudeText longitudeText rest draft₁ hset ih =>
    simp only [cliSetLocation, Option.bind_eq_bind, Option.bind_eq_some_iff] at hset
    obtain ⟨latitude, hlatitude, longitude, hlongitude, policy, hedit, hdraft⟩ := hset
    cases hdraft
    refine .cons (.location latitude longitude) ?_ ?_ (ih h)
    · simp [readOptions, hlatitude, hlongitude]
    · simp [CliDraft.apply, CliOption.edit, CliDraft.note, hedit]
  | case11 draft rest draft₁ hclear ih =>
    simp only [cliClearLocation, Option.bind_eq_bind, Option.bind_eq_some_iff] at hclear
    obtain ⟨policy, hedit, hdraft⟩ := hclear
    cases hdraft
    exact .cons _ rfl (by simp [CliDraft.apply, CliOption.edit, CliDraft.note, hedit]) (ih h)
  | _ => cases h

/-- The policy of the draft is the fold of the edits. -/
theorem policy_of_fold {options : List CliOption} {draft draft' : CliDraft}
    (h : options.foldlM (CliDraft.apply K) draft = some draft') :
    options.foldlM (CliOption.edit K) draft.policy = some draft'.policy := by
  induction options generalizing draft with
  | nil => cases h; rfl
  | cons option options ih =>
    rw [List.foldlM_cons] at h ⊢
    obtain ⟨draft₁, happly, hrest⟩ := Option.bind_eq_some_iff.mp h
    obtain ⟨policy, hedit, rfl⟩ := Option.map_eq_some_iff.mp happly
    rw [hedit]
    have hpolicy : (draft.note policy option).policy = policy := by cases option <;> rfl
    exact hpolicy ▸ ih hrest

/-- What a draft has noted, after these options. -/
def CliDraft.Notes (draft : CliDraft) : Option CliOption → Prop
  | none => draft.locationChangeRequested = false
  | some (.location latitude longitude) =>
    draft.locationChangeRequested = true ∧ draft.locationClearRequested = false ∧
      draft.locationCandidate = ⟨customCoordinates, [], [], latitude, longitude⟩
  | some _ => draft.locationChangeRequested = true ∧ draft.locationClearRequested = true

theorem notes_of_fold {policy : TemporalPolicyV3} {options : List CliOption} {draft : CliDraft}
    (h : options.foldlM (CliDraft.apply K) (.start policy) = some draft) :
    draft.Notes (lastLocation options) := by
  induction options using List.reverseRecOn generalizing draft with
  | nil => cases h; rfl
  | append_singleton options option ih =>
    rw [List.foldlM_append] at h
    obtain ⟨draft₁, hfirst, hlast⟩ := Option.bind_eq_some_iff.mp h
    rw [List.foldlM_cons] at hlast
    obtain ⟨_, happly, hdone⟩ := Option.bind_eq_some_iff.mp hlast
    cases hdone
    obtain ⟨policy, hedit, rfl⟩ := Option.map_eq_some_iff.mp happly
    have hnotes := ih hfirst
    cases option with
    | location latitude longitude =>
      simp [lastLocation, CliOption.isLocation, CliDraft.Notes, CliDraft.note]
    | clearLocation => simp [lastLocation, CliOption.isLocation, CliDraft.Notes, CliDraft.note]
    | _ =>
      have hsame (other : CliOption) (hother : other.isLocation = false) :
          lastLocation (options ++ [other]) = lastLocation options := by
        simp [lastLocation, hother]
      rw [hsame _ rfl]
      revert hnotes
      cases lastLocation options with
      | none => exact id
      | some last => cases last <;> exact id

theorem readOptions_ne_nil {args : List String} {options : List CliOption}
    (h : readOptions K args = some options) (hargs : args ≠ []) : options ≠ [] := by
  rintro rfl
  fun_induction readOptions K args with
  | case1 => exact hargs rfl
  | case2 | case3 | case6 => simp at h
  | case4 | case5 => simp [Option.bind_eq_some_iff] at h
  | case7 => cases h

/-- A draft that changes the location has a location option. -/
theorem exists_location {policy : TemporalPolicyV3} {options : List CliOption} {draft : CliDraft}
    (h : options.foldlM (CliDraft.apply K) (.start policy) = some draft)
    (hchange : draft.locationChangeRequested = true) :
    ∃ last ∈ options, last.isLocation = true ∧ lastLocation options = some last := by
  have hnotes := notes_of_fold h
  cases hlast : lastLocation options with
  | none =>
    rw [hlast] at hnotes
    exact absurd (hnotes.symm.trans hchange) Bool.false_ne_true
  | some last =>
    have hmem := List.mem_filter.mp (List.mem_of_getLast? hlast)
    exact ⟨last, hmem.1, hmem.2, rfl⟩

theorem commandTouchesLocation_cons {args : List String} (option : String)
    (h : commandTouchesLocation args = true) : commandTouchesLocation (option :: args) = true := by
  rw [commandTouchesLocation, List.any_cons, Bool.or_eq_true]
  exact .inr h

/-- A location option is one of the arguments that the tool looks for before it locks. -/
theorem commandTouchesLocation_of_mem {args : List String} {options : List CliOption}
    {last : CliOption} (h : readOptions K args = some options) (hmem : last ∈ options)
    (hlocation : last.isLocation = true) : commandTouchesLocation args = true := by
  fun_induction readOptions K args generalizing options with
  | case1 =>
    cases h
    exact absurd hmem List.not_mem_nil
  | case2 mode rest ih | case3 id rest ih =>
    obtain ⟨options', hrest, rfl⟩ := Option.map_eq_some_iff.mp h
    rcases List.mem_cons.mp hmem with rfl | hmem
    · cases hlocation
    · exact commandTouchesLocation_cons _ (commandTouchesLocation_cons _ (ih hrest hmem))
  | case4 value rest ih =>
    obtain ⟨showSeconds, -, h⟩ := Option.bind_eq_some_iff.mp h
    obtain ⟨options', hrest, rfl⟩ := Option.map_eq_some_iff.mp h
    rcases List.mem_cons.mp hmem with rfl | hmem
    · cases hlocation
    · exact commandTouchesLocation_cons _ (commandTouchesLocation_cons _ (ih hrest hmem))
  | case5 | case6 => simp [commandTouchesLocation]
  | case7 => cases h

end SystemSettings

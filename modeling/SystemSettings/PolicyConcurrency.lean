import SystemSettings.CliOptions
import SystemSettings.CliSection

/-!
# No lost policy update

Any number of processes, each with its own model and whatever policy that model
happens to show, run setters, location updates and the command line over one
store. The document at the end is the one at the start with the tasks that
committed applied one after another, in the order in which they took the lock.
-/

namespace SystemSettings

open Relation

variable {B : Type} {fallback : Option Native → TemporalPolicyV3} {K : Common} {G : GLib B}
  {m : ModelId}

/-! ## Tasks -/

/-- What a process does with the policy. -/
inductive PolicyTask : Type where
  /-- `ss_date_time_model_reload` -/
  | reload
  /-- `ss_date_time_model_normalize_unpersisted_clock_mode` -/
  | normalize (clockMode : String)
  /-- `ss_date_time_model_set_clock_mode` -/
  | setClockMode (clockMode : String)
  /-- `ss_date_time_model_set_calendar` -/
  | setCalendar (calendarId : String)
  /-- `ss_date_time_model_set_show_seconds` -/
  | setShowSeconds (showSeconds : Bool)
  /-- `ss_date_time_model_set_location` -/
  | setLocation (configured : Bool) (latitude longitude : Double)
  /-- a location update that is finished, or rolled back -/
  | locationUpdate (configured : Bool) (latitude longitude : Double) (t : TokenId) (finish : Bool)
  /-- a run of the command line tool -/
  | commandLine (program : String) (args : List String)

/-- What a task returns. -/
inductive PolicyResult : Type where
  /-- the result of a call on the model -/
  | returned (ok : Bool)
  /-- whether a location update began, and whether its end was successful -/
  | updated (begun ended : Bool)
  /-- the result of a run of the command line tool -/
  | exited (result : CliResult)

/-- A location update from its begin to its end. -/
def locationUpdate (m : ModelId) (configured : Bool) (latitude longitude : Double) (t : TokenId)
    (finish : Bool) : SysM B PolicyResult := do
  if ← modelBeginLocationUpdate m configured latitude longitude t then
    let ended ← (
      if finish then modelFinishLocationUpdate m t else modelRollbackLocationUpdate m t)
    pure (.updated true ended)
  else pure (.updated false false)

namespace PolicyTask

variable (K G m) in
/-- Run a task. -/
def run : PolicyTask → SysM B PolicyResult
  | locationUpdate configured latitude longitude t finish =>
    SystemSettings.locationUpdate m configured latitude longitude t finish
  | commandLine program args => .exited <$> cliMain K G m program args
  | reload => .returned <$> ModelOp.reload.run K m
  | normalize clockMode => .returned <$> (ModelOp.normalize clockMode).run K m
  | setClockMode clockMode => .returned <$> (ModelOp.setClockMode clockMode).run K m
  | setCalendar calendarId => .returned <$> (ModelOp.setCalendar calendarId).run K m
  | setShowSeconds showSeconds => .returned <$> (ModelOp.setShowSeconds showSeconds).run K m
  | setLocation configured latitude longitude =>
    .returned <$> (ModelOp.setLocation configured latitude longitude).run K m

variable (K) in
/-- What a task that commits makes of a policy. -/
def change : PolicyTask → TemporalPolicyV3 → Option TemporalPolicyV3
  | reload, _ | normalize _, _ => none
  | setClockMode clockMode, policy =>
    (validClockMode K clockMode).map fun info => assignClockMode K info policy
  | setCalendar calendarId, policy =>
    if validCalendar K calendarId then some (assignCalendar K calendarId policy) else none
  | setShowSeconds showSeconds, policy => some (assignShowSeconds showSeconds policy)
  | setLocation configured latitude longitude, policy
  | locationUpdate configured latitude longitude _ _, policy =>
    if validLocation latitude longitude then
      some (assignLocation configured latitude longitude policy)
    else none
  | commandLine program args, policy => cliChange K program args policy

/-- Whether a task committed. A location update did when it was finished, or
when its rollback failed. -/
def committed : PolicyTask → PolicyResult → Bool
  | reload, _ | normalize _, _ => false
  | locationUpdate _ _ _ _ finish, .updated begun ended => begun && (finish || !ended)
  | commandLine _ args, .exited result => cliCommitted args result
  | _, .returned ok => ok
  | _, _ => false

end PolicyTask

/-! ## The contract -/

/-- What a section of a task does to the document. -/
def PolicyEffect (fallback : Option Native → TemporalPolicyV3) (K : Common) (task : PolicyTask)
    (result : PolicyResult) (before after : Option TemporalPolicyV3) : Prop :=
  if task.committed result then
    ∃ x y, Shows fallback before x ∧ task.change K x.1 = some y ∧ after = some y
  else after = before

/-- Every task is one section that commits or does nothing. -/
def policyContract (fallback : Option Native → TemporalPolicyV3) (K : Common) (m : ModelId) :
    Contract PolicyTask Memory PolicyResult (Option TemporalPolicyV3) where
  guard _ _ _ := True
  changes _ _ _ := True
  effect := PolicyEffect fallback K
  untouched task result := task.committed result = false
  ready := Resting m

section Keeps

variable {p : Pid} {s : Memory} {task : PolicyTask}
  {guard : Memory → Option TemporalPolicyV3 → Prop}
  {changes : Option TemporalPolicyV3 → Option TemporalPolicyV3 → Prop}

/-- What `Holds` has to show at the end of a task. -/
abbrev PolicyEnds (fallback : Option Native → TemporalPolicyV3) (K : Common) (m : ModelId)
    (task : PolicyTask) (result : PolicyResult) (s : Memory) (st : LockState) : Prop :=
  (policyContract fallback K m).Ends task result s st.phase

/-- A task that left the document as it found it, without having committed. -/
theorem PolicyEnds.unchanged {result : PolicyResult} {st : LockState} (hr : Resting m s)
    (hst : st.Unchanged) (hc : task.committed result = false) :
    PolicyEnds fallback K m task result s st := by
  cases st with
  | free => exact ⟨hr, hc⟩
  | held => exact hst.elim
  | released before after =>
    refine ⟨hr, ?_⟩
    simp only [policyContract, PolicyEffect, hc]
    exact hst

/-- A task that committed. -/
theorem PolicyEnds.committed {result : PolicyResult} {d : Option TemporalPolicyV3}
    {x : TemporalPolicyV3 × Bool} {y : TemporalPolicyV3} (hr : Resting m s)
    (hx : Shows fallback d x) (hy : task.change K x.1 = some y)
    (hc : task.committed result = true) :
    PolicyEnds fallback K m task result s (.released d (some y)) := by
  refine ⟨hr, ?_⟩
  simp only [policyContract, PolicyEffect, hc, if_true]
  exact ⟨x, y, hx, hy, rfl⟩

/-- The changes of a task, and their undoing, are allowed. -/
def PolicyTask.Allowed (fallback : Option Native → TemporalPolicyV3) (K : Common)
    (changes : Option TemporalPolicyV3 → Option TemporalPolicyV3 → Prop) (task : PolicyTask) :
    Prop :=
  ∀ d x y, Shows fallback d x → task.change K x.1 = some y →
    changes d (some y) ∧ changes (some y) d

/-- A call on the model. -/
theorem PolicyTask.returned_holds {prog : Prog (Sys B) Memory Bool}
    (h : Holds fallback p guard changes prog
      (fun ok s st => PolicyEnds fallback K m task (.returned ok) s st) .free) :
    Holds fallback p guard changes
      (prog.bind fun ok s => .ret (.returned ok) s) (PolicyEnds fallback K m task) .free :=
  h.bind fun _ _ _ hends => .ret hends

/-- A setter with a valid argument. -/
theorem PolicyTask.setField_holds {edit : TemporalPolicyV3 → TemporalPolicyV3}
    (hr : Resting m s) (hedit : ∀ policy, task.change K policy = some (edit policy))
    (hchanges : task.Allowed fallback K changes)
    (hc : ∀ ok, task.committed (.returned ok) = ok) :
    Holds (B := B) fallback p guard changes (setField m edit s)
      (fun ok s st => PolicyEnds fallback K m task (.returned ok) s st) .free := by
  refine (SystemSettings.setField_holds hr fun _ d x _ _ hx =>
    (hchanges d x _ hx (hedit x.1)).1).mono ?_
  rintro ok s' st ⟨hr', ⟨rfl, hst⟩ | ⟨rfl, d, x, hx, rfl⟩⟩
  · exact .unchanged hr' hst (hc false)
  · exact .committed hr' hx (hedit x.1) (hc true)

theorem locationUpdate_holds {configured finish : Bool} {latitude longitude : Double}
    {t : TokenId} (hr : Resting m s)
    (hchanges : (PolicyTask.locationUpdate configured latitude longitude t finish).Allowed
      fallback K changes) :
    Holds (B := B) fallback p guard changes
      (locationUpdate m configured latitude longitude t finish s)
      (PolicyEnds fallback K m (.locationUpdate configured latitude longitude t finish))
      .free := by
  have change : validLocation latitude longitude = true → ∀ policy,
      (PolicyTask.locationUpdate configured latitude longitude t finish).change K policy =
        some (assignLocation configured latitude longitude policy) := by
    intro hv policy
    simp [PolicyTask.change, hv]
  simp only [locationUpdate, Action.bind_run]
  refine (modelBeginLocationUpdate_holds hr fun hv d x hx =>
    (hchanges d x _ hx (change hv x.1)).1).bind ?_
  rintro ok s' st (⟨rfl, hr', hst⟩ | ⟨rfl, hv, hu⟩)
  · exact .ret (.unchanged hr' hst rfl)
  simp only [if_true, Action.bind_run]
  cases finish with
  | true =>
    simp only [if_true]
    refine (modelFinishLocationUpdate_holds hu).bind ?_
    rintro ended s' st ⟨rfl, hr', d, x, hx, rfl⟩
    exact .ret (.committed hr' hx (change hv x.1) rfl)
  | false =>
    simp only [Bool.false_eq_true, if_false]
    refine (modelRollbackLocationUpdate_holds hu fun d x hx =>
      (hchanges d x _ hx (change hv x.1)).2).bind ?_
    rintro ended s' st ⟨hr', ⟨rfl, hst⟩ | ⟨rfl, d, x, hx, rfl⟩⟩
    · exact .ret (.unchanged hr' hst rfl)
    · exact .ret (.committed hr' hx (change hv x.1) rfl)

/-- A task, whatever is known when it takes the lock. -/
theorem PolicyTask.run_holds (hr : Resting m s) (hc : task.Allowed fallback K changes) :
    Holds (B := B) fallback p guard changes (task.run K G m s) (PolicyEnds fallback K m task)
      .free := by
  have refused : ∀ task : PolicyTask, task.committed (.returned false) = false := by
    intro task
    cases task <;> rfl
  cases task with
  | reload =>
    refine returned_holds ((modelReload_holds hr).mono ?_)
    rintro ok s' st ⟨hr', rfl⟩
    exact .unchanged hr' trivial rfl
  | normalize clockMode =>
    refine returned_holds ((modelNormalizeUnpersistedClockMode_holds hr).mono ?_)
    rintro ok s' st ⟨hr', rfl⟩
    exact .unchanged hr' trivial rfl
  | setClockMode clockMode =>
    refine returned_holds ?_
    simp only [ModelOp.run, modelSetClockMode]
    cases hv : validClockMode K clockMode with
    | none => exact .ret (.unchanged hr trivial (refused _))
    | some info => exact setField_holds hr (by simp [change, hv]) hc fun _ => rfl
  | setCalendar calendarId =>
    refine returned_holds ?_
    simp only [ModelOp.run, modelSetCalendar]
    split
    · next hv => exact setField_holds hr (by simp [change, hv]) hc fun _ => rfl
    · exact .ret (.unchanged hr trivial (refused _))
  | setShowSeconds showSeconds =>
    exact returned_holds (setField_holds hr (by simp [change]) hc fun _ => rfl)
  | setLocation configured latitude longitude =>
    refine returned_holds ?_
    simp only [ModelOp.run, modelSetLocation]
    split
    · next hv => exact setField_holds hr (by simp [change, hv]) hc fun _ => rfl
    · exact .ret (.unchanged hr trivial (refused _))
  | locationUpdate configured latitude longitude t finish => exact locationUpdate_holds hr hc
  | commandLine program args =>
    refine (cliMain_holds hr hc).bind ?_
    rintro r s' st ⟨hr', hst⟩
    cases st with
    | free => exact .ret ⟨hr', hst⟩
    | held => exact hst.elim
    | released before after => exact .ret ⟨hr', hst⟩

/-- Every task keeps to the contract. -/
theorem PolicyTask.run_keeps (hr : Resting m s) {w : World (Option TemporalPolicyV3) B}
    (hw : w.policyLock ≠ some p) : (task.run K G m s).Keeps (policyResource B fallback)
      (policyContract fallback K m) p task .outside w :=
  Holds.keeps (run_holds hr fun _ _ _ _ _ => ⟨trivial, trivial⟩) hw

end Keeps

/-! ## What a task may change -/

/-- The fields of a policy. The three of the location change together. -/
inductive PolicyField : Type where
  /-- `clock_mode` -/
  | clockMode
  /-- `calendar` -/
  | calendar
  /-- `show_seconds` -/
  | showSeconds
  /-- `location_configured`, `latitude` and `longitude` -/
  | location
  deriving DecidableEq

/-- A field has the same value in both policies. -/
def PolicyField.Same (x y : TemporalPolicyV3) : PolicyField → Prop
  | clockMode => y.clockMode = x.clockMode
  | calendar => y.calendar = x.calendar
  | showSeconds => y.showSeconds = x.showSeconds
  | location => y.locationConfigured = x.locationConfigured ∧ y.latitude = x.latitude ∧
      y.longitude = x.longitude

theorem PolicyField.Same.trans {x y z : TemporalPolicyV3} {f : PolicyField} (h : f.Same x y)
    (h' : f.Same y z) : f.Same x z := by
  cases f with
  | location => exact ⟨h'.1.trans h.1, h'.2.1.trans h.2.1, h'.2.2.trans h.2.2⟩
  | _ => exact Eq.trans h' h

/-- The fields the options of a command line name. -/
def cliFields : List String → List PolicyField
  | [] => []
  | option :: rest =>
    match option, rest with
    | "--clock", _ :: rest => .clockMode :: cliFields rest
    | "--calendar", _ :: rest => .calendar :: cliFields rest
    | "--seconds", _ :: rest => .showSeconds :: cliFields rest
    | "--location", _ :: _ :: rest => .location :: cliFields rest
    | "--clear-location", rest => .location :: cliFields rest
    | _, _ => []

/-- The fields a task was asked to change. -/
def PolicyTask.fields : PolicyTask → List PolicyField
  | reload | normalize _ => []
  | setClockMode _ => [.clockMode]
  | setCalendar _ => [.calendar]
  | setShowSeconds _ => [.showSeconds]
  | setLocation .. | locationUpdate .. => [.location]
  | commandLine _ args => cliFields args

section Fields

variable {f : PolicyField} {x y : TemporalPolicyV3}

theorem assignClockMode_same {info : ClockModeInfo} (h : f ≠ .clockMode) :
    f.Same x (assignClockMode K info x) := by
  cases f with
  | clockMode => exact absurd rfl h
  | location => exact ⟨rfl, rfl, rfl⟩
  | _ => rfl

theorem assignCalendar_same {calendarId : String} (h : f ≠ .calendar) :
    f.Same x (assignCalendar K calendarId x) := by
  cases f with
  | calendar => exact absurd rfl h
  | location => exact ⟨rfl, rfl, rfl⟩
  | _ => rfl

theorem assignShowSeconds_same {showSeconds : Bool} (h : f ≠ .showSeconds) :
    f.Same x (assignShowSeconds showSeconds x) := by
  cases f with
  | showSeconds => exact absurd rfl h
  | location => exact ⟨rfl, rfl, rfl⟩
  | _ => rfl

theorem assignLocation_same {configured : Bool} {latitude longitude : Double}
    (h : f ≠ .location) : f.Same x (assignLocation configured latitude longitude x) := by
  cases f with
  | location => exact absurd rfl h
  | _ => rfl

theorem policyDraftSetClockMode_same {clockMode : String}
    (hy : policyDraftSetClockMode K x clockMode = some y) (h : f ≠ .clockMode) : f.Same x y := by
  obtain ⟨info, -, rfl⟩ := Option.map_eq_some_iff.mp hy
  exact assignClockMode_same h

theorem policyDraftSetCalendar_same {calendarId : String}
    (hy : policyDraftSetCalendar K x calendarId = some y) (h : f ≠ .calendar) : f.Same x y := by
  obtain ⟨-, rfl⟩ := (policyDraftSetCalendar_eq_some K).mp hy
  exact assignCalendar_same h

theorem policyDraftSetShowSeconds_same {showSeconds : Bool}
    (hy : policyDraftSetShowSeconds x showSeconds = some y) (h : f ≠ .showSeconds) :
    f.Same x y := by
  obtain rfl := Option.some.inj hy
  exact assignShowSeconds_same h

theorem policyDraftSetLocation_same {configured : Bool} {latitude longitude : Double}
    (hy : policyDraftSetLocation x configured latitude longitude = some y)
    (h : f ≠ .location) : f.Same x y := by
  obtain ⟨-, rfl⟩ := policyDraftSetLocation_eq_some.mp hy
  exact assignLocation_same h

theorem cliSetLocation_same {latitudeText longitudeText : String} {draft draft' : CliDraft}
    (hd : cliSetLocation K latitudeText longitudeText draft = some draft')
    (h : f ≠ .location) : f.Same draft.policy draft'.policy := by
  simp only [cliSetLocation, Option.bind_eq_bind, Option.bind_eq_some_iff, Option.pure_def,
    Option.some.injEq] at hd
  obtain ⟨latitude, -, longitude, -, policy, hp, rfl⟩ := hd
  exact policyDraftSetLocation_same hp h

theorem cliClearLocation_same {draft draft' : CliDraft}
    (hd : cliClearLocation draft = some draft') (h : f ≠ .location) :
    f.Same draft.policy draft'.policy := by
  simp only [cliClearLocation, Option.bind_eq_bind, Option.bind_eq_some_iff, Option.pure_def,
    Option.some.injEq] at hd
  obtain ⟨policy, hp, rfl⟩ := hd
  exact policyDraftSetLocation_same hp h

/-- The loop over the options changes only the fields they name. -/
theorem cliOptions_same {program : String} {args : List String} {draft draft' : CliDraft}
    (h : cliOptions K program args draft = .ok draft') (hf : f ∉ cliFields args) :
    f.Same draft.policy draft'.policy := by
  fun_induction cliOptions K program args draft with
  | case1 draft =>
    cases h
    cases f with
    | location => exact ⟨rfl, rfl, rfl⟩
    | _ => rfl
  | case2 draft mode rest policy hp ih =>
    rw [cliFields, List.mem_cons, not_or] at hf
    exact (policyDraftSetClockMode_same hp hf.1).trans (ih h hf.2)
  | case4 draft id rest policy hp ih =>
    rw [cliFields, List.mem_cons, not_or] at hf
    exact (policyDraftSetCalendar_same hp hf.1).trans (ih h hf.2)
  | case7 draft value rest showSeconds hs policy hp ih =>
    rw [cliFields, List.mem_cons, not_or] at hf
    exact (policyDraftSetShowSeconds_same hp hf.1).trans (ih h hf.2)
  | case9 draft latitudeText longitudeText rest draft₁ hd ih =>
    rw [cliFields, List.mem_cons, not_or] at hf
    exact (cliSetLocation_same hd hf.1).trans (ih h hf.2)
  | case11 draft rest draft₁ hd ih =>
    rw [cliFields, List.mem_cons, not_or] at hf
    exact (cliClearLocation_same hd hf.1).trans (ih h hf.2)
  | _ => cases h

/-- A task changes only the fields it was asked to change. -/
theorem PolicyTask.change_same {task : PolicyTask} (h : task.change K x = some y)
    (hf : f ∉ task.fields) : f.Same x y := by
  cases task with
  | reload | normalize => cases h
  | setClockMode => exact policyDraftSetClockMode_same h (by simpa [fields] using hf)
  | setCalendar => exact policyDraftSetCalendar_same h (by simpa [fields] using hf)
  | setShowSeconds => exact policyDraftSetShowSeconds_same h (by simpa [fields] using hf)
  | setLocation | locationUpdate =>
    exact policyDraftSetLocation_same h (by simpa [fields] using hf)
  | commandLine program args =>
    simp only [change, cliChange] at h
    split at h
    · next draft hd =>
      cases h
      exact cliOptions_same hd hf
    · cases h

end Fields

/-! ## The run -/

/-- Tasks applied one after another, each to what the store shows of the document
the one before it left. -/
def Replay (fallback : Option Native → TemporalPolicyV3) (K : Common) :
    Option TemporalPolicyV3 → List PolicyTask → Option TemporalPolicyV3 → Prop
  | d, [], d' => d' = d
  | d, task :: tasks, d' => ∃ x y, Shows fallback d x ∧ task.change K x.1 = some y ∧
      Replay fallback K (some y) tasks d'

variable (B) in
/-- The processes and their world. -/
abbrev PolicyConfig : Type :=
  Config (Sys B) Memory PolicyTask PolicyResult (World (Option TemporalPolicyV3) B)

/-- The task of a run that committed. -/
def commit (results : ℕ → Option (PolicyTask × PolicyResult)) (id : ℕ) : Option PolicyTask :=
  match results id with
  | some (task, result) => if task.committed result then some task else none
  | none => none

/-- The tasks that committed, in the order in which they took the lock. -/
def committedTasks (c : PolicyConfig B) : List PolicyTask :=
  c.order.filterMap (commit c.results)

/-- A chain of sections is a replay of those that committed. -/
theorem replay_of_chain {results : ℕ → Option (PolicyTask × PolicyResult)}
    {xs : List (Section (Option TemporalPolicyV3))} {d d' : Option TemporalPolicyV3}
    (hchain : Chain d xs d') (heffect : ∀ x ∈ xs, ∃ task result,
      results x.id = some (task, result) ∧ PolicyEffect fallback K task result x.before x.after) :
    Replay fallback K d ((xs.map Section.id).filterMap (commit results)) d' := by
  induction xs generalizing d with
  | nil => exact Eq.symm hchain
  | cons x xs ih =>
    obtain ⟨rfl, hchain⟩ := hchain
    obtain ⟨task, result, hr, he⟩ := heffect x List.mem_cons_self
    have hrest := ih hchain fun x hx => heffect x (List.mem_cons_of_mem _ hx)
    unfold PolicyEffect at he
    by_cases hc : task.committed result = true
    · rw [if_pos hc] at he
      obtain ⟨shown, y, hx, hy, ha⟩ := he
      have hcommit : commit results x.id = some task := by simp [commit, hr, hc]
      rw [List.map_cons, List.filterMap_cons_some hcommit]
      exact ⟨shown, y, hx, hy, ha ▸ hrest⟩
    · rw [if_neg hc] at he
      have hcommit : commit results x.id = none := by simp [commit, hr, hc]
      rw [List.map_cons, List.filterMap_cons_none hcommit]
      exact he ▸ hrest

/-- No lost policy update. Whatever the processes do and however their steps
interleave, the last document is the first one with the tasks that committed
applied in the order in which they took the lock. Every task that committed took
it, none of them twice, and each changes only what it was asked to change. -/
theorem no_lost_policy_update {c₀ c : PolicyConfig B}
    (h₀ : c₀.Initial (policyResource B fallback) (policyContract fallback K m))
    (h : ReflTransGen (Step (policyResource B fallback) (policyContract fallback K m)
      (PolicyTask.run K G m)) c₀ c) (hq : c.Quiescent) :
    Replay fallback K c₀.world.document (committedTasks c) c.world.document ∧
      c.order.Nodup ∧
      (∀ id task result, c.results id = some (task, result) → task.committed result = true →
        id ∈ c.order) ∧
      ∀ (task : PolicyTask) (x y : TemporalPolicyV3) (f : PolicyField),
        task.change K x = some y → f ∉ task.fields → f.Same x y := by
  obtain ⟨hnodup, xs, hxs, hchain, heffect, huntouched⟩ :=
    serializable (fun task s p w hr hw => PolicyTask.run_keeps hr hw) h₀ h hq
  refine ⟨?_, hnodup, ?_, fun _ _ _ _ h hf => PolicyTask.change_same h hf⟩
  · rw [committedTasks, ← hxs]
    exact replay_of_chain hchain heffect
  · intro id task result hr hc
    by_contra hid
    exact Bool.false_ne_true ((huntouched id task result hr hid).symm.trans hc)

/-- Two processes before they start: one with a model of an old policy, one
without. -/
def twoProcesses : PolicyConfig (Option LocationMetadata) where
  world := World.fresh (some ⟨"standard-24", "hebrew", false, false, .finite 0, .finite 0⟩)
  procs p := .idle (if p = 1 then Memory.empty.setModel 0 (some
    ⟨⟨"standard-12", "gregorian", false, false, .finite 0, .finite 0⟩,
      platformTemporalPolicyStore, false, false⟩) else Memory.empty)
  order := []
  results _ := none
  next := 0

/-- A setter of the first. The command line of the second finds the lock taken,
and tries again. -/
def twoSchedule : List (Move PolicyTask) :=
  [.start 1 (.setShowSeconds true), .start 2 (.commandLine "" ["--clock", "decimal"]),
    .go 1 true, .go 2 true, .go 1 true, .go 2 true, .go 1 true, .go 1 true, .go 1 true,
    .start 2 (.commandLine "" ["--clock", "decimal"])] ++ List.replicate 8 (.go 2 true)

/-- The configuration after that. -/
def twoRun : Option (PolicyConfig (Option LocationMetadata)) :=
  twoProcesses.play (policyResource _ fun _ => default) (PolicyTask.run Common.small GLib.small 0)
    (fun p ok w c => World.respond (.exact fun _ => default) p ok w c) (fun _ _ _ => true)
    twoSchedule

/-- Both changes are in the document. -/
theorem no_lost_policy_update_two :
    ∃ c, twoRun = some c ∧
      c.world.document = some ⟨"decimal", "hebrew", true, false, .finite 0, .finite 0⟩ ∧
      Replay (fun _ => default) Common.small twoProcesses.world.document (committedTasks c)
        c.world.document := by
  have initial : twoProcesses.Initial (policyResource _ fun _ => default)
      (policyContract (fun _ => default) Common.small 0) := by
    refine ⟨fun p => ⟨_, rfl, fun priv hm => ?_⟩, rfl, rfl, fun _ => rfl⟩
    split at hm
    · simp only [Memory.setModel_self, Option.some.injEq] at hm
      subst hm
      exact ⟨platformTemporalPolicyStore_locking, rfl⟩
    · cases hm
  have hdoc : twoRun.map (fun c => c.world.document) =
      some (some ⟨"decimal", "hebrew", true, false, .finite 0, .finite 0⟩) := by decide +kernel
  obtain ⟨c, hc, hdoc⟩ := Option.map_eq_some_iff.mp hdoc
  have hidle : ∀ p, p = 1 ∨ p = 2 →
      twoRun.any (fun c => match c.procs p with | .idle _ => true | .running .. => false) =
        true := by
    rintro p (rfl | rfl) <;> decide +kernel
  have quiescent : c.Quiescent := by
    intro p
    by_cases hp : p = 1 ∨ p = 2
    · have hidle := hidle p hp
      rw [hc, Option.any_some] at hidle
      split at hidle
      · next s hs => exact ⟨s, hs⟩
      · cases hidle
    · refine ⟨_, Config.play_procs (fun mv hmv hmp => hp ?_) hc⟩
      have : ∀ mv ∈ twoSchedule, mv.process = 1 ∨ mv.process = 2 := by decide
      exact hmp ▸ this mv hmv
  have steps : ReflTransGen (Step (policyResource _ fun _ => default)
      (policyContract (fun _ => default) Common.small 0)
      (PolicyTask.run Common.small GLib.small 0)) twoProcesses c := by
    refine Config.play_steps ?_ (fun _ _ _ _ => trivial) hc
    exact fun p ok w cmd => ⟨ok, rfl, rfl⟩
  exact ⟨c, hc, hdoc, (no_lost_policy_update initial steps quiescent).1⟩

end SystemSettings

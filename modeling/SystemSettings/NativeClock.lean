import SystemSettings.Panel
import SystemSettings.PolicyConcurrency

/-!
# The native clock and the extended ones

Panels react to the desktop's 12/24-hour setting and migrate the legacy default
when they start. Both decide from the policy in memory, and the setter reads the
document again under the lock. An extended clock in the document survives exactly
as long as the two agree.
-/

namespace SystemSettings

open Relation

variable {B : Type} {fallback : Option Native → TemporalPolicyV3} {K : Common} {G : GLib B}
  {m : ModelId}

/-! ## Clients -/

/-- What a client of the policy store does. The panel a callback runs on is an
argument, and may be any panel. -/
inductive ClientTask : Type where
  /-- an operation of the user, or a run of the command line -/
  | policy (task : PolicyTask)
  /-- a panel starts -/
  | panelNew
  /-- a panel ends -/
  | panelFree
  /-- the desktop's setting `key` changed -/
  | interfaceChanged (updatingControls : Bool) (key : String)
  /-- the policy file changed -/
  | policyFileChanged (panel : Panel)
  /-- `location.ini` changed -/
  | metadataFileChanged (panel : Panel)
  /-- the recovery of the locality files is tried again -/
  | retryRecovery (panel : Panel)
  /-- the system time changed -/
  | systemTimeChanged (systemState : SystemTimeState) (panel : Panel)

/-- Run a task of a client. -/
def ClientTask.run (K : Common) (G : GLib B) (m : ModelId) : ClientTask → SysM B Unit
  | policy task => do
    let _ ← task.run K G m
  | panelNew => do
    let _ ← SystemSettings.panelNew K G m
  | panelFree => modelClear m
  | interfaceChanged updatingControls key => onCinnamonInterfaceChanged K m updatingControls key
  | policyFileChanged panel => do
    let _ ← SystemSettings.policyFileChanged K G m panel
  | metadataFileChanged panel => do
    let _ ← locationMetadataFileChanged G m panel
  | retryRecovery panel => do
    let _ ← retryLocalityRecovery G m panel
  | systemTimeChanged systemState panel => do
    let _ ← reconcileSystemTimeChange K G m systemState panel

/-- An explicit choice of a clock mode: the setter, or a command line with
`--clock`. -/
def ClientTask.Explicit : ClientTask → Prop
  | policy task => .clockMode ∈ task.fields
  | _ => False

/-! ## Extended clocks -/

/-- An extended clock mode stays what it is. -/
def KeepsExtended (d d' : Option TemporalPolicyV3) : Prop :=
  ∀ policy, d = some policy → nativeClockModeTracksDesktop policy.clockMode = false →
    ∃ policy', d' = some policy' ∧ policy'.clockMode = policy.clockMode

/-- Without a policy there is no extended clock. -/
def Conventional (fallback : Option Native → TemporalPolicyV3) : Prop :=
  ∀ native, nativeClockModeTracksDesktop (fallback native).clockMode = true

theorem keepsExtended_of_eq {d d' : Option TemporalPolicyV3} (h : d' = d) : KeepsExtended d d' :=
  fun policy hd _ => ⟨policy, h.trans hd, rfl⟩

theorem keepsExtended_save {d : Option TemporalPolicyV3} {x : TemporalPolicyV3 × Bool}
    {y : TemporalPolicyV3} (hx : Shows fallback d x) (hy : y.clockMode = x.1.clockMode) :
    KeepsExtended d (some y) := by
  rintro policy rfl -
  obtain rfl := hx
  exact ⟨y, rfl, hy⟩

/-- Undoing a change that left the clock alone leaves the clock alone. -/
theorem keepsExtended_undo (hf : Conventional fallback) {d : Option TemporalPolicyV3}
    {x : TemporalPolicyV3 × Bool} {y : TemporalPolicyV3} (hx : Shows fallback d x)
    (hy : y.clockMode = x.1.clockMode) : KeepsExtended (some y) d := by
  intro policy hp hextended
  obtain rfl := Option.some.inj hp
  cases d with
  | some policy =>
    obtain rfl := hx
    exact ⟨policy, rfl, hy.symm⟩
  | none =>
    obtain ⟨native, rfl⟩ := hx
    rw [hy, hf native] at hextended
    cases hextended

/-- What a panel decided from its memory is still right for the document: if its
policy follows the desktop's setting then so does the document's. -/
def StillFollows (m : ModelId) (s : Memory) (d : Option TemporalPolicyV3) : Prop :=
  ∀ priv policy, s.models m = some priv → d = some policy →
    nativeClockModeTracksDesktop priv.policy.clockMode = true →
    nativeClockModeTracksDesktop policy.clockMode = true

instance (m : ModelId) (s : Memory) (d : Option TemporalPolicyV3) :
    Decidable (StillFollows m s d) :=
  decidable_of_iff (∀ priv ∈ s.models m, ∀ policy ∈ d,
      nativeClockModeTracksDesktop priv.policy.clockMode = true →
      nativeClockModeTracksDesktop policy.clockMode = true)
    ⟨fun h priv policy hm hd => h priv hm policy hd, fun h priv hm policy hd => h priv policy hm hd⟩

/-! ## The contract -/

/-- The contract of the clients. `guard` is what is known when a panel that
reacts or starts takes the lock. -/
def clientContract (m : ModelId) (guard : Memory → Option TemporalPolicyV3 → Prop) :
    Contract ClientTask Memory Unit (Option TemporalPolicyV3) where
  guard
    | .interfaceChanged _ key => fun s d => key = "clock-use-24h" → guard s d
    | .panelNew => guard
    | _ => fun _ _ => True
  changes task d d' := task.Explicit ∨ KeepsExtended d d'
  effect _ _ _ _ := True
  untouched _ _ := True
  ready := Resting m

instance {guard : Memory → Option TemporalPolicyV3 → Prop} [∀ s d, Decidable (guard s d)]
    (s : Memory) (d : Option TemporalPolicyV3) :
    (task : ClientTask) → Decidable ((clientContract m guard).guard task s d)
  | .interfaceChanged _ key => inferInstanceAs (Decidable (key = "clock-use-24h" → guard s d))
  | .panelNew => inferInstanceAs (Decidable (guard s d))
  | .policy _ | .panelFree | .policyFileChanged _ | .metadataFileChanged _ | .retryRecovery _
  | .systemTimeChanged _ _ => inferInstanceAs (Decidable True)

section Keeps

variable {p : Pid} {s : Memory} {guard : Memory → Option TemporalPolicyV3 → Prop}
  {changes : Option TemporalPolicyV3 → Option TemporalPolicyV3 → Prop} {st : LockState}

/-- At rest, the lock not held. -/
def AtRest (m : ModelId) (s : Memory) : LockState → Prop
  | .held _ _ => False
  | _ => Resting m s

theorem AtRest.of_unchanged (hr : Resting m s) (h : st.Unchanged) : AtRest m s st := by
  cases st with
  | held => exact h.elim
  | free | released => exact hr

/-- A program that does something with the policy. -/
theorem Holds.discard {α : Type} {prog : Prog (Sys B) Memory α}
    (h : Holds fallback p guard changes prog (fun _ s st => AtRest m s st) .free) :
    Holds fallback p guard changes (prog.bind fun _ s => .ret () s) (fun _ s st => AtRest m s st)
      .free :=
  h.bind fun _ _ _ hrest => .ret hrest

theorem setField_atRest {edit : TemporalPolicyV3 → TemporalPolicyV3} (hr : Resting m s)
    (hc : ∀ priv d x, s.models m = some priv →
      guard (s.setModel m (some { priv with saving := true })) d → Shows fallback d x →
      changes d (some (edit x.1))) :
    Holds (B := B) fallback p guard changes (setField m edit s) (fun _ s st => AtRest m s st)
      .free := by
  refine (setField_holds hr hc).mono ?_
  rintro ok s' st ⟨hr', ⟨-, hst⟩ | ⟨-, d, x, -, rfl⟩⟩
  · exact .of_unchanged hr' hst
  · exact hr'

/-- The native setting, written over a clock that follows it. -/
theorem nativeClock_atRest {clockMode : String} {priv : ModelPrivate} (hr : Resting m s)
    (hm : s.models m = some priv)
    (hfollows : nativeClockModeTracksDesktop priv.policy.clockMode = true)
    (hguard : ∀ s d, guard s d → StillFollows m s d)
    (hchanges : ∀ d d', KeepsExtended d d' → changes d d') :
    Holds (B := B) fallback p guard changes (modelSetClockMode K m clockMode s)
      (fun _ s st => AtRest m s st) .free := by
  unfold modelSetClockMode
  cases validClockMode K clockMode with
  | none => exact .ret hr
  | some info =>
    refine setField_atRest hr fun priv' d x hm' hg _ => hchanges _ _ ?_
    obtain rfl := Option.some.inj (hm.symm.trans hm')
    intro policy hd hextended
    have := hguard _ _ hg _ policy (Memory.setModel_self ..) hd hfollows
    rw [hextended] at this
    cases this

/-! ## The locality files do not matter -/

theorem locationMetadataLoadStatus_aside : Aside s (locationMetadataLoadStatus G s) :=
  ⟨trivial, rfl, fun _ => rfl⟩

theorem locationMetadataClear_aside : Aside s ((locationMetadataClear : SysM B Bool) s) :=
  unlinkFile_aside

/-- The last step of most branches of a recovery. -/
theorem clearUnconfigured_aside (configured : Bool) : Aside s
    ((if configured then pure true else locationMetadataClear : SysM B Bool) s) := by
  split
  · rfl
  · exact locationMetadataClear_aside

theorem locationMetadataRecoverLocked_aside : Aside s (locationMetadataRecoverLocked G s) := by
  refine ⟨trivial, rfl, fun r => ?_⟩
  cases r with
  | none => rfl
  | some x =>
    refine ⟨trivial, rfl, fun file => ?_⟩
    have discarded : Aside s ((do
        if ← locationMetadataDiscardStaged then
          if x.1.locationConfigured then pure true else locationMetadataClear
        else pure false : SysM B Bool) s) := by
      refine ⟨trivial, rfl, fun ok => ?_⟩
      cases ok with
      | true => exact clearUnconfigured_aside _
      | false => rfl
    simp only [Prog.ret_bind, Action.pure_run]
    rcases metadataLoad G file with ⟨status, staged⟩
    cases status with
    | missing => exact clearUnconfigured_aside _
    | ioError => rfl
    | invalid => exact discarded
    | ok =>
      dsimp only
      split
      · exact locationMetadataFinishStaged_aside
      · exact discarded

theorem locationMetadataRecover_aside : Aside s (locationMetadataRecover G s) := by
  refine ⟨trivial, rfl, fun ok => ?_⟩
  cases ok with
  | false => rfl
  | true =>
    exact locationMetadataRecoverLocked_aside.bind fun _ => ⟨trivial, rfl, fun _ => rfl⟩

theorem locationMetadataFileChanged_aside {panel : Panel} :
    Aside s (locationMetadataFileChanged G m panel s) :=
  locationMetadataLoadStatus_aside.bind fun _ => rfl

theorem retryLocalityRecovery_aside {panel : Panel} :
    Aside s (retryLocalityRecovery G m panel s) := by
  refine locationMetadataRecover_aside.bind fun ok => ?_
  cases ok with
  | true => exact locationMetadataFileChanged_aside
  | false => rfl

theorem reconcileMetadata_aside {policy : Option TemporalPolicyV3}
    {locked : Option SystemTimeState} {panel : Panel} :
    Aside s (reconcileMetadata G policy locked panel s) := by
  cases locked with
  | none => rfl
  | some locked =>
    simp only [reconcileMetadata]
    split
    · refine metadataSavePath_aside.bind fun saved => ?_
      cases saved <;> rfl
    · rfl

/-! ## The functions of the panel -/

theorem onCinnamonInterfaceChanged_atRest {updatingControls : Bool} {key : String}
    (hr : Resting m s) (hfollows : key = "clock-use-24h" → ∀ s d, guard s d → StillFollows m s d)
    (hkeeps : ∀ d d', KeepsExtended d d' → changes d d') :
    Holds (B := B) fallback p guard changes
      (onCinnamonInterfaceChanged K m updatingControls key s) (fun _ s st => AtRest m s st)
      .free := by
  cases hm : s.models m with
  | none =>
    cases updatingControls <;> simp [onCinnamonInterfaceChanged, hm] <;> exact .ret hr
  | some priv =>
  cases updatingControls with
  | true => exact .ret hr
  | false =>
    simp only [onCinnamonInterfaceChanged, modelIsSaving_run, modelPolicy_run, hm,
      (hr priv hm).2, Action.bind_run, Prog.ret_bind, Option.any_some, Option.map_some,
      Bool.false_eq_true, if_false]
    split
    · next hkey =>
      split
      · next htracks =>
        refine .neutral trivial fun nativeValue => ?_
        cases nativeValue with
        | none => exact .ret hr
        | some nativeValue =>
          simp only [Prog.ret_bind, Action.when_run]
          split
          · exact .discard (nativeClock_atRest hr hm htracks (hfollows hkey) hkeeps)
          · exact .ret hr
      · exact .ret hr
    · split
      · refine .neutral trivial fun nativeValue => ?_
        cases nativeValue with
        | none => exact .ret hr
        | some nativeValue =>
          simp only [Prog.ret_bind, Action.when_run]
          split
          · refine .discard (setField_atRest hr fun _ d x _ _ hx => ?_)
            exact hkeeps _ _ (keepsExtended_save hx rfl)
          · exact .ret hr
      · exact .ret hr

theorem migrateLegacyNativeClock_atRest (hr : Resting m s)
    (hfollows : ∀ s d, guard s d → StillFollows m s d)
    (hkeeps : ∀ d d', KeepsExtended d d' → changes d d') :
    Holds (B := B) fallback p guard changes (migrateLegacyNativeClock K m s)
      (fun _ s st => AtRest m s st) .free := by
  cases hm : s.models m with
  | none =>
    simp [migrateLegacyNativeClock, hm]
    exact .ret hr
  | some priv =>
    simp only [migrateLegacyNativeClock, modelPolicy_run, hm, Action.bind_run, Prog.ret_bind,
      Option.map_some]
    split
    · exact .ret hr
    · next hlegacy =>
      have htracks : nativeClockModeTracksDesktop priv.policy.clockMode = true := by
        simp only [Bool.not_eq_true, Bool.not_eq_false'] at hlegacy
        simp [nativeClockModeTracksDesktop, hlegacy]
      refine .neutral trivial fun nativeValue => ?_
      simp only [Prog.ret_bind, Action.pure_run, Action.bind_run, modelHasPersistedPolicy_run, hm,
        Option.any_some]
      split
      · refine (modelNormalizeUnpersistedClockMode_holds hr).mono ?_
        rintro ok s' st ⟨hr', rfl⟩
        exact hr'
      · exact nativeClock_atRest hr hm htracks hfollows hkeeps

theorem panelFree_atRest (hr : Resting m s) :
    Holds (B := B) fallback p guard changes (modelClear m s) (fun _ s st => AtRest m s st)
      .free := by
  cases hm : s.models m with
  | none =>
    simp [modelClear, releaseUpdateLock, hm]
    exact .ret hr
  | some priv =>
    refine (modelClear_holds hm (hr priv hm).2).mono ?_
    rintro _ s' st ⟨rfl, rfl⟩
    simp [AtRest, Resting]

theorem panelNew_atRest (hr : Resting m s)
    (hfollows : ∀ s d, guard s d → StillFollows m s d)
    (hkeeps : ∀ d d', KeepsExtended d d' → changes d d') :
    Holds (B := B) fallback p guard changes (panelNew K G m s) (fun _ s st => AtRest m s st)
      .free := by
  have init : Holds (B := B) fallback p guard changes
      (modelInit K m platformTemporalPolicyStore s)
      (fun _ s' st => st = .free ∧ Resting m s') .free := by
    refine modelInit_holds platformTemporalPolicyStore_locking ⟨rfl, hr⟩ fun x _ => ⟨rfl, ?_⟩
    exact .of_model (Memory.setModel_self ..) platformTemporalPolicyStore_locking rfl
  simp only [panelNew, Action.bind_run]
  refine init.bind ?_
  rintro ok s st ⟨rfl, hr⟩
  cases ok with
  | false => exact .ret hr
  | true =>
    refine .neutral trivial fun regional => ?_
    have gone : Holds (B := B) fallback p guard changes
        ((modelClear m >>= fun _ => pure none : SysM B (Option Panel)) s)
        (fun _ s st => AtRest m s st) .free :=
      (panelFree_atRest hr).bind fun _ _ _ hrest => .ret hrest
    simp only [Prog.ret_bind, modelPolicy_run, Action.bind_run]
    cases (s.models m).map ModelPrivate.policy with
    | none => exact gone
    | some policy =>
      refine .aside locationMetadataRecover_aside fun recovered => ?_
      refine .aside locationMetadataLoadStatus_aside fun loaded => ?_
      refine .neutral trivial fun observer => ?_
      cases observer with
      | false => exact gone
      | true =>
        refine .neutral trivial fun observer => ?_
        cases observer with
        | false => exact gone
        | true =>
          refine (migrateLegacyNativeClock_atRest hr hfollows hkeeps).bind ?_
          exact fun _ _ _ hrest => .ret hrest

theorem policyFileChanged_atRest {panel : Panel} (hr : Resting m s) :
    Holds (B := B) fallback p guard changes (policyFileChanged K G m panel s)
      (fun _ s st => AtRest m s st) .free := by
  simp only [policyFileChanged, modelPolicy_run, Action.bind_run, Prog.ret_bind]
  cases (s.models m).map ModelPrivate.policy with
  | none => exact .ret hr
  | some policy =>
    refine (modelReload_holds hr).bind ?_
    rintro reloaded s st ⟨hr, rfl⟩
    cases reloaded with
    | false => exact .ret hr
    | true =>
      refine .aside locationMetadataRecover_aside fun recovered => ?_
      cases recovered with
      | false => exact .ret hr
      | true => exact .aside locationMetadataLoadStatus_aside fun loaded => .ret hr

theorem reconcileReference_atRest {policy : Option TemporalPolicyV3} {matchesSystem : Bool}
    {panel : Panel} (hr : Resting m s) (hkeeps : ∀ d d', KeepsExtended d d' → changes d d') :
    Holds (B := B) fallback p guard changes (reconcileReference m policy matchesSystem panel s)
      (fun _ s st => AtRest m s st) .free := by
  simp only [reconcileReference, Action.when_run, Action.bind_run, modelSetLocation]
  split
  · split
    · split
      · refine .discard (setField_atRest hr fun _ d x _ _ hx => ?_)
        exact hkeeps _ _ (keepsExtended_save hx rfl)
      · exact .ret hr
    · exact .ret hr
  · exact .ret hr

theorem reconcileSystemTimeChange_atRest {systemState : SystemTimeState} {panel : Panel}
    (hr : Resting m s) (hkeeps : ∀ d d', KeepsExtended d d' → changes d d') :
    Holds (B := B) fallback p guard changes
      (reconcileSystemTimeChange K G m systemState panel s) (fun _ s st => AtRest m s st)
      .free := by
  have finish : ∀ (panel : Panel) (s : Memory) (st : LockState), AtRest m s st →
      Holds (B := B) fallback p guard changes
        ((locationMetadataTransactionEnd >>= fun _ => pure panel : SysM B Panel) s)
        (fun _ s st => AtRest m s st) st :=
    fun panel s st hrest => .neutral trivial fun _ => .ret hrest
  simp only [reconcileSystemTimeChange]
  split
  · exact .ret hr
  · refine .neutral trivial fun regional => ?_
    simp only [Prog.ret_bind]
    split
    · refine .neutral trivial fun taken => ?_
      cases taken with
      | false => exact .ret hr
      | true =>
        refine .neutral trivial fun locked => .neutral trivial fun regional => ?_
        simp only [Prog.ret_bind, Action.bind_run, Prog.bind_assoc]
        refine (modelReload_holds hr).bind ?_
        rintro reloaded s st ⟨hr, rfl⟩
        refine .aside locationMetadataLoadStatus_aside fun loaded => ?_
        cases reloaded with
        | false => exact finish _ _ _ hr
        | true =>
          simp only [if_true, Action.bind_run, modelPolicy_run, Prog.ret_bind, Prog.bind_assoc]
          refine .aside reconcileMetadata_aside fun panel => ?_
          refine (reconcileReference_atRest hr hkeeps).bind ?_
          exact fun _ s st hrest => finish _ _ _ hrest
    · exact .ret hr

/-- Every task keeps to the contract, if decisions are still right when the lock
is taken. -/
theorem ClientTask.run_keeps {task : ClientTask} (hf : Conventional fallback)
    (hguard : ∀ s d, guard s d → StillFollows m s d) (hr : Resting m s)
    {w : World (Option TemporalPolicyV3) B} (hw : w.policyLock ≠ some p) :
    (task.run K G m s).Keeps (policyResource B fallback) (clientContract m guard) p task
      .outside w := by
  refine Holds.keeps ?_ hw
  have ends : ∀ {prog : Prog (Sys B) Memory Unit},
      Holds fallback p ((clientContract m guard).guard task)
        ((clientContract m guard).changes task) prog (fun _ s st => AtRest m s st) .free →
      Holds fallback p ((clientContract m guard).guard task)
        ((clientContract m guard).changes task) prog
        (fun a s st => (clientContract m guard).Ends task a s st.phase) .free := by
    intro prog h
    refine h.mono ?_
    intro _ s st hrest
    cases st with
    | held => exact hrest.elim
    | free | released => exact ⟨hrest, trivial⟩
  have hkeeps : ∀ d d', KeepsExtended d d' → (clientContract m guard).changes task d d' :=
    fun _ _ h => .inr h
  refine ends ?_
  cases task with
  | policy task =>
    -- an operation that is not asked for the clock mode leaves it alone
    have allowed : task.Allowed fallback K ((clientContract m guard).changes (.policy task)) := by
      intro d x y hx hy
      by_cases hclock : .clockMode ∈ task.fields
      · exact ⟨.inl hclock, .inl hclock⟩
      · have hsame : y.clockMode = x.1.clockMode :=
          PolicyTask.change_same (f := .clockMode) hy hclock
        exact ⟨.inr (keepsExtended_save hx hsame), .inr (keepsExtended_undo hf hx hsame)⟩
    refine .discard ((PolicyTask.run_holds hr allowed).mono ?_)
    intro result s st hends
    cases st with
    | held => exact hends
    | free | released => exact hends.1
  | panelNew => exact .discard (panelNew_atRest hr hguard hkeeps)
  | panelFree => exact panelFree_atRest hr
  | interfaceChanged updatingControls key =>
    refine onCinnamonInterfaceChanged_atRest hr ?_ hkeeps
    exact fun hkey s d hg => hguard s d (hg hkey)
  | policyFileChanged panel => exact .discard (policyFileChanged_atRest hr)
  | metadataFileChanged panel =>
    exact .aside locationMetadataFileChanged_aside fun _ => .ret hr
  | retryRecovery panel =>
    exact .aside retryLocalityRecovery_aside fun _ => .ret hr
  | systemTimeChanged systemState panel =>
    exact .discard (reconcileSystemTimeChange_atRest hr hkeeps)

end Keeps

/-! ## Runs of the clients -/

variable (B) in
/-- The clients and their world. -/
abbrev ClientConfig : Type :=
  Config (Sys B) Memory ClientTask Unit (World (Option TemporalPolicyV3) B)

/-- In every run of the clients, a step keeps an extended clock mode, or it is a
step of the client that holds the lock, and that client runs an explicit choice
of a clock mode. -/
def ExtendedClockKept (fallback : Option Native → TemporalPolicyV3) (K : Common) (G : GLib B)
    (m : ModelId) (guard : Memory → Option TemporalPolicyV3 → Prop) : Prop :=
  ∀ c₀ c c' : ClientConfig B,
    c₀.Initial (policyResource B fallback) (clientContract m guard) →
    ReflTransGen (Step (policyResource B fallback) (clientContract m guard)
      (ClientTask.run K G m)) c₀ c →
    Step (policyResource B fallback) (clientContract m guard) (ClientTask.run K G m) c c' →
    KeepsExtended c.world.document c'.world.document ∨
      ∃ p id task prog, c.procs p = .running id task prog ∧ task.Explicit ∧
        c'.world.policyLock = some p ∧ ∀ q, q ≠ p → c'.procs q = c.procs q

theorem platformFallback_conventional
    (hdefault : ∃ policy, K.policyDefault = some policy ∧
      nativeClockModeTracksDesktop policy.clockMode = true)
    (hcopy : ∀ use24h, K.copyClockMode (nativeClockModeId use24h) = nativeClockModeId use24h) :
    Conventional (platformFallback K) := by
  obtain ⟨policy, hp, htracks⟩ := hdefault
  intro native
  cases native with
  | none => simpa [platformFallback, loadCinnamonDefaults, hp] using htracks
  | some native =>
    have hid : (platformFallback K (some native)).clockMode =
        nativeClockModeId native.clockUse24h := hcopy native.clockUse24h
    rw [hid, nativeClockModeTracksDesktop_id]

/-- Extended clocks are kept in every run in which a panel that reacts to the
native setting, or starts, takes the lock only while its policy and the document
agree on following the desktop. -/
theorem extended_clock_kept
    (hdefault : ∃ policy, K.policyDefault = some policy ∧
      nativeClockModeTracksDesktop policy.clockMode = true)
    (hcopy : ∀ use24h, K.copyClockMode (nativeClockModeId use24h) = nativeClockModeId use24h) :
    ExtendedClockKept (platformFallback K) K G m (StillFollows m) := by
  have hf := platformFallback_conventional hdefault hcopy
  intro c₀ c c' h₀ h hstep
  obtain ⟨μ, xs, d', hi⟩ := exists_invariant
    (fun task s p w hr hw => ClientTask.run_keeps hf (fun _ _ hg => hg) hr hw) h₀ h
  rcases hi.changes hstep with hsame | ⟨p, id, task, prog, hp, hl, hothers, hexplicit | hkeeps⟩
  · exact .inl (keepsExtended_of_eq hsame)
  · exact .inr ⟨p, id, task, prog, hp, hexplicit, hl, hothers⟩
  · exact .inl hkeeps

/-- Clients over this document, none of them running, on a 24-hour desktop. -/
def restingClients (policy : TemporalPolicyV3) : ClientConfig (Option LocationMetadata) where
  world := { World.fresh (some policy) with native := some ⟨true, false⟩ }
  procs _ := .idle Memory.empty
  order := []
  results _ := none
  next := 0

theorem restingClients_initial (policy : TemporalPolicyV3)
    {guard : Memory → Option TemporalPolicyV3 → Prop} :
    (restingClients policy).Initial (policyResource _ fallback) (clientContract 0 guard) :=
  ⟨fun _ => ⟨_, rfl, fun _ hm => by cases hm⟩, rfl, rfl, fun _ => rfl⟩

/-- Play a schedule of clients. The lock is taken only within `guard`. -/
def playClients (guard : Memory → Option TemporalPolicyV3 → Prop) [∀ s d, Decidable (guard s d)]
    (c : ClientConfig (Option LocationMetadata)) (moves : List (Move ClientTask)) :
    Option (ClientConfig (Option LocationMetadata)) :=
  c.play (policyResource _ (platformFallback Common.small))
    (ClientTask.run Common.small GLib.small 0)
    (fun p ok w c => World.respond (.exact (platformFallback Common.small)) p ok w c)
    (fun task s d => decide ((clientContract 0 guard).guard task s d)) moves

/-- Steps of the small clients. -/
abbrev ClientStep (guard : Memory → Option TemporalPolicyV3 → Prop) :
    ClientConfig (Option LocationMetadata) → ClientConfig (Option LocationMetadata) → Prop :=
  Step (policyResource _ (platformFallback Common.small)) (clientContract 0 guard)
    (ClientTask.run Common.small GLib.small 0)

section Play

variable {guard : Memory → Option TemporalPolicyV3 → Prop} [∀ s d, Decidable (guard s d)]
  {c c' : ClientConfig (Option LocationMetadata)}

theorem playClients_steps {moves : List (Move ClientTask)}
    (h : playClients guard c moves = some c') : ReflTransGen (ClientStep guard) c c' := by
  refine Config.play_steps ?_ (fun _ _ _ => of_decide_eq_true) h
  exact fun p ok w cmd => ⟨ok, rfl, rfl⟩

theorem playClients_step {move : Move ClientTask} (h : playClients guard c [move] = some c') :
    ClientStep guard c c' := by
  obtain ⟨c₁, hmove, hc₁⟩ := Option.bind_eq_some_iff.mp h
  obtain rfl : c₁ = c' := Option.some.inj hc₁
  refine Config.move_step ?_ (fun _ _ _ => of_decide_eq_true) hmove
  exact fun p ok w cmd => ⟨ok, rfl, rfl⟩

/-- Another program sets the desktop to this, and then the clients go on. -/
theorem playClients_desktop {native : Native} {moves : List (Move ClientTask)}
    (h : playClients guard { c with world := { c.world with native := some native } } moves =
      some c') : ReflTransGen (ClientStep guard) c c' := by
  have hdesktop : ClientStep guard c { c with world := { c.world with native := some native } } :=
    .env _ ⟨rfl, rfl⟩
  exact .head hdesktop (playClients_steps h)

end Play

/-- A panel starts while the document says `standard-24`, the desktop goes to 12 hours, and the
panel saves `standard-12`. A command line chooses the decimal clock, and the panel reads the
document again. The desktop goes back to 24 hours, which the panel leaves at that. Then the
seconds are switched on in it: it takes the lock and reads the document. -/
def reactingPanel : Option (ClientConfig (Option LocationMetadata)) :=
  (playClients (StillFollows 0)
    (restingClients ⟨"standard-24", "gregorian", false, false, .finite 0, .finite 0⟩)
    (.start 1 .panelNew :: List.replicate 12 (.go 1 true))).bind fun c =>
  (playClients (StillFollows 0) { c with world := { c.world with native := some ⟨false, false⟩ } }
    (.start 1 (.interfaceChanged false "clock-use-24h") :: List.replicate 6 (.go 1 true) ++
      .start 2 (.policy (.commandLine "" ["--clock", "decimal"])) ::
        List.replicate 8 (.go 2 true) ++
      .start 1 (.policyFileChanged ⟨.zero, .zero, false, false, false, false⟩) ::
        List.replicate 8 (.go 1 true))).bind fun c =>
  playClients (StillFollows 0) { c with world := { c.world with native := some ⟨true, false⟩ } }
    [.start 1 (.interfaceChanged false "clock-use-24h"), .go 1 true,
      .start 1 (.policy (.setShowSeconds true)), .go 1 true, .go 1 true]

/-- What it then saves has the seconds, and still the decimal clock. -/
theorem extended_clock_kept_reacting :
    ∃ c c' : ClientConfig (Option LocationMetadata),
      ReflTransGen (ClientStep (StillFollows 0))
        (restingClients ⟨"standard-24", "gregorian", false, false, .finite 0, .finite 0⟩) c ∧
      ClientStep (StillFollows 0) c c' ∧
      c.world.document.map TemporalPolicyV3.clockMode = some "decimal" ∧
      c'.world.document.map TemporalPolicyV3.showSeconds = some true ∧
      KeepsExtended c.world.document c'.world.document := by
  have hrun : (reactingPanel.bind fun c => (playClients (StillFollows 0) c [.go 1 true]).map
      fun c' => (c.world.document.map TemporalPolicyV3.clockMode,
        c'.world.document.map TemporalPolicyV3.showSeconds, c'.world.policyLock,
        match c.procs 1 with | .running _ (.policy (.setShowSeconds _)) _ => true | _ => false)) =
      some (some "decimal", some true, some 1, true) := by
    decide +kernel
  obtain ⟨c, hc, hrun⟩ := Option.bind_eq_some_iff.mp hrun
  obtain ⟨c', hc', hrun⟩ := Option.map_eq_some_iff.mp hrun
  simp only [Prod.mk.injEq] at hrun
  obtain ⟨hbefore, hafter, hlock, htask⟩ := hrun
  obtain ⟨c₁, hc₁, hc⟩ := Option.bind_eq_some_iff.mp hc
  obtain ⟨c₂, hc₂, hc⟩ := Option.bind_eq_some_iff.mp hc
  have steps := ((playClients_steps hc₁).trans (playClients_desktop hc₂)).trans
    (playClients_desktop hc)
  have step := playClients_step hc'
  refine ⟨c, c', steps, step, hbefore, hafter, ?_⟩
  have kept := extended_clock_kept (K := Common.small) (G := GLib.small) (m := 0)
    ⟨_, rfl, by decide⟩ (fun _ => rfl) _ c c' (restingClients_initial _) steps step
  -- the lock holder is the panel, and its task chooses no clock
  refine kept.resolve_right ?_
  rintro ⟨p, id, task, prog, hp, hx, hl, -⟩
  obtain rfl : p = 1 := Option.some.inj (hl.symm.trans hlock)
  rw [hp] at htask
  cases task with
  | policy task =>
    cases task with
    | setShowSeconds showSeconds => simp [ClientTask.Explicit, PolicyTask.fields] at hx
    | _ => cases htask
  | _ => cases htask

/-- A panel starts while the document says `standard-24`. Then another program
sets the desktop to 12 hours, a command line chooses the decimal clock, and the
panel hears of the first of these only. It reads the setting, takes the lock and
reads the document. -/
def staleReaction : Option (ClientConfig (Option LocationMetadata)) :=
  (playClients (fun _ _ => True)
    (restingClients ⟨"standard-24", "gregorian", false, false, .finite 0, .finite 0⟩)
    (.start 1 .panelNew :: List.replicate 12 (.go 1 true))).bind fun c =>
  playClients (fun _ _ => True) { c with world := { c.world with native := some ⟨false, false⟩ } }
    ((.start 2 (.policy (.commandLine "" ["--clock", "decimal"])) ::
        List.replicate 8 (.go 2 true)) ++
      .start 1 (.interfaceChanged false "clock-use-24h") :: List.replicate 3 (.go 1 true))

/-- The panel then saves `standard-12` over the decimal clock. -/
theorem extended_clock_kept_counterexample :
    ¬ ExtendedClockKept (platformFallback Common.small) Common.small GLib.small 0
      (fun _ _ => True) := by
  intro kept
  have hrun : (staleReaction.bind fun c => (playClients (fun _ _ => True) c [.go 1 true]).map
      fun c' => (c.world.document.map TemporalPolicyV3.clockMode,
        c'.world.document.map TemporalPolicyV3.clockMode, c'.world.policyLock,
        match c.procs 1 with | .running _ (.interfaceChanged ..) _ => true | _ => false)) =
      some (some "decimal", some "standard-12", some 1, true) := by
    decide +kernel
  obtain ⟨c, hc, hrun⟩ := Option.bind_eq_some_iff.mp hrun
  obtain ⟨c', hc', hrun⟩ := Option.map_eq_some_iff.mp hrun
  simp only [Prod.mk.injEq] at hrun
  obtain ⟨hbefore, hafter, hlock, htask⟩ := hrun
  obtain ⟨c₁, hc₁, hc⟩ := Option.bind_eq_some_iff.mp hc
  have steps := (playClients_steps hc₁).trans (playClients_desktop hc)
  have step := playClients_step hc'
  rcases kept _ c c' (restingClients_initial _) steps step with
    hkeeps | ⟨p, id, task, prog, hp, hx, hl, -⟩
  · obtain ⟨policy, hd, hmode⟩ := Option.map_eq_some_iff.mp hbefore
    obtain ⟨policy', hd', hmode'⟩ := hkeeps policy hd (by rw [hmode]; decide)
    rw [hd', Option.map_some, hmode', hmode] at hafter
    exact absurd hafter (by decide)
  · obtain rfl : p = 1 := Option.some.inj (hl.symm.trans hlock)
    rw [hp] at htask
    cases task with
    | interfaceChanged => exact hx
    | _ => cases htask

end SystemSettings

import Mathlib.Logic.Relation
import SystemSettings.LocationSelection
import SystemSettings.ReferenceCoordinate
import SystemSettings.Timeouts

/-!
# Retrying a failed locality recovery

The panel attempts the recovery of the locality files when it starts, when the
policy file changes, and when its retry timer expires. A failed attempt is to
leave a timer behind. The handlers here are those of the panel with the fields
of `linux-date-time-location-private.h` about the timer and the main loop's
timeouts that run `retry_locality_recovery`; `recoveryPolicyFileChanged_panel`
and its like say that on the rest of the panel they do the same.

A start that fails at the migration of the legacy clock reports that and does not
arm the timer. Every other branch does.
-/

namespace SystemSettings

open Relation

variable {B W : Type} (K : Common) (G : GLib B) (m : ModelId)

/-! ## The panel and its timer -/

/-- A panel with its retry timer. -/
structure RecoveryPanel : Type where
  /-- the panel -/
  panel : Panel
  /-- `location.recovery_retry_id` -/
  recoveryRetryId : ℕ
  /-- `location.recovery_retry_seconds` -/
  recoveryRetrySeconds : ℕ
  /-- the main loop's timeouts that call `retry_locality_recovery` -/
  timeouts : Timeouts
  /-- what `ss_location_metadata_recover` last reported; the code does not keep it -/
  lastRecovery : Bool

namespace RecoveryPanel

/-- An attempt has ended: the mark of the panel. -/
def attempted (recovery : RecoveryPanel) (recovered : Bool) : RecoveryPanel :=
  { recovery with
    panel := { recovery.panel with recoveryFailed := !recovered }
    lastRecovery := recovered }

/-- `schedule_locality_recovery_retry` -/
def schedule (recovery : RecoveryPanel) : RecoveryPanel :=
  if recovery.recoveryRetryId ≠ 0 ∨ recovery.panel.recoveryFailed = false then recovery
  else
    let seconds :=
      if recovery.recoveryRetrySeconds = 0 then 2 else recovery.recoveryRetrySeconds
    { recovery with
      recoveryRetryId := recovery.timeouts.next
      recoveryRetrySeconds := min (seconds * 2) 60
      timeouts := recovery.timeouts.add seconds }

/-- The removal of the timer after a recovery that succeeded. -/
def unschedule (recovery : RecoveryPanel) : RecoveryPanel :=
  if recovery.recoveryRetryId ≠ 0 then
    { recovery with
      recoveryRetryId := 0
      timeouts := recovery.timeouts.remove recovery.recoveryRetryId }
  else recovery

/-- The end of `ss_linux_date_time_panel_new`: a failed migration is reported
first, and then no timer is armed. -/
def constructed (legacyMigrationOk : Bool) (panel : Panel) : RecoveryPanel :=
  let recovery : RecoveryPanel := ⟨panel, 0, 0, .none, !panel.recoveryFailed⟩
  if !legacyMigrationOk then recovery
  else if panel.recoveryFailed then recovery.schedule
  else recovery

end RecoveryPanel

/-- `retry_locality_recovery` -/
def recoveryRetry (recovery : RecoveryPanel) : SysM B RecoveryPanel := do
  let recovery := { recovery with recoveryRetryId := 0 }
  if ← locationMetadataRecover G then
    let recovery := { recovery.attempted true with recoveryRetrySeconds := 2 }
    let panel ← locationMetadataFileChanged G m recovery.panel
    pure { recovery with panel := panel }
  else pure (recovery.attempted false).schedule

/-- The main loop dispatches a retry timer, which is removed when it has run. -/
def recoveryRetryDispatched (id : ℕ) (recovery : RecoveryPanel) : SysM B RecoveryPanel := do
  let recovery ← recoveryRetry G m recovery
  pure { recovery with timeouts := recovery.timeouts.remove id }

/-- `policy_file_changed` -/
def recoveryPolicyFileChanged (recovery : RecoveryPanel) : SysM B RecoveryPanel := do
  match ← modelPolicy m with
  | none => pure recovery
  | some _ =>
    if ← modelReload K m then
      if ← locationMetadataRecover G then
        let loaded ← locationMetadataLoadStatus G
        let recovery := (recovery.attempted true).unschedule
        let panel := { recovery.panel.remember loaded with
          metadataUncertain := loaded.1 = .invalid ∨ loaded.1 = .ioError }
        pure { recovery with panel := refreshLocationAuthorityState (← modelPolicy m) panel }
      else
        let recovery := (recovery.attempted false).schedule
        pure { recovery with
          panel := refreshLocationAuthorityState (← modelPolicy m) recovery.panel }
    else pure recovery

/-- `ss_linux_date_time_panel_new` up to the panel and the result of the clock's
migration. -/
def panelOpen : SysM B (Option (Panel × Bool)) := do
  if ← modelInit K m platformTemporalPolicyStore then
    let regionalContext := (← regionalContextDetect).getD .zero
    match ← modelPolicy m with
    | none =>
      modelClear m
      pure none
    | some policy =>
      let recovered ← locationMetadataRecover G
      let (status, metadata) ← locationMetadataLoadStatus G
      let panel := refreshLocationAuthorityState (some policy)
        { regionalContext := regionalContext
          metadata := metadata
          metadataPresent := status = .ok
          metadataUncertain := status = .invalid ∨ status = .ioError
          followsTimezoneReference := false
          recoveryFailed := !recovered }
      if ← calloc then
        if ← calloc then
          let legacyMigrationOk ← migrateLegacyNativeClock K m
          pure (some (panel, legacyMigrationOk))
        else
          modelClear m
          pure none
      else
        modelClear m
        pure none
  else pure none

/-- `ss_linux_date_time_panel_new` -/
def recoveryPanelNew : SysM B (Option RecoveryPanel) := do
  match ← panelOpen K G m with
  | none => pure none
  | some (panel, legacyMigrationOk) =>
    pure (some (.constructed legacyMigrationOk panel))

/-! ## The same panel -/

@[simp] theorem RecoveryPanel.schedule_panel (recovery : RecoveryPanel) :
    recovery.schedule.panel = recovery.panel := by
  rw [RecoveryPanel.schedule]
  split <;> rfl

@[simp] theorem RecoveryPanel.unschedule_panel (recovery : RecoveryPanel) :
    recovery.unschedule.panel = recovery.panel := by
  rw [RecoveryPanel.unschedule]
  split <;> rfl

theorem recoveryRetry_panel (recovery : RecoveryPanel) :
    RecoveryPanel.panel <$> recoveryRetry G m recovery =
      retryLocalityRecovery G m recovery.panel := by
  unfold recoveryRetry retryLocalityRecovery
  simp only [map_bind]
  refine bind_congr fun recovered => ?_
  cases recovered with
  | false => simp [RecoveryPanel.attempted]
  | true => simp [RecoveryPanel.attempted]

theorem recoveryPolicyFileChanged_panel (recovery : RecoveryPanel) :
    RecoveryPanel.panel <$> recoveryPolicyFileChanged K G m recovery =
      policyFileChanged K G m recovery.panel := by
  unfold recoveryPolicyFileChanged policyFileChanged
  simp only [map_bind]
  refine bind_congr fun policy => ?_
  cases policy with
  | none => simp
  | some policy =>
    simp only [map_bind]
    refine bind_congr fun reloaded => ?_
    cases reloaded with
    | false => simp
    | true =>
      simp only [if_true, map_bind]
      refine bind_congr fun recovered => ?_
      cases recovered with
      | false => simp [RecoveryPanel.attempted]
      | true =>
        simp only [if_true, map_bind]
        refine bind_congr fun loaded => ?_
        obtain ⟨status, metadata⟩ := loaded
        cases status <;> simp [RecoveryPanel.attempted, Panel.remember]

theorem panelOpen_panel : Option.map Prod.fst <$> panelOpen K G m = panelNew K G m := by
  unfold panelOpen panelNew
  simp only [map_bind]
  refine bind_congr fun initialized => ?_
  cases initialized with
  | false => simp
  | true =>
    simp only [if_true, map_bind]
    refine bind_congr fun regional => bind_congr fun policy => ?_
    cases policy with
    | none => simp
    | some policy =>
      simp only [map_bind]
      refine bind_congr fun recovered => bind_congr fun loaded => bind_congr fun observed => ?_
      cases observed with
      | false => simp
      | true =>
        simp only [if_true, map_bind]
        refine bind_congr fun observed => ?_
        cases observed with
        | false => simp
        | true => simp

/-! ## What the rest of the panel does -/

variable {K G m} {s s' : Memory} {panel : Panel} {recovery recovery' : RecoveryPanel}
  {tr : List (Event (Sys B) W)}

@[simp] theorem refreshLocationAuthorityState_recoveryFailed (policy : Option TemporalPolicyV3) :
    (refreshLocationAuthorityState policy panel).recoveryFailed = panel.recoveryFailed := rfl

@[simp] theorem Panel.remember_recoveryFailed (loaded : LoadStatus × LocationMetadata) :
    (panel.remember loaded).recoveryFailed = panel.recoveryFailed := by
  obtain ⟨status, metadata⟩ := loaded
  cases status <;> rfl

/-- The program leaves the mark as it finds it. -/
abbrev KeepsMark (panel : Panel) (prog : Prog (Sys B) Memory Panel) : Prop :=
  prog.Ends fun panel' _ => panel'.recoveryFailed = panel.recoveryFailed

theorem locationMetadataFileChanged_keepsMark :
    KeepsMark panel (locationMetadataFileChanged G m panel s) := by
  refine .of_forall fun loaded s => ?_
  exact .of_forall fun policy s => by simp

theorem reconcileMetadata_keepsMark (policy : Option TemporalPolicyV3)
    (locked : Option SystemTimeState) :
    KeepsMark panel (reconcileMetadata G policy locked panel s) := by
  cases locked with
  | none => exact rfl
  | some locked =>
    rw [reconcileMetadata]
    dsimp only
    split
    · exact .of_forall fun saved s => by cases saved <;> exact rfl
    · exact rfl

theorem reconcileLocked_keepsMark : KeepsMark panel (reconcileLocked K G m panel s) := by
  refine .of_forall fun locked s => .of_forall fun regional s => .of_forall fun reloaded s =>
    .of_forall fun loaded s => ?_
  cases reloaded with
  | false => simp
  | true =>
    refine .of_forall fun policy s => ?_
    refine (reconcileMetadata_keepsMark policy locked).bind fun panel' s hpanel => ?_
    exact .of_forall fun _ s => by simpa using hpanel

theorem reconcileSystemTimeChange_keepsMark (systemState : SystemTimeState) :
    KeepsMark panel (reconcileSystemTimeChange K G m systemState panel s) := by
  rw [reconcileSystemTimeChange]
  split
  · exact rfl
  · refine .of_forall fun regional s => ?_
    dsimp only
    split
    · refine .of_forall fun begun s => ?_
      cases begun with
      | false => exact rfl
      | true =>
        refine reconcileLocked_keepsMark.bind fun panel' s hpanel => ?_
        exact .of_forall fun _ s => hpanel
    · exact rfl

theorem commitStaged_keepsMark (t : TokenId) (candidate : LocationMetadata) :
    KeepsMark panel (commitStaged K G m t candidate panel s) := by
  refine .of_forall fun _ s => .of_forall fun begun s => ?_
  cases begun with
  | false => exact .of_forall fun _ s => .of_forall fun _ s => rfl
  | true =>
    refine .of_forall fun published s => ?_
    cases published with
    | false =>
      refine .of_forall fun restored s => ?_
      cases restored <;>
        exact .of_forall fun _ s => .of_forall fun _ s => rfl
    | true =>
      refine .of_forall fun finished s => ?_
      cases finished <;> exact .of_forall fun _ s => rfl

theorem commitLocation_keepsMark (t : TokenId) (candidate : LocationMetadata) :
    KeepsMark panel (commitLocation K G m t candidate panel s) := by
  refine .of_forall fun begun s => ?_
  cases begun with
  | false => exact rfl
  | true =>
    refine .of_forall fun previous s => ?_
    cases previous with
    | none => exact .of_forall fun _ s => rfl
    | some previous =>
      refine .of_forall fun system s => .of_forall fun staged s => ?_
      cases staged with
      | false => exact .of_forall fun _ s => rfl
      | true =>
        rw [if_pos rfl]
        have hstaged : KeepsMark { panel with
            metadata := previous.1, metadataPresent := previous.2 }
            (commitStaged K G m t (candidate.inZone system) { panel with
              metadata := previous.1, metadataPresent := previous.2 } s) :=
          commitStaged_keepsMark t _
        exact hstaged

theorem PanelTask.run_keepsMark {task : PanelTask} (hpolicy : task ≠ .policyFileChanged)
    (hretry : task ≠ .retryLocalityRecovery) : KeepsMark panel (task.run K G m panel s) := by
  cases task with
  | reconcileSystemTimeChange systemState => exact reconcileSystemTimeChange_keepsMark systemState
  | policyFileChanged => exact absurd rfl hpolicy
  | locationMetadataFileChanged => exact locationMetadataFileChanged_keepsMark
  | retryLocalityRecovery => exact absurd rfl hretry
  | _ => exact .of_forall fun _ s => rfl

/-! ## A live panel -/

variable (K G m) in
/-- What a live panel does next, for any answers of the world. -/
inductive RecoveryStep : RecoveryPanel × Memory → RecoveryPanel × Memory → Prop where
  /-- the policy file has changed -/
  | policyFileChanged {recovery recovery' : RecoveryPanel} {s s' : Memory}
      {tr : List (Event (Sys B) Unit)} :
      (recoveryPolicyFileChanged K G m recovery s).Yields tr recovery' s' →
      RecoveryStep (recovery, s) (recovery', s')
  /-- a retry timer expires -/
  | retry {recovery recovery' : RecoveryPanel} {s s' : Memory} {tr : List (Event (Sys B) Unit)}
      {timeout : Timeout} : timeout ∈ recovery.timeouts.pending →
      (recoveryRetryDispatched G m timeout.id recovery s).Yields tr recovery' s' →
      RecoveryStep (recovery, s) (recovery', s')
  /-- another callback -/
  | task {recovery : RecoveryPanel} {panel' : Panel} {s s' : Memory}
      {tr : List (Event (Sys B) Unit)} (task : PanelTask) : task ≠ .policyFileChanged →
      task ≠ .retryLocalityRecovery → (task.run K G m recovery.panel s).Yields tr panel' s' →
      RecoveryStep (recovery, s) ({ recovery with panel := panel' }, s')
  /-- a place is chosen -/
  | place {recovery : RecoveryPanel} {panel' : Panel} {s s' : Memory}
      {tr : List (Event (Sys B) Unit)} (t : TokenId) (candidate : LocationMetadata) :
      (commitLocation K G m t candidate recovery.panel s).Yields tr panel' s' →
      RecoveryStep (recovery, s) ({ recovery with panel := panel' }, s')

/-- A failed recovery is being retried, by one timer with a delay of 2 to 60
seconds, and no other recovery is marked as failed. -/
structure RecoveryPanel.Retried (recovery : RecoveryPanel) : Prop where
  /-- a failure has a timer -/
  pending : recovery.panel.recoveryFailed = true → recovery.timeouts.pending ≠ []
  /-- there is no second timer -/
  single : recovery.timeouts.pending.length ≤ 1
  /-- its delay is bounded -/
  delay : ∀ timeout ∈ recovery.timeouts.pending, 2 ≤ timeout.delay ∧ timeout.delay ≤ 60
  /-- a success clears the mark -/
  cleared : recovery.lastRecovery = true → recovery.panel.recoveryFailed = false

variable (K G m) in
/-- ... in every state that the panel reaches. -/
def RecoveryPanel.AlwaysRetried (recovery : RecoveryPanel) (s : Memory) : Prop :=
  ∀ recovery' s', ReflTransGen (RecoveryStep K G m) (recovery, s) (recovery', s') →
    recovery'.Retried

/-- The delays of the retry timer. -/
def RetryDelay (seconds : ℕ) : Prop := 2 ≤ seconds ∧ seconds ≤ 60

/-- The fields of the panel agree with the main loop. -/
structure RecoveryPanel.Coherent (recovery : RecoveryPanel) : Prop where
  /-- the identifier stands for the timer -/
  tracks : recovery.timeouts.Tracks recovery.recoveryRetryId RetryDelay
  /-- the next delay -/
  seconds : recovery.recoveryRetrySeconds = 0 ∨ RetryDelay recovery.recoveryRetrySeconds
  /-- the mark is the outcome of the last attempt -/
  mark : recovery.panel.recoveryFailed = !recovery.lastRecovery

/-- ... and a failure has a timer. -/
structure RecoveryPanel.Scheduled (recovery : RecoveryPanel) : Prop extends
    recovery.Coherent where
  /-- a failure has a timer -/
  pending : recovery.panel.recoveryFailed = true → recovery.recoveryRetryId ≠ 0

namespace RecoveryPanel

theorem Scheduled.retried (h : recovery.Scheduled) : recovery.Retried where
  pending hfailed := h.tracks.pending_ne_nil (h.pending hfailed)
  single := h.tracks.length_le_one
  delay timeout htimeout := (h.tracks.of_mem htimeout).2
  cleared hlast := by rw [h.mark, hlast, Bool.not_true]

/-- An attempt says nothing about the timer. -/
theorem Coherent.attempted (h : recovery.Coherent) (recovered : Bool) :
    (recovery.attempted recovered).Coherent :=
  ⟨h.tracks, h.seconds, rfl⟩

/-- The panel may change otherwise, as long as it keeps the mark. -/
theorem Scheduled.withPanel (h : recovery.Scheduled) {panel' : Panel}
    (hpanel : panel'.recoveryFailed = recovery.panel.recoveryFailed) :
    { recovery with panel := panel' }.Scheduled :=
  ⟨⟨h.tracks, h.seconds, hpanel.trans h.mark⟩, fun hfailed => h.pending (hpanel ▸ hfailed)⟩

theorem retryDelay_seconds {seconds : ℕ} (h : seconds = 0 ∨ RetryDelay seconds) :
    RetryDelay (if seconds = 0 then 2 else seconds) := by
  unfold RetryDelay at h ⊢
  split_ifs <;> omega

theorem retryDelay_double {seconds : ℕ} (h : RetryDelay seconds) :
    RetryDelay (min (seconds * 2) 60) := by
  unfold RetryDelay at h ⊢
  omega

/-- Scheduling arms a timer for a failure that has none. -/
theorem Coherent.schedule (h : recovery.Coherent) : recovery.schedule.Scheduled := by
  by_cases hguard : recovery.recoveryRetryId ≠ 0 ∨ recovery.panel.recoveryFailed = false
  · rw [RecoveryPanel.schedule, if_pos hguard]
    refine ⟨h, fun hfailed hzero => ?_⟩
    rcases hguard with hguard | hguard
    · exact hguard hzero
    · exact absurd (hfailed.symm.trans hguard) (by decide)
  · rw [RecoveryPanel.schedule, if_neg hguard]
    have htracks := h.tracks
    rw [not_not.mp (not_or.mp hguard).1] at htracks
    have hseconds := retryDelay_seconds h.seconds
    exact ⟨⟨htracks.add hseconds, .inr (retryDelay_double hseconds), h.mark⟩,
      fun _ => Nat.ne_of_gt recovery.timeouts.next_pos⟩

/-- A success leaves no timer. -/
theorem Coherent.unschedule (h : recovery.Coherent)
    (hfailed : recovery.panel.recoveryFailed = false) : recovery.unschedule.Scheduled := by
  rw [RecoveryPanel.unschedule]
  split_ifs with hid
  · exact ⟨⟨h.tracks.remove, h.seconds, h.mark⟩, fun hmarked =>
      absurd (hmarked.symm.trans hfailed) (by decide)⟩
  · exact ⟨h, fun hmarked => absurd (hmarked.symm.trans hfailed) (by decide)⟩

/-- The timer that has expired is removed after it has armed the next one. -/
theorem Coherent.schedule_dispatched (h : recovery.Coherent) :
    { ({ recovery with recoveryRetryId := 0 }.attempted false).schedule with
      timeouts := ({ recovery with recoveryRetryId := 0 }.attempted false).schedule.timeouts.remove
        recovery.recoveryRetryId }.Scheduled := by
  have hseconds := retryDelay_seconds h.seconds
  refine ⟨⟨h.tracks.add_remove hseconds, .inr (retryDelay_double hseconds), rfl⟩, fun _ => ?_⟩
  exact Nat.ne_of_gt recovery.timeouts.next_pos

/-- The start of a panel, unless both the recovery and the migration fail. -/
theorem constructed_scheduled {legacyMigrationOk : Bool}
    (h : legacyMigrationOk = true ∨ panel.recoveryFailed = false) :
    (constructed legacyMigrationOk panel).Scheduled := by
  have hcoherent : (⟨panel, 0, 0, .none, !panel.recoveryFailed⟩ : RecoveryPanel).Coherent :=
    ⟨Timeouts.tracks_none, .inl rfl, by simp⟩
  cases hfailed : panel.recoveryFailed with
  | true =>
    obtain rfl : legacyMigrationOk = true := by simpa [hfailed] using h
    simpa [constructed, hfailed] using hcoherent.schedule
  | false =>
    have hunmarked : (⟨panel, 0, 0, .none, !panel.recoveryFailed⟩ : RecoveryPanel).Scheduled :=
      ⟨hcoherent, fun hmarked => absurd (hmarked.symm.trans hfailed) (by decide)⟩
    cases legacyMigrationOk <;> simpa [constructed, hfailed] using hunmarked

/-- When both fail, the failure has no timer. -/
theorem not_retried_constructed (hfailed : panel.recoveryFailed = true) :
    ¬ (constructed false panel).Retried := by
  intro h
  exact h.pending hfailed rfl

end RecoveryPanel

/-! ## Every step keeps a failure scheduled -/

theorem recoveryRetryDispatched_scheduled (h : recovery.Scheduled) :
    (recoveryRetryDispatched G m recovery.recoveryRetryId recovery s).Ends
      fun recovery' _ => recovery'.Scheduled := by
  have hcoherent := h.toCoherent
  unfold recoveryRetryDispatched recoveryRetry
  refine Prog.Ends.bind (Q := fun recovery' _ => { recovery' with
    timeouts := recovery'.timeouts.remove recovery.recoveryRetryId }.Scheduled) ?_
    fun recovery' s' h => h
  refine .of_forall fun recovered s => ?_
  cases recovered with
  | false => exact hcoherent.schedule_dispatched
  | true =>
    refine locationMetadataFileChanged_keepsMark.bind fun panel' s' hpanel => ?_
    have hfailed : panel'.recoveryFailed = false := hpanel
    have htwo : RetryDelay 2 := ⟨by decide, by decide⟩
    exact ⟨⟨h.tracks.remove, .inr htwo, hfailed⟩, fun hmarked =>
      absurd (hmarked.symm.trans hfailed) (by decide)⟩

theorem recoveryPolicyFileChanged_scheduled (h : recovery.Scheduled) :
    (recoveryPolicyFileChanged K G m recovery s).Ends fun recovery' _ => recovery'.Scheduled := by
  rw [recoveryPolicyFileChanged]
  refine .of_forall fun policy s => ?_
  cases policy with
  | none => exact h
  | some policy =>
    refine .of_forall fun reloaded s => ?_
    cases reloaded with
    | false => exact h
    | true =>
      refine .of_forall fun recovered s => ?_
      cases recovered with
      | false =>
        refine .of_forall fun policy s => ?_
        exact (h.attempted false).schedule.withPanel (by simp)
      | true =>
        refine .of_forall fun loaded s => .of_forall fun policy s => ?_
        exact ((h.attempted true).unschedule rfl).withPanel (by simp)

/-- One step of a live panel. -/
theorem RecoveryStep.scheduled {x x' : RecoveryPanel × Memory} (hstep : RecoveryStep K G m x x')
    (h : x.1.Scheduled) : x'.1.Scheduled := by
  cases hstep with
  | policyFileChanged hy => exact (recoveryPolicyFileChanged_scheduled h).yields hy
  | retry htimeout hy =>
    rw [(h.tracks.of_mem htimeout).1] at hy
    exact (recoveryRetryDispatched_scheduled h).yields hy
  | task task hpolicy hretry hy =>
    exact h.withPanel ((PanelTask.run_keepsMark hpolicy hretry).yields hy)
  | place t candidate hy => exact h.withPanel ((commitLocation_keepsMark t candidate).yields hy)

/-- A run of a live panel. -/
theorem scheduled_of_reaches {x x' : RecoveryPanel × Memory}
    (hrun : ReflTransGen (RecoveryStep K G m) x x') (h : x.1.Scheduled) : x'.1.Scheduled := by
  induction hrun with
  | refl => exact h
  | tail _ hstep ih => exact hstep.scheduled ih

/-- A failed recovery is retried in every state that a panel reaches after its
start, exactly if the start did not fail at both the recovery and the migration
of the clock. -/
theorem recovery_retried_iff {s₀ : Memory}
    (h : (recoveryPanelNew K G m s₀).Yields tr (some recovery) s) :
    ∃ panel legacyMigrationOk,
      (panelOpen K G m s₀).Yields tr (some (panel, legacyMigrationOk)) s ∧
      (recovery.AlwaysRetried K G m s ↔
        legacyMigrationOk = true ∨ panel.recoveryFailed = false) := by
  obtain ⟨tr₁, opened, s₁, tr₂, hopen, hnew, rfl⟩ := Prog.yields_bind h
  obtain _ | ⟨panel, legacyMigrationOk⟩ := opened
  · simp at hnew
  · simp at hnew
    obtain ⟨rfl, rfl, rfl⟩ := hnew
    refine ⟨panel, legacyMigrationOk, by simpa using hopen, ?_, ?_⟩
    · intro hretried
      by_contra hneither
      obtain ⟨hmigration, hfailed⟩ := not_or.mp hneither
      rw [Bool.not_eq_true] at hmigration
      rw [Bool.not_eq_false] at hfailed
      exact RecoveryPanel.not_retried_constructed hfailed (hmigration ▸ hretried _ _ .refl)
    · intro hone recovery' s' hrun
      exact (scheduled_of_reaches hrun (RecoveryPanel.constructed_scheduled hone)).retried

/-- Only the legacy native default can fail to migrate. -/
theorem migrateLegacyNativeClock_of_explicit {priv : ModelPrivate} (hm : s.models m = some priv)
    (hexplicit : nativeClockModeIsLegacyDefault priv.policy.clockMode = false) :
    (migrateLegacyNativeClock K m : SysM B Bool) s = .ret true s := by
  simp [migrateLegacyNativeClock, hm, hexplicit]

/-! ## Both locks are refused -/

/-- The start of a panel over a saved policy with this clock, while both locks
are held by others. -/
def refusedOpen (clockMode : String) :
    List (Event (Sys (Option LocationMetadata))
        (World (Option TemporalPolicyV3) (Option LocationMetadata))) ×
      Option (Panel × Bool) × Memory ×
      World (Option TemporalPolicyV3) (Option LocationMetadata) :=
  World.play smallStorage 1 (panelOpen Common.small GLib.small 0 Memory.empty)
    (World.fresh (some ⟨clockMode, "gregorian", true, false, .finite 0, .finite 0⟩))
    [true, true, true, false, true, true, true, true, false]

/-- The panel it makes. -/
def unrecoveredPanel : Panel := ⟨.zero, .zero, false, false, true, true⟩

theorem refusedOpen_yields {clockMode : String} {legacyMigrationOk : Bool}
    (h : (refusedOpen clockMode).2.1 = some (unrecoveredPanel, legacyMigrationOk)) :
    (panelOpen Common.small GLib.small 0 Memory.empty).Yields (refusedOpen clockMode).1
      (some (unrecoveredPanel, legacyMigrationOk)) (refusedOpen clockMode).2.2.1 := by
  have hrun := World.play_exec smallStorage 1 (R := fun _ _ => True)
    (fun _ => trivial)
    (panelOpen Common.small GLib.small 0 Memory.empty)
    (World.fresh (some ⟨clockMode, "gregorian", true, false, .finite 0, .finite 0⟩))
    [true, true, true, false, true, true, true, true, false]
  exact h ▸ (Prog.exec_quiet.mp hrun).1

theorem recoveryPanelNew_yields {s₀ : Memory} {legacyMigrationOk : Bool}
    (hopen : (panelOpen K G m s₀).Yields tr (some (panel, legacyMigrationOk)) s) :
    (recoveryPanelNew K G m s₀).Yields tr (some (.constructed legacyMigrationOk panel)) s := by
  rw [← List.append_nil tr, recoveryPanelNew, Action.bind_run]
  exact hopen.bind ⟨rfl, rfl, rfl⟩

/-- An explicit clock: the failed recovery is retried. -/
theorem recovery_retried_explicit :
    (RecoveryPanel.constructed true unrecoveredPanel).AlwaysRetried Common.small GLib.small 0
      (refusedOpen "standard-24").2.2.1 := by
  have hopen : (panelOpen Common.small GLib.small 0 Memory.empty).Yields
      (refusedOpen "standard-24").1 (some (unrecoveredPanel, true))
      (refusedOpen "standard-24").2.2.1 := refusedOpen_yields (by decide +kernel)
  obtain ⟨panel, legacyMigrationOk, hopen', hretried⟩ :=
    recovery_retried_iff (recoveryPanelNew_yields hopen)
  obtain ⟨heq, -⟩ := hopen.unique hopen'
  obtain ⟨rfl, rfl⟩ := Prod.mk.inj (Option.some.inj heq)
  exact hretried.mpr (.inl rfl)

/-- The legacy default: the failed recovery has no timer. -/
theorem recovery_not_retried_legacy :
    (recoveryPanelNew Common.small GLib.small 0 Memory.empty).Yields
      (refusedOpen "standard").1 (some (.constructed false unrecoveredPanel))
      (refusedOpen "standard").2.2.1 ∧
    ¬ (RecoveryPanel.constructed false unrecoveredPanel).AlwaysRetried Common.small GLib.small 0
      (refusedOpen "standard").2.2.1 :=
  ⟨recoveryPanelNew_yields (refusedOpen_yields (by decide +kernel)),
    fun h => RecoveryPanel.not_retried_constructed rfl (h _ _ .refl)⟩

end SystemSettings

import SystemSettings.LocalityCommandLine
import SystemSettings.LocalityRepair

/-!
# Histories of the locality

Runs of the processes that touch the locality, one after another under the locality lock,
each of which may be stopped after any call. Between their calls the other processes spare
the locality.

`LocalityRun` collects the pairs of policy location and `location.ini` that the runs so far
have committed. From the two invariants of the protocol follow the two theorems on recovery:
`recovered_consistent` and `spent_journal_discarded`.
-/

namespace SystemSettings

variable {P B : Type} {K : Common} {F : PolicyFormat P} {G : GLib B} {round : Double → Double}

/-! ## The runs -/

/-- A run of one process. -/
inductive LocalityTask : Type where
  /-- `on_location_result_activated` -/
  | activateResult (result : LocationSearchResult) (panel : Panel)
  /-- `commit_location_coordinates` -/
  | commitCoordinates (updatingControls : Bool) (latitude longitude : Double) (panel : Panel)
  /-- `main` of the command line tool -/
  | commandLine (program : String) (args : List String)
  /-- `ss_date_time_model_set_clock_mode` -/
  | setClockMode (clockMode : String)
  /-- `ss_date_time_model_set_calendar` -/
  | setCalendar (calendarId : String)
  /-- `ss_date_time_model_set_show_seconds` -/
  | setShowSeconds (showSeconds : Bool)
  /-- `ss_location_metadata_recover` -/
  | recover
  /-- `ss_linux_date_time_panel_reconcile_system_time_change` -/
  | reconcile (systemState : SystemTimeState) (panel : Panel)

namespace LocalityTask

/-- Everything but recovery and reconciliation is a transaction. -/
def kind : LocalityTask → RunKind
  | recover => .recovery
  | reconcile _ _ => .reconciliation
  | _ => .transaction

/-- The memory that the process starts the run with: the tool has no model yet, and the
model of a panel is at rest. -/
def Ready (m : ModelId) (s : Memory) : LocalityTask → Prop
  | commandLine _ _ => s.models m = none
  | _ => PanelModel m s

variable (K G) in
/-- The program of a run. -/
def run (m : ModelId) (t : TokenId) : LocalityTask → SysM B Unit
  | activateResult result panel => do
    let _ ← onLocationResultActivated K G m t result panel
  | commitCoordinates updatingControls latitude longitude panel => do
    let _ ← commitLocationCoordinates K G m t updatingControls latitude longitude panel
  | commandLine program args => do
    let _ ← cliMain K G m program args
  | setClockMode clockMode => do
    let _ ← modelSetClockMode K m clockMode
  | setCalendar calendarId => do
    let _ ← modelSetCalendar K m calendarId
  | setShowSeconds showSeconds => do
    let _ ← modelSetShowSeconds m showSeconds
  | recover => do
    let _ ← locationMetadataRecover G
  | reconcile systemState panel => do
    let _ ← reconcileSystemTimeChange K G m systemState panel

variable (K round) in
/-- The pairs that a run can commit. -/
def offers : LocalityTask → Set LocalityPair
  | activateResult result _ =>
    { pair | ∃ system, pair = (result.candidate.inZone system).pair round }
  | commitCoordinates _ latitude longitude _ =>
    { pair | ∃ system, pair = ((customCandidate latitude longitude).inZone system).pair round }
  | commandLine program args => commandLineOffers K round program args
  | _ => ∅

/-- Every run follows the protocol. -/
theorem run_follows (hG : G.ReadsBack) {allowed : Locality → LocalityMove → Prop} {m : ModelId}
    {t : TokenId} {s : Memory} {d : Locality} (task : LocalityTask) (hready : task.Ready m s)
    (hview : d.pending.1 = .missing → d.pending = FileView.missing) :
    (task.run K G m t s).Follows
      (protocolMachine K F G round (MoveAllowed G round allowed task.kind))
      (LocalityStep round allowed (task.offers K round) task.kind) (fun _ _ _ _ => True)
      .idle d := by
  cases task with
  | activateResult result panel =>
    have hoffers (system : Option SystemTimeState) : (result.candidate.inZone system).pair round ∈
        (activateResult result panel).offers K round := ⟨system, rfl⟩
    exact (commitLocation_follows hG hready hoffers).bind fun _ _ _ _ _ => trivial
  | commitCoordinates updatingControls latitude longitude panel =>
    cases updatingControls with
    | true => trivial
    | false =>
      have hoffers (system : Option SystemTimeState) :
          ((customCandidate latitude longitude).inZone system).pair round ∈
            (commitCoordinates false latitude longitude panel).offers K round := ⟨system, rfl⟩
      exact (commitLocation_follows hG hready hoffers).bind fun _ _ _ _ _ => trivial
  | commandLine program args => exact (cliMain_follows hG hready).bind fun _ _ _ _ _ => trivial
  | setClockMode clockMode =>
    exact (modelSetClockMode_follows hready clockMode).bind fun _ _ _ _ _ => trivial
  | setCalendar calendarId =>
    exact (modelSetCalendar_follows hready calendarId).bind fun _ _ _ _ _ => trivial
  | setShowSeconds showSeconds =>
    exact (modelSetShowSeconds_follows hready showSeconds).bind fun _ _ _ _ _ => trivial
  | recover => exact (locationMetadataRecover_follows hG hview).bind fun _ _ _ _ _ => trivial
  | reconcile systemState panel =>
    exact (reconcileSystemTimeChange_follows hG hready).bind fun _ _ _ _ _ => trivial

end LocalityTask

/-! ## What a run commits -/

variable (G round) in
/-- The pairs that a run has staged: that of the record it wrote to the journal, and the cleared
one where it saved a policy without a location. -/
def stagedPairs {W : Type} (tr : List (Event (Sys B) W)) : Set LocalityPair :=
  { pair | (∃ data record w, event (.writeFile .locationPending data) true w ∈ tr ∧
      metadataParse G data = some record ∧ pair = record.pair round) ∨
    ∃ policy w, event (.save policy) true w ∈ tr ∧ policy.location = none ∧
      pair = LocalityPair.cleared }

variable (K F G round) in
/-- The pairs that a run has committed when it ends or is stopped: it has staged them, and the
world it leaves holds them. A run that was refused, or that failed and took its journal back,
commits nothing. -/
def LocalityTask.commits (task : LocalityTask)
    (tr : List (Event (Sys B) (World (FileState P) B × Bool)))
    (y : World (FileState P) B × Bool) : Set LocalityPair :=
  { pair ∈ task.offers K round ∩ stagedPairs G round tr | (World.locality K F G y).Holds pair }

/-- The calls of a run stage what they stage. -/
theorem MoveAllowed.staging {W : Type} {tr : List (Event (Sys B) W)}
    {allowed : Locality → LocalityMove → Prop} {kind : RunKind} {d : Locality} {c : Call B}
    {r : c.Answer} {w : W} (h : MoveAllowed G round allowed kind d c r) (he : event c r w ∈ tr) :
    MoveAllowed G round (Staging round (stagedPairs G round tr) allowed) kind d c r := by
  cases c with
  | writeFile f data =>
    cases f with
    | locationIni => exact h
    | locationPending =>
      rintro hkind rfl record hrecord
      exact ⟨h hkind rfl record hrecord, .inl ⟨data, record, w, he, hrecord, rfl⟩⟩
  | unlinkFile f =>
    cases f with
    | locationIni => trivial
    | locationPending => exact h
  | save policy =>
    refine ⟨?_, h.2⟩
    rintro hkind rfl hlocation
    exact ⟨h.1 hkind rfl hlocation, .inr ⟨policy, w, he, hlocation, rfl⟩⟩
  | _ => trivial

variable (K F G round) in
/-- Runs one after another, each within the condition `allowed`, from a world on; the pairs
are the first one and those that the runs have committed. The flag beside a world says whether
the removal of its journal has been tried. -/
inductive LocalityRun (allowed : Locality → LocalityMove → Prop)
    (x₀ : World (FileState P) B × Bool) :
    Set LocalityPair → World (FileState P) B × Bool → Prop where
  /-- no run yet -/
  | start : LocalityRun allowed x₀
      {((World.locality K F G x₀).place, (World.locality K F G x₀).ini)} x₀
  /-- the others do something else, or the locks of a stopped process are released -/
  | elsewhere {pairs : Set LocalityPair} {w w' : World (FileState P) B} {spent : Bool} :
      LocalityRun allowed x₀ pairs (w, spent) → w.SparesLocality K F w' →
      LocalityRun allowed x₀ pairs (w', spent)
  /-- a run of a process, to its end or not -/
  | task {pairs : Set LocalityPair} {x y : World (FileState P) B × Bool}
      {tr : List (Event (Sys B) (World (FileState P) B × Bool))} {p : Pid} {m : ModelId}
      {t : TokenId} {s : Memory} (task : LocalityTask) :
      LocalityRun allowed x₀ pairs x → task.Ready m s →
      (task.run K G m t s).Cut
        (journalMachine K F G p (MoveAllowed G round allowed task.kind)) x tr y →
      LocalityRun allowed x₀ (pairs ∪ task.commits K F G round tr y) y

/-- Without a file there is no record. -/
theorem World.locality_pending (x : World (FileState P) B × Bool)
    (h : (World.locality K F G x).pending.1 = .missing) :
    (World.locality K F G x).pending = FileView.missing := by
  obtain ⟨w, spent⟩ := x
  simp only [World.locality] at h ⊢
  cases hfile : w.locationPending with
  | absent => rfl
  | unreadable =>
    rw [hfile] at h
    cases h
  | contents data =>
    rw [hfile] at h
    simp only [metadataLoad] at h
    split at h <;> cases h

/-- No removal of the journal fails. -/
def JournalRemoved (_ : Locality) : (c : Call B) → c.Answer → Prop
  | .unlinkFile .locationPending, ok => ok = true
  | _, _ => True

section Runs

variable {allowed : Locality → LocalityMove → Prop}
  {x₀ x y : World (FileState P) B × Bool} {pairs : Set LocalityPair} {p : Pid} {m : ModelId}
  {t : TokenId} {s : Memory} {tr : List (Event (Sys B) (World (FileState P) B × Bool))}
  (hG : G.ReadsBack) (hF : F.SixDecimals round)
  (hdefault : ∀ policy, K.policyDefault = some policy → policy.locationConfigured = false)
include hG hF hdefault

/-- A run that was stopped has made steps of the protocol. -/
theorem LocalityTask.steps {task : LocalityTask} (hready : task.Ready m s)
    (h : (task.run K G m t s).Cut
      (journalMachine K F G p (MoveAllowed G round allowed task.kind)) x tr y) :
    ∃ q, Prog.Steps (LocalityStep round allowed (task.offers K round) task.kind)
      (.idle, World.locality K F G x) (q, World.locality K F G y) :=
  (h.map (journalMachine_effect hF hdefault)).follows
    (task.run_follows hG hready (World.locality_pending x))

omit hG in
/-- A step of the world, in a run that stages these pairs. -/
theorem journalMachine_effect_staging {kind : RunKind}
    (x : World (FileState P) B × Bool) (e : Event (Sys B) (World (FileState P) B × Bool))
    (h : (World.Step (platformStorage K F) p (World.SparesLocality K F) x.1
        ⟨e.cmd, e.resp, e.world.1⟩ ∧ e.world.2 = spentAfter x.2 e.cmd e.resp ∧
      MoveAllowed G round allowed kind (World.locality K F G x) e.cmd e.resp) ∧ e ∈ tr) :
    (World.locality K F G x).Effect K F G round e.cmd e.resp (World.locality K F G e.world) ∧
      MoveAllowed G round (Staging round (stagedPairs G round tr) allowed) kind
        (World.locality K F G x) e.cmd e.resp := by
  obtain ⟨heffect, hallowed⟩ := journalMachine_effect hF hdefault x e h.1
  exact ⟨heffect, hallowed.staging h.2⟩

/-- The same, with what the run has staged. -/
theorem LocalityTask.steps_staging {task : LocalityTask} (hready : task.Ready m s)
    (h : (task.run K G m t s).Cut
      (journalMachine K F G p (MoveAllowed G round allowed task.kind)) x tr y) :
    ∃ q, Prog.Steps (LocalityStep round (Staging round (stagedPairs G round tr) allowed)
      (task.offers K round) task.kind)
      (.idle, World.locality K F G x) (q, World.locality K F G y) := by
  have hin := h.restrict (P := fun e => e ∈ tr) fun e he => he
  exact (hin.map (journalMachine_effect_staging hF hdefault)).follows
    (task.run_follows hG hready (World.locality_pending x))

/-! ## Recovery after any history -/

/-- After any history recovery can make the policy and `location.ini` agree again. -/
theorem LocalityRun.recoverable (h₀ : (World.locality K F G x₀).Consistent)
    (h : LocalityRun K F G round (StageAllowed round) x₀ pairs x) :
    (World.locality K F G x).Recoverable pairs := by
  have hclose (c : Coordinates) (hc : validLocation c.1 c.2 = true) : c.Close (c.rounded round) :=
    (Coordinates.rounded_close hF hc).symm
  induction h with
  | start => exact h₀.recoverable rfl
  | elsewhere _ hspares ih =>
    rw [hspares.locality]
    exact ih
  | task task _ hready hcut ih =>
    obtain ⟨q, hsteps⟩ := task.steps_staging hG hF hdefault hready hcut
    have hkept := hsteps.keeps (I := RecoverableIn round _ _)
      (fun _ _ _ _ h hstep => hstep.recoverable hclose h) ih
    exact hkept.recoverable hclose

/-- A recovery to its end. -/
theorem recover_steps {guard : Locality → (c : Call B) → c.Answer → Prop}
    (allowed : Locality → LocalityMove → Prop) {recovered : Bool} {s' : Memory}
    (hx : (locationMetadataRecover G s).Exec (journalMachine K F G p guard) x tr recovered s' y) :
    ∃ q, Prog.Steps (LocalityStep round allowed ∅ .recovery) (.idle, World.locality K F G x)
        (q, World.locality K F G y) ∧
      (recovered = true → (World.locality K F G y).Recovered guard) :=
  (hx.map (journalMachine_effect hF hdefault)).follows
    (locationMetadataRecover_follows hG (World.locality_pending x))

/-- A recovery that may have been stopped. -/
theorem recover_steps_cut {guard : Locality → (c : Call B) → c.Answer → Prop}
    (allowed : Locality → LocalityMove → Prop)
    (hx : (locationMetadataRecover G s).Cut (journalMachine K F G p guard) x tr y) :
    ∃ q, Prog.Steps (LocalityStep round allowed ∅ .recovery) (.idle, World.locality K F G x)
        (q, World.locality K F G y) :=
  (hx.map (journalMachine_effect hF hdefault)).follows
    (locationMetadataRecover_follows hG (World.locality_pending x))

/-- Every recovery that returns `true`, and whose removal of the journal does not fail, leaves
the policy and `location.ini` as they were at first or as one of the runs committed them. -/
theorem recovered_consistent (h₀ : (World.locality K F G x₀).Consistent)
    (h : LocalityRun K F G round (StageAllowed round) x₀ pairs x) {s' : Memory}
    (hx : (locationMetadataRecover G s).Exec
      (journalMachine K F G p JournalRemoved) x tr true s' y) :
    (World.locality K F G y).Consistent ∧
      ((World.locality K F G y).place, (World.locality K F G y).ini) ∈ pairs := by
  have hclose (c : Coordinates) (hc : validLocation c.1 c.2 = true) : c.Close (c.rounded round) :=
    (Coordinates.rounded_close hF hc).symm
  obtain ⟨q, hsteps, hrecovered⟩ := recover_steps hG hF hdefault
    (Staging round ∅ (StageAllowed round)) hx
  have hkept := hsteps.keeps (I := RecoverableIn round pairs (∅ ∩ ∅))
    (fun _ _ _ _ h hstep => hstep.recoverable hclose h) (h.recoverable hG hF hdefault h₀)
  have hsame : (World.locality K F G y).Recoverable pairs :=
    (hkept.recoverable hclose).mono (Set.union_subset subset_rfl fun _ hpair => hpair.1.1.elim)
  obtain ⟨hpending, hini⟩ := hrecovered rfl fun _ _ h => h
  exact hsame.consistent hpending hini

/-! ## Spent journals -/

/-- In every history a spent journal does no harm. -/
theorem LocalityRun.spent {w₀ : World (FileState P) B}
    (h : LocalityRun K F G round SpentAllowed (w₀, false) pairs x) :
    (World.locality K F G x).Spent := by
  generalize hx₀ : (w₀, false) = x₀ at h
  induction h with
  | start =>
    subst hx₀
    exact fun hspent => absurd hspent Bool.false_ne_true
  | elsewhere _ hspares ih =>
    rw [hspares.locality]
    exact ih
  | task task _ hready hcut ih =>
    obtain ⟨q, hsteps⟩ := task.steps hG hF hdefault hready hcut
    have hkept := hsteps.keeps (I := SpentIn) (fun _ _ _ _ h hstep => hstep.spent h) ih
    exact hkept.spent

/-- Once the removal of a journal has been tried, no recovery, to its end or not, replaces
the record of `location.ini` or removes it, but where the policy has no location. -/
theorem spent_journal_discarded {w₀ : World (FileState P) B}
    (h : LocalityRun K F G round SpentAllowed (w₀, false) pairs x) (hspent : x.2 = true)
    {guard : Locality → (c : Call B) → c.Answer → Prop}
    (hx : (locationMetadataRecover G s).Cut (journalMachine K F G p guard) x tr y) :
    (World.locality K F G y).ini = (World.locality K F G x).ini ∨
      (World.locality K F G y).place = some none ∧
        (World.locality K F G y).ini = FileView.missing := by
  obtain ⟨q, hsteps⟩ := recover_steps_cut hG hF hdefault SpentAllowed hx
  have hkept := hsteps.keeps
    (I := fun q d => SpentIn q d ∧ d.spent = true ∧ (d.ini = (World.locality K F G x).ini ∨
      d.place = some none ∧ d.ini = FileView.missing))
    (fun _ _ _ _ h hstep => hstep.keeps_ini h)
    ⟨h.spent hG hF hdefault, hspent, .inl rfl⟩
  exact hkept.2.2

end Runs

/-! ## Two journals that are lost -/

/-- A world of the small formats. -/
abbrev JournalWorld : Type :=
  World (FileState (Option TemporalPolicyV3)) (Option LocationMetadata) × Bool

/-- Everything is allowed. -/
def AnyMove (_ : Locality) (_ : LocalityMove) : Prop := True

instance (d : Locality) (move : LocalityMove) : Decidable (AnyMove d move) := .isTrue trivial

/-- The locality of a small world. -/
abbrev smallLocality (x : JournalWorld) : Locality :=
  World.locality Common.small PolicyFormat.small GLib.small x

/-- Runs on small worlds, without a condition. -/
abbrev JournalRun : JournalWorld → Set LocalityPair → JournalWorld → Prop :=
  LocalityRun Common.small PolicyFormat.small GLib.small id AnyMove

/-- A call with nobody else about. -/
def journalPlay (ok : Bool) (x : JournalWorld) (c : Call (Option LocationMetadata)) :
    c.Answer × JournalWorld :=
  let y := World.respond (platformStorage Common.small PolicyFormat.small) 1 ok x.1 c
  (y.1, y.2, spentAfter x.2 c y.1)

/-- A policy and a record at zero degrees. -/
def placedAtZero : JournalWorld :=
  ({ World.fresh (.contents (some ⟨"standard", "gregorian", false, true, .finite 0, .finite 0⟩)) with
      locationIni := .contents (some ⟨[79], [], [], .finite 0, .finite 0⟩) }, false)

/-- A panel at rest. -/
def panelAtRest : Memory :=
  Memory.empty.setModel 0 (some ⟨default, platformTemporalPolicyStore, true, false⟩)

/-- A task until the answers run out: its calls, and the world it leaves. -/
def played (task : LocalityTask) (oks : List Bool) (x : JournalWorld) :
    List (Event (Sys (Option LocationMetadata)) JournalWorld) × JournalWorld :=
  (task.run Common.small GLib.small 0 0 panelAtRest).playTo journalPlay x oks

/-- The calls that are played meet the condition. -/
def playsWithin (allowed : Locality → LocalityMove → Prop) [∀ d move, Decidable (allowed d move)]
    (task : LocalityTask) (oks : List Bool) (x : JournalWorld) : Bool :=
  (task.run Common.small GLib.small 0 0 panelAtRest).playsWithin
    (fun x c r => decide (MoveAllowed GLib.small id allowed task.kind (smallLocality x) c r))
    journalPlay x oks

/-- The world after a task that was stopped when the answers ran out. Its locks are released. -/
def stopped (task : LocalityTask) (oks : List Bool) (x : JournalWorld) : JournalWorld :=
  let y := (played task oks x).2
  ({ y.1 with policyLock := none, localityLock := none }, y.2)

/-- A panel that knows nothing of the locality. -/
def blankPanel : Panel := ⟨.zero, .zero, false, false, false, false⟩

theorem journalPlay_step {guard : Locality → (c : Call (Option LocationMetadata)) → c.Answer → Prop}
    (ok : Bool) (x : JournalWorld) (c : Call (Option LocationMetadata))
    (hguard : guard (smallLocality x) c (journalPlay ok x c).1) :
    World.Step (platformStorage Common.small PolicyFormat.small) 1
        (World.SparesLocality Common.small PolicyFormat.small) x.1
        ⟨c, (journalPlay ok x c).1, (journalPlay ok x c).2.1⟩ ∧
      (journalPlay ok x c).2.2 = spentAfter x.2 c (journalPlay ok x c).1 ∧
      guard (smallLocality x) c (journalPlay ok x c).1 :=
  ⟨⟨x.1, ok, .refl x.1, rfl, rfl⟩, rfl, hguard⟩

/-- Recovery with no fault: its result and the world after it. -/
def recoverPlay (x : JournalWorld) : Bool × JournalWorld :=
  let played := (locationMetadataRecover GLib.small Memory.empty).play (fun _ => journalPlay true) x []
  (played.2.1, played.2.2.2)

theorem recoverPlay_exec {x : JournalWorld} (h : (recoverPlay x).1 = true) : ∃ tr s',
    (locationMetadataRecover GLib.small Memory.empty).Exec
      (journalMachine Common.small PolicyFormat.small GLib.small 1 JournalRemoved) x tr true s'
        (recoverPlay x).2 := by
  have hguard (x : JournalWorld) (c : Call (Option LocationMetadata)) :
      JournalRemoved (smallLocality x) c (journalPlay true x c).1 := by
    cases c with
    | unlinkFile f => cases f <;> trivial
    | _ => trivial
  rw [← h]
  exact ⟨_, _, Prog.play_exec (fun _ x c => journalPlay_step true x c (hguard x c)) _ x []⟩

/-- A stopped task is a run, when the calls that it made meet the condition. -/
theorem LocalityRun.stopped {allowed : Locality → LocalityMove → Prop}
    [∀ d move, Decidable (allowed d move)] {x₀ x : JournalWorld} {pairs : Set LocalityPair}
    (h : LocalityRun Common.small PolicyFormat.small GLib.small id allowed x₀ pairs x)
    (task : LocalityTask) (hready : task.Ready 0 panelAtRest) (oks : List Bool)
    (hallowed : playsWithin allowed task oks x = true) :
    LocalityRun Common.small PolicyFormat.small GLib.small id allowed x₀
      (pairs ∪ task.commits Common.small PolicyFormat.small GLib.small id (played task oks x).1
        (played task oks x).2) (SystemSettings.stopped task oks x) :=
  .elsewhere (.task task h hready (Prog.playTo_cut
    (fun ok x c hcheck => journalPlay_step ok x c (of_decide_eq_true hcheck)) _ x oks hallowed))
    ⟨rfl, rfl, rfl⟩

theorem panelModel_panelAtRest : PanelModel 0 panelAtRest := panelModel_setModel rfl rfl

theorem Common.small_unlocated (policy : TemporalPolicyV3)
    (h : Common.small.policyDefault = some policy) : policy.locationConfigured = false := by
  cases h
  rfl

theorem placedAtZero_consistent : (smallLocality placedAtZero).Consistent :=
  ⟨rfl, .inr ⟨⟨[79], [], [], .finite 0, .finite 0⟩, (.finite 0, .finite 0), rfl, rfl,
    by decide +kernel⟩⟩

/-- Coordinates are committed in a panel. -/
def typedCoordinates (latitude longitude : ℚ) : LocalityTask :=
  .commitCoordinates false (.finite latitude) (.finite longitude) blankPanel

/-- A commit is stopped when it has saved the policy. -/
def savedOnly : JournalWorld :=
  stopped (typedCoordinates 10 20) [true, true, true, true, true, true, true] placedAtZero

/-- Recovery publishes its journal, and the pair is that of the commit. -/
theorem recovered_consistent_saved :
    ((smallLocality (recoverPlay savedOnly).2).Consistent ∧
      ((smallLocality (recoverPlay savedOnly).2).place,
        (smallLocality (recoverPlay savedOnly).2).ini) ∈
          ({((smallLocality placedAtZero).place, (smallLocality placedAtZero).ini)} ∪
            let run := played (typedCoordinates 10 20)
              [true, true, true, true, true, true, true] placedAtZero
            (typedCoordinates 10 20).commits Common.small PolicyFormat.small GLib.small id
              run.1 run.2 : Set LocalityPair)) ∧
    (smallLocality (recoverPlay savedOnly).2).place = some (some (.finite 10, .finite 20)) := by
  have hstart : LocalityRun Common.small PolicyFormat.small GLib.small id (StageAllowed id)
      placedAtZero _ placedAtZero := .start
  have hrun := hstart.stopped (typedCoordinates 10 20) panelModel_panelAtRest
    [true, true, true, true, true, true, true] (by decide +kernel)
  obtain ⟨tr, s', hx⟩ := recoverPlay_exec (x := savedOnly) (by decide +kernel)
  refine ⟨?_, by decide +kernel⟩
  exact recovered_consistent GLib.small_readsBack PolicyFormat.small_sixDecimals
    Common.small_unlocated placedAtZero_consistent hrun hx

/-- A first commit is stopped before it writes `location.ini`, and a second one after it has
overwritten the journal of the first. -/
def overwrittenJournal : JournalWorld :=
  stopped (typedCoordinates 30 40) [true, true, true, true]
    (stopped (typedCoordinates 10 20) [true, true, true, true, true, true, true] placedAtZero)

/-- Recovery discards the second journal: the policy is at the place of the first commit, and
`location.ini` is not. -/
theorem recovered_consistent_counterexample :
    ¬ ∀ (x₀ : JournalWorld) (pairs : Set LocalityPair) (x y : JournalWorld) (s s' : Memory)
      (tr : List (Event (Sys (Option LocationMetadata)) JournalWorld)),
      (smallLocality x₀).Consistent →
      JournalRun x₀ pairs x →
      (locationMetadataRecover GLib.small s).Exec
        (journalMachine Common.small PolicyFormat.small GLib.small 1 JournalRemoved) x tr true s' y →
      (smallLocality y).Consistent ∧
        ((smallLocality y).place,
          (smallLocality y).ini) ∈ pairs := by
  intro h
  have hstart : JournalRun placedAtZero _ placedAtZero := .start
  have hfirst := hstart.stopped (typedCoordinates 10 20) panelModel_panelAtRest
    [true, true, true, true, true, true, true] (by decide +kernel)
  have hrun :=
    hfirst.stopped (typedCoordinates 30 40) panelModel_panelAtRest [true, true, true, true]
    (by decide +kernel)
  obtain ⟨tr, s', hx⟩ := recoverPlay_exec (x := overwrittenJournal) (by decide +kernel)
  have hrecovered := h placedAtZero _ overwrittenJournal _ Memory.empty s' tr
    placedAtZero_consistent hrun hx
  have hini : (smallLocality (recoverPlay overwrittenJournal).2).ini =
      (.ok, ⟨[79], [], [], .finite 0, .finite 0⟩) := by decide +kernel
  have hplace : (smallLocality (recoverPlay overwrittenJournal).2).place =
      some (some (.finite 10, .finite 20)) := by decide +kernel
  rcases hrecovered.1.agrees with hmissing | ⟨record, c, hini', hplace', hclose⟩
  · exact absurd (hini.symm.trans hmissing) nofun
  · cases hini.symm.trans hini'
    cases hplace.symm.trans hplace'
    exact absurd hclose (by decide +kernel)

/-- The zone of the system is this one from now on. -/
def zoneChanged (zone : Text) (x : JournalWorld) : JournalWorld :=
  ({ x.1 with system := ⟨zone, true, false, false⟩ }, x.2)

/-- A commit cannot save the policy and cannot remove its journal, and the zone of the system
changes. -/
def failedJournal : JournalWorld :=
  zoneChanged [90] (stopped (typedCoordinates 10 20)
    [true, true, true, true, true, true, false, true, false, true] placedAtZero)

/-- The reconciliation then writes the new zone to `location.ini`. -/
def rewrittenBeside : JournalWorld :=
  stopped (.reconcile ⟨[90], true, false, false⟩ blankPanel)
    [true, true, true, true, true, true, true, true] failedJournal

/-- Recovery finds the journal and discards it. -/
theorem spent_journal_discarded_failed :
    ((smallLocality (recoverPlay rewrittenBeside).2).ini = (smallLocality rewrittenBeside).ini ∨
      (smallLocality (recoverPlay rewrittenBeside).2).place = some none ∧
        (smallLocality (recoverPlay rewrittenBeside).2).ini = FileView.missing) ∧
    (smallLocality rewrittenBeside).ini ≠ (smallLocality failedJournal).ini ∧
    (smallLocality rewrittenBeside).pending = (smallLocality failedJournal).pending := by
  have hstart : LocalityRun Common.small PolicyFormat.small GLib.small id SpentAllowed
      placedAtZero _ placedAtZero := .start
  have hcommit := hstart.stopped (typedCoordinates 10 20) panelModel_panelAtRest
    [true, true, true, true, true, true, false, true, false, true] (by decide +kernel)
  have hfailed : LocalityRun Common.small PolicyFormat.small GLib.small id SpentAllowed
      placedAtZero _ failedJournal := .elsewhere hcommit ⟨rfl, rfl, rfl⟩
  have hrun := hfailed.stopped (.reconcile ⟨[90], true, false, false⟩ blankPanel)
    panelModel_panelAtRest [true, true, true, true, true, true, true, true] (by decide +kernel)
  obtain ⟨tr, s', hx⟩ := recoverPlay_exec (x := rewrittenBeside) (by decide +kernel)
  refine ⟨?_, by decide +kernel, by decide +kernel⟩
  exact spent_journal_discarded GLib.small_readsBack PolicyFormat.small_sixDecimals
    Common.small_unlocated hrun (by decide +kernel) hx.cut

/-- A commit cannot remove its journal, and the zone of the system changes. -/
def keptJournal : JournalWorld :=
  zoneChanged [90] (stopped (typedCoordinates 10 20)
    [true, true, true, true, true, true, true, true, true, false, true, true] placedAtZero)

/-- The reconciliation writes the new zone to `location.ini`. -/
def rewrittenRecord : JournalWorld :=
  stopped (.reconcile ⟨[90], true, false, false⟩ blankPanel)
    [true, true, true, true, true, true, true, true] keptJournal

/-- Recovery then publishes the old journal, with the old zone. -/
theorem spent_journal_discarded_counterexample :
    ¬ ∀ (w₀ : World (FileState (Option TemporalPolicyV3)) (Option LocationMetadata))
      (pairs : Set LocalityPair) (x y : JournalWorld) (s : Memory)
      (tr : List (Event (Sys (Option LocationMetadata)) JournalWorld)),
      JournalRun (w₀, false) pairs x → x.2 = true →
      (locationMetadataRecover GLib.small s).Cut
        (journalMachine Common.small PolicyFormat.small GLib.small 1 JournalRemoved) x tr y →
      (smallLocality y).ini = (smallLocality x).ini ∨
        (smallLocality y).place = some none ∧ (smallLocality y).ini = FileView.missing := by
  intro h
  have hstart : JournalRun placedAtZero _ placedAtZero := .start
  have hcommit := hstart.stopped (typedCoordinates 10 20) panelModel_panelAtRest
    [true, true, true, true, true, true, true, true, true, false, true, true] (by decide +kernel)
  have hkept : JournalRun placedAtZero _ keptJournal := .elsewhere hcommit ⟨rfl, rfl, rfl⟩
  have hrun := hkept.stopped (.reconcile ⟨[90], true, false, false⟩ blankPanel)
    panelModel_panelAtRest [true, true, true, true, true, true, true, true] (by decide +kernel)
  obtain ⟨tr, s', hx⟩ := recoverPlay_exec (x := rewrittenRecord) (by decide +kernel)
  have hini : (smallLocality (recoverPlay rewrittenRecord).2).ini =
      (.ok, ⟨customCoordinates, [], [], .finite 10, .finite 20⟩) := by decide +kernel
  have hrewritten : (smallLocality rewrittenRecord).ini =
      (.ok, ⟨customCoordinates, [], [90], .finite 10, .finite 20⟩) := by decide +kernel
  rcases h placedAtZero.1 _ rewrittenRecord _ Memory.empty tr hrun (by decide +kernel) hx.cut with
    hsame | ⟨-, hmissing⟩
  · exact absurd (hini.symm.trans (hsame.trans hrewritten)) (by decide +kernel)
  · exact absurd (hini.symm.trans hmissing) (by decide +kernel)

end SystemSettings

import Mathlib.Order.Basic
import SystemSettings.Transition

/-!
# The policy file observer

`policy-file-observer.c`: a watch on the nearest existing directory above the
policy file, moved down as the directories of its path appear.

The directories of the path are numbered from the root: `0` always exists, and
`depth` is the directory of the file. The file system moves between any two
calls of the observer, and a watch reports what happens to the children of its
directory while it is active.
-/

namespace SystemSettings

/-! ## The observer among the files -/

/-- An undelivered event. -/
inductive MonitorEvent : Type where
  /-- one of its two files is the target -/
  | target
  /-- it is about another child of the watched directory -/
  | other
  deriving DecidableEq

/-- Who has called `bind_monitor`. -/
inductive BindCaller : Type where
  /-- `ss_policy_file_observer_new` -/
  | new
  /-- `retry_bind` -/
  | retry
  /-- `monitor_changed`, with its `target_event` and `old_exists` -/
  | monitorChanged (targetEvent oldExists : Bool)
  deriving DecidableEq

/-- Where the observer is in its code: the next call that it makes. -/
inductive ObserverPhase : Type where
  /-- it waits in the main loop -/
  | idle
  /-- `nearest_existing_directory` of `monitor_changed` looks at this directory -/
  | desired (targetEvent oldExists : Bool) (candidate : ℕ)
  /-- `nearest_existing_directory` of `bind_monitor` looks at this directory -/
  | bind (caller : BindCaller) (candidate : ℕ)
  /-- `g_file_monitor_directory` on this directory -/
  | monitor (caller : BindCaller) (directory : ℕ)
  /-- `g_file_query_exists` of `monitor_changed` -/
  | query (targetEvent oldExists rebound : Bool)
  /-- the callback -/
  | callback
  deriving DecidableEq

/-- The observer and the part of the file system that it looks at. -/
structure ObserverWorld : Type where
  /-- the directories up to this one exist -/
  existing : ℕ
  /-- the target exists -/
  target : Bool
  /-- the changes made to the target since the observer was created -/
  changes : ℕ
  /-- `watch_directory`, with an active `monitor` -/
  watch : Option ℕ
  /-- events of that monitor, oldest first -/
  events : List MonitorEvent
  /-- `target_exists` -/
  targetExists : Bool
  /-- `retry_id != 0` -/
  retry : Bool
  phase : ObserverPhase
  /-- the changes that had been made when the callback ran last -/
  seen : ℕ
  deriving DecidableEq

/-- What can happen next. -/
inductive ObserverAction : Type where
  /-- the next missing directory is made -/
  | createDirectory
  /-- a file is renamed onto the target -/
  | rename
  | delete
  /-- something happens to another child of the watched directory -/
  | stir
  /-- the oldest event is delivered -/
  | deliver
  /-- the retry timer fires -/
  | timer
  /-- the next call of the observer; a monitor may fail to start -/
  | call (started : Bool)
  deriving DecidableEq

variable (depth : ℕ)

/-! ## The functions, one call at a time -/

/-- What the watch reports of a change below this directory. -/
def ObserverWorld.report (s : ObserverWorld) (directory : ℕ) (event : MonitorEvent) :
    List MonitorEvent :=
  if s.watch = some directory then s.events ++ [event] else s.events

/-- `bind_monitor` returns. -/
def bindReturns (caller : BindCaller) (bound : Bool) (s : ObserverWorld) : ObserverWorld :=
  match caller with
  | .new => { s with retry := s.retry || !bound, phase := .idle }
  -- the source goes on, or is removed
  | .retry => { s with retry := !bound, phase := .idle }
  | .monitorChanged targetEvent oldExists =>
    { s with phase := .query targetEvent oldExists bound }

/-- `bind_monitor` after `g_file_monitor_directory`. -/
def monitorReturns (caller : BindCaller) (directory : ℕ) (started : Bool) (s : ObserverWorld) :
    ObserverWorld :=
  if started then
    -- the events of the old monitor go with it
    bindReturns caller true { s with watch := some directory, events := [], retry := false }
  else bindReturns caller false { s with retry := true }

/-- The next call of the observer. -/
def observerCall (started : Bool) (s : ObserverWorld) : Option ObserverWorld :=
  match s.phase with
  | .idle => none
  | .desired targetEvent oldExists candidate =>
    if candidate ≤ s.existing then
      if s.watch = some candidate then
        some { s with phase := .query targetEvent oldExists false }
      else some { s with phase := .bind (.monitorChanged targetEvent oldExists) depth }
    else some { s with phase := .desired targetEvent oldExists (candidate - 1) }
  | .bind caller candidate =>
    if candidate ≤ s.existing then
      if s.watch = some candidate then some (bindReturns caller true s)
      else some { s with phase := .monitor caller candidate }
    else some { s with phase := .bind caller (candidate - 1) }
  | .monitor caller directory => some (monitorReturns caller directory started s)
  | .query targetEvent oldExists rebound =>
    let notify := targetEvent || oldExists != s.target || (rebound && s.target)
    some { s with targetExists := s.target, phase := if notify then .callback else .idle }
  | .callback => some { s with seen := s.changes, phase := .idle }

/-- One step; `none` where the action cannot happen. -/
def observerStep (s : ObserverWorld) : ObserverAction → Option ObserverWorld
  | .createDirectory =>
    if s.existing < depth then
      some { s with existing := s.existing + 1, events := s.report s.existing .other }
    else none
  | .rename =>
    if s.existing = depth then
      some { s with
        target := true, changes := s.changes + 1, events := s.report depth .target }
    else none
  | .delete =>
    if s.target then
      some { s with
        target := false, changes := s.changes + 1, events := s.report depth .target }
    else none
  | .stir => s.watch.map fun _ => { s with events := s.events ++ [.other] }
  | .deliver =>
    match s.phase, s.events with
    | .idle, event :: events =>
      some { s with
        events := events, phase := .desired (event = .target) s.targetExists depth }
    | _, _ => none
  | .timer =>
    if s.phase = .idle ∧ s.retry = true then some { s with phase := .bind .retry depth } else none
  | .call started => observerCall depth started s

/-- `ss_policy_file_observer_new` has looked at the target and binds its monitor. -/
def ObserverWorld.Starts (s : ObserverWorld) : Prop :=
  ∃ existing target, existing ≤ depth ∧ (target = true → existing = depth) ∧
    s = ⟨existing, target, 0, none, [], target, false, .bind .new depth, 0⟩

/-! ## What the observer is for -/

/-- Nothing is under way. -/
def ObserverWorld.Quiescent (s : ObserverWorld) : Prop :=
  s.phase = .idle ∧ s.events = [] ∧ s.retry = false

/-- When nothing is under way and the directory of the target exists, it is
watched, and the callback has run since the last change of the target. -/
def ObserverWorld.Faithful (s : ObserverWorld) : Prop :=
  s.Quiescent → s.existing = depth → s.watch = some depth ∧ s.seen = s.changes

/-- A directory made between the last look of the observer and the start of its
watch: `new` returns with a watch on the root, and nothing is under way. -/
theorem observer_faithful_counterexample :
    ¬ ∀ s, Visits (observerStep 1) (ObserverWorld.Starts 1) (fun _ => True) s → s.Faithful 1 := by
  intro h
  have hstart : Visits (observerStep 1) (ObserverWorld.Starts 1) (fun _ => True)
      ⟨0, false, 0, none, [], false, false, .bind .new 1, 0⟩ :=
    .start ⟨0, false, by decide, nofun, rfl⟩ trivial
  have hend : Visits (observerStep 1) (ObserverWorld.Starts 1) (fun _ => True)
      ⟨1, false, 0, some 0, [], false, false, .idle, 0⟩ :=
    hstart.of_run [.call true, .createDirectory, .call true, .call true] rfl
  have hwatch := (h _ hend ⟨rfl, rfl, rfl⟩ rfl).1
  cases hwatch

end SystemSettings

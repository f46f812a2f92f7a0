import Mathlib.Logic.Function.Basic
import SystemSettings.Policy
import SystemSettings.Program

/-!
# The platform boundary

What the code keeps in memory and what it calls out to.

* `Memory`: the model handles and location-update tokens of one process.
* `Call`: the callbacks of `SsTemporalPolicyStore`, the locality lock and the
  two locality files, and the native settings and system services that the
  Linux code reads.
* `World`: everything durable or shared, and `World.respond`, the answer of the
  world to each call of a process. A Boolean decides whether a call that may
  fail does.

The policy document and the contents of the locality files are abstract types.
A `Storage` says how a policy is written to a document and read back.
-/

namespace SystemSettings

/-- A C string: its bytes up to the terminating NUL. A `char` array is read the
same way, and one without a NUL is as long as its capacity. -/
abbrev Text : Type := List UInt8

/-- A process. -/
abbrev Pid : Type := ℕ

/-! ## Memory -/

/-- `SsTemporalPolicyStore`: which callbacks are not `NULL`. -/
structure TemporalPolicyStore : Type where
  /-- `load` -/
  load : Bool
  /-- `save` -/
  save : Bool
  /-- `clear` -/
  clear : Bool
  /-- `begin_update` -/
  beginUpdate : Bool
  /-- `end_update` -/
  endUpdate : Bool
  /-- `compatibility_matches` -/
  compatibilityMatches : Bool
  deriving DecidableEq

/-- `ss_platform_temporal_policy_store` on Linux. -/
def platformTemporalPolicyStore : TemporalPolicyStore where
  load := true
  save := true
  clear := true
  beginUpdate := true
  endUpdate := true
  compatibilityMatches := true

/-- A store that offers locking, and what `init` asks of every store. -/
structure TemporalPolicyStore.Locking (store : TemporalPolicyStore) : Prop where
  /-- it can load -/
  load : store.load = true
  /-- it can save -/
  save : store.save = true
  /-- it can take the lock -/
  beginUpdate : store.beginUpdate = true
  /-- it can give the lock back -/
  endUpdate : store.endUpdate = true

theorem platformTemporalPolicyStore_locking : platformTemporalPolicyStore.Locking :=
  ⟨rfl, rfl, rfl, rfl⟩

/-- A model handle (`SsDateTimeModel`) of a process. -/
abbrev ModelId : Type := ℕ

/-- A location-update token of a process. -/
abbrev TokenId : Type := ℕ

/-- `SsDateTimeModelPrivate` -/
structure ModelPrivate : Type where
  /-- the committed policy -/
  policy : TemporalPolicyV3
  /-- the borrowed store -/
  store : TemporalPolicyStore
  /-- whether the policy came from an explicit document -/
  persistedPolicyPresent : Bool
  /-- inside the persist-before-publish boundary -/
  saving : Bool
  deriving DecidableEq

/-- `SsDateTimeLocationUpdate` -/
structure LocationUpdate : Type where
  /-- the model that opened the update -/
  model : Option ModelId
  /-- what the store held when the update began -/
  previousPolicy : TemporalPolicyV3
  /-- whether that was an explicit document -/
  previousPersistedPolicyPresent : Bool
  /-- begun and neither finished nor rolled back -/
  active : Bool
  deriving DecidableEq

/-- `SS_DATE_TIME_LOCATION_UPDATE_INIT` -/
def LocationUpdate.init : LocationUpdate := ⟨none, default, false, false⟩

/-- The model handles and tokens of one process. A handle whose `_private` is
`NULL` is `none`. -/
structure Memory : Type where
  /-- the private state behind each handle -/
  models : ModelId → Option ModelPrivate
  /-- the tokens -/
  tokens : TokenId → LocationUpdate

namespace Memory

/-- Every handle empty, every token zero-initialised. -/
def empty : Memory := ⟨fun _ => none, fun _ => LocationUpdate.init⟩

/-- Write the private state of a handle. -/
def setModel (s : Memory) (m : ModelId) (v : Option ModelPrivate) : Memory :=
  { s with models := Function.update s.models m v }

/-- Write a token. -/
def setToken (s : Memory) (t : TokenId) (u : LocationUpdate) : Memory :=
  { s with tokens := Function.update s.tokens t u }

@[simp] theorem setModel_self (s : Memory) (m : ModelId) (v : Option ModelPrivate) :
    (s.setModel m v).models m = v := Function.update_self ..

@[simp] theorem setModel_tokens (s : Memory) (m : ModelId) (v : Option ModelPrivate) :
    (s.setModel m v).tokens = s.tokens := rfl

@[simp] theorem setToken_self (s : Memory) (t : TokenId) (u : LocationUpdate) :
    (s.setToken t u).tokens t = u := Function.update_self ..

@[simp] theorem setToken_models (s : Memory) (t : TokenId) (u : LocationUpdate) :
    (s.setToken t u).models = s.models := rfl

theorem setToken_ne {s : Memory} {t t' : TokenId} (u : LocationUpdate) (h : t' ≠ t) :
    (s.setToken t u).tokens t' = s.tokens t' := Function.update_of_ne h ..

@[simp] theorem setModel_setModel (s : Memory) (m : ModelId) (v v' : Option ModelPrivate) :
    (s.setModel m v).setModel m v' = s.setModel m v' := by
  simp [setModel]

@[simp] theorem setToken_setToken (s : Memory) (t : TokenId) (u u' : LocationUpdate) :
    (s.setToken t u).setToken t u' = s.setToken t u' := by
  simp [setToken]

theorem setToken_setModel (s : Memory) (m : ModelId) (v : Option ModelPrivate) (t : TokenId)
    (u : LocationUpdate) :
    (s.setToken t u).setModel m v = (s.setModel m v).setToken t u := rfl

@[simp] theorem setModel_eq_self {s : Memory} {m : ModelId} {v : Option ModelPrivate}
    (h : s.models m = v) : s.setModel m v = s := by
  subst h
  simp [setModel]

end Memory

/-! ## Calls -/

/-- The two locality files. -/
inductive LocalityFile : Type where
  /-- `location.ini` -/
  | locationIni
  /-- `location.pending`, the journal -/
  | locationPending
  deriving DecidableEq

/-- What reading a path finds. -/
inductive FileState (B : Type) : Type where
  /-- no such file -/
  | absent
  /-- a file that cannot be read -/
  | unreadable
  /-- a file with these contents -/
  | contents (data : B)
  deriving DecidableEq

/-- `SsSystemTimeState` -/
structure SystemTimeState : Type where
  /-- the zone the system service reports -/
  timezone : Text
  /-- the service answers -/
  available : Bool
  /-- network time can be controlled -/
  canNtp : Bool
  /-- network time is on -/
  ntpEnabled : Bool
  deriving DecidableEq

/-- `SsRegionalContext` -/
structure RegionalContext : Type where
  /-- the zone `/etc/localtime` names -/
  timezoneId : Text
  /-- the readable tail of it -/
  timezoneCity : Text
  /-- tzdata's representative latitude -/
  referenceLatitude : Double
  /-- tzdata's representative longitude -/
  referenceLongitude : Double
  /-- whether tzdata has one -/
  hasReferenceCoordinates : Bool
  deriving DecidableEq

/-- The zeroed context a failed detection leaves. -/
def RegionalContext.zero : RegionalContext := ⟨[], [], default, default, false⟩

/-- The calls of the Linux code. -/
inductive Call (B : Type) : Type where
  /-- `store->load` -/
  | load
  /-- `store->save` -/
  | save (policy : TemporalPolicyV3)
  /-- `store->clear` -/
  | clear
  /-- `store->begin_update` -/
  | beginUpdate
  /-- `store->end_update` -/
  | endUpdate
  /-- `store->compatibility_matches` -/
  | compatibilityMatches (policy : TemporalPolicyV3)
  /-- an allocation that may fail -/
  | calloc
  /-- `ss_location_metadata_transaction_begin` -/
  | transactionBegin
  /-- `ss_location_metadata_transaction_end` -/
  | transactionEnd
  /-- read a locality file -/
  | readFile (file : LocalityFile)
  /-- durably replace a locality file -/
  | writeFile (file : LocalityFile) (data : B)
  /-- durably remove a locality file -/
  | unlinkFile (file : LocalityFile)
  /-- the Cinnamon key `clock-use-24h` -/
  | clockUse24h
  /-- the Cinnamon key `clock-show-seconds` -/
  | clockShowSeconds
  /-- `ss_system_time_service_read` -/
  | readSystemTime
  /-- `ss_regional_context_detect` -/
  | detectRegional
  deriving DecidableEq

/-- What each call answers. `none` is a failed read. -/
@[reducible] def Call.Answer {B : Type} : Call B → Type
  | load => Option (TemporalPolicyV3 × Bool)
  | save _ => Bool
  | clear => Bool
  | beginUpdate => Bool
  | endUpdate => Unit
  | compatibilityMatches _ => Bool
  | calloc => Bool
  | transactionBegin => Bool
  | transactionEnd => Unit
  | readFile _ => FileState B
  | writeFile _ _ => Bool
  | unlinkFile _ => Bool
  | clockUse24h => Option Bool
  | clockShowSeconds => Option Bool
  | readSystemTime => Option SystemTimeState
  | detectRegional => Option RegionalContext

/-- A call that writes or removes a file or the policy. -/
def Call.IsWrite {B : Type} : Call B → Prop
  | save _ | clear | writeFile _ _ | unlinkFile _ => True
  | _ => False

/-- The calls as a signature. -/
abbrev Sys (B : Type) : Signature := ⟨Call B, Call.Answer⟩

instance {B : Type} : ∀ c, Nonempty ((Sys B).Resp c)
  | .load | .clockUse24h | .clockShowSeconds | .readSystemTime | .detectRegional => ⟨none⟩
  | .save _ | .clear | .beginUpdate | .compatibilityMatches _ | .calloc | .transactionBegin
  | .writeFile _ _ | .unlinkFile _ => ⟨true⟩
  | .endUpdate | .transactionEnd => ⟨()⟩
  | .readFile _ => ⟨.absent⟩

/-- Code of one process. -/
abbrev SysM (B : Type) : Type → Type := Action (Sys B) Memory

section Calls

variable {B : Type}

/-- `store->load` -/
def storeLoad : SysM B (Option (TemporalPolicyV3 × Bool)) := Action.call (S := Sys B) .load

/-- `store->save` -/
def storeSave (policy : TemporalPolicyV3) : SysM B Bool := Action.call (S := Sys B) (.save policy)

/-- `store->clear` -/
def storeClear : SysM B Bool := Action.call (S := Sys B) .clear

/-- `store->begin_update` -/
def storeBeginUpdate : SysM B Bool := Action.call (S := Sys B) .beginUpdate

/-- `store->end_update` -/
def storeEndUpdate : SysM B Unit := Action.call (S := Sys B) .endUpdate

/-- `store->compatibility_matches` -/
def storeCompatibilityMatches (policy : TemporalPolicyV3) : SysM B Bool :=
  Action.call (S := Sys B) (.compatibilityMatches policy)

/-- An allocation. -/
def calloc : SysM B Bool := Action.call (S := Sys B) .calloc

/-- `ss_location_metadata_transaction_begin` -/
def locationMetadataTransactionBegin : SysM B Bool := Action.call (S := Sys B) .transactionBegin

/-- `ss_location_metadata_transaction_end` -/
def locationMetadataTransactionEnd : SysM B Unit := Action.call (S := Sys B) .transactionEnd

/-- Read a locality file. -/
def readFile (f : LocalityFile) : SysM B (FileState B) := Action.call (S := Sys B) (.readFile f)

/-- Durably replace a locality file. -/
def writeFile (f : LocalityFile) (data : B) : SysM B Bool :=
  Action.call (S := Sys B) (.writeFile f data)

/-- `infiltratr_unlink_durable` on a locality file. -/
def unlinkFile (f : LocalityFile) : SysM B Bool := Action.call (S := Sys B) (.unlinkFile f)

/-- The Cinnamon key `clock-use-24h`. -/
def cinnamonClockUse24h : SysM B (Option Bool) := Action.call (S := Sys B) .clockUse24h

/-- The Cinnamon key `clock-show-seconds`. -/
def cinnamonClockShowSeconds : SysM B (Option Bool) :=
  Action.call (S := Sys B) .clockShowSeconds

/-- `ss_linux_date_time_panel_read_system_time` -/
def readSystemTime : SysM B (Option SystemTimeState) := Action.call (S := Sys B) .readSystemTime

/-- `ss_regional_context_detect` -/
def regionalContextDetect : SysM B (Option RegionalContext) :=
  Action.call (S := Sys B) .detectRegional

/-- Read the private state behind a handle. -/
def readModel (m : ModelId) : SysM B (Option ModelPrivate) := fun s => .ret (s.models m) s

/-- Write the private state behind a handle. -/
def writeModel (m : ModelId) (v : Option ModelPrivate) : SysM B Unit :=
  Action.modify fun s => s.setModel m v

/-- Assign fields of the private state behind a handle. -/
def modifyModel (m : ModelId) (f : ModelPrivate → ModelPrivate) : SysM B Unit :=
  Action.modify fun s => s.setModel m ((s.models m).map f)

/-- Read a token. -/
def readToken (t : TokenId) : SysM B LocationUpdate := fun s => .ret (s.tokens t) s

/-- Write a token. -/
def writeToken (t : TokenId) (u : LocationUpdate) : SysM B Unit :=
  Action.modify fun s => s.setToken t u

/-- Assign fields of a token. -/
def modifyToken (t : TokenId) (f : LocationUpdate → LocationUpdate) : SysM B Unit :=
  Action.modify fun s => s.setToken t (f (s.tokens t))

variable (s : Memory)

@[simp] theorem storeLoad_run : (storeLoad : SysM B _) s = .call .load s .ret := rfl

@[simp] theorem storeSave_run (policy : TemporalPolicyV3) :
    (storeSave policy : SysM B _) s = .call (.save policy) s .ret := rfl

@[simp] theorem storeClear_run : (storeClear : SysM B _) s = .call .clear s .ret := rfl

@[simp] theorem storeBeginUpdate_run :
    (storeBeginUpdate : SysM B _) s = .call .beginUpdate s .ret := rfl

@[simp] theorem storeEndUpdate_run :
    (storeEndUpdate : SysM B _) s = .call .endUpdate s .ret := rfl

@[simp] theorem storeCompatibilityMatches_run (policy : TemporalPolicyV3) :
    (storeCompatibilityMatches policy : SysM B _) s =
      .call (.compatibilityMatches policy) s .ret := rfl

@[simp] theorem calloc_run : (calloc : SysM B _) s = .call .calloc s .ret := rfl

@[simp] theorem locationMetadataTransactionBegin_run :
    (locationMetadataTransactionBegin : SysM B _) s = .call .transactionBegin s .ret := rfl

@[simp] theorem locationMetadataTransactionEnd_run :
    (locationMetadataTransactionEnd : SysM B _) s = .call .transactionEnd s .ret := rfl

@[simp] theorem readFile_run (f : LocalityFile) :
    (readFile f : SysM B _) s = .call (.readFile f) s .ret := rfl

@[simp] theorem writeFile_run (f : LocalityFile) (data : B) :
    writeFile f data s = .call (.writeFile f data) s .ret := rfl

@[simp] theorem unlinkFile_run (f : LocalityFile) :
    (unlinkFile f : SysM B _) s = .call (.unlinkFile f) s .ret := rfl

@[simp] theorem cinnamonClockUse24h_run :
    (cinnamonClockUse24h : SysM B _) s = .call .clockUse24h s .ret := rfl

@[simp] theorem cinnamonClockShowSeconds_run :
    (cinnamonClockShowSeconds : SysM B _) s = .call .clockShowSeconds s .ret := rfl

@[simp] theorem readSystemTime_run :
    (readSystemTime : SysM B _) s = .call .readSystemTime s .ret := rfl

@[simp] theorem regionalContextDetect_run :
    (regionalContextDetect : SysM B _) s = .call .detectRegional s .ret := rfl

@[simp] theorem readModel_run (m : ModelId) :
    (readModel m : SysM B _) s = .ret (s.models m) s := rfl

@[simp] theorem writeModel_run (m : ModelId) (v : Option ModelPrivate) :
    (writeModel m v : SysM B _) s = .ret () (s.setModel m v) := rfl

@[simp] theorem modifyModel_run (m : ModelId) (f : ModelPrivate → ModelPrivate) :
    (modifyModel m f : SysM B _) s = .ret () (s.setModel m ((s.models m).map f)) := rfl

@[simp] theorem readToken_run (t : TokenId) :
    (readToken t : SysM B _) s = .ret (s.tokens t) s := rfl

@[simp] theorem writeToken_run (t : TokenId) (u : LocationUpdate) :
    (writeToken t u : SysM B _) s = .ret () (s.setToken t u) := rfl

@[simp] theorem modifyToken_run (t : TokenId) (f : LocationUpdate → LocationUpdate) :
    (modifyToken t f : SysM B _) s = .ret () (s.setToken t (f (s.tokens t))) := rfl

end Calls

/-! ## The world -/

/-- The Cinnamon settings the temporal policy mirrors. -/
structure Native : Type where
  /-- `clock-use-24h` -/
  clockUse24h : Bool
  /-- `clock-show-seconds` -/
  clockShowSeconds : Bool
  deriving DecidableEq

/-- `load_cinnamon_defaults` -/
def loadCinnamonDefaults (K : Common) (native : Option Native) (policy : TemporalPolicyV3) :
    TemporalPolicyV3 :=
  match native with
  | none => policy
  | some native =>
    { policy with
      clockMode := K.copyClockMode (if native.clockUse24h then "standard-24" else "standard-12")
      showSeconds := native.clockShowSeconds }

/-- What `platform_load` reports when there is no policy. -/
def platformFallback (K : Common) (native : Option Native) : TemporalPolicyV3 :=
  loadCinnamonDefaults K native (K.policyDefault.getD default)

/-- How a policy is kept in a durable document. -/
structure Storage (D : Type) : Type where
  /-- no document -/
  absent : D
  /-- what `load` reports, given the native settings; `none` is a failure -/
  load : Option Native → D → Option (TemporalPolicyV3 × Bool)
  /-- the document a saved policy leaves; `none` when the policy is refused -/
  save : TemporalPolicyV3 → Option D

/-- A storage that keeps policies exactly as given. Without a document it
reports the platform's fallback. -/
def Storage.exact (fallback : Option Native → TemporalPolicyV3) :
    Storage (Option TemporalPolicyV3) where
  absent := none
  load native document := some (document.getD (fallback native), document.isSome)
  save policy := some (some policy)

/-- Everything outside the processes. -/
structure World (D B : Type) : Type where
  /-- the policy document -/
  document : D
  /-- who holds the policy update lock -/
  policyLock : Option Pid
  /-- who holds the locality transaction lock -/
  localityLock : Option Pid
  /-- `location.ini` -/
  locationIni : FileState B
  /-- `location.pending` -/
  locationPending : FileState B
  /-- the Cinnamon settings, when that schema is installed -/
  native : Option Native
  /-- what the system service reports -/
  system : SystemTimeState
  /-- what the regional detection finds -/
  regional : RegionalContext

namespace World

variable {D B : Type}

/-- The contents of a locality file. -/
def file (w : World D B) : LocalityFile → FileState B
  | .locationIni => w.locationIni
  | .locationPending => w.locationPending

/-- Replace a locality file. -/
def setFile (w : World D B) : LocalityFile → FileState B → World D B
  | .locationIni, f => { w with locationIni := f }
  | .locationPending, f => { w with locationPending := f }

/-- The answer of the world to a call of process `p`, and the world after it.
With `ok = false` a call that may fail does, and changes nothing. Both locks are
exclusive and not re-entrant, releasing a lock that is not held does nothing,
and a file or document is replaced or removed at once. -/
def respond (St : Storage D) (p : Pid) (ok : Bool) (w : World D B) :
    (c : Call B) → c.Answer × World D B
  | .load => (if ok then St.load w.native w.document else none, w)
  | .save policy =>
    match if ok then St.save policy else none with
    | some d => (true, { w with document := d })
    | none => (false, w)
  | .clear => if ok then (true, { w with document := St.absent }) else (false, w)
  | .beginUpdate =>
    if ok = true ∧ w.policyLock = none then (true, { w with policyLock := some p })
    else (false, w)
  | .endUpdate =>
    ((), if w.policyLock = some p then { w with policyLock := none } else w)
  | .compatibilityMatches _ => (ok, w)
  | .calloc => (ok, w)
  | .transactionBegin =>
    if ok = true ∧ w.localityLock = none then (true, { w with localityLock := some p })
    else (false, w)
  | .transactionEnd =>
    ((), if w.localityLock = some p then { w with localityLock := none } else w)
  | .readFile f => (if ok then w.file f else .unreadable, w)
  | .writeFile f data => if ok then (true, w.setFile f (.contents data)) else (false, w)
  | .unlinkFile f => if ok then (true, w.setFile f .absent) else (false, w)
  | .clockUse24h => (if ok then w.native.map Native.clockUse24h else none, w)
  | .clockShowSeconds => (if ok then w.native.map Native.clockShowSeconds else none, w)
  | .readSystemTime => (if ok then some w.system else none, w)
  | .detectRegional => (if ok then some w.regional else none, w)

/-- Only a write changes the policy document or the locality files. -/
theorem respond_of_not_write {c : Call B} (hc : ¬ c.IsWrite) (St : Storage D) (p : Pid) (ok : Bool)
    (w : World D B) : (respond St p ok w c).2.document = w.document ∧
      (respond St p ok w c).2.locationIni = w.locationIni ∧
      (respond St p ok w c).2.locationPending = w.locationPending := by
  cases c with
  | save | clear | writeFile | unlinkFile => exact absurd trivial hc
  | beginUpdate | endUpdate | transactionBegin | transactionEnd =>
    simp only [respond]
    split <;> exact ⟨rfl, rfl, rfl⟩
  | _ => exact ⟨rfl, rfl, rfl⟩

/-- One call of process `p`. Before it the rest of the system may change the
world within `R`. -/
def Step (St : Storage D) (p : Pid) (R : World D B → World D B → Prop) (w : World D B)
    (e : Event (Sys B) (World D B)) : Prop :=
  ∃ w₁ ok, R w w₁ ∧ e.resp = (respond St p ok w₁ e.cmd).1 ∧
    e.world = (respond St p ok w₁ e.cmd).2

/-- Process `p` against the world. -/
def machine (St : Storage D) (p : Pid) (R : World D B → World D B → Prop) :
    Machine (Sys B) Memory (World D B) :=
  Prog.quiet (Step St p R)

/-- Look at each answer the world can give. -/
theorem wp_call {α : Type} {St : Storage D} {p : Pid} {R : World D B → World D B → Prop}
    {c : Call B} {s : Memory} {k : c.Answer → Memory → Prog (Sys B) Memory α}
    {Q : List (Event (Sys B) (World D B)) → α → Memory → World D B → Prop} {w : World D B}
    (h : ∀ w₁ ok, R w w₁ → (k (respond St p ok w₁ c).1 s).wp (machine St p R)
      (fun tr => Q (⟨c, (respond St p ok w₁ c).1, (respond St p ok w₁ c).2⟩ :: tr))
      (respond St p ok w₁ c).2) :
    (Prog.call (S := Sys B) c s k).wp (machine St p R) Q w := by
  rintro r s₁ w' ⟨rfl, w₁, ok, hR, hr, hw⟩
  simp only at hr hw
  subst hr hw
  exact h w₁ ok hR

/-- Play a program of process `p` with nobody else about. -/
def play {α : Type} (St : Storage D) (p : Pid) (prog : Prog (Sys B) Memory α) (w : World D B)
    (oks : List Bool) : List (Event (Sys B) (World D B)) × α × Memory × World D B :=
  prog.play (respond St p) w oks

theorem play_exec {α : Type} {R : World D B → World D B → Prop} (St : Storage D) (p : Pid)
    (hR : ∀ w, R w w) (prog : Prog (Sys B) Memory α) (w : World D B) (oks : List Bool) :
    prog.Exec (machine St p R) w (play St p prog w oks).1 (play St p prog w oks).2.1
      (play St p prog w oks).2.2.1 (play St p prog w oks).2.2.2 :=
  Prog.play_exec (fun ok w _ => ⟨w, ok, hR w, rfl, rfl⟩) prog w oks

/-- A world with a policy document and nothing else. -/
def fresh (document : D) : World D B where
  document := document
  policyLock := none
  localityLock := none
  locationIni := .absent
  locationPending := .absent
  native := none
  system := ⟨[], false, false, false⟩
  regional := RegionalContext.zero

end World

end SystemSettings

import SystemSettings.Platform

/-!
# The Date & Time model

The operations of `date-time-model.c` on one model handle, as the code runs
them. The four setters are one helper, `setField`, at four assignments: validate,
`begin_candidate`, assign one field, `save_candidate`.

Null arguments other than an empty model handle are left out.
-/

namespace SystemSettings

variable {B : Type} (K : Common)

/-- `release_update_lock` -/
def releaseUpdateLock (m : ModelId) : SysM B Unit := do
  match ← readModel m with
  | none => pure ()
  | some priv =>
    Action.when priv.saving do
      Action.when (priv.store.beginUpdate && priv.store.endUpdate) storeEndUpdate
      modifyModel m fun priv => { priv with saving := false }

/-- `begin_candidate`: the candidate and whether it was persisted. -/
def beginCandidate (m : ModelId) : SysM B (Option (TemporalPolicyV3 × Bool)) := do
  match ← readModel m with
  | none => pure none
  | some priv =>
    if !priv.store.save || priv.saving then
      pure none
    else
      modifyModel m fun priv => { priv with saving := true }
      if priv.store.beginUpdate then
        if ← storeBeginUpdate then
          if priv.store.load then
            match ← storeLoad with
            | some (candidate, found) => pure (some (candidate, found))
            | none =>
              releaseUpdateLock m
              pure none
          else
            releaseUpdateLock m
            pure none
        else
          modifyModel m fun priv => { priv with saving := false }
          pure none
      else
        pure (some (priv.policy, priv.persistedPolicyPresent))

/-- `save_candidate` -/
def saveCandidate (m : ModelId) (candidate : TemporalPolicyV3) : SysM B Bool := do
  match ← readModel m with
  | none => pure false
  | some priv =>
    if !priv.saving || !priv.store.save then
      pure false
    else
      let saved ← storeSave candidate
      releaseUpdateLock m
      if saved then
        modifyModel m fun priv =>
          { priv with policy := candidate, persistedPolicyPresent := true }
        pure true
      else
        pure false

/-- `ss_date_time_model_reload` -/
def modelReload (m : ModelId) : SysM B Bool := do
  match ← readModel m with
  | none => pure false
  | some priv =>
    if !priv.store.load || priv.saving || K.policyDefault.isNone then
      pure false
    else
      match ← storeLoad with
      | some (loaded, found) =>
        modifyModel m fun priv =>
          { priv with policy := loaded, persistedPolicyPresent := found }
        pure true
      | none => pure false

/-- `ss_date_time_model_clear` -/
def modelClear (m : ModelId) : SysM B Unit := do
  releaseUpdateLock m
  writeModel m none

/-- `ss_date_time_model_init` -/
def modelInit (m : ModelId) (store : TemporalPolicyStore) : SysM B Bool := do
  let existing ← readModel m
  if existing.isSome || !store.load || !store.save || store.beginUpdate != store.endUpdate then
    pure false
  else
    if ← calloc then
      match K.policyDefault with
      | none => pure false
      | some policy =>
        writeModel m (some ⟨policy, store, false, false⟩)
        if ← modelReload K m then
          pure true
        else
          modelClear m
          pure false
    else
      pure false

/-- `ss_date_time_model_normalize_unpersisted_clock_mode` -/
def modelNormalizeUnpersistedClockMode (m : ModelId) (clockMode : String) : SysM B Bool := do
  match ← readModel m, validClockMode K clockMode with
  | some priv, some info =>
    if priv.saving || priv.persistedPolicyPresent then
      pure false
    else
      modifyModel m fun priv => { priv with policy := assignClockMode K info priv.policy }
      pure true
  | _, _ => pure false

/-! ## Setters -/

/-- A setter: begin a candidate, change it with `edit`, save it. -/
def setField (m : ModelId) (edit : TemporalPolicyV3 → TemporalPolicyV3) : SysM B Bool := do
  match ← beginCandidate m with
  | none => pure false
  | some (candidate, _) => saveCandidate m (edit candidate)

/-- `ss_date_time_model_set_clock_mode` -/
def modelSetClockMode (m : ModelId) (clockMode : String) : SysM B Bool :=
  match validClockMode K clockMode with
  | none => pure false
  | some info => setField m (assignClockMode K info)

/-- `ss_date_time_model_set_calendar` -/
def modelSetCalendar (m : ModelId) (calendarId : String) : SysM B Bool :=
  if validCalendar K calendarId then setField m (assignCalendar K calendarId) else pure false

/-- `ss_date_time_model_set_show_seconds` -/
def modelSetShowSeconds (m : ModelId) (showSeconds : Bool) : SysM B Bool :=
  setField m (assignShowSeconds showSeconds)

/-- `ss_date_time_model_set_location` -/
def modelSetLocation (m : ModelId) (configured : Bool) (latitude longitude : Double) :
    SysM B Bool :=
  if validLocation latitude longitude then
    setField m (assignLocation configured latitude longitude)
  else pure false

/-! ## Location updates -/

/-- `ss_date_time_model_begin_location_update` -/
def modelBeginLocationUpdate (m : ModelId) (configured : Bool) (latitude longitude : Double)
    (t : TokenId) : SysM B Bool := do
  match ← readModel m with
  | none => pure false
  | some priv =>
    let update ← readToken t
    if update.active || !validLocation latitude longitude || !priv.store.beginUpdate ||
        !priv.store.endUpdate || !priv.store.clear then
      pure false
    else
      match ← beginCandidate m with
      | none => pure false
      | some (previous, found) =>
        writeToken t ⟨some m, previous, found, false⟩
        let candidate := assignLocation configured latitude longitude previous
        if ← storeSave candidate then
          -- durable now, but the update stays open: `saving` is kept
          modifyModel m fun priv =>
            { priv with policy := candidate, persistedPolicyPresent := true }
          modifyToken t fun update => { update with active := true }
          pure true
        else
          releaseUpdateLock m
          modifyToken t fun update => { update with model := none }
          pure false

/-- The guard shared by `finish` and `rollback`. -/
def updateOpen (m : ModelId) (update : LocationUpdate) (priv : ModelPrivate) : Bool :=
  update.active && update.model == some m && priv.saving

/-- `ss_date_time_model_finish_location_update` -/
def modelFinishLocationUpdate (m : ModelId) (t : TokenId) : SysM B Bool := do
  match ← readModel m with
  | none => pure false
  | some priv =>
    let update ← readToken t
    if updateOpen m update priv then
      releaseUpdateLock m
      modifyToken t fun update => { update with active := false, model := none }
      pure true
    else
      pure false

/-- `ss_date_time_model_rollback_location_update` -/
def modelRollbackLocationUpdate (m : ModelId) (t : TokenId) : SysM B Bool := do
  match ← readModel m with
  | none => pure false
  | some priv =>
    let update ← readToken t
    if updateOpen m update priv then
      let restored ← (
        if update.previousPersistedPolicyPresent then storeSave update.previousPolicy
        else if priv.store.clear then storeClear else pure false)
      let update ← readToken t
      Action.when restored do
        modifyModel m fun priv =>
          { priv with
            policy := update.previousPolicy
            persistedPolicyPresent := update.previousPersistedPolicyPresent }
      releaseUpdateLock m
      modifyToken t fun update => { update with active := false, model := none }
      pure restored
    else
      pure false

/-! ## The operations as a type -/

/-- A call on one model handle after its `init`. -/
inductive ModelOp : Type where
  /-- `ss_date_time_model_reload` -/
  | reload
  /-- `ss_date_time_model_normalize_unpersisted_clock_mode` -/
  | normalize (clockMode : String)
  /-- `ss_date_time_model_set_clock_mode` -/
  | setClockMode (clockMode : String)
  /-- `ss_date_time_model_set_calendar` -/
  | setCalendar (calendarId : String)
  /-- `ss_date_time_model_set_show_seconds` -/
  | setShowSeconds (showSeconds : Bool)
  /-- `ss_date_time_model_set_location` -/
  | setLocation (configured : Bool) (latitude longitude : Double)
  /-- `ss_date_time_model_begin_location_update` -/
  | beginLocationUpdate (configured : Bool) (latitude longitude : Double) (t : TokenId)
  /-- `ss_date_time_model_finish_location_update` -/
  | finishLocationUpdate (t : TokenId)
  /-- `ss_date_time_model_rollback_location_update` -/
  | rollbackLocationUpdate (t : TokenId)
  deriving DecidableEq

/-- Run an operation on the handle `m`. -/
def ModelOp.run (m : ModelId) : ModelOp → SysM B Bool
  | reload => modelReload K m
  | normalize clockMode => modelNormalizeUnpersistedClockMode K m clockMode
  | setClockMode clockMode => modelSetClockMode K m clockMode
  | setCalendar calendarId => modelSetCalendar K m calendarId
  | setShowSeconds showSeconds => modelSetShowSeconds m showSeconds
  | setLocation configured latitude longitude => modelSetLocation m configured latitude longitude
  | beginLocationUpdate configured latitude longitude t =>
    modelBeginLocationUpdate m configured latitude longitude t
  | finishLocationUpdate t => modelFinishLocationUpdate m t
  | rollbackLocationUpdate t => modelRollbackLocationUpdate m t

end SystemSettings

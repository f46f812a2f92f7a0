import Mathlib.Algebra.Group.Nat.Defs
import Mathlib.Data.List.Count
import SystemSettings.Transition

/-!
# The timedated service

`system-time-service.c`: the adapter that sends date and time requests to
timedated. Its memory is counted: one reference for the owner, one for every
call that timedated has not answered, until the completion of that call has
returned.

A completion and the change callback are code of the owner. While they run they
may send requests and free the service, and a main loop they run may deliver
replies and signals; the stack says which of them are running.
-/

namespace SystemSettings

/-! ## The state -/

/-- `SsSystemTimeResult` -/
inductive SystemTimeResult : Type where
  | ok
  | invalidArgument
  | unavailable
  | cancelled
  | permissionDenied
  | transportError
  | protocolError
  deriving DecidableEq

/-- `SsSystemTimeService`, its callback reduced to whether there is one. -/
structure SystemTimeService : Type where
  references : UInt32
  /-- `proxy != NULL` -/
  proxy : Bool
  /-- `changed_callback != NULL` -/
  changedCallback : Bool

/-- What a pointer to the service points to. -/
inductive ServiceMemory : Type where
  /-- the pointer is `NULL`: no service has been made -/
  | absent
  | live (service : SystemTimeService)
  /-- after `g_free` -/
  | released

/-- `SsSystemTimeCall`, with the number of the request it belongs to. -/
structure SystemTimeCall : Type where
  number : ℕ
  /-- `callback != NULL` -/
  callback : Bool
  deriving DecidableEq

/-- Code of the owner that is running. -/
inductive ServiceFrame : Type where
  /-- the ready callback of `new_proxy_finished` -/
  | ready
  /-- the completion that `call_finished` calls for this call -/
  | completion (number : ℕ)
  /-- the completion that `complete_immediately` calls for this request -/
  | refusal (number : ℕ)
  /-- the change callback that `emit_changed` calls -/
  | changed
  deriving DecidableEq

/-- What has happened. -/
inductive ServiceEvent : Type where
  /-- timedated has been asked -/
  | accepted (number : ℕ)
  | refused (number : ℕ)
  /-- the completion of a request has been called, if it has one -/
  | completed (number : ℕ) (result : SystemTimeResult)
  /-- the completion of an accepted call has returned -/
  | returned (number : ℕ)
  /-- the change callback has been called -/
  | changed
  /-- the owner has freed the service -/
  | freed
  /-- the memory of the service has been given back -/
  | released
  /-- memory that was given back has been touched -/
  | touched
  deriving DecidableEq

/-- The service and everything around it. -/
structure ServiceSession : Type where
  memory : ServiceMemory
  /-- the owner has the service and has not freed it -/
  owned : Bool
  /-- accepted calls that are not answered -/
  pending : List SystemTimeCall
  /-- innermost first -/
  stack : List ServiceFrame
  /-- the number of the next request -/
  nextNumber : ℕ
  /-- newest first -/
  history : List ServiceEvent

/-- Before a service is made. -/
def ServiceSession.start : ServiceSession := ⟨.absent, false, [], [], 0, []⟩

/-- What can happen next. -/
inductive ServiceAction : Type where
  /-- a proxy arrives, for a caller with or without a ready callback -/
  | proxyReady (callback : Bool)
  /-- one of the three mutations; `valid` says that its arguments pass -/
  | request (valid callback : Bool)
  /-- timedated answers -/
  | reply (call : SystemTimeCall) (result : SystemTimeResult)
  /-- a property or the owner of the bus name has changed -/
  | signal
  | setChangedCallback (callback : Bool)
  | free
  /-- the innermost callback returns -/
  | callbackReturns

/-! ## The functions -/

/-- `service_unref` -/
def serviceUnref (s : ServiceSession) : ServiceSession :=
  match s.memory with
  | .absent => s
  | .live service =>
    let references := service.references - 1
    if references ≠ 0 then { s with memory := .live { service with references := references } }
    else { s with memory := .released, history := .released :: s.history }
  | .released => { s with history := .touched :: s.history }

/-- `ss_system_time_service_free` -/
def serviceFree (s : ServiceSession) : ServiceSession :=
  match s.memory with
  | .absent => s
  | .live service =>
    serviceUnref { s with
      memory := .live { service with changedCallback := false }
      owned := false
      history := .freed :: s.history }
  | .released => { s with history := .touched :: s.history }

/-- `service_from_proxy`, and the ready callback if there is one. -/
def newProxyFinished (callback : Bool) (s : ServiceSession) : ServiceSession :=
  let s := { s with memory := .live ⟨1, true, false⟩, owned := true }
  if callback then { s with stack := .ready :: s.stack } else serviceFree s

/-- `complete_immediately` -/
def completeImmediately (number : ℕ) (result : SystemTimeResult) (callback : Bool)
    (s : ServiceSession) : ServiceSession :=
  { s with
    stack := if callback then .refusal number :: s.stack else s.stack
    history := .completed number result :: .refused number :: s.history }

/-- `begin_call` -/
def beginCall (valid callback : Bool) (s : ServiceSession) : ServiceSession :=
  let number := s.nextNumber
  let s := { s with nextNumber := number + 1 }
  if valid then
    match s.memory with
    | .absent => completeImmediately number .unavailable callback s
    | .live service =>
      if service.proxy then
        { s with
          memory := .live { service with references := service.references + 1 }
          pending := ⟨number, callback⟩ :: s.pending
          history := .accepted number :: s.history }
      else completeImmediately number .unavailable callback s
    | .released => { s with history := .touched :: s.history }
  else completeImmediately number .invalidArgument callback s

/-- `call_finished` from the return of the completion on. -/
def callReturns (number : ℕ) (s : ServiceSession) : ServiceSession :=
  serviceUnref { s with history := .returned number :: s.history }

/-- `call_finished` up to the call of the completion. -/
def callFinished (call : SystemTimeCall) (result : SystemTimeResult) (s : ServiceSession) :
    ServiceSession :=
  let s := { s with
    pending := s.pending.erase call
    history := .completed call.number result :: s.history }
  if call.callback then { s with stack := .completion call.number :: s.stack }
  else callReturns call.number s

/-- `emit_changed` -/
def emitChanged (service : SystemTimeService) (s : ServiceSession) : ServiceSession :=
  if service.changedCallback then
    { s with stack := .changed :: s.stack, history := .changed :: s.history }
  else s

/-- Whether the owner may use its pointer: it still owns the service, or it is in
the completion of a call, which lends the service. -/
def ServiceSession.usable (s : ServiceSession) : Bool :=
  s.owned || s.stack.any fun | .completion _ => true | _ => false

/-- One step; `none` where the action cannot happen. -/
def serviceStep (s : ServiceSession) : ServiceAction → Option ServiceSession
  | .proxyReady callback =>
    match s.memory with
    | .absent => some (newProxyFinished callback s)
    | _ => none
  | .request valid callback =>
    match s.memory with
    -- a request on `NULL`
    | .absent => some (beginCall valid callback s)
    | _ => if s.usable then some (beginCall valid callback s) else none
  | .reply call result => if call ∈ s.pending then some (callFinished call result s) else none
  | .signal =>
    -- the handlers are disconnected before the memory is given back
    match s.memory with
    | .live service => some (emitChanged service s)
    | _ => none
  | .setChangedCallback callback =>
    if s.owned then
      match s.memory with
      | .live service =>
        some { s with memory := .live { service with changedCallback := callback } }
      | .absent => some s
      | .released => some { s with history := .touched :: s.history }
    else none
  | .free => if s.owned then some (serviceFree s) else none
  | .callbackReturns =>
    match s.stack with
    | [] => none
    | .completion number :: stack => some (callReturns number { s with stack := stack })
    | _ :: stack => some { s with stack := stack }

end SystemSettings

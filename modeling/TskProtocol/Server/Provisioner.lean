import TskProtocol.Server.Store

namespace TskProtocol

/-- The fields present in an update; a present `null` or `undefined` clears the value. -/
structure KeyUpdates where
  label : Option (Option JsString) := none
  expiresAt : Option (Option Int) := none
  maxRequests : Option (Option Int) := none
  rotationWarningRequests : Option (Option Int) := none
  hotpRotationWarningCounters : Option (Option Int) := none
  status : Option KeyStatus := none
  deriving DecidableEq, Repr

/-- `isValidHOTPWarning` of the provisioner. -/
def isValidHOTPWarning (value : Int) : Bool := validWarning value

def KeyUpdates.metadata (updates : KeyUpdates) (existing : TumblerMap) : TumblerMap :=
  { existing with
    label := updates.label.getD existing.label
    expiresAt := updates.expiresAt.getD existing.expiresAt
    maxRequests := updates.maxRequests.getD existing.maxRequests }

/-- The map `updateKey` stores, or `none` where it returns `false`. -/
def KeyUpdates.apply (updates : KeyUpdates) (existing : TumblerMap) : Option TumblerMap :=
  if isTerminal existing.status then none
  else
    let updated := updates.metadata existing
    if updates.rotationWarningRequests.any (·.any (fun warning =>
        warning < 1 || updated.maxRequests.any (· < warning))) then none
    else if updates.hotpRotationWarningCounters.any (·.any (fun warning =>
        !isValidHOTPWarning warning)) then none
    else
      let updated := { updated with
        rotationWarningRequests :=
          updates.rotationWarningRequests.getD updated.rotationWarningRequests
        hotpRotationWarningCounters :=
          updates.hotpRotationWarningCounters.getD updated.hotpRotationWarningCounters }
      if isTerminal updates.status then some { updated with status := updates.status }
      else if updates.status ≠ none ∧ updates.status ≠ existing.status then none
      else some updated

structure ReplacementLifecycle where
  label : Option JsString := none
  expiresAt : Option Int := none
  maxRequests : Option Int := none
  rotationWarningRequests : Option Int := none
  hotpRotationWarningCounters : Option Int := none
  deriving DecidableEq, Repr

/-- The map `replaceKey` submits, from the map that `generateTumblerMap` drew. -/
def ReplacementLifecycle.apply (lifecycle : ReplacementLifecycle) (generated : TumblerMap) :
    Option TumblerMap :=
  let maxRequests := (lifecycle.maxRequests.filter (0 < ·)).or generated.maxRequests
  if lifecycle.rotationWarningRequests.any (fun warning =>
      warning < 1 || maxRequests.any (· < warning)) then none
  else if lifecycle.hotpRotationWarningCounters.any (!isValidHOTPWarning ·) then none
  else some { generated with
    status := some .active
    requestCount := some 0
    lastUsedAt := some none
    label := lifecycle.label
    expiresAt := lifecycle.expiresAt
    maxRequests := maxRequests
    rotationWarningRequests :=
      lifecycle.rotationWarningRequests.or generated.rotationWarningRequests
    hotpRotationWarningCounters :=
      lifecycle.hotpRotationWarningCounters.or generated.hotpRotationWarningCounters }

/-- The gate in front of every lifecycle operation; the authorizer's answer is the
environment's. -/
structure LifecycleCall where
  hasAuthorizer : Bool
  requestorId : JsString
  reason : JsString
  authorized : Bool
  deriving DecidableEq, Repr

def LifecycleCall.admitted (call : LifecycleCall) : Bool :=
  call.hasAuthorizer && call.requestorId ≠ [] && call.reason ≠ [] && call.authorized

/-- `replaceKey` and `replaceCredential` accept only a missing, active or expiring status. -/
def replaceable (old : TumblerMap) : Bool := !isTerminal old.status

end TskProtocol

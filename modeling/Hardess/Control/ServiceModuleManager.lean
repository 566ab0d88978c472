import Hardess.Control.ArtifactStore
import Hardess.Protocol.Registry

/-!
# The service module manager

`src/runtime/control/service-module-manager.ts`. `prepareAssignments` stages, loads and
validates one assignment after another and touches nothing but their states; the rest of
`applyAssignments` runs without an `await` and changes the registry in three passes.

* An `Attempt` pairs an assignment with what staging and loading it gave.
* An active module remembers its actions (`ActiveServiceModule.actions`), which the source
  leaves to the registry; the code never reads them.
-/

namespace Hardess

open Posix (Path)

variable {η : Type}

/-! ### Assignment states -/

/-- `AssignmentObservedState`. -/
inductive AssignmentObservedState
  | pending
  | preparing
  | ready
  | active
  | draining
  | failed
  deriving DecidableEq

/-- `lastError`. -/
structure AssignmentError where
  code : JsString
  message : JsString
  retryable : Option Bool
  deriving DecidableEq

/-- `AssignmentStateRecorder`. -/
structure AssignmentStateRecorder where
  deploymentId : JsString
  declaredVersion : JsString
  state : AssignmentObservedState
  generationId : Option JsString := none
  preparedAt : Option ℕ := none
  activatedAt : Option ℕ := none
  failedAt : Option ℕ := none
  lastError : Option AssignmentError := none
  deriving DecidableEq

/-- The states by assignment id. -/
abbrev AssignmentStates := JsMap JsString AssignmentStateRecorder

/-- A change of one recorded state, if there is one. -/
def AssignmentStates.modify (states : AssignmentStates) (assignmentId : JsString)
    (f : AssignmentStateRecorder → AssignmentStateRecorder) : AssignmentStates :=
  match states.get assignmentId with
  | none => states
  | some state => states.set assignmentId (f state)

/-- `markFailed`. -/
def markFailed (now : ℕ) (states : AssignmentStates) (assignmentId : JsString)
    (lastError : AssignmentError) : AssignmentStates :=
  states.modify assignmentId fun state =>
    { state with state := .failed, failedAt := some now, lastError := some lastError }

/-! ### Validation -/

/-- `HardessServiceModule`. -/
abbrev HardessServiceModule (η : Type) := ServerProtocolModule η

/-- `buildServiceModuleProtocolPackageId`. -/
def buildServiceModuleProtocolPackageId (protocol version : JsString) : JsString :=
  protocol ++ js "@" ++ version

/-- The order of `Array.prototype.sort` on strings. -/
def sortStrings (xs : List JsString) : List JsString := xs.mergeSort fun a b => !decide (b < a)

/-- `Array.prototype.join` with `", "`. -/
def joinComma (xs : List JsString) : JsString := (js ", ").intercalate xs

/-- `verifyServiceModuleProtocolPackageDigest`; the digest of a package without its digest
field is the platform's. -/
def verifyServiceModuleProtocolPackageDigest
    (computeDigest : JsString → JsString → JsString → List JsString → JsString)
    (input : ServiceModuleProtocolPackage) : Except JsString Unit :=
  let expectedPackageId := buildServiceModuleProtocolPackageId input.protocol input.version
  if input.packageId ≠ expectedPackageId then
    .error (js "Service module protocol package id mismatch: expected " ++ expectedPackageId ++
      js ", got " ++ input.packageId)
  else
    let expected :=
      computeDigest input.packageId input.protocol input.version (sortStrings input.actions)
    if input.digest ≠ expected then
      .error (js "Service module protocol package digest mismatch: expected " ++ expected ++
        js ", got " ++ input.digest)
    else .ok ()

/-- `validateBoundProtocolPackage`. -/
def validateBoundProtocolPackage
    (computeDigest : JsString → JsString → JsString → List JsString → JsString)
    (assignment : Assignment) (serviceModule : HardessServiceModule η) :
    Except JsString ServiceModuleProtocolPackage :=
  match assignment.serviceModule with
  | none => .error (js "Missing serviceModule.protocolPackage for assignment " ++
      assignment.assignmentId)
  | some payload => do
    let protocolPackage := payload.protocolPackage
    verifyServiceModuleProtocolPackageDigest computeDigest protocolPackage
    if serviceModule.protocol ≠ protocolPackage.protocol ∨
        serviceModule.version ≠ protocolPackage.version then
      .error (js "Service module protocol package mismatch for assignment " ++
        assignment.assignmentId ++ js ": expected " ++ protocolPackage.protocol ++ js "@" ++
        protocolPackage.version ++ js ", got " ++ serviceModule.protocol ++ js "@" ++
        serviceModule.version)
    else if sortStrings protocolPackage.actions ≠ sortStrings serviceModule.actions.keys then
      .error (js "Service module action set mismatch for assignment " ++
        assignment.assignmentId ++ js ": expected [" ++
        joinComma (sortStrings protocolPackage.actions) ++ js "], got [" ++
        joinComma (sortStrings serviceModule.actions.keys) ++ js "]")
    else .ok protocolPackage

/-! ### Preparation -/

/-- An assignment with what `stageServiceModule` and `loadServiceModule` give for it: the
staged entry and the module, or the message of the error. -/
structure Attempt (η : Type) where
  assignment : Assignment
  loaded : Except JsString (Path × HardessServiceModule η)

/-- An element of `nextModules`. -/
structure NextModule (η : Type) where
  assignment : Assignment
  packageId : JsString
  digest : JsString
  protocol : JsString
  version : JsString
  localEntry : Path
  module : HardessServiceModule η

/-- `nextModule.assignmentId`. -/
def NextModule.assignmentId (m : NextModule η) : JsString := m.assignment.assignmentId

/-- What `prepareAssignments` does in its `try` block, up to the owner of the package. -/
def prepareOne (computeDigest : JsString → JsString → JsString → List JsString → JsString)
    (attempt : Attempt η) : Except JsString (NextModule η) := do
  let (localEntry, serviceModule) ← attempt.loaded
  let bound ← validateBoundProtocolPackage computeDigest attempt.assignment serviceModule
  return {
    assignment := attempt.assignment
    packageId := bound.packageId
    digest := bound.digest
    protocol := bound.protocol
    version := bound.version
    localEntry
    module := serviceModule }

/-- The error of a package that another assignment of the call has. -/
def duplicateMessage (packageId currentOwner assignmentId : JsString) : JsString :=
  js "Duplicate service module protocol package " ++ packageId ++ js " for assignments " ++
    currentOwner ++ js " and " ++ assignmentId

/-- How preparing an assignment fails: what is recorded, a conflict first under a code of its
own, and the message that is thrown. -/
structure PrepareFailure where
  conflict : Option AssignmentError := none
  lastError : AssignmentError
  message : JsString

/-- The record of an error that is caught. -/
def serviceModulePrepareFailed (message : JsString) : AssignmentError :=
  ⟨js "SERVICE_MODULE_PREPARE_FAILED", message, some true⟩

/-- The body of the loop of `prepareAssignments`, with `protocolVersionOwners`. The `catch`
block records a conflict again, as `SERVICE_MODULE_PREPARE_FAILED`. -/
def prepareAssignment (computeDigest : JsString → JsString → JsString → List JsString → JsString)
    (owners : JsMap JsString JsString) (attempt : Attempt η) :
    Except PrepareFailure (NextModule η) :=
  let assignmentId := attempt.assignment.assignmentId
  if attempt.assignment.serviceModule = none then
    .error
      { lastError := ⟨js "SERVICE_MODULE_PAYLOAD_MISSING",
          js "Assignment is missing serviceModule payload", some false⟩
        message := js "Missing serviceModule payload for assignment " ++ assignmentId }
  else
    match prepareOne computeDigest attempt with
    | .error message => .error { lastError := serviceModulePrepareFailed message, message }
    | .ok nextModule =>
      match owners.get nextModule.packageId with
      | none => .ok nextModule
      | some currentOwner =>
        if currentOwner ≠ [] ∧ currentOwner ≠ assignmentId then
          let message := duplicateMessage nextModule.packageId currentOwner assignmentId
          .error
            { conflict := some ⟨js "SERVICE_MODULE_CONFLICT",
                js "Duplicate service module protocol package " ++ nextModule.packageId ++
                  js " on one host", some false⟩
              lastError := serviceModulePrepareFailed message
              message }
        else .ok nextModule

/-- The records of a failure. -/
def recordFailure (now : ℕ) (states : AssignmentStates) (assignmentId : JsString)
    (failure : PrepareFailure) : AssignmentStates :=
  markFailed now
    (match failure.conflict with
      | none => states
      | some conflict => markFailed now states assignmentId conflict)
    assignmentId failure.lastError

/-- `prepareAssignments`. -/
def prepareAssignments (computeDigest : JsString → JsString → JsString → List JsString → JsString)
    (now : ℕ) : List (Attempt η) → JsMap JsString JsString → AssignmentStates →
      AssignmentStates × Except JsString (List (NextModule η))
  | [], _, states => (states, .ok [])
  | attempt :: attempts, owners, states =>
    if attempt.assignment.deploymentKind ≠ .serviceModule then
      prepareAssignments computeDigest now attempts owners states
    else
      match prepareAssignment computeDigest owners attempt with
      | .error failure =>
        (recordFailure now states attempt.assignment.assignmentId failure, .error failure.message)
      | .ok nextModule =>
        let rest := prepareAssignments computeDigest now attempts
          (owners.set nextModule.packageId attempt.assignment.assignmentId) states
        (rest.1, rest.2.map (nextModule :: ·))

/-! ### The manager -/

/-- `ActiveServiceModule`, with the actions that were registered for it. -/
structure ActiveServiceModule (η : Type) where
  assignmentId : JsString
  deploymentId : JsString
  declaredVersion : JsString
  packageId : JsString
  digest : JsString
  protocol : JsString
  version : JsString
  localEntry : Path
  generationId : Option JsString
  preparedAt : Option ℕ
  activatedAt : Option ℕ
  actions : JsMap JsString η

/-- The module that was registered for it. -/
def ActiveServiceModule.module (a : ActiveServiceModule η) : HardessServiceModule η :=
  ⟨a.protocol, a.version, a.actions⟩

@[simp] theorem ActiveServiceModule.module_protocol (a : ActiveServiceModule η) :
    a.module.protocol = a.protocol := rfl

@[simp] theorem ActiveServiceModule.module_version (a : ActiveServiceModule η) :
    a.module.version = a.version := rfl

/-- `DrainingServiceModule`: the timers are numbered. -/
structure DrainingServiceModule (η : Type) extends ActiveServiceModule η where
  drainTimer : ℕ

/-- The registry and the manager's own maps. -/
structure ServiceModuleManager (η : Type) where
  registry : ServerProtocolRegistry η
  activeByAssignmentId : JsMap JsString (ActiveServiceModule η)
  drainingByAssignmentId : JsMap JsString (DrainingServiceModule η)
  nextTimer : ℕ

namespace ServiceModuleManager

variable (mgr : ServiceModuleManager η)

/-- `beginDraining`; `drains` says that `drainGraceMs` is positive. -/
def beginDraining (drains : Bool) (active : ActiveServiceModule η)
    (previousState : Option AssignmentStateRecorder) : ServiceModuleManager η :=
  let activeByAssignmentId := mgr.activeByAssignmentId.delete active.assignmentId
  if drains then
    { mgr with
      activeByAssignmentId
      drainingByAssignmentId := mgr.drainingByAssignmentId.set active.assignmentId
        { active with
          generationId := (previousState.bind (·.generationId)).or active.generationId
          preparedAt := (previousState.bind (·.preparedAt)).or active.preparedAt
          activatedAt := (previousState.bind (·.activatedAt)).or active.activatedAt
          drainTimer := mgr.nextTimer }
      nextTimer := mgr.nextTimer + 1 }
  else
    { mgr with
      activeByAssignmentId
      registry := mgr.registry.unregister active.protocol active.version }

/-- The callback of a drain timer. A timer that was cleared finds no entry of its own. -/
def drainTimerFires (timer : ℕ) (assignmentId : JsString) : ServiceModuleManager η :=
  match mgr.drainingByAssignmentId.get assignmentId with
  | none => mgr
  | some draining =>
    if draining.drainTimer ≠ timer then mgr
    else
      { mgr with
        registry := mgr.registry.unregister draining.protocol draining.version
        drainingByAssignmentId := mgr.drainingByAssignmentId.delete assignmentId }

/-- `cancelDraining`: the entry that was draining, and the manager without it. -/
def cancelDraining (assignmentId : JsString) :
    Option (DrainingServiceModule η) × ServiceModuleManager η :=
  (mgr.drainingByAssignmentId.get assignmentId,
    { mgr with drainingByAssignmentId := mgr.drainingByAssignmentId.delete assignmentId })

/-- `forceUnregisterDraining`. -/
def forceUnregisterDraining (assignmentId : JsString) : ServiceModuleManager η :=
  match mgr.cancelDraining assignmentId with
  | (none, mgr) => mgr
  | (some draining, mgr) =>
    { mgr with registry := mgr.registry.unregister draining.protocol draining.version }

/-- `findDrainingByProtocolVersion`. -/
def findDrainingByProtocolVersion (protocol version : JsString) :
    Option (DrainingServiceModule η) :=
  (mgr.drainingByAssignmentId.entries.map Prod.snd).find? fun draining =>
    draining.protocol = protocol && draining.version = version

/-- One turn of the first pass, for an entry of the active modules. -/
def drainIfRemoved (drains : Bool) (previous : Option AssignmentStates)
    (nextAssignmentIds : List JsString) (e : JsString × ActiveServiceModule η) :
    ServiceModuleManager η :=
  if e.1 ∈ nextAssignmentIds then mgr
  else mgr.beginDraining drains e.2 (previous.bind (·.get e.1))

/-- The first pass: active modules that are not assigned any more. -/
def drainRemoved (drains : Bool) (previous : Option AssignmentStates)
    (nextAssignmentIds : List JsString) : ServiceModuleManager η :=
  mgr.activeByAssignmentId.entries.foldl
    (fun mgr => mgr.drainIfRemoved drains previous nextAssignmentIds) mgr

/-- One turn of the second pass. -/
def dropConflict (nextModule : NextModule η) : ServiceModuleManager η :=
  match mgr.findDrainingByProtocolVersion nextModule.protocol nextModule.version with
  | none => mgr
  | some conflict =>
    if conflict.assignmentId ≠ nextModule.assignmentId then
      mgr.forceUnregisterDraining conflict.assignmentId
    else mgr

/-- The second pass: draining modules whose protocol version is wanted by another one. -/
def dropConflicts (nextModules : List (NextModule η)) : ServiceModuleManager η :=
  nextModules.foldl dropConflict mgr

/-- Has this module the protocol version of the next one? -/
def sameProtocolVersion (a : Option (ActiveServiceModule η)) (nextModule : NextModule η) : Bool :=
  a.any fun a => a.protocol = nextModule.protocol && a.version = nextModule.version

/-- The registry part of one turn of the third pass, and the action it throws for. -/
def registerNext (registry : ServerProtocolRegistry η)
    (current draining : Option (ActiveServiceModule η)) (nextModule : NextModule η) :
    ServerProtocolRegistry η × Option JsString :=
  if sameProtocolVersion current nextModule || sameProtocolVersion draining nextModule then
    (registry.replace nextModule.module, none)
  else
    let without := fun (registry : ServerProtocolRegistry η) (a : Option (ActiveServiceModule η)) =>
      match a with
      | none => registry
      | some a => registry.unregister a.protocol a.version
    (without (without registry current) draining).register nextModule.module

/-- The record of a module that has been registered. -/
def activate (now : ℕ) (generationId : JsString) (previous : Option AssignmentStates)
    (nextModule : NextModule η) : ActiveServiceModule η where
  assignmentId := nextModule.assignmentId
  deploymentId := nextModule.assignment.deploymentId
  declaredVersion := nextModule.assignment.declaredVersion
  packageId := nextModule.packageId
  digest := nextModule.digest
  protocol := nextModule.protocol
  version := nextModule.version
  localEntry := nextModule.localEntry
  generationId := some generationId
  preparedAt := some now
  activatedAt := (previous.bind (·.get nextModule.assignmentId)).bind (·.activatedAt)
  actions := nextModule.module.actions

/-- One turn of the third pass, and the action it throws for. -/
def applyNext (now : ℕ) (generationId : JsString) (previous : Option AssignmentStates)
    (nextModule : NextModule η) : ServiceModuleManager η × Option JsString :=
  let current := mgr.activeByAssignmentId.get nextModule.assignmentId
  let (draining, mgr) := mgr.cancelDraining nextModule.assignmentId
  let (registry, conflict) := registerNext mgr.registry current
    (draining.map (·.toActiveServiceModule)) nextModule
  match conflict with
  | some action => ({ mgr with registry }, some action)
  | none =>
    ({ mgr with
        registry
        activeByAssignmentId := mgr.activeByAssignmentId.set nextModule.assignmentId
          (activate now generationId previous nextModule) },
      none)

/-- The third pass, with the states it records. The message is that of the conflict. -/
def applyNexts (now : ℕ) (generationId : JsString) (previous : Option AssignmentStates) :
    ServiceModuleManager η → AssignmentStates → List (NextModule η) →
      ServiceModuleManager η × AssignmentStates × Except JsString Unit
  | mgr, states, [] => (mgr, states, .ok ())
  | mgr, states, nextModule :: nextModules =>
    match mgr.applyNext now generationId previous nextModule with
    | (mgr, some action) =>
      (mgr, states, .error (ServerProtocolRegistry.conflictMessage nextModule.module action))
    | (mgr, none) =>
      applyNexts now generationId previous mgr
        (states.modify nextModule.assignmentId fun state =>
          { state with
            state := .ready
            generationId := some generationId
            preparedAt := some now })
        nextModules

/-- The arguments of `applyAssignments`, with what staging and loading give. -/
structure ApplyInput (η : Type) where
  attempts : List (Attempt η)
  assignmentStates : AssignmentStates
  revisionGenerationId : JsString
  previousAssignmentStates : Option AssignmentStates
  now : ℕ

/-- What follows `prepareAssignments`. -/
def applyPrepared (drains : Bool) (input : ApplyInput η) (states : AssignmentStates)
    (nextModules : List (NextModule η)) :
    ServiceModuleManager η × AssignmentStates × Except JsString Unit :=
  applyNexts input.now input.revisionGenerationId input.previousAssignmentStates
    ((mgr.drainRemoved drains input.previousAssignmentStates
      (nextModules.map (·.assignmentId))).dropConflicts nextModules) states nextModules

/-- `applyAssignments`. -/
def applyAssignments
    (computeDigest : JsString → JsString → JsString → List JsString → JsString) (drains : Bool)
    (input : ApplyInput η) : ServiceModuleManager η × AssignmentStates × Except JsString Unit :=
  match prepareAssignments computeDigest input.now input.attempts .empty input.assignmentStates with
  | (states, .error message) => (mgr, states, .error message)
  | (states, .ok nextModules) => mgr.applyPrepared drains input states nextModules

end ServiceModuleManager

end Hardess

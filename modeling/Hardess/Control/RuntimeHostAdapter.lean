import Hardess.Control.ServiceModuleManager
import Hardess.Shared.Config

/-!
# The runtime host adapter

`src/runtime/control/runtime-host-adapter.ts`, with the four stores that
`applyDesiredHostState` writes: the protocol registry (in the service module manager), the
auth trust, the live configuration and the topology.

* `ApplyCall` is a call with everything that happens to it: what staging and loading give
  for each assignment, and whether the subscribers of the configuration and of the topology
  return.
* `ApplyCall.failsAt` is the step at which it rejects.
-/

namespace Hardess

open Posix (Path)

variable {η : Type}

/-- `RuntimeHostAdapterOptions`, as far as a call depends on them. -/
structure RuntimeHostAdapterOptions where
  hostId : JsString
  /-- Is there a `serviceModuleManager`? -/
  managesServiceModules : Bool
  defaultConnectTimeoutMs : Option JsNumber := none
  defaultResponseTimeoutMs : Option JsNumber := none
  defaultWorkerTimeoutMs : Option JsNumber := none
  /-- `drainGraceMs` of the manager is positive. -/
  drains : Bool

/-- What the platform provides: the digest of a protocol package, and `z.string().url()`. -/
structure AdapterPlatform where
  computeDigest : JsString → JsString → JsString → List JsString → JsString
  isUrl : JsString → Bool

/-- A call of `applyDesiredHostState`. `staged` is what `stageHttpWorker` gives for the
assignment at a position, `loaded` what `stageServiceModule` and `loadServiceModule` give;
errors are their messages. -/
structure ApplyCall (η : Type) where
  desired : DesiredHostState
  staged : ℕ → Except JsString Path
  loaded : ℕ → Except JsString (Path × HardessServiceModule η)
  configListenersReturn : Bool
  topologyListenersReturn : Bool
  now : ℕ

namespace ApplyCall

/-- `revisionGenerationId`. -/
def revisionGenerationId (call : ApplyCall η) : JsString := js "admin:" ++ call.desired.revision

/-- The assignments with what staging gives for them. -/
def httpAttempts (call : ApplyCall η) : List (Assignment × Except JsString Path) :=
  call.desired.assignments.zipIdx.map fun a => (a.1, call.staged a.2)

/-- The assignments as `applyAssignments` finds them. -/
def serviceAttempts (call : ApplyCall η) : List (Attempt η) :=
  call.desired.assignments.zipIdx.map fun a => ⟨a.1, call.loaded a.2⟩

/-- The first records of `nextStates`. -/
def preparingStates (call : ApplyCall η) : AssignmentStates :=
  call.desired.assignments.foldl (fun states a => states.set a.assignmentId
    { deploymentId := a.deploymentId
      declaredVersion := a.declaredVersion
      state := .preparing
      generationId := some call.revisionGenerationId }) .empty

/-- `routesById`. -/
def routesById (call : ApplyCall η) : JsMap JsString SharedHttpRoute :=
  (call.desired.routes.getD []).foldl (fun routes r => routes.set r.routeId r) .empty

end ApplyCall

/-! ### The configuration -/

/-- `httpExecutable`. -/
def httpExecutable (assignment : Assignment) : Option HttpExecutable :=
  assignment.httpWorker.or assignment.serveApp

/-- `deploymentConfig`. -/
def deploymentConfig (assignment : Assignment) (executable : HttpExecutable) :
    Option WorkerDeployment :=
  if assignment.deploymentKind = .serve then
    let deployment := executable.deployment.getD {}
    some { deployment with
      instanceKey := deployment.instanceKey.or (some assignment.assignmentId) }
  else executable.deployment

/-- `isExternalServe`. -/
def isExternalServe (assignment : Assignment) (executable : HttpExecutable) : Bool :=
  assignment.deploymentKind = .serve &&
    ((deploymentConfig assignment executable).bind (·.config)).any fun config =>
      ((Json.lookup config (js "curator")).bind (·.get? (js "externalServe"))).any fun value =>
        match value with
        | .bool b => b
        | _ => false

/-- A pipeline of an assignment for a route. -/
def pipelineOf (options : RuntimeHostAdapterOptions) (assignment : Assignment)
    (executable : HttpExecutable) (prepared : Option Path) (route : SharedHttpRoute) :
    PipelineConfig where
  id := assignment.assignmentId ++ js ":" ++ route.routeId
  matchPrefix := route.pathPrefix
  groupId := assignment.groupId
  authRequired := true
  downstream :=
    { origin := route.baseUrl
      connectTimeoutMs := options.defaultConnectTimeoutMs.getD (.ofNat 1000)
      responseTimeoutMs := options.defaultResponseTimeoutMs.getD (.ofNat 5000)
      websocket := route.websocketEnabled }
  worker := prepared.map fun localEntry =>
    { entry := localEntry
      timeoutMs := options.defaultWorkerTimeoutMs.getD (.ofNat 1000)
      deployment := deploymentConfig assignment executable }

/-- What building the pipelines of one assignment comes to. -/
inductive BuildResult
  /-- A service module that is left to the manager. -/
  | skipped
  /-- A failure that is recorded while the loop goes on. -/
  | failed (lastError : AssignmentError)
  /-- A route reference without a route, which is recorded and thrown. -/
  | routeMissing (routeRef : JsString)
  /-- A staging that threw. -/
  | stageFailed (message : JsString)
  | built (pipelines : List PipelineConfig)

/-- The record of a service module without a manager. -/
def serviceModuleNotSupported : AssignmentError :=
  ⟨js "SERVICE_MODULE_NOT_SUPPORTED",
    js "Current runtime does not yet apply service_module assignments", some false⟩

/-- The record of an assignment without an executable. -/
def httpExecutablePayloadMissing : AssignmentError :=
  ⟨js "HTTP_EXECUTABLE_PAYLOAD_MISSING",
    js "Assignment is missing httpWorker or serveApp payload", some false⟩

/-- The record of a route reference without a route. -/
def routeRefMissing (routeRef : JsString) : AssignmentError :=
  ⟨js "ROUTE_REF_MISSING", js "Missing route ref " ++ routeRef, some false⟩

/-- The record of a staging that failed. -/
def artifactPrepareFailed (message : JsString) : AssignmentError :=
  ⟨js "ARTIFACT_PREPARE_FAILED", message, some true⟩

/-- The loop over the route references: their routes, or the first that is missing. -/
def resolveRoutes (routes : JsMap JsString SharedHttpRoute) :
    List JsString → Except JsString (List SharedHttpRoute)
  | [] => .ok []
  | routeRef :: routeRefs =>
    match routes.get routeRef with
    | none => .error routeRef
    | some route => (resolveRoutes routes routeRefs).map (route :: ·)

/-- The body of the loop of `buildConfigFromDesiredState`. -/
def buildAssignment (options : RuntimeHostAdapterOptions) (routes : JsMap JsString SharedHttpRoute)
    (assignment : Assignment) (staged : Except JsString Path) : BuildResult :=
  if assignment.deploymentKind = .serviceModule then
    if options.managesServiceModules then .skipped else .failed serviceModuleNotSupported
  else
    match httpExecutable assignment with
    | none => .failed httpExecutablePayloadMissing
    | some executable =>
      let prepared : Except JsString (Option Path) :=
        if isExternalServe assignment executable then .ok none else staged.map some
      match prepared with
      | .error message => .stageFailed message
      | .ok prepared =>
        match resolveRoutes routes (executable.routeRefs.getD []) with
        | .error routeRef => .routeMissing routeRef
        | .ok found => .built (found.map (pipelineOf options assignment executable prepared))

/-- The record that a build result leaves. The `catch` block does not replace a failure. -/
def recordBuild (now : ℕ) (generationId : JsString) (states : AssignmentStates)
    (assignmentId : JsString) : BuildResult → AssignmentStates
  | .skipped => states
  | .failed lastError => markFailed now states assignmentId lastError
  | .routeMissing routeRef => markFailed now states assignmentId (routeRefMissing routeRef)
  | .stageFailed message =>
    if (states.get assignmentId).any (·.state = .failed) then states
    else markFailed now states assignmentId (artifactPrepareFailed message)
  | .built _ =>
    states.modify assignmentId fun state =>
      { state with state := .ready, generationId := some generationId, preparedAt := some now }

/-- `buildConfigFromDesiredState`. -/
def buildConfigFromDesiredState (options : RuntimeHostAdapterOptions)
    (routes : JsMap JsString SharedHttpRoute) (now : ℕ) (generationId : JsString) :
    List (Assignment × Except JsString Path) → AssignmentStates →
      AssignmentStates × Except JsString (List PipelineConfig)
  | [], states => (states, .ok [])
  | (assignment, staged) :: attempts, states =>
    let result := buildAssignment options routes assignment staged
    let states := recordBuild now generationId states assignment.assignmentId result
    match result with
    | .routeMissing routeRef =>
      (states, .error (js "Missing route ref " ++ routeRef ++ js " for assignment " ++
        assignment.assignmentId))
    | .stageFailed message => (states, .error message)
    | .built pipelines =>
      let rest := buildConfigFromDesiredState options routes now generationId attempts states
      (rest.1, rest.2.map (pipelines ++ ·))
    | _ => buildConfigFromDesiredState options routes now generationId attempts states

/-! ### The adapter -/

/-- The adapter with its stores. `trust` is the trust of the dynamic provider. -/
structure RuntimeHostAdapter (η : Type) where
  manager : ServiceModuleManager η
  trust : Option RuntimeAuthTrust
  config : HardessConfig
  topology : Option DesiredTopology
  lastDesired : Option DesiredHostState
  assignmentStates : AssignmentStates

/-- `applyRuntimeAuthTrust`, which cannot fail. -/
def applyRuntimeAuthTrust (trust : Option RuntimeAuthTrust) : Option RuntimeAuthTrust :=
  trust.filter fun trust => 0 < trust.tokenIssuers.length

namespace RuntimeHostAdapter

variable (platform : AdapterPlatform) (options : RuntimeHostAdapterOptions)
  (adapter : RuntimeHostAdapter η) (call : ApplyCall η)

/-- The call of `buildConfigFromDesiredState`. -/
def buildConfig : AssignmentStates × Except JsString (List PipelineConfig) :=
  buildConfigFromDesiredState options call.routesById call.now call.revisionGenerationId
    call.httpAttempts call.preparingStates

/-- The call of `applyAssignments`, if there is a manager. -/
def applyModules (states : AssignmentStates) :
    ServiceModuleManager η × AssignmentStates × Except JsString Unit :=
  if options.managesServiceModules then
    adapter.manager.applyAssignments platform.computeDigest options.drains
      { attempts := call.serviceAttempts
        assignmentStates := states
        revisionGenerationId := call.revisionGenerationId
        previousAssignmentStates := some adapter.assignmentStates
        now := call.now }
  else (adapter.manager, states, .ok ())

/-- `ready` becomes `active` when a call has succeeded. -/
def activateState (now : ℕ) (state : AssignmentStateRecorder) : AssignmentStateRecorder :=
  if state.state = .ready then { state with state := .active, activatedAt := some now } else state

/-- The records that a successful call keeps. -/
def activateStates (now : ℕ) (states : AssignmentStates) : AssignmentStates where
  entries := states.entries.map fun e => (e.1, activateState now e.2)
  nodup := by simpa [Function.comp_def] using states.nodup

/-- `applyDesiredHostState`. The flag says whether it resolves. -/
def applyDesiredHostState : RuntimeHostAdapter η × Bool :=
  match buildConfig options call with
  | (_, .error _) => (adapter, false)
  | (states, .ok pipelines) =>
    let (manager, states, modules) := adapter.applyModules platform options call states
    let adapter := { adapter with manager }
    match modules with
    | .error _ => (adapter, false)
    | .ok () =>
      let adapter := { adapter with trust := applyRuntimeAuthTrust call.desired.runtimeAuthTrust }
      match parseHardessConfig platform.isUrl ⟨pipelines⟩ with
      | none => (adapter, false)
      | some config =>
        let adapter := { adapter with config }
        if call.configListenersReturn then
          let adapter := { adapter with topology := call.desired.topology }
          if call.topologyListenersReturn then
            ({ adapter with
                lastDesired := some call.desired
                assignmentStates := activateStates call.now states }, true)
          else (adapter, false)
        else (adapter, false)

/-! ### Observed state -/

/-- An element of `assignmentStatuses`. -/
structure AssignmentStatus where
  assignmentId : JsString
  deploymentId : JsString
  declaredVersion : JsString
  generationId : Option JsString
  state : AssignmentObservedState
  preparedAt : Option ℕ
  activatedAt : Option ℕ
  failedAt : Option ℕ
  lastError : Option AssignmentError
  deriving DecidableEq

/-- The status of a draining module. -/
def drainingStatus (d : ActiveServiceModule η) : AssignmentStatus where
  assignmentId := d.assignmentId
  deploymentId := d.deploymentId
  declaredVersion := d.declaredVersion
  generationId := d.generationId
  state := .draining
  preparedAt := d.preparedAt
  activatedAt := d.activatedAt
  failedAt := none
  lastError := none

/-- `listDrainingAssignments`; `le` is `localeCompare` of two ids. -/
def listDrainingAssignments (le : JsString → JsString → Bool) (mgr : ServiceModuleManager η) :
    List AssignmentStatus :=
  ((mgr.drainingByAssignmentId.entries.map fun e => e.2.toActiveServiceModule).mergeSort fun a b =>
    le a.assignmentId b.assignmentId).map drainingStatus

/-- The status of a desired assignment. -/
def statusOf (states : AssignmentStates) (a : Assignment) : AssignmentStatus :=
  let recorded := states.get a.assignmentId
  { assignmentId := a.assignmentId
    deploymentId := a.deploymentId
    declaredVersion := a.declaredVersion
    generationId := recorded.bind (·.generationId)
    state := (recorded.map (·.state)).getD .pending
    preparedAt := recorded.bind (·.preparedAt)
    activatedAt := recorded.bind (·.activatedAt)
    failedAt := recorded.bind (·.failedAt)
    lastError := recorded.bind (·.lastError) }

/-- One turn of the loop over the draining modules. -/
def addDraining (statuses : List AssignmentStatus) (draining : AssignmentStatus) :
    List AssignmentStatus :=
  if statuses.any (·.assignmentId = draining.assignmentId) then statuses
  else statuses ++ [draining]

/-- `assignmentStatuses` of `collectObservedHostState`. -/
def collectObservedHostState (le : JsString → JsString → Bool) : List AssignmentStatus :=
  (if options.managesServiceModules then listDrainingAssignments le adapter.manager else []).foldl
    addDraining (((adapter.lastDesired.map (·.assignments)).getD []).map
      (statusOf adapter.assignmentStates))

end RuntimeHostAdapter

end Hardess

import Hardess.Control.RuntimeSummary

/-!
# The read model of runtime summaries

`buildRuntimeSummaryReadModel` of `src/sdk/admin/planning.ts`: what is expected of each host, from
its desired state, against what it reports, for all hosts or for those of a query.

* `buildRuntimeSummaryChecks`: a check for each host;
* `buildDeploymentRolloutSummary` and `attachRuntimeSummaryToRolloutHost`: the hosts of each
  deployment;
* `buildRuntimeSummaryReadModel`: both, for a query.
-/

namespace Hardess

/-! ### What is expected of a host -/

/-- The ids of the routes of a desired state. -/
def DesiredHostState.routeIds (desired : DesiredHostState) : List JsString :=
  (desired.routes.getD []).map (·.routeId)

/-- The pipelines that an assignment is to have, for its routes that are there. -/
def Assignment.pipelineIds (routeIds : List JsString) (assignment : Assignment) : List JsString :=
  (((httpExecutable assignment).bind (·.routeRefs)).getD []).filter (· ∈ routeIds) |>.map
    fun routeId => assignment.assignmentId ++ js ":" ++ routeId

/-- The package that an assignment is to have. -/
def Assignment.packageId (assignment : Assignment) : Option JsString :=
  if assignment.deploymentKind = .serviceModule then
    assignment.serviceModule.map (·.protocolPackage.packageId)
  else none

/-- `listExpectedPipelineIds`. -/
def listExpectedPipelineIds (precedes : JsString → JsString → Bool)
    (desired : Option DesiredHostState) : List JsString :=
  match desired with
  | none => []
  | some desired =>
    sortLocale precedes (uniqueHostIds ((desired.assignments.filter
      (·.deploymentKind ≠ .serviceModule)).flatMap (·.pipelineIds desired.routeIds)))

/-- `listExpectedProtocolPackageIds`. -/
def listExpectedProtocolPackageIds (precedes : JsString → JsString → Bool)
    (desired : Option DesiredHostState) : List JsString :=
  match desired with
  | none => []
  | some desired => sortLocale precedes (desired.assignments.filterMap (·.packageId))

/-- `listExpectedDeploymentRuntimeIds`. -/
def listExpectedDeploymentRuntimeIds (precedes : JsString → JsString → Bool)
    (desired : Option DesiredHostState) (deploymentId : JsString) : List JsString :=
  match desired with
  | none => []
  | some desired =>
    let httpRuntimeIds := (desired.assignments.filter fun assignment =>
      assignment.deploymentId = deploymentId ∧ assignment.deploymentKind ≠ .serviceModule).flatMap
        (·.pipelineIds desired.routeIds)
    if 0 < httpRuntimeIds.length then sortLocale precedes httpRuntimeIds
    else sortLocale precedes ((desired.assignments.filter fun assignment =>
      assignment.deploymentId = deploymentId).filterMap (·.packageId))

/-! ### What it reports, for a query -/

/-- `RuntimeSummaryReadModelQuery`. -/
structure RuntimeSummaryReadModelQuery where
  hostId : Option JsString := none
  deploymentId : Option JsString := none

/-- `listObservedPipelineIdsForReadModel`. -/
def listObservedPipelineIdsForReadModel (precedes : JsString → JsString → Bool)
    (runtimeSummary : Option Json) (query : RuntimeSummaryReadModelQuery) : List JsString :=
  let pipelineIds := listObservedPipelineIds precedes runtimeSummary
  match query.deploymentId with
  | none => pipelineIds
  | some deploymentId => pipelineIds.filter (isRuntimePipelineIdForDeployment · deploymentId)

/-- `listObservedProtocolPackageIdsForReadModel`. -/
def listObservedProtocolPackageIdsForReadModel (precedes : JsString → JsString → Bool)
    (runtimeSummary : Option Json) (expectedProtocolPackageIds : List JsString)
    (query : RuntimeSummaryReadModelQuery) : List JsString :=
  let protocolPackageIds := listObservedProtocolPackageIds precedes runtimeSummary
  match query.deploymentId with
  | none => protocolPackageIds
  | some deploymentId =>
    let forDeployment :=
      listObservedProtocolPackageIdsForDeployment precedes runtimeSummary deploymentId
    if forDeployment.hasDeploymentMetadata then forDeployment.packageIds
    else protocolPackageIds.filter (· ∈ expectedProtocolPackageIds)

/-- `value.startsWith("assign:")`. -/
def startsWithAssign (value : JsString) : Bool := (js "assign:").isPrefixOf value

/-- `listObservedDeploymentRuntimeIds`. -/
def listObservedDeploymentRuntimeIds (precedes : JsString → JsString → Bool)
    (runtimeSummary : Option Json) (deploymentId : JsString) (expectedIds : List JsString) :
    List JsString :=
  if expectedIds.any startsWithAssign then
    sortLocale precedes ((((arrayField runtimeSummary (js "pipelines")).getD []).filterMap
      (stringField (js "pipelineId"))).filter (isRuntimePipelineIdForDeployment · deploymentId))
  else if (arrayField runtimeSummary (js "activeProtocolPackages")).isNone then []
  else
    let forDeployment :=
      listObservedProtocolPackageIdsForDeployment precedes runtimeSummary deploymentId
    if forDeployment.hasDeploymentMetadata then forDeployment.packageIds
    else if expectedIds.length = 0 then []
    else listObservedProtocolPackageIds precedes runtimeSummary

/-- `computeMissingValues`. -/
def computeMissingValues (expected observed : List JsString) : List JsString :=
  expected.filter (· ∉ observed)

/-- `RuntimeSummaryStatus`. -/
inductive RuntimeSummaryStatus
  | matching
  | drift
  | notReported
  deriving DecidableEq

/-- `resolveRuntimeSummaryStatus`. -/
def resolveRuntimeSummaryStatus (reported : Bool) (missingCount unexpectedCount : ℕ) :
    RuntimeSummaryStatus :=
  if missingCount = 0 ∧ unexpectedCount = 0 then .matching
  else if reported then .drift else .notReported

/-! ### Checks -/

/-- `RuntimeSummaryCheck`. -/
structure RuntimeSummaryCheck where
  hostId : JsString
  status : RuntimeSummaryStatus
  reported : Bool
  matching : Bool
  expectedPipelineIds : List JsString
  observedPipelineIds : List JsString
  missingPipelineIds : List JsString
  unexpectedPipelineIds : List JsString
  expectedProtocolPackageIds : List JsString
  observedProtocolPackageIds : List JsString
  missingProtocolPackageIds : List JsString
  unexpectedProtocolPackageIds : List JsString

/-- `desiredByHostId`: of two states of one host, the later one. -/
def desiredByHostId (desiredHostStates : List DesiredHostState) : JsMap JsString DesiredHostState :=
  desiredHostStates.foldl (fun states desired => states.set desired.hostId desired) .empty

/-- `observedByHostId`, with the summaries. -/
def reportedByHostId (observedHostStates : List ReportedHostState) :
    JsMap JsString ReportedHostState :=
  observedHostStates.foldl (fun states observed => states.set observed.hostId observed) .empty

/-- The check of a host. -/
def checkHost (precedes : JsString → JsString → Bool) (query : RuntimeSummaryReadModelQuery)
    (hostId : JsString) (desired : Option DesiredHostState) (observed : Option ReportedHostState) :
    RuntimeSummaryCheck :=
  let runtimeSummary := observed.bind (·.summary)
  let expectedPipelineIds := listExpectedPipelineIds precedes desired
  let observedPipelineIds := listObservedPipelineIdsForReadModel precedes runtimeSummary query
  let expectedProtocolPackageIds := listExpectedProtocolPackageIds precedes desired
  let observedProtocolPackageIds := listObservedProtocolPackageIdsForReadModel precedes
    runtimeSummary expectedProtocolPackageIds query
  let missingPipelineIds := computeMissingValues expectedPipelineIds observedPipelineIds
  let unexpectedPipelineIds := computeMissingValues observedPipelineIds expectedPipelineIds
  let missingProtocolPackageIds :=
    computeMissingValues expectedProtocolPackageIds observedProtocolPackageIds
  let unexpectedProtocolPackageIds :=
    computeMissingValues observedProtocolPackageIds expectedProtocolPackageIds
  let status := resolveRuntimeSummaryStatus runtimeSummary.isSome
    (missingPipelineIds.length + missingProtocolPackageIds.length)
    (unexpectedPipelineIds.length + unexpectedProtocolPackageIds.length)
  { hostId
    status
    reported := runtimeSummary.isSome
    matching := status = .matching
    expectedPipelineIds
    observedPipelineIds
    missingPipelineIds
    unexpectedPipelineIds
    expectedProtocolPackageIds
    observedProtocolPackageIds
    missingProtocolPackageIds
    unexpectedProtocolPackageIds }

/-- `buildRuntimeSummaryChecks`. -/
def buildRuntimeSummaryChecks (precedes : JsString → JsString → Bool)
    (desiredHostStates : List DesiredHostState) (observedHostStates : List ReportedHostState)
    (query : RuntimeSummaryReadModelQuery) : List RuntimeSummaryCheck :=
  let hostIds := sortLocale precedes (uniqueHostIds
    (desiredHostStates.map (·.hostId) ++ observedHostStates.map (·.hostId)))
  hostIds.map fun hostId => checkHost precedes query hostId
    ((desiredByHostId desiredHostStates).get hostId)
    ((reportedByHostId observedHostStates).get hostId)

/-- `RuntimeSummaryRollup`. -/
structure RuntimeSummaryRollup where
  totalHosts : ℕ
  reportedHosts : ℕ
  matchingHosts : ℕ
  driftedHosts : ℕ
  notReportedHosts : ℕ

/-- `buildRuntimeSummaryRollup`. -/
def buildRuntimeSummaryRollup (checks : List RuntimeSummaryCheck) : RuntimeSummaryRollup where
  totalHosts := checks.length
  reportedHosts := checks.countP (·.reported)
  matchingHosts := checks.countP (·.matching)
  driftedHosts := checks.countP (·.status = .drift)
  notReportedHosts := checks.countP (·.status = .notReported)

/-! ### Rollouts -/

/-- `AssignmentObservedState | "missing"`. -/
inductive RolloutHostState
  | observed (state : AssignmentObservedState)
  | missing
  deriving DecidableEq

/-- `DeploymentRolloutHostStatus`. -/
structure DeploymentRolloutHostStatus where
  hostId : JsString
  desiredAssignmentId : Option JsString
  desiredVersion : Option JsString
  observedState : Option RolloutHostState
  observedGenerationId : Option JsString
  lastError : Option AssignmentError
  runtimeSummaryReported : Option Bool := none
  runtimeSummaryStatus : Option RuntimeSummaryStatus := none
  runtimeSummaryMissingIds : Option (List JsString) := none
  runtimeSummaryUnexpectedIds : Option (List JsString) := none

/-- `DeploymentRolloutSummary`. -/
structure DeploymentRolloutSummary where
  deploymentId : JsString
  desiredHosts : ℕ
  activeHosts : ℕ
  readyHosts : ℕ
  preparingHosts : ℕ
  drainingHosts : ℕ
  failedHosts : ℕ
  pendingHosts : ℕ
  hosts : List DeploymentRolloutHostStatus

/-- The row of a host for a deployment, if it is to have it or has it. -/
def rolloutHost (observed : Option ReportedHostState) (deploymentId : JsString)
    (desired : DesiredHostState) : Option DeploymentRolloutHostStatus :=
  let desiredAssignment := desired.assignments.find? (·.deploymentId = deploymentId)
  let observedStatus := observed.bind fun observed =>
    observed.assignmentStatuses.find? (·.deploymentId = deploymentId)
  if desiredAssignment.isNone ∧ observedStatus.isNone then none
  else some
    { hostId := desired.hostId
      desiredAssignmentId := desiredAssignment.map (·.assignmentId)
      desiredVersion := desiredAssignment.map (·.declaredVersion)
      observedState := (observedStatus.map fun status => .observed status.state).or
        (desiredAssignment.map fun _ => .missing)
      observedGenerationId := observedStatus.bind (·.generationId)
      lastError := observedStatus.bind (·.lastError) }

/-- The summary of a deployment with its rows. -/
def summarizeRollout (deploymentId : JsString) (hosts : List DeploymentRolloutHostStatus) :
    DeploymentRolloutSummary :=
  let count := fun state => hosts.countP (·.observedState = some state)
  { deploymentId
    desiredHosts := hosts.countP (·.desiredAssignmentId.isSome)
    activeHosts := count (.observed .active)
    readyHosts := count (.observed .ready)
    preparingHosts := count (.observed .preparing)
    drainingHosts := count (.observed .draining)
    failedHosts := count (.observed .failed)
    pendingHosts := count (.observed .pending) + count .missing
    hosts }

/-- `buildDeploymentRolloutSummary`. -/
def buildDeploymentRolloutSummary (precedes : JsString → JsString → Bool)
    (desiredHostStates : List DesiredHostState) (observedHostStates : List ReportedHostState) :
    List DeploymentRolloutSummary :=
  let observedByHostId := reportedByHostId observedHostStates
  let desiredDeploymentIds := uniqueHostIds (desiredHostStates.flatMap fun desired =>
    desired.assignments.map (·.deploymentId))
  let observedOnlyDeploymentIds := uniqueHostIds (observedHostStates.flatMap fun observed =>
    (observed.assignmentStatuses.map (·.deploymentId)).filter (· ∉ desiredDeploymentIds))
  let deploymentIds := sortLocale precedes
    (uniqueHostIds (desiredDeploymentIds ++ observedOnlyDeploymentIds))
  deploymentIds.map fun deploymentId => summarizeRollout deploymentId
    ((desiredHostStates.filterMap fun desired =>
      rolloutHost (observedByHostId.get desired.hostId) deploymentId desired).insertionSort
        fun left right => precedes left.hostId right.hostId = true)

/-- `attachRuntimeSummaryToRolloutHost`. -/
def attachRuntimeSummaryToRolloutHost (precedes : JsString → JsString → Bool)
    (host : DeploymentRolloutHostStatus) (deploymentId : JsString)
    (desired : Option DesiredHostState) (observed : Option ReportedHostState) :
    DeploymentRolloutHostStatus :=
  let expectedIds := listExpectedDeploymentRuntimeIds precedes desired deploymentId
  match observed.bind (·.summary) with
  | none =>
    if 0 < expectedIds.length then
      { host with
        runtimeSummaryReported := some false
        runtimeSummaryStatus := some .notReported
        runtimeSummaryMissingIds := some expectedIds }
    else host
  | some runtimeSummary =>
    let observedIds := listObservedDeploymentRuntimeIds precedes (some runtimeSummary) deploymentId
      expectedIds
    let missingIds := computeMissingValues expectedIds observedIds
    let unexpectedIds := computeMissingValues observedIds expectedIds
    { host with
      runtimeSummaryReported := some true
      runtimeSummaryStatus :=
        some (resolveRuntimeSummaryStatus true missingIds.length unexpectedIds.length)
      runtimeSummaryMissingIds :=
        if 0 < missingIds.length then some missingIds else host.runtimeSummaryMissingIds
      runtimeSummaryUnexpectedIds :=
        if 0 < unexpectedIds.length then some unexpectedIds else host.runtimeSummaryUnexpectedIds }

/-- `attachRuntimeSummaryToDeploymentRolloutSummary`. -/
def attachRuntimeSummaryToDeploymentRolloutSummary (precedes : JsString → JsString → Bool)
    (summaries : List DeploymentRolloutSummary) (desiredHostStates : List DesiredHostState)
    (observedHostStates : List ReportedHostState) : List DeploymentRolloutSummary :=
  summaries.map fun summary =>
    { summary with
      hosts := summary.hosts.map fun host =>
        attachRuntimeSummaryToRolloutHost precedes host summary.deploymentId
          ((desiredByHostId desiredHostStates).get host.hostId)
          ((reportedByHostId observedHostStates).get host.hostId) }

/-! ### Queries -/

/-- `listAssignmentRouteRefs`. -/
def listAssignmentRouteRefs (assignment : Assignment) : List JsString :=
  ((assignment.httpWorker.bind (·.routeRefs)).getD []) ++
    ((assignment.serveApp.bind (·.routeRefs)).getD [])

/-- A turn of `filterDesiredHostStatesForRuntimeSummaryQuery`. -/
def filterDesiredHostState (query : RuntimeSummaryReadModelQuery) (desired : DesiredHostState) :
    Option DesiredHostState :=
  if query.hostId.any (desired.hostId ≠ ·) then none
  else
    match query.deploymentId with
    | none => some desired
    | some deploymentId =>
      let assignments := desired.assignments.filter (·.deploymentId = deploymentId)
      if assignments.length = 0 ∧ query.hostId.isNone then none
      else
        let routeRefs := assignments.flatMap listAssignmentRouteRefs
        some
          { desired with
            assignments
            routes := desired.routes.map fun routes => routes.filter (·.routeId ∈ routeRefs) }

/-- A turn of `filterObservedHostStatesForRuntimeSummaryQuery`. -/
def filterObservedHostState (precedes : JsString → JsString → Bool)
    (query : RuntimeSummaryReadModelQuery) (observed : ReportedHostState) :
    Option ReportedHostState :=
  if query.hostId.any (observed.hostId ≠ ·) then none
  else
    match query.deploymentId with
    | none => some observed
    | some deploymentId =>
      let assignmentStatuses := observed.assignmentStatuses.filter (·.deploymentId = deploymentId)
      let hasObservedPipeline := (listObservedPipelineIds precedes observed.summary).any
        (isRuntimePipelineIdForDeployment · deploymentId)
      let hasObservedProtocolPackage := decide (0 <
        (listObservedProtocolPackageIdsForDeployment precedes observed.summary
          deploymentId).packageIds.length)
      if assignmentStatuses.length = 0 ∧ ¬hasObservedPipeline ∧ ¬hasObservedProtocolPackage ∧
          query.hostId.isNone then none
      else some { observed with assignmentStatuses }

/-- `RuntimeSummaryReadModel`. -/
structure RuntimeSummaryReadModel where
  checks : List RuntimeSummaryCheck
  rollup : RuntimeSummaryRollup
  rolloutSummary : List DeploymentRolloutSummary

/-- `buildRuntimeSummaryReadModel`. -/
def buildRuntimeSummaryReadModel (precedes : JsString → JsString → Bool)
    (desiredHostStates : List DesiredHostState) (observedHostStates : List ReportedHostState)
    (query : RuntimeSummaryReadModelQuery) : RuntimeSummaryReadModel :=
  let scopedDesiredHostStates := desiredHostStates.filterMap (filterDesiredHostState query)
  let scopedObservedHostStates :=
    observedHostStates.filterMap (filterObservedHostState precedes query)
  let checks := buildRuntimeSummaryChecks precedes scopedDesiredHostStates
    scopedObservedHostStates query
  { checks
    rollup := buildRuntimeSummaryRollup checks
    rolloutSummary := attachRuntimeSummaryToDeploymentRolloutSummary precedes
      (buildDeploymentRolloutSummary precedes scopedDesiredHostStates scopedObservedHostStates)
      scopedDesiredHostStates scopedObservedHostStates }

end Hardess

import Hardess.Lib.JsMap
import Hardess.Lib.StringToNumber
import Hardess.Shared.AdminTypes

/-!
# Planning HTTP deployments

`src/sdk/admin/planning.ts`: which hosts a deployment is assigned to, the desired state that is
projected for a host, and the two snapshots of the topology.

* `shouldAssignDeploymentToHost` ranks the candidates unless the plan names its owners;
* `projectHttpWorkerDesiredState` has one assignment and one route for each assigned deployment;
* `buildPlacementSnapshot` collects the owners and the routes of each deployment from the desired
  states.

What rollouts and runtime summaries read is left out, and so are times.
-/

namespace Hardess

/-- What the language provides: `precedes` says of two strings that `localeCompare` puts the first
one not after the second. -/
structure PlanningPlatform where
  precedes : JsString → JsString → Bool
  encodeURIComponent : JsString → JsString

/-- `PlacementCandidateHost`. -/
structure PlacementCandidateHost where
  hostId : JsString
  groupId : Option JsString := none
  staticLabels : Option (JsMap JsString JsString) := none
  staticCapabilities : Option (List JsString) := none
  maxHttpWorkerAssignments : Option ℕ := none
  ready : Option Bool := none
  draining : Option Bool := none
  schedulable : Option Bool := none
  currentAssignmentCount : Option ℕ := none

/-- `HttpWorkerAssignmentMode`. -/
inductive HttpWorkerAssignmentMode
  | selectFirstNHosts
  | allHosts
  deriving DecidableEq

/-- `HttpWorkerRouteScope`. -/
inductive HttpWorkerRouteScope
  | shared
  | perHost
  deriving DecidableEq

/-- The kinds of a plan. -/
inductive HttpDeploymentKind
  | httpWorker
  | serve
  deriving DecidableEq

/-- The kind of the deployment. -/
def HttpDeploymentKind.toDeploymentKind : HttpDeploymentKind → DeploymentKind
  | .httpWorker => .httpWorker
  | .serve => .serve

/-- `HttpWorkerDeploymentPlan["scheduling"]`. -/
structure Scheduling where
  requiredLabels : Option (JsMap JsString JsString) := none
  preferredLabels : Option (JsMap JsString JsString) := none
  requiredCapabilities : Option (List JsString) := none

/-- `HttpWorkerDeploymentPlan`. -/
structure HttpWorkerDeploymentPlan where
  deploymentId : JsString
  deploymentKind : Option HttpDeploymentKind := none
  groupId : Option JsString := none
  declaredVersion : JsString
  manifestId : JsString
  replicas : Option JsNumber := none
  assignmentMode : Option HttpWorkerAssignmentMode := none
  sourceUri : JsString
  sourceDigest : Option JsString := none
  upstreamBaseUrl : Option JsString := none
  workerEntry : JsString
  routeId : JsString
  routePathPrefix : JsString
  routeScope : Option HttpWorkerRouteScope := none
  deployment : Option WorkerDeployment := none
  stickyHostIds : Option (List JsString) := none
  ownerHostIds : Option (List JsString) := none
  scheduling : Option Scheduling := none

/-- `HostRegistration`. -/
structure HostRegistration where
  hostId : JsString
  groupId : Option JsString := none
  nodeId : Option JsString := none
  publicBaseUrl : Option JsString := none
  internalBaseUrl : Option JsString := none
  deriving DecidableEq

/-! ### Candidates -/

/-- `normalizeReplicaCount`. -/
def normalizeReplicaCount : JsNumber → ℕ
  | .finite x => if x.val ≤ 0 then 1 else max 1 ⌊x.val⌋₊
  | _ => 1

/-- `matchesRequiredLabels`. -/
def matchesRequiredLabels (candidate : PlacementCandidateHost)
    (requiredLabels : Option (JsMap JsString JsString)) : Bool :=
  requiredLabels.all fun required => required.entries.all fun label =>
    (candidate.staticLabels.getD .empty).get label.1 = some label.2

/-- `matchesRequiredCapabilities`. -/
def matchesRequiredCapabilities (candidate : PlacementCandidateHost)
    (requiredCapabilities : Option (List JsString)) : Bool :=
  (requiredCapabilities.getD []).all fun capability =>
    (candidate.staticCapabilities.getD []).contains capability

/-- `isCandidateEligible`. -/
def isCandidateEligible (deployment : HttpWorkerDeploymentPlan)
    (candidate : PlacementCandidateHost) : Bool :=
  if deployment.groupId ≠ candidate.groupId then false
  else if candidate.ready = some false ∨ candidate.draining = some true ∨
      candidate.schedulable = some false then false
  else if ¬matchesRequiredLabels candidate (deployment.scheduling.bind (·.requiredLabels)) then
    false
  else if ¬matchesRequiredCapabilities candidate
      (deployment.scheduling.bind (·.requiredCapabilities)) then false
  else candidate.maxHttpWorkerAssignments.all fun maxAssignments =>
    candidate.currentAssignmentCount.getD 0 < maxAssignments

/-- `preferredLabelScore`. -/
def preferredLabelScore (candidate : PlacementCandidateHost)
    (preferredLabels : Option (JsMap JsString JsString)) : ℕ :=
  (preferredLabels.getD .empty).entries.countP fun label =>
    (candidate.staticLabels.getD .empty).get label.1 = some label.2

/-- `compareCandidateHosts`: is the first one not after the second? -/
def compareCandidateHosts (platform : PlanningPlatform) (deployment : HttpWorkerDeploymentPlan)
    (left right : PlacementCandidateHost) : Bool :=
  let stickyHostIds := deployment.stickyHostIds.getD []
  let leftSticky := stickyHostIds.contains left.hostId
  let rightSticky := stickyHostIds.contains right.hostId
  let preferredLabels := deployment.scheduling.bind (·.preferredLabels)
  let leftScore := preferredLabelScore left preferredLabels
  let rightScore := preferredLabelScore right preferredLabels
  let leftAssignments := left.currentAssignmentCount.getD 0
  let rightAssignments := right.currentAssignmentCount.getD 0
  if leftSticky ≠ rightSticky then leftSticky
  else if rightScore ≠ leftScore then rightScore < leftScore
  else if leftAssignments ≠ rightAssignments then leftAssignments < rightAssignments
  else platform.precedes left.hostId right.hostId

/-- `rankCandidateHosts`. -/
def rankCandidateHosts (platform : PlanningPlatform) (deployment : HttpWorkerDeploymentPlan)
    (candidateHosts : List PlacementCandidateHost) : List PlacementCandidateHost :=
  (candidateHosts.filter (isCandidateEligible deployment)).insertionSort fun left right =>
    compareCandidateHosts platform deployment left right = true

/-- `shouldAssignDeploymentToHost`. -/
def shouldAssignDeploymentToHost (platform : PlanningPlatform)
    (deployment : HttpWorkerDeploymentPlan) (hostId : JsString) (registeredHostIds : List JsString)
    (candidateHosts : Option (List PlacementCandidateHost)) : Bool :=
  let candidateHosts := candidateHosts.getD (registeredHostIds.map fun hostId => { hostId })
  let eligibleHosts := rankCandidateHosts platform deployment candidateHosts
  match deployment.ownerHostIds with
  | some ownerHostIds => ownerHostIds.contains hostId
  | none =>
    if deployment.assignmentMode.getD .selectFirstNHosts = .allHosts then
      eligibleHosts.any fun candidate => candidate.hostId = hostId
    else ((eligibleHosts.map (·.hostId)).take
      (normalizeReplicaCount (deployment.replicas.getD (.ofNat 1)))).contains hostId

/-! ### The desired state of a host -/

/-- `buildRouteIdForHost`. -/
def buildRouteIdForHost (hostId : JsString) (deployment : HttpWorkerDeploymentPlan) : JsString :=
  if deployment.routeScope.getD .shared = .perHost then deployment.routeId ++ js ":" ++ hostId
  else deployment.routeId

/-- `buildRoutePathPrefixForHost`. -/
def buildRoutePathPrefixForHost (platform : PlanningPlatform) (hostId : JsString)
    (deployment : HttpWorkerDeploymentPlan) : JsString :=
  if deployment.routeScope.getD .shared = .perHost then
    deployment.routePathPrefix ++ js "/" ++ platform.encodeURIComponent hostId
  else deployment.routePathPrefix

/-- `buildRouteForHost`. -/
def buildRouteForHost (platform : PlanningPlatform) (upstreamBaseUrl hostId : JsString)
    (deployment : HttpWorkerDeploymentPlan) : SharedHttpRoute where
  routeId := buildRouteIdForHost hostId deployment
  pathPrefix := buildRoutePathPrefixForHost platform hostId deployment
  baseUrl := deployment.upstreamBaseUrl.getD upstreamBaseUrl

/-- `deploymentKind ?? "http_worker"`. -/
def HttpWorkerDeploymentPlan.kind (deployment : HttpWorkerDeploymentPlan) : HttpDeploymentKind :=
  deployment.deploymentKind.getD .httpWorker

/-- The executable of an assignment, for either kind. -/
def executableForHost (hostId : JsString) (deployment : HttpWorkerDeploymentPlan) :
    HttpExecutable where
  entry := deployment.workerEntry
  routeRefs := some [buildRouteIdForHost hostId deployment]
  deployment := deployment.deployment

/-- `buildAssignmentForHost`. -/
def buildAssignmentForHost (hostId : JsString) (deployment : HttpWorkerDeploymentPlan) :
    Assignment where
  assignmentId := js "assign:" ++ hostId ++ js ":" ++ deployment.deploymentId
  hostId := hostId
  deploymentId := deployment.deploymentId
  deploymentKind := deployment.kind.toDeploymentKind
  groupId := deployment.groupId
  declaredVersion := deployment.declaredVersion
  artifact := ⟨deployment.manifestId, deployment.sourceUri, deployment.sourceDigest⟩
  httpWorker :=
    if deployment.kind = .httpWorker then some (executableForHost hostId deployment) else none
  serveApp := if deployment.kind = .serve then some (executableForHost hostId deployment) else none

theorem deploymentKind_buildAssignmentForHost_ne (hostId : JsString)
    (deployment : HttpWorkerDeploymentPlan) :
    (buildAssignmentForHost hostId deployment).deploymentKind ≠ .serviceModule := by
  unfold buildAssignmentForHost
  cases deployment.kind <;> simp [HttpDeploymentKind.toDeploymentKind]

/-- The executable is there for either kind. -/
theorem executable_buildAssignmentForHost (hostId : JsString)
    (deployment : HttpWorkerDeploymentPlan) :
    (buildAssignmentForHost hostId deployment).httpWorker.or
      (buildAssignmentForHost hostId deployment).serveApp =
        some (executableForHost hostId deployment) := by
  unfold buildAssignmentForHost
  cases deployment.kind <;> rfl

/-- `Array.prototype.join`. -/
def joinWith (separator : JsString) : List JsString → JsString
  | [] => []
  | [s] => s
  | s :: t :: ss => s ++ separator ++ joinWith separator (t :: ss)

/-- `buildDesiredRevision`. -/
def buildDesiredRevision (platform : PlanningPlatform) (hostId : JsString)
    (revisionToken : JsNumber) (assignments : List Assignment) : JsString :=
  let assignmentKey := joinWith (js "|")
    ((assignments.map fun a => a.deploymentId ++ js ":" ++ a.assignmentId).insertionSort
      fun left right => platform.precedes left right = true)
  js "demo-rev:" ++ JsNumber.text revisionToken ++ js ":" ++ hostId ++ js ":" ++
    if assignmentKey = [] then js "empty" else assignmentKey

/-- `ProjectDesiredHttpWorkersInput`. -/
structure ProjectDesiredHttpWorkersInput where
  hostId : JsString
  upstreamBaseUrl : JsString
  deployments : List HttpWorkerDeploymentPlan
  revisionToken : JsNumber
  registeredHostIds : List JsString
  candidateHosts : Option (List PlacementCandidateHost) := none

/-- `assignedDeployments`. -/
def ProjectDesiredHttpWorkersInput.assignedDeployments (platform : PlanningPlatform)
    (input : ProjectDesiredHttpWorkersInput) : List HttpWorkerDeploymentPlan :=
  input.deployments.filter fun deployment =>
    shouldAssignDeploymentToHost platform deployment input.hostId input.registeredHostIds
      input.candidateHosts

/-- `projectHttpWorkerDesiredState`. -/
def projectHttpWorkerDesiredState (platform : PlanningPlatform)
    (input : ProjectDesiredHttpWorkersInput) : DesiredHostState :=
  let assignedDeployments := input.assignedDeployments platform
  let assignments := assignedDeployments.map (buildAssignmentForHost input.hostId)
  { hostId := input.hostId
    revision := buildDesiredRevision platform input.hostId input.revisionToken assignments
    assignments
    routes := some (assignedDeployments.map
      (buildRouteForHost platform input.upstreamBaseUrl input.hostId)) }

/-! ### The snapshots -/

/-- `buildMembershipSnapshot`; `stateOf` is what the observed states come to. -/
def buildMembershipSnapshot (platform : PlanningPlatform) (revision : JsString)
    (registrations : List HostRegistration) (stateOf : JsString → MembershipHostState) :
    MembershipSnapshot where
  revision := revision
  hosts := (registrations.map fun registration =>
    { hostId := registration.hostId
      groupId := registration.groupId
      nodeId := registration.nodeId
      publicBaseUrl := registration.publicBaseUrl
      internalBaseUrl := registration.internalBaseUrl
      state := stateOf registration.hostId : MembershipHost }).insertionSort fun left right =>
        platform.precedes left.hostId right.hostId = true

/-- A deployment that is being collected; its owners are a `Set`. -/
structure PlacementEntry where
  deploymentId : JsString
  deploymentKind : DeploymentKind
  groupId : Option JsString
  ownerHostIds : List JsString
  routesById : JsMap JsString PlacementRoute

/-- `add` of a `Set`. -/
def addToSet (s : List JsString) (x : JsString) : List JsString := if x ∈ s then s else s ++ [x]

/-- The body of the loop over the route references of an assignment. -/
def addRoute (hostId : JsString) (routesById : JsMap JsString SharedHttpRoute)
    (entry : PlacementEntry) (routeId : JsString) : PlacementEntry :=
  match routesById.get routeId with
  | none => entry
  | some route =>
    let routeEntry := (entry.routesById.get routeId).getD ⟨routeId, route.pathPrefix, []⟩
    let owned := { routeEntry with ownerHostIds := addToSet routeEntry.ownerHostIds hostId }
    { entry with routesById := entry.routesById.set routeId owned }

/-- The route references that are looked at. -/
def Assignment.placementRouteRefs (assignment : Assignment) : List JsString :=
  ((assignment.httpWorker.bind (·.routeRefs)).or
    (assignment.serveApp.bind (·.routeRefs))).getD []

/-- The entry of an assignment before it is looked at. -/
def entryFor (deployments : JsMap JsString PlacementEntry) (assignment : Assignment) :
    PlacementEntry :=
  (deployments.get assignment.deploymentId).getD
    ⟨assignment.deploymentId, assignment.deploymentKind, assignment.groupId, [], .empty⟩

/-- The body of the loop over the assignments of a host. -/
def addAssignment (hostId : JsString) (routesById : JsMap JsString SharedHttpRoute)
    (deployments : JsMap JsString PlacementEntry) (assignment : Assignment) :
    JsMap JsString PlacementEntry :=
  let entry := entryFor deployments assignment
  deployments.set assignment.deploymentId (assignment.placementRouteRefs.foldl
    (addRoute hostId routesById)
    { entry with ownerHostIds := addToSet entry.ownerHostIds hostId })

/-- The routes of a desired state under their ids; a later one replaces an earlier one. -/
def DesiredHostState.routesById (desired : DesiredHostState) : JsMap JsString SharedHttpRoute :=
  (desired.routes.getD []).foldl (fun routes route => routes.set route.routeId route) .empty

/-- The body of the loop over the desired states. -/
def addDesired (deployments : JsMap JsString PlacementEntry) (desired : DesiredHostState) :
    JsMap JsString PlacementEntry :=
  desired.assignments.foldl (addAssignment desired.hostId desired.routesById) deployments

/-- The deployments that are collected. -/
def collectDeployments (desiredHostStates : List DesiredHostState) :
    JsMap JsString PlacementEntry :=
  desiredHostStates.foldl addDesired .empty

/-- Sort ids by `localeCompare`. -/
def sortByLocale (platform : PlanningPlatform) (ids : List JsString) : List JsString :=
  ids.insertionSort fun left right => platform.precedes left right = true

/-- A collected deployment in the snapshot. -/
def PlacementEntry.toDeployment (platform : PlanningPlatform) (entry : PlacementEntry) :
    PlacementDeployment where
  deploymentId := entry.deploymentId
  deploymentKind := entry.deploymentKind
  groupId := entry.groupId
  ownerHostIds := sortByLocale platform entry.ownerHostIds
  routes := ((entry.routesById.entries.map Prod.snd).map fun route =>
    { route with ownerHostIds := sortByLocale platform route.ownerHostIds }).insertionSort
      fun left right => platform.precedes left.routeId right.routeId = true

/-- `buildPlacementSnapshot`. -/
def buildPlacementSnapshot (platform : PlanningPlatform) (revision : JsString)
    (desiredHostStates : List DesiredHostState) : PlacementSnapshot where
  revision := revision
  deployments := (((collectDeployments desiredHostStates).entries.map Prod.snd).map
    (·.toDeployment platform)).insertionSort fun left right =>
      platform.precedes left.deploymentId right.deploymentId = true

end Hardess

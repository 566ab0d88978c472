import Hardess.Control.Placement
import Hardess.Control.RuntimeHostAdapter
import Hardess.Ingress.ForwardHops

/-!
# A converged fleet

Hosts that have applied the desired states projected from one list of deployment plans, with the
topology projected from these.

* `pipelines`: what `buildConfigFromDesiredState` gives when every staging succeeds;
* `handlers`: the assigned deployments with their pipelines (`pipelines_eq`);
* `localMatch`: the assigned deployment with the longest prefix of a path; `picked_eq` says that
  `findPipeline` picks its pipeline.
-/

namespace Hardess

open Posix (Path)

/-- Hosts, deployment plans, and what the hosts are like: `localEntry` is what staging gives, and
`health` how a host sees its peers. All hosts are ready, and no host takes another one for dead. -/
structure HttpFleet where
  platform : PlanningPlatform
  options : RuntimeHostAdapterOptions
  registrations : List HostRegistration
  plans : List HttpWorkerDeploymentPlan
  candidateHosts : Option (List PlacementCandidateHost) := none
  upstreamBaseUrl : JsString
  revisionToken : JsNumber := .ofNat 1
  revision : JsString := js "topology"
  clusterSharedSecret : Option JsString := none
  localEntry : Assignment → Path
  health : JsString → JsMap JsString ClusterPeerHealthStatus := fun _ => .empty
  randomUUID : JsString → JsString := fun _ => js "trace"
  healthy : ∀ hostId nodeId, (health hostId).get nodeId ≠ some .dead := by simp

namespace HttpFleet

variable (fleet : HttpFleet)

/-- What the desired state of a host is projected from. -/
def projectionInput (hostId : JsString) : ProjectDesiredHttpWorkersInput where
  hostId := hostId
  upstreamBaseUrl := fleet.upstreamBaseUrl
  deployments := fleet.plans
  revisionToken := fleet.revisionToken
  registeredHostIds := fleet.registrations.map (·.hostId)
  candidateHosts := fleet.candidateHosts

/-- The deployments that are assigned to a host. -/
def assigned (hostId : JsString) : List HttpWorkerDeploymentPlan :=
  (fleet.projectionInput hostId).assignedDeployments fleet.platform

/-- The desired state of a host. -/
def desired (hostId : JsString) : DesiredHostState :=
  projectHttpWorkerDesiredState fleet.platform (fleet.projectionInput hostId)

/-- The topology that every host has. -/
def topology : DesiredTopology where
  membership := buildMembershipSnapshot fleet.platform fleet.revision fleet.registrations
    fun _ => .ready
  placement := buildPlacementSnapshot fleet.platform fleet.revision
    (fleet.registrations.map fun registration => fleet.desired registration.hostId)

/-- The pipelines of a host that has applied its desired state. -/
def pipelines (hostId : JsString) : List PipelineConfig :=
  let desired := fleet.desired hostId
  ((buildConfigFromDesiredState fleet.options desired.routesById 0 (js "admin:" ++ desired.revision)
    (desired.assignments.map fun assignment => (assignment, .ok (fleet.localEntry assignment)))
    .empty).2.toOption).getD []

/-- What `handleHttpRequest` has at a host. -/
def deps (registration : HostRegistration) : HttpRuntimeDeps where
  pipelines := fleet.pipelines registration.hostId
  nodeId := registration.nodeId
  clusterSharedSecret := fleet.clusterSharedSecret
  topologyStore := some
    { precedes := fleet.platform.precedes
      hosts := fleet.topology.membership.hosts
      deployments := fleet.topology.placement.deployments
      runtimePeerHealthByNodeId := fleet.health registration.hostId }
  randomUUID := fleet.randomUUID registration.hostId

/-- The host behind a base URL. -/
def hostAt (baseUrl : JsString) : Option HostRegistration :=
  fleet.registrations.find? fun registration =>
    registration.internalBaseUrl.or registration.publicBaseUrl = some baseUrl

/-! ### The pipelines of a host -/

/-- The route of an assigned deployment on a host. -/
def routeOn (hostId : JsString) (deployment : HttpWorkerDeploymentPlan) : SharedHttpRoute :=
  ((fleet.desired hostId).routesById.get (buildRouteIdForHost hostId deployment)).getD
    (buildRouteForHost fleet.platform fleet.upstreamBaseUrl hostId deployment)

/-- Its pipeline there. -/
def pipelineFor (hostId : JsString) (deployment : HttpWorkerDeploymentPlan) : PipelineConfig :=
  let assignment := buildAssignmentForHost hostId deployment
  let executable := executableForHost hostId deployment
  pipelineOf fleet.options assignment executable
    (if isExternalServe assignment executable then none else some (fleet.localEntry assignment))
    (fleet.routeOn hostId deployment)

/-- The assigned deployments, each with its pipeline. -/
def handlers (hostId : JsString) : List (HttpWorkerDeploymentPlan × PipelineConfig) :=
  (fleet.assigned hostId).map fun deployment => (deployment, fleet.pipelineFor hostId deployment)

variable {fleet} {hostId : JsString}

theorem routesById_get_isSome {deployment : HttpWorkerDeploymentPlan}
    (h : deployment ∈ fleet.assigned hostId) :
    ((fleet.desired hostId).routesById.get (buildRouteIdForHost hostId deployment)).isSome = true :=
  JsMap.get_foldl_set_isSome (fun route : SharedHttpRoute => route.routeId) id
    (List.mem_map_of_mem h) .empty

theorem routesById_get {deployment : HttpWorkerDeploymentPlan}
    (h : deployment ∈ fleet.assigned hostId) :
    (fleet.desired hostId).routesById.get (buildRouteIdForHost hostId deployment) =
      some (fleet.routeOn hostId deployment) := by
  obtain ⟨route, hroute⟩ := Option.isSome_iff_exists.1 (routesById_get_isSome h)
  rw [routeOn, hroute, Option.getD_some]

/-- One assigned deployment gives one pipeline. -/
theorem buildAssignment_eq {deployment : HttpWorkerDeploymentPlan}
    (h : deployment ∈ fleet.assigned hostId) :
    buildAssignment fleet.options (fleet.desired hostId).routesById
        (buildAssignmentForHost hostId deployment)
        (.ok (fleet.localEntry (buildAssignmentForHost hostId deployment))) =
      .built [fleet.pipelineFor hostId deployment] := by
  have hroutes : resolveRoutes (fleet.desired hostId).routesById
      ((executableForHost hostId deployment).routeRefs.getD []) =
        .ok [fleet.routeOn hostId deployment] := by
    simp [executableForHost, resolveRoutes, routesById_get h, Except.map]
  rw [buildAssignment, if_neg (deploymentKind_buildAssignmentForHost_ne hostId deployment),
    httpExecutable, executable_buildAssignmentForHost]
  cases hserve : isExternalServe (buildAssignmentForHost hostId deployment)
      (executableForHost hostId deployment) with
  | true => simp [hserve, hroutes, pipelineFor]
  | false => simp [hserve, hroutes, pipelineFor, Except.map]

/-- The pipelines of a host are those of the assigned deployments, in their order. -/
theorem pipelines_eq (hostId : JsString) :
    fleet.pipelines hostId = (fleet.handlers hostId).map Prod.snd := by
  have hbuild : ∀ (deployments : List HttpWorkerDeploymentPlan) (now : ℕ) (generationId : JsString)
      (states : AssignmentStates), (∀ d ∈ deployments, d ∈ fleet.assigned hostId) →
        (buildConfigFromDesiredState fleet.options (fleet.desired hostId).routesById now
          generationId ((deployments.map (buildAssignmentForHost hostId)).map fun assignment =>
            (assignment, .ok (fleet.localEntry assignment))) states).2 =
          .ok (deployments.map (fleet.pipelineFor hostId)) := by
    intro deployments now generationId
    induction deployments with
    | nil => exact fun _ _ => rfl
    | cons d deployments ih =>
      intro states hmem
      have hrest := ih (recordBuild now generationId states
        (buildAssignmentForHost hostId d).assignmentId (.built [fleet.pipelineFor hostId d]))
        fun e he => hmem e (List.mem_cons_of_mem _ he)
      simp only [List.map_cons, buildConfigFromDesiredState,
        buildAssignment_eq (hmem d List.mem_cons_self), hrest, Except.map, List.singleton_append]
  have hassignments : (fleet.desired hostId).assignments =
      (fleet.assigned hostId).map (buildAssignmentForHost hostId) := rfl
  rw [pipelines, hassignments, hbuild (fleet.assigned hostId) _ _ _ fun _ h => h, handlers,
    List.map_map]
  rfl

/-! ### The deployment that takes a path -/

/-- The prefix of an assigned deployment on a host. -/
def prefixOn (fleet : HttpFleet) (hostId : JsString) (deployment : HttpWorkerDeploymentPlan) :
    JsString :=
  (fleet.routeOn hostId deployment).pathPrefix

/-- The assigned deployments whose prefix matches a path. -/
def matching (fleet : HttpFleet) (hostId pathname : JsString) : List HttpWorkerDeploymentPlan :=
  (fleet.assigned hostId).filter fun deployment => fleet.prefixOn hostId deployment <+: pathname

/-- The first one of them with the longest prefix. -/
def localMatch (fleet : HttpFleet) (hostId pathname : JsString) :
    Option HttpWorkerDeploymentPlan :=
  (fleet.matching hostId pathname).argmax fun deployment =>
    (fleet.prefixOn hostId deployment).length

/-- What `findPipeline` picks, with its deployment. -/
def picked (fleet : HttpFleet) (hostId pathname : JsString) :
    Option (HttpWorkerDeploymentPlan × PipelineConfig) :=
  ((fleet.handlers hostId).insertionSort fun left right =>
    right.2.matchPrefix.length ≤ left.2.matchPrefix.length).find? fun handler =>
      handler.2.matchPrefix <+: pathname

/-- It is what the code picks. -/
theorem picked_snd (registration : HostRegistration) (pathname : JsString) :
    (fleet.picked registration.hostId pathname).map Prod.snd =
      findPipeline pathname (fleet.deps registration).pipelines := by
  have hpipelines : (fleet.deps registration).pipelines =
      (fleet.handlers registration.hostId).map Prod.snd := pipelines_eq _
  rw [hpipelines]
  exact (LongestMatch.find?_insertionSort_map
    (fun pipeline : PipelineConfig => pipeline.matchPrefix.length)
    (fun pipeline => decide (pipeline.matchPrefix <+: pathname)) Prod.snd _).symm

/-- Its deployment is the first one with the longest prefix. -/
theorem picked_fst (hostId pathname : JsString) :
    (fleet.picked hostId pathname).map Prod.fst = fleet.localMatch hostId pathname := by
  have hpicked := LongestMatch.find?_insertionSort_map
    (fun handler : HttpWorkerDeploymentPlan × PipelineConfig => handler.2.matchPrefix.length)
    (fun handler => decide (handler.2.matchPrefix <+: pathname))
    (fun deployment => (deployment, fleet.pipelineFor hostId deployment)) (fleet.assigned hostId)
  rw [picked, handlers, hpicked, Option.map_map]
  exact (congrArg (Option.map id) (LongestMatch.find?_insertionSort
    (fun deployment => (fleet.prefixOn hostId deployment).length)
    (fun deployment => decide (fleet.prefixOn hostId deployment <+: pathname))
    (fleet.assigned hostId))).trans Option.map_id'

end HttpFleet

end Hardess

import Hardess.Control.IngressRequirements
import Hardess.Control.Placement
import Hardess.Lib.JsMapGroup

/-!
# The deployments of a placement snapshot

The loops of `buildPlacementSnapshot`, read off at the end: a snapshot has one deployment for each
deployment id, with what the desired states say of it.

* `RouteMention`: a host has an assignment that refers to a route which the host has;
* `placementDeployment`, `placementRoute`: what is listed of a deployment and of a route;
* `buildPlacementSnapshot_deployments`: the snapshot lists just that.
-/

namespace Hardess

open OrderIndependence

/-! ### What a desired state says of a deployment -/

/-- A host has an assignment that refers to a route, and has that route. -/
structure RouteMention where
  hostId : JsString
  routeId : JsString
  pathPrefix : JsString

namespace DesiredHostState

variable (desired : DesiredHostState) (deploymentId routeId : JsString)

/-- The assignments of a deployment. -/
def assignmentsOf : List Assignment :=
  desired.assignments.filter fun a => a.deploymentId = deploymentId

/-- The routes that an assignment refers to and the host has. -/
def mentionsIn (assignment : Assignment) : List RouteMention :=
  assignment.placementRouteRefs.filterMap fun routeId =>
    (desired.routesById.get routeId).map fun route => ⟨desired.hostId, routeId, route.pathPrefix⟩

/-- The routes of a deployment. -/
def mentionsOf : List RouteMention :=
  (desired.assignmentsOf deploymentId).flatMap desired.mentionsIn

/-- A route of a deployment. -/
def mentionsOfRoute : List RouteMention :=
  (desired.mentionsOf deploymentId).filter fun mention => mention.routeId = routeId

/-- The deployments of a host. -/
def deploymentIds : List JsString := desired.assignments.map (·.deploymentId)

/-- What is taken of the first assignment of a deployment. -/
def kindAndGroup : Option (DeploymentKind × Option JsString) :=
  (desired.assignmentsOf deploymentId).head?.map fun a => (a.deploymentKind, a.groupId)

/-- The host, once for each assignment of the deployment. -/
def ownersOf : List JsString := (desired.assignmentsOf deploymentId).map fun _ => desired.hostId

/-- The routes that are found, by their ids. -/
def routeIdsOf : List JsString := (desired.mentionsOf deploymentId).map (·.routeId)

/-- The prefix of a route of the deployment. -/
def prefixOf : Option JsString :=
  (desired.mentionsOfRoute deploymentId routeId).head?.map (·.pathPrefix)

/-- The host, once for each reference to the route. -/
def routeOwnersOf : List JsString := (desired.mentionsOfRoute deploymentId routeId).map (·.hostId)

end DesiredHostState

/-! ### What is listed -/

section Listed

variable (platform : PlanningPlatform) (l : List DesiredHostState) (deploymentId routeId : JsString)

/-- A route of a deployment. -/
def placementRoute : PlacementRoute where
  routeId := routeId
  pathPrefix := (l.findSome? fun s => s.prefixOf deploymentId routeId).getD []
  ownerHostIds :=
    sortByLocale platform (distinct (l.flatMap fun s => s.routeOwnersOf deploymentId routeId))

/-- A deployment. -/
def placementDeployment : PlacementDeployment where
  deploymentId := deploymentId
  deploymentKind :=
    ((l.findSome? fun s => s.kindAndGroup deploymentId).getD (.httpWorker, none)).1
  groupId := ((l.findSome? fun s => s.kindAndGroup deploymentId).getD (.httpWorker, none)).2
  ownerHostIds := sortByLocale platform (distinct (l.flatMap fun s => s.ownersOf deploymentId))
  routes := (sortByLocale platform (distinct (l.flatMap fun s => s.routeIdsOf deploymentId))).map
    (placementRoute platform l deploymentId)

end Listed

/-! ### The routes of an entry -/

/-- What a mention makes of the entry of its route. -/
def RouteMention.addTo (mention : RouteMention) (entry : Option PlacementRoute) : PlacementRoute :=
  let routeEntry := entry.getD ⟨mention.routeId, mention.pathPrefix, []⟩
  { routeEntry with ownerHostIds := addToSet routeEntry.ownerHostIds mention.hostId }

/-- The entry of a route after its mentions. -/
def routeEntryOf (first : RouteMention) (mentions : List RouteMention) : PlacementRoute :=
  ⟨first.routeId, first.pathPrefix, distinct (mentions.map (·.hostId))⟩

/-- The routes of an entry after some mentions. -/
def collectRoutes (mentions : List RouteMention) (routesById : JsMap JsString PlacementRoute) :
    JsMap JsString PlacementRoute :=
  mentions.foldl (JsMap.upsert (·.routeId) RouteMention.addTo) routesById

theorem addToSet_eq (s : List JsString) (x : JsString) : addToSet s x = insertNew s x := by
  unfold addToSet insertNew
  split_ifs <;> rfl

theorem foldl_addRoute (desired : DesiredHostState) (refs : List JsString)
    (entry : PlacementEntry) :
    refs.foldl (addRoute desired.hostId desired.routesById) entry =
      { entry with routesById := collectRoutes (refs.filterMap fun routeId =>
          (desired.routesById.get routeId).map fun route =>
            ⟨desired.hostId, routeId, route.pathPrefix⟩) entry.routesById } := by
  induction refs generalizing entry with
  | nil => rfl
  | cons routeId refs ih =>
    rw [List.foldl_cons, ih, List.filterMap_cons, addRoute]
    cases desired.routesById.get routeId <;> rfl

/-- **The routes that are collected**: one for each id, with the first prefix. -/
theorem values_collectRoutes (mentions : List RouteMention) {group : JsString → PlacementRoute}
    (hgroup : ∀ k m, (mentions.filter fun m => m.routeId = k).head? = some m →
      routeEntryOf m (mentions.filter fun m => m.routeId = k) = group k) :
    (collectRoutes mentions .empty).entries.map Prod.snd =
      (distinct (mentions.map (·.routeId))).map group := by
  refine JsMap.values_foldl_upsert_eq routeEntryOf (fun _ => rfl) (fun m ms m' => ?_) hgroup
  unfold RouteMention.addTo routeEntryOf
  rw [List.map_append, List.map_singleton, distinct_concat, ← addToSet_eq]
  rfl

/-! ### The entries -/

/-- An assignment of a host. -/
abbrev HostAssignment := DesiredHostState × Assignment

/-- What an assignment makes of the entry of its deployment. -/
def addHostAssignment (p : HostAssignment) (entry : Option PlacementEntry) : PlacementEntry :=
  let entry := entry.getD
    ⟨p.2.deploymentId, p.2.deploymentKind, p.2.groupId, [], .empty⟩
  p.2.placementRouteRefs.foldl (addRoute p.1.hostId p.1.routesById)
    { entry with ownerHostIds := addToSet entry.ownerHostIds p.1.hostId }

/-- The entry of a deployment after its assignments. -/
def entryOf (first : HostAssignment) (ps : List HostAssignment) : PlacementEntry where
  deploymentId := first.2.deploymentId
  deploymentKind := first.2.deploymentKind
  groupId := first.2.groupId
  ownerHostIds := distinct (ps.map (·.1.hostId))
  routesById := collectRoutes (ps.flatMap fun p => p.1.mentionsIn p.2) .empty

/-- The assignments of all hosts. -/
def hostAssignments (l : List DesiredHostState) : List HostAssignment :=
  l.flatMap fun s => s.assignments.map fun a => (s, a)

theorem collectDeployments_eq (l : List DesiredHostState) : collectDeployments l =
    (hostAssignments l).foldl (JsMap.upsert (·.2.deploymentId) addHostAssignment) .empty := by
  rw [hostAssignments, List.foldl_flatMap, collectDeployments]
  refine congrArg (fun step => l.foldl step JsMap.empty) ?_
  funext deployments desired
  rw [List.foldl_map]
  rfl

theorem hostAssignments_filter (l : List DesiredHostState) (deploymentId : JsString) :
    ((hostAssignments l).filter fun p => p.2.deploymentId = deploymentId) =
      l.flatMap fun s => (s.assignmentsOf deploymentId).map fun a => (s, a) := by
  rw [hostAssignments, List.filter_flatMap]
  simp only [List.filter_map]
  rfl

/-- The entry of a deployment, by what the hosts say of it. -/
def placementEntry (l : List DesiredHostState) (deploymentId : JsString) : PlacementEntry where
  deploymentId := deploymentId
  deploymentKind :=
    ((l.findSome? fun s => s.kindAndGroup deploymentId).getD (.httpWorker, none)).1
  groupId := ((l.findSome? fun s => s.kindAndGroup deploymentId).getD (.httpWorker, none)).2
  ownerHostIds := distinct (l.flatMap fun s => s.ownersOf deploymentId)
  routesById := collectRoutes (l.flatMap fun s => s.mentionsOf deploymentId) .empty

theorem addHostAssignment_start (p : HostAssignment) :
    addHostAssignment p none = entryOf p [p] := by
  unfold addHostAssignment
  rw [foldl_addRoute, entryOf, List.flatMap_singleton]
  rfl

theorem addHostAssignment_add (p : HostAssignment) (ps : List HostAssignment)
    (q : HostAssignment) : addHostAssignment q (some (entryOf p ps)) = entryOf p (ps ++ [q]) := by
  unfold addHostAssignment
  rw [foldl_addRoute]
  simp only [entryOf, List.map_append, List.map_singleton, distinct_concat, ← addToSet_eq,
    List.flatMap_append, List.flatMap_singleton, collectRoutes, List.foldl_append,
    Option.getD_some]
  rfl

/-- **The deployments that are collected**: one for each id. -/
theorem values_collectDeployments (l : List DesiredHostState) :
    (collectDeployments l).entries.map Prod.snd =
      (distinct (l.flatMap (·.deploymentIds))).map (placementEntry l) := by
  have hids : (hostAssignments l).map (·.2.deploymentId) = l.flatMap (·.deploymentIds) := by
    rw [hostAssignments, List.map_flatMap]
    simp only [List.map_map]
    rfl
  rw [collectDeployments_eq, ← hids]
  refine JsMap.values_foldl_upsert_eq entryOf addHostAssignment_start addHostAssignment_add ?_
  intro deploymentId p hp
  have hid : p.2.deploymentId = deploymentId :=
    of_decide_eq_true (List.mem_filter.1 (List.mem_of_mem_head? hp)).2
  rw [hostAssignments_filter] at hp ⊢
  have hfirst : (l.findSome? fun s => s.kindAndGroup deploymentId) =
      some (p.2.deploymentKind, p.2.groupId) := by
    rw [List.head?_flatMap] at hp
    have hmap := congrArg (Option.map fun p : HostAssignment =>
      (p.2.deploymentKind, p.2.groupId)) hp
    rw [List.map_findSome?] at hmap
    refine Eq.trans ?_ hmap
    congr 1
    funext s
    rw [Function.comp_apply, List.head?_map, Option.map_map]
    rfl
  unfold entryOf placementEntry
  rw [hfirst, hid, List.map_flatMap, List.flatMap_assoc]
  simp only [List.map_map, List.flatMap_map]
  rfl

/-- The entry of a route, by what the hosts say of it. -/
def placementRouteEntry (l : List DesiredHostState) (deploymentId routeId : JsString) :
    PlacementRoute where
  routeId := routeId
  pathPrefix := (l.findSome? fun s => s.prefixOf deploymentId routeId).getD []
  ownerHostIds := distinct (l.flatMap fun s => s.routeOwnersOf deploymentId routeId)

/-- **The routes of a deployment that are collected**: one for each id. -/
theorem values_routesById (l : List DesiredHostState) (deploymentId : JsString) :
    (placementEntry l deploymentId).routesById.entries.map Prod.snd =
      (distinct (l.flatMap fun s => s.routeIdsOf deploymentId)).map
        (placementRouteEntry l deploymentId) := by
  have hids : (l.flatMap fun s => s.mentionsOf deploymentId).map (·.routeId) =
      l.flatMap fun s => s.routeIdsOf deploymentId := List.map_flatMap
  rw [← hids]
  refine values_collectRoutes _ fun routeId mention hhead => ?_
  have hid : mention.routeId = routeId :=
    of_decide_eq_true (List.mem_filter.1 (List.mem_of_mem_head? hhead)).2
  rw [List.filter_flatMap] at hhead ⊢
  have hstarts : (l.findSome? fun s => s.prefixOf deploymentId routeId) =
      some mention.pathPrefix := by
    rw [List.head?_flatMap] at hhead
    rw [← Option.map_some (f := fun m : RouteMention => m.pathPrefix), ← hhead, List.map_findSome?]
    rfl
  unfold routeEntryOf placementRouteEntry
  rw [hstarts, hid, List.map_flatMap]
  rfl

/-! ### The snapshot -/

theorem toDeployment_placementEntry (platform : PlanningPlatform) (l : List DesiredHostState)
    (deploymentId : JsString) : (placementEntry l deploymentId).toDeployment platform =
      placementDeployment platform l deploymentId := by
  unfold PlacementEntry.toDeployment
  rw [values_routesById, List.map_map]
  have hsort := List.map_insertionSort
    (fun left right => platform.precedes left right = true)
    (fun left right => platform.precedes left.routeId right.routeId = true)
    (placementRoute platform l deploymentId)
    (distinct (l.flatMap fun s => s.routeIdsOf deploymentId)) fun _ _ _ _ => Iff.rfl
  exact congrArg (fun routes => PlacementDeployment.mk _ _ _ _ routes) hsort.symm

/-- **The snapshot has one deployment for each id, with what the desired states say of it.** -/
theorem buildPlacementSnapshot_deployments (platform : PlanningPlatform) (revision : JsString)
    (l : List DesiredHostState) : (buildPlacementSnapshot platform revision l).deployments =
      (sortByLocale platform (distinct (l.flatMap (·.deploymentIds)))).map
        (placementDeployment platform l) := by
  unfold buildPlacementSnapshot sortByLocale
  dsimp only
  rw [values_collectDeployments, List.map_map]
  have hsort := List.map_insertionSort
    (fun left right => platform.precedes left right = true)
    (fun left right => platform.precedes left.deploymentId right.deploymentId = true)
    (placementDeployment platform l) (distinct (l.flatMap (·.deploymentIds))) fun _ _ _ _ => Iff.rfl
  rw [hsort]
  refine congrArg (List.insertionSort _) (List.map_congr_left fun deploymentId _ => ?_)
  exact toDeployment_placementEntry platform l deploymentId

end Hardess

import Hardess.App.RoutingApp
import Hardess.Lib.LongestMatch
import Hardess.Lib.StringToNumber

/-!
# Where a request is forwarded to

The part of `src/runtime/control/topology-store.ts` that answers HTTP requests: the best route for
a path, the owners of the route that can be reached, and which of them is picked.

* `findBestRoute_eq`: the best route is the first longest one that matches;
* `resolveHttpRouteTarget_spec`: what is resolved is an owner of it, not the node itself, not dead
  and not offline;
* `resolveHttpRouteTarget_isSome_iff`: when there is one.
-/

namespace Hardess

/-- `RuntimeTopologyStore`, with the deployments of the placement. -/
structure HttpTopologyStore extends RuntimeTopologyStore where
  deployments : List PlacementDeployment := []

/-- `ResolvedHttpRouteTarget`. -/
structure ResolvedHttpRouteTarget where
  hostId : JsString
  nodeId : Option JsString
  baseUrl : JsString
  pathPrefix : JsString
  routeId : JsString
  deriving DecidableEq

/-- A target with the host that it is on. -/
structure RouteTarget extends ResolvedHttpRouteTarget where
  host : MembershipHost
  deriving DecidableEq

/-- `stableHash`. -/
def stableHash (value : JsString) : ℕ :=
  value.foldl (fun hash u => (hash * 31 + u.toNat) % 2 ^ 32) 0

namespace HttpTopologyStore

variable (store : HttpTopologyStore)

/-- The routes of all deployments, in the order of the loops of `findBestRoute`. -/
def routes : List PlacementRoute := store.deployments.flatMap (·.routes)

/-- `findBestRoute`. -/
def findBestRoute (pathname : JsString) : Option PlacementRoute :=
  store.routes.foldl (LongestMatch.better (·.pathPrefix.length)
    fun route => route.pathPrefix <+: pathname) none

/-- The hosts of the membership under their ids; a later one replaces an earlier one. -/
def hostsById : JsMap JsString MembershipHost :=
  store.hosts.foldl (fun m host => m.set host.hostId host) .empty

/-- The target that an owner is, if it is one. -/
def routeTarget (route : PlacementRoute) (hostId : JsString) : Option RouteTarget := do
  let host ← store.hostsById.get hostId
  let baseUrl ← (host.internalBaseUrl.or host.publicBaseUrl).filter (· ≠ [])
  some { hostId, nodeId := host.nodeId, baseUrl, pathPrefix := route.pathPrefix,
         routeId := route.routeId, host }

/-- `buildRouteTargets`. -/
def buildRouteTargets (route : PlacementRoute) : List RouteTarget :=
  route.ownerHostIds.filterMap (store.routeTarget route)

/-- `peerStatus`, of a node id that may be missing. -/
def statusOf (nodeId : Option JsString) : ClusterPeerHealthStatus :=
  (nodeId.map store.peerStatus).getD .unknown

/-- The targets in the order of their hosts. -/
def sortTargets (targets : List RouteTarget) : List RouteTarget :=
  targets.insertionSort fun left right => store.precedes left.hostId right.hostId = true

/-- The place of the target that is picked. -/
def pickIndex (sortedTargets : List RouteTarget) (traceKey : Option JsString) : ℕ :=
  let byDefault := (sortedTargets.head?.map (·.routeId)).getD [] ++ js ":" ++
    JsNumber.text (.ofNat sortedTargets.length)
  if sortedTargets.length = 1 then 0
  else stableHash (traceKey.getD byDefault) % sortedTargets.length

/-- `pickTarget`; nothing is picked from no targets. -/
def pickTarget (targets : List RouteTarget) (traceKey : Option JsString) :
    Option ResolvedHttpRouteTarget :=
  let sortedTargets := store.sortTargets targets
  (sortedTargets[pickIndex sortedTargets traceKey]?.or sortedTargets.head?).map
    (·.toResolvedHttpRouteTarget)

/-- The owners of a route that the node may forward to. -/
def routeTargets (route : PlacementRoute) (selfNodeId : Option JsString) : List RouteTarget :=
  ((store.buildRouteTargets route).filter fun target => target.nodeId ≠ selfNodeId).filter
    fun target => store.statusOf target.nodeId ≠ .dead

/-- Those in a state, suspected or not. -/
def targetsIn (targets : List RouteTarget) (state : MembershipHostState) (suspect : Bool) :
    List RouteTarget :=
  (targets.filter fun target => target.host.state = state).filter fun target =>
    decide (store.statusOf target.nodeId = .suspect) = suspect

/-- `resolveHttpRouteTarget`. -/
def resolveHttpRouteTarget (pathname : JsString) (selfNodeId traceKey : Option JsString) :
    Option ResolvedHttpRouteTarget := do
  let route ← store.findBestRoute pathname
  let targets := store.routeTargets route selfNodeId
  let readyTargets := store.targetsIn targets .ready false
  let suspectReadyTargets := store.targetsIn targets .ready true
  let drainingTargets := store.targetsIn targets .draining false
  let suspectDrainingTargets := store.targetsIn targets .draining true
  if readyTargets ≠ [] then store.pickTarget readyTargets traceKey
  else if suspectReadyTargets ≠ [] then store.pickTarget suspectReadyTargets traceKey
  else if drainingTargets ≠ [] then store.pickTarget drainingTargets traceKey
  else if suspectDrainingTargets ≠ [] then store.pickTarget suspectDrainingTargets traceKey
  else none

/-! ### The best route -/

variable {store}

theorem findBestRoute_eq (pathname : JsString) :
    store.findBestRoute pathname =
      (store.routes.filter fun route => route.pathPrefix <+: pathname).argmax
        (·.pathPrefix.length) :=
  LongestMatch.foldl_better ..

theorem findBestRoute_spec {pathname : JsString} {route : PlacementRoute}
    (h : store.findBestRoute pathname = some route) :
    route ∈ store.routes ∧ route.pathPrefix <+: pathname ∧
      ∀ r ∈ store.routes, r.pathPrefix <+: pathname →
        r.pathPrefix.length ≤ route.pathPrefix.length := by
  rw [findBestRoute_eq] at h
  have hmem := List.mem_filter.1 (List.argmax_mem h)
  refine ⟨hmem.1, of_decide_eq_true hmem.2, fun r hr hp => ?_⟩
  exact List.le_of_mem_argmax (f := fun r : PlacementRoute => r.pathPrefix.length)
    (List.mem_filter.2 ⟨hr, decide_eq_true hp⟩) h

theorem findBestRoute_eq_none_iff {pathname : JsString} :
    store.findBestRoute pathname = none ↔
      ∀ route ∈ store.routes, ¬route.pathPrefix <+: pathname := by
  rw [findBestRoute_eq, List.argmax_eq_none, List.filter_eq_nil_iff]
  simp only [decide_eq_true_eq]

/-! ### The targets -/

theorem mem_sortTargets {targets : List RouteTarget} {t : RouteTarget} :
    t ∈ store.sortTargets targets ↔ t ∈ targets :=
  (List.perm_insertionSort _ targets).mem_iff

theorem pickTarget_spec {targets : List RouteTarget} {traceKey : Option JsString}
    {target : ResolvedHttpRouteTarget} (h : store.pickTarget targets traceKey = some target) :
    ∃ t ∈ targets, t.toResolvedHttpRouteTarget = target := by
  obtain ⟨t, ht, rfl⟩ := Option.map_eq_some_iff.1 h
  suffices hmem : t ∈ store.sortTargets targets from ⟨t, mem_sortTargets.1 hmem, rfl⟩
  rcases Option.or_eq_some_iff.1 ht with h | ⟨-, h⟩
  · exact List.mem_of_getElem? h
  · exact List.mem_of_mem_head? h

theorem pickTarget_isSome {targets : List RouteTarget} (h : targets ≠ [])
    (traceKey : Option JsString) : (store.pickTarget targets traceKey).isSome = true := by
  obtain ⟨t, ht⟩ := List.exists_mem_of_ne_nil targets h
  have hhead : (store.sortTargets targets).head?.isSome = true :=
    List.isSome_head?.2 (List.ne_nil_of_mem (mem_sortTargets.2 ht))
  rw [pickTarget, Option.isSome_map, Option.isSome_or, hhead, Bool.or_true]

theorem mem_targetsIn {targets : List RouteTarget} {state : MembershipHostState} {suspect : Bool}
    {t : RouteTarget} :
    t ∈ store.targetsIn targets state suspect ↔
      t ∈ targets ∧ t.host.state = state ∧
        decide (store.statusOf t.nodeId = .suspect) = suspect := by
  simp only [targetsIn, List.mem_filter, decide_eq_true_eq, and_assoc]

theorem mem_routeTargets {route : PlacementRoute} {selfNodeId : Option JsString} {t : RouteTarget} :
    t ∈ store.routeTargets route selfNodeId ↔
      t ∈ store.buildRouteTargets route ∧ t.nodeId ≠ selfNodeId ∧
        store.statusOf t.nodeId ≠ .dead := by
  simp only [routeTargets, List.mem_filter, decide_eq_true_eq, ne_eq, and_assoc]

/-- The groups of targets in the order in which they are tried. -/
def groups (store : HttpTopologyStore) (targets : List RouteTarget) : List (List RouteTarget) :=
  [store.targetsIn targets .ready false, store.targetsIn targets .ready true,
   store.targetsIn targets .draining false, store.targetsIn targets .draining true]

/-- The first group that is not empty is picked from. -/
theorem resolveHttpRouteTarget_eq (pathname : JsString) (selfNodeId traceKey : Option JsString) :
    store.resolveHttpRouteTarget pathname selfNodeId traceKey =
      (store.findBestRoute pathname).bind fun route =>
        ((store.groups (store.routeTargets route selfNodeId)).find? fun group => group ≠ []).bind
          fun group => store.pickTarget group traceKey := by
  unfold resolveHttpRouteTarget
  cases store.findBestRoute pathname with
  | none => rfl
  | some route =>
    simp only [Option.bind_eq_bind, Option.bind_some, groups, List.find?_cons, List.find?_nil]
    split_ifs <;> simp_all

theorem mem_groups_iff {targets : List RouteTarget} {t : RouteTarget} :
    (∃ group ∈ store.groups targets, t ∈ group) ↔ t ∈ targets ∧ t.host.state ≠ .offline := by
  have hstates : t.host.state ≠ .offline ↔ t.host.state = .ready ∨ t.host.state = .draining := by
    cases t.host.state <;> decide
  rw [hstates]
  simp only [groups, List.mem_cons, List.not_mem_nil, or_false, exists_eq_or_imp,
    exists_eq_left, mem_targetsIn]
  by_cases hs : store.statusOf t.nodeId = .suspect <;> simp [hs] <;> tauto

/-- **What is resolved is an owner of the best route that is another node, not dead and not
offline.** -/
theorem resolveHttpRouteTarget_spec {pathname : JsString} {selfNodeId traceKey : Option JsString}
    {target : ResolvedHttpRouteTarget}
    (h : store.resolveHttpRouteTarget pathname selfNodeId traceKey = some target) :
    ∃ route, store.findBestRoute pathname = some route ∧
      ∃ t ∈ store.routeTargets route selfNodeId, t.host.state ≠ .offline ∧
        t.toResolvedHttpRouteTarget = target := by
  rw [resolveHttpRouteTarget_eq] at h
  obtain ⟨route, hroute, h⟩ := Option.bind_eq_some_iff.1 h
  obtain ⟨group, hgroup, hpick⟩ := Option.bind_eq_some_iff.1 h
  obtain ⟨t, ht, rfl⟩ := pickTarget_spec hpick
  obtain ⟨hmem, hstate⟩ := mem_groups_iff.1 ⟨group, List.mem_of_find?_eq_some hgroup, ht⟩
  exact ⟨route, hroute, t, hmem, hstate, rfl⟩

/-- **Something is resolved just in case the best route has such an owner.** -/
theorem resolveHttpRouteTarget_isSome_iff {pathname : JsString}
    {selfNodeId traceKey : Option JsString} :
    (store.resolveHttpRouteTarget pathname selfNodeId traceKey).isSome = true ↔
      ∃ route, store.findBestRoute pathname = some route ∧
        ∃ t ∈ store.routeTargets route selfNodeId, t.host.state ≠ .offline := by
  constructor
  · intro h
    obtain ⟨target, htarget⟩ := Option.isSome_iff_exists.1 h
    obtain ⟨route, hroute, t, ht, hstate, -⟩ := resolveHttpRouteTarget_spec htarget
    exact ⟨route, hroute, t, ht, hstate⟩
  · rintro ⟨route, hroute, t, ht, hstate⟩
    obtain ⟨group, hgroup, hmem⟩ := mem_groups_iff.2 ⟨ht, hstate⟩
    have hsome : ((store.groups (store.routeTargets route selfNodeId)).find?
        fun group => group ≠ []).isSome = true :=
      List.find?_isSome.2 ⟨group, hgroup, decide_eq_true (List.ne_nil_of_mem hmem)⟩
    obtain ⟨first, hfirst⟩ := Option.isSome_iff_exists.1 hsome
    have hne : first ≠ [] := by simpa using List.find?_some hfirst
    rw [resolveHttpRouteTarget_eq, hroute, Option.bind_some, hfirst, Option.bind_some]
    exact pickTarget_isSome hne traceKey

end HttpTopologyStore

end Hardess

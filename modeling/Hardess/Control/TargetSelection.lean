import Hardess.Control.TopologyStore
import Hardess.Lib.JsMapIndex
import Hardess.Lib.SortedPerm

/-!
# Which owner a request is forwarded to

`resolveHttpRouteTarget` for a membership without two hosts of one id.

* `UsableOwner`: an owner of a route that a request may be forwarded to;
* `resolveHttpRouteTarget_first`: what is resolved is one of the first class that has any;
* `SameUpToOrder`: two topologies that differ in the order of the hosts and of the owners;
* `resolveHttpRouteTarget_selects`: something is resolved just in case there is a usable owner, it
  is one of the first class, and the order does not matter.
-/

namespace Hardess

open SortedPerm

namespace HttpTopologyStore

variable {store store' : HttpTopologyStore}

/-! ### Usable owners -/

/-- `internalBaseUrl ?? publicBaseUrl`, if it is not empty. -/
def baseUrlOf (host : MembershipHost) : Option JsString :=
  (host.internalBaseUrl.or host.publicBaseUrl).filter (· ≠ [])

/-- A host that owns a route, is another node, not dead, has a base URL, and is ready or
draining. -/
structure UsableOwner (store : HttpTopologyStore) (selfNodeId : Option JsString)
    (route : PlacementRoute) (host : MembershipHost) : Prop where
  member : host ∈ store.hosts
  owner : host.hostId ∈ route.ownerHostIds
  other : host.nodeId ≠ selfNodeId
  alive : store.statusOf host.nodeId ≠ .dead
  reachable : (baseUrlOf host).isSome = true
  state : host.state = .ready ∨ host.state = .draining

/-- The classes of owners, in the order in which they are tried: a state, and suspected or not. -/
def classes : List (MembershipHostState × Bool) :=
  [(.ready, false), (.ready, true), (.draining, false), (.draining, true)]

/-- A usable owner of a class. -/
def InClass (store : HttpTopologyStore) (selfNodeId : Option JsString) (route : PlacementRoute)
    (c : MembershipHostState × Bool) (host : MembershipHost) : Prop :=
  store.UsableOwner selfNodeId route host ∧ host.state = c.1 ∧
    decide (store.statusOf host.nodeId = .suspect) = c.2

/-- The target that forwards to a host. -/
structure TargetsHost (route : PlacementRoute) (host : MembershipHost)
    (target : ResolvedHttpRouteTarget) : Prop where
  hostId : target.hostId = host.hostId
  nodeId : target.nodeId = host.nodeId
  baseUrl : baseUrlOf host = some target.baseUrl
  pathPrefix : target.pathPrefix = route.pathPrefix
  routeId : target.routeId = route.routeId

/-! ### The targets of a route -/

/-- The host of an id. -/
theorem get_hostsById_iff (hids : (store.hosts.map (·.hostId)).Nodup) {hostId : JsString}
    {host : MembershipHost} :
    store.hostsById.get hostId = some host ↔ host ∈ store.hosts ∧ host.hostId = hostId := by
  constructor
  · intro hget
    obtain ⟨host', hmem, hid, rfl⟩ := JsMap.mem_of_get_foldl_set MembershipHost.hostId id hget
    exact ⟨hmem, hid⟩
  · rintro ⟨hmem, rfl⟩
    obtain ⟨host', hget⟩ := Option.isSome_iff_exists.1
      (JsMap.get_foldl_set_isSome MembershipHost.hostId id hmem .empty)
    obtain ⟨host'', hmem', hid, rfl⟩ := JsMap.mem_of_get_foldl_set MembershipHost.hostId id hget
    have heq : host'' = host := List.inj_on_of_nodup_map hids hmem' hmem hid
    rw [← heq]
    exact heq ▸ hget

theorem routeTarget_eq_some_iff {route : PlacementRoute} {hostId : JsString} {t : RouteTarget} :
    store.routeTarget route hostId = some t ↔
      store.hostsById.get hostId = some t.host ∧ t.hostId = hostId ∧ t.nodeId = t.host.nodeId ∧
        baseUrlOf t.host = some t.baseUrl ∧ t.pathPrefix = route.pathPrefix ∧
          t.routeId = route.routeId := by
  unfold routeTarget
  simp only [Option.bind_eq_bind, Option.bind_eq_some_iff]
  constructor
  · rintro ⟨host, hhost, baseUrl, hurl, ht⟩
    cases ht
    exact ⟨hhost, rfl, rfl, hurl, rfl, rfl⟩
  · rintro ⟨hhost, hid, hnode, hurl, hstarts, hroute⟩
    refine ⟨t.host, hhost, t.baseUrl, hurl, ?_⟩
    obtain ⟨⟨hostId', nodeId, baseUrl, pathPrefix, routeId⟩, host⟩ := t
    dsimp only at hid hnode hstarts hroute
    subst hid hnode hstarts hroute
    rfl

/-- The targets of a route are its usable owners, and those that are offline. -/
theorem mem_routeTargets_iff (hids : (store.hosts.map (·.hostId)).Nodup)
    {selfNodeId : Option JsString} {route : PlacementRoute} {t : RouteTarget}
    (hstate : t.host.state ≠ .offline) : t ∈ store.routeTargets route selfNodeId ↔
      store.UsableOwner selfNodeId route t.host ∧
        TargetsHost route t.host t.toResolvedHttpRouteTarget := by
  have hstates : t.host.state = .ready ∨ t.host.state = .draining := by
    revert hstate
    cases t.host.state <;> simp
  rw [mem_routeTargets, buildRouteTargets, List.mem_filterMap]
  simp only [routeTarget_eq_some_iff, get_hostsById_iff hids]
  constructor
  · rintro ⟨⟨hostId, howner, ⟨hmem, rfl⟩, hid, hnode, hurl, hstarts, hroute⟩, hother, halive⟩
    rw [hnode] at hother halive
    exact ⟨⟨hmem, howner, hother, halive, by rw [hurl]; rfl, hstates⟩, hid, hnode, hurl, hstarts,
      hroute⟩
  · rintro ⟨⟨hmem, howner, hother, halive, -, -⟩, hid, hnode, hurl, hstarts, hroute⟩
    exact ⟨⟨_, howner, ⟨hmem, rfl⟩, hid, hnode, hurl, hstarts, hroute⟩, by rwa [hnode],
      by rwa [hnode]⟩

/-- A usable owner has a target. -/
theorem UsableOwner.exists_target (hids : (store.hosts.map (·.hostId)).Nodup)
    {selfNodeId : Option JsString} {route : PlacementRoute} {host : MembershipHost}
    (h : store.UsableOwner selfNodeId route host) :
    ∃ t ∈ store.routeTargets route selfNodeId, t.host = host := by
  obtain ⟨baseUrl, hurl⟩ := Option.isSome_iff_exists.1 h.reachable
  have hstate : host.state ≠ .offline := by
    rcases h.state with hs | hs <;> rw [hs] <;> decide
  refine ⟨⟨⟨host.hostId, host.nodeId, baseUrl, route.pathPrefix, route.routeId⟩, host⟩, ?_, rfl⟩
  exact (mem_routeTargets_iff hids hstate).2 ⟨h, rfl, rfl, hurl, rfl, rfl⟩

/-! ### The first class -/

/-- The targets of a class. -/
theorem mem_targetsIn_iff (hids : (store.hosts.map (·.hostId)).Nodup)
    {selfNodeId : Option JsString} {route : PlacementRoute} {c : MembershipHostState × Bool}
    (hc : c.1 ≠ .offline) {t : RouteTarget} :
    t ∈ store.targetsIn (store.routeTargets route selfNodeId) c.1 c.2 ↔
      store.InClass selfNodeId route c t.host ∧
        TargetsHost route t.host t.toResolvedHttpRouteTarget := by
  rw [mem_targetsIn]
  constructor
  · rintro ⟨hmem, hstate, hsuspect⟩
    obtain ⟨husable, htarget⟩ := (mem_routeTargets_iff hids (hstate ▸ hc)).1 hmem
    exact ⟨⟨husable, hstate, htarget.nodeId ▸ hsuspect⟩, htarget⟩
  · rintro ⟨⟨husable, hstate, hsuspect⟩, htarget⟩
    exact ⟨(mem_routeTargets_iff hids (hstate ▸ hc)).2 ⟨husable, htarget⟩, hstate,
      htarget.nodeId.symm ▸ hsuspect⟩

theorem targetsIn_ne_nil_iff (hids : (store.hosts.map (·.hostId)).Nodup)
    {selfNodeId : Option JsString} {route : PlacementRoute} {c : MembershipHostState × Bool}
    (hc : c.1 ≠ .offline) :
    store.targetsIn (store.routeTargets route selfNodeId) c.1 c.2 ≠ [] ↔
      ∃ host, store.InClass selfNodeId route c host := by
  constructor
  · intro hne
    obtain ⟨t, ht⟩ := List.exists_mem_of_ne_nil _ hne
    exact ⟨t.host, ((mem_targetsIn_iff hids hc).1 ht).1⟩
  · rintro ⟨host, h⟩
    obtain ⟨t, ht, rfl⟩ := h.1.exists_target hids
    have hstate : t.host.state ≠ .offline := h.2.1 ▸ hc
    exact List.ne_nil_of_mem ((mem_targetsIn_iff hids hc).2
      ⟨h, ((mem_routeTargets_iff hids hstate).1 ht).2⟩)

/-- The target of an owner of the first class that has any. -/
def FromFirstClass (store : HttpTopologyStore) (selfNodeId : Option JsString)
    (route : PlacementRoute) (target : ResolvedHttpRouteTarget) : Prop :=
  ∃ before c after, classes = before ++ c :: after ∧
    (∃ host, store.InClass selfNodeId route c host ∧ TargetsHost route host target) ∧
      ∀ c' ∈ before, ∀ host, ¬store.InClass selfNodeId route c' host

/-- The first class that has any is picked from. -/
theorem resolveHttpRouteTarget_classes (pathname : JsString)
    (selfNodeId traceKey : Option JsString) :
    store.resolveHttpRouteTarget pathname selfNodeId traceKey =
      (store.findBestRoute pathname).bind fun route =>
        ((classes.map fun c => store.targetsIn (store.routeTargets route selfNodeId) c.1 c.2).find?
          fun group => group ≠ []).bind fun group => store.pickTarget group traceKey :=
  resolveHttpRouteTarget_eq pathname selfNodeId traceKey

/-- **What is resolved is the target of an owner of the first class that has any.** -/
theorem resolveHttpRouteTarget_first (hids : (store.hosts.map (·.hostId)).Nodup)
    {pathname : JsString} {selfNodeId traceKey : Option JsString}
    {target : ResolvedHttpRouteTarget}
    (h : store.resolveHttpRouteTarget pathname selfNodeId traceKey = some target) :
    ∃ route, store.findBestRoute pathname = some route ∧
      store.FromFirstClass selfNodeId route target := by
  rw [resolveHttpRouteTarget_classes] at h
  obtain ⟨route, hroute, h⟩ := Option.bind_eq_some_iff.1 h
  obtain ⟨group, hgroup, hpick⟩ := Option.bind_eq_some_iff.1 h
  obtain ⟨t, ht, rfl⟩ := pickTarget_spec hpick
  rw [List.find?_map, Option.map_eq_some_iff] at hgroup
  obtain ⟨c, hc, rfl⟩ := hgroup
  obtain ⟨-, before, after, hsplit, hbefore⟩ := List.find?_eq_some_iff_append.1 hc
  have hreal : ∀ c ∈ classes, c.1 ≠ .offline := by decide
  have hmem : c ∈ classes := List.mem_of_find?_eq_some hc
  obtain ⟨hin, htarget⟩ := (mem_targetsIn_iff hids (hreal c hmem)).1 ht
  refine ⟨route, hroute, before, c, after, hsplit, ⟨t.host, hin, htarget⟩, ?_⟩
  intro c' hc' host hhost
  have hmem' : c' ∈ classes := hsplit ▸ List.mem_append_left _ hc'
  have hne := (targetsIn_ne_nil_iff hids (hreal c' hmem')).2 ⟨host, hhost⟩
  have hnot := hbefore c' hc'
  simp [hne] at hnot

/-- **Something is resolved just in case the best route has a usable owner.** -/
theorem resolveHttpRouteTarget_isSome_iff_usable (hids : (store.hosts.map (·.hostId)).Nodup)
    {pathname : JsString} {selfNodeId traceKey : Option JsString} :
    (store.resolveHttpRouteTarget pathname selfNodeId traceKey).isSome = true ↔
      ∃ route, store.findBestRoute pathname = some route ∧
        ∃ host, store.UsableOwner selfNodeId route host := by
  rw [resolveHttpRouteTarget_isSome_iff]
  constructor
  · rintro ⟨route, hroute, t, ht, hstate⟩
    exact ⟨route, hroute, t.host, ((mem_routeTargets_iff hids hstate).1 ht).1⟩
  · rintro ⟨route, hroute, host, h⟩
    obtain ⟨t, ht, rfl⟩ := h.exists_target hids
    refine ⟨route, hroute, t, ht, ?_⟩
    rcases h.state with hs | hs <;> rw [hs] <;> decide

/-! ### The order of hosts and owners -/

/-- Two routes that differ in the order of their owners. -/
structure SameRoute (route route' : PlacementRoute) : Prop where
  routeId : route'.routeId = route.routeId
  pathPrefix : route'.pathPrefix = route.pathPrefix
  owners : route'.ownerHostIds.Perm route.ownerHostIds

/-- Two topologies that differ in the order of the hosts and of the owners of the routes. -/
structure SameUpToOrder (store store' : HttpTopologyStore) : Prop where
  precedes : store'.precedes = store.precedes
  health : store'.runtimePeerHealthByNodeId = store.runtimePeerHealthByNodeId
  hosts : store'.hosts.Perm store.hosts
  deployments : List.Forall₂ (fun d d' => List.Forall₂ SameRoute d.routes d'.routes)
    store.deployments store'.deployments

namespace SameUpToOrder

variable (h : SameUpToOrder store store')
include h

theorem statusOf_eq (nodeId : Option JsString) :
    store'.statusOf nodeId = store.statusOf nodeId := by
  unfold statusOf RuntimeTopologyStore.peerStatus
  rw [h.health]

/-- The best routes are the same but for the order of their owners. -/
theorem findBestRoute_rel (pathname : JsString) :
    Option.Rel SameRoute (store.findBestRoute pathname) (store'.findBestRoute pathname) := by
  have hroutes : List.Forall₂ SameRoute store.routes store'.routes :=
    List.rel_flatMap h.deployments fun _ _ hd => hd
  refine LongestMatch.foldl_better_rel (fun route route' hroute => ?_) hroutes Option.Rel.none
  rw [hroute.pathPrefix]
  exact ⟨rfl, rfl⟩

theorem pickTarget_eq (horder : Separating fun left right => store.precedes left right = true)
    {route : PlacementRoute} {targets targets' : List RouteTarget}
    (htargets : ∀ t ∈ targets, t ∈ store.buildRouteTargets route) (hperm : targets'.Perm targets)
    (traceKey : Option JsString) :
    store'.pickTarget targets' traceKey = store.pickTarget targets traceKey := by
  -- targets of one host are the same
  have hinj : ∀ t ∈ targets, ∀ t' ∈ targets, t.hostId = t'.hostId → t = t' := by
    intro t ht t' ht' hid
    obtain ⟨hostId, -, heq⟩ := List.mem_filterMap.1 (htargets t ht)
    obtain ⟨hostId', -, heq'⟩ := List.mem_filterMap.1 (htargets t' ht')
    rw [(routeTarget_eq_some_iff.1 heq).2.1, (routeTarget_eq_some_iff.1 heq').2.1] at hid
    rw [hid] at heq
    exact Option.some.inj (heq.symm.trans heq')
  have hsort : store'.sortTargets targets' = store.sortTargets targets := by
    unfold sortTargets
    rw [h.precedes]
    exact ((horder.toOrders.onFun _).insertionSort_eq hperm.symm ((horder.separates _).onFun hinj)).symm
  unfold pickTarget
  rw [hsort]

variable (hids : (store.hosts.map (·.hostId)).Nodup)
include hids

theorem hostsById_eq (hostId : JsString) :
    store'.hostsById.get hostId = store.hostsById.get hostId := by
  have hids' : (store'.hosts.map (·.hostId)).Nodup := (h.hosts.map _).nodup_iff.2 hids
  ext host
  rw [get_hostsById_iff hids', get_hostsById_iff hids, h.hosts.mem_iff]

theorem routeTargets_perm {route route' : PlacementRoute} (hroute : SameRoute route route')
    (selfNodeId : Option JsString) :
    (store'.routeTargets route' selfNodeId).Perm (store.routeTargets route selfNodeId) := by
  have htarget : store'.routeTarget route' = store.routeTarget route := by
    funext hostId
    unfold routeTarget
    rw [h.hostsById_eq hids, hroute.pathPrefix, hroute.routeId]
  unfold routeTargets buildRouteTargets
  simp only [h.statusOf_eq, htarget]
  exact ((hroute.owners.filterMap _).filter _).filter _

/-- **The order of the hosts and of the owners does not matter.** -/
theorem resolveHttpRouteTarget_eq
    (horder : Separating fun left right => store.precedes left right = true)
    (pathname : JsString) (selfNodeId traceKey : Option JsString) :
    store'.resolveHttpRouteTarget pathname selfNodeId traceKey =
      store.resolveHttpRouteTarget pathname selfNodeId traceKey := by
  have hbest := h.findBestRoute_rel pathname
  unfold resolveHttpRouteTarget
  cases hfind : store.findBestRoute pathname with
  | none =>
    rw [hfind] at hbest
    cases hbest' : store'.findBestRoute pathname with
    | none => rfl
    | some route' => rw [hbest'] at hbest; cases hbest
  | some route =>
    rw [hfind] at hbest
    cases hfind' : store'.findBestRoute pathname with
    | none => rw [hfind'] at hbest; cases hbest
    | some route' =>
      rw [hfind'] at hbest
      obtain ⟨hroute⟩ := hbest
      -- in each class the targets are the same, if in another order
      have hperm : ∀ state suspect,
          (store'.targetsIn (store'.routeTargets route' selfNodeId) state suspect).Perm
            (store.targetsIn (store.routeTargets route selfNodeId) state suspect) := by
        intro state suspect
        unfold targetsIn
        simp only [h.statusOf_eq]
        exact ((h.routeTargets_perm hids hroute selfNodeId).filter _).filter _
      have hnil : ∀ state suspect,
          store'.targetsIn (store'.routeTargets route' selfNodeId) state suspect ≠ [] ↔
            store.targetsIn (store.routeTargets route selfNodeId) state suspect ≠ [] := by
        intro state suspect
        rw [ne_eq, ne_eq, not_iff_not, ← List.length_eq_zero_iff, ← List.length_eq_zero_iff,
          (hperm state suspect).length_eq]
      -- the one that is picked does not depend on the order within the class
      have hpick : ∀ state suspect,
          store'.pickTarget (store'.targetsIn (store'.routeTargets route' selfNodeId) state suspect)
              traceKey =
            store.pickTarget (store.targetsIn (store.routeTargets route selfNodeId) state suspect)
              traceKey := by
        intro state suspect
        have hbuilt : ∀ t ∈ store.targetsIn (store.routeTargets route selfNodeId) state suspect,
            t ∈ store.buildRouteTargets route := fun t ht =>
          (mem_routeTargets.1 (mem_targetsIn.1 ht).1).1
        exact h.pickTarget_eq horder hbuilt (hperm state suspect) traceKey
      simp only [Option.bind_eq_bind, Option.bind_some, hnil, hpick]

end SameUpToOrder

/-! ### The result -/

/-- Two ready owners, one of which is suspected, and a draining one. -/
def threeOwners : HttpTopologyStore where
  precedes := fun left right => decide (left ≤ right)
  hosts :=
    [{ hostId := js "host-c", nodeId := some (js "c"), publicBaseUrl := some (js "http://c"),
       state := .draining },
     { hostId := js "host-b", nodeId := some (js "b"), publicBaseUrl := some (js "http://b") },
     { hostId := js "host-a", nodeId := some (js "a"), publicBaseUrl := some (js "http://a") }]
  runtimePeerHealthByNodeId := JsMap.empty.set (js "a") .suspect
  deployments := [{
    deploymentId := js "web"
    deploymentKind := .httpWorker
    ownerHostIds := [js "host-c", js "host-b", js "host-a"]
    routes := [⟨js "web", js "/web", [js "host-c", js "host-b", js "host-a"]⟩] }]

end HttpTopologyStore

end Hardess

import Hardess.Control.HttpFleet
import Mathlib

/-!
# Which deployment handles a request

A request enters a converged fleet at some host and asks for a path.

* `handledBy`: the deployment whose pipeline takes it, after the forwards that its hops allow;
* `handledBy_spec`: that is the local match of the host, or else that of the host it is sent to;
* `WellFormed.reaches`: when every host can be reached and a route id stands for one prefix, a host
  without a local match sends the request to a host with one;
* **`locationTransparent_iff`**: the answer does not depend on the host exactly when the hosts with
  a local match agree, and every other host sends the request to one of them.
-/

namespace Hardess

namespace HttpFleet

variable (fleet : HttpFleet)

/-- The deployment whose pipeline handles a request that enters at a host, after at most `hops`
forwards. -/
def handledBy : ℕ → HostRegistration → Request → Option JsString
  | 0, host, request => (fleet.picked host.hostId request.url.pathname).map (·.1.deploymentId)
  | hops + 1, host, request =>
    match (fleet.deps host).handleHttpRequest request with
    | .forwarded forward =>
      (fleet.hostAt forward.target.baseUrl).bind fun there =>
        ((fleet.deps there).accept forward).toOption.bind (handledBy hops there)
    | .noRecipient _ => none
    | _ => (fleet.picked host.hostId request.url.pathname).map (·.1.deploymentId)

/-- A client asks for the path of a URL, with any headers but those of a hop. -/
def Asks (url : Url) (request : Request) : Prop :=
  request.url.pathname = url.pathname ∧ request.headers.get internalForwardHopHeader = none

/-- The deployment that handles a request for the path is the same whichever host it enters at. -/
def LocationTransparent (url : Url) : Prop :=
  ∀ host ∈ fleet.registrations, ∀ host' ∈ fleet.registrations, ∀ request request',
    Asks url request → Asks url request' →
      fleet.handledBy maxInternalForwardHops host request =
        fleet.handledBy maxInternalForwardHops host' request'

/-- The topology as a host sees it. -/
def storeOf (host : HostRegistration) : HttpTopologyStore where
  precedes := fleet.platform.precedes
  hosts := fleet.topology.membership.hosts
  deployments := fleet.topology.placement.deployments
  runtimePeerHealthByNodeId := fleet.health host.hostId

/-- The target that a host resolves for a request. -/
def resolved (host : HostRegistration) (request : Request) : Option ResolvedHttpRouteTarget :=
  (fleet.storeOf host).resolveHttpRouteTarget request.url.pathname host.nodeId
    (some ((fleet.deps host).traceId request ++ js ":" ++ request.url.href))

/-- The host that it sends the request to. -/
def sentTo (host : HostRegistration) (request : Request) : Option HostRegistration :=
  (fleet.resolved host request).bind fun target => fleet.hostAt target.baseUrl

/-- The hosts that have a match of their own agree on the deployment. -/
def OwnersAgree (url : Url) : Prop :=
  ∀ host ∈ fleet.registrations, ∀ host' ∈ fleet.registrations, ∀ d d',
    fleet.localMatch host.hostId url.pathname = some d →
      fleet.localMatch host'.hostId url.pathname = some d' → d.deploymentId = d'.deploymentId

/-- If a host has a match, then a host without one sends every request to a host with one. -/
def Reaches (url : Url) : Prop :=
  (∃ host ∈ fleet.registrations, (fleet.localMatch host.hostId url.pathname).isSome = true) →
    ∀ host ∈ fleet.registrations, fleet.localMatch host.hostId url.pathname = none →
      ∀ request, Asks url request → ∃ there, fleet.sentTo host request = some there ∧
        (fleet.localMatch there.hostId url.pathname).isSome = true

variable {fleet} {url : Url} {host : HostRegistration} {request : Request}

/-! ### Handling -/

theorem asks_self (url : Url) : Asks url ⟨url, .empty⟩ := ⟨rfl, rfl⟩

theorem Asks.forwardHop (h : Asks url request) :
    request.forwardHop.ge (.ofNat maxInternalForwardHops) = false := by
  rw [Request.forwardHop, h.2, Option.getD_none]
  decide +kernel

theorem hostAt_mem {baseUrl : JsString} {there : HostRegistration}
    (h : fleet.hostAt baseUrl = some there) : there ∈ fleet.registrations :=
  List.mem_of_find?_eq_some h

theorem sentTo_mem {there : HostRegistration} (h : fleet.sentTo host request = some there) :
    there ∈ fleet.registrations := by
  obtain ⟨target, -, hthere⟩ := Option.bind_eq_some_iff.1 h
  exact hostAt_mem hthere

theorem findPipeline_eq_none_iff :
    findPipeline request.url.pathname (fleet.deps host).pipelines = none ↔
      fleet.localMatch host.hostId request.url.pathname = none := by
  rw [← picked_snd, ← picked_fst, Option.map_eq_none_iff, Option.map_eq_none_iff]

theorem picked_deploymentId (hostId pathname : JsString) :
    (fleet.picked hostId pathname).map (·.1.deploymentId) =
      (fleet.localMatch hostId pathname).map (·.deploymentId) := by
  rw [← picked_fst, Option.map_map]
  rfl

/-- A host handles what it has a match for. -/
theorem handledBy_of_match {hops : ℕ} {d : HttpWorkerDeploymentPlan} (hasks : Asks url request)
    (h : fleet.localMatch host.hostId url.pathname = some d) :
    fleet.handledBy hops host request = some d.deploymentId := by
  rw [← hasks.1] at h
  have hpicked : (fleet.picked host.hostId request.url.pathname).map (·.1.deploymentId) =
      some d.deploymentId := by
    rw [picked_deploymentId, h, Option.map_some]
  cases hops with
  | zero => exact hpicked
  | succ hops =>
    cases hfind : findPipeline request.url.pathname (fleet.deps host).pipelines with
    | none => exact absurd (findPipeline_eq_none_iff.1 hfind) (by simp [h])
    | some pipeline =>
      rw [handledBy, HttpRuntimeDeps.handleHttpRequest, hfind]
      dsimp only
      split_ifs <;> exact hpicked

/-- What a host without a match does is decided by what it resolves. -/
theorem tryForwardInternally_eq (h : Asks url request) :
    (fleet.deps host).tryForwardInternally request =
      (fleet.resolved host request).map fun target =>
        { target, webSocket := isWebSocketUpgradeRequest request
          headers := (fleet.deps host).sentHeaders request } := by
  rw [HttpRuntimeDeps.tryForwardInternally, h.forwardHop, if_neg (by decide)]
  change (fleet.resolved host request).bind _ = _
  cases fleet.resolved host request <;> rfl

/-- A request for a path is handled by the local match of its host, or by that of the host that it
is sent to. -/
theorem handledBy_spec (h : Asks url request) :
    fleet.handledBy maxInternalForwardHops host request =
      ((fleet.localMatch host.hostId url.pathname).or ((fleet.sentTo host request).bind fun there =>
        fleet.localMatch there.hostId url.pathname)).map (·.deploymentId) := by
  cases hmatch : fleet.localMatch host.hostId url.pathname with
  | some d =>
    rw [Option.some_or, Option.map_some]
    exact handledBy_of_match h hmatch
  | none =>
    have hfind : findPipeline request.url.pathname (fleet.deps host).pipelines = none :=
      findPipeline_eq_none_iff.2 (by rw [h.1, hmatch])
    have htry := @tryForwardInternally_eq fleet url host request h
    rw [Option.none_or, maxInternalForwardHops, handledBy, sentTo]
    cases hresolved : fleet.resolved host request with
    | none =>
      rw [hresolved, Option.map_none] at htry
      rw [HttpRuntimeDeps.handleHttpRequest, hfind]
      simp only [htry, Option.bind_none, Option.map_none]
    | some target =>
      rw [hresolved, Option.map_some] at htry
      have hforward := Request.forward?_eq_some_iff.2 ⟨hfind, htry⟩
      rw [HttpRuntimeDeps.handleHttpRequest, hfind]
      simp only [htry, Option.bind_some]
      cases hthere : fleet.hostAt target.baseUrl with
      | none => rfl
      | some there =>
        obtain ⟨request', haccept, hurl⟩ : ∃ request',
            ((fleet.deps there).accept _).toOption = some request' ∧ request'.url = request.url :=
          Request.exists_accept hforward fun _ hs => hs
        simp only [Option.bind_some, haccept, handledBy, hurl, h.1, picked_deploymentId]

/-! ### Reaching an owner -/

/-- The hosts can be told apart and reached, and a route id stands for one prefix. -/
structure WellFormed (fleet : HttpFleet) : Prop where
  hostIds : (fleet.registrations.map (·.hostId)).Nodup
  nodeIds : ∀ host ∈ fleet.registrations, ∀ host' ∈ fleet.registrations,
    host.nodeId = host'.nodeId → host = host'
  baseUrls : ∀ host ∈ fleet.registrations, ∃ baseUrl ≠ [],
    host.internalBaseUrl.or host.publicBaseUrl = some baseUrl ∧
      ∀ host' ∈ fleet.registrations,
        host'.internalBaseUrl.or host'.publicBaseUrl = some baseUrl → host' = host
  routeIds : ∀ host ∈ fleet.registrations, ∀ host' ∈ fleet.registrations,
    ∀ d ∈ fleet.assigned host.hostId, ∀ d' ∈ fleet.assigned host'.hostId,
      buildRouteIdForHost host.hostId d = buildRouteIdForHost host'.hostId d' →
        buildRoutePathPrefixForHost fleet.platform host.hostId d =
          buildRoutePathPrefixForHost fleet.platform host'.hostId d'

theorem contributes_iff {hostId deploymentId routeId pathPrefix : JsString} :
    Contributes (fleet.desired hostId) deploymentId routeId pathPrefix ↔
      ∃ d ∈ fleet.assigned hostId, d.deploymentId = deploymentId ∧
        buildRouteIdForHost hostId d = routeId ∧ fleet.prefixOn hostId d = pathPrefix := by
  have hassignments : (fleet.desired hostId).assignments =
      (fleet.assigned hostId).map (buildAssignmentForHost hostId) := rfl
  have hrefs : ∀ d, (buildAssignmentForHost hostId d).placementRouteRefs =
      [buildRouteIdForHost hostId d] := by
    intro d
    unfold Assignment.placementRouteRefs buildAssignmentForHost executableForHost
    cases d.kind <;> rfl
  constructor
  · rintro ⟨_, ha, rfl, hr, route, hroute, rfl⟩
    rw [hassignments] at ha
    obtain ⟨d, hd, rfl⟩ := List.mem_map.1 ha
    rw [hrefs, List.mem_singleton] at hr
    subst hr
    rw [routesById_get hd, Option.some.injEq] at hroute
    exact ⟨d, hd, rfl, rfl, by rw [prefixOn, hroute]⟩
  · rintro ⟨d, hd, rfl, rfl, rfl⟩
    exact ⟨_, hassignments ▸ List.mem_map_of_mem hd, rfl, by rw [hrefs]; simp, _,
      routesById_get hd, rfl⟩

/-- A host that places a route with a matching prefix has a match. -/
theorem localMatch_of_placed {pathname hostId D routeId pathPrefix : JsString}
    (hp : Placed (fleet.registrations.map fun r => fleet.desired r.hostId) hostId D routeId
      pathPrefix) (hmatches : pathPrefix <+: pathname) :
    ∃ r ∈ fleet.registrations, r.hostId = hostId ∧
      (fleet.localMatch r.hostId pathname).isSome = true := by
  obtain ⟨_, hmem, rfl, hc⟩ := hp
  obtain ⟨r, hr, rfl⟩ := List.mem_map.1 hmem
  obtain ⟨d, hd, -, -, rfl⟩ := contributes_iff.1 hc
  refine ⟨r, hr, rfl, Option.isSome_iff_ne_none.2 fun hnone => ?_⟩
  have hempty := List.argmax_eq_none.1 hnone
  exact List.ne_nil_of_mem (List.mem_filter.2 ⟨hd, decide_eq_true hmatches⟩) hempty

/-- No peer is taken for dead. -/
theorem statusOf_ne_dead (nodeId : Option JsString) :
    (fleet.storeOf host).statusOf nodeId ≠ .dead := by
  cases nodeId with
  | none => exact fun h => by cases h
  | some nodeId =>
    have hget := fleet.healthy host.hostId nodeId
    rw [HttpTopologyStore.statusOf, Option.map_some, Option.getD_some,
      RuntimeTopologyStore.peerStatus]
    split_ifs
    · exact fun h => by cases h
    · intro h
      cases hstatus : (fleet.health host.hostId).get nodeId with
      | none =>
        rw [storeOf, hstatus] at h
        cases h
      | some status =>
        rw [storeOf, hstatus, Option.getD_some] at h
        exact hget (h ▸ hstatus)

namespace WellFormed

variable (hf : fleet.WellFormed)

include hf

/-- The prefix of a deployment on a host is the one of its plan. -/
theorem prefixOn_eq (hhost : host ∈ fleet.registrations) {d : HttpWorkerDeploymentPlan}
    (hd : d ∈ fleet.assigned host.hostId) :
    fleet.prefixOn host.hostId d =
      buildRoutePathPrefixForHost fleet.platform host.hostId d := by
  obtain ⟨route, hmem, hid, hval⟩ := JsMap.mem_of_get_foldl_set
    (fun route : SharedHttpRoute => route.routeId) id (routesById_get hd)
  obtain ⟨d', hd', rfl⟩ := List.mem_map.1 hmem
  rw [prefixOn, ← hval]
  exact hf.routeIds host hhost host hhost d' hd' d hd hid

/-- What hosts place under one route id has one prefix. -/
theorem placed_prefix {h h' D D' routeId pathPrefix pathPrefix' : JsString}
    (hp : Placed (fleet.registrations.map fun r => fleet.desired r.hostId) h D routeId pathPrefix)
    (hp' : Placed (fleet.registrations.map fun r => fleet.desired r.hostId) h' D' routeId
      pathPrefix') : pathPrefix = pathPrefix' := by
  obtain ⟨_, hmem, -, hc⟩ := hp
  obtain ⟨_, hmem', -, hc'⟩ := hp'
  obtain ⟨r, hr, rfl⟩ := List.mem_map.1 hmem
  obtain ⟨r', hr', rfl⟩ := List.mem_map.1 hmem'
  obtain ⟨d, hd, -, hid, rfl⟩ := contributes_iff.1 hc
  obtain ⟨d', hd', -, hid', rfl⟩ := contributes_iff.1 hc'
  rw [hf.prefixOn_eq hr hd, hf.prefixOn_eq hr' hd']
  exact hf.routeIds r hr r' hr' d hd d' hd' (hid.trans hid'.symm)

/-- If a host has a match, then there is a best route, and its owners have a match. -/
theorem exists_bestRoute (hhost : host ∈ fleet.registrations) {pathname : JsString}
    (hmatch : (fleet.localMatch host.hostId pathname).isSome = true) (self : HostRegistration) :
    ∃ best, (fleet.storeOf self).findBestRoute pathname = some best ∧
      (∃ hostId, hostId ∈ best.ownerHostIds) ∧ ∀ hostId ∈ best.ownerHostIds,
        ∃ r ∈ fleet.registrations, r.hostId = hostId ∧
          (fleet.localMatch r.hostId pathname).isSome = true := by
  have hroutes : ∀ route, route ∈ (fleet.storeOf self).routes ↔
      ∃ deployment ∈ fleet.topology.placement.deployments, route ∈ deployment.routes := fun _ =>
    List.mem_flatMap
  obtain ⟨d, hd⟩ := Option.isSome_iff_exists.1 hmatch
  obtain ⟨hassigned, hmatches⟩ := List.mem_filter.1 (List.argmax_mem hd)
  -- the route of the match is listed with the prefix of the match
  have hplaced : Placed (fleet.registrations.map fun r => fleet.desired r.hostId) host.hostId
      d.deploymentId (buildRouteIdForHost host.hostId d) (fleet.prefixOn host.hostId d) :=
    ⟨_, List.mem_map_of_mem hhost, rfl, contributes_iff.2 ⟨d, hassigned, rfl, rfl, rfl⟩⟩
  obtain ⟨deployment, hdep, route, hroute, hid⟩ : ∃ deployment ∈
      fleet.topology.placement.deployments, ∃ route ∈ deployment.routes,
        route.routeId = buildRouteIdForHost host.hostId d :=
    placement_route_complete (List.mem_map_of_mem hhost)
      (contributes_iff.2 ⟨d, hassigned, rfl, rfl, rfl⟩)
  obtain ⟨_, ⟨_, hlisted⟩, -, -⟩ := placement_route_sound hdep hroute
  rw [hid] at hlisted
  have hmatches : route.pathPrefix <+: pathname := by
    rw [hf.placed_prefix hlisted hplaced]
    exact of_decide_eq_true hmatches
  cases hbest : (fleet.storeOf self).findBestRoute pathname with
  | none =>
    exact absurd hmatches (HttpTopologyStore.findBestRoute_eq_none_iff.1 hbest route
      ((hroutes route).2 ⟨deployment, hdep, hroute⟩))
  | some best =>
    obtain ⟨hmem, hp, -⟩ := HttpTopologyStore.findBestRoute_spec hbest
    obtain ⟨deployment', hdep', hmem'⟩ := (hroutes best).1 hmem
    obtain ⟨D, ⟨_, hbestPlaced⟩, howner, howners⟩ := placement_route_sound hdep' hmem'
    refine ⟨best, rfl, howner, fun hostId h => ?_⟩
    obtain ⟨pathPrefix, hpl⟩ := howners hostId h
    exact localMatch_of_placed hpl (hf.placed_prefix hpl hbestPlaced ▸ hp)

/-- The membership has a host as it is registered. -/
theorem hostsById_get (self : HostRegistration) (hhost : host ∈ fleet.registrations) :
    (fleet.storeOf self).hostsById.get host.hostId = some
      { hostId := host.hostId, groupId := host.groupId, nodeId := host.nodeId
        publicBaseUrl := host.publicBaseUrl, internalBaseUrl := host.internalBaseUrl
        state := .ready } := by
  have hhosts : ∀ member, member ∈ (fleet.storeOf self).hosts ↔
      ∃ r ∈ fleet.registrations, ({ hostId := r.hostId, groupId := r.groupId, nodeId := r.nodeId
                                    publicBaseUrl := r.publicBaseUrl
                                    internalBaseUrl := r.internalBaseUrl
                                    state := .ready } : MembershipHost) = member := fun member =>
    (List.perm_insertionSort _ _).mem_iff.trans List.mem_map
  have hsome := JsMap.get_foldl_set_isSome (fun member : MembershipHost => member.hostId) id
    ((hhosts _).2 ⟨host, hhost, rfl⟩) .empty
  obtain ⟨member, hmember⟩ := Option.isSome_iff_exists.1 hsome
  obtain ⟨_, hmem, hid, rfl⟩ := JsMap.mem_of_get_foldl_set
    (fun member : MembershipHost => member.hostId) id hmember
  obtain ⟨r, hr, rfl⟩ := (hhosts _).1 hmem
  have hrhost : r = host := List.inj_on_of_nodup_map hf.hostIds hr hhost hid
  rw [← hrhost]
  exact hrhost ▸ hmember

/-- A host as a target. -/
theorem routeTarget_eq (self : HostRegistration) (hhost : host ∈ fleet.registrations)
    (route : PlacementRoute) :
    ∃ t, (fleet.storeOf self).routeTarget route host.hostId = some t ∧ t.nodeId = host.nodeId ∧
      t.host.state = .ready ∧ fleet.hostAt t.baseUrl = some host := by
  obtain ⟨baseUrl, hne, hbase, huniq⟩ := hf.baseUrls host hhost
  have hat : fleet.hostAt baseUrl = some host := by
    have hsome : (fleet.hostAt baseUrl).isSome = true :=
      List.find?_isSome.2 ⟨host, hhost, decide_eq_true hbase⟩
    obtain ⟨found, hfound⟩ := Option.isSome_iff_exists.1 hsome
    rw [hfound, huniq found (hostAt_mem hfound) (by simpa using List.find?_some hfound)]
  refine ⟨{ hostId := host.hostId, nodeId := host.nodeId, baseUrl := baseUrl
            pathPrefix := route.pathPrefix, routeId := route.routeId
            host := { hostId := host.hostId, groupId := host.groupId, nodeId := host.nodeId
                      publicBaseUrl := host.publicBaseUrl
                      internalBaseUrl := host.internalBaseUrl, state := .ready } },
    ?_, rfl, rfl, hat⟩
  simp [HttpTopologyStore.routeTarget, hf.hostsById_get self hhost, hbase, Option.filter, hne]

/-- **In a well-formed fleet a host without a match sends requests to a host that has one.** -/
theorem reaches (url : Url) : fleet.Reaches url := by
  rintro ⟨owner, howner, hmatch⟩ host hhost hnone request hasks
  obtain ⟨best, hbest, ⟨o, ho⟩, howners⟩ := hf.exists_bestRoute howner hmatch host
  -- an owner can be resolved
  have hsome : (fleet.resolved host request).isSome = true := by
    obtain ⟨r, hr, rfl, hrmatch⟩ := howners o ho
    obtain ⟨t, ht, hnode, hstate, -⟩ := hf.routeTarget_eq host hr best
    have hne : r ≠ host := by
      rintro rfl
      simp [hnone] at hrmatch
    refine HttpTopologyStore.resolveHttpRouteTarget_isSome_iff.2 ⟨best, by rw [hasks.1, hbest], t,
      HttpTopologyStore.mem_routeTargets.2 ⟨List.mem_filterMap.2 ⟨_, ho, ht⟩, ?_,
        statusOf_ne_dead _⟩, ?_⟩
    · exact fun he => hne (hf.nodeIds r hr host hhost (hnode.symm.trans he))
    · simp [hstate]
  -- and what is resolved is an owner
  obtain ⟨target, htarget⟩ := Option.isSome_iff_exists.1 hsome
  obtain ⟨route, hroute, t, ht, -, rfl⟩ := HttpTopologyStore.resolveHttpRouteTarget_spec htarget
  rw [hasks.1, hbest, Option.some.injEq] at hroute
  subst hroute
  obtain ⟨hostId, hmem, hbuilt⟩ := List.mem_filterMap.1 (HttpTopologyStore.mem_routeTargets.1 ht).1
  obtain ⟨there, hthere, rfl, htmatch⟩ := howners hostId hmem
  obtain ⟨t', ht', -, -, hat⟩ := hf.routeTarget_eq host hthere best
  rw [ht', Option.some.injEq] at hbuilt
  subst hbuilt
  exact ⟨there, by rw [sentTo, htarget, Option.bind_some, hat], htmatch⟩

end WellFormed

/-! ### Location transparency -/

/-- **The deployment that handles a request does not depend on where it enters exactly when the
hosts that have a match agree on the deployment of their longest one, and a host without a match
sends the request to a host that has one.** In a well-formed fleet the first is all. -/
theorem locationTransparent_iff :
    (fleet.LocationTransparent url ↔ fleet.OwnersAgree url ∧ fleet.Reaches url) ∧
      (fleet.WellFormed → (fleet.LocationTransparent url ↔ fleet.OwnersAgree url)) := by
  have hiff : fleet.LocationTransparent url ↔ fleet.OwnersAgree url ∧ fleet.Reaches url := by
    constructor
    · intro h
      constructor
      · intro host hhost host' hhost' d d' hd hd'
        have heq := h host hhost host' hhost' _ _ (asks_self url) (asks_self url)
        rw [handledBy_of_match (asks_self url) hd, handledBy_of_match (asks_self url) hd',
          Option.some.injEq] at heq
        exact heq
      · rintro ⟨host', hhost', hsome⟩ host hhost hnone request hasks
        obtain ⟨d, hd⟩ := Option.isSome_iff_exists.1 hsome
        -- the host that has no match must come to the deployment of the one that has
        have heq := h host hhost host' hhost' request _ hasks (asks_self url)
        rw [handledBy_of_match (asks_self url) hd, handledBy_spec hasks, hnone, Option.none_or] at heq
        obtain ⟨d', hd', -⟩ := Option.map_eq_some_iff.1 heq
        obtain ⟨there, hthere, hmatch⟩ := Option.bind_eq_some_iff.1 hd'
        exact ⟨there, hthere, by rw [hmatch, Option.isSome_some]⟩
    · rintro ⟨hagree, hreaches⟩
      by_cases hsome : ∃ host ∈ fleet.registrations,
          (fleet.localMatch host.hostId url.pathname).isSome = true
      · -- every host comes to the deployment of that one
        obtain ⟨owner, howner, hmatch⟩ := hsome
        obtain ⟨d, hd⟩ := Option.isSome_iff_exists.1 hmatch
        have hall : ∀ host ∈ fleet.registrations, ∀ request, Asks url request →
            fleet.handledBy maxInternalForwardHops host request = some d.deploymentId := by
          intro host hhost request hasks
          cases hlocal : fleet.localMatch host.hostId url.pathname with
          | some d' =>
            rw [handledBy_of_match hasks hlocal,
              hagree host hhost owner howner d' d hlocal hd]
          | none =>
            obtain ⟨there, hthere, hmatch'⟩ :=
              hreaches ⟨owner, howner, hmatch⟩ host hhost hlocal request hasks
            obtain ⟨d', hd'⟩ := Option.isSome_iff_exists.1 hmatch'
            rw [handledBy_spec hasks, hlocal, Option.none_or, hthere, Option.bind_some, hd',
              Option.map_some, hagree there (sentTo_mem hthere) owner howner d' d hd' hd]
        intro host hhost host' hhost' request request' hasks hasks'
        rw [hall host hhost request hasks, hall host' hhost' request' hasks']
      · -- no host handles it
        have hnone : ∀ host ∈ fleet.registrations,
            fleet.localMatch host.hostId url.pathname = none := fun host hhost =>
          Option.not_isSome_iff_eq_none.1 fun h => hsome ⟨host, hhost, h⟩
        have hall : ∀ host ∈ fleet.registrations, ∀ request, Asks url request →
            fleet.handledBy maxInternalForwardHops host request = none := by
          intro host hhost request hasks
          rw [handledBy_spec hasks, hnone host hhost, Option.none_or]
          cases hthere : fleet.sentTo host request with
          | none => rfl
          | some there => rw [Option.bind_some, hnone there (sentTo_mem hthere), Option.map_none]
        intro host hhost host' hhost' request request' hasks hasks'
        rw [hall host hhost request hasks, hall host' hhost' request' hasks']
  exact ⟨hiff, fun hf => hiff.trans (and_iff_left (hf.reaches url))⟩

/-! ### A host that keeps a request -/

/-- Two hosts; `/` is owned by the first one and `/api` by the second. -/
def overlapping : HttpFleet where
  platform := ⟨fun _ _ => true, id⟩
  options := { hostId := js "host", managesServiceModules := false, drains := false }
  registrations :=
    [{ hostId := js "a", nodeId := some (js "node-a"), publicBaseUrl := some (js "http://a") },
     { hostId := js "b", nodeId := some (js "node-b"), publicBaseUrl := some (js "http://b") }]
  plans :=
    [{ deploymentId := js "site", declaredVersion := js "1", manifestId := js "site"
       sourceUri := js "http://admin/site", workerEntry := js "main.ts", routeId := js "site"
       routePathPrefix := js "/", ownerHostIds := some [js "a"] },
     { deploymentId := js "api", declaredVersion := js "1", manifestId := js "api"
       sourceUri := js "http://admin/api", workerEntry := js "main.ts", routeId := js "api"
       routePathPrefix := js "/api", ownerHostIds := some [js "b"] }]
  upstreamBaseUrl := js "http://upstream"
  localEntry := fun _ => default

theorem overlapping_wellFormed : overlapping.WellFormed where
  hostIds := by decide
  nodeIds := by decide
  baseUrls := by
    intro host hhost
    rcases List.mem_pair.1 hhost with rfl | rfl
    · exact ⟨js "http://a", by decide, rfl, by decide⟩
    · exact ⟨js "http://b", by decide, rfl, by decide⟩
  routeIds := by decide +kernel

/-- The URL of the site. -/
def home : Url where
  pathname := js "/home"
  search := []
  absolute := by decide
  plain := by decide
  query := Url.no_query

/-- What is not an order is handled by the first host, wherever it enters. -/
theorem locationTransparent_home : overlapping.LocationTransparent home := by
  have hsite : ∀ host ∈ overlapping.registrations,
      ∀ d ∈ overlapping.localMatch host.hostId home.pathname, d.deploymentId = js "site" := by
    decide +kernel
  refine (locationTransparent_iff.2 overlapping_wellFormed).2 ?_
  intro host hhost host' hhost' d d' hd hd'
  rw [hsite host hhost d hd, hsite host' hhost' d' hd']

/-- The URL of an order. -/
def orders : Url where
  pathname := js "/api/orders"
  search := []
  absolute := by decide
  plain := by decide
  query := Url.no_query

/-- The first host keeps the request for an order, which the second one hands to the other
deployment. -/
theorem not_locationTransparent_overlapping :
    ¬∀ (fleet : HttpFleet) (url : Url), fleet.LocationTransparent url := by
  intro h
  have heq := h overlapping orders _ List.mem_cons_self _
    (List.mem_cons_of_mem _ List.mem_cons_self) _ _ (asks_self orders) (asks_self orders)
  exact absurd heq (by decide +kernel)

end HttpFleet

end Hardess

import Hardess.Control.Planning

/-!
# What a placement snapshot lists

* `Contributes`: a desired state has an assignment of a deployment that refers to a route;
* `collectDeployments_sound`: a listed route has owners, each of them contributes it, and one of
  them with the prefix that is listed;
* `collectDeployments_complete`: what some host contributes is listed;
* `mem_buildPlacementSnapshot`: the routes of the snapshot are the listed ones, sorted.
-/

namespace Hardess

/-- A desired state has an assignment of a deployment that refers to a route with a prefix. -/
def Contributes (desired : DesiredHostState) (deploymentId routeId pathPrefix : JsString) : Prop :=
  ∃ a ∈ desired.assignments, a.deploymentId = deploymentId ∧ routeId ∈ a.placementRouteRefs ∧
    ∃ route, desired.routesById.get routeId = some route ∧ route.pathPrefix = pathPrefix

/-- One of the desired states is that of the host, and contributes the route. -/
def Placed (desiredHostStates : List DesiredHostState)
    (hostId deploymentId routeId pathPrefix : JsString) : Prop :=
  ∃ desired ∈ desiredHostStates, desired.hostId = hostId ∧
    Contributes desired deploymentId routeId pathPrefix

namespace PlacementEntry

variable {C : JsString → JsString → JsString → Prop}

/-- The routes of an entry have owners, and are from them; `C` says which host has which route with
which prefix. -/
def Sound (C : JsString → JsString → JsString → Prop) (entry : PlacementEntry) : Prop :=
  ∀ routeId route, entry.routesById.get routeId = some route →
    route.routeId = routeId ∧ (∃ hostId, C hostId routeId route.pathPrefix) ∧
      route.ownerHostIds ≠ [] ∧ ∀ hostId ∈ route.ownerHostIds, ∃ pathPrefix,
        C hostId routeId pathPrefix

theorem mem_addToSet {s : List JsString} {x y : JsString} :
    y ∈ addToSet s x ↔ y = x ∨ y ∈ s := by
  unfold addToSet
  split_ifs with h
  · exact ⟨Or.inr, fun hy => hy.elim (fun e => e ▸ h) id⟩
  · rw [List.mem_append, List.mem_singleton, or_comm]

theorem addToSet_ne_nil (s : List JsString) (x : JsString) : addToSet s x ≠ [] :=
  List.ne_nil_of_mem (mem_addToSet.2 (Or.inl rfl))

variable {hostId routeId : JsString} {routesById : JsMap JsString SharedHttpRoute}
  {entry : PlacementEntry}

theorem Sound.addRoute (h : entry.Sound C)
    (hC : ∀ route, routesById.get routeId = some route → C hostId routeId route.pathPrefix) :
    (addRoute hostId routesById entry routeId).Sound C := by
  unfold Hardess.addRoute
  cases hroute : routesById.get routeId with
  | none => exact h
  | some route =>
    intro routeId' added hget
    rcases eq_or_ne routeId' routeId with rfl | hne
    · have hnew := hC route hroute
      simp only [JsMap.get_set_self, Option.some.injEq] at hget
      subst hget
      cases hold : entry.routesById.get routeId' with
      | none =>
        refine ⟨rfl, ⟨hostId, hnew⟩, by dsimp only; exact addToSet_ne_nil _ _, ?_⟩
        intro h' hmem
        dsimp only at hmem
        rcases mem_addToSet.1 hmem with rfl | hmem
        · exact ⟨_, hnew⟩
        · exact absurd hmem List.not_mem_nil
      | some old =>
        obtain ⟨hid, hmatches, -, howners⟩ := h routeId' old hold
        refine ⟨hid, hmatches, by dsimp only; exact addToSet_ne_nil _ _, ?_⟩
        intro h' hmem
        dsimp only at hmem
        rcases mem_addToSet.1 hmem with rfl | hmem
        · exact ⟨_, hnew⟩
        · exact howners h' hmem
    · simp only [JsMap.get_set_of_ne _ hne] at hget
      exact h routeId' added hget

/-- A route that is found is listed, and what is listed stays. -/
theorem get_addRoute {routeId' : JsString} :
    ((addRoute hostId routesById entry routeId).routesById.get routeId').isSome = true ↔
      (entry.routesById.get routeId').isSome = true ∨
        routeId' = routeId ∧ (routesById.get routeId).isSome = true := by
  unfold Hardess.addRoute
  cases hroute : routesById.get routeId with
  | none => simp
  | some route =>
    rcases eq_or_ne routeId' routeId with rfl | hne
    · simp
    · simp [JsMap.get_set_of_ne _ hne, hne]

theorem Sound.addRoutes {routeIds : List JsString} (h : entry.Sound C)
    (hC : ∀ routeId ∈ routeIds, ∀ route, routesById.get routeId = some route →
      C hostId routeId route.pathPrefix) :
    (routeIds.foldl (Hardess.addRoute hostId routesById) entry).Sound C := by
  induction routeIds generalizing entry with
  | nil => exact h
  | cons routeId routeIds ih =>
    exact ih (h.addRoute (hC routeId List.mem_cons_self)) fun r hr =>
      hC r (List.mem_cons_of_mem _ hr)

theorem get_addRoutes {routeIds : List JsString} {routeId' : JsString} :
    ((routeIds.foldl (addRoute hostId routesById) entry).routesById.get routeId').isSome = true ↔
      (entry.routesById.get routeId').isSome = true ∨
        routeId' ∈ routeIds ∧ (routesById.get routeId').isSome = true := by
  induction routeIds generalizing entry with
  | nil => simp
  | cons routeId routeIds ih =>
    rw [List.foldl_cons, ih, get_addRoute, List.mem_cons]
    constructor
    · rintro ((h | ⟨rfl, h⟩) | ⟨hmem, h⟩)
      · exact Or.inl h
      · exact Or.inr ⟨Or.inl rfl, h⟩
      · exact Or.inr ⟨Or.inr hmem, h⟩
    · rintro (h | ⟨rfl | hmem, h⟩)
      · exact Or.inl (Or.inl h)
      · exact Or.inl (Or.inr ⟨rfl, h⟩)
      · exact Or.inr ⟨hmem, h⟩

end PlacementEntry

/-! ### The deployments -/

/-- Every collected deployment is sound. -/
def Collected (C : JsString → JsString → JsString → JsString → Prop)
    (deployments : JsMap JsString PlacementEntry) : Prop :=
  ∀ deploymentId entry, deployments.get deploymentId = some entry →
    entry.Sound fun hostId => C hostId deploymentId

/-- A route of a deployment is listed. -/
def Lists (deployments : JsMap JsString PlacementEntry) (deploymentId routeId : JsString) : Prop :=
  ∃ entry, deployments.get deploymentId = some entry ∧
    (entry.routesById.get routeId).isSome = true

section Steps

variable {C : JsString → JsString → JsString → JsString → Prop}
  {deployments : JsMap JsString PlacementEntry} {hostId : JsString}
  {routesById : JsMap JsString SharedHttpRoute}

theorem Collected.addAssignment {a : Assignment} (h : Collected C deployments)
    (hC : ∀ routeId ∈ a.placementRouteRefs, ∀ route, routesById.get routeId = some route →
      C hostId a.deploymentId routeId route.pathPrefix) :
    Collected C (addAssignment hostId routesById deployments a) := by
  intro deploymentId entry hget
  unfold Hardess.addAssignment at hget
  rcases eq_or_ne deploymentId a.deploymentId with rfl | hne
  · rw [JsMap.get_set_self, Option.some.injEq] at hget
    subst hget
    refine PlacementEntry.Sound.addRoutes ?_ hC
    -- owners of the deployment are not looked at
    have hold : (entryFor deployments a).Sound fun hostId => C hostId a.deploymentId := by
      unfold entryFor
      cases hentry : deployments.get a.deploymentId with
      | none => exact fun _ _ h => absurd h (by simp)
      | some entry => exact h _ _ hentry
    exact hold
  · rw [JsMap.get_set_of_ne _ hne] at hget
    exact h deploymentId entry hget

theorem lists_addAssignment {a : Assignment} {deploymentId routeId : JsString} :
    Lists (addAssignment hostId routesById deployments a) deploymentId routeId ↔
      Lists deployments deploymentId routeId ∨
        deploymentId = a.deploymentId ∧ routeId ∈ a.placementRouteRefs ∧
          (routesById.get routeId).isSome = true := by
  unfold Lists addAssignment
  rcases eq_or_ne deploymentId a.deploymentId with rfl | hne
  · simp only [JsMap.get_set_self, Option.some.injEq, exists_eq_left', true_and,
      PlacementEntry.get_addRoutes, entryFor]
    cases deployments.get a.deploymentId <;> simp
  · simp [JsMap.get_set_of_ne _ hne, hne]

theorem Collected.addDesired {desired : DesiredHostState} (h : Collected C deployments)
    (hC : ∀ deploymentId routeId pathPrefix,
      Contributes desired deploymentId routeId pathPrefix →
        C desired.hostId deploymentId routeId pathPrefix) :
    Collected C (addDesired deployments desired) := by
  have hfold : ∀ (assignments : List Assignment) (deployments : JsMap JsString PlacementEntry),
      Collected C deployments → (∀ a ∈ assignments, a ∈ desired.assignments) →
        Collected C (assignments.foldl
          (Hardess.addAssignment desired.hostId desired.routesById) deployments) := by
    intro assignments
    induction assignments with
    | nil => exact fun _ h _ => h
    | cons a assignments ih =>
      intro deployments h hmem
      refine ih _ (h.addAssignment fun routeId hr route hroute => hC _ _ _ ?_)
        fun b hb => hmem b (List.mem_cons_of_mem _ hb)
      exact ⟨a, hmem a List.mem_cons_self, rfl, hr, route, hroute, rfl⟩
  exact hfold _ _ h fun _ h => h

theorem lists_addDesired {desired : DesiredHostState} {deploymentId routeId : JsString} :
    Lists (addDesired deployments desired) deploymentId routeId ↔
      Lists deployments deploymentId routeId ∨
        ∃ pathPrefix, Contributes desired deploymentId routeId pathPrefix := by
  have hfold : ∀ (assignments : List Assignment) (deployments : JsMap JsString PlacementEntry),
      Lists (assignments.foldl (addAssignment desired.hostId desired.routesById) deployments)
          deploymentId routeId ↔
        Lists deployments deploymentId routeId ∨
          (∃ a ∈ assignments, deploymentId = a.deploymentId ∧ routeId ∈ a.placementRouteRefs) ∧
            (desired.routesById.get routeId).isSome = true := by
    intro assignments
    induction assignments with
    | nil => simp
    | cons a assignments ih =>
      intro deployments
      rw [List.foldl_cons, ih, lists_addAssignment, List.exists_mem_cons_iff]
      tauto
  unfold addDesired Contributes
  rw [hfold]
  refine or_congr_right ⟨?_, ?_⟩
  · rintro ⟨⟨a, ha, rfl, hr⟩, hsome⟩
    obtain ⟨route, hroute⟩ := Option.isSome_iff_exists.1 hsome
    exact ⟨_, a, ha, rfl, hr, route, hroute, rfl⟩
  · rintro ⟨_, a, ha, rfl, hr, route, hroute, -⟩
    exact ⟨⟨a, ha, rfl, hr⟩, by rw [hroute, Option.isSome_some]⟩

end Steps

variable {desiredHostStates : List DesiredHostState}

/-- **A listed route has owners; each of them contributes it, and one of them with the prefix that
is listed.** -/
theorem collectDeployments_sound :
    Collected (Placed desiredHostStates) (collectDeployments desiredHostStates) := by
  have hfold : ∀ (states : List DesiredHostState) (deployments : JsMap JsString PlacementEntry),
      Collected (Placed desiredHostStates) deployments →
        (∀ s ∈ states, s ∈ desiredHostStates) →
          Collected (Placed desiredHostStates) (states.foldl addDesired deployments) := by
    intro states
    induction states with
    | nil => exact fun _ h _ => h
    | cons s states ih =>
      intro deployments h hmem
      refine ih _ (h.addDesired fun _ _ _ hc => ?_) fun t ht => hmem t (List.mem_cons_of_mem _ ht)
      exact ⟨s, hmem s List.mem_cons_self, rfl, hc⟩
  exact hfold _ _ (fun _ _ h => absurd h (by simp)) fun _ h => h

/-- **What some host contributes is listed**, and nothing else. -/
theorem lists_collectDeployments {deploymentId routeId : JsString} :
    Lists (collectDeployments desiredHostStates) deploymentId routeId ↔
      ∃ desired ∈ desiredHostStates, ∃ pathPrefix,
        Contributes desired deploymentId routeId pathPrefix := by
  have hfold : ∀ (states : List DesiredHostState) (deployments : JsMap JsString PlacementEntry),
      Lists (states.foldl addDesired deployments) deploymentId routeId ↔
        Lists deployments deploymentId routeId ∨ ∃ desired ∈ states, ∃ pathPrefix,
          Contributes desired deploymentId routeId pathPrefix := by
    intro states
    induction states with
    | nil => simp
    | cons s states ih =>
      intro deployments
      rw [List.foldl_cons, ih, lists_addDesired, List.exists_mem_cons_iff, or_assoc]
  rw [collectDeployments, hfold]
  simp [Lists]

/-! ### The snapshot -/

variable {platform : PlanningPlatform} {revision : JsString}

/-- A route of the snapshot is a route of a collected deployment, with its owners sorted. -/
theorem mem_placement_routes_iff {route : PlacementRoute} :
    (∃ deployment ∈ (buildPlacementSnapshot platform revision desiredHostStates).deployments,
        route ∈ deployment.routes) ↔
      ∃ deploymentId entry, (collectDeployments desiredHostStates).get deploymentId = some entry ∧
        ∃ routeId found, entry.routesById.get routeId = some found ∧
          { found with ownerHostIds := sortByLocale platform found.ownerHostIds } = route := by
  have hvalues : ∀ {ν : Type} (m : JsMap JsString ν) (v : ν),
      v ∈ m.entries.map Prod.snd ↔ ∃ k, m.get k = some v := by
    intro ν m v
    simp only [List.mem_map, Prod.exists, exists_eq_right, JsMap.get_eq_some_iff]
  have hentry : ∀ entry : PlacementEntry, route ∈ (entry.toDeployment platform).routes ↔
      ∃ routeId found, entry.routesById.get routeId = some found ∧
        { found with ownerHostIds := sortByLocale platform found.ownerHostIds } = route := by
    intro entry
    rw [PlacementEntry.toDeployment, (List.perm_insertionSort _ _).mem_iff, List.mem_map]
    constructor
    · rintro ⟨found, hmem, rfl⟩
      obtain ⟨routeId, hfound⟩ := (hvalues _ _).1 hmem
      exact ⟨routeId, found, hfound, rfl⟩
    · rintro ⟨routeId, found, hfound, rfl⟩
      exact ⟨found, (hvalues _ _).2 ⟨routeId, hfound⟩, rfl⟩
  constructor
  · rintro ⟨deployment, hd, hr⟩
    obtain ⟨entry, hmem, rfl⟩ := List.mem_map.1 ((List.perm_insertionSort _ _).mem_iff.1 hd)
    obtain ⟨deploymentId, hget⟩ := (hvalues _ _).1 hmem
    exact ⟨deploymentId, entry, hget, (hentry entry).1 hr⟩
  · rintro ⟨deploymentId, entry, hget, hr⟩
    exact ⟨_, (List.perm_insertionSort _ _).mem_iff.2 (List.mem_map_of_mem
      ((hvalues _ _).2 ⟨deploymentId, hget⟩)), (hentry entry).2 hr⟩

/-- **A route of the snapshot has owners; each of them contributes it, and one of them with the
prefix of the snapshot.** -/
theorem placement_route_sound {deployment : PlacementDeployment} {route : PlacementRoute}
    (hd : deployment ∈ (buildPlacementSnapshot platform revision desiredHostStates).deployments)
    (hr : route ∈ deployment.routes) :
    ∃ deploymentId,
      (∃ hostId, Placed desiredHostStates hostId deploymentId route.routeId route.pathPrefix) ∧
        (∃ hostId, hostId ∈ route.ownerHostIds) ∧
          ∀ hostId ∈ route.ownerHostIds, ∃ pathPrefix,
            Placed desiredHostStates hostId deploymentId route.routeId pathPrefix := by
  obtain ⟨deploymentId, entry, hentry, routeId, found, hfound, rfl⟩ :=
    mem_placement_routes_iff.1 ⟨deployment, hd, hr⟩
  obtain ⟨rfl, hmatches, hne, howners⟩ := collectDeployments_sound _ _ hentry _ _ hfound
  have hsorted : ∀ hostId, hostId ∈ sortByLocale platform found.ownerHostIds ↔
      hostId ∈ found.ownerHostIds := fun hostId => (List.perm_insertionSort _ _).mem_iff
  obtain ⟨owner, howner⟩ := List.exists_mem_of_ne_nil _ hne
  exact ⟨deploymentId, hmatches, ⟨owner, (hsorted owner).2 howner⟩,
    fun hostId h => howners hostId ((hsorted hostId).1 h)⟩

/-- **Every contributed route is in the snapshot**, under its id. -/
theorem placement_route_complete {desired : DesiredHostState} (hmem : desired ∈ desiredHostStates)
    {deploymentId routeId pathPrefix : JsString}
    (hc : Contributes desired deploymentId routeId pathPrefix) :
    ∃ deployment ∈ (buildPlacementSnapshot platform revision desiredHostStates).deployments,
      ∃ route ∈ deployment.routes, route.routeId = routeId := by
  obtain ⟨entry, hentry, hsome⟩ := lists_collectDeployments.2 ⟨desired, hmem, pathPrefix, hc⟩
  obtain ⟨found, hfound⟩ := Option.isSome_iff_exists.1 hsome
  obtain ⟨deployment, hd, hr⟩ : ∃ deployment ∈
      (buildPlacementSnapshot platform revision desiredHostStates).deployments,
        { found with ownerHostIds := sortByLocale platform found.ownerHostIds } ∈
          deployment.routes :=
    mem_placement_routes_iff.2 ⟨deploymentId, entry, hentry, routeId, found, hfound, rfl⟩
  exact ⟨deployment, hd, _, hr, (collectDeployments_sound _ _ hentry _ _ hfound).1⟩

end Hardess

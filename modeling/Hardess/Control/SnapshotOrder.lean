import Hardess.Control.HostSelection
import Hardess.Control.RequirementContents

/-!
# The order of the desired states

What `buildPlacementSnapshot` yields is sorted, but which of several values it keeps may depend on
the order in which it is given the desired states.

* `OrderFree`: the desired states agree on what is kept of the first or the last one of them;
* `placementSnapshot_orderFree_iff`: just then the snapshot is the same for every order, and each
  group has its own requirement;
* `twoDigests`: two hosts that are assigned two versions of one package.
-/

namespace Hardess

open SortedPerm OrderIndependence

variable (platform : PlanningPlatform)

/-- `localeCompare` puts the first string not after the second one. -/
def LocaleLe (left right : JsString) : Prop := platform.precedes left right = true

instance : DecidableRel (LocaleLe platform) := fun _ _ => inferInstanceAs (Decidable (_ = true))

/-- The same for groups, where no group counts as the empty string. -/
def GroupLe (left right : Option JsString) : Prop :=
  LocaleLe platform (left.getD []) (right.getD [])

instance : DecidableRel (GroupLe platform) := fun _ _ => inferInstanceAs (Decidable (_ = true))

/-! ### The condition -/

/-- The desired states agree on what is said of the routes of a deployment. -/
structure RouteAgrees (l : List DesiredHostState) (deploymentId routeId : JsString) : Prop where
  pathPrefix : Agree (fun s => s.prefixOf deploymentId routeId) l
  owners : TiesAgree (LocaleLe platform) (fun s => s.routeOwnersOf deploymentId routeId) l

/-- The desired states agree on what is said of a deployment. -/
structure DeploymentAgrees (l : List DesiredHostState) (deploymentId : JsString) : Prop where
  kindAndGroup : Agree (fun s => s.kindAndGroup deploymentId) l
  owners : TiesAgree (LocaleLe platform) (fun s => s.ownersOf deploymentId) l
  routeIds : TiesAgree (LocaleLe platform) (fun s => s.routeIdsOf deploymentId) l
  routes : ∀ routeId ∈ l.flatMap (fun s => s.routeIdsOf deploymentId),
    RouteAgrees platform l deploymentId routeId

/-- The desired states agree on the packages that are required of a group. -/
structure RequirementAgrees (l : List DesiredHostState) (groupId : Option JsString) : Prop where
  packageIds : TiesAgree (LocaleLe platform) (fun s => s.packageIdsOf groupId) l
  digests : ∀ packageId ∈ l.flatMap (fun s => s.packageIdsOf groupId),
    Agree (fun s => s.digestOf groupId packageId) l

/-- **The desired states agree on all that is kept of the first or the last of them**, and on the
order of what `localeCompare` does not tell apart. -/
structure OrderFree (l : List DesiredHostState) : Prop where
  deploymentIds : TiesAgree (LocaleLe platform) (·.deploymentIds) l
  deployments : ∀ deploymentId ∈ l.flatMap (·.deploymentIds),
    DeploymentAgrees platform l deploymentId
  noShare : NoShare l
  groups : TiesAgree (GroupLe platform) (·.requirementGroups) l
  requirements : ∀ groupId ∈ l.flatMap (·.requirementGroups),
    RequirementAgrees platform l groupId

variable {platform} {l : List DesiredHostState}

/-! ### Deployments -/

theorem mem_sortByLocale {K : DesiredHostState → List JsString} {x : JsString} :
    x ∈ sortByLocale platform (distinct (l.flatMap K)) ↔ x ∈ l.flatMap K := by
  rw [sortByLocale, List.mem_insertionSort, mem_distinct]

/-- A value that some desired state has is found in every order. -/
theorem isSome_findSome?_of_perm {β : Type} {f : DesiredHostState → Option β}
    {s : DesiredHostState} (hs : s ∈ l) (hf : (f s).isSome = true) {l' : List DesiredHostState}
    (hperm : l'.Perm l) : (l'.findSome? f).isSome = true :=
  List.findSome?_isSome_iff.2 ⟨s, hperm.mem_iff.2 hs, hf⟩

section Ordered

variable (h : Orders (LocaleLe platform))
include h

theorem unordered_sortByLocale_iff {K : DesiredHostState → List JsString} :
    Unordered (fun l => sortByLocale platform (distinct (l.flatMap K))) l ↔
      TiesAgree (LocaleLe platform) K l := unordered_sortDistinct_iff h

theorem unordered_placementRoute_iff {deploymentId routeId : JsString}
    (hmem : routeId ∈ l.flatMap fun s => s.routeIdsOf deploymentId) :
    Unordered (fun l => placementRoute platform l deploymentId routeId) l ↔
      RouteAgrees platform l deploymentId routeId := by
  obtain ⟨s, hs, hid⟩ := List.mem_flatMap.1 hmem
  have hsome : (s.prefixOf deploymentId routeId).isSome = true := by
    obtain ⟨m, hm, hid⟩ := List.mem_map.1 hid
    rw [DesiredHostState.prefixOf, Option.isSome_map, List.isSome_head?]
    exact List.ne_nil_of_mem (List.mem_filter.2 ⟨hm, decide_eq_true hid⟩)
  have hparts : Unordered (fun l => placementRoute platform l deploymentId routeId) l ↔
      Unordered (fun l => (l.findSome? fun s => s.prefixOf deploymentId routeId).getD []) l ∧
        Unordered (fun l => sortByLocale platform
          (distinct (l.flatMap fun s => s.routeOwnersOf deploymentId routeId))) l := by
    simp only [Unordered, placementRoute, PlacementRoute.mk.injEq, true_and, imp_and, forall_and]
  rw [hparts, unordered_getD_iff fun _ => isSome_findSome?_of_perm hs hsome,
    unordered_findSome?_iff, unordered_sortByLocale_iff h]
  exact ⟨fun hboth => ⟨hboth.1, hboth.2⟩, fun hboth => ⟨hboth.1, hboth.2⟩⟩

theorem unordered_placementDeployment_iff {deploymentId : JsString}
    (hmem : deploymentId ∈ l.flatMap (·.deploymentIds)) :
    Unordered (fun l => placementDeployment platform l deploymentId) l ↔
      DeploymentAgrees platform l deploymentId := by
  obtain ⟨s, hs, hid⟩ := List.mem_flatMap.1 hmem
  have hsome : (s.kindAndGroup deploymentId).isSome = true := by
    obtain ⟨a, ha, hid⟩ := List.mem_map.1 hid
    rw [DesiredHostState.kindAndGroup, Option.isSome_map, List.isSome_head?]
    exact List.ne_nil_of_mem (List.mem_filter.2 ⟨ha, decide_eq_true hid⟩)
  have hparts : Unordered (fun l => placementDeployment platform l deploymentId) l ↔
      Unordered (fun l =>
        (l.findSome? fun s => s.kindAndGroup deploymentId).getD (.httpWorker, none)) l ∧
      Unordered (fun l => sortByLocale platform
        (distinct (l.flatMap fun s => s.ownersOf deploymentId))) l ∧
      Unordered (fun l => (sortByLocale platform
        (distinct (l.flatMap fun s => s.routeIdsOf deploymentId))).map
          (placementRoute platform l deploymentId)) l := by
    simp only [Unordered, placementDeployment, PlacementDeployment.mk.injEq, true_and, imp_and,
      forall_and, Prod.ext_iff, and_assoc]
  rw [hparts, unordered_getD_iff fun _ => isSome_findSome?_of_perm hs hsome,
    unordered_findSome?_iff, unordered_sortByLocale_iff h,
    unordered_map_iff PlacementRoute.routeId fun _ _ => rfl, unordered_sortByLocale_iff h]
  have hroutes : (∀ routeId ∈ sortByLocale platform
        (distinct (l.flatMap fun s => s.routeIdsOf deploymentId)),
        Unordered (fun l => placementRoute platform l deploymentId routeId) l) ↔
      ∀ routeId ∈ l.flatMap (fun s => s.routeIdsOf deploymentId),
        RouteAgrees platform l deploymentId routeId := by
    simp only [mem_sortByLocale]
    exact forall₂_congr fun routeId hr => unordered_placementRoute_iff h hr
  rw [hroutes]
  exact ⟨fun hall => ⟨hall.1, hall.2.1, hall.2.2.1, hall.2.2.2⟩,
    fun hall => ⟨hall.1, hall.2, hall.3, hall.4⟩⟩

/-! ### Requirements -/

theorem unordered_placementRequirement_iff {groupId : Option JsString} :
    Unordered (fun l => placementRequirement platform l groupId) l ↔
      RequirementAgrees platform l groupId := by
  have hparts : Unordered (fun l => placementRequirement platform l groupId) l ↔
      Unordered (fun l => (sortByLocale platform
        (distinct (l.flatMap fun s => s.packageIdsOf groupId))).map
          (requiredPackage l groupId)) l := by
    simp only [Unordered, placementRequirement, PlacementIngressGroupRequirement.mk.injEq,
      true_and]
  have hpackage : ∀ packageId ∈ l.flatMap (fun s => s.packageIdsOf groupId),
      (Unordered (fun l => requiredPackage l groupId packageId) l ↔
        Agree (fun s => s.digestOf groupId packageId) l) := by
    intro packageId hmem
    obtain ⟨s, hs, hid⟩ := List.mem_flatMap.1 hmem
    have hsome : (s.digestOf groupId packageId).isSome = true := by
      obtain ⟨q, hq, hid⟩ := List.mem_map.1 hid
      rw [DesiredHostState.digestOf, Option.isSome_map, List.getLast?_isSome]
      exact List.ne_nil_of_mem (List.mem_filter.2 ⟨hq, decide_eq_true hid⟩)
    have hdigest : Unordered (fun l => requiredPackage l groupId packageId) l ↔
        Unordered (fun l =>
          (l.reverse.findSome? fun s => s.digestOf groupId packageId).getD []) l := by
      simp only [Unordered, requiredPackage, ServiceModuleProtocolPackageRef.mk.injEq, true_and,
        and_true]
    rw [hdigest, unordered_getD_iff fun l' hperm =>
      isSome_findSome?_of_perm hs hsome ((List.reverse_perm l').trans hperm)]
    exact findSome?_reverse_perm_iff
  rw [hparts, unordered_map_iff ServiceModuleProtocolPackageRef.packageId fun _ _ => rfl,
    unordered_sortByLocale_iff h]
  simp only [mem_sortByLocale]
  rw [forall₂_congr hpackage]
  exact ⟨fun hboth => ⟨hboth.1, hboth.2⟩, fun hboth => ⟨hboth.1, hboth.2⟩⟩

theorem unordered_requirementGroupIds_iff :
    Unordered (requirementGroupIds platform) l ↔
      TiesAgree (GroupLe platform) (·.requirementGroups) l := by
  have hgroups : Orders (GroupLe platform) := h.onFun fun groupId : Option JsString =>
    groupId.getD []
  exact unordered_sortDistinct_iff hgroups

end Ordered

theorem NoShare.perm (hl : NoShare l) {l' : List DesiredHostState} (hperm : l'.Perm l) :
    NoShare l' := by
  have hmem := fun groupId : Option JsString =>
    (hperm.flatMap_right DesiredHostState.requirementGroups).mem_iff (a := groupId)
  unfold NoShare at hl ⊢
  rwa [hmem, hmem]

/-- **The snapshot does not depend on the order of the desired states, and no requirement is shared
with hosts without a group, just in case the desired states agree.** -/
theorem placementSnapshot_orderFree_iff (h : Orders (LocaleLe platform))
    (l : List DesiredHostState) :
    ((∀ l', l'.Perm l → ∀ revision revision',
        let snapshot := buildPlacementSnapshotWithRequirements platform revision l
        let snapshot' := buildPlacementSnapshotWithRequirements platform revision' l'
        snapshot'.deployments = snapshot.deployments ∧
          snapshot'.ingressGroupRequirements = snapshot.ingressGroupRequirements) ∧
      KeepsGroupsApart platform l) ↔ OrderFree platform l := by
  -- the ids must come in one order, and each deployment must be the same in all orders
  have hdeployments : Unordered (fun l => (sortByLocale platform
      (distinct (l.flatMap (·.deploymentIds)))).map (placementDeployment platform l)) l ↔
        TiesAgree (LocaleLe platform) (·.deploymentIds) l ∧
          ∀ deploymentId ∈ l.flatMap (·.deploymentIds),
            DeploymentAgrees platform l deploymentId := by
    rw [unordered_map_iff PlacementDeployment.deploymentId fun _ _ => rfl,
      unordered_sortByLocale_iff h]
    simp only [mem_sortByLocale]
    exact and_congr_right fun _ =>
      forall₂_congr fun _ hd => unordered_placementDeployment_iff h hd
  have hrequirements : Unordered (fun l =>
      (requirementGroupIds platform l).map (placementRequirement platform l)) l ↔
        TiesAgree (GroupLe platform) (·.requirementGroups) l ∧
          ∀ groupId ∈ l.flatMap (·.requirementGroups), RequirementAgrees platform l groupId := by
    rw [unordered_map_iff PlacementIngressGroupRequirement.groupId fun _ _ => rfl,
      unordered_requirementGroupIds_iff h]
    simp only [requirementGroupIds, List.mem_insertionSort, mem_distinct]
    exact and_congr_right fun _ => forall₂_congr fun _ _ => unordered_placementRequirement_iff h
  rw [keepsGroupsApart_iff]
  constructor
  · rintro ⟨hsame, hshare⟩
    have hd : Unordered (fun l => (sortByLocale platform
        (distinct (l.flatMap (·.deploymentIds)))).map (placementDeployment platform l)) l := by
      intro l' hperm
      have heq := (hsame l' hperm [] []).1
      simp only [buildPlacementSnapshotWithRequirements] at heq
      rwa [buildPlacementSnapshot_deployments, buildPlacementSnapshot_deployments] at heq
    -- the revision is no part of the requirements
    have hr : Unordered (fun l =>
        (requirementGroupIds platform l).map (placementRequirement platform l)) l := by
      intro l' hperm
      have heq := (hsame l' hperm [] []).2
      simp only [buildPlacementSnapshotWithRequirements] at heq
      rwa [buildIngressGroupRequirements_eq platform (hshare.perm hperm),
        buildIngressGroupRequirements_eq platform hshare] at heq
    exact ⟨(hdeployments.1 hd).1, (hdeployments.1 hd).2, hshare, (hrequirements.1 hr).1,
      (hrequirements.1 hr).2⟩
  · rintro ⟨hids, hagree, hshare, hgroups, hpackages⟩
    refine ⟨fun l' hperm revision revision' => ⟨?_, ?_⟩, hshare⟩
    · simp only [buildPlacementSnapshotWithRequirements, buildPlacementSnapshot_deployments]
      exact hdeployments.2 ⟨hids, hagree⟩ l' hperm
    · simp only [buildPlacementSnapshotWithRequirements,
        buildIngressGroupRequirements_eq platform (hshare.perm hperm),
        buildIngressGroupRequirements_eq platform hshare]
      exact hrequirements.2 ⟨hgroups, hpackages⟩ l' hperm

/-! ### Two versions of a package -/

/-- A host that is assigned a service module with a version of a package. -/
def packageHost (hostId deploymentId digest : JsString) (groupId : Option JsString) :
    DesiredHostState where
  hostId := hostId
  revision := js "rev-1"
  assignments := [{
    assignmentId := js "assign:" ++ hostId
    hostId := hostId
    deploymentId := deploymentId
    deploymentKind := .serviceModule
    groupId := groupId
    declaredVersion := digest
    artifact := ⟨js "manifest-1", js "file:///chat", none⟩
    serviceModule := some ⟨js "index.ts",
      ⟨js "chat", js "chat", js "1", [js "send"], digest⟩⟩ }]

/-- Two hosts, in the middle of a rollout. -/
def twoDigests : List DesiredHostState :=
  [packageHost (js "host-a") (js "chat-1") (js "sha256:1") (some (js "blue")),
   packageHost (js "host-b") (js "chat-1") (js "sha256:2") (some (js "blue"))]

/-- A host without a group, and one of a group with the name of the key. -/
def defaultGroup : List DesiredHostState :=
  [packageHost (js "host-a") (js "chat-1") (js "sha256:1") none,
   packageHost (js "host-b") (js "chat-2") (js "sha256:2") (some (js "__default__"))]

/-- The requirement has the digest of the host that comes last. -/
theorem buildIngressGroupRequirements_twoDigests :
    buildIngressGroupRequirements codeUnitPlatform twoDigests =
        [⟨some (js "blue"), [{ packageId := js "chat", digest := js "sha256:2" }]⟩] ∧
      buildIngressGroupRequirements codeUnitPlatform twoDigests.reverse =
        [⟨some (js "blue"), [{ packageId := js "chat", digest := js "sha256:1" }]⟩] := by
  decide +kernel

theorem not_noShare_defaultGroup : ¬NoShare defaultGroup := fun h => h (by decide +kernel)

theorem orders_codeUnitPlatform : Orders (LocaleLe codeUnitPlatform) :=
  separating_codeUnitPlatform.toOrders

/-- **Two versions of a package**: the order of the hosts decides which digest is required. And
**hosts without a group share the requirement** of a group with the name of their key. -/
theorem placementSnapshot_order_counterexample :
    (∃ l', l'.Perm twoDigests ∧
      (buildPlacementSnapshotWithRequirements codeUnitPlatform [] l').ingressGroupRequirements ≠
        (buildPlacementSnapshotWithRequirements codeUnitPlatform []
          twoDigests).ingressGroupRequirements) ∧
      ¬KeepsGroupsApart codeUnitPlatform defaultGroup := by
  refine ⟨⟨twoDigests.reverse, List.reverse_perm _, ?_⟩, ?_⟩
  · obtain ⟨hfirst, hlast⟩ := buildIngressGroupRequirements_twoDigests
    simp only [buildPlacementSnapshotWithRequirements]
    rw [hfirst, hlast]
    decide +kernel
  · rw [keepsGroupsApart_iff]
    exact not_noShare_defaultGroup

/-- Two hosts with the same version, one of them in no group. -/
def twoGroups : List DesiredHostState :=
  [packageHost (js "host-b") (js "chat-2") (js "sha256:1") (some (js "blue")),
   packageHost (js "host-a") (js "chat-1") (js "sha256:1") none]

/-- In either order they make the same snapshot. -/
theorem placementSnapshot_twoGroups : OrderFree codeUnitPlatform twoGroups := by
  have hshare : KeepsGroupsApart codeUnitPlatform twoGroups := by
    rw [keepsGroupsApart_iff]
    unfold NoShare
    decide +kernel
  refine (placementSnapshot_orderFree_iff orders_codeUnitPlatform twoGroups).1 ⟨?_, hshare⟩
  intro l' hperm revision revision'
  rcases List.perm_pair.1 hperm with rfl | rfl
  · exact ⟨rfl, rfl⟩
  · simp only [buildPlacementSnapshotWithRequirements, buildPlacementSnapshot_deployments]
    decide +kernel

end Hardess

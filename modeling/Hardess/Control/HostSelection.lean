import Hardess.Lib.SortedPerm
import Hardess.Control.RolloutRounds

/-!
# The hosts that are selected

Every host decides by itself whether a deployment is assigned to it; the planner selects all owners
at once. Both rank the same candidates.

* `orders_compareCandidateHosts`: the comparison of candidates is an order, over all loads, labels
  and sticky hosts, when `localeCompare` is one;
* `rankCandidateHosts_perm`: the ranking does not depend on the order of the candidates;
* `selectedHosts_spec`: the hosts that decide for themselves are the owners that are planned;
* `projectHttpWorkerDesiredState_capacity`: an assigned host had room for one more assignment.
-/

namespace Hardess

open SortedPerm

/-! ### The ranking -/

/-- What `compareCandidateHosts` compares: sticky hosts first, then the score of the preferred
labels, the number of assignments and the id. -/
def candidateOrder (platform : PlanningPlatform) (deployment : HttpWorkerDeploymentPlan) :
    PlacementCandidateHost → PlacementCandidateHost → Prop :=
  thenBy (fun candidate => !(deployment.stickyHostIds.getD []).contains candidate.hostId) <|
  thenBy (fun candidate => OrderDual.toDual
    (preferredLabelScore candidate (deployment.scheduling.bind (·.preferredLabels)))) <|
  thenBy (fun candidate => candidate.currentAssignmentCount.getD 0) fun left right =>
    platform.precedes left.hostId right.hostId = true

theorem compareCandidateHosts_iff (platform : PlanningPlatform)
    (deployment : HttpWorkerDeploymentPlan) (left right : PlacementCandidateHost) :
    compareCandidateHosts platform deployment left right = true ↔
      candidateOrder platform deployment left right := by
  unfold compareCandidateHosts candidateOrder
  dsimp only
  split_ifs with hsticky hscore hassignments
  · rw [thenBy_of_ne (by simpa using hsticky), Bool.lt_iff]
    cases hl : (deployment.stickyHostIds.getD []).contains left.hostId <;> simp_all
  · rw [thenBy_of_eq (by rw [not_not.1 hsticky]), thenBy_of_ne (Ne.symm hscore), decide_eq_true_eq]
    rfl
  · rw [thenBy_of_eq (by rw [not_not.1 hsticky]), thenBy_of_eq (not_not.1 hscore).symm,
      thenBy_of_ne hassignments, decide_eq_true_eq]
  · rw [thenBy_of_eq (by rw [not_not.1 hsticky]), thenBy_of_eq (not_not.1 hscore).symm,
      thenBy_of_eq (not_not.1 hassignments)]

variable {platform : PlanningPlatform}

/-- **The comparison of candidates is an order.** -/
theorem orders_compareCandidateHosts
    (hlocale : Orders fun left right => platform.precedes left right = true)
    (deployment : HttpWorkerDeploymentPlan) :
    Orders fun left right => compareCandidateHosts platform deployment left right = true := by
  have horder : Orders (candidateOrder platform deployment) :=
    (((hlocale.onFun PlacementCandidateHost.hostId).thenBy _).thenBy _).thenBy _
  constructor
  · intro left right
    rw [compareCandidateHosts_iff, compareCandidateHosts_iff]
    exact horder.total left right
  · intro left middle right
    rw [compareCandidateHosts_iff, compareCandidateHosts_iff, compareCandidateHosts_iff]
    exact horder.trans left middle right

/-- Candidates with distinct ids are told apart, if the ids are. -/
theorem separates_compareCandidateHosts (deployment : HttpWorkerDeploymentPlan)
    {candidateHosts : List PlacementCandidateHost}
    (hapart : Separates (fun left right => platform.precedes left right = true)
      (candidateHosts.map (·.hostId)))
    (hnodup : (candidateHosts.map (·.hostId)).Nodup) :
    Separates (fun left right => compareCandidateHosts platform deployment left right = true)
      candidateHosts := by
  have hids : Separates (fun left right : PlacementCandidateHost =>
      platform.precedes left.hostId right.hostId = true) candidateHosts :=
    hapart.onFun (List.inj_on_of_nodup_map hnodup)
  intro left hleft right hright
  dsimp only
  rw [compareCandidateHosts_iff, compareCandidateHosts_iff]
  exact (((hids.thenBy _).thenBy _).thenBy _) left hleft right hright

/-- **The ranking does not depend on the order of the candidates.** -/
theorem rankCandidateHosts_perm
    (hlocale : Orders fun left right => platform.precedes left right = true)
    (deployment : HttpWorkerDeploymentPlan) {candidateHosts candidateHosts' :
      List PlacementCandidateHost}
    (hperm : candidateHosts'.Perm candidateHosts)
    (hapart : Separates (fun left right => platform.precedes left right = true)
      (candidateHosts.map (·.hostId)))
    (hnodup : (candidateHosts.map (·.hostId)).Nodup) :
    rankCandidateHosts platform deployment candidateHosts' =
      rankCandidateHosts platform deployment candidateHosts := by
  have hsublist : ((candidateHosts'.filter (isCandidateEligible deployment)).map
      (·.hostId)).Sublist (candidateHosts'.map (·.hostId)) := List.filter_sublist.map _
  have hfilter := ((hperm.map _).nodup_iff.2 hnodup).sublist hsublist
  have hkept := hapart.of_subset fun hostId hmem =>
    (hperm.map _).mem_iff.1 (hsublist.subset hmem)
  exact (orders_compareCandidateHosts hlocale deployment).insertionSort_eq (hperm.filter _)
    (separates_compareCandidateHosts deployment hkept hfilter)

theorem mem_rankCandidateHosts {deployment : HttpWorkerDeploymentPlan}
    {candidateHosts : List PlacementCandidateHost} {candidate : PlacementCandidateHost} :
    candidate ∈ rankCandidateHosts platform deployment candidateHosts ↔
      candidate ∈ candidateHosts ∧ isCandidateEligible deployment candidate = true := by
  rw [rankCandidateHosts, List.mem_insertionSort, List.mem_filter]

theorem length_rankCandidateHosts (platform : PlanningPlatform)
    (deployment : HttpWorkerDeploymentPlan) (candidateHosts : List PlacementCandidateHost) :
    (rankCandidateHosts platform deployment candidateHosts).length =
      candidateHosts.countP (isCandidateEligible deployment) := by
  rw [rankCandidateHosts, List.length_insertionSort, List.countP_eq_length_filter]

/-- The ids of the ranked candidates are distinct if those of the candidates are. -/
theorem nodup_rankCandidateHosts (deployment : HttpWorkerDeploymentPlan)
    {candidateHosts : List PlacementCandidateHost}
    (hnodup : (candidateHosts.map (·.hostId)).Nodup) :
    ((rankCandidateHosts platform deployment candidateHosts).map (·.hostId)).Nodup := by
  have hfilter : ((candidateHosts.filter (isCandidateEligible deployment)).map
      (·.hostId)).Nodup := hnodup.sublist (List.filter_sublist.map _)
  exact ((List.perm_insertionSort _ _).map _).nodup_iff.2 hfilter

/-! ### The owners -/

/-- The room that a candidate has for assignments. -/
theorem lt_of_isCandidateEligible {deployment : HttpWorkerDeploymentPlan}
    {candidate : PlacementCandidateHost}
    (h : isCandidateEligible deployment candidate = true) {maxAssignments : ℕ}
    (hmax : candidate.maxHttpWorkerAssignments = some maxAssignments) :
    candidate.currentAssignmentCount.getD 0 < maxAssignments := by
  unfold isCandidateEligible at h
  split_ifs at h
  rw [hmax] at h
  exact of_decide_eq_true h

/-- A host assigns a deployment to itself just in case the planner has it as a target. -/
theorem shouldAssignDeploymentToHost_iff {deployment : HttpWorkerDeploymentPlan}
    (howners : deployment.ownerHostIds = none) (hostId : JsString)
    (registeredHostIds : List JsString) (candidateHosts : List PlacementCandidateHost) :
    shouldAssignDeploymentToHost platform deployment hostId registeredHostIds
        (some candidateHosts) = true ↔
      hostId ∈ selectTargetOwnerHostIds platform deployment candidateHosts := by
  unfold shouldAssignDeploymentToHost selectTargetOwnerHostIds HttpWorkerDeploymentPlan.mode
    HttpWorkerDeploymentPlan.replicaCount
  rw [howners]
  dsimp only [Option.getD_some]
  split_ifs
  · rw [List.any_eq_true, List.mem_map]
    simp only [decide_eq_true_eq]
  · rw [List.contains_iff_mem]

/-- A target is an eligible candidate. -/
theorem eligible_of_mem_selectTargetOwnerHostIds {deployment : HttpWorkerDeploymentPlan}
    {candidateHosts : List PlacementCandidateHost} {hostId : JsString}
    (h : hostId ∈ selectTargetOwnerHostIds platform deployment candidateHosts) :
    ∃ candidate ∈ candidateHosts, candidate.hostId = hostId ∧
      isCandidateEligible deployment candidate = true := by
  have hranked : hostId ∈ (rankCandidateHosts platform deployment candidateHosts).map
      (·.hostId) := by
    unfold selectTargetOwnerHostIds at h
    dsimp only at h
    split_ifs at h
    · exact h
    · exact List.mem_of_mem_take h
  obtain ⟨candidate, hmem, rfl⟩ := List.mem_map.1 hranked
  obtain ⟨hcandidate, heligible⟩ := mem_rankCandidateHosts.1 hmem
  exact ⟨candidate, hcandidate, rfl, heligible⟩

/-- All eligible candidates, or as many of them as there are replicas. -/
theorem length_selectTargetOwnerHostIds (platform : PlanningPlatform)
    (deployment : HttpWorkerDeploymentPlan) (candidateHosts : List PlacementCandidateHost) :
    (selectTargetOwnerHostIds platform deployment candidateHosts).length =
      if deployment.mode = .allHosts then candidateHosts.countP (isCandidateEligible deployment)
      else min deployment.replicaCount
        (candidateHosts.countP (isCandidateEligible deployment)) := by
  unfold selectTargetOwnerHostIds
  dsimp only
  split_ifs
  · rw [List.length_map, length_rankCandidateHosts]
  · rw [List.length_take, List.length_map, length_rankCandidateHosts]

theorem nodup_selectTargetOwnerHostIds (deployment : HttpWorkerDeploymentPlan)
    {candidateHosts : List PlacementCandidateHost}
    (hnodup : (candidateHosts.map (·.hostId)).Nodup) :
    (selectTargetOwnerHostIds platform deployment candidateHosts).Nodup := by
  have hranked : ((rankCandidateHosts platform deployment candidateHosts).map (·.hostId)).Nodup :=
    nodup_rankCandidateHosts deployment hnodup
  unfold selectTargetOwnerHostIds
  dsimp only
  split_ifs
  · exact hranked
  · exact hranked.sublist (List.take_sublist _ _)

/-- **The hosts that assign a deployment to themselves are the owners that are planned**, without a
gradual rollout: eligible hosts, as many as there are replicas or all of them, in whatever order the
candidates come, if `localeCompare` orders the ids and tells those of the candidates apart. -/
theorem planHttpWorkerDeploymentOwners_eq_selected (platform : PlanningPlatform)
    (hlocale : Orders fun left right => platform.precedes left right = true)
    (input : PlanOwnersInput)
    (hapart : Separates (fun left right => platform.precedes left right = true)
      (input.candidateHosts.map (·.hostId)))
    (hnodup : (input.candidateHosts.map (·.hostId)).Nodup)
    (howners : input.deployment.ownerHostIds = none)
    (hrollout : input.deployment.gradualRolloutEnabled = false)
    (registeredHostIds : List JsString) :
    let deployment := input.deployment.toHttpWorkerDeploymentPlan
    let owners := planHttpWorkerDeploymentOwners platform input
    (∀ hostId, shouldAssignDeploymentToHost platform deployment hostId registeredHostIds
        (some input.candidateHosts) = true ↔ hostId ∈ owners) ∧
    (∀ hostId ∈ owners, ∃ candidate ∈ input.candidateHosts, candidate.hostId = hostId ∧
        isCandidateEligible deployment candidate = true) ∧
    owners.Nodup ∧
    (deployment.mode = .selectFirstNHosts → owners.length =
      min deployment.replicaCount
        (input.candidateHosts.countP (isCandidateEligible deployment))) ∧
    (deployment.mode = .allHosts → ∀ candidate ∈ input.candidateHosts,
      isCandidateEligible deployment candidate = true → candidate.hostId ∈ owners) ∧
    ∀ candidateHosts, candidateHosts.Perm input.candidateHosts →
      (∀ hostId, shouldAssignDeploymentToHost platform deployment hostId registeredHostIds
          (some candidateHosts) =
        shouldAssignDeploymentToHost platform deployment hostId registeredHostIds
          (some input.candidateHosts)) ∧
      planHttpWorkerDeploymentOwners platform { input with candidateHosts } = owners := by
  intro deployment owners
  have hselected : owners = selectTargetOwnerHostIds platform deployment input.candidateHosts :=
    planHttpWorkerDeploymentOwners_target (Or.inl hrollout)
  -- without owners that are fixed, each host looks for itself in the same selection
  have hself : ∀ hostId candidateHosts, shouldAssignDeploymentToHost platform deployment hostId
      registeredHostIds (some candidateHosts) = true ↔
        hostId ∈ selectTargetOwnerHostIds platform deployment candidateHosts := fun hostId =>
    shouldAssignDeploymentToHost_iff howners hostId registeredHostIds
  have hlength := length_selectTargetOwnerHostIds platform deployment input.candidateHosts
  rw [hselected]
  refine ⟨fun hostId => hself hostId _, fun hostId => eligible_of_mem_selectTargetOwnerHostIds,
    nodup_selectTargetOwnerHostIds deployment hnodup, ?_, ?_, ?_⟩
  · intro hmode
    rw [hlength, if_neg (by rw [hmode]; decide)]
  · intro hmode candidate hmem heligible
    unfold selectTargetOwnerHostIds
    dsimp only
    rw [if_pos hmode]
    exact List.mem_map_of_mem (mem_rankCandidateHosts.2 ⟨hmem, heligible⟩)
  · intro candidateHosts hperm
    -- the order of the candidates is gone after they are ranked
    have hsame : selectTargetOwnerHostIds platform deployment candidateHosts =
        selectTargetOwnerHostIds platform deployment input.candidateHosts := by
      unfold selectTargetOwnerHostIds
      rw [rankCandidateHosts_perm hlocale deployment hperm hapart hnodup]
    refine ⟨fun hostId => ?_, ?_⟩
    · rw [Bool.eq_iff_iff, hself, hself, hsame]
    · rw [← hsame]
      exact planHttpWorkerDeploymentOwners_target (Or.inl hrollout)

/-- Strings are compared by their code units. -/
def codeUnitPlatform : PlanningPlatform := ⟨fun left right => decide (left ≤ right), id⟩

theorem separating_codeUnitPlatform :
    Separating fun left right => codeUnitPlatform.precedes left right = true := by
  simp only [codeUnitPlatform, decide_eq_true_eq]
  exact ⟨⟨List.le_total, fun _ _ _ => List.le_trans⟩, fun _ _ => List.le_antisymm⟩

/-- A deployment for two of three hosts, one of which is draining. -/
def threeCandidates : PlanOwnersInput where
  deployment := { sharedPlan with replicas := some (.ofNat 2), rollout := none }
  candidateHosts :=
    [{ hostId := js "host-c" }, { hostId := js "host-b", draining := some true },
     { hostId := js "host-a" }]

theorem planHttpWorkerDeploymentOwners_threeCandidates :
    (planHttpWorkerDeploymentOwners codeUnitPlatform threeCandidates).Nodup ∧
      planHttpWorkerDeploymentOwners codeUnitPlatform
        { threeCandidates with candidateHosts := threeCandidates.candidateHosts.reverse } =
          planHttpWorkerDeploymentOwners codeUnitPlatform threeCandidates := by
  obtain ⟨-, -, hnodup, -, -, hperm⟩ := planHttpWorkerDeploymentOwners_eq_selected codeUnitPlatform
    separating_codeUnitPlatform.toOrders threeCandidates
    (separating_codeUnitPlatform.separates _) (by decide +kernel) rfl rfl []
  exact ⟨hnodup, (hperm _ (List.reverse_perm _)).2⟩

/-! ### The capacity of a host -/

/-- The reported assignments of a host and the new ones do not exceed what it may have, unless there
are no new ones. -/
def RespectsCapacity (platform : PlanningPlatform) (input : ProjectDesiredHttpWorkersInput)
    (candidateHosts : List PlacementCandidateHost) : Prop :=
  ∀ candidate ∈ candidateHosts, candidate.hostId = input.hostId →
    ∀ maxAssignments, candidate.maxHttpWorkerAssignments = some maxAssignments →
      (projectHttpWorkerDesiredState platform input).assignments = [] ∨
        candidate.currentAssignmentCount.getD 0 +
          (projectHttpWorkerDesiredState platform input).assignments.length ≤ maxAssignments

/-- **A host has an assignment of a deployment only if it is eligible for it**, which says that it
has room for one more assignment. All deployments are compared with the assignments that are
reported, so that together they may exceed the room. -/
theorem projectHttpWorkerDesiredState_capacity (platform : PlanningPlatform)
    (input : ProjectDesiredHttpWorkersInput) (candidateHosts : List PlacementCandidateHost)
    (hcandidates : input.candidateHosts = some candidateHosts)
    (howners : ∀ deployment ∈ input.deployments, deployment.ownerHostIds = none) :
    let assignments := (projectHttpWorkerDesiredState platform input).assignments
    (∀ assignment ∈ assignments, ∃ deployment ∈ input.deployments,
      assignment = buildAssignmentForHost input.hostId deployment ∧
        ∃ candidate ∈ candidateHosts, candidate.hostId = input.hostId ∧
          isCandidateEligible deployment candidate = true) ∧
    (assignments ≠ [] → ∃ candidate ∈ candidateHosts, candidate.hostId = input.hostId ∧
      ∀ maxAssignments, candidate.maxHttpWorkerAssignments = some maxAssignments →
        candidate.currentAssignmentCount.getD 0 + 1 ≤ maxAssignments ∧
          candidate.currentAssignmentCount.getD 0 + assignments.length + 1 ≤
            maxAssignments + input.deployments.length) := by
  intro assignments
  -- each assignment went through the selection, which asks for room
  have heligible : ∀ assignment ∈ assignments, ∃ deployment ∈ input.deployments,
      assignment = buildAssignmentForHost input.hostId deployment ∧
        ∃ candidate ∈ candidateHosts, candidate.hostId = input.hostId ∧
          isCandidateEligible deployment candidate = true := by
    intro assignment hmem
    obtain ⟨deployment, hassigned, rfl⟩ := List.mem_map.1 hmem
    obtain ⟨hdeployment, hshould⟩ := List.mem_filter.1 hassigned
    rw [hcandidates, shouldAssignDeploymentToHost_iff (howners deployment hdeployment)] at hshould
    exact ⟨deployment, hdeployment, rfl, eligible_of_mem_selectTargetOwnerHostIds hshould⟩
  refine ⟨heligible, fun hne => ?_⟩
  obtain ⟨assignment, hmem⟩ := List.exists_mem_of_ne_nil assignments hne
  obtain ⟨deployment, -, -, candidate, hcandidate, hhost, hroom⟩ := heligible assignment hmem
  refine ⟨candidate, hcandidate, hhost, fun maxAssignments hmax => ?_⟩
  have hlt := lt_of_isCandidateEligible hroom hmax
  have hlength : assignments.length ≤ input.deployments.length :=
    (List.length_map _).trans_le (List.length_filter_le _ _)
  omega

/-- Two deployments and a host that may have one assignment. -/
def crowdedInput : ProjectDesiredHttpWorkersInput where
  hostId := js "host-a"
  upstreamBaseUrl := js "http://127.0.0.1:9000"
  deployments := [sharedPlan.toHttpWorkerDeploymentPlan,
    { sharedPlan.toHttpWorkerDeploymentPlan with deploymentId := js "deployment:other" }]
  revisionToken := .ofNat 1
  registeredHostIds := [js "host-a"]
  candidateHosts := some [{ hostId := js "host-a", maxHttpWorkerAssignments := some 1,
                            currentAssignmentCount := some 0 }]

theorem capacity_crowdedInput :
    let assignments := (projectHttpWorkerDesiredState codeUnitPlatform crowdedInput).assignments
    ∃ candidate ∈ crowdedInput.candidateHosts.getD [], candidate.hostId = js "host-a" ∧
      ∀ maxAssignments, candidate.maxHttpWorkerAssignments = some maxAssignments →
        candidate.currentAssignmentCount.getD 0 + 1 ≤ maxAssignments ∧
          candidate.currentAssignmentCount.getD 0 + assignments.length + 1 ≤ maxAssignments + 2 :=
  (projectHttpWorkerDesiredState_capacity codeUnitPlatform crowdedInput _ rfl
    (by decide +kernel)).2 (by decide +kernel)

/-- Both deployments are assigned to the host that may have one. -/
theorem not_respectsCapacity :
    (∀ deployment ∈ crowdedInput.deployments, deployment.ownerHostIds = none) ∧
      ¬RespectsCapacity codeUnitPlatform crowdedInput (crowdedInput.candidateHosts.getD []) := by
  refine ⟨by decide +kernel, fun h => ?_⟩
  have hcapacity := h _ (List.mem_singleton_self _) rfl 1 rfl
  revert hcapacity
  decide +kernel

end Hardess

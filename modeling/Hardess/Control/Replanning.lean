import Hardess.Lib.SortedFront
import Hardess.Control.RolloutRounds

/-!
# Planning a deployment again

Candidates come from the registrations of the hosts and from what the hosts report; a host that has
applied its assignments counts them.

* `RuntimeHostAdapter.observedHostState_counts`: a host with an assignment counts it;
* `targetOwnerHostIds_settled`: owners that are eligible are ranked first, so that they are the
  target;
* `replan_settled`: a settled deployment whose owners have room keeps its owners;
* `not_replan_settled`: a deployment for all hosts does not, nor one with an owner that is full.
-/

namespace Hardess

/-! ### Candidates -/

/-- `HostRegistration`, with what placement reads of it. -/
structure HostProfile extends HostRegistration where
  staticLabels : JsMap JsString JsString
  staticCapabilities : List JsString
  maxHttpWorkerAssignments : Option ℕ

/-- The candidate of a registration. -/
def HostProfile.toCandidate (observed : JsMap JsString ObservedHostState)
    (registration : HostProfile) : PlacementCandidateHost where
  hostId := registration.hostId
  groupId := registration.groupId
  staticLabels := some registration.staticLabels
  staticCapabilities := some registration.staticCapabilities
  maxHttpWorkerAssignments := registration.maxHttpWorkerAssignments
  ready := (observed.get registration.hostId).map (·.ready)
  draining := (observed.get registration.hostId).map (·.draining)
  schedulable := (observed.get registration.hostId).bind (·.schedulable)
  currentAssignmentCount := (observed.get registration.hostId).map (·.currentAssignmentCount)

/-- `buildPlacementCandidateHosts`. -/
def buildPlacementCandidateHosts (platform : PlanningPlatform) (registrations : List HostProfile)
    (observedHostStates : Option (List ObservedHostState)) : List PlacementCandidateHost :=
  (registrations.map (·.toCandidate (observedByHostId (observedHostStates.getD [])))).insertionSort
    fun left right => platform.precedes left.hostId right.hostId = true

/-- What `collectObservedHostState` says to planning; `ready` and `shuttingDown` are those of
`runtimeState()`. -/
def RuntimeHostAdapter.observedHostState {η : Type} (options : RuntimeHostAdapterOptions)
    (adapter : RuntimeHostAdapter η) (le : JsString → JsString → Bool) (ready shuttingDown : Bool) :
    ObservedHostState where
  hostId := options.hostId
  ready := ready
  draining := shuttingDown
  schedulable := some ready
  currentAssignmentCount := (collectObservedHostState options adapter le).length
  assignmentStatuses := collectObservedHostState options adapter le

/-- A host counts an assignment of the deployment. -/
def ObservedHostState.Counts (observed : ObservedHostState) (deploymentId : JsString) : Prop :=
  observed.currentAssignmentCount = observed.assignmentStatuses.length ∧
    ∃ status ∈ observed.assignmentStatuses, status.deploymentId = deploymentId

/-- The deployment has been settled: it has as many owners as replicas, and each of them is
registered, fits, is ready, counts the deployment, and has not more assignments than it may have. -/
structure Settled (platform : PlanningPlatform) (input : PlanOwnersInput)
    (registrations : List HostProfile) (observedHostStates : List ObservedHostState) : Prop where
  registrations_nodup : (registrations.map (·.hostId)).Nodup
  candidates : input.candidateHosts =
    buildPlacementCandidateHosts platform registrations (some observedHostStates)
  sticky : input.deployment.stickyHostIds = some input.current
  replicas : input.current.toFinset.card = input.deployment.replicaCount
  registered : ∀ hostId ∈ input.current, hostId ∈ registrations.map (·.hostId)
  groupId : ∀ candidate ∈ input.candidateHosts, candidate.hostId ∈ input.current →
    input.deployment.groupId = candidate.groupId
  labels : ∀ candidate ∈ input.candidateHosts, candidate.hostId ∈ input.current →
    matchesRequiredLabels candidate (input.deployment.scheduling.bind (·.requiredLabels)) = true
  capabilities : ∀ candidate ∈ input.candidateHosts, candidate.hostId ∈ input.current →
    matchesRequiredCapabilities candidate
      (input.deployment.scheduling.bind (·.requiredCapabilities)) = true
  observed : ∀ hostId ∈ input.current, ∃ observed,
    (observedByHostId observedHostStates).get hostId = some observed ∧ observed.ready = true ∧
      observed.draining = false ∧ observed.schedulable ≠ some false ∧
        observed.Counts input.deployment.deploymentId
  capacity : ∀ candidate ∈ input.candidateHosts, candidate.hostId ∈ input.current →
    ∀ maxAssignments, candidate.maxHttpWorkerAssignments = some maxAssignments →
      candidate.currentAssignmentCount.getD 0 ≤ maxAssignments

/-- Every owner may have one more assignment. -/
def OwnersHaveRoom (input : PlanOwnersInput) : Prop :=
  ∀ candidate ∈ input.candidateHosts, candidate.hostId ∈ input.current →
    ∀ maxAssignments, candidate.maxHttpWorkerAssignments = some maxAssignments →
      candidate.currentAssignmentCount.getD 0 < maxAssignments

open PlanOwnersInput

variable {platform : PlanningPlatform} {input : PlanOwnersInput}
  {registrations : List HostProfile} {observedHostStates : List ObservedHostState}

/-- A host keeps its statuses when draining modules are added. -/
theorem RuntimeHostAdapter.subset_foldl_addDraining (statuses draining : List AssignmentStatus) :
    statuses ⊆ draining.foldl addDraining statuses := by
  induction draining generalizing statuses with
  | nil => exact List.Subset.refl statuses
  | cons d draining ih =>
    refine List.Subset.trans ?_ (ih (addDraining statuses d))
    unfold addDraining
    split_ifs
    · exact List.Subset.refl statuses
    · exact List.subset_append_left statuses [d]

/-- A host that has an assignment counts it. -/
theorem RuntimeHostAdapter.observedHostState_counts {η : Type} (options : RuntimeHostAdapterOptions)
    (adapter : RuntimeHostAdapter η) (le : JsString → JsString → Bool) (ready shuttingDown : Bool)
    {desired : DesiredHostState} (hdesired : adapter.lastDesired = some desired)
    {assignment : Assignment} (hmem : assignment ∈ desired.assignments) :
    (observedHostState options adapter le ready shuttingDown).Counts assignment.deploymentId := by
  have hstatus : statusOf adapter.assignmentStates assignment ∈
      ((adapter.lastDesired.map (·.assignments)).getD []).map
        (statusOf adapter.assignmentStates) := by
    rw [hdesired]
    exact List.mem_map_of_mem hmem
  exact ⟨rfl, statusOf adapter.assignmentStates assignment,
    subset_foldl_addDraining _ _ hstatus, rfl⟩

/-! ### The ranking -/

/-- Sticky hosts are ranked before all others. -/
theorem separates_sticky (platform : PlanningPlatform) (deployment : HttpWorkerDeploymentPlan) :
    SortedFront.Separates
      (fun left right => compareCandidateHosts platform deployment left right = true)
      (fun candidate => (deployment.stickyHostIds.getD []).contains candidate.hostId) := by
  intro left right hleft hright
  dsimp only at hleft hright
  simp only [compareCandidateHosts, hleft, hright]
  simp

theorem mem_buildPlacementCandidateHosts {observed : Option (List ObservedHostState)}
    {candidate : PlacementCandidateHost} :
    candidate ∈ buildPlacementCandidateHosts platform registrations observed ↔
      ∃ registration ∈ registrations,
        registration.toCandidate (observedByHostId (observed.getD [])) = candidate := by
  rw [buildPlacementCandidateHosts, List.mem_insertionSort, List.mem_map]

/-- The candidates have the ids of the registrations. -/
theorem perm_hostIds (platform : PlanningPlatform) (registrations : List HostProfile)
    (observed : Option (List ObservedHostState)) :
    ((buildPlacementCandidateHosts platform registrations observed).map (·.hostId)).Perm
      (registrations.map (·.hostId)) := by
  have hperm := (List.perm_insertionSort
    (fun left right : PlacementCandidateHost =>
      platform.precedes left.hostId right.hostId = true)
    (registrations.map (·.toCandidate (observedByHostId (observed.getD []))))).map (·.hostId)
  rwa [List.map_map] at hperm

namespace Settled

variable (h : Settled platform input registrations observedHostStates)
include h

/-- Every owner is a candidate. -/
theorem exists_candidate {hostId : JsString} (hmem : hostId ∈ input.current) :
    ∃ candidate ∈ input.candidateHosts, candidate.hostId = hostId := by
  obtain ⟨registration, hreg, rfl⟩ := List.mem_map.1 (h.registered hostId hmem)
  refine ⟨registration.toCandidate (observedByHostId observedHostStates), ?_, rfl⟩
  rw [h.candidates]
  exact mem_buildPlacementCandidateHosts.2 ⟨registration, hreg, rfl⟩

/-- Every owner that has room is eligible. -/
theorem isCandidateEligible_owner (hroom : OwnersHaveRoom input)
    {candidate : PlacementCandidateHost} (hmem : candidate ∈ input.candidateHosts)
    (howner : candidate.hostId ∈ input.current) :
    isCandidateEligible input.deployment.toHttpWorkerDeploymentPlan candidate = true := by
  obtain ⟨observed, hget, hready, hdraining, hschedulable, -⟩ := h.observed _ howner
  have hstate : candidate.ready = some true ∧ candidate.draining = some false ∧
      candidate.schedulable ≠ some false := by
    rw [h.candidates] at hmem
    obtain ⟨registration, -, rfl⟩ := mem_buildPlacementCandidateHosts.1 hmem
    have hget' : (observedByHostId observedHostStates).get registration.hostId = some observed :=
      hget
    simp [HostProfile.toCandidate, hget', hready, hdraining, hschedulable]
  unfold isCandidateEligible
  rw [if_neg (not_not_intro (h.groupId candidate hmem howner)), if_neg (by simp [hstate]),
    if_neg (by simp [h.labels candidate hmem howner]),
    if_neg (by simp [h.capabilities candidate hmem howner])]
  cases hmax : candidate.maxHttpWorkerAssignments with
  | none => rfl
  | some maxAssignments =>
    exact decide_eq_true (hroom candidate hmem howner maxAssignments hmax)

/-- The eligible candidates that are ranked first. -/
theorem front_toFinset (hroom : OwnersHaveRoom input) :
    let deployment := input.deployment.toHttpWorkerDeploymentPlan
    let front := (input.candidateHosts.filter (isCandidateEligible deployment)).filter
      fun candidate => (deployment.stickyHostIds.getD []).contains candidate.hostId
    (front.map (·.hostId)).Nodup ∧ (front.map (·.hostId)).toFinset = input.current.toFinset := by
  intro deployment front
  have hsticky : deployment.stickyHostIds.getD [] = input.current := by
    rw [show deployment.stickyHostIds = some input.current from h.sticky, Option.getD_some]
  constructor
  · have hnodup : (input.candidateHosts.map (·.hostId)).Nodup := by
      rw [h.candidates]
      exact (perm_hostIds platform registrations _).nodup_iff.2 h.registrations_nodup
    refine hnodup.sublist (List.Sublist.map _ ?_)
    exact List.filter_sublist.trans List.filter_sublist
  · ext hostId
    simp only [front, hsticky, List.mem_toFinset, List.mem_map, List.mem_filter,
      List.contains_iff_mem]
    constructor
    · rintro ⟨candidate, ⟨_, howner⟩, rfl⟩
      exact howner
    · intro howner
      obtain ⟨candidate, hmem, rfl⟩ := h.exists_candidate howner
      exact ⟨candidate, ⟨⟨hmem, h.isCandidateEligible_owner hroom hmem howner⟩, howner⟩, rfl⟩

/-- **The owners are the target** when all of them have room and the deployment is not for all
hosts. -/
theorem targetOwnerHostIds_toFinset (hroom : OwnersHaveRoom input)
    (hmode : input.deployment.mode ≠ .allHosts) :
    (input.targetOwnerHostIds platform).toFinset = input.current.toFinset := by
  obtain ⟨hnodup, hfront⟩ := h.front_toFinset hroom
  set deployment := input.deployment.toHttpWorkerDeploymentPlan
  set front := (input.candidateHosts.filter (isCandidateEligible deployment)).filter
    fun candidate => (deployment.stickyHostIds.getD []).contains candidate.hostId
  have hperm := (List.perm_insertionSort
    (fun left right => compareCandidateHosts platform deployment left right = true) front).map
    (·.hostId)
  have hlength : ((front.insertionSort fun left right =>
      compareCandidateHosts platform deployment left right = true).map (·.hostId)).length =
      input.deployment.replicaCount := by
    rw [hperm.length_eq, ← List.toFinset_card_of_nodup hnodup, hfront, h.replicas]
  unfold targetOwnerHostIds selectTargetOwnerHostIds rankCandidateHosts
  dsimp only
  rw [if_neg hmode, (separates_sticky platform deployment).insertionSort_eq_append, List.map_append,
    List.take_left' hlength, List.toFinset_eq_of_perm _ _ hperm, hfront]

end Settled

/-! ### Planning again -/

/-- Owners that are the target stay the owners. -/
theorem planHttpWorkerDeploymentOwners_of_target_eq
    (h : (input.targetOwnerHostIds platform).toFinset = input.current.toFinset) :
    (planHttpWorkerDeploymentOwners platform input).toFinset = input.current.toFinset := by
  cases hgradual : input.deployment.gradualRolloutEnabled with
  | false => rw [planHttpWorkerDeploymentOwners_target (Or.inl hgradual), h]
  | true =>
    obtain ⟨hgain, hloss⟩ := @planHttpWorkerDeploymentOwners_towards platform input hgradual
    rw [h, Finset.sdiff_self, Finset.subset_empty, Finset.sdiff_eq_empty_iff_subset] at hgain hloss
    exact hloss.antisymm hgain

/-- **A settled deployment whose owners have room keeps its owners**; one for all hosts has the
eligible candidates. -/
theorem replan_settled (platform : PlanningPlatform) (input : PlanOwnersInput)
    (registrations : List HostProfile) (observedHostStates : List ObservedHostState)
    (h : Settled platform input registrations observedHostStates) (hroom : OwnersHaveRoom input) :
    (input.deployment.mode ≠ .allHosts →
      (planHttpWorkerDeploymentOwners platform input).toFinset = input.current.toFinset) ∧
    (input.deployment.mode = .allHosts →
      ∀ hostId, hostId ∈ planHttpWorkerDeploymentOwners platform input ↔
        ∃ candidate ∈ input.candidateHosts, candidate.hostId = hostId ∧
          isCandidateEligible input.deployment.toHttpWorkerDeploymentPlan candidate = true) := by
  constructor
  · intro hmode
    exact planHttpWorkerDeploymentOwners_of_target_eq (h.targetOwnerHostIds_toFinset hroom hmode)
  · intro hmode hostId
    rw [planHttpWorkerDeploymentOwners_target (Or.inr (Or.inl hmode)), targetOwnerHostIds,
      selectTargetOwnerHostIds, if_pos hmode, List.mem_map]
    simp only [rankCandidateHosts, List.mem_insertionSort, List.mem_filter]
    constructor
    · rintro ⟨candidate, ⟨hmem, heligible⟩, rfl⟩
      exact ⟨candidate, hmem, rfl, heligible⟩
    · rintro ⟨candidate, hmem, rfl, heligible⟩
      exact ⟨candidate, ⟨hmem, heligible⟩, rfl⟩

/-! ### A deployment on one of two hosts -/

/-- Two hosts, of which the first one may have so many assignments. -/
def twoProfiles (capacity : ℕ) : List HostProfile :=
  [{ hostId := js "host-a", staticLabels := .empty, staticCapabilities := []
     maxHttpWorkerAssignments := some capacity },
   { hostId := js "host-b", staticLabels := .empty, staticCapabilities := []
     maxHttpWorkerAssignments := none }]

/-- The deployment is active on the first host. -/
def activeOnFirst : List ObservedHostState :=
  [activeOn (js "host-a"),
   { hostId := js "host-b", ready := true, draining := false, currentAssignmentCount := 0
     assignmentStatuses := [] }]

/-- The deployment is planned again. -/
def planAgain (mode : HttpWorkerAssignmentMode) (capacity : ℕ) : PlanOwnersInput where
  deployment :=
    { sharedPlan with
      assignmentMode := some mode, stickyHostIds := some [js "host-a"], rollout := none }
  candidateHosts :=
    buildPlacementCandidateHosts plainPlatform (twoProfiles capacity) (some activeOnFirst)
  currentDesiredOwnerHostIds := some [js "host-a"]
  observedHostStates := some activeOnFirst

/-- The owner, as a candidate. -/
theorem planAgain_owner {mode : HttpWorkerAssignmentMode} {capacity : ℕ}
    {candidate : PlacementCandidateHost}
    (hmem : candidate ∈ (planAgain mode capacity).candidateHosts)
    (howner : candidate.hostId ∈ (planAgain mode capacity).current) :
    candidate =
      { hostId := js "host-a", staticLabels := some .empty, staticCapabilities := some []
        maxHttpWorkerAssignments := some capacity, ready := some true, draining := some false
        currentAssignmentCount := some 1 } := by
  obtain ⟨registration, hreg, rfl⟩ := mem_buildPlacementCandidateHosts.1 hmem
  unfold twoProfiles at hreg
  rw [List.mem_cons, List.mem_singleton] at hreg
  obtain rfl | rfl := hreg
  · rfl
  · exact absurd (List.mem_singleton.1 howner) (by simp [HostProfile.toCandidate])

theorem settled_planAgain (mode : HttpWorkerAssignmentMode) {capacity : ℕ} (h : 1 ≤ capacity) :
    Settled plainPlatform (planAgain mode capacity) (twoProfiles capacity) activeOnFirst where
  registrations_nodup := by
    change [js "host-a", js "host-b"].Nodup
    simp
  candidates := rfl
  sticky := rfl
  replicas := by
    change [js "host-a"].toFinset.card = sharedPlan.replicaCount
    decide +kernel
  registered := by
    change ∀ hostId ∈ [js "host-a"], hostId ∈ [js "host-a", js "host-b"]
    simp
  groupId := fun candidate hmem howner => by rw [planAgain_owner hmem howner]; rfl
  labels := fun candidate hmem howner => by rw [planAgain_owner hmem howner]; rfl
  capabilities := fun candidate hmem howner => by rw [planAgain_owner hmem howner]; rfl
  observed := by
    intro hostId hmem
    rw [List.mem_singleton.1 hmem]
    exact ⟨activeOn (js "host-a"), rfl, rfl, rfl, by decide, rfl, _, List.mem_singleton_self _, rfl⟩
  capacity := by
    intro candidate hmem howner maxAssignments hmax
    rw [planAgain_owner hmem howner] at hmax ⊢
    obtain rfl := Option.some.inj hmax
    exact h

theorem replan_planAgain :
    (planHttpWorkerDeploymentOwners plainPlatform (planAgain .selectFirstNHosts 2)).toFinset =
      (planAgain .selectFirstNHosts 2).current.toFinset := by
  refine (replan_settled plainPlatform _ (twoProfiles 2) activeOnFirst
    (settled_planAgain .selectFirstNHosts (by decide)) ?_).1 (by decide +kernel)
  intro candidate hmem howner maxAssignments hmax
  rw [planAgain_owner hmem howner] at hmax ⊢
  obtain rfl := Option.some.inj hmax
  decide

/-- A deployment for all hosts is also given to the second host, and one whose owner is full moves
there. -/
theorem not_replan_settled :
    (Settled plainPlatform (planAgain .allHosts 2) (twoProfiles 2) activeOnFirst ∧
      (planHttpWorkerDeploymentOwners plainPlatform (planAgain .allHosts 2)).toFinset ≠
        (planAgain .allHosts 2).current.toFinset) ∧
    (Settled plainPlatform (planAgain .selectFirstNHosts 1) (twoProfiles 1) activeOnFirst ∧
      (planHttpWorkerDeploymentOwners plainPlatform (planAgain .selectFirstNHosts 1)).toFinset ≠
        (planAgain .selectFirstNHosts 1).current.toFinset) := by
  refine ⟨⟨settled_planAgain _ (by decide), ?_⟩, ⟨settled_planAgain _ (by decide), ?_⟩⟩
  · decide +kernel
  · decide +kernel

end Hardess

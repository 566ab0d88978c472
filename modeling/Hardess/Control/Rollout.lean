import Hardess.Lib.BoundedReplacement
import Hardess.Control.Placement
import Hardess.Control.RuntimeHostAdapter

/-!
# Gradual rollouts

`planHttpWorkerDeploymentOwners` of `src/sdk/admin/planning.ts`: the owners of a deployment in the
next round. With a gradual rollout, the current owners are led towards the target in two bounded
passes.

* `planHttpWorkerDeploymentOwners_target`: when the target is taken at once;
* `planHttpWorkerDeploymentOwners_gradual`: otherwise the two passes are those of
  `BoundedReplacement`.
-/

namespace Hardess

/-- `rollout.strategy`. -/
inductive RolloutStrategy
  | gradual
  deriving DecidableEq

/-- `HttpWorkerDeploymentPlan["rollout"]`. -/
structure Rollout where
  strategy : Option RolloutStrategy := none
  maxUnavailable : Option JsNumber := none
  batchSize : Option JsNumber := none

/-- `HttpWorkerDeploymentPlan`, with its rollout. -/
structure HttpWorkerRolloutPlan extends HttpWorkerDeploymentPlan where
  rollout : Option Rollout := none

/-- `ObservedHostState`, as far as planning reads it. -/
structure ObservedHostState where
  hostId : JsString
  ready : Bool
  draining : Bool
  schedulable : Option Bool := none
  currentAssignmentCount : ℕ
  assignmentStatuses : List RuntimeHostAdapter.AssignmentStatus

/-- `assignmentMode ?? "select-first-n-hosts"`. -/
def HttpWorkerDeploymentPlan.mode (deployment : HttpWorkerDeploymentPlan) :
    HttpWorkerAssignmentMode :=
  deployment.assignmentMode.getD .selectFirstNHosts

/-- `normalizeReplicaCount(deployment.replicas ?? 1)`. -/
def HttpWorkerDeploymentPlan.replicaCount (deployment : HttpWorkerDeploymentPlan) : ℕ :=
  normalizeReplicaCount (deployment.replicas.getD (.ofNat 1))

/-- `normalizePositiveCount`. -/
def normalizePositiveCount (value : Option JsNumber) (fallback : ℕ) : ℕ :=
  match value with
  | some (.finite x) => if x.val ≤ 0 then fallback else max 1 ⌊x.val⌋₊
  | _ => fallback

/-- `normalizeNonNegativeCount`. -/
def normalizeNonNegativeCount (value : Option JsNumber) (fallback : ℕ) : ℕ :=
  match value with
  | some (.finite x) => if x.val < 0 then fallback else ⌊x.val⌋₊
  | _ => fallback

/-- `uniqueHostIds`: what a `Set` of them holds, in the order of its insertions. -/
def uniqueHostIds (hostIds : List JsString) : List JsString := hostIds.foldl addToSet []

/-- `observedByHostId`: of two states of one host, the later one. -/
def observedByHostId (observedHostStates : List ObservedHostState) :
    JsMap JsString ObservedHostState :=
  observedHostStates.foldl (fun states observed => states.set observed.hostId observed) .empty

/-- Is the first status that a host reports for this version `ready` or `active`? -/
def isAvailableOwner (deploymentId declaredVersion : JsString)
    (observedHostStates : List ObservedHostState) (hostId : JsString) : Bool :=
  let observed := (observedByHostId observedHostStates).get hostId
  let assignmentStatus := observed.bind fun observed =>
    observed.assignmentStatuses.find? fun status =>
      status.deploymentId = deploymentId ∧ status.declaredVersion = declaredVersion
  assignmentStatus.any fun status => status.state = .ready ∨ status.state = .active

/-- `countAvailableOwnerHosts`. -/
def countAvailableOwnerHosts (deploymentId declaredVersion : JsString)
    (observedHostStates : List ObservedHostState) (ownerHostIds : List JsString) : ℕ :=
  ownerHostIds.countP (isAvailableOwner deploymentId declaredVersion observedHostStates)

/-- `selectTargetOwnerHostIds`. -/
def selectTargetOwnerHostIds (platform : PlanningPlatform) (deployment : HttpWorkerDeploymentPlan)
    (candidateHosts : List PlacementCandidateHost) : List JsString :=
  let eligibleHosts := (rankCandidateHosts platform deployment candidateHosts).map (·.hostId)
  if deployment.mode = .allHosts then eligibleHosts
  else eligibleHosts.take deployment.replicaCount

namespace HttpWorkerRolloutPlan

variable (deployment : HttpWorkerRolloutPlan)

/-- `gradualRolloutEnabled`. -/
def gradualRolloutEnabled : Bool :=
  deployment.rollout.any fun rollout =>
    rollout.strategy = some .gradual ∨ rollout.batchSize.isSome ∨ rollout.maxUnavailable.isSome

/-- `batchSize`. -/
def batchSize : ℕ := normalizePositiveCount (deployment.rollout.bind (·.batchSize)) 1

/-- `maxUnavailable`. -/
def maxUnavailable : ℕ := normalizeNonNegativeCount (deployment.rollout.bind (·.maxUnavailable)) 0

/-- `minAvailable`; it is not below zero. -/
def minAvailable : ℕ := deployment.replicaCount - deployment.maxUnavailable

end HttpWorkerRolloutPlan

theorem HttpWorkerRolloutPlan.batchSize_pos (deployment : HttpWorkerRolloutPlan) :
    0 < deployment.batchSize := by
  unfold HttpWorkerRolloutPlan.batchSize normalizePositiveCount
  split
  · split_ifs
    · exact Nat.one_pos
    · exact Nat.lt_of_lt_of_le Nat.one_pos (le_max_left _ _)
  · exact Nat.one_pos

/-- The argument of `planHttpWorkerDeploymentOwners`. -/
structure PlanOwnersInput where
  deployment : HttpWorkerRolloutPlan
  candidateHosts : List PlacementCandidateHost
  currentDesiredOwnerHostIds : Option (List JsString) := none
  observedHostStates : Option (List ObservedHostState) := none

namespace PlanOwnersInput

variable (platform : PlanningPlatform) (input : PlanOwnersInput)

/-- `targetOwnerHostIds`. -/
def targetOwnerHostIds : List JsString :=
  selectTargetOwnerHostIds platform input.deployment.toHttpWorkerDeploymentPlan input.candidateHosts

/-- `currentDesiredOwnerHostIds`, each of them once. -/
def currentOwnerHostIds : List JsString := uniqueHostIds (input.currentDesiredOwnerHostIds.getD [])

/-- Is a host observed ready or active at the declared version? -/
def isAvailable (hostId : JsString) : Bool :=
  isAvailableOwner input.deployment.deploymentId input.deployment.declaredVersion
    (input.observedHostStates.getD []) hostId

/-- The call of `countAvailableOwnerHosts`. -/
def countAvailable (ownerHostIds : List JsString) : ℕ :=
  countAvailableOwnerHosts input.deployment.deploymentId input.deployment.declaredVersion
    (input.observedHostStates.getD []) ownerHostIds

end PlanOwnersInput

/-- The state of the two loops: `nextOwnerHostIds` in the order of its insertions, without what has
been deleted from `nextOwnerSet`. -/
abbrev NextOwners := List JsString

/-- The first loop, which adds target owners up to `limit`. -/
def addTargetOwners (limit : ℕ) : NextOwners → List JsString → NextOwners
  | nextOwners, [] => nextOwners
  | nextOwners, hostId :: targetOwnerHostIds =>
    if nextOwners.length ≥ limit then nextOwners
    else if hostId ∈ nextOwners then addTargetOwners limit nextOwners targetOwnerHostIds
    else addTargetOwners limit (nextOwners ++ [hostId]) targetOwnerHostIds

/-- The second loop, which removes current owners that are no target owners; `available` counts the
available ones of the remaining owners. -/
def removePreviousOwners (targetOwnerSet : List JsString) (available : NextOwners → ℕ)
    (batchSize minAvailable : ℕ) : ℕ → NextOwners → List JsString → NextOwners
  | _, nextOwners, [] => nextOwners
  | removedCount, nextOwners, hostId :: currentOwnerHostIds =>
    if removedCount ≥ batchSize then nextOwners
    else if hostId ∈ targetOwnerSet then
      removePreviousOwners targetOwnerSet available batchSize minAvailable removedCount nextOwners
        currentOwnerHostIds
    else
      let remainingOwnerHostIds := nextOwners.filter (· ≠ hostId)
      if available remainingOwnerHostIds < minAvailable then
        removePreviousOwners targetOwnerSet available batchSize minAvailable removedCount nextOwners
          currentOwnerHostIds
      else
        removePreviousOwners targetOwnerSet available batchSize minAvailable (removedCount + 1)
          remainingOwnerHostIds currentOwnerHostIds

/-- `planHttpWorkerDeploymentOwners`. -/
def planHttpWorkerDeploymentOwners (platform : PlanningPlatform) (input : PlanOwnersInput) :
    List JsString :=
  let deployment := input.deployment
  let targetOwnerHostIds := input.targetOwnerHostIds platform
  if ¬deployment.gradualRolloutEnabled ∨ deployment.mode = .allHosts then targetOwnerHostIds
  else
    let currentOwnerHostIds := input.currentOwnerHostIds
    if currentOwnerHostIds.length = 0 then targetOwnerHostIds
    else
      let nextOwners := addTargetOwners (currentOwnerHostIds.length + deployment.batchSize)
        currentOwnerHostIds targetOwnerHostIds
      removePreviousOwners targetOwnerHostIds input.countAvailable deployment.batchSize
        deployment.minAvailable 0 nextOwners currentOwnerHostIds

/-! ### The two loops -/

theorem addTargetOwners_eq (limit : ℕ) (nextOwners targetOwnerHostIds : List JsString) :
    addTargetOwners limit nextOwners targetOwnerHostIds =
      BoundedReplacement.enlarge limit nextOwners targetOwnerHostIds := by
  induction targetOwnerHostIds generalizing nextOwners with
  | nil => rfl
  | cons hostId targetOwnerHostIds ih =>
    rw [addTargetOwners, BoundedReplacement.enlarge]
    by_cases hfull : nextOwners.length ≥ limit
    · rw [if_pos hfull, if_pos hfull]
    by_cases hmem : hostId ∈ nextOwners
    · rw [if_neg hfull, if_neg hfull, if_pos hmem, if_pos hmem, ih]
    · rw [if_neg hfull, if_neg hfull, if_neg hmem, if_neg hmem, ih]

theorem removePreviousOwners_eq (targetOwnerSet : List JsString) (available : NextOwners → ℕ)
    (batchSize minAvailable removedCount : ℕ) (nextOwners currentOwnerHostIds : List JsString) :
    removePreviousOwners targetOwnerSet available batchSize minAvailable removedCount nextOwners
        currentOwnerHostIds =
      BoundedReplacement.retire (· ∈ targetOwnerSet) (minAvailable ≤ available ·)
        (batchSize - removedCount) nextOwners currentOwnerHostIds := by
  induction currentOwnerHostIds generalizing removedCount nextOwners with
  | nil => rfl
  | cons hostId currentOwnerHostIds ih =>
    rw [removePreviousOwners, BoundedReplacement.retire]
    by_cases hbudget : removedCount ≥ batchSize
    · have hnone : batchSize - removedCount = 0 := by omega
      rw [if_pos hbudget, if_pos hnone]
    have hsome : batchSize - removedCount ≠ 0 := by omega
    rw [if_neg hbudget, if_neg hsome]
    by_cases htarget : hostId ∈ targetOwnerSet
    · rw [if_pos htarget, if_pos (decide_eq_true htarget), ih]
    have hleaves : decide (hostId ∈ targetOwnerSet) ≠ true := by rwa [ne_eq, decide_eq_true_eq]
    rw [if_neg htarget, if_neg hleaves]
    by_cases hfew : available (nextOwners.filter (· ≠ hostId)) < minAvailable
    · rw [if_pos hfew, if_neg (by rwa [decide_eq_true_eq, not_le]), ih]
    · rw [if_neg hfew, if_pos (by rwa [decide_eq_true_eq, ← not_lt]), ih, Nat.sub_add_eq]

theorem uniqueHostIds_eq (seen hostIds : List JsString) (h : seen.Nodup) :
    (hostIds.foldl addToSet seen).Nodup ∧
      ∀ hostId, hostId ∈ hostIds.foldl addToSet seen ↔ hostId ∈ seen ∨ hostId ∈ hostIds := by
  induction hostIds generalizing seen with
  | nil => exact ⟨h, by simp⟩
  | cons x hostIds ih =>
    have hnodup : (addToSet seen x).Nodup := by
      unfold addToSet
      split_ifs with hx
      · exact h
      · rw [List.nodup_append]
        refine ⟨h, List.nodup_singleton x, fun a ha b hb => ?_⟩
        rw [List.mem_singleton.1 hb]
        exact fun heq => hx (heq ▸ ha)
    obtain ⟨hfold, hmem⟩ := ih (addToSet seen x) hnodup
    refine ⟨hfold, fun hostId => ?_⟩
    rw [List.foldl_cons, hmem, PlacementEntry.mem_addToSet, List.mem_cons]
    tauto

theorem nodup_uniqueHostIds (hostIds : List JsString) : (uniqueHostIds hostIds).Nodup :=
  (uniqueHostIds_eq [] hostIds List.nodup_nil).1

@[simp] theorem mem_uniqueHostIds {hostIds : List JsString} {hostId : JsString} :
    hostId ∈ uniqueHostIds hostIds ↔ hostId ∈ hostIds := by
  have h := (uniqueHostIds_eq [] hostIds List.nodup_nil).2 hostId
  rwa [or_iff_right List.not_mem_nil] at h

/-! ### One round -/

variable {platform : PlanningPlatform} {input : PlanOwnersInput}

namespace PlanOwnersInput

variable (platform input) in
/-- The current owners and the target owners that the first loop adds. -/
def widened : List JsString :=
  BoundedReplacement.enlarge (input.currentOwnerHostIds.length + input.deployment.batchSize)
    input.currentOwnerHostIds (input.targetOwnerHostIds platform)

/-- The owners as they are given. -/
def current (input : PlanOwnersInput) : List JsString := input.currentDesiredOwnerHostIds.getD []

theorem mem_currentOwnerHostIds {hostId : JsString} :
    hostId ∈ input.currentOwnerHostIds ↔ hostId ∈ input.current := mem_uniqueHostIds

theorem currentOwnerHostIds_ne_nil (h : input.current ≠ []) : input.currentOwnerHostIds ≠ [] := by
  obtain ⟨hostId, hmem⟩ := List.exists_mem_of_ne_nil _ h
  exact List.ne_nil_of_mem (mem_currentOwnerHostIds.2 hmem)

end PlanOwnersInput

open PlanOwnersInput

/-- Outside a gradual replacement of owners, the target is taken at once. -/
theorem planHttpWorkerDeploymentOwners_target
    (h : input.deployment.gradualRolloutEnabled = false ∨ input.deployment.mode = .allHosts ∨
      input.current = []) :
    planHttpWorkerDeploymentOwners platform input = input.targetOwnerHostIds platform := by
  unfold planHttpWorkerDeploymentOwners
  obtain hgradual | hmode | hcurrent := h
  · exact if_pos (Or.inl (by rw [hgradual]; exact Bool.false_ne_true))
  · exact if_pos (Or.inr hmode)
  · have hnil : input.currentOwnerHostIds = [] := by
      unfold currentOwnerHostIds
      rw [show input.currentDesiredOwnerHostIds.getD [] = [] from hcurrent]
      rfl
    simp [hnil]

/-- A gradual replacement widens the owners and then removes previous ones. -/
theorem planHttpWorkerDeploymentOwners_gradual
    (hgradual : input.deployment.gradualRolloutEnabled = true)
    (hmode : input.deployment.mode ≠ .allHosts) (hcurrent : input.current ≠ []) :
    planHttpWorkerDeploymentOwners platform input =
      BoundedReplacement.retire (· ∈ input.targetOwnerHostIds platform)
        (input.deployment.minAvailable ≤ input.countAvailable ·) input.deployment.batchSize
        (input.widened platform) input.currentOwnerHostIds := by
  have hne := currentOwnerHostIds_ne_nil hcurrent
  unfold planHttpWorkerDeploymentOwners
  dsimp only
  rw [if_neg (by simp [hgradual, hmode]), if_neg (by simpa using hne), addTargetOwners_eq,
    removePreviousOwners_eq]
  rfl

end Hardess

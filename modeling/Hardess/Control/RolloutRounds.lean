import Hardess.Control.Rollout

/-!
# The rounds of a gradual rollout

* `planHttpWorkerDeploymentOwners_step`: what one round may change, and what is still available
  after it;
* `not_step_allHosts`: a deployment for all hosts changes its owners at once;
* `planHttpWorkerDeploymentOwners_converges`: when the owners are observed ready between the rounds,
  the target is reached and kept.
-/

namespace Hardess

open PlanOwnersInput

variable {platform : PlanningPlatform} {input : PlanOwnersInput}

/-! ### One round -/

/-- What a round may change: `next` are the owners after it. -/
structure GradualStep (platform : PlanningPlatform) (input : PlanOwnersInput)
    (next : List JsString) : Prop where
  nodup : next.Nodup
  added_le : (next.toFinset \ input.current.toFinset).card ≤ input.deployment.batchSize
  added_mem : ∀ hostId ∈ next, hostId ∉ input.current →
    hostId ∈ input.targetOwnerHostIds platform
  removed_le : (input.current.toFinset \ next.toFinset).card ≤ input.deployment.batchSize
  removed_notMem : ∀ hostId ∈ input.current, hostId ∉ next →
    hostId ∉ input.targetOwnerHostIds platform
  available_ge : (∃ hostId ∈ input.current, hostId ∉ next) →
    input.deployment.minAvailable ≤ input.countAvailable next

theorem card_le_of_subset_toFinset {s : Finset JsString} {l : List JsString} {n : ℕ}
    (h : ∀ x ∈ s, x ∈ l) (hlength : l.length ≤ n) : s.card ≤ n := by
  have hsub : s ⊆ l.toFinset := fun x hx => List.mem_toFinset.2 (h x hx)
  exact (Finset.card_le_card hsub).trans ((List.toFinset_card_le l).trans hlength)

/-- **A round of a gradual rollout** changes at most `batchSize` owners in each direction, towards
the target, and when an owner goes, enough of the next owners are available. -/
theorem planHttpWorkerDeploymentOwners_step (platform : PlanningPlatform) (input : PlanOwnersInput)
    (hgradual : input.deployment.gradualRolloutEnabled = true)
    (hmode : input.deployment.mode ≠ .allHosts) (hcurrent : input.current ≠ []) :
    GradualStep platform input (planHttpWorkerDeploymentOwners platform input) := by
  rw [planHttpWorkerDeploymentOwners_gradual hgradual hmode hcurrent]
  obtain ⟨added, hwidened, hnew, haddedNodup, hlength⟩ := BoundedReplacement.enlarge_eq
    (input.currentOwnerHostIds.length + input.deployment.batchSize) input.currentOwnerHostIds
    (input.targetOwnerHostIds platform)
  obtain ⟨removed, hnext, hgone, hbudget, henough⟩ := BoundedReplacement.retire_eq
    (· ∈ input.targetOwnerHostIds platform) (input.deployment.minAvailable ≤ input.countAvailable ·)
    input.deployment.batchSize (input.widened platform) input.currentOwnerHostIds
  set next := BoundedReplacement.retire (· ∈ input.targetOwnerHostIds platform)
    (input.deployment.minAvailable ≤ input.countAvailable ·) input.deployment.batchSize
    (input.widened platform) input.currentOwnerHostIds
  have hmem : ∀ x, x ∈ next ↔ (x ∈ input.current ∨ x ∈ added) ∧ x ∉ removed := by
    intro x
    rw [hnext, BoundedReplacement.mem_filter_notMem, widened, hwidened, List.mem_append,
      mem_currentOwnerHostIds]
  -- an owner that is missing has been removed
  have hmissing : ∀ x ∈ input.current, x ∉ next → x ∈ removed := by
    intro x hx hnot
    by_contra hkept
    exact hnot ((hmem x).2 ⟨Or.inl hx, hkept⟩)
  have hcame : ∀ x ∈ next, x ∉ input.current → x ∈ added := fun x hx hnot =>
    ((hmem x).1 hx).1.resolve_left hnot
  refine ⟨?_, ?_, ?_, ?_, ?_, ?_⟩
  · rw [hnext]
    refine List.Nodup.filter _ ?_
    rw [widened, hwidened, List.nodup_append]
    exact ⟨nodup_uniqueHostIds _, haddedNodup, fun a ha b hb heq => (hnew b hb).2 (heq ▸ ha)⟩
  · refine card_le_of_subset_toFinset (l := added) (fun x hx => ?_) ?_
    · rw [Finset.mem_sdiff, List.mem_toFinset, List.mem_toFinset] at hx
      exact hcame x hx.1 hx.2
    · rw [List.length_append] at hlength
      omega
  · exact fun x hx hnot => (hnew x (hcame x hx hnot)).1
  · refine card_le_of_subset_toFinset (l := removed) (fun x hx => ?_) hbudget
    rw [Finset.mem_sdiff, List.mem_toFinset, List.mem_toFinset] at hx
    exact hmissing x hx.1 hx.2
  · intro x hx hnot
    exact of_decide_eq_false (hgone x (hmissing x hx hnot)).2
  · rintro ⟨x, hx, hnot⟩
    exact of_decide_eq_true (henough (List.ne_nil_of_mem (hmissing x hx hnot)))

/-! ### A deployment that moves -/

/-- A platform for which all strings are alike. -/
def plainPlatform : PlanningPlatform := ⟨fun _ _ => true, id⟩

/-- A deployment with one replica and a gradual rollout. -/
def sharedPlan : HttpWorkerRolloutPlan where
  deploymentId := js "deployment:shared"
  declaredVersion := js "shared/v1"
  manifestId := js "manifest:shared"
  sourceUri := js "https://admin.example/shared.ts"
  workerEntry := js "workers/shared.ts"
  routeId := js "route:shared"
  routePathPrefix := js "/demo/shared"
  rollout := some { strategy := some .gradual }

/-- A host on which the deployment is active. -/
def activeOn (hostId : JsString) : ObservedHostState where
  hostId := hostId
  ready := true
  draining := false
  currentAssignmentCount := 1
  assignmentStatuses :=
    [{ assignmentId := js "assign:" ++ hostId
       deploymentId := js "deployment:shared"
       declaredVersion := js "shared/v1"
       generationId := none
       state := .active
       preparedAt := none
       activatedAt := none
       failedAt := none
       lastError := none }]

/-- The deployment moves to `host-b`, and is active where it is. -/
def movingTo (ownerHostIds : List JsString) : PlanOwnersInput where
  deployment := sharedPlan
  candidateHosts := [{ hostId := js "host-b" }]
  currentDesiredOwnerHostIds := some ownerHostIds
  observedHostStates := some (ownerHostIds.map activeOn)

theorem step_movingTo : GradualStep plainPlatform (movingTo [js "host-a"])
    (planHttpWorkerDeploymentOwners plainPlatform (movingTo [js "host-a"])) :=
  planHttpWorkerDeploymentOwners_step plainPlatform (movingTo [js "host-a"]) (by decide +kernel)
    (by decide +kernel) (by decide +kernel)

/-- The deployment is for all hosts, of which one has it. -/
def allHostsInput : PlanOwnersInput where
  deployment := { sharedPlan with assignmentMode := some .allHosts }
  candidateHosts := [{ hostId := js "a" }, { hostId := js "b" }, { hostId := js "c" }]
  currentDesiredOwnerHostIds := some [js "a"]

/-- A deployment for all hosts gets two more owners in one round, though its batches are of one. -/
theorem not_step_allHosts : allHostsInput.deployment.gradualRolloutEnabled = true ∧
    allHostsInput.current ≠ [] ∧ ¬GradualStep plainPlatform allHostsInput
      (planHttpWorkerDeploymentOwners plainPlatform allHostsInput) := by
  refine ⟨by decide +kernel, by decide +kernel, fun h => ?_⟩
  have hadded := h.added_le
  revert hadded
  decide +kernel

/-! ### Many rounds -/

/-- No round goes the wrong way: what was an owner in the target stays one, and what becomes one is
in the target. -/
theorem planHttpWorkerDeploymentOwners_towards
    (hgradual : input.deployment.gradualRolloutEnabled = true) :
    let targets := (input.targetOwnerHostIds platform).toFinset
    let next := (planHttpWorkerDeploymentOwners platform input).toFinset
    targets \ next ⊆ targets \ input.current.toFinset ∧
      next \ targets ⊆ input.current.toFinset \ targets := by
  intro targets next
  by_cases hatOnce : input.deployment.mode = .allHosts ∨ input.current = []
  · have hnext : next = targets := by
      simp only [next, targets, planHttpWorkerDeploymentOwners_target (.inr hatOnce)]
    rw [hnext, Finset.sdiff_self]
    exact ⟨Finset.empty_subset _, Finset.empty_subset _⟩
  · rw [not_or] at hatOnce
    have hstep := planHttpWorkerDeploymentOwners_step platform input hgradual hatOnce.1 hatOnce.2
    constructor
    · intro x hx
      simp only [targets, next, Finset.mem_sdiff, List.mem_toFinset] at hx ⊢
      exact ⟨hx.1, fun hcurrent => hstep.removed_notMem x hcurrent hx.2 hx.1⟩
    · intro x hx
      simp only [targets, next, Finset.mem_sdiff, List.mem_toFinset] at hx ⊢
      refine ⟨?_, hx.2⟩
      by_contra hcurrent
      exact hx.2 (hstep.added_mem x hx.1 hcurrent)

/-- When all owners are available and there are more of them than the target has, one can go. -/
theorem PlanOwnersInput.minAvailable_le_of_missing (input : PlanOwnersInput)
    {targets : Finset JsString} (hmore : targets ⊂ input.current.toFinset)
    (hfloor : input.deployment.minAvailable ≤ targets.card)
    (hready : ∀ hostId ∈ input.current, input.isAvailable hostId = true) {hostId : JsString}
    (hmem : hostId ∈ input.current) : input.deployment.minAvailable ≤
      input.countAvailable (input.currentOwnerHostIds.filter (· ≠ hostId)) := by
  have hnodup : input.currentOwnerHostIds.Nodup := nodup_uniqueHostIds _
  have hcard : input.current.toFinset.card = input.currentOwnerHostIds.length := by
    rw [← List.toFinset_card_of_nodup hnodup]
    congr 1
    ext x
    rw [List.mem_toFinset, List.mem_toFinset, mem_currentOwnerHostIds]
  have hlt := Finset.card_lt_card hmore
  have hlength := BoundedReplacement.length_filter_ne hnodup (mem_currentOwnerHostIds.2 hmem)
  have hall : input.countAvailable (input.currentOwnerHostIds.filter (· ≠ hostId)) =
      (input.currentOwnerHostIds.filter (· ≠ hostId)).length := by
    refine List.countP_eq_length.2 fun x hx => hready x ?_
    exact mem_currentOwnerHostIds.1 (List.mem_of_mem_filter hx)
  omega

/-- Rounds of which each takes the owners of the one before; `targets` is the target of all of them,
and before each round every owner is observed ready. -/
structure GradualRounds (platform : PlanningPlatform) (rounds : ℕ → PlanOwnersInput)
    (targets : Finset JsString) : Prop where
  gradual : ∀ k, (rounds k).deployment.gradualRolloutEnabled = true
  target : ∀ k, ((rounds k).targetOwnerHostIds platform).toFinset = targets
  floor : ∀ k, (rounds k).deployment.minAvailable ≤ targets.card
  next : ∀ k, (rounds (k + 1)).currentDesiredOwnerHostIds =
    some (planHttpWorkerDeploymentOwners platform (rounds k))
  ready : ∀ k, ∀ hostId ∈ (rounds k).current, (rounds k).isAvailable hostId = true

/-- An owner that is missing is added. -/
theorem planHttpWorkerDeploymentOwners_adds
    (hgradual : input.deployment.gradualRolloutEnabled = true)
    (hmode : input.deployment.mode ≠ .allHosts) (hcurrent : input.current ≠ [])
    (hmissing : ∃ x ∈ input.targetOwnerHostIds platform, x ∉ input.current) :
    ∃ x ∈ planHttpWorkerDeploymentOwners platform input,
      x ∈ input.targetOwnerHostIds platform ∧ x ∉ input.current := by
  rw [planHttpWorkerDeploymentOwners_gradual hgradual hmode hcurrent]
  have hroom : input.currentOwnerHostIds.length <
      input.currentOwnerHostIds.length + input.deployment.batchSize :=
    Nat.lt_add_of_pos_right input.deployment.batchSize_pos
  simp only [← mem_currentOwnerHostIds] at hmissing ⊢
  obtain ⟨x, hx, htarget, hnew⟩ := BoundedReplacement.exists_enlarged hroom hmissing
  exact ⟨x, BoundedReplacement.mem_retire_of_stays hx (Or.inl (decide_eq_true htarget)), htarget,
    hnew⟩

/-- When all target owners are there, a previous owner goes. -/
theorem planHttpWorkerDeploymentOwners_removes
    (hgradual : input.deployment.gradualRolloutEnabled = true)
    (hmode : input.deployment.mode ≠ .allHosts) (hcurrent : input.current ≠ [])
    (hfloor : input.deployment.minAvailable ≤ (input.targetOwnerHostIds platform).toFinset.card)
    (hready : ∀ hostId ∈ input.current, input.isAvailable hostId = true)
    (hmore : (input.targetOwnerHostIds platform).toFinset ⊂ input.current.toFinset) :
    ∃ x ∈ input.current, x ∉ input.targetOwnerHostIds platform ∧
      x ∉ planHttpWorkerDeploymentOwners platform input := by
  rw [planHttpWorkerDeploymentOwners_gradual hgradual hmode hcurrent]
  have hwidened : input.widened platform = input.currentOwnerHostIds := by
    refine BoundedReplacement.enlarge_eq_self fun x hx => mem_currentOwnerHostIds.2 ?_
    exact List.mem_toFinset.1 (hmore.subset (List.mem_toFinset.2 hx))
  obtain ⟨x, hx, hleaves⟩ := Finset.exists_of_ssubset hmore
  rw [List.mem_toFinset] at hx hleaves
  have henough := input.minAvailable_le_of_missing hmore hfloor hready hx
  obtain ⟨y, hy, hstays, hgone⟩ := BoundedReplacement.exists_retired
    (· ∈ input.targetOwnerHostIds platform)
    (input.deployment.minAvailable ≤ input.countAvailable ·) input.deployment.batchSize_pos
    ⟨x, mem_currentOwnerHostIds.2 hx, decide_eq_false hleaves, decide_eq_true henough⟩
  rw [hwidened]
  exact ⟨y, mem_currentOwnerHostIds.1 hy, of_decide_eq_false hstays, hgone⟩

/-- **A target that is not there yet comes nearer**: either an owner that is missing is added, or
all of them are there and a previous one goes. -/
theorem planHttpWorkerDeploymentOwners_nearer
    (hgradual : input.deployment.gradualRolloutEnabled = true)
    (hfloor : input.deployment.minAvailable ≤ (input.targetOwnerHostIds platform).toFinset.card)
    (hready : ∀ hostId ∈ input.current, input.isAvailable hostId = true)
    (hne : input.current.toFinset ≠ (input.targetOwnerHostIds platform).toFinset) :
    BoundedReplacement.distance (input.targetOwnerHostIds platform).toFinset
        (planHttpWorkerDeploymentOwners platform input).toFinset <
      BoundedReplacement.distance (input.targetOwnerHostIds platform).toFinset
        input.current.toFinset := by
  obtain ⟨hgain, hloss⟩ := @planHttpWorkerDeploymentOwners_towards platform input hgradual
  by_cases hatOnce : input.deployment.mode = .allHosts ∨ input.current = []
  · rw [planHttpWorkerDeploymentOwners_target (.inr hatOnce),
      BoundedReplacement.distance_eq_zero_iff.2 rfl]
    exact Nat.pos_of_ne_zero fun h => hne (BoundedReplacement.distance_eq_zero_iff.1 h)
  rw [not_or] at hatOnce
  refine BoundedReplacement.distance_lt hgain hloss ?_
  simp only [ne_eq, Finset.ext_iff, not_forall, Finset.mem_sdiff, List.mem_toFinset]
  by_cases hmissing : ∃ x ∈ input.targetOwnerHostIds platform, x ∉ input.current
  · obtain ⟨x, hx, htarget, hnew⟩ :=
      planHttpWorkerDeploymentOwners_adds hgradual hatOnce.1 hatOnce.2 hmissing
    exact Or.inl ⟨x, fun h => (h.2 ⟨htarget, hnew⟩).2 hx⟩
  · push Not at hmissing
    have hmore : (input.targetOwnerHostIds platform).toFinset ⊂ input.current.toFinset := by
      refine Finset.ssubset_iff_subset_ne.2 ⟨fun x hx => ?_, hne.symm⟩
      exact List.mem_toFinset.2 (hmissing x (List.mem_toFinset.1 hx))
    obtain ⟨x, hx, hleaves, hgone⟩ :=
      planHttpWorkerDeploymentOwners_removes hgradual hatOnce.1 hatOnce.2 hfloor hready hmore
    exact Or.inr ⟨x, fun h => hgone (h.2 ⟨hx, hleaves⟩).1⟩

/-- **A gradual rollout converges.** -/
theorem planHttpWorkerDeploymentOwners_converges (platform : PlanningPlatform)
    (rounds : ℕ → PlanOwnersInput) (targets : Finset JsString)
    (h : GradualRounds platform rounds targets) :
    ∃ n, ∀ m, n ≤ m → (planHttpWorkerDeploymentOwners platform (rounds m)).toFinset = targets := by
  have htargets := h.target
  have hcurrent : ∀ k, (rounds (k + 1)).current.toFinset =
      (planHttpWorkerDeploymentOwners platform (rounds k)).toFinset := by
    intro k
    rw [PlanOwnersInput.current, h.next k, Option.getD_some]
  have hnear : ∀ k, (rounds k).current.toFinset ≠ targets →
      BoundedReplacement.distance targets (rounds (k + 1)).current.toFinset <
        BoundedReplacement.distance targets (rounds k).current.toFinset := by
    intro k hne
    have hfloor := h.floor k
    rw [← htargets k] at hne hfloor
    rw [hcurrent, ← htargets k]
    exact planHttpWorkerDeploymentOwners_nearer (h.gradual k) hfloor (h.ready k) hne
  have hstay : ∀ k, (rounds k).current.toFinset = targets →
      (rounds (k + 1)).current.toFinset = targets := by
    intro k heq
    obtain ⟨hgain, hloss⟩ := @planHttpWorkerDeploymentOwners_towards platform (rounds k)
      (h.gradual k)
    rw [← hcurrent, htargets k, heq, Finset.sdiff_self, Finset.subset_empty,
      Finset.sdiff_eq_empty_iff_subset] at hgain hloss
    exact hloss.antisymm hgain
  obtain ⟨n, hn⟩ := BoundedReplacement.eventually_reached hnear hstay
  refine ⟨n, fun m hm => ?_⟩
  rw [← hcurrent m]
  exact hn (m + 1) (by omega)

/-- The rounds in which the deployment moves from `host-a` to `host-b`. -/
def movingRounds : ℕ → PlanOwnersInput
  | 0 => movingTo [js "host-a"]
  | 1 => movingTo [js "host-a", js "host-b"]
  | _ + 2 => movingTo [js "host-b"]

theorem converges_movingRounds : ∃ n, ∀ m, n ≤ m →
    (planHttpWorkerDeploymentOwners plainPlatform (movingRounds m)).toFinset = {js "host-b"} := by
  refine planHttpWorkerDeploymentOwners_converges plainPlatform movingRounds {js "host-b"}
    ⟨?_, ?_, ?_, ?_, ?_⟩ <;> rintro (_ | _ | k)
  -- from the third round on, everything is as in the third
  case refine_1.succ.succ =>
    exact (by decide +kernel : (movingRounds 2).deployment.gradualRolloutEnabled = true)
  case refine_2.succ.succ =>
    exact (by decide +kernel :
      ((movingRounds 2).targetOwnerHostIds plainPlatform).toFinset = {js "host-b"})
  case refine_3.succ.succ =>
    exact (by decide +kernel : (movingRounds 2).deployment.minAvailable ≤ 1)
  case refine_4.succ.succ =>
    exact (by decide +kernel : (movingRounds 3).currentDesiredOwnerHostIds =
      some (planHttpWorkerDeploymentOwners plainPlatform (movingRounds 2)))
  case refine_5.succ.succ =>
    exact (by decide +kernel :
      ∀ hostId ∈ (movingRounds 2).current, (movingRounds 2).isAvailable hostId = true)
  all_goals decide +kernel

end Hardess

import Hardess.Control.RuntimeIds
import Hardess.Lib.JsMapIndex

/-!
# Hosts that have applied their desired states

What the read model says of hosts that report exactly the pipelines and packages of their desired
states.

* `ConvergedHost`: a host whose adapter has applied its desired state;
* `mem_expected`, `mem_observed_pipelines`, `sameIds_observed_packages`: what is expected and found
  for a query;
* `DesiredHostState.Attributable`: no pipeline of another deployment is taken for one that is asked
  for or rolled out;
* `reportsMatch_iff`: the read model reports a match everywhere just in case this holds.
-/

namespace Hardess

/-! ### Hosts that have applied their desired states -/

section Hosts

variable {η : Type}

namespace RuntimeHostAdapter

variable (options : RuntimeHostAdapterOptions) (adapter : RuntimeHostAdapter η)
  (precedes : JsString → JsString → Bool)

/-- The packages that are reported. -/
def activeProtocolPackages : List ServiceModuleProtocolPackageRef :=
  if options.managesServiceModules then adapter.manager.listActiveProtocolPackages precedes else []

/-- The adapter has one pipeline for each HTTP assignment and route, and one active package for each
service module. -/
structure HasApplied (desired : DesiredHostState) : Prop where
  pipelines : adapter.config.pipelines.map (·.id) = desired.pipelineIds none
  packages : ((adapter.activeProtocolPackages options precedes).map fun ref =>
      (ref.packageId, ref.deploymentId)).Perm
    (desired.assignments.filterMap fun assignment =>
      assignment.packageId.map fun packageId => (packageId, some assignment.deploymentId))

end RuntimeHostAdapter

/-- A host that has applied its desired state. -/
structure ConvergedHost (η : Type) (precedes : JsString → JsString → Bool) where
  desired : DesiredHostState
  options : RuntimeHostAdapterOptions
  adapter : RuntimeHostAdapter η
  ready : Bool
  shuttingDown : Bool
  dynamicFields : List (JsString × Json)
  hostId : options.hostId = desired.hostId
  published : desired.Published
  applied : adapter.HasApplied options precedes desired

namespace ConvergedHost

variable {precedes : JsString → JsString → Bool} (host : ConvergedHost η precedes)

/-- What the host reports. -/
def observed : ReportedHostState :=
  host.adapter.reportedHostState host.options precedes host.ready host.shuttingDown
    host.dynamicFields

theorem observed_hostId : host.observed.hostId = host.desired.hostId := host.hostId

theorem summary_observed :
    host.observed.summary = some (buildRuntimeSummaryView precedes host.adapter.config
      (host.adapter.activeProtocolPackages host.options precedes)) := rfl

theorem sameIds_pipelines :
    SameIds (listObservedPipelineIds precedes host.observed.summary)
      (host.desired.pipelineIds none) := by
  rw [summary_observed, ← host.applied.pipelines]
  exact sameIds_listObservedPipelineIds

/-- What is reported of the packages. -/
theorem exists_package_iff {id : JsString} {deploymentId : JsString} :
    (∃ ref ∈ host.adapter.activeProtocolPackages host.options precedes,
        ref.deploymentId = some deploymentId ∧ ref.packageId = id) ↔
      id ∈ host.desired.packageIds (some deploymentId) := by
  have hperm := host.applied.packages.mem_iff (a := (id, some deploymentId))
  rw [DesiredHostState.mem_packageIds]
  simp only [List.mem_map, List.mem_filterMap, Option.map_eq_some_iff, Prod.mk.injEq,
    Option.some.injEq] at hperm
  simp only [Option.all_some, decide_eq_true_eq]
  constructor
  · rintro ⟨ref, hmem, hdeployment, hid⟩
    obtain ⟨assignment, ha, _, hpackage, rfl, hd⟩ := hperm.1 ⟨ref, hmem, hid, hdeployment⟩
    exact ⟨assignment, ha, hd, hpackage⟩
  · rintro ⟨assignment, ha, hd, hpackage⟩
    obtain ⟨ref, hmem, hid, hdeployment⟩ := hperm.2 ⟨assignment, ha, id, hpackage, rfl, hd⟩
    exact ⟨ref, hmem, hdeployment, hid⟩

/-- Every package that is reported says of which deployment it is. -/
theorem deploymentId_isSome {ref : ServiceModuleProtocolPackageRef}
    (hmem : ref ∈ host.adapter.activeProtocolPackages host.options precedes) :
    ∃ deploymentId, ref.deploymentId = some deploymentId := by
  have hpair : (ref.packageId, ref.deploymentId) ∈ host.desired.assignments.filterMap
      fun assignment => assignment.packageId.map fun packageId =>
        (packageId, some assignment.deploymentId) :=
    host.applied.packages.mem_iff.1 (List.mem_map.2 ⟨ref, hmem, rfl⟩)
  obtain ⟨assignment, -, hpackage⟩ := List.mem_filterMap.1 hpair
  obtain ⟨packageId, -, heq⟩ := Option.map_eq_some_iff.1 hpackage
  exact ⟨assignment.deploymentId, (congrArg Prod.snd heq).symm⟩

theorem sameIds_packages :
    SameIds (listObservedProtocolPackageIds precedes host.observed.summary)
      (host.desired.packageIds none) := by
  intro id
  rw [summary_observed, sameIds_listObservedProtocolPackageIds id, List.mem_map]
  constructor
  · rintro ⟨ref, hmem, hid⟩
    obtain ⟨deploymentId, hdeployment⟩ := host.deploymentId_isSome hmem
    exact DesiredHostState.mem_packageIds_none
      (host.exists_package_iff.1 ⟨ref, hmem, hdeployment, hid⟩)
  · intro hid
    obtain ⟨assignment, ha, -, hpackage⟩ := DesiredHostState.mem_packageIds.1 hid
    have hscoped : id ∈ host.desired.packageIds (some assignment.deploymentId) :=
      DesiredHostState.mem_packageIds.2 ⟨assignment, ha, by simp, hpackage⟩
    obtain ⟨ref, hmem, -, href⟩ := host.exists_package_iff.2 hscoped
    exact ⟨ref, hmem, href⟩

theorem sameIds_packagesForDeployment (deploymentId : JsString) :
    SameIds (listObservedProtocolPackageIdsForDeployment precedes host.observed.summary
      deploymentId).packageIds (host.desired.packageIds (some deploymentId)) := by
  intro id
  rw [summary_observed, mem_listObservedProtocolPackageIdsForDeployment, exists_package_iff]

/-- Without any package that names its deployment, there is none. -/
theorem packageIds_eq_nil {deploymentId : JsString}
    (h : (listObservedProtocolPackageIdsForDeployment precedes host.observed.summary
      deploymentId).hasDeploymentMetadata = false) : host.desired.packageIds none = [] := by
  rw [← Bool.not_eq_true, summary_observed, hasDeploymentMetadata_iff] at h
  refine List.eq_nil_iff_forall_not_mem.2 fun id hid => h ?_
  rw [← host.sameIds_packages id, summary_observed, sameIds_listObservedProtocolPackageIds id,
    List.mem_map] at hid
  obtain ⟨ref, hmem, -⟩ := hid
  obtain ⟨found, hfound⟩ := host.deploymentId_isSome hmem
  exact ⟨ref, hmem, by rw [hfound, Option.isSome_some]⟩

/-! ### What a query asks of a host -/

variable (query : RuntimeSummaryReadModelQuery)

/-- Is the host asked for? -/
def InScope : Prop := query.hostId.all (host.desired.hostId = ·) = true

/-- What is left of its desired state. -/
def scopedDesired : Option DesiredHostState := filterDesiredHostState query host.desired

/-- What is left of what it reports. -/
def scopedObserved : Option ReportedHostState :=
  filterObservedHostState precedes query host.observed

variable {host query}

theorem not_any_hostId (h : host.InScope query) :
    query.hostId.any (host.desired.hostId ≠ ·) = false := by
  unfold InScope at h
  cases hq : query.hostId with
  | none => rfl
  | some hostId =>
    rw [hq, Option.all_some, decide_eq_true_eq] at h
    simp [h]

theorem of_not_inScope (h : ¬host.InScope query) :
    host.scopedDesired query = none ∧ host.scopedObserved query = none := by
  have hany : query.hostId.any (host.desired.hostId ≠ ·) = true := by
    unfold InScope at h
    cases hq : query.hostId with
    | none => simp [hq] at h
    | some hostId =>
      rw [hq, Option.all_some, decide_eq_true_eq] at h
      simp [h]
  constructor
  · rw [scopedDesired, filterDesiredHostState, if_pos hany]
  · rw [scopedObserved, filterObservedHostState, host.observed_hostId, if_pos hany]

/-- The desired state that is left, of a host that is asked for. -/
theorem scopedDesired_cases (h : host.InScope query) :
    (query.deploymentId = none ∧ host.scopedDesired query = some host.desired) ∨
    ∃ deploymentId, query.deploymentId = some deploymentId ∧
      (host.scopedDesired query = some (host.desired.scopedTo deploymentId) ∨
        host.scopedDesired query = none ∧
          ∀ assignment ∈ host.desired.assignments, assignment.deploymentId ≠ deploymentId) := by
  unfold scopedDesired filterDesiredHostState
  rw [not_any_hostId h, if_neg Bool.false_ne_true]
  cases query.deploymentId with
  | none => exact Or.inl ⟨rfl, rfl⟩
  | some deploymentId =>
    refine Or.inr ⟨deploymentId, rfl, ?_⟩
    dsimp only
    split_ifs with hnone
    · refine Or.inr ⟨rfl, fun assignment hmem => ?_⟩
      have hnil := List.filter_eq_nil_iff.1 (List.length_eq_zero_iff.1 hnone.1) assignment hmem
      rwa [decide_eq_true_eq] at hnil
    · exact Or.inl rfl

/-- What is left of the report. -/
theorem scopedObserved_cases (h : host.InScope query) :
    (∃ observed, host.scopedObserved query = some observed ∧
      observed.summary = host.observed.summary ∧
        ∀ status ∈ observed.assignmentStatuses,
          query.deploymentId.all (status.deploymentId = ·) = true) ∨
    ∃ deploymentId, query.deploymentId = some deploymentId ∧ host.scopedObserved query = none ∧
      (∀ id ∈ host.desired.pipelineIds none,
        isRuntimePipelineIdForDeployment id deploymentId = false) ∧
      host.desired.packageIds (some deploymentId) = [] := by
  unfold scopedObserved filterObservedHostState
  rw [host.observed_hostId, not_any_hostId h, if_neg Bool.false_ne_true]
  cases query.deploymentId with
  | none => exact Or.inl ⟨_, rfl, rfl, fun _ _ => rfl⟩
  | some deploymentId =>
    dsimp only
    split_ifs with hnone
    · obtain ⟨-, hpipelines, hpackages, -⟩ := hnone
      refine Or.inr ⟨deploymentId, rfl, rfl, fun id hid => ?_, ?_⟩
      · rw [Bool.not_eq_true, List.any_eq_false] at hpipelines
        exact Bool.eq_false_iff.2 (hpipelines id ((host.sameIds_pipelines id).2 hid))
      · rw [decide_eq_true_eq, List.length_pos_iff, not_not] at hpackages
        refine List.eq_nil_iff_forall_not_mem.2 fun id hid => ?_
        have hmem := (host.sameIds_packagesForDeployment deploymentId id).2 hid
        rw [hpackages] at hmem
        exact absurd hmem List.not_mem_nil
    · refine Or.inl ⟨_, rfl, rfl, fun status hstatus => ?_⟩
      exact (List.mem_filter.1 hstatus).2

theorem pipelineIds_eq_nil {desired : DesiredHostState} {deploymentId : JsString}
    (h : ∀ assignment ∈ desired.assignments, assignment.deploymentId ≠ deploymentId) :
    desired.pipelineIds (some deploymentId) = [] ∧ desired.packageIds (some deploymentId) = [] := by
  constructor
  · refine List.eq_nil_iff_forall_not_mem.2 fun id hid => ?_
    obtain ⟨assignment, hmem, hdeployment, -⟩ := DesiredHostState.mem_pipelineIds.1 hid
    exact h assignment hmem (of_decide_eq_true hdeployment)
  · refine List.eq_nil_iff_forall_not_mem.2 fun id hid => ?_
    obtain ⟨assignment, hmem, hdeployment, -⟩ := DesiredHostState.mem_packageIds.1 hid
    exact h assignment hmem (of_decide_eq_true hdeployment)

/-- What a check expects. -/
theorem mem_expected (h : host.InScope query) :
    SameIds (listExpectedPipelineIds precedes (host.scopedDesired query))
        (host.desired.pipelineIds query.deploymentId) ∧
      SameIds (listExpectedProtocolPackageIds precedes (host.scopedDesired query))
        (host.desired.packageIds query.deploymentId) := by
  obtain ⟨hquery, hscoped⟩ | ⟨deploymentId, hquery, hscoped | ⟨hscoped, hnone⟩⟩ :=
    scopedDesired_cases h
  · rw [hquery, hscoped]
    exact ⟨sameIds_listExpectedPipelineIds, sameIds_listExpectedProtocolPackageIds⟩
  · rw [hquery, hscoped]
    exact ⟨fun id => (sameIds_listExpectedPipelineIds id).trans
        (host.desired.pipelineIds_scopedTo rfl id),
      fun id => (sameIds_listExpectedProtocolPackageIds id).trans
        (host.desired.packageIds_scopedTo rfl id)⟩
  · obtain ⟨hpipelines, hpackages⟩ := pipelineIds_eq_nil hnone
    rw [hquery, hscoped, hpipelines, hpackages]
    exact ⟨fun _ => Iff.rfl, fun _ => Iff.rfl⟩

/-- The pipelines that a check finds: all whose ids contain that of the deployment. -/
theorem mem_observed_pipelines (h : host.InScope query) {id : JsString} :
    id ∈ listObservedPipelineIdsForReadModel precedes
        ((host.scopedObserved query).bind (·.summary)) query ↔
      id ∈ host.desired.pipelineIds none ∧
        query.deploymentId.all (isRuntimePipelineIdForDeployment id) = true := by
  unfold listObservedPipelineIdsForReadModel
  obtain ⟨observed, hscoped, hsummary, -⟩ | ⟨deploymentId, hquery, hscoped, hpipelines, -⟩ :=
    scopedObserved_cases h
  · rw [hscoped, Option.bind_some, hsummary]
    cases query.deploymentId with
    | none => exact (host.sameIds_pipelines id).trans (and_iff_left rfl).symm
    | some deploymentId =>
      dsimp only
      rw [List.mem_filter, host.sameIds_pipelines id, Option.all_some]
  · rw [hscoped, hquery]
    simp only [Option.bind_none, Option.all_some]
    refine iff_of_false (fun hmem => ?_) fun hmem => ?_
    · exact absurd (List.mem_filter.1 hmem).1 (by
        simp [listObservedPipelineIds, arrayField])
    · rw [hpipelines id hmem.1] at hmem
      exact Bool.false_ne_true hmem.2

/-- The packages that a check finds are those of the deployment. -/
theorem sameIds_observed_packages (h : host.InScope query) (expected : List JsString) :
    SameIds (listObservedProtocolPackageIdsForReadModel precedes
        ((host.scopedObserved query).bind (·.summary)) expected query)
      (host.desired.packageIds query.deploymentId) := by
  intro id
  unfold listObservedProtocolPackageIdsForReadModel
  obtain ⟨observed, hscoped, hsummary, -⟩ | ⟨deploymentId, hquery, hscoped, -, hpackages⟩ :=
    scopedObserved_cases h
  · rw [hscoped, Option.bind_some, hsummary]
    cases query.deploymentId with
    | none => exact host.sameIds_packages id
    | some deploymentId =>
      dsimp only
      split_ifs with hmetadata
      · exact host.sameIds_packagesForDeployment deploymentId id
      · have hnil := host.packageIds_eq_nil (Bool.eq_false_iff.2 hmetadata)
        refine iff_of_false (fun hmem => ?_) fun hmem => ?_
        · have hall := (host.sameIds_packages id).1 (List.mem_filter.1 hmem).1
          rw [hnil] at hall
          exact List.not_mem_nil hall
        · have hall := DesiredHostState.mem_packageIds_none hmem
          rw [hnil] at hall
          exact List.not_mem_nil hall
  · rw [hscoped, hquery, hpackages]
    simp [listObservedProtocolPackageIdsForDeployment, listObservedProtocolPackageIds, arrayField]

end ConvergedHost

/-! ### When the read model reports a match -/

namespace DesiredHostState

variable (desired : DesiredHostState)

/-- The pipelines that are attributed to a deployment are its own. -/
def Attributed (deploymentId : JsString) : Prop :=
  ∀ id ∈ desired.pipelineIds none, isRuntimePipelineIdForDeployment id deploymentId = true →
    id ∈ desired.pipelineIds (some deploymentId)

/-- The same for a row of a rollout. A deployment without pipelines is looked for among the
pipelines if one of its packages has an id like theirs. -/
def RolloutAttributed (deploymentId : JsString) : Prop :=
  if desired.pipelineIds (some deploymentId) ≠ [] then desired.Attributed deploymentId
  else (∃ id ∈ desired.packageIds (some deploymentId), startsWithAssign id = true) →
    ∀ id, id ∈ desired.packageIds (some deploymentId) ↔
      id ∈ desired.pipelineIds none ∧ isRuntimePipelineIdForDeployment id deploymentId = true

/-- The pipelines of a host are attributed to the deployment that is asked for, if there is one, and
to those that are rolled out. -/
def Attributable (queried : Option JsString) : Prop :=
  (∀ deploymentId, queried = some deploymentId → desired.Attributed deploymentId) ∧
    ∀ assignment ∈ desired.assignments, queried.all (assignment.deploymentId = ·) = true →
      desired.RolloutAttributed assignment.deploymentId

end DesiredHostState

namespace ConvergedHost

variable {precedes : JsString → JsString → Bool} {host : ConvergedHost η precedes}
  {query : RuntimeSummaryReadModelQuery}

/-- The check of a host. -/
theorem checkHost_matching_iff (h : host.InScope query) (hostId : JsString) :
    (checkHost precedes query hostId (host.scopedDesired query)
        (host.scopedObserved query)).status = .matching ↔
      ∀ deploymentId, query.deploymentId = some deploymentId →
        host.desired.Attributed deploymentId := by
  -- the packages always agree, so that the pipelines decide
  have hpackages : SameIds (listExpectedProtocolPackageIds precedes (host.scopedDesired query))
      (listObservedProtocolPackageIdsForReadModel precedes
        ((host.scopedObserved query).bind (·.summary))
        (listExpectedProtocolPackageIds precedes (host.scopedDesired query)) query) := fun id =>
    ((mem_expected h).2 id).trans (sameIds_observed_packages h _ id).symm
  obtain ⟨hmissing, hunexpected⟩ := sameIds_iff.2 hpackages
  unfold checkHost
  dsimp only
  rw [resolveRuntimeSummaryStatus_eq_matching, hmissing, hunexpected, Nat.add_zero, Nat.add_zero,
    sameIds_iff]
  have hpipelines : ∀ id, (id ∈ listExpectedPipelineIds precedes (host.scopedDesired query) ↔
      id ∈ listObservedPipelineIdsForReadModel precedes
        ((host.scopedObserved query).bind (·.summary)) query) ↔
      (id ∈ host.desired.pipelineIds query.deploymentId ↔ id ∈ host.desired.pipelineIds none ∧
        query.deploymentId.all (isRuntimePipelineIdForDeployment id) = true) := fun id => by
    rw [(mem_expected h).1 id, mem_observed_pipelines h]
  unfold SameIds
  rw [forall_congr' hpipelines]
  cases query.deploymentId with
  | none => simp
  | some deploymentId =>
    simp only [Option.all_some, Option.some.injEq, forall_eq']
    constructor
    · exact fun hsame id hid hcontains => (hsame id).2 ⟨hid, hcontains⟩
    · intro hattributed id
      constructor
      · exact fun hid => ⟨DesiredHostState.mem_pipelineIds_none hid,
          host.published.isRuntimePipelineIdForDeployment hid⟩
      · exact fun hid => hattributed id hid.1 hid.2

/-- What a row of the rollout expects. -/
theorem sameIds_rollout_expected (h : host.InScope query) {desired : DesiredHostState}
    (hscoped : host.scopedDesired query = some desired) {deploymentId : JsString}
    (hquery : query.deploymentId.all (deploymentId = ·) = true) :
    SameIds (listExpectedDeploymentRuntimeIds precedes (some desired) deploymentId)
      (host.desired.deploymentRuntimeIds deploymentId) := by
  obtain ⟨-, heq⟩ | ⟨queried, hq, heq | ⟨heq, -⟩⟩ := scopedDesired_cases h
  · obtain rfl : host.desired = desired := Option.some.inj (heq.symm.trans hscoped)
    exact sameIds_listExpectedDeploymentRuntimeIds
  · obtain rfl : host.desired.scopedTo queried = desired := Option.some.inj (heq.symm.trans hscoped)
    rw [hq, Option.all_some, decide_eq_true_eq] at hquery
    subst hquery
    exact fun id => (sameIds_listExpectedDeploymentRuntimeIds id).trans
      (sameIds_deploymentRuntimeIds_scopedTo id)
  · rw [heq] at hscoped
    cases hscoped

/-- What it finds: pipelines if an expected id is like that of a pipeline, packages otherwise. -/
theorem mem_rollout_observed {deploymentId : JsString} {expected : List JsString} {id : JsString} :
    id ∈ listObservedDeploymentRuntimeIds precedes host.observed.summary deploymentId expected ↔
      if expected.any startsWithAssign = true then id ∈ host.desired.pipelineIds none ∧
        isRuntimePipelineIdForDeployment id deploymentId = true
      else id ∈ host.desired.packageIds (some deploymentId) := by
  unfold listObservedDeploymentRuntimeIds
  dsimp only
  split_ifs with hassign hisNone hmetadata
  · rw [mem_sortLocale, List.mem_filter]
    refine and_congr_left fun _ => ?_
    rw [← host.sameIds_pipelines id, listObservedPipelineIds, mem_sortLocale]
  · rw [host.summary_observed, arrayField_activeProtocolPackages] at hisNone
    cases hisNone
  · exact host.sameIds_packagesForDeployment deploymentId id
  all_goals
    have hnone := host.packageIds_eq_nil (Bool.eq_false_iff.2 hmetadata)
    have hscoped : ∀ id, id ∉ host.desired.packageIds (some deploymentId) := fun id hid => by
      have hall := DesiredHostState.mem_packageIds_none hid
      rw [hnone] at hall
      exact List.not_mem_nil hall
  · exact iff_of_false List.not_mem_nil (hscoped id)
  · refine iff_of_false (fun hid => ?_) (hscoped id)
    rw [host.sameIds_packages id, hnone] at hid
    exact List.not_mem_nil hid

/-- A row whose ids are compared. -/
theorem sameIds_rollout_iff {deploymentId : JsString} {expected : List JsString}
    (hexpected : SameIds expected (host.desired.deploymentRuntimeIds deploymentId)) :
    SameIds expected
        (listObservedDeploymentRuntimeIds precedes host.observed.summary deploymentId expected) ↔
      host.desired.RolloutAttributed deploymentId := by
  have hany : expected.any startsWithAssign = true ↔
      ∃ id ∈ host.desired.deploymentRuntimeIds deploymentId, startsWithAssign id = true := by
    rw [List.any_eq_true]
    exact exists_congr fun id => and_congr_left fun _ => hexpected id
  have hids : SameIds expected
      (listObservedDeploymentRuntimeIds precedes host.observed.summary deploymentId expected) ↔
      ∀ id, id ∈ host.desired.deploymentRuntimeIds deploymentId ↔
        if expected.any startsWithAssign = true then id ∈ host.desired.pipelineIds none ∧
          isRuntimePipelineIdForDeployment id deploymentId = true
        else id ∈ host.desired.packageIds (some deploymentId) :=
    forall_congr' fun id => by rw [hexpected id, mem_rollout_observed]
  rw [hids]
  unfold DesiredHostState.RolloutAttributed
  unfold DesiredHostState.deploymentRuntimeIds at hany ⊢
  -- a deployment with pipelines is looked for by its ids, and any other by its packages
  by_cases hpipelines : host.desired.pipelineIds (some deploymentId) ≠ []
  · rw [if_pos hpipelines] at hany ⊢
    rw [if_pos hpipelines]
    obtain ⟨own, hown⟩ := List.exists_mem_of_ne_nil _ hpipelines
    simp only [if_pos (hany.2 ⟨own, hown, host.published.startsWithAssign hown⟩)]
    constructor
    · exact fun hsame id hid hcontains => (hsame id).2 ⟨hid, hcontains⟩
    · exact fun hattributed id => ⟨fun hid => ⟨DesiredHostState.mem_pipelineIds_none hid,
        host.published.isRuntimePipelineIdForDeployment hid⟩, fun hid => hattributed id hid.1 hid.2⟩
  · rw [if_neg hpipelines] at hany ⊢
    rw [if_neg hpipelines]
    by_cases hassign : expected.any startsWithAssign = true
    · simp only [if_pos hassign]
      exact ⟨fun hsame _ => hsame, fun hsame => hsame (hany.1 hassign)⟩
    · simp only [if_neg hassign]
      exact ⟨fun _ hexists => absurd (hany.2 hexists) hassign, fun _ _ => trivial⟩

/-- The assignments that are left are those that are asked for. -/
theorem mem_scopedDesired (h : host.InScope query) {desired : DesiredHostState}
    (hscoped : host.scopedDesired query = some desired) {assignment : Assignment}
    (hmem : assignment ∈ desired.assignments) :
    assignment ∈ host.desired.assignments ∧
      query.deploymentId.all (assignment.deploymentId = ·) = true := by
  obtain ⟨hq, heq⟩ | ⟨queried, hq, heq | ⟨heq, -⟩⟩ := scopedDesired_cases h
  · obtain rfl : host.desired = desired := Option.some.inj (heq.symm.trans hscoped)
    exact ⟨hmem, by rw [hq]; rfl⟩
  · obtain rfl : host.desired.scopedTo queried = desired := Option.some.inj (heq.symm.trans hscoped)
    obtain ⟨hin, hdeployment⟩ := List.mem_filter.1 hmem
    exact ⟨hin, by rw [hq]; exact hdeployment⟩
  · rw [heq] at hscoped
    cases hscoped

/-- A deployment with a row for the host is asked for. -/
theorem queried_of_row (h : host.InScope query) {desired : DesiredHostState}
    (hscoped : host.scopedDesired query = some desired) {deploymentId : JsString}
    (hrow : (∃ assignment ∈ desired.assignments, assignment.deploymentId = deploymentId) ∨
      ∃ observed, host.scopedObserved query = some observed ∧
        ∃ status ∈ observed.assignmentStatuses, status.deploymentId = deploymentId) :
    query.deploymentId.all (deploymentId = ·) = true := by
  obtain ⟨assignment, hmem, rfl⟩ | ⟨found, hfound, status, hstatus, rfl⟩ := hrow
  · exact (mem_scopedDesired h hscoped hmem).2
  · obtain ⟨observed, hobserved, -, hstatuses⟩ | ⟨-, -, hobserved, -⟩ := scopedObserved_cases h
    · obtain rfl : observed = found := Option.some.inj (hobserved.symm.trans hfound)
      exact hstatuses status hstatus
    · rw [hobserved] at hfound
      cases hfound

/-- A row of the rollout. -/
theorem attach_matching_iff (h : host.InScope query) {desired : DesiredHostState}
    (hscoped : host.scopedDesired query = some desired) {deploymentId : JsString}
    (hrow : (∃ assignment ∈ desired.assignments, assignment.deploymentId = deploymentId) ∨
      ∃ observed, host.scopedObserved query = some observed ∧
        ∃ status ∈ observed.assignmentStatuses, status.deploymentId = deploymentId)
    (row : DeploymentRolloutHostStatus) :
    (attachRuntimeSummaryToRolloutHost precedes row deploymentId (some desired)
        (host.scopedObserved query)).runtimeSummaryStatus = some .matching ↔
      host.desired.RolloutAttributed deploymentId := by
  have hquery := queried_of_row h hscoped hrow
  obtain ⟨observed, hobserved, hsummary, -⟩ | ⟨queried, hq, hobserved, hpipelines, hpackages⟩ :=
    scopedObserved_cases h
  · unfold attachRuntimeSummaryToRolloutHost
    rw [hobserved, Option.bind_some, hsummary, host.summary_observed]
    dsimp only
    rw [Option.some.injEq, resolveRuntimeSummaryStatus_eq_matching, sameIds_iff,
      ← host.summary_observed]
    exact sameIds_rollout_iff (sameIds_rollout_expected h hscoped hquery)
  · -- a deployment that is assigned is reported
    exfalso
    obtain ⟨assignment, hmem, -⟩ | ⟨found, hfound, -⟩ := hrow
    · obtain ⟨hin, hdeployment⟩ := mem_scopedDesired h hscoped hmem
      rw [hq, Option.all_some, decide_eq_true_eq] at hdeployment
      obtain ⟨id, hid⟩ | ⟨id, hid⟩ := host.published.exists_runtimeId hin
      · have hcontains := host.published.isRuntimePipelineIdForDeployment hid
        rw [hdeployment, hpipelines id (DesiredHostState.mem_pipelineIds_none hid)] at hcontains
        exact Bool.false_ne_true hcontains
      · rw [hdeployment, hpackages] at hid
        exact List.not_mem_nil hid
    · rw [hobserved] at hfound
      cases hfound

/-- A deployment that the host does not have is attributed. -/
theorem rolloutAttributed_of_not_assigned {deploymentId : JsString}
    (h : ∀ assignment ∈ host.desired.assignments, assignment.deploymentId ≠ deploymentId) :
    host.desired.RolloutAttributed deploymentId := by
  obtain ⟨hpipelines, hpackages⟩ := pipelineIds_eq_nil h
  unfold DesiredHostState.RolloutAttributed
  rw [if_neg (not_not_intro hpipelines), hpackages]
  exact fun ⟨_, hmem, _⟩ => absurd hmem List.not_mem_nil

theorem hostId_of_scopedDesired {desired : DesiredHostState}
    (h : host.scopedDesired query = some desired) : desired.hostId = host.desired.hostId := by
  by_cases hscope : host.InScope query
  · obtain ⟨-, heq⟩ | ⟨queried, -, heq | ⟨heq, -⟩⟩ := scopedDesired_cases hscope
    · rw [Option.some.inj (h.symm.trans heq)]
    · rw [Option.some.inj (h.symm.trans heq)]
      rfl
    · rw [heq] at h
      cases h
  · rw [(of_not_inScope hscope).1] at h
    cases h

theorem hostId_of_scopedObserved {observed : ReportedHostState}
    (h : host.scopedObserved query = some observed) : observed.hostId = host.desired.hostId := by
  unfold scopedObserved filterObservedHostState at h
  rw [← host.observed_hostId]
  split_ifs at h
  cases hq : query.deploymentId with
  | none =>
    rw [hq] at h
    rw [Option.some.inj h]
  | some deploymentId =>
    rw [hq] at h
    dsimp only at h
    split_ifs at h
    rw [← Option.some.inj h]

/-- A host that has no check has nothing that is attributed to the deployment. -/
theorem attributed_of_unchecked (h : host.InScope query)
    (hobserved : host.scopedObserved query = none) {deploymentId : JsString}
    (hquery : query.deploymentId = some deploymentId) :
    host.desired.Attributed deploymentId := by
  obtain ⟨observed, heq, -⟩ | ⟨queried, hq, -, hpipelines, -⟩ := scopedObserved_cases h
  · rw [heq] at hobserved
    cases hobserved
  · obtain rfl : queried = deploymentId := Option.some.inj (hq.symm.trans hquery)
    intro id hid hcontains
    rw [hpipelines id hid] at hcontains
    cases hcontains

end ConvergedHost

/-- The read model reports a match in every check and in every row of the rollout. -/
def RuntimeSummaryReadModel.ReportsMatch (model : RuntimeSummaryReadModel) : Prop :=
  (∀ check ∈ model.checks, check.status = .matching) ∧
    ∀ summary ∈ model.rolloutSummary, ∀ row ∈ summary.hosts,
      row.runtimeSummaryStatus = some .matching

section ReadModel

open ConvergedHost

variable {precedes : JsString → JsString → Bool} {hosts : List (ConvergedHost η precedes)}
  (hnodup : (hosts.map (·.desired.hostId)).Nodup) {query : RuntimeSummaryReadModelQuery}
include hnodup

theorem get_desiredByHostId {host : ConvergedHost η precedes} (hmem : host ∈ hosts) :
    (desiredByHostId (hosts.filterMap (·.scopedDesired query))).get host.desired.hostId =
      host.scopedDesired query :=
  JsMap.get_foldl_set_filterMap _ (fun _ _ => hostId_of_scopedDesired) hnodup hmem

theorem get_reportedByHostId {host : ConvergedHost η precedes} (hmem : host ∈ hosts) :
    (reportedByHostId (hosts.filterMap (·.scopedObserved query))).get host.desired.hostId =
      host.scopedObserved query :=
  JsMap.get_foldl_set_filterMap _ (fun _ _ => hostId_of_scopedObserved) hnodup hmem

/-- The checks. -/
theorem forall_checks_iff :
    (∀ check ∈ buildRuntimeSummaryChecks precedes (hosts.filterMap (·.scopedDesired query))
        (hosts.filterMap (·.scopedObserved query)) query, check.status = .matching) ↔
      ∀ host ∈ hosts, host.InScope query → ∀ deploymentId,
        query.deploymentId = some deploymentId → host.desired.Attributed deploymentId := by
  unfold buildRuntimeSummaryChecks
  rw [List.forall_mem_map]
  simp only [mem_sortLocale, mem_uniqueHostIds, List.mem_append, List.mem_map,
    List.mem_filterMap]
  constructor
  · intro h host hmem hscope
    cases hobserved : host.scopedObserved query with
    | none => exact fun deploymentId => attributed_of_unchecked hscope hobserved
    | some observed =>
      have hcheck := h host.desired.hostId (Or.inr ⟨observed, ⟨host, hmem, hobserved⟩,
        hostId_of_scopedObserved hobserved⟩)
      rw [get_desiredByHostId hnodup hmem, get_reportedByHostId hnodup hmem] at hcheck
      exact (checkHost_matching_iff hscope _).1 hcheck
  · intro h hostId hexists
    -- a host that is checked has a desired or an observed state in the scope
    obtain ⟨host, hmem, rfl, hscope⟩ : ∃ host ∈ hosts, host.desired.hostId = hostId ∧
        host.InScope query := by
      obtain ⟨desired, ⟨host, hmem, hscoped⟩, rfl⟩ | ⟨observed, ⟨host, hmem, hscoped⟩, rfl⟩ :=
        hexists
      · refine ⟨host, hmem, (hostId_of_scopedDesired hscoped).symm, ?_⟩
        by_contra hscope
        rw [(of_not_inScope hscope).1] at hscoped
        cases hscoped
      · refine ⟨host, hmem, (hostId_of_scopedObserved hscoped).symm, ?_⟩
        by_contra hscope
        rw [(of_not_inScope hscope).2] at hscoped
        cases hscoped
    rw [get_desiredByHostId hnodup hmem, get_reportedByHostId hnodup hmem]
    exact (checkHost_matching_iff hscope _).2 (h host hmem hscope)

/-- The rows of the rollout. -/
theorem forall_rows_iff :
    (∀ summary ∈ attachRuntimeSummaryToDeploymentRolloutSummary precedes
        (buildDeploymentRolloutSummary precedes (hosts.filterMap (·.scopedDesired query))
          (hosts.filterMap (·.scopedObserved query)))
        (hosts.filterMap (·.scopedDesired query)) (hosts.filterMap (·.scopedObserved query)),
      ∀ row ∈ summary.hosts, row.runtimeSummaryStatus = some .matching) ↔
      ∀ host ∈ hosts, host.InScope query → ∀ assignment ∈ host.desired.assignments,
        query.deploymentId.all (assignment.deploymentId = ·) = true →
          host.desired.RolloutAttributed assignment.deploymentId := by
  unfold attachRuntimeSummaryToDeploymentRolloutSummary buildDeploymentRolloutSummary
  rw [List.forall_mem_map, List.forall_mem_map]
  simp only [summarizeRollout, List.forall_mem_map, List.mem_insertionSort]
  constructor
  · intro h host hmem hscope assignment hassignment hquery
    -- the assignment is still there when the desired state is cut down to the query
    obtain ⟨desired, hscoped, hleft⟩ : ∃ desired, host.scopedDesired query = some desired ∧
        assignment ∈ desired.assignments := by
      obtain ⟨-, heq⟩ | ⟨queried, hq, heq | ⟨-, hnone⟩⟩ := scopedDesired_cases hscope
      · exact ⟨_, heq, hassignment⟩
      · rw [hq] at hquery
        exact ⟨_, heq, List.mem_filter.2 ⟨hassignment, hquery⟩⟩
      · rw [hq, Option.all_some, decide_eq_true_eq] at hquery
        exact absurd hquery (hnone assignment hassignment)
    have hin : desired ∈ hosts.filterMap (·.scopedDesired query) :=
      List.mem_filterMap.2 ⟨host, hmem, hscoped⟩
    have hid := hostId_of_scopedDesired hscoped
    obtain ⟨row, hrow⟩ := exists_rolloutHost ((reportedByHostId
      (hosts.filterMap (·.scopedObserved query))).get desired.hostId) hleft
    have hmatch := h assignment.deploymentId (mem_sortLocale.2 (mem_uniqueHostIds.2
      (List.mem_append_left _ (mem_uniqueHostIds.2 (List.mem_flatMap.2
        ⟨desired, hin, List.mem_map_of_mem hleft⟩))))) row
          (List.mem_filterMap.2 ⟨desired, hin, hrow⟩)
    have hrowId : row.hostId = host.desired.hostId := (of_rolloutHost hrow).1.trans hid
    rw [hrowId, get_desiredByHostId hnodup hmem, get_reportedByHostId hnodup hmem,
      hscoped] at hmatch
    exact (attach_matching_iff hscope hscoped (Or.inl ⟨assignment, hleft, rfl⟩) row).1 hmatch
  · rintro h deploymentId - row hrow
    obtain ⟨desired, hin, hrow⟩ := List.mem_filterMap.1 hrow
    obtain ⟨host, hmem, hscoped⟩ := List.mem_filterMap.1 hin
    have hid := hostId_of_scopedDesired hscoped
    -- a host that is not in scope has no desired state, and no row
    have hscope : host.InScope query := by
      by_contra hscope
      rw [(of_not_inScope hscope).1] at hscoped
      cases hscoped
    rw [hid, get_reportedByHostId hnodup hmem] at hrow
    obtain ⟨hrowId, hexists⟩ := of_rolloutHost hrow
    rw [hrowId, hid, get_desiredByHostId hnodup hmem, get_reportedByHostId hnodup hmem, hscoped]
    refine (attach_matching_iff hscope hscoped hexists _).2 ?_
    -- a row of a deployment that is assigned, or that is left from before
    by_cases hassigned : ∃ assignment ∈ host.desired.assignments,
        assignment.deploymentId = deploymentId
    · obtain ⟨assignment, ha, rfl⟩ := hassigned
      exact h host hmem hscope assignment ha (queried_of_row hscope hscoped hexists)
    · exact rolloutAttributed_of_not_assigned fun assignment ha hd =>
        hassigned ⟨assignment, ha, hd⟩

/-- **The read model reports a match everywhere just in case every host that is asked for has its
pipelines attributed to their own deployments.** -/
theorem reportsMatch_iff :
    (buildRuntimeSummaryReadModel precedes (hosts.map (·.desired)) (hosts.map (·.observed))
        query).ReportsMatch ↔
      ∀ host ∈ hosts, host.InScope query → host.desired.Attributable query.deploymentId := by
  have hchecks := @forall_checks_iff η precedes hosts hnodup query
  have hrows := @forall_rows_iff η precedes hosts hnodup query
  unfold RuntimeSummaryReadModel.ReportsMatch buildRuntimeSummaryReadModel
  simp only [List.filterMap_map]
  exact (and_congr hchecks hrows).trans
    ⟨fun h host hmem hscope => ⟨h.1 host hmem hscope, h.2 host hmem hscope⟩,
      fun h => ⟨fun host hmem hscope => (h host hmem hscope).1,
        fun host hmem hscope => (h host hmem hscope).2⟩⟩

end ReadModel

end Hosts

/-! ### Two deployments on one host -/

/-- A projected assignment has no package. -/
theorem packageId_buildAssignmentForHost (hostId : JsString)
    (deployment : HttpWorkerDeploymentPlan) :
    (buildAssignmentForHost hostId deployment).packageId = none :=
  if_neg (deploymentKind_buildAssignmentForHost_ne hostId deployment)

/-- A host that has applied what is projected for it. -/
def projectedHost (platform : PlanningPlatform) (input : ProjectDesiredHttpWorkersInput) :
    ConvergedHost Unit platform.precedes where
  desired := projectHttpWorkerDesiredState platform input
  options := { hostId := input.hostId, managesServiceModules := false, drains := false }
  adapter :=
    { manager := ⟨⟨.empty⟩, .empty, .empty, 0⟩, trust := none
      config := ⟨((projectHttpWorkerDesiredState platform input).pipelineIds none).map fun id =>
        { id, matchPrefix := js "/"
          downstream := ⟨input.upstreamBaseUrl, .ofNat 1000, .ofNat 5000, none⟩ }⟩
      topology := none, lastDesired := none, assignmentStates := .empty }
  ready := true
  shuttingDown := false
  dynamicFields := []
  hostId := rfl
  published := published_projectHttpWorkerDesiredState platform input
  applied := by
    refine ⟨by rw [List.map_map]; exact List.map_id _, ?_⟩
    have hnone : (projectHttpWorkerDesiredState platform input).assignments.filterMap
        (fun assignment => assignment.packageId.map fun packageId =>
          (packageId, some assignment.deploymentId)) = [] := by
      rw [List.filterMap_eq_nil_iff]
      intro assignment hmem
      obtain ⟨deployment, -, rfl⟩ := List.mem_map.1 hmem
      rw [packageId_buildAssignmentForHost, Option.map_none]
    rw [hnone]
    exact List.Perm.refl []

/-- The shared deployment and another one, on one host. -/
def twoDeployments (deploymentId : JsString) : ProjectDesiredHttpWorkersInput where
  hostId := js "host-a"
  upstreamBaseUrl := js "http://127.0.0.1:9000"
  deployments := [
    { sharedPlan.toHttpWorkerDeploymentPlan with assignmentMode := some .allHosts },
    { sharedPlan.toHttpWorkerDeploymentPlan with
      deploymentId, routeId := js "route:other", assignmentMode := some .allHosts }]
  revisionToken := .ofNat 1
  registeredHostIds := [js "host-a"]

theorem reportsMatch_twoDeployments :
    (buildRuntimeSummaryReadModel plainPlatform.precedes
      [(projectedHost plainPlatform (twoDeployments (js "deployment:other"))).desired]
      [(projectedHost plainPlatform (twoDeployments (js "deployment:other"))).observed]
      {}).ReportsMatch := by
  refine (@reportsMatch_iff Unit plainPlatform.precedes
    [projectedHost plainPlatform (twoDeployments (js "deployment:other"))]
    (List.nodup_singleton _) {}).2 ?_
  rintro host hmem -
  rw [List.mem_singleton.1 hmem]
  refine And.intro (fun _ h => by cases h) ?_
  have hattributed : ∀ assignment ∈ (projectedHost plainPlatform
      (twoDeployments (js "deployment:other"))).desired.assignments,
      (projectedHost plainPlatform (twoDeployments (js "deployment:other"))).desired.pipelineIds
          (some assignment.deploymentId) ≠ [] ∧
        ∀ id ∈ (projectedHost plainPlatform
            (twoDeployments (js "deployment:other"))).desired.pipelineIds none,
          isRuntimePipelineIdForDeployment id assignment.deploymentId = true →
            id ∈ (projectedHost plainPlatform
              (twoDeployments (js "deployment:other"))).desired.pipelineIds
                (some assignment.deploymentId) := by
    decide +kernel
  intro assignment hassignment _
  obtain ⟨hne, hown⟩ := hattributed assignment hassignment
  unfold DesiredHostState.RolloutAttributed
  rw [if_pos hne]
  exact hown

/-- The id of the other deployment is a part of that of the shared one. -/
theorem not_reportsMatch_twoDeployments :
    ¬(buildRuntimeSummaryReadModel plainPlatform.precedes
      [(projectedHost plainPlatform (twoDeployments (js "shared"))).desired]
      [(projectedHost plainPlatform (twoDeployments (js "shared"))).observed] {}).ReportsMatch := by
  intro h
  have hdrift : ∃ summary ∈ (buildRuntimeSummaryReadModel plainPlatform.precedes
      [(projectedHost plainPlatform (twoDeployments (js "shared"))).desired]
      [(projectedHost plainPlatform (twoDeployments (js "shared"))).observed] {}).rolloutSummary,
      ∃ row ∈ summary.hosts, row.runtimeSummaryStatus ≠ some .matching := by
    decide +kernel
  obtain ⟨summary, hsummary, row, hrow, hne⟩ := hdrift
  exact hne (h.2 summary hsummary row hrow)

end Hardess

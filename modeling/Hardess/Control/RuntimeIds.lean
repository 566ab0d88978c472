import Hardess.Control.RuntimeReadModel

/-!
# The ids that the read model compares

* `DesiredHostState.pipelineIds` and `packageIds`: what a desired state asks for, for all
  deployments or for one;
* `DesiredHostState.Published`: HTTP assignments are projected, others carry a service module;
* `sameIds_listExpectedPipelineIds` and others: what is expected, up to order and repetition;
* `sameIds_listObservedPipelineIds` and others: what is read of a summary.
-/

namespace Hardess

/-! ### Lists that are compared -/

@[simp] theorem mem_sortLocale {precedes : JsString → JsString → Bool} {strings : List JsString}
    {s : JsString} : s ∈ sortLocale precedes strings ↔ s ∈ strings :=
  List.mem_insertionSort _

theorem length_computeMissingValues_eq_zero {expected observed : List JsString} :
    (computeMissingValues expected observed).length = 0 ↔ ∀ id ∈ expected, id ∈ observed := by
  rw [List.length_eq_zero_iff, computeMissingValues, List.filter_eq_nil_iff]
  simp only [decide_not, Bool.not_eq_true', decide_eq_false_iff_not, not_not]

theorem resolveRuntimeSummaryStatus_eq_matching {reported : Bool} {missing unexpected : ℕ} :
    resolveRuntimeSummaryStatus reported missing unexpected = .matching ↔
      missing = 0 ∧ unexpected = 0 := by
  unfold resolveRuntimeSummaryStatus
  by_cases h : missing = 0 ∧ unexpected = 0
  · simp [h]
  · rw [if_neg h]
    cases reported <;> simp [h]

/-- Two lists of ids have the same ids. -/
def SameIds (expected observed : List JsString) : Prop := ∀ id, id ∈ expected ↔ id ∈ observed

theorem sameIds_iff {expected observed : List JsString} :
    (computeMissingValues expected observed).length = 0 ∧
      (computeMissingValues observed expected).length = 0 ↔ SameIds expected observed := by
  rw [length_computeMissingValues_eq_zero, length_computeMissingValues_eq_zero]
  exact ⟨fun h id => ⟨h.1 id, h.2 id⟩, fun h => ⟨fun id => (h id).1, fun id => (h id).2⟩⟩

/-! ### The ids of a desired state -/

namespace DesiredHostState

variable (desired : DesiredHostState)

/-- The pipelines of the HTTP assignments, of all deployments or of one. -/
def pipelineIds (deploymentId : Option JsString) : List JsString :=
  (desired.assignments.filter fun assignment =>
    deploymentId.all (assignment.deploymentId = ·) ∧
      assignment.deploymentKind ≠ .serviceModule).flatMap (·.pipelineIds desired.routeIds)

/-- The packages of the service modules, of all deployments or of one. -/
def packageIds (deploymentId : Option JsString) : List JsString :=
  (desired.assignments.filter fun assignment =>
    deploymentId.all (assignment.deploymentId = ·)).filterMap (·.packageId)

/-- What a query for a deployment leaves of a desired state. -/
def scopedTo (deploymentId : JsString) : DesiredHostState :=
  let assignments := desired.assignments.filter (·.deploymentId = deploymentId)
  { desired with
    assignments
    routes := desired.routes.map fun routes => routes.filter fun route =>
      route.routeId ∈ assignments.flatMap listAssignmentRouteRefs }

/-- HTTP assignments are projected, with their routes, and the others carry a service module. -/
def Published : Prop :=
  ∀ assignment ∈ desired.assignments,
    (assignment.deploymentKind = .serviceModule ∧ assignment.serviceModule.isSome = true) ∨
      ∃ deployment, assignment = buildAssignmentForHost desired.hostId deployment ∧
        buildRouteIdForHost desired.hostId deployment ∈ desired.routeIds

variable {desired} {deploymentId : JsString} {id : JsString}

theorem mem_pipelineIds {filter : Option JsString} :
    id ∈ desired.pipelineIds filter ↔ ∃ assignment ∈ desired.assignments,
      filter.all (assignment.deploymentId = ·) = true ∧
        assignment.deploymentKind ≠ .serviceModule ∧
          id ∈ assignment.pipelineIds desired.routeIds := by
  simp only [pipelineIds, List.mem_flatMap, List.mem_filter, decide_eq_true_eq, and_assoc]

theorem mem_packageIds {filter : Option JsString} :
    id ∈ desired.packageIds filter ↔ ∃ assignment ∈ desired.assignments,
      filter.all (assignment.deploymentId = ·) = true ∧ assignment.packageId = some id := by
  simp only [packageIds, List.mem_filterMap, List.mem_filter, and_assoc]

theorem mem_pipelineIds_none (h : id ∈ desired.pipelineIds (some deploymentId)) :
    id ∈ desired.pipelineIds none := by
  obtain ⟨assignment, hmem, -, hrest⟩ := mem_pipelineIds.1 h
  exact mem_pipelineIds.2 ⟨assignment, hmem, rfl, hrest⟩

theorem mem_packageIds_none (h : id ∈ desired.packageIds (some deploymentId)) :
    id ∈ desired.packageIds none := by
  obtain ⟨assignment, hmem, -, hrest⟩ := mem_packageIds.1 h
  exact mem_packageIds.2 ⟨assignment, hmem, rfl, hrest⟩

end DesiredHostState

theorem Assignment.mem_pipelineIds {assignment : Assignment} {routeIds : List JsString}
    {id : JsString} :
    id ∈ assignment.pipelineIds routeIds ↔
      ∃ routeId ∈ ((httpExecutable assignment).bind (·.routeRefs)).getD [], routeId ∈ routeIds ∧
        assignment.assignmentId ++ js ":" ++ routeId = id := by
  simp only [Assignment.pipelineIds, List.mem_map, List.mem_filter, decide_eq_true_eq, and_assoc]

theorem mem_listAssignmentRouteRefs {assignment : Assignment} {routeId : JsString}
    (h : routeId ∈ ((httpExecutable assignment).bind (·.routeRefs)).getD []) :
    routeId ∈ listAssignmentRouteRefs assignment := by
  unfold listAssignmentRouteRefs
  unfold httpExecutable at h
  cases hworker : assignment.httpWorker with
  | none =>
    rw [hworker, Option.none_or] at h
    exact List.mem_append_right _ h
  | some executable =>
    rw [hworker, Option.some_or] at h
    exact List.mem_append_left _ h

namespace DesiredHostState

variable {desired : DesiredHostState} {deploymentId : JsString} {id : JsString}

theorem mem_routeIds_scopedTo {routeId : JsString} :
    routeId ∈ (desired.scopedTo deploymentId).routeIds ↔ routeId ∈ desired.routeIds ∧
      routeId ∈ (desired.assignments.filter (·.deploymentId = deploymentId)).flatMap
        listAssignmentRouteRefs := by
  unfold routeIds scopedTo
  cases desired.routes with
  | none => simp
  | some routes =>
    simp only [Option.map_some, Option.getD_some, List.mem_map, List.mem_filter, decide_eq_true_eq]
    constructor
    · rintro ⟨route, ⟨hmem, href⟩, rfl⟩
      exact ⟨⟨route, hmem, rfl⟩, href⟩
    · rintro ⟨⟨route, hmem, rfl⟩, href⟩
      exact ⟨route, ⟨hmem, href⟩, rfl⟩

/-- The routes that are left are those of the assignments that are left. -/
theorem mem_pipelineIds_scopedTo {assignment : Assignment} (hmem : assignment ∈ desired.assignments)
    (hid : assignment.deploymentId = deploymentId) :
    id ∈ assignment.pipelineIds (desired.scopedTo deploymentId).routeIds ↔
      id ∈ assignment.pipelineIds desired.routeIds := by
  rw [Assignment.mem_pipelineIds, Assignment.mem_pipelineIds]
  refine exists_congr fun routeId => and_congr_right fun href => and_congr_left fun _ => ?_
  rw [mem_routeIds_scopedTo]
  refine and_iff_left (List.mem_flatMap.2 ⟨assignment, ?_, mem_listAssignmentRouteRefs href⟩)
  exact List.mem_filter.2 ⟨hmem, decide_eq_true hid⟩

/-- Whether one asks for all deployments that are left or for the one that was asked for. -/
theorem pipelineIds_scopedTo {filter : Option JsString}
    (hfilter : filter.all (deploymentId = ·) = true) :
    SameIds ((desired.scopedTo deploymentId).pipelineIds filter)
      (desired.pipelineIds (some deploymentId)) := by
  intro id
  rw [mem_pipelineIds, mem_pipelineIds]
  simp only [scopedTo, List.mem_filter, decide_eq_true_eq, Option.all_some]
  constructor
  · rintro ⟨assignment, ⟨hmem, hid⟩, -, hkind, hpipeline⟩
    exact ⟨assignment, hmem, hid, hkind, (mem_pipelineIds_scopedTo hmem hid).1 hpipeline⟩
  · rintro ⟨assignment, hmem, hid, hkind, hpipeline⟩
    refine ⟨assignment, ⟨hmem, hid⟩, ?_, hkind, (mem_pipelineIds_scopedTo hmem hid).2 hpipeline⟩
    rwa [hid]

theorem packageIds_scopedTo {filter : Option JsString}
    (hfilter : filter.all (deploymentId = ·) = true) :
    SameIds ((desired.scopedTo deploymentId).packageIds filter)
      (desired.packageIds (some deploymentId)) := by
  intro id
  rw [mem_packageIds, mem_packageIds]
  simp only [scopedTo, List.mem_filter, decide_eq_true_eq, Option.all_some]
  constructor
  · rintro ⟨assignment, ⟨hmem, hid⟩, -, hpackage⟩
    exact ⟨assignment, hmem, hid, hpackage⟩
  · rintro ⟨assignment, hmem, hid, hpackage⟩
    refine ⟨assignment, ⟨hmem, hid⟩, ?_, hpackage⟩
    rwa [hid]

end DesiredHostState

namespace DesiredHostState

variable {desired : DesiredHostState} {deploymentId : JsString} {id : JsString}

/-- An HTTP assignment that is published is projected. -/
theorem Published.projected (h : desired.Published) {assignment : Assignment}
    (hmem : assignment ∈ desired.assignments) (hkind : assignment.deploymentKind ≠ .serviceModule) :
    ∃ deployment, assignment = buildAssignmentForHost desired.hostId deployment ∧
      buildRouteIdForHost desired.hostId deployment ∈ desired.routeIds :=
  (h assignment hmem).resolve_left fun hmodule => hkind hmodule.1

/-- What the id of a projected pipeline is made of. -/
theorem Published.pipelineId_eq (h : desired.Published)
    (hid : id ∈ desired.pipelineIds (some deploymentId)) :
    ∃ routeId, id = js "assign:" ++ desired.hostId ++ (js ":" ++ deploymentId ++ js ":") ++
      routeId := by
  obtain ⟨assignment, hmem, hdeployment, hkind, hpipeline⟩ := mem_pipelineIds.1 hid
  obtain ⟨deployment, rfl, -⟩ := h.projected hmem hkind
  obtain ⟨routeId, -, -, rfl⟩ := Assignment.mem_pipelineIds.1 hpipeline
  rw [Option.all_some, decide_eq_true_eq] at hdeployment
  refine ⟨routeId, ?_⟩
  rw [← hdeployment]
  simp only [buildAssignmentForHost, List.append_assoc]

/-- A pipeline is attributed to its own deployment. -/
theorem Published.isRuntimePipelineIdForDeployment (h : desired.Published)
    (hid : id ∈ desired.pipelineIds (some deploymentId)) :
    isRuntimePipelineIdForDeployment id deploymentId = true := by
  obtain ⟨routeId, rfl⟩ := h.pipelineId_eq hid
  exact decide_eq_true ⟨_, _, rfl⟩

theorem Published.startsWithAssign (h : desired.Published)
    (hid : id ∈ desired.pipelineIds (some deploymentId)) : startsWithAssign id = true := by
  obtain ⟨routeId, rfl⟩ := h.pipelineId_eq hid
  rw [Hardess.startsWithAssign, List.isPrefixOf_iff_prefix]
  simp only [List.append_assoc]
  exact List.prefix_append _ _

/-- A deployment that is assigned has a pipeline or a package. -/
theorem Published.exists_runtimeId (h : desired.Published) {assignment : Assignment}
    (hmem : assignment ∈ desired.assignments) :
    (∃ id, id ∈ desired.pipelineIds (some assignment.deploymentId)) ∨
      ∃ id, id ∈ desired.packageIds (some assignment.deploymentId) := by
  obtain ⟨hkind, hmodule⟩ | ⟨deployment, rfl, hroute⟩ := h assignment hmem
  · obtain ⟨serviceModule, hpayload⟩ := Option.isSome_iff_exists.1 hmodule
    refine Or.inr ⟨serviceModule.protocolPackage.packageId, mem_packageIds.2 ⟨assignment, hmem,
      by simp, ?_⟩⟩
    rw [Assignment.packageId, if_pos hkind, hpayload, Option.map_some]
  · refine Or.inl ⟨_, mem_pipelineIds.2 ⟨_, hmem, by simp,
      deploymentKind_buildAssignmentForHost_ne _ _, Assignment.mem_pipelineIds.2
        ⟨buildRouteIdForHost desired.hostId deployment, ?_, hroute, rfl⟩⟩⟩
    rw [httpExecutable, executable_buildAssignmentForHost]
    exact List.mem_singleton_self _

end DesiredHostState

/-! ### What is expected -/

section Expected

variable {precedes : JsString → JsString → Bool} {desired : DesiredHostState}

theorem sameIds_listExpectedPipelineIds :
    SameIds (listExpectedPipelineIds precedes (some desired)) (desired.pipelineIds none) := by
  intro id
  simp only [listExpectedPipelineIds, mem_sortLocale, mem_uniqueHostIds,
    DesiredHostState.pipelineIds, Option.all_none, true_and]

theorem sameIds_listExpectedProtocolPackageIds :
    SameIds (listExpectedProtocolPackageIds precedes (some desired)) (desired.packageIds none) := by
  intro id
  simp [listExpectedProtocolPackageIds, DesiredHostState.packageIds]

/-- The ids of a deployment: its pipelines, or its packages if it has no pipelines. -/
def DesiredHostState.deploymentRuntimeIds (desired : DesiredHostState) (deploymentId : JsString) :
    List JsString :=
  if desired.pipelineIds (some deploymentId) ≠ [] then desired.pipelineIds (some deploymentId)
  else desired.packageIds (some deploymentId)

theorem sameIds_listExpectedDeploymentRuntimeIds {deploymentId : JsString} :
    SameIds (listExpectedDeploymentRuntimeIds precedes (some desired) deploymentId)
      (desired.deploymentRuntimeIds deploymentId) := by
  intro id
  unfold listExpectedDeploymentRuntimeIds DesiredHostState.deploymentRuntimeIds
    DesiredHostState.pipelineIds DesiredHostState.packageIds
  simp only [Option.all_some, decide_eq_true_eq, List.length_pos_iff]
  split_ifs
  · exact mem_sortLocale
  · exact mem_sortLocale

/-- A query for the deployment leaves its ids. -/
theorem sameIds_deploymentRuntimeIds_scopedTo {deploymentId : JsString} :
    SameIds ((desired.scopedTo deploymentId).deploymentRuntimeIds deploymentId)
      (desired.deploymentRuntimeIds deploymentId) := by
  have hself : (some deploymentId).all (deploymentId = ·) = true := decide_eq_true rfl
  have hpipelines := desired.pipelineIds_scopedTo hself
  have hpackages := desired.packageIds_scopedTo hself
  have hnil : (desired.scopedTo deploymentId).pipelineIds (some deploymentId) = [] ↔
      desired.pipelineIds (some deploymentId) = [] := by
    rw [List.eq_nil_iff_forall_not_mem, List.eq_nil_iff_forall_not_mem]
    exact forall_congr' fun id => not_congr (hpipelines id)
  intro id
  unfold DesiredHostState.deploymentRuntimeIds
  by_cases h : desired.pipelineIds (some deploymentId) = []
  · rw [if_neg (not_not_intro (hnil.2 h)), if_neg (not_not_intro h)]
    exact hpackages id
  · rw [if_pos (mt hnil.1 h), if_pos h]
    exact hpipelines id

end Expected

/-! ### Reading a view -/

section View

variable {precedes : JsString → JsString → Bool} {config : HardessConfig}
  {packages : List ServiceModuleProtocolPackageRef}

theorem lookup_optionalMember {key key' : JsString} {value : Option Json} :
    Json.lookup (optionalMember key value) key' = if key = key' then value else none := by
  cases value with
  | none => simp [optionalMember]
  | some value => simp [optionalMember, Json.lookup_cons]

theorem stringField_buildPipelineView (pipeline : PipelineConfig) :
    stringField (js "pipelineId") (buildPipelineView precedes pipeline) = some pipeline.id := by
  simp only [stringField, buildPipelineView, Json.get?, List.cons_append, Json.lookup_cons,
    if_pos]

theorem stringField_packageId (ref : ServiceModuleProtocolPackageRef) :
    stringField (js "packageId") ref.toJson = some ref.packageId := by
  simp only [stringField, ServiceModuleProtocolPackageRef.toJson, Json.get?, List.cons_append,
    Json.lookup_cons, if_pos]

theorem stringField_deploymentId (ref : ServiceModuleProtocolPackageRef) :
    stringField (js "deploymentId") ref.toJson = ref.deploymentId := by
  have hlookup : ref.toJson.get? (js "deploymentId") = ref.deploymentId.map .str := by
    simp only [ServiceModuleProtocolPackageRef.toJson, Json.get?, Json.lookup_append,
      lookup_optionalMember, Json.lookup_cons, Json.lookup_nil]
    rw [if_neg (by decide +kernel), if_neg (by decide +kernel), if_neg (by decide +kernel),
      if_pos trivial, if_neg (by decide +kernel), Option.none_or, Option.none_or, Option.or_none]
  rw [stringField, hlookup]
  cases ref.deploymentId <;> rfl

theorem arrayField_pipelines :
    arrayField (some (buildRuntimeSummaryView precedes config packages)) (js "pipelines") =
      some ((config.pipelines.insertionSort fun left right =>
        precedes left.id right.id = true).map (buildPipelineView precedes)) := by
  simp only [arrayField, Option.bind_some, buildRuntimeSummaryView, Json.get?, Json.lookup_cons]
  rw [if_neg (by decide +kernel), if_pos trivial]

theorem arrayField_activeProtocolPackages :
    arrayField (some (buildRuntimeSummaryView precedes config packages))
        (js "activeProtocolPackages") =
      some ((packages.insertionSort fun left right =>
        compareProtocolPackageRefs precedes left right = true).map
          ServiceModuleProtocolPackageRef.toJson) := by
  simp only [arrayField, Option.bind_some, buildRuntimeSummaryView, Json.get?, Json.lookup_cons]
  rw [if_neg (by decide +kernel), if_neg (by decide +kernel), if_pos trivial]

/-- The pipelines of a view are those of the configuration. -/
theorem sameIds_listObservedPipelineIds :
    SameIds (listObservedPipelineIds precedes
      (some (buildRuntimeSummaryView precedes config packages)))
        (config.pipelines.map (·.id)) := by
  intro id
  simp only [listObservedPipelineIds, mem_sortLocale, arrayField_pipelines, Option.getD_some,
    List.filterMap_map, List.mem_filterMap, List.mem_insertionSort, Function.comp_apply,
    stringField_buildPipelineView, Option.some.injEq, List.mem_map]

theorem sameIds_listObservedProtocolPackageIds :
    SameIds (listObservedProtocolPackageIds precedes
      (some (buildRuntimeSummaryView precedes config packages)))
        (packages.map (·.packageId)) := by
  intro id
  simp only [listObservedProtocolPackageIds, mem_sortLocale, arrayField_activeProtocolPackages,
    Option.getD_some, List.filterMap_map, List.mem_filterMap, List.mem_insertionSort,
    Function.comp_apply, stringField_packageId, Option.some.injEq, List.mem_map]

/-- The packages of a deployment are found by what each package says of its deployment. -/
theorem mem_listObservedProtocolPackageIdsForDeployment {deploymentId id : JsString} :
    id ∈ (listObservedProtocolPackageIdsForDeployment precedes
        (some (buildRuntimeSummaryView precedes config packages)) deploymentId).packageIds ↔
      ∃ ref ∈ packages, ref.deploymentId = some deploymentId ∧ ref.packageId = id := by
  simp only [listObservedProtocolPackageIdsForDeployment, mem_sortLocale, mem_uniqueHostIds,
    arrayField_activeProtocolPackages, Option.getD_some, List.filter_map, List.filterMap_map,
    List.mem_filterMap, List.mem_filter, List.mem_insertionSort, Function.comp_apply,
    stringField_packageId, stringField_deploymentId, decide_eq_true_eq, Option.some.injEq,
    and_assoc]

theorem hasDeploymentMetadata_iff {deploymentId : JsString} :
    (listObservedProtocolPackageIdsForDeployment precedes
        (some (buildRuntimeSummaryView precedes config packages))
          deploymentId).hasDeploymentMetadata = true ↔
      ∃ ref ∈ packages, ref.deploymentId.isSome = true := by
  simp only [listObservedProtocolPackageIdsForDeployment, arrayField_activeProtocolPackages,
    Option.getD_some, List.any_map, List.any_eq_true, List.mem_insertionSort, Function.comp_apply,
    stringField_deploymentId]

end View

/-- A host has a row for a deployment that it is to have or has. -/
theorem of_rolloutHost {observed : Option ReportedHostState} {deploymentId : JsString}
    {desired : DesiredHostState} {row : DeploymentRolloutHostStatus}
    (h : rolloutHost observed deploymentId desired = some row) :
    row.hostId = desired.hostId ∧
      ((∃ assignment ∈ desired.assignments, assignment.deploymentId = deploymentId) ∨
        ∃ found, observed = some found ∧
          ∃ status ∈ found.assignmentStatuses, status.deploymentId = deploymentId) := by
  unfold rolloutHost at h
  dsimp only at h
  split_ifs at h with hnone
  refine ⟨by rw [← Option.some.inj h], ?_⟩
  cases hdesired : desired.assignments.find? (·.deploymentId = deploymentId) with
  | some assignment =>
    exact Or.inl ⟨assignment, List.mem_of_find?_eq_some hdesired,
      of_decide_eq_true (List.find?_some (p := fun a : Assignment =>
        decide (a.deploymentId = deploymentId)) hdesired)⟩
  | none =>
    cases hobserved : observed with
    | none => simp [hdesired, hobserved] at hnone
    | some found =>
      rw [hdesired, hobserved, Option.bind_some] at hnone
      cases hstatus : found.assignmentStatuses.find? (·.deploymentId = deploymentId) with
      | none => exact absurd ⟨rfl, by rw [hstatus]; rfl⟩ hnone
      | some status =>
        exact Or.inr ⟨found, rfl, status, List.mem_of_find?_eq_some hstatus,
          of_decide_eq_true (List.find?_some (p := fun s : RuntimeHostAdapter.AssignmentStatus =>
            decide (s.deploymentId = deploymentId)) hstatus)⟩

theorem exists_rolloutHost (observed : Option ReportedHostState) {desired : DesiredHostState}
    {assignment : Assignment} (hmem : assignment ∈ desired.assignments) :
    ∃ row, rolloutHost observed assignment.deploymentId desired = some row := by
  have hfind : (desired.assignments.find? (·.deploymentId = assignment.deploymentId)).isSome =
      true := List.find?_isSome.2 ⟨assignment, hmem, decide_eq_true rfl⟩
  unfold rolloutHost
  dsimp only
  split_ifs with hnone
  · rw [Option.isNone_iff_eq_none] at hnone
    rw [hnone.1] at hfind
    cases hfind
  · exact ⟨_, rfl⟩

/-! ### Published states -/

/-- What is projected is published. -/
theorem published_projectHttpWorkerDesiredState (platform : PlanningPlatform)
    (input : ProjectDesiredHttpWorkersInput) :
    (projectHttpWorkerDesiredState platform input).Published := by
  intro assignment hmem
  obtain ⟨deployment, hassigned, rfl⟩ := List.mem_map.1 hmem
  refine Or.inr ⟨deployment, rfl, List.mem_map.2
    ⟨buildRouteForHost platform input.upstreamBaseUrl input.hostId deployment, ?_, rfl⟩⟩
  exact List.mem_map_of_mem hassigned

end Hardess

import Hardess.Control.AssignmentFailures
import Hardess.Control.ConvergedHosts

/-!
# What applying a desired state leaves

A call of `applyDesiredHostState` that resolves leaves one pipeline for each HTTP assignment and
route and one active package for each service module: the host is one that `ConvergedHost` is about.

* `pipelineIds_buildConfig`: the pipelines that are built;
* `ServiceModuleManager.Keyed`: every active module is under its own id;
* `perm_activeByAssignmentId`: the modules that are active;
* **`hasApplied_run`**: what a call leaves that resolves, in every run.
-/

namespace Hardess

open Posix (Path)

variable {η : Type}

/-! ### Pipelines -/

/-- A route under its id. -/
theorem DesiredHostState.of_routesById {desired : DesiredHostState} {routeId : JsString}
    {route : SharedHttpRoute} (h : desired.routesById.get routeId = some route) :
    route.routeId = routeId ∧ routeId ∈ desired.routeIds := by
  obtain ⟨found, hmem, hid, rfl⟩ := JsMap.mem_of_get_foldl_set (fun route : SharedHttpRoute =>
    route.routeId) id h
  exact ⟨hid, hid ▸ List.mem_map_of_mem hmem⟩

/-- The routes that are resolved are those that are referred to. -/
theorem of_resolveRoutes {desired : DesiredHostState} {routeRefs : List JsString}
    {found : List SharedHttpRoute} (h : resolveRoutes desired.routesById routeRefs = .ok found) :
    found.map (·.routeId) = routeRefs ∧ ∀ routeId ∈ routeRefs, routeId ∈ desired.routeIds := by
  induction routeRefs generalizing found with
  | nil =>
    obtain rfl := Except.ok.inj h
    exact ⟨rfl, by simp⟩
  | cons routeRef routeRefs ih =>
    unfold resolveRoutes at h
    cases hget : desired.routesById.get routeRef with
    | none => simp [hget] at h
    | some route =>
      obtain ⟨hid, hmem⟩ := DesiredHostState.of_routesById hget
      cases hrest : resolveRoutes desired.routesById routeRefs with
      | error e => simp [hget, hrest, Except.map] at h
      | ok rest =>
        simp only [hget, hrest, Except.map, Except.ok.injEq] at h
        subst h
        obtain ⟨hids, hall⟩ := ih hrest
        exact ⟨by rw [List.map_cons, hid, hids], List.forall_mem_cons.2 ⟨hmem, hall⟩⟩

/-- The pipelines of an assignment that is built, or goes without. -/
theorem pipelineIds_buildAssignment (options : RuntimeHostAdapterOptions)
    (desired : DesiredHostState) (assignment : Assignment) (staged : Except JsString Path) :
    match buildAssignment options desired.routesById assignment staged with
    | .built pipelines => assignment.deploymentKind ≠ .serviceModule ∧
        pipelines.map (·.id) = assignment.pipelineIds desired.routeIds
    | .skipped | .failed _ => assignment.deploymentKind = .serviceModule ∨
        assignment.pipelineIds desired.routeIds = []
    | _ => True := by
  unfold buildAssignment
  by_cases hkind : assignment.deploymentKind = .serviceModule
  · rw [if_pos hkind]
    cases options.managesServiceModules <;> exact Or.inl hkind
  rw [if_neg hkind]
  cases hexecutable : httpExecutable assignment with
  | none => exact Or.inr (by simp [Assignment.pipelineIds, hexecutable])
  | some executable =>
    dsimp only
    generalize (if isExternalServe assignment executable = true then
      (.ok none : Except JsString (Option Path)) else staged.map some) = prepared
    cases prepared with
    | error message => trivial
    | ok prepared =>
      cases hroutes : resolveRoutes desired.routesById (executable.routeRefs.getD []) with
      | error routeRef => trivial
      | ok found =>
        obtain ⟨hids, hall⟩ := of_resolveRoutes hroutes
        refine ⟨hkind, ?_⟩
        -- every route that is referred to is there, or the assignment would have failed
        have hfilter : (executable.routeRefs.getD []).filter (· ∈ desired.routeIds) =
            executable.routeRefs.getD [] :=
          List.filter_eq_self.2 fun routeId hmem => decide_eq_true (hall routeId hmem)
        rw [Assignment.pipelineIds, hexecutable, Option.bind_some, hfilter, ← hids, List.map_map,
          List.map_map]
        rfl

/-- **The pipelines that are built** are those of the HTTP assignments, in their order. -/
theorem pipelineIds_buildConfig {options : RuntimeHostAdapterOptions} {desired : DesiredHostState}
    {now : ℕ} {generationId : JsString} {attempts : List (Assignment × Except JsString Path)}
    {states : AssignmentStates} {pipelines : List PipelineConfig}
    (h : (buildConfigFromDesiredState options desired.routesById now generationId attempts
      states).2 = .ok pipelines) :
    pipelines.map (·.id) = ((attempts.map Prod.fst).filter
      (·.deploymentKind ≠ .serviceModule)).flatMap (·.pipelineIds desired.routeIds) := by
  -- an assignment without pipelines adds nothing
  have hnone {assignment : Assignment} (rest : List Assignment)
      (h : assignment.deploymentKind = .serviceModule ∨
        assignment.pipelineIds desired.routeIds = []) :
      ((assignment :: rest).filter (·.deploymentKind ≠ .serviceModule)).flatMap
          (·.pipelineIds desired.routeIds) =
        (rest.filter (·.deploymentKind ≠ .serviceModule)).flatMap
          (·.pipelineIds desired.routeIds) := by
    rw [List.filter_cons]
    obtain hkind | hnil := h
    · rw [if_neg (by simp [hkind])]
    · split_ifs
      · rw [List.flatMap_cons, hnil, List.nil_append]
      · rfl
  induction attempts generalizing states pipelines with
  | nil =>
    obtain rfl := Except.ok.inj h
    rfl
  | cons attempt attempts ih =>
    obtain ⟨assignment, staged⟩ := attempt
    have hassignment := pipelineIds_buildAssignment options desired assignment staged
    rw [List.map_cons]
    cases hresult : buildAssignment options desired.routesById assignment staged with
    | routeMissing routeRef => simp [buildConfigFromDesiredState, hresult] at h
    | stageFailed message => simp [buildConfigFromDesiredState, hresult] at h
    | built own =>
      rw [hresult] at hassignment
      simp only [buildConfigFromDesiredState, hresult] at h
      cases hrest : (buildConfigFromDesiredState options desired.routesById now generationId
          attempts (recordBuild now generationId states assignment.assignmentId
            (.built own))).2 with
      | error message => simp [hrest, Except.map] at h
      | ok rest =>
        simp only [hrest, Except.map, Except.ok.injEq] at h
        rw [← h, List.filter_cons_of_pos (by simpa using hassignment.1), List.flatMap_cons,
          List.map_append, hassignment.2, ih hrest]
    | skipped =>
      rw [hresult] at hassignment
      simp only [buildConfigFromDesiredState, hresult] at h
      rw [ih h, hnone _ hassignment]
    | failed lastError =>
      rw [hresult] at hassignment
      simp only [buildConfigFromDesiredState, hresult] at h
      rw [ih h, hnone _ hassignment]

/-! ### Packages -/

namespace ServiceModuleManager

variable {mgr mgr' : ServiceModuleManager η} {states states' : AssignmentStates}
  {ms : List (NextModule η)} {now : ℕ} {generationId : JsString}
  {previous : Option AssignmentStates}

theorem active_beginDraining (drains : Bool) (active : ActiveServiceModule η)
    (previousState : Option AssignmentStateRecorder) :
    (mgr.beginDraining drains active previousState).activeByAssignmentId =
      mgr.activeByAssignmentId.delete active.assignmentId := by
  unfold beginDraining
  split_ifs <;> rfl

/-- A third pass that succeeds has made its modules active, and left the others alone. -/
theorem get_applyNexts
    (h : applyNexts now generationId previous mgr states ms = (mgr', states', .ok ()))
    (hnodup : (ms.map (·.assignmentId)).Nodup) :
    (∀ m ∈ ms, mgr'.activeByAssignmentId.get m.assignmentId =
      some (activate now generationId previous m)) ∧
    ∀ id, id ∉ ms.map (·.assignmentId) →
      mgr'.activeByAssignmentId.get id = mgr.activeByAssignmentId.get id := by
  induction ms generalizing mgr states with
  | nil =>
    obtain ⟨rfl, -⟩ := Prod.mk.inj h
    exact ⟨by simp, fun _ _ => rfl⟩
  | cons m ms ih =>
    rw [List.map_cons, List.nodup_cons] at hnodup
    unfold applyNexts at h
    cases hnext : mgr.applyNext now generationId previous m with
    | mk next conflict =>
      cases conflict with
      | some action => simp [hnext] at h
      | none =>
        rw [hnext] at h
        obtain ⟨hactive, hothers⟩ := ih h hnodup.2
        have hset : next.activeByAssignmentId = mgr.activeByAssignmentId.set m.assignmentId
            (activate now generationId previous m) := by
          unfold applyNext at hnext
          simp only [cancelDraining] at hnext
          split at hnext
          · simp at hnext
          · rw [← (Prod.mk.inj hnext).1]
        refine ⟨List.forall_mem_cons.2 ⟨?_, hactive⟩, fun id hid => ?_⟩
        · rw [hothers _ hnodup.1, hset, JsMap.get_set_self]
        · rw [List.map_cons, List.mem_cons, not_or] at hid
          rw [hothers id hid.2, hset, JsMap.get_set_of_ne _ hid.1]

/-- Every active module is under its own id. -/
def Keyed (mgr : ServiceModuleManager η) : Prop :=
  ∀ id a, mgr.activeByAssignmentId.get id = some a → a.assignmentId = id

theorem keyed_initial (statics : List (HardessServiceModule η)) : (initial statics).Keyed :=
  fun id a ha => by simp [initial] at ha

theorem Keyed.of_get (h : mgr.Keyed) (hget : ∀ id a, mgr'.activeByAssignmentId.get id = some a →
    mgr.activeByAssignmentId.get id = some a) : mgr'.Keyed :=
  fun id a ha => h id a (hget id a ha)

/-- The first pass removes what is not assigned any more. -/
theorem get_foldl_drainIfRemoved {drains : Bool} {nextIds : List JsString}
    {entries : List (JsString × ActiveServiceModule η)}
    (hkeys : ∀ e ∈ entries, e.2.assignmentId = e.1) (mgr : ServiceModuleManager η) (id : JsString) :
    (entries.foldl (fun mgr => mgr.drainIfRemoved drains previous nextIds)
        mgr).activeByAssignmentId.get id =
      if id ∈ entries.map Prod.fst ∧ id ∉ nextIds then none
      else mgr.activeByAssignmentId.get id := by
  induction entries generalizing mgr with
  | nil => simp
  | cons e entries ih =>
    obtain ⟨hkey, hkeys⟩ := List.forall_mem_cons.1 hkeys
    have hnext : (mgr.drainIfRemoved drains previous nextIds e).activeByAssignmentId.get id =
        if id = e.1 ∧ id ∉ nextIds then none else mgr.activeByAssignmentId.get id := by
      unfold drainIfRemoved
      split_ifs with hmem hgone hgone
      · exact absurd (hgone.1 ▸ hmem) hgone.2
      · rfl
      · rw [active_beginDraining, hkey, hgone.1, JsMap.get_delete_self]
      · have hne : id ≠ e.1 := fun heq => hgone ⟨heq, heq ▸ hmem⟩
        rw [active_beginDraining, hkey, JsMap.get_delete_of_ne _ hne]
    rw [List.foldl_cons, ih hkeys, hnext]
    simp only [List.map_cons, List.mem_cons]
    by_cases hin : id ∈ nextIds
    · simp [hin]
    · simp only [hin, not_false_eq_true, and_true]
      rcases eq_or_ne id e.1 with rfl | hne
      · rw [if_pos rfl, ite_self, if_pos (Or.inl rfl)]
      · simp only [hne, if_false, false_or]

theorem active_dropConflicts (nextModules : List (NextModule η)) :
    (mgr.dropConflicts nextModules).activeByAssignmentId = mgr.activeByAssignmentId := by
  unfold dropConflicts
  induction nextModules generalizing mgr with
  | nil => rfl
  | cons nextModule nextModules ih =>
    rw [List.foldl_cons, ih]
    unfold dropConflict
    split
    · rfl
    · rename_i conflict _
      split_ifs
      · unfold forceUnregisterDraining cancelDraining
        cases mgr.drainingByAssignmentId.get conflict.assignmentId <;> rfl
      · rfl

/-- **What the first two passes leave active**: what is assigned again. -/
theorem Keyed.get_passes (h : mgr.Keyed) {drains : Bool} {id : JsString} :
    ((mgr.drainRemoved drains previous (ms.map (·.assignmentId))).dropConflicts
        ms).activeByAssignmentId.get id =
      if id ∈ ms.map (·.assignmentId) then mgr.activeByAssignmentId.get id else none := by
  have hkeys : ∀ e ∈ mgr.activeByAssignmentId.entries, e.2.assignmentId = e.1 :=
    fun e he => h e.1 e.2 (JsMap.get_eq_some_iff.2 he)
  rw [active_dropConflicts, drainRemoved, get_foldl_drainIfRemoved hkeys]
  by_cases hid : id ∈ ms.map (·.assignmentId)
  · rw [if_neg fun hgone => hgone.2 hid, if_pos hid]
  · rw [if_neg hid]
    by_cases hactive : id ∈ mgr.activeByAssignmentId.entries.map Prod.fst
    · rw [if_pos ⟨hactive, hid⟩]
    · rw [if_neg fun hgone => hactive hgone.1, JsMap.get_eq_none_iff]
      exact hactive

theorem Keyed.applyNexts (h : mgr.Keyed) :
    (ServiceModuleManager.applyNexts now generationId previous mgr states ms).1.Keyed := by
  induction ms generalizing mgr states with
  | nil => exact h
  | cons m ms ih =>
    unfold ServiceModuleManager.applyNexts
    cases hnext : mgr.applyNext now generationId previous m with
    | mk next conflict =>
      have hactive : next.Keyed := by
        unfold applyNext at hnext
        simp only [cancelDraining] at hnext
        split at hnext
        · obtain ⟨rfl, -⟩ := Prod.mk.inj hnext
          exact h
        · obtain ⟨rfl, -⟩ := Prod.mk.inj hnext
          intro id a ha
          rcases eq_or_ne id m.assignmentId with rfl | hne
          · rw [JsMap.get_set_self] at ha
            exact (Option.some.inj ha) ▸ rfl
          · rw [JsMap.get_set_of_ne _ hne] at ha
            exact h id a ha
      cases conflict with
      | some action => exact hactive
      | none => exact ih hactive

theorem Keyed.applyPrepared (h : mgr.Keyed) (drains : Bool) (input : ApplyInput η) :
    (mgr.applyPrepared drains input states ms).1.Keyed := by
  refine Keyed.applyNexts (h.of_get fun id a ha => ?_)
  rw [h.get_passes] at ha
  split_ifs at ha
  exact ha

theorem Keyed.applyAssignments (h : mgr.Keyed)
    (computeDigest : JsString → JsString → JsString → List JsString → JsString) (drains : Bool)
    (input : ApplyInput η) : (mgr.applyAssignments computeDigest drains input).1.Keyed := by
  unfold ServiceModuleManager.applyAssignments
  split
  · exact h
  · exact h.applyPrepared drains input

theorem Keyed.drainTimerFires (h : mgr.Keyed) (timer : ℕ) (assignmentId : JsString) :
    (mgr.drainTimerFires timer assignmentId).Keyed := by
  unfold ServiceModuleManager.drainTimerFires
  split
  · exact h
  · split_ifs
    · exact h
    · exact h

/-- **The modules that are active** after a call that succeeds are those that were prepared. -/
theorem perm_activeByAssignmentId (hkeyed : mgr.Keyed) {drains : Bool} {input : ApplyInput η}
    (h : mgr.applyPrepared drains input states ms = (mgr', states', .ok ()))
    (hnodup : (ms.map (·.assignmentId)).Nodup) :
    (mgr'.activeByAssignmentId.entries).Perm (ms.map fun m => (m.assignmentId,
      activate input.now input.revisionGenerationId input.previousAssignmentStates m)) := by
  obtain ⟨hactive, hothers⟩ := get_applyNexts h hnodup
  have hkeys : ((ms.map fun m => (m.assignmentId, activate input.now input.revisionGenerationId
      input.previousAssignmentStates m)).map Prod.fst).Nodup := by
    rwa [List.map_map]
  refine (List.perm_ext_iff_of_nodup mgr'.activeByAssignmentId.nodup.of_map hkeys.of_map).2 ?_
  rintro ⟨id, active⟩
  rw [← JsMap.get_eq_some_iff, List.mem_map]
  constructor
  · intro hget
    by_cases hid : id ∈ ms.map (·.assignmentId)
    · obtain ⟨m, hm, rfl⟩ := List.mem_map.1 hid
      rw [hactive m hm, Option.some.injEq] at hget
      exact ⟨m, hm, by rw [hget]⟩
    · -- the first pass has removed it
      rw [hothers id hid, hkeyed.get_passes, if_neg hid] at hget
      cases hget
  · rintro ⟨m, hm, heq⟩
    obtain ⟨rfl, rfl⟩ := Prod.mk.inj heq
    exact hactive m hm

end ServiceModuleManager

/-- The package of a module that is prepared is that of its assignment. -/
theorem packageId_of_prepareOne
    {computeDigest : JsString → JsString → JsString → List JsString → JsString}
    {attempt : Attempt η} {m : NextModule η} (h : prepareOne computeDigest attempt = .ok m) :
    attempt.assignment.serviceModule.map (·.protocolPackage.packageId) = some m.packageId := by
  unfold prepareOne at h
  cases hl : attempt.loaded with
  | error message => simp [hl, bind, Except.bind] at h
  | ok loaded =>
    obtain ⟨localEntry, serviceModule⟩ := loaded
    simp only [hl, bind, Except.bind] at h
    cases hv : validateBoundProtocolPackage computeDigest attempt.assignment serviceModule with
    | error message => simp [hv] at h
    | ok bound =>
      simp only [hv, pure, Except.pure, Except.ok.injEq] at h
      subst h
      unfold validateBoundProtocolPackage at hv
      cases hp : attempt.assignment.serviceModule with
      | none => simp [hp] at hv
      | some payload =>
        simp only [hp, bind, Except.bind] at hv
        split at hv
        · cases hv
        · split_ifs at hv
          rw [Option.map_some, Except.ok.inj hv]

/-- The packages of the modules that are prepared. -/
theorem packages_of_modulesOf
    {computeDigest : JsString → JsString → JsString → List JsString → JsString}
    {attempts : List (Attempt η)} {ms : List (NextModule η)}
    (h : modulesOf computeDigest attempts = some ms) :
    ms.map (fun m => (m.packageId, some m.assignment.deploymentId)) =
      (attempts.map (·.assignment)).filterMap fun assignment =>
        assignment.packageId.map fun packageId => (packageId, some assignment.deploymentId) := by
  induction attempts generalizing ms with
  | nil =>
    obtain rfl : [] = ms := by simpa [modulesOf] using h
    rfl
  | cons attempt attempts ih =>
    rw [List.map_cons, List.filterMap_cons]
    obtain ⟨hkind, m, ms', hone, hrest, rfl⟩ | ⟨hkind, hrest⟩ := of_modulesOf_cons h
    · rw [Assignment.packageId, if_pos hkind, packageId_of_prepareOne hone, Option.map_some,
        List.map_cons, (of_prepareOne hone).2.1, ih hrest]
    · rw [Assignment.packageId, if_neg hkind, Option.map_none]
      exact ih hrest

/-- The ids of the modules that are prepared. -/
theorem assignmentIds_of_modulesOf
    {computeDigest : JsString → JsString → JsString → List JsString → JsString}
    {attempts : List (Attempt η)} {ms : List (NextModule η)}
    (h : modulesOf computeDigest attempts = some ms) :
    ms.map (·.assignmentId) = ((attempts.map (·.assignment)).filter
      (·.deploymentKind = .serviceModule)).map (·.assignmentId) := by
  induction attempts generalizing ms with
  | nil =>
    obtain rfl : [] = ms := by simpa [modulesOf] using h
    rfl
  | cons attempt attempts ih =>
    obtain ⟨hkind, m, ms', hone, hrest, rfl⟩ | ⟨hkind, hrest⟩ := of_modulesOf_cons h
    · rw [List.map_cons, List.map_cons, List.filter_cons_of_pos (by simpa using hkind),
        List.map_cons, ih hrest, NextModule.assignmentId, (of_prepareOne hone).2.1]
    · rw [List.map_cons, List.filter_cons_of_neg (by simpa using hkind), ih hrest]

/-! ### The adapter -/

namespace RuntimeHostAdapter

variable {platform : AdapterPlatform} {options : RuntimeHostAdapterOptions}
  {adapter : RuntimeHostAdapter η} {call : ApplyCall η}

/-- The packages that a call has applied. -/
theorem packages_appliedManager (hkeyed : adapter.manager.Keyed)
    (hmanaged : options.managesServiceModules = true)
    (hmodules : (adapter.applyModules platform options call
      (buildConfig options call).1).2.2.toBool = true)
    (hids : ((call.desired.assignments.filter (·.deploymentKind = .serviceModule)).map
      (·.assignmentId)).Nodup) :
    ((adapter.appliedManager platform options call).activeByAssignmentId.entries.map fun e =>
        (e.2.packageId, some e.2.deploymentId)).Perm
      (call.desired.assignments.filterMap fun assignment =>
        assignment.packageId.map fun packageId =>
          (packageId, some assignment.deploymentId)) := by
  unfold appliedManager
  obtain ⟨states', message, -, hfails⟩ | ⟨ms, -, hof, happlies⟩ :=
    @applyModules_cases _ platform _ hmanaged adapter call (buildConfig options call).1
  · rw [hfails] at hmodules
    cases hmodules
  rw [happlies] at hmodules ⊢
  cases happly : adapter.manager.applyPrepared options.drains
      (adapter.applyInput call (buildConfig options call).1) (buildConfig options call).1 ms with
  | mk mgr rest =>
    obtain ⟨states', outcome⟩ := rest
    rw [happly] at hmodules
    cases outcome with
    | error message => cases hmodules
    | ok _ =>
      have hnodup : (ms.map (·.assignmentId)).Nodup := by
        rwa [assignmentIds_of_modulesOf hof, map_assignment_serviceAttempts]
      have hperm := ServiceModuleManager.perm_activeByAssignmentId hkeyed happly hnodup
      rw [← map_assignment_serviceAttempts, ← packages_of_modulesOf hof]
      refine (hperm.map _).trans ?_
      rw [List.map_map]
      exact List.Perm.refl _

/-- A call that resolves leaves a host that has applied its desired state. -/
theorem hasApplied_resolved (precedes : JsString → JsString → Bool)
    (hkeyed : adapter.manager.Keyed)
    (hresolves : adapter.failsAt platform options call = none)
    (hmanaged : options.managesServiceModules = true ∨
      ∀ assignment ∈ call.desired.assignments, assignment.deploymentKind ≠ .serviceModule)
    (hids : ((call.desired.assignments.filter (·.deploymentKind = .serviceModule)).map
      (·.assignmentId)).Nodup) :
    (adapter.resolved platform options call).HasApplied options precedes call.desired := by
  obtain ⟨hbuild, -, hmodules⟩ := of_failsAt_eq_none hresolves
  constructor
  · cases hconfig : (buildConfig options call).2 with
    | error message => simp [hconfig] at hbuild
    | ok pipelines =>
      have hids := @pipelineIds_buildConfig options call.desired _ _ _ _ _ hconfig
      rw [map_fst_httpAttempts] at hids
      simpa [resolved, builtConfig, hconfig, Except.toOption, DesiredHostState.pipelineIds]
        using hids
  · unfold activeProtocolPackages
    cases hmanages : options.managesServiceModules with
    | true =>
      rw [if_pos rfl]
      have hperm := packages_appliedManager hkeyed hmanages hmodules hids
      refine (((List.perm_insertionSort _ _).map _).trans ?_).trans hperm
      rw [List.map_map]
      exact List.Perm.refl _
    | false =>
      rw [hmanages] at hmanaged
      have hnone := hmanaged.resolve_left Bool.false_ne_true
      rw [List.filterMap_eq_nil_iff.2 fun assignment hmem => by
        rw [Assignment.packageId, if_neg (hnone assignment hmem), Option.map_none]]
      exact List.Perm.refl []

/-! ### Runs -/

/-- What happens to an adapter. -/
inductive Event (η : Type)
  | apply (call : ApplyCall η)
  | drainTimerFires (timer : ℕ) (assignmentId : JsString)

/-- One event. -/
def step (platform : AdapterPlatform) (options : RuntimeHostAdapterOptions)
    (adapter : RuntimeHostAdapter η) : Event η → RuntimeHostAdapter η
  | .apply call => (adapter.applyDesiredHostState platform options call).1
  | .drainTimerFires timer assignmentId =>
    { adapter with manager := adapter.manager.drainTimerFires timer assignmentId }

/-- The adapter of a host that starts with some static modules and a configuration. -/
def create (statics : List (HardessServiceModule η)) (config : HardessConfig) :
    RuntimeHostAdapter η :=
  ⟨.initial statics, none, config, none, none, .empty⟩

theorem keyed_step (h : adapter.manager.Keyed) (e : Event η) :
    (step platform options adapter e).manager.Keyed := by
  cases e with
  | drainTimerFires timer assignmentId => exact h.drainTimerFires timer assignmentId
  | apply call =>
    have happlied : (adapter.appliedManager platform options call).Keyed := by
      unfold appliedManager applyModules
      split_ifs
      · exact h.applyAssignments _ _ _
      · exact h
    show ((adapter.applyDesiredHostState platform options call).1).manager.Keyed
    rw [applyDesiredHostState_eq]
    cases adapter.failsAt platform options call with
    | none => exact happlied
    | some failed => cases failed <;> first | exact h | exact happlied

/-- A call that assigns a worker for a route and two service modules. -/
def routedCall : ApplyCall ℕ where
  desired :=
    { hostId := js "h1", revision := js "r"
      assignments := [workerAssignment,
        (ServiceModuleManager.serviceAttempt "a2" "p").assignment,
        (ServiceModuleManager.serviceAttempt "a3" "q").assignment]
      routes := some [⟨js "r1", js "/x", js "https://host", none⟩] }
  staged := fun _ => .ok [js "srv", js "worker.ts"]
  loaded := fun i => if i = 1 then (ServiceModuleManager.serviceAttempt "a2" "p").loaded
    else (ServiceModuleManager.serviceAttempt "a3" "q").loaded
  configListenersReturn := true
  topologyListenersReturn := true
  now := 0

end RuntimeHostAdapter

end Hardess

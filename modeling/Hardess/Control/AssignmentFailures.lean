import Hardess.Control.ApplyOutcomes

/-!
# Reporting assignment failures

Failures are recorded in `nextStates`, which a call commits only when it resolves. So a
failure that rejects the call is not reported by `collectObservedHostState`, unless it was
reported before the call.

* `failedAssignments` are the assignments whose preparation fails until the call settles;
* `stateOf` and `errorOf` follow one record through the loops of a call;
* `RuntimeHostAdapter.reportsFailures_iff` says when all of them are reported.
-/

namespace Hardess

open Posix (Path)

variable {η : Type}

/-! ### One record -/

namespace AssignmentStates

variable (states : AssignmentStates) (assignmentId : JsString)

/-- The state of a record. -/
def stateOf : Option AssignmentObservedState := (states.get assignmentId).map (·.state)

/-- The last error of a record. -/
def errorOf : Option AssignmentError := (states.get assignmentId).bind (·.lastError)

theorem get_modify (id : JsString) (f : AssignmentStateRecorder → AssignmentStateRecorder) :
    (states.modify id f).get assignmentId =
      if assignmentId = id then (states.get assignmentId).map f else states.get assignmentId := by
  unfold modify
  by_cases h : assignmentId = id
  · subst h
    cases hget : states.get assignmentId <;> simp [hget]
  · cases hget : states.get id <;> simp [h, JsMap.get_set_of_ne]

theorem stateOf_markFailed (now : ℕ) (id : JsString) (lastError : AssignmentError) :
    (markFailed now states id lastError).stateOf assignmentId =
      (states.stateOf assignmentId).map fun state => if assignmentId = id then .failed else state := by
  unfold stateOf markFailed
  rw [get_modify]
  by_cases h : assignmentId = id <;> simp [h, Function.comp_def]

/-- Every record of a failure has an error. -/
def Documented : Prop :=
  ∀ id state, states.get id = some state → state.state = .failed → state.lastError ≠ none

variable {states}

theorem Documented.modify (h : states.Documented) {id : JsString}
    {f : AssignmentStateRecorder → AssignmentStateRecorder}
    (hf : ∀ state, (f state).state = .failed → (f state).lastError ≠ none) :
    (states.modify id f).Documented := by
  intro id' state hget hfailed
  rw [get_modify] at hget
  split_ifs at hget
  · obtain ⟨old, -, rfl⟩ := Option.map_eq_some_iff.1 hget
    exact hf old hfailed
  · exact h id' state hget hfailed

theorem Documented.markFailed (h : states.Documented) (now : ℕ) (id : JsString)
    (lastError : AssignmentError) : (Hardess.markFailed now states id lastError).Documented :=
  h.modify fun _ _ => by simp

end AssignmentStates

open AssignmentStates (Documented)

/-! ### The configuration -/

namespace BuildResult

/-- The state that a result gives to its assignment. -/
def state : BuildResult → Option AssignmentObservedState
  | .skipped => none
  | .built _ => some .ready
  | .failed _ | .routeMissing _ | .stageFailed _ => some .failed

/-- Does a result end the loop? -/
def throws : BuildResult → Bool
  | .routeMissing _ | .stageFailed _ => true
  | .skipped | .failed _ | .built _ => false

end BuildResult

section Build

variable (options : RuntimeHostAdapterOptions) (routes : JsMap JsString SharedHttpRoute)

/-- The assignments that fail until the loop ends. -/
def failedBuilds : List (Assignment × Except JsString Path) → List Assignment
  | [] => []
  | (assignment, staged) :: attempts =>
    let result := buildAssignment options routes assignment staged
    if result.throws then [assignment]
    else if result.state = some .failed then assignment :: failedBuilds attempts
    else failedBuilds attempts

variable {options routes} in
theorem mem_of_mem_failedBuilds {attempts : List (Assignment × Except JsString Path)}
    {a : Assignment} (h : a ∈ failedBuilds options routes attempts) :
    a ∈ attempts.map Prod.fst := by
  induction attempts with
  | nil => cases h
  | cons attempt attempts ih =>
    unfold failedBuilds at h
    simp only at h
    rw [List.map_cons, List.mem_cons]
    split_ifs at h
    · exact .inl (List.mem_singleton.1 h)
    · obtain rfl | h := List.mem_cons.1 h
      · exact .inl rfl
      · exact .inr (ih h)
    · exact .inr (ih h)

/-- The state that the last attempt with an id gives. -/
def lastState (id : JsString) :
    List (Assignment × Except JsString Path) → Option AssignmentObservedState
  | [] => none
  | (assignment, staged) :: attempts =>
    (lastState id attempts).or
      (if id = assignment.assignmentId then (buildAssignment options routes assignment staged).state
      else none)

variable (now : ℕ) (generationId : JsString) (states : AssignmentStates) {id : JsString}

theorem get_recordBuild_of_ne {assignmentId : JsString} (hid : id ≠ assignmentId)
    (result : BuildResult) :
    (recordBuild now generationId states assignmentId result).get id = states.get id := by
  cases result with
  | skipped => rfl
  | failed lastError => simp [recordBuild, markFailed, AssignmentStates.get_modify, hid]
  | routeMissing routeRef => simp [recordBuild, markFailed, AssignmentStates.get_modify, hid]
  | stageFailed message =>
    simp only [recordBuild]
    split_ifs
    · rfl
    · simp [markFailed, AssignmentStates.get_modify, hid]
  | built pipelines => simp [recordBuild, AssignmentStates.get_modify, hid]

theorem stateOf_recordBuild (assignmentId : JsString) (result : BuildResult) :
    (recordBuild now generationId states assignmentId result).stateOf id =
      (states.stateOf id).map fun state =>
        (if id = assignmentId then result.state else none).getD state := by
  by_cases hid : id = assignmentId
  · subst hid
    cases result with
    | skipped => simp [recordBuild, BuildResult.state]
    | failed lastError =>
      simp [recordBuild, AssignmentStates.stateOf_markFailed, BuildResult.state]
    | routeMissing routeRef =>
      simp [recordBuild, AssignmentStates.stateOf_markFailed, BuildResult.state]
    | stageFailed message =>
      simp only [recordBuild]
      split_ifs with hfailed
      · -- the failure that was recorded before stays
        cases hget : states.get id with
        | none => simp [AssignmentStates.stateOf, hget]
        | some state =>
          have hstate : state.state = .failed := by simpa [hget] using hfailed
          simp [AssignmentStates.stateOf, hget, hstate, BuildResult.state]
      · simp [AssignmentStates.stateOf_markFailed, BuildResult.state]
    | built pipelines =>
      simp [recordBuild, AssignmentStates.stateOf, AssignmentStates.get_modify, BuildResult.state,
        Function.comp_def]
  · simp [AssignmentStates.stateOf, get_recordBuild_of_ne now generationId states hid, hid,
      Function.comp_def]

theorem Documented.recordBuild {states : AssignmentStates} (h : states.Documented)
    (assignmentId : JsString) (result : BuildResult) :
    (recordBuild now generationId states assignmentId result).Documented := by
  cases result with
  | skipped => exact h
  | failed lastError => exact h.markFailed now assignmentId lastError
  | routeMissing routeRef => exact h.markFailed now assignmentId (routeRefMissing routeRef)
  | stageFailed message =>
    simp only [Hardess.recordBuild]
    split_ifs
    · exact h
    · exact h.markFailed now assignmentId (artifactPrepareFailed message)
  | built pipelines =>
    refine h.modify (fun _ hfailed => ?_)
    cases hfailed

variable {options routes} {assignment : Assignment} {staged : Except JsString Path}

/-- The loop goes on after a result that does not throw. -/
theorem buildConfig_cons (h : (buildAssignment options routes assignment staged).throws = false)
    (attempts : List (Assignment × Except JsString Path)) :
    (buildConfigFromDesiredState options routes now generationId ((assignment, staged) :: attempts)
        states).1 =
      (buildConfigFromDesiredState options routes now generationId attempts
        (recordBuild now generationId states assignment.assignmentId
          (buildAssignment options routes assignment staged))).1 ∧
    (buildConfigFromDesiredState options routes now generationId ((assignment, staged) :: attempts)
        states).2.toBool =
      (buildConfigFromDesiredState options routes now generationId attempts
        (recordBuild now generationId states assignment.assignmentId
          (buildAssignment options routes assignment staged))).2.toBool := by
  cases hresult : buildAssignment options routes assignment staged with
  | routeMissing routeRef => simp [hresult, BuildResult.throws] at h
  | stageFailed message => simp [hresult, BuildResult.throws] at h
  | skipped => simp [buildConfigFromDesiredState, hresult]
  | failed lastError => simp [buildConfigFromDesiredState, hresult]
  | built pipelines => simp [buildConfigFromDesiredState, hresult]

/-- The loop ends at a result that throws. -/
theorem buildConfig_cons_of_throws (h : (buildAssignment options routes assignment staged).throws)
    (attempts : List (Assignment × Except JsString Path)) :
    (buildConfigFromDesiredState options routes now generationId ((assignment, staged) :: attempts)
        states).1 =
      recordBuild now generationId states assignment.assignmentId
        (buildAssignment options routes assignment staged) ∧
    (buildConfigFromDesiredState options routes now generationId ((assignment, staged) :: attempts)
        states).2.toBool = false := by
  cases hresult : buildAssignment options routes assignment staged with
  | routeMissing routeRef => simp [buildConfigFromDesiredState, hresult]
  | stageFailed message => simp [buildConfigFromDesiredState, hresult]
  | skipped => simp [hresult, BuildResult.throws] at h
  | failed lastError => simp [hresult, BuildResult.throws] at h
  | built pipelines => simp [hresult, BuildResult.throws] at h

/-- After a loop that ends, the last attempt with an id has given its state. -/
theorem stateOf_buildConfig {attempts : List (Assignment × Except JsString Path)}
    (hok : (buildConfigFromDesiredState options routes now generationId attempts states).2.toBool) :
    (buildConfigFromDesiredState options routes now generationId attempts states).1.stateOf id =
      (states.stateOf id).map fun state => (lastState options routes id attempts).getD state := by
  induction attempts generalizing states with
  | nil => simp [buildConfigFromDesiredState, lastState]
  | cons attempt attempts ih =>
    obtain ⟨assignment, staged⟩ := attempt
    by_cases hthrows : (buildAssignment options routes assignment staged).throws
    · simp [(buildConfig_cons_of_throws now generationId states hthrows attempts).2] at hok
    · obtain ⟨hstates, hresult⟩ :=
        buildConfig_cons now generationId states (by simpa using hthrows) attempts
      rw [hresult] at hok
      rw [hstates, ih _ hok, stateOf_recordBuild, Option.map_map]
      congr 1
      funext state
      rw [lastState]
      cases lastState options routes id attempts <;> simp

theorem documented_buildConfig {attempts : List (Assignment × Except JsString Path)}
    (h : states.Documented) :
    (buildConfigFromDesiredState options routes now generationId attempts states).1.Documented := by
  induction attempts generalizing states with
  | nil => exact h
  | cons attempt attempts ih =>
    obtain ⟨assignment, staged⟩ := attempt
    have hrecord := Documented.recordBuild now generationId h assignment.assignmentId
      (buildAssignment options routes assignment staged)
    by_cases hthrows : (buildAssignment options routes assignment staged).throws
    · rw [(buildConfig_cons_of_throws now generationId states hthrows attempts).1]
      exact hrecord
    · rw [(buildConfig_cons now generationId states (by simpa using hthrows) attempts).1]
      exact ih _ hrecord

end Build

/-! ### The service modules -/

section Modules

variable {computeDigest : JsString → JsString → JsString → List JsString → JsString} {now : ℕ}

variable (computeDigest) in
/-- The first assignment whose service module fails to be prepared, if there is one. -/
def failedModules : List (Attempt η) → JsMap JsString JsString → List Assignment
  | [], _ => []
  | attempt :: attempts, owners =>
    if attempt.assignment.deploymentKind ≠ .serviceModule then failedModules attempts owners
    else
      match prepareAssignment computeDigest owners attempt with
      | .error _ => [attempt.assignment]
      | .ok nextModule =>
        failedModules attempts
          (owners.set nextModule.packageId attempt.assignment.assignmentId)

theorem mem_of_mem_failedModules {attempts : List (Attempt η)} {owners : JsMap JsString JsString}
    {a : Assignment} (h : a ∈ failedModules computeDigest attempts owners) :
    ∃ attempt ∈ attempts, attempt.assignment = a := by
  induction attempts generalizing owners with
  | nil => cases h
  | cons attempt attempts ih =>
    unfold failedModules at h
    split at h
    · exact List.exists_mem_cons_of_exists (ih h)
    · split at h
      · exact ⟨attempt, by simp, (List.mem_singleton.1 h).symm⟩
      · exact List.exists_mem_cons_of_exists (ih h)

/-- The third pass makes the modules it registers ready, and touches no error. -/
theorem stateOf_applyNexts {generationId : JsString} {previous : Option AssignmentStates}
    {mgr : ServiceModuleManager η} {states : AssignmentStates} {ms : List (NextModule η)}
    (h : (ServiceModuleManager.applyNexts now generationId previous mgr states ms).2.2.toBool)
    (id : JsString) :
    (ServiceModuleManager.applyNexts now generationId previous mgr states ms).2.1.stateOf id =
        ((states.stateOf id).map fun state =>
          if id ∈ ms.map (·.assignmentId) then .ready else state) ∧
      (ServiceModuleManager.applyNexts now generationId previous mgr states ms).2.1.errorOf id =
        states.errorOf id := by
  induction ms generalizing mgr states with
  | nil => simp [ServiceModuleManager.applyNexts]
  | cons m ms ih =>
    unfold ServiceModuleManager.applyNexts at h ⊢
    cases hn : mgr.applyNext now generationId previous m with
    | mk mgr' conflict =>
      cases conflict with
      | some action => simp [hn] at h
      | none =>
        simp only [hn] at h ⊢
        obtain ⟨hstate, herror⟩ := ih h
        rw [hstate, herror]
        unfold AssignmentStates.stateOf AssignmentStates.errorOf
        rw [AssignmentStates.get_modify]
        by_cases hid : id = m.assignmentId
        · cases hget : states.get id <;> simp [hid]
        · simp [hid]

theorem documented_applyNexts {generationId : JsString} {previous : Option AssignmentStates}
    {mgr : ServiceModuleManager η} {states : AssignmentStates} {ms : List (NextModule η)}
    (h : states.Documented) :
    (ServiceModuleManager.applyNexts now generationId previous mgr states ms).2.1.Documented := by
  induction ms generalizing mgr states with
  | nil => exact h
  | cons m ms ih =>
    unfold ServiceModuleManager.applyNexts
    split
    · exact h
    · refine ih (h.modify fun _ hfailed => ?_)
      cases hfailed

/-- The ids of the modules are those of the service assignments. -/
theorem mem_ids_of_modulesOf {attempts : List (Attempt η)} {ms : List (NextModule η)}
    (h : modulesOf computeDigest attempts = some ms) (id : JsString) :
    id ∈ ms.map (·.assignmentId) ↔ ∃ attempt ∈ attempts,
      attempt.assignment.deploymentKind = .serviceModule ∧ attempt.assignment.assignmentId = id := by
  have hof : ∀ (attempt : Attempt η) (m : NextModule η),
      (prepareOne computeDigest attempt).toOption = some m → m.assignment = attempt.assignment :=
    fun _ _ hm => (of_prepareOne (Except.toOption_eq_some_iff.1 hm)).2.1
  unfold modulesOf at h
  constructor
  · intro hid
    obtain ⟨m, hm, rfl⟩ := List.mem_map.1 hid
    obtain ⟨attempt, hattempt, hprepare⟩ := List.exists_of_mem_mapM h hm
    rw [List.mem_filter] at hattempt
    refine ⟨attempt, hattempt.1, by simpa using hattempt.2, ?_⟩
    rw [NextModule.assignmentId, hof attempt m hprepare]
  · rintro ⟨attempt, hattempt, hkind, rfl⟩
    obtain ⟨m, hm, hprepare⟩ := List.exists_mapM_of_mem h
      (List.mem_filter.2 ⟨hattempt, by simpa using hkind⟩)
    exact List.mem_map.2 ⟨m, hm, by rw [NextModule.assignmentId, hof attempt m hprepare]⟩

end Modules

/-! ### The adapter -/

namespace RuntimeHostAdapter

variable (platform : AdapterPlatform) (options : RuntimeHostAdapterOptions)
  (adapter : RuntimeHostAdapter η) (call : ApplyCall η)

/-- The assignments whose preparation fails until the call settles. -/
def failedAssignments : List Assignment :=
  failedBuilds options call.routesById call.httpAttempts ++
    if (buildConfig options call).2.toBool && options.managesServiceModules then
      failedModules platform.computeDigest call.serviceAttempts .empty
    else []

/-- `nextStates` when the preparation is over. -/
def preparedStates : AssignmentStates :=
  if (buildConfig options call).2.toBool then
    (prepareModules platform options call (buildConfig options call).1).1
  else (buildConfig options call).1

/-- The `lastError` that the preparation has recorded. -/
def recordedError (id : JsString) : Option AssignmentError :=
  (preparedStates platform options call).errorOf id

/-- The host reports that an assignment has failed. -/
def Reports (le : JsString → JsString → Bool) (id : JsString) (lastError : AssignmentError) :
    Prop :=
  ∃ status ∈ adapter.collectObservedHostState options le,
    status.assignmentId = id ∧ status.state = .failed ∧ status.lastError = some lastError

/-- After the call, every failure is reported with the recorded error. -/
def ReportsFailures (le : JsString → JsString → Bool) : Prop :=
  ∀ a ∈ failedAssignments platform options call,
    ∃ lastError, recordedError platform options call a.assignmentId = some lastError ∧
      (adapter.applyDesiredHostState platform options call).1.Reports options le a.assignmentId
        lastError

/-- The committed records say that an assignment has failed. -/
def Records (id : JsString) (lastError : AssignmentError) : Prop :=
  (∃ b ∈ (adapter.lastDesired.map (·.assignments)).getD [], b.assignmentId = id) ∧
    ∃ state, adapter.assignmentStates.get id = some state ∧ state.state = .failed ∧
      state.lastError = some lastError

/-- The call resolves, and no failed assignment has its id prepared after it; or it rejects,
and every failure is that of the records before the call. -/
def Reportable : Prop :=
  ∀ a ∈ failedAssignments platform options call,
    if adapter.failsAt platform options call = none then
      lastState options call.routesById a.assignmentId call.httpAttempts = some .failed ∧
        (options.managesServiceModules → ∀ b ∈ call.desired.assignments,
          b.deploymentKind = .serviceModule → b.assignmentId ≠ a.assignmentId)
    else
      ∃ lastError, recordedError platform options call a.assignmentId = some lastError ∧
        adapter.Records a.assignmentId lastError

variable {platform options adapter call}

theorem mem_foldl_addDraining {draining statuses : List AssignmentStatus}
    (hdraining : ∀ d ∈ draining, d.state = .draining) {status : AssignmentStatus}
    (hfailed : status.state = .failed) :
    status ∈ draining.foldl addDraining statuses ↔ status ∈ statuses := by
  induction draining generalizing statuses with
  | nil => rfl
  | cons d draining ih =>
    rw [List.forall_mem_cons] at hdraining
    rw [List.foldl_cons, ih hdraining.2]
    unfold addDraining
    split_ifs
    · rfl
    · have hne : status ≠ d := by
        rintro rfl
        simp [hfailed] at hdraining
      simp [hne]

/-- The failures that are reported are those of the committed records. -/
theorem reports_iff {le : JsString → JsString → Bool} {id : JsString}
    {lastError : AssignmentError} :
    adapter.Reports options le id lastError ↔ adapter.Records id lastError := by
  have hdraining : ∀ d ∈ (if options.managesServiceModules then
      listDrainingAssignments le adapter.manager else []), d.state = .draining := by
    intro d hd
    split_ifs at hd
    · obtain ⟨m, -, rfl⟩ := List.mem_map.1 hd
      rfl
    · cases hd
  unfold Reports collectObservedHostState
  constructor
  · rintro ⟨status, hstatus, rfl, hfailed, herror⟩
    rw [mem_foldl_addDraining hdraining hfailed] at hstatus
    obtain ⟨b, hb, rfl⟩ := List.mem_map.1 hstatus
    refine ⟨⟨b, hb, rfl⟩, ?_⟩
    unfold statusOf at hfailed herror ⊢
    cases hget : adapter.assignmentStates.get b.assignmentId with
    | none => simp [hget] at hfailed
    | some state => exact ⟨state, rfl, by simpa [hget] using hfailed, by simpa [hget] using herror⟩
  · rintro ⟨⟨b, hb, rfl⟩, state, hget, hfailed, herror⟩
    refine ⟨statusOf adapter.assignmentStates b, ?_, rfl, ?_, ?_⟩
    · rw [mem_foldl_addDraining hdraining]
      · exact List.mem_map_of_mem hb
      · simp [statusOf, hget, hfailed]
    · simp [statusOf, hget, hfailed]
    · simp [statusOf, hget, herror]

theorem get_activateStates (now : ℕ) (states : AssignmentStates) (id : JsString) :
    (activateStates now states).get id = (states.get id).map (activateState now) :=
  JsMap.get_mapValues states (activateState now) id

/-- At the start of a call every assignment is preparing. -/
theorem stateOf_preparingStates (id : JsString) :
    call.preparingStates.stateOf id =
      if ∃ a ∈ call.desired.assignments, a.assignmentId = id then some .preparing else none := by
  have loop : ∀ (assignments : List Assignment) (states : AssignmentStates),
      (assignments.foldl (fun states a => states.set a.assignmentId
        { deploymentId := a.deploymentId
          declaredVersion := a.declaredVersion
          state := .preparing
          generationId := some call.revisionGenerationId }) states).stateOf id =
        if ∃ a ∈ assignments, a.assignmentId = id then some .preparing else states.stateOf id := by
    intro assignments
    induction assignments with
    | nil => simp
    | cons a assignments ih =>
      intro states
      rw [List.foldl_cons, ih]
      by_cases hid : a.assignmentId = id
      · simp [AssignmentStates.stateOf, hid]
      · simp [AssignmentStates.stateOf, JsMap.get_set, hid, Ne.symm hid]
  exact loop call.desired.assignments .empty

theorem documented_preparingStates : call.preparingStates.Documented := by
  intro id state hget hfailed
  have hstate := @stateOf_preparingStates _ call id
  simp only [AssignmentStates.stateOf, hget, Option.map_some, hfailed] at hstate
  split_ifs at hstate
  cases hstate

theorem map_fst_httpAttempts : call.httpAttempts.map Prod.fst = call.desired.assignments := by
  simp [ApplyCall.httpAttempts, Function.comp_def, List.zipIdx_map_fst]

theorem map_assignment_serviceAttempts :
    call.serviceAttempts.map (·.assignment) = call.desired.assignments := by
  simp [ApplyCall.serviceAttempts, Function.comp_def, List.zipIdx_map_fst]

theorem mem_of_mem_failedAssignments {a : Assignment}
    (h : a ∈ failedAssignments platform options call) : a ∈ call.desired.assignments := by
  unfold failedAssignments at h
  rw [List.mem_append] at h
  obtain h | h := h
  · rw [← map_fst_httpAttempts]
    exact mem_of_mem_failedBuilds h
  · split_ifs at h
    · obtain ⟨attempt, hattempt, rfl⟩ := mem_of_mem_failedModules h
      rw [← map_assignment_serviceAttempts]
      exact List.mem_map_of_mem hattempt
    · cases h

/-- A call that resolves has built its configuration and applied its modules. -/
theorem of_failsAt_eq_none (h : adapter.failsAt platform options call = none) :
    (buildConfig options call).2.toBool = true ∧
      (prepareModules platform options call (buildConfig options call).1).2.toBool = true ∧
      (adapter.applyModules platform options call (buildConfig options call).1).2.2.toBool =
        true := by
  unfold failsAt at h
  cases hb : buildConfig options call with
  | mk states result =>
    cases result with
    | error message => simp [hb] at h
    | ok pipelines =>
      simp only [hb, failsAfterBuild] at h
      split_ifs at h with hp hm
      exact ⟨rfl, by simpa using hp, by simpa using hm⟩

/-- The records of a call that resolves. -/
theorem stateOf_resolved (h : adapter.failsAt platform options call = none) (id : JsString) :
    (adapter.applyModules platform options call (buildConfig options call).1).2.1.stateOf id =
        ((call.preparingStates.stateOf id).map fun state =>
          if options.managesServiceModules ∧ ∃ b ∈ call.desired.assignments,
            b.deploymentKind = .serviceModule ∧ b.assignmentId = id then .ready
          else (lastState options call.routesById id call.httpAttempts).getD state) ∧
      (adapter.applyModules platform options call (buildConfig options call).1).2.1.errorOf id =
        recordedError platform options call id ∧
      (adapter.applyModules platform options call (buildConfig options call).1).2.1.Documented := by
  obtain ⟨hbuilt, hprepared, happlied⟩ := of_failsAt_eq_none h
  have hstate : (buildConfig options call).1.stateOf id = (call.preparingStates.stateOf id).map
      fun state => (lastState options call.routesById id call.httpAttempts).getD state :=
    stateOf_buildConfig call.now call.revisionGenerationId call.preparingStates hbuilt
  have hdocumented : (buildConfig options call).1.Documented :=
    documented_buildConfig call.now call.revisionGenerationId _ documented_preparingStates
  unfold recordedError preparedStates
  rw [if_pos hbuilt]
  by_cases hm : options.managesServiceModules = true
  · obtain ⟨states', message, hfails, -⟩ | ⟨ms, hprepare, hmodules, happlies⟩ :=
      @applyModules_cases _ platform _ hm adapter call (buildConfig options call).1
    · rw [hfails] at hprepared
      cases hprepared
    · rw [happlies] at happlied ⊢
      rw [hprepare]
      obtain ⟨hnext, herror⟩ := stateOf_applyNexts happlied id
      refine ⟨?_, herror, documented_applyNexts hdocumented⟩
      -- the modules that are prepared are those of the assignments
      have hids : id ∈ ms.map (·.assignmentId) ↔ ∃ b ∈ call.desired.assignments,
          b.deploymentKind = .serviceModule ∧ b.assignmentId = id := by
        rw [mem_ids_of_modulesOf hmodules, ← map_assignment_serviceAttempts]
        simp
      unfold ServiceModuleManager.applyPrepared
      rw [hnext, hstate, Option.map_map]
      simp only [hids, hm, true_and, Function.comp_def]
  · rw [prepareModules, applyModules, if_neg hm, if_neg hm]
    exact ⟨by simpa [hm] using hstate, rfl, hdocumented⟩

theorem records_stoppedAt (step : ApplyStep) {id : JsString} {lastError : AssignmentError} :
    (adapter.stoppedAt platform options call step).Records id lastError ↔
      adapter.Records id lastError := by
  cases step <;> rfl

/-- **Every assignment failure is reported** exactly when the call resolves and nothing of the
same id is prepared after the failure, or the failure was reported before the call. -/
theorem reportsFailures_iff (platform : AdapterPlatform) (options : RuntimeHostAdapterOptions)
    (adapter : RuntimeHostAdapter η) (call : ApplyCall η) (le : JsString → JsString → Bool) :
    adapter.ReportsFailures platform options call le ↔
      adapter.Reportable platform options call := by
  refine forall₂_congr fun a ha => ?_
  rw [applyDesiredHostState_eq]
  simp only [reports_iff]
  cases hfails : adapter.failsAt platform options call with
  | some step => simp [records_stoppedAt]
  | none =>
    have hmem := mem_of_mem_failedAssignments ha
    obtain ⟨hstate, herror, hdocumented⟩ := stateOf_resolved hfails a.assignmentId
    rw [stateOf_preparingStates, if_pos ⟨a, hmem, rfl⟩] at hstate
    simp only [Option.elim_none, Records, resolved, get_activateStates, Option.map_some,
      Option.getD_some, if_true]
    rw [← herror]
    generalize (adapter.applyModules platform options call (buildConfig options call).1).2.1 =
      states at hstate hdocumented
    -- after the call the record is the one that the modules have left, if it has failed
    trans states.stateOf a.assignmentId = some .failed
    · unfold AssignmentStates.stateOf AssignmentStates.errorOf
      cases hget : states.get a.assignmentId with
      | none => simp
      | some state =>
        have herr := hdocumented _ state hget
        constructor
        · rintro ⟨lastError, -, -, state', hstate', hfailed, -⟩
          obtain rfl := Option.some.inj hstate'
          rw [activateState] at hfailed
          split_ifs at hfailed
          exact congrArg some hfailed
        · intro h
          have hfailed : state.state = .failed := by simpa using h
          obtain ⟨lastError, hlast⟩ := Option.ne_none_iff_exists'.1 (herr hfailed)
          -- a failed record is not activated
          have hready : ¬state.state = .ready := by simp [hfailed]
          refine ⟨lastError, hlast, ⟨a, hmem, rfl⟩, state, ?_, hfailed, hlast⟩
          simp [activateState, hready]
    · rw [hstate, Option.map_some, Option.some.injEq]
      -- a module of the same id overwrites the failure with `ready`
      split_ifs with hmodule
      · obtain ⟨hm, b, hb, hkind, hid⟩ := hmodule
        simpa [hm] using fun _ => ⟨b, hb, hkind, hid⟩
      · have hclear : options.managesServiceModules → ∀ b ∈ call.desired.assignments,
            b.deploymentKind = .serviceModule → b.assignmentId ≠ a.assignmentId :=
          fun hm b hb hkind hid => hmodule ⟨hm, b, hb, hkind, hid⟩
        rw [and_iff_left hclear]
        cases lastState options call.routesById a.assignmentId call.httpAttempts <;> simp

/-! ### A failure that rejects the call -/

/-- An assignment of a worker for one route. -/
def workerAssignment : Assignment where
  assignmentId := js "a1"
  hostId := js "h1"
  deploymentId := js "d1"
  deploymentKind := .httpWorker
  declaredVersion := js "1"
  artifact := { manifestId := js "m1", sourceUri := js "https://host/worker.ts" }
  httpWorker := some { entry := js "worker.ts", routeRefs := some [js "r1"] }

/-- A call with this assignment, which stages, and without the route. -/
def routelessCall : ApplyCall ℕ where
  desired := { hostId := js "h1", revision := js "r", assignments := [workerAssignment] }
  staged := fun _ => .ok [js "srv", js "worker.ts"]
  loaded := fun _ => .error []
  configListenersReturn := true
  topologyListenersReturn := true
  now := 0

/-- The missing route is recorded and thrown, and nothing is reported. -/
theorem not_reportsFailures_routelessCall :
    ¬(fresh : RuntimeHostAdapter ℕ).ReportsFailures hostPlatform hostOptions routelessCall
      fun _ _ => true := by
  intro h
  have hfailed : (failedAssignments hostPlatform hostOptions routelessCall).map (·.assignmentId) =
      [js "a1"] := by
    decide +kernel
  have hnone : ((fresh : RuntimeHostAdapter ℕ).applyDesiredHostState hostPlatform hostOptions
      routelessCall).1.collectObservedHostState hostOptions (fun _ _ => true) = [] := by
    decide +kernel
  have hmem : js "a1" ∈ (failedAssignments hostPlatform hostOptions routelessCall).map
      (·.assignmentId) := by
    simp [hfailed]
  obtain ⟨a, ha, -⟩ := List.mem_map.1 hmem
  obtain ⟨lastError, -, status, hstatus, -⟩ := h a ha
  rw [hnone] at hstatus
  cases hstatus

end RuntimeHostAdapter

end Hardess

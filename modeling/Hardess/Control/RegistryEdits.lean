import Hardess.Control.ServiceModuleManager
import Hardess.Lib.KeyEdits

/-!
# What a call of the manager does to the registry

The passes of `applyAssignments` unregister protocol versions and register actions. What they are
going to do follows from the modules and from the manager's own maps; the registry only decides how
far the third pass gets.

* `removedEdits`, `conflictEdits` and `nextEdits` are the edits of the three passes, `edits` those of
  a call;
* `get_applyPrepared`: the registry that a call leaves is what the edits make of the one before the
  call, up to the first action that is taken;
* **`applyPrepared_restores_iff`**: a call leaves the registry as it was exactly when the last of
  these edits of every key gives the key the hooks it had.
-/

namespace Hardess

open KeyEdits

variable {η : Type}

/-- An edit of the registry. -/
abbrev RegistryEdit (η : Type) := Edit JsString η

/-- The edit of `unregister`. -/
def unregisterEdit (protocol version : JsString) : RegistryEdit η :=
  .drop fun key => (keyPrefix protocol version).isPrefixOf key

/-- The edits of `replace`. -/
def replaceEdits (module : ServerProtocolModule η) : List (RegistryEdit η) :=
  unregisterEdit module.protocol module.version ::
    module.actions.entries.map fun e => .put (keyOf module.protocol module.version e.1) e.2

/-- The edits of `register`, which stop at an action that is taken. -/
def registerEdits (module : ServerProtocolModule η) : List (RegistryEdit η) :=
  module.actions.entries.map fun e => .claim (keyOf module.protocol module.version e.1) e.2

/-! ### The registry -/

namespace ServerProtocolRegistry

variable {registry : ServerProtocolRegistry η} {module : ServerProtocolModule η}

theorem apply_unregister (protocol version : JsString) :
    (registry.unregister protocol version).actions.get =
      (unregisterEdit protocol version).apply registry.actions.get := by
  funext key
  rw [get_unregister, Edit.apply, unregisterEdit, Edit.leaves]
  simp only [List.isPrefixOf_iff_prefix]
  split_ifs <;> rfl

theorem get_set_eq (actions : JsMap JsString η) (key : JsString) (hooks : η) :
    (actions.set key hooks).get = (Edit.put key hooks).apply actions.get := by
  funext key'
  rw [JsMap.get_set, Edit.apply, Edit.leaves]
  split_ifs <;> rfl

theorem get_replace : (registry.replace module).actions.get =
    makes registry.actions.get (replaceEdits module) := by
  rw [replaceEdits, makes_cons, ← apply_unregister]
  unfold replace
  generalize (registry.unregister module.protocol module.version).actions = actions
  generalize module.actions.entries = entries
  induction entries generalizing actions with
  | nil => rfl
  | cons e entries ih =>
    rw [List.foldl_cons, ih, get_set_eq]
    rfl

/-- Registering a module executes its edits, and throws when they do not all take place. -/
theorem get_register : (registry.register module).1.actions.get =
      makes registry.actions.get (executed registry.actions.get (registerEdits module)) ∧
    ((registry.register module).2 = none ↔
      executed registry.actions.get (registerEdits module) = registerEdits module) := by
  unfold register registerEdits
  dsimp only
  generalize registry.actions = actions
  generalize module.actions.entries = entries
  induction entries generalizing actions with
  | nil => exact ⟨rfl, iff_of_true rfl rfl⟩
  | cons e entries ih =>
    have hset : (Edit.claim (keyOf module.protocol module.version e.1) e.2).apply actions.get =
        (actions.set (keyOf module.protocol module.version e.1) e.2).get := (get_set_eq ..).symm
    have hblocked : (Edit.claim (keyOf module.protocol module.version e.1) e.2).blocked
        actions.get = actions.has (keyOf module.protocol module.version e.1) := rfl
    rw [registerEntries, List.map_cons, executed, hblocked, hset]
    split_ifs
    · exact ⟨rfl, iff_of_false (by simp) (by simp)⟩
    · obtain ⟨hget, hnone⟩ := ih (actions.set (keyOf module.protocol module.version e.1) e.2)
      rw [makes_cons, hset, hnone, List.cons.injEq]
      exact ⟨hget, (and_iff_right rfl).symm⟩

end ServerProtocolRegistry

/-! ### The passes -/

namespace ServiceModuleManager

variable (mgr : ServiceModuleManager η) (drains : Bool) (now : ℕ) (generationId : JsString)
  (previous : Option AssignmentStates)

/-- The edit that takes the actions of a module away, if there is one. -/
def dropEdits (a : Option (ActiveServiceModule η)) : List (RegistryEdit η) :=
  a.toList.map fun a => unregisterEdit a.protocol a.version

/-- The edits of the first pass: without a grace period the modules that are not assigned any more
are unregistered. -/
def removedEdits (nextAssignmentIds : List JsString) : List (RegistryEdit η) :=
  (mgr.activeByAssignmentId.entries.filter fun e => e.1 ∉ nextAssignmentIds ∧ drains = false).map
    fun e => unregisterEdit e.2.protocol e.2.version

/-- The edits of one turn of the second pass: a draining module whose protocol version another
assignment wants is unregistered. -/
def conflictEdit (nextModule : NextModule η) : List (RegistryEdit η) :=
  match mgr.findDrainingByProtocolVersion nextModule.protocol nextModule.version with
  | none => []
  | some conflict =>
    if conflict.assignmentId ≠ nextModule.assignmentId then
      dropEdits ((mgr.drainingByAssignmentId.get conflict.assignmentId).map
        (·.toActiveServiceModule))
    else []

/-- The edits of the second pass. -/
def conflictEdits : ServiceModuleManager η → List (NextModule η) → List (RegistryEdit η)
  | _, [] => []
  | mgr, nextModule :: nextModules =>
    mgr.conflictEdit nextModule ++ conflictEdits (mgr.dropConflict nextModule) nextModules

/-- The edits of one turn of the third pass: a module takes the place of one of its protocol
version, or those of its assignment are unregistered and it is registered. -/
def nextEdit (current draining : Option (ActiveServiceModule η)) (nextModule : NextModule η) :
    List (RegistryEdit η) :=
  if sameProtocolVersion current nextModule || sameProtocolVersion draining nextModule then
    replaceEdits nextModule.module
  else dropEdits current ++ (dropEdits draining ++ registerEdits nextModule.module)

/-- The edits of the third pass, from the active and the draining modules. -/
def nextEdits : JsMap JsString (ActiveServiceModule η) → JsMap JsString (DrainingServiceModule η) →
    List (NextModule η) → List (RegistryEdit η)
  | _, _, [] => []
  | active, draining, nextModule :: nextModules =>
    nextEdit (active.get nextModule.assignmentId)
        ((draining.get nextModule.assignmentId).map (·.toActiveServiceModule)) nextModule ++
      nextEdits
        (active.set nextModule.assignmentId (activate now generationId previous nextModule))
        (draining.delete nextModule.assignmentId) nextModules

/-- The manager when the first two passes are over. -/
def afterDrops (nextModules : List (NextModule η)) : ServiceModuleManager η :=
  (mgr.drainRemoved drains previous (nextModules.map (·.assignmentId))).dropConflicts nextModules

/-- The edits of a call with these modules. -/
def edits (nextModules : List (NextModule η)) : List (RegistryEdit η) :=
  mgr.removedEdits drains (nextModules.map (·.assignmentId)) ++
    (conflictEdits (mgr.drainRemoved drains previous (nextModules.map (·.assignmentId)))
        nextModules ++
      nextEdits now generationId previous
        (mgr.afterDrops drains previous nextModules).activeByAssignmentId
        (mgr.afterDrops drains previous nextModules).drainingByAssignmentId nextModules)

variable {mgr drains now generationId previous}

/-- The registry without the actions of a module. -/
def without (registry : ServerProtocolRegistry η) (a : Option (ActiveServiceModule η)) :
    ServerProtocolRegistry η :=
  a.elim registry fun a => registry.unregister a.protocol a.version

theorem get_without (registry : ServerProtocolRegistry η) (a : Option (ActiveServiceModule η)) :
    (without registry a).actions.get = makes registry.actions.get (dropEdits a) := by
  cases a with
  | none => rfl
  | some a => exact ServerProtocolRegistry.apply_unregister a.protocol a.version

/-- Edits that drop keys all take place. -/
theorem executed_of_drops {store : JsString → Option η} {es : List (RegistryEdit η)}
    (h : ∀ e ∈ es, ∃ protocol version, e = unregisterEdit protocol version) :
    executed store es = es := by
  refine executed_of_free fun e he store => ?_
  obtain ⟨protocol, version, rfl⟩ := h e he
  rfl

theorem executed_dropEdits {store : JsString → Option η} (a : Option (ActiveServiceModule η)) :
    executed store (dropEdits a) = dropEdits a := by
  refine executed_of_drops fun e he => ?_
  obtain ⟨a, -, rfl⟩ := List.mem_map.1 he
  exact ⟨_, _, rfl⟩

theorem executed_replaceEdits {store : JsString → Option η} (module : ServerProtocolModule η) :
    executed store (replaceEdits module) = replaceEdits module := by
  refine executed_of_free fun e he store => ?_
  rcases List.mem_cons.1 he with rfl | he
  · rfl
  · obtain ⟨e, -, rfl⟩ := List.mem_map.1 he
    rfl

/-- One turn of the third pass executes its edits. -/
theorem get_registerNext (registry : ServerProtocolRegistry η)
    (current draining : Option (ActiveServiceModule η)) (m : NextModule η) :
    (registerNext registry current draining m).1.actions.get =
        makes registry.actions.get (executed registry.actions.get (nextEdit current draining m)) ∧
      ((registerNext registry current draining m).2 = none ↔
        executed registry.actions.get (nextEdit current draining m) =
          nextEdit current draining m) := by
  by_cases hsame : (sameProtocolVersion current m || sameProtocolVersion draining m) = true
  · rw [nextEdit, if_pos hsame, executed_replaceEdits, registerNext, if_pos hsame]
    exact ⟨ServerProtocolRegistry.get_replace, iff_of_true rfl rfl⟩
  · have hregister : registerNext registry current draining m =
        (without (without registry current) draining).register m.module := by
      rw [registerNext, if_neg hsame]
      cases current <;> cases draining <;> rfl
    -- The drops take place; the module is registered in what they leave.
    rw [hregister, nextEdit, if_neg hsame, executed_append (executed_dropEdits current),
      executed_append (executed_dropEdits draining), makes_append, makes_append, ← get_without,
      ← get_without, List.append_cancel_left_eq, List.append_cancel_left_eq]
    exact ServerProtocolRegistry.get_register

/-- The third pass executes its edits, up to the first action that is taken. -/
theorem handlers_applyNexts (ms : List (NextModule η)) (states : AssignmentStates) :
    (applyNexts now generationId previous mgr states ms).1.registry.actions.get =
        makes mgr.registry.actions.get (executed mgr.registry.actions.get
          (nextEdits now generationId previous mgr.activeByAssignmentId mgr.drainingByAssignmentId
            ms)) := by
  induction ms generalizing mgr states with
  | nil => rfl
  | cons m ms ih =>
    obtain ⟨hget, hnone⟩ := get_registerNext mgr.registry
      (mgr.activeByAssignmentId.get m.assignmentId)
      ((mgr.drainingByAssignmentId.get m.assignmentId).map (·.toActiveServiceModule)) m
    unfold applyNexts applyNext cancelDraining
    dsimp only
    rw [nextEdits]
    generalize registerNext mgr.registry (mgr.activeByAssignmentId.get m.assignmentId)
      ((mgr.drainingByAssignmentId.get m.assignmentId).map (·.toActiveServiceModule)) m = r at *
    obtain ⟨registry, conflict⟩ := r
    cases conflict with
    | some action =>
      have hstops := mt hnone.2 (by simp)
      rw [executed_append_of_ne hstops]
      exact hget
    | none =>
      have hall := hnone.1 rfl
      rw [hall] at hget
      rw [executed_append hall, makes_append, ← hget]
      exact ih _

/-- The first pass executes its edits. -/
theorem get_drainRemoved (nextAssignmentIds : List JsString) :
    (mgr.drainRemoved drains previous nextAssignmentIds).registry.actions.get =
      makes mgr.registry.actions.get (mgr.removedEdits drains nextAssignmentIds) := by
  unfold drainRemoved removedEdits
  generalize mgr.activeByAssignmentId.entries = entries
  induction entries generalizing mgr with
  | nil => rfl
  | cons e entries ih =>
    rw [List.foldl_cons, ih]
    unfold drainIfRemoved beginDraining
    by_cases he : e.1 ∈ nextAssignmentIds
    · simp [he]
    · cases drains with
      | true =>
        rw [if_neg he]
        simp
      | false =>
        rw [if_neg he, List.filter_cons_of_pos (by simpa using he), List.map_cons, makes_cons,
          ← ServerProtocolRegistry.apply_unregister]
        rfl

/-- The second pass executes its edits. -/
theorem get_dropConflicts (ms : List (NextModule η)) :
    (mgr.dropConflicts ms).registry.actions.get =
      makes mgr.registry.actions.get (mgr.conflictEdits ms) := by
  induction ms generalizing mgr with
  | nil => rfl
  | cons m ms ih =>
    have hdrop : (mgr.dropConflict m).registry.actions.get =
        makes mgr.registry.actions.get (mgr.conflictEdit m) := by
      unfold dropConflict conflictEdit
      cases mgr.findDrainingByProtocolVersion m.protocol m.version with
      | none => rfl
      | some conflict =>
        dsimp only
        split_ifs
        · unfold forceUnregisterDraining cancelDraining
          cases mgr.drainingByAssignmentId.get conflict.assignmentId with
          | none => rfl
          | some draining => exact ServerProtocolRegistry.apply_unregister _ _
        · rfl
    have htail : mgr.dropConflicts (m :: ms) = (mgr.dropConflict m).dropConflicts ms := rfl
    rw [htail, ih, conflictEdits, makes_append, hdrop]

theorem executed_removedEdits {store : JsString → Option η} (ids : List JsString) :
    executed store (mgr.removedEdits drains ids) = mgr.removedEdits drains ids := by
  refine executed_of_drops fun e he => ?_
  obtain ⟨e, -, rfl⟩ := List.mem_map.1 he
  exact ⟨_, _, rfl⟩

theorem executed_conflictEdits {store : JsString → Option η} (ms : List (NextModule η)) :
    executed store (mgr.conflictEdits ms) = mgr.conflictEdits ms := by
  induction ms generalizing mgr store with
  | nil => rfl
  | cons m ms ih =>
    have hone : executed store (mgr.conflictEdit m) = mgr.conflictEdit m := by
      unfold conflictEdit
      split
      · rfl
      · split_ifs
        · exact executed_dropEdits _
        · rfl
    rw [conflictEdits, executed_append hone, ih]

/-- The registry that a call leaves: its edits take place up to the first action that is taken. -/
theorem get_applyPrepared (input : ApplyInput η) (states : AssignmentStates)
    (ms : List (NextModule η)) :
    (mgr.applyPrepared drains input states ms).1.registry.actions.get =
      makes mgr.registry.actions.get (executed mgr.registry.actions.get
        (mgr.edits drains input.now input.revisionGenerationId input.previousAssignmentStates
          ms)) := by
  unfold applyPrepared edits
  rw [handlers_applyNexts, executed_append (executed_removedEdits _),
    executed_append (executed_conflictEdits _), makes_append, makes_append, ← get_drainRemoved,
    ← get_dropConflicts]
  rfl

/-- **A call leaves the registry as it was** exactly when the last of its edits of every key gives
the key the hooks it had. -/
theorem applyPrepared_restores_iff (input : ApplyInput η) (states : AssignmentStates)
    (ms : List (NextModule η)) :
    (∀ key, (mgr.applyPrepared drains input states ms).1.registry.actions.get key =
        mgr.registry.actions.get key) ↔
      Restores mgr.registry.actions.get (executed mgr.registry.actions.get
        (mgr.edits drains input.now input.revisionGenerationId input.previousAssignmentStates
          ms)) := by
  rw [get_applyPrepared]
  exact makes_eq_iff

end ServiceModuleManager

end Hardess

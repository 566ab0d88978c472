import Hardess.Control.StagedDigest
import Hardess.Workers.WorkerRuntime

/-!
# Staged workers

What a file operation does to the entry of a staged worker, and where the entries of a built
configuration come from.

* `FileOp.Keeps`: an operation leaves the code of a worker at its entry;
* `staged_of_mem_built`: the entry of a pipeline is what staging gave for an assignment with routes.
-/

namespace Hardess

open Posix (Path)

/-! ### Operations that keep a worker -/

namespace FileOp

/-- If an operation touches the entry of a worker, it leaves the code of the worker there. -/
def Keeps (op : FileOp) (w : StagedWorker) : Prop := op.touches w.entry → op.leaves = w.code

instance (op : FileOp) (w : StagedWorker) : Decidable (op.Keeps w) :=
  inferInstanceAs (Decidable (_ → _))

theorem Keeps.content {op : FileOp} {w : StagedWorker} (h : op.Keeps w)
    (digest : Option JsString) {files : Files} (hw : files.content w.entry = w.code) :
    (op.apply digest files).content w.entry = w.code := by
  rw [content_apply]
  split_ifs with ht
  · exact h ht
  · exact hw

end FileOp

/-! ### The workers of a built configuration -/

section built

variable {options : RuntimeHostAdapterOptions} {routes : JsMap JsString SharedHttpRoute}

theorem resolveRoutes_nil {found : List SharedHttpRoute}
    (h : resolveRoutes routes [] = .ok found) : found = [] := by
  cases h
  rfl

/-- The pipelines of one assignment have the entry that staging gave for it. -/
theorem staged_of_mem_buildAssignment {assignment : Assignment} {staged : Except JsString Path}
    {pipelines : List PipelineConfig} {entry : Path}
    (h : buildAssignment options routes assignment staged = .built pipelines)
    (he : entry ∈ workerEntries pipelines) : staged = .ok entry ∧ hasRoutes assignment := by
  unfold buildAssignment at h
  split_ifs at h
  cases hx : httpExecutable assignment with
  | none => simp [hx] at h
  | some executable =>
    simp only [hx] at h
    obtain ⟨pipeline, hp, worker, hworker, rfl⟩ := mem_workerEntries.1 he
    cases hprepared : (if isExternalServe assignment executable = true then .ok none
        else staged.map some : Except JsString (Option Path)) with
    | error message => simp [hprepared] at h
    | ok prepared =>
      simp only [hprepared] at h
      cases hfound : resolveRoutes routes (executable.routeRefs.getD []) with
      | error routeRef => simp [hfound] at h
      | ok found =>
        simp only [hfound] at h
        cases h
        obtain ⟨route, hroute, rfl⟩ := List.mem_map.1 hp
        obtain ⟨localEntry, rfl, rfl⟩ := Option.map_eq_some_iff.1 hworker
        refine ⟨?_, ?_⟩
        · split_ifs at hprepared
          · cases hprepared
          · cases staged with
            | error message => cases hprepared
            | ok localEntry' =>
              cases hprepared
              rfl
        · -- without references there is no pipeline
          have hrefs : executable.routeRefs.getD [] ≠ [] := by
            intro hrefs
            rw [hrefs] at hfound
            rw [resolveRoutes_nil hfound] at hroute
            cases hroute
          simpa [hasRoutes, hx] using hrefs

/-- The entry of a pipeline was staged for an assignment with routes. -/
theorem staged_of_mem_built {now : ℕ} {generationId : JsString} {entry : Path}
    {attempts : List (Assignment × Except JsString Path)} {states : AssignmentStates}
    {pipelines : List PipelineConfig}
    (h : (buildConfigFromDesiredState options routes now generationId attempts states).2 =
      .ok pipelines)
    (he : entry ∈ workerEntries pipelines) :
    ∃ a ∈ attempts, a.2 = .ok entry ∧ hasRoutes a.1 := by
  induction attempts generalizing states pipelines with
  | nil =>
    cases h
    simp [workerEntries] at he
  | cons attempt attempts ih =>
    obtain ⟨assignment, staged⟩ := attempt
    simp only [buildConfigFromDesiredState] at h
    cases hresult : buildAssignment options routes assignment staged with
    | routeMissing routeRef => simp [hresult] at h
    | stageFailed message => simp [hresult] at h
    | skipped =>
      simp only [hresult] at h
      obtain ⟨a, ha, hstaged⟩ := ih h he
      exact ⟨a, List.mem_cons_of_mem _ ha, hstaged⟩
    | failed lastError =>
      simp only [hresult] at h
      obtain ⟨a, ha, hstaged⟩ := ih h he
      exact ⟨a, List.mem_cons_of_mem _ ha, hstaged⟩
    | built built =>
      simp only [hresult] at h
      cases hrest : (buildConfigFromDesiredState options routes now generationId attempts
          (recordBuild now generationId states assignment.assignmentId (.built built))).2 with
      | error message =>
        rw [hrest] at h
        cases h
      | ok rest =>
        rw [hrest] at h
        cases h
        -- the entry is of this assignment, or of one behind it
        rw [workerEntries_append] at he
        obtain he | he := List.mem_append.1 he
        · exact ⟨_, List.mem_cons_self, staged_of_mem_buildAssignment hresult he⟩
        · obtain ⟨a, ha, hstaged⟩ := ih hrest he
          exact ⟨a, List.mem_cons_of_mem _ ha, hstaged⟩

end built

end Hardess

import Hardess.Control.StagePlans

/-!
# Where a staging works

A staging call works below the directory of its manifest id when the id names one
(`SafeId`) and no reference of the request climbs out of it (`SafeRefs`). References are
joined as they are, so `../x` is followed; ids lose their slashes but keep their dots, and
different ids may be sanitized to one name.
-/

namespace Hardess

open Posix (Path Relative)

/-! ### Sanitized ids -/

theorem keepsUnit_of_mem_sanitizeUnits {replaced : Bool} {s : JsString} {u : UInt16}
    (h : u ∈ sanitizeUnits replaced s) : keepsUnit u := by
  induction s generalizing replaced with
  | nil => simp [sanitizeUnits] at h
  | cons v s ih =>
    unfold sanitizeUnits at h
    split_ifs at h with hv
    · obtain rfl | h := List.mem_cons.1 h
      exacts [hv, ih h]
    · exact ih h
    · obtain rfl | h := List.mem_cons.1 h
      exacts [by decide, ih h]

/-- A sanitized id is one segment. -/
theorem slash_notMem_sanitizePathSegment (id : JsString) :
    unit '/' ∉ sanitizePathSegment id := by
  intro h
  have := keepsUnit_of_mem_sanitizeUnits h
  revert this
  decide

theorem sanitizePathSegment_eq_nil {id : JsString} : sanitizePathSegment id = [] ↔ id = [] := by
  cases id with
  | nil => simp [sanitizePathSegment, sanitizeUnits]
  | cons u id =>
    cases hu : keepsUnit u <;> simp [sanitizePathSegment, sanitizeUnits, hu]

/-- Only a text that is a dot first can be sanitized to one. -/
theorem sanitizePathSegment_eq_dot_cons {id rest : JsString} :
    sanitizePathSegment id = unit '.' :: rest ↔
      ∃ id', id = unit '.' :: id' ∧ sanitizePathSegment id' = rest := by
  cases id with
  | nil => simp [sanitizePathSegment, sanitizeUnits]
  | cons u id =>
    by_cases hu : keepsUnit u
    · simp [sanitizePathSegment, sanitizeUnits, hu, eq_comm]
    · have hdot : u ≠ unit '.' := by
        rintro rfl
        exact hu (by decide)
      have hline : unit '_' ≠ unit '.' := by decide
      simp [sanitizePathSegment, sanitizeUnits, hu, hdot, hline]

theorem sanitizePathSegment_eq_dot {id : JsString} :
    sanitizePathSegment id = js "." ↔ id = js "." := by
  have hdot : js "." = [unit '.'] := by decide
  rw [hdot, sanitizePathSegment_eq_dot_cons]
  simp [sanitizePathSegment_eq_nil]

theorem sanitizePathSegment_eq_dots {id : JsString} :
    sanitizePathSegment id = js ".." ↔ id = js ".." := by
  have hdots : js ".." = unit '.' :: js "." := by decide
  rw [hdots, sanitizePathSegment_eq_dot_cons]
  simp [sanitizePathSegment_eq_dot]

/-- A manifest id that names a directory. -/
def SafeId (manifestId : JsString) : Prop :=
  manifestId ≠ [] ∧ manifestId ≠ js "." ∧ manifestId ≠ js ".."

namespace ArtifactStore

variable {store : ArtifactStore}

theorem artifactDir_of_safeId {id : JsString} (h : SafeId id) :
    store.artifactDir id = store.rootDir ++ [sanitizePathSegment id] :=
  Posix.join_name _ (slash_notMem_sanitizePathSegment id)
    (mt sanitizePathSegment_eq_nil.1 h.1) (mt sanitizePathSegment_eq_dot.1 h.2.1)
    (mt sanitizePathSegment_eq_dots.1 h.2.2)

/-- The directory of an id is strictly below the root exactly when the id names one. -/
theorem below_artifactDir_iff {id : JsString} :
    store.rootDir <+: store.artifactDir id ∧ store.rootDir ≠ store.artifactDir id ↔ SafeId id := by
  constructor
  · rintro ⟨hbelow, hne⟩
    refine ⟨?_, ?_, ?_⟩ <;> rintro rfl
    · exact hne (by simp [artifactDir, sanitizePathSegment, sanitizeUnits, Posix.join,
        Posix.segments, Posix.push])
    · rw [artifactDir, sanitizePathSegment_eq_dot.2 rfl, Posix.join_dot] at hne
      exact hne rfl
    · -- one step up: the root is not below its own parent unless it is `/`
      rw [artifactDir, sanitizePathSegment_eq_dots.2 rfl, Posix.join_dots] at hbelow hne
      have hlength := hbelow.length_le
      rw [List.length_dropLast] at hlength
      have hnil : store.rootDir = [] := List.length_eq_zero_iff.1 (by omega)
      exact hne (by rw [hnil]; rfl)
  · intro h
    rw [artifactDir_of_safeId h]
    exact ⟨List.prefix_append _ _, by simp⟩

end ArtifactStore

/-! ### References -/

/-- The references of a package manager that are read as paths below the directory. -/
def localPackageRefs (packageManager : ArtifactPackageManager) : List JsString :=
  (packageFiles packageManager).filterMap fun f =>
    f.2.1.filter fun ref => ref ≠ [] && (!hasScheme ref && !isAbsoluteFileSystemPath ref)

/-- The fallback names are names. -/
theorem stays_fallback (dir : Path) {packageManager : ArtifactPackageManager}
    {f : JsString × Option JsString × JsString} (hf : f ∈ packageFiles packageManager) :
    (Relative.ofText f.2.2).Stays dir := by
  have names : ∀ name ∈ [js "package.json", js "bunfig.toml", js "bun.lock", js "deno.json",
      js "deno.lock"], (Relative.ofText name).ups = 0 := by decide +kernel
  refine Relative.stays_of_ups_eq_zero (names _ ?_)
  cases packageManager <;>
    simp only [packageFiles, List.mem_cons, List.not_mem_nil, or_false] at hf
  · obtain rfl | rfl | rfl := hf <;> simp
  · obtain rfl | rfl := hf <;> simp

/-- The project files are below the directory exactly when no reference climbs out. -/
theorem below_projectTargets_iff {dir : Path} {packageManager : ArtifactPackageManager} :
    (∀ t ∈ projectTargets packageManager dir, dir <+: t) ↔
      ∀ ref ∈ localPackageRefs packageManager, (Relative.ofText ref).Stays dir := by
  have each : ∀ f ∈ packageFiles packageManager,
      (∀ t ∈ projectTarget dir f.2.1 f.2.2, dir <+: t) ↔
        ∀ ref ∈ f.2.1.filter fun ref => ref ≠ [] && (!hasScheme ref && !isAbsoluteFileSystemPath ref),
          (Relative.ofText ref).Stays dir := by
    intro f hf
    have hfallback := Posix.below_join_iff.2 (stays_fallback dir hf)
    cases hr : f.2.1 with
    | none => simp [projectTarget]
    | some ref =>
      by_cases hempty : ref = []
      · simp [projectTarget, hempty]
      · unfold projectTarget resolveLocalPackageFilePath
        cases hs : hasScheme ref
        · cases ha : isAbsoluteFileSystemPath ref
          · simp [hempty, hs, ha, Posix.below_join_iff]
          · simp [hempty, hs, ha, hfallback]
        · simp [hempty, hs, hfallback]
  simp only [projectTargets, localPackageRefs, List.mem_filterMap, forall_exists_index, and_imp]
  constructor
  · intro h ref f hf href
    exact (each f hf).1 (fun t ht => h t f hf ht) ref href
  · intro h t f hf ht
    exact (each f hf).2 (fun ref href => h ref f hf href) t ht

/-! ### Stagings -/

/-- A staging call that got as far as a plan: the request, and what it found on the host and in
the directory. -/
structure Staging (store : ArtifactStore) where
  host : Host
  request : StageRequest
  files : Files
  plan : StagePlan
  planned : store.buildStagePlan host request = some plan

namespace Staging

variable {store : ArtifactStore} (c : Staging store)

/-- The directory of its manifest id. -/
def dir : Path := store.artifactDir c.request.manifestId

/-- What it does. -/
def script : Script := store.stagePlanned c.host c.files c.plan

/-- It runs to the end and reuses nothing. -/
def StagesAll : Prop := c.script.completes ∧ ArtifactStore.reuses c.files c.plan = false

/-- It works in its own directory, strictly below the root. -/
structure StaysInside : Prop where
  below : store.rootDir <+: c.dir ∧ store.rootDir ≠ c.dir
  inside : ∀ op ∈ c.script.ops, c.dir <+: op.path

/-- No reference that the request is staged with climbs out of the directory. An archive
and a directory are copied as a whole, and their references are not followed. -/
def SafeRefs : Prop :=
  store.isSingleFile c.host c.request →
    (Relative.ofText c.request.entry).Stays c.dir ∧
      ∀ ref ∈ localPackageRefs c.request.packageManager, (Relative.ofText ref).Stays c.dir

theorem inside_iff : (∀ i ∈ c.plan.inputs, c.dir <+: i.targetPath) ↔ c.SafeRefs := by
  have htargets := ArtifactStore.targets_of_buildStagePlan c.planned
  have : (∀ i ∈ c.plan.inputs, c.dir <+: i.targetPath) ↔
      ∀ t ∈ c.plan.inputs.map (·.targetPath), c.dir <+: t := by simp
  rw [this, htargets, SafeRefs]
  split_ifs with hs
  · rw [List.forall_mem_cons, ArtifactStore.localEntry, ← dir, Posix.below_join_iff,
      below_projectTargets_iff]
    simp [hs]
  · simp [hs, dir]

/-- Safe references keep every operation in the directory, whatever the call finds. -/
theorem inside_of_safeRefs (h : c.SafeRefs) : ∀ op ∈ c.script.ops, c.dir <+: op.path := by
  intro op hop
  have hdir := ArtifactStore.artifactDir_of_buildStagePlan c.planned
  obtain ⟨i, hi, hpath⟩ | hpath | hpath := ArtifactStore.path_of_mem_stagePlanned hop
  · exact ((c.inside_iff).2 h i hi).trans hpath
  all_goals
    rw [hpath, dir, ← hdir]
    simp only [StagePlan.metadataPath, StagePlan.prepareMetadataPath]
    rw [Posix.join_name _ (by decide) (by decide) (by decide) (by decide)]
    exact List.prefix_append _ _

theorem safeRefs_of_inside (hall : c.StagesAll) (h : ∀ op ∈ c.script.ops, c.dir <+: op.path) :
    c.SafeRefs := by
  refine (c.inside_iff).1 fun i hi => ?_
  obtain ⟨op, hop, hpath⟩ := ArtifactStore.exists_mem_stagePlanned hall.1 hall.2 hi
  exact hpath ▸ h op hop

theorem staysInside_iff (hall : c.StagesAll) :
    c.StaysInside ↔ SafeId c.request.manifestId ∧ c.SafeRefs :=
  ⟨fun h => ⟨ArtifactStore.below_artifactDir_iff.1 h.below, c.safeRefs_of_inside hall h.inside⟩,
    fun h => ⟨ArtifactStore.below_artifactDir_iff.2 h.1, c.inside_of_safeRefs h.2⟩⟩

variable (c₁ c₂ : Staging store)

/-- Two stagings work in directories of their own. -/
def OwnDirectories : Prop :=
  c₁.StaysInside ∧ c₂.StaysInside ∧
    (c₁.request.manifestId ≠ c₂.request.manifestId → c₁.dir ≠ c₂.dir)

/-- Their ids name directories, distinct ones if they differ, and no reference climbs out. -/
def SafeRequests : Prop :=
  (SafeId c₁.request.manifestId ∧ c₁.SafeRefs) ∧ (SafeId c₂.request.manifestId ∧ c₂.SafeRefs) ∧
    (c₁.request.manifestId ≠ c₂.request.manifestId →
      sanitizePathSegment c₁.request.manifestId ≠ sanitizePathSegment c₂.request.manifestId)

/-- The directories of two ids that name one are as different as their sanitized names. -/
theorem dir_eq_iff (h₁ : SafeId c₁.request.manifestId) (h₂ : SafeId c₂.request.manifestId) :
    c₁.dir = c₂.dir ↔
      sanitizePathSegment c₁.request.manifestId = sanitizePathSegment c₂.request.manifestId := by
  rw [dir, dir, ArtifactStore.artifactDir_of_safeId h₁, ArtifactStore.artifactDir_of_safeId h₂]
  simp

/-- **A staging keeps to its directory** when the requests are safe, whatever the calls
find; and a call that stages everything keeps to it only then. -/
theorem ownDirectories_iff :
    (SafeRequests c₁ c₂ → OwnDirectories c₁ c₂) ∧
      (c₁.StagesAll ∧ c₂.StagesAll → (OwnDirectories c₁ c₂ ↔ SafeRequests c₁ c₂)) := by
  have enough : SafeRequests c₁ c₂ → OwnDirectories c₁ c₂ := by
    rintro ⟨⟨hid₁, hrefs₁⟩, ⟨hid₂, hrefs₂⟩, hne⟩
    refine ⟨⟨ArtifactStore.below_artifactDir_iff.2 hid₁, c₁.inside_of_safeRefs hrefs₁⟩,
      ⟨ArtifactStore.below_artifactDir_iff.2 hid₂, c₂.inside_of_safeRefs hrefs₂⟩, fun h heq => ?_⟩
    exact hne h ((dir_eq_iff c₁ c₂ hid₁ hid₂).1 heq)
  refine ⟨enough, fun ⟨hall₁, hall₂⟩ => ⟨?_, enough⟩⟩
  rintro ⟨hin₁, hin₂, hne⟩
  have hsafe₁ := (c₁.staysInside_iff hall₁).1 hin₁
  have hsafe₂ := (c₂.staysInside_iff hall₂).1 hin₂
  refine ⟨hsafe₁, hsafe₂, fun h heq => hne h ?_⟩
  exact (dir_eq_iff c₁ c₂ hsafe₁.1 hsafe₂.1).2 heq

/-- A manifest that the schema accepts, with the id `..` and an archive. -/
def parentManifest : ArtifactManifest where
  manifestId := js ".."
  sourceUri := js "https://host/worker.tgz"
  entry := js "index.ts"
  packageManager := .bun none none none none

/-- The assignment that refers to it. -/
def parentAssignment : Assignment where
  assignmentId := js "a1"
  hostId := js "h1"
  deploymentId := js "d1"
  deploymentKind := .httpWorker
  declaredVersion := js "1"
  artifact := { manifestId := js "..", sourceUri := js "https://host/worker.tgz" }
  httpWorker := some { entry := js "index.ts" }

/-- Its staging. -/
def parentStaging : Staging .simple where
  host := .serving (.data [])
  request :=
    { manifestId := js "..", sourceUri := js "https://host/worker.tgz", digest := none
      entry := js "index.ts", packageManager := .bun none none none none }
  files := .empty
  plan :=
    { sourceUri := js "https://host/worker.tgz", digest := none, entry := js "index.ts"
      localEntry := [js "srv", js "index.ts"], artifactDir := [js "srv"]
      packageManager := .bun none none none none
      inputs := [{ kind := .workerArchive, sourceRef := js "https://host/worker.tgz"
                   targetPath := [js "srv"] }] }
  planned := by decide +kernel

/-- It removes `/srv`, with the root directory in it, and unpacks there. -/
theorem parentStaging_removes :
    parentManifest.accepted (fun s => (ArtifactStore.simple.urlPathname s).isSome) ∧
    StageRequest.ofHttpWorker parentAssignment (some parentManifest) =
      some parentStaging.request ∧
    .rm [js "srv"] ∈ parentStaging.script.ops ∧ ¬parentStaging.StaysInside := by
  refine ⟨by decide +kernel, by decide +kernel, by decide +kernel, fun h => ?_⟩
  exact absurd h.below.1 (by decide +kernel)

end Staging

end Hardess

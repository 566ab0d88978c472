import Mathlib.Data.List.ReduceOption
import Hardess.Control.ArtifactStore

/-!
# What a staging plan holds

Rules for the plans of the artifact store and for the scripts of their inputs.

* `targets_of_buildStagePlan`: the paths a plan writes to, from the request alone;
* `stageInput_cases`: what staging one input can be;
* `target_prefix_of_mem_stageInput`: it works at or below the target of the input.
-/

namespace Hardess

open Posix (Path)

/-- The target of a project file, if there is one. -/
def projectTarget (artifactDir : Path) (ref : Option JsString) (fallback : JsString) :
    Option Path :=
  (ref.filter (· ≠ [])).map (resolveLocalPackageFilePath artifactDir · fallback)

/-- The targets of the project files of a package manager, as `listProjectFiles` finds
them. -/
def projectTargets (packageManager : ArtifactPackageManager) (artifactDir : Path) : List Path :=
  (packageFiles packageManager).filterMap fun f => projectTarget artifactDir f.2.1 f.2.2

namespace ArtifactStore

variable {store : ArtifactStore} {host : Host} {r : StageRequest} {plan : StagePlan}

/-! ### Plans -/

/-- Is the source of a request a single file, on this host? -/
def isSingleFile (store : ArtifactStore) (host : Host) (r : StageRequest) : Bool :=
  !store.isDirectorySourceRef host r.sourceUri && store.isArchiveSourceRef r.sourceUri = some false

theorem of_withFingerprint {input input' : PreparedArtifactInputMetadata}
    (h : store.withFingerprint host input = some input') :
    ∃ fingerprint, store.computeSourceFingerprint host input.sourceRef = some fingerprint ∧
      input' = { input with fingerprint } := by
  obtain ⟨fingerprint, hf, rfl⟩ := Option.map_eq_some_iff.1 h
  exact ⟨fingerprint, hf, rfl⟩

/-- What a built plan is made of. -/
theorem of_buildStagePlan (h : store.buildStagePlan host r = some plan) :
    ∃ isArchive main projectFiles projectInputs,
      store.isArchiveSourceRef r.sourceUri = some isArchive ∧
      store.withFingerprint host
        (store.mainInput r (store.isDirectorySourceRef host r.sourceUri) isArchive) = some main ∧
      store.planProjectFiles r (store.isDirectorySourceRef host r.sourceUri) isArchive =
        some projectFiles ∧
      projectFiles.mapM (store.withFingerprint host) = some projectInputs ∧
      plan =
        { sourceUri := r.sourceUri
          digest := r.digest
          entry := r.entry
          localEntry := store.localEntry r
          artifactDir := store.artifactDir r.manifestId
          packageManager := r.packageManager
          inputs := main :: projectInputs } := by
  simp only [buildStagePlan, Option.bind_eq_bind, Option.bind_eq_some_iff, Option.some.injEq] at h
  obtain ⟨isArchive, ha, main, hm, files, hf, inputs, hi, rfl⟩ := h
  exact ⟨isArchive, main, files, inputs, ha, hm, hf, hi, rfl⟩

theorem artifactDir_of_buildStagePlan (h : store.buildStagePlan host r = some plan) :
    plan.artifactDir = store.artifactDir r.manifestId := by
  obtain ⟨-, -, -, -, -, -, -, -, rfl⟩ := of_buildStagePlan h
  rfl

/-- Fingerprints change neither the targets nor the kinds. -/
theorem map_of_mapM_withFingerprint {β : Type*} {f : PreparedArtifactInputMetadata → β}
    (hf : ∀ (i : PreparedArtifactInputMetadata) fingerprint, f { i with fingerprint } = f i)
    {inputs inputs' : List PreparedArtifactInputMetadata}
    (h : inputs.mapM (store.withFingerprint host) = some inputs') : inputs'.map f = inputs.map f := by
  have hall := List.forall₂_of_mapM h
  clear h
  induction hall with
  | nil => rfl
  | cons hxy _ ih =>
    obtain ⟨fingerprint, -, rfl⟩ := of_withFingerprint hxy
    rw [List.map_cons, List.map_cons, ih, hf]

theorem of_buildProjectFile {name fallback uri : JsString} {ref : Option JsString} {dir : Path}
    {file : Option PreparedArtifactInputMetadata}
    (h : store.buildProjectFile name ref dir uri fallback = some file) :
    file.map (·.targetPath) = projectTarget dir ref fallback ∧
      ∀ i ∈ file, i.kind = .projectFile := by
  unfold buildProjectFile at h
  cases ref with
  | none =>
    obtain rfl : none = file := by simpa using h
    simp [projectTarget]
  | some ref =>
    simp only at h
    split_ifs at h with hempty
    · obtain rfl : none = file := by simpa using h
      simp [projectTarget, hempty]
    · obtain ⟨sourceRef, -, rfl⟩ := Option.map_eq_some_iff.1 h
      simp [projectTarget, hempty]

/-- The targets and the kind of the project files. -/
theorem of_listProjectFiles {packageManager : ArtifactPackageManager} {dir : Path} {uri : JsString}
    {files : List PreparedArtifactInputMetadata}
    (h : store.listProjectFiles packageManager dir uri = some files) :
    files.map (·.targetPath) = projectTargets packageManager dir ∧
      ∀ i ∈ files, i.kind = .projectFile := by
  obtain ⟨found, hfound, rfl⟩ := Option.map_eq_some_iff.1 h
  have hall := List.forall₂_of_mapM hfound
  unfold projectTargets
  generalize packageFiles packageManager = fs at hall
  clear h hfound
  induction hall with
  | nil => simp [List.reduceOption]
  | @cons f file fs files hf _ ih =>
    obtain ⟨htarget, hkind⟩ := of_buildProjectFile hf
    cases file with
    | none =>
      simp only [List.reduceOption_cons_of_none, List.filterMap_cons, ← htarget, Option.map_none]
      exact ih
    | some i =>
      simp only [List.reduceOption_cons_of_some, List.filterMap_cons, ← htarget, Option.map_some,
        List.map_cons, ih.1]
      exact ⟨trivial, List.forall_mem_cons.2 ⟨hkind i rfl, ih.2⟩⟩

/-- **The paths a plan writes to**: the entry and the project files of a single file, and
otherwise the whole directory. -/
theorem targets_of_buildStagePlan (h : store.buildStagePlan host r = some plan) :
    plan.inputs.map (·.targetPath) =
      if store.isSingleFile host r then
        store.localEntry r :: projectTargets r.packageManager (store.artifactDir r.manifestId)
      else [store.artifactDir r.manifestId] := by
  obtain ⟨isArchive, main, files, inputs, ha, hmain, hfiles, hinputs, rfl⟩ := of_buildStagePlan h
  have htargets := map_of_mapM_withFingerprint (f := (·.targetPath)) (fun _ _ => rfl) hinputs
  obtain ⟨fingerprint, -, rfl⟩ := of_withFingerprint hmain
  simp only [List.map_cons, htargets, isSingleFile, ha]
  cases hdir : store.isDirectorySourceRef host r.sourceUri <;> cases isArchive <;>
    simp only [planProjectFiles, hdir, Bool.or_false, Bool.or_true, Bool.false_eq_true, if_true, if_false,
      Option.some.injEq] at hfiles
  · simp [mainInput, (of_listProjectFiles hfiles).1]
  all_goals simp [mainInput, ← hfiles]

/-- The kinds of the inputs of a plan for a single file. -/
theorem kinds_of_buildStagePlan (h : store.buildStagePlan host r = some plan)
    (hs : store.isSingleFile host r) : ∃ main projectInputs, plan.inputs = main :: projectInputs ∧
      main.kind = .worker ∧ main.targetPath = plan.localEntry ∧
      ∀ i ∈ projectInputs, i.kind = .projectFile := by
  obtain ⟨isArchive, main, files, inputs, ha, hmain, hfiles, hinputs, rfl⟩ := of_buildStagePlan h
  simp only [isSingleFile, ha, Bool.and_eq_true, Bool.not_eq_true', decide_eq_true_eq,
    Option.some.injEq] at hs
  obtain ⟨hdir, rfl⟩ := hs
  rw [hdir] at hmain hfiles
  simp only [planProjectFiles, Bool.or_self, Bool.false_eq_true, if_false] at hfiles
  obtain ⟨fingerprint, -, rfl⟩ := of_withFingerprint hmain
  refine ⟨_, inputs, rfl, rfl, rfl, fun i hi => ?_⟩
  obtain ⟨i', hi', hfi⟩ := List.exists_of_mem_mapM hinputs hi
  obtain ⟨fp, -, rfl⟩ := of_withFingerprint hfi
  exact (of_listProjectFiles hfiles).2 i' hi'

end ArtifactStore

/-! ### Scripts -/

namespace ArtifactStore

variable {store : ArtifactStore} {host : Host} {digest : Option JsString}
  {input : PreparedArtifactInputMetadata}

/-- The script of an archive that was read and accepted. -/
def archiveScript (target : Path) (archive : Content) (tree : List (Path × Content)) (ok : Bool) :
    Script :=
  Script.andThen
    ⟨.rm target :: .write (Posix.join target (js ".artifact-source.tgz")) archive .archive ::
      copyTree target tree, ok⟩
    ⟨[.rm (Posix.join target (js ".artifact-source.tgz"))], true⟩

variable (store host digest input) in
/-- **What staging an input can be**: a throw before the first operation, or the script of
its kind. -/
theorem stageInput_cases :
    store.stageInput host digest input = .throw ∨
    (input.kind = .worker ∧ ∃ source, store.verifyDigest source digest ∧
      store.stageInput host digest input = ⟨[.write input.targetPath source .worker], true⟩) ∨
    (input.kind = .projectFile ∧ ∃ source,
      store.stageInput host digest input = ⟨[.write input.targetPath source .projectFile], true⟩) ∨
    (input.kind = .workerDirectory ∧ ∃ tree ok,
      store.stageInput host digest input =
        ⟨.rm input.targetPath :: copyTree input.targetPath tree, ok⟩) ∨
    (input.kind = .workerArchive ∧ ∃ archive tree ok, store.verifyDigest archive digest ∧
      store.stageInput host digest input = archiveScript input.targetPath archive tree ok) := by
  unfold stageInput extractArchiveSource
  cases input.kind with
  | worker =>
    cases store.readSource host input.sourceRef with
    | none => exact .inl rfl
    | some source =>
      by_cases hv : store.verifyDigest source digest
      · exact .inr (.inl ⟨rfl, source, hv, by simp [hv]⟩)
      · exact .inl (by simp [hv])
  | projectFile =>
    cases store.readSource host input.sourceRef with
    | none => exact .inl rfl
    | some source => exact .inr (.inr (.inl ⟨rfl, source, rfl⟩))
  | workerDirectory => exact .inr (.inr (.inr (.inl ⟨rfl, _, _, rfl⟩)))
  | workerArchive =>
    cases store.readSource host input.sourceRef with
    | none => exact .inl rfl
    | some archive =>
      by_cases hv : store.verifyDigest archive digest
      · refine .inr (.inr (.inr (.inr ⟨rfl, archive, (host.untar archive).1,
          (host.untar archive).2, hv, ?_⟩)))
        simp [hv, archiveScript]
      · exact .inl (by simp [hv])

theorem target_prefix_of_mem_copyTree {target : Path} {tree : List (Path × Content)} {op : FileOp}
    (h : op ∈ copyTree target tree) : target <+: op.path := by
  obtain ⟨f, -, rfl⟩ := List.mem_map.1 h
  exact List.prefix_append _ _

/-- Every operation that stages an input works at or below its target. -/
theorem target_prefix_of_mem_stageInput {op : FileOp}
    (h : op ∈ (store.stageInput host digest input).ops) : input.targetPath <+: op.path := by
  obtain hs | ⟨-, source, -, hs⟩ | ⟨-, source, hs⟩ | ⟨-, tree, ok, hs⟩ |
    ⟨-, archive, tree, ok, -, hs⟩ := stageInput_cases store host digest input <;> rw [hs] at h
  · simp [Script.throw] at h
  · obtain rfl := List.mem_singleton.1 h
    exact List.prefix_refl _
  · obtain rfl := List.mem_singleton.1 h
    exact List.prefix_refl _
  · obtain rfl | h := List.mem_cons.1 h
    · exact List.prefix_refl _
    · exact target_prefix_of_mem_copyTree h
  · have harchive : input.targetPath <+:
        Posix.join input.targetPath (js ".artifact-source.tgz") := by
      rw [Posix.join_name _ (by decide) (by decide) (by decide) (by decide)]
      exact List.prefix_append _ _
    obtain h | h := Script.mem_ops_andThen h
    · obtain rfl | h := List.mem_cons.1 h
      · exact List.prefix_refl _
      · obtain rfl | h := List.mem_cons.1 h
        · exact harchive
        · exact target_prefix_of_mem_copyTree h
    · obtain rfl := List.mem_singleton.1 h
      exact harchive

/-- An input that was staged was given an operation on its target. -/
theorem exists_mem_stageInput (h : (store.stageInput host digest input).completes) :
    ∃ op ∈ (store.stageInput host digest input).ops, op.path = input.targetPath := by
  obtain hs | ⟨-, source, -, hs⟩ | ⟨-, source, hs⟩ | ⟨-, tree, ok, hs⟩ |
    ⟨-, archive, tree, ok, -, hs⟩ := stageInput_cases store host digest input <;> rw [hs] at h ⊢
  · simp [Script.throw] at h
  · exact ⟨_, List.mem_cons_self, rfl⟩
  · exact ⟨_, List.mem_cons_self, rfl⟩
  · exact ⟨_, List.mem_cons_self, rfl⟩
  · rw [archiveScript, Script.ops_andThen (Script.completes_andThen.1 h).1]
    exact ⟨_, List.mem_append_left _ List.mem_cons_self, rfl⟩

/-! ### Calls -/

theorem eq_of_mem_ensureProjectPrepared {files : Files} {op : FileOp}
    (h : op ∈ (ensureProjectPrepared host files plan).ops) :
    plan.preparesProject ∧
      op = .write plan.prepareMetadataPath (.prepareMeta plan.prepareKey) .prepareMetadata := by
  unfold ensureProjectPrepared at h
  split_ifs at h with hp
  · simp [Script.done] at h
  · exact ⟨hp, List.mem_singleton.1 h⟩
  · simp [Script.throw] at h
  · simp [Script.done] at h

/-- Every operation of a call is on an input of the plan or on one of the two documents. -/
theorem path_of_mem_stagePlanned {files : Files} {op : FileOp}
    (h : op ∈ (store.stagePlanned host files plan).ops) :
    (∃ i ∈ plan.inputs, i.targetPath <+: op.path) ∨ op.path = plan.metadataPath ∨
      op.path = plan.prepareMetadataPath := by
  unfold stagePlanned at h
  split_ifs at h
  · exact .inr (.inr (by rw [(eq_of_mem_ensureProjectPrepared h).2]; rfl))
  · obtain h | h := Script.mem_ops_andThen h
    · obtain h | h := Script.mem_ops_andThen h
      · obtain ⟨s, hs, hop⟩ := Script.mem_ops_all h
        obtain ⟨i, hi, rfl⟩ := List.mem_map.1 hs
        exact .inl ⟨i, hi, target_prefix_of_mem_stageInput hop⟩
      · obtain rfl := List.mem_singleton.1 h
        exact .inr (.inl rfl)
    · exact .inr (.inr (by rw [(eq_of_mem_ensureProjectPrepared h).2]; rfl))

/-- A call that reuses nothing and runs to the end works on every target of its plan. -/
theorem exists_mem_stagePlanned {files : Files}
    (h : (store.stagePlanned host files plan).completes) (hr : reuses files plan = false)
    {i : PreparedArtifactInputMetadata} (hi : i ∈ plan.inputs) :
    ∃ op ∈ (store.stagePlanned host files plan).ops, op.path = i.targetPath := by
  simp only [stagePlanned, hr, Bool.false_eq_true, if_false] at h ⊢
  obtain ⟨hstaged, -⟩ := Script.completes_andThen.1 h
  obtain ⟨hinputs, -⟩ := Script.completes_andThen.1 hstaged
  have hmem := List.mem_map_of_mem (f := store.stageInput host plan.digest) hi
  obtain ⟨op, hop, hpath⟩ := exists_mem_stageInput (Script.completes_all.1 hinputs _ hmem)
  refine ⟨op, ?_, hpath⟩
  rw [Script.ops_andThen hstaged, stageInputs, Script.ops_andThen hinputs, Script.ops_all hinputs]
  exact List.mem_append_left _ (List.mem_append_left _ (List.mem_flatMap_of_mem hmem hop))

/-! ### A small platform -/

/-- The pathname of a URL with a host and a path, and nothing else. -/
def simplePathname (url : JsString) : Option JsString :=
  if unit ':' ∈ url then some (((url.dropWhile (· ≠ unit ':')).drop 3).dropWhile (· ≠ unit '/'))
  else none

/-- The hash of the empty content. -/
def emptyHash : JsString :=
  js "e3b0c44298fc1c149afbf4c8996fb92427ae41e4649b934ca495991b7852b855"

/-- The hash of the content `a`. -/
def aHash : JsString := js "ca978112ca1bbdcafac231b39a23dc4da786eff8147c4e72b9807785afee48bb"

/-- A store below `/srv/artifacts`. Of the hash function it knows two values. -/
def simple : ArtifactStore where
  rootDir := [js "srv", js "artifacts"]
  cwd := [js "srv"]
  urlPathname := simplePathname
  urlHref ref base := some ((base.reverse.dropWhile (· ≠ unit '/')).reverse ++ ref)
  fileURLToPath url := (simplePathname url).map (Posix.join [])
  createHash _ content :=
    if content = .data [] then emptyHash else if content = .data [97] then aHash else js "other"

end ArtifactStore

/-- A host without local sources whose fetches all answer the same. -/
def Host.serving (source : Content) : Host where
  stat _ := none
  readFile _ := none
  fetch _ := some source
  tree _ := none
  untar _ := ([], true)
  install := true

end Hardess

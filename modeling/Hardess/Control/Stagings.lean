import Hardess.Control.StagePlans
import Hardess.Lib.Machine

/-!
# Sequences of stagings

Non-overlapping calls of `stageHttpWorker` and `stageServiceModule` on one directory. A
call may fail after any of its file operations (`cut`), or throw by itself.

* `StageCall.step` is a call on the files that the calls before it left;
* `reusesOnlyCovered_iff`: a staging reuses what no digest covers exactly when its source
  is a remote archive without a digest.
-/

namespace Hardess

open Posix (Path)

/-- The two staging functions. -/
inductive StageKind
  | httpWorker
  | serviceModule
  deriving DecidableEq

/-- The arguments of a staging call. -/
structure StageArgs where
  kind : StageKind
  assignment : Assignment
  manifest : Option ArtifactManifest

/-- The request they make; `none` is a missing entry. -/
def StageArgs.request (args : StageArgs) : Option StageRequest :=
  match args.kind with
  | .httpWorker => StageRequest.ofHttpWorker args.assignment args.manifest
  | .serviceModule => StageRequest.ofServiceModule args.assignment args.manifest

/-- A call: its arguments, what it finds on the host, and the number of file operations
after which another failure ends it. -/
structure StageCall extends StageArgs where
  host : Host
  cut : Option ℕ

namespace StageCall

variable (store : ArtifactStore) (c : StageCall)

/-- The plan of a call; `none` if it throws before it has one. -/
def plan : Option StagePlan := c.request.bind (store.buildStagePlan c.host)

/-- What it does in a state, if nothing cuts it short. -/
def script (files : Files) : Script :=
  match c.plan store with
  | none => .throw
  | some plan => store.stagePlanned c.host files plan

/-- The file operations it performs. -/
def performed (files : Files) : List FileOp :=
  match c.cut with
  | none => (c.script store files).ops
  | some n => (c.script store files).ops.take n

/-- Does it return? -/
def returns (files : Files) : Bool := c.cut = none && (c.script store files).completes

end StageCall

/-- The files after a call. -/
def StageCall.step (store : ArtifactStore) (files : Files) (c : StageCall) : Files :=
  applyOps ((c.plan store).bind (·.digest)) files (c.performed store files)

/-! ### What a reused artifact was certified for -/

/-- The metadata of a reused artifact is that of the plan, up to fingerprints. -/
theorem of_reuses {files : Files} {plan : StagePlan}
    (h : ArtifactStore.reuses files plan) :
    ∃ current, readPreparedMetadata files plan.metadataPath = some current ∧
      current.sourceUri = plan.sourceUri ∧ current.digest = plan.digest ∧
      current.inputs.length = plan.inputs.length ∧
      ∀ p ∈ plan.inputs.zip current.inputs, sameInput files plan.digest p.1 p.2 := by
  unfold ArtifactStore.reuses canReusePreparedArtifact at h
  cases hm : readPreparedMetadata files plan.metadataPath with
  | none => simp [hm] at h
  | some current =>
    simp only [hm, Bool.and_eq_true, decide_eq_true_eq, List.all_eq_true] at h
    exact ⟨current, rfl, h.1.1.1.1, h.1.1.1.2, h.1.2.2, h.2⟩

/-- Every input of a reused plan passes `canReusePreparedInput`. -/
theorem canReuse_of_reuses {files : Files} {plan : StagePlan}
    (h : ArtifactStore.reuses files plan) {input : PreparedArtifactInputMetadata}
    (hi : input ∈ plan.inputs) :
    ∃ cached, canReusePreparedInput input cached plan.digest := by
  obtain ⟨current, -, -, -, hlength, hall⟩ := of_reuses h
  obtain ⟨i, hi, rfl⟩ := List.mem_iff_getElem.1 hi
  have hzip : (plan.inputs[i], current.inputs[i]) ∈ plan.inputs.zip current.inputs :=
    List.mem_iff_getElem.2 ⟨i, by simp; omega, by simp⟩
  have := hall _ hzip
  simp only [sameInput, Bool.and_eq_true] at this
  exact ⟨_, this.2⟩

/-! ### Remote inputs -/

/-- Is the content of an input covered by the declared digest? Staging verifies the digest
of a single file and of an archive. -/
def StagePlan.DigestCovers (plan : StagePlan) (input : PreparedArtifactInputMetadata) : Prop :=
  (input.kind = .worker ∨ input.kind = .workerArchive) ∧ truthy plan.digest

namespace ArtifactStore

variable (store : ArtifactStore)

/-- A remote archive whose digest is not declared. -/
def IsUnpinnedArchive (r : StageRequest) : Prop :=
  isRemoteSourceRef r.sourceUri ∧ store.isArchiveSourceRef r.sourceUri = some true ∧
    ¬truthy r.digest

instance (r : StageRequest) : Decidable (store.IsUnpinnedArchive r) :=
  inferInstanceAs (Decidable (_ ∧ _ ∧ _))

/-- After every sequence of calls, a staging with these arguments reuses an artifact only
if the digest covers every remote input of its plan. -/
def ReusesOnlyCovered (args : StageArgs) : Prop :=
  ∀ (calls : List StageCall) (c : StageCall), c.toStageArgs = args →
    ∀ plan ∈ c.plan store, reuses (Machine.run (StageCall.step store) .empty calls) plan →
      ∀ input ∈ plan.inputs, isRemoteSourceRef input.sourceRef → plan.DigestCovers input

variable {store}

theorem of_workerArchive {host : Host} {r : StageRequest} {plan : StagePlan}
    (h : store.buildStagePlan host r = some plan) {input : PreparedArtifactInputMetadata}
    (hi : input ∈ plan.inputs) (hk : input.kind = .workerArchive) :
    input.sourceRef = r.sourceUri ∧ store.isArchiveSourceRef r.sourceUri = some true ∧
      plan.digest = r.digest := by
  obtain ⟨isArchive, main, files, inputs, ha, hmain, hfiles, hinputs, rfl⟩ := of_buildStagePlan h
  obtain ⟨fingerprint, -, rfl⟩ := of_withFingerprint hmain
  obtain rfl | hi := List.mem_cons.1 hi
  · cases isArchive with
    | true => simp [mainInput, ha]
    | false =>
      cases hdir : store.isDirectorySourceRef host r.sourceUri <;> simp [mainInput, hdir] at hk
  · -- the other inputs are project files
    obtain ⟨i, hmem, hfi⟩ := List.exists_of_mem_mapM hinputs hi
    obtain ⟨fp, -, rfl⟩ := of_withFingerprint hfi
    unfold planProjectFiles at hfiles
    split_ifs at hfiles
    · obtain rfl : [] = files := by simpa using hfiles
      simp at hmem
    · rw [show i.kind = .projectFile from (of_listProjectFiles hfiles).2 i hmem] at hk
      simp at hk

/-- An artifact that is reused has its remote inputs covered, unless it is an archive
without a digest. -/
theorem digestCovers_of_reuses {host : Host} {r : StageRequest} {plan : StagePlan} {files : Files}
    (h : store.buildStagePlan host r = some plan) (hr : reuses files plan)
    (hpinned : ¬store.IsUnpinnedArchive r) {input : PreparedArtifactInputMetadata}
    (hi : input ∈ plan.inputs) (hremote : isRemoteSourceRef input.sourceRef) :
    plan.DigestCovers input := by
  obtain ⟨cached, hc⟩ := canReuse_of_reuses hr hi
  simp only [canReusePreparedInput, hremote, if_true, Bool.or_eq_true, Bool.and_eq_true,
    decide_eq_true_eq] at hc
  obtain ⟨hk, hd⟩ | hk := hc
  · exact ⟨.inl hk, hd⟩
  · obtain ⟨hsource, harchive, hdigest⟩ := of_workerArchive h hi hk
    refine ⟨.inr hk, ?_⟩
    by_contra hd
    exact hpinned ⟨hsource ▸ hremote, harchive, hdigest ▸ hd⟩

/-! ### A staging that reuses its predecessor -/

theorem metadataPath_eq (plan : StagePlan) :
    plan.metadataPath = plan.artifactDir ++ [js ".artifact-meta.json"] :=
  Posix.join_name _ (by decide) (by decide) (by decide) (by decide)

theorem prepareMetadataPath_eq (plan : StagePlan) :
    plan.prepareMetadataPath = plan.artifactDir ++ [js ".artifact-prepare-meta.json"] :=
  Posix.join_name _ (by decide) (by decide) (by decide) (by decide)

theorem metadataPath_ne_prepareMetadataPath (plan : StagePlan) :
    plan.metadataPath ≠ plan.prepareMetadataPath := by
  rw [metadataPath_eq, prepareMetadataPath_eq]
  simp

/-- Preparing the project leaves the metadata alone. -/
theorem get_metadataPath_ensureProjectPrepared {host : Host} {digest : Option JsString}
    {files files' : Files} {plan : StagePlan} :
    (applyOps digest files (ensureProjectPrepared host files' plan).ops).get plan.metadataPath =
      files.get plan.metadataPath := by
  have hne := metadataPath_ne_prepareMetadataPath plan
  unfold ensureProjectPrepared
  split_ifs
  · rfl
  · exact JsMap.get_set_of_ne _ hne _
  · rfl
  · rfl

/-- The metadata file of a call that staged its inputs. -/
theorem get_metadataPath_of_staged {host : Host} {files : Files} {plan : StagePlan}
    (hs : (store.stageInputs host plan).completes) (hr : reuses files plan = false) :
    (applyOps plan.digest files (store.stagePlanned host files plan).ops).get plan.metadataPath =
      some ⟨.artifactMeta plan.metadata, .metadata, plan.digest⟩ := by
  have hinputs := (Script.completes_andThen.1 hs).1
  simp only [stagePlanned, hr, Bool.false_eq_true, if_false]
  rw [Script.ops_andThen hs, applyOps_append, get_metadataPath_ensureProjectPrepared, stageInputs,
    Script.ops_andThen hinputs, applyOps_append]
  exact JsMap.get_set_self _ _ _

theorem not_reuses_empty (plan : StagePlan) : reuses .empty plan = false := rfl

variable (store) in
/-- The plan of a remote archive. -/
def archivePlan (r : StageRequest) : StagePlan where
  sourceUri := r.sourceUri
  digest := r.digest
  entry := r.entry
  localEntry := store.localEntry r
  artifactDir := store.artifactDir r.manifestId
  packageManager := r.packageManager
  inputs :=
    [{ kind := .workerArchive, sourceRef := r.sourceUri
       targetPath := store.artifactDir r.manifestId }]

theorem buildStagePlan_of_isUnpinnedArchive {r : StageRequest} (h : store.IsUnpinnedArchive r)
    (host : Host) : store.buildStagePlan host r = some (store.archivePlan r) := by
  obtain ⟨hremote, harchive, -⟩ := h
  simp [buildStagePlan, isDirectorySourceRef, hremote, harchive, mainInput, withFingerprint,
    computeSourceFingerprint, planProjectFiles, archivePlan]

/-- A fetched archive without a digest is staged. -/
theorem completes_of_isUnpinnedArchive {r : StageRequest} (h : store.IsUnpinnedArchive r)
    (source : Content) :
    (store.stageInputs (.serving source) (store.archivePlan r)).completes := by
  obtain ⟨hremote, -, hdigest⟩ := h
  have hread : store.readSource (.serving source) r.sourceUri = some source := by
    simp [readSource, hremote, Host.serving]
  have hverify : store.verifyDigest source r.digest := by
    cases hd : r.digest with
    | none => rfl
    | some digest =>
      have : digest = [] := by simpa [hd, truthy] using hdigest
      simp [verifyDigest, this]
  have hstage : (store.stageInput (.serving source) r.digest
      { kind := .workerArchive, sourceRef := r.sourceUri
        targetPath := store.artifactDir r.manifestId }).completes := by
    simp only [stageInput, extractArchiveSource, hread, hverify, if_true]
    exact Script.completes_andThen.2 ⟨rfl, rfl⟩
  simpa [stageInputs, archivePlan, Script.completes_andThen, Script.completes_all] using hstage

/-- **A remote archive without a digest is reused** by the call after the one that fetched
it. -/
theorem reuses_of_isUnpinnedArchive {r : StageRequest} (h : store.IsUnpinnedArchive r)
    (source : Content) :
    reuses (applyOps r.digest .empty
      (store.stagePlanned (.serving source) .empty (store.archivePlan r)).ops)
      (store.archivePlan r) := by
  have hmeta := get_metadataPath_of_staged
    (completes_of_isUnpinnedArchive h source) (not_reuses_empty _)
  change reuses (applyOps (store.archivePlan r).digest .empty _) _
  generalize applyOps (store.archivePlan r).digest .empty _ = files at hmeta ⊢
  have hexists : files.pathExists (store.artifactDir r.manifestId) := by
    -- the metadata file is in the directory
    have hkey : (store.archivePlan r).metadataPath ∈ files.keys :=
      List.mem_map.2 ⟨_, JsMap.get_eq_some_iff.1 hmeta, rfl⟩
    refine List.any_eq_true.2 ⟨_, hkey, ?_⟩
    rw [metadataPath_eq, List.isPrefixOf_iff_prefix]
    exact List.prefix_append _ _
  have hread : readPreparedMetadata files (store.archivePlan r).metadataPath =
      some (store.archivePlan r).metadata := by
    simp [readPreparedMetadata, hmeta]
  have hpm : samePackageManager r.packageManager r.packageManager :=
    samePackageManager_iff.2 rfl
  simp only [reuses, canReusePreparedArtifact, hread]
  simp [StagePlan.metadata, archivePlan, hpm, sameInput, hexists, canReusePreparedInput, h.1]

/-- An unpinned archive is reused after a call that fetched it. -/
theorem not_isUnpinnedArchive_of_reusesOnlyCovered {args : StageArgs}
    (h : store.ReusesOnlyCovered args) {r : StageRequest} (hr : args.request = some r) :
    ¬store.IsUnpinnedArchive r := by
  intro hunpinned
  let c : StageCall := ⟨args, .serving (.data []), none⟩
  have hplan : c.plan store = some (store.archivePlan r) := by
    simp [StageCall.plan, c, hr, buildStagePlan_of_isUnpinnedArchive hunpinned]
  have hfiles : Machine.run (StageCall.step store) .empty [c] = applyOps r.digest .empty
      (store.stagePlanned (.serving (.data [])) .empty (store.archivePlan r)).ops := by
    simp [StageCall.step, StageCall.performed, StageCall.script, hplan, c, archivePlan]
  have hreuse := reuses_of_isUnpinnedArchive hunpinned (.data [])
  rw [← hfiles] at hreuse
  exact hunpinned.2.2 (h [c] c rfl _ hplan hreuse _ List.mem_cons_self hunpinned.1).2

/-- **Which stagings reuse only what the digest covers**: all but those of a remote archive
without a digest. -/
theorem reusesOnlyCovered_iff (args : StageArgs) :
    store.ReusesOnlyCovered args ↔ ∀ r ∈ args.request, ¬store.IsUnpinnedArchive r := by
  constructor
  · intro h r hr
    exact not_isUnpinnedArchive_of_reusesOnlyCovered h hr
  · intro h calls c hc plan hplan hr input hi hremote
    obtain ⟨r, hreq, hbuild⟩ := Option.bind_eq_some_iff.1 hplan
    exact digestCovers_of_reuses hbuild hr (h r (hc ▸ hreq)) hi hremote

/-- The arguments for an archive without a digest. -/
def archiveArgs : StageArgs where
  kind := .httpWorker
  assignment :=
    { assignmentId := js "a1", hostId := js "h1", deploymentId := js "d1"
      deploymentKind := .httpWorker, declaredVersion := js "1"
      artifact := { manifestId := js "m1", sourceUri := js "https://host/app.tgz" }
      httpWorker := some { entry := js "index.ts" } }
  manifest := some
    { manifestId := js "m1", sourceUri := js "https://host/app.tgz", entry := js "index.ts"
      packageManager := .bun none none none none }

/-- Staged a second time, it is not fetched again. -/
theorem archiveArgs_reused : ¬simple.ReusesOnlyCovered archiveArgs := by
  intro h
  have hreq : archiveArgs.request = some
      { manifestId := js "m1", sourceUri := js "https://host/app.tgz", digest := none
        entry := js "index.ts", packageManager := .bun none none none none } := by decide +kernel
  exact not_isUnpinnedArchive_of_reusesOnlyCovered h hreq (by decide +kernel)

end ArtifactStore

end Hardess

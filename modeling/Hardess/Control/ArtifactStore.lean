import Hardess.Lib.JsMap
import Hardess.Lib.ListMapM
import Hardess.Lib.NumberText
import Hardess.Lib.PosixPath
import Hardess.Shared.AdminTypes

/-!
# The artifact store

`src/runtime/control/artifact-store.ts` on one file system. A staging call makes a plan
(`buildStagePlan`), reads the metadata of the last staging, and either reuses what is
there (`canReusePreparedArtifact`) or stages the inputs of the plan one after another
and writes new metadata. Its file operations are collected in a `Script`, in the order
of the source, up to the first one that throws.

* `ArtifactStore` holds what never changes: the root directory, the working directory,
  and the URL and hash functions of the platform.
* `Host` holds what one call finds outside the directory it stages into: the sources,
  and what `tar` and `bun` do.
* A file remembers the step that wrote it and the digest its call declared
  (`File.origin`, `File.digest`); the code never looks at either.
-/

namespace Hardess

open Posix (Path)

/-! ### Plans -/

/-- `PreparedArtifactInputMetadata["kind"]`. -/
inductive InputKind
  | worker
  | workerDirectory
  | workerArchive
  | projectFile
  deriving DecidableEq

/-- `PreparedArtifactInputMetadata`. -/
structure PreparedArtifactInputMetadata where
  kind : InputKind
  logicalName : Option JsString := none
  sourceRef : JsString
  targetPath : Path
  fingerprint : Option JsString := none
  deriving DecidableEq

/-- `PreparedArtifactMetadata`. -/
structure PreparedArtifactMetadata where
  sourceUri : JsString
  digest : Option JsString := none
  entry : JsString
  packageManager : ArtifactPackageManager
  inputs : List PreparedArtifactInputMetadata
  deriving DecidableEq

/-- The key of `createProjectPrepareKey`, as the record whose JSON text it is. -/
structure ProjectPrepareKey where
  packageManager : ArtifactPackageManager
  projectInputs : List PreparedArtifactInputMetadata
  deriving DecidableEq

/-- The content of a file. The two JSON documents of the store are kept as the records
they print. -/
inductive Content
  | data (bytes : List UInt8)
  | artifactMeta (metadata : PreparedArtifactMetadata)
  | prepareMeta (key : ProjectPrepareKey)
  deriving DecidableEq

/-- What `stagePlan` holds. -/
structure StagePlan where
  sourceUri : JsString
  digest : Option JsString
  entry : JsString
  localEntry : Path
  artifactDir : Path
  packageManager : ArtifactPackageManager
  inputs : List PreparedArtifactInputMetadata
  deriving DecidableEq

/-- The arguments of a staging call after their defaults. -/
structure StageRequest where
  manifestId : JsString
  sourceUri : JsString
  digest : Option JsString
  entry : JsString
  packageManager : ArtifactPackageManager
  deriving DecidableEq

/-- Is an optional string truthy? -/
def truthy (s : Option JsString) : Bool := s.any (· ≠ [])

/-- The defaults of both staging functions, from the entry of the assignment's own
payload. `none`: the entry is missing, and the call throws. -/
def StageRequest.of (ownEntry : Option JsString) (assignment : Assignment)
    (manifest : Option ArtifactManifest) : Option StageRequest :=
  match (manifest.map (·.entry)).or ownEntry with
  | none => none
  | some entry =>
    if entry = [] then none
    else some
      { manifestId := (manifest.map (·.manifestId)).getD assignment.artifact.manifestId
        sourceUri := (manifest.map (·.sourceUri)).getD assignment.artifact.sourceUri
        digest := (manifest.bind (·.digest)).or assignment.artifact.digest
        entry
        packageManager := (manifest.map (·.packageManager)).getD (.bun none none none none) }

/-- The request of `stageHttpWorker`. -/
def StageRequest.ofHttpWorker (assignment : Assignment) (manifest : Option ArtifactManifest) :
    Option StageRequest :=
  StageRequest.of (assignment.httpWorker.map (·.entry)) assignment manifest

/-- The request of `stageServiceModule`. -/
def StageRequest.ofServiceModule (assignment : Assignment) (manifest : Option ArtifactManifest) :
    Option StageRequest :=
  StageRequest.of (assignment.serviceModule.map (·.entry)) assignment manifest

/-! ### Texts -/

/-- The units that `sanitizePathSegment` keeps: `[a-zA-Z0-9._-]`. -/
def keepsUnit (u : UInt16) : Bool :=
  (unit 'a' ≤ u && u ≤ unit 'z') || (unit 'A' ≤ u && u ≤ unit 'Z') ||
    (unit '0' ≤ u && u ≤ unit '9') || u = unit '.' || u = unit '_' || u = unit '-'

/-- `sanitizePathSegment`, after a unit that was replaced or not: a run of other units
becomes one underscore. -/
def sanitizeUnits : Bool → JsString → JsString
  | _, [] => []
  | replaced, u :: us =>
    if keepsUnit u then u :: sanitizeUnits false us
    else if replaced then sanitizeUnits true us
    else unit '_' :: sanitizeUnits true us

/-- `sanitizePathSegment`. -/
def sanitizePathSegment (value : JsString) : JsString := sanitizeUnits false value

/-- `isRemoteSourceRef`. -/
def isRemoteSourceRef (sourceRef : JsString) : Bool :=
  (js "http://").isPrefixOf sourceRef || (js "https://").isPrefixOf sourceRef

/-- Does it start with one of the three schemes the store knows? -/
def hasScheme (sourceRef : JsString) : Bool :=
  isRemoteSourceRef sourceRef || (js "file://").isPrefixOf sourceRef

/-- `isAbsoluteFileSystemPath`. -/
def isAbsoluteFileSystemPath (path : JsString) : Bool :=
  path.head? = some (unit '/') ||
    match path with
    | drive :: colon :: slash :: _ =>
      ((unit 'A' ≤ drive && drive ≤ unit 'Z') || (unit 'a' ≤ drive && drive ≤ unit 'z')) &&
        colon = unit ':' && (slash = unit '\\' || slash = unit '/')
    | _ => false

/-- `resolveLocalPackageFilePath`. -/
def resolveLocalPackageFilePath (artifactDir : Path) (packageFileRef fallbackName : JsString) :
    Path :=
  if hasScheme packageFileRef then Posix.join artifactDir fallbackName
  else if isAbsoluteFileSystemPath packageFileRef then Posix.join artifactDir fallbackName
  else Posix.join artifactDir packageFileRef

/-- The arguments `listProjectFiles` builds from: the logical name, the reference and the
fallback name of each file. -/
def packageFiles : ArtifactPackageManager → List (JsString × Option JsString × JsString)
  | .deno denoJson denoLock _ =>
    [(js "denoJson", denoJson, js "deno.json"), (js "denoLock", denoLock, js "deno.lock")]
  | .bun packageJson bunfigToml bunLock _ =>
    [(js "packageJson", packageJson, js "package.json"),
      (js "bunfigToml", bunfigToml, js "bunfig.toml"), (js "bunLock", bunLock, js "bun.lock")]

/-- `samePackageManager`. -/
def samePackageManager : ArtifactPackageManager → ArtifactPackageManager → Bool
  | .deno json lock frozen, .deno json' lock' frozen' =>
    frozen = frozen' && (json = json' && lock = lock')
  | .bun json toml lock frozen, .bun json' toml' lock' frozen' =>
    frozen = frozen' && (json = json' && toml = toml' && lock = lock')
  | _, _ => false

theorem samePackageManager_iff {left right : ArtifactPackageManager} :
    samePackageManager left right ↔ left = right := by
  cases left <;> cases right <;> simp [samePackageManager] <;> tauto

/-- `canReusePreparedInput`. -/
def canReusePreparedInput (stagedInput cachedInput : PreparedArtifactInputMetadata)
    (workerDigest : Option JsString) : Bool :=
  if isRemoteSourceRef stagedInput.sourceRef then
    (stagedInput.kind = .worker && truthy workerDigest) || stagedInput.kind = .workerArchive
  else stagedInput.fingerprint.isSome && stagedInput.fingerprint = cachedInput.fingerprint

/-- `createProjectPrepareKey`. -/
def createProjectPrepareKey (packageManager : ArtifactPackageManager)
    (inputs : List PreparedArtifactInputMetadata) : ProjectPrepareKey :=
  ⟨packageManager, inputs.filter (·.kind = .projectFile)⟩

/-! ### The file system -/

/-- The step of a staging that writes a file. -/
inductive Origin
  | worker
  | projectFile
  | tree
  | archive
  | metadata
  | prepareMetadata
  deriving DecidableEq

/-- A file, with the step that wrote it and the digest that its call declared. -/
structure File where
  content : Content
  origin : Origin
  digest : Option JsString
  deriving DecidableEq

/-- The files, by path. -/
abbrev Files := JsMap Path File

/-- `pathExists`: a file, or a directory with a file in it. -/
def Files.pathExists (files : Files) (p : Path) : Bool := files.keys.any fun q => p.isPrefixOf q

/-- The content of a file. -/
def Files.content (files : Files) (p : Path) : Option Content := (files.get p).map (·.content)

/-- An operation on single files: `rm` with `recursive` and `force`, or `writeFile`. -/
inductive FileOp
  | rm (path : Path)
  | write (path : Path) (content : Content) (origin : Origin)
  deriving DecidableEq

namespace FileOp

/-- The path an operation is given. -/
def path : FileOp → Path
  | rm path => path
  | write path _ _ => path

/-- The files after an operation of a call that declares `digest`. -/
def apply (digest : Option JsString) (files : Files) : FileOp → Files
  | rm path => files.filter fun q _ => !path.isPrefixOf q
  | write path content origin => files.set path ⟨content, origin, digest⟩

end FileOp

/-- The files after some operations of such a call. -/
def applyOps (digest : Option JsString) (files : Files) (ops : List FileOp) : Files :=
  ops.foldl (FileOp.apply digest) files

@[simp] theorem applyOps_nil (digest : Option JsString) (files : Files) :
    applyOps digest files [] = files := rfl

@[simp] theorem applyOps_cons (digest : Option JsString) (files : Files) (op : FileOp)
    (ops : List FileOp) :
    applyOps digest files (op :: ops) = applyOps digest (op.apply digest files) ops := rfl

theorem applyOps_append (digest : Option JsString) (files : Files) (ops ops' : List FileOp) :
    applyOps digest files (ops ++ ops') = applyOps digest (applyOps digest files ops) ops' :=
  List.foldl_append

/-- `readPreparedMetadata`. -/
def readPreparedMetadata (files : Files) (path : Path) : Option PreparedArtifactMetadata :=
  match files.get path with
  | some ⟨.artifactMeta metadata, _, _⟩ => some metadata
  | _ => none

/-- `readPreparedProjectState`, of which only the key is read. -/
def readPreparedProjectState (files : Files) (path : Path) : Option ProjectPrepareKey :=
  match files.get path with
  | some ⟨.prepareMeta key, _, _⟩ => some key
  | _ => none

/-- The file operations of a piece of a call, and whether it ends without a throw. -/
structure Script where
  ops : List FileOp
  completes : Bool
  deriving DecidableEq

namespace Script

/-- Nothing to do. -/
def done : Script := ⟨[], true⟩

/-- A throw. -/
def throw : Script := ⟨[], false⟩

/-- One after the other, unless the first one throws. -/
def andThen (first second : Script) : Script :=
  if first.completes then ⟨first.ops ++ second.ops, second.completes⟩ else first

/-- All of them in order, up to the first that throws. -/
def all : List Script → Script
  | [] => done
  | first :: rest => first.andThen (all rest)

theorem completes_andThen {first second : Script} :
    (first.andThen second).completes ↔ first.completes ∧ second.completes := by
  unfold andThen
  split_ifs with h <;> simp [h]

theorem ops_andThen {first second : Script} (h : first.completes) :
    (first.andThen second).ops = first.ops ++ second.ops := by
  simp [andThen, h]

theorem mem_ops_andThen {first second : Script} {op : FileOp}
    (h : op ∈ (first.andThen second).ops) : op ∈ first.ops ∨ op ∈ second.ops := by
  unfold andThen at h
  split_ifs at h
  · exact List.mem_append.1 h
  · exact .inl h

theorem completes_all {scripts : List Script} :
    (all scripts).completes ↔ ∀ s ∈ scripts, s.completes := by
  induction scripts with
  | nil => simp [all, done]
  | cons first rest ih => rw [all, completes_andThen, ih, List.forall_mem_cons]

theorem ops_all {scripts : List Script} (h : (all scripts).completes) :
    (all scripts).ops = scripts.flatMap (·.ops) := by
  induction scripts with
  | nil => rfl
  | cons first rest ih =>
    rw [all, completes_andThen] at h
    rw [all, ops_andThen h.1, ih h.2, List.flatMap_cons]

theorem mem_ops_all {scripts : List Script} {op : FileOp} (h : op ∈ (all scripts).ops) :
    ∃ s ∈ scripts, op ∈ s.ops := by
  induction scripts with
  | nil => simp [all, done] at h
  | cons first rest ih =>
    obtain h | h := mem_ops_andThen h
    · exact ⟨first, List.mem_cons_self, h⟩
    · obtain ⟨s, hs, hop⟩ := ih h
      exact ⟨s, List.mem_cons_of_mem _ hs, hop⟩

end Script

/-! ### The calls -/

/-- `Stats`. -/
structure FileStat where
  isDirectory : Bool
  size : Float64
  mtimeMs : Float64

/-- What one call finds on the host. A result `none` is a throw, a response that is not
`ok` included; `tar` and `bun` may write part of their files before they fail. -/
structure Host where
  stat : Path → Option FileStat
  readFile : Path → Option Content
  fetch : JsString → Option Content
  /-- The files below a directory, by the path from there. -/
  tree : Path → Option (List (Path × Content))
  /-- What `tar` takes out of an archive, and whether it ends well. -/
  untar : Content → List (Path × Content) × Bool
  /-- Does `bun install` end well? -/
  install : Bool

/-- What never changes: the options of `ArtifactStore`, and the platform. -/
structure ArtifactStore where
  rootDir : Path
  cwd : Path
  /-- `new URL(_).pathname`. -/
  urlPathname : JsString → Option JsString
  /-- `new URL(_, base).href`. -/
  urlHref : JsString → JsString → Option JsString
  fileURLToPath : JsString → Option Path
  /-- `createHash(algorithm).update(_).digest("hex")`. -/
  createHash : JsString → Content → JsString

namespace ArtifactStore

variable (store : ArtifactStore) (host : Host)

/-- `verifyDigest`: does it return? -/
def verifyDigest (source : Content) : Option JsString → Bool
  | none => true
  | some digest =>
    if digest = [] then true
    else
      -- `[algorithm, expected]`, the first two pieces when there is a colon
      let pieces := if unit ':' ∈ digest then (digest.splitOn (unit ':')).take 2
        else [js "sha256", digest]
      let algorithm := pieces.headD []
      let expected := pieces.getD 1 []
      if expected = [] then false
      else if algorithm ≠ js "sha256" ∧ algorithm ≠ js "sha512" then false
      else store.createHash algorithm source = expected

/-- `isArchiveSourceRef`. -/
def isArchiveSourceRef (sourceRef : JsString) : Option Bool :=
  (if hasScheme sourceRef then store.urlPathname sourceRef else some sourceRef).map fun pathname =>
    (js ".tgz").isSuffixOf pathname || (js ".tar.gz").isSuffixOf pathname

/-- `resolveLocalSourcePath`. -/
def resolveLocalSourcePath (sourceRef : JsString) : Option Path :=
  if (js "file://").isPrefixOf sourceRef then store.fileURLToPath sourceRef
  else some (Posix.resolve store.cwd sourceRef)

/-- `isDirectorySourceRef`, which takes a throw for `false`. -/
def isDirectorySourceRef (sourceRef : JsString) : Bool :=
  if isRemoteSourceRef sourceRef then false
  else ((store.resolveLocalSourcePath sourceRef).bind host.stat).any (·.isDirectory)

/-- `computeSourceFingerprint`. -/
def computeSourceFingerprint (sourceRef : JsString) : Option (Option JsString) :=
  if isRemoteSourceRef sourceRef then some none
  else do
    let isArchive ← store.isArchiveSourceRef sourceRef
    let path ← store.resolveLocalSourcePath sourceRef
    if isArchive then
      let source ← host.readFile path
      some (some (store.createHash (js "sha256") source))
    else
      let sourceStat ← host.stat path
      some (some (JsNumber.toText sourceStat.size ++ js ":" ++ JsNumber.toText sourceStat.mtimeMs))

/-- `resolveCompanionSourceRef`. -/
def resolveCompanionSourceRef (workerSourceUri packageFileRef : JsString) : Option JsString :=
  if hasScheme packageFileRef then some packageFileRef
  else if hasScheme workerSourceUri then store.urlHref packageFileRef workerSourceUri
  else some (Posix.toText (Posix.resolve
    (Posix.resolve store.cwd (Posix.dirname workerSourceUri)) packageFileRef))

/-- `buildProjectFile`, already as an input of a plan. `some none`: there is no such file. -/
def buildProjectFile (logicalName : JsString) (fileRef : Option JsString) (artifactDir : Path)
    (workerSourceUri fallbackName : JsString) : Option (Option PreparedArtifactInputMetadata) :=
  match fileRef with
  | none => some none
  | some ref =>
    if ref = [] then some none
    else (store.resolveCompanionSourceRef workerSourceUri ref).map fun sourceRef => some
      { kind := .projectFile
        logicalName
        sourceRef
        targetPath := resolveLocalPackageFilePath artifactDir ref fallbackName }

/-- `listProjectFiles`. -/
def listProjectFiles (packageManager : ArtifactPackageManager) (artifactDir : Path)
    (workerSourceUri : JsString) : Option (List PreparedArtifactInputMetadata) :=
  ((packageFiles packageManager).mapM fun f =>
    store.buildProjectFile f.1 f.2.1 artifactDir workerSourceUri f.2.2).map List.reduceOption

/-- An input with its fingerprint. -/
def withFingerprint (input : PreparedArtifactInputMetadata) :
    Option PreparedArtifactInputMetadata :=
  (store.computeSourceFingerprint host input.sourceRef).map fun fingerprint =>
    { input with fingerprint }

/-- `artifactDir` of a manifest id. -/
def artifactDir (manifestId : JsString) : Path :=
  Posix.join store.rootDir (sanitizePathSegment manifestId)

/-- `localEntry` of a request. -/
def localEntry (r : StageRequest) : Path := Posix.join (store.artifactDir r.manifestId) r.entry

/-- The first input of a plan: a single file, a directory or an archive. -/
def mainInput (r : StageRequest) (isDirectory isArchive : Bool) : PreparedArtifactInputMetadata :=
  if isArchive then
    { kind := .workerArchive, sourceRef := r.sourceUri, targetPath := store.artifactDir r.manifestId }
  else if isDirectory then
    { kind := .workerDirectory, sourceRef := r.sourceUri
      targetPath := store.artifactDir r.manifestId }
  else { kind := .worker, sourceRef := r.sourceUri, targetPath := store.localEntry r }

/-- The project files of a plan: those of a single file only. -/
def planProjectFiles (r : StageRequest) (isDirectory isArchive : Bool) :
    Option (List PreparedArtifactInputMetadata) :=
  if isDirectory || isArchive then some []
  else store.listProjectFiles r.packageManager (store.artifactDir r.manifestId) r.sourceUri

/-- `buildStagePlan`. -/
def buildStagePlan (r : StageRequest) : Option StagePlan := do
  let sourceIsDirectory := store.isDirectorySourceRef host r.sourceUri
  let sourceIsArchive ← store.isArchiveSourceRef r.sourceUri
  let main ← store.withFingerprint host (store.mainInput r sourceIsDirectory sourceIsArchive)
  let projectFiles ← store.planProjectFiles r sourceIsDirectory sourceIsArchive
  let projectInputs ← projectFiles.mapM (store.withFingerprint host)
  some
    { sourceUri := r.sourceUri
      digest := r.digest
      entry := r.entry
      localEntry := store.localEntry r
      artifactDir := store.artifactDir r.manifestId
      packageManager := r.packageManager
      inputs := main :: projectInputs }

/-- `readSource` and `readSourceBytes`. -/
def readSource (sourceUri : JsString) : Option Content :=
  if isRemoteSourceRef sourceUri then host.fetch sourceUri
  else (store.resolveLocalSourcePath sourceUri).bind host.readFile

end ArtifactStore

namespace StagePlan

/-- `metadataPath`. -/
def metadataPath (plan : StagePlan) : Path :=
  Posix.join plan.artifactDir (js ".artifact-meta.json")

/-- `prepareMetadataPath`. -/
def prepareMetadataPath (plan : StagePlan) : Path :=
  Posix.join plan.artifactDir (js ".artifact-prepare-meta.json")

/-- The metadata that certifies what was staged. -/
def metadata (plan : StagePlan) : PreparedArtifactMetadata where
  sourceUri := plan.sourceUri
  digest := plan.digest
  entry := plan.entry
  packageManager := plan.packageManager
  inputs := plan.inputs

/-- `prepareKey`. -/
def prepareKey (plan : StagePlan) : ProjectPrepareKey :=
  createProjectPrepareKey plan.packageManager plan.inputs

/-- Does `ensureProjectPrepared` have anything to prepare? -/
def preparesProject (plan : StagePlan) : Bool :=
  match plan.packageManager with
  | .bun packageJson _ _ _ => truthy packageJson
  | .deno _ _ _ => false

end StagePlan

/-- The comparison of one input with the metadata of the last staging. -/
def sameInput (files : Files) (digest : Option JsString)
    (stagedInput cachedInput : PreparedArtifactInputMetadata) : Bool :=
  (cachedInput.kind = stagedInput.kind && cachedInput.logicalName = stagedInput.logicalName &&
      cachedInput.sourceRef = stagedInput.sourceRef &&
      cachedInput.targetPath = stagedInput.targetPath) &&
    files.pathExists stagedInput.targetPath && canReusePreparedInput stagedInput cachedInput digest

/-- `canReusePreparedArtifact`. -/
def canReusePreparedArtifact (files : Files) (currentMetadata : Option PreparedArtifactMetadata)
    (plan : StagePlan) : Bool :=
  match currentMetadata with
  | none => false
  | some current =>
    (current.sourceUri = plan.sourceUri && current.digest = plan.digest &&
        current.entry = plan.entry) &&
      (samePackageManager current.packageManager plan.packageManager &&
        current.inputs.length = plan.inputs.length) &&
      (plan.inputs.zip current.inputs).all fun p => sameInput files plan.digest p.1 p.2

namespace ArtifactStore

variable (store : ArtifactStore) (host : Host)

/-- Does a staging with this plan reuse what it finds? -/
def reuses (files : Files) (plan : StagePlan) : Bool :=
  canReusePreparedArtifact files (readPreparedMetadata files plan.metadataPath) plan

/-- The files of a tree, copied below a path. -/
def copyTree (target : Path) (tree : List (Path × Content)) : List FileOp :=
  tree.map fun f => .write (target ++ f.1) f.2 .tree

/-- `extractArchiveSource`. -/
def extractArchiveSource (sourceUri : JsString) (artifactDir : Path) (digest : Option JsString) :
    Script :=
  match store.readSource host sourceUri with
  | none => .throw
  | some archive =>
    if store.verifyDigest archive digest then
      let archivePath := Posix.join artifactDir (js ".artifact-source.tgz")
      let (tree, ok) := host.untar archive
      Script.andThen
        ⟨.rm artifactDir :: .write archivePath archive .archive :: copyTree artifactDir tree, ok⟩
        ⟨[.rm archivePath], true⟩
    else .throw

/-- Staging one input of a plan. -/
def stageInput (digest : Option JsString) (input : PreparedArtifactInputMetadata) : Script :=
  match input.kind with
  | .workerDirectory =>
    ⟨.rm input.targetPath :: copyTree input.targetPath
      (((store.resolveLocalSourcePath input.sourceRef).bind host.tree).getD []),
      ((store.resolveLocalSourcePath input.sourceRef).bind host.tree).isSome⟩
  | .workerArchive => store.extractArchiveSource host input.sourceRef input.targetPath digest
  | .worker =>
    match store.readSource host input.sourceRef with
    | none => .throw
    | some source =>
      if store.verifyDigest source digest then ⟨[.write input.targetPath source .worker], true⟩
      else .throw
  | .projectFile =>
    match store.readSource host input.sourceRef with
    | none => .throw
    | some source => ⟨[.write input.targetPath source .projectFile], true⟩

/-- The inputs of a plan and the metadata. -/
def stageInputs (plan : StagePlan) : Script :=
  (Script.all (plan.inputs.map (store.stageInput host plan.digest))).andThen
    ⟨[.write plan.metadataPath (.artifactMeta plan.metadata) .metadata], true⟩

/-- `ensureProjectPrepared`. -/
def ensureProjectPrepared (host : Host) (files : Files) (plan : StagePlan) : Script :=
  if plan.preparesProject then
    if readPreparedProjectState files plan.prepareMetadataPath = some plan.prepareKey then .done
    else if host.install then
      ⟨[.write plan.prepareMetadataPath (.prepareMeta plan.prepareKey) .prepareMetadata], true⟩
    else .throw
  else .done

/-- A staging call with a plan, on the files it finds. -/
def stagePlanned (files : Files) (plan : StagePlan) : Script :=
  if reuses files plan then ensureProjectPrepared host files plan
  else
    let staged := store.stageInputs host plan
    staged.andThen (ensureProjectPrepared host (applyOps plan.digest files staged.ops) plan)

end ArtifactStore

end Hardess

import Hardess.Control.ApplyOutcomes
import Hardess.Control.Stagings
import Hardess.Ingress.Http

/-!
# Workers: staging, publishing, loading

One host while `applyDesiredHostState` stages the next generation and requests run the workers
of the active one: `src/runtime/control/artifact-store.ts` writes the files of all generations
in place, `src/runtime/workers/loader.ts` reads them, and the subscriber in `src/runtime/app.ts`
invalidates the loader's cache when a configuration is published.

* the file operations of a staging are single steps, and so are the two awaits of `loadWorker`
  (`stat`, `readFile`) and the settling of its promise, with requests at any moment between them;
* the stagings of a call come in any order, and each may fail after any of its operations;
  `finish` is the rest of the call, `RuntimeHostAdapter.applyDesiredHostState`;
* the code of a worker is the content of its entry file; shadow copies and what the entry imports
  are not followed.
-/

namespace Hardess

open Posix (Path)

/-! ### Generations -/

/-- A worker that has been staged, with the content of its entry when the staging returned. -/
structure StagedWorker where
  /-- The position of its assignment in the desired state. -/
  position : ℕ
  entry : Path
  code : Option Content
  deriving DecidableEq

/-- What a call published when it resolved: the pipelines and the workers staged for them. -/
structure Generation where
  pipelines : List PipelineConfig
  workers : List StagedWorker

/-- The `worker.entry` of all pipelines, as the subscriber in `app.ts` collects them. -/
def workerEntries (pipelines : List PipelineConfig) : List Path :=
  pipelines.filterMap fun pipeline => pipeline.worker.map (·.entry)

/-- The worker that `runWorker` loads for a path. -/
def workerEntry (pathname : JsString) (pipelines : List PipelineConfig) : Option Path :=
  (findPipeline pathname pipelines).bind fun pipeline => pipeline.worker.map (·.entry)

theorem mem_workerEntries {pipelines : List PipelineConfig} {entry : Path} :
    entry ∈ workerEntries pipelines ↔
      ∃ pipeline ∈ pipelines, ∃ worker, pipeline.worker = some worker ∧ worker.entry = entry := by
  simp [workerEntries]

theorem workerEntries_append (pipelines pipelines' : List PipelineConfig) :
    workerEntries (pipelines ++ pipelines') = workerEntries pipelines ++ workerEntries pipelines' :=
  List.filterMap_append

/-- What `runWorker` loads is the worker of a pipeline. -/
theorem mem_workerEntries_of_workerEntry {pathname : JsString} {pipelines : List PipelineConfig}
    {entry : Path} (h : workerEntry pathname pipelines = some entry) :
    entry ∈ workerEntries pipelines := by
  obtain ⟨pipeline, hfind, hentry⟩ := Option.bind_eq_some_iff.1 h
  obtain ⟨worker, hworker, hentry⟩ := Option.map_eq_some_iff.1 hentry
  have hmem := List.mem_of_find?_eq_some hfind
  exact mem_workerEntries.2
    ⟨pipeline, (List.mem_insertionSort _).1 hmem, worker, hworker, hentry⟩

namespace Generation

/-- The codes that were staged at an entry. -/
def codesAt (active : Generation) (entry : Path) : List (Option Content) :=
  (active.workers.filter (·.entry = entry)).map (·.code)

/-- What a request is to run: no code at all if its pipeline has no worker. -/
def due (active : Generation) (pathname : JsString) : List (Option Content) :=
  match workerEntry pathname active.pipelines with
  | none => [none]
  | some entry => active.codesAt entry

end Generation

/-! ### A call in progress -/

/-- Does an assignment refer to any route? -/
def hasRoutes (assignment : Assignment) : Bool :=
  (httpExecutable assignment).any fun executable => executable.routeRefs.getD [] ≠ []

/-- How an assignment is staged, if it is. -/
def stageArgs (options : RuntimeHostAdapterOptions) (artifacts : JsMap JsString ArtifactManifest)
    (assignment : Assignment) : Option StageArgs :=
  let manifest := artifacts.get assignment.artifact.manifestId
  if assignment.deploymentKind = .serviceModule then
    if options.managesServiceModules then some ⟨.serviceModule, assignment, manifest⟩ else none
  else
    match httpExecutable assignment with
    | none => none
    | some executable =>
      if isExternalServe assignment executable then none
      else some ⟨.httpWorker, assignment, manifest⟩

/-- `applyDesiredHostState`, with the workers that it has staged. -/
structure Applying where
  desired : DesiredHostState
  artifacts : JsMap JsString ArtifactManifest
  staged : List StagedWorker := []

/-- The workers that its pipelines will have. -/
def Applying.workers (applying : Applying) : List StagedWorker :=
  applying.staged.filter fun w => applying.desired.assignments[w.position]?.any hasRoutes

/-- A staging under way: the operations that are left, and what it returns after them. -/
structure StagingInProgress where
  position : ℕ
  kind : StageKind
  digest : Option JsString
  ops : List FileOp
  returned : Option Path

/-- Its next operation. -/
def StagingInProgress.next (staging : StagingInProgress) : Option (FileOp × StagingInProgress) :=
  match staging.ops with
  | [] => none
  | op :: ops => some (op, { staging with ops })

/-- What happens to a call besides its stagings. -/
structure ApplyOutcome (η : Type) where
  stageError : ℕ → JsString
  loaded : ℕ → Except JsString (Path × HardessServiceModule η)
  configListenersReturn : Bool
  topologyListenersReturn : Bool
  now : ℕ

/-! ### The loader -/

/-- `CachedWorker`; a promise is a position in the list of loads. -/
structure CachedWorker where
  mtimeMs : ℕ
  promise : ℕ
  deriving DecidableEq

/-- A call of `loadWorker` that reads the file. -/
structure WorkerLoad where
  entry : Path
  /-- The number of configurations published when it began. -/
  generation : ℕ
  /-- `cached`, which a load that fails puts back. -/
  previous : Option CachedWorker
  /-- What `readFile` gave, when it has. -/
  source : Option (Option Content) := none
  settled : Bool := false
  deriving DecidableEq

/-- How far a request is. -/
inductive Progress
  | arrived
  | statted (mtimeMs : ℕ)
  | awaiting (promise : ℕ)
  /-- It ran this code, before another configuration was published or not. -/
  | handled (ran : Option Content) (inTime : Bool)
  deriving DecidableEq

/-- A request, with the worker of its pipeline and what the active generation staged for it. -/
structure WorkerRequest where
  entry : Option Path
  due : List (Option Content)
  generation : ℕ
  progress : Progress
  deriving DecidableEq

/-! ### The machine -/

/-- What never changes. `isWorkerModule` is `parseWorkerModuleExport`, or else
`parseServeModuleExport`, on what a source exports. -/
structure WorkerPlatform where
  store : ArtifactStore
  adapter : AdapterPlatform
  options : RuntimeHostAdapterOptions
  isWorkerModule : Content → Bool

/-- A host. -/
structure WorkerRuntime (η : Type) where
  adapter : RuntimeHostAdapter η
  files : Files
  /-- What `stat` gives for a file that has been written. -/
  mtimes : JsMap Path ℕ := .empty
  /-- The generation of the last call that resolved. -/
  active : Generation
  applying : Option Applying := none
  staging : Option StagingInProgress := none
  /-- The number of configurations published. -/
  generation : ℕ := 0
  cache : JsMap Path CachedWorker := .empty
  loads : List WorkerLoad := []
  requests : List WorkerRequest := []

/-- The events. -/
inductive WorkerEvent (η : Type)
  | apply (desired : DesiredHostState) (artifacts : JsMap JsString ArtifactManifest)
  | stage (position : ℕ) (host : Host) (cut : Option ℕ)
  | perform (mtimeMs : ℕ)
  | staged
  | finish (outcome : ApplyOutcome η)
  | request (pathname : JsString)
  | stat (id : ℕ)
  | lookup (id : ℕ)
  | read (promise : ℕ)
  | settle (promise : ℕ)
  | run (id : ℕ)

/-- `invalidateWorkers`. -/
def invalidateWorkers (entries : List Path) (cache : JsMap Path CachedWorker) :
    JsMap Path CachedWorker :=
  entries.foldl JsMap.delete cache

namespace WorkerRuntime

variable {η : Type} (wp : WorkerPlatform) (s : WorkerRuntime η)

/-! ### Applying -/

/-- A call begins; the reconciler makes one at a time. -/
def apply (desired : DesiredHostState) (artifacts : JsMap JsString ArtifactManifest) :
    WorkerRuntime η :=
  match s.applying with
  | some _ => s
  | none => { s with applying := some { desired, artifacts } }

/-- The staging call for the assignment at a position. -/
def stagingCall (position : ℕ) (host : Host) (cut : Option ℕ) : Option StageCall :=
  if s.staging.isSome then none
  else s.applying.bind fun applying =>
    (applying.desired.assignments[position]?.bind (stageArgs wp.options applying.artifacts)).map
      fun args => { toStageArgs := args, host, cut }

/-- A staging begins: it makes its plan and finds what it finds. -/
def stage (position : ℕ) (host : Host) (cut : Option ℕ) : WorkerRuntime η :=
  match s.stagingCall wp position host cut with
  | none => s
  | some call =>
    { s with
      staging := some
        { position
          kind := call.kind
          digest := (call.plan wp.store).bind (·.digest)
          ops := call.performed wp.store s.files
          returned := if call.returns wp.store s.files then
              (call.plan wp.store).map (·.localEntry) else none } }

/-- It performs its next file operation. -/
def perform (mtimeMs : ℕ) : WorkerRuntime η :=
  match s.staging.bind StagingInProgress.next with
  | none => s
  | some (op, staging) =>
    { s with
      files := op.apply staging.digest s.files
      mtimes := s.mtimes.set op.path mtimeMs
      staging := some staging }

/-- What a staging that ends leaves in the call. -/
def recordStaging (files : Files) (staging : StagingInProgress) (applying : Applying) : Applying :=
  match staging.kind, staging.returned with
  | .httpWorker, some entry =>
    { applying with
      staged := applying.staged ++ [⟨staging.position, entry, files.content entry⟩] }
  | _, _ => applying

/-- It ends. -/
def staged : WorkerRuntime η :=
  match s.staging with
  | none => s
  | some staging =>
    if staging.ops = [] then
      { s with
        applying := s.applying.map (recordStaging s.files staging)
        staging := none }
    else s

/-- The call, with what its stagings gave. -/
def applyCall (applying : Applying) (outcome : ApplyOutcome η) : ApplyCall η where
  desired := applying.desired
  staged := fun position =>
    match applying.staged.find? (·.position = position) with
    | some w => .ok w.entry
    | none => .error (outcome.stageError position)
  loaded := outcome.loaded
  configListenersReturn := outcome.configListenersReturn
  topologyListenersReturn := outcome.topologyListenersReturn
  now := outcome.now

/-- Does a call that rejects there, or nowhere, publish its configuration? -/
def publishes : Option ApplyStep → Bool
  | none | some .configListeners | some .topologyListeners => true
  | _ => false

/-- The subscriber of `app.ts`, when `pipelines` have replaced those that were live. -/
def publish (pipelines : List PipelineConfig) : WorkerRuntime η :=
  { s with
    generation := s.generation + 1
    cache := invalidateWorkers
      (workerEntries s.adapter.config.pipelines ++ workerEntries pipelines) s.cache }

/-- The rest of the call. -/
def finish (outcome : ApplyOutcome η) : WorkerRuntime η :=
  if s.staging.isSome then s
  else
    match s.applying with
    | none => s
    | some applying =>
      let call := applyCall applying outcome
      let (adapter, resolves) :=
        s.adapter.applyDesiredHostState wp.adapter wp.options call
      let published :=
        if publishes (s.adapter.failsAt wp.adapter wp.options call) then
          s.publish adapter.config.pipelines else s
      { published with
        adapter
        applying := none
        active := if resolves then ⟨adapter.config.pipelines, applying.workers⟩ else s.active }

/-! ### Requests -/

/-- A request is matched with its pipeline. -/
def request (pathname : JsString) : WorkerRuntime η :=
  let entry := workerEntry pathname s.adapter.config.pipelines
  { s with
    requests := s.requests ++
      [{ entry
         due := s.active.due pathname
         generation := s.generation
         progress := if entry.isSome then .arrived else .handled none true }] }

/-- The progress of a request. -/
def advance (id : ℕ) (progress : Progress) : WorkerRuntime η :=
  { s with requests := s.requests.modify id fun r => { r with progress } }

/-- A request runs a code, or fails for want of one. -/
def handle (id : ℕ) (r : WorkerRequest) (ran : Option Content) : WorkerRuntime η :=
  s.advance id (.handled ran (r.generation = s.generation))

/-- `stat`, which finds directories too. -/
def statFile (p : Path) : Option ℕ :=
  if s.files.pathExists p then some ((s.mtimes.get p).getD 0) else none

/-- `loadWorker`, up to its first await. -/
def stat (id : ℕ) : WorkerRuntime η :=
  match s.requests[id]? with
  | none => s
  | some r =>
    match r.entry, r.progress with
    | some entry, .arrived =>
      match s.statFile entry with
      | none => s.handle id r none
      | some mtimeMs => s.advance id (.statted mtimeMs)
    | _, _ => s

/-- A load that reads the file takes its place in the cache. -/
def startLoad (id : ℕ) (entry : Path) (mtimeMs : ℕ) : WorkerRuntime η :=
  { s.advance id (.awaiting s.loads.length) with
    loads := s.loads ++
      [{ entry, generation := s.generation, previous := s.cache.get entry }]
    cache := s.cache.set entry ⟨mtimeMs, s.loads.length⟩ }

/-- `loadWorker`, from the result of `stat` to the next await. -/
def lookup (id : ℕ) : WorkerRuntime η :=
  match s.requests[id]? with
  | none => s
  | some r =>
    match r.entry, r.progress with
    | some entry, .statted mtimeMs =>
      match s.cache.get entry with
      | none => s.startLoad id entry mtimeMs
      | some cached =>
        if cached.mtimeMs = mtimeMs then s.advance id (.awaiting cached.promise)
        else s.startLoad id entry mtimeMs
    | _, _ => s

/-- `readFile` of a load. -/
def read (promise : ℕ) : WorkerRuntime η :=
  { s with
    loads := s.loads.modify promise fun load =>
      if load.source.isSome then load
      else { load with source := some (s.files.content load.entry) } }

/-- The cache after a load that failed. -/
def restore (promise : ℕ) (load : WorkerLoad) : JsMap Path CachedWorker :=
  if (s.cache.get load.entry).any (·.promise = promise) then
    match load.previous with
    | some cached => s.cache.set load.entry cached
    | none => s.cache.delete load.entry
  else s.cache

/-- The promise of a load settles. -/
def settle (promise : ℕ) : WorkerRuntime η :=
  match s.loads[promise]? with
  | none => s
  | some load =>
    match load.source with
    | none => s
    | some source =>
      if load.settled then s
      else
        { s with
          loads := s.loads.modify promise fun load => { load with settled := true }
          cache := if source.any wp.isWorkerModule then s.cache else s.restore promise load }

/-- A request whose load has settled goes on. -/
def run (id : ℕ) : WorkerRuntime η :=
  match s.requests[id]? with
  | none => s
  | some r =>
    match r.progress with
    | .awaiting promise =>
      match s.loads[promise]? with
      | none => s
      | some load =>
        match load.source with
        | none => s
        | some source => if load.settled then s.handle id r source else s
    | _ => s

/-- One step. -/
def step : WorkerEvent η → WorkerRuntime η
  | .apply desired artifacts => s.apply desired artifacts
  | .stage position host cut => s.stage wp position host cut
  | .perform mtimeMs => s.perform mtimeMs
  | .staged => s.staged
  | .finish outcome => s.finish wp outcome
  | .request pathname => s.request pathname
  | .stat id => s.stat id
  | .lookup id => s.lookup id
  | .read promise => s.read promise
  | .settle promise => s.settle wp promise
  | .run id => s.run id

/-- A host with some files and a configuration, whose workers are what the files hold. -/
def start (adapter : RuntimeHostAdapter η) (files : Files) : WorkerRuntime η where
  adapter
  files
  active :=
    { pipelines := adapter.config.pipelines
      workers := (workerEntries adapter.config.pipelines).map fun entry =>
        ⟨0, entry, files.content entry⟩ }

end WorkerRuntime

/-! ### Isolation -/

/-- A request that was handled in time ran the code that was staged for it. -/
def WorkerRequest.Isolated (r : WorkerRequest) : Prop :=
  match r.progress with
  | .handled ran true => r.due ≠ [] ∧ ∀ code ∈ r.due, code = ran
  | _ => True

instance (r : WorkerRequest) : Decidable r.Isolated := by
  unfold WorkerRequest.Isolated
  cases r.progress with
  | handled ran inTime => cases inTime <;> infer_instance
  | _ => infer_instance

/-- Every request did. -/
def WorkerRuntime.Isolated {η : Type} (s : WorkerRuntime η) : Prop := ∀ r ∈ s.requests, r.Isolated

end Hardess

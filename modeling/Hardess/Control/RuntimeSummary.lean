import Hardess.Control.Replanning

/-!
# Runtime summaries

What a host reports of its pipelines and protocol packages (`src/runtime/runtime-summary.ts` and
`collectObservedHostState`), and how `src/sdk/admin/planning.ts` reads it, as a value of unknown
type.

* `buildRuntimeSummaryView`: the summary, as the JSON value that is sent;
* `listObservedPipelineIds`, `listObservedProtocolPackageIds`: what is read of it;
* `isRuntimePipelineIdForDeployment`: a pipeline is attributed to a deployment by a part of its id.
-/

namespace Hardess

/-! ### What a host reports -/

/-- An element of `activeProtocolPackages`. -/
structure ServiceModuleProtocolPackageRef where
  packageId : JsString
  digest : JsString
  assignmentId : Option JsString := none
  deploymentId : Option JsString := none
  declaredVersion : Option JsString := none
  deriving DecidableEq

/-- A property that is there if it has a value. -/
def optionalMember (key : JsString) (value : Option Json) : List (JsString × Json) :=
  (value.map fun value => (key, value)).toList

/-- The value that is sent. -/
def ServiceModuleProtocolPackageRef.toJson (ref : ServiceModuleProtocolPackageRef) : Json :=
  .obj ([(js "packageId", .str ref.packageId), (js "digest", .str ref.digest)] ++
    optionalMember (js "assignmentId") (ref.assignmentId.map .str) ++
    optionalMember (js "deploymentId") (ref.deploymentId.map .str) ++
    optionalMember (js "declaredVersion") (ref.declaredVersion.map .str))

/-- `left.localeCompare(right) || next`, compared with zero. -/
def localeThen (precedes : JsString → JsString → Bool) (left right : JsString) (next : Bool) :
    Bool :=
  if precedes left right && precedes right left then next else precedes left right

/-- `compareProtocolPackageRefs`. -/
def compareProtocolPackageRefs (precedes : JsString → JsString → Bool)
    (left right : ServiceModuleProtocolPackageRef) : Bool :=
  localeThen precedes left.packageId right.packageId <|
  localeThen precedes (left.deploymentId.getD []) (right.deploymentId.getD []) <|
  precedes (left.assignmentId.getD []) (right.assignmentId.getD [])

/-- Sort strings by `localeCompare`. -/
def sortLocale (precedes : JsString → JsString → Bool) (strings : List JsString) : List JsString :=
  strings.insertionSort fun left right => precedes left right = true

/-- `sortedKeys`. -/
def sortedKeys {ν : Type} (precedes : JsString → JsString → Bool)
    (input : Option (List (JsString × ν))) : Option (List JsString) :=
  let keys := sortLocale precedes ((input.getD []).map Prod.fst)
  if 0 < keys.length then some keys else none

/-- `countKeys`. -/
def countKeys {ν : Type} (input : Option (List (JsString × ν))) : ℕ := (input.getD []).length

/-- `buildPipelineView`. -/
def buildPipelineView (precedes : JsString → JsString → Bool) (pipeline : PipelineConfig) : Json :=
  let deployment := pipeline.worker.bind (·.deployment)
  let keys := fun (keys : List JsString) => Json.arr (keys.map .str)
  let deploymentSecretCount := countKeys (deployment.bind (·.secrets))
  .obj ([(js "pipelineId", .str pipeline.id), (js "matchPrefix", .str pipeline.matchPrefix)] ++
    optionalMember (js "groupId") (pipeline.groupId.map .str) ++
    [(js "authRequired", .bool pipeline.authRequired),
     (js "downstreamOrigin", .str pipeline.downstream.origin),
     (js "downstreamConnectTimeoutMs", .num pipeline.downstream.connectTimeoutMs),
     (js "downstreamResponseTimeoutMs", .num pipeline.downstream.responseTimeoutMs),
     (js "websocketEnabled", .bool (pipeline.downstream.websocket.getD false)),
     (js "workerConfigured", .bool pipeline.worker.isSome)] ++
    match pipeline.worker with
    | none => []
    | some worker =>
      [(js "workerEntry", .str (Posix.toText worker.entry)),
       (js "workerTimeoutMs", .num worker.timeoutMs)] ++
      optionalMember (js "deploymentInstanceKey")
        ((deployment.bind (·.instanceKey)).map .str) ++
      optionalMember (js "deploymentConfigKeys")
        ((sortedKeys precedes (deployment.bind (·.config))).map keys) ++
      optionalMember (js "deploymentBindingKeys")
        ((sortedKeys precedes (deployment.bind (·.bindings))).map keys) ++
      optionalMember (js "deploymentSecretCount")
        (if 0 < deploymentSecretCount then some (.num (.ofNat deploymentSecretCount)) else none))

/-- `buildRuntimeSummaryView`. -/
def buildRuntimeSummaryView (precedes : JsString → JsString → Bool) (config : HardessConfig)
    (activeProtocolPackages : List ServiceModuleProtocolPackageRef) : Json :=
  .obj [
    (js "pipelineCount", .num (.ofNat config.pipelines.length)),
    (js "pipelines", .arr ((config.pipelines.insertionSort fun left right =>
      precedes left.id right.id = true).map (buildPipelineView precedes))),
    (js "activeProtocolPackages", .arr ((activeProtocolPackages.insertionSort fun left right =>
      compareProtocolPackageRefs precedes left right = true).map
        ServiceModuleProtocolPackageRef.toJson))]

/-- What `listActiveProtocolPackages` says of an active module. -/
def ActiveServiceModule.toRef {η : Type} (active : ActiveServiceModule η) :
    ServiceModuleProtocolPackageRef where
  packageId := active.packageId
  digest := active.digest
  assignmentId := some active.assignmentId
  deploymentId := some active.deploymentId
  declaredVersion := some active.declaredVersion

/-- `listActiveProtocolPackages`. -/
def ServiceModuleManager.listActiveProtocolPackages {η : Type}
    (precedes : JsString → JsString → Bool) (mgr : ServiceModuleManager η) :
    List ServiceModuleProtocolPackageRef :=
  ((mgr.activeByAssignmentId.entries.map fun e => e.2.toRef)).insertionSort fun left right =>
    localeThen precedes left.packageId right.packageId
      (precedes (left.assignmentId.getD []) (right.assignmentId.getD [])) = true

/-- `ObservedHostState`, with what the read model reads of `dynamicState`. -/
structure ReportedHostState extends ObservedHostState where
  runtimeSummary : Option Json := none
  dynamicFields : Option (List (JsString × Json)) := none

/-- `collectObservedHostState`; `ready`, `shuttingDown` and `dynamicFields` come from the app and
the options. -/
def RuntimeHostAdapter.reportedHostState {η : Type} (options : RuntimeHostAdapterOptions)
    (adapter : RuntimeHostAdapter η) (precedes : JsString → JsString → Bool)
    (ready shuttingDown : Bool) (dynamicFields : List (JsString × Json)) : ReportedHostState where
  toObservedHostState := adapter.observedHostState options precedes ready shuttingDown
  runtimeSummary := some (buildRuntimeSummaryView precedes adapter.config
    (if options.managesServiceModules then adapter.manager.listActiveProtocolPackages precedes
      else []))
  dynamicFields := some dynamicFields

/-! ### Reading a summary -/

/-- `observed?.dynamicState.runtimeSummary ?? observed?.dynamicState.dynamicFields?.runtimeSummary`.
-/
def ReportedHostState.summary (observed : ReportedHostState) : Option Json :=
  match observed.runtimeSummary with
  | none | some .null => observed.dynamicFields.bind fun fields =>
      Json.lookup fields (js "runtimeSummary")
  | some summary => some summary

/-- An array that is a property of a value of unknown type. -/
def arrayField (value : Option Json) (key : JsString) : Option (List Json) :=
  match value.bind (·.get? key) with
  | some (.arr xs) => some xs
  | _ => none

/-- A string that is a property of a value of unknown type. -/
def stringField (key : JsString) (value : Json) : Option JsString :=
  match value.get? key with
  | some (.str s) => some s
  | _ => none

/-- `listObservedPipelineIds`. -/
def listObservedPipelineIds (precedes : JsString → JsString → Bool)
    (runtimeSummary : Option Json) : List JsString :=
  sortLocale precedes (((arrayField runtimeSummary (js "pipelines")).getD []).filterMap
    (stringField (js "pipelineId")))

/-- `listObservedProtocolPackageIds`. -/
def listObservedProtocolPackageIds (precedes : JsString → JsString → Bool)
    (runtimeSummary : Option Json) : List JsString :=
  sortLocale precedes (((arrayField runtimeSummary (js "activeProtocolPackages")).getD []).filterMap
    (stringField (js "packageId")))

/-- The result of `listObservedProtocolPackageIdsForDeployment`. -/
structure ScopedPackageIds where
  packageIds : List JsString
  hasDeploymentMetadata : Bool

/-- `listObservedProtocolPackageIdsForDeployment`. -/
def listObservedProtocolPackageIdsForDeployment (precedes : JsString → JsString → Bool)
    (runtimeSummary : Option Json) (deploymentId : JsString) : ScopedPackageIds :=
  let entries := (arrayField runtimeSummary (js "activeProtocolPackages")).getD []
  let packageIds := (entries.filter fun entry =>
    stringField (js "deploymentId") entry = some deploymentId).filterMap
      (stringField (js "packageId"))
  { packageIds := sortLocale precedes (uniqueHostIds packageIds)
    hasDeploymentMetadata := entries.any fun entry =>
      (stringField (js "deploymentId") entry).isSome }

/-- `isRuntimePipelineIdForDeployment`. -/
def isRuntimePipelineIdForDeployment (pipelineId deploymentId : JsString) : Bool :=
  decide (js ":" ++ deploymentId ++ js ":" <:+: pipelineId)

end Hardess

import Hardess.Lib.PosixPath
import Hardess.Shared.AdminTypes

/-!
# Pipeline configuration

`PipelineConfig` and `HardessConfig` of `src/shared/types.ts`, and what
`hardessConfigSchema` checks of them. Parsing a checked configuration gives it back.
-/

namespace Hardess

open Posix (Path)

/-- `PipelineConfig["downstream"]`. -/
structure PipelineDownstream where
  origin : JsString
  connectTimeoutMs : JsNumber
  responseTimeoutMs : JsNumber
  websocket : Option Bool := none

/-- `PipelineConfig["worker"]`; the entry is an absolute path. -/
structure PipelineWorker where
  entry : Path
  timeoutMs : JsNumber
  deployment : Option WorkerDeployment := none

/-- `PipelineConfig`, with `auth.required` as the field `authRequired`. -/
structure PipelineConfig where
  id : JsString
  matchPrefix : JsString
  groupId : Option JsString := none
  authRequired : Bool := false
  downstream : PipelineDownstream
  worker : Option PipelineWorker := none

/-- `HardessConfig`. -/
structure HardessConfig where
  pipelines : List PipelineConfig

/-- `z.number().int().positive()`. -/
def isPositiveInt (x : JsNumber) : Bool := x.isSafeInteger && JsNumber.lt (.ofNat 0) x

/-- What `pipelineConfigSchema` checks; `isUrl` is `z.string().url()`. -/
def PipelineConfig.accepted (isUrl : JsString → Bool) (p : PipelineConfig) : Bool :=
  (p.id ≠ [] && p.matchPrefix.head? = some (unit '/') && optionalNonempty p.groupId) &&
    (isUrl p.downstream.origin && isPositiveInt p.downstream.connectTimeoutMs &&
      isPositiveInt p.downstream.responseTimeoutMs) &&
    p.worker.all fun worker =>
      isPositiveInt worker.timeoutMs &&
        worker.deployment.all fun deployment => optionalNonempty deployment.instanceKey

/-- `parseHardessConfig`. -/
def parseHardessConfig (isUrl : JsString → Bool) (config : HardessConfig) : Option HardessConfig :=
  if config.pipelines.all (·.accepted isUrl) then some config else none

end Hardess

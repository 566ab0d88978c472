import Hardess.Lib.Json

/-!
# Types of the control plane

The records of `src/shared/admin-types.ts` that the control plane hands to a host:
assignments with the artifact they run, artifact manifests, and the desired state with its
topology and trust. Fields that nothing modelled reads (names, capacities, labels) are left
out.
-/

namespace Hardess

/-- `DeploymentKind`. -/
inductive DeploymentKind
  | httpWorker
  | serviceModule
  | serve
  deriving DecidableEq

/-- `Assignment["artifact"]`. -/
structure ArtifactRef where
  manifestId : JsString
  sourceUri : JsString
  digest : Option JsString := none
  deriving DecidableEq

/-- The deployment data of a worker: records of unknown values, and secrets. -/
structure WorkerDeployment where
  instanceKey : Option JsString := none
  config : Option (List (JsString × Json)) := none
  bindings : Option (List (JsString × Json)) := none
  secrets : Option (List (JsString × JsString)) := none

/-- `Assignment["httpWorker"]` and `Assignment["serveApp"]`, which have the same fields. -/
structure HttpExecutable where
  entry : JsString
  routeRefs : Option (List JsString) := none
  deployment : Option WorkerDeployment := none

/-- `ServiceModuleProtocolPackage`. -/
structure ServiceModuleProtocolPackage where
  packageId : JsString
  protocol : JsString
  version : JsString
  actions : List JsString
  digest : JsString
  deriving DecidableEq

/-- `Assignment["serviceModule"]`. -/
structure ServiceModuleAssignment where
  entry : JsString
  protocolPackage : ServiceModuleProtocolPackage
  deriving DecidableEq

/-- `Assignment`. -/
structure Assignment where
  assignmentId : JsString
  hostId : JsString
  deploymentId : JsString
  deploymentKind : DeploymentKind
  groupId : Option JsString := none
  declaredVersion : JsString
  artifact : ArtifactRef
  httpWorker : Option HttpExecutable := none
  serviceModule : Option ServiceModuleAssignment := none
  serveApp : Option HttpExecutable := none

/-- `ArtifactPackageManager`. -/
inductive ArtifactPackageManager
  | bun (packageJson bunfigToml bunLock : Option JsString) (frozenLock : Option Bool)
  | deno (denoJson denoLock : Option JsString) (frozenLock : Option Bool)
  deriving DecidableEq

/-- `ArtifactManifest`, with `source` as its two fields. -/
structure ArtifactManifest where
  manifestId : JsString
  sourceUri : JsString
  digest : Option JsString := none
  entry : JsString
  packageManager : ArtifactPackageManager
  deriving DecidableEq

/-- `MembershipHostState`. -/
inductive MembershipHostState
  | ready
  | draining
  | offline
  deriving DecidableEq

/-- `MembershipHost`. -/
structure MembershipHost where
  hostId : JsString
  groupId : Option JsString := none
  nodeId : Option JsString := none
  publicBaseUrl : Option JsString := none
  internalBaseUrl : Option JsString := none
  state : MembershipHostState := .ready
  deriving DecidableEq

/-- `MembershipSnapshot`. -/
structure MembershipSnapshot where
  revision : JsString
  hosts : List MembershipHost
  deriving DecidableEq

/-- An element of `PlacementDeployment["routes"]`. -/
structure PlacementRoute where
  routeId : JsString
  pathPrefix : JsString
  ownerHostIds : List JsString
  deriving DecidableEq

/-- `PlacementDeployment`. -/
structure PlacementDeployment where
  deploymentId : JsString
  deploymentKind : DeploymentKind
  groupId : Option JsString := none
  ownerHostIds : List JsString
  routes : List PlacementRoute
  deriving DecidableEq

/-- `PlacementSnapshot`. -/
structure PlacementSnapshot where
  revision : JsString
  deployments : List PlacementDeployment
  deriving DecidableEq

/-- `DesiredTopology`. -/
structure DesiredTopology where
  membership : MembershipSnapshot
  placement : PlacementSnapshot
  deriving DecidableEq

/-- `RuntimeAuthTrustPublicKey`. -/
structure RuntimeAuthTrustPublicKey where
  kid : JsString
  alg : JsString
  pem : JsString
  deriving DecidableEq

/-- `RuntimeAuthTokenIssuerTrust`. -/
structure RuntimeAuthTokenIssuerTrust where
  issuer : JsString
  audiences : List JsString
  jwksUrl : Option JsString := none
  publicKeys : Option (List RuntimeAuthTrustPublicKey) := none
  algorithms : Option (List JsString) := none
  requiredClaims : Option (List JsString) := none
  clockSkewSec : Option ℕ := none
  maxTokenTtlSec : Option ℕ := none
  deriving DecidableEq

/-- `RuntimeAuthTrust`. -/
structure RuntimeAuthTrust where
  tokenIssuers : List RuntimeAuthTokenIssuerTrust
  deriving DecidableEq

/-- An element of `sharedHttpForwardConfig.routes`, with `match` and `upstream` as their
fields. -/
structure SharedHttpRoute where
  routeId : JsString
  pathPrefix : JsString
  baseUrl : JsString
  websocketEnabled : Option Bool := none
  deriving DecidableEq

/-- `DesiredHostState`. -/
structure DesiredHostState where
  hostId : JsString
  revision : JsString
  assignments : List Assignment
  topology : Option DesiredTopology := none
  runtimeAuthTrust : Option RuntimeAuthTrust := none
  routes : Option (List SharedHttpRoute) := none

/-- Is an optional string `z.string().min(1).optional()`? -/
def optionalNonempty (s : Option JsString) : Bool := s.all (· ≠ [])

/-- What `artifactManifestSchema` checks of a manifest; `isUrl` is `z.string().url()`. -/
def ArtifactManifest.accepted (isUrl : JsString → Bool) (m : ArtifactManifest) : Bool :=
  m.manifestId ≠ [] && (isUrl m.sourceUri && optionalNonempty m.digest) && m.entry ≠ [] &&
    match m.packageManager with
    | .bun packageJson bunfigToml bunLock _ =>
      optionalNonempty packageJson && optionalNonempty bunfigToml && optionalNonempty bunLock
    | .deno denoJson denoLock _ => optionalNonempty denoJson && optionalNonempty denoLock

end Hardess

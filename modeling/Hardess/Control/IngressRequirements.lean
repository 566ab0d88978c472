import Hardess.Control.RuntimeSummary

/-!
# What the ingress of a group requires

`buildIngressGroupRequirements` of `src/sdk/admin/planning.ts`: for each group, the protocol
packages of the service modules that are assigned in it, and `buildPlacementSnapshot` with the
requirements.
-/

namespace Hardess

/-- `PlacementIngressGroupRequirement`. -/
structure PlacementIngressGroupRequirement where
  groupId : Option JsString := none
  requiredProtocolPackages : List ServiceModuleProtocolPackageRef
  deriving DecidableEq

/-- `PlacementSnapshot` with the requirements. -/
structure PlacementSnapshotWithRequirements extends PlacementSnapshot where
  ingressGroupRequirements : List PlacementIngressGroupRequirement
  deriving DecidableEq

/-- `toServiceModuleProtocolPackageRef`. -/
def toServiceModuleProtocolPackageRef (input : ServiceModuleProtocolPackage) :
    ServiceModuleProtocolPackageRef where
  packageId := input.packageId
  digest := input.digest

/-- `groupKey`: hosts without a group have a key of their own, which a group may also have. -/
def requirementGroupKey (groupId : Option JsString) : JsString := groupId.getD (js "__default__")

/-- A requirement that is being collected. -/
structure RequirementEntry where
  groupId : Option JsString
  requiredProtocolPackages : JsMap JsString ServiceModuleProtocolPackageRef

/-- The body of the loop over the assignments of a host. -/
def addRequirement (requirementsByGroupKey : JsMap JsString RequirementEntry)
    (assignment : Assignment) : JsMap JsString RequirementEntry :=
  match assignment.serviceModule.map (·.protocolPackage) with
  | none => requirementsByGroupKey
  | some protocolPackage =>
    let groupId := assignment.groupId
    let groupKey := requirementGroupKey groupId
    let entry := (requirementsByGroupKey.get groupKey).getD ⟨groupId, .empty⟩
    requirementsByGroupKey.set groupKey
      { entry with
        requiredProtocolPackages := entry.requiredProtocolPackages.set protocolPackage.packageId
          (toServiceModuleProtocolPackageRef protocolPackage) }

/-- The requirements that are collected. -/
def collectRequirements (desiredHostStates : List DesiredHostState) :
    JsMap JsString RequirementEntry :=
  desiredHostStates.foldl (fun requirementsByGroupKey desired =>
    desired.assignments.foldl addRequirement requirementsByGroupKey) .empty

/-- A collected requirement in the snapshot. -/
def RequirementEntry.toRequirement (platform : PlanningPlatform) (entry : RequirementEntry) :
    PlacementIngressGroupRequirement where
  groupId := entry.groupId
  requiredProtocolPackages :=
    (entry.requiredProtocolPackages.entries.map Prod.snd).insertionSort fun left right =>
      platform.precedes left.packageId right.packageId = true

/-- `buildIngressGroupRequirements`. -/
def buildIngressGroupRequirements (platform : PlanningPlatform)
    (desiredHostStates : List DesiredHostState) : List PlacementIngressGroupRequirement :=
  ((((collectRequirements desiredHostStates).entries.map Prod.snd).filter fun entry =>
    0 < entry.requiredProtocolPackages.size).map (·.toRequirement platform)).insertionSort
      fun left right => platform.precedes (left.groupId.getD []) (right.groupId.getD []) = true

/-- `buildPlacementSnapshot`, with the requirements. -/
def buildPlacementSnapshotWithRequirements (platform : PlanningPlatform) (revision : JsString)
    (desiredHostStates : List DesiredHostState) : PlacementSnapshotWithRequirements where
  toPlacementSnapshot := buildPlacementSnapshot platform revision desiredHostStates
  ingressGroupRequirements := buildIngressGroupRequirements platform desiredHostStates

end Hardess

import Hardess.Cluster.Health
import Hardess.Shared.Schema

/-!
# Messages between nodes

`ClusterSocketMessage` of `src/runtime/cluster/schema.ts` and its schemas.

* `ClusterSocketMessage.toJson` is the object that is sent, without the members that are
  `undefined`;
* `clusterSocketMessageSchema` and `parseClusterSocketMessage` read it back.
-/

namespace Hardess

/-! ### Messages -/

/-- The entries of `peerHealthDigest` and `peerHealthSync`, and the body of `peerHealthRumor`. -/
structure PeerHealthItem where
  peerNodeId : JsString
  status : ReportedStatus
  incarnation : JsNumber
  lastAliveAt : Option JsNumber := none
  deriving DecidableEq

/-- `ClusterSocketMessage`. -/
inductive ClusterSocketMessage
  | hello (nodeId : JsString) (secret : Option JsString)
  | helloAck (nodeId : JsString)
  | ping (ts : JsNumber)
  | pong (ts : JsNumber)
  | peerHealthRumor (rumor : PeerHealthItem)
  | peerHealthDigest (digests : List PeerHealthItem)
  | peerHealthRepairRequest (peerNodeIds : List JsString)
  | peerHealthSync (rumors : List PeerHealthItem)
  | deliver (ref : JsString) (sender : ConnRef) (envelope : Envelope) (ack : AckMode)
      (targets : List ConnRef)
  | deliverResult (ref : JsString) (deliveredConns : List ConnRef) (error : Option JsString)
  | handleAck (ref : JsString) (sender : ConnRef) (ackFor : JsString) (traceId : Option JsString)
  | handleAckResult (ref : JsString) (ok : Bool) (error : Option JsString)

def ReportedStatus.toJson : ReportedStatus → Json
  | .alive => .str (js "alive")
  | .suspect => .str (js "suspect")
  | .dead => .str (js "dead")

/-- The members of a health item. -/
def PeerHealthItem.members (i : PeerHealthItem) : List (JsString × Json) :=
  [(js "peerNodeId", .str i.peerNodeId), (js "status", i.status.toJson),
    (js "incarnation", .num i.incarnation)] ++
    optMember (js "lastAliveAt") (i.lastAliveAt.map .num)

/-- A `deliver` frame around an envelope that is already JSON. -/
def deliverFrame (ref : JsString) (sender : ConnRef) (envelope : Json) (ack : AckMode)
    (targets : List ConnRef) : Json :=
  .obj [(js "type", .str (js "deliver")), (js "sender", sender.toJson),
    (js "envelope", envelope), (js "ack", ack.toJson),
    (js "targets", .arr (targets.map ConnRef.toJson)), (js "ref", .str ref)]

/-- The object of a message. -/
def ClusterSocketMessage.toJson : ClusterSocketMessage → Json
  | .hello nodeId secret =>
    .obj ([(js "type", .str (js "hello")), (js "nodeId", .str nodeId)] ++
      optMember (js "secret") (secret.map .str))
  | .helloAck nodeId => .obj [(js "type", .str (js "helloAck")), (js "nodeId", .str nodeId)]
  | .ping ts => .obj [(js "type", .str (js "ping")), (js "ts", .num ts)]
  | .pong ts => .obj [(js "type", .str (js "pong")), (js "ts", .num ts)]
  | .peerHealthRumor rumor => .obj ((js "type", .str (js "peerHealthRumor")) :: rumor.members)
  | .peerHealthDigest digests =>
    .obj [(js "type", .str (js "peerHealthDigest")),
      (js "digests", .arr (digests.map fun i => .obj i.members))]
  | .peerHealthRepairRequest peerNodeIds =>
    .obj [(js "type", .str (js "peerHealthRepairRequest")),
      (js "peerNodeIds", .arr (peerNodeIds.map .str))]
  | .peerHealthSync rumors =>
    .obj [(js "type", .str (js "peerHealthSync")),
      (js "rumors", .arr (rumors.map fun i => .obj i.members))]
  | .deliver ref sender envelope ack targets =>
    deliverFrame ref sender envelope.toJson ack targets
  | .deliverResult ref deliveredConns error =>
    .obj ([(js "type", .str (js "deliverResult")), (js "ref", .str ref),
        (js "deliveredConns", .arr (deliveredConns.map ConnRef.toJson))] ++
      optMember (js "error") (error.map .str))
  | .handleAck ref sender ackFor traceId =>
    .obj ([(js "type", .str (js "handleAck")), (js "sender", sender.toJson),
        (js "ackFor", .str ackFor)] ++ optMember (js "traceId") (traceId.map .str) ++
      [(js "ref", .str ref)])
  | .handleAckResult ref ok error =>
    .obj ([(js "type", .str (js "handleAckResult")), (js "ref", .str ref), (js "ok", .bool ok)] ++
      optMember (js "error") (error.map .str))

/-! ### Schemas -/

/-- `connRefSchema`. -/
def connRefSchema : Zod.Schema ConnRef := Zod.object fun f => do
  let nodeId ← Zod.nonempty (f (js "nodeId"))
  let connId ← Zod.nonempty (f (js "connId"))
  let peerId ← Zod.nonempty (f (js "peerId"))
  some { nodeId, connId, peerId }

/-- `ackModeSchema`. -/
def ackModeSchema : Zod.Schema AckMode :=
  Zod.enum [(js "none", .none), (js "recv", .recv), (js "handle", .handle)]

/-- `clusterPeerHealthStatusSchema`. -/
def clusterPeerHealthStatusSchema : Zod.Schema ReportedStatus :=
  Zod.enum [(js "alive", .alive), (js "suspect", .suspect), (js "dead", .dead)]

/-- The fields of a health item. -/
def peerHealthItemShape (f : JsString → Option Json) : Option PeerHealthItem := do
  let peerNodeId ← Zod.nonempty (f (js "peerNodeId"))
  let status ← clusterPeerHealthStatusSchema (f (js "status"))
  let incarnation ← Zod.intMin 1 (f (js "incarnation"))
  let lastAliveAt ← Zod.optional Zod.number (f (js "lastAliveAt"))
  some { peerNodeId, status, incarnation, lastAliveAt }

/-- `clusterHelloMessageSchema`. -/
def clusterHelloMessageSchema : Zod.Schema ClusterSocketMessage := Zod.object fun f => do
  let _ ← Zod.literal (js "hello") (f (js "type"))
  let nodeId ← Zod.nonempty (f (js "nodeId"))
  let secret ← Zod.optional Zod.nonempty (f (js "secret"))
  some (.hello nodeId secret)

/-- `clusterHelloAckMessageSchema`. -/
def clusterHelloAckMessageSchema : Zod.Schema ClusterSocketMessage := Zod.object fun f => do
  let _ ← Zod.literal (js "helloAck") (f (js "type"))
  let nodeId ← Zod.nonempty (f (js "nodeId"))
  some (.helloAck nodeId)

/-- `clusterPingMessageSchema`. -/
def clusterPingMessageSchema : Zod.Schema ClusterSocketMessage := Zod.object fun f => do
  let _ ← Zod.literal (js "ping") (f (js "type"))
  let ts ← Zod.number (f (js "ts"))
  some (.ping ts)

/-- `clusterPongMessageSchema`. -/
def clusterPongMessageSchema : Zod.Schema ClusterSocketMessage := Zod.object fun f => do
  let _ ← Zod.literal (js "pong") (f (js "type"))
  let ts ← Zod.number (f (js "ts"))
  some (.pong ts)

/-- `clusterPeerHealthRumorMessageSchema`. -/
def clusterPeerHealthRumorMessageSchema : Zod.Schema ClusterSocketMessage := Zod.object fun f => do
  let _ ← Zod.literal (js "peerHealthRumor") (f (js "type"))
  let rumor ← peerHealthItemShape f
  some (.peerHealthRumor rumor)

/-- `clusterPeerHealthDigestMessageSchema`. -/
def clusterPeerHealthDigestMessageSchema : Zod.Schema ClusterSocketMessage := Zod.object fun f => do
  let _ ← Zod.literal (js "peerHealthDigest") (f (js "type"))
  let digests ← Zod.array (Zod.object peerHealthItemShape) (f (js "digests"))
  some (.peerHealthDigest digests)

/-- `clusterPeerHealthRepairRequestMessageSchema`. -/
def clusterPeerHealthRepairRequestMessageSchema : Zod.Schema ClusterSocketMessage :=
  Zod.object fun f => do
    let _ ← Zod.literal (js "peerHealthRepairRequest") (f (js "type"))
    let peerNodeIds ← (Zod.array Zod.nonempty (f (js "peerNodeIds"))).filter fun ids => ids ≠ []
    some (.peerHealthRepairRequest peerNodeIds)

/-- `clusterPeerHealthSyncMessageSchema`. -/
def clusterPeerHealthSyncMessageSchema : Zod.Schema ClusterSocketMessage := Zod.object fun f => do
  let _ ← Zod.literal (js "peerHealthSync") (f (js "type"))
  let rumors ← Zod.array (Zod.object peerHealthItemShape) (f (js "rumors"))
  some (.peerHealthSync rumors)

/-- `clusterDeliverMessageSchema`. -/
def clusterDeliverMessageSchema : Zod.Schema ClusterSocketMessage := Zod.object fun f => do
  let _ ← Zod.literal (js "deliver") (f (js "type"))
  let ref ← Zod.nonempty (f (js "ref"))
  let sender ← connRefSchema (f (js "sender"))
  let envelope ← envelopeSchema (f (js "envelope"))
  let ack ← ackModeSchema (f (js "ack"))
  let targets ← Zod.array connRefSchema (f (js "targets"))
  some (.deliver ref sender envelope ack targets)

/-- `clusterDeliverResultMessageSchema`. -/
def clusterDeliverResultMessageSchema : Zod.Schema ClusterSocketMessage := Zod.object fun f => do
  let _ ← Zod.literal (js "deliverResult") (f (js "type"))
  let ref ← Zod.nonempty (f (js "ref"))
  let deliveredConns ← Zod.array connRefSchema (f (js "deliveredConns"))
  let error ← Zod.optional Zod.nonempty (f (js "error"))
  some (.deliverResult ref deliveredConns error)

/-- `clusterHandleAckMessageSchema`. -/
def clusterHandleAckMessageSchema : Zod.Schema ClusterSocketMessage := Zod.object fun f => do
  let _ ← Zod.literal (js "handleAck") (f (js "type"))
  let ref ← Zod.nonempty (f (js "ref"))
  let sender ← connRefSchema (f (js "sender"))
  let ackFor ← Zod.nonempty (f (js "ackFor"))
  let traceId ← Zod.optional Zod.nonempty (f (js "traceId"))
  some (.handleAck ref sender ackFor traceId)

/-- `clusterHandleAckResultMessageSchema`. -/
def clusterHandleAckResultMessageSchema : Zod.Schema ClusterSocketMessage := Zod.object fun f => do
  let _ ← Zod.literal (js "handleAckResult") (f (js "type"))
  let ref ← Zod.nonempty (f (js "ref"))
  let ok ← Zod.boolean (f (js "ok"))
  let error ← Zod.optional Zod.nonempty (f (js "error"))
  some (.handleAckResult ref ok error)

/-- `clusterSocketMessageSchema`. -/
def clusterSocketMessageSchema : Zod.Schema ClusterSocketMessage :=
  Zod.discriminatedUnion (js "type")
    [(js "hello", clusterHelloMessageSchema),
      (js "helloAck", clusterHelloAckMessageSchema),
      (js "ping", clusterPingMessageSchema),
      (js "pong", clusterPongMessageSchema),
      (js "peerHealthRumor", clusterPeerHealthRumorMessageSchema),
      (js "peerHealthDigest", clusterPeerHealthDigestMessageSchema),
      (js "peerHealthRepairRequest", clusterPeerHealthRepairRequestMessageSchema),
      (js "peerHealthSync", clusterPeerHealthSyncMessageSchema),
      (js "deliver", clusterDeliverMessageSchema),
      (js "deliverResult", clusterDeliverResultMessageSchema),
      (js "handleAck", clusterHandleAckMessageSchema),
      (js "handleAckResult", clusterHandleAckResultMessageSchema)]

/-- `parseClusterSocketMessage`. -/
def parseClusterSocketMessage (raw : JsString) : Option ClusterSocketMessage :=
  (Json.parse raw).bind fun parsed => clusterSocketMessageSchema (some parsed)

end Hardess

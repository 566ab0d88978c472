import Hardess.Ingress.Outbox
import Hardess.Lib.StringToNumber
import Hardess.Lib.Zod
import Hardess.Routing.PeerLocator

/-!
# The websocket runtime of one node

`createWebSocketHandlers` of `src/runtime/ingress/websocket.ts`: the connections of the clients, the
tables of pending acknowledgements and of recent relayed deliveries, and the calls that are under
way.

* a connection is known by its id; `objects` keeps every connection that was opened, for the calls
  that still hold it, and `connections` lists the ones in the table;
* a call that awaits something is a `Call` with its local variables, and `resume` goes on with the
  answer; the hooks of a message are one await, since nothing of the runtime is read between them;
* what the provider, the hooks, the other nodes and the sockets say is part of the events and of
  `WebSocketRuntimeDeps.wire`;
* `effects` holds what the last event did outside the tables.

The metrics and logs are left out.
-/

namespace Hardess

/-! ### Errors -/

/-- The error codes that the websocket runtime uses or tells apart. -/
inductive ErrorCode
  | AUTH_INVALID_TOKEN
  | AUTH_EXPIRED_TOKEN
  | AUTH_REVOKED_TOKEN
  | ACL_DENIED
  | INGRESS_PROTOCOL_UNAVAILABLE
  | CONN_QUOTA_EXCEEDED
  | RATE_LIMIT_EXCEEDED
  | BACKPRESSURE_OVERFLOW
  | PROTO_REGISTRATION_CONFLICT
  | PROTO_UNKNOWN_ACTION
  | PROTO_INVALID_PAYLOAD
  | ROUTE_NO_RECIPIENT
  | ROUTE_PEER_OFFLINE
  | ROUTE_DELIVERY_TIMEOUT
  | SERVER_DRAINING
  | GATEWAY_UPSTREAM_TIMEOUT
  | GATEWAY_UPSTREAM_UNAVAILABLE
  | INTERNAL_ERROR
  deriving DecidableEq

/-- The string of a code. -/
def ErrorCode.text : ErrorCode → JsString
  | AUTH_INVALID_TOKEN => js "AUTH_INVALID_TOKEN"
  | AUTH_EXPIRED_TOKEN => js "AUTH_EXPIRED_TOKEN"
  | AUTH_REVOKED_TOKEN => js "AUTH_REVOKED_TOKEN"
  | ACL_DENIED => js "ACL_DENIED"
  | INGRESS_PROTOCOL_UNAVAILABLE => js "INGRESS_PROTOCOL_UNAVAILABLE"
  | CONN_QUOTA_EXCEEDED => js "CONN_QUOTA_EXCEEDED"
  | RATE_LIMIT_EXCEEDED => js "RATE_LIMIT_EXCEEDED"
  | BACKPRESSURE_OVERFLOW => js "BACKPRESSURE_OVERFLOW"
  | PROTO_REGISTRATION_CONFLICT => js "PROTO_REGISTRATION_CONFLICT"
  | PROTO_UNKNOWN_ACTION => js "PROTO_UNKNOWN_ACTION"
  | PROTO_INVALID_PAYLOAD => js "PROTO_INVALID_PAYLOAD"
  | ROUTE_NO_RECIPIENT => js "ROUTE_NO_RECIPIENT"
  | ROUTE_PEER_OFFLINE => js "ROUTE_PEER_OFFLINE"
  | ROUTE_DELIVERY_TIMEOUT => js "ROUTE_DELIVERY_TIMEOUT"
  | SERVER_DRAINING => js "SERVER_DRAINING"
  | GATEWAY_UPSTREAM_TIMEOUT => js "GATEWAY_UPSTREAM_TIMEOUT"
  | GATEWAY_UPSTREAM_UNAVAILABLE => js "GATEWAY_UPSTREAM_UNAVAILABLE"
  | INTERNAL_ERROR => js "INTERNAL_ERROR"

/-- `HardessError`. Its `refMsgId` is left out: the `sys.err` of a message always names that
message. The `detail` is what `JSON.stringify` reads of it: a member that is undefined is none. -/
structure HardessError where
  code : ErrorCode
  message : JsString
  retryable : Bool := false
  detail : Option Json := none

/-- What the code may throw: a `HardessError`, or another error with its message. -/
inductive Thrown
  | hardess (error : HardessError)
  | other (message : JsString)

/-- The `normalized` error of the `catch` clause of `message`. -/
def Thrown.normalized : Thrown → HardessError
  | .hardess error => error
  | .other message =>
    { code := .INTERNAL_ERROR
      message := js "Unhandled websocket error"
      detail := some (.str message) }

/-- `closeCodeForError`. -/
def closeCodeForError (error : HardessError) : Option ℕ :=
  match error.code with
  | .AUTH_INVALID_TOKEN => some 4401
  | .AUTH_EXPIRED_TOKEN => some 4401
  | .AUTH_REVOKED_TOKEN => some 4401
  | .ACL_DENIED => some 4403
  | .CONN_QUOTA_EXCEEDED => some 4429
  | .RATE_LIMIT_EXCEEDED => some 4429
  | .BACKPRESSURE_OVERFLOW => some 4508
  | .PROTO_INVALID_PAYLOAD => some 4400
  | _ => none

/-- The error that `enqueueOutbound` throws. -/
def EgressError.toHardessError (error : EgressError) : HardessError where
  code := .BACKPRESSURE_OVERFLOW
  message := error.message
  detail :=
    match error with
    | .socketBufferOverflow bufferedAmount =>
      some (.str (js "buffered_amount=" ++ (JsNumber.ofNat bufferedAmount).text))
    | .sendFailed message => some (.str message)
    | _ => none

/-- `createDrainingError`. -/
def drainingError : HardessError where
  code := .SERVER_DRAINING
  message := js "Runtime websocket ingress is draining"
  retryable := true
  detail := some (.str (js "retry_on_another_healthy_node"))

/-! ### Messages -/

/-- What the runtime sends to a client. -/
inductive OutboundMessage
  | envelope (envelope : Envelope)
  | authOk (auth : AuthContext) (traceId : Option JsString)
  | ping
  | pong (nonce traceId : Option JsString)
  | recvAck (ackFor : JsString) (traceId : Option JsString)
  | handleAck (connId ackFor : JsString) (traceId : Option JsString)
  | route (resolvedPeers : List JsString) (deliveredConns : List ConnRef)
    (traceId : Option JsString)
  | err (error : HardessError) (refMsgId traceId : Option JsString)

/-- `SysAuthPayload`. -/
structure SysAuthPayload where
  provider : JsString
  payload : Option Json
  groupId : Option JsString

/-- `sysAuthPayloadSchema`. -/
def sysAuthPayloadSchema : Zod.Schema SysAuthPayload := Zod.object fun f => do
  let provider ← Zod.nonempty (f (js "provider"))
  let payload ← Zod.unknown (f (js "payload"))
  let groupId ← Zod.optional Zod.nonempty (f (js "groupId"))
  some { provider, payload, groupId }

/-- `sysPingPayloadSchema` and `sysPongPayloadSchema`, which are the same. -/
def sysPingPayloadSchema : Zod.Schema (Option JsString) := Zod.object fun f =>
  Zod.optional Zod.string (f (js "nonce"))

/-- `sysHandleAckPayloadSchema`. -/
def sysHandleAckPayloadSchema : Zod.Schema JsString := Zod.object fun f =>
  Zod.nonempty (f (js "ackFor"))

/-- The error of `parseProtocolPayload`; `issues` is what `formatZodError` says. -/
def invalidPayload (message issues : JsString) : Thrown :=
  .hardess { code := .PROTO_INVALID_PAYLOAD, message, detail := some (.str issues) }

/-! ### The state -/

/-- The options that are read, with their defaults. `wire c k` is what the socket of `c` says about
the `k`-th message that is sent on it, `bytes` is the length of a message as it is written, and
`issues m payload` is what `formatZodError` says when a payload is refused with the message `m`. -/
structure WebSocketRuntimeDeps where
  nodeId : JsString
  hostGroupId : Option JsString := none
  clusterNetwork : Bool := false
  heartbeatIntervalMs : ℕ := 25000
  staleAfterMs : ℕ := 60000
  maxConnections : Option ℕ := none
  maxConnectionsPerPeer : Option ℕ := none
  rateLimitWindowMs : ℕ := 1000
  rateLimitMaxMessages : ℕ := 100
  outbound : OutboundOptions := {}
  shutdownGraceMs : ℕ := 3000
  pendingHandleAckTtlMs : Option ℕ := none
  pendingHandleAckMaxEntries : ℕ := 10000
  wire : JsString → ℕ → SocketReply := fun _ _ => {}
  bytes : OutboundMessage → ℕ := fun _ => 0
  issues : JsString → Option Json → JsString := fun _ _ => []

namespace WebSocketRuntimeDeps

variable (deps : WebSocketRuntimeDeps)

/-- The error of a payload that is refused. -/
def refusal (message : JsString) (payload : Option Json) : Thrown :=
  invalidPayload message (deps.issues message payload)

/-- `pendingHandleAckTtlMs`. -/
def pendingTtl : ℕ := max (deps.pendingHandleAckTtlMs.getD (deps.staleAfterMs * 2)) 1

/-- `pendingHandleAckMaxEntries`. -/
def pendingCap : ℕ := max deps.pendingHandleAckMaxEntries 1

/-- `recentClusterDeliveryTtlMs`. -/
def recentTtl : ℕ := max deps.staleAfterMs 60000

end WebSocketRuntimeDeps

/-- `ConnectionState`; its queue and the flag `closed` are in `egress`. -/
structure ConnectionState where
  auth : Option AuthContext := none
  lastSeenAt : ℕ
  lastPingAt : Option ℕ := none
  messageTimestamps : List ℕ := []
  egress : Outbox OutboundMessage := {}

/-- `PendingHandleAckEntry`. -/
structure PendingHandleAckEntry where
  senderRef : ConnRef
  expiresAt : ℕ
  deriving DecidableEq

/-- `ServerDispatch`. -/
structure ServerDispatch where
  protocol : Option JsString := none
  version : Option JsString := none
  action : Option JsString := none
  streamId : Option JsString := none
  payload : Option Json := none
  ack : Option AckMode := none

/-- What the hooks of a message come to: whether there is a `handleLocally`, the `ack` of its
result, the recipients, and the dispatch. -/
structure HookResult where
  handledLocally : Bool := false
  localAck : Option AckMode := none
  peerIds : List JsString := []
  dispatch : ServerDispatch := {}

/-- The payload of `deliverCluster`. -/
structure DeliverRequest where
  sender : ConnRef
  envelope : Envelope
  ack : AckMode
  targets : List ConnRef

/-- The payload of `forwardClusterHandleAck`. -/
structure ForwardRequest where
  sender : ConnRef
  ackFor : JsString
  traceId : Option JsString
  deriving DecidableEq

/-- The local variables of `sendToPeerIds`, and the context under which its message was allowed;
`retry` holds on the second attempt. -/
structure SendCall where
  sender : JsString
  message : Envelope
  auth : AuthContext
  envelope : Envelope
  peerIds : List JsString
  ack : AckMode
  senderRef : ConnRef
  retry : Bool

/-- A call that awaits something, with its local variables. -/
inductive Call
  | authenticating (connId : JsString) (message : Envelope)
  | validating (connId : JsString) (message : Envelope) (auth : AuthContext)
  | hooking (connId : JsString) (message : Envelope) (auth : AuthContext)
  | finding (send : SendCall) (groupId : Option JsString)
    (located : List (JsString × List ConnRef)) (rest : List JsString)
  | locating (send : SendCall) (located : List (JsString × List ConnRef))
  | checking (send : SendCall) (delivered : List ConnRef)
    (remote : JsMap JsString (List ConnRef)) (target : ConnRef) (rest : List ConnRef)
  | relaying (send : SendCall) (delivered : List ConnRef)
    (rest : List (JsString × List ConnRef))
  | forwarding (connId : JsString) (message : Envelope)
  | acking (connId : JsString) (message : Envelope) (ackFor sender : JsString)
  | delivering (request : DeliverRequest) (startedAt : ℕ) (delivered : List ConnRef)
    (target : ConnRef) (rest : List ConnRef)
  | forwarded (request : ForwardRequest)

/-- What a call gets. -/
inductive Answer
  | authenticated (result : Except Thrown AuthContext)
  | valid (ok : Bool)
  | validMessage (result : Except Thrown Bool)
  | hooked (result : Except Thrown HookResult)
  | found
  | located (remote : List (JsString × List ConnRef))
  | relayed (result : Except JsString (List ConnRef))
  | acked (result : Except JsString Unit)

/-- What an event does outside the tables. -/
inductive Effect
  | enqueued (connId : JsString) (message : OutboundMessage)
  | overflowed (connId : JsString) (error : EgressError)
  | egress (connId : JsString) (effect : EgressEffect OutboundMessage)
  | send (connId : JsString) (message : OutboundMessage)
  | close (connId : JsString) (code : ℕ) (reason : JsString)
  | deliver (call : ℕ) (nodeId : JsString) (request : DeliverRequest)
  | forward (call : ℕ) (request : ForwardRequest)
  | delivered (call : ℕ) (result : Except EgressError (List ConnRef))
  | forwarded (call : ℕ) (result : Except EgressError Bool)

/-- The state of `createWebSocketHandlers`. -/
structure WebSocketRuntime where
  deps : WebSocketRuntimeDeps
  now : ℕ := 0
  objects : JsMap JsString ConnectionState := .empty
  connections : List JsString := []
  peerLocator : InMemoryPeerLocator := {}
  pendingHandleAckByMsgId : JsMap JsString PendingHandleAckEntry := .empty
  recentClusterDeliveryByMsgId : JsMap JsString ℕ := .empty
  shuttingDown : Bool := false
  disposed : Bool := false
  shutdownTimer : Bool := false
  calls : JsMap ℕ Call := .empty
  nextCall : ℕ := 0
  effects : List Effect := []

namespace WebSocketRuntime

/-- A new runtime. -/
def create (deps : WebSocketRuntimeDeps) : WebSocketRuntime := { deps }

variable (st : WebSocketRuntime)

/-! ### Connections -/

/-- `connections.get(connId)`. -/
def connection (connId : JsString) : Option ConnectionState :=
  if connId ∈ st.connections then st.objects.get connId else none

/-- The `auth` of a connection that was opened. -/
def authOf (connId : JsString) : Option AuthContext := (st.objects.get connId).bind (·.auth)

/-- Whether a connection that was opened is closed. -/
def isClosed (connId : JsString) : Bool := (st.objects.get connId).any (·.egress.closed)

/-- Record an effect. -/
def emit (e : Effect) : WebSocketRuntime := { st with effects := st.effects ++ [e] }

/-- Change a connection that was opened. -/
def modify (connId : JsString) (f : ConnectionState → ConnectionState) : WebSocketRuntime :=
  match st.objects.get connId with
  | none => st
  | some connection => { st with objects := st.objects.set connId (f connection) }

/-- Change the queue of a connection, with what that does to its socket. -/
def modifyEgress (connId : JsString)
    (result : Outbox OutboundMessage × List (EgressEffect OutboundMessage)) : WebSocketRuntime :=
  let st₁ := st.modify connId fun connection => { connection with egress := result.1 }
  { st₁ with effects := st₁.effects ++ result.2.map (.egress connId) }

/-- `closeConnection`. -/
def closeConnection (connId : JsString) (code : ℕ) (reason : JsString) : WebSocketRuntime :=
  match st.objects.get connId with
  | none => st
  | some connection => st.modifyEgress connId (connection.egress.closeConnection code reason)

/-- `socket.send(data)`, past the queue. -/
def socketSend (connId : JsString) (message : OutboundMessage) : WebSocketRuntime :=
  st.emit (.send connId message)

/-- `enqueueOutbound`, with the error it throws. -/
def enqueueOutbound (connId : JsString) (message : OutboundMessage) :
    WebSocketRuntime × Option EgressError :=
  match st.objects.get connId with
  | none => (st, none)
  | some connection =>
    let (egress, error, effects) := connection.egress.enqueueOutbound st.deps.outbound
      (st.deps.wire connId) message (st.deps.bytes message)
    let st₁ := st.modifyEgress connId (egress, effects)
    if connection.egress.closed then (st₁, none)
    else
      match error with
      | some error => (st₁.emit (.overflowed connId error), some error)
      | none => (st₁.emit (.enqueued connId message), none)

/-- `ensureAuthenticated`. -/
def unauthenticated : Thrown :=
  .hardess { code := .AUTH_INVALID_TOKEN, message := js "WebSocket is not authenticated" }

/-- The `catch` clause of `message`. -/
def catchError (connId : JsString) (message : Envelope) (thrown : Thrown) : WebSocketRuntime :=
  let error := thrown.normalized
  let st₁ := st.socketSend connId (.err error (some message.msgId) message.traceId)
  match closeCodeForError error with
  | none => st₁
  | some code => st₁.closeConnection connId code error.code.text

/-- `enqueueOutbound` in the handling of a message, which fails with its error. -/
def enqueueOrCatch (connId : JsString) (message : Envelope) (target : JsString)
    (outbound : OutboundMessage) : WebSocketRuntime :=
  match st.enqueueOutbound target outbound with
  | (st₁, none) => st₁
  | (st₁, some error) => st₁.catchError connId message (.hardess error.toHardessError)

/-- A call awaits something. -/
def await (id : ℕ) (call : Call) : WebSocketRuntime := { st with calls := st.calls.set id call }

/-! ### Pending acknowledgements -/

/-- `prunePendingHandleAcks`. -/
def prunePendingHandleAcks : WebSocketRuntime :=
  { st with
    pendingHandleAckByMsgId := st.pendingHandleAckByMsgId.filter fun _ entry =>
      st.now < entry.expiresAt }

/-- `pruneRecentClusterDeliveries`. -/
def pruneRecentClusterDeliveries : WebSocketRuntime :=
  { st with
    recentClusterDeliveryByMsgId := st.recentClusterDeliveryByMsgId.filter fun _ expiresAt =>
      st.now < expiresAt }

/-- The entry that `setPendingHandleAck` evicts. -/
def evicted (msgId : JsString) : Option JsString :=
  if st.pendingHandleAckByMsgId.has msgId = false ∧
      st.deps.pendingCap ≤ st.pendingHandleAckByMsgId.size then
    st.pendingHandleAckByMsgId.keys.head?
  else none

/-- `setPendingHandleAck`. -/
def setPendingHandleAck (msgId : JsString) (senderRef : ConnRef) (expiresAt : ℕ) :
    WebSocketRuntime :=
  let pending :=
    match st.evicted msgId with
    | none => st.pendingHandleAckByMsgId
    | some oldest => st.pendingHandleAckByMsgId.delete oldest
  { st with pendingHandleAckByMsgId := pending.set msgId ⟨senderRef, expiresAt⟩ }

/-- A pending entry goes. -/
def deletePendingHandleAck (msgId : JsString) : WebSocketRuntime :=
  { st with pendingHandleAckByMsgId := st.pendingHandleAckByMsgId.delete msgId }

/-! ### Sending to peers -/

/-- The source of what a sender sends: its peer, or else the one its envelope claims. -/
def sourceOf (send : SendCall) : EnvelopeSrc where
  peerId := ((st.authOf send.sender).map (·.peerId)).getD send.envelope.src.peerId
  connId := send.sender

/-- The end of `sendToPeerIds`, when some target was reached. -/
def finishSend (send : SendCall) (delivered : List ConnRef) : WebSocketRuntime :=
  let st₁ :=
    if send.ack = .none then st
    else st.setPendingHandleAck send.envelope.msgId send.senderRef (st.now + st.deps.pendingTtl)
  match st₁.enqueueOutbound send.sender
    (.route send.peerIds delivered send.envelope.traceId) with
  | (st₂, some error) => st₂.catchError send.sender send.message (.hardess error.toHardessError)
  | (st₂, none) =>
    if send.ack ≠ .none ∧ (st₂.authOf send.sender).isSome then
      st₂.enqueueOrCatch send.sender send.message send.sender
        (.recvAck send.envelope.msgId send.envelope.traceId)
    else st₂

/-- The loop of `findMany` over the local connections. -/
def findNext (id : ℕ) (send : SendCall) (groupId : Option JsString)
    (located : List (JsString × List ConnRef)) : List JsString → WebSocketRuntime
  | [] => st.await id (.locating send located)
  | peerId :: rest =>
    st.await id (.finding send groupId
      (located ++ [(peerId, st.peerLocator.find peerId groupId)]) rest)

/-- The start of `attemptDelivery`. -/
def startAttempt (id : ℕ) (send : SendCall) : WebSocketRuntime :=
  st.findNext id send ((st.authOf send.sender).bind (·.groupId)) [] send.peerIds.eraseDups

/-- What follows `attemptDelivery`: the second attempt, an error, or the end. -/
def attemptDone (id : ℕ) (send : SendCall) (delivered : List ConnRef) : WebSocketRuntime :=
  if delivered = [] then
    if send.retry then
      st.catchError send.sender send.message
        (.hardess { code := .ROUTE_PEER_OFFLINE, message := js "No valid target connections" })
    else st.startAttempt id { send with retry := true }
  else st.finishSend send delivered

/-- The loop of `attemptDelivery` over the other nodes. -/
def relayNext (id : ℕ) (send : SendCall) (delivered : List ConnRef) :
    List (JsString × List ConnRef) → WebSocketRuntime
  | [] => st.attemptDone id send delivered
  | (nodeId, targets) :: rest =>
    if st.deps.clusterNetwork then
      (st.await id (.relaying send delivered rest)).emit (.deliver id nodeId {
        sender := send.senderRef
        envelope := { send.envelope with
          src := ⟨send.senderRef.peerId, send.senderRef.connId⟩ }
        ack := send.ack
        targets })
    else relayNext id send delivered rest

/-- The loop of `attemptDelivery` over the targets of the plan. -/
def serveTargets (id : ℕ) (send : SendCall) (delivered : List ConnRef) :
    JsMap JsString (List ConnRef) → List ConnRef → WebSocketRuntime
  | remote, [] => st.relayNext id send delivered remote.entries
  | remote, target :: rest =>
    if target.nodeId ≠ st.deps.nodeId then
      serveTargets id send delivered
        (remote.set target.nodeId ((remote.get target.nodeId).getD [] ++ [target])) rest
    else if ((st.connection target.connId).bind (·.auth)).isSome then
      st.await id (.checking send delivered remote target rest)
    else serveTargets id send delivered remote rest

/-- The targets of the plan: what was found here, with what a cache or the other nodes add. -/
def planned (located remote : List (JsString × List ConnRef)) : List ConnRef :=
  deliveryTargets (located.map fun found =>
    match remote.lookup found.1 with
    | none => found
    | some conns => (found.1, mergeConnRefs found.2 conns))

/-- A local target gets the envelope, unless its connection is not valid any more. -/
def serveTarget (id : ℕ) (send : SendCall) (delivered : List ConnRef)
    (remote : JsMap JsString (List ConnRef)) (target : ConnRef) (rest : List ConnRef) (ok : Bool) :
    WebSocketRuntime :=
  if ok then
    match st.enqueueOutbound target.connId
      (.envelope { send.envelope with src := st.sourceOf send }) with
    | (st₁, none) => st₁.serveTargets id send (delivered ++ [target]) remote rest
    | (st₁, some _) => st₁.serveTargets id send delivered remote rest
  else st.serveTargets id send delivered remote rest

/-- `sendToPeerIds`. -/
def sendToPeerIds (id : ℕ) (connId : JsString) (message : Envelope) (auth : AuthContext)
    (envelope : Envelope) (peerIds : List JsString) (ack : AckMode) : WebSocketRuntime :=
  let senderRef : ConnRef :=
    { nodeId := st.deps.nodeId
      connId
      peerId := ((st.authOf connId).map (·.peerId)).getD envelope.src.peerId
      groupId := (st.authOf connId).bind (·.groupId) }
  st.startAttempt id
    { sender := connId, message, auth, envelope, peerIds, ack, senderRef, retry := false }

/-! ### System messages -/

/-- The action `auth`, up to the provider. -/
def startAuth (id : ℕ) (connId : JsString) (message : Envelope) : WebSocketRuntime :=
  if st.shuttingDown then st.catchError connId message (.hardess drainingError)
  else
    match sysAuthPayloadSchema message.payload with
    | none => st.catchError connId message 
      (st.deps.refusal (js "Invalid sys.auth payload") message.payload)
    | some _ => st.await id (.authenticating connId message)

/-- Whether one more connection of the peer is too many. -/
def peerQuotaExceeded (connId peerId : JsString) : Bool :=
  let increases :=
    if (st.peerLocator.getByConnId connId).map (·.peerId) ≠ some peerId then 1 else 0
  match st.deps.maxConnectionsPerPeer with
  | none => false
  | some limit => limit < st.peerLocator.countConnectionsForPeer peerId + increases

/-- The `ConnRef` that a connection registers. -/
def ownRef (connId peerId : JsString) : ConnRef where
  nodeId := st.deps.nodeId
  connId
  peerId
  groupId := st.deps.hostGroupId

/-- The action `auth`, after the provider. -/
def finishAuth (connId : JsString) (message : Envelope) (auth : AuthContext) : WebSocketRuntime :=
  if st.peerQuotaExceeded connId auth.peerId then
    st.catchError connId message (.hardess
      { code := .CONN_QUOTA_EXCEEDED
        message := js "Peer connection quota exceeded for " ++ auth.peerId })
  else
    let st₁ := st.modify connId fun connection =>
      { connection with auth := some { auth with groupId := st.deps.hostGroupId } }
    ({ st₁ with
      peerLocator := st₁.peerLocator.register (st.ownRef connId auth.peerId) }).enqueueOrCatch
      connId message connId (.authOk auth message.traceId)

/-- The action `ping`. -/
def handlePing (connId : JsString) (message : Envelope) : WebSocketRuntime :=
  match sysPingPayloadSchema message.payload with
  | none => st.catchError connId message 
      (st.deps.refusal (js "Invalid sys.ping payload") message.payload)
  | some nonce =>
    (st.modify connId fun connection =>
      { connection with lastSeenAt := st.now }).enqueueOrCatch connId message connId
      (.pong nonce message.traceId)

/-- The action `pong`. -/
def handlePong (connId : JsString) (message : Envelope) : WebSocketRuntime :=
  match sysPingPayloadSchema message.payload with
  | none => st.catchError connId message 
      (st.deps.refusal (js "Invalid sys.pong payload") message.payload)
  | some _ => st.modify connId fun connection =>
    { connection with lastSeenAt := st.now, lastPingAt := none }

/-- The error of a `handleAck` without a sender. -/
def noSender : Thrown :=
  .hardess { code := .ROUTE_NO_RECIPIENT, message := js "No sender found for handleAck" }

/-- The error of a `handleAck` whose sender is gone. -/
def senderOffline : Thrown :=
  .hardess { code := .ROUTE_PEER_OFFLINE, message := js "Sender is offline" }

/-- The action `handleAck`, once its entry is taken. -/
def forwardAck (id : ℕ) (connId : JsString) (message : Envelope) (ackFor : JsString)
    (senderRef : ConnRef) : WebSocketRuntime :=
  if senderRef.nodeId ≠ st.deps.nodeId then
    if st.deps.clusterNetwork then
      (st.await id (.forwarding connId message)).emit
        (.forward id ⟨senderRef, ackFor, message.traceId⟩)
    else
      st.catchError connId message
        (.hardess { code := .ROUTE_PEER_OFFLINE, message := js "Sender node is unavailable" })
  else if ((st.connection senderRef.connId).bind (·.auth)).isSome then
    st.await id (.acking connId message ackFor senderRef.connId)
  else st.catchError connId message senderOffline

/-- The action `handleAck`, up to its first await. -/
def startHandleAck (id : ℕ) (connId : JsString) (message : Envelope) : WebSocketRuntime :=
  if st.authOf connId = none then st.catchError connId message unauthenticated
  else
    match sysHandleAckPayloadSchema message.payload with
    | none => st.catchError connId message 
      (st.deps.refusal (js "Invalid sys.handleAck payload") message.payload)
    | some ackFor =>
      let st₁ := st.deletePendingHandleAck ackFor
      match (st.pendingHandleAckByMsgId.get ackFor).filter fun e => st.now < e.expiresAt with
      | none => st₁.catchError connId message noSender
      | some entry => st₁.forwardAck id connId message ackFor entry.senderRef

/-- `handleSystemMessage`. -/
def handleSystemMessage (id : ℕ) (connId : JsString) (message : Envelope) : WebSocketRuntime :=
  if message.action = js "auth" then st.startAuth id connId message
  else if message.action = js "ping" then st.handlePing connId message
  else if message.action = js "pong" then st.handlePong connId message
  else if message.action = js "handleAck" then st.startHandleAck id connId message
  else
    st.catchError connId message (.hardess
      { code := .PROTO_UNKNOWN_ACTION
        message := js "Unknown system action: " ++ message.action })

/-! ### Business messages -/

/-- `handleBusinessMessage`, up to its first await. -/
def startBusinessMessage (id : ℕ) (connId : JsString) (message : Envelope) : WebSocketRuntime :=
  if st.shuttingDown then st.catchError connId message (.hardess drainingError)
  else
    match st.authOf connId with
    | none => st.catchError connId message unauthenticated
    | some auth => st.await id (.validating connId message auth)

/-- `outboundEnvelope`. -/
def outboundEnvelope (message : Envelope) (dispatch : ServerDispatch) : Envelope :=
  { message with
    protocol := dispatch.protocol.getD message.protocol
    version := dispatch.version.getD message.version
    action := dispatch.action.getD message.action
    streamId := dispatch.streamId.or message.streamId
    payload :=
      match dispatch.payload with
      | none | some .null => message.payload
      | some payload => some payload }

/-- The answers to a message that was handled here. -/
def acknowledgeLocally (connId : JsString) (message : Envelope) (ack : AckMode) :
    WebSocketRuntime :=
  if ack = .none then st
  else
    match st.enqueueOutbound connId (.recvAck message.msgId message.traceId) with
    | (st₁, some error) => st₁.catchError connId message (.hardess error.toHardessError)
    | (st₁, none) =>
      if ack = .handle then
        st₁.enqueueOrCatch connId message connId
          (.handleAck (js "system") message.msgId message.traceId)
      else st₁

/-- `handleBusinessMessage`, after the hooks. -/
def afterHooks (id : ℕ) (connId : JsString) (message : Envelope) (auth : AuthContext)
    (result : HookResult) : WebSocketRuntime :=
  if result.peerIds = [] then
    if result.handledLocally then
      st.acknowledgeLocally connId message (result.localAck.getD .handle)
    else
      st.catchError connId message (.hardess
        { code := .ROUTE_NO_RECIPIENT, message := js "No recipients resolved" })
  else
    st.sendToPeerIds id connId message auth (outboundEnvelope message result.dispatch)
      result.peerIds (result.dispatch.ack.getD .recv)

/-! ### Relayed requests -/

/-- The loop of `deliverCluster`. -/
def deliverNext (id : ℕ) (request : DeliverRequest) (startedAt : ℕ) (delivered : List ConnRef) :
    List ConnRef → WebSocketRuntime
  | [] =>
    let st₁ :=
      if delivered = [] then st
      else { st with
        recentClusterDeliveryByMsgId := st.recentClusterDeliveryByMsgId.set request.envelope.msgId
          (startedAt + st.deps.recentTtl) }
    st₁.emit (.delivered id (.ok delivered))
  | target :: rest =>
    if ((st.connection target.connId).bind (·.auth)).isSome ∧ target.nodeId = st.deps.nodeId then
      st.await id (.delivering request startedAt delivered target rest)
    else deliverNext id request startedAt delivered rest

/-- A target of a relayed request gets the envelope, unless its connection is not valid. -/
def deliverTarget (id : ℕ) (request : DeliverRequest) (startedAt : ℕ) (delivered : List ConnRef)
    (target : ConnRef) (rest : List ConnRef) (ok : Bool) : WebSocketRuntime :=
  if ok then
    let st₁ :=
      if request.ack = .none then st
      else st.setPendingHandleAck request.envelope.msgId request.sender
        (startedAt + st.deps.pendingTtl)
    match st₁.enqueueOutbound target.connId (.envelope request.envelope) with
    | (st₂, none) => st₂.deliverNext id request startedAt (delivered ++ [target]) rest
    | (st₂, some error) => st₂.emit (.delivered id (.error error))
  else st.deliverNext id request startedAt delivered rest

/-- `deliverCluster`, up to its first await. -/
def deliverCluster (id : ℕ) (request : DeliverRequest) : WebSocketRuntime :=
  if st.disposed then st.emit (.delivered id (.ok []))
  else if st.shuttingDown ∧ request.envelope.kind = .biz then st.emit (.delivered id (.ok []))
  else
    let st₁ := st.prunePendingHandleAcks.pruneRecentClusterDeliveries
    match (st₁.recentClusterDeliveryByMsgId.get request.envelope.msgId).filter
      fun duplicateUntil => st.now < duplicateUntil with
    | some _ => st₁.emit (.delivered id
        (.ok (request.targets.filter fun target => target.nodeId = st.deps.nodeId)))
    | none => st₁.deliverNext id request st.now [] request.targets

/-- `forwardClusterHandleAck`, up to its await. -/
def forwardClusterHandleAck (id : ℕ) (request : ForwardRequest) : WebSocketRuntime :=
  let st₁ := st.deletePendingHandleAck request.ackFor
  if ((st₁.connection request.sender.connId).bind (·.auth)).isSome then
    st₁.await id (.forwarded request)
  else st₁.emit (.forwarded id (.ok false))

/-- `forwardClusterHandleAck`, after its await. -/
def finishForward (id : ℕ) (request : ForwardRequest) (ok : Bool) : WebSocketRuntime :=
  if ok then
    match st.enqueueOutbound request.sender.connId
      (.handleAck (js "cluster") request.ackFor request.traceId) with
    | (st₁, none) => st₁.emit (.forwarded id (.ok true))
    | (st₁, some error) => st₁.emit (.forwarded id (.error error))
  else st.emit (.forwarded id (.ok false))

/-! ### The handlers -/

/-- `open`, for the fresh id that a new connection gets. -/
def openSocket (connId : JsString) : WebSocketRuntime :=
  if st.objects.has connId then st
  else if st.disposed then st.emit (.close connId 1001 (js "server disposed"))
  else if st.shuttingDown then st.emit (.close connId 1001 (js "server shutting down"))
  else if (st.deps.maxConnections.any fun limit => limit ≤ st.connections.length) then
    (st.socketSend connId (.err
      { code := .CONN_QUOTA_EXCEEDED, message := js "Connection quota exceeded" } none none)).emit
      (.close connId 4429 (js "CONN_QUOTA_EXCEEDED"))
  else
    { st with
      objects := st.objects.set connId { lastSeenAt := st.now }
      connections := st.connections ++ [connId] }

/-- The time stamps of a connection that are still in the rate window. -/
def recentMessages (connection : ConnectionState) : List ℕ :=
  connection.messageTimestamps.filter fun timestamp =>
    st.now - timestamp < st.deps.rateLimitWindowMs

/-- `message`, up to its first await; `envelope` is what `parseEnvelope` makes of the frame. -/
def message (id : ℕ) (connId : JsString) (envelope : Option Envelope) : WebSocketRuntime :=
  match st.connection connId with
  | none => st
  | some connection =>
    let timestamps := st.recentMessages connection
    if st.deps.rateLimitMaxMessages ≤ timestamps.length then
      ((st.modify connId fun connection =>
        { connection with lastSeenAt := st.now, messageTimestamps := timestamps }).socketSend connId
        (.err { code := .RATE_LIMIT_EXCEEDED, message := js "WebSocket message rate limit exceeded" }
          (envelope.map (·.msgId)) (envelope.bind (·.traceId)))).closeConnection connId 4429
        (js "RATE_LIMIT_EXCEEDED")
    else
      let st₁ := st.modify connId fun connection =>
        { connection with lastSeenAt := st.now, messageTimestamps := timestamps ++ [st.now] }
      match envelope with
      | none =>
        (st₁.socketSend connId (.err
          { code := .PROTO_INVALID_PAYLOAD, message := js "Invalid websocket envelope" }
          none none)).closeConnection connId 4400 (js "PROTO_INVALID_PAYLOAD")
      | some envelope =>
        match envelope.kind with
        | .system => st₁.handleSystemMessage id connId envelope
        | .biz => st₁.startBusinessMessage id connId envelope

/-- `close`. -/
def closeSocket (connId : JsString) : WebSocketRuntime :=
  let st₁ :=
    if connId ∈ st.connections then
      st.modify connId fun connection =>
        { connection with egress := { connection.egress with closed := true, drainTimer := false } }
    else st
  { st₁ with
    peerLocator := st₁.peerLocator.unregister connId
    connections := st₁.connections.filter (· ≠ connId)
    pendingHandleAckByMsgId := st₁.pendingHandleAckByMsgId.filter fun _ entry =>
      ¬(entry.senderRef.nodeId = st.deps.nodeId ∧ entry.senderRef.connId = connId) }

/-- `forceCloseDrainingConnections`. -/
def forceCloseDrainingConnections : WebSocketRuntime :=
  st.connections.foldl (fun s connId =>
    s.closeConnection connId 1001 (js "server shutting down")) st

/-- `beginShutdown`. -/
def beginShutdown : WebSocketRuntime :=
  if st.shuttingDown ∨ st.disposed then st
  else
    let st₁ := { st with
      shuttingDown := true
      peerLocator := st.connections.foldl (fun l connId => l.unregister connId) st.peerLocator }
    if st.deps.shutdownGraceMs = 0 then st₁.forceCloseDrainingConnections
    else { st₁ with shutdownTimer := true }

/-- The timer of `beginShutdown`. -/
def shutdownTimerFired : WebSocketRuntime :=
  if st.shutdownTimer then { st with shutdownTimer := false }.forceCloseDrainingConnections
  else st

/-- `dispose`. -/
def dispose : WebSocketRuntime :=
  if st.disposed then st
  else
    let st₁ := st.connections.foldl (fun s connId =>
      s.closeConnection connId 1001 (js "runtime disposed")) st
    { st₁ with
      disposed := true
      shutdownTimer := false
      peerLocator := st.connections.foldl (fun l connId => l.unregister connId) st.peerLocator
      connections := []
      pendingHandleAckByMsgId := .empty
      recentClusterDeliveryByMsgId := .empty }

/-- Whether a connection is due for a ping. -/
def pingDue (connection : ConnectionState) : Bool :=
  connection.auth.isSome && st.deps.heartbeatIntervalMs ≤ st.now - connection.lastSeenAt &&
    match connection.lastPingAt with
    | none => true
    | some at' => at' = 0 || st.deps.heartbeatIntervalMs ≤ st.now - at'

/-- The heartbeat of one connection. -/
def heartbeat (connId : JsString) : WebSocketRuntime :=
  match st.connection connId with
  | none => st
  | some connection =>
    if st.deps.staleAfterMs < st.now - connection.lastSeenAt then
      st.closeConnection connId 4408 (js "heartbeat timeout")
    else if st.pingDue connection then
      ((st.modify connId fun connection =>
        { connection with lastPingAt := some st.now }).enqueueOutbound connId .ping).1
    else st

/-- `tickHeartbeat`. -/
def tickHeartbeat : WebSocketRuntime :=
  let st₁ := st.prunePendingHandleAcks
  st₁.connections.foldl (fun s connId => s.heartbeat connId) st₁

/-! ### Answers -/

/-- A call goes on with its answer; an answer of another kind is none of its. -/
def answer (id : ℕ) : Call → Answer → WebSocketRuntime
  | .authenticating connId message, .authenticated result =>
    match result with
    | .ok auth => st.finishAuth connId message auth
    | .error thrown => st.catchError connId message thrown
  | .validating connId message auth, .validMessage result =>
    match result with
    | .ok true => st.await id (.hooking connId message auth)
    | .ok false =>
      st.catchError connId message (.hardess
        { code := .AUTH_REVOKED_TOKEN, message := js "Authentication is no longer valid" })
    | .error thrown => st.catchError connId message thrown
  | .hooking connId message auth, .hooked result =>
    match result with
    | .ok result => st.afterHooks id connId message auth result
    | .error thrown => st.catchError connId message thrown
  | .finding send groupId located rest, .found => st.findNext id send groupId located rest
  | .locating send located, .located remote =>
    st.serveTargets id send [] .empty (planned located remote)
  | .checking send delivered remote target rest, .valid ok =>
    st.serveTarget id send delivered remote target rest ok
  | .relaying send delivered rest, .relayed result =>
    match result with
    | .ok conns => st.relayNext id send (delivered ++ conns) rest
    | .error _ => st.relayNext id send delivered rest
  | .forwarding connId message, .acked result =>
    match result with
    | .ok _ => st
    | .error text => st.catchError connId message (.other text)
  | .acking connId message ackFor sender, .valid ok =>
    if ok then
      st.enqueueOrCatch connId message sender (.handleAck connId ackFor message.traceId)
    else st.catchError connId message senderOffline
  | .delivering request startedAt delivered target rest, .valid ok =>
    st.deliverTarget id request startedAt delivered target rest ok
  | .forwarded request, .valid ok => st.finishForward id request ok
  | call, _ => st.await id call

/-- The await of a call is over. -/
def resume (id : ℕ) (answer : Answer) : WebSocketRuntime :=
  match st.calls.get id with
  | none => st
  | some call => { st with calls := st.calls.delete id }.answer id call answer

/-! ### The machine -/

/-- The events of the runtime. -/
inductive Event
  | advance (ms : ℕ)
  | openSocket (connId : JsString)
  | message (connId : JsString) (envelope : Option Envelope)
  | closeSocket (connId : JsString)
  | resume (id : ℕ) (answer : Answer)
  | drain (connId : JsString)
  | drainTimer (connId : JsString)
  | heartbeat
  | beginShutdown
  | shutdownTimer
  | dispose
  | deliverCluster (request : DeliverRequest)
  | forwardClusterHandleAck (request : ForwardRequest)

/-- The microtask and the timer of the queue of a connection. -/
def queueEvent (connId : JsString) (e : Outbox.Event OutboundMessage) : WebSocketRuntime :=
  match st.objects.get connId with
  | none => st
  | some connection =>
    st.modifyEgress connId (connection.egress.step st.deps.outbound (st.deps.wire connId) e)

/-- How many calls an event makes. -/
def Event.opens : Event → ℕ
  | .message .. => 1
  | .deliverCluster _ => 1
  | .forwardClusterHandleAck _ => 1
  | _ => 0

/-- What an event does; the effects are added to those that are there. -/
def handle : Event → WebSocketRuntime
  | .advance ms => { st with now := st.now + ms }
  | .openSocket connId => st.openSocket connId
  | .message connId envelope =>
    { st with nextCall := st.nextCall + 1 }.message st.nextCall connId envelope
  | .closeSocket connId => st.closeSocket connId
  | .resume id answer => st.resume id answer
  | .drain connId => st.queueEvent connId .microtask
  | .drainTimer connId => st.queueEvent connId .timer
  | .heartbeat => if st.disposed then st else st.tickHeartbeat
  | .beginShutdown => st.beginShutdown
  | .shutdownTimer => st.shutdownTimerFired
  | .dispose => st.dispose
  | .deliverCluster request =>
    { st with nextCall := st.nextCall + 1 }.deliverCluster st.nextCall request
  | .forwardClusterHandleAck request =>
    { st with nextCall := st.nextCall + 1 }.forwardClusterHandleAck st.nextCall request

/-- The runtime before an event, without the effects of the last one. -/
def cleared : WebSocketRuntime := { st with effects := [] }

/-- One event; `effects` are those of this event. -/
def step (st : WebSocketRuntime) (e : Event) : WebSocketRuntime := st.cleared.handle e

end WebSocketRuntime

end Hardess

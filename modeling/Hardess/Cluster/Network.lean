import Hardess.Cluster.Schema

/-!
# The cluster network of one node

`StaticClusterNetwork` of `src/runtime/cluster/network.ts` with its websocket transport: the
tables of channels, of connect attempts and of pending requests, and what each socket event
and each call does to them.

* a call that awaits `ensureChannel` waits in `waiting` for a connect attempt, and in
  `resumable` once the promise is settled; `resume` runs what comes after the `await`;
* `effects` holds what the last event did to the world, in order: frames, closes, calls of the
  health observer and of the server handlers, settled requests;
* `step` is the network as a machine on events.

The send queue, the metrics, the logs and `connectedAt` are left out.
-/

namespace Hardess

/-- A socket that the server accepted, or one that `socketFactory` made. -/
inductive SocketId
  | inbound (n : ℕ)
  | outbound (n : ℕ)
  deriving DecidableEq

/-- `WebSocket.readyState`. -/
inductive ReadyState
  | connecting
  | open
  | closing
  | closed
  deriving DecidableEq

/-- `ClusterPeerNode`. -/
structure ClusterPeerNode where
  nodeId : JsString
  baseUrl : JsString
  deriving DecidableEq

/-- The payload of `sendRequest`: a message without its `ref`. -/
inductive ClusterRequest
  | deliver (sender : ConnRef) (envelope : Envelope) (ack : AckMode) (targets : List ConnRef)
  | handleAck (sender : ConnRef) (ackFor : JsString) (traceId : Option JsString)

/-- `payload.type`. -/
def ClusterRequest.type : ClusterRequest → JsString
  | .deliver .. => js "deliver"
  | .handleAck .. => js "handleAck"

/-- `{ ...payload, ref }`. -/
def ClusterRequest.withRef (ref : JsString) : ClusterRequest → ClusterSocketMessage
  | .deliver sender envelope ack targets => .deliver ref sender envelope ack targets
  | .handleAck sender ackFor traceId => .handleAck ref sender ackFor traceId

/-- `ClusterPendingRequest`, with the socket and the type that its closures hold. -/
structure ClusterPendingRequest where
  nodeId : JsString
  socket : SocketId
  type : JsString
  deriving DecidableEq

/-- The closure of one connect attempt of `ensureChannel`. -/
structure ConnectAttempt where
  nodeId : JsString
  settled : Bool
  deriving DecidableEq

/-- A promise of the connecting table: of an attempt, or rejected while it was made. -/
inductive ConnectPromise
  | attempt (socket : SocketId)
  | rejected (message : JsString)
  deriving DecidableEq

/-- What follows an `await this.ensureChannel(…)`. -/
inductive AwaitPurpose
  | request (payload : ClusterRequest)
  | probe
  | gossip (message : ClusterSocketMessage)
  | warm

/-- A call that awaits `ensureChannel(nodeId)`. -/
structure Awaiting where
  nodeId : JsString
  purpose : AwaitPurpose

/-- A call of a server handler, and where its result goes. -/
structure HandlerCall where
  socket : SocketId
  ref : JsString
  type : JsString
  deriving DecidableEq

/-- How a handler call ends. -/
inductive HandlerResult
  | delivered (conns : List ConnRef)
  | forwarded (ok : Bool)
  | failed (message : JsString)

/-- What an event does outside the tables. -/
inductive ClusterEffect
  | send (socket : SocketId) (message : ClusterSocketMessage)
  | close (socket : SocketId) (code : ℕ) (reason : JsString)
  | connect (socket : SocketId) (baseUrl : JsString)
  | markAlive (nodeId : JsString) (detail : JsString)
  | markSuspect (nodeId : JsString) (detail : JsString)
  | applyRumor (rumor : ClusterPeerHealthRumor) (fromNodeId : JsString)
  | handlerCall (call : HandlerCall) (request : ClusterRequest)
  | resolve (ref : JsString) (result : HandlerResult)
  | reject (ref : JsString) (message : JsString)
  | rejectUnsent (nodeId : JsString) (message : JsString)

/-- The options that are read; `socketFactory k` gives the error that dialling a URL throws the
`k`-th time that something is dialled. -/
structure ClusterNetworkOptions where
  nodeId : JsString
  sharedSecret : Option JsString := none
  socketFactory : ℕ → JsString → Option JsString := fun _ _ => none

/-- `StaticClusterNetwork`. A channel is its socket; its node is the key. -/
structure ClusterNetwork where
  options : ClusterNetworkOptions
  peersByNodeId : JsMap JsString ClusterPeerNode := .empty
  channelsByNodeId : JsMap JsString SocketId := .empty
  pendingRequests : JsMap JsString ClusterPendingRequest := .empty
  pendingProbeByNodeId : JsMap JsString ℕ := .empty
  probeTimers : JsMap ℕ JsString := .empty
  connectingByNodeId : JsMap JsString ConnectPromise := .empty
  nodeIdBySocket : JsMap SocketId JsString := .empty
  attempts : JsMap SocketId ConnectAttempt := .empty
  readyStates : JsMap SocketId ReadyState := .empty
  waiting : List (SocketId × Awaiting) := []
  resumable : List (Awaiting × Except JsString SocketId) := []
  handling : List HandlerCall := []
  serverHandlers : Bool := false
  healthSnapshots : List ClusterPeerHealthSnapshot := []
  dials : ℕ := 0
  nextOutbound : ℕ := 0
  nextTimer : ℕ := 0
  effects : List ClusterEffect := []

namespace ClusterNetwork

/-- A new network without peers. -/
def create (options : ClusterNetworkOptions) : ClusterNetwork := { options }

variable (st : ClusterNetwork)

/-! ### Sockets -/

/-- `socket.readyState`; a socket that does not exist yet counts as connecting. -/
def readyState (socket : SocketId) : ReadyState := (st.readyStates.get socket).getD .connecting

/-- Record an effect. -/
def emit (e : ClusterEffect) : ClusterNetwork := { st with effects := st.effects ++ [e] }

/-- `sendMessage`. -/
def sendMessage (socket : SocketId) (message : ClusterSocketMessage) : ClusterNetwork :=
  st.emit (.send socket message)

/-- `socket.close(code, reason)`; the close event comes later. -/
def closeSocket (socket : SocketId) (code : ℕ) (reason : JsString) : ClusterNetwork :=
  let st' := if st.readyState socket = .closed then st
    else { st with readyStates := st.readyStates.set socket .closing }
  st'.emit (.close socket code reason)

/-! ### Health evidence -/

/-- `clearPendingProbe`. -/
def clearPendingProbe (nodeId : JsString) : ClusterNetwork :=
  match st.pendingProbeByNodeId.get nodeId with
  | none => st
  | some timer =>
    { st with
      probeTimers := st.probeTimers.delete timer
      pendingProbeByNodeId := st.pendingProbeByNodeId.delete nodeId }

/-- `notePeerAlive`. -/
def notePeerAlive (nodeId detail : JsString) : ClusterNetwork :=
  (st.clearPendingProbe nodeId).emit (.markAlive nodeId detail)

/-- `notePeerSuspect`. -/
def notePeerSuspect (nodeId detail : JsString) : ClusterNetwork :=
  (st.clearPendingProbe nodeId).emit (.markSuspect nodeId detail)

/-- A status that can be reported. -/
def reported : ClusterPeerHealthStatus → Option ReportedStatus
  | .alive => some .alive
  | .suspect => some .suspect
  | .dead => some .dead
  | .unknown => none

/-- The entry of a digest or a sync for a snapshot whose status is not unknown. -/
def healthItem (s : ClusterPeerHealthSnapshot) : Option PeerHealthItem :=
  (reported s.status).map fun status =>
    { peerNodeId := s.nodeId, status, incarnation := s.incarnation, lastAliveAt := s.lastAliveAt }

/-- `collectPeerHealthRepairTargets`. -/
def collectPeerHealthRepairTargets (digests : List PeerHealthItem) : List JsString :=
  let localByNodeId := st.healthSnapshots.foldl (fun m s => m.set s.nodeId s) JsMap.empty
  let wanted (digest : PeerHealthItem) : Bool :=
    match localByNodeId.get digest.peerNodeId with
    | none => true
    | some own =>
      if own.status = .unknown then true
      else if own.incarnation.lt digest.incarnation then true
      else if digest.incarnation.lt own.incarnation then false
      else if ClusterPeerHealthStore.statusRank own.status <
          ClusterPeerHealthStore.statusRank digest.status.toStatus then true
      else digest.status.toStatus = own.status &&
        (own.lastAliveAt.getD (.ofNat 0)).lt (digest.lastAliveAt.getD (.ofNat 0)) &&
        own.source ≠ .localSource
  (digests.filter wanted).map PeerHealthItem.peerNodeId

/-! ### Channels -/

/-- The first part of `registerChannel`: the channel of the node, if it is another socket, is
closed. -/
def closeReplaced (nodeId : JsString) (socket : SocketId) : ClusterNetwork :=
  match st.channelsByNodeId.get nodeId with
  | some existing =>
    if existing ≠ socket then st.closeSocket existing 1000 (js "cluster channel replaced") else st
  | none => st

/-- `registerChannel`. -/
def registerChannel (nodeId : JsString) (socket : SocketId) : ClusterNetwork :=
  let st' := st.closeReplaced nodeId socket
  { st' with
    channelsByNodeId := st'.channelsByNodeId.set nodeId socket
    nodeIdBySocket := st'.nodeIdBySocket.set socket nodeId }

/-- The message of a request that lost its channel. -/
def channelClosed (nodeId : JsString) : JsString := js "Cluster channel closed: " ++ nodeId

/-- `unregisterSocket`, after the send queue. -/
def unregisterSocket (socket : SocketId) : ClusterNetwork :=
  match st.nodeIdBySocket.get socket with
  | none => st
  | some nodeId =>
    let st₁ :=
      if nodeId = [] then st
      else
        let st₁ := (st.clearPendingProbe nodeId).notePeerSuspect nodeId (js "channel_closed")
        { st₁ with
          channelsByNodeId :=
            if st₁.channelsByNodeId.get nodeId = some socket then
              st₁.channelsByNodeId.delete nodeId
            else st₁.channelsByNodeId
          nodeIdBySocket := st₁.nodeIdBySocket.delete socket }
    let lost := st₁.pendingRequests.entries.filter fun e => e.2.nodeId = nodeId
    { st₁ with
      pendingRequests := st₁.pendingRequests.filter fun _ p => p.nodeId ≠ nodeId
      effects := st₁.effects ++ lost.map fun e => .reject e.1 (channelClosed nodeId) }

/-- The calls that wait for the attempt on `socket` get its outcome. -/
def settleWaiting (socket : SocketId) (outcome : Except JsString SocketId) : ClusterNetwork :=
  { st with
    waiting := st.waiting.filter fun w => w.1 ≠ socket
    resumable := st.resumable ++
      (st.waiting.filter fun w => w.1 = socket).map fun w => (w.2, outcome) }

/-- `finishReject` of the attempt on `socket`. -/
def finishReject (socket : SocketId) (message : JsString) : ClusterNetwork :=
  match st.attempts.get socket with
  | none => st
  | some attempt =>
    if attempt.settled then st
    else
      let st₁ := { st with
        attempts := st.attempts.set socket { attempt with settled := true }
        connectingByNodeId := st.connectingByNodeId.delete attempt.nodeId }
      ((st₁.closeSocket socket 1013 message).notePeerSuspect attempt.nodeId message).settleWaiting
        socket (.error message)

/-- `finishResolve` of the attempt on `socket`. -/
def finishResolve (socket : SocketId) : ClusterNetwork :=
  match st.attempts.get socket with
  | none => st
  | some attempt =>
    if attempt.settled then st
    else
      ({ st with
        attempts := st.attempts.set socket { attempt with settled := true }
        connectingByNodeId := st.connectingByNodeId.delete attempt.nodeId }).settleWaiting
        socket (.ok socket)

/-- A call whose promise is settled already goes on in a microtask. -/
def settleNow (call : Awaiting) (outcome : Except JsString SocketId) : ClusterNetwork :=
  { st with resumable := st.resumable ++ [(call, outcome)] }

/-- A new connect attempt, with the call that waits for it. -/
def connect (peer : ClusterPeerNode) (call : Awaiting) : ClusterNetwork :=
  let socket := SocketId.outbound st.nextOutbound
  { st with
    dials := st.dials + 1
    nextOutbound := st.nextOutbound + 1
    attempts := st.attempts.set socket ⟨call.nodeId, false⟩
    connectingByNodeId := st.connectingByNodeId.set call.nodeId (.attempt socket)
    waiting := st.waiting ++ [(socket, call)]
    effects := st.effects ++ [.connect socket peer.baseUrl] }

/-- `ensureChannel`, up to its first suspension. -/
def ensureChannel (nodeId : JsString) (purpose : AwaitPurpose) : ClusterNetwork :=
  match (st.channelsByNodeId.get nodeId).filter fun s => st.readyState s ≠ .closed with
  | some socket => st.settleNow ⟨nodeId, purpose⟩ (.ok socket)
  | none =>
    match st.connectingByNodeId.get nodeId with
    | some (.attempt socket) => { st with waiting := st.waiting ++ [(socket, ⟨nodeId, purpose⟩)] }
    | some (.rejected message) => st.settleNow ⟨nodeId, purpose⟩ (.error message)
    | none =>
      match st.peersByNodeId.get nodeId with
      | none => st.settleNow ⟨nodeId, purpose⟩ (.error (js "Unknown cluster peer: " ++ nodeId))
      | some peer =>
        match st.options.socketFactory st.dials peer.baseUrl with
        | some message =>
          { st.settleNow ⟨nodeId, purpose⟩ (.error message) with
            dials := st.dials + 1
            connectingByNodeId := st.connectingByNodeId.set nodeId (.rejected message) }
        | none => st.connect peer ⟨nodeId, purpose⟩

/-! ### Incoming messages -/

/-- `hooks.onHelloAck`, which only the sockets of connect attempts have. -/
def onHelloAck (socket : SocketId) (remoteNodeId : JsString) : ClusterNetwork :=
  match st.attempts.get socket with
  | none => st
  | some attempt =>
    if remoteNodeId ≠ attempt.nodeId then
      st.finishReject socket (js "Cluster helloAck mismatch: expected=" ++ attempt.nodeId ++
        js " actual=" ++ remoteNodeId)
    else
      ((st.registerChannel attempt.nodeId socket).notePeerAlive attempt.nodeId
        (js "hello_ack")).finishResolve socket

/-- The rumor in a health item. -/
def rumorOf (i : PeerHealthItem) : ClusterPeerHealthRumor :=
  { nodeId := i.peerNodeId, status := i.status, incarnation := i.incarnation
    lastAliveAt := i.lastAliveAt }

/-- `sendPeerHealthSyncToPeer`. -/
def sendPeerHealthSyncToPeer (nodeId : JsString) (snapshots : List ClusterPeerHealthSnapshot) :
    ClusterNetwork :=
  let rumors := snapshots.filterMap healthItem
  if rumors = [] then st else st.ensureChannel nodeId (.gossip (.peerHealthSync rumors))

/-- A request leaves the table. -/
def settlePending (ref : JsString) : ClusterNetwork :=
  { st with pendingRequests := st.pendingRequests.delete ref }

/-- The calls of the server handlers. -/
def callHandler (socket : SocketId) (ref : JsString) (request : ClusterRequest) :
    ClusterNetwork :=
  let call : HandlerCall := ⟨socket, ref, request.type⟩
  { st with
    handling := st.handling ++ [call]
    effects := st.effects ++ [.handlerCall call request] }

/-- The message of a result without handlers. -/
def handlersMissing : JsString := js "Cluster server handlers are not configured"

/-- The messages that an unauthenticated socket may send. -/
def isHandshake : ClusterSocketMessage → Bool
  | .hello .. => true
  | .helloAck .. => true
  | _ => false

/-- The cases of `handleIncomingMessage` that need an authenticated socket; `remoteNodeId` is the
node it belongs to. -/
def handleChannelMessage (socket : SocketId) (remoteNodeId : JsString) :
    ClusterSocketMessage → ClusterNetwork
  | .hello .. => st
  | .helloAck .. => st
  | .ping ts => (st.notePeerAlive remoteNodeId (js "ping")).sendMessage socket (.pong ts)
  | .pong _ => st.notePeerAlive remoteNodeId (js "pong")
  | .peerHealthRumor rumor =>
    (st.notePeerAlive remoteNodeId (js "peer_health_rumor")).emit
      (.applyRumor (rumorOf rumor) remoteNodeId)
  | .peerHealthDigest digests =>
    let st₁ := st.notePeerAlive remoteNodeId (js "peer_health_digest")
    let requested := st₁.collectPeerHealthRepairTargets digests
    if requested = [] then st₁
    else st₁.ensureChannel remoteNodeId (.gossip (.peerHealthRepairRequest requested))
  | .peerHealthRepairRequest peerNodeIds =>
    let st₁ := st.notePeerAlive remoteNodeId (js "peer_health_repair_request")
    st₁.sendPeerHealthSyncToPeer remoteNodeId
      (st₁.healthSnapshots.filter fun s => s.nodeId ∈ peerNodeIds)
  | .peerHealthSync rumors =>
    let st₁ := st.notePeerAlive remoteNodeId (js "peer_health_sync")
    { st₁ with
      effects := st₁.effects ++ rumors.map fun r => .applyRumor (rumorOf r) remoteNodeId }
  | .deliver ref sender envelope ack targets =>
    if st.serverHandlers then st.callHandler socket ref (.deliver sender envelope ack targets)
    else st.sendMessage socket (.deliverResult ref [] (some handlersMissing))
  | .deliverResult ref deliveredConns error =>
    match st.pendingRequests.get ref with
    | none => st
    | some pending =>
      let st₁ := st.settlePending ref
      match error.filter (· ≠ []) with
      | some message =>
        (st₁.notePeerSuspect pending.nodeId (js "deliver_error:" ++ message)).emit
          (.reject ref message)
      | none =>
        (st₁.notePeerAlive pending.nodeId (js "deliver_result")).emit
          (.resolve ref (.delivered deliveredConns))
  | .handleAck ref sender ackFor traceId =>
    if st.serverHandlers then st.callHandler socket ref (.handleAck sender ackFor traceId)
    else st.sendMessage socket (.handleAckResult ref false (some handlersMissing))
  | .handleAckResult ref ok error =>
    match st.pendingRequests.get ref with
    | none => st
    | some pending =>
      let st₁ := st.settlePending ref
      if ok then
        (st₁.notePeerAlive pending.nodeId (js "handle_ack_result")).emit
          (.resolve ref (.forwarded true))
      else
        (st₁.notePeerSuspect pending.nodeId
          (js "handle_ack_error:" ++ error.getD (js "unknown"))).emit
          (.reject ref (error.getD (js "Cluster handleAck failed")))

/-- The case `hello` of `handleIncomingMessage`. -/
def handleHello (socket : SocketId) (nodeId : JsString) (secret : Option JsString) :
    ClusterNetwork :=
  if (st.options.sharedSecret.filter (· ≠ [])).isSome ∧ secret ≠ st.options.sharedSecret then
    st.closeSocket socket 4401 (js "cluster shared secret mismatch")
  else
    ((st.registerChannel nodeId socket).notePeerAlive nodeId (js "hello")).sendMessage socket
      (.helloAck st.options.nodeId)

/-- `nodeIdBySocket.set(socket, nodeId)`. -/
def bindSocket (socket : SocketId) (nodeId : JsString) : ClusterNetwork :=
  { st with nodeIdBySocket := st.nodeIdBySocket.set socket nodeId }

/-- The case `helloAck` of `handleIncomingMessage`. -/
def handleHelloAck (socket : SocketId) (nodeId : JsString) : ClusterNetwork :=
  ((st.bindSocket socket nodeId).notePeerAlive nodeId (js "hello_ack")).onHelloAck socket nodeId

/-- `handleIncomingMessage`, once the frame is parsed. -/
def handleMessage (socket : SocketId) (message : ClusterSocketMessage) : ClusterNetwork :=
  let remoteNodeId := (st.nodeIdBySocket.get socket).getD []
  if remoteNodeId = [] ∧ isHandshake message = false then
    st.closeSocket socket 4401 (js "cluster channel not authenticated")
  else
    match message with
    | .hello nodeId secret => st.handleHello socket nodeId secret
    | .helloAck nodeId => st.handleHelloAck socket nodeId
    | message => st.handleChannelMessage socket remoteNodeId message

/-- `handleIncomingMessage`. -/
def handleIncomingMessage (socket : SocketId) (raw : JsString) : ClusterNetwork :=
  match parseClusterSocketMessage raw with
  | none => st.closeSocket socket 4400 (js "invalid cluster message")
  | some message => st.handleMessage socket message

/-! ### Calls -/

/-- The channel `c` is closed unless its node is one of the new peers. -/
def closeRemoved (next : JsMap JsString ClusterPeerNode) (c : JsString × SocketId) :
    ClusterNetwork :=
  if next.has c.1 then st
  else
    let st₁ := (st.clearPendingProbe c.1).closeSocket c.2 1012 (js "cluster peer removed")
    { st₁ with channelsByNodeId := st₁.channelsByNodeId.delete c.1 }

/-- `setPeers`. -/
def setPeers (peers : List ClusterPeerNode) : ClusterNetwork :=
  let next := peers.foldl (fun m p => m.set p.nodeId p) JsMap.empty
  let st₁ := st.channelsByNodeId.entries.foldl (fun s c => closeRemoved s next c) st
  let st₂ := st₁.pendingProbeByNodeId.keys.foldl (fun s n =>
    if next.has n then s else s.clearPendingProbe n) st₁
  { st₂ with peersByNodeId := next }

/-- `disconnectPeer`. -/
def disconnectPeer (nodeId reason : JsString) : ClusterNetwork :=
  let st₁ := st.clearPendingProbe nodeId
  match st₁.channelsByNodeId.get nodeId with
  | none => st₁
  | some socket =>
    let st₂ := st₁.closeSocket socket 1012 reason
    ({ st₂ with channelsByNodeId := st₂.channelsByNodeId.delete nodeId }).notePeerSuspect nodeId
      reason

/-- The part of `stopPeerProbes` that is about pending probes. -/
def stopPeerProbes : ClusterNetwork :=
  st.pendingProbeByNodeId.keys.foldl (fun s n => s.clearPendingProbe n) st

/-- Every pending request is rejected. -/
def rejectPending (message : JsString) : ClusterNetwork :=
  { st with
    pendingRequests := .empty
    effects := st.effects ++ st.pendingRequests.entries.map fun e => .reject e.1 message }

/-- `dispose`. -/
def dispose : ClusterNetwork :=
  let st₁ := st.stopPeerProbes.rejectPending (js "Cluster network disposed")
  let st₂ := st₁.channelsByNodeId.entries.foldl
    (fun (s : ClusterNetwork) c => s.closeSocket c.2 1012 (js "cluster network disposed")) st₁
  { st₂ with channelsByNodeId := .empty }

/-- The call `i` that waited for `ensureChannel` goes on; `ref` and `ts` are the random id and
the time it reads if it sends. -/
def resume (i : ℕ) (ref : JsString) (ts : JsNumber) : ClusterNetwork :=
  match st.resumable[i]? with
  | none => st
  | some (awaiting, outcome) =>
    let st₁ := { st with resumable := st.resumable.eraseIdx i }
    match awaiting.purpose, outcome with
    | .request payload, .ok socket =>
      -- a random id is never one that is in use
      if st.pendingRequests.has ref then st
      else
        ({ st₁ with
          pendingRequests := st₁.pendingRequests.set ref ⟨awaiting.nodeId, socket, payload.type⟩
          }).sendMessage socket (payload.withRef ref)
    | .request _, .error message => st₁.emit (.rejectUnsent awaiting.nodeId message)
    | .probe, .ok socket =>
      ({ st₁ with
        nextTimer := st₁.nextTimer + 1
        probeTimers := st₁.probeTimers.set st₁.nextTimer awaiting.nodeId
        pendingProbeByNodeId := st₁.pendingProbeByNodeId.set awaiting.nodeId st₁.nextTimer
        }).sendMessage socket (.ping ts)
    | .probe, .error message => st₁.notePeerSuspect awaiting.nodeId message
    | .gossip message, .ok socket => st₁.sendMessage socket message
    | .gossip _, .error _ => st₁
    | .warm, _ => st₁

/-- The first part of `probePeer`. -/
def probePeer (nodeId : JsString) : ClusterNetwork :=
  if st.pendingProbeByNodeId.has nodeId then st else st.ensureChannel nodeId .probe

/-- The timeout of a probe. -/
def probeTimeout (timer : ℕ) : ClusterNetwork :=
  match st.probeTimers.get timer with
  | none => st
  | some nodeId =>
    ({ st with
      probeTimers := st.probeTimers.delete timer
      pendingProbeByNodeId := st.pendingProbeByNodeId.delete nodeId }).notePeerSuspect nodeId
      (js "probe_timeout")

/-- The timeout of a request. -/
def requestTimeout (ref : JsString) : ClusterNetwork :=
  match st.pendingRequests.get ref with
  | none => st
  | some pending =>
    ((st.settlePending ref).notePeerSuspect pending.nodeId
      (js "request_timeout:" ++ pending.type)).emit
      (.reject ref (js "Cluster request timed out: " ++ pending.type ++ js " -> " ++
        pending.nodeId))

/-- The frame of a request could not be sent. -/
def requestSendFailed (ref message : JsString) : ClusterNetwork :=
  if st.pendingRequests.has ref then
    (st.settlePending ref).emit (.reject ref message)
  else st

/-- A handler call ends, and its result is sent back. -/
def handlerSettled (i : ℕ) (result : HandlerResult) : ClusterNetwork :=
  match st.handling[i]? with
  | none => st
  | some call =>
    let st₁ := { st with handling := st.handling.eraseIdx i }
    let failed (message : JsString) : ClusterSocketMessage :=
      if call.type = js "deliver" then .deliverResult call.ref [] (some message)
      else .handleAckResult call.ref false (some message)
    match result with
    | .delivered conns => st₁.sendMessage call.socket (.deliverResult call.ref conns none)
    | .forwarded ok => st₁.sendMessage call.socket (.handleAckResult call.ref ok none)
    | .failed message => st₁.sendMessage call.socket (failed message)

/-! ### Socket events -/

/-- Change the state of a socket. -/
def setReadyState (socket : SocketId) (r : ReadyState) : ClusterNetwork :=
  { st with readyStates := st.readyStates.set socket r }

/-- `openServerSocket`, on a connection that was just accepted. -/
def openServerSocket (n : ℕ) : ClusterNetwork :=
  if st.readyState (.inbound n) = .connecting then st.setReadyState (.inbound n) .open else st

/-- `messageServerSocket`. The code does not look at the state of the socket: Bun delivers no frame
before it is open or after it is closed. -/
def messageServerSocket (n : ℕ) (raw : JsString) : ClusterNetwork :=
  if st.readyState (.inbound n) = .open then st.handleIncomingMessage (.inbound n) raw else st

/-- `closeServerSocket`, when the connection is gone. -/
def closeServerSocket (n : ℕ) : ClusterNetwork :=
  if st.readyState (.inbound n) = .open ∨ st.readyState (.inbound n) = .closing then
    (st.setReadyState (.inbound n) .closed).unregisterSocket (.inbound n)
  else st

/-- The `open` listener of a connect attempt. -/
def socketOpened (n : ℕ) : ClusterNetwork :=
  if n < st.nextOutbound ∧ st.readyState (.outbound n) = .connecting then
    (st.setReadyState (.outbound n) .open).sendMessage (.outbound n)
      (.hello st.options.nodeId st.options.sharedSecret)
  else st

/-- The `message` listener of a connect attempt. -/
def socketMessage (n : ℕ) (raw : JsString) : ClusterNetwork :=
  if st.readyState (.outbound n) = .open then st.handleIncomingMessage (.outbound n) raw else st

/-- Whether the connecting table has an entry for the node that the attempt dials. -/
def attemptConnecting (socket : SocketId) : Bool :=
  (st.attempts.get socket).any fun a => st.connectingByNodeId.has a.nodeId

/-- The node that the attempt on a socket dials. -/
def dialled (socket : SocketId) : JsString := ((st.attempts.get socket).map (·.nodeId)).getD []

/-- The `close` listener of a connect attempt. -/
def socketClosed (n : ℕ) : ClusterNetwork :=
  if n < st.nextOutbound ∧ st.readyState (.outbound n) ≠ .closed then
    let st₁ := (st.setReadyState (.outbound n) .closed).unregisterSocket (.outbound n)
    if st₁.attemptConnecting (.outbound n) then
      st₁.finishReject (.outbound n)
        (js "Cluster socket closed during connect: " ++ st₁.dialled (.outbound n))
    else st₁
  else st

/-- The `error` listener of a connect attempt. -/
def socketError (n : ℕ) : ClusterNetwork :=
  if st.attemptConnecting (.outbound n) then
    st.finishReject (.outbound n)
      (js "Cluster socket error during connect: " ++ st.dialled (.outbound n))
  else st

/-- The timeout of a connect attempt. -/
def connectTimeout (n : ℕ) : ClusterNetwork :=
  st.finishReject (.outbound n)
    (js "Cluster socket connect timed out: " ++ st.dialled (.outbound n))

/-- The handling of a message on `socket` threw, as when its answer cannot be sent; on an
outbound socket also the `hello` may be what cannot be sent. -/
def handlingFailed (socket : SocketId) (message : JsString) : ClusterNetwork :=
  match socket with
  | .inbound _ => st.closeSocket socket 1011 (js "cluster websocket message handling failed")
  | .outbound _ => st.finishReject socket message

/-! ### The machine -/

/-- The events of a network. -/
inductive Event
  | setPeers (peers : List ClusterPeerNode)
  | setServerHandlers
  | healthChanged (snapshots : List ClusterPeerHealthSnapshot)
  | ensureChannel (nodeId : JsString) (purpose : AwaitPurpose)
  | probePeer (nodeId : JsString)
  | resume (i : ℕ) (ref : JsString) (ts : JsNumber)
  | openServerSocket (n : ℕ)
  | messageServerSocket (n : ℕ) (raw : JsString)
  | closeServerSocket (n : ℕ)
  | socketOpened (n : ℕ)
  | socketMessage (n : ℕ) (raw : JsString)
  | socketClosed (n : ℕ)
  | socketError (n : ℕ)
  | connectTimeout (n : ℕ)
  | handlingFailed (socket : SocketId) (message : JsString)
  | drainFailed (socket : SocketId)
  | requestTimeout (ref : JsString)
  | requestSendFailed (ref message : JsString)
  | probeTimeout (timer : ℕ)
  | probeSendFailed (nodeId message : JsString)
  | handlerSettled (i : ℕ) (result : HandlerResult)
  | httpFailed (nodeId detail : JsString)
  | httpOk (nodeId path : JsString)
  | disconnectPeer (nodeId reason : JsString)
  | stopPeerProbes
  | dispose

/-- What an event does; the effects are added to those that are there. -/
def handle : Event → ClusterNetwork
  | .setPeers peers => st.setPeers peers
  | .setServerHandlers => { st with serverHandlers := true }
  | .healthChanged snapshots => { st with healthSnapshots := snapshots }
  | .ensureChannel nodeId purpose => st.ensureChannel nodeId purpose
  | .probePeer nodeId => st.probePeer nodeId
  | .resume i ref ts => st.resume i ref ts
  | .openServerSocket n => st.openServerSocket n
  | .messageServerSocket n raw => st.messageServerSocket n raw
  | .closeServerSocket n => st.closeServerSocket n
  | .socketOpened n => st.socketOpened n
  | .socketMessage n raw => st.socketMessage n raw
  | .socketClosed n => st.socketClosed n
  | .socketError n => st.socketError n
  | .connectTimeout n => st.connectTimeout n
  | .handlingFailed socket message => st.handlingFailed socket message
  | .drainFailed socket => st.closeSocket socket 1011 (js "cluster outbound send failed")
  | .requestTimeout ref => st.requestTimeout ref
  | .requestSendFailed ref message => st.requestSendFailed ref message
  | .probeTimeout timer => st.probeTimeout timer
  | .probeSendFailed nodeId message => st.notePeerSuspect nodeId message
  | .handlerSettled i result => st.handlerSettled i result
  | .httpFailed nodeId detail => st.notePeerSuspect nodeId detail
  | .httpOk nodeId path => st.notePeerAlive nodeId (js "http_" ++ path)
  | .disconnectPeer nodeId reason => st.disconnectPeer nodeId reason
  | .stopPeerProbes => st.stopPeerProbes
  | .dispose => st.dispose

/-- The network before an event, without the effects of the last one. -/
def cleared : ClusterNetwork := { st with effects := [] }

/-- One event; `effects` are those of this event. -/
def step (st : ClusterNetwork) (e : Event) : ClusterNetwork := st.cleared.handle e

end ClusterNetwork

end Hardess

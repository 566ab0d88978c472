import Hardess.Cluster.DistributedPeerLocator
import Hardess.Cluster.Health
import Hardess.Cluster.Network
import Hardess.Ingress.WebSocket
import Hardess.Shared.AdminTypes

/-!
# A runtime app

How `createRuntimeApp` of `src/runtime/app.ts` wires the parts that find and reach peers: the
topology store of `src/runtime/control/topology-store.ts`, the cluster network, the two locators and
the websocket runtime.

* whether the locator and the websocket runtime see the network is decided when the app is created:
  `locatesPeers` and the `clusterNetwork` of the websocket runtime;
* `lookups` says which call of `findMany` a message waits for that is being sent: a call of the
  websocket runtime asks for its peers when it starts to look for them here, and goes on with the
  result;
* `asked` is the question that the last event put to other nodes; their answers are part of the
  events;
* before a second attempt the dispatcher drops entries of the cache; here `invalidate` can come at
  any time.
-/

namespace Hardess

/-! ### The topology -/

/-- `RuntimeTopologyStore`, with the hosts of the membership; `precedes` says of two strings that
`localeCompare` puts the first one not after the second. -/
structure RuntimeTopologyStore where
  precedes : JsString → JsString → Bool
  hosts : List MembershipHost := []
  runtimePeerHealthByNodeId : JsMap JsString ClusterPeerHealthStatus := .empty

namespace RuntimeTopologyStore

variable (store : RuntimeTopologyStore)

/-- The peer that a host is, if it is one. -/
def peerOf (selfNodeId : JsString) (allowedHostIds : Option (List JsString))
    (host : MembershipHost) : Option ClusterPeerNode := do
  let nodeId ← host.nodeId.filter (· ≠ [])
  if host.state = .offline ∨ nodeId = selfNodeId then none
  else if (allowedHostIds.any fun allowed => ¬allowed.contains host.hostId) then none
  else
    let baseUrl ← (host.internalBaseUrl.or host.publicBaseUrl).filter (· ≠ [])
    some { nodeId, baseUrl }

/-- `buildClusterPeers`. -/
def buildClusterPeers (selfNodeId : JsString) (allowedHostIds : Option (List JsString)) :
    List ClusterPeerNode :=
  let peers := (store.hosts.filterMap (peerOf selfNodeId allowedHostIds)).foldl
    (fun m peer => m.set peer.nodeId peer) JsMap.empty
  (peers.entries.map Prod.snd).insertionSort fun left right =>
    store.precedes left.nodeId right.nodeId = true

/-- `listClusterPeers`. -/
def listClusterPeers (selfNodeId : JsString) : List ClusterPeerNode :=
  store.buildClusterPeers selfNodeId none

/-- `resolveAllowedHostIdsForGroup`. -/
def resolveAllowedHostIdsForGroup (groupId : Option JsString) : Option (List JsString) :=
  if store.hosts = [] then none
  else some ((store.hosts.filter fun host => host.groupId = groupId).map (·.hostId))

/-- `peerStatus`. -/
def peerStatus (nodeId : JsString) : ClusterPeerHealthStatus :=
  if nodeId = [] then .unknown else (store.runtimePeerHealthByNodeId.get nodeId).getD .unknown

/-- `listClusterPeerNodeIds`. -/
def listClusterPeerNodeIds (selfNodeId : JsString) (scope : Option FindOptions) :
    Option (List JsString) :=
  let allowedHostIds := scope.bind fun scope => store.resolveAllowedHostIdsForGroup scope.groupId
  let peers := store.buildClusterPeers selfNodeId allowedHostIds
  let effectivePeers := peers.filter fun peer => store.peerStatus peer.nodeId ≠ .dead
  if 0 < peers.length then some (effectivePeers.map (·.nodeId))
  else if allowedHostIds = none then none
  else some []

/-- `setTopology`, without its listeners. -/
def setTopology (hosts : List MembershipHost) : RuntimeTopologyStore := { store with hosts }

/-- `setRuntimePeerHealth`. -/
def setRuntimePeerHealth (nodeId : JsString) (status : ClusterPeerHealthStatus) :
    RuntimeTopologyStore :=
  { store with
    runtimePeerHealthByNodeId := store.runtimePeerHealthByNodeId.set nodeId status }

/-- `clearRuntimePeerHealth`. -/
def clearRuntimePeerHealth (nodeIds : List JsString) : RuntimeTopologyStore :=
  { store with
    runtimePeerHealthByNodeId := store.runtimePeerHealthByNodeId.filter fun nodeId _ =>
      nodeIds.contains nodeId }

end RuntimeTopologyStore

/-! ### The connections of this node -/

/-- `find` of `InMemoryPeerLocator`; without options it is not about a group. -/
def InMemoryPeerLocator.findWith (locator : InMemoryPeerLocator) (peerId : JsString) :
    Option FindOptions → List ConnRef
  | none => ((locator.connsByPeer.get peerId).getD .empty).entries.map Prod.snd
  | some options => locator.find peerId options.groupId

/-- `findMany` of `InMemoryPeerLocator`. -/
def InMemoryPeerLocator.findMany (locator : InMemoryPeerLocator) (peerIds : List JsString)
    (options : Option FindOptions) : JsMap JsString (List ConnRef) :=
  peerIds.foldl (fun result peerId => result.set peerId (locator.findWith peerId options)) .empty

/-! ### The app -/

/-- `hasPeers`. -/
def ClusterNetwork.hasPeers (network : ClusterNetwork) : Bool := 0 < network.peersByNodeId.size

/-- `listPeers`. -/
def ClusterNetwork.listPeers (network : ClusterNetwork) : List ClusterPeerNode :=
  network.peersByNodeId.entries.map Prod.snd

/-- The options of `createRuntimeApp` that are read here. -/
structure RuntimeAppOptions where
  nodeId : JsString := js "local"
  precedes : JsString → JsString → Bool := fun _ _ => true
  sharedSecret : Option JsString := none
  locatorCacheTtlMs : ℕ := 250
  websocket : WebSocketRuntimeDeps

/-- A question to other nodes: which connections do the peers have in the group? -/
structure LocateRequest where
  call : ℕ
  nodeIds : List JsString
  peerIds : List JsString
  groupId : Option JsString
  deriving DecidableEq

/-- The app of `createRuntimeApp`, as far as it finds and reaches peers. -/
structure RoutingApp where
  nodeId : JsString
  clusterNetwork : ClusterNetwork
  topologyStore : RuntimeTopologyStore
  locatesPeers : Bool
  peerLocator : DistributedPeerLocator
  websocket : WebSocketRuntime
  lookups : JsMap ℕ ℕ := .empty
  asked : Option LocateRequest := none

/-- `createRuntimeApp`, with the static peers of its options. -/
def createRuntimeApp (options : RuntimeAppOptions) (peers : List ClusterPeerNode) : RoutingApp :=
  let clusterNetwork := (ClusterNetwork.create
    { nodeId := options.nodeId, sharedSecret := options.sharedSecret }).setPeers peers
  { nodeId := options.nodeId
    clusterNetwork
    topologyStore := { precedes := options.precedes }
    locatesPeers := clusterNetwork.hasPeers
    peerLocator := .create options.locatorCacheTtlMs
    websocket := .create { options.websocket with
      nodeId := options.nodeId
      clusterNetwork := clusterNetwork.hasPeers } }

namespace RoutingApp

/-- What can happen to an app. -/
inductive Event
  /-- A topology is given. -/
  | setTopology (hosts : List MembershipHost)
  /-- The health of a peer changes. -/
  | peerHealth (nodeId : JsString) (status : ClusterPeerHealthStatus)
  /-- Something happens on the control channels. -/
  | network (e : ClusterNetwork.Event)
  /-- Something happens to the websocket runtime. -/
  | websocket (e : WebSocketRuntime.Event)
  /-- A message that is being sent asks the locator for its peers. -/
  | findMany (call : ℕ)
  /-- The connections of this node are there for it. -/
  | localFound (call : ℕ)
  /-- The peers of a call of `findMany` have been looked for on the other nodes. -/
  | located (id : ℕ) (remote : JsMap JsString (List ConnRef))
  /-- The message goes on with what was found. -/
  | found (call : ℕ)
  /-- Some peers are looked up, for no message. -/
  | lookUp (peerIds : List JsString) (options : Option FindOptions)
  /-- The entries of a peer are dropped. -/
  | invalidate (peerId : JsString)

variable (app : RoutingApp)

/-- The nodes that `locate` of the network asks for a lookup with these options. -/
def askedNodes (options : Option FindOptions) : List JsString :=
  (app.clusterNetwork.listPeers.map (·.nodeId)).filter fun nodeId =>
    (app.topologyStore.listClusterPeerNodeIds app.nodeId options).all (·.contains nodeId)

/-- The local locator has answered a call of `findMany`. -/
def answerLocally (id : ℕ) (result : JsMap JsString (List ConnRef)) : RoutingApp :=
  match app.peerLocator.calls.get id with
  | some (.awaitingLocal _ options) =>
    let peerLocator := app.peerLocator.step (.localFound id result
      (app.locatesPeers && app.clusterNetwork.hasPeers) app.websocket.now)
    let asked : Option LocateRequest :=
      match peerLocator.calls.get id with
      | some (.awaitingRemote _ _ cacheMisses _) =>
        some ⟨id, app.askedNodes options, cacheMisses, scopeGroup options⟩
      | _ => none
    { app with peerLocator, asked }
  | _ => app

/-- An event of the control channels; the peers are set by the topology alone. -/
def networkEvent : ClusterNetwork.Event → RoutingApp
  | .setPeers _ => app
  | e => { app with clusterNetwork := app.clusterNetwork.step e }

/-- An event of the websocket runtime; the answer of the locator comes from the locator alone. -/
def websocketEvent : WebSocketRuntime.Event → RoutingApp
  | .resume _ (.located _) => app
  | e => { app with websocket := app.websocket.step e }

/-- The listeners of the topology store. -/
def setTopology (hosts : List MembershipHost) : RoutingApp :=
  let topologyStore := app.topologyStore.setTopology hosts
  let dynamicPeers := topologyStore.listClusterPeers app.nodeId
  { app with
    topologyStore := topologyStore.clearRuntimePeerHealth (dynamicPeers.map (·.nodeId))
    clusterNetwork := app.clusterNetwork.step (.setPeers dynamicPeers) }

/-- The listener of the health store. -/
def peerHealth (nodeId : JsString) (status : ClusterPeerHealthStatus) : RoutingApp :=
  let app := { app with topologyStore := app.topologyStore.setRuntimePeerHealth nodeId status }
  if status = .dead then
    { app with
      clusterNetwork := app.clusterNetwork.cleared.disconnectPeer nodeId
        (js "cluster peer marked dead")
      peerLocator := app.peerLocator.step (.invalidate none) }
  else app

/-- A message that is being sent asks for its peers, once for each attempt. -/
def findMany (call : ℕ) : RoutingApp :=
  match app.websocket.calls.get call, app.lookups.get call with
  | some (.finding _ groupId located rest), none =>
    { app with
      peerLocator := app.peerLocator.step
        (.findMany (located.map Prod.fst ++ rest) (some { groupId }))
      lookups := app.lookups.set call app.peerLocator.nextCall }
  | _, _ => app

/-- The connections of this node are there for a message. -/
def localFound (call : ℕ) : RoutingApp :=
  match app.websocket.calls.get call, app.lookups.get call with
  | some (.locating _ located), some id =>
    app.answerLocally id (located.foldl (fun m found => m.set found.1 found.2) .empty)
  | _, _ => app

/-- A message goes on with what its lookup found. -/
def found (call : ℕ) : RoutingApp :=
  match app.lookups.get call with
  | none => app
  | some id =>
    match app.peerLocator.found.find? fun found => found.call = id with
    | none => app
    | some found =>
      { app with
        websocket := app.websocket.step (.resume call (.located found.result.entries))
        lookups := app.lookups.delete call }

/-- A lookup for no message. -/
def lookUp (peerIds : List JsString) (options : Option FindOptions) : RoutingApp :=
  { app with peerLocator := app.peerLocator.step (.findMany peerIds options) }.answerLocally
    app.peerLocator.nextCall (app.websocket.peerLocator.findMany peerIds options)

/-- The app before an event, without what the last one did outside. -/
def cleared : RoutingApp := { app with websocket := app.websocket.cleared, asked := none }

/-- What an event does. -/
def handle : Event → RoutingApp
  | .setTopology hosts => app.setTopology hosts
  | .peerHealth nodeId status => app.peerHealth nodeId status
  | .network e => app.networkEvent e
  | .websocket e => app.websocketEvent e
  | .findMany call => app.findMany call
  | .localFound call => app.localFound call
  | .located id remote => { app with peerLocator := app.peerLocator.step (.located id remote) }
  | .found call => app.found call
  | .lookUp peerIds options => app.lookUp peerIds options
  | .invalidate peerId => { app with peerLocator := app.peerLocator.step (.invalidate (some peerId)) }

/-- One event. -/
def step (app : RoutingApp) (e : Event) : RoutingApp := app.cleared.handle e

theorem websocket_answerLocally (id : ℕ) (result : JsMap JsString (List ConnRef)) :
    (app.answerLocally id result).websocket = app.websocket := by
  unfold answerLocally
  split <;> rfl

/-- What an event of an app is for its websocket runtime. -/
theorem websocket_handle (e : Event) : (app.handle e).websocket = app.websocket ∨
    (∃ e', e = .websocket e' ∧ (app.handle e).websocket = app.websocket.step e') ∨
    ∃ call remote,
      (app.handle e).websocket = app.websocket.step (.resume call (.located remote)) := by
  cases e with
  | setTopology hosts => exact .inl rfl
  | peerHealth nodeId status =>
    rw [handle, peerHealth]
    split_ifs <;> exact .inl rfl
  | network e => cases e <;> exact .inl rfl
  | websocket e =>
    rw [handle]
    unfold websocketEvent
    split
    · exact .inl rfl
    · exact .inr (.inl ⟨e, rfl, rfl⟩)
  | findMany call =>
    rw [handle]
    unfold findMany
    split <;> exact .inl rfl
  | localFound call =>
    rw [handle]
    unfold localFound
    split
    · exact .inl (websocket_answerLocally ..)
    · exact .inl rfl
  | located => exact .inl rfl
  | found call =>
    rw [handle]
    unfold found
    split
    · exact .inl rfl
    · split
      · exact .inl rfl
      · exact .inr (.inr ⟨call, _, rfl⟩)
  | lookUp peerIds options => exact .inl (websocket_answerLocally ..)
  | invalidate => exact .inl rfl

end RoutingApp

end Hardess

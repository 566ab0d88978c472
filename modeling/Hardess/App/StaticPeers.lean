import Hardess.App.RoutingApp
import Hardess.Ingress.Identity

/-!
# Peers of the options and peers of a topology

* `Alike`: two apps do the same in every run;
* `givenStatic`, `givenTopology`: an app that has its peers from its options, and one that has them
  from the topology alone;
* **`alike_iff`**: the two are alike exactly when there are no peers.
-/

namespace Hardess

namespace RoutingApp

/-- In every run the apps find the same connections, ask the same nodes and do the same outside. -/
def Alike (app app' : RoutingApp) : Prop :=
  ∀ es, (Machine.run step app es).websocket.effects = (Machine.run step app' es).websocket.effects ∧
    (Machine.run step app es).peerLocator.found = (Machine.run step app' es).peerLocator.found ∧
    (Machine.run step app es).asked = (Machine.run step app' es).asked

/-- The peers of a topology. -/
def projected (options : RuntimeAppOptions) (hosts : List MembershipHost) : List ClusterPeerNode :=
  (RuntimeTopologyStore.mk options.precedes hosts .empty).listClusterPeers options.nodeId

/-- An app without static peers is given a topology. -/
def givenTopology (options : RuntimeAppOptions) (hosts : List MembershipHost) : RoutingApp :=
  (createRuntimeApp options []).step (.setTopology hosts)

/-- An app whose static peers are those of the topology is given it. -/
def givenStatic (options : RuntimeAppOptions) (hosts : List MembershipHost) : RoutingApp :=
  (createRuntimeApp options (projected options hosts)).step (.setTopology hosts)

theorem hasPeers_setPeers (network : ClusterNetwork) (peers : List ClusterPeerNode) :
    (network.setPeers peers).hasPeers = true ↔ peers ≠ [] := by
  have hset (m : JsMap JsString ClusterPeerNode) (peer : ClusterPeerNode) :
      0 < (m.set peer.nodeId peer).size :=
    List.length_pos_of_mem (JsMap.get_eq_some_iff.1 ((JsMap.get_set ..).trans (if_pos rfl)))
  have hfold (peers : List ClusterPeerNode) : ∀ m : JsMap JsString ClusterPeerNode, 0 < m.size →
      0 < (peers.foldl (fun m peer => m.set peer.nodeId peer) m).size := by
    induction peers with
    | nil => exact fun m hm => hm
    | cons peer peers ih => exact fun m _ => ih _ (hset m peer)
  unfold ClusterNetwork.hasPeers
  rw [decide_eq_true_iff]
  cases peers with
  | nil => exact ⟨fun h => absurd h (Nat.lt_irrefl 0), fun h => absurd rfl h⟩
  | cons peer peers => exact ⟨fun _ => by simp, fun _ => hfold peers _ (hset _ peer)⟩

/-- The connection of a peer on another node. -/
def elsewhere : ConnRef := { nodeId := js "b", connId := js "c", peerId := js "bob" }

/-- Bob is looked up; he has a connection on another node. -/
def looksUpBob : List Event :=
  [.lookUp [js "bob"] none, .located 0 (JsMap.empty.set (js "bob") [elsewhere])]

/-- What is found for Bob depends on whether the locator sees peers. -/
theorem found_bob {app : RoutingApp} {ttl : ℕ} (hl : app.peerLocator = .create ttl)
    (hw : app.websocket.peerLocator = {}) :
    (Machine.run step app looksUpBob).peerLocator.found = [⟨0, none, JsMap.empty.set (js "bob")
      (if app.locatesPeers && app.clusterNetwork.hasPeers then [elsewhere] else [])⟩] := by
  have hrun : (Machine.run step app looksUpBob).peerLocator =
      Machine.run DistributedPeerLocator.step (.create ttl) [.findMany [js "bob"] none,
        .localFound 0 (JsMap.empty.set (js "bob") [])
          (app.locatesPeers && app.clusterNetwork.hasPeers) app.websocket.now,
        .located 0 (JsMap.empty.set (js "bob") [elsewhere])] := by
    obtain ⟨nodeId, network, store, locates, locator, websocket, lookups, asked⟩ := app
    cases websocket
    dsimp only at hl hw
    subst hl hw
    rfl
  rw [hrun]
  cases app.locatesPeers && app.clusterNetwork.hasPeers <;> rfl

/-- The app with static peers sees them, if there are any. -/
theorem sees_givenStatic (options : RuntimeAppOptions) (hosts : List MembershipHost) :
    ((givenStatic options hosts).locatesPeers &&
      (givenStatic options hosts).clusterNetwork.hasPeers) = true ↔ projected options hosts ≠ [] := by
  rw [Bool.and_eq_true]
  exact (and_congr (hasPeers_setPeers _ _) (hasPeers_setPeers _ _)).trans (and_self_iff)

/-- **An app that has its peers from a topology alone is like one that has them from its options
exactly when there are none.** -/
theorem alike_iff (options : RuntimeAppOptions) (hosts : List MembershipHost) :
    Alike (givenTopology options hosts) (givenStatic options hosts) ↔
      projected options hosts = [] := by
  constructor
  · intro h
    by_contra hne
    have hfound := congrArg (List.map fun found : Found => found.result.get (js "bob"))
      (h looksUpBob).2.1
    rw [found_bob rfl rfl, found_bob rfl rfl, (sees_givenStatic options hosts).2 hne,
      show (givenTopology options hosts).locatesPeers = false from rfl, Bool.false_and] at hfound
    revert hfound
    decide
  · intro h
    unfold givenStatic
    rw [h]
    exact fun es => ⟨rfl, rfl, rfl⟩

/-! ### What the locator does not see -/

/-! ### A message for a peer on another node -/

/-- The node `b` is a member. -/
def hostB : MembershipHost :=
  { hostId := js "host-b", nodeId := some (js "b"), internalBaseUrl := some (js "http://b") }

/-- Alice writes to Bob, who is looked up on the other nodes. -/
def writesToBob : List Event :=
  [.websocket (.openSocket (js "a"))] ++
    (WebSocketRuntime.joins (js "a") (js "alice") 0).map .websocket ++
    [.websocket (.message (js "a")
        (some (WebSocketRuntime.clientMessage .biz (js "send") (js "m") none))),
      .websocket (.resume 1 (.validMessage (.ok true))),
      .websocket (.resume 1 (.hooked (.ok { peerIds := [js "bob"] }))), .findMany 1,
      .websocket (.resume 1 .found), .localFound 1,
      .located 0 (JsMap.empty.set (js "bob") [elsewhere]), .found 1]

/-- With static peers the message is relayed, without them it is not. -/
theorem not_alike : ¬∀ options hosts, Alike (givenTopology options hosts)
    (givenStatic options hosts) := by
  intro h
  have heffects := congrArg List.length
    (h { nodeId := js "n", websocket := { nodeId := js "n" } } [hostB] writesToBob).1
  revert heffects
  decide +kernel

end RoutingApp

end Hardess

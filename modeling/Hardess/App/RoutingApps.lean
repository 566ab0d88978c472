import Hardess.App.RoutingApp
import Hardess.Cluster.Locate
import Hardess.Lib.Machine

/-!
# Several apps

The apps of a cluster, with the requests for delivery and the questions for connections that they
send to each other.

* a request or a question can arrive at any node, any number of times and never: over either
  transport, with the addresses that a topology or the options give;
* the endpoint `/__cluster/locate` reads the body of a question and looks up its peers one after the
  other; the asking node goes on with whatever responses it got;
* `handled`: the event of one app that an event of the cluster comes to.

The lookups of the apps are those of their messages; nothing else in `src/runtime` looks up peers.
-/

namespace Hardess

/-- The handling of a question at a node: what was found, and the peers that are left. -/
structure LocateServe where
  question : ℕ
  nodeId : JsString
  groupId : Option JsString
  located : JsMap JsString (List ConnRef) := .empty
  rest : List JsString

/-- The apps of a cluster. A request stands under the node that sent it, and so does a question. -/
structure RoutingApps where
  app : JsString → RoutingApp
  relays : List (JsString × DeliverRequest) := []
  questions : List (JsString × LocateRequest) := []
  serves : List LocateServe := []

/-- A request as it arrives: the references come without their groups. -/
def DeliverRequest.withoutGroups (request : DeliverRequest) : DeliverRequest :=
  { request with
    sender := request.sender.withoutGroup
    targets := request.targets.map ConnRef.withoutGroup }

namespace RoutingApps

/-- The events of a cluster; a number is that of a request, a question or its handling. -/
inductive Event
  /-- Something happens at a node alone. -/
  | own (nodeId : JsString) (e : RoutingApp.Event)
  /-- A request for delivery arrives. -/
  | deliver (i : ℕ) (nodeId : JsString)
  /-- A question arrives. -/
  | locate (i : ℕ) (nodeId : JsString)
  /-- The next peer of a question is looked up. -/
  | find (k : ℕ)
  /-- The responses to a question that arrived are there. -/
  | located (i : ℕ) (ks : List ℕ)

/-- An event that needs no other node. -/
def isOwn : RoutingApp.Event → Bool
  | .websocket (.deliverCluster _) => false
  | .located .. => false
  | .lookUp .. => false
  | _ => true

variable (S : RoutingApps)

/-- What a node reads in a response to a question. -/
def response (i k : ℕ) : Option (List (JsString × List ConnRef)) :=
  match S.serves[k]? with
  | none => none
  | some serve =>
    if serve.question = i ∧ serve.rest = [] then
      parseClusterLocateResponse (locateResponse serve.located).stringify
    else none

/-- What `locate` makes of the responses that arrived. -/
def answered (i : ℕ) (peerIds : List JsString) (ks : List ℕ) : JsMap JsString (List ConnRef) :=
  (ks.filterMap (S.response i)).foldl (fun merged peers => mergeResponse peers peerIds merged)
    (peerIds.foldl (fun merged peerId => merged.set peerId []) .empty)

/-- The node that handles an event, and what it handles. -/
def handled : Event → Option (JsString × RoutingApp.Event)
  | .own nodeId e => if isOwn e then some (nodeId, e) else none
  | .deliver i nodeId => S.relays[i]?.map fun relay =>
    (nodeId, .websocket (.deliverCluster relay.2))
  | .located i ks => S.questions[i]?.map fun question =>
    (question.1, .located question.2.call (S.answered i question.2.peerIds ks))
  | _ => none

/-- The request that an effect of a node sends. -/
def relayOf (nodeId : JsString) : Effect → Option (JsString × DeliverRequest)
  | .deliver _ _ request => some (nodeId, request.withoutGroups)
  | _ => none

/-- A question arrives at the endpoint of a node. -/
def startServe (i : ℕ) (nodeId : JsString) : RoutingApps :=
  match S.questions[i]? with
  | none => S
  | some (_, question) =>
    match parseClusterLocateRequest (locateBody question.peerIds question.groupId).stringify with
    | none => S
    | some (peerIds, groupId) =>
      { S with serves := S.serves ++ [{ question := i, nodeId, groupId, rest := peerIds }] }

/-- The endpoint looks up the next peer. -/
def findNext (k : ℕ) : RoutingApps :=
  match S.serves[k]? with
  | none => S
  | some serve =>
    match serve.rest with
    | [] => S
    | peerId :: rest =>
      let conns := (S.app serve.nodeId).websocket.peerLocator.findWith peerId
        (some { groupId := serve.groupId })
      { S with
        serves := S.serves.set k { serve with located := serve.located.set peerId conns, rest } }

/-- A node handles an event, with what it sends. -/
def handle (nodeId : JsString) (e : RoutingApp.Event) : RoutingApps :=
  let app := (S.app nodeId).step e
  { S with
    app := Function.update S.app nodeId app
    relays := S.relays ++ app.websocket.effects.filterMap (relayOf nodeId)
    questions := S.questions ++ app.asked.toList.map fun question => (nodeId, question) }

/-- The node that an event comes to handles it. -/
def dispatch (ev : Event) : RoutingApps :=
  match S.handled ev with
  | none => S
  | some (nodeId, e) => S.handle nodeId e

/-- One event of a cluster. -/
def step (S : RoutingApps) : Event → RoutingApps
  | .locate i nodeId => S.startServe i nodeId
  | .find k => S.findNext k
  | ev => S.dispatch ev

/-- New apps, each under its own name, with their static peers. -/
def create (options : JsString → RuntimeAppOptions) (peers : JsString → List ClusterPeerNode) :
    RoutingApps where
  app nodeId := createRuntimeApp { options nodeId with nodeId } (peers nodeId)

variable {S}

/-- The three kinds of events that an app handles. -/
theorem handled_cases {ev : Event} {nodeId : JsString} {e : RoutingApp.Event}
    (h : S.handled ev = some (nodeId, e)) :
    isOwn e = true ∨
    (∃ relay ∈ S.relays, e = .websocket (.deliverCluster relay.2)) ∨
    ∃ i question ks, S.questions[i]? = some (nodeId, question) ∧
      e = .located question.call (S.answered i question.peerIds ks) := by
  cases ev with
  | own nodeId' e' =>
    simp only [handled] at h
    split_ifs at h with howned
    cases h
    exact .inl howned
  | deliver i nodeId' =>
    obtain ⟨relay, hget, heq⟩ := Option.map_eq_some_iff.1 h
    cases heq
    exact .inr (.inl ⟨relay, List.mem_of_getElem? hget, rfl⟩)
  | located i ks =>
    obtain ⟨⟨nodeId', question⟩, hget, heq⟩ := Option.map_eq_some_iff.1 h
    cases heq
    exact .inr (.inr ⟨i, question, ks, hget, rfl⟩)
  | locate => cases h
  | find => cases h

/-- What an event of a cluster can be. -/
theorem step_cases (S : RoutingApps) (ev : Event) :
    (∃ i nodeId, ev = .locate i nodeId ∧ S.step ev = S.startServe i nodeId) ∨
    (∃ k, ev = .find k ∧ S.step ev = S.findNext k) ∨
    (S.handled ev = none ∧ S.step ev = S) ∨
    ∃ nodeId e, S.handled ev = some (nodeId, e) ∧ S.step ev = S.handle nodeId e := by
  have hdispatch : (S.handled ev = none ∧ S.dispatch ev = S) ∨
      ∃ nodeId e, S.handled ev = some (nodeId, e) ∧ S.dispatch ev = S.handle nodeId e := by
    unfold dispatch
    cases h : S.handled ev with
    | none => exact .inl ⟨rfl, rfl⟩
    | some he => exact .inr ⟨he.1, he.2, rfl, rfl⟩
  cases ev with
  | locate i nodeId => exact .inl ⟨i, nodeId, rfl, rfl⟩
  | find k => exact .inr (.inl ⟨k, rfl, rfl⟩)
  | _ => exact .inr (.inr hdispatch)

/-- A new request is one that the node sent. -/
theorem mem_relays_handle {nodeId : JsString} {e : RoutingApp.Event}
    {relay : JsString × DeliverRequest} (h : relay ∈ (S.handle nodeId e).relays) :
    relay ∈ S.relays ∨ ∃ call target request, relay = (nodeId, request.withoutGroups) ∧
      .deliver call target request ∈ ((S.app nodeId).step e).websocket.effects := by
  refine (List.mem_append.1 h).imp_right fun hnew => ?_
  obtain ⟨x, hx, heq⟩ := List.mem_filterMap.1 hnew
  cases x with
  | deliver call target request =>
    cases heq
    exact ⟨call, target, request, rfl, hx⟩
  | _ => cases heq

end RoutingApps

end Hardess

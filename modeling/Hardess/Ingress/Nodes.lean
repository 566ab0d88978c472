import Hardess.Ingress.WebSocketEvents
import Hardess.Lib.Machine

/-!
# Several nodes

The websocket runtimes of a cluster, with the requests that they send to each other.

* a request can be served any number of times, since a failed attempt over the websocket is made
  again over HTTP, and never, since both can fail;
* an answer goes to the call that waits for it; the call can be told of a failure at any time;
* `handled`: the event of one runtime that an event of the cluster comes to;
* `Emits`: what an event of the cluster does outside the tables of a runtime.
-/

namespace Hardess

/-- A request of `deliver` under way: the call that waits for its answer, and the node it goes
to. -/
structure Relay where
  origin : JsString
  call : ℕ
  target : JsString
  request : DeliverRequest

/-- The nodes of a cluster. `serving` says which relay a call of a node serves, and `results` holds
what came of a relay. -/
structure Nodes where
  node : JsString → WebSocketRuntime
  relays : List Relay := []
  serving : List ((JsString × ℕ) × ℕ) := []
  results : List (ℕ × List ConnRef) := []
  acks : List ForwardRequest := []

namespace Nodes

/-- The events of a cluster; the last three are about the relay, the result and the forwarded
acknowledgement with that number. -/
inductive Event
  | own (nodeId : JsString) (e : WebSocketRuntime.Event)
  | serve (i : ℕ)
  | answer (i : ℕ)
  | forward (i : ℕ)

/-- An event that needs no other node. -/
def isOwn : WebSocketRuntime.Event → Bool
  | .deliverCluster _ => false
  | .forwardClusterHandleAck _ => false
  | .resume _ (.relayed (.ok _)) => false
  | _ => true

variable (S : Nodes)

/-- The relay is the last one of its call. -/
def isLatest (i : ℕ) (relay : Relay) : Bool :=
  (S.relays.drop (i + 1)).all fun later =>
    ¬(later.origin = relay.origin ∧ later.call = relay.call)

/-- The node that handles an event, and what it handles. -/
def handled : Event → Option (JsString × WebSocketRuntime.Event)
  | .own nodeId e => if isOwn e then some (nodeId, e) else none
  | .serve i => S.relays[i]?.map fun relay => (relay.target, .deliverCluster relay.request)
  | .answer i =>
    match S.results[i]? with
    | none => none
    | some (k, conns) =>
      match S.relays[k]? with
      | none => none
      | some relay =>
        if S.isLatest k relay then
          some (relay.origin, .resume relay.call (.relayed (.ok conns)))
        else none
  | .forward i =>
    S.acks[i]?.map fun request => (request.sender.nodeId, .forwardClusterHandleAck request)

/-- The call that serves a relay from now on. -/
def started : Event → List ((JsString × ℕ) × ℕ)
  | .serve i => (S.relays[i]?.map fun relay =>
    ((relay.target, (S.node relay.target).nextCall), i)).toList
  | _ => []

/-- The relay that an effect of a node makes. -/
def relayOf (nodeId : JsString) : Effect → Option Relay
  | .deliver call target request => some ⟨nodeId, call, target, request⟩
  | _ => none

/-- The result that an effect of a node is. -/
def resultOf (serving : List ((JsString × ℕ) × ℕ)) (nodeId : JsString) :
    Effect → Option (ℕ × List ConnRef)
  | .delivered call (.ok conns) => (serving.lookup (nodeId, call)).map fun i => (i, conns)
  | _ => none

/-- The acknowledgement that an effect forwards. -/
def ackOf : Effect → Option ForwardRequest
  | .forward _ request => some request
  | _ => none

/-- One event of a cluster. -/
def step (S : Nodes) (ev : Event) : Nodes :=
  match S.handled ev with
  | none => S
  | some (nodeId, e) =>
    let st := (S.node nodeId).step e
    let serving := S.serving ++ S.started ev
    { node := Function.update S.node nodeId st
      relays := S.relays ++ st.effects.filterMap (relayOf nodeId)
      serving
      results := S.results ++ st.effects.filterMap (resultOf serving nodeId)
      acks := S.acks ++ st.effects.filterMap ackOf }

/-- New nodes, each under its own name. -/
def create (deps : JsString → WebSocketRuntimeDeps) : Nodes where
  node nodeId := .create { deps nodeId with nodeId := nodeId }

/-- What an event does at a node outside its tables. -/
def Emits (ev : Event) (nodeId : JsString) (x : Effect) : Prop :=
  ∃ e, S.handled ev = some (nodeId, e) ∧ x ∈ ((S.node nodeId).step e).effects

/-- The event hands an envelope of the sender with that id to the connection. -/
def HandsOver (S : Nodes) (ev : Event) (nodeId connId sender msgId : JsString) : Prop :=
  ∃ envelope, S.Emits ev nodeId (.enqueued connId (.envelope envelope)) ∧
    envelope.msgId = msgId ∧ envelope.src.connId = sender

variable {S}

/-! ### Where requests come from -/

/-- The four kinds of events of a cluster. -/
theorem handled_cases {ev : Event} {nodeId : JsString} {e : WebSocketRuntime.Event}
    (h : S.handled ev = some (nodeId, e)) :
    (ev = .own nodeId e ∧ isOwn e = true) ∨
    (∃ i relay, ev = .serve i ∧ S.relays[i]? = some relay ∧ nodeId = relay.target ∧
      e = .deliverCluster relay.request) ∨
    (∃ k conns relay, (k, conns) ∈ S.results ∧ S.relays[k]? = some relay ∧
      S.isLatest k relay = true ∧ nodeId = relay.origin ∧
      e = .resume relay.call (.relayed (.ok conns))) ∨
    ∃ request ∈ S.acks, nodeId = request.sender.nodeId ∧ e = .forwardClusterHandleAck request := by
  cases ev with
  | own nodeId' e' =>
    simp only [handled] at h
    split_ifs at h with howned
    cases h
    exact .inl ⟨rfl, howned⟩
  | serve i =>
    obtain ⟨relay, hget, heq⟩ := Option.map_eq_some_iff.1 h
    cases heq
    exact .inr (.inl ⟨i, relay, rfl, hget, rfl, rfl⟩)
  | answer i =>
    simp only [handled] at h
    split at h
    · cases h
    · rename_i k conns hres
      split at h
      · cases h
      · rename_i relay hrelay
        split_ifs at h with hlatest
        cases h
        exact .inr (.inr (.inl ⟨k, conns, relay, List.mem_of_getElem? hres, hrelay, hlatest, rfl,
          rfl⟩))
  | forward i =>
    obtain ⟨request, hget, heq⟩ := Option.map_eq_some_iff.1 h
    cases heq
    exact .inr (.inr (.inr ⟨request, List.mem_of_getElem? hget, rfl, rfl⟩))

/-- A relayed request that a node serves was sent to it. -/
theorem exists_relay {ev : Event} {nodeId : JsString} {request : DeliverRequest}
    (h : S.handled ev = some (nodeId, .deliverCluster request)) :
    ∃ i relay, ev = .serve i ∧ S.relays[i]? = some relay ∧ relay.target = nodeId ∧
      relay.request = request := by
  rcases handled_cases h with ⟨-, hown⟩ | ⟨i, relay, hev, hget, hn, he⟩ | ⟨_, _, _, -, -, -, -, he⟩ |
    ⟨_, -, -, he⟩
  · cases hown
  · cases he
    exact ⟨i, relay, hev, hget, hn.symm, rfl⟩
  · cases he
  · cases he

/-- A forwarded acknowledgement that a node takes was sent to it. -/
theorem mem_acks {ev : Event} {nodeId : JsString} {request : ForwardRequest}
    (h : S.handled ev = some (nodeId, .forwardClusterHandleAck request)) :
    request ∈ S.acks ∧ request.sender.nodeId = nodeId := by
  rcases handled_cases h with ⟨-, hown⟩ | ⟨_, _, -, -, -, he⟩ | ⟨_, _, _, -, -, -, -, he⟩ |
    ⟨request', hmem, hn, he⟩
  · cases hown
  · cases he
  · cases he
  · cases he
    exact ⟨hmem, hn.symm⟩

/-- The answer of another node is the result of the last relay of the call. -/
theorem exists_result {ev : Event} {nodeId : JsString} {call : ℕ} {conns : List ConnRef}
    (h : S.handled ev = some (nodeId, .resume call (.relayed (.ok conns)))) :
    ∃ k relay, (k, conns) ∈ S.results ∧ S.relays[k]? = some relay ∧
      S.isLatest k relay = true ∧ relay.origin = nodeId ∧ relay.call = call := by
  rcases handled_cases h with ⟨-, hown⟩ | ⟨_, _, -, -, -, he⟩ |
    ⟨k, conns', relay, hres, hrelay, hlatest, hn, he⟩ | ⟨_, -, -, he⟩
  · cases hown
  · cases he
  · cases he
    exact ⟨k, relay, hres, hrelay, hlatest, hn.symm, rfl⟩
  · cases he

/-! ### One event -/

theorem step_of_none {ev : Event} (h : S.handled ev = none) : S.step ev = S := by
  unfold step
  rw [h]

section handled

variable {ev : Event} {nodeId : JsString} {e : WebSocketRuntime.Event}

theorem node_step (h : S.handled ev = some (nodeId, e)) (nodeId' : JsString) :
    (S.step ev).node nodeId' =
      if nodeId' = nodeId then (S.node nodeId).step e else S.node nodeId' := by
  unfold step
  rw [h]
  exact Function.update_apply ..

/-- A new relay is one that the node sent. -/
theorem mem_relays_step (h : S.handled ev = some (nodeId, e)) {relay : Relay}
    (hr : relay ∈ (S.step ev).relays) : relay ∈ S.relays ∨
      (relay.origin = nodeId ∧
        .deliver relay.call relay.target relay.request ∈ ((S.node nodeId).step e).effects) := by
  unfold step at hr
  rw [h] at hr
  refine (List.mem_append.1 hr).imp_right fun hnew => ?_
  obtain ⟨x, hx, heq⟩ := List.mem_filterMap.1 hnew
  cases x with
  | deliver call target request =>
    cases heq
    exact ⟨rfl, hx⟩
  | _ => cases heq

/-- A new forwarded acknowledgement is one that the node sent. -/
theorem mem_acks_step (h : S.handled ev = some (nodeId, e)) {request : ForwardRequest}
    (hr : request ∈ (S.step ev).acks) : request ∈ S.acks ∨
      ∃ call, .forward call request ∈ ((S.node nodeId).step e).effects := by
  unfold step at hr
  rw [h] at hr
  refine (List.mem_append.1 hr).imp_right fun hnew => ?_
  obtain ⟨x, hx, heq⟩ := List.mem_filterMap.1 hnew
  cases x with
  | forward call request' =>
    cases heq
    exact ⟨call, hx⟩
  | _ => cases heq

/-- A new result is what a call of the node came to. -/
theorem mem_results_step (h : S.handled ev = some (nodeId, e)) {i : ℕ} {conns : List ConnRef}
    (hr : (i, conns) ∈ (S.step ev).results) : (i, conns) ∈ S.results ∨
      ∃ call, .delivered call (.ok conns) ∈ ((S.node nodeId).step e).effects ∧
        (S.serving ++ S.started ev).lookup (nodeId, call) = some i := by
  unfold step at hr
  rw [h] at hr
  refine (List.mem_append.1 hr).imp_right fun hnew => ?_
  obtain ⟨x, hx, heq⟩ := List.mem_filterMap.1 hnew
  cases x with
  | delivered call result =>
    cases result with
    | error => cases heq
    | ok conns' =>
      obtain ⟨k, hk, heq⟩ := Option.map_eq_some_iff.1 heq
      cases heq
      exact ⟨call, hx, hk⟩
  | _ => cases heq

theorem serving_step (h : S.handled ev = some (nodeId, e)) :
    (S.step ev).serving = S.serving ++ S.started ev := by
  unfold step
  rw [h]

/-- A relay keeps its number. -/
theorem getElem?_relays_step {i : ℕ} {relay : Relay} (hr : S.relays[i]? = some relay) :
    (S.step ev).relays[i]? = some relay := by
  unfold step
  split
  · exact hr
  · exact (List.getElem?_append_left (List.getElem?_eq_some_iff.1 hr).1).trans hr

/-- A call is served as before. -/
theorem lookup_serving_step {key : JsString × ℕ} {i : ℕ} (hl : S.serving.lookup key = some i) :
    (S.step ev).serving.lookup key = some i := by
  unfold step
  split
  · exact hl
  · rw [List.lookup_append, hl]
    rfl

end handled

/-- The nodes keep their names. -/
theorem nodeId_step (h : ∀ nodeId, (S.node nodeId).deps.nodeId = nodeId) (ev : Event)
    (nodeId : JsString) : ((S.step ev).node nodeId).deps.nodeId = nodeId := by
  cases hh : S.handled ev with
  | none => rw [step_of_none hh]; exact h nodeId
  | some he =>
    rw [node_step (show S.handled ev = some (he.1, he.2) from hh)]
    split_ifs with heq
    · rw [(WebSocketRuntime.step_handles _ _).deps, heq]
      exact h he.1
    · exact h nodeId

/-! ### Runs of one node -/

/-- The node `n` handles the events. -/
def atNode (es : List WebSocketRuntime.Event) : List Event := es.map (.own (js "n"))

/-- The options of the nodes. -/
def plainDeps : JsString → WebSocketRuntimeDeps := fun _ => { nodeId := js "n" }

/-- The event hands no envelope to the connection. -/
def handsNothing (connId : JsString) (S : Nodes) (ev : Event) : Bool :=
  match S.handled ev with
  | none => true
  | some (nodeId, e) => ((S.node nodeId).step e).effects.all fun x =>
    match x with
    | .enqueued connId' (.envelope _) => connId' ≠ connId
    | _ => true

theorem not_handsOver {S : Nodes} {ev : Event} {nodeId connId sender msgId : JsString}
    (h : handsNothing connId S ev = true) : ¬S.HandsOver ev nodeId connId sender msgId := by
  rintro ⟨envelope, ⟨e, hh, hx⟩, -, -⟩
  unfold handsNothing at h
  rw [hh] at h
  have hne := List.all_eq_true.1 h _ hx
  exact absurd rfl (of_decide_eq_true hne)

end Nodes

end Hardess

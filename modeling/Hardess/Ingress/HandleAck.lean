import Hardess.Ingress.Identity
import Hardess.Ingress.Nodes

/-!
# Where a `handleAck` comes from

* `Sent`: a connection of a node has sent a business message with an id;
* `Acked`: after that, an authenticated connection of some node has acknowledged the id and met the
  pending entry of that connection;
* `Traced`: what the tables, the calls and the requests under way remember was sent or acknowledged;
* `acks_caused`: every `handleAck` that a node sends to a connection is the node's own answer to a
  message that it handled itself, or was acknowledged;
* `acks_unearned`: it need not come from a recipient.
-/

namespace Hardess

namespace Nodes

variable {deps : JsString → WebSocketRuntimeDeps} {es : List Event} {S : Nodes}

/-- The connection has sent a business message with that id. -/
def Sent (deps : JsString → WebSocketRuntimeDeps) (es : List Event)
    (nodeId connId msgId : JsString) : Prop :=
  Machine.Past step (create deps) es fun S ev => ∃ message,
    S.handled ev = some (nodeId, .message connId (some message)) ∧ message.kind = .biz ∧
      message.msgId = msgId

/-- An authenticated connection acknowledges the id, and meets the entry of the sender. -/
def Acknowledges (S : Nodes) (ev : Event) (nodeId sender msgId : JsString) : Prop :=
  ∃ nodeId' connId message entry,
    S.handled ev = some (nodeId', .message connId (some message)) ∧
      (S.node nodeId').Acknowledges connId message msgId entry ∧
      entry.senderRef.nodeId = nodeId ∧ entry.senderRef.connId = sender

/-- The connection has sent a message with that id, and it was acknowledged after that. -/
def Acked (deps : JsString → WebSocketRuntimeDeps) (es : List Event)
    (nodeId sender msgId : JsString) : Prop :=
  ∃ pre ev post, es = pre ++ ev :: post ∧
    (Machine.run step (create deps) pre).Acknowledges ev nodeId sender msgId ∧
    Sent deps pre nodeId sender msgId

theorem Sent.append {nodeId connId msgId : JsString} (h : Sent deps es nodeId connId msgId)
    (fs : List Event) : Sent deps (es ++ fs) nodeId connId msgId := Machine.Past.append h fs

theorem Acked.append {nodeId sender msgId : JsString} (h : Acked deps es nodeId sender msgId)
    (fs : List Event) : Acked deps (es ++ fs) nodeId sender msgId := by
  obtain ⟨pre, ev, post, rfl, hack, hsent⟩ := h
  exact ⟨pre, ev, post ++ fs, by simp, hack, hsent⟩

/-- What a call of a node remembers was sent or acknowledged. -/
def CallTraced (deps : JsString → WebSocketRuntimeDeps) (es : List Event) (nodeId : JsString) :
    Call → Prop
  | .authenticating .. => True
  | .validating connId message _ => Sent deps es nodeId connId message.msgId
  | .hooking connId message _ => Sent deps es nodeId connId message.msgId
  | .finding send .. =>
    Sent deps es send.senderRef.nodeId send.senderRef.connId send.envelope.msgId
  | .locating send _ =>
    Sent deps es send.senderRef.nodeId send.senderRef.connId send.envelope.msgId
  | .checking send .. =>
    Sent deps es send.senderRef.nodeId send.senderRef.connId send.envelope.msgId
  | .relaying send .. =>
    Sent deps es send.senderRef.nodeId send.senderRef.connId send.envelope.msgId
  | .forwarding .. => True
  | .acking _ _ ackFor sender => Acked deps es nodeId sender ackFor
  | .delivering request .. =>
    Sent deps es request.sender.nodeId request.sender.connId request.envelope.msgId
  | .forwarded request =>
    request.sender.nodeId = nodeId ∧ Acked deps es nodeId request.sender.connId request.ackFor

/-- What the tables, the calls and the requests remember was sent or acknowledged. -/
structure Traced (deps : JsString → WebSocketRuntimeDeps) (es : List Event) (S : Nodes) :
    Prop where
  nodeId : ∀ nodeId, (S.node nodeId).deps.nodeId = nodeId
  pending : ∀ nodeId msgId entry,
    (S.node nodeId).pendingHandleAckByMsgId.get msgId = some entry →
    Sent deps es entry.senderRef.nodeId entry.senderRef.connId msgId
  calls : ∀ nodeId id call, (S.node nodeId).calls.get id = some call →
    CallTraced deps es nodeId call
  relays : ∀ relay ∈ S.relays, Sent deps es relay.request.sender.nodeId
    relay.request.sender.connId relay.request.envelope.msgId
  acks : ∀ request ∈ S.acks, Acked deps es request.sender.nodeId request.sender.connId
    request.ackFor

theorem CallTraced.append {nodeId : JsString} {call : Call} (h : CallTraced deps es nodeId call)
    (fs : List Event) : CallTraced deps (es ++ fs) nodeId call := by
  cases call with
  | authenticating => trivial
  | forwarding => trivial
  | acking => exact Acked.append h fs
  | forwarded => exact ⟨h.1, Acked.append h.2 fs⟩
  | _ => exact Sent.append h fs

theorem CallTraced.sends {nodeId : JsString} {call : Call} (h : CallTraced deps es nodeId call)
    {send : SendCall} (hs : call.Sends send) :
    Sent deps es send.senderRef.nodeId send.senderRef.connId send.envelope.msgId := by
  cases call <;> first | exact hs.elim | (cases hs; exact h)

theorem callTraced_of_searches {nodeId : JsString} {call : Call} {send : SendCall}
    (hs : call.Searches send)
    (h : Sent deps es send.senderRef.nodeId send.senderRef.connId send.envelope.msgId) :
    CallTraced deps es nodeId call := by
  cases call <;> first | exact hs.elim | (cases hs; exact h)

section step

variable {ev : Event} {nodeId : JsString} {e : WebSocketRuntime.Event}
variable (h : Traced deps es (Machine.run step (create deps) es))
variable (hev : (Machine.run step (create deps) es).handled ev = some (nodeId, e))
include h

/-- The message of an attempt was sent. -/
theorem Traced.advances {id : ℕ} {send : SendCall} {delivered targets : List ConnRef}
    (ha : ((Machine.run step (create deps) es).node nodeId).cleared.Advances e id send delivered
      targets) :
    Sent deps es send.senderRef.nodeId send.senderRef.connId send.envelope.msgId := by
  obtain ⟨-, call, hcall, hs⟩ := ha.sends
  exact (h.calls nodeId id call hcall).sends hs

include hev

/-- The message of a relayed request was sent. -/
theorem Traced.serves {id startedAt : ℕ} {request : DeliverRequest}
    {delivered targets : List ConnRef}
    (ha : ((Machine.run step (create deps) es).node nodeId).cleared.Serves e id request startedAt
      delivered targets) :
    Sent deps es request.sender.nodeId request.sender.connId request.envelope.msgId := by
  cases ha with
  | started =>
    obtain ⟨i, relay, -, hget, -, rfl⟩ := exists_relay hev
    exact h.relays relay (List.mem_of_getElem? hget)
  | skipped hcall => exact h.calls nodeId id _ hcall
  | served hcall => exact h.calls nodeId id _ hcall

/-- A new call remembers what was sent or acknowledged. -/
theorem Traced.starts {id : ℕ} {call : Call}
    (hs : ((Machine.run step (create deps) es).node nodeId).cleared.Starts e id call) :
    CallTraced deps (es ++ [ev]) nodeId call := by
  cases hs with
  | authenticating => trivial
  | forwarding => trivial
  | validating _ hk => exact ⟨es, ev, [], rfl, _, hev, hk, rfl⟩
  | @acking _ _ _ entry hack hn =>
    have hnode : entry.senderRef.nodeId = nodeId := hn.trans (h.nodeId nodeId)
    have hsent := h.pending nodeId _ entry hack.pending
    rw [hnode] at hsent
    exact ⟨es, ev, [], rfl, ⟨_, _, _, entry, hev, ⟨hack.connected, hack.authenticated, hack.kind,
      hack.action, hack.payload, hack.pending, hack.fresh⟩, hnode, rfl⟩, hsent⟩
  | hooking hcall => exact Sent.append (h.calls nodeId _ _ hcall) _
  | searching hcall hs =>
    refine callTraced_of_searches hs (Sent.append ?_ _)
    have hsent := h.calls nodeId _ _ hcall
    rw [show nodeId = ((Machine.run step (create deps) es).node nodeId).deps.nodeId from
      (h.nodeId nodeId).symm] at hsent
    exact hsent
  | found hcall hs hs' =>
    exact callTraced_of_searches hs'
      (Sent.append ((h.calls nodeId _ _ hcall).sends (WebSocketRuntime.searches_sends hs).1) _)
  | continuing ha hcont =>
    have hsent := (h.advances ha).append [ev]
    cases hcont with
    | checking => exact hsent
    | relaying => exact hsent
    | searching _ _ hs => exact callTraced_of_searches hs hsent
  | delivering ha => exact (h.serves hev ha).append [ev]
  | forwarded =>
    obtain ⟨hmem, hn⟩ := mem_acks hev
    have hack := h.acks _ hmem
    rw [hn] at hack
    exact ⟨hn, hack.append [ev]⟩

end step

/-- **What the cluster remembers was sent or acknowledged.** -/
theorem traced_step (h : Traced deps es (Machine.run step (create deps) es)) (ev : Event) :
    Traced deps (es ++ [ev]) ((Machine.run step (create deps) es).step ev) := by
  cases hh : (Machine.run step (create deps) es).handled ev with
  | none =>
    rw [step_of_none hh]
    exact ⟨h.nodeId, fun n m entry hm => (h.pending n m entry hm).append _,
      fun n id call hc => (h.calls n id call hc).append _,
      fun relay hr => (h.relays relay hr).append _,
      fun request hr => (h.acks request hr).append _⟩
  | some he =>
    obtain ⟨nodeId, e⟩ := he
    have hstep := WebSocketRuntime.step_handles
      ((Machine.run step (create deps) es).node nodeId) e
    refine ⟨nodeId_step h.nodeId ev, fun n m entry hm => ?_, fun n id call hc => ?_,
      fun relay hr => ?_, fun request hr => ?_⟩
    · rw [node_step hh] at hm
      split_ifs at hm with hn
      · -- an entry was there, or the step has made it of a message that was sent
        rcases hstep.pending.upper m entry hm with hold | hnew
        · exact (h.pending nodeId m entry hold).append _
        · cases hnew with
          | sent ha => exact (h.advances ha).append _
          | delivering hcall => exact Sent.append (h.calls nodeId _ _ hcall) _
      · exact (h.pending n m entry hm).append _
    · rw [node_step hh] at hc
      split_ifs at hc with hn
      · rw [hn]
        rcases hstep.calls id call hc with hold | hnew
        · exact (h.calls nodeId id call hold).append _
        · exact h.starts hh hnew
      · exact (h.calls n id call hc).append _
    · rcases mem_relays_step hh hr with hold | ⟨-, hx⟩
      · exact (h.relays relay hold).append _
      · rcases hstep.effects _ hx with hplain | hnew
        · exact hplain.elim
        · generalize hrequest : relay.request = request at hnew
          cases hnew with
          | deliver ha => exact (h.advances ha).append _
    · -- a request for another node comes of an acknowledgement that was heard here
      rcases mem_acks_step hh hr with hold | ⟨call, hx⟩
      · exact (h.acks request hold).append _
      · rcases hstep.effects _ hx with hplain | hnew
        · exact hplain.elim
        · cases hnew with
          | @forward _ _ _ entry hack hn =>
            exact ⟨es, ev, [], rfl, ⟨_, _, _, entry, hh, ⟨hack.connected, hack.authenticated,
              hack.kind, hack.action, hack.payload, hack.pending, hack.fresh⟩, rfl, rfl⟩,
              h.pending nodeId _ entry hack.pending⟩

theorem traced_create (deps : JsString → WebSocketRuntimeDeps) : Traced deps [] (create deps) :=
  ⟨fun _ => rfl, fun _ _ _ h => (by cases h), fun _ _ _ h => (by cases h),
    fun _ h => (by cases h), fun _ h => (by cases h)⟩

theorem traced_run (deps : JsString → WebSocketRuntimeDeps) (es : List Event) :
    Traced deps es (Machine.run step (create deps) es) :=
  Machine.run_history (traced_create deps) (fun _ ev h => traced_step h ev) es

/-! ### The acknowledgements that are sent -/

/-- The node answers a message that it handled itself. -/
def OwnAnswer (S : Nodes) (ev : Event) (nodeId sender msgId : JsString) : Prop :=
  ∃ id message auth result, S.handled ev = some (nodeId, .resume id (.hooked (.ok result))) ∧
    (S.node nodeId).calls.get id = some (.hooking sender message auth) ∧
    message.msgId = msgId ∧ result.handledLocally = true

/-- Every `handleAck` that the event sends is the node's own answer to a message that was sent and
that it handled itself, or was acknowledged after the message was sent. -/
def AcksCaused (deps : JsString → WebSocketRuntimeDeps) (es : List Event) (ev : Event) : Prop :=
  ∀ nodeId sender by' msgId traceId, (Machine.run step (create deps) es).Emits ev nodeId
    (.enqueued sender (.handleAck by' msgId traceId)) →
    (OwnAnswer (Machine.run step (create deps) es) ev nodeId sender msgId ∧
      Sent deps es nodeId sender msgId) ∨ Acked deps es nodeId sender msgId

/-- **In every run, a `handleAck` is the node's own answer, or was acknowledged.** -/
theorem acks_caused (deps : JsString → WebSocketRuntimeDeps) (es : List Event) (ev : Event) :
    AcksCaused deps es ev := by
  rintro nodeId sender by' msgId traceId ⟨e, hh, hx⟩
  have h := traced_run deps es
  rcases (WebSocketRuntime.step_handles _ e).effects _ hx with hplain | hnew
  · exact hplain.elim
  · cases hnew with
    | localHandleAck hcall hl =>
      exact .inl ⟨⟨_, _, _, _, hh, hcall, rfl, hl⟩, h.calls nodeId _ _ hcall⟩
    | handleAck hcall => exact .inr (h.calls nodeId _ _ hcall)
    | clusterHandleAck hcall => exact .inr (h.calls nodeId _ _ hcall).2

/-- Every `handleAck` that the event sends was acknowledged by a recipient of the message. -/
def AcksEarned (deps : JsString → WebSocketRuntimeDeps) (es : List Event) (ev : Event) : Prop :=
  ∀ nodeId sender by' msgId traceId, (Machine.run step (create deps) es).Emits ev nodeId
    (.enqueued sender (.handleAck by' msgId traceId)) →
    ∃ pre ev' post nodeId' connId message, es = pre ++ ev' :: post ∧
      (Machine.run step (create deps) pre).handled ev' =
        some (nodeId', .message connId (some message)) ∧
      message.kind = .system ∧ message.action = js "handleAck" ∧
      sysHandleAckPayloadSchema message.payload = some msgId ∧
      Machine.Past step (create deps) pre fun S ev => S.HandsOver ev nodeId' connId sender msgId

/-- Alice's message is handled by the node. -/
def handledHere : List Event :=
  atNode (.openSocket (js "a") :: WebSocketRuntime.joins (js "a") (js "alice") 0 ++
    [.message (js "a") (some (WebSocketRuntime.clientMessage .biz (js "send") (js "m") none)),
      .resume 1 (.validMessage (.ok true))])

/-- Alice writes to Bob, and Carol acknowledges the message. -/
def carolAcknowledges : List Event :=
  atNode (WebSocketRuntime.bobGetsIt ++ .openSocket (js "c") ::
    WebSocketRuntime.joins (js "c") (js "carol") 3 ++
    [.message (js "c") (some (WebSocketRuntime.clientMessage .system (js "handleAck") (js "k")
      (some (.obj [(js "ackFor", .str (js "m"))]))))])

/-- The connections that acknowledge something with the event. -/
def ackers : Event → List JsString
  | .own _ (.message connId (some message)) =>
    if message.action = js "handleAck" then [connId] else []
  | _ => []

theorem mem_ackers {S : Nodes} {es pre post : List Event} {ev : Event}
    {nodeId connId : JsString} {message : Envelope} (hes : es = pre ++ ev :: post)
    (hh : S.handled ev = some (nodeId, .message connId (some message)))
    (ha : message.action = js "handleAck") : connId ∈ es.flatMap ackers := by
  refine List.mem_flatMap.2 ⟨ev, by rw [hes]; simp, ?_⟩
  rcases handled_cases hh with ⟨rfl, -⟩ | ⟨_, _, -, -, -, he⟩ | ⟨_, _, _, -, -, -, -, he⟩ |
    ⟨_, -, -, he⟩
  · simp [ackers, ha]
  · cases he
  · cases he
  · cases he

/-- The node's own answer has no recipient, and Carol's acknowledgement of what she never got
reaches Alice. -/
theorem acks_unearned :
    ¬AcksEarned plainDeps handledHere
      (.own (js "n") (.resume 1 (.hooked (.ok { handledLocally := true })))) ∧
    ¬AcksEarned plainDeps carolAcknowledges (.own (js "n") (.resume 4 (.valid true))) := by
  constructor
  · intro h
    obtain ⟨pre, ev, post, nodeId, connId, message, hes, hh, -, haction, -, -⟩ :=
      h (js "n") (js "a") (js "system") (js "m") none
        ⟨_, rfl, List.mem_of_getElem? (i := 3) rfl⟩
    have hmem := mem_ackers hes hh haction
    rw [show handledHere.flatMap ackers = [] from rfl] at hmem
    cases hmem
  · intro h
    obtain ⟨pre, ev, post, nodeId, connId, message, hes, hh, -, haction, -, hpast⟩ :=
      h (js "n") (js "a") (js "c") (js "m") none
        ⟨_, rfl, List.mem_of_getElem? (i := 1) rfl⟩
    have hmem := mem_ackers hes hh haction
    rw [show carolAcknowledges.flatMap ackers = [js "c"] from rfl, List.mem_singleton] at hmem
    subst hmem
    have hnothing : Machine.Along step (fun S ev => handsNothing (js "c") S ev = true)
        (create plainDeps) carolAcknowledges := by decide
    rw [hes] at hnothing
    obtain ⟨pre', ev', post', rfl, hhands⟩ := hpast
    exact not_handsOver ((Machine.along_iff.1 (Machine.along_append.1 hnothing).1) pre' ev' post'
      rfl) hhands

end Nodes

end Hardess

import Hardess.Ingress.HandleAck

/-!
# What the receipts of a message say

A message under way is known by its node and its call; two messages can have one id.

* `Handed`: the envelope of a message was handed to a connection, for this message;
* `ReceiptsTrue`: what a `sys.route` lists was handed over, and a `recvAck` stands for a message
  that was handed to somebody;
* `Receivable`: no target is closed when its turn comes, and a repeated request asks for what was
  reported for an earlier request of its message;
* `receipts_kept`: in a run whose events are receivable, the receipts are true;
* `receipt_false`: a closed connection is reported as well.
-/

namespace Hardess

/-- The message that a call hands over, with the targets that were reached. -/
def Call.reports : Call → Option (SendCall × List ConnRef)
  | .checking send delivered .. => some (send, delivered)
  | .relaying send delivered _ => some (send, delivered)
  | _ => none

theorem WebSocketRuntime.Advances.resumes {st : WebSocketRuntime} {e : WebSocketRuntime.Event}
    {id : ℕ} {send : SendCall} {delivered targets : List ConnRef}
    (h : st.Advances e id send delivered targets) : ∃ answer, e = .resume id answer := by
  cases h <;> exact ⟨_, rfl⟩

namespace Nodes

variable {deps : JsString → WebSocketRuntimeDeps} {es : List Event} {S : Nodes}

/-- A call of a node hands over the message of the call `call` of the node `origin`: it is that
call, or it serves a relay of that call. -/
def WorksFor (S : Nodes) (nodeId : JsString) (id : ℕ) (origin : JsString) (call : ℕ) : Prop :=
  (nodeId = origin ∧ id = call) ∨
    ∃ i relay, S.serving.lookup (nodeId, id) = some i ∧ S.relays[i]? = some relay ∧
      relay.origin = origin ∧ relay.call = call

/-- The event puts the envelope of a message, with its source, in the queue of the connection, on
behalf of that message. -/
def HandsOn (S : Nodes) (ev : Event) (conn : ConnRef) (origin : JsString) (call : ℕ)
    (sender : JsString) (envelope : Envelope) : Prop :=
  ∃ id answer src, S.handled ev = some (conn.nodeId, .resume id answer) ∧
    S.WorksFor conn.nodeId id origin call ∧ src.connId = sender ∧
    .enqueued conn.connId (.envelope { envelope with src }) ∈
      ((S.node conn.nodeId).step (.resume id answer)).effects

/-- The envelope of a message was handed to the connection. -/
def Handed (deps : JsString → WebSocketRuntimeDeps) (es : List Event) (conn : ConnRef)
    (origin : JsString) (call : ℕ) (sender : JsString) (envelope : Envelope) : Prop :=
  Machine.Past step (create deps) es fun S ev => S.HandsOn ev conn origin call sender envelope

/-- What a `sys.route` of the event lists was handed over for the message that the event goes on
with, and a `recvAck` of the event is for a message that the node handled itself or that was handed
to somebody. -/
structure ReceiptsTrue (deps : JsString → WebSocketRuntimeDeps) (es : List Event) (ev : Event) :
    Prop where
  route : ∀ nodeId sender resolvedPeers delivered traceId,
    (Machine.run step (create deps) es).Emits ev nodeId
      (.enqueued sender (.route resolvedPeers delivered traceId)) →
    ∃ id answer call send,
      (Machine.run step (create deps) es).handled ev = some (nodeId, .resume id answer) ∧
      ((Machine.run step (create deps) es).node nodeId).calls.get id = some call ∧
      call.Sends send ∧ send.sender = sender ∧
      ∀ conn ∈ delivered, Handed deps (es ++ [ev]) conn nodeId id sender send.envelope
  recvAck : ∀ nodeId sender ackFor traceId,
    (Machine.run step (create deps) es).Emits ev nodeId
      (.enqueued sender (.recvAck ackFor traceId)) →
    ∃ id answer call,
      (Machine.run step (create deps) es).handled ev = some (nodeId, .resume id answer) ∧
      ((Machine.run step (create deps) es).node nodeId).calls.get id = some call ∧
      ((∃ message auth, call = .hooking sender message auth ∧ message.msgId = ackFor) ∨
        ∃ send, call.Sends send ∧ send.sender = sender ∧ send.envelope.msgId = ackFor ∧
          ∃ conn, Handed deps (es ++ [ev]) conn nodeId id sender send.envelope)

/-- No target is closed when its turn comes, and a request that is taken for a duplicate asks only
for what was reported for an earlier request of its message. -/
structure Receivable (S : Nodes) (ev : Event) : Prop where
  opened : ∀ nodeId id call target rest,
    S.handled ev = some (nodeId, .resume id (.valid true)) →
    (S.node nodeId).calls.get id = some call → call.targets = target :: rest →
    (S.node nodeId).isClosed target.connId = false
  repeated : ∀ k relay duplicateUntil, ev = .serve k → S.relays[k]? = some relay →
    (S.node relay.target).recentClusterDeliveryByMsgId.get relay.request.envelope.msgId =
      some duplicateUntil → (S.node relay.target).now < duplicateUntil →
    ∀ conn ∈ relay.request.targets, conn.nodeId = relay.target →
      ∃ i conns earlier, (i, conns) ∈ S.results ∧ S.relays[i]? = some earlier ∧ conn ∈ conns ∧
        earlier.origin = relay.origin ∧ earlier.call = relay.call

section handed

variable {conn : ConnRef} {origin sender : JsString} {call : ℕ} {envelope : Envelope}

theorem HandsOn.handsOver {ev : Event} (h : S.HandsOn ev conn origin call sender envelope) :
    S.HandsOver ev conn.nodeId conn.connId sender envelope.msgId := by
  obtain ⟨id, answer, src, hh, -, hsrc, hmem⟩ := h
  exact ⟨{ envelope with src }, ⟨_, hh, hmem⟩, rfl, hsrc⟩

theorem Handed.append (h : Handed deps es conn origin call sender envelope) (fs : List Event) :
    Handed deps (es ++ fs) conn origin call sender envelope := Machine.Past.append h fs

end handed

/-- What a request has reached was handed over, for the message of the relay. -/
def Reached (deps : JsString → WebSocketRuntimeDeps) (es : List Event) (relay : Relay)
    (conns : List ConnRef) : Prop :=
  ∀ conn ∈ conns, Handed deps es conn relay.origin relay.call relay.request.envelope.src.connId
    relay.request.envelope

theorem Reached.append {relay : Relay} {conns : List ConnRef} (h : Reached deps es relay conns)
    (fs : List Event) : Reached deps (es ++ fs) relay conns :=
  fun conn hmem => (h conn hmem).append fs

/-- What the calls and the results report was handed over; the relays and the calls that serve them
belong together. -/
structure Receipted (deps : JsString → WebSocketRuntimeDeps) (es : List Event) (S : Nodes) :
    Prop where
  nodeId : ∀ nodeId, (S.node nodeId).deps.nodeId = nodeId
  numbered : ∀ nodeId, (S.node nodeId).Numbered
  senders : ∀ nodeId id call send, (S.node nodeId).calls.get id = some call → call.Sends send →
    send.senderRef.connId = send.sender
  reports : ∀ nodeId id call send conns, (S.node nodeId).calls.get id = some call →
    call.reports = some (send, conns) →
    ∀ conn ∈ conns, Handed deps es conn nodeId id send.sender send.envelope
  heads : ∀ nodeId id call target rest, (S.node nodeId).calls.get id = some call →
    call.targets = target :: rest →
    target.nodeId = nodeId ∧ ((S.node nodeId).authOf target.connId).isSome = true
  relayed : ∀ relay ∈ S.relays, relay.call < (S.node relay.origin).nextCall ∧
    ∀ call, (S.node relay.origin).calls.get relay.call = some call → ∃ send, call.Sends send ∧
      ∃ targets, relay.request = send.request targets
  same : ∀ relay ∈ S.relays, ∀ relay' ∈ S.relays, relay.origin = relay'.origin →
    relay.call = relay'.call → relay.request.envelope = relay'.request.envelope
  serving : ∀ nodeId id i, S.serving.lookup (nodeId, id) = some i → id < (S.node nodeId).nextCall
  served : ∀ nodeId id request startedAt delivered target rest, (S.node nodeId).calls.get id =
    some (.delivering request startedAt delivered target rest) →
    ∃ i relay, S.serving.lookup (nodeId, id) = some i ∧ S.relays[i]? = some relay ∧
      relay.request = request ∧ Reached deps es relay delivered
  results : ∀ i conns, (i, conns) ∈ S.results → ∃ relay, S.relays[i]? = some relay ∧
    Reached deps es relay conns

section step

variable {ev : Event} {nodeId : JsString} {e : WebSocketRuntime.Event}
variable (h : Receipted deps es (Machine.run step (create deps) es))
variable (hc : (Machine.run step (create deps) es).Receivable ev)
variable (hev : (Machine.run step (create deps) es).handled ev = some (nodeId, e))
include h hc hev

omit hc in
/-- A call that begins to serve a relay is known to do so. -/
theorem Receipted.lookup_started {request : DeliverRequest} (he : e = .deliverCluster request) :
    ∃ i relay, ev = .serve i ∧ ((Machine.run step (create deps) es).serving ++
      (Machine.run step (create deps) es).started ev).lookup
        (nodeId, ((Machine.run step (create deps) es).node nodeId).nextCall) = some i ∧
      (Machine.run step (create deps) es).relays[i]? = some relay ∧ relay.target = nodeId ∧
      relay.request = request := by
  subst he
  obtain ⟨i, relay, rfl, hget, rfl, rfl⟩ := exists_relay hev
  refine ⟨i, relay, rfl, ?_, hget, rfl, rfl⟩
  have hnone : (Machine.run step (create deps) es).serving.lookup
      (relay.target, ((Machine.run step (create deps) es).node relay.target).nextCall) = none := by
    rw [Option.eq_none_iff_forall_ne_some]
    intro k hk
    exact absurd (h.serving _ _ k hk) (lt_irrefl _)
  rw [List.lookup_append, hnone, started, hget]
  simp

/-- What an attempt has reached was handed over. -/
theorem Receipted.advances {id : ℕ} {send : SendCall} {delivered targets : List ConnRef}
    (ha : ((Machine.run step (create deps) es).node nodeId).cleared.Advances e id send delivered
      targets) :
    ∀ conn ∈ delivered, Handed deps (es ++ [ev]) conn nodeId id send.sender send.envelope := by
  intro conn hmem
  cases ha with
  | located => cases hmem
  | skipped hcall => exact (h.reports nodeId id _ _ _ hcall rfl conn hmem).append _
  | relayFailed hcall => exact (h.reports nodeId id _ _ _ hcall rfl conn hmem).append _
  | relayed hcall =>
    rcases List.mem_append.1 hmem with hold | hnew
    · exact (h.reports nodeId id _ _ _ hcall rfl conn hold).append _
    · obtain ⟨k, relay, hres, hrelay, -, rfl, rfl⟩ := exists_result hev
      obtain ⟨relay', hrelay', hreached⟩ := h.results k _ hres
      obtain rfl : relay = relay' := Option.some.inj (hrelay.symm.trans hrelay')
      obtain ⟨send', hsends, targets', hrequest⟩ :=
        (h.relayed relay (List.mem_of_getElem? hrelay)).2 _ hcall
      cases hsends
      -- The relay carries the envelope of the call, up to the source.
      have hhanded := hreached conn hnew
      rw [hrequest] at hhanded
      rw [← h.senders relay.origin _ _ send hcall rfl]
      exact hhanded.append _
  | @served _ _ delivered _ _ target hcall =>
    unfold WebSocketRuntime.reached at hmem
    split_ifs at hmem with he
    · rcases List.mem_append.1 hmem with hold | hnew
      · exact (h.reports nodeId id _ _ _ hcall rfl conn hold).append _
      · obtain rfl := List.mem_singleton.1 hnew
        obtain ⟨hn, hauth⟩ := h.heads nodeId id _ _ _ hcall rfl
        have hopen := hc.opened nodeId id _ _ _ hev hcall rfl
        refine ⟨es, ev, [], rfl, id, .valid true,
          ((Machine.run step (create deps) es).node nodeId).sourceOf send, ?_, .inl ⟨hn, rfl⟩, rfl,
          ?_⟩
        · rw [hn]
          exact hev
        · rw [hn]
          exact WebSocketRuntime.enqueued_of_checking hcall hauth hopen he
    · exact (h.reports nodeId id _ _ _ hcall rfl conn hmem).append _

/-- What a relayed request has reached was handed over. -/
theorem Receipted.serves {id startedAt : ℕ} {request : DeliverRequest}
    {delivered targets : List ConnRef}
    (ha : ((Machine.run step (create deps) es).node nodeId).cleared.Serves e id request startedAt
      delivered targets) :
    ∃ i relay, ((Machine.run step (create deps) es).serving ++
        (Machine.run step (create deps) es).started ev).lookup (nodeId, id) = some i ∧
      (Machine.run step (create deps) es).relays[i]? = some relay ∧ relay.request = request ∧
      Reached deps (es ++ [ev]) relay delivered := by
  cases ha with
  | started =>
    obtain ⟨i, relay, -, hk, hget, -, hreq⟩ := h.lookup_started hev rfl
    exact ⟨i, relay, hk, hget, hreq, fun _ hmem => by cases hmem⟩
  | skipped hcall =>
    obtain ⟨i, relay, hk, hget, hreq, hreached⟩ := h.served nodeId _ _ _ _ _ _ hcall
    exact ⟨i, relay, by rw [List.lookup_append, hk]; rfl, hget, hreq, hreached.append _⟩
  | @served _ _ _ delivered _ target hcall he =>
    obtain ⟨i, relay, hk, hget, rfl, hreached⟩ := h.served nodeId _ _ _ _ _ _ hcall
    refine ⟨i, relay, by rw [List.lookup_append, hk]; rfl, hget, rfl, fun conn hmem => ?_⟩
    rcases List.mem_append.1 hmem with hold | hnew
    · exact (hreached conn hold).append _
    · obtain rfl := List.mem_singleton.1 hnew
      obtain ⟨hn, hauth⟩ := h.heads nodeId id _ _ _ hcall rfl
      have hopen := hc.opened nodeId id _ _ _ hev hcall rfl
      refine ⟨es, ev, [], rfl, id, .valid true, relay.request.envelope.src, ?_,
        .inr ⟨i, relay, by rw [hn]; exact hk, hget, rfl, rfl⟩, rfl, ?_⟩
      · rw [hn]
        exact hev
      · rw [hn]
        exact WebSocketRuntime.enqueued_of_delivering hcall hauth hopen he

/-- **What a `sys.route` lists was handed over.** -/
theorem Receipted.receiptsTrue_of_handled : ReceiptsTrue deps es ev := by
  have hstep := WebSocketRuntime.step_handles
    ((Machine.run step (create deps) es).node nodeId) e
  constructor
  · rintro nodeId' sender peers delivered traceId ⟨e', hev', hx⟩
    cases hev.symm.trans hev'
    rcases hstep.effects _ hx with hplain | hnew
    · exact hplain.elim
    · cases hnew with
      | route ha =>
        obtain ⟨answer, rfl⟩ := ha.resumes
        obtain ⟨-, call, hcall, hsends⟩ := ha.sends
        exact ⟨_, answer, call, _, hev, hcall, hsends, rfl, h.advances hc hev ha⟩
  · rintro nodeId' sender ackFor traceId ⟨e', hev', hx⟩
    cases hev.symm.trans hev'
    rcases hstep.effects _ hx with hplain | hnew
    · exact hplain.elim
    · cases hnew with
      | recvAck ha hd =>
        obtain ⟨answer, rfl⟩ := ha.resumes
        obtain ⟨-, call, hcall, hsends⟩ := ha.sends
        obtain ⟨conn, hmem⟩ := List.exists_mem_of_ne_nil _ hd
        exact ⟨_, answer, call, hev, hcall,
          .inr ⟨_, hsends, rfl, rfl, conn, h.advances hc hev ha conn hmem⟩⟩
      | localRecvAck hcall => exact ⟨_, _, _, hev, hcall, .inl ⟨_, _, rfl, rfl⟩⟩

/-- A new result reports what was handed over. -/
theorem Receipted.new_result {i : ℕ} {conns : List ConnRef}
    (hres : (i, conns) ∈ ((Machine.run step (create deps) es).step ev).results) :
    ∃ relay, ((Machine.run step (create deps) es).step ev).relays[i]? = some relay ∧
      Reached deps (es ++ [ev]) relay conns := by
  rcases mem_results_step hev hres with hold | ⟨call, hx, hlookup⟩
  · obtain ⟨relay, hget, hreached⟩ := h.results i conns hold
    exact ⟨relay, getElem?_relays_step hget, hreached.append _⟩
  · rcases (WebSocketRuntime.step_handles _ e).effects _ hx with hplain | hnew
    · exact hplain.elim
    · cases hnew with
      | turnedAway =>
        obtain ⟨k, relay, -, hk, hget, -⟩ := h.lookup_started hev rfl
        cases hlookup.symm.trans hk
        exact ⟨relay, getElem?_relays_step hget, fun conn hmem => by cases hmem⟩
      | @duplicate request duplicateUntil hdup hfresh =>
        obtain ⟨k, relay, hserve, hk, hget, rfl, rfl⟩ := h.lookup_started hev rfl
        cases hlookup.symm.trans hk
        refine ⟨relay, getElem?_relays_step hget, fun conn hmem => ?_⟩
        obtain ⟨hmem, hn⟩ := List.mem_filter.1 hmem
        obtain ⟨k', conns', earlier, hres', hget', hconn, horigin, hcall⟩ :=
          hc.repeated i relay duplicateUntil hserve hget hdup hfresh conn hmem
            ((of_decide_eq_true hn).trans (h.nodeId _))
        obtain ⟨relay', hget'', hreached⟩ := h.results k' conns' hres'
        obtain rfl : earlier = relay' := Option.some.inj (hget'.symm.trans hget'')
        -- Both requests are for one call, so they carry one envelope.
        have hhanded := (hreached conn hconn).append [ev]
        rwa [h.same earlier (List.mem_of_getElem? hget') relay (List.mem_of_getElem? hget) horigin
          hcall, horigin, hcall] at hhanded
      | @delivered _ _ _ request _ _ ha =>
        obtain ⟨k, relay, hk, hget, -, hreached⟩ := h.serves hc hev ha
        cases hlookup.symm.trans hk
        exact ⟨relay, getElem?_relays_step hget, hreached⟩

omit hc in
/-- A new call has a sender. -/
theorem Receipted.starts_senders {id : ℕ} {call : Call}
    (hs : ((Machine.run step (create deps) es).node nodeId).cleared.Starts e id call) :
    ∀ send, call.Sends send → send.senderRef.connId = send.sender := by
  have hsearch {send send' : SendCall} {call : Call} (hs : call.Searches send)
      (hr : send.senderRef.connId = send.sender) (hs' : call.Sends send') :
      send'.senderRef.connId = send'.sender := by
    rw [← WebSocketRuntime.sends_unique (WebSocketRuntime.searches_sends hs).1 hs']
    exact hr
  intro send hsends
  cases hs with
  | searching _ hs => exact hsearch hs rfl hsends
  | found hcall hs hs' =>
    exact hsearch hs' (h.senders nodeId _ _ _ hcall (WebSocketRuntime.searches_sends hs).1) hsends
  | continuing ha hcont =>
    obtain ⟨-, call', hcall, hs⟩ := ha.sends
    have hr := h.senders nodeId _ _ _ hcall hs
    cases hcont with
    | checking => cases hsends; exact hr
    | relaying => cases hsends; exact hr
    | searching _ _ hs => exact hsearch hs hr hsends
  | _ => exact hsends.elim

/-- A new call reports what was handed over. -/
theorem Receipted.starts_reports {id : ℕ} {call : Call}
    (hs : ((Machine.run step (create deps) es).node nodeId).cleared.Starts e id call) :
    ∀ send conns, call.reports = some (send, conns) →
      ∀ conn ∈ conns, Handed deps (es ++ [ev]) conn nodeId id send.sender send.envelope := by
  have hsearch {send : SendCall} {call : Call} (hs : call.Searches send) : call.reports = none := by
    cases call <;> first | rfl | exact hs.elim
  intro send conns heq
  cases hs with
  | searching _ hs => rw [hsearch hs] at heq; cases heq
  | found _ _ hs => rw [hsearch hs] at heq; cases heq
  | continuing ha hcont =>
    cases hcont with
    | checking => cases heq; exact h.advances hc hev ha
    | relaying => cases heq; exact h.advances hc hev ha
    | searching _ _ hs => rw [hsearch hs] at heq; cases heq
  | _ => cases heq

omit hc in
/-- The first target of a new call is a connection of the node that is authenticated. -/
theorem Receipted.starts_heads {id : ℕ} {call : Call}
    (hs : ((Machine.run step (create deps) es).node nodeId).cleared.Starts e id call) :
    ∀ target rest, call.targets = target :: rest → target.nodeId = nodeId ∧
      (((Machine.run step (create deps) es).node nodeId).authOf target.connId).isSome = true := by
  have hsearch {send : SendCall} {call : Call} (hs : call.Searches send) : call.targets = [] :=
    WebSocketRuntime.searches_targets hs
  intro target rest heq
  cases hs with
  | searching _ hs => rw [hsearch hs] at heq; cases heq
  | found _ _ hs => rw [hsearch hs] at heq; cases heq
  | continuing ha hcont =>
    cases hcont with
    | checking _ hn ho => cases heq; exact ⟨hn.trans (h.nodeId nodeId), ho.2⟩
    | relaying => cases heq
    | searching _ _ hs => rw [hsearch hs] at heq; cases heq
  | delivering _ _ hn ho => cases heq; exact ⟨hn.trans (h.nodeId nodeId), ho.2⟩
  | _ => cases heq

omit hc hev in
/-- A call that takes on a message goes on with the same message, perhaps for a second attempt. -/
theorem Receipted.starts_same {id : ℕ} {call call' : Call} {send : SendCall}
    (hs : ((Machine.run step (create deps) es).node nodeId).cleared.Starts e id call')
    (hcall : ((Machine.run step (create deps) es).node nodeId).calls.get id = some call)
    (hsends : call.Sends send) : ∃ retry, call'.Sends { send with retry } := by
  -- the call was there before the event, and is not the new one
  have hfresh : id ≠ ((Machine.run step (create deps) es).node nodeId).nextCall :=
    (h.numbered nodeId id call hcall).ne
  have hsame {call₀ : Call}
      (h₀ : ((Machine.run step (create deps) es).node nodeId).calls.get id = some call₀) :
      call₀.Sends send := by
    rw [← Option.some.inj (hcall.symm.trans h₀)]
    exact hsends
  cases hs with
  | hooking h₀ => exact (hsame h₀).elim
  | searching h₀ => exact (hsame h₀).elim
  | found h₀ hs hs' =>
    obtain rfl :=
      WebSocketRuntime.sends_unique (WebSocketRuntime.searches_sends hs).1 (hsame h₀)
    exact ⟨_, (WebSocketRuntime.searches_sends hs').1⟩
  | continuing ha hcont =>
    obtain ⟨-, call₀, h₀, hs⟩ := ha.sends
    obtain rfl := WebSocketRuntime.sends_unique hs (hsame h₀)
    cases hcont with
    | checking => exact ⟨_, rfl⟩
    | relaying => exact ⟨_, rfl⟩
    | searching _ _ hs => exact ⟨true, (WebSocketRuntime.searches_sends hs).1⟩
  | delivering ha =>
    cases ha with
    | started => exact absurd rfl hfresh
    | skipped h₀ => exact (hsame h₀).elim
    | served h₀ => exact (hsame h₀).elim
  | authenticating => exact absurd rfl hfresh
  | validating => exact absurd rfl hfresh
  | forwarding => exact absurd rfl hfresh
  | acking => exact absurd rfl hfresh
  | forwarded => exact absurd rfl hfresh

omit h hc in
/-- A new relay is one of a message that is under way. -/
theorem exists_send_of_deliver {relay : Relay} (hn : relay.origin = nodeId)
    (hx : .deliver relay.call relay.target relay.request ∈
      (((Machine.run step (create deps) es).node nodeId).step e).effects) :
    ∃ call send targets,
      ((Machine.run step (create deps) es).node relay.origin).calls.get relay.call = some call ∧
      call.Sends send ∧ relay.request = send.request targets := by
  rcases (WebSocketRuntime.step_handles _ e).effects _ hx with hplain | hnew
  · exact hplain.elim
  · generalize hrequest : relay.request = request at hnew
    generalize hid : relay.call = id at hnew
    cases hnew with
    | deliver ha =>
      obtain ⟨-, call, hcall, hsends⟩ := ha.sends
      rw [hn]
      exact ⟨call, _, _, hcall, hsends, rfl⟩

omit hc in
/-- The relays still belong to the messages of their calls. -/
theorem Receipted.relayed_step :
    ∀ relay ∈ ((Machine.run step (create deps) es).step ev).relays,
      relay.call < (((Machine.run step (create deps) es).step ev).node relay.origin).nextCall ∧
      ∀ call, (((Machine.run step (create deps) es).step ev).node relay.origin).calls.get
        relay.call = some call → ∃ send, call.Sends send ∧
          ∃ targets, relay.request = send.request targets := by
  intro relay hr
  have hstep := WebSocketRuntime.step_handles
    ((Machine.run step (create deps) es).node nodeId) e
  -- A relay of a message that is under way, before the event.
  have hkept {send : SendCall} {call₀ : Call} {targets : List ConnRef} (hn : relay.origin = nodeId)
      (h₀ : ((Machine.run step (create deps) es).node nodeId).calls.get relay.call = some call₀)
      (hs : call₀.Sends send) (hrequest : relay.request = send.request targets) :
      relay.call < (((Machine.run step (create deps) es).step ev).node relay.origin).nextCall ∧
      ∀ call, (((Machine.run step (create deps) es).step ev).node relay.origin).calls.get
        relay.call = some call → ∃ send, call.Sends send ∧
          ∃ targets, relay.request = send.request targets := by
    rw [node_step hev, if_pos hn, hstep.nextCall]
    refine ⟨Nat.lt_add_right _ (h.numbered nodeId _ _ h₀), fun call hcall => ?_⟩
    rcases hstep.calls _ call hcall with hold | hnew
    · obtain rfl : call₀ = call := Option.some.inj (h₀.symm.trans hold)
      exact ⟨send, hs, targets, hrequest⟩
    · obtain ⟨retry, hs'⟩ := h.starts_same hnew h₀ hs
      exact ⟨_, hs', targets, hrequest⟩
  rcases mem_relays_step hev hr with hold | ⟨hn, hx⟩
  · obtain ⟨hlt, hsame⟩ := h.relayed relay hold
    by_cases hn : relay.origin = nodeId
    · cases h₀ : ((Machine.run step (create deps) es).node nodeId).calls.get relay.call with
      | some call₀ =>
        obtain ⟨send, hs, targets, hrequest⟩ := hsame call₀ (by rw [hn]; exact h₀)
        exact hkept hn h₀ hs hrequest
      | none =>
        -- The call is over, and its number is not given out again.
        rw [node_step hev, if_pos hn, hstep.nextCall]
        rw [hn] at hlt
        refine ⟨Nat.lt_add_right _ hlt, fun call hcall => ?_⟩
        rcases hstep.calls _ call hcall with hold | hnew
        · exact absurd (h₀.symm.trans hold) (by simp)
        · rcases hnew.fresh with ⟨call', hcall'⟩ | ⟨heq, -⟩
          · exact absurd (h₀.symm.trans hcall') (by simp)
          · exact absurd heq hlt.ne
    · rw [node_step hev, if_neg hn]
      exact ⟨hlt, hsame⟩
  · obtain ⟨call, send, targets, hcall, hsends, hrequest⟩ := exists_send_of_deliver hev hn hx
    rw [hn] at hcall
    exact hkept hn hcall hsends hrequest

omit hc in
/-- The relays of one call carry one envelope. -/
theorem Receipted.same_step :
    ∀ relay ∈ ((Machine.run step (create deps) es).step ev).relays,
      ∀ relay' ∈ ((Machine.run step (create deps) es).step ev).relays,
        relay.origin = relay'.origin → relay.call = relay'.call →
          relay.request.envelope = relay'.request.envelope := by
  -- A relay of a call that is under way carries the envelope of the call.
  have hcarries {relay relay' : Relay} (hr : relay ∈
        ((Machine.run step (create deps) es).step ev).relays) (hn : relay'.origin = nodeId)
      (hx : .deliver relay'.call relay'.target relay'.request ∈
        (((Machine.run step (create deps) es).node nodeId).step e).effects)
      (horigin : relay.origin = relay'.origin) (hcall : relay.call = relay'.call) :
      relay.request.envelope = relay'.request.envelope := by
    obtain ⟨call, send, targets, hget, hsends, hrequest⟩ := exists_send_of_deliver hev hn hx
    have hold : ∃ call send targets,
        ((Machine.run step (create deps) es).node relay.origin).calls.get relay.call = some call ∧
        call.Sends send ∧ relay.request = send.request targets := by
      rcases mem_relays_step hev hr with hold | ⟨hn', hx'⟩
      · obtain ⟨send', hsends', targets', hrequest'⟩ :=
          (h.relayed relay hold).2 call (by rw [horigin, hcall]; exact hget)
        exact ⟨call, send', targets', by rw [horigin, hcall]; exact hget, hsends', hrequest'⟩
      · exact exists_send_of_deliver hev hn' hx'
    obtain ⟨call', send', targets', hget', hsends', hrequest'⟩ := hold
    rw [horigin, hcall, hget] at hget'
    cases hget'
    rw [hrequest, hrequest', WebSocketRuntime.sends_unique hsends hsends']
    rfl
  intro relay hr relay' hr' horigin hcall
  rcases mem_relays_step hev hr' with hold' | ⟨hn', hx'⟩
  · rcases mem_relays_step hev hr with hold | ⟨hn, hx⟩
    · exact h.same relay hold relay' hold' horigin hcall
    · exact (hcarries hr' hn hx horigin.symm hcall.symm).symm
  · exact hcarries hr hn' hx' horigin hcall

/-- The calls that serve a relay still do, and have handed over what they report. -/
theorem Receipted.served_step (nodeId' : JsString) (id : ℕ) (request : DeliverRequest)
    (startedAt : ℕ) (delivered : List ConnRef) (target : ConnRef) (rest : List ConnRef)
    (hcall : (((Machine.run step (create deps) es).step ev).node nodeId').calls.get id =
      some (.delivering request startedAt delivered target rest)) :
    ∃ i relay, ((Machine.run step (create deps) es).step ev).serving.lookup (nodeId', id) =
        some i ∧ ((Machine.run step (create deps) es).step ev).relays[i]? = some relay ∧
      relay.request = request ∧ Reached deps (es ++ [ev]) relay delivered := by
  have hold (h₀ : ((Machine.run step (create deps) es).node nodeId').calls.get id =
      some (.delivering request startedAt delivered target rest)) :
      ∃ i relay, ((Machine.run step (create deps) es).step ev).serving.lookup (nodeId', id) =
          some i ∧ ((Machine.run step (create deps) es).step ev).relays[i]? = some relay ∧
        relay.request = request ∧ Reached deps (es ++ [ev]) relay delivered := by
    obtain ⟨i, relay, hk, hget, hreq, hreached⟩ := h.served nodeId' id _ _ _ _ _ h₀
    exact ⟨i, relay, lookup_serving_step hk, getElem?_relays_step hget, hreq, hreached.append _⟩
  rw [node_step hev] at hcall
  split_ifs at hcall with hn
  · subst hn
    rcases (WebSocketRuntime.step_handles _ e).calls id _ hcall with h₀ | hnew
    · exact hold h₀
    · cases hnew with
      | found _ _ hs => exact hs.elim
      | searching _ hs => exact hs.elim
      | continuing _ hcont =>
        cases hcont with
        | searching _ _ hs => exact hs.elim
      | delivering ha =>
        obtain ⟨i, relay, hk, hget, hreq, hreached⟩ := h.serves hc hev ha
        rw [← serving_step hev] at hk
        exact ⟨i, relay, hk, getElem?_relays_step hget, hreq, hreached⟩
  · exact hold hcall

omit hc in
/-- The calls that serve a relay were given out. -/
theorem Receipted.serving_lt_step (nodeId' : JsString) (id i : ℕ)
    (hk : ((Machine.run step (create deps) es).step ev).serving.lookup (nodeId', id) = some i) :
    id < (((Machine.run step (create deps) es).step ev).node nodeId').nextCall := by
  have hnext : ((Machine.run step (create deps) es).node nodeId').nextCall ≤
      (((Machine.run step (create deps) es).step ev).node nodeId').nextCall := by
    rw [node_step hev]
    split_ifs with hn
    · rw [(WebSocketRuntime.step_handles _ e).nextCall, hn]
      exact Nat.le_add_right _ _
    · exact le_refl _
  rw [serving_step hev, List.lookup_append] at hk
  cases hold : (Machine.run step (create deps) es).serving.lookup (nodeId', id) with
  | some k => exact (h.serving nodeId' id k hold).trans_le hnext
  | none =>
    rw [hold] at hk
    cases ev with
    | serve k =>
      cases hget : (Machine.run step (create deps) es).relays[k]? with
      | none =>
        simp only [started, hget] at hk
        cases hk
      | some relay =>
        have hhandled : nodeId = relay.target ∧ e = .deliverCluster relay.request := by
          simp only [handled, hget] at hev
          cases hev
          exact ⟨rfl, rfl⟩
        obtain ⟨rfl, rfl⟩ := hhandled
        -- the only new entry is for the call that the relay has just begun
        have hkey : (nodeId', id) = (relay.target,
            ((Machine.run step (create deps) es).node relay.target).nextCall) := by
          by_contra hne
          simp only [started, hget, Option.map_some, Option.toList_some, List.lookup_cons,
            beq_false_of_ne hne, Option.none_or] at hk
          cases hk
        obtain ⟨rfl, rfl⟩ := Prod.mk.inj hkey
        rw [node_step hev, if_pos rfl, (WebSocketRuntime.step_handles _ _).nextCall]
        exact Nat.lt_succ_self _
    | _ => cases hk

end step

/-- **What the calls and the results report was handed over.** -/
theorem receipted_step (h : Receipted deps es (Machine.run step (create deps) es)) (ev : Event)
    (hc : (Machine.run step (create deps) es).Receivable ev) :
    Receipted deps (es ++ [ev]) ((Machine.run step (create deps) es).step ev) := by
  cases hh : (Machine.run step (create deps) es).handled ev with
  | none =>
    rw [step_of_none hh]
    refine ⟨h.nodeId, h.numbered, h.senders, fun n id call send conns hcall hr conn hm => ?_,
      h.heads, h.relayed, h.same, h.serving, fun n id request t delivered target rest hcall => ?_,
      fun i conns hres => ?_⟩
    · exact (h.reports n id call send conns hcall hr conn hm).append _
    · obtain ⟨i, relay, hk, hget, hreq, hreached⟩ := h.served n id request t delivered target rest
        hcall
      exact ⟨i, relay, hk, hget, hreq, hreached.append _⟩
    · obtain ⟨relay, hget, hreached⟩ := h.results i conns hres
      exact ⟨relay, hget, hreached.append _⟩
  | some he =>
    obtain ⟨nodeId, e⟩ := he
    have hstep := WebSocketRuntime.step_handles
      ((Machine.run step (create deps) es).node nodeId) e
    refine ⟨nodeId_step h.nodeId ev, fun n => ?_, fun n id call send hcall hs => ?_,
      fun n id call send conns hcall hr conn hm => ?_, fun n id call target rest hcall ht => ?_,
      h.relayed_step hh, h.same_step hh, h.serving_lt_step hh, h.served_step hc hh,
      fun i conns hres => h.new_result hc hh hres⟩
    · rw [node_step hh]
      split_ifs
      · exact WebSocketRuntime.numbered_step (h.numbered nodeId) e
      · exact h.numbered n
    · rw [node_step hh] at hcall
      split_ifs at hcall
      · rcases hstep.calls id call hcall with hold | hnew
        · exact h.senders nodeId id call send hold hs
        · exact h.starts_senders hh hnew send hs
      · exact h.senders n id call send hcall hs
    · rw [node_step hh] at hcall
      split_ifs at hcall with hn
      · subst hn
        rcases hstep.calls id call hcall with hold | hnew
        · exact (h.reports n id call send conns hold hr conn hm).append _
        · exact h.starts_reports hc hh hnew send conns hr conn hm
      · exact (h.reports n id call send conns hcall hr conn hm).append _
    · rw [node_step hh] at hcall ⊢
      split_ifs at hcall ⊢ with hn
      · rw [hn]
        -- the target of the call was online when its turn came, and keeps its context
        have hhead : target.nodeId = nodeId ∧
            (((Machine.run step (create deps) es).node nodeId).authOf target.connId).isSome =
              true := by
          rcases hstep.calls id call hcall with hold | hnew
          · exact h.heads nodeId id call target rest hold ht
          · exact h.starts_heads hh hnew target rest ht
        exact ⟨hhead.1, WebSocketRuntime.authOf_isSome_step hhead.2 e⟩
      · exact h.heads n id call target rest hcall ht

theorem receipted_create (deps : JsString → WebSocketRuntimeDeps) :
    Receipted deps [] (create deps) :=
  ⟨fun _ => rfl, fun _ _ _ h => (by cases h), fun _ _ _ _ h => (by cases h),
    fun _ _ _ _ _ h => (by cases h), fun _ _ _ _ _ h => (by cases h), fun _ h => (by cases h),
    fun _ h => (by cases h), fun _ _ _ h => (by cases h), fun _ _ _ _ _ _ _ h => (by cases h),
    fun _ _ h => (by cases h)⟩

/-- **In a run in which no target is closed when its turn comes, and repeated requests ask for what
was reported, the receipts are true.** -/
theorem receipts_kept (deps : JsString → WebSocketRuntimeDeps) (es : List Event)
    (h : Machine.Along step Receivable (create deps) es) :
    ∀ pre ev post, es = pre ++ ev :: post → ReceiptsTrue deps pre ev := by
  rintro pre ev post rfl
  obtain ⟨hpre, hev, -⟩ := Machine.along_append.1 h
  have hinv : Receipted deps pre (Machine.run step (create deps) pre) :=
    Machine.history_invariant (C := fun es ev => (Machine.run step (create deps) es).Receivable ev)
      (receipted_create deps) (fun _ ev hinv hc => receipted_step hinv ev hc) pre
      (Machine.along_iff.1 hpre)
  cases hh : (Machine.run step (create deps) pre).handled ev with
  | some he => exact hinv.receiptsTrue_of_handled hev (show _ = some (he.1, he.2) from hh)
  | none =>
    constructor
    · rintro _ _ _ _ _ ⟨e, he, -⟩
      rw [hh] at he
      cases he
    · rintro _ _ _ _ ⟨e, he, -⟩
      rw [hh] at he
      cases he

/-- An event that neither serves a target nor brings a relayed request. -/
theorem receivable_of_own {nodeId : JsString} {e : WebSocketRuntime.Event}
    (he : ∀ id, e ≠ .resume id (.valid true)) : S.Receivable (.own nodeId e) := by
  constructor
  · intro nodeId' id call target rest hh
    rcases handled_cases hh with ⟨heq, -⟩ | ⟨_, _, heq, -⟩ | ⟨_, _, _, -, -, -, -, heq⟩ |
      ⟨_, -, -, heq⟩
    · cases heq
      exact absurd rfl (he id)
    · cases heq
    · cases heq
    · cases heq
  · intro k relay until' heq
    cases heq

/-- Bob is reported to have got what he got. -/
theorem receipts_kept_bob : ReceiptsTrue plainDeps
    (atNode (WebSocketRuntime.aliceAndBob ++
      WebSocketRuntime.sends (js "a") (js "m") (js "bob") .recv 2))
    (.own (js "n") (.resume 2 (.valid true))) := by
  refine receipts_kept plainDeps (atNode WebSocketRuntime.bobGetsIt) ?_ _ _ [] rfl
  refine ⟨?_, ?_, ?_, ?_, ?_, ?_, ?_, ?_, ?_, ?_, ?_, ?_, trivial⟩
  case refine_12 =>
    refine ⟨?_, fun _ _ _ heq => by cases heq⟩
    rintro _ _ call target rest ⟨⟩ hcall ht
    cases hcall
    cases ht
    rfl
  all_goals exact receivable_of_own (by simp)

/-- Bob's connection is closed by the server while it is checked. -/
def bobIsClosed : List Event :=
  atNode (WebSocketRuntime.aliceAndBob ++
    WebSocketRuntime.sends (js "a") (js "m") (js "bob") .recv 2 ++ [.message (js "b") none])

/-- Alice is told that Bob got what nobody got. -/
theorem receipt_false : ¬∀ deps es ev, ReceiptsTrue deps es ev := by
  intro h
  obtain ⟨id, answer, call, send, -, -, -, -, hhanded⟩ :=
    (h plainDeps bobIsClosed (.own (js "n") (.resume 2 (.valid true)))).route (js "n") (js "a") _
      _ _ ⟨_, rfl, List.mem_of_getElem? (i := 1) rfl⟩
  have hnothing : Machine.Along step (fun S ev => handsNothing (js "b") S ev = true)
      (create plainDeps) (bobIsClosed ++ [.own (js "n") (.resume 2 (.valid true))]) := by decide
  obtain ⟨pre, ev, post, heq, hhands⟩ := hhanded _ List.mem_cons_self
  exact not_handsOver (Machine.along_iff.1 hnothing pre ev post heq) hhands.handsOver

end Nodes

end Hardess

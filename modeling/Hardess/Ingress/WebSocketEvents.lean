import Hardess.Ingress.WebSocketStep

/-!
# What one event of the websocket runtime can do

* `Starts`: every way in which an event leaves a call that awaits something;
* `Emitted`: every way in which an event hands over an envelope, an acknowledgement, a report or a
  request to another node;
* `Pends`, `Marks`, `Authenticates`: every way in which it writes into the tables;
* `Settles`: every way in which a pending acknowledgement goes;
* `step_handles`: an event does nothing else, and what it does not touch stays.
-/

namespace Hardess

namespace WebSocketRuntime

variable {st st' st'' : WebSocketRuntime} {P Q : Effect → Prop}

/-! ### What an event can do -/

/-- The call of `sendToPeerIds` for a message whose hooks are done. -/
def startedSend (st : WebSocketRuntime) (connId : JsString) (message : Envelope)
    (auth : AuthContext) (result : HookResult) : SendCall :=
  let envelope := outboundEnvelope message result.dispatch
  { sender := connId
    message
    auth
    envelope
    peerIds := result.peerIds
    ack := result.dispatch.ack.getD .recv
    senderRef :=
      { nodeId := st.deps.nodeId
        connId
        peerId := ((st.authOf connId).map (·.peerId)).getD envelope.src.peerId
        groupId := (st.authOf connId).bind (·.groupId) }
    retry := false }

/-- The envelope that a local target of a message gets. -/
def localEnvelope (st : WebSocketRuntime) (send : SendCall) : OutboundMessage :=
  .envelope { send.envelope with src := st.sourceOf send }

/-- The targets that were reached, after one more was served. -/
def reached (st : WebSocketRuntime) (delivered : List ConnRef) (target : ConnRef)
    (message : OutboundMessage) : List ConnRef :=
  if st.enqueueError target.connId message = none then delivered ++ [target] else delivered

/-- The event takes an attempt of a message on: these targets were reached, and these are left. -/
inductive Advances (st : WebSocketRuntime) :
    Event → ℕ → SendCall → List ConnRef → List ConnRef → Prop
  | located {id : ℕ} {send : SendCall} {located remote : List (JsString × List ConnRef)}
      (h : st.calls.get id = some (.locating send located)) :
      Advances st (.resume id (.located remote)) id send [] (planned located remote)
  | skipped {id : ℕ} {send : SendCall} {delivered rest : List ConnRef}
      {remote : JsMap JsString (List ConnRef)} {target : ConnRef}
      (h : st.calls.get id = some (.checking send delivered remote target rest)) :
      Advances st (.resume id (.valid false)) id send delivered rest
  | served {id : ℕ} {send : SendCall} {delivered rest : List ConnRef}
      {remote : JsMap JsString (List ConnRef)} {target : ConnRef}
      (h : st.calls.get id = some (.checking send delivered remote target rest)) :
      Advances st (.resume id (.valid true)) id send
        (st.reached delivered target (st.localEnvelope send)) rest
  | relayed {id : ℕ} {send : SendCall} {delivered conns : List ConnRef}
      {rest : List (JsString × List ConnRef)}
      (h : st.calls.get id = some (.relaying send delivered rest)) :
      Advances st (.resume id (.relayed (.ok conns))) id send (delivered ++ conns) []
  | relayFailed {id : ℕ} {send : SendCall} {delivered : List ConnRef}
      {rest : List (JsString × List ConnRef)} {text : JsString}
      (h : st.calls.get id = some (.relaying send delivered rest)) :
      Advances st (.resume id (.relayed (.error text))) id send delivered []

/-- A call that an attempt leaves, with the targets that were reached and that were left. -/
inductive Continues (st : WebSocketRuntime) (send : SendCall) (delivered targets : List ConnRef) :
    Call → Prop
  | checking {remote : JsMap JsString (List ConnRef)} {target : ConnRef} {rest : List ConnRef}
      (hs : target :: rest <:+ targets) (hn : target.nodeId = st.deps.nodeId)
      (ho : st.Online target.connId) :
      Continues st send delivered targets (.checking send delivered remote target rest)
  | relaying {rest : List (JsString × List ConnRef)} :
      Continues st send delivered targets (.relaying send delivered rest)
  | searching {call : Call} (hd : delivered = []) (hr : send.retry = false)
      (hs : call.Searches { send with retry := true }) : Continues st send delivered targets call

/-- The request is served, not turned away and not taken for a duplicate. -/
def Admits (st : WebSocketRuntime) (request : DeliverRequest) : Prop :=
  st.disposed = false ∧ ¬(st.shuttingDown = true ∧ request.envelope.kind = .biz) ∧
    ((st.recentClusterDeliveryByMsgId.get request.envelope.msgId).filter
      fun duplicateUntil => st.now < duplicateUntil) = none

/-- The event takes a relayed request on: these targets were reached, and these are left. -/
inductive Serves (st : WebSocketRuntime) :
    Event → ℕ → DeliverRequest → ℕ → List ConnRef → List ConnRef → Prop
  | started {request : DeliverRequest} (h : st.Admits request) :
      Serves st (.deliverCluster request) st.nextCall request st.now [] request.targets
  | skipped {id startedAt : ℕ} {request : DeliverRequest} {delivered rest : List ConnRef}
      {target : ConnRef}
      (h : st.calls.get id = some (.delivering request startedAt delivered target rest)) :
      Serves st (.resume id (.valid false)) id request startedAt delivered rest
  | served {id startedAt : ℕ} {request : DeliverRequest} {delivered rest : List ConnRef}
      {target : ConnRef}
      (h : st.calls.get id = some (.delivering request startedAt delivered target rest))
      (he : st.enqueueError target.connId (.envelope request.envelope) = none) :
      Serves st (.resume id (.valid true)) id request startedAt (delivered ++ [target]) rest

/-- A `sys.handleAck` of an authenticated connection meets a pending entry. -/
structure Acknowledges (st : WebSocketRuntime) (connId : JsString) (message : Envelope)
    (ackFor : JsString) (entry : PendingHandleAckEntry) : Prop where
  connected : connId ∈ st.connections
  authenticated : (st.authOf connId).isSome = true
  kind : message.kind = .system
  action : message.action = js "handleAck"
  payload : sysHandleAckPayloadSchema message.payload = some ackFor
  pending : st.pendingHandleAckByMsgId.get ackFor = some entry
  fresh : st.now < entry.expiresAt

/-- Every way in which an event leaves a call that awaits something. -/
inductive Starts (st : WebSocketRuntime) : Event → ℕ → Call → Prop
  | authenticating {connId : JsString} {message : Envelope} (hc : connId ∈ st.connections)
      (hs : st.shuttingDown = false) :
      Starts st (.message connId (some message)) st.nextCall (.authenticating connId message)
  | validating {connId : JsString} {message : Envelope} {auth : AuthContext}
      (hc : connId ∈ st.connections) (hk : message.kind = .biz)
      (hs : st.shuttingDown = false) (ha : st.authOf connId = some auth) :
      Starts st (.message connId (some message)) st.nextCall (.validating connId message auth)
  | forwarding {connId ackFor : JsString} {message : Envelope} {entry : PendingHandleAckEntry}
      (h : st.Acknowledges connId message ackFor entry)
      (hn : entry.senderRef.nodeId ≠ st.deps.nodeId) :
      Starts st (.message connId (some message)) st.nextCall (.forwarding connId message)
  | acking {connId ackFor : JsString} {message : Envelope} {entry : PendingHandleAckEntry}
      (h : st.Acknowledges connId message ackFor entry)
      (hn : entry.senderRef.nodeId = st.deps.nodeId) (ho : st.Online entry.senderRef.connId) :
      Starts st (.message connId (some message)) st.nextCall
        (.acking connId message ackFor entry.senderRef.connId)
  | hooking {id : ℕ} {connId : JsString} {message : Envelope} {auth : AuthContext}
      (h : st.calls.get id = some (.validating connId message auth)) :
      Starts st (.resume id (.validMessage (.ok true))) id (.hooking connId message auth)
  | searching {id : ℕ} {connId : JsString} {message : Envelope} {auth : AuthContext}
      {result : HookResult} {call : Call}
      (h : st.calls.get id = some (.hooking connId message auth))
      (hs : call.Searches (st.startedSend connId message auth result)) :
      Starts st (.resume id (.hooked (.ok result))) id call
  | found {id : ℕ} {send : SendCall} {call call' : Call} (h : st.calls.get id = some call)
      (hs : call.Searches send) (hs' : call'.Searches send) : Starts st (.resume id .found) id call'
  | continuing {e : Event} {id : ℕ} {send : SendCall} {delivered targets : List ConnRef}
      {call : Call} (h : st.Advances e id send delivered targets)
      (hc : st.Continues send delivered targets call) : Starts st e id call
  | delivering {e : Event} {id startedAt : ℕ} {request : DeliverRequest}
      {delivered targets rest : List ConnRef} {target : ConnRef}
      (h : st.Serves e id request startedAt delivered targets) (hs : target :: rest <:+ targets)
      (hn : target.nodeId = st.deps.nodeId) (ho : st.Online target.connId) :
      Starts st e id (.delivering request startedAt delivered target rest)
  | forwarded {request : ForwardRequest} (ho : st.Online request.sender.connId) :
      Starts st (.forwardClusterHandleAck request) st.nextCall (.forwarded request)

/-- Every way in which an event hands over an envelope, an acknowledgement, a report, or a request
to another node. -/
inductive Emitted (st : WebSocketRuntime) : Event → Effect → Prop
  | envelope {id : ℕ} {send : SendCall} {delivered rest : List ConnRef}
      {remote : JsMap JsString (List ConnRef)} {target : ConnRef}
      (h : st.calls.get id = some (.checking send delivered remote target rest)) :
      Emitted st (.resume id (.valid true)) (.enqueued target.connId (st.localEnvelope send))
  | relayed {id startedAt : ℕ} {request : DeliverRequest} {delivered rest : List ConnRef}
      {target : ConnRef}
      (h : st.calls.get id = some (.delivering request startedAt delivered target rest)) :
      Emitted st (.resume id (.valid true))
        (.enqueued target.connId (.envelope request.envelope))
  | route {e : Event} {id : ℕ} {send : SendCall} {delivered targets : List ConnRef}
      (h : st.Advances e id send delivered targets) (hd : delivered ≠ []) :
      Emitted st e (.enqueued send.sender (.route send.peerIds delivered send.envelope.traceId))
  | recvAck {e : Event} {id : ℕ} {send : SendCall} {delivered targets : List ConnRef}
      (h : st.Advances e id send delivered targets) (hd : delivered ≠ []) :
      Emitted st e
        (.enqueued send.sender (.recvAck send.envelope.msgId send.envelope.traceId))
  | localRecvAck {id : ℕ} {connId : JsString} {message : Envelope} {auth : AuthContext}
      {result : HookResult} (h : st.calls.get id = some (.hooking connId message auth)) :
      Emitted st (.resume id (.hooked (.ok result)))
        (.enqueued connId (.recvAck message.msgId message.traceId))
  | localHandleAck {id : ℕ} {connId : JsString} {message : Envelope} {auth : AuthContext}
      {result : HookResult} (h : st.calls.get id = some (.hooking connId message auth))
      (hl : result.handledLocally = true) :
      Emitted st (.resume id (.hooked (.ok result)))
        (.enqueued connId (.handleAck (js "system") message.msgId message.traceId))
  | handleAck {id : ℕ} {connId ackFor sender : JsString} {message : Envelope}
      (h : st.calls.get id = some (.acking connId message ackFor sender)) :
      Emitted st (.resume id (.valid true))
        (.enqueued sender (.handleAck connId ackFor message.traceId))
  | clusterHandleAck {id : ℕ} {request : ForwardRequest}
      (h : st.calls.get id = some (.forwarded request)) :
      Emitted st (.resume id (.valid true)) (.enqueued request.sender.connId
        (.handleAck (js "cluster") request.ackFor request.traceId))
  | deliver {e : Event} {id : ℕ} {send : SendCall} {delivered targets : List ConnRef}
      {nodeId : JsString} {targets' : List ConnRef}
      (h : st.Advances e id send delivered targets) :
      Emitted st e (.deliver id nodeId (send.request targets'))
  | forward {connId ackFor : JsString} {message : Envelope} {entry : PendingHandleAckEntry}
      (h : st.Acknowledges connId message ackFor entry)
      (hn : entry.senderRef.nodeId ≠ st.deps.nodeId) :
      Emitted st (.message connId (some message))
        (.forward st.nextCall ⟨entry.senderRef, ackFor, message.traceId⟩)
  | turnedAway {request : DeliverRequest} :
      Emitted st (.deliverCluster request) (.delivered st.nextCall (.ok []))
  | duplicate {request : DeliverRequest} {duplicateUntil : ℕ}
      (h : st.recentClusterDeliveryByMsgId.get request.envelope.msgId = some duplicateUntil)
      (hf : st.now < duplicateUntil) :
      Emitted st (.deliverCluster request) (.delivered st.nextCall
        (.ok (request.targets.filter fun target => target.nodeId = st.deps.nodeId)))
  | delivered {e : Event} {id startedAt : ℕ} {request : DeliverRequest}
      {delivered targets : List ConnRef}
      (h : st.Serves e id request startedAt delivered targets) :
      Emitted st e (.delivered id (.ok delivered))
  | deliverFailed {id startedAt : ℕ} {request : DeliverRequest} {delivered rest : List ConnRef}
      {target : ConnRef} {error : EgressError}
      (h : st.calls.get id = some (.delivering request startedAt delivered target rest))
      (he : st.enqueueError target.connId (.envelope request.envelope) = some error) :
      Emitted st (.resume id (.valid true)) (.delivered id (.error error))
  | forwarded {e : Event} {id : ℕ} {result : Except EgressError Bool} :
      Emitted st e (.forwarded id result)

/-- Every way in which an event writes a pending acknowledgement. -/
inductive Pends (st : WebSocketRuntime) : Event → JsString → PendingHandleAckEntry → Prop
  | sent {e : Event} {id : ℕ} {send : SendCall} {delivered targets : List ConnRef}
      (h : st.Advances e id send delivered targets) (hd : delivered ≠ [])
      (ha : send.ack ≠ .none) :
      Pends st e send.envelope.msgId ⟨send.senderRef, st.now + st.deps.pendingTtl⟩
  | delivering {id startedAt : ℕ} {request : DeliverRequest} {delivered rest : List ConnRef}
      {target : ConnRef}
      (h : st.calls.get id = some (.delivering request startedAt delivered target rest))
      (ha : request.ack ≠ .none) :
      Pends st (.resume id (.valid true)) request.envelope.msgId
        ⟨request.sender, startedAt + st.deps.pendingTtl⟩

/-- Every way in which an event marks a relayed delivery. -/
inductive Marks (st : WebSocketRuntime) : Event → JsString → ℕ → Prop
  | delivered {e : Event} {id startedAt : ℕ} {request : DeliverRequest}
      {delivered targets : List ConnRef}
      (h : st.Serves e id request startedAt delivered targets) (hd : delivered ≠ []) :
      Marks st e request.envelope.msgId (startedAt + st.deps.recentTtl)

/-- Every way in which an event authenticates a connection. -/
inductive Authenticates (st : WebSocketRuntime) : Event → JsString → AuthContext → Prop
  | finished {id : ℕ} {connId : JsString} {message : Envelope} {auth : AuthContext}
      (h : st.calls.get id = some (.authenticating connId message))
      (hq : st.peerQuotaExceeded connId auth.peerId = false) :
      Authenticates st (.resume id (.authenticated (.ok auth))) connId
        { auth with groupId := st.deps.hostGroupId }

/-- Every way in which an event drops a pending acknowledgement. -/
inductive Settles (st : WebSocketRuntime) : Event → JsString → PendingHandleAckEntry → Prop
  | acknowledged {connId ackFor : JsString} {message : Envelope} {entry : PendingHandleAckEntry}
      (hc : connId ∈ st.connections) (ha : (st.authOf connId).isSome = true)
      (hk : message.kind = .system) (hm : message.action = js "handleAck")
      (hp : sysHandleAckPayloadSchema message.payload = some ackFor) :
      Settles st (.message connId (some message)) ackFor entry
  | forwarded {request : ForwardRequest} {entry : PendingHandleAckEntry} :
      Settles st (.forwardClusterHandleAck request) request.ackFor entry
  | closed {connId msgId : JsString} {entry : PendingHandleAckEntry}
      (hn : entry.senderRef.nodeId = st.deps.nodeId) (hc : entry.senderRef.connId = connId) :
      Settles st (.closeSocket connId) msgId entry
  | disposed {msgId : JsString} {entry : PendingHandleAckEntry} : Settles st .dispose msgId entry
  | expired {e : Event} {msgId : JsString} {entry : PendingHandleAckEntry}
      (h : entry.expiresAt ≤ st.now) : Settles st e msgId entry
  | evicted {e : Event} {msgId msgId' : JsString} {entry entry' : PendingHandleAckEntry}
      (hp : st.Pends e msgId' entry')
      (h : st.deps.pendingCap ≤ st.pendingHandleAckByMsgId.size) : Settles st e msgId entry

/-- The events that change the table of connections, the locator or the flags of the runtime. -/
def Event.Rewires : Event → Bool
  | .openSocket _ => true
  | .closeSocket _ => true
  | .resume _ (.authenticated (.ok _)) => true
  | .beginShutdown => true
  | .dispose => true
  | _ => false

/-- The table of connections, the locator and the flags are the same. -/
structure SameWiring (st s : WebSocketRuntime) : Prop where
  connections : s.connections = st.connections
  peerLocator : s.peerLocator = st.peerLocator
  shuttingDown : s.shuttingDown = st.shuttingDown
  disposed : s.disposed = st.disposed

theorem SameWiring.trans {s s' : WebSocketRuntime} (w : SameWiring st s) (w' : SameWiring s s') :
    SameWiring st s' :=
  ⟨w'.connections.trans w.connections, w'.peerLocator.trans w.peerLocator,
    w'.shuttingDown.trans w.shuttingDown, w'.disposed.trans w.disposed⟩

/-- A state that the handling of an event goes through: what is new in it is listed above, and what
was there stays, unless it is listed that it goes. -/
structure Handles (st : WebSocketRuntime) (e : Event) (s : WebSocketRuntime) : Prop where
  deps : s.deps = st.deps
  now : (∀ ms, e ≠ .advance ms) → s.now = st.now
  nextCall : s.nextCall = st.nextCall + e.opens
  calls : ∀ id call, s.calls.get id = some call → st.calls.get id = some call ∨ st.Starts e id call
  kept : ∀ id, id < st.nextCall → (∀ answer, e ≠ .resume id answer) →
    s.calls.get id = st.calls.get id
  effects : ∀ x ∈ s.effects, x.Plain ∨ st.Emitted e x
  pending : st.pendingHandleAckByMsgId.Moves s.pendingHandleAckByMsgId (st.Pends e) (st.Settles e)
  recent : st.recentClusterDeliveryByMsgId.Moves s.recentClusterDeliveryByMsgId (st.Marks e)
    fun _ until' => e = .dispose ∨ until' ≤ st.now
  auth : ∀ connId, s.authOf connId = st.authOf connId ∨
    ∃ auth, s.authOf connId = some auth ∧ st.Authenticates e connId auth
  opened : ∀ connId, st.objects.has connId = true → s.objects.has connId = true
  shut : ∀ connId, st.isClosed connId = true ∨ Closes connId s.effects → s.isClosed connId = true
  closed : ∀ connId, s.isClosed connId = true → st.isClosed connId = true ∨
    Closes connId s.effects ∨ e = .closeSocket connId ∧ connId ∈ st.connections
  wiring : e.Rewires = false → SameWiring st s

/-- An effect that is listed closes no connection. -/
theorem Emitted.not_close {e : Event} {x : Effect} (h : st.Emitted e x) (connId : JsString)
    (code : ℕ) (reason : JsString) : x ≠ .egress connId (.close code reason) := by
  rintro rfl
  cases h

/-- The id of a new call. -/
theorem Starts.id_cases {e : Event} {id : ℕ} {call : Call} (h : st.Starts e id call) :
    id = st.nextCall ∨ ∃ answer, e = .resume id answer := by
  cases h with
  | authenticating => exact .inl rfl
  | validating => exact .inl rfl
  | forwarding => exact .inl rfl
  | acking => exact .inl rfl
  | forwarded => exact .inl rfl
  | hooking => exact .inr ⟨_, rfl⟩
  | searching => exact .inr ⟨_, rfl⟩
  | found => exact .inr ⟨_, rfl⟩
  | continuing ha => cases ha <;> exact .inr ⟨_, rfl⟩
  | delivering ha =>
    cases ha with
    | started => exact .inl rfl
    | skipped => exact .inr ⟨_, rfl⟩
    | served => exact .inr ⟨_, rfl⟩

namespace Handles

variable {e : Event} {s s' : WebSocketRuntime}

theorem start (h : st.effects = []) :
    Handles st e { st with nextCall := st.nextCall + e.opens } where
  deps := rfl
  now _ := rfl
  nextCall := rfl
  calls _ _ := .inl
  kept _ _ _ := rfl
  effects := by simp [h]
  pending := .refl _
  recent := .refl _
  auth _ := .inl rfl
  opened _ := id
  shut _ hc := hc.elim id fun ⟨_, _, hmem⟩ => by simp [h] at hmem
  closed _ := .inl
  wiring _ := ⟨rfl, rfl, rfl, rfl⟩

theorem keeps (h : Handles st e s) (k : Keeps P s s')
    (hP : ∀ x, P x → x.Plain ∨ st.Emitted e x) : Handles st e s' := by
  obtain ⟨new, hnew, hp, hclosed⟩ := k.effects
  refine
    { deps := k.deps.trans h.deps
      now := fun he => k.now.trans (h.now he)
      nextCall := k.nextCall.trans h.nextCall
      calls := by rw [k.calls]; exact h.calls
      kept := by rw [k.calls]; exact h.kept
      effects := fun x hx => ?_
      pending := by rw [k.pending]; exact h.pending
      recent := by rw [k.recent]; exact h.recent
      auth := by simpa only [k.authOf] using h.auth
      opened := fun connId ho => by rw [k.opened]; exact h.opened connId ho
      shut := fun connId hc => ?_
      closed := fun connId hc => ?_
      wiring := fun he => ?_ }
  · rw [hnew] at hx
    exact (List.mem_append.1 hx).elim (h.effects x) fun hx => hP x (hp x hx)
  · rw [hnew, closes_append, ← or_assoc] at hc
    rw [hclosed]
    exact hc.imp_left (h.shut connId)
  · rw [hnew, closes_append]
    rcases (hclosed connId).1 hc with hold | hnow
    · rcases h.closed connId hold with hst | heff | he
      · exact .inl hst
      · exact .inr (.inl (.inl heff))
      · exact .inr (.inr he)
    · exact .inr (.inl (.inr hnow))
  · exact (h.wiring he).trans ⟨k.connections, k.peerLocator, k.shuttingDown, k.disposed⟩

/-- The connections, the calls and the effects stay; the tables move as is listed. -/
theorem retable (h : Handles st e s) (hdeps : s'.deps = s.deps)
    (hnow : (∀ ms, e ≠ .advance ms) → s'.now = s.now) (hnext : s'.nextCall = s.nextCall)
    (hcalls : s'.calls = s.calls) (hobjects : s'.objects = s.objects)
    (heffects : s'.effects = s.effects)
    (hpending : st.pendingHandleAckByMsgId.Moves s'.pendingHandleAckByMsgId (st.Pends e)
      (st.Settles e))
    (hrecent : st.recentClusterDeliveryByMsgId.Moves s'.recentClusterDeliveryByMsgId (st.Marks e)
      fun _ until' => e = .dispose ∨ until' ≤ st.now)
    (hwiring : e.Rewires = false → SameWiring s s') : Handles st e s' where
  deps := hdeps.trans h.deps
  now he := (hnow he).trans (h.now he)
  nextCall := hnext.trans h.nextCall
  calls := by rw [hcalls]; exact h.calls
  kept := by rw [hcalls]; exact h.kept
  effects := by rw [heffects]; exact h.effects
  pending := hpending
  recent := hrecent
  auth := by simpa only [authOf, hobjects] using h.auth
  opened := by rw [hobjects]; exact h.opened
  shut := by simpa only [isClosed, hobjects, heffects] using h.shut
  closed := by simpa only [isClosed, hobjects, heffects] using h.closed
  wiring he := (h.wiring he).trans (hwiring he)

/-- The pending acknowledgements move as is listed. -/
theorem repend (h : Handles st e s) {pending : JsMap JsString PendingHandleAckEntry}
    (hp : st.pendingHandleAckByMsgId.Moves pending (st.Pends e) (st.Settles e)) :
    Handles st e { s with pendingHandleAckByMsgId := pending } :=
  h.retable rfl (fun _ => rfl) rfl rfl rfl rfl hp h.recent fun _ => ⟨rfl, rfl, rfl, rfl⟩

/-- The calls change, those that the event is not about stay. -/
theorem withCalls (h : Handles st e s) {calls : JsMap ℕ Call}
    (hcalls : ∀ id call, calls.get id = some call → s.calls.get id = some call ∨ st.Starts e id call ∨
      st.calls.get id = some call)
    (hkept : ∀ id, id < st.nextCall → (∀ answer, e ≠ .resume id answer) →
      calls.get id = s.calls.get id) : Handles st e { s with calls } where
  deps := h.deps
  now := h.now
  nextCall := h.nextCall
  calls id call hid := by
    rcases hcalls id call hid with hold | hnew | hfirst
    · exact h.calls id call hold
    · exact .inr hnew
    · exact .inl hfirst
  kept id hlt hne := (hkept id hlt hne).trans (h.kept id hlt hne)
  effects := h.effects
  pending := h.pending
  recent := h.recent
  auth := h.auth
  opened := h.opened
  shut := h.shut
  closed := h.closed
  wiring he := (h.wiring he).trans ⟨rfl, rfl, rfl, rfl⟩

theorem await (h : Handles st e s) {id : ℕ} {call : Call} (hs : st.Starts e id call) :
    Handles st e (s.await id call) := by
  refine h.withCalls (fun id' call' hid => ?_) fun id' hlt hne => ?_
  · rw [JsMap.get_set] at hid
    split_ifs at hid with heq
    · cases hid
      exact .inr (.inl (heq ▸ hs))
    · exact .inl hid
  · refine JsMap.get_set_of_ne _ ?_ _
    rintro rfl
    rcases hs.id_cases with rfl | ⟨answer, he⟩
    · exact Nat.lt_irrefl _ hlt
    · exact hne answer he

/-- A call that was there is awaited again. -/
theorem again {answer : Answer} {id : ℕ} {call : Call} (h : Handles st (.resume id answer) s)
    (hs : st.calls.get id = some call) : Handles st (.resume id answer) (s.await id call) := by
  refine h.withCalls (fun id' call' hid => ?_) fun id' _ hne => ?_
  · rw [JsMap.get_set] at hid
    split_ifs at hid with heq
    · cases hid
      exact .inr (.inr (heq ▸ hs))
    · exact .inl hid
  · refine JsMap.get_set_of_ne _ ?_ _
    rintro rfl
    exact hne answer rfl

theorem emit (h : Handles st e s) {x : Effect} (hx : st.Emitted e x) : Handles st e (s.emit x) := by
  have hcloses (connId : JsString) : Closes connId (s.effects ++ [x]) ↔ Closes connId s.effects := by
    rw [closes_append, or_iff_left]
    rintro ⟨code, reason, hmem⟩
    exact hx.not_close connId code reason (List.mem_singleton.1 hmem).symm
  refine
    { deps := h.deps
      now := h.now
      nextCall := h.nextCall
      calls := h.calls
      kept := h.kept
      effects := fun y hy => ?_
      pending := h.pending
      recent := h.recent
      auth := h.auth
      opened := h.opened
      shut := fun connId hc => h.shut connId (hc.imp_right (hcloses connId).1)
      closed := fun connId hc =>
        (h.closed connId hc).imp_right (Or.imp_left (hcloses connId).2)
      wiring := fun he => ?_ }
  · rcases List.mem_append.1 hy with hy | hy
    · exact h.effects y hy
    · rw [List.mem_singleton.1 hy]
      exact .inr hx
  · exact (h.wiring he).trans ⟨rfl, rfl, rfl, rfl⟩

theorem plain (h : Handles st e s) (k : Keeps Effect.Plain s s') : Handles st e s' :=
  h.keeps k fun _ => .inl

theorem catchError (h : Handles st e s) (connId : JsString) (message : Envelope)
    (thrown : Thrown) : Handles st e (s.catchError connId message thrown) :=
  h.plain ((catchError_keeps connId message thrown).mono fun _ => Effect.Reports.plain)

/-- A message goes to a connection; it is a reply or one of those that are listed. -/
theorem enqueueOrCatch (h : Handles st e s) (connId : JsString) (message : Envelope)
    {target : JsString} {outbound : OutboundMessage}
    (hx : outbound.IsReply ∨ st.Emitted e (.enqueued target outbound)) :
    Handles st e (s.enqueueOrCatch connId message target outbound) := by
  refine h.keeps (enqueueOrCatch_keeps connId message target outbound) ?_
  rintro x (hc | hr)
  · rcases hc.plain_or with hp | rfl
    · exact .inl hp
    · exact hx
  · exact .inl hr.plain

theorem enqueueOutbound (h : Handles st e s) {target : JsString} {outbound : OutboundMessage}
    (hx : outbound.IsReply ∨ st.Emitted e (.enqueued target outbound)) :
    Handles st e (s.enqueueOutbound target outbound).1 := by
  refine h.keeps (enqueueOutbound_keeps target outbound) fun x hc => ?_
  rcases hc.plain_or with hp | rfl
  · exact .inl hp
  · exact hx

/-- An entry is pending from now on, and another one may be evicted for it. -/
theorem setPendingHandleAck (h : Handles st e s)
    (hsame : s.pendingHandleAckByMsgId = st.pendingHandleAckByMsgId) {msgId : JsString}
    {senderRef : ConnRef} {expiresAt : ℕ} (hp : st.Pends e msgId ⟨senderRef, expiresAt⟩) :
    Handles st e (s.setPendingHandleAck msgId senderRef expiresAt) := by
  refine h.repend (JsMap.Moves.set ?_ hp)
  unfold WebSocketRuntime.evicted
  rw [hsame, h.deps]
  by_cases hcap : st.pendingHandleAckByMsgId.has msgId = false ∧
      st.deps.pendingCap ≤ st.pendingHandleAckByMsgId.size
  · rw [if_pos hcap]
    cases st.pendingHandleAckByMsgId.keys.head? with
    | none => exact .refl _
    | some oldest => exact (JsMap.Moves.refl _).delete fun _ _ => .evicted hp hcap.2
  · rw [if_neg hcap]
    exact .refl _

end Handles

/-! ### What the operations do -/

/-- Two states that agree on what the loops read. -/
structure Twin (st s : WebSocketRuntime) : Prop where
  deps : s.deps = st.deps
  now : s.now = st.now
  connections : s.connections = st.connections
  auth : s.authOf = st.authOf

theorem Twin.online {s : WebSocketRuntime} (t : Twin st s) (connId : JsString) :
    s.Online connId ↔ st.Online connId := by
  unfold Online
  rw [t.connections, t.auth]

theorem Keeps.twin {s s' : WebSocketRuntime} (k : Keeps P s s') (t : Twin st s) : Twin st s' :=
  ⟨k.deps.trans t.deps, k.now.trans t.now, k.connections.trans t.connections,
    (funext k.authOf).trans t.auth⟩

section operations

variable {e : Event} {s : WebSocketRuntime} {id : ℕ} {ok : Bool} {auth : AuthContext}
  {result : HookResult} {answer : Answer} {request : DeliverRequest} {connId : JsString}

theorem finishSend_handles (h : Handles st e s) (t : Twin st s)
    (hp : s.pendingHandleAckByMsgId = st.pendingHandleAckByMsgId) {send : SendCall}
    {delivered targets : List ConnRef} (ha : st.Advances e id send delivered targets)
    (hd : delivered ≠ []) : Handles st e (s.finishSend send delivered) := by
  unfold finishSend
  have hpend : Handles st e (if send.ack = .none then s
      else s.setPendingHandleAck send.envelope.msgId send.senderRef
        (s.now + s.deps.pendingTtl)) := by
    split_ifs with hack
    · exact h
    · rw [t.now, t.deps]
      exact h.setPendingHandleAck hp (.sent ha hd hack)
  have hroute := hpend.enqueueOutbound (.inr (.route ha hd))
  dsimp only
  split
  · rename_i st₂ error heq
    rw [heq] at hroute
    exact hroute.catchError _ _ _
  · rename_i st₂ heq
    rw [heq] at hroute
    split_ifs
    · exact hroute.enqueueOrCatch _ _ (.inr (.recvAck ha hd))
    · exact hroute

theorem attemptDone_handles (h : Handles st e s) (t : Twin st s)
    (hp : s.pendingHandleAckByMsgId = st.pendingHandleAckByMsgId) {send : SendCall}
    {delivered targets : List ConnRef} (ha : st.Advances e id send delivered targets) :
    Handles st e (s.attemptDone id send delivered) := by
  rcases @attemptDone_cases s id send delivered with
    ⟨thrown, heq⟩ | ⟨hd, hr, call, hs, heq⟩ | ⟨hd, heq⟩ <;> rw [heq]
  · exact h.catchError _ _ _
  · exact h.await (.continuing ha (.searching hd hr hs))
  · exact finishSend_handles h t hp ha hd

theorem relayNext_handles (h : Handles st e s) (t : Twin st s)
    (hp : s.pendingHandleAckByMsgId = st.pendingHandleAckByMsgId) {send : SendCall}
    {delivered targets : List ConnRef} (ha : st.Advances e id send delivered targets)
    (nodes : List (JsString × List ConnRef)) :
    Handles st e (s.relayNext id send delivered nodes) := by
  rcases @relayNext_cases s id send delivered nodes with
    ⟨nodeId, targets', rest, heq⟩ | heq <;> rw [heq]
  · exact (h.await (.continuing ha .relaying)).emit (.deliver ha)
  · exact attemptDone_handles h t hp ha

theorem serveTargets_handles (h : Handles st e s) (t : Twin st s)
    (hp : s.pendingHandleAckByMsgId = st.pendingHandleAckByMsgId) {send : SendCall}
    {delivered targets : List ConnRef} (ha : st.Advances e id send delivered targets)
    (remote : JsMap JsString (List ConnRef)) :
    Handles st e (s.serveTargets id send delivered remote targets) := by
  rcases @serveTargets_cases s id send delivered remote targets with
    ⟨remote', target, rest, hs, hn, ho, heq⟩ | ⟨nodes, heq⟩ <;> rw [heq]
  · exact h.await (.continuing ha (.checking hs (hn.trans (by rw [t.deps])) ((t.online _).1 ho)))
  · exact relayNext_handles h t hp ha nodes

theorem deliverNext_handles (h : Handles st e s) (t : Twin st s) {request : DeliverRequest}
    {startedAt : ℕ} {delivered targets : List ConnRef}
    (hs : st.Serves e id request startedAt delivered targets) :
    Handles st e (s.deliverNext id request startedAt delivered targets) := by
  rcases @deliverNext_cases s id request startedAt delivered targets with
    ⟨target, rest, hsuf, hn, ho, heq⟩ | heq <;> rw [heq]
  · exact h.await (.delivering hs hsuf (hn.trans (by rw [t.deps])) ((t.online _).1 ho))
  · rw [deliverNext]
    refine Handles.emit ?_ (.delivered hs)
    split_ifs with hd
    · exact h
    · refine h.retable rfl (fun _ => rfl) rfl rfl rfl rfl h.pending (h.recent.set ?_)
        fun _ => ⟨rfl, rfl, rfl, rfl⟩
      rw [t.deps]
      exact .delivered hs hd

/-- The taking of the answer leaves a twin. -/
theorem taken_twin (id : ℕ) : Twin st { st with calls := st.calls.delete id } :=
  ⟨rfl, rfl, rfl, rfl⟩

theorem taken_handles (h : Handles st (.resume id answer) st) :
    Handles st (.resume id answer) { st with calls := st.calls.delete id } := by
  refine h.withCalls (fun _ _ hid => .inl (JsMap.get_of_get_delete hid).2) fun id' _ hne =>
    JsMap.get_delete_of_ne _ ?_
  rintro rfl
  exact hne answer rfl

theorem enqueueError_twin {s : WebSocketRuntime} (ho : s.objects = st.objects)
    (hd : s.deps = st.deps) (connId : JsString) (message : OutboundMessage) :
    s.enqueueError connId message = st.enqueueError connId message := by
  unfold enqueueError
  rw [ho, hd]

theorem serveTarget_handles (h : Handles st (.resume id (.valid ok)) s) (t : Twin st s)
    (hp : s.pendingHandleAckByMsgId = st.pendingHandleAckByMsgId)
    (hobj : s.objects = st.objects) {send : SendCall} {delivered rest : List ConnRef}
    {remote : JsMap JsString (List ConnRef)} {target : ConnRef}
    (hc : st.calls.get id = some (.checking send delivered remote target rest)) :
    Handles st (.resume id (.valid ok)) (s.serveTarget id send delivered remote target rest ok) := by
  have hsource : s.sourceOf send = st.sourceOf send := by unfold sourceOf; rw [t.auth]
  have herr := enqueueError_twin hobj t.deps target.connId (st.localEnvelope send)
  unfold serveTarget
  cases ok with
  | false => exact serveTargets_handles h t hp (.skipped hc) remote
  | true =>
    simp only [if_true, hsource]
    have hsent := h.enqueueOutbound (.inr (.envelope hc))
    have hkeeps := @enqueueOutbound_keeps s target.connId (st.localEnvelope send)
    have htwin := hkeeps.twin t
    have hpend := hkeeps.pending.trans hp
    have hadv := Advances.served hc
    have hres := @enqueueOutbound_error s target.connId (st.localEnvelope send)
    unfold reached at hadv
    rw [← herr, ← hres] at hadv
    unfold localEnvelope at hsent htwin hpend hadv
    split
    · rename_i s₁ heq
      rw [heq] at hsent htwin hpend hadv
      exact serveTargets_handles hsent htwin hpend hadv remote
    · rename_i s₁ error heq
      rw [heq] at hsent htwin hpend hadv
      exact serveTargets_handles hsent htwin hpend hadv remote

theorem deliverTarget_handles (h : Handles st (.resume id (.valid ok)) s) (t : Twin st s)
    (hp : s.pendingHandleAckByMsgId = st.pendingHandleAckByMsgId)
    (hobj : s.objects = st.objects) {request : DeliverRequest} {startedAt : ℕ}
    {delivered rest : List ConnRef} {target : ConnRef}
    (hc : st.calls.get id = some (.delivering request startedAt delivered target rest)) :
    Handles st (.resume id (.valid ok))
      (s.deliverTarget id request startedAt delivered target rest ok) := by
  unfold deliverTarget
  cases ok with
  | false => exact deliverNext_handles h t (.skipped hc)
  | true =>
    simp only [if_true]
    generalize hs₁ : (if request.ack = .none then s
      else s.setPendingHandleAck request.envelope.msgId request.sender
        (startedAt + s.deps.pendingTtl)) = s₁
    -- the acknowledgement is awaited from before the message is enqueued
    have hpend : Handles st (.resume id (.valid true)) s₁ ∧ Twin st s₁ ∧
        s₁.objects = st.objects := by
      rw [← hs₁]
      split_ifs with hack
      · exact ⟨h, t, hobj⟩
      · refine ⟨?_, ⟨t.deps, t.now, t.connections, t.auth⟩, hobj⟩
        rw [t.deps]
        exact h.setPendingHandleAck hp (.delivering hc hack)
    obtain ⟨h₁, t₁, hobj₁⟩ := hpend
    have herr := enqueueError_twin hobj₁ t₁.deps target.connId (.envelope request.envelope)
    have hres := @enqueueOutbound_error s₁ target.connId (.envelope request.envelope)
    have hsent := h₁.enqueueOutbound (.inr (.relayed hc))
    have htwin := (@enqueueOutbound_keeps s₁ target.connId (.envelope request.envelope)).twin t₁
    rw [herr] at hres
    split
    · rename_i s₂ heq
      rw [heq] at hsent htwin hres
      exact deliverNext_handles hsent htwin (.served hc hres.symm)
    · rename_i s₂ error heq
      rw [heq] at hsent hres
      exact hsent.emit (.deliverFailed hc hres.symm)

theorem authOf_modify {connId connId' : JsString} {f : ConnectionState → ConnectionState} :
    (st.modify connId f).authOf connId' =
      if connId' = connId then (st.objects.get connId).bind fun connection => (f connection).auth
      else st.authOf connId' := by
  unfold authOf
  rw [get_modify]
  split_ifs
  · rw [Option.bind_map]
    rfl
  · rfl

/-- A change of a connection, with what it makes of the context. -/
theorem Handles.modify (h : Handles st e s) {connId : JsString}
    {f : ConnectionState → ConnectionState}
    (ha : ∀ connection, s.objects.get connId = some connection →
      (f connection).auth = s.authOf connId ∨
      ∃ auth, (f connection).auth = some auth ∧ st.Authenticates e connId auth)
    (he : ∀ connection, (f connection).egress.closed = connection.egress.closed) :
    Handles st e (s.modify connId f) := by
  have hclosed (connId' : JsString) : (s.modify connId f).isClosed connId' = s.isClosed connId' := by
    rw [isClosed_modify]
    split_ifs with heq
    · rw [heq]
      exact congrArg (fun p => (s.objects.get connId).any p) (funext he)
    · rfl
  -- the context of the connection is the old one, or one that the event has granted
  have hauth (connId' : JsString) : (s.modify connId f).authOf connId' = st.authOf connId' ∨
      ∃ auth, (s.modify connId f).authOf connId' = some auth ∧ st.Authenticates e connId' auth := by
    rw [authOf_modify]
    split_ifs with heq
    · subst heq
      cases hget : s.objects.get connId' with
      | none =>
        have hnone : s.authOf connId' = none := by simp [authOf, hget]
        rw [show Option.bind none _ = (none : Option AuthContext) from rfl, ← hnone]
        exact h.auth connId'
      | some connection =>
        rcases ha connection hget with hsame | hnew
        · rw [show Option.bind (some connection) _ = (f connection).auth from rfl, hsame]
          exact h.auth connId'
        · exact .inr hnew
    · exact h.auth connId'
  have hopened (connId' : JsString) : (s.modify connId f).objects.has connId' =
      s.objects.has connId' := by
    unfold JsMap.has
    rw [get_modify]
    split_ifs with heq
    · rw [heq, Option.isSome_map]
    · rfl
  obtain ⟨objects, hobjects⟩ : ∃ objects, s.modify connId f = { s with objects } := by
    unfold WebSocketRuntime.modify
    split <;> exact ⟨_, rfl⟩
  rw [hobjects] at hclosed hauth hopened ⊢
  exact
    { h with
      auth := hauth
      opened := fun connId' ho => (hopened connId').trans (h.opened connId' ho)
      shut := fun connId' hc => (hclosed connId').trans (h.shut connId' hc)
      closed := fun connId' hc => h.closed connId' ((hclosed connId').symm.trans hc)
      wiring := fun he => (h.wiring he).trans ⟨rfl, rfl, rfl, rfl⟩ }

theorem finishAuth_handles (h : Handles st (.resume id (.authenticated (.ok auth))) s)
    (hloc : s.peerLocator = st.peerLocator) (hdeps : s.deps = st.deps) {connId : JsString}
    {message : Envelope} (hc : st.calls.get id = some (.authenticating connId message)) :
    Handles st (.resume id (.authenticated (.ok auth))) (s.finishAuth connId message auth) := by
  have hquota : s.peerQuotaExceeded connId auth.peerId =
      st.peerQuotaExceeded connId auth.peerId := by
    unfold peerQuotaExceeded
    rw [hloc, hdeps]
  unfold finishAuth
  split_ifs with hq
  · exact h.catchError _ _ _
  · rw [hquota, Bool.not_eq_true] at hq
    refine Handles.enqueueOrCatch ?_ _ _ (.inl trivial)
    have hmod := @Handles.modify _ _ _ h connId (fun connection =>
      { connection with auth := some { auth with groupId := s.deps.hostGroupId } })
      (fun connection _ => .inr ⟨_, rfl, by rw [hdeps]; exact .finished hc hq⟩) fun _ => rfl
    exact hmod.retable rfl (fun _ => rfl) rfl rfl rfl rfl hmod.pending hmod.recent (by simp [Event.Rewires])

theorem afterHooks_handles (h : Handles st (.resume id (.hooked (.ok result))) s) (t : Twin st s)
    {connId : JsString} {message : Envelope} {auth : AuthContext}
    (hc : st.calls.get id = some (.hooking connId message auth)) :
    Handles st (.resume id (.hooked (.ok result))) (s.afterHooks id connId message auth result) := by
  unfold afterHooks
  split_ifs with hp hl
  · unfold acknowledgeLocally
    by_cases ha : result.localAck.getD .handle = .none
    · rw [if_pos ha]
      exact h
    · rw [if_neg ha]
      have hsent := h.enqueueOutbound (.inr (.localRecvAck hc))
      split
      · rename_i s₁ error heq
        rw [heq] at hsent
        exact hsent.catchError _ _ _
      · rename_i s₁ heq
        rw [heq] at hsent
        split_ifs
        · exact hsent.enqueueOrCatch _ _ (.inr (.localHandleAck hc hl))
        · exact hsent
  · exact h.catchError _ _ _
  · have hsend : s.startedSend connId message auth result =
        st.startedSend connId message auth result := by
      unfold startedSend
      rw [t.deps, t.auth]
    obtain ⟨call, hs, heq⟩ := @findNext_cases s id (s.startedSend connId message auth result)
      ((s.authOf connId).bind (·.groupId)) [] result.peerIds.eraseDups
    rw [show s.sendToPeerIds id connId message auth _ _ _ = s.await id call from heq]
    rw [hsend] at hs
    exact h.await (.searching hc hs)

/-- A call goes on. -/
theorem answer_handles (h : Handles st (.resume id answer) s) (t : Twin st s)
    (hp : s.pendingHandleAckByMsgId = st.pendingHandleAckByMsgId) (hobj : s.objects = st.objects) (hloc : s.peerLocator = st.peerLocator) {call : Call}
    (hc : st.calls.get id = some call) : Handles st (.resume id answer) (s.answer id call answer) := by
  unfold WebSocketRuntime.answer
  split
  · split
    · exact finishAuth_handles h hloc t.deps hc
    · exact h.catchError _ _ _
  · split
    · exact h.await (.hooking hc)
    · exact h.catchError _ _ _
    · exact h.catchError _ _ _
  · split
    · exact afterHooks_handles h t hc
    · exact h.catchError _ _ _
  · rename_i send groupId located rest
    obtain ⟨call', hs, heq⟩ := @findNext_cases s id send groupId located rest
    rw [heq]
    exact h.await (.found hc rfl hs)
  · exact serveTargets_handles h t hp (.located hc) _
  · exact serveTarget_handles h t hp hobj hc
  · split
    · exact relayNext_handles h t hp (.relayed hc) _
    · exact relayNext_handles h t hp (.relayFailed hc) _
  · split
    · exact h
    · exact h.catchError _ _ _
  · split_ifs with hok
    · subst hok
      exact h.enqueueOrCatch _ _ (.inr (.handleAck hc))
    · exact h.catchError _ _ _
  · exact deliverTarget_handles h t hp hobj hc
  · rename_i request ok
    unfold finishForward
    cases ok with
    | false => exact h.emit .forwarded
    | true =>
      have hsent := h.enqueueOutbound (.inr (.clusterHandleAck hc))
      simp only [if_true]
      split
      · rename_i s₁ heq
        rw [heq] at hsent
        exact hsent.emit .forwarded
      · rename_i s₁ error heq
        rw [heq] at hsent
        exact hsent.emit .forwarded
  · exact h.again hc

/-- The action `handleAck`, on a state that differs from the first one in the times of the
connection only. -/
theorem startHandleAck_handles {connId : JsString} {message : Envelope}
    (h : Handles st (.message connId (some message)) s) (t : Twin st s)
    (hpend : s.pendingHandleAckByMsgId = st.pendingHandleAckByMsgId)
    (hconn : connId ∈ st.connections) (hkind : message.kind = .system)
    (haction : message.action = js "handleAck") :
    Handles st (.message connId (some message)) (s.startHandleAck st.nextCall connId message) := by
  unfold startHandleAck
  split_ifs with hauth
  · exact h.catchError _ _ _
  · split
    · exact h.catchError _ _ _
    · rename_i ackFor hpayload
      have hsome : (st.authOf connId).isSome = true := by
        rw [← t.auth]
        exact Option.isSome_iff_ne_none.2 hauth
      -- the entry goes before anything is sent
      have hdel : Handles st (.message connId (some message)) (s.deletePendingHandleAck ackFor) :=
        h.repend (h.pending.delete fun _ _ => .acknowledged hconn hsome hkind haction hpayload)
      dsimp only
      split
      · exact hdel.catchError _ _ _
      · rename_i entry hentry
        obtain ⟨hget, hfresh⟩ := Option.filter_eq_some_iff.1 hentry
        have hack : st.Acknowledges connId message ackFor entry :=
          ⟨hconn, hsome, hkind, haction, hpayload, by rw [← hpend]; exact hget,
            by rw [← t.now]; simpa using hfresh⟩
        have hnode : (s.deletePendingHandleAck ackFor).deps.nodeId = st.deps.nodeId :=
          congrArg WebSocketRuntimeDeps.nodeId t.deps
        unfold forwardAck
        rw [hnode]
        -- the sender is here, or on another node
        by_cases hn : entry.senderRef.nodeId = st.deps.nodeId
        · rw [if_neg (not_not.2 hn)]
          split_ifs with ho
          · have hon : st.Online entry.senderRef.connId :=
              (Twin.online ⟨t.deps, t.now, t.connections, t.auth⟩ _).1 (online_iff.1 ho)
            exact hdel.await (.acking hack hn hon)
          · exact hdel.catchError _ _ _
        · rw [if_pos hn]
          split_ifs
          · exact (hdel.await (.forwarding hack hn)).emit (.forward hack hn)
          · exact hdel.catchError _ _ _

theorem mem_of_connection {connId : JsString} {connection : ConnectionState}
    (h : st.connection connId = some connection) :
    connId ∈ st.connections ∧ st.objects.get connId = some connection := by
  unfold WebSocketRuntime.connection at h
  split_ifs at h with hc
  exact ⟨hc, h⟩

/-- The keeping of the times of a connection. -/
theorem Handles.touch (h : Handles st e s) {connId : JsString}
    {f : ConnectionState → ConnectionState}
    (hf : ∀ connection, (f connection).auth = connection.auth)
    (he : ∀ connection, (f connection).egress = connection.egress) :
    Handles st e (s.modify connId f) := h.plain (modify_keeps hf he)

theorem handleSystemMessage_handles {connId : JsString} {message : Envelope}
    (h : Handles st (.message connId (some message)) s) (t : Twin st s)
    (hpend : s.pendingHandleAckByMsgId = st.pendingHandleAckByMsgId)
    (hshut : s.shuttingDown = st.shuttingDown) (hconn : connId ∈ st.connections)
    (hkind : message.kind = .system) :
    Handles st (.message connId (some message))
      (s.handleSystemMessage st.nextCall connId message) := by
  unfold handleSystemMessage
  split_ifs with _ _ _ haction
  · unfold startAuth
    split_ifs with hs
    · exact h.catchError _ _ _
    · split
      · exact h.catchError _ _ _
      · exact h.await (.authenticating hconn (by rw [← hshut]; simpa using hs))
  · unfold handlePing
    split
    · exact h.catchError _ _ _
    · refine Handles.enqueueOrCatch ?_ _ _ (.inl trivial)
      exact h.touch (fun _ => rfl) fun _ => rfl
  · unfold handlePong
    split
    · exact h.catchError _ _ _
    · exact h.touch (fun _ => rfl) fun _ => rfl
  · exact startHandleAck_handles h t hpend hconn hkind haction
  · exact h.catchError _ _ _

theorem startBusinessMessage_handles {connId : JsString} {message : Envelope}
    (h : Handles st (.message connId (some message)) s) (t : Twin st s)
    (hshut : s.shuttingDown = st.shuttingDown) (hconn : connId ∈ st.connections)
    (hkind : message.kind = .biz) :
    Handles st (.message connId (some message))
      (s.startBusinessMessage st.nextCall connId message) := by
  unfold startBusinessMessage
  split_ifs with hs
  · exact h.catchError _ _ _
  · split
    · exact h.catchError _ _ _
    · rename_i auth hauth
      rw [t.auth] at hauth
      exact h.await (.validating hconn hkind (by rw [← hshut]; simpa using hs) hauth)

theorem message_handles {connId : JsString} {envelope : Option Envelope}
    (h : Handles st (.message connId envelope) s) (t : Twin st s)
    (hpend : s.pendingHandleAckByMsgId = st.pendingHandleAckByMsgId)
    (hshut : s.shuttingDown = st.shuttingDown) :
    Handles st (.message connId envelope) (s.message st.nextCall connId envelope) := by
  have hclose {s₁ : WebSocketRuntime} (h₁ : Handles st (.message connId envelope) s₁) (code : ℕ)
      (reason : JsString) : Handles st (.message connId envelope)
        (s₁.closeConnection connId code reason) :=
    h₁.plain ((closeConnection_keeps connId code reason).mono fun _ => Effect.Reports.plain)
  have hsend {s₁ : WebSocketRuntime} (h₁ : Handles st (.message connId envelope) s₁)
      (message : OutboundMessage) : Handles st (.message connId envelope)
        (s₁.socketSend connId message) :=
    h₁.plain ((socketSend_keeps connId message).mono fun _ => Effect.Reports.plain)
  unfold WebSocketRuntime.message
  split
  · exact h
  · rename_i connection hget
    have hconn : connId ∈ st.connections := t.connections ▸ (mem_of_connection hget).1
    dsimp only
    split_ifs
    · refine hclose (hsend ?_ _) _ _
      exact h.touch (fun _ => rfl) fun _ => rfl
    · have hk : Keeps Effect.Plain s (s.modify connId fun c => { c with
          lastSeenAt := s.now
          messageTimestamps := s.recentMessages connection ++ [s.now] }) :=
        modify_keeps (fun _ => rfl) fun _ => rfl
      split
      · refine hclose (hsend ?_ _) _ _
        exact h.plain hk
      · rename_i message
        generalize (s.modify connId fun c => { c with
          lastSeenAt := s.now
          messageTimestamps := s.recentMessages connection ++ [s.now] }) = s₁ at hk
        have h₁ := h.plain hk
        have t₁ := hk.twin t
        split
        · exact handleSystemMessage_handles h₁ t₁ (hk.pending.trans hpend)
            (hk.shuttingDown.trans hshut) hconn ‹_›
        · exact startBusinessMessage_handles h₁ t₁ (hk.shuttingDown.trans hshut) hconn ‹_›

theorem pruned_moves (h : s.pendingHandleAckByMsgId = st.pendingHandleAckByMsgId)
    (hnow : s.now = st.now) : st.pendingHandleAckByMsgId.Moves
      s.prunePendingHandleAcks.pendingHandleAckByMsgId (st.Pends e) (st.Settles e) := by
  show st.pendingHandleAckByMsgId.Moves
    (s.pendingHandleAckByMsgId.filter fun _ entry => s.now < entry.expiresAt) _ _
  rw [h, hnow]
  exact .filter fun _ entry _ hfresh => .expired (by simpa using hfresh)

/-- Both tables lose what has expired. -/
theorem prune_handles (h : Handles st e s)
    (hpend : s.pendingHandleAckByMsgId = st.pendingHandleAckByMsgId)
    (hrecent : s.recentClusterDeliveryByMsgId = st.recentClusterDeliveryByMsgId)
    (hnow : s.now = st.now) :
    Handles st e s.prunePendingHandleAcks.pruneRecentClusterDeliveries := by
  refine h.retable rfl (fun _ => rfl) rfl rfl rfl rfl (pruned_moves hpend hnow) ?_
    fun _ => ⟨rfl, rfl, rfl, rfl⟩
  show st.recentClusterDeliveryByMsgId.Moves
    (s.recentClusterDeliveryByMsgId.filter fun _ until' => s.now < until') _ _
  rw [hrecent, hnow]
  exact .filter fun _ until' _ hfresh => .inr (by simpa using hfresh)

theorem deliverCluster_handles (h : Handles st (.deliverCluster request) s) (t : Twin st s)
    (hpend : s.pendingHandleAckByMsgId = st.pendingHandleAckByMsgId)
    (hrecent : s.recentClusterDeliveryByMsgId = st.recentClusterDeliveryByMsgId)
    (hshut : s.shuttingDown = st.shuttingDown) (hdisp : s.disposed = st.disposed) :
    Handles st (.deliverCluster request) (s.deliverCluster st.nextCall request) := by
  unfold WebSocketRuntime.deliverCluster
  split_ifs with hd hs
  · exact h.emit .turnedAway
  · exact h.emit .turnedAway
  · have hprune : Handles st (.deliverCluster request)
        s.prunePendingHandleAcks.pruneRecentClusterDeliveries :=
      prune_handles h hpend hrecent t.now
    have htwin : Twin st s.prunePendingHandleAcks.pruneRecentClusterDeliveries :=
      ⟨t.deps, t.now, t.connections, t.auth⟩
    have hget (v : ℕ) : (s.prunePendingHandleAcks.pruneRecentClusterDeliveries
        ).recentClusterDeliveryByMsgId.get request.envelope.msgId = some v ↔
          st.recentClusterDeliveryByMsgId.get request.envelope.msgId = some v ∧ st.now < v := by
      rw [← hrecent, ← t.now]
      exact JsMap.get_filter.trans (and_congr_right fun _ => by simp; rfl)
    dsimp only
    split
    · rename_i duplicateUntil heq
      obtain ⟨hv, -⟩ := Option.filter_eq_some_iff.1 heq
      rw [t.deps]
      exact hprune.emit (.duplicate ((hget _).1 hv).1 ((hget _).1 hv).2)
    · rename_i heq
      rw [t.now]
      refine deliverNext_handles hprune htwin (.started ⟨by rw [← hdisp]; simpa using hd,
        by rw [← hshut]; exact hs, ?_⟩)
      rw [Option.filter_eq_none_iff] at heq ⊢
      intro v hv hlt
      rw [decide_eq_true_eq] at hlt
      exact heq v ((hget v).2 ⟨hv, hlt⟩) (by rw [t.now]; simpa using hlt)

theorem forwardClusterHandleAck_handles {request : ForwardRequest}
    (h : Handles st (.forwardClusterHandleAck request) s) (t : Twin st s) :
    Handles st (.forwardClusterHandleAck request)
      (s.forwardClusterHandleAck st.nextCall request) := by
  have hdel : Handles st (.forwardClusterHandleAck request)
      (s.deletePendingHandleAck request.ackFor) :=
    h.repend (h.pending.delete fun _ _ => .forwarded)
  unfold WebSocketRuntime.forwardClusterHandleAck
  dsimp only
  split_ifs with ho
  · exact hdel.await (.forwarded ((Twin.online ⟨t.deps, t.now, t.connections, t.auth⟩ _).1
      (online_iff.1 ho)))
  · exact hdel.emit .forwarded

/-- A connection that was not there is opened. -/
theorem opened_handles (h : Handles st (.openSocket connId) st)
    (hnone : st.objects.has connId = false) (connection : ConnectionState)
    (ha : connection.auth = none) (hc : connection.egress.closed = false)
    (connections : List JsString) :
    Handles st (.openSocket connId)
      { st with objects := st.objects.set connId connection, connections } := by
  have hget : st.objects.get connId = none := by simpa [JsMap.has] using hnone
  -- the new connection is as open as one that is not there
  have hclosed (connId' : JsString) : isClosed { st with
      objects := st.objects.set connId connection, connections } connId' = st.isClosed connId' := by
    unfold isClosed
    dsimp only
    rw [JsMap.get_set]
    split_ifs with heq
    · rw [heq, hget]
      exact hc
    · rfl
  exact
    { h with
      auth := fun connId' => .inl (by
        unfold authOf
        dsimp only
        rw [JsMap.get_set]
        split_ifs with heq
        · rw [heq, hget]
          exact ha
        · rfl)
      opened := fun connId' ho => by
        unfold JsMap.has at ho ⊢
        dsimp only
        rw [JsMap.get_set]
        split_ifs
        · rfl
        · exact ho
      shut := fun connId' hs => (hclosed connId').trans (h.shut connId' hs)
      closed := fun connId' hs => h.closed connId' ((hclosed connId').symm.trans hs)
      wiring := by simp [Event.Rewires] }

theorem openSocket_handles (h : Handles st (.openSocket connId) st) :
    Handles st (.openSocket connId) (st.openSocket connId) := by
  have hclose {s : WebSocketRuntime} (hs : Handles st (.openSocket connId) s) (code : ℕ)
      (reason : JsString) : Handles st (.openSocket connId) (s.emit (.close connId code reason)) :=
    hs.plain (emit_keeps trivial (by simp))
  unfold openSocket
  split_ifs with hopened
  · exact h
  · exact hclose h _ _
  · exact hclose h _ _
  · refine hclose (h.plain ?_) _ _
    exact (socketSend_keeps connId _).mono fun _ => Effect.Reports.plain
  · exact opened_handles h (by simpa using hopened) _ rfl rfl _

/-- The connection of a socket that closed is closed. -/
theorem shut_handles (h : Handles st (.closeSocket connId) st) (hc : connId ∈ st.connections) :
    Handles st (.closeSocket connId) (st.modify connId fun connection =>
      { connection with
        egress := { connection.egress with closed := true, drainTimer := false } }) := by
  have hframe := @frame_modify st connId (fun connection =>
    { connection with
      egress := { connection.egress with closed := true, drainTimer := false } }) fun _ => rfl
  have hclosed (connId' : JsString) := @isClosed_modify st connId connId' fun connection =>
    { connection with egress := { connection.egress with closed := true, drainTimer := false } }
  have heffects := @effects_modify st connId fun connection =>
    { connection with egress := { connection.egress with closed := true, drainTimer := false } }
  generalize st.modify connId _ = s at hframe hclosed heffects ⊢
  have hauth := congrArg Frame.auth hframe
  have hopened := congrArg Frame.opened hframe
  refine
    { deps := congrArg Frame.deps hframe
      now := fun _ => congrArg Frame.now hframe
      nextCall := (congrArg Frame.nextCall hframe).trans h.nextCall
      calls := by rw [show s.calls = st.calls from congrArg Frame.calls hframe]; exact h.calls
      kept := by rw [show s.calls = st.calls from congrArg Frame.calls hframe]; exact h.kept
      effects := by rw [heffects]; exact h.effects
      pending := by
        rw [show s.pendingHandleAckByMsgId = st.pendingHandleAckByMsgId from
          congrArg Frame.pendingHandleAckByMsgId hframe]
        exact h.pending
      recent := by
        rw [show s.recentClusterDeliveryByMsgId = st.recentClusterDeliveryByMsgId from
          congrArg Frame.recentClusterDeliveryByMsgId hframe]
        exact h.recent
      auth := fun connId' => .inl (congrFun hauth connId')
      opened := fun connId' ho => (congrFun hopened connId').trans ho
      shut := fun connId' hs => ?_
      closed := fun connId' hs => ?_
      wiring := by simp [Event.Rewires] }
  · rw [heffects] at hs
    have hst := h.shut connId' hs
    rw [hclosed]
    split_ifs with heq
    · subst heq
      unfold isClosed at hst
      cases hget : st.objects.get connId' with
      | none => rw [hget] at hst; cases hst
      | some connection => rfl
    · exact hst
  · rw [hclosed] at hs
    split_ifs at hs with heq
    · exact .inr (.inr ⟨by rw [heq], heq ▸ hc⟩)
    · exact .inl hs

theorem closeSocket_handles (h : Handles st (.closeSocket connId) st) :
    Handles st (.closeSocket connId) (st.closeSocket connId) := by
  unfold WebSocketRuntime.closeSocket
  dsimp only
  generalize hs : (if connId ∈ st.connections then
    st.modify connId fun connection => { connection with
      egress := { connection.egress with closed := true, drainTimer := false } } else st) = s
  have hmod : Handles st (.closeSocket connId) s ∧
      s.pendingHandleAckByMsgId = st.pendingHandleAckByMsgId := by
    rw [← hs]
    split_ifs with hc
    · refine ⟨shut_handles h hc, ?_⟩
      unfold WebSocketRuntime.modify
      split <;> rfl
    · exact ⟨h, rfl⟩
  obtain ⟨hmod, hpend⟩ := hmod
  refine hmod.retable rfl (fun _ => rfl) rfl rfl rfl rfl ?_ hmod.recent (by simp [Event.Rewires])
  show st.pendingHandleAckByMsgId.Moves (s.pendingHandleAckByMsgId.filter fun _ entry =>
    ¬(entry.senderRef.nodeId = st.deps.nodeId ∧ entry.senderRef.connId = connId)) _ _
  rw [hpend]
  refine .filter fun _ entry _ hmine => ?_
  have hboth : entry.senderRef.nodeId = st.deps.nodeId ∧ entry.senderRef.connId = connId := by
    simpa using hmine
  exact .closed hboth.1 hboth.2

/-- An operation on every connection of a list. -/
theorem foldl_keeps {f : WebSocketRuntime → JsString → WebSocketRuntime}
    (hf : ∀ s connId, Keeps P s (f s connId)) (connIds : List JsString) :
    ∀ s, Keeps P s (connIds.foldl f s) := by
  induction connIds with
  | nil => exact Keeps.refl
  | cons connId connIds ih => exact fun s => (hf s connId).trans (ih _)

theorem forceClose_keeps (code : ℕ) (reason : JsString) (connIds : List JsString)
    (s : WebSocketRuntime) : Keeps Effect.Plain s
      (connIds.foldl (fun s connId => s.closeConnection connId code reason) s) :=
  foldl_keeps (fun _ connId =>
    (closeConnection_keeps connId code reason).mono fun _ => Effect.Reports.plain) connIds s

theorem beginShutdown_handles (h : Handles st .beginShutdown st) :
    Handles st .beginShutdown st.beginShutdown := by
  unfold WebSocketRuntime.beginShutdown
  dsimp only
  split_ifs
  · exact h
  · refine Handles.plain ?_ (forceClose_keeps ..)
    exact h.retable rfl (fun _ => rfl) rfl rfl rfl rfl h.pending h.recent (by simp [Event.Rewires])
  · exact h.retable rfl (fun _ => rfl) rfl rfl rfl rfl h.pending h.recent (by simp [Event.Rewires])

theorem shutdownTimerFired_handles (h : Handles st e st) :
    Handles st e st.shutdownTimerFired := by
  unfold shutdownTimerFired
  split_ifs
  · refine Handles.plain ?_ (forceClose_keeps ..)
    exact h.retable rfl (fun _ => rfl) rfl rfl rfl rfl h.pending h.recent fun _ =>
      ⟨rfl, rfl, rfl, rfl⟩
  · exact h

theorem dispose_handles (h : Handles st .dispose st) : Handles st .dispose st.dispose := by
  unfold WebSocketRuntime.dispose
  split_ifs
  · exact h
  · exact (h.plain (forceClose_keeps 1001 (js "runtime disposed") st.connections st)).retable rfl
      (fun _ => rfl) rfl rfl rfl rfl (.empty fun _ _ _ => .disposed)
      (.empty fun _ _ _ => .inl rfl) (by simp [Event.Rewires])

theorem heartbeat_keeps (connId : JsString) : Keeps Effect.Plain st (st.heartbeat connId) := by
  unfold heartbeat
  split
  · exact Keeps.refl st
  · split_ifs
    · exact (closeConnection_keeps connId _ _).mono fun _ => Effect.Reports.plain
    · refine (modify_keeps ?_ ?_).trans ((enqueueOutbound_keeps connId .ping).mono ?_)
      · exact fun _ => rfl
      · exact fun _ => rfl
      · intro x hx
        rcases hx.plain_or with hp | rfl
        · exact hp
        · trivial
    · exact Keeps.refl st

theorem tickHeartbeat_handles (h : Handles st e st) : Handles st e st.tickHeartbeat := by
  have hprune : Handles st e st.prunePendingHandleAcks := h.repend (pruned_moves rfl rfl)
  exact hprune.plain (foldl_keeps (fun _ connId => heartbeat_keeps connId) _ _)

theorem queueEvent_keeps (connId : JsString) (event : Outbox.Event OutboundMessage) :
    Keeps Effect.Plain st (st.queueEvent connId event) := by
  unfold queueEvent
  cases hc : st.objects.get connId with
  | none => exact Keeps.refl st
  | some connection => exact modifyEgress_keeps hc (Outbox.step_shuts event) fun _ _ => trivial

end operations

theorem authenticates_cleared {e : Event} {connId : JsString} {auth : AuthContext}
    (h : st.cleared.Authenticates e connId auth) : st.Authenticates e connId auth := by
  obtain ⟨hcall, hquota⟩ := h
  exact .finished hcall hquota

/-- **An event does nothing but what is listed.** -/
theorem step_handles (st : WebSocketRuntime) (e : Event) : Handles st.cleared e (st.step e) := by
  have h : Handles st.cleared e { st.cleared with nextCall := st.cleared.nextCall + e.opens } :=
    .start rfl
  cases e with
  | advance ms =>
    exact h.retable rfl (fun hne => absurd rfl (hne ms)) rfl rfl rfl rfl h.pending h.recent
      fun _ => ⟨rfl, rfl, rfl, rfl⟩
  | openSocket connId => exact openSocket_handles h
  | message connId envelope => exact message_handles h ⟨rfl, rfl, rfl, rfl⟩ rfl rfl
  | closeSocket connId => exact closeSocket_handles h
  | resume id answer =>
    show Handles st.cleared _ (st.cleared.resume id answer)
    unfold resume
    cases hc : st.cleared.calls.get id with
    | none => exact h
    | some call => exact answer_handles (taken_handles h) (taken_twin id) rfl rfl rfl hc
  | drain connId => exact h.plain (queueEvent_keeps connId _)
  | drainTimer connId => exact h.plain (queueEvent_keeps connId _)
  | heartbeat =>
    show Handles st.cleared _ (if st.cleared.disposed then _ else _)
    split_ifs
    · exact h
    · exact tickHeartbeat_handles h
  | beginShutdown => exact beginShutdown_handles h
  | shutdownTimer => exact shutdownTimerFired_handles h
  | dispose => exact dispose_handles h
  | deliverCluster request => exact deliverCluster_handles h ⟨rfl, rfl, rfl, rfl⟩ rfl rfl rfl rfl
  | forwardClusterHandleAck request =>
    exact forwardClusterHandleAck_handles h ⟨rfl, rfl, rfl, rfl⟩

/-! ### What is certainly emitted -/

/-- What was emitted stays emitted. -/
def Grows (s s' : WebSocketRuntime) : Prop := s.effects ⊆ s'.effects

theorem Keeps.grows (k : Keeps P st st') : Grows st st' := by
  obtain ⟨new, hnew, -⟩ := k.effects
  intro x hx
  rw [hnew]
  exact List.mem_append_left _ hx

theorem Grows.trans (h : Grows st st') (h' : Grows st' st'') : Grows st st'' :=
  fun _ hx => h' (h hx)

theorem grows_emit (x : Effect) : Grows st (st.emit x) := fun _ hx => List.mem_append_left _ hx

theorem finishSend_grows (send : SendCall) (delivered : List ConnRef) :
    Grows st (st.finishSend send delivered) := by
  unfold finishSend
  generalize hs : (if send.ack = .none then st
    else st.setPendingHandleAck send.envelope.msgId send.senderRef
      (st.now + st.deps.pendingTtl)) = s
  have hgrows : Grows st s := by
    rw [← hs]
    split_ifs <;> exact fun _ hx => hx
  have hroute := (@enqueueOutbound_keeps s send.sender
    (.route send.peerIds delivered send.envelope.traceId)).grows
  dsimp only
  split
  · rename_i s' error heq
    rw [heq] at hroute
    exact (hgrows.trans hroute).trans (catchError_keeps ..).grows
  · rename_i s' heq
    rw [heq] at hroute
    split_ifs
    · exact (hgrows.trans hroute).trans (enqueueOrCatch_keeps ..).grows
    · exact hgrows.trans hroute

theorem relayNext_grows (id : ℕ) (send : SendCall) (delivered : List ConnRef)
    (nodes : List (JsString × List ConnRef)) :
    Grows st (st.relayNext id send delivered nodes) := by
  rcases @relayNext_cases st id send delivered nodes with ⟨nodeId, targets, rest, heq⟩ | heq <;>
    rw [heq]
  · exact grows_emit _
  · rcases @attemptDone_cases st id send delivered with
      ⟨thrown, heq⟩ | ⟨-, -, call, -, heq⟩ | ⟨-, heq⟩ <;> rw [heq]
    · exact (catchError_keeps ..).grows
    · exact fun _ hx => hx
    · exact finishSend_grows send delivered

theorem serveTargets_grows (id : ℕ) (send : SendCall) (delivered : List ConnRef)
    (remote : JsMap JsString (List ConnRef)) (targets : List ConnRef) :
    Grows st (st.serveTargets id send delivered remote targets) := by
  rcases @serveTargets_cases st id send delivered remote targets with
    ⟨remote', target, rest, -, -, -, heq⟩ | ⟨nodes, heq⟩ <;> rw [heq]
  · exact fun _ hx => hx
  · exact relayNext_grows id send delivered nodes

theorem deliverNext_grows (id : ℕ) (request : DeliverRequest) (startedAt : ℕ)
    (delivered targets : List ConnRef) :
    Grows st (st.deliverNext id request startedAt delivered targets) := by
  rcases @deliverNext_cases st id request startedAt delivered targets with
    ⟨target, rest, -, -, -, heq⟩ | heq <;> rw [heq]
  · exact fun _ hx => hx
  · rw [deliverNext]
    refine Grows.trans ?_ (grows_emit _)
    split_ifs <;> exact fun _ hx => hx

theorem has_of_authOf {connId : JsString} (h : (st.authOf connId).isSome = true) :
    st.objects.has connId = true := by
  unfold authOf at h
  unfold JsMap.has
  cases hc : st.objects.get connId with
  | none => rw [hc] at h; cases h
  | some connection => rfl

/-- A message for an open connection that was opened is queued, unless it fails. -/
theorem mem_enqueueOutbound {connId : JsString} {message : OutboundMessage}
    (ho : st.objects.has connId = true) (hc : st.isClosed connId = false)
    (he : st.enqueueError connId message = none) :
    .enqueued connId message ∈ (st.enqueueOutbound connId message).1.effects := by
  rcases enqueueOutbound_cases ho message with ⟨hclosed, -⟩ | ⟨-, error, herr, -⟩ | ⟨-, -, hmem⟩
  · rw [hc] at hclosed
    cases hclosed
  · rw [enqueueOutbound_error, he] at herr
    cases herr
  · exact hmem

theorem mem_serveTarget {id : ℕ} {send : SendCall} {delivered rest : List ConnRef}
    {remote : JsMap JsString (List ConnRef)} {target : ConnRef}
    (ho : st.objects.has target.connId = true) (hc : st.isClosed target.connId = false)
    (he : st.enqueueError target.connId (st.localEnvelope send) = none) :
    .enqueued target.connId (st.localEnvelope send) ∈
      (st.serveTarget id send delivered remote target rest true).effects := by
  have hmem := mem_enqueueOutbound ho hc he
  unfold serveTarget
  rw [if_pos rfl]
  split
  · rename_i s heq
    have hs : _ = s := congrArg Prod.fst heq
    exact serveTargets_grows id send _ remote rest (hs ▸ hmem)
  · rename_i s error heq
    have hs : _ = s := congrArg Prod.fst heq
    exact serveTargets_grows id send _ remote rest (hs ▸ hmem)

theorem mem_deliverTarget {id startedAt : ℕ} {request : DeliverRequest}
    {delivered rest : List ConnRef} {target : ConnRef}
    (ho : st.objects.has target.connId = true) (hc : st.isClosed target.connId = false)
    (he : st.enqueueError target.connId (.envelope request.envelope) = none) :
    .enqueued target.connId (.envelope request.envelope) ∈
      (st.deliverTarget id request startedAt delivered target rest true).effects := by
  unfold deliverTarget
  simp only [if_true]
  generalize hs : (if request.ack = .none then st
    else st.setPendingHandleAck request.envelope.msgId request.sender
      (startedAt + st.deps.pendingTtl)) = s
  have hobj : s.objects = st.objects ∧ s.deps = st.deps := by
    rw [← hs]
    split_ifs <;> exact ⟨rfl, rfl⟩
  have hmem : .enqueued target.connId (.envelope request.envelope) ∈
      (s.enqueueOutbound target.connId (.envelope request.envelope)).1.effects := by
    refine mem_enqueueOutbound ?_ ?_ ?_
    · rw [hobj.1]
      exact ho
    · rw [isClosed, hobj.1]
      exact hc
    · rw [enqueueError_twin hobj.1 hobj.2]
      exact he
  split
  · rename_i s' heq
    have hs' : _ = s' := congrArg Prod.fst heq
    exact deliverNext_grows id request startedAt _ rest (hs' ▸ hmem)
  · rename_i s' error heq
    have hs' : _ = s' := congrArg Prod.fst heq
    exact grows_emit _ (hs' ▸ hmem)

theorem step_resume {id : ℕ} {call : Call} (h : st.calls.get id = some call) (answer : Answer) :
    st.step (.resume id answer) =
      ({ st.cleared with calls := st.calls.delete id } : WebSocketRuntime).answer id call answer := by
  show st.cleared.resume id answer = _
  unfold resume
  rw [show st.cleared.calls.get id = some call from h]
  rfl

/-- A request that is served starts its loop on the pruned tables. -/
theorem deliverCluster_of_admits {request : DeliverRequest} (h : st.Admits request) (id : ℕ) :
    st.deliverCluster id request =
      st.prunePendingHandleAcks.pruneRecentClusterDeliveries.deliverNext id request st.now []
        request.targets := by
  obtain ⟨hd, hs, hfresh⟩ := h
  have hnone : (st.prunePendingHandleAcks.pruneRecentClusterDeliveries
      |>.recentClusterDeliveryByMsgId.get request.envelope.msgId).filter
        (fun duplicateUntil => st.now < duplicateUntil) = none := by
    rw [Option.filter_eq_none_iff] at hfresh ⊢
    exact fun v hv => hfresh v (JsMap.get_filter.1 hv).1
  unfold WebSocketRuntime.deliverCluster
  rw [if_neg (by simp [hd]), if_neg hs]
  dsimp only
  rw [hnone]

/-- A local target that is open and does not fail gets the envelope. -/
theorem enqueued_of_checking {id : ℕ} {send : SendCall} {delivered rest : List ConnRef}
    {remote : JsMap JsString (List ConnRef)} {target : ConnRef}
    (h : st.calls.get id = some (.checking send delivered remote target rest))
    (ha : (st.authOf target.connId).isSome = true) (hc : st.isClosed target.connId = false)
    (he : st.enqueueError target.connId (st.localEnvelope send) = none) :
    .enqueued target.connId (st.localEnvelope send) ∈
      (st.step (.resume id (.valid true))).effects := by
  rw [step_resume h]
  exact @mem_serveTarget { st.cleared with calls := st.calls.delete id } id send delivered rest
    remote target (has_of_authOf ha) hc he

/-- A target of a relayed request that is open and does not fail gets the envelope. -/
theorem enqueued_of_delivering {id startedAt : ℕ} {request : DeliverRequest}
    {delivered rest : List ConnRef} {target : ConnRef}
    (h : st.calls.get id = some (.delivering request startedAt delivered target rest))
    (ha : (st.authOf target.connId).isSome = true) (hc : st.isClosed target.connId = false)
    (he : st.enqueueError target.connId (.envelope request.envelope) = none) :
    .enqueued target.connId (.envelope request.envelope) ∈
      (st.step (.resume id (.valid true))).effects := by
  rw [step_resume h]
  exact @mem_deliverTarget { st.cleared with calls := st.calls.delete id } id startedAt request
    delivered rest target (has_of_authOf ha) hc he

/-- A new call has the id of one that was taken, or the next one. -/
theorem Starts.fresh {e : Event} {id : ℕ} {call : Call} (h : st.Starts e id call) :
    (∃ call', st.calls.get id = some call') ∨ (id = st.nextCall ∧ e.opens = 1) := by
  cases h with
  | authenticating => exact .inr ⟨rfl, rfl⟩
  | validating => exact .inr ⟨rfl, rfl⟩
  | forwarding => exact .inr ⟨rfl, rfl⟩
  | acking => exact .inr ⟨rfl, rfl⟩
  | forwarded => exact .inr ⟨rfl, rfl⟩
  | hooking hcall => exact .inl ⟨_, hcall⟩
  | searching hcall => exact .inl ⟨_, hcall⟩
  | found hcall => exact .inl ⟨_, hcall⟩
  | continuing ha =>
    cases ha with
    | located hcall => exact .inl ⟨_, hcall⟩
    | skipped hcall => exact .inl ⟨_, hcall⟩
    | served hcall => exact .inl ⟨_, hcall⟩
    | relayed hcall => exact .inl ⟨_, hcall⟩
    | relayFailed hcall => exact .inl ⟨_, hcall⟩
  | delivering ha =>
    cases ha with
    | started => exact .inr ⟨rfl, rfl⟩
    | skipped hcall => exact .inl ⟨_, hcall⟩
    | served hcall => exact .inl ⟨_, hcall⟩

/-- The ids of the calls were given out. -/
def Numbered (st : WebSocketRuntime) : Prop :=
  ∀ id call, st.calls.get id = some call → id < st.nextCall

theorem numbered_create (deps : WebSocketRuntimeDeps) : (create deps).Numbered :=
  fun id call h => by cases h

theorem fresh_nextCall (h : st.Numbered) : st.calls.get st.nextCall = none := by
  cases hget : st.calls.get st.nextCall with
  | none => rfl
  | some call => exact absurd (h _ _ hget) (Nat.lt_irrefl _)

theorem numbered_step (h : st.Numbered) (e : Event) : (st.step e).Numbered := by
  intro id call hid
  have hstep := step_handles st e
  rw [hstep.nextCall]
  rcases hstep.calls id call hid with hold | hnew
  · exact Nat.lt_add_right _ (h id call hold)
  · rcases hnew.fresh with ⟨call', hold⟩ | ⟨rfl, hopens⟩
    · exact Nat.lt_add_right _ (h id call' hold)
    · rw [hopens]
      exact Nat.lt_succ_self _

end WebSocketRuntime

end Hardess

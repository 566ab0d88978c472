import Hardess.Cluster.ControlHttp
import Hardess.Cluster.NetworkEffects

/-!
# The two transports

`deliver` and `forwardHandleAck` of `src/runtime/cluster/network.ts`, under the transport `ws` and
under the transport `http`, between two nodes on a network that works.

* `Link`: the calling node, the node that is called, and the ends of the channel between them;
* `Link.exchange`: a request goes over the channel and is answered, on the machines of both nodes;
* `Link.post`: it goes to the endpoint instead;
* `Reply.Agree`: two calls resolve with the same value or both reject, and record the same kinds of
  health evidence;
* **`transports_agree_iff`**: when the two transports agree.
-/

namespace Hardess

open ClusterNetwork

/-- `shouldFallbackToHttp`. -/
def shouldFallbackToHttp (message : JsString) : Bool :=
  js "Cluster outbound queue overflow" <:+: message ||
    js "Cluster socket is closed" <:+: message ||
    js "Cluster socket connect timed out" <:+: message ||
    js "Cluster channel closed:" <:+: message

/-- What a call does, and how it ends, if it does; a delivery resolves with connections. -/
structure Reply where
  effects : List ClusterEffect
  outcome : Option (Except JsString (Option (List ConnRef)))

/-- Two nodes, and the two ends of the channel between them. -/
structure Link where
  client : ClusterNetwork
  server : ClusterNetwork
  nodeId : JsString
  near : SocketId
  far : SocketId

namespace Link

variable (link : Link) (handlers : ClusterServerHandlers)

/-! ### The channel -/

/-- A frame arrives on a socket. -/
def received (raw : JsString) : SocketId → Event
  | .inbound n => .messageServerSocket n raw
  | .outbound n => .socketMessage n raw

/-- A socket is gone. -/
def gone : SocketId → Event
  | .inbound n => .closeServerSocket n
  | .outbound n => .socketClosed n

/-- The frames that the last event sent on a socket. -/
def frames (st : ClusterNetwork) (socket : SocketId) : List ClusterSocketMessage :=
  st.effects.filterMap fun
    | .send s message => if s = socket then some message else none
    | _ => none

/-- The requests that the last event gave to a handler. -/
def handed (st : ClusterNetwork) : List ClusterRequest :=
  st.effects.filterMap fun
    | .handlerCall _ request => some request
    | _ => none

/-- What the node that is called sends back for a frame. -/
def answers (raw : JsString) : List ClusterSocketMessage :=
  let server := link.server.step (received raw link.far)
  frames server link.far ++ (handed server).flatMap fun request =>
    frames (server.step (.handlerSettled link.server.handling.length (handlers.call request)))
      link.far

/-- The calling node once the request is sent. -/
def sent (request : ClusterRequest) (ref : JsString) (ts : JsNumber) : ClusterNetwork :=
  (link.client.step (.ensureChannel link.nodeId (.request request))).step
    (.resume link.client.resumable.length ref ts)

/-- What the calling node does with the frames that come back; a socket that it closes is gone. -/
def hear (near : SocketId) : ClusterNetwork → List ClusterSocketMessage → List ClusterEffect
  | _, [] => []
  | st, message :: rest =>
    let st' := st.step (received message.toJson.stringify near)
    st'.effects ++
      if st'.readyState near = .open then hear near st' rest else (st'.step (gone near)).effects

/-- A request goes over the channel: what the calling node does about it. -/
def exchange (request : ClusterRequest) (ref : JsString) (ts : JsNumber) : List ClusterEffect :=
  let client := link.sent request ref ts
  hear link.near client
    ((frames client link.near).flatMap fun message =>
      link.answers handlers message.toJson.stringify)

/-- How the request of this id ended. -/
def settlement (ref : JsString) (effects : List ClusterEffect) :
    Option (Except JsString HandlerResult) :=
  effects.findSome? fun
    | .resolve r result => if r = ref then some (.ok result) else none
    | .reject r message => if r = ref then some (.error message) else none
    | _ => none

/-! ### The endpoint -/

/-- The value that a call resolves with, when it is answered over the channel. -/
def valueOf : HandlerResult → Option (List ConnRef)
  | .delivered conns => some conns
  | _ => none

/-- The response of the endpoint of the other node. -/
def response (request : ClusterRequest) : HttpResponse :=
  controlEndpoint link.server.options.sharedSecret
    (link.client.options.sharedSecret.filter (· ≠ [])) request.schema handlers
    request.body.stringify

/-- What is read of the body of a response. -/
def readBody (body : JsString) : ClusterRequest → Except JsString (Option (List ConnRef))
  | .deliver .. =>
    match (Json.parse body).bind fun value => clusterDeliverResponseSchema (some value) with
    | some conns => .ok (some conns)
    | none => .error (js "Invalid cluster deliver response")
  | .handleAck .. => .ok none

/-- A request goes to the endpoint of the other node. -/
def post (request : ClusterRequest) : Reply :=
  match link.client.peersByNodeId.get link.nodeId with
  | none => ⟨[], some (.error (js "Unknown cluster peer: " ++ link.nodeId))⟩
  | some peer =>
    match httpRequest link.client peer.nodeId request.path (link.response handlers request) with
    | (effects, .error message) => ⟨effects, some (.error message)⟩
    | (effects, .ok body) => ⟨effects, some (readBody body request)⟩

/-! ### The calls -/

/-- `ClusterTransport`. -/
inductive Transport
  | http
  | ws

/-- `deliver` and `forwardHandleAck`. -/
def call (request : ClusterRequest) (ref : JsString) (ts : JsNumber) : Transport → Reply
  | .http => link.post handlers request
  | .ws =>
    let effects := link.exchange handlers request ref ts
    match settlement ref effects with
    | some (.ok result) => ⟨effects, some (.ok (valueOf result))⟩
    | some (.error message) =>
      if shouldFallbackToHttp message then
        let reply := link.post handlers request
        ⟨effects ++ reply.effects, reply.outcome⟩
      else ⟨effects, some (.error message)⟩
    | none => ⟨effects, none⟩

/-- The channel is up and authenticated on both sides, the other node is a peer with the same
secret, and it has its handlers. -/
structure Works : Prop where
  channel : link.client.channelsByNodeId.get link.nodeId = some link.near
  open_near : link.client.readyState link.near = .open
  bound_near : link.client.nodeIdBySocket.get link.near = some link.nodeId
  named : link.nodeId ≠ []
  known : ∃ peer, link.client.peersByNodeId.get link.nodeId = some peer ∧
    peer.nodeId = link.nodeId
  dialled : ∀ n, link.near = .outbound n → n < link.client.nextOutbound ∧
    ∀ attempt, link.client.attempts.get link.near = some attempt → attempt.settled = true
  open_far : link.server.readyState link.far = .open
  bound_far : ∃ nodeId, link.server.nodeIdBySocket.get link.far = some nodeId ∧ nodeId ≠ []
  handlers : link.server.serverHandlers = true
  secret : link.server.options.sharedSecret = link.client.options.sharedSecret

end Link

/-- The kinds of evidence about a node, in order. -/
def evidence (nodeId : JsString) (effects : List ClusterEffect) : List ReportedStatus :=
  effects.filterMap fun
    | .markAlive n _ => if n = nodeId then some .alive else none
    | .markSuspect n _ => if n = nodeId then some .suspect else none
    | _ => none

/-- The two calls resolve with the same value or both do not, and record the same kinds of evidence
about a node. -/
structure Reply.Agree (nodeId : JsString) (a b : Reply) : Prop where
  value : ∀ value, a.outcome = some (.ok value) ↔ b.outcome = some (.ok value)
  kinds : ∀ status, status ∈ evidence nodeId a.effects ↔ status ∈ evidence nodeId b.effects

/-- The answer of the handler is one that both transports pass on in the same way. -/
def ClusterRequest.Matched (handlers : ClusterServerHandlers) (request : ClusterRequest) : Prop :=
  match handlers.call request.received with
  | .delivered conns => ¬request.Aimless ↔ ∀ c ∈ conns, c.Named
  | .forwarded ok => ok = true
  | .failed _ => True

namespace Link

variable {link : Link} {handlers : ClusterServerHandlers} {request : ClusterRequest}
  {ref : JsString} {ts : JsNumber}

/-! ### Over HTTP -/

theorem authorized (hl : link.Works) :
    ¬((link.server.options.sharedSecret.filter (· ≠ [])).isSome = true ∧
      link.client.options.sharedSecret.filter (· ≠ []) ≠ link.server.options.sharedSecret) := by
  rw [hl.secret]
  cases link.client.options.sharedSecret with
  | none => simp
  | some secret => by_cases hs : secret = [] <;> simp [hs]

theorem response_of_aimless (hl : link.Works) (h : request.WellFormed) (haimless : request.Aimless) :
    link.response handlers request = .failed 400 := by
  rw [response, controlEndpoint, if_neg (authorized hl), ClusterRequest.parse_body_of_aimless h haimless]

theorem response_eq (hl : link.Works) (h : request.WellFormed) (haimless : ¬request.Aimless) :
    link.response handlers request = match handlers.call request.received with
      | .delivered conns => .ok (Json.obj [(js "ok", .bool true),
          (js "deliveredConns", .arr (conns.map ConnRef.toJson))]).stringify
      | .forwarded forwarded =>
        .ok (Json.obj [(js "ok", .bool true), (js "forwarded", .bool forwarded)]).stringify
      | .failed _ => .failed 400 := by
  cases hcall : handlers.call request.received <;>
    simp only [response, controlEndpoint, if_neg (authorized hl),
      ClusterRequest.parse_body h haimless, hcall]

/-- A refused request is evidence against the peer. -/
theorem post_failed (hl : link.Works) {status : ℕ}
    (h : link.response handlers request = .failed status) :
    evidence link.nodeId (link.post handlers request).effects = [.suspect, .suspect] ∧
      ∀ value, (link.post handlers request).outcome ≠ some (.ok value) := by
  obtain ⟨peer, hpeer, hpeerId⟩ := hl.known
  unfold post
  rw [hpeer, h]
  simp [httpRequest, step, handle, cleared, evidence, hpeerId]

/-- An answered request is evidence for the peer. -/
theorem post_ok (hl : link.Works) {body : JsString}
    (h : link.response handlers request = .ok body) :
    evidence link.nodeId (link.post handlers request).effects = [.alive] ∧
      (link.post handlers request).outcome = some (readBody body request) := by
  obtain ⟨peer, hpeer, hpeerId⟩ := hl.known
  unfold post
  rw [hpeer, h]
  simp [httpRequest, step, handle, cleared, evidence, hpeerId]

/-! ### Over the channel -/

theorem readyState_notePeerAlive (st : ClusterNetwork) (nodeId detail : JsString)
    (c : ClusterEffect) (socket : SocketId) :
    ((st.notePeerAlive nodeId detail).emit c).readyState socket = st.readyState socket :=
  @readyState_of_tables st _ (tables_notePeerAlive nodeId detail) socket

theorem readyState_notePeerSuspect (st : ClusterNetwork) (nodeId detail : JsString)
    (c : ClusterEffect) (socket : SocketId) :
    ((st.notePeerSuspect nodeId detail).emit c).readyState socket = st.readyState socket :=
  @readyState_of_tables st _ (tables_notePeerSuspect nodeId detail) socket

theorem step_received {st : ClusterNetwork} {socket : SocketId} (h : st.readyState socket = .open)
    (raw : JsString) : st.step (received raw socket) = st.cleared.handleIncomingMessage socket raw := by
  cases socket <;> exact if_pos h

/-- The calling node has sent the request, and waits for its result. -/
theorem sent_eq (hl : link.Works) (hfresh : link.client.pendingRequests.has ref = false) :
    link.sent request ref ts = { link.client with
      pendingRequests := link.client.pendingRequests.set ref ⟨link.nodeId, link.near, request.type⟩
      effects := [.send link.near (request.withRef ref)] } := by
  have hensure : link.client.step (.ensureChannel link.nodeId (.request request)) =
      { link.client with
        effects := []
        resumable := link.client.resumable ++ [(⟨link.nodeId, .request request⟩, .ok link.near)] } := by
    show link.client.cleared.ensureChannel _ _ = _
    unfold ensureChannel
    have hopen : link.client.cleared.readyState link.near ≠ .closed := by
      show link.client.readyState link.near ≠ .closed
      rw [hl.open_near]
      exact ReadyState.noConfusion
    rw [show link.client.cleared.channelsByNodeId.get link.nodeId = some link.near from hl.channel,
      Option.filter_some, if_pos (decide_eq_true hopen)]
    rfl
  rw [sent, hensure]
  show ClusterNetwork.resume _ _ _ _ = _
  unfold resume
  simp only [cleared, List.getElem?_concat_length, hfresh, Bool.false_eq_true, if_false,
    List.eraseIdx_append_of_length_le le_rfl, Nat.sub_self, List.eraseIdx_cons_zero,
    List.append_nil]
  rfl

/-- The frame of a well-formed request is understood. -/
theorem parse_request (h : request.WellFormed) (href : ref ≠ []) :
    parseClusterSocketMessage (request.withRef ref).toJson.stringify =
      some (request.received.withRef ref) := by
  have hwf : ∀ p, (request.withRef ref).payload = some p → p.WF := by
    cases request with
    | deliver => exact h.2.2.1
    | handleAck => exact fun _ hp => by cases hp
  have hvalid : (request.withRef ref).Valid := by
    cases request with
    | deliver => exact ⟨href, h.1, h.2.1, h.2.2.2⟩
    | handleAck => exact ⟨href, h⟩
  rw [ClusterSocketMessage.parse_stringify_eq (ClusterSocketMessage.wf_toJson hwf),
    (ClusterSocketMessage.schema_toJson _ _).2 ⟨hvalid, rfl⟩]
  cases request <;> rfl

/-- The frame that carries the result of a request. -/
def resultFrame (ref : JsString) (request : ClusterRequest) : HandlerResult → ClusterSocketMessage
  | .delivered conns => .deliverResult ref conns none
  | .forwarded ok => .handleAckResult ref ok none
  | .failed message =>
    match request with
    | .deliver .. => .deliverResult ref [] (some message)
    | .handleAck .. => .handleAckResult ref false (some message)

/-- The other node calls its handler, and answers with the result. -/
theorem answers_eq (hl : link.Works) (h : request.WellFormed) (href : ref ≠ []) :
    link.answers handlers (request.withRef ref).toJson.stringify =
      [resultFrame ref request (handlers.call request.received)] := by
  obtain ⟨nodeId, hbound, hnamed⟩ := hl.bound_far
  have hserver : link.server.step (received (request.withRef ref).toJson.stringify link.far) =
      link.server.cleared.callHandler link.far ref request.received := by
    rw [step_received hl.open_far, handleIncomingMessage_of_parse (parse_request h href),
      handleMessage_of_not_handshake (by cases request <;> rfl)]
    rw [show link.server.cleared.nodeIdBySocket.get link.far = some nodeId from hbound,
      Option.getD_some, if_neg hnamed]
    cases request <;> exact if_pos hl.handlers
  have hsettled : (link.server.cleared.callHandler link.far ref request.received).step
      (.handlerSettled link.server.handling.length (handlers.call request.received)) =
      { link.server with
        effects := [.send link.far (resultFrame ref request (handlers.call request.received))] } := by
    show ClusterNetwork.handlerSettled _ _ _ = _
    unfold handlerSettled
    simp only [callHandler, cleared, List.getElem?_concat_length,
      List.eraseIdx_append_of_length_le le_rfl, Nat.sub_self, List.eraseIdx_cons_zero,
      List.append_nil]
    cases handlers.call request.received with
    | failed message => cases request <;> rfl
    | _ => rfl
  unfold answers
  simp only [hserver]
  have hhanded : handed (link.server.cleared.callHandler link.far ref request.received) =
      [request.received] := rfl
  have hframes : frames (link.server.cleared.callHandler link.far ref request.received) link.far =
      [] := rfl
  rw [hhanded, hframes, List.flatMap_singleton, hsettled]
  simp [frames]

/-- The exchange is what the calling node does with the frame of the result. -/
theorem exchange_eq (hl : link.Works) (h : request.WellFormed) (href : ref ≠ [])
    (hfresh : link.client.pendingRequests.has ref = false) :
    link.exchange handlers request ref ts = hear link.near (link.sent request ref ts)
      [resultFrame ref request (handlers.call request.received)] := by
  have hframes : frames (link.sent request ref ts) link.near = [request.withRef ref] := by
    rw [sent_eq hl hfresh]
    simp [frames]
  rw [exchange, hframes, List.flatMap_singleton, answers_eq hl h href]

/-- The request of this id waits for the answer of a node on an open channel. -/
structure Awaits (st : ClusterNetwork) (nodeId : JsString) (near : SocketId) (ref : JsString) :
    Prop where
  is_open : st.readyState near = .open
  bound : st.nodeIdBySocket.get near = some nodeId
  named : nodeId ≠ []
  pending : ∃ pending, st.pendingRequests.get ref = some pending ∧ pending.nodeId = nodeId
  dialled : ∀ n, near = .outbound n → n < st.nextOutbound ∧
    ∀ attempt, st.attempts.get near = some attempt → attempt.settled = true

theorem awaits_sent (hl : link.Works) (hfresh : link.client.pendingRequests.has ref = false) :
    Awaits (link.sent request ref ts) link.nodeId link.near ref := by
  rw [sent_eq hl hfresh]
  exact ⟨hl.open_near, hl.bound_near, hl.named, ⟨_, JsMap.get_set_self _ _ _, rfl⟩, hl.dialled⟩

section hear

variable {st : ClusterNetwork} {nodeId : JsString} {near : SocketId}
  {message : ClusterSocketMessage}

/-- A frame that is understood. -/
theorem hear_understood (h : Awaits st nodeId near ref) {message' : ClusterSocketMessage}
    (hparse : parseClusterSocketMessage message.toJson.stringify = some message')
    (hplain : isHandshake message' = false)
    (hopen : (st.cleared.handleChannelMessage near nodeId message').readyState near = .open) :
    hear near st [message] = (st.cleared.handleChannelMessage near nodeId message').effects := by
  have hstep : st.step (received message.toJson.stringify near) =
      st.cleared.handleChannelMessage near nodeId message' := by
    rw [step_received h.is_open, handleIncomingMessage_of_parse hparse,
      handleMessage_of_not_handshake hplain,
      show st.cleared.nodeIdBySocket.get near = some nodeId from h.bound, Option.getD_some,
      if_neg h.named]
  simp only [hear]
  rw [hstep, if_pos hopen, List.append_nil]

/-- The result of a delivery. -/
theorem hear_deliverResult (h : Awaits st nodeId near ref) {conns : List ConnRef}
    {error : Option JsString} (hparse : parseClusterSocketMessage message.toJson.stringify =
      some (.deliverResult ref conns error)) :
    hear near st [message] =
      match error.filter (· ≠ []) with
      | some text => [.markSuspect nodeId (js "deliver_error:" ++ text), .reject ref text]
      | none => [.markAlive nodeId (js "deliver_result"), .resolve ref (.delivered conns)] := by
  obtain ⟨pending, hpending, rfl⟩ := h.pending
  have hpending' : st.cleared.pendingRequests.get ref = some pending := hpending
  rw [hear_understood h hparse rfl] <;> simp only [handleChannelMessage, hpending'] <;>
    cases error.filter (· ≠ [])
  · simp [cleared, settlePending]
  · simp [cleared, settlePending]
  · exact (readyState_notePeerAlive _ _ _ _ _).trans h.is_open
  · exact (readyState_notePeerSuspect _ _ _ _ _).trans h.is_open

/-- The result of an acknowledgement. -/
theorem hear_handleAckResult (h : Awaits st nodeId near ref) {ok : Bool}
    {error : Option JsString} (hparse : parseClusterSocketMessage message.toJson.stringify =
      some (.handleAckResult ref ok error)) :
    hear near st [message] =
      if ok then [.markAlive nodeId (js "handle_ack_result"), .resolve ref (.forwarded true)]
      else [.markSuspect nodeId (js "handle_ack_error:" ++ error.getD (js "unknown")),
        .reject ref (error.getD (js "Cluster handleAck failed"))] := by
  obtain ⟨pending, hpending, rfl⟩ := h.pending
  have hpending' : st.cleared.pendingRequests.get ref = some pending := hpending
  rw [hear_understood h hparse rfl] <;> simp only [handleChannelMessage, hpending'] <;>
    cases ok
  · simp [cleared, settlePending]
  · simp [cleared, settlePending]
  · exact (readyState_notePeerSuspect _ _ _ _ _).trans h.is_open
  · exact (readyState_notePeerAlive _ _ _ _ _).trans h.is_open

/-- The close event of a socket that is being closed, when no attempt waits for it. -/
theorem effects_gone (hclosing : st.readyState near = .closing)
    (hdialled : ∀ n, near = .outbound n → n < st.nextOutbound ∧
      ∀ attempt, st.attempts.get near = some attempt → attempt.settled = true) :
    (st.step (gone near)).effects =
      ((st.cleared.setReadyState near .closed).unregisterSocket near).effects := by
  cases near with
  | inbound n =>
    show (st.cleared.closeServerSocket n).effects = _
    rw [closeServerSocket, if_pos (.inr hclosing)]
  | outbound n =>
    obtain ⟨hn, hsettled⟩ := hdialled n rfl
    show (st.cleared.socketClosed n).effects = _
    have hr : st.cleared.readyState (.outbound n) ≠ .closed := by
      show st.readyState (.outbound n) ≠ .closed
      rw [hclosing]
      exact ReadyState.noConfusion
    rw [socketClosed, if_pos ⟨hn, hr⟩]
    dsimp only
    split_ifs
    · rw [finishReject_of_not_dials]
      rintro m ⟨attempt, hattempt, hnot, -⟩
      rw [(unregisterSocket_tables _).1] at hattempt
      rw [hsettled attempt hattempt] at hnot
      cases hnot
    · rfl

/-- After a frame that is not understood the channel is closed, and the request is rejected. -/
theorem hear_invalid (h : Awaits st nodeId near ref)
    (hparse : parseClusterSocketMessage message.toJson.stringify = none) :
    ∃ refs : List JsString, ref ∈ refs ∧ hear near st [message] =
      [.close near 4400 (js "invalid cluster message"),
        .markSuspect nodeId (js "channel_closed")] ++
      refs.map fun r => .reject r (channelClosed nodeId) := by
  have hstep : st.step (received message.toJson.stringify near) =
      st.cleared.closeSocket near 4400 (js "invalid cluster message") := by
    rw [step_received h.is_open, handleIncomingMessage, hparse]
  -- the socket was open, and closing it begins with the handshake of the close
  have hopen : st.cleared.readyState near = .open := h.is_open
  have hclosing : (st.cleared.closeSocket near 4400 (js "invalid cluster message")).readyState near =
      .closing := by
    rw [readyState_closeSocket, if_pos ⟨rfl, by rw [hopen]; exact ReadyState.noConfusion⟩]
  have hsame {α : Type} (f : ClusterNetwork → α)
      (hf : ∀ st r es, f { st with readyStates := r, effects := es } = f st) :
      f (st.cleared.closeSocket near 4400 (js "invalid cluster message")) = f st :=
    (closeSocket_same f hf _ _ _).trans (hf st st.readyStates [])
  have hbound := (hsame nodeIdBySocket fun _ _ _ => rfl) ▸ h.bound
  have hattempts := hsame attempts fun _ _ _ => rfl
  have hnext := hsame nextOutbound fun _ _ _ => rfl
  have hrequests := hsame pendingRequests fun _ _ _ => rfl
  have heffects := @effects_closeSocket st.cleared near 4400 (js "invalid cluster message")
  generalize st.cleared.closeSocket near 4400 (js "invalid cluster message") = closed at *
  obtain ⟨pending, hpending, hnode⟩ := h.pending
  -- with the channel go the requests to its node
  have hgone := @effects_gone closed near hclosing (by rw [hattempts, hnext]; exact h.dialled)
  refine ⟨(closed.pendingRequests.entries.filter fun e => e.2.nodeId = nodeId).map Prod.fst, ?_, ?_⟩
  · rw [hrequests]
    exact List.mem_map.2 ⟨_, List.mem_filter.2
      ⟨JsMap.get_eq_some_iff.1 hpending, decide_eq_true hnode⟩, rfl⟩
  · simp only [hear]
    rw [hstep, hclosing, if_neg ReadyState.noConfusion, hgone, heffects,
      @unregisterSocket_of_bound (closed.cleared.setReadyState near .closed) near nodeId hbound
        h.named, List.map_map]
    rfl

end hear

/-! ### Both -/

/-- A frame without a payload is understood when it is valid, and only then. -/
theorem parse_plain {m : ClusterSocketMessage} (h : m.payload = none) :
    (m.Valid → parseClusterSocketMessage m.toJson.stringify = some m.withoutGroups.finitePart) ∧
      (¬m.Valid → parseClusterSocketMessage m.toJson.stringify = none) := by
  have hwf : m.toJson.WF := ClusterSocketMessage.wf_toJson fun p hp => by
    rw [h] at hp
    cases hp
  rw [ClusterSocketMessage.parse_stringify_eq hwf]
  constructor
  · intro hvalid
    rw [(ClusterSocketMessage.schema_toJson m _).2 ⟨hvalid, rfl⟩]
    rfl
  · intro hinvalid
    rw [Option.map_eq_none_iff, Option.eq_none_iff_forall_ne_some]
    exact fun m' hm' => hinvalid ((ClusterSocketMessage.schema_toJson m m').1 hm').1

/-- A call that is resolved over the channel is evidence for the peer. -/
theorem call_resolved {detail : JsString} {result : HandlerResult}
    (heffects : link.exchange handlers request ref ts =
      [.markAlive link.nodeId detail, .resolve ref result]) :
    evidence link.nodeId (link.call handlers request ref ts .ws).effects = [.alive] ∧
      (link.call handlers request ref ts .ws).outcome = some (.ok (valueOf result)) := by
  simp [call, heffects, settlement, evidence]

/-- A call that is rejected over the channel is evidence against the peer, and is tried again over
HTTP or fails. -/
theorem call_rejected
    (hsettled : ∃ text, settlement ref (link.exchange handlers request ref ts) = some (.error text))
    (hevidence : evidence link.nodeId (link.exchange handlers request ref ts) = [.suspect]) :
    (evidence link.nodeId (link.call handlers request ref ts .ws).effects =
        .suspect :: evidence link.nodeId (link.post handlers request).effects ∧
      (link.call handlers request ref ts .ws).outcome = (link.post handlers request).outcome) ∨
    (evidence link.nodeId (link.call handlers request ref ts .ws).effects = [.suspect] ∧
      ∀ value, (link.call handlers request ref ts .ws).outcome ≠ some (.ok value)) := by
  obtain ⟨text, hsettled⟩ := hsettled
  simp only [call, hsettled]
  split_ifs
  · refine .inl ⟨?_, rfl⟩
    rw [← List.singleton_append, ← hevidence]
    exact List.filterMap_append
  · exact .inr ⟨hevidence, fun value h => by cases h⟩

/-- A rejected call agrees with one that is refused over HTTP. -/
theorem agree_of_refused
    (hsettled : ∃ text, settlement ref (link.exchange handlers request ref ts) = some (.error text))
    (hevidence : evidence link.nodeId (link.exchange handlers request ref ts) = [.suspect])
    (hpost : evidence link.nodeId (link.post handlers request).effects = [.suspect, .suspect] ∧
      ∀ value, (link.post handlers request).outcome ≠ some (.ok value)) :
    Reply.Agree link.nodeId (link.call handlers request ref ts .ws)
      (link.call handlers request ref ts .http) := by
  have hhttp : link.call handlers request ref ts .http = link.post handlers request := rfl
  rw [hhttp]
  rcases call_rejected hsettled hevidence with ⟨hkinds, hvalue⟩ | ⟨hkinds, hvalue⟩
  · refine ⟨fun value => by rw [hvalue], fun status => ?_⟩
    rw [hkinds, hpost.1]
    simp
  · refine ⟨fun value => iff_of_false (hvalue value) (hpost.2 value), fun status => ?_⟩
    rw [hkinds, hpost.1]
    simp

/-- A rejected call does not agree with one that is answered over HTTP. -/
theorem not_agree_of_answered
    (hsettled : ∃ text, settlement ref (link.exchange handlers request ref ts) = some (.error text))
    (hevidence : evidence link.nodeId (link.exchange handlers request ref ts) = [.suspect])
    (hpost : evidence link.nodeId (link.post handlers request).effects = [.alive]) :
    ¬Reply.Agree link.nodeId (link.call handlers request ref ts .ws)
      (link.call handlers request ref ts .http) := by
  intro h
  have hhttp : link.call handlers request ref ts .http = link.post handlers request := rfl
  have hkinds := (h.kinds .suspect).1 (by
    rcases call_rejected hsettled hevidence with ⟨hkinds, -⟩ | ⟨hkinds, -⟩ <;> rw [hkinds] <;> simp)
  rw [hhttp, hpost] at hkinds
  simp at hkinds

/-- A request among several that are rejected for one reason. -/
theorem settlement_rejects {refs : List JsString} {text : JsString} (h : ref ∈ refs) :
    settlement ref (refs.map fun r => .reject r text) = some (.error text) := by
  induction refs with
  | nil => cases h
  | cons r refs ih =>
    by_cases hr : r = ref
    · simp [settlement, hr]
    · have hrest := ih ((List.mem_cons.1 h).resolve_left fun heq => hr heq.symm)
      rw [← hrest]
      simp [settlement, hr]

/-- What an exchange comes to, when the frame of the result is not understood. -/
theorem exchange_of_invalid (hl : link.Works) (h : request.WellFormed) (href : ref ≠ [])
    (hfresh : link.client.pendingRequests.has ref = false)
    (hinvalid : ¬(resultFrame ref request (handlers.call request.received)).Valid)
    (hplain : (resultFrame ref request (handlers.call request.received)).payload = none) :
    (∃ text, settlement ref (link.exchange handlers request ref ts) = some (.error text)) ∧
      evidence link.nodeId (link.exchange handlers request ref ts) = [.suspect] := by
  have hawaits : Awaits (link.sent request ref ts) link.nodeId link.near ref :=
    awaits_sent hl hfresh
  obtain ⟨refs, hmem, hhear⟩ := hear_invalid hawaits ((parse_plain hplain).2 hinvalid)
  rw [exchange_eq hl h href hfresh, hhear]
  constructor
  · exact ⟨_, settlement_rejects hmem⟩
  · simp only [evidence, List.cons_append, List.nil_append, List.filterMap_cons, if_pos,
      List.filterMap_map]
    congr 1
    exact List.filterMap_eq_nil_iff.2 fun r _ => rfl

/-- Connections are the result of a delivery. -/
theorem deliver_of_delivered {conns : List ConnRef}
    (h : handlers.call request.received = .delivered conns) :
    ∃ sender envelope ack targets, request = .deliver sender envelope ack targets := by
  cases request with
  | deliver sender envelope ack targets => exact ⟨sender, envelope, ack, targets, rfl⟩
  | handleAck sender ackFor traceId =>
    simp only [ClusterRequest.received, ClusterRequest.withoutGroups, ClusterRequest.finitePart,
      ClusterServerHandlers.call] at h
    split at h <;> cases h

/-- A yes or no is the result of an acknowledgement. -/
theorem handleAck_of_forwarded {ok : Bool}
    (h : handlers.call request.received = .forwarded ok) :
    ∃ sender ackFor traceId, request = .handleAck sender ackFor traceId := by
  cases request with
  | handleAck sender ackFor traceId => exact ⟨sender, ackFor, traceId, rfl⟩
  | deliver sender envelope ack targets =>
    simp only [ClusterRequest.received, ClusterRequest.withoutGroups, ClusterRequest.finitePart,
      ClusterServerHandlers.call] at h
    split at h <;> cases h

section agree

variable (hl : link.Works) (h : request.WellFormed) (href : ref ≠ [])
  (hfresh : link.client.pendingRequests.has ref = false)

include hl h href hfresh

/-- A delivery that is answered with connections. -/
theorem agree_delivered {conns : List ConnRef}
    (hresult : handlers.call request.received = .delivered conns) :
    Reply.Agree link.nodeId (link.call handlers request ref ts .ws)
        (link.call handlers request ref ts .http) ↔
      (¬request.Aimless ↔ ∀ c ∈ conns, c.Named) := by
  obtain ⟨sender, envelope, ack, targets, hrequest⟩ := deliver_of_delivered hresult
  have hhttp : link.call handlers request ref ts .http = link.post handlers request := rfl
  -- over HTTP, a request with an aim is answered with what the schema makes of the connections
  have hpost : ¬request.Aimless →
      evidence link.nodeId (link.post handlers request).effects = [.alive] ∧
      ∀ value, (link.post handlers request).outcome = some (.ok value) ↔
        (∀ c ∈ conns, c.Named) ∧ value = some (conns.map ConnRef.withoutGroup) := by
    intro haimed
    obtain ⟨hkinds, hvalue⟩ := post_ok hl (by rw [response_eq hl h haimed, hresult])
    refine ⟨hkinds, fun value => ?_⟩
    rw [hvalue, hrequest, readBody]
    have hparse := fun conns' => @parse_deliverResponse conns conns'
    generalize Option.bind _ _ = parsed at hparse ⊢
    cases parsed with
    | none =>
      simp only [reduceCtorEq, false_iff, not_and] at hparse
      simpa using fun hnamed _ => hparse _ hnamed rfl
    | some conns' =>
      obtain ⟨hnamed, rfl⟩ := (hparse conns').1 rfl
      rw [and_iff_right hnamed]
      simp [eq_comm]
  have hplain : (resultFrame ref request (handlers.call request.received)).payload = none := by
    rw [hresult]
    rfl
  -- the frame of the websocket is valid just in case every connection has a name
  by_cases hnamed : ∀ c ∈ conns, c.Named
  · have hparse := (parse_plain hplain).1 (by
      rw [hresult]
      exact ⟨href, hnamed, by simp⟩)
    rw [hresult] at hparse
    have hexchange : link.exchange handlers request ref ts =
        hear link.near (link.sent request ref ts) [resultFrame ref request (.delivered conns)] := by
      rw [exchange_eq hl h href hfresh, hresult]
    obtain ⟨hkinds, hvalue⟩ := call_resolved
      (hexchange.trans (hear_deliverResult (awaits_sent hl hfresh) hparse))
    by_cases haimless : request.Aimless
    · refine iff_of_false (fun hagree => ?_) (fun hiff => hiff.2 hnamed haimless)
      exact (post_failed hl (response_of_aimless hl h haimless)).2 _ ((hagree.value _).1 hvalue)
    · refine iff_of_true ⟨fun value => ?_, fun status => ?_⟩ (iff_of_true haimless hnamed)
      · rw [hvalue, hhttp, (hpost haimless).2, and_iff_right hnamed]
        simp [valueOf, eq_comm]
      · rw [hkinds, hhttp, (hpost haimless).1]
  · -- a frame that is not valid closes the channel, and the request is rejected with it
    have hinvalid : ¬(resultFrame ref request (handlers.call request.received)).Valid := by
      rw [hresult]
      exact fun hvalid => hnamed hvalid.2.1
    obtain ⟨hsettled, hevidence⟩ := exchange_of_invalid hl h href hfresh hinvalid hplain
    by_cases haimless : request.Aimless
    · exact iff_of_true (agree_of_refused hsettled hevidence
        (post_failed hl (response_of_aimless hl h haimless)))
        (iff_of_false (not_not.2 haimless) hnamed)
    · exact iff_of_false (not_agree_of_answered hsettled hevidence (hpost haimless).1)
        (fun hiff => hnamed (hiff.1 haimless))

/-- An acknowledgement that is answered with yes or no. -/
theorem agree_forwarded {ok : Bool} (hresult : handlers.call request.received = .forwarded ok) :
    Reply.Agree link.nodeId (link.call handlers request ref ts .ws)
        (link.call handlers request ref ts .http) ↔ ok = true := by
  obtain ⟨sender, ackFor, traceId, hrequest⟩ := handleAck_of_forwarded hresult
  have hhttp : link.call handlers request ref ts .http = link.post handlers request := rfl
  have haimed : ¬request.Aimless := by
    rw [hrequest]
    exact id
  obtain ⟨hkinds, hvalue⟩ := post_ok hl (by rw [response_eq hl h haimed, hresult])
  have hparse := (@parse_plain (resultFrame ref request (.forwarded ok)) rfl).1 ⟨href, by simp⟩
  have hhear : link.exchange handlers request ref ts =
      hear link.near (link.sent request ref ts) [resultFrame ref request (.forwarded ok)] := by
    rw [exchange_eq hl h href hfresh, hresult]
  rw [hear_handleAckResult (awaits_sent hl hfresh) hparse] at hhear
  cases ok with
  | true =>
    obtain ⟨hkinds', hvalue'⟩ := call_resolved hhear
    refine iff_of_true ⟨fun value => ?_, fun status => ?_⟩ rfl
    · rw [hvalue', hhttp, hvalue, hrequest]
      rfl
    · rw [hkinds', hhttp, hkinds]
  | false =>
    have hsettled : settlement ref (link.exchange handlers request ref ts) =
        some (.error (js "Cluster handleAck failed")) := by simp [hhear, settlement]
    exact iff_of_false (not_agree_of_answered ⟨_, hsettled⟩ (by simp [hhear, evidence]) hkinds)
      Bool.false_ne_true

/-- A request whose handler throws. -/
theorem agree_failed {message : JsString}
    (hresult : handlers.call request.received = .failed message) :
    Reply.Agree link.nodeId (link.call handlers request ref ts .ws)
      (link.call handlers request ref ts .http) := by
  -- over HTTP the request fails with a status, whatever the text is
  have hpost : evidence link.nodeId (link.post handlers request).effects = [.suspect, .suspect] ∧
      ∀ value, (link.post handlers request).outcome ≠ some (.ok value) := by
    by_cases haimless : request.Aimless
    · exact post_failed hl (response_of_aimless hl h haimless)
    · exact post_failed hl (by rw [response_eq hl h haimless, hresult])
  have hplain : (resultFrame ref request (handlers.call request.received)).payload = none := by
    rw [hresult]
    cases request <;> rfl
  by_cases hempty : message = []
  · -- an empty text is no error for the schema, and the frame is refused
    have hinvalid : ¬(resultFrame ref request (handlers.call request.received)).Valid := by
      rw [hresult, hempty]
      cases request with
      | deliver => exact fun hvalid => hvalid.2.2 rfl
      | handleAck => exact fun hvalid => hvalid.2 rfl
    obtain ⟨hsettled, hevidence⟩ := exchange_of_invalid hl h href hfresh hinvalid hplain
    exact agree_of_refused hsettled hevidence hpost
  · have hvalid : (resultFrame ref request (.failed message)).Valid := by
      cases request with
      | deliver => exact ⟨href, by simp, by simpa using hempty⟩
      | handleAck => exact ⟨href, by simpa using hempty⟩
    have hparse := (parse_plain (hresult ▸ hplain)).1 hvalid
    have hexchange : link.exchange handlers request ref ts = hear link.near
        (link.sent request ref ts) [resultFrame ref request (.failed message)] := by
      rw [exchange_eq hl h href hfresh, hresult]
    cases request with
    | deliver sender envelope ack targets =>
      rw [hear_deliverResult (awaits_sent hl hfresh) hparse,
        Option.filter_some, if_pos (decide_eq_true hempty)] at hexchange
      exact agree_of_refused ⟨message, by simp [hexchange, settlement]⟩
        (by simp [hexchange, evidence]) hpost
    | handleAck sender ackFor traceId =>
      rw [hear_handleAckResult (awaits_sent hl hfresh) hparse] at hexchange
      exact agree_of_refused ⟨message, by simp [hexchange, settlement]⟩
        (by simp [hexchange, evidence]) hpost

/-- **The two transports agree on a request exactly when its handler throws, or forwards the
acknowledgement, or, for a delivery with targets, returns connections that all have their ids.** -/
theorem transports_agree_iff : Reply.Agree link.nodeId (link.call handlers request ref ts .ws)
    (link.call handlers request ref ts .http) ↔ request.Matched handlers := by
  unfold ClusterRequest.Matched
  cases hresult : handlers.call request.received with
  | delivered conns => exact agree_delivered hl h href hfresh hresult
  | forwarded ok => exact agree_forwarded hl h href hfresh hresult
  | failed message => exact iff_of_true (agree_failed hl h href hfresh hresult) trivial

end agree

/-! ### An acknowledgement that is not forwarded -/

/-- Node `a` has dialled node `b`, and `b` has accepted. -/
def dialled : Link where
  client := Machine.run step (create { nodeId := js "a" })
    [.setPeers [{ nodeId := js "b", baseUrl := js "http://b" }], .ensureChannel (js "b") .warm,
      .socketOpened 0,
      .socketMessage 0 (ClusterSocketMessage.helloAck (js "b")).toJson.stringify]
  server := Machine.run step (create { nodeId := js "b" })
    [.setServerHandlers, .openServerSocket 0,
      .messageServerSocket 0 (ClusterSocketMessage.hello (js "a") none).toJson.stringify]
  nodeId := js "b"
  near := .outbound 0
  far := .inbound 0

theorem works_dialled : dialled.Works where
  channel := by decide +kernel
  open_near := by decide +kernel
  bound_near := by decide +kernel
  named := by decide
  known := ⟨{ nodeId := js "b", baseUrl := js "http://b" }, by decide +kernel, rfl⟩
  dialled := by
    rintro n ⟨⟩
    have hattempt : dialled.client.attempts.get dialled.near = some ⟨js "b", true⟩ := by
      decide +kernel
    refine ⟨by decide +kernel, fun attempt h => ?_⟩
    rw [hattempt] at h
    cases h
    rfl
  open_far := by decide +kernel
  bound_far := ⟨js "a", by decide +kernel, by decide⟩
  handlers := by decide +kernel
  secret := by decide +kernel

/-- An acknowledgement for a sender on node `b`. -/
def acknowledgement : ClusterRequest :=
  .handleAck { nodeId := js "b", connId := js "k", peerId := js "bob" } (js "m") none

theorem wellFormed_acknowledgement : acknowledgement.WellFormed :=
  ⟨⟨by decide, by decide, by decide⟩, by decide, by decide⟩

/-- Handlers that deliver everything, and answer acknowledgements with yes or no. -/
def answering (forwarded : Bool) : ClusterServerHandlers where
  deliver _ _ _ targets := .ok targets
  handleAck _ _ _ := .ok forwarded

theorem fresh_dialled : dialled.client.pendingRequests.has (js "r") = false := by decide +kernel

theorem transports_agree_answering : Reply.Agree dialled.nodeId
    (dialled.call (answering true) acknowledgement (js "r") (.ofNat 0) .ws)
    (dialled.call (answering true) acknowledgement (js "r") (.ofNat 0) .http) :=
  (transports_agree_iff works_dialled wellFormed_acknowledgement (by decide) fresh_dialled).2 rfl

/-- Over the channel the call is rejected, and over HTTP it is resolved. -/
theorem transports_disagree : ¬∀ (link : Link) (handlers : ClusterServerHandlers)
    (request : ClusterRequest) (ref : JsString) (ts : JsNumber), link.Works →
    request.WellFormed → ref ≠ [] → link.client.pendingRequests.has ref = false →
    Reply.Agree link.nodeId (link.call handlers request ref ts .ws)
      (link.call handlers request ref ts .http) := by
  intro h
  have hagree := h dialled (answering false) acknowledgement (js "r") (.ofNat 0) works_dialled
    wellFormed_acknowledgement (by decide) fresh_dialled
  rw [agree_forwarded works_dialled wellFormed_acknowledgement (by decide) fresh_dialled rfl] at hagree
  cases hagree

end Link

end Hardess

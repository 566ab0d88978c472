import Hardess.Lib.JustifiedLog
import Hardess.Sdk.Reconnects
import Hardess.Sdk.SystemFrames

/-!
# A client on its transport

`src/sdk/runtime/client.ts` over `src/sdk/transport/ws.ts`: the two together, with the heartbeat,
the promises of `waitUntilReady` and the messages that are handled.

* `ConnectedClient.step`: calls, events of any socket, and timers;
* `ConnectedClient.createBusinessEnvelope`, and **`read_business_iff`**: what the hub reads of it;
* `SessionEntry`: what is noted for the statements.

The handlers of the user return and do not call the client, and timers do not fire before a call
returns. A socket opens once, before its messages, and is silent after its close; it may close while
its `close` runs. What the hooks of a protocol module make of a payload comes with the call.
-/

namespace Hardess

/-! ### Readiness -/

/-- The `detail` of an error of readiness. -/
inductive ReadyErrorDetail
  | timeoutMs (timeoutMs : JsNumber)
  | state (state : ClientReadyState)
  deriving DecidableEq

/-- What `createClientSdkError` makes for `ensureReady` and `waitUntilReady`. -/
structure ReadyError where
  code : ClientErrorCode
  message : JsString
  retryable : Bool := false
  detail : Option ReadyErrorDetail := none
  close : Option ClientCloseInfo := none
  deriving DecidableEq

/-- The string of a state. -/
def ClientReadyState.text : ClientReadyState → JsString
  | .idle => js "idle"
  | .connecting => js "connecting"
  | .authenticating => js "authenticating"
  | .ready => js "ready"
  | .closed => js "closed"

/-- `ensureReady`. -/
def HardessClient.ensureReady (client : HardessClient) : Except ReadyError Unit :=
  if client.readyState = .ready then .ok ()
  else
    .error
      { code := .CLIENT_NOT_READY
        message := js "Client is not ready; wait for auth.ok before sending (state: " ++
          client.readyState.text ++ js ")"
        retryable := true
        detail := some (.state client.readyState) }

/-- The error of a `waitUntilReady` that took too long. -/
def readyTimeoutError (timeoutMs : JsNumber) : ReadyError where
  code := .CLIENT_NOT_READY
  message := js "Timed out waiting for client readiness after " ++ timeoutMs.text ++ js "ms"
  retryable := true
  detail := some (.timeoutMs timeoutMs)

/-- The error of `close` for those who wait for readiness. -/
def closedBeforeReady : ReadyError where
  code := .CLIENT_TRANSPORT_CLOSED
  message := js "Client closed before becoming ready"
  close := some { reason := some (js "client closed") }

/-- The info as the client passes it on. -/
def TransportCloseInfo.toClient (info : TransportCloseInfo) : ClientCloseInfo where
  code := info.code.map JsNumber.ofNat
  reason := info.reason
  wasClean := info.wasClean

/-- `isTerminalClientClose`. -/
def isTerminalClientClose (info : TransportCloseInfo) : Bool :=
  match info.code with
  | some 4400 | some 4401 | some 4403 | some 4429 | some 4508 => true
  | _ => false

/-- The error of a close that is not retried. -/
def failedToBecomeReady (info : TransportCloseInfo) : ReadyError where
  code := .CLIENT_TRANSPORT_CLOSED
  message := js "Client failed to become ready" ++ formatCloseSuffix info.toClient
  close := some info.toClient

/-- `ReadyWaiter`, or a promise of `waitUntilReady` that had one. -/
structure ReadyWaiter where
  timeoutMs : Option JsNumber
  /-- Is its timer armed? -/
  timer : Bool
  /-- While there is none, the waiter is in `readyWaiters`. -/
  settlement : Option (Except ReadyError Unit) := none

namespace ReadyWaiter

/-- `options.timeoutMs !== undefined && options.timeoutMs > 0`. -/
def isTimed (timeoutMs : Option JsNumber) : Bool := timeoutMs.any (JsNumber.ofNat 0).lt

/-- `waiter.resolve` or `waiter.reject`, of a waiter that waits. -/
def settle (waiter : ReadyWaiter) (settlement : Except ReadyError Unit) : ReadyWaiter :=
  if waiter.settlement.isSome then waiter
  else { waiter with timer := false, settlement := some settlement }

/-- The timer fires once, unless it has been cleared. -/
def fire (waiter : ReadyWaiter) : ReadyWaiter :=
  if waiter.timer then
    waiter.settle (.error (readyTimeoutError (waiter.timeoutMs.getD (.ofNat 0))))
  else waiter

end ReadyWaiter

/-! ### Business messages -/

/-- What the outbound hooks of a module make of the payload and the stream of a message. -/
structure BusinessContent where
  streamId : Option JsString
  payload : Option Json
  /-- An object has each key once. -/
  wf : ∀ p, payload = some p → p.WF

/-- The literal of `createBusinessEnvelope`. -/
def businessInput (msgId : JsString) (input : ClientEmitInput) (content : BusinessContent) :
    List (JsString × Json) :=
  [(js "msgId", .str msgId), (js "kind", EnvelopeKind.biz.toJson), (js "src", localSrc.toJson),
    (js "protocol", .str input.protocol), (js "version", .str input.version),
    (js "action", .str input.action)] ++ optMember (js "streamId") (content.streamId.map .str) ++
    [(js "traceId", .str (input.traceId.getD msgId))] ++ optMember (js "payload") content.payload

/-- `createBusinessEnvelope`. -/
def createBusinessEnvelope (stamp : Stamp) (input : ClientEmitInput) (content : BusinessContent) :
    Json :=
  createEnvelope stamp (businessInput stamp.msgId input content)

/-- The envelope that is created. -/
def businessEnvelope (stamp : Stamp) (input : ClientEmitInput) (content : BusinessContent) :
    Envelope where
  msgId := stamp.msgId
  kind := .biz
  src := localSrc
  protocol := input.protocol
  version := input.version
  action := input.action
  streamId := content.streamId
  ts := stamp.ts
  traceId := some (input.traceId.getD stamp.msgId)
  payload := content.payload

theorem fields_createBusinessEnvelope (stamp : Stamp) (input : ClientEmitInput)
    (content : BusinessContent) :
    ∃ ms, createBusinessEnvelope stamp input content = .obj ms ∧
      (businessEnvelope stamp input content).Fields ms := by
  refine ⟨_, rfl, ?_⟩
  constructor <;>
    simp [Json.lookup_setMember, businessInput, businessEnvelope, Json.lookup_append,
      Json.lookup_cons]

theorem wf_createBusinessEnvelope (stamp : Stamp) (input : ClientEmitInput)
    (content : BusinessContent) : (createBusinessEnvelope stamp input content).WF := by
  refine Json.wf_setMember (Json.wf_setMember ?_ ?_) ?_
  · refine wf_obj [js "msgId", js "kind", js "src", js "protocol", js "version", js "action",
      js "streamId", js "traceId", js "payload"] ?_ (by simp) ?_
    · simp only [businessInput, List.map_append]
      exact (((List.Sublist.refl _).append (keys_optMember_sublist _ _)).append
        (List.Sublist.refl _)).append (keys_optMember_sublist _ _)
    · have hsrc : localSrc.toJson.WF := ⟨by simp, trivial, trivial, trivial⟩
      simp only [businessInput, List.forall_mem_append, List.forall_mem_cons]
      exact ⟨⟨⟨⟨trivial, trivial, hsrc, trivial, trivial, trivial, List.forall_mem_nil _⟩,
        wf_optMember_map fun _ => trivial⟩, trivial, List.forall_mem_nil _⟩,
        wf_optMember content.wf⟩
  · simp [businessInput, Json.lookup_cons, Json.WF]
  · simp [businessInput, Json.lookup_append, Json.lookup_cons, Json.WF]

/-- **The hub reads a business message as it was created exactly when it is well formed and has a
payload.** -/
theorem read_business_iff (stamp : Stamp) (input : ClientEmitInput) (content : BusinessContent)
    (e : Envelope) : readEnvelope (createBusinessEnvelope stamp input content).stringify = some e ↔
      ((businessEnvelope stamp input content).WellFormed JsNumber.isInteger ∧
          content.payload.isSome = true) ∧
        e = (businessEnvelope stamp input content).finitePart := by
  obtain ⟨ms, hms, hf⟩ := fields_createBusinessEnvelope stamp input content
  have hwf := wf_createBusinessEnvelope stamp input content
  rw [hms] at hwf ⊢
  exact readEnvelope_stringify hf hwf

/-! ### The client with its transport -/

/-- What a client hands to a socket. -/
inductive ClientOutput
  | system (message : ClientSystemMessage)
  | business (msgId : JsString)

/-- What is noted of a client. -/
inductive SessionEntry
  | connect (token : JsString)
  | sent (socket : ℕ) (output : ClientOutput)
  | accepted (socket : ℕ)

/-- `HardessClientOptions`, with the url. -/
structure ConnectedClientOptions where
  websocketUrl : JsString
  autoHandleAck : Bool := true
  deliveryTimeoutMs : DeliveryTimeoutPolicy := {}
  transport : TransportOptions := {}

/-- How `handleInbound` ends: there is nothing to handle, the hooks return, or one throws. -/
inductive InboundOutcome
  | ignored
  | handled
  | failed (message : JsString)

/-- `HardessClient` with its transport, its timers and its promises. -/
structure ConnectedClient where
  transport : WebSocketTransport
  client : HardessClient
  /-- The token that the hooks of the last `connect` hold. -/
  token : JsString := []
  heartbeatTimer : Option ℕ := none
  /-- The intervals that tick. -/
  heartbeats : List ℕ := []
  nextHeartbeat : ℕ := 1
  readyWaiters : List ReadyWaiter := []
  /-- The messages whose `handleInbound` has not ended. -/
  inbound : List Envelope := []
  /-- The sockets that have opened. -/
  opened : List ℕ := []
  /-- The sockets that have closed. -/
  ended : List ℕ := []
  log : List SessionEntry := []

/-- What happens to a client. -/
inductive ConnectedClientEvent
  | connect (token : JsString)
  | close (emitted : Option TransportCloseInfo) (stamp : Stamp)
  | waitUntilReady (timeoutMs : Option JsNumber)
  /-- `emit` and `emitTracked`; there is no content when a hook of the module throws. -/
  | emit (stamp : Stamp) (input : ClientEmitInput) (content : Option BusinessContent)
  | send (stamp : Stamp) (input : ClientEmitInput) (content : Option BusinessContent)
      (until_ : Option AwaitableStage)
  | waitFor (msgId : JsString) (kind : WaitKind)
  | ackHandled (stamp : Stamp) (msgId : JsString) (traceId : Option JsString)
  | socket (i : ℕ) (event : TransportSocketEvent) (stamp : Stamp)
  /-- `handleInbound` ends. -/
  | inbound (k : ℕ) (outcome : InboundOutcome) (stamp : Stamp)
  | reconnectTimer (timer : ℕ)
  | heartbeat (timer : ℕ) (stamp : Stamp)
  | readyTimer (k : ℕ)
  | deliveryTimer (msgId : JsString) (stage : AwaitableStage) (now : JsNumber)

namespace ConnectedClient

variable (options : ConnectedClientOptions) (s : ConnectedClient)

/-- `new HardessClient`. -/
def create : ConnectedClient where
  transport := .create options.transport
  client := { deliveryTimeoutMs := options.deliveryTimeoutMs }

/-! ### What is sent -/

/-- `transport.send`. -/
def send (text : JsString) (output : ClientOutput) : ConnectedClient :=
  { s with
    transport := s.transport.send text
    log := s.log ++ (s.transport.socket.map (SessionEntry.sent · output)).toList }

/-- A system message is sent. -/
def speak (stamp : Stamp) (message : ClientSystemMessage) : ConnectedClient :=
  s.send (message.text stamp) (.system message)

/-- `stopHeartbeat`. -/
def stopHeartbeat : ConnectedClient :=
  { s with
    heartbeats := s.heartbeats.filter fun t => some t ≠ s.heartbeatTimer
    heartbeatTimer := none }

/-- `startHeartbeat`. -/
def startHeartbeat : ConnectedClient :=
  let s := s.stopHeartbeat
  { s with
    heartbeatTimer := some s.nextHeartbeat
    heartbeats := s.nextHeartbeat :: s.heartbeats
    nextHeartbeat := s.nextHeartbeat + 1 }

/-- The interval of `startHeartbeat` ticks. -/
def tick (timer : ℕ) (stamp : Stamp) : ConnectedClient :=
  if timer ∈ s.heartbeats then s.speak stamp .ping else s

/-- `emitTracked`. -/
def emitTracked (stamp : Stamp) (input : ClientEmitInput) (content : Option BusinessContent) :
    ConnectedClient :=
  match s.client.ensureReady, content with
  | .ok (), some content =>
    let s := { s with client := s.client.emitTracked stamp.msgId input stamp.time }
    s.send (createBusinessEnvelope stamp input content).stringify (.business stamp.msgId)
  | _, _ => s

/-- `send`, unless it throws: then the promise is rejected at once. -/
def sendTracked (stamp : Stamp) (input : ClientEmitInput) (content : Option BusinessContent)
    (until_ : Option AwaitableStage) : ConnectedClient :=
  match s.client.ensureReady, content with
  | .ok (), some _ =>
    let s := s.emitTracked stamp input content
    { s with client := s.client.waitFor stamp.msgId (.result (until_.getD .handleAck)) }
  | _, _ => s

/-! ### Readiness -/

/-- `resolveReadyWaiters` and `rejectReadyWaiters`. -/
def settleReadyWaiters (settlement : Except ReadyError Unit) : ConnectedClient :=
  { s with readyWaiters := s.readyWaiters.map (·.settle settlement) }

/-- `waitUntilReady`. -/
def waitUntilReady (timeoutMs : Option JsNumber) : ConnectedClient :=
  let waiter : ReadyWaiter :=
    if s.client.readyState = .ready then ⟨timeoutMs, false, some (.ok ())⟩
    else ⟨timeoutMs, ReadyWaiter.isTimed timeoutMs, none⟩
  { s with readyWaiters := s.readyWaiters ++ [waiter] }

/-! ### The hooks of the transport -/

/-- `onOpen`. -/
def onOpen (stamp : Stamp) : ConnectedClient :=
  let s := { s with client := s.client.step .opened }
  (s.speak stamp (.auth s.token)).startHeartbeat

/-- `onClose`. -/
def onClose (info : TransportCloseInfo) : ConnectedClient :=
  let s := s.stopHeartbeat
  let s := { s with client := s.client.step (.transportClosed info.toClient) }
  if isTerminalClientClose info then s.settleReadyWaiters (.error (failedToBecomeReady info)) else s

/-- The case `auth.ok` of `handleSystem`. -/
def onAuthOk : ConnectedClient :=
  let s :=
    { s with
      client := s.client.onMessage .authOk
      log := s.log ++ (s.transport.socket.map SessionEntry.accepted).toList }
  s.settleReadyWaiters (.ok ())

/-- `onMessage`. -/
def onMessage (stamp : Stamp) (raw : JsString) : ConnectedClient :=
  match Hardess.onMessage raw with
  | .invalid => s
  | .authOk _ => s.onAuthOk
  | .pong _ => s
  | .ping nonce traceId => s.speak stamp (.pong nonce traceId)
  | .message message => { s with client := s.client.onMessage message }
  | .business envelope => { s with inbound := s.inbound ++ [envelope] }

/-- The hook of an event. -/
def hook (stamp : Stamp) (event : TransportSocketEvent) : ConnectedClient :=
  match event with
  | .opened => s.onOpen stamp
  | .closed info => s.onClose info
  | .message text => s.onMessage stamp text
  | .error _ => s

/-- An event of socket `i`, which reaches the hook while it is the current one. -/
def deliver (i : ℕ) (stamp : Stamp) (event : TransportSocketEvent) : ConnectedClient :=
  if s.transport.socket ≠ some i then s
  else
    let s := { s with transport := s.transport.beforeHook options.transport event }
    let s := s.hook stamp event
    { s with transport := s.transport.afterHook options.transport event }

/-! ### Sockets -/

/-- What a socket may deliver now. -/
def Delivers (i : ℕ) (event : TransportSocketEvent) : Prop :=
  i < s.transport.nextSocket ∧ i ∉ s.ended ∧
    match event with
    | .opened => i ∉ s.opened
    | .message _ => i ∈ s.opened
    | .closed _ | .error _ => True

instance (i : ℕ) (event : TransportSocketEvent) : Decidable (s.Delivers i event) := by
  unfold Delivers
  cases event <;> exact inferInstance

/-- What is remembered of the events of a socket. -/
def record (i : ℕ) (event : TransportSocketEvent) : ConnectedClient :=
  match event with
  | .opened => { s with opened := i :: s.opened }
  | .closed _ => { s with ended := i :: s.ended }
  | .message _ | .error _ => s

/-- A socket delivers an event. -/
def socketEvent (i : ℕ) (event : TransportSocketEvent) (stamp : Stamp) : ConnectedClient :=
  if s.Delivers i event then (s.record i event).deliver options i stamp event else s

/-! ### Calls -/

/-- `connect`. -/
def connect (token : JsString) : ConnectedClient :=
  { s with
    client := { s.client.step .connect with hasToken := token ≠ [] }
    token
    log := s.log ++ [.connect token]
    transport := s.transport.connect options.websocketUrl (s.transport.hooks + 1) }

/-- `close`, up to `transport.close`. -/
def beginClose : ConnectedClient :=
  let s := s.stopHeartbeat
  let s := { s with client := s.client.step .close }
  s.settleReadyWaiters (.error closedBeforeReady)

/-- `transport.close`, while which the socket may close; a close reads no stamp. -/
def closeTransport (emitted : Option TransportCloseInfo) (stamp : Stamp) : ConnectedClient :=
  let s := { s with transport := s.transport.beginClose }
  let s :=
    match s.transport.socket, emitted with
    | some i, some info => s.socketEvent options i (.closed info) stamp
    | _, _ => s
  { s with transport := { s.transport with socket := none } }

/-- `handleInbound` ends. -/
def endInbound (k : ℕ) (outcome : InboundOutcome) (stamp : Stamp) : ConnectedClient :=
  match s.inbound[k]? with
  | none => s
  | some envelope =>
    let s := { s with inbound := s.inbound.eraseIdx k }
    match outcome with
    | .ignored => s
    | .handled =>
      if options.autoHandleAck then s.speak stamp (.handleAck envelope.msgId envelope.traceId)
      else s
    | .failed message =>
      { s with client := s.client.onMessage (.rejected .business envelope message) }

/-- What an event does. -/
def step (s : ConnectedClient) : ConnectedClientEvent → ConnectedClient
  | .connect token => s.connect options token
  | .close emitted stamp => s.beginClose.closeTransport options emitted stamp
  | .waitUntilReady timeoutMs => s.waitUntilReady timeoutMs
  | .emit stamp input content => s.emitTracked stamp input content
  | .send stamp input content until_ => s.sendTracked stamp input content until_
  | .waitFor msgId kind => { s with client := s.client.waitFor msgId kind }
  | .ackHandled stamp msgId traceId => s.speak stamp (.handleAck msgId traceId)
  | .socket i event stamp => s.socketEvent options i event stamp
  | .inbound k outcome stamp => s.endInbound options k outcome stamp
  | .reconnectTimer timer => { s with transport := s.transport.fire options.transport timer }
  | .heartbeat timer stamp => s.tick timer stamp
  | .readyTimer k => { s with readyWaiters := s.readyWaiters.modify k ReadyWaiter.fire }
  | .deliveryTimer msgId stage now => { s with client := s.client.step (.timer msgId stage now) }

end ConnectedClient

end Hardess

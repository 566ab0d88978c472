import Hardess.Auth.AuthService
import Hardess.Ingress.GrantedContexts
import Hardess.Sdk.ClientFrames
import Hardess.Sdk.Sessions

/-!
# A hub with its clients

`src/runtime/ingress/websocket.ts` with its `src/runtime/auth/service.ts` on one side of a network,
and clients of `src/sdk` on the other.

* `Deployment.step`: what happens to a client, to the service and to the hub, and what passes
  between them;
* `Deployment.Vouched`: the service granted a context for what a connection presented;
* `Deployment.Knows`: the hub knows the client of a wire.

The network joins a socket of a client to a connection whose id is new. It may lose frames, write
one twice and change their order; it makes none up. The connections of others say what they like. A
context whose token id and capabilities are no strings does not reach the hub.
-/

namespace Hardess

open WebSocketRuntime (Event)

/-- A connection of the hub, and the socket at its other end. -/
structure ClientWire where
  client : ℕ
  socket : ℕ
  connId : JsString
  deriving DecidableEq

/-- A hub, the service that it asks, and its clients. -/
structure Deployment where
  options : ℕ → ConnectedClientOptions
  hub : WebSocketRuntime
  service : AuthServiceState
  clients : ℕ → ConnectedClient
  wires : List ClientWire := []
  /-- What the hub has handed to its connections. -/
  handed : List (JsString × OutboundMessage) := []
  /-- Calls of the hub, with the calls of the service that they await. -/
  awaiting : List (ℕ × ℕ) := []

/-- What happens in a deployment. -/
inductive DeploymentEvent
  /-- Something happens to a client, but a message. -/
  | client (c : ℕ) (e : ConnectedClientEvent)
  | service (e : AuthServiceEvent)
  /-- Something happens to the hub that is not below. -/
  | hub (e : Event)
  | accept (wire : ClientWire)
  /-- The hub reads what a client wrote with its `k`-th call. -/
  | up (c k : ℕ)
  /-- A client reads what was `k`-th of what the hub has handed over. -/
  | down (k : ℕ) (stamp reply : Stamp)
  /-- The answer to the `k`-th of the calls that await the service. -/
  | answered (k : ℕ)

/-- The event is a message. -/
def ConnectedClientEvent.IsMessage : ConnectedClientEvent → Bool
  | .socket _ (.message _) _ => true
  | _ => false

/-- What an effect hands to a connection. -/
def Effect.handedOver : Effect → List (JsString × OutboundMessage)
  | .send connId message => [(connId, message)]
  | .enqueued connId message => [(connId, message)]
  | _ => []

/-- What the hub asks the service with its newest call. -/
def WebSocketRuntime.asked (hub : WebSocketRuntime) (id : ℕ) : Option SysAuthPayload :=
  match hub.calls.get id with
  | some (.authenticating _ message) => sysAuthPayloadSchema message.payload
  | _ => none

namespace Deployment

variable (s : Deployment)

/-- A deployment whose clients have not connected yet. -/
def create (options : ℕ → ConnectedClientOptions) (deps : WebSocketRuntimeDeps)
    (platform : JwtPlatform) (defaultProviderName : JsString) (providers : List AuthProvider) :
    Deployment where
  options
  hub := .create deps
  service := .create platform defaultProviderName providers
  clients c := .create (options c)

/-- Something happens to a client. -/
def clientStep (c : ℕ) (e : ConnectedClientEvent) : Deployment :=
  { s with clients := Function.update s.clients c ((s.clients c).step (s.options c) e) }

/-- Something happens to the hub, which may ask the service. -/
def hubStep (e : Event) : Deployment :=
  let hub := s.hub.step e
  let handed := s.handed ++ hub.effects.flatMap Effect.handedOver
  match hub.asked s.hub.nextCall with
  | none => { s with hub, handed }
  | some payload =>
    { s with
      hub, handed
      service := s.service.validateSystemAuth payload
      awaiting := s.awaiting ++ [(s.hub.nextCall, s.service.calls.length)] }

/-- The event comes neither from a client nor from the service. -/
def Elsewhere : Event → Prop
  | .message connId _ => ∀ wire ∈ s.wires, wire.connId ≠ connId
  | .resume _ (.authenticated _) => False
  | _ => True

instance (e : Event) : Decidable (s.Elsewhere e) := by
  unfold Elsewhere
  split <;> exact inferInstance

/-- The id of the connection is new, and so is the socket at its other end. -/
def Joins (wire : ClientWire) : Prop :=
  s.hub.objects.has wire.connId = false ∧ ∀ wire' ∈ s.wires, wire'.connId ≠ wire.connId ∧
    ¬(wire'.client = wire.client ∧ wire'.socket = wire.socket)

instance (wire : ClientWire) : Decidable (s.Joins wire) := inferInstanceAs (Decidable (_ ∧ _))

/-- What a client wrote, with the wire that it goes over. -/
def written (c k : ℕ) : Option (ClientWire × JsString) :=
  match (s.clients c).transport.socketCalls[k]? with
  | some (.send i text) =>
    (s.wires.find? fun wire => wire.client = c ∧ wire.socket = i).map (·, text)
  | _ => none

/-- What was handed over, with the wire that it goes over. -/
def given (k : ℕ) : Option (ClientWire × OutboundMessage) :=
  s.handed[k]?.bind fun (connId, message) =>
    (s.wires.find? fun wire => wire.connId = connId).map (·, message)

/-- What the service says to a call of the hub. -/
def answer (k : ℕ) : Option (ℕ × Except Thrown AuthContext) := do
  let (id, j) ← s.awaiting[k]?
  let call ← s.service.calls[j]?
  let settlement ← call.settlement
  match settlement with
  | .ok auth => auth.narrow.map (id, .ok ·)
  | .error error => some (id, .error error)

/-- What an event does. -/
def step (s : Deployment) : DeploymentEvent → Deployment
  | .client c e => if e.IsMessage then s else s.clientStep c e
  | .service e => { s with service := s.service.step e }
  | .hub e => if s.Elsewhere e then s.hubStep e else s
  | .accept wire =>
    if s.Joins wire then
      ({ s with wires := s.wires ++ [wire] } : Deployment).hubStep (.openSocket wire.connId)
    else s
  | .up c k =>
    match s.written c k with
    | some (wire, text) => s.hubStep (.message wire.connId (readEnvelope text))
    | none => s
  | .down k stamp reply =>
    match s.given k with
    | some (wire, message) =>
      s.clientStep wire.client
        (.socket wire.socket (.message (message.text stamp wire.connId)) reply)
    | none => s
  | .answered k =>
    match s.answer k with
    | some (id, result) => s.hubStep (.resume id (.authenticated result))
    | none => s

/-! ### Statements -/

/-- The client of a wire sent a token over it. -/
def Sent (wire : ClientWire) (token : JsString) : Prop :=
  .sent wire.socket (.system (.auth token)) ∈ (s.clients wire.client).log

/-- What a connection presents is what its client sent, when it is one of ours. -/
def Presents (connId : JsString) (payload : SysAuthPayload) : Prop :=
  ∀ wire ∈ s.wires, wire.connId = connId → ∃ token, s.Sent wire token ∧ payload = bearerAuth token

/-- In the run of the service, a call with the payload has granted the context. -/
def Grants (platform : JwtPlatform) (name : JsString) (providers : List AuthProvider)
    (payload : SysAuthPayload) (auth : AuthContext) : Prop :=
  ∃ (es : List AuthServiceEvent) (k : ℕ) (granted : AuthContext),
    s.service = Machine.run AuthServiceState.step (.create platform name providers) es ∧
      AuthServiceState.Grants platform name providers es k (.system payload) granted ∧
      auth = { granted with groupId := s.hub.deps.hostGroupId }

/-- The connection is one that presented a payload for which the service has granted the context. -/
def Vouched (platform : JwtPlatform) (name : JsString) (providers : List AuthProvider)
    (connId : JsString) (auth : AuthContext) : Prop :=
  s.hub.objects.has connId = true ∧ ∃ payload, s.Presents connId payload ∧
    s.Grants platform name providers payload auth

/-- The hub knows the client of a wire: the context of the connection was granted for the one token
that the client sent over it. -/
def Knows (platform : JwtPlatform) (name : JsString) (providers : List AuthProvider)
    (wire : ClientWire) : Prop :=
  ∃ auth token, s.hub.authOf wire.connId = some auth ∧ s.Sent wire token ∧
    (∀ token', s.Sent wire token' → token' = token) ∧
    s.Grants platform name providers (bearerAuth token) auth

/-- What comes from outside has names and texts. -/
def Fed : DeploymentEvent → Prop
  | .hub e => e.Fed
  | .accept wire => wire.connId ≠ []
  | .down _ stamp _ => stamp.Fit ∧ stamp.time.isFinite = true
  | .answered k => ∀ id result, s.answer k = some (id, result) →
    (Event.resume id (.authenticated result)).Fed
  | _ => True

end Deployment

end Hardess

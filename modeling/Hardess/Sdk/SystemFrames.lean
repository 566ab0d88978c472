import Hardess.Protocol.SystemHandlers

/-!
# What the client hears, and what the hub hears

`onMessage` and `handleSystem` of `src/sdk/runtime/client.ts`, with the payload schemas of
`src/shared/schema.ts`.

* **`heard_iff`**: a frame of the hub is taken for the message that the hub sent exactly when the
  message is `Intact`;
* **`spoken_iff`**: the hub reads a frame of the client as it was created.
-/

namespace Hardess

/-! ### The payloads of the hub -/

/-- `SysAuthOkPayload`. -/
structure SysAuthOkPayload where
  peerId : JsString
  capabilities : List JsString
  expiresAt : JsNumber
  deriving DecidableEq

/-- `ERROR_CODES`, the strings with the codes. -/
def ErrorCode.options : List (JsString × ErrorCode) :=
  [.AUTH_INVALID_TOKEN, .AUTH_EXPIRED_TOKEN, .AUTH_REVOKED_TOKEN, .ACL_DENIED,
    .INGRESS_PROTOCOL_UNAVAILABLE, .CONN_QUOTA_EXCEEDED, .RATE_LIMIT_EXCEEDED,
    .BACKPRESSURE_OVERFLOW, .PROTO_REGISTRATION_CONFLICT, .PROTO_UNKNOWN_ACTION,
    .PROTO_INVALID_PAYLOAD, .ROUTE_NO_RECIPIENT, .ROUTE_PEER_OFFLINE, .ROUTE_DELIVERY_TIMEOUT,
    .SERVER_DRAINING, .GATEWAY_UPSTREAM_TIMEOUT, .GATEWAY_UPSTREAM_UNAVAILABLE,
    .INTERNAL_ERROR].map fun code => (ErrorCode.text code, code)

/-- `errorCodeSchema`. -/
def errorCodeSchema : Zod.Schema ErrorCode := Zod.enum ErrorCode.options

/-- `sysAuthOkPayloadSchema`. -/
def sysAuthOkPayloadSchema : Zod.Schema SysAuthOkPayload := Zod.object fun f => do
  let peerId ← Zod.nonempty (f (js "peerId"))
  let capabilities ← Zod.array Zod.string (f (js "capabilities"))
  let expiresAt ← Zod.number (f (js "expiresAt"))
  some { peerId, capabilities, expiresAt }

/-- `sysRecvAckPayloadSchema`. -/
def sysRecvAckPayloadSchema : Zod.Schema SysRecvAckPayload := Zod.object fun f => do
  let ackFor ← Zod.nonempty (f (js "ackFor"))
  let acceptedAt ← Zod.number (f (js "acceptedAt"))
  some { ackFor, acceptedAt }

/-- `sysHandleAckEventPayloadSchema`. -/
def sysHandleAckEventPayloadSchema : Zod.Schema SysHandleAckPayload := Zod.object fun f => do
  let ackFor ← Zod.nonempty (f (js "ackFor"))
  let handledAt ← Zod.number (f (js "handledAt"))
  some { ackFor, handledAt }

/-- `connRefSchema` of the clients, which keeps the group. -/
def Sdk.connRefSchema : Zod.Schema ConnRef := Zod.object fun f => do
  let nodeId ← Zod.nonempty (f (js "nodeId"))
  let connId ← Zod.nonempty (f (js "connId"))
  let peerId ← Zod.nonempty (f (js "peerId"))
  let groupId ← Zod.optional Zod.nonempty (f (js "groupId"))
  some { nodeId, connId, peerId, groupId }

/-- `sysRoutePayloadSchema`. -/
def sysRoutePayloadSchema : Zod.Schema SysRoutePayload := Zod.object fun f => do
  let resolvedPeers ← Zod.array Zod.nonempty (f (js "resolvedPeers"))
  let deliveredConns ← Zod.array Sdk.connRefSchema (f (js "deliveredConns"))
  some { resolvedPeers, deliveredConns }

/-- `sysErrPayloadSchema`. -/
def sysErrPayloadSchema : Zod.Schema SysErrPayload := Zod.object fun f => do
  let code ← errorCodeSchema (f (js "code"))
  let message ← Zod.nonempty (f (js "message"))
  let retryable ← Zod.boolean (f (js "retryable"))
  let detail ← Zod.unknown (f (js "detail"))
  let refMsgId ← Zod.optional Zod.nonempty (f (js "refMsgId"))
  let traceId ← Zod.optional Zod.nonempty (f (js "traceId"))
  some { code, message, retryable, detail, refMsgId, traceId }

/-! ### The frames that a client receives -/

/-- What a client takes a frame for. -/
inductive ClientFrame
  | invalid
  | authOk (payload : SysAuthOkPayload)
  | pong (nonce : Option JsString)
  | ping (nonce traceId : Option JsString)
  | message (message : ClientMessage)
  | business (envelope : Envelope)

/-- `parseProtocolPayload`, and the report of its error. -/
def parseProtocolPayload {α : Type} (schema : Zod.Schema α) (e : Envelope) (message : JsString)
    (use : α → ClientFrame) : ClientFrame :=
  match schema e.payload with
  | some payload => use payload
  | none => .message (.rejected .system e message)

/-- `handleSystem`. -/
def handleSystem (e : Envelope) : ClientFrame :=
  if e.action = js "auth.ok" then
    parseProtocolPayload sysAuthOkPayloadSchema e (js "Invalid sys.auth.ok payload") .authOk
  else if e.action = js "pong" then
    parseProtocolPayload sysPingPayloadSchema e (js "Invalid sys.pong payload") .pong
  else if e.action = js "ping" then
    parseProtocolPayload sysPingPayloadSchema e (js "Invalid sys.ping payload") fun nonce =>
      .ping nonce e.traceId
  else if e.action = js "recvAck" then
    parseProtocolPayload sysRecvAckPayloadSchema e (js "Invalid sys.recvAck payload")
      fun payload => .message (.recvAck payload e.traceId)
  else if e.action = js "handleAck" then
    parseProtocolPayload sysHandleAckEventPayloadSchema e (js "Invalid sys.handleAck event payload")
      fun payload => .message (.handleAck payload e.traceId)
  else if e.action = js "route" then
    parseProtocolPayload sysRoutePayloadSchema e (js "Invalid sys.route payload") fun payload =>
      .message (.route payload e.traceId)
  else if e.action = js "err" then
    parseProtocolPayload sysErrPayloadSchema e (js "Invalid sys.err payload") fun payload =>
      .message (.err payload e.traceId)
  else .message (.rejected .system e (js "Unknown system action: " ++ e.action))

/-- `onMessage`, up to what is done with the message. -/
def onMessage (raw : JsString) : ClientFrame :=
  match readEnvelope raw with
  | none => .invalid
  | some e => if e.kind = .system then handleSystem e else .business e

/-- The error, with the detail that JSON keeps. -/
def HardessError.finitePart (error : HardessError) : HardessError :=
  { error with detail := error.detail.map Json.finitePart }

/-- The frame that a client should take a message for. -/
def OutboundMessage.heard (stamp : Stamp) : OutboundMessage → ClientFrame
  | .envelope e => .business e.finitePart
  | .authOk auth _ => .authOk ⟨auth.peerId, auth.capabilities, auth.expiresAt⟩
  | .ping => .ping (some stamp.nonce) none
  | .pong nonce _ => .pong nonce
  | .recvAck ackFor traceId => .message (.recvAck ⟨ackFor, stamp.time⟩ traceId)
  | .handleAck _ ackFor traceId => .message (.handleAck ⟨ackFor, stamp.time⟩ traceId)
  | .route resolvedPeers deliveredConns traceId =>
    .message (.route ⟨resolvedPeers, deliveredConns⟩ traceId)
  | .err error refMsgId traceId =>
    .message (.err (toSysErrPayload error.finitePart refMsgId traceId) traceId)

/-- What both ends ask of the message. -/
def OutboundMessage.Intact (stamp : Stamp) (connId : JsString) : OutboundMessage → Prop
  | .envelope e => e.kind = .biz ∧ e.WellFormed JsNumber.isInteger ∧
      ∃ p, e.payload = some p ∧ p.WF
  | .authOk auth traceId => (stamp.Fit ∧ connId ≠ [] ∧ traceId ≠ some []) ∧
      auth.peerId ≠ [] ∧ auth.expiresAt.isFinite = true
  | .ping => stamp.Fit ∧ connId ≠ []
  | .pong _ traceId => stamp.Fit ∧ connId ≠ [] ∧ traceId ≠ some []
  | .recvAck ackFor traceId => (stamp.Fit ∧ connId ≠ [] ∧ traceId ≠ some []) ∧
      ackFor ≠ [] ∧ stamp.time.isFinite = true
  | .handleAck src ackFor traceId => (stamp.Fit ∧ src ≠ [] ∧ traceId ≠ some []) ∧
      ackFor ≠ [] ∧ stamp.time.isFinite = true
  | .route resolvedPeers deliveredConns traceId =>
    (stamp.Fit ∧ connId ≠ [] ∧ traceId ≠ some []) ∧ (∀ peerId ∈ resolvedPeers, peerId ≠ []) ∧
      ∀ c ∈ deliveredConns, c.Named ∧ c.groupId ≠ some []
  | .err error refMsgId traceId => (stamp.Fit ∧ connId ≠ [] ∧ traceId ≠ some []) ∧
      error.message ≠ [] ∧ refMsgId ≠ some [] ∧ ∀ d, error.detail = some d → d.WF

/-! ### Reading a payload -/

theorem parseProtocolPayload_eq_iff {α : Type} {schema : Zod.Schema α} {e : Envelope}
    {message : JsString} {use : α → ClientFrame} (hu : Function.Injective use)
    (hr : ∀ a message', use a ≠ .message (.rejected .system e message')) {a : α} :
    parseProtocolPayload schema e message use = use a ↔ schema e.payload = some a := by
  unfold parseProtocolPayload
  split
  · rename_i payload hp
    rw [hp, Option.some.injEq, hu.eq_iff]
  · rename_i hp
    rw [hp]
    exact ⟨fun h => absurd h.symm (hr a message), fun h => by cases h⟩

/-- A frame of the hub, once its envelope was read. -/
theorem onMessage_createEnvelope {stamp : Stamp} {connId action : JsString}
    {traceId : Option JsString} {payload : Json} (ha : action ≠ []) (hp : payload.WF)
    {frame : ClientFrame} (hf : frame ≠ .invalid) :
    onMessage (createEnvelope stamp (systemInput (systemSrc connId) action traceId
        payload)).stringify = frame ↔
      (stamp.Fit ∧ connId ≠ [] ∧ traceId ≠ some []) ∧
        handleSystem (systemEnvelope stamp (systemSrc connId) action traceId payload.finitePart) =
          frame := by
  have hiff {e : Envelope} := @readEnvelope_createEnvelope stamp (systemSrc connId) action traceId
    payload ha hp e
  have hpeer : (systemSrc connId).peerId ≠ [] := by simp [systemSrc]
  unfold onMessage
  split
  · rename_i hnone
    refine ⟨fun h => absurd h.symm hf, fun ⟨⟨hfit, hconn, ht⟩, _⟩ => ?_⟩
    have := hiff.2 ⟨⟨hfit, hpeer, hconn, ht⟩, rfl⟩
    rw [hnone] at this
    cases this
  · rename_i e he
    obtain ⟨⟨hfit, -, hconn, ht⟩, rfl⟩ := hiff.1 he
    have hk : (systemEnvelope stamp (systemSrc connId) action traceId payload.finitePart).kind =
      .system := rfl
    rw [if_pos hk]
    exact ⟨fun h => ⟨⟨hfit, hconn, ht⟩, h⟩, fun h => h.2⟩

theorem ackPayload_eq_some {k : JsString} {α : Type} {mk : JsString → JsNumber → α}
    (hk : js "ackFor" ≠ k) (hmk : ∀ s x t y, mk s x = mk t y ↔ s = t ∧ x = y) {ackFor : JsString}
    {time : JsNumber} :
    Zod.object (fun f => do
        let ackFor ← Zod.nonempty (f (js "ackFor"))
        let time ← Zod.number (f k)
        some (mk ackFor time))
      (some (.obj [(js "ackFor", .str ackFor), (k, .num time)])) = some (mk ackFor time) ↔
      ackFor ≠ [] ∧ time.isFinite = true := by
  simp only [Zod.object, Json.lookup_cons, Json.lookup_nil, hk, if_true, if_false,
    Option.bind_eq_bind, Option.bind_eq_some_iff, nonempty_str_eq_some, number_num_eq_some,
    Option.some.injEq, hmk]
  constructor
  · rintro ⟨_, ⟨h1, -⟩, _, ⟨h2, -⟩, -⟩
    exact ⟨h1, h2⟩
  · rintro ⟨h1, h2⟩
    exact ⟨_, ⟨h1, rfl⟩, _, ⟨h2, rfl⟩, rfl, rfl⟩

theorem noncePayload_eq (nonce : Option JsString) :
    sysPingPayloadSchema (some (noncePayload nonce)) = some nonce := by
  cases nonce <;> rfl

theorem strings_eq_some (ss : List JsString) :
    Zod.array Zod.string (some (.arr (ss.map .str))) = some ss := by
  have hstr : ∀ s t : JsString, Zod.string (some (.str s)) = some t ↔ True ∧ t = id s := by
    intro s t
    simp [Zod.string, eq_comm]
  rw [Zod.array_map_eq_some hstr]
  simp

theorem wf_strings (ss : List JsString) : (Json.arr (ss.map .str)).WF :=
  @wf_arr_map JsString Json.str (fun _ => trivial) ss

theorem sdk_connRefSchema_toJson {c c' : ConnRef} :
    Sdk.connRefSchema (some c.toJson) = some c' ↔ (c.Named ∧ c.groupId ≠ some []) ∧ c' = id c := by
  simp only [Sdk.connRefSchema, ConnRef.toJson, Zod.object, Json.lookup_append, Json.lookup_cons,
    Json.lookup_nil, lookup_optMember, js_inj, String.reduceEq, if_true, if_false, Option.some_or,
    Option.none_or, Option.bind_eq_bind, Option.bind_eq_some_iff, nonempty_str_eq_some,
    optional_str_eq_some, Option.some.injEq]
  constructor
  · rintro ⟨_, ⟨h1, rfl⟩, _, ⟨h2, rfl⟩, _, ⟨h3, rfl⟩, _, ⟨h4, rfl⟩, rfl⟩
    exact ⟨⟨⟨h1, h2, h3⟩, h4⟩, rfl⟩
  · rintro ⟨⟨h, h4⟩, rfl⟩
    exact ⟨_, ⟨h.nodeId, rfl⟩, _, ⟨h.connId, rfl⟩, _, ⟨h.peerId, rfl⟩, _, ⟨h4, rfl⟩, rfl⟩

theorem stable_ackPayload {α : Type} (k : JsString) (mk : JsString → JsNumber → α) :
    Zod.Stable (Zod.object fun f => do
      let ackFor ← Zod.nonempty (f (js "ackFor"))
      let time ← Zod.number (f k)
      some (mk ackFor time)) :=
  Zod.stable_object fun f => by simp only [Zod.stable_nonempty _, Zod.stable_number _]

theorem stable_sdk_connRefSchema : Zod.Stable Sdk.connRefSchema :=
  Zod.stable_object fun f => by
    simp only [Zod.stable_nonempty _, Zod.stable_nonempty.optional _]

/-- Every code is read back from its string. -/
theorem errorCodeSchema_text (code : ErrorCode) :
    errorCodeSchema (some (.str code.text)) = some code := by
  cases code <;> simp [errorCodeSchema, Zod.enum, Zod.string, ErrorCode.options, ErrorCode.text]

/-- What was parsed has distinct keys. -/
theorem wf_payload_of_read {raw : JsString} {e : Envelope} (h : readEnvelope raw = some e)
    {p : Json} (hp : e.payload = some p) : p.WF := by
  obtain ⟨v, hv, hof⟩ := Option.bind_eq_some_iff.1 h
  obtain ⟨w, hw, hguard⟩ := Option.bind_eq_some_iff.1 hv
  obtain ⟨rfl, -⟩ := parseEnvelopeValueFast_eq_some.1 hguard
  exact wf_payload_of_ofValue (Json.wf_of_parse hw) hof p hp

/-- So has the detail of an error that was heard. -/
theorem wf_detail_of_onMessage {raw : JsString} {payload : SysErrPayload}
    {traceId : Option JsString} (h : onMessage raw = .message (.err payload traceId)) :
    ∀ d, payload.detail = some d → d.WF := by
  unfold onMessage at h
  split at h
  · cases h
  · rename_i e he
    split_ifs at h
    simp only [handleSystem, parseProtocolPayload] at h
    split_ifs at h <;> first | cases h | split at h <;> cases h
    rename_i hp
    obtain ⟨ms, hms, hshape⟩ := Zod.object_eq_some.1 hp
    simp only [Option.bind_eq_bind, Option.bind_eq_some_iff, Zod.unknown, Option.some.injEq]
      at hshape
    obtain ⟨_, -, _, -, _, -, _, rfl, _, -, _, -, rfl⟩ := hshape
    exact fun d hd => wf_of_lookup (wf_payload_of_read he hms) hd

/-! ### What the client hears -/

namespace OutboundMessage

variable {stamp : Stamp} {connId : JsString}

theorem heard_authOk {auth : AuthContext} {traceId : Option JsString} :
    onMessage ((authOk auth traceId).text stamp connId) = (authOk auth traceId).heard stamp ↔
      (authOk auth traceId).Intact stamp connId := by
  rw [text, createAuthOkEnvelope, onMessage_createEnvelope (by simp) ?_ (by simp [heard]), Intact]
  · refine and_congr_right fun _ => ?_
    simp only [handleSystem, systemEnvelope, if_true, heard]
    rw [parseProtocolPayload_eq_iff (fun a b h => by simpa using h) (by simp)]
    have hstable : Zod.Stable sysAuthOkPayloadSchema := Zod.stable_object fun f => by
      simp only [Zod.stable_nonempty _, Zod.stable_string.array _, Zod.stable_number _]
    refine (iff_of_eq (congrArg (· = _) (hstable (some _)))).trans ?_
    simp only [sysAuthOkPayloadSchema, Zod.object, Json.lookup_cons, Json.lookup_nil, js_inj,
      String.reduceEq, if_true, if_false, Option.bind_eq_bind, Option.bind_eq_some_iff,
      nonempty_str_eq_some, strings_eq_some, number_num_eq_some, Option.some.injEq,
      SysAuthOkPayload.mk.injEq]
    constructor
    · rintro ⟨_, ⟨h1, -⟩, _, -, _, ⟨h2, -⟩, -⟩
      exact ⟨h1, h2⟩
    · rintro ⟨h1, h2⟩
      exact ⟨_, ⟨h1, rfl⟩, _, rfl, _, ⟨h2, rfl⟩, rfl, rfl, rfl⟩
  · exact ⟨by simp, trivial, wf_strings _, trivial, trivial⟩

theorem wf_noncePayload (nonce : Option JsString) : (noncePayload nonce).WF := by
  cases nonce
  · exact ⟨List.nodup_nil, trivial⟩
  · exact ⟨List.nodup_singleton _, trivial, trivial⟩

theorem stable_sysPingPayloadSchema : Zod.Stable sysPingPayloadSchema :=
  Zod.stable_object fun f => by simp only [Zod.stable_string.optional _]

theorem heard_ping :
    onMessage (ping.text stamp connId) = ping.heard stamp ↔ ping.Intact stamp connId := by
  rw [text, createPingEnvelope, onMessage_createEnvelope (by simp) (wf_noncePayload _)
    (by simp [heard]), Intact]
  simp only [handleSystem, systemEnvelope, js_inj, String.reduceEq, if_false, if_true, heard]
  rw [parseProtocolPayload_eq_iff (fun a b h => by simpa using h) (by simp)]
  have hread := (stable_sysPingPayloadSchema (some _)).trans (noncePayload_eq (some stamp.nonce))
  constructor
  · rintro ⟨⟨hfit, hconn, -⟩, -⟩
    exact ⟨hfit, hconn⟩
  · rintro ⟨hfit, hconn⟩
    exact ⟨⟨hfit, hconn, by simp⟩, hread⟩

theorem heard_pong {nonce traceId : Option JsString} :
    onMessage ((pong nonce traceId).text stamp connId) = (pong nonce traceId).heard stamp ↔
      (pong nonce traceId).Intact stamp connId := by
  rw [text, createPongEnvelope, onMessage_createEnvelope (by simp) (wf_noncePayload _)
    (by simp [heard]), Intact]
  simp only [handleSystem, systemEnvelope, js_inj, String.reduceEq, if_false, if_true, heard]
  rw [parseProtocolPayload_eq_iff (fun a b h => by simpa using h) (by simp)]
  exact and_iff_left ((stable_sysPingPayloadSchema (some _)).trans (noncePayload_eq nonce))

theorem heard_recvAck {ackFor : JsString} {traceId : Option JsString} :
    onMessage ((recvAck ackFor traceId).text stamp connId) = (recvAck ackFor traceId).heard stamp ↔
      (recvAck ackFor traceId).Intact stamp connId := by
  rw [text, createRecvAckEnvelope, onMessage_createEnvelope (by simp) ?_ (by simp [heard]), Intact]
  · refine and_congr_right fun _ => ?_
    simp only [handleSystem, systemEnvelope, js_inj, String.reduceEq, if_false, if_true, heard]
    have hu : Function.Injective fun p : SysRecvAckPayload =>
      ClientFrame.message (.recvAck p traceId) := fun a b h => by simpa using h
    rw [parseProtocolPayload_eq_iff hu (by simp)]
    have hstable := stable_ackPayload (js "acceptedAt") SysRecvAckPayload.mk
    refine (iff_of_eq (congrArg (· = _) (hstable (some _)))).trans ?_
    exact ackPayload_eq_some (by simp) fun s x t y => by simp
  · exact ⟨by simp, trivial, trivial, trivial⟩

theorem heard_handleAck {src ackFor : JsString} {traceId : Option JsString} :
    onMessage ((handleAck src ackFor traceId).text stamp connId) =
        (handleAck src ackFor traceId).heard stamp ↔
      (handleAck src ackFor traceId).Intact stamp connId := by
  rw [text, createHandleAckEnvelope, onMessage_createEnvelope (by simp) ?_ (by simp [heard]),
    Intact]
  · refine and_congr_right fun _ => ?_
    simp only [handleSystem, systemEnvelope, js_inj, String.reduceEq, if_false, if_true, heard]
    have hu : Function.Injective fun p : SysHandleAckPayload =>
      ClientFrame.message (.handleAck p traceId) := fun a b h => by simpa using h
    rw [parseProtocolPayload_eq_iff hu (by simp)]
    have hstable := stable_ackPayload (js "handledAt") SysHandleAckPayload.mk
    refine (iff_of_eq (congrArg (· = _) (hstable (some _)))).trans ?_
    exact ackPayload_eq_some (by simp) fun s x t y => by simp
  · exact ⟨by simp, trivial, trivial, trivial⟩

theorem heard_route {resolvedPeers : List JsString} {deliveredConns : List ConnRef}
    {traceId : Option JsString} :
    onMessage ((route resolvedPeers deliveredConns traceId).text stamp connId) =
        (route resolvedPeers deliveredConns traceId).heard stamp ↔
      (route resolvedPeers deliveredConns traceId).Intact stamp connId := by
  rw [text, createRouteEnvelope, onMessage_createEnvelope (by simp) ?_ (by simp [heard]), Intact]
  · refine and_congr_right fun _ => ?_
    simp only [handleSystem, systemEnvelope, js_inj, String.reduceEq, if_false, if_true, heard]
    have hu : Function.Injective fun p : SysRoutePayload =>
      ClientFrame.message (.route p traceId) := fun a b h => by simpa using h
    rw [parseProtocolPayload_eq_iff hu (by simp)]
    have hstable : Zod.Stable sysRoutePayloadSchema := Zod.stable_object fun f => by
      simp only [Zod.stable_nonempty.array _, stable_sdk_connRefSchema.array _]
    refine (iff_of_eq (congrArg (· = _) (hstable (some _)))).trans ?_
    simp only [sysRoutePayloadSchema, Zod.object, Json.lookup_cons, Json.lookup_nil, js_inj,
      String.reduceEq, if_true, if_false, Option.bind_eq_bind, Option.bind_eq_some_iff,
      ids_eq_some, Zod.array_map_eq_some fun _ _ => sdk_connRefSchema_toJson, List.map_id,
      Option.some.injEq, SysRoutePayload.mk.injEq]
    constructor
    · rintro ⟨_, ⟨h1, -⟩, _, ⟨h2, -⟩, -⟩
      exact ⟨h1, h2⟩
    · rintro ⟨h1, h2⟩
      exact ⟨_, ⟨h1, rfl⟩, _, ⟨h2, rfl⟩, rfl, rfl⟩
  · exact ⟨by simp, wf_strings _, wf_arr_map ConnRef.wf_toJson _, trivial⟩

/-- What is read of the payload of an error, once its detail is an object of JSON. -/
theorem sysErrPayloadSchema_eq_iff {error : HardessError} {refMsgId traceId : Option JsString}
    (ht : traceId ≠ some []) :
    sysErrPayloadSchema (some (.obj ([(js "code", .str error.code.text),
          (js "message", .str error.message), (js "retryable", .bool error.retryable)] ++
        optMember (js "detail") error.detail ++
        optMember (js "refMsgId") (refMsgId.map .str) ++
        optMember (js "traceId") (traceId.map .str)))) =
      some (toSysErrPayload error refMsgId traceId) ↔ error.message ≠ [] ∧ refMsgId ≠ some [] := by
  simp only [sysErrPayloadSchema, Zod.object, Json.lookup_append, Json.lookup_cons,
    Json.lookup_nil, lookup_optMember, js_inj, String.reduceEq, if_true, if_false,
    Option.none_or, Option.or_none, Option.bind_eq_bind,
    Option.bind_eq_some_iff, errorCodeSchema_text, nonempty_str_eq_some, Zod.boolean,
    Zod.unknown, optional_str_eq_some, Option.some.injEq, toSysErrPayload,
    SysErrPayload.mk.injEq]
  constructor
  · rintro ⟨_, -, _, ⟨h1, -⟩, _, -, _, -, _, ⟨h2, -⟩, _, -, -⟩
    exact ⟨h1, h2⟩
  · rintro ⟨h1, h2⟩
    exact ⟨_, rfl, _, ⟨h1, rfl⟩, _, rfl, _, rfl, _, ⟨h2, rfl⟩, _, ⟨ht, rfl⟩, rfl, rfl, rfl, rfl,
      rfl, rfl⟩

theorem heard_err {error : HardessError} {refMsgId traceId : Option JsString} :
    onMessage ((err error refMsgId traceId).text stamp connId) =
        (err error refMsgId traceId).heard stamp ↔
      (err error refMsgId traceId).Intact stamp connId := by
  -- on both sides the detail has distinct keys, and what was written is then what is read
  suffices hread : (∀ d, error.detail = some d → d.WF) →
      (onMessage ((err error refMsgId traceId).text stamp connId) =
          (err error refMsgId traceId).heard stamp ↔
        (stamp.Fit ∧ connId ≠ [] ∧ traceId ≠ some []) ∧ error.message ≠ [] ∧
          refMsgId ≠ some []) by
    constructor
    · intro h
      have hd : ∀ d, error.detail = some d → d.WF := fun d hd =>
        Json.wf_finitePart.1 (wf_detail_of_onMessage h _ (congrArg (Option.map _) hd))
      obtain ⟨hbound, hmessage, href⟩ := (hread hd).1 h
      exact ⟨hbound, hmessage, href, hd⟩
    · rintro ⟨hbound, hmessage, href, hd⟩
      exact (hread hd).2 ⟨hbound, hmessage, href⟩
  intro hd
  rw [text, createSysErrEnvelope, onMessage_createEnvelope (by simp) ?_ (by simp [heard])]
  · refine and_congr_right fun hbound => ?_
    simp only [handleSystem, systemEnvelope, js_inj, String.reduceEq, if_false, if_true, heard]
    have hu : Function.Injective fun p : SysErrPayload =>
      ClientFrame.message (.err p traceId) := fun a b h => by simpa using h
    rw [parseProtocolPayload_eq_iff hu (by simp)]
    refine Iff.trans (iff_of_eq (congrArg (fun v => sysErrPayloadSchema (some v) = _) ?_))
      (@sysErrPayloadSchema_eq_iff error.finitePart refMsgId traceId hbound.2.2)
    -- the members that are left out stay out
    cases hdet : error.detail <;> cases refMsgId <;> cases traceId <;>
      simp [hdet, HardessError.finitePart, toSysErrPayload, optMember, Json.finitePart,
        Json.finitePart.members]
  · refine wf_obj [js "code", js "message", js "retryable", js "detail", js "refMsgId",
      js "traceId"] ?_ (by simp) ?_
    · simp only [List.map_append]
      exact (((List.Sublist.refl _).append (keys_optMember_sublist _ _)).append
        (keys_optMember_sublist _ _)).append (keys_optMember_sublist _ _)
    · have hstr : ∀ (k : JsString) (o : Option JsString), ∀ m ∈ optMember k (o.map .str), m.2.WF :=
        fun _ _ => wf_optMember_map fun _ => trivial
      simp only [toSysErrPayload, List.forall_mem_append, List.forall_mem_cons]
      exact ⟨⟨⟨⟨trivial, trivial, trivial, List.forall_mem_nil _⟩, wf_optMember hd⟩, hstr _ _⟩,
        hstr _ _⟩

theorem heard_envelope {e : Envelope} :
    onMessage ((envelope e).text stamp connId) = (envelope e).heard stamp ↔
      (envelope e).Intact stamp connId := by
  obtain ⟨ms, hms, hf⟩ := e.fields_toJson
  simp only [text, heard, Intact, serializeEnvelope]
  constructor
  · intro h
    -- what is heard as a business message was read as one
    have hread : e.kind = .biz ∧ readEnvelope e.toJson.stringify = some e.finitePart := by
      unfold onMessage at h
      split at h
      · cases h
      · rename_i e' he'
        split_ifs at h with hk
        · -- a system message is not taken for a business message
          exfalso
          simp only [handleSystem, parseProtocolPayload] at h
          split_ifs at h <;> first | cases h | (split at h <;> cases h)
        · cases h
          exact ⟨by cases hkind : e.kind <;> simp_all [Envelope.finitePart], he'⟩
    refine ⟨hread.1, ?_⟩
    have hwf : ∀ p, e.payload = some p → p.WF := fun p hp =>
      Json.wf_finitePart.1 (wf_payload_of_read hread.2 (by rw [Envelope.finitePart, hp]; rfl))
    have hobj := Envelope.wf_toJson hwf
    have hread' := hread.2
    rw [hms] at hobj hread'
    obtain ⟨⟨hwell, hsome⟩, -⟩ := (readEnvelope_stringify hf hobj).1 hread'
    obtain ⟨p, hp⟩ := Option.isSome_iff_exists.1 hsome
    exact ⟨hwell, p, hp, hwf p hp⟩
  · rintro ⟨hk, hwell, p, hp, hwf⟩
    have hobj : e.toJson.WF :=
      Envelope.wf_toJson fun q hq => Option.some.inj (hp.symm.trans hq) ▸ hwf
    rw [hms] at hobj
    have hread := (readEnvelope_stringify hf hobj).2 ⟨⟨hwell, by rw [hp]; rfl⟩, rfl⟩
    rw [hms, onMessage, hread]
    simp [Envelope.finitePart, hk]

/-- An intact message is heard as it was sent. -/
theorem Intact.heard {m : OutboundMessage} (h : m.Intact stamp connId) :
    onMessage (m.text stamp connId) = m.heard stamp := by
  cases m with
  | envelope e => exact heard_envelope.2 h
  | authOk auth traceId => exact heard_authOk.2 h
  | ping => exact heard_ping.2 h
  | pong nonce traceId => exact heard_pong.2 h
  | recvAck ackFor traceId => exact heard_recvAck.2 h
  | handleAck src ackFor traceId => exact heard_handleAck.2 h
  | route resolvedPeers deliveredConns traceId => exact heard_route.2 h
  | err error refMsgId traceId => exact heard_err.2 h

/-- **A client takes a frame of the hub for the message that was sent exactly when the message is
intact.** -/
theorem heard_iff (stamp : Stamp) (connId : JsString) (m : OutboundMessage) :
    onMessage (m.text stamp connId) = m.heard stamp ↔ m.Intact stamp connId := by
  refine ⟨fun h => ?_, Intact.heard⟩
  cases m with
  | envelope e => exact heard_envelope.1 h
  | authOk auth traceId => exact heard_authOk.1 h
  | ping => exact heard_ping.1 h
  | pong nonce traceId => exact heard_pong.1 h
  | recvAck ackFor traceId => exact heard_recvAck.1 h
  | handleAck src ackFor traceId => exact heard_handleAck.1 h
  | route resolvedPeers deliveredConns traceId => exact heard_route.1 h
  | err error refMsgId traceId => exact heard_err.1 h

end OutboundMessage

/-! ### What the hub hears -/

/-- The payload of `createSysAuthEnvelope` as the hub reads it. -/
def bearerAuth (token : JsString) : SysAuthPayload where
  provider := js "bearer"
  payload := some (.str token)
  groupId := none

namespace ClientSystemMessage

/-- The envelope of a message. -/
def envelope (stamp : Stamp) (m : ClientSystemMessage) : Envelope :=
  systemEnvelope stamp m.src m.action m.traceId (m.payload stamp)

theorem wf_payload (stamp : Stamp) (m : ClientSystemMessage) : (m.payload stamp).WF := by
  cases m with
  | auth token => exact ⟨by simp, trivial, trivial, trivial⟩
  | ping => exact OutboundMessage.wf_noncePayload _
  | pong nonce traceId => exact OutboundMessage.wf_noncePayload _
  | handleAck ackFor traceId => exact ⟨List.nodup_singleton _, trivial, trivial⟩

/-- Nothing but strings is written. -/
theorem finitePart_payload (stamp : Stamp) (m : ClientSystemMessage) :
    (m.payload stamp).finitePart = m.payload stamp := by
  cases m with
  | auth token => rfl
  | ping => rfl
  | pong nonce traceId => cases nonce <;> rfl
  | handleAck ackFor traceId => rfl

theorem payload_auth (stamp : Stamp) (token : JsString) :
    sysAuthPayloadSchema (some (ClientSystemMessage.payload stamp (.auth token))) =
      some (bearerAuth token) := by
  simp [sysAuthPayloadSchema, ClientSystemMessage.payload, Zod.object, Json.lookup_cons,
    Zod.unknown, Zod.optional, bearerAuth]

variable {stamp : Stamp} {m : ClientSystemMessage}

/-- The sources and the actions of a client are not empty. -/
theorem named (m : ClientSystemMessage) :
    m.action ≠ [] ∧ m.src.peerId ≠ [] ∧ m.src.connId ≠ [] := by
  cases m <;> simp [action, src, localSrc]

theorem read_text (h : stamp.Fit) (ht : m.traceId ≠ some []) :
    readEnvelope (m.text stamp) = some (m.envelope stamp) := by
  rw [text, readEnvelope_createEnvelope m.named.1 (wf_payload stamp m), finitePart_payload]
  exact ⟨⟨h, m.named.2.1, m.named.2.2, ht⟩, rfl⟩

/-- What is read of a frame is the envelope of its message. -/
theorem envelope_of_read {e : Envelope} (h : readEnvelope (m.text stamp) = some e) :
    e = m.envelope stamp := by
  rw [text, readEnvelope_createEnvelope m.named.1 (wf_payload stamp m), finitePart_payload] at h
  exact h.2

/-- **The hub reads a frame of the client as it was created exactly when its id is not empty and its
time is one.** -/
theorem spoken_iff (stamp : Stamp) (m : ClientSystemMessage) (e : Envelope) :
    readEnvelope (m.text stamp) = some e ↔
      (stamp.Fit ∧ m.traceId ≠ some []) ∧ e = m.envelope stamp := by
  refine ⟨fun h => ⟨?_, envelope_of_read h⟩, fun ⟨⟨hfit, ht⟩, heq⟩ => heq ▸ read_text hfit ht⟩
  rw [text, readEnvelope_createEnvelope m.named.1 (wf_payload stamp m)] at h
  exact ⟨h.1.1, h.1.2.2.2⟩

end ClientSystemMessage

end Hardess

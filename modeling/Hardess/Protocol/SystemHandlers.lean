import Hardess.Cluster.Codec
import Hardess.Sdk.HardessClient

/-!
# System messages, as they are written

`src/runtime/protocol/system-handlers.ts`, the messages that the hub itself sends, and the ones that
`src/sdk/runtime/client.ts` creates; both are built by `createEnvelope` of `src/shared/envelope.ts`.

* `Envelope.Fields`: an object has the members of an envelope, in whatever order;
* **`readEnvelope_stringify`**: what is read of such an object once it was written.
-/

namespace Json

theorem lookup_setMember (ms : List (JsString × Json)) (k k' : JsString) (v : Json) :
    lookup (setMember ms k v) k' = if k = k' then some v else lookup ms k' := by
  by_cases hk : k ∈ ms.map Prod.fst
  · rw [setMember, if_pos hk]
    induction ms with
    | nil => simp at hk
    | cons m ms ih =>
      rw [List.map_cons, lookup_cons, lookup_cons]
      by_cases hm : m.1 = k
      · by_cases hk' : k = k'
        · simp [hm, hk']
        · -- the first member is written over, and the later ones of its key are not read
          have hrest :
              lookup (ms.map fun m => if m.1 = k then (k, v) else m) k' = lookup ms k' := by
            clear ih hk hm
            induction ms with
            | nil => rfl
            | cons n ns ih =>
              rw [List.map_cons, lookup_cons, lookup_cons, ih]
              by_cases hn : n.1 = k <;> simp [hn, hk']
          simp [hm, hk', hrest]
      · rw [List.map_cons, List.mem_cons] at hk
        rw [if_neg hm, ih (hk.resolve_left (Ne.symm hm))]
        by_cases hk' : k = k'
        · simp [← hk', hm]
        · simp [hk']
  · rw [setMember_of_notMem hk, lookup_append, lookup_cons, lookup_nil]
    by_cases hk' : k = k'
    · -- no member has the key: the new one comes last, and is the only one
      have hnone : lookup ms k' = none := by
        rw [lookup, Option.map_eq_none_iff, List.find?_eq_none]
        intro m hm
        simp only [decide_eq_true_eq]
        exact fun heq => hk (List.mem_map.2 ⟨m, hm, heq.trans hk'.symm⟩)
      rw [hnone, if_pos hk', Option.none_or]
    · simp [hk']

theorem wf_setMember {ms : List (JsString × Json)} (h : (Json.obj ms).WF) {k : JsString} {v : Json}
    (hv : v.WF) : (Json.obj (setMember ms k v)).WF :=
  ⟨nodup_keys_setMember h.1 k v,
    (WF.members_iff _).2 (forall_setMember ((WF.members_iff ms).1 h.2) k hv)⟩

/-- Writing and parsing leaves the keys alone. -/
theorem wf_finitePart : ∀ {v : Json}, v.finitePart.WF ↔ v.WF
  | .null | .bool _ | .str _ => Iff.rfl
  | .num x => by cases x <;> exact Iff.rfl
  | .arr xs => wf_elems xs
  | .obj ms => by
    rw [finitePart, WF, WF, keys_members, wf_members ms]
where
  wf_elems : ∀ xs : List Json, WF.elems (finitePart.elems xs) ↔ WF.elems xs
    | [] => Iff.rfl
    | _ :: xs => and_congr wf_finitePart (wf_elems xs)
  wf_members : ∀ ms : List (JsString × Json), WF.members (finitePart.members ms) ↔ WF.members ms
    | [] => Iff.rfl
    | (_, _) :: ms => and_congr wf_finitePart (wf_members ms)
  keys_members : ∀ ms : List (JsString × Json),
      (finitePart.members ms).map Prod.fst = ms.map Prod.fst
    | [] => rfl
    | (k, _) :: ms => congrArg (k :: ·) (keys_members ms)

end Json

namespace Hardess

/-! ### Reading what was written -/

/-- The envelope in a frame. -/
def readEnvelope (raw : JsString) : Option Envelope := (parseEnvelope raw).bind Envelope.ofValue

/-- The members are those of the envelope, in whatever order. -/
structure Envelope.Fields (e : Envelope) (ms : List (JsString × Json)) : Prop where
  msgId : Json.lookup ms (js "msgId") = some (.str e.msgId)
  kind : Json.lookup ms (js "kind") = some e.kind.toJson
  src : Json.lookup ms (js "src") = some e.src.toJson
  protocol : Json.lookup ms (js "protocol") = some (.str e.protocol)
  version : Json.lookup ms (js "version") = some (.str e.version)
  action : Json.lookup ms (js "action") = some (.str e.action)
  streamId : Json.lookup ms (js "streamId") = e.streamId.map .str
  seq : Json.lookup ms (js "seq") = e.seq.map .num
  ts : Json.lookup ms (js "ts") = some (.num e.ts)
  traceId : Json.lookup ms (js "traceId") = e.traceId.map .str
  payload : Json.lookup ms (js "payload") = e.payload

/-- `serializeEnvelope` writes the fields. -/
theorem Envelope.fields_toJson (e : Envelope) : ∃ ms, e.toJson = .obj ms ∧ e.Fields ms := by
  refine ⟨_, rfl, ?_⟩
  constructor <;> simp [Json.lookup_append, Json.lookup_cons]

theorem numberProp_finitePart {x y : JsNumber} :
    numberProp (some (Json.num x).finitePart) = some y ↔ x.isFinite = true ∧ y = x := by
  cases x <;> simp [Json.finitePart, numberProp, JsNumber.isFinite, eq_comm]

theorem optional_numberProp_finitePart {o o' : Option JsNumber} :
    Zod.optional numberProp ((o.map Json.num).map Json.finitePart) = some o' ↔
      (∀ x, o = some x → x.isFinite = true) ∧ o' = o := by
  rw [Option.map_map]
  exact Zod.optional_map_eq_some fun _ _ => numberProp_finitePart

/-- The envelope in an object with its fields, once the object was written and parsed. -/
theorem Envelope.Fields.ofValue_finitePart {e e' : Envelope} {ms : List (JsString × Json)}
    (h : e.Fields ms) : Envelope.ofValue (.obj (Json.finitePart.members ms)) = some e' ↔
      (e.ts.isFinite = true ∧ ∀ n, e.seq = some n → n.isFinite = true) ∧ e' = e.finitePart := by
  have hkind : e.kind.toJson.finitePart = e.kind.toJson := by cases e.kind <;> rfl
  have hsrc : e.src.toJson.finitePart = e.src.toJson := rfl
  have hs : ∀ s : JsString, (Json.str s).finitePart = .str s := fun _ => rfl
  have hread := e.ofValue_toJson
  obtain ⟨ms', hms', hf⟩ := e.fields_toJson
  rw [hms', Envelope.ofValue_eq_some] at hread
  obtain ⟨_, ⟨⟩, -, h2, h3, -, -, -, -, -, -, -, -⟩ := hread
  rw [hf.kind] at h2
  rw [hf.src] at h3
  have hstr : ∀ o o' : Option JsString,
      Zod.optional Zod.string ((o.map Json.str).map Json.finitePart) = some o' ↔ o' = o := by
    intro o o'
    cases o <;> simp [Zod.optional, Zod.string, Json.finitePart, eq_comm]
  rw [Envelope.ofValue_eq_some]
  simp only [Json.obj.injEq, exists_eq_left', Json.lookup_finitePart, h.msgId, h.kind, h.src,
    h.protocol, h.version, h.action, h.streamId, h.seq, h.ts, h.traceId, h.payload, hkind, hsrc,
    Option.map_some, h2, h3, hstr, optional_numberProp_finitePart, numberProp_finitePart,
    hs, Zod.string, Option.some.injEq]
  obtain ⟨msgId, kind, src, protocol, version, action, streamId, seq, ts, traceId, payload⟩ := e'
  simp only [Envelope.finitePart, Envelope.mk.injEq]
  constructor
  · rintro ⟨rfl, rfl, rfl, rfl, rfl, rfl, rfl, ⟨hseq, rfl⟩, ⟨hts, rfl⟩, rfl, rfl⟩
    exact ⟨⟨hts, hseq⟩, rfl, rfl, rfl, rfl, rfl, rfl, rfl, rfl, rfl, rfl, rfl⟩
  · rintro ⟨⟨hts, hseq⟩, rfl, rfl, rfl, rfl, rfl, rfl, rfl, rfl, rfl, rfl, rfl⟩
    exact ⟨rfl, rfl, rfl, rfl, rfl, rfl, rfl, ⟨hseq, rfl⟩, ⟨hts, rfl⟩, rfl, rfl⟩

theorem Envelope.wellFormed_finitePart {integer : JsNumber → Bool} {e : Envelope} :
    e.finitePart.WellFormed integer ↔ e.WellFormed integer :=
  ⟨fun h => ⟨h.1, h.2, h.3, h.4, h.5, h.6, h.7, h.8, h.9, h.10⟩,
    fun h => ⟨h.1, h.2, h.3, h.4, h.5, h.6, h.7, h.8, h.9, h.10⟩⟩

/-- **An object with the fields of an envelope is read as that envelope exactly when the envelope
is well formed and has a payload.** -/
theorem readEnvelope_stringify {e e' : Envelope} {ms : List (JsString × Json)} (h : e.Fields ms)
    (hwf : (Json.obj ms).WF) : readEnvelope (Json.stringify (.obj ms)) = some e' ↔
      (e.WellFormed JsNumber.isInteger ∧ e.payload.isSome = true) ∧ e' = e.finitePart := by
  have hpayload : e.finitePart.payload.isSome = e.payload.isSome := Option.isSome_map
  rw [readEnvelope, parseEnvelope, Json.parse_stringify hwf, Option.bind_some]
  simp only [Option.bind_eq_some_iff, parseEnvelopeValueFast_eq_some, Json.finitePart]
  constructor
  · rintro ⟨_, ⟨rfl, e₁, he₁, hw, hp⟩, he'⟩
    obtain rfl : e₁ = e' := Option.some.inj (he₁.symm.trans he')
    obtain ⟨-, rfl⟩ := h.ofValue_finitePart.1 he'
    exact ⟨⟨Envelope.wellFormed_finitePart.1 hw, hpayload ▸ hp⟩, rfl⟩
  · rintro ⟨⟨hw, hp⟩, rfl⟩
    have hfin : ∀ n, e.seq = some n → n.isFinite = true := by
      intro n hn
      have hint := (hw.seq n hn).1
      cases n <;> simp_all [JsNumber.isInteger, JsNumber.isFinite]
    have hread := h.ofValue_finitePart.2 ⟨⟨hw.ts.1, hfin⟩, rfl⟩
    exact ⟨_, ⟨rfl, _, hread, Envelope.wellFormed_finitePart.2 hw, hpayload ▸ hp⟩, hread⟩

/-! ### Creating messages -/

/-- What `crypto.randomUUID()` and `Date.now()` return while a message is created: for its id, its
nonce, the time it reports and its own time. -/
structure Stamp where
  msgId : JsString
  nonce : JsString
  time : JsNumber
  ts : JsNumber

/-- The id and the time are good for an envelope. -/
structure Stamp.Fit (stamp : Stamp) : Prop where
  msgId : stamp.msgId ≠ []
  ts : stamp.ts.isFinite = true ∧ stamp.ts.lt (.ofNat 0) = false

/-- `createEnvelope`. -/
def createEnvelope (stamp : Stamp) (input : List (JsString × Json)) : Json :=
  let msgId := (Json.lookup input (js "msgId")).getD (.str stamp.msgId)
  let ts := (Json.lookup input (js "ts")).getD (.num stamp.ts)
  .obj (Json.setMember (Json.setMember input (js "msgId") msgId) (js "ts") ts)

/-- The literal of a system message that is handed to `createEnvelope`. -/
def systemInput (src : EnvelopeSrc) (action : JsString) (traceId : Option JsString)
    (payload : Json) : List (JsString × Json) :=
  [(js "kind", EnvelopeKind.system.toJson), (js "src", src.toJson),
    (js "protocol", .str (js "sys")), (js "version", .str (js "1.0")), (js "action", .str action)] ++
    optMember (js "traceId") (traceId.map .str) ++ [(js "payload", payload)]

/-- The envelope of a system message. -/
def systemEnvelope (stamp : Stamp) (src : EnvelopeSrc) (action : JsString)
    (traceId : Option JsString) (payload : Json) : Envelope where
  msgId := stamp.msgId
  kind := .system
  src := src
  protocol := js "sys"
  version := js "1.0"
  action := action
  ts := stamp.ts
  traceId := traceId
  payload := some payload

theorem fields_createEnvelope (stamp : Stamp) (src : EnvelopeSrc) (action : JsString)
    (traceId : Option JsString) (payload : Json) :
    ∃ ms, createEnvelope stamp (systemInput src action traceId payload) = .obj ms ∧
      (systemEnvelope stamp src action traceId payload).Fields ms := by
  refine ⟨_, rfl, ?_⟩
  constructor <;>
    simp [Json.lookup_setMember, systemInput, systemEnvelope, Json.lookup_append, Json.lookup_cons]

theorem wf_createEnvelope (stamp : Stamp) (src : EnvelopeSrc) (action : JsString)
    (traceId : Option JsString) {payload : Json} (hp : payload.WF) :
    (createEnvelope stamp (systemInput src action traceId payload)).WF := by
  refine Json.wf_setMember (Json.wf_setMember ?_ ?_) ?_
  · refine wf_obj [js "kind", js "src", js "protocol", js "version", js "action", js "traceId",
      js "payload"] ?_ (by simp) ?_
    · simp only [systemInput, List.map_append]
      exact ((List.Sublist.refl _).append (keys_optMember_sublist _ _)).append (List.Sublist.refl _)
    · have hsrc : src.toJson.WF := ⟨by simp, trivial, trivial, trivial⟩
      simp only [systemInput, List.forall_mem_append, List.forall_mem_cons]
      exact ⟨⟨⟨trivial, hsrc, trivial, trivial, trivial, List.forall_mem_nil _⟩,
        wf_optMember_map fun _ => trivial⟩, hp, List.forall_mem_nil _⟩
  · simp [systemInput, Json.lookup_append, Json.lookup_cons, Json.WF]
  · simp [systemInput, Json.lookup_append, Json.lookup_cons, Json.WF]

/-- **A system message is read as it was created exactly when its ids are not empty and its time is
one.** -/
theorem readEnvelope_createEnvelope {stamp : Stamp} {src : EnvelopeSrc} {action : JsString}
    {traceId : Option JsString} {payload : Json} (ha : action ≠ []) (hp : payload.WF)
    {e : Envelope} :
    readEnvelope (createEnvelope stamp (systemInput src action traceId payload)).stringify =
        some e ↔
      (stamp.Fit ∧ src.peerId ≠ [] ∧ src.connId ≠ [] ∧ traceId ≠ some []) ∧
        e = systemEnvelope stamp src action traceId payload.finitePart := by
  obtain ⟨ms, hms, hf⟩ := fields_createEnvelope stamp src action traceId payload
  have hwf := wf_createEnvelope stamp src action traceId hp
  rw [hms] at hwf ⊢
  rw [readEnvelope_stringify hf hwf]
  refine and_congr_left fun _ => ⟨fun ⟨h, _⟩ => ?_, fun ⟨h, hpeer, hconn, ht⟩ => ?_⟩
  · exact ⟨⟨h.msgId, h.ts⟩, h.srcPeerId, h.srcConnId, h.traceId⟩
  · have hfixed : js "sys" ≠ [] ∧ js "1.0" ≠ [] := by simp
    exact ⟨⟨h.msgId, hpeer, hconn, hfixed.1, hfixed.2, ha, by simp [systemEnvelope],
      by simp [systemEnvelope], h.ts, ht⟩, rfl⟩

/-! ### The messages of the hub -/

/-- `systemSrc`. -/
def systemSrc (connId : JsString) : EnvelopeSrc := ⟨js "hardess.system", connId⟩

/-- `createAuthOkEnvelope`. -/
def createAuthOkEnvelope (stamp : Stamp) (auth : AuthContext) (connId : JsString)
    (traceId : Option JsString) : Json :=
  createEnvelope stamp (systemInput (systemSrc connId) (js "auth.ok") traceId
    (.obj [(js "peerId", .str auth.peerId), (js "capabilities", .arr (auth.capabilities.map .str)),
      (js "expiresAt", .num auth.expiresAt)]))

/-- The payload of a `ping` or a `pong`. -/
def noncePayload (nonce : Option JsString) : Json := .obj (optMember (js "nonce") (nonce.map .str))

/-- `createPongEnvelope`. -/
def createPongEnvelope (stamp : Stamp) (connId : JsString) (nonce traceId : Option JsString) :
    Json :=
  createEnvelope stamp (systemInput (systemSrc connId) (js "pong") traceId (noncePayload nonce))

/-- `createPingEnvelope`. -/
def createPingEnvelope (stamp : Stamp) (connId : JsString) (nonce traceId : Option JsString) :
    Json :=
  createEnvelope stamp (systemInput (systemSrc connId) (js "ping") traceId (noncePayload nonce))

/-- `createRecvAckEnvelope`. -/
def createRecvAckEnvelope (stamp : Stamp) (connId ackFor : JsString) (traceId : Option JsString) :
    Json :=
  createEnvelope stamp (systemInput (systemSrc connId) (js "recvAck") traceId
    (.obj [(js "ackFor", .str ackFor), (js "acceptedAt", .num stamp.time)]))

/-- `createHandleAckEnvelope`. -/
def createHandleAckEnvelope (stamp : Stamp) (connId ackFor : JsString)
    (traceId : Option JsString) : Json :=
  createEnvelope stamp (systemInput (systemSrc connId) (js "handleAck") traceId
    (.obj [(js "ackFor", .str ackFor), (js "handledAt", .num stamp.time)]))

/-- `createRouteEnvelope`. -/
def createRouteEnvelope (stamp : Stamp) (connId : JsString) (payload : SysRoutePayload)
    (traceId : Option JsString) : Json :=
  createEnvelope stamp (systemInput (systemSrc connId) (js "route") traceId
    (.obj [(js "resolvedPeers", .arr (payload.resolvedPeers.map .str)),
      (js "deliveredConns", .arr (payload.deliveredConns.map ConnRef.toJson))]))

/-- `toSysErrPayload`. -/
def toSysErrPayload (error : HardessError) (refMsgId traceId : Option JsString) :
    SysErrPayload where
  code := error.code
  message := error.message
  retryable := error.retryable
  detail := error.detail
  refMsgId := refMsgId
  traceId := traceId

/-- `createSysErrEnvelope`. -/
def createSysErrEnvelope (stamp : Stamp) (error : HardessError) (connId : JsString)
    (traceId refMsgId : Option JsString) : Json :=
  let payload := toSysErrPayload error refMsgId traceId
  createEnvelope stamp (systemInput (systemSrc connId) (js "err") traceId
    (.obj ([(js "code", .str payload.code.text), (js "message", .str payload.message),
        (js "retryable", .bool payload.retryable)] ++
      optMember (js "detail") payload.detail ++
      optMember (js "refMsgId") (payload.refMsgId.map .str) ++
      optMember (js "traceId") (payload.traceId.map .str))))

/-- The frame of a message for a connection. -/
def OutboundMessage.text (stamp : Stamp) (connId : JsString) : OutboundMessage → JsString
  | .envelope e => serializeEnvelope e
  | .authOk auth traceId => (createAuthOkEnvelope stamp auth connId traceId).stringify
  | .ping => (createPingEnvelope stamp connId (some stamp.nonce) none).stringify
  | .pong nonce traceId => (createPongEnvelope stamp connId nonce traceId).stringify
  | .recvAck ackFor traceId => (createRecvAckEnvelope stamp connId ackFor traceId).stringify
  | .handleAck src ackFor traceId => (createHandleAckEnvelope stamp src ackFor traceId).stringify
  | .route resolvedPeers deliveredConns traceId =>
    (createRouteEnvelope stamp connId ⟨resolvedPeers, deliveredConns⟩ traceId).stringify
  | .err error refMsgId traceId =>
    (createSysErrEnvelope stamp error connId traceId refMsgId).stringify

/-! ### The messages of the client -/

/-- The system messages of a client: `sendAuth`, the timer of `startHeartbeat`, the answer to a
`ping`, and `ackHandled`. -/
inductive ClientSystemMessage
  | auth (token : JsString)
  | ping
  | pong (nonce traceId : Option JsString)
  | handleAck (ackFor : JsString) (traceId : Option JsString)

/-- The `src` that a client writes. -/
def localSrc : EnvelopeSrc := ⟨js "local", js "local"⟩

namespace ClientSystemMessage

/-- The `src` of a message. -/
def src : ClientSystemMessage → EnvelopeSrc
  | .auth _ => ⟨js "anonymous", js "pending"⟩
  | _ => localSrc

/-- The `action` of a message. -/
def action : ClientSystemMessage → JsString
  | .auth _ => js "auth"
  | .ping => js "ping"
  | .pong .. => js "pong"
  | .handleAck .. => js "handleAck"

/-- The `traceId` of a message. -/
def traceId : ClientSystemMessage → Option JsString
  | .pong _ traceId => traceId
  | .handleAck _ traceId => traceId
  | _ => none

/-- The `payload` of a message. -/
def payload (stamp : Stamp) : ClientSystemMessage → Json
  | .auth token => .obj [(js "provider", .str (js "bearer")), (js "payload", .str token)]
  | .ping => noncePayload (some stamp.nonce)
  | .pong nonce _ => noncePayload nonce
  | .handleAck ackFor _ => .obj [(js "ackFor", .str ackFor)]

/-- The frame of a message. -/
def text (stamp : Stamp) (m : ClientSystemMessage) : JsString :=
  (createEnvelope stamp (systemInput m.src m.action m.traceId (m.payload stamp))).stringify

end ClientSystemMessage

end Hardess

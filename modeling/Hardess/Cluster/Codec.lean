import Hardess.Cluster.Schema

/-!
# What survives the trip between nodes

* `schema_toJson`: which messages the schema accepts, and what it makes of them;
* `schema_finitePart`: what writing and parsing does to the accepted message;
* **`parse_stringify_iff`**: a message comes back as it was sent exactly when it is
  `Faithful`;
* **`relay_iff`**: an envelope that the ingress guard accepted reaches another node with its
  fields unchanged exactly when it is `Envelope.Relayable`.
-/

namespace Hardess

/-! ### References and health items -/

/-- The ids of a reference are non-empty. -/
structure ConnRef.Named (c : ConnRef) : Prop where
  nodeId : c.nodeId ≠ []
  connId : c.connId ≠ []
  peerId : c.peerId ≠ []

/-- What the schema of the cluster keeps of a reference. -/
def ConnRef.withoutGroup (c : ConnRef) : ConnRef := { c with groupId := none }

theorem nonempty_str_eq_some {s t : JsString} :
    Zod.nonempty (some (.str s)) = some t ↔ s ≠ [] ∧ t = s := by
  rw [Zod.nonempty_eq_some, Zod.string, Option.some.injEq]
  constructor
  · rintro ⟨rfl, h⟩; exact ⟨h, rfl⟩
  · rintro ⟨h, rfl⟩; exact ⟨rfl, h⟩

theorem optional_str_eq_some {o o' : Option JsString} :
    Zod.optional Zod.nonempty (o.map .str) = some o' ↔ o ≠ some [] ∧ o' = o := by
  rw [Zod.optional_map_eq_some fun _ _ => nonempty_str_eq_some]
  refine and_congr_left fun _ => ⟨fun h hn => h [] hn rfl, fun h a ha hn => h (by rw [ha, hn])⟩

theorem connRefSchema_toJson {c c' : ConnRef} :
    connRefSchema (some c.toJson) = some c' ↔ c.Named ∧ c' = c.withoutGroup := by
  simp only [connRefSchema, ConnRef.toJson, Zod.object, Json.lookup_append, Json.lookup_cons,
    Json.lookup_nil, js_inj, String.reduceEq, if_true, if_false, Option.some_or,
    Option.bind_eq_bind, Option.bind_eq_some_iff, nonempty_str_eq_some, Option.some.injEq]
  constructor
  · rintro ⟨_, ⟨h1, rfl⟩, _, ⟨h2, rfl⟩, _, ⟨h3, rfl⟩, rfl⟩
    exact ⟨⟨h1, h2, h3⟩, rfl⟩
  · rintro ⟨h, rfl⟩
    exact ⟨_, ⟨h.nodeId, rfl⟩, _, ⟨h.connId, rfl⟩, _, ⟨h.peerId, rfl⟩, rfl⟩

/-- What the schema asks of a health item. -/
structure PeerHealthItem.Valid (i : PeerHealthItem) : Prop where
  peerNodeId : i.peerNodeId ≠ []
  incarnation : i.incarnation.isSafeInteger = true ∧ i.incarnation.lt (.ofNat 1) = false
  lastAliveAt : ∀ x, i.lastAliveAt = some x → x.isFinite = true

theorem number_num_eq_some {x y : JsNumber} :
    Zod.number (some (.num x)) = some y ↔ x.isFinite = true ∧ y = x := by
  rw [Zod.number_eq_some]
  constructor
  · rintro ⟨h, hf⟩; cases h; exact ⟨hf, rfl⟩
  · rintro ⟨hf, rfl⟩; exact ⟨rfl, hf⟩

theorem intMin_num_eq_some {n : ℕ} {x y : JsNumber} :
    Zod.intMin n (some (.num x)) = some y ↔
      (x.isSafeInteger = true ∧ x.lt (.ofNat n) = false) ∧ y = x := by
  have hfin : x.isSafeInteger = true → x.isFinite = true := by
    cases x <;> simp [JsNumber.isSafeInteger, JsNumber.isFinite]
  rw [Zod.intMin, Option.filter_eq_some_iff, Zod.int, Option.filter_eq_some_iff,
    number_num_eq_some]
  constructor
  · rintro ⟨⟨⟨-, rfl⟩, h1⟩, h2⟩; exact ⟨⟨h1, by simpa using h2⟩, rfl⟩
  · rintro ⟨⟨h1, h2⟩, rfl⟩; exact ⟨⟨⟨hfin h1, rfl⟩, h1⟩, by simpa using h2⟩

theorem clusterPeerHealthStatusSchema_toJson {s t : ReportedStatus} :
    clusterPeerHealthStatusSchema (some s.toJson) = some t ↔ t = s := by
  cases s <;> simp [clusterPeerHealthStatusSchema, Zod.enum, Zod.string, ReportedStatus.toJson,
    eq_comm]

theorem ackModeSchema_toJson {a b : AckMode} :
    ackModeSchema (some a.toJson) = some b ↔ b = a := by
  cases a <;> simp [ackModeSchema, Zod.enum, Zod.string, AckMode.toJson, eq_comm]

/-- A health item is read from the members of any object that has them. -/
theorem peerHealthItemShape_eq_some {f : JsString → Option Json} {i i' : PeerHealthItem}
    (h1 : f (js "peerNodeId") = some (.str i.peerNodeId))
    (h2 : f (js "status") = some i.status.toJson)
    (h3 : f (js "incarnation") = some (.num i.incarnation))
    (h4 : f (js "lastAliveAt") = i.lastAliveAt.map .num) :
    peerHealthItemShape f = some i' ↔ i.Valid ∧ i' = i := by
  simp only [peerHealthItemShape, h1, h2, h3, h4, Option.bind_eq_bind, Option.bind_eq_some_iff,
    nonempty_str_eq_some, clusterPeerHealthStatusSchema_toJson, intMin_num_eq_some,
    Zod.optional_map_eq_some fun _ _ => number_num_eq_some, Option.some.injEq]
  constructor
  · rintro ⟨_, ⟨h1, rfl⟩, _, rfl, _, ⟨h3, rfl⟩, _, ⟨h4, rfl⟩, rfl⟩
    exact ⟨⟨h1, h3, h4⟩, rfl⟩
  · rintro ⟨h, rfl⟩
    exact ⟨_, ⟨h.peerNodeId, rfl⟩, _, rfl, _, ⟨h.incarnation, rfl⟩, _, ⟨h.lastAliveAt, rfl⟩, rfl⟩

theorem peerHealthItemSchema_members {i i' : PeerHealthItem} :
    Zod.object peerHealthItemShape (some (.obj i.members)) = some i' ↔ i.Valid ∧ i' = i := by
  rw [Zod.object]
  refine peerHealthItemShape_eq_some ?_ ?_ ?_ ?_ <;>
    simp [PeerHealthItem.members, Json.lookup_cons]

theorem items_eq_some {is is' : List PeerHealthItem} :
    Zod.array (Zod.object peerHealthItemShape) (some (.arr (is.map fun i => .obj i.members))) =
      some is' ↔ (∀ i ∈ is, i.Valid) ∧ is' = is := by
  rw [Zod.array_map_eq_some fun _ _ => peerHealthItemSchema_members, List.map_id']

theorem ids_eq_some {ids ids' : List JsString} :
    Zod.array Zod.nonempty (some (.arr (ids.map .str))) = some ids' ↔
      (∀ n ∈ ids, n ≠ []) ∧ ids' = ids := by
  rw [Zod.array_map_eq_some fun _ _ => nonempty_str_eq_some, List.map_id']

/-! ### Envelopes -/

theorem optional_map_some {α : Type} {schema : Zod.Schema α} {write : α → Json}
    (h : ∀ a, schema (some (write a)) = some a) (o : Option α) :
    Zod.optional schema (o.map write) = some o := by
  cases o with
  | none => rfl
  | some a => exact congrArg (Option.map some) (h a)

/-- An envelope reads back from its object. -/
theorem Envelope.ofValue_toJson (e : Envelope) : Envelope.ofValue e.toJson = some e := by
  rw [Envelope.ofValue_eq_some]
  refine ⟨_, rfl, ?_⟩
  have hkind : Zod.enum EnvelopeKind.options (some e.kind.toJson) = some e.kind := by
    cases e.kind <;> simp [Zod.enum, Zod.string, EnvelopeKind.options, EnvelopeKind.toJson]
  have hsrc : srcProp (some e.src.toJson) = some e.src := by
    rw [srcProp_eq_some]
    exact ⟨_, rfl, by simp [Json.lookup_cons, Zod.string], by simp [Json.lookup_cons, Zod.string]⟩
  have hstr : ∀ o : Option JsString, Zod.optional Zod.string (o.map .str) = some o :=
    optional_map_some fun _ => rfl
  have hnum : ∀ o : Option JsNumber, Zod.optional numberProp (o.map .num) = some o :=
    optional_map_some fun _ => rfl
  simp [Json.lookup_append, Json.lookup_cons, Zod.string, numberProp, hkind, hsrc, hstr, hnum]

theorem Envelope.finitePart_eq_self_iff (e : Envelope) :
    e.finitePart = e ↔ ∀ p, e.payload = some p → p.AllFinite := by
  obtain ⟨_, _, _, _, _, _, _, _, _, _, p⟩ := e
  cases p <;> simp [Envelope.finitePart, Json.finitePart_eq_self]

/-! ### Messages -/

namespace ClusterSocketMessage

/-- What the schemas ask of a message. -/
def Valid : ClusterSocketMessage → Prop
  | .hello nodeId secret => nodeId ≠ [] ∧ secret ≠ some []
  | .helloAck nodeId => nodeId ≠ []
  | .ping ts => ts.isFinite = true
  | .pong ts => ts.isFinite = true
  | .peerHealthRumor rumor => rumor.Valid
  | .peerHealthDigest digests => ∀ i ∈ digests, i.Valid
  | .peerHealthRepairRequest peerNodeIds => (∀ n ∈ peerNodeIds, n ≠ []) ∧ peerNodeIds ≠ []
  | .peerHealthSync rumors => ∀ i ∈ rumors, i.Valid
  | .deliver ref sender envelope _ targets =>
    ref ≠ [] ∧ sender.Named ∧ envelope.WellFormed JsNumber.isSafeInteger ∧ ∀ c ∈ targets, c.Named
  | .deliverResult ref deliveredConns error =>
    ref ≠ [] ∧ (∀ c ∈ deliveredConns, c.Named) ∧ error ≠ some []
  | .handleAck ref sender ackFor traceId =>
    ref ≠ [] ∧ sender.Named ∧ ackFor ≠ [] ∧ traceId ≠ some []
  | .handleAckResult ref _ error => ref ≠ [] ∧ error ≠ some []

/-- The message as the schemas return it: no reference has a `groupId`. -/
def withoutGroups : ClusterSocketMessage → ClusterSocketMessage
  | .deliver ref sender envelope ack targets =>
    .deliver ref sender.withoutGroup envelope ack (targets.map ConnRef.withoutGroup)
  | .deliverResult ref deliveredConns error =>
    .deliverResult ref (deliveredConns.map ConnRef.withoutGroup) error
  | .handleAck ref sender ackFor traceId => .handleAck ref sender.withoutGroup ackFor traceId
  | m => m

/-- The schema of a frame around an envelope that is JSON already. -/
theorem schema_deliverFrame {ref : JsString} {sender : ConnRef} {envelope : Json} {ack : AckMode}
    {targets : List ConnRef} {m : ClusterSocketMessage} :
    clusterSocketMessageSchema (some (deliverFrame ref sender envelope ack targets)) = some m ↔
      ref ≠ [] ∧ sender.Named ∧ (∀ c ∈ targets, c.Named) ∧
        ∃ e, envelopeSchema (some envelope) = some e ∧
          m = .deliver ref sender.withoutGroup e ack (targets.map ConnRef.withoutGroup) := by
  have hselect : clusterSocketMessageSchema (some (deliverFrame ref sender envelope ack targets)) =
      clusterDeliverMessageSchema (some (deliverFrame ref sender envelope ack targets)) := by
    simp [clusterSocketMessageSchema, Zod.discriminatedUnion, deliverFrame, Json.lookup_cons]
  rw [hselect]
  simp only [clusterDeliverMessageSchema, deliverFrame, Zod.object, Json.lookup_cons,
    Json.lookup_nil, js_inj, String.reduceEq, if_true, if_false, Zod.literal,
    Option.bind_eq_bind, Option.bind_some, Option.bind_eq_some_iff, nonempty_str_eq_some,
    connRefSchema_toJson, ackModeSchema_toJson,
    Zod.array_map_eq_some fun _ _ => connRefSchema_toJson, Option.some.injEq]
  constructor
  · rintro ⟨_, ⟨h1, rfl⟩, _, ⟨h2, rfl⟩, e, he, _, rfl, _, ⟨h3, rfl⟩, rfl⟩
    exact ⟨h1, h2, h3, e, he, rfl⟩
  · rintro ⟨h1, h2, h3, e, he, rfl⟩
    exact ⟨_, ⟨h1, rfl⟩, _, ⟨h2, rfl⟩, e, he, _, rfl, _, ⟨h3, rfl⟩, rfl⟩

/-- The schema of the messages of this type. -/
def memberSchema : ClusterSocketMessage → Zod.Schema ClusterSocketMessage
  | .hello .. => clusterHelloMessageSchema
  | .helloAck .. => clusterHelloAckMessageSchema
  | .ping .. => clusterPingMessageSchema
  | .pong .. => clusterPongMessageSchema
  | .peerHealthRumor .. => clusterPeerHealthRumorMessageSchema
  | .peerHealthDigest .. => clusterPeerHealthDigestMessageSchema
  | .peerHealthRepairRequest .. => clusterPeerHealthRepairRequestMessageSchema
  | .peerHealthSync .. => clusterPeerHealthSyncMessageSchema
  | .deliver .. => clusterDeliverMessageSchema
  | .deliverResult .. => clusterDeliverResultMessageSchema
  | .handleAck .. => clusterHandleAckMessageSchema
  | .handleAckResult .. => clusterHandleAckResultMessageSchema

/-- The union reads a message with the schema of its type. -/
theorem schema_eq_memberSchema (m : ClusterSocketMessage) :
    clusterSocketMessageSchema (some m.toJson) = m.memberSchema (some m.toJson) := by
  cases m <;>
    simp [clusterSocketMessageSchema, Zod.discriminatedUnion, toJson, deliverFrame,
      Json.lookup_cons, memberSchema]

/-- A message of one field is read with the schema of the field. -/
theorem field_eq_some {α : Type} {tag k : JsString} {v : Json} {schema : Zod.Schema α}
    {write : α → ClusterSocketMessage} {P : Prop} {a : α} {m : ClusterSocketMessage}
    (hk : js "type" ≠ k) (h : ∀ b, schema (some v) = some b ↔ P ∧ b = a) :
    Zod.object (fun f => do
        let _ ← Zod.literal tag (f (js "type"))
        let b ← schema (f k)
        some (write b)) (some (.obj [(js "type", .str tag), (k, v)])) = some m ↔
      P ∧ m = write a := by
  simp only [Zod.object, Json.lookup_cons, Json.lookup_nil, hk, if_true, if_false, Zod.literal,
    Option.bind_eq_bind, Option.bind_some, Option.bind_eq_some_iff, Option.some.injEq, h]
  constructor
  · rintro ⟨_, ⟨hP, rfl⟩, rfl⟩
    exact ⟨hP, rfl⟩
  · rintro ⟨hP, rfl⟩
    exact ⟨_, ⟨hP, rfl⟩, rfl⟩

/-- The schema accepts the valid messages, and drops the groups of their references. -/
theorem schema_toJson (m m' : ClusterSocketMessage) :
    clusterSocketMessageSchema (some m.toJson) = some m' ↔ m.Valid ∧ m' = m.withoutGroups := by
  rw [schema_eq_memberSchema]
  cases m with
  | hello nodeId secret =>
    simp only [memberSchema, clusterHelloMessageSchema, toJson, Zod.object, Json.lookup_append,
      Json.lookup_cons, Json.lookup_nil, lookup_optMember, js_inj, String.reduceEq, if_true,
      if_false, Zod.literal, Option.bind_eq_bind, Option.bind_some, Option.bind_eq_some_iff,
      Option.none_or, Option.or_none, Option.some.injEq, nonempty_str_eq_some,
      optional_str_eq_some]
    constructor
    · rintro ⟨_, ⟨h1, rfl⟩, _, ⟨h2, rfl⟩, rfl⟩
      exact ⟨⟨h1, h2⟩, rfl⟩
    · rintro ⟨⟨h1, h2⟩, rfl⟩
      exact ⟨_, ⟨h1, rfl⟩, _, ⟨h2, rfl⟩, rfl⟩
  | helloAck nodeId => exact field_eq_some (by simp) fun _ => nonempty_str_eq_some
  | ping ts => exact field_eq_some (by simp) fun _ => number_num_eq_some
  | pong ts => exact field_eq_some (by simp) fun _ => number_num_eq_some
  | peerHealthRumor rumor =>
    have hitem : ∀ i', peerHealthItemShape
        (Json.lookup ((js "type", .str (js "peerHealthRumor")) :: rumor.members)) = some i' ↔
        rumor.Valid ∧ i' = rumor := fun i' => by
      refine peerHealthItemShape_eq_some ?_ ?_ ?_ ?_ <;>
        simp [PeerHealthItem.members, Json.lookup_cons]
    simp only [memberSchema, clusterPeerHealthRumorMessageSchema, toJson, Zod.object,
      Option.bind_eq_bind, Option.bind_eq_some_iff, hitem, Option.some.injEq]
    constructor
    · rintro ⟨_, -, _, ⟨h1, rfl⟩, rfl⟩
      exact ⟨h1, rfl⟩
    · rintro ⟨h1, rfl⟩
      exact ⟨(), by simp [Json.lookup_cons, Zod.literal], _, ⟨h1, rfl⟩, rfl⟩
  | peerHealthDigest digests => exact field_eq_some (by simp) fun _ => items_eq_some
  | peerHealthRepairRequest peerNodeIds =>
    simp only [memberSchema, clusterPeerHealthRepairRequestMessageSchema, toJson, Zod.object,
      Json.lookup_cons, Json.lookup_nil, js_inj, String.reduceEq, if_true, if_false, Zod.literal,
      Option.bind_eq_bind, Option.bind_some, Option.bind_eq_some_iff, Option.some.injEq,
      Option.filter_eq_some_iff, ids_eq_some, ne_eq, decide_not, Bool.not_eq_true',
      decide_eq_false_iff_not]
    constructor
    · rintro ⟨_, ⟨⟨h1, rfl⟩, h2⟩, rfl⟩
      exact ⟨⟨h1, h2⟩, rfl⟩
    · rintro ⟨⟨h1, h2⟩, rfl⟩
      exact ⟨_, ⟨⟨h1, rfl⟩, h2⟩, rfl⟩
  | peerHealthSync rumors => exact field_eq_some (by simp) fun _ => items_eq_some
  | deliver ref sender envelope ack targets =>
    -- the envelope is an object of its own: its schema decides, and gives it back
    rw [← schema_eq_memberSchema, toJson, schema_deliverFrame]
    constructor
    · rintro ⟨h1, h2, h3, e, he, rfl⟩
      obtain ⟨he, hw⟩ := envelopeSchema_eq_some.1 he
      rw [Envelope.ofValue_toJson] at he
      cases he
      exact ⟨⟨h1, h2, hw, h3⟩, rfl⟩
    · rintro ⟨⟨h1, h2, hw, h3⟩, rfl⟩
      exact ⟨h1, h2, h3, _, envelopeSchema_eq_some.2 ⟨envelope.ofValue_toJson, hw⟩, rfl⟩
  | deliverResult ref deliveredConns error =>
    simp only [memberSchema, clusterDeliverResultMessageSchema, toJson, Zod.object,
      Json.lookup_append, Json.lookup_cons, Json.lookup_nil, lookup_optMember, js_inj,
      String.reduceEq, if_true, if_false, Zod.literal, Option.bind_eq_bind, Option.bind_some,
      Option.bind_eq_some_iff, Option.none_or, Option.or_none, Option.some.injEq,
      nonempty_str_eq_some, Zod.array_map_eq_some fun _ _ => connRefSchema_toJson,
      optional_str_eq_some]
    constructor
    · rintro ⟨_, ⟨h1, rfl⟩, _, ⟨h2, rfl⟩, _, ⟨h3, rfl⟩, rfl⟩
      exact ⟨⟨h1, h2, h3⟩, rfl⟩
    · rintro ⟨⟨h1, h2, h3⟩, rfl⟩
      exact ⟨_, ⟨h1, rfl⟩, _, ⟨h2, rfl⟩, _, ⟨h3, rfl⟩, rfl⟩
  | handleAck ref sender ackFor traceId =>
    simp only [memberSchema, clusterHandleAckMessageSchema, toJson, Zod.object,
      Json.lookup_append, Json.lookup_cons, Json.lookup_nil, lookup_optMember, js_inj,
      String.reduceEq, if_true, if_false, Zod.literal, Option.bind_eq_bind, Option.bind_some,
      Option.bind_eq_some_iff, Option.none_or, Option.or_none, Option.some.injEq,
      nonempty_str_eq_some, connRefSchema_toJson, optional_str_eq_some]
    constructor
    · rintro ⟨_, ⟨h1, rfl⟩, _, ⟨h2, rfl⟩, _, ⟨h3, rfl⟩, _, ⟨h4, rfl⟩, rfl⟩
      exact ⟨⟨h1, h2, h3, h4⟩, rfl⟩
    · rintro ⟨⟨h1, h2, h3, h4⟩, rfl⟩
      exact ⟨_, ⟨h1, rfl⟩, _, ⟨h2, rfl⟩, _, ⟨h3, rfl⟩, _, ⟨h4, rfl⟩, rfl⟩
  | handleAckResult ref ok error =>
    simp only [memberSchema, clusterHandleAckResultMessageSchema, toJson, Zod.object,
      Json.lookup_append, Json.lookup_cons, Json.lookup_nil, lookup_optMember, js_inj,
      String.reduceEq, if_true, if_false, Zod.literal, Option.bind_eq_bind, Option.bind_some,
      Option.bind_eq_some_iff, Option.none_or, Option.or_none, Option.some.injEq,
      nonempty_str_eq_some, Zod.boolean, optional_str_eq_some]
    constructor
    · rintro ⟨_, ⟨h1, rfl⟩, _, ⟨h3, rfl⟩, rfl⟩
      exact ⟨⟨h1, h3⟩, rfl⟩
    · rintro ⟨⟨h1, h3⟩, rfl⟩
      exact ⟨_, ⟨h1, rfl⟩, _, ⟨h3, rfl⟩, rfl⟩

/-! ### Written messages -/

/-- A message after its payload was written and parsed. -/
def finitePart : ClusterSocketMessage → ClusterSocketMessage
  | .deliver ref sender envelope ack targets => .deliver ref sender envelope.finitePart ack targets
  | m => m

theorem stable_connRefSchema : Zod.Stable connRefSchema :=
  Zod.stable_object fun f => by simp only [Zod.stable_nonempty _]

theorem peerHealthItemShape_finitePart (f : JsString → Option Json) :
    peerHealthItemShape (fun k => (f k).map Json.finitePart) = peerHealthItemShape f := by
  simp only [peerHealthItemShape, clusterPeerHealthStatusSchema, Zod.stable_nonempty _,
    Zod.stable_enum _ _, Zod.stable_intMin _ _, Zod.stable_number.optional _]

theorem stable_items : Zod.Stable (Zod.array (Zod.object peerHealthItemShape)) :=
  (Zod.stable_object peerHealthItemShape_finitePart).array

/-- Of a message that was written and parsed, only the payload can come out changed. -/
theorem schema_finitePart (v : Option Json) :
    clusterSocketMessageSchema (v.map Json.finitePart) =
      (clusterSocketMessageSchema v).map finitePart := by
  refine Zod.discriminatedUnion_finitePart finitePart ?_ v
  simp only [List.forall_mem_cons, List.not_mem_nil, false_imp_iff, implies_true, and_true]
  refine ⟨?_, ?_, ?_, ?_, ?_, ?_, ?_, ?_, ?_, ?_, ?_, ?_⟩ <;>
    refine Zod.object_finitePart finitePart fun f => ?_
  all_goals
    simp only [Zod.stable_literal _ _, Zod.stable_nonempty _, Zod.stable_nonempty.optional _,
      Zod.stable_number _, Zod.stable_boolean _, Zod.stable_nonempty.array _, stable_items _,
      peerHealthItemShape_finitePart, stable_connRefSchema _, stable_connRefSchema.array _,
      envelopeSchema_finitePart, ackModeSchema, Zod.stable_enum _ _, Option.bind_eq_bind,
      Option.map_bind, Function.comp_def, Option.bind_map]
    rfl

/-! ### Distinct keys -/

/-- The payload, if the message carries one. -/
def payload : ClusterSocketMessage → Option Json
  | .deliver _ _ envelope _ _ => envelope.payload
  | _ => none

end ClusterSocketMessage

theorem wf_optMember {k : JsString} {v : Option Json} (h : ∀ x, v = some x → x.WF) :
    ∀ m ∈ optMember k v, m.2.WF := by
  intro m hm
  obtain ⟨x, hx, rfl⟩ := mem_optMember.1 hm
  exact h x hx

theorem wf_optMember_map {α : Type} {k : JsString} {o : Option α} {f : α → Json}
    (h : ∀ a, (f a).WF) : ∀ m ∈ optMember k (o.map f), m.2.WF := by
  refine wf_optMember fun x hx => ?_
  obtain ⟨a, -, rfl⟩ := Option.map_eq_some_iff.1 hx
  exact h a

/-- An object whose members come from a fixed list of keys. -/
theorem wf_obj {ms : List (JsString × Json)} (keys : List JsString)
    (hk : (ms.map Prod.fst).Sublist keys) (hnd : keys.Nodup) (hv : ∀ m ∈ ms, m.2.WF) :
    (Json.obj ms).WF :=
  ⟨hk.nodup hnd, (Json.WF.members_iff ms).2 hv⟩

theorem wf_arr_map {α : Type} {f : α → Json} (h : ∀ a, (f a).WF) (as : List α) :
    (Json.arr (as.map f)).WF := by
  refine (Json.WF.elems_iff _).2 fun v hv => ?_
  obtain ⟨a, -, rfl⟩ := List.mem_map.1 hv
  exact h a

theorem ConnRef.wf_toJson (c : ConnRef) : c.toJson.WF := by
  refine wf_obj [js "nodeId", js "connId", js "peerId", js "groupId"] ?_ (by simp) ?_
  · rw [List.map_append]
    exact (List.Sublist.refl _).append (keys_optMember_sublist _ _)
  · simp only [List.forall_mem_append, List.forall_mem_cons]
    exact ⟨⟨trivial, trivial, trivial, List.forall_mem_nil _⟩, wf_optMember_map fun _ => trivial⟩

theorem Envelope.wf_toJson {e : Envelope} (h : ∀ p, e.payload = some p → p.WF) :
    e.toJson.WF := by
  refine wf_obj [js "msgId", js "kind", js "src", js "protocol", js "version", js "action",
    js "streamId", js "seq", js "ts", js "traceId", js "payload"] ?_ (by simp) ?_
  · simp only [List.map_append]
    exact (((((List.Sublist.refl _).append (keys_optMember_sublist _ _)).append
      (keys_optMember_sublist _ _)).append (List.Sublist.refl _)).append
      (keys_optMember_sublist _ _)).append (keys_optMember_sublist _ _)
  · have hkind : e.kind.toJson.WF := by cases e.kind <;> trivial
    have hsrc : e.src.toJson.WF := ⟨by simp, trivial, trivial, trivial⟩
    simp only [List.forall_mem_append, List.forall_mem_cons]
    exact ⟨⟨⟨⟨⟨⟨trivial, hkind, hsrc, trivial, trivial, trivial, List.forall_mem_nil _⟩,
      wf_optMember_map fun _ => trivial⟩, wf_optMember_map fun _ => trivial⟩,
      trivial, List.forall_mem_nil _⟩,
      wf_optMember_map fun _ => trivial⟩, wf_optMember h⟩

theorem PeerHealthItem.wf_members (i : PeerHealthItem) : (Json.obj i.members).WF := by
  refine wf_obj [js "peerNodeId", js "status", js "incarnation", js "lastAliveAt"] ?_ (by simp) ?_
  · simp only [PeerHealthItem.members, List.map_append]
    exact (List.Sublist.refl _).append (keys_optMember_sublist _ _)
  · have hstatus : i.status.toJson.WF := by cases i.status <;> trivial
    simp only [PeerHealthItem.members, List.forall_mem_append, List.forall_mem_cons]
    exact ⟨⟨trivial, hstatus, trivial, List.forall_mem_nil _⟩, wf_optMember_map fun _ => trivial⟩

theorem wf_deliverFrame {ref : JsString} {sender : ConnRef} {envelope : Json} {ack : AckMode}
    {targets : List ConnRef} (h : envelope.WF) :
    (deliverFrame ref sender envelope ack targets).WF := by
  refine wf_obj [js "type", js "sender", js "envelope", js "ack", js "targets", js "ref"]
    (List.Sublist.refl _) (by simp) ?_
  have hack : ack.toJson.WF := by cases ack <;> trivial
  simp only [List.forall_mem_cons]
  exact ⟨trivial, sender.wf_toJson, h, hack, wf_arr_map ConnRef.wf_toJson _, trivial,
    List.forall_mem_nil _⟩

theorem wf_of_lookup {ms : List (JsString × Json)} (h : (Json.obj ms).WF) {k : JsString} {v : Json}
    (hv : Json.lookup ms k = some v) : v.WF := by
  unfold Json.lookup at hv
  obtain ⟨m, hm, rfl⟩ := Option.map_eq_some_iff.1 hv
  exact (Json.WF.members_iff ms).1 h.2 m (List.mem_of_find?_eq_some hm)

theorem wf_payload_of_ofValue {v : Json} (hv : v.WF) {e : Envelope}
    (he : Envelope.ofValue v = some e) : ∀ p, e.payload = some p → p.WF := by
  obtain ⟨ms, rfl, -, -, -, -, -, -, -, -, -, -, hp⟩ := Envelope.ofValue_eq_some.1 he
  exact fun p hep => wf_of_lookup hv (hp.trans hep)

namespace ClusterSocketMessage

/-- A message whose payload has distinct keys is an object with distinct keys. -/
theorem wf_toJson {m : ClusterSocketMessage} (h : ∀ p, m.payload = some p → p.WF) :
    m.toJson.WF := by
  have hrefs : ∀ cs : List ConnRef, (Json.arr (cs.map ConnRef.toJson)).WF :=
    wf_arr_map ConnRef.wf_toJson
  have hitems : ∀ is : List PeerHealthItem, (Json.arr (is.map fun i => .obj i.members)).WF :=
    wf_arr_map PeerHealthItem.wf_members
  have hstr : ∀ (k : JsString) (o : Option JsString), ∀ m ∈ optMember k (o.map Json.str), m.2.WF :=
    fun _ _ => wf_optMember_map fun _ => trivial
  -- an optional member may be left out, but repeats no key
  have hopt := keys_optMember_sublist
  cases m with
  | hello nodeId secret =>
    refine wf_obj [js "type", js "nodeId", js "secret"] ?_ (by simp) ?_
    · rw [List.map_append]
      exact (List.Sublist.refl _).append (hopt _ _)
    · simp only [List.forall_mem_append, List.forall_mem_cons]
      exact ⟨⟨trivial, trivial, List.forall_mem_nil _⟩, hstr _ _⟩
  | helloAck nodeId => exact ⟨by simp, trivial, trivial, trivial⟩
  | ping ts => exact ⟨by simp, trivial, trivial, trivial⟩
  | pong ts => exact ⟨by simp, trivial, trivial, trivial⟩
  | peerHealthRumor rumor =>
    obtain ⟨hk, hv⟩ := rumor.wf_members
    refine ⟨?_, trivial, hv⟩
    rw [List.map_cons, List.nodup_cons]
    refine ⟨?_, hk⟩
    cases hl : rumor.lastAliveAt <;> simp [PeerHealthItem.members, optMember, hl]
  | peerHealthDigest digests => exact ⟨by simp, trivial, hitems digests, trivial⟩
  | peerHealthRepairRequest peerNodeIds =>
    exact ⟨by simp, trivial, wf_arr_map (f := Json.str) (fun _ => trivial) _, trivial⟩
  | peerHealthSync rumors => exact ⟨by simp, trivial, hitems rumors, trivial⟩
  | deliver ref sender envelope ack targets => exact wf_deliverFrame (envelope.wf_toJson h)
  | deliverResult ref deliveredConns error =>
    refine wf_obj [js "type", js "ref", js "deliveredConns", js "error"] ?_ (by simp) ?_
    · rw [List.map_append]
      exact (List.Sublist.refl _).append (hopt _ _)
    · simp only [List.forall_mem_append, List.forall_mem_cons]
      exact ⟨⟨trivial, trivial, hrefs _, List.forall_mem_nil _⟩, hstr _ _⟩
  | handleAck ref sender ackFor traceId =>
    refine wf_obj [js "type", js "sender", js "ackFor", js "traceId", js "ref"] ?_ (by simp) ?_
    · simp only [List.map_append]
      exact ((List.Sublist.refl _).append (hopt _ _)).append (List.Sublist.refl _)
    · simp only [List.forall_mem_append, List.forall_mem_cons]
      exact ⟨⟨⟨trivial, sender.wf_toJson, trivial, List.forall_mem_nil _⟩, hstr _ _⟩, trivial,
        List.forall_mem_nil _⟩
  | handleAckResult ref ok error =>
    refine wf_obj [js "type", js "ref", js "ok", js "error"] ?_ (by simp) ?_
    · rw [List.map_append]
      exact (List.Sublist.refl _).append (hopt _ _)
    · simp only [List.forall_mem_append, List.forall_mem_cons]
      exact ⟨⟨trivial, trivial, trivial, List.forall_mem_nil _⟩, hstr _ _⟩

/-- The payload of an accepted value is a part of it. -/
theorem wf_payload_of_schema {v : Json} (hv : v.WF) {m : ClusterSocketMessage}
    (h : clusterSocketMessageSchema (some v) = some m) : ∀ p, m.payload = some p → p.WF := by
  obtain ⟨o, ho, hm⟩ := Zod.discriminatedUnion_eq_some h
  cases m with
  | deliver ref sender envelope ack targets =>
    -- no other schema returns a `deliver`
    have hdeliver : clusterDeliverMessageSchema (some v) =
        some (.deliver ref sender envelope ack targets) := by
      simp only [List.mem_cons, List.not_mem_nil, or_false] at ho
      rcases ho with rfl | rfl | rfl | rfl | rfl | rfl | rfl | rfl | rfl | rfl | rfl | rfl
      case inr.inr.inr.inr.inr.inr.inr.inr.inl => exact hm
      all_goals
        simp [clusterHelloMessageSchema, clusterHelloAckMessageSchema, clusterPingMessageSchema,
          clusterPongMessageSchema, clusterPeerHealthRumorMessageSchema,
          clusterPeerHealthDigestMessageSchema, clusterPeerHealthRepairRequestMessageSchema,
          clusterPeerHealthSyncMessageSchema, clusterDeliverResultMessageSchema,
          clusterHandleAckMessageSchema, clusterHandleAckResultMessageSchema,
          Zod.object_eq_some, Option.bind_eq_some_iff] at hm
    obtain ⟨ms, hms, hf⟩ := Zod.object_eq_some.1 hdeliver
    cases hms
    simp only [Option.bind_eq_bind, Option.bind_eq_some_iff, Option.some.injEq, deliver.injEq] at hf
    obtain ⟨_, -, _, -, _, -, e, he, _, -, _, -, -, -, rfl, -⟩ := hf
    cases hl : Json.lookup ms (js "envelope") with
    | none => rw [hl] at he; cases he
    | some u =>
      rw [hl] at he
      exact wf_payload_of_ofValue (wf_of_lookup hv hl) (envelopeSchema_eq_some.1 he).1
  | _ => exact fun p hp => by cases hp

/-! ### Round trip -/

/-- A message that the codec carries: valid for the schemas, without groups, and with a payload
that JSON can write. -/
structure Faithful (m : ClusterSocketMessage) : Prop where
  valid : m.Valid
  groups : m.withoutGroups = m
  payload : ∀ p, m.payload = some p → p.WF ∧ p.AllFinite

theorem finitePart_eq_self_iff (m : ClusterSocketMessage) :
    m.finitePart = m ↔ ∀ p, m.payload = some p → p.AllFinite := by
  cases m with
  | deliver ref sender envelope ack targets =>
    simp [finitePart, payload, envelope.finitePart_eq_self_iff]
  | _ => simp [finitePart, payload]

theorem parse_stringify_eq {v : Json} (hv : v.WF) :
    parseClusterSocketMessage v.stringify = (clusterSocketMessageSchema (some v)).map finitePart := by
  rw [parseClusterSocketMessage, Json.parse_stringify hv]
  exact schema_finitePart (some v)

theorem wf_payload_of_parse {raw : JsString} {m : ClusterSocketMessage}
    (h : parseClusterSocketMessage raw = some m) : ∀ p, m.payload = some p → p.WF := by
  obtain ⟨v, hv, hm⟩ := Option.bind_eq_some_iff.1 h
  exact wf_payload_of_schema (Json.wf_of_parse hv) hm

theorem withoutGroups_finitePart (m : ClusterSocketMessage) :
    m.withoutGroups.finitePart.withoutGroups = m.withoutGroups.finitePart := by
  cases m <;> simp [withoutGroups, finitePart, ConnRef.withoutGroup]

theorem faithful_iff_finitePart {m : ClusterSocketMessage} (h : ∀ p, m.payload = some p → p.WF) :
    m.Faithful ↔ m.Valid ∧ m.withoutGroups.finitePart = m := by
  constructor
  · intro hm
    exact ⟨hm.valid, by
      rw [hm.groups, (finitePart_eq_self_iff m).2 fun p hp => (hm.payload p hp).2]⟩
  · rintro ⟨hvalid, heq⟩
    have hgroups : m.withoutGroups = m := by
      rw [← heq, withoutGroups_finitePart]
    rw [hgroups] at heq
    exact ⟨hvalid, hgroups, fun p hp => ⟨h p hp, (finitePart_eq_self_iff m).1 heq p hp⟩⟩

/-- The round trip of a message whose payload is written from distinct keys. -/
theorem parse_stringify_of_wf {m : ClusterSocketMessage} (h : ∀ p, m.payload = some p → p.WF) :
    parseClusterSocketMessage m.toJson.stringify = some m ↔ m.Faithful := by
  rw [parse_stringify_eq (wf_toJson h), faithful_iff_finitePart h, Option.map_eq_some_iff]
  constructor
  · rintro ⟨m', hm', heq⟩
    obtain ⟨hvalid, rfl⟩ := (schema_toJson m m').1 hm'
    exact ⟨hvalid, heq⟩
  · rintro ⟨hvalid, heq⟩
    exact ⟨_, (schema_toJson m _).2 ⟨hvalid, rfl⟩, heq⟩

/-- **A message comes back as it was sent exactly when it is faithful.** -/
theorem parse_stringify_iff (m : ClusterSocketMessage) :
    parseClusterSocketMessage m.toJson.stringify = some m ↔ m.Faithful := by
  -- a message that came back, and a faithful one, are written from distinct keys
  have hpayload : parseClusterSocketMessage m.toJson.stringify = some m ∨ m.Faithful →
      ∀ p, m.payload = some p → p.WF := by
    rintro (h | h)
    · exact wf_payload_of_parse h
    · exact fun p hp => (h.payload p hp).1
  exact ⟨fun h => (parse_stringify_of_wf (hpayload (.inl h))).1 h,
    fun h => (parse_stringify_of_wf (hpayload (.inr h))).2 h⟩

/-- A `hello` that names a node comes back, unless its secret is the empty string. -/
theorem parse_hello {nodeId : JsString} {secret : Option JsString} (hn : nodeId ≠ [])
    (hs : secret ≠ some []) :
    parseClusterSocketMessage (hello nodeId secret).toJson.stringify =
      some (hello nodeId secret) :=
  (parse_stringify_of_wf fun _ hp => by cases hp).2 ⟨⟨hn, hs⟩, rfl, fun _ hp => by cases hp⟩

theorem parse_helloAck {nodeId : JsString} (hn : nodeId ≠ []) :
    parseClusterSocketMessage (helloAck nodeId).toJson.stringify = some (helloAck nodeId) :=
  (parse_stringify_of_wf fun _ hp => by cases hp).2 ⟨hn, rfl, fun _ hp => by cases hp⟩

/-- The node that a handshake message names. -/
def announced : ClusterSocketMessage → Option JsString
  | .hello nodeId _ => some nodeId
  | .helloAck nodeId => some nodeId
  | _ => none

/-- The schemas ask for a name. -/
theorem announced_ne_nil {raw : JsString} {m : ClusterSocketMessage} {nodeId : JsString}
    (h : parseClusterSocketMessage raw = some m) (ha : m.announced = some nodeId) :
    nodeId ≠ [] := by
  obtain ⟨v, -, hm⟩ := Option.bind_eq_some_iff.1 h
  obtain ⟨o, ho, hm⟩ := Zod.discriminatedUnion_eq_some hm
  simp only [List.mem_cons, List.not_mem_nil, or_false] at ho
  rcases ho with rfl | rfl | rfl | rfl | rfl | rfl | rfl | rfl | rfl | rfl | rfl | rfl
  case inl =>
    change clusterHelloMessageSchema (some v) = some m at hm
    obtain ⟨ms, -, hf⟩ := Zod.object_eq_some.1 hm
    simp only [Option.bind_eq_bind, Option.bind_eq_some_iff, Option.some.injEq] at hf
    obtain ⟨_, -, n, hn, _, -, rfl⟩ := hf
    cases ha
    exact (Zod.nonempty_eq_some.1 hn).2
  case inr.inl =>
    change clusterHelloAckMessageSchema (some v) = some m at hm
    obtain ⟨ms, -, hf⟩ := Zod.object_eq_some.1 hm
    simp only [Option.bind_eq_bind, Option.bind_eq_some_iff, Option.some.injEq] at hf
    obtain ⟨_, -, n, hn, rfl⟩ := hf
    cases ha
    exact (Zod.nonempty_eq_some.1 hn).2
  -- the other messages name no node
  all_goals
    exfalso
    cases m <;>
      simp_all [announced, clusterPingMessageSchema, clusterPongMessageSchema,
        clusterPeerHealthRumorMessageSchema, clusterPeerHealthDigestMessageSchema,
        clusterPeerHealthRepairRequestMessageSchema, clusterPeerHealthSyncMessageSchema,
        clusterDeliverMessageSchema, clusterDeliverResultMessageSchema,
        clusterHandleAckMessageSchema, clusterHandleAckResultMessageSchema, Zod.object_eq_some,
        Option.bind_eq_some_iff]

/-- A `handleAck` whose sender belongs to a group. -/
def groupedHandleAck : ClusterSocketMessage :=
  .handleAck (js "r1")
    { nodeId := js "a", connId := js "c1", peerId := js "alice", groupId := some (js "g") }
    (js "m1") none

/-- The group is lost on the way. -/
theorem group_lost : ¬∀ m : ClusterSocketMessage,
    parseClusterSocketMessage m.toJson.stringify = some m := by
  intro h
  have hback := h groupedHandleAck
  rw [parse_stringify_eq (wf_toJson fun p hp => by cases hp), Option.map_eq_some_iff] at hback
  obtain ⟨m', hm', heq⟩ := hback
  obtain ⟨-, rfl⟩ := (schema_toJson _ _).1 hm'
  cases heq

end ClusterSocketMessage

/-! ### Relayed envelopes -/

/-- What the relay asks of an accepted envelope beyond the guard: a safe `seq`, and a payload
without infinite numbers. -/
structure Envelope.Relayable (e : Envelope) : Prop where
  seq : ∀ n, e.seq = some n → n.isSafeInteger = true
  payload : ∀ p, e.payload = some p → p.AllFinite

/-- The frame is read as a `deliver` of the envelope `e`. -/
def DeliversEnvelope (frame : JsString) (e : Envelope) : Prop :=
  ∃ ref sender ack targets,
    parseClusterSocketMessage frame = some (.deliver ref sender e ack targets)

theorem deliversEnvelope_iff {value : Json} (hwf : value.WF) {e : Envelope}
    (he : Envelope.ofValue value = some e) (hacc : e.WellFormed JsNumber.isInteger)
    {ref : JsString} {sender : ConnRef} {ack : AckMode} {targets : List ConnRef} (href : ref ≠ [])
    (hsender : sender.Named) (htargets : ∀ c ∈ targets, c.Named) :
    DeliversEnvelope (deliverFrame ref sender value ack targets).stringify e ↔ e.Relayable := by
  unfold DeliversEnvelope
  rw [ClusterSocketMessage.parse_stringify_eq (wf_deliverFrame hwf)]
  simp only [Option.map_eq_some_iff, ClusterSocketMessage.schema_deliverFrame]
  constructor
  · rintro ⟨_, _, _, _, m, ⟨-, -, -, e', he', rfl⟩, heq⟩
    obtain ⟨hof, hw⟩ := envelopeSchema_eq_some.1 he'
    rw [he] at hof
    cases hof
    simp only [ClusterSocketMessage.finitePart, ClusterSocketMessage.deliver.injEq] at heq
    exact ⟨fun n hn => (hw.seq n hn).1, e.finitePart_eq_self_iff.1 heq.2.2.1⟩
  · intro hr
    have hw : e.WellFormed JsNumber.isSafeInteger :=
      { hacc with seq := fun n hn => ⟨hr.seq n hn, (hacc.seq n hn).2⟩ }
    refine ⟨ref, sender.withoutGroup, ack, targets.map ConnRef.withoutGroup, _,
      ⟨href, hsender, htargets, e, envelopeSchema_eq_some.2 ⟨he, hw⟩, rfl⟩, ?_⟩
    rw [ClusterSocketMessage.finitePart, e.finitePart_eq_self_iff.2 hr.payload]

/-- **An accepted envelope reaches the other node unchanged exactly when it is relayable.** -/
theorem relay_iff {raw : JsString} {value : Json} (h : parseEnvelope raw = some value)
    {ref : JsString} {sender : ConnRef} {ack : AckMode} {targets : List ConnRef} (href : ref ≠ [])
    (hsender : sender.Named) (htargets : ∀ c ∈ targets, c.Named) :
    ∃ e, Envelope.ofValue value = some e ∧
      (DeliversEnvelope (deliverFrame ref sender value ack targets).stringify e ↔ e.Relayable) := by
  obtain ⟨v, hv, hguard⟩ := Option.bind_eq_some_iff.1 h
  obtain ⟨rfl, e, he, hacc, -⟩ := parseEnvelopeValueFast_eq_some.1 hguard
  exact ⟨e, he, deliversEnvelope_iff (Json.wf_of_parse hv) he hacc href hsender htargets⟩

theorem allFinite_optMember {k : JsString} {o : Option Json} (h : ∀ x, o = some x → x.AllFinite) :
    ∀ m ∈ optMember k o, m.2.AllFinite := by
  intro m hm
  obtain ⟨x, hx, rfl⟩ := mem_optMember.1 hm
  exact h x hx

theorem Envelope.allFinite_toJson {e : Envelope} (hw : e.WellFormed JsNumber.isInteger)
    (hp : ∀ p, e.payload = some p → p.AllFinite) : e.toJson.AllFinite := by
  have hkind : e.kind.toJson.AllFinite := by cases e.kind <;> trivial
  have hsrc : e.src.toJson.AllFinite := ⟨trivial, trivial, trivial⟩
  have hstr : ∀ (k : JsString) (o : Option JsString),
      ∀ m ∈ optMember k (o.map Json.str), m.2.AllFinite := by
    refine fun k o => allFinite_optMember fun x hx => ?_
    obtain ⟨s, -, rfl⟩ := Option.map_eq_some_iff.1 hx
    trivial
  have hseq : ∀ m ∈ optMember (js "seq") (e.seq.map .num), m.2.AllFinite := by
    refine allFinite_optMember fun x hx => ?_
    obtain ⟨n, hn, rfl⟩ := Option.map_eq_some_iff.1 hx
    have hint := (hw.seq n hn).1
    cases n <;> simp_all [Json.AllFinite, JsNumber.isInteger, JsNumber.isFinite]
  refine (Json.AllFinite.members_iff _).2 ?_
  simp only [List.forall_mem_append, List.forall_mem_cons]
  exact ⟨⟨⟨⟨⟨⟨trivial, hkind, hsrc, trivial, trivial, trivial, List.forall_mem_nil _⟩, hstr _ _⟩,
    hseq⟩, hw.ts.1, List.forall_mem_nil _⟩, hstr _ _⟩, allFinite_optMember hp⟩

/-- The guard accepts every well-formed envelope that was serialized. -/
theorem parseEnvelope_serializeEnvelope {e : Envelope} (hw : e.WellFormed JsNumber.isInteger)
    {p : Json} (hp : e.payload = some p) (hwf : p.WF) (hfin : p.AllFinite) :
    parseEnvelope (serializeEnvelope e) = some e.toJson := by
  have hpay {P : Json → Prop} (h : P p) : ∀ q, e.payload = some q → P q := by
    intro q hq
    rw [hp] at hq
    cases hq
    exact h
  rw [parseEnvelope, serializeEnvelope, Json.parse_stringify (e.wf_toJson (hpay hwf)),
    (Json.finitePart_eq_self _).2 (e.allFinite_toJson hw (hpay hfin)), Option.bind_some,
    parseEnvelopeValueFast_eq_some]
  exact ⟨rfl, e, e.ofValue_toJson, hw, by simp [hp]⟩

/-- A chat message with the given sequence number. -/
def chatEnvelope (seq : Option JsNumber) : Envelope where
  msgId := js "m1"
  kind := .biz
  src := { peerId := js "alice", connId := js "c1" }
  protocol := js "chat"
  version := js "1.0"
  action := js "send"
  seq := seq
  ts := .ofNat 0
  payload := some .null

theorem chatEnvelope_wellFormed {integer : JsNumber → Bool} {seq : Option JsNumber}
    (h : ∀ n, seq = some n → integer n = true ∧ n.lt (.ofNat 0) = false) :
    (chatEnvelope seq).WellFormed integer := by
  have hts : (JsNumber.ofNat 0).isFinite = true ∧ (JsNumber.ofNat 0).lt (.ofNat 0) = false := by
    refine ⟨?_, by rw [JsNumber.ofNat_lt (by norm_num) (by norm_num)]; rfl⟩
    obtain ⟨_, h0⟩ := JsNumber.ofNat_eq (n := 0) (by norm_num)
    rw [h0]; rfl
  exact ⟨by simp [chatEnvelope], by simp [chatEnvelope], by simp [chatEnvelope],
    by simp [chatEnvelope], by simp [chatEnvelope], by simp [chatEnvelope],
    by simp [chatEnvelope], h, hts, by simp [chatEnvelope]⟩

/-- The sender of the examples. -/
def alice : ConnRef := { nodeId := js "a", connId := js "c1", peerId := js "alice" }

theorem alice_named : alice.Named :=
  ⟨by simp [alice], by simp [alice], by simp [alice]⟩

theorem chatEnvelope_accepted :
    parseEnvelope (serializeEnvelope (chatEnvelope none)) = some (chatEnvelope none).toJson := by
  refine parseEnvelope_serializeEnvelope (p := .null) (chatEnvelope_wellFormed ?_) rfl trivial
    trivial
  intro n hn
  cases hn

theorem relay_iff_chat : ∃ e, Envelope.ofValue (chatEnvelope none).toJson = some e ∧
    (DeliversEnvelope
      (deliverFrame (js "r1") alice (chatEnvelope none).toJson .recv [alice]).stringify e ↔
      e.Relayable) :=
  relay_iff chatEnvelope_accepted (by simp) alice_named (by simp [alice_named])

/-- The first integer that is not safe. -/
theorem isFloat64_two_pow_53 : IsFloat64 (((2 ^ 53 : ℕ) : ℚ)) := by
  refine ⟨?_, 2 ^ 52, 1, by norm_num, by norm_num, by norm_num⟩
  rw [Nat.cast_pow, Nat.cast_ofNat, abs_of_pos (by positivity)]
  exact pow_lt_pow_right₀ (by norm_num) (by norm_num)

/-- The guard accepts a sequence number that the relay refuses. -/
theorem unsafe_seq_refused :
    ¬∀ (raw : JsString) (value : Json) (e : Envelope) (ref : JsString) (sender : ConnRef)
      (ack : AckMode) (targets : List ConnRef),
      parseEnvelope raw = some value → Envelope.ofValue value = some e → ref ≠ [] →
      sender.Named → (∀ c ∈ targets, c.Named) →
      DeliversEnvelope (deliverFrame ref sender value ack targets).stringify e := by
  intro h
  have hnum : JsNumber.ofNat (2 ^ 53) = .finite ⟨_, isFloat64_two_pow_53⟩ :=
    JsNumber.ofRat_of_isFloat64 isFloat64_two_pow_53
  have hw : (chatEnvelope (some (.ofNat (2 ^ 53)))).WellFormed JsNumber.isInteger := by
    refine chatEnvelope_wellFormed fun n hn => ?_
    cases hn
    obtain ⟨_, h0⟩ := JsNumber.ofNat_eq (n := 0) (by norm_num)
    rw [hnum, h0, JsNumber.finite_lt]
    exact ⟨by simp [JsNumber.isInteger], by norm_num⟩
  have hsent := h _ _ _ (js "r1") alice .recv [alice]
    (parseEnvelope_serializeEnvelope (p := .null) hw rfl trivial trivial)
    (Envelope.ofValue_toJson _) (by simp) alice_named (by simp [alice_named])
  rw [deliversEnvelope_iff (Envelope.wf_toJson fun p hp => by cases hp; trivial)
    (Envelope.ofValue_toJson _) hw (by simp) alice_named (by simp [alice_named])] at hsent
  have hsafe := hsent.seq _ rfl
  rw [hnum] at hsafe
  norm_num [JsNumber.isSafeInteger, JsNumber.maxSafeInteger] at hsafe

end Hardess

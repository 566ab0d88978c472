import Hardess.Cluster.Codec
import Hardess.Cluster.Network

/-!
# Deliveries and acknowledgements over HTTP

* the schemas of `src/runtime/cluster/schema.ts` for the bodies of `/__cluster/deliver` and
  `/__cluster/handle-ack`, and what they make of a body that was written by another node;
* `controlEndpoint`: the two endpoints of `src/runtime/app.ts`;
* `httpRequest`: `request` of `src/runtime/cluster/network.ts`, with the health evidence that it
  records.

Of a response that is not `ok` only the status is read. The texts of the schema issues are left out.
-/

namespace Hardess

/-! ### Bodies -/

/-- The object that goes to the endpoint. -/
def ClusterRequest.body : ClusterRequest → Json
  | .deliver sender envelope ack targets =>
    .obj [(js "sender", sender.toJson), (js "envelope", envelope.toJson), (js "ack", ack.toJson),
      (js "targets", .arr (targets.map ConnRef.toJson))]
  | .handleAck sender ackFor traceId =>
    .obj ([(js "sender", sender.toJson), (js "ackFor", .str ackFor)] ++
      optMember (js "traceId") (traceId.map .str))

/-- The path of the endpoint. -/
def ClusterRequest.path : ClusterRequest → JsString
  | .deliver .. => js "/__cluster/deliver"
  | .handleAck .. => js "/__cluster/handle-ack"

/-- `clusterDeliverRequestSchema`. -/
def clusterDeliverRequestSchema : Zod.Schema ClusterRequest := Zod.object fun f => do
  let sender ← connRefSchema (f (js "sender"))
  let envelope ← envelopeSchema (f (js "envelope"))
  let ack ← ackModeSchema (f (js "ack"))
  let targets ← (Zod.array connRefSchema (f (js "targets"))).filter fun targets => targets ≠ []
  some (.deliver sender envelope ack targets)

/-- `clusterHandleAckRequestSchema`. -/
def clusterHandleAckRequestSchema : Zod.Schema ClusterRequest := Zod.object fun f => do
  let sender ← connRefSchema (f (js "sender"))
  let ackFor ← Zod.nonempty (f (js "ackFor"))
  let traceId ← Zod.optional Zod.nonempty (f (js "traceId"))
  some (.handleAck sender ackFor traceId)

/-- The schema of the endpoint. -/
def ClusterRequest.schema : ClusterRequest → Zod.Schema ClusterRequest
  | .deliver .. => clusterDeliverRequestSchema
  | .handleAck .. => clusterHandleAckRequestSchema

/-- `clusterDeliverResponseSchema`. -/
def clusterDeliverResponseSchema : Zod.Schema (List ConnRef) := Zod.object fun f =>
  Zod.array connRefSchema (f (js "deliveredConns"))

/-! ### The endpoints -/

/-- The handlers of a node; an error is the message of what they throw. -/
structure ClusterServerHandlers where
  deliver : ConnRef → Envelope → AckMode → List ConnRef → Except JsString (List ConnRef)
  handleAck : ConnRef → JsString → Option JsString → Except JsString Bool

/-- The handler of a request is called. -/
def ClusterServerHandlers.call (handlers : ClusterServerHandlers) : ClusterRequest → HandlerResult
  | .deliver sender envelope ack targets =>
    match handlers.deliver sender envelope ack targets with
    | .ok conns => .delivered conns
    | .error message => .failed message
  | .handleAck sender ackFor traceId =>
    match handlers.handleAck sender ackFor traceId with
    | .ok forwarded => .forwarded forwarded
    | .error message => .failed message

/-- A response, as far as it is read. -/
inductive HttpResponse
  | ok (body : JsString)
  | failed (status : ℕ)

/-- The endpoint of a request with this schema. -/
def controlEndpoint (sharedSecret header : Option JsString) (schema : Zod.Schema ClusterRequest)
    (handlers : ClusterServerHandlers) (body : JsString) : HttpResponse :=
  if (sharedSecret.filter (· ≠ [])).isSome ∧ header ≠ sharedSecret then .failed 401
  else
    match (Json.parse body).bind fun value => schema (some value) with
    | none => .failed 400
    | some payload =>
      match handlers.call payload with
      | .delivered conns =>
        .ok (Json.obj [(js "ok", .bool true),
          (js "deliveredConns", .arr (conns.map ConnRef.toJson))]).stringify
      | .forwarded forwarded =>
        .ok (Json.obj [(js "ok", .bool true), (js "forwarded", .bool forwarded)]).stringify
      | .failed _ => .failed 400

/-- `request`, once the response is there: the evidence about the peer, and the body. -/
def httpRequest (st : ClusterNetwork) (nodeId path : JsString) :
    HttpResponse → List ClusterEffect × Except JsString JsString
  | .ok body => ((st.step (.httpOk nodeId path)).effects, .ok body)
  | .failed status =>
    let message := js "Cluster request failed: " ++ nodeId ++ js " " ++ path ++ js " " ++
      js (toString status)
    ((st.step (.httpFailed nodeId (js "http_" ++ js (toString status)))).effects ++
      (st.step (.httpFailed nodeId message)).effects, .error message)

/-! ### What the schemas make of a body -/

namespace ClusterRequest

/-- What both transports ask of a request. -/
def WellFormed : ClusterRequest → Prop
  | .deliver sender envelope _ targets =>
    sender.Named ∧ envelope.WellFormed JsNumber.isSafeInteger ∧
      (∀ p, envelope.payload = some p → p.WF) ∧ ∀ c ∈ targets, c.Named
  | .handleAck sender ackFor traceId => sender.Named ∧ ackFor ≠ [] ∧ traceId ≠ some []

/-- The request without the groups of its references. -/
def withoutGroups : ClusterRequest → ClusterRequest
  | .deliver sender envelope ack targets =>
    .deliver sender.withoutGroup envelope ack (targets.map ConnRef.withoutGroup)
  | .handleAck sender ackFor traceId => .handleAck sender.withoutGroup ackFor traceId

/-- The request after its payload was written and parsed. -/
def finitePart : ClusterRequest → ClusterRequest
  | .deliver sender envelope ack targets => .deliver sender envelope.finitePart ack targets
  | request => request

/-- The request as it arrives. -/
def received (request : ClusterRequest) : ClusterRequest := request.withoutGroups.finitePart

/-- A delivery without targets. -/
def Aimless : ClusterRequest → Prop
  | .deliver _ _ _ targets => targets = []
  | .handleAck .. => False

theorem wf_body {request : ClusterRequest} (h : request.WellFormed) : request.body.WF := by
  cases request with
  | deliver sender envelope ack targets =>
    have hack : ack.toJson.WF := by cases ack <;> trivial
    refine wf_obj [js "sender", js "envelope", js "ack", js "targets"] (List.Sublist.refl _)
      (by simp) ?_
    simp only [List.forall_mem_cons]
    exact ⟨sender.wf_toJson, Envelope.wf_toJson h.2.2.1, hack,
      wf_arr_map ConnRef.wf_toJson _, List.forall_mem_nil _⟩
  | handleAck sender ackFor traceId =>
    refine wf_obj [js "sender", js "ackFor", js "traceId"] ?_ (by simp) ?_
    · rw [List.map_append]
      exact (List.Sublist.refl _).append (keys_optMember_sublist _ _)
    · simp only [List.forall_mem_append, List.forall_mem_cons]
      exact ⟨⟨sender.wf_toJson, trivial, List.forall_mem_nil _⟩,
        wf_optMember_map fun _ => trivial⟩

/-- Of a body that was written and parsed, only the payload can come out changed. -/
theorem schema_finitePart (request : ClusterRequest) (v : Option Json) :
    request.schema (v.map Json.finitePart) = (request.schema v).map finitePart := by
  cases request <;> unfold schema clusterDeliverRequestSchema clusterHandleAckRequestSchema <;>
    refine Zod.object_finitePart finitePart (fun f => ?_) v <;>
  · simp only [Zod.stable_nonempty _, Zod.stable_nonempty.optional _,
      ClusterSocketMessage.stable_connRefSchema _,
      ClusterSocketMessage.stable_connRefSchema.array _, envelopeSchema_finitePart, ackModeSchema,
      Zod.stable_enum _ _, Option.bind_eq_bind, Option.map_bind, Function.comp_def,
      Option.bind_map]
    rfl

/-- The schema of the endpoint accepts what is well formed, but for a delivery without targets. -/
theorem schema_body {request request' : ClusterRequest} (h : request.WellFormed) :
    request.schema (some request.body) = some request' ↔
      ¬request.Aimless ∧ request' = request.withoutGroups := by
  cases request with
  | deliver sender envelope ack targets =>
    have henvelope : ∀ e, envelopeSchema (some envelope.toJson) = some e ↔ e = envelope := by
      intro e
      rw [envelopeSchema_eq_some, Envelope.ofValue_toJson]
      constructor
      · exact fun he => (Option.some.inj he.1).symm
      · rintro rfl
        exact ⟨rfl, h.2.1⟩
    simp only [schema, clusterDeliverRequestSchema, body, Zod.object, Json.lookup_cons,
      Json.lookup_nil, js_inj, String.reduceEq, if_true, if_false, Option.bind_eq_bind,
      Option.bind_eq_some_iff, connRefSchema_toJson, ackModeSchema_toJson, henvelope,
      Option.filter_eq_some_iff, Zod.array_map_eq_some fun _ _ => connRefSchema_toJson,
      Option.some.injEq, decide_eq_true_eq]
    constructor
    · rintro ⟨_, ⟨-, rfl⟩, _, rfl, _, rfl, _, ⟨⟨-, rfl⟩, hne⟩, rfl⟩
      exact ⟨fun hnil => hne (List.map_eq_nil_iff.2 hnil), rfl⟩
    · rintro ⟨hne, rfl⟩
      exact ⟨_, ⟨h.1, rfl⟩, _, rfl, _, rfl, _,
        ⟨⟨h.2.2.2, rfl⟩, fun hnil => hne (List.map_eq_nil_iff.1 hnil)⟩, rfl⟩
  | handleAck sender ackFor traceId =>
    simp only [schema, clusterHandleAckRequestSchema, body, Zod.object, Json.lookup_append,
      Json.lookup_cons, Json.lookup_nil, lookup_optMember, js_inj, String.reduceEq, if_true,
      if_false, Option.bind_eq_bind, Option.bind_eq_some_iff, Option.none_or, Option.or_none,
      connRefSchema_toJson, nonempty_str_eq_some, optional_str_eq_some, Option.some.injEq]
    constructor
    · rintro ⟨_, ⟨-, rfl⟩, _, ⟨-, rfl⟩, _, ⟨-, rfl⟩, rfl⟩
      exact ⟨id, rfl⟩
    · rintro ⟨-, rfl⟩
      exact ⟨_, ⟨h.1, rfl⟩, _, ⟨h.2.1, rfl⟩, _, ⟨h.2.2, rfl⟩, rfl⟩

/-- A well-formed request arrives at the handler, but for a delivery without targets. -/
theorem parse_body {request : ClusterRequest} (h : request.WellFormed) (hne : ¬request.Aimless) :
    ((Json.parse request.body.stringify).bind fun value => request.schema (some value)) =
      some request.received := by
  rw [Json.parse_stringify (wf_body h)]
  exact (schema_finitePart request (some request.body)).trans
    (congrArg (Option.map finitePart) ((schema_body h).2 ⟨hne, rfl⟩))

/-- A delivery without targets is refused. -/
theorem parse_body_of_aimless {request : ClusterRequest} (h : request.WellFormed)
    (hnil : request.Aimless) :
    ((Json.parse request.body.stringify).bind fun value => request.schema (some value)) = none := by
  rw [Json.parse_stringify (wf_body h)]
  refine (schema_finitePart request (some request.body)).trans (Option.map_eq_none_iff.2 ?_)
  rw [Option.eq_none_iff_forall_ne_some]
  exact fun request' hsome => ((schema_body h).1 hsome).1 hnil

end ClusterRequest

/-- The connections of a response, as they are read back. -/
theorem parse_deliverResponse {conns conns' : List ConnRef} :
    ((Json.parse (Json.obj [(js "ok", .bool true),
        (js "deliveredConns", .arr (conns.map ConnRef.toJson))]).stringify).bind
      fun value => clusterDeliverResponseSchema (some value)) = some conns' ↔
      (∀ c ∈ conns, c.Named) ∧ conns' = conns.map ConnRef.withoutGroup := by
  have hwf : (Json.obj [(js "ok", .bool true),
      (js "deliveredConns", .arr (conns.map ConnRef.toJson))]).WF := by
    refine wf_obj [js "ok", js "deliveredConns"] (List.Sublist.refl _) (by simp) ?_
    simp only [List.forall_mem_cons]
    exact ⟨trivial, wf_arr_map ConnRef.wf_toJson _, List.forall_mem_nil _⟩
  have hstable : Zod.Stable clusterDeliverResponseSchema :=
    Zod.stable_object fun f => by
      rw [ClusterSocketMessage.stable_connRefSchema.array]
  rw [Json.parse_stringify hwf, Option.bind_some]
  refine Iff.trans (Eq.to_iff (congrArg (· = some conns') (hstable (some _)))) ?_
  simp only [clusterDeliverResponseSchema, Zod.object, Json.lookup_cons, js_inj, String.reduceEq,
    if_true, if_false, Zod.array_map_eq_some fun _ _ => connRefSchema_toJson]

end Hardess

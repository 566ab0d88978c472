import Hardess.Lib.Json

/-!
# Shared types

The records that `src/shared/types.ts` declares and the modelled functions use.
A field `x?: T` is an `Option`; `payload: unknown` may be `undefined` as well.
-/

namespace Hardess

/-- `ConnRef`. -/
structure ConnRef where
  nodeId : JsString
  connId : JsString
  peerId : JsString
  groupId : Option JsString := none
  deriving DecidableEq

/-- `Envelope["kind"]`. -/
inductive EnvelopeKind
  | system
  | biz
  deriving DecidableEq

/-- The strings of `Envelope["kind"]`. -/
def EnvelopeKind.options : List (JsString × EnvelopeKind) :=
  [(js "system", .system), (js "biz", .biz)]

/-- `Envelope["src"]`. -/
structure EnvelopeSrc where
  peerId : JsString
  connId : JsString
  deriving DecidableEq

/-- `Envelope<unknown>`. -/
structure Envelope where
  msgId : JsString
  kind : EnvelopeKind
  src : EnvelopeSrc
  protocol : JsString
  version : JsString
  action : JsString
  streamId : Option JsString := none
  seq : Option JsNumber := none
  ts : JsNumber
  traceId : Option JsString := none
  payload : Option Json

/-- `AckMode`. -/
inductive AckMode
  | none
  | recv
  | handle
  deriving DecidableEq

/-- `AuthContext`, without the `revokedAt` that nothing modelled reads. -/
structure AuthContext where
  peerId : JsString
  tokenId : JsString
  capabilities : List JsString
  expiresAt : JsNumber
  groupId : Option JsString := none
  deriving DecidableEq

/-! ### As JSON -/

/-- A member that `JSON.stringify` drops when the value is `undefined`. -/
def optMember (k : JsString) : Option Json → List (JsString × Json)
  | some v => [(k, v)]
  | none => []

@[simp] theorem lookup_optMember (k k' : JsString) (v : Option Json) :
    Json.lookup (optMember k v) k' = if k = k' then v else none := by
  cases v <;> simp [optMember, Json.lookup_cons]

theorem keys_optMember_sublist (k : JsString) (v : Option Json) :
    ((optMember k v).map Prod.fst).Sublist [k] := by
  cases v <;> simp [optMember]

theorem mem_optMember {k : JsString} {v : Option Json} {m : JsString × Json} :
    m ∈ optMember k v ↔ ∃ x, v = some x ∧ m = (k, x) := by
  cases v <;> simp [optMember]

def ConnRef.toJson (c : ConnRef) : Json :=
  .obj ([(js "nodeId", .str c.nodeId), (js "connId", .str c.connId), (js "peerId", .str c.peerId)] ++
    optMember (js "groupId") (c.groupId.map .str))

def EnvelopeKind.toJson : EnvelopeKind → Json
  | .system => .str (js "system")
  | .biz => .str (js "biz")

def EnvelopeSrc.toJson (s : EnvelopeSrc) : Json :=
  .obj [(js "peerId", .str s.peerId), (js "connId", .str s.connId)]

def Envelope.toJson (e : Envelope) : Json :=
  .obj ([(js "msgId", .str e.msgId), (js "kind", e.kind.toJson), (js "src", e.src.toJson),
      (js "protocol", .str e.protocol), (js "version", .str e.version),
      (js "action", .str e.action)] ++
    optMember (js "streamId") (e.streamId.map .str) ++ optMember (js "seq") (e.seq.map .num) ++
    [(js "ts", .num e.ts)] ++ optMember (js "traceId") (e.traceId.map .str) ++
    optMember (js "payload") e.payload)

def AckMode.toJson : AckMode → Json
  | .none => .str (js "none")
  | .recv => .str (js "recv")
  | .handle => .str (js "handle")

end Hardess

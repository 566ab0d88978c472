import Hardess.Lib.JsonRoundTrip
import Hardess.Lib.Zod
import Hardess.Shared.Types

/-!
# Envelopes on the wire

`src/shared/envelope.ts`: the hand-written guard that every client frame passes.

* `parseEnvelope` is the guard; it returns the parsed value itself, members it did not
  look at included;
* `Envelope.ofValue` reads a value at the type `Envelope<unknown>`;
* `parseEnvelopeValueFast_eq_some`: the guard accepts exactly the values that have the
  declared fields, meet `Envelope.WellFormed` and carry a payload.
-/

namespace Hardess

/-! ### The guard -/

/-- `isRecord`. -/
def isRecord : Option Json → Bool
  | some (.arr _) => true
  | some (.obj _) => true
  | _ => false

/-- Not `typeof value !== "string" || value.length === 0`. -/
def isNonEmptyString : Option Json → Bool
  | some (.str s) => s ≠ []
  | _ => false

/-- `value === s`. -/
def isLiteral (s : JsString) : Option Json → Bool
  | some (.str t) => t = s
  | _ => false

/-- `typeof value === "number"`, and the test holds of it. -/
def isNumber (test : JsNumber → Bool) : Option Json → Bool
  | some (.num x) => test x
  | _ => false

/-- `parseEnvelopeValueFast`. -/
def parseEnvelopeValueFast (value : Json) : Option Json :=
  if !isRecord (some value) then none else
  let src := value.get? (js "src")
  if !isRecord src then none else
  let srcProp := fun k => src.bind fun s => s.get? k
  if !isNonEmptyString (value.get? (js "msgId")) ||
      (!isLiteral (js "system") (value.get? (js "kind")) &&
        !isLiteral (js "biz") (value.get? (js "kind"))) ||
      !isNonEmptyString (srcProp (js "peerId")) ||
      !isNonEmptyString (srcProp (js "connId")) ||
      !isNonEmptyString (value.get? (js "protocol")) ||
      !isNonEmptyString (value.get? (js "version")) ||
      !isNonEmptyString (value.get? (js "action")) ||
      !isNumber (fun x => x.isFinite && !x.lt (.ofNat 0)) (value.get? (js "ts")) then none
  else if (value.get? (js "streamId")).isSome && !isNonEmptyString (value.get? (js "streamId")) then
    none
  else if (value.get? (js "seq")).isSome &&
      !isNumber (fun x => x.isInteger && !x.lt (.ofNat 0)) (value.get? (js "seq")) then none
  else if (value.get? (js "traceId")).isSome && !isNonEmptyString (value.get? (js "traceId")) then
    none
  else if !(value.get? (js "payload")).isSome then none
  else some value

/-- `parseEnvelope`. -/
def parseEnvelope (raw : JsString) : Option Json := (Json.parse raw).bind parseEnvelopeValueFast

/-- `serializeEnvelope`. -/
def serializeEnvelope (envelope : Envelope) : JsString := envelope.toJson.stringify

/-! ### Values as envelopes -/

/-- A property of type `number`; it may be infinite or `NaN`. -/
def numberProp : Option Json → Option JsNumber
  | some (.num x) => some x
  | _ => none

/-- A property of type `Envelope["src"]`. -/
def srcProp : Option Json → Option EnvelopeSrc := Zod.object fun f => do
  let peerId ← Zod.string (f (js "peerId"))
  let connId ← Zod.string (f (js "connId"))
  some { peerId, connId }

/-- A value read at the type `Envelope<unknown>`: its declared fields. -/
def Envelope.ofValue (value : Json) : Option Envelope := Zod.object (fun f => do
  let msgId ← Zod.string (f (js "msgId"))
  let kind ← Zod.enum EnvelopeKind.options (f (js "kind"))
  let src ← srcProp (f (js "src"))
  let protocol ← Zod.string (f (js "protocol"))
  let version ← Zod.string (f (js "version"))
  let action ← Zod.string (f (js "action"))
  let streamId ← Zod.optional Zod.string (f (js "streamId"))
  let seq ← Zod.optional numberProp (f (js "seq"))
  let ts ← numberProp (f (js "ts"))
  let traceId ← Zod.optional Zod.string (f (js "traceId"))
  some { msgId, kind, src, protocol, version, action, streamId, seq, ts, traceId,
         payload := f (js "payload") }) (some value)

/-- What both validators ask of the declared fields; they differ in the integers that
they let through as `seq`. -/
structure Envelope.WellFormed (integer : JsNumber → Bool) (e : Envelope) : Prop where
  msgId : e.msgId ≠ []
  srcPeerId : e.src.peerId ≠ []
  srcConnId : e.src.connId ≠ []
  protocol : e.protocol ≠ []
  version : e.version ≠ []
  action : e.action ≠ []
  streamId : e.streamId ≠ some []
  seq : ∀ n, e.seq = some n → integer n = true ∧ n.lt (.ofNat 0) = false
  ts : e.ts.isFinite = true ∧ e.ts.lt (.ofNat 0) = false
  traceId : e.traceId ≠ some []

/-- The fields of an object that reads as an envelope. -/
theorem Envelope.ofValue_eq_some {v : Json} {e : Envelope} :
    Envelope.ofValue v = some e ↔ ∃ ms, v = .obj ms ∧
      Zod.string (Json.lookup ms (js "msgId")) = some e.msgId ∧
      Zod.enum EnvelopeKind.options (Json.lookup ms (js "kind")) = some e.kind ∧
      srcProp (Json.lookup ms (js "src")) = some e.src ∧
      Zod.string (Json.lookup ms (js "protocol")) = some e.protocol ∧
      Zod.string (Json.lookup ms (js "version")) = some e.version ∧
      Zod.string (Json.lookup ms (js "action")) = some e.action ∧
      Zod.optional Zod.string (Json.lookup ms (js "streamId")) = some e.streamId ∧
      Zod.optional numberProp (Json.lookup ms (js "seq")) = some e.seq ∧
      numberProp (Json.lookup ms (js "ts")) = some e.ts ∧
      Zod.optional Zod.string (Json.lookup ms (js "traceId")) = some e.traceId ∧
      Json.lookup ms (js "payload") = e.payload := by
  rw [Envelope.ofValue, Zod.object_eq_some]
  simp only [Option.some.injEq, Option.bind_eq_bind, Option.bind_eq_some_iff]
  constructor
  · rintro ⟨ms, hv, _, h1, _, h2, _, h3, _, h4, _, h5, _, h6, _, h7, _, h8, _, h9, _, h10, rfl⟩
    exact ⟨ms, hv, h1, h2, h3, h4, h5, h6, h7, h8, h9, h10, rfl⟩
  · rintro ⟨ms, hv, h1, h2, h3, h4, h5, h6, h7, h8, h9, h10, h11⟩
    exact ⟨ms, hv, _, h1, _, h2, _, h3, _, h4, _, h5, _, h6, _, h7, _, h8, _, h9, _, h10,
      by rw [h11]⟩

theorem srcProp_eq_some {v : Option Json} {s : EnvelopeSrc} :
    srcProp v = some s ↔ ∃ ms, v = some (.obj ms) ∧
      Zod.string (Json.lookup ms (js "peerId")) = some s.peerId ∧
      Zod.string (Json.lookup ms (js "connId")) = some s.connId := by
  rw [srcProp, Zod.object_eq_some]
  simp only [Option.bind_eq_bind, Option.bind_eq_some_iff, Option.some.injEq]
  constructor
  · rintro ⟨ms, hv, _, h1, _, h2, rfl⟩
    exact ⟨ms, hv, h1, h2⟩
  · rintro ⟨ms, hv, h1, h2⟩
    exact ⟨ms, hv, _, h1, _, h2, rfl⟩

/-! ### What the guard accepts -/

theorem isNonEmptyString_iff {v : Option Json} :
    isNonEmptyString v = true ↔ ∃ s, Zod.string v = some s ∧ s ≠ [] := by
  unfold isNonEmptyString Zod.string
  split <;> simp

theorem isNumber_iff {test : JsNumber → Bool} {v : Option Json} :
    isNumber test v = true ↔ ∃ x, numberProp v = some x ∧ test x = true := by
  unfold isNumber numberProp
  split <;> simp

theorem isLiteral_iff {s : JsString} {v : Option Json} :
    isLiteral s v = true ↔ Zod.string v = some s := by
  unfold isLiteral Zod.string
  split <;> simp [eq_comm]

theorem kind_iff {v : Option Json} :
    (isLiteral (js "system") v = false → isLiteral (js "biz") v = true) ↔
      ∃ k, Zod.enum EnvelopeKind.options v = some k := by
  rw [← Bool.not_eq_true, isLiteral_iff, isLiteral_iff, Zod.enum]
  rcases Zod.string v with _ | s
  · simp
  · by_cases h1 : s = js "system"
    · subst h1; simp [EnvelopeKind.options]
    · by_cases h2 : s = js "biz"
      · subst h2; simp [EnvelopeKind.options]
      · simp [EnvelopeKind.options, h1, h2, Ne.symm h1, Ne.symm h2]

/-- An optional property that the guard lets through. -/
theorem optional_string_iff {v : Option Json} :
    (v.isSome = true → isNonEmptyString v = true) ↔
      ∃ o, Zod.optional Zod.string v = some o ∧ o ≠ some [] := by
  rcases v with _ | v
  · simp [Zod.optional]
  · simp only [Option.isSome_some, forall_const, isNonEmptyString_iff, Zod.optional, Option.map_eq_some_iff]
    constructor
    · rintro ⟨s, hs, hne⟩
      exact ⟨some s, ⟨s, hs, rfl⟩, by simpa using hne⟩
    · rintro ⟨o, ⟨s, hs, rfl⟩, hne⟩
      exact ⟨s, hs, by simpa using hne⟩

theorem optional_number_iff {test : JsNumber → Bool} {v : Option Json} :
    (v.isSome = true → isNumber test v = true) ↔
      ∃ o, Zod.optional numberProp v = some o ∧ ∀ n, o = some n → test n = true := by
  rcases v with _ | v
  · simp [Zod.optional]
  · simp only [Option.isSome_some, forall_const, isNumber_iff, Zod.optional, Option.map_eq_some_iff]
    constructor
    · rintro ⟨x, hx, ht⟩
      exact ⟨some x, ⟨x, hx, rfl⟩, fun n hn => by cases hn; exact ht⟩
    · rintro ⟨o, ⟨x, hx, rfl⟩, ht⟩
      exact ⟨x, hx, ht x rfl⟩

/-- The sender fields that the guard lets through. -/
theorem src_iff {v : Option Json} :
    (isRecord v = true ∧
      (∃ s, Zod.string (v.bind fun u => u.get? (js "peerId")) = some s ∧ s ≠ []) ∧
      (∃ s, Zod.string (v.bind fun u => u.get? (js "connId")) = some s ∧ s ≠ [])) ↔
    ∃ src, srcProp v = some src ∧ src.peerId ≠ [] ∧ src.connId ≠ [] := by
  constructor
  · rintro ⟨-, ⟨peerId, hp, hp'⟩, connId, hc, hc'⟩
    rcases v with _ | v
    · cases hp
    · cases v with
      | obj ms => exact ⟨⟨peerId, connId⟩, srcProp_eq_some.2 ⟨ms, rfl, hp, hc⟩, hp', hc'⟩
      | _ => cases hp
  · rintro ⟨src, hsrc, hp, hc⟩
    obtain ⟨ms, rfl, h1, h2⟩ := srcProp_eq_some.1 hsrc
    exact ⟨rfl, ⟨_, h1, hp⟩, ⟨_, h2, hc⟩⟩

/-- The guard accepts the values that have the declared fields, well formed, and a payload;
it returns the value as it is. -/
theorem parseEnvelopeValueFast_eq_some {v w : Json} :
    parseEnvelopeValueFast v = some w ↔
      w = v ∧ ∃ e, Envelope.ofValue v = some e ∧ e.WellFormed JsNumber.isInteger ∧
        e.payload.isSome = true := by
  -- the checks, each as what it asks of the property
  simp only [parseEnvelopeValueFast, Option.ite_none_left_eq_some, Bool.not_eq_true',
    Bool.and_eq_true, Bool.or_eq_true, not_and, not_or, Bool.not_eq_false, Option.some.injEq,
    optional_number_iff, optional_string_iff, kind_iff]
  simp only [isNonEmptyString_iff, isNumber_iff, Bool.and_eq_true, Bool.not_eq_true']
  constructor
  · rintro ⟨hv, hsrc, ⟨⟨⟨⟨⟨⟨⟨⟨msgId, h1, h1'⟩, ⟨kind, h2⟩⟩, h3⟩, h4⟩, ⟨protocol, h5, h5'⟩⟩,
      ⟨version, h6, h6'⟩⟩, ⟨action, h7, h7'⟩⟩, ⟨ts, h8, h8'⟩⟩, ⟨streamId, h9, h9'⟩,
      ⟨seq, h10, h10'⟩, ⟨traceId, h11, h11'⟩, h12, rfl⟩
    obtain ⟨src, hs, hp, hc⟩ := src_iff.1 ⟨hsrc, h3, h4⟩
    cases v with
    | obj ms =>
      refine ⟨rfl, ⟨msgId, kind, src, protocol, version, action, streamId, seq, ts, traceId,
        Json.lookup ms (js "payload")⟩, ?_, ?_, h12⟩
      · exact Envelope.ofValue_eq_some.2 ⟨ms, rfl, h1, h2, hs, h5, h6, h7, h9, h10, h8, h11, rfl⟩
      · exact ⟨h1', hp, hc, h5', h6', h7', h9', h10', h8', h11'⟩
    | _ => cases h1
  · rintro ⟨rfl, e, he, hw, hp⟩
    obtain ⟨ms, rfl, h1, h2, hs, h5, h6, h7, h9, h10, h8, h11, h12⟩ := Envelope.ofValue_eq_some.1 he
    obtain ⟨hrec, h3, h4⟩ := src_iff.2 ⟨e.src, hs, hw.srcPeerId, hw.srcConnId⟩
    refine ⟨rfl, hrec, ⟨⟨⟨⟨⟨⟨⟨⟨_, h1, hw.msgId⟩, ⟨_, h2⟩⟩, h3⟩, h4⟩, ⟨_, h5, hw.protocol⟩⟩,
      ⟨_, h6, hw.version⟩⟩, ⟨_, h7, hw.action⟩⟩, ⟨_, h8, hw.ts⟩⟩, ⟨_, h9, hw.streamId⟩,
      ⟨_, h10, hw.seq⟩, ⟨_, h11, hw.traceId⟩, ?_, rfl⟩
    rw [← h12] at hp
    exact hp

end Hardess

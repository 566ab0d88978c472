import Hardess.Shared.Envelope

/-!
# The envelope schema

`envelopeSchema` of `src/shared/schema.ts`, the validator of an envelope that another
node relays.

* `envelopeSchema_eq_some`: it accepts the values with the declared fields that meet
  `Envelope.WellFormed`, and returns those fields;
* `envelopeSchema_finitePart`: on a value that was written and parsed, only the payload
  can come out changed.
-/

namespace Hardess

/-- `envelopeSchema.src`. -/
def envelopeSrcSchema : Zod.Schema EnvelopeSrc := Zod.object fun f => do
  let peerId ← Zod.nonempty (f (js "peerId"))
  let connId ← Zod.nonempty (f (js "connId"))
  some { peerId, connId }

/-- `envelopeSchema`. -/
def envelopeSchema : Zod.Schema Envelope := Zod.object fun f => do
  let msgId ← Zod.nonempty (f (js "msgId"))
  let kind ← Zod.enum EnvelopeKind.options (f (js "kind"))
  let src ← envelopeSrcSchema (f (js "src"))
  let protocol ← Zod.nonempty (f (js "protocol"))
  let version ← Zod.nonempty (f (js "version"))
  let action ← Zod.nonempty (f (js "action"))
  let streamId ← Zod.optional Zod.nonempty (f (js "streamId"))
  let seq ← Zod.optional (Zod.intMin 0) (f (js "seq"))
  let ts ← Zod.nonnegative (f (js "ts"))
  let traceId ← Zod.optional Zod.nonempty (f (js "traceId"))
  let payload ← Zod.unknown (f (js "payload"))
  some { msgId, kind, src, protocol, version, action, streamId, seq, ts, traceId, payload }

/-! ### What it accepts -/

theorem nonnegative_eq_some {v : Option Json} {x : JsNumber} :
    Zod.nonnegative v = some x ↔
      numberProp v = some x ∧ x.isFinite = true ∧ x.lt (.ofNat 0) = false := by
  rw [Zod.nonnegative, Option.filter_eq_some_iff, Zod.number_eq_some]
  unfold numberProp
  split <;> simp_all [and_assoc]

theorem intMin_zero_eq_some (v : Option Json) (x : JsNumber) :
    Zod.intMin 0 v = some x ↔
      numberProp v = some x ∧ x.isSafeInteger = true ∧ x.lt (.ofNat 0) = false := by
  rw [Zod.intMin, Option.filter_eq_some_iff, Zod.int, Option.filter_eq_some_iff,
    Zod.number_eq_some]
  have hfin : x.isSafeInteger = true → x.isFinite = true := by
    cases x <;> simp [JsNumber.isSafeInteger, JsNumber.isFinite]
  unfold numberProp
  split <;> simp_all [and_assoc]

theorem envelopeSrcSchema_eq_some {v : Option Json} {s : EnvelopeSrc} :
    envelopeSrcSchema v = some s ↔ srcProp v = some s ∧ s.peerId ≠ [] ∧ s.connId ≠ [] := by
  rw [srcProp_eq_some, envelopeSrcSchema, Zod.object_eq_some]
  simp only [Option.bind_eq_bind, Option.bind_eq_some_iff, Option.some.injEq,
    Zod.nonempty_eq_some]
  constructor
  · rintro ⟨ms, hv, _, ⟨h1, h1'⟩, _, ⟨h2, h2'⟩, rfl⟩
    exact ⟨⟨ms, hv, h1, h2⟩, h1', h2'⟩
  · rintro ⟨⟨ms, hv, h1, h2⟩, h1', h2'⟩
    exact ⟨ms, hv, _, ⟨h1, h1'⟩, _, ⟨h2, h2'⟩, rfl⟩

/-- The schema accepts the values that have the declared fields, well formed with safe
integers only, and returns these fields. -/
theorem envelopeSchema_eq_some {v : Json} {e : Envelope} :
    envelopeSchema (some v) = some e ↔
      Envelope.ofValue v = some e ∧ e.WellFormed JsNumber.isSafeInteger := by
  rw [Envelope.ofValue_eq_some, envelopeSchema, Zod.object_eq_some]
  simp only [Option.some.injEq, Option.bind_eq_bind, Option.bind_eq_some_iff,
    Zod.nonempty_eq_some, envelopeSrcSchema_eq_some, nonnegative_eq_some, Zod.unknown,
    Zod.optional_refine intMin_zero_eq_some, Zod.optional_refine fun _ _ => Zod.nonempty_eq_some]
  constructor
  · rintro ⟨ms, hv, _, ⟨h1, h1'⟩, _, h2, _, ⟨h3, hp, hc⟩, _, ⟨h4, h4'⟩, _, ⟨h5, h5'⟩, _,
      ⟨h6, h6'⟩, _, ⟨h7, h7'⟩, _, ⟨h8, h8'⟩, _, ⟨h9, h9'⟩, _, ⟨h10, h10'⟩, _, h11, rfl⟩
    exact ⟨⟨ms, hv, h1, h2, h3, h4, h5, h6, h7, h8, h9, h10, h11⟩, h1', hp, hc, h4', h5', h6',
      fun h => h7' _ h rfl, h8', h9', fun h => h10' _ h rfl⟩
  · rintro ⟨⟨ms, hv, h1, h2, h3, h4, h5, h6, h7, h8, h9, h10, h11⟩, h1', hp, hc, h4', h5', h6',
      h7', h8', h9', h10'⟩
    exact ⟨ms, hv, _, ⟨h1, h1'⟩, _, h2, _, ⟨h3, hp, hc⟩, _, ⟨h4, h4'⟩, _, ⟨h5, h5'⟩, _,
      ⟨h6, h6'⟩, _, ⟨h7, fun a ha hn => h7' (by rw [ha, hn])⟩, _, ⟨h8, h8'⟩, _, ⟨h9, h9'⟩, _,
      ⟨h10, fun a ha hn => h10' (by rw [ha, hn])⟩, _, h11, rfl⟩

/-! ### Written values -/

/-- An envelope after it was written and parsed. -/
def Envelope.finitePart (e : Envelope) : Envelope :=
  { e with payload := e.payload.map Json.finitePart }

theorem stable_envelopeSrcSchema : Zod.Stable envelopeSrcSchema :=
  Zod.stable_object fun f => by simp only [Zod.stable_nonempty _]

/-- Only the payload of a written envelope can come out changed. -/
theorem envelopeSchema_finitePart (v : Option Json) :
    envelopeSchema (v.map Json.finitePart) = (envelopeSchema v).map Envelope.finitePart :=
  Zod.object_finitePart Envelope.finitePart (fun f => by
    simp only [Zod.stable_nonempty _, Zod.stable_enum _ _, stable_envelopeSrcSchema _,
      Zod.stable_nonempty.optional _, (Zod.stable_intMin 0).optional _, Zod.stable_nonnegative _]
    simp only [Option.bind_eq_bind, Option.map_bind, Function.comp_def]
    rfl) v

end Hardess

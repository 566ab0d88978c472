import Hardess.Lib.Json

/-!
# Schemas

The part of zod 4 that validators of JSON use. A schema is its `safeParse`: it takes a
value, `none` for `undefined`, and gives the parsed data or fails. `z.object` reads the
declared keys and drops the others; `z.number` refuses the infinities and `NaN`, and
`z.number().int()` takes exactly the safe integers.
-/

namespace Zod

/-- A schema, as its `safeParse`. -/
abbrev Schema (α : Type) := Option Json → Option α

variable {α : Type}

/-- `z.string()`. -/
def string : Schema JsString
  | some (.str s) => some s
  | _ => none

/-- `z.string().min(1)`. -/
def nonempty : Schema JsString := fun v => (string v).filter fun s => s ≠ []

/-- `z.number()`. -/
def number : Schema JsNumber
  | some (.num x) => if x.isFinite then some x else none
  | _ => none

/-- `z.number().nonnegative()`. -/
def nonnegative : Schema JsNumber := fun v => (number v).filter fun x => !x.lt (.ofNat 0)

/-- `z.number().int()`. -/
def int : Schema JsNumber := fun v => (number v).filter JsNumber.isSafeInteger

/-- `z.number().int().min(n)`; `nonnegative` is the case `n = 0`. -/
def intMin (n : ℕ) : Schema JsNumber := fun v => (int v).filter fun x => !x.lt (.ofNat n)

/-- `z.boolean()`. -/
def boolean : Schema Bool
  | some (.bool b) => some b
  | _ => none

/-- `z.enum([…])`, with the value each string stands for. -/
def enum (options : List (JsString × α)) : Schema α := fun v =>
  (string v).bind fun s => (options.find? fun o => o.1 = s).map Prod.snd

/-- `z.literal(s)`. -/
def literal (s : JsString) : Schema Unit
  | some (.str t) => if t = s then some () else none
  | _ => none

/-- `schema.optional()`. -/
def optional (schema : Schema α) : Schema (Option α)
  | none => some none
  | v => (schema v).map some

/-- `z.unknown()`. -/
def unknown : Schema (Option Json) := some

/-- `z.array(schema)`. -/
def array (schema : Schema α) : Schema (List α)
  | some (.arr xs) => xs.mapM fun x => schema (some x)
  | _ => none

/-- `z.record(z.string(), schema)`, which leaves the key `__proto__` out. -/
def record (schema : Schema α) : Schema (List (JsString × α))
  | some (.obj ms) => (ms.filter fun m => m.1 ≠ js "__proto__").mapM fun m =>
    (schema (some m.2)).map fun a => (m.1, a)
  | _ => none

/-- `z.object({…})`: `shape` reads the declared keys. -/
def object (shape : (JsString → Option Json) → Option α) : Schema α
  | some (.obj ms) => shape (Json.lookup ms)
  | _ => none

/-- `z.discriminatedUnion(key, […])`: the member `key` selects the schema. -/
def discriminatedUnion (key : JsString) (options : List (JsString × Schema α)) : Schema α
  | some (.obj ms) =>
    match Json.lookup ms key with
    | some (.str t) => (options.find? fun o => o.1 = t).bind fun o => o.2 (some (.obj ms))
    | _ => none
  | _ => none

/-! ### What is accepted -/

@[simp] theorem nonempty_str (s : JsString) :
    nonempty (some (.str s)) = if s = [] then none else some s := by
  by_cases h : s = [] <;> simp [nonempty, string, h]

theorem nonempty_eq_some {v : Option Json} {s : JsString} :
    nonempty v = some s ↔ string v = some s ∧ s ≠ [] := by
  rw [nonempty, Option.filter_eq_some_iff]
  simp

theorem number_eq_some {v : Option Json} {x : JsNumber} :
    number v = some x ↔ v = some (.num x) ∧ x.isFinite = true := by
  constructor
  · intro h
    unfold number at h
    split at h
    · split_ifs at h with hf
      cases h; exact ⟨rfl, hf⟩
    · cases h
  · rintro ⟨rfl, h⟩
    simp [number, h]

/-- A schema that adds a test to another one adds it to the optional field as well. -/
theorem optional_refine {schema schema' : Schema α} {p : α → Prop}
    (h : ∀ v a, schema v = some a ↔ schema' v = some a ∧ p a) {v : Option Json} {o : Option α} :
    optional schema v = some o ↔ optional schema' v = some o ∧ ∀ a, o = some a → p a := by
  cases v with
  | none =>
    simp only [optional, Option.some.injEq]
    exact ⟨fun ho => ⟨ho, fun a ha => by simp [← ho] at ha⟩, fun ho => ho.1⟩
  | some j =>
    simp only [optional, Option.map_eq_some_iff]
    constructor
    · rintro ⟨a, ha, rfl⟩
      obtain ⟨ha', hp⟩ := (h _ _).1 ha
      exact ⟨⟨a, ha', rfl⟩, fun b hb => by cases hb; exact hp⟩
    · rintro ⟨⟨a, ha, rfl⟩, hp⟩
      exact ⟨a, (h _ _).2 ⟨ha, hp a rfl⟩, rfl⟩

theorem object_eq_some {shape : (JsString → Option Json) → Option α} {v : Option Json} {a : α} :
    object shape v = some a ↔ ∃ ms, v = some (.obj ms) ∧ shape (Json.lookup ms) = some a := by
  unfold object
  split
  · exact ⟨fun h => ⟨_, rfl, h⟩, fun ⟨ms, hms, h⟩ => by cases hms; exact h⟩
  · rename_i hv
    exact ⟨nofun, fun ⟨ms, hms, _⟩ => absurd hms (hv ms)⟩

/-- Reading back an optional member that was written if it was there. -/
theorem optional_map_eq_some {schema : Schema α} {write : α → Json} {ok : α → Prop}
    (h : ∀ a b, schema (some (write a)) = some b ↔ ok a ∧ b = a) {o o' : Option α} :
    optional schema (o.map write) = some o' ↔ (∀ a, o = some a → ok a) ∧ o' = o := by
  cases o with
  | none => simp [optional, eq_comm]
  | some a =>
    simp only [optional, Option.map_some, Option.map_eq_some_iff, h, Option.some.injEq]
    constructor
    · rintro ⟨b, ⟨ha, rfl⟩, rfl⟩
      exact ⟨fun c hc => hc ▸ ha, rfl⟩
    · rintro ⟨ha, rfl⟩
      exact ⟨a, ⟨ha a rfl, rfl⟩, rfl⟩

/-- A union is read by the schema under the value of its key. -/
theorem discriminatedUnion_eq_some {key : JsString} {options : List (JsString × Schema α)}
    {v : Option Json} {a : α} (h : discriminatedUnion key options v = some a) :
    ∃ o ∈ options, o.2 v = some a := by
  unfold discriminatedUnion at h
  split at h
  · split at h
    · obtain ⟨o, ho, hoa⟩ := Option.bind_eq_some_iff.1 h
      exact ⟨o, List.mem_of_find?_eq_some ho, hoa⟩
    · cases h
  · cases h

/-- Reading back a list that was written member by member. -/
theorem array_map_eq_some {schema : Schema α} {β : Type} {write : β → Json} {read : β → α}
    {ok : β → Prop} (h : ∀ b a, schema (some (write b)) = some a ↔ ok b ∧ a = read b)
    {bs : List β} {as : List α} :
    array schema (some (.arr (bs.map write))) = some as ↔
      (∀ b ∈ bs, ok b) ∧ as = bs.map read := by
  induction bs generalizing as with
  | nil => simp [array, eq_comm]
  | cons b bs ih =>
    simp only [array, List.map_cons, List.mapM_cons, Option.bind_eq_bind, Option.pure_def,
      Option.bind_eq_some_iff, h, Option.some.injEq] at ih ⊢
    constructor
    · rintro ⟨_, ⟨hb, rfl⟩, as', has', rfl⟩
      obtain ⟨hbs, rfl⟩ := ih.1 has'
      exact ⟨List.forall_mem_cons.2 ⟨hb, hbs⟩, rfl⟩
    · rintro ⟨hall, rfl⟩
      obtain ⟨hb, hbs⟩ := List.forall_mem_cons.1 hall
      exact ⟨_, ⟨hb, rfl⟩, _, ih.2 ⟨hbs, rfl⟩, rfl⟩

/-- What a record holds under a key was read from a member of that key. -/
theorem mem_record {schema : Schema α} {ms : List (JsString × Json)} {as : List (JsString × α)}
    (h : record schema (some (.obj ms)) = some as) {k : JsString} {a : α} (ha : (k, a) ∈ as) :
    ∃ v, (k, v) ∈ ms ∧ schema (some v) = some a := by
  simp only [record] at h
  have hsub : ∀ m ∈ ms.filter fun m => m.1 ≠ js "__proto__", m ∈ ms := fun m hm =>
    (List.mem_filter.1 hm).1
  generalize ms.filter (fun m => m.1 ≠ js "__proto__") = kept at h hsub
  induction kept generalizing as with
  | nil =>
    cases h
    cases ha
  | cons m kept ih =>
    simp only [List.mapM_cons, Option.bind_eq_bind, Option.bind_eq_some_iff, Option.map_eq_some_iff,
      Option.pure_def, Option.some.injEq] at h
    obtain ⟨_, ⟨b, hb, rfl⟩, as', has', rfl⟩ := h
    rcases List.mem_cons.1 ha with heq | htail
    · cases heq
      exact ⟨m.2, hsub m List.mem_cons_self, hb⟩
    · exact ih htail has' fun m' hm' => hsub m' (List.mem_cons_of_mem m hm')

/-! ### Written values -/

/-- The schema reads a value that was written and parsed as it reads the value itself. -/
def Stable (schema : Schema α) : Prop := ∀ v, schema (v.map Json.finitePart) = schema v

theorem stable_string : Stable string := by
  rintro (_ | v)
  · rfl
  · cases v with
    | num x => cases x <;> rfl
    | _ => rfl

theorem stable_number : Stable number := by
  rintro (_ | v)
  · rfl
  · cases v with
    | num x => cases x <;> rfl
    | _ => rfl

theorem stable_boolean : Stable boolean := by
  rintro (_ | v)
  · rfl
  · cases v with
    | num x => cases x <;> rfl
    | _ => rfl

theorem stable_literal (s : JsString) : Stable (literal s) := by
  rintro (_ | v)
  · rfl
  · cases v with
    | num x => cases x <;> rfl
    | _ => rfl

theorem stable_nonempty : Stable nonempty := fun v => by
  unfold nonempty; rw [stable_string]

theorem stable_nonnegative : Stable nonnegative := fun v => by
  unfold nonnegative; rw [stable_number]

theorem stable_intMin (n : ℕ) : Stable (intMin n) := fun v => by
  unfold intMin int; rw [stable_number]

theorem stable_enum (options : List (JsString × α)) : Stable (enum options) := fun v => by
  unfold enum; rw [stable_string]

theorem Stable.optional {schema : Schema α} (h : Stable schema) : Stable (optional schema) := by
  rintro (_ | v)
  · rfl
  · exact congrArg (Option.map some) (h (some v))

theorem Stable.array {schema : Schema α} (h : Stable schema) : Stable (array schema) := by
  rintro (_ | v)
  · rfl
  · cases v with
    | num x => cases x <;> rfl
    | arr xs =>
      simp only [Zod.array, Option.map_some, Json.finitePart]
      induction xs with
      | nil => rfl
      | cons x xs ih =>
        rw [Json.finitePart.elems, List.mapM_cons, List.mapM_cons, ih]
        exact congrArg (· >>= _) (h (some x))
    | _ => rfl

theorem Stable.record {schema : Schema α} (h : Stable schema) : Stable (record schema) := by
  rintro (_ | v)
  · rfl
  · cases v with
    | num x => cases x <;> rfl
    | obj ms =>
      simp only [Zod.record, Option.map_some, Json.finitePart]
      induction ms with
      | nil => rfl
      | cons m ms ih =>
        rw [Json.finitePart.members, List.filter_cons, List.filter_cons]
        dsimp only
        split_ifs with hkey
        · rw [List.mapM_cons, List.mapM_cons, ih]
          exact congrArg (fun o : Option α => o.map (fun a => (m.1, a)) >>= _) (h (some m.2))
        · exact ih
    | _ => rfl

/-- An object is read through its members. -/
theorem object_finitePart {shape : (JsString → Option Json) → Option α} (g : α → α)
    (h : ∀ f, shape (fun k => (f k).map Json.finitePart) = (shape f).map g) (v : Option Json) :
    object shape (v.map Json.finitePart) = (object shape v).map g := by
  rcases v with _ | v
  · rfl
  · cases v with
    | num x => cases x <;> rfl
    | obj ms =>
      rw [Option.map_some, Json.finitePart, object, object, ← h]
      congr 1
      funext k
      exact Json.lookup_finitePart ms k
    | _ => rfl

theorem stable_object {shape : (JsString → Option Json) → Option α}
    (h : ∀ f, shape (fun k => (f k).map Json.finitePart) = shape f) : Stable (object shape) :=
  fun v => by rw [object_finitePart id (by simpa using h), Option.map_id]; rfl

/-- A union is read through the schema that its key selects. -/
theorem discriminatedUnion_finitePart {key : JsString} {options : List (JsString × Schema α)}
    (g : α → α)
    (h : ∀ o ∈ options, ∀ v, o.2 (v.map Json.finitePart) = (o.2 v).map g) (v : Option Json) :
    discriminatedUnion key options (v.map Json.finitePart) =
      (discriminatedUnion key options v).map g := by
  rcases v with _ | v
  · rfl
  · cases v with
    | num x => cases x <;> rfl
    | obj ms =>
      rw [Option.map_some, Json.finitePart, discriminatedUnion, discriminatedUnion,
        Json.lookup_finitePart]
      rcases Json.lookup ms key with _ | t
      · rfl
      · cases t with
        | num x => cases x <;> rfl
        | str t =>
          simp only [Option.map_some, Json.finitePart]
          cases hf : options.find? fun o => o.1 = t with
          | none => rfl
          | some o => exact h o (List.mem_of_find?_eq_some hf) (some (.obj ms))
        | _ => rfl
    | _ => rfl

end Zod

import Hardess.Lib.NumberText

/-!
# JSON values and their text

JSON values as the language has them after `JSON.parse`, and `JSON.stringify`.

* `Json.get?` reads a property;
* `Json.WF`: the keys of every object are distinct, as they are in every object of the
  language (members stand in creation order; nothing here reads the order);
* `Json.stringify` writes the text, an infinite number or `NaN` as `null`;
* `Json.finitePart` is what is left of a value once it has been written: the same value
  with its non-finite numbers replaced by `null`.
-/

/-- A JSON value. -/
inductive Json
  | null
  | bool (b : Bool)
  | num (x : JsNumber)
  | str (s : JsString)
  | arr (xs : List Json)
  | obj (ms : List (JsString × Json))

namespace Json

/-- The value of a member, the first with the key. -/
def lookup (ms : List (JsString × Json)) (k : JsString) : Option Json :=
  (ms.find? fun m => m.1 = k).map Prod.snd

@[simp] theorem lookup_nil (k : JsString) : lookup [] k = none := rfl

theorem lookup_cons (m : JsString × Json) (ms : List (JsString × Json)) (k : JsString) :
    lookup (m :: ms) k = if m.1 = k then some m.2 else lookup ms k := by
  unfold lookup
  rw [List.find?_cons]
  by_cases h : m.1 = k <;> simp [h]

theorem lookup_append (ms ns : List (JsString × Json)) (k : JsString) :
    lookup (ms ++ ns) k = (lookup ms k).or (lookup ns k) := by
  unfold lookup
  rw [List.find?_append]
  cases ms.find? fun m => m.1 = k <;> rfl

/-- `value[k]`, `none` standing for `undefined`. -/
def get? : Json → JsString → Option Json
  | .obj ms, k => lookup ms k
  | _, _ => none

/-- Define a property: in place if the key is there, at the end otherwise. -/
def setMember (ms : List (JsString × Json)) (k : JsString) (v : Json) : List (JsString × Json) :=
  if k ∈ ms.map Prod.fst then ms.map fun m => if m.1 = k then (k, v) else m else ms ++ [(k, v)]

theorem setMember_of_notMem {ms : List (JsString × Json)} {k : JsString}
    (h : k ∉ ms.map Prod.fst) (v : Json) : setMember ms k v = ms ++ [(k, v)] := if_neg h

theorem keys_setMember (ms : List (JsString × Json)) (k : JsString) (v : Json) :
    (setMember ms k v).map Prod.fst =
      if k ∈ ms.map Prod.fst then ms.map Prod.fst else ms.map Prod.fst ++ [k] := by
  unfold setMember
  split_ifs with h
  · rw [List.map_map]
    refine List.map_congr_left fun m _ => ?_
    by_cases hm : m.1 = k <;> simp [hm]
  · simp

theorem nodup_keys_setMember {ms : List (JsString × Json)} (h : (ms.map Prod.fst).Nodup)
    (k : JsString) (v : Json) : ((setMember ms k v).map Prod.fst).Nodup := by
  rw [keys_setMember]
  split_ifs with hk
  · exact h
  · refine List.nodup_append.2 ⟨h, List.nodup_singleton k, fun a ha b hb hab => hk ?_⟩
    rwa [← List.mem_singleton.1 hb, ← hab]

/-! ### Recursive predicates -/

/-- The keys of every object are distinct. -/
def WF : Json → Prop
  | .arr xs => elems xs
  | .obj ms => (ms.map Prod.fst).Nodup ∧ members ms
  | _ => True
where
  elems : List Json → Prop
    | [] => True
    | x :: xs => WF x ∧ elems xs
  members : List (JsString × Json) → Prop
    | [] => True
    | (_, v) :: ms => WF v ∧ members ms

/-- No number in the value is infinite or `NaN`. -/
def AllFinite : Json → Prop
  | .num x => x.isFinite = true
  | .arr xs => elems xs
  | .obj ms => members ms
  | _ => True
where
  elems : List Json → Prop
    | [] => True
    | x :: xs => AllFinite x ∧ elems xs
  members : List (JsString × Json) → Prop
    | [] => True
    | (_, v) :: ms => AllFinite v ∧ members ms

/-- The value with its non-finite numbers replaced by `null`. -/
def finitePart : Json → Json
  | .num (.finite x) => .num (.finite x)
  | .num _ => .null
  | .arr xs => .arr (elems xs)
  | .obj ms => .obj (members ms)
  | v => v
where
  elems : List Json → List Json
    | [] => []
    | x :: xs => finitePart x :: elems xs
  members : List (JsString × Json) → List (JsString × Json)
    | [] => []
    | (k, v) :: ms => (k, finitePart v) :: members ms

theorem WF.members_iff (ms : List (JsString × Json)) :
    WF.members ms ↔ ∀ m ∈ ms, WF m.2 := by
  induction ms with
  | nil => simp [WF.members]
  | cons m ms ih => simp [WF.members, ih]

theorem WF.elems_iff (xs : List Json) : WF.elems xs ↔ ∀ x ∈ xs, WF x := by
  induction xs with
  | nil => simp [WF.elems]
  | cons x xs ih => simp [WF.elems, ih]

theorem AllFinite.members_iff (ms : List (JsString × Json)) :
    AllFinite.members ms ↔ ∀ m ∈ ms, AllFinite m.2 := by
  induction ms with
  | nil => simp [AllFinite.members]
  | cons m ms ih => simp [AllFinite.members, ih]

theorem AllFinite.elems_iff (xs : List Json) : AllFinite.elems xs ↔ ∀ x ∈ xs, AllFinite x := by
  induction xs with
  | nil => simp [AllFinite.elems]
  | cons x xs ih => simp [AllFinite.elems, ih]

theorem lookup_finitePart (ms : List (JsString × Json)) (k : JsString) :
    lookup (finitePart.members ms) k = (lookup ms k).map finitePart := by
  induction ms with
  | nil => rfl
  | cons m ms ih =>
    rw [finitePart.members, lookup_cons, lookup_cons, ih]
    split_ifs <;> rfl

/-- Only a value with a non-finite number changes when it is written. -/
theorem finitePart_eq_self : ∀ v : Json, finitePart v = v ↔ AllFinite v
  | .null | .bool _ | .str _ => by simp [finitePart, AllFinite]
  | .num x => by cases x <;> simp [finitePart, AllFinite, JsNumber.isFinite]
  | .arr xs => by rw [finitePart, AllFinite, Json.arr.injEq]; exact elems_eq_self xs
  | .obj ms => by rw [finitePart, AllFinite, Json.obj.injEq]; exact members_eq_self ms
where
  elems_eq_self : ∀ xs : List Json, finitePart.elems xs = xs ↔ AllFinite.elems xs
    | [] => by simp [finitePart.elems, AllFinite.elems]
    | x :: xs => by
      rw [finitePart.elems, AllFinite.elems, List.cons.injEq, finitePart_eq_self x,
        elems_eq_self xs]
  members_eq_self : ∀ ms : List (JsString × Json),
      finitePart.members ms = ms ↔ AllFinite.members ms
    | [] => by simp [finitePart.members, AllFinite.members]
    | (k, v) :: ms => by
      rw [finitePart.members, AllFinite.members, List.cons.injEq, Prod.mk.injEq,
        finitePart_eq_self v, members_eq_self ms]
      simp

/-! ### Strings -/

/-- A lower-case hexadecimal digit. -/
def hexUnit (n : ℕ) : UInt16 := UInt16.ofNat (if n < 10 then 48 + n else 87 + n)

/-- The escape with four hexadecimal digits. -/
def escapeUnit (u : UInt16) : JsString :=
  [unit '\\', unit 'u', hexUnit (u.toNat / 4096), hexUnit (u.toNat / 256 % 16),
    hexUnit (u.toNat / 16 % 16), hexUnit (u.toNat % 16)]

/-- The letter of a two-character escape. -/
def shortEscape (u : UInt16) : Option UInt16 :=
  if u = unit '"' then some (unit '"')
  else if u = unit '\\' then some (unit '\\')
  else if u = 8 then some (unit 'b')
  else if u = 9 then some (unit 't')
  else if u = 10 then some (unit 'n')
  else if u = 12 then some (unit 'f')
  else if u = 13 then some (unit 'r')
  else none

/-- The text of one code unit; `raw` says that it belongs to a surrogate pair. -/
def quoteUnit (u : UInt16) (raw : Bool) : JsString :=
  match shortEscape u with
  | some e => [unit '\\', e]
  | none =>
    if u.toNat < 0x20 then escapeUnit u
    else if (JsString.isHigh u || JsString.isLow u) && !raw then escapeUnit u
    else [u]

/-- The code units of a string, escaped, up to the closing quote. `low` says that the
next one is the second half of a pair. -/
def quoteUnits : Bool → JsString → JsString
  | _, [] => [unit '"']
  | low, u :: us =>
    let pair := !low && JsString.isHigh u && us.head?.any JsString.isLow
    quoteUnit u (low || pair) ++ quoteUnits pair us

/-- A string literal. -/
def quote (s : JsString) : JsString := unit '"' :: quoteUnits false s

/-! ### Values -/

/-- `JSON.stringify`. -/
def stringify : Json → JsString
  | .null => js "null"
  | .bool true => js "true"
  | .bool false => js "false"
  | .num (.finite x) => JsNumber.toText x
  | .num _ => js "null"
  | .str s => quote s
  | .arr [] => js "[]"
  | .arr (x :: xs) => unit '[' :: (stringify x ++ elemsTail xs)
  | .obj [] => js "\x7b\x7d"
  | .obj ((k, v) :: ms) =>
    unit '\x7b' :: (quote k ++ unit ':' :: (stringify v ++ membersTail ms))
where
  elemsTail : List Json → JsString
    | [] => [unit ']']
    | x :: xs => unit ',' :: (stringify x ++ elemsTail xs)
  membersTail : List (JsString × Json) → JsString
    | [] => [unit '\x7d']
    | (k, v) :: ms => unit ',' :: (quote k ++ unit ':' :: (stringify v ++ membersTail ms))

end Json

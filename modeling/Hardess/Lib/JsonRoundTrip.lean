import Hardess.Lib.JsonParse

/-!
# `JSON.parse` after `JSON.stringify`

* `parse_stringify`: the text of a well-formed value is read back as the value with its
  non-finite numbers replaced by `null`;
* `ParseClosed`: a property that the grammar keeps holds of what `JSON.parse` returns, as being well
  formed (`wf_of_parse`) and having no `NaN` (`notNan_of_parse`).
-/

namespace Json

/-! ### What is parsed -/

/-- A property of values that every production of the grammar keeps. -/
structure ParseClosed (P : Json → Prop) : Prop where
  null : P .null
  bool (b : Bool) : P (.bool b)
  num {us r : JsString} {x : JsNumber} : JsNumber.parseNumber us = some (x, r) → P (.num x)
  str (s : JsString) : P (.str s)
  arr {xs : List Json} : (∀ x ∈ xs, P x) → P (.arr xs)
  obj {ms : List (JsString × Json)} : (ms.map Prod.fst).Nodup → (∀ m ∈ ms, P m.2) → P (.obj ms)

theorem forall_setMember {P : Json → Prop} {ms : List (JsString × Json)} (h : ∀ m ∈ ms, P m.2)
    (k : JsString) {v : Json} (hv : P v) : ∀ m ∈ setMember ms k v, P m.2 := by
  intro m hm
  unfold Json.setMember at hm
  split_ifs at hm
  · obtain ⟨m', hm', rfl⟩ := List.mem_map.1 hm
    split_ifs
    · exact hv
    · exact h m' hm'
  · rcases List.mem_append.1 hm with hm | hm
    · exact h m hm
    · rw [List.mem_singleton.1 hm]; exact hv

theorem ParseClosed.parseValue {P : Json → Prop} (hP : ParseClosed P) (n : ℕ) :
    (∀ us v r, parseValue n us = some (v, r) → P v) ∧
    (∀ us xs r, parseElements n us = some (xs, r) → ∀ x ∈ xs, P x) ∧
    (∀ ms us ms' r, (ms.map Prod.fst).Nodup → (∀ m ∈ ms, P m.2) →
      parseMembers n ms us = some (ms', r) →
        (ms'.map Prod.fst).Nodup ∧ ∀ m ∈ ms', P m.2) := by
  induction n with
  | zero =>
    refine ⟨?_, ?_, ?_⟩ <;> intros <;> simp_all [Json.parseValue, parseElements, parseMembers]
  | succ n ih =>
    obtain ⟨ihv, ihe, ihm⟩ := ih
    refine ⟨fun us v r h => ?_, fun us xs r h => ?_, fun ms us ms' r hnd hall h => ?_⟩
    · rw [Json.parseValue] at h
      split at h
      · cases h
      split_ifs at h
      · obtain ⟨_, -, hr⟩ := Option.map_eq_some_iff.1 h
        cases hr; exact hP.str _
      · split at h
        · cases h; exact hP.arr (by simp)
        · obtain ⟨⟨xs, r'⟩, hs, hr⟩ := Option.map_eq_some_iff.1 h
          cases hr; exact hP.arr (ihe _ _ _ hs)
      · split at h
        · cases h; exact hP.obj List.nodup_nil (by simp)
        · obtain ⟨⟨ms, r'⟩, hs, hr⟩ := Option.map_eq_some_iff.1 h
          cases hr
          have := ihm [] _ _ _ List.nodup_nil (by simp) hs
          exact hP.obj this.1 this.2
      · obtain ⟨_, -, hr⟩ := Option.map_eq_some_iff.1 h
        cases hr; exact hP.null
      · obtain ⟨_, -, hr⟩ := Option.map_eq_some_iff.1 h
        cases hr; exact hP.bool _
      · obtain ⟨_, -, hr⟩ := Option.map_eq_some_iff.1 h
        cases hr; exact hP.bool _
      · obtain ⟨⟨x, r'⟩, hx, hr⟩ := Option.map_eq_some_iff.1 h
        cases hr; exact hP.num hx
    · rw [parseElements] at h
      obtain ⟨⟨v, t⟩, hv, h⟩ := Option.bind_eq_some_iff.1 h
      split at h
      · cases h; simpa using ihv _ _ _ hv
      · obtain ⟨_, -, h⟩ := Option.bind_eq_some_iff.1 h
        obtain ⟨⟨ys, r'⟩, hs, hr⟩ := Option.map_eq_some_iff.1 h
        cases hr
        exact List.forall_mem_cons.2 ⟨ihv _ _ _ hv, ihe _ _ _ hs⟩
    · rw [parseMembers] at h
      obtain ⟨_, -, h⟩ := Option.bind_eq_some_iff.1 h
      obtain ⟨⟨k, _⟩, -, h⟩ := Option.bind_eq_some_iff.1 h
      obtain ⟨_, -, h⟩ := Option.bind_eq_some_iff.1 h
      obtain ⟨⟨v, _⟩, hv, h⟩ := Option.bind_eq_some_iff.1 h
      -- a member that comes again replaces the earlier one
      have hnd' := nodup_keys_setMember hnd k v
      have hall' := forall_setMember hall k (ihv _ _ _ hv)
      split at h
      · cases h; exact ⟨hnd', hall'⟩
      · obtain ⟨_, -, h⟩ := Option.bind_eq_some_iff.1 h
        exact ihm _ _ _ _ hnd' hall' h

/-- What `JSON.parse` returns has a property that the grammar keeps. -/
theorem ParseClosed.parse {P : Json → Prop} (hP : ParseClosed P) {us : JsString} {v : Json}
    (h : parse us = some v) : P v := by
  unfold Json.parse at h
  split at h
  · rename_i hv
    split_ifs at h
    cases h
    exact (hP.parseValue _).1 _ _ _ hv
  · cases h

/-- What `JSON.parse` returns is well formed. -/
theorem wf_of_parse {us : JsString} {v : Json} (h : parse us = some v) : WF v := by
  refine ParseClosed.parse ?_ h
  exact
    { null := trivial
      bool := fun _ => trivial
      num := fun _ => trivial
      str := fun _ => trivial
      arr := fun hxs => (WF.elems_iff _).2 hxs
      obj := fun hnd hms => ⟨hnd, (WF.members_iff _).2 hms⟩ }

/-- The value is not `NaN`, and has no property that is. -/
def NotNan (v : Json) : Prop :=
  (∀ x, v = .num x → x ≠ .nan) ∧ ∀ key x, v.get? key = some (.num x) → x ≠ .nan

/-- A number that is read is not `NaN`. -/
theorem ne_nan_of_parseNumber {us r : JsString} {x : JsNumber}
    (h : JsNumber.parseNumber us = some (x, r)) : x ≠ .nan := by
  have hround : ∀ q, JsNumber.ofRat q ≠ .nan := by
    intro q
    unfold JsNumber.ofRat
    split_ifs <;> simp
  have hneg : ∀ q, (JsNumber.ofRat q).neg ≠ .nan := by
    intro q
    unfold JsNumber.ofRat
    split_ifs <;> simp [JsNumber.neg]
  cases us with
  | nil => cases h
  | cons u us =>
    rw [JsNumber.parseNumber] at h
    split_ifs at h
    · obtain ⟨p, -, hp⟩ := Option.map_eq_some_iff.1 h
      cases hp
      exact hneg p.1
    · obtain ⟨p, -, hp⟩ := Option.map_eq_some_iff.1 h
      cases hp
      exact hround p.1

theorem notNan_of_parse {us : JsString} {v : Json} (h : parse us = some v) : NotNan v := by
  refine ParseClosed.parse ?_ h
  refine
    { null := ⟨fun _ hx => (by cases hx), fun _ _ hx => (by cases hx)⟩
      bool := fun _ => ⟨fun _ hx => (by cases hx), fun _ _ hx => (by cases hx)⟩
      num := fun hnum => ⟨fun x hx => ?_, fun _ _ hx => (by cases hx)⟩
      str := fun _ => ⟨fun _ hx => (by cases hx), fun _ _ hx => (by cases hx)⟩
      arr := fun _ => ⟨fun _ hx => (by cases hx), fun _ _ hx => (by cases hx)⟩
      obj := fun _ hms => ⟨fun _ hx => (by cases hx), fun key x hx => ?_⟩ }
  · cases hx
    exact ne_nan_of_parseNumber hnum
  · obtain ⟨m, hfind, hm⟩ := Option.map_eq_some_iff.1 hx
    exact (hms m (List.mem_of_find?_eq_some hfind)).1 x hm

/-! ### Strings -/

theorem hexVal_hexUnit : ∀ n < 16, hexVal (hexUnit n) = some n := by decide

theorem parseStringUnit_backslash (us : JsString) :
    parseStringUnit (unit '\\' :: us) = (parseEscape us).map fun p => (some p.1, p.2) := by
  rw [parseStringUnit, if_neg (by decide), if_pos rfl]

theorem parseEscape_escapeUnit (u : UInt16) (us : JsString) :
    parseStringUnit (escapeUnit u ++ us) = some (some u, us) := by
  have hlt : u.toNat < 65536 := u.toNat_lt
  have hsum : 4096 * (u.toNat / 4096) + 256 * (u.toNat / 256 % 16) + 16 * (u.toNat / 16 % 16) +
      u.toNat % 16 = u.toNat := by omega
  simp only [escapeUnit, List.cons_append, List.nil_append, parseStringUnit_backslash, parseEscape,
    parseHex, if_true, hexVal_hexUnit _ (show u.toNat / 4096 < 16 by omega),
    hexVal_hexUnit _ (Nat.mod_lt _ (by norm_num : 0 < 16)), Option.bind_eq_bind, Option.bind_some,
    Option.map_some, hsum, UInt16.ofNat_toNat]

theorem unescape_shortEscape {u e : UInt16} (h : shortEscape u = some e) :
    e ≠ unit 'u' ∧ unescape e = some u := by
  unfold shortEscape at h
  split_ifs at h with h₁ h₂ h₃ h₄ h₅ h₆ h₇ <;> cases h <;> subst_vars <;> decide

theorem parseStringUnit_quoteUnit (u : UInt16) (raw : Bool) (us : JsString) :
    parseStringUnit (quoteUnit u raw ++ us) = some (some u, us) := by
  unfold quoteUnit
  cases hs : shortEscape u with
  | some e =>
    obtain ⟨hne, he⟩ := unescape_shortEscape hs
    rw [List.cons_append, List.singleton_append, parseStringUnit_backslash, parseEscape, if_neg hne,
      he]
    rfl
  | none =>
    dsimp only
    split_ifs with h1 h2
    · exact parseEscape_escapeUnit u us
    · exact parseEscape_escapeUnit u us
    · have hq : u ≠ unit '"' := by rintro rfl; exact absurd hs (by decide)
      have hb : u ≠ unit '\\' := by rintro rfl; exact absurd hs (by decide)
      rw [List.singleton_append, parseStringUnit, if_neg hq, if_neg hb, if_neg h1]

theorem parseString_quoteUnits (low : Bool) (s r : JsString) :
    parseString (quoteUnits low s ++ r) = some (s, r) := by
  induction s generalizing low with
  | nil =>
    refine parseString_nil ?_
    rw [quoteUnits, List.singleton_append, parseStringUnit, if_pos rfl]
  | cons u us ih =>
    rw [quoteUnits, List.append_assoc, parseString_cons (parseStringUnit_quoteUnit u _ _), ih]
    rfl

/-! ### Values -/

/-- The first code unit of a value. -/
def ValueHead (u : UInt16) : Prop :=
  isSpace u = false ∧ u ≠ unit ']' ∧ u ≠ unit '\x7d'

theorem valueHead_digit {u : UInt16} (h : JsNumber.isDigit u = true) : ValueHead u := by
  refine ⟨?_, ?_, ?_⟩
  · simp only [isSpace, Bool.or_eq_false_iff, decide_eq_false_iff_not]
    refine ⟨⟨⟨?_, ?_⟩, ?_⟩, ?_⟩ <;> rintro rfl <;> exact absurd h (by decide)
  all_goals rintro rfl; exact absurd h (by decide)

theorem stringify_head (v : Json) : ∃ u us, stringify v = u :: us ∧ ValueHead u := by
  match v with
  | .null => exact ⟨_, _, rfl, by unfold ValueHead; decide⟩
  | .bool true => exact ⟨_, _, rfl, by unfold ValueHead; decide⟩
  | .bool false => exact ⟨_, _, rfl, by unfold ValueHead; decide⟩
  | .num (.finite x) =>
    obtain ⟨u, us, h, hu⟩ := JsNumber.toText_head x
    refine ⟨u, us, h, ?_⟩
    rcases hu with hu | rfl
    · exact valueHead_digit hu
    · unfold ValueHead; decide
  | .num .posInfinity => exact ⟨_, _, rfl, by unfold ValueHead; decide⟩
  | .num .negInfinity => exact ⟨_, _, rfl, by unfold ValueHead; decide⟩
  | .num .nan => exact ⟨_, _, rfl, by unfold ValueHead; decide⟩
  | .str s => exact ⟨_, _, rfl, by unfold ValueHead; decide⟩
  | .arr [] => exact ⟨_, _, rfl, by unfold ValueHead; decide⟩
  | .arr (_ :: _) => exact ⟨_, _, rfl, by unfold ValueHead; decide⟩
  | .obj [] => exact ⟨_, _, rfl, by unfold ValueHead; decide⟩
  | .obj (_ :: _) => exact ⟨_, _, rfl, by unfold ValueHead; decide⟩

theorem expect_stringify {c : UInt16} (hc : c = unit ']' ∨ c = unit '\x7d') (v : Json)
    (us : JsString) : expect c (stringify v ++ us) = none := by
  obtain ⟨u, t, h, hs, h1, h2⟩ := stringify_head v
  rw [h, List.cons_append]
  exact expect_ne hs (by rcases hc with rfl | rfl <;> assumption) _

theorem numberStop_elemsTail (xs : List Json) (r : JsString) :
    JsNumber.NumberStop (stringify.elemsTail xs ++ r) := by
  cases xs <;> exact ⟨by decide, by decide, by decide, by decide⟩

theorem numberStop_membersTail (ms : List (JsString × Json)) (r : JsString) :
    JsNumber.NumberStop (stringify.membersTail ms ++ r) := by
  cases ms <;> exact ⟨by decide, by decide, by decide, by decide⟩

/-- A value that is not a number starts with its own code unit. -/
theorem parseValue_number {n : ℕ} (x : Float64) {r : JsString} (hr : JsNumber.NumberStop r) :
    parseValue (n + 1) (JsNumber.toText x ++ r) = some (.num (.finite x), r) := by
  obtain ⟨u, us, htext, hu⟩ := JsNumber.toText_head x
  have hparse := JsNumber.parseNumber_toText x hr
  rw [htext, List.cons_append] at hparse ⊢
  have hne : ∀ c, JsNumber.isDigit c = false → c ≠ unit '-' → u ≠ c := by
    rintro c hd hm rfl
    rcases hu with h | h
    · rw [hd] at h; cases h
    · exact hm h
  have hspace : isSpace u = false := by
    simp only [isSpace, Bool.or_eq_false_iff, decide_eq_false_iff_not]
    refine ⟨⟨⟨?_, ?_⟩, ?_⟩, ?_⟩ <;> exact hne _ (by decide) (by decide)
  rw [parseValue, skipSpace_cons hspace]
  dsimp only
  rw [if_neg (hne _ (by decide) (by decide)), if_neg (hne _ (by decide) (by decide)),
    if_neg (hne _ (by decide) (by decide)), if_neg (hne _ (by decide) (by decide)),
    if_neg (hne _ (by decide) (by decide)), if_neg (hne _ (by decide) (by decide)), hparse]
  rfl

theorem parseValue_keyword {n : ℕ} (r : JsString) :
    parseValue (n + 1) (js "null" ++ r) = some (.null, r) ∧
    parseValue (n + 1) (js "true" ++ r) = some (.bool true, r) ∧
    parseValue (n + 1) (js "false" ++ r) = some (.bool false, r) := by
  have hk := fun ks => keyword_append ks r
  refine ⟨?_, ?_, ?_⟩
  · rw [show js "null" = unit 'n' :: js "ull" by decide, List.cons_append, parseValue,
      skipSpace_cons (by decide)]
    dsimp only
    rw [if_neg (by decide), if_neg (by decide), if_neg (by decide), if_pos rfl, hk]
    rfl
  · rw [show js "true" = unit 't' :: js "rue" by decide, List.cons_append, parseValue,
      skipSpace_cons (by decide)]
    dsimp only
    rw [if_neg (by decide), if_neg (by decide), if_neg (by decide), if_neg (by decide),
      if_pos rfl, hk]
    rfl
  · rw [show js "false" = unit 'f' :: js "alse" by decide, List.cons_append, parseValue,
      skipSpace_cons (by decide)]
    dsimp only
    rw [if_neg (by decide), if_neg (by decide), if_neg (by decide), if_neg (by decide),
      if_neg (by decide), if_pos rfl, hk]
    rfl

mutual

/-- Enough fuel reads a written value and leaves what follows it. -/
theorem parseValue_stringify (v : Json) (hv : WF v) (n : ℕ) (r : JsString)
    (hn : 2 * (stringify v).length < n) (hr : JsNumber.NumberStop r) :
    parseValue n (stringify v ++ r) = some (finitePart v, r) := by
  obtain ⟨n, rfl⟩ := Nat.exists_eq_add_one.2 (Nat.zero_lt_of_lt hn)
  match v with
  | .null => exact (parseValue_keyword r).1
  | .bool true => exact (parseValue_keyword r).2.1
  | .bool false => exact (parseValue_keyword r).2.2
  | .num (.finite x) => exact parseValue_number x hr
  | .num .posInfinity => exact (parseValue_keyword r).1
  | .num .negInfinity => exact (parseValue_keyword r).1
  | .num .nan => exact (parseValue_keyword r).1
  | .str s =>
    rw [stringify, quote, List.cons_append, parseValue, skipSpace_cons (by decide)]
    dsimp only
    rw [if_pos rfl, parseString_quoteUnits]
    rfl
  | .arr [] =>
    rw [stringify, show js "[]" = unit '[' :: [unit ']'] by decide, List.cons_append, parseValue,
      skipSpace_cons (by decide)]
    dsimp only
    rw [if_neg (by decide), if_pos rfl, List.singleton_append, expect_self (by decide)]
    rfl
  | .arr (x :: xs) =>
    -- the members take less text than the whole, so that the fuel is enough
    simp only [stringify, List.length_cons, List.length_append] at hn
    rw [stringify, List.cons_append, parseValue, skipSpace_cons (by decide)]
    dsimp only
    rw [if_neg (by decide), if_pos rfl, List.append_assoc, expect_stringify (Or.inl rfl),
      parseElements_stringify x xs hv n r (by omega)]
    rfl
  | .obj [] =>
    rw [stringify, show js "\x7b\x7d" = unit '\x7b' :: [unit '\x7d'] by decide, List.cons_append,
      parseValue, skipSpace_cons (by decide)]
    dsimp only
    rw [if_neg (by decide), if_neg (by decide), if_pos rfl, List.singleton_append,
      expect_self (by decide)]
    rfl
  | .obj ((k, v) :: ms) =>
    simp only [stringify, List.length_cons, List.length_append] at hn
    rw [stringify, List.cons_append, parseValue, skipSpace_cons (by decide)]
    dsimp only
    have hx : expect (unit '\x7d') (quote k ++ unit ':' :: (stringify v ++
        stringify.membersTail ms) ++ r) = none :=
      expect_ne (by decide) (by decide) _
    rw [if_neg (by decide), if_neg (by decide), if_pos rfl, hx,
      parseMembers_stringify [] k v ms hv.1 hv.2 n r (by omega)]
    rfl
termination_by n

theorem parseElements_stringify (x : Json) (xs : List Json) (hxs : WF.elems (x :: xs)) (n : ℕ)
    (r : JsString) (hn : 2 * ((stringify x).length + (stringify.elemsTail xs).length) ≤ n) :
    parseElements n (stringify x ++ (stringify.elemsTail xs ++ r)) =
      some (finitePart.elems (x :: xs), r) := by
  have hpos : 0 < (stringify.elemsTail xs).length := by cases xs <;> simp [stringify.elemsTail]
  obtain ⟨n, rfl⟩ := Nat.exists_eq_add_one.2 (show 0 < n by omega)
  rw [parseElements, parseValue_stringify x hxs.1 n _ (by omega) (numberStop_elemsTail xs r),
    Option.bind_some]
  match xs with
  | [] =>
    rw [stringify.elemsTail, List.singleton_append, expect_self (by decide)]
    rfl
  | y :: ys =>
    simp only [stringify.elemsTail, List.length_cons, List.length_append] at hn
    rw [stringify.elemsTail, List.cons_append, expect_ne (by decide) (by decide)]
    dsimp only
    rw [expect_self (by decide), Option.bind_some, List.append_assoc,
      parseElements_stringify y ys hxs.2 n r (by omega)]
    rfl
termination_by n

theorem parseMembers_stringify (done : List (JsString × Json)) (k : JsString) (v : Json)
    (ms : List (JsString × Json))
    (hnd : ((done ++ (k, v) :: ms).map Prod.fst).Nodup) (hms : WF.members ((k, v) :: ms)) (n : ℕ)
    (r : JsString) (hn : 2 * ((quote k).length + 1 + ((stringify v).length +
      (stringify.membersTail ms).length)) ≤ n) :
    parseMembers n done (quote k ++ unit ':' :: (stringify v ++ stringify.membersTail ms) ++ r) =
      some (done ++ finitePart.members ((k, v) :: ms), r) := by
  obtain ⟨n, rfl⟩ := Nat.exists_eq_add_one.2 (show 0 < n by omega)
  have hk : k ∉ done.map Prod.fst := by
    rw [List.map_append, List.map_cons] at hnd
    exact fun h => List.disjoint_of_nodup_append hnd h List.mem_cons_self
  rw [List.append_assoc, quote, List.cons_append, parseMembers, expect_self (by decide),
    Option.bind_some, parseString_quoteUnits, Option.bind_some]
  dsimp only
  rw [List.cons_append, expect_self (by decide), Option.bind_some, List.append_assoc,
    parseValue_stringify v hms.1 n _ (by omega) (numberStop_membersTail ms r), Option.bind_some]
  dsimp only
  match ms with
  | [] =>
    rw [stringify.membersTail, List.singleton_append, expect_self (by decide),
      setMember_of_notMem hk]
    rfl
  | (k', v') :: ms' =>
    simp only [stringify.membersTail, List.length_cons, List.length_append] at hn
    rw [stringify.membersTail, List.cons_append, expect_ne (by decide) (by decide)]
    dsimp only
    rw [expect_self (by decide), Option.bind_some, setMember_of_notMem hk,
      parseMembers_stringify (done ++ [(k, finitePart v)]) k' v' ms' ?_ hms.2 n r (by omega)]
    · simp [finitePart.members]
    · simpa using hnd
termination_by n

end

/-- **`JSON.parse` of the text of a value** gives the value back, with `null` in the place
of its non-finite numbers. -/
theorem parse_stringify {v : Json} (hv : WF v) : parse (stringify v) = some (finitePart v) := by
  have h := parseValue_stringify v hv (2 * (stringify v).length + 1) [] (by omega) trivial
  rw [List.append_nil] at h
  rw [parse, h]
  rfl

end Json

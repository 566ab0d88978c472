import Hardess.Lib.Json

/-!
# `JSON.parse`

A recursive-descent parser for the JSON grammar. `parseValue` and its companions take
fuel; `parse` gives them twice the length of the text, and `parseValue_fuel` says that
any larger amount gives the same result, so the fuel never decides anything.
-/

namespace Json

/-! ### Lexical grammar -/

/-- JSON white space. -/
def isSpace (u : UInt16) : Bool :=
  u = unit ' ' || u = unit '\t' || u = unit '\n' || u = unit '\r'

def skipSpace : JsString → JsString
  | [] => []
  | u :: us => if isSpace u then skipSpace us else u :: us

theorem length_skipSpace_le (us : JsString) : (skipSpace us).length ≤ us.length := by
  induction us with
  | nil => simp [skipSpace]
  | cons u us ih =>
    rw [skipSpace]
    split_ifs
    · exact ih.trans (Nat.le_succ _)
    · exact le_rfl

theorem skipSpace_cons {u : UInt16} (h : isSpace u = false) (us : JsString) :
    skipSpace (u :: us) = u :: us := by simp [skipSpace, h]

/-- Skip white space and read the code unit `c`. -/
def expect (c : UInt16) (us : JsString) : Option JsString :=
  match skipSpace us with
  | [] => none
  | u :: r => if u = c then some r else none

theorem expect_self {c : UInt16} (h : isSpace c = false) (us : JsString) :
    expect c (c :: us) = some us := by simp [expect, skipSpace_cons h]

theorem expect_ne {c u : UInt16} (h : isSpace u = false) (hne : u ≠ c) (us : JsString) :
    expect c (u :: us) = none := by simp [expect, skipSpace_cons h, hne]

theorem length_of_expect {c : UInt16} {us r : JsString} (h : expect c us = some r) :
    r.length < us.length := by
  have hle := length_skipSpace_le us
  unfold expect at h
  split at h
  · cases h
  · rename_i u r' heq
    split_ifs at h
    cases h
    rw [heq, List.length_cons] at hle
    omega

/-- Read the rest of a keyword. -/
def keyword : JsString → JsString → Option JsString
  | [], us => some us
  | _, [] => none
  | k :: ks, u :: us => if u = k then keyword ks us else none

theorem keyword_append (ks us : JsString) : keyword ks (ks ++ us) = some us := by
  induction ks with
  | nil => cases us <;> rfl
  | cons k ks ih => simp [keyword, ih]

theorem length_of_keyword {ks us r : JsString} (h : keyword ks us = some r) :
    r.length ≤ us.length := by
  induction ks generalizing us with
  | nil => cases us <;> cases h <;> rfl
  | cons k ks ih =>
    cases us with
    | nil => cases h
    | cons u us =>
      rw [keyword] at h
      split_ifs at h
      exact (ih h).trans (Nat.le_succ _)

/-- The value of a hexadecimal digit. -/
def hexVal (u : UInt16) : Option ℕ :=
  let n := u.toNat
  if 48 ≤ n ∧ n ≤ 57 then some (n - 48)
  else if 97 ≤ n ∧ n ≤ 102 then some (n - 87)
  else if 65 ≤ n ∧ n ≤ 70 then some (n - 55)
  else none

/-- The code unit a two-character escape stands for. -/
def unescape (u : UInt16) : Option UInt16 :=
  if u = unit '"' then some (unit '"')
  else if u = unit '\\' then some (unit '\\')
  else if u = unit '/' then some (unit '/')
  else if u = unit 'b' then some 8
  else if u = unit 't' then some 9
  else if u = unit 'n' then some 10
  else if u = unit 'f' then some 12
  else if u = unit 'r' then some 13
  else none

/-- Read four hexadecimal digits. -/
def parseHex : JsString → Option (UInt16 × JsString)
  | a :: b :: c :: d :: us => do
    let a ← hexVal a
    let b ← hexVal b
    let c ← hexVal c
    let d ← hexVal d
    some (UInt16.ofNat (4096 * a + 256 * b + 16 * c + d), us)
  | _ => none

/-- Read an escape after its backslash. -/
def parseEscape : JsString → Option (UInt16 × JsString)
  | [] => none
  | u :: us => if u = unit 'u' then parseHex us else (unescape u).map fun e => (e, us)

theorem length_of_parseEscape {us r : JsString} {e : UInt16} (h : parseEscape us = some (e, r)) :
    r.length < us.length := by
  unfold parseEscape at h
  split at h
  · cases h
  · split_ifs at h
    · unfold parseHex at h
      split at h
      · simp only [Option.bind_eq_bind, Option.bind_eq_some_iff, Option.some.injEq,
          Prod.mk.injEq] at h
        obtain ⟨_, -, _, -, _, -, _, -, -, rfl⟩ := h
        simp only [List.length_cons]; omega
      · cases h
    · obtain ⟨_, -, hr⟩ := Option.map_eq_some_iff.1 h
      cases hr
      simp

/-- One code unit of a string literal: `none` is its end. -/
def parseStringUnit : JsString → Option (Option UInt16 × JsString)
  | [] => none
  | u :: us =>
    if u = unit '"' then some (none, us)
    else if u = unit '\\' then (parseEscape us).map fun p => (some p.1, p.2)
    else if u.toNat < 0x20 then none
    else some (some u, us)

theorem length_of_parseStringUnit {us r : JsString} {o : Option UInt16}
    (h : parseStringUnit us = some (o, r)) : r.length < us.length := by
  unfold parseStringUnit at h
  split at h
  · cases h
  · split_ifs at h
    · cases h; simp
    · obtain ⟨⟨e, r'⟩, he, hr⟩ := Option.map_eq_some_iff.1 h
      cases hr
      exact (length_of_parseEscape he).trans (Nat.lt_succ_self _)
    · cases h; simp

/-- The code units of a string literal after its opening quote. -/
def parseString (us : JsString) : Option (JsString × JsString) :=
  match _h : parseStringUnit us with
  | none => none
  | some (none, r) => some ([], r)
  | some (some u, r) => (parseString r).map fun p => (u :: p.1, p.2)
termination_by us.length
decreasing_by exact length_of_parseStringUnit _h

theorem parseString_nil {us r : JsString} (h : parseStringUnit us = some (none, r)) :
    parseString us = some ([], r) := by
  rw [parseString]
  split <;> simp_all

theorem parseString_cons {us r : JsString} {u : UInt16}
    (h : parseStringUnit us = some (some u, r)) :
    parseString us = (parseString r).map fun p => (u :: p.1, p.2) := by
  rw [parseString]
  split <;> simp_all

theorem length_of_parseString {us r s : JsString} (h : parseString us = some (s, r)) :
    r.length < us.length := by
  induction us using parseString.induct generalizing s r with
  | case1 us hu => rw [parseString] at h; split at h <;> simp_all
  | case2 us r' hu =>
    rw [parseString_nil hu] at h
    cases h
    exact length_of_parseStringUnit hu
  | case3 us u r' hu ih =>
    rw [parseString_cons hu] at h
    obtain ⟨⟨s', r''⟩, hs, hr⟩ := Option.map_eq_some_iff.1 h
    cases hr
    exact (ih hs).trans (length_of_parseStringUnit hu)

/-! ### Values -/

mutual

/-- A value, after any white space. -/
def parseValue : ℕ → JsString → Option (Json × JsString)
  | 0, _ => none
  | n + 1, us =>
    match skipSpace us with
    | [] => none
    | u :: r =>
      if u = unit '"' then (parseString r).map fun p => (.str p.1, p.2)
      else if u = unit '[' then
        match expect (unit ']') r with
        | some r => some (.arr [], r)
        | none => (parseElements n r).map fun p => (.arr p.1, p.2)
      else if u = unit '\x7b' then
        match expect (unit '\x7d') r with
        | some r => some (.obj [], r)
        | none => (parseMembers n [] r).map fun p => (.obj p.1, p.2)
      else if u = unit 'n' then (keyword (js "ull") r).map fun r => (.null, r)
      else if u = unit 't' then (keyword (js "rue") r).map fun r => (.bool true, r)
      else if u = unit 'f' then (keyword (js "alse") r).map fun r => (.bool false, r)
      else (JsNumber.parseNumber (u :: r)).map fun p => (.num p.1, p.2)

/-- The elements of an array that is not empty, and its closing bracket. -/
def parseElements : ℕ → JsString → Option (List Json × JsString)
  | 0, _ => none
  | n + 1, us =>
    (parseValue n us).bind fun p =>
      match expect (unit ']') p.2 with
      | some r => some ([p.1], r)
      | none => (expect (unit ',') p.2).bind fun r =>
          (parseElements n r).map fun q => (p.1 :: q.1, q.2)

/-- The members of an object that is not empty, and its closing brace; `ms` are those
defined so far. A repeated key overwrites the earlier member. -/
def parseMembers : ℕ → List (JsString × Json) → JsString →
    Option (List (JsString × Json) × JsString)
  | 0, _, _ => none
  | n + 1, ms, us =>
    (expect (unit '"') us).bind fun r => (parseString r).bind fun k =>
      (expect (unit ':') k.2).bind fun r => (parseValue n r).bind fun p =>
        match expect (unit '\x7d') p.2 with
        | some r => some (setMember ms k.1 p.1, r)
        | none => (expect (unit ',') p.2).bind fun r =>
            parseMembers n (setMember ms k.1 p.1) r

end

/-- `JSON.parse`; `none` is a `SyntaxError`. -/
def parse (us : JsString) : Option Json :=
  match parseValue (2 * us.length + 1) us with
  | some (v, r) => if skipSpace r = [] then some v else none
  | none => none

/-! ### Fuel -/

/-- A number takes at least one code unit. -/
theorem length_of_takeDigits (us : JsString) :
    (JsNumber.takeDigits us).2.length + (JsNumber.takeDigits us).1.length = us.length := by
  induction us with
  | nil => rfl
  | cons u us ih =>
    rw [JsNumber.takeDigits]
    split
    · simp only [List.length_cons]; omega
    · simp

theorem length_of_parseInt {us r : JsString} {ds : List ℕ}
    (h : JsNumber.parseInt us = some (ds, r)) : r.length < us.length := by
  have hlen := length_of_takeDigits us
  unfold JsNumber.parseInt at h
  split at h <;> cases h <;> rename_i heq <;> rw [heq] at hlen <;>
    simp only [List.length_cons, List.length_nil] at hlen
  · omega
  · rename_i hne _ _
    have : r.length + ds.length = us.length := hlen
    have : ds ≠ [] := fun h => hne h
    have := List.length_pos_iff.2 this
    omega

theorem length_of_parseFrac {us r : JsString} {ds : List ℕ}
    (h : JsNumber.parseFrac us = some (ds, r)) : r.length ≤ us.length := by
  unfold JsNumber.parseFrac at h
  split at h
  · cases h; rfl
  · rename_i u us
    have hlen := length_of_takeDigits us
    split_ifs at h
    · split at h <;> cases h
      rename_i heq
      rw [heq] at hlen
      simp only [List.length_cons] at hlen ⊢; omega
    · cases h; rfl

theorem length_of_parseExpDigits {us r : JsString} {s z : ℤ}
    (h : JsNumber.parseExpDigits s us = some (z, r)) : r.length ≤ us.length := by
  have hlen := length_of_takeDigits us
  unfold JsNumber.parseExpDigits at h
  split at h <;> cases h
  rename_i heq
  rw [heq] at hlen
  simp only at hlen; omega

theorem length_of_parseExp {us r : JsString} {z : ℤ}
    (h : JsNumber.parseExp us = some (z, r)) : r.length ≤ us.length := by
  unfold JsNumber.parseExp at h
  split at h
  · cases h; rfl
  · split_ifs at h
    · unfold JsNumber.parseSigned at h
      split at h
      · cases h
      · split_ifs at h <;> have := length_of_parseExpDigits h <;>
          simp only [List.length_cons] at this ⊢ <;> omega
    · cases h; rfl

theorem length_of_parseNumber {us r : JsString} {x : JsNumber}
    (h : JsNumber.parseNumber us = some (x, r)) : r.length < us.length := by
  have hmag : ∀ {us q r}, JsNumber.parseMagnitude us = some (q, r) → r.length < us.length := by
    intro us q r h
    simp only [JsNumber.parseMagnitude, Option.bind_eq_bind, Option.bind_eq_some_iff,
      Option.some.injEq, Prod.mk.injEq] at h
    obtain ⟨⟨i, r₁⟩, hi, ⟨f, r₂⟩, hf, ⟨e, r₃⟩, he, -, rfl⟩ := h
    exact ((length_of_parseExp he).trans (length_of_parseFrac hf)).trans_lt (length_of_parseInt hi)
  unfold JsNumber.parseNumber at h
  split at h
  · cases h
  · split_ifs at h <;> obtain ⟨⟨q, r'⟩, hq, hr⟩ := Option.map_eq_some_iff.1 h <;> cases hr
    · exact (hmag hq).trans (Nat.lt_succ_self _)
    · exact hmag hq

/-- What the parsers leave is shorter than what they were given. -/
theorem length_of_parse (n : ℕ) :
    (∀ us v r, parseValue n us = some (v, r) → r.length < us.length) ∧
    (∀ us xs r, parseElements n us = some (xs, r) → r.length < us.length) ∧
    (∀ ms us ms' r, parseMembers n ms us = some (ms', r) → r.length < us.length) := by
  induction n with
  | zero => refine ⟨?_, ?_, ?_⟩ <;> intros <;> simp_all [parseValue, parseElements, parseMembers]
  | succ n ih =>
    obtain ⟨ihv, ihe, ihm⟩ := ih
    refine ⟨fun us v r h => ?_, fun us xs r h => ?_, fun ms us ms' r h => ?_⟩
    · have hsk := length_skipSpace_le us
      rw [parseValue] at h
      split at h
      · cases h
      rename_i u t heq
      have hlt : t.length < us.length := by rw [heq, List.length_cons] at hsk; omega
      -- the first unit is gone, and what follows never grows
      refine lt_of_le_of_lt ?_ hlt
      split_ifs at h
      · obtain ⟨⟨s, r'⟩, hs, hr⟩ := Option.map_eq_some_iff.1 h
        cases hr; exact (length_of_parseString hs).le
      · split at h
        · rename_i hx; cases h; exact (length_of_expect hx).le
        · obtain ⟨⟨s, r'⟩, hs, hr⟩ := Option.map_eq_some_iff.1 h
          cases hr; exact (ihe _ _ _ hs).le
      · split at h
        · rename_i hx; cases h; exact (length_of_expect hx).le
        · obtain ⟨⟨s, r'⟩, hs, hr⟩ := Option.map_eq_some_iff.1 h
          cases hr; exact (ihm _ _ _ _ hs).le
      all_goals first
        | (obtain ⟨r', hs, hr⟩ := Option.map_eq_some_iff.1 h
           cases hr; exact length_of_keyword hs)
        | (obtain ⟨⟨x, r'⟩, hs, hr⟩ := Option.map_eq_some_iff.1 h
           cases hr; exact Nat.lt_succ_iff.1 (length_of_parseNumber hs))
    · rw [parseElements] at h
      obtain ⟨⟨v, t⟩, hv, h⟩ := Option.bind_eq_some_iff.1 h
      have hlt := ihv _ _ _ hv
      split at h
      · rename_i hx; cases h; exact (length_of_expect hx).trans hlt
      · obtain ⟨t', ht', h⟩ := Option.bind_eq_some_iff.1 h
        obtain ⟨⟨ys, r'⟩, hs, hr⟩ := Option.map_eq_some_iff.1 h
        cases hr
        exact (ihe _ _ _ hs).trans ((length_of_expect ht').trans hlt)
    · rw [parseMembers] at h
      obtain ⟨t₁, h₁, h⟩ := Option.bind_eq_some_iff.1 h
      obtain ⟨⟨k, t₂⟩, h₂, h⟩ := Option.bind_eq_some_iff.1 h
      obtain ⟨t₃, h₃, h⟩ := Option.bind_eq_some_iff.1 h
      obtain ⟨⟨v, t₄⟩, h₄, h⟩ := Option.bind_eq_some_iff.1 h
      have hlt : t₄.length < us.length :=
        (ihv _ _ _ h₄).trans ((length_of_expect h₃).trans
          ((length_of_parseString h₂).trans (length_of_expect h₁)))
      split at h
      · rename_i hx; cases h; exact (length_of_expect hx).trans hlt
      · obtain ⟨t₅, h₅, h⟩ := Option.bind_eq_some_iff.1 h
        exact (ihm _ _ _ _ h).trans ((length_of_expect h₅).trans hlt)

/-- One more unit of fuel changes nothing once there is enough. -/
theorem parse_succ (n : ℕ) :
    (∀ us, 2 * us.length < n → parseValue (n + 1) us = parseValue n us) ∧
    (∀ us, 2 * us.length + 1 < n → parseElements (n + 1) us = parseElements n us) ∧
    (∀ ms us, 2 * us.length + 1 < n → parseMembers (n + 1) ms us = parseMembers n ms us) := by
  induction n with
  | zero => refine ⟨?_, ?_, ?_⟩ <;> intros <;> omega
  | succ n ih =>
    obtain ⟨ihv, ihe, ihm⟩ := ih
    refine ⟨fun us h => ?_, fun us h => ?_, fun ms us h => ?_⟩
    · have hsk := length_skipSpace_le us
      rw [parseValue, parseValue]
      cases heq : skipSpace us with
      | nil => rfl
      | cons u t =>
        rw [heq, List.length_cons] at hsk
        dsimp only
        rw [ihe t (by omega), ihm [] t (by omega)]
    · rw [parseElements, parseElements, ihv us (by omega)]
      refine Option.bind_congr fun ⟨v, t⟩ hv => ?_
      -- what is left is shorter, so that the fuel is enough for it
      have hlt := (length_of_parse n).1 _ _ _ hv
      dsimp only
      cases expect (unit ']') t with
      | some _ => rfl
      | none =>
        refine Option.bind_congr fun t' ht' => ?_
        have := length_of_expect ht'
        rw [ihe t' (by omega)]
    · rw [parseMembers, parseMembers]
      refine Option.bind_congr fun t₁ h₁ => Option.bind_congr fun ⟨k, t₂⟩ h₂ =>
        Option.bind_congr fun t₃ h₃ => ?_
      have hlt₃ : t₃.length < us.length :=
        (length_of_expect h₃).trans ((length_of_parseString h₂).trans (length_of_expect h₁))
      rw [ihv t₃ (by omega)]
      refine Option.bind_congr fun ⟨v, t₄⟩ h₄ => ?_
      have hlt := (length_of_parse n).1 _ _ _ h₄
      dsimp only
      cases expect (unit '\x7d') t₄ with
      | some _ => rfl
      | none =>
        refine Option.bind_congr fun t₅ h₅ => ?_
        have := length_of_expect h₅
        rw [ihm _ t₅ (by omega)]

/-- **The fuel of `parse` is enough**: more of it gives the same result. -/
theorem parseValue_fuel (us : JsString) {n : ℕ} (hn : 2 * us.length + 1 ≤ n) :
    parseValue n us = parseValue (2 * us.length + 1) us := by
  induction n, hn using Nat.le_induction with
  | base => rfl
  | succ n hn ih => rw [(parse_succ n).1 us (by omega), ih]

end Json

import Hardess.Lib.NumberText

/-!
# Strings and numbers

`Number(s)` of a string and `String(x)` of a number, as the language defines them.

* `toNumber` reads the whole string, without the white space around it: the empty string is
  zero, and what is no numeric literal is `NaN`;
* `text` writes every number, the infinities and `NaN` as well;
* `toNumber_text`: a number that was written is read back.
-/

namespace JsNumber

/-! ### Literals -/

/-- `WhiteSpace` and `LineTerminator`. -/
def isWhiteSpace (u : UInt16) : Bool :=
  let n := u.toNat
  (9 ≤ n && n ≤ 13) || (0x2000 ≤ n && n ≤ 0x200A) ||
    [0x20, 0xA0, 0x1680, 0x2028, 0x2029, 0x202F, 0x205F, 0x3000, 0xFEFF].contains n

/-- The string without the white space at its two ends. -/
def trim (s : JsString) : JsString :=
  ((s.dropWhile isWhiteSpace).reverse.dropWhile isWhiteSpace).reverse

/-- Digits with an optional point among them, at least one digit, and an optional exponent. -/
def decimalLiteral (us : JsString) : Option ℚ := do
  let (int, r) := takeDigits us
  let (frac, r) := if r.head? = some (unit '.') then takeDigits r.tail else ([], r)
  let (exp, r) ← parseExp r
  if int ++ frac ≠ [] ∧ r = [] then some (decimalValue (natOf (int ++ frac), exp - frac.length))
  else none

/-- `StrUnsignedDecimalLiteral`. -/
def unsignedLiteral (us : JsString) : Option JsNumber :=
  if us = js "Infinity" then some .posInfinity else (decimalLiteral us).map ofRat

/-- `StrDecimalLiteral`. -/
def signedLiteral (us : JsString) : Option JsNumber :=
  if us.head? = some (unit '+') then unsignedLiteral us.tail
  else if us.head? = some (unit '-') then (unsignedLiteral us.tail).map neg
  else unsignedLiteral us

/-- The value of a letter or digit among the first 36. -/
def radixDigit (u : UInt16) : ℕ :=
  let n := u.toNat
  if 48 ≤ n ∧ n ≤ 57 then n - 48
  else if 65 ≤ n ∧ n ≤ 90 then n - 55
  else if 97 ≤ n ∧ n ≤ 122 then n - 87
  else 36

/-- The radix that a letter after a zero stands for. -/
def radixOf (u : UInt16) : Option ℕ :=
  if u = unit 'x' ∨ u = unit 'X' then some 16
  else if u = unit 'o' ∨ u = unit 'O' then some 8
  else if u = unit 'b' ∨ u = unit 'B' then some 2
  else none

/-- `NonDecimalIntegerLiteral`. -/
def radixLiteral : JsString → Option JsNumber
  | zero :: letter :: ds => do
    let radix ← if zero = unit '0' then radixOf letter else none
    if ds ≠ [] ∧ ds.all (radixDigit · < radix) then
      some (ofRat (ds.foldl (fun n d => radix * n + radixDigit d) 0 : ℕ))
    else none
  | _ => none

/-- `Number(s)`. -/
def toNumber (s : JsString) : JsNumber :=
  let t := trim s
  if t = [] then .ofNat 0 else ((radixLiteral t).or (signedLiteral t)).getD .nan

/-- `String(x)`. -/
def text : JsNumber → JsString
  | .finite x => toText x
  | .posInfinity => js "Infinity"
  | .negInfinity => js "-Infinity"
  | .nan => js "NaN"

example : toNumber (js " -2 ") = (ofNat 2).neg := by decide +kernel

example : toNumber (js "1,0") = .nan := by decide +kernel

/-! ### What a written number looks like -/

/-- The code units of a written number. -/
def isNumberUnit (u : UInt16) : Bool :=
  isDigit u || [unit '.', unit 'e', unit '+', unit '-'].contains u

theorem isNumberUnit_digitUnit {ds : List ℕ} (hd : ∀ d ∈ ds, d < 10) :
    ∀ u ∈ ds.map digitUnit, isNumberUnit u = true := by
  intro u hu
  obtain ⟨d, hmem, rfl⟩ := List.mem_map.1 hu
  simp [isNumberUnit, isDigit_digitUnit (hd d hmem)]

theorem isNumberUnit_pointText {ds : List ℕ} (hd : ∀ d ∈ ds, d < 10) (j : ℕ) :
    ∀ u ∈ pointText ds j, isNumberUnit u = true := by
  intro u hu
  rcases List.mem_append.1 hu with hu | hu
  · exact isNumberUnit_digitUnit (fun d h => hd d (List.mem_of_mem_take h)) u hu
  · rcases List.mem_cons.1 hu with rfl | hu
    · decide
    · exact isNumberUnit_digitUnit (fun d h => hd d (List.mem_of_mem_drop h)) u hu

theorem isNumberUnit_exponentText (z : ℤ) : ∀ u ∈ exponentText z, isNumberUnit u = true := by
  intro u hu
  rcases List.mem_cons.1 hu with rfl | hu
  · decide
  rcases List.mem_cons.1 hu with rfl | hu
  · split_ifs <;> decide
  · exact isNumberUnit_digitUnit (fun _ => digitsOf_lt) u hu

/-- Each notation has digits, a point, an exponent and its sign, and nothing else. -/
theorem isNumberUnit_decimalText {ds : List ℕ} (hd : ∀ d ∈ ds, d < 10) (n : ℤ) :
    ∀ u ∈ decimalText ds n, isNumberUnit u = true := by
  have hzeros : ∀ j, ∀ d ∈ List.replicate j 0, d < 10 := fun _ _ => replicate_zero_lt
  unfold decimalText
  split_ifs
  · exact isNumberUnit_digitUnit fun d h => (List.mem_append.1 h).elim (hd d) (hzeros _ d)
  · exact isNumberUnit_pointText hd _
  · intro u hu
    rcases List.mem_append.1 hu with hu | hu
    · exact isNumberUnit_digitUnit (by simp) u hu
    rcases List.mem_cons.1 hu with rfl | hu
    · decide
    · exact isNumberUnit_digitUnit
        (fun d h => (List.mem_append.1 h).elim (hzeros _ d) (hd d)) u hu
  · intro u hu
    rcases List.mem_append.1 hu with hu | hu
    · split_ifs at hu
      · exact isNumberUnit_digitUnit hd u hu
      · exact isNumberUnit_pointText hd 1 u hu
    · exact isNumberUnit_exponentText _ u hu

theorem isNumberUnit_toText (x : Float64) : ∀ u ∈ toText x, isNumberUnit u = true := by
  have hpos : ∀ y hy, ∀ u ∈ positiveText y hy, isNumberUnit u = true := fun y hy =>
    isNumberUnit_decimalText (fun _ => digitsOf_lt) _
  unfold toText
  split_ifs with h1 h2
  · exact hpos x h1
  · intro u hu
    rcases List.mem_cons.1 hu with rfl | hu
    · decide
    · exact hpos _ h2 u hu
  · intro u hu
    rw [List.mem_singleton.1 hu]
    decide

/-- A string without white space is not trimmed. -/
theorem trim_eq {s : JsString} (h : ∀ u ∈ s, isWhiteSpace u = false) : trim s = s := by
  have hdrop : ∀ t : JsString, (∀ u ∈ t, isWhiteSpace u = false) → t.dropWhile isWhiteSpace = t := by
    intro t ht
    cases t with
    | nil => rfl
    | cons u us => rw [List.dropWhile_cons, ht u List.mem_cons_self]; rfl
  rw [trim, hdrop s h, hdrop _ fun u hu => h u (List.mem_reverse.1 hu), List.reverse_reverse]

/-- None of them is white space, and none announces a radix. -/
theorem isNumberUnit_cases {u : UInt16} (h : isNumberUnit u = true) :
    isWhiteSpace u = false ∧ radixOf u = none := by
  have hsmall : u.toNat < 102 := by
    simp only [isNumberUnit, isDigit, List.contains_cons, List.contains_nil, Bool.or_false,
      Bool.or_eq_true, Bool.and_eq_true, decide_eq_true_eq, beq_iff_eq] at h
    rcases h with h | rfl | rfl | rfl | rfl
    · omega
    all_goals decide
  have hall : ∀ n < 102, isNumberUnit (UInt16.ofNat n) = true →
      isWhiteSpace (UInt16.ofNat n) = false ∧ radixOf (UInt16.ofNat n) = none := by decide
  have hu := hall u.toNat hsmall
  rw [UInt16.ofNat_toNat] at hu
  exact hu h

/-! ### Reading back -/

/-- A number of JSON that takes the whole text is a decimal literal of the same value. -/
theorem decimalLiteral_of_parseMagnitude {us : JsString} {q : ℚ}
    (h : parseMagnitude us = some (q, [])) : decimalLiteral us = some q := by
  simp only [parseMagnitude, Option.bind_eq_bind, Option.bind_eq_some_iff, Prod.exists,
    Option.some.injEq, Prod.mk.injEq] at h
  obtain ⟨int, r₁, hint, frac, r₂, hfrac, exp, _, hexp, rfl, rfl⟩ := h
  have htake : takeDigits us = (int, r₁) ∧ int ≠ [] := by
    unfold parseInt at hint
    split at hint <;> simp_all
    simp [← hint.1]
  have hpoint : (if r₁.head? = some (unit '.') then takeDigits r₁.tail else ([], r₁)) =
      (frac, r₂) := by
    unfold parseFrac at hfrac
    split at hfrac
    · simp_all
    · split_ifs at hfrac with hu
      · subst hu
        rw [if_pos (by simp), List.tail_cons]
        split at hfrac <;> simp_all
      · rw [if_neg (by simpa using hu)]
        simp_all
  simp only [decimalLiteral, Option.bind_eq_bind, htake.1, hpoint, hexp, Option.bind_some]
  rw [if_pos ⟨by simp [htake.2], trivial⟩]

theorem unsignedLiteral_positiveText (x : Float64) (hx : 0 < x.val) :
    unsignedLiteral (positiveText x hx) = some (.finite x) := by
  obtain ⟨q, hq, hval⟩ := parseMagnitude_positiveText x hx (r := []) trivial
  rw [List.append_nil] at hq
  have hne : positiveText x hx ≠ js "Infinity" := by
    obtain ⟨u, us, h, hu⟩ := positiveText_head x hx
    rw [h]
    rintro hI
    rw [(List.cons.inj (hI.trans (by decide : _ = unit 'I' :: js "nfinity"))).1] at hu
    exact absurd hu (by decide)
  rw [unsignedLiteral, if_neg hne, decimalLiteral_of_parseMagnitude hq, Option.map_some, hval]

theorem signedLiteral_toText (x : Float64) : signedLiteral (toText x) = some (.finite x) := by
  unfold toText
  split_ifs with h1 h2
  · obtain ⟨u, us, htext, hu⟩ := positiveText_head x h1
    have hhead : ∀ c, isDigit c = false → (positiveText x h1).head? ≠ some c := by
      rintro c hc he
      rw [htext, List.head?_cons, Option.some.injEq] at he
      rw [he, hc] at hu
      exact absurd hu (by decide)
    rw [signedLiteral, if_neg (hhead _ (by decide)), if_neg (hhead _ (by decide)),
      unsignedLiteral_positiveText x h1]
  · rw [signedLiteral, if_neg (by simp; decide), if_pos (by simp), List.tail_cons,
      unsignedLiteral_positiveText _ h2, Option.map_some, neg]
    congr 2
    exact Subtype.ext (by simp [negFinite])
  · have hx0 : x.val = 0 := by linarith
    have hdec : decimalLiteral [digitUnit 0] = some 0 := by decide +kernel
    rw [signedLiteral, if_neg (by decide), if_neg (by decide), unsignedLiteral,
      if_neg (by decide), hdec, Option.map_some, ← hx0, ofRat_val]

theorem radixLiteral_toText (x : Float64) : radixLiteral (toText x) = none := by
  have hall := isNumberUnit_toText x
  generalize toText x = s at hall
  match s with
  | [] => rfl
  | [_] => rfl
  | zero :: letter :: ds =>
    have hletter := (isNumberUnit_cases (hall letter (by simp))).2
    simp [radixLiteral, hletter]

/-- **A number that was written is read back.** -/
theorem toNumber_text (x : JsNumber) : toNumber (text x) = x := by
  cases x with
  | finite x =>
    have htrim := trim_eq fun u hu => (isNumberUnit_cases (isNumberUnit_toText x u hu)).1
    have hne : toText x ≠ [] := by
      obtain ⟨u, us, h, -⟩ := toText_head x
      simp [h]
    rw [text, toNumber, htrim, if_neg hne, radixLiteral_toText, Option.none_or,
      signedLiteral_toText, Option.getD_some]
  | posInfinity => decide +kernel
  | negInfinity => decide +kernel
  | nan => decide +kernel

end JsNumber

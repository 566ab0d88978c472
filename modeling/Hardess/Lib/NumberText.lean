import Mathlib.Data.Nat.Digits.Lemmas
import Hardess.Lib.JsNumber
import Hardess.Lib.JsString

/-!
# Decimal text of numbers

`Number::toString` of ECMAScript for base ten, and the JSON number grammar.

* `shortestDecimal x` is the decimal `s * 10 ^ e` with the fewest digits that rounds to
  the positive number `x` (the nearest such decimal, ties to even);
* `numberText` lays its digits out in one of the four notations;
* `parseNumber` reads a JSON number and rounds its exact value;
* `parseNumber_numberText`: reading the text of a finite number gives the number back.
-/

namespace JsNumber

/-! ### Digits -/

/-- The code unit of a decimal digit. -/
def digitUnit (d : ℕ) : UInt16 := UInt16.ofNat (48 + d)

def isDigit (u : UInt16) : Bool := 48 ≤ u.toNat && u.toNat ≤ 57

def digitVal (u : UInt16) : ℕ := u.toNat - 48

theorem digitUnit_toNat {d : ℕ} (hd : d < 10) : (digitUnit d).toNat = 48 + d := by
  rw [digitUnit, UInt16.toNat_ofNat_of_lt']
  simp only [UInt16.size]; omega

theorem isDigit_digitUnit {d : ℕ} (hd : d < 10) : isDigit (digitUnit d) = true := by
  simp only [isDigit, digitUnit_toNat hd, Bool.and_eq_true, decide_eq_true_eq]; omega

theorem digitVal_digitUnit {d : ℕ} (hd : d < 10) : digitVal (digitUnit d) = d := by
  simp [digitVal, digitUnit_toNat hd]

/-- The value of a list of digits, most significant first. -/
def natOf (ds : List ℕ) : ℕ := Nat.ofDigits 10 ds.reverse

theorem natOf_append (as bs : List ℕ) : natOf (as ++ bs) = natOf as * 10 ^ bs.length + natOf bs := by
  simp only [natOf, List.reverse_append, Nat.ofDigits_append, List.length_reverse]; ring

@[simp] theorem natOf_nil : natOf [] = 0 := rfl

theorem natOf_replicate_zero (n : ℕ) : natOf (List.replicate n 0) = 0 := by
  simp [natOf]

/-- The digits of a natural number, most significant first. -/
def digitsOf (n : ℕ) : List ℕ := (Nat.digits 10 n).reverse

@[simp] theorem natOf_digitsOf (n : ℕ) : natOf (digitsOf n) = n := by
  simp [natOf, digitsOf, Nat.ofDigits_digits]

theorem digitsOf_lt {n d : ℕ} (h : d ∈ digitsOf n) : d < 10 :=
  Nat.digits_lt_base (by norm_num) (List.mem_reverse.1 h)

theorem digitsOf_ne_nil {n : ℕ} (h : n ≠ 0) : digitsOf n ≠ [] := by
  rw [digitsOf, ne_eq, List.reverse_eq_nil_iff]
  exact Nat.digits_ne_nil_iff_ne_zero.2 h

theorem digitsOf_head {n d : ℕ} {ds : List ℕ} (h : digitsOf n = d :: ds) : d ≠ 0 := by
  have hn : n ≠ 0 := by rintro rfl; simp [digitsOf] at h
  have hr : Nat.digits 10 n = ds.reverse ++ [d] := by
    have := congrArg List.reverse h
    simpa [digitsOf] using this
  have := Nat.getLast_digit_ne_zero 10 hn
  simpa [hr] using this

/-- Read the digits at the front of a text, and what follows them. -/
def takeDigits : JsString → List ℕ × JsString
  | [] => ([], [])
  | u :: us =>
    match isDigit u with
    | true => let rest := takeDigits us; (digitVal u :: rest.1, rest.2)
    | false => ([], u :: us)

/-- The text does not go on with a digit. -/
def DigitStop : JsString → Prop
  | [] => True
  | u :: _ => isDigit u = false

theorem takeDigits_of_stop {r : JsString} (hr : DigitStop r) : takeDigits r = ([], r) := by
  match r, hr with
  | [], _ => rfl
  | u :: us, h => rw [takeDigits, show isDigit u = false from h]

/-- Written digits are read back, up to the first other code unit. -/
theorem takeDigits_map (ds : List ℕ) (hd : ∀ d ∈ ds, d < 10) {r : JsString} (hr : DigitStop r) :
    takeDigits (ds.map digitUnit ++ r) = (ds, r) := by
  induction ds with
  | nil => exact takeDigits_of_stop hr
  | cons d ds ih =>
    obtain ⟨h10, hds⟩ := List.forall_mem_cons.1 hd
    rw [List.map_cons, List.cons_append, takeDigits, isDigit_digitUnit h10, ih hds,
      digitVal_digitUnit h10]

/-! ### The shortest decimal -/

/-- The value of `s * 10 ^ e`. -/
def decimalValue (c : ℕ × ℤ) : ℚ := c.1 * 10 ^ c.2

/-- The two decimals with `k` significant digits around `q`, the nearer one first. -/
def candidates (q : ℚ) (k : ℕ) : List (ℕ × ℤ) :=
  let e := Int.log 10 q + 1 - k
  let f := ⌊q / 10 ^ e⌋₊
  let up := if f + 1 = 10 ^ k then (1, e + k) else (f + 1, e)
  if q / 10 ^ e - f < 1 / 2 ∨ (q / 10 ^ e - f = 1 / 2 ∧ f % 2 = 0) then [(f, e), up]
  else [up, (f, e)]

theorem floor_mem_candidates (q : ℚ) (k : ℕ) :
    (⌊q / 10 ^ (Int.log 10 q + 1 - k)⌋₊, Int.log 10 q + 1 - k) ∈ candidates q k := by
  unfold candidates
  dsimp only
  split <;> simp

/-- Every candidate with at least one digit is positive. -/
theorem candidates_pos {q : ℚ} (hq : 0 < q) {k : ℕ} (hk : 1 ≤ k) {c : ℕ × ℤ}
    (hc : c ∈ candidates q k) : c.1 ≠ 0 := by
  have hfloor : 1 ≤ ⌊q / 10 ^ (Int.log 10 q + 1 - k)⌋₊ := by
    have hpos : (0 : ℚ) < 10 ^ (Int.log 10 q + 1 - k) := by positivity
    have hlog : (10 : ℚ) ^ Int.log 10 q ≤ q := by
      exact_mod_cast Int.zpow_log_le_self (b := 10) (by norm_num) hq
    rw [Nat.one_le_floor_iff, le_div_iff₀ hpos, one_mul]
    exact (zpow_le_zpow_right₀ (by norm_num) (by omega)).trans hlog
  unfold candidates at hc
  dsimp only at hc
  split at hc <;> simp only [List.mem_cons, List.not_mem_nil, or_false] at hc <;>
    rcases hc with rfl | rfl <;> first | (split <;> simp) | (simp only; omega)

/-- Some decimal rounds to `x`: with enough digits, `x` itself. -/
theorem exists_decimal (x : Float64) (hx : 0 < x.val) :
    ∃ k, 1 ≤ k ∧ ∃ c ∈ candidates x.val k, ofRat (decimalValue c) = .finite x := by
  obtain ⟨m, b, hb, -, hq⟩ := x.property.2
  refine ⟨(max 1 (Int.log 10 x.val + 1075)).toNat, by omega, _, floor_mem_candidates _ _, ?_⟩
  set e : ℤ := Int.log 10 x.val + 1 - ((max 1 (Int.log 10 x.val + 1075)).toNat : ℕ) with he
  have hle : e ≤ -1074 := by omega
  -- the power of two in `x` divides the power of ten
  have hint : ∃ z : ℤ, x.val / 10 ^ e = z := by
    obtain ⟨j, hj⟩ := Int.eq_ofNat_of_zero_le (show 0 ≤ -e by omega)
    obtain ⟨i, hi⟩ := Int.eq_ofNat_of_zero_le (show 0 ≤ b - e by omega)
    refine ⟨m * 2 ^ i * 5 ^ j, ?_⟩
    have h10 : (10 : ℚ) ^ (-e) = 2 ^ (-e) * 5 ^ (-e) := by rw [← mul_zpow]; norm_num
    rw [hq, div_eq_mul_inv, ← zpow_neg, h10, hj]
    push_cast
    rw [← zpow_natCast (2 : ℚ) i, show (i : ℤ) = b + -e by omega, zpow_add₀ (by norm_num), hj,
      zpow_natCast, zpow_natCast]
    ring
  obtain ⟨z, hz⟩ := hint
  have hnn : 0 ≤ x.val / 10 ^ e := by positivity
  have hz0 : 0 ≤ z := by rw [hz] at hnn; exact_mod_cast hnn
  obtain ⟨n, rfl⟩ := Int.eq_ofNat_of_zero_le hz0
  have hval : decimalValue (⌊x.val / 10 ^ e⌋₊, e) = x.val := by
    have hne : (10 : ℚ) ^ e ≠ 0 := by positivity
    rw [decimalValue, hz]
    simp only [Int.cast_natCast, Nat.floor_natCast]
    rw [← Int.cast_natCast (R := ℚ), ← hz, div_mul_cancel₀ _ hne]
  rw [hval, ofRat_val]

/-- The decimal with the fewest digits that rounds to `x`. -/
def shortestDecimal (x : Float64) (hx : 0 < x.val) : ℕ × ℤ :=
  ((candidates x.val (Nat.find (exists_decimal x hx))).find?
    fun c => decide (ofRat (decimalValue c) = .finite x)).getD (0, 0)

theorem shortestDecimal_spec (x : Float64) (hx : 0 < x.val) :
    ofRat (decimalValue (shortestDecimal x hx)) = .finite x ∧ (shortestDecimal x hx).1 ≠ 0 := by
  obtain ⟨hk, c, hc, hcx⟩ := Nat.find_spec (exists_decimal x hx)
  have hsome : ((candidates x.val (Nat.find (exists_decimal x hx))).find?
      fun c => decide (ofRat (decimalValue c) = .finite x)).isSome := by
    rw [List.find?_isSome]
    exact ⟨c, hc, by simpa using hcx⟩
  obtain ⟨d, hd⟩ := Option.isSome_iff_exists.1 hsome
  have hprop := List.find?_some hd
  rw [shortestDecimal, hd]
  exact ⟨by simpa using hprop, candidates_pos hx hk (List.mem_of_find?_eq_some hd)⟩

/-! ### Layout -/

/-- The digits with `j` zeros after them. -/
def integerText (ds : List ℕ) (j : ℕ) : JsString := (ds ++ List.replicate j 0).map digitUnit

/-- The digits with the point after the first `j`. -/
def pointText (ds : List ℕ) (j : ℕ) : JsString :=
  (ds.take j).map digitUnit ++ unit '.' :: (ds.drop j).map digitUnit

/-- `0.`, then `j` zeros and the digits. -/
def smallText (ds : List ℕ) (j : ℕ) : JsString :=
  [0].map digitUnit ++ unit '.' :: (List.replicate j 0 ++ ds).map digitUnit

/-- An exponent, with its sign. -/
def exponentText (z : ℤ) : JsString :=
  unit 'e' :: (if 0 ≤ z then unit '+' else unit '-') :: (digitsOf z.natAbs).map digitUnit

/-- One digit, the point and the others if there are any, and the exponent. -/
def scientificText (ds : List ℕ) (z : ℤ) : JsString :=
  (if ds.length = 1 then ds.map digitUnit else pointText ds 1) ++ exponentText z

/-- The text of the number with digits `ds` and value `0.ds * 10 ^ n`. -/
def decimalText (ds : List ℕ) (n : ℤ) : JsString :=
  if ds.length ≤ n ∧ n ≤ 21 then integerText ds (n - ds.length).toNat
  else if 0 < n ∧ n ≤ 21 then pointText ds n.toNat
  else if -6 < n ∧ n ≤ 0 then smallText ds (-n).toNat
  else scientificText ds (n - 1)

/-- `Number::toString` of a positive number. -/
def positiveText (x : Float64) (hx : 0 < x.val) : JsString :=
  let c := shortestDecimal x hx
  decimalText (digitsOf c.1) (c.2 + (digitsOf c.1).length)

/-- `Number::toString` of a finite number. -/
def toText (x : Float64) : JsString :=
  if hx : 0 < x.val then positiveText x hx
  else if hx' : 0 < -x.val then unit '-' :: positiveText (negFinite x) hx'
  else [digitUnit 0]

/-! ### The JSON number grammar -/

/-- The integer part: no leading zero before another digit. -/
def parseInt (us : JsString) : Option (List ℕ × JsString) :=
  match takeDigits us with
  | ([], _) => none
  | ([d], r) => some ([d], r)
  | (0 :: _, _) => none
  | (ds, r) => some (ds, r)

/-- The optional fraction. -/
def parseFrac : JsString → Option (List ℕ × JsString)
  | [] => some ([], [])
  | u :: us =>
    if u = unit '.' then
      match takeDigits us with
      | ([], _) => none
      | (ds, r) => some (ds, r)
    else some ([], u :: us)

/-- The digits of an exponent. -/
def parseExpDigits (sign : ℤ) (us : JsString) : Option (ℤ × JsString) :=
  match takeDigits us with
  | ([], _) => none
  | (ds, r) => some (sign * natOf ds, r)

/-- A signed exponent. -/
def parseSigned : JsString → Option (ℤ × JsString)
  | [] => none
  | u :: us =>
    if u = unit '+' then parseExpDigits 1 us
    else if u = unit '-' then parseExpDigits (-1) us
    else parseExpDigits 1 (u :: us)

/-- The optional exponent. -/
def parseExp : JsString → Option (ℤ × JsString)
  | [] => some (0, [])
  | u :: us =>
    if u = unit 'e' ∨ u = unit 'E' then parseSigned us else some (0, u :: us)

/-- An unsigned number, exactly. -/
def parseMagnitude (us : JsString) : Option (ℚ × JsString) := do
  let (int, r) ← parseInt us
  let (frac, r) ← parseFrac r
  let (exp, r) ← parseExp r
  some (decimalValue (natOf (int ++ frac), exp - frac.length), r)

/-- A JSON number. -/
def parseNumber : JsString → Option (JsNumber × JsString)
  | [] => none
  | u :: us =>
    if u = unit '-' then (parseMagnitude us).map fun p => ((ofRat p.1).neg, p.2)
    else (parseMagnitude (u :: us)).map fun p => (ofRat p.1, p.2)

/-! ### Reading back -/

/-- The text does not go on with anything that could extend a number. -/
def NumberStop : JsString → Prop
  | [] => True
  | u :: _ => isDigit u = false ∧ u ≠ unit '.' ∧ u ≠ unit 'e' ∧ u ≠ unit 'E'

theorem NumberStop.digitStop {r : JsString} (h : NumberStop r) : DigitStop r := by
  cases r with
  | nil => trivial
  | cons u us => exact h.1

theorem parseInt_map (ds : List ℕ) (hne : ds ≠ []) (hz : ds.length = 1 ∨ ds.head? ≠ some 0)
    (hd : ∀ d ∈ ds, d < 10) {r : JsString} (hr : DigitStop r) :
    parseInt (ds.map digitUnit ++ r) = some (ds, r) := by
  rw [parseInt, takeDigits_map ds hd hr]
  match ds, hne with
  | [d], _ => rfl
  | d :: e :: ds, _ =>
    cases d with
    | zero => simp at hz
    | succ d => rfl

theorem parseFrac_of_stop {r : JsString} (hr : ∀ u ∈ r.head?, u ≠ unit '.') :
    parseFrac r = some ([], r) := by
  cases r with
  | nil => rfl
  | cons u us => rw [parseFrac, if_neg (hr u rfl)]

theorem parseFrac_map {ds : List ℕ} (hne : ds ≠ []) (hd : ∀ d ∈ ds, d < 10) {r : JsString}
    (hr : DigitStop r) : parseFrac (unit '.' :: (ds.map digitUnit ++ r)) = some (ds, r) := by
  rw [parseFrac, if_pos rfl, takeDigits_map ds hd hr]
  match ds, hne with
  | d :: ds, _ => rfl

theorem parseExp_of_stop {r : JsString} (hr : ∀ u ∈ r.head?, u ≠ unit 'e' ∧ u ≠ unit 'E') :
    parseExp r = some (0, r) := by
  cases r with
  | nil => rfl
  | cons u us => rw [parseExp, if_neg (by simpa [not_or] using hr u rfl)]

theorem parseExpDigits_digitsOf {n : ℕ} (hn : n ≠ 0) (sign : ℤ) {r : JsString}
    (hr : DigitStop r) :
    parseExpDigits sign ((digitsOf n).map digitUnit ++ r) = some (sign * n, r) := by
  rw [parseExpDigits, takeDigits_map _ (fun _ => digitsOf_lt) hr]
  have hne := digitsOf_ne_nil hn
  have hval := natOf_digitsOf n
  match digitsOf n, hne, hval with
  | d :: ds, _, hval => simp [hval]

theorem parseExp_exponentText {z : ℤ} (hz : z ≠ 0) {r : JsString} (hr : DigitStop r) :
    parseExp (exponentText z ++ r) = some (z, r) := by
  have hn : z.natAbs ≠ 0 := by omega
  rw [exponentText, List.cons_append, List.cons_append, parseExp, if_pos (Or.inl rfl)]
  by_cases h : 0 ≤ z
  · rw [if_pos h, parseSigned, if_pos rfl, parseExpDigits_digitsOf hn 1 hr]
    congr 2; omega
  · rw [if_neg h, parseSigned, if_neg (by decide), if_pos rfl, parseExpDigits_digitsOf hn (-1) hr]
    congr 2; omega

theorem digitStop_point (r : JsString) : DigitStop (unit '.' :: r) :=
  show isDigit (unit '.') = false by decide

theorem digitStop_exponentText (z : ℤ) (r : JsString) : DigitStop (exponentText z ++ r) :=
  show isDigit (unit 'e') = false by decide

section Layout

variable {ds : List ℕ} {r : JsString}

theorem natOf_append_zeros (ds : List ℕ) (j : ℕ) :
    natOf (ds ++ List.replicate j 0) = natOf ds * 10 ^ j := by
  rw [natOf_append, natOf_replicate_zero, List.length_replicate, add_zero]

theorem natOf_zeros_append (ds : List ℕ) (j : ℕ) : natOf (List.replicate j 0 ++ ds) = natOf ds := by
  rw [natOf_append, natOf_replicate_zero, zero_mul, zero_add]

theorem NumberStop.fracStop (hr : NumberStop r) : ∀ u ∈ r.head?, u ≠ unit '.' := by
  cases r with
  | nil => simp
  | cons v vs => rintro u ⟨⟩; exact hr.2.1

theorem NumberStop.expStop (hr : NumberStop r) :
    ∀ u ∈ r.head?, u ≠ unit 'e' ∧ u ≠ unit 'E' := by
  cases r with
  | nil => simp
  | cons v vs => rintro u ⟨⟩; exact hr.2.2

/-- Assemble the three parts of a number. -/
theorem parseMagnitude_eq {us r₁ r₂ r : JsString} {int frac : List ℕ} {exp : ℤ}
    (hint : parseInt us = some (int, r₁)) (hfrac : parseFrac r₁ = some (frac, r₂))
    (hexp : parseExp r₂ = some (exp, r)) :
    parseMagnitude us = some (decimalValue (natOf (int ++ frac), exp - frac.length), r) := by
  simp [parseMagnitude, hint, hfrac, hexp]

theorem replicate_zero_lt {j d : ℕ} (h : d ∈ List.replicate j 0) : d < 10 := by
  rw [List.eq_of_mem_replicate h]; norm_num

variable (hne : ds ≠ []) (h0 : ds.head? ≠ some 0) (hd : ∀ d ∈ ds, d < 10) (hr : NumberStop r)
include hne hd hr

include h0 in
theorem parseMagnitude_integerText (j : ℕ) :
    parseMagnitude (integerText ds j ++ r) = some (decimalValue (natOf ds, j), r) := by
  have hint : parseInt (integerText ds j ++ r) = some (ds ++ List.replicate j 0, r) := by
    refine parseInt_map _ (by simp [hne]) (Or.inr ?_) ?_ hr.digitStop
    · rwa [List.head?_append_of_ne_nil _ hne]
    · exact fun d hmem => (List.mem_append.1 hmem).elim (hd d) replicate_zero_lt
  rw [parseMagnitude_eq hint (parseFrac_of_stop hr.fracStop) (parseExp_of_stop hr.expStop),
    List.append_nil, natOf_append_zeros]
  simp [decimalValue]

omit hr in
include h0 in
theorem parseInt_pointText {j : ℕ} (hj : 0 < j) (s : JsString) :
    parseInt (pointText ds j ++ s) =
      some (ds.take j, unit '.' :: ((ds.drop j).map digitUnit ++ s)) := by
  rw [pointText, List.append_assoc]
  refine parseInt_map _ ?_ (Or.inr ?_) (fun d hmem => hd d (List.mem_of_mem_take hmem))
    (digitStop_point _)
  · rw [ne_eq, List.take_eq_nil_iff, not_or]; exact ⟨by omega, hne⟩
  · rwa [List.head?_take, if_neg (by omega)]

include h0 in
theorem parseMagnitude_pointText {j : ℕ} (hj : 0 < j) (hlt : j < ds.length) :
    parseMagnitude (pointText ds j ++ r) = some (decimalValue (natOf ds, (j : ℤ) - ds.length), r) := by
  have hfrac : parseFrac (unit '.' :: ((ds.drop j).map digitUnit ++ r)) = some (ds.drop j, r) :=
    parseFrac_map (by simpa using hlt) (fun d hmem => hd d (List.mem_of_mem_drop hmem)) hr.digitStop
  rw [parseMagnitude_eq (parseInt_pointText hne h0 hd hj r) hfrac (parseExp_of_stop hr.expStop),
    List.take_append_drop, List.length_drop]
  congr 4; omega

theorem parseMagnitude_smallText (j : ℕ) :
    parseMagnitude (smallText ds j ++ r) = some (decimalValue (natOf ds, -(j : ℤ) - ds.length), r) := by
  have hint : parseInt (smallText ds j ++ r) =
      some ([0], unit '.' :: ((List.replicate j 0 ++ ds).map digitUnit ++ r)) := by
    rw [smallText, List.append_assoc]
    exact parseInt_map _ (by simp) (Or.inl rfl) (by simp) (digitStop_point _)
  have hfrac : parseFrac (unit '.' :: ((List.replicate j 0 ++ ds).map digitUnit ++ r)) =
      some (List.replicate j 0 ++ ds, r) :=
    parseFrac_map (by simp [hne])
      (fun d hmem => (List.mem_append.1 hmem).elim replicate_zero_lt (hd d)) hr.digitStop
  rw [parseMagnitude_eq hint hfrac (parseExp_of_stop hr.expStop), ← List.append_assoc,
    show [0] ++ List.replicate j 0 = List.replicate (j + 1) 0 from rfl, natOf_zeros_append]
  congr 4
  rw [List.length_append, List.length_replicate]; push_cast; ring

include h0 in
theorem parseMagnitude_scientificText {z : ℤ} (hz : z ≠ 0) :
    parseMagnitude (scientificText ds z ++ r) =
      some (decimalValue (natOf ds, z + 1 - ds.length), r) := by
  have hexp := parseExp_exponentText hz hr.digitStop
  have hpos := List.length_pos_iff.2 hne
  rw [scientificText]
  split_ifs with h1
  · have hint : parseInt (ds.map digitUnit ++ exponentText z ++ r) =
        some (ds, exponentText z ++ r) := by
      rw [List.append_assoc]
      exact parseInt_map _ hne (Or.inr h0) hd (digitStop_exponentText z r)
    rw [parseMagnitude_eq hint (parseFrac_of_stop (by rintro u ⟨⟩; decide)) hexp, List.append_nil, h1]
    simp
  · have hfrac : parseFrac (unit '.' :: ((ds.drop 1).map digitUnit ++ (exponentText z ++ r))) =
        some (ds.drop 1, exponentText z ++ r) :=
      parseFrac_map (by rw [ne_eq, List.drop_eq_nil_iff]; omega)
        (fun d hmem => hd d (List.mem_of_mem_drop hmem)) (digitStop_exponentText z r)
    rw [List.append_assoc,
      parseMagnitude_eq (parseInt_pointText hne h0 hd one_pos _) hfrac hexp,
      List.take_append_drop, List.length_drop]
    congr 4; omega

include h0 in
/-- Each notation is read back as the decimal it stands for. -/
theorem parseMagnitude_decimalText (n : ℤ) :
    parseMagnitude (decimalText ds n ++ r) = some (decimalValue (natOf ds, n - ds.length), r) := by
  have hpos := List.length_pos_iff.2 hne
  unfold decimalText
  split_ifs with h1 h2 h3
  · rw [parseMagnitude_integerText hne h0 hd hr, Int.toNat_of_nonneg (by omega)]
  · rw [parseMagnitude_pointText hne h0 hd hr (by omega) (by omega), Int.toNat_of_nonneg (by omega)]
  · rw [parseMagnitude_smallText hne hd hr, Int.toNat_of_nonneg (by omega), neg_neg]
  · rw [parseMagnitude_scientificText hne h0 hd hr (by omega), sub_add_cancel]

end Layout

/-- A decimal starts with a digit. -/
theorem decimalText_head {ds : List ℕ} (hne : ds ≠ []) (hd : ∀ d ∈ ds, d < 10) (n : ℤ) :
    ∃ u us, decimalText ds n = u :: us ∧ isDigit u = true := by
  obtain ⟨d, ds, rfl⟩ := List.exists_cons_of_ne_nil hne
  have hdigit := isDigit_digitUnit (hd d List.mem_cons_self)
  have hpoint : ∀ j, 0 < j → ∃ u us, pointText (d :: ds) j = u :: us ∧ isDigit u = true := by
    intro j hj
    obtain ⟨i, rfl⟩ := Nat.exists_eq_add_one.2 hj
    exact ⟨_, _, rfl, hdigit⟩
  unfold decimalText
  split_ifs with h1 h2 h3
  · exact ⟨_, _, rfl, hdigit⟩
  · exact hpoint _ (by omega)
  · exact ⟨_, _, rfl, by decide⟩
  · unfold scientificText
    split_ifs
    · exact ⟨_, _, rfl, hdigit⟩
    · exact ⟨_, _, rfl, hdigit⟩

theorem positiveText_head (x : Float64) (hx : 0 < x.val) :
    ∃ u us, positiveText x hx = u :: us ∧ isDigit u = true :=
  decimalText_head (digitsOf_ne_nil (shortestDecimal_spec x hx).2) (fun _ => digitsOf_lt) _

theorem parseMagnitude_positiveText (x : Float64) (hx : 0 < x.val) {r : JsString}
    (hr : NumberStop r) :
    ∃ q, parseMagnitude (positiveText x hx ++ r) = some (q, r) ∧ ofRat q = .finite x := by
  obtain ⟨hval, hs⟩ := shortestDecimal_spec x hx
  have hne := digitsOf_ne_nil hs
  have h0 : (digitsOf (shortestDecimal x hx).1).head? ≠ some 0 := by
    obtain ⟨d, ds, hds⟩ := List.exists_cons_of_ne_nil hne
    rw [hds, List.head?_cons, ne_eq, Option.some.injEq]
    exact digitsOf_head hds
  refine ⟨_, parseMagnitude_decimalText hne h0 (fun _ => digitsOf_lt) hr _, ?_⟩
  rw [natOf_digitsOf, add_sub_cancel_right]
  exact hval

/-- The first code unit of a number is a digit or a minus sign. -/
theorem toText_head (x : Float64) :
    ∃ u us, toText x = u :: us ∧ (isDigit u = true ∨ u = unit '-') := by
  unfold toText
  split_ifs with h1 h2
  · obtain ⟨u, us, h, hu⟩ := positiveText_head x h1
    exact ⟨u, us, h, Or.inl hu⟩
  · exact ⟨_, _, rfl, Or.inr rfl⟩
  · exact ⟨_, _, rfl, Or.inl (by decide)⟩

/-- **The text of a finite number is read back as that number.** -/
theorem parseNumber_toText (x : Float64) {r : JsString} (hr : NumberStop r) :
    parseNumber (toText x ++ r) = some (.finite x, r) := by
  unfold toText
  split_ifs with h1 h2
  · obtain ⟨q, hq, hx⟩ := parseMagnitude_positiveText x h1 hr
    obtain ⟨u, us, htext, hu⟩ := positiveText_head x h1
    have hne : u ≠ unit '-' := by rintro rfl; exact absurd hu (by decide)
    rw [htext, List.cons_append] at hq ⊢
    rw [parseNumber, if_neg hne, hq, Option.map_some, hx]
  · obtain ⟨q, hq, hx⟩ := parseMagnitude_positiveText (negFinite x) h2 hr
    rw [List.cons_append, parseNumber, if_pos rfl, hq]
    simp only [Option.map_some, hx, neg]
    congr 3
    exact Subtype.ext (by simp [negFinite])
  · have hx0 : ofRat 0 = .finite x := by
      have : x.val = 0 := by linarith
      rw [← this, ofRat_val]
    have hint : parseInt ([digitUnit 0] ++ r) = some ([0], r) :=
      parseInt_map [0] (by simp) (Or.inl rfl) (by simp) hr.digitStop
    have hmag := parseMagnitude_eq hint (parseFrac_of_stop hr.fracStop) (parseExp_of_stop hr.expStop)
    rw [List.singleton_append] at hmag ⊢
    rw [parseNumber, if_neg (by decide), hmag, Option.map_some]
    simp [decimalValue, natOf, hx0]

end JsNumber

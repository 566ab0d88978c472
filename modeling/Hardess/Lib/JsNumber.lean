import Mathlib.Data.Int.Log
import Mathlib.Data.Rat.Floor
import Mathlib.Tactic

/-!
# JavaScript numbers

The Number type of ECMAScript: the finite binary64 values (here rationals with a
proof that they are representable), the two infinities and `NaN`. The two zeros
are one value here: `===`, `<`, `Number.isInteger` and `JSON.stringify` do not
tell them apart.

* `JsNumber.ofRat` rounds an exact rational to the nearest number, ties to even;
* `JsNumber.ofRat_val`: a representable value is its own rounding;
* `JsNumber.lt`, `add`, `isInteger`, `isSafeInteger` as the language defines them.
-/

/-- `q` is a finite binary64 value. -/
def IsFloat64 (q : ℚ) : Prop :=
  |q| < 2 ^ (1024 : ℕ) ∧ ∃ m e : ℤ, -1074 ≤ e ∧ |m| < 2 ^ 53 ∧ q = m * 2 ^ e

/-- The finite binary64 values. -/
abbrev Float64 : Type := {q : ℚ // IsFloat64 q}

/-- A number of the language. -/
inductive JsNumber
  | finite (x : Float64)
  | posInfinity
  | negInfinity
  | nan
  deriving DecidableEq

namespace JsNumber

/-! ### Rounding -/

/-- The nearest integer, ties to the even one. -/
def roundHalfEven (x : ℚ) : ℤ :=
  if x - ⌊x⌋ < 1 / 2 then ⌊x⌋
  else if 1 / 2 < x - ⌊x⌋ then ⌊x⌋ + 1
  else if ⌊x⌋ % 2 = 0 then ⌊x⌋ else ⌊x⌋ + 1

@[simp] theorem roundHalfEven_intCast (n : ℤ) : roundHalfEven n = n := by
  simp [roundHalfEven]

theorem roundHalfEven_bounds (x : ℚ) :
    ⌊x⌋ ≤ roundHalfEven x ∧ roundHalfEven x ≤ ⌊x⌋ + 1 := by
  unfold roundHalfEven
  split_ifs <;> omega

/-- Rounding does not leave an interval with integer endpoints. -/
theorem abs_roundHalfEven_le {x : ℚ} {n : ℤ} (h : |x| < n) : |roundHalfEven x| ≤ n := by
  obtain ⟨hlo, hhi⟩ := abs_lt.1 h
  obtain ⟨h1, h2⟩ := roundHalfEven_bounds x
  have hfl : -n ≤ ⌊x⌋ := Int.le_floor.2 (by push_cast; linarith)
  have hfu : ⌊x⌋ < n := Int.floor_lt.2 hhi
  exact abs_le.2 ⟨by omega, by omega⟩

/-- The exponent of the last significant bit of `q`. -/
def ulpExp (q : ℚ) : ℤ := max (Int.log 2 |q| - 52) (-1074)

theorem abs_div_ulp_lt (q : ℚ) : |q / 2 ^ ulpExp q| < (2 ^ 53 : ℤ) := by
  have hpos : (0 : ℚ) < 2 ^ ulpExp q := by positivity
  have hq : |q| < (2 : ℚ) ^ (Int.log 2 |q| + 1) := by
    exact_mod_cast Int.lt_zpow_succ_log_self (by norm_num : 1 < 2) |q|
  have hle : Int.log 2 |q| + 1 ≤ 53 + ulpExp q := by unfold ulpExp; omega
  rw [abs_div, abs_of_pos hpos, div_lt_iff₀ hpos]
  calc |q| < (2 : ℚ) ^ (Int.log 2 |q| + 1) := hq
    _ ≤ 2 ^ (53 + ulpExp q) := zpow_le_zpow_right₀ (by norm_num) hle
    _ = ((2 ^ 53 : ℤ) : ℚ) * 2 ^ ulpExp q := by rw [zpow_add₀ (by norm_num)]; norm_num

/-- The rational nearest to `q` with at most 53 significant bits. -/
def nearest (q : ℚ) : ℚ := roundHalfEven (q / 2 ^ ulpExp q) * 2 ^ ulpExp q

theorem isFloat64_nearest {q : ℚ} (h : |nearest q| < 2 ^ (1024 : ℕ)) : IsFloat64 (nearest q) := by
  refine ⟨h, ?_⟩
  have he : -1074 ≤ ulpExp q := le_max_right _ _
  have hm := abs_roundHalfEven_le (abs_div_ulp_lt q)
  rcases lt_or_eq_of_le hm with hlt | heq
  · exact ⟨_, _, he, hlt, rfl⟩
  -- a carry out of the 53 bits: halve the significand
  · rcases (abs_eq (by norm_num)).1 heq with hp | hn
    · refine ⟨2 ^ 52, ulpExp q + 1, by omega, by norm_num, ?_⟩
      rw [nearest, hp, zpow_add₀ (by norm_num)]; push_cast; ring
    · refine ⟨-2 ^ 52, ulpExp q + 1, by omega, by norm_num, ?_⟩
      rw [nearest, hn, zpow_add₀ (by norm_num)]; push_cast; ring

/-- A representable value is its own rounding. -/
theorem nearest_of_isFloat64 {q : ℚ} (h : IsFloat64 q) : nearest q = q := by
  obtain ⟨-, m, e, he, hm, rfl⟩ := h
  have hz : ∀ z : ℤ, (2 : ℚ) ^ z ≠ 0 := fun z => zpow_ne_zero z (by norm_num)
  -- the last bit of `m * 2 ^ e` is not below `2 ^ ulpExp`
  have hle : m ≠ 0 → ulpExp (m * 2 ^ e : ℚ) ≤ e := by
    intro hm0
    have hpos : (0 : ℚ) < |(m : ℚ) * 2 ^ e| := by
      rw [abs_pos]; exact mul_ne_zero (by exact_mod_cast hm0) (hz e)
    have hlt : |(m : ℚ) * 2 ^ e| < ((2 : ℕ) : ℚ) ^ (53 + e) := by
      have hm' : |(m : ℚ)| < 2 ^ 53 := by exact_mod_cast hm
      have h2e : (0 : ℚ) < 2 ^ e := by positivity
      rw [abs_mul, abs_of_pos h2e, Nat.cast_ofNat, zpow_add₀ (by norm_num)]
      exact mul_lt_mul_of_pos_right (by simpa using hm') h2e
    have := (Int.lt_zpow_iff_log_lt (b := 2) (by norm_num) hpos).1 hlt
    unfold ulpExp; omega
  by_cases hm0 : m = 0
  · subst hm0; simp [nearest, roundHalfEven]
  · obtain ⟨d, hd⟩ := Int.eq_ofNat_of_zero_le (sub_nonneg.2 (hle hm0))
    have hint : (m * 2 ^ e : ℚ) / 2 ^ ulpExp (m * 2 ^ e : ℚ) = ((m * 2 ^ d : ℤ) : ℚ) := by
      rw [mul_div_assoc, ← zpow_sub₀ (by norm_num), hd]; push_cast; simp
    rw [nearest, hint, roundHalfEven_intCast, ← hint, div_mul_cancel₀ _ (hz _)]

/-- Round an exact value to a number. -/
def ofRat (q : ℚ) : JsNumber :=
  if h : |nearest q| < 2 ^ (1024 : ℕ) then .finite ⟨nearest q, isFloat64_nearest h⟩
  else if 0 < q then .posInfinity else .negInfinity

@[simp] theorem ofRat_val (x : Float64) : ofRat x.val = .finite x := by
  have hn := nearest_of_isFloat64 x.property
  unfold ofRat
  rw [dif_pos (by rw [hn]; exact x.property.1)]
  congr 1
  exact Subtype.ext hn

theorem ofRat_of_isFloat64 {q : ℚ} (h : IsFloat64 q) : ofRat q = .finite ⟨q, h⟩ :=
  ofRat_val ⟨q, h⟩

theorem isFloat64_intCast {n : ℤ} (h : |n| < 2 ^ 53) : IsFloat64 n := by
  refine ⟨?_, n, 0, by norm_num, h, by simp⟩
  have : |(n : ℚ)| < 2 ^ 53 := by exact_mod_cast h
  exact this.trans (pow_lt_pow_right₀ (by norm_num) (by norm_num))

/-! ### The operators -/

/-- `a < b`: false as soon as one side is `NaN`. -/
def lt : JsNumber → JsNumber → Bool
  | .finite x, .finite y => decide (x.val < y.val)
  | .finite _, .posInfinity => true
  | .negInfinity, .finite _ => true
  | .negInfinity, .posInfinity => true
  | _, _ => false

/-- `a + b`. -/
def add : JsNumber → JsNumber → JsNumber
  | .finite x, .finite y => ofRat (x.val + y.val)
  | .nan, _ => .nan
  | _, .nan => .nan
  | .posInfinity, .negInfinity => .nan
  | .negInfinity, .posInfinity => .nan
  | .posInfinity, _ => .posInfinity
  | _, .posInfinity => .posInfinity
  | .negInfinity, _ => .negInfinity
  | _, .negInfinity => .negInfinity

theorem isFloat64_neg {q : ℚ} (h : IsFloat64 q) : IsFloat64 (-q) := by
  obtain ⟨hb, m, e, he, hm, rfl⟩ := h
  exact ⟨by rwa [abs_neg], -m, e, he, by rwa [abs_neg], by push_cast; ring⟩

/-- The opposite of a finite value. -/
def negFinite (x : Float64) : Float64 := ⟨-x.val, isFloat64_neg x.property⟩

/-- `-a`. -/
def neg : JsNumber → JsNumber
  | .finite x => .finite (negFinite x)
  | .posInfinity => .negInfinity
  | .negInfinity => .posInfinity
  | .nan => .nan

/-- `Number.isFinite(a)`. -/
def isFinite : JsNumber → Bool
  | .finite _ => true
  | _ => false

/-- `Number.isInteger(a)`. -/
def isInteger : JsNumber → Bool
  | .finite x => decide (x.val.den = 1)
  | _ => false

/-- `Number.MAX_SAFE_INTEGER`. -/
def maxSafeInteger : ℚ := 2 ^ 53 - 1

/-- `Number.isSafeInteger(a)`. -/
def isSafeInteger : JsNumber → Bool
  | .finite x => decide (x.val.den = 1 ∧ |x.val| ≤ maxSafeInteger)
  | _ => false

/-- The number of a natural-number literal. -/
def ofNat (n : ℕ) : JsNumber := ofRat n

theorem ofNat_eq {n : ℕ} (h : n < 2 ^ 53) :
    ∃ hq, ofNat n = .finite ⟨(n : ℚ), hq⟩ :=
  have hq : IsFloat64 (n : ℚ) := by
    simpa using isFloat64_intCast (n := n) (by rw [abs_of_nonneg (by positivity)]; exact_mod_cast h)
  ⟨hq, ofRat_of_isFloat64 hq⟩

@[simp] theorem finite_add (x y : Float64) :
    (finite x).add (finite y) = ofRat (x.val + y.val) := rfl

@[simp] theorem finite_lt (x y : Float64) :
    (finite x).lt (finite y) = decide (x.val < y.val) := rfl

theorem ofNat_add {a b : ℕ} (h : a + b < 2 ^ 53) : (ofNat a).add (ofNat b) = ofNat (a + b) := by
  obtain ⟨ha, hae⟩ := ofNat_eq (n := a) (by omega)
  obtain ⟨hb, hbe⟩ := ofNat_eq (n := b) (by omega)
  rw [hae, hbe, finite_add, ofNat]
  push_cast
  rfl

theorem ofNat_lt {a b : ℕ} (ha : a < 2 ^ 53) (hb : b < 2 ^ 53) :
    (ofNat a).lt (ofNat b) = decide (a < b) := by
  obtain ⟨ha', hae⟩ := ofNat_eq ha
  obtain ⟨hb', hbe⟩ := ofNat_eq hb
  rw [hae, hbe, finite_lt]
  simp

end JsNumber

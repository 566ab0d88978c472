import Hardess.Lib.JsNumber

/-!
# The order of the JavaScript numbers

`<` is a strict total order on the numbers other than `NaN`.

* `JsNumber.extended`: the place of a number on the extended line;
* `JsNumber.lt_iff`: `<` is the order of the places, `NaN` apart;
* `JsNumber.lt_add_one_or_eq`: adding one to a number that is not negative makes it larger, or is
  lost in the rounding.
-/

namespace JsNumber

/-- The place of a number on the extended line; that of `NaN` means nothing. -/
def extended : JsNumber → WithBot (WithTop ℚ)
  | .finite x => ((x.val : WithTop ℚ) : WithBot (WithTop ℚ))
  | .posInfinity => ((⊤ : WithTop ℚ) : WithBot (WithTop ℚ))
  | .negInfinity => ⊥
  | .nan => ⊥

@[simp] theorem finite_ne_nan (x : Float64) : finite x ≠ nan := fun h => by cases h

theorem lt_iff {a b : JsNumber} (ha : a ≠ .nan) (hb : b ≠ .nan) :
    a.lt b = true ↔ a.extended < b.extended := by
  cases a with
  | finite x =>
    cases b with
    | finite y => simp [lt, extended, WithBot.coe_lt_coe, WithTop.coe_lt_coe]
    | posInfinity => exact iff_of_true rfl (WithBot.coe_lt_coe.2 (WithTop.coe_lt_top _))
    | negInfinity => simp [lt, extended]
    | nan => exact absurd rfl hb
  | posInfinity => cases b <;> first | exact absurd rfl hb | simp [lt, extended]
  | negInfinity => cases b <;> first | exact absurd rfl hb | simp [lt, extended]
  | nan => exact absurd rfl ha

theorem extended_inj {a b : JsNumber} (ha : a ≠ .nan) (hb : b ≠ .nan)
    (h : a.extended = b.extended) : a = b := by
  cases a <;> cases b <;> simp_all [extended, WithBot.coe_inj, WithTop.coe_inj, Subtype.ext_iff]

theorem lt_irrefl (a : JsNumber) : a.lt a = false := by cases a <;> simp [lt]

/-- `a >= b`: false as soon as one side is `NaN`. -/
def ge (a b : JsNumber) : Bool := decide (a ≠ .nan ∧ b ≠ .nan) && !a.lt b

/-! ### Rounding and representable values -/

/-- Rounding does not bring a value below a representable one that is not above it. -/
theorem le_nearest {b q : ℚ} (hb : IsFloat64 b) (h0 : 0 ≤ b) (h : b ≤ q) : b ≤ nearest q := by
  obtain ⟨-, m, e, he, hm, rfl⟩ := hb
  set b : ℚ := m * 2 ^ e with hq
  set u := ulpExp q with hu
  have hpos : (0 : ℚ) < 2 ^ u := by positivity
  -- it is enough to find a multiple of the last bit between the two
  have key : ∀ z : ℤ, b ≤ z * 2 ^ u → (z : ℚ) * 2 ^ u ≤ q → b ≤ nearest q := by
    intro z hz hz'
    have hfloor : z ≤ ⌊q / 2 ^ u⌋ := Int.le_floor.2 ((le_div_iff₀ hpos).2 hz')
    have hround : (z : ℚ) ≤ (roundHalfEven (q / 2 ^ u) : ℚ) := by
      exact_mod_cast hfloor.trans (roundHalfEven_bounds _).1
    exact hz.trans (mul_le_mul_of_nonneg_right hround hpos.le)
  rcases le_or_gt u e with hue | hue
  · -- the representable value itself is a multiple
    obtain ⟨d, hd⟩ := Int.eq_ofNat_of_zero_le (sub_nonneg.2 hue)
    have hmul : ((m * 2 ^ d : ℤ) : ℚ) * 2 ^ u = b := by
      rw [hq, show e = (d : ℤ) + u by omega, zpow_add₀ (by norm_num), zpow_natCast]
      push_cast
      ring
    exact key (m * 2 ^ d) hmul.ge (by rw [hmul]; exact h)
  · rcases h0.eq_or_lt with h0 | h0
    · exact key 0 (by rw [← h0]; simp) (by rw [Int.cast_zero, zero_mul, h0]; exact h)
    -- a power of two lies between the two
    have hlog : Int.log 2 |q| = u + 52 := by
      rw [hu] at hue ⊢
      unfold ulpExp at hue ⊢
      omega
    have habs : |q| = q := abs_of_pos (h0.trans_le h)
    have hlow : (2 : ℚ) ^ (u + 52) ≤ q := by
      have := Int.zpow_log_le_self (b := 2) (by norm_num) (r := |q|) (by rw [habs]; linarith)
      rw [hlog, habs] at this
      exact_mod_cast this
    have hsplit : (2 : ℚ) ^ (u + 52) = ((2 ^ 52 : ℤ) : ℚ) * 2 ^ u := by
      rw [zpow_add₀ (by norm_num), mul_comm]
      norm_num
    refine key (2 ^ 52) ?_ (hsplit ▸ hlow)
    have hm' : (m : ℚ) < 2 ^ (53 : ℤ) := by exact_mod_cast (abs_lt.1 hm).2
    calc b = m * 2 ^ e := hq
      _ ≤ 2 ^ (53 : ℤ) * 2 ^ e := mul_le_mul_of_nonneg_right hm'.le (by positivity)
      _ = 2 ^ (53 + e) := (zpow_add₀ (by norm_num) _ _).symm
      _ ≤ 2 ^ (u + 52) := zpow_le_zpow_right₀ (by norm_num) (by omega)
      _ = ((2 ^ 52 : ℤ) : ℚ) * 2 ^ u := hsplit

/-- A positive value is rounded to a finite number or overflows. -/
theorem ofRat_eq {q : ℚ} (h : 0 < q) :
    (∃ y : Float64, y.val = nearest q ∧ ofRat q = .finite y) ∨ ofRat q = .posInfinity := by
  unfold ofRat
  by_cases hb : |nearest q| < 2 ^ (1024 : ℕ)
  · rw [dif_pos hb]
    exact .inl ⟨⟨nearest q, isFloat64_nearest hb⟩, rfl, rfl⟩
  · rw [dif_neg hb, if_pos h]
    exact .inr rfl

/-! ### Differences -/

/-- The natural numbers up to `2 ^ 53` are representable. -/
theorem isFloat64_natCast {n : ℕ} (h : n ≤ 2 ^ 53) : IsFloat64 (n : ℚ) := by
  rcases h.lt_or_eq with h | rfl
  · have hn : IsFloat64 ((n : ℤ) : ℚ) :=
      isFloat64_intCast (by rw [abs_of_nonneg (by positivity)]; exact_mod_cast h)
    exact_mod_cast hn
  · refine ⟨?_, 2 ^ 52, 1, by norm_num, by norm_num, by norm_num⟩
    rw [Nat.cast_pow, abs_of_nonneg (by positivity)]
    exact pow_lt_pow_right₀ (by norm_num) (by norm_num)

/-- A natural number is taken from a small value exactly. -/
theorem isFloat64_sub_natCast {x : ℚ} {k : ℕ} (hx : IsFloat64 x) (hk : (k : ℚ) ≤ x)
    (hsmall : x < 2 ^ 53) : IsFloat64 (x - k) := by
  obtain ⟨-, m, e, he, hm, rfl⟩ := hx
  rcases le_or_gt e 0 with he0 | he0
  · -- the natural number is a multiple of the last bit
    obtain ⟨d, hd⟩ := Int.eq_ofNat_of_zero_le (neg_nonneg.2 he0)
    have hpos : (0 : ℚ) < 2 ^ e := by positivity
    have hk' : (k : ℚ) = ((k * 2 ^ d : ℤ) : ℚ) * 2 ^ e := by
      have he' : e = -(d : ℤ) := by omega
      rw [he', zpow_neg, zpow_natCast]
      push_cast
      field_simp
    have hle : k * 2 ^ d ≤ m := by
      rw [hk'] at hk
      exact_mod_cast le_of_mul_le_mul_right hk hpos
    have hnonneg : (0 : ℤ) ≤ k * 2 ^ d := by positivity
    refine ⟨?_, m - k * 2 ^ d, e, he, ?_, ?_⟩
    · have hk0 : (0 : ℚ) ≤ k := by positivity
      have hlt : |(m : ℚ) * 2 ^ e - k| < 2 ^ (53 : ℕ) := by
        rw [abs_of_nonneg (by linarith)]
        linarith
      exact hlt.trans (pow_lt_pow_right₀ (by norm_num) (by norm_num))
    · rw [abs_lt] at hm ⊢
      constructor <;> omega
    · rw [hk']
      push_cast
      ring
  · -- both are whole numbers below `2 ^ 53`
    obtain ⟨d, rfl⟩ := Int.eq_ofNat_of_zero_le he0.le
    have hint : (m : ℚ) * 2 ^ (d : ℤ) - k = ((m * 2 ^ d - k : ℤ) : ℚ) := by
      push_cast
      simp
    have hlt : m * 2 ^ d < 2 ^ 53 := by
      rw [zpow_natCast] at hsmall
      exact_mod_cast hsmall
    have hge : (k : ℤ) ≤ m * 2 ^ d := by
      rw [zpow_natCast] at hk
      exact_mod_cast hk
    rw [hint]
    exact isFloat64_intCast (by rw [abs_of_nonneg (by omega)]; omega)

/-- Above a natural number a representable value stays representably above it when another one is
taken from it. -/
theorem exists_isFloat64_between {x : ℚ} {n k : ℕ} (hx : IsFloat64 x) (hnk : n + k < 2 ^ 53)
    (h : ((n + k : ℕ) : ℚ) < x) : ∃ b : ℚ, IsFloat64 b ∧ (n : ℚ) < b ∧ b ≤ x - k := by
  push_cast at h
  rcases lt_or_ge x (2 ^ 53) with hsmall | hlarge
  · have hn : (0 : ℚ) ≤ n := by positivity
    exact ⟨x - k, isFloat64_sub_natCast hx (by linarith) hsmall, by linarith, le_rfl⟩
  · refine ⟨((n + 1 : ℕ) : ℚ), isFloat64_natCast (by omega), by push_cast; linarith, ?_⟩
    have : ((n + 1 + k : ℕ) : ℚ) ≤ ((2 ^ 53 : ℕ) : ℚ) := by exact_mod_cast (by omega)
    push_cast at this ⊢
    linarith

/-- **A difference that is not above a natural number**, for `<` on the rounded difference: what is
taken away is at most `k`, and the sum is a safe integer. -/
theorem le_of_not_lt_ofRat {x : Float64} {q : ℚ} {n k : ℕ} (hnk : n + k < 2 ^ 53)
    (hq : x.val - k ≤ q) (h : (ofNat n).lt (ofRat q) = false) :
    x.val ≤ ((n + k : ℕ) : ℚ) := by
  by_contra hlt
  obtain ⟨b, hb, hnb, hbx⟩ := exists_isFloat64_between x.property hnk (not_le.1 hlt)
  obtain ⟨hn, hne⟩ := ofNat_eq (n := n) (by omega)
  have hb0 : 0 < b := lt_of_le_of_lt (by positivity) hnb
  have hround : b ≤ nearest q := le_nearest hb hb0.le (hbx.trans hq)
  rw [hne] at h
  rcases ofRat_eq (hb0.trans_le (hbx.trans hq)) with ⟨y, hy, he⟩ | he
  · rw [he, finite_lt, hy, decide_eq_false_iff_not] at h
    exact h (hnb.trans_le hround)
  · rw [he] at h
    cases h

/-! ### Adding one -/

/-- Rounding does not bring the successor of a representable value below it. -/
theorem le_nearest_add_one {q : ℚ} (h : IsFloat64 q) (h0 : 0 ≤ q) : q ≤ nearest (q + 1) :=
  le_nearest h h0 (by linarith)

/-- The number is not `NaN` and not negative. -/
def Counts (a : JsNumber) : Prop := a ≠ .nan ∧ (ofNat 0).extended ≤ a.extended

theorem counts_ofNat_zero : (ofNat 0).Counts := by
  obtain ⟨hq, h⟩ := ofNat_eq (n := 0) (by norm_num)
  exact ⟨by rw [h]; simp, le_rfl⟩

theorem extended_ofNat {n : ℕ} (h : n < 2 ^ 53) :
    (ofNat n).extended = (((n : ℚ) : WithTop ℚ) : WithBot (WithTop ℚ)) := by
  obtain ⟨hq, he⟩ := ofNat_eq h
  rw [he]
  rfl

/-- Adding one to a number that is not negative makes it larger, or is lost in the rounding. -/
theorem lt_add_one_or_eq {a : JsNumber} (h : a.Counts) :
    (a.add (.ofNat 1)).Counts ∧ (a.extended < (a.add (.ofNat 1)).extended ∨
      a.add (.ofNat 1) = a) := by
  obtain ⟨hnan, h0⟩ := h
  obtain ⟨h1, hone⟩ := ofNat_eq (n := 1) (by norm_num)
  cases a with
  | nan => exact absurd rfl hnan
  | negInfinity =>
    rw [extended_ofNat (by norm_num)] at h0
    exact absurd h0 (by simp [extended])
  | posInfinity =>
    rw [hone]
    exact ⟨⟨hnan, h0⟩, .inr rfl⟩
  | finite x =>
    rw [extended_ofNat (by norm_num)] at h0
    have hx0 : 0 ≤ x.val := by simpa [extended, WithBot.coe_le_coe, WithTop.coe_le_coe] using h0
    have hle := le_nearest_add_one x.property hx0
    have hadd : (finite x).add (ofNat 1) = ofRat (x.val + 1) := by
      rw [hone]
      exact congrArg (fun q => ofRat (x.val + q)) Nat.cast_one
    rw [hadd]
    rcases ofRat_eq (add_pos_of_nonneg_of_pos hx0 one_pos) with ⟨y, hy, he⟩ | he
    · rw [← hy] at hle
      rw [he, Counts, extended_ofNat (by norm_num)]
      simp only [extended, WithBot.coe_le_coe, WithTop.coe_le_coe, WithBot.coe_lt_coe,
        WithTop.coe_lt_coe, Nat.cast_zero, finite.injEq, ← Subtype.val_inj]
      exact ⟨⟨finite_ne_nan _, hx0.trans hle⟩, hle.lt_or_eq.imp_right Eq.symm⟩
    · rw [he, Counts, extended_ofNat (by norm_num)]
      refine ⟨⟨by simp, ?_⟩, .inl ?_⟩
      · exact WithBot.coe_le_coe.2 le_top
      · exact WithBot.coe_lt_coe.2 (WithTop.coe_lt_top _)

/-! ### Reaching one -/

theorem intCast_le_roundHalfEven {x : ℚ} {n : ℤ} (h : (n : ℚ) - 1 / 2 < x) :
    n ≤ roundHalfEven x := by
  rcases le_or_gt n ⌊x⌋ with hn | hn
  · exact hn.trans (roundHalfEven_bounds x).1
  -- the floor is the predecessor, and the rest is over a half
  · have hfloor : ⌊x⌋ = n - 1 := by
      have : n - 1 ≤ ⌊x⌋ := Int.le_floor.2 (by push_cast; linarith)
      omega
    have hrest : 1 / 2 < x - (⌊x⌋ : ℚ) := by rw [hfloor]; push_cast; linarith
    rw [roundHalfEven, if_neg hrest.not_gt, if_pos hrest]
    omega

theorem roundHalfEven_le_intCast {x : ℚ} {n : ℤ} (h : x < (n : ℚ) + 1 / 2) :
    roundHalfEven x ≤ n := by
  have hfloor : ⌊x⌋ ≤ n := by
    have : ⌊x⌋ < n + 1 := Int.floor_lt.2 (by push_cast; linarith)
    omega
  rcases lt_or_eq_of_le hfloor with hn | hn
  · exact (roundHalfEven_bounds x).2.trans hn
  · have hrest : x - (⌊x⌋ : ℚ) < 1 / 2 := by rw [hn]; linarith
    rw [roundHalfEven, if_pos hrest, hn]

theorem nearest_nonpos {q : ℚ} (h : q ≤ 0) : nearest q ≤ 0 := by
  have hpos : (0 : ℚ) < 2 ^ ulpExp q := by positivity
  have hx : q / 2 ^ ulpExp q ≤ 0 := div_nonpos_of_nonpos_of_nonneg h hpos.le
  have : roundHalfEven (q / 2 ^ ulpExp q) ≤ 0 :=
    roundHalfEven_le_intCast (by push_cast; linarith)
  exact mul_nonpos_of_nonpos_of_nonneg (by exact_mod_cast this) hpos.le

theorem nearest_nonneg {q : ℚ} (h : 0 ≤ q) : 0 ≤ nearest q := by
  have hpos : (0 : ℚ) < 2 ^ ulpExp q := by positivity
  have hfloor : 0 ≤ ⌊q / 2 ^ ulpExp q⌋ := Int.floor_nonneg.2 (div_nonneg h hpos.le)
  exact mul_nonneg (by exact_mod_cast hfloor.trans (roundHalfEven_bounds _).1) hpos.le

/-- The exponent of a value between a half and one. -/
theorem ulpExp_of_half {q : ℚ} (h : 1 / 2 ≤ q) (h1 : q < 1) : ulpExp q = -53 := by
  have hlog : Int.log 2 |q| = -1 := by
    rw [abs_of_pos (by linarith)]
    have hge := (Int.zpow_le_iff_le_log (b := 2) (x := -1) (by norm_num) (r := q)
      (by linarith)).1 (by norm_num; linarith)
    have hlt := (Int.lt_zpow_iff_log_lt (b := 2) (x := 0) (by norm_num) (r := q)
      (by linarith)).1 (by norm_num; linarith)
    omega
  rw [ulpExp, hlog]
  norm_num

/-- A value rounds to one or more from half a unit in the last place below one. -/
theorem one_le_nearest_iff {q : ℚ} : 1 ≤ nearest q ↔ 1 - 1 / 2 ^ 54 ≤ q := by
  have hpos : (0 : ℚ) < 2 ^ ulpExp q := by positivity
  rcases le_or_gt q 0 with h0 | h0
  · refine iff_of_false (by linarith [nearest_nonpos h0]) (by norm_num; linarith)
  rcases le_or_gt 1 q with h1 | h1
  · refine iff_of_true ?_ (by norm_num; linarith)
    have habs : |q| = q := abs_of_pos h0
    have hlog : 0 ≤ Int.log 2 |q| := by
      rw [habs]
      exact (Int.zpow_le_iff_le_log (b := 2) (x := 0) (by norm_num) h0).1 (by simpa using h1)
    have hu : Int.log 2 |q| = 52 + ulpExp q := by unfold ulpExp; omega
    -- the power of two below the value is a multiple of the last bit
    have hlow : ((2 ^ 52 : ℤ) : ℚ) * 2 ^ ulpExp q ≤ q := by
      have := Int.zpow_log_le_self (b := 2) (by norm_num) (r := |q|) (by rwa [habs])
      rw [hu, habs, Nat.cast_ofNat, zpow_add₀ (by norm_num)] at this
      exact_mod_cast this
    have hround : (2 ^ 52 : ℤ) ≤ roundHalfEven (q / 2 ^ ulpExp q) :=
      (Int.le_floor.2 ((le_div_iff₀ hpos).2 hlow)).trans (roundHalfEven_bounds _).1
    calc (1 : ℚ) ≤ 2 ^ (52 + ulpExp q) := one_le_zpow₀ (by norm_num) (by omega)
      _ = ((2 ^ 52 : ℤ) : ℚ) * 2 ^ ulpExp q := by rw [zpow_add₀ (by norm_num)]; norm_num
      _ ≤ nearest q := mul_le_mul_of_nonneg_right (by exact_mod_cast hround) hpos.le
  rcases lt_or_ge q (1 / 2) with hhalf | hhalf
  · -- rounding does not pass the next power of two
    refine iff_of_false ?_ (by norm_num; linarith)
    have hlog : Int.log 2 |q| < -1 := by
      rw [abs_of_pos h0]
      exact (Int.lt_zpow_iff_log_lt (b := 2) (x := -1) (by norm_num) h0).1 (by norm_num; linarith)
    have hround : roundHalfEven (q / 2 ^ ulpExp q) ≤ 2 ^ 53 :=
      (abs_le.1 (abs_roundHalfEven_le (abs_div_ulp_lt q))).2
    have : nearest q ≤ 1 / 2 := by
      calc nearest q ≤ ((2 ^ 53 : ℤ) : ℚ) * 2 ^ ulpExp q :=
            mul_le_mul_of_nonneg_right (by exact_mod_cast hround) hpos.le
        _ = 2 ^ (53 + ulpExp q) := by rw [zpow_add₀ (by norm_num)]; norm_num
        _ ≤ 2 ^ (-1 : ℤ) := zpow_le_zpow_right₀ (by norm_num) (by unfold ulpExp; omega)
        _ = 1 / 2 := by norm_num
    linarith
  · -- between a half and one the last bit is fixed
    have hone : (1 : ℚ) = ((2 ^ 53 : ℤ) : ℚ) * 2 ^ (-53 : ℤ) := by norm_num
    have hle : 1 ≤ nearest q ↔ 2 ^ 53 ≤ roundHalfEven (q * 2 ^ 53) := by
      rw [nearest, ulpExp_of_half hhalf h1, div_eq_mul_inv, ← zpow_neg, neg_neg]
      conv_lhs => lhs; rw [hone]
      rw [mul_le_mul_iff_of_pos_right (by positivity), Int.cast_le]
      norm_cast
    rw [hle]
    constructor
    · intro h
      by_contra hlt
      have : roundHalfEven (q * 2 ^ 53) ≤ 2 ^ 53 - 1 :=
        roundHalfEven_le_intCast (by push_cast; norm_num at hlt ⊢; linarith)
      omega
    · intro h
      rcases lt_or_eq_of_le h with hlt | rfl
      · exact intCast_le_roundHalfEven (by push_cast; norm_num at hlt ⊢; linarith)
      · -- a tie: the even neighbour is one
        decide +kernel

theorem ofRat_lt_one (q : ℚ) : (ofRat q).lt (.ofNat 1) = decide (q < 1 - 1 / 2 ^ 54) := by
  obtain ⟨h1, hone⟩ := ofNat_eq (n := 1) (by norm_num)
  have hiff : (ofRat q).lt (.ofNat 1) = true ↔ nearest q < 1 := by
    rw [hone]
    unfold ofRat
    split_ifs with hfin hpos
    · rw [finite_lt, decide_eq_true_eq]
      exact iff_of_eq (congrArg (nearest q < ·) Nat.cast_one)
    · refine iff_of_false Bool.false_ne_true fun hlt => hfin ?_
      rw [abs_of_nonneg (nearest_nonneg hpos.le)]
      exact hlt.trans_le (one_le_pow₀ (by norm_num))
    · exact iff_of_true rfl ((nearest_nonpos (not_lt.1 hpos)).trans_lt one_pos)
  rw [Bool.eq_iff_iff, hiff, decide_eq_true_eq, ← not_le, one_le_nearest_iff, not_le]

theorem isFloat64_neg_half_ulp : IsFloat64 (-(1 / 2 ^ 54)) := by
  refine ⟨?_, -1, -54, by norm_num, by norm_num, by norm_num⟩
  rw [abs_neg, abs_of_pos (by norm_num)]
  exact lt_of_lt_of_le (by norm_num) (one_le_pow₀ (by norm_num : (1 : ℚ) ≤ 2))

/-- **One more than a number is below one just in case the number is below half a unit in the
last place under zero.** -/
theorem add_one_lt_one (a : JsNumber) :
    (a.add (.ofNat 1)).lt (.ofNat 1) = a.lt (.ofRat (-(1 / 2 ^ 54))) := by
  obtain ⟨h1, hone⟩ := ofNat_eq (n := 1) (by norm_num)
  rw [ofRat_of_isFloat64 isFloat64_neg_half_ulp]
  cases a with
  | nan => rfl
  | negInfinity => rw [hone]; rfl
  | posInfinity => rw [hone]; rfl
  | finite x =>
    have hadd : (finite x).add (.ofNat 1) = ofRat (x.val + 1) := by
      rw [hone]
      exact congrArg (fun q => ofRat (x.val + q)) Nat.cast_one
    rw [hadd, ofRat_lt_one, finite_lt]
    refine decide_eq_decide.2 ⟨fun h => ?_, fun h => ?_⟩ <;> linarith

theorem add_one_eq_nan {a : JsNumber} : a.add (.ofNat 1) = .nan ↔ a = .nan := by
  obtain ⟨h1, hone⟩ := ofNat_eq (n := 1) (by norm_num)
  rw [hone]
  cases a with
  | finite x =>
    refine iff_of_false (fun h => ?_) (finite_ne_nan x)
    rw [finite_add, ofRat] at h
    split_ifs at h
  | _ => simp [add]

/-- One more than a number that has reached one has reached it as well. -/
theorem add_one_ge_one {a : JsNumber} (h : a.ge (.ofNat 1) = true) :
    (a.add (.ofNat 1)).ge (.ofNat 1) = true := by
  obtain ⟨h1, hone⟩ := ofNat_eq (n := 1) (by norm_num)
  simp only [ge, Bool.and_eq_true, decide_eq_true_eq, Bool.not_eq_true', ne_eq, add_one_eq_nan,
    add_one_lt_one] at h ⊢
  refine ⟨h.1, ?_⟩
  have hlt := h.2
  rw [hone] at hlt
  rw [ofRat_of_isFloat64 isFloat64_neg_half_ulp]
  cases a with
  | finite x =>
    rw [finite_lt, decide_eq_false_iff_not, not_lt] at hlt ⊢
    exact le_trans (by norm_num) (le_trans (le_of_eq Nat.cast_one.symm) hlt)
  | negInfinity => exact absurd hlt (by simp [lt])
  | posInfinity => rfl
  | nan => rfl

end JsNumber

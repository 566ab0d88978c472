import Hardess.Lib.JsonRoundTrip

/-!
# UTF-8

The bytes of a string, as `TextEncoder` and the functions of Node that take text make them.

* `JsString.utf8`: lone surrogates become U+FFFD;
* `JsString.utf8_injOn`: strings without them are told apart by their bytes;
* `Json.wellFormed_quote`: `JSON.stringify` writes strings without them.
-/

namespace JsString

/-! ### Characters -/

/-- The character of a unit that does not belong to a pair. -/
def charOfUnit (u : UInt16) : Char :=
  if isHigh u || isLow u then Char.ofNat 0xFFFD else Char.ofNat u.toNat

/-- The character of a surrogate pair. -/
def charOfPair (high low : UInt16) : Char :=
  Char.ofNat (0x10000 + (high.toNat - 0xD800) * 0x400 + (low.toNat - 0xDC00))

/-- The characters of a string. -/
def toChars : JsString → List Char
  | [] => []
  | [u] => [charOfUnit u]
  | u :: v :: us =>
    if isHigh u && isLow v then charOfPair u v :: toChars us else charOfUnit u :: toChars (v :: us)

/-- The UTF-8 encoding of a string. -/
def utf8 (s : JsString) : List UInt8 := (toChars s).flatMap String.utf8EncodeChar

/-- The string has no lone surrogates. -/
def WellFormed (s : JsString) : Prop := ∃ cs : List Char, s = cs.flatMap ofChar

theorem wellFormed_js (s : String) : WellFormed (js s) := ⟨s.toList, rfl⟩

theorem wellFormed_nil : WellFormed [] := ⟨[], rfl⟩

theorem WellFormed.append {s t : JsString} (hs : WellFormed s) (ht : WellFormed t) :
    WellFormed (s ++ t) := by
  obtain ⟨cs, rfl⟩ := hs
  obtain ⟨ds, rfl⟩ := ht
  exact ⟨cs ++ ds, List.flatMap_append.symm⟩

theorem toNat_charOfNat {n : ℕ} (h : n.isValidChar) : (Char.ofNat n).toNat = n := by
  rw [Char.ofNat, dif_pos h]
  rfl

/-- A unit that is not a surrogate is the character with its number. -/
theorem ofChar_charOfNat {u : UInt16} (hhigh : isHigh u = false) (hlow : isLow u = false) :
    ofChar (Char.ofNat u.toNat) = [u] := by
  have hlt : u.toNat < 65536 := u.toNat_lt
  have hvalid : u.toNat.isValidChar := by
    simp only [isHigh, isLow, Bool.and_eq_false_iff, decide_eq_false_iff_not] at hhigh hlow
    unfold Nat.isValidChar
    omega
  rw [ofChar, toNat_charOfNat hvalid, if_pos (by omega), UInt16.ofNat_toNat]

theorem wellFormed_singleton {u : UInt16} (hhigh : isHigh u = false) (hlow : isLow u = false) :
    WellFormed [u] :=
  ⟨[Char.ofNat u.toNat], by simp [ofChar_charOfNat hhigh hlow]⟩

theorem wellFormed_of_ascii {s : JsString} (h : ∀ u ∈ s, u.toNat < 0x80) : WellFormed s := by
  induction s with
  | nil => exact wellFormed_nil
  | cons u s ih =>
    obtain ⟨hu, hs⟩ := List.forall_mem_cons.1 h
    have hhigh : isHigh u = false := by
      simp only [isHigh, Bool.and_eq_false_iff, decide_eq_false_iff_not]
      omega
    have hlow : isLow u = false := by
      simp only [isLow, Bool.and_eq_false_iff, decide_eq_false_iff_not]
      omega
    exact (wellFormed_singleton hhigh hlow).append (ih hs)

/-- A pair is a character above the basic plane. -/
theorem ofChar_charOfPair {u v : UInt16} (hu : isHigh u = true) (hv : isLow v = true) :
    ofChar (charOfPair u v) = [u, v] := by
  simp only [isHigh, isLow, Bool.and_eq_true, decide_eq_true_eq] at hu hv
  have hvalid : (0x10000 + (u.toNat - 0xD800) * 0x400 + (v.toNat - 0xDC00)).isValidChar := by
    unfold Nat.isValidChar
    omega
  have hhigh : 0xD800 + (0x10000 + (u.toNat - 0xD800) * 0x400 + (v.toNat - 0xDC00) - 0x10000) /
      0x400 = u.toNat := by omega
  have hlow : 0xDC00 + (0x10000 + (u.toNat - 0xD800) * 0x400 + (v.toNat - 0xDC00) - 0x10000) %
      0x400 = v.toNat := by omega
  rw [ofChar, charOfPair, toNat_charOfNat hvalid, if_neg (by omega), hhigh, hlow,
    UInt16.ofNat_toNat, UInt16.ofNat_toNat]

theorem wellFormed_pair {u v : UInt16} (hu : isHigh u = true) (hv : isLow v = true) :
    WellFormed [u, v] :=
  ⟨[charOfPair u v], by simp [ofChar_charOfPair hu hv]⟩

theorem toChars_cons {u : UInt16} (h : isHigh u = false) (us : JsString) :
    toChars (u :: us) = charOfUnit u :: toChars us := by
  cases us with
  | nil => rfl
  | cons v us => rw [toChars, h, Bool.false_and, if_neg Bool.false_ne_true]

/-- The first character is read off. -/
theorem toChars_ofChar_append (c : Char) (us : JsString) :
    toChars (ofChar c ++ us) = c :: toChars us := by
  -- a character is no surrogate, so that a single unit is none either
  have hvalid : c.toNat < 0xD800 ∨ (0xDFFF < c.toNat ∧ c.toNat < 0x110000) := c.valid
  unfold ofChar
  split_ifs with hsmall
  · have hnat : (UInt16.ofNat c.toNat).toNat = c.toNat := by
      rw [UInt16.toNat_ofNat']
      omega
    have hhigh : isHigh (UInt16.ofNat c.toNat) = false := by
      simp only [isHigh, hnat, Bool.and_eq_false_iff, decide_eq_false_iff_not]
      omega
    have hlow : isLow (UInt16.ofNat c.toNat) = false := by
      simp only [isLow, hnat, Bool.and_eq_false_iff, decide_eq_false_iff_not]
      omega
    rw [List.singleton_append, toChars_cons hhigh, charOfUnit, hhigh, hlow, hnat]
    simp
  · have hhighNat : (UInt16.ofNat (0xD800 + (c.toNat - 0x10000) / 0x400)).toNat =
        0xD800 + (c.toNat - 0x10000) / 0x400 := by
      rw [UInt16.toNat_ofNat']
      omega
    have hlowNat : (UInt16.ofNat (0xDC00 + (c.toNat - 0x10000) % 0x400)).toNat =
        0xDC00 + (c.toNat - 0x10000) % 0x400 := by
      rw [UInt16.toNat_ofNat']
      omega
    have hhigh : isHigh (UInt16.ofNat (0xD800 + (c.toNat - 0x10000) / 0x400)) = true := by
      simp only [isHigh, hhighNat, Bool.and_eq_true, decide_eq_true_eq]
      omega
    have hlow : isLow (UInt16.ofNat (0xDC00 + (c.toNat - 0x10000) % 0x400)) = true := by
      simp only [isLow, hlowNat, Bool.and_eq_true, decide_eq_true_eq]
      omega
    have hsum : 0x10000 + (0xD800 + (c.toNat - 0x10000) / 0x400 - 0xD800) * 0x400 +
        (0xDC00 + (c.toNat - 0x10000) % 0x400 - 0xDC00) = c.toNat := by omega
    rw [List.cons_append, List.singleton_append, toChars, hhigh, hlow, Bool.and_self, if_pos rfl,
      charOfPair, hhighNat, hlowNat, hsum, Char.ofNat_toNat]

theorem toChars_flatMap_ofChar (cs : List Char) : toChars (cs.flatMap ofChar) = cs := by
  induction cs with
  | nil => rfl
  | cons c cs ih => rw [List.flatMap_cons, toChars_ofChar_append, ih]

/-- **Strings without lone surrogates are told apart by their bytes.** -/
theorem utf8_injOn : Set.InjOn utf8 {s | WellFormed s} := by
  rintro _ ⟨cs, rfl⟩ _ ⟨ds, rfl⟩ h
  unfold utf8 at h
  rw [toChars_flatMap_ofChar, toChars_flatMap_ofChar] at h
  have hbytes : cs.utf8Encode = ds.utf8Encode := by
    rw [List.utf8Encode, List.utf8Encode, h]
  rw [← String.toByteArray_ofList, ← String.toByteArray_ofList, String.toByteArray_inj,
    String.ofList_inj] at hbytes
  rw [hbytes]

end JsString

namespace Json

open JsString (WellFormed isHigh isLow)

/-! ### What is written -/

theorem hexUnit_lt {n : ℕ} (h : n < 16) : (hexUnit n).toNat < 0x80 := by
  rw [hexUnit, UInt16.toNat_ofNat']
  split_ifs <;> omega

theorem wellFormed_escapeUnit (u : UInt16) : WellFormed (escapeUnit u) := by
  have hlt : u.toNat < 65536 := u.toNat_lt
  refine JsString.wellFormed_of_ascii ?_
  simp only [escapeUnit, List.forall_mem_cons, List.not_mem_nil, false_implies, implies_true,
    and_true]
  exact ⟨by decide, by decide, hexUnit_lt (by omega), hexUnit_lt (by omega), hexUnit_lt (by omega),
    hexUnit_lt (by omega)⟩

theorem shortEscape_cases {u : UInt16} :
    shortEscape u = none ∨ u.toNat < 0x80 ∧ ∃ e, shortEscape u = some e ∧ e.toNat < 0x80 := by
  unfold shortEscape
  split_ifs with h₁ h₂ h₃ h₄ h₅ h₆ h₇
  all_goals first
    | exact .inl rfl
    | exact .inr ⟨by subst_vars; decide, _, rfl, by decide⟩

/-- A surrogate of a pair is written as it is. -/
theorem quoteUnit_true {u : UInt16} (h : isHigh u = true ∨ isLow u = true) :
    quoteUnit u true = [u] := by
  have hge : 0xD800 ≤ u.toNat := by
    simp only [isHigh, isLow, Bool.and_eq_true, decide_eq_true_eq] at h
    omega
  obtain hnone | ⟨hlt, -⟩ := @shortEscape_cases u
  · simp only [quoteUnit, hnone]
    rw [if_neg (by omega), Bool.not_true, Bool.and_false, if_neg Bool.false_ne_true]
  · omega

theorem wellFormed_quoteUnit (u : UInt16) : WellFormed (quoteUnit u false) := by
  obtain hnone | ⟨-, e, he, hlt⟩ := @shortEscape_cases u
  · simp only [quoteUnit, hnone, Bool.not_false, Bool.and_true]
    split_ifs with hsmall hsurrogate
    · exact wellFormed_escapeUnit u
    · exact wellFormed_escapeUnit u
    · rw [Bool.or_eq_true, not_or, Bool.not_eq_true, Bool.not_eq_true] at hsurrogate
      exact JsString.wellFormed_singleton hsurrogate.1 hsurrogate.2
  · simp only [quoteUnit, he]
    refine JsString.wellFormed_of_ascii ?_
    simp only [List.forall_mem_cons, List.not_mem_nil, false_implies, implies_true, and_true]
    exact ⟨by decide, hlt⟩

/-- What is written of a string has its pairs and no other surrogates; after the first half of a
pair it goes on with the second. -/
theorem wellFormed_quoteUnits (us : JsString) :
    WellFormed (quoteUnits false us) ∧
      (us.head?.any isLow = true →
        ∃ v t, isLow v = true ∧ quoteUnits true us = v :: t ∧ WellFormed t) := by
  induction us with
  | nil =>
    have hquote : WellFormed [unit '"'] := JsString.wellFormed_singleton (by decide) (by decide)
    exact ⟨hquote, fun h => by cases h⟩
  | cons u us ih =>
    obtain ⟨ih, ihLow⟩ := ih
    constructor
    · rw [quoteUnits]
      simp only [Bool.not_false, Bool.true_and, Bool.false_or]
      cases hpair : isHigh u && us.head?.any isLow with
      | false => exact (wellFormed_quoteUnit u).append ih
      | true =>
        rw [Bool.and_eq_true] at hpair
        obtain ⟨v, t, hv, hquote, ht⟩ := ihLow hpair.2
        rw [quoteUnit_true (.inl hpair.1), hquote]
        exact (JsString.wellFormed_pair hpair.1 hv).append ht
    · intro hu
      refine ⟨u, quoteUnits false us, hu, ?_, ih⟩
      rw [quoteUnits, Bool.true_or, quoteUnit_true (.inr hu)]
      rfl

theorem wellFormed_quote (s : JsString) : WellFormed (quote s) := by
  have hquote : WellFormed [unit '"'] := JsString.wellFormed_singleton (by decide) (by decide)
  exact hquote.append (wellFormed_quoteUnits s).1

/-- **An array of strings is written without lone surrogates.** -/
theorem wellFormed_stringify_strings (ss : List JsString) :
    WellFormed (stringify (.arr (ss.map .str))) := by
  have hclose : WellFormed [unit ']'] := JsString.wellFormed_singleton (by decide) (by decide)
  have hopen : WellFormed [unit '['] := JsString.wellFormed_singleton (by decide) (by decide)
  have hcomma : WellFormed [unit ','] := JsString.wellFormed_singleton (by decide) (by decide)
  have htail : ∀ ss : List JsString, WellFormed (stringify.elemsTail (ss.map .str)) := by
    intro ss
    induction ss with
    | nil => exact hclose
    | cons s ss ih => exact hcomma.append ((wellFormed_quote s).append ih)
  cases ss with
  | nil => exact JsString.wellFormed_js "[]"
  | cons s ss => exact hopen.append ((wellFormed_quote s).append (htail ss))

end Json

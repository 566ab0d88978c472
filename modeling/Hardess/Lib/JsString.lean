import Mathlib.Tactic

/-!
# JavaScript strings

A string of the language is a sequence of UTF-16 code units, lone surrogates
included. `js "…"` is the string of a literal (`js_injective`).
-/

/-- A string: its UTF-16 code units. -/
abbrev JsString := List UInt16

instance : LawfulBEq JsString := inferInstance

namespace JsString

/-- The code units of a code point. -/
def ofChar (c : Char) : JsString :=
  if c.toNat < 0x10000 then [UInt16.ofNat c.toNat]
  else [UInt16.ofNat (0xD800 + (c.toNat - 0x10000) / 0x400),
    UInt16.ofNat (0xDC00 + (c.toNat - 0x10000) % 0x400)]

/-- A leading surrogate. -/
def isHigh (u : UInt16) : Bool := 0xD800 ≤ u.toNat && u.toNat < 0xDC00

/-- A trailing surrogate. -/
def isLow (u : UInt16) : Bool := 0xDC00 ≤ u.toNat && u.toNat < 0xE000

theorem ofChar_ne_nil (c : Char) : ofChar c ≠ [] := by
  unfold ofChar
  split_ifs <;> simp

theorem uInt16_ofNat_inj {a b : ℕ} (ha : a < 2 ^ 16) (hb : b < 2 ^ 16)
    (h : UInt16.ofNat a = UInt16.ofNat b) : a = b := by
  have h' := congrArg UInt16.toNat h
  rwa [UInt16.toNat_ofNat', UInt16.toNat_ofNat', Nat.mod_eq_of_lt ha, Nat.mod_eq_of_lt hb] at h'

/-- The first code point of a string can be read off: a single unit is not a surrogate. -/
theorem ofChar_append_inj {c d : Char} {us vs : JsString}
    (h : ofChar c ++ us = ofChar d ++ vs) : c = d ∧ us = vs := by
  have range : ∀ a : Char, a.toNat < 0xD800 ∨ (0xDFFF < a.toNat ∧ a.toNat < 0x110000) :=
    fun a => a.valid
  have hc := range c
  have hd := range d
  unfold ofChar at h
  split_ifs at h with h1 h2 h2
  all_goals simp only [List.cons_append, List.nil_append, List.cons.injEq] at h
  · exact ⟨Char.toNat_inj.1 (uInt16_ofNat_inj (by omega) (by omega) h.1), h.2⟩
  · have := uInt16_ofNat_inj (by omega) (by omega) h.1
    omega
  · have := uInt16_ofNat_inj (by omega) (by omega) h.1
    omega
  · have hhi := uInt16_ofNat_inj (by omega) (by omega) h.1
    have hlo := uInt16_ofNat_inj (by omega) (by omega) h.2.1
    exact ⟨Char.toNat_inj.1 (by omega), h.2.2⟩

end JsString

/-- The string of a literal. -/
def js (s : String) : JsString := s.toList.flatMap JsString.ofChar

/-- Distinct literals are distinct strings. -/
theorem js_injective : Function.Injective js := by
  intro s t h
  refine String.toList_inj.1 ?_
  unfold js at h
  generalize s.toList = cs at h ⊢
  generalize t.toList = ds at h ⊢
  induction cs generalizing ds with
  | nil =>
    cases ds with
    | nil => rfl
    | cons d ds => simp [JsString.ofChar_ne_nil] at h
  | cons c cs ih =>
    cases ds with
    | nil => simp [JsString.ofChar_ne_nil] at h
    | cons d ds =>
      rw [List.flatMap_cons, List.flatMap_cons] at h
      obtain ⟨hcd, htail⟩ := JsString.ofChar_append_inj h
      rw [hcd, ih ds htail]

@[simp] theorem js_inj {s t : String} : js s = js t ↔ s = t := js_injective.eq_iff

@[simp] theorem js_eq_nil {s : String} : js s = [] ↔ s = "" := js_inj (t := "")

/-- The code unit of an ASCII character. -/
def unit (c : Char) : UInt16 := UInt16.ofNat c.toNat

example : js "hello" = [104, 101, 108, 108, 111] := by decide

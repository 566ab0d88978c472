import Hardess.Lib.JsonParse

/-!
# `decodeURIComponent`

The texts that it takes are those that `UriEncoded` derives: units other than `%`, and characters
that have the octets of their UTF-8 encoding spelled out in hexadecimal.

* `decodeURIComponent`, after `Decode` of the language;
* **`decodeURIComponent_eq_some_iff`**: it decodes exactly what `UriEncoded` derives.
-/

namespace Uri

/-! ### Decoding -/

/-- Reads a percent sign and an octet (`ParseHexOctet`). -/
def readOctet : JsString → Option (UInt8 × JsString)
  | percent :: high :: low :: rest =>
    if percent = unit '%' then do
      let high ← Json.hexVal high
      let low ← Json.hexVal low
      some (UInt8.ofNat (16 * high + low), rest)
    else none
  | _ => none

/-- Reads a number of octets. -/
def readOctets : ℕ → JsString → Option (List UInt8 × JsString)
  | 0, text => some ([], text)
  | n + 1, text => do
    let (octet, text) ← readOctet text
    let (octets, text) ← readOctets n text
    some (octet :: octets, text)

/-- The leading 1 bits of an octet; more than four are not told apart. -/
def leadingOnes (octet : UInt8) : ℕ :=
  let b := octet.toNat
  if b < 0x80 then 0
  else if b < 0xC0 then 1
  else if b < 0xE0 then 2
  else if b < 0xF0 then 3
  else if b < 0xF8 then 4
  else 5

/-- The character that has the octets as its UTF-8 encoding. -/
def charOf? (octets : List UInt8) : Option Char :=
  (octets.toByteArray.utf8DecodeChar? 0).filter fun c => String.utf8EncodeChar c = octets

/-- Decodes what a text starts with, and gives the rest of the text. -/
def decodeNext : JsString → Option (JsString × JsString)
  | [] => none
  | u :: text =>
    if u = unit '%' then do
      let (octet, rest) ← readOctet (u :: text)
      let n := leadingOnes octet
      if n = 0 then some ([UInt16.ofNat octet.toNat], rest)
      else if n = 1 ∨ 4 < n then none
      else do
        let (octets, rest) ← readOctets (n - 1) rest
        let c ← charOf? (octet :: octets)
        some (JsString.ofChar c, rest)
    else some ([u], text)

/-- Decodes a text that has at most `fuel` units. -/
def decode : ℕ → JsString → Option JsString
  | _, [] => some []
  | 0, _ => none
  | fuel + 1, text => do
    let (decoded, rest) ← decodeNext text
    let decodedRest ← decode fuel rest
    some (decoded ++ decodedRest)

/-- `decodeURIComponent`, none for a `URIError`. -/
def decodeURIComponent (text : JsString) : Option JsString := decode text.length text

/-! ### Encoded texts -/

/-- The octets, each as a percent sign and two hexadecimal digits. -/
inductive Spells : List UInt8 → JsString → Prop
  | nil : Spells [] []
  | cons {high low : UInt16} {h l : ℕ} {octets : List UInt8} {text : JsString} :
    Json.hexVal high = some h → Json.hexVal low = some l → Spells octets text →
      Spells (UInt8.ofNat (16 * h + l) :: octets) (unit '%' :: high :: low :: text)

/-- A text that stands for another. -/
inductive UriEncoded : JsString → JsString → Prop
  | nil : UriEncoded [] []
  | plain {u : UInt16} {text decoded : JsString} : u ≠ unit '%' → UriEncoded text decoded →
      UriEncoded (u :: text) (u :: decoded)
  | char {c : Char} {spelled text decoded : JsString} : Spells (String.utf8EncodeChar c) spelled →
      UriEncoded text decoded → UriEncoded (spelled ++ text) (JsString.ofChar c ++ decoded)

/-! ### What is read -/

variable {octet : UInt8} {octets : List UInt8} {text rest decoded : JsString}

theorem readOctet_eq_some_iff :
    readOctet text = some (octet, rest) ↔
      ∃ spelled, Spells [octet] spelled ∧ text = spelled ++ rest := by
  constructor
  · intro h
    unfold readOctet at h
    split at h
    · rename_i percent high low rest'
      split_ifs at h with hpercent
      simp only [Option.bind_eq_bind, Option.bind_eq_some_iff, Option.some.injEq,
        Prod.mk.injEq] at h
      obtain ⟨a, ha, b, hb, rfl, rfl⟩ := h
      exact ⟨_, .cons ha hb .nil, by rw [hpercent]; rfl⟩
    · cases h
  · rintro ⟨spelled, hspelled, rfl⟩
    cases hspelled with
    | cons ha hb hnil =>
      cases hnil
      simp [readOctet, ha, hb]

theorem Spells.append {first second : List UInt8} {x y : JsString} (hx : Spells first x)
    (hy : Spells second y) : Spells (first ++ second) (x ++ y) := by
  induction hx with
  | nil => exact hy
  | cons ha hb _ ih => exact .cons ha hb ih

theorem readOctets_eq_some_iff {n : ℕ} :
    readOctets n text = some (octets, rest) ↔
      octets.length = n ∧ ∃ spelled, Spells octets spelled ∧ text = spelled ++ rest := by
  induction n generalizing text octets with
  | zero =>
    rw [readOctets, Option.some.injEq, Prod.mk.injEq]
    constructor
    · rintro ⟨rfl, rfl⟩
      exact ⟨rfl, [], .nil, rfl⟩
    · rintro ⟨hlength, spelled, hspelled, rfl⟩
      obtain rfl := List.length_eq_zero_iff.1 hlength
      cases hspelled
      exact ⟨rfl, rfl⟩
  | succ n ih =>
    constructor
    · intro h
      simp only [readOctets, Option.bind_eq_bind, Option.bind_eq_some_iff, Prod.exists,
        Option.some.injEq, Prod.mk.injEq] at h
      obtain ⟨first, mid, hfirst, more, _, hmore, rfl, rfl⟩ := h
      obtain ⟨x, hx, rfl⟩ := readOctet_eq_some_iff.1 hfirst
      obtain ⟨hlength, y, hy, rfl⟩ := ih.1 hmore
      exact ⟨by rw [List.length_cons, hlength], x ++ y, hx.append hy, by simp⟩
    · rintro ⟨hlength, spelled, hspelled, rfl⟩
      cases hspelled with
      | nil => cases hlength
      | @cons high low h l more y ha hb hmore =>
        have hfirst : readOctet (unit '%' :: high :: low :: (y ++ rest)) =
            some (UInt8.ofNat (16 * h + l), y ++ rest) :=
          readOctet_eq_some_iff.2 ⟨_, .cons ha hb .nil, rfl⟩
        have hrest : readOctets n (y ++ rest) = some (more, rest) :=
          ih.2 ⟨by simpa using hlength, y, hmore, rfl⟩
        simp [readOctets, hfirst, hrest]

theorem charOf?_eq_some_iff {c : Char} :
    charOf? octets = some c ↔ String.utf8EncodeChar c = octets := by
  rw [charOf?, Option.filter_eq_some_iff, decide_eq_true_iff]
  refine and_iff_right_of_imp ?_
  rintro rfl
  have h := ByteArray.utf8DecodeChar?_utf8EncodeChar_append (b := ByteArray.empty) (c := c)
  simpa using h

/-- The first octet of a character says how many there are. -/
theorem leadingOnes_utf8EncodeChar {c : Char} (h : String.utf8EncodeChar c = octet :: octets) :
    leadingOnes octet = 0 ∧ octets = [] ∧ JsString.ofChar c = [UInt16.ofNat octet.toNat] ∨
      (1 < leadingOnes octet ∧ leadingOnes octet ≤ 4) ∧ octets.length = leadingOnes octet - 1 := by
  have hlt : c.val.toNat < 0x110000 := by
    have hvalid := c.valid
    change c.toNat < 0xD800 ∨ 0xDFFF < c.toNat ∧ c.toNat < 0x110000 at hvalid
    change c.toNat < 0x110000
    omega
  have hchar : c.toNat = c.val.toNat := rfl
  unfold String.utf8EncodeChar at h
  dsimp only at h
  split_ifs at h with h1 h2 h3 <;> obtain ⟨rfl, rfl⟩ := List.cons.inj h
  · left
    refine ⟨?_, rfl, ?_⟩
    · rw [leadingOnes, UInt8.toNat_ofNat', if_pos (by omega)]
    · rw [JsString.ofChar, if_pos (by omega), UInt8.toNat_ofNat', Nat.mod_eq_of_lt (by omega),
        hchar]
  all_goals
    right
    simp only [leadingOnes, UInt8.toNat_ofNat', List.length_cons, List.length_nil]
    split_ifs <;> omega

/-- An octet without leading 1 bits is a character. -/
theorem exists_char_of_leadingOnes (h : leadingOnes octet = 0) :
    ∃ c, String.utf8EncodeChar c = [octet] ∧
      JsString.ofChar c = [UInt16.ofNat octet.toNat] := by
  have hlt : octet.toNat < 0x80 := by
    by_contra hge
    rw [leadingOnes, if_neg hge] at h
    split_ifs at h
  have hvalid : octet.toNat.isValidChar := .inl (by omega)
  have hc : (Char.ofNatAux octet.toNat hvalid).val.toNat = octet.toNat := rfl
  have henc : String.utf8EncodeChar (Char.ofNatAux octet.toNat hvalid) = [octet] := by
    rw [String.utf8EncodeChar, hc, if_pos (by omega), UInt8.ofNat_toNat]
  refine ⟨_, henc, ?_⟩
  obtain ⟨-, -, hchar⟩ | ⟨⟨hmore, -⟩, -⟩ := leadingOnes_utf8EncodeChar henc
  · exact hchar
  · omega

/-- A character is spelled with an octet first. -/
theorem Spells.exists_cons {c : Char} {spelled : JsString}
    (hspelled : Spells (String.utf8EncodeChar c) spelled) :
    ∃ high low h l octets y, Json.hexVal high = some h ∧ Json.hexVal low = some l ∧
      Spells octets y ∧ String.utf8EncodeChar c = UInt8.ofNat (16 * h + l) :: octets ∧
      spelled = unit '%' :: high :: low :: y := by
  generalize henc : String.utf8EncodeChar c = octets at hspelled
  cases hspelled with
  | nil => exact absurd henc String.utf8EncodeChar_ne_nil
  | cons ha hb hmore => exact ⟨_, _, _, _, _, _, ha, hb, hmore, rfl, rfl⟩

theorem decodeNext_of_ne {u : UInt16} (hu : u ≠ unit '%') (text : JsString) :
    decodeNext (u :: text) = some ([u], text) := by
  rw [decodeNext, if_neg hu]

/-- What is decoded after a percent sign is a character. -/
theorem exists_char_of_decodeNext (h : decodeNext (unit '%' :: text) = some (decoded, rest)) :
    ∃ c spelled, Spells (String.utf8EncodeChar c) spelled ∧
      unit '%' :: text = spelled ++ rest ∧ decoded = JsString.ofChar c := by
  rw [decodeNext, if_pos rfl] at h
  simp only [Option.bind_eq_bind, Option.bind_eq_some_iff, Prod.exists] at h
  obtain ⟨octet, mid, hfirst, h⟩ := h
  obtain ⟨x, hx, htext⟩ := readOctet_eq_some_iff.1 hfirst
  split_ifs at h with hzero hbad
  · -- an octet that is a character
    obtain ⟨c, henc, hchar⟩ := exists_char_of_leadingOnes hzero
    obtain ⟨rfl, rfl⟩ := Prod.mk.inj (Option.some.inj h)
    exact ⟨c, x, henc ▸ hx, htext, hchar.symm⟩
  · simp only [Option.bind_eq_some_iff, Prod.exists, Option.some.injEq, Prod.mk.injEq] at h
    obtain ⟨more, _, hmore, c, hc, rfl, rfl⟩ := h
    obtain ⟨-, y, hy, rfl⟩ := readOctets_eq_some_iff.1 hmore
    rw [charOf?_eq_some_iff] at hc
    refine ⟨c, x ++ y, ?_, by rw [htext, List.append_assoc], rfl⟩
    rw [hc]
    exact hx.append hy

/-- A character that is spelled out is decoded. -/
theorem decodeNext_of_spells {c : Char} {spelled : JsString}
    (hspelled : Spells (String.utf8EncodeChar c) spelled) (rest : JsString) :
    decodeNext (spelled ++ rest) = some (JsString.ofChar c, rest) := by
  obtain ⟨high, low, h, l, more, y, ha, hb, hmore, henc, rfl⟩ := hspelled.exists_cons
  have hfirst : readOctet (unit '%' :: high :: low :: (y ++ rest)) =
      some (UInt8.ofNat (16 * h + l), y ++ rest) :=
    readOctet_eq_some_iff.2 ⟨_, .cons ha hb .nil, rfl⟩
  simp only [List.cons_append]
  rw [decodeNext, if_pos rfl, hfirst]
  simp only [Option.bind_eq_bind, Option.bind_some]
  obtain ⟨hzero, rfl, hchar⟩ | ⟨hones, hlength⟩ := leadingOnes_utf8EncodeChar henc
  · cases hmore
    rw [if_pos hzero, hchar]
    rfl
  · have hrest : readOctets (leadingOnes (UInt8.ofNat (16 * h + l)) - 1) (y ++ rest) =
        some (more, rest) :=
      readOctets_eq_some_iff.2 ⟨hlength, y, hmore, rfl⟩
    rw [if_neg (by omega), if_neg (by omega), hrest, Option.bind_some,
      charOf?_eq_some_iff.2 henc]
    rfl

/-- What a text starts with: a unit that is not a percent sign, or a character spelled out. -/
theorem decodeNext_eq_some_iff :
    decodeNext text = some (decoded, rest) ↔
      (∃ u, u ≠ unit '%' ∧ text = u :: rest ∧ decoded = [u]) ∨
        ∃ c spelled, Spells (String.utf8EncodeChar c) spelled ∧ text = spelled ++ rest ∧
          decoded = JsString.ofChar c := by
  constructor
  · intro h
    cases text with
    | nil => cases h
    | cons u text =>
      by_cases hu : u = unit '%'
      · subst hu
        exact .inr (exists_char_of_decodeNext h)
      · rw [decodeNext_of_ne hu] at h
        obtain ⟨rfl, rfl⟩ := Prod.mk.inj (Option.some.inj h)
        exact .inl ⟨u, hu, rfl, rfl⟩
  · rintro (⟨u, hu, rfl, rfl⟩ | ⟨c, spelled, hspelled, rfl, rfl⟩)
    · exact decodeNext_of_ne hu rest
    · exact decodeNext_of_spells hspelled rest

theorem length_of_decodeNext (h : decodeNext text = some (decoded, rest)) :
    rest.length < text.length := by
  obtain ⟨u, -, rfl, -⟩ | ⟨c, spelled, hspelled, rfl, -⟩ := decodeNext_eq_some_iff.1 h
  · simp
  · obtain ⟨_, _, _, _, _, _, -, -, -, -, rfl⟩ := hspelled.exists_cons
    simp only [List.length_append, List.length_cons]
    omega

theorem uriEncoded_of_decode {fuel : ℕ} (h : decode fuel text = some decoded) :
    UriEncoded text decoded := by
  induction fuel generalizing text decoded with
  | zero =>
    cases text with
    | nil =>
      cases h
      exact .nil
    | cons => cases h
  | succ fuel ih =>
    cases text with
    | nil =>
      cases h
      exact .nil
    | cons u text =>
      simp only [decode, Option.bind_eq_bind, Option.bind_eq_some_iff, Prod.exists,
        Option.some.injEq] at h
      obtain ⟨first, rest, hnext, more, hmore, rfl⟩ := h
      obtain ⟨v, hv, htext, rfl⟩ | ⟨c, spelled, hspelled, htext, rfl⟩ :=
        decodeNext_eq_some_iff.1 hnext
      · rw [htext]
        exact .plain hv (ih hmore)
      · rw [htext]
        exact .char hspelled (ih hmore)

theorem decode_step {fuel : ℕ} {first more : JsString}
    (hnext : decodeNext text = some (first, rest)) (hmore : decode fuel rest = some more) :
    decode (fuel + 1) text = some (first ++ more) := by
  cases text with
  | nil => cases hnext
  | cons u text => simp [decode, hnext, hmore]

theorem decode_of_uriEncoded (h : UriEncoded text decoded) {fuel : ℕ}
    (hfuel : text.length ≤ fuel) : decode fuel text = some decoded := by
  induction h generalizing fuel with
  | nil => cases fuel <;> rfl
  | @plain u text decoded hu _ ih =>
    obtain ⟨fuel, rfl⟩ := Nat.exists_eq_add_of_lt hfuel
    exact decode_step (decodeNext_of_ne hu text) (ih (by omega))
  | @char c spelled text decoded hspelled _ ih =>
    have hnext := decodeNext_of_spells hspelled text
    have hlength := length_of_decodeNext hnext
    obtain ⟨fuel, rfl⟩ := Nat.exists_eq_add_of_lt (hlength.trans_le hfuel)
    exact decode_step hnext (ih (by omega))

/-- **`decodeURIComponent` decodes exactly the encoded texts.** -/
theorem decodeURIComponent_eq_some_iff :
    decodeURIComponent text = some decoded ↔ UriEncoded text decoded :=
  ⟨uriEncoded_of_decode, fun h => decode_of_uriEncoded h le_rfl⟩

example : decodeURIComponent (js "caf%C3%A9%20%41") = some (js "café A") := by decide

example : decodeURIComponent (js "%C3%28") = none := by decide

end Uri

import Hardess.Lib.JsString

/-!
# Texts that start with a slash

A `SlashPath` is read as the list of its segments, which is never empty: `"/"` has one empty
segment, `"/a/"` the segments `"a"` and `""`. Texts are then handled as lists:

* concatenation of texts is that of segments (`segments_append`);
* dropping a trailing slash drops an empty last segment (`segments_trim`);
* being equal to a text or below it is having its segments as a prefix (`under_iff`).
-/

/-- A text that starts with a slash. -/
structure SlashPath where
  text : JsString
  slash : text.head? = some (unit '/')
  deriving DecidableEq

namespace SlashPath

variable (p q : SlashPath)

@[ext] theorem ext {p q : SlashPath} (h : p.text = q.text) : p = q := by
  cases p
  cases q
  congr

/-- The segments: what stands between the slashes. -/
def segments : List JsString := p.text.tail.splitOn (unit '/')

/-- `"/"`. -/
def root : SlashPath := ⟨[unit '/'], rfl⟩

/-- The concatenation of two texts. -/
instance : Append SlashPath where
  append p q := ⟨p.text ++ q.text, by simp [List.head?_append, p.slash]⟩

@[simp] theorem text_append : (p ++ q).text = p.text ++ q.text := rfl

@[simp] theorem segments_root : root.segments = [[]] := rfl

variable {p q}

theorem segments_ne_nil : p.segments ≠ [] := List.splitOn_ne_nil _ _

theorem notMem_segments {segment : JsString} (h : segment ∈ p.segments) : unit '/' ∉ segment := by
  have all : ∀ text : JsString, ∀ s ∈ text.splitOn (unit '/'), unit '/' ∉ s := by
    intro text
    induction text with
    | nil => simp
    | cons u text ih =>
      rw [List.splitOn_cons_eq_if_modifyHead]
      split_ifs with hu
      · simpa using ih
      · obtain ⟨first, rest, heq⟩ := List.exists_cons_of_ne_nil (List.splitOn_ne_nil (unit '/') text)
        rw [heq] at ih ⊢
        rw [List.forall_mem_cons] at ih
        rw [List.modifyHead_cons, List.forall_mem_cons, List.mem_cons, not_or]
        exact ⟨⟨fun h => hu (by simp [h]), ih.1⟩, ih.2⟩
  exact all p.text.tail segment h

theorem text_eq : p.text = unit '/' :: p.text.tail := by
  obtain ⟨text, hslash⟩ := p
  cases text with
  | nil => simp at hslash
  | cons u text =>
    obtain rfl : u = unit '/' := by simpa using hslash
    rfl

/-- The text of some segments. -/
def textOf (segments : List JsString) : JsString := segments.flatMap (unit '/' :: ·)

@[simp] theorem textOf_nil : textOf [] = [] := rfl

@[simp] theorem textOf_cons (segment : JsString) (segments : List JsString) :
    textOf (segment :: segments) = unit '/' :: (segment ++ textOf segments) := rfl

theorem textOf_append (xs ys : List JsString) : textOf (xs ++ ys) = textOf xs ++ textOf ys :=
  List.flatMap_append

theorem textOf_eq_intercalate {segments : List JsString} (h : segments ≠ []) :
    textOf segments = unit '/' :: [unit '/'].intercalate segments := by
  induction segments with
  | nil => exact absurd rfl h
  | cons segment rest ih =>
    cases rest with
    | nil => simp
    | cons next rest => rw [textOf_cons, ih (by simp)]; simp

theorem textOf_segments : textOf p.segments = p.text := by
  rw [textOf_eq_intercalate segments_ne_nil, segments, List.intercalate_splitOn, ← text_eq]

theorem segments_injective : Function.Injective segments := by
  intro p q h
  ext1
  rw [← textOf_segments, ← textOf_segments, h]

/-- Concatenation, by segments. -/
@[simp] theorem segments_append : (p ++ q).segments = p.segments ++ q.segments := by
  have htail : (p ++ q).text.tail = p.text.tail ++ unit '/' :: q.text.tail := by
    rw [text_append, p.text_eq, ← q.text_eq]
    rfl
  rw [segments, htail, List.splitOn_append_cons_self]
  rfl

theorem eq_append_of_segments {xs : List JsString} (h : q.segments = p.segments ++ xs)
    (hxs : xs ≠ []) : ∃ r : SlashPath, r.segments = xs ∧ q = p ++ r := by
  obtain ⟨x, xs, rfl⟩ := List.exists_cons_of_ne_nil hxs
  have htext : q.text = p.text ++ textOf (x :: xs) := by
    rw [← textOf_segments, h, textOf_append, textOf_segments]
  refine ⟨⟨textOf (x :: xs), rfl⟩, ?_, ext htext⟩
  have hq : q = p ++ ⟨textOf (x :: xs), rfl⟩ := ext htext
  rw [hq, segments_append] at h
  exact List.append_cancel_left h

/-! ### Trailing slashes -/

/-- A text longer than one slash loses a slash at its end. -/
def trim (p : SlashPath) : SlashPath where
  text := if 1 < p.text.length ∧ p.text.getLast? = some (unit '/') then p.text.dropLast else p.text
  slash := by
    rw [text_eq]
    cases htail : p.text.tail with
    | nil => simp
    | cons u us => split_ifs <;> simp

/-- A list of several segments loses an empty one at its end. -/
def trimSegments (xs : List JsString) : List JsString :=
  if 1 < xs.length ∧ xs.getLast? = some [] then xs.dropLast else xs

theorem trimSegments_append {xs : List JsString} (hxs : xs ≠ []) :
    trimSegments (xs ++ [[]]) = xs := by
  have hlength : 1 < (xs ++ [[]]).length := by
    have := List.length_pos_iff.2 hxs
    simpa using this
  simp only [trimSegments, hlength, List.getLast?_concat, and_self, if_true,
    List.dropLast_concat]

@[simp] theorem segments_trim : p.trim.segments = trimSegments p.segments := by
  by_cases h : 1 < p.text.length ∧ p.text.getLast? = some (unit '/')
  · have hp : p = p.trim ++ root := by
      ext1
      obtain ⟨init, hinit⟩ := List.getLast?_eq_some_iff.1 h.2
      simp only [trim, h, and_self, if_true, text_append]
      simp [hinit, root]
    conv_rhs => rw [hp, segments_append, segments_root]
    rw [trimSegments_append segments_ne_nil]
  · have hp : p.trim = p := ext (by simp [trim, h])
    rw [hp, trimSegments, if_neg]
    rintro ⟨hlength, hlast⟩
    obtain ⟨init, hinit⟩ := List.getLast?_eq_some_iff.1 hlast
    have htext : p.text = textOf init ++ [unit '/'] := by
      rw [← textOf_segments, hinit, textOf_append]
      rfl
    have hne : init ≠ [] := by
      rintro rfl
      simp [hinit] at hlength
    obtain ⟨x, xs, rfl⟩ := List.exists_cons_of_ne_nil hne
    refine h ⟨by simp [htext], ?_⟩
    rw [htext, List.getLast?_concat]

/-- Trimming drops one empty segment, or nothing. -/
theorem eq_trimSegments_or (xs : List JsString) :
    trimSegments xs = xs ∨ xs = trimSegments xs ++ [[]] := by
  unfold trimSegments
  split_ifs with h
  · obtain ⟨init, rfl⟩ := List.getLast?_eq_some_iff.1 h.2
    exact .inr (by simp)
  · exact .inl rfl

theorem trimSegments_prefix (xs : List JsString) : trimSegments xs <+: xs := by
  obtain h | h := eq_trimSegments_or xs
  · rw [h]
  · exact ⟨_, h.symm⟩

theorem trimSegments_ne_nil {xs : List JsString} (h : xs ≠ []) : trimSegments xs ≠ [] := by
  obtain hx | hx := eq_trimSegments_or xs
  · rwa [hx]
  · unfold trimSegments
    split_ifs with hlength
    · rw [← List.length_pos_iff, List.length_dropLast]
      omega
    · exact h

/-- Trimming a list that goes on with empty segments. -/
theorem trimSegments_append_replicate {xs : List JsString} (h : xs ≠ []) (k : ℕ) :
    ∃ k', trimSegments (xs ++ List.replicate k []) = trimSegments xs ++ List.replicate k' [] := by
  cases k with
  | zero => exact ⟨0, by simp⟩
  | succ k =>
    rw [List.replicate_succ', ← List.append_assoc, trimSegments_append (by simp [h])]
    obtain hx | hx := eq_trimSegments_or xs
    · exact ⟨k, by rw [hx]⟩
    · refine ⟨k + 1, ?_⟩
      conv_lhs => rw [hx]
      rw [List.append_assoc, List.replicate_succ]
      rfl

/-- What goes on after some segments still does when it is trimmed. -/
theorem prefix_trimSegments_append (xs : List JsString) {ys : List JsString} (hys : ys ≠ []) :
    xs <+: trimSegments (xs ++ ys) := by
  unfold trimSegments
  split_ifs
  · rw [List.dropLast_append_of_ne_nil hys]
    exact List.prefix_append _ _
  · exact List.prefix_append _ _

/-! ### Prefixes -/

/-- A text is another one, or goes on after it with a slash. -/
def IsUnder (p q : SlashPath) : Prop := p = q ∨ q.text ++ [unit '/'] <+: p.text

instance : Decidable (IsUnder p q) := inferInstanceAs (Decidable (_ ∨ _))

/-- Below a text, by segments. -/
theorem isUnder_iff : p.IsUnder q ↔ q.segments <+: p.segments := by
  constructor
  · rintro (rfl | ⟨rest, h⟩)
    · exact List.prefix_rfl
    · have hp : p = q ++ ⟨unit '/' :: rest, rfl⟩ := ext (by rw [← h]; simp)
      rw [hp, segments_append]
      exact List.prefix_append _ _
  · rintro ⟨xs, h⟩
    by_cases hxs : xs = []
    · exact .inl (segments_injective (by simpa [hxs] using h.symm))
    · obtain ⟨r, -, rfl⟩ := eq_append_of_segments h.symm hxs
      refine .inr ⟨r.text.tail, ?_⟩
      rw [text_append, r.text_eq]
      simp

end SlashPath

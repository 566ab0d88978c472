import Mathlib.Tactic

/-!
# Keys joined from fields

Fields are often joined to one key with a separator between them. The key stands for the fields as
long as none of them contains the separator, and not otherwise.

* `count_intercalate`: how often the separator is in a key;
* `eq_of_intercalate_eq`: fields without the separator are the only ones of their key;
* `exists_intercalate_eq`: a field with the separator can be cut, and its neighbour takes a part.
-/

namespace JoinedKey

variable {α : Type*} [DecidableEq α] {c : α} {fs gs : List (List α)}

/-- Between the fields there is a separator each, and in them as many as they have. -/
theorem count_intercalate (c : α) (f : List α) (fs : List (List α)) :
    ([c].intercalate (f :: fs)).count c =
      fs.length + ((f :: fs).map fun f => f.count c).sum := by
  induction fs generalizing f with
  | nil => simp [List.intercalate_singleton]
  | cons g fs ih =>
    rw [List.intercalate_cons_cons, List.count_append, List.count_append, ih]
    simp
    omega

/-- Fields without the separator are the only ones of their key. -/
theorem eq_of_intercalate_eq (hlen : gs.length = fs.length) (hfs : ∀ f ∈ fs, c ∉ f)
    (h : [c].intercalate gs = [c].intercalate fs) : gs = fs := by
  cases fs with
  | nil => exact List.length_eq_zero_iff.1 hlen
  | cons f fs =>
    cases gs with
    | nil => simp at hlen
    | cons g gs =>
      -- the two keys have the separator equally often, so that the other fields have none either
      have hcount := congrArg (List.count c) h
      rw [count_intercalate, count_intercalate] at hcount
      have hzero : ((f :: fs).map fun f => f.count c).sum = 0 := by
        rw [List.sum_eq_zero_iff]
        simpa [List.count_eq_zero] using hfs
      have hgs : ∀ l ∈ g :: gs, c ∉ l := by
        have hsum : ((g :: gs).map fun g => g.count c).sum = 0 := by
          simp only [List.length_cons] at hlen
          omega
        rw [List.sum_eq_zero_iff] at hsum
        simpa [List.count_eq_zero] using hsum
      rw [← List.splitOn_intercalate c hgs (List.cons_ne_nil _ _), h,
        List.splitOn_intercalate c hfs (List.cons_ne_nil _ _)]

omit [DecidableEq α] in
/-- What follows a field only matters by its key. -/
theorem intercalate_cons_congr (f : List α) (hfs : fs ≠ []) (hgs : gs ≠ [])
    (h : [c].intercalate fs = [c].intercalate gs) :
    [c].intercalate (f :: fs) = [c].intercalate (f :: gs) := by
  rw [List.intercalate_cons_of_ne_nil hfs, List.intercalate_cons_of_ne_nil hgs, h]

omit [DecidableEq α] in
/-- What a field starts with, the key starts with. -/
theorem intercalate_append_cons (x f : List α) (fs : List (List α)) :
    [c].intercalate ((x ++ f) :: fs) = x ++ [c].intercalate (f :: fs) := by
  cases fs with
  | nil => rw [List.intercalate_singleton, List.intercalate_singleton]
  | cons g fs => simp only [List.intercalate_cons_cons, List.append_assoc]

omit [DecidableEq α] in
/-- A field with the separator can be cut, and its neighbour takes the other part. -/
theorem exists_intercalate_eq (hfs : 2 ≤ fs.length) (h : ∃ f ∈ fs, c ∈ f) :
    ∃ gs : List (List α), gs.length = fs.length ∧ gs ≠ fs ∧
      [c].intercalate gs = [c].intercalate fs := by
  induction fs with
  | nil => simp at hfs
  | cons f fs ih =>
    cases fs with
    | nil => simp at hfs
    | cons g rest =>
      by_cases hf : c ∈ f
      · -- the next field takes what follows the separator
        obtain ⟨x, y, rfl⟩ := List.append_of_mem hf
        refine ⟨x :: (y ++ c :: g) :: rest, rfl, by simp, ?_⟩
        have hnext := @intercalate_append_cons α c (y ++ [c]) g rest
        rw [List.append_assoc, List.singleton_append] at hnext
        rw [List.intercalate_cons_cons, List.intercalate_cons_cons, hnext]
        simp
      · have hrest : ∃ f ∈ g :: rest, c ∈ f := by
          simpa [hf] using h
        cases rest with
        | nil =>
          -- the field before takes what precedes it
          obtain ⟨x, y, rfl⟩ : ∃ x y, g = x ++ c :: y := List.append_of_mem (by simpa using hrest)
          exact ⟨[f ++ c :: x, y], rfl, by simp, by simp [List.intercalate_cons_cons]⟩
        | cons g' rest =>
          obtain ⟨gs, hlen, hne, heq⟩ := ih (by simp) hrest
          refine ⟨f :: gs, by simp [hlen], by simpa using hne, ?_⟩
          refine intercalate_cons_congr f ?_ (List.cons_ne_nil _ _) heq
          rintro rfl
          simp at hlen

end JoinedKey

import Mathlib.Data.List.MinMax
import Mathlib.Data.List.Sort
import Mathlib.Tactic

/-!
# The first longest match

Two ways to look for the largest element of a list that passes a test, the first one if there are
several:

* sort the list, the largest first, and take the first element that passes;
* go through the list and keep the best element so far.

Both compute `List.argmax` of the elements that pass: `find?_insertionSort` and `foldl_better`.
-/

namespace LongestMatch

variable {α : Type*} (size : α → ℕ) (p : α → Bool)

/-- Keep the larger of two candidates, the earlier one when they are equally large. -/
def better (best : Option α) (a : α) : Option α :=
  if p a = false then best
  else if best.all (fun b => size b < size a) then some a else best

theorem foldl_better (l : List α) : l.foldl (better size p) none = (l.filter p).argmax size := by
  rw [List.argmax, List.foldl_filter]
  congr 1
  funext best a
  unfold better
  cases best with
  | none => cases p a <;> simp [List.argAux]
  | some b => cases p a <;> simp [List.argAux]

/-- An element put into a sorted list is the first match if it passes and is not smaller than the
match that was there. -/
theorem find?_orderedInsert (a : α) {s : List α} (hs : s.Pairwise fun b c => size c ≤ size b) :
    (s.orderedInsert (fun b c => size c ≤ size b) a).find? p =
      if p a = true ∧ (s.find? p).all (fun b => size b ≤ size a) then some a else s.find? p := by
  induction s with
  | nil => cases ha : p a <;> simp [List.orderedInsert, ha]
  | cons b s ih =>
    obtain ⟨hb, hs'⟩ := List.pairwise_cons.1 hs
    rw [List.orderedInsert_cons]
    split_ifs with hle hnew hnew
    · rw [List.find?_cons_of_pos hnew.1]
    · refine List.find?_cons_of_neg fun ha => hnew ⟨ha, ?_⟩
      have hall : ∀ c ∈ b :: s, size c ≤ size a := by
        rintro c (_ | ⟨_, hc⟩)
        · exact hle
        · exact (hb c hc).trans hle
      cases hfind : (b :: s).find? p with
      | none => rfl
      | some c => simpa using hall c (List.mem_of_find?_eq_some hfind)
    · cases hpb : p b with
      | true => simp [hpb, hle] at hnew
      | false =>
        rw [List.find?_cons_of_neg (by simp [hpb])] at hnew
        rw [List.find?_cons_of_neg (by simp [hpb]), ih hs', if_pos hnew]
    · cases hpb : p b with
      | true => rw [List.find?_cons_of_pos hpb, List.find?_cons_of_pos hpb]
      | false =>
        rw [List.find?_cons_of_neg (by simp [hpb])] at hnew ⊢
        rw [List.find?_cons_of_neg (by simp [hpb]), ih hs', if_neg hnew]

theorem find?_insertionSort (l : List α) :
    (l.insertionSort fun b c => size c ≤ size b).find? p = (l.filter p).argmax size := by
  have : Std.Total fun b c : α => size c ≤ size b := ⟨fun b c => le_total (size c) (size b)⟩
  have : IsTrans α fun b c => size c ≤ size b := ⟨fun _ _ _ h h' => h'.trans h⟩
  induction l with
  | nil => rfl
  | cons a l ih =>
    rw [List.insertionSort_cons, find?_orderedInsert size p a (List.pairwise_insertionSort _ l), ih]
    cases ha : p a with
    | false => simp [List.filter_cons_of_neg, ha]
    | true =>
      rw [List.filter_cons_of_pos ha, List.argmax_cons]
      cases (l.filter p).argmax size with
      | none => simp
      | some b => by_cases h : size b ≤ size a <;> simp [h, not_lt.2, lt_of_not_ge]

/-- Looking among images is looking among what they are images of. -/
theorem find?_insertionSort_map {β : Type*} (f : β → α) (l : List β) :
    ((l.map f).insertionSort fun b c => size c ≤ size b).find? p =
      ((l.insertionSort fun b c => size (f c) ≤ size (f b)).find? (p ∘ f)).map f := by
  have hsort := List.map_insertionSort (fun b c => size (f c) ≤ size (f b))
    (fun b c => size c ≤ size b) f l fun _ _ _ _ => Iff.rfl
  rw [← hsort, List.find?_map]

section rel

variable {size p} {R : α → α → Prop} (hR : ∀ a b, R a b → size a = size b ∧ p a = p b)
include hR

theorem better_rel {best best' : Option α} (hbest : Option.Rel R best best') {a a' : α}
    (ha : R a a') : Option.Rel R (better size p best a) (better size p best' a') := by
  obtain ⟨hsize, hp⟩ := hR a a' ha
  have hall : best.all (fun b => size b < size a) = best'.all (fun b => size b < size a') := by
    cases hbest with
    | none => rfl
    | some hb => simp only [Option.all_some, hsize, (hR _ _ hb).1]
  unfold better
  rw [hp, hall]
  split_ifs
  · exact hbest
  · exact .some ha
  · exact hbest

/-- Lists of elements that correspond have best elements that correspond. -/
theorem foldl_better_rel {l l' : List α} (h : List.Forall₂ R l l') :
    ∀ {best best' : Option α}, Option.Rel R best best' →
      Option.Rel R (l.foldl (better size p) best) (l'.foldl (better size p) best') := by
  induction h with
  | nil => exact fun hbest => hbest
  | cons ha _ ih => exact fun hbest => ih (better_rel hR hbest ha)

end rel

end LongestMatch

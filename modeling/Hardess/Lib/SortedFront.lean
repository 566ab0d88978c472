import Mathlib.Data.List.Sort
import Mathlib.Tactic

/-!
# The front of a sorted list

When all elements of one kind are put before all others, a sorted list has them at its front.

* `Separates`: what it says of the order;
* `Separates.insertionSort_eq_append`: the sorted list is the sorted front and the sorted rest.
-/

namespace SortedFront

variable {α : Type*} (r : α → α → Prop) [DecidableRel r] (p : α → Bool)

/-- The elements that pass come before those that do not. -/
def Separates : Prop := ∀ a b, p a = true → p b = false → r a b ∧ ¬r b a

variable {r p}

/-- An element of the front is put into the front. -/
theorem Separates.orderedInsert_front (h : Separates r p) {a : α} (ha : p a = true)
    {front rest : List α} (hrest : ∀ b ∈ rest, p b = false) :
    (front ++ rest).orderedInsert r a = front.orderedInsert r a ++ rest := by
  induction front with
  | nil =>
    cases rest with
    | nil => rfl
    | cons b rest => exact List.orderedInsert_cons_of_le r rest (h a b ha (hrest b (by simp))).1
  | cons b front ih =>
    by_cases hle : r a b
    · rw [List.cons_append, List.orderedInsert_cons_of_le r _ hle,
        List.orderedInsert_cons_of_le r _ hle, List.cons_append, List.cons_append]
    · rw [List.cons_append, List.orderedInsert_of_not_le r _ hle,
        List.orderedInsert_of_not_le r _ hle, ih, List.cons_append]

/-- Another element is put behind the front. -/
theorem Separates.orderedInsert_rest (h : Separates r p) {a : α} (ha : p a = false)
    {front rest : List α} (hfront : ∀ b ∈ front, p b = true) :
    (front ++ rest).orderedInsert r a = front ++ rest.orderedInsert r a := by
  induction front with
  | nil => rfl
  | cons b front ih =>
    rw [List.forall_mem_cons] at hfront
    have hnot : ¬r a b := (h b a hfront.1 ha).2
    rw [List.cons_append, List.orderedInsert_of_not_le r _ hnot, ih hfront.2, List.cons_append]

/-- **Sorting keeps the front apart.** -/
theorem Separates.insertionSort_eq_append (h : Separates r p) (l : List α) :
    l.insertionSort r =
      (l.filter p).insertionSort r ++ (l.filter (fun a => !p a)).insertionSort r := by
  induction l with
  | nil => rfl
  | cons a l ih =>
    rw [List.insertionSort_cons, ih]
    cases ha : p a with
    | true =>
      rw [List.filter_cons_of_pos ha, List.filter_cons_of_neg (by simp [ha]),
        List.insertionSort_cons]
      refine h.orderedInsert_front ha fun b hb => ?_
      rw [List.mem_insertionSort] at hb
      simpa using List.of_mem_filter hb
    | false =>
      rw [List.filter_cons_of_neg (by simp [ha]), List.filter_cons_of_pos (by simp [ha]),
        List.insertionSort_cons]
      refine h.orderedInsert_rest ha fun b hb => ?_
      rw [List.mem_insertionSort] at hb
      exact List.of_mem_filter hb

end SortedFront

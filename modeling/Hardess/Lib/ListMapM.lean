import Mathlib.Data.List.Forall2

/-!
# Mapping a fallible function over a list

`List.mapM` into `Option` succeeds when every element does, and then pairs the elements
with their results (`forall₂_of_mapM`). `Except.toOption_eq_some_iff` says when there is a result.
-/

theorem Except.toOption_eq_some_iff {ε α : Type*} {e : Except ε α} {a : α} :
    e.toOption = some a ↔ e = .ok a := by
  cases e <;> simp [Except.toOption]

namespace List

variable {α β : Type*} {f : α → Option β} {xs : List α} {ys : List β}

/-- The results are those of the elements, in order. -/
theorem forall₂_of_mapM (h : xs.mapM f = some ys) : Forall₂ (fun x y => f x = some y) xs ys := by
  induction xs generalizing ys with
  | nil =>
    obtain rfl : [] = ys := by simpa using h
    exact .nil
  | cons x xs ih =>
    simp only [mapM_cons, Option.bind_eq_bind, Option.bind_eq_some_iff, Option.pure_def,
      Option.some.injEq] at h
    obtain ⟨y, hy, zs, hzs, rfl⟩ := h
    exact .cons hy (ih hzs)

theorem exists_of_mem_mapM (h : xs.mapM f = some ys) {y : β} (hy : y ∈ ys) :
    ∃ x ∈ xs, f x = some y := by
  obtain ⟨i, hi, rfl⟩ := mem_iff_getElem.1 hy
  have hall := forall₂_of_mapM h
  have hi' : i < xs.length := hall.length_eq ▸ hi
  exact ⟨xs[i], getElem_mem hi', hall.get hi' hi⟩

theorem exists_mapM_of_mem (h : xs.mapM f = some ys) {x : α} (hx : x ∈ xs) :
    ∃ y ∈ ys, f x = some y := by
  obtain ⟨i, hi, rfl⟩ := mem_iff_getElem.1 hx
  have hall := forall₂_of_mapM h
  have hi' : i < ys.length := hall.length_eq ▸ hi
  exact ⟨ys[i], getElem_mem hi', hall.get hi hi'⟩

end List

import Hardess.Lib.JsMap

/-!
# Maps filled from a list

`new Map(l.map((a) => [key(a), val(a)]))` and loops that `set` one element of a list after the
other: under each key there is the last element that has it (`get_foldl_set`).
-/

namespace JsMap

variable {α κ ν : Type*} [DecidableEq κ] (key : α → κ) (val : α → ν)

/-- **A key holds the last element of the list that has it**, or what was there before. -/
theorem get_foldl_set (l : List α) (m : JsMap κ ν) (k : κ) :
    (l.foldl (fun m a => m.set (key a) (val a)) m).get k =
      ((l.reverse.find? fun a => key a = k).map val).or (m.get k) := by
  induction l generalizing m with
  | nil => rfl
  | cons a l ih =>
    rw [List.foldl_cons, ih, List.reverse_cons, List.find?_append, get_set]
    cases l.reverse.find? fun a => key a = k with
    | some _ => rfl
    | none =>
      by_cases hk : key a = k
      · simp [hk]
      · simp [hk, Ne.symm hk]

theorem mem_of_get_foldl_set {l : List α} {k : κ} {v : ν}
    (h : (l.foldl (fun m a => m.set (key a) (val a)) empty).get k = some v) :
    ∃ a ∈ l, key a = k ∧ val a = v := by
  rw [get_foldl_set, get_empty, Option.or_none] at h
  obtain ⟨a, ha, rfl⟩ := Option.map_eq_some_iff.1 h
  exact ⟨a, List.mem_reverse.1 (List.mem_of_find?_eq_some ha), by simpa using List.find?_some ha,
    rfl⟩

theorem get_foldl_set_isSome {l : List α} {a : α} (ha : a ∈ l) (m : JsMap κ ν) :
    ((l.foldl (fun m a => m.set (key a) (val a)) m).get (key a)).isSome = true := by
  rw [get_foldl_set, Option.isSome_or, Option.isSome_map, Bool.or_eq_true]
  exact Or.inl (List.find?_isSome.2 ⟨a, List.mem_reverse.2 ha, decide_eq_true rfl⟩)

/-- With distinct keys, a key holds what its element is mapped to. -/
theorem get_foldl_set_filterMap {β : Type*} {l : List β} {f : β → Option α} {k : β → κ}
    (hkey : ∀ b a, f b = some a → key a = k b) (hnodup : (l.map k).Nodup) {b : β} (hb : b ∈ l) :
    ((l.filterMap f).foldl (fun m a => m.set (key a) a) empty).get (k b) = f b := by
  have huniq : ∀ a, a ∈ l.filterMap f → key a = k b → f b = some a := by
    intro a ha hk
    obtain ⟨b', hb', hfa⟩ := List.mem_filterMap.1 ha
    have heq : b' = b := List.inj_on_of_nodup_map hnodup hb' hb ((hkey b' a hfa).symm.trans hk)
    rw [← heq, hfa]
  cases hget : ((l.filterMap f).foldl (fun m a => m.set (key a) a) empty).get (k b) with
  | some a =>
    obtain ⟨a', ha', hk, rfl⟩ := mem_of_get_foldl_set key id hget
    exact (huniq a' ha' hk).symm
  | none =>
    cases hfb : f b with
    | none => rfl
    | some a =>
      have hsome := get_foldl_set_isSome key id (List.mem_filterMap.2 ⟨b, hb, hfb⟩) empty
      rw [hkey b a hfb] at hsome
      simp only [id] at hsome
      rw [hget] at hsome
      cases hsome

end JsMap

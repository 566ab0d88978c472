import Hardess.Lib.JsMapIndex
import Hardess.Lib.OrderIndependence

/-!
# Grouping by a map

Loops that look an element's key up in a map, change what is there or start it, and put it back.

* `get_foldl_upsert`: under a key is what its own elements have made of it;
* `keys_foldl_upsert`: the keys, in the order in which they came first;
* `values_foldl_upsert`: the values, in that order;
* `get_fromEntries`: under a key of `Object.fromEntries` is the value of its last entry.
-/

namespace JsMap

open OrderIndependence

variable {α κ ν : Type*} [DecidableEq κ]

theorem keys_set (m : JsMap κ ν) (k : κ) (v : ν) : (m.set k v).keys = insertNew m.keys k :=
  keys_setEntries m.entries k v

/-- The values, read by their keys. -/
theorem values_eq (m : JsMap κ ν) : m.entries.map Prod.snd = m.keys.filterMap m.get := by
  have hget : ∀ e ∈ m.entries, m.get e.1 = some e.2 := fun e he => get_eq_some_iff.2 he
  rw [keys, List.filterMap_map]
  exact ((List.filterMap_congr hget).trans (List.filterMap_eq_map ▸ rfl)).symm

variable (key : α → κ) (upd : α → Option ν → ν)

/-- The body of the loop. -/
def upsert (m : JsMap κ ν) (a : α) : JsMap κ ν := m.set (key a) (upd a (m.get (key a)))

/-- **Under a key is what its own elements have made of it.** -/
theorem get_foldl_upsert (l : List α) (m : JsMap κ ν) (k : κ) :
    (l.foldl (upsert key upd) m).get k =
      (l.filter fun a => key a = k).foldl (fun old a => some (upd a old)) (m.get k) := by
  induction l generalizing m with
  | nil => rfl
  | cons a l ih =>
    rw [List.foldl_cons, ih]
    by_cases hk : key a = k
    · rw [List.filter_cons_of_pos (by simpa using hk), List.foldl_cons, upsert, hk, get_set_self]
    · rw [List.filter_cons_of_neg (by simpa using hk), upsert, get_set_of_ne _ (Ne.symm hk)]

/-- **The keys, in the order in which they came first.** -/
theorem keys_foldl_upsert (l : List α) :
    (l.foldl (upsert key upd) empty).keys = distinct (l.map key) := by
  induction l using List.reverseRecOn with
  | nil => rfl
  | append_singleton l a ih =>
    rw [List.foldl_concat, upsert, keys_set, ih, List.map_append, List.map_singleton,
      distinct_concat]

/-- **The values, in that order.** -/
theorem values_foldl_upsert (l : List α) :
    (l.foldl (upsert key upd) empty).entries.map Prod.snd =
      (distinct (l.map key)).filterMap fun k =>
        (l.filter fun a => key a = k).foldl (fun old a => some (upd a old)) none := by
  rw [values_eq, keys_foldl_upsert]
  exact List.filterMap_congr fun k _ => get_foldl_upsert key upd l empty k

section Starting

variable {key upd} (val : α → List α → ν)

/-- The first element starts the value, and the others are added to it. -/
theorem foldl_upd_eq (hstart : ∀ a, upd a none = val a [a])
    (hadd : ∀ a l b, upd b (some (val a l)) = val a (l ++ [b])) (l : List α) :
    l.foldl (fun old a => some (upd a old)) none = l.head?.map fun a => val a l := by
  induction l using List.reverseRecOn with
  | nil => rfl
  | append_singleton l b ih =>
    rw [List.foldl_concat, ih, List.head?_append]
    cases l with
    | nil => exact congrArg some (hstart b)
    | cons a l => exact congrArg some (hadd a (a :: l) b)

/-- **Grouping a list**: one value for each key, made of the elements that have it. -/
theorem values_foldl_upsert_eq (hstart : ∀ a, upd a none = val a [a])
    (hadd : ∀ a l b, upd b (some (val a l)) = val a (l ++ [b])) {l : List α} {group : κ → ν}
    (hgroup : ∀ k a, (l.filter fun a => key a = k).head? = some a →
      val a (l.filter fun a => key a = k) = group k) :
    (l.foldl (upsert key upd) empty).entries.map Prod.snd = (distinct (l.map key)).map group := by
  rw [values_foldl_upsert, ← List.filterMap_eq_map (f := group)]
  refine List.filterMap_congr fun k hk => ?_
  rw [foldl_upd_eq val hstart hadd]
  obtain ⟨a, ha, rfl⟩ := List.mem_map.1 (mem_distinct.1 hk)
  have hne : (l.filter fun b => key b = key a) ≠ [] :=
    List.ne_nil_of_mem (List.mem_filter.2 ⟨ha, decide_eq_true rfl⟩)
  have hhead := List.head?_eq_some_head hne
  rw [hhead]
  exact congrArg some (hgroup _ _ hhead)

end Starting

/-- `Object.fromEntries`. -/
def fromEntries (entries : List (κ × ν)) : JsMap κ ν :=
  entries.foldl (fun m e => m.set e.1 e.2) empty

/-- Under a key is the value of its last entry. -/
theorem get_fromEntries (entries : List (κ × ν)) (k : κ) :
    (fromEntries entries).get k = (entries.filter fun e => e.1 = k).getLast?.map Prod.snd := by
  have hlast (l : List (κ × ν)) :
      l.foldl (fun _ e => some e.2) none = l.getLast?.map Prod.snd := by
    induction l using List.reverseRecOn with
    | nil => rfl
    | append_singleton l e ih => simp
  exact (get_foldl_upsert Prod.fst (fun e _ => e.2) entries empty k).trans (hlast _)

end JsMap

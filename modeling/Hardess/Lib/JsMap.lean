import Mathlib.Data.List.Nodup
import Mathlib.Tactic

/-!
# JavaScript maps

`Map` of ECMAScript: entries in insertion order, at most one for each key. The
structure carries the distinctness of its keys.

* `get`, `set`, `delete`, `keys`, `size` as the language defines them;
* the `simp` set: `get` after `set` and `delete`; `size` after them;
* `Moves`: what one map has that another had not, and what it has lost.
-/

/-- A map with its entries in insertion order. -/
structure JsMap (κ ν : Type*) where
  entries : List (κ × ν)
  nodup : (entries.map Prod.fst).Nodup

namespace JsMap

variable {κ ν : Type*}

@[ext] theorem ext {m m' : JsMap κ ν} (h : m.entries = m'.entries) : m = m' := by
  cases m; cases m'; cases h; rfl

variable [DecidableEq κ]

instance [DecidableEq ν] : DecidableEq (JsMap κ ν) := fun m m' =>
  decidable_of_iff (m.entries = m'.entries) ⟨ext, fun h => h ▸ rfl⟩

/-- `new Map()`. -/
def empty : JsMap κ ν := ⟨[], List.nodup_nil⟩

/-- `map.keys()`. -/
def keys (m : JsMap κ ν) : List κ := m.entries.map Prod.fst

/-- `map.size`. -/
def size (m : JsMap κ ν) : ℕ := m.entries.length

/-- `map.get(k)`. -/
def get (m : JsMap κ ν) (k : κ) : Option ν := (m.entries.find? fun e => e.1 = k).map Prod.snd

/-- `map.has(k)`. -/
def has (m : JsMap κ ν) (k : κ) : Bool := (m.get k).isSome

/-- The entries after `map.set(k, v)`: an existing key keeps its place. -/
def setEntries (es : List (κ × ν)) (k : κ) (v : ν) : List (κ × ν) :=
  if k ∈ es.map Prod.fst then es.map fun e => if e.1 = k then (k, v) else e else es ++ [(k, v)]

theorem keys_setEntries (es : List (κ × ν)) (k : κ) (v : ν) :
    (setEntries es k v).map Prod.fst =
      if k ∈ es.map Prod.fst then es.map Prod.fst else es.map Prod.fst ++ [k] := by
  unfold setEntries
  split_ifs
  · rw [List.map_map]
    refine List.map_congr_left fun e _ => ?_
    by_cases he : e.1 = k <;> simp [he]
  · simp

/-- `map.set(k, v)`. -/
def set (m : JsMap κ ν) (k : κ) (v : ν) : JsMap κ ν where
  entries := setEntries m.entries k v
  nodup := by
    rw [keys_setEntries]
    split_ifs with hk
    · exact m.nodup
    · exact List.Nodup.append m.nodup (List.nodup_singleton k) (by simpa using hk)

/-- `map.delete(k)`. -/
def delete (m : JsMap κ ν) (k : κ) : JsMap κ ν where
  entries := m.entries.filter fun e => e.1 ≠ k
  nodup := (List.filter_sublist.map Prod.fst).nodup m.nodup

/-- Delete every entry that fails the test. -/
def filter (m : JsMap κ ν) (p : κ → ν → Bool) : JsMap κ ν where
  entries := m.entries.filter fun e => p e.1 e.2
  nodup := (List.filter_sublist.map Prod.fst).nodup m.nodup

/-- The same keys, each with the image of its value. -/
def mapValues {ν' : Type*} (m : JsMap κ ν) (f : ν → ν') : JsMap κ ν' where
  entries := m.entries.map fun e => (e.1, f e.2)
  nodup := by
    rw [List.map_map]
    exact m.nodup

@[simp] theorem get_empty (k : κ) : (empty : JsMap κ ν).get k = none := rfl

/-! ### Reading after writing -/

theorem find?_eq_some_iff {es : List (κ × ν)} (h : (es.map Prod.fst).Nodup) {k : κ} {v : ν} :
    (es.find? fun e => e.1 = k).map Prod.snd = some v ↔ (k, v) ∈ es := by
  induction es with
  | nil => simp
  | cons e es ih =>
    obtain ⟨hne, hnd⟩ := List.nodup_cons.1 h
    rw [List.find?_cons]
    by_cases hk : e.1 = k
    · subst hk
      simp only [decide_true, Option.map_some, Option.some.injEq, List.mem_cons]
      refine ⟨fun hv => Or.inl (by rw [← hv]), fun hv => ?_⟩
      rcases hv with hv | hv
      · rw [← hv]
      · exact absurd (List.mem_map_of_mem hv) hne
    · simp only [hk, decide_false, List.mem_cons]
      rw [ih hnd]
      exact ⟨Or.inr, fun hv => hv.resolve_left fun h => hk (by rw [← h])⟩

theorem get_eq_some_iff {m : JsMap κ ν} {k : κ} {v : ν} : m.get k = some v ↔ (k, v) ∈ m.entries :=
  find?_eq_some_iff m.nodup

theorem get_eq_none_iff {m : JsMap κ ν} {k : κ} : m.get k = none ↔ k ∉ m.keys := by
  rw [Option.eq_none_iff_forall_ne_some]
  simp only [ne_eq, get_eq_some_iff, keys, List.mem_map, Prod.exists, exists_and_right,
    exists_eq_right, not_exists]

/-- Two maps with the same entry under a key agree on it. -/
theorem get_congr {m m' : JsMap κ ν} {k : κ}
    (h : ∀ v, (k, v) ∈ m.entries ↔ (k, v) ∈ m'.entries) : m.get k = m'.get k := by
  ext v
  rw [get_eq_some_iff, get_eq_some_iff]
  exact h v

theorem mem_set {m : JsMap κ ν} {k k' : κ} {v v' : ν} :
    (k', v') ∈ (m.set k v).entries ↔
      (k' = k ∧ v' = v) ∨ (k' ≠ k ∧ (k', v') ∈ m.entries) := by
  simp only [set, setEntries]
  split_ifs with hk
  · rw [List.mem_map]
    constructor
    · rintro ⟨e, he, heq⟩
      split_ifs at heq with hek
      · cases heq; exact Or.inl ⟨rfl, rfl⟩
      · subst heq; exact Or.inr ⟨hek, he⟩
    · rintro (⟨rfl, rfl⟩ | ⟨hne, hmem⟩)
      · obtain ⟨e, he, rfl⟩ := List.mem_map.1 hk
        exact ⟨e, he, if_pos rfl⟩
      · exact ⟨_, hmem, if_neg hne⟩
  · rw [List.mem_append, List.mem_singleton, Prod.mk.injEq]
    constructor
    · rintro (hmem | heq)
      · exact Or.inr ⟨fun h => hk (h ▸ List.mem_map_of_mem hmem), hmem⟩
      · exact Or.inl heq
    · rintro (heq | ⟨-, hmem⟩)
      · exact Or.inr heq
      · exact Or.inl hmem

theorem get_set (m : JsMap κ ν) (k k' : κ) (v : ν) :
    (m.set k v).get k' = if k' = k then some v else m.get k' := by
  split_ifs with h
  · rw [get_eq_some_iff, mem_set]; exact Or.inl ⟨h, rfl⟩
  · exact get_congr fun v' => by rw [mem_set]; simp [h]

@[simp] theorem get_set_self (m : JsMap κ ν) (k : κ) (v : ν) : (m.set k v).get k = some v := by
  rw [get_set, if_pos rfl]

theorem get_set_of_ne (m : JsMap κ ν) {k k' : κ} (h : k' ≠ k) (v : ν) :
    (m.set k v).get k' = m.get k' := by rw [get_set, if_neg h]

theorem setEntries_of_notMem {es : List (κ × ν)} {k : κ} (h : k ∉ es.map Prod.fst) (v : ν) :
    setEntries es k v = es ++ [(k, v)] := if_neg h

/-- A second write under one key replaces the first. -/
theorem set_set (m : JsMap κ ν) (k : κ) (v v' : ν) : (m.set k v).set k v' = m.set k v' := by
  refine ext ?_
  show setEntries (setEntries m.entries k v) k v' = setEntries m.entries k v'
  by_cases hk : k ∈ m.entries.map Prod.fst
  · unfold setEntries
    rw [if_pos hk, if_pos hk, if_pos, List.map_map]
    · refine List.map_congr_left fun e _ => ?_
      by_cases he : e.1 = k <;> simp [he]
    · obtain ⟨e, he, rfl⟩ := List.mem_map.1 hk
      exact List.mem_map.2 ⟨_, List.mem_map_of_mem he, by simp⟩
  · rw [setEntries_of_notMem hk, setEntries_of_notMem hk]
    unfold setEntries
    rw [if_pos (by simp), List.map_append, List.map_singleton, if_pos rfl]
    congr 1
    refine (List.map_congr_left fun e he => ?_).trans (List.map_id _)
    exact if_neg fun (h : e.1 = k) => hk (h ▸ List.mem_map_of_mem he)

theorem get_filter {m : JsMap κ ν} {p : κ → ν → Bool} {k : κ} {v : ν} :
    (m.filter p).get k = some v ↔ m.get k = some v ∧ p k v = true := by
  rw [get_eq_some_iff, get_eq_some_iff]
  simp [filter]

/-- A filter that looks at the keys alone. -/
theorem get_filter_keys (m : JsMap κ ν) (p : κ → Bool) (k : κ) :
    (m.filter fun k _ => p k).get k = if p k then m.get k else none := by
  ext v
  rw [get_filter]
  split_ifs with h
  · exact and_iff_left h
  · simp [h]

@[simp] theorem get_mapValues {ν' : Type*} (m : JsMap κ ν) (f : ν → ν') (k : κ) :
    (m.mapValues f).get k = (m.get k).map f := by
  unfold get mapValues
  rw [List.find?_map, Option.map_map, Option.map_map]
  rfl

theorem get_delete (m : JsMap κ ν) (k k' : κ) :
    (m.delete k).get k' = if k' = k then none else m.get k' := by
  ext v
  rw [get_eq_some_iff]
  split_ifs with h
  · simp [delete, h]
  · rw [get_eq_some_iff]; simp [delete, h]

@[simp] theorem get_delete_self (m : JsMap κ ν) (k : κ) : (m.delete k).get k = none := by
  rw [get_delete, if_pos rfl]

theorem get_delete_of_ne (m : JsMap κ ν) {k k' : κ} (h : k' ≠ k) :
    (m.delete k).get k' = m.get k' := by rw [get_delete, if_neg h]

theorem get_of_get_delete {m : JsMap κ ν} {k k' : κ} {v : ν} (h : (m.delete k).get k' = some v) :
    k' ≠ k ∧ m.get k' = some v := by
  rw [get_delete] at h
  split_ifs at h with hk
  exact ⟨hk, h⟩

/-- An entry and the others. -/
theorem perm_delete {m : JsMap κ ν} {k : κ} {v : ν} (h : m.get k = some v) :
    m.entries.Perm ((k, v) :: (m.delete k).entries) := by
  have hnd := m.nodup
  have hmem := get_eq_some_iff.1 h
  unfold delete
  dsimp only
  generalize m.entries = es at *
  induction es with
  | nil => cases hmem
  | cons e es ih =>
    obtain ⟨hne, hnd⟩ := List.nodup_cons.1 hnd
    by_cases he : e = (k, v)
    · subst he
      rw [List.filter_cons_of_neg (by simp), List.filter_eq_self.2]
      intro e' he'
      have hne' : e'.1 ≠ k := by
        rintro rfl
        exact hne (List.mem_map.2 ⟨e', he', rfl⟩)
      simpa using hne'
    · have hrest := (List.mem_cons.1 hmem).resolve_left fun heq => he heq.symm
      have hk : e.1 ≠ k := fun heq =>
        hne (heq ▸ List.mem_map_of_mem (f := Prod.fst) hrest)
      rw [List.filter_cons_of_pos (by simpa using hk)]
      exact ((ih hnd hrest).cons e).trans (List.Perm.swap ..)

/-- The other entries are the same after a write. -/
theorem delete_set (m : JsMap κ ν) (k : κ) (v : ν) : (m.set k v).delete k = m.delete k := by
  refine ext ?_
  show (setEntries m.entries k v).filter _ = m.entries.filter _
  unfold setEntries
  split_ifs
  · generalize m.entries = es
    induction es with
    | nil => rfl
    | cons e es ih =>
      rw [List.map_cons]
      by_cases he : e.1 = k
      · rw [if_pos he, List.filter_cons_of_neg (by simp), List.filter_cons_of_neg (by simp [he]), ih]
      · rw [if_neg he, List.filter_cons_of_pos (by simp [he]), List.filter_cons_of_pos (by simp [he]),
          ih]
  · simp

section count

variable {α : Type*} [DecidableEq α] (f : κ × ν → α) (a : α)

/-- What a table holds is what an entry of it holds, and what the others hold. -/
theorem count_delete {m : JsMap κ ν} {k : κ} {v : ν} (h : m.get k = some v) :
    (m.entries.map f).count a = [f (k, v)].count a + ((m.delete k).entries.map f).count a := by
  rw [((perm_delete h).map f).count_eq, List.map_cons, ← List.singleton_append, List.count_append]

/-- A table holds after a write no more than before, and what is written. -/
theorem count_set_le (m : JsMap κ ν) (k : κ) (v : ν) : ((m.set k v).entries.map f).count a ≤
    (m.entries.map f).count a + [f (k, v)].count a := by
  rw [count_delete f a (get_set_self m k v), delete_set, Nat.add_comm]
  exact Nat.add_le_add_right ((List.filter_sublist.map f).count_le a) _

end count

/-! ### Sizes -/

section size

variable (m : JsMap κ ν)

theorem size_set (k : κ) (v : ν) :
    (m.set k v).size = if (m.get k).isSome then m.size else m.size + 1 := by
  have hlength (m : JsMap κ ν) : m.size = (m.entries.map Prod.fst).length := by
    rw [List.length_map]
    rfl
  rw [hlength, hlength]
  show ((setEntries m.entries k v).map Prod.fst).length = _
  rw [keys_setEntries]
  by_cases hk : k ∈ m.entries.map Prod.fst
  · have hsome : (m.get k).isSome = true := by
      rw [← not_not (a := (m.get k).isSome = true), Option.not_isSome_iff_eq_none, get_eq_none_iff]
      exact not_not.2 hk
    rw [if_pos hk, if_pos hsome]
  · have hnone : m.get k = none := get_eq_none_iff.2 hk
    rw [if_neg hk, hnone, if_neg (by simp), List.length_append]
    rfl

theorem size_delete_le (k : κ) : (m.delete k).size ≤ m.size := List.length_filter_le _ _

theorem size_pos_of_get {k : κ} {v : ν} (h : m.get k = some v) : 0 < m.size :=
  List.length_pos_of_mem (get_eq_some_iff.1 h)

end size

/-! ### What a table gains and loses -/

/-- The new map holds what the old one held or what is written, and lacks of the old one only what
is dropped or written over. -/
structure Moves (old new : JsMap κ ν) (Writes Drops : κ → ν → Prop) : Prop where
  upper : ∀ k v, new.get k = some v → old.get k = some v ∨ Writes k v
  lower : ∀ k v, old.get k = some v →
    Drops k v ∨ ∃ v', new.get k = some v' ∧ (v' = v ∨ Writes k v')

namespace Moves

variable {old new : JsMap κ ν} {Writes Drops : κ → ν → Prop}

theorem refl (old : JsMap κ ν) : Moves old old Writes Drops :=
  ⟨fun _ _ => .inl, fun _ v h => .inr ⟨v, h, .inl rfl⟩⟩

theorem set (h : Moves old new Writes Drops) {k : κ} {v : ν} (hw : Writes k v) :
    Moves old (new.set k v) Writes Drops := by
  constructor
  · intro k' v' hv
    rw [get_set] at hv
    split_ifs at hv with heq
    · cases hv
      exact .inr (heq ▸ hw)
    · exact h.upper k' v' hv
  · intro k' v' hv
    by_cases heq : k' = k
    · subst heq
      exact .inr ⟨v, get_set_self new k' v, .inr hw⟩
    · rw [get_set_of_ne new heq]
      exact h.lower k' v' hv

theorem delete (h : Moves old new Writes Drops) {k : κ}
    (hd : ∀ v, old.get k = some v → Drops k v) : Moves old (new.delete k) Writes Drops := by
  refine ⟨fun k' v' hv => h.upper k' v' (get_of_get_delete hv).2, fun k' v' hv => ?_⟩
  by_cases heq : k' = k
  · subst heq
    exact .inl (hd v' hv)
  · rw [get_delete_of_ne new heq]
    exact h.lower k' v' hv

theorem filter {p : κ → ν → Bool} (hd : ∀ k v, old.get k = some v → p k v = false → Drops k v) :
    Moves old (old.filter p) Writes Drops := by
  refine ⟨fun k v hv => .inl (get_filter.1 hv).1, fun k v hv => ?_⟩
  cases hp : p k v with
  | true => exact .inr ⟨v, get_filter.2 ⟨hv, hp⟩, .inl rfl⟩
  | false => exact .inl (hd k v hv hp)

theorem empty (hd : ∀ k v, old.get k = some v → Drops k v) :
    Moves old JsMap.empty Writes Drops :=
  ⟨fun _ _ hv => by simp at hv, fun k v hv => .inl (hd k v hv)⟩

end Moves

end JsMap

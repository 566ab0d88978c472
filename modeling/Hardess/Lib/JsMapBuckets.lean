import Hardess.Lib.JsMap

/-!
# Maps of maps

A map whose values are the buckets of another map: each entry is in the bucket of its value.

* `Occupied`: no bucket is empty;
* `Buckets`: the two maps hold the same;
* **`Buckets.sum_size`**: the sizes of the buckets add up to the size of the map.
-/

namespace JsMap

variable {κ κ' ν : Type*} {t : JsMap κ (JsMap κ' ν)} {m : JsMap κ' ν}

theorem nodup_entries (m : JsMap κ' ν) : m.entries.Nodup := m.nodup.of_map Prod.fst

variable [DecidableEq κ] {k : κ} {bucket : JsMap κ' ν}

/-! ### Empty buckets -/

/-- No bucket is empty. -/
def Occupied (t : JsMap κ (JsMap κ' ν)) : Prop :=
  ∀ k bucket, t.get k = some bucket → bucket.size ≠ 0

theorem occupied_empty : Occupied (empty : JsMap κ (JsMap κ' ν)) := fun _ _ h => by simp at h

theorem Occupied.set (h : t.Occupied) (hbucket : bucket.size ≠ 0) : (t.set k bucket).Occupied := by
  intro k' bucket' hget
  rw [get_set] at hget
  split_ifs at hget
  · cases hget
    exact hbucket
  · exact h k' bucket' hget

theorem Occupied.delete (h : t.Occupied) : (t.delete k).Occupied :=
  fun k' bucket' hget => h k' bucket' (get_of_get_delete hget).2

/-! ### The same entries -/

variable [DecidableEq κ']

/-- The buckets hold the entries of the map, each under the key of its value. -/
def Buckets (key : ν → κ) (t : JsMap κ (JsMap κ' ν)) (m : JsMap κ' ν) : Prop :=
  ∀ k k' v, (∃ bucket, t.get k = some bucket ∧ bucket.get k' = some v) ↔
    m.get k' = some v ∧ key v = k

variable {key : ν → κ}

theorem Buckets.mem_bucket (h : Buckets key t m) {k' : κ'} {v : ν} :
    (k', v) ∈ ((t.get k).getD empty).entries ↔ m.get k' = some v ∧ key v = k := by
  rw [← h k k' v, ← get_eq_some_iff]
  cases t.get k <;> simp

/-- Two buckets have no entry in common. -/
theorem Buckets.disjoint (h : Buckets key t m) {e e' : κ × JsMap κ' ν} (he : e ∈ t.entries)
    (he' : e' ∈ t.entries) (hne : e.1 ≠ e'.1) : e.2.entries.Disjoint e'.2.entries := by
  rintro ⟨k', v⟩ hv hv'
  have hkey : key v = e.1 :=
    ((h e.1 k' v).1 ⟨e.2, get_eq_some_iff.2 he, get_eq_some_iff.2 hv⟩).2
  have hkey' : key v = e'.1 :=
    ((h e'.1 k' v).1 ⟨e'.2, get_eq_some_iff.2 he', get_eq_some_iff.2 hv'⟩).2
  exact hne (hkey.symm.trans hkey')

/-- Bucket after bucket, these are the entries of the map. -/
theorem Buckets.perm (h : Buckets key t m) :
    (t.entries.flatMap fun e => e.2.entries).Perm m.entries := by
  refine (List.perm_ext_iff_of_nodup ?_ m.nodup_entries).2 ?_
  · refine List.nodup_flatMap.2 ⟨fun e _ => e.2.nodup_entries, ?_⟩
    have hpairwise : t.entries.Pairwise fun e e' => e.1 ≠ e'.1 := List.pairwise_map.1 t.nodup
    exact hpairwise.imp_of_mem fun he he' hne => h.disjoint he he' hne
  · rintro ⟨k', v⟩
    rw [List.mem_flatMap, ← get_eq_some_iff]
    constructor
    · rintro ⟨e, he, hv⟩
      exact ((h e.1 k' v).1 ⟨e.2, get_eq_some_iff.2 he, get_eq_some_iff.2 hv⟩).1
    · intro hv
      obtain ⟨bucket, hbucket, hv'⟩ := (h (key v) k' v).2 ⟨hv, rfl⟩
      exact ⟨(key v, bucket), get_eq_some_iff.1 hbucket, get_eq_some_iff.1 hv'⟩

/-- **The sizes of the buckets add up to the size of the map.** -/
theorem Buckets.sum_size (h : Buckets key t m) :
    (t.entries.map fun e => e.2.size).sum = m.size := by
  have hlength := h.perm.length_eq
  rw [List.length_flatMap] at hlength
  exact hlength

end JsMap

import Mathlib.Data.List.DropRight

/-!
# The last elements of a list

`List.rtake n` keeps the last `n` elements.

* `rtake_rtake`, `rtake_append_of_le`: the last ones of a list that is cut or extended;
* `rtake_rtake_append`: what was cut before the list grew is not missed by a later cut;
* `rtake_length_rtake_append`: what a cut leaves of the elements that were gained.
-/

namespace List

variable {α : Type*} {l l' : List α} {m n : ℕ}

theorem rtake_of_length_le (h : l.length ≤ n) : l.rtake n = l := by
  rw [rtake, Nat.sub_eq_zero_of_le h, drop_zero]

theorem rtake_rtake (l : List α) (m n : ℕ) : (l.rtake m).rtake n = l.rtake (min n m) := by
  rw [rtake_eq_reverse_take_reverse, rtake_eq_reverse_take_reverse, reverse_reverse, take_take,
    ← rtake_eq_reverse_take_reverse]

theorem rtake_append_of_le (h : n ≤ l'.length) : (l ++ l').rtake n = l'.rtake n := by
  have hlen : (l ++ l').length - n = l.length + (l'.length - n) := by
    rw [length_append]
    omega
  rw [rtake, hlen, drop_length_add_append, rtake]

theorem rtake_rtake_append (l l' : List α) (m : ℕ) :
    (l.rtake m ++ l').rtake m = (l ++ l').rtake m := by
  have hmin : min (m - l'.length) m = m - l'.length := Nat.min_eq_left (Nat.sub_le _ _)
  rw [rtake_eq_reverse_take_reverse, rtake_eq_reverse_take_reverse,
    rtake_eq_reverse_take_reverse, reverse_append, reverse_append, reverse_reverse, take_append,
    take_append, take_take, length_reverse, hmin]

theorem rtake_length_rtake_append (l l' : List α) (m : ℕ) :
    ((l ++ l').rtake m).rtake l'.length = l'.rtake (min l'.length m) := by
  rw [rtake_rtake, rtake_append_of_le (Nat.min_le_left _ _)]

end List

import Mathlib.Data.List.Basic
import Mathlib.Order.Lattice

/-!
# Sliding windows

A limiter lets an event through when fewer than `m` events of the last `w` went through. It keeps
the times of some events and forgets those that no longer count.

* `recent`: what counts now;
* `Remembers`: what is kept counts as the history does, now and later;
* `Spaced`: in no stretch of less than `w` did more than `m` events go through;
* `Spaced.admit`: a limiter that remembers the history keeps it so.
-/

namespace SlidingWindow

variable {α : Type*} [LinearOrder α] [Add α] {w now later : α} {kept history : List α} {m : ℕ}

/-- The times that count now. -/
def recent (w now : α) (times : List α) : List α := times.filter fun t => now < t + w

/-- The times that are kept count as the whole history does, from now on. -/
def Remembers (w now : α) (kept history : List α) : Prop :=
  ∀ later, now ≤ later → recent w later kept = recent w later history

/-- Times that all lie within less than `w` of each other are at most `m`. -/
def Spaced (w : α) (m : ℕ) (history : List α) : Prop :=
  ∀ p : α → Bool, (∀ s t, p s = true → p t = true → s < t + w) → history.countP p ≤ m

/-- What counts later counts now. -/
theorem recent_recent (h : now ≤ later) (times : List α) :
    recent w later (recent w now times) = recent w later times := by
  unfold recent
  rw [List.filter_filter]
  refine List.filter_congr fun t _ => ?_
  by_cases hlater : later < t + w
  · simp [hlater, h.trans_lt hlater]
  · simp [hlater]

theorem remembers_nil (w now : α) : Remembers w now [] [] := fun _ _ => rfl

theorem Remembers.mono (h : Remembers w now kept history) (hle : now ≤ later) :
    Remembers w later kept history := fun last hlast => h last (hle.trans hlast)

theorem Remembers.prune (h : Remembers w now kept history) :
    Remembers w now (recent w now kept) history := fun later hle => by
  rw [recent_recent hle, h later hle]

theorem Remembers.admit (h : Remembers w now kept history) (t : α) :
    Remembers w now (kept ++ [t]) (history ++ [t]) := fun later hle => by
  unfold recent
  rw [List.filter_append, List.filter_append]
  exact congrArg (· ++ _) (h later hle)

theorem spaced_nil (w : α) (m : ℕ) : Spaced w m [] := fun _ _ => Nat.zero_le m

/-- What counts now, counted in the history. -/
theorem Remembers.length_recent (h : Remembers w now kept history) :
    (recent w now kept).length = history.countP fun t => now < t + w := by
  rw [h now le_rfl, List.countP_eq_length_filter]
  rfl

/-- **A limiter that remembers the history keeps it spaced.** -/
theorem Spaced.admit (h : Spaced w m history) (hremembers : Remembers w now kept history)
    (hroom : (recent w now kept).length < m) : Spaced w m (history ++ [now]) := by
  intro p hp
  rw [List.countP_append, List.countP_singleton]
  split_ifs with hnow
  · -- what lies within `w` of now still counts
    have hle : history.countP p ≤ history.countP fun t => now < t + w :=
      List.countP_mono_left fun t _ ht => by simpa using hp now t hnow ht
    rw [hremembers.length_recent] at hroom
    omega
  · exact h p hp

end SlidingWindow

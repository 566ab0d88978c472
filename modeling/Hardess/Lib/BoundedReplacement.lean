import Mathlib.Data.Finset.Card
import Mathlib.Tactic

/-!
# Replacing the members of a group within bounds

A group (a list without repetitions) is led towards a target in two passes: `enlarge` adds what is
missing while the group is smaller than a limit, `retire` removes what does not stay, up to a budget
and as long as enough is left.

* `enlarge_eq` and `retire_eq` say what each pass can do;
* `exists_enlarged`, `exists_retired`: when a pass gets somewhere;
* `enlarge_eq_self`: when nothing is missing;
* `distance`: how many elements a group has to gain or lose; `distance_lt` and `eventually_reached`:
  a process that comes nearer to its target in every step arrives there.
-/

namespace BoundedReplacement

variable {α : Type*} [DecidableEq α]

/-- Add the elements of a list that are missing, while the group is smaller than a limit. -/
def enlarge (limit : ℕ) : List α → List α → List α
  | group, [] => group
  | group, x :: xs =>
    if limit ≤ group.length then group
    else if x ∈ group then enlarge limit group xs
    else enlarge limit (group ++ [x]) xs

/-- Remove the elements of a list that do not stay, as long as the budget lasts; one whose removal
does not leave enough is passed over. -/
def retire (stays : α → Bool) (enough : List α → Bool) : ℕ → List α → List α → List α
  | _, group, [] => group
  | budget, group, x :: xs =>
    if budget = 0 then group
    else if stays x then retire stays enough budget group xs
    else if enough (group.filter (· ≠ x)) then
      retire stays enough (budget - 1) (group.filter (· ≠ x)) xs
    else retire stays enough budget group xs

/-! ### Additions -/

/-- **What `enlarge` adds**: new elements of the list, each once, up to the limit. -/
theorem enlarge_eq (limit : ℕ) (group xs : List α) :
    ∃ added, enlarge limit group xs = group ++ added ∧ (∀ x ∈ added, x ∈ xs ∧ x ∉ group) ∧
      added.Nodup ∧ (group ++ added).length ≤ max limit group.length := by
  induction xs generalizing group with
  | nil => exact ⟨[], by simp [enlarge]⟩
  | cons x xs ih =>
    rw [enlarge]
    split_ifs with hfull hmem
    · exact ⟨[], by simp⟩
    · obtain ⟨added, heq, hnew, hnodup, hlength⟩ := ih group
      exact ⟨added, heq, fun y hy => ⟨List.mem_cons_of_mem x (hnew y hy).1, (hnew y hy).2⟩, hnodup,
        hlength⟩
    · obtain ⟨added, heq, hnew, hnodup, hlength⟩ := ih (group ++ [x])
      refine ⟨x :: added, by rw [heq, List.append_assoc]; rfl, ?_, ?_, ?_⟩
      · rintro y hy
        obtain rfl | hy := List.mem_cons.1 hy
        · exact ⟨List.mem_cons_self, hmem⟩
        · obtain ⟨hxs, hgroup⟩ := hnew y hy
          rw [List.mem_append, not_or] at hgroup
          exact ⟨List.mem_cons_of_mem x hxs, hgroup.1⟩
      · refine List.nodup_cons.2 ⟨fun hx => ?_, hnodup⟩
        exact (hnew x hx).2 (by simp)
      · simp only [List.length_append, List.length_cons, List.length_nil] at hlength ⊢
        omega

theorem subset_enlarge (limit : ℕ) (group xs : List α) : group ⊆ enlarge limit group xs := by
  obtain ⟨added, heq, -⟩ := enlarge_eq limit group xs
  rw [heq]
  exact List.subset_append_left group added

/-- Nothing is added when nothing is missing. -/
theorem enlarge_eq_self {limit : ℕ} {group xs : List α} (h : ∀ x ∈ xs, x ∈ group) :
    enlarge limit group xs = group := by
  obtain ⟨added, heq, hnew, -⟩ := enlarge_eq limit group xs
  cases added with
  | nil => simpa using heq
  | cons x added =>
    obtain ⟨hxs, hgroup⟩ := hnew x List.mem_cons_self
    exact absurd (h x hxs) hgroup

/-- Something is added when something is missing and there is room. -/
theorem exists_enlarged {limit : ℕ} {group xs : List α} (hroom : group.length < limit)
    (h : ∃ x ∈ xs, x ∉ group) : ∃ x ∈ enlarge limit group xs, x ∈ xs ∧ x ∉ group := by
  induction xs with
  | nil => obtain ⟨x, hx, -⟩ := h; simp at hx
  | cons x xs ih =>
    rw [enlarge, if_neg (by omega)]
    split_ifs with hmem
    · obtain ⟨y, hy, hmissing⟩ := h
      obtain rfl | hy := List.mem_cons.1 hy
      · exact absurd hmem hmissing
      · obtain ⟨z, hz, hxs, hgroup⟩ := ih ⟨y, hy, hmissing⟩
        exact ⟨z, hz, List.mem_cons_of_mem x hxs, hgroup⟩
    · exact ⟨x, subset_enlarge limit (group ++ [x]) xs (by simp), List.mem_cons_self, hmem⟩

/-! ### Removals -/

theorem mem_filter_notMem {group removed : List α} {x : α} :
    x ∈ group.filter (· ∉ removed) ↔ x ∈ group ∧ x ∉ removed := by
  rw [List.mem_filter, decide_eq_true_eq]

/-- **What `retire` removes**: elements of the list that do not stay, up to the budget; and if it
removes any, it leaves enough. -/
theorem retire_eq (stays : α → Bool) (enough : List α → Bool) (budget : ℕ) (group xs : List α) :
    ∃ removed, retire stays enough budget group xs = group.filter (· ∉ removed) ∧
      (∀ x ∈ removed, x ∈ xs ∧ stays x = false) ∧ removed.length ≤ budget ∧
      (removed ≠ [] → enough (retire stays enough budget group xs) = true) := by
  induction xs generalizing budget group with
  | nil => exact ⟨[], by simp [retire]⟩
  | cons x xs ih =>
    rw [retire]
    split_ifs with hbudget hstays henough
    · exact ⟨[], by simp⟩
    · obtain ⟨removed, heq, hgone, hlength, hleft⟩ := ih budget group
      exact ⟨removed, heq, fun y hy => ⟨List.mem_cons_of_mem x (hgone y hy).1, (hgone y hy).2⟩,
        hlength, hleft⟩
    · obtain ⟨removed, heq, hgone, hlength, hleft⟩ := ih (budget - 1) (group.filter (· ≠ x))
      refine ⟨x :: removed, ?_, ?_, by simp only [List.length_cons]; omega, fun _ => ?_⟩
      · rw [heq, List.filter_filter]
        refine List.filter_congr fun y _ => ?_
        simp [not_or, Bool.and_comm]
      · rintro y hy
        obtain rfl | hy := List.mem_cons.1 hy
        · exact ⟨List.mem_cons_self, by simpa using hstays⟩
        · exact ⟨List.mem_cons_of_mem x (hgone y hy).1, (hgone y hy).2⟩
      · -- later removals check again, and without them this one has been checked
        cases removed with
        | nil =>
          rw [heq]
          simpa using henough
        | cons y removed => exact hleft (by simp)
    · obtain ⟨removed, heq, hgone, hlength, hleft⟩ := ih budget group
      exact ⟨removed, heq, fun y hy => ⟨List.mem_cons_of_mem x (hgone y hy).1, (hgone y hy).2⟩,
        hlength, hleft⟩

theorem retire_subset (stays : α → Bool) (enough : List α → Bool) (budget : ℕ)
    (group xs : List α) : retire stays enough budget group xs ⊆ group := by
  obtain ⟨removed, heq, -⟩ := retire_eq stays enough budget group xs
  rw [heq]
  exact List.filter_sublist.subset

/-- What stays is still there. -/
theorem mem_retire_of_stays {stays : α → Bool} {enough : List α → Bool} {budget : ℕ}
    {group xs : List α} {x : α} (hx : x ∈ group) (h : stays x = true ∨ x ∉ xs) :
    x ∈ retire stays enough budget group xs := by
  obtain ⟨removed, heq, hgone, -⟩ := retire_eq stays enough budget group xs
  rw [heq, mem_filter_notMem]
  refine ⟨hx, fun hremoved => ?_⟩
  obtain ⟨hxs, hstays⟩ := hgone x hremoved
  obtain h | h := h
  · rw [h] at hstays
    exact Bool.noConfusion hstays
  · exact h hxs

/-- Something is removed when one removal leaves enough. -/
theorem exists_retired (stays : α → Bool) (enough : List α → Bool) {budget : ℕ}
    {group xs : List α} (hbudget : 0 < budget)
    (h : ∃ x ∈ xs, stays x = false ∧ enough (group.filter (· ≠ x)) = true) :
    ∃ x ∈ xs, stays x = false ∧ x ∉ retire stays enough budget group xs := by
  induction xs with
  | nil => obtain ⟨x, hx, -⟩ := h; simp at hx
  | cons x xs ih =>
    rw [retire, if_neg hbudget.ne']
    -- unless the head is removed, the removal is one of the tail
    have htail : ¬(stays x = false ∧ enough (group.filter (· ≠ x)) = true) →
        ∃ y ∈ x :: xs, stays y = false ∧ y ∉ retire stays enough budget group xs := by
      intro hhead
      obtain ⟨y, hy, hleaves⟩ := h
      obtain rfl | hy := List.mem_cons.1 hy
      · exact absurd hleaves hhead
      · obtain ⟨z, hz, hgone⟩ := ih ⟨y, hy, hleaves⟩
        exact ⟨z, List.mem_cons_of_mem x hz, hgone⟩
    split_ifs with hstays henough
    · exact htail (by simp [hstays])
    · refine ⟨x, List.mem_cons_self, by simpa using hstays, fun hx => ?_⟩
      have hkept := retire_subset _ _ _ _ _ hx
      simp at hkept
    · exact htail fun hhead => henough hhead.2

theorem length_filter_ne {group : List α} (h : group.Nodup) {x : α} (hx : x ∈ group) :
    (group.filter (· ≠ x)).length + 1 = group.length := by
  have herase : group.filter (· ≠ x) = group.erase x := by
    rw [h.erase_eq_filter]
    exact List.filter_congr fun y _ => by by_cases hy : y = x <;> simp [hy]
  rw [herase, List.length_erase_of_mem hx]
  have hpos := List.length_pos_of_mem hx
  omega

/-! ### Coming nearer -/

/-- How many elements a group has to gain or lose. -/
def distance (target group : Finset α) : ℕ := (target \ group).card + (group \ target).card

theorem distance_eq_zero_iff {target group : Finset α} :
    distance target group = 0 ↔ group = target := by
  unfold distance
  rw [Nat.add_eq_zero_iff, Finset.card_eq_zero, Finset.card_eq_zero,
    Finset.sdiff_eq_empty_iff_subset, Finset.sdiff_eq_empty_iff_subset]
  exact ⟨fun h => h.2.antisymm h.1, fun h => ⟨h.ge, h.le⟩⟩

/-- Something missing was gained, or something else lost, and nothing went the other way. -/
theorem distance_lt {target group next : Finset α} (hgain : target \ next ⊆ target \ group)
    (hloss : next \ target ⊆ group \ target)
    (h : target \ next ≠ target \ group ∨ next \ target ≠ group \ target) :
    distance target next < distance target group := by
  have hgain' := Finset.card_le_card hgain
  have hloss' := Finset.card_le_card hloss
  unfold distance
  obtain h | h := h
  · have hlt := Finset.card_lt_card (hgain.ssubset_of_ne h)
    omega
  · have hlt := Finset.card_lt_card (hloss.ssubset_of_ne h)
    omega

/-- **A process that comes nearer to its target in every step arrives there and stays.** -/
theorem eventually_reached {target : Finset α} {group : ℕ → Finset α}
    (hnear : ∀ k, group k ≠ target → distance target (group (k + 1)) < distance target (group k))
    (hstay : ∀ k, group k = target → group (k + 1) = target) :
    ∃ n, ∀ m, n ≤ m → group m = target := by
  have hbound : ∀ k, group k = target ∨
      distance target (group k) + k ≤ distance target (group 0) := by
    intro k
    induction k with
    | zero => exact .inr le_rfl
    | succ k ih =>
      by_cases hk : group k = target
      · exact .inl (hstay k hk)
      · have hlt := hnear k hk
        have hle := ih.resolve_left hk
        exact .inr (by omega)
  have hreached : group (distance target (group 0) + 1) = target := by
    refine (hbound _).resolve_right ?_
    omega
  refine ⟨distance target (group 0) + 1, fun m hm => ?_⟩
  induction m, hm using Nat.le_induction with
  | base => exact hreached
  | succ m _ ih => exact hstay m ih

end BoundedReplacement

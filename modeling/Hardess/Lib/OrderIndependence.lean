import Hardess.Lib.SortedPerm

/-!
# What does not depend on the order of a list

Values that are collected from a list by keeping the first or the last one, and keys that are
collected without repetition and then sorted by a relation that may put two of them both ways.

* `Agree`: the elements of a list that have a value have the same one;
* `findSome?_perm_iff`: the first value does not depend on the order just in case they agree;
* `distinct`: a list without repetitions, in the order of the first occurrences;
* `unordered_sortDistinct_iff`: the sorted keys do not depend on the order just in case, of two keys
  that are put both ways, all elements of the list have the same one first.
-/

namespace OrderIndependence

open SortedPerm

variable {α β κ : Type*}

/-! ### Values -/

/-- The elements that have a value have the same one. -/
def Agree (f : α → Option β) (l : List α) : Prop :=
  ∀ a ∈ l, ∀ b ∈ l, ∀ u v, f a = some u → f b = some v → u = v

variable {f : α → Option β} {l : List α}

theorem Agree.findSome?_eq (h : Agree f l) {a : α} (ha : a ∈ l) {u : β} (hu : f a = some u) :
    l.findSome? f = some u := by
  cases hfind : l.findSome? f with
  | none => rw [List.findSome?_eq_none_iff.1 hfind a ha] at hu; cases hu
  | some v =>
    obtain ⟨b, hb, hv⟩ := List.exists_of_findSome?_eq_some hfind
    rw [h a ha b hb u v hu hv]

/-- **The first value does not depend on the order just in case the values agree.** -/
theorem findSome?_perm_iff :
    (∀ l' : List α, l'.Perm l → l'.findSome? f = l.findSome? f) ↔ Agree f l := by
  constructor
  · -- any element may come first
    have hfirst : ∀ a ∈ l, ∀ u, f a = some u → ∃ l' : List α,
        l'.Perm l ∧ l'.findSome? f = some u := by
      intro a ha u hu
      obtain ⟨s, t, rfl⟩ := List.append_of_mem ha
      exact ⟨a :: (s ++ t), List.perm_middle.symm, by rw [List.findSome?_cons, hu]⟩
    intro h a ha b hb u v hu hv
    obtain ⟨l₁, hperm₁, h₁⟩ := hfirst a ha u hu
    obtain ⟨l₂, hperm₂, h₂⟩ := hfirst b hb v hv
    rw [h l₁ hperm₁] at h₁
    rw [h l₂ hperm₂, h₁] at h₂
    exact Option.some.inj h₂
  · intro h l' hperm
    cases hfind : l.findSome? f with
    | none =>
      rw [List.findSome?_eq_none_iff] at hfind ⊢
      exact fun a ha => hfind a (hperm.mem_iff.1 ha)
    | some u =>
      obtain ⟨a, ha, hu⟩ := List.exists_of_findSome?_eq_some hfind
      have h' : Agree f l' := fun a ha b hb =>
        h a (hperm.mem_iff.1 ha) b (hperm.mem_iff.1 hb)
      exact h'.findSome?_eq (hperm.mem_iff.2 ha) hu

/-- The same for the last value. -/
theorem findSome?_reverse_perm_iff :
    (∀ l' : List α, l'.Perm l → l'.reverse.findSome? f = l.reverse.findSome? f) ↔ Agree f l := by
  rw [← findSome?_perm_iff]
  constructor
  · intro h l' hperm
    have hreverse := h l'.reverse ((List.reverse_perm l').trans hperm)
    have hself := h l.reverse (List.reverse_perm l)
    rw [List.reverse_reverse] at hreverse hself
    rw [hreverse, hself]
  · intro h l' hperm
    rw [h _ ((List.reverse_perm l').trans hperm), h _ (List.reverse_perm l)]

/-! ### Lists without repetitions -/

section Pairs

variable {a b : κ} {s : List κ}

/-- Of two elements of a list without repetitions, one stands before the other. -/
theorem pair_sublist_or (ha : a ∈ s) (hb : b ∈ s) (hne : a ≠ b) :
    [a, b].Sublist s ∨ [b, a].Sublist s := by
  induction s with
  | nil => cases ha
  | cons x s ih =>
    rcases List.mem_cons.1 ha with rfl | ha'
    · have hb := (List.mem_cons.1 hb).resolve_left hne.symm
      exact Or.inl ((List.singleton_sublist.2 hb).cons_cons a)
    · rcases List.mem_cons.1 hb with rfl | hb
      · exact Or.inr ((List.singleton_sublist.2 ha').cons_cons b)
      · exact (ih ha' hb).imp (fun h => h.cons x) fun h => h.cons x

theorem not_pair_sublist_both (hs : s.Nodup) (hab : [a, b].Sublist s) : ¬[b, a].Sublist s := by
  induction s with
  | nil => cases hab
  | cons x s ih =>
    obtain ⟨hx, hs⟩ := List.nodup_cons.1 hs
    intro hba
    rcases List.sublist_cons_iff.1 hab with hrest | ⟨r, hr, hrest⟩
    · rcases List.sublist_cons_iff.1 hba with hrest' | ⟨r, hr, -⟩
      · exact ih hs hrest hrest'
      · obtain ⟨rfl, rfl⟩ := List.cons.inj hr
        exact hx (hrest.subset (List.mem_cons_of_mem _ List.mem_cons_self))
    · obtain ⟨rfl, rfl⟩ := List.cons.inj hr
      rcases List.sublist_cons_iff.1 hba with hrest' | ⟨r, hr, -⟩
      · exact hx (hrest'.subset (List.mem_cons_of_mem _ List.mem_cons_self))
      · obtain ⟨rfl, rfl⟩ := List.cons.inj hr
        exact hx (hrest.subset List.mem_cons_self)

theorem pair_sublist_concat {y : κ} : [a, b].Sublist (s ++ [y]) ↔
    [a, b].Sublist s ∨ b = y ∧ a ∈ s := by
  rw [← List.reverse_sublist, List.reverse_append, List.reverse_singleton,
    List.singleton_append, List.sublist_cons_iff, List.reverse_sublist]
  refine or_congr_right ⟨?_, ?_⟩
  · rintro ⟨r, hr, hrest⟩
    obtain ⟨rfl, rfl⟩ := List.cons.inj hr
    exact ⟨rfl, List.mem_reverse.1 (List.singleton_sublist.1 hrest)⟩
  · rintro ⟨rfl, ha⟩
    exact ⟨[a], rfl, List.singleton_sublist.2 (List.mem_reverse.2 ha)⟩

end Pairs

variable [DecidableEq κ]

/-- Add an element at the end, if it is new. -/
def insertNew (s : List κ) (x : κ) : List κ := if x ∈ s then s else s ++ [x]

/-- The list without repetitions, in the order of the first occurrences. -/
def distinct (xs : List κ) : List κ := xs.foldl insertNew []

@[simp] theorem distinct_nil : distinct ([] : List κ) = [] := rfl

theorem distinct_concat (xs : List κ) (x : κ) :
    distinct (xs ++ [x]) = insertNew (distinct xs) x := List.foldl_concat ..

@[simp] theorem mem_insertNew {s : List κ} {x y : κ} : y ∈ insertNew s x ↔ y ∈ s ∨ y = x := by
  unfold insertNew
  split_ifs with h
  · exact ⟨Or.inl, fun hy => hy.elim id fun heq => heq ▸ h⟩
  · rw [List.mem_append, List.mem_singleton]

@[simp] theorem mem_distinct {xs : List κ} {x : κ} : x ∈ distinct xs ↔ x ∈ xs := by
  induction xs using List.reverseRecOn with
  | nil => simp
  | append_singleton xs y ih => rw [distinct_concat, mem_insertNew, ih, List.mem_append,
      List.mem_singleton]

theorem nodup_distinct (xs : List κ) : (distinct xs).Nodup := by
  induction xs using List.reverseRecOn with
  | nil => exact List.nodup_nil
  | append_singleton xs y ih =>
    rw [distinct_concat, insertNew]
    split_ifs with h
    · exact ih
    · exact List.Nodup.append ih (List.nodup_singleton y) (by simpa using h)

theorem distinct_map {μ : Type*} [DecidableEq μ] {f : κ → μ} {xs : List κ}
    (hinj : ∀ x ∈ xs, ∀ y ∈ xs, f x = f y → x = y) :
    distinct (xs.map f) = (distinct xs).map f := by
  induction xs using List.reverseRecOn with
  | nil => rfl
  | append_singleton xs y ih =>
    have hrest : distinct (xs.map f) = (distinct xs).map f := ih fun x hx z hz =>
      hinj x (List.mem_append_left _ hx) z (List.mem_append_left _ hz)
    have hiff : f y ∈ (distinct xs).map f ↔ y ∈ distinct xs := by
      refine ⟨fun hy => ?_, List.mem_map_of_mem⟩
      obtain ⟨x, hx, heq⟩ := List.mem_map.1 hy
      rwa [← hinj x (List.mem_append_left _ (mem_distinct.1 hx)) y (by simp) heq]
    rw [List.map_append, List.map_singleton, distinct_concat, distinct_concat, hrest, insertNew,
      insertNew]
    simp only [hiff]
    split_ifs
    · rfl
    · rw [List.map_append, List.map_singleton]

/-- Which of two elements comes first. -/
def firstOf (a b : κ) (xs : List κ) : Option κ := xs.find? fun x => x = a ∨ x = b

theorem firstOf_eq_some {a b : κ} {xs : List κ} {x : κ} (h : firstOf a b xs = some x) :
    (x = a ∨ x = b) ∧ x ∈ xs :=
  ⟨of_decide_eq_true (List.find?_some (p := fun x => decide (x = a ∨ x = b)) h),
    List.mem_of_find?_eq_some h⟩

/-- The first of two elements, if only one of them comes. -/
theorem firstOf_of_notMem {a b : κ} {xs : List κ} (hb : b ∉ xs) :
    firstOf a b xs = if a ∈ xs then some a else none := by
  cases hfirst : firstOf a b xs with
  | none =>
    have hnone := List.find?_eq_none.1 hfirst
    have ha : a ∉ xs := fun ha => hnone a ha (decide_eq_true (Or.inl rfl))
    rw [if_neg ha]
  | some x =>
    obtain ⟨hx | hx, hmem⟩ := firstOf_eq_some hfirst
    · subst hx
      rw [if_pos hmem]
    · exact absurd (hx ▸ hmem) hb

theorem firstOf_comm (a b : κ) (xs : List κ) : firstOf a b xs = firstOf b a xs := by
  unfold firstOf
  simp only [or_comm]

theorem firstOf_concat (a b : κ) (xs : List κ) (y : κ) : firstOf a b (xs ++ [y]) =
    (firstOf a b xs).or (if y = a ∨ y = b then some y else none) := by
  unfold firstOf
  rw [List.find?_append, List.find?_singleton]
  simp only [decide_eq_true_eq]

/-- One element stands before another one if it comes first and the other one comes. -/
theorem pair_sublist_distinct {a b : κ} (hne : a ≠ b) {xs : List κ} :
    [a, b].Sublist (distinct xs) ↔ b ∈ xs ∧ firstOf a b xs = some a := by
  induction xs using List.reverseRecOn with
  | nil => simp [firstOf]
  | append_singleton xs y ih =>
    rw [distinct_concat, insertNew, firstOf_concat, List.mem_append, List.mem_singleton]
    split_ifs with hmem hab hab
    · -- the element has come before
      rw [mem_distinct] at hmem
      rw [ih]
      have hsome : (firstOf a b xs).isSome = true :=
        List.find?_isSome.2 ⟨y, hmem, decide_eq_true hab⟩
      obtain ⟨x, hx⟩ := Option.isSome_iff_exists.1 hsome
      rw [hx, Option.some_or]
      exact and_congr_left fun _ => ⟨Or.inl, fun hb => hb.elim id fun heq => heq ▸ hmem⟩
    · rw [not_or] at hab
      rw [ih, Option.or_none]
      exact and_congr_left fun _ => (or_iff_left fun heq => hab.2 heq.symm).symm
    · rw [mem_distinct] at hmem
      rw [pair_sublist_concat, ih, mem_distinct]
      rcases hab with rfl | rfl
      · -- it is the first one, and the other one has come before
        rw [firstOf_comm, firstOf_of_notMem hmem]
        by_cases hb : b ∈ xs <;> simp [hb, hne.symm]
      · rw [firstOf_of_notMem hmem]
        by_cases ha : a ∈ xs <;> simp [ha, hmem, hne.symm]
    · rw [not_or] at hab
      rw [pair_sublist_concat, ih, Option.or_none, or_iff_left fun h => hab.2 h.1.symm,
        or_iff_left fun heq => hab.2 heq.symm]

/-- Which of two elements comes first is what a list without repetitions shows of them. -/
theorem firstOf_eq_iff {a b : κ} (hne : a ≠ b) {xs ys : List κ} (h : ∀ x, x ∈ xs ↔ x ∈ ys) :
    firstOf a b xs = firstOf a b ys ↔
      ([a, b].Sublist (distinct xs) ↔ [a, b].Sublist (distinct ys)) := by
  rw [pair_sublist_distinct hne, pair_sublist_distinct hne]
  by_cases hb : b ∈ xs
  · have hfirst : ∀ {zs : List κ}, b ∈ zs → firstOf a b zs = some a ∨ firstOf a b zs = some b := by
      intro zs hb
      have hsome : (firstOf a b zs).isSome = true :=
        List.find?_isSome.2 ⟨b, hb, decide_eq_true (Or.inr rfl)⟩
      obtain ⟨x, hx⟩ := Option.isSome_iff_exists.1 hsome
      rw [hx, Option.some.injEq, Option.some.injEq]
      exact (firstOf_eq_some hx).1
    have hb' : b ∈ ys := (h b).1 hb
    rcases hfirst hb with hx | hx <;> rcases hfirst hb' with hy | hy <;>
      simp [hx, hy, hb, hb', hne, hne.symm]
  · have hb' : b ∉ ys := fun hy => hb ((h b).2 hy)
    rw [firstOf_of_notMem hb, firstOf_of_notMem hb']
    simp only [h, hb', false_and]

/-! ### Sorted lists without repetitions -/

section Ties

omit [DecidableEq κ]

variable {r : κ → κ → Prop} [DecidableRel r]

/-- What is sorted stands as before, where the relation puts it both ways. -/
theorem pair_sublist_of_insertionSort {s : List κ} (hs : s.Nodup) {a b : κ} (hba : r b a)
    (hab : [a, b].Sublist (s.insertionSort r)) : [a, b].Sublist s := by
  have hnodup : (s.insertionSort r).Nodup := (List.perm_insertionSort r s).nodup_iff.2 hs
  have hne : a ≠ b := by
    rintro rfl
    exact absurd (hab.nodup hnodup) (by simp)
  have ha : a ∈ s := (List.mem_insertionSort r).1 (hab.subset List.mem_cons_self)
  have hb : b ∈ s :=
    (List.mem_insertionSort r).1 (hab.subset (List.mem_cons_of_mem _ List.mem_cons_self))
  refine (pair_sublist_or ha hb hne).resolve_right fun hpair => ?_
  exact not_pair_sublist_both hnodup hab (List.pair_sublist_insertionSort hba hpair)

/-- **Lists with the same elements are sorted alike just in case they have those in the same order
that the relation puts both ways.** -/
theorem insertionSort_eq_iff (h : Orders r) {s t : List κ} (hs : s.Nodup) (hperm : s.Perm t) :
    s.insertionSort r = t.insertionSort r ↔
      ∀ a b, a ≠ b → r a b → r b a → ([a, b].Sublist s ↔ [a, b].Sublist t) := by
  have ht : t.Nodup := hperm.nodup_iff.1 hs
  constructor
  · intro heq a b _ hab hba
    constructor
    · intro hpair
      have hsort := List.pair_sublist_insertionSort hab hpair
      rw [heq] at hsort
      exact pair_sublist_of_insertionSort ht hba hsort
    · intro hpair
      have hsort := List.pair_sublist_insertionSort hab hpair
      rw [← heq] at hsort
      exact pair_sublist_of_insertionSort hs hba hsort
  · intro hties
    -- both are sorted by the relation, and by the order of `s` where it puts elements both ways
    have hpairs : ∀ u : List κ, u.Nodup →
        (∀ a b, a ≠ b → r a b → r b a → [a, b].Sublist u → [a, b].Sublist s) →
          (u.insertionSort r).Pairwise fun a b => r a b ∧ (r b a → [a, b].Sublist s) := by
      intro u hu hlike
      rw [List.pairwise_iff_forall_sublist]
      intro a b hpair
      have hab : r a b := List.pairwise_iff_forall_sublist.1 (h.pairwise_insertionSort u) hpair
      refine ⟨hab, fun hba => ?_⟩
      have hne : a ≠ b := by
        rintro rfl
        exact absurd (hpair.nodup ((List.perm_insertionSort r u).nodup_iff.2 hu)) (by simp)
      exact hlike a b hne hab hba (pair_sublist_of_insertionSort hu hba hpair)
    refine List.Perm.eq_of_pairwise ?_ (hpairs s hs fun _ _ _ _ _ h => h)
      (hpairs t ht fun a b hne hab hba => (hties a b hne hab hba).2)
      ((List.perm_insertionSort r s).trans (hperm.trans (List.perm_insertionSort r t).symm))
    rintro a b - - ⟨hab, hfirst⟩ ⟨hba, hlast⟩
    by_contra hne
    exact not_pair_sublist_both hs (hfirst hba) (hlast hab)

end Ties

/-! ### Functions of a list -/

/-- The function does not depend on the order of the list. -/
def Unordered {γ : Type*} (F : List α → γ) (l : List α) : Prop :=
  ∀ l' : List α, l'.Perm l → F l' = F l

theorem unordered_findSome?_iff : Unordered (List.findSome? f) l ↔ Agree f l := findSome?_perm_iff

/-- Of two keys that the relation puts both ways, all elements of the list that have one of them
have the same one first. -/
def TiesAgree (r : κ → κ → Prop) (K : α → List κ) (l : List α) : Prop :=
  ∀ a b, a ≠ b → r a b → r b a → Agree (fun s => firstOf a b (K s)) l

/-- **The sorted keys do not depend on the order just in case the elements agree on the keys that
are put both ways.** -/
theorem unordered_sortDistinct_iff {r : κ → κ → Prop} [DecidableRel r] (h : Orders r)
    {K : α → List κ} :
    Unordered (fun l => (distinct (l.flatMap K)).insertionSort r) l ↔ TiesAgree r K l := by
  have hmem : ∀ {l' : List α}, l'.Perm l → ∀ x, x ∈ l'.flatMap K ↔ x ∈ l.flatMap K :=
    fun hperm x => (hperm.flatMap_right K).mem_iff
  have hfind : ∀ (a b : κ) (l : List α),
      firstOf a b (l.flatMap K) = l.findSome? fun s => firstOf a b (K s) := fun _ _ _ =>
    List.find?_flatMap
  have hsort : ∀ {l' : List α}, l'.Perm l →
      ((distinct (l'.flatMap K)).insertionSort r = (distinct (l.flatMap K)).insertionSort r ↔
        ∀ a b, a ≠ b → r a b → r b a → (l'.findSome? fun s => firstOf a b (K s)) =
          l.findSome? fun s => firstOf a b (K s)) := by
    intro l' hperm
    have hdistinct : (distinct (l'.flatMap K)).Perm (distinct (l.flatMap K)) :=
      (List.perm_ext_iff_of_nodup (nodup_distinct _) (nodup_distinct _)).2 fun x => by
        rw [mem_distinct, mem_distinct, hmem hperm]
    rw [insertionSort_eq_iff h (nodup_distinct _) hdistinct]
    refine forall_congr' fun a => forall_congr' fun b => forall_congr' fun hne => ?_
    rw [← hfind, ← hfind, firstOf_eq_iff hne (hmem hperm)]
  constructor
  · intro hun a b hne hab hba
    exact findSome?_perm_iff.1 fun l' hperm => (hsort hperm).1 (hun l' hperm) a b hne hab hba
  · intro hagree l' hperm
    exact (hsort hperm).2 fun a b hne hab hba =>
      findSome?_perm_iff.2 (hagree a b hne hab hba) l' hperm

omit [DecidableEq κ] in
/-- Values under keys, where the key can be read off the value. -/
theorem unordered_map_iff {γ : Type*} {keys : List α → List κ} {g : List α → κ → γ} (key : γ → κ)
    (hkey : ∀ l k, key (g l k) = k) : Unordered (fun l => (keys l).map (g l)) l ↔
      Unordered keys l ∧ ∀ k ∈ keys l, Unordered (fun l => g l k) l := by
  have hread : ∀ l : List α, ((keys l).map (g l)).map key = keys l := by
    intro l
    rw [List.map_map]
    exact (List.map_congr_left fun k _ => hkey l k).trans (List.map_id _)
  constructor
  · intro hun
    have hkeys : Unordered keys l := fun l' hperm => by
      rw [← hread l', ← hread l]
      exact congrArg (List.map key) (hun l' hperm)
    refine ⟨hkeys, fun k hk l' hperm => ?_⟩
    have hmap := hun l' hperm
    dsimp only at hmap
    rw [hkeys l' hperm] at hmap
    exact List.map_inj_left.1 hmap k hk
  · rintro ⟨hkeys, hvalues⟩ l' hperm
    dsimp only
    rw [hkeys l' hperm]
    exact List.map_congr_left fun k hk => hvalues k hk l' hperm

theorem unordered_getD_iff {F : List α → Option β} {d : β}
    (hsome : ∀ l' : List α, l'.Perm l → (F l').isSome = true) :
    Unordered (fun l => (F l).getD d) l ↔ Unordered F l := by
  refine forall_congr' fun l' => forall_congr' fun hperm => ?_
  obtain ⟨u, hu⟩ := Option.isSome_iff_exists.1 (hsome l' hperm)
  obtain ⟨v, hv⟩ := Option.isSome_iff_exists.1 (hsome l (List.Perm.refl l))
  dsimp only
  rw [hu, hv, Option.getD_some, Option.getD_some, Option.some.injEq]

end OrderIndependence
